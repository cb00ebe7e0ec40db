import Mathlib.Algebra.Order.Group.Int
import Mathlib.Data.List.TakeWhile
import Slan.Lib.Json
import Slan.Lib.Text

/-! # The text of a JSON value

The writer puts no blanks between the tokens and no line breaks anywhere. The reader takes blanks
and every escape of the grammar; of numbers it takes the integers.
-/

namespace JsonText

/-! ## Writing -/

/-- The quotation mark. -/
def quote : Char := '\x22'

def backslash : Char := '\x5c'

/-- The characters that have an escape of two characters, and the second of these. -/
def shortEscapes : List (Char × Char) :=
  [(quote, quote), (backslash, backslash), ('\x08', 'b'), ('\t', 't'), ('\n', 'n'), ('\x0c', 'f'),
    ('\r', 'r')]

def isControl (c : Char) : Bool := c.toNat < 32

def escape (c : Char) : List Char :=
  match shortEscapes.lookup c with
  | some e => [backslash, e]
  | none =>
    if isControl c then
      [backslash, 'u', '0', '0', Nat.digitChar (c.toNat / 16), Nat.digitChar (c.toNat % 16)]
    else [c]

/-- A string up to its closing quotation mark. -/
def body (s : String) : List Char := s.toList.flatMap escape ++ [quote]

def number (n : Int) : List Char :=
  if n < 0 then '-' :: Nat.toDigits 10 n.natAbs else Nat.toDigits 10 n.natAbs

mutual

def write : Json → List Char
  | .null => "null".toList
  | .bool true => "true".toList
  | .bool false => "false".toList
  | .num n => number n
  | .str s => quote :: body s
  | .arr [] => ['[', ']']
  | .arr (item :: items) => '[' :: (write item ++ writeItems items)
  | .obj [] => ['\x7b', '\x7d']
  | .obj ((key, value) :: members) =>
    '\x7b' :: quote :: (body key ++ ':' :: (write value ++ writeMembers members))

/-- What follows an item of an array. -/
def writeItems : List Json → List Char
  | [] => [']']
  | item :: items => ',' :: (write item ++ writeItems items)

/-- What follows a member of an object. -/
def writeMembers : List (String × Json) → List Char
  | [] => ['\x7d']
  | (key, value) :: members =>
    ',' :: quote :: (body key ++ ':' :: (write value ++ writeMembers members))

end

/-! ## Reading -/

def isBlank (c : Char) : Bool := c == ' ' || c == '\t' || c == '\n' || c == '\r'

def skip (text : List Char) : List Char := text.dropWhile isBlank

/-- The text behind a literal. -/
def literal (word : String) (text : List Char) : Option (List Char) :=
  if word.toList.isPrefixOf text then some (text.drop word.length) else none

def hexValue (c : Char) : Option Nat :=
  if c.isDigit then some (c.toNat - 48)
  else if 'a' ≤ c ∧ c ≤ 'f' then some (c.toNat - 87)
  else if 'A' ≤ c ∧ c ≤ 'F' then some (c.toNat - 55)
  else none

/-- The number of four hexadecimal digits. -/
def codeUnit : List Char → Option (Nat × List Char)
  | a :: b :: c :: d :: rest => do
    let high := 4096 * (← hexValue a) + 256 * (← hexValue b)
    return (high + 16 * (← hexValue c) + (← hexValue d), rest)
  | _ => none

def ofNat (n : Nat) : Option Char := if h : n.isValidChar then some (Char.ofNatAux n h) else none

/-- The character behind `\u`; one beyond the basic plane is written as two surrogates. -/
def unicode (text : List Char) : Option (Char × List Char) := do
  let (high, rest) ← codeUnit text
  if 0xD800 ≤ high ∧ high < 0xDC00 then do
    let rest ← literal "\\u" rest
    let (low, rest) ← codeUnit rest
    if 0xDC00 ≤ low ∧ low < 0xE000 then do
      return (← ofNat (0x10000 + 1024 * (high - 0xD800) + (low - 0xDC00)), rest)
    else none
  else do
    return (← ofNat high, rest)

/-- The character that an escape stands for, from the character behind the backslash. -/
def unescape : List Char → Option (Char × List Char)
  | 'u' :: rest => unicode rest
  | e :: rest =>
    (((('/', '/') :: shortEscapes).find? fun escape => escape.2 == e).map Prod.fst).map
      fun c => (c, rest)
  | [] => none

/-- A string up to its closing quotation mark, with so many characters at most. -/
def readBody : Nat → List Char → Option (List Char × List Char)
  | fuel + 1, c :: rest =>
    if c = quote then some ([], rest)
    else if isControl c then none
    else do
      let (c, rest) ← if c = backslash then unescape rest else some (c, rest)
      let (cs, rest) ← readBody fuel rest
      return (c :: cs, rest)
  | _, _ => none

def digits (text : List Char) : Option (Nat × List Char) :=
  let ds := text.takeWhile Char.isDigit
  if ds = [] ∨ (ds.head? = some '0' ∧ 1 < ds.length) then none
  else some (Nat.ofDigitChars 10 ds 0, text.dropWhile Char.isDigit)

def readNumber (text : List Char) : Option (Int × List Char) :=
  match text with
  | '-' :: rest => (digits rest).map fun (n, rest) => (-n, rest)
  | _ => (digits text).map fun (n, rest) => (n, rest)

/-- A string with its quotation marks. -/
def readString (fuel : Nat) : List Char → Option (String × List Char)
  | c :: rest =>
    if c = quote then (readBody fuel rest).map fun (cs, rest) => (String.ofList cs, rest) else none
  | [] => none

mutual

/-- A value, nested so deep at most, and what is behind it. -/
def readValue : Nat → List Char → Option (Json × List Char)
  | 0, _ => none
  | fuel + 1, text =>
    match skip text with
    | [] => none
    | c :: rest =>
      if c = quote then (readString fuel (c :: rest)).map fun (s, rest) => (.str s, rest)
      else if c = '[' then
        match literal "]" (skip rest) with
        | some rest => some (.arr [], rest)
        | none => (readItems fuel rest).map fun (items, rest) => (.arr items, rest)
      else if c = '\x7b' then
        match literal "\x7d" (skip rest) with
        | some rest => some (.obj [], rest)
        | none => (readMembers fuel rest).map fun (members, rest) => (.obj members, rest)
      else if c = 'n' then (literal "null" (c :: rest)).map fun rest => (.null, rest)
      else if c = 't' then (literal "true" (c :: rest)).map fun rest => (.bool true, rest)
      else if c = 'f' then (literal "false" (c :: rest)).map fun rest => (.bool false, rest)
      else (readNumber (c :: rest)).map fun (n, rest) => (.num n, rest)

/-- The items of an array from its first one on. -/
def readItems : Nat → List Char → Option (List Json × List Char)
  | 0, _ => none
  | fuel + 1, text => do
    let (item, rest) ← readValue fuel text
    match skip rest with
    | ',' :: rest => do
      let (items, rest) ← readItems fuel rest
      return (item :: items, rest)
    | ']' :: rest => return ([item], rest)
    | _ => none

/-- The members of an object from its first one on. -/
def readMembers : Nat → List Char → Option (List (String × Json) × List Char)
  | 0, _ => none
  | fuel + 1, text => do
    let (key, rest) ← readString fuel (skip text)
    let rest ← literal ":" (skip rest)
    let (value, rest) ← readValue fuel rest
    match skip rest with
    | ',' :: rest => do
      let (members, rest) ← readMembers fuel rest
      return ((key, value) :: members, rest)
    | '\x7d' :: rest => return ([(key, value)], rest)
    | _ => none

end

/-- A text that is one value. -/
def read (text : List Char) : Option Json :=
  match readValue (text.length + 1) text with
  | some (value, rest) => if skip rest = [] then some value else none
  | none => none

/-! ## Strings -/

theorem mem_shortEscapes {c e : Char} (h : shortEscapes.lookup c = some e) :
    (c, e) ∈ shortEscapes := by
  obtain ⟨before, after, hsplit, -⟩ := List.lookup_eq_some_iff.mp h
  rw [hsplit]
  simp

theorem hexValue_digitChar : ∀ {n : Nat}, n < 16 → hexValue (Nat.digitChar n) = some n := by
  decide

theorem ofNat_toNat (c : Char) : ofNat c.toNat = some c := by
  have hvalid : c.toNat.isValidChar := c.valid
  rw [ofNat, dif_pos hvalid]
  rfl

/-- A control character is written with four digits. -/
theorem unicode_control {c : Char} (h : isControl c = true) (rest : List Char) :
    unicode ('0' :: '0' :: Nat.digitChar (c.toNat / 16) :: Nat.digitChar (c.toNat % 16) :: rest) =
      some (c, rest) := by
  have hc : c.toNat < 32 := by simpa [isControl] using h
  have hunit : codeUnit ('0' :: '0' :: Nat.digitChar (c.toNat / 16) ::
      Nat.digitChar (c.toNat % 16) :: rest) = some (c.toNat, rest) := by
    rw [codeUnit, hexValue_digitChar (by omega), hexValue_digitChar (by omega)]
    simp [hexValue]
    omega
  have hplain : ¬ (0xD800 ≤ c.toNat ∧ c.toNat < 0xDC00) := by omega
  simp [unicode, hunit, hplain, ofNat_toNat]

theorem readBody_backslash {text rest : List Char} {c : Char}
    (h : unescape text = some (c, rest)) (fuel : Nat) :
    readBody (fuel + 1) (backslash :: text) =
      (readBody fuel rest).map fun read => (c :: read.1, read.2) := by
  have hquote : backslash ≠ quote := by decide
  have hcontrol : isControl backslash = false := by decide
  cases hread : readBody fuel rest <;> simp [readBody, hquote, hcontrol, h, hread]

theorem readBody_plain {c : Char} (hquote : c ≠ quote) (hbackslash : c ≠ backslash)
    (hcontrol : isControl c = false) (fuel : Nat) (rest : List Char) :
    readBody (fuel + 1) (c :: rest) =
      (readBody fuel rest).map fun read => (c :: read.1, read.2) := by
  cases hread : readBody fuel rest <;> simp [readBody, hquote, hbackslash, hcontrol, hread]

theorem unescape_shortEscape {c e : Char} (h : (c, e) ∈ shortEscapes) (rest : List Char) :
    unescape (e :: rest) = some (c, rest) := by
  simp only [shortEscapes, List.mem_cons, Prod.mk.injEq, List.not_mem_nil, or_false] at h
  rcases h with ⟨rfl, rfl⟩ | ⟨rfl, rfl⟩ | ⟨rfl, rfl⟩ | ⟨rfl, rfl⟩ | ⟨rfl, rfl⟩ | ⟨rfl, rfl⟩ |
    ⟨rfl, rfl⟩ <;> rfl

theorem readBody_escape (c : Char) (fuel : Nat) (rest : List Char) :
    readBody (fuel + 1) (escape c ++ rest) =
      (readBody fuel rest).map fun read => (c :: read.1, read.2) := by
  unfold escape
  cases hshort : shortEscapes.lookup c with
  | some e => exact readBody_backslash (unescape_shortEscape (mem_shortEscapes hshort) rest) fuel
  | none =>
    have hnot (e : Char) : (c, e) ∉ shortEscapes := by
      intro hmem
      rw [List.lookup_eq_none_iff] at hshort
      simpa using hshort _ hmem
    cases hcontrol : isControl c with
    | true =>
      have hread : unescape ('u' :: '0' :: '0' :: Nat.digitChar (c.toNat / 16) ::
          Nat.digitChar (c.toNat % 16) :: rest) = some (c, rest) := unicode_control hcontrol rest
      exact readBody_backslash hread fuel
    | false =>
      refine readBody_plain ?_ ?_ hcontrol fuel rest
      · rintro rfl
        exact hnot quote (by simp [shortEscapes])
      · rintro rfl
        exact hnot backslash (by simp [shortEscapes])

theorem readBody_body (s : String) {fuel : Nat} (rest : List Char) (h : s.toList.length < fuel) :
    readBody fuel (body s ++ rest) = some (s.toList, rest) := by
  unfold body
  generalize s.toList = cs at h
  induction cs generalizing fuel with
  | nil =>
    obtain ⟨fuel, rfl⟩ := Nat.exists_eq_add_one_of_ne_zero (Nat.ne_of_gt h)
    simp [readBody]
  | cons c cs ih =>
    obtain ⟨fuel, rfl⟩ := Nat.exists_eq_add_one_of_ne_zero (by omega : fuel ≠ 0)
    have hread := ih (by simpa using h)
    simp only [List.flatMap_cons, List.append_assoc] at hread ⊢
    rw [readBody_escape, hread]
    rfl

theorem length_lt_body (s : String) : s.toList.length < (body s).length := by
  have hone (c : Char) : 1 ≤ (escape c).length := by
    unfold escape
    cases shortEscapes.lookup c <;> simp
    split <;> simp
  unfold body
  generalize s.toList = cs
  induction cs with
  | nil => simp
  | cons c cs ih =>
    have := hone c
    simp only [List.flatMap_cons, List.length_append, List.length_cons, List.length_nil] at ih ⊢
    omega

theorem readString_body (s : String) (fuel : Nat) (rest : List Char)
    (h : (body s).length ≤ fuel) :
    readString fuel (quote :: (body s ++ rest)) = some (s, rest) := by
  have hbody := readBody_body s rest (Nat.lt_of_lt_of_le (length_lt_body s) h)
  simp [readString, hbody]

/-! ## Numbers -/

/-- A digit of the text behind a number would be read as one of its own. -/
def NoDigit (rest : List Char) : Prop := rest.head?.all (fun c => !c.isDigit) = true

theorem noDigit_nil : NoDigit [] := rfl

theorem noDigit_cons {c : Char} (h : c.isDigit = false) (rest : List Char) :
    NoDigit (c :: rest) := by
  simp [NoDigit, h]

theorem takeWhile_isDigit {ds rest : List Char} (hds : ∀ d ∈ ds, d.isDigit = true)
    (h : NoDigit rest) : (ds ++ rest).takeWhile Char.isDigit = ds := by
  rw [List.takeWhile_append_of_pos hds]
  cases rest with
  | nil => simp
  | cons c rest =>
    have hc : c.isDigit = false := by simpa [NoDigit] using h
    simp [hc]

theorem dropWhile_isDigit {ds rest : List Char} (hds : ∀ d ∈ ds, d.isDigit = true)
    (h : NoDigit rest) : (ds ++ rest).dropWhile Char.isDigit = rest := by
  rw [List.dropWhile_append_of_pos hds]
  cases rest with
  | nil => simp
  | cons c rest =>
    have hc : c.isDigit = false := by simpa [NoDigit] using h
    simp [hc]

theorem digitChar_eq_zero : ∀ {n : Nat}, n < 10 → Nat.digitChar n = '0' → n = 0 := by
  decide

/-- No number is written with a zero in front. -/
theorem head?_toDigits (n : Nat) (h : (Nat.toDigits 10 n).head? = some '0') : n = 0 := by
  induction n using Nat.strongRecOn with
  | ind n ih =>
    by_cases hlt : n < 10
    · rw [Nat.toDigits_of_lt_base hlt] at h
      exact digitChar_eq_zero hlt (by simpa using h)
    · rw [Nat.toDigits_of_base_le (by decide) (by omega), List.head?_append,
        List.head?_eq_some_head Nat.toDigits_ne_nil, Option.some_or,
        ← List.head?_eq_some_head] at h
      have := ih (n / 10) (by omega) h
      omega

theorem isDigit_of_toDigits {n : Nat} {d : Char} {ds : List Char}
    (h : Nat.toDigits 10 n = d :: ds) : d.isDigit = true :=
  Nat.isDigit_of_mem_toDigits (b := 10) (n := n) (by decide) (by decide) (by simp [h])

theorem digits_toDigits (n : Nat) {rest : List Char} (h : NoDigit rest) :
    digits (Nat.toDigits 10 n ++ rest) = some (n, rest) := by
  have hds : ∀ d ∈ Nat.toDigits 10 n, d.isDigit = true := fun d hd =>
    Nat.isDigit_of_mem_toDigits (by decide) (by decide) hd
  have hzero : ¬ ((Nat.toDigits 10 n).head? = some '0' ∧ 1 < (Nat.toDigits 10 n).length) := by
    rintro ⟨hhead, hlen⟩
    obtain rfl := head?_toDigits n hhead
    simp at hlen
  simp only [digits, takeWhile_isDigit hds h, dropWhile_isDigit hds h,
    Nat.ofDigitChars_ten_toDigits, Nat.toDigits_ne_nil, hzero, or_self, if_false]

theorem readNumber_number (n : Int) {rest : List Char} (h : NoDigit rest) :
    readNumber (number n ++ rest) = some (n, rest) := by
  unfold number
  split_ifs with hneg
  · simp only [List.cons_append, readNumber, digits_toDigits n.natAbs h, Option.map_some]
    congr 2
    omega
  · have hread := digits_toDigits n.natAbs h
    obtain ⟨d, ds, hd⟩ := List.exists_cons_of_ne_nil (Nat.toDigits_ne_nil (n := n.natAbs) (b := 10))
    have hdigit : d.isDigit = true := isDigit_of_toDigits hd
    have hminus : d ≠ '-' := by
      rintro rfl
      exact absurd hdigit (by decide)
    have hn : (n.natAbs : Int) = n := by omega
    rw [hd, List.cons_append] at hread ⊢
    simp [readNumber, hminus, hread, hn]

/-! ## Values -/

theorem literal_append (word : String) (rest : List Char) :
    literal word (word.toList ++ rest) = some rest := by
  simp [literal, String.length]

theorem literal_cons_ne {c d : Char} (h : c ≠ d) (rest : List Char) :
    literal (String.singleton c) (d :: rest) = none := by
  simp [literal, h]

theorem skip_cons {c : Char} (h : isBlank c = false) (rest : List Char) :
    skip (c :: rest) = c :: rest := by
  simp [skip, h]

theorem isBlank_of_isDigit {c : Char} (h : c.isDigit = true) : isBlank c = false := by
  cases hc : isBlank c with
  | false => rfl
  | true =>
    simp only [isBlank, Bool.or_eq_true, beq_iff_eq] at hc
    rcases hc with ((rfl | rfl) | rfl) | rfl <;> exact absurd h (by decide)

/-- How a written number starts. -/
theorem exists_number_cons (n : Int) :
    ∃ c cs, number n = c :: cs ∧ (c = '-' ∨ c.isDigit = true) := by
  unfold number
  split_ifs
  · exact ⟨'-', _, rfl, .inl rfl⟩
  · obtain ⟨d, ds, hd⟩ := List.exists_cons_of_ne_nil (Nat.toDigits_ne_nil (n := n.natAbs) (b := 10))
    exact ⟨d, ds, hd, .inr (isDigit_of_toDigits hd)⟩

/-- How a written value starts: with no blank, and not as an array ends. -/
theorem exists_write_cons (v : Json) :
    ∃ c cs, write v = c :: cs ∧ isBlank c = false ∧ c ≠ ']' := by
  cases v with
  | null => exact ⟨'n', _, rfl, by decide, by decide⟩
  | bool b => cases b <;> exact ⟨_, _, rfl, by decide, by decide⟩
  | num n =>
    obtain ⟨c, cs, hn, hc⟩ := exists_number_cons n
    refine ⟨c, cs, by rw [write, hn], ?_, ?_⟩
    · rcases hc with rfl | hc
      · decide
      · exact isBlank_of_isDigit hc
    · rintro rfl
      exact absurd hc (by decide)
  | str s => exact ⟨quote, _, rfl, by decide, by decide⟩
  | arr items => cases items <;> exact ⟨'[', _, rfl, by decide, by decide⟩
  | obj members => cases members <;> exact ⟨'\x7b', _, rfl, by decide, by decide⟩

theorem skip_write (v : Json) (rest : List Char) : skip (write v ++ rest) = write v ++ rest := by
  obtain ⟨c, cs, hv, hc, -⟩ := exists_write_cons v
  rw [hv]
  exact skip_cons hc _

theorem readValue_number (n : Int) {fuel : Nat} {rest : List Char} (h : NoDigit rest) :
    readValue (fuel + 1) (number n ++ rest) = some (.num n, rest) := by
  have hread := readNumber_number n h
  obtain ⟨c, cs, hn, hc⟩ := exists_number_cons n
  have hne (d : Char) (hd : d ≠ '-') (hd' : d.isDigit = false) : c ≠ d := by
    rintro rfl
    rcases hc with rfl | hc
    · exact hd rfl
    · simp [hd'] at hc
  have hblank : isBlank c = false := by
    rcases hc with rfl | hc
    · decide
    · exact isBlank_of_isDigit hc
  rw [hn, List.cons_append] at hread ⊢
  simp only [readValue, skip_cons hblank]
  rw [if_neg (hne _ (by decide) (by decide)), if_neg (hne _ (by decide) (by decide)),
    if_neg (hne _ (by decide) (by decide)), if_neg (hne _ (by decide) (by decide)),
    if_neg (hne _ (by decide) (by decide)), if_neg (hne _ (by decide) (by decide)), hread]
  rfl

theorem readMembers_cons {key : String} {value : Json} {fuel : Nat} {rest behind : List Char}
    {members : List (String × Json)} {text : List Char}
    (hkey : (body key).length ≤ fuel) (hvalue : readValue fuel text = some (value, ',' :: behind))
    (hmembers : readMembers fuel behind = some (members, rest)) :
    readMembers (fuel + 1) (quote :: (body key ++ ':' :: text)) =
      some ((key, value) :: members, rest) := by
  have hskip : skip (quote :: (body key ++ ':' :: text)) = quote :: (body key ++ ':' :: text) := rfl
  have hcolon : literal ":" (skip (':' :: text)) = some text := by
    rw [skip_cons (by decide)]
    exact literal_append ":" text
  simp [readMembers, hskip, readString_body key fuel (':' :: text) hkey, hcolon, hvalue,
    skip_cons (c := ',') (by decide), hmembers]

theorem readMembers_last {key : String} {value : Json} {fuel : Nat} {rest text : List Char}
    (hkey : (body key).length ≤ fuel)
    (hvalue : readValue fuel text = some (value, '\x7d' :: rest)) :
    readMembers (fuel + 1) (quote :: (body key ++ ':' :: text)) = some ([(key, value)], rest) := by
  have hskip : skip (quote :: (body key ++ ':' :: text)) = quote :: (body key ++ ':' :: text) := rfl
  have hcolon : literal ":" (skip (':' :: text)) = some text := by
    rw [skip_cons (by decide)]
    exact literal_append ":" text
  simp [readMembers, hskip, readString_body key fuel (':' :: text) hkey, hcolon, hvalue,
    skip_cons (c := '\x7d') (by decide)]

mutual

/-- A written value is read back whatever stands behind it, a digit apart. -/
theorem readValue_write : ∀ (v : Json) (fuel : Nat) (rest : List Char),
    (write v).length ≤ fuel → NoDigit rest → readValue fuel (write v ++ rest) = some (v, rest)
  | v, 0, rest, hfuel, _ => by
    obtain ⟨c, cs, hv, -⟩ := exists_write_cons v
    simp [hv] at hfuel
  | .num n, fuel + 1, rest, _, hrest => readValue_number n hrest
  | .null, fuel + 1, rest, _, _ => rfl
  | .bool true, fuel + 1, rest, _, _ => rfl
  | .bool false, fuel + 1, rest, _, _ => rfl
  | .str s, fuel + 1, rest, hfuel, _ => by
    have hread := readString_body s fuel rest (by simpa [write] using hfuel)
    have hskip : skip (quote :: (body s ++ rest)) = quote :: (body s ++ rest) := rfl
    simp [write, readValue, hskip, hread]
  | .arr [], fuel + 1, rest, _, _ => rfl
  | .arr (item :: items), fuel + 1, rest, hfuel, _ => by
    have hread := readItems_write item items fuel rest
      (by simpa [write] using hfuel)
    have hnone : literal "]" (write item ++ (writeItems items ++ rest)) = none := by
      obtain ⟨c, cs, hv, -, hc⟩ := exists_write_cons item
      rw [hv]
      exact literal_cons_ne (Ne.symm hc) _
    have hskip : skip ('[' :: (write item ++ (writeItems items ++ rest))) =
      '[' :: (write item ++ (writeItems items ++ rest)) := rfl
    have hquote : '[' ≠ quote := by decide
    simp only [List.append_assoc] at hread
    simp [write, readValue, hskip, hquote, skip_write, hnone, hread]
  | .obj [], fuel + 1, rest, _, _ => rfl
  | .obj ((key, value) :: members), fuel + 1, rest, hfuel, _ => by
    have hread := readMembers_write key value members fuel rest
      (by simpa [write] using hfuel)
    have hnone (text : List Char) : literal "\x7d" (skip (quote :: text)) = none := rfl
    have hskip (text : List Char) : skip ('\x7b' :: text) = '\x7b' :: text := rfl
    have hquote : '\x7b' ≠ quote := by decide
    have harray : '\x7b' ≠ '[' := by decide
    simp [write, readValue, hskip, hquote, harray, hnone, hread]

theorem readItems_write : ∀ (item : Json) (items : List Json) (fuel : Nat) (rest : List Char),
    (write item ++ writeItems items).length ≤ fuel →
      readItems fuel (write item ++ writeItems items ++ rest) = some (item :: items, rest)
  | item, items, 0, rest, hfuel => by
    obtain ⟨c, cs, hv, -⟩ := exists_write_cons item
    simp [hv] at hfuel
  | item, [], fuel + 1, rest, hfuel => by
    have hread := readValue_write item fuel (']' :: rest)
      (by simpa [writeItems] using hfuel) (noDigit_cons (by decide) rest)
    simp [writeItems, readItems, hread, skip_cons (c := ']') (by decide)]
  | item, next :: items, fuel + 1, rest, hfuel => by
    simp only [writeItems, List.length_append, List.length_cons] at hfuel
    have hread := readValue_write item fuel
      (',' :: (write next ++ (writeItems items ++ rest))) (by omega)
      (noDigit_cons (by decide) _)
    have hitems := readItems_write next items fuel rest
      (by simp only [List.length_append]; omega)
    simp only [List.append_assoc] at hitems
    simp [writeItems, readItems, hread, skip_cons (c := ',') (by decide), hitems]

theorem readMembers_write : ∀ (key : String) (value : Json) (members : List (String × Json))
    (fuel : Nat) (rest : List Char),
    (quote :: (body key ++ ':' :: (write value ++ writeMembers members))).length ≤ fuel →
      readMembers fuel
          (quote :: (body key ++ ':' :: (write value ++ (writeMembers members ++ rest)))) =
        some ((key, value) :: members, rest)
  | key, value, members, 0, rest, hfuel => by simp at hfuel
  | key, value, [], fuel + 1, rest, hfuel => by
    simp only [writeMembers, List.length_append, List.length_cons, List.length_nil] at hfuel
    exact readMembers_last (by omega)
      (readValue_write value fuel _ (by omega) (noDigit_cons (by decide) rest))
  | key, value, (next, nextValue) :: members, fuel + 1, rest, hfuel => by
    simp only [writeMembers, List.length_append, List.length_cons] at hfuel
    refine readMembers_cons (by omega)
      (readValue_write value fuel _ (by omega) (noDigit_cons (by decide) _)) ?_
    have := readMembers_write next nextValue members fuel rest
      (by simp only [List.length_append, List.length_cons]; omega)
    simpa using this

end

theorem read_write (v : Json) : read (write v) = some v := by
  have hread := readValue_write v ((write v).length + 1) [] (by omega) noDigit_nil
  rw [List.append_nil] at hread
  simp [read, hread, skip]

/-- A line with its end is read like the value it holds. -/
theorem read_line (v : Json) : read (write v ++ ['\n']) = some v := by
  have hread := readValue_write v ((write v ++ ['\n']).length + 1) ['\n']
    (by simp only [List.length_append]; omega) (noDigit_cons (by decide) [])
  rw [read, hread]
  rfl

/-! ## The characters of a written text -/

theorem isControl_escape (c : Char) : ∀ d ∈ escape c, isControl d = false := by
  intro d hd
  unfold escape at hd
  cases hshort : shortEscapes.lookup c with
  | some e =>
    have hmem := mem_shortEscapes hshort
    have he : ∀ escape ∈ shortEscapes, isControl escape.2 = false := by decide
    simp only [hshort, List.mem_cons, List.not_mem_nil, or_false] at hd
    rcases hd with rfl | rfl
    · decide
    · exact he _ hmem
  | none =>
    simp only [hshort] at hd
    split_ifs at hd with hcontrol
    · have hdigit : ∀ n < 16, isControl (Nat.digitChar n) = false := by decide
      have hc : c.toNat < 32 := by simpa [isControl] using hcontrol
      simp only [List.mem_cons, List.not_mem_nil, or_false] at hd
      rcases hd with rfl | rfl | rfl | rfl | rfl | rfl
      · decide
      · decide
      · decide
      · decide
      · exact hdigit _ (by omega)
      · exact hdigit _ (by omega)
    · obtain rfl := List.mem_singleton.mp hd
      simpa using hcontrol

theorem isControl_body (s : String) : ∀ d ∈ body s, isControl d = false := by
  intro d hd
  rw [body, List.mem_append, List.mem_flatMap] at hd
  rcases hd with ⟨c, -, hc⟩ | hd
  · exact isControl_escape c d hc
  · obtain rfl := List.mem_singleton.mp hd
    decide

theorem isControl_of_isDigit {c : Char} (h : c.isDigit = true) : isControl c = false := by
  simp only [Char.isDigit, Bool.and_eq_true, decide_eq_true_eq] at h
  have hle : 48 ≤ c.toNat := UInt32.le_iff_toNat_le.mp h.1
  simp only [isControl, decide_eq_false_iff_not]
  omega

theorem isControl_of_all {text : List Char} (h : text.all (fun d => !isControl d) = true) :
    ∀ d ∈ text, isControl d = false := by
  simpa using h

theorem isControl_number (n : Int) : ∀ d ∈ number n, isControl d = false := by
  have hdigits : ∀ d ∈ Nat.toDigits 10 n.natAbs, isControl d = false := fun d hd =>
    isControl_of_isDigit (Nat.isDigit_of_mem_toDigits (by decide) (by decide) hd)
  intro d hd
  unfold number at hd
  split_ifs at hd
  · rcases List.mem_cons.mp hd with rfl | hd
    · decide
    · exact hdigits d hd
  · exact hdigits d hd

mutual

/-- A written value has no control characters, hence no line breaks. -/
theorem isControl_write : ∀ (v : Json), ∀ d ∈ write v, isControl d = false
  | .null, d, hd => isControl_of_all rfl d hd
  | .bool true, d, hd => isControl_of_all rfl d hd
  | .bool false, d, hd => isControl_of_all rfl d hd
  | .num n, d, hd => isControl_number n d hd
  | .str s, d, hd => by
    rcases List.mem_cons.mp hd with rfl | hd
    · decide
    · exact isControl_body s d hd
  | .arr [], d, hd => isControl_of_all rfl d hd
  | .arr (item :: items), d, hd => by
    simp only [write, List.mem_cons, List.mem_append] at hd
    rcases hd with rfl | hd | hd
    · decide
    · exact isControl_write item d hd
    · exact isControl_writeItems items d hd
  | .obj [], d, hd => isControl_of_all rfl d hd
  | .obj ((key, value) :: members), d, hd => by
    simp only [write, List.mem_cons, List.mem_append] at hd
    rcases hd with rfl | rfl | hd | rfl | hd | hd
    · decide
    · decide
    · exact isControl_body key d hd
    · decide
    · exact isControl_write value d hd
    · exact isControl_writeMembers members d hd

theorem isControl_writeItems : ∀ (items : List Json), ∀ d ∈ writeItems items, isControl d = false
  | [], d, hd => by
    obtain rfl := List.mem_singleton.mp hd
    decide
  | item :: items, d, hd => by
    simp only [writeItems, List.mem_cons, List.mem_append] at hd
    rcases hd with rfl | hd | hd
    · decide
    · exact isControl_write item d hd
    · exact isControl_writeItems items d hd

theorem isControl_writeMembers : ∀ (members : List (String × Json)),
    ∀ d ∈ writeMembers members, isControl d = false
  | [], d, hd => by
    obtain rfl := List.mem_singleton.mp hd
    decide
  | (key, value) :: members, d, hd => by
    simp only [writeMembers, List.mem_cons, List.mem_append] at hd
    rcases hd with rfl | rfl | hd | rfl | hd | hd
    · decide
    · decide
    · exact isControl_body key d hd
    · decide
    · exact isControl_write value d hd
    · exact isControl_writeMembers members d hd

end

/-! ## Writers and readers of others -/

/-- An encoder whose texts are read back, with the end of a line behind them too, and that writes
no control characters. -/
structure Writer where
  text : Json → List Char
  read_text : ∀ v, read (text v) = some v
  read_line : ∀ v, read (text v ++ ['\n']) = some v
  printable : ∀ v, ∀ c ∈ text v, isControl c = false

/-- The one that puts no blanks and no escapes that it need not. -/
def compact : Writer where
  text := write
  read_text := read_write
  read_line := JsonText.read_line
  printable := isControl_write

mutual

/-- How deep the arrays and objects of a value are nested. -/
def depth : Json → Nat
  | .arr items => depthItems items + 1
  | .obj members => depthMembers members + 1
  | _ => 0

def depthItems : List Json → Nat
  | [] => 0
  | item :: items => max (depth item) (depthItems items)

def depthMembers : List (String × Json) → Nat
  | [] => 0
  | (_, value) :: members => max (depth value) (depthMembers members)

end

theorem not_isDigit_of_isSpace {c : Char} (h : Text.isSpace c = true) : c.isDigit = false := by
  by_contra hdigit
  simp only [Char.isDigit, Bool.not_eq_false, Bool.and_eq_true, decide_eq_true_eq] at hdigit
  have hle : 48 ≤ c.toNat := UInt32.le_iff_toNat_le.mp hdigit.1
  have hge : c.toNat ≤ 57 := UInt32.le_iff_toNat_le.mp hdigit.2
  simp only [Text.isSpace, Bool.or_eq_true, Bool.and_eq_true, decide_eq_true_eq, beq_iff_eq] at h
  omega

/-- What is read as a value is not blank, whatever counts as a space. -/
theorem exists_of_read {text : List Char} {v : Json} (h : read text = some v) :
    ∃ c ∈ text, Text.isSpace c = false := by
  by_contra! hblank
  simp only [Bool.not_eq_false] at hblank
  have hnone : readValue (text.length + 1) text = none := by
    unfold readValue
    cases hskip : skip text with
    | nil => rfl
    | cons c rest =>
      have hmem : c ∈ text := (List.dropWhile_sublist _).subset (by
        rw [← skip, hskip]
        exact List.mem_cons_self)
      have hspace := hblank c hmem
      have hne (d : Char) (hd : Text.isSpace d = false) : c ≠ d := by
        rintro rfl
        simp [hspace] at hd
      have hdigit := not_isDigit_of_isSpace hspace
      simp only
      rw [if_neg (hne _ (by decide)), if_neg (hne _ (by decide)), if_neg (hne _ (by decide)),
        if_neg (hne _ (by decide)), if_neg (hne _ (by decide)), if_neg (hne _ (by decide))]
      simp [readNumber, hne '-' (by decide), digits, hdigit]
  simp [read, hnone] at h

end JsonText
