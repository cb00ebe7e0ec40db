import Slan.Lib.Http
import Slan.Lib.Text

/-! # `transport.rs`: what the client makes of a response of the controller

The response is given by the bytes that were read until the connection ended.
-/

namespace Slan.Client

structure HttpResponse where
  status : Nat
  bodyJson : List UInt8
  deriving DecidableEq, Repr

namespace HttpTransport

/-- What is before the first empty line, and what is after it. -/
def splitHead : List UInt8 → Option (List UInt8 × List UInt8)
  | [] => none
  | b :: rest =>
    if [13, 10, 13, 10].isPrefixOf (b :: rest) then some ([], rest.drop 3)
    else (splitHead rest).map fun (head, body) => (b :: head, body)

/-- `String::from_utf8`, with the text of its error. -/
def fromUtf8 (utf8Error : List UInt8 → String) (bytes : List UInt8) : Except String (List Char) :=
  match bytes.toByteArray.utf8Decode? with
  | some text => .ok text.toList
  | none => .error (utf8Error bytes)

/-- `str::lines`, its first. -/
def firstLine (text : List Char) : Option (List Char) :=
  if text = [] then none
  else
    let line := text.takeWhile (· ≠ '\n')
    if '\n' ∈ text ∧ line.getLast? = some '\r' then some line.dropLast else some line

/-- `str::split_whitespace`, its word at a place. -/
def nthWord : Nat → List Char → Option (List Char)
  | n, text =>
    match text.dropWhile Text.isSpace, n with
    | [], _ => none
    | c :: cs, 0 => some ((c :: cs).takeWhile fun c => !Text.isSpace c)
    | c :: cs, n + 1 => nthWord n ((c :: cs).dropWhile fun c => !Text.isSpace c)

/-- Of `str::parse::<u16>`, the digits behind the sign. -/
def parseU16Digits (n : Nat) : List Char → Except String Nat
  | [] => .ok n
  | c :: cs =>
    if ¬c.isDigit then .error "invalid digit found in string"
    else
      let n := n * 10 + (c.toNat - '0'.toNat)
      if 65535 < n then .error "number too large to fit in target type" else parseU16Digits n cs

def parseU16 : List Char → Except String Nat
  | [] => .error "cannot parse integer from empty string"
  | ['+'] => .error "invalid digit found in string"
  | '+' :: cs => parseU16Digits 0 cs
  | cs => parseU16Digits 0 cs

def parseHttpResponse (utf8Error : List UInt8 → String) (raw : List UInt8) :
    Except String HttpResponse := do
  let some (headerBytes, body) := splitHead raw
    | .error "invalid http response: missing header separator"
  let headerText ← fromUtf8 utf8Error headerBytes
  let some statusLine := firstLine headerText
    | .error "invalid http response: missing status line"
  let some code := nthWord 1 statusLine
    | .error ("invalid http status line: " ++ String.ofList statusLine)
  let status ← parseU16 code
  return ⟨status, body⟩

/-! ## The head -/

theorem splitHead_append {line : List UInt8} (h : 13 ∉ line) (rest : List UInt8) :
    splitHead (line ++ rest) = (splitHead rest).map fun (head, body) => (line ++ head, body) := by
  induction line with
  | nil => simp
  | cons b line ih =>
    have hb : ¬[13, 10, 13, 10].isPrefixOf (b :: (line ++ rest)) = true := by
      have hne : b ≠ 13 := fun hb => h (hb ▸ List.mem_cons_self)
      simp [List.isPrefixOf, hne.symm]
    rw [List.cons_append, splitHead, if_neg hb, ih fun hmem => h (List.mem_cons_of_mem b hmem),
      Option.map_map]
    rfl

/-- The end of a line is no empty line where another line follows. -/
theorem splitHead_crlf {line : List UInt8} (h : Http.IsLine line) (rest : List UInt8) :
    splitHead (Http.crlf ++ line ++ rest) =
      (splitHead rest).map fun (head, body) => (Http.crlf ++ line ++ head, body) := by
  obtain ⟨hne, hmem⟩ := h
  obtain ⟨b, line, rfl⟩ := List.exists_cons_of_ne_nil hne
  have hb : b ≠ 13 := fun hb => hmem (hb ▸ List.mem_cons_self)
  have hfirst : ¬[13, 10, 13, 10].isPrefixOf (13 :: 10 :: b :: (line ++ rest)) = true := by
    simp [List.isPrefixOf, hb.symm]
  have hsecond : ¬[13, 10, 13, 10].isPrefixOf (10 :: b :: (line ++ rest)) = true := by
    simp [List.isPrefixOf]
  change splitHead (13 :: 10 :: b :: (line ++ rest)) = _
  rw [splitHead, if_neg hfirst, splitHead, if_neg hsecond, ← List.cons_append,
    splitHead_append hmem, Option.map_map, Option.map_map]
  rfl

theorem splitHead_fields (fields : List Http.HeaderField) (body : List UInt8) :
    splitHead ((fields.flatMap fun field => Http.crlf ++ field.line) ++
        (Http.crlf ++ Http.crlf ++ body)) =
      some (fields.flatMap fun field => Http.crlf ++ field.line, body) := by
  induction fields with
  | nil => rfl
  | cons field fields ih =>
    rw [List.flatMap_cons, List.append_assoc, splitHead_crlf field.isLine, ih]
    rfl

theorem splitHead_lines (head : Http.ResponseHead) (body : List UInt8) :
    splitHead (head.lines ++ Http.crlf ++ Http.crlf ++ body) = some (head.lines, body) := by
  unfold Http.ResponseHead.lines
  rw [List.append_assoc, List.append_assoc, List.append_assoc,
    splitHead_append head.isLine_statusLine.2, ← List.append_assoc Http.crlf, splitHead_fields]
  rfl

/-! ## The status -/

def digitChar (n : Nat) : Char := Char.ofNat (48 + n % 10)

theorem digitChar_cases {P : Char → Prop} (h : ∀ d < 10, P (Char.ofNat (48 + d))) (n : Nat) :
    P (digitChar n) := h (n % 10) (Nat.mod_lt n (by decide))

theorem utf8_digitChar (n : Nat) : String.utf8EncodeChar (digitChar n) = [Http.digitByte n] := by
  have hall : ∀ d < 10, String.utf8EncodeChar (Char.ofNat (48 + d)) = [UInt8.ofNat (48 + d)] := by
    decide
  exact hall (n % 10) (Nat.mod_lt n (by decide))

theorem isSpace_digitChar (n : Nat) : Text.isSpace (digitChar n) = false :=
  digitChar_cases (P := fun c => Text.isSpace c = false) (by decide) n

theorem digitChar_ne (n : Nat) {c : Char} (h : c.isDigit = false) : digitChar n ≠ c := by
  rintro rfl
  have hdigit := digitChar_cases (P := fun c => c.isDigit = true) (by decide) n
  rw [h] at hdigit
  cases hdigit

theorem parseU16Digits_digitChar (acc n : Nat) (cs : List Char) (h : acc * 10 + n % 10 ≤ 65535) :
    parseU16Digits acc (digitChar n :: cs) = parseU16Digits (acc * 10 + n % 10) cs := by
  have hdigit := digitChar_cases (P := fun c => c.isDigit = true) (by decide) n
  have hvalue : (digitChar n).toNat - '0'.toNat = n % 10 := by
    have hall : ∀ d < 10, (Char.ofNat (48 + d)).toNat - '0'.toNat = d := by decide
    exact hall (n % 10) (Nat.mod_lt n (by decide))
  rw [parseU16Digits, if_neg (by simp [hdigit]), hvalue]
  dsimp only
  rw [if_neg (Nat.not_lt.mpr h)]

/-- The three digits of a status. -/
def codeChars (status : Nat) : List Char :=
  [digitChar (status / 100), digitChar (status / 10), digitChar status]

theorem parseU16_codeChars {status : Nat} (h : status < 1000) :
    parseU16 (codeChars status) = .ok status := by
  have hplus := digitChar_ne (status / 100) (c := '+') rfl
  have hparse : parseU16 (codeChars status) = parseU16Digits 0 (codeChars status) := by
    unfold parseU16 codeChars
    split
    · rename_i heq
      cases heq
    · rename_i heq
      exact absurd (List.cons.inj heq).1 hplus
    · rename_i heq
      exact absurd (List.cons.inj heq).1 hplus
    · rfl
  rw [hparse, codeChars, parseU16Digits_digitChar _ _ _ (by omega),
    parseU16Digits_digitChar _ _ _ (by omega), parseU16Digits_digitChar _ _ _ (by omega),
    parseU16Digits]
  apply congrArg
  omega

theorem utf8_codeChars (head : Http.ResponseHead) :
    (codeChars head.status).flatMap String.utf8EncodeChar = head.statusCode := by
  simp only [codeChars, List.flatMap_cons, List.flatMap_nil, utf8_digitChar]
  rfl

def versionChars : List Char := ['H', 'T', 'T', 'P', '/', '1', '.', '1', ' ']

/-- What a status line begins with. -/
def lineStart (code : List Char) : List Char := versionChars ++ code ++ [' ']

theorem utf8_lineStart (head : Http.ResponseHead) : (lineStart (codeChars head.status)).utf8Encode =
    (Http.version ++ head.statusCode ++ [32]).toByteArray := by
  unfold List.utf8Encode lineStart
  have hversion : versionChars.flatMap String.utf8EncodeChar = Http.version := by decide
  rw [List.flatMap_append, List.flatMap_append, utf8_codeChars, hversion]
  rfl

theorem firstLine_lineStart {code : List Char} (hcode : '\n' ∉ code) (rest : List Char) :
    ∃ rest', firstLine (lineStart code ++ rest) = some (lineStart code ++ rest') := by
  have hstart : ∀ c ∈ lineStart code, (decide (c ≠ '\n')) = true := by
    intro c hc
    rw [decide_eq_true_iff]
    rintro rfl
    rcases List.mem_append.mp hc with hc | hc
    · rcases List.mem_append.mp hc with hc | hc
      · revert hc
        decide
      · exact hcode hc
    · revert hc
      decide
  unfold firstLine
  rw [if_neg (by simp [lineStart]), List.takeWhile_append_of_pos hstart]
  dsimp only
  split
  · rename_i hends
    refine ⟨(rest.takeWhile (· ≠ '\n')).dropLast, ?_⟩
    rw [List.dropLast_append_of_ne_nil]
    intro hnil
    rw [hnil, List.append_nil] at hends
    simp [lineStart] at hends
  · exact ⟨_, rfl⟩

theorem nthWord_lineStart {code : List Char} (hne : code ≠ [])
    (hcode : ∀ c ∈ code, Text.isSpace c = false) (rest : List Char) :
    nthWord 1 (lineStart code ++ rest) = some code := by
  have hword : ∀ c ∈ code, (!Text.isSpace c) = true := fun c hc => by rw [hcode c hc]; rfl
  obtain ⟨c, cs, rfl⟩ := List.exists_cons_of_ne_nil hne
  have hc := hcode c List.mem_cons_self
  have hstart : lineStart (c :: cs) ++ rest = versionChars ++ (c :: cs ++ (' ' :: rest)) := by
    simp [lineStart]
  rw [hstart]
  change nthWord 0 (' ' :: (c :: cs ++ (' ' :: rest))) = _
  have hskip : (' ' :: (c :: cs ++ (' ' :: rest))).dropWhile Text.isSpace =
      c :: (cs ++ (' ' :: rest)) := by
    rw [List.dropWhile_cons_of_pos (by decide), List.cons_append, List.dropWhile_cons_of_neg]
    simp [hc]
  unfold nthWord
  rw [hskip]
  dsimp only
  rw [← List.cons_append, List.takeWhile_append_of_pos hword, List.takeWhile_cons_of_neg (by decide),
    List.append_nil]

theorem codeChars_spec (status : Nat) :
    codeChars status ≠ [] ∧ ∀ c ∈ codeChars status, Text.isSpace c = false ∧ c ≠ '\n' := by
  refine ⟨List.cons_ne_nil _ _, fun c hc => ?_⟩
  have hdigit : ∃ n, c = digitChar n := by
    simp only [codeChars, List.mem_cons, List.not_mem_nil, or_false] at hc
    rcases hc with hc | hc | hc <;> exact ⟨_, hc⟩
  obtain ⟨n, rfl⟩ := hdigit
  exact ⟨isSpace_digitChar n, digitChar_ne n (c := '\n') rfl⟩

/-! ## Responses -/

variable {utf8Error : List UInt8 → String}

/-- The head of a response is text in UTF-8. -/
def IsText (head : Http.ResponseHead) : Prop := head.lines.toByteArray.IsValidUTF8

theorem fromUtf8_eq_ok {head : Http.ResponseHead} {text : List Char}
    (h : fromUtf8 utf8Error head.lines = .ok text) :
    ∃ rest, text = lineStart (codeChars head.status) ++ rest := by
  unfold fromUtf8 at h
  split at h
  · rename_i decoded hdecoded
    obtain rfl := Except.ok.inj h
    have hencoded : decoded.toList.utf8Encode = head.lines.toByteArray := by
      have hget := ByteArray.utf8Encode_get_utf8Decode? (b := head.lines.toByteArray)
        (h := by rw [hdecoded]; rfl)
      simpa only [hdecoded, Option.get_some] using hget
    have hlines : head.lines.toByteArray = (Http.version ++ head.statusCode ++ [32]).toByteArray ++
        (head.reason.bytes ++ head.fields.flatMap fun field =>
          Http.crlf ++ field.line).toByteArray := by
      rw [← List.toByteArray_append]
      unfold Http.ResponseHead.lines Http.ResponseHead.statusLine
      simp only [List.append_assoc]
    rw [hlines, ← utf8_lineStart] at hencoded
    obtain ⟨rest, hrest⟩ := List.isPrefix_of_utf8Encode_append_eq_utf8Encode _ hencoded.symm
    exact ⟨rest, hrest.symm⟩
  · cases h

theorem fromUtf8_isOk_iff (head : Http.ResponseHead) :
    (∃ text, fromUtf8 utf8Error head.lines = .ok text) ↔ IsText head := by
  unfold IsText
  rw [← ByteArray.isSome_utf8Decode?_iff, Option.isSome_iff_exists]
  unfold fromUtf8
  cases head.lines.toByteArray.utf8Decode? with
  | none => simp
  | some text => simp

/-- What is made of a response: all that came behind the head, whatever the head says of it. -/
theorem parseHttpResponse_bytes (response : Http.Response) :
    parseHttpResponse utf8Error response.bytes =
      (fromUtf8 utf8Error response.head.lines).map fun _ =>
        ⟨response.head.status, response.bodyBytes⟩ := by
  unfold parseHttpResponse Http.Response.bytes
  rw [splitHead_lines]
  cases htext : fromUtf8 utf8Error response.head.lines with
  | error err => simp only [htext, bind, Except.bind, Except.map]
  | ok text =>
    obtain ⟨rest, rfl⟩ := fromUtf8_eq_ok htext
    obtain ⟨hne, hspec⟩ := codeChars_spec response.head.status
    obtain ⟨rest', hline⟩ := firstLine_lineStart (fun hmem => (hspec _ hmem).2 rfl) rest
    have hword := nthWord_lineStart hne (fun c hc => (hspec c hc).1) rest'
    have hstatus := parseU16_codeChars response.head.status_lt
    simp only [htext, hline, hword, hstatus, bind, Except.bind, pure, Except.pure, Except.map]

/-- A response that is whole gives its status and its body, and one that is cut short an error. -/
def ReadsCompletely (utf8Error : List UInt8 → String) (response : Http.Response) : Prop :=
  if response.isWhole then
    parseHttpResponse utf8Error response.bytes = .ok ⟨response.head.status, response.framed.body⟩
  else ∃ err, parseHttpResponse utf8Error response.bytes = .error err

/-- Whole, not in chunks and with a head in UTF-8; or cut short, with a head that is not. -/
def ReadAsItComes (response : Http.Response) : Prop :=
  if response.isWhole then IsText response.head ∧ response.isChunked = false
  else ¬IsText response.head

theorem readsCompletely_iff (utf8Error : List UInt8 → String) (response : Http.Response) :
    ReadsCompletely utf8Error response ↔ ReadAsItComes response := by
  unfold ReadsCompletely ReadAsItComes
  have htext := @fromUtf8_isOk_iff utf8Error response.head
  rw [parseHttpResponse_bytes, ← htext]
  by_cases hwhole : response.isWhole = true
  · rw [if_pos hwhole, if_pos hwhole, ← Http.Response.bytes_eq_body_iff hwhole]
    cases fromUtf8 utf8Error response.head.lines with
    | error err => simp [Except.map]
    | ok text => simp [Except.map]
  · rw [if_neg hwhole, if_neg hwhole]
    cases fromUtf8 utf8Error response.head.lines with
    | error err => simp [Except.map]
    | ok text => simp [Except.map]

/-- `200 OK` with an empty object, in one chunk. -/
def chunkedObject : Http.Response where
  head := {
    status := 200
    reason := ⟨Text.utf8 "OK", by decide +kernel⟩
    fields := [⟨Text.utf8 "Transfer-Encoding", ⟨Text.utf8 "chunked", by decide +kernel⟩,
      by decide, by decide +kernel⟩]
    status_lt := by decide }
  framed := .chunked [⟨Text.utf8 "\x7b\x7d", ⟨[], nofun⟩, by decide⟩] ⟨[], nofun⟩ []
  arrived := 12
  announced := by decide

theorem chunkedObject_not_read :
    ¬∀ (utf8Error : List UInt8 → String) (response : Http.Response),
      ReadsCompletely utf8Error response := by
  intro h
  have hread := h (fun _ => "") chunkedObject
  have hwhole : chunkedObject.isWhole = true := by decide
  have hbody : chunkedObject.bodyBytes ≠ chunkedObject.framed.body := by decide
  unfold ReadsCompletely at hread
  rw [if_pos hwhole, parseHttpResponse_bytes] at hread
  cases htext : fromUtf8 (fun _ => "") chunkedObject.head.lines with
  | error err =>
    rw [htext] at hread
    cases hread
  | ok text =>
    rw [htext] at hread
    exact hbody (congrArg HttpResponse.bodyJson (Except.ok.inj hread))

end HttpTransport

end Slan.Client
