import Mathlib.Data.List.Nodup
import Slan.Lib.Marshal

/-! # Go structs as JSON objects

A struct is written and read field by field, each under the name of its tag. A name that two fields
have is the name of none: neither field is written, and neither is read.
-/

namespace GoJson

open Json (DecodeError)

/-! ## Values -/

structure Codec (α : Type) where
  zero : α
  /-- What `omitempty` leaves out. -/
  isEmpty : α → Bool
  encode : α → Json
  decode : Json → Except DecodeError α

/-- A value is read back, and is zero if it is left out. -/
structure Codec.Restores {α : Type} (c : Codec α) (a : α) : Prop where
  decode_encode : c.decode (c.encode a) = .ok a
  empty : c.isEmpty a = true → a = c.zero

def Codec.Lawful {α : Type} (c : Codec α) : Prop := ∀ a, c.Restores a

def text : Codec String where
  zero := ""
  isEmpty s := s == ""
  encode := .str
  decode
    | .str s => .ok s
    | .null => .ok ""
    | _ => .error (.invalidType "string")

def boolean : Codec Bool where
  zero := false
  isEmpty b := !b
  encode := .bool
  decode
    | .bool b => .ok b
    | .null => .ok false
    | _ => .error (.invalidType "bool")

/-- `int` and `int64` -/
def int : Codec Int64 where
  zero := 0
  isEmpty n := n == 0
  encode n := .num n.toInt
  decode
    | .num n => if -2 ^ 63 ≤ n ∧ n < 2 ^ 63 then .ok (.ofInt n) else .error (.invalidType "int64")
    | .null => .ok 0
    | _ => .error (.invalidType "int64")

def uint64 : Codec UInt64 where
  zero := 0
  isEmpty n := n == 0
  encode n := .num n.toNat
  decode
    | .num n =>
      if 0 ≤ n ∧ n < Json.unsignedBound 64 then .ok (.ofNat n.toNat)
      else .error (.invalidType "uint64")
    | .null => .ok 0
    | _ => .error (.invalidType "uint64")

def uint32 : Codec UInt32 where
  zero := 0
  isEmpty n := n == 0
  encode n := .num n.toNat
  decode
    | .num n =>
      if 0 ≤ n ∧ n < Json.unsignedBound 32 then .ok (.ofNat n.toNat)
      else .error (.invalidType "uint32")
    | .null => .ok 0
    | _ => .error (.invalidType "uint32")

/-- `json.RawMessage`: any value, as it stands. -/
def raw : Codec (Option Json) where
  zero := none
  isEmpty v := v.isNone
  encode v := v.getD .null
  decode v := .ok (some v)

/-- A pointer to a value that is never `null` itself. -/
def pointer {α : Type} (c : Codec α) : Codec (Option α) where
  zero := none
  isEmpty a := a.isNone
  encode
    | none => .null
    | some a => c.encode a
  decode
    | .null => .ok none
    | v => some <$> c.decode v

/-- A slice that is left out when it is empty. -/
def slice {α : Type} (c : Codec α) : Codec (List α) where
  zero := []
  isEmpty items := items.isEmpty
  encode items := .arr (items.map c.encode)
  decode
    | .arr items => items.mapM c.decode
    | .null => .ok []
    | _ => .error (.invalidType "slice")

@[simp] theorem encode_text : text.encode = Json.str := rfl

@[simp] theorem encode_boolean (b : Bool) : boolean.encode b = .bool b := rfl

@[simp] theorem encode_int (n : Int64) : int.encode n = .num n.toInt := rfl

-- Not by `rfl` itself: the kernel would then compute with the bound of the readers.
@[simp] theorem encode_uint64 (n : UInt64) : uint64.encode n = .num n.toNat := by
  unfold uint64
  exact rfl

@[simp] theorem encode_uint32 (n : UInt32) : uint32.encode n = .num n.toNat := by
  unfold uint32
  exact rfl

theorem lawful_text : text.Lawful := fun _ => ⟨rfl, fun h => beq_iff_eq.mp h⟩

theorem lawful_boolean : boolean.Lawful := by
  intro b
  refine ⟨rfl, fun h => ?_⟩
  cases b with
  | false => rfl
  | true => cases h

theorem lawful_int : int.Lawful := by
  intro n
  refine ⟨(if_pos ⟨n.le_toInt, n.toInt_lt⟩).trans ?_, fun h => beq_iff_eq.mp h⟩
  rw [Int64.ofInt_toInt]

theorem lawful_uint64 : uint64.Lawful := by
  intro n
  refine ⟨?_, fun h => beq_iff_eq.mp h⟩
  have hlt : (n.toNat : Int) < Json.unsignedBound 64 := Int.ofNat_lt.mpr n.toNat_lt
  dsimp only [uint64]
  rw [if_pos ⟨Int.natCast_nonneg _, hlt⟩, Int.toNat_natCast, UInt64.ofNat_toNat]

theorem lawful_uint32 : uint32.Lawful := by
  intro n
  refine ⟨?_, fun h => beq_iff_eq.mp h⟩
  have hlt : (n.toNat : Int) < Json.unsignedBound 32 := Int.ofNat_lt.mpr n.toNat_lt
  dsimp only [uint32]
  rw [if_pos ⟨Int.natCast_nonneg _, hlt⟩, Int.toNat_natCast, UInt32.ofNat_toNat]

section Composed

variable {α : Type} {c : Codec α}

theorem restores_pointer {p : Option α} (h : ∀ a ∈ p, c.Restores a)
    (hobject : ∀ a, c.encode a ≠ .null) : (pointer c).Restores p := by
  refine ⟨?_, fun h => Option.isNone_iff_eq_none.mp h⟩
  cases p with
  | none => rfl
  | some a =>
    have hread := (h a rfl).decode_encode
    have hnull := hobject a
    change (pointer c).decode (c.encode a) = _
    generalize c.encode a = v at hread hnull
    cases v with
    | null => exact absurd rfl hnull
    | _ => exact congrArg (some <$> ·) hread

theorem restores_slice {items : List α} (h : ∀ a ∈ items, c.Restores a) :
    (slice c).Restores items := by
  refine ⟨?_, fun h => List.isEmpty_iff.mp h⟩
  change (items.map c.encode).mapM c.decode = .ok items
  induction items with
  | nil => rfl
  | cons a items ih =>
    rw [List.forall_mem_cons] at h
    rw [List.map_cons, List.mapM_cons, h.1.decode_encode, ih h.2]
    rfl

theorem lawful_slice (h : c.Lawful) : (slice c).Lawful := fun _ => restores_slice fun a _ => h a

theorem lawful_pointer (h : c.Lawful) (hobject : ∀ a, c.encode a ≠ .null) :
    (pointer c).Lawful := fun _ => restores_pointer (fun a _ => h a) hobject

end Composed

/-! ## Structs -/

structure Field (σ : Type) where
  name : String
  omitEmpty : Bool
  α : Type
  codec : Codec α
  get : σ → α
  set : α → σ → σ

namespace Field

variable {σ : Type}

def always {α : Type} (name : String) (codec : Codec α) (get : σ → α) (set : α → σ → σ) :
    Field σ :=
  { name, omitEmpty := false, α, codec, get, set }

/-- Left out when it is empty. -/
def omitting {α : Type} (name : String) (codec : Codec α) (get : σ → α) (set : α → σ → σ) :
    Field σ :=
  { name, omitEmpty := true, α, codec, get, set }

def encode (f : Field σ) (s : σ) : Option Json :=
  if f.omitEmpty && f.codec.isEmpty (f.get s) then none else some (f.codec.encode (f.get s))

section Encode

variable {α : Type} (name : String) (c : Codec α) (s : σ)

@[simp] theorem name_always (get : σ → α) (set : α → σ → σ) :
    (always name c get set).name = name := rfl

@[simp] theorem name_omitting (get : σ → α) (set : α → σ → σ) :
    (omitting name c get set).name = name := rfl

@[simp] theorem encode_always (get : σ → α) (set : α → σ → σ) :
    (always name c get set).encode s = some (c.encode (get s)) := rfl

@[simp] theorem encode_omitting_text (get : σ → String) (set : String → σ → σ) :
    (omitting name text get set).encode s = Json.omitString (get s) := by
  unfold encode Json.omitString
  by_cases h : get s = ""
  · rw [if_pos h]
    exact if_pos (beq_iff_eq.mpr h)
  · rw [if_neg h]
    exact if_neg fun hempty => h (beq_iff_eq.mp hempty)

@[simp] theorem encode_omitting_uint64 (get : σ → UInt64) (set : UInt64 → σ → σ) :
    (omitting name uint64 get set).encode s =
      if get s = 0 then none else some (.num (get s).toNat) := by
  unfold encode
  by_cases h : get s = 0
  · rw [if_pos h]
    exact if_pos (beq_iff_eq.mpr h)
  · rw [if_neg h]
    exact if_neg fun hempty => h (beq_iff_eq.mp hempty)

@[simp] theorem encode_omitting_int (get : σ → Int64) (set : Int64 → σ → σ) :
    (omitting name int get set).encode s = Json.omitInt (get s).toInt := by
  unfold encode Json.omitInt
  by_cases h : get s = 0
  · rw [h]
    exact if_pos (beq_iff_eq.mpr h)
  · have hne : (get s).toInt ≠ 0 := fun hzero => h (Int64.toInt_inj.mp hzero)
    rw [if_neg hne]
    exact if_neg fun hempty => h (beq_iff_eq.mp hempty)

@[simp] theorem encode_omitting_slice (get : σ → List α) (set : List α → σ → σ) :
    (omitting name (slice c) get set).encode s = Json.omitSlice c.encode (some (get s)) := by
  change (if (get s).isEmpty = true then _ else some ((slice c).encode (get s))) = _
  cases get s <;> rfl

@[simp] theorem encode_omitting_pointer (get : σ → Option α) (set : Option α → σ → σ) :
    (omitting name (pointer c) get set).encode s = (get s).map c.encode := by
  change (if (get s).isNone = true then _ else some ((pointer c).encode (get s))) = _
  cases get s <;> rfl

end Encode

def copy (f : Field σ) (s t : σ) : σ := f.set (f.get s) t

end Field

section Structs

variable {σ : Type}

/-- The fields whose name is theirs alone. -/
def visible (fields : List (Field σ)) : List (Field σ) :=
  fields.filter fun f => (fields.map Field.name).count f.name == 1

/-- Names are compared without case where none is equal; two letters beyond ASCII fold to it. -/
def foldName (name : String) : List Char :=
  name.toList.map fun c => if c = '\u212A' then 'k' else if c = '\u017F' then 's' else c.toLower

/-- The field that a member is read into. -/
def resolve (fields : List (Field σ)) (key : String) : Option (Field σ) :=
  (fields.find? fun f => f.name == key).or
    (fields.find? fun f => foldName f.name == foldName key)

def marshal (fields : List (Field σ)) (s : σ) : Json :=
  Json.object ((visible fields).map fun f => (f.name, f.encode s))

/-- Members that are no field's are skipped. -/
def read (fields : List (Field σ)) (t : σ) (m : String × Json) : Except DecodeError σ :=
  match resolve fields m.1 with
  | some f => (fun a => f.set a t) <$> f.codec.decode m.2
  | none => .ok t

def unmarshal (fields : List (Field σ)) (zero : σ) : Json → Except DecodeError σ
  | .obj members => members.foldlM (read (visible fields)) zero
  | .null => .ok zero
  | _ => .error (.invalidType "struct")

def struct (fields : List (Field σ)) (zero : σ) : Codec σ where
  zero
  isEmpty _ := false
  encode := marshal fields
  decode := unmarshal fields zero

theorem visible_of_nodup {fields : List (Field σ)} (h : (fields.map Field.name).Nodup) :
    visible fields = fields := by
  refine List.filter_eq_self.mpr fun f hf => ?_
  rw [List.count_eq_one_of_mem h (List.mem_map_of_mem hf)]
  rfl

theorem nodup_visible (fields : List (Field σ)) : ((visible fields).map Field.name).Nodup := by
  refine List.nodup_iff_count_le_one.mpr fun name => ?_
  by_cases hmem : name ∈ (visible fields).map Field.name
  · obtain ⟨f, hf, rfl⟩ := List.mem_map.mp hmem
    have hcount := beq_iff_eq.mp (List.mem_filter.mp hf).2
    have hsub : ((visible fields).map Field.name).Sublist (fields.map Field.name) :=
      List.filter_sublist.map _
    exact hcount ▸ hsub.count_le _
  · rw [List.count_eq_zero.mpr hmem]
    exact Nat.zero_le 1

theorem mem_of_resolve {fields : List (Field σ)} {key : String} {f : Field σ}
    (h : resolve fields key = some f) : f ∈ fields := by
  rcases Option.or_eq_some_iff.mp h with hfind | ⟨-, hfind⟩
  · exact List.mem_of_find?_eq_some hfind
  · exact List.mem_of_find?_eq_some hfind

theorem find_of_mem {fields : List (Field σ)} {f : Field σ} (h : f ∈ fields)
    (hnodup : (fields.map Field.name).Nodup) :
    (fields.find? fun g => g.name == f.name) = some f := by
  induction fields with
  | nil => cases h
  | cons g fields ih =>
    rw [List.map_cons, List.nodup_cons] at hnodup
    rcases List.mem_cons.mp h with rfl | hrest
    · exact List.find?_cons_of_pos (beq_self_eq_true _)
    · have hne : ¬((g.name == f.name) = true) := fun heq =>
        hnodup.1 (beq_iff_eq.mp heq ▸ List.mem_map_of_mem hrest)
      exact (List.find?_cons_of_neg (p := fun g : Field σ => g.name == f.name) hne).trans
        (ih hrest hnodup.2)

theorem read_field {fields : List (Field σ)} {f : Field σ} (h : f ∈ fields)
    (hnodup : (fields.map Field.name).Nodup) {s : σ} (hback : f.codec.Restores (f.get s)) (t : σ) :
    read fields t (f.name, f.codec.encode (f.get s)) = .ok (f.copy s t) := by
  simp only [read, resolve, find_of_mem h hnodup, Option.some_or, hback.decode_encode]
  rfl

/-- Reading starts at a record whose remaining fields are all zero. -/
def Blank (s : σ) : List (Field σ) → σ → Prop
  | [], _ => True
  | f :: fields, t => f.set f.codec.zero t = t ∧ Blank s fields (f.copy s t)

theorem foldlM_present {fields gs : List (Field σ)} (hsub : gs ⊆ fields)
    (hnodup : (fields.map Field.name).Nodup) {s t : σ}
    (hback : ∀ f ∈ fields, f.codec.Restores (f.get s)) (hblank : Blank s gs t) :
    (Json.present (gs.map fun g => (g.name, g.encode s))).foldlM (read fields) t =
      .ok (gs.foldl (fun t f => f.copy s t) t) := by
  induction gs generalizing t with
  | nil => rfl
  | cons f gs ih =>
    obtain ⟨hzero, hrest⟩ := hblank
    have hf := hsub List.mem_cons_self
    have hgs : gs ⊆ fields := fun g hg => hsub (List.mem_cons_of_mem f hg)
    rw [List.map_cons, List.foldl_cons, ← ih hgs hrest, Field.encode]
    split
    · rename_i hempty
      -- What is left out was zero, as it is in the record read so far.
      have hskip : f.copy s t = t := by
        rw [Field.copy, (hback f hf).empty (Bool.and_eq_true_iff.mp hempty).2, hzero]
      rw [Json.present, hskip]
    · rw [Json.present, List.foldlM_cons, read_field hf hnodup (hback f hf)]
      rfl

/-- A struct comes back with the fields whose name is theirs alone. -/
theorem unmarshal_marshal {fields : List (Field σ)} {zero s : σ}
    (hback : ∀ f ∈ visible fields, f.codec.Restores (f.get s))
    (hblank : Blank s (visible fields) zero) :
    unmarshal fields zero (marshal fields s) =
      .ok ((visible fields).foldl (fun t f => f.copy s t) zero) :=
  foldlM_present (List.Subset.refl _) (nodup_visible fields) hback hblank

/-- What no member changes holds of whatever is read. -/
theorem of_unmarshal {P : σ → Prop} {fields : List (Field σ)} {zero : σ} (hzero : P zero)
    (hset : ∀ f ∈ visible fields, ∀ a t, P t → P (f.set a t)) {v : Json} {s : σ}
    (h : unmarshal fields zero v = .ok s) : P s := by
  have hfold : ∀ (members : List (String × Json)) (t : σ), P t →
      members.foldlM (read (visible fields)) t = .ok s → P s := by
    intro members
    induction members with
    | nil =>
      rintro t ht hdone
      exact Except.ok.inj hdone ▸ ht
    | cons m members ih =>
      intro t ht hread
      rw [List.foldlM_cons] at hread
      obtain ⟨u, hu, hrest⟩ := Program.bind_eq_ok.mp hread
      refine ih u ?_ hrest
      unfold read at hu
      split at hu
      · rename_i f hf
        obtain ⟨a, -, rfl⟩ := Json.map_eq_ok.mp hu
        exact hset f (mem_of_resolve hf) a t ht
      · exact Except.ok.inj hu ▸ ht
  cases v with
  | obj members => exact hfold members zero hzero h
  | null => exact Except.ok.inj h ▸ hzero
  | _ => cases h

/-- A struct without shared names comes back if its fields do. -/
theorem restores_struct {fields : List (Field σ)} (hnodup : (fields.map Field.name).Nodup)
    {zero s : σ} (hback : ∀ f ∈ fields, f.codec.Restores (f.get s)) (hblank : Blank s fields zero)
    (hcopied : fields.foldl (fun t f => f.copy s t) zero = s) :
    (struct fields zero).Restores s := by
  have hvisible := visible_of_nodup hnodup
  refine ⟨?_, nofun⟩
  change unmarshal fields zero (marshal fields s) = .ok s
  rw [unmarshal_marshal (by rwa [hvisible]) (by rwa [hvisible]), hvisible, hcopied]

theorem struct_encode {fields : List (Field σ)} (hnodup : (fields.map Field.name).Nodup)
    (zero s : σ) :
    (struct fields zero).encode s = Json.object (fields.map fun f => (f.name, f.encode s)) := by
  change marshal fields s = _
  rw [marshal, visible_of_nodup hnodup]

theorem struct_encode_ne_null {fields : List (Field σ)} {zero : σ} (s : σ) :
    (struct fields zero).encode s ≠ .null := nofun

end Structs

/-! ## Structs that others write -/

section Foreign

variable {σ : Type}

/-- What stands for a field of a record: a value that reads as the field's, or nothing where the
field is zero. -/
def Field.Gives (f : Field σ) (s : σ) : Option Json → Prop
  | none => f.get s = f.codec.zero
  | some v => f.codec.decode v = .ok (f.get s)

theorem read_given {fields : List (Field σ)} {f : Field σ} (h : f ∈ fields)
    (hnodup : (fields.map Field.name).Nodup) {s : σ} {v : Json} (hgives : f.Gives s (some v))
    (t : σ) : read fields t (f.name, v) = .ok (f.copy s t) := by
  have hdecode : f.codec.decode v = .ok (f.get s) := hgives
  simp only [read, resolve, find_of_mem h hnodup, Option.some_or, hdecode]
  rfl

/-- The fields at these places. -/
def Field.pick (fields : List (Field σ)) (order : List Nat) : List (Field σ) :=
  order.filterMap (fields[·]?)

theorem Field.mem_of_mem_pick {fields : List (Field σ)} {order : List Nat} {f : Field σ}
    (h : f ∈ Field.pick fields order) : f ∈ fields := by
  obtain ⟨i, -, hi⟩ := List.mem_filterMap.mp h
  exact List.mem_of_getElem? hi

/-- A record is read from any object that gives its fields, in whatever order. -/
theorem unmarshal_given {fields : List (Field σ)} (hnodup : (fields.map Field.name).Nodup)
    (order : List Nat) {entries : List (String × Option Json)} {zero s : σ}
    (hgives : List.Forall₂ (fun e f => f.name = e.1 ∧ f.Gives s e.2) entries
      (Field.pick fields order))
    (hblank : Blank s (Field.pick fields order) zero)
    (hcopied : (Field.pick fields order).foldl (fun t f => f.copy s t) zero = s) :
    (struct fields zero).decode (Json.object entries) = .ok s := by
  have hfold : (Json.present entries).foldlM (read fields) zero =
      .ok ((Field.pick fields order).foldl (fun t f => f.copy s t) zero) := by
    have hsub : ∀ f ∈ Field.pick fields order, f ∈ fields := fun f => Field.mem_of_mem_pick
    generalize Field.pick fields order = gs at hsub hgives hblank
    clear hcopied
    induction hgives generalizing zero with
    | nil => rfl
    | @cons e f entries gs hgiven _ ih =>
      obtain ⟨name, v⟩ := e
      obtain ⟨rfl, hgives⟩ := hgiven
      obtain ⟨hzero, hrest⟩ := hblank
      rw [List.forall_mem_cons] at hsub
      have hlater := ih hsub.2 hrest
      rw [List.foldl_cons, ← hlater]
      cases v with
      | none =>
        have hskip : f.copy s zero = zero := by
          rw [Field.copy, show f.get s = f.codec.zero from hgives, hzero]
        rw [Json.present, hskip]
      | some v =>
        rw [Json.present, List.foldlM_cons, read_given hsub.1 hnodup hgives]
        rfl
  change (Json.present _).foldlM (read (visible fields)) zero = _
  rw [visible_of_nodup hnodup, hfold, hcopied]

section Gives

variable {α : Type} {name : String} {s : σ}

theorem gives_always {c : Codec α} {get : σ → α} {set : α → σ → σ} {a : α}
    (hback : c.Restores a) (h : get s = a) :
    (Field.always name c get set).Gives s (some (c.encode a)) := by
  change c.decode (c.encode a) = .ok (get s)
  rw [hback.decode_encode, h]

theorem gives_omitting {c : Codec α} {get : σ → α} {set : α → σ → σ} {a : Option α}
    (hback : ∀ b ∈ a, c.Restores b) (h : get s = a.getD c.zero) :
    (Field.omitting name c get set).Gives s (a.map c.encode) := by
  cases a with
  | none => exact h
  | some b =>
    change c.decode (c.encode b) = .ok (get s)
    rw [(hback b rfl).decode_encode, h, Option.getD_some]

theorem gives_pointer {c : Codec α} {get : σ → Option α} {set : Option α → σ → σ} {a : Option α}
    (hback : ∀ b ∈ a, (pointer c).Restores (some b)) (h : get s = a) :
    (Field.omitting name (pointer c) get set).Gives s (a.map c.encode) := by
  cases a with
  | none => exact h
  | some b =>
    change (pointer c).decode ((pointer c).encode (some b)) = .ok (get s)
    rw [(hback b rfl).decode_encode, h]

end Gives

end Foreign

end GoJson
