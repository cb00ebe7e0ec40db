import Slan.Lib.Json
import Slan.Lib.Program

/-! # Objects whose empty members are left out

An encoder gives each field of a record a value, or none where it leaves an empty one out. A slice
that is nil is written as `null` unless it is left out.
-/

namespace Json

variable {α β : Type}

/-! ## Encoders -/

/-- The members that are written. -/
def present : List (String × Option Json) → List (String × Json)
  | [] => []
  | (_, none) :: fields => present fields
  | (name, some v) :: fields => (name, v) :: present fields

def object (fields : List (String × Option Json)) : Json := .obj (present fields)

def omitString (s : String) : Option Json := if s = "" then none else some (.str s)

def omitInt (n : Int) : Option Json := if n = 0 then none else some (.num n)

def omitFalse (b : Bool) : Option Json := if b then some (.bool true) else none

/-- A slice, `none` if it is nil. -/
abbrev Slice (α : Type) := Option (List α)

def Slice.items (s : Slice α) : List α := s.getD []

def slice (enc : α → Json) : Slice α → Json
  | none => .null
  | some items => .arr (items.map enc)

def omitSlice (enc : α → Json) (s : Slice α) : Option Json :=
  match s.items with
  | [] => none
  | items => some (.arr (items.map enc))

/-- An empty text stands for an absent one. -/
def nonEmpty (s : String) : Option String := if s = "" then none else some s

/-! ## What the decoders find -/

section Fields

variable {name other : String} {d : Decoder α} {absent : Except DecodeError α} {v : Option Json}
  {fields : List (String × Option Json)}

theorem values_present_eq_nil (h : name ∉ fields.map Prod.fst) :
    values name (present fields) = [] := by
  refine values_eq_nil fun hmem => h ?_
  induction fields with
  | nil => exact hmem
  | cons entry fields ih =>
    obtain ⟨key, v⟩ := entry
    rw [List.map_cons, List.mem_cons, not_or] at h
    cases v with
    | none => exact List.mem_cons_of_mem _ (ih h.2 hmem)
    | some v =>
      rcases List.mem_cons.mp hmem with hkey | hrest
      · exact absurd hkey h.1
      · exact List.mem_cons_of_mem _ (ih h.2 hrest)

@[simp] theorem field_present_self (h : name ∉ fields.map Prod.fst) :
    field name d absent (present ((name, v) :: fields)) = v.elim absent d := by
  cases v with
  | none => rw [present, field, values_present_eq_nil h, Option.elim_none]
  | some v => rw [present, field, values, if_pos rfl, values_present_eq_nil h, Option.elim_some]

@[simp] theorem field_present_ne (h : other ≠ name) :
    field name d absent (present ((other, v) :: fields)) =
      field name d absent (present fields) := by
  cases v with
  | none => rfl
  | some v => rw [present, field, values, if_neg h, field]

@[simp] theorem field_present_nil : field name d absent (present []) = absent := rfl

end Fields

/-! ## What is read back -/

/-- The integers that an unsigned field of so many bits holds. -/
def FitsBits (bits : Nat) (n : Int) : Prop := 0 ≤ n ∧ n < unsignedBound bits

instance (bits : Nat) (n : Int) : Decidable (FitsBits bits n) :=
  inferInstanceAs (Decidable (0 ≤ n ∧ n < unsignedBound bits))

@[simp] theorem elim_omitString_optional (s : String) :
    (omitString s).elim (.ok none) (nullable string) = .ok (nonEmpty s) := by
  unfold omitString nonEmpty
  split <;> rfl

@[simp] theorem elim_omitString_string (s : String) :
    (omitString s).elim (.ok "") string = .ok s := by
  unfold omitString
  split
  · rename_i hempty
    exact congrArg Except.ok hempty.symm
  · rfl

theorem map_eq_ok {ε : Type} {x : Except ε α} {f : α → β} {b : β} :
    f <$> x = .ok b ↔ ∃ a, x = .ok a ∧ f a = b := by
  cases x with
  | error err => exact iff_of_false nofun fun ⟨_, h, _⟩ => nomatch h
  | ok a =>
    simp only [Except.ok.injEq, exists_eq_left']
    exact (Except.ok.injEq (f a) b).to_iff

@[simp] theorem boolean_bool (b : Bool) : boolean (.bool b) = .ok b := rfl

@[simp] theorem signed_toInt (n : Int64) : signed 64 (.num n.toInt) = .ok n.toInt :=
  if_pos ⟨n.le_toInt, n.toInt_lt⟩

-- Stated with `elim`, which `simp` would otherwise remove by computing with the bound.
@[simp high] theorem elim_unsigned_toNat {absent : Except DecodeError Nat} (n : UInt64) :
    (some (Json.num n.toNat)).elim absent (unsigned 64) = .ok n.toNat := by
  rw [Option.elim_some]
  exact unsigned_num n.toNat_lt

theorem signed_num_eq_ok {bits : Nat} {n m : Int} :
    signed bits (.num n) = .ok m ↔ (-2 ^ (bits - 1) ≤ n ∧ n < 2 ^ (bits - 1)) ∧ n = m := by
  dsimp only [signed]
  split
  · rename_i hfits
    rw [Except.ok.injEq, and_iff_right hfits]
  · rename_i hfits
    exact iff_of_false nofun fun h => hfits h.1

theorem unsigned_num_eq_ok {bits : Nat} {n : Int} {m : Nat} :
    unsigned bits (.num n) = .ok m ↔ FitsBits bits n ∧ n.toNat = m := by
  by_cases h : FitsBits bits n
  · have hread : unsigned bits (.num n) = .ok n.toNat := if_pos h
    rw [hread, Except.ok.injEq, and_iff_right h]
  · have hrefused : unsigned bits (.num n) = .error (.invalidType "unsigned") := if_neg h
    rw [hrefused]
    exact iff_of_false nofun fun hfits => h hfits.1

theorem elim_omitInt_eq_ok {bits : Nat} {n : Int} {m : Option Nat} :
    (omitInt n).elim (.ok none) (nullable (unsigned bits)) = .ok m ↔
      FitsBits bits n ∧ (if n = 0 then none else some n.toNat) = m := by
  unfold omitInt
  split
  · rename_i h
    have hfits : FitsBits bits 0 := ⟨Int.le_refl 0, Int.ofNat_lt.mpr (Nat.two_pow_pos bits)⟩
    rw [h, and_iff_right hfits]
    exact Except.ok.injEq none m ▸ Iff.rfl
  · change (unsigned bits (.num n)).map some = .ok m ↔ _
    cases hread : unsigned bits (.num n) with
    | ok k =>
      obtain ⟨hfits, rfl⟩ := unsigned_num_eq_ok.mp hread
      rw [and_iff_right hfits]
      exact Except.ok.injEq (some n.toNat) m ▸ Iff.rfl
    | error err =>
      refine iff_of_false nofun fun h => ?_
      rw [unsigned_num_eq_ok.mpr ⟨h.1, rfl⟩] at hread
      cases hread

theorem nullable_object_eq_ok {d : Decoder α} {fields : List (String × Option Json)} {P : Prop}
    {a : α} {m : Option α} (h : ∀ b, d (object fields) = .ok b ↔ P ∧ a = b) :
    nullable d (object fields) = .ok m ↔ P ∧ some a = m := by
  change some <$> d (object fields) = .ok m ↔ _
  simp only [map_eq_ok, h]
  constructor
  · rintro ⟨b, ⟨hP, rfl⟩, hm⟩
    exact ⟨hP, hm⟩
  · rintro ⟨hP, hm⟩
    exact ⟨a, ⟨hP, rfl⟩, hm⟩

section Lists

variable {d : Decoder β} {enc : α → Json} {P : α → Prop} {f : α → β} {items : List α}
  {s : Slice α} {bs : List β}

/-- A list is read if each of its elements is. -/
theorem list_arr_eq_ok (h : ∀ a b, d (enc a) = .ok b ↔ P a ∧ f a = b) :
    list d (.arr (items.map enc)) = .ok bs ↔ (∀ a ∈ items, P a) ∧ items.map f = bs := by
  rw [list]
  induction items generalizing bs with
  | nil =>
    have hall : ∀ a ∈ ([] : List α), P a := fun _ ha => absurd ha List.not_mem_nil
    rw [and_iff_right hall]
    exact Except.ok.injEq [] bs ▸ Iff.rfl
  | cons a items ih =>
    rw [List.map_cons, List.mapM_cons, List.forall_mem_cons]
    simp only [Program.bind_eq_ok, h, ih, List.map_cons]
    constructor
    · rintro ⟨_, ⟨ha, rfl⟩, _, ⟨hitems, rfl⟩, heq⟩
      exact ⟨⟨ha, hitems⟩, Except.ok.inj heq⟩
    · rintro ⟨⟨ha, hitems⟩, rfl⟩
      exact ⟨_, ⟨ha, rfl⟩, _, ⟨hitems, rfl⟩, rfl⟩

theorem list_slice_eq_ok (h : ∀ a b, d (enc a) = .ok b ↔ P a ∧ f a = b) :
    list d (slice enc s) = .ok bs ↔
      (s ≠ none ∧ ∀ a ∈ s.items, P a) ∧ s.items.map f = bs := by
  cases s with
  | none => exact iff_of_false nofun fun hs => hs.1.1 rfl
  | some items =>
    rw [and_iff_right (Option.some_ne_none items)]
    exact list_arr_eq_ok h

theorem elim_omitSlice_eq_ok (h : ∀ a b, d (enc a) = .ok b ↔ P a ∧ f a = b) :
    (omitSlice enc s).elim (.ok []) (list d) = .ok bs ↔
      (∀ a ∈ s.items, P a) ∧ s.items.map f = bs := by
  rw [← list_arr_eq_ok h]
  unfold omitSlice
  cases s.items <;> rfl

/-- Where every element is read, only a nil slice is not. -/
theorem list_slice_of_forall (h : ∀ a, d (enc a) = .ok (f a)) :
    list d (slice enc s) = .ok bs ↔ s ≠ none ∧ s.items.map f = bs := by
  have hread : ∀ a b, d (enc a) = .ok b ↔ True ∧ f a = b := by
    intro a b
    rw [h, Except.ok.injEq, true_and]
  rw [list_slice_eq_ok hread]
  simp only [implies_true, and_true]

theorem elim_omitSlice_of_forall (h : ∀ a, d (enc a) = .ok (f a)) :
    (omitSlice enc s).elim (.ok []) (list d) = .ok (s.items.map f) := by
  have hread : ∀ a b, d (enc a) = .ok b ↔ True ∧ f a = b := by
    intro a b
    rw [h, Except.ok.injEq, true_and]
  exact (elim_omitSlice_eq_ok hread).mpr ⟨fun _ _ => trivial, rfl⟩

theorem list_slice_string_eq_ok {s : Slice String} {texts : List String} :
    list string (slice .str s) = .ok texts ↔ s ≠ none ∧ s.items = texts := by
  cases s with
  | none => exact iff_of_false nofun fun h => h.1 rfl
  | some items =>
    rw [and_iff_right (Option.some_ne_none items)]
    exact (congrArg (· = _) (list_string_arr items)).to_iff.trans (Except.ok.injEq _ _).to_iff

@[simp] theorem elim_omitSlice_string (s : Slice String) :
    (omitSlice .str s).elim (.ok []) (list string) = .ok s.items := by
  have hread : (omitSlice .str s).elim (.ok []) (list string) = .ok (s.items.map id) :=
    elim_omitSlice_of_forall fun _ => rfl
  rwa [List.map_id] at hread

/-- A list that is left out when it is empty, and must be there, is not empty. -/
theorem elim_omitSlice_required {err : DecodeError} {texts got : List String} :
    (omitSlice .str (some texts)).elim (.error err) (list string) = .ok got ↔
      texts ≠ [] ∧ texts = got := by
  cases texts with
  | nil => exact iff_of_false nofun fun h => h.1 rfl
  | cons text texts =>
    rw [and_iff_right (List.cons_ne_nil text texts)]
    exact (congrArg (· = _) (list_string_arr (text :: texts))).to_iff.trans
      (Except.ok.injEq _ _).to_iff

end Lists

@[simp] theorem elim_omitted_unsigned (n : UInt64) :
    (if n = 0 then none else some (Json.num n.toNat)).elim (.ok 0) (unsigned 64) =
      .ok n.toNat := by
  split
  · rename_i hzero
    exact congrArg Except.ok (congrArg UInt64.toNat hzero).symm
  · exact elim_unsigned_toNat n

end Json
