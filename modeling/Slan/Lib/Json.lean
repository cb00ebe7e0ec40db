import Mathlib.Algebra.Ring.Int.Defs
import Mathlib.Algebra.Ring.Nat
import Mathlib.Tactic.Common

/-! # JSON values, and typed decoders over them

Objects keep their members in order and may repeat a key. The decoders follow the usual
derived ones: a repeated field is refused, an unknown one is skipped, a missing one is an
error unless the field is optional or has a default.
-/

/-- A JSON value whose numbers are integers. -/
inductive Json where
  | null
  | bool (b : Bool)
  | num (n : Int)
  | str (s : String)
  | arr (items : List Json)
  | obj (members : List (String × Json))

namespace Json

inductive DecodeError where
  | invalidType (expected : String)
  | missingField (name : String)
  | duplicateField (name : String)
  | unknownVariant (name : String)
  deriving DecidableEq, Repr

abbrev Decoder (α : Type) := Json → Except DecodeError α

def string : Decoder String
  | .str s => .ok s
  | _ => .error (.invalidType "string")

def boolean : Decoder Bool
  | .bool b => .ok b
  | _ => .error (.invalidType "boolean")

/-- The unsigned integers of a width are those below this. -/
def unsignedBound (bits : Nat) : Nat := 2 ^ bits

def unsigned (bits : Nat) : Decoder Nat
  | .num n => if 0 ≤ n ∧ n < unsignedBound bits then .ok n.toNat else .error (.invalidType "unsigned")
  | _ => .error (.invalidType "unsigned")

/-- A signed integer of the given width. -/
def signed (bits : Nat) : Decoder Int
  | .num n => if -2 ^ (bits - 1) ≤ n ∧ n < 2 ^ (bits - 1) then .ok n
      else .error (.invalidType "signed")
  | _ => .error (.invalidType "signed")

def nullable {α : Type} (d : Decoder α) : Decoder (Option α)
  | .null => .ok none
  | v => (d v).map some

def list {α : Type} (d : Decoder α) : Decoder (List α)
  | .arr items => items.mapM d
  | _ => .error (.invalidType "sequence")

/-- The values an object gives for one key. -/
def values (name : String) : List (String × Json) → List Json
  | [] => []
  | (k, v) :: rest => if k = name then v :: values name rest else values name rest

def field {α : Type} (name : String) (d : Decoder α) (absent : Except DecodeError α)
    (members : List (String × Json)) : Except DecodeError α :=
  match values name members with
  | [] => absent
  | [v] => d v
  | _ => .error (.duplicateField name)

def required {α : Type} (name : String) (d : Decoder α) :
    List (String × Json) → Except DecodeError α :=
  field name d (.error (.missingField name))

/-- An `Option` field: absent and `null` both read as `none`. -/
def optional {α : Type} (name : String) (d : Decoder α) :
    List (String × Json) → Except DecodeError (Option α) :=
  field name (nullable d) (.ok none)

def defaulted {α : Type} (name : String) (d : Decoder α) (default : α) :
    List (String × Json) → Except DecodeError α :=
  field name d (.ok default)

def ofOption {α : Type} (enc : α → Json) : Option α → Json
  | none => .null
  | some a => enc a

theorem values_eq_nil {name : String} {members : List (String × Json)}
    (h : name ∉ members.map Prod.fst) : values name members = [] := by
  induction members with
  | nil => rfl
  | cons m rest ih =>
    simp only [List.map_cons, List.mem_cons, not_or] at h
    rw [values, if_neg (Ne.symm h.1), ih h.2]

/-- An object without a required field is refused. -/
theorem required_eq_missing {α : Type} {name : String} {d : Decoder α}
    {members : List (String × Json)} (h : name ∉ members.map Prod.fst) :
    required name d members = .error (.missingField name) := by
  rw [required, field, values_eq_nil h]

@[simp] theorem string_str (s : String) : string (.str s) = .ok s := rfl

@[simp] theorem nullable_string_ofOption (o : Option String) :
    nullable string (ofOption .str o) = .ok o := by
  cases o <;> rfl

@[simp] theorem list_string_arr (xs : List String) : list string (.arr (xs.map .str)) = .ok xs := by
  rw [list]
  induction xs with
  | nil => rfl
  | cons x xs ih =>
    rw [List.map_cons, List.mapM_cons, string_str, ih]
    rfl

theorem unsigned_num {bits n : Nat} (h : n < unsignedBound bits) :
    unsigned bits (.num n) = .ok n := by
  rw [unsigned, if_pos ⟨Int.natCast_nonneg n, Int.ofNat_lt.mpr h⟩, Int.toNat_natCast]

end Json
