import Mathlib.Data.List.Basic
import Mathlib.Tactic.Common

/-! # Dictionaries of values of unknown types

What a host hands over is looked up by key and cast to what is expected there; a cast fails as a
whole or succeeds. A writer has no value for what it lacks but `null`, which no cast takes.
-/

namespace Plist

/-- A value. A number may be none of the integers. -/
inductive Value where
  | null
  | number (integer : Option Int)
  | string (text : String)
  | array (values : List Value)
  | dictionary (entries : List (String × Value))

abbrev Dictionary := List (String × Value)

namespace Value

def asString : Value → Option String
  | .string text => some text
  | _ => none

def asInt : Value → Option Int
  | .number integer => integer
  | _ => none

def asArray : Value → Option (List Value)
  | .array values => some values
  | _ => none

def asDictionary : Value → Option Dictionary
  | .dictionary entries => some entries
  | _ => none

variable {α : Type} {cast : Value → Option α} {write : α → Value}

/-- An array all of whose elements can be cast. -/
def asArrayOf (cast : Value → Option α) (value : Value) : Option (List α) :=
  value.asArray.bind fun values => values.mapM cast

def ofOption (write : α → Value) : Option α → Value
  | some a => write a
  | none => .null

def int (n : Int) : Value := .number (some n)

@[simp] theorem asString_string (text : String) : asString (.string text) = some text := rfl

@[simp] theorem asInt_int (n : Int) : asInt (int n) = some n := rfl

@[simp] theorem asArray_array (values : List Value) : asArray (.array values) = some values := rfl

@[simp] theorem asDictionary_dictionary (entries : Dictionary) :
    asDictionary (.dictionary entries) = some entries := rfl

/-- What may be lacking reads back, where the cast does not take `null`. -/
theorem cast_ofOption (h : ∀ a, cast (write a) = some a) (hnull : cast .null = none)
    (value : Option α) : cast (ofOption write value) = value := by
  cases value with
  | none => exact hnull
  | some a => exact h a

@[simp] theorem asString_ofOption (value : Option String) :
    asString (ofOption .string value) = value := cast_ofOption asString_string rfl value

@[simp] theorem asInt_ofOption (value : Option Int) : asInt (ofOption int value) = value :=
  cast_ofOption asInt_int rfl value

/-- An array whose elements were written as they are read. -/
theorem asArrayOf_map {β : Type} {write : β → Value} {made : β → α}
    (h : ∀ b, cast (write b) = some (made b)) (values : List β) :
    asArrayOf cast (.array (values.map write)) = some (values.map made) := by
  change (values.map write).mapM cast = _
  induction values with
  | nil => rfl
  | cons b values ih =>
    rw [List.map_cons, List.mapM_cons, h, ih]
    rfl

@[simp] theorem asArrayOf_strings (values : List String) :
    asArrayOf asString (.array (values.map .string)) = some values := by
  rw [asArrayOf_map asString_string, List.map_id']

@[simp] theorem asArrayOf_dictionaries {β : Type} (made : β → Dictionary) (values : List β) :
    asArrayOf asDictionary (.array (values.map fun b => .dictionary (made b))) =
      some (values.map made) := asArrayOf_map (fun b => asDictionary_dictionary (made b)) values

end Value

/-- The value of a key, cast. -/
def read {α : Type} (cast : Value → Option α) (json : Dictionary) (key : String) : Option α :=
  (json.lookup key).bind cast

section Read

variable {α : Type} (cast : Value → Option α) {key other : String} (value : Value)
  (json : Dictionary)

@[simp] theorem read_cons_self : read cast ((key, value) :: json) key = cast value := by
  rw [read, List.lookup_cons_self]
  rfl

@[simp] theorem read_nil : read cast [] key = none := rfl

@[simp] theorem read_cons_of_ne (h : key ≠ other) :
    read cast ((other, value) :: json) key = read cast json key := by
  have hbeq : (key == other) = false := beq_false_of_ne h
  rw [read, List.lookup_cons, hbeq]
  rfl

end Read

end Plist
