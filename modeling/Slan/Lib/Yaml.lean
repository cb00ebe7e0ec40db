import Mathlib.Tactic.Common

/-! # YAML documents, decoded over values that are there already

A document sets the variables that it says something about, and leaves the others. A mapping may
not repeat a key; keys that no variable has are skipped.
-/

/-- A node, its aliases and merges resolved. A scalar is also an integer or a truth value where it
can be read as one. -/
inductive Yaml where
  | null
  | scalar (text : String) (integer : Option Int) (truth : Option Bool)
  | seq (items : List Yaml)
  | map (members : List (String × Yaml))

namespace Yaml

inductive DecodeError where
  | invalidType (expected : String)
  | duplicateKey (key : String)
  deriving DecidableEq, Repr

/-- What a node sets a variable to, or nothing where it leaves it. -/
abbrev Decoder (α : Type) := Yaml → Except DecodeError (Option α)

variable {α β σ : Type}

def text : Decoder String
  | .null => .ok none
  | .scalar text _ _ => .ok (some text)
  | _ => .error (.invalidType "string")

def int : Decoder Int
  | .null => .ok none
  | .scalar _ (some n) _ => .ok (some n)
  | _ => .error (.invalidType "int")

def boolean : Decoder Bool
  | .null => .ok none
  | .scalar _ _ (some b) => .ok (some b)
  | _ => .error (.invalidType "bool")

/-- A slice is made anew, of the items that are not null. -/
def slice (item : Decoder α) : Decoder (List α)
  | .null => .ok (some [])
  | .seq items => (fun values => some (values.filterMap id)) <$> items.mapM item
  | _ => .error (.invalidType "slice")

/-! ## Structs -/

def lookup (key : String) : List (String × Yaml) → Option Yaml
  | [] => none
  | (k, node) :: members => if k = key then some node else lookup key members

/-- A field after the mapping, with the value that it had. -/
def field (key : String) (decoder : Decoder α) (members : List (String × Yaml)) (old : α) :
    Except DecodeError α :=
  match lookup key members with
  | none => .ok old
  | some node => (fun value => value.getD old) <$> decoder node

/-- A field that is a struct itself. -/
def nested (key : String) (decode : Yaml → σ → Except DecodeError σ)
    (members : List (String × Yaml)) (old : σ) : Except DecodeError σ :=
  match lookup key members with
  | none => .ok old
  | some node => decode node old

def repeatedKey : List (String × Yaml) → Option String
  | [] => none
  | (key, _) :: members => if (lookup key members).isSome then some key else repeatedKey members

def struct (decode : List (String × Yaml) → σ → Except DecodeError σ) (node : Yaml) (old : σ) :
    Except DecodeError σ :=
  match node with
  | .null => .ok old
  | .map members =>
    match repeatedKey members with
    | some key => .error (.duplicateKey key)
    | none => decode members old
  | _ => .error (.invalidType "struct")

/-- A struct as an item of a slice. -/
def item (decode : Yaml → σ → Except DecodeError σ) (zero : σ) : Decoder σ
  | .null => .ok none
  | node => some <$> decode node zero

/-! ## What a document gives -/

def find : List String → Yaml → Option Yaml
  | [], node => some node
  | key :: keys, .map members => (lookup key members).bind (find keys)
  | _ :: _, _ => none

/-- The value that a document sets the variable to that is found by these keys. -/
def given (decoder : Decoder α) (keys : List String) (doc : Yaml) : Option α :=
  (doc.find keys).bind fun node => (decoder node).toOption.join

/-- A mapping under a key, or nothing of it. -/
def sub (key : String) (doc : Yaml) : Yaml := (doc.find [key]).getD .null

@[simp] theorem given_null (decoder : Decoder α) (key : String) (keys : List String) :
    given decoder (key :: keys) .null = none := rfl

/-- A document that is a mapping or null. -/
theorem given_sub (decoder : Decoder α) (key key' : String) (keys : List String) (doc : Yaml) :
    given decoder (key' :: keys) (doc.sub key) = given decoder (key :: key' :: keys) doc := by
  cases doc with
  | map members =>
    unfold given sub
    change (Option.bind (find (key' :: keys) (((lookup key members).bind (find [])).getD .null)) _) =
      Option.bind ((lookup key members).bind (find (key' :: keys))) _
    cases lookup key members <;> rfl
  | null => rfl
  | scalar text integer truth => rfl
  | seq items => rfl

theorem field_eq_ok {key : String} {decoder : Decoder α} {members : List (String × Yaml)}
    {old value : α} (h : field key decoder members old = .ok value) :
    value = (given decoder [key] (.map members)).getD old := by
  unfold field at h
  change value = (((lookup key members).bind (find [])).bind fun node =>
    (decoder node).toOption.join).getD old
  cases hnode : lookup key members with
  | none =>
    rw [hnode] at h
    cases h
    rfl
  | some node =>
    rw [hnode] at h
    dsimp only at h
    change _ = ((decoder node).toOption.join).getD old
    cases hdecoded : decoder node with
    | error err =>
      rw [hdecoded] at h
      cases h
    | ok found =>
      rw [hdecoded] at h
      cases h
      rfl

theorem of_field_bind {key : String} {decoder : Decoder α} {members : List (String × Yaml)}
    {old : α} {next : α → Except DecodeError β} {result : β}
    (h : field key decoder members old >>= next = .ok result) :
    next ((given decoder [key] (.map members)).getD old) = .ok result := by
  cases hfield : field key decoder members old with
  | error err =>
    rw [hfield] at h
    cases h
  | ok value =>
    rw [hfield] at h
    rw [← field_eq_ok hfield]
    exact h

theorem nested_eq_ok {key : String} {decode : Yaml → σ → Except DecodeError σ}
    {members : List (String × Yaml)} {old value : σ} (hnull : decode .null old = .ok old)
    (h : nested key decode members old = .ok value) :
    decode ((Yaml.map members).sub key) old = .ok value := by
  unfold nested at h
  change decode (((lookup key members).bind (find [])).getD .null) old = _
  cases hnode : lookup key members with
  | none =>
    rw [hnode] at h
    exact hnull.trans h
  | some node =>
    rw [hnode] at h
    exact h

theorem of_nested_bind {key : String} {decode : Yaml → σ → Except DecodeError σ}
    {members : List (String × Yaml)} {old : σ} {next : σ → Except DecodeError β} {result : β}
    (hnull : decode .null old = .ok old)
    (h : nested key decode members old >>= next = .ok result) :
    ∃ value, decode ((Yaml.map members).sub key) old = .ok value ∧ next value = .ok result := by
  cases hnested : nested key decode members old with
  | error err =>
    rw [hnested] at h
    cases h
  | ok value =>
    rw [hnested] at h
    exact ⟨value, nested_eq_ok hnull hnested, h⟩

/-- A struct is decoded from a mapping, or left as it is. -/
theorem struct_eq_ok {decode : List (String × Yaml) → σ → Except DecodeError σ} {node : Yaml}
    {old value : σ} (h : struct decode node old = .ok value) :
    (∃ members, node = .map members ∧ decode members old = .ok value) ∨
      node = .null ∧ value = old := by
  unfold struct at h
  split at h
  · cases h
    exact .inr ⟨rfl, rfl⟩
  · split at h
    · cases h
    · exact .inl ⟨_, rfl, h⟩
  · cases h

end Yaml
