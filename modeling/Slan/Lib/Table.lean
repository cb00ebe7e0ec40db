import Mathlib.Data.List.AList

/-! # Finite tables keyed by strings -/

/-- A hash map from strings. -/
abbrev Table (α : Type) := AList fun _ : String => α

namespace Table

variable {α : Type}

def get? (t : Table α) (k : String) : Option α := t.lookup k

def put (t : Table α) (k : String) (a : α) : Table α := t.insert k a

def remove (t : Table α) (k : String) : Table α := t.erase k

def isEmpty (t : Table α) : Bool := t.entries.isEmpty

theorem get?_put (t : Table α) (k k' : String) (a : α) :
    (t.put k a).get? k' = if k' = k then some a else t.get? k' := by
  by_cases h : k' = k
  · subst h
    simp [get?, put, AList.lookup_insert]
  · simp [get?, put, h, AList.lookup_insert_ne h]

theorem get?_remove (t : Table α) (k k' : String) :
    (t.remove k).get? k' = if k' = k then none else t.get? k' := by
  by_cases h : k' = k
  · subst h
    simp [get?, remove]
  · simp [get?, remove, h, AList.lookup_erase_ne h]

@[simp] theorem get?_put_self (t : Table α) (k : String) (a : α) : (t.put k a).get? k = some a := by
  simp [get?_put]

@[simp] theorem get?_remove_self (t : Table α) (k : String) : (t.remove k).get? k = none := by
  simp [get?_remove]

@[simp] theorem get?_empty (k : String) : (∅ : Table α).get? k = none := AList.lookup_empty k

/-- What is kept of a table. -/
def filter (keeps : α → Bool) (t : Table α) : Table α :=
  ⟨t.entries.filter fun entry => keeps entry.2, t.nodupKeys.sublist List.filter_sublist⟩

theorem get?_filter (keeps : α → Bool) (t : Table α) (k : String) :
    (t.filter keeps).get? k = (t.get? k).filter keeps := by
  ext a
  rw [Option.filter_eq_some_iff]
  have hfound : ∀ t : Table α, t.get? k = some a ↔ Sigma.mk k a ∈ t.entries := fun t =>
    AList.mem_lookup_iff
  rw [hfound, hfound, filter, List.mem_filter]

theorem isEmpty_iff (t : Table α) : t.isEmpty = true ↔ ∀ k, t.get? k = none := by
  constructor
  · intro h k
    have : t = ∅ := AList.ext (List.isEmpty_iff.mp h)
    rw [this, get?_empty]
  · intro h
    rw [isEmpty, List.isEmpty_iff]
    by_contra hne
    obtain ⟨⟨k, a⟩, hk⟩ := List.exists_mem_of_ne_nil _ hne
    have hs := AList.mem_lookup_iff.mpr hk
    rw [show t.lookup k = none from h k] at hs
    simp at hs

@[simp] theorem isEmpty_put (t : Table α) (k : String) (a : α) : (t.put k a).isEmpty = false := by
  rw [Bool.eq_false_iff, Ne, isEmpty_iff]
  exact fun h => by simpa using h k

end Table
