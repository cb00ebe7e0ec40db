import Mathlib.Data.List.Sort
import Mathlib.Data.List.Pairwise
import Mathlib.Data.String.Basic

/-! # Relations of a database

A relation keeps its uniqueness constraints: `clash` says which two rows may not stand together. A
write that would break one is refused.
-/

structure Relation (α : Type) (clash : α → α → Prop) where
  rows : List α
  apart : rows.Pairwise fun a b => ¬clash a b

namespace Relation

variable {α : Type} {clash : α → α → Prop}

instance : EmptyCollection (Relation α clash) := ⟨⟨[], .nil⟩⟩

instance : Membership α (Relation α clash) := ⟨fun r a => a ∈ r.rows⟩

theorem mem_def {r : Relation α clash} {a : α} : a ∈ r ↔ a ∈ r.rows := Iff.rfl

@[simp] theorem not_mem_empty (a : α) : a ∉ (∅ : Relation α clash) := List.not_mem_nil

@[ext] theorem ext {r t : Relation α clash} (h : r.rows = t.rows) : r = t := by
  cases r
  cases t
  cases h
  rfl

/-! ## Statements -/

def select (r : Relation α clash) (chosen : α → Bool) : List α := r.rows.filter chosen

def find? (r : Relation α clash) (chosen : α → Bool) : Option α := r.rows.find? chosen

def delete (r : Relation α clash) (chosen : α → Bool) : Relation α clash :=
  ⟨r.rows.filter fun a => !chosen a, r.apart.filter _⟩

/-- An update of columns that no constraint looks at. -/
def alter (r : Relation α clash) (f : α → α) (hf : ∀ a b, clash (f a) (f b) ↔ clash a b) :
    Relation α clash :=
  ⟨r.rows.map f, List.pairwise_map.mpr (r.apart.imp fun h => mt (hf _ _).mp h)⟩

def ofRows? [DecidableRel clash] (rows : List α) : Option (Relation α clash) :=
  if h : rows.Pairwise fun a b => ¬clash a b then some ⟨rows, h⟩ else none

/-- The rows, or none where two of them clash. -/
def ofRows [DecidableRel clash] (rows : List α) : Relation α clash := (ofRows? rows).getD ∅

def insert [DecidableRel clash] (r : Relation α clash) (row : α) : Option (Relation α clash) :=
  ofRows? (r.rows ++ [row])

def update [DecidableRel clash] (r : Relation α clash) (f : α → α) : Option (Relation α clash) :=
  ofRows? (r.rows.map f)

/-! ## What they leave -/

theorem mem_delete {r : Relation α clash} {chosen : α → Bool} {a : α} :
    a ∈ r.delete chosen ↔ a ∈ r ∧ chosen a = false := by
  simp [mem_def, delete]

theorem delete_eq_self {r : Relation α clash} {chosen : α → Bool}
    (h : ∀ a ∈ r, chosen a = false) : r.delete chosen = r :=
  ext (List.filter_eq_self.mpr fun a ha => by rw [h a ha]; rfl)

theorem alter_eq_self {r : Relation α clash} {f : α → α}
    {hf : ∀ a b, clash (f a) (f b) ↔ clash a b} (h : ∀ a ∈ r, f a = a) : r.alter f hf = r :=
  ext ((List.map_congr_left h).trans (List.map_id' r.rows))

theorem mem_alter {r : Relation α clash} {f : α → α}
    {hf : ∀ a b, clash (f a) (f b) ↔ clash a b} {a : α} :
    a ∈ r.alter f hf ↔ ∃ b ∈ r, f b = a := by
  simp [mem_def, alter]

theorem mem_select {r : Relation α clash} {chosen : α → Bool} {a : α} :
    a ∈ r.select chosen ↔ a ∈ r ∧ chosen a = true := by
  simp [mem_def, select]

theorem mem_of_find? {r : Relation α clash} {chosen : α → Bool} {a : α}
    (h : r.find? chosen = some a) : a ∈ r := List.mem_of_find?_eq_some h

theorem chosen_of_find? {r : Relation α clash} {chosen : α → Bool} {a : α}
    (h : r.find? chosen = some a) : chosen a = true := List.find?_some h

/-- A lookup by a key. -/
theorem of_find?_key {r : Relation α clash} {key : α → String} {k : String} {a : α}
    (h : r.find? (fun row => key row == k) = some a) : a ∈ r ∧ key a = k :=
  ⟨mem_of_find? h, beq_iff_eq.mp (List.find?_some (p := fun row => key row == k) h)⟩

theorem find?_eq_none {r : Relation α clash} {chosen : α → Bool} :
    r.find? chosen = none ↔ ∀ a ∈ r, chosen a = false := by
  simp [find?, mem_def]

section Writes

variable [DecidableRel clash]

theorem ofRows?_eq_some {rows : List α} {t : Relation α clash} :
    ofRows? rows = some t ↔ t.rows = rows := by
  unfold ofRows?
  constructor
  · intro h
    split at h
    · obtain rfl := Option.some.inj h
      rfl
    · cases h
  · rintro rfl
    rw [dif_pos t.apart]

theorem ofRows?_eq_none {rows : List α} :
    (ofRows? rows : Option (Relation α clash)) = none ↔
      ¬rows.Pairwise fun a b => ¬clash a b := by
  unfold ofRows?
  split <;> simp [*]

theorem insert_eq_some {r t : Relation α clash} {row : α} :
    r.insert row = some t ↔ t.rows = r.rows ++ [row] := ofRows?_eq_some

theorem insert_eq_none {r : Relation α clash} {row : α} :
    r.insert row = none ↔ ∃ a ∈ r, clash a row := by
  unfold insert
  rw [ofRows?_eq_none, List.pairwise_append]
  simp [r.apart, mem_def]

theorem not_clash_of_insert {r t : Relation α clash} {row a : α} (h : r.insert row = some t)
    (ha : a ∈ r) : ¬clash a row := fun hclash => by
  rw [insert_eq_none.mpr ⟨a, ha, hclash⟩] at h
  cases h

theorem mem_insert {r t : Relation α clash} {row a : α} (h : r.insert row = some t) :
    a ∈ t ↔ a ∈ r ∨ a = row := by
  rw [mem_def, insert_eq_some.mp h]
  simp [mem_def]

theorem update_eq_some {r t : Relation α clash} {f : α → α} :
    r.update f = some t ↔ t.rows = r.rows.map f := ofRows?_eq_some

theorem mem_update {r t : Relation α clash} {f : α → α} {a : α} (h : r.update f = some t) :
    a ∈ t ↔ ∃ b ∈ r, f b = a := by
  rw [mem_def, update_eq_some.mp h]
  simp [mem_def]

end Writes

/-! ## Rows are told apart by what they may not share -/

/-- No row stands twice where a row clashes with itself. -/
theorem nodup [Std.Refl clash] (r : Relation α clash) : r.rows.Nodup :=
  r.apart.imp fun {a b} (h : ¬clash a b) (hab : a = b) => h (hab ▸ Std.Refl.refl a)

section Identity

variable [Std.Symm clash]

theorem eq_of_clash {r : Relation α clash} {a b : α} (ha : a ∈ r) (hb : b ∈ r)
    (h : clash a b) : a = b := by
  by_contra hne
  have : Std.Symm fun a b => ¬clash a b := ⟨fun _ _ hnot hba => hnot (symm hba)⟩
  exact r.apart.forall ha hb hne h

/-- A lookup by what identifies a row finds it. -/
theorem find?_eq_some_of_mem {r : Relation α clash} {chosen : α → Bool}
    (hchosen : ∀ a b, chosen a = true → chosen b = true → clash a b) {a : α} (ha : a ∈ r)
    (h : chosen a = true) : r.find? chosen = some a := by
  obtain ⟨b, hb⟩ := Option.isSome_iff_exists.mp (List.find?_isSome.mpr ⟨a, ha, h⟩)
  obtain rfl := eq_of_clash (mem_of_find? hb) ha (hchosen b a (chosen_of_find? hb) h)
  exact hb

/-- An update is let through if no two rows clash after it. -/
theorem exists_update [DecidableRel clash] [Std.Refl clash] {r : Relation α clash} {f : α → α} :
    (∃ t, r.update f = some t) ↔ ∀ a ∈ r, ∀ b ∈ r, clash (f a) (f b) → a = b := by
  constructor
  · rintro ⟨t, ht⟩ a ha b hb hclash
    by_contra hne
    have happart : r.rows.Pairwise fun a b => ¬clash (f a) (f b) := by
      have hrows := t.apart
      rw [update_eq_some.mp ht] at hrows
      exact List.pairwise_map.mp hrows
    have : Std.Symm fun a b => ¬clash (f a) (f b) := ⟨fun _ _ hnot hba => hnot (symm hba)⟩
    exact happart.forall ha hb hne hclash
  · intro h
    have happart : (r.rows.map f).Pairwise fun a b => ¬clash a b := by
      refine List.pairwise_map.mpr (r.nodup.pairwise_of_forall_ne fun a ha b hb hne hclash => ?_)
      exact hne (h a ha b hb hclash)
    exact ⟨⟨r.rows.map f, happart⟩, update_eq_some.mpr rfl⟩

end Identity

/-! ## Ordered selections -/

/-- `ORDER BY key`, a key being a string. -/
def orderBy (key : α → String) (rows : List α) : List α :=
  rows.insertionSort fun a b => key a ≤ key b

theorem orderBy_perm (key : α → String) (rows : List α) : (orderBy key rows).Perm rows :=
  List.perm_insertionSort _ rows

theorem mem_orderBy {key : α → String} {rows : List α} {a : α} :
    a ∈ orderBy key rows ↔ a ∈ rows := (orderBy_perm key rows).mem_iff

theorem orderBy_sorted (key : α → String) (rows : List α) :
    (orderBy key rows).Pairwise fun a b => key a ≤ key b := by
  have : Std.Total fun a b : α => key a ≤ key b := ⟨fun a b => le_total (key a) (key b)⟩
  have : IsTrans α fun a b => key a ≤ key b := ⟨fun _ _ _ hab hbc => le_trans hab hbc⟩
  exact List.pairwise_insertionSort _ rows

/-- The first row of which something is found is the one of the least key. -/
theorem findSome?_orderBy {β : Type} {key : α → String} {rows : List α} {f : α → Option β} {b : β}
    (hkey : ∀ a ∈ rows, ∀ a' ∈ rows, key a = key a' → a = a') :
    (orderBy key rows).findSome? f = some b ↔
      ∃ a ∈ rows, f a = some b ∧ ∀ a' ∈ rows, (f a').isSome = true → key a ≤ key a' := by
  have hfirst : ∀ {c}, (orderBy key rows).findSome? f = some c →
      ∃ a ∈ rows, f a = some c ∧ ∀ a' ∈ rows, (f a').isSome = true → key a ≤ key a' := by
    intro c hfound
    obtain ⟨before, a, rest, hrows, ha, hbefore⟩ := List.findSome?_eq_some_iff.mp hfound
    have hsorted := orderBy_sorted key rows
    rw [hrows] at hsorted
    have hmem : ∀ a', a' ∈ rows ↔ a' ∈ before ++ a :: rest := fun a' => by
      rw [← hrows, mem_orderBy]
    refine ⟨a, (hmem a).mpr (by simp), ha, fun a' ha' hsome => ?_⟩
    rcases List.mem_append.mp ((hmem a').mp ha') with hbef | hrest
    · rw [hbefore a' hbef] at hsome
      cases hsome
    · rcases List.mem_cons.mp hrest with rfl | hlater
      · exact le_refl _
      · exact List.rel_of_pairwise_cons (List.pairwise_append.mp hsorted).2.1 hlater
  refine ⟨hfirst, fun ⟨a, ha, hfa, hleast⟩ => ?_⟩
  -- what is found is of the row `a`, no other row being as low
  cases hfound : (orderBy key rows).findSome? f with
  | none =>
    rw [List.findSome?_eq_none_iff.mp hfound a (mem_orderBy.mpr ha)] at hfa
    cases hfa
  | some c =>
    obtain ⟨a', ha', hfa', hleast'⟩ := hfirst hfound
    have hle : key a ≤ key a' := hleast a' ha' (by rw [hfa']; rfl)
    have hge : key a' ≤ key a := hleast' a ha (by rw [hfa]; rfl)
    obtain rfl := hkey a ha a' ha' (le_antisymm hle hge)
    rw [← hfa, ← hfa']

theorem head?_orderBy {key : α → String} {rows : List α} {a : α}
    (hkey : ∀ a ∈ rows, ∀ a' ∈ rows, key a = key a' → a = a') :
    (orderBy key rows).head? = some a ↔ a ∈ rows ∧ ∀ a' ∈ rows, key a ≤ key a' := by
  have hhead : (orderBy key rows).head? = (orderBy key rows).findSome? some := by
    cases orderBy key rows <;> rfl
  rw [hhead, findSome?_orderBy hkey]
  simp

/-- `First`: the chosen row of the least key. -/
def firstBy (r : Relation α clash) (key : α → String) (chosen : α → Bool) : Option α :=
  (orderBy key (r.select chosen)).head?

theorem mem_of_firstBy {r : Relation α clash} {key : α → String} {chosen : α → Bool} {a : α}
    (h : r.firstBy key chosen = some a) : a ∈ r ∧ chosen a = true :=
  mem_select.mp (mem_orderBy.mp (List.mem_of_mem_head? h))

end Relation
