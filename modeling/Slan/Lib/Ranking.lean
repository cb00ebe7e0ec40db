import Mathlib.Data.List.Pairwise
import Mathlib.Data.List.Sort
import Mathlib.Order.Lattice

/-! # Comparisons that compare keys

A comparison of which the code says only when one element comes before another, and the order of
the keys that it goes by.
-/

namespace Ranking

variable {α κ : Type*} [LinearOrder κ] {before : α → α → Bool} {key : α → κ} {a b : α}
  {xs ys : List α}

def Ranks (before : α → α → Bool) (key : α → κ) : Prop :=
  ∀ a b, before a b = true ↔ key a < key b

theorem Ranks.eq_false_iff (h : Ranks before key) (a b : α) :
    before b a = false ↔ key a ≤ key b := by
  rw [← Bool.not_eq_true, h, not_lt]

/-- What compares keys is a strict weak order. -/
theorem Ranks.isStrictWeakOrder (h : Ranks before key) :
    IsStrictWeakOrder α fun a b => before a b = true where
  irrefl a := by
    rw [h]
    exact lt_irrefl _
  trans a b c := by
    rw [h, h, h]
    exact lt_trans
  incomp_trans a b c := by
    rw [h, h, h, h, h, h, not_lt, not_lt, not_lt, not_lt, not_lt, not_lt]
    exact fun ⟨hba, hab⟩ ⟨hcb, hbc⟩ => ⟨hcb.trans hba, hab.trans hbc⟩

/-- A strict weak order, and a sort that leaves nothing before what should come before it. -/
structure Consistent (before : α → α → Bool) (sort : List α → List α) : Prop where
  weak : IsStrictWeakOrder α fun a b => before a b = true
  perm : ∀ xs, (sort xs).Perm xs
  ordered : ∀ xs, (sort xs).Pairwise fun a b => before b a = false

/-- A stable sort puts the keys in order. -/
theorem Ranks.pairwise_insertionSort (h : Ranks before key) (xs : List α) :
    (xs.insertionSort fun a b => before b a = false).Pairwise fun a b => key a ≤ key b := by
  have : Std.Total fun a b : α => before b a = false :=
    ⟨fun a b => by rw [h.eq_false_iff, h.eq_false_iff]; exact le_total _ _⟩
  have : IsTrans α fun a b => before b a = false :=
    ⟨fun a b c => by rw [h.eq_false_iff, h.eq_false_iff, h.eq_false_iff]; exact le_trans⟩
  have hsorted := List.pairwise_insertionSort (fun a b => before b a = false) xs
  exact hsorted.imp fun hab => (h.eq_false_iff _ _).mp hab

theorem Ranks.consistent (h : Ranks before key) :
    Consistent before fun xs => xs.insertionSort fun a b => before b a = false where
  weak := h.isStrictWeakOrder
  perm xs := List.perm_insertionSort _ xs
  ordered xs := (h.pairwise_insertionSort xs).imp fun hle => (h.eq_false_iff _ _).mpr hle

/-- What a stable sort puts first has the least key. -/
theorem Ranks.key_le_of_head? (h : Ranks before key)
    (hhead : (xs.insertionSort fun a b => before b a = false).head? = some a) (hb : b ∈ xs) :
    key a ≤ key b := by
  have hsorted := h.pairwise_insertionSort xs
  have hmem : b ∈ xs.insertionSort fun a b => before b a = false :=
    (List.mem_insertionSort _).mpr hb
  cases hxs : xs.insertionSort fun a b => before b a = false with
  | nil =>
    rw [hxs] at hmem
    cases hmem
  | cons first rest =>
    rw [hxs] at hhead hmem hsorted
    obtain rfl := Option.some.inj hhead
    obtain rfl | hrest := List.mem_cons.mp hmem
    · exact le_rfl
    · exact (List.pairwise_cons.mp hsorted).1 b hrest

/-- Where elements are told apart by their keys, the order that they come in does not matter. -/
theorem Ranks.insertionSort_eq_of_perm (h : Ranks before key) (hperm : xs.Perm ys)
    (hkey : ∀ a ∈ xs, ∀ b ∈ xs, key a = key b → a = b) :
    (xs.insertionSort fun a b => before b a = false) =
      ys.insertionSort fun a b => before b a = false := by
  have hxs := List.perm_insertionSort (fun a b => before b a = false) xs
  have hys := List.perm_insertionSort (fun a b => before b a = false) ys
  refine List.Perm.eq_of_pairwise (fun a b ha hb hab hba => ?_) (h.pairwise_insertionSort xs)
    (h.pairwise_insertionSort ys) (hxs.trans (hperm.trans hys.symm))
  exact hkey a (hxs.mem_iff.mp ha) b (hperm.mem_iff.mpr (hys.mem_iff.mp hb)) (le_antisymm hab hba)

/-- In a list without duplicates one of two elements comes first. -/
theorem eq_of_pair_sublist (hnodup : xs.Nodup) (hab : [a, b].Sublist xs)
    (hba : [b, a].Sublist xs) : a = b := by
  induction xs with
  | nil => cases hab
  | cons x xs ih =>
    obtain ⟨hx, hrest⟩ := List.nodup_cons.mp hnodup
    cases hab with
    | cons _ hab =>
      cases hba with
      | cons _ hba => exact ih hrest hab hba
      | cons_cons _ _ => exact absurd (hab.subset (List.mem_cons_of_mem a List.mem_cons_self)) hx
    | cons_cons _ hb =>
      cases hba with
      | cons _ hba => exact absurd (hba.subset (List.mem_cons_of_mem b List.mem_cons_self)) hx
      | cons_cons _ _ => rfl

/-- The order that elements come in does not matter only where their keys tell them apart. -/
theorem Ranks.eq_of_insertionSort_eq (h : Ranks before key) (hnodup : xs.Nodup)
    (hsame : ∀ ys zs : List α, ys.Perm xs → zs.Perm xs →
      (ys.insertionSort fun a b => before b a = false) =
        zs.insertionSort fun a b => before b a = false)
    (ha : a ∈ xs) (hb : b ∈ xs) (hkey : key a = key b) : a = b := by
  classical
  by_contra hne
  have hxs : xs.Perm (a :: b :: (xs.erase a).erase b) :=
    (List.perm_cons_erase ha).trans
      (.cons a (List.perm_cons_erase ((List.mem_erase_of_ne (Ne.symm hne)).mpr hb)))
  have hpair : ∀ {a b : α} {ys : List α}, key a = key b → [a, b].Sublist ys →
      [a, b].Sublist (ys.insertionSort fun a b => before b a = false) := by
    intro a b ys hkey hsub
    exact List.pair_sublist_insertionSort ((h.eq_false_iff a b).mpr hkey.le) hsub
  have hsorted := hsame _ _ hxs.symm ((List.Perm.swap a b _).trans hxs.symm)
  have hab := hpair hkey (List.prefix_append [a, b] ((xs.erase a).erase b)).sublist
  have hba := hpair hkey.symm (List.prefix_append [b, a] ((xs.erase a).erase b)).sublist
  refine hne (eq_of_pair_sublist ?_ hab (hsorted ▸ hba))
  exact (List.perm_insertionSort _ _).nodup_iff.mpr (hxs.nodup_iff.mp hnodup)

/-- An element that is strictly before another is not listed after it. -/
theorem Ranks.not_sublist_insertionSort (h : Ranks before key) (hbefore : before a b = true)
    (xs : List α) : ¬[b, a].Sublist (xs.insertionSort fun a b => before b a = false) := by
  intro hsub
  have hpair := List.Pairwise.sublist hsub (h.pairwise_insertionSort xs)
  have hle : key b ≤ key a := List.rel_of_pairwise_cons hpair List.mem_cons_self
  exact absurd ((h a b).mp hbefore) (not_lt.mpr hle)

/-- A list in the order of its keys has no element too late if and only if no key comes too late. -/
theorem pairwise_not_iff_lt (late : α → α → Prop) (hsorted : xs.Pairwise fun a b => key a ≤ key b)
    (hlate : ∀ a b, late a b → key b ≠ key a) :
    (xs.Pairwise fun a b => ¬late a b) ↔ ∀ a ∈ xs, ∀ b ∈ xs, late a b → key b < key a := by
  constructor
  · intro h a ha b hb hab
    let first (a b : α) : Prop := key a ≤ key b ∧ ¬late a b
    have hpairs : xs.Pairwise fun a b => first a b ∨ first b a := (hsorted.and h).imp .inl
    have : Std.Symm fun a b => first a b ∨ first b a := ⟨fun _ _ => Or.symm⟩
    have hne : b ≠ a := fun heq => hlate a b hab (congrArg key heq)
    rcases hpairs.forall hb ha hne with ⟨hle, -⟩ | ⟨-, hnot⟩
    · exact lt_of_le_of_ne hle (hlate a b hab)
    · exact absurd hab hnot
  · intro h
    refine (List.Pairwise.and_mem.mp hsorted).imp fun ⟨ha, hb, hle⟩ hab => ?_
    exact absurd hle (not_le.mpr (h _ ha _ hb hab))

end Ranking
