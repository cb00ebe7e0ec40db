import Mathlib.Data.Finset.Card
import Mathlib.Data.List.Count
import Slan.Lib.Transition

/-! # Values that are chosen from what was read before

Several parties read which values are used, choose one that is not, and take it later. A value that
another party has taken meanwhile is refused.
-/

open Transition

/-- How a value of a pool is chosen. -/
structure Chooser (α : Type) where
  pool : Finset α
  pick : Finset α → Option α
  unused : ∀ {used a}, pick used = some a → a ∉ used
  /-- The choice stands as long as the value is not used. -/
  stable : ∀ {used used' a}, used ⊆ used' → pick used = some a → a ∉ used' → pick used' = some a
  total : ∀ {used}, pick used = none → pool ⊆ used

inductive Party (α : Type) where
  | waiting
  | holding (a : α)
  | settled
  | refused

structure Race (α : Type) where
  used : Finset α
  parties : List (Party α)

namespace Race

variable {α : Type}

inductive Event where
  | read (i : Nat)
  | take (i : Nat)
  /-- A party finds that it needs no value. -/
  | leave (i : Nat)

def become (r : Race α) (i : Nat) (party : Party α) : Race α :=
  { r with parties := r.parties.set i party }

def chosen : Option α → Party α
  | some a => .holding a
  | none => .refused

def step [DecidableEq α] (c : Chooser α) (r : Race α) : Event → Option (Race α)
  | .read i =>
    match r.parties[i]? with
    | some .waiting => some (r.become i (chosen (c.pick r.used)))
    | _ => none
  | .take i =>
    match r.parties[i]? with
    | some (.holding a) =>
      some (if a ∈ r.used then r.become i .refused
        else { r.become i .settled with used := insert a r.used })
    | _ => none
  | .leave i =>
    match r.parties[i]? with
    | some .waiting => some (r.become i .settled)
    | _ => none

def isHolding : Party α → Bool
  | .holding _ => true
  | _ => false

def isPending : Party α → Bool
  | .waiting | .holding _ => true
  | _ => false

/-- A party reads while no other one holds a value that it has not taken yet. -/
def TakesTurns (r : Race α) : Event → Prop
  | .read _ => ∀ party ∈ r.parties, isHolding party = false
  | _ => True

instance : ∀ (r : Race α) (e : Event), Decidable (TakesTurns r e)
  | r, .read _ => inferInstanceAs (Decidable (∀ party ∈ r.parties, isHolding party = false))
  | _, .take _ => inferInstanceAs (Decidable True)
  | _, .leave _ => inferInstanceAs (Decidable True)

section Steps

variable {c : Chooser α} {r t : Race α} {e : Event}

theorem getElem?_become {i : Nat} {party : Party α} (h : r.parties[i]? = some party)
    (party' : Party α) (j : Nat) :
    (r.become i party').parties[j]? = if i = j then some party' else r.parties[j]? := by
  obtain ⟨hlt, _⟩ := List.getElem?_eq_some_iff.mp h
  unfold become
  rw [List.getElem?_set]
  split
  · rfl
  · rfl

theorem getElem?_become_ne {i j : Nat} {old new party : Party α} (hi : r.parties[i]? = some old)
    (hj : r.parties[j]? = some party) (hne : i ≠ j) :
    (r.become i new).parties[j]? = some party := by
  rw [getElem?_become hi, if_neg hne, hj]

theorem become_self {i : Nat} {party : Party α} (h : r.parties[i]? = some party) :
    r.become i party = r := by
  obtain ⟨hlt, rfl⟩ := List.getElem?_eq_some_iff.mp h
  unfold become
  rw [List.set_getElem_self]

theorem countP_become {i : Nat} {party : Party α} (h : r.parties[i]? = some party)
    (hpending : isPending party = true) (party' : Party α) :
    (r.become i party').parties.countP isPending + 1 =
      r.parties.countP isPending + (if isPending party' then 1 else 0) := by
  obtain ⟨hlt, rfl⟩ := List.getElem?_eq_some_iff.mp h
  have hpos : 0 < r.parties.countP isPending :=
    List.countP_pos_iff.mpr ⟨_, List.getElem_mem hlt, hpending⟩
  unfold become
  rw [List.countP_set hlt, if_pos hpending]
  omega

theorem chosen_eq_holding {o : Option α} {a : α} (h : chosen o = .holding a) : o = some a := by
  cases o with
  | none => cases h
  | some b => rw [Party.holding.inj h]

/-! ## Parties that will get what they hold, and others -/

/-- No party has been refused a value, or will be. -/
structure Clean (r : Race α) : Prop where
  accepted : ∀ i : Nat, r.parties[i]? ≠ some Party.refused
  free : ∀ (i : Nat) (a : α), r.parties[i]? = some (.holding a) → a ∉ r.used
  alone : ∀ (i j : Nat) (a b : α), r.parties[i]? = some (.holding a) →
    r.parties[j]? = some (.holding b) → i = j

/-- A party has been refused a value, or will be. -/
def Spoiled (r : Race α) : Prop :=
  (∃ i : Nat, r.parties[i]? = some .refused) ∨
  (∃ (i : Nat) (a : α), r.parties[i]? = some (.holding a) ∧ a ∈ r.used) ∨
  ∃ (i j : Nat) (a : α), i ≠ j ∧ r.parties[i]? = some (.holding a) ∧
    r.parties[j]? = some (.holding a)

theorem Spoiled.exists_refused (h : Spoiled r)
    (hdone : ∀ party ∈ r.parties, isPending party = false) :
    .refused ∈ r.parties := by
  have hnone : ∀ (i : Nat) (a : α), r.parties[i]? ≠ some (.holding a) := fun i a hi => by
    cases hdone _ (List.mem_of_getElem? hi)
  rcases h with ⟨i, hi⟩ | ⟨i, a, hi, _⟩ | ⟨i, j, a, _, hi, _⟩
  · exact List.mem_of_getElem? hi
  · exact absurd hi (hnone i a)
  · exact absurd hi (hnone i a)

/-- A party that waits has no part in the clash of two others. -/
theorem Spoiled.of_waiting (h : Spoiled r) {i : Nat} (hparty : r.parties[i]? = some .waiting)
    (new : Party α) : Spoiled (r.become i new) := by
  have hne : ∀ {j : Nat} {party : Party α}, r.parties[j]? = some party → party ≠ .waiting →
      i ≠ j := by
    rintro j party hj hwaiting rfl
    exact hwaiting (Option.some.inj (hj.symm.trans hparty))
  rcases h with ⟨j, hj⟩ | ⟨j, a, hj, hused⟩ | ⟨j, k, a, hjk, hj, hk⟩
  · exact .inl ⟨j, getElem?_become_ne hparty hj (hne hj nofun)⟩
  · exact .inr (.inl ⟨j, a, getElem?_become_ne hparty hj (hne hj nofun), hused⟩)
  · exact .inr (.inr ⟨j, k, a, hjk, getElem?_become_ne hparty hj (hne hj nofun),
      getElem?_become_ne hparty hk (hne hk nofun)⟩)

/-! ## What a step does -/

variable [DecidableEq α]

theorem step_read {i : Nat} (h : r.parties[i]? = some .waiting) :
    r.step c (.read i) = some (r.become i (chosen (c.pick r.used))) := by
  simp only [step, h]

theorem step_leave {i : Nat} (h : r.parties[i]? = some .waiting) :
    r.step c (.leave i) = some (r.become i .settled) := by
  simp only [step, h]

theorem step_take_used {i : Nat} {a : α} (h : r.parties[i]? = some (.holding a))
    (hused : a ∈ r.used) : r.step c (.take i) = some (r.become i .refused) := by
  simp only [step, h, if_pos hused]

theorem step_take_free {i : Nat} {a : α} (h : r.parties[i]? = some (.holding a))
    (hfree : a ∉ r.used) :
    r.step c (.take i) = some { r.become i .settled with used := insert a r.used } := by
  simp only [step, h, if_neg hfree]

theorem step_cases (h : r.step c e = some t) :
    (∃ i, e = .read i ∧ r.parties[i]? = some .waiting ∧ t = r.become i (chosen (c.pick r.used))) ∨
    (∃ i a, e = .take i ∧ r.parties[i]? = some (.holding a) ∧ a ∈ r.used ∧
      t = r.become i .refused) ∨
    (∃ i a, e = .take i ∧ r.parties[i]? = some (.holding a) ∧ a ∉ r.used ∧
      t = { r.become i .settled with used := insert a r.used }) ∨
    ∃ i, e = .leave i ∧ r.parties[i]? = some .waiting ∧ t = r.become i .settled := by
  cases e with
  | read i =>
    simp only [step] at h
    split at h
    · rename_i hparty
      exact .inl ⟨i, rfl, hparty, (Option.some.inj h).symm⟩
    · cases h
  | take i =>
    simp only [step] at h
    split at h
    · rename_i a hparty
      split at h
      · rename_i hused
        exact .inr (.inl ⟨i, a, rfl, hparty, hused, (Option.some.inj h).symm⟩)
      · rename_i hfree
        exact .inr (.inr (.inl ⟨i, a, rfl, hparty, hfree, (Option.some.inj h).symm⟩))
    · cases h
  | leave i =>
    simp only [step] at h
    split at h
    · rename_i hparty
      exact .inr (.inr (.inr ⟨i, rfl, hparty, (Option.some.inj h).symm⟩))
    · cases h

/-! ## Invariants -/

/-- What is held was chosen, and there is a value left for every party that may need one. -/
structure Kept (c : Chooser α) (r : Race α) : Prop where
  held : ∀ (i : Nat) (a : α), r.parties[i]? = some (.holding a) →
    ∃ used, used ⊆ r.used ∧ c.pick used = some a
  room : r.parties.countP isPending ≤ (c.pool \ r.used).card

theorem Kept.become (h : Kept c r) {i : Nat} {party : Party α} (hparty : r.parties[i]? = some party)
    (hpending : isPending party = true) {party' : Party α}
    (hheld : ∀ a, party' = .holding a → c.pick r.used = some a) : Kept c (r.become i party') where
  held j b hj := by
    rw [getElem?_become hparty] at hj
    split at hj
    · exact ⟨r.used, Finset.Subset.refl _, hheld b (Option.some.inj hj)⟩
    · exact h.held j b hj
  room := by
    have hcount := countP_become hparty hpending party'
    have hone : (if isPending party' then 1 else 0) ≤ 1 := by split <;> omega
    have hroom := h.room
    change _ ≤ (c.pool \ r.used).card
    omega

/-- A party settles with a value, which is used then. -/
theorem Kept.take (h : Kept c r) {i : Nat} {a : α} (hparty : r.parties[i]? = some (.holding a)) :
    Kept c { r.become i .settled with used := insert a r.used } where
  held j b hj := by
    change (r.become i .settled).parties[j]? = _ at hj
    rw [getElem?_become hparty] at hj
    split at hj
    · cases hj
    · obtain ⟨used, hsub, hpick⟩ := h.held j b hj
      exact ⟨used, hsub.trans (Finset.subset_insert a r.used), hpick⟩
  room := by
    have hcount : (r.become i .settled).parties.countP isPending + 1 =
        r.parties.countP isPending + 0 := countP_become hparty rfl .settled
    have hless : (c.pool \ r.used).card - 1 ≤ (c.pool \ insert a r.used).card := by
      rw [Finset.sdiff_insert]
      exact Finset.pred_card_le_card_erase
    have hroom := h.room
    change (r.become i .settled).parties.countP isPending ≤ (c.pool \ insert a r.used).card
    omega

theorem Kept.step (h : Kept c r) (hstep : r.step c e = some t) : Kept c t := by
  rcases step_cases hstep with ⟨i, rfl, hparty, rfl⟩ | ⟨i, a, rfl, hparty, _, rfl⟩ |
    ⟨i, a, rfl, hparty, hfree, rfl⟩ | ⟨i, rfl, hparty, rfl⟩
  · exact h.become hparty rfl fun a ha => chosen_eq_holding ha
  · exact h.become hparty rfl nofun
  · exact h.take hparty
  · exact h.become hparty rfl nofun

/-- While a party waits there is a value to choose. -/
theorem Kept.exists_pick (h : Kept c r) {i : Nat} (hparty : r.parties[i]? = some .waiting) :
    ∃ a, c.pick r.used = some a := by
  cases hpick : c.pick r.used with
  | some a => exact ⟨a, rfl⟩
  | none =>
    have hpos : 0 < r.parties.countP isPending :=
      List.countP_pos_iff.mpr ⟨_, List.mem_of_getElem? hparty, rfl⟩
    have hroom := h.room
    rw [Finset.sdiff_eq_empty_iff_subset.mpr (c.total hpick), Finset.card_empty] at hroom
    omega

theorem Clean.step (h : Clean r) (hkept : Kept c r) (hturn : TakesTurns r e)
    (hstep : r.step c e = some t) : Clean t := by
  rcases step_cases hstep with ⟨i, rfl, hparty, rfl⟩ | ⟨i, a, rfl, hparty, hused, _⟩ |
    ⟨i, a, rfl, hparty, hfree, rfl⟩ | ⟨i, rfl, hparty, rfl⟩
  · obtain ⟨a, hpick⟩ := hkept.exists_pick hparty
    rw [hpick]
    -- nobody else holds anything when a party reads in its turn
    have honly : ∀ (j : Nat) (b : α), (r.become i (chosen (some a))).parties[j]? =
        some (.holding b) → i = j ∧ b = a := by
      intro j b hj
      rw [getElem?_become hparty] at hj
      split at hj
      · rename_i hij
        exact ⟨hij, (Party.holding.inj (Option.some.inj hj)).symm⟩
      · have hnone := hturn _ (List.mem_of_getElem? hj)
        cases hnone
    refine ⟨fun j hj => ?_, fun j b hj => ?_, fun j k b d hj hk => ?_⟩
    · rw [getElem?_become hparty] at hj
      split at hj
      · cases hj
      · exact h.accepted j hj
    · obtain ⟨_, rfl⟩ := honly j b hj
      exact c.unused hpick
    · exact (honly j b hj).1.symm.trans (honly k d hk).1
  · exact absurd hused (h.free i a hparty)
  -- the only party that held anything has taken it
  · have hother : ∀ (j : Nat) (b : α),
        ({ r.become i .settled with used := insert a r.used } : Race α).parties[j]? ≠
          some (.holding b) := by
      intro j b hj
      change (r.become i .settled).parties[j]? = _ at hj
      rw [getElem?_become hparty] at hj
      split at hj
      · cases hj
      · rename_i hij
        exact hij (h.alone i j a b hparty hj)
    refine ⟨fun j hj => ?_, fun j b hj => absurd hj (hother j b),
      fun j k b d hj _ => absurd hj (hother j b)⟩
    change (r.become i .settled).parties[j]? = _ at hj
    rw [getElem?_become hparty] at hj
    split at hj
    · cases hj
    · exact h.accepted j hj
  · have hsame : ∀ (j : Nat) (party : Party α), party ≠ .settled →
        (r.become i .settled).parties[j]? = some party → r.parties[j]? = some party := by
      intro j party hne hj
      rw [getElem?_become hparty] at hj
      split at hj
      · exact absurd (Option.some.inj hj).symm hne
      · exact hj
    exact ⟨fun j hj => h.accepted j (hsame j _ nofun hj),
      fun j b hj => h.free j b (hsame j _ nofun hj),
      fun j k b d hj hk => h.alone j k b d (hsame j _ nofun hj) (hsame k _ nofun hk)⟩

/-- Once two parties are after one value, one of them will be refused. -/
theorem Spoiled.step (h : Spoiled r) (hstep : r.step c e = some t) : Spoiled t := by
  have hset : ∀ {i : Nat} {old new : Party α}, r.parties[i]? = some old →
      (r.become i new).parties[i]? = some new := by
    intro i old new hi
    rw [getElem?_become hi, if_pos rfl]
  rcases step_cases hstep with ⟨i, rfl, hparty, rfl⟩ | ⟨i, a, rfl, hparty, _, rfl⟩ |
    ⟨i, a, rfl, hparty, hfree, rfl⟩ | ⟨i, rfl, hparty, rfl⟩
  · exact h.of_waiting hparty _
  · exact .inl ⟨i, hset hparty⟩
  · rcases h with ⟨j, hj⟩ | ⟨j, b, hj, hused⟩ | ⟨j, k, b, hjk, hj, hk⟩
    · have hne : i ≠ j := by
        rintro rfl
        cases hj.symm.trans hparty
      exact .inl ⟨j, getElem?_become_ne hparty hj hne⟩
    · have hne : i ≠ j := by
        rintro rfl
        obtain rfl := Party.holding.inj (Option.some.inj (hj.symm.trans hparty))
        exact hfree hused
      exact .inr (.inl ⟨j, b, getElem?_become_ne hparty hj hne, Finset.mem_insert_of_mem hused⟩)
    · -- the one of the two that did not take the value now holds a used one
      by_cases hij : i = j
      · subst hij
        obtain rfl := Party.holding.inj (Option.some.inj (hj.symm.trans hparty))
        exact .inr (.inl ⟨k, b, getElem?_become_ne hparty hk hjk, Finset.mem_insert_self _ _⟩)
      · by_cases hik : i = k
        · subst hik
          obtain rfl := Party.holding.inj (Option.some.inj (hk.symm.trans hparty))
          exact .inr (.inl ⟨j, b, getElem?_become_ne hparty hj hij, Finset.mem_insert_self _ _⟩)
        · exact .inr (.inr ⟨j, k, b, hjk, getElem?_become_ne hparty hj hij,
            getElem?_become_ne hparty hk hik⟩)
  · exact h.of_waiting hparty _

/-- A party that reads out of turn chooses what another one holds. -/
theorem spoiled_of_read (h : Kept c r) (hturn : ¬TakesTurns r e) (hstep : r.step c e = some t) :
    Spoiled t := by
  rcases step_cases hstep with ⟨i, rfl, hparty, rfl⟩ | ⟨i, a, rfl, _⟩ | ⟨i, a, rfl, _⟩ | ⟨i, rfl, _⟩
  · simp only [TakesTurns, not_forall] at hturn
    obtain ⟨party, hmem, hholding⟩ := hturn
    obtain ⟨j, hj⟩ := List.mem_iff_getElem?.mp hmem
    cases party with
    | waiting | settled | refused => exact absurd rfl hholding
    | holding b =>
      have hij : i ≠ j := by
        rintro rfl
        cases hparty.symm.trans hj
      have hstill : (r.become i (chosen (c.pick r.used))).parties[j]? = some (.holding b) := by
        rw [getElem?_become hparty, if_neg hij, hj]
      by_cases hused : b ∈ r.used
      · exact .inr (.inl ⟨j, b, hstill, hused⟩)
      · obtain ⟨used, hsub, hpick⟩ := h.held j b hj
        have hsame : c.pick r.used = some b := c.stable hsub hpick hused
        refine .inr (.inr ⟨i, j, b, hij, ?_, hstill⟩)
        rw [getElem?_become hparty, if_pos rfl, hsame]
        rfl
  · exact absurd trivial hturn
  · exact absurd trivial hturn
  · exact absurd trivial hturn

theorem Spoiled.exec (h : Spoiled r) {es : List Event}
    (hexec : Transition.exec (Race.step c) r es = some t) : Spoiled t := by
  induction es generalizing r with
  | nil =>
    obtain rfl := Option.some.inj hexec
    exact h
  | cons e es ih =>
    obtain ⟨u, hu, hut⟩ := Option.bind_eq_some_iff.mp hexec
    exact ih (h.step hu) hut

/-- In a run that settles everything no party is refused just where they have taken turns. -/
theorem exec_iff_takesTurns {es : List Event} (hkept : Kept c r) (hclean : Clean r)
    (hexec : Transition.exec (step c) r es = some t)
    (hdone : ∀ party ∈ t.parties, isPending party = false) :
    .refused ∉ t.parties ↔ execGuarded TakesTurns (step c) r es = some t := by
  induction es generalizing r with
  | nil =>
    obtain rfl := Option.some.inj hexec
    refine ⟨fun _ => rfl, fun _ hmem => ?_⟩
    obtain ⟨i, hi⟩ := List.mem_iff_getElem?.mp hmem
    exact hclean.accepted i hi
  | cons e es ih =>
    obtain ⟨u, hu, hut⟩ := Option.bind_eq_some_iff.mp hexec
    rw [execGuarded_cons hu]
    by_cases hturn : TakesTurns r e
    · rw [if_pos hturn]
      exact ih (hkept.step hu) (hclean.step hkept hturn hu) hut
    · rw [if_neg hturn]
      have hspoiled : Spoiled t := Spoiled.exec (spoiled_of_read hkept hturn hu) hut
      exact ⟨fun h => absurd (Spoiled.exists_refused hspoiled hdone) h, nofun⟩

end Steps

end Race
