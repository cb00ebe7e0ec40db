import Mathlib.Data.List.Induction
import Mathlib.Tactic.Common

/-! # Events that are let through once in a while

An event is let through unless one that was let through lies less than the pause before it. To decide
it suffices to keep the time of the last one, and that only while it counts.
-/

namespace Debounce

variable {ε : Type*} (pause : Nat) (time : ε → Nat) (passed : ε → Bool)

def Debounced (history : List ε) : Prop :=
  ∀ before e after, history = before ++ e :: after →
    (passed e = true ↔ ∀ e' ∈ before, passed e' = true → time e' + pause ≤ time e)

/-- The time of the last event that was let through. -/
def lastPassed (history : List ε) : Option Nat := (history.filter passed).getLast?.map time

variable {pause time passed} {history : List ε} {e : ε}

theorem debounced_nil : Debounced pause time passed [] := by
  intro before e after h
  exact absurd h.symm (List.append_ne_nil_of_right_ne_nil _ (List.cons_ne_nil _ _))

theorem Debounced.concat (h : Debounced pause time passed history)
    (he : passed e = true ↔ ∀ e' ∈ history, passed e' = true → time e' + pause ≤ time e) :
    Debounced pause time passed (history ++ [e]) := by
  intro before e' after hsplit
  induction after using List.reverseRecOn with
  | nil =>
    obtain ⟨rfl, hlast⟩ := List.append_inj' hsplit rfl
    obtain rfl := (List.cons.inj hlast).1
    exact he
  | append_singleton after last _ =>
    rw [← List.cons_append, ← List.append_assoc] at hsplit
    obtain ⟨hhistory, -⟩ := List.append_inj' hsplit rfl
    exact h before e' after hhistory

theorem lastPassed_concat (history : List ε) (e : ε) :
    lastPassed time passed (history ++ [e]) =
      if passed e = true then some (time e) else lastPassed time passed history := by
  unfold lastPassed
  rw [List.filter_append]
  by_cases h : passed e = true
  · rw [if_pos h, List.filter_cons_of_pos h, List.filter_nil, List.getLast?_concat, Option.map_some]
  · rw [if_neg h, List.filter_cons_of_neg h, List.filter_nil, List.append_nil]

/-! ## Events of one kind among others -/

section Kinds

variable {kind : ε → Bool}

theorem Debounced.filter_concat (h : Debounced pause time passed (history.filter kind))
    (he : kind e = true → (passed e = true ↔
      ∀ e' ∈ history.filter kind, passed e' = true → time e' + pause ≤ time e)) :
    Debounced pause time passed ((history ++ [e]).filter kind) := by
  rw [List.filter_append]
  by_cases hkind : kind e = true
  · rw [List.filter_cons_of_pos hkind]
    exact h.concat (he hkind)
  · rw [List.filter_cons_of_neg hkind, List.filter_nil, List.append_nil]
    exact h

/-- What was let through is spaced. -/
theorem Debounced.spaced (h : Debounced pause time passed (history.filter kind))
    {before between after : List ε} {earlier later : ε}
    (hsplit : history = (before ++ earlier :: between) ++ later :: after)
    (hkinds : kind earlier = true ∧ kind later = true) (hearlier : passed earlier = true)
    (hlater : passed later = true) : time earlier + pause ≤ time later := by
  have hfiltered : history.filter kind =
      (before ++ earlier :: between).filter kind ++ later :: after.filter kind := by
    rw [hsplit, List.filter_append, List.filter_cons_of_pos hkinds.2]
  refine (h _ later _ hfiltered).mp hlater earlier (List.mem_filter.mpr ⟨?_, hkinds.1⟩) hearlier
  exact List.mem_append_right _ List.mem_cons_self

/-- What was not let through is covered by what was. -/
theorem Debounced.covered (h : Debounced pause time passed (history.filter kind))
    {before after : List ε} (hsplit : history = before ++ e :: after) (hkind : kind e = true)
    (hrefused : passed e = false) :
    ∃ e' ∈ before, kind e' = true ∧ passed e' = true ∧ time e < time e' + pause := by
  by_contra hnone
  have hfiltered : history.filter kind = before.filter kind ++ e :: after.filter kind := by
    rw [hsplit, List.filter_append, List.filter_cons_of_pos hkind]
  have hpassed := (h _ e _ hfiltered).mpr fun e' hmem hpassed => by
    obtain ⟨hmem, hkind'⟩ := List.mem_filter.mp hmem
    exact Nat.le_of_not_lt fun hlt => hnone ⟨e', hmem, hkind', hpassed, hlt⟩
  rw [hrefused] at hpassed
  cases hpassed

theorem lastPassed_filter_concat (history : List ε) (e : ε) :
    lastPassed time passed ((history ++ [e]).filter kind) =
      if passed e = true ∧ kind e = true then some (time e)
      else lastPassed time passed (history.filter kind) := by
  rw [List.filter_append]
  by_cases hkind : kind e = true
  · rw [List.filter_cons_of_pos hkind, List.filter_nil, lastPassed_concat]
    simp only [hkind, and_true]
  · rw [List.filter_cons_of_neg hkind, List.filter_nil, List.append_nil, if_neg fun h => hkind h.2]

end Kinds

/-- At nondecreasing times the last one tells about all of them. -/
theorem forall_passed_iff (hsorted : (history.map time).Pairwise (· ≤ ·)) (now : Nat) :
    (∀ e ∈ history, passed e = true → time e + pause ≤ now) ↔
      ∀ t, lastPassed time passed history = some t → t + pause ≤ now := by
  induction history using List.reverseRecOn with
  | nil => exact iff_of_true (fun _ h => absurd h List.not_mem_nil) fun _ h => (Option.some_ne_none _ h.symm).elim
  | append_singleton history e ih =>
    rw [List.map_append, List.pairwise_append] at hsorted
    obtain ⟨hsorted, -, hlast⟩ := hsorted
    rw [lastPassed_concat]
    by_cases h : passed e = true
    · rw [if_pos h]
      constructor
      · intro hall t hlast
        obtain rfl := Option.some.inj hlast
        exact hall e (List.mem_append_right _ List.mem_cons_self) h
      · intro hle e' hmem _
        have hpause := hle (time e) rfl
        rcases List.mem_append.mp hmem with hmem | hmem
        · have hbefore := hlast _ (List.mem_map_of_mem hmem) (time e) List.mem_cons_self
          omega
        · obtain rfl := List.mem_singleton.mp hmem
          exact hpause
    · rw [if_neg h, ← ih hsorted]
      constructor
      · exact fun hall e' hmem => hall e' (List.mem_append_left _ hmem)
      · intro hall e' hmem hpassed
        rcases List.mem_append.mp hmem with hmem | hmem
        · exact hall e' hmem hpassed
        · exact absurd (List.mem_singleton.mp hmem ▸ hpassed) h

/-! ## What is kept of the last one -/

/-- From some time on, what is kept tells when the last one no longer counts. -/
def Tracks (pause : Nat) (kept last : Option Nat) (start : Nat) : Prop :=
  ∀ now, start ≤ now → ((∃ t, kept = some t ∧ now < t) ↔ ∃ t, last = some t ∧ now < t + pause)

variable {kept last : Option Nat} {start now : Nat}

theorem tracks_map (last : Option Nat) (start : Nat) :
    Tracks pause (last.map (· + pause)) last start := by
  intro now _
  constructor
  · rintro ⟨_, h, hlt⟩
    obtain ⟨t, hlast, rfl⟩ := Option.map_eq_some_iff.mp h
    exact ⟨t, hlast, hlt⟩
  · rintro ⟨t, hlast, hlt⟩
    exact ⟨t + pause, Option.map_eq_some_iff.mpr ⟨t, hlast, rfl⟩, hlt⟩

theorem Tracks.mono (h : Tracks pause kept last start) (hle : start ≤ now) :
    Tracks pause kept last now :=
  fun later hlater => h later (Nat.le_trans hle hlater)

/-- What no longer counts may be dropped. -/
theorem Tracks.drop (h : Tracks pause kept last start) (hle : start ≤ now) :
    Tracks pause (kept.filter (now < ·)) last now := by
  intro later hlater
  rw [← h later (Nat.le_trans hle hlater)]
  constructor
  · rintro ⟨t, hkept, hlt⟩
    exact ⟨t, (Option.filter_eq_some_iff.mp hkept).1, hlt⟩
  · rintro ⟨t, hkept, hlt⟩
    refine ⟨t, Option.filter_eq_some_iff.mpr ⟨hkept, ?_⟩, hlt⟩
    exact decide_eq_true (Nat.lt_of_le_of_lt hlater hlt)

/-- The next event is let through where nothing that counts is kept. -/
theorem Tracks.passes_iff (hsorted : (history.map time).Pairwise (· ≤ ·))
    (h : Tracks pause kept (lastPassed time passed history) start) (hle : start ≤ now) :
    (¬ ∃ t, kept = some t ∧ now < t) ↔
      ∀ e ∈ history, passed e = true → time e + pause ≤ now := by
  rw [forall_passed_iff hsorted, h now hle]
  constructor
  · exact fun hnone t hlast => Nat.le_of_not_lt fun hlt => hnone ⟨t, hlast, hlt⟩
  · rintro hall ⟨t, hlast, hlt⟩
    exact absurd (hall t hlast) (Nat.not_le.mpr hlt)

end Debounce
