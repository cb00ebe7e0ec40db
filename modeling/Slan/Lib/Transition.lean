import Mathlib.Tactic.Common

/-! # Runs of a labelled transition system

A system is a relation `step s a t`: in state `s` the action `a` can lead to `t`.
Executable systems give it as a partial function, `none` where the action is not enabled.
-/

namespace Transition

variable {σ α : Type*}

/-- Some run of `step` from `s₀` ends in the given state. -/
inductive Reachable (step : σ → α → σ → Prop) (s₀ : σ) : σ → Prop
  | start : Reachable step s₀ s₀
  | next {s t : σ} {a : α} : Reachable step s₀ s → step s a t → Reachable step s₀ t

/-- The steps of `step` taken where `ok` holds of the state before and the action. -/
def guarded (ok : σ → α → Prop) (step : σ → α → σ → Prop) (s : σ) (a : α) (t : σ) : Prop :=
  ok s a ∧ step s a t

/-- The relation of a partial step function. -/
def rel (f : σ → α → Option σ) (s : σ) (a : α) (t : σ) : Prop := f s a = some t

/-- Run a list of actions, `none` as soon as one of them is not enabled. -/
def exec (f : σ → α → Option σ) : σ → List α → Option σ
  | s, [] => some s
  | s, a :: as => (f s a).bind fun t => exec f t as

theorem ite_some_iff {p : Prop} [Decidable p] {next t : σ} :
    (if p then some next else none) = some t ↔ p ∧ t = next := by
  rw [Option.ite_none_right_eq_some, Option.some.injEq, eq_comm]

/-- A step that looks something up and goes on where a condition holds of it. -/
theorem bind_ite_some_iff {β : Type*} {found : Option β} {p : β → Prop} [DecidablePred p]
    {next : β → σ} {t : σ} :
    (found.bind fun b => if p b then some (next b) else none) = some t ↔
      ∃ b, found = some b ∧ p b ∧ t = next b := by
  rw [Option.bind_eq_some_iff]
  simp only [ite_some_iff]

theorem Reachable.invariant {step : σ → α → σ → Prop} {s₀ s : σ} (P : σ → Prop)
    (h : Reachable step s₀ s) (h0 : P s₀) (hstep : ∀ s a t, P s → step s a t → P t) : P s := by
  induction h with
  | start => exact h0
  | next _ hs ih => exact hstep _ _ _ ih hs

theorem Reachable.mono {step step' : σ → α → σ → Prop} {s₀ s : σ}
    (h : Reachable step s₀ s) (hsub : ∀ s a t, step s a t → step' s a t) :
    Reachable step' s₀ s := by
  induction h with
  | start => exact .start
  | next _ hs ih => exact .next ih (hsub _ _ _ hs)

/-- Every run that keeps to a guard is a run. -/
theorem Reachable.of_guarded {ok : σ → α → Prop} {step : σ → α → σ → Prop} {s₀ s : σ}
    (h : Reachable (guarded ok step) s₀ s) : Reachable step s₀ s :=
  h.mono fun _ _ _ hs => hs.2

/-- A property that no step restores, once lost, holds at the end of a run only if every step of
the run kept to a guard that it implies. -/
theorem Reachable.guarded_of_prefix {ok : σ → α → Prop} {step : σ → α → σ → Prop} {s₀ s : σ}
    (P : σ → Prop) (h : Reachable step s₀ s) (hP : P s)
    (hback : ∀ s a t, Reachable step s₀ s → step s a t → P t → P s)
    (hok : ∀ s a t, Reachable (guarded ok step) s₀ s → step s a t → P t → ok s a) :
    Reachable (guarded ok step) s₀ s := by
  induction h with
  | start => exact .start
  | next hr hs ih =>
    have hg := ih (hback _ _ _ hr hs hP)
    exact .next hg ⟨hok _ _ _ hg hs hP, hs⟩

/-- The steps of `step` of which `Q` holds. -/
def restricted (Q step : σ → α → σ → Prop) (s : σ) (a : α) (t : σ) : Prop := step s a t ∧ Q s a t

/-- A run that keeps to a guard, where `Q` holds of the steps that the guard lets through. -/
theorem Reachable.restricted_of_guarded {ok : σ → α → Prop} {step : σ → α → σ → Prop} {s₀ s : σ}
    (P : σ → Prop) (Q : σ → α → σ → Prop) (h0 : P s₀) (hkeeps : ∀ s a t, Q s a t → P t)
    (hok : ∀ s a t, Reachable step s₀ s → P s → ok s a → step s a t → Q s a t)
    (h : Reachable (guarded ok step) s₀ s) : Reachable (restricted Q step) s₀ s ∧ P s := by
  induction h with
  | start => exact ⟨.start, h0⟩
  | next h hs ih =>
    have ht := hok _ _ _ h.of_guarded ih.2 hs.1 hs.2
    exact ⟨ih.1.next ⟨hs.2, ht⟩, hkeeps _ _ _ ht⟩

/-- Where a guard tells of which steps `Q` holds, the runs that keep to the guard are the runs of
such steps. It has to tell only in the states where a property holds that these steps keep. -/
theorem Reachable.guarded_iff_restricted {ok : σ → α → Prop} {step : σ → α → σ → Prop} {s₀ s : σ}
    (P : σ → Prop) (Q : σ → α → σ → Prop) (h0 : P s₀) (hkeeps : ∀ s a t, Q s a t → P t)
    (hok : ∀ s a t, Reachable step s₀ s → P s → step s a t → (ok s a ↔ Q s a t)) :
    Reachable (guarded ok step) s₀ s ↔ Reachable (restricted Q step) s₀ s ∧ P s := by
  constructor
  · refine restricted_of_guarded P Q h0 hkeeps fun s a t hr hP hguard hs => ?_
    exact (hok s a t hr hP hs).mp hguard
  · rintro ⟨h, -⟩
    suffices hboth : Reachable (guarded ok step) s₀ s ∧ P s from hboth.1
    induction h with
    | start => exact ⟨.start, h0⟩
    | next h hs ih =>
      have hguard := (hok _ _ _ ih.1.of_guarded ih.2 hs.1).mpr hs.2
      exact ⟨ih.1.next ⟨hguard, hs.1⟩, hkeeps _ _ _ hs.2⟩

/-- The steps of `step` that end where `P` holds. -/
def kept (P : σ → Prop) (step : σ → α → σ → Prop) (s : σ) (a : α) (t : σ) : Prop :=
  step s a t ∧ P t

/-- Where a guard tells which steps keep a property, the runs that keep to the guard are the runs
in which the property holds all along. -/
theorem Reachable.guarded_iff_kept {ok : σ → α → Prop} {step : σ → α → σ → Prop} {s₀ s : σ}
    (P : σ → Prop) (h0 : P s₀)
    (hok : ∀ s a t, Reachable step s₀ s → P s → step s a t → (ok s a ↔ P t)) :
    Reachable (guarded ok step) s₀ s ↔ Reachable (kept P step) s₀ s ∧ P s :=
  guarded_iff_restricted P (fun _ _ t => P t) h0 (fun _ _ _ ht => ht) hok

/-- Actions that a guard lets through in every state can be run under it. -/
theorem Reachable.guarded_of_exec {ok : σ → α → Prop} {f : σ → α → Option σ} {s₀ s t : σ}
    {as : List α} (h0 : Reachable (guarded ok (rel f)) s₀ s) (hok : ∀ a ∈ as, ∀ u, ok u a)
    (h : exec f s as = some t) : Reachable (guarded ok (rel f)) s₀ t := by
  induction as generalizing s with
  | nil =>
    obtain rfl : s = t := Option.some.inj h
    exact h0
  | cons a as ih =>
    obtain ⟨u, hu, hut⟩ := Option.bind_eq_some_iff.mp h
    have hguard : ok s a := hok a List.mem_cons_self s
    exact ih (h0.next ⟨hguard, hu⟩) (fun b hb => hok b (List.mem_cons_of_mem a hb)) hut

theorem Reachable.of_exec {f : σ → α → Option σ} {s₀ s t : σ} {as : List α}
    (h0 : Reachable (rel f) s₀ s) (h : exec f s as = some t) : Reachable (rel f) s₀ t := by
  have h0' : Reachable (guarded (fun _ _ => True) (rel f)) s₀ s :=
    h0.mono fun _ _ _ hs => ⟨trivial, hs⟩
  exact (h0'.guarded_of_exec (fun _ _ _ => trivial) h).of_guarded

/-- The state a run of actions ends in, the first one where it cannot be run. -/
def execD (f : σ → α → Option σ) (s : σ) (as : List α) : σ := (exec f s as).getD s

theorem exec_eq_execD {f : σ → α → Option σ} {s : σ} {as : List α}
    (h : (exec f s as).isSome = true) : exec f s as = some (execD f s as) := by
  obtain ⟨t, ht⟩ := Option.isSome_iff_exists.mp h
  rw [execD, ht]
  rfl

theorem exec_append (f : σ → α → Option σ) (s : σ) (as bs : List α) :
    exec f s (as ++ bs) = (exec f s as).bind fun t => exec f t bs := by
  induction as generalizing s with
  | nil => rfl
  | cons a as ih =>
    change (f s a).bind _ = ((f s a).bind _).bind _
    rw [Option.bind_assoc]
    exact congrArg (f s a).bind (funext ih)

/-- A run goes on from where its first part ends. -/
theorem exec_execD {f : σ → α → Option σ} {s : σ} {as bs : List α}
    (h : (exec f s (as ++ bs)).isSome = true) :
    exec f (execD f s as) bs = some (execD f s (as ++ bs)) := by
  have hrun := exec_eq_execD h
  rw [exec_append] at hrun
  obtain ⟨t, ht, hbs⟩ := Option.bind_eq_some_iff.mp hrun
  have hend : execD f s as = t := by
    rw [execD, ht]
    rfl
  rw [hend, hbs]

theorem rel_execD {f : σ → α → Option σ} {s : σ} {as : List α} {a : α}
    (h : (exec f s (as ++ [a])).isSome = true) :
    rel f (execD f s as) a (execD f s (as ++ [a])) := by
  obtain ⟨t, ht, hend⟩ := Option.bind_eq_some_iff.mp (exec_execD h)
  rw [rel, ht]
  exact hend

/-- The same for a guarded system, the guard checked along the run. -/
def execGuarded (ok : σ → α → Prop) [∀ s a, Decidable (ok s a)] (f : σ → α → Option σ) :
    σ → List α → Option σ :=
  exec fun s a => if ok s a then f s a else none

theorem Reachable.of_execGuarded {ok : σ → α → Prop} [∀ s a, Decidable (ok s a)]
    {f : σ → α → Option σ} {s₀ t : σ} {as : List α} (h : execGuarded ok f s₀ as = some t) :
    Reachable (guarded ok (rel f)) s₀ t := by
  refine (Reachable.of_exec .start h).mono fun s a t hs => ?_
  by_cases hok : ok s a
  · exact ⟨hok, by simpa [rel, hok] using hs⟩
  · simp [rel, hok] at hs

theorem execGuarded_cons {ok : σ → α → Prop} [∀ s a, Decidable (ok s a)] {f : σ → α → Option σ}
    {s u : σ} {a : α} (h : f s a = some u) (as : List α) :
    execGuarded ok f s (a :: as) = if ok s a then execGuarded ok f u as else none := by
  change (if ok s a then f s a else none).bind _ = _
  rw [h]
  split <;> rfl

theorem exec_of_execGuarded {ok : σ → α → Prop} [∀ s a, Decidable (ok s a)]
    {f : σ → α → Option σ} {s t : σ} {as : List α} (h : execGuarded ok f s as = some t) :
    exec f s as = some t := by
  induction as generalizing s with
  | nil => exact h
  | cons a as ih =>
    obtain ⟨u, hu, hut⟩ := Option.bind_eq_some_iff.mp h
    dsimp only at hu
    split at hu
    · exact Option.bind_eq_some_iff.mpr ⟨u, hu, ih hut⟩
    · cases hu

/-- A system that follows another one step by step, or stands still, and keeps to a guard where the
other one keeps to its own. -/
theorem exec_simulation {τ β : Type*} {f : σ → α → Option σ} {g : τ → β → Option τ}
    {ok : σ → α → Prop} {ok' : τ → β → Prop} [∀ s a, Decidable (ok s a)]
    [∀ t b, Decidable (ok' t b)] (R : σ → τ → Prop)
    (hsim : ∀ s t a s', R s t → f s a = some s' → (R s' t ∧ ok s a) ∨
      ∃ b t', g t b = some t' ∧ R s' t' ∧ (ok s a ↔ ok' t b))
    {s s' : σ} {t : τ} {as : List α} (hR : R s t) (h : exec f s as = some s') :
    ∃ bs t', exec g t bs = some t' ∧ R s' t' ∧
      (execGuarded ok f s as = some s' ↔ execGuarded ok' g t bs = some t') := by
  induction as generalizing s t with
  | nil =>
    obtain rfl := Option.some.inj h
    exact ⟨[], t, rfl, hR, ⟨fun _ => rfl, fun _ => rfl⟩⟩
  | cons a as ih =>
    obtain ⟨u, hu, hus⟩ := Option.bind_eq_some_iff.mp h
    rw [execGuarded_cons hu]
    rcases hsim s t a u hR hu with ⟨hstill, hok⟩ | ⟨b, v, hv, hmoved, hok⟩
    · obtain ⟨bs, t', hexec, hR', hiff⟩ := ih hstill hus
      rw [if_pos hok]
      exact ⟨bs, t', hexec, hR', hiff⟩
    · obtain ⟨bs, t', hexec, hR', hiff⟩ := ih hmoved hus
      refine ⟨b :: bs, t', ?_, hR', ?_⟩
      · change (g t b).bind _ = _
        rw [hv]
        exact hexec
      · rw [execGuarded_cons hv]
        by_cases hguard : ok s a
        · rw [if_pos hguard, if_pos (hok.mp hguard)]
          exact hiff
        · rw [if_neg hguard, if_neg (mt hok.mpr hguard)]
          exact ⟨nofun, nofun⟩

end Transition
