import Mathlib.Data.List.Infix
import Mathlib.Tactic.Common

/-! # Gates that close for longer after every attempt

A gate is open from some time on. An attempt that it allows closes it for the backoff of the
attempts counted so far. A gate may count the attempts that it refuses or not. A reset makes it
anew.
-/

namespace Backoff

inductive Event where
  | attempt (now : Nat)
  | reset (now : Nat)
  deriving DecidableEq, Repr

def Event.time : Event → Nat
  | .attempt now => now
  | .reset now => now

/-- The times of the attempts since the last reset. -/
def sinceReset (history : List Event) : List Nat :=
  history.foldl (fun times event =>
    match event with
    | .attempt now => times ++ [now]
    | .reset _ => []) []

theorem sinceReset_concat_attempt (history : List Event) (now : Nat) :
    sinceReset (history ++ [.attempt now]) = sinceReset history ++ [now] := by
  rw [sinceReset, List.foldl_append]
  rfl

theorem sinceReset_concat_reset (history : List Event) (now : Nat) :
    sinceReset (history ++ [.reset now]) = [] := by
  rw [sinceReset, List.foldl_append]
  rfl

theorem sinceReset_sublist (history : List Event) :
    (sinceReset history).Sublist (history.map Event.time) := by
  induction history using List.reverseRecOn with
  | nil => exact List.nil_sublist _
  | append_singleton history event ih =>
    rw [List.map_append]
    cases event with
    | attempt now =>
      rw [sinceReset_concat_attempt]
      exact ih.append (List.Sublist.refl [now])
    | reset now =>
      rw [sinceReset_concat_reset]
      exact List.nil_sublist _

/-! ## Answers along a history -/

section

variable {σ ε : Type*} (act : σ → ε → Option Bool × σ)

def after (s : σ) (history : List ε) : σ := history.foldl (fun s e => (act s e).2) s

/-- What is answered to the events that have an answer. -/
def answers (s : σ) : List ε → List Bool
  | [] => []
  | e :: history => (act s e).1.toList ++ answers (act s e).2 history

theorem after_concat (s : σ) (history : List ε) (e : ε) :
    after act s (history ++ [e]) = (act (after act s history) e).2 := by
  rw [after, List.foldl_append]
  rfl

theorem answers_concat (s : σ) (history : List ε) (e : ε) :
    answers act s (history ++ [e]) =
      answers act s history ++ (act (after act s history) e).1.toList := by
  induction history generalizing s with
  | nil => simp [answers, after]
  | cons first history ih =>
    rw [List.cons_append, answers, ih, answers, List.append_assoc]
    rfl

/-- Systems that give the same answer at every point of a history. -/
theorem answers_congr {τ ε' : Type*} {act' : τ → ε' → Option Bool × τ} {s : σ} {s' : τ}
    {f : ε → ε'} (history : List ε)
    (h : ∀ before e, before ++ [e] <+: history →
      (act (after act s before) e).1 = (act' (after act' s' (before.map f)) (f e)).1) :
    answers act s history = answers act' s' (history.map f) := by
  induction history using List.reverseRecOn with
  | nil => rfl
  | append_singleton history e ih =>
    rw [List.map_append, List.map_singleton, answers_concat, answers_concat,
      h history e (List.prefix_refl _),
      ih fun before e' hbefore => h before e' (hbefore.trans (List.prefix_append _ _))]

end

/-! ## Gates -/

structure Gate where
  count : Nat
  opensAt : Nat
  deriving DecidableEq, Repr

namespace Gate

def new : Gate := ⟨0, 0⟩

section

variable (backoff : Nat → Nat) (onRefusal : Nat → Nat)

/-- A refused attempt leaves the gate closed as long as it was. -/
def attempt (gate : Gate) (now : Nat) : Gate :=
  if gate.opensAt ≤ now then ⟨gate.count + 1, now + backoff (gate.count + 1)⟩
  else ⟨onRefusal gate.count, gate.opensAt⟩

def act (gate : Gate) : Event → Option Bool × Gate
  | .attempt now => (some (gate.opensAt ≤ now), gate.attempt backoff onRefusal now)
  | .reset _ => (none, new)

theorem attempt_allowed {gate : Gate} {now : Nat} (h : gate.opensAt ≤ now) :
    gate.attempt backoff onRefusal now = ⟨gate.count + 1, now + backoff (gate.count + 1)⟩ :=
  if_pos h

theorem attempt_refused {gate : Gate} {now : Nat} (h : now < gate.opensAt) :
    gate.attempt backoff onRefusal now = ⟨onRefusal gate.count, gate.opensAt⟩ :=
  if_neg (Nat.not_le.mpr h)

theorem opensAt_le_attempt (gate : Gate) (now : Nat) :
    gate.opensAt ≤ (gate.attempt backoff onRefusal now).opensAt := by
  by_cases h : gate.opensAt ≤ now
  · rw [attempt_allowed backoff onRefusal h]
    exact h.trans (Nat.le_add_right now _)
  · rw [attempt_refused backoff onRefusal (Nat.not_le.mp h)]

/-- Only the attempts since the last reset matter. -/
theorem after_sinceReset (history : List Event) :
    after (act backoff onRefusal) new history =
      (sinceReset history).foldl (attempt backoff onRefusal) new := by
  induction history using List.reverseRecOn with
  | nil => rfl
  | append_singleton history event ih =>
    rw [after_concat, ih]
    cases event with
    | attempt now => rw [sinceReset_concat_attempt, List.foldl_append]; rfl
    | reset now => rw [sinceReset_concat_reset]; rfl

/-- Without a reset a gate is open no earlier than it was. -/
theorem opensAt_le_after (gate : Gate) {history : List Event}
    (h : ∀ now, Event.reset now ∉ history) :
    gate.opensAt ≤ (after (act backoff onRefusal) gate history).opensAt := by
  induction history using List.reverseRecOn with
  | nil => exact le_rfl
  | append_singleton history event ih =>
    have hkept := ih fun now hmem => h now (List.mem_append_left _ hmem)
    rw [after_concat]
    cases event with
    | attempt now => exact hkept.trans (opensAt_le_attempt backoff onRefusal _ now)
    | reset now => exact absurd (List.mem_append_right _ (List.mem_singleton_self _)) (h now)

/-- Without a reset in between, an attempt is allowed no sooner after an allowed one than the
backoff of the count. -/
theorem spaced {history between : List Event} {now later : Nat}
    (hbetween : ∀ time, Event.reset time ∉ between)
    (hallowed : (after (act backoff onRefusal) new history).opensAt ≤ now)
    (hlater : (after (act backoff onRefusal) new
      (history ++ .attempt now :: between)).opensAt ≤ later) :
    now + backoff (after (act backoff onRefusal) new (history ++ [.attempt now])).count ≤ later := by
  have hafter := after_concat (act backoff onRefusal) new history (.attempt now)
  dsimp only [act] at hafter
  rw [attempt_allowed backoff onRefusal hallowed] at hafter
  have hopens := opensAt_le_after backoff onRefusal
    (after (act backoff onRefusal) new (history ++ [.attempt now])) hbetween
  rw [List.append_cons, after, List.foldl_append] at hlater
  rw [hafter] at hopens ⊢
  exact hopens.trans ((congrArg (fun gate => (after (act backoff onRefusal) gate between).opensAt)
    hafter).ge.trans hlater)

/-- A gate that counts all attempts. -/
theorem count_foldl_attempt (gate : Gate) (times : List Nat) :
    (times.foldl (attempt backoff (· + 1)) gate).count = gate.count + times.length := by
  induction times generalizing gate with
  | nil => rfl
  | cons now times ih =>
    have hone : (gate.attempt backoff (· + 1) now).count = gate.count + 1 := by
      unfold attempt
      split <;> rfl
    rw [List.foldl_cons, ih, hone, List.length_cons]
    omega

/-- After one attempt at most the gate is open, if the first backoff is none. -/
theorem opensAt_le_of_length (hfirst : backoff 1 = 0) {times : List Nat}
    (hlength : times.length ≤ 1) {now : Nat} (hnow : ∀ time ∈ times, time ≤ now) :
    (times.foldl (attempt backoff onRefusal) new).opensAt ≤ now := by
  match times with
  | [] => exact Nat.zero_le now
  | [time] =>
    rw [List.foldl_cons, List.foldl_nil, attempt_allowed backoff onRefusal (Nat.zero_le time)]
    dsimp only [new]
    rw [hfirst]
    exact hnow time (List.mem_singleton_self time)
  | _ :: _ :: _ => exact absurd hlength (by simp)

end

/-! ## A gate that counts refusals beside one that does not -/

/-- The first gate counts the attempts that it allows, the second one all attempts: they give the
same answers. -/
def Agree (backoff : Nat → Nat) (gate gate' : Gate) : List Nat → Prop
  | [] => True
  | now :: times => (gate.opensAt ≤ now ↔ gate'.opensAt ≤ now) ∧
    Agree backoff (gate.attempt backoff id now) (gate'.attempt backoff (· + 1) now) times

variable {backoff : Nat → Nat}

theorem agree_concat (gate gate' : Gate) (times : List Nat) (now : Nat) :
    Agree backoff gate gate' (times ++ [now]) ↔
      Agree backoff gate gate' times ∧
        ((times.foldl (attempt backoff id) gate).opensAt ≤ now ↔
          (times.foldl (attempt backoff (· + 1)) gate').opensAt ≤ now) := by
  induction times generalizing gate gate' with
  | nil => simp [Agree]
  | cons first times ih =>
    rw [List.cons_append, Agree, Agree, ih, List.foldl_cons, List.foldl_cons, and_assoc]

/-- The answers are the same along a history exactly when they are after every reset. -/
theorem answers_eq_iff (history : List Event) :
    answers (act backoff id) new history = answers (act backoff (· + 1)) new history ↔
      ∀ before, before <+: history → Agree backoff new new (sinceReset before) := by
  induction history using List.reverseRecOn with
  | nil =>
    refine iff_of_true rfl fun before hbefore => ?_
    rw [List.prefix_nil.mp hbefore]
    trivial
  | append_singleton history event ih =>
    have hsplit : (∀ before, before <+: history ++ [event] →
          Agree backoff new new (sinceReset before)) ↔
        (∀ before, before <+: history → Agree backoff new new (sinceReset before)) ∧
          Agree backoff new new (sinceReset (history ++ [event])) := by
      simp only [List.prefix_concat_iff, forall_eq_or_imp]
      exact and_comm
    rw [hsplit, ← ih, answers_concat, answers_concat, after_sinceReset, after_sinceReset]
    cases event with
    | attempt now =>
      rw [sinceReset_concat_attempt, agree_concat, act, act]
      constructor
      · intro h
        obtain ⟨hinit, hlast⟩ := List.append_inj' h rfl
        have hsame := ih.mp hinit history (List.prefix_refl _)
        exact ⟨hinit, hsame, by simpa using hlast⟩
      · rintro ⟨hinit, -, hlast⟩
        rw [hinit, decide_eq_decide.mpr hlast]
    | reset now =>
      rw [sinceReset_concat_reset, act, act, Option.toList_none, List.append_nil, List.append_nil]
      exact (and_iff_left trivial).symm

/-- Up to the next attempt that is allowed, the second gate is open whenever the first one is. -/
theorem agree_iff_next {gate gate' : Gate} (hle : gate.opensAt ≤ gate'.opensAt) {times : List Nat}
    (hsorted : times.Pairwise (· ≤ ·)) :
    Agree backoff gate gate' times ↔
      (∀ now ∈ times, gate.opensAt ≤ now → gate'.opensAt ≤ now) ∧
      ∀ refused now later, times = refused ++ now :: later →
        (∀ early ∈ refused, early < gate.opensAt) → gate.opensAt ≤ now →
        Agree backoff ⟨gate.count + 1, now + backoff (gate.count + 1)⟩
          ⟨gate'.count + refused.length + 1, now + backoff (gate'.count + refused.length + 1)⟩
          later := by
  induction times generalizing gate' with
  | nil => simp [Agree]
  | cons first times ih =>
    obtain ⟨hfirst, hrest⟩ := List.pairwise_cons.mp hsorted
    by_cases hopen : gate.opensAt ≤ first
    · rw [Agree]
      by_cases hopen' : gate'.opensAt ≤ first
      · rw [attempt_allowed backoff id hopen, attempt_allowed backoff _ hopen']
        constructor
        · rintro ⟨-, hlater⟩
          refine ⟨?_, ?_⟩
          · intro now hnow _
            obtain rfl | hmem := List.mem_cons.mp hnow
            · exact hopen'
            · exact hopen'.trans (hfirst now hmem)
          · intro refused now later htimes hrefused hnow
            cases refused with
            | nil =>
              obtain ⟨rfl, rfl⟩ := List.cons.inj htimes
              exact hlater
            | cons early refused =>
              obtain ⟨rfl, -⟩ := List.cons.inj htimes
              exact absurd hopen (Nat.not_le.mpr (hrefused _ List.mem_cons_self))
        · rintro ⟨-, hnext⟩
          exact ⟨iff_of_true hopen hopen', hnext [] first times rfl nofun hopen⟩
      · refine iff_of_false (fun h => hopen' (h.1.mp hopen)) fun h => ?_
        exact hopen' (h.1 first List.mem_cons_self hopen)
    · have hclosed : first < gate.opensAt := Nat.not_le.mp hopen
      have hclosed' : first < gate'.opensAt := hclosed.trans_le hle
      rw [Agree, attempt_refused backoff id hclosed, attempt_refused backoff _ hclosed',
        and_iff_right (iff_of_false hopen (Nat.not_le.mpr hclosed'))]
      refine (@ih ⟨gate'.count + 1, gate'.opensAt⟩ hle hrest).trans (and_congr ?_ ?_)
      · rw [List.forall_mem_cons, and_iff_right fun h => absurd h hopen]
      · constructor
        · intro h refused now later htimes hrefused hnow
          cases refused with
          | nil =>
            obtain ⟨rfl, -⟩ := List.cons.inj htimes
            exact absurd hnow hopen
          | cons early refused =>
            obtain ⟨-, hlater⟩ := List.cons.inj htimes
            have hagree := h refused now later hlater
              (fun early hearly => hrefused early (List.mem_cons_of_mem _ hearly)) hnow
            rw [List.length_cons]
            rwa [Nat.add_right_comm gate'.count 1] at hagree
        · intro h refused now later htimes hrefused hnow
          have hagree := h (first :: refused) now later (congrArg (first :: ·) htimes)
            (List.forall_mem_cons.mpr ⟨hclosed, hrefused⟩) hnow
          rw [List.length_cons] at hagree
          rwa [Nat.add_right_comm gate'.count 1]

/-- Where the backoff grows no more, gates that open together go on so. -/
theorem agree_of_constant {m : Nat} (hconstant : ∀ n, m ≤ n → backoff n = backoff m)
    {gate gate' : Gate} (hcount : m ≤ gate.count + 1) (hcount' : m ≤ gate'.count + 1)
    (hopens : gate.opensAt = gate'.opensAt) (times : List Nat) :
    Agree backoff gate gate' times := by
  induction times generalizing gate gate' with
  | nil => trivial
  | cons now times ih =>
    rw [Agree, hopens]
    refine ⟨Iff.rfl, ?_⟩
    by_cases hopen : gate'.opensAt ≤ now
    · rw [attempt_allowed backoff id (hopens.le.trans hopen), attempt_allowed backoff _ hopen]
      refine ih ?_ ?_ ?_
      · exact hcount.trans (Nat.le_add_right _ 1)
      · exact hcount'.trans (Nat.le_add_right _ 1)
      · dsimp only
        rw [hconstant _ hcount, hconstant _ hcount']
    · have hclosed := Nat.not_le.mp hopen
      rw [attempt_refused backoff id (hclosed.trans_le hopens.ge),
        attempt_refused backoff _ hclosed]
      exact ih hcount (hcount'.trans (Nat.le_add_right _ 1)) hopens

end Gate

end Backoff
