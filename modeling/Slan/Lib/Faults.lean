import Slan.Lib.Program

/-! # Programs of which a statement fails

A statement that fails writes nothing and ends its program with an error, which the program around
it may take for a result. Which one fails is counted down beside the state.
-/

namespace Program

variable {σ ω ε α β : Type}

/-- A state, and how many statements succeed before one fails, if one is still to fail. -/
abbrev Faulty (σ : Type) := Option Nat × σ

/-- The write of a statement, unless it is the one that fails. -/
def strike (write : σ → σ) : Faulty σ → Faulty σ
  | (none, s) => (none, write s)
  | (some 0, s) => (none, s)
  | (some (n + 1), s) => (some n, write s)

/-- The program, of which the statement fails to which it is counted down. -/
def failing (err : ε) : Program σ ω ε α → Program (Faulty σ) ω ε α
  | .ret result => .ret result
  | .stmt note write next =>
    .stmt (fun s => if s.1 = some 0 then [] else note s.2) (strike write) fun s =>
      if s.1 = some 0 then .ret (.error err) else (next s.2).failing err

/-- How many statements a run from the state executes. -/
def statements : Program σ ω ε α → σ → Nat
  | .ret _, _ => 0
  | .stmt _ write next, s => (next s).statements (write s) + 1

theorem failing_bind (err : ε) (p : Program σ ω ε α) (f : α → Program σ ω ε β) :
    (p >>= f).failing err = p.failing err >>= fun a => (f a).failing err := by
  change (p.bind f).failing err = (p.failing err).bind fun a => (f a).failing err
  induction p with
  | ret result => cases result <;> rfl
  | stmt note write next ih =>
    refine congrArg (Program.stmt _ _) (funext fun s => ?_)
    dsimp only
    split
    · rfl
    · exact ih s.2

theorem failing_forEach (err : ε) (f : α → Program σ ω ε Unit) (as : List α) :
    (forEach f as).failing err = forEach (fun a => (f a).failing err) as := by
  induction as with
  | nil => rfl
  | cons a as ih =>
    unfold forEach
    rw [failing_bind, ih]

theorem statements_bind (p : Program σ ω ε α) (f : α → Program σ ω ε β) (s : σ) :
    (p >>= f).statements s = p.statements s +
      match p.run s with
      | (.ok a, t) => (f a).statements t
      | (.error _, _) => 0 := by
  change (p.bind f).statements s = _
  induction p generalizing s with
  | ret result => cases result <;> simp [Program.bind, statements, run]
  | stmt note write next ih =>
    calc ((Program.stmt note write next).bind f).statements s
        = ((next s).bind f).statements (write s) + 1 := rfl
      _ = _ := by
        rw [ih s (write s)]
        exact Nat.add_right_comm _ _ _

theorem statements_attempt (p : Program σ ω ε α) (s : σ) :
    p.attempt.statements s = p.statements s := by
  induction p generalizing s with
  | ret result => rfl
  | stmt note write next ih => exact congrArg (· + 1) (ih s (write s))

/-! ## Up to the statement that fails -/

/-- Until a statement fails, `q` runs as `p` does. -/
structure Mirrors (q : Program (Faulty σ) ω ε α) (p : Program σ ω ε α) : Prop where
  unfailed : ∀ s, q.run (none, s) = ((p.run s).1, none, (p.run s).2)
  before : ∀ s n, q.run (some (p.statements s + n), s) = ((p.run s).1, some n, (p.run s).2)

section Mirrors

variable {p : Program σ ω ε α} {q : Program (Faulty σ) ω ε α}

theorem mirrors_ret (result : Except ε α) :
    Mirrors (.ret result : Program (Faulty σ) ω ε α) (.ret result) where
  unfailed _ := rfl
  before s n := by rw [statements, Nat.zero_add]; rfl

theorem mirrors_failing (err : ε) (p : Program σ ω ε α) : Mirrors (p.failing err) p where
  unfailed s := by
    induction p generalizing s with
    | ret result => rfl
    | stmt note write next ih => exact ih s (write s)
  before s n := by
    induction p generalizing s with
    | ret result => exact (mirrors_ret result).before s n
    | stmt note write next ih =>
      have hcount : (Program.stmt note write next).statements s + n =
          ((next s).statements (write s) + n) + 1 := Nat.add_right_comm _ _ _
      rw [hcount]
      exact ih s (write s)

theorem Mirrors.bind (h : Mirrors q p) {f : α → Program σ ω ε β}
    {g : α → Program (Faulty σ) ω ε β} (hf : ∀ a, Mirrors (g a) (f a)) :
    Mirrors (q >>= g) (p >>= f) where
  unfailed s := by
    rw [run_bind, run_bind, h.unfailed]
    obtain ⟨result, t⟩ := p.run s
    cases result with
    | error err => rfl
    | ok a => exact (hf a).unfailed t
  before s n := by
    rw [run_bind, run_bind, statements_bind, Nat.add_assoc, h.before]
    obtain ⟨result, t⟩ := p.run s
    cases result with
    | error err => simp only [Nat.zero_add]
    | ok a => exact (hf a).before t n

theorem Mirrors.attempt (h : Mirrors q p) : Mirrors q.attempt p.attempt where
  unfailed s := by rw [run_attempt, run_attempt, h.unfailed]
  before s n := by rw [run_attempt, run_attempt, statements_attempt, h.before]

/-- What follows a program that succeeds can be made to fail at any of its statements. -/
theorem Mirrors.exists_run_bind (h : Mirrors q p) {g : α → Program (Faulty σ) ω ε β} {s t : σ}
    {a : α} {x : Except ε β × Faulty σ} (hrun : p.run s = (.ok a, t))
    (hnext : ∃ n, (g a).run (some n, t) = x) : ∃ n, (q >>= g).run (some n, s) = x := by
  obtain ⟨n, hn⟩ := hnext
  refine ⟨p.statements s + n, ?_⟩
  rw [run_bind, h.before, hrun]
  exact hn

theorem exists_error_bind {g : α → Program (Faulty σ) ω ε β} {s : σ} {err : ε} {x : Faulty σ}
    (h : ∃ n, q.run (some n, s) = (.error err, x)) :
    ∃ n, (q >>= g).run (some n, s) = (.error err, x) := by
  obtain ⟨n, hn⟩ := h
  refine ⟨n, ?_⟩
  rw [run_bind, hn]

end Mirrors

/-! ## Past the statement that fails -/

/-- What `q` succeeds with, though a statement fails, `p` succeeds with. -/
def Steadfast (q : Program (Faulty σ) ω ε α) (p : Program σ ω ε α) : Prop :=
  ∀ c s a c' t, q.run (c, s) = (.ok a, c', t) → p.run s = (.ok a, t)

section Steadfast

variable {p : Program σ ω ε α} {q : Program (Faulty σ) ω ε α}

theorem steadfast_ret (result : Except ε α) :
    Steadfast (.ret result : Program (Faulty σ) ω ε α) (.ret result) := by
  intro c s a c' t h
  obtain ⟨rfl, hstate⟩ := Prod.mk.inj h
  obtain ⟨-, rfl⟩ := Prod.mk.inj hstate
  rfl

/-- The error of a statement that fails reaches the end. -/
theorem steadfast_failing (err : ε) (p : Program σ ω ε α) : Steadfast (p.failing err) p := by
  intro c s a c' t h
  induction p generalizing c s with
  | ret result => exact steadfast_ret result c s a c' t h
  | stmt note write next ih =>
    rcases c with _ | _ | n
    · exact ih s none (write s) h
    · cases h
    · exact ih s (some n) (write s) h

theorem Steadfast.bind (h : Steadfast q p) {f : α → Program σ ω ε β}
    {g : α → Program (Faulty σ) ω ε β} (hf : ∀ a, Steadfast (g a) (f a)) :
    Steadfast (q >>= g) (p >>= f) := by
  intro c s b c' t hrun
  obtain ⟨a, ⟨c₁, t₁⟩, hq, hg⟩ := run_bind_eq_ok.mp hrun
  exact run_bind_eq_ok.mpr ⟨a, t₁, h c s a c₁ t₁ hq, hf a c₁ t₁ b c' t hg⟩

/-- A write of the countdown alone. -/
def CountsDown (_ : Faulty σ → List ω) (write : Faulty σ → Faulty σ) : Prop :=
  ∀ x, (write x).2 = x.2

theorem Each.failing {err : ε} (hreads : Each Reads p) : Each CountsDown (p.failing err) := by
  induction p with
  | ret result => exact each_ret result
  | stmt note write next ih =>
    obtain ⟨hwrite, hnext⟩ := each_stmt.mp hreads
    refine each_stmt.mpr ⟨fun x => ?_, fun x => ?_⟩
    · rcases x with ⟨_ | _ | n, s⟩
      · exact hwrite s
      · rfl
      · exact hwrite s
    · split
      · exact each_ret _
      · exact ih x.2 (hnext x.2)

theorem Each.same_of_run {q : Program (Faulty σ) ω ε α} (h : Each CountsDown q) {x y : Faulty σ}
    {result : Except ε α} (hrun : q.run x = (result, y)) : y.2 = x.2 := by
  have hkeeps : Keeps (fun y : Faulty σ => y.2 = x.2) q :=
    (h.mono fun _ write hwrite y hy => (hwrite y).trans hy).keeps
  have hafter := hkeeps.after (s := x) rfl
  rwa [after, hrun] at hafter

end Steadfast

/-! ## Postconditions where a statement fails -/

/-- From a state that satisfies `P` the program gives a result that satisfies `Q`, or an error that
leaves a state that satisfies `E`, wherever a statement fails. -/
def Endures (P : σ → Prop) (q : Program (Faulty σ) ω ε α) (Q : α → σ → Prop) (E : σ → Prop) :
    Prop :=
  Triple (fun s => P s.2) q (fun a s => Q a s.2) fun _ s => E s.2

section Endures

variable {P E : σ → Prop} {Q : α → σ → Prop}

theorem Endures.of_run_error {q : Program (Faulty σ) ω ε α} (h : Endures P q Q E)
    {c c' : Option Nat} {s t : σ} {err : ε} (hs : P s)
    (hrun : q.run (c, s) = (.error err, c', t)) : E t :=
  Triple.of_run_error h (s := (c, s)) hs hrun

theorem Endures.pure {a : α} (h : ∀ s, P s → Q a s) :
    Endures P (pure a : Program (Faulty σ) ω ε α) Q E := Triple.pure fun s hs => h s.2 hs

theorem Endures.fail {err : ε} (h : ∀ s, P s → E s) :
    Endures P (fail err : Program (Faulty σ) ω ε α) Q E := Triple.fail fun s hs => h s.2 hs

theorem Endures.bind {R : α → σ → Prop} {q : Program (Faulty σ) ω ε α}
    {g : α → Program (Faulty σ) ω ε β} {Q : β → σ → Prop} (hq : Endures P q R E)
    (hg : ∀ a, Endures (R a) (g a) Q E) : Endures P (q >>= g) Q E := Triple.bind hq hg

/-- A program that is not reached. -/
theorem endures_false {q : Program (Faulty σ) ω ε α} : Endures (fun _ => False) q Q E := by
  unfold Endures Triple
  exact fun _ hs => hs.elim

theorem Endures.imp {P' E' : σ → Prop} {Q' : α → σ → Prop} {q : Program (Faulty σ) ω ε α}
    (h : Endures P' q Q' E') (hP : ∀ s, P s → P' s) (hQ : ∀ a s, Q' a s → Q a s)
    (hE : ∀ s, E' s → E s) : Endures P q Q E :=
  Triple.imp h (fun s hs => hP s.2 hs) (fun a s hs => hQ a s.2 hs) fun _ s hs => hE s.2 hs

theorem Endures.forEach {I : List α → σ → Prop} {f : α → Program (Faulty σ) ω ε Unit}
    (hf : ∀ a as, Endures (I (a :: as)) (f a) (fun _ => I as) E) (as : List α) :
    Endures (I as) (forEach f as) (fun _ => I []) E :=
  Triple.forEach (I := fun as (s : Faulty σ) => I as s.2) hf as

/-- The rule of a single statement. -/
theorem endures_stmt {note : σ → List ω} {write : σ → σ} {result : σ → Except ε α} {err : ε}
    (h : ∀ s, P s →
      match result s with
      | .ok a => Q a (write s)
      | .error _ => E (write s))
    (herr : ∀ s, P s → E s) :
    Endures P ((Program.stmt note write fun s => .ret (result s)).failing err) Q E := by
  unfold Endures Triple
  rintro ⟨c, s⟩ hs
  let q := (Program.stmt note write fun s => .ret (result s)).failing err
  have hdone := h s hs
  rcases c with _ | _ | n
  · have hrun : q.run (none, s) = (result s, none, write s) := rfl
    rw [hrun]
    cases hresult : result s <;> rwa [hresult] at hdone
  · exact herr s hs
  · have hrun : q.run (some (n + 1), s) = (result s, some n, write s) := rfl
    rw [hrun]
    cases hresult : result s <;> rwa [hresult] at hdone

theorem endures_query {f : σ → α} {err : ε} (h : ∀ s, P s → Q (f s) s) (herr : ∀ s, P s → E s) :
    Endures P ((query f : Program σ ω ε α).failing err) Q E := endures_stmt h herr

theorem endures_exec {Q : Unit → σ → Prop} {write : σ → σ} {err : ε}
    (h : ∀ s, P s → Q () (write s)) (herr : ∀ s, P s → E s) :
    Endures P ((exec write : Program σ ω ε Unit).failing err) Q E := endures_stmt h herr

theorem endures_execOr {Q : Unit → σ → Prop} {refused err : ε} {write : σ → Option σ}
    (h : ∀ s, P s → ∀ t, write s = some t → Q () t) (herr : ∀ s, P s → E s) :
    Endures P ((execOr refused write : Program σ ω ε Unit).failing err) Q E := by
  refine endures_stmt (fun s hs => ?_) herr
  cases hwrite : write s with
  | none => exact herr s hs
  | some t => exact h s hs t hwrite

/-- A program that only reads. -/
theorem Each.endures_of_steadfast {q : Program (Faulty σ) ω ε α} {p : Program σ ω ε α}
    (hreads : Each CountsDown q) (hsteady : Steadfast q p)
    (h : ∀ s a, P s → p.run s = (.ok a, s) → Q a s) (herr : ∀ s, P s → E s) :
    Endures P q Q E := by
  unfold Endures Triple
  rintro ⟨c, s⟩ hs
  cases hrun : q.run (c, s) with
  | mk result x =>
    obtain ⟨c', t⟩ := x
    obtain rfl : t = s := hreads.same_of_run hrun
    cases result with
    | error _ => exact herr t hs
    | ok a => exact h t a hs (hsteady c t a c' t hrun)

theorem Each.endures {p : Program σ ω ε α} {err : ε} (hreads : Each Reads p)
    (h : ∀ s a, P s → p.run s = (.ok a, s) → Q a s) (herr : ∀ s, P s → E s) :
    Endures P (p.failing err) Q E :=
  hreads.failing.endures_of_steadfast (steadfast_failing err p) h herr

end Endures

end Program
