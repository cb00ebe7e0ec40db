import Mathlib.Tactic.Common

/-! # Programs of statements

A program takes statements one after the other against a state that others share. A statement
writes the state, may note events, and says from the state it found what comes next.
-/

inductive Program (σ ω ε α : Type) where
  | ret (result : Except ε α)
  | stmt (note : σ → List ω) (write : σ → σ) (next : σ → Program σ ω ε α)

namespace Program

variable {σ ω ε α β : Type}

def bind : Program σ ω ε α → (α → Program σ ω ε β) → Program σ ω ε β
  | .ret (.ok a), f => f a
  | .ret (.error err), _ => .ret (.error err)
  | .stmt note write next, f => .stmt note write fun s => (next s).bind f

instance : Monad (Program σ ω ε) where
  pure a := .ret (.ok a)
  bind := Program.bind

def fail (err : ε) : Program σ ω ε α := .ret (.error err)

def ofExcept (result : Except ε α) : Program σ ω ε α := .ret result

/-- The program, its error as a result. -/
def attempt : Program σ ω ε α → Program σ ω ε (Except ε α)
  | .ret result => .ret (.ok result)
  | .stmt note write next => .stmt note write fun s => (next s).attempt

def query (f : σ → α) : Program σ ω ε α := .stmt (fun _ => []) id fun s => .ret (.ok (f s))

def exec (write : σ → σ) : Program σ ω ε Unit := .stmt (fun _ => []) write fun _ => .ret (.ok ())

/-- A write of which an observer takes note. -/
def execNoting (note : σ → List ω) (write : σ → σ) : Program σ ω ε Unit :=
  .stmt note write fun _ => .ret (.ok ())

/-- A write that may be refused, and changes nothing then. -/
def execOr (err : ε) (write : σ → Option σ) : Program σ ω ε Unit :=
  .stmt (fun _ => []) (fun s => (write s).getD s) fun s =>
    .ret (if (write s).isSome then .ok () else .error err)

/-- Fail where there is nothing. -/
def orFail (err : ε) : Option α → Program σ ω ε α
  | some a => .ret (.ok a)
  | none => .ret (.error err)

/-- The program for each element in turn. -/
def forEach (f : α → Program σ ω ε Unit) : List α → Program σ ω ε Unit
  | [] => pure ()
  | a :: as => f a >>= fun _ => forEach f as

/-- The program, without its result. -/
def void (p : Program σ ω ε α) : Program σ ω ε Unit := p >>= fun _ => pure ()

/-- A sequence of two results is one only if both are. -/
theorem bind_eq_ok {x : Except ε α} {f : α → Except ε β} {b : β} :
    (x >>= f) = .ok b ↔ ∃ a, x = .ok a ∧ f a = .ok b := by
  cases x with
  | error err => simp [Bind.bind, Except.bind]
  | ok a => simp [Bind.bind, Except.bind]

theorem ok_bind (a : α) (f : α → Except ε β) : (Except.ok a >>= f) = f a := rfl

theorem mapError_eq_ok {ε' : Type} {f : ε → ε'} {x : Except ε α} {a : α} :
    x.mapError f = .ok a ↔ x = .ok a := by
  cases x <;> simp [Except.mapError]

theorem bind_assoc {γ : Type} (p : Program σ ω ε α) (f : α → Program σ ω ε β)
    (g : β → Program σ ω ε γ) : (p >>= f) >>= g = p >>= fun a => f a >>= g := by
  change (p.bind f).bind g = p.bind fun a => (f a).bind g
  induction p with
  | ret result => cases result <;> rfl
  | stmt note write next ih => exact congrArg (Program.stmt note write) (funext ih)

/-- The attempt of a sequence goes on with what follows, or with the error. -/
theorem attempt_bind (p : Program σ ω ε α) (f : α → Program σ ω ε β) :
    (p >>= f).attempt = p.attempt >>= fun result =>
      match result with
      | .ok a => (f a).attempt
      | .error err => pure (.error err) := by
  change (p.bind f).attempt = p.attempt.bind _
  induction p with
  | ret result => cases result <;> rfl
  | stmt note write next ih => exact congrArg (Program.stmt note write) (funext ih)

/-! ## A program run alone -/

def run : Program σ ω ε α → σ → Except ε α × σ
  | .ret result, s => (result, s)
  | .stmt _ write next, s => (next s).run (write s)

/-- What is left of the state. -/
def after (p : Program σ ω ε α) (s : σ) : σ := (p.run s).2

@[simp] theorem run_pure (a : α) (s : σ) :
    (pure a : Program σ ω ε α).run s = (.ok a, s) := rfl

@[simp] theorem run_fail (err : ε) (s : σ) :
    (fail err : Program σ ω ε α).run s = (.error err, s) := rfl

@[simp] theorem run_ofExcept (result : Except ε α) (s : σ) :
    (ofExcept result : Program σ ω ε α).run s = (result, s) := rfl

@[simp] theorem run_query (f : σ → α) (s : σ) :
    (query f : Program σ ω ε α).run s = (.ok (f s), s) := rfl

@[simp] theorem run_exec (write : σ → σ) (s : σ) :
    (exec write : Program σ ω ε Unit).run s = (.ok (), write s) := rfl

@[simp] theorem run_execNoting (note : σ → List ω) (write : σ → σ) (s : σ) :
    (execNoting note write : Program σ ω ε Unit).run s = (.ok (), write s) := rfl

theorem run_execOr (err : ε) (write : σ → Option σ) (s : σ) :
    (execOr err write : Program σ ω ε Unit).run s =
      match write s with
      | some t => (.ok (), t)
      | none => (.error err, s) := by
  change ((if (write s).isSome then .ok () else .error err : Except ε Unit), (write s).getD s) = _
  cases write s <;> rfl

@[simp] theorem run_orFail_some (err : ε) (a : α) (s : σ) :
    (orFail err (some a) : Program σ ω ε α).run s = (.ok a, s) := rfl

@[simp] theorem run_orFail_none (err : ε) (s : σ) :
    (orFail err none : Program σ ω ε α).run s = (.error err, s) := rfl

theorem run_bind (p : Program σ ω ε α) (f : α → Program σ ω ε β) (s : σ) :
    (p >>= f).run s =
      match p.run s with
      | (.ok a, t) => (f a).run t
      | (.error err, t) => (.error err, t) := by
  change (p.bind f).run s = _
  induction p generalizing s with
  | ret result => cases result <;> rfl
  | stmt note write next ih => exact ih s (write s)

/-- A sequence succeeds through a result of its first program. -/
theorem run_bind_eq_ok {p : Program σ ω ε α} {f : α → Program σ ω ε β} {s u : σ} {b : β} :
    (p >>= f).run s = (.ok b, u) ↔
      ∃ a t, p.run s = (.ok a, t) ∧ (f a).run t = (.ok b, u) := by
  rw [run_bind]
  obtain ⟨result, t⟩ := p.run s
  cases result with
  | error err => simp only [Prod.mk.injEq, reduceCtorEq, false_and, exists_false]
  | ok a => simp only [Prod.mk.injEq, Except.ok.injEq, exists_and_left, exists_eq_left',
      and_assoc]

theorem run_pure_eq_ok {a b : α} {s t : σ} :
    (pure a : Program σ ω ε α).run s = (.ok b, t) ↔ a = b ∧ s = t := by
  rw [run_pure, Prod.mk.injEq, Except.ok.injEq]

theorem run_query_eq_ok {f : σ → α} {a : α} {s t : σ} :
    (query f : Program σ ω ε α).run s = (.ok a, t) ↔ f s = a ∧ s = t := by
  rw [run_query, Prod.mk.injEq, Except.ok.injEq]

theorem run_execOr_eq_ok {err : ε} {write : σ → Option σ} {s t : σ} :
    (execOr err write : Program σ ω ε Unit).run s = (.ok (), t) ↔ write s = some t := by
  rw [run_execOr]
  cases write s <;> simp

theorem run_orFail_eq_ok {err : ε} {o : Option α} {a : α} {s t : σ} :
    (orFail err o : Program σ ω ε α).run s = (.ok a, t) ↔ o = some a ∧ s = t := by
  cases o <;> simp

theorem not_run_fail_eq_ok {err : ε} {a : α} {s t : σ} :
    (fail err : Program σ ω ε α).run s ≠ (.ok a, t) := nofun

theorem mem_toOption_run {p : Program σ ω ε α} {a : α} {s : σ} :
    a ∈ (p.run s).1.toOption ↔ ∃ t, p.run s = (.ok a, t) := by
  obtain ⟨result, t⟩ := p.run s
  cases result <;> simp [Except.toOption]

theorem run_attempt (p : Program σ ω ε α) (s : σ) :
    p.attempt.run s = (.ok (p.run s).1, (p.run s).2) := by
  induction p generalizing s with
  | ret result => rfl
  | stmt note write next ih => exact ih s (write s)

theorem after_void (p : Program σ ω ε α) (s : σ) : p.void.after s = p.after s := by
  unfold after void
  rw [run_bind]
  generalize p.run s = result
  obtain ⟨result, t⟩ := result
  cases result <;> rfl

/-! ## Pre- and postconditions

Run from a state that satisfies `P`, the program gives a result that satisfies `Q`, or an error
that satisfies `E`.
-/

def Triple (P : σ → Prop) (p : Program σ ω ε α) (Q : α → σ → Prop) (E : ε → σ → Prop) : Prop :=
  ∀ s, P s →
    match p.run s with
    | (.ok a, t) => Q a t
    | (.error err, t) => E err t

variable {P : σ → Prop} {Q : α → σ → Prop} {E : ε → σ → Prop}

theorem Triple.pure {a : α} (h : ∀ s, P s → Q a s) : Triple P (pure a : Program σ ω ε α) Q E := h

theorem Triple.fail {err : ε} (h : ∀ s, P s → E err s) :
    Triple P (fail err : Program σ ω ε α) Q E := h

theorem Triple.query {f : σ → α} (h : ∀ s, P s → Q (f s) s) :
    Triple P (query f : Program σ ω ε α) Q E := h

theorem Triple.exec {Q : Unit → σ → Prop} {write : σ → σ} (h : ∀ s, P s → Q () (write s)) :
    Triple P (exec write : Program σ ω ε Unit) Q E := h

theorem Triple.execNoting {Q : Unit → σ → Prop} {note : σ → List ω} {write : σ → σ}
    (h : ∀ s, P s → Q () (write s)) :
    Triple P (execNoting note write : Program σ ω ε Unit) Q E := h

theorem Triple.execOr {Q : Unit → σ → Prop} {err : ε} {write : σ → Option σ}
    (h : ∀ s, P s → ∀ t, write s = some t → Q () t) (herr : ∀ s, P s → write s = none → E err s) :
    Triple P (execOr err write : Program σ ω ε Unit) Q E := by
  intro s hs
  rw [run_execOr]
  cases hwrite : write s with
  | none => exact herr s hs hwrite
  | some t => exact h s hs t hwrite

theorem Triple.orFail {err : ε} {o : Option α} (h : ∀ a, o = some a → ∀ s, P s → Q a s)
    (herr : o = none → ∀ s, P s → E err s) :
    Triple P (orFail err o : Program σ ω ε α) Q E := by
  cases o with
  | none => exact herr rfl
  | some a => exact h a rfl

theorem Triple.ofExcept {result : Except ε α} (h : ∀ a, result = .ok a → ∀ s, P s → Q a s)
    (herr : ∀ err, result = .error err → ∀ s, P s → E err s) :
    Triple P (ofExcept result : Program σ ω ε α) Q E := by
  cases result with
  | error err => exact herr err rfl
  | ok a => exact h a rfl

/-- The rule of sequence. -/
theorem Triple.bind {R : α → σ → Prop} {p : Program σ ω ε α} {f : α → Program σ ω ε β}
    {Q : β → σ → Prop} (hp : Triple P p R E) (hf : ∀ a, Triple (R a) (f a) Q E) :
    Triple P (p >>= f) Q E := by
  intro s hs
  have hrun := hp s hs
  rw [run_bind]
  generalize p.run s = result at hrun ⊢
  obtain ⟨result, t⟩ := result
  cases result with
  | error err => exact hrun
  | ok a => exact hf a t hrun

/-- The rule of consequence. -/
theorem Triple.imp {P' : σ → Prop} {Q' : α → σ → Prop} {E' : ε → σ → Prop}
    {p : Program σ ω ε α} (h : Triple P' p Q' E') (hP : ∀ s, P s → P' s)
    (hQ : ∀ a s, Q' a s → Q a s) (hE : ∀ err s, E' err s → E err s) : Triple P p Q E := by
  intro s hs
  have hrun := h s (hP s hs)
  generalize p.run s = result at hrun ⊢
  obtain ⟨result, t⟩ := result
  cases result with
  | error err => exact hE err t hrun
  | ok a => exact hQ a t hrun

/-- A precondition that is not about the state. -/
theorem Triple.of_and {p : Prop} {q : Program σ ω ε α} (h : p → Triple P q Q E) :
    Triple (fun s => P s ∧ p) q Q E := fun s hs => h hs.2 s hs.1

/-- The rule of conjunction. -/
theorem Triple.and {P' : σ → Prop} {Q' : α → σ → Prop} {E' : ε → σ → Prop}
    {p : Program σ ω ε α} (h : Triple P p Q E) (h' : Triple P' p Q' E') :
    Triple (fun s => P s ∧ P' s) p (fun a s => Q a s ∧ Q' a s) fun err s => E err s ∧ E' err s := by
  intro s hs
  have hrun := h s hs.1
  have hrun' := h' s hs.2
  generalize p.run s = result at hrun hrun' ⊢
  obtain ⟨result, t⟩ := result
  cases result <;> exact ⟨hrun, hrun'⟩

/-- The invariant of a loop. -/
theorem Triple.forEach {I : List α → σ → Prop} {f : α → Program σ ω ε Unit}
    (hf : ∀ a as, Triple (I (a :: as)) (f a) (fun _ => I as) E) (as : List α) :
    Triple (I as) (forEach f as) (fun _ => I []) E := by
  induction as with
  | nil => exact .pure fun _ hs => hs
  | cons a as ih => exact .bind (hf a as) fun _ => ih

theorem Triple.attempt {p : Program σ ω ε α} {Q : Except ε α → σ → Prop}
    (h : Triple P p (fun a => Q (.ok a)) fun err => Q (.error err)) : Triple P p.attempt Q E := by
  intro s hs
  have hrun := h s hs
  rw [run_attempt]
  generalize p.run s = result at hrun ⊢
  obtain ⟨result, t⟩ := result
  cases result <;> exact hrun

theorem Triple.of_run_ok {p : Program σ ω ε α} (h : Triple P p Q E) {s t : σ} {a : α} (hs : P s)
    (hrun : p.run s = (.ok a, t)) : Q a t := by
  have hpost := h s hs
  rwa [hrun] at hpost

theorem Triple.of_run_error {p : Program σ ω ε α} (h : Triple P p Q E) {s t : σ} {err : ε}
    (hs : P s) (hrun : p.run s = (.error err, t)) : E err t := by
  have hpost := h s hs
  rwa [hrun] at hpost

/-- What holds of the state with a result and with an error holds of what is left. -/
theorem Triple.after {R : σ → Prop} {p : Program σ ω ε α}
    (h : Triple P p (fun _ => R) fun _ => R) {s : σ} (hs : P s) : R (p.after s) := by
  have hrun := h s hs
  unfold Program.after
  generalize p.run s = result at hrun ⊢
  obtain ⟨result, t⟩ := result
  cases result <;> exact hrun

/-- A program that keeps a property of the state, whatever its result is. -/
def Keeps (P : σ → Prop) (p : Program σ ω ε α) : Prop := Triple P p (fun _ => P) fun _ => P

theorem Keeps.triple {p : Program σ ω ε α} (h : Keeps P p) :
    Triple P p (fun _ => P) fun _ => P := h

theorem Triple.keeps {p : Program σ ω ε α} (h : Triple P p Q E) (hQ : ∀ a s, Q a s → P s)
    (hE : ∀ err s, E err s → P s) : Keeps P p := h.imp (fun _ hs => hs) hQ hE

theorem Keeps.after {p : Program σ ω ε α} (h : Keeps P p) {s : σ} (hs : P s) : P (p.after s) :=
  h.triple.after hs

theorem Keeps.bind {p : Program σ ω ε α} {f : α → Program σ ω ε β} (hp : Keeps P p)
    (hf : ∀ a, Keeps P (f a)) : Keeps P (p >>= f) := Triple.bind hp hf

theorem Keeps.pure (a : α) : Keeps P (pure a : Program σ ω ε α) := Triple.pure fun _ h => h

theorem Keeps.fail (err : ε) : Keeps P (fail err : Program σ ω ε α) := Triple.fail fun _ h => h

theorem Keeps.query (f : σ → α) : Keeps P (query f : Program σ ω ε α) := Triple.query fun _ h => h

theorem Keeps.orFail (err : ε) (o : Option α) : Keeps P (orFail err o : Program σ ω ε α) :=
  Triple.orFail (fun _ _ _ h => h) fun _ _ h => h

theorem Keeps.ofExcept (result : Except ε α) : Keeps P (ofExcept result : Program σ ω ε α) :=
  Triple.ofExcept (fun _ _ _ h => h) fun _ _ _ h => h

theorem Keeps.void {p : Program σ ω ε α} (h : Keeps P p) : Keeps P p.void :=
  h.bind fun _ => .pure ()

theorem Keeps.forEach {f : α → Program σ ω ε Unit} (h : ∀ a, Keeps P (f a)) (as : List α) :
    Keeps P (forEach f as) := Triple.forEach (I := fun _ => P) (fun a _ => h a) as

/-! ## What a program may execute -/

/-- Every statement of the program satisfies `S`. -/
def Each (S : (σ → List ω) → (σ → σ) → Prop) : Program σ ω ε α → Prop
  | .ret _ => True
  | .stmt note write next => S note write ∧ ∀ s, (next s).Each S

section Each

variable {S : (σ → List ω) → (σ → σ) → Prop}

theorem Each.pure (a : α) : Each S (pure a : Program σ ω ε α) := trivial

theorem Each.fail (err : ε) : Each S (fail err : Program σ ω ε α) := trivial

theorem Each.ofExcept (result : Except ε α) : Each S (ofExcept result : Program σ ω ε α) := trivial

theorem Each.orFail (err : ε) (o : Option α) : Each S (orFail err o : Program σ ω ε α) := by
  cases o <;> trivial

theorem Each.query (h : S (fun _ => []) id) (f : σ → α) :
    Each S (query f : Program σ ω ε α) := ⟨h, fun _ => trivial⟩

theorem Each.exec {write : σ → σ} (h : S (fun _ => []) write) :
    Each S (exec write : Program σ ω ε Unit) := ⟨h, fun _ => trivial⟩

theorem Each.execNoting {note : σ → List ω} {write : σ → σ} (h : S note write) :
    Each S (execNoting note write : Program σ ω ε Unit) := ⟨h, fun _ => trivial⟩

theorem Each.execOr (err : ε) {write : σ → Option σ}
    (h : S (fun _ => []) fun s => (write s).getD s) :
    Each S (execOr err write : Program σ ω ε Unit) := ⟨h, fun _ => trivial⟩

theorem Each.bind {p : Program σ ω ε α} {f : α → Program σ ω ε β} (hp : Each S p)
    (hf : ∀ a, Each S (f a)) : Each S (p >>= f) := by
  change Each S (p.bind f)
  induction p with
  | ret result =>
    cases result with
    | error err => trivial
    | ok a => exact hf a
  | stmt note write next ih => exact ⟨hp.1, fun s => ih s (hp.2 s)⟩

theorem Each.attempt {p : Program σ ω ε α} (hp : Each S p) : Each S p.attempt := by
  induction p with
  | ret result => trivial
  | stmt note write next ih => exact ⟨hp.1, fun s => ih s (hp.2 s)⟩

theorem Each.void {p : Program σ ω ε α} (hp : Each S p) : Each S p.void :=
  hp.bind fun _ => .pure ()

theorem Each.forEach {f : α → Program σ ω ε Unit} (hf : ∀ a, Each S (f a)) (as : List α) :
    Each S (forEach f as) := by
  induction as with
  | nil => trivial
  | cons a as ih => exact (hf a).bind fun _ => ih

theorem each_ret (result : Except ε α) : Each S (.ret result : Program σ ω ε α) := trivial

theorem each_stmt {note : σ → List ω} {write : σ → σ} {next : σ → Program σ ω ε α} :
    Each S (.stmt note write next) ↔ S note write ∧ ∀ s, Each S (next s) := Iff.rfl

theorem Each.mono {S' : (σ → List ω) → (σ → σ) → Prop} {p : Program σ ω ε α} (h : Each S p)
    (himp : ∀ note write, S note write → S' note write) : Each S' p := by
  induction p with
  | ret result => trivial
  | stmt note write next ih => exact ⟨himp _ _ h.1, fun s => ih s (h.2 s)⟩

/-- What every statement keeps the program keeps. -/
theorem Each.keeps {p : Program σ ω ε α} (h : Each (fun _ write => ∀ s, P s → P (write s)) p) :
    Keeps P p := by
  induction p with
  | ret result => cases result <;> exact fun s hs => hs
  | stmt note write next ih => exact fun s hs => ih s (h.2 s) (write s) (h.1 s hs)

/-- A statement that writes nothing. -/
def Reads (_ : σ → List ω) (write : σ → σ) : Prop := ∀ s, write s = s

theorem reads_query : Reads (fun _ : σ => ([] : List ω)) id := fun _ => rfl

/-- A program that only reads leaves the state as it is. -/
theorem Each.after_eq {p : Program σ ω ε α} (h : Each Reads p)
    (s : σ) : p.after s = s := by
  induction p generalizing s with
  | ret result => rfl
  | stmt note write next ih =>
    have hwrite : write s = s := h.1 s
    calc (Program.stmt note write next).after s = (next s).after (write s) := rfl
      _ = (next s).after s := by rw [hwrite]
      _ = s := ih s (h.2 s) s

theorem Each.eq_of_run {p : Program σ ω ε α} (h : Each Reads p) {s t : σ} {result : Except ε α}
    (hrun : p.run s = (result, t)) : s = t := by
  rw [← h.after_eq s, after, hrun]

theorem Each.keeps_of_reads {p : Program σ ω ε α} (h : Each Reads p) : Keeps P p :=
  (h.mono fun _ write hreads s (hs : P s) => by rwa [hreads s]).keeps

/-- What a program that only reads finds holds where it was called. -/
theorem Each.triple {p : Program σ ω ε α} (h : Each Reads p)
    (hQ : ∀ s a, P s → p.run s = (.ok a, s) → Q a s) (hE : ∀ s err, P s → E err s) :
    Triple P p Q E := by
  intro s hs
  have hsame : (p.run s).2 = s := h.after_eq s
  cases hrun : p.run s with
  | mk result t =>
    obtain rfl : t = s := by rw [← hsame, hrun]
    cases result with
    | error err => exact hE t err hs
    | ok a => exact hQ t a hs hrun

end Each

-- the rules say all about them; to unfold them would be to run the program
attribute [irreducible] Triple Keeps Each

/-! ## A program among others

Between two statements of a program others may have written anything.
-/

/-- However the program goes, what it notes and its result satisfy `R`. -/
def Always : Program σ ω ε α → (List ω → Except ε α → Prop) → Prop
  | .ret result, R => R [] result
  | .stmt note _ next, R => ∀ s, (next s).Always fun events => R (note s ++ events)

theorem always_ret {result : Except ε α} {R : List ω → Except ε α → Prop} :
    (ret result : Program σ ω ε α).Always R ↔ R [] result := Iff.rfl

theorem always_stmt {note : σ → List ω} {write : σ → σ} {next : σ → Program σ ω ε α}
    {R : List ω → Except ε α → Prop} :
    (stmt note write next).Always R ↔
      ∀ s, (next s).Always fun events => R (note s ++ events) := Iff.rfl

theorem Always.mono {p : Program σ ω ε α} {R R' : List ω → Except ε α → Prop} (h : p.Always R)
    (himp : ∀ events result, R events result → R' events result) : p.Always R' := by
  induction p generalizing R R' with
  | ret result => exact himp [] result h
  | stmt note write next ih => exact fun s => ih s (h s) fun events => himp (note s ++ events)

theorem always_of_forall {R : List ω → Except ε α → Prop} (h : ∀ events result, R events result)
    (p : Program σ ω ε α) : p.Always R := by
  induction p generalizing R with
  | ret result => exact h [] result
  | stmt note write next ih => exact fun s => ih s fun events => h (note s ++ events)

theorem Always.bind {p : Program σ ω ε α} {f : α → Program σ ω ε β}
    {R : List ω → Except ε β → Prop}
    (h : p.Always fun events result =>
      match result with
      | .ok a => (f a).Always fun events' => R (events ++ events')
      | .error err => R events (.error err)) : (p >>= f).Always R := by
  change (p.bind f).Always R
  induction p generalizing R with
  | ret result => cases result <;> exact h
  | stmt note write next ih =>
    intro s
    refine ih s ((h s).mono fun events result hresult => ?_)
    cases result with
    | error err => exact hresult
    | ok a => simpa only [List.append_assoc] using hresult

/-- A program that does not succeed without having noted an event of this kind. -/
def Notes (E : ω → Prop) (p : Program σ ω ε α) : Prop :=
  p.Always fun events result => ∀ a, result = .ok a → ∃ e ∈ events, E e

theorem Notes.fail {E : ω → Prop} (err : ε) : Notes E (fail err : Program σ ω ε α) := nofun

theorem Notes.bind_left {E : ω → Prop} {p : Program σ ω ε α} (h : Notes E p)
    (f : α → Program σ ω ε β) : Notes E (p >>= f) := by
  refine Always.bind (h.mono fun events result hnotes => ?_)
  cases result with
  | error err => exact nofun
  | ok a =>
    obtain ⟨e, hmem, he⟩ := hnotes a rfl
    exact always_of_forall (fun _ _ _ _ => ⟨e, List.mem_append_left _ hmem, he⟩) _

theorem Notes.bind_right {E : ω → Prop} (p : Program σ ω ε α) {f : α → Program σ ω ε β}
    (h : ∀ a, Notes E (f a)) : Notes E (p >>= f) := by
  refine Always.bind (always_of_forall (fun events result => ?_) p)
  cases result with
  | error err => exact nofun
  | ok a =>
    refine (h a).mono fun events' result hnotes b hb => ?_
    obtain ⟨e, hmem, he⟩ := hnotes b hb
    exact ⟨e, List.mem_append_right _ hmem, he⟩

theorem notes_iff {E : ω → Prop} {p : Program σ ω ε α} :
    Notes E p ↔ p.Always fun events result => ∀ a, result = .ok a → ∃ e ∈ events, E e := Iff.rfl

theorem notes_execNoting {E : ω → Prop} {note : σ → List ω} {write : σ → σ}
    (h : ∀ s, ∃ e ∈ note s, E e) : Notes E (execNoting note write : Program σ ω ε Unit) := by
  intro s _ _
  obtain ⟨e, hmem, he⟩ := h s
  exact ⟨e, List.mem_append_left _ hmem, he⟩

/-! ## A program on a part of the state -/

section Within

variable {τ : Type} {get : τ → σ} {put : σ → τ → τ}

/-- The program, run on what `get` reads of a larger state and `put` writes back. -/
def within (get : τ → σ) (put : σ → τ → τ) : Program σ ω ε α → Program τ ω ε α
  | .ret result => .ret result
  | .stmt note write next =>
    .stmt (fun t => note (get t)) (fun t => put (write (get t)) t) fun t =>
      (next (get t)).within get put

theorem Each.within {S : (σ → List ω) → (σ → σ) → Prop} {T : (τ → List ω) → (τ → τ) → Prop}
    {p : Program σ ω ε α} (h : Each S p)
    (hwithin : ∀ note write, S note write →
      T (fun t => note (get t)) fun t => put (write (get t)) t) :
    Each T (p.within get put) := by
  induction p with
  | ret result => exact each_ret result
  | stmt note write next ih =>
    obtain ⟨hstmt, hnext⟩ := each_stmt.mp h
    exact each_stmt.mpr ⟨hwithin note write hstmt, fun t => ih (get t) (hnext (get t))⟩

end Within

attribute [irreducible] Always Notes

end Program
