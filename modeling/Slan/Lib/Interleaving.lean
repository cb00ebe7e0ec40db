import Mathlib.Logic.Relation
import Slan.Lib.Program

/-! # Programs that take turns

Calls against one state, each with its statements in order, those of different calls in any order.
-/

namespace Program

variable {σ ω ε α β : Type}

/-! ## What a program notes, and why

A program that has noted `seen` (the last event first) notes an event `e` in a state `s` only where
`R s seen e`. If it gives a result, this and all that it has noted satisfy `Q`.
-/

def Justified (R : σ → List ω → ω → Prop) :
    List ω → Program σ ω ε α → (List ω → α → Prop) → Prop
  | seen, .ret (.ok a), Q => Q seen a
  | _, .ret (.error _), _ => True
  | seen, .stmt note _ next, Q =>
    ∀ s, (∀ e ∈ note s, R s seen e) ∧ (next s).Justified R (note s ++ seen) Q

section Justified

variable {R : σ → List ω → ω → Prop} {seen : List ω} {Q : List ω → α → Prop}

theorem justified_stmt {note : σ → List ω} {write : σ → σ} {next : σ → Program σ ω ε α} :
    (stmt note write next).Justified R seen Q ↔
      ∀ s, (∀ e ∈ note s, R s seen e) ∧ (next s).Justified R (note s ++ seen) Q := Iff.rfl

theorem Justified.mono {R' : σ → List ω → ω → Prop} {Q' : List ω → α → Prop}
    {p : Program σ ω ε α} (h : p.Justified R seen Q) (hR : ∀ s seen e, R s seen e → R' s seen e)
    (hQ : ∀ seen a, Q seen a → Q' seen a) : p.Justified R' seen Q' := by
  induction p generalizing seen with
  | ret result =>
    cases result with
    | error err => trivial
    | ok a => exact hQ seen a h
  | stmt note write next ih =>
    exact fun s => ⟨fun e he => hR s seen e ((h s).1 e he), ih s (h s).2⟩

theorem Justified.pure {a : α} (h : Q seen a) :
    (pure a : Program σ ω ε α).Justified R seen Q := h

theorem Justified.fail (err : ε) : (fail err : Program σ ω ε α).Justified R seen Q := trivial

theorem Justified.query {f : σ → α} (h : ∀ s, Q seen (f s)) :
    (query f : Program σ ω ε α).Justified R seen Q :=
  fun s => ⟨fun _ he => absurd he List.not_mem_nil, h s⟩

theorem Justified.exec {Q : List ω → Unit → Prop} {write : σ → σ} (h : Q seen ()) :
    (exec write : Program σ ω ε Unit).Justified R seen Q :=
  fun _ => ⟨fun _ he => absurd he List.not_mem_nil, h⟩

theorem Justified.execNoting {Q : List ω → Unit → Prop} {note : σ → List ω} {write : σ → σ}
    (h : ∀ s, (∀ e ∈ note s, R s seen e) ∧ Q (note s ++ seen) ()) :
    (execNoting note write : Program σ ω ε Unit).Justified R seen Q := h

theorem Justified.execOr {Q : List ω → Unit → Prop} {err : ε} {write : σ → Option σ}
    (h : Q seen ()) : (execOr err write : Program σ ω ε Unit).Justified R seen Q := by
  intro s
  refine ⟨fun _ he => absurd he List.not_mem_nil, ?_⟩
  cases hwrite : write s <;> simp [Justified, hwrite, h]

theorem Justified.orFail {err : ε} {o : Option α} (h : ∀ a, o = some a → Q seen a) :
    (orFail err o : Program σ ω ε α).Justified R seen Q := by
  cases o with
  | none => trivial
  | some a => exact h a rfl

theorem Justified.bind {p : Program σ ω ε α} {f : α → Program σ ω ε β}
    {Q' : List ω → β → Prop} (h : p.Justified R seen Q)
    (hf : ∀ seen a, Q seen a → (f a).Justified R seen Q') :
    (p >>= f).Justified R seen Q' := by
  change (p.bind f).Justified R seen Q'
  induction p generalizing seen with
  | ret result =>
    cases result with
    | error err => trivial
    | ok a => exact hf seen a h
  | stmt note write next ih => exact fun s => ⟨(h s).1, ih s (h s).2⟩

end Justified

/-! ## A program that relies on what others keep

Others lead from a state to one above it. Each statement of the program does so in its own way `S`,
and a result that the program gives satisfies `Q` in the state it is given in.
-/

def Assures (le S : σ → σ → Prop) :
    σ → Program σ ω ε α → (σ → α → Prop) → Prop
  | s, .ret (.ok a), Q => Q s a
  | _, .ret (.error _), _ => True
  | s, .stmt _ write next, Q =>
    ∀ t, le s t → S t (write t) ∧ (next t).Assures le S (write t) Q

/-- The states above a state, and the ways of a program among them. -/
structure Rely (le S : σ → σ → Prop) : Prop where
  refl : ∀ s, le s s
  trans : ∀ {s t u}, le s t → le t u → le s u
  own : ∀ {s t}, S s t → le s t

section Assures

variable {le S : σ → σ → Prop} {s t : σ} {Q : σ → α → Prop}

theorem assures_stmt {note : σ → List ω} {write : σ → σ} {next : σ → Program σ ω ε α} :
    (stmt note write next).Assures le S s Q ↔
      ∀ t, le s t → S t (write t) ∧ (next t).Assures le S (write t) Q := Iff.rfl

theorem assures_ret {a : α} : (ret (.ok a) : Program σ ω ε α).Assures le S s Q ↔ Q s a := Iff.rfl

theorem Assures.pure {a : α} (h : Q s a) : (pure a : Program σ ω ε α).Assures le S s Q := h

theorem Assures.fail (err : ε) : (fail err : Program σ ω ε α).Assures le S s Q := trivial

theorem Assures.ofExcept {result : Except ε α} (h : ∀ a, result = .ok a → Q s a) :
    (ofExcept result : Program σ ω ε α).Assures le S s Q := by
  cases result with
  | error err => trivial
  | ok a => exact h a rfl

theorem Assures.orFail {err : ε} {o : Option α} (h : ∀ a, o = some a → Q s a) :
    (orFail err o : Program σ ω ε α).Assures le S s Q := by
  cases o with
  | none => trivial
  | some a => exact h a rfl

theorem Assures.query {f : σ → α} (h : ∀ t, le s t → S t t ∧ Q t (f t)) :
    (query f : Program σ ω ε α).Assures le S s Q := h

theorem Assures.execOr {Q : σ → Unit → Prop} {err : ε} {write : σ → Option σ}
    (h : ∀ t, le s t → ∀ u, write t = some u → S t u ∧ Q u ()) (hnone : ∀ t, S t t) :
    (execOr err write : Program σ ω ε Unit).Assures le S s Q := by
  intro t hle
  dsimp only
  cases hwrite : write t with
  | none => exact ⟨hnone t, trivial⟩
  | some u => exact h t hle u hwrite

theorem Assures.mono {Q' : σ → α → Prop} {p : Program σ ω ε α} (h : p.Assures le S s Q)
    (hQ : ∀ t a, Q t a → Q' t a) : p.Assures le S s Q' := by
  induction p generalizing s with
  | ret result =>
    cases result with
    | error err => trivial
    | ok a => exact hQ s a h
  | stmt note write next ih => exact fun t hle => ⟨(h t hle).1, ih t (h t hle).2⟩

/-- The program is as good in a state above. -/
theorem Assures.above (hrely : Rely le S) {p : Program σ ω ε α} (h : p.Assures le S s Q)
    (hle : le s t) (hQ : ∀ t u a, le t u → Q t a → Q u a) : p.Assures le S t Q := by
  cases p with
  | ret result =>
    cases result with
    | error err => trivial
    | ok a => exact hQ s t a hle h
  | stmt note write next => exact fun u hu => h u (hrely.trans hle hu)

/-- What others keep is kept. -/
theorem Assures.also (hrely : Rely le S) {p : Program σ ω ε α} (h : p.Assures le S s Q)
    {P : σ → Prop} (hs : P s) (hkeeps : ∀ t u, le t u → P t → P u) :
    p.Assures le S s fun t a => P t ∧ Q t a := by
  induction p generalizing s with
  | ret result =>
    cases result with
    | error err => trivial
    | ok a => exact ⟨hs, h⟩
  | stmt note write next ih =>
    refine fun t hle => ⟨(h t hle).1, ih t (h t hle).2 ?_⟩
    exact hkeeps _ _ (hrely.trans hle (hrely.own (h t hle).1)) hs

theorem Assures.bind (hrely : Rely le S) {p : Program σ ω ε α} {f : α → Program σ ω ε β}
    {Q' : σ → β → Prop} (h : p.Assures le S s Q)
    (hf : ∀ t a, le s t → Q t a → (f a).Assures le S t Q') : (p >>= f).Assures le S s Q' := by
  change (p.bind f).Assures le S s Q'
  induction p generalizing s with
  | ret result =>
    cases result with
    | error err => trivial
    | ok a => exact hf s a (hrely.refl s) h
  | stmt note write next ih =>
    refine fun t hle => ⟨(h t hle).1, ih t (h t hle).2 fun u a hu => ?_⟩
    exact hf u a (hrely.trans (hrely.trans hle (hrely.own (h t hle).1)) hu)

/-- The error of a program is a result of its attempt. -/
theorem Assures.attempt {p : Program σ ω ε α} (h : p.Assures le S s Q) :
    p.attempt.Assures le S s fun t result => ∀ a, result = .ok a → Q t a := by
  induction p generalizing s with
  | ret result =>
    rintro a rfl
    exact h
  | stmt note write next ih => exact fun t hle => ⟨(h t hle).1, ih t (h t hle).2⟩

/-- What the program assures of each element it assures of all of them, once no other undoes it. -/
theorem Assures.forEach (hrely : Rely le S) {f : α → Program σ ω ε Unit} {P : α → σ → Prop}
    (hkeeps : ∀ a t u, le t u → P a t → P a u) {as : List α}
    (h : ∀ a ∈ as, ∀ t, le s t → (f a).Assures le S t fun u _ => P a u) :
    (forEach f as).Assures le S s fun u _ => ∀ a ∈ as, P a u := by
  induction as generalizing s with
  | nil => exact Assures.pure fun _ ha => absurd ha List.not_mem_nil
  | cons a as ih =>
    refine (h a List.mem_cons_self s (hrely.refl s)).bind hrely fun t _ hst ha => ?_
    have hrest := ih (s := t) fun b hb u htu =>
      h b (List.mem_cons_of_mem a hb) u (hrely.trans hst htu)
    -- what holds of `a` now still holds when the others are done
    have hboth : (Program.forEach f as).Assures le S t fun u _ =>
        P a u ∧ ∀ b ∈ as, P b u := hrest.also hrely ha (hkeeps a)
    exact hboth.mono fun _ _ hu => List.forall_mem_cons.mpr hu

/-- A program whose statements are in the way of `S` in every state. -/
theorem Assures.of_each {p : Program σ ω ε α} (h : Each (fun _ write => ∀ t, S t (write t)) p) :
    p.Assures le S s fun _ _ => True := by
  induction p generalizing s with
  | ret result => cases result <;> trivial
  | stmt note write next ih =>
    have hstmt := each_stmt.mp h
    exact fun t _ => ⟨hstmt.1 t, ih t (hstmt.2 t)⟩

end Assures

attribute [irreducible] Justified Assures

end Program

structure Interleaving (σ ω ε : Type) where
  state : σ
  /-- What is left of each call. -/
  calls : List (Program σ ω ε Unit)
  /-- What the calls have noted, the last event first. -/
  history : List (Nat × ω)

namespace Interleaving

variable {σ ω ε : Type}

def start (s : σ) : Interleaving σ ω ε := ⟨s, [], []⟩

def begin (w : Interleaving σ ω ε) (p : Program σ ω ε Unit) : Interleaving σ ω ε :=
  { w with calls := w.calls ++ [p] }

/-- A call takes its next statement. -/
def advance (w : Interleaving σ ω ε) (call : Nat) : Option (Interleaving σ ω ε) :=
  match w.calls[call]? with
  | some (.stmt note write next) =>
    some {
      state := write w.state
      calls := w.calls.set call (next w.state)
      history := (note w.state).map (Prod.mk call) ++ w.history }
  | _ => none

/-- What the next statement of a call would note. -/
def upcoming (w : Interleaving σ ω ε) (call : Nat) : List ω :=
  match w.calls[call]? with
  | some (.stmt note _ _) => note w.state
  | _ => []

/-- What one call has noted, the last event first. -/
def noted (history : List (Nat × ω)) (call : Nat) : List ω :=
  history.filterMap fun n => if n.1 = call then some n.2 else none

theorem noted_append (h h' : List (Nat × ω)) (call : Nat) :
    noted (h ++ h') call = noted h call ++ noted h' call := List.filterMap_append

theorem noted_map_self (es : List ω) (call : Nat) : noted (es.map (Prod.mk call)) call = es := by
  induction es with
  | nil => rfl
  | cons e es ih => simpa [noted] using ih

theorem noted_map_of_ne (es : List ω) {call other : Nat} (h : other ≠ call) :
    noted (es.map (Prod.mk other)) call = [] := by
  simp [noted, h]

theorem noted_cons (call : Nat) (e : ω) (history : List (Nat × ω)) (other : Nat) :
    noted ((call, e) :: history) other =
      if call = other then e :: noted history other else noted history other := by
  unfold noted
  rw [List.filterMap_cons]
  by_cases h : call = other
  · simp only [if_pos h]
  · simp only [if_neg h]

theorem mem_noted {history : List (Nat × ω)} {call : Nat} {e : ω} :
    e ∈ noted history call ↔ (call, e) ∈ history := by
  unfold noted
  rw [List.mem_filterMap]
  constructor
  · rintro ⟨⟨other, e'⟩, hmem, hsome⟩
    split at hsome
    · rename_i heq
      dsimp only at heq
      obtain rfl := Option.some.inj hsome
      rwa [heq] at hmem
    · cases hsome
  · exact fun hmem => ⟨(call, e), hmem, if_pos rfl⟩

/-- The statement that a call takes. -/
theorem advance_eq_some {w t : Interleaving σ ω ε} {call : Nat} (h : w.advance call = some t) :
    ∃ note write next, w.calls[call]? = some (.stmt note write next) ∧
      w.upcoming call = note w.state ∧
      t = {
        state := write w.state
        calls := w.calls.set call (next w.state)
        history := (note w.state).map (Prod.mk call) ++ w.history } := by
  unfold advance at h
  unfold upcoming
  split at h
  · rename_i note write next hcall
    exact ⟨note, write, next, hcall, rfl, (Option.some.inj h).symm⟩
  · cases h

/-- A call that has its way takes all statements of a program that it begins with. -/
theorem exists_advance_bind {w : Interleaving σ ω ε} {call : Nat} {α : Type}
    {p : Program σ ω ε α} {f : α → Program σ ω ε Unit} (hcall : w.calls[call]? = some (p >>= f))
    {a : α} {s : σ} (hrun : p.run w.state = (.ok a, s)) :
    ∃ t, Relation.ReflTransGen (fun w t => w.advance call = some t) w t ∧ t.state = s ∧
      t.calls[call]? = some (f a) := by
  induction p generalizing w with
  | ret result =>
    obtain ⟨rfl, rfl⟩ := Prod.mk.inj hrun
    exact ⟨w, .refl, rfl, hcall⟩
  | stmt note write next ih =>
    have hlt : call < w.calls.length := (List.getElem?_eq_some_iff.mp hcall).1
    let u : Interleaving σ ω ε := {
      state := write w.state
      calls := w.calls.set call (next w.state >>= f)
      history := (note w.state).map (Prod.mk call) ++ w.history }
    have hstep : w.advance call = some u := by
      unfold advance
      rw [hcall]
      rfl
    obtain ⟨t, hreach, hstate, hrest⟩ :=
      ih w.state (w := u) (List.getElem?_set_self hlt) hrun
    exact ⟨t, .head hstep hreach, hstate, hrest⟩

/-- The same within an attempt. -/
theorem exists_advance_attempt {w : Interleaving σ ω ε} {call : Nat} {α β : Type}
    {p : Program σ ω ε α} {f : α → Program σ ω ε β} {g : Except ε β → Program σ ω ε Unit}
    (hcall : w.calls[call]? = some ((p >>= f).attempt >>= g)) {a : α} {s : σ}
    (hrun : p.run w.state = (.ok a, s)) :
    ∃ t, Relation.ReflTransGen (fun w t => w.advance call = some t) w t ∧ t.state = s ∧
      t.calls[call]? = some ((f a).attempt >>= g) := by
  rw [Program.attempt_bind, Program.bind_assoc] at hcall
  have hattempt : p.attempt.run w.state = (.ok (.ok a), s) := by
    rw [Program.run_attempt, hrun]
  exact exists_advance_bind hcall hattempt

/-- Every statement of the calls under way satisfies `S`, and what they note is justified by what
they have noted. -/
structure Orderly (S : (σ → List ω) → (σ → σ) → Prop) (R : σ → List ω → ω → Prop)
    (w : Interleaving σ ω ε) : Prop where
  each : ∀ p ∈ w.calls, Program.Each S p
  justified : ∀ call (p : Program σ ω ε Unit), w.calls[call]? = some p →
    p.Justified R (noted w.history call) fun _ _ => True
  known : ∀ n ∈ w.history, n.1 < w.calls.length

section Orderly

variable {S : (σ → List ω) → (σ → σ) → Prop} {R : σ → List ω → ω → Prop}

theorem orderly_start (s : σ) : Orderly S R (start s : Interleaving σ ω ε) where
  each _ hp := absurd hp List.not_mem_nil
  justified _ _ hp := by cases hp
  known _ hn := absurd hn List.not_mem_nil

theorem Orderly.begin {w : Interleaving σ ω ε} (h : Orderly S R w) {p : Program σ ω ε Unit}
    (heach : Program.Each S p) (hjust : p.Justified R [] fun _ _ => True) :
    Orderly S R (w.begin p) where
  each q hq := by
    rcases List.mem_append.mp hq with hq | hq
    · exact h.each q hq
    · rwa [List.mem_singleton.mp hq]
  justified call q hq := by
    change (w.calls ++ [p])[call]? = some q at hq
    change q.Justified R (noted w.history call) fun _ _ => True
    by_cases hlt : call < w.calls.length
    · rw [List.getElem?_append_left hlt] at hq
      exact h.justified call q hq
    · -- a new call has noted nothing
      have hnone : noted w.history call = [] := by
        refine List.eq_nil_iff_forall_not_mem.mpr fun e he => ?_
        exact hlt (h.known _ (mem_noted.mp he))
      rw [List.getElem?_append_right (Nat.le_of_not_lt hlt)] at hq
      rw [hnone, List.mem_singleton.mp (List.mem_of_getElem? hq)]
      exact hjust
  known n hn := by
    have hlt := h.known n hn
    change n.1 < (w.calls ++ [p]).length
    rw [List.length_append]
    omega

theorem Orderly.advance {w t : Interleaving σ ω ε} (h : Orderly S R w) {call : Nat}
    (hstep : w.advance call = some t) : Orderly S R t := by
  obtain ⟨note, write, next, hcall, -, rfl⟩ := advance_eq_some hstep
  have hlt : call < w.calls.length := (List.getElem?_eq_some_iff.mp hcall).1
  have hjust := Program.justified_stmt.mp (h.justified call _ hcall) w.state
  have heach := Program.each_stmt.mp (h.each _ (List.mem_of_getElem? hcall))
  refine ⟨?_, ?_, ?_⟩
  · intro p hp
    rcases List.mem_or_eq_of_mem_set hp with hp | rfl
    · exact h.each p hp
    · exact heach.2 w.state
  · intro other p hp
    dsimp only at hp ⊢
    rw [noted_append]
    by_cases hsame : call = other
    · subst hsame
      rw [List.getElem?_set_self hlt] at hp
      obtain rfl := Option.some.inj hp
      rw [noted_map_self]
      exact hjust.2
    · rw [List.getElem?_set_ne hsame] at hp
      rw [noted_map_of_ne _ hsame, List.nil_append]
      exact h.justified other p hp
  · intro n hn
    dsimp only at hn ⊢
    rw [List.length_set]
    rcases List.mem_append.mp hn with hn | hn
    · obtain ⟨e, -, rfl⟩ := List.mem_map.mp hn
      exact hlt
    · exact h.known n hn

/-- The state may change by itself. -/
theorem Orderly.withState {w : Interleaving σ ω ε} (h : Orderly S R w) (s : σ) :
    Orderly S R { w with state := s } := ⟨h.each, h.justified, h.known⟩

/-- What the next statement of a call is and notes. -/
theorem Orderly.upcoming {w t : Interleaving σ ω ε} (h : Orderly S R w) {call : Nat}
    (hstep : w.advance call = some t) :
    ∃ note write, S note write ∧ w.upcoming call = note w.state ∧
      (∀ e ∈ note w.state, R w.state (noted w.history call) e) ∧ t.state = write w.state ∧
      t.history = (note w.state).map (Prod.mk call) ++ w.history := by
  obtain ⟨note, write, next, hcall, hnote, rfl⟩ := advance_eq_some hstep
  have hjust := Program.justified_stmt.mp (h.justified call _ hcall) w.state
  have heach := Program.each_stmt.mp (h.each _ (List.mem_of_getElem? hcall))
  exact ⟨note, write, heach.1, hnote, hjust.1, rfl, rfl⟩

end Orderly

/-! ## Calls that rely on each other -/

section Assured

variable {le S : σ → σ → Prop} {w t : Interleaving σ ω ε}

/-- The calls under way lead from each state to one above it, in the way of `S`. -/
def Assured (le S : σ → σ → Prop) (w : Interleaving σ ω ε) : Prop :=
  ∀ p ∈ w.calls, p.Assures le S w.state fun _ _ => True

theorem assured_start (s : σ) : (start s : Interleaving σ ω ε).Assured le S :=
  fun _ hp => absurd hp List.not_mem_nil

theorem Assured.begin (h : w.Assured le S) {p : Program σ ω ε Unit}
    (hp : p.Assures le S w.state fun _ _ => True) : (w.begin p).Assured le S := by
  intro q hq
  rcases List.mem_append.mp hq with hold | hnew
  · exact h q hold
  · rw [List.mem_singleton.mp hnew]
    exact hp

theorem Assured.advance (hrely : Program.Rely le S) (h : w.Assured le S) {call : Nat}
    (hstep : w.advance call = some t) : S w.state t.state ∧ t.Assured le S := by
  obtain ⟨note, write, next, hcall, -, rfl⟩ := advance_eq_some hstep
  have hcurrent := Program.assures_stmt.mp (h _ (List.mem_of_getElem? hcall)) w.state
    (hrely.refl w.state)
  refine ⟨hcurrent.1, fun p hp => ?_⟩
  rcases List.mem_or_eq_of_mem_set hp with hold | rfl
  · exact (h p hold).above hrely (hrely.own hcurrent.1) fun _ _ _ _ _ => trivial
  · exact hcurrent.2

/-- What the calls under way lead to where they return. -/
def Ensures (le S : σ → σ → Prop) (Q : σ → Prop) (w : Interleaving σ ω ε) : Prop :=
  ∀ p ∈ w.calls, p.Assures le S w.state fun s _ => Q s

variable {Q : σ → Prop}

theorem ensures_start (s : σ) : (start s : Interleaving σ ω ε).Ensures le S Q :=
  fun _ hp => absurd hp List.not_mem_nil

theorem Ensures.begin (h : w.Ensures le S Q) {p : Program σ ω ε Unit}
    (hp : p.Assures le S w.state fun s _ => Q s) : (w.begin p).Ensures le S Q := by
  intro q hq
  rcases List.mem_append.mp hq with hold | hnew
  · exact h q hold
  · rw [List.mem_singleton.mp hnew]
    exact hp

theorem Ensures.advance (hrely : Program.Rely le S) (hkeeps : ∀ s t, le s t → Q s → Q t)
    (h : w.Ensures le S Q) {call : Nat} (hstep : w.advance call = some t) :
    S w.state t.state ∧ t.Ensures le S Q := by
  obtain ⟨note, write, next, hcall, -, rfl⟩ := advance_eq_some hstep
  have hcurrent := Program.assures_stmt.mp (h _ (List.mem_of_getElem? hcall)) w.state
    (hrely.refl w.state)
  refine ⟨hcurrent.1, fun p hp => ?_⟩
  rcases List.mem_or_eq_of_mem_set hp with hold | rfl
  · exact (h p hold).above hrely (hrely.own hcurrent.1) fun t u _ hle => hkeeps t u hle
  · exact hcurrent.2

/-- Others may take the state to one above it. -/
theorem Ensures.withState (hrely : Program.Rely le S) (hkeeps : ∀ s t, le s t → Q s → Q t)
    (h : w.Ensures le S Q) {s : σ} (hle : le w.state s) :
    ({ w with state := s } : Interleaving σ ω ε).Ensures le S Q :=
  fun p hp => (h p hp).above hrely hle fun t u _ hle => hkeeps t u hle

/-- A call that has returned. -/
theorem Ensures.returned (h : w.Ensures le S Q) {call : Nat}
    (hdone : w.calls[call]? = some (.ret (.ok ()))) : Q w.state :=
  Program.assures_ret.mp (h _ (List.mem_of_getElem? hdone))

end Assured

end Interleaving
