import Slan.Lib.Interleaving
import Slan.Lib.Transition
import Slan.Ops.AdminStatements

/-! # The lockout: attempts to log in to one account at the same time -/

namespace Slan.Ops

open Transition
open Interleaving (noted)

abbrev AdminWorld := Interleaving OpsStore AdminEvent Networks.Failure

/-! ## What the lockout promises -/

/-- How many wrong passwords were checked since the last login or end of a lock, and when the lock
on the account ends, zero without one. -/
structure Lockout where
  wrong : Nat
  lockedUntil : Nat
  deriving DecidableEq, Repr

namespace Lockout

/-- A lock that has ended takes the wrong passwords before it along. -/
def asOf (p : Lockout) (time : Nat) : Lockout :=
  if p.lockedUntil ≠ 0 ∧ p.lockedUntil ≤ time then ⟨0, 0⟩ else p

def noting (p : Lockout) : AdminEvent → Lockout
  | .checked _ right time =>
    { p.asOf time with wrong := (p.asOf time).wrong + if right then 0 else 1 }
  | .failed _ _ lockedUntil => { p with lockedUntil }
  | .loggedIn _ _ _ => ⟨0, 0⟩
  | .read _ => p
  | .passwordSet _ _ _ => p
  | .profileSet _ => p

/-- No password is checked while the account is locked, and no sixth one that is wrong. -/
def Allows (p : Lockout) : AdminEvent → Prop
  | .checked _ right time => (p.asOf time).lockedUntil = 0 ∧
    (right = false → (p.asOf time).wrong < maxFailedLogins)
  | _ => True

def after (p : Lockout) : List (Nat × AdminEvent) → Lockout
  | [] => p
  | n :: older => (p.after older).noting n.2

/-- The lockout holds of all that was noted. -/
def Holds (p : Lockout) : List (Nat × AdminEvent) → Prop
  | [] => True
  | n :: older => p.Holds older ∧ (p.after older).Allows n.2

instance (p : Lockout) (e : AdminEvent) : Decidable (p.Allows e) :=
  match e with
  | .checked _ right time => inferInstanceAs (Decidable ((p.asOf time).lockedUntil = 0 ∧
      (right = false → (p.asOf time).wrong < maxFailedLogins)))
  | .read _ => instDecidableTrue
  | .failed _ _ _ => instDecidableTrue
  | .loggedIn _ _ _ => instDecidableTrue
  | .passwordSet _ _ _ => instDecidableTrue
  | .profileSet _ => instDecidableTrue

def decideHolds (p : Lockout) : (history : List (Nat × AdminEvent)) → Decidable (p.Holds history)
  | [] => instDecidableTrue
  | n :: older =>
    have := p.decideHolds older
    inferInstanceAs (Decidable (p.Holds older ∧ (p.after older).Allows n.2))

instance (p : Lockout) (history : List (Nat × AdminEvent)) : Decidable (p.Holds history) :=
  p.decideHolds history

/-- The account of a login name, as a run finds it. -/
def initial (s : OpsStore) (name : String) : Lockout :=
  ⟨0, (s.adminInfoByLoginName name).elim 0 AdminInfo.lockedUntil⟩

end Lockout

/-! ## Attempts -/

inductive AttemptMove where
  | attempt (random : Networks.HexText) (req : OpsLoginRequest) (remoteIp : String)
  | advance (call : Nat)
  | pass (milliseconds : Nat)

namespace AttemptMove

/-- The attempts on the account of one login name. -/
def step (hash lower : String → String) (name : String) (w : AdminWorld) :
    AttemptMove → Option AdminWorld
  | .attempt random req remoteIp =>
    if Text.trim (lower req.loginName) = name then
      some (w.begin (loginAdmin hash lower random req remoteIp).void)
    else none
  | .advance call => w.advance call
  | .pass milliseconds =>
    some { w with state := { w.state with now := w.state.now + milliseconds } }

def isCheck : AdminEvent → Bool
  | .checked _ _ _ => true
  | _ => false

def isWrong : AdminEvent → Bool
  | .checked _ false _ => true
  | _ => false

def isFailure : AdminEvent → Bool
  | .failed _ _ _ => true
  | _ => false

/-- A call that has found a password wrong and has not written the failure. -/
def Owes (seen : List AdminEvent) : Prop := seen.any isWrong = true ∧ seen.any isFailure = false

/-- What a call has read of the counter and of the lock is what is stored. -/
def UpToDate (s : OpsStore) : AdminEvent → Prop
  | .read row => ∃ stored ∈ s.admins, stored.adminId = row.adminId ∧
    stored.failedLoginCount = row.failedLoginCount ∧ stored.lockedUntil = row.lockedUntil
  | _ => True

/-- A password is checked against what is stored, and while no failure is left to write. -/
def TakesTurns (w : AdminWorld) : AttemptMove → Prop
  | .advance call => (w.upcoming call).any isCheck = true →
    (∀ e ∈ noted w.history call, UpToDate w.state e) ∧
      ∀ n ∈ w.history, ¬Owes (noted w.history n.1)
  | _ => True

instance (seen : List AdminEvent) : Decidable (Owes seen) :=
  inferInstanceAs (Decidable (_ ∧ _))

instance (s : OpsStore) (e : AdminEvent) : Decidable (UpToDate s e) :=
  match e with
  | .read row => inferInstanceAs (Decidable (∃ stored ∈ s.admins.rows,
      stored.adminId = row.adminId ∧ stored.failedLoginCount = row.failedLoginCount ∧
      stored.lockedUntil = row.lockedUntil))
  | .checked _ _ _ => instDecidableTrue
  | .failed _ _ _ => instDecidableTrue
  | .loggedIn _ _ _ => instDecidableTrue
  | .passwordSet _ _ _ => instDecidableTrue
  | .profileSet _ => instDecidableTrue

instance (w : AdminWorld) (a : AttemptMove) : Decidable (TakesTurns w a) :=
  match a with
  | .advance call => inferInstanceAs (Decidable ((w.upcoming call).any isCheck = true →
      (∀ e ∈ noted w.history call, UpToDate w.state e) ∧
        ∀ n ∈ w.history, ¬Owes (noted w.history n.1)))
  | .attempt _ _ _ => instDecidableTrue
  | .pass _ => instDecidableTrue

/-! ## What an attempt notes -/

/-- An attempt reads the account, checks the password once, and writes a failure or the login. -/
def Warranted (name : String) (s : OpsStore) (seen : List AdminEvent) : AdminEvent → Prop
  | .read row => seen = [] ∧ s.adminInfoByLoginName name = some row
  | .checked adminId _ time => ∃ row, seen = [.read row] ∧ adminId = row.adminId ∧ time = s.now ∧
    row.lockedUntil ≤ s.now
  | .failed adminId failedLoginCount lockedUntil => ∃ row time,
    seen = [.checked row.adminId false time, .read row] ∧ adminId = row.adminId ∧
      failedLoginCount = row.failedLoginCount + 1 ∧
      (lockedUntil = 0 → failedLoginCount < maxFailedLogins)
  | .loggedIn adminId _ _ => ∃ row time,
    seen = [.checked row.adminId true time, .read row] ∧ adminId = row.adminId
  | .passwordSet _ _ _ => False
  | .profileSet _ => False

section Warranted

open Program (Justified)

variable {name : String} {seen : List AdminEvent}

theorem justified_failLogin {admin : AdminInfo} {time : Nat}
    (hseen : seen = [.checked admin.adminId false time, .read admin]) :
    (failLogin admin).Justified (Warranted name) seen fun _ _ => True := by
  refine Justified.bind (Q := fun seen' lockedUntil => seen' = seen ∧
    (lockedUntil = 0 → admin.failedLoginCount + 1 < maxFailedLogins)) ?_ ?_
  · unfold lockAfter
    split
    · refine Justified.bind (Q := fun seen' _ => seen' = seen) (.query fun _ => rfl) ?_
      rintro _ now rfl
      refine .pure ⟨rfl, fun hzero => ?_⟩
      simp [lockDuration] at hzero
    · rename_i hfew
      exact .pure ⟨rfl, fun _ => Nat.lt_of_not_le hfew⟩
  · rintro _ lockedUntil ⟨rfl, hlock⟩
    refine .execNoting fun s => ⟨fun e he => ?_, trivial⟩
    rw [List.mem_singleton.mp he]
    exact ⟨admin, time, hseen, rfl, rfl, hlock⟩

theorem justified_enterOps {random : Networks.HexText} {remoteIp : String} {admin : AdminInfo}
    {time : Nat} (hseen : seen = [.checked admin.adminId true time, .read admin]) :
    (enterOps random remoteIp admin).Justified (Warranted name) seen fun _ _ => True := by
  refine Justified.bind (Q := fun seen' _ => seen' = seen) (.query fun _ => rfl) ?_
  rintro seen userRoles rfl
  split
  · exact .fail _
  · refine Justified.bind (Q := fun seen' _ => seen' = seen) (.exec rfl) ?_
    rintro seen _ rfl
    refine Justified.bind (Q := fun seen' _ => seen' = seen) (.query fun _ => rfl) ?_
    rintro seen now rfl
    refine .bind (Q := fun _ _ => True) (.execNoting fun s => ⟨fun e he => ?_, trivial⟩)
      fun _ _ _ => .pure trivial
    rw [List.mem_singleton.mp he]
    exact ⟨admin, time, hseen, rfl⟩

theorem justified_loginAdmin (hash lower : String → String) (random : Networks.HexText)
    {req : OpsLoginRequest} (remoteIp : String) (hname : Text.trim (lower req.loginName) = name) :
    (loginAdmin hash lower random req remoteIp).Justified (Warranted name) []
      fun _ _ => True := by
  unfold loginAdmin
  rw [hname]
  split
  · exact .fail _
  · refine Justified.bind (Q := fun seen found => seen = (found.map AdminEvent.read).toList)
      (Program.justified_stmt.mpr fun s => ⟨fun e he => ?_, .pure ?_⟩) ?_
    · obtain ⟨row, hrow, rfl⟩ := Option.map_eq_some_iff.mp (Option.mem_toList.mp he)
      exact ⟨rfl, hrow⟩
    · exact List.append_nil _
    rintro _ found rfl
    refine Justified.bind (Q := fun seen admin => seen = [.read admin]) (.orFail ?_) ?_
    · rintro admin rfl
      rfl
    rintro _ admin rfl
    split
    · exact .fail _
    -- what follows tells from the time whether the password was checked
    refine Justified.bind (Q := fun seen now => ¬now < admin.lockedUntil →
      seen = [.checked admin.adminId (admin.hasPassword hash req.password) now, .read admin])
      (Program.justified_stmt.mpr fun s => ⟨fun e he => ?_, .pure fun hunlocked => ?_⟩) ?_
    · split at he
      · cases he
      · rename_i hunlocked
        rw [List.mem_singleton.mp he]
        exact ⟨admin, rfl, rfl, rfl, Nat.le_of_not_lt hunlocked⟩
    · rw [if_neg hunlocked]
      rfl
    intro seen now hseen
    split
    · exact .fail _
    · rename_i hunlocked
      have hchecked := hseen hunlocked
      split
      · rename_i hright
        rw [hright] at hchecked
        exact justified_enterOps hchecked
      · rename_i hwrong
        rw [Bool.eq_false_of_not_eq_true hwrong] at hchecked
        exact .bind (justified_failLogin hchecked) fun _ _ _ => .fail _

end Warranted

/-! ## The invariant -/

theorem adminInfoByLoginName_noting {s t : OpsStore} {e : AdminEvent}
    (h : t.admins.rows = s.admins.rows.map fun row => row.noting e) (name : String) :
    t.adminInfoByLoginName name = (s.adminInfoByLoginName name).map fun row => row.noting e := by
  unfold OpsStore.adminInfoByLoginName Relation.find?
  rw [h, List.find?_map]
  congr 2
  funext row
  simp

/-- The counter stands for the wrong passwords, but for the one that a call may still owe. -/
structure Policed (p : Lockout) (name : String) (s : OpsStore) (history : List (Nat × AdminEvent)) :
    Prop where
  read : ∀ call row, .read row ∈ noted history call →
    ∃ stored, s.adminInfoByLoginName name = some stored ∧ stored.adminId = row.adminId
  holds : p.Holds history
  lock : (p.after history).lockedUntil = 0 ∨ ∃ stored, s.adminInfoByLoginName name = some stored ∧
    (p.after history).lockedUntil = stored.lockedUntil
  settled : (∀ call, ¬Owes (noted history call)) → (p.after history).lockedUntil = 0 →
    (p.after history).wrong < maxFailedLogins ∧
      ∀ stored, s.adminInfoByLoginName name = some stored →
        (p.after history).wrong ≤ stored.failedLoginCount
  owing : ∀ call row, Owes (noted history call) → .read row ∈ noted history call →
    (p.after history).lockedUntil = 0 ∧ (p.after history).wrong ≤ row.failedLoginCount + 1
  one : ∀ call other, Owes (noted history call) → Owes (noted history other) → call = other

section Policed

variable {p : Lockout} {name : String} {s t : OpsStore} {history : List (Nat × AdminEvent)}
  {call : Nat}

theorem not_owes_nil : ¬Owes [] := fun h => absurd h.1 Bool.false_ne_true

theorem policed_start (s : OpsStore) (name : String) :
    Policed (Lockout.initial s name) name s [] where
  read _ _ h := absurd h List.not_mem_nil
  holds := trivial
  lock := by
    unfold Lockout.after Lockout.initial
    cases s.adminInfoByLoginName name with
    | none => exact .inl rfl
    | some stored => exact .inr ⟨stored, rfl, rfl⟩
  settled _ _ := ⟨Nat.succ_pos 4, fun _ _ => Nat.zero_le _⟩
  owing _ _ h := absurd h not_owes_nil
  one _ _ h := absurd h not_owes_nil

/-- Who owes a failure after an event. -/
theorem owes_cons {e : AdminEvent} {other : Nat} :
    Owes (noted ((call, e) :: history) other) ↔
      if call = other then Owes (e :: noted history other) else Owes (noted history other) := by
  rw [Interleaving.noted_cons]
  split <;> rfl

/-- Statements that do not concern the account. -/
theorem Policed.sameRow (h : Policed p name s history)
    (hrow : t.adminInfoByLoginName name = s.adminInfoByLoginName name) :
    Policed p name t history := by
  obtain ⟨hread, hholds, hlock, hsettled, howing, hone⟩ := h
  refine ⟨?_, hholds, ?_, ?_, howing, hone⟩
  · rwa [hrow]
  · rwa [hrow]
  · rwa [hrow]

theorem Policed.noteRead (h : Policed p name s history) {row : AdminInfo}
    (hw : Warranted name s (noted history call) (.read row)) :
    Policed p name s ((call, .read row) :: history) := by
  obtain ⟨hseen, hrow⟩ := hw
  have howes : ∀ other, Owes (noted ((call, .read row) :: history) other) →
      Owes (noted history other) := by
    intro other ho
    rw [owes_cons] at ho
    split at ho
    · rename_i heq
      subst heq
      rw [hseen] at ho
      exact absurd ho.1 Bool.false_ne_true
    · exact ho
  have hnot : ¬Owes (noted history call) := by
    rw [hseen]
    exact not_owes_nil
  refine ⟨?_, ⟨h.holds, trivial⟩, h.lock, ?_, ?_, ?_⟩
  · intro other row' hmem
    rw [Interleaving.noted_cons] at hmem
    split at hmem
    · rcases List.mem_cons.mp hmem with heq | hmem
      · obtain rfl := AdminEvent.read.inj heq
        exact ⟨row', hrow, rfl⟩
      · exact h.read other row' hmem
    · exact h.read other row' hmem
  · intro hnone
    refine h.settled fun other ho => hnone other ?_
    rw [owes_cons, if_neg fun heq : call = other => hnot (heq ▸ ho)]
    exact ho
  · intro other row' ho hmem
    have hother := howes other ho
    rw [Interleaving.noted_cons, if_neg fun heq : call = other => hnot (heq ▸ hother)] at hmem
    exact h.owing other row' hother hmem
  · exact fun c other hc ho => h.one c other (howes c hc) (howes other ho)

/-- An event that is not a read leaves what was read. -/
theorem Policed.stillRead (h : Policed p name s history) {e : AdminEvent} {other : Nat}
    {found : AdminInfo} (hmem : .read found ∈ noted ((call, e) :: history) other)
    (he : ∀ row, AdminEvent.read row ≠ e) :
    ∃ stored, s.adminInfoByLoginName name = some stored ∧ stored.adminId = found.adminId := by
  rw [Interleaving.noted_cons] at hmem
  split at hmem
  · rcases List.mem_cons.mp hmem with heq | hmem
    · exact absurd heq (he found)
    · exact h.read other found hmem
  · exact h.read other found hmem

/-- A check of what is stored, while nobody owes a failure. -/
theorem Policed.noteChecked (h : Policed p name s history) {adminId : String} {right : Bool}
    {time : Nat} (hw : Warranted name s (noted history call) (.checked adminId right time))
    (hfresh : ∀ e ∈ noted history call, UpToDate s e) (hnone : ∀ other, ¬Owes (noted history other)) :
    Policed p name s ((call, .checked adminId right time) :: history) := by
  obtain ⟨row, hseen, rfl, rfl, hunlocked⟩ := hw
  have hread : AdminEvent.read row ∈ noted history call := by
    rw [hseen]
    exact List.mem_singleton_self _
  obtain ⟨stored, hstored, hid⟩ := h.read call row hread
  obtain ⟨row', hmem', hid', hcount, hlock'⟩ := hfresh _ hread
  obtain ⟨hmem, -⟩ := Relation.of_find?_key hstored
  obtain rfl := Relation.eq_of_clash hmem' hmem (.inl (hid'.trans hid.symm))
  -- the lock, if there was one, has ended
  have hasOf : ((p.after history).asOf s.now).lockedUntil = 0 ∧
      ((p.after history).asOf s.now).wrong < maxFailedLogins ∧
      ((p.after history).asOf s.now).wrong ≤ row.failedLoginCount := by
    unfold Lockout.asOf
    split
    · exact ⟨rfl, Nat.succ_pos 4, Nat.zero_le _⟩
    · rename_i hopen
      have hzero : (p.after history).lockedUntil = 0 := by
        by_contra hne
        rcases h.lock with hzero | ⟨found, hfound, heq⟩
        · exact hne hzero
        · obtain rfl := Option.some.inj (hstored.symm.trans hfound)
          exact hopen ⟨hne, by omega⟩
      obtain ⟨hfew, hle⟩ := h.settled hnone hzero
      exact ⟨hzero, hfew, hcount ▸ hle _ hstored⟩
  obtain ⟨hzero, hfew, hle⟩ := hasOf
  have hwas : ∀ other, call ≠ other →
      ¬Owes (noted ((call, .checked row.adminId right s.now) :: history) other) := by
    intro other hne ho
    rw [owes_cons, if_neg hne] at ho
    exact hnone other ho
  refine ⟨?_, ⟨h.holds, hzero, fun _ => hfew⟩, .inl hzero, ?_, ?_, ?_⟩
  · exact fun other found hmem => h.stillRead hmem fun _ => nofun
  · intro hnobody _
    -- nobody owes a failure after it only if the password was right
    cases right with
    | true => exact ⟨hfew, fun found hfound => by
        obtain rfl := Option.some.inj (hstored.symm.trans hfound)
        exact hcount ▸ hle⟩
    | false =>
      refine absurd ?_ (hnobody call)
      rw [owes_cons, if_pos rfl, hseen]
      exact ⟨rfl, rfl⟩
  · intro other found ho hmem
    obtain rfl : call = other := by
      by_contra hne
      exact hwas other hne ho
    rw [Interleaving.noted_cons, if_pos rfl, hseen] at hmem
    obtain rfl : found = row := by simpa using hmem
    refine ⟨hzero, ?_⟩
    change _ + (if right then 0 else 1) ≤ _
    split <;> omega
  · intro c other hc ho
    by_contra hne
    by_cases hcall : call = c
    · exact hwas other (hcall ▸ hne) ho
    · exact hwas c hcall hc

/-- What a write of the account leaves of its row. -/
theorem adminInfoByLoginName_of_noting {e : AdminEvent} {stored : AdminInfo}
    (hrows : t.admins.rows = s.admins.rows.map fun row => row.noting e)
    (hstored : s.adminInfoByLoginName name = some stored) (hid : e.adminId = stored.adminId) :
    t.adminInfoByLoginName name = some (stored.withCredentials (stored.credentials.noting e)) := by
  rw [adminInfoByLoginName_noting hrows, hstored, Option.map_some]
  exact congrArg some (if_pos hid.symm)

theorem Policed.noteFailed (h : Policed p name s history) {adminId : String}
    {failedLoginCount lockedUntil : Nat}
    (hw : Warranted name s (noted history call) (.failed adminId failedLoginCount lockedUntil))
    (hrows : t.admins.rows = s.admins.rows.map fun row =>
      row.noting (.failed adminId failedLoginCount lockedUntil)) :
    Policed p name t ((call, .failed adminId failedLoginCount lockedUntil) :: history) := by
  obtain ⟨row, time, hseen, rfl, rfl, hlock⟩ := hw
  have hread : AdminEvent.read row ∈ noted history call := by
    rw [hseen]
    exact List.mem_cons_of_mem _ (List.mem_singleton_self _)
  have howed : Owes (noted history call) := by
    rw [hseen]
    exact ⟨rfl, rfl⟩
  obtain ⟨stored, hstored, hid⟩ := h.read call row hread
  obtain ⟨hzero, hle⟩ := h.owing call row howed hread
  have hfound := adminInfoByLoginName_of_noting hrows hstored hid.symm
  have hnobody : ∀ other, ¬Owes (noted
      ((call, .failed row.adminId (row.failedLoginCount + 1) lockedUntil) :: history) other) := by
    intro other ho
    rw [owes_cons] at ho
    split at ho
    · exact absurd ho.2 (by simp [isFailure])
    · rename_i hne
      exact hne (h.one call other howed ho)
  refine ⟨?_, ⟨h.holds, trivial⟩, .inr ⟨_, hfound, rfl⟩, ?_, ?_, ?_⟩
  · intro other found hmem
    obtain ⟨stored', hstored', hid'⟩ := h.stillRead hmem fun _ => nofun
    obtain rfl := Option.some.inj (hstored.symm.trans hstored')
    exact ⟨_, hfound, hid'⟩
  · intro _ hunlocked
    have hfew := hlock hunlocked
    refine ⟨Nat.lt_of_le_of_lt hle hfew, fun found hf => ?_⟩
    obtain rfl := Option.some.inj (hfound.symm.trans hf)
    exact hle
  · exact fun other _ ho => absurd ho (hnobody other)
  · exact fun c _ hc => absurd hc (hnobody c)

theorem Policed.noteLoggedIn (h : Policed p name s history) {adminId : String} {lastLoginAt : Nat}
    {lastLoginIp : String}
    (hw : Warranted name s (noted history call) (.loggedIn adminId lastLoginAt lastLoginIp))
    (hrows : t.admins.rows = s.admins.rows.map fun row =>
      row.noting (.loggedIn adminId lastLoginAt lastLoginIp)) :
    Policed p name t ((call, .loggedIn adminId lastLoginAt lastLoginIp) :: history) := by
  obtain ⟨row, time, hseen, rfl⟩ := hw
  have hread : AdminEvent.read row ∈ noted history call := by
    rw [hseen]
    exact List.mem_cons_of_mem _ (List.mem_singleton_self _)
  obtain ⟨stored, hstored, hid⟩ := h.read call row hread
  have hfound := adminInfoByLoginName_of_noting hrows hstored hid.symm
  have howes : ∀ other,
      Owes (noted ((call, .loggedIn row.adminId lastLoginAt lastLoginIp) :: history) other) →
      call ≠ other ∧ Owes (noted history other) := by
    intro other ho
    rw [owes_cons] at ho
    split at ho
    · rename_i heq
      subst heq
      rw [hseen] at ho
      exact absurd ho.1 Bool.false_ne_true
    · exact ⟨‹_›, ho⟩
  refine ⟨?_, ⟨h.holds, trivial⟩, .inl rfl, ?_, ?_, ?_⟩
  · intro other found hmem
    obtain ⟨stored', hstored', hid'⟩ := h.stillRead hmem fun _ => nofun
    obtain rfl := Option.some.inj (hstored.symm.trans hstored')
    exact ⟨_, hfound, hid'⟩
  · exact fun _ _ => ⟨Nat.succ_pos 4, fun _ _ => Nat.zero_le _⟩
  · exact fun _ _ _ _ => ⟨rfl, Nat.zero_le _⟩
  · exact fun c other hc ho => h.one c other (howes c hc).2 (howes other ho).2

end Policed

/-- The invariant of the runs in which the attempts take turns. -/
structure Kept (p : Lockout) (name : String) (w : AdminWorld) : Prop where
  orderly : Interleaving.Orderly AdminStatement (Warranted name) w
  policed : Policed p name w.state w.history

theorem noting_of_same {row : AdminInfo} {e : AdminEvent}
    (h : row.credentials.noting e = row.credentials) : row.noting e = row := by
  unfold AdminInfo.noting
  rw [h]
  exact ite_self row

/-- What a statement does to the account and notes of it. -/
theorem upcoming_cases {p : Lockout} {name : String} {w t : AdminWorld} (h : Kept p name w)
    {call : Nat} (hstep : w.advance call = some t) :
    (t.history = w.history ∧ t.state.admins.rows = w.state.admins.rows) ∨
    ∃ e, w.upcoming call = [e] ∧ Warranted name w.state (noted w.history call) e ∧
      t.history = (call, e) :: w.history ∧
      t.state.admins.rows = w.state.admins.rows.map fun row => row.noting e := by
  obtain ⟨note, write, hstatement, hnote, hwarranted, hstate, hhistory⟩ := h.orderly.upcoming hstep
  rw [hstate, hhistory, hnote]
  cases hstatement with
  | noted hone hrows =>
    have hrows := hrows w.state
    rcases hone w.state with hnone | ⟨e, -, hone⟩
    · rw [hnone] at hrows ⊢
      exact .inl ⟨rfl, hrows.trans (List.map_id' _)⟩
    · rw [hone] at hrows hwarranted ⊢
      exact .inr ⟨e, rfl, hwarranted e (List.mem_singleton_self e), rfl, hrows⟩
  | assigns record =>
    cases hwrite : w.state.assignAdminInfo record with
    | none => exact .inl ⟨by simp [hwrite], by simp [hwrite]⟩
    | some s => exact (hwarranted (.profileSet record) (by simp [hwrite])).elim
  | inserts record =>
    cases hwrite : w.state.insertAdminInfo record with
    | none => exact .inl ⟨by simp [hwrite], by simp [hwrite]⟩
    | some s => exact (hwarranted (.profileSet record) (by simp [hwrite])).elim

theorem Kept.advance {p : Lockout} {name : String} {w t : AdminWorld} (h : Kept p name w)
    {call : Nat} (hturn : TakesTurns w (.advance call)) (hstep : w.advance call = some t) :
    Kept p name t := by
  refine ⟨h.orderly.advance hstep, ?_⟩
  have hpoliced := h.policed
  rcases upcoming_cases h hstep with ⟨hhistory, hrows⟩ | ⟨e, hup, hw, hhistory, hrows⟩
  · rw [hhistory]
    refine hpoliced.sameRow ?_
    unfold OpsStore.adminInfoByLoginName Relation.find?
    rw [hrows]
  · rw [hhistory]
    have hsame : (∀ row : AdminInfo, row.noting e = row) →
        t.state.adminInfoByLoginName name = w.state.adminInfoByLoginName name := by
      intro hquiet
      rw [adminInfoByLoginName_noting hrows name]
      simp only [hquiet, Option.map_id']
    cases e with
    | read row => exact (hpoliced.noteRead hw).sameRow (hsame fun _ => noting_of_same rfl)
    | checked adminId right time =>
      have hturn' := hturn (by rw [hup]; rfl)
      refine (hpoliced.noteChecked hw hturn'.1 fun other ho => ?_).sameRow
        (hsame fun _ => noting_of_same rfl)
      obtain ⟨e, he, -⟩ := List.any_eq_true.mp ho.1
      exact hturn'.2 _ (Interleaving.mem_noted.mp he) ho
    | failed adminId failedLoginCount lockedUntil => exact hpoliced.noteFailed hw hrows
    | loggedIn adminId lastLoginAt lastLoginIp => exact hpoliced.noteLoggedIn hw hrows
    | passwordSet adminId passwordHash passwordUpdatedAt => exact hw.elim
    | profileSet record => exact hw.elim

theorem Kept.step {hash lower : String → String} {p : Lockout} {name : String} {w t : AdminWorld}
    {a : AttemptMove} (h : Kept p name w) (hturn : TakesTurns w a)
    (hstep : step hash lower name w a = some t) : Kept p name t := by
  cases a with
  | attempt random req remoteIp =>
    obtain ⟨hname, hbegin⟩ := Option.ite_none_right_eq_some.mp hstep
    obtain rfl := Option.some.inj hbegin
    have heach := (each_loginAdmin hash lower random req remoteIp).void
    have hjust := justified_loginAdmin hash lower random remoteIp hname
    exact ⟨h.orderly.begin heach (hjust.bind fun _ _ _ => .pure trivial), h.policed⟩
  | advance call => exact h.advance hturn hstep
  | pass milliseconds =>
    obtain rfl := Option.some.inj hstep
    exact ⟨h.orderly.withState _, h.policed.sameRow rfl⟩

/-- The lockout holds in every run in which a password is checked against what is stored, and while
no failure is left to write. -/
theorem lockout_holds (hash lower : String → String) (name : String) (s : OpsStore)
    (w : AdminWorld)
    (h : Reachable (guarded TakesTurns (rel (step hash lower name))) (Interleaving.start s) w) :
    (Lockout.initial s name).Holds w.history := by
  have hkept : Kept (Lockout.initial s name) name w :=
    h.invariant _ ⟨Interleaving.orderly_start s, policed_start s name⟩ fun _ _ _ hw hs =>
      hw.step hs.1 hs.2
  exact hkept.policed.holds

/-! ## Six guesses that are checked before a failure is written -/

section Samples

/-- SHA-256 of three passwords. -/
def sampleHash (password : String) : String :=
  if password = "password" then "5e884898da28047151d0e56f8dc6292773603d0d6aabbdd62a11ef721d1542d8"
  else if password = "guesswork" then
    "11e19e4a4d75184c8362316e2a9b419ab5c5116da7a52f04ad1ac08cc96949f0"
  else if password = "new-password" then
    "b8b9f8f23992ebc2617febc03d92ecb1763fba7b77a5d053b69c416bad18a369"
  else ""

/-- An administrator with a role. -/
def oneAdmin : OpsStore :=
  { now := 1000
    users := Relation.ofRows [⟨"user-1", "root@local.slan", ""⟩]
    admins := Relation.ofRows [⟨"admin-1", "user-1", "root", sampleHash "password", 10, "Root", "",
      "", "", "active", 0, "", 0, 0⟩]
    roles := Relation.ofRows [⟨"role-1", "ops-super-admin", "Ops Super Admin", "", true⟩]
    menus := ∅
    userRoles := Relation.ofRows [⟨"user-role:user-1:role-1", "user-1", "role-1"⟩]
    roleMenus := ∅
    tokens := ∅ }

def sampleDigits : Networks.HexText := ⟨"1", .refl true⟩

def guess : AttemptMove := .attempt sampleDigits ⟨"root", "guesswork"⟩ "198.51.100.7"

/-- Each attempt reads the account and has its password checked; no failure is written yet. -/
def guessing : List AttemptMove :=
  List.replicate 6 guess ++ [.advance 0, .advance 1, .advance 2, .advance 3, .advance 4, .advance 5] ++
    [.advance 0, .advance 1, .advance 2, .advance 3, .advance 4, .advance 5]

def guessed : AdminWorld :=
  execD (step sampleHash id "root") (Interleaving.start oneAdmin) guessing

/-- One attempt after the other. -/
def patient : List AttemptMove :=
  [guess, .advance 0, .advance 0, .advance 0, .pass 500,
    .attempt sampleDigits ⟨"root", "password"⟩ "198.51.100.7"] ++ List.replicate 6 (.advance 1)

end Samples

/-- A wrong password, and then the right one. -/
theorem lockout_holds_patient :
    ∃ w : AdminWorld, w.history.length = 6 ∧ (Lockout.initial oneAdmin "root").Holds w.history := by
  let w := execD (fun w a => if TakesTurns w a then step sampleHash id "root" w a else none)
    (Interleaving.start oneAdmin) patient
  have hexec : execGuarded TakesTurns (step sampleHash id "root") (Interleaving.start oneAdmin)
      patient = some w := exec_eq_execD (by decide)
  exact ⟨w, by decide,
    lockout_holds sampleHash id "root" oneAdmin w (.of_execGuarded hexec)⟩

/-- Six wrong passwords are checked and the account is not locked. -/
theorem six_wrong_passwords : ¬∀ (hash lower : String → String) (name : String) (s : OpsStore)
    (w : AdminWorld), Reachable (rel (step hash lower name)) (Interleaving.start s) w →
      (Lockout.initial s name).Holds w.history := by
  intro h
  have hexec : exec (step sampleHash id "root") (Interleaving.start oneAdmin) guessing =
      some guessed := exec_eq_execD (by decide)
  have hfails : ¬(Lockout.initial oneAdmin "root").Holds guessed.history := by decide
  exact hfails (h sampleHash id "root" oneAdmin guessed (.of_exec .start hexec))

end AttemptMove

end Slan.Ops
