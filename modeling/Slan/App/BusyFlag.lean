import Slan.App.CoordinatorAsync
import Slan.Lib.Transition

/-! # When the flag `busy` says that an action is running -/

namespace Slan.App

open Program (Each)
open Transition

/-! ## Flows -/

namespace Flow

/-- What the coordinator is written in: statements that leave the flag alone, resets of the stores,
and the wrappers, one in another or after another. -/
inductive Written : ∀ {α : Type}, Flow α → Prop
  | ret {α : Type} (result : Except Thrown α) : Written (.ret result)
  | stmt {α : Type} {write : Watched → Watched} {next : Watched → Flow α}
    (hbusy : ∀ w, (write w).stores.busy = w.stores.busy) (hbegun : ∀ w, (write w).begun = w.begun)
    (hrunning : ∀ w, (write w).running = w.running) (hnext : ∀ w, Written (next w)) :
    Written (.stmt (fun _ => []) write next)
  | reset : Written resetState
  | bind {α β : Type} {p : Flow α} {f : α → Flow β} (h : Written p) (hf : ∀ a, Written (f a)) :
    Written (p >>= f)
  | attempt {α : Type} {p : Flow α} (h : Written p) : Written p.attempt
  | runAction {action : Flow Unit} (h : Written action) : Written (runAction action)
  | runTunnelAction {α : Type} {action : Flow α} (h : Written action) :
    Written (runTunnelAction action)
  | runProbeAction {action : Flow DataPlaneProbeModel} (h : Written action) :
    Written (runProbeAction action)
  | runSendAction {action : Flow Int} (h : Written action) : Written (runSendAction action)

/-- The statements of such flows. -/
inductive Kind (note : Watched → List Mark) (write : Watched → Watched) : Prop
  | quiet (hnote : ∀ w, note w = []) (hbusy : ∀ w, (write w).stores.busy = w.stores.busy)
    (hrunning : ∀ w, (write w).running = w.running)
  | begins (hnote : ∀ w, note w = []) (hbusy : ∀ w, (write w).stores.busy = true)
    (hrunning : ∀ w, (write w).running = w.begun :: w.running)
  | finishes (action : Nat) (hnote : ∀ w, note w = [.finishes action])
    (hbusy : ∀ w, (write w).stores.busy = false)
    (hrunning : ∀ w, (write w).running = w.running.filter (· ≠ action))
  | resets (hnote : ∀ w, note w = [.resets]) (hbusy : ∀ w, (write w).stores.busy = false)
    (hrunning : ∀ w, (write w).running = w.running)

theorem each_begin (write : Stores → Stores) : Each Kind (begin write) :=
  Program.each_stmt.mpr
    ⟨.begins (fun _ => rfl) (fun _ => rfl) fun _ => rfl, fun _ => Program.Each.pure _⟩

theorem each_finish (action : Nat) (write : Stores → Stores) : Each Kind (finish action write) :=
  Program.Each.execNoting (.finishes action (fun _ => rfl) (fun _ => rfl) fun _ => rfl)

theorem Written.each {α : Type} {p : Flow α} (h : Written p) : Each Kind p := by
  induction h with
  | ret result => exact Program.each_ret result
  | stmt hbusy _ hrunning _ ih =>
    exact Program.each_stmt.mpr ⟨.quiet (fun _ => rfl) hbusy hrunning, ih⟩
  | reset => exact Program.Each.execNoting (.resets (fun _ => rfl) (fun _ => rfl) fun _ => rfl)
  | bind _ _ ihp ihf => exact ihp.bind ihf
  | attempt _ ih => exact ih.attempt
  | runAction _ ih =>
    refine (each_begin _).bind fun n => ih.attempt.bind fun result => ?_
    rcases result with err | _ <;> exact each_finish n _
  | runTunnelAction _ ih =>
    refine (each_begin _).bind fun n => ih.attempt.bind fun result => ?_
    rcases result with err | a <;>
      exact (each_finish n _).bind fun _ => Program.Each.pure _
  | runProbeAction _ ih =>
    refine (each_begin _).bind fun n => ih.attempt.bind fun result => ?_
    rcases result with (_ | _ | _) | _ <;> exact each_finish n _
  | runSendAction _ ih =>
    refine (each_begin _).bind fun n => ih.attempt.bind fun result => ?_
    rcases result with (_ | _ | _) | _ <;> exact each_finish n _

end Flow

/-! ## Runs -/

abbrev Activities := Interleaving Watched Mark Thrown

/-- A flow begins, or one that has begun takes its next statement. -/
inductive Happening where
  | start (flow : Flow Unit)
  | resume (call : Nat)

def happens (w : Activities) : Happening → Activities → Prop
  | .start flow, t => flow.Written ∧ t = w.begin flow
  | .resume call, t => w.advance call = some t

/-- The stores as they may be while no action is running. -/
def atRest (stores : Stores) : Activities :=
  .start { stores := { stores with busy := false }, begun := 0, running := [] }

/-- The flag is set exactly while an action is running. -/
def Watched.Covered (w : Watched) : Prop := w.stores.busy = true ↔ w.running ≠ []

/-- An action that finishes is the only one, and the stores are reset while there is none. -/
def Mark.Alone (w : Watched) : Mark → Prop
  | .finishes action => ∀ other ∈ w.running, other = action
  | .resets => w.running = []

def Happening.Alone (w : Activities) : Happening → Prop
  | .start _ => True
  | .resume call => ∀ mark ∈ w.upcoming call, mark.Alone w.state

theorem Flow.Kind.covered_iff {note : Watched → List Mark} {write : Watched → Watched}
    (h : Flow.Kind note write) {w : Watched} (hw : w.Covered) :
    (∀ mark ∈ note w, mark.Alone w) ↔ (write w).Covered := by
  unfold Watched.Covered at hw ⊢
  cases h with
  | quiet hnote hbusy hrunning =>
    rw [hnote, hbusy, hrunning]
    exact iff_of_true nofun hw
  | begins hnote hbusy hrunning =>
    rw [hnote, hbusy, hrunning]
    exact iff_of_true nofun (iff_of_true rfl (List.cons_ne_nil _ _))
  | finishes action hnote hbusy hrunning =>
    rw [hnote, hbusy, hrunning, List.forall_mem_singleton]
    simp [Mark.Alone, List.filter_eq_nil_iff]
  | resets hnote hbusy hrunning =>
    rw [hnote, hbusy, hrunning, List.forall_mem_singleton]
    simp [Mark.Alone]

theorem each_of_reachable {stores : Stores} {w : Activities}
    (h : Reachable happens (atRest stores) w) :
    ∀ p ∈ w.calls, Each Flow.Kind p := by
  refine h.invariant (fun w => ∀ p ∈ w.calls, Each Flow.Kind p) nofun fun w a t hw hstep => ?_
  cases a with
  | start flow =>
    obtain ⟨hflow, rfl⟩ := hstep
    intro p hp
    rcases List.mem_append.mp hp with hp | hp
    · exact hw p hp
    · rw [List.mem_singleton.mp hp]
      exact hflow.each
  | resume call =>
    obtain ⟨note, write, next, hcall, -, rfl⟩ := Interleaving.advance_eq_some hstep
    intro p hp
    rcases List.mem_or_eq_of_mem_set hp with hp | rfl
    · exact hw p hp
    · exact (Program.each_stmt.mp (hw _ (List.mem_of_getElem? hcall))).2 w.state

/-- What can happen in a run: a flow begins, or a statement of some flow is taken. -/
theorem happens_cases {stores : Stores} {w t : Activities} {a : Happening}
    (hr : Reachable happens (atRest stores) w) (h : happens w a t) :
    (t.state = w.state ∧ a.Alone w) ∨
      ∃ note write, Flow.Kind note write ∧ t.state = write w.state ∧
        (a.Alone w ↔ ∀ mark ∈ note w.state, mark.Alone w.state) := by
  cases a with
  | start flow =>
    obtain ⟨-, rfl⟩ := h
    exact .inl ⟨rfl, trivial⟩
  | resume call =>
    obtain ⟨note, write, next, hcall, hnote, rfl⟩ := Interleaving.advance_eq_some h
    have heach := each_of_reachable hr _ (List.mem_of_getElem? hcall)
    refine .inr ⟨note, write, (Program.each_stmt.mp heach).1, rfl, ?_⟩
    rw [← hnote]
    rfl

theorem Flow.Kind.running_of_busy {note : Watched → List Mark} {write : Watched → Watched}
    (h : Flow.Kind note write) {w : Watched} (hw : w.stores.busy = true → w.running ≠ [])
    (hbusy : (write w).stores.busy = true) : (write w).running ≠ [] := by
  cases h with
  | quiet _ hsame hrunning =>
    rw [hrunning]
    rw [hsame] at hbusy
    exact hw hbusy
  | begins _ _ hrunning =>
    rw [hrunning]
    exact List.cons_ne_nil _ _
  | finishes _ _ hcleared _ => exact absurd ((hcleared w).symm.trans hbusy) Bool.false_ne_true
  | resets _ hcleared _ => exact absurd ((hcleared w).symm.trans hbusy) Bool.false_ne_true

/-- The flag is not set for nothing. -/
theorem running_of_busy {stores : Stores} {w : Activities}
    (h : Reachable happens (atRest stores) w) (hbusy : w.state.stores.busy = true) :
    w.state.running ≠ [] := by
  induction h with
  | start => cases hbusy
  | next hr hstep ih =>
    obtain ⟨hsame, -⟩ | ⟨note, write, hkind, hwrite, -⟩ := happens_cases hr hstep
    · rw [hsame] at hbusy ⊢
      exact ih hbusy
    · rw [hwrite] at hbusy ⊢
      exact hkind.running_of_busy ih hbusy

/-- The flag says what it should all along a run if and only if no action of the run finishes while
another one is running, and the stores are not reset while one is. -/
theorem busy_covers_iff (stores : Stores) (w : Activities) :
    Reachable (guarded Happening.Alone happens) (atRest stores) w ↔
      Reachable (kept (fun w => w.state.Covered) happens) (atRest stores) w ∧
        w.state.Covered := by
  refine Reachable.guarded_iff_kept (fun w : Activities => w.state.Covered) ?_ ?_
  · exact iff_of_false Bool.false_ne_true fun hne => hne rfl
  · intro w a t hr hw hstep
    obtain ⟨hsame, halone⟩ | ⟨note, write, hkind, hwrite, halone⟩ := happens_cases hr hstep
    · rw [hsame]
      exact iff_of_true halone hw
    · rw [halone, hwrite]
      exact hkind.covered_iff hw

/-! ## The workflows are such flows -/

namespace Flow

theorem written_update {write : Stores → Stores} (h : ∀ s, (write s).busy = s.busy) :
    Written (update write) :=
  .stmt (fun w => h w.stores) (fun _ => rfl) (fun _ => rfl) fun _ => .ret _

theorem written_stores : Written stores :=
  .stmt (fun _ => rfl) (fun _ => rfl) (fun _ => rfl) fun _ => .ret _

theorem written_service {α : Type} (p : Action α) : Written (service p) := by
  induction p with
  | ret result => exact .ret _
  | stmt note write next ih =>
    exact .stmt (fun _ => rfl) (fun _ => rfl) (fun _ => rfl) fun w => ih _

theorem written_reported (operation : Action TunnelRuntimeOperationResult) :
    Written (reported operation) := by
  refine .bind (.runTunnelAction ?_) fun report => ?_
  · exact .bind (written_service _) fun result =>
      .bind (written_update fun _ => rfl) fun _ => .ret _
  · exact .bind written_stores fun s => .bind (written_update fun _ => rfl) fun _ => .ret _

theorem written_enableActiveNetwork (api : AppCoreApi) (host : TunnelHostGateway) (clock : Clock) :
    Written (enableActiveNetwork api host clock) := by
  refine .runAction (.bind written_stores fun s => ?_)
  split
  · exact .ret _
  split
  · exact .ret _
  split
  · exact written_update fun _ => rfl
  refine .bind (written_service _) fun runtime => .bind (written_update fun _ => rfl) fun _ => ?_
  refine .bind (written_reported _) fun applyReport => ?_
  split
  · exact .bind (written_reported _) fun _ => .ret _
  · exact .ret _

theorem written_disableActiveNetwork (down : Except String WireGuardTunnelActionResult)
    (calls : DeactivationCalls) : Written (disableActiveNetwork down calls) := by
  refine .runAction (.bind written_stores fun s => ?_)
  split
  · exact written_update fun _ => rfl
  refine .bind (written_reported _) fun _ => .bind written_stores fun s => ?_
  exact .bind (written_service _) fun _ => written_update fun _ => rfl

theorem written_signOut (down : Except String WireGuardTunnelActionResult)
    (clearPersistedSession : Except String Unit) :
    Written (signOut down clearPersistedSession) :=
  .runAction (.bind (.attempt (written_reported _)) fun _ =>
    .bind (written_service _) fun _ => .reset)

end Flow

/-! ## One action in another -/

/-- An action that has begun and not finished. -/
def Watched.Runs (w : Watched) (action : Nat) : Prop := action ∈ w.running ∧ action < w.begun

namespace Flow

section Wrapped

variable {α β : Type} {action : Flow α} {settle : Nat → Except Thrown α → Flow β}
  {write : Stores → Stores} {i : Nat} {w : Watched}

/-- A wrapper finishes no action but its own. -/
theorem runs_wrapped (haction : ∀ w : Watched, w.Runs i → (action.after w).Runs i)
    (hsettle : ∀ n result (w : Watched), n ≠ i → w.Runs i → ((settle n result).after w).Runs i)
    (hw : w.Runs i) :
    ((begin write >>= fun n => action.attempt >>= settle n).after w).Runs i := by
  have hentered : (w.enter write).Runs i :=
    ⟨List.mem_cons_of_mem _ hw.1, Nat.lt_succ_of_lt hw.2⟩
  unfold Program.after
  rw [Program.run_bind]
  change Watched.Runs (Program.run (_ >>= _) _).2 i
  rw [Program.run_bind, Program.run_attempt]
  exact hsettle w.begun _ _ hw.2.ne' (haction _ hentered)

theorem runs_finish {n : Nat} (hn : n ≠ i) (hw : w.Runs i) : ((finish n write).after w).Runs i :=
  ⟨List.mem_filter.mpr ⟨hw.1, decide_eq_true hn.symm⟩, hw.2⟩

theorem runs_finish_pure {n : Nat} (b : β) (hn : n ≠ i) (hw : w.Runs i) :
    ((finish n write >>= fun _ => pure b).after w).Runs i := runs_finish hn hw

theorem Written.runs {p : Flow α} (h : Written p) (hw : w.Runs i) : (p.after w).Runs i := by
  induction h generalizing w with
  | ret result => exact hw
  | stmt _ hbegun hrunning _ ih =>
    refine ih w ?_
    unfold Watched.Runs
    rw [hbegun, hrunning]
    exact hw
  | reset => exact hw
  | @bind _ _ p f _ _ ihp ihf =>
    have hp := ihp hw
    unfold Program.after at hp ⊢
    rw [Program.run_bind]
    generalize p.run w = result at hp ⊢
    obtain ⟨_ | a, t⟩ := result
    · exact hp
    · exact ihf a hp
  | attempt _ ih =>
    have hp := ih hw
    unfold Program.after at hp ⊢
    rw [Program.run_attempt]
    exact hp
  | runAction _ ih =>
    refine runs_wrapped (fun _ => ih) (fun n result w hn hw => ?_) hw
    rcases result with err | _ <;> exact runs_finish hn hw
  | runTunnelAction _ ih =>
    refine runs_wrapped (fun _ => ih) (fun n result w hn hw => ?_) hw
    rcases result with err | a <;> exact runs_finish_pure _ hn hw
  | runProbeAction _ ih =>
    refine runs_wrapped (fun _ => ih) (fun n result w hn hw => ?_) hw
    rcases result with (_ | _ | _) | _ <;> exact runs_finish hn hw
  | runSendAction _ ih =>
    refine runs_wrapped (fun _ => ih) (fun n result w hn hw => ?_) hw
    rcases result with (_ | _ | _) | _ <;> exact runs_finish hn hw

/-- A tunnel action does not throw, and clears the flag. -/
theorem run_runTunnelAction (action : Flow α) (w : Watched) : ∃ result t,
    (runTunnelAction action).run w = (.ok result, t) ∧ t.stores.busy = false := by
  unfold runTunnelAction
  rw [Program.run_bind]
  change ∃ result t, Program.run (_ >>= _) _ = _ ∧ _
  rw [Program.run_bind, Program.run_attempt]
  generalize action.run _ = done
  obtain ⟨_ | a, t⟩ := done
  · exact ⟨_, _, rfl, rfl⟩
  · exact ⟨_, _, rfl, rfl⟩

end Wrapped

end Flow

/-- A run in which an action that began first, and alone, still has to run its `body`. -/
structure Inside (stores : Stores) (w : Activities) (body : Flow Unit) : Prop where
  reachable : Reachable happens (atRest stores) w
  within : ∃ settle : Except Thrown Unit → Flow Unit,
    w.calls[0]? = some (body.attempt >>= settle)
  runs : w.state.Runs 0

section Inside

variable {stores : Stores} {w : Activities}

theorem reachable_advanced {call : Nat} {t : Activities}
    (h : Reachable happens (atRest stores) w)
    (hadvance : Relation.ReflTransGen (fun w t => w.advance call = some t) w t) :
    Reachable happens (atRest stores) t := by
  induction hadvance with
  | refl => exact h
  | tail _ hstep ih => exact ih.next (a := .resume call) hstep

theorem exists_inside (stores : Stores) {body : Flow Unit} (h : (Flow.runAction body).Written) :
    ∃ w, Inside stores w body ∧
      w.state.stores = { stores with busy := true, error := none } := by
  have hstart : Reachable happens (atRest stores) ((atRest stores).begin (Flow.runAction body)) :=
    Reachable.start.next (a := .start _) ⟨h, rfl⟩
  refine ⟨_, ⟨hstart.next (a := .resume 0) rfl, ⟨_, rfl⟩, ?_⟩, rfl⟩
  exact ⟨List.mem_cons_self, Nat.one_pos⟩

theorem Inside.bind {α : Type} {p : Flow α} {f : α → Flow Unit} (h : Inside stores w (p >>= f))
    (hp : p.Written) {a : α} {s : Watched} (hrun : p.run w.state = (.ok a, s)) :
    ∃ t, Inside stores t (f a) ∧ t.state = s := by
  obtain ⟨settle, hcall⟩ := h.within
  obtain ⟨t, hadvance, hstate, hrest⟩ := Interleaving.exists_advance_attempt hcall hrun
  have hruns := hp.runs h.runs
  unfold Program.after at hruns
  rw [hrun] at hruns
  exact ⟨t, ⟨reachable_advanced h.reachable hadvance, ⟨settle, hrest⟩, hstate ▸ hruns⟩, hstate⟩

/-- After a tunnel action within another action the flag is not set. -/
theorem Inside.reported {operation : Action TunnelRuntimeOperationResult}
    {rest : TunnelActionReport → Flow Unit}
    (h : Inside stores w (Flow.reported operation >>= rest)) :
    ∃ t body, Inside stores t body ∧ t.state.stores.busy = false := by
  obtain ⟨result, s, hrun, hbusy⟩ := Flow.run_runTunnelAction _ w.state
  rw [Flow.reported, Program.bind_assoc] at h
  have hoperation : Flow.Written (Flow.runTunnelAction do
      let result ← Flow.service operation
      Flow.update fun s => { s with tunnelRuntimeView := result.runtimeView }
      return result.report) :=
    .runTunnelAction (.bind (Flow.written_service _) fun result =>
      .bind (Flow.written_update fun _ => rfl) fun _ => .ret _)
  obtain ⟨t, hinside, rfl⟩ := h.bind hoperation hrun
  exact ⟨t, _, hinside, hbusy⟩

/-- An action that finishes within another one leaves the flag wrong. -/
theorem Inside.not_covered {body : Flow Unit} (h : Inside stores w body)
    (hbusy : w.state.stores.busy = false) : ¬w.state.Covered := by
  intro hcovered
  have hrunning : w.state.running ≠ [] := List.ne_nil_of_mem h.runs.1
  rw [hcovered.mpr hrunning] at hbusy
  cases hbusy

end Inside

/-! ## The workflows -/

/-- While the control plane is asked to deactivate the network, `busy` is not set. -/
theorem disableActiveNetwork_uncovers {stores : Stores} (h : stores.networks ≠ [])
    (down : Except String WireGuardTunnelActionResult) (calls : Flow.DeactivationCalls) :
    ∃ w body, Inside stores w body ∧ w.state.stores.busy = false := by
  obtain ⟨w, hbegun, hstores⟩ := exists_inside stores (Flow.written_disableActiveNetwork down calls)
  obtain ⟨t, hlooked, -⟩ := hbegun.bind Flow.written_stores rfl
  have hnetworks : w.state.stores.networks ≠ [] := by
    rw [hstores]
    exact h
  rw [if_neg hnetworks] at hlooked
  exact hlooked.reported

/-- Nor is it between the two tunnel actions of an enabling. -/
theorem enableActiveNetwork_uncovers {stores : Stores} {api : AppCoreApi} {clock : Clock}
    {runtime : ActiveNetworkRuntimeResult} (hsession : stores.session.isNone = false)
    (hdevice : stores.device.isNone = false) (hnetworks : stores.networks ≠ [])
    (hruntime : prepareActiveNetworkRuntime api clock stores.session stores.device stores.node
      stores.networks = .ok runtime) (host : TunnelHostGateway) :
    ∃ w body, Inside stores w body ∧ w.state.stores.busy = false := by
  obtain ⟨w, hbegun, hstores⟩ :=
    exists_inside stores (Flow.written_enableActiveNetwork api host clock)
  obtain ⟨t, hlooked, -⟩ := hbegun.bind Flow.written_stores rfl
  rw [hstores] at hlooked
  dsimp only at hlooked
  rw [hsession, hdevice, if_neg Bool.false_ne_true, if_neg Bool.false_ne_true,
    if_neg hnetworks, hruntime] at hlooked
  obtain ⟨u, hprepared, -⟩ := hlooked.bind (Flow.written_service _) rfl
  obtain ⟨v, hkept, -⟩ := hprepared.bind (Flow.written_update fun _ => rfl) rfl
  exact hkept.reported

/-- A device in a network, which its user disables. -/
def joinedStores : Stores where
  session := some ⟨"user-1", "access-1", none, 3600, some "device-1", none⟩
  device := some ⟨"device-1", "laptop", "macos", "active", some "10.0.0.2", none⟩
  node := none
  networks := [⟨"net-1", "home", "10.0.0.0/24", []⟩]
  bootstrap := none
  notice := none
  error := none
  tunnelDebugError := none
  tunnelRuntimeView := none
  lastTunnelActionReport := none
  hostCalls := []
  busy := false
  lastProbe := none
  lastProbeFailure := none
  lastSendBytes := none
  lastSendFailure := none

/-- The tunnel is down, the network still active, and the user may press another button. -/
theorem busy_not_covering : ¬∀ w, Reachable happens (atRest joinedStores) w → w.state.Covered := by
  intro hall
  have hjoined : joinedStores.networks ≠ [] := List.cons_ne_nil _ _
  obtain ⟨w, body, hinside, hbusy⟩ := disableActiveNetwork_uncovers hjoined
    (.ok ⟨true, .accepted, "tunnel down", none⟩) ⟨fun _ _ => .ok (), .ok []⟩
  exact hinside.not_covered hbusy (hall w hinside.reachable)

end Slan.App
