import Slan.Maps.MapConsistency
import Slan.Maps.ServerSteps

/-! # The network that a connection is in, and the one that its hub has it in -/

namespace Slan.Maps

open Control (ControlWSSession FreshSession NodeHello WsSession)
open Transition

namespace ControlPlane

/-- A connection has an entry in the hub of its server, with its own network, and what is sent to a
network reaches the open connections that are in it. -/
structure Scoped (home : Nat → Nat) (w : ControlPlane) : Prop where
  entry : ∀ c session, w.connections c = some session → session.nodeId ≠ "" →
    ∃ entry, (w.hubs (home c)).session session.nodeId = some entry ∧ entry.connection = c ∧
      entry.session.networkId = session.networkId
  broadcast : ∀ i networkId c,
    (∃ entry ∈ (w.hubs i).peersInNetwork networkId "", entry.connection = c) ↔
      home c = i ∧ ∃ session, w.connections c = some session ∧ session.nodeId ≠ "" ∧
        session.networkId = networkId

/-- Hellos are of one node for each connection, of one connection of a server for each node; no
connection is given the map of another network than its own. -/
def KeepsScope (relays : Relays) (home : Nat → Nat) (w : ControlPlane) : ServerMove → Prop
  | .ask _ (.message now c (.nodeHello hello)) => ∀ session, w.connections c = some session →
    ∀ answer q, w.db.handshake relays now hello = (.ok answer, q) →
      GreetsAlone home w c session hello.nodeId
  | .ask _ (.message now c (.networkMapRequest networkId)) => ∀ session,
    w.connections c = some session → Handled.AnswersMap relays now w.db session networkId →
      StaysIn session networkId
  | _ => True

variable {relays : Relays} {sameName : String → String → Bool} {home : Nat → Nat}
  {w t : ControlPlane}

theorem Scoped.of_proper (h : Proper home w) : Scoped home w where
  entry c session hopen hnamed :=
    ⟨⟨c, session⟩, (h.hub (home c) _ ⟨c, session⟩).mpr ⟨rfl, hopen, rfl, hnamed⟩, rfl, rfl⟩
  broadcast i networkId c := by
    unfold Control.ControlWSHub.peersInNetwork
    simp only [List.mem_filter, (h.hub i).mem_sessions, Bool.and_eq_true, beq_iff_eq, bne_iff_ne]
    constructor
    · rintro ⟨entry, ⟨⟨hown, hopen, hnamed⟩, hnetwork, _⟩, rfl⟩
      exact ⟨hown, entry.session, hopen, hnamed, hnetwork⟩
    · rintro ⟨hown, session, hopen, hnamed, hnetwork⟩
      exact ⟨⟨c, session⟩, ⟨⟨hown, hopen, hnamed⟩, hnetwork, hnamed⟩, rfl⟩

theorem proper_start (home : Nat → Nat) : Proper home start := by
  refine ⟨fun i nodeId entry => ?_, fun i c c' session session' _ _ hopen => ?_⟩
  · have hnone : (start.hubs i).session nodeId = none := Table.get?_empty nodeId
    rw [hnone]
    exact ⟨nofun, fun h => nomatch h.2.1⟩
  · cases hopen

theorem proper_step {a : ServerMove} (hw : Proper home w) (hok : w.KeepsScope relays home a)
    (hstep : w.step relays sameName home a = some t) : Proper home t := by
  cases a with
  | ask i asked =>
    cases asked with
    | «open» c deviceId =>
      simp only [step, ask] at hstep
      split at hstep
      · rename_i hclosed
        obtain rfl := Option.some.inj hstep
        exact proper_open hw hclosed deviceId
      · cases hstep
    | message now c m =>
      obtain ⟨session, hopen, rfl⟩ := Option.map_eq_some_iff.mp hstep
      refine proper_message hw hopen ?_ ?_
      · rintro hello rfl answer q hanswer
        exact hok session hopen answer q hanswer
      · rintro networkId rfl hanswers
        exact hok session hopen hanswers
    | close c =>
      obtain ⟨session, hopen, rfl⟩ := Option.map_eq_some_iff.mp hstep
      exact proper_close hw hopen
    | request r =>
      obtain rfl := Option.some.inj hstep
      have hsame := sameHubs_dispatchAll i { w with db := (w.db.handleRequest sameName r).2 }
        (w.db.handleRequest sameName r).1
      exact SameHubs.proper (w := w) ⟨hsame.connections, hsame.hubs⟩ hw
    | createControlSession now fresh userId nodeId networkId =>
      obtain rfl := Option.some.inj hstep
      exact ⟨hw.hub, hw.one⟩
    | cleanup now =>
      obtain rfl := Option.some.inj hstep
      exact ⟨hw.hub, hw.one⟩
  | deliver i => exact (sameHubs_receive hstep).proper hw
  | resend i j => exact (sameHubs_resend hstep).proper hw
  | acknowledge j =>
    obtain rfl := Option.some.inj hstep
    exact ⟨hw.hub, hw.one⟩

/-- In every run of which each step keeps to the guard, hubs and connections agree on networks. -/
theorem hub_scoped (relays : Relays) (sameName : String → String → Bool) (home : Nat → Nat)
    (w : ControlPlane)
    (h : Reachable (guarded (KeepsScope relays home) (rel (step relays sameName home))) start w) :
    Scoped home w :=
  .of_proper (h.invariant _ (proper_start home) fun _ _ _ hw hs => proper_step hw hs.1 hs.2)

/-! ## A device that goes to another network on an open connection -/

section Samples

/-- A request, asked of the first server. -/
def asks : Action → Option ServerMove
  | .request r => some (.ask 0 (.request r))
  | _ => none

/-- A node gets a control session and connects. -/
def settling : List ServerMove :=
  oneNodeRun.filterMap asks ++
    [.ask 0 (.createControlSession 100 ⟨"4", "4"⟩ "user-1" "node-1" "net-1"),
      .ask 0 (.open 0 "dev-2")]

def greeting : ServerMove := .ask 0 (.message 100 0 (.nodeHello (helloOf "node-1" "4")))

/-- Its device joins the network of another user, of which it asks for the map. -/
def switching : List ServerMove :=
  settling ++ [greeting,
    .ask 0 (.request ⟨.ofDigits "7" (.refl true), .registerUser "two@local.slan" "password"⟩),
    .ask 0 (.request ⟨.ofDigits "8" (.refl true),
      .joinByOwnerEmail "user-1" "two@local.slan" "dev-2"⟩),
    .ask 0 (.message 101 0 (.networkMapRequest "net-7"))]

/-- The device's connection after that. -/
def movedSession : WsSession := ⟨"user-1", "dev-2", "node-1", "net-7"⟩

def planeAfter (run : List ServerMove) : ControlPlane :=
  execD (step DbState.noRelays (· == ·) id) start run

theorem exec_planeAfter (run : List ServerMove)
    (h : (exec (step DbState.noRelays (· == ·) id) start run).isSome = true) :
    exec (step DbState.noRelays (· == ·) id) start run = some (planeAfter run) := exec_eq_execD h

theorem settling_runs :
    (exec (step DbState.noRelays (· == ·) id) start (oneNodeRun.filterMap asks)).isSome = true ∧
      (exec (step DbState.noRelays (· == ·) id) start settling).isSome = true ∧
      (exec (step DbState.noRelays (· == ·) id) start (settling ++ [greeting])).isSome = true := by
  decide

/-- Before any node connects, the first server is asked for requests only. -/
theorem reachable_requests :
    Reachable (guarded (fun _ a => ∃ r, a = ServerMove.ask 0 (.request r))
      (rel (step DbState.noRelays (· == ·) id))) start (planeAfter (oneNodeRun.filterMap asks)) := by
  refine .guarded_of_exec .start (fun a ha _ => ?_) (exec_planeAfter _ settling_runs.1)
  obtain ⟨action, _, haction⟩ := List.mem_filterMap.mp ha
  cases action with
  | request r => exact ⟨r, (Option.some.inj haction).symm⟩
  | _ => cases haction

end Samples

/-- The hub still has the connection in the network that it has left. -/
theorem hub_unscoped : ¬∀ (relays : Relays) (sameName : String → String → Bool)
    (home : Nat → Nat) (w : ControlPlane), Reachable (rel (step relays sameName home)) start w →
      Scoped home w := by
  intro h
  obtain ⟨hexec, hopen, hhub⟩ :
      (exec (step DbState.noRelays (· == ·) id) start switching).isSome = true ∧
        (planeAfter switching).connections 0 = some movedSession ∧
        ((planeAfter switching).hubs (id 0)).session movedSession.nodeId =
          some ⟨0, ⟨"user-1", "dev-2", "node-1", "net-1"⟩⟩ := by decide
  have hreach := Reachable.of_exec .start (exec_planeAfter switching hexec)
  obtain ⟨entry, hentry, _, hnetwork⟩ := (h _ _ _ _ hreach).entry 0 movedSession hopen (by decide)
  obtain rfl := Option.some.inj (hhub.symm.trans hentry)
  revert hnetwork
  decide

theorem guarded_settling :
    Reachable (guarded (KeepsScope DbState.noRelays id) (rel (step DbState.noRelays (· == ·) id)))
      start (planeAfter settling) := by
  refine .guarded_of_exec .start (fun a ha u => ?_) (exec_planeAfter settling settling_runs.2.1)
  have hall : ∀ a ∈ settling, a.asked?.all fun
      | .message .. => false
      | .open .. | .close .. | .request .. | .createControlSession .. | .cleanup .. => true := by
    decide
  have hquiet := hall a ha
  revert hquiet
  cases a with
  | ask i asked =>
    cases asked with
    | message now c m => exact nofun
    | _ => exact fun _ => trivial
  | _ => exact fun _ => trivial

theorem hub_scoped_greeted : Scoped id (planeAfter (settling ++ [greeting])) := by
  have hconnections : (planeAfter settling).connections =
      Function.update (fun _ => none) 0 (some ⟨"", "dev-2", "", ""⟩) := rfl
  have hopen : (planeAfter settling).connections 0 = some ⟨"", "dev-2", "", ""⟩ := by
    rw [hconnections, Function.update_self]
  have hothers : ∀ c, c ≠ 0 → (planeAfter settling).connections c = none := by
    intro c hc
    rw [hconnections, Function.update_of_ne hc]
  refine hub_scoped DbState.noRelays (· == ·) id _
    (guarded_settling.next (a := greeting) ⟨?_, rel_execD settling_runs.2.2⟩)
  intro session hsession answer q _
  obtain rfl := Option.some.inj (hopen.symm.trans hsession)
  refine ⟨.inl rfl, fun c' s _ hne hother => ?_⟩
  rw [hothers c' hne] at hother
  cases hother

end ControlPlane

end Slan.Maps
