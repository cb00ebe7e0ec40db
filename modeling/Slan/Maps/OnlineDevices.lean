import Slan.Maps.DeviceStatus
import Slan.Maps.HubScope

/-! # Whether a device that is connected is online

The end of one connection takes the device offline, whatever others it has; so does a notice, on a
connection that stays, and a registration.
-/

namespace Slan.Maps

open Control (WsSession)
open Networks (Operation RegistersDevice SamePlaces Store)
open Transition

namespace DbState

theorem store_publishNetworkRestartRequired (p : DbState) (networkId cidr : String) :
    (p.publishNetworkRestartRequired networkId cidr).2.store = p.store := by
  unfold publishNetworkRestartRequired
  split <;> rfl

theorem store_handleRequest (sameName : String → String → Bool) (p : DbState)
    (r : Networks.Request) : (p.handleRequest sameName r).2.store = r.after sameName p.store := by
  rw [← store_request]
  unfold handleRequest
  dsimp only
  split
  · split
    · exact store_publishNetworkRestartRequired _ _ _
    · rfl
  · split <;> rfl
  all_goals rfl

end DbState

namespace ControlPlane

/-- Every device with a live connection is online. -/
def Online (w : ControlPlane) : Prop :=
  ∀ deviceId, Connected w.db.store w.connections deviceId → IsOnline w.db.store deviceId

/-- No registration takes a connected device offline, or puts a connected node on a device that is
not online. -/
def RegistersQuietly (w : ControlPlane) : Operation → Prop
  | .registerDevice userId req => RegistersDevice w.db.store userId req →
    ∀ device ∈ w.db.store.devices, device.userId = userId → device.machineId = req.machineId →
      ¬Connected w.db.store w.connections device.deviceId
  | .registerNode userId req => Control.Directory.requireRegisterNodeRequest req = .ok () →
    (∃ device ∈ w.db.store.devices, device.deviceId = req.deviceId ∧ device.userId = userId) →
      Live w.connections userId req.nodeId → IsOnline w.db.store req.deviceId
  | _ => True

/-- A connection ends when its device has no other, a notice of disconnection is about no node, and
a hello comes with a control session of the device that its node is on. -/
def KeepsOnline (w : ControlPlane) : ServerMove → Prop
  | .ask _ (.message now _ (.nodeHello hello)) => ∀ stored node,
    w.db.Admits now hello stored node →
      node.deviceId = stored.deviceId ∨ IsOnline w.db.store node.deviceId
  | .ask _ (.message now c (.disconnectNotice notice)) => ∀ session,
    w.connections c = some session → session.authorized = true → ∀ node,
      ¬(w.db.heartbeat now session.userId session.nodeId session.networkId).2.EndsBy session.userId
        session.nodeId (Handled.noticed session notice) notice.peerNodeId node
  | .ask _ (.close c) => ∀ session, w.connections c = some session → ∀ node,
    w.db.ClosesBy session.userId session.nodeId session.networkId node →
      ¬Connected w.db.store (Function.update w.connections c none) node.deviceId
  | .ask _ (.request r) => w.RegistersQuietly r.operation
  | _ => True

variable {relays : Relays} {sameName : String → String → Bool} {home : Nat → Nat}
  {w t : ControlPlane}

theorem dispatchAll_db (i : Nat) (w : ControlPlane) (ds : List Dispatch) :
    (dispatchAll i w ds).db = w.db := by
  induction ds generalizing w with
  | nil => rfl
  | cons d ds ih =>
    refine (ih (dispatch i w d)).trans ?_
    cases d <;> rfl

theorem shows_finish {i c : Nat} {session : Option WsSession} {handled : Handled}
    (h : Shows (Function.update w.connections c session) handled.db.store) :
    Shows (w.finish i c session handled).connections (w.finish i c session handled).db.store := by
  rw [finish_connections]
  unfold finish
  rw [dispatchAll_db]
  exact h

theorem shows_request (hw : Shows w.connections w.db.store) {r : Networks.Request}
    (hok : w.RegistersQuietly r.operation) :
    Shows w.connections (r.after sameName w.db.store) := by
  obtain ⟨fresh, operation⟩ := r
  by_cases hregisters : operation.registers = true
  · cases operation with
    | registerDevice userId req =>
      have hafter : Networks.Request.after sameName ⟨fresh, .registerDevice userId req⟩ w.db.store =
          (Networks.registerDevice fresh userId req).after w.db.store := Program.after_void _ _
      rw [hafter]
      rcases Networks.registerDevice_after fresh userId req with
        hsame | ⟨hvalid, row, u, huser, hmachine, hwrite, hsame⟩
      · exact hw.same hsame
      · refine (hw.upsertDevice hwrite fun device hmem howner hof => ?_).same hsame
        exact hok hvalid device hmem (howner.trans huser) (hof.trans hmachine)
    | registerNode userId req =>
      rcases Networks.registerNode_after userId req with hsame | ⟨hvalid, howned, hwrite⟩
      · exact hw.same hsame
      · refine hw.upsertNode hwrite ?_ (hok hvalid howned)
        obtain ⟨device, hmem, hid, _⟩ := howned
        exact ⟨device, hmem, hid⟩
    | _ => cases hregisters
  · exact hw.same (Networks.samePlaces_request sameName (Bool.eq_false_iff.mpr hregisters))

theorem shows_open (hw : Shows w.connections w.db.store) {c : Nat} (deviceId : String) :
    Shows (Function.update w.connections c (some ⟨"", deviceId, "", ""⟩)) w.db.store := by
  refine hw.mono fun userId nodeId hlive => ?_
  obtain ⟨c', session, hopen, hauthorized, huser, hnode⟩ := hlive
  by_cases hc : c' = c
  · rw [hc, Function.update_self] at hopen
    obtain rfl := Option.some.inj hopen
    cases hauthorized
  · rw [Function.update_of_ne hc] at hopen
    exact ⟨c', session, hopen, hauthorized, huser, hnode⟩

/-- One move, whatever it is, for the devices and the connections together. -/
theorem shows_step {a : ServerMove} (hw : Shows w.connections w.db.store) (hok : w.KeepsOnline a)
    (hstep : w.step relays sameName home a = some t) : Shows t.connections t.db.store := by
  cases a with
  | ask i asked =>
    cases asked with
    | «open» c deviceId =>
      simp only [step, ask] at hstep
      split at hstep
      · obtain rfl := Option.some.inj hstep
        exact shows_open hw deviceId
      · cases hstep
    | message now c m =>
      obtain ⟨session, hopen, rfl⟩ := Option.map_eq_some_iff.mp hstep
      refine shows_finish (Handled.shows_message hw hopen ?_ ?_)
      · rintro hello rfl stored node hadmits
        exact hok stored node hadmits
      · rintro notice rfl hauthorized node
        exact hok session hopen hauthorized node
    | close c =>
      obtain ⟨session, hopen, rfl⟩ := Option.map_eq_some_iff.mp hstep
      exact shows_finish (Handled.shows_closed hw (hok session hopen))
    | request r =>
      obtain rfl := Option.some.inj hstep
      rw [(sameHubs_dispatchAll i _ _).connections, dispatchAll_db]
      have hstore := DbState.store_handleRequest sameName w.db r
      have hafter : Shows w.connections (r.after sameName w.db.store) := shows_request hw hok
      rw [← hstore] at hafter
      exact hafter
    | createControlSession now fresh userId nodeId networkId =>
      obtain rfl := Option.some.inj hstep
      refine hw.same ?_
      unfold DbState.createControlSession
      split <;> exact ⟨rfl, rfl⟩
    | cleanup now =>
      obtain rfl := Option.some.inj hstep
      exact hw.same ⟨rfl, rfl⟩
  | deliver i =>
    -- a server that takes from its inbox only passes it on
    have hdb : t.db = w.db := by
      simp only [step, receive] at hstep
      split at hstep
      · cases hstep
      · obtain rfl := Option.some.inj hstep
        split <;> rfl
    rw [(sameHubs_receive hstep).connections, hdb]
    exact hw
  | resend i j =>
    have hdb : t.db = w.db := by
      obtain ⟨message, _, rfl⟩ := Option.map_eq_some_iff.mp hstep
      split <;> rfl
    rw [(sameHubs_resend hstep).connections, hdb]
    exact hw
  | acknowledge j =>
    obtain rfl := Option.some.inj hstep
    exact hw

/-- In every run of which each step keeps to the guard, connected devices are online. -/
theorem connected_online (relays : Relays) (sameName : String → String → Bool) (home : Nat → Nat)
    (w : ControlPlane)
    (h : Reachable (guarded KeepsOnline (rel (step relays sameName home))) start w) :
    w.Online := by
  have hstart : Shows start.connections start.db.store := by
    refine ⟨fun deviceId hconnected => ?_, fun node hnode => absurd hnode (Relation.not_mem_empty _)⟩
    obtain ⟨node, hnode, _⟩ := hconnected
    exact absurd hnode (Relation.not_mem_empty _)
  have hshows : Shows w.connections w.db.store :=
    h.invariant (fun w => Shows w.connections w.db.store) hstart fun _ _ _ hw hs =>
      shows_step hw hs.1 hs.2
  exact hshows.online

/-! ## A device that connects again before it has gone -/

section Samples

instance (s : Store) (deviceId : String) : Decidable (IsOnline s deviceId) :=
  inferInstanceAs (Decidable (∃ device ∈ s.devices.rows,
    device.deviceId = deviceId ∧ device.status = "online"))

/-- A second connection of the node is greeted, and then the first one ends. -/
def reconnecting : List ServerMove :=
  settling ++ [greeting, .ask 0 (.open 1 "dev-2"),
    .ask 0 (.createControlSession 101 ⟨"5", "5"⟩ "user-1" "node-1" "net-1"),
    .ask 0 (.message 101 1 (.nodeHello (helloOf "node-1" "5"))),
    .ask 0 (.close 0)]

/-- A connection of the first node. -/
def firstSession : WsSession := ⟨"user-1", "dev-2", "node-1", "net-1"⟩

theorem connected_firstNode {s : Store} {connections : Nat → Option WsSession} {c : Nat}
    (hnode : firstNode ∈ s.nodes.rows) (hopen : connections c = some firstSession) :
    Connected s connections "dev-2" :=
  ⟨firstNode, hnode, rfl, c, firstSession, hopen, by decide, rfl, rfl⟩

end Samples

/-- The end of the first connection takes the device offline. -/
theorem connected_offline : ¬∀ (relays : Relays) (sameName : String → String → Bool)
    (home : Nat → Nat) (w : ControlPlane), Reachable (rel (step relays sameName home)) start w →
      w.Online := by
  intro h
  obtain ⟨hexec, hoffline, hopen, hnode⟩ :
      (exec (step DbState.noRelays (· == ·) id) start reconnecting).isSome = true ∧
        ¬IsOnline (planeAfter reconnecting).db.store "dev-2" ∧
        (planeAfter reconnecting).connections 1 = some firstSession ∧
        firstNode ∈ (planeAfter reconnecting).db.store.nodes.rows := by decide
  have hreach := Reachable.of_exec .start (exec_planeAfter reconnecting hexec)
  exact hoffline (h _ _ _ _ hreach "dev-2" (connected_firstNode hnode hopen))

/-- Before any connection is open, requests take none offline. -/
theorem guarded_registered :
    Reachable (guarded KeepsOnline (rel (step DbState.noRelays (· == ·) id))) start
      (planeAfter (oneNodeRun.filterMap asks)) := by
  refine (reachable_requests.restricted_of_guarded (fun w => w.connections = fun _ => none)
    (fun w a t => w.KeepsOnline a ∧ t.connections = fun _ => none) rfl (fun _ _ _ h => h.2)
    fun w a t _ hnone hrequest hstep => ?_).1.mono fun _ _ _ hs => ⟨hs.2.1, hs.1⟩
  obtain ⟨r, rfl⟩ := hrequest
  have hdead : ∀ userId nodeId, ¬Live w.connections userId nodeId := by
    rintro userId nodeId ⟨c, session, hopen, _⟩
    rw [hnone] at hopen
    cases hopen
  constructor
  · change w.RegistersQuietly r.operation
    cases r.operation with
    | registerDevice userId req =>
      intro _ device _ _ _ hconnected
      obtain ⟨node, _, _, hlive⟩ := hconnected
      exact hdead _ _ hlive
    | registerNode userId req => exact fun _ _ hlive => absurd hlive (hdead _ _)
    | _ => trivial
  · obtain rfl := Option.some.inj hstep
    exact (sameHubs_dispatchAll 0 _ _).connections.trans hnone

theorem connected_online_greeted : (planeAfter (settling ++ [greeting])).Online := by
  have hsettled : Reachable (guarded KeepsOnline (rel (step DbState.noRelays (· == ·) id))) start
      (planeAfter settling) := by
    refine guarded_registered.guarded_of_exec (fun a ha u => ?_) (exec_execD settling_runs.2.1)
    rcases List.mem_pair.mp ha with rfl | rfl <;> trivial
  refine connected_online DbState.noRelays (· == ·) id _
    (hsettled.next (a := greeting) ⟨?_, rel_execD settling_runs.2.2⟩)
  intro stored node hadmits
  obtain ⟨hdevice, hplaced⟩ : ((planeAfter settling).db.getControlSessionByToken
      (Control.FreshSession.sessionToken ⟨"4", "4"⟩)).map Control.ControlSession.deviceId =
        some "dev-2" ∧
      ∀ row ∈ (planeAfter settling).db.store.nodes.rows, row.deviceId = "dev-2" := by
    decide
  have hnode : node ∈ (planeAfter settling).db.store.nodes := hadmits.mem_nodes.1
  have hrow : (planeAfter settling).db.getControlSessionByToken
      (Control.FreshSession.sessionToken ⟨"4", "4"⟩) = some stored := hadmits.row
  rw [hrow, Option.map_some] at hdevice
  exact .inl ((hplaced node hnode).trans (Option.some.inj hdevice).symm)

end ControlPlane

end Slan.Maps
