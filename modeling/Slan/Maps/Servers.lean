import Slan.Lib.Broadcast
import Slan.Lib.Transition
import Slan.Maps.ControlWs

/-! # The control plane on several servers

The servers share the database and the channel on which they publish; each has the hub of the
connections to it. A connection is to one server, `home`.
-/

namespace Slan.Maps

open Control (ControlWSHub ControlWSSession FreshSession WsSession)
open Networks (Store)

/-- The node is one of a device that is a member. -/
def isMember (s : Store) (networkId nodeId : String) : Bool :=
  (s.nodeById nodeId).any fun node => (s.memberByNetworkDevice networkId node.deviceId).isSome

/-- An event on the channel, and the server under whose name it is published. -/
structure PublishedEvent where
  instanceId : Option Nat
  event : ControlSyncEvent
  deriving DecidableEq

/-- Who has caused an event; of a plan, the peer that it is about. -/
def ControlSyncEvent.source : ControlSyncEvent → String
  | peerUpdate _ sourceNodeId _ _ => sourceNodeId
  | peerRemove _ sourceNodeId _ => sourceNodeId
  | peerCandidate _ sourceNodeId _ _ => sourceNodeId
  | connectPlan _ _ _ plan => plan.peerNodeId
  | _ => ""

/-- A message that is kept until it is acknowledged; what it carries, and who has caused it. -/
structure OutboundMessage where
  targetNodeId : String
  networkId : String
  source : String
  payload : Payload
  deriving DecidableEq

/-- A message that a connection was sent, what the connection was authenticated as, and the store
at that time. -/
structure Delivery where
  connection : Nat
  session : WsSession
  store : Store
  source : String
  payload : Payload

structure ControlPlane where
  db : DbState
  connections : Nat → Option WsSession
  hubs : Nat → ControlWSHub
  inboxes : Nat → List PublishedEvent
  messages : List OutboundMessage
  deliveries : List Delivery

/-- What clients and users do, and the control plane of itself. -/
inductive Asked where
  | open (c : Nat) (deviceId : String)
  | message (now : Int) (c : Nat) (message : ClientMessage)
  | close (c : Nat)
  | request (r : Networks.Request)
  | createControlSession (now : Int) (fresh : FreshSession) (userId nodeId networkId : String)
  | cleanup (now : Int)

inductive ServerMove where
  /-- A request over HTTP is answered by some server. -/
  | ask (i : Nat) (asked : Asked)
  | deliver (i : Nat)
  /-- The retry loop of a server sends a message again. -/
  | resend (i j : Nat)
  | acknowledge (j : Nat)

def ServerMove.asked? : ServerMove → Option Asked
  | ask _ asked => some asked
  | _ => none

namespace ControlPlane

/-- A message is written to a session of a hub, if the connection is still open. -/
def deliverTo (w : ControlPlane) (source : String) (payload : Payload) (entry : ControlWSSession) :
    Option Delivery :=
  (w.connections entry.connection).map fun session =>
    ⟨entry.connection, session, w.db.store, source, payload⟩

/-- `sendTracked` to everyone in the hub of a server that an event is for. -/
def send (w : ControlPlane) (i : Nat) (event : ControlSyncEvent) : ControlPlane :=
  let receivers := event.receivers (w.hubs i)
  { w with
    messages := w.messages ++ receivers.map fun entry =>
      ⟨entry.session.nodeId, entry.session.networkId, event.source, event.payload⟩
    deliveries := w.deliveries ++ receivers.filterMap (w.deliverTo event.source event.payload) }

def publish (w : ControlPlane) (instanceId : Option Nat) (event : ControlSyncEvent) :
    ControlPlane :=
  { w with inboxes := fun i => w.inboxes i ++ [⟨instanceId, event⟩] }

def dispatch (i : Nat) (w : ControlPlane) : Dispatch → ControlPlane
  | .fanout event => (w.send i event).publish (some i) event
  | .here event => w.send i event
  | .publish event => w.publish none event
  | .again event => w.send i event

def dispatchAll (i : Nat) (w : ControlPlane) (dispatches : List Dispatch) : ControlPlane :=
  dispatches.foldl (dispatch i) w

/-- What a handler leaves of a connection, and what it sends. -/
def finish (w : ControlPlane) (i c : Nat) (session : Option WsSession) (handled : Handled) :
    ControlPlane :=
  dispatchAll i
    { w with
      db := handled.db
      connections := Function.update w.connections c session
      hubs := Function.update w.hubs i handled.hub }
    handled.dispatches

section Steps

variable (relays : Relays) (sameName : String → String → Bool) (home : Nat → Nat)

def ask (w : ControlPlane) (i : Nat) : Asked → Option ControlPlane
  | .open c deviceId =>
    match w.connections c with
    | none =>
      some { w with connections := Function.update w.connections c (some ⟨"", deviceId, "", ""⟩) }
    | some _ => none
  | .message now c message => (w.connections c).map fun session =>
    let handled := Handled.message relays now w.db (w.hubs (home c)) c session message
    w.finish (home c) c (some handled.session) handled
  | .close c => (w.connections c).map fun session =>
    w.finish (home c) c none (Handled.closed w.db (w.hubs (home c)) session)
  | .request r =>
    let (dispatches, db) := w.db.handleRequest sameName r
    some (dispatchAll i { w with db } dispatches)
  | .createControlSession now fresh userId nodeId networkId =>
    some { w with db := (w.db.createControlSession now fresh userId nodeId networkId).2 }
  | .cleanup now => some { w with db := w.db.cleanupExpiredControlPlaneState now }

/-- A server leaves aside what was published under its own name. -/
def receive (w : ControlPlane) (i : Nat) : Option ControlPlane :=
  match w.inboxes i with
  | [] => none
  | published :: rest =>
    let w := { w with inboxes := Function.update w.inboxes i rest }
    some (if published.instanceId = some i then w else w.send i published.event)

def resend (w : ControlPlane) (i j : Nat) : Option ControlPlane :=
  w.messages[j]?.map fun message =>
    match (w.hubs i).session message.targetNodeId with
    | none => w
    | some entry => { w with
        deliveries := w.deliveries ++ (w.deliverTo message.source message.payload entry).toList }

def step (w : ControlPlane) : ServerMove → Option ControlPlane
  | .ask i asked => w.ask relays sameName home i asked
  | .deliver i => w.receive i
  | .resend i j => w.resend i j
  | .acknowledge j => some { w with messages := w.messages.eraseIdx j }

end Steps

def start : ControlPlane := ⟨.start, fun _ => none, fun _ => ∅, fun _ => [], [], []⟩

def received (w : ControlPlane) (c : Nat) : List Payload :=
  (w.deliveries.filter fun delivery => delivery.connection == c).map Delivery.payload

end ControlPlane

/-! ## Whom an event is for -/

/-- The session of a connection that an event is for. -/
def ControlSyncEvent.reaches (event : ControlSyncEvent) (session : WsSession) : Bool :=
  session.nodeId != "" &&
    match event with
    | peerUpdate networkId sourceNodeId _ _ =>
      session.networkId == networkId && session.nodeId != sourceNodeId
    | peerRemove networkId sourceNodeId _ => sourceNodeId != "" && networkId != "" &&
      (session.networkId == networkId && session.nodeId != sourceNodeId)
    | peerCandidate _ _ targetNodeId _ => session.nodeId == targetNodeId
    | connectPlan _ _ targetNodeId _ => session.nodeId == targetNodeId
    | networkRestartRequired networkId _ => session.networkId == networkId
    | deviceIPReassigned networkId _ => session.networkId == networkId
    | activeNetworkEnabled targetUserId _ =>
      targetUserId != "" && session.userId == targetUserId

/-- The hub has every connection of its own under the name of its node, and nothing else. -/
def Registers (hub : ControlWSHub) (connections : Nat → Option WsSession) (own : Nat → Prop) :
    Prop :=
  ∀ nodeId entry, hub.session nodeId = some entry ↔
    own entry.connection ∧ connections entry.connection = some entry.session ∧
      entry.session.nodeId = nodeId ∧ nodeId ≠ ""

/-- No node has two connections of its own. -/
def OneConnection (connections : Nat → Option WsSession) (own : Nat → Prop) : Prop :=
  ∀ c c' session session', own c → own c' → connections c = some session →
    connections c' = some session' → session.nodeId = session'.nodeId → session.nodeId ≠ "" →
      c = c'

section Registers

variable {hub : ControlWSHub} {connections : Nat → Option WsSession} {own : Nat → Prop}

theorem mem_sessions {entry : ControlWSSession} :
    entry ∈ hub.sessions ↔ ∃ nodeId, hub.session nodeId = some entry := by
  unfold ControlWSHub.sessions ControlWSHub.session Table.get?
  rw [List.mem_map]
  constructor
  · rintro ⟨⟨nodeId, _⟩, hmem, rfl⟩
    exact ⟨nodeId, AList.mem_lookup_iff.mpr hmem⟩
  · rintro ⟨nodeId, hentry⟩
    exact ⟨⟨nodeId, entry⟩, AList.mem_lookup_iff.mp hentry, rfl⟩

theorem Registers.mem_sessions (h : Registers hub connections own) {entry : ControlWSSession} :
    entry ∈ hub.sessions ↔ own entry.connection ∧
      connections entry.connection = some entry.session ∧ entry.session.nodeId ≠ "" := by
  rw [Maps.mem_sessions]
  constructor
  · rintro ⟨nodeId, hentry⟩
    obtain ⟨hown, hopen, rfl, hnamed⟩ := (h _ entry).mp hentry
    exact ⟨hown, hopen, hnamed⟩
  · rintro ⟨hown, hopen, hnamed⟩
    exact ⟨_, (h _ entry).mpr ⟨hown, hopen, rfl, hnamed⟩⟩

/-- Entries are told apart by their nodes. -/
theorem Registers.nodup_sessions (h : Registers hub connections own) : hub.sessions.Nodup := by
  have hkey : ∀ e ∈ hub.entries, e.1 = e.2.session.nodeId := by
    rintro ⟨nodeId, entry⟩ hmem
    exact ((h nodeId entry).mp (AList.mem_lookup_iff.mpr hmem)).2.2.1.symm
  refine List.Nodup.map_on (fun a ha b hb hab => ?_) hub.nodupKeys.nodup
  have hnode : a.1 = b.1 := by rw [hkey a ha, hkey b hb, hab]
  exact Sigma.ext hnode (heq_of_eq hab)

/-- A hub has its entries by the names of their nodes. -/
def Keyed (hub : ControlWSHub) : Prop :=
  ∀ nodeId entry, hub.session nodeId = some entry → entry.session.nodeId = nodeId ∧ nodeId ≠ ""

theorem Registers.keyed (h : Registers hub connections own) : Keyed hub := fun nodeId entry hentry =>
  ((h nodeId entry).mp hentry).2.2

theorem Keyed.ne_empty (h : Keyed hub) {entry : ControlWSSession} (hmem : entry ∈ hub.sessions) :
    entry.session.nodeId ≠ "" := by
  obtain ⟨nodeId, hentry⟩ := Maps.mem_sessions.mp hmem
  obtain ⟨rfl, hnamed⟩ := h nodeId entry hentry
  exact hnamed

theorem Keyed.mem_target (h : Keyed hub) {targetNodeId : String} {entry : ControlWSSession} :
    entry ∈ hub.target targetNodeId ↔
      entry ∈ hub.sessions ∧ entry.session.nodeId = targetNodeId := by
  unfold ControlWSHub.target
  split
  · rename_i hempty
    rw [hempty]
    exact ⟨nofun, fun hin => absurd hin.2 (h.ne_empty hin.1)⟩
  · rw [Option.mem_toList, Maps.mem_sessions]
    constructor
    · exact fun hentry => ⟨⟨targetNodeId, hentry⟩, (h targetNodeId entry hentry).1⟩
    · rintro ⟨⟨nodeId, hentry⟩, rfl⟩
      rw [← (h nodeId entry hentry).1] at hentry
      exact hentry

/-- An event is sent to the sessions of the hub that it reaches. -/
theorem Keyed.mem_receivers (h : Keyed hub) {event : ControlSyncEvent} {entry : ControlWSSession} :
    entry ∈ event.receivers hub ↔ entry ∈ hub.sessions ∧ event.reaches entry.session = true := by
  have hnamed : entry ∈ hub.sessions → (entry.session.nodeId != "") = true := fun hmem =>
    bne_iff_ne.mpr (h.ne_empty hmem)
  cases event with
  | peerUpdate networkId sourceNodeId revision peer =>
    refine List.mem_filter.trans (and_congr_right fun hmem => ?_)
    simp [ControlSyncEvent.reaches, bne_iff_ne.mp (hnamed hmem)]
  | peerRemove networkId sourceNodeId revision =>
    simp only [ControlSyncEvent.receivers]
    split
    · rename_i hempty
      refine ⟨fun hmem => absurd hmem List.not_mem_nil, fun hreached => ?_⟩
      rcases hempty with rfl | rfl <;> simp [ControlSyncEvent.reaches] at hreached
    · rename_i hfull
      obtain ⟨hsource, hnetwork⟩ := not_or.mp hfull
      refine List.mem_filter.trans (and_congr_right fun hmem => ?_)
      simp [ControlSyncEvent.reaches, bne_iff_ne.mp (hnamed hmem), hsource, hnetwork]
  | peerCandidate networkId sourceNodeId targetNodeId candidate =>
    refine h.mem_target.trans (and_congr_right fun hmem => ?_)
    simp [ControlSyncEvent.reaches, bne_iff_ne.mp (hnamed hmem)]
  | connectPlan networkId sourceNodeId targetNodeId plan =>
    refine h.mem_target.trans (and_congr_right fun hmem => ?_)
    simp [ControlSyncEvent.reaches, bne_iff_ne.mp (hnamed hmem)]
  | networkRestartRequired networkId restart =>
    refine List.mem_filter.trans (and_congr_right fun hmem => ?_)
    simp [ControlSyncEvent.reaches, bne_iff_ne.mp (hnamed hmem)]
  | deviceIPReassigned networkId deviceIP =>
    refine List.mem_filter.trans (and_congr_right fun hmem => ?_)
    simp [ControlSyncEvent.reaches, bne_iff_ne.mp (hnamed hmem)]
  | activeNetworkEnabled targetUserId enabled =>
    simp only [ControlSyncEvent.receivers]
    split
    · rename_i hempty
      refine ⟨fun hmem => absurd hmem List.not_mem_nil, fun hreached => ?_⟩
      simp [ControlSyncEvent.reaches, hempty] at hreached
    · rename_i hfull
      refine List.mem_filter.trans (and_congr_right fun hmem => ?_)
      simp [ControlSyncEvent.reaches, bne_iff_ne.mp (hnamed hmem), hfull]

theorem Registers.mem_receivers (h : Registers hub connections own) {event : ControlSyncEvent}
    {entry : ControlWSSession} : entry ∈ event.receivers hub ↔
      own entry.connection ∧ connections entry.connection = some entry.session ∧
        event.reaches entry.session = true := by
  rw [h.keyed.mem_receivers, h.mem_sessions]
  constructor
  · rintro ⟨⟨hown, hopen, _⟩, hreached⟩
    exact ⟨hown, hopen, hreached⟩
  · rintro ⟨hown, hopen, hreached⟩
    refine ⟨⟨hown, hopen, fun hempty => ?_⟩, hreached⟩
    simp [ControlSyncEvent.reaches, hempty] at hreached

theorem nodup_target (targetNodeId : String) : (hub.target targetNodeId).Nodup := by
  unfold ControlWSHub.target
  split
  · exact List.nodup_nil
  · cases hub.session targetNodeId <;> simp

theorem Registers.nodup_receivers (h : Registers hub connections own) (event : ControlSyncEvent) :
    (event.receivers hub).Nodup := by
  cases event with
  | peerUpdate networkId sourceNodeId revision peer => exact h.nodup_sessions.filter _
  | peerRemove networkId sourceNodeId revision =>
    simp only [ControlSyncEvent.receivers]
    split
    · exact List.nodup_nil
    · exact h.nodup_sessions.filter _
  | peerCandidate networkId sourceNodeId targetNodeId candidate => exact nodup_target targetNodeId
  | connectPlan networkId sourceNodeId targetNodeId plan => exact nodup_target targetNodeId
  | networkRestartRequired networkId restart => exact h.nodup_sessions.filter _
  | deviceIPReassigned networkId deviceIP => exact h.nodup_sessions.filter _
  | activeNetworkEnabled targetUserId enabled =>
    simp only [ControlSyncEvent.receivers]
    split
    · exact List.nodup_nil
    · exact h.nodup_sessions.filter _

end Registers

end Slan.Maps
