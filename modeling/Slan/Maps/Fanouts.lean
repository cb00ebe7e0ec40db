import Slan.Lib.Announcements
import Slan.Control.ControlServer
import Slan.Maps.ControlChannel

/-! # `control_ws_fanout.go`: fan-outs of peers, and the revisions that they draw

A fan-out of a peer reads it, then draws a revision, then sends. Between these steps other
connections, on this server or another one, take theirs.
-/

namespace Slan.Maps

open Control (Endpoint EndpointReport NodeEndpoint NodeHello WsSession firstNonEmpty)
open Networks (Store)

/-- How Redis answers `INCR`. -/
inductive CounterReply where
  | answered
  /-- The counter went up, and the answer did not come back. -/
  | lost
  | refused
  deriving DecidableEq

inductive Notice where
  | peerUpdate (peer : Peer)
  | peerRemove (peerNodeId : String)
  | networkRestartRequired
  deriving DecidableEq

/-- An event with a revision of its own, as it is sent and published. -/
structure RevisedEvent where
  networkId : String
  revision : Nat
  notice : Notice
  deriving DecidableEq

/-- A fan-out that has not drawn its revision. -/
inductive Fanout where
  | peerUpdate (session : WsSession)
  /-- An update that has read its peer. -/
  | snapshot (session : WsSession) (peer : Peer)
  | peerRemove (networkId sourceNodeId : String)
  deriving DecidableEq

namespace Fanout

def networkId : Fanout → String
  | peerUpdate session => session.networkId
  | snapshot session _ => session.networkId
  | peerRemove networkId _ => networkId

/-- The node that the fan-out is about. -/
def nodeId : Fanout → String
  | peerUpdate session => session.nodeId
  | snapshot _ peer => peer.nodeId
  | peerRemove _ sourceNodeId => sourceNodeId

end Fanout

namespace DbState

def counter (p : DbState) (networkId : String) : Nat := (p.revisions.get? networkId).getD 0

def incremented (p : DbState) (networkId : String) : DbState :=
  { p with revisions := p.revisions.put networkId (p.counter networkId + 1) }

/-- `NextRevision`, and 1 where it fails. -/
def nextRevision (p : DbState) (networkId : String) : CounterReply → Nat × DbState
  | .answered => (p.counter networkId + 1, p.incremented networkId)
  | .lost => (1, p.incremented networkId)
  | .refused => (1, p)

/-- A node of a member whose device is online and that has a control session. -/
def present (p : DbState) (networkId nodeId : String) : Bool :=
  (p.store.nodeById nodeId).any fun record =>
    (p.store.memberByNetworkDevice networkId record.deviceId).isSome &&
      (p.store.deviceById record.deviceId).any (fun device => device.status == "online") &&
      p.store.controlSessions.any fun row => row.nodeId == nodeId && row.networkId == networkId

/-- The endpoints that are stored of a node that is present. -/
def stored (p : DbState) (networkId nodeId : String) : Option (List NodeEndpoint) :=
  if p.present networkId nodeId then some (p.listNodeEndpoints nodeId networkId) else none

end DbState

/-- The database, the fan-outs on the way and the events that were sent, the last one first. -/
structure FanoutWorld where
  db : DbState
  fanouts : List Fanout
  events : List RevisedEvent

inductive FanoutMove where
  /-- Whatever is asked that starts no fan-out. -/
  | perform (a : Action)
  | nodeHello (now : Int) (session : WsSession) (hello : NodeHello)
  | endpointReport (now : Int) (session : WsSession) (report : EndpointReport)
    (endpointId : Nat → String)
  | disconnectNotice (now : Int) (session : WsSession) (notice : DisconnectNotice)
  | close (session : WsSession)
  | readPeer (now : Int) (i : Nat)
  | draw (i : Nat) (reply : CounterReply)
  | networkRestart (networkId : String) (reply : CounterReply)

namespace FanoutWorld

variable (relays : Relays) (sameName : String → String → Bool)

def start : FanoutWorld := ⟨.start, [], []⟩

def starting (w : FanoutWorld) (db : DbState) (fanout : Fanout) : FanoutWorld :=
  { w with db, fanouts := fanout :: w.fanouts }

/-- The handler of a hello whose answers could be sent. -/
def handleNodeHello (w : FanoutWorld) (now : Int) (session : WsSession) (hello : NodeHello) :
    FanoutWorld :=
  match w.db.handshake relays now hello with
  | (.error _, db) => { w with db }
  | (.ok (_, networkMap), db) =>
    w.starting db (.peerUpdate
      { userId := firstNonEmpty [hello.userId, networkMap.selfUserId]
        deviceId := firstNonEmpty [hello.deviceId, session.deviceId]
        nodeId := hello.nodeId
        networkId := hello.networkId })

def handleEndpointReport (w : FanoutWorld) (now : Int) (session : WsSession)
    (report : EndpointReport) (endpointId : Nat → String) : FanoutWorld :=
  if session.authorized = false then w
  else
    let report := { report with
      nodeId := firstNonEmpty [report.nodeId, session.nodeId]
      networkId := firstNonEmpty [report.networkId, session.networkId] }
    match w.db.reportEndpoints relays now session.userId report endpointId with
    | (.error _, db) => { w with db }
    | (.ok _, db) => w.starting db (.peerUpdate session)

def handleDisconnectNotice (w : FanoutWorld) (now : Int) (session : WsSession)
    (notice : DisconnectNotice) : FanoutWorld :=
  if session.authorized = false then w
  else
    let notice := { notice with networkId := firstNonEmpty [notice.networkId, session.networkId] }
    match w.db.disconnect now session.userId session.nodeId notice with
    | (.error _, db) => { w with db }
    | (.ok _, db) => w.starting db (.peerRemove session.networkId session.nodeId)

/-- What is deferred to the end of a connection. -/
def closeConnection (w : FanoutWorld) (session : WsSession) : FanoutWorld :=
  let (_, db) := w.db.closeSession session.userId session.nodeId session.networkId
  w.starting db (.peerRemove session.networkId session.nodeId)

/-- The snapshot that a node's own session asks for. -/
def ownSnapshot (p : DbState) (now : Int) (session : WsSession) :
    Except Networks.Failure Peer × DbState :=
  p.peerSnapshot relays now session.userId session.nodeId session.networkId session.nodeId

/-- A fan-out whose snapshot fails ends. -/
def readPeer (w : FanoutWorld) (now : Int) (i : Nat) (session : WsSession) : FanoutWorld :=
  let fanouts := w.fanouts.eraseIdx i
  match ownSnapshot relays w.db now session with
  | (.error _, db) => { w with db, fanouts }
  | (.ok peer, db) => { w with db, fanouts := .snapshot session peer :: fanouts }

def publish (w : FanoutWorld) (networkId : String) (reply : CounterReply) (notice : Notice) :
    FanoutWorld :=
  let (revision, db) := w.db.nextRevision networkId reply
  { w with db, events := ⟨networkId, revision, notice⟩ :: w.events }

def ending (w : FanoutWorld) (i : Nat) : FanoutWorld := { w with fanouts := w.fanouts.eraseIdx i }

def step (w : FanoutWorld) : FanoutMove → Option FanoutWorld
  | .perform a => some { w with db := w.db.after relays sameName a }
  | .nodeHello now session hello => some (w.handleNodeHello relays now session hello)
  | .endpointReport now session report endpointId =>
    some (w.handleEndpointReport relays now session report endpointId)
  | .disconnectNotice now session notice => some (w.handleDisconnectNotice now session notice)
  | .close session => some (w.closeConnection session)
  | .readPeer now i =>
    match w.fanouts[i]? with
    | some (.peerUpdate session) => some (w.readPeer relays now i session)
    | _ => none
  | .draw i reply =>
    match w.fanouts[i]? with
    | some (.snapshot session peer) =>
      some ((w.ending i).publish session.networkId reply (.peerUpdate peer))
    | some (.peerRemove networkId sourceNodeId) =>
      some ((w.ending i).publish networkId reply (.peerRemove sourceNodeId))
    | _ => none
  | .networkRestart networkId reply => some (w.publish networkId reply .networkRestartRequired)

end FanoutWorld

/-! ## What the calls leave as it is -/

namespace DbState

variable {relays : Relays} {now : Int}

theorem revisions_networkPeerDto (p : DbState) (selfNodeId networkId : String)
    (record : Control.Node) :
    (p.networkPeerDto relays now selfNodeId networkId record).2.revisions = p.revisions := by
  unfold networkPeerDto
  split
  · rfl
  split
  · rfl
  split
  · rfl
  split <;> rfl

theorem revisions_peersOf (p : DbState) (selfNodeId networkId : String)
    (records : List Control.Node) :
    (p.peersOf relays now selfNodeId networkId records).2.revisions = p.revisions := by
  induction records generalizing p with
  | nil => rfl
  | cons record records ih =>
    unfold peersOf
    dsimp only
    rw [ih, revisions_networkPeerDto]

theorem revisions_buildNetworkMap (p : DbState) (userId : String) (self : Control.Node)
    (networkId : String) :
    (p.buildNetworkMap relays now userId self networkId).2.revisions = p.revisions :=
  revisions_peersOf p self.nodeId networkId _

theorem revisions_networkMap (p : DbState) (userId nodeId networkId : String) :
    (p.networkMap relays now userId nodeId networkId).2.revisions = p.revisions := by
  unfold networkMap
  split
  · rfl
  · exact p.revisions_buildNetworkMap userId _ networkId

theorem revisions_handshake (p : DbState) (hello : NodeHello) :
    (p.handshake relays now hello).2.revisions = p.revisions := by
  unfold handshake
  split
  · rfl
  split
  · rfl
  split
  · rfl
  split
  · rfl
  split
  · rfl
  split
  · rfl
  · dsimp only
    rw [revisions_networkMap]
    unfold touchControlSessionByToken
    split <;> rfl

theorem revisions_reportEndpoints (p : DbState) (userId : String) (report : EndpointReport)
    (endpointId : Nat → String) :
    (p.reportEndpoints relays now userId report endpointId).2.revisions = p.revisions := by
  unfold reportEndpoints
  split
  · rfl
  split
  · rfl
  split
  · rfl
  · dsimp only
    rw [revisions_buildNetworkMap]
    rfl

theorem revisions_disconnect (p : DbState) (userId nodeId : String) (notice : DisconnectNotice) :
    (p.disconnect now userId nodeId notice).2.revisions = p.revisions := by
  unfold disconnect
  split
  · rfl
  split <;> rfl

theorem revisions_closeSession (p : DbState) (userId nodeId networkId : String) :
    (p.closeSession userId nodeId networkId).2.revisions = p.revisions := by
  unfold closeSession
  split
  · rfl
  split
  · split <;> rfl
  · rfl

theorem revisions_request (sameName : String → String → Bool) (p : DbState)
    (r : Networks.Request) : (p.request sameName r).revisions = p.revisions := by
  unfold request
  dsimp only
  split
  · rfl
  · unfold keepToken
    split <;> rfl

theorem revisions_createControlSession (p : DbState) (fresh : Control.FreshSession)
    (userId nodeId networkId : String) :
    (p.createControlSession now fresh userId nodeId networkId).2.revisions = p.revisions := by
  unfold createControlSession
  split <;> rfl

theorem revisions_reportConnectionState (p : DbState) (userId nodeId : String)
    (report : ConnectionState) :
    (p.reportConnectionState now userId nodeId report).2.revisions = p.revisions := by
  unfold reportConnectionState
  repeat' split
  all_goals rfl

theorem revisions_heartbeat (p : DbState) (userId nodeId networkId : String) :
    (p.heartbeat now userId nodeId networkId).2.revisions = p.revisions := by
  unfold heartbeat
  split
  · rfl
  split
  · rfl
  · unfold touchControlSessionByNode
    split <;> rfl

/-- Revisions are drawn for events alone. -/
theorem revisions_after (sameName : String → String → Bool) (p : DbState) (a : Action) :
    (p.after relays sameName a).revisions = p.revisions := by
  cases a with
  | request r => exact p.revisions_request sameName r
  | createControlSession now fresh userId nodeId networkId =>
    exact p.revisions_createControlSession fresh userId nodeId networkId
  | handshake now hello => exact p.revisions_handshake hello
  | networkMap now userId nodeId networkId => exact p.revisions_networkMap userId nodeId networkId
  | reportEndpoints now userId report endpointId =>
    exact p.revisions_reportEndpoints userId report endpointId
  | reportConnectionState now userId nodeId report =>
    exact p.revisions_reportConnectionState userId nodeId report
  | disconnect now userId nodeId notice => exact p.revisions_disconnect userId nodeId notice
  | heartbeat now userId nodeId networkId => exact p.revisions_heartbeat userId nodeId networkId
  | closeSession userId nodeId networkId => exact p.revisions_closeSession userId nodeId networkId
  | cleanup now => rfl

/-! ## Who is present once a node has spoken -/

/-- Nobody goes: the same nodes and members, online who was, and no session fewer. -/
structure Rises (p q : DbState) : Prop where
  nodes : q.store.nodes = p.store.nodes
  members : q.store.members = p.store.members
  online : ∀ deviceId,
    (p.store.deviceById deviceId).any (fun device => device.status == "online") = true →
    (q.store.deviceById deviceId).any (fun device => device.status == "online") = true
  sessions : ∀ row ∈ p.store.controlSessions, ∃ row' ∈ q.store.controlSessions,
    row'.nodeId = row.nodeId ∧ row'.networkId = row.networkId

namespace Rises

variable {p q r : DbState}

theorem of_store (h : q.store = p.store) : Rises p q := by
  refine ⟨by rw [h], by rw [h], fun deviceId hon => ?_, fun row hrow => ⟨row, ?_, rfl, rfl⟩⟩
  · rw [h]
    exact hon
  · rw [h]
    exact hrow

theorem trans (h : Rises p q) (h' : Rises q r) : Rises p r where
  nodes := h'.nodes.trans h.nodes
  members := h'.members.trans h.members
  online deviceId hon := h'.online deviceId (h.online deviceId hon)
  sessions row hrow := by
    obtain ⟨row', hrow', hnode, hnetwork⟩ := h.sessions row hrow
    obtain ⟨last, hlast, hnode', hnetwork'⟩ := h'.sessions row' hrow'
    exact ⟨last, hlast, hnode'.trans hnode, hnetwork'.trans hnetwork⟩

theorem present (h : Rises p q) {networkId nodeId : String}
    (hpresent : p.present networkId nodeId = true) : q.present networkId nodeId = true := by
  unfold DbState.present Store.nodeById Store.memberByNetworkDevice at hpresent ⊢
  rw [h.nodes, h.members]
  obtain ⟨record, hrecord, hall⟩ := (Option.any_eq_true _ _).mp hpresent
  rw [Bool.and_eq_true, Bool.and_eq_true] at hall
  obtain ⟨⟨hmember, honline⟩, hsession⟩ := hall
  obtain ⟨row, hrow, hof⟩ := List.any_eq_true.mp hsession
  obtain ⟨row', hrow', hnode, hnetwork⟩ := h.sessions row hrow
  apply (Option.any_eq_true _ _).mpr
  refine ⟨record, hrecord, ?_⟩
  rw [Bool.and_eq_true, Bool.and_eq_true]
  refine ⟨⟨hmember, h.online record.deviceId honline⟩, List.any_eq_true.mpr ⟨row', hrow', ?_⟩⟩
  rw [hnode, hnetwork]
  exact hof

/-- Of whom nothing is stored now, nothing was stored before. -/
theorem stored_eq_none (h : Rises p q) {networkId nodeId : String}
    (hnone : q.stored networkId nodeId = none) : p.stored networkId nodeId = none := by
  unfold stored at hnone ⊢
  split at hnone
  · cases hnone
  · rename_i habsent
    exact if_neg fun hpresent => habsent (h.present hpresent)

end Rises

theorem rises_touch (p : DbState) (sessionToken : String) :
    Rises p (p.touchControlSessionByToken sessionToken now) := by
  unfold touchControlSessionByToken
  split
  · exact .of_store rfl
  · refine ⟨rfl, rfl, fun _ => id, fun row hrow => ?_⟩
    refine ⟨_, List.mem_map_of_mem hrow, ?_⟩
    split <;> exact ⟨rfl, rfl⟩

theorem deviceById_updateDeviceStatus (p : DbState) (deviceId status other : String) :
    (p.updateDeviceStatus deviceId status).store.deviceById other =
      (p.store.deviceById other).map fun row =>
        if row.deviceId = deviceId then { row with status } else row := by
  change List.find? _ (List.map _ _) = _
  rw [List.find?_map]
  apply congrArg (Option.map _)
  apply congrArg (List.find? · p.store.devices.rows)
  funext row
  dsimp only [Function.comp]
  split <;> rfl

theorem rises_online (p : DbState) (deviceId : String) :
    Rises p (p.updateDeviceStatus deviceId "online") := by
  refine ⟨rfl, rfl, fun other hon => ?_, fun row hrow => ⟨row, hrow, rfl, rfl⟩⟩
  rw [deviceById_updateDeviceStatus]
  obtain ⟨device, hdevice, honline⟩ := (Option.any_eq_true _ _).mp hon
  rw [hdevice, Option.map_some, Option.any_some]
  split
  · rfl
  · exact honline

theorem rises_handshake (p : DbState) (hello : NodeHello) :
    Rises p (p.handshake relays now hello).2 := by
  unfold handshake
  split
  · exact .of_store rfl
  split
  · exact .of_store rfl
  split
  · exact .of_store rfl
  split
  · exact .of_store rfl
  split
  · exact .of_store rfl
  split
  · exact .of_store rfl
  · apply ((p.rises_touch hello.sessionToken).trans (rises_online _ _)).trans
    exact .of_store (store_networkMap _ _ _ _)

theorem rises_reportEndpoints (p : DbState) (userId : String) (report : EndpointReport)
    (endpointId : Nat → String) :
    Rises p (p.reportEndpoints relays now userId report endpointId).2 := by
  unfold reportEndpoints
  split
  · exact .of_store rfl
  split
  · exact .of_store rfl
  split
  · exact .of_store rfl
  · rename_i node _ _
    have hreplaced : Rises p (p.replaceNodeEndpoints node.nodeId report.networkId
        (reportedEndpoints now report node.nodeId endpointId)) := .of_store rfl
    apply (hreplaced.trans (rises_online _ node.deviceId)).trans
    exact .of_store (store_buildNetworkMap _ userId node _)

/-! ## Snapshots -/

/-- Reading a node changes at most what is stored of it. -/
theorem stored_endpointsForNodeInNetwork (p : DbState)
    {nodeId networkId nodeId' networkId' : String}
    (h : ¬(networkId' = networkId ∧ nodeId' = nodeId)) :
    (p.endpointsForNodeInNetwork relays now nodeId networkId).2.stored networkId' nodeId' =
      p.stored networkId' nodeId' := by
  have hrows : (p.endpointsForNodeInNetwork relays now nodeId networkId).2.listNodeEndpoints nodeId'
      networkId' = p.listNodeEndpoints nodeId' networkId' := by
    unfold endpointsForNodeInNetwork deleteNodeEndpointsBefore listNodeEndpoints
    dsimp only
    rw [List.filter_filter]
    congr 1
    apply List.filter_congr
    intro row _
    cases hof : row.nodeId == nodeId' && row.networkId == networkId' with
    | false => rfl
    | true =>
      obtain ⟨hnode, hnetwork⟩ := Bool.and_eq_true_iff.mp hof
      have hother : (row.nodeId == nodeId && row.networkId == networkId) = false := by
        rw [beq_iff_eq.mp hnode, beq_iff_eq.mp hnetwork, ← Bool.not_eq_true, Bool.and_eq_true,
          beq_iff_eq, beq_iff_eq]
        exact fun hsame => h ⟨hsame.2, hsame.1⟩
      rw [hother]
      rfl
  unfold stored
  rw [hrows]
  rfl

end DbState

end Slan.Maps
