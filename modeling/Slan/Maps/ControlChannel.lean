import Slan.Networks.Operations
import Slan.Maps.PeerSnapshot

/-! # `control.go`, `control_bootstrap.go`: the control channel

A call gives its answer and the state after it. The state is the one that the networks are kept in.
-/

namespace Slan.Maps

open Control (ControlSession EndpointReport FreshSession NodeConnectionState NodeEndpoint NodeHello
  ServiceError StoredToken)
open Networks (Failure Store)

structure NodeHelloAck where
  controlSessionId : String
  heartbeatSeconds : Nat
  networkRevision : Nat
  deriving DecidableEq, Repr

/-- What a client reports of its way to a peer. -/
structure ConnectionState where
  networkId : String
  peerNodeId : String
  path : String
  state : String
  reason : String
  deriving DecidableEq, Repr

structure DisconnectNotice where
  networkId : String
  peerNodeId : String
  reason : String
  deriving DecidableEq, Repr

/-! ## Statements -/

def updateDeviceStatus (s : Store) (deviceId status : String) : Store :=
  let devices := s.devices.alter
    (fun row => if row.deviceId = deviceId then { row with status } else row)
    fun a b => by
      unfold Networks.Device.Clash
      split <;> split <;> rfl
  { s with devices }

namespace DbState

/-- A state but for the store. -/
def withStore (p : DbState) (store : Store) : DbState := { p with store }

def updateDeviceStatus (p : DbState) (deviceId status : String) : DbState :=
  p.withStore (Maps.updateDeviceStatus p.store deviceId status)

def getControlSessionByToken (p : DbState) (sessionToken : String) : Option ControlSession :=
  p.store.controlSessions.find? fun row => row.sessionToken == sessionToken

def touchWhere (p : DbState) (chosen : ControlSession → Bool) (lastSeenAt : Int) : DbState :=
  let controlSessions := p.store.controlSessions.map fun row =>
    if chosen row then { row with lastSeenAt } else row
  p.withStore { p.store with controlSessions }

def deleteControlSessions (p : DbState) (chosen : ControlSession → Bool) : DbState :=
  let controlSessions := p.store.controlSessions.filter fun row => !chosen row
  p.withStore { p.store with controlSessions }

def deleteNodeEndpoints (p : DbState) (chosen : NodeEndpoint → Bool) : DbState :=
  { p with endpoints := p.endpoints.filter fun row => !chosen row }

def deleteNodeConnectionStates (p : DbState) (chosen : NodeConnectionState → Bool) : DbState :=
  { p with connectionStates := p.connectionStates.filter fun row => !chosen row }

/-- A network, a node and a peer have one row. -/
def upsertNodeConnectionState (p : DbState) (record : NodeConnectionState) : DbState :=
  let others := p.connectionStates.filter fun row =>
    !(row.networkId == record.networkId && row.nodeId == record.nodeId &&
      row.peerNodeId == record.peerNodeId)
  { p with connectionStates := others ++ [record] }

def touchControlSessionByToken (p : DbState) (sessionToken : String) (now : Int) : DbState :=
  if sessionToken = "" then p else p.touchWhere (fun row => row.sessionToken == sessionToken) now

def touchControlSessionByNode (p : DbState) (nodeId networkId : String) (now : Int) : DbState :=
  if nodeId = "" ∨ networkId = "" then p
  else p.touchWhere (fun row => row.nodeId == nodeId && row.networkId == networkId) now

def authenticateControlSessionToken (p : DbState) (now : Int) (token : String) : Option String :=
  match p.tokens.get? token with
  | none => none
  | some stored => if now < stored.expiresAt then some stored.userId else none

/-! ## Calls of a connection -/

variable (relays : Relays) (now : Int)

def handshake (p : DbState) (hello : NodeHello) :
    Except Failure (NodeHelloAck × NetworkMap) × DbState :=
  if Text.isBlank hello.sessionToken ∨ Text.isBlank hello.nodeId ∨ Text.isBlank hello.networkId then
    (.error (.service (.wrap .invalidArgument "sessionToken, nodeId, and networkId are required")), p)
  else
    match p.authenticateControlSessionToken now hello.sessionToken with
    | none => (.error (.service .unauthorized), p)
    | some userId =>
      if hello.userId ≠ "" ∧ hello.userId ≠ userId then (.error (.service .forbidden), p)
      else
        match p.getControlSessionByToken hello.sessionToken with
        | none => (.error (.service .unauthorized), p)
        | some session =>
          if session.userId ≠ userId ∨ session.nodeId ≠ hello.nodeId ∨
              session.networkId ≠ hello.networkId then (.error (.service .forbidden), p)
          else if hello.deviceId ≠ "" ∧ session.deviceId ≠ hello.deviceId then
            (.error (.service .forbidden), p)
          else
            let p := p.touchControlSessionByToken hello.sessionToken now
            let p := p.updateDeviceStatus session.deviceId "online"
            let (answer, p) := p.networkMap relays now userId hello.nodeId hello.networkId
            (answer.map fun map =>
              (⟨session.controlSessionId, map.heartbeatSeconds, map.revision⟩, map), p)

/-- The rows of a report, `endpointId` being `NewID` for the place in the list. -/
def reportedEndpoints (report : EndpointReport) (nodeId : String) (endpointId : Nat → String) :
    List NodeEndpoint :=
  report.endpoints.mapIdx fun i endpoint =>
    ⟨endpointId i, nodeId, report.networkId, report.natType, endpoint.type, endpoint.address,
      Control.autoUpdateTime now endpoint.updatedAt⟩

def replaceNodeEndpoints (p : DbState) (nodeId networkId : String) (rows : List NodeEndpoint) :
    DbState :=
  let kept := p.deleteNodeEndpoints fun row => row.nodeId == nodeId && row.networkId == networkId
  { kept with endpoints := kept.endpoints ++ rows }

def reportEndpoints (p : DbState) (userId : String) (report : EndpointReport)
    (endpointId : Nat → String) : Except Failure NetworkMap × DbState :=
  if Text.isBlank report.nodeId ∨ Text.isBlank report.networkId then
    (.error (.service (.wrap .invalidArgument "nodeId and networkId are required")), p)
  else
    match p.requireNodeSession userId report.nodeId report.networkId with
    | .error err => (.error err, p)
    | .ok node =>
      if report.endpoints.any fun e => Text.isBlank e.type || Text.isBlank e.address then
        (.error (.service (.wrap .invalidArgument "endpoint type and address are required")), p)
      else
        let p := p.replaceNodeEndpoints node.nodeId report.networkId
          (reportedEndpoints now report node.nodeId endpointId)
        let p := p.updateDeviceStatus node.deviceId "online"
        let (map, p) := p.buildNetworkMap relays now userId node report.networkId
        (.ok map, p)

def reportConnectionState (p : DbState) (userId nodeId : String) (report : ConnectionState) :
    Except Failure Unit × DbState :=
  if Text.isBlank report.networkId ∨ Text.isBlank report.peerNodeId ∨ Text.isBlank report.state then
    (.error (.service (.wrap .invalidArgument "networkId, peerNodeId, and state are required")), p)
  else
    match p.requireNodeSession userId nodeId report.networkId with
    | .error err => (.error err, p)
    | .ok source =>
      match p.store.nodeById report.peerNodeId with
      | none => (.error (.service .notFound), p)
      | some peer =>
        match p.store.memberByNetworkDevice report.networkId peer.deviceId with
        | none => (.error (.service .forbidden), p)
        | some _ =>
          (.ok (), p.upsertNodeConnectionState ⟨report.networkId, source.nodeId, report.peerNodeId,
            report.path, report.state, report.reason, now⟩)

/-- The device is offline with it, whatever other nodes it has. -/
def disconnect (p : DbState) (userId nodeId : String) (notice : DisconnectNotice) :
    Except Failure Unit × DbState :=
  if Text.isBlank nodeId ∨ Text.isBlank notice.networkId ∨ Text.isBlank notice.peerNodeId then
    (.error (.service (.wrap .invalidArgument "nodeId, networkId, and peerNodeId are required")), p)
  else
    match p.requireNodeSession userId nodeId notice.networkId with
    | .error err => (.error err, p)
    | .ok node =>
      let p := p.upsertNodeConnectionState ⟨notice.networkId, nodeId, notice.peerNodeId,
        "disconnect", "closed", notice.reason, now⟩
      (.ok (), p.updateDeviceStatus node.deviceId "offline")

def heartbeat (p : DbState) (userId nodeId networkId : String) : Except Failure Unit × DbState :=
  if Text.isBlank userId ∨ Text.isBlank nodeId ∨ Text.isBlank networkId then
    (.error (.service .unauthorized), p)
  else
    match p.requireNodeSession userId nodeId networkId with
    | .error err => (.error err, p)
    | .ok _ => (.ok (), p.touchControlSessionByNode nodeId networkId now)

def closeSession (p : DbState) (userId nodeId networkId : String) :
    Except Failure Unit × DbState :=
  if Text.isBlank userId ∨ Text.isBlank nodeId ∨ Text.isBlank networkId then (.ok (), p)
  else
    match p.requireNodeSession userId nodeId networkId with
    | .error err =>
      if err = .service .forbidden ∨ err = .service .notFound then (.ok (), p) else (.error err, p)
    | .ok node =>
      let p := p.deleteNodeEndpoints fun row => row.nodeId == nodeId && row.networkId == networkId
      let p := p.deleteNodeConnectionStates fun row =>
        (row.nodeId == nodeId || row.peerNodeId == nodeId) && row.networkId == networkId
      let p := p.deleteControlSessions fun row => row.nodeId == nodeId && row.networkId == networkId
      (.ok (), p.updateDeviceStatus node.deviceId "offline")

/-- One pass of the cleanup loop. -/
def cleanupExpiredControlPlaneState (p : DbState) : DbState :=
  let p := p.deleteControlSessions fun row =>
    row.lastSeenAt < now - Control.controlSessionFreshnessWindow
  let p := p.deleteNodeEndpoints fun row =>
    row.updatedAt < now - Control.nodeEndpointFreshnessWindow
  p.deleteNodeConnectionStates fun row =>
    row.updatedAt < now - Control.nodeConnectionStateFreshnessWindow

/-! ## Sessions, and what is asked of the networks -/

def storeControlSessionToken (p : DbState) (token userId : String) : DbState :=
  { p with tokens := p.tokens.put token ⟨userId, now + Control.controlSessionTokenTtl⟩ }

def createStoredControlSession (p : DbState) (fresh : FreshSession)
    (userId deviceId nodeId networkId : String) : DbState :=
  let controlSessions := p.store.controlSessions ++
    [⟨fresh.controlSessionId, userId, deviceId, nodeId, networkId, fresh.sessionToken, now, now⟩]
  (p.withStore { p.store with controlSessions }).storeControlSessionToken now fresh.sessionToken
    userId

/-- `CreateControlSession`; the map that it answers with is the one of `networkMap`. -/
def createControlSession (p : DbState) (fresh : FreshSession) (userId nodeId networkId : String) :
    Except Failure Unit × DbState :=
  match p.requireNodeSession userId nodeId networkId with
  | .error err => (.error err, p)
  | .ok node => (.ok (), p.createStoredControlSession now fresh userId node.deviceId nodeId networkId)

/-- A bootstrap that succeeds has stored its token too. -/
def keepToken (p : DbState) (r : Networks.Request) : DbState :=
  match r.operation with
  | .bootstrap session userId _ _ =>
    p.storeControlSessionToken r.fresh.now session.sessionToken userId
  | _ => p

def request (sameName : String → String → Bool) (p : DbState) (r : Networks.Request) : DbState :=
  let (result, store) := (r.call sameName).run p.store
  match result with
  | .error _ => p.withStore store
  | .ok _ => (p.withStore store).keepToken r

end DbState

/-! ## Whole runs -/

/-- What the control plane is asked, at any time. -/
inductive Action where
  | request (r : Networks.Request)
  | createControlSession (now : Int) (fresh : FreshSession) (userId nodeId networkId : String)
  | handshake (now : Int) (hello : NodeHello)
  | networkMap (now : Int) (userId nodeId networkId : String)
  | reportEndpoints (now : Int) (userId : String) (report : EndpointReport)
    (endpointId : Nat → String)
  | reportConnectionState (now : Int) (userId nodeId : String) (report : ConnectionState)
  | disconnect (now : Int) (userId nodeId : String) (notice : DisconnectNotice)
  | heartbeat (now : Int) (userId nodeId networkId : String)
  | closeSession (userId nodeId networkId : String)
  | cleanup (now : Int)

namespace DbState

def start : DbState := ⟨∅, [], [], ∅, ∅⟩

/-- The state after an action, whatever it answers. -/
def after (relays : Relays) (sameName : String → String → Bool) (p : DbState) : Action → DbState
  | .request r => p.request sameName r
  | .createControlSession now fresh userId nodeId networkId =>
    (p.createControlSession now fresh userId nodeId networkId).2
  | .handshake now hello => (p.handshake relays now hello).2
  | .networkMap now userId nodeId networkId => (p.networkMap relays now userId nodeId networkId).2
  | .reportEndpoints now userId report endpointId =>
    (p.reportEndpoints relays now userId report endpointId).2
  | .reportConnectionState now userId nodeId report =>
    (p.reportConnectionState now userId nodeId report).2
  | .disconnect now userId nodeId notice => (p.disconnect now userId nodeId notice).2
  | .heartbeat now userId nodeId networkId => (p.heartbeat now userId nodeId networkId).2
  | .closeSession userId nodeId networkId => (p.closeSession userId nodeId networkId).2
  | .cleanup now => p.cleanupExpiredControlPlaneState now

def step (relays : Relays) (sameName : String → String → Bool) (p : DbState) (a : Action) :
    Option DbState :=
  some (p.after relays sameName a)

end DbState

/-! ## What the calls of a connection leave as it is -/

/-- The same users, networks, subnets, members, attachments and nodes. -/
structure SameNetworks (s t : Store) : Prop where
  users : t.users = s.users
  networks : t.networks = s.networks
  subnets : t.subnets = s.subnets
  members : t.members = s.members
  attachments : t.attachments = s.attachments
  nodes : t.nodes = s.nodes

theorem SameNetworks.refl (s : Store) : SameNetworks s s := ⟨rfl, rfl, rfl, rfl, rfl, rfl⟩

theorem SameNetworks.trans {s t u : Store} (h : SameNetworks s t) (h' : SameNetworks t u) :
    SameNetworks s u where
  users := h'.users.trans h.users
  networks := h'.networks.trans h.networks
  subnets := h'.subnets.trans h.subnets
  members := h'.members.trans h.members
  attachments := h'.attachments.trans h.attachments
  nodes := h'.nodes.trans h.nodes

namespace DbState

variable {relays : Relays} {now : Int}

theorem sameNetworks_updateDeviceStatus (p : DbState) (deviceId status : String) :
    SameNetworks p.store (p.updateDeviceStatus deviceId status).store :=
  ⟨rfl, rfl, rfl, rfl, rfl, rfl⟩

theorem sameNetworks_touchByToken (p : DbState) (sessionToken : String) :
    SameNetworks p.store (p.touchControlSessionByToken sessionToken now).store := by
  unfold touchControlSessionByToken
  split <;> exact ⟨rfl, rfl, rfl, rfl, rfl, rfl⟩

theorem sameNetworks_touchByNode (p : DbState) (nodeId networkId : String) :
    SameNetworks p.store (p.touchControlSessionByNode nodeId networkId now).store := by
  unfold touchControlSessionByNode
  split <;> exact ⟨rfl, rfl, rfl, rfl, rfl, rfl⟩

theorem store_buildNetworkMap (p : DbState) (userId : String) (self : Control.Node)
    (networkId : String) : (p.buildNetworkMap relays now userId self networkId).2.store = p.store :=
  (sameFresh_peersOf p self.nodeId networkId (listNodesByNetwork p.store networkId)).store

theorem store_networkMap (p : DbState) (userId nodeId networkId : String) :
    (p.networkMap relays now userId nodeId networkId).2.store = p.store := by
  unfold networkMap
  split
  · rfl
  · exact p.store_buildNetworkMap userId _ networkId

theorem store_peerSnapshot (p : DbState) (userId nodeId networkId peerNodeId : String) :
    (p.peerSnapshot relays now userId nodeId networkId peerNodeId).2.store = p.store := by
  unfold peerSnapshot
  split
  · rfl
  split
  · rfl
  split
  · rfl
  split
  · rfl
  split
  · rfl
  · rfl

theorem sameNetworks_handshake (p : DbState) (hello : NodeHello) :
    SameNetworks p.store (p.handshake relays now hello).2.store := by
  unfold handshake
  split
  · exact .refl _
  split
  · exact .refl _
  split
  · exact .refl _
  split
  · exact .refl _
  split
  · exact .refl _
  split
  · exact .refl _
  · dsimp only
    rw [store_networkMap]
    exact (p.sameNetworks_touchByToken hello.sessionToken).trans
      (sameNetworks_updateDeviceStatus _ _ _)

theorem sameNetworks_reportEndpoints (p : DbState) (userId : String) (report : EndpointReport)
    (endpointId : Nat → String) :
    SameNetworks p.store (p.reportEndpoints relays now userId report endpointId).2.store := by
  unfold reportEndpoints
  split
  · exact .refl _
  split
  · exact .refl _
  split
  · exact .refl _
  · dsimp only
    rw [store_buildNetworkMap]
    exact sameNetworks_updateDeviceStatus _ _ _

theorem sameNetworks_reportConnectionState (p : DbState) (userId nodeId : String)
    (report : ConnectionState) :
    SameNetworks p.store (p.reportConnectionState now userId nodeId report).2.store := by
  unfold reportConnectionState
  repeat' split
  all_goals exact .refl _

theorem sameNetworks_disconnect (p : DbState) (userId nodeId : String)
    (notice : DisconnectNotice) :
    SameNetworks p.store (p.disconnect now userId nodeId notice).2.store := by
  unfold disconnect
  split
  · exact .refl _
  split
  · exact .refl _
  · exact sameNetworks_updateDeviceStatus _ _ _

theorem sameNetworks_heartbeat (p : DbState) (userId nodeId networkId : String) :
    SameNetworks p.store (p.heartbeat now userId nodeId networkId).2.store := by
  unfold heartbeat
  split
  · exact .refl _
  split
  · exact .refl _
  · exact p.sameNetworks_touchByNode nodeId networkId

theorem sameNetworks_closeSession (p : DbState) (userId nodeId networkId : String) :
    SameNetworks p.store (p.closeSession userId nodeId networkId).2.store := by
  unfold closeSession
  split
  · exact .refl _
  split
  · split <;> exact .refl _
  · exact ⟨rfl, rfl, rfl, rfl, rfl, rfl⟩

theorem sameNetworks_createControlSession (p : DbState) (fresh : FreshSession)
    (userId nodeId networkId : String) :
    SameNetworks p.store (p.createControlSession now fresh userId nodeId networkId).2.store := by
  unfold createControlSession
  split <;> exact ⟨rfl, rfl, rfl, rfl, rfl, rfl⟩

/-- Only the requests change who is in a network. -/
theorem sameNetworks_after (sameName : String → String → Bool) (p : DbState) {a : Action}
    (hother : ∀ r, a ≠ .request r) : SameNetworks p.store (p.after relays sameName a).store := by
  cases a with
  | request r => exact absurd rfl (hother r)
  | createControlSession now fresh userId nodeId networkId =>
    exact p.sameNetworks_createControlSession fresh userId nodeId networkId
  | handshake now hello => exact p.sameNetworks_handshake hello
  | networkMap now userId nodeId networkId =>
    unfold after
    rw [store_networkMap]
    exact .refl _
  | reportEndpoints now userId report endpointId =>
    exact p.sameNetworks_reportEndpoints userId report endpointId
  | reportConnectionState now userId nodeId report =>
    exact p.sameNetworks_reportConnectionState userId nodeId report
  | disconnect now userId nodeId notice => exact p.sameNetworks_disconnect userId nodeId notice
  | heartbeat now userId nodeId networkId => exact p.sameNetworks_heartbeat userId nodeId networkId
  | closeSession userId nodeId networkId => exact p.sameNetworks_closeSession userId nodeId networkId
  | cleanup now => exact ⟨rfl, rfl, rfl, rfl, rfl, rfl⟩

theorem store_request (sameName : String → String → Bool) (p : DbState) (r : Networks.Request) :
    (p.request sameName r).store = r.after sameName p.store := by
  unfold request Networks.Request.after Program.after
  dsimp only
  split
  · rfl
  · unfold keepToken
    split <;> rfl

end DbState

end Slan.Maps
