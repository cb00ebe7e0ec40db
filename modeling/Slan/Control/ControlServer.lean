import Mathlib.Logic.Function.Basic
import Slan.Lib.Transition
import Slan.Control.ControlSessions

/-! # `control_ws.go`: the connections of the control channel and their hub -/

namespace Slan.Control

/-- What a connection has authenticated as, empty before its first `node_hello`. -/
structure WsSession where
  userId : String
  deviceId : String
  nodeId : String
  networkId : String
  deriving DecidableEq, Repr

def WsSession.authorized (session : WsSession) : Bool :=
  session.userId != "" && session.nodeId != "" && session.networkId != ""

structure ControlWSSession where
  connection : Nat
  session : WsSession
  deriving DecidableEq, Repr

abbrev ControlWSHub := Table ControlWSSession

namespace ControlWSHub

def register (hub : ControlWSHub) (entry : ControlWSSession) : ControlWSHub :=
  hub.put entry.session.nodeId entry

def unregister (hub : ControlWSHub) (nodeId : String) : ControlWSHub :=
  if nodeId = "" then hub else hub.remove nodeId

def session (hub : ControlWSHub) (nodeId : String) : Option ControlWSSession := hub.get? nodeId

theorem session_register (hub : ControlWSHub) (entry : ControlWSSession) (nodeId : String) :
    (hub.register entry).session nodeId =
      if nodeId = entry.session.nodeId then some entry else hub.session nodeId :=
  Table.get?_put hub _ _ _

theorem session_unregister (hub : ControlWSHub) (nodeId nodeId' : String) :
    (hub.unregister nodeId).session nodeId' =
      if nodeId ≠ "" ∧ nodeId' = nodeId then none else hub.session nodeId' := by
  unfold unregister session
  by_cases hempty : nodeId = ""
  · simp [hempty]
  · rw [if_neg hempty, Table.get?_remove]
    simp [hempty]

end ControlWSHub

/-- One process of the server and the database. Of a closed connection nothing is left. -/
structure ControlServer where
  now : Int
  db : Database
  connections : Nat → Option WsSession
  nextConnection : Nat
  hub : ControlWSHub
  /-- Which connection registered which node, the last one first. -/
  registrations : List (Nat × String)

inductive ControlAction where
  | tick (now : Int)
  | createSession (fresh : FreshSession) (userId nodeId networkId : String)
  | enterNetwork (userId networkId deviceId : String)
  /-- Any other change of users' data. -/
  | administer (directory : Directory)
  | cleanup
  | dropEndpoints (nodeId networkId : String)
  | reportStates (states : List NodeConnectionState)
  | open (deviceId : String)
  | nodeHello (c : Nat) (hello : NodeHello)
  | networkMapRequest (c : Nat) (networkId : String)
  | endpointReport (c : Nat) (report : EndpointReport) (endpointId : Nat → String)
  /-- A message of another kind. -/
  | message (c : Nat)
  | close (c : Nat)

namespace ControlServer

def start (now : Int) (directory : Directory) : ControlServer where
  now := now
  db := ⟨directory, [], [], [], ∅⟩
  connections _ := none
  nextConnection := 0
  hub := ∅
  registrations := []

def setSession (s : ControlServer) (c : Nat) (session : Option WsSession) : ControlServer :=
  { s with connections := Function.update s.connections c session }

def handleNodeHello (s : ControlServer) (c : Nat) (session : WsSession) (hello : NodeHello) :
    ControlServer :=
  match s.db.handshake s.now hello with
  | (.error _, db) => { s with db }
  | (.ok (_, networkMap), db) =>
    let session : WsSession :=
      { userId := firstNonEmpty [hello.userId, networkMap.selfUserId]
        deviceId := firstNonEmpty [hello.deviceId, session.deviceId]
        nodeId := hello.nodeId
        networkId := hello.networkId }
    { s.setSession c (some session) with
      db
      hub := s.hub.register ⟨c, session⟩
      registrations := (c, session.nodeId) :: s.registrations }

def heartbeat (s : ControlServer) (session : WsSession) : ControlServer :=
  if session.authorized then
    { s with db := (s.db.heartbeat s.now session.userId session.nodeId session.networkId).2 }
  else s

def handleNetworkMapRequest (s : ControlServer) (c : Nat) (session : WsSession)
    (requested : String) : ControlServer :=
  let s := s.heartbeat session
  if session.authorized = false then s
  else
    let networkId := if requested ≠ "" then requested else session.networkId
    match s.db.networkMap session.userId session.nodeId networkId with
    | .error _ => s
    | .ok _ => s.setSession c (some { session with networkId })

def handleEndpointReport (s : ControlServer) (session : WsSession) (report : EndpointReport)
    (endpointId : Nat → String) : ControlServer :=
  let s := s.heartbeat session
  if session.authorized = false then s
  else
    let report := { report with
      nodeId := firstNonEmpty [report.nodeId, session.nodeId]
      networkId := firstNonEmpty [report.networkId, session.networkId] }
    { s with db := (s.db.reportEndpoints s.now session.userId report endpointId).2 }

/-- The deferred cleanup of a connection. -/
def closeConnection (s : ControlServer) (c : Nat) (session : WsSession) : ControlServer :=
  { s.setSession c none with
    hub := s.hub.unregister session.nodeId
    db := (s.db.closeSession session.userId session.nodeId session.networkId).2 }

/-- Building a network map drops the stale endpoints of its peers: `dropEndpoints`. -/
def step (s : ControlServer) : ControlAction → Option ControlServer
  | .tick now => if s.now ≤ now then some { s with now } else none
  | .createSession fresh userId nodeId networkId =>
    if s.db.tokens.get? fresh.sessionToken = none then
      some { s with db := (s.db.createControlSession s.now fresh userId nodeId networkId).2 }
    else none
  | .enterNetwork userId networkId deviceId =>
    some { s with db := s.db.ensureActiveMemberForNetwork userId networkId deviceId }
  | .administer directory => some { s with db := { s.db with directory } }
  | .cleanup => some { s with db := s.db.cleanupExpiredControlPlaneState s.now }
  | .dropEndpoints nodeId networkId =>
    some { s with db := s.db.deleteNodeEndpoints fun row =>
      row.nodeId == nodeId && row.networkId == networkId &&
        row.updatedAt < s.now - nodeEndpointFreshnessWindow }
  | .reportStates states => some { s with db := { s.db with connectionStates := states } }
  | .open deviceId =>
    some { s.setSession s.nextConnection (some ⟨"", deviceId, "", ""⟩) with
      nextConnection := s.nextConnection + 1 }
  | .nodeHello c hello => (s.connections c).map fun session => s.handleNodeHello c session hello
  | .networkMapRequest c networkId =>
    (s.connections c).map fun session => s.handleNetworkMapRequest c session networkId
  | .endpointReport c report endpointId =>
    (s.connections c).map fun session => s.handleEndpointReport session report endpointId
  | .message c => (s.connections c).map fun session => s.heartbeat session
  | .close c => (s.connections c).map fun session => s.closeConnection c session

end ControlServer

end Slan.Control
