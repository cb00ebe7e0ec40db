import Slan.Control.RelayTickets

/-! # `control.go`: control sessions and the rows that live and die with them

Times are Unix seconds. A network map is the part of it that the control channel reads itself.
-/

namespace Slan.Control

structure ControlSession where
  controlSessionId : String
  userId : String
  deviceId : String
  nodeId : String
  networkId : String
  sessionToken : String
  connectedAt : Int
  lastSeenAt : Int
  deriving DecidableEq, Repr

structure NodeEndpoint where
  endpointId : String
  nodeId : String
  networkId : String
  natType : String
  type : String
  address : String
  updatedAt : Int
  deriving DecidableEq, Repr

/-- `UpdatedAt` of a row that is created, which is filled in where it is zero. -/
def autoUpdateTime (now updatedAt : Int) : Int := if updatedAt = 0 then now else updatedAt

structure NodeConnectionState where
  networkId : String
  nodeId : String
  peerNodeId : String
  path : String
  state : String
  reason : String
  updatedAt : Int
  deriving DecidableEq, Repr

/-- A token in Redis. -/
structure StoredToken where
  userId : String
  expiresAt : Int
  deriving DecidableEq, Repr

structure Database where
  directory : Directory
  controlSessions : List ControlSession
  endpoints : List NodeEndpoint
  connectionStates : List NodeConnectionState
  tokens : Table StoredToken

structure NetworkMap where
  selfUserId : String
  selfDeviceId : String
  selfNodeId : String
  networkId : String
  heartbeatSeconds : Nat
  deriving DecidableEq, Repr

structure NodeHello where
  userId : String
  deviceId : String
  nodeId : String
  networkId : String
  sessionToken : String
  deriving DecidableEq, Repr

structure NodeHelloAck where
  controlSessionId : String
  heartbeatSeconds : Nat
  deriving DecidableEq, Repr

structure Endpoint where
  type : String
  address : String
  updatedAt : Int
  deriving DecidableEq, Repr

structure EndpointReport where
  networkId : String
  nodeId : String
  natType : String
  endpoints : List Endpoint
  deriving DecidableEq, Repr

def controlSessionFreshnessWindow : Int := 45

def nodeEndpointFreshnessWindow : Int := 120

def nodeConnectionStateFreshnessWindow : Int := 120

def controlSessionTokenTtl : Int := 86400

def defaultControlHeartbeatSeconds : Nat := 15

/-- The random digits of a new session's id and token. -/
structure FreshSession where
  control : String
  token : String
  deriving DecidableEq, Repr

def FreshSession.controlSessionId (fresh : FreshSession) : String := newId "ctrl" fresh.control

def FreshSession.sessionToken (fresh : FreshSession) : String :=
  opaqueToken "control" fresh.controlSessionId fresh.token

namespace Database

/-! ## Statements -/

def updateDeviceStatus (db : Database) (deviceId status : String) : Database :=
  match db.directory.devices.get? deviceId with
  | none => db
  | some device =>
    { db with directory := { db.directory with
        devices := db.directory.devices.put deviceId { device with status } } }

def getControlSessionByToken (db : Database) (sessionToken : String) : Option ControlSession :=
  db.controlSessions.find? fun row => row.sessionToken == sessionToken

def touchWhere (db : Database) (chosen : ControlSession → Bool) (lastSeenAt : Int) : Database :=
  { db with controlSessions := db.controlSessions.map fun row =>
      if chosen row then { row with lastSeenAt } else row }

def deleteControlSessions (db : Database) (chosen : ControlSession → Bool) : Database :=
  { db with controlSessions := db.controlSessions.filter fun row => !chosen row }

def deleteNodeEndpoints (db : Database) (chosen : NodeEndpoint → Bool) : Database :=
  { db with endpoints := db.endpoints.filter fun row => !chosen row }

def deleteNodeConnectionStates (db : Database) (chosen : NodeConnectionState → Bool) : Database :=
  { db with connectionStates := db.connectionStates.filter fun row => !chosen row }

def touchControlSessionByToken (db : Database) (sessionToken : String) (now : Int) : Database :=
  if sessionToken = "" then db else db.touchWhere (fun row => row.sessionToken == sessionToken) now

def touchControlSessionByNode (db : Database) (nodeId networkId : String) (now : Int) : Database :=
  if nodeId = "" ∨ networkId = "" then db
  else db.touchWhere (fun row => row.nodeId == nodeId && row.networkId == networkId) now

def authenticateControlSessionToken (db : Database) (now : Int) (token : String) : Option String :=
  match db.tokens.get? token with
  | none => none
  | some stored => if now < stored.expiresAt then some stored.userId else none

/-! ## The control channel -/

def networkMap (db : Database) (userId nodeId networkId : String) :
    Except ServiceError NetworkMap := do
  let node ← db.directory.requireNodeSession userId nodeId networkId
  return ⟨userId, node.deviceId, node.nodeId, networkId, defaultControlHeartbeatSeconds⟩

/-- The row is touched and the device is online before the last check. -/
def handshake (db : Database) (now : Int) (hello : NodeHello) :
    Except ServiceError (NodeHelloAck × NetworkMap) × Database :=
  if Text.isBlank hello.sessionToken ∨ Text.isBlank hello.nodeId ∨ Text.isBlank hello.networkId then
    (.error (.wrap .invalidArgument "sessionToken, nodeId, and networkId are required"), db)
  else
    match db.authenticateControlSessionToken now hello.sessionToken with
    | none => (.error .unauthorized, db)
    | some userId =>
      if hello.userId ≠ "" ∧ hello.userId ≠ userId then (.error .forbidden, db)
      else
        match db.getControlSessionByToken hello.sessionToken with
        | none => (.error .unauthorized, db)
        | some session =>
          if session.userId ≠ userId ∨ session.nodeId ≠ hello.nodeId ∨
              session.networkId ≠ hello.networkId then (.error .forbidden, db)
          else if hello.deviceId ≠ "" ∧ session.deviceId ≠ hello.deviceId then
            (.error .forbidden, db)
          else
            let db := db.touchControlSessionByToken hello.sessionToken now
            let db := db.updateDeviceStatus session.deviceId "online"
            match db.networkMap userId hello.nodeId hello.networkId with
            | .error err => (.error err, db)
            | .ok networkMap =>
              (.ok (⟨session.controlSessionId, networkMap.heartbeatSeconds⟩, networkMap), db)

/-- The rows of a report, `endpointId` being `NewID` for the place in the list. -/
def reportedEndpoints (now : Int) (report : EndpointReport) (nodeId : String)
    (endpointId : Nat → String) : List NodeEndpoint :=
  report.endpoints.mapIdx fun i endpoint =>
    ⟨endpointId i, nodeId, report.networkId, report.natType, endpoint.type, endpoint.address,
      autoUpdateTime now endpoint.updatedAt⟩

def reportEndpoints (db : Database) (now : Int) (userId : String) (report : EndpointReport)
    (endpointId : Nat → String) : Except ServiceError NetworkMap × Database :=
  if Text.isBlank report.nodeId ∨ Text.isBlank report.networkId then
    (.error (.wrap .invalidArgument "nodeId and networkId are required"), db)
  else
    match db.directory.requireNodeSession userId report.nodeId report.networkId with
    | .error err => (.error err, db)
    | .ok node =>
      if report.endpoints.any fun e => Text.isBlank e.type || Text.isBlank e.address then
        (.error (.wrap .invalidArgument "endpoint type and address are required"), db)
      else
        let kept := db.deleteNodeEndpoints fun row =>
          row.nodeId == node.nodeId && row.networkId == report.networkId
        let db := { kept with
          endpoints := kept.endpoints ++ reportedEndpoints now report node.nodeId endpointId }
        let db := db.updateDeviceStatus node.deviceId "online"
        (.ok ⟨userId, node.deviceId, node.nodeId, report.networkId,
          defaultControlHeartbeatSeconds⟩, db)

def heartbeat (db : Database) (now : Int) (userId nodeId networkId : String) :
    Except ServiceError Unit × Database :=
  if Text.isBlank userId ∨ Text.isBlank nodeId ∨ Text.isBlank networkId then
    (.error .unauthorized, db)
  else
    match db.directory.requireNodeSession userId nodeId networkId with
    | .error err => (.error err, db)
    | .ok _ => (.ok (), db.touchControlSessionByNode nodeId networkId now)

def closeSession (db : Database) (userId nodeId networkId : String) :
    Except ServiceError Unit × Database :=
  if Text.isBlank userId ∨ Text.isBlank nodeId ∨ Text.isBlank networkId then (.ok (), db)
  else
    match db.directory.requireNodeSession userId nodeId networkId with
    | .error err =>
      if err = .forbidden ∨ err = .notFound then (.ok (), db) else (.error err, db)
    | .ok node =>
      let db := db.deleteNodeEndpoints fun row => row.nodeId == nodeId && row.networkId == networkId
      let db := db.deleteNodeConnectionStates fun row =>
        (row.nodeId == nodeId || row.peerNodeId == nodeId) && row.networkId == networkId
      let db := db.deleteControlSessions fun row =>
        row.nodeId == nodeId && row.networkId == networkId
      (.ok (), db.updateDeviceStatus node.deviceId "offline")

/-- One pass of the cleanup loop. -/
def cleanupExpiredControlPlaneState (db : Database) (now : Int) : Database :=
  let db := db.deleteControlSessions fun row =>
    row.lastSeenAt < now - controlSessionFreshnessWindow
  let db := db.deleteNodeEndpoints fun row => row.updatedAt < now - nodeEndpointFreshnessWindow
  db.deleteNodeConnectionStates fun row =>
    row.updatedAt < now - nodeConnectionStateFreshnessWindow

/-! ## Issuing a session, and moving to another network -/

def createStoredControlSession (db : Database) (now : Int) (fresh : FreshSession)
    (userId deviceId nodeId networkId : String) : ControlSession × Database :=
  let session : ControlSession :=
    { controlSessionId := fresh.controlSessionId
      userId
      deviceId
      nodeId
      networkId
      sessionToken := fresh.sessionToken
      connectedAt := now
      lastSeenAt := now }
  (session, { db with
    controlSessions := db.controlSessions ++ [session]
    tokens := db.tokens.put fresh.sessionToken ⟨userId, now + controlSessionTokenTtl⟩ })

/-- The part of a bootstrap that issues the token. -/
def createControlSession (db : Database) (now : Int) (fresh : FreshSession)
    (userId nodeId networkId : String) : Except ServiceError ControlSession × Database :=
  match db.directory.requireNodeSession userId nodeId networkId with
  | .error err => (.error err, db)
  | .ok node =>
    let (session, db) :=
      db.createStoredControlSession now fresh userId node.deviceId node.nodeId networkId
    (.ok session, db)

def ensureSingleNetworkMembership (db : Database) (deviceId networkId : String) : Database :=
  let db := db.deleteControlSessions fun row =>
    row.deviceId == deviceId && (networkId == "" || row.networkId != networkId)
  { db with directory := { db.directory with
      members := db.directory.members.filter fun m =>
        !(m.deviceId == deviceId && (networkId == "" || m.networkId != networkId)) } }

def ensureSingleActiveNetworkForUser (db : Database) (userId networkId : String) : Database :=
  (db.directory.listDevicesByUser userId).foldl
    (fun db device => db.ensureSingleNetworkMembership device.deviceId networkId) db

def ensureMember (db : Database) (networkId deviceId : String) : Database :=
  if db.directory.hasMember networkId deviceId then db
  else { db with directory := { db.directory with
    members := db.directory.members ++ [⟨networkId, deviceId⟩] } }

def ensureActiveMemberForNetwork (db : Database) (userId networkId deviceId : String) : Database :=
  (db.ensureSingleActiveNetworkForUser userId networkId).ensureMember networkId deviceId

end Database

end Slan.Control
