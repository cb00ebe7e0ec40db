import Slan.Maps.Fanouts

/-! # `control_ws_handlers.go`, `control_ws_fanout.go`, `control_ws_sync.go`: what is sent, and how

A handler gives the state after it and the events that it sends, each with the way that it goes.
Of a connect plan the paths are left out. Redis answers what it is asked.
-/

namespace Slan.Control.ControlWSHub

def sessions (hub : ControlWSHub) : List ControlWSSession := hub.entries.map Sigma.snd

def peersInNetwork (hub : ControlWSHub) (networkId excludeNodeId : String) :
    List ControlWSSession :=
  hub.sessions.filter fun entry =>
    entry.session.networkId == networkId && entry.session.nodeId != excludeNodeId

def sessionsByUser (hub : ControlWSHub) (userId : String) : List ControlWSSession :=
  hub.sessions.filter fun entry => entry.session.userId == userId

/-- The session that something is sent to by the node's name. -/
def target (hub : ControlWSHub) (targetNodeId : String) : List ControlWSSession :=
  if targetNodeId = "" then [] else (hub.session targetNodeId).toList

end Slan.Control.ControlWSHub

namespace Slan.Maps

open Control (ControlWSHub ControlWSSession EndpointReport NodeHello WsSession firstNonEmpty newId)
open Networks (CreateNetworkRequest Failure Fresh Network RegisterDeviceRequest Store
  SubnetAttachment)

/-! ## Messages and events -/

/-- What a node offers a peer; its two fields of the JSON name `priority` are never read. -/
structure PeerCandidate where
  peerNodeId : String
  candidateType : String
  foundation : String
  component : Int
  protocol : String
  address : String
  port : Int
  relatedAddress : String
  relatedPort : Int
  relayUrl : String
  endpoint : String
  deriving DecidableEq, Repr

structure ConnectPlan where
  peerNodeId : String
  deriving DecidableEq, Repr

structure NetworkRestartRequired where
  networkId : String
  revision : Nat
  reason : String
  defaultSubnetCidr : String
  deriving DecidableEq, Repr

structure DeviceIPReassigned where
  networkId : String
  deviceId : String
  attachmentId : String
  virtualIp : String
  reason : String
  deriving DecidableEq, Repr

structure ActiveNetworkEnabled where
  userId : String
  networkId : String
  reason : String
  deriving DecidableEq, Repr

/-- What a message to a connection carries. -/
inductive Payload where
  | peerUpdate (networkId : String) (revision : Nat) (peer : Peer)
  | peerRemove (networkId : String) (revision : Nat) (peerNodeId : String)
  | peerCandidate (candidate : PeerCandidate)
  | connectPlan (plan : ConnectPlan)
  | networkRestartRequired (restart : NetworkRestartRequired)
  | deviceIPReassigned (deviceIP : DeviceIPReassigned)
  | activeNetworkEnabled (enabled : ActiveNetworkEnabled)
  deriving DecidableEq, Repr

inductive ControlSyncEvent where
  | peerUpdate (networkId sourceNodeId : String) (revision : Nat) (peer : Peer)
  | peerRemove (networkId sourceNodeId : String) (revision : Nat)
  | peerCandidate (networkId sourceNodeId targetNodeId : String) (candidate : PeerCandidate)
  | connectPlan (networkId sourceNodeId targetNodeId : String) (plan : ConnectPlan)
  | networkRestartRequired (networkId : String) (restart : NetworkRestartRequired)
  | deviceIPReassigned (networkId : String) (deviceIP : DeviceIPReassigned)
  | activeNetworkEnabled (targetUserId : String) (enabled : ActiveNetworkEnabled)
  deriving DecidableEq, Repr

namespace ControlSyncEvent

def payload : ControlSyncEvent → Payload
  | peerUpdate networkId _ revision peer => .peerUpdate networkId revision peer
  | peerRemove networkId sourceNodeId revision => .peerRemove networkId revision sourceNodeId
  | peerCandidate _ _ _ candidate => .peerCandidate candidate
  | connectPlan _ _ _ plan => .connectPlan plan
  | networkRestartRequired _ restart => .networkRestartRequired restart
  | deviceIPReassigned _ deviceIP => .deviceIPReassigned deviceIP
  | activeNetworkEnabled _ enabled => .activeNetworkEnabled enabled

/-- The sessions of a hub that an event is sent to. -/
def receivers (hub : ControlWSHub) : ControlSyncEvent → List ControlWSSession
  | peerUpdate networkId sourceNodeId _ _ => hub.peersInNetwork networkId sourceNodeId
  | peerRemove networkId sourceNodeId _ =>
    if sourceNodeId = "" ∨ networkId = "" then [] else hub.peersInNetwork networkId sourceNodeId
  | peerCandidate _ _ targetNodeId _ => hub.target targetNodeId
  | connectPlan _ _ targetNodeId _ => hub.target targetNodeId
  | networkRestartRequired networkId _ => hub.peersInNetwork networkId ""
  | deviceIPReassigned networkId _ => hub.peersInNetwork networkId ""
  | activeNetworkEnabled targetUserId _ =>
    if targetUserId = "" then [] else hub.sessionsByUser targetUserId

end ControlSyncEvent

/-- The way of an event. -/
inductive Dispatch where
  /-- Sent to the sessions of this server, and published under its name. -/
  | fanout (event : ControlSyncEvent)
  /-- Sent to the sessions of this server only. -/
  | here (event : ControlSyncEvent)
  /-- Published by a service, under no server's name. -/
  | publish (event : ControlSyncEvent)
  /-- Sent to the sessions of this server by a route whose service has published it. -/
  | again (event : ControlSyncEvent)
  deriving DecidableEq, Repr

namespace DbState

/-! ## Fan-outs -/

section Fanouts

variable (relays : Relays) (now : Int)

def connectPlan (p : DbState) (userId nodeId networkId peerNodeId : String) :
    Except Failure ConnectPlan × DbState :=
  match p.requireNodeSession userId nodeId networkId with
  | .error err => (.error err, p)
  | .ok _ =>
    match p.peerSnapshot relays now userId nodeId networkId peerNodeId with
    | (.error err, p) => (.error err, p)
    | (.ok _, p) => (.ok ⟨peerNodeId⟩, p)

def connectPlanByNode (p : DbState) (nodeId networkId peerNodeId : String) :
    Except Failure ConnectPlan × DbState :=
  match p.store.nodeById nodeId with
  | none => (.error (.service .notFound), p)
  | some node => p.connectPlan relays now node.userId nodeId networkId peerNodeId

def fanoutPeerUpdate (p : DbState) (session : WsSession) : List Dispatch × DbState :=
  match p.peerSnapshot relays now session.userId session.nodeId session.networkId
      session.nodeId with
  | (.error _, p) => ([], p)
  | (.ok peer, p) =>
    let (revision, p) := p.nextRevision session.networkId .answered
    ([.fanout (.peerUpdate session.networkId session.nodeId revision peer)], p)

def fanoutPeerRemove (p : DbState) (networkId sourceNodeId : String) : List Dispatch × DbState :=
  let (revision, p) := p.nextRevision networkId .answered
  ([.fanout (.peerRemove networkId sourceNodeId revision)], p)

/-- A plan that could be made, sent to a node in a way. -/
def planned (way : ControlSyncEvent → Dispatch) (networkId nodeId : String) :
    Except Failure ConnectPlan → List Dispatch
  | .error _ => []
  | .ok plan => [way (.connectPlan networkId nodeId nodeId plan)]

def fanoutConnectPlans (p : DbState) (session : WsSession) :
    List WsSession → List Dispatch × DbState
  | [] => ([], p)
  | peer :: peers =>
    let (planForSource, p) := p.connectPlan relays now session.userId session.nodeId
      session.networkId peer.nodeId
    let (planForPeer, p) := p.connectPlan relays now peer.userId peer.nodeId peer.networkId
      session.nodeId
    let (rest, p) := p.fanoutConnectPlans session peers
    (planned .fanout session.networkId session.nodeId planForSource ++
      planned .fanout peer.networkId peer.nodeId planForPeer ++ rest, p)

def fanoutConnectPlanPair (p : DbState) (session : WsSession) (peerNodeId : String) :
    List Dispatch × DbState :=
  if peerNodeId = "" then ([], p)
  else
    let (planForSource, p) := p.connectPlan relays now session.userId session.nodeId
      session.networkId peerNodeId
    let (planForPeer, p) := p.connectPlanByNode relays now peerNodeId session.networkId
      session.nodeId
    (planned .here session.networkId session.nodeId planForSource ++
      planned .fanout session.networkId peerNodeId planForPeer, p)

end Fanouts

/-! ## What the services publish -/

def publishNetworkRestartRequired (p : DbState) (networkId cidr : String) :
    List Dispatch × DbState :=
  if Text.isBlank networkId then ([], p)
  else
    let (revision, p) := p.nextRevision networkId .answered
    ([.publish (.networkRestartRequired networkId ⟨networkId, revision,
      "network configuration changed, tunnel restart required", cidr⟩)], p)

end DbState

def ipReassigned (networkId deviceId attachmentId virtualIp : String) : ControlSyncEvent :=
  .deviceIPReassigned networkId ⟨networkId, deviceId, attachmentId, virtualIp,
    "attachment virtual ip updated"⟩

def publishDeviceIPReassigned (networkId deviceId attachmentId virtualIp : String) :
    List Dispatch :=
  if Text.isBlank networkId ∨ Text.isBlank deviceId then []
  else [.publish (ipReassigned networkId deviceId attachmentId virtualIp)]

def publishActiveNetworkEnabled (userId networkId reason : String) : List Dispatch :=
  if Text.isBlank userId ∨ Text.isBlank networkId then []
  else [.publish (.activeNetworkEnabled userId ⟨userId, networkId, reason⟩)]

/-- What `Create` publishes; what it does after that may fail. -/
def publishedByCreate (fresh : Fresh) (userId : String) (req : CreateNetworkRequest) (s : Store) :
    List Dispatch :=
  match (Networks.prepareNetwork fresh userId req).run s with
  | (.ok (user, network, subnet), s) =>
    if (s.createNetworkWithDefaultSubnet network subnet).isSome ∧
        Text.isBlank user.activeNetworkId then
      publishActiveNetworkEnabled userId network.networkId "first network created"
    else []
  | (.error _, _) => []

def publishedByOwnedNetwork (fresh : Fresh) (userId : String) (s : Store) : List Dispatch :=
  match s.ownedNetworkByUser userId with
  | some _ => []
  | none => publishedByCreate fresh userId ⟨"My Network", "", "10.0.0.0/16", ""⟩ s

def publishedByRegisterUser (fresh : Fresh) (email password : String) (s : Store) :
    List Dispatch :=
  if email = "" ∨ (Text.utf8 password).length < 8 ∨ (s.userByEmail email).isSome then []
  else
    match s.createUser ⟨newId "user" fresh.user, email, ""⟩ with
    | some s => publishedByOwnedNetwork fresh (newId "user" fresh.user) s
    | none => []

/-- `registerDevice` up to the device's row. -/
def recordDevice (fresh : Fresh) (userId : String) (req : RegisterDeviceRequest) :
    Networks.Call Networks.Device := do
  Networks.requireRegisterDeviceRequest req
  let _ ← Networks.lookupOr .unauthorized fun s => s.userById userId
  Networks.upsertDeviceRecord fresh userId req

/-- Where `ensureDeviceProvisionedInActiveNetwork` puts a device. -/
def provisionDevice (fresh : Fresh) (userId deviceId : String) :
    Networks.Call (Network × SubnetAttachment) := do
  let record ← Networks.provisionedNetwork fresh userId
  let role ← Networks.membershipRole record.networkId deviceId record.ownerUserId userId
  let _ ← Networks.ensureMember fresh record.networkId deviceId role
  let attachment ← Networks.ensureAttachment fresh record.networkId record.defaultSubnetId deviceId
  pure (record, attachment)

/-- A user without an active network may get one on the way. -/
def publishedByRegisterDevice (fresh : Fresh) (userId : String) (req : RegisterDeviceRequest)
    (s : Store) : List Dispatch :=
  match (recordDevice fresh userId req).run s with
  | (.error _, _) => []
  | (.ok device, s) =>
    if Text.isBlank device.deviceId then []
    else
      let owned := if (s.userById userId).any fun user => Text.trim user.activeNetworkId == "" then
        publishedByOwnedNetwork fresh userId s else []
      match (provisionDevice fresh userId device.deviceId).run s with
      | (.error _, _) => owned
      | (.ok (record, attachment), _) =>
        owned ++ publishActiveNetworkEnabled userId record.networkId
            "device registered into active network" ++
          publishDeviceIPReassigned record.networkId device.deviceId attachment.attachmentId
            attachment.virtualIp

namespace DbState

/-- A request over HTTP; the route of an address sends it once more. -/
def handleRequest (sameName : String → String → Bool) (p : DbState) (r : Networks.Request) :
    List Dispatch × DbState :=
  let q := p.request sameName r
  match r.operation with
  | .update userId networkId req =>
    match ((Networks.update userId networkId req).run p.store).1 with
    | .ok network => q.publishNetworkRestartRequired network.networkId network.defaultSubnetCidr
    | .error _ => ([], q)
  | .updateAttachmentIp userId networkId attachmentId virtualIp =>
    match ((Networks.updateAttachmentIp userId networkId attachmentId virtualIp).run p.store).1 with
    | .ok updated =>
      (publishDeviceIPReassigned networkId updated.deviceId updated.attachmentId updated.virtualIp ++
        [.again (ipReassigned networkId updated.deviceId updated.attachmentId updated.virtualIp)], q)
    | .error _ => ([], q)
  | .create userId req => (publishedByCreate r.fresh userId req p.store, q)
  | .registerUser email password => (publishedByRegisterUser r.fresh email password p.store, q)
  | .registerDevice userId req => (publishedByRegisterDevice r.fresh userId req p.store, q)
  | _ => ([], q)

end DbState

/-! ## Handlers of a connection -/

/-- What a connection sends; the gates' answers come with it. -/
inductive ClientMessage where
  | nodeHello (hello : NodeHello)
  | ping
  | networkMapRequest (networkId : String)
  | endpointReport (report : EndpointReport) (endpointId : Nat → String)
  | connectionState (state : ConnectionState) (allowed : Bool)
  | disconnectNotice (notice : DisconnectNotice)
  | peerCandidate (candidate : PeerCandidate) (allowed : Bool)

structure Handled where
  db : DbState
  hub : ControlWSHub
  session : WsSession
  dispatches : List Dispatch

namespace Handled

variable (relays : Relays) (now : Int)

/-- The session of a hello that was accepted. -/
def greeted (session : WsSession) (hello : NodeHello) (selfUserId : String) : WsSession :=
  { userId := firstNonEmpty [hello.userId, selfUserId]
    deviceId := firstNonEmpty [hello.deviceId, session.deviceId]
    nodeId := hello.nodeId
    networkId := hello.networkId }

/-- The peer of a session and the plans with those that are connected. -/
def fanouts (p : DbState) (hub : ControlWSHub) (session : WsSession) : Handled :=
  let (update, p) := p.fanoutPeerUpdate relays now session
  let (plans, p) := p.fanoutConnectPlans relays now session
    ((hub.peersInNetwork session.networkId session.nodeId).map ControlWSSession.session)
  ⟨p, hub, session, update ++ plans⟩

def nodeHello (p : DbState) (hub : ControlWSHub) (c : Nat) (session : WsSession)
    (hello : NodeHello) : Handled :=
  match p.handshake relays now hello with
  | (.error _, p) => ⟨p, hub, session, []⟩
  | (.ok (_, networkMap), p) =>
    let session := greeted session hello networkMap.selfUserId
    fanouts relays now p (hub.register ⟨c, session⟩) session

def networkMapRequest (p : DbState) (hub : ControlWSHub) (session : WsSession)
    (requested : String) : Handled :=
  let networkId := if requested ≠ "" then requested else session.networkId
  match p.networkMap relays now session.userId session.nodeId networkId with
  | (.error _, p) => ⟨p, hub, session, []⟩
  | (.ok _, p) => ⟨p, hub, { session with networkId }, []⟩

def endpointReport (p : DbState) (hub : ControlWSHub) (session : WsSession)
    (report : EndpointReport) (endpointId : Nat → String) : Handled :=
  let report := { report with
    nodeId := firstNonEmpty [report.nodeId, session.nodeId]
    networkId := firstNonEmpty [report.networkId, session.networkId] }
  match p.reportEndpoints relays now session.userId report endpointId with
  | (.error _, p) => ⟨p, hub, session, []⟩
  | (.ok _, p) => fanouts relays now p hub session

def connectionState (p : DbState) (hub : ControlWSHub) (session : WsSession)
    (state : ConnectionState) (allowed : Bool) : Handled :=
  let state := { state with networkId := firstNonEmpty [state.networkId, session.networkId] }
  match p.reportConnectionState now session.userId session.nodeId state with
  | (.error _, p) => ⟨p, hub, session, []⟩
  | (.ok _, p) =>
    if (state.state = "failed" ∨ state.state = "closed") ∧ allowed then
      let (plans, p) := p.fanoutConnectPlanPair relays now session state.peerNodeId
      ⟨p, hub, session, plans⟩
    else ⟨p, hub, session, []⟩

def disconnectNotice (p : DbState) (hub : ControlWSHub) (session : WsSession)
    (notice : DisconnectNotice) : Handled :=
  let notice := { notice with networkId := firstNonEmpty [notice.networkId, session.networkId] }
  match p.disconnect now session.userId session.nodeId notice with
  | (.error _, p) => ⟨p, hub, session, []⟩
  | (.ok _, p) =>
    let (remove, p) := p.fanoutPeerRemove session.networkId session.nodeId
    ⟨p, hub, session, remove⟩

def peerCandidate (p : DbState) (hub : ControlWSHub) (session : WsSession)
    (candidate : PeerCandidate) (allowed : Bool) : Handled :=
  if candidate.peerNodeId = "" ∨ candidate.endpoint = "" ∨ candidate.candidateType = "" then
    ⟨p, hub, session, []⟩
  else if allowed then
    ⟨p, hub, session, [.fanout (.peerCandidate session.networkId session.nodeId
      candidate.peerNodeId candidate)]⟩
  else ⟨p, hub, session, []⟩

/-- A message of a session that is authorized. -/
def authorized (p : DbState) (hub : ControlWSHub) (session : WsSession) :
    ClientMessage → Handled
  | .networkMapRequest networkId => networkMapRequest relays now p hub session networkId
  | .endpointReport report endpointId => endpointReport relays now p hub session report endpointId
  | .connectionState state allowed => connectionState relays now p hub session state allowed
  | .disconnectNotice notice => disconnectNotice now p hub session notice
  | .peerCandidate candidate allowed => peerCandidate p hub session candidate allowed
  | _ => ⟨p, hub, session, []⟩

/-- `handleControlWSMessage`: but for a hello, an authorized session is touched first. -/
def message (p : DbState) (hub : ControlWSHub) (c : Nat) (session : WsSession) :
    ClientMessage → Handled
  | .nodeHello hello => nodeHello relays now p hub c session hello
  | message =>
    if session.authorized = false then ⟨p, hub, session, []⟩
    else
      let (_, p) := p.heartbeat now session.userId session.nodeId session.networkId
      authorized relays now p hub session message

/-- What is deferred to the end of a connection. -/
def closed (p : DbState) (hub : ControlWSHub) (session : WsSession) : Handled :=
  let hub := hub.unregister session.nodeId
  let (_, p) := p.closeSession session.userId session.nodeId session.networkId
  let (remove, p) := p.fanoutPeerRemove session.networkId session.nodeId
  ⟨p, hub, session, remove⟩

end Handled

end Slan.Maps
