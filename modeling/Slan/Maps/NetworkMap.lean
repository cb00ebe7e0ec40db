import Slan.Networks.Results

/-! # `network_support.go`, `control.go`: network maps and peer snapshots

Times are Unix seconds; one call has one time. Of a map, what comes from the configuration alone is
left out.
-/

namespace Slan.Maps

open Control (ControlSession Endpoint Node NodeConnectionState NodeEndpoint RelayConfig RelayHealth
  ServiceError StoredToken)
open Networks (Failure Store)

/-- What the service keeps: the database, and in Redis the tokens and the revisions. -/
structure DbState where
  store : Store
  endpoints : List NodeEndpoint
  connectionStates : List NodeConnectionState
  tokens : Table StoredToken
  revisions : Table Nat

/-- The relays of the configuration, and how well they have done lately. -/
structure Relays where
  config : RelayConfig
  health : RelayHealth

structure Peer where
  nodeId : String
  deviceId : String
  publicKey : String
  status : String
  relayAllowed : Bool
  virtualIps : List String
  endpoints : List Endpoint
  allowedRoutes : List String
  deriving DecidableEq, Repr

structure Route where
  cidr : String
  viaNodeId : String
  deriving DecidableEq, Repr

structure NetworkMap where
  selfUserId : String
  selfDeviceId : String
  selfNodeId : String
  networkId : String
  revision : Nat
  heartbeatSeconds : Nat
  peers : List Peer
  routes : List Route
  deriving DecidableEq, Repr

/-! ## Queries -/

section Queries

variable (s : Store)

/-- The nodes of devices that are members. -/
def listNodesByNetwork (networkId : String) : List Node :=
  Relation.orderBy Node.nodeId
    (s.nodes.select fun node => (s.memberByNetworkDevice networkId node.deviceId).isSome)

def listNodesByDevice (deviceId : String) : List Node :=
  Relation.orderBy Node.nodeId (s.nodes.select fun node => node.deviceId == deviceId)

def listSubnetsByNetwork (networkId : String) : List Networks.Subnet :=
  Relation.orderBy Networks.Subnet.subnetId
    (s.subnets.select fun subnet => subnet.networkId == networkId)

def listAttachmentsByDevice (deviceId : String) : List Networks.SubnetAttachment :=
  Relation.orderBy Networks.SubnetAttachment.attachmentId
    (s.attachments.select fun attachment => attachment.deviceId == deviceId)

/-- `last_seen_at desc, connected_at desc`, and the primary key that `First` adds. -/
def seenBefore (a b : ControlSession) : Bool :=
  if a.lastSeenAt ≠ b.lastSeenAt then b.lastSeenAt < a.lastSeenAt
  else if a.connectedAt ≠ b.connectedAt then b.connectedAt < a.connectedAt
  else a.controlSessionId < b.controlSessionId

def latestControlSessionByNode (nodeId networkId : String) : Option ControlSession :=
  (Control.sortStable seenBefore (s.controlSessions.filter fun row =>
    row.nodeId == nodeId && row.networkId == networkId)).head?

end Queries

/-- `updated_at desc, endpoint_id` -/
def newerEndpoint (a b : NodeEndpoint) : Bool :=
  if a.updatedAt ≠ b.updatedAt then b.updatedAt < a.updatedAt else a.endpointId < b.endpointId

/-! ## What a peer is made of -/

section Parts

variable (s : Store)

def controlSessionIsFresh (session : ControlSession) (now : Int) : Bool :=
  if session.lastSeenAt ≤ 0 then false
  else decide (now - session.lastSeenAt ≤ Control.controlSessionFreshnessWindow)

def hasFreshControlSession (nodeId networkId : String) (now : Int) : Bool :=
  match latestControlSessionByNode s nodeId networkId with
  | none => false
  | some session => controlSessionIsFresh session now

def virtualIpsForDeviceInNetwork (deviceId networkId : String) : List String :=
  ((listAttachmentsByDevice s deviceId).filter fun attachment =>
    attachment.networkId == networkId && attachment.virtualIp != "").map
      Networks.SubnetAttachment.virtualIp

def allowedRoutesForDeviceInNetwork (deviceId networkId : String) : List String :=
  ((listAttachmentsByDevice s deviceId).filter fun attachment =>
    attachment.networkId == networkId).filterMap fun attachment =>
      (s.subnetById attachment.subnetId).map Networks.Subnet.cidr

/-- The first node of a member device that is attached to the subnet. -/
def routeVia (subnetId : String) (member : Networks.NetworkMember) : Option Node :=
  match s.attachmentBySubnetDevice subnetId member.deviceId with
  | none => none
  | some _ => (listNodesByDevice s member.deviceId).head?

/-- The first member that a subnet can be reached through is the route. -/
def routesForNetwork (networkId : String) : List Route :=
  (listSubnetsByNetwork s networkId).filterMap fun subnet =>
    ((s.membersByNetwork networkId).findSome? (routeVia s subnet.subnetId)).map fun node =>
      ⟨subnet.cidr, node.nodeId⟩

end Parts

namespace DbState

def endpointCutoff (now : Int) : Int := now - Control.nodeEndpointFreshnessWindow

def deleteNodeEndpointsBefore (p : DbState) (nodeId networkId : String) (cutoff : Int) : DbState :=
  { p with endpoints := p.endpoints.filter fun row =>
      !(row.nodeId == nodeId && row.networkId == networkId && row.updatedAt < cutoff) }

def listNodeEndpoints (p : DbState) (nodeId networkId : String) : List NodeEndpoint :=
  Control.sortStable newerEndpoint (p.endpoints.filter fun row =>
    row.nodeId == nodeId && row.networkId == networkId)

end DbState

def Relays.fallbackEndpoints (relays : Relays) (now : Int) : List Endpoint :=
  (Control.defaultRelayCluster relays.config relays.health).nodes.map fun node =>
    ⟨"relay", node.address, now⟩

namespace DbState

variable (relays : Relays) (now : Int)

/-- Stale rows are deleted first. -/
def endpointsForNodeInNetwork (p : DbState) (nodeId networkId : String) :
    List Endpoint × DbState :=
  let p := p.deleteNodeEndpointsBefore nodeId networkId (endpointCutoff now)
  let records := (p.listNodeEndpoints nodeId networkId).filter fun record =>
    !(record.updatedAt < endpointCutoff now)
  (records.map (fun record => ⟨record.type, record.address, record.updatedAt⟩) ++
    relays.fallbackEndpoints now, p)

/-- The peer of a node and its device. -/
def peerOf (p : DbState) (networkId : String) (record : Node) (device : Networks.Device) :
    Peer × DbState :=
  let (endpoints, q) := p.endpointsForNodeInNetwork relays now record.nodeId networkId
  ({ nodeId := record.nodeId
     deviceId := record.deviceId
     publicKey := record.nodePublicKey
     status := device.status
     relayAllowed := true
     virtualIps := virtualIpsForDeviceInNetwork p.store record.deviceId networkId
     endpoints
     allowedRoutes := allowedRoutesForDeviceInNetwork p.store record.deviceId networkId }, q)

/-! ## Network maps -/

def networkPeerDto (p : DbState) (selfNodeId networkId : String) (record : Node) :
    Option Peer × DbState :=
  if record.nodeId = selfNodeId then (none, p)
  else
    match p.store.deviceById record.deviceId with
    | none => (none, p)
    | some device =>
      if device.status ≠ "online" then (none, p)
      else if hasFreshControlSession p.store record.nodeId networkId now = false then (none, p)
      else
        let (peer, q) := p.peerOf relays now networkId record device
        (some peer, q)

def peersOf (p : DbState) (selfNodeId networkId : String) : List Node → List Peer × DbState
  | [] => ([], p)
  | record :: records =>
    let (peer, q) := p.networkPeerDto relays now selfNodeId networkId record
    let (peers, q) := q.peersOf selfNodeId networkId records
    (peer.toList ++ peers, q)

def buildNetworkMapPeers (p : DbState) (selfNodeId networkId : String) : List Peer × DbState :=
  p.peersOf relays now selfNodeId networkId (listNodesByNetwork p.store networkId)

def currentNetworkRevision (p : DbState) (networkId : String) : Nat :=
  match p.revisions.get? networkId with
  | none => 1
  | some revision => if 0 < revision then revision else 1

def buildNetworkMap (p : DbState) (userId : String) (self : Node) (networkId : String) :
    NetworkMap × DbState :=
  let (peers, q) := p.buildNetworkMapPeers relays now self.nodeId networkId
  ({ selfUserId := userId
     selfDeviceId := self.deviceId
     selfNodeId := self.nodeId
     networkId
     revision := p.currentNetworkRevision networkId
     heartbeatSeconds := Control.defaultControlHeartbeatSeconds
     peers
     routes := routesForNetwork q.store networkId }, q)

def requireNodeSession (p : DbState) (userId nodeId networkId : String) : Except Failure Node :=
  ((Networks.requireNodeSession userId nodeId networkId).run p.store).1

def networkMap (p : DbState) (userId nodeId networkId : String) :
    Except Failure NetworkMap × DbState :=
  match p.requireNodeSession userId nodeId networkId with
  | .error err => (.error err, p)
  | .ok node =>
    let (map, q) := p.buildNetworkMap relays now userId node networkId
    (.ok map, q)

/-! ## Peer snapshots -/

def peerSnapshot (p : DbState) (userId nodeId networkId peerNodeId : String) :
    Except Failure Peer × DbState :=
  match p.requireNodeSession userId nodeId networkId with
  | .error err => (.error err, p)
  | .ok _ =>
    match p.store.nodeById peerNodeId with
    | none => (.error (.service .notFound), p)
    | some record =>
      match p.store.memberByNetworkDevice networkId record.deviceId with
      | none => (.error (.service .forbidden), p)
      | some _ =>
        match p.store.deviceById record.deviceId with
        | none => (.error (.service .notFound), p)
        | some device =>
          if hasFreshControlSession p.store record.nodeId networkId now = false then
            (.error (.service .notFound), p)
          else
            let (peer, q) := p.peerOf relays now networkId record device
            (.ok peer, q)

end DbState

end Slan.Maps
