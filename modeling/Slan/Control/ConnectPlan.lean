import Slan.Control.ControlSessions
import Slan.Control.PathHealth
import Slan.Control.RelayTickets

/-! # `control_plan.go`: the connect plan

What the plan is composed of, once the rows of the peer have been read. The health of the relay
nodes is read anew for each choice of a cluster. A priority stays far below the end of an `int`.
-/

namespace Slan.Control

/-- With the relay node that the connection went over. -/
structure PeerConnection extends NodeConnectionState where
  derpNodeId : String
  deriving DecidableEq, Repr

structure PathOption where
  pathType : String
  endpoint : String
  priority : Int
  deriving DecidableEq, Repr

structure ConnectPlan where
  peerNodeId : String
  preferDirect : Bool
  paths : List PathOption
  derpClusterId : String
  preferredDerpNodeIds : List String
  relayTicket : Option RelayTicket
  deriving DecidableEq, Repr

/-! ## Relay clusters -/

def clusterContainsRelayNode (cluster : RelayClusterView) (nodeId : String) : Bool :=
  let nodeId := Text.trim nodeId
  nodeId != "" && cluster.nodes.any fun node => node.nodeId == nodeId

/-- The priority of the first node, and how many nodes there are. -/
def relayClusterRank (cluster : RelayClusterView) : RelayNodeRank :=
  match cluster.nodes with
  | [] => ⟨0, 0, false, false, 0, 0⟩
  | first :: _ =>
    { scoreAvg := if 0 < first.priority then ((1000 - min first.priority 1000 : Int) : ℚ) else 0
      rttAvg := 0
      hasScore := 0 < first.priority
      hasRtt := false
      samples := cluster.nodes.length
      sampledAt := 0 }

/-- The order of `sortRelayClusters`. -/
def relayClusterBefore (preferredNodeId avoidedNodeId : String) (left right : RelayClusterView) :
    Bool :=
  let leftPreferred := clusterContainsRelayNode left preferredNodeId
  let rightPreferred := clusterContainsRelayNode right preferredNodeId
  let leftAvoided := clusterContainsRelayNode left avoidedNodeId
  let rightAvoided := clusterContainsRelayNode right avoidedNodeId
  if leftPreferred && !rightPreferred then true
  else if !leftPreferred && rightPreferred then false
  else if !leftAvoided && rightAvoided then true
  else if leftAvoided && !rightAvoided then false
  else if betterRelayNodeRank (relayClusterRank left) (relayClusterRank right) then true
  else if betterRelayNodeRank (relayClusterRank right) (relayClusterRank left) then false
  else left.clusterId < right.clusterId

def sortRelayClusters (clusters : List RelayClusterView) (preferredNodeId avoidedNodeId : String) :
    List RelayClusterView :=
  sortStable (relayClusterBefore preferredNodeId avoidedNodeId) clusters

def bestRelayCluster (cfg : RelayConfig) (health : RelayHealth)
    (preferredNodeId avoidedNodeId : String) : RelayClusterView :=
  (sortRelayClusters (relayClusters cfg health) preferredNodeId avoidedNodeId).head?.getD .empty

def relayClusterForPreferredNode (cfg : RelayConfig) (health : RelayHealth)
    (preferredRelayNodeId avoidedRelayNodeId : String) (fallback : RelayClusterView) :
    RelayClusterView :=
  let cluster := bestRelayCluster cfg health preferredRelayNodeId avoidedRelayNodeId
  if cluster.nodes.isEmpty then fallback else cluster

/-! ## Preferred and avoided relay nodes -/

def preferredRelayNodeIdFromHistory (state : PeerConnection) : String :=
  if state.state ≠ "connected" then ""
  else if Text.trim state.path ≠ "relay" ∧ Text.trim state.path ≠ "derp" then ""
  else Text.trim state.derpNodeId

def preferredRelayNodeId (pathHealth : List PathHealthWindow) (state : PeerConnection) : String :=
  let nodeId := preferredRelayNodeIdFromPathHealth pathHealth
  if nodeId ≠ "" then nodeId else preferredRelayNodeIdFromHistory state

def avoidedRelayNodeId (state : PeerConnection) : String :=
  if Text.trim state.state = "failed" ∨ Text.trim state.state = "closed" then
    Text.trim state.derpNodeId
  else ""

/-! ## Direct paths -/

def isDirectPathType (pathType : String) : Bool :=
  ["lan", "wan", "reflexive", "p2p", "direct"].contains (Text.trim pathType)

/-- What a window says of its endpoint. -/
def endpointRank (health : PathHealthWindow) : RelayNodeRank :=
  { health.rank with
    scoreAvg := if health.rank.hasScore then health.rank.scoreAvg else 0
    rttAvg := if health.rank.hasRtt then health.rank.rttAvg else 0 }

/-- The same comparison as between relay nodes. -/
def betterEndpointRank (left right : RelayNodeRank) : Bool := betterRelayNodeRank left right

/-- The best rank of an endpoint, by its address. -/
def bestByEndpoint (pathHealth : List PathHealthWindow) (address : String) :
    Option RelayNodeRank :=
  let windows := pathHealth.filter fun health =>
    isDirectPathType health.pathType && !Text.isBlank health.endpoint && health.endpoint == address
  windows.foldl (fun current health =>
    match current with
    | some current =>
      if betterEndpointRank (endpointRank health) current then some (endpointRank health)
      else some current
    | none => some (endpointRank health)) none

/-- An address with a rank comes before one without. -/
def addressBefore (best : String → Option RelayNodeRank) (left right : String) : Bool :=
  match best left, best right with
  | some _, none => true
  | none, _ => false
  | some left, some right => betterEndpointRank left right

/-- The order of `prioritizeDirectEndpoints`. -/
def endpointBefore (best : String → Option RelayNodeRank) (left right : Endpoint) : Bool :=
  addressBefore best left.address right.address

def prioritizeDirectEndpoints (endpoints : List Endpoint) (pathHealth : List PathHealthWindow) :
    List Endpoint :=
  if endpoints.length ≤ 1 ∨ pathHealth = [] then endpoints
  else sortStable (endpointBefore (bestByEndpoint pathHealth)) endpoints

/-- Three types have a priority of their own. -/
def directPriority (endpointType : String) (priority : Int) : Int :=
  if endpointType = "lan" then 10
  else if endpointType = "wan" then 20
  else if endpointType = "reflexive" then 30
  else priority

/-- The paths to endpoints, from a priority on, and the next priority. -/
def directPathsFrom (priority : Int) : List Endpoint → List PathOption × Int
  | [] => ([], priority)
  | endpoint :: rest =>
    if endpoint.type = "relay" then directPathsFrom priority rest
    else
      let (paths, next) := directPathsFrom (priority + 10) rest
      (⟨endpoint.type, endpoint.address, directPriority endpoint.type priority⟩ :: paths, next)

def directPathOptions (endpoints : List Endpoint) (pathHealth : List PathHealthWindow) :
    List PathOption × Int :=
  directPathsFrom 10 (prioritizeDirectEndpoints endpoints pathHealth)

/-! ## Relay paths -/

def relayPathsFrom (priority : Int) : List RelayNodeConfig → List PathOption
  | [] => []
  | node :: rest =>
    ⟨"relay_" ++ node.transport, node.address, priority⟩ :: relayPathsFrom (priority + 10) rest

/-- The nodes are put in order without their live health. -/
def relayPathOptions (nodes : List RelayNodeConfig) (preferredNodeId avoidedNodeId : String)
    (startPriority : Int) : List PathOption × List String :=
  let nodes := prioritizeRelayNodes nodes preferredNodeId avoidedNodeId fun _ => none
  (relayPathsFrom startPriority nodes, nodes.map RelayNodeConfig.nodeId)

/-! ## The plan -/

/-- Whether direct paths come first, and whether a ticket is prepared. -/
def connectPlanPolicy (sourceNatType peerNatType : String) (connectionState : PeerConnection)
    (hasDirectPaths : Bool) : Bool × Bool :=
  if sourceNatType = "symmetric" ∨ peerNatType = "symmetric" ∨
      connectionState.state = "failed" ∨ connectionState.state = "closed" then (false, true)
  else (hasDirectPaths, false)

def relayReason (state : PeerConnection) : String :=
  if !Text.isBlank state.reason then state.reason
  else if state.state = "failed" ∨ state.state = "closed" then state.state
  else "nat_restricted"

/-- What a plan needs of the state to issue a ticket. -/
structure TicketDesk where
  mac : Mac
  cfg : RelayConfig
  directory : Directory
  cache : RelayTicketCache
  fresh : FreshIds
  now : Int
  later : Int

/-- The health of the relay nodes, as it is read for the cluster to fall back on, for that of the
plan, for the ticket's, and for the cluster that the ticket names. -/
structure LiveHealth where
  base : RelayHealth
  plan : RelayHealth
  ticket : RelayHealth
  named : RelayHealth

structure ConnectPlanInputs where
  endpoints : List Endpoint
  sourceNatType : String
  peerNatType : String
  connectionState : PeerConnection
  pathHealth : List PathHealthWindow
  relayCluster : RelayClusterView

def relayTicketForConnectPlan (desk : TicketDesk) (live : LiveHealth)
    (userId nodeId networkId peerNodeId : String) (relayCluster : RelayClusterView)
    (connectionState : PeerConnection) :
    (Option RelayTicket × RelayClusterView) × RelayTicketCache :=
  let req : RelayTicketRequest :=
    { networkId
      srcNodeId := nodeId
      dstNodeId := peerNodeId
      derpClusterId := relayCluster.clusterId
      preferredDerpNodeIds := []
      reason := relayReason connectionState }
  match issueRelayTicket desk.mac desk.cfg desk.directory live.ticket desk.cache desk.fresh
      desk.now desk.later userId req with
  | (.error _, cache) => ((none, relayCluster), cache)
  | (.ok ticket, cache) =>
    ((some ticket, relayClusterForRequest desk.cfg live.named ticket.derpClusterId), cache)

/-- The cluster of the plan's relay paths, with the ticket for it. -/
def chooseRelayCluster (desk : TicketDesk) (live : LiveHealth)
    (userId nodeId networkId peerNodeId : String) (inputs : ConnectPlanInputs)
    (needRelayTicket : Bool) : (Option RelayTicket × RelayClusterView) × RelayTicketCache :=
  let relayCluster := relayClusterForPreferredNode desk.cfg live.plan
    (preferredRelayNodeId inputs.pathHealth inputs.connectionState)
    (avoidedRelayNodeId inputs.connectionState) inputs.relayCluster
  if needRelayTicket then
    relayTicketForConnectPlan desk live userId nodeId networkId peerNodeId relayCluster
      inputs.connectionState
  else ((none, relayCluster), desk.cache)

def composeConnectPlan (desk : TicketDesk) (live : LiveHealth)
    (userId nodeId networkId peerNodeId : String) (inputs : ConnectPlanInputs) :
    ConnectPlan × RelayTicketCache :=
  let (paths, nextPriority) := directPathOptions inputs.endpoints inputs.pathHealth
  let (preferDirect, needRelayTicket) := connectPlanPolicy inputs.sourceNatType inputs.peerNatType
    inputs.connectionState (!paths.isEmpty)
  let ((relayTicket, relayCluster), cache) := chooseRelayCluster desk live userId nodeId networkId
    peerNodeId inputs needRelayTicket
  let (relayPaths, preferredNodeIds) := relayPathOptions relayCluster.nodes
    (preferredRelayNodeId inputs.pathHealth inputs.connectionState)
    (avoidedRelayNodeId inputs.connectionState) nextPriority
  ({ peerNodeId
     preferDirect
     paths := paths ++ relayPaths
     derpClusterId := relayCluster.clusterId
     preferredDerpNodeIds := preferredNodeIds
     relayTicket }, cache)

/-- Whether a plan comes with a ticket. -/
def ConnectPlanInputs.needRelayTicket (inputs : ConnectPlanInputs) : Bool :=
  (connectPlanPolicy inputs.sourceNatType inputs.peerNatType inputs.connectionState
    (!(directPathOptions inputs.endpoints inputs.pathHealth).1.isEmpty)).2

/-- The direct paths, and those over the nodes of the chosen cluster. -/
theorem composeConnectPlan_paths (desk : TicketDesk) (live : LiveHealth)
    (userId nodeId networkId peerNodeId : String) (inputs : ConnectPlanInputs) :
    (composeConnectPlan desk live userId nodeId networkId peerNodeId inputs).1.paths =
      (directPathOptions inputs.endpoints inputs.pathHealth).1 ++
        (relayPathOptions (chooseRelayCluster desk live userId nodeId networkId peerNodeId inputs
            inputs.needRelayTicket).1.2.nodes
          (preferredRelayNodeId inputs.pathHealth inputs.connectionState)
          (avoidedRelayNodeId inputs.connectionState)
          (directPathOptions inputs.endpoints inputs.pathHealth).2).1 := rfl

/-- `buildConnectPlan`, from the endpoints, NAT types, connection and samples that were read. The
groups of the samples are given in the order in which they come out of the map. -/
def buildConnectPlan (desk : TicketDesk) (live : LiveHealth)
    (userId nodeId networkId peerNodeId : String) (endpoints : List Endpoint)
    (sourceNatType peerNatType : String) (connectionState : PeerConnection)
    (groups : List PathHealthWindow) : ConnectPlan × RelayTicketCache :=
  composeConnectPlan desk live userId nodeId networkId peerNodeId
    { endpoints
      sourceNatType
      peerNatType
      connectionState
      pathHealth := aggregatePathHealthWindow groups
      relayCluster := bestRelayCluster desk.cfg live.base "" "" }

end Slan.Control
