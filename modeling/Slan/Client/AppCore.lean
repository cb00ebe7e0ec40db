import Slan.Client.ControlSync
import Slan.Client.DerpPoolCalls
import Slan.Client.P2p
import Slan.Client.RelayClient

/-! # `default_facade.rs`: connecting to a peer and disconnecting

The facade with what it drives: the P2P connector, the relay client, the DERP pool, the path
manager and the tunnel manager. What the network, the controller and the tunnel manager do is given
with each call, and so is the DERP map of the bootstrap. Of the snapshot, `connection_state`,
`last_data_plane_error` and `last_probe` are left out. The locks are taken to be sound.
-/

namespace Slan.Client

/-! ## The tunnel manager -/

/-- What the calls of a tunnel manager do, over what it holds. -/
structure TunnelHost (M : Type) where
  close : M → String → Except String Unit × M
  establish : M → TunnelConfig → Except String Unit × M

section

variable {M : Type}

/-- The first half of `replace_tunnel`, with the recorded peer and what the manager holds. -/
def closeOther (host : TunnelHost M) (held : M) (current next : Option String) :
    Except String Unit × Option String × M :=
  match current with
  | none => (.ok (), none, held)
  | some peerVirtualIp =>
    if some peerVirtualIp ≠ next then
      match host.close held peerVirtualIp with
      | (.ok (), held) => (.ok (), none, held)
      | (.error err, held) => (.error err, some peerVirtualIp, held)
    else (.ok (), some peerVirtualIp, held)

/-- `replace_tunnel` -/
def replaceTunnelOn (host : TunnelHost M) (held : M) (current : Option String)
    (config : Option TunnelConfig) : Except String Unit × Option String × M :=
  match closeOther host held current (config.map TunnelConfig.peerVirtualIp) with
  | (.error err, current, held) => (.error err, current, held)
  | (.ok (), current, held) =>
    match config with
    | none => (.ok (), current, held)
    | some config =>
      if current ≠ some config.peerVirtualIp then
        match host.establish held config with
        | (.ok (), held) => (.ok (), some config.peerVirtualIp, held)
        | (.error err, held) => (.error err, current, held)
      else (.ok (), current, held)

end

/-! ## The path manager -/

structure PathState where
  activePath : ActivePath
  lastPeerNodeId : Option String
  lastFailureReason : Option String
  deriving DecidableEq, Repr

namespace PathState

def new : PathState := ⟨.none, none, none⟩

def fallbackPath (pool : InMemoryDerpPool) (peerNodeId : String) : ActivePath :=
  match pool.activeLink with
  | some link => .derp link.nodeMeta.clusterId link.nodeMeta.nodeId
  | none => .relay peerNodeId

def onP2pFailed (pool : InMemoryDerpPool) (peerNodeId reason : String) : PathState :=
  ⟨fallbackPath pool peerNodeId, some peerNodeId, some reason⟩

def onP2pRecovered (peerNodeId : String) : PathState := ⟨.p2p peerNodeId, some peerNodeId, none⟩

end PathState

/-! ## The facade -/

structure DerpCluster where
  clusterId : String
  recommendedFanout : Nat
  nodes : List DerpNodeMeta
  deriving DecidableEq, Repr

structure DerpMap where
  clusters : List DerpCluster
  deriving DecidableEq, Repr

structure RelayTicketRequest where
  networkId : String
  srcNodeId : String
  dstNodeId : String
  derpClusterId : Option String
  preferredDerpNodeIds : List String
  reason : String
  deriving DecidableEq, Repr

/-- `SocketRelayClient::connect`, with what opening the socket and sending the request gives, and
the answer. On failure the client stays as it was. -/
def SocketRelayClient.connect (texts : Texts) (ticket : RelayTicket)
    (send : Except RelayClientError Unit) (answer : Option Json) :
    Except RelayClientError RelayClientState := do
  let _ ← attachRequest ticket
  send
  connected texts ticket answer

/-- What the outside gives to one `connect`. -/
structure ConnectCalls (Stream M : Type) where
  connectTcp : String → Except String Stream
  issueRelayTicket : String → RelayTicketRequest → Except String RelayTicket
  texts : Texts
  relaySend : RelayTicket → Except RelayClientError Unit
  relayAnswer : RelayTicket → Option Json
  /-- The snapshot of a client that the pool's factory makes. -/
  freshClient : DerpLinkSnapshot
  warmClients : Nat → DerpClient
  tickClients : Nat → DerpClient
  generate : TunnelKeyProvider
  host : TunnelHost M
  nowMs : Nat

structure AppCore (Stream M : Type) where
  facade : Facade
  p2p : P2PState Stream
  relay : RelayClientState
  derpPool : InMemoryDerpPool
  path : PathState
  /-- What the tunnel manager holds. -/
  tunnels : M

structure ConnectContext where
  bootstrap : BootstrapConfig
  srcNodeId : String
  peer : Peer

def resolveConnectContext (state : AppCoreSnapshot) (peerNodeId : String) :
    Except String ConnectContext := do
  let some bootstrap := state.currentBootstrap
    | .error "missing bootstrap config, call bootstrap first"
  let some srcNode := state.currentNode
    | .error "missing current node, register node first"
  let some networkMap := bootstrap.networkMap
    | .error "missing network map in bootstrap config"
  let some peer := networkMap.peers.find? fun peer => peer.nodeId == peerNodeId
    | .error ("peer node not found in network map: " ++ peerNodeId)
  return ⟨bootstrap, srcNode.nodeId, peer⟩

/-- Where the plan lists the endpoint as a direct path, `usize::MAX` where it does not. -/
def planPosition (plan : ControlWsConnectPlan) (endpoint : Endpoint) : Nat :=
  (plan.paths.findIdx? fun path =>
    path.endpoint == endpoint.address &&
      !decide ("relay".toList <:+: path.pathType.toList) &&
      !decide ("derp".toList <:+: path.pathType.toList)).getD (2 ^ 64 - 1)

def orderedPeerEndpoints (peer : Peer) (plan : Option ControlWsConnectPlan) : List Endpoint :=
  match plan with
  | none => peer.endpoints
  | some plan =>
    peer.endpoints.insertionSort fun left right => planPosition plan left ≤ planPosition plan right

/-- The first cluster that has a node. -/
def selectDerpCluster (derpMap : Option DerpMap) : Option DerpCluster :=
  derpMap.bind fun map => map.clusters.find? fun cluster => !cluster.nodes.isEmpty

def connectionStateFromActivePath : ActivePath → ConnectionState
  | .none => .disconnected
  | .p2p _ => .connected .p2p
  | .relay _ => .connected .relay
  | .derp _ _ => .connected .derp

def AppCoreSnapshot.empty : AppCoreSnapshot where
  session := none
  currentDevice := none
  currentNode := none
  tunnelKeyMaterial := none
  currentBootstrap := none
  currentNetworkId := none
  currentConnectPlans := ∅
  activePath := none
  tunnelPeerVirtualIp := none
  tunnelRuntime := none

namespace AppCore

variable {Stream M : Type}

/-- `DefaultAppCoreFacade::new` with fresh transports. -/
def new (tunnels : M) : AppCore Stream M where
  facade := { state := .empty, controlWs := none, currentTunnelPeerVirtualIp := none }
  p2p := ⟨none, none⟩
  relay := ⟨none, none, none, none, false⟩
  derpPool := .new
  path := .new
  tunnels

def withPath (core : AppCore Stream M) (path : PathState) : AppCore Stream M := { core with path }

def withState (core : AppCore Stream M) (state : AppCoreSnapshot) : AppCore Stream M :=
  { core with facade := { core.facade with state } }

def withTunnel (core : AppCore Stream M) (current : Option String) (tunnels : M) :
    AppCore Stream M :=
  { core with facade := { core.facade with currentTunnelPeerVirtualIp := current }, tunnels }

def onP2pFailed (core : AppCore Stream M) (peerNodeId reason : String) : AppCore Stream M :=
  core.withPath (.onP2pFailed core.derpPool peerNodeId reason)

def onP2pRecovered (core : AppCore Stream M) (peerNodeId : String) : AppCore Stream M :=
  core.withPath (.onP2pRecovered peerNodeId)

/-- `finalize_connected_path`: the tunnel, and then the snapshot. -/
def finalizeConnectedPath (core : AppCore Stream M) (host : TunnelHost M)
    (activePath : ActivePath) (config : Option TunnelConfig) :
    Except String Unit × AppCore Stream M :=
  match replaceTunnelOn host core.tunnels core.facade.currentTunnelPeerVirtualIp config with
  | (.error err, current, tunnels) => (.error err, core.withTunnel current tunnels)
  | (.ok (), current, tunnels) =>
    let core := core.withTunnel current tunnels
    (.ok (), core.withState { core.facade.state with
      activePath := some activePath
      tunnelPeerVirtualIp := current
      tunnelRuntime := config.map buildTunnelRuntime })

/-- The end of `connect`, once the path manager has a path. -/
def finishConnect (core : AppCore Stream M) (calls : ConnectCalls Stream M)
    (context : ConnectContext) (connectionState : ConnectionState) :
    Except String ConnectionState × AppCore Stream M :=
  let activePath := core.path.activePath
  let (keyPair, state) := ensureTunnelKeyPair core.facade.state calls.generate
    context.bootstrap.device.deviceId context.peer.nodeId calls.nowMs
  let core := core.withState state
  match keyPair with
  | .error err => (.error err, core)
  | .ok keyPair =>
    let config := buildTunnelConfig activePath context.bootstrap context.peer keyPair
    match core.finalizeConnectedPath calls.host activePath config with
    | (.error err, core) => (.error err, core)
    | (.ok (), core) => (.ok connectionState, core)

/-- `connect` from the `managed_state` on. -/
def finishManaged (core : AppCore Stream M) (calls : ConnectCalls Stream M)
    (context : ConnectContext) : Except String ConnectionState × AppCore Stream M :=
  match connectionStateFromActivePath core.path.activePath with
  | .connected path => core.finishConnect calls context (.connected path)
  | managedState =>
    (.ok managedState, core.withState { core.facade.state with
      activePath := some core.path.activePath
      tunnelPeerVirtualIp := none
      tunnelRuntime := none })

def withAccessToken (core : AppCore Stream M) : Except String String :=
  Client.withAccessToken core.facade.state

def issueRelayTicketWithOptions (core : AppCore Stream M) (calls : ConnectCalls Stream M)
    (request : RelayTicketRequest) : Except String RelayTicket := do
  calls.issueRelayTicket (← core.withAccessToken) request

def relayTicketFromPlan (core : AppCore Stream M) (calls : ConnectCalls Stream M)
    (networkId : String) (context : ConnectContext) (plan : Option ControlWsConnectPlan) :
    Except String RelayTicket :=
  match plan.bind ControlWsConnectPlan.relayTicket with
  | some ticket => .ok ticket
  | none => core.issueRelayTicketWithOptions calls {
      networkId
      srcNodeId := context.srcNodeId
      dstNodeId := context.peer.nodeId
      derpClusterId := plan.bind fun plan =>
        if Text.isBlank plan.derpClusterId then none else some (Text.trim plan.derpClusterId)
      preferredDerpNodeIds := (plan.map ControlWsConnectPlan.preferredDerpNodeIds).getD []
      reason := "p2p_failed" }

/-- `none` where the DERP map has no cluster to use. -/
def connectViaDerpPool (core : AppCore Stream M) (calls : ConnectCalls Stream M)
    (derpMap : Option DerpMap) (networkId : String) (context : ConnectContext) :
    Except String (Option ConnectionState) × AppCore Stream M :=
  match selectDerpCluster derpMap with
  | none => (.ok none, core)
  | some cluster =>
    match core.issueRelayTicketWithOptions calls {
        networkId
        srcNodeId := context.srcNodeId
        dstNodeId := context.peer.nodeId
        derpClusterId := some cluster.clusterId
        preferredDerpNodeIds := cluster.nodes.map DerpNodeMeta.nodeId
        reason := "p2p_failed" } with
    | .error err => (.error err, core)
    | .ok ticket =>
      let installed := core.derpPool.installCluster cluster.clusterId cluster.nodes ticket
        calls.freshClient calls.nowMs
      match installed.warmUp calls.warmClients (max cluster.recommendedFanout 1) with
      | (.error err, derpPool) => (.error err, { core with derpPool })
      | (.ok (), warmed) =>
        let derpPool := ((warmed.tickHealthCheck calls.tickClients).maybeSwitch calls.nowMs).2
        let core := { core with derpPool }
        match derpPool.activeLink with
        | none => (.error "derp pool has no active link after warm up", core)
        | some _ => (.ok (some (.connected .derp)), core)

/-- `connect` where there is no P2P connection. -/
def fallBack (core : AppCore Stream M) (calls : ConnectCalls Stream M) (derpMap : Option DerpMap)
    (networkId : String) (context : ConnectContext) (plan : Option ControlWsConnectPlan) :
    Except String ConnectionState × AppCore Stream M :=
  if context.peer.relayAllowed = false then
    (.error ("peer " ++ context.peer.nodeId ++ " does not allow relay fallback"), core)
  else
    match core.connectViaDerpPool calls derpMap networkId context with
    | (.error err, core) => (.error err, core)
    | (.ok (some _), core) =>
      (core.onP2pFailed context.peer.nodeId "derp_fallback").finishManaged calls context
    | (.ok none, core) =>
      match core.relayTicketFromPlan calls networkId context plan with
      | .error err => (.error err, core)
      | .ok ticket =>
        match SocketRelayClient.connect calls.texts ticket (calls.relaySend ticket)
            (calls.relayAnswer ticket) with
        | .error err => (.error (PathManagerError.ofRelay err).message, core)
        | .ok relay =>
          let core : AppCore Stream M := { core with relay }
          (core.onP2pFailed context.peer.nodeId "relay_fallback").finishManaged calls context

def connect (core : AppCore Stream M) (calls : ConnectCalls Stream M) (derpMap : Option DerpMap)
    (networkId peerNodeId : String) : Except String ConnectionState × AppCore Stream M :=
  match resolveConnectContext core.facade.state peerNodeId with
  | .error err => (.error err, core)
  | .ok context =>
    let plan := core.facade.state.currentConnectPlans.get? context.peer.nodeId
    match (orderedPeerEndpoints context.peer plan).head? with
    | none => core.fallBack calls derpMap networkId context plan
    | some endpoint =>
      let (p2pState, p2p) := SocketP2PConnector.connect core.p2p
        ⟨context.peer.nodeId, endpoint.address, endpoint.endpointType⟩ calls.connectTcp
      let core : AppCore Stream M := { core with p2p }
      match p2pState with
      | .connected .p2p =>
        (core.onP2pRecovered context.peer.nodeId).finishConnect calls context (.connected .p2p)
      | .failed reason =>
        (core.onP2pFailed context.peer.nodeId reason).fallBack calls derpMap networkId context plan
      | _ => core.fallBack calls derpMap networkId context plan

/-- The record goes before the tunnel is closed. -/
def disconnect (core : AppCore Stream M) (host : TunnelHost M) :
    Except String Unit × AppCore Stream M :=
  let current := core.facade.currentTunnelPeerVirtualIp
  let core : AppCore Stream M := { core with
    facade := { core.facade with controlWs := none, currentTunnelPeerVirtualIp := none } }
  let disconnected (core : AppCore Stream M) : AppCore Stream M :=
    core.withState { core.facade.state with
      activePath := none
      tunnelPeerVirtualIp := none
      tunnelRuntime := none }
  match current with
  | none => (.ok (), disconnected core)
  | some peerVirtualIp =>
    match host.close core.tunnels peerVirtualIp with
    | (.error err, tunnels) => (.error err, { core with tunnels })
    | (.ok (), tunnels) => (.ok (), disconnected { core with tunnels })

def restoreSnapshot (core : AppCore Stream M) (snapshot : AppCoreSnapshot) : AppCore Stream M :=
  { core with facade := {
      state := snapshot
      controlWs := none
      currentTunnelPeerVirtualIp := snapshot.tunnelPeerVirtualIp } }

/-- The end of `control_sync`: the update goes into the snapshot, and then perhaps the tunnel is
replaced. -/
def commitControlSync (core : AppCore Stream M) (update : ControlWsBootstrapUpdate)
    (generate : TunnelKeyProvider) (host : TunnelHost M) (nowMs : Nat) :
    Except String BootstrapConfig × AppCore Stream M :=
  match commitUpdate core.facade.state update with
  | .error err => (.error err, core)
  | .ok (state, bootstrap, none) => (.ok bootstrap, core.withState state)
  | .ok (state, bootstrap, some reapply) =>
    let (keyPair, state) := ensureTunnelKeyPair state generate
      reapply.bootstrap.device.deviceId reapply.peer.nodeId nowMs
    let core := core.withState state
    match keyPair with
    | .error err => (.error err, core)
    | .ok keyPair =>
      match buildTunnelConfig reapply.activePath reapply.bootstrap reapply.peer keyPair with
      | none => (.ok bootstrap, core)
      | some config =>
        match replaceTunnelOn host core.tunnels core.facade.currentTunnelPeerVirtualIp
            (some config) with
        | (.error err, current, tunnels) => (.error err, core.withTunnel current tunnels)
        | (.ok (), current, tunnels) =>
          (.ok bootstrap, (core.withTunnel current tunnels).withState { state with
            tunnelPeerVirtualIp := some config.peerVirtualIp
            tunnelRuntime := some (buildTunnelRuntime config) })

end AppCore

/-! ## A client with one peer -/

def samplePeer : Peer :=
  ⟨"node-2", "dev-2", "key-2", "online", false, ["10.0.0.2"], [⟨"tcp", "203.0.113.2:7000", 0⟩], []⟩

def samplePeerMap : NetworkMap where
  selfUserId := "user-1"
  selfDeviceId := "dev-1"
  selfNodeId := "node-1"
  networkId := "net-1"
  revision := 1
  heartbeatSeconds := 30
  stunServers := []
  peers := [samplePeer]
  routes := []
  relayRegions := []
  dns := ⟨[], []⟩
  mtu := none

def sampleSnapshot : AppCoreSnapshot :=
  { AppCoreSnapshot.empty with
    currentNode := some ⟨"node-1", "key-1", []⟩
    currentBootstrap := some ⟨⟨"dev-1", some "10.0.0.1"⟩, ⟨"ws://controller/ws", none, 30⟩,
      some samplePeerMap⟩ }

def sampleClientSnapshot : DerpLinkSnapshot := ⟨.empty, .connecting, ⟨0, 0, 0, 0, 0, 0, 0⟩, false⟩

def unreachableClient : DerpClient where
  connectNode _ := ⟨.error "unreachable", sampleClientSnapshot⟩
  attachTicket _ := ⟨.error "unreachable", sampleClientSnapshot⟩
  sendTransportPacket _ := ⟨.error "unreachable", sampleClientSnapshot⟩
  pollTransportPacket := ⟨.error "unreachable", sampleClientSnapshot⟩
  probe := ⟨.error "unreachable", sampleClientSnapshot⟩
  close := ⟨.ok (), sampleClientSnapshot⟩

/-- The peer answers on TCP or not; no relay can be reached. -/
def sampleCalls {M : Type} (host : TunnelHost M) (connectTcp : Except String Unit) :
    ConnectCalls Unit M where
  connectTcp _ := connectTcp
  issueRelayTicket _ _ := .error "no relay"
  texts := ⟨fun _ => "", fun _ => "", fun _ => ""⟩
  relaySend _ := .error ⟨none, "unreachable"⟩
  relayAnswer _ := none
  freshClient := sampleClientSnapshot
  warmClients _ := unreachableClient
  tickClients _ := unreachableClient
  generate deviceId nodeId _ nowMs := .ok ⟨some deviceId, nodeId, ⟨"key-1", "private-1"⟩, nowMs⟩
  host
  nowMs := 0

end Slan.Client
