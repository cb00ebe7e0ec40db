import Slan.Client.AppProcess
import Slan.Client.PathTruth
import Slan.Client.TunnelTracking

/-! # A run that is cut into processes, beside the run in one -/

namespace Slan.Client

open Transition

/-! ## What has to be the same -/

section

variable {Stream M : Type}

/-- The same path, over a transport in the same state. -/
def SameTransport (left right : AppCore Stream M) : Prop :=
  left.path.activePath = right.path.activePath ∧
    match left.path.activePath with
    | .none => True
    | .p2p _ => left.p2p = right.p2p
    | .relay _ => left.relay = right.relay
    | .derp _ _ => left.derpPool = right.derpPool

/-- The pools are the same, or have no active link. -/
def SameActiveLink (left right : InMemoryDerpPool) : Prop :=
  left = right ∨ left.activeLink = none ∧ right.activeLink = none

/-- Two adapters know the device, and the peer, alike. -/
def SamePeer (left right : LinuxAdapter) (peerVirtualIp : String) : Prop :=
  left.interface.map LinuxKernelRuntime.name = right.interface.map LinuxKernelRuntime.name ∧
    left.peers.get? peerVirtualIp = right.peers.get? peerVirtualIp

/-- The same snapshot, and the same kernel. -/
structure SameCore (left right : AppCore Stream LinuxAdapter) : Prop where
  state : left.facade.state = right.facade.state
  kernel : left.tunnels.kernel = right.tunnels.kernel

/-- The same tunnel is recorded, and known alike if it is not the one to have. -/
def SameTunnel (left right : AppCore Stream LinuxAdapter) (next : Option String) : Prop :=
  left.facade.currentTunnelPeerVirtualIp = right.facade.currentTunnelPeerVirtualIp ∧
    ∀ peerVirtualIp, left.facade.currentTunnelPeerVirtualIp = some peerVirtualIp →
      some peerVirtualIp ≠ next → SamePeer left.tunnels right.tunnels peerVirtualIp

/-- The heartbeat once the update is in the bootstrap. -/
def ControlWsBootstrapUpdate.heartbeatIn (update : ControlWsBootstrapUpdate)
    (current : BootstrapConfig) : Nat :=
  if 0 < update.heartbeatSeconds then update.heartbeatSeconds
  else (update.bootstrapOverride.getD current).controlPlane.heartbeatSeconds

/-- Two updates say the same. -/
structure SameUpdate (state : AppCoreSnapshot) (left right : ControlWsBootstrapUpdate) : Prop where
  bootstrapOverride : left.bootstrapOverride = right.bootstrapOverride
  networkMap : left.networkMap = right.networkMap
  connectPlans : left.connectPlans = right.connectPlans
  deviceIpUpdates : left.deviceIpUpdates = right.deviceIpUpdates
  heartbeat : ∀ current, state.currentBootstrap = some current →
    left.heartbeatIn current = right.heartbeatIn current

/-- The peer that the tunnel of a configuration leads to. -/
def tunnelTarget (bootstrap : BootstrapConfig) (peer : Peer) : Option String :=
  bootstrap.device.virtualIp.bind fun _ => peer.virtualIps.head?

/-! ## `connect` up to its path -/

namespace AppCore

/-- A fallback, up to the path that it sets. -/
def fallBackRoute (core : AppCore Stream M) (calls : ConnectCalls Stream M)
    (derpMap : Option DerpMap) (networkId : String) (context : ConnectContext)
    (plan : Option ControlWsConnectPlan) : Except String ConnectContext × AppCore Stream M :=
  if context.peer.relayAllowed = false then
    (.error ("peer " ++ context.peer.nodeId ++ " does not allow relay fallback"), core)
  else
    match core.connectViaDerpPool calls derpMap networkId context with
    | (.error err, core) => (.error err, core)
    | (.ok (some _), core) => (.ok context, core.onP2pFailed context.peer.nodeId "derp_fallback")
    | (.ok none, core) =>
      match core.relayTicketFromPlan calls networkId context plan with
      | .error err => (.error err, core)
      | .ok ticket =>
        match SocketRelayClient.connect calls.texts ticket (calls.relaySend ticket)
            (calls.relayAnswer ticket) with
        | .error err => (.error (PathManagerError.ofRelay err).message, core)
        | .ok relay =>
          let core : AppCore Stream M := { core with relay }
          (.ok context, core.onP2pFailed context.peer.nodeId "relay_fallback")

/-- A connect, up to the path that it sets. -/
def route (core : AppCore Stream M) (calls : ConnectCalls Stream M) (derpMap : Option DerpMap)
    (networkId peerNodeId : String) : Except String ConnectContext × AppCore Stream M :=
  match resolveConnectContext core.facade.state peerNodeId with
  | .error err => (.error err, core)
  | .ok context =>
    let plan := core.facade.state.currentConnectPlans.get? context.peer.nodeId
    match (orderedPeerEndpoints context.peer plan).head? with
    | none => core.fallBackRoute calls derpMap networkId context plan
    | some endpoint =>
      let (p2pState, p2p) := SocketP2PConnector.connect core.p2p
        ⟨context.peer.nodeId, endpoint.address, endpoint.endpointType⟩ calls.connectTcp
      let core : AppCore Stream M := { core with p2p }
      match p2pState with
      | .connected .p2p => (.ok context, core.onP2pRecovered context.peer.nodeId)
      | .failed reason =>
        (core.onP2pFailed context.peer.nodeId reason).fallBackRoute calls derpMap networkId context
          plan
      | _ => core.fallBackRoute calls derpMap networkId context plan

def finishRoute (calls : ConnectCalls Stream M) :
    Except String ConnectContext × AppCore Stream M →
      Except String ConnectionState × AppCore Stream M
  | (.error err, core) => (.error err, core)
  | (.ok context, core) => core.finishManaged calls context

theorem fallBack_eq (core : AppCore Stream M) (calls : ConnectCalls Stream M)
    (derpMap : Option DerpMap) (networkId : String) (context : ConnectContext)
    (plan : Option ControlWsConnectPlan) : core.fallBack calls derpMap networkId context plan =
      finishRoute calls (core.fallBackRoute calls derpMap networkId context plan) := by
  unfold fallBack fallBackRoute
  by_cases hallowed : context.peer.relayAllowed = false
  · rw [if_pos hallowed, if_pos hallowed]
    rfl
  · rw [if_neg hallowed, if_neg hallowed]
    rcases core.connectViaDerpPool calls derpMap networkId context with ⟨err | _ | _, next⟩
    · rfl
    · dsimp only
      cases next.relayTicketFromPlan calls networkId context plan with
      | error err => rfl
      | ok ticket =>
        dsimp only
        cases SocketRelayClient.connect calls.texts ticket (calls.relaySend ticket)
            (calls.relayAnswer ticket) <;> rfl
    · rfl

theorem connect_eq (core : AppCore Stream M) (calls : ConnectCalls Stream M)
    (derpMap : Option DerpMap) (networkId peerNodeId : String) :
    core.connect calls derpMap networkId peerNodeId =
      finishRoute calls (core.route calls derpMap networkId peerNodeId) := by
  unfold connect route
  cases resolveConnectContext core.facade.state peerNodeId with
  | error err => rfl
  | ok context =>
    dsimp only
    cases (orderedPeerEndpoints context.peer
        (core.facade.state.currentConnectPlans.get? context.peer.nodeId)).head? with
    | none => exact fallBack_eq core calls derpMap networkId context _
    | some endpoint =>
      dsimp only
      obtain ⟨stream, hconnect⟩ | ⟨reason, hconnect⟩ := p2pConnect_cases core.p2p
        ⟨context.peer.nodeId, endpoint.address, endpoint.endpointType⟩ calls.connectTcp
      · rw [hconnect]
        rfl
      · rw [hconnect]
        exact fallBack_eq _ calls derpMap networkId context _

/-! ### On two sides -/

variable {left right : AppCore Stream M}

theorem p2pConnect_alike (state state' : P2PState Stream) (peer : PeerCandidate)
    (connectTcp : String → Except String Stream) :
    (∃ p2p, SocketP2PConnector.connect state peer connectTcp = (.connected .p2p, p2p) ∧
      SocketP2PConnector.connect state' peer connectTcp = (.connected .p2p, p2p)) ∨
    ∃ reason, SocketP2PConnector.connect state peer connectTcp = (.failed reason, state) ∧
      SocketP2PConnector.connect state' peer connectTcp = (.failed reason, state') := by
  unfold SocketP2PConnector.connect
  split
  · cases connectTcp peer.endpoint with
    | ok stream => exact .inl ⟨_, rfl, rfl⟩
    | error reason => exact .inr ⟨_, rfl, rfl⟩
  · exact .inr ⟨_, rfl, rfl⟩
  · exact .inr ⟨_, rfl, rfl⟩

theorem issueRelayTicket_alike (h : left.facade.state = right.facade.state)
    (calls : ConnectCalls Stream M) (request : RelayTicketRequest) :
    left.issueRelayTicketWithOptions calls request =
      right.issueRelayTicketWithOptions calls request := by
  unfold issueRelayTicketWithOptions AppCore.withAccessToken
  rw [h]

theorem relayTicketFromPlan_alike (h : left.facade.state = right.facade.state)
    (calls : ConnectCalls Stream M) (networkId : String) (context : ConnectContext)
    (plan : Option ControlWsConnectPlan) :
    left.relayTicketFromPlan calls networkId context plan =
      right.relayTicketFromPlan calls networkId context plan := by
  unfold relayTicketFromPlan
  rw [issueRelayTicket_alike h]

/-- What an install leaves of a pool is nothing. -/
theorem connectViaDerpPool_alike (h : left.facade.state = right.facade.state)
    (calls : ConnectCalls Stream M) (derpMap : Option DerpMap) (networkId : String)
    (context : ConnectContext) :
    (selectDerpCluster derpMap = none ∧
      left.connectViaDerpPool calls derpMap networkId context = (.ok none, left) ∧
      right.connectViaDerpPool calls derpMap networkId context = (.ok none, right)) ∨
    (∃ err leftPool rightPool,
      left.connectViaDerpPool calls derpMap networkId context =
        (.error err, { left with derpPool := leftPool }) ∧
      right.connectViaDerpPool calls derpMap networkId context =
        (.error err, { right with derpPool := rightPool })) ∨
    ∃ connectionState derpPool,
      left.connectViaDerpPool calls derpMap networkId context =
        (.ok (some connectionState), { left with derpPool }) ∧
      right.connectViaDerpPool calls derpMap networkId context =
        (.ok (some connectionState), { right with derpPool }) ∧
      derpPool.activeLink.isSome = true := by
  unfold connectViaDerpPool
  cases selectDerpCluster derpMap with
  | none => exact .inl ⟨rfl, rfl, rfl⟩
  | some cluster =>
    refine .inr ?_
    dsimp only
    rw [issueRelayTicket_alike h]
    cases right.issueRelayTicketWithOptions calls _ with
    | error err => exact .inl ⟨err, _, _, rfl, rfl⟩
    | ok ticket =>
      dsimp only
      -- an install puts a pool of its own in the place of the old one
      have hinstall : left.derpPool.installCluster cluster.clusterId cluster.nodes ticket
          calls.freshClient calls.nowMs = right.derpPool.installCluster cluster.clusterId
            cluster.nodes ticket calls.freshClient calls.nowMs := rfl
      rw [hinstall]
      rcases (right.derpPool.installCluster cluster.clusterId cluster.nodes ticket
        calls.freshClient calls.nowMs).warmUp calls.warmClients (max cluster.recommendedFanout 1)
        with ⟨err | _, warmed⟩
      · exact .inl ⟨err, _, _, rfl, rfl⟩
      · dsimp only
        generalize ((warmed.tickHealthCheck calls.tickClients).maybeSwitch calls.nowMs).2 = readied
        cases hlink : readied.activeLink with
        | none => exact .inl ⟨_, _, _, rfl, rfl⟩
        | some link => exact .inr ⟨_, readied, rfl, rfl, by rw [hlink]; rfl⟩

/-- Where neither pool has an active link, the fallback is the relay. -/
theorem onP2pFailed_sameTransport (left right : AppCore Stream M)
    (h : SameActiveLink left.derpPool right.derpPool)
    (hrelay : left.derpPool.activeLink = none → left.relay = right.relay)
    (peerNodeId reason reason' : String) :
    SameTransport (left.onP2pFailed peerNodeId reason) (right.onP2pFailed peerNodeId reason') := by
  have hpath : PathState.fallbackPath left.derpPool peerNodeId =
      PathState.fallbackPath right.derpPool peerNodeId := by
    obtain hsame | ⟨hleft, hright⟩ := h
    · rw [hsame]
    · rw [PathState.fallbackPath, PathState.fallbackPath, hleft, hright]
  refine ⟨hpath, ?_⟩
  change match PathState.fallbackPath left.derpPool peerNodeId with
    | .none => True
    | .p2p _ => left.p2p = right.p2p
    | .relay _ => left.relay = right.relay
    | .derp _ _ => left.derpPool = right.derpPool
  unfold PathState.fallbackPath
  cases hlink : left.derpPool.activeLink with
  | none => exact hrelay hlink
  | some link =>
    obtain hsame | ⟨hleft, -⟩ := h
    · exact hsame
    · cases hlink.symm.trans hleft

theorem fallBackRoute_alike (h : left.facade.state = right.facade.state)
    (calls : ConnectCalls Stream M) (derpMap : Option DerpMap) (networkId : String)
    (context : ConnectContext) (plan : Option ControlWsConnectPlan) :
    let leftRoute := left.fallBackRoute calls derpMap networkId context plan
    let rightRoute := right.fallBackRoute calls derpMap networkId context plan
    leftRoute.1 = rightRoute.1 ∧
      ((selectDerpCluster derpMap = none → SameActiveLink left.derpPool right.derpPool) →
        ∀ found, leftRoute.1 = .ok found → SameTransport leftRoute.2 rightRoute.2) := by
  unfold fallBackRoute
  by_cases hallowed : context.peer.relayAllowed = false
  · rw [if_pos hallowed, if_pos hallowed]
    exact ⟨rfl, fun _ _ hfound => nomatch hfound⟩
  · rw [if_neg hallowed, if_neg hallowed]
    obtain ⟨hnone, hleft, hright⟩ | ⟨err, leftPool, rightPool, hleft, hright⟩ |
      ⟨connectionState, derpPool, hleft, hright, hlink⟩ :=
      connectViaDerpPool_alike h calls derpMap networkId context
    · rw [hleft, hright]
      dsimp only
      rw [relayTicketFromPlan_alike h]
      cases right.relayTicketFromPlan calls networkId context plan with
      | error err => exact ⟨rfl, fun _ _ hfound => nomatch hfound⟩
      | ok ticket =>
        dsimp only
        cases SocketRelayClient.connect calls.texts ticket (calls.relaySend ticket)
            (calls.relayAnswer ticket) with
        | error err => exact ⟨rfl, fun _ _ hfound => nomatch hfound⟩
        | ok relay =>
          refine ⟨rfl, fun hpool found _ => ?_⟩
          exact onP2pFailed_sameTransport { left with relay } { right with relay } (hpool hnone)
            (fun _ => rfl) _ _ _
    · rw [hleft, hright]
      exact ⟨rfl, fun _ _ hfound => nomatch hfound⟩
    · rw [hleft, hright]
      refine ⟨rfl, fun _ found _ => ?_⟩
      refine onP2pFailed_sameTransport { left with derpPool } { right with derpPool } (.inl rfl)
        (fun hnone => ?_) _ _ _
      change derpPool.activeLink = none at hnone
      rw [hnone] at hlink
      cases hlink

/-- A fallback that finds a way has given up the direct one. -/
theorem fallBackRoute_eq_ok {core : AppCore Stream M} {calls : ConnectCalls Stream M}
    {derpMap : Option DerpMap} {networkId : String} {context found : ConnectContext}
    {plan : Option ControlWsConnectPlan}
    (h : (core.fallBackRoute calls derpMap networkId context plan).1 = .ok found) :
    ∃ (next : AppCore Stream M) (reason : String),
      (core.fallBackRoute calls derpMap networkId context plan).2 =
        next.onP2pFailed context.peer.nodeId reason := by
  unfold fallBackRoute at h ⊢
  by_cases hallowed : context.peer.relayAllowed = false
  · rw [if_pos hallowed] at h
    cases h
  · rw [if_neg hallowed] at h ⊢
    rcases hpool : core.connectViaDerpPool calls derpMap networkId context with ⟨err | _ | _, next⟩
    · rw [hpool] at h
      cases h
    · rw [hpool] at h
      dsimp only at h ⊢
      cases hticket : next.relayTicketFromPlan calls networkId context plan with
      | error err =>
        rw [hticket] at h
        cases h
      | ok ticket =>
        rw [hticket] at h
        dsimp only at h ⊢
        cases hrelay : SocketRelayClient.connect calls.texts ticket (calls.relaySend ticket)
            (calls.relayAnswer ticket) with
        | error err =>
          rw [hrelay] at h
          cases h
        | ok relay => exact ⟨_, _, rfl⟩
    · exact ⟨_, _, rfl⟩

/-- A fallback does not end on a direct path. -/
theorem fallBackRoute_path (core : AppCore Stream M) (calls : ConnectCalls Stream M)
    (derpMap : Option DerpMap) (networkId : String) (context : ConnectContext)
    (plan : Option ControlWsConnectPlan) (found : ConnectContext)
    (h : (core.fallBackRoute calls derpMap networkId context plan).1 = .ok found)
    (nodeId : String) :
    (core.fallBackRoute calls derpMap networkId context plan).2.path.activePath ≠ .p2p nodeId := by
  obtain ⟨next, reason, hnext⟩ := fallBackRoute_eq_ok h
  rw [hnext]
  change PathState.fallbackPath next.derpPool context.peer.nodeId ≠ .p2p nodeId
  unfold PathState.fallbackPath
  split <;> exact nofun

/-- With the same snapshot a connect takes the same way. -/
theorem route_alike (h : left.facade.state = right.facade.state) (calls : ConnectCalls Stream M)
    (derpMap : Option DerpMap) (networkId peerNodeId : String) :
    let leftRoute := left.route calls derpMap networkId peerNodeId
    let rightRoute := right.route calls derpMap networkId peerNodeId
    leftRoute.1 = rightRoute.1 ∧
      ∀ found, leftRoute.1 = .ok found →
        (selectDerpCluster derpMap = none →
          (∀ nodeId, leftRoute.2.path.activePath ≠ .p2p nodeId) →
            SameActiveLink left.derpPool right.derpPool) →
        SameTransport leftRoute.2 rightRoute.2 := by
  unfold route
  rw [h]
  cases resolveConnectContext right.facade.state peerNodeId with
  | error err => exact ⟨rfl, fun _ hfound => nomatch hfound⟩
  | ok context =>
    dsimp only
    cases (orderedPeerEndpoints context.peer
        (right.facade.state.currentConnectPlans.get? context.peer.nodeId)).head? with
    | none =>
      obtain ⟨hresult, htransport⟩ := fallBackRoute_alike h calls derpMap networkId context
        (right.facade.state.currentConnectPlans.get? context.peer.nodeId)
      refine ⟨hresult, fun found hfound hpool => htransport (fun hnone => ?_) found hfound⟩
      exact hpool hnone (fallBackRoute_path _ _ _ _ _ _ found hfound)
    | some endpoint =>
      dsimp only
      obtain ⟨p2p, hleft, hright⟩ | ⟨reason, hleft, hright⟩ := p2pConnect_alike left.p2p right.p2p
        ⟨context.peer.nodeId, endpoint.address, endpoint.endpointType⟩ calls.connectTcp
      · rw [hleft, hright]
        exact ⟨rfl, fun _ _ _ => ⟨rfl, rfl⟩⟩
      · rw [hleft, hright]
        dsimp only
        have hfailed : (left.onP2pFailed context.peer.nodeId reason).facade.state =
            (right.onP2pFailed context.peer.nodeId reason).facade.state := h
        obtain ⟨hresult, htransport⟩ := fallBackRoute_alike hfailed calls derpMap networkId context
          (right.facade.state.currentConnectPlans.get? context.peer.nodeId)
        refine ⟨hresult, fun found hfound hpool => htransport (fun hnone => ?_) found hfound⟩
        exact hpool hnone (fallBackRoute_path _ _ _ _ _ _ found hfound)

/-- A way leaves the snapshot, the record of the tunnel, and the tunnels. -/
theorem fallBackRoute_frame (core : AppCore Stream M) (calls : ConnectCalls Stream M)
    (derpMap : Option DerpMap) (networkId : String) (context : ConnectContext)
    (plan : Option ControlWsConnectPlan) :
    let next := (core.fallBackRoute calls derpMap networkId context plan).2
    next.facade = core.facade ∧ next.tunnels = core.tunnels := by
  have hpool := connectViaDerpPool_tunnels core calls derpMap networkId context
  unfold fallBackRoute
  split
  · exact ⟨rfl, rfl⟩
  · rcases hrun : core.connectViaDerpPool calls derpMap networkId context with ⟨err | _ | _, next⟩
    · rw [hrun] at hpool
      exact hpool
    · rw [hrun] at hpool
      dsimp only
      cases next.relayTicketFromPlan calls networkId context plan with
      | error err => exact hpool
      | ok ticket =>
        dsimp only
        cases SocketRelayClient.connect calls.texts ticket (calls.relaySend ticket)
            (calls.relayAnswer ticket) with
        | error err => exact hpool
        | ok relay => exact hpool
    · rw [hrun] at hpool
      exact hpool

theorem route_frame (core : AppCore Stream M) (calls : ConnectCalls Stream M)
    (derpMap : Option DerpMap) (networkId peerNodeId : String) :
    let next := (core.route calls derpMap networkId peerNodeId).2
    next.facade = core.facade ∧ next.tunnels = core.tunnels := by
  unfold route
  cases resolveConnectContext core.facade.state peerNodeId with
  | error err => exact ⟨rfl, rfl⟩
  | ok context =>
    dsimp only
    cases (orderedPeerEndpoints context.peer
        (core.facade.state.currentConnectPlans.get? context.peer.nodeId)).head? with
    | none => exact fallBackRoute_frame _ _ _ _ _ _
    | some endpoint =>
      dsimp only
      obtain ⟨stream, hconnect⟩ | ⟨reason, hconnect⟩ := p2pConnect_cases core.p2p
        ⟨context.peer.nodeId, endpoint.address, endpoint.endpointType⟩ calls.connectTcp
      · rw [hconnect]
        exact ⟨rfl, rfl⟩
      · rw [hconnect]
        exact fallBackRoute_frame _ _ _ _ _ _

end AppCore

end

/-! ## The Linux backend on two sides -/

namespace LinuxAdapter

variable {left right : LinuxAdapter}

theorem removePeer_alike (hkernel : left.kernel = right.kernel) {peerVirtualIp : String}
    (h : SamePeer left right peerVirtualIp) (outcomes : Nat → LinuxOutcome) :
    (left.removePeer outcomes peerVirtualIp).1 = (right.removePeer outcomes peerVirtualIp).1 ∧
      (left.removePeer outcomes peerVirtualIp).2.kernel =
        (right.removePeer outcomes peerVirtualIp).2.kernel := by
  obtain ⟨hname, hpeer⟩ := h
  unfold removePeer
  cases hleft : left.interface with
  | none =>
    rw [hleft] at hname
    have hright : right.interface = none := Option.map_eq_none_iff.mp hname.symm
    rw [hright]
    exact ⟨rfl, hkernel⟩
  | some runtime =>
    rw [hleft] at hname
    obtain ⟨runtime', hright, hsame⟩ := Option.map_eq_some_iff.mp hname.symm
    rw [hright]
    dsimp only
    rw [hpeer]
    cases right.peers.get? peerVirtualIp with
    | none => exact ⟨rfl, hkernel⟩
    | some peer =>
      dsimp only
      rw [hkernel, hsame]
      exact ⟨rfl, rfl⟩

theorem applyInterfaceConfig_alike (hkernel : left.kernel = right.kernel)
    (outcomes : Nat → LinuxOutcome) (interface : WireGuardInterfaceConfig) :
    (∃ err kernel,
      left.applyInterfaceConfig outcomes interface = (.error err, { left with kernel }) ∧
      right.applyInterfaceConfig outcomes interface = (.error err, { right with kernel })) ∨
    ∃ runtime kernel,
      left.applyInterfaceConfig outcomes interface =
        (.ok (), { left with interface := some runtime, kernel }) ∧
      right.applyInterfaceConfig outcomes interface =
        (.ok (), { right with interface := some runtime, kernel }) := by
  unfold applyInterfaceConfig
  cases LinuxMapper.validateInterface interface with
  | error err =>
    refine .inl ⟨err, right.kernel, ?_, rfl⟩
    rw [← hkernel]
  | ok _ =>
    dsimp only
    unfold applyInterface
    rw [hkernel]
    rcases runAll right.kernel _ with ⟨err | _, kernel⟩
    · exact .inl ⟨err, kernel, rfl, rfl⟩
    · exact .inr ⟨_, kernel, rfl, rfl⟩

/-- An `establish` does not look at what the adapter knew. -/
theorem establish_alike (hkernel : left.kernel = right.kernel) (outcomes : LinuxOutcomes)
    (config : TunnelConfig) :
    (left.establish outcomes config).1 = (right.establish outcomes config).1 ∧
      (left.establish outcomes config).2.kernel = (right.establish outcomes config).2.kernel := by
  unfold establish
  cases LinuxMapper.validateConfig config with
  | error err => exact ⟨rfl, hkernel⟩
  | ok _ =>
    dsimp only
    obtain ⟨err, kernel, hleft, hright⟩ | ⟨runtime, kernel, hleft, hright⟩ :=
      applyInterfaceConfig_alike hkernel outcomes.interface config.wireguardInterface
    · rw [hleft, hright]
      exact ⟨rfl, rfl⟩
    · rw [hleft, hright]
      dsimp only
      unfold applyPeerConfig
      cases LinuxMapper.validatePeer config.peerVirtualIp config.wireguardPeer with
      | error err => exact ⟨rfl, rfl⟩
      | ok _ =>
        dsimp only [applyPeer]
        rcases runAll kernel _ with ⟨err | _, kernel'⟩
        · exact ⟨rfl, rfl⟩
        · dsimp only [bringUp, setLink]
          rcases runAll kernel' _ with ⟨err | _, kernel''⟩ <;> exact ⟨rfl, rfl⟩

end LinuxAdapter

section

variable {left right : LinuxAdapter}

theorem closeOther_alike (hkernel : left.kernel = right.kernel) (linux : LinuxCalls)
    {current next : Option String}
    (h : ∀ peerVirtualIp, current = some peerVirtualIp → some peerVirtualIp ≠ next →
      SamePeer left right peerVirtualIp) :
    let leftClosed := closeOther (linuxHost linux) left current next
    let rightClosed := closeOther (linuxHost linux) right current next
    leftClosed.1 = rightClosed.1 ∧ leftClosed.2.1 = rightClosed.2.1 ∧
      leftClosed.2.2.kernel = rightClosed.2.2.kernel := by
  unfold closeOther
  cases current with
  | none => exact ⟨rfl, rfl, hkernel⟩
  | some peerVirtualIp =>
    dsimp only [linuxHost]
    by_cases hnext : some peerVirtualIp ≠ next
    · rw [if_pos hnext, if_pos hnext]
      have hremoved := LinuxAdapter.removePeer_alike hkernel (h peerVirtualIp rfl hnext) linux.close
      generalize left.removePeer linux.close peerVirtualIp = leftRemoved at hremoved ⊢
      generalize right.removePeer linux.close peerVirtualIp = rightRemoved at hremoved ⊢
      obtain ⟨leftResult, left'⟩ := leftRemoved
      obtain ⟨rightResult, right'⟩ := rightRemoved
      obtain ⟨rfl, hkernel'⟩ := hremoved
      cases leftResult <;> exact ⟨rfl, rfl, hkernel'⟩
    · rw [if_neg hnext, if_neg hnext]
      exact ⟨rfl, rfl, hkernel⟩

theorem replaceTunnelOn_alike (hkernel : left.kernel = right.kernel) (linux : LinuxCalls)
    {current : Option String} (config : Option TunnelConfig)
    (h : ∀ peerVirtualIp, current = some peerVirtualIp →
      some peerVirtualIp ≠ config.map TunnelConfig.peerVirtualIp →
      SamePeer left right peerVirtualIp) :
    let leftReplaced := replaceTunnelOn (linuxHost linux) left current config
    let rightReplaced := replaceTunnelOn (linuxHost linux) right current config
    leftReplaced.1 = rightReplaced.1 ∧ leftReplaced.2.1 = rightReplaced.2.1 ∧
      leftReplaced.2.2.kernel = rightReplaced.2.2.kernel := by
  have hclosed := closeOther_alike hkernel linux h
  unfold replaceTunnelOn
  generalize closeOther (linuxHost linux) left current (config.map TunnelConfig.peerVirtualIp) =
    leftClosed at hclosed ⊢
  generalize closeOther (linuxHost linux) right current (config.map TunnelConfig.peerVirtualIp) =
    rightClosed at hclosed ⊢
  obtain ⟨leftResult, leftCurrent, left'⟩ := leftClosed
  obtain ⟨rightResult, rightCurrent, right'⟩ := rightClosed
  obtain ⟨rfl, rfl, hkernel'⟩ := hclosed
  dsimp only at hkernel' ⊢
  cases leftResult with
  | error err => exact ⟨rfl, rfl, hkernel'⟩
  | ok _ =>
    cases config with
    | none => exact ⟨rfl, rfl, hkernel'⟩
    | some config =>
      dsimp only [linuxHost]
      by_cases hcurrent : leftCurrent ≠ some config.peerVirtualIp
      · rw [if_pos hcurrent, if_pos hcurrent]
        have hestablished := LinuxAdapter.establish_alike hkernel' linux.establish config
        generalize left'.establish linux.establish config = leftEnd at hestablished ⊢
        generalize right'.establish linux.establish config = rightEnd at hestablished ⊢
        obtain ⟨leftResult, left''⟩ := leftEnd
        obtain ⟨rightResult, right''⟩ := rightEnd
        obtain ⟨rfl, hkernel''⟩ := hestablished
        cases leftResult <;> exact ⟨rfl, rfl, hkernel''⟩
      · rw [if_neg hcurrent, if_neg hcurrent]
        exact ⟨rfl, rfl, hkernel'⟩

end

/-! ## The calls of the facade on two sides -/

theorem buildTunnelConfig_target (activePath : ActivePath) (h : activePath ≠ .none)
    (bootstrap : BootstrapConfig) (peer : Peer) (keyPair : WireGuardKeyPair) :
    (buildTunnelConfig activePath bootstrap peer keyPair).map TunnelConfig.peerVirtualIp =
      tunnelTarget bootstrap peer := by
  obtain ⟨transport, htransport⟩ : ∃ transport, transportFromActivePath activePath =
      some transport := by
    cases activePath with
    | none => exact absurd rfl h
    | p2p nodeId => exact ⟨_, rfl⟩
    | relay nodeId => exact ⟨_, rfl⟩
    | derp clusterId nodeId => exact ⟨_, rfl⟩
  unfold buildTunnelConfig tunnelTarget
  rw [htransport]
  cases bootstrap.device.virtualIp with
  | none => rfl
  | some localVirtualIp =>
    cases peer.virtualIps.head? <;> rfl

namespace AppCore

variable {Stream : Type} {left right : AppCore Stream LinuxAdapter}

theorem finalizeConnectedPath_alike (h : SameCore left right) (linux : LinuxCalls)
    (activePath : ActivePath) {config : Option TunnelConfig}
    (htunnel : SameTunnel left right (config.map TunnelConfig.peerVirtualIp)) :
    let leftFinal := left.finalizeConnectedPath (linuxHost linux) activePath config
    let rightFinal := right.finalizeConnectedPath (linuxHost linux) activePath config
    leftFinal.1 = rightFinal.1 ∧ SameCore leftFinal.2 rightFinal.2 := by
  obtain ⟨hstate, hkernel⟩ := h
  obtain ⟨hcurrent, hpeer⟩ := htunnel
  have hreplaced := replaceTunnelOn_alike hkernel linux config hpeer
  unfold finalizeConnectedPath
  rw [← hcurrent]
  generalize replaceTunnelOn (linuxHost linux) left.tunnels
    left.facade.currentTunnelPeerVirtualIp config = leftReplaced at hreplaced ⊢
  generalize replaceTunnelOn (linuxHost linux) right.tunnels
    left.facade.currentTunnelPeerVirtualIp config = rightReplaced at hreplaced ⊢
  obtain ⟨leftResult, leftCurrent, left'⟩ := leftReplaced
  obtain ⟨rightResult, rightCurrent, right'⟩ := rightReplaced
  obtain ⟨rfl, rfl, hkernel'⟩ := hreplaced
  cases leftResult with
  | error err => exact ⟨rfl, hstate, hkernel'⟩
  | ok _ =>
    refine ⟨rfl, ?_, hkernel'⟩
    dsimp only [withState, withTunnel]
    rw [hstate]

theorem finishConnect_alike (h : SameCore left right)
    (hpath : left.path.activePath = right.path.activePath) (hset : left.path.activePath ≠ .none)
    (calls : ConnectCalls Stream LinuxAdapter) (linux : LinuxCalls)
    (hhost : calls.host = linuxHost linux) {context : ConnectContext}
    (htunnel : SameTunnel left right (tunnelTarget context.bootstrap context.peer))
    (connectionState : ConnectionState) :
    let leftEnd := left.finishConnect calls context connectionState
    let rightEnd := right.finishConnect calls context connectionState
    leftEnd.1 = rightEnd.1 ∧ SameCore leftEnd.2 rightEnd.2 := by
  unfold finishConnect
  rw [h.state, hhost, ← hpath]
  rcases ensureTunnelKeyPair right.facade.state calls.generate context.bootstrap.device.deviceId
    context.peer.nodeId calls.nowMs with ⟨err | keyPair, state⟩
  · exact ⟨rfl, rfl, h.kernel⟩
  · dsimp only
    have hsame : SameCore (left.withState state) (right.withState state) := ⟨rfl, h.kernel⟩
    have htarget := buildTunnelConfig_target left.path.activePath hset context.bootstrap
      context.peer keyPair
    rw [← htarget] at htunnel
    have htunnel' : SameTunnel (left.withState state) (right.withState state) _ := htunnel
    have hfinal := finalizeConnectedPath_alike hsame linux left.path.activePath htunnel'
    generalize (left.withState state).finalizeConnectedPath (linuxHost linux) _ _ = leftFinal
      at hfinal ⊢
    generalize (right.withState state).finalizeConnectedPath (linuxHost linux) _ _ = rightFinal
      at hfinal ⊢
    obtain ⟨leftResult, left'⟩ := leftFinal
    obtain ⟨rightResult, right'⟩ := rightFinal
    obtain ⟨rfl, hsame'⟩ := hfinal
    cases leftResult <;> exact ⟨rfl, hsame'⟩

/-- The end of a connect, on the same path. -/
theorem finishManaged_alike (h : SameCore left right)
    (hpath : left.path.activePath = right.path.activePath)
    (calls : ConnectCalls Stream LinuxAdapter) (linux : LinuxCalls)
    (hhost : calls.host = linuxHost linux) {context : ConnectContext}
    (htunnel : SameTunnel left right (tunnelTarget context.bootstrap context.peer)) :
    let leftEnd := left.finishManaged calls context
    let rightEnd := right.finishManaged calls context
    leftEnd.1 = rightEnd.1 ∧ SameCore leftEnd.2 rightEnd.2 := by
  by_cases hset : left.path.activePath = .none
  · have hset' : right.path.activePath = .none := hpath.symm.trans hset
    unfold finishManaged
    rw [hset, hset', h.state]
    exact ⟨rfl, rfl, h.kernel⟩
  · unfold finishManaged
    rw [← hpath]
    split
    · exact finishConnect_alike h hpath hset calls linux hhost htunnel _
    · rw [h.state]
      exact ⟨rfl, rfl, h.kernel⟩

theorem finishManaged_frame (core : AppCore Stream LinuxAdapter)
    (calls : ConnectCalls Stream LinuxAdapter) (context : ConnectContext) :
    let next := (core.finishManaged calls context).2
    next.path = core.path ∧ next.p2p = core.p2p ∧ next.relay = core.relay ∧
      next.derpPool = core.derpPool := by
  unfold finishManaged
  split
  · exact finishConnect_frame core calls context _
  · exact ⟨rfl, rfl, rfl, rfl⟩

/-- A connect that finds a way finds the pool, where it goes over that of before, and the tunnel
alike. -/
def ConnectsAlike (left right : AppCore Stream LinuxAdapter)
    (calls : ConnectCalls Stream LinuxAdapter) (derpMap : Option DerpMap)
    (networkId peerNodeId : String) : Prop :=
  ∀ context, (left.route calls derpMap networkId peerNodeId).1 = .ok context →
    SameTunnel left right (tunnelTarget context.bootstrap context.peer) ∧
      (selectDerpCluster derpMap = none →
        (∀ nodeId, (left.route calls derpMap networkId peerNodeId).2.path.activePath ≠
          .p2p nodeId) →
        SameActiveLink left.derpPool right.derpPool)

theorem connect_alike (h : SameCore left right) (calls : ConnectCalls Stream LinuxAdapter)
    (linux : LinuxCalls) (hhost : calls.host = linuxHost linux) {derpMap : Option DerpMap}
    {networkId peerNodeId : String}
    (halike : ConnectsAlike left right calls derpMap networkId peerNodeId) :
    let leftEnd := left.connect calls derpMap networkId peerNodeId
    let rightEnd := right.connect calls derpMap networkId peerNodeId
    leftEnd.1 = rightEnd.1 ∧ SameCore leftEnd.2 rightEnd.2 ∧
      (leftEnd.1.isOk = true → SameTransport leftEnd.2 rightEnd.2) := by
  rw [connect_eq, connect_eq]
  unfold ConnectsAlike at halike
  obtain ⟨hresult, htransport⟩ := route_alike h.state calls derpMap networkId peerNodeId
  obtain ⟨hleftFacade, hleftTunnels⟩ := route_frame left calls derpMap networkId peerNodeId
  obtain ⟨hrightFacade, hrightTunnels⟩ := route_frame right calls derpMap networkId peerNodeId
  generalize left.route calls derpMap networkId peerNodeId = leftRoute at *
  generalize right.route calls derpMap networkId peerNodeId = rightRoute at *
  obtain ⟨leftResult, left'⟩ := leftRoute
  obtain ⟨rightResult, right'⟩ := rightRoute
  dsimp only at *
  subst hresult
  have hsame : SameCore left' right' := by
    constructor
    · rw [hleftFacade, hrightFacade]
      exact h.state
    · rw [hleftTunnels, hrightTunnels]
      exact h.kernel
  cases leftResult with
  | error err => exact ⟨rfl, hsame, nofun⟩
  | ok context =>
    obtain ⟨htunnel, hpool⟩ := halike context rfl
    have hover := htransport context rfl hpool
    have htunnel' : SameTunnel left' right' (tunnelTarget context.bootstrap context.peer) := by
      unfold SameTunnel
      rw [hleftFacade, hrightFacade, hleftTunnels, hrightTunnels]
      exact htunnel
    obtain ⟨hend, hsame'⟩ := finishManaged_alike hsame hover.1 calls linux hhost htunnel'
    refine ⟨hend, hsame', fun _ => ?_⟩
    obtain ⟨hpath, hp2p, hrelay, hderp⟩ := finishManaged_frame left' calls context
    obtain ⟨hpath', hp2p', hrelay', hderp'⟩ := finishManaged_frame right' calls context
    unfold finishRoute SameTransport
    rw [hpath, hp2p, hrelay, hderp, hpath', hp2p', hrelay', hderp']
    exact hover

/-! ### `control_sync` -/

/-- The control plane of an updated bootstrap. -/
theorem heartbeat_eq (controlPlane : ControlPlaneConfig) (heartbeatSeconds : Nat) :
    (if 0 < heartbeatSeconds then { controlPlane with heartbeatSeconds } else controlPlane) =
      { controlPlane with heartbeatSeconds :=
          if 0 < heartbeatSeconds then heartbeatSeconds else controlPlane.heartbeatSeconds } := by
  split <;> rfl

theorem commitUpdate_eq {state : AppCoreSnapshot} {update update' : ControlWsBootstrapUpdate}
    (h : SameUpdate state update update') :
    commitUpdate state update = commitUpdate state update' := by
  unfold commitUpdate
  cases hcurrent : state.currentBootstrap with
  | none => rfl
  | some current =>
    have hheartbeat := h.heartbeat current hcurrent
    unfold ControlWsBootstrapUpdate.heartbeatIn at hheartbeat
    rw [h.bootstrapOverride] at hheartbeat
    simp only [heartbeat_eq, hheartbeat, h.bootstrapOverride, h.networkMap, h.connectPlans,
      h.deviceIpUpdates]

/-- What the controller tells is an error on both sides, or the same, and the tunnel that it calls
for is known alike. -/
def SyncsAlike (left right : AppCore Stream LinuxAdapter) (calls : SyncCalls) : Prop :=
  match (left.learn calls).1, (right.learn calls).1 with
  | .error _, .error _ => True
  | .ok update, .ok update' => SameUpdate left.facade.state update update' ∧
    ∀ state bootstrap reapply peerVirtualIp,
      commitUpdate left.facade.state update = .ok (state, bootstrap, some reapply) →
      tunnelTarget reapply.bootstrap reapply.peer = some peerVirtualIp →
      SameTunnel left right (some peerVirtualIp)
  | _, _ => False

theorem commitControlSync_alike (h : SameCore left right) {update : ControlWsBootstrapUpdate}
    (generate : TunnelKeyProvider) (linux : LinuxCalls) (nowMs : Nat)
    (htunnel : ∀ state bootstrap reapply peerVirtualIp,
      commitUpdate left.facade.state update = .ok (state, bootstrap, some reapply) →
      tunnelTarget reapply.bootstrap reapply.peer = some peerVirtualIp →
      SameTunnel left right (some peerVirtualIp)) :
    let leftEnd := left.commitControlSync update generate (linuxHost linux) nowMs
    let rightEnd := right.commitControlSync update generate (linuxHost linux) nowMs
    leftEnd.1 = rightEnd.1 ∧ SameCore leftEnd.2 rightEnd.2 := by
  unfold commitControlSync
  rw [← h.state]
  cases hcommit : commitUpdate left.facade.state update with
  | error err => exact ⟨rfl, h⟩
  | ok committed =>
    obtain ⟨state, bootstrap, reapply⟩ := committed
    cases reapply with
    | none => exact ⟨rfl, rfl, h.kernel⟩
    | some reapply =>
      dsimp only
      rcases ensureTunnelKeyPair state generate reapply.bootstrap.device.deviceId
        reapply.peer.nodeId nowMs with ⟨err | keyPair, state'⟩
      · exact ⟨rfl, rfl, h.kernel⟩
      · dsimp only
        cases hconfig : buildTunnelConfig reapply.activePath reapply.bootstrap reapply.peer
            keyPair with
        | none => exact ⟨rfl, rfl, h.kernel⟩
        | some config =>
          -- the tunnel that is built is the one for which both sides are known to agree
          have hset : reapply.activePath ≠ .none := by
            intro hnone
            rw [hnone] at hconfig
            cases hconfig
          have htarget := buildTunnelConfig_target reapply.activePath hset reapply.bootstrap
            reapply.peer keyPair
          rw [hconfig] at htarget
          obtain ⟨hcurrent, hpeer⟩ := htunnel state bootstrap reapply config.peerVirtualIp hcommit
            htarget.symm
          have hreplaced := replaceTunnelOn_alike h.kernel linux (some config) hpeer
          dsimp only [withState]
          rw [← hcurrent]
          generalize replaceTunnelOn (linuxHost linux) left.tunnels
            left.facade.currentTunnelPeerVirtualIp (some config) = leftReplaced at hreplaced ⊢
          generalize replaceTunnelOn (linuxHost linux) right.tunnels
            left.facade.currentTunnelPeerVirtualIp (some config) = rightReplaced at hreplaced ⊢
          obtain ⟨leftResult, leftCurrent, left'⟩ := leftReplaced
          obtain ⟨rightResult, rightCurrent, right'⟩ := rightReplaced
          obtain ⟨rfl, rfl, hkernel'⟩ := hreplaced
          cases leftResult <;> exact ⟨rfl, rfl, hkernel'⟩

theorem controlSync_alike (h : SameCore left right) {calls : SyncCalls} (linux : LinuxCalls)
    (halike : SyncsAlike left right calls) :
    let leftEnd := left.controlSync calls (linuxHost linux)
    let rightEnd := right.controlSync calls (linuxHost linux)
    leftEnd.1.isOk = rightEnd.1.isOk ∧ SameCore leftEnd.2 rightEnd.2 := by
  unfold SyncsAlike at halike
  unfold controlSync
  generalize left.learn calls = leftLearnt at halike ⊢
  generalize right.learn calls = rightLearnt at halike ⊢
  rcases leftLearnt with ⟨err | update, controlWs⟩ <;>
    rcases rightLearnt with ⟨err' | update', controlWs'⟩
  · exact ⟨rfl, h.state, h.kernel⟩
  · exact absurd halike id
  · exact absurd halike id
  · obtain ⟨hupdate, htunnel⟩ := halike
    have hsame : SameCore (left.withControlWs controlWs) (right.withControlWs controlWs') :=
      ⟨h.state, h.kernel⟩
    obtain ⟨hend, hsame'⟩ := commitControlSync_alike hsame calls.generate linux calls.nowMs htunnel
    have hupdated : (right.withControlWs controlWs').commitControlSync update calls.generate
        (linuxHost linux) calls.nowMs = (right.withControlWs controlWs').commitControlSync update'
          calls.generate (linuxHost linux) calls.nowMs := by
      unfold commitControlSync
      have hstate : (right.withControlWs controlWs').facade.state = left.facade.state :=
        h.state.symm
      rw [hstate, commitUpdate_eq hupdate]
    rw [hupdated] at hend hsame'
    exact ⟨congrArg Except.isOk hend, hsame'⟩

/-! ### `disconnect`, `bootstrap` -/

theorem disconnect_alike (h : SameCore left right) (linux : LinuxCalls)
    (htunnel : SameTunnel left right none) :
    let leftEnd := left.disconnect (linuxHost linux)
    let rightEnd := right.disconnect (linuxHost linux)
    leftEnd.1 = rightEnd.1 ∧ SameCore leftEnd.2 rightEnd.2 := by
  obtain ⟨hcurrent, hpeer⟩ := htunnel
  unfold disconnect
  dsimp only [linuxHost]
  rw [← hcurrent]
  cases hrecorded : left.facade.currentTunnelPeerVirtualIp with
  | none =>
    refine ⟨rfl, ?_, h.kernel⟩
    dsimp only [withState]
    rw [h.state]
  | some peerVirtualIp =>
    dsimp only
    have hremoved := LinuxAdapter.removePeer_alike h.kernel (hpeer peerVirtualIp hrecorded nofun)
      linux.close
    generalize left.tunnels.removePeer linux.close peerVirtualIp = leftRemoved at hremoved ⊢
    generalize right.tunnels.removePeer linux.close peerVirtualIp = rightRemoved at hremoved ⊢
    obtain ⟨leftResult, left'⟩ := leftRemoved
    obtain ⟨rightResult, right'⟩ := rightRemoved
    obtain ⟨rfl, hkernel'⟩ := hremoved
    cases leftResult with
    | error err => exact ⟨rfl, h.state, hkernel'⟩
    | ok _ =>
      refine ⟨rfl, ?_, hkernel'⟩
      dsimp only [withState]
      rw [h.state]

theorem bootstrap_alike (h : SameCore left right) (controller : Controller)
    (nodeId networkId : String) :
    let leftEnd := left.bootstrap controller nodeId networkId
    let rightEnd := right.bootstrap controller nodeId networkId
    leftEnd.1 = rightEnd.1 ∧ SameCore leftEnd.2 rightEnd.2 := by
  unfold bootstrap AppCore.withAccessToken
  rw [h.state]
  cases Client.withAccessToken right.facade.state >>= fun accessToken =>
      controller.bootstrap accessToken nodeId networkId with
  | error err => exact ⟨rfl, h⟩
  | ok bootstrap => exact ⟨rfl, rfl, h.kernel⟩

/-! ### `probe` -/

theorem sendPacket_alike (h : SameTransport left right) (calls : ProbeCalls Stream)
    (packet : List UInt8) :
    (left.sendPacket calls packet).1 = (right.sendPacket calls packet).1 ∧
      SameTransport (left.sendPacket calls packet).2 (right.sendPacket calls packet).2 := by
  obtain ⟨hpath, hover⟩ := h
  unfold sendPacket SameTransport
  rw [← hpath]
  cases hactive : left.path.activePath with
  | none => exact ⟨rfl, hpath, by dsimp only; rw [hactive]; trivial⟩
  | p2p nodeId =>
    rw [hactive] at hover
    dsimp only at hover ⊢
    rw [hover]
    exact ⟨rfl, hpath, by rw [hactive]⟩
  | relay nodeId =>
    rw [hactive] at hover
    dsimp only at hover ⊢
    rw [hover]
    exact ⟨rfl, hpath, by rw [hactive]⟩
  | derp clusterId nodeId =>
    rw [hactive] at hover
    dsimp only at hover ⊢
    rw [hover]
    exact ⟨rfl, hpath, by rw [hactive]⟩

theorem pollPacket_alike (h : SameTransport left right) (texts : Texts)
    (round : PollRound Stream) :
    (left.pollPacket texts round).1 = (right.pollPacket texts round).1 ∧
      SameTransport (left.pollPacket texts round).2 (right.pollPacket texts round).2 := by
  obtain ⟨hpath, hover⟩ := h
  unfold pollPacket SameTransport
  rw [← hpath]
  cases hactive : left.path.activePath with
  | none => exact ⟨rfl, hpath, by dsimp only; rw [hactive]; trivial⟩
  | p2p nodeId =>
    rw [hactive] at hover
    dsimp only at hover ⊢
    rw [hover]
    exact ⟨rfl, hpath, by rw [hactive]⟩
  | relay nodeId =>
    rw [hactive] at hover
    dsimp only at hover ⊢
    rw [hover]
    exact ⟨rfl, hpath, by rw [hactive]⟩
  | derp clusterId nodeId =>
    rw [hactive] at hover
    dsimp only at hover ⊢
    rw [hover]
    exact ⟨rfl, hpath, by rw [hactive]⟩

theorem pollReply_alike (h : SameTransport left right) (texts : Texts)
    (rounds : List (PollRound Stream)) :
    (left.pollReply texts rounds).1 = (right.pollReply texts rounds).1 ∧
      SameTransport (left.pollReply texts rounds).2 (right.pollReply texts rounds).2 := by
  induction rounds generalizing left right with
  | nil => exact ⟨rfl, h⟩
  | cons round rounds ih =>
    have hpolled := pollPacket_alike h texts round
    unfold pollReply
    generalize left.pollPacket texts round = leftPolled at hpolled ⊢
    generalize right.pollPacket texts round = rightPolled at hpolled ⊢
    obtain ⟨leftResult, left'⟩ := leftPolled
    obtain ⟨rightResult, right'⟩ := rightPolled
    obtain ⟨rfl, h'⟩ := hpolled
    rcases leftResult with err | _ | packet
    · exact ⟨rfl, h'⟩
    · exact ih h'
    · exact ⟨rfl, h'⟩

/-- Only a transport has changed. -/
structure OnlyTransport (core next : AppCore Stream LinuxAdapter) : Prop where
  facade : next.facade = core.facade
  tunnels : next.tunnels = core.tunnels
  path : next.path = core.path

theorem OnlyTransport.sameCore {left' right' : AppCore Stream LinuxAdapter}
    (hleft : OnlyTransport left left') (hright : OnlyTransport right right')
    (h : SameCore left right) : SameCore left' right' := by
  constructor
  · rw [hleft.facade, hright.facade, h.state]
  · rw [hleft.tunnels, hright.tunnels, h.kernel]

theorem sendPacket_onlyTransport (core : AppCore Stream LinuxAdapter) (calls : ProbeCalls Stream)
    (packet : List UInt8) : OnlyTransport core (core.sendPacket calls packet).2 := by
  unfold sendPacket
  dsimp only
  split <;> exact ⟨rfl, rfl, rfl⟩

theorem pollPacket_onlyTransport (core : AppCore Stream LinuxAdapter) (texts : Texts)
    (round : PollRound Stream) : OnlyTransport core (core.pollPacket texts round).2 := by
  unfold pollPacket
  dsimp only
  split <;> exact ⟨rfl, rfl, rfl⟩

theorem pollReply_onlyTransport (core : AppCore Stream LinuxAdapter) (texts : Texts)
    (rounds : List (PollRound Stream)) :
    OnlyTransport core (core.pollReply texts rounds).2 := by
  induction rounds generalizing core with
  | nil => exact ⟨rfl, rfl, rfl⟩
  | cons round rounds ih =>
    have hpolled := pollPacket_onlyTransport core texts round
    unfold pollReply
    generalize core.pollPacket texts round = polled at hpolled ⊢
    obtain ⟨err | _ | packet, next⟩ := polled
    · exact hpolled
    · obtain ⟨hfacade, htunnels, hpath⟩ := ih next
      exact ⟨hfacade.trans hpolled.facade, htunnels.trans hpolled.tunnels,
        hpath.trans hpolled.path⟩
    · exact hpolled

end AppCore

/-! ## Processes on two sides -/

namespace AppProcess

variable {Stream : Type} {left right : AppProcess Stream}

/-- The same snapshot is saved, over the same kernel. -/
structure SameSaved (left right : AppProcess Stream) : Prop where
  snapshot : left.snapshot = right.snapshot
  kernel : left.tunnels.kernel = right.tunnels.kernel

theorem snapshot_eq_iff : left.snapshot = right.snapshot ↔
    left.facade.state = right.facade.state ∧ left.connectionState = right.connectionState ∧
      left.lastDataPlaneError = right.lastDataPlaneError ∧ left.lastProbe = right.lastProbe := by
  constructor
  · intro h
    exact ⟨congrArg SavedSnapshot.toAppCoreSnapshot h, congrArg SavedSnapshot.connectionState h,
      congrArg SavedSnapshot.lastDataPlaneError h, congrArg SavedSnapshot.lastProbe h⟩
  · rintro ⟨hstate, hconnection, herror, hprobe⟩
    unfold snapshot
    rw [hstate, hconnection, herror, hprobe]

theorem SameSaved.sameCore (h : SameSaved left right) :
    SameCore left.toAppCore right.toAppCore :=
  ⟨(snapshot_eq_iff.mp h.snapshot).1, h.kernel⟩

/-- A call that changes the core only. -/
theorem SameSaved.withCore (h : SameSaved left right)
    {leftCore rightCore : AppCore Stream LinuxAdapter} (hcore : SameCore leftCore rightCore) :
    SameSaved (left.withCore leftCore) (right.withCore rightCore) := by
  obtain ⟨-, hrest⟩ := snapshot_eq_iff.mp h.snapshot
  exact ⟨snapshot_eq_iff.mpr ⟨hcore.state, hrest⟩, hcore.kernel⟩

theorem SameSaved.withConnectionState (h : SameSaved left right)
    (connectionState : ConnectionState) :
    SameSaved (left.withConnectionState connectionState)
      (right.withConnectionState connectionState) :=
  ⟨snapshot_eq_iff.mpr ⟨(snapshot_eq_iff.mp h.snapshot).1, rfl, rfl, rfl⟩, h.kernel⟩

theorem restarted_sameSaved (h : SameSaved left right) : SameSaved left right.restarted :=
  ⟨h.snapshot, h.kernel⟩

/-- A probe finds the path and the transport alike, and where its packet is sent also its number and
the tunnel. -/
def ProbesAlike (left right : AppProcess Stream) (calls : ProbeCalls Stream)
    (packet : List UInt8) : Prop :=
  packet ≠ [] → SameTransport left.toAppCore right.toAppCore ∧
    ((left.sendPacket calls packet).1 = .ok () →
      left.probeSequence = right.probeSequence ∧
        left.facade.currentTunnelPeerVirtualIp = right.facade.currentTunnelPeerVirtualIp)

/-- What an operation needs to find in the next process as it would be in this one. -/
def FindsAlike (left right : AppProcess Stream) : Operation Stream → Prop
  | .connect calls linux derpMap networkId peerNodeId =>
    AppCore.ConnectsAlike left.toAppCore right.toAppCore { calls with host := linuxHost linux }
      derpMap networkId peerNodeId
  | .controlSync calls _ => AppCore.SyncsAlike left.toAppCore right.toAppCore calls
  | .disconnect _ => SameTunnel left.toAppCore right.toAppCore none
  | .probe calls packet => ProbesAlike left right calls packet
  | _ => True

/-- An operation that succeeds on the left succeeds on the right, the same is saved afterwards, and
a connect that succeeds has the same transport. -/
def RunsAlike (left right : AppProcess Stream) (op : Operation Stream) : Prop :=
  ((left.run op).1 = true → (right.run op).1 = true) ∧
    SameSaved (left.run op).2 (right.run op).2 ∧
    match op with
    | .connect _ _ _ _ _ => (left.run op).1 = true →
      SameTransport (left.run op).2.toAppCore (right.run op).2.toAppCore
    | _ => True

theorem connect_sameSaved (h : SameSaved left right) {calls : ConnectCalls Stream LinuxAdapter}
    {linux : LinuxCalls} {derpMap : Option DerpMap} {networkId peerNodeId : String}
    (hfinds : FindsAlike left right (.connect calls linux derpMap networkId peerNodeId)) :
    let leftEnd := left.connect calls linux derpMap networkId peerNodeId
    let rightEnd := right.connect calls linux derpMap networkId peerNodeId
    leftEnd.1 = rightEnd.1 ∧ SameSaved leftEnd.2 rightEnd.2 ∧
      (leftEnd.1.isOk = true → SameTransport leftEnd.2.toAppCore rightEnd.2.toAppCore) := by
  have halike := AppCore.connect_alike h.sameCore { calls with host := linuxHost linux } linux rfl
    hfinds
  unfold connect
  generalize left.toAppCore.connect { calls with host := linuxHost linux } derpMap networkId
    peerNodeId = leftEnd at halike ⊢
  generalize right.toAppCore.connect { calls with host := linuxHost linux } derpMap networkId
    peerNodeId = rightEnd at halike ⊢
  obtain ⟨leftResult, leftCore⟩ := leftEnd
  obtain ⟨rightResult, rightCore⟩ := rightEnd
  obtain ⟨rfl, hcore, htransport⟩ := halike
  cases leftResult with
  | error err => exact ⟨rfl, h.withCore hcore, nofun⟩
  | ok connectionState =>
    exact ⟨rfl, (h.withCore hcore).withConnectionState connectionState, htransport⟩

theorem disconnect_sameSaved (h : SameSaved left right) {linux : LinuxCalls}
    (hfinds : FindsAlike left right (.disconnect linux)) :
    (left.disconnect linux).1 = (right.disconnect linux).1 ∧
      SameSaved (left.disconnect linux).2 (right.disconnect linux).2 := by
  have halike := AppCore.disconnect_alike h.sameCore linux hfinds
  unfold disconnect
  generalize left.toAppCore.disconnect (linuxHost linux) = leftEnd at halike ⊢
  generalize right.toAppCore.disconnect (linuxHost linux) = rightEnd at halike ⊢
  obtain ⟨leftResult, leftCore⟩ := leftEnd
  obtain ⟨rightResult, rightCore⟩ := rightEnd
  obtain ⟨rfl, hcore⟩ := halike
  cases leftResult with
  | error err => exact ⟨rfl, h.withCore hcore⟩
  | ok _ => exact ⟨rfl, (h.withCore hcore).withConnectionState .disconnected⟩

theorem probeHealth_alike {left right : AppCore Stream LinuxAdapter}
    (h : SameTransport left right) (sampledAtMs : Nat) :
    probeHealth left.derpPool.toDerpPoolState sampledAtMs left.path.activePath =
      probeHealth right.derpPool.toDerpPoolState sampledAtMs right.path.activePath := by
  obtain ⟨hpath, hover⟩ := h
  rw [← hpath]
  cases hactive : left.path.activePath with
  | derp clusterId nodeId =>
    rw [hactive] at hover
    dsimp only at hover
    rw [hover]
  | none => rfl
  | p2p nodeId => rfl
  | relay nodeId => rfl

theorem probeRecord_alike (left right : AppProcess Stream)
    (h : SameTransport left.toAppCore right.toAppCore)
    (hsequence : left.probeSequence = right.probeSequence)
    (hcurrent : left.facade.currentTunnelPeerVirtualIp = right.facade.currentTunnelPeerVirtualIp)
    (calls : ProbeCalls Stream) (packet : List UInt8) (reply : Option (Nat × Nat)) :
    left.probeRecord calls packet reply = right.probeRecord calls packet reply := by
  unfold probeRecord
  rw [probeHealth_alike h, hsequence, hcurrent]

/-- An empty packet is refused before anything else. -/
theorem sendPacket_nil (core : AppCore Stream LinuxAdapter) (calls : ProbeCalls Stream) :
    (core.sendPacket calls []).1 =
      .error (.ofMessage "cannot send empty packet through path manager") := rfl

theorem probe_sameSaved (h : SameSaved left right) {calls : ProbeCalls Stream}
    {packet : List UInt8} (hfinds : FindsAlike left right (.probe calls packet)) :
    (left.probe calls packet).1 = (right.probe calls packet).1 ∧
      SameSaved (left.probe calls packet).2 (right.probe calls packet).2 := by
  obtain ⟨-, hconnection, herror, hprobe⟩ := snapshot_eq_iff.mp h.snapshot
  have hcore := AppCore.OnlyTransport.sameCore
    (AppCore.sendPacket_onlyTransport left.toAppCore calls packet)
    (AppCore.sendPacket_onlyTransport right.toAppCore calls packet) h.sameCore
  have hleftFacade := (AppCore.sendPacket_onlyTransport left.toAppCore calls packet).facade
  have hrightFacade := (AppCore.sendPacket_onlyTransport right.toAppCore calls packet).facade
  -- an empty packet is refused before a path is tried
  by_cases hempty : packet = []
  · subst hempty
    have hleft := sendPacket_nil left.toAppCore calls
    have hright := sendPacket_nil right.toAppCore calls
    unfold probe
    generalize left.toAppCore.sendPacket calls [] = leftSent at hleft hcore ⊢
    generalize right.toAppCore.sendPacket calls [] = rightSent at hright hcore ⊢
    obtain ⟨leftResult, leftCore⟩ := leftSent
    obtain ⟨rightResult, rightCore⟩ := rightSent
    obtain rfl : leftResult = _ := hleft
    obtain rfl : rightResult = _ := hright
    exact ⟨rfl, snapshot_eq_iff.mpr ⟨hcore.state, hconnection, rfl, hprobe⟩, hcore.kernel⟩
  · obtain ⟨htransport, hnumber⟩ := hfinds hempty
    have hsent := AppCore.sendPacket_alike htransport calls packet
    unfold probe
    generalize left.toAppCore.sendPacket calls packet = leftSent at *
    generalize right.toAppCore.sendPacket calls packet = rightSent at *
    obtain ⟨leftResult, leftCore⟩ := leftSent
    obtain ⟨rightResult, rightCore⟩ := rightSent
    obtain ⟨rfl, htransport'⟩ := hsent
    cases leftResult with
    | error err =>
      exact ⟨rfl, snapshot_eq_iff.mpr ⟨hcore.state, hconnection, rfl, hprobe⟩, hcore.kernel⟩
    | ok _ =>
      dsimp only at hcore hleftFacade hrightFacade htransport' hnumber ⊢
      have hpolled := AppCore.pollReply_alike htransport' calls.texts calls.rounds
      have hleftPolled := AppCore.pollReply_onlyTransport leftCore calls.texts calls.rounds
      have hrightPolled := AppCore.pollReply_onlyTransport rightCore calls.texts calls.rounds
      have hcore' := hleftPolled.sameCore hrightPolled hcore
      generalize leftCore.pollReply calls.texts calls.rounds = leftEnd at *
      generalize rightCore.pollReply calls.texts calls.rounds = rightEnd at *
      obtain ⟨leftReply, leftCore'⟩ := leftEnd
      obtain ⟨rightReply, rightCore'⟩ := rightEnd
      obtain ⟨rfl, htransport''⟩ := hpolled
      cases leftReply with
      | error err =>
        exact ⟨rfl, snapshot_eq_iff.mpr ⟨hcore'.state, hconnection, herror, hprobe⟩, hcore'.kernel⟩
      | ok reply =>
        obtain ⟨hsequence, hcurrent⟩ := hnumber rfl
        have hcurrent' : leftCore'.facade.currentTunnelPeerVirtualIp =
            rightCore'.facade.currentTunnelPeerVirtualIp := by
          rw [hleftPolled.facade, hrightPolled.facade, hleftFacade, hrightFacade, hcurrent]
        have hsequence' : left.probeSequence + 1 = right.probeSequence + 1 := by rw [hsequence]
        have hrecord := probeRecord_alike
          { left.withCore leftCore' with probeSequence := left.probeSequence + 1 }
          { right.withCore rightCore' with probeSequence := right.probeSequence + 1 }
          htransport'' hsequence' hcurrent' calls packet reply
        exact ⟨congrArg Except.ok hrecord, snapshot_eq_iff.mpr ⟨hcore'.state, hconnection, rfl,
          congrArg some hrecord⟩, hcore'.kernel⟩

/-- A call of the controller that changes the account in the snapshot. -/
theorem updateState_sameSaved (h : SameSaved left right)
    (update : AppCoreSnapshot → AppCoreSnapshot) :
    SameSaved (left.updateState (update left.facade.state))
      (right.updateState (update right.facade.state)) := by
  obtain ⟨hstate, -⟩ := snapshot_eq_iff.mp h.snapshot
  exact h.withCore ⟨congrArg update hstate, h.kernel⟩

theorem registerDevice_sameSaved (h : SameSaved left right)
    (answer : String → Except String Device) :
    (left.registerDevice answer).1 = (right.registerDevice answer).1 ∧
      SameSaved (left.registerDevice answer).2 (right.registerDevice answer).2 := by
  have htoken : left.withAccessToken = right.withAccessToken := by
    unfold AppCore.withAccessToken
    rw [h.sameCore.state]
  unfold registerDevice
  rw [htoken]
  cases right.withAccessToken >>= answer with
  | error err => exact ⟨rfl, h⟩
  | ok device =>
    have hupdate := updateState_sameSaved h fun state =>
      { state with currentDevice := some device, tunnelKeyMaterial := none }
    exact ⟨rfl, hupdate⟩

theorem registerNode_sameSaved (h : SameSaved left right) (answer : String → Except String Node) :
    (left.registerNode answer).1 = (right.registerNode answer).1 ∧
      SameSaved (left.registerNode answer).2 (right.registerNode answer).2 := by
  have htoken : left.withAccessToken = right.withAccessToken := by
    unfold AppCore.withAccessToken
    rw [h.sameCore.state]
  unfold registerNode
  rw [htoken]
  cases right.withAccessToken >>= answer with
  | error err => exact ⟨rfl, h⟩
  | ok node =>
    have hupdate := updateState_sameSaved h fun state =>
      { state with currentNode := some node, tunnelKeyMaterial := none }
    exact ⟨rfl, hupdate⟩

theorem login_sameSaved (h : SameSaved left right) (answer : Except String Session) :
    (left.login answer).1 = (right.login answer).1 ∧
      SameSaved (left.login answer).2 (right.login answer).2 := by
  cases answer with
  | error err => exact ⟨rfl, h⟩
  | ok session =>
    have hupdate := updateState_sameSaved h fun state => { state with session := some session }
    exact ⟨rfl, hupdate⟩

theorem isOk_of_eq {ε α : Type} {left right : Except ε α} (h : left = right)
    (hok : left.isOk = true) : right.isOk = true :=
  (congrArg Except.isOk h).symm.trans hok

theorem runsAlike (h : SameSaved left right) (op : Operation Stream)
    (hfinds : FindsAlike left right op) : RunsAlike left right op := by
  cases op with
  | login answer =>
    obtain ⟨hresult, hsaved⟩ := login_sameSaved h answer
    exact ⟨isOk_of_eq hresult, hsaved, trivial⟩
  | registerDevice answer =>
    obtain ⟨hresult, hsaved⟩ := registerDevice_sameSaved h answer
    exact ⟨isOk_of_eq hresult, hsaved, trivial⟩
  | registerNode answer =>
    obtain ⟨hresult, hsaved⟩ := registerNode_sameSaved h answer
    exact ⟨isOk_of_eq hresult, hsaved, trivial⟩
  | bootstrap controller nodeId networkId =>
    obtain ⟨hresult, hcore⟩ := AppCore.bootstrap_alike h.sameCore controller nodeId networkId
    exact ⟨isOk_of_eq hresult, h.withCore hcore, trivial⟩
  | connect calls linux derpMap networkId peerNodeId =>
    obtain ⟨hresult, hsaved, htransport⟩ := connect_sameSaved h hfinds
    exact ⟨isOk_of_eq hresult, hsaved, htransport⟩
  | controlSync calls linux =>
    obtain ⟨hresult, hcore⟩ := AppCore.controlSync_alike h.sameCore linux hfinds
    exact ⟨fun hok => hresult.symm.trans hok, h.withCore hcore, trivial⟩
  | disconnect linux =>
    obtain ⟨hresult, hsaved⟩ := disconnect_sameSaved h hfinds
    exact ⟨isOk_of_eq hresult, hsaved, trivial⟩
  | probe calls packet =>
    obtain ⟨hresult, hsaved⟩ := probe_sameSaved h hfinds
    exact ⟨isOk_of_eq hresult, hsaved, trivial⟩

end AppProcess

/-! ## A run with its cuts -/

/-- Where the run in one process is, and where the run in several. -/
structure CutRun (Stream : Type) where
  whole : AppProcess Stream
  cut : AppProcess Stream

inductive CutAction (Stream : Type) where
  | operation (op : Operation Stream)
  /-- A process ends and the next one begins. -/
  | restart

namespace CutRun

variable {Stream : Type}

/-- Both runs begin with the same process. -/
def start (saved : SavedSnapshot) (kernel : LinuxKernel) : CutRun Stream :=
  ⟨(AppProcess.new kernel).restoreSnapshot saved, (AppProcess.new kernel).restoreSnapshot saved⟩

def after (runs : CutRun Stream) : CutAction Stream → CutRun Stream
  | .operation op => ⟨(runs.whole.run op).2, (runs.cut.run op).2⟩
  | .restart => ⟨runs.whole, runs.cut.restarted⟩

def step (runs : CutRun Stream) (a : CutAction Stream) (next : CutRun Stream) : Prop :=
  next = runs.after a

/-- Any process may end, and one that comes later is to find alike what an operation needs. -/
def Resumes (runs : CutRun Stream) : CutAction Stream → Prop
  | .operation op => runs.whole.FindsAlike runs.cut op
  | .restart => True

/-- A step on both runs that leaves them with the same. -/
def Equivalent (runs : CutRun Stream) (a : CutAction Stream) (next : CutRun Stream) : Prop :=
  next.whole.SameSaved next.cut ∧
    match a with
    | .operation op => runs.whole.RunsAlike runs.cut op
    | .restart => True

theorem reachable_after {first runs : CutRun Stream} {a : CutAction Stream}
    (h : Reachable (guarded Resumes step) first runs) (ha : runs.Resumes a) :
    Reachable (guarded Resumes step) first (runs.after a) :=
  h.next ⟨ha, rfl⟩

theorem resumes_equivalent {runs : CutRun Stream} (h : runs.whole.SameSaved runs.cut)
    {a : CutAction Stream} (hresumes : runs.Resumes a) : runs.Equivalent a (runs.after a) := by
  cases a with
  | operation op =>
    have hruns := AppProcess.runsAlike h op hresumes
    exact ⟨hruns.2.1, hruns⟩
  | restart => exact ⟨AppProcess.restarted_sameSaved h, trivial⟩

end CutRun

open CutRun in
/-- As long as the later processes find alike what their operations need, a run that is cut into
processes goes like the run in one. -/
theorem restart_equivalent {Stream : Type} (saved : SavedSnapshot) (kernel : LinuxKernel)
    (runs : CutRun Stream) (h : Reachable (guarded Resumes step) (.start saved kernel) runs) :
    Reachable (restricted Equivalent step) (.start saved kernel) runs ∧
      runs.whole.SameSaved runs.cut := by
  have hstart : (CutRun.start saved kernel : CutRun Stream).whole.SameSaved
      (CutRun.start saved kernel : CutRun Stream).cut := ⟨rfl, rfl⟩
  refine Reachable.restricted_of_guarded (fun runs => runs.whole.SameSaved runs.cut) Equivalent
    hstart (fun _ _ _ heq => heq.1) ?_ h
  intro s a t _ hsame hresumes hstep
  rw [hstep]
  exact resumes_equivalent hsame hresumes

/-! ## One peer -/

def freshSnapshot : SavedSnapshot :=
  { AppCoreSnapshot.empty with
    connectionState := none
    lastDataPlaneError := none
    lastProbe := none }

def peerController : Controller where
  activateNetwork _ _ _ := .ok ()
  bootstrap _ _ _ :=
    .ok ⟨⟨"dev-1", some "10.0.0.1"⟩, ⟨"ws://controller/ws", none, 30⟩, some samplePeerMap⟩

/-- Every command succeeds. -/
def workingLinux : LinuxCalls := ⟨fun _ => none, ⟨fun _ => none, fun _ => none, none⟩⟩

def connectPeer : CutAction Unit :=
  .operation (.connect (sampleCalls (linuxHost workingLinux) (.ok ())) workingLinux none "net-1"
    "node-2")

/-- The client has its bootstrap, in both runs. -/
def bootstrappedRuns : CutRun Unit :=
  (((CutRun.start freshSnapshot .empty).after
    (.operation (.login (.ok ⟨"user-1", "token-1"⟩)))).after
    (.operation (.registerNode fun _ => .ok ⟨"node-1", "key-1", []⟩))).after
    (.operation (.bootstrap peerController "node-1" "net-1"))

/-- One process connects, and the next one comes. -/
def resumedRuns : CutRun Unit :=
  ((bootstrappedRuns.after .restart).after connectPeer).after .restart

/-- A connect over TCP finds alike what it needs where the tunnel to have is the one on record. -/
theorem connectsAlike_direct {Stream : Type} {left right : AppCore Stream LinuxAdapter}
    {calls : ConnectCalls Stream LinuxAdapter} {derpMap : Option DerpMap}
    {networkId peerNodeId : String} (nodeId : String)
    (hcurrent : left.facade.currentTunnelPeerVirtualIp = right.facade.currentTunnelPeerVirtualIp)
    (hpath : (left.route calls derpMap networkId peerNodeId).2.path.activePath = .p2p nodeId)
    (htarget : ∀ peerVirtualIp, left.facade.currentTunnelPeerVirtualIp = some peerVirtualIp →
      (left.route calls derpMap networkId peerNodeId).1.toOption.map
        (fun context => tunnelTarget context.bootstrap context.peer) = some (some peerVirtualIp)) :
    left.ConnectsAlike right calls derpMap networkId peerNodeId := by
  intro context hroute
  rw [hroute] at htarget
  constructor
  · refine ⟨hcurrent, fun peerVirtualIp hrecorded hother => ?_⟩
    have hsame := Option.some.inj (htarget peerVirtualIp hrecorded)
    exact absurd hsame.symm hother
  · intro _ hdirect
    exact absurd hpath (hdirect nodeId)

open CutRun in
/-- A process that connects to the peer of the process before it. -/
theorem reconnected_equivalent :
    Reachable (restricted Equivalent step) (.start freshSnapshot .empty)
        (resumedRuns.after connectPeer) ∧
      (resumedRuns.after connectPeer).whole.SameSaved (resumedRuns.after connectPeer).cut := by
  have hbootstrapped : Reachable (guarded Resumes step) (.start freshSnapshot .empty)
      bootstrappedRuns :=
    reachable_after (reachable_after (reachable_after .start trivial) trivial) trivial
  have hfirst : (bootstrappedRuns.after .restart).Resumes connectPeer := by
    refine connectsAlike_direct "node-2" (by decide) (by decide) ?_
    intro peerVirtualIp hrecorded
    have hnone : (bootstrappedRuns.after .restart).whole.facade.currentTunnelPeerVirtualIp = none :=
      by decide
    cases hrecorded.symm.trans hnone
  have hsecond : resumedRuns.Resumes connectPeer := by
    refine connectsAlike_direct "node-2" (by decide) (by decide) ?_
    intro peerVirtualIp hrecorded
    have hpeer : resumedRuns.whole.facade.currentTunnelPeerVirtualIp = some "10.0.0.2" := by
      decide
    obtain rfl := Option.some.inj (hrecorded.symm.trans hpeer)
    decide
  have hresumed : Reachable (guarded Resumes step) (.start freshSnapshot .empty) resumedRuns :=
    reachable_after (reachable_after (reachable_after hbootstrapped trivial) hfirst) trivial
  exact restart_equivalent freshSnapshot .empty (resumedRuns.after connectPeer)
    (reachable_after hresumed hsecond)

open CutRun in
/-- A process cannot close the tunnel of the process before it. -/
theorem disconnect_not_equivalent :
    ¬∀ (saved : SavedSnapshot) (kernel : LinuxKernel) (runs : CutRun Unit) (a : CutAction Unit),
      Reachable step (.start saved kernel) runs → runs.Equivalent a (runs.after a) := by
  intro hall
  have hbootstrapped : Reachable step (.start freshSnapshot .empty) bootstrappedRuns :=
    ((Reachable.start.next rfl).next rfl).next rfl
  have hresumed : Reachable step (.start freshSnapshot .empty) resumedRuns :=
    ((hbootstrapped.next rfl).next rfl).next rfl
  obtain ⟨-, hruns, -⟩ := hall _ _ resumedRuns (.operation (.disconnect workingLinux)) hresumed
  have hwhole : (resumedRuns.whole.run (.disconnect workingLinux)).1 = true := by decide
  have hcut : (resumedRuns.cut.run (.disconnect workingLinux)).1 = false := by decide
  cases (hruns hwhole).symm.trans hcut

end Slan.Client
