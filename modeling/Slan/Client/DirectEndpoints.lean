import Slan.Client.AppCore

/-! # `connect`: which endpoint is tried, and which one the tunnel gets

`connect` over any connector, with what it asks of the connector.
-/

namespace Slan.Client

/-- An attempt to connect directly: what comes of it, and the connector after it. -/
abbrev P2PConnector (Stream : Type) := PeerCandidate → Except String ConnectionState × P2PState Stream

/-- The candidates that were tried, and whether `connect` went on to a relay. -/
structure ConnectTrace where
  attempts : List PeerCandidate
  relayed : Bool
  deriving DecidableEq, Repr

def Endpoint.candidate (endpoint : Endpoint) (peerNodeId : String) : PeerCandidate :=
  ⟨peerNodeId, endpoint.address, endpoint.endpointType⟩

namespace AppCore

variable {Stream M : Type}

section Connect

variable (core : AppCore Stream M) (connector : P2PConnector Stream) (calls : ConnectCalls Stream M)
  (derpMap : Option DerpMap) (networkId peerNodeId : String)

/-- `connect` over a connector. -/
def connectVia : ConnectTrace × Except String ConnectionState × AppCore Stream M :=
  match resolveConnectContext core.facade.state peerNodeId with
  | .error err => (⟨[], false⟩, .error err, core)
  | .ok context =>
    let plan := core.facade.state.currentConnectPlans.get? context.peer.nodeId
    let relayed := context.peer.relayAllowed
    match (orderedPeerEndpoints context.peer plan).head? with
    | none => (⟨[], relayed⟩, core.fallBack calls derpMap networkId context plan)
    | some endpoint =>
      let candidate := endpoint.candidate context.peer.nodeId
      let (p2pState, p2p) := connector candidate
      let core : AppCore Stream M := { core with p2p }
      match p2pState with
      | .error err => (⟨[candidate], false⟩, .error err, core)
      | .ok (.connected .p2p) =>
        (⟨[candidate], false⟩,
          (core.onP2pRecovered context.peer.nodeId).finishConnect calls context (.connected .p2p))
      | .ok (.failed reason) =>
        (⟨[candidate], relayed⟩, (core.onP2pFailed context.peer.nodeId reason).fallBack calls
          derpMap networkId context plan)
      | .ok _ => (⟨[candidate], relayed⟩, core.fallBack calls derpMap networkId context plan)

/-- The connector of a client. -/
def socketConnector : P2PConnector Stream := fun candidate =>
  let (p2pState, p2p) := SocketP2PConnector.connect core.p2p candidate calls.connectTcp
  (.ok p2pState, p2p)

theorem connect_eq_connectVia : core.connect calls derpMap networkId peerNodeId =
    (core.connectVia (core.socketConnector calls) calls derpMap networkId peerNodeId).2 := by
  unfold connect connectVia
  cases resolveConnectContext core.facade.state peerNodeId with
  | error err => rfl
  | ok context =>
    dsimp only
    cases (orderedPeerEndpoints context.peer
        (core.facade.state.currentConnectPlans.get? context.peer.nodeId)).head? with
    | none => rfl
    | some endpoint =>
      unfold socketConnector Endpoint.candidate
      dsimp only
      generalize SocketP2PConnector.connect core.p2p _ calls.connectTcp = outcome
      obtain ⟨p2pState, p2p⟩ := outcome
      cases p2pState with
      | connected path => cases path <;> rfl
      | _ => rfl

end Connect

end AppCore

/-! ## The property -/

/-- The control plane adds its relays to the endpoints of a peer as this type. -/
def Endpoint.isRelay (endpoint : Endpoint) : Bool := endpoint.endpointType == "relay"

/-- Where a plan ranks an endpoint; without a plan all are alike. -/
def planRank (plan : Option ControlWsConnectPlan) (endpoint : Endpoint) : Nat :=
  (plan.map fun plan => planPosition plan endpoint).getD 0

/-- A direct endpoint of a peer that the plan ranks no other direct one before. -/
structure RankedFirst (peer : Peer) (plan : Option ControlWsConnectPlan) (endpoint : Endpoint) :
    Prop where
  mem : endpoint ∈ peer.endpoints
  direct : endpoint.isRelay = false
  first : ∀ other ∈ peer.endpoints, other.isRelay = false →
    planRank plan endpoint ≤ planRank plan other

section Property

variable {Stream : Type} (connector : P2PConnector Stream) (context : ConnectContext)
  (plan : Option ControlWsConnectPlan) (trace : ConnectTrace)

/-- An attempt gave a direct connection. -/
def Connects (candidate : PeerCandidate) : Prop :=
  (connector candidate).1 = .ok (.connected .p2p)

structure SelectsDirect : Prop where
  onlyDirect : ∀ candidate ∈ trace.attempts, ∃ endpoint ∈ context.peer.endpoints,
    endpoint.isRelay = false ∧ candidate = endpoint.candidate context.peer.nodeId
  firstRanked : (∃ endpoint ∈ context.peer.endpoints, endpoint.isRelay = false) →
    ∃ endpoint, RankedFirst context.peer plan endpoint ∧
      trace.attempts.head? = some (endpoint.candidate context.peer.nodeId)
  goesOn : (∀ candidate ∈ trace.attempts, ¬Connects connector candidate) →
    context.peer.relayAllowed = true → trace.relayed = true
  sameEndpoint : ∀ candidate ∈ trace.attempts, Connects connector candidate →
    ∀ keyPair config, buildTunnelConfig (.p2p context.peer.nodeId) context.bootstrap context.peer
      keyPair = some config → config.wireguardPeer.endpoint = some candidate.endpoint

/-- The tunnel has addresses at both ends. -/
def HasAddresses : Prop :=
  context.bootstrap.device.virtualIp.isSome = true ∧ context.peer.virtualIps ≠ []

/-- Of the first endpoint in the order of the plan, where there is one: it is no relay; if the
attempt is an error, relays are not allowed; and if it connects, the tunnel that can be built would
have this address anyway, as that of the endpoint that is listed first. -/
def SelectsFirst : Prop :=
  ∀ endpoint, (orderedPeerEndpoints context.peer plan).head? = some endpoint →
    endpoint.isRelay = false ∧
      ((∃ err, (connector (endpoint.candidate context.peer.nodeId)).1 = .error err) →
        context.peer.relayAllowed = false) ∧
      (Connects connector (endpoint.candidate context.peer.nodeId) → HasAddresses context →
        context.peer.endpoints.head?.map Endpoint.address = some endpoint.address)

end Property

section Endpoints

variable {peer : Peer} {plan : Option ControlWsConnectPlan} {endpoint : Endpoint}

/-- The first endpoint in the order of the plan is one of the peer, and none is ranked before it. -/
theorem head_orderedPeerEndpoints (h : (orderedPeerEndpoints peer plan).head? = some endpoint) :
    endpoint ∈ peer.endpoints ∧
      ∀ other ∈ peer.endpoints, planRank plan endpoint ≤ planRank plan other := by
  cases plan with
  | none => exact ⟨List.mem_of_mem_head? h, fun _ _ => Nat.le_refl _⟩
  | some plan =>
    have hperm := List.perm_insertionSort
      (fun left right => planPosition plan left ≤ planPosition plan right) peer.endpoints
    have hsorted := List.pairwise_insertionSort
      (fun left right => planPosition plan left ≤ planPosition plan right) peer.endpoints
    unfold orderedPeerEndpoints at h
    dsimp only at h
    generalize peer.endpoints.insertionSort
      (fun left right => planPosition plan left ≤ planPosition plan right) = ordered at h hperm hsorted
    cases ordered with
    | nil => cases h
    | cons first rest =>
      obtain rfl := Option.some.inj h
      refine ⟨hperm.subset List.mem_cons_self, fun other hother => ?_⟩
      rcases List.mem_cons.mp (hperm.symm.subset hother) with rfl | hrest
      · exact Nat.le_refl _
      · exact (List.pairwise_cons.mp hsorted).1 other hrest

theorem orderedPeerEndpoints_eq_nil (h : (orderedPeerEndpoints peer plan).head? = none) :
    peer.endpoints = [] := by
  rw [List.head?_eq_none_iff] at h
  cases plan with
  | none => exact h
  | some plan =>
    have hperm := List.perm_insertionSort
      (fun left right => planPosition plan left ≤ planPosition plan right) peer.endpoints
    unfold orderedPeerEndpoints at h
    dsimp only at h
    rw [h] at hperm
    exact hperm.nil_eq.symm

end Endpoints

namespace AppCore

variable {Stream M : Type} {core : AppCore Stream M} {connector : P2PConnector Stream}
  {calls : ConnectCalls Stream M} {derpMap : Option DerpMap} {networkId peerNodeId : String}
  {context : ConnectContext}

/-- Nothing is tried but the first endpoint in the order of the plan. -/
theorem connectVia_trace (h : resolveConnectContext core.facade.state peerNodeId = .ok context) :
    let first := (orderedPeerEndpoints context.peer
      (core.facade.state.currentConnectPlans.get? context.peer.nodeId)).head?.map
        fun endpoint => endpoint.candidate context.peer.nodeId
    let trace := (core.connectVia connector calls derpMap networkId peerNodeId).1
    trace.attempts = first.toList ∧
      ((∀ candidate ∈ first, ∃ p2pState, (connector candidate).1 = .ok p2pState ∧
        p2pState ≠ .connected .p2p) → trace.relayed = context.peer.relayAllowed) ∧
      (∀ candidate ∈ first, ∀ err, (connector candidate).1 = .error err → trace.relayed = false) := by
  unfold connectVia
  rw [h]
  dsimp only
  cases (orderedPeerEndpoints context.peer
      (core.facade.state.currentConnectPlans.get? context.peer.nodeId)).head? with
  | none => exact ⟨rfl, fun _ => rfl, nofun⟩
  | some endpoint =>
    dsimp only [Option.map_some, Option.toList_some]
    simp only [Option.mem_some_iff, forall_eq']
    generalize connector (endpoint.candidate context.peer.nodeId) = outcome
    obtain ⟨p2pState | p2pState, p2p⟩ := outcome
    · exact ⟨rfl, fun hok => (nomatch hok.choose_spec.1), fun _ _ => rfl⟩
    · cases p2pState with
      | connected path =>
        cases path with
        | p2p => exact ⟨rfl, fun ⟨_, hok, hne⟩ => absurd (Except.ok.inj hok).symm hne, nofun⟩
        | _ => exact ⟨rfl, fun _ => rfl, nofun⟩
      | _ => exact ⟨rfl, fun _ => rfl, nofun⟩

theorem endpoint_of_buildTunnelConfig {path : ActivePath} {bootstrap : BootstrapConfig} {peer : Peer}
    {keyPair : WireGuardKeyPair} {config : TunnelConfig}
    (h : buildTunnelConfig path bootstrap peer keyPair = some config) :
    config.wireguardPeer.endpoint = peer.endpoints.head?.map Endpoint.address := by
  unfold buildTunnelConfig at h
  simp only [Option.bind_eq_bind, Option.bind_eq_some_iff, Option.pure_def, Option.some.injEq] at h
  obtain ⟨transport, -, local_, -, peerVirtualIp, -, rfl⟩ := h
  rfl

theorem exists_tunnelConfig (h : HasAddresses context) (nodeId : String)
    (keyPair : WireGuardKeyPair) : ∃ config,
      buildTunnelConfig (.p2p nodeId) context.bootstrap context.peer keyPair = some config := by
  obtain ⟨hlocal, hpeer⟩ := h
  obtain ⟨virtualIp, hvirtualIp⟩ := Option.isSome_iff_exists.mp hlocal
  obtain ⟨peerVirtualIp, rest, hpeerVirtualIp⟩ := List.exists_cons_of_ne_nil hpeer
  unfold buildTunnelConfig
  rw [hvirtualIp, hpeerVirtualIp]
  exact ⟨_, rfl⟩

theorem hasAddresses_of_buildTunnelConfig {path : ActivePath} {keyPair : WireGuardKeyPair}
    {config : TunnelConfig}
    (h : buildTunnelConfig path context.bootstrap context.peer keyPair = some config) :
    HasAddresses context := by
  unfold buildTunnelConfig at h
  simp only [Option.bind_eq_bind, Option.bind_eq_some_iff] at h
  obtain ⟨transport, -, virtualIp, hvirtualIp, peerVirtualIp, hpeerVirtualIp, -⟩ := h
  refine ⟨Option.isSome_iff_exists.mpr ⟨virtualIp, hvirtualIp⟩, fun hnil => ?_⟩
  rw [hnil] at hpeerVirtualIp
  cases hpeerVirtualIp

/-- The tunnel that is shown after a direct connection is one that can be built. -/
theorem tunnelRuntime_of_connected {core' : AppCore Stream M} {connectionState : ConnectionState}
    {context : ConnectContext}
    (h : core.finishConnect calls context connectionState = (.ok connectionState, core')) :
    ∃ keyPair, core'.facade.state.tunnelRuntime =
      (buildTunnelConfig core.path.activePath context.bootstrap context.peer keyPair).map
        buildTunnelRuntime := by
  unfold finishConnect at h
  dsimp only at h
  split at h
  · cases h
  rename_i keyPair _
  refine ⟨keyPair, ?_⟩
  generalize buildTunnelConfig core.path.activePath context.bootstrap context.peer keyPair = config
    at h ⊢
  unfold finalizeConnectedPath at h
  dsimp only at h
  split at h
  · cases h
  rename_i finished hfinished
  split at hfinished
  · cases hfinished
  · obtain ⟨-, rfl⟩ := Prod.mk.inj hfinished
    obtain ⟨-, rfl⟩ := Prod.mk.inj h
    rfl

/-! ### Two addresses of a peer -/

def otherAddress : Endpoint := ⟨"tcp", "192.168.1.2:7000", 0⟩

/-- The plan prefers the endpoint that is listed second. -/
def twoAddresses : AppCoreSnapshot :=
  { sampleSnapshot with
    currentBootstrap := some ⟨⟨"dev-1", some "10.0.0.1"⟩, ⟨"ws://controller/ws", none, 30⟩,
      some { samplePeerMap with
        peers := [{ samplePeer with endpoints := otherAddress :: samplePeer.endpoints }] }⟩
    currentConnectPlans := (∅ : Table ControlWsConnectPlan).put "node-2"
      ⟨"node-2", true, [⟨"tcp", "203.0.113.2:7000", 1⟩], "", [], none⟩ }

def silentHost : TunnelHost Unit := ⟨fun _ _ => (.ok (), ()), fun _ _ => (.ok (), ())⟩

def twoAddressesCore : AppCore Unit Unit := (AppCore.new ()).withState twoAddresses

def twoAddressesContext : ConnectContext :=
  ⟨⟨⟨"dev-1", some "10.0.0.1"⟩, ⟨"ws://controller/ws", none, 30⟩, some { samplePeerMap with
    peers := [{ samplePeer with endpoints := otherAddress :: samplePeer.endpoints }] }⟩, "node-1",
    { samplePeer with endpoints := otherAddress :: samplePeer.endpoints }⟩

end AppCore

end Slan.Client
