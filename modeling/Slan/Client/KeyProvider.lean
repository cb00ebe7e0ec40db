import Slan.Client.Restart

/-! # `key_provider.rs`: where a tunnel's key pair comes from

And what the calls of the facade leave of the node, the bootstrap and the tunnels, with the key pair
and the peer of each tunnel that they configure.
-/

namespace Slan.Client

/-! ## Providers -/

structure TunnelKeyStore where
  entries : List TunnelKeyMaterial
  deriving DecidableEq, Repr

/-- The material of a device and a node. -/
def TunnelKeyMaterial.isOf (material : TunnelKeyMaterial) (deviceId : String)
    (nodeId : Option String) : Bool :=
  material.deviceId = some deviceId ∧ material.nodeId = nodeId

def InMemoryTunnelKeyProvider.generate (deviceId : String) (nodeId : Option String)
    (peerNodeId : String) (createdAtMs : Nat) : TunnelKeyMaterial :=
  let publicSuffix := nodeId.getD peerNodeId
  { deviceId := some deviceId
    nodeId
    keyPair :=
      ⟨"wg-pub-" ++ deviceId ++ "-" ++ publicSuffix ++ "-" ++ toString createdAtMs,
        "wg-priv-" ++ deviceId ++ "-" ++ publicSuffix ++ "-" ++ toString createdAtMs⟩
    createdAtMs }

/-- What reading and writing the file give. A file that is not there reads as an empty store. -/
structure FileTunnelKeyProvider where
  loadStore : Except String TunnelKeyStore
  saveStore : TunnelKeyStore → Except String Unit

/-- The store that is written comes with the material. -/
def FileTunnelKeyProvider.generate (provider : FileTunnelKeyProvider) (deviceId : String)
    (nodeId : Option String) (peerNodeId : String) (createdAtMs : Nat) :
    Except String (TunnelKeyMaterial × Option TunnelKeyStore) := do
  let store ← provider.loadStore
  match store.entries.find? fun entry => entry.isOf deviceId nodeId with
  | some existing => return (existing, none)
  | none =>
    let material := InMemoryTunnelKeyProvider.generate deviceId nodeId peerNodeId createdAtMs
    let store : TunnelKeyStore := ⟨store.entries ++ [material]⟩
    provider.saveStore store
    return (material, some store)

/-- A call gives the first entry of its device and node, or makes one and writes it at the end. -/
theorem FileTunnelKeyProvider.generate_cases {provider : FileTunnelKeyProvider}
    {deviceId peerNodeId : String} {nodeId : Option String} {createdAtMs : Nat}
    {result : TunnelKeyMaterial × Option TunnelKeyStore}
    (h : provider.generate deviceId nodeId peerNodeId createdAtMs = .ok result) :
    ∃ store, provider.loadStore = .ok store ∧
      match store.entries.find? fun entry => entry.isOf deviceId nodeId with
      | some existing => result = (existing, none)
      | none =>
        let material := InMemoryTunnelKeyProvider.generate deviceId nodeId peerNodeId createdAtMs
        result = (material, some ⟨store.entries ++ [material]⟩) := by
  unfold generate at h
  cases hload : provider.loadStore with
  | error err =>
    rw [hload] at h
    cases h
  | ok store =>
    refine ⟨store, rfl, ?_⟩
    rw [hload] at h
    dsimp only [bind, Except.bind] at h
    cases hfound : store.entries.find? fun entry => entry.isOf deviceId nodeId with
    | some existing =>
      rw [hfound] at h
      exact (Except.ok.inj h).symm
    | none =>
      rw [hfound] at h
      dsimp only at h ⊢
      split at h
      · cases h
      · exact (Except.ok.inj h).symm

/-- A file gives the material that it was written with again, to whatever peer. -/
theorem FileTunnelKeyProvider.generate_again {provider next : FileTunnelKeyProvider}
    {deviceId peerNodeId : String} {nodeId : Option String} {createdAtMs : Nat}
    {material : TunnelKeyMaterial} {store : TunnelKeyStore}
    (h : provider.generate deviceId nodeId peerNodeId createdAtMs = .ok (material, some store))
    (hnext : next.loadStore = .ok store) (peerNodeId' : String) (createdAtMs' : Nat) :
    next.generate deviceId nodeId peerNodeId' createdAtMs' = .ok (material, none) := by
  obtain ⟨before, -, hresult⟩ := generate_cases h
  cases hfound : before.entries.find? fun entry => entry.isOf deviceId nodeId with
  | some existing =>
    rw [hfound] at hresult
    cases hresult
  | none =>
    rw [hfound] at hresult
    obtain ⟨rfl, hstore⟩ := Prod.mk.inj hresult
    obtain rfl := Option.some.inj hstore
    have hown : (InMemoryTunnelKeyProvider.generate deviceId nodeId peerNodeId createdAtMs).isOf
        deviceId nodeId = true := by
      simp [InMemoryTunnelKeyProvider.generate, TunnelKeyMaterial.isOf]
    have hlast : (before.entries ++ [InMemoryTunnelKeyProvider.generate deviceId nodeId peerNodeId
        createdAtMs]).find? (fun entry => entry.isOf deviceId nodeId) =
        some (InMemoryTunnelKeyProvider.generate deviceId nodeId peerNodeId createdAtMs) := by
      rw [List.find?_append, hfound, Option.none_or, List.find?_cons, hown]
    unfold generate
    rw [hnext]
    dsimp only [bind, Except.bind]
    rw [hlast]
    rfl

inductive KeyProvider where
  | inMemory
  | file (provider : FileTunnelKeyProvider)

namespace KeyProvider

def generate (provider : KeyProvider) : TunnelKeyProvider :=
  fun deviceId nodeId peerNodeId createdAtMs =>
    match provider with
    | .inMemory =>
      .ok (InMemoryTunnelKeyProvider.generate deviceId nodeId peerNodeId createdAtMs)
    | .file provider =>
      (provider.generate deviceId nodeId peerNodeId createdAtMs).map Prod.fst

/-- What is in the provider's store for a device and a node. -/
def stored (provider : KeyProvider) (deviceId : String) (nodeId : Option String) :
    Option TunnelKeyMaterial :=
  match provider with
  | .inMemory => none
  | .file provider =>
    match provider.loadStore with
    | .ok store => store.entries.find? fun entry => entry.isOf deviceId nodeId
    | .error _ => none

/-- A provider gives what it has stored, and makes what it has not. -/
theorem generate_eq_ok {provider : KeyProvider} {deviceId peerNodeId : String}
    {nodeId : Option String} {createdAtMs : Nat} {material : TunnelKeyMaterial}
    (h : provider.generate deviceId nodeId peerNodeId createdAtMs = .ok material) :
    material = (provider.stored deviceId nodeId).getD
      (InMemoryTunnelKeyProvider.generate deviceId nodeId peerNodeId createdAtMs) := by
  cases provider with
  | inMemory => exact (Except.ok.inj h).symm
  | file provider =>
    dsimp only [generate] at h
    cases hgenerate : provider.generate deviceId nodeId peerNodeId createdAtMs with
    | error err =>
      rw [hgenerate] at h
      cases h
    | ok result =>
      rw [hgenerate] at h
      obtain rfl : result.1 = material := Except.ok.inj h
      obtain ⟨store, hload, hresult⟩ := FileTunnelKeyProvider.generate_cases hgenerate
      dsimp only [stored]
      rw [hload]
      dsimp only
      cases hfound : store.entries.find? fun entry => entry.isOf deviceId nodeId with
      | some existing =>
        rw [hfound] at hresult
        rw [hresult]
        rfl
      | none =>
        rw [hfound] at hresult
        rw [hresult]
        rfl

end KeyProvider

/-! ## The key pair on record -/

/-- The material of the client's device and node that it has at hand: what is cached, or else what
its provider has stored. -/
def AppCoreSnapshot.recordedKey (state : AppCoreSnapshot) (provider : KeyProvider)
    (deviceId : String) : Option TunnelKeyMaterial :=
  let nodeId := state.currentNode.map Node.nodeId
  (state.tunnelKeyMaterial.filter fun material => material.isOf deviceId nodeId).or
    (provider.stored deviceId nodeId)

/-- The key pair of a tunnel is that on record, and where there is none one that is made. -/
theorem ensureTunnelKeyPair_eq_ok {state : AppCoreSnapshot} {provider : KeyProvider}
    {deviceId peerNodeId : String} {createdAtMs : Nat} {keyPair : WireGuardKeyPair}
    (h : (ensureTunnelKeyPair state provider.generate deviceId peerNodeId createdAtMs).1 =
      .ok keyPair) :
    keyPair = ((state.recordedKey provider deviceId).getD
      (InMemoryTunnelKeyProvider.generate deviceId (state.currentNode.map Node.nodeId) peerNodeId
        createdAtMs)).keyPair := by
  unfold ensureTunnelKeyPair at h
  unfold AppCoreSnapshot.recordedKey
  dsimp only at h ⊢
  change (match state.tunnelKeyMaterial.filter fun material =>
      material.isOf deviceId (state.currentNode.map Node.nodeId) with
    | some material => _
    | none => _ : Except String WireGuardKeyPair × AppCoreSnapshot).1 = .ok keyPair at h
  cases hcached : state.tunnelKeyMaterial.filter fun material =>
      material.isOf deviceId (state.currentNode.map Node.nodeId) with
  | some material =>
    rw [hcached] at h
    exact (Except.ok.inj h).symm
  | none =>
    rw [hcached] at h
    dsimp only at h
    rw [Option.none_or]
    cases hgenerate : provider.generate deviceId (state.currentNode.map Node.nodeId) peerNodeId
        createdAtMs with
    | error err =>
      rw [hgenerate] at h
      cases h
    | ok material =>
      rw [hgenerate] at h
      rw [← KeyProvider.generate_eq_ok hgenerate]
      exact (Except.ok.inj h).symm

/-- Neither the node nor the bootstrap changes. -/
theorem ensureTunnelKeyPair_frame (state : AppCoreSnapshot) (generate : TunnelKeyProvider)
    (deviceId peerNodeId : String) (createdAtMs : Nat) :
    let next := (ensureTunnelKeyPair state generate deviceId peerNodeId createdAtMs).2
    next.currentNode = state.currentNode ∧ next.currentBootstrap = state.currentBootstrap := by
  obtain ⟨material, hstate⟩ :=
    ensureTunnelKeyPair_state state generate deviceId peerNodeId createdAtMs
  dsimp only
  rw [hstate]
  exact ⟨rfl, rfl⟩

/-! ## Configured tunnels -/

/-- The tunnel is to the peer, under the key pair. -/
structure TunnelConfig.Joins (tunnel : TunnelConfig) (keyPair : WireGuardKeyPair) (peer : Peer) :
    Prop where
  keyPair : tunnel.wireguardInterface.keyPair = keyPair
  nodeId : tunnel.wireguardPeer.peerNodeId = some peer.nodeId
  publicKey : tunnel.wireguardPeer.publicKey = peer.publicKey

theorem buildTunnelConfig_joins {activePath : ActivePath} {bootstrap : BootstrapConfig}
    {peer : Peer} {keyPair : WireGuardKeyPair} {tunnel : TunnelConfig}
    (h : buildTunnelConfig activePath bootstrap peer keyPair = some tunnel) :
    tunnel.Joins keyPair peer := by
  unfold buildTunnelConfig at h
  obtain ⟨transport, -, h⟩ := Option.bind_eq_some_iff.mp h
  obtain ⟨localVirtualIp, -, h⟩ := Option.bind_eq_some_iff.mp h
  obtain ⟨peerVirtualIp, -, h⟩ := Option.bind_eq_some_iff.mp h
  obtain rfl := Option.some.inj h
  exact ⟨rfl, rfl, rfl⟩

/-- What a manager holds after a `replace_tunnel` it held before, or is the new tunnel. -/
theorem replaceTunnelOn_held {manager : TunnelManager} {held : Table TunnelConfig}
    {current : Option String} {config : Option TunnelConfig} {virtualIp : String}
    {tunnel : TunnelConfig}
    (h : (replaceTunnelOn (tableHost manager) held current config).2.2.get? virtualIp =
      some tunnel) :
    held.get? virtualIp = some tunnel ∨ config = some tunnel := by
  have hclosed : ∀ next, (closeOther (tableHost manager) held current next).2.2.get? virtualIp =
      some tunnel → held.get? virtualIp = some tunnel := by
    intro next hget
    unfold closeOther tableHost at hget
    cases current with
    | none => exact hget
    | some peerVirtualIp =>
      dsimp only at hget
      split at hget
      · cases hclose : manager.close peerVirtualIp with
        | error err =>
          rw [hclose] at hget
          exact hget
        | ok _ =>
          rw [hclose] at hget
          dsimp only at hget
          rw [Table.get?_remove] at hget
          split at hget
          · cases hget
          · exact hget
      · exact hget
  unfold replaceTunnelOn at h
  -- closing the other tunnel comes first, and ends the call where it fails
  rcases hrun : closeOther (tableHost manager) held current (config.map TunnelConfig.peerVirtualIp)
    with ⟨err | _, left, tunnels⟩
  · rw [hrun] at h
    exact .inl (hclosed _ (by rw [hrun]; exact h))
  · have hleft : tunnels.get? virtualIp = some tunnel → held.get? virtualIp = some tunnel :=
      fun hget => hclosed _ (by rw [hrun]; exact hget)
    rw [hrun] at h
    cases config with
    | none => exact .inl (hleft h)
    | some config =>
      dsimp only [tableHost] at h
      split at h
      · cases hestablish : manager.establish config with
        | error err =>
          rw [hestablish] at h
          exact .inl (hleft h)
        | ok _ =>
          rw [hestablish] at h
          dsimp only at h
          rw [Table.get?_put] at h
          split at h
          · exact .inr h
          · exact .inl (hleft h)
      · exact .inl (hleft h)

namespace AppCore

variable {Stream : Type}

/-- Of the tunnels only such as fit are new. -/
def Configures (fits : TunnelConfig → Prop) (core next : AppCore Stream (Table TunnelConfig)) :
    Prop :=
  ∀ virtualIp tunnel, next.tunnels.get? virtualIp = some tunnel →
    core.tunnels.get? virtualIp = some tunnel ∨ fits tunnel

theorem Configures.of_tunnels {fits : TunnelConfig → Prop}
    {core next : AppCore Stream (Table TunnelConfig)} (h : next.tunnels = core.tunnels) :
    Configures fits core next := by
  intro virtualIp tunnel hget
  rw [h] at hget
  exact .inl hget

/-- Node and bootstrap are the same. -/
structure SameSelf (core next : AppCore Stream (Table TunnelConfig)) : Prop where
  node : next.facade.state.currentNode = core.facade.state.currentNode
  bootstrap : next.facade.state.currentBootstrap = core.facade.state.currentBootstrap

/-! ### `connect` -/

theorem finalizeConnectedPath_configures (core : AppCore Stream (Table TunnelConfig))
    (manager : TunnelManager) (activePath : ActivePath) (config : Option TunnelConfig) :
    let next := (core.finalizeConnectedPath (tableHost manager) activePath config).2
    SameSelf core next ∧ Configures (fun tunnel => config = some tunnel) core next := by
  have hheld := @replaceTunnelOn_held manager core.tunnels
    core.facade.currentTunnelPeerVirtualIp config
  unfold finalizeConnectedPath
  rcases hrun : replaceTunnelOn (tableHost manager) core.tunnels
    core.facade.currentTunnelPeerVirtualIp config with ⟨err | _, current, tunnels⟩
  · rw [hrun] at hheld
    exact ⟨⟨rfl, rfl⟩, fun _ _ hget => hheld hget⟩
  · rw [hrun] at hheld
    exact ⟨⟨rfl, rfl⟩, fun _ _ hget => hheld hget⟩

/-- The tunnel joins the context's peer under the key pair that is ensured for it. -/
def Ensured (state : AppCoreSnapshot) (generate : TunnelKeyProvider) (deviceId : String)
    (nowMs : Nat) (peer : Peer) (tunnel : TunnelConfig) : Prop :=
  ∃ keyPair, (ensureTunnelKeyPair state generate deviceId peer.nodeId nowMs).1 = .ok keyPair ∧
    tunnel.Joins keyPair peer

variable {calls : ConnectCalls Stream (Table TunnelConfig)} {manager : TunnelManager}
  {context : ConnectContext}

theorem finishConnect_configures (core : AppCore Stream (Table TunnelConfig))
    (hhost : calls.host = tableHost manager) (connectionState : ConnectionState) :
    let next := (core.finishConnect calls context connectionState).2
    SameSelf core next ∧ Configures (Ensured core.facade.state calls.generate
      context.bootstrap.device.deviceId calls.nowMs context.peer) core next := by
  obtain ⟨hnode, hbootstrap⟩ := ensureTunnelKeyPair_frame core.facade.state calls.generate
    context.bootstrap.device.deviceId context.peer.nodeId calls.nowMs
  unfold finishConnect Ensured
  rw [hhost]
  generalize ensureTunnelKeyPair core.facade.state calls.generate _ _ _ = ensured at *
  obtain ⟨err | keyPair, state⟩ := ensured
  · exact ⟨⟨hnode, hbootstrap⟩, .of_tunnels rfl⟩
  · dsimp only at hnode hbootstrap ⊢
    obtain ⟨hself, hconfigures⟩ := finalizeConnectedPath_configures (core.withState state) manager
      core.path.activePath (buildTunnelConfig core.path.activePath context.bootstrap context.peer
        keyPair)
    have hfits : ∀ tunnel, buildTunnelConfig core.path.activePath context.bootstrap context.peer
        keyPair = some tunnel → ∃ keyPair', (Except.ok keyPair : Except String WireGuardKeyPair) =
          .ok keyPair' ∧ tunnel.Joins keyPair' context.peer :=
      fun tunnel hbuilt => ⟨keyPair, rfl, buildTunnelConfig_joins hbuilt⟩
    rcases hrun : (core.withState state).finalizeConnectedPath (tableHost manager)
      core.path.activePath (buildTunnelConfig core.path.activePath context.bootstrap context.peer
        keyPair) with ⟨err | _, next⟩
    · rw [hrun] at hself hconfigures
      exact ⟨⟨hself.node.trans hnode, hself.bootstrap.trans hbootstrap⟩,
        fun virtualIp tunnel hget => (hconfigures virtualIp tunnel hget).imp_right (hfits tunnel)⟩
    · rw [hrun] at hself hconfigures
      exact ⟨⟨hself.node.trans hnode, hself.bootstrap.trans hbootstrap⟩,
        fun virtualIp tunnel hget => (hconfigures virtualIp tunnel hget).imp_right (hfits tunnel)⟩

theorem finishManaged_configures (core : AppCore Stream (Table TunnelConfig))
    (hhost : calls.host = tableHost manager) :
    let next := (core.finishManaged calls context).2
    SameSelf core next ∧ Configures (Ensured core.facade.state calls.generate
      context.bootstrap.device.deviceId calls.nowMs context.peer) core next := by
  unfold finishManaged
  split
  · exact finishConnect_configures core hhost _
  · exact ⟨⟨rfl, rfl⟩, .of_tunnels rfl⟩

/-- A way is found for the context that the call resolves. -/
theorem fallBackRoute_context {core : AppCore Stream (Table TunnelConfig)}
    {derpMap : Option DerpMap} {networkId : String} {plan : Option ControlWsConnectPlan}
    {found : ConnectContext}
    (h : (core.fallBackRoute calls derpMap networkId context plan).1 = .ok found) :
    context = found := by
  unfold fallBackRoute at h
  split at h
  · cases h
  · rcases hpool : core.connectViaDerpPool calls derpMap networkId context with ⟨err | _ | _, next⟩
    · rw [hpool] at h
      cases h
    · rw [hpool] at h
      dsimp only at h
      split at h
      · cases h
      · split at h
        · cases h
        · exact Except.ok.inj h
    · rw [hpool] at h
      exact Except.ok.inj h

theorem route_context {core : AppCore Stream (Table TunnelConfig)} {derpMap : Option DerpMap}
    {networkId peerNodeId : String}
    (h : (core.route calls derpMap networkId peerNodeId).1 = .ok context) :
    resolveConnectContext core.facade.state peerNodeId = .ok context := by
  unfold route at h
  cases hresolve : resolveConnectContext core.facade.state peerNodeId with
  | error err =>
    rw [hresolve] at h
    cases h
  | ok resolved =>
    rw [hresolve] at h
    dsimp only at h
    refine congrArg Except.ok ?_
    split at h
    · exact fallBackRoute_context h
    · split at h
      · exact Except.ok.inj h
      · exact fallBackRoute_context h
      · exact fallBackRoute_context h

/-- What a `connect` configures, it configures to the peer that it resolves. -/
theorem connect_configures (core : AppCore Stream (Table TunnelConfig))
    (hhost : calls.host = tableHost manager) (derpMap : Option DerpMap)
    (networkId peerNodeId : String) :
    let next := (core.connect calls derpMap networkId peerNodeId).2
    SameSelf core next ∧ Configures (fun tunnel => ∃ context,
      resolveConnectContext core.facade.state peerNodeId = .ok context ∧
        Ensured core.facade.state calls.generate context.bootstrap.device.deviceId calls.nowMs
          context.peer tunnel) core next := by
  have hcontext := @route_context Stream calls
  obtain ⟨hfacade, htunnels⟩ := route_frame core calls derpMap networkId peerNodeId
  rw [connect_eq]
  rcases hrun : core.route calls derpMap networkId peerNodeId with ⟨err | context, next⟩
  · rw [hrun] at hfacade htunnels
    dsimp only at hfacade htunnels
    refine ⟨?_, .of_tunnels htunnels⟩
    constructor <;> rw [finishRoute, hfacade]
  · rw [hrun] at hfacade htunnels
    dsimp only at hfacade htunnels
    have hresolve : resolveConnectContext core.facade.state peerNodeId = .ok context :=
      hcontext (by rw [hrun])
    obtain ⟨⟨hnode, hbootstrap⟩, hconfigures⟩ :=
      @finishManaged_configures Stream calls manager context next hhost
    rw [hfacade] at hnode hbootstrap hconfigures
    refine ⟨⟨hnode, hbootstrap⟩, fun virtualIp tunnel hget => ?_⟩
    rw [← htunnels]
    exact (hconfigures virtualIp tunnel hget).imp_right fun hfits => ⟨context, hresolve, hfits⟩

end AppCore

/-! ### `control_sync` -/

/-- The peer is in the bootstrap's network map. -/
def BootstrapConfig.Shows (bootstrap : BootstrapConfig) (peer : Peer) : Prop :=
  ∃ networkMap, bootstrap.networkMap = some networkMap ∧ peer ∈ networkMap.peers

theorem findPeer_shows {bootstrap : BootstrapConfig} {nodeId : String} {peer : Peer}
    (h : findPeer nodeId bootstrap.networkMap = some peer) : bootstrap.Shows peer := by
  obtain ⟨networkMap, hmap, hfound⟩ := Option.bind_eq_some_iff.mp h
  exact ⟨networkMap, hmap, List.mem_of_find?_eq_some hfound⟩

theorem resolveConnectContext_eq_ok {state : AppCoreSnapshot} {peerNodeId : String}
    {context : ConnectContext} (h : resolveConnectContext state peerNodeId = .ok context) :
    state.currentBootstrap = some context.bootstrap ∧ context.bootstrap.Shows context.peer := by
  unfold resolveConnectContext at h
  cases hbootstrap : state.currentBootstrap with
  | none =>
    rw [hbootstrap] at h
    cases h
  | some bootstrap =>
    rw [hbootstrap] at h
    cases hnode : state.currentNode with
    | none =>
      rw [hnode] at h
      cases h
    | some node =>
      rw [hnode] at h
      cases hmap : bootstrap.networkMap with
      | none =>
        dsimp only at h
        rw [hmap] at h
        cases h
      | some networkMap =>
        dsimp only at h
        rw [hmap] at h
        dsimp only at h
        split at h
        · rename_i peer hpeer
          obtain rfl := Except.ok.inj h
          exact ⟨rfl, networkMap, hmap, List.mem_of_find?_eq_some hpeer⟩
        · cases h

/-- A new address does not make another device of the client's own. -/
theorem reassignOwn_deviceId (networkId : String) (currentDeviceId : Option String)
    (updates : List ControlWsDeviceIPReassigned) (own : Device × Bool × Option String) :
    (updates.foldl (reassignOwn networkId currentDeviceId) own).1.deviceId = own.1.deviceId := by
  induction updates generalizing own with
  | nil => rfl
  | cons update updates ih =>
    obtain ⟨device, shouldReapply, virtualIp⟩ := own
    rw [List.foldl_cons, ih]
    unfold reassignOwn
    dsimp only
    split
    · rfl
    · by_cases hdevice : device.deviceId = update.deviceId
      · rw [if_pos hdevice]
      · rw [if_neg hdevice]

/-- The peer of a tunnel to apply again has the node and the key of a peer that the new map or the
one before shows. -/
theorem tunnelReapply_eq_some {activePath : ActivePath} {peerNodeId : String}
    {bootstrap previous : BootstrapConfig} {updates : List ControlWsDeviceIPReassigned}
    {shouldReapply : Bool} {reapply : TunnelReapply}
    (h : tunnelReapply activePath peerNodeId bootstrap previous.networkMap updates shouldReapply =
      some reapply) :
    reapply.bootstrap = bootstrap ∧ ∃ peer, (bootstrap.Shows peer ∨ previous.Shows peer) ∧
      reapply.peer.nodeId = peer.nodeId ∧ reapply.peer.publicKey = peer.publicKey := by
  unfold tunnelReapply at h
  cases hfound : (findPeer peerNodeId bootstrap.networkMap).or
      (findPeer peerNodeId previous.networkMap) with
  | none =>
    rw [hfound] at h
    cases h
  | some peer =>
    rw [hfound] at h
    have hshown : bootstrap.Shows peer ∨ previous.Shows peer := by
      obtain hpeer | ⟨-, hpeer⟩ := Option.or_eq_some_iff.mp hfound
      · exact .inl (findPeer_shows hpeer)
      · exact .inr (findPeer_shows hpeer)
    dsimp only [Option.map_some, bind, Option.bind] at h
    obtain ⟨-, hreapply⟩ := Option.ite_none_right_eq_some.mp h
    obtain rfl := Option.some.inj hreapply
    refine ⟨rfl, peer, hshown, ?_⟩
    dsimp only
    split <;> exact ⟨rfl, rfl⟩

/-- The bootstrap that an update goes into. -/
def ControlWsBootstrapUpdate.base (update : ControlWsBootstrapUpdate) (current : BootstrapConfig) :
    BootstrapConfig :=
  update.bootstrapOverride.getD current

theorem commitUpdate_eq_ok {state next : AppCoreSnapshot} {update : ControlWsBootstrapUpdate}
    {bootstrap : BootstrapConfig} {reapply : Option TunnelReapply}
    (h : commitUpdate state update = .ok (next, bootstrap, reapply)) :
    ∃ current, state.currentBootstrap = some current ∧ next.currentNode = state.currentNode ∧
      next.tunnelKeyMaterial = state.tunnelKeyMaterial ∧
      next.currentBootstrap = some bootstrap ∧ bootstrap.networkMap = some update.networkMap ∧
      ∀ again, reapply = some again →
        again.bootstrap.device.deviceId = (update.base current).device.deviceId ∧
        ∃ peer, (bootstrap.Shows peer ∨ (update.base current).Shows peer) ∧
          again.peer.nodeId = peer.nodeId ∧ again.peer.publicKey = peer.publicKey := by
  unfold commitUpdate at h
  cases hcurrent : state.currentBootstrap with
  | none =>
    rw [hcurrent] at h
    cases h
  | some current =>
    rw [hcurrent] at h
    have hdevice := reassignOwn_deviceId update.networkMap.networkId
      (state.currentDevice.map Device.deviceId) update.deviceIpUpdates
      ((update.base current).device, false, none)
    obtain ⟨hnext, hrest⟩ := Prod.mk.inj (Except.ok.inj h)
    obtain ⟨hbootstrap, hreapply⟩ := Prod.mk.inj hrest
    have hmap : bootstrap.networkMap = some update.networkMap := by rw [← hbootstrap]
    have hdeviceId : bootstrap.device.deviceId = (update.base current).device.deviceId := by
      rw [← hbootstrap]
      exact hdevice
    refine ⟨current, rfl, by rw [← hnext], by rw [← hnext], ?_, hmap, fun again hagain => ?_⟩
    · rw [← hnext]
      exact congrArg some hbootstrap
    · rw [hbootstrap, hagain] at hreapply
      have happlied : ∀ activePath peerNodeId shouldReapply,
          tunnelReapply activePath peerNodeId bootstrap (update.base current).networkMap
            update.deviceIpUpdates shouldReapply = some again →
          again.bootstrap.device.deviceId = (update.base current).device.deviceId ∧
            ∃ peer, (bootstrap.Shows peer ∨ (update.base current).Shows peer) ∧
              again.peer.nodeId = peer.nodeId ∧ again.peer.publicKey = peer.publicKey := by
        intro activePath peerNodeId shouldReapply hagain
        obtain ⟨hsame, hpeer⟩ := tunnelReapply_eq_some hagain
        rw [hsame]
        exact ⟨hdeviceId, hpeer⟩
      split at hreapply
      · exact happlied _ _ _ hreapply
      · exact happlied _ _ _ hreapply
      · cases hreapply

namespace AppCore

variable {Stream : Type}

/-- The tunnel is the one that the update has applied again. -/
def Reapplied (state : AppCoreSnapshot) (update : ControlWsBootstrapUpdate)
    (generate : TunnelKeyProvider) (nowMs : Nat) (tunnel : TunnelConfig) : Prop :=
  ∃ next bootstrap again, commitUpdate state update = .ok (next, bootstrap, some again) ∧
    Ensured next generate again.bootstrap.device.deviceId nowMs again.peer tunnel

/-- A `control_sync` leaves the node, and puts the map of its update into the bootstrap. -/
theorem commitControlSync_configures (core : AppCore Stream (Table TunnelConfig))
    (update : ControlWsBootstrapUpdate) (generate : TunnelKeyProvider) (manager : TunnelManager)
    (nowMs : Nat) :
    let next := (core.commitControlSync update generate (tableHost manager) nowMs).2
    next.facade.state.currentNode = core.facade.state.currentNode ∧
      (next.facade.state.currentBootstrap = core.facade.state.currentBootstrap ∨
        ∃ bootstrap, next.facade.state.currentBootstrap = some bootstrap ∧
          bootstrap.networkMap = some update.networkMap) ∧
      Configures (Reapplied core.facade.state update generate nowMs) core next := by
  unfold commitControlSync
  cases hcommit : commitUpdate core.facade.state update with
  | error err => exact ⟨rfl, .inl rfl, .of_tunnels rfl⟩
  | ok committed =>
    obtain ⟨state, bootstrap, reapply⟩ := committed
    obtain ⟨-, -, hnode, -, hbootstrap, hmap, -⟩ := commitUpdate_eq_ok hcommit
    cases reapply with
    | none => exact ⟨hnode, .inr ⟨bootstrap, hbootstrap, hmap⟩, .of_tunnels rfl⟩
    | some again =>
      obtain ⟨hnode', hbootstrap'⟩ := ensureTunnelKeyPair_frame state generate
        again.bootstrap.device.deviceId again.peer.nodeId nowMs
      rw [← hnode'] at hnode
      rw [← hbootstrap'] at hbootstrap
      have hfits : ∀ keyPair tunnel,
          (ensureTunnelKeyPair state generate again.bootstrap.device.deviceId again.peer.nodeId
            nowMs).1 = .ok keyPair →
          buildTunnelConfig again.activePath again.bootstrap again.peer keyPair = some tunnel →
          Ensured state generate again.bootstrap.device.deviceId nowMs again.peer tunnel :=
        fun keyPair tunnel hensured hbuilt => ⟨keyPair, hensured, buildTunnelConfig_joins hbuilt⟩
      dsimp only
      generalize hrun : ensureTunnelKeyPair state generate again.bootstrap.device.deviceId
        again.peer.nodeId nowMs = ensured at *
      obtain ⟨err | keyPair, ensuredState⟩ := ensured
      · exact ⟨hnode, .inr ⟨bootstrap, hbootstrap, hmap⟩, .of_tunnels rfl⟩
      · dsimp only
        cases hbuilt : buildTunnelConfig again.activePath again.bootstrap again.peer keyPair with
        | none => exact ⟨hnode, .inr ⟨bootstrap, hbootstrap, hmap⟩, .of_tunnels rfl⟩
        | some config =>
          have hheld := @replaceTunnelOn_held manager core.tunnels
            core.facade.currentTunnelPeerVirtualIp (some config)
          have hnew : ∀ tunnel, some config = some tunnel →
              Reapplied core.facade.state update generate nowMs tunnel := fun tunnel heq =>
            ⟨state, bootstrap, again, hcommit, hfits keyPair tunnel rfl (hbuilt.trans heq)⟩
          dsimp only [withState]
          rcases hreplaced : replaceTunnelOn (tableHost manager) core.tunnels
            core.facade.currentTunnelPeerVirtualIp (some config) with ⟨err | _, left, tunnels⟩
          · rw [hreplaced] at hheld
            exact ⟨hnode, .inr ⟨bootstrap, hbootstrap, hmap⟩,
              fun virtualIp tunnel hget => (hheld hget).imp_right (hnew tunnel)⟩
          · rw [hreplaced] at hheld
            exact ⟨hnode, .inr ⟨bootstrap, hbootstrap, hmap⟩,
              fun virtualIp tunnel hget => (hheld hget).imp_right (hnew tunnel)⟩

end AppCore

end Slan.Client
