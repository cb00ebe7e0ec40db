import Slan.Client.AppProcess
import Slan.Client.TunnelTracking

/-! # Reassigned addresses

A `control_sync` that reads nothing but reassigned addresses. They go into the network map, into
the devices of the snapshot and into the tunnel, each by code of its own.
-/

namespace Slan.Client

/-! ## What the events say -/

section

variable (networkId : String) (events : List ControlWsDeviceIPReassigned)

/-- The address that the last event of the network for a device gives it. -/
def lastAddress (deviceId : String) : Option String :=
  (events.reverse.find? fun event => event.networkId = networkId ∧ event.deviceId = deviceId).map
    ControlWsDeviceIPReassigned.virtualIp

/-- The address that the first event for a device gives it, in whatever network. -/
def firstAddress (deviceId : String) : Option String :=
  (events.find? fun event => event.deviceId = deviceId).map ControlWsDeviceIPReassigned.virtualIp

def Device.reassigned (device : Device) : Device :=
  { device with virtualIp := (lastAddress networkId events device.deviceId).or device.virtualIp }

def Peer.reassigned (peer : Peer) : Peer :=
  match lastAddress networkId events peer.deviceId with
  | some address => { peer with virtualIps := [address] }
  | none => peer

end

def NetworkMap.reassigned (events : List ControlWsDeviceIPReassigned) (networkMap : NetworkMap) :
    NetworkMap :=
  { networkMap with peers := networkMap.peers.map (Peer.reassigned networkMap.networkId events) }

/-- The peer that the snapshot's path leads to; a DERP path names none. -/
def ActivePath.peerNodeId : ActivePath → Option String
  | .p2p peerNodeId => some peerNodeId
  | .relay peerNodeId => some peerNodeId
  | .derp _ _ => Option.none
  | .none => Option.none

namespace AppCore

variable {Stream : Type}

/-- The call reads this map and these events, over the stored client or over a new one. -/
def Reads {M : Type} (core : AppCore Stream M) (calls : SyncCalls) (networkMap : NetworkMap)
    (received : List Received) : Prop :=
  ∃ config heartbeatSeconds connectPlans, controlWsConfig core.facade.state = .ok config ∧
    (core.gather calls config).1 =
      .ok (drainedUpdate networkMap heartbeatSeconds connectPlans received)

/-- As the map has it that is sent, or else as the snapshot's map has it. -/
def knownPeer {M : Type} (core : AppCore Stream M) (networkMap : NetworkMap) (nodeId : String) :
    Option Peer :=
  (findPeer nodeId (some networkMap)).or
    (findPeer nodeId (core.facade.state.currentBootstrap.bind BootstrapConfig.networkMap))

/-- The tunnel to the recorded peer. -/
def liveTunnel (core : AppCore Stream (Table TunnelConfig)) : Option TunnelConfig :=
  core.facade.currentTunnelPeerVirtualIp.bind core.tunnels.get?

/-- The tunnel's two ends have the addresses that the last events of the network give them. -/
structure CarriesLast {M : Type} (core : AppCore Stream M) (networkMap : NetworkMap)
    (events : List ControlWsDeviceIPReassigned) (tunnel : TunnelConfig) : Prop where
  own : ∀ bootstrap address, core.facade.state.currentBootstrap = some bootstrap →
    lastAddress networkMap.networkId events bootstrap.device.deviceId = some address →
    tunnel.localVirtualIp = address ∧ tunnel.wireguardInterface.addresses = [address ++ "/32"]
  peer : ∀ nodeId peer address, tunnel.wireguardPeer.peerNodeId = some nodeId →
    core.knownPeer networkMap nodeId = some peer →
    lastAddress networkMap.networkId events peer.deviceId = some address →
    tunnel.peerVirtualIp = address ∧ tunnel.wireguardPeer.allowedIps = [address ++ "/32"]

/-- An event of the network is for this device or for the peer's. -/
def Concerned {M : Type} (core : AppCore Stream M) (networkMap : NetworkMap)
    (events : List ControlWsDeviceIPReassigned) (peer : Peer) : Prop :=
  (∃ bootstrap address, core.facade.state.currentBootstrap = some bootstrap ∧
    lastAddress networkMap.networkId events bootstrap.device.deviceId = some address) ∨
  ∃ address, lastAddress networkMap.networkId events peer.deviceId = some address

/-! ## The property, and when it holds -/

/-- After the call every device has the address that the last event of the network gives it, in the
snapshot, in the network map and in the tunnel. The tunnel changes only over an event of the
network, and then goes to the address that the peer has. -/
structure FollowsReassignments (core next : AppCore Stream (Table TunnelConfig))
    (networkMap : NetworkMap) (events : List ControlWsDeviceIPReassigned) : Prop where
  bootstrapDevice : next.facade.state.currentBootstrap.map BootstrapConfig.device =
    core.facade.state.currentBootstrap.map fun bootstrap =>
      bootstrap.device.reassigned networkMap.networkId events
  currentDevice : next.facade.state.currentDevice =
    core.facade.state.currentDevice.map (Device.reassigned networkMap.networkId events)
  peers : next.facade.state.currentBootstrap.bind BootstrapConfig.networkMap =
    some (networkMap.reassigned events)
  tunnel : ∀ tunnel, next.liveTunnel = some tunnel → core.CarriesLast networkMap events tunnel
  changes : (next.facade.currentTunnelPeerVirtualIp = core.facade.currentTunnelPeerVirtualIp ∧
      next.tunnels = core.tunnels) ∨
    ∃ nodeId peer, core.facade.state.activePath.bind ActivePath.peerNodeId = some nodeId ∧
      core.knownPeer networkMap nodeId = some peer ∧ core.Concerned networkMap events peer ∧
      next.facade.currentTunnelPeerVirtualIp =
        (peer.reassigned networkMap.networkId events).virtualIps.head?

/-- The call has a tunnel to establish to this address of the path's peer: it is that of the first
event for the peer's device, and else that of the map. -/
structure Reestablishes {M : Type} (core : AppCore Stream M) (networkMap : NetworkMap)
    (events : List ControlWsDeviceIPReassigned) (nodeId : String) (peer : Peer)
    (address : String) : Prop where
  path : core.facade.state.activePath.bind ActivePath.peerNodeId = some nodeId
  known : core.knownPeer networkMap nodeId = some peer
  named : ∃ bootstrap, core.facade.state.currentBootstrap = some bootstrap ∧
    (bootstrap.device.reassigned networkMap.networkId events).virtualIp.isSome = true ∧
    ((lastAddress networkMap.networkId events bootstrap.device.deviceId).isSome = true ∨
      (firstAddress events peer.deviceId).isSome = true)
  first : (firstAddress events peer.deviceId).or peer.virtualIps.head? = some address
  other : core.facade.currentTunnelPeerVirtualIp ≠ some address

/-- Where the call establishes a tunnel, an event of the network asks for one and the first event
for the peer's device gives the address of the last one in the network; where it does not, the
tunnel that is there has the addresses. -/
structure Settles (core : AppCore Stream (Table TunnelConfig)) (networkMap : NetworkMap)
    (events : List ControlWsDeviceIPReassigned) : Prop where
  established : ∀ nodeId peer address,
    core.Reestablishes networkMap events nodeId peer address →
    core.Concerned networkMap events peer ∧
      (peer.reassigned networkMap.networkId events).virtualIps.head? = some address
  left : (¬ ∃ nodeId peer address, core.Reestablishes networkMap events nodeId peer address) →
    ∀ tunnel, core.liveTunnel = some tunnel → core.CarriesLast networkMap events tunnel

end AppCore

/-! ## One more event -/

section

variable {networkId : String} {events : List ControlWsDeviceIPReassigned}
  (event : ControlWsDeviceIPReassigned)

theorem lastAddress_concat (deviceId : String) :
    lastAddress networkId (events ++ [event]) deviceId =
      if event.networkId = networkId ∧ event.deviceId = deviceId then some event.virtualIp
      else lastAddress networkId events deviceId := by
  unfold lastAddress
  rw [List.reverse_append, List.reverse_singleton, List.singleton_append, List.find?_cons]
  by_cases h : event.networkId = networkId ∧ event.deviceId = deviceId
  · rw [if_pos h, decide_eq_true h]
    rfl
  · rw [if_neg h, decide_eq_false h]

theorem lastAddress_concat_foreign (h : event.networkId ≠ networkId) :
    lastAddress networkId (events ++ [event]) = lastAddress networkId events := by
  funext deviceId
  rw [lastAddress_concat, if_neg fun hboth => h hboth.1]

theorem Device.reassigned_deviceId (device : Device) :
    (device.reassigned networkId events).deviceId = device.deviceId := rfl

theorem Device.reassigned_concat (h : event.networkId = networkId) (device : Device) :
    device.reassigned networkId (events ++ [event]) =
      if device.deviceId = event.deviceId then
        { device.reassigned networkId events with virtualIp := some event.virtualIp }
      else device.reassigned networkId events := by
  unfold Device.reassigned
  rw [lastAddress_concat]
  by_cases hdevice : event.deviceId = device.deviceId
  · rw [if_pos ⟨h, hdevice⟩, if_pos hdevice.symm, Option.some_or]
  · rw [if_neg fun hboth => hdevice hboth.2, if_neg fun heq => hdevice heq.symm]

theorem Peer.reassigned_deviceId (peer : Peer) :
    (peer.reassigned networkId events).deviceId = peer.deviceId := by
  unfold Peer.reassigned
  split <;> rfl

theorem Peer.reassigned_nodeId (peer : Peer) :
    (peer.reassigned networkId events).nodeId = peer.nodeId := by
  unfold Peer.reassigned
  split <;> rfl

theorem Peer.reassigned_head? (peer : Peer) :
    (peer.reassigned networkId events).virtualIps.head? =
      (lastAddress networkId events peer.deviceId).or peer.virtualIps.head? := by
  unfold Peer.reassigned
  cases lastAddress networkId events peer.deviceId <;> rfl

theorem Peer.reassigned_concat (h : event.networkId = networkId) (peer : Peer) :
    peer.reassigned networkId (events ++ [event]) =
      if (peer.reassigned networkId events).deviceId = event.deviceId then
        { peer.reassigned networkId events with virtualIps := [event.virtualIp] }
      else peer.reassigned networkId events := by
  rw [Peer.reassigned_deviceId]
  unfold Peer.reassigned
  rw [lastAddress_concat]
  by_cases hdevice : event.deviceId = peer.deviceId
  · rw [if_pos ⟨h, hdevice⟩, if_pos hdevice.symm]
    cases lastAddress networkId events peer.deviceId <;> rfl
  · rw [if_neg fun hboth => hdevice hboth.2, if_neg fun heq => hdevice heq.symm]

/-- As `apply_control_ws_event` has it. -/
theorem NetworkMap.reassigned_concat (networkMap : NetworkMap) :
    networkMap.reassigned (events ++ [event]) =
      if event.networkId = (networkMap.reassigned events).networkId then
        { networkMap.reassigned events with
          peers := (networkMap.reassigned events).peers.map fun peer =>
            if peer.deviceId = event.deviceId then { peer with virtualIps := [event.virtualIp] }
            else peer }
      else networkMap.reassigned events := by
  unfold NetworkMap.reassigned
  split
  · rename_i h
    rw [List.map_map]
    congr 2
    funext peer
    exact Peer.reassigned_concat event h peer
  · rename_i h
    congr 2
    funext peer
    unfold Peer.reassigned
    rw [lastAddress_concat_foreign event h]

end

/-! ## All events -/

/-- The map and the list of a call that drains nothing but these. -/
theorem drainedUpdate_reassigned (networkMap : NetworkMap) (heartbeatSeconds : Nat)
    (connectPlans : Table ControlWsConnectPlan) {received : List Received}
    {events : List ControlWsDeviceIPReassigned}
    (hread : received.map Received.event = events.map ControlWsEvent.deviceIPReassigned) :
    drainedUpdate networkMap heartbeatSeconds connectPlans received =
      { bootstrapOverride := none, networkMap := networkMap.reassigned events, heartbeatSeconds
        connectPlans, deviceIpUpdates := events, activeNetworkEnabled := none } := by
  rw [drainedUpdate, hread]
  clear hread
  induction events using List.reverseRecOn with
  | nil =>
    have hpeers : networkMap.peers.map (Peer.reassigned networkMap.networkId []) =
        networkMap.peers := List.map_id _
    rw [NetworkMap.reassigned, hpeers]
    rfl
  | append_singleton events event ih =>
    rw [List.map_append, List.foldl_append, ih, List.map_singleton, List.foldl_cons,
      List.foldl_nil, applyControlWsEvent, ← NetworkMap.reassigned_concat event networkMap]

theorem foldl_reassignOwn (networkId : String) (currentDeviceId : Option String)
    (events : List ControlWsDeviceIPReassigned) (device : Device) :
    events.foldl (reassignOwn networkId currentDeviceId) (device, false, none) =
      (device.reassigned networkId events,
        (lastAddress networkId events device.deviceId).isSome,
        currentDeviceId.bind (lastAddress networkId events)) := by
  induction events using List.reverseRecOn with
  | nil => cases currentDeviceId <;> rfl
  | append_singleton events event ih =>
    rw [List.foldl_append, ih, List.foldl_cons, List.foldl_nil, reassignOwn]
    dsimp only
    by_cases h : event.networkId = networkId
    · rw [if_neg (not_not.mpr h), Device.reassigned_concat event h, lastAddress_concat]
      have hcurrent : (if currentDeviceId = some event.deviceId then some event.virtualIp
          else currentDeviceId.bind (lastAddress networkId events)) =
          currentDeviceId.bind (lastAddress networkId (events ++ [event])) := by
        cases currentDeviceId with
        | none => rfl
        | some deviceId =>
          rw [Option.bind_some, Option.bind_some, lastAddress_concat]
          simp only [Option.some.injEq, h, true_and, eq_comm]
      rw [hcurrent]
      by_cases hdevice : device.deviceId = event.deviceId
      · simp [Device.reassigned_deviceId, hdevice, h]
      · simp [Device.reassigned_deviceId, hdevice, Ne.symm hdevice]
    · rw [if_pos h, lastAddress_concat_foreign event h]
      unfold Device.reassigned
      rw [lastAddress_concat_foreign event h]

theorem findPeer_reassigned (nodeId : String) (networkMap : NetworkMap)
    (events : List ControlWsDeviceIPReassigned) :
    findPeer nodeId (some (networkMap.reassigned events)) =
      (findPeer nodeId (some networkMap)).map
        (Peer.reassigned networkMap.networkId events) := by
  unfold findPeer NetworkMap.reassigned
  rw [Option.bind_some, Option.bind_some, List.find?_map]
  congr 2
  funext peer
  rw [Function.comp_apply, Peer.reassigned_nodeId]

/-! ## The tunnel -/

/-- The peer as the tunnel is given it. -/
def Peer.firstAssigned (events : List ControlWsDeviceIPReassigned) (peer : Peer) : Peer :=
  match firstAddress events peer.deviceId with
  | some address => { peer with virtualIps := [address] }
  | none => peer

theorem Peer.firstAssigned_head? (events : List ControlWsDeviceIPReassigned) (peer : Peer) :
    (peer.firstAssigned events).virtualIps.head? =
      (firstAddress events peer.deviceId).or peer.virtualIps.head? := by
  unfold Peer.firstAssigned
  cases firstAddress events peer.deviceId <;> rfl

theorem Peer.firstAssigned_nodeId (events : List ControlWsDeviceIPReassigned) (peer : Peer) :
    (peer.firstAssigned events).nodeId = peer.nodeId := by
  unfold Peer.firstAssigned
  split <;> rfl

/-- A device that no event names has no last event either. -/
theorem lastAddress_eq_none {networkId deviceId : String}
    {events : List ControlWsDeviceIPReassigned} (h : firstAddress events deviceId = none) :
    lastAddress networkId events deviceId = none := by
  unfold firstAddress at h
  unfold lastAddress
  rw [Option.map_eq_none_iff, List.find?_eq_none] at h ⊢
  intro event hevent
  have hother := h event (List.mem_reverse.mp hevent)
  simp only [decide_eq_true_eq] at hother ⊢
  exact fun hboth => hother hboth.2

/-- Reassigned or not, a peer is given to the tunnel with the address of the first event. -/
theorem Peer.firstAssigned_reassigned (networkId : String)
    (events : List ControlWsDeviceIPReassigned) (peer : Peer) :
    (peer.reassigned networkId events).firstAssigned events = peer.firstAssigned events := by
  unfold Peer.firstAssigned
  rw [Peer.reassigned_deviceId]
  unfold Peer.reassigned
  cases hfirst : firstAddress events peer.deviceId with
  | none => rw [lastAddress_eq_none hfirst]
  | some address => cases lastAddress networkId events peer.deviceId <;> rfl

theorem tunnelReapply_found (activePath : ActivePath) (nodeId : String)
    (updated : BootstrapConfig) (previous : Option NetworkMap)
    (events : List ControlWsDeviceIPReassigned) (shouldReapply : Bool) :
    tunnelReapply activePath nodeId updated previous events shouldReapply =
      ((findPeer nodeId updated.networkMap).or (findPeer nodeId previous)).bind fun peer =>
        if shouldReapply = true ∨ (firstAddress events peer.deviceId).isSome = true then
          some ⟨activePath, updated, peer.firstAssigned events⟩
        else none := by
  unfold tunnelReapply
  cases hfound : (findPeer nodeId updated.networkMap).or (findPeer nodeId previous) with
  | none => rfl
  | some peer =>
    have hupdate : (events.find? fun update =>
        (some peer).map Peer.deviceId == some update.deviceId) =
        events.find? fun event => event.deviceId = peer.deviceId := by
      congr 1
      funext update
      rw [Option.map_some, Bool.eq_iff_iff, beq_iff_eq, decide_eq_true_eq, Option.some.injEq,
        eq_comm]
    dsimp only
    rw [hupdate]
    unfold Peer.firstAssigned
    cases hfirst : events.find? fun event => event.deviceId = peer.deviceId with
    | none =>
      have hfirst' : firstAddress events peer.deviceId = none := by
        rw [firstAddress, hfirst]
        rfl
      have hany : events.any (fun update => update.deviceId == peer.deviceId) = false := by
        rw [List.find?_eq_none] at hfirst
        rw [List.any_eq_false]
        intro update hmem
        simpa using hfirst update hmem
      rw [Option.bind_some, hfirst']
      simp only [Option.bind_eq_bind, Option.map_some, Option.bind_some, hany, Option.isSome_none,
        Bool.false_eq_true, or_self]
    | some first =>
      have hfirst' : firstAddress events peer.deviceId = some first.virtualIp := by
        rw [firstAddress, hfirst]
        rfl
      rw [Option.bind_some, hfirst']
      simp only [Option.bind_eq_bind, Option.map_some, Option.bind_some, Option.isSome_some,
        true_or, or_true, if_true]

/-- With the peer as it is known before the events. -/
theorem tunnelReapply_known (activePath : ActivePath) (nodeId : String)
    {updated : BootstrapConfig} {networkMap : NetworkMap} (previous : Option NetworkMap)
    {events : List ControlWsDeviceIPReassigned} (shouldReapply : Bool)
    (hupdated : updated.networkMap = some (networkMap.reassigned events)) :
    tunnelReapply activePath nodeId updated previous events shouldReapply =
      ((findPeer nodeId (some networkMap)).or (findPeer nodeId previous)).bind fun peer =>
        if shouldReapply = true ∨ (firstAddress events peer.deviceId).isSome = true then
          some ⟨activePath, updated, peer.firstAssigned events⟩
        else none := by
  rw [tunnelReapply_found, hupdated, findPeer_reassigned]
  cases findPeer nodeId (some networkMap) with
  | none => rfl
  | some peer =>
    rw [Option.map_some, Option.some_or, Option.some_or, Option.bind_some, Option.bind_some,
      Peer.reassigned_deviceId, Peer.firstAssigned_reassigned]

/-! ## The call -/

theorem commitUpdate_reassigned {state : AppCoreSnapshot} {bootstrap : BootstrapConfig}
    (hbootstrap : state.currentBootstrap = some bootstrap) (networkMap : NetworkMap)
    (heartbeatSeconds : Nat) (connectPlans : Table ControlWsConnectPlan)
    (events : List ControlWsDeviceIPReassigned) :
    ∃ updated : BootstrapConfig,
      updated.device = bootstrap.device.reassigned networkMap.networkId events ∧
      updated.networkMap = some (networkMap.reassigned events) ∧
      commitUpdate state
          { bootstrapOverride := none, networkMap := networkMap.reassigned events, heartbeatSeconds
            connectPlans, deviceIpUpdates := events, activeNetworkEnabled := none } =
        .ok ({ state with
            currentBootstrap := some updated
            currentDevice :=
              state.currentDevice.map (Device.reassigned networkMap.networkId events)
            currentNetworkId := some networkMap.networkId
            currentConnectPlans := connectPlans }, updated,
          state.activePath.bind fun activePath => activePath.peerNodeId.bind fun nodeId =>
            tunnelReapply activePath nodeId updated bootstrap.networkMap events
              (lastAddress networkMap.networkId events bootstrap.device.deviceId).isSome) := by
  have hdevice : (match
        (state.currentDevice.map Device.deviceId).bind
          (lastAddress networkMap.networkId events) with
      | some virtualIp => state.currentDevice.map fun device =>
        { device with virtualIp := some virtualIp }
      | none => state.currentDevice) =
      state.currentDevice.map (Device.reassigned networkMap.networkId events) := by
    cases state.currentDevice with
    | none => rfl
    | some device =>
      rw [Option.map_some, Option.bind_some, Option.map_some, Device.reassigned]
      cases lastAddress networkMap.networkId events device.deviceId <;> rfl
  have hnetwork : (networkMap.reassigned events).networkId = networkMap.networkId := rfl
  refine ⟨⟨bootstrap.device.reassigned networkMap.networkId events,
    if 0 < heartbeatSeconds then { bootstrap.controlPlane with heartbeatSeconds }
    else bootstrap.controlPlane, some (networkMap.reassigned events)⟩, rfl, rfl, ?_⟩
  unfold commitUpdate
  rw [hbootstrap, ← hdevice]
  dsimp only [Option.getD_none]
  rw [hnetwork, foldl_reassignOwn]
  generalize (state.currentDevice.map Device.deviceId).bind
    (lastAddress networkMap.networkId events) = virtualIp
  cases virtualIp <;> cases state.activePath with
  | none => rfl
  | some activePath => cases activePath <;> rfl

/-- The tunnel is to the peer, with the first address of it and that of the device. -/
structure TunnelConfig.Between (config : TunnelConfig) (device : Device) (peer : Peer) : Prop where
  localVirtualIp : device.virtualIp = some config.localVirtualIp
  addresses : config.wireguardInterface.addresses = [config.localVirtualIp ++ "/32"]
  peerVirtualIp : peer.virtualIps.head? = some config.peerVirtualIp
  allowedIps : config.wireguardPeer.allowedIps = [config.peerVirtualIp ++ "/32"]
  peerNodeId : config.wireguardPeer.peerNodeId = some peer.nodeId

theorem buildTunnelConfig_between {activePath : ActivePath} {bootstrap : BootstrapConfig}
    {peer : Peer} {keyPair : WireGuardKeyPair} {config : TunnelConfig}
    (h : buildTunnelConfig activePath bootstrap peer keyPair = some config) :
    config.Between bootstrap.device peer := by
  unfold buildTunnelConfig at h
  obtain ⟨transport, -, h⟩ := Option.bind_eq_some_iff.mp h
  obtain ⟨localVirtualIp, hlocal, h⟩ := Option.bind_eq_some_iff.mp h
  obtain ⟨peerVirtualIp, hpeer, h⟩ := Option.bind_eq_some_iff.mp h
  obtain rfl := Option.some.inj h
  exact ⟨hlocal, rfl, hpeer, rfl, rfl⟩

theorem buildTunnelConfig_isSome {activePath : ActivePath} {bootstrap : BootstrapConfig}
    {peer : Peer} (keyPair : WireGuardKeyPair)
    (hpath : (transportFromActivePath activePath).isSome = true)
    (hdevice : bootstrap.device.virtualIp.isSome = true)
    (hpeer : peer.virtualIps.head?.isSome = true) :
    (buildTunnelConfig activePath bootstrap peer keyPair).isSome = true := by
  obtain ⟨transport, htransport⟩ := Option.isSome_iff_exists.mp hpath
  obtain ⟨localVirtualIp, hlocal⟩ := Option.isSome_iff_exists.mp hdevice
  obtain ⟨peerVirtualIp, hhead⟩ := Option.isSome_iff_exists.mp hpeer
  unfold buildTunnelConfig
  rw [htransport, hlocal, hhead]
  rfl

namespace AppCore

variable {Stream : Type} {core next : AppCore Stream (Table TunnelConfig)}
  {update : ControlWsBootstrapUpdate} {state : AppCoreSnapshot} {updated bootstrap : BootstrapConfig}
  {reapply : Option TunnelReapply} {generate : TunnelKeyProvider} {manager : TunnelManager}
  {nowMs : Nat}

variable (core) in
theorem commitControlSync_state
    (hcommit : commitUpdate core.facade.state update = .ok (state, updated, reapply))
    (hok : core.commitControlSync update generate (tableHost manager) nowMs =
      (.ok bootstrap, next)) :
    next.facade.state.currentBootstrap = state.currentBootstrap ∧
      next.facade.state.currentDevice = state.currentDevice := by
  unfold commitControlSync at hok
  rw [hcommit] at hok
  cases reapply with
  | none =>
    obtain ⟨-, rfl⟩ := Prod.mk.inj hok
    exact ⟨rfl, rfl⟩
  | some reapply =>
    obtain ⟨material, hstate⟩ := ensureTunnelKeyPair_state state generate
      reapply.bootstrap.device.deviceId reapply.peer.nodeId nowMs
    dsimp only at hok
    rw [hstate] at hok
    split at hok
    · cases hok
    · split at hok
      · obtain ⟨-, rfl⟩ := Prod.mk.inj hok
        exact ⟨rfl, rfl⟩
      · split at hok
        · cases hok
        · obtain ⟨-, rfl⟩ := Prod.mk.inj hok
          exact ⟨rfl, rfl⟩

variable (core) in
/-- A commit that succeeds leaves the tunnel as it is, or establishes the one that is asked for. -/
theorem commitControlSync_tunnel
    (hcommit : commitUpdate core.facade.state update = .ok (state, updated, reapply))
    (hok : core.commitControlSync update generate (tableHost manager) nowMs =
      (.ok bootstrap, next)) :
    (next.facade.currentTunnelPeerVirtualIp = core.facade.currentTunnelPeerVirtualIp ∧
      next.tunnels = core.tunnels ∧
      ∀ again, reapply = some again → (transportFromActivePath again.activePath).isSome = true →
        again.bootstrap.device.virtualIp.isSome = true → ∀ address,
        again.peer.virtualIps.head? = some address →
        core.facade.currentTunnelPeerVirtualIp = some address) ∨
    ∃ again config, reapply = some again ∧ config.Between again.bootstrap.device again.peer ∧
      core.facade.currentTunnelPeerVirtualIp ≠ some config.peerVirtualIp ∧
      next.facade.currentTunnelPeerVirtualIp = some config.peerVirtualIp ∧
      next.tunnels.get? config.peerVirtualIp = some config := by
  unfold commitControlSync at hok
  rw [hcommit] at hok
  cases reapply with
  | none =>
    obtain ⟨-, rfl⟩ := Prod.mk.inj hok
    exact .inl ⟨rfl, rfl, fun _ hreapply => by cases hreapply⟩
  | some again =>
    dsimp only at hok
    generalize ensureTunnelKeyPair state generate _ _ _ = ensured at hok
    rcases ensured with ⟨err | keyPair, kept⟩
    · cases hok
    · dsimp only at hok
      cases hconfig : buildTunnelConfig again.activePath again.bootstrap again.peer keyPair with
      | none =>
        rw [hconfig] at hok
        obtain ⟨-, rfl⟩ := Prod.mk.inj hok
        refine .inl ⟨rfl, rfl, ?_⟩
        rintro _ ⟨⟩ hpath hdevice address haddress
        have hsome := buildTunnelConfig_isSome keyPair hpath hdevice
          (Option.isSome_of_eq_some haddress)
        rw [hconfig] at hsome
        cases hsome
      | some config =>
        rw [hconfig] at hok
        dsimp only at hok
        have hbetween := buildTunnelConfig_between hconfig
        generalize hrun : replaceTunnelOn (tableHost manager) _ _ _ = run at hok
        have hhosted : replaceTunnelOn (tableHost manager) core.tunnels
            core.facade.currentTunnelPeerVirtualIp (some config) = run := hrun
        rcases run with ⟨err | _, current, tunnels⟩
        · cases hok
        · obtain ⟨-, rfl⟩ := Prod.mk.inj hok
          by_cases hcurrent : core.facade.currentTunnelPeerVirtualIp = some config.peerVirtualIp
          · rw [replaceTunnelOn_recorded _ _ hcurrent] at hhosted
            obtain ⟨-, hsame⟩ := Prod.mk.inj hhosted
            obtain ⟨hrecord, htunnels⟩ := Prod.mk.inj hsame
            refine .inl ⟨hrecord.symm, htunnels.symm, ?_⟩
            rintro _ ⟨⟩ - - address haddress
            rw [hcurrent, ← haddress, hbetween.peerVirtualIp]
          · have hestablished := replaceTunnelOn_established hcurrent
              (congrArg Prod.fst hhosted)
            rw [hhosted] at hestablished
            exact .inr ⟨again, config, rfl, hbetween, hcurrent, hestablished.1, hestablished.2⟩

/-- What the call commits. -/
theorem controlSync_reads {M : Type} {core : AppCore Stream M} {calls : SyncCalls}
    {networkMap : NetworkMap} {received : List Received}
    {events : List ControlWsDeviceIPReassigned} (hread : core.Reads calls networkMap received)
    (hevents : received.map Received.event = events.map ControlWsEvent.deviceIPReassigned)
    (host : TunnelHost M) :
    ∃ heartbeatSeconds connectPlans controlWs,
      core.controlSync calls host =
        (core.withControlWs controlWs).commitControlSync
          { bootstrapOverride := none, networkMap := networkMap.reassigned events, heartbeatSeconds
            connectPlans, deviceIpUpdates := events, activeNetworkEnabled := none }
          calls.generate host calls.nowMs := by
  obtain ⟨config, heartbeatSeconds, connectPlans, hconfig, hgather⟩ := hread
  rw [drainedUpdate_reassigned networkMap heartbeatSeconds connectPlans hevents] at hgather
  refine ⟨heartbeatSeconds, connectPlans, (core.gather calls config).2, ?_⟩
  unfold controlSync learn
  rw [hconfig]
  dsimp only
  rw [hgather]
  rfl

/-- The tunnel that the committed update asks for is the one that is established, if another one is
recorded. -/
theorem reestablishes_iff {M : Type} {core : AppCore Stream M} {bootstrap updated : BootstrapConfig}
    {networkMap : NetworkMap} {events : List ControlWsDeviceIPReassigned}
    (hbootstrap : core.facade.state.currentBootstrap = some bootstrap)
    (hdevice : updated.device = bootstrap.device.reassigned networkMap.networkId events)
    (hmap : updated.networkMap = some (networkMap.reassigned events)) (nodeId : String)
    (peer : Peer) (address : String) :
    core.Reestablishes networkMap events nodeId peer address ↔
      ∃ activePath, core.facade.state.activePath = some activePath ∧
        activePath.peerNodeId = some nodeId ∧ core.knownPeer networkMap nodeId = some peer ∧
        tunnelReapply activePath nodeId updated bootstrap.networkMap events
            (lastAddress networkMap.networkId events bootstrap.device.deviceId).isSome =
          some ⟨activePath, updated, peer.firstAssigned events⟩ ∧
        updated.device.virtualIp.isSome = true ∧
        (peer.firstAssigned events).virtualIps.head? = some address ∧
        core.facade.currentTunnelPeerVirtualIp ≠ some address := by
  have hknown : core.knownPeer networkMap nodeId =
      (findPeer nodeId (some networkMap)).or (findPeer nodeId bootstrap.networkMap) := by
    rw [knownPeer, hbootstrap, Option.bind_some]
  constructor
  · intro h
    obtain ⟨activePath, hpath, hnode⟩ := Option.bind_eq_some_iff.mp h.path
    obtain ⟨same, hsame, hlocal, hnamed⟩ := h.named
    obtain rfl := Option.some.inj (hbootstrap.symm.trans hsame)
    refine ⟨activePath, hpath, hnode, h.known, ?_, ?_, ?_, h.other⟩
    · rw [tunnelReapply_known activePath nodeId bootstrap.networkMap _ hmap, ← hknown, h.known,
        Option.bind_some, if_pos hnamed]
    · rw [hdevice]
      exact hlocal
    · rw [Peer.firstAssigned_head?]
      exact h.first
  · rintro ⟨activePath, hpath, hnode, hpeer, hreapply, hlocal, hhead, hother⟩
    rw [tunnelReapply_known activePath nodeId bootstrap.networkMap _ hmap, ← hknown, hpeer,
      Option.bind_some] at hreapply
    refine ⟨?_, hpeer, ⟨bootstrap, hbootstrap, ?_, ?_⟩, ?_, hother⟩
    · rw [hpath]
      exact hnode
    · rw [← hdevice]
      exact hlocal
    · by_contra hnamed
      rw [if_neg hnamed] at hreapply
      cases hreapply
    · rw [← Peer.firstAssigned_head?]
      exact hhead

theorem transport_isSome {activePath : ActivePath} {nodeId : String}
    (h : activePath.peerNodeId = some nodeId) :
    (transportFromActivePath activePath).isSome = true := by
  cases activePath with
  | none => cases h
  | p2p peerNodeId => rfl
  | relay peerNodeId => rfl
  | derp clusterId nodeId => cases h

theorem Reestablishes.unique {M : Type} {core : AppCore Stream M} {networkMap : NetworkMap}
    {events : List ControlWsDeviceIPReassigned} {nodeId nodeId' : String} {peer peer' : Peer}
    {address address' : String} (h : core.Reestablishes networkMap events nodeId peer address)
    (h' : core.Reestablishes networkMap events nodeId' peer' address') :
    peer = peer' ∧ address = address' := by
  obtain rfl := Option.some.inj (h.path.symm.trans h'.path)
  obtain rfl := Option.some.inj (h.known.symm.trans h'.known)
  exact ⟨rfl, Option.some.inj (h.first.symm.trans h'.first)⟩

theorem knownPeer_nodeId {M : Type} {core : AppCore Stream M} {networkMap : NetworkMap}
    {nodeId : String} {peer : Peer} (h : core.knownPeer networkMap nodeId = some peer) :
    peer.nodeId = nodeId := by
  have hfound : ∀ map, findPeer nodeId map = some peer → peer.nodeId = nodeId := by
    intro map hmap
    obtain ⟨networkMap, -, hfind⟩ := Option.bind_eq_some_iff.mp hmap
    have hfound := List.find?_some hfind
    exact beq_iff_eq.mp hfound
  obtain hsent | ⟨-, hkept⟩ := Option.or_eq_some_iff.mp h
  · exact hfound _ hsent
  · exact hfound _ hkept

/-- A tunnel that is established to the address of the last event carries the addresses. -/
theorem carriesLast_of_between {M : Type} {core : AppCore Stream M} {bootstrap : BootstrapConfig}
    {networkMap : NetworkMap} {events : List ControlWsDeviceIPReassigned} {nodeId : String}
    {peer peer' : Peer} {config : TunnelConfig}
    (hbootstrap : core.facade.state.currentBootstrap = some bootstrap)
    (hknown : core.knownPeer networkMap nodeId = some peer)
    (hbetween : config.Between (bootstrap.device.reassigned networkMap.networkId events) peer')
    (hnode : peer'.nodeId = peer.nodeId)
    (hlast : (peer.reassigned networkMap.networkId events).virtualIps.head? =
      some config.peerVirtualIp) :
    core.CarriesLast networkMap events config := by
  constructor
  · intro same address hsame hown
    obtain rfl := Option.some.inj (hbootstrap.symm.trans hsame)
    have hlocal := hbetween.localVirtualIp
    rw [Device.reassigned, hown, Option.some_or, Option.some.injEq] at hlocal
    exact ⟨hlocal.symm, by rw [hbetween.addresses, hlocal]⟩
  · intro nodeId' named address hnamed hpeer haddress
    have hsame : nodeId' = nodeId := by
      rw [hbetween.peerNodeId, hnode, knownPeer_nodeId hknown, Option.some.injEq] at hnamed
      exact hnamed.symm
    rw [hsame, hknown, Option.some.injEq] at hpeer
    rw [Peer.reassigned_head?, hpeer, haddress, Option.some_or, Option.some.injEq] at hlast
    exact ⟨hlast.symm, by rw [hbetween.allowedIps, hlast]⟩

/-- A call that reads reassigned addresses and succeeds follows them exactly when it settles on the
tunnel to the last ones. -/
theorem followsReassignments_iff {core next : AppCore Stream (Table TunnelConfig)}
    {calls : SyncCalls} {manager : TunnelManager} {networkMap : NetworkMap}
    {received : List Received} {events : List ControlWsDeviceIPReassigned}
    {bootstrap : BootstrapConfig} (hread : core.Reads calls networkMap received)
    (hevents : received.map Received.event = events.map ControlWsEvent.deviceIPReassigned)
    (hok : core.controlSync calls (tableHost manager) = (.ok bootstrap, next)) :
    core.FollowsReassignments next networkMap events ↔ core.Settles networkMap events := by
  obtain ⟨heartbeatSeconds, connectPlans, controlWs, hcall⟩ :=
    controlSync_reads hread hevents (tableHost manager)
  rw [hcall] at hok
  cases hcurrent : core.facade.state.currentBootstrap with
  | none =>
    obtain ⟨config, -, -, hconfig, -⟩ := hread
    unfold controlWsConfig at hconfig
    rw [hcurrent] at hconfig
    cases hconfig
  | some current =>
    obtain ⟨updated, hdevice, hmap, hcommit⟩ := commitUpdate_reassigned hcurrent networkMap
      heartbeatSeconds connectPlans events
    obtain ⟨hbootstrap, hown⟩ := commitControlSync_state (core.withControlWs controlWs) hcommit hok
    have hdevices : next.facade.state.currentBootstrap.map BootstrapConfig.device =
        core.facade.state.currentBootstrap.map fun bootstrap =>
          bootstrap.device.reassigned networkMap.networkId events := by
      rw [hbootstrap, hcurrent, Option.map_some, Option.map_some, hdevice]
    have hpeers : next.facade.state.currentBootstrap.bind BootstrapConfig.networkMap =
        some (networkMap.reassigned events) := by
      rw [hbootstrap, Option.bind_some, hmap]
    obtain ⟨hrecord, htunnels, hkeeps⟩ | ⟨again, config, hagain, hbetween, hother, hrecord, hheld⟩ :=
      commitControlSync_tunnel (core.withControlWs controlWs) hcommit hok
    · have hnone : ¬ ∃ nodeId peer address,
          core.Reestablishes networkMap events nodeId peer address := by
        rintro ⟨nodeId, peer, address, h⟩
        obtain ⟨activePath, hpath, hnode, -, hreapply, hlocal, hhead, hother⟩ :=
          (reestablishes_iff hcurrent hdevice hmap nodeId peer address).mp h
        refine hother (hkeeps ⟨activePath, updated, peer.firstAssigned events⟩ ?_
          (transport_isSome hnode) hlocal address hhead)
        exact Option.bind_eq_some_iff.mpr ⟨activePath, hpath,
          Option.bind_eq_some_iff.mpr ⟨nodeId, hnode, hreapply⟩⟩
      have hlive : next.liveTunnel = core.liveTunnel := by
        unfold liveTunnel
        rw [hrecord, htunnels]
        rfl
      constructor
      · intro h
        refine ⟨fun nodeId peer address hre => absurd ⟨nodeId, peer, address, hre⟩ hnone, ?_⟩
        intro _ tunnel htunnel
        exact h.tunnel tunnel (hlive.trans htunnel)
      · intro h
        refine ⟨hdevices, hown, hpeers, fun tunnel htunnel => ?_, .inl ⟨hrecord, htunnels⟩⟩
        exact h.left hnone tunnel (hlive.symm.trans htunnel)
    · obtain ⟨activePath, hpath, hagain⟩ := Option.bind_eq_some_iff.mp hagain
      obtain ⟨nodeId, hnode, hagain⟩ := Option.bind_eq_some_iff.mp hagain
      obtain ⟨peer, hknown, rfl⟩ : ∃ peer, core.knownPeer networkMap nodeId = some peer ∧
          again = ⟨activePath, updated, peer.firstAssigned events⟩ := by
        rw [tunnelReapply_known activePath nodeId _ _ hmap] at hagain
        obtain ⟨peer, hknown, hagain⟩ := Option.bind_eq_some_iff.mp hagain
        refine ⟨peer, ?_, ?_⟩
        · rw [knownPeer, hcurrent]
          exact hknown
        · split at hagain
          · exact (Option.some.inj hagain).symm
          · cases hagain
      have hre : core.Reestablishes networkMap events nodeId peer config.peerVirtualIp :=
        (reestablishes_iff hcurrent hdevice hmap nodeId peer _).mpr
          ⟨activePath, hpath, hnode, hknown, hagain,
            Option.isSome_of_eq_some hbetween.localVirtualIp, hbetween.peerVirtualIp, hother⟩
      constructor
      · intro h
        refine ⟨?_, fun hnone => absurd ⟨nodeId, peer, _, hre⟩ hnone⟩
        intro nodeId' peer' address hre'
        obtain ⟨rfl, rfl⟩ := hre.unique hre'
        obtain ⟨hsame, -⟩ | ⟨nodeId'', peer'', hpath'', hknown'', hconcerned, hhead⟩ := h.changes
        · exact absurd (hsame.symm.trans hrecord) hother
        · obtain rfl := Option.some.inj (hre.path.symm.trans hpath'')
          obtain rfl := Option.some.inj (hknown.symm.trans hknown'')
          exact ⟨hconcerned, hhead.symm.trans hrecord⟩
      · intro h
        obtain ⟨hconcerned, hlast⟩ := h.established nodeId peer _ hre
        refine ⟨hdevices, hown, hpeers, fun tunnel htunnel => ?_,
          .inr ⟨nodeId, peer, hre.path, hknown, hconcerned, hrecord.trans hlast.symm⟩⟩
        rw [liveTunnel, hrecord, Option.bind_some, hheld, Option.some.injEq] at htunnel
        rw [← htunnel]
        rw [hdevice] at hbetween
        exact carriesLast_of_between hcurrent hknown hbetween
          (Peer.firstAssigned_nodeId events peer) hlast

end AppCore

/-! ## A client with one peer -/

def easyManager : TunnelManager := ⟨fun _ => .ok (), fun _ => .ok ()⟩

def signedInSnapshot : AppCoreSnapshot :=
  { sampleSnapshot with
    session := some ⟨"user-1", "access-1"⟩
    currentDevice := some ⟨"dev-1", some "10.0.0.1"⟩
    currentBootstrap := some ⟨⟨"dev-1", some "10.0.0.1"⟩,
      ⟨"ws://controller/ws", some "session-1", 30⟩, some samplePeerMap⟩ }

/-- Connected to its peer at `10.0.0.2`. -/
def connectedCore : AppCore Unit (Table TunnelConfig) :=
  (AppCore.after (.new ∅) (.restoreSnapshot signedInSnapshot)).after
    (.connect (sampleCalls (tableHost easyManager) (.ok ())) easyManager none "net-1" "node-2")

def peerReassigned (virtualIp : String) : ControlWsDeviceIPReassigned :=
  ⟨"net-1", "dev-2", "attachment-2", virtualIp, "moved"⟩

/-- A new connection with these events on it. -/
def readsOf (events : List ControlWsDeviceIPReassigned) : SyncCalls where
  request client := (.error "closed", client)
  reconnect _ := .ok (⟨none, []⟩, samplePeerMap, 30)
  drain client := (.ok (events.map fun event => ⟨0, .deviceIPReassigned event⟩), client)
  controller := ⟨fun _ _ _ => .error "unreachable", fun _ _ _ => .error "unreachable"⟩
  generate deviceId nodeId _ nowMs := .ok ⟨some deviceId, nodeId, ⟨"key-1", "private-1"⟩, nowMs⟩
  nowMs := 0

theorem connectedCore_reads (events : List ControlWsDeviceIPReassigned) :
    connectedCore.Reads (readsOf events) samplePeerMap
      (events.map fun event => ⟨0, .deviceIPReassigned event⟩) :=
  ⟨⟨"ws://controller/ws", "access-1", "session-1", "user-1", "dev-1", "node-1", "key-1", "net-1",
    []⟩, 30, ∅, rfl, rfl⟩

/-- The peer moves twice, and the tunnel goes where it was in between. -/
theorem movedTwice_not_followed :
    ¬ ∀ (core next : AppCore Unit (Table TunnelConfig)) (calls : SyncCalls)
      (manager : TunnelManager) (networkMap : NetworkMap) (received : List Received)
      (events : List ControlWsDeviceIPReassigned) (bootstrap : BootstrapConfig),
      core.Reads calls networkMap received →
      received.map Received.event = events.map ControlWsEvent.deviceIPReassigned →
      core.controlSync calls (tableHost manager) = (.ok bootstrap, next) →
      core.FollowsReassignments next networkMap events := by
  intro hall
  have hfollows := hall connectedCore _ (readsOf [peerReassigned "10.0.0.5",
      peerReassigned "10.0.0.6"]) easyManager samplePeerMap _
    [peerReassigned "10.0.0.5", peerReassigned "10.0.0.6"] _ (connectedCore_reads _) rfl rfl
  have hcarries := (hfollows.tunnel _ rfl).peer "node-2" samplePeer "10.0.0.6" rfl rfl rfl
  exact absurd hcarries.1 (by decide)

/-- The peer moves once. -/
theorem movedOnce_followed :
    connectedCore.FollowsReassignments
      (connectedCore.controlSync (readsOf [peerReassigned "10.0.0.5"]) (tableHost easyManager)).2
      samplePeerMap [peerReassigned "10.0.0.5"] := by
  obtain ⟨bootstrap, hok⟩ : ∃ bootstrap,
      connectedCore.controlSync (readsOf [peerReassigned "10.0.0.5"]) (tableHost easyManager) =
        (.ok bootstrap, (connectedCore.controlSync (readsOf [peerReassigned "10.0.0.5"])
          (tableHost easyManager)).2) := ⟨_, rfl⟩
  refine (AppCore.followsReassignments_iff (connectedCore_reads [peerReassigned "10.0.0.5"]) rfl
    hok).mpr ⟨?_, ?_⟩
  · intro nodeId peer address h
    obtain rfl : "node-2" = nodeId := Option.some.inj h.path
    obtain rfl : samplePeer = peer := Option.some.inj h.known
    obtain rfl : "10.0.0.5" = address := Option.some.inj h.first
    exact ⟨.inr ⟨"10.0.0.5", rfl⟩, rfl⟩
  · intro hnone
    refine absurd ⟨"node-2", samplePeer, "10.0.0.5", ?_⟩ hnone
    exact ⟨rfl, rfl, ⟨_, rfl, rfl, .inr rfl⟩, rfl, by decide⟩

end Slan.Client
