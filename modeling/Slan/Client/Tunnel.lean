import Slan.Client.ControlWs

/-! # `ffi-bridge`: the facade's snapshot, and the tunnel it keeps -/

namespace Slan.Client

structure AppCoreSnapshot where
  session : Option Session
  currentDevice : Option Device
  currentNode : Option Node
  tunnelKeyMaterial : Option TunnelKeyMaterial
  currentBootstrap : Option BootstrapConfig
  currentNetworkId : Option String
  currentConnectPlans : Table ControlWsConnectPlan
  activePath : Option ActivePath
  tunnelPeerVirtualIp : Option String
  tunnelRuntime : Option TunnelRuntimeView

/-! ## `tunnel_runtime.rs` -/

def transportFromActivePath : ActivePath → Option TunnelTransport
  | .p2p _ => some .p2p
  | .relay _ => some .relay
  | .derp _ _ => some .derp
  | .none => none

def buildTunnelConfig (activePath : ActivePath) (bootstrap : BootstrapConfig) (peer : Peer)
    (keyPair : WireGuardKeyPair) : Option TunnelConfig := do
  let transport ← transportFromActivePath activePath
  let localVirtualIp ← bootstrap.device.virtualIp
  let peerVirtualIp ← peer.virtualIps.head?
  return {
    transport
    localVirtualIp
    peerVirtualIp
    wireguardInterface := {
      interfaceName := none
      keyPair
      listenPort := none
      -- `mtu as u16` keeps the low bits
      mtu := (bootstrap.networkMap.bind NetworkMap.mtu).map (· % 2 ^ 16)
      addresses := [localVirtualIp ++ "/32"]
      dnsServers := (bootstrap.networkMap.map fun map => map.dns.servers).getD []
      peers := [] }
    wireguardPeer := {
      peerNodeId := some peer.nodeId
      publicKey := peer.publicKey
      presharedKey := none
      endpoint := peer.endpoints.head?.map Endpoint.address
      allowedIps := [peerVirtualIp ++ "/32"]
      persistentKeepaliveSeconds := none } }

def buildTunnelRuntime (config : TunnelConfig) : TunnelRuntimeView where
  state := .configured
  transport := config.transport
  peerVirtualIp := config.peerVirtualIp
  peerPublicKey := config.wireguardPeer.publicKey
  selectedEndpoint := config.wireguardPeer.endpoint
  interfaceName := config.wireguardInterface.interfaceName

/-! ## `state_helpers.rs` -/

/-- What `generate` gives for a device, a node, a peer's node and a time. -/
abbrev TunnelKeyProvider :=
  String → Option String → String → Nat → Except String TunnelKeyMaterial

/-- What the calls of the tunnel manager give. -/
structure TunnelManager where
  close : String → Except String Unit
  establish : TunnelConfig → Except String Unit

def ensureTunnelKeyPair (state : AppCoreSnapshot) (generate : TunnelKeyProvider)
    (deviceId peerNodeId : String) (createdAtMs : Nat) :
    Except String WireGuardKeyPair × AppCoreSnapshot :=
  let currentNodeId := state.currentNode.map Node.nodeId
  let kept := state.tunnelKeyMaterial.filter fun material =>
    material.deviceId = some deviceId ∧ material.nodeId = currentNodeId
  match kept with
  | some material => (.ok material.keyPair, state)
  | none =>
    match generate deviceId currentNodeId peerNodeId createdAtMs with
    | .ok material => (.ok material.keyPair, { state with tunnelKeyMaterial := some material })
    | .error err => (.error err, state)

/-- Only the key material of the snapshot changes. -/
theorem ensureTunnelKeyPair_state (state : AppCoreSnapshot) (generate : TunnelKeyProvider)
    (deviceId peerNodeId : String) (createdAtMs : Nat) :
    ∃ tunnelKeyMaterial,
      (ensureTunnelKeyPair state generate deviceId peerNodeId createdAtMs).2 =
        { state with tunnelKeyMaterial } := by
  unfold ensureTunnelKeyPair
  dsimp only
  split
  · exact ⟨_, rfl⟩
  · split
    · exact ⟨_, rfl⟩
    · exact ⟨_, rfl⟩

/-- The recorded peer comes back with the outcome. -/
def replaceTunnel (current : Option String) (manager : TunnelManager)
    (config : Option TunnelConfig) : Except String Unit × Option String :=
  let next := config.map TunnelConfig.peerVirtualIp
  let closed : Except String (Option String) :=
    match current with
    | none => .ok none
    | some peerVirtualIp =>
      if some peerVirtualIp ≠ next then
        match manager.close peerVirtualIp with
        | .ok () => .ok none
        | .error err => .error err
      else .ok current
  match closed, config with
  | .error err, _ => (.error err, current)
  | .ok left, none => (.ok (), left)
  | .ok left, some config =>
    if left ≠ some config.peerVirtualIp then
      match manager.establish config with
      | .ok () => (.ok (), some config.peerVirtualIp)
      | .error err => (.error err, left)
    else (.ok (), left)

end Slan.Client
