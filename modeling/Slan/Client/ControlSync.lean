import Slan.Client.Tunnel

/-! # `control_sync`, between its reads and writes

Each part of the call that touches no socket is a function here. The locks are taken to be sound.
-/

namespace Slan.Client

/-! ## What a call is about -/

def controlWsConfig (state : AppCoreSnapshot) : Except String ControlWsConfig := do
  let some bootstrap := state.currentBootstrap
    | .error "missing bootstrap config, call bootstrap first"
  let some networkMap := bootstrap.networkMap
    | .error "missing network map in bootstrap config, call bootstrap first"
  let some sessionToken := bootstrap.controlPlane.sessionToken
    | .error "missing control session token in bootstrap config"
  let some node := state.currentNode
    | .error "missing current node, register node first"
  let userId := (state.session.map Session.userId).getD networkMap.selfUserId
  let some session := state.session
    | .error "missing session access token"
  return {
    wsUrl := bootstrap.controlPlane.wsUrl
    accessToken := session.accessToken
    sessionToken
    userId
    deviceId := (state.currentDevice.map Device.deviceId).getD networkMap.selfDeviceId
    nodeId := node.nodeId
    nodePublicKey := node.nodePublicKey
    networkId := state.currentNetworkId.getD networkMap.networkId
    capabilities := node.capabilities }

def withAccessToken (state : AppCoreSnapshot) : Except String String :=
  match state.session with
  | some session => .ok session.accessToken
  | none => .error "missing session, login first"

/-! ## Events -/

structure ControlWsBootstrapUpdate where
  bootstrapOverride : Option BootstrapConfig
  networkMap : NetworkMap
  heartbeatSeconds : Nat
  connectPlans : Table ControlWsConnectPlan
  deviceIpUpdates : List ControlWsDeviceIPReassigned
  activeNetworkEnabled : Option ControlWsActiveNetworkEnabled

/-- In the place of the first peer of that node, else at the end. -/
def putPeer (peer : Peer) : List Peer → List Peer
  | [] => [peer]
  | existing :: rest =>
    if existing.nodeId = peer.nodeId then peer :: rest else existing :: putPeer peer rest

def applyControlWsEvent (update : ControlWsBootstrapUpdate) :
    ControlWsEvent → ControlWsBootstrapUpdate
  | .peerUpdate event =>
    { update with networkMap :=
        { update.networkMap with
          revision := max update.networkMap.revision event.revision
          peers := putPeer event.peer update.networkMap.peers } }
  | .peerRemove event =>
    { update with
      networkMap :=
        { update.networkMap with
          revision := max update.networkMap.revision event.revision
          peers := update.networkMap.peers.filter fun peer => peer.nodeId ≠ event.peerNodeId }
      connectPlans := update.connectPlans.remove event.peerNodeId }
  | .connectPlan plan =>
    { update with connectPlans := update.connectPlans.put plan.peerNodeId plan }
  | .networkRestartRequired _ => update
  | .deviceIPReassigned event =>
    { update with
      networkMap :=
        if event.networkId = update.networkMap.networkId then
          { update.networkMap with
            peers := update.networkMap.peers.map fun peer =>
              if peer.deviceId = event.deviceId then { peer with virtualIps := [event.virtualIp] }
              else peer }
        else update.networkMap
      deviceIpUpdates := update.deviceIpUpdates ++ [event] }
  | .activeNetworkEnabled enabled => { update with activeNetworkEnabled := some enabled }

/-- What a drained client has to tell, over the map that it was sent. -/
def drainedUpdate (networkMap : NetworkMap) (heartbeatSeconds : Nat)
    (connectPlans : Table ControlWsConnectPlan) (events : List Received) :
    ControlWsBootstrapUpdate :=
  (events.map Received.event).foldl applyControlWsEvent
    { bootstrapOverride := none, networkMap, heartbeatSeconds, connectPlans
      deviceIpUpdates := [], activeNetworkEnabled := none }

/-! ## An enabled network -/

/-- What the controller answers. -/
structure Controller where
  activateNetwork (accessToken networkId deviceId : String) : Except String Unit
  bootstrap (accessToken nodeId networkId : String) : Except String BootstrapConfig

/-- The network that the update makes the active one, if another one is active. -/
def ControlWsBootstrapUpdate.switches (update : ControlWsBootstrapUpdate)
    (state : AppCoreSnapshot) : Option ControlWsActiveNetworkEnabled :=
  update.activeNetworkEnabled.filter fun enabled =>
    state.currentNetworkId ≠ some enabled.networkId

/-- With a switch to another network only the refreshed bootstrap is kept of the update. -/
def enableNetwork (controller : Controller) (config : ControlWsConfig) (state : AppCoreSnapshot)
    (update : ControlWsBootstrapUpdate) : Except String ControlWsBootstrapUpdate :=
  match update.switches state with
  | none => .ok update
  | some enabled => do
    let accessToken ← withAccessToken state
    let some device := state.currentDevice
      | .error "missing current device, register device first"
    controller.activateNetwork accessToken enabled.networkId device.deviceId
    let refreshed ← controller.bootstrap accessToken config.nodeId enabled.networkId
    let some networkMap := refreshed.networkMap
      | .error "missing network map after active network enable"
    return {
      bootstrapOverride := some refreshed
      networkMap
      heartbeatSeconds := refreshed.controlPlane.heartbeatSeconds
      connectPlans := ∅
      deviceIpUpdates := []
      activeNetworkEnabled := some enabled }

/-! ## The update of the snapshot -/

/-- The tunnel that an update of addresses calls for. -/
structure TunnelReapply where
  activePath : ActivePath
  bootstrap : BootstrapConfig
  peer : Peer

/-- The reassigned addresses of this client's own devices: that of the bootstrap, and that of the
snapshot, `none` where it is not reassigned. -/
def reassignOwn (networkId : String) (currentDeviceId : Option String)
    (own : Device × Bool × Option String) (update : ControlWsDeviceIPReassigned) :
    Device × Bool × Option String :=
  let (device, shouldReapply, virtualIp) := own
  if update.networkId ≠ networkId then own
  else
    let (device, shouldReapply) :=
      if device.deviceId = update.deviceId then
        ({ device with virtualIp := some update.virtualIp }, true)
      else (device, shouldReapply)
    (device, shouldReapply,
      if currentDeviceId = some update.deviceId then some update.virtualIp else virtualIp)

def findPeer (nodeId : String) (networkMap : Option NetworkMap) : Option Peer :=
  networkMap.bind fun map => map.peers.find? fun peer => peer.nodeId == nodeId

def tunnelReapply (activePath : ActivePath) (peerNodeId : String) (bootstrap : BootstrapConfig)
    (previousNetworkMap : Option NetworkMap) (updates : List ControlWsDeviceIPReassigned)
    (shouldReapply : Bool) : Option TunnelReapply := do
  let found := (findPeer peerNodeId bootstrap.networkMap).or
    (findPeer peerNodeId previousNetworkMap)
  let peerUpdate := updates.find? fun update => found.map Peer.deviceId == some update.deviceId
  let peer ← found.map fun peer =>
    match peerUpdate with
    | some update => { peer with virtualIps := [update.virtualIp] }
    | none => peer
  if shouldReapply ∨ peerUpdate.isSome ∨ updates.any (fun update => update.deviceId == peer.deviceId)
  then some ⟨activePath, bootstrap, peer⟩
  else none

def commitUpdate (state : AppCoreSnapshot) (update : ControlWsBootstrapUpdate) :
    Except String (AppCoreSnapshot × BootstrapConfig × Option TunnelReapply) := do
  let some currentBootstrap := state.currentBootstrap
    | .error "missing bootstrap config, call bootstrap first"
  let currentBootstrap := update.bootstrapOverride.getD currentBootstrap
  let overrideDevice := currentBootstrap.device
  let previousNetworkMap := currentBootstrap.networkMap
  let (device, shouldReapply, virtualIp) := update.deviceIpUpdates.foldl
    (reassignOwn update.networkMap.networkId (state.currentDevice.map Device.deviceId))
    (currentBootstrap.device, false, none)
  let controlPlane :=
    if 0 < update.heartbeatSeconds then
      { currentBootstrap.controlPlane with heartbeatSeconds := update.heartbeatSeconds }
    else currentBootstrap.controlPlane
  let updated : BootstrapConfig := { device, controlPlane, networkMap := some update.networkMap }
  let reapply :=
    match state.activePath with
    | some (.p2p peerNodeId) =>
      tunnelReapply (.p2p peerNodeId) peerNodeId updated previousNetworkMap update.deviceIpUpdates
        shouldReapply
    | some (.relay peerNodeId) =>
      tunnelReapply (.relay peerNodeId) peerNodeId updated previousNetworkMap
        update.deviceIpUpdates shouldReapply
    | _ => none
  let currentDevice :=
    match virtualIp with
    | some _ => state.currentDevice.map fun device => { device with virtualIp }
    | none => if update.bootstrapOverride.isSome then some overrideDevice else state.currentDevice
  return ({ state with
      currentBootstrap := some updated
      currentDevice
      currentNetworkId := some update.networkMap.networkId
      currentConnectPlans := update.connectPlans }, updated, reapply)

/-! ## The facade, and the end of a call -/

structure Facade where
  state : AppCoreSnapshot
  controlWs : Option ControlWsClient
  currentTunnelPeerVirtualIp : Option String

/-- The last block of `control_sync`. -/
def reapplyTunnel (facade : Facade) (generate : TunnelKeyProvider) (manager : TunnelManager)
    (nowMs : Nat) (reapply : TunnelReapply) : Except String Unit × Facade :=
  let (keyPair, state) := ensureTunnelKeyPair facade.state generate
    reapply.bootstrap.device.deviceId reapply.peer.nodeId nowMs
  match keyPair with
  | .error err => (.error err, { facade with state })
  | .ok keyPair =>
    match buildTunnelConfig reapply.activePath reapply.bootstrap reapply.peer keyPair with
    | none => (.ok (), { facade with state })
    | some config =>
      match replaceTunnel facade.currentTunnelPeerVirtualIp manager (some config) with
      | (.error err, current) =>
        (.error err, { facade with state, currentTunnelPeerVirtualIp := current })
      | (.ok (), current) =>
        (.ok (), { facade with
          currentTunnelPeerVirtualIp := current
          state := { state with
            tunnelPeerVirtualIp := some config.peerVirtualIp
            tunnelRuntime := some (buildTunnelRuntime config) } })

end Slan.Client
