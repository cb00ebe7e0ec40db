import Slan.App.TunnelConfiguration
import Slan.Lib.Program

/-! # `AppCoreCoordinator.enableActiveNetwork`, and the services under it

The control plane and the tunnel host answer calls; what the host answers may depend on the calls
before. An exception is the text that it is shown with.
-/

namespace Slan.App

/-! ## The control plane -/

structure SessionModel where
  userId : String
  accessToken : String
  refreshToken : Option String
  expiresIn : Int
  deviceId : Option String
  userLabel : Option String
  deriving DecidableEq, Repr

structure NodeModel where
  nodeId : String
  deviceId : String
  nodePublicKey : String
  networkIds : List String
  capabilities : List String
  deriving DecidableEq, Repr

/-- The control status is only asked for. -/
structure AppCoreApi where
  listNetworks : Except String (List NetworkModel)
  registerNode : (deviceId nodeId nodePublicKey : String) → (capabilities : List String) →
    Except String NodeModel
  activateNetwork : (networkId deviceId : String) → Except String Unit
  bootstrap : (nodeId networkId : String) → Except String BootstrapModel
  controlStatus : Except String Unit

/-! ## `app_workspace_service.dart` -/

structure ActiveNetworkRuntimeResult where
  device : DeviceModel
  node : NodeModel
  networks : List NetworkModel
  bootstrap : BootstrapModel
  activeNetwork : NetworkModel
  deriving DecidableEq, Repr

structure Clock where
  millisecondsSinceEpoch : Int
  microsecondsSinceEpoch : Int
  deriving DecidableEq, Repr

/-- The node that is there, or a new one. -/
def ensureNode (api : AppCoreApi) (clock : Clock) (device : DeviceModel) :
    Option NodeModel → Except String NodeModel
  | some node => .ok node
  | none => api.registerNode device.deviceId ("node-" ++ toString clock.millisecondsSinceEpoch)
      ("node-key-" ++ toString clock.microsecondsSinceEpoch) ["desktop"]

def prepareActiveNetworkRuntime (api : AppCoreApi) (clock : Clock) (session : Option SessionModel)
    (currentDevice : Option DeviceModel) (currentNode : Option NodeModel)
    (currentNetworks : List NetworkModel) : Except String ActiveNetworkRuntimeResult := do
  if session.isNone then throw "Bad state: login required"
  let networks ← if currentNetworks = [] then api.listNetworks else pure currentNetworks
  match currentDevice, networks with
  | some device, activeNetwork :: _ =>
    let node ← ensureNode api clock device currentNode
    api.activateNetwork activeNetwork.networkId device.deviceId
    let bootstrap ← api.bootstrap node.nodeId activeNetwork.networkId
    api.controlStatus
    return {
      device := bootstrap.device
      node
      networks := bootstrap.networks
      bootstrap
      activeNetwork := (bootstrap.networks.find?
        (·.networkId = activeNetwork.networkId)).getD activeNetwork }
  | _, _ => throw "Bad state: device and network must be ready first"

/-! ## The tunnel host -/

inductive TunnelActionPhase where
  | accepted
  | configured
  | started
  | verified
  | failed
  | pendingVerification
  deriving DecidableEq, Repr

structure WireGuardTunnelActionResult where
  accepted : Bool
  phase : TunnelActionPhase
  detail : String
  runtimeLastError : Option String
  deriving DecidableEq, Repr

structure WireGuardTunnelRuntimeView where
  state : String
  backendState : Option String
  backendLastError : Option String
  backendSelectedEndpoint : Option String
  peerVirtualIp : String
  selectedEndpoint : Option String
  lastAppliedAtMs : Option Int
  lastError : Option String
  deriving DecidableEq, Repr

inductive HostCall where
  | applyTunnelConfiguration (configuration : WireGuardTunnelConfiguration)
  | bringTunnelUp
  | tunnelRuntimeView (peerVirtualIp : String)
  deriving DecidableEq, Repr

structure TunnelHostGateway where
  applyTunnelConfiguration : List HostCall → WireGuardTunnelConfiguration →
    Except String WireGuardTunnelActionResult
  bringTunnelUp : List HostCall → Except String WireGuardTunnelActionResult
  tunnelRuntimeView : List HostCall → (peerVirtualIp : String) →
    Except String (Option WireGuardTunnelRuntimeView)

inductive TunnelActionReportSource where
  | pluginHost
  | runtimeSnapshot
  deriving DecidableEq, Repr

structure TunnelActionReport where
  succeeded : Bool
  detail : String
  source : TunnelActionReportSource
  phase : TunnelActionPhase
  errorMessage : Option String := none
  runtimeSnapshot : Option WireGuardTunnelRuntimeView := none
  deriving DecidableEq, Repr

/-! ## State -/

/-- What the stores keep, with the calls that the host got. -/
structure AppCoreState where
  session : Option SessionModel
  device : Option DeviceModel
  node : Option NodeModel
  networks : List NetworkModel
  bootstrap : Option BootstrapModel
  notice : Option String
  error : Option String
  tunnelDebugError : Option String
  tunnelRuntimeView : Option WireGuardTunnelRuntimeView
  lastTunnelActionReport : Option TunnelActionReport
  hostCalls : List HostCall
  deriving DecidableEq, Repr

abbrev Action := Program AppCoreState Empty String

open Program (query exec fail ofExcept attempt)

def callHost {α : Type} (call : HostCall) (answer : List HostCall → Except String α) :
    Action α := do
  let calls ← query (·.hostCalls)
  exec fun s => { s with hostCalls := s.hostCalls ++ [call] }
  ofExcept (answer calls)

/-! ## `tunnel_runtime_service.dart` -/

structure TunnelRuntimeOperationResult where
  report : TunnelActionReport
  runtimeView : Option WireGuardTunnelRuntimeView := none
  deriving DecidableEq, Repr

/-- The backend's error where it has one, else the tunnel's; an empty one is none. -/
def WireGuardTunnelRuntimeView.errorMessage (runtime : WireGuardTunnelRuntimeView) :
    Option String :=
  (runtime.backendLastError.filter (· ≠ "") <|> runtime.lastError).filter (· ≠ "")

/-- Something that may be null, as text. -/
def shown (s : Option String) : String := s.getD "null"

def buildApplyVerificationReport (configuration : WireGuardTunnelConfiguration)
    (runtime : Option WireGuardTunnelRuntimeView) : TunnelActionReport :=
  match runtime with
  | none => {
      succeeded := true
      detail := "Native plugin accepted the tunnel configuration, but runtime verification is " ++
        "still pending."
      source := .pluginHost
      phase := .accepted }
  | some runtime =>
    match runtime.errorMessage with
    | some errorMessage => {
        succeeded := false
        detail := "Native plugin accepted the configuration, but runtime reported " ++
          runtime.state ++ "/" ++ runtime.backendState.getD "unknown" ++ "."
        source := .runtimeSnapshot
        phase := .failed
        errorMessage := some errorMessage
        runtimeSnapshot := some runtime }
    | none =>
      let peerMatches := runtime.peerVirtualIp = configuration.peerVirtualIp
      let endpointMatches := configuration.peer.endpoint = none ∨
        runtime.selectedEndpoint = configuration.peer.endpoint ∨
        runtime.backendSelectedEndpoint = configuration.peer.endpoint
      if peerMatches ∧ endpointMatches ∧ 0 < runtime.lastAppliedAtMs.getD 0 then {
          succeeded := true
          detail := trim ("Configuration staged and runtime reflects peer " ++
            runtime.peerVirtualIp ++ runtime.selectedEndpoint.elim "" (" via " ++ ·))
          source := .runtimeSnapshot
          phase := .configured
          runtimeSnapshot := some runtime }
      else if peerMatches ∧ endpointMatches then {
          succeeded := true
          detail := "Native plugin accepted the tunnel configuration; runtime shape matches, " ++
            "but apply verification is still pending."
          source := .runtimeSnapshot
          phase := .pendingVerification }
      else {
          succeeded := true
          detail := "Native plugin accepted the tunnel configuration, but runtime " ++
            "verification has not caught up yet."
          source := .pluginHost
          phase := .accepted }

def buildBringUpVerificationReport (runtime : Option WireGuardTunnelRuntimeView) :
    TunnelActionReport :=
  match runtime with
  | none => {
      succeeded := false
      detail := "Native plugin accepted the bring-up request, but runtime verification " ++
        "returned no session snapshot."
      source := .runtimeSnapshot
      phase := .pendingVerification
      errorMessage := some "Bring-up could not be verified from runtime." }
  | some runtime =>
    match runtime.errorMessage with
    | some errorMessage => {
        succeeded := false
        detail := "Native plugin accepted the bring-up request, but runtime reported " ++
          runtime.state ++ "/" ++ shown runtime.backendState ++ "."
        source := .runtimeSnapshot
        phase := .failed
        errorMessage := some errorMessage
        runtimeSnapshot := some runtime }
    | none =>
      if runtime.state.toLower ∈ ["up", "running"] ∧
          (runtime.backendState.getD "").toLower ∈ ["started", "running"] then {
          succeeded := true
          detail := "Bring-up verified: runtime now reports tunnel " ++ runtime.state ++
            " and backend " ++ shown runtime.backendState ++ "."
          source := .runtimeSnapshot
          phase := .started
          runtimeSnapshot := some runtime }
      else {
          succeeded := false
          detail := "Native plugin accepted the bring-up request, but runtime still reports " ++
            "tunnel " ++ runtime.state ++ " and backend " ++ shown runtime.backendState ++ "."
          source := .runtimeSnapshot
          phase := .pendingVerification
          errorMessage := some "Backend start is not verified yet."
          runtimeSnapshot := some runtime }

namespace TunnelRuntimeService

variable (host : TunnelHostGateway)

/-- A call of the host, and if it is accepted a look at what it runs, unless no peer is given. -/
def verified (call : HostCall) (answer : List HostCall → Except String WireGuardTunnelActionResult)
    (build : Option WireGuardTunnelRuntimeView → TunnelActionReport)
    (verifyPeerVirtualIp : Option String) : Action TunnelRuntimeOperationResult := do
  let nativeResult ← callHost call answer
  let acceptedReport : TunnelActionReport := {
    succeeded := nativeResult.accepted
    detail := nativeResult.detail
    source := .pluginHost
    phase := nativeResult.phase
    errorMessage := nativeResult.runtimeLastError }
  match nativeResult.accepted, nonBlank verifyPeerVirtualIp with
  | true, some peerVirtualIp =>
    let runtime ← callHost (.tunnelRuntimeView peerVirtualIp)
      (host.tunnelRuntimeView · peerVirtualIp)
    return { report := build runtime, runtimeView := runtime }
  | _, _ => return { report := acceptedReport }

def applyTunnelConfiguration (configuration : WireGuardTunnelConfiguration)
    (verifyPeerVirtualIp : Option String) : Action TunnelRuntimeOperationResult :=
  verified host (.applyTunnelConfiguration configuration)
    (host.applyTunnelConfiguration · configuration) (buildApplyVerificationReport configuration)
    verifyPeerVirtualIp

def bringTunnelUp (verifyPeerVirtualIp : Option String) : Action TunnelRuntimeOperationResult :=
  verified host .bringTunnelUp host.bringTunnelUp buildBringUpVerificationReport
    verifyPeerVirtualIp

end TunnelRuntimeService

/-! ## `app_core_coordinator.dart` -/

def runAction (action : Action Unit) : Action Unit := do
  exec fun s => { s with error := none }
  match ← action.attempt with
  | .ok () => return
  | .error err => exec fun s => { s with error := some err }

def runTunnelAction {α : Type} (action : Action α) : Action (Option α) := do
  exec fun s => { s with error := none, tunnelDebugError := none }
  match ← action.attempt with
  | .ok a => return some a
  | .error err =>
    exec fun s => { s with tunnelDebugError := some err, error := some err }
    return none

def AppCoreState.failedTunnelActionReport (s : AppCoreState) : TunnelActionReport where
  succeeded := false
  detail := "Native tunnel action failed before a verified backend signal arrived."
  source := .pluginHost
  phase := .failed
  errorMessage := s.tunnelDebugError <|> s.error <|> some "unknown tunnel action failure"
  runtimeSnapshot := s.tunnelRuntimeView

/-- A tunnel action of the runtime service, whose report is kept. -/
def reported (operation : Action TunnelRuntimeOperationResult) : Action TunnelActionReport := do
  let report ← runTunnelAction do
    let result ← operation
    exec fun s => { s with tunnelRuntimeView := result.runtimeView }
    return result.report
  let report ← query fun s => report.getD s.failedTunnelActionReport
  exec fun s => { s with lastTunnelActionReport := some report }
  return report

section Coordinator

variable (api : AppCoreApi) (host : TunnelHostGateway) (clock : Clock)

def applyTunnelConfiguration (configuration : WireGuardTunnelConfiguration)
    (verifyPeerVirtualIp : Option String) : Action TunnelActionReport :=
  reported (TunnelRuntimeService.applyTunnelConfiguration host configuration verifyPeerVirtualIp)

def bringTunnelUp (verifyPeerVirtualIp : Option String) : Action TunnelActionReport :=
  reported (TunnelRuntimeService.bringTunnelUp host verifyPeerVirtualIp)

/-- `config.peer.allowedIps.first.split('/').first` -/
def verifiedPeer (config : WireGuardTunnelConfiguration) : String :=
  String.ofList ((config.peer.allowedIps.headD "").toList.takeWhile (· ≠ '/'))

def enableActiveNetwork : Action Unit := runAction do
  let s ← query id
  if s.session.isNone then fail "Bad state: login required"
  else if s.device.isNone then fail "Bad state: 当前设备尚未注册完成。"
  else if s.networks = [] then
    exec fun s => { s with notice := some "当前账号还没有可启用的网络，请先在网页端创建或接入网络。" }
  else
    let runtime ← ofExcept
      (prepareActiveNetworkRuntime api clock s.session s.device s.node s.networks)
    exec fun s => { s with
      node := some runtime.node
      bootstrap := some runtime.bootstrap
      device := some runtime.device
      networks := runtime.networks }
    let config := buildActiveNetworkConfiguration runtime.activeNetwork runtime.device.deviceId
      runtime.device.publicKey
    let peerVirtualIp := verifiedPeer config
    let applyReport ← applyTunnelConfiguration host config (some peerVirtualIp)
    if applyReport.succeeded then
      let _ ← bringTunnelUp host (some peerVirtualIp)

end Coordinator

end Slan.App
