import Slan.App.Coordinator
import Slan.Lib.Interleaving

/-! # `app_core_coordinator_async.dart`, and the workflows that run in it

Each action has a number. The numbers of those that have begun and not finished are not in the
code: they are what its flag `busy` is to say. Listeners are told of changes, and make none.
-/

namespace Slan.App

/-! ## `diagnostic_models.dart` -/

inductive ProbeFailureKind where
  | timeout
  | transport
  | relayAuth
  | relaySession
  | relayProtocol
  | unsupported
  | unknown
  deriving DecidableEq, Repr

structure ProbeFailure where
  kind : ProbeFailureKind
  code : Option String
  message : String
  deriving DecidableEq, Repr

inductive SendFailureKind where
  | timeout
  | transport
  | relayAuth
  | relaySession
  | relayProtocol
  | unsupported
  | unknown
  deriving DecidableEq, Repr

structure SendFailure where
  kind : SendFailureKind
  code : Option String
  message : String
  deriving DecidableEq, Repr

/-- What a probe has found is kept, and not looked into. -/
structure DataPlaneProbeModel where
  probeId : String
  sampledAtMs : Int
  bytesSent : Int
  replyObserved : Bool
  deriving DecidableEq, Repr

inductive Thrown where
  | probe (failure : ProbeFailure)
  | send (failure : SendFailure)
  | other (message : String)
  deriving DecidableEq, Repr

def Thrown.toString : Thrown → String
  | .probe failure => failure.message
  | .send failure => failure.message
  | .other message => message

/-! ## The stores, and the actions that run -/

structure Stores extends AppCoreState where
  busy : Bool
  lastProbe : Option DataPlaneProbeModel
  lastProbeFailure : Option ProbeFailure
  lastSendBytes : Option Int
  lastSendFailure : Option SendFailure
  deriving DecidableEq, Repr

structure Watched where
  stores : Stores
  /-- How many actions have begun. -/
  begun : Nat
  running : List Nat
  deriving DecidableEq, Repr

/-- `busy = true`, with what else an action begins with. -/
def Watched.enter (w : Watched) (write : Stores → Stores) : Watched where
  stores := { write w.stores with busy := true }
  begun := w.begun + 1
  running := w.begun :: w.running

/-- A statement with which an action finishes, or one that resets the stores. -/
inductive Mark where
  | finishes (action : Nat)
  | resets
  deriving DecidableEq, Repr

abbrev Flow := Program Watched Mark Thrown

namespace Flow

open Program (exec execNoting fail ofExcept query)

def update (write : Stores → Stores) : Flow Unit :=
  exec fun w => { w with stores := write w.stores }

def stores : Flow Stores := query Watched.stores

/-- What is done for the flows by the services. -/
def service {α : Type} : Action α → Flow α
  | .ret result => .ret (result.mapError .other)
  | .stmt _ write next =>
    .stmt (fun _ => [])
      (fun w => { w with stores.toAppCoreState := write w.stores.toAppCoreState })
      fun w => service (next w.stores.toAppCoreState)

/-! ## The four wrappers -/

/-- The start of an action, which gives its number. -/
def begin (write : Stores → Stores) : Flow Nat :=
  .stmt (fun _ => []) (fun w => w.enter write) fun w => pure w.begun

/-- The `finally` of an action, with what its `try` or `catch` leaves behind. -/
def finish (action : Nat) (write : Stores → Stores) : Flow Unit :=
  execNoting (fun _ => [.finishes action]) fun w => { w with
    stores := { write w.stores with busy := false }
    running := w.running.filter (· ≠ action) }

def runAction (action : Flow Unit) : Flow Unit := do
  let n ← begin fun s => { s with error := none }
  match ← action.attempt with
  | .ok () => finish n id
  | .error err => finish n fun s => { s with error := some err.toString }

def runTunnelAction {α : Type} (action : Flow α) : Flow (Option α) := do
  let n ← begin fun s => { s with error := none, tunnelDebugError := none }
  match ← action.attempt with
  | .ok a =>
    finish n id
    return some a
  | .error err =>
    finish n fun s => { s with
      tunnelDebugError := some err.toString
      error := some err.toString }
    return none

def runProbeAction (action : Flow DataPlaneProbeModel) : Flow Unit := do
  let n ← begin fun s => { s with error := none }
  match ← action.attempt with
  | .ok probe => finish n fun s => { s with lastProbe := some probe, lastProbeFailure := none }
  | .error (.probe failure) =>
    finish n fun s => { s with
      lastProbe := none
      lastProbeFailure := some failure
      error := some failure.message }
  | .error err =>
    finish n fun s => { s with
      lastProbe := none
      lastProbeFailure := some ⟨.unknown, none, err.toString⟩
      error := some err.toString }

def runSendAction (action : Flow Int) : Flow Unit := do
  let n ← begin fun s => { s with error := none }
  match ← action.attempt with
  | .ok bytes => finish n fun s => { s with lastSendBytes := some bytes, lastSendFailure := none }
  | .error (.send failure) =>
    finish n fun s => { s with
      lastSendBytes := none
      lastSendFailure := some failure
      error := some failure.message }
  | .error err =>
    finish n fun s => { s with
      lastSendBytes := none
      lastSendFailure := some ⟨.unknown, none, err.toString⟩
      error := some err.toString }

end Flow

/-! ## `app_core_coordinator.dart` -/

/-- `clearTunnelConnectionArtifacts` -/
def Stores.clearTunnelConnection (s : Stores) : Stores :=
  { s with
    lastProbe := none
    lastProbeFailure := none
    lastSendBytes := none
    lastSendFailure := none
    tunnelRuntimeView := none
    lastTunnelActionReport := none
    tunnelDebugError := none }

/-- `resetSessionState`, with `busy` among what it resets, and `resetTunnelState`. -/
def Stores.reset (s : Stores) : Stores :=
  { s.clearTunnelConnection with
    session := none
    device := none
    node := none
    networks := []
    bootstrap := none
    notice := none
    error := none
    busy := false }

namespace Flow

open Program (exec execNoting fail ofExcept query)

def resetState : Flow Unit :=
  execNoting (fun _ => [.resets]) fun w => { w with stores := w.stores.reset }

/-- A tunnel action of the runtime service, whose report is kept. -/
def reported (operation : Action TunnelRuntimeOperationResult) : Flow TunnelActionReport := do
  let report ← runTunnelAction do
    let result ← service operation
    update fun s => { s with tunnelRuntimeView := result.runtimeView }
    return result.report
  let s ← stores
  let report := report.getD s.failedTunnelActionReport
  update fun s => { s with lastTunnelActionReport := some report }
  return report

section Coordinator

variable (api : AppCoreApi) (host : TunnelHostGateway) (clock : Clock)

def applyTunnelConfiguration (configuration : WireGuardTunnelConfiguration)
    (verifyPeerVirtualIp : Option String) : Flow TunnelActionReport :=
  reported (TunnelRuntimeService.applyTunnelConfiguration host configuration verifyPeerVirtualIp)

def bringTunnelUp (verifyPeerVirtualIp : Option String) : Flow TunnelActionReport :=
  reported (TunnelRuntimeService.bringTunnelUp host verifyPeerVirtualIp)

/-- With what the host answers. -/
def bringTunnelDown (down : Except String WireGuardTunnelActionResult) :
    Flow TunnelActionReport :=
  reported do
    let nativeResult ← ofExcept down
    return {
      report := {
        succeeded := nativeResult.accepted
        detail := nativeResult.detail
        source := .pluginHost
        phase := nativeResult.phase
        errorMessage := nativeResult.runtimeLastError } }

def enableActiveNetwork : Flow Unit := runAction do
  let s ← stores
  if s.session.isNone then fail (.other "Bad state: login required")
  else if s.device.isNone then fail (.other "Bad state: 当前设备尚未注册完成。")
  else if s.networks = [] then
    update fun s => { s with notice := some "当前账号还没有可启用的网络，请先在网页端创建或接入网络。" }
  else
    let runtime ← service (ofExcept
      (prepareActiveNetworkRuntime api clock s.session s.device s.node s.networks))
    update fun s => { s with
      node := some runtime.node
      bootstrap := some runtime.bootstrap
      device := some runtime.device
      networks := runtime.networks }
    let config := buildActiveNetworkConfiguration runtime.activeNetwork runtime.device.deviceId
      runtime.device.publicKey
    let peerVirtualIp := verifiedPeer config
    let applyReport ← applyTunnelConfiguration host config (some peerVirtualIp)
    if applyReport.succeeded then
      let _ ← bringTunnelUp host (some peerVirtualIp)

/-- What the control plane answers to a deactivation. -/
structure DeactivationCalls where
  deactivateNetwork : (networkId deviceId : String) → Except String Unit
  listNetworks : Except String (List NetworkModel)

def deactivateActiveNetwork (calls : DeactivationCalls) (session : Option SessionModel)
    (currentDevice : Option DeviceModel) (currentNetworks : List NetworkModel) :
    Except String (Option DeviceModel × List NetworkModel) := do
  match currentDevice, currentNetworks with
  | some device, activeNetwork :: _ =>
    calls.deactivateNetwork activeNetwork.networkId device.deviceId
  | _, _ => pure ()
  let networks ← if session.isNone then pure currentNetworks else calls.listNetworks
  return (currentDevice, networks)

def disableActiveNetwork (down : Except String WireGuardTunnelActionResult)
    (calls : DeactivationCalls) : Flow Unit := runAction do
  let s ← stores
  if s.networks = [] then
    update fun s => { s with notice := some "当前没有已接入的活动网络。" }
  else
    let _ ← bringTunnelDown down
    let s ← stores
    let (currentDevice, networks) ← service (ofExcept
      (deactivateActiveNetwork calls s.session s.device s.networks))
    update fun s => { s.clearTunnelConnection with
      networks
      device := (currentDevice.map fun device => { device with virtualIp := none }) <|> s.device
      notice := some "当前网络已停用，本地隧道和虚拟 IP 已释放。"
      bootstrap := none
      lastTunnelActionReport := some {
        succeeded := true
        detail := "当前网络已停用，本地隧道运行态已清空。"
        source := .runtimeSnapshot
        phase := .verified } }

def signOut (down : Except String WireGuardTunnelActionResult)
    (clearPersistedSession : Except String Unit) : Flow Unit := runAction do
  let _ ← (bringTunnelDown down).attempt
  service (ofExcept clearPersistedSession)
  resetState

end Coordinator

/-! ## Without the flag they are the workflows of the coordinator -/

/-- What a flow does to the stores, but for the flag and what the coordinator does not look at. -/
def Erases {α : Type} (p : Flow α) (q : Action α) : Prop :=
  ∀ w : Watched, q.run w.stores.toAppCoreState =
    ((p.run w).1.mapError Thrown.toString, (p.run w).2.stores.toAppCoreState)

section Erases

variable {α β : Type} {p : Flow α} {q : Action α}

theorem erases_ret (result : Except Thrown α) :
    Erases (.ret result) (.ret (result.mapError Thrown.toString)) := fun _ => rfl

theorem Erases.bind {f : α → Flow β} {g : α → Action β} (h : Erases p q)
    (hf : ∀ a, Erases (f a) (g a)) : Erases (p >>= f) (q >>= g) := by
  intro w
  rw [Program.run_bind, Program.run_bind, h w]
  generalize p.run w = done
  obtain ⟨err | a, t⟩ := done
  · rfl
  · exact hf a t

theorem erases_update {write : Stores → Stores} {write' : AppCoreState → AppCoreState}
    (h : ∀ s, (write s).toAppCoreState = write' s.toAppCoreState) :
    Erases (update write) (exec write') :=
  fun w => Prod.ext rfl (h w.stores).symm

theorem erases_stores_bind {f : Stores → Flow α} {g : AppCoreState → Action α}
    (h : ∀ s, Erases (f s) (g s.toAppCoreState)) : Erases (stores >>= f) (query id >>= g) :=
  fun w => h w.stores w

theorem erases_service (q : Action α) : Erases (service q) q := by
  induction q with
  | ret result => cases result <;> exact fun _ => rfl
  | stmt note write next ih =>
    exact fun w => ih _ { w with stores.toAppCoreState := write w.stores.toAppCoreState }

theorem run_wrapped {begun : Stores → Stores} {settle : Nat → Except Thrown α → Flow β}
    (w : Watched) :
    (begin begun >>= fun n => p.attempt >>= settle n).run w =
      (settle w.begun (p.run (w.enter begun)).1).run (p.run (w.enter begun)).2 := by
  change Program.run (p.attempt >>= settle w.begun) (w.enter begun) = _
  rw [Program.run_bind, Program.run_attempt]

/-- A wrapper around a flow, where both begin and settle in the same way. -/
theorem erases_wrapped {begun : Stores → Stores} {begun' : AppCoreState → AppCoreState}
    {settle : Nat → Except Thrown α → Flow β} {settle' : Except String α → Action β}
    (h : Erases p q) (hbegun : ∀ s, (begun s).toAppCoreState = begun' s.toAppCoreState)
    (hsettle : ∀ n result, Erases (settle n result) (settle' (result.mapError Thrown.toString))) :
    Erases (begin begun >>= fun n => p.attempt >>= settle n)
      (exec begun' >>= fun _ => q.attempt >>= settle') := by
  intro w
  have hentered : begun' w.stores.toAppCoreState = (w.enter begun).stores.toAppCoreState :=
    (hbegun w.stores).symm
  rw [run_wrapped]
  change Program.run (q.attempt >>= settle') (begun' w.stores.toAppCoreState) = _
  rw [Program.run_bind, Program.run_attempt, hentered, h (w.enter begun)]
  exact hsettle w.begun _ _

theorem erases_runAction {action : Flow Unit} {action' : Action Unit} (h : Erases action action') :
    Erases (runAction action) (App.runAction action') := by
  refine erases_wrapped h (fun _ => rfl) fun n result => ?_
  cases result <;> exact fun _ => rfl

theorem erases_runTunnelAction (h : Erases p q) :
    Erases (runTunnelAction p) (App.runTunnelAction q) := by
  refine erases_wrapped h (fun _ => rfl) fun n result => ?_
  cases result <;> exact fun _ => rfl

theorem erases_reported (operation : Action TunnelRuntimeOperationResult) :
    Erases (reported operation) (App.reported operation) := by
  refine (erases_runTunnelAction ?_).bind fun report => ?_
  · exact (erases_service operation).bind fun result =>
      (erases_update fun _ => rfl).bind fun _ => erases_ret (.ok _)
  · exact fun _ => rfl

theorem erases_enableActiveNetwork (api : AppCoreApi) (host : TunnelHostGateway) (clock : Clock) :
    Erases (enableActiveNetwork api host clock) (App.enableActiveNetwork api host clock) := by
  refine erases_runAction (erases_stores_bind fun s => ?_)
  split
  · exact erases_ret (.error (.other _))
  split
  · exact erases_ret (.error (.other _))
  split
  · exact erases_update fun _ => rfl
  refine (erases_service _).bind fun runtime => (erases_update fun _ => rfl).bind fun _ => ?_
  refine (erases_reported _).bind fun applyReport => ?_
  split
  · exact (erases_reported _).bind fun _ => erases_ret (.ok ())
  · exact erases_ret (.ok ())

end Erases

end Flow

end Slan.App
