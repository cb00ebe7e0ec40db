import Slan.Client.AppCore
import Slan.Client.LinuxAdapter

/-! # `app-core-cli`: the facade in a process, and the next process

The facade over the Linux backend, with the rest of its snapshot. A process ends with its snapshot
saved (`app-core-cli` does not save after a command that fails); the next one finds that, and the
kernel as it is. What the outside does is given with each call, and the DERP map of the bootstrap
with a connect.
-/

namespace Slan.Client

/-! ## `diagnostics.rs` -/

inductive DataPlaneErrorCode where
  | timeout
  | transport
  | relayAuth
  | relaySession
  | relayProtocol
  | unsupportedPath
  | unknown
  deriving DecidableEq, Repr

structure DataPlaneError where
  code : DataPlaneErrorCode
  message : String
  deriving DecidableEq, Repr

def relayAuthCodes : List String :=
  ["ticket_expired", "invalid_signature", "invalid_ticket", "invalid_timestamp",
    "unauthorized_peer", "participant_not_in_ticket", "clock_skew"]

def relaySessionCodes : List String :=
  ["session_not_found", "session_already_exists", "session_conflict", "session_not_attached",
    "participant_not_attached", "participant_address_mismatch", "peer_not_attached"]

/-- What the text of an error tells where its code does not. -/
def classifyText (error : String) : DataPlaneErrorCode :=
  let normalized := error.toLower.toList
  if "timed out".toList <:+: normalized ∨ "timeout".toList <:+: normalized then .timeout
  else if "unsupported".toList <:+: normalized then .unsupportedPath
  else if "transport".toList <:+: normalized ∨ "socket".toList <:+: normalized ∨
      "connection".toList <:+: normalized then .transport
  else .unknown

def classifyDataPlaneErrorParts (code : Option String) (error : String) : DataPlaneError :=
  match code with
  | none => ⟨classifyText error, error⟩
  | some code =>
    if code ∈ relayAuthCodes then ⟨.relayAuth, error⟩
    else if code ∈ relaySessionCodes then ⟨.relaySession, error⟩
    else if code = "empty_payload" then ⟨.unsupportedPath, error⟩
    else if code = "invalid_payload_b64" ∨ code = "store_error" then ⟨.relayProtocol, error⟩
    else ⟨classifyText error, error⟩

/-- Both kinds of errors are displayed alike. -/
def classifyPathManagerError (error : PathManagerError) : DataPlaneError :=
  classifyDataPlaneErrorParts error.code
    (PathManagerError.ofRelay ⟨error.code, error.message⟩).message

/-! ## Probes -/

/-- A probe with its number, its packet and its reply. -/
structure ProbeRecord extends DataPlaneProbe where
  probeId : String
  bytesSent : Nat
  replyObserved : Bool
  replyBytesReceived : Option Nat
  replySampledAtMs : Option Nat
  replyRttMs : Option Nat
  tunnelPeerVirtualIp : Option String
  deriving DecidableEq, Repr

/-- What one poll finds on each way, and when it is over. -/
structure PollRound (Stream : Type) where
  p2pRead : Stream → StreamRead
  relayDatagram : Option Json
  derpClients : Nat → DerpClient
  nowMs : Nat

/-- What the outside gives to one probe. -/
structure ProbeCalls (Stream : Type) where
  texts : Texts
  p2pWrite : Stream → List UInt8 → Except String Unit
  /-- The request that is sent, and the answer to it. -/
  relayExchange : RelayDaemonRequest → Except RelayClientError (Option Json)
  derpClients : Nat → DerpClient
  sampledAtMs : Nat
  /-- The polls, to the one after which the deadline has passed. -/
  rounds : List (PollRound Stream)

namespace AppCore

variable {Stream M : Type}

/-- `send_transport_packet` of the path manager. -/
def sendPacket (core : AppCore Stream M) (calls : ProbeCalls Stream) (packet : List UInt8) :
    Except PathManagerError Unit × AppCore Stream M :=
  let derpSent := core.derpPool.sendTransportPacketViaActive calls.derpClients packet
  let p2pSent := do
    let (stream, bytes) ← SocketP2PConnector.sendTransportPacket core.p2p packet
    calls.p2pWrite stream bytes
  let relaySent := do
    let (sessionId, request) ← SocketRelayClient.forwardRequest core.relay packet
    SocketRelayClient.forwardAcknowledged calls.texts sessionId packet
      (← calls.relayExchange request)
  (PathManager.sendTransportPacket core.path.activePath (fun _ => derpSent.1) (fun _ => p2pSent)
      (fun _ => relaySent) packet,
    match core.path.activePath with
    | .derp _ _ => { core with derpPool := derpSent.2 }
    | _ => core)

/-- `poll_transport_packet` of the path manager. -/
def pollPacket (core : AppCore Stream M) (texts : Texts) (round : PollRound Stream) :
    Except PathManagerError (Option (List UInt8)) × AppCore Stream M :=
  let derpPolled := core.derpPool.pollTransportPacketViaActive round.derpClients
  let relayPolled :=
    if core.relay.activeSocket = false then
      .error (.ofMessage "relay client has no active connection")
    else SocketRelayClient.polled texts round.relayDatagram
  (PathManager.pollTransportPacket core.path.activePath derpPolled.1
      (SocketP2PConnector.pollTransportPacket core.p2p round.p2pRead) relayPolled,
    match core.path.activePath with
    | .derp _ _ => { core with derpPool := derpPolled.2 }
    | _ => core)

/-- `poll_reply_until_timeout`: the length of the reply, and when it came. -/
def pollReply (core : AppCore Stream M) (texts : Texts) :
    List (PollRound Stream) → Except PathManagerError (Option (Nat × Nat)) × AppCore Stream M
  | [] => (.ok none, core)
  | round :: rounds =>
    match core.pollPacket texts round with
    | (.error err, core) => (.error err, core)
    | (.ok (some packet), core) => (.ok (some (packet.length, round.nowMs)), core)
    | (.ok none, core) => pollReply core texts rounds

end AppCore

/-! ## The other calls of the facade -/

/-- What the outside gives to one `control_sync`. -/
structure SyncCalls where
  /-- The ping, the observations and the request, over the client that is stored. -/
  request : ControlWsClient → Except String NetworkMap × ControlWsClient
  /-- A new client up to its observations, with the map and the heartbeat of its bootstrap. -/
  reconnect : ControlWsConfig → Except String (ControlWsClient × NetworkMap × Nat)
  drain : ControlWsClient → Except String (List Received) × ControlWsClient
  controller : Controller
  generate : TunnelKeyProvider
  nowMs : Nat

namespace AppCore

variable {Stream M : Type}

def bootstrap (core : AppCore Stream M) (controller : Controller) (nodeId networkId : String) :
    Except String BootstrapConfig × AppCore Stream M :=
  match core.withAccessToken >>= fun accessToken =>
      controller.bootstrap accessToken nodeId networkId with
  | .error err => (.error err, core)
  | .ok bootstrap =>
    (.ok bootstrap, core.withState { core.facade.state with
      currentBootstrap := some bootstrap
      currentNetworkId := some networkId
      currentConnectPlans := ∅ })

/-- A new client is stored once it has been drained. -/
def gatherAnew (calls : SyncCalls) (config : ControlWsConfig) (stored : Option ControlWsClient) :
    Except String ControlWsBootstrapUpdate × Option ControlWsClient :=
  match calls.reconnect config with
  | .error err => (.error err, stored)
  | .ok (client, networkMap, heartbeatSeconds) =>
    match calls.drain client with
    | (.error err, _) => (.error err, stored)
    | (.ok events, client) =>
      (.ok (drainedUpdate networkMap heartbeatSeconds ∅ events), some client)

/-- What `control_sync` gets from the controller, and the client that is stored then. -/
def gather (core : AppCore Stream M) (calls : SyncCalls) (config : ControlWsConfig) :
    Except String ControlWsBootstrapUpdate × Option ControlWsClient :=
  match core.facade.controlWs with
  | none => gatherAnew calls config none
  | some client =>
    match calls.request client with
    | (.error _, client) => gatherAnew calls config (some client)
    | (.ok networkMap, client) =>
      match calls.drain client with
      | (.error err, client) => (.error err, some client)
      | (.ok events, client) =>
        (.ok (drainedUpdate networkMap 0 core.facade.state.currentConnectPlans events), some client)

/-- `control_sync` up to its update of the snapshot. -/
def learn (core : AppCore Stream M) (calls : SyncCalls) :
    Except String ControlWsBootstrapUpdate × Option ControlWsClient :=
  match controlWsConfig core.facade.state with
  | .error err => (.error err, core.facade.controlWs)
  | .ok config =>
    let (gathered, controlWs) := core.gather calls config
    (gathered >>= enableNetwork calls.controller config core.facade.state, controlWs)

def withControlWs (core : AppCore Stream M) (controlWs : Option ControlWsClient) :
    AppCore Stream M :=
  { core with facade := { core.facade with controlWs } }

def controlSync (core : AppCore Stream M) (calls : SyncCalls) (host : TunnelHost M) :
    Except String BootstrapConfig × AppCore Stream M :=
  match core.learn calls with
  | (.error err, controlWs) => (.error err, core.withControlWs controlWs)
  | (.ok update, controlWs) =>
    (core.withControlWs controlWs).commitControlSync update calls.generate host calls.nowMs

end AppCore

/-! ## A process -/

/-- What comes of the commands of a close and of an establish. -/
structure LinuxCalls where
  close : Nat → LinuxOutcome
  establish : LinuxAdapter.LinuxOutcomes

/-- `SystemTunnelManager` over the Linux backend. -/
def linuxHost (calls : LinuxCalls) : TunnelHost LinuxAdapter where
  close adapter peerVirtualIp := adapter.removePeer calls.close peerVirtualIp
  establish adapter config := adapter.establish calls.establish config

/-- The snapshot that a process saves. -/
structure SavedSnapshot extends AppCoreSnapshot where
  connectionState : Option ConnectionState
  lastDataPlaneError : Option DataPlaneError
  lastProbe : Option ProbeRecord

structure AppProcess (Stream : Type) extends AppCore Stream LinuxAdapter where
  connectionState : Option ConnectionState
  lastDataPlaneError : Option DataPlaneError
  lastProbe : Option ProbeRecord
  probeSequence : UInt64

inductive Operation (Stream : Type) where
  /-- `login` and `register`, with the answer of the controller. -/
  | login (answer : Except String Session)
  | registerDevice (answer : String → Except String Device)
  | registerNode (answer : String → Except String Node)
  | bootstrap (controller : Controller) (nodeId networkId : String)
  | connect (calls : ConnectCalls Stream LinuxAdapter) (linux : LinuxCalls)
    (derpMap : Option DerpMap) (networkId peerNodeId : String)
  | controlSync (calls : SyncCalls) (linux : LinuxCalls)
  | disconnect (linux : LinuxCalls)
  | probe (calls : ProbeCalls Stream) (packet : List UInt8)

namespace AppProcess

variable {Stream : Type}

/-- `build_facade`, over a kernel. -/
def new (kernel : LinuxKernel) : AppProcess Stream :=
  { AppCore.new { LinuxAdapter.new with kernel } with
    connectionState := none
    lastDataPlaneError := none
    lastProbe := none
    probeSequence := 0 }

def snapshot (process : AppProcess Stream) : SavedSnapshot :=
  { process.facade.state with
    connectionState := process.connectionState
    lastDataPlaneError := process.lastDataPlaneError
    lastProbe := process.lastProbe }

def restoreSnapshot (process : AppProcess Stream) (snapshot : SavedSnapshot) :
    AppProcess Stream :=
  { process.toAppCore.restoreSnapshot snapshot.toAppCoreSnapshot with
    connectionState := snapshot.connectionState
    lastDataPlaneError := snapshot.lastDataPlaneError
    lastProbe := snapshot.lastProbe
    probeSequence := process.probeSequence }

/-- The process that comes after it. -/
def restarted (process : AppProcess Stream) : AppProcess Stream :=
  (new process.tunnels.kernel).restoreSnapshot process.snapshot

def withCore (process : AppProcess Stream) (core : AppCore Stream LinuxAdapter) :
    AppProcess Stream :=
  { process with toAppCore := core }

/-- The snapshot has a connection state anew, and no probe. -/
def withConnectionState (process : AppProcess Stream) (connectionState : ConnectionState) :
    AppProcess Stream :=
  { process with
    connectionState := some connectionState
    lastDataPlaneError := none
    lastProbe := none }

def updateState (process : AppProcess Stream) (state : AppCoreSnapshot) : AppProcess Stream :=
  process.withCore (process.toAppCore.withState state)

def login (process : AppProcess Stream) (answer : Except String Session) :
    Except String Session × AppProcess Stream :=
  match answer with
  | .error err => (.error err, process)
  | .ok session =>
    (.ok session, process.updateState { process.facade.state with session := some session })

def registerDevice (process : AppProcess Stream) (answer : String → Except String Device) :
    Except String Device × AppProcess Stream :=
  match process.withAccessToken >>= answer with
  | .error err => (.error err, process)
  | .ok device =>
    (.ok device, process.updateState { process.facade.state with
      currentDevice := some device
      tunnelKeyMaterial := none })

def registerNode (process : AppProcess Stream) (answer : String → Except String Node) :
    Except String Node × AppProcess Stream :=
  match process.withAccessToken >>= answer with
  | .error err => (.error err, process)
  | .ok node =>
    (.ok node, process.updateState { process.facade.state with
      currentNode := some node
      tunnelKeyMaterial := none })

def bootstrap (process : AppProcess Stream) (controller : Controller) (nodeId networkId : String) :
    Except String BootstrapConfig × AppProcess Stream :=
  let (result, core) := process.toAppCore.bootstrap controller nodeId networkId
  (result, process.withCore core)

def connect (process : AppProcess Stream) (calls : ConnectCalls Stream LinuxAdapter)
    (linux : LinuxCalls) (derpMap : Option DerpMap) (networkId peerNodeId : String) :
    Except String ConnectionState × AppProcess Stream :=
  match process.toAppCore.connect { calls with host := linuxHost linux } derpMap networkId
      peerNodeId with
  | (.error err, core) => (.error err, process.withCore core)
  | (.ok connectionState, core) =>
    (.ok connectionState, (process.withCore core).withConnectionState connectionState)

def controlSync (process : AppProcess Stream) (calls : SyncCalls) (linux : LinuxCalls) :
    Except String BootstrapConfig × AppProcess Stream :=
  let (result, core) := process.toAppCore.controlSync calls (linuxHost linux)
  (result, process.withCore core)

def disconnect (process : AppProcess Stream) (linux : LinuxCalls) :
    Except String Unit × AppProcess Stream :=
  match process.toAppCore.disconnect (linuxHost linux) with
  | (.error err, core) => (.error err, process.withCore core)
  | (.ok (), core) => (.ok (), (process.withCore core).withConnectionState .disconnected)

/-- The record of a probe that gets through, with the process as it is after the polls. -/
def probeRecord (process : AppProcess Stream) (calls : ProbeCalls Stream) (packet : List UInt8)
    (reply : Option (Nat × Nat)) : ProbeRecord :=
  { probeHealth process.derpPool.toDerpPoolState calls.sampledAtMs process.path.activePath with
    probeId := "probe-" ++ toString calls.sampledAtMs ++ "-" ++ toString process.probeSequence
    bytesSent := packet.length
    replyObserved := reply.isSome
    replyBytesReceived := reply.map Prod.fst
    replySampledAtMs := reply.map Prod.snd
    replyRttMs := reply.map fun reply => reply.2 - calls.sampledAtMs
    tunnelPeerVirtualIp := process.facade.currentTunnelPeerVirtualIp }

/-- Only a packet that cannot be sent is remembered as an error. -/
def probe (process : AppProcess Stream) (calls : ProbeCalls Stream) (packet : List UInt8) :
    Except DataPlaneError ProbeRecord × AppProcess Stream :=
  match process.toAppCore.sendPacket calls packet with
  | (.error err, core) =>
    let error := classifyPathManagerError err
    (.error error, { process.withCore core with lastDataPlaneError := some error })
  | (.ok (), core) =>
    let (reply, core) := core.pollReply calls.texts calls.rounds
    let polled : AppProcess Stream :=
      { process.withCore core with probeSequence := process.probeSequence + 1 }
    match reply with
    | .error err => (.error (classifyPathManagerError err), polled)
    | .ok reply =>
      let probe := polled.probeRecord calls packet reply
      (.ok probe, { polled with lastDataPlaneError := none, lastProbe := some probe })

/-- An operation, with whether it succeeds. -/
def run (process : AppProcess Stream) : Operation Stream → Bool × AppProcess Stream
  | .login answer => (process.login answer).map Except.isOk id
  | .registerDevice answer => (process.registerDevice answer).map Except.isOk id
  | .registerNode answer => (process.registerNode answer).map Except.isOk id
  | .bootstrap controller nodeId networkId =>
    (process.bootstrap controller nodeId networkId).map Except.isOk id
  | .connect calls linux derpMap networkId peerNodeId =>
    (process.connect calls linux derpMap networkId peerNodeId).map Except.isOk id
  | .controlSync calls linux => (process.controlSync calls linux).map Except.isOk id
  | .disconnect linux => (process.disconnect linux).map Except.isOk id
  | .probe calls packet => (process.probe calls packet).map Except.isOk id

end AppProcess

end Slan.Client
