import Slan.Client.Restart

/-! # `control_sync`: what it reports of the connection, and whom that is about

The reports are made from the snapshot. Beside the process stand the peer and the path of the last
connect that succeeded, the address that the P2P stream was opened to, and the way of the packet of
the last probe that got through.
-/

namespace Slan.Client

open Transition InMemoryDerpPool

/-! ## The reports -/

structure ControlWsConnectionStateReport where
  networkId : String
  peerNodeId : String
  path : String
  state : String
  reason : Option String
  observedRttMs : Option UInt32
  packetLossPpm : Option UInt32
  pathScore : Option UInt32
  derpNodeId : Option String
  deriving DecidableEq, Repr

inductive ControlObservation where
  | connectionState (report : ControlWsConnectionStateReport)
  | pathHealth (report : ControlWsPathHealthReport)
  deriving DecidableEq, Repr

/-- The path, the state and the reason in a report. -/
def ConnectionState.reported : ConnectionState → String × String × Option String
  | disconnected => ("none", "closed", none)
  | connecting => ("connecting", "connecting", none)
  | connected .p2p => ("p2p", "connected", none)
  | connected .relay => ("relay", "connected", none)
  | connected .derp => ("derp", "connected", none)
  | failed reason => ("failed", "failed", some reason)

def connectionStateReport (networkId peerNodeId : String) (connectionState : ConnectionState)
    (probe : Option DataPlaneProbe) : ControlWsConnectionStateReport where
  networkId := networkId
  peerNodeId := peerNodeId
  path := connectionState.reported.1
  state := connectionState.reported.2.1
  reason := connectionState.reported.2.2
  observedRttMs := probe.bind DataPlaneProbe.observedRttMs
  packetLossPpm := probe.bind DataPlaneProbe.packetLossPpm
  pathScore := probe.bind DataPlaneProbe.pathScore
  derpNodeId := probe.bind DataPlaneProbe.derpNodeId

/-- A DERP path does not name its peer. -/
def ActivePath.peer? : ActivePath → Option String
  | p2p peerNodeId | relay peerNodeId => some peerNodeId
  | none | derp _ _ => Option.none

def ActivePath.derpNode? : ActivePath → Option String
  | derp _ nodeId => some nodeId
  | none | p2p _ | relay _ => Option.none

/-- The peer of the plans, if there is one for one peer only. -/
def AppCoreSnapshot.onlyPlanned (state : AppCoreSnapshot) : Option String :=
  match state.currentConnectPlans.keys with
  | [peerNodeId] => some peerNodeId
  | _ => none

def inferControlReportPeerNodeId (state : AppCoreSnapshot) : Option String :=
  match state.activePath with
  | some (.p2p peerNodeId) | some (.relay peerNodeId) => some peerNodeId
  | _ => state.onlyPlanned

def controlReportEndpointForPeer (state : AppCoreSnapshot) (peerNodeId : String) : Option String :=
  (state.currentConnectPlans.get? peerNodeId).bind fun plan =>
    plan.paths.head?.map ControlWsPathOption.endpoint

/-- `emit_control_observations`, where all that is sent gets through. -/
def emitControlObservations (state : SavedSnapshot) (networkId : String) :
    List ControlObservation :=
  match inferControlReportPeerNodeId state.toAppCoreSnapshot with
  | none => []
  | some peerNodeId =>
    let endpoint := controlReportEndpointForPeer state.toAppCoreSnapshot peerNodeId
    let probe := state.lastProbe.map ProbeRecord.toDataPlaneProbe
    (state.connectionState.map fun connectionState => .connectionState
      (connectionStateReport networkId peerNodeId connectionState probe)).toList ++
    (probe.map fun probe => .pathHealth
      (pathHealthReport networkId peerNodeId endpoint probe)).toList

/-! ## Whom they are about -/

/-- Where a packet goes: the peer at the other end, the address of the stream, the relay or the
DERP node, and that node. -/
structure PacketRoute where
  peerNodeId : Option String
  endpoints : List String
  derpNodeId : Option String
  deriving DecidableEq

/-- A relay's address, with its scheme and without. -/
def relayEndpoints (relayUrl : String) : List String :=
  relayUrl :: ((splitOnce "://".toList relayUrl.toList).map fun url => String.ofList url.2).toList

structure PeerConnection where
  peerNodeId : String
  path : ActivePath
  deriving DecidableEq

structure ObservedClient (Stream : Type) where
  process : AppProcess Stream
  streamAddress : Option String
  connection : Option PeerConnection
  probed : Option PacketRoute

/-- An operation, and the observations that it sends. -/
structure ObservedOperation (Stream : Type) where
  op : Operation Stream
  sent : List ControlObservation

section

variable {Stream M : Type}

namespace AppCore

/-- The way of a packet that the path manager sends. A ticket of the pool is for one peer. -/
def packetRoute (core : AppCore Stream M) (streamAddress : Option String) : PacketRoute :=
  match core.path.activePath with
  | .none => ⟨none, [], none⟩
  | .p2p _ => ⟨core.p2p.peerNodeId, streamAddress.toList, none⟩
  | .relay _ => ⟨core.relay.peerParticipantId,
    (core.relay.relayUrl.map relayEndpoints).getD [], none⟩
  | .derp _ _ => ⟨core.derpPool.ticket.map RelayTicket.dstNodeId,
    (core.derpPool.activeLink.map fun link =>
      link.nodeMeta.host ++ ":" ++ toString link.nodeMeta.port).toList,
    core.derpPool.activeLink.map fun link => link.nodeMeta.nodeId⟩

/-- The address to which a connect opens a stream. -/
def openedAddress (core : AppCore Stream M) (calls : ConnectCalls Stream M)
    (peerNodeId : String) : Option String :=
  (resolveConnectContext core.facade.state peerNodeId).toOption.bind fun context =>
    let plan := core.facade.state.currentConnectPlans.get? context.peer.nodeId
    (orderedPeerEndpoints context.peer plan).head?.bind fun endpoint =>
      match (SocketP2PConnector.connect core.p2p
        ⟨context.peer.nodeId, endpoint.address, endpoint.endpointType⟩ calls.connectTcp).1 with
      | .connected .p2p => some endpoint.address
      | _ => none

end AppCore

namespace ObservedClient

def start (kernel : LinuxKernel) : ObservedClient Stream := ⟨.new kernel, none, none, none⟩

variable (w : ObservedClient Stream)

def after : Operation Stream → ObservedClient Stream
  | .connect calls linux derpMap networkId peerNodeId =>
    let (connected, process) := w.process.run (.connect calls linux derpMap networkId peerNodeId)
    { w with
      process
      streamAddress := (w.process.openedAddress calls peerNodeId).or w.streamAddress
      connection := bif connected then some ⟨peerNodeId, process.path.activePath⟩ else w.connection }
  | .probe calls packet =>
    let (answered, process) := w.process.run (.probe calls packet)
    { w with
      process
      probed := bif answered then some (w.process.packetRoute w.streamAddress) else w.probed }
  | op => { w with process := (w.process.run op).2 }

/-- What an operation may send. A `control_sync` sends its observations over the client that is
stored, over a new one, or over both, each time as far as the client lets it. -/
def observations : Operation Stream → List ControlObservation
  | .controlSync _ _ =>
    match controlWsConfig w.process.facade.state with
    | .ok config => emitControlObservations w.process.snapshot config.networkId
    | .error _ => []
  | _ => []

def step (w : ObservedClient Stream) (a : ObservedOperation Stream) (w' : ObservedClient Stream) :
    Prop :=
  w' = w.after a.op ∧ ∀ o ∈ a.sent, o ∈ w.observations a.op

/-- A report names the peer of the connection or of the probe, and only an address and a DERP node
that were used. -/
def Attributed : ControlObservation → Prop
  | .connectionState report => ∃ path, w.connection = some ⟨report.peerNodeId, path⟩ ∧
    ∀ nodeId, report.derpNodeId = some nodeId → path.derpNode? = some nodeId
  | .pathHealth report => ∃ route, w.probed = some route ∧
    route.peerNodeId = some report.peerNodeId ∧
    (∀ endpoint, report.endpoint = some endpoint → endpoint ∈ route.endpoints) ∧
    ∀ nodeId, report.derpNodeId = some nodeId → route.derpNodeId = some nodeId

/-- Where the active path names no peer, the only peer with a plan is the one that is connected; a
DERP node that was probed is the one of the connection. -/
def PlannedForConnection : Prop :=
  (w.process.facade.state.activePath.bind ActivePath.peer? = none →
    ∀ peerNodeId, w.process.facade.state.onlyPlanned = some peerNodeId →
      w.connection.map PeerConnection.peerNodeId = some peerNodeId) ∧
  ∀ probe nodeId, w.process.lastProbe = some probe → probe.derpNodeId = some nodeId →
    (w.connection.bind fun connection => connection.path.derpNode?) = some nodeId

/-- The probe was on its way to the peer of the active path, or to the only one with a plan, and
over the address of the first path of the plan. -/
def PlannedForProbe : Prop :=
  ∀ route, w.probed = some route →
    ∀ peerNodeId, inferControlReportPeerNodeId w.process.facade.state = some peerNodeId →
      route.peerNodeId = some peerNodeId ∧
        ∀ endpoint, controlReportEndpointForPeer w.process.facade.state peerNodeId =
          some endpoint → endpoint ∈ route.endpoints

def KeepsAttribution (a : ObservedOperation Stream) : Prop :=
  ∀ o ∈ a.sent, match o with
    | .connectionState _ => w.PlannedForConnection
    | .pathHealth _ => w.PlannedForProbe

def AllAttributed (w : ObservedClient Stream) (a : ObservedOperation Stream)
    (_ : ObservedClient Stream) : Prop :=
  ∀ o ∈ a.sent, w.Attributed o

end ObservedClient

end

end Slan.Client
