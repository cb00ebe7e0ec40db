import Slan.Control.Directory
import Slan.System.RelayRanking
import Slan.Client.Observations
import Slan.Ws.SessionMessages

/-! # What the server reads of the client's requests

`serde_json` writes the members of a value in the order of their names. The client gives what it
does not know by leaving it out; the server reads that as empty.
-/

namespace Slan.Client

/-! ## What the client sends -/

/-- What an envelope is sent with, the numbers of a report being of 64 bits. -/
inductive ControlWsRequest where
  | nodeHello (config : ControlWsConfig)
  | networkMapRequest (networkId : String) (lastRevision : UInt64)
  | ping (timestamp : Int64)
  | connectionState (report : ControlWsConnectionStateReport)
  | pathHealthReport (report : ControlWsPathHealthReport)
    (fits : report.sampledAtMs < Json.unsignedBound 64)

namespace ControlWsRequest

def msgType : ControlWsRequest → String
  | nodeHello _ => "node_hello"
  | networkMapRequest _ _ => "network_map_request"
  | ping _ => "ping"
  | connectionState _ => "connection_state"
  | pathHealthReport _ _ => "path_health_report"

def requestId : ControlWsRequest → String
  | nodeHello _ => "node-hello"
  | networkMapRequest _ _ => "network-map"
  | ping _ => "ping"
  | connectionState _ => "connection-state"
  | pathHealthReport _ _ => "path-health"

def number (n : UInt32) : Json := .num n.toNat

def payload : ControlWsRequest → Json
  | nodeHello config => Json.object
      [("capabilities", some (.arr (config.capabilities.map .str))),
        ("deviceId", some (.str config.deviceId)), ("networkId", some (.str config.networkId)),
        ("nodeId", some (.str config.nodeId)),
        ("nodePublicKey", some (.str config.nodePublicKey)),
        ("sessionToken", some (.str config.sessionToken)), ("userId", some (.str config.userId))]
  | networkMapRequest networkId lastRevision => Json.object
      [("lastRevision", some (.num lastRevision.toNat)), ("networkId", some (.str networkId))]
  | ping timestamp => Json.object [("timestamp", some (.num timestamp.toInt))]
  | connectionState report => Json.object
      [("derpNodeId", report.derpNodeId.map .str), ("networkId", some (.str report.networkId)),
        ("observedRttMs", report.observedRttMs.map number),
        ("packetLossPpm", report.packetLossPpm.map number), ("path", some (.str report.path)),
        ("pathScore", report.pathScore.map number), ("peerNodeId", some (.str report.peerNodeId)),
        ("reason", report.reason.map .str), ("state", some (.str report.state))]
  | pathHealthReport report _ => Json.object
      [("derpNodeId", report.derpNodeId.map .str), ("endpoint", report.endpoint.map .str),
        ("networkId", some (.str report.networkId)),
        ("observedRttMs", report.observedRttMs.map number),
        ("packetLossPpm", report.packetLossPpm.map number),
        ("pathScore", report.pathScore.map number), ("pathType", some (.str report.pathType)),
        ("peerNodeId", some (.str report.peerNodeId)),
        ("sampledAtMs", some (.num report.sampledAtMs))]

def envelope (request : ControlWsRequest) : Json :=
  .obj [("type", .str request.msgType), ("requestId", .str request.requestId),
    ("messageId", .null), ("payload", request.payload)]

end ControlWsRequest

end Slan.Client

namespace Slan.Ws

open GoJson
open Control (ErrorKind)

/-! ## `control_ws.go`, `control_ws_handlers.go`: what the server reads -/

structure WsEnvelope where
  envelopeType : String
  requestId : String
  /-- The raw message, if there is one. -/
  payload : Option Json

namespace WsEnvelope

def zero : WsEnvelope := ⟨"", "", none⟩

def fields : List (GoJson.Field WsEnvelope) :=
  [ .always "type" text envelopeType fun a m => { m with envelopeType := a },
    .omitting "requestId" text requestId fun a m => { m with requestId := a },
    .omitting "payload" raw payload fun a m => { m with payload := a } ]

def codec : Codec WsEnvelope := struct fields zero

end WsEnvelope

/-- What a handler makes of its payload. -/
inductive Inbound where
  | nodeHello (hello : NodeHello)
  | ping (ping : Ping)
  | networkMapRequest (req : NetworkMapRequest)
  | endpointReport (report : EndpointReport)
  | connectionState (state : ConnectionState)
  | pathHealthReport (report : PathHealthReport)
  | disconnectNotice (notice : DisconnectNotice)
  | peerCandidate (candidate : PeerCandidate)
  deriving DecidableEq, Repr

/-- `json.Unmarshal` of a raw message; without one it is the end of the input. -/
def unmarshalPayload {α : Type} (codec : Codec α) (payload : Option Json) :
    Except ErrorKind α :=
  match payload.map codec.decode with
  | some (.ok a) => .ok a
  | _ => .error .invalidArgument

namespace WsEnvelope

/-- The dispatch of `handleControlWSMessage`. -/
def inbound (env : WsEnvelope) : Except ErrorKind Inbound :=
  match env.envelopeType with
  | "node_hello" => .nodeHello <$> unmarshalPayload NodeHello.codec env.payload
  | "ping" => .ping <$> unmarshalPayload Ping.codec env.payload
  | "network_map_request" =>
    .networkMapRequest <$> unmarshalPayload NetworkMapRequest.codec env.payload
  | "endpoint_report" => .endpointReport <$> unmarshalPayload EndpointReport.codec env.payload
  | "connection_state" => .connectionState <$> unmarshalPayload ConnectionState.codec env.payload
  | "path_health_report" =>
    .pathHealthReport <$> unmarshalPayload PathHealthReport.codec env.payload
  | "disconnect_notice" =>
    .disconnectNotice <$> unmarshalPayload DisconnectNotice.codec env.payload
  | "peer_candidate" => .peerCandidate <$> unmarshalPayload PeerCandidate.codec env.payload
  | _ => .error .invalidArgument

end WsEnvelope

/-! ## What a request says -/

def PathHealthReport.received (report : PathHealthReport) : Control.PathHealthReport where
  networkId := report.networkId
  peerNodeId := report.peerNodeId
  pathType := report.pathType
  endpoint := report.endpoint
  derpNodeId := report.derpNodeId
  observedRttMs := report.observedRttMs
  packetLossPpm := report.packetLossPpm
  pathScore := report.pathScore
  sampledAtMs := report.sampledAtMs.toNat

open Client (ControlWsRequest)

def helloOf (config : Client.ControlWsConfig) : NodeHello where
  userId := config.userId
  deviceId := config.deviceId
  nodeId := config.nodeId
  networkId := config.networkId
  sessionToken := config.sessionToken
  nodePublicKey := config.nodePublicKey
  capabilities := config.capabilities

def stateOf (report : Client.ControlWsConnectionStateReport) : ConnectionState where
  networkId := report.networkId
  peerNodeId := report.peerNodeId
  path := report.path
  state := report.state
  reason := report.reason.getD ""
  observedRttMs := report.observedRttMs
  packetLossPpm := report.packetLossPpm
  pathScore := report.pathScore
  derpNodeId := report.derpNodeId.getD ""

def pathHealthOf (report : Client.ControlWsPathHealthReport) : PathHealthReport where
  networkId := report.networkId
  peerNodeId := report.peerNodeId
  pathType := report.pathType
  endpoint := report.endpoint.getD ""
  derpNodeId := report.derpNodeId.getD ""
  observedRttMs := report.observedRttMs
  packetLossPpm := report.packetLossPpm
  pathScore := report.pathScore
  sampledAtMs := .ofNat report.sampledAtMs

/-- What a client says, in the server's types. -/
def saidBy : ControlWsRequest → Inbound
  | .nodeHello config => .nodeHello (helloOf config)
  | .networkMapRequest networkId lastRevision => .networkMapRequest ⟨networkId, lastRevision⟩
  | .ping timestamp => .ping ⟨timestamp⟩
  | .connectionState report => .connectionState (stateOf report)
  | .pathHealthReport report _ => .pathHealthReport (pathHealthOf report)

/-- The report that the plans are ranked by is the one that the client took. -/
theorem received_pathHealthOf {report : Client.ControlWsPathHealthReport}
    (fits : report.sampledAtMs < Json.unsignedBound 64) :
    (pathHealthOf report).received = System.receivedReport report := by
  unfold PathHealthReport.received System.receivedReport pathHealthOf
  rw [UInt64.toNat_ofNat_of_lt' fits]

/-! ## What is read is what was said -/

section Given

variable {σ : Type} {s : σ} {name : String}

theorem gives_string {get : σ → String} {set : String → σ → σ} {a : String} (h : get s = a) :
    (Field.always name text get set).Gives s (some (.str a)) :=
  gives_always (lawful_text a) h

theorem gives_texts {get : σ → List String} {set : List String → σ → σ} {items : List String}
    (h : get s = items) :
    (Field.omitting name (slice text) get set).Gives s (some (.arr (items.map .str))) :=
  gives_omitting (a := some items) (fun b _ => lawful_slice lawful_text b) h

theorem gives_someString {get : σ → String} {set : String → σ → σ} {a : Option String}
    (h : get s = a.getD "") :
    (Field.omitting name text get set).Gives s (a.map .str) :=
  gives_omitting (fun b _ => lawful_text b) h

theorem gives_number {get : σ → Option UInt32} {set : Option UInt32 → σ → σ} {a : Option UInt32}
    (h : get s = a) :
    (Field.omitting name (pointer uint32) get set).Gives s (a.map ControlWsRequest.number) := by
  have hencode : ControlWsRequest.number = uint32.encode := by
    funext n
    rw [encode_uint32, ControlWsRequest.number]
  rw [hencode]
  refine gives_pointer (fun b _ => ?_) h
  exact lawful_pointer lawful_uint32 (fun n => by rw [encode_uint32]; exact nofun) (some b)

theorem gives_unsigned {get : σ → UInt64} {set : UInt64 → σ → σ} {n : Nat}
    (hfits : n < Json.unsignedBound 64) (h : get s = .ofNat n) :
    (Field.omitting name uint64 get set).Gives s (some (.num n)) := by
  have hencode : Json.num n = uint64.encode (.ofNat n) := by
    rw [encode_uint64, UInt64.toNat_ofNat_of_lt' hfits]
  rw [hencode]
  exact gives_omitting (a := some (UInt64.ofNat n)) (fun m _ => lawful_uint64 m) h

end Given

theorem decode_envelope (msgType requestId : String) (payload : Json) :
    WsEnvelope.codec.decode (.obj [("type", .str msgType), ("requestId", .str requestId),
      ("messageId", .null), ("payload", payload)]) =
        .ok ⟨msgType, requestId, some payload⟩ := by
  have hread : [("type", Json.str msgType), ("requestId", .str requestId), ("messageId", .null),
      ("payload", payload)].foldlM (read WsEnvelope.fields) .zero =
        .ok ⟨msgType, requestId, some payload⟩ := by
    rfl
  change List.foldlM (read (visible WsEnvelope.fields)) WsEnvelope.zero _ = _
  rw [visible_of_nodup (by decide)]
  exact hread

theorem decode_nodeHello (config : Client.ControlWsConfig) :
    NodeHello.codec.decode (ControlWsRequest.nodeHello config).payload =
      .ok (helloOf config) :=
  unmarshal_given (by decide) [6, 1, 3, 2, 5, 4, 0]
    (.cons ⟨rfl, gives_texts rfl⟩ <| .cons ⟨rfl, gives_string rfl⟩ <|
      .cons ⟨rfl, gives_string rfl⟩ <| .cons ⟨rfl, gives_string rfl⟩ <|
      .cons ⟨rfl, gives_string rfl⟩ <| .cons ⟨rfl, gives_string rfl⟩ <|
      .cons ⟨rfl, gives_string rfl⟩ .nil)
    ⟨rfl, rfl, rfl, rfl, rfl, rfl, rfl, trivial⟩ rfl

theorem decode_networkMapRequest (networkId : String) (lastRevision : UInt64) :
    NetworkMapRequest.codec.decode
      (ControlWsRequest.networkMapRequest networkId lastRevision).payload =
        .ok ⟨networkId, lastRevision⟩ := by
  have hnumber : Json.num lastRevision.toNat = uint64.encode lastRevision := by
    rw [encode_uint64]
  refine unmarshal_given (by decide) [1, 0]
    (.cons ⟨rfl, ?_⟩ <| .cons ⟨rfl, gives_string rfl⟩ .nil) ⟨rfl, rfl, trivial⟩ rfl
  rw [hnumber]
  exact gives_always (lawful_uint64 lastRevision) rfl

theorem decode_ping (timestamp : Int64) :
    Ping.codec.decode (ControlWsRequest.ping timestamp).payload = .ok ⟨timestamp⟩ :=
  unmarshal_given (by decide) [0] (.cons ⟨rfl, gives_always (lawful_int timestamp) rfl⟩ .nil)
    ⟨rfl, trivial⟩ rfl

theorem decode_connectionState (report : Client.ControlWsConnectionStateReport) :
    ConnectionState.codec.decode (ControlWsRequest.connectionState report).payload =
      .ok (stateOf report) :=
  unmarshal_given (by decide) [8, 0, 5, 6, 2, 7, 1, 4, 3]
    (.cons ⟨rfl, gives_someString rfl⟩ <| .cons ⟨rfl, gives_string rfl⟩ <|
      .cons ⟨rfl, gives_number rfl⟩ <| .cons ⟨rfl, gives_number rfl⟩ <|
      .cons ⟨rfl, gives_string rfl⟩ <| .cons ⟨rfl, gives_number rfl⟩ <|
      .cons ⟨rfl, gives_string rfl⟩ <| .cons ⟨rfl, gives_someString rfl⟩ <|
      .cons ⟨rfl, gives_string rfl⟩ .nil)
    ⟨rfl, rfl, rfl, rfl, rfl, rfl, rfl, rfl, rfl, trivial⟩ rfl

theorem decode_pathHealthReport (report : Client.ControlWsPathHealthReport)
    (fits : report.sampledAtMs < Json.unsignedBound 64) :
    PathHealthReport.codec.decode (ControlWsRequest.pathHealthReport report fits).payload =
      .ok (pathHealthOf report) :=
  unmarshal_given (by decide) [4, 3, 0, 5, 6, 7, 2, 1, 8]
    (.cons ⟨rfl, gives_someString rfl⟩ <| .cons ⟨rfl, gives_someString rfl⟩ <|
      .cons ⟨rfl, gives_string rfl⟩ <| .cons ⟨rfl, gives_number rfl⟩ <|
      .cons ⟨rfl, gives_number rfl⟩ <| .cons ⟨rfl, gives_number rfl⟩ <|
      .cons ⟨rfl, gives_string rfl⟩ <| .cons ⟨rfl, gives_string rfl⟩ <|
      .cons ⟨rfl, gives_unsigned fits rfl⟩ .nil)
    ⟨rfl, rfl, rfl, rfl, rfl, rfl, rfl, rfl, rfl, trivial⟩ rfl
theorem unmarshalPayload_some {α : Type} {codec : Codec α} {v : Json} {a : α}
    (h : codec.decode v = .ok a) : unmarshalPayload codec (some v) = .ok a := by
  unfold unmarshalPayload
  rw [Option.map_some, h]

/-- The server makes of each request of a client what the client says. -/
theorem read_request (request : ControlWsRequest) :
    ∃ env, WsEnvelope.codec.decode request.envelope = .ok env ∧
      env.envelopeType = request.msgType ∧ env.requestId = request.requestId ∧
      env.inbound = .ok (saidBy request) := by
  refine ⟨_, decode_envelope _ _ _, rfl, rfl, ?_⟩
  cases request with
  | nodeHello config =>
    exact congrArg (Inbound.nodeHello <$> ·) (unmarshalPayload_some (decode_nodeHello config))
  | networkMapRequest networkId lastRevision =>
    exact congrArg (Inbound.networkMapRequest <$> ·)
      (unmarshalPayload_some (decode_networkMapRequest networkId lastRevision))
  | ping timestamp =>
    exact congrArg (Inbound.ping <$> ·) (unmarshalPayload_some (decode_ping timestamp))
  | connectionState report =>
    exact congrArg (Inbound.connectionState <$> ·)
      (unmarshalPayload_some (decode_connectionState report))
  | pathHealthReport report fits =>
    exact congrArg (Inbound.pathHealthReport <$> ·)
      (unmarshalPayload_some (decode_pathHealthReport report fits))

end Slan.Ws
