import Slan.Lib.Base64
import Slan.Client.RelayProtocol

/-! # `SocketRelayClient`: connect, send, poll

Each call is cut at its socket operations: the request it sends, and what it makes of the
datagram it reads, `none` where the read timed out or found nothing.
-/

namespace Slan.Client

/-- Texts that Rust and its crates produce. -/
structure Texts where
  debugResponse : RelayDaemonResponse → String
  jsonError : Json.DecodeError → String
  base64Error : String → String

/-- `str::split_once`, on characters. -/
def splitOnce (sep : List Char) : List Char → Option (List Char × List Char)
  | [] => if sep = [] then some ([], []) else none
  | c :: cs =>
    if sep.isPrefixOf (c :: cs) then some ([], (c :: cs).drop sep.length)
    else (splitOnce sep cs).map fun (before, after) => (c :: before, after)

structure RelayClientState where
  relayUrl : Option String
  sessionId : Option String
  localParticipantId : Option String
  peerParticipantId : Option String
  /-- The only kind of socket that `connect` installs is a UDP one. -/
  activeSocket : Bool
  deriving DecidableEq, Repr

def RelayClientError.ofMessage (message : String) : RelayClientError := ⟨none, message⟩

namespace SocketRelayClient

/-- `read_udp_response`, after the receive. -/
def readUdpResponse (texts : Texts) :
    Option Json → Except RelayClientError (Option RelayDaemonResponse)
  | none => .ok none
  | some datagram =>
    match RelayDaemonResponse.decode datagram with
    | .ok response => .ok (some response)
    | .error err => .error (.ofMessage ("decode relay daemon response failed: " ++
        texts.jsonError err))

/-- What `connect` sends. -/
def attachRequest (ticket : RelayTicket) : Except RelayClientError RelayDaemonRequest :=
  match splitOnce "://".toList ticket.relayUrl.toList with
  | none => .error (.ofMessage ("invalid relay url: " ++ ticket.relayUrl))
  | some (scheme, _) =>
    match String.ofList scheme with
    | "tcp" =>
      .error (.ofMessage "tcp relay daemon protocol not implemented; use udp relay url")
    | "udp" => .ok (.attach ticket.srcNodeId ticket)
    | other => .error (.ofMessage ("unsupported relay url scheme: " ++ other))

/-- What `connect` makes of the answer. -/
def connected (texts : Texts) (ticket : RelayTicket) (answer : Option Json) :
    Except RelayClientError RelayClientState := do
  match ← readUdpResponse texts answer with
  | none => .error (.ofMessage "timed out waiting for relay attach response")
  | some (.attached sessionId peerParticipantId) =>
    return ⟨some ticket.relayUrl, some sessionId, some ticket.srcNodeId, some peerParticipantId,
      true⟩
  | some (.error code message) =>
    .error ((RelayDaemonError.fromWire code message).intoClientError "relay attach failed")
  | some other =>
    .error (.ofMessage ("unexpected relay attach response: " ++ texts.debugResponse other))

/-- What `send_transport_packet` sends, with the session it will expect in the answer. -/
def forwardRequest (state : RelayClientState) (packet : List UInt8) :
    Except RelayClientError (String × RelayDaemonRequest) :=
  if packet = [] then .error (.ofMessage "cannot send empty packet via relay")
  else if state.activeSocket = false then
    .error (.ofMessage "relay client has no active connection")
  else
    match state.sessionId, state.localParticipantId with
    | none, _ => .error (.ofMessage "relay client has no attached session")
    | some _, none => .error (.ofMessage "relay client has no local participant id")
    | some sessionId, some fromParticipantId =>
      .ok (sessionId, .forward sessionId fromParticipantId (Base64.encodeStandard packet))

/-- What `send_transport_packet` makes of the answer. -/
def forwardAcknowledged (texts : Texts) (sessionId : String) (packet : List UInt8)
    (answer : Option Json) : Except RelayClientError Unit := do
  match ← readUdpResponse texts answer with
  | none => .error (.ofMessage "timed out waiting for relay forward ack")
  | some (.forwarded ackSessionId _ bytesForwarded) =>
    if ackSessionId ≠ sessionId then
      .error (.ofMessage ("relay forward ack session mismatch: expected " ++ sessionId ++
        ", got " ++ ackSessionId))
    else if bytesForwarded ≠ packet.length then
      .error (.ofMessage ("relay forward ack bytes mismatch: expected " ++
        toString packet.length ++ ", got " ++ toString bytesForwarded))
    else .ok ()
  | some (.error code message) =>
    .error ((RelayDaemonError.fromWire code message).intoClientError "relay forward failed")
  | some other =>
    .error (.ofMessage ("unexpected relay forward response: " ++ texts.debugResponse other))

/-- `poll_transport_packet` on a connected client: what it makes of the datagram it finds. -/
def polled (texts : Texts) (datagram : Option Json) :
    Except RelayClientError (Option (List UInt8)) := do
  match ← readUdpResponse texts datagram with
  | some (.packet _ _ payloadB64) =>
    match Base64.decodeStandard payloadB64 with
    | some payload => .ok (some payload)
    | none => .error (.ofMessage ("decode relay packet payload failed: " ++
        texts.base64Error payloadB64))
  | some (.error code message) =>
    .error ((RelayDaemonError.fromWire code message).intoClientError "relay receive failed")
  | some _ => .ok none
  | none => .ok none

end SocketRelayClient

end Slan.Client
