import Slan.Client.RelayProtocol
import Slan.Relay.Runtime

/-! # The relay client's datagrams as the daemon reads them, and back

A datagram is its JSON value: text and value determine each other on both sides.
-/

namespace Slan.System

open Slan.Relay Slan.Client

/-! ## Requests -/

theorem decode_ping : ClientRequest.decode RelayDaemonRequest.ping.encode = .ok .ping := rfl

theorem decode_forward (sessionId fromParticipantId payloadB64 : String) :
    ClientRequest.decode (RelayDaemonRequest.forward sessionId fromParticipantId payloadB64).encode =
      .ok (.forward sessionId fromParticipantId payloadB64) := rfl

theorem decode_detach (sessionId participantId : String) :
    ClientRequest.decode (RelayDaemonRequest.detach sessionId participantId).encode =
      .ok (.detach sessionId participantId) := rfl

/-- The daemon looks for `ticket_id` where the client has written `ticketId`. -/
theorem decode_ticket (ticket : Client.RelayTicket) :
    RelayTicketWire.decode ticket.encode = .error (.missingField "ticket_id") := rfl

theorem decode_attach (participantId : String) (ticket : Client.RelayTicket) :
    ClientRequest.decode (RelayDaemonRequest.attach participantId ticket).encode =
      .error (.missingField "ticket_id") := by
  have hticket := decode_ticket ticket
  change (do
    let decoded ← RelayTicketWire.decode ticket.encode
    return ClientRequest.attach participantId decoded) = _
  rw [hticket]
  rfl

/-! ## Responses -/

/-- A daemon's response as the client has it. -/
def received : ServerResponse → RelayDaemonResponse
  | .pong => .pong
  | .attached ack => .attached ack.sessionId ack.peerParticipantId
  | .forwarded ack => .forwarded ack.sessionId ack.toParticipantId ack.bytesForwarded
  | .detached sessionId participantId => .detached sessionId participantId
  | .packet message =>
    .packet message.sessionId message.fromParticipantId message.payloadB64
  | .error response => .error (some response.code) response.message

/-- The client reads every response as it was sent, the byte count fitting a machine word. -/
theorem decode_response (response : ServerResponse)
    (h : ∀ ack, response = .forwarded ack → ack.bytesForwarded < Json.unsignedBound 64) :
    RelayDaemonResponse.decode response.encode = .ok (received response) := by
  cases response with
  | pong => rfl
  | attached ack => rfl
  | forwarded ack =>
    have hfield : ∀ d : Json.Decoder Nat, Json.required "bytes_forwarded" d
        [("kind", .str "forwarded"), ("session_id", .str ack.sessionId),
          ("to_participant_id", .str ack.toParticipantId),
          ("bytes_forwarded", .num ack.bytesForwarded)] = d (.num ack.bytesForwarded) :=
      fun _ => rfl
    simp only [ServerResponse.encode, RelayDaemonResponse.decode]
    rw [hfield, Json.unsigned_num (h ack rfl)]
    rfl
  | detached sessionId participantId => rfl
  | packet message => rfl
  | error response => rfl

/-! ## Tickets -/

/-- Field by field the same ticket; the daemon has no key where the client has none. -/
structure SameTicket (sent : Client.RelayTicket) (got : Relay.RelayTicket) : Prop where
  ticketId : got.ticketId = sent.ticketId
  networkId : got.networkId = sent.networkId
  sessionId : got.sessionId = sent.sessionId
  srcNodeId : got.srcNodeId = sent.srcNodeId
  dstNodeId : got.dstNodeId = sent.dstNodeId
  derpClusterId : got.derpClusterId = sent.derpClusterId
  countryCode : got.countryCode = sent.countryCode
  cityCode : got.cityCode = sent.cityCode
  allowedDerpNodeIds : got.allowedDerpNodeIds = sent.allowedDerpNodeIds
  relayUrl : got.relayUrl = sent.relayUrl
  expiresAt : got.expiresAt = sent.expiresAt
  sessionKey : got.sessionKey = sent.sessionKey.getD ""
  signature : got.signature = sent.signature

/-- The daemon accepts the client's attach and has the client's ticket. -/
def TicketAgrees (participantId : String) (ticket : Client.RelayTicket) : Prop :=
  ∃ wire, ClientRequest.decode (RelayDaemonRequest.attach participantId ticket).encode =
    .ok (.attach participantId wire) ∧ SameTicket ticket (toRelayTicket wire)

/-- The two sides agree on no ticket at all. -/
theorem not_ticketAgrees (participantId : String) (ticket : Client.RelayTicket) :
    ¬TicketAgrees participantId ticket := by
  rintro ⟨wire, hdecode, _⟩
  rw [decode_attach] at hdecode
  cases hdecode

/-- A ticket as the control plane issues it. -/
def clientTicket : Client.RelayTicket where
  ticketId := "ticket-1"
  networkId := "net-1"
  sessionId := "session-1"
  srcNodeId := "node-a"
  dstNodeId := "node-b"
  derpClusterId := none
  countryCode := none
  cityCode := none
  allowedDerpNodeIds := []
  relayUrl := "udp://127.0.0.1:9000"
  expiresAt := "4102444800"
  sessionKey := some "session-key-1"
  signature := "sig"

/-- The attach for it is refused. -/
theorem clientTicket_refused : ¬∀ participantId ticket, TicketAgrees participantId ticket := by
  intro h
  obtain ⟨wire, hdecode, _⟩ := h "node-a" clientTicket
  have hrefused : ClientRequest.decode (RelayDaemonRequest.attach "node-a" clientTicket).encode =
      .error (.missingField "ticket_id") := rfl
  rw [hrefused] at hdecode
  cases hdecode

end Slan.System
