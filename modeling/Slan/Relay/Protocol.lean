import Slan.Relay.Ticket

/-! # `relay-daemon/protocol`: the daemon's requests and responses -/

namespace Slan.Relay

/-- The ticket as a request carries it. -/
structure RelayTicketWire where
  ticketId : String
  networkId : String
  sessionId : String
  srcNodeId : String
  dstNodeId : String
  derpClusterId : Option String
  countryCode : Option String
  cityCode : Option String
  allowedDerpNodeIds : List String
  relayUrl : String
  expiresAt : String
  sessionKey : String
  signature : String
  deriving DecidableEq, Repr

inductive ClientRequest where
  | ping
  | attach (participantId : String) (ticket : RelayTicketWire)
  | forward (sessionId fromParticipantId payloadB64 : String)
  | detach (sessionId participantId : String)
  deriving DecidableEq, Repr

structure AttachAck where
  sessionId : String
  peerParticipantId : String
  deriving DecidableEq, Repr

structure ForwardAck where
  sessionId : String
  toParticipantId : String
  bytesForwarded : Nat
  deriving DecidableEq, Repr

structure RelayPacketMessage where
  sessionId : String
  fromParticipantId : String
  payloadB64 : String
  deriving DecidableEq, Repr

structure ErrorResponse where
  code : String
  message : String
  deriving DecidableEq, Repr

inductive ServerResponse where
  | pong
  | attached (ack : AttachAck)
  | forwarded (ack : ForwardAck)
  | detached (sessionId participantId : String)
  | packet (message : RelayPacketMessage)
  | error (response : ErrorResponse)
  deriving DecidableEq, Repr

def toRelayTicket (ticket : RelayTicketWire) : RelayTicket where
  ticketId := ticket.ticketId
  networkId := ticket.networkId
  sessionId := ticket.sessionId
  srcNodeId := ticket.srcNodeId
  dstNodeId := ticket.dstNodeId
  derpClusterId := ticket.derpClusterId
  countryCode := ticket.countryCode
  cityCode := ticket.cityCode
  allowedDerpNodeIds := ticket.allowedDerpNodeIds
  relayUrl := ticket.relayUrl
  expiresAt := ticket.expiresAt
  sessionKey := ticket.sessionKey
  signature := ticket.signature

@[simp] theorem toRelayTicket_sessionId (ticket : RelayTicketWire) :
    (toRelayTicket ticket).sessionId = ticket.sessionId := rfl

/-! ## JSON forms -/

def RelayTicketWire.decode : Json.Decoder RelayTicketWire
  | .obj members => do
    let ticketId ← Json.required "ticket_id" Json.string members
    let networkId ← Json.required "network_id" Json.string members
    let sessionId ← Json.required "session_id" Json.string members
    let srcNodeId ← Json.required "src_node_id" Json.string members
    let dstNodeId ← Json.required "dst_node_id" Json.string members
    let derpClusterId ← Json.optional "derp_cluster_id" Json.string members
    let countryCode ← Json.optional "country_code" Json.string members
    let cityCode ← Json.optional "city_code" Json.string members
    let allowedDerpNodeIds ←
      Json.defaulted "allowed_derp_node_ids" (Json.list Json.string) [] members
    let relayUrl ← Json.required "relay_url" Json.string members
    let expiresAt ← Json.required "expires_at" Json.string members
    let sessionKey ← Json.defaulted "session_key" Json.string "" members
    let signature ← Json.required "signature" Json.string members
    return {
      ticketId, networkId, sessionId, srcNodeId, dstNodeId, derpClusterId, countryCode, cityCode,
      allowedDerpNodeIds, relayUrl, expiresAt, sessionKey, signature }
  | _ => .error (.invalidType "struct RelayTicketWire")

/-- The member `kind` chooses the variant, the other members are its fields. -/
def ClientRequest.decode : Json.Decoder ClientRequest
  | .obj members => do
    match ← Json.required "kind" Json.string members with
    | "ping" => return .ping
    | "attach" =>
      let participantId ← Json.required "participant_id" Json.string members
      let ticket ← Json.required "ticket" RelayTicketWire.decode members
      return .attach participantId ticket
    | "forward" =>
      let sessionId ← Json.required "session_id" Json.string members
      let fromParticipantId ← Json.required "from_participant_id" Json.string members
      let payloadB64 ← Json.required "payload_b64" Json.string members
      return .forward sessionId fromParticipantId payloadB64
    | "detach" =>
      let sessionId ← Json.required "session_id" Json.string members
      let participantId ← Json.required "participant_id" Json.string members
      return .detach sessionId participantId
    | kind => .error (.unknownVariant kind)
  | _ => .error (.invalidType "internally tagged enum ClientRequest")

def ServerResponse.encode : ServerResponse → Json
  | .pong => .obj [("kind", .str "pong")]
  | .attached ack =>
    .obj [("kind", .str "attached"), ("session_id", .str ack.sessionId),
      ("peer_participant_id", .str ack.peerParticipantId)]
  | .forwarded ack =>
    .obj [("kind", .str "forwarded"), ("session_id", .str ack.sessionId),
      ("to_participant_id", .str ack.toParticipantId), ("bytes_forwarded", .num ack.bytesForwarded)]
  | .detached sessionId participantId =>
    .obj [("kind", .str "detached"), ("session_id", .str sessionId),
      ("participant_id", .str participantId)]
  | .packet message =>
    .obj [("kind", .str "packet"), ("session_id", .str message.sessionId),
      ("from_participant_id", .str message.fromParticipantId),
      ("payload_b64", .str message.payloadB64)]
  | .error response =>
    .obj [("kind", .str "error"), ("code", .str response.code), ("message", .str response.message)]

end Slan.Relay
