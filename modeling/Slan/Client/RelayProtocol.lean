import Slan.Lib.Json
import Slan.Lib.Text

/-! # `relay-client`: the requests and responses of the relay daemon as the client has them -/

namespace Slan.Client

/-- The ticket as the client holds it. -/
structure RelayTicket where
  ticketId : String
  networkId : String
  sessionId : String
  srcNodeId : String
  dstNodeId : String
  derpClusterId : Option String
  countryCode : Option String
  cityCode : Option String
  allowedDerpNodeIds : List String
  relayUrl : String
  expiresAt : String
  sessionKey : Option String
  signature : String
  deriving DecidableEq, Repr

inductive RelayDaemonRequest where
  | ping
  | attach (participantId : String) (ticket : RelayTicket)
  | forward (sessionId fromParticipantId payloadB64 : String)
  | detach (sessionId participantId : String)
  deriving DecidableEq, Repr

inductive RelayDaemonResponse where
  | pong
  | attached (sessionId peerParticipantId : String)
  | forwarded (sessionId toParticipantId : String) (bytesForwarded : Nat)
  | detached (sessionId participantId : String)
  | packet (sessionId fromParticipantId payloadB64 : String)
  | error (code : Option String) (message : String)
  deriving DecidableEq, Repr

/-! ## JSON forms -/

/-- The field names are in camel case, unlike those of the requests around it. -/
def RelayTicket.encode (ticket : RelayTicket) : Json :=
  .obj [("ticketId", .str ticket.ticketId), ("networkId", .str ticket.networkId),
    ("sessionId", .str ticket.sessionId), ("srcNodeId", .str ticket.srcNodeId),
    ("dstNodeId", .str ticket.dstNodeId),
    ("derpClusterId", Json.ofOption .str ticket.derpClusterId),
    ("countryCode", Json.ofOption .str ticket.countryCode),
    ("cityCode", Json.ofOption .str ticket.cityCode),
    ("allowedDerpNodeIds", .arr (ticket.allowedDerpNodeIds.map .str)),
    ("relayUrl", .str ticket.relayUrl), ("expiresAt", .str ticket.expiresAt),
    ("sessionKey", Json.ofOption .str ticket.sessionKey), ("signature", .str ticket.signature)]

def RelayDaemonRequest.encode : RelayDaemonRequest → Json
  | .ping => .obj [("kind", .str "ping")]
  | .attach participantId ticket =>
    .obj [("kind", .str "attach"), ("participant_id", .str participantId),
      ("ticket", ticket.encode)]
  | .forward sessionId fromParticipantId payloadB64 =>
    .obj [("kind", .str "forward"), ("session_id", .str sessionId),
      ("from_participant_id", .str fromParticipantId), ("payload_b64", .str payloadB64)]
  | .detach sessionId participantId =>
    .obj [("kind", .str "detach"), ("session_id", .str sessionId),
      ("participant_id", .str participantId)]

def RelayDaemonResponse.decode : Json.Decoder RelayDaemonResponse
  | .obj members => do
    match ← Json.required "kind" Json.string members with
    | "pong" => return .pong
    | "attached" =>
      let sessionId ← Json.required "session_id" Json.string members
      let peerParticipantId ← Json.required "peer_participant_id" Json.string members
      return .attached sessionId peerParticipantId
    | "forwarded" =>
      let sessionId ← Json.required "session_id" Json.string members
      let toParticipantId ← Json.required "to_participant_id" Json.string members
      let bytesForwarded ← Json.required "bytes_forwarded" (Json.unsigned 64) members
      return .forwarded sessionId toParticipantId bytesForwarded
    | "detached" =>
      let sessionId ← Json.required "session_id" Json.string members
      let participantId ← Json.required "participant_id" Json.string members
      return .detached sessionId participantId
    | "packet" =>
      let sessionId ← Json.required "session_id" Json.string members
      let fromParticipantId ← Json.required "from_participant_id" Json.string members
      let payloadB64 ← Json.required "payload_b64" Json.string members
      return .packet sessionId fromParticipantId payloadB64
    | "error" =>
      let code ← Json.optional "code" Json.string members
      let message ← Json.required "message" Json.string members
      return .error code message
    | kind => .error (.unknownVariant kind)
  | _ => .error (.invalidType "internally tagged enum RelayDaemonResponse")

/-! ## Errors -/

inductive RelayDaemonErrorCode where
  | invalidTicket
  | invalidSignature
  | invalidTimestamp
  | ticketExpired
  | sessionNotFound
  | sessionAlreadyExists
  | unauthorizedPeer
  | emptyPayload
  | clockSkew
  | storeError
  | participantNotInTicket
  | sessionConflict
  | sessionNotAttached
  | participantNotAttached
  | participantAddressMismatch
  | invalidPayloadB64
  | peerNotAttached
  | unknown (value : String)
  deriving DecidableEq, Repr

namespace RelayDaemonErrorCode

def ofText : String → RelayDaemonErrorCode
  | "invalid_ticket" => .invalidTicket
  | "invalid_signature" => .invalidSignature
  | "invalid_timestamp" => .invalidTimestamp
  | "ticket_expired" => .ticketExpired
  | "session_not_found" => .sessionNotFound
  | "session_already_exists" => .sessionAlreadyExists
  | "unauthorized_peer" => .unauthorizedPeer
  | "empty_payload" => .emptyPayload
  | "clock_skew" => .clockSkew
  | "store_error" => .storeError
  | "participant_not_in_ticket" => .participantNotInTicket
  | "session_conflict" => .sessionConflict
  | "session_not_attached" => .sessionNotAttached
  | "participant_not_attached" => .participantNotAttached
  | "participant_address_mismatch" => .participantAddressMismatch
  | "invalid_payload_b64" => .invalidPayloadB64
  | "peer_not_attached" => .peerNotAttached
  | other => .unknown other

def parse (value : Option String) : Option RelayDaemonErrorCode := do
  let value := Text.trim (← value)
  if value = "" then none else some (ofText value)

def asStr : RelayDaemonErrorCode → String
  | .invalidTicket => "invalid_ticket"
  | .invalidSignature => "invalid_signature"
  | .invalidTimestamp => "invalid_timestamp"
  | .ticketExpired => "ticket_expired"
  | .sessionNotFound => "session_not_found"
  | .sessionAlreadyExists => "session_already_exists"
  | .unauthorizedPeer => "unauthorized_peer"
  | .emptyPayload => "empty_payload"
  | .clockSkew => "clock_skew"
  | .storeError => "store_error"
  | .participantNotInTicket => "participant_not_in_ticket"
  | .sessionConflict => "session_conflict"
  | .sessionNotAttached => "session_not_attached"
  | .participantNotAttached => "participant_not_attached"
  | .participantAddressMismatch => "participant_address_mismatch"
  | .invalidPayloadB64 => "invalid_payload_b64"
  | .peerNotAttached => "peer_not_attached"
  | .unknown value => value

/-- Every code keeps its text, the unknown ones included. -/
theorem asStr_ofText (value : String) : (ofText value).asStr = value := by
  unfold ofText
  split <;> rfl

end RelayDaemonErrorCode

structure RelayDaemonError where
  code : Option RelayDaemonErrorCode
  message : String
  deriving DecidableEq, Repr

structure RelayClientError where
  code : Option String
  message : String
  deriving DecidableEq, Repr

namespace RelayDaemonError

def fromWire (code : Option String) (message : String) : RelayDaemonError :=
  ⟨RelayDaemonErrorCode.parse code, message⟩

def formatWithPrefix (e : RelayDaemonError) (pre : String) : String :=
  match e.code with
  | some code => pre ++ " [" ++ code.asStr ++ "]: " ++ e.message
  | none => pre ++ ": " ++ e.message

def intoClientError (e : RelayDaemonError) (pre : String) : RelayClientError :=
  ⟨e.code.map RelayDaemonErrorCode.asStr, e.formatWithPrefix pre⟩

end RelayDaemonError

end Slan.Client
