import Slan.Lib.Table
import Slan.Relay.Protocol
import Slan.Relay.Validator

/-! # `relay-daemon/runtime`: attach, forward, detach -/

namespace Slan.Relay

structure SocketAddr where
  ip : String
  port : UInt16
  deriving DecidableEq, Repr

/-- What the daemon takes from other crates: the HMAC, and the text of a base64 decoding error. -/
structure Crates where
  hmacSha256 : Mac
  base64Error : String → String

/-! ## `udp-relay` over the in-memory session store -/

structure RelayPacket where
  sessionId : String
  fromDeviceId : String
  payload : List UInt8
  deriving DecidableEq, Repr

structure ForwardedPacket where
  sessionId : String
  toDeviceId : String
  payload : List UInt8
  deriving DecidableEq, Repr

structure UdpRelay where
  store : Table RelaySession
  validator : StaticTicketValidator

namespace UdpRelay

def attach (relay : UdpRelay) (session : RelaySession) : Except RelayError UdpRelay :=
  match relay.store.get? session.sessionId with
  | some _ => .error .sessionAlreadyExists
  | none => .ok { relay with store := relay.store.put session.sessionId session }

def attachWithTicket (relay : UdpRelay) (crates : Crates) (now : Int) (ticket : RelayTicket)
    (session : RelaySession) : Except RelayError UdpRelay := do
  relay.validator.validate crates.hmacSha256 now ticket
  relay.attach session

def session (relay : UdpRelay) (sessionId : String) : Except RelayError RelaySession :=
  match relay.store.get? sessionId with
  | some session => .ok session
  | none => .error .sessionNotFound

def detach (relay : UdpRelay) (sessionId : String) : Except RelayError UdpRelay :=
  match relay.store.get? sessionId with
  | some _ => .ok { relay with store := relay.store.remove sessionId }
  | none => .error .sessionNotFound

def forward (relay : UdpRelay) (packet : RelayPacket) : Except RelayError ForwardedPacket :=
  if packet.payload = [] then .error .emptyPayload
  else do
    let session ← relay.session packet.sessionId
    let peer ← session.peerOf packet.fromDeviceId
    return ⟨packet.sessionId, peer, packet.payload⟩

end UdpRelay

/-! ## The runtime -/

structure RelayRuntimeError where
  code : String
  message : String
  deriving DecidableEq, Repr

def relayRuntimeError (err : RelayError) : RelayRuntimeError where
  code := match err with
    | .invalidTicket => "invalid_ticket"
    | .invalidSignature => "invalid_signature"
    | .invalidTimestamp => "invalid_timestamp"
    | .ticketExpired => "ticket_expired"
    | .sessionNotFound => "session_not_found"
    | .sessionAlreadyExists => "session_already_exists"
    | .unauthorizedPeer => "unauthorized_peer"
    | .emptyPayload => "empty_payload"
    | .clockSkew => "clock_skew"
    | .store _ => "store_error"
  message := err.toString

structure RelayRuntime where
  relay : UdpRelay
  endpoints : Table (Table SocketAddr)

/-- The answer to the source, and a packet for another address. -/
abbrev Reply := ServerResponse × Option (SocketAddr × ServerResponse)

abbrev Outcome := Except RelayRuntimeError Reply × RelayRuntime

namespace RelayRuntime

def new (relayUrlPrefix ticketSigningSecret : Option String) : RelayRuntime where
  relay := ⟨∅, .withOptions relayUrlPrefix ticketSigningSecret⟩
  endpoints := ∅

def participantNotInTicket : RelayRuntimeError :=
  ⟨"participant_not_in_ticket", "participant is not part of relay ticket"⟩

def sessionConflict : RelayRuntimeError :=
  ⟨"session_conflict", "relay session already exists with different participants"⟩

def sessionNotAttached : RelayRuntimeError :=
  ⟨"session_not_attached", "relay session has no attached participants"⟩

def participantNotAttached : RelayRuntimeError :=
  ⟨"participant_not_attached", "participant has not attached to relay session"⟩

def participantAddressMismatch : RelayRuntimeError :=
  ⟨"participant_address_mismatch", "participant is bound to a different udp address"⟩

def invalidPayloadB64 (err : String) : RelayRuntimeError :=
  ⟨"invalid_payload_b64", "invalid payload_b64: " ++ err⟩

def peerNotAttached : RelayRuntimeError :=
  ⟨"peer_not_attached", "target participant has not attached to relay session"⟩

/-- The session that a ticket opens. -/
def ticketSession (ticket : RelayTicket) : RelaySession :=
  ⟨ticket.sessionId, ticket.srcNodeId, ticket.dstNodeId, ticket.networkId⟩

def participants (rt : RelayRuntime) (sessionId : String) : Table SocketAddr :=
  (rt.endpoints.get? sessionId).getD ∅

/-- `endpoints.entry(sessionId).or_default().insert(participantId, source)` -/
def bindEndpoint (rt : RelayRuntime) (sessionId participantId : String) (source : SocketAddr) :
    RelayRuntime :=
  { rt with endpoints :=
      rt.endpoints.put sessionId ((rt.participants sessionId).put participantId source) }

/-- The end of an accepted attach. -/
def attached (rt : RelayRuntime) (source : SocketAddr) (participantId : String)
    (ticket : RelayTicket) : Outcome :=
  let peerParticipantId :=
    if participantId = ticket.srcNodeId then ticket.dstNodeId else ticket.srcNodeId
  (.ok (.attached ⟨ticket.sessionId, peerParticipantId⟩, none),
    rt.bindEndpoint ticket.sessionId participantId source)

def handleAttach (rt : RelayRuntime) (crates : Crates) (now : Int) (source : SocketAddr)
    (participantId : String) (ticket : RelayTicketWire) : Outcome :=
  let ticket := toRelayTicket ticket
  if participantId ≠ ticket.srcNodeId ∧ participantId ≠ ticket.dstNodeId then
    (.error participantNotInTicket, rt)
  else
    let session := ticketSession ticket
    match rt.relay.attachWithTicket crates now ticket session with
    | .ok relay => attached { rt with relay } source participantId ticket
    | .error .sessionAlreadyExists =>
      match rt.relay.session ticket.sessionId with
      | .error err => (.error (relayRuntimeError err), rt)
      | .ok existing =>
        if existing ≠ session then (.error sessionConflict, rt)
        else attached rt source participantId ticket
    | .error err => (.error (relayRuntimeError err), rt)

def handleForward (rt : RelayRuntime) (crates : Crates) (source : SocketAddr)
    (sessionId fromParticipantId payloadB64 : String) : Except RelayRuntimeError Reply :=
  match rt.endpoints.get? sessionId with
  | none => .error sessionNotAttached
  | some participants =>
    match participants.get? fromParticipantId with
    | none => .error participantNotAttached
    | some boundAddr =>
      if boundAddr ≠ source then .error participantAddressMismatch
      else
        match Base64.decodeStandard payloadB64 with
        | none => .error (invalidPayloadB64 (crates.base64Error payloadB64))
        | some payload =>
          match rt.relay.forward ⟨sessionId, fromParticipantId, payload⟩ with
          | .error err => .error (relayRuntimeError err)
          | .ok forwarded =>
            match participants.get? forwarded.toDeviceId with
            | none => .error peerNotAttached
            | some peerAddr =>
              .ok (.forwarded ⟨forwarded.sessionId, forwarded.toDeviceId,
                  forwarded.payload.length⟩,
                some (peerAddr, .packet ⟨forwarded.sessionId, fromParticipantId,
                  Base64.encodeStandard forwarded.payload⟩))

/-- The participant is taken out of the bindings before the store is asked to drop the session. -/
def handleDetach (rt : RelayRuntime) (source : SocketAddr) (sessionId participantId : String) :
    Outcome :=
  match rt.endpoints.get? sessionId with
  | none => (.error sessionNotAttached, rt)
  | some participants =>
    match participants.get? participantId with
    | none => (.error participantNotAttached, rt)
    | some boundAddr =>
      if boundAddr ≠ source then (.error participantAddressMismatch, rt)
      else
        let reply : Reply := (.detached sessionId participantId, none)
        let rest := participants.remove participantId
        if rest.isEmpty then
          let endpoints := rt.endpoints.remove sessionId
          match rt.relay.detach sessionId with
          | .error err => (.error (relayRuntimeError err), { rt with endpoints })
          | .ok relay => (.ok reply, ⟨relay, endpoints⟩)
        else (.ok reply, { rt with endpoints := rt.endpoints.put sessionId rest })

def handleRequest (rt : RelayRuntime) (crates : Crates) (now : Int) (source : SocketAddr) :
    ClientRequest → Outcome
  | .ping => (.ok (.pong, none), rt)
  | .attach participantId ticket => rt.handleAttach crates now source participantId ticket
  | .forward sessionId fromParticipantId payloadB64 =>
    (rt.handleForward crates source sessionId fromParticipantId payloadB64, rt)
  | .detach sessionId participantId => rt.handleDetach source sessionId participantId

/-- What one request makes the daemon send, in order. -/
def responses (source : SocketAddr) :
    Except RelayRuntimeError Reply → List (SocketAddr × ServerResponse)
  | .ok (response, some packet) => [packet, (source, response)]
  | .ok (response, none) => [(source, response)]
  | .error error => [(source, .error ⟨error.code, error.message⟩)]

end RelayRuntime

end Slan.Relay
