import Slan.Ws.PushMessages
import Slan.Ws.SessionMessages

/-! # What the client reads of the server's answers

The numbers that the server writes are Go's integers; those of the client are unsigned, and some of
32 bits. An answer whose numbers do not fit is refused as a whole.
-/

namespace Slan.Ws

open GoJson
open Json (FitsBits nonEmpty)

/-! ## What is answered -/

/-- What `writeWSEnvelope` is called with, the type being the constructor's. -/
inductive Answer where
  | nodeHelloAck (ack : NodeHelloAck)
  | networkMapResponse (response : NetworkMapResponse)
  | pong (sent : Pong)
  | error (message : ErrorMessage)
  deriving DecidableEq, Repr

namespace Answer

def msgType : Answer → String
  | nodeHelloAck _ => "node_hello_ack"
  | networkMapResponse _ => "network_map_response"
  | pong _ => "pong"
  | error _ => "error"

def payload : Answer → Json
  | nodeHelloAck ack => NodeHelloAck.codec.encode ack
  | networkMapResponse response => NetworkMapResponse.codec.encode response
  | pong sent => Pong.codec.encode sent
  | error message => ErrorMessage.codec.encode message

/-- `writeWSEnvelope`: an answer has no message's id. -/
def envelope (requestId : String) (answer : Answer) : Json :=
  Json.object [("type", some (.str answer.msgType)), ("requestId", Json.omitString requestId),
    ("messageId", Json.omitString ""), ("payload", some answer.payload)]

end Answer

/-! ## What it says, in the client's types -/

def NodeHelloAck.carried (ack : NodeHelloAck) : Client.NodeHelloAck where
  controlSessionId := ack.controlSessionId
  heartbeatSeconds := ack.heartbeatSeconds.toInt.toNat
  networkRevision := ack.networkRevision.toNat

def Pong.carried (pong : Pong) : Client.Pong := ⟨pong.timestamp.toInt⟩

def Route.carried (route : Route) : Client.Route where
  cidr := route.cidr
  viaNodeId := route.viaNodeId
  metric := nonEmpty route.metric

def DNSConfig.carried (dns : DNSConfig) : Client.DnsConfig where
  servers := dns.servers
  searchDomains := dns.searchDomains

def RelayEndpoint.carried (endpoint : RelayEndpoint) : Client.RelayEndpoint where
  endpointId := endpoint.endpointId
  transport := endpoint.transport
  address := endpoint.address

def RelayRegion.carried (region : RelayRegion) : Client.RelayRegion where
  regionId := region.regionId
  regionName := region.regionName
  countryCode := Client.nonEmpty region.countryCode
  countryName := Client.nonEmpty region.countryName
  cityCode := Client.nonEmpty region.cityCode
  cityName := Client.nonEmpty region.cityName
  clusterId := Client.nonEmpty region.clusterId
  clusterName := Client.nonEmpty region.clusterName
  endpoints := region.endpoints.map RelayEndpoint.carried

/-- Without an MTU there is none. -/
def NetworkMap.carried (map : NetworkMap) : Client.NetworkMap where
  selfUserId := map.selfUserId
  selfDeviceId := map.selfDeviceId
  selfNodeId := map.selfNodeId
  networkId := map.networkId
  revision := map.revision.toNat
  heartbeatSeconds := map.heartbeatSeconds.toInt.toNat
  stunServers := map.stunServers
  peers := map.peers.map Peer.carried
  routes := map.routes.map Route.carried
  relayRegions := map.relayRegions.map RelayRegion.carried
  dns := map.dns.carried
  mtu := if map.mtu.toInt = 0 then none else some map.mtu.toInt.toNat

/-! ## What is read -/

def NodeHelloAck.Fits (ack : NodeHelloAck) : Prop := FitsBits 32 ack.heartbeatSeconds.toInt

@[mk_iff]
structure NetworkMap.Fits (map : NetworkMap) : Prop where
  heartbeatSeconds : FitsBits 32 map.heartbeatSeconds.toInt
  mtu : FitsBits 32 map.mtu.toInt

section Decode

attribute [local simp] Json.required Json.optional Json.defaulted
  Program.bind_eq_ok Json.map_eq_ok

theorem decode_nodeHelloAck (ack : NodeHelloAck) (got : Client.NodeHelloAck) :
    Client.NodeHelloAck.decode (NodeHelloAck.codec.encode ack) = .ok got ↔
      ack.Fits ∧ ack.carried = got := by
  rw [NodeHelloAck.codec, struct_encode (by decide), Client.NodeHelloAck.decode, Json.object,
    Client.members]
  simp [NodeHelloAck.fields, NodeHelloAck.carried, NodeHelloAck.Fits, Json.unsigned_num_eq_ok]

theorem decode_pong (pong : Pong) :
    Client.Pong.decode (Pong.codec.encode pong) = .ok pong.carried := by
  rw [Pong.codec, struct_encode (by decide), Client.Pong.decode, Json.object, Client.members]
  simp [Pong.fields, Pong.carried]

theorem decode_route (route : Route) :
    Client.Route.decode (Route.codec.encode route) = .ok route.carried := by
  rw [Route.codec, struct_encode (by decide), Client.Route.decode, Json.object, Client.members]
  simp [Route.fields, Route.carried]

theorem decode_dnsConfig (dns : DNSConfig) :
    Client.DnsConfig.decode (DNSConfig.codec.encode dns) = .ok dns.carried := by
  rw [DNSConfig.codec, struct_encode (by decide), Client.DnsConfig.decode, Json.object,
    Client.members]
  simp [DNSConfig.fields, DNSConfig.carried, Json.Slice.items]

theorem decode_relayEndpoint (endpoint : RelayEndpoint) :
    Client.RelayEndpoint.decode (RelayEndpoint.codec.encode endpoint) = .ok endpoint.carried := by
  rw [RelayEndpoint.codec, struct_encode (by decide), Client.RelayEndpoint.decode, Json.object,
    Client.members]
  simp [RelayEndpoint.fields, RelayEndpoint.carried]

theorem decode_relayRegion (region : RelayRegion) :
    Client.RelayRegion.decode (RelayRegion.codec.encode region) = .ok region.carried := by
  rw [RelayRegion.codec, struct_encode (by decide), Client.RelayRegion.decode, Json.object,
    Client.members]
  simp [RelayRegion.fields, RelayRegion.carried,
    Json.elim_omitSlice_of_forall decode_relayEndpoint, Json.Slice.items]

theorem decode_networkMap (map : NetworkMap) (got : Client.NetworkMap) :
    Client.NetworkMap.decode (NetworkMap.codec.encode map) = .ok got ↔
      map.Fits ∧ map.carried = got := by
  rw [NetworkMap.codec, struct_encode (by decide), Client.NetworkMap.decode, Json.object,
    Client.members]
  simp [NetworkMap.fields, NetworkMap.carried, Json.unsigned_num_eq_ok, Json.elim_omitInt_eq_ok,
    Json.elim_omitSlice_of_forall decode_peer, Json.elim_omitSlice_of_forall decode_route,
    Json.elim_omitSlice_of_forall decode_relayRegion, decode_dnsConfig, Json.Slice.items,
    NetworkMap.fits_iff, and_assoc]

theorem decode_networkMapResponse (response : NetworkMapResponse) (got : Client.NetworkMap) :
    Client.decodeNetworkMap (NetworkMapResponse.codec.encode response) = .ok got ↔
      response.map.Fits ∧ response.map.carried = got := by
  rw [NetworkMapResponse.codec, struct_encode (by decide), Client.decodeNetworkMap, Json.object,
    Client.members]
  simp [NetworkMapResponse.fields, decode_networkMap]

end Decode

/-! ## Which answers are read -/

namespace Answer

variable (texts : Client.ControlTexts) (requestId : String) (ackSent : Bool)

/-- The frame of an answer, as a client meets it. -/
def incoming (answer : Answer) : Client.Incoming := .frame (answer.envelope requestId) ackSent

theorem readEnvelope_incoming (answer : Answer) :
    Client.ControlWsClient.readEnvelope texts (answer.incoming requestId ackSent) =
      .ok ⟨answer.msgType, nonEmpty requestId, none, answer.payload⟩ := by
  have hdecode : Client.Envelope.decode (answer.envelope requestId) =
      .ok ⟨answer.msgType, nonEmpty requestId, none, answer.payload⟩ := by
    rw [envelope, Client.Envelope.decode, Json.object, Client.members]
    simp [Json.required, Json.optional, Json.defaulted, nonEmpty]
    rfl
  dsimp only [incoming, Client.ControlWsClient.readEnvelope]
  rw [hdecode]

section Reply

variable {α : Type} {expectedType : String} {decode : Json → Except String α} {answer : Answer}

theorem readReply_incoming (herror : answer.msgType ≠ "error")
    (hexpected : answer.msgType = expectedType) :
    Client.ControlWsClient.readReply texts expectedType decode
        (answer.incoming requestId ackSent) = .answer <$> decode answer.payload := by
  unfold Client.ControlWsClient.readReply
  rw [readEnvelope_incoming]
  exact (if_neg herror).trans (if_pos hexpected)

theorem readReply_eq_answer {d : Json.Decoder α} {msgType : String} {P : Prop} {a got : α}
    (hread : ∀ b, d answer.payload = .ok b ↔ P ∧ a = b) (herror : answer.msgType ≠ "error")
    (hexpected : answer.msgType = expectedType) :
    Client.ControlWsClient.readReply texts expectedType (Client.decodePayload texts msgType d)
        (answer.incoming requestId ackSent) = .ok (.answer got) ↔ P ∧ a = got := by
  rw [readReply_incoming texts requestId ackSent herror hexpected, Json.map_eq_ok, ← hread]
  unfold Client.decodePayload
  cases d answer.payload with
  | ok b => simp
  | error err => simp

theorem readReply_error (message : ErrorMessage) :
    Client.ControlWsClient.readReply texts expectedType decode
        ((error message).incoming requestId ackSent) =
      .error (if Text.isBlank message.message then message.code
        else message.code ++ ": " ++ message.message) := by
  have hformat : Client.formatControlError texts (error message).payload =
      if Text.isBlank message.message then message.code
      else message.code ++ ": " ++ message.message := by
    unfold Client.formatControlError
    rw [payload, ErrorMessage.codec, struct_encode (by decide), Json.object, Client.members]
    simp [ErrorMessage.fields, Json.defaulted]
    rfl
  rw [← hformat]
  unfold Client.ControlWsClient.readReply
  rw [readEnvelope_incoming]
  rfl

end Reply

/-- Each reader takes of the answer that it waits for what it says, exactly where the numbers fit;
an error is the failure of all of them. -/
theorem read_answer :
    (∀ ack got, Client.ControlWsClient.readHelloAck texts
        ((nodeHelloAck ack).incoming requestId ackSent) = .ok (.answer got) ↔
      ack.Fits ∧ ack.carried = got) ∧
    (∀ response got, Client.ControlWsClient.readNetworkMap texts
        ((networkMapResponse response).incoming requestId ackSent) = .ok (.answer got) ↔
      response.map.Fits ∧ response.map.carried = got) ∧
    (∀ sent got, Client.ControlWsClient.readPong texts
        ((pong sent).incoming requestId ackSent) = .ok (.answer got) ↔ sent.carried = got) ∧
    ∀ message, let failure := if Text.isBlank message.message then message.code
        else message.code ++ ": " ++ message.message
      Client.ControlWsClient.readHelloAck texts ((error message).incoming requestId ackSent) =
          .error failure ∧
        Client.ControlWsClient.readNetworkMap texts
          ((error message).incoming requestId ackSent) = .error failure ∧
        Client.ControlWsClient.readPong texts
          ((error message).incoming requestId ackSent) = .error failure := by
  refine ⟨?_, ?_, ?_, ?_⟩
  · intro ack got
    have hother : (nodeHelloAck ack).msgType ≠ "error" := by simp [msgType]
    exact readReply_eq_answer texts requestId ackSent (decode_nodeHelloAck ack) hother rfl
  · intro response got
    have hother : (networkMapResponse response).msgType ≠ "error" := by simp [msgType]
    exact readReply_eq_answer texts requestId ackSent (decode_networkMapResponse response)
      hother rfl
  · intro sent got
    have hread : ∀ b, Client.Pong.decode (pong sent).payload = .ok b ↔
        True ∧ sent.carried = b := by
      intro b
      rw [payload, decode_pong, Except.ok.injEq, true_and]
    have hother : (pong sent).msgType ≠ "error" := by simp [msgType]
    exact (readReply_eq_answer texts requestId ackSent hread hother rfl).trans
      (and_iff_right trivial)
  · intro message
    exact ⟨readReply_error texts requestId ackSent message,
      readReply_error texts requestId ackSent message,
      readReply_error texts requestId ackSent message⟩

end Answer

end Slan.Ws
