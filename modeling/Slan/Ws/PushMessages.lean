import Mathlib.Tactic.MkIffOfInductiveProp
import Slan.Client.ControlWs
import Slan.Ws.Messages

/-! # What the client reads of the messages that the server pushes

A candidate is no event of the client's, and its error ends the read. Of the other messages only a
ticket that allows no node, whose list is left out, and a priority beyond 32 bits are refused.
-/

namespace Slan.Ws

open GoJson
open Json (nonEmpty)

/-! ## What is pushed -/

/-- What `sendTracked` is called with, the type being the constructor's. -/
inductive PushMessage where
  | peerUpdate (update : PeerUpdate)
  | peerRemove (remove : PeerRemove)
  | peerCandidate (candidate : PeerCandidate)
  | connectPlan (plan : ConnectPlan)
  | networkRestartRequired (restart : NetworkRestartRequired)
  | deviceIPReassigned (deviceIP : DeviceIPReassigned)
  | activeNetworkEnabled (enabled : ActiveNetworkEnabled)
  deriving DecidableEq, Repr

namespace PushMessage

def msgType : PushMessage → String
  | peerUpdate _ => "peer_update"
  | peerRemove _ => "peer_remove"
  | peerCandidate _ => "peer_candidate"
  | connectPlan _ => "connect_plan"
  | networkRestartRequired _ => "network_restart_required"
  | deviceIPReassigned _ => "device_ip_reassigned"
  | activeNetworkEnabled _ => "active_network_enabled"

def msgTypes : List String :=
  ["peer_update", "peer_remove", "peer_candidate", "connect_plan", "network_restart_required",
    "device_ip_reassigned", "active_network_enabled"]

def payload : PushMessage → Json
  | peerUpdate update => PeerUpdate.codec.encode update
  | peerRemove remove => PeerRemove.codec.encode remove
  | peerCandidate candidate => PeerCandidate.codec.encode candidate
  | connectPlan plan => ConnectPlan.codec.encode plan
  | networkRestartRequired restart => NetworkRestartRequired.codec.encode restart
  | deviceIPReassigned deviceIP => DeviceIPReassigned.codec.encode deviceIP
  | activeNetworkEnabled enabled => ActiveNetworkEnabled.codec.encode enabled

/-- The envelope of `sendTracked` and of `resendStored`: no push has a request's id. -/
def envelope (messageId : String) (message : PushMessage) : Json :=
  Json.object [("type", some (.str message.msgType)), ("requestId", Json.omitString ""),
    ("messageId", Json.omitString messageId), ("payload", some message.payload)]

end PushMessage

/-! ## What it says, in the client's types -/

def Endpoint.carried (endpoint : Endpoint) : Client.Endpoint where
  endpointType := endpoint.endpointType
  address := endpoint.address
  updatedAt := endpoint.updatedAt.toInt

def Peer.carried (peer : Peer) : Client.Peer where
  nodeId := peer.nodeId
  deviceId := peer.deviceId
  publicKey := peer.publicKey
  status := peer.status
  relayAllowed := peer.relayAllowed
  virtualIps := peer.virtualIps
  endpoints := peer.endpoints.map Endpoint.carried
  allowedRoutes := peer.allowedRoutes

def PeerUpdate.carried (update : PeerUpdate) : Client.ControlWsPeerUpdate where
  networkId := update.networkId
  revision := update.revision.toNat
  peer := update.peer.carried

def PeerRemove.carried (remove : PeerRemove) : Client.ControlWsPeerRemove where
  networkId := remove.networkId
  revision := remove.revision.toNat
  peerNodeId := remove.peerNodeId

def PathOption.carried (path : PathOption) : Client.ControlWsPathOption where
  pathType := path.pathType
  endpoint := path.endpoint
  priority := path.priority.toInt

def RelayTicket.carried (ticket : RelayTicket) : Client.RelayTicket where
  ticketId := ticket.ticketId
  networkId := ticket.networkId
  sessionId := ticket.sessionId
  srcNodeId := ticket.srcNodeId
  dstNodeId := ticket.dstNodeId
  derpClusterId := nonEmpty ticket.derpClusterId
  countryCode := nonEmpty ticket.countryCode
  cityCode := nonEmpty ticket.cityCode
  allowedDerpNodeIds := ticket.allowedDerpNodeIds
  relayUrl := ticket.relayUrl
  expiresAt := ticket.expiresAt
  sessionKey := nonEmpty ticket.sessionKey
  signature := ticket.signature

def ConnectPlan.carried (plan : ConnectPlan) : Client.ControlWsConnectPlan where
  peerNodeId := plan.peerNodeId
  preferDirect := plan.preferDirect
  paths := plan.paths.map PathOption.carried
  derpClusterId := plan.derpClusterId
  preferredDerpNodeIds := plan.preferredDerpNodeIds
  relayTicket := plan.relayTicket.map RelayTicket.carried

def NetworkRestartRequired.carried (restart : NetworkRestartRequired) :
    Client.ControlWsNetworkRestartRequired where
  networkId := restart.networkId
  revision := restart.revision.toNat
  reason := restart.reason
  defaultSubnetCidr := restart.defaultSubnetCidr

def DeviceIPReassigned.carried (deviceIP : DeviceIPReassigned) :
    Client.ControlWsDeviceIPReassigned where
  networkId := deviceIP.networkId
  deviceId := deviceIP.deviceId
  attachmentId := deviceIP.attachmentId
  virtualIp := deviceIP.virtualIp
  reason := deviceIP.reason

def ActiveNetworkEnabled.carried (enabled : ActiveNetworkEnabled) :
    Client.ControlWsActiveNetworkEnabled where
  userId := enabled.userId
  networkId := enabled.networkId
  reason := enabled.reason

/-- The event that says the same; the client has none for a candidate. -/
def PushMessage.carried : PushMessage → Option Client.ControlWsEvent
  | peerUpdate update => some (.peerUpdate update.carried)
  | peerRemove remove => some (.peerRemove remove.carried)
  | peerCandidate _ => none
  | connectPlan plan => some (.connectPlan plan.carried)
  | networkRestartRequired restart => some (.networkRestartRequired restart.carried)
  | deviceIPReassigned deviceIP => some (.deviceIPReassigned deviceIP.carried)
  | activeNetworkEnabled enabled => some (.activeNetworkEnabled enabled.carried)

/-- Every reader of the client makes of the message the event that says the same. -/
def PushMessage.Covered (texts : Client.ControlTexts) (message : PushMessage) : Prop :=
  ∃ event, message.carried = some event ∧ ∀ messageId ackSent,
    let incoming : Client.Incoming := .frame (message.envelope messageId) ackSent
    Client.ControlWsClient.readEvent texts incoming = .ok event ∧
      Client.ControlWsClient.readPong texts incoming = .ok (.event event) ∧
      Client.ControlWsClient.readHelloAck texts incoming = .ok (.event event) ∧
      Client.ControlWsClient.readNetworkMap texts incoming = .ok (.event event)

/-! ## What is read -/

/-- The priority is one of 32 bits. -/
def PathOption.Fits (path : PathOption) : Prop :=
  -2 ^ 31 ≤ path.priority.toInt ∧ path.priority.toInt < 2 ^ 31

/-- The ticket allows some node. -/
def RelayTicket.Fits (ticket : RelayTicket) : Prop := ticket.allowedDerpNodeIds ≠ []

@[mk_iff]
structure ConnectPlan.Fits (plan : ConnectPlan) : Prop where
  paths : ∀ path ∈ plan.paths, path.Fits
  relayTicket : ∀ ticket ∈ plan.relayTicket, ticket.Fits

def PushMessage.Readable : PushMessage → Prop
  | peerCandidate _ => False
  | connectPlan plan => plan.Fits
  | _ => True

section Decode

-- The object is opened by rewriting: the kernel would compare a whole decoder with its value.

attribute [local simp] Json.required Json.optional Json.defaulted
  Program.bind_eq_ok Json.map_eq_ok

theorem decode_endpoint (endpoint : Endpoint) :
    Client.Endpoint.decode (Endpoint.codec.encode endpoint) = .ok endpoint.carried := by
  rw [Endpoint.codec, struct_encode (by decide), Client.Endpoint.decode, Json.object,
    Client.members]
  simp [Endpoint.fields, Endpoint.carried]

theorem decode_peer (peer : Peer) :
    Client.Peer.decode (Peer.codec.encode peer) = .ok peer.carried := by
  rw [Peer.codec, struct_encode (by decide), Client.Peer.decode, Json.object, Client.members]
  simp [Peer.fields, Peer.carried, Json.elim_omitSlice_of_forall decode_endpoint,
    Json.Slice.items]

theorem decode_peerUpdate (update : PeerUpdate) :
    Client.ControlWsPeerUpdate.decode (PeerUpdate.codec.encode update) = .ok update.carried := by
  rw [PeerUpdate.codec, struct_encode (by decide), Client.ControlWsPeerUpdate.decode, Json.object,
    Client.members]
  simp [PeerUpdate.fields, PeerUpdate.carried, decode_peer]

theorem decode_peerRemove (remove : PeerRemove) :
    Client.ControlWsPeerRemove.decode (PeerRemove.codec.encode remove) = .ok remove.carried := by
  rw [PeerRemove.codec, struct_encode (by decide), Client.ControlWsPeerRemove.decode, Json.object,
    Client.members]
  simp [PeerRemove.fields, PeerRemove.carried]

theorem decode_pathOption (path : PathOption) (got : Client.ControlWsPathOption) :
    Client.ControlWsPathOption.decode (PathOption.codec.encode path) = .ok got ↔
      path.Fits ∧ path.carried = got := by
  rw [PathOption.codec, struct_encode (by decide), Client.ControlWsPathOption.decode, Json.object,
    Client.members]
  simp [PathOption.fields, PathOption.carried, PathOption.Fits, Json.signed_num_eq_ok]

theorem decode_relayTicket (ticket : RelayTicket) (got : Client.RelayTicket) :
    Client.RelayTicket.decode (RelayTicket.codec.encode ticket) = .ok got ↔
      ticket.Fits ∧ ticket.carried = got := by
  rw [RelayTicket.codec, struct_encode (by decide), Client.RelayTicket.decode, Json.object,
    Client.members]
  simp [RelayTicket.fields, RelayTicket.carried, RelayTicket.Fits, Json.elim_omitSlice_required]

theorem decode_planTicket (ticket : Option RelayTicket) (got : Option Client.RelayTicket) :
    ticket.elim (.ok none) (Json.nullable Client.RelayTicket.decode ∘ RelayTicket.codec.encode) =
        .ok got ↔
      (∀ t ∈ ticket, t.Fits) ∧ ticket.map RelayTicket.carried = got := by
  cases ticket with
  | none => exact (Except.ok.injEq _ _).to_iff.trans (iff_and_self.mpr fun _ => nofun)
  | some ticket =>
    have hread : ∀ b, Client.RelayTicket.decode (Json.object
        (RelayTicket.fields.map fun f => (f.name, f.encode ticket))) = .ok b ↔
        ticket.Fits ∧ ticket.carried = b := by
      intro b
      rw [← decode_relayTicket, RelayTicket.codec, struct_encode (by decide)]
    rw [Option.elim_some, Function.comp_apply, RelayTicket.codec, struct_encode (by decide),
      Json.nullable_object_eq_ok hread, Option.map_some]
    simp only [Option.mem_some_iff, forall_eq']

theorem decode_connectPlan (plan : ConnectPlan) (got : Client.ControlWsConnectPlan) :
    Client.ControlWsConnectPlan.decode (ConnectPlan.codec.encode plan) = .ok got ↔
      plan.Fits ∧ plan.carried = got := by
  rw [ConnectPlan.codec, struct_encode (by decide), Client.ControlWsConnectPlan.decode, Json.object,
    Client.members]
  simp [ConnectPlan.fields, ConnectPlan.carried, Json.elim_omitSlice_eq_ok decode_pathOption,
    decode_planTicket, Json.Slice.items, ConnectPlan.fits_iff, and_assoc]

theorem decode_networkRestartRequired (restart : NetworkRestartRequired) :
    Client.ControlWsNetworkRestartRequired.decode (NetworkRestartRequired.codec.encode restart) =
      .ok restart.carried := by
  rw [NetworkRestartRequired.codec, struct_encode (by decide),
    Client.ControlWsNetworkRestartRequired.decode, Json.object, Client.members]
  simp [NetworkRestartRequired.fields, NetworkRestartRequired.carried]

theorem decode_deviceIPReassigned (deviceIP : DeviceIPReassigned) :
    Client.ControlWsDeviceIPReassigned.decode (DeviceIPReassigned.codec.encode deviceIP) =
      .ok deviceIP.carried := by
  rw [DeviceIPReassigned.codec, struct_encode (by decide),
    Client.ControlWsDeviceIPReassigned.decode, Json.object, Client.members]
  simp [DeviceIPReassigned.fields, DeviceIPReassigned.carried]

theorem decode_activeNetworkEnabled (enabled : ActiveNetworkEnabled) :
    Client.ControlWsActiveNetworkEnabled.decode (ActiveNetworkEnabled.codec.encode enabled) =
      .ok enabled.carried := by
  rw [ActiveNetworkEnabled.codec, struct_encode (by decide),
    Client.ControlWsActiveNetworkEnabled.decode, Json.object, Client.members]
  simp [ActiveNetworkEnabled.fields, ActiveNetworkEnabled.carried]

end Decode

/-! ## Which messages are covered -/

namespace PushMessage

theorem decode_envelope (messageId : String) (message : PushMessage) :
    Client.Envelope.decode (message.envelope messageId) =
      .ok ⟨message.msgType, none, nonEmpty messageId, message.payload⟩ := by
  rw [envelope, Client.Envelope.decode, Json.object, Client.members]
  simp [Json.required, Json.optional, Json.defaulted, nonEmpty]
  rfl

theorem readEnvelope_envelope (texts : Client.ControlTexts) (messageId : String)
    (message : PushMessage) (ackSent : Bool) :
    Client.ControlWsClient.readEnvelope texts (.frame (message.envelope messageId) ackSent) =
      .ok ⟨message.msgType, none, nonEmpty messageId, message.payload⟩ := by
  dsimp only [Client.ControlWsClient.readEnvelope]
  rw [decode_envelope]

/-- No push has the type of an error or of an answer. -/
theorem msgType_ne {other : String} (h : other ∉ msgTypes) (message : PushMessage) :
    message.msgType ≠ other := by
  rintro rfl
  exact h (by cases message <;> simp [msgType, msgTypes])

theorem decodePayload_map_eq_ok {α : Type} {texts : Client.ControlTexts} {msgType : String}
    {d : Json.Decoder α} {v : Json} {P : Prop} {a : α}
    (h : ∀ b, d v = .ok b ↔ P ∧ a = b) {f : α → Client.ControlWsEvent}
    {event : Client.ControlWsEvent} :
    f <$> Client.decodePayload texts msgType d v = .ok event ↔ P ∧ some (f a) = some event := by
  have hpayload : ∀ b, Client.decodePayload texts msgType d v = .ok b ↔ P ∧ a = b := by
    intro b
    rw [← h]
    unfold Client.decodePayload
    cases d v with
    | ok c => simp only [Except.ok.injEq]
    | error err => exact iff_of_false nofun nofun
  simp only [Json.map_eq_ok, hpayload, Option.some.injEq]
  constructor
  · rintro ⟨_, ⟨hP, rfl⟩, hevent⟩
    exact ⟨hP, hevent⟩
  · rintro ⟨hP, hevent⟩
    exact ⟨a, ⟨hP, rfl⟩, hevent⟩

/-- What the client's decoder makes of a message, whatever its envelope is numbered. -/
theorem decode_eq_ok_iff {texts : Client.ControlTexts} {requestId messageId : Option String}
    {message : PushMessage} {event : Client.ControlWsEvent} :
    Client.decodeControlWsEvent texts ⟨message.msgType, requestId, messageId, message.payload⟩ =
      .ok event ↔ message.Readable ∧ message.carried = some event := by
  have hok : ∀ {α : Type} {x : Except Json.DecodeError α} {a : α}, x = .ok a →
      ∀ b, x = .ok b ↔ True ∧ a = b := by
    rintro α x a rfl b
    rw [Except.ok.injEq, true_and]
  cases message with
  | peerUpdate update => exact decodePayload_map_eq_ok (hok (decode_peerUpdate update))
  | peerRemove remove => exact decodePayload_map_eq_ok (hok (decode_peerRemove remove))
  | peerCandidate candidate => exact iff_of_false nofun fun h => h.1
  | connectPlan plan => exact decodePayload_map_eq_ok (decode_connectPlan plan)
  | networkRestartRequired restart =>
    exact decodePayload_map_eq_ok (hok (decode_networkRestartRequired restart))
  | deviceIPReassigned deviceIP =>
    exact decodePayload_map_eq_ok (hok (decode_deviceIPReassigned deviceIP))
  | activeNetworkEnabled enabled =>
    exact decodePayload_map_eq_ok (hok (decode_activeNetworkEnabled enabled))

theorem readEvent_eq_ok {texts : Client.ControlTexts} {messageId : String} {ackSent : Bool}
    {message : PushMessage} {event : Client.ControlWsEvent} :
    Client.ControlWsClient.readEvent texts (.frame (message.envelope messageId) ackSent) =
      .ok event ↔ message.Readable ∧ message.carried = some event := by
  unfold Client.ControlWsClient.readEvent
  rw [readEnvelope_envelope]
  exact (congrArg (· = _) (if_neg (message.msgType_ne (by decide)))).to_iff.trans decode_eq_ok_iff

theorem readReply_eq_ok {α : Type} {texts : Client.ControlTexts} {messageId : String}
    {ackSent : Bool} {message : PushMessage} {event : Client.ControlWsEvent}
    {expectedType : String} {decode : Json → Except String α}
    (hother : expectedType ∉ msgTypes) :
    Client.ControlWsClient.readReply texts expectedType decode
        (.frame (message.envelope messageId) ackSent) = .ok (.event event) ↔
      message.Readable ∧ message.carried = some event := by
  unfold Client.ControlWsClient.readReply
  rw [readEnvelope_envelope]
  refine (congrArg (· = _) ((if_neg (message.msgType_ne (by decide))).trans
    (if_neg (message.msgType_ne hother)))).to_iff.trans ?_
  rw [← decode_eq_ok_iff]
  generalize Client.decodeControlWsEvent texts _ = decoded
  cases decoded with
  | ok got => simp
  | error err => exact iff_of_false nofun nofun

/-- The client makes of a message what it says exactly where it is readable. -/
theorem covered_iff_readable (texts : Client.ControlTexts) (message : PushMessage) :
    message.Covered texts ↔ message.Readable := by
  constructor
  · rintro ⟨event, -, hread⟩
    exact (readEvent_eq_ok.mp (hread "" false).1).1
  · intro hreadable
    obtain ⟨event, hevent⟩ : ∃ event, message.carried = some event := by
      cases message with
      | peerCandidate _ => exact hreadable.elim
      | _ => exact ⟨_, rfl⟩
    exact ⟨event, hevent, fun messageId ackSent => ⟨readEvent_eq_ok.mpr ⟨hreadable, hevent⟩,
      (readReply_eq_ok (by decide)).mpr ⟨hreadable, hevent⟩,
      (readReply_eq_ok (by decide)).mpr ⟨hreadable, hevent⟩,
      (readReply_eq_ok (by decide)).mpr ⟨hreadable, hevent⟩⟩⟩

/-- A peer's candidate, as it is forwarded. -/
def reflexive : PushMessage :=
  .peerCandidate { PeerCandidate.zero with
    peerNodeId := "node-b", candidateType := "reflexive", endpoint := "198.51.100.7:40000" }

/-- The read of a candidate fails, and with it the drain. -/
theorem candidate_ends_read :
    let texts : Client.ControlTexts := ⟨fun _ => "invalid JSON", fun _ => "null"⟩
    Client.ControlWsClient.readEvent texts (.frame (reflexive.envelope "msg-1") true) =
        .error "unexpected control ws event: peer_candidate" ∧
      ¬reflexive.Covered texts := by
  refine ⟨?_, fun ⟨event, hcarried, _⟩ => nomatch hcarried⟩
  unfold Client.ControlWsClient.readEvent
  rw [readEnvelope_envelope]
  rfl

end PushMessage

end Slan.Ws
