import Mathlib.Data.List.Infix
import Slan.Client.Models
import Slan.Client.RelayClient

/-! # `control-ws-client`: envelopes, control events, and how they are read

A read is given with what it meets: a text frame's JSON value, or the text of a failure.
-/

namespace Slan.Client

/-- Texts that Rust and its crates produce. -/
structure ControlTexts where
  jsonError : Json.DecodeError → String
  json : Json → String

structure ControlWsConfig where
  wsUrl : String
  accessToken : String
  sessionToken : String
  userId : String
  deviceId : String
  nodeId : String
  nodePublicKey : String
  networkId : String
  capabilities : List String
  deriving DecidableEq, Repr

/-! ## Events and answers -/

structure ControlWsPeerUpdate where
  networkId : String
  revision : Nat
  peer : Peer
  deriving DecidableEq, Repr

structure ControlWsPeerRemove where
  networkId : String
  revision : Nat
  peerNodeId : String
  deriving DecidableEq, Repr

structure ControlWsPathOption where
  pathType : String
  endpoint : String
  priority : Int
  deriving DecidableEq, Repr

structure ControlWsConnectPlan where
  peerNodeId : String
  preferDirect : Bool
  paths : List ControlWsPathOption
  derpClusterId : String
  preferredDerpNodeIds : List String
  relayTicket : Option RelayTicket
  deriving DecidableEq, Repr

structure ControlWsNetworkRestartRequired where
  networkId : String
  revision : Nat
  reason : String
  defaultSubnetCidr : String
  deriving DecidableEq, Repr

structure ControlWsDeviceIPReassigned where
  networkId : String
  deviceId : String
  attachmentId : String
  virtualIp : String
  reason : String
  deriving DecidableEq, Repr

structure ControlWsActiveNetworkEnabled where
  userId : String
  networkId : String
  reason : String
  deriving DecidableEq, Repr

inductive ControlWsEvent where
  | peerUpdate (update : ControlWsPeerUpdate)
  | peerRemove (remove : ControlWsPeerRemove)
  | connectPlan (plan : ControlWsConnectPlan)
  | networkRestartRequired (restart : ControlWsNetworkRestartRequired)
  | deviceIPReassigned (updated : ControlWsDeviceIPReassigned)
  | activeNetworkEnabled (enabled : ControlWsActiveNetworkEnabled)
  deriving DecidableEq, Repr

structure NodeHelloAck where
  controlSessionId : String
  heartbeatSeconds : Nat
  networkRevision : Nat
  deriving DecidableEq, Repr

structure Pong where
  timestamp : Int
  deriving DecidableEq, Repr

structure Envelope where
  msgType : String
  requestId : Option String
  messageId : Option String
  payload : Json

/-! ## JSON forms -/

/-- The fields of a derived struct. -/
def members {α : Type} (d : List (String × Json) → Except Json.DecodeError α) : Json.Decoder α
  | .obj fields => d fields
  | _ => .error (.invalidType "struct")

def Endpoint.decode : Json.Decoder Endpoint := members fun fields => do
  let endpointType ← Json.required "type" Json.string fields
  let address ← Json.required "address" Json.string fields
  let updatedAt ← Json.required "updatedAt" (Json.signed 64) fields
  return { endpointType, address, updatedAt }

def Peer.decode : Json.Decoder Peer := members fun fields => do
  let nodeId ← Json.required "nodeId" Json.string fields
  let deviceId ← Json.required "deviceId" Json.string fields
  let publicKey ← Json.required "publicKey" Json.string fields
  let status ← Json.required "status" Json.string fields
  let relayAllowed ← Json.required "relayAllowed" Json.boolean fields
  let virtualIps ← Json.defaulted "virtualIps" (Json.list Json.string) [] fields
  let endpoints ← Json.defaulted "endpoints" (Json.list Endpoint.decode) [] fields
  let allowedRoutes ← Json.defaulted "allowedRoutes" (Json.list Json.string) [] fields
  return { nodeId, deviceId, publicKey, status, relayAllowed, virtualIps, endpoints,
           allowedRoutes }

def Route.decode : Json.Decoder Route := members fun fields => do
  let cidr ← Json.required "cidr" Json.string fields
  let viaNodeId ← Json.required "viaNodeId" Json.string fields
  let metric ← Json.optional "metric" Json.string fields
  return { cidr, viaNodeId, metric }

def RelayEndpoint.decode : Json.Decoder RelayEndpoint := members fun fields => do
  let endpointId ← Json.required "endpointId" Json.string fields
  let transport ← Json.required "transport" Json.string fields
  let address ← Json.required "address" Json.string fields
  return { endpointId, transport, address }

/-- An empty text stands for an absent one. -/
def nonEmpty (text : String) : Option String := if text = "" then none else some text

def RelayRegion.decode : Json.Decoder RelayRegion := members fun fields => do
  let regionId ← Json.required "regionId" Json.string fields
  let regionName ← Json.required "regionName" Json.string fields
  let countryCode ← Json.defaulted "countryCode" Json.string "" fields
  let countryName ← Json.defaulted "countryName" Json.string "" fields
  let cityCode ← Json.defaulted "cityCode" Json.string "" fields
  let cityName ← Json.defaulted "cityName" Json.string "" fields
  let clusterId ← Json.defaulted "clusterId" Json.string "" fields
  let clusterName ← Json.defaulted "clusterName" Json.string "" fields
  let endpoints ← Json.defaulted "endpoints" (Json.list RelayEndpoint.decode) [] fields
  return { regionId, regionName,
           countryCode := nonEmpty countryCode
           countryName := nonEmpty countryName
           cityCode := nonEmpty cityCode
           cityName := nonEmpty cityName
           clusterId := nonEmpty clusterId
           clusterName := nonEmpty clusterName
           endpoints }

def DnsConfig.decode : Json.Decoder DnsConfig := members fun fields => do
  let servers ← Json.defaulted "servers" (Json.list Json.string) [] fields
  let searchDomains ← Json.defaulted "searchDomains" (Json.list Json.string) [] fields
  return { servers, searchDomains }

def NetworkMap.decode : Json.Decoder NetworkMap := members fun fields => do
  let selfUserId ← Json.required "selfUserId" Json.string fields
  let selfDeviceId ← Json.required "selfDeviceId" Json.string fields
  let selfNodeId ← Json.required "selfNodeId" Json.string fields
  let networkId ← Json.required "networkId" Json.string fields
  let revision ← Json.required "revision" (Json.unsigned 64) fields
  let heartbeatSeconds ← Json.required "heartbeatSeconds" (Json.unsigned 32) fields
  let stunServers ← Json.defaulted "stunServers" (Json.list Json.string) [] fields
  let peers ← Json.defaulted "peers" (Json.list Peer.decode) [] fields
  let routes ← Json.defaulted "routes" (Json.list Route.decode) [] fields
  let relayRegions ← Json.defaulted "relayRegions" (Json.list RelayRegion.decode) [] fields
  let dns ← Json.required "dns" DnsConfig.decode fields
  let mtu ← Json.optional "mtu" (Json.unsigned 32) fields
  return { selfUserId, selfDeviceId, selfNodeId, networkId, revision, heartbeatSeconds,
           stunServers, peers, routes, relayRegions, dns, mtu }

/-- The `map` of a `NetworkMapResponse`. -/
def decodeNetworkMap : Json.Decoder NetworkMap :=
  members (Json.required "map" NetworkMap.decode)

def RelayTicket.decode : Json.Decoder RelayTicket := members fun fields => do
  let ticketId ← Json.required "ticketId" Json.string fields
  let networkId ← Json.required "networkId" Json.string fields
  let sessionId ← Json.required "sessionId" Json.string fields
  let srcNodeId ← Json.required "srcNodeId" Json.string fields
  let dstNodeId ← Json.required "dstNodeId" Json.string fields
  let derpClusterId ← Json.optional "derpClusterId" Json.string fields
  let countryCode ← Json.optional "countryCode" Json.string fields
  let cityCode ← Json.optional "cityCode" Json.string fields
  let allowedDerpNodeIds ← Json.required "allowedDerpNodeIds" (Json.list Json.string) fields
  let relayUrl ← Json.required "relayUrl" Json.string fields
  let expiresAt ← Json.required "expiresAt" Json.string fields
  let sessionKey ← Json.optional "sessionKey" Json.string fields
  let signature ← Json.required "signature" Json.string fields
  return { ticketId, networkId, sessionId, srcNodeId, dstNodeId, derpClusterId, countryCode,
           cityCode, allowedDerpNodeIds, relayUrl, expiresAt, sessionKey, signature }

def ControlWsPeerUpdate.decode : Json.Decoder ControlWsPeerUpdate := members fun fields => do
  let networkId ← Json.required "networkId" Json.string fields
  let revision ← Json.required "revision" (Json.unsigned 64) fields
  let peer ← Json.required "peer" Peer.decode fields
  return { networkId, revision, peer }

def ControlWsPeerRemove.decode : Json.Decoder ControlWsPeerRemove := members fun fields => do
  let networkId ← Json.required "networkId" Json.string fields
  let revision ← Json.required "revision" (Json.unsigned 64) fields
  let peerNodeId ← Json.required "peerNodeId" Json.string fields
  return { networkId, revision, peerNodeId }

def ControlWsPathOption.decode : Json.Decoder ControlWsPathOption := members fun fields => do
  let pathType ← Json.required "pathType" Json.string fields
  let endpoint ← Json.required "endpoint" Json.string fields
  let priority ← Json.required "priority" (Json.signed 32) fields
  return { pathType, endpoint, priority }

def ControlWsConnectPlan.decode : Json.Decoder ControlWsConnectPlan := members fun fields => do
  let peerNodeId ← Json.required "peerNodeId" Json.string fields
  let preferDirect ← Json.required "preferDirect" Json.boolean fields
  let paths ← Json.defaulted "paths" (Json.list ControlWsPathOption.decode) [] fields
  let derpClusterId ← Json.defaulted "derpClusterId" Json.string "" fields
  let preferredDerpNodeIds ←
    Json.defaulted "preferredDerpNodeIds" (Json.list Json.string) [] fields
  let relayTicket ← Json.optional "relayTicket" RelayTicket.decode fields
  return { peerNodeId, preferDirect, paths, derpClusterId, preferredDerpNodeIds, relayTicket }

def ControlWsNetworkRestartRequired.decode : Json.Decoder ControlWsNetworkRestartRequired :=
  members fun fields => do
    let networkId ← Json.required "networkId" Json.string fields
    let revision ← Json.defaulted "revision" (Json.unsigned 64) 0 fields
    let reason ← Json.defaulted "reason" Json.string "" fields
    let defaultSubnetCidr ← Json.defaulted "defaultSubnetCidr" Json.string "" fields
    return { networkId, revision, reason, defaultSubnetCidr }

def ControlWsDeviceIPReassigned.decode : Json.Decoder ControlWsDeviceIPReassigned :=
  members fun fields => do
    let networkId ← Json.required "networkId" Json.string fields
    let deviceId ← Json.required "deviceId" Json.string fields
    let attachmentId ← Json.required "attachmentId" Json.string fields
    let virtualIp ← Json.required "virtualIp" Json.string fields
    let reason ← Json.defaulted "reason" Json.string "" fields
    return { networkId, deviceId, attachmentId, virtualIp, reason }

def ControlWsActiveNetworkEnabled.decode : Json.Decoder ControlWsActiveNetworkEnabled :=
  members fun fields => do
    let userId ← Json.required "userId" Json.string fields
    let networkId ← Json.required "networkId" Json.string fields
    let reason ← Json.defaulted "reason" Json.string "" fields
    return { userId, networkId, reason }

def NodeHelloAck.decode : Json.Decoder NodeHelloAck := members fun fields => do
  let controlSessionId ← Json.required "controlSessionId" Json.string fields
  let heartbeatSeconds ← Json.required "heartbeatSeconds" (Json.unsigned 32) fields
  let networkRevision ← Json.required "networkRevision" (Json.unsigned 64) fields
  return { controlSessionId, heartbeatSeconds, networkRevision }

def Pong.decode : Json.Decoder Pong := members fun fields => do
  let timestamp ← Json.required "timestamp" (Json.signed 64) fields
  return { timestamp }

def Envelope.decode : Json.Decoder Envelope := members fun fields => do
  let msgType ← Json.required "type" Json.string fields
  let requestId ← Json.optional "requestId" Json.string fields
  let messageId ← Json.optional "messageId" Json.string fields
  let payload ← Json.defaulted "payload" .ok .null fields
  return { msgType, requestId, messageId, payload }

/-! ## `decode_control_ws_event` -/

def decodePayload {α : Type} (texts : ControlTexts) (msgType : String) (d : Json.Decoder α)
    (payload : Json) : Except String α :=
  match d payload with
  | .ok a => .ok a
  | .error err => .error ("decode " ++ msgType ++ ": " ++ texts.jsonError err)

def decodeControlWsEvent (texts : ControlTexts) (response : Envelope) :
    Except String ControlWsEvent :=
  match response.msgType with
  | "peer_update" =>
    .peerUpdate <$> decodePayload texts "peer_update" ControlWsPeerUpdate.decode response.payload
  | "peer_remove" =>
    .peerRemove <$> decodePayload texts "peer_remove" ControlWsPeerRemove.decode response.payload
  | "connect_plan" =>
    .connectPlan <$>
      decodePayload texts "connect_plan" ControlWsConnectPlan.decode response.payload
  | "network_restart_required" =>
    .networkRestartRequired <$> decodePayload texts "network_restart_required"
      ControlWsNetworkRestartRequired.decode response.payload
  | "device_ip_reassigned" =>
    .deviceIPReassigned <$> decodePayload texts "device_ip_reassigned"
      ControlWsDeviceIPReassigned.decode response.payload
  | "active_network_enabled" =>
    .activeNetworkEnabled <$> decodePayload texts "active_network_enabled"
      ControlWsActiveNetworkEnabled.decode response.payload
  | other => .error ("unexpected control ws event: " ++ other)

/-! ## Errors -/

def formatControlError (texts : ControlTexts) (payload : Json) : String :=
  let decoded := members (fun fields => do
    let code ← Json.defaulted "code" Json.string "" fields
    let message ← Json.defaulted "message" Json.string "" fields
    return (code, message)) payload
  match decoded with
  | .ok (code, message) => if Text.isBlank message then code else code ++ ": " ++ message
  | .error _ => texts.json payload

def isControlWsTimeoutError (error : String) : Bool :=
  let lower := error.toList.map Char.toLower
  ["timed out", "would block", "resource temporarily unavailable", "os error 35"].any fun text =>
    text.toList <:+: lower

/-! ## URLs -/

def stripPrefix (start text : String) : Option String :=
  if start.toList.isPrefixOf text.toList then
    some (String.ofList (text.toList.drop start.toList.length))
  else none

/-- What stands before the first slash. -/
def authorityOf (rest : String) : String :=
  match splitOnce ['/'] rest.toList with
  | some (authority, _) => String.ofList authority
  | none => rest

/-- `parse_ws_url`, to where it fails. -/
def parseWsUrl (url : String) : Except String Unit :=
  match stripPrefix "ws://" (Text.trim url) with
  | none => .error "only ws:// control plane URLs are currently supported"
  | some rest =>
    if Text.isBlank (authorityOf rest) then .error "invalid control plane ws url" else .ok ()

structure AckTarget where
  baseUrl : String
  accessToken : String
  deriving DecidableEq, Repr

def AckTarget.fromWsUrl (wsUrl accessToken : String) : Option AckTarget := do
  let rest ← stripPrefix "ws://" (Text.trim wsUrl)
  let authority := Text.trim (authorityOf rest)
  if authority = "" ∨ Text.isBlank accessToken = true then none
  else some ⟨"http://" ++ authority, accessToken⟩

/-! ## `ControlWsClient` -/

/-- An event, with the number of the envelope that it came in. -/
structure Received where
  serial : Nat
  event : ControlWsEvent
  deriving DecidableEq, Repr

structure ControlWsClient where
  ackTarget : Option AckTarget
  queuedEvents : List Received
  deriving DecidableEq, Repr

/-- What a read meets; `ackSent` tells whether the request that acknowledges the frame, if one is
made, gets as far as being written. -/
inductive Incoming where
  | frame (payload : Json) (ackSent : Bool)
  | failed (err : String)

/-- What a waiting reader makes of an envelope. -/
inductive Reply (α : Type) where
  | answer (a : α)
  | event (event : ControlWsEvent)

namespace ControlWsClient

/-- The rest of `connect`, from resolving the address to the upgrade, is given by its outcome. -/
def connect (config : ControlWsConfig) (upgrade : Except String Unit) :
    Except String ControlWsClient := do
  parseWsUrl config.wsUrl
  upgrade
  return ⟨AckTarget.fromWsUrl config.wsUrl config.accessToken, []⟩

def readEnvelope (texts : ControlTexts) : Incoming → Except String Envelope
  | .frame payload _ =>
    match Envelope.decode payload with
    | .ok envelope => .ok envelope
    | .error err => .error ("decode ws envelope: " ++ texts.jsonError err)
  | .failed err => .error err

/-- The envelope for which reading sends an acknowledgement. -/
def acknowledged (client : ControlWsClient) : Incoming → Option Envelope
  | .frame payload true =>
    match client.ackTarget, Envelope.decode payload with
    | some _, .ok envelope => if envelope.messageId.isSome then some envelope else none
    | _, _ => none
  | _ => none

/-- One turn of the loop of `read_response_envelope`, and the decoding of the answer. -/
def readReply {α : Type} (texts : ControlTexts) (expectedType : String)
    (decode : Json → Except String α) (incoming : Incoming) : Except String (Reply α) := do
  let response ← readEnvelope texts incoming
  if response.msgType = "error" then .error (formatControlError texts response.payload)
  else if response.msgType = expectedType then .answer <$> decode response.payload
  else
    match decodeControlWsEvent texts response with
    | .ok event => .ok (.event event)
    | .error _ =>
      .error ("unexpected control ws response while waiting for " ++ expectedType)

def readPong (texts : ControlTexts) : Incoming → Except String (Reply Pong) :=
  readReply texts "pong" (decodePayload texts "pong" Pong.decode)

def readHelloAck (texts : ControlTexts) : Incoming → Except String (Reply NodeHelloAck) :=
  readReply texts "node_hello_ack" (decodePayload texts "node_hello_ack" NodeHelloAck.decode)

def readNetworkMap (texts : ControlTexts) : Incoming → Except String (Reply NetworkMap) :=
  readReply texts "network_map_response"
    (decodePayload texts "network_map_response" decodeNetworkMap)

/-- `read_event` with nothing queued. -/
def readEvent (texts : ControlTexts) (incoming : Incoming) : Except String ControlWsEvent := do
  let response ← readEnvelope texts incoming
  if response.msgType = "error" then .error (formatControlError texts response.payload)
  else decodeControlWsEvent texts response

def enqueue (client : ControlWsClient) (received : Received) : ControlWsClient :=
  { client with queuedEvents := client.queuedEvents ++ [received] }

end ControlWsClient

end Slan.Client
