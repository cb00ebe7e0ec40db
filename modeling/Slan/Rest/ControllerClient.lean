import Slan.Client.ControlWs
import Slan.Client.Derp

/-! # `controller-client`: how the client reads the answers of the control plane

A response is given with its body's JSON value. A DTO whose fields are those of the client's own
type is decoded to that type.
-/

namespace Slan.ControllerClient

open Json (Decoder required optional defaulted string boolean signed unsigned list)
open Client (members Endpoint Peer Route RelayEndpoint RelayRegion DnsConfig NetworkMap
  ControlPlaneConfig DerpTransport DerpNodeMeta RelayTicket ControlTexts)

/-! ## What the client keeps -/

structure Session extends Client.Session where
  refreshToken : Option String
  expiresIn : Int
  deviceId : Option String
  deriving DecidableEq, Repr

structure Device extends Client.Device where
  name : String
  platform : String
  status : String
  publicKey : Option String
  deriving DecidableEq, Repr

structure Node extends Client.Node where
  deviceId : String
  networkIds : List String
  deriving DecidableEq, Repr

structure NetworkMember where
  deviceId : String
  role : String
  virtualIp : Option String
  deriving DecidableEq, Repr

structure Network where
  networkId : String
  name : String
  cidr : String
  members : List NetworkMember
  deriving DecidableEq, Repr

structure RelayNode where
  nodeId : String
  transport : String
  address : String
  priority : Nat
  tags : List String
  deriving DecidableEq, Repr

structure RelayCluster where
  clusterId : String
  clusterName : String
  nodes : List RelayNode
  deriving DecidableEq, Repr

structure RelayCity where
  cityCode : String
  cityName : String
  clusters : List RelayCluster
  deriving DecidableEq, Repr

structure RelayCountry where
  countryCode : String
  countryName : String
  cities : List RelayCity
  deriving DecidableEq, Repr

structure RelayConfig where
  defaultClusterId : String
  countries : List RelayCountry
  deriving DecidableEq, Repr

structure DerpCluster where
  clusterId : String
  clusterName : Option String
  regionId : String
  regionName : String
  countryCode : Option String
  countryName : Option String
  cityCode : Option String
  cityName : Option String
  recommendedFanout : Nat
  nodes : List DerpNodeMeta
  deriving DecidableEq, Repr

structure DerpMap where
  probeIntervalSeconds : Nat
  clusters : List DerpCluster
  deriving DecidableEq, Repr

structure BootstrapConfig where
  device : Device
  networks : List Network
  controlPlane : ControlPlaneConfig
  stunServers : List String
  relay : RelayConfig
  derpMap : Option DerpMap
  networkMap : Option NetworkMap
  deriving DecidableEq, Repr

def defaultHeartbeatSeconds : Nat := 15

def defaultProbeIntervalSeconds : Nat := 5

def defaultRecommendedFanout : Nat := 2

/-! ## DTOs -/

def AuthResponseDto.decode : Decoder Session := members fun fields => do
  let userId ← required "userId" string fields
  let accessToken ← required "accessToken" string fields
  let refreshToken ← optional "refreshToken" string fields
  let expiresIn ← defaulted "expiresIn" (signed 64) 0 fields
  let deviceId ← optional "deviceId" string fields
  return { userId, accessToken, refreshToken, expiresIn, deviceId }

def AuthResponseDto.tryInto (session : Session) : Except String Session :=
  if Text.trim session.userId = "" ∨ Text.trim session.accessToken = "" then
    .error "invalid auth response"
  else .ok session

def DeviceDto.decode : Decoder Device := members fun fields => do
  let deviceId ← required "deviceId" string fields
  let name ← required "name" string fields
  let platform ← required "platform" string fields
  let status ← defaulted "status" string "" fields
  let virtualIp ← optional "virtualIp" string fields
  let publicKey ← optional "publicKey" string fields
  return { deviceId, virtualIp, name, platform, status, publicKey }

def NodeDto.decode : Decoder Node := members fun fields => do
  let nodeId ← required "nodeId" string fields
  let deviceId ← required "deviceId" string fields
  let nodePublicKey ← required "nodePublicKey" string fields
  let networkIds ← defaulted "networkIds" (list string) [] fields
  let capabilities ← defaulted "capabilities" (list string) [] fields
  return { nodeId, nodePublicKey, capabilities, deviceId, networkIds }

structure SubnetDto where
  cidr : String
  isDefault : Bool
  deriving DecidableEq, Repr

def SubnetDto.decode : Decoder SubnetDto := members fun fields => do
  let cidr ← required "cidr" string fields
  let isDefault ← defaulted "isDefault" boolean false fields
  return { cidr, isDefault }

def NetworkMemberDto.decode : Decoder NetworkMember := members fun fields => do
  let deviceId ← required "deviceId" string fields
  let role ← defaulted "role" string "" fields
  let virtualIp ← optional "virtualIp" string fields
  return { deviceId, role, virtualIp }

structure NetworkDto where
  networkId : String
  name : String
  cidr : String
  defaultSubnetCidr : Option String
  subnets : List SubnetDto
  members : List NetworkMember
  deriving DecidableEq, Repr

def NetworkDto.decode : Decoder NetworkDto := Client.members fun fields => do
  let networkId ← required "networkId" string fields
  let name ← required "name" string fields
  let cidr ← defaulted "cidr" string "" fields
  let defaultSubnetCidr ← optional "defaultSubnetCidr" string fields
  let subnets ← defaulted "subnets" (list SubnetDto.decode) [] fields
  let members ← defaulted "members" (list NetworkMemberDto.decode) [] fields
  return { networkId, name, cidr, defaultSubnetCidr, subnets, members }

/-- The first default subnet's range, or else the first one's. -/
def subnetCidr (subnets : List SubnetDto) : String :=
  ((subnets.find? SubnetDto.isDefault).or subnets.head?).elim "" SubnetDto.cidr

def NetworkDto.toNetwork (value : NetworkDto) : Network where
  networkId := value.networkId
  name := value.name
  cidr := if value.cidr ≠ "" then value.cidr
    else value.defaultSubnetCidr.getD (subnetCidr value.subnets)
  members := value.members

def ListNetworksResponseDto.decode : Decoder (List NetworkDto) :=
  members (required "items" (list NetworkDto.decode))

structure NetworkJoinResultDto where
  networkId : String
  deviceId : String
  deriving DecidableEq, Repr

def NetworkJoinResultDto.decode : Decoder NetworkJoinResultDto := members fun fields => do
  let networkId ← required "networkId" string fields
  let deviceId ← required "deviceId" string fields
  return { networkId, deviceId }

def BootstrapDeviceDto.decode : Decoder Device := members (required "device" DeviceDto.decode)

def ControlPlaneConfigDto.decode : Decoder ControlPlaneConfig := members fun fields => do
  let wsUrl ← required "wsUrl" string fields
  let sessionToken ← optional "sessionToken" string fields
  let heartbeatSeconds ←
    defaulted "heartbeatSeconds" (unsigned 32) defaultHeartbeatSeconds fields
  return { wsUrl, sessionToken, heartbeatSeconds }

/-! ### Relays -/

def RelayNodeDto.decode : Decoder RelayNode := members fun fields => do
  let nodeId ← required "nodeId" string fields
  let transport ← required "transport" string fields
  let address ← required "address" string fields
  let priority ← defaulted "priority" (unsigned 32) 0 fields
  let tags ← defaulted "tags" (list string) [] fields
  return { nodeId, transport, address, priority, tags }

def RelayClusterDto.decode : Decoder RelayCluster := members fun fields => do
  let clusterId ← required "clusterId" string fields
  let clusterName ← required "clusterName" string fields
  let nodes ← defaulted "nodes" (list RelayNodeDto.decode) [] fields
  return { clusterId, clusterName, nodes }

def RelayCityDto.decode : Decoder RelayCity := members fun fields => do
  let cityCode ← required "cityCode" string fields
  let cityName ← required "cityName" string fields
  let clusters ← defaulted "clusters" (list RelayClusterDto.decode) [] fields
  return { cityCode, cityName, clusters }

def RelayCountryDto.decode : Decoder RelayCountry := members fun fields => do
  let countryCode ← required "countryCode" string fields
  let countryName ← required "countryName" string fields
  let cities ← defaulted "cities" (list RelayCityDto.decode) [] fields
  return { countryCode, countryName, cities }

def RelayConfigDto.decode : Decoder RelayConfig := members fun fields => do
  let defaultClusterId ← required "defaultClusterId" string fields
  let countries ← defaulted "countries" (list RelayCountryDto.decode) [] fields
  return { defaultClusterId, countries }

structure DerpNodeDto where
  nodeId : String
  host : String
  port : Nat
  transport : String
  priority : Nat
  tags : List String
  deriving DecidableEq, Repr

def DerpNodeDto.decode : Decoder DerpNodeDto := members fun fields => do
  let nodeId ← required "nodeId" string fields
  let host ← required "host" string fields
  let port ← required "port" (unsigned 16) fields
  let transport ← required "transport" string fields
  let priority ← defaulted "priority" (unsigned 32) 0 fields
  let tags ← defaulted "tags" (list string) [] fields
  return { nodeId, host, port, transport, priority, tags }

def parseDerpTransport : String → DerpTransport
  | "tcp" => .tcp
  | "quic" => .quic
  | _ => .udp

def DerpNodeDto.intoMeta (node : DerpNodeDto) (clusterId regionId : String)
    (countryCode countryName cityCode cityName : Option String) : DerpNodeMeta where
  clusterId := clusterId
  regionId := regionId
  countryCode := countryCode
  countryName := countryName
  cityCode := cityCode
  cityName := cityName
  nodeId := node.nodeId
  host := node.host
  port := .ofNat node.port
  transport := parseDerpTransport node.transport
  priority := .ofNat node.priority
  tags := node.tags

structure DerpClusterDto where
  clusterId : String
  clusterName : Option String
  regionId : String
  regionName : String
  countryCode : Option String
  countryName : Option String
  cityCode : Option String
  cityName : Option String
  recommendedFanout : Nat
  nodes : List DerpNodeDto
  deriving DecidableEq, Repr

def DerpClusterDto.decode : Decoder DerpClusterDto := members fun fields => do
  let clusterId ← required "clusterId" string fields
  let clusterName ← optional "clusterName" string fields
  let regionId ← required "regionId" string fields
  let regionName ← required "regionName" string fields
  let countryCode ← optional "countryCode" string fields
  let countryName ← optional "countryName" string fields
  let cityCode ← optional "cityCode" string fields
  let cityName ← optional "cityName" string fields
  let recommendedFanout ←
    defaulted "recommendedFanout" (unsigned 8) defaultRecommendedFanout fields
  let nodes ← defaulted "nodes" (list DerpNodeDto.decode) [] fields
  return { clusterId, clusterName, regionId, regionName, countryCode, countryName, cityCode,
           cityName, recommendedFanout, nodes }

def DerpClusterDto.toCluster (value : DerpClusterDto) : DerpCluster where
  clusterId := value.clusterId
  clusterName := value.clusterName
  regionId := value.regionId
  regionName := value.regionName
  countryCode := value.countryCode
  countryName := value.countryName
  cityCode := value.cityCode
  cityName := value.cityName
  recommendedFanout := value.recommendedFanout
  nodes := value.nodes.map fun node => node.intoMeta value.clusterId value.regionId
    value.countryCode value.countryName value.cityCode value.cityName

structure DerpMapDto where
  probeIntervalSeconds : Nat
  clusters : List DerpClusterDto
  deriving DecidableEq, Repr

def DerpMapDto.decode : Decoder DerpMapDto := members fun fields => do
  let probeIntervalSeconds ←
    defaulted "probeIntervalSeconds" (unsigned 32) defaultProbeIntervalSeconds fields
  let clusters ← defaulted "clusters" (list DerpClusterDto.decode) [] fields
  return { probeIntervalSeconds, clusters }

def DerpMapDto.toDerpMap (value : DerpMapDto) : DerpMap where
  probeIntervalSeconds := value.probeIntervalSeconds
  clusters := value.clusters.map DerpClusterDto.toCluster

/-! ### The network map -/

def EndpointDto.decode : Decoder Endpoint := members fun fields => do
  let endpointType ← required "endpointType" string fields
  let address ← required "address" string fields
  let updatedAt ← defaulted "updatedAt" (signed 64) 0 fields
  return { endpointType, address, updatedAt }

def PeerDto.decode : Decoder Peer := members fun fields => do
  let nodeId ← required "nodeId" string fields
  let deviceId ← required "deviceId" string fields
  let publicKey ← required "publicKey" string fields
  let status ← defaulted "status" string "" fields
  let relayAllowed ← defaulted "relayAllowed" boolean false fields
  let virtualIps ← defaulted "virtualIps" (list string) [] fields
  let endpoints ← defaulted "endpoints" (list EndpointDto.decode) [] fields
  let allowedRoutes ← defaulted "allowedRoutes" (list string) [] fields
  return { nodeId, deviceId, publicKey, status, relayAllowed, virtualIps, endpoints,
           allowedRoutes }

def RouteDto.decode : Decoder Route := members fun fields => do
  let cidr ← required "cidr" string fields
  let viaNodeId ← required "viaNodeId" string fields
  let metric ← optional "metric" string fields
  return { cidr, viaNodeId, metric }

def RelayEndpointDto.decode : Decoder RelayEndpoint := members fun fields => do
  let endpointId ← required "endpointId" string fields
  let transport ← required "transport" string fields
  let address ← required "address" string fields
  return { endpointId, transport, address }

def RelayRegionDto.decode : Decoder RelayRegion := members fun fields => do
  let regionId ← required "regionId" string fields
  let regionName ← required "regionName" string fields
  let countryCode ← optional "countryCode" string fields
  let countryName ← optional "countryName" string fields
  let cityCode ← optional "cityCode" string fields
  let cityName ← optional "cityName" string fields
  let clusterId ← optional "clusterId" string fields
  let clusterName ← optional "clusterName" string fields
  let endpoints ← defaulted "endpoints" (list RelayEndpointDto.decode) [] fields
  return { regionId, regionName, countryCode, countryName, cityCode, cityName, clusterId,
           clusterName, endpoints }

def DnsConfigDto.decode : Decoder DnsConfig := members fun fields => do
  let servers ← defaulted "servers" (list string) [] fields
  let searchDomains ← defaulted "searchDomains" (list string) [] fields
  return { servers, searchDomains }

def NetworkMapDto.decode : Decoder NetworkMap := members fun fields => do
  let selfUserId ← required "selfUserId" string fields
  let selfDeviceId ← required "selfDeviceId" string fields
  let selfNodeId ← required "selfNodeId" string fields
  let networkId ← required "networkId" string fields
  let revision ← required "revision" (unsigned 64) fields
  let heartbeatSeconds ←
    defaulted "heartbeatSeconds" (unsigned 32) defaultHeartbeatSeconds fields
  let stunServers ← defaulted "stunServers" (list string) [] fields
  let peers ← defaulted "peers" (list PeerDto.decode) [] fields
  let routes ← defaulted "routes" (list RouteDto.decode) [] fields
  let relayRegions ← defaulted "relayRegions" (list RelayRegionDto.decode) [] fields
  let dns ← required "dns" DnsConfigDto.decode fields
  let mtu ← optional "mtu" (unsigned 32) fields
  return { selfUserId, selfDeviceId, selfNodeId, networkId, revision, heartbeatSeconds,
           stunServers, peers, routes, relayRegions, dns, mtu }

/-! ### Bootstrap and tickets -/

structure BootstrapResponseDto where
  device : Device
  networks : List NetworkDto
  controlPlane : ControlPlaneConfig
  stunServers : List String
  relay : RelayConfig
  derpMap : Option DerpMapDto
  networkMap : Option NetworkMap
  deriving DecidableEq, Repr

def BootstrapResponseDto.decode : Decoder BootstrapResponseDto := members fun fields => do
  let device ← required "device" BootstrapDeviceDto.decode fields
  let networks ← defaulted "networks" (list NetworkDto.decode) [] fields
  let controlPlane ← required "controlPlane" ControlPlaneConfigDto.decode fields
  let stunServers ← defaulted "stunServers" (list string) [] fields
  let relay ← required "relay" RelayConfigDto.decode fields
  let derpMap ← optional "derpMap" DerpMapDto.decode fields
  let networkMap ← optional "networkMap" NetworkMapDto.decode fields
  return { device, networks, controlPlane, stunServers, relay, derpMap, networkMap }

def BootstrapResponseDto.toConfig (value : BootstrapResponseDto) : BootstrapConfig where
  device := value.device
  networks := value.networks.map NetworkDto.toNetwork
  controlPlane := value.controlPlane
  stunServers := value.stunServers
  relay := value.relay
  derpMap := value.derpMap.map DerpMapDto.toDerpMap
  networkMap := value.networkMap

def RelayTicketDto.decode : Decoder RelayTicket := members fun fields => do
  let ticketId ← required "ticketId" string fields
  let networkId ← required "networkId" string fields
  let sessionId ← required "sessionId" string fields
  let srcNodeId ← required "srcNodeId" string fields
  let dstNodeId ← required "dstNodeId" string fields
  let derpClusterId ← optional "derpClusterId" string fields
  let countryCode ← optional "countryCode" string fields
  let cityCode ← optional "cityCode" string fields
  let allowedDerpNodeIds ← defaulted "allowedDerpNodeIds" (list string) [] fields
  let relayUrl ← required "relayUrl" string fields
  let expiresAt ← required "expiresAt" string fields
  let sessionKey ← optional "sessionKey" string fields
  let signature ← required "signature" string fields
  return { ticketId, networkId, sessionId, srcNodeId, dstNodeId, derpClusterId, countryCode,
           cityCode, allowedDerpNodeIds, relayUrl, expiresAt, sessionKey, signature }

/-! ## `HttpControllerClient` -/

structure HttpResponse where
  status : Nat
  body : Json

def parseSuccessResponse {α : Type} (texts : ControlTexts) (response : HttpResponse)
    (d : Decoder α) : Except String α :=
  if 200 ≤ response.status ∧ response.status < 300 then
    (d response.body).mapError texts.jsonError
  else .error ("unexpected http status: " ++ toString response.status)

namespace HttpControllerClient

variable (texts : ControlTexts) (response : HttpResponse)

def register : Except String Session := do
  let session ← parseSuccessResponse texts response AuthResponseDto.decode
  AuthResponseDto.tryInto session

def login : Except String Session := do
  let session ← parseSuccessResponse texts response AuthResponseDto.decode
  AuthResponseDto.tryInto session

def registerDevice : Except String Device :=
  parseSuccessResponse texts response DeviceDto.decode

def registerNode : Except String Node := parseSuccessResponse texts response NodeDto.decode

def listNetworks : Except String (List Network) := do
  let items ← parseSuccessResponse texts response ListNetworksResponseDto.decode
  return items.map NetworkDto.toNetwork

def createNetwork : Except String Network := do
  let network ← parseSuccessResponse texts response NetworkDto.decode
  return network.toNetwork

/-- `join_network` and `activate_network`, with the result that they do not look at. -/
def joinNetwork : Except String NetworkJoinResultDto :=
  parseSuccessResponse texts response NetworkJoinResultDto.decode

/-- Any JSON is accepted. -/
def deactivateNetwork : Except String Unit := do
  let _ ← parseSuccessResponse texts response .ok

def bootstrap : Except String BootstrapConfig := do
  let value ← parseSuccessResponse texts response BootstrapResponseDto.decode
  return value.toConfig

def issueRelayTicket : Except String RelayTicket :=
  parseSuccessResponse texts response RelayTicketDto.decode

end HttpControllerClient

end Slan.ControllerClient
