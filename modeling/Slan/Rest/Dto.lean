import Slan.Lib.Marshal
import Slan.Control.RelayTickets

/-! # `server-biz/api/dto`: the values that the handlers return, and their JSON

Every field is written under its tag; one with `omitempty` is left out when it is empty.
-/

namespace Slan.Dto

open Json (Slice object omitString omitInt omitFalse omitSlice slice)

/-! ## Accounts, devices and nodes -/

structure AuthResponse where
  userId : String
  accessToken : String
  refreshToken : String
  expiresIn : Int64
  deriving DecidableEq, Repr

structure Device where
  deviceId : String
  name : String
  ownerEmail : String
  platform : String
  machineId : String
  status : String
  currentVirtualIp : String
  linkStatus : String
  connectivityProtocol : String
  joinedAt : Int64
  createdAt : Int64
  publicKey : String
  networkIds : Slice String
  deriving DecidableEq, Repr

structure Node where
  nodeId : String
  deviceId : String
  nodePublicKey : String
  networkIds : Slice String
  capabilities : Slice String
  deriving DecidableEq, Repr

def AuthResponse.encode (auth : AuthResponse) : Json :=
  object [("userId", some (.str auth.userId)), ("accessToken", some (.str auth.accessToken)),
    ("refreshToken", omitString auth.refreshToken),
    ("expiresIn", some (.num auth.expiresIn.toInt))]

def Device.encode (device : Device) : Json :=
  object [("deviceId", some (.str device.deviceId)), ("name", some (.str device.name)),
    ("ownerEmail", omitString device.ownerEmail), ("platform", some (.str device.platform)),
    ("machineId", omitString device.machineId), ("status", some (.str device.status)),
    ("currentVirtualIp", omitString device.currentVirtualIp),
    ("linkStatus", omitString device.linkStatus),
    ("connectivityProtocol", omitString device.connectivityProtocol),
    ("joinedAt", omitInt device.joinedAt.toInt), ("createdAt", omitInt device.createdAt.toInt),
    ("publicKey", omitString device.publicKey), ("networkIds", omitSlice .str device.networkIds)]

def Node.encode (node : Node) : Json :=
  object [("nodeId", some (.str node.nodeId)), ("deviceId", some (.str node.deviceId)),
    ("nodePublicKey", some (.str node.nodePublicKey)),
    ("networkIds", omitSlice .str node.networkIds),
    ("capabilities", omitSlice .str node.capabilities)]

/-! ## Networks -/

structure Network where
  networkId : String
  name : String
  description : String
  defaultSubnetId : String
  defaultSubnetCidr : String
  joinKeyConfigured : Bool
  deriving DecidableEq, Repr

structure Subnet where
  subnetId : String
  networkId : String
  name : String
  cidr : String
  gatewayIp : String
  allocationStartIp : String
  allocationEndIp : String
  isDefault : Bool
  status : String
  deriving DecidableEq, Repr

structure NetworkMember where
  memberId : String
  networkId : String
  deviceId : String
  role : String
  createdAt : Int64
  status : String
  deriving DecidableEq, Repr

structure SubnetAttachment where
  attachmentId : String
  networkId : String
  subnetId : String
  deviceId : String
  virtualIp : String
  remark : String
  status : String
  deriving DecidableEq, Repr

structure NetworkJoinResult where
  member : NetworkMember
  attachment : SubnetAttachment
  deriving DecidableEq, Repr

structure DnsConfig where
  servers : Slice String
  searchDomains : Slice String
  deriving DecidableEq, Repr

/-- The fields of the embedded network are fields of the detail. -/
structure NetworkDetail extends Network where
  ownedByCurrentUser : Bool
  dns : DnsConfig
  joinKey : String
  subnets : Slice Subnet
  members : Slice NetworkMember
  deriving DecidableEq, Repr

def Network.fields (network : Network) : List (String × Option Json) :=
  [("networkId", some (.str network.networkId)), ("name", some (.str network.name)),
    ("description", omitString network.description),
    ("defaultSubnetId", omitString network.defaultSubnetId),
    ("defaultSubnetCidr", omitString network.defaultSubnetCidr),
    ("joinKeyConfigured", omitFalse network.joinKeyConfigured)]

def Network.encode (network : Network) : Json := object network.fields

def Subnet.encode (subnet : Subnet) : Json :=
  object [("subnetId", some (.str subnet.subnetId)), ("networkId", some (.str subnet.networkId)),
    ("name", some (.str subnet.name)), ("cidr", some (.str subnet.cidr)),
    ("gatewayIp", omitString subnet.gatewayIp),
    ("allocationStartIp", omitString subnet.allocationStartIp),
    ("allocationEndIp", omitString subnet.allocationEndIp),
    ("isDefault", some (.bool subnet.isDefault)), ("status", omitString subnet.status)]

def NetworkMember.encode (member : NetworkMember) : Json :=
  object [("memberId", some (.str member.memberId)), ("networkId", some (.str member.networkId)),
    ("deviceId", some (.str member.deviceId)), ("role", some (.str member.role)),
    ("createdAt", omitInt member.createdAt.toInt), ("status", omitString member.status)]

def SubnetAttachment.encode (attachment : SubnetAttachment) : Json :=
  object [("attachmentId", some (.str attachment.attachmentId)),
    ("networkId", some (.str attachment.networkId)), ("subnetId", some (.str attachment.subnetId)),
    ("deviceId", some (.str attachment.deviceId)),
    ("virtualIp", omitString attachment.virtualIp), ("remark", omitString attachment.remark),
    ("status", omitString attachment.status)]

def NetworkJoinResult.encode (result : NetworkJoinResult) : Json :=
  object [("member", some result.member.encode), ("attachment", some result.attachment.encode)]

def DnsConfig.encode (dns : DnsConfig) : Json :=
  object [("servers", omitSlice .str dns.servers),
    ("searchDomains", omitSlice .str dns.searchDomains)]

def NetworkDetail.encode (detail : NetworkDetail) : Json :=
  object (detail.toNetwork.fields ++
    [("ownedByCurrentUser", some (.bool detail.ownedByCurrentUser)),
      ("dns", some detail.dns.encode), ("joinKey", omitString detail.joinKey),
      ("subnets", some (slice Subnet.encode detail.subnets)),
      ("members", some (slice NetworkMember.encode detail.members))])

/-! ## Relays -/

structure RelayNode where
  nodeId : String
  transport : String
  address : String
  priority : Int64
  tags : Slice String
  deriving DecidableEq, Repr

structure RelayCluster where
  clusterId : String
  clusterName : String
  nodes : Slice RelayNode
  deriving DecidableEq, Repr

structure RelayCity where
  cityCode : String
  cityName : String
  clusters : Slice RelayCluster
  deriving DecidableEq, Repr

structure RelayCountry where
  countryCode : String
  countryName : String
  cities : Slice RelayCity
  deriving DecidableEq, Repr

structure RelayConfig where
  defaultClusterId : String
  countries : Slice RelayCountry
  deriving DecidableEq, Repr

structure DerpNode where
  nodeId : String
  host : String
  port : Int64
  transport : String
  priority : Int64
  tags : Slice String
  deriving DecidableEq, Repr

structure DerpCluster where
  clusterId : String
  clusterName : String
  regionId : String
  regionName : String
  countryCode : String
  countryName : String
  cityCode : String
  cityName : String
  recommendedFanout : Int64
  nodes : Slice DerpNode
  deriving DecidableEq, Repr

structure DerpMap where
  probeIntervalSeconds : Int64
  clusters : Slice DerpCluster
  deriving DecidableEq, Repr

def RelayNode.encode (node : RelayNode) : Json :=
  object [("nodeId", some (.str node.nodeId)), ("transport", some (.str node.transport)),
    ("address", some (.str node.address)), ("priority", some (.num node.priority.toInt)),
    ("tags", omitSlice .str node.tags)]

def RelayCluster.encode (cluster : RelayCluster) : Json :=
  object [("clusterId", some (.str cluster.clusterId)),
    ("clusterName", some (.str cluster.clusterName)),
    ("nodes", omitSlice RelayNode.encode cluster.nodes)]

def RelayCity.encode (city : RelayCity) : Json :=
  object [("cityCode", some (.str city.cityCode)), ("cityName", some (.str city.cityName)),
    ("clusters", omitSlice RelayCluster.encode city.clusters)]

def RelayCountry.encode (country : RelayCountry) : Json :=
  object [("countryCode", some (.str country.countryCode)),
    ("countryName", some (.str country.countryName)),
    ("cities", omitSlice RelayCity.encode country.cities)]

def RelayConfig.encode (relay : RelayConfig) : Json :=
  object [("defaultClusterId", some (.str relay.defaultClusterId)),
    ("countries", omitSlice RelayCountry.encode relay.countries)]

def DerpNode.encode (node : DerpNode) : Json :=
  object [("nodeId", some (.str node.nodeId)), ("host", some (.str node.host)),
    ("port", some (.num node.port.toInt)), ("transport", some (.str node.transport)),
    ("priority", some (.num node.priority.toInt)), ("tags", omitSlice .str node.tags)]

def DerpCluster.encode (cluster : DerpCluster) : Json :=
  object [("clusterId", some (.str cluster.clusterId)),
    ("clusterName", omitString cluster.clusterName), ("regionId", some (.str cluster.regionId)),
    ("regionName", some (.str cluster.regionName)),
    ("countryCode", omitString cluster.countryCode),
    ("countryName", omitString cluster.countryName), ("cityCode", omitString cluster.cityCode),
    ("cityName", omitString cluster.cityName),
    ("recommendedFanout", some (.num cluster.recommendedFanout.toInt)),
    ("nodes", omitSlice DerpNode.encode cluster.nodes)]

def DerpMap.encode (derpMap : DerpMap) : Json :=
  object [("probeIntervalSeconds", some (.num derpMap.probeIntervalSeconds.toInt)),
    ("clusters", omitSlice DerpCluster.encode derpMap.clusters)]

/-! ## The network map -/

structure Endpoint where
  type : String
  address : String
  updatedAt : Int64
  deriving DecidableEq, Repr

structure Peer where
  nodeId : String
  deviceId : String
  publicKey : String
  status : String
  relayAllowed : Bool
  virtualIps : Slice String
  endpoints : Slice Endpoint
  allowedRoutes : Slice String
  deriving DecidableEq, Repr

structure Route where
  cidr : String
  viaNodeId : String
  metric : String
  deriving DecidableEq, Repr

structure RelayEndpoint where
  endpointId : String
  transport : String
  address : String
  deriving DecidableEq, Repr

structure RelayRegion where
  regionId : String
  regionName : String
  countryCode : String
  countryName : String
  cityCode : String
  cityName : String
  clusterId : String
  clusterName : String
  endpoints : Slice RelayEndpoint
  deriving DecidableEq, Repr

structure NetworkMap where
  selfUserId : String
  selfDeviceId : String
  selfNodeId : String
  networkId : String
  revision : UInt64
  heartbeatSeconds : Int64
  stunServers : Slice String
  peers : Slice Peer
  routes : Slice Route
  relayRegions : Slice RelayRegion
  dns : DnsConfig
  mtu : Int64
  deriving DecidableEq, Repr

def Endpoint.encode (endpoint : Endpoint) : Json :=
  object [("type", some (.str endpoint.type)), ("address", some (.str endpoint.address)),
    ("updatedAt", some (.num endpoint.updatedAt.toInt))]

def Peer.encode (peer : Peer) : Json :=
  object [("nodeId", some (.str peer.nodeId)), ("deviceId", some (.str peer.deviceId)),
    ("publicKey", some (.str peer.publicKey)), ("status", some (.str peer.status)),
    ("relayAllowed", some (.bool peer.relayAllowed)),
    ("virtualIps", omitSlice .str peer.virtualIps),
    ("endpoints", omitSlice Endpoint.encode peer.endpoints),
    ("allowedRoutes", omitSlice .str peer.allowedRoutes)]

def Route.encode (route : Route) : Json :=
  object [("cidr", some (.str route.cidr)), ("viaNodeId", some (.str route.viaNodeId)),
    ("metric", omitString route.metric)]

def RelayEndpoint.encode (endpoint : RelayEndpoint) : Json :=
  object [("endpointId", some (.str endpoint.endpointId)),
    ("transport", some (.str endpoint.transport)), ("address", some (.str endpoint.address))]

def RelayRegion.encode (region : RelayRegion) : Json :=
  object [("regionId", some (.str region.regionId)), ("regionName", some (.str region.regionName)),
    ("countryCode", omitString region.countryCode), ("countryName", omitString region.countryName),
    ("cityCode", omitString region.cityCode), ("cityName", omitString region.cityName),
    ("clusterId", omitString region.clusterId), ("clusterName", omitString region.clusterName),
    ("endpoints", omitSlice RelayEndpoint.encode region.endpoints)]

def NetworkMap.encode (map : NetworkMap) : Json :=
  object [("selfUserId", some (.str map.selfUserId)),
    ("selfDeviceId", some (.str map.selfDeviceId)), ("selfNodeId", some (.str map.selfNodeId)),
    ("networkId", some (.str map.networkId)), ("revision", some (.num map.revision.toNat)),
    ("heartbeatSeconds", some (.num map.heartbeatSeconds.toInt)),
    ("stunServers", omitSlice .str map.stunServers), ("peers", omitSlice Peer.encode map.peers),
    ("routes", omitSlice Route.encode map.routes),
    ("relayRegions", omitSlice RelayRegion.encode map.relayRegions),
    ("dns", some map.dns.encode), ("mtu", omitInt map.mtu.toInt)]

/-! ## Bootstrap and tickets -/

structure DeviceBootstrap where
  device : Device
  attachments : Slice SubnetAttachment
  deriving DecidableEq, Repr

structure ControlPlaneConfig where
  wsUrl : String
  heartbeatSeconds : Int64
  deriving DecidableEq, Repr

structure BootstrapResponse where
  controlSessionId : String
  sessionToken : String
  device : DeviceBootstrap
  networks : Slice NetworkDetail
  controlPlane : ControlPlaneConfig
  stunServers : Slice String
  relay : RelayConfig
  derpMap : DerpMap
  networkMap : NetworkMap
  deriving DecidableEq, Repr

def DeviceBootstrap.encode (bootstrap : DeviceBootstrap) : Json :=
  object [("device", some bootstrap.device.encode),
    ("attachments", some (slice SubnetAttachment.encode bootstrap.attachments))]

def ControlPlaneConfig.encode (config : ControlPlaneConfig) : Json :=
  object [("wsUrl", some (.str config.wsUrl)),
    ("heartbeatSeconds", some (.num config.heartbeatSeconds.toInt))]

def BootstrapResponse.encode (response : BootstrapResponse) : Json :=
  object [("controlSessionId", omitString response.controlSessionId),
    ("sessionToken", omitString response.sessionToken),
    ("device", some response.device.encode),
    ("networks", some (slice NetworkDetail.encode response.networks)),
    ("controlPlane", some response.controlPlane.encode),
    ("stunServers", some (slice .str response.stunServers)),
    ("relay", some response.relay.encode), ("derpMap", some response.derpMap.encode),
    ("networkMap", some response.networkMap.encode)]

/-- The ticket that `issueRelayTicket` returns. -/
def encodeRelayTicket (ticket : Control.RelayTicket) : Json :=
  object [("ticketId", some (.str ticket.ticketId)), ("networkId", some (.str ticket.networkId)),
    ("sessionId", some (.str ticket.sessionId)), ("srcNodeId", some (.str ticket.srcNodeId)),
    ("dstNodeId", some (.str ticket.dstNodeId)),
    ("derpClusterId", omitString ticket.derpClusterId),
    ("countryCode", omitString ticket.countryCode), ("cityCode", omitString ticket.cityCode),
    ("allowedDerpNodeIds", omitSlice .str (some ticket.allowedDerpNodeIds)),
    ("relayUrl", some (.str ticket.relayUrl)), ("expiresAt", some (.str ticket.expiresAt)),
    ("sessionKey", omitString ticket.sessionKey), ("signature", some (.str ticket.signature))]

/-! ## Responses -/

/-- What a handler that the client calls answers with on success. -/
inductive Response where
  | register (auth : AuthResponse)
  | login (auth : AuthResponse)
  | registerDevice (device : Device)
  | registerNode (node : Node)
  | listNetworks (items : Slice Network)
  | createNetwork (network : Network)
  | joinNetwork (result : NetworkJoinResult)
  | activateNetwork (result : NetworkJoinResult)
  | deactivateNetwork
  | bootstrap (response : BootstrapResponse)
  | issueRelayTicket (ticket : Control.RelayTicket)

/-- The status that the route gives it. -/
def Response.status : Response → Nat
  | .register _ | .registerDevice _ | .registerNode _ | .createNetwork _ | .issueRelayTicket _ => 201
  | .login _ | .listNetworks _ | .joinNetwork _ | .activateNetwork _ | .deactivateNetwork
  | .bootstrap _ => 200

def Response.body : Response → Json
  | .register auth | .login auth => auth.encode
  | .registerDevice device => device.encode
  | .registerNode node => node.encode
  | .listNetworks items => object [("items", some (slice Network.encode items))]
  | .createNetwork network => network.encode
  | .joinNetwork result | .activateNetwork result => result.encode
  | .deactivateNetwork => object [("status", some (.str "deactivated"))]
  | .bootstrap response => response.encode
  | .issueRelayTicket ticket => encodeRelayTicket ticket

end Slan.Dto
