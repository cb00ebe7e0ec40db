import Slan.Rest.Dto
import Slan.Rest.ControllerClient

/-! # What the client reads of the answers that the control plane writes -/

namespace Slan.Dto

open Json (Slice FitsBits nonEmpty)
open ControllerClient

/-! ## What the client should have of a value -/

def AuthResponse.carried (auth : AuthResponse) : Session where
  userId := auth.userId
  accessToken := auth.accessToken
  refreshToken := nonEmpty auth.refreshToken
  expiresIn := auth.expiresIn.toInt
  deviceId := none

def Device.carried (device : Device) : ControllerClient.Device where
  deviceId := device.deviceId
  virtualIp := nonEmpty device.currentVirtualIp
  name := device.name
  platform := device.platform
  status := device.status
  publicKey := nonEmpty device.publicKey

def Node.carried (node : Node) : ControllerClient.Node where
  nodeId := node.nodeId
  nodePublicKey := node.nodePublicKey
  capabilities := node.capabilities.items
  deviceId := node.deviceId
  networkIds := node.networkIds.items

/-- Addresses belong to attachments. -/
def NetworkMember.carried (member : NetworkMember) : ControllerClient.NetworkMember where
  deviceId := member.deviceId
  role := member.role
  virtualIp := none

def Network.carried (network : Network) : ControllerClient.Network where
  networkId := network.networkId
  name := network.name
  cidr := network.defaultSubnetCidr
  members := []

def NetworkJoinResult.carried (result : NetworkJoinResult) : NetworkJoinResultDto where
  networkId := result.member.networkId
  deviceId := result.member.deviceId

/-- The range of the default subnet. -/
def NetworkDetail.cidr (detail : NetworkDetail) : String :=
  if detail.defaultSubnetCidr ≠ "" then detail.defaultSubnetCidr
  else ((detail.subnets.items.find? Subnet.isDefault).or detail.subnets.items.head?).elim ""
    Subnet.cidr

def NetworkDetail.carried (detail : NetworkDetail) : ControllerClient.Network where
  networkId := detail.networkId
  name := detail.name
  cidr := detail.cidr
  members := detail.members.items.map NetworkMember.carried

def RelayNode.carried (node : RelayNode) : ControllerClient.RelayNode where
  nodeId := node.nodeId
  transport := node.transport
  address := node.address
  priority := node.priority.toInt.toNat
  tags := node.tags.items

def RelayCluster.carried (cluster : RelayCluster) : ControllerClient.RelayCluster where
  clusterId := cluster.clusterId
  clusterName := cluster.clusterName
  nodes := cluster.nodes.items.map RelayNode.carried

def RelayCity.carried (city : RelayCity) : ControllerClient.RelayCity where
  cityCode := city.cityCode
  cityName := city.cityName
  clusters := city.clusters.items.map RelayCluster.carried

def RelayCountry.carried (country : RelayCountry) : ControllerClient.RelayCountry where
  countryCode := country.countryCode
  countryName := country.countryName
  cities := country.cities.items.map RelayCity.carried

def RelayConfig.carried (relay : RelayConfig) : ControllerClient.RelayConfig where
  defaultClusterId := relay.defaultClusterId
  countries := relay.countries.items.map RelayCountry.carried

/-- The client knows three transports. -/
def transportOf : String → Option Client.DerpTransport
  | "udp" => some .udp
  | "tcp" => some .tcp
  | "quic" => some .quic
  | _ => none

def DerpNode.carried (cluster : DerpCluster) (node : DerpNode) : Option Client.DerpNodeMeta :=
  (transportOf node.transport).map fun transport =>
    { clusterId := cluster.clusterId
      regionId := cluster.regionId
      countryCode := nonEmpty cluster.countryCode
      countryName := nonEmpty cluster.countryName
      cityCode := nonEmpty cluster.cityCode
      cityName := nonEmpty cluster.cityName
      nodeId := node.nodeId
      host := node.host
      port := .ofNat node.port.toInt.toNat
      transport
      priority := .ofNat node.priority.toInt.toNat
      tags := node.tags.items }

def DerpCluster.carried (cluster : DerpCluster) : Option ControllerClient.DerpCluster :=
  (cluster.nodes.items.mapM (DerpNode.carried cluster)).map fun nodes =>
    { clusterId := cluster.clusterId
      clusterName := nonEmpty cluster.clusterName
      regionId := cluster.regionId
      regionName := cluster.regionName
      countryCode := nonEmpty cluster.countryCode
      countryName := nonEmpty cluster.countryName
      cityCode := nonEmpty cluster.cityCode
      cityName := nonEmpty cluster.cityName
      recommendedFanout := cluster.recommendedFanout.toInt.toNat
      nodes }

/-- Nothing if a node has a transport that the client does not know. -/
def DerpMap.carried (derpMap : DerpMap) : Option ControllerClient.DerpMap :=
  (derpMap.clusters.items.mapM DerpCluster.carried).map fun clusters =>
    { probeIntervalSeconds := derpMap.probeIntervalSeconds.toInt.toNat
      clusters }

def Endpoint.carried (endpoint : Endpoint) : Client.Endpoint where
  endpointType := endpoint.type
  address := endpoint.address
  updatedAt := endpoint.updatedAt.toInt

def Peer.carried (peer : Peer) : Client.Peer where
  nodeId := peer.nodeId
  deviceId := peer.deviceId
  publicKey := peer.publicKey
  status := peer.status
  relayAllowed := peer.relayAllowed
  virtualIps := peer.virtualIps.items
  endpoints := peer.endpoints.items.map Endpoint.carried
  allowedRoutes := peer.allowedRoutes.items

def Route.carried (route : Route) : Client.Route where
  cidr := route.cidr
  viaNodeId := route.viaNodeId
  metric := nonEmpty route.metric

def RelayEndpoint.carried (endpoint : RelayEndpoint) : Client.RelayEndpoint where
  endpointId := endpoint.endpointId
  transport := endpoint.transport
  address := endpoint.address

def RelayRegion.carried (region : RelayRegion) : Client.RelayRegion where
  regionId := region.regionId
  regionName := region.regionName
  countryCode := nonEmpty region.countryCode
  countryName := nonEmpty region.countryName
  cityCode := nonEmpty region.cityCode
  cityName := nonEmpty region.cityName
  clusterId := nonEmpty region.clusterId
  clusterName := nonEmpty region.clusterName
  endpoints := region.endpoints.items.map RelayEndpoint.carried

def DnsConfig.carried (dns : DnsConfig) : Client.DnsConfig where
  servers := dns.servers.items
  searchDomains := dns.searchDomains.items

def NetworkMap.carried (map : NetworkMap) : Client.NetworkMap where
  selfUserId := map.selfUserId
  selfDeviceId := map.selfDeviceId
  selfNodeId := map.selfNodeId
  networkId := map.networkId
  revision := map.revision.toNat
  heartbeatSeconds := map.heartbeatSeconds.toInt.toNat
  stunServers := map.stunServers.items
  peers := map.peers.items.map Peer.carried
  routes := map.routes.items.map Route.carried
  relayRegions := map.relayRegions.items.map RelayRegion.carried
  dns := map.dns.carried
  mtu := if map.mtu.toInt = 0 then none else some map.mtu.toInt.toNat

/-- The device's address in a network: its own field, or the first attachment's there. -/
def DeviceBootstrap.virtualIp (bootstrap : DeviceBootstrap) (networkId : String) : String :=
  if bootstrap.device.currentVirtualIp ≠ "" then bootstrap.device.currentVirtualIp
  else (bootstrap.attachments.items.find? fun attachment =>
    attachment.networkId == networkId).elim "" SubnetAttachment.virtualIp

def BootstrapResponse.carried (response : BootstrapResponse) : BootstrapConfig where
  device := { response.device.device.carried with
    virtualIp := nonEmpty (response.device.virtualIp response.networkMap.networkId) }
  networks := response.networks.items.map NetworkDetail.carried
  controlPlane :=
    { wsUrl := response.controlPlane.wsUrl
      sessionToken := nonEmpty response.sessionToken
      heartbeatSeconds := response.controlPlane.heartbeatSeconds.toInt.toNat }
  stunServers := response.stunServers.items
  relay := response.relay.carried
  derpMap := response.derpMap.carried
  networkMap := some response.networkMap.carried

def carriedTicket (ticket : Control.RelayTicket) : Client.RelayTicket where
  ticketId := ticket.ticketId
  networkId := ticket.networkId
  sessionId := ticket.sessionId
  srcNodeId := ticket.srcNodeId
  dstNodeId := ticket.dstNodeId
  derpClusterId := nonEmpty ticket.derpClusterId
  countryCode := nonEmpty ticket.countryCode
  cityCode := nonEmpty ticket.cityCode
  allowedDerpNodeIds := ticket.allowedDerpNodeIds
  relayUrl := ticket.relayUrl
  expiresAt := ticket.expiresAt
  sessionKey := nonEmpty ticket.sessionKey
  signature := ticket.signature

/-- The client makes of an answer what it says. -/
def Response.Agrees (texts : Client.ControlTexts) (response : Response) : Prop :=
  let received : HttpResponse := ⟨response.status, response.body⟩
  match response with
  | .register auth => HttpControllerClient.register texts received = .ok auth.carried
  | .login auth => HttpControllerClient.login texts received = .ok auth.carried
  | .registerDevice device => HttpControllerClient.registerDevice texts received = .ok device.carried
  | .registerNode node => HttpControllerClient.registerNode texts received = .ok node.carried
  | .listNetworks items =>
    HttpControllerClient.listNetworks texts received = .ok (items.items.map Network.carried)
  | .createNetwork network => HttpControllerClient.createNetwork texts received = .ok network.carried
  | .joinNetwork result | .activateNetwork result =>
    HttpControllerClient.joinNetwork texts received = .ok result.carried
  | .deactivateNetwork => HttpControllerClient.deactivateNetwork texts received = .ok ()
  | .bootstrap value => HttpControllerClient.bootstrap texts received = .ok value.carried
  | .issueRelayTicket ticket =>
    HttpControllerClient.issueRelayTicket texts received = .ok (carriedTicket ticket)

end Slan.Dto
