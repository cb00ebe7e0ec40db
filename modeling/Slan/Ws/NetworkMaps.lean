import Slan.Rest.Agreement
import Slan.Ws.Answers

/-! # `control_ws_mapper.go`: one map, on two ways to the client

The bootstrap response has the map as it is; the control session sends it converted.
-/

namespace Slan.Ws

open Json (FitsBits)

/-! ## The conversion -/

def dtoEndpointToWS (endpoint : Dto.Endpoint) : Endpoint where
  endpointType := endpoint.type
  address := endpoint.address
  updatedAt := endpoint.updatedAt

def dtoEndpointsToWSEndpoints (endpoints : List Dto.Endpoint) : List Endpoint :=
  endpoints.map dtoEndpointToWS

def dtoPeerToWSPeer (peer : Dto.Peer) : Peer where
  nodeId := peer.nodeId
  deviceId := peer.deviceId
  publicKey := peer.publicKey
  status := peer.status
  relayAllowed := peer.relayAllowed
  virtualIps := peer.virtualIps.items
  endpoints := dtoEndpointsToWSEndpoints peer.endpoints.items
  allowedRoutes := peer.allowedRoutes.items

def dtoPeersToWSPeers (peers : List Dto.Peer) : List Peer := peers.map dtoPeerToWSPeer

def dtoRoutesToWSRoutes (routes : List Dto.Route) : List Route :=
  routes.map fun route => ⟨route.cidr, route.viaNodeId, route.metric⟩

def dtoRelayEndpointsToWSRelayEndpoints (endpoints : List Dto.RelayEndpoint) :
    List RelayEndpoint :=
  endpoints.map fun endpoint => ⟨endpoint.endpointId, endpoint.transport, endpoint.address⟩

def dtoRelayRegionsToWSRelayRegions (regions : List Dto.RelayRegion) : List RelayRegion :=
  regions.map fun region =>
    { regionId := region.regionId
      regionName := region.regionName
      countryCode := region.countryCode
      countryName := region.countryName
      cityCode := region.cityCode
      cityName := region.cityName
      clusterId := region.clusterId
      clusterName := region.clusterName
      endpoints := dtoRelayEndpointsToWSRelayEndpoints region.endpoints.items }

def dtoNetworkMapToWS (map : Dto.NetworkMap) : NetworkMap where
  selfUserId := map.selfUserId
  selfDeviceId := map.selfDeviceId
  selfNodeId := map.selfNodeId
  networkId := map.networkId
  revision := map.revision
  heartbeatSeconds := map.heartbeatSeconds
  stunServers := map.stunServers.items
  peers := dtoPeersToWSPeers map.peers.items
  routes := dtoRoutesToWSRoutes map.routes.items
  relayRegions := dtoRelayRegionsToWSRelayRegions map.relayRegions.items
  dns := ⟨map.dns.servers.items, map.dns.searchDomains.items⟩
  mtu := map.mtu

/-! ## The two readings -/

theorem carried_peers (peers : List Dto.Peer) :
    (dtoPeersToWSPeers peers).map Peer.carried = peers.map Dto.Peer.carried := by
  rw [dtoPeersToWSPeers, List.map_map]
  refine List.map_congr_left fun peer _ => ?_
  have hendpoints : (dtoEndpointsToWSEndpoints peer.endpoints.items).map Endpoint.carried =
      peer.endpoints.items.map Dto.Endpoint.carried := by
    rw [dtoEndpointsToWSEndpoints, List.map_map]
    rfl
  change (dtoPeerToWSPeer peer).carried = peer.carried
  unfold Peer.carried Dto.Peer.carried
  dsimp only [dtoPeerToWSPeer]
  rw [hendpoints]

theorem carried_relayRegions (regions : List Dto.RelayRegion) :
    (dtoRelayRegionsToWSRelayRegions regions).map RelayRegion.carried =
      regions.map Dto.RelayRegion.carried := by
  rw [dtoRelayRegionsToWSRelayRegions, List.map_map]
  refine List.map_congr_left fun region _ => ?_
  have hendpoints : (dtoRelayEndpointsToWSRelayEndpoints region.endpoints.items).map
      RelayEndpoint.carried = region.endpoints.items.map Dto.RelayEndpoint.carried := by
    rw [dtoRelayEndpointsToWSRelayEndpoints, List.map_map]
    rfl
  rw [Function.comp_apply]
  unfold RelayRegion.carried Dto.RelayRegion.carried
  dsimp only
  rw [hendpoints]
  rfl

/-- The client takes the same from both. -/
theorem carried_dtoNetworkMapToWS (map : Dto.NetworkMap) :
    (dtoNetworkMapToWS map).carried = map.carried := by
  have hroutes : (dtoRoutesToWSRoutes map.routes.items).map Route.carried =
      map.routes.items.map Dto.Route.carried := by
    rw [dtoRoutesToWSRoutes, List.map_map]
    rfl
  unfold NetworkMap.carried Dto.NetworkMap.carried
  dsimp only [dtoNetworkMapToWS]
  rw [carried_peers, carried_relayRegions, hroutes]
  rfl

/-- What the bootstrap response tells of the map, the control session tells too; the control session
also tells of the endpoints of peers, with which the bootstrap response is refused. -/
theorem decode_bootstrapMap_iff (texts : Client.ControlTexts) (requestId : String) (ackSent : Bool)
    (map : Dto.NetworkMap) (got : Client.NetworkMap) :
    let answer : Answer := .networkMapResponse ⟨dtoNetworkMapToWS map⟩
    let told := Client.ControlWsClient.readNetworkMap texts (answer.incoming requestId ackSent)
    (told = .ok (.answer got) ↔
        FitsBits 32 map.heartbeatSeconds.toInt ∧ FitsBits 32 map.mtu.toInt ∧ map.carried = got) ∧
      (ControllerClient.NetworkMapDto.decode map.encode = .ok got ↔
        told = .ok (.answer got) ∧ ∀ peer ∈ map.peers.items, peer.endpoints.items = []) := by
  intro answer told
  have hother : answer.msgType ≠ "error" := by simp [answer, Answer.msgType]
  have htold : told = .ok (.answer got) ↔
      FitsBits 32 map.heartbeatSeconds.toInt ∧ FitsBits 32 map.mtu.toInt ∧ map.carried = got := by
    refine (Answer.readReply_eq_answer texts requestId ackSent
      (decode_networkMapResponse ⟨dtoNetworkMapToWS map⟩) hother rfl).trans ?_
    rw [carried_dtoNetworkMapToWS, NetworkMap.fits_iff, and_assoc]
    rfl
  refine ⟨htold, ?_⟩
  rw [htold, Dto.decode_networkMap, Dto.NetworkMap.Fits]
  constructor
  · rintro ⟨⟨hheartbeat, hpeers, hmtu⟩, hgot⟩
    exact ⟨⟨hheartbeat, hmtu, hgot⟩, hpeers⟩
  · rintro ⟨⟨hheartbeat, hmtu, hgot⟩, hpeers⟩
    exact ⟨⟨hheartbeat, hpeers, hmtu⟩, hgot⟩

end Slan.Ws
