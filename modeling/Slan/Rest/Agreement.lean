import Slan.Rest.Contract
import Mathlib.Tactic.MkIffOfInductiveProp

/-! # Which answers the client reads right -/

namespace Slan.Dto

open Json (Slice FitsBits nonEmpty)
open ControllerClient

/-! ## Conditions -/

def RelayNode.Fits (node : RelayNode) : Prop := FitsBits 32 node.priority.toInt

def RelayCluster.Fits (cluster : RelayCluster) : Prop := ∀ node ∈ cluster.nodes.items, node.Fits

def RelayCity.Fits (city : RelayCity) : Prop := ∀ cluster ∈ city.clusters.items, cluster.Fits

def RelayCountry.Fits (country : RelayCountry) : Prop := ∀ city ∈ country.cities.items, city.Fits

def RelayConfig.Fits (relay : RelayConfig) : Prop :=
  ∀ country ∈ relay.countries.items, country.Fits

def DerpNode.Fits (node : DerpNode) : Prop :=
  FitsBits 16 node.port.toInt ∧ FitsBits 32 node.priority.toInt

def DerpCluster.Fits (cluster : DerpCluster) : Prop :=
  FitsBits 8 cluster.recommendedFanout.toInt ∧ ∀ node ∈ cluster.nodes.items, node.Fits

def DerpMap.Fits (derpMap : DerpMap) : Prop :=
  FitsBits 32 derpMap.probeIntervalSeconds.toInt ∧
    ∀ cluster ∈ derpMap.clusters.items, cluster.Fits

/-- Every node has a transport that the client knows. -/
def DerpMap.Known (derpMap : DerpMap) : Prop :=
  ∀ cluster ∈ derpMap.clusters.items, ∀ node ∈ cluster.nodes.items,
    node.transport ∈ ["udp", "tcp", "quic"]

def NetworkDetail.Fits (detail : NetworkDetail) : Prop :=
  detail.subnets ≠ none ∧ detail.members ≠ none

/-- No peer has an endpoint. -/
def NetworkMap.Fits (map : NetworkMap) : Prop :=
  FitsBits 32 map.heartbeatSeconds.toInt ∧ (∀ peer ∈ map.peers.items, peer.endpoints.items = []) ∧
    FitsBits 32 map.mtu.toInt

/-- The lists that are written even when nil are not nil, and the numbers fit. -/
@[mk_iff]
structure BootstrapResponse.Fits (response : BootstrapResponse) : Prop where
  networks : response.networks ≠ none
  details : ∀ detail ∈ response.networks.items, detail.Fits
  heartbeat : FitsBits 32 response.controlPlane.heartbeatSeconds.toInt
  stunServers : response.stunServers ≠ none
  relay : response.relay.Fits
  derpMap : response.derpMap.Fits
  networkMap : response.networkMap.Fits

/-- Nothing is said where the client does not look. -/
@[mk_iff]
structure BootstrapResponse.Plain (response : BootstrapResponse) : Prop where
  sessionToken : response.sessionToken = ""
  virtualIp : response.device.virtualIp response.networkMap.networkId = ""
  known : response.derpMap.Known

def Response.Readable : Response → Prop
  | .register auth | .login auth => Text.trim auth.userId ≠ "" ∧ Text.trim auth.accessToken ≠ ""
  | .registerDevice device => device.currentVirtualIp = ""
  | .listNetworks items => items ≠ none
  | .joinNetwork _ | .activateNetwork _ => False
  | .bootstrap response => response.Fits ∧ response.Plain
  | .registerNode _ | .createNetwork _ | .deactivateNetwork | .issueRelayTicket _ => True

/-! ## What each value is read as -/

section Decode

attribute [local simp] Client.members Json.object Json.required Json.optional Json.defaulted
  Program.bind_eq_ok Json.map_eq_ok

theorem decode_auth (auth : AuthResponse) :
    AuthResponseDto.decode auth.encode = .ok auth.carried := by
  simp [AuthResponseDto.decode, AuthResponse.encode, AuthResponse.carried]

/-- The client looks for the address under another name. -/
theorem decode_device (device : Device) :
    DeviceDto.decode device.encode = .ok { device.carried with virtualIp := none } := by
  simp [DeviceDto.decode, Device.encode, Device.carried]

theorem decode_node (node : Node) : NodeDto.decode node.encode = .ok node.carried := by
  simp [NodeDto.decode, Node.encode, Node.carried]

def Subnet.read (subnet : Subnet) : SubnetDto := ⟨subnet.cidr, subnet.isDefault⟩

theorem decode_subnet (subnet : Subnet) :
    SubnetDto.decode subnet.encode = .ok subnet.read := by
  simp [SubnetDto.decode, Subnet.encode, Subnet.read]

theorem decode_member (member : NetworkMember) :
    NetworkMemberDto.decode member.encode = .ok member.carried := by
  simp [NetworkMemberDto.decode, NetworkMember.encode, NetworkMember.carried]

def Network.read (network : Network) : NetworkDto where
  networkId := network.networkId
  name := network.name
  cidr := ""
  defaultSubnetCidr := nonEmpty network.defaultSubnetCidr
  subnets := []
  members := []

theorem decode_network (network : Network) :
    NetworkDto.decode network.encode = .ok network.read := by
  simp [NetworkDto.decode, Network.encode, Network.fields, Network.read]

def NetworkDetail.read (detail : NetworkDetail) : NetworkDto :=
  { detail.toNetwork.read with
    subnets := detail.subnets.items.map Subnet.read
    members := detail.members.items.map NetworkMember.carried }

theorem decode_detail {detail : NetworkDetail} {got : NetworkDto} :
    NetworkDto.decode detail.encode = .ok got ↔ detail.Fits ∧ detail.read = got := by
  have hsubnets : ∀ subnets, Json.list SubnetDto.decode (Json.slice Subnet.encode detail.subnets) =
      .ok subnets ↔ detail.subnets ≠ none ∧ detail.subnets.items.map Subnet.read = subnets :=
    fun _ => Json.list_slice_of_forall decode_subnet
  have hmembers : ∀ members, Json.list NetworkMemberDto.decode
      (Json.slice NetworkMember.encode detail.members) = .ok members ↔
      detail.members ≠ none ∧ detail.members.items.map NetworkMember.carried = members :=
    fun _ => Json.list_slice_of_forall decode_member
  simp [NetworkDto.decode, NetworkDetail.encode, Network.fields, hsubnets, hmembers,
    NetworkDetail.Fits, NetworkDetail.read, Network.read, and_assoc]

theorem read_network (network : Network) : network.read.toNetwork = network.carried := by
  unfold NetworkDto.toNetwork Network.read Network.carried nonEmpty
  by_cases h : network.defaultSubnetCidr = ""
  · rw [h]
    rfl
  · simp [h]

theorem read_detail (detail : NetworkDetail) : detail.read.toNetwork = detail.carried := by
  have hcidr : (nonEmpty detail.defaultSubnetCidr).getD
      (subnetCidr (detail.subnets.items.map Subnet.read)) = detail.cidr := by
    unfold nonEmpty NetworkDetail.cidr subnetCidr
    by_cases h : detail.defaultSubnetCidr = ""
    · rw [if_pos h, if_neg (not_not.mpr h), Option.getD_none, List.find?_map, List.head?_map,
        ← Option.map_or, Option.elim_map]
      rfl
    · rw [if_neg h, if_pos h, Option.getD_some]
  unfold NetworkDto.toNetwork NetworkDetail.read NetworkDetail.carried
  rw [← hcidr]
  rfl

/-! ### Relays -/

theorem decode_relayNode (node : RelayNode) (got : ControllerClient.RelayNode) :
    RelayNodeDto.decode node.encode = .ok got ↔ node.Fits ∧ node.carried = got := by
  simp [RelayNodeDto.decode, RelayNode.encode, RelayNode.Fits, RelayNode.carried,
    Json.unsigned_num_eq_ok, and_assoc]

theorem decode_relayCluster (cluster : RelayCluster) (got : ControllerClient.RelayCluster) :
    RelayClusterDto.decode cluster.encode = .ok got ↔ cluster.Fits ∧ cluster.carried = got := by
  simp [RelayClusterDto.decode, RelayCluster.encode, RelayCluster.Fits, RelayCluster.carried,
    Json.elim_omitSlice_eq_ok decode_relayNode, and_assoc]

theorem decode_relayCity (city : RelayCity) (got : ControllerClient.RelayCity) :
    RelayCityDto.decode city.encode = .ok got ↔ city.Fits ∧ city.carried = got := by
  simp [RelayCityDto.decode, RelayCity.encode, RelayCity.Fits, RelayCity.carried,
    Json.elim_omitSlice_eq_ok decode_relayCluster, and_assoc]

theorem decode_relayCountry (country : RelayCountry) (got : ControllerClient.RelayCountry) :
    RelayCountryDto.decode country.encode = .ok got ↔ country.Fits ∧ country.carried = got := by
  simp [RelayCountryDto.decode, RelayCountry.encode, RelayCountry.Fits, RelayCountry.carried,
    Json.elim_omitSlice_eq_ok decode_relayCity, and_assoc]

theorem decode_relayConfig (relay : RelayConfig) (got : ControllerClient.RelayConfig) :
    RelayConfigDto.decode relay.encode = .ok got ↔ relay.Fits ∧ relay.carried = got := by
  simp [RelayConfigDto.decode, RelayConfig.encode, RelayConfig.Fits, RelayConfig.carried,
    Json.elim_omitSlice_eq_ok decode_relayCountry, and_assoc]

def DerpNode.read (node : DerpNode) : DerpNodeDto where
  nodeId := node.nodeId
  host := node.host
  port := node.port.toInt.toNat
  transport := node.transport
  priority := node.priority.toInt.toNat
  tags := node.tags.items

theorem decode_derpNode (node : DerpNode) (got : DerpNodeDto) :
    DerpNodeDto.decode node.encode = .ok got ↔ node.Fits ∧ node.read = got := by
  simp [DerpNodeDto.decode, DerpNode.encode, DerpNode.Fits, DerpNode.read,
    Json.unsigned_num_eq_ok, and_assoc]

def DerpCluster.read (cluster : DerpCluster) : DerpClusterDto where
  clusterId := cluster.clusterId
  clusterName := nonEmpty cluster.clusterName
  regionId := cluster.regionId
  regionName := cluster.regionName
  countryCode := nonEmpty cluster.countryCode
  countryName := nonEmpty cluster.countryName
  cityCode := nonEmpty cluster.cityCode
  cityName := nonEmpty cluster.cityName
  recommendedFanout := cluster.recommendedFanout.toInt.toNat
  nodes := cluster.nodes.items.map DerpNode.read

theorem decode_derpCluster (cluster : DerpCluster) (got : DerpClusterDto) :
    DerpClusterDto.decode cluster.encode = .ok got ↔ cluster.Fits ∧ cluster.read = got := by
  simp [DerpClusterDto.decode, DerpCluster.encode, DerpCluster.Fits, DerpCluster.read,
    Json.unsigned_num_eq_ok, Json.elim_omitSlice_eq_ok decode_derpNode, and_assoc]

def DerpMap.read (derpMap : DerpMap) : DerpMapDto where
  probeIntervalSeconds := derpMap.probeIntervalSeconds.toInt.toNat
  clusters := derpMap.clusters.items.map DerpCluster.read

theorem decode_derpMap (derpMap : DerpMap) (got : DerpMapDto) :
    DerpMapDto.decode derpMap.encode = .ok got ↔ derpMap.Fits ∧ derpMap.read = got := by
  simp [DerpMapDto.decode, DerpMap.encode, DerpMap.Fits, DerpMap.read,
    Json.unsigned_num_eq_ok, Json.elim_omitSlice_eq_ok decode_derpCluster, and_assoc]

/-! ### The network map -/

/-- The client looks for the type under another name, and must find it. -/
theorem decode_endpoint (endpoint : Endpoint) :
    EndpointDto.decode endpoint.encode = .error (.missingField "endpointType") := by
  unfold EndpointDto.decode Endpoint.encode
  simp only [Client.members, Json.object]
  rw [Json.required_eq_missing (by simp [Json.present])]
  rfl

theorem decode_peer (peer : Peer) (got : Client.Peer) :
    PeerDto.decode peer.encode = .ok got ↔ peer.endpoints.items = [] ∧ peer.carried = got := by
  have hendpoints : ∀ endpoints,
      (Json.omitSlice Endpoint.encode peer.endpoints).elim (.ok []) (Json.list EndpointDto.decode) =
        .ok endpoints ↔ peer.endpoints.items = [] ∧
          peer.endpoints.items.map Endpoint.carried = endpoints := by
    intro endpoints
    have hnever : ∀ endpoint got, EndpointDto.decode endpoint.encode = .ok got ↔
        False ∧ Endpoint.carried endpoint = got := by
      intro endpoint got
      rw [decode_endpoint]
      exact iff_of_false nofun fun h => h.1
    rw [Json.elim_omitSlice_eq_ok hnever, List.eq_nil_iff_forall_not_mem]
  simp [PeerDto.decode, Peer.encode, Peer.carried, hendpoints, and_assoc]

theorem decode_route (route : Route) : RouteDto.decode route.encode = .ok route.carried := by
  simp [RouteDto.decode, Route.encode, Route.carried]

theorem decode_relayEndpoint (endpoint : RelayEndpoint) :
    RelayEndpointDto.decode endpoint.encode = .ok endpoint.carried := by
  simp [RelayEndpointDto.decode, RelayEndpoint.encode, RelayEndpoint.carried]

theorem decode_relayRegion (region : RelayRegion) :
    RelayRegionDto.decode region.encode = .ok region.carried := by
  simp [RelayRegionDto.decode, RelayRegion.encode, RelayRegion.carried,
    Json.elim_omitSlice_of_forall decode_relayEndpoint]

theorem decode_dns (dns : DnsConfig) : DnsConfigDto.decode dns.encode = .ok dns.carried := by
  simp [DnsConfigDto.decode, DnsConfig.encode, DnsConfig.carried]

theorem decode_networkMap (map : NetworkMap) (got : Client.NetworkMap) :
    NetworkMapDto.decode map.encode = .ok got ↔ map.Fits ∧ map.carried = got := by
  simp [NetworkMapDto.decode, NetworkMap.encode, NetworkMap.Fits, NetworkMap.carried, decode_dns,
    Json.unsigned_num_eq_ok, Json.elim_omitInt_eq_ok, Json.elim_omitSlice_eq_ok decode_peer,
    Json.elim_omitSlice_of_forall decode_route, Json.elim_omitSlice_of_forall decode_relayRegion,
    and_assoc]

/-! ### Bootstrap and tickets -/

theorem decode_bootstrapDevice (bootstrap : DeviceBootstrap) :
    BootstrapDeviceDto.decode bootstrap.encode =
      .ok { bootstrap.device.carried with virtualIp := none } := by
  simp [BootstrapDeviceDto.decode, DeviceBootstrap.encode, decode_device]

/-- The token is not where the client looks for it. -/
def ControlPlaneConfig.read (config : ControlPlaneConfig) : Client.ControlPlaneConfig where
  wsUrl := config.wsUrl
  sessionToken := none
  heartbeatSeconds := config.heartbeatSeconds.toInt.toNat

theorem decode_controlPlane (config : ControlPlaneConfig) (got : Client.ControlPlaneConfig) :
    ControlPlaneConfigDto.decode config.encode = .ok got ↔
      FitsBits 32 config.heartbeatSeconds.toInt ∧ config.read = got := by
  simp [ControlPlaneConfigDto.decode, ControlPlaneConfig.encode, ControlPlaneConfig.read,
    Json.unsigned_num_eq_ok, and_assoc]

def BootstrapResponse.read (response : BootstrapResponse) : BootstrapResponseDto where
  device := { response.device.device.carried with virtualIp := none }
  networks := response.networks.items.map NetworkDetail.read
  controlPlane := response.controlPlane.read
  stunServers := response.stunServers.items
  relay := response.relay.carried
  derpMap := some response.derpMap.read
  networkMap := some response.networkMap.carried

theorem decode_bootstrap (response : BootstrapResponse) (got : BootstrapResponseDto) :
    BootstrapResponseDto.decode response.encode = .ok got ↔
      response.Fits ∧ response.read = got := by
  have hdetails : ∀ networks, Json.list NetworkDto.decode
      (Json.slice NetworkDetail.encode response.networks) = .ok networks ↔
      (response.networks ≠ none ∧ ∀ detail ∈ response.networks.items, detail.Fits) ∧
        response.networks.items.map NetworkDetail.read = networks :=
    fun _ => Json.list_slice_eq_ok fun _ _ => decode_detail
  have hderpMap : ∀ derpMap, Json.nullable DerpMapDto.decode response.derpMap.encode =
      .ok derpMap ↔ response.derpMap.Fits ∧ some response.derpMap.read = derpMap :=
    fun _ => Json.nullable_object_eq_ok fun _ => decode_derpMap response.derpMap _
  have hnetworkMap : ∀ networkMap, Json.nullable NetworkMapDto.decode response.networkMap.encode =
      .ok networkMap ↔ response.networkMap.Fits ∧ some response.networkMap.carried = networkMap :=
    fun _ => Json.nullable_object_eq_ok fun _ => decode_networkMap response.networkMap _
  simp [BootstrapResponseDto.decode, BootstrapResponse.encode, BootstrapResponse.read,
    decode_bootstrapDevice, decode_controlPlane, decode_relayConfig, hdetails, hderpMap,
    hnetworkMap, Json.list_slice_string_eq_ok, BootstrapResponse.fits_iff, and_assoc]

theorem decode_ticket (ticket : Control.RelayTicket) :
    RelayTicketDto.decode (encodeRelayTicket ticket) = .ok (carriedTicket ticket) := by
  simp [RelayTicketDto.decode, encodeRelayTicket, carriedTicket]
  rfl

end Decode

/-! ## Where what is read is what was said -/

theorem mapM_eq_some_map {α β : Type} {f : α → Option β} {g : α → β} {items : List α} :
    items.mapM f = some (items.map g) ↔ ∀ a ∈ items, f a = some (g a) := by
  induction items with
  | nil => exact iff_of_true rfl nofun
  | cons a items ih =>
    rw [List.forall_mem_cons, ← ih, List.mapM_cons, List.map_cons]
    cases f a <;> cases items.mapM f <;> simp

theorem transportOf_eq_some (transport : String) :
    transportOf transport = some (parseDerpTransport transport) ↔
      transport ∈ ["udp", "tcp", "quic"] := by
  unfold transportOf parseDerpTransport
  split <;> simp_all

theorem carried_derpNode (cluster : DerpCluster) (node : DerpNode) :
    node.carried cluster = some (node.read.intoMeta cluster.clusterId cluster.regionId
      (nonEmpty cluster.countryCode) (nonEmpty cluster.countryName) (nonEmpty cluster.cityCode)
      (nonEmpty cluster.cityName)) ↔ node.transport ∈ ["udp", "tcp", "quic"] := by
  rw [← transportOf_eq_some]
  exact (Option.map_injective fun _ _ h => congrArg Client.DerpNodeMeta.transport h).eq_iff
    (b := some (parseDerpTransport node.transport))

theorem carried_derpCluster (cluster : DerpCluster) :
    cluster.carried = some cluster.read.toCluster ↔
      ∀ node ∈ cluster.nodes.items, node.transport ∈ ["udp", "tcp", "quic"] := by
  simp only [← carried_derpNode cluster]
  rw [← mapM_eq_some_map]
  have hnodes : cluster.read.toCluster.nodes = cluster.nodes.items.map fun node =>
      node.read.intoMeta cluster.clusterId cluster.regionId (nonEmpty cluster.countryCode)
        (nonEmpty cluster.countryName) (nonEmpty cluster.cityCode) (nonEmpty cluster.cityName) :=
    List.map_map
  rw [← hnodes]
  exact (Option.map_injective fun _ _ h => congrArg ControllerClient.DerpCluster.nodes h).eq_iff
    (b := some cluster.read.toCluster.nodes)

theorem carried_derpMap (derpMap : DerpMap) :
    derpMap.carried = some derpMap.read.toDerpMap ↔ derpMap.Known := by
  unfold DerpMap.Known
  simp only [← carried_derpCluster]
  rw [← mapM_eq_some_map]
  have hclusters : derpMap.read.toDerpMap.clusters =
      derpMap.clusters.items.map fun cluster => cluster.read.toCluster := List.map_map
  rw [← hclusters]
  exact (Option.map_injective fun _ _ h => congrArg ControllerClient.DerpMap.clusters h).eq_iff
    (b := some derpMap.read.toDerpMap.clusters)

theorem nonEmpty_eq_none {text : String} : nonEmpty text = none ↔ text = "" := by
  unfold nonEmpty
  split <;> simp_all

theorem read_bootstrap (response : BootstrapResponse) :
    response.read.toConfig = response.carried ↔ response.Plain := by
  have hnetworks : (response.networks.items.map NetworkDetail.read).map NetworkDto.toNetwork =
      response.networks.items.map NetworkDetail.carried := by
    rw [List.map_map]
    exact List.map_congr_left fun detail _ => read_detail detail
  rw [BootstrapResponse.plain_iff, ← nonEmpty_eq_none, ← nonEmpty_eq_none, ← carried_derpMap]
  unfold BootstrapResponseDto.toConfig BootstrapResponse.read BootstrapResponse.carried
  rw [hnetworks]
  constructor
  · intro h
    have htoken := congrArg (fun config => config.controlPlane.sessionToken) h
    have hip := congrArg (fun config => config.device.virtualIp) h
    have hderpMap := congrArg BootstrapConfig.derpMap h
    exact ⟨htoken.symm, hip.symm, hderpMap.symm⟩
  · rintro ⟨htoken, hip, hderpMap⟩
    rw [htoken, hip, hderpMap]
    rfl

/-! ## The client's calls -/

theorem parseSuccessResponse_eq_ok {α : Type} (texts : Client.ControlTexts) (response : Response)
    {d : Json.Decoder α} {value : α} :
    parseSuccessResponse texts ⟨response.status, response.body⟩ d = .ok value ↔
      d response.body = .ok value := by
  have hstatus : 200 ≤ response.status ∧ response.status < 300 := by
    unfold Response.status
    split <;> decide
  rw [parseSuccessResponse, if_pos hstatus]
  cases d response.body with
  | error err => exact iff_of_false nofun nofun
  | ok got => exact (Except.ok.injEq got value).to_iff.trans (Except.ok.injEq got value).to_iff.symm

theorem tryInto_eq_ok (session : Session) :
    AuthResponseDto.tryInto session = .ok session ↔
      Text.trim session.userId ≠ "" ∧ Text.trim session.accessToken ≠ "" := by
  unfold AuthResponseDto.tryInto
  split
  · rename_i hblank
    exact iff_of_false nofun fun h => hblank.elim h.1 h.2
  · rename_i hblank
    exact iff_of_true rfl (not_or.mp hblank)

theorem decode_items (items : Slice Network) (got : List NetworkDto) :
    ListNetworksResponseDto.decode (Response.listNetworks items).body = .ok got ↔
      items ≠ none ∧ items.items.map Network.read = got := by
  rw [← Json.list_slice_of_forall decode_network]
  simp [ListNetworksResponseDto.decode, Response.body, Client.members, Json.object, Json.required]

/-- The network and the device are under the member, and the client looks beside it. -/
theorem decode_joinResult (result : NetworkJoinResult) :
    NetworkJoinResultDto.decode result.encode = .error (.missingField "networkId") := by
  unfold NetworkJoinResultDto.decode NetworkJoinResult.encode
  simp only [Client.members, Json.object]
  rw [Json.required_eq_missing (by simp [Json.present])]
  rfl

theorem session_agrees {texts : Client.ControlTexts} {response : Response} {auth : AuthResponse}
    (h : response.body = auth.encode) :
    (parseSuccessResponse texts ⟨response.status, response.body⟩ AuthResponseDto.decode >>=
        AuthResponseDto.tryInto) = .ok auth.carried ↔
      Text.trim auth.userId ≠ "" ∧ Text.trim auth.accessToken ≠ "" := by
  have hread := (parseSuccessResponse_eq_ok texts response).mpr (h ▸ decode_auth auth)
  rw [hread]
  exact tryInto_eq_ok auth.carried

theorem device_agrees (texts : Client.ControlTexts) (device : Device) :
    (Response.registerDevice device).Agrees texts ↔ device.currentVirtualIp = "" := by
  refine (parseSuccessResponse_eq_ok texts (.registerDevice device)).trans ?_
  rw [Response.body, decode_device, Except.ok.injEq, ← nonEmpty_eq_none]
  constructor
  · intro h
    have hip := congrArg (fun got => got.virtualIp) h
    exact hip.symm
  · intro h
    rw [Device.carried, h]

theorem listNetworks_agrees (texts : Client.ControlTexts) (items : Slice Network) :
    (Response.listNetworks items).Agrees texts ↔ items ≠ none := by
  constructor
  · intro h
    obtain ⟨got, hgot, -⟩ := Program.bind_eq_ok.mp h
    have hdecode := (parseSuccessResponse_eq_ok texts (.listNetworks items)).mp hgot
    exact ((decode_items items got).mp hdecode).1
  · intro h
    have hread := (parseSuccessResponse_eq_ok texts (.listNetworks items)).mpr
      ((decode_items items _).mpr ⟨h, rfl⟩)
    refine Program.bind_eq_ok.mpr ⟨_, hread, ?_⟩
    rw [List.map_map]
    exact congrArg Except.ok (List.map_congr_left fun network _ => read_network network)

theorem createNetwork_agrees (texts : Client.ControlTexts) (network : Network) :
    (Response.createNetwork network).Agrees texts := by
  have hread := (parseSuccessResponse_eq_ok texts (.createNetwork network)).mpr
    (decode_network network)
  refine Program.bind_eq_ok.mpr ⟨_, hread, ?_⟩
  exact congrArg Except.ok (read_network network)

/-- The server has joined the network, and the call fails. -/
theorem join_disagrees {texts : Client.ControlTexts} {response : Response}
    {result : NetworkJoinResult} (h : response.body = result.encode) (got : NetworkJoinResultDto) :
    HttpControllerClient.joinNetwork texts ⟨response.status, response.body⟩ ≠ .ok got := by
  intro hread
  have hdecode := (parseSuccessResponse_eq_ok texts response).mp hread
  rw [h, decode_joinResult] at hdecode
  cases hdecode

theorem bootstrap_agrees (texts : Client.ControlTexts) (value : BootstrapResponse) :
    (Response.bootstrap value).Agrees texts ↔ value.Fits ∧ value.Plain := by
  constructor
  · intro h
    obtain ⟨got, hgot, hconfig⟩ := Program.bind_eq_ok.mp h
    have hdecode := (parseSuccessResponse_eq_ok texts (.bootstrap value)).mp hgot
    obtain ⟨hfits, rfl⟩ := (decode_bootstrap value got).mp hdecode
    exact ⟨hfits, (read_bootstrap value).mp (Except.ok.inj hconfig)⟩
  · rintro ⟨hfits, hplain⟩
    have hread := (parseSuccessResponse_eq_ok texts (.bootstrap value)).mpr
      ((decode_bootstrap value _).mpr ⟨hfits, rfl⟩)
    refine Program.bind_eq_ok.mpr ⟨_, hread, ?_⟩
    exact congrArg Except.ok ((read_bootstrap value).mpr hplain)

/-- The client makes of an answer what it says exactly if it is readable. -/
theorem Response.agrees_iff (texts : Client.ControlTexts) (response : Response) :
    response.Agrees texts ↔ response.Readable := by
  cases response with
  | register auth => exact session_agrees rfl
  | login auth => exact session_agrees rfl
  | registerDevice device => exact device_agrees texts device
  | registerNode node =>
    have hread := (parseSuccessResponse_eq_ok texts (.registerNode node)).mpr (decode_node node)
    exact iff_of_true hread trivial
  | listNetworks items => exact listNetworks_agrees texts items
  | createNetwork network => exact iff_of_true (createNetwork_agrees texts network) trivial
  | joinNetwork result => exact iff_of_false (join_disagrees rfl result.carried) id
  | activateNetwork result => exact iff_of_false (join_disagrees rfl result.carried) id
  | deactivateNetwork => exact iff_of_true rfl trivial
  | bootstrap value => exact bootstrap_agrees texts value
  | issueRelayTicket ticket =>
    have hread := (parseSuccessResponse_eq_ok texts (.issueRelayTicket ticket)).mpr
      (decode_ticket ticket)
    exact iff_of_true hread trivial

/-- A device has joined a network, and has no address there yet. -/
def joined : NetworkJoinResult where
  member :=
    { memberId := "member-1", networkId := "net-1", deviceId := "device-1", role := "member"
      createdAt := 1760000000, status := "active" }
  attachment := ⟨"", "", "", "", "", "", ""⟩

theorem joined_not_read : ¬ ∀ texts response, Response.Agrees texts response := by
  intro h
  have hread := h ⟨fun _ => "decode error", fun _ => ""⟩ (.joinNetwork joined)
  exact join_disagrees rfl joined.carried hread

end Slan.Dto
