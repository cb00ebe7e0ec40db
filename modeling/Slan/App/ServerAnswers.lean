import Slan.App.ControlApiResponses

/-! # What the app reads of the server's bootstrap answers

It reads every one of them. What the answers say beyond the DTOs is dropped.
-/

namespace Slan.App

open Json (Slice nonEmpty object omitSlice omitString present slice)

/-! ## Fields of an object -/

section Fields

variable {key other : String} {v : Option Json} {fields : List (String × Option Json)}

theorem valueOf_self (h : key ∉ fields.map Prod.fst) :
    valueOf (present ((key, v) :: fields)) key = v.getD .null := by
  unfold valueOf
  cases v with
  | none =>
    rw [present, Json.values_present_eq_nil h]
    rfl
  | some v =>
    rw [present, Json.values, if_pos rfl, Json.values_present_eq_nil h]
    rfl

theorem valueOf_ne (h : other ≠ key) :
    valueOf (present ((other, v) :: fields)) key = valueOf (present fields) key := by
  unfold valueOf
  cases v with
  | none => rfl
  | some v => rw [present, Json.values, if_neg h]

theorem nullableStringOf_omitString (s : String) :
    nullableStringOf key ((omitString s).getD .null) = .ok (nonEmpty s) := by
  unfold omitString nonEmpty
  split <;> rfl

theorem itemTexts_str (items : List String) : itemTexts (items.map .str) = items := by
  induction items with
  | nil => rfl
  | cons item items ih =>
    rw [List.map_cons, itemTexts, ih]
    rfl

theorem stringListOf_slice (s : Slice String) :
    stringListOf key (slice .str s) = .ok s.items := by
  cases s with
  | none => rfl
  | some items => exact congrArg Except.ok (itemTexts_str items)

theorem stringListOf_omitSlice (s : Slice String) :
    stringListOf key ((omitSlice .str s).getD .null) = .ok s.items := by
  unfold omitSlice
  cases s.items with
  | nil => rfl
  | cons item items => exact congrArg Except.ok (itemTexts_str (item :: items))

section Lists

variable {α β : Type} {enc : α → Json} {fromJson : JsonMap → Except String β} {read : α → β}
  (hread : ∀ a, (asMap (enc a) >>= fromJson) = .ok (read a))
include hread

theorem mapListOf_arr (items : List α) :
    (mapListOf key (.arr (items.map enc)) >>= List.mapM fromJson) = .ok (items.map read) := by
  refine Program.bind_eq_ok.mpr ?_
  change ∃ maps, (items.map enc).mapM asMap = .ok maps ∧ _
  induction items with
  | nil => exact ⟨[], rfl, rfl⟩
  | cons a items ih =>
    obtain ⟨members, hmap, hmember⟩ := Program.bind_eq_ok.mp (hread a)
    obtain ⟨maps, hmaps, hitems⟩ := ih
    refine ⟨members :: maps, ?_, ?_⟩
    · rw [List.map_cons, List.mapM_cons, hmap, hmaps]
      rfl
    · rw [List.mapM_cons, hmember, hitems]
      rfl

theorem mapListOf_slice (s : Slice α) :
    (mapListOf key (slice enc s) >>= List.mapM fromJson) = .ok (s.items.map read) := by
  cases s with
  | none => rfl
  | some items => exact mapListOf_arr hread items

theorem mapListOf_omitSlice (s : Slice α) :
    (mapListOf key ((omitSlice enc s).getD .null) >>= List.mapM fromJson) =
      .ok (s.items.map read) := by
  unfold omitSlice
  cases s.items with
  | nil => rfl
  | cons item items => exact mapListOf_arr hread (item :: items)

end Lists

/-- An object under a key, with what is made of it. -/
theorem mapOf_object {α β : Type} {fields : List (String × Option Json)}
    {fromJson : JsonMap → Except String α} {a : α}
    (hread : (asMap (object fields) >>= fromJson) = .ok a) (next : α → Except String β) :
    (mapOf key (object fields) >>= fun json => fromJson json >>= next) = next a := by
  change ((asMap (object fields) >>= fun json => fromJson json >>= next)) = _
  rw [← bind_assoc, hread]
  rfl

end Fields

/-! ## DTOs -/

def deviceDto (device : Dto.Device) : DeviceResponseDto where
  deviceId := device.deviceId
  name := device.name
  platform := device.platform
  status := device.status
  publicKey := nonEmpty device.publicKey
  networkIds := device.networkIds.items

def attachmentDto (attachment : Dto.SubnetAttachment) : SubnetAttachmentResponseDto where
  networkId := attachment.networkId
  deviceId := attachment.deviceId
  virtualIp := nonEmpty attachment.virtualIp

def deviceBootstrapDto (bootstrap : Dto.DeviceBootstrap) : DeviceBootstrapResponseDto where
  device := deviceDto bootstrap.device
  attachments := bootstrap.attachments.items.map attachmentDto

def subnetDto (subnet : Dto.Subnet) : SubnetResponseDto :=
  ⟨subnet.networkId, subnet.cidr, subnet.isDefault⟩

def memberDto (member : Dto.NetworkMember) : NetworkMemberResponseDto :=
  ⟨member.deviceId, member.role⟩

def detailDto (detail : Dto.NetworkDetail) : NetworkDetailResponseDto where
  networkId := detail.networkId
  name := detail.name
  defaultSubnetCidr := nonEmpty detail.defaultSubnetCidr
  subnets := detail.subnets.items.map subnetDto
  members := detail.members.items.map memberDto

/-- The server gives the session's token elsewhere. -/
def controlPlaneDto (config : Dto.ControlPlaneConfig) : ControlPlaneConfigResponseDto :=
  ⟨config.wsUrl, none, config.heartbeatSeconds.toInt⟩

def relayNodeDto (node : Dto.RelayNode) : RelayNodeResponseDto :=
  ⟨node.nodeId, node.transport, node.address, node.priority.toInt, node.tags.items⟩

def relayClusterDto (cluster : Dto.RelayCluster) : RelayClusterResponseDto :=
  ⟨cluster.clusterId, cluster.clusterName, cluster.nodes.items.map relayNodeDto⟩

def relayCityDto (city : Dto.RelayCity) : RelayCityResponseDto :=
  ⟨city.cityCode, city.cityName, city.clusters.items.map relayClusterDto⟩

def relayCountryDto (country : Dto.RelayCountry) : RelayCountryResponseDto :=
  ⟨country.countryCode, country.countryName, country.cities.items.map relayCityDto⟩

def relayConfigDto (relay : Dto.RelayConfig) : RelayConfigResponseDto :=
  ⟨relay.defaultClusterId, relay.countries.items.map relayCountryDto⟩

def bootstrapDto (response : Dto.BootstrapResponse) : BootstrapResponseDto where
  device := deviceBootstrapDto response.device
  networks := response.networks.items.map detailDto
  controlPlane := controlPlaneDto response.controlPlane
  stunServers := response.stunServers.items
  relay := relayConfigDto response.relay
  networkMap := some ⟨response.networkMap.networkId⟩

section Read

attribute [local simp] readMap readNullableMap readMapList readString readNullableString readInt
  readBool readStringList valueOf_self valueOf_ne stringOf intOf boolOf nullableStringOf_omitString
  stringListOf_slice stringListOf_omitSlice Program.ok_bind

theorem read_device (device : Dto.Device) :
    (asMap device.encode >>= DeviceResponseDto.fromJson) = .ok (deviceDto device) := by
  change DeviceResponseDto.fromJson (present _) = _
  simp [DeviceResponseDto.fromJson]
  rfl

theorem read_attachment (attachment : Dto.SubnetAttachment) :
    (asMap attachment.encode >>= SubnetAttachmentResponseDto.fromJson) =
      .ok (attachmentDto attachment) := by
  change SubnetAttachmentResponseDto.fromJson (present _) = _
  simp [SubnetAttachmentResponseDto.fromJson]
  rfl

theorem read_subnet (subnet : Dto.Subnet) :
    (asMap subnet.encode >>= SubnetResponseDto.fromJson) = .ok (subnetDto subnet) := by
  change SubnetResponseDto.fromJson (present _) = _
  simp [SubnetResponseDto.fromJson]
  rfl

theorem read_member (member : Dto.NetworkMember) :
    (asMap member.encode >>= NetworkMemberResponseDto.fromJson) = .ok (memberDto member) := by
  change NetworkMemberResponseDto.fromJson (present _) = _
  simp [NetworkMemberResponseDto.fromJson]
  rfl

theorem read_detail (detail : Dto.NetworkDetail) :
    (asMap detail.encode >>= NetworkDetailResponseDto.fromJson) = .ok (detailDto detail) := by
  change NetworkDetailResponseDto.fromJson (present _) = _
  simp [NetworkDetailResponseDto.fromJson, Dto.Network.fields, mapListOf_slice read_subnet,
    mapListOf_slice read_member]
  rfl

theorem read_relayNode (node : Dto.RelayNode) :
    (asMap node.encode >>= RelayNodeResponseDto.fromJson) = .ok (relayNodeDto node) := by
  change RelayNodeResponseDto.fromJson (present _) = _
  simp [RelayNodeResponseDto.fromJson]
  rfl

theorem read_relayCluster (cluster : Dto.RelayCluster) :
    (asMap cluster.encode >>= RelayClusterResponseDto.fromJson) =
      .ok (relayClusterDto cluster) := by
  change RelayClusterResponseDto.fromJson (present _) = _
  simp [RelayClusterResponseDto.fromJson, mapListOf_omitSlice read_relayNode]
  rfl

theorem read_relayCity (city : Dto.RelayCity) :
    (asMap city.encode >>= RelayCityResponseDto.fromJson) = .ok (relayCityDto city) := by
  change RelayCityResponseDto.fromJson (present _) = _
  simp [RelayCityResponseDto.fromJson, mapListOf_omitSlice read_relayCluster]
  rfl

theorem read_relayCountry (country : Dto.RelayCountry) :
    (asMap country.encode >>= RelayCountryResponseDto.fromJson) =
      .ok (relayCountryDto country) := by
  change RelayCountryResponseDto.fromJson (present _) = _
  simp [RelayCountryResponseDto.fromJson, mapListOf_omitSlice read_relayCity]
  rfl

theorem read_relayConfig (relay : Dto.RelayConfig) :
    (asMap relay.encode >>= RelayConfigResponseDto.fromJson) = .ok (relayConfigDto relay) := by
  change RelayConfigResponseDto.fromJson (present _) = _
  simp [RelayConfigResponseDto.fromJson, mapListOf_omitSlice read_relayCountry]
  rfl

theorem read_controlPlane (config : Dto.ControlPlaneConfig) :
    (asMap config.encode >>= ControlPlaneConfigResponseDto.fromJson) =
      .ok (controlPlaneDto config) := by
  change ControlPlaneConfigResponseDto.fromJson (present [("wsUrl", some (.str config.wsUrl)),
    ("heartbeatSeconds", some (.num config.heartbeatSeconds.toInt))]) = _
  simp [ControlPlaneConfigResponseDto.fromJson]
  rfl

theorem read_deviceBootstrap (bootstrap : Dto.DeviceBootstrap) :
    (asMap bootstrap.encode >>= DeviceBootstrapResponseDto.fromJson) =
      .ok (deviceBootstrapDto bootstrap) := by
  change DeviceBootstrapResponseDto.fromJson (present _) = _
  simp [DeviceBootstrapResponseDto.fromJson, mapListOf_slice read_attachment]
  exact mapOf_object (read_device bootstrap.device) _

theorem read_networkMap (map : Dto.NetworkMap) :
    (asMap map.encode >>= NetworkMapResponseDto.fromJson) = .ok ⟨map.networkId⟩ := by
  change NetworkMapResponseDto.fromJson (present _) = _
  simp [NetworkMapResponseDto.fromJson]

theorem read_bootstrap (response : Dto.BootstrapResponse) :
    (asMap response.encode >>= BootstrapResponseDto.fromJson) = .ok (bootstrapDto response) := by
  change BootstrapResponseDto.fromJson (present _) = _
  simp [BootstrapResponseDto.fromJson, mapListOf_slice read_detail]
  refine (mapOf_object (read_deviceBootstrap response.device) _).trans ?_
  refine (mapOf_object (read_controlPlane response.controlPlane) _).trans ?_
  refine (mapOf_object (read_relayConfig response.relay) _).trans ?_
  obtain ⟨json, hjson, hmap⟩ := Program.bind_eq_ok.mp (read_networkMap response.networkMap)
  have hnullable : nullableMapOf "networkMap" response.networkMap.encode = .ok (some json) := by
    cases hjson
    rfl
  rw [hnullable, Program.ok_bind, Option.mapM_some, hmap]
  rfl

/-- Every answer of the server is read. -/
theorem parseBootstrapResponse_encode (response : Dto.BootstrapResponse) :
    (asMap response.encode >>= parseBootstrapResponse) = .ok (bootstrapDto response).toModel := by
  obtain ⟨json, hmap, hread⟩ := Program.bind_eq_ok.mp (read_bootstrap response)
  refine Program.bind_eq_ok.mpr ⟨json, hmap, ?_⟩
  rw [parseBootstrapResponse, hread]
  rfl

end Read

end Slan.App
