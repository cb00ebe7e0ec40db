import Slan.Rest.Dto

/-! # `control_api_responses`: JSON readers, response DTOs and what they are mapped to

The models of the relay and of the control plane have the fields of their DTOs and are these here.
-/

namespace Slan.App

/-! ## `json_readers.dart` -/

abbrev JsonMap := List (String × Json)

/-- A map keeps the last value of a key. -/
def valueOf (json : JsonMap) (key : String) : Json := (Json.values key json).getLast?.getD .null

def runtimeType : Json → String
  | .null => "Null"
  | .bool _ => "bool"
  | .num _ => "int"
  | .str _ => "String"
  | .arr _ => "List<dynamic>"
  | .obj _ => "_Map<String, dynamic>"

/-- A `FormatException`, as the text that it is shown with. -/
def expected (kind key : String) (value : Json) : String :=
  "FormatException: Expected " ++ kind ++ " for \"" ++ key ++ "\", got " ++ runtimeType value

def asMap : Json → Except String JsonMap
  | .obj members => .ok members
  | value => .error ("FormatException: Expected object item, got " ++ runtimeType value)

def mapOf (key : String) : Json → Except String JsonMap
  | .obj members => .ok members
  | value => .error (expected "object" key value)

def nullableMapOf (key : String) : Json → Except String (Option JsonMap)
  | .null => .ok none
  | value => some <$> mapOf key value

def mapListOf (key : String) : Json → Except String (List JsonMap)
  | .null => .ok []
  | .arr items => items.mapM asMap
  | value => .error (expected "list" key value)

def stringOf (key : String) : Json → Except String String
  | .str s => .ok s
  | value => .error (expected "string" key value)

def nullableStringOf (key : String) : Json → Except String (Option String)
  | .null => .ok none
  | .str s => .ok (some s)
  | value => .error (expected "string" key value)

def intOf (key : String) : Json → Except String Int
  | .num n => .ok n
  | value => .error (expected "int" key value)

def boolOf (key : String) : Json → Except String Bool
  | .bool b => .ok b
  | value => .error (expected "bool" key value)

mutual

/-- `item.toString()` -/
def itemText : Json → String
  | .null => "null"
  | .bool b => if b then "true" else "false"
  | .num n => toString n
  | .str s => s
  | .arr items => "[" ++ ", ".intercalate (itemTexts items) ++ "]"
  | .obj members => "\x7b" ++ ", ".intercalate (memberTexts members) ++ "\x7d"

def itemTexts : List Json → List String
  | [] => []
  | item :: items => itemText item :: itemTexts items

def memberTexts : JsonMap → List String
  | [] => []
  | (key, value) :: members => (key ++ ": " ++ itemText value) :: memberTexts members

end

/-- Items that are not strings are turned into some. -/
def stringListOf (key : String) : Json → Except String (List String)
  | .null => .ok []
  | .arr items => .ok (itemTexts items)
  | value => .error (expected "list" key value)

section Readers

variable (json : JsonMap) (key : String)

def readMap : Except String JsonMap := mapOf key (valueOf json key)

def readNullableMap : Except String (Option JsonMap) := nullableMapOf key (valueOf json key)

def readMapList : Except String (List JsonMap) := mapListOf key (valueOf json key)

def readString : Except String String := stringOf key (valueOf json key)

def readNullableString : Except String (Option String) := nullableStringOf key (valueOf json key)

def readInt : Except String Int := intOf key (valueOf json key)

def readBool : Except String Bool := boolOf key (valueOf json key)

def readStringList : Except String (List String) := stringListOf key (valueOf json key)

end Readers

/-! ## `response_dtos.dart` -/

structure DeviceResponseDto where
  deviceId : String
  name : String
  platform : String
  status : String
  publicKey : Option String
  networkIds : List String
  deriving DecidableEq, Repr

structure SubnetAttachmentResponseDto where
  networkId : String
  deviceId : String
  virtualIp : Option String
  deriving DecidableEq, Repr

structure DeviceBootstrapResponseDto where
  device : DeviceResponseDto
  attachments : List SubnetAttachmentResponseDto
  deriving DecidableEq, Repr

structure SubnetResponseDto where
  networkId : String
  cidr : String
  isDefault : Bool
  deriving DecidableEq, Repr

structure NetworkMemberResponseDto where
  deviceId : String
  role : String
  deriving DecidableEq, Repr

structure NetworkDetailResponseDto where
  networkId : String
  name : String
  defaultSubnetCidr : Option String
  subnets : List SubnetResponseDto
  members : List NetworkMemberResponseDto
  deriving DecidableEq, Repr

structure ControlPlaneConfigResponseDto where
  wsUrl : String
  sessionToken : Option String
  heartbeatSeconds : Int
  deriving DecidableEq, Repr

structure RelayNodeResponseDto where
  nodeId : String
  transport : String
  address : String
  priority : Int
  tags : List String
  deriving DecidableEq, Repr

structure RelayClusterResponseDto where
  clusterId : String
  clusterName : String
  nodes : List RelayNodeResponseDto
  deriving DecidableEq, Repr

structure RelayCityResponseDto where
  cityCode : String
  cityName : String
  clusters : List RelayClusterResponseDto
  deriving DecidableEq, Repr

structure RelayCountryResponseDto where
  countryCode : String
  countryName : String
  cities : List RelayCityResponseDto
  deriving DecidableEq, Repr

structure RelayConfigResponseDto where
  defaultClusterId : String
  countries : List RelayCountryResponseDto
  deriving DecidableEq, Repr

structure NetworkMapResponseDto where
  networkId : String
  deriving DecidableEq, Repr

structure BootstrapResponseDto where
  device : DeviceBootstrapResponseDto
  networks : List NetworkDetailResponseDto
  controlPlane : ControlPlaneConfigResponseDto
  stunServers : List String
  relay : RelayConfigResponseDto
  networkMap : Option NetworkMapResponseDto
  deriving DecidableEq, Repr

def DeviceResponseDto.fromJson (json : JsonMap) : Except String DeviceResponseDto := do
  let deviceId ← readString json "deviceId"
  let name ← readString json "name"
  let platform ← readString json "platform"
  let status ← readString json "status"
  let publicKey ← readNullableString json "publicKey"
  let networkIds ← readStringList json "networkIds"
  return { deviceId, name, platform, status, publicKey, networkIds }

def SubnetAttachmentResponseDto.fromJson (json : JsonMap) :
    Except String SubnetAttachmentResponseDto := do
  let networkId ← readString json "networkId"
  let deviceId ← readString json "deviceId"
  let virtualIp ← readNullableString json "virtualIp"
  return { networkId, deviceId, virtualIp }

def DeviceBootstrapResponseDto.fromJson (json : JsonMap) :
    Except String DeviceBootstrapResponseDto := do
  let device ← readMap json "device" >>= DeviceResponseDto.fromJson
  let attachments ←
    readMapList json "attachments" >>= List.mapM SubnetAttachmentResponseDto.fromJson
  return { device, attachments }

def SubnetResponseDto.fromJson (json : JsonMap) : Except String SubnetResponseDto := do
  let networkId ← readString json "networkId"
  let cidr ← readString json "cidr"
  let isDefault ← readBool json "isDefault"
  return { networkId, cidr, isDefault }

def NetworkMemberResponseDto.fromJson (json : JsonMap) :
    Except String NetworkMemberResponseDto := do
  let deviceId ← readString json "deviceId"
  let role ← readString json "role"
  return { deviceId, role }

def NetworkDetailResponseDto.fromJson (json : JsonMap) :
    Except String NetworkDetailResponseDto := do
  let networkId ← readString json "networkId"
  let name ← readString json "name"
  let defaultSubnetCidr ← readNullableString json "defaultSubnetCidr"
  let subnets ← readMapList json "subnets" >>= List.mapM SubnetResponseDto.fromJson
  let members ← readMapList json "members" >>= List.mapM NetworkMemberResponseDto.fromJson
  return { networkId, name, defaultSubnetCidr, subnets, members }

def ControlPlaneConfigResponseDto.fromJson (json : JsonMap) :
    Except String ControlPlaneConfigResponseDto := do
  let wsUrl ← readString json "wsUrl"
  let sessionToken ← readNullableString json "sessionToken"
  let heartbeatSeconds ← readInt json "heartbeatSeconds"
  return { wsUrl, sessionToken, heartbeatSeconds }

def RelayNodeResponseDto.fromJson (json : JsonMap) : Except String RelayNodeResponseDto := do
  let nodeId ← readString json "nodeId"
  let transport ← readString json "transport"
  let address ← readString json "address"
  let priority ← readInt json "priority"
  let tags ← readStringList json "tags"
  return { nodeId, transport, address, priority, tags }

def RelayClusterResponseDto.fromJson (json : JsonMap) :
    Except String RelayClusterResponseDto := do
  let clusterId ← readString json "clusterId"
  let clusterName ← readString json "clusterName"
  let nodes ← readMapList json "nodes" >>= List.mapM RelayNodeResponseDto.fromJson
  return { clusterId, clusterName, nodes }

def RelayCityResponseDto.fromJson (json : JsonMap) : Except String RelayCityResponseDto := do
  let cityCode ← readString json "cityCode"
  let cityName ← readString json "cityName"
  let clusters ← readMapList json "clusters" >>= List.mapM RelayClusterResponseDto.fromJson
  return { cityCode, cityName, clusters }

def RelayCountryResponseDto.fromJson (json : JsonMap) :
    Except String RelayCountryResponseDto := do
  let countryCode ← readString json "countryCode"
  let countryName ← readString json "countryName"
  let cities ← readMapList json "cities" >>= List.mapM RelayCityResponseDto.fromJson
  return { countryCode, countryName, cities }

def RelayConfigResponseDto.fromJson (json : JsonMap) : Except String RelayConfigResponseDto := do
  let defaultClusterId ← readString json "defaultClusterId"
  let countries ← readMapList json "countries" >>= List.mapM RelayCountryResponseDto.fromJson
  return { defaultClusterId, countries }

def NetworkMapResponseDto.fromJson (json : JsonMap) : Except String NetworkMapResponseDto := do
  let networkId ← readString json "networkId"
  return { networkId }

def BootstrapResponseDto.fromJson (json : JsonMap) : Except String BootstrapResponseDto := do
  let device ← readMap json "device" >>= DeviceBootstrapResponseDto.fromJson
  let networks ← readMapList json "networks" >>= List.mapM NetworkDetailResponseDto.fromJson
  let controlPlane ← readMap json "controlPlane" >>= ControlPlaneConfigResponseDto.fromJson
  let stunServers ← readStringList json "stunServers"
  let relay ← readMap json "relay" >>= RelayConfigResponseDto.fromJson
  let networkMap ← readNullableMap json "networkMap"
  let networkMap ← networkMap.mapM NetworkMapResponseDto.fromJson
  return { device, networks, controlPlane, stunServers, relay, networkMap }

/-! ## `response_mappers.dart` -/

structure DeviceModel where
  deviceId : String
  name : String
  platform : String
  status : String
  virtualIp : Option String
  publicKey : Option String
  deriving DecidableEq, Repr

structure NetworkMemberModel where
  deviceId : String
  role : String
  virtualIp : Option String
  deriving DecidableEq, Repr

structure NetworkModel where
  networkId : String
  name : String
  cidr : String
  members : List NetworkMemberModel
  deriving DecidableEq, Repr

structure BootstrapModel where
  device : DeviceModel
  networks : List NetworkModel
  controlPlane : ControlPlaneConfigResponseDto
  stunServers : List String
  relay : RelayConfigResponseDto
  deriving DecidableEq, Repr

/-- An attachment's address where it has one that is not empty. -/
def SubnetAttachmentResponseDto.address (attachment : SubnetAttachmentResponseDto) :
    Option String :=
  attachment.virtualIp.filter (· ≠ "")

def DeviceBootstrapResponseDto.resolveVirtualIp (bootstrap : DeviceBootstrapResponseDto)
    (preferredNetworkId : Option String) : Option String :=
  let preferred := bootstrap.attachments.findSome? fun attachment =>
    if preferredNetworkId = some attachment.networkId then attachment.address else none
  preferred <|> bootstrap.attachments.findSome? (·.address)

def DeviceBootstrapResponseDto.toModel (bootstrap : DeviceBootstrapResponseDto)
    (preferredNetworkId : Option String) : DeviceModel where
  deviceId := bootstrap.device.deviceId
  name := bootstrap.device.name
  platform := bootstrap.device.platform
  status := bootstrap.device.status
  virtualIp := bootstrap.resolveVirtualIp preferredNetworkId
  publicKey := bootstrap.device.publicKey

/-- Only the member that is this device gets an address. -/
def NetworkMemberResponseDto.toModel (member : NetworkMemberResponseDto)
    (networkId selfDeviceId : String) (selfAttachments : List SubnetAttachmentResponseDto) :
    NetworkMemberModel where
  deviceId := member.deviceId
  role := member.role
  virtualIp :=
    if member.deviceId = selfDeviceId then
      selfAttachments.findSome? fun attachment =>
        if attachment.networkId = networkId then attachment.address else none
    else
      none

def NetworkDetailResponseDto.toModel (detail : NetworkDetailResponseDto) (selfDeviceId : String)
    (selfAttachments : List SubnetAttachmentResponseDto) : NetworkModel where
  networkId := detail.networkId
  name := detail.name
  cidr := detail.defaultSubnetCidr.getD
    ((detail.subnets.find? (·.isDefault) <|> detail.subnets.head?).elim "" (·.cidr))
  members := detail.members.map (·.toModel detail.networkId selfDeviceId selfAttachments)

def BootstrapResponseDto.toModel (response : BootstrapResponseDto) : BootstrapModel where
  device := response.device.toModel (response.networkMap.map (·.networkId))
  networks := response.networks.map
    (·.toModel response.device.device.deviceId response.device.attachments)
  controlPlane := response.controlPlane
  stunServers := response.stunServers
  relay := response.relay

/-! ## `response_parsers.dart` -/

def parseBootstrapResponse (json : JsonMap) : Except String BootstrapModel :=
  BootstrapResponseDto.toModel <$> BootstrapResponseDto.fromJson json

end Slan.App
