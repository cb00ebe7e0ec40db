import Slan.Lib.SwiftText
import Slan.Macos.PacketTunnelManager

/-! # `PacketTunnelProviderSupport.swift`, and what `PacketTunnelProvider.swift` starts with -/

namespace Slan.Macos

open Plist (Dictionary Value read)
open Plist.Value (asArrayOf asDictionary asInt asString)
open SwiftText (int split)

/-- What Swift makes of a text: its characters, which are grapheme clusters, and the host of the
URL that it is. -/
structure Foundation where
  characters : String → List String
  urlHost : String → Option String

inductive PacketTunnelDebugEngineMode where
  | noop
  | loopback
  | external
  deriving DecidableEq, Repr

def PacketTunnelDebugEngineMode.rawValue : PacketTunnelDebugEngineMode → String
  | .noop => "noop"
  | .loopback => "loopback"
  | .external => "external"

/-- `init(rawValue:)` -/
def PacketTunnelDebugEngineMode.ofRawValue (value : String) :
    Option PacketTunnelDebugEngineMode :=
  [.noop, .loopback, .external].find? fun mode => mode.rawValue = value

/-- An invalid configuration. -/
structure PacketTunnelProviderError where
  message : String
  deriving DecidableEq, Repr

/-! ## Settings of the system -/

structure NEIPv4Route where
  destinationAddress : String
  destinationSubnetMask : String
  deriving DecidableEq, Repr

/-- `NEIPv4Route.default()` -/
def NEIPv4Route.default : NEIPv4Route := ⟨"0.0.0.0", "0.0.0.0"⟩

structure NEIPv4Settings where
  addresses : List String
  subnetMasks : List String
  includedRoutes : List NEIPv4Route
  deriving DecidableEq, Repr

structure NEPacketTunnelNetworkSettings where
  tunnelRemoteAddress : String
  ipv4Settings : NEIPv4Settings
  dnsSettings : Option (List String)
  mtu : Option Int
  deriving DecidableEq, Repr

/-! ## Addresses -/

structure PacketTunnelIPv4CIDR where
  address : String
  subnetMask : String
  deriving DecidableEq, Repr

namespace PacketTunnelIPv4CIDR

def maskValue (prefixLength : Nat) : BitVec 32 :=
  if prefixLength = 0 then 0 else BitVec.allOnes 32 <<< (32 - prefixLength)

def mask (prefixLength : Nat) : String :=
  let maskValue := maskValue prefixLength
  let octets := [(maskValue >>> 24) &&& 0xff, (maskValue >>> 16) &&& 0xff,
    (maskValue >>> 8) &&& 0xff, maskValue &&& 0xff]
  ".".intercalate (octets.map fun octet => toString octet.toNat)

/-- Of `init`, what is done with the parts of the text. -/
def ofParts (cidr : String) (parts : List String) :
    Except PacketTunnelProviderError PacketTunnelIPv4CIDR :=
  match parts.head?.filter (· ≠ "") with
  | none => .error ⟨"invalid cidr: " ++ cidr⟩
  | some address =>
    match parts with
    | [_, digits] =>
      match (int digits).filter fun value => 0 ≤ value ∧ value ≤ 32 with
      | none => .error ⟨"invalid cidr prefix: " ++ cidr⟩
      | some value => .ok ⟨address, mask value.toNat⟩
    | _ => .ok ⟨address, mask 32⟩

def init (foundation : Foundation) (cidr : String) :
    Except PacketTunnelProviderError PacketTunnelIPv4CIDR :=
  ofParts cidr ((split "/" 1 (foundation.characters cidr)).map String.join)

end PacketTunnelIPv4CIDR

/-! ## Configurations -/

structure PacketTunnelProviderConfiguration where
  localVirtualIp : String
  peerVirtualIp : String
  remoteAddress : String
  dnsServers : List String
  mtu : Option Int
  selectedEndpoint : Option String
  debugEngineMode : PacketTunnelDebugEngineMode
  interfaceAddress : PacketTunnelIPv4CIDR
  allowedIps : List String
  allowedIPv4Routes : List NEIPv4Route
  deriving DecidableEq, Repr

namespace PacketTunnelProviderConfiguration

/-- The `guard` of a required field. -/
def require {α : Type} (kind key : String) (value : Option α) :
    Except PacketTunnelProviderError α :=
  value.elim (.error ⟨"missing or invalid " ++ kind ++ " field " ++ key⟩) .ok

def requireString (key : String) (json : Dictionary) : Except PacketTunnelProviderError String :=
  require "string" key ((read asString json key).filter (· ≠ ""))

def requireObject (key : String) (json : Dictionary) :
    Except PacketTunnelProviderError Dictionary :=
  require "object" key (read asDictionary json key)

def optionalDebugEngineMode (json : Dictionary) :
    Except PacketTunnelProviderError PacketTunnelDebugEngineMode :=
  match (read asString json "debugEngineMode").filter (· ≠ "") with
  | none => .ok .noop
  | some value =>
    (PacketTunnelDebugEngineMode.ofRawValue value).elim
      (.error ⟨"invalid debug engine mode: " ++ value⟩) .ok

/-- A `split` without `maxSplits` makes `Int.max` of them at most. -/
def remoteHost (foundation : Foundation) (endpoint : Option String) : Option String :=
  (endpoint.filter (· ≠ "")).bind fun endpoint =>
    ((foundation.urlHost ("udp://" ++ endpoint)).filter (· ≠ "")).or
      ((split ":" (2 ^ 63 - 1) (foundation.characters endpoint)).head?.map String.join)

/-- `compactMap`, with a transform that may throw. -/
def compactMap {α β : Type} (transform : α → Except PacketTunnelProviderError (Option β)) :
    List α → Except PacketTunnelProviderError (List β)
  | [] => .ok []
  | item :: items => do
    let first ← transform item
    let rest ← compactMap transform items
    return first.toList ++ rest

/-- The address of an item of the allowed IPs, if it has one, and what is made of it. -/
def allowedIp {β : Type} (foundation : Foundation) (make : String → PacketTunnelIPv4CIDR → β)
    (item : Dictionary) : Except PacketTunnelProviderError (Option β) :=
  match read asString item "cidr" with
  | none => .ok none
  | some cidr => (PacketTunnelIPv4CIDR.init foundation cidr).map fun route =>
      some (make cidr route)

def init (foundation : Foundation) (providerConfiguration : Dictionary) :
    Except PacketTunnelProviderError PacketTunnelProviderConfiguration := do
  let localVirtualIp ← requireString "localVirtualIp" providerConfiguration
  let peerVirtualIp ← requireString "peerVirtualIp" providerConfiguration
  let interface ← requireObject "wireguardInterface" providerConfiguration
  let peer ← requireObject "wireguardPeer" providerConfiguration
  let addresses := (read (asArrayOf asString) interface "addresses").getD []
  let addressCIDR := addresses.head?.getD (localVirtualIp ++ "/32")
  let interfaceAddress ← PacketTunnelIPv4CIDR.init foundation addressCIDR
  let endpoint := read asString peer "endpoint"
  let debugEngineMode ← optionalDebugEngineMode providerConfiguration
  let items := (read (asArrayOf asDictionary) peer "allowedIps").getD []
  let allowedIps ← compactMap (allowedIp foundation fun cidr _ => cidr) items
  let allowedIPv4Routes ← compactMap
    (allowedIp foundation fun _ route => NEIPv4Route.mk route.address route.subnetMask) items
  return {
    localVirtualIp
    peerVirtualIp
    remoteAddress := (remoteHost foundation endpoint).getD peerVirtualIp
    dnsServers := (read (asArrayOf asString) interface "dnsServers").getD []
    mtu := read asInt interface "mtu"
    selectedEndpoint := endpoint
    debugEngineMode
    interfaceAddress
    allowedIps
    allowedIPv4Routes }

end PacketTunnelProviderConfiguration

/-! ## The provider -/

def makeNetworkSettings (configuration : PacketTunnelProviderConfiguration) :
    NEPacketTunnelNetworkSettings where
  tunnelRemoteAddress := configuration.remoteAddress
  ipv4Settings := {
    addresses := [configuration.interfaceAddress.address]
    subnetMasks := [configuration.interfaceAddress.subnetMask]
    includedRoutes := if configuration.allowedIPv4Routes = [] then [NEIPv4Route.default]
      else configuration.allowedIPv4Routes }
  dnsSettings := if configuration.dnsServers = [] then none else some configuration.dnsServers
  mtu := configuration.mtu

def loadConfiguration (foundation : Foundation)
    (protocolConfiguration : Option NETunnelProviderProtocol) :
    Except PacketTunnelProviderError PacketTunnelProviderConfiguration :=
  match protocolConfiguration.bind NETunnelProviderProtocol.providerConfiguration with
  | none => .error ⟨"missing NETunnelProviderProtocol providerConfiguration"⟩
  | some providerConfiguration =>
    PacketTunnelProviderConfiguration.init foundation providerConfiguration

/-- The settings that `startTunnel` asks the system to apply. -/
def startTunnel (foundation : Foundation)
    (protocolConfiguration : Option NETunnelProviderProtocol) :
    Except PacketTunnelProviderError NEPacketTunnelNetworkSettings := do
  let configuration ← loadConfiguration foundation protocolConfiguration
  return makeNetworkSettings configuration

end Slan.Macos
