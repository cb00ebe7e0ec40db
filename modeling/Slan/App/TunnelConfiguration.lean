import Slan.App.ControlApiResponses
import Slan.Lib.Text

/-! # `tunnel_configuration_service.dart` -/

namespace Slan.App

/-! ## Configurations -/

structure WireGuardTunnelKeyPair where
  publicKey : String
  privateKey : String
  deriving DecidableEq, Repr

structure WireGuardTunnelPeerConfiguration where
  peerNodeId : Option String := none
  publicKey : String
  presharedKey : Option String := none
  endpoint : Option String := none
  allowedIps : List String
  persistentKeepaliveSeconds : Option Int := none
  deriving DecidableEq, Repr

structure WireGuardTunnelInterfaceConfiguration where
  interfaceName : Option String := none
  keyPair : WireGuardTunnelKeyPair
  listenPort : Option Int := none
  mtu : Option Int := none
  addresses : List String
  dnsServers : List String := []
  deriving DecidableEq, Repr

structure WireGuardTunnelConfiguration where
  transport : String
  localVirtualIp : String
  peerVirtualIp : String
  interface : WireGuardTunnelInterfaceConfiguration
  peer : WireGuardTunnelPeerConfiguration
  debugEngineMode : Option String := none
  deriving DecidableEq, Repr

/-! ## The active network -/

/-- White space, and the byte order mark. -/
def isTrimmed (c : Char) : Bool := Text.isSpace c || c == '\uFEFF'

/-- `String.trim` -/
def trim (s : String) : String :=
  String.ofList ((s.toList.dropWhile isTrimmed).rdropWhile isTrimmed)

/-- A text without its outer white space, if anything is left. -/
def nonBlank (s : Option String) : Option String := (s.map trim).filter (· ≠ "")

def kDevTunnelEndpoint : String := "203.0.113.10:51820"

def localVirtualIpFor (network : NetworkModel) (deviceId : String) : String :=
  (network.members.findSome? fun member =>
    if member.deviceId = deviceId then nonBlank member.virtualIp else none).getD "10.0.0.10"

/-- What the peer's address is taken to be where no other member has one. -/
def peerFallback (localVirtualIp : String) : String :=
  if localVirtualIp = "10.0.0.2" then "10.0.0.3" else "10.0.0.2"

def peerVirtualIpFor (network : NetworkModel) (deviceId localVirtualIp : String) : String :=
  (network.members.findSome? fun member =>
    if member.deviceId ≠ deviceId then nonBlank member.virtualIp else none).getD
      (peerFallback localVirtualIp)

def buildActiveNetworkConfiguration (network : NetworkModel) (deviceId : String)
    (devicePublicKey : Option String) : WireGuardTunnelConfiguration :=
  let localVirtualIp := localVirtualIpFor network deviceId
  let peerVirtualIp := peerVirtualIpFor network deviceId localVirtualIp
  { transport := "relay"
    localVirtualIp
    peerVirtualIp
    interface := {
      keyPair := {
        privateKey := "debug-private-key"
        publicKey := (nonBlank devicePublicKey).getD "debug-public-key" }
      listenPort := some 51820
      mtu := some 1280
      addresses := [localVirtualIp ++ "/32"]
      dnsServers := ["1.1.1.1"] }
    peer := {
      publicKey := "peer-debug-public-key"
      endpoint := some kDevTunnelEndpoint
      allowedIps := [peerVirtualIp ++ "/32"] } }

end Slan.App
