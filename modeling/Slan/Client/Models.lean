import Slan.Lib.Table
import Slan.Client.RelayProtocol

/-! # `app-core`: what the client knows about itself, its network and its tunnel -/

namespace Slan.Client

/-! ## The network -/

structure Endpoint where
  endpointType : String
  address : String
  updatedAt : Int
  deriving DecidableEq, Repr

structure Peer where
  nodeId : String
  deviceId : String
  publicKey : String
  status : String
  relayAllowed : Bool
  virtualIps : List String
  endpoints : List Endpoint
  allowedRoutes : List String
  deriving DecidableEq, Repr

structure Route where
  cidr : String
  viaNodeId : String
  metric : Option String
  deriving DecidableEq, Repr

structure RelayEndpoint where
  endpointId : String
  transport : String
  address : String
  deriving DecidableEq, Repr

structure RelayRegion where
  regionId : String
  regionName : String
  countryCode : Option String
  countryName : Option String
  cityCode : Option String
  cityName : Option String
  clusterId : Option String
  clusterName : Option String
  endpoints : List RelayEndpoint
  deriving DecidableEq, Repr

structure DnsConfig where
  servers : List String
  searchDomains : List String
  deriving DecidableEq, Repr

structure NetworkMap where
  selfUserId : String
  selfDeviceId : String
  selfNodeId : String
  networkId : String
  revision : Nat
  heartbeatSeconds : Nat
  stunServers : List String
  peers : List Peer
  routes : List Route
  relayRegions : List RelayRegion
  dns : DnsConfig
  mtu : Option Nat
  deriving DecidableEq, Repr

/-! ## The client itself -/

structure Session where
  userId : String
  accessToken : String
  deriving DecidableEq, Repr

structure Device where
  deviceId : String
  virtualIp : Option String
  deriving DecidableEq, Repr

structure Node where
  nodeId : String
  nodePublicKey : String
  capabilities : List String
  deriving DecidableEq, Repr

structure ControlPlaneConfig where
  wsUrl : String
  sessionToken : Option String
  heartbeatSeconds : Nat
  deriving DecidableEq, Repr

structure BootstrapConfig where
  device : Device
  controlPlane : ControlPlaneConfig
  networkMap : Option NetworkMap
  deriving DecidableEq, Repr

inductive ActivePath where
  | none
  | p2p (peerNodeId : String)
  | relay (peerNodeId : String)
  | derp (clusterId nodeId : String)
  deriving DecidableEq, Repr

/-! ## The tunnel -/

structure WireGuardKeyPair where
  publicKey : String
  privateKey : String
  deriving DecidableEq, Repr

structure TunnelKeyMaterial where
  deviceId : Option String
  nodeId : Option String
  keyPair : WireGuardKeyPair
  createdAtMs : Nat
  deriving DecidableEq, Repr

structure WireGuardPeerConfig where
  peerNodeId : Option String
  publicKey : String
  presharedKey : Option String
  endpoint : Option String
  /-- The `cidr` of each `AllowedIp`. -/
  allowedIps : List String
  persistentKeepaliveSeconds : Option Nat
  deriving DecidableEq, Repr

structure WireGuardInterfaceConfig where
  interfaceName : Option String
  keyPair : WireGuardKeyPair
  listenPort : Option Nat
  mtu : Option Nat
  addresses : List String
  dnsServers : List String
  peers : List WireGuardPeerConfig
  deriving DecidableEq, Repr

inductive TunnelTransport where
  | p2p
  | relay
  | derp
  deriving DecidableEq, Repr

structure TunnelConfig where
  transport : TunnelTransport
  localVirtualIp : String
  peerVirtualIp : String
  wireguardInterface : WireGuardInterfaceConfig
  wireguardPeer : WireGuardPeerConfig
  deriving DecidableEq, Repr

inductive TunnelState where
  | disconnected
  | configured
  deriving DecidableEq, Repr

structure TunnelRuntimeView where
  state : TunnelState
  transport : TunnelTransport
  peerVirtualIp : String
  peerPublicKey : String
  selectedEndpoint : Option String
  interfaceName : Option String
  deriving DecidableEq, Repr

end Slan.Client
