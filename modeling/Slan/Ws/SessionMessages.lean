import Slan.Ws.Messages

/-! # `internal/ws`: the messages of a session -/

namespace Slan.Ws

open GoJson (Codec text boolean int uint64 uint32 raw pointer slice struct)

/-! ## `messages_handshake.go` -/

structure NodeHello where
  userId : String
  deviceId : String
  nodeId : String
  networkId : String
  sessionToken : String
  nodePublicKey : String
  capabilities : List String
  deriving DecidableEq, Repr

namespace NodeHello

def zero : NodeHello := ⟨"", "", "", "", "", "", []⟩

def fields : List (GoJson.Field NodeHello) :=
  [ .always "userId" text userId fun a m => { m with userId := a },
    .always "deviceId" text deviceId fun a m => { m with deviceId := a },
    .always "nodeId" text nodeId fun a m => { m with nodeId := a },
    .always "networkId" text networkId fun a m => { m with networkId := a },
    .always "sessionToken" text sessionToken fun a m => { m with sessionToken := a },
    .always "nodePublicKey" text nodePublicKey fun a m => { m with nodePublicKey := a },
    .omitting "capabilities" (slice text) capabilities fun a m => { m with capabilities := a } ]

def codec : Codec NodeHello := struct fields zero

end NodeHello

structure NodeHelloAck where
  controlSessionId : String
  heartbeatSeconds : Int64
  networkRevision : UInt64
  deriving DecidableEq, Repr

namespace NodeHelloAck

def zero : NodeHelloAck := ⟨"", 0, 0⟩

def fields : List (GoJson.Field NodeHelloAck) :=
  [ .always "controlSessionId" text controlSessionId fun a m => { m with controlSessionId := a },
    .always "heartbeatSeconds" int heartbeatSeconds fun a m => { m with heartbeatSeconds := a },
    .always "networkRevision" uint64 networkRevision fun a m => { m with networkRevision := a } ]

def codec : Codec NodeHelloAck := struct fields zero

end NodeHelloAck

structure Ping where
  timestamp : Int64
  deriving DecidableEq, Repr

namespace Ping

def zero : Ping := ⟨0⟩

def fields : List (GoJson.Field Ping) :=
  [ .always "timestamp" int timestamp fun a m => { m with timestamp := a } ]

def codec : Codec Ping := struct fields zero

end Ping

structure Pong where
  timestamp : Int64
  deriving DecidableEq, Repr

namespace Pong

def zero : Pong := ⟨0⟩

def fields : List (GoJson.Field Pong) :=
  [ .always "timestamp" int timestamp fun a m => { m with timestamp := a } ]

def codec : Codec Pong := struct fields zero

end Pong

structure NetworkMapRequest where
  networkId : String
  lastRevision : UInt64
  deriving DecidableEq, Repr

namespace NetworkMapRequest

def zero : NetworkMapRequest := ⟨"", 0⟩

def fields : List (GoJson.Field NetworkMapRequest) :=
  [ .always "networkId" text networkId fun a m => { m with networkId := a },
    .always "lastRevision" uint64 lastRevision fun a m => { m with lastRevision := a } ]

def codec : Codec NetworkMapRequest := struct fields zero

end NetworkMapRequest

structure ErrorMessage where
  code : String
  message : String
  deriving DecidableEq, Repr

namespace ErrorMessage

def zero : ErrorMessage := ⟨"", ""⟩

def fields : List (GoJson.Field ErrorMessage) :=
  [ .always "code" text code fun a m => { m with code := a },
    .always "message" text message fun a m => { m with message := a } ]

def codec : Codec ErrorMessage := struct fields zero

end ErrorMessage

/-! ## `messages_topology.go`: the network map -/

structure Route where
  cidr : String
  viaNodeId : String
  metric : String
  deriving DecidableEq, Repr

namespace Route

def zero : Route := ⟨"", "", ""⟩

def fields : List (GoJson.Field Route) :=
  [ .always "cidr" text cidr fun a m => { m with cidr := a },
    .always "viaNodeId" text viaNodeId fun a m => { m with viaNodeId := a },
    .omitting "metric" text metric fun a m => { m with metric := a } ]

def codec : Codec Route := struct fields zero

end Route

structure DNSConfig where
  servers : List String
  searchDomains : List String
  deriving DecidableEq, Repr

namespace DNSConfig

def zero : DNSConfig := ⟨[], []⟩

def fields : List (GoJson.Field DNSConfig) :=
  [ .omitting "servers" (slice text) servers fun a m => { m with servers := a },
    .omitting "searchDomains" (slice text) searchDomains fun a m => { m with searchDomains := a } ]

def codec : Codec DNSConfig := struct fields zero

end DNSConfig

structure RelayEndpoint where
  endpointId : String
  transport : String
  address : String
  deriving DecidableEq, Repr

namespace RelayEndpoint

def zero : RelayEndpoint := ⟨"", "", ""⟩

def fields : List (GoJson.Field RelayEndpoint) :=
  [ .always "endpointId" text endpointId fun a m => { m with endpointId := a },
    .always "transport" text transport fun a m => { m with transport := a },
    .always "address" text address fun a m => { m with address := a } ]

def codec : Codec RelayEndpoint := struct fields zero

end RelayEndpoint

structure RelayRegion where
  regionId : String
  regionName : String
  countryCode : String
  countryName : String
  cityCode : String
  cityName : String
  clusterId : String
  clusterName : String
  endpoints : List RelayEndpoint
  deriving DecidableEq, Repr

namespace RelayRegion

def zero : RelayRegion := ⟨"", "", "", "", "", "", "", "", []⟩

def fields : List (GoJson.Field RelayRegion) :=
  [ .always "regionId" text regionId fun a m => { m with regionId := a },
    .always "regionName" text regionName fun a m => { m with regionName := a },
    .omitting "countryCode" text countryCode fun a m => { m with countryCode := a },
    .omitting "countryName" text countryName fun a m => { m with countryName := a },
    .omitting "cityCode" text cityCode fun a m => { m with cityCode := a },
    .omitting "cityName" text cityName fun a m => { m with cityName := a },
    .omitting "clusterId" text clusterId fun a m => { m with clusterId := a },
    .omitting "clusterName" text clusterName fun a m => { m with clusterName := a },
    .omitting "endpoints" (slice RelayEndpoint.codec) endpoints fun a m =>
      { m with endpoints := a } ]

def codec : Codec RelayRegion := struct fields zero

end RelayRegion

structure NetworkMap where
  selfUserId : String
  selfDeviceId : String
  selfNodeId : String
  networkId : String
  revision : UInt64
  heartbeatSeconds : Int64
  stunServers : List String
  peers : List Peer
  routes : List Route
  relayRegions : List RelayRegion
  dns : DNSConfig
  mtu : Int64
  deriving DecidableEq, Repr

namespace NetworkMap

def zero : NetworkMap := ⟨"", "", "", "", 0, 0, [], [], [], [], .zero, 0⟩

def fields : List (GoJson.Field NetworkMap) :=
  [ .always "selfUserId" text selfUserId fun a m => { m with selfUserId := a },
    .always "selfDeviceId" text selfDeviceId fun a m => { m with selfDeviceId := a },
    .always "selfNodeId" text selfNodeId fun a m => { m with selfNodeId := a },
    .always "networkId" text networkId fun a m => { m with networkId := a },
    .always "revision" uint64 revision fun a m => { m with revision := a },
    .always "heartbeatSeconds" int heartbeatSeconds fun a m => { m with heartbeatSeconds := a },
    .omitting "stunServers" (slice text) stunServers fun a m => { m with stunServers := a },
    .omitting "peers" (slice Peer.codec) peers fun a m => { m with peers := a },
    .omitting "routes" (slice Route.codec) routes fun a m => { m with routes := a },
    .omitting "relayRegions" (slice RelayRegion.codec) relayRegions fun a m =>
      { m with relayRegions := a },
    .always "dns" DNSConfig.codec dns fun a m => { m with dns := a },
    .omitting "mtu" int mtu fun a m => { m with mtu := a } ]

def codec : Codec NetworkMap := struct fields zero

end NetworkMap

structure NetworkMapResponse where
  map : NetworkMap
  deriving DecidableEq, Repr

namespace NetworkMapResponse

def zero : NetworkMapResponse := ⟨.zero⟩

def fields : List (GoJson.Field NetworkMapResponse) :=
  [ .always "map" NetworkMap.codec map fun a m => { m with map := a } ]

def codec : Codec NetworkMapResponse := struct fields zero

end NetworkMapResponse

/-! ## `messages_control.go`: what nodes report -/

structure EndpointReport where
  networkId : String
  nodeId : String
  natType : String
  endpoints : List Endpoint
  deriving DecidableEq, Repr

namespace EndpointReport

def zero : EndpointReport := ⟨"", "", "", []⟩

def fields : List (GoJson.Field EndpointReport) :=
  [ .always "networkId" text networkId fun a m => { m with networkId := a },
    .always "nodeId" text nodeId fun a m => { m with nodeId := a },
    .always "natType" text natType fun a m => { m with natType := a },
    .omitting "endpoints" (slice Endpoint.codec) endpoints fun a m => { m with endpoints := a } ]

def codec : Codec EndpointReport := struct fields zero

end EndpointReport

structure PathHealthReport where
  networkId : String
  peerNodeId : String
  pathType : String
  endpoint : String
  derpNodeId : String
  observedRttMs : Option UInt32
  packetLossPpm : Option UInt32
  pathScore : Option UInt32
  sampledAtMs : UInt64
  deriving DecidableEq, Repr

namespace PathHealthReport

def zero : PathHealthReport := ⟨"", "", "", "", "", none, none, none, 0⟩

def fields : List (GoJson.Field PathHealthReport) :=
  [ .always "networkId" text networkId fun a m => { m with networkId := a },
    .always "peerNodeId" text peerNodeId fun a m => { m with peerNodeId := a },
    .always "pathType" text pathType fun a m => { m with pathType := a },
    .omitting "endpoint" text endpoint fun a m => { m with endpoint := a },
    .omitting "derpNodeId" text derpNodeId fun a m => { m with derpNodeId := a },
    .omitting "observedRttMs" (pointer uint32) observedRttMs fun a m =>
      { m with observedRttMs := a },
    .omitting "packetLossPpm" (pointer uint32) packetLossPpm fun a m =>
      { m with packetLossPpm := a },
    .omitting "pathScore" (pointer uint32) pathScore fun a m => { m with pathScore := a },
    .omitting "sampledAtMs" uint64 sampledAtMs fun a m => { m with sampledAtMs := a } ]

def codec : Codec PathHealthReport := struct fields zero

end PathHealthReport

structure ConnectionState where
  networkId : String
  peerNodeId : String
  path : String
  state : String
  reason : String
  observedRttMs : Option UInt32
  packetLossPpm : Option UInt32
  pathScore : Option UInt32
  derpNodeId : String
  deriving DecidableEq, Repr

namespace ConnectionState

def zero : ConnectionState := ⟨"", "", "", "", "", none, none, none, ""⟩

def fields : List (GoJson.Field ConnectionState) :=
  [ .always "networkId" text networkId fun a m => { m with networkId := a },
    .always "peerNodeId" text peerNodeId fun a m => { m with peerNodeId := a },
    .always "path" text path fun a m => { m with path := a },
    .always "state" text state fun a m => { m with state := a },
    .omitting "reason" text reason fun a m => { m with reason := a },
    .omitting "observedRttMs" (pointer uint32) observedRttMs fun a m =>
      { m with observedRttMs := a },
    .omitting "packetLossPpm" (pointer uint32) packetLossPpm fun a m =>
      { m with packetLossPpm := a },
    .omitting "pathScore" (pointer uint32) pathScore fun a m => { m with pathScore := a },
    .omitting "derpNodeId" text derpNodeId fun a m => { m with derpNodeId := a } ]

def codec : Codec ConnectionState := struct fields zero

end ConnectionState

structure DisconnectNotice where
  networkId : String
  peerNodeId : String
  reason : String
  deriving DecidableEq, Repr

namespace DisconnectNotice

def zero : DisconnectNotice := ⟨"", "", ""⟩

def fields : List (GoJson.Field DisconnectNotice) :=
  [ .always "networkId" text networkId fun a m => { m with networkId := a },
    .always "peerNodeId" text peerNodeId fun a m => { m with peerNodeId := a },
    .omitting "reason" text reason fun a m => { m with reason := a } ]

def codec : Codec DisconnectNotice := struct fields zero

end DisconnectNotice

end Slan.Ws
