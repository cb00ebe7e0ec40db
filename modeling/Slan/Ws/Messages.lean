import Slan.Lib.GoJson

/-! # `internal/ws`: the messages of the control channel, and their JSON

Of a list, nil and empty are one value: every list here is left out when it is empty.
-/

namespace Slan.Ws

open GoJson (Codec text boolean int uint64 pointer slice struct)

/-! ## Topology -/

structure Endpoint where
  endpointType : String
  address : String
  updatedAt : Int64
  deriving DecidableEq, Repr

namespace Endpoint

def zero : Endpoint := ⟨"", "", 0⟩

def fields : List (GoJson.Field Endpoint) :=
  [ .always "type" text endpointType fun a m => { m with endpointType := a },
    .always "address" text address fun a m => { m with address := a },
    .always "updatedAt" int updatedAt fun a m => { m with updatedAt := a } ]

def codec : Codec Endpoint := struct fields zero

end Endpoint

structure Peer where
  nodeId : String
  deviceId : String
  publicKey : String
  status : String
  relayAllowed : Bool
  virtualIps : List String
  endpoints : List Endpoint
  allowedRoutes : List String
  deriving DecidableEq, Repr

namespace Peer

def zero : Peer := ⟨"", "", "", "", false, [], [], []⟩

def fields : List (GoJson.Field Peer) :=
  [ .always "nodeId" text nodeId fun a m => { m with nodeId := a },
    .always "deviceId" text deviceId fun a m => { m with deviceId := a },
    .always "publicKey" text publicKey fun a m => { m with publicKey := a },
    .always "status" text status fun a m => { m with status := a },
    .always "relayAllowed" boolean relayAllowed fun a m => { m with relayAllowed := a },
    .omitting "virtualIps" (slice text) virtualIps fun a m => { m with virtualIps := a },
    .omitting "endpoints" (slice Endpoint.codec) endpoints fun a m => { m with endpoints := a },
    .omitting "allowedRoutes" (slice text) allowedRoutes fun a m =>
      { m with allowedRoutes := a } ]

def codec : Codec Peer := struct fields zero

end Peer

structure PeerUpdate where
  networkId : String
  revision : UInt64
  peer : Peer
  deriving DecidableEq, Repr

namespace PeerUpdate

def zero : PeerUpdate := ⟨"", 0, .zero⟩

def fields : List (GoJson.Field PeerUpdate) :=
  [ .always "networkId" text networkId fun a m => { m with networkId := a },
    .always "revision" uint64 revision fun a m => { m with revision := a },
    .always "peer" Peer.codec peer fun a m => { m with peer := a } ]

def codec : Codec PeerUpdate := struct fields zero

end PeerUpdate

structure PeerRemove where
  networkId : String
  revision : UInt64
  peerNodeId : String
  deriving DecidableEq, Repr

namespace PeerRemove

def zero : PeerRemove := ⟨"", 0, ""⟩

def fields : List (GoJson.Field PeerRemove) :=
  [ .always "networkId" text networkId fun a m => { m with networkId := a },
    .always "revision" uint64 revision fun a m => { m with revision := a },
    .always "peerNodeId" text peerNodeId fun a m => { m with peerNodeId := a } ]

def codec : Codec PeerRemove := struct fields zero

end PeerRemove

/-! ## Candidates -/

structure PeerCandidate where
  peerNodeId : String
  candidateType : String
  foundation : String
  component : Int64
  protocol : String
  address : String
  port : Int64
  priority : Int64
  relatedAddress : String
  relatedPort : Int64
  relayUrl : String
  endpoint : String
  priorityRank : Int64
  deriving DecidableEq, Repr

namespace PeerCandidate

def zero : PeerCandidate := ⟨"", "", "", 0, "", "", 0, 0, "", 0, "", "", 0⟩

-- `Priority` and `PriorityRank` have one tag.
def fields : List (GoJson.Field PeerCandidate) :=
  [ .always "peerNodeId" text peerNodeId fun a m => { m with peerNodeId := a },
    .always "candidateType" text candidateType fun a m => { m with candidateType := a },
    .omitting "foundation" text foundation fun a m => { m with foundation := a },
    .omitting "component" int component fun a m => { m with component := a },
    .omitting "protocol" text protocol fun a m => { m with protocol := a },
    .omitting "address" text address fun a m => { m with address := a },
    .omitting "port" int port fun a m => { m with port := a },
    .omitting "priority" int priority fun a m => { m with priority := a },
    .omitting "relatedAddress" text relatedAddress fun a m => { m with relatedAddress := a },
    .omitting "relatedPort" int relatedPort fun a m => { m with relatedPort := a },
    .omitting "relayUrl" text relayUrl fun a m => { m with relayUrl := a },
    .always "endpoint" text endpoint fun a m => { m with endpoint := a },
    .omitting "priority" int priorityRank fun a m => { m with priorityRank := a } ]

def codec : Codec PeerCandidate := struct fields zero

end PeerCandidate

/-! ## Connect plans -/

structure PathOption where
  pathType : String
  endpoint : String
  priority : Int64
  deriving DecidableEq, Repr

namespace PathOption

def zero : PathOption := ⟨"", "", 0⟩

def fields : List (GoJson.Field PathOption) :=
  [ .always "pathType" text pathType fun a m => { m with pathType := a },
    .always "endpoint" text endpoint fun a m => { m with endpoint := a },
    .always "priority" int priority fun a m => { m with priority := a } ]

def codec : Codec PathOption := struct fields zero

end PathOption

structure RelayTicket where
  ticketId : String
  networkId : String
  sessionId : String
  srcNodeId : String
  dstNodeId : String
  derpClusterId : String
  countryCode : String
  cityCode : String
  allowedDerpNodeIds : List String
  relayUrl : String
  expiresAt : String
  sessionKey : String
  signature : String
  deriving DecidableEq, Repr

namespace RelayTicket

def zero : RelayTicket := ⟨"", "", "", "", "", "", "", "", [], "", "", "", ""⟩

def fields : List (GoJson.Field RelayTicket) :=
  [ .always "ticketId" text ticketId fun a m => { m with ticketId := a },
    .always "networkId" text networkId fun a m => { m with networkId := a },
    .always "sessionId" text sessionId fun a m => { m with sessionId := a },
    .always "srcNodeId" text srcNodeId fun a m => { m with srcNodeId := a },
    .always "dstNodeId" text dstNodeId fun a m => { m with dstNodeId := a },
    .omitting "derpClusterId" text derpClusterId fun a m => { m with derpClusterId := a },
    .omitting "countryCode" text countryCode fun a m => { m with countryCode := a },
    .omitting "cityCode" text cityCode fun a m => { m with cityCode := a },
    .omitting "allowedDerpNodeIds" (slice text) allowedDerpNodeIds fun a m =>
      { m with allowedDerpNodeIds := a },
    .always "relayUrl" text relayUrl fun a m => { m with relayUrl := a },
    .always "expiresAt" text expiresAt fun a m => { m with expiresAt := a },
    .omitting "sessionKey" text sessionKey fun a m => { m with sessionKey := a },
    .always "signature" text signature fun a m => { m with signature := a } ]

def codec : Codec RelayTicket := struct fields zero

end RelayTicket

structure ConnectPlan where
  peerNodeId : String
  preferDirect : Bool
  paths : List PathOption
  derpClusterId : String
  preferredDerpNodeIds : List String
  relayTicket : Option RelayTicket
  deriving DecidableEq, Repr

namespace ConnectPlan

def zero : ConnectPlan := ⟨"", false, [], "", [], none⟩

def fields : List (GoJson.Field ConnectPlan) :=
  [ .always "peerNodeId" text peerNodeId fun a m => { m with peerNodeId := a },
    .always "preferDirect" boolean preferDirect fun a m => { m with preferDirect := a },
    .omitting "paths" (slice PathOption.codec) paths fun a m => { m with paths := a },
    .omitting "derpClusterId" text derpClusterId fun a m => { m with derpClusterId := a },
    .omitting "preferredDerpNodeIds" (slice text) preferredDerpNodeIds fun a m =>
      { m with preferredDerpNodeIds := a },
    .omitting "relayTicket" (pointer RelayTicket.codec) relayTicket fun a m =>
      { m with relayTicket := a } ]

def codec : Codec ConnectPlan := struct fields zero

end ConnectPlan

/-! ## Notices -/

structure NetworkRestartRequired where
  networkId : String
  revision : UInt64
  reason : String
  defaultSubnetCidr : String
  deriving DecidableEq, Repr

namespace NetworkRestartRequired

def zero : NetworkRestartRequired := ⟨"", 0, "", ""⟩

def fields : List (GoJson.Field NetworkRestartRequired) :=
  [ .always "networkId" text networkId fun a m => { m with networkId := a },
    .omitting "revision" uint64 revision fun a m => { m with revision := a },
    .omitting "reason" text reason fun a m => { m with reason := a },
    .omitting "defaultSubnetCidr" text defaultSubnetCidr fun a m =>
      { m with defaultSubnetCidr := a } ]

def codec : Codec NetworkRestartRequired := struct fields zero

end NetworkRestartRequired

structure DeviceIPReassigned where
  networkId : String
  deviceId : String
  attachmentId : String
  virtualIp : String
  reason : String
  deriving DecidableEq, Repr

namespace DeviceIPReassigned

def zero : DeviceIPReassigned := ⟨"", "", "", "", ""⟩

def fields : List (GoJson.Field DeviceIPReassigned) :=
  [ .always "networkId" text networkId fun a m => { m with networkId := a },
    .always "deviceId" text deviceId fun a m => { m with deviceId := a },
    .always "attachmentId" text attachmentId fun a m => { m with attachmentId := a },
    .always "virtualIp" text virtualIp fun a m => { m with virtualIp := a },
    .omitting "reason" text reason fun a m => { m with reason := a } ]

def codec : Codec DeviceIPReassigned := struct fields zero

end DeviceIPReassigned

structure ActiveNetworkEnabled where
  userId : String
  networkId : String
  reason : String
  deriving DecidableEq, Repr

namespace ActiveNetworkEnabled

def zero : ActiveNetworkEnabled := ⟨"", "", ""⟩

def fields : List (GoJson.Field ActiveNetworkEnabled) :=
  [ .always "userId" text userId fun a m => { m with userId := a },
    .always "networkId" text networkId fun a m => { m with networkId := a },
    .omitting "reason" text reason fun a m => { m with reason := a } ]

def codec : Codec ActiveNetworkEnabled := struct fields zero

end ActiveNetworkEnabled

/-! ## Events between instances -/

structure ControlSyncEvent where
  instanceId : String
  eventType : String
  networkId : String
  sourceNodeId : String
  revision : UInt64
  peer : Option Peer
  peerNodeId : String
  targetNodeId : String
  targetUserId : String
  candidate : Option PeerCandidate
  plan : Option ConnectPlan
  restart : Option NetworkRestartRequired
  deviceIp : Option DeviceIPReassigned
  activeNetwork : Option ActiveNetworkEnabled
  deriving DecidableEq, Repr

namespace ControlSyncEvent

def zero : ControlSyncEvent :=
  ⟨"", "", "", "", 0, none, "", "", "", none, none, none, none, none⟩

def fields : List (GoJson.Field ControlSyncEvent) :=
  [ .always "instanceId" text instanceId fun a m => { m with instanceId := a },
    .always "type" text eventType fun a m => { m with eventType := a },
    .always "networkId" text networkId fun a m => { m with networkId := a },
    .always "sourceNodeId" text sourceNodeId fun a m => { m with sourceNodeId := a },
    .omitting "revision" uint64 revision fun a m => { m with revision := a },
    .omitting "peer" (pointer Peer.codec) peer fun a m => { m with peer := a },
    .omitting "peerNodeId" text peerNodeId fun a m => { m with peerNodeId := a },
    .omitting "targetNodeId" text targetNodeId fun a m => { m with targetNodeId := a },
    .omitting "targetUserId" text targetUserId fun a m => { m with targetUserId := a },
    .omitting "candidate" (pointer PeerCandidate.codec) candidate fun a m =>
      { m with candidate := a },
    .omitting "plan" (pointer ConnectPlan.codec) plan fun a m => { m with plan := a },
    .omitting "restart" (pointer NetworkRestartRequired.codec) restart fun a m =>
      { m with restart := a },
    .omitting "deviceIp" (pointer DeviceIPReassigned.codec) deviceIp fun a m =>
      { m with deviceIp := a },
    .omitting "activeNetwork" (pointer ActiveNetworkEnabled.codec) activeNetwork fun a m =>
      { m with activeNetwork := a } ]

def codec : Codec ControlSyncEvent := struct fields zero

/-- `PublishControlSyncEvent`: what is put on the channel. -/
def publish (event : ControlSyncEvent) : Json := codec.encode event

/-- `SubscribeControlSyncEvents`: what the handler is given, if the payload is read. -/
def receive (payload : Json) : Except Json.DecodeError ControlSyncEvent := codec.decode payload

end ControlSyncEvent

end Slan.Ws
