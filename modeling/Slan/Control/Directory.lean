import Slan.Lib.Table
import Slan.Lib.Text

/-! # `server-biz`: users' devices and nodes, networks and memberships

The database answers every statement; a failing one ends a call with its own error.
-/

namespace Slan.Control

inductive ErrorKind where
  | unauthorized
  | forbidden
  | notFound
  | conflict
  | invalidArgument
  deriving DecidableEq, Repr

/-- A sentinel error, or one that wraps it with a detail. -/
structure ServiceError where
  kind : ErrorKind
  detail : Option String
  deriving DecidableEq, Repr

namespace ServiceError

def unauthorized : ServiceError := ⟨.unauthorized, none⟩

def forbidden : ServiceError := ⟨.forbidden, none⟩

def notFound : ServiceError := ⟨.notFound, none⟩

/-- `fmt.Errorf("%w: detail", kind)` -/
def wrap (kind : ErrorKind) (detail : String) : ServiceError := ⟨kind, some detail⟩

end ServiceError

structure Node where
  nodeId : String
  userId : String
  deviceId : String
  nodePublicKey : String
  capabilities : List String
  deriving DecidableEq, Repr

structure Device where
  deviceId : String
  userId : String
  status : String
  deriving DecidableEq, Repr

structure NetworkRecord where
  networkId : String
  ownerUserId : String
  deriving DecidableEq, Repr

structure Member where
  networkId : String
  deviceId : String
  deriving DecidableEq, Repr

structure Directory where
  nodes : Table Node
  devices : Table Device
  networks : Table NetworkRecord
  members : List Member

namespace Directory

def hasMember (d : Directory) (networkId deviceId : String) : Bool :=
  d.members.any fun m => m.networkId == networkId && m.deviceId == deviceId

def listDevicesByUser (d : Directory) (userId : String) : List Device :=
  (d.devices.entries.map Sigma.snd).filter fun device => device.userId == userId

/-- The owner of the network, or a user one of whose devices is a member. -/
def ensureNetworkAccess (d : Directory) (userId networkId : String) : Except ServiceError Unit :=
  match d.networks.get? networkId with
  | none => .error .notFound
  | some record =>
    if record.ownerUserId = userId then .ok ()
    else if (d.listDevicesByUser userId).any fun device => d.hasMember networkId device.deviceId then
      .ok ()
    else .error .forbidden

def ensureDeviceOwner (d : Directory) (userId deviceId : String) : Except ServiceError Unit :=
  match d.devices.get? deviceId with
  | none => .error .notFound
  | some record => if record.userId ≠ userId then .error .forbidden else .ok ()

def requireNodeSession (d : Directory) (userId nodeId networkId : String) :
    Except ServiceError Node :=
  if Text.isBlank nodeId ∨ Text.isBlank networkId then
    .error (.wrap .invalidArgument "nodeId and networkId are required")
  else
    match d.nodes.get? nodeId with
    | none => .error .notFound
    | some node =>
      if node.userId ≠ userId then .error .forbidden
      else do
        d.ensureNetworkAccess userId networkId
        if d.hasMember networkId node.deviceId then return node
        else .error (.wrap .forbidden "node device is not a network member")

/-! ## Node registration -/

structure RegisterNodeRequest where
  deviceId : String
  nodeId : String
  nodePublicKey : String
  capabilities : List String
  deriving DecidableEq, Repr

structure NodeView where
  nodeId : String
  deviceId : String
  nodePublicKey : String
  capabilities : List String
  networkIds : List String
  deriving DecidableEq, Repr

def requireRegisterNodeRequest (req : RegisterNodeRequest) : Except ServiceError Unit :=
  if Text.isBlank req.deviceId ∨ Text.isBlank req.nodeId ∨ Text.isBlank req.nodePublicKey then
    .error (.wrap .invalidArgument "deviceId, nodeId, and nodePublicKey are required")
  else .ok ()

def deviceNetworkIds (d : Directory) (deviceId : String) : List String :=
  ((d.members.filter fun m => m.deviceId == deviceId).map Member.networkId).reverse.dedup.reverse

def registerNode (d : Directory) (userId : String) (req : RegisterNodeRequest) :
    Except ServiceError (NodeView × Directory) := do
  requireRegisterNodeRequest req
  d.ensureDeviceOwner userId req.deviceId
  let node : Node := ⟨req.nodeId, userId, req.deviceId, req.nodePublicKey, req.capabilities⟩
  return (⟨req.nodeId, req.deviceId, req.nodePublicKey, req.capabilities,
    d.deviceNetworkIds req.deviceId⟩, { d with nodes := d.nodes.put req.nodeId node })

end Directory

end Slan.Control
