import Slan.Lib.Relation
import Slan.Lib.Program
import Slan.Lib.Netip
import Slan.Control.ControlSessions

/-! # `server-biz/internal/repo`: users, devices, networks and who is attached to them

A statement of the repository reads or writes whole relations. A transaction that writes once is one
statement: until it commits, its lock keeps other writers off the row and readers see the old one.
-/

namespace Slan.Networks

open Control (ServiceError Node ControlSession newId)

/-! ## Rows -/

structure User where
  userId : String
  email : String
  activeNetworkId : String
  deriving DecidableEq, Repr

structure Device where
  deviceId : String
  userId : String
  machineId : String
  name : String
  platform : String
  status : String
  publicKey : Option String
  createdAt : Int
  deriving DecidableEq, Repr

structure Network where
  networkId : String
  ownerUserId : String
  name : String
  description : String
  defaultSubnetId : String
  defaultSubnetCidr : String
  joinKey : String
  deriving DecidableEq, Repr

structure Subnet where
  subnetId : String
  networkId : String
  name : String
  cidr : String
  gatewayIp : String
  allocationStartIp : String
  allocationEndIp : String
  isDefault : Bool
  status : String
  deriving DecidableEq, Repr

inductive MemberRole where
  | owner
  | member
  deriving DecidableEq, Repr

structure NetworkMember where
  memberId : String
  networkId : String
  deviceId : String
  role : MemberRole
  createdAt : Int
  status : String
  deriving DecidableEq, Repr

structure SubnetAttachment where
  attachmentId : String
  networkId : String
  subnetId : String
  deviceId : String
  virtualIp : String
  remark : String
  status : String
  deriving DecidableEq, Repr

/-! ## Primary keys and unique indexes -/

section Constraints

variable {α : Type}

/-- Two rows that agree in a key. -/
def SameKey (key : α → String) (a b : α) : Prop := key a = key b

instance (key : α → String) : DecidableRel (SameKey key) := fun a b =>
  inferInstanceAs (Decidable (key a = key b))

instance (key : α → String) : Std.Symm (SameKey key) := ⟨fun _ _ h => h.symm⟩

end Constraints

def User.Clash (a b : User) : Prop := a.userId = b.userId ∨ a.email = b.email

def Device.Clash (a b : Device) : Prop :=
  a.deviceId = b.deviceId ∨ (a.userId = b.userId ∧ a.machineId = b.machineId)

def NetworkMember.Clash (a b : NetworkMember) : Prop :=
  a.memberId = b.memberId ∨ (a.networkId = b.networkId ∧ a.deviceId = b.deviceId)

def SubnetAttachment.Clash (a b : SubnetAttachment) : Prop :=
  a.attachmentId = b.attachmentId ∨ (a.subnetId = b.subnetId ∧ a.deviceId = b.deviceId) ∨
    (a.subnetId = b.subnetId ∧ a.virtualIp = b.virtualIp)

instance : DecidableRel User.Clash := fun a b =>
  inferInstanceAs (Decidable (a.userId = b.userId ∨ a.email = b.email))

instance : DecidableRel Device.Clash := fun a b => inferInstanceAs (Decidable
  (a.deviceId = b.deviceId ∨ (a.userId = b.userId ∧ a.machineId = b.machineId)))

instance : DecidableRel NetworkMember.Clash := fun a b => inferInstanceAs (Decidable
  (a.memberId = b.memberId ∨ (a.networkId = b.networkId ∧ a.deviceId = b.deviceId)))

instance : DecidableRel SubnetAttachment.Clash := fun a b => inferInstanceAs (Decidable
  (a.attachmentId = b.attachmentId ∨ (a.subnetId = b.subnetId ∧ a.deviceId = b.deviceId) ∨
    (a.subnetId = b.subnetId ∧ a.virtualIp = b.virtualIp)))

instance : Std.Symm User.Clash := ⟨fun _ _ h => h.imp Eq.symm Eq.symm⟩

instance : Std.Symm Device.Clash :=
  ⟨fun _ _ h => h.imp Eq.symm fun h => ⟨h.1.symm, h.2.symm⟩⟩

instance : Std.Symm NetworkMember.Clash :=
  ⟨fun _ _ h => h.imp Eq.symm fun h => ⟨h.1.symm, h.2.symm⟩⟩

instance : Std.Symm SubnetAttachment.Clash :=
  ⟨fun _ _ h => h.imp Eq.symm fun h =>
    h.imp (fun h => ⟨h.1.symm, h.2.symm⟩) fun h => ⟨h.1.symm, h.2.symm⟩⟩

structure Store where
  users : Relation User User.Clash
  devices : Relation Device Device.Clash
  networks : Relation Network (SameKey Network.networkId)
  subnets : Relation Subnet (SameKey Subnet.subnetId)
  members : Relation NetworkMember NetworkMember.Clash
  attachments : Relation SubnetAttachment SubnetAttachment.Clash
  nodes : Relation Node (SameKey Node.nodeId)
  controlSessions : List ControlSession

instance : EmptyCollection Store := ⟨⟨∅, ∅, ∅, ∅, ∅, ∅, ∅, []⟩⟩

/-- What ends a call early: an error of the service, or a statement that a constraint refuses. -/
inductive Failure where
  | service (err : ServiceError)
  | database
  deriving DecidableEq, Repr

/-- What is noted of join keys: one was set, and one was used up. -/
inductive KeyEvent where
  | set (networkId joinKey : String)
  | consumed (networkId joinKey : String)
  deriving DecidableEq, Repr

abbrev Call := Program Store KeyEvent Failure

/-- The digits of a random identifier. -/
abbrev HexText := { s : String // s.toList.all Netip.isHexDigit = true }

/-- The identifiers, the join key and the time that a call draws, each at most once. -/
structure Fresh where
  user : HexText
  device : HexText
  network : HexText
  subnet : HexText
  member : HexText
  attachment : HexText
  joinKey : HexText
  now : Int

/-- The same digits for all. -/
def Fresh.ofDigits (digits : String) (h : digits.toList.all Netip.isHexDigit = true) : Fresh :=
  ⟨⟨digits, h⟩, ⟨digits, h⟩, ⟨digits, h⟩, ⟨digits, h⟩, ⟨digits, h⟩, ⟨digits, h⟩, ⟨digits, h⟩, 0⟩

namespace Store

/-! ## Queries -/

def userById (s : Store) (userId : String) : Option User :=
  s.users.find? fun row => row.userId == userId

def userByEmail (s : Store) (email : String) : Option User :=
  s.users.find? fun row => row.email == email

def deviceById (s : Store) (deviceId : String) : Option Device :=
  s.devices.find? fun row => row.deviceId == deviceId

def deviceByUserMachine (s : Store) (userId machineId : String) : Option Device :=
  s.devices.find? fun row => row.userId == userId && row.machineId == machineId

def devicesByUser (s : Store) (userId : String) : List Device :=
  Relation.orderBy Device.deviceId (s.devices.select fun row => row.userId == userId)

def networkById (s : Store) (networkId : String) : Option Network :=
  s.networks.find? fun row => row.networkId == networkId

def ownedNetworkByUser (s : Store) (userId : String) : Option Network :=
  s.networks.firstBy Network.networkId fun row => row.ownerUserId == userId

def networkByJoinKey (s : Store) (joinKey : String) : Option Network :=
  s.networks.firstBy Network.networkId fun row => row.joinKey == joinKey

def subnetById (s : Store) (subnetId : String) : Option Subnet :=
  s.subnets.find? fun row => row.subnetId == subnetId

/-- `sameName` compares lower-cased names. -/
def subnetByName (s : Store) (sameName : String → String → Bool) (networkId name : String) :
    Option Subnet :=
  s.subnets.firstBy Subnet.subnetId fun row =>
    row.networkId == networkId && sameName row.name (Text.trim name)

def memberByNetworkDevice (s : Store) (networkId deviceId : String) : Option NetworkMember :=
  s.members.find? fun row => row.networkId == networkId && row.deviceId == deviceId

def membersByNetwork (s : Store) (networkId : String) : List NetworkMember :=
  Relation.orderBy NetworkMember.memberId (s.members.select fun row => row.networkId == networkId)

def attachmentById (s : Store) (attachmentId : String) : Option SubnetAttachment :=
  s.attachments.find? fun row => row.attachmentId == attachmentId

def attachmentBySubnetDevice (s : Store) (subnetId deviceId : String) : Option SubnetAttachment :=
  s.attachments.find? fun row => row.subnetId == subnetId && row.deviceId == deviceId

def attachmentsBySubnet (s : Store) (subnetId : String) : List SubnetAttachment :=
  Relation.orderBy SubnetAttachment.attachmentId
    (s.attachments.select fun row => row.subnetId == subnetId)

def nodeById (s : Store) (nodeId : String) : Option Node :=
  s.nodes.find? fun row => row.nodeId == nodeId

/-! ## Writes of columns that no index covers -/

def updateUserActiveNetwork (s : Store) (userId networkId : String) : Store :=
  let users := s.users.alter
    (fun row => if row.userId = userId then { row with activeNetworkId := networkId } else row)
    fun a b => by
      unfold User.Clash
      split <;> split <;> rfl
  { s with users }

def updateNetwork (s : Store) (chosen : Network → Bool) (f : Network → Network)
    (hf : ∀ row, (f row).networkId = row.networkId) : Store :=
  let networks := s.networks.alter (fun row => if chosen row then f row else row) fun a b => by
    unfold SameKey
    split <;> split <;> simp only [hf]
  { s with networks }

def updateNetworkMetadata (s : Store) (networkId name description defaultSubnetCidr : String) :
    Store :=
  s.updateNetwork (fun row => row.networkId == networkId)
    (fun row => { row with name, description, defaultSubnetCidr }) fun _ => rfl

def updateNetworkJoinKey (s : Store) (networkId joinKey : String) : Store :=
  s.updateNetwork (fun row => row.networkId == networkId)
    (fun row => { row with joinKey }) fun _ => rfl

/-- The update of `ConsumeNetworkByJoinKey`. -/
def clearNetworkJoinKey (s : Store) (networkId joinKey : String) : Store :=
  s.updateNetwork (fun row => row.networkId == networkId && row.joinKey == joinKey)
    (fun row => { row with joinKey := "" }) fun _ => rfl

def updateSubnetRange (s : Store) (subnet : Subnet) : Store :=
  let subnets := s.subnets.alter
    (fun row => if row.subnetId = subnet.subnetId then
      { row with
        cidr := subnet.cidr
        gatewayIp := subnet.gatewayIp
        allocationStartIp := subnet.allocationStartIp
        allocationEndIp := subnet.allocationEndIp
        isDefault := subnet.isDefault
        status := subnet.status } else row)
    fun a b => by
      unfold SameKey
      split <;> split <;> rfl
  { s with subnets }

def updateAttachmentRemark (s : Store) (attachmentId remark : String) : Store :=
  let attachments := s.attachments.alter
    (fun row => if row.attachmentId = attachmentId then { row with remark } else row)
    fun a b => by
      unfold SubnetAttachment.Clash
      split <;> split <;> rfl
  { s with attachments }

/-! ## Writes that a constraint may refuse -/

def createUser (s : Store) (row : User) : Option Store :=
  (s.users.insert row).map fun users => { s with users }

/-- `ON CONFLICT (user_id, machine_id) DO UPDATE` -/
def upsertDeviceByUserMachine (s : Store) (record : Device) : Option Store :=
  match s.deviceByUserMachine record.userId record.machineId with
  | some _ =>
    let devices := s.devices.alter
      (fun row => if row.userId = record.userId ∧ row.machineId = record.machineId then
        { row with
          name := record.name
          platform := record.platform
          status := record.status
          publicKey := record.publicKey } else row)
      fun a b => by
        unfold Device.Clash
        split <;> split <;> rfl
    some { s with devices }
  | none => (s.devices.insert record).map fun devices => { s with devices }

def createNetworkWithDefaultSubnet (s : Store) (network : Network) (subnet : Subnet) :
    Option Store := do
  let networks ← s.networks.insert network
  let subnets ← s.subnets.insert subnet
  return { s with networks, subnets }

def createSubnet (s : Store) (row : Subnet) : Option Store :=
  (s.subnets.insert row).map fun subnets => { s with subnets }

def createMember (s : Store) (row : NetworkMember) : Option Store :=
  (s.members.insert row).map fun members => { s with members }

def createAttachment (s : Store) (row : SubnetAttachment) : Option Store :=
  (s.attachments.insert row).map fun attachments => { s with attachments }

def updateAttachmentVirtualIp (s : Store) (attachmentId virtualIp : String) : Option Store :=
  (s.attachments.update fun row =>
    if row.attachmentId = attachmentId then { row with virtualIp } else row).map
      fun attachments => { s with attachments }

def upsertNode (s : Store) (record : Node) : Option Store :=
  match s.nodeById record.nodeId with
  | some _ =>
    let nodes := s.nodes.alter (fun row => if row.nodeId = record.nodeId then record else row)
      fun a b => by
        unfold SameKey
        split <;> split <;> simp_all
    some { s with nodes }
  | none => (s.nodes.insert record).map fun nodes => { s with nodes }

/-! ## Deletions -/

def deleteControlSessionsByDeviceExceptNetwork (s : Store) (deviceId keepNetworkId : String) :
    Store :=
  { s with controlSessions := s.controlSessions.filter fun row =>
      !(row.deviceId == deviceId && (keepNetworkId == "" || row.networkId != keepNetworkId)) }

def deleteAttachmentsByDeviceExceptNetwork (s : Store) (deviceId keepNetworkId : String) : Store :=
  { s with attachments := s.attachments.delete fun row =>
      row.deviceId == deviceId && (keepNetworkId == "" || row.networkId != keepNetworkId) }

def deleteMembersByDeviceExceptNetwork (s : Store) (deviceId keepNetworkId : String) : Store :=
  { s with members := s.members.delete fun row =>
      row.deviceId == deviceId && (keepNetworkId == "" || row.networkId != keepNetworkId) }

def deleteAttachmentsByDeviceInNetwork (s : Store) (deviceId networkId : String) : Store :=
  { s with attachments := s.attachments.delete fun row =>
      row.deviceId == deviceId && row.networkId == networkId }

end Store

end Slan.Networks
