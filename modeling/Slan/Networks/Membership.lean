import Slan.Networks.Subnets

/-! # Memberships and attachments: the helpers of the network service -/

namespace Slan.Networks

open Control (ServiceError newId)
open Netip (Addr Prefix)
open Program (query exec execOr orFail ofExcept)

def refuse {α : Type} (err : ServiceError) : Call α := .fail (.service err)

def conflict {α : Type} (detail : String) : Call α := refuse (.wrap .conflict detail)

/-- A query that must find something. -/
def lookupOr {α : Type} (err : ServiceError) (f : Store → Option α) : Call α := do
  let row ← query f
  orFail (.service err) row

def lookup {α : Type} (f : Store → Option α) : Call α := lookupOr .notFound f

def checked {α : Type} (result : Except ServiceError α) : Call α :=
  ofExcept (result.mapError Failure.service)

/-- A write that a constraint may refuse. -/
def insert (write : Store → Option Store) : Call Unit := execOr .database write

/-! ## Access -/

def ensureDeviceOwner (userId deviceId : String) : Call Unit := do
  let record ← lookup fun s => s.deviceById deviceId
  if record.userId ≠ userId then refuse .forbidden else pure ()

/-- The first device that is a member lets the user in. -/
def ensureSomeMember (networkId : String) : List Device → Call Unit
  | [] => refuse .forbidden
  | device :: devices => do
    let member ← query fun s => s.memberByNetworkDevice networkId device.deviceId
    if member.isSome then pure () else ensureSomeMember networkId devices

def ensureNetworkAccess (userId networkId : String) : Call Unit := do
  let record ← lookup fun s => s.networkById networkId
  if record.ownerUserId = userId then pure ()
  else do
    let devices ← query fun s => s.devicesByUser userId
    ensureSomeMember networkId devices

def requireDeviceId (deviceId : String) : Call Unit :=
  if Text.isBlank deviceId then refuse (invalidArgument "deviceId is required") else pure ()

/-- The owner gets in even where the access check fails. -/
def loadNetworkForDevice (userId networkId deviceId : String)
    (allowOwnerWithoutMembership : Bool) : Call Network := do
  let record ← lookup fun s => s.networkById networkId
  ensureDeviceOwner userId deviceId
  let access ← (ensureNetworkAccess userId networkId).attempt
  match access with
  | .ok () => pure record
  | .error err =>
    if allowOwnerWithoutMembership = false ∨ record.ownerUserId ≠ userId then .fail err
    else pure record

/-! ## Members -/

def membershipRole (networkId deviceId ownerUserId userId : String) : Call MemberRole :=
  if ownerUserId ≠ userId then pure .member
  else do
    let members ← query fun s => s.membersByNetwork networkId
    if members.any fun m => m.role == .owner && m.deviceId != deviceId then pure .member
    else pure .owner

def ensureMember (fresh : Fresh) (networkId deviceId : String) (role : MemberRole) :
    Call NetworkMember := do
  let found ← query fun s => s.memberByNetworkDevice networkId deviceId
  match found with
  | some member => pure member
  | none =>
    let member : NetworkMember :=
      ⟨newId "member" fresh.member, networkId, deviceId, role, fresh.now, "active"⟩
    insert fun s => s.createMember member
    pure member

/-- The device's rows in other networks go. -/
def ensureSingleNetworkMembership (deviceId networkId : String) : Call Unit := do
  exec fun s => s.deleteControlSessionsByDeviceExceptNetwork deviceId networkId
  exec fun s => s.deleteAttachmentsByDeviceExceptNetwork deviceId networkId
  exec fun s => s.deleteMembersByDeviceExceptNetwork deviceId networkId

def ensureSingleActiveNetworkForUser (userId networkId : String) : Call Unit := do
  let devices ← query fun s => s.devicesByUser userId
  Program.forEach (fun device => ensureSingleNetworkMembership device.deviceId networkId) devices
  exec fun s => s.updateUserActiveNetwork userId networkId

/-- Only the device of the request becomes a member. -/
def ensureActiveMemberForNetwork (fresh : Fresh) (userId deviceId : String) (record : Network) :
    Call NetworkMember := do
  ensureSingleActiveNetworkForUser userId record.networkId
  let role ← membershipRole record.networkId deviceId record.ownerUserId userId
  ensureMember fresh record.networkId deviceId role

/-! ## Virtual addresses -/

/-- The first so many addresses from `candidate` on, less the used ones. -/
def firstFree (network : Prefix) (used : List String) : Nat → Addr → Option String
  | 0, _ => none
  | n + 1, candidate =>
    if Netip.render candidate ∈ used ∨ network.contains candidate = false then
      firstFree network used n (candidate + 1)
    else some (Netip.render candidate)

/-- How many addresses a range has. -/
def SubnetRange.size (range : SubnetRange) : Nat := (range.last - range.start + 1).toNat

def allocateIp (subnet : Subnet) : Call String := do
  let attachments ← query fun s => s.attachmentsBySubnet subnet.subnetId
  let range ← checked subnet.range
  match firstFree range.network (attachments.map SubnetAttachment.virtualIp) range.size
      range.start with
  | some ip => pure ip
  | none => conflict "subnet is exhausted"

def preferredOwnerIp (subnet : Subnet) : Call (Option String) := do
  let attachments ← query fun s => s.attachmentsBySubnet subnet.subnetId
  let range ← checked subnet.range
  let candidate := networkBase range.network + 2
  if candidate < range.start ∨ range.last < candidate ∨
      range.network.contains candidate = false then pure none
  else if Netip.render candidate ∈ attachments.map SubnetAttachment.virtualIp then pure none
  else pure (some (Netip.render candidate))

/-- The preferred address, asked for where the member is an owner's device. -/
def ownerPreference (subnet : Subnet) : Option NetworkMember → Call (Option String)
  | some member => if member.role = .owner then preferredOwnerIp subnet else pure none
  | none => pure none

/-- An attachment that exists is returned as it is. -/
def ensureAttachment (fresh : Fresh) (networkId subnetId deviceId : String) :
    Call SubnetAttachment := do
  let found ← query fun s => s.attachmentBySubnetDevice subnetId deviceId
  match found with
  | some attachment => pure attachment
  | none =>
    let subnet ← lookup fun s => s.subnetById subnetId
    let allocated ← allocateIp subnet
    let member ← query fun s => s.memberByNetworkDevice networkId deviceId
    let preferred ← ownerPreference subnet member
    let attachment : SubnetAttachment :=
      { attachmentId := newId "att" fresh.attachment
        networkId
        subnetId
        deviceId
        virtualIp := preferred.getD allocated
        remark := ""
        status := "active" }
    insert fun s => s.createAttachment attachment
    pure attachment

/-- Whether the attachment is one of an owner's device. -/
def Store.ownerAttached (s : Store) (attachment : SubnetAttachment) : Bool :=
  match s.memberByNetworkDevice attachment.networkId attachment.deviceId with
  | some member => member.role == .owner
  | none => false

/-- Owners' devices first, then by identifier. -/
def Store.leaseBefore (s : Store) (a b : SubnetAttachment) : Bool :=
  if s.ownerAttached a != s.ownerAttached b then s.ownerAttached a
  else decide (a.attachmentId < b.attachmentId)

/-- The rows are rewritten one after the other. -/
def assignLeases (range : SubnetRange) : Nat → List SubnetAttachment → Call Unit
  | _, [] => pure ()
  | index, attachment :: attachments => do
    let candidate := range.start + BitVec.ofNat 32 index
    if range.last < candidate ∨ range.network.contains candidate = false then
      conflict "subnet is exhausted"
    else do
      insert fun s => s.updateAttachmentVirtualIp attachment.attachmentId (Netip.render candidate)
      assignLeases range (index + 1) attachments

def reassignDefaultSubnetLeasePool (subnet : Subnet) : Call Unit := do
  let attachments ← query fun s => s.attachmentsBySubnet subnet.subnetId
  let range ← checked subnet.range
  if range.size < attachments.length then conflict "subnet is too small for current members"
  else do
    let ordered ← query fun s => Control.sortStable s.leaseBefore attachments
    assignLeases range 0 ordered
    exec fun s => s.updateSubnetRange subnet

end Slan.Networks
