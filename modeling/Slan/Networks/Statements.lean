import Slan.Networks.Service

/-! # What statements the calls take

Most of a call reads. A property `S` of statements that queries have is one of all that a reading
helper does, and of a writing one if its writes have it too.
-/

namespace Slan.Networks

open Program (Each)

section Reads

variable {S : (Store → List KeyEvent) → (Store → Store) → Prop} {α : Type}

theorem each_lookupOr (hq : S (fun _ => []) id) (err : Control.ServiceError)
    (f : Store → Option α) : Each S (lookupOr err f) :=
  (Each.query hq f).bind fun _ => .orFail _ _

theorem each_checked (result : Except Control.ServiceError α) : Each S (checked result) :=
  Each.ofExcept _

theorem each_onlyIf (condition : Bool) {p : Call Unit} (h : Each S p) :
    Each S (onlyIf condition p) := by
  unfold onlyIf
  split
  · exact h
  · exact .pure ()

theorem each_ensureDeviceOwner (hq : S (fun _ => []) id) (userId deviceId : String) :
    Each S (ensureDeviceOwner userId deviceId) := by
  refine (each_lookupOr hq _ _).bind fun record => ?_
  split
  · exact .fail _
  · exact .pure ()

theorem each_ensureSomeMember (hq : S (fun _ => []) id) (networkId : String)
    (devices : List Device) : Each S (ensureSomeMember networkId devices) := by
  induction devices with
  | nil => exact .fail _
  | cons device devices ih =>
    refine (Each.query hq _).bind fun member => ?_
    split
    · exact .pure ()
    · exact ih

theorem each_ensureNetworkAccess (hq : S (fun _ => []) id) (userId networkId : String) :
    Each S (ensureNetworkAccess userId networkId) := by
  refine (each_lookupOr hq _ _).bind fun record => ?_
  split
  · exact .pure ()
  · exact (Each.query hq _).bind fun devices => each_ensureSomeMember hq networkId devices

theorem each_requireDeviceId (deviceId : String) : Each S (requireDeviceId deviceId) := by
  unfold requireDeviceId
  split
  · exact .fail _
  · exact .pure ()

theorem each_loadNetworkForDevice (hq : S (fun _ => []) id) (userId networkId deviceId : String)
    (allowOwner : Bool) : Each S (loadNetworkForDevice userId networkId deviceId allowOwner) := by
  refine (each_lookupOr hq _ _).bind fun record => ?_
  refine (each_ensureDeviceOwner hq userId deviceId).bind fun _ => ?_
  refine (each_ensureNetworkAccess hq userId networkId).attempt.bind fun access => ?_
  cases access with
  | ok _ => exact .pure record
  | error err =>
    dsimp only
    split
    · exact .fail err
    · exact .pure record

theorem each_membershipRole (hq : S (fun _ => []) id)
    (networkId deviceId ownerUserId userId : String) :
    Each S (membershipRole networkId deviceId ownerUserId userId) := by
  unfold membershipRole
  split
  · exact .pure _
  · refine (Each.query hq _).bind fun members => ?_
    split <;> exact .pure _

theorem each_allocateIp (hq : S (fun _ => []) id) (subnet : Subnet) :
    Each S (allocateIp subnet) := by
  refine (Each.query hq _).bind fun attachments => (each_checked _).bind fun range => ?_
  split
  · exact .pure _
  · exact .fail _

theorem each_preferredOwnerIp (hq : S (fun _ => []) id) (subnet : Subnet) :
    Each S (preferredOwnerIp subnet) := by
  refine (Each.query hq _).bind fun attachments => (each_checked _).bind fun range => ?_
  dsimp only
  split
  · exact .pure _
  · split <;> exact .pure _

theorem each_ownerPreference (hq : S (fun _ => []) id) (subnet : Subnet)
    (member : Option NetworkMember) : Each S (ownerPreference subnet member) := by
  unfold ownerPreference
  split
  · split
    · exact each_preferredOwnerIp hq subnet
    · exact .pure _
  · exact .pure _

theorem each_ownNetwork (hq : S (fun _ => []) id) (userId networkId : String) :
    Each S (ownNetwork userId networkId) := by
  refine (each_lookupOr hq _ _).bind fun record => ?_
  split
  · exact .fail _
  · exact .pure _

theorem each_prepareNetwork (hq : S (fun _ => []) id) (fresh : Fresh) (userId : String)
    (req : CreateNetworkRequest) : Each S (prepareNetwork fresh userId req) := by
  unfold prepareNetwork
  split
  · exact .fail _
  · refine (Each.query hq _).bind fun owned => ?_
    split
    · exact .fail _
    · refine (each_onlyIf _ (each_ensureDeviceOwner hq userId _)).bind fun _ => ?_
      refine (each_lookupOr hq _ _).bind fun user => ?_
      exact (each_checked _).bind fun subnet => .pure _

theorem each_prepareUpdate (hq : S (fun _ => []) id) (userId networkId : String)
    (req : UpdateNetworkRequest) : Each S (prepareUpdate userId networkId req) := by
  refine (each_ownNetwork hq userId networkId).bind fun record => ?_
  dsimp only
  split
  · exact .fail _
  · exact (each_checked _).bind fun subnet => .pure _

theorem each_getNetwork (hq : S (fun _ => []) id) (userId networkId : String) :
    Each S (getNetwork userId networkId) :=
  (each_lookupOr hq _ _).bind fun _ =>
    (each_ensureNetworkAccess hq userId networkId).bind fun _ => .pure _

theorem each_loadNetworkOfOwner (hq : S (fun _ => []) id) (userId ownerEmail deviceId : String) :
    Each S (loadNetworkOfOwner userId ownerEmail deviceId) := by
  unfold loadNetworkOfOwner
  split
  · exact .fail _
  · refine (each_requireDeviceId deviceId).bind fun _ => ?_
    refine Each.bind ?_ fun target => (each_ensureDeviceOwner hq userId deviceId).bind fun _ =>
      .pure target
    exact (each_lookupOr hq _ _).bind fun owner => each_lookupOr hq _ _

theorem each_reserve (hq : S (fun _ => []) id) (networkId subnetId attachmentId ip : String) :
    Each S (reserve networkId subnetId attachmentId ip) := by
  refine (each_lookupOr hq _ _).bind fun subnet => ?_
  split
  · exact .fail _
  · split
    · exact .fail _
    · refine (Each.query hq _).bind fun attachments => ?_
      split
      · exact .fail _
      · exact .pure _

theorem each_ownAttachment (hq : S (fun _ => []) id) (userId networkId attachmentId : String) :
    Each S (ownAttachment userId networkId attachmentId) := by
  refine (each_ownNetwork hq userId networkId).bind fun _ => ?_
  refine (each_lookupOr hq _ _).bind fun attachment => ?_
  split
  · exact .fail _
  · exact .pure _

theorem each_requireFixedOwnerIp (hq : S (fun _ => []) id) (attachment : SubnetAttachment)
    (virtualIp : String) (role : MemberRole) :
    Each S (requireFixedOwnerIp attachment virtualIp role) := by
  cases role with
  | member => exact .pure ()
  | owner =>
    refine (each_lookupOr hq _ _).bind fun subnet => ?_
    refine Each.bind ?_ fun preferred => ?_
    · refine (each_preferredOwnerIp hq subnet).bind fun preferred => ?_
      cases preferred with
      | some ip => exact .pure _
      | none => exact (each_checked _).bind fun range => .pure _
    · cases preferred with
      | none => exact .pure ()
      | some ip =>
        dsimp only
        split
        · exact .fail _
        · exact .pure ()

theorem each_prepareAttachmentIp (hq : S (fun _ => []) id)
    (userId networkId attachmentId virtualIp : String) :
    Each S (prepareAttachmentIp userId networkId attachmentId virtualIp) := by
  refine (each_ownAttachment hq userId networkId attachmentId).bind fun attachment => ?_
  refine (each_lookupOr hq _ _).bind fun member => ?_
  refine (each_requireFixedOwnerIp hq attachment virtualIp member.role).bind fun _ => ?_
  exact (each_reserve hq networkId attachment.subnetId attachment.attachmentId virtualIp).bind
    fun reserved => .pure _

theorem each_requireNodeSession (hq : S (fun _ => []) id) (userId nodeId networkId : String) :
    Each S (requireNodeSession userId nodeId networkId) := by
  unfold requireNodeSession
  split
  · exact .fail _
  · refine (each_lookupOr hq _ _).bind fun node => ?_
    split
    · exact .fail _
    · exact (each_ensureNetworkAccess hq userId networkId).bind fun _ =>
        (each_lookupOr hq _ _).bind fun _ => .pure node

end Reads

/-! ## Writes of memberships -/

/-- What `S` must hold of for the helpers that move devices between networks. -/
structure MovesDevices (S : (Store → List KeyEvent) → (Store → Store) → Prop) : Prop where
  query : S (fun _ => []) id
  sessions : ∀ deviceId networkId, S (fun _ => []) fun s =>
    s.deleteControlSessionsByDeviceExceptNetwork deviceId networkId
  attachments : ∀ deviceId networkId, S (fun _ => []) fun s =>
    s.deleteAttachmentsByDeviceExceptNetwork deviceId networkId
  members : ∀ deviceId networkId, S (fun _ => []) fun s =>
    s.deleteMembersByDeviceExceptNetwork deviceId networkId
  active : ∀ userId networkId, S (fun _ => []) fun s => s.updateUserActiveNetwork userId networkId
  member : ∀ row, S (fun _ => []) fun s => (s.createMember row).getD s

section Moves

variable {S : (Store → List KeyEvent) → (Store → Store) → Prop}

theorem each_ensureMember (hq : S (fun _ => []) id)
    (hrow : ∀ row, S (fun _ => []) fun s => (s.createMember row).getD s) (fresh : Fresh)
    (networkId deviceId : String) (role : MemberRole) :
    Each S (ensureMember fresh networkId deviceId role) := by
  refine (Each.query hq _).bind fun found => ?_
  cases found with
  | some member => exact .pure member
  | none => exact (Each.execOr _ (hrow _)).bind fun _ => .pure _

theorem each_ensureAttachment (hq : S (fun _ => []) id)
    (hrow : ∀ row, S (fun _ => []) fun s => (s.createAttachment row).getD s) (fresh : Fresh)
    (networkId subnetId deviceId : String) :
    Each S (ensureAttachment fresh networkId subnetId deviceId) := by
  refine (Each.query hq _).bind fun found => ?_
  cases found with
  | some attachment => exact .pure attachment
  | none =>
    refine (each_lookupOr hq _ _).bind fun subnet => ?_
    refine (each_allocateIp hq subnet).bind fun allocated => (Each.query hq _).bind fun member => ?_
    refine (each_ownerPreference hq subnet member).bind fun preferred => ?_
    exact (Each.execOr _ (hrow _)).bind fun _ => .pure _

theorem MovesDevices.ensureActiveMemberForNetwork (h : MovesDevices S) (fresh : Fresh)
    (userId deviceId : String) (record : Network) :
    Each S (Networks.ensureActiveMemberForNetwork fresh userId deviceId record) := by
  refine Each.bind ?_ fun _ => (each_membershipRole h.query _ _ _ _).bind fun role =>
    each_ensureMember h.query h.member fresh record.networkId deviceId role
  refine (Each.query h.query _).bind fun devices => ?_
  refine (Each.forEach (fun device => ?_) devices).bind fun _ => .exec (h.active _ _)
  exact (Each.exec (h.sessions _ _)).bind fun _ => (Each.exec (h.attachments _ _)).bind fun _ =>
    .exec (h.members _ _)

end Moves

end Slan.Networks
