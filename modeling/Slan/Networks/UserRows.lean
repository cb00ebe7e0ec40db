import Slan.Networks.Operations

/-! # What the operations leave of the rows of users

But for the two that create a user, an operation writes no more of such a row than the network that
is active.
-/

namespace Slan.Networks

open Program (Each)

/-- What `S` must hold of for the operations on the rows of users that are there. -/
structure WritesTables (S : (Store → List KeyEvent) → (Store → Store) → Prop) : Prop
    extends MovesDevices S where
  network : ∀ network subnet, S (fun _ => []) fun s =>
    (s.createNetworkWithDefaultSubnet network subnet).getD s
  metadata : ∀ networkId name description cidr, S (fun _ => []) fun s =>
    s.updateNetworkMetadata networkId name description cidr
  joinKey : ∀ note networkId joinKey, S note fun s => s.updateNetworkJoinKey networkId joinKey
  clearJoinKey : ∀ note networkId joinKey, S note fun s => s.clearNetworkJoinKey networkId joinKey
  subnet : ∀ row, S (fun _ => []) fun s => (s.createSubnet row).getD s
  subnetRange : ∀ subnet, S (fun _ => []) fun s => s.updateSubnetRange subnet
  attachment : ∀ row, S (fun _ => []) fun s => (s.createAttachment row).getD s
  virtualIp : ∀ attachmentId ip, S (fun _ => []) fun s =>
    (s.updateAttachmentVirtualIp attachmentId ip).getD s
  remark : ∀ attachmentId remark, S (fun _ => []) fun s =>
    s.updateAttachmentRemark attachmentId remark
  detach : ∀ deviceId networkId, S (fun _ => []) fun s =>
    s.deleteAttachmentsByDeviceInNetwork deviceId networkId
  device : ∀ row, S (fun _ => []) fun s => (s.upsertDeviceByUserMachine row).getD s
  node : ∀ row, S (fun _ => []) fun s => (s.upsertNode row).getD s
  session : ∀ sessions : List Control.ControlSession, S (fun _ => []) fun s =>
    { s with controlSessions := s.controlSessions ++ sessions }

namespace WritesTables

variable {S : (Store → List KeyEvent) → (Store → Store) → Prop}

theorem ensureAttachment (h : WritesTables S) (fresh : Fresh)
    (networkId subnetId deviceId : String) :
    Each S (Networks.ensureAttachment fresh networkId subnetId deviceId) :=
  each_ensureAttachment h.query h.attachment fresh networkId subnetId deviceId

theorem activate (h : WritesTables S) (fresh : Fresh) (userId networkId deviceId : String) :
    Each S (Networks.activate fresh userId networkId deviceId) := by
  refine (each_requireDeviceId deviceId).bind fun _ => ?_
  refine (each_loadNetworkForDevice h.query userId networkId deviceId false).bind fun record => ?_
  refine (h.ensureActiveMemberForNetwork fresh userId deviceId record).bind fun member => ?_
  exact (h.ensureAttachment fresh networkId _ deviceId).bind fun _ => .pure _

theorem attachDevice (h : WritesTables S) (fresh : Fresh)
    (userId networkId subnetId deviceId : String) :
    Each S (Networks.attachDevice fresh userId networkId subnetId deviceId) := by
  refine (each_requireDeviceId deviceId).bind fun _ => ?_
  refine (each_ensureNetworkAccess h.query userId networkId).bind fun _ => ?_
  refine (each_ensureDeviceOwner h.query userId deviceId).bind fun _ => ?_
  refine (each_lookupOr h.query _ _).bind fun subnet => ?_
  split
  · exact .fail _
  · exact (each_lookupOr h.query _ _).bind fun _ => h.ensureAttachment fresh _ _ _

theorem provision (h : WritesTables S) (fresh : Fresh) (userId deviceId : String) :
    Each S (ensureDeviceProvisionedInActiveNetwork fresh userId deviceId) := by
  unfold ensureDeviceProvisionedInActiveNetwork
  split
  · exact .pure ()
  · refine (h.provisionedNetwork h.network fresh userId).bind fun record => ?_
    refine (each_membershipRole h.query _ _ _ _).bind fun role => ?_
    refine (each_ensureMember h.query h.member fresh _ _ _).bind fun _ => ?_
    exact (h.ensureAttachment fresh _ _ _).bind fun _ => .pure ()

theorem registerDevice (h : WritesTables S) (fresh : Fresh) (userId : String)
    (req : RegisterDeviceRequest) : Each S (Networks.registerDevice fresh userId req) := by
  refine Each.bind ?_ fun _ => ?_
  · unfold requireRegisterDeviceRequest
    split
    · exact .fail _
    · exact .pure ()
  · refine (each_lookupOr h.query _ _).bind fun user => ?_
    refine (Each.bind (Each.execOr _ (h.device _)) fun _ => each_lookupOr h.query _ _).bind
      fun record => ?_
    exact (h.provision fresh userId record.deviceId).bind fun _ => .pure record

end WritesTables

namespace Operation

def createsUser : Operation → Bool
  | .registerUser _ _ | .seedDefaultAdmin _ => true
  | _ => false

end Operation

theorem WritesTables.request {S : (Store → List KeyEvent) → (Store → Store) → Prop}
    (h : WritesTables S) (sameName : String → String → Bool) {r : Request}
    (hr : r.operation.createsUser = false) : Each S (r.call sameName) := by
  obtain ⟨fresh, operation⟩ := r
  cases operation with
  | registerUser email password => cases hr
  | seedDefaultAdmin email => cases hr
  | registerDevice userId req => exact (h.registerDevice fresh userId req).void
  | registerNode userId req => exact each_registerNode h.query h.node userId req
  | create userId req => exact (h.create h.network fresh userId req).void
  | update userId networkId req =>
    exact (each_update h.query h.virtualIp h.subnetRange h.metadata userId networkId req).void
  | updateJoinKey userId networkId joinKey =>
    exact (each_updateJoinKey h.query h.joinKey fresh userId networkId joinKey).void
  | createSubnet userId networkId req =>
    exact (each_createSubnet h.query h.subnet sameName fresh userId networkId req).void
  | join userId networkId deviceId => exact (h.join fresh userId networkId deviceId).void
  | joinByOwnerEmail userId ownerEmail deviceId =>
    exact (h.joinByOwnerEmail fresh userId ownerEmail deviceId).void
  | joinByKey userId joinKey deviceId =>
    exact (h.joinByKey h.clearJoinKey fresh userId joinKey deviceId).void
  | switch userId networkId deviceId => exact (h.switch fresh userId networkId deviceId).void
  | activate userId networkId deviceId => exact (h.activate fresh userId networkId deviceId).void
  | deactivate userId networkId deviceId =>
    exact each_deactivate h.query h.detach userId networkId deviceId
  | attachDevice userId networkId subnetId deviceId =>
    exact (h.attachDevice fresh userId networkId subnetId deviceId).void
  | reserve networkId subnetId attachmentId ip =>
    exact (each_reserve h.query networkId subnetId attachmentId ip).void
  | release attachmentId => exact each_release h.virtualIp attachmentId
  | updateAttachmentIp userId networkId attachmentId virtualIp =>
    exact (each_updateAttachmentIp h.query h.virtualIp userId networkId attachmentId
      virtualIp).void
  | updateAttachmentRemark userId networkId attachmentId remark =>
    exact each_updateAttachmentRemark h.query h.remark userId networkId attachmentId remark
  | bootstrap session userId nodeId networkId =>
    exact h.bootstrap h.session fresh session userId nodeId networkId

/-! ## Identifiers and e-mail addresses stay -/

/-- The users have the identifiers and addresses that they had, and there are no others. -/
def SameUsers (s t : Store) : Prop :=
  t.users.rows.map (fun u => (u.userId, u.email)) = s.users.rows.map fun u => (u.userId, u.email)

def KeepsUsers (_ : Store → List KeyEvent) (write : Store → Store) : Prop :=
  ∀ s, SameUsers s (write s)

section KeepsUsers

variable {note : Store → List KeyEvent}

theorem SameUsers.mem {s t : Store} (h : SameUsers s t) {user : User} (hmem : user ∈ t.users) :
    ∃ row ∈ s.users, row.userId = user.userId ∧ row.email = user.email := by
  have hkey := List.mem_map_of_mem (f := fun u : User => (u.userId, u.email)) hmem
  rw [h] at hkey
  obtain ⟨row, hrow, hsame⟩ := List.mem_map.mp hkey
  obtain ⟨hid, hemail⟩ := Prod.mk.inj hsame
  exact ⟨row, hrow, hid, hemail⟩

theorem SameUsers.symm {s t : Store} (h : SameUsers s t) : SameUsers t s := Eq.symm h

theorem keepsUsers_of_eq {write : Store → Store} (h : ∀ s, (write s).users = s.users) :
    KeepsUsers note write := fun s => by
  unfold SameUsers
  rw [h]

theorem keepsUsers_of_option {write : Store → Option Store}
    (h : ∀ s t, write s = some t → t.users = s.users) :
    KeepsUsers note fun s => (write s).getD s := by
  refine keepsUsers_of_eq fun s => ?_
  cases hwrite : write s with
  | none => rfl
  | some t => exact h s t hwrite

theorem keepsUsers_active (userId networkId : String) :
    KeepsUsers note fun s => s.updateUserActiveNetwork userId networkId := by
  intro s
  refine (List.map_map).trans (List.map_congr_left fun user _ => ?_)
  dsimp only [Function.comp]
  split <;> rfl

theorem writesTables_keepsUsers : WritesTables KeepsUsers where
  query := keepsUsers_of_eq fun _ => rfl
  sessions _ _ := keepsUsers_of_eq fun _ => rfl
  attachments _ _ := keepsUsers_of_eq fun _ => rfl
  members _ _ := keepsUsers_of_eq fun _ => rfl
  active := keepsUsers_active
  member row := keepsUsers_of_option fun s t h => by
    obtain ⟨_, -, rfl⟩ := Option.map_eq_some_iff.mp h
    rfl
  network network subnet := keepsUsers_of_option fun s t h => by
    obtain ⟨_, -, h⟩ := Option.bind_eq_some_iff.mp h
    obtain ⟨_, -, h⟩ := Option.bind_eq_some_iff.mp h
    obtain rfl := Option.some.inj h
    rfl
  metadata _ _ _ _ := keepsUsers_of_eq fun _ => rfl
  joinKey _ _ _ := keepsUsers_of_eq fun _ => rfl
  clearJoinKey _ _ _ := keepsUsers_of_eq fun _ => rfl
  subnet row := keepsUsers_of_option fun s t h => by
    obtain ⟨_, -, rfl⟩ := Option.map_eq_some_iff.mp h
    rfl
  subnetRange _ := keepsUsers_of_eq fun _ => rfl
  attachment row := keepsUsers_of_option fun s t h => by
    obtain ⟨_, -, rfl⟩ := Option.map_eq_some_iff.mp h
    rfl
  virtualIp _ _ := keepsUsers_of_option fun s t h => by
    obtain ⟨_, -, rfl⟩ := Option.map_eq_some_iff.mp h
    rfl
  remark _ _ := keepsUsers_of_eq fun _ => rfl
  detach _ _ := keepsUsers_of_eq fun _ => rfl
  device row := keepsUsers_of_option fun s t h => by
    unfold Store.upsertDeviceByUserMachine at h
    split at h
    · obtain rfl := Option.some.inj h
      rfl
    · obtain ⟨_, -, rfl⟩ := Option.map_eq_some_iff.mp h
      rfl
  node row := keepsUsers_of_option fun s t h => by
    unfold Store.upsertNode at h
    split at h
    · obtain rfl := Option.some.inj h
      rfl
    · obtain ⟨_, -, rfl⟩ := Option.map_eq_some_iff.mp h
      rfl
  session _ := keepsUsers_of_eq fun _ => rfl

end KeepsUsers

end Slan.Networks
