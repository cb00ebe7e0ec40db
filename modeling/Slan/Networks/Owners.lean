import Slan.Lib.Interleaving
import Slan.Lib.Transition
import Slan.Networks.Moves

/-! # The device of a network's owner: calls whose statements interleave -/

namespace Slan.Networks

open Transition
open Program (Assures Each Rely)

namespace Store

def OwnedBy (s : Store) (networkId userId : String) : Prop :=
  ∃ n ∈ s.networks, n.networkId = networkId ∧ n.ownerUserId = userId

/-- Another device has the owner's role: what `membershipRole` looks for. -/
def hasOtherOwner (s : Store) (networkId deviceId : String) : Bool :=
  (s.membersByNetwork networkId).any fun m => m.role == .owner && m.deviceId != deviceId

/-- No network has two owner's devices, and it is the owner of the network that each belongs to. -/
structure OneOwner (s : Store) : Prop where
  unique : ∀ m ∈ s.members, m.role = .owner → ∀ n ∈ s.members, n.role = .owner →
    m.networkId = n.networkId → m = n
  belongs : ∀ m ∈ s.members, m.role = .owner →
    ∃ userId, s.OwnedBy m.networkId userId ∧ s.Owns userId m.deviceId

theorem hasOtherOwner_iff {s : Store} {networkId deviceId : String} :
    s.hasOtherOwner networkId deviceId = true ↔
      ∃ m ∈ s.members, m.networkId = networkId ∧ m.role = .owner ∧ m.deviceId ≠ deviceId := by
  simp [hasOtherOwner, membersByNetwork, Relation.mem_orderBy, Relation.mem_select, and_assoc]

end Store

/-! ## What statements change -/

/-- Networks keep their owners, and devices their users. -/
structure SameHolders (s t : Store) : Prop where
  networks : ∀ {networkId userId}, s.OwnedBy networkId userId → t.OwnedBy networkId userId
  devices : ∀ {userId deviceId}, s.Owns userId deviceId → t.Owns userId deviceId

/-- Memberships are deleted, or one is added, as the owner's only for a device of the owner. -/
structure Changes (s t : Store) : Prop where
  holders : SameHolders s t
  members : (∀ m ∈ t.members, m ∈ s.members) ∨
    ∃ row, (∀ m, m ∈ t.members ↔ m ∈ s.members ∨ m = row) ∧
      (row.role = .owner → ∃ userId, s.OwnedBy row.networkId userId ∧ s.Owns userId row.deviceId)

theorem SameHolders.refl (s : Store) : SameHolders s s := ⟨id, id⟩

theorem rely_holders : Rely SameHolders Changes where
  refl := .refl
  trans h h' := ⟨h'.networks ∘ h.networks, h'.devices ∘ h.devices⟩
  own h := h.holders

section Changes

variable {s t : Store}

theorem Changes.of_eq (hnetworks : t.networks = s.networks) (hdevices : t.devices = s.devices)
    (hmembers : ∀ m ∈ t.members, m ∈ s.members) : Changes s t where
  holders := by
    constructor
    · unfold Store.OwnedBy
      rw [hnetworks]
      exact id
    · unfold Store.Owns
      rw [hdevices]
      exact id
  members := .inl hmembers

theorem Changes.refl (s : Store) : Changes s s := .of_eq rfl rfl fun _ => id

theorem Changes.of_networks (hdevices : t.devices = s.devices)
    (hmembers : t.members = s.members)
    (hnetworks : ∀ {networkId userId}, s.OwnedBy networkId userId → t.OwnedBy networkId userId) :
    Changes s t where
  holders := by
    refine ⟨hnetworks, ?_⟩
    unfold Store.Owns
    rw [hdevices]
    exact id
  members := .inl fun m hm => hmembers ▸ hm

/-- An update of columns other than the owner. -/
theorem changes_updateNetwork {chosen : Network → Bool} {f : Network → Network}
    (hid : ∀ row, (f row).networkId = row.networkId)
    (howner : ∀ row, (f row).ownerUserId = row.ownerUserId) :
    Changes s (s.updateNetwork chosen f hid) := by
  refine .of_networks rfl rfl ?_
  rintro networkId userId ⟨n, hn, rfl, rfl⟩
  refine ⟨_, Relation.mem_def.mpr (List.mem_map_of_mem hn), ?_⟩
  split
  · exact ⟨hid n, howner n⟩
  · exact ⟨rfl, rfl⟩

theorem changes_createNetwork {network : Network} {subnet : Subnet}
    (h : s.createNetworkWithDefaultSubnet network subnet = some t) :
    Changes s t ∧ t.OwnedBy network.networkId network.ownerUserId := by
  unfold Store.createNetworkWithDefaultSubnet at h
  obtain ⟨networks, hinsert, h⟩ := Option.bind_eq_some_iff.mp h
  obtain ⟨subnets, -, h⟩ := Option.bind_eq_some_iff.mp h
  obtain rfl := Option.some.inj h
  have hmem := fun n => Relation.mem_insert (a := n) hinsert
  refine ⟨.of_networks rfl rfl ?_, network, (hmem network).mpr (.inr rfl), rfl, rfl⟩
  rintro networkId userId ⟨n, hn, hrow⟩
  exact ⟨n, (hmem n).mpr (.inl hn), hrow⟩

theorem changes_upsertDevice {row : Device} (h : s.upsertDeviceByUserMachine row = some t) :
    Changes s t := by
  have hdevices : t.networks = s.networks ∧ t.members = s.members ∧
      ∀ device ∈ s.devices, ∃ after ∈ t.devices,
        after.userId = device.userId ∧ after.deviceId = device.deviceId := by
    unfold Store.upsertDeviceByUserMachine at h
    split at h
    · obtain rfl := Option.some.inj h
      refine ⟨rfl, rfl, fun device hdevice =>
        ⟨_, Relation.mem_def.mpr (List.mem_map_of_mem hdevice), ?_⟩⟩
      split <;> exact ⟨rfl, rfl⟩
    · obtain ⟨devices, hinsert, rfl⟩ := Option.map_eq_some_iff.mp h
      exact ⟨rfl, rfl, fun device hdevice =>
        ⟨device, (Relation.mem_insert hinsert).mpr (.inl hdevice), rfl, rfl⟩⟩
  obtain ⟨hnetworks, hmembers, hkept⟩ := hdevices
  refine ⟨⟨?_, ?_⟩, .inl fun m hm => hmembers ▸ hm⟩
  · unfold Store.OwnedBy
    rw [hnetworks]
    exact id
  · rintro userId deviceId ⟨device, hdevice, rfl, rfl⟩
    exact hkept device hdevice

/-- A membership that is added. -/
theorem changes_createMember {row : NetworkMember} (h : s.createMember row = some t)
    (howner : row.role = .owner →
      ∃ userId, s.OwnedBy row.networkId userId ∧ s.Owns userId row.deviceId) : Changes s t := by
  obtain ⟨members, hinsert, rfl⟩ := Option.map_eq_some_iff.mp h
  exact ⟨⟨id, id⟩, .inr ⟨row, fun m => Relation.mem_insert hinsert, howner⟩⟩

end Changes

/-! ## Statements that add no membership -/

def Steady (_ : Store → List KeyEvent) (write : Store → Store) : Prop :=
  ∀ s, Changes s (write s)

section Steady

variable {note : Store → List KeyEvent}

theorem steady_query : Steady note id := Changes.refl

theorem steady_of_eq {write : Store → Store} (hnetworks : ∀ s, (write s).networks = s.networks)
    (hdevices : ∀ s, (write s).devices = s.devices)
    (hmembers : ∀ s, ∀ m ∈ (write s).members, m ∈ s.members) : Steady note write :=
  fun s => .of_eq (hnetworks s) (hdevices s) (hmembers s)

/-- A write that may be refused. -/
theorem steady_of_option {write : Store → Option Store}
    (h : ∀ s t, write s = some t → Changes s t) : Steady note fun s => (write s).getD s := by
  intro s
  dsimp only
  cases hwrite : write s with
  | none => exact .refl s
  | some t => exact h s t hwrite

theorem steady_sessions (deviceId networkId : String) :
    Steady note fun s => s.deleteControlSessionsByDeviceExceptNetwork deviceId networkId :=
  steady_of_eq (fun _ => rfl) (fun _ => rfl) fun _ _ => id

theorem steady_attachments (deviceId networkId : String) :
    Steady note fun s => s.deleteAttachmentsByDeviceExceptNetwork deviceId networkId :=
  steady_of_eq (fun _ => rfl) (fun _ => rfl) fun _ _ => id

theorem steady_members (deviceId networkId : String) :
    Steady note fun s => s.deleteMembersByDeviceExceptNetwork deviceId networkId :=
  steady_of_eq (fun _ => rfl) (fun _ => rfl) fun _ _ hm => (Relation.mem_delete.mp hm).1

theorem steady_active (userId networkId : String) :
    Steady note fun s => s.updateUserActiveNetwork userId networkId :=
  steady_of_eq (fun _ => rfl) (fun _ => rfl) fun _ _ => id

theorem steady_updateNetwork {chosen : Network → Bool} {f : Network → Network}
    (hid : ∀ row, (f row).networkId = row.networkId)
    (howner : ∀ row, (f row).ownerUserId = row.ownerUserId) :
    Steady note fun s => s.updateNetwork chosen f hid := fun _ => changes_updateNetwork hid howner

theorem steady_updateNetworkMetadata (networkId name description cidr : String) :
    Steady note fun s => s.updateNetworkMetadata networkId name description cidr :=
  steady_updateNetwork
    (f := fun row => { row with name, description, defaultSubnetCidr := cidr }) (fun _ => rfl)
    fun _ => rfl

theorem steady_updateNetworkJoinKey (networkId joinKey : String) :
    Steady note fun s => s.updateNetworkJoinKey networkId joinKey :=
  steady_updateNetwork (f := fun row => { row with joinKey }) (fun _ => rfl) fun _ => rfl

theorem steady_clearNetworkJoinKey (networkId joinKey : String) :
    Steady note fun s => s.clearNetworkJoinKey networkId joinKey :=
  steady_updateNetwork (f := fun row => { row with joinKey := "" }) (fun _ => rfl) fun _ => rfl

theorem steady_createUser (row : User) : Steady note fun s => (s.createUser row).getD s := by
  refine steady_of_option fun s t hwrite => ?_
  obtain ⟨_, _, rfl⟩ := Option.map_eq_some_iff.mp hwrite
  exact .of_eq rfl rfl fun _ => id

theorem steady_createSubnet (row : Subnet) :
    Steady note fun s => (s.createSubnet row).getD s := by
  refine steady_of_option fun s t hwrite => ?_
  obtain ⟨_, _, rfl⟩ := Option.map_eq_some_iff.mp hwrite
  exact .of_eq rfl rfl fun _ => id

theorem steady_createAttachment (row : SubnetAttachment) :
    Steady note fun s => (s.createAttachment row).getD s := by
  refine steady_of_option fun s t hwrite => ?_
  obtain ⟨_, _, rfl⟩ := Option.map_eq_some_iff.mp hwrite
  exact .of_eq rfl rfl fun _ => id

theorem steady_updateAttachmentVirtualIp (attachmentId ip : String) :
    Steady note fun s => (s.updateAttachmentVirtualIp attachmentId ip).getD s := by
  refine steady_of_option fun s t hwrite => ?_
  obtain ⟨_, _, rfl⟩ := Option.map_eq_some_iff.mp hwrite
  exact .of_eq rfl rfl fun _ => id

theorem steady_upsertNode (row : Control.Node) :
    Steady note fun s => (s.upsertNode row).getD s := by
  refine steady_of_option fun s t hwrite => ?_
  unfold Store.upsertNode at hwrite
  split at hwrite
  · obtain rfl := Option.some.inj hwrite
    exact .of_eq rfl rfl fun _ => id
  · obtain ⟨_, _, rfl⟩ := Option.map_eq_some_iff.mp hwrite
    exact .of_eq rfl rfl fun _ => id

end Steady

/-! ## What calls find, and what they leave to others -/

section Calls

variable {α : Type} {s : Store}

abbrev Relies (s : Store) (p : Call α) (Q : Store → α → Prop) : Prop :=
  p.Assures SameHolders Changes s Q

/-- A call that adds no membership. -/
theorem relies_of_each {p : Call α} (h : Each Steady p) : Relies s p fun _ _ => True :=
  .of_each (h.mono fun _ _ hsteady => hsteady)

theorem relies_lookupOr {err : Control.ServiceError} {f : Store → Option α}
    {Q : Store → α → Prop} (h : ∀ t a, SameHolders s t → f t = some a → Q t a) :
    Relies s (lookupOr err f) Q :=
  Program.assures_stmt.mpr fun t hle => ⟨.refl t, .orFail fun a ha => h t a hle ha⟩

theorem relies_networkById {err : Control.ServiceError} {networkId : String} :
    Relies s (lookupOr err fun s => s.networkById networkId) fun t record =>
      t.OwnedBy record.networkId record.ownerUserId :=
  relies_lookupOr fun _ record _ hfound => ⟨record, (networkById_eq_some hfound).1, rfl, rfl⟩

theorem relies_ensureDeviceOwner {userId deviceId : String} :
    Relies s (ensureDeviceOwner userId deviceId) fun t _ => t.Owns userId deviceId := by
  refine .bind rely_holders (Q := fun t record => t.Owns record.userId deviceId)
    (relies_lookupOr fun t record _ hfound => ?_) fun t record _ hrecord => ?_
  · obtain ⟨hmem, hid⟩ := deviceById_eq_some hfound
    exact ⟨record, hmem, rfl, hid⟩
  · split
    · exact .fail _
    · rename_i howner
      rw [not_not] at howner
      exact .pure (howner ▸ hrecord)

theorem relies_loadNetworkForDevice {userId networkId deviceId : String} {allowOwner : Bool} :
    Relies s (loadNetworkForDevice userId networkId deviceId allowOwner) fun t record =>
      t.OwnedBy record.networkId record.ownerUserId ∧ t.Owns userId deviceId := by
  refine .bind rely_holders relies_networkById fun t record _ hrecord => ?_
  refine .bind rely_holders relies_ensureDeviceOwner fun u _ htu howns => ?_
  refine .bind rely_holders (relies_of_each (each_ensureNetworkAccess steady_query _ _).attempt)
    fun v access huv _ => ?_
  have hfound : v.OwnedBy record.networkId record.ownerUserId ∧ v.Owns userId deviceId :=
    ⟨huv.networks (htu.networks hrecord), huv.devices howns⟩
  cases access with
  | ok => exact .pure hfound
  | error err =>
    dsimp only
    split
    · exact .fail err
    · exact .pure hfound

theorem relies_membershipRole {networkId deviceId ownerUserId userId : String} :
    Relies s (membershipRole networkId deviceId ownerUserId userId) fun _ role =>
      role = .owner → ownerUserId = userId := by
  unfold membershipRole
  -- a device of another user than the owner joins as a member
  split
  · exact .pure nofun
  · rename_i howner
    rw [not_not] at howner
    refine .bind rely_holders (Q := fun _ _ => True)
      (.query fun t _ => ⟨.refl t, trivial⟩) fun t members _ _ => ?_
    split
    · exact .pure nofun
    · exact .pure fun _ => howner

/-- A membership is made as the owner's only for a device of the network's owner. -/
theorem relies_ensureMember {fresh : Fresh} {networkId deviceId : String} {role : MemberRole}
    (h : role = .owner → ∃ userId, s.OwnedBy networkId userId ∧ s.Owns userId deviceId) :
    Relies s (ensureMember fresh networkId deviceId role) fun _ _ => True := by
  refine .bind rely_holders (Q := fun _ _ => True)
    (.query fun t _ => ⟨.refl t, trivial⟩) fun t found hst _ => ?_
  cases found with
  | some member => exact .pure trivial
  | none =>
    refine .bind rely_holders (Q := fun _ _ => True)
      (.execOr (fun u htu v hwrite => ⟨changes_createMember hwrite fun howner => ?_, trivial⟩)
        .refl) fun _ _ _ _ => .pure trivial
    -- other calls between the lookup and the insert change neither the owner nor the device
    obtain ⟨userId, hnetwork, hdevice⟩ := h howner
    exact ⟨userId, htu.networks (hst.networks hnetwork), htu.devices (hst.devices hdevice)⟩

theorem relies_ensureActiveMemberForNetwork {fresh : Fresh} {userId deviceId : String}
    {record : Network} (hrecord : s.OwnedBy record.networkId record.ownerUserId)
    (howns : s.Owns userId deviceId) :
    Relies s (ensureActiveMemberForNetwork fresh userId deviceId record) fun _ _ => True := by
  have hmove : Each Steady (ensureSingleActiveNetworkForUser userId record.networkId) := by
    refine (Each.query steady_query _).bind fun devices => ?_
    refine (Each.forEach (fun device => ?_) devices).bind fun _ => .exec (steady_active _ _)
    exact (Each.exec (steady_sessions _ _)).bind fun _ =>
      (Each.exec (steady_attachments _ _)).bind fun _ => .exec (steady_members _ _)
  refine .bind rely_holders (relies_of_each hmove) fun t _ hst _ => ?_
  refine .bind rely_holders relies_membershipRole fun u role htu hrole => ?_
  refine relies_ensureMember fun howner => ⟨userId, ?_, htu.devices (hst.devices howns)⟩
  rw [← hrole howner]
  exact htu.networks (hst.networks hrecord)

/-- A device of the user joins the network that is found. -/
theorem relies_joining {fresh : Fresh} {userId deviceId : String} {load : Call Network}
    {answer : Network → NetworkMember → Call α}
    (hload : Relies s load fun t record =>
      t.OwnedBy record.networkId record.ownerUserId ∧ t.Owns userId deviceId)
    (hanswer : ∀ record member, Each Steady (answer record member)) :
    Relies s (load >>= fun record =>
      ensureActiveMemberForNetwork fresh userId deviceId record >>= answer record)
      fun _ _ => True := by
  refine .bind rely_holders hload fun t record _ hrecord => ?_
  refine .bind rely_holders (relies_ensureActiveMemberForNetwork hrecord.1 hrecord.2)
    fun u member _ _ => ?_
  exact relies_of_each (hanswer record member)

theorem relies_loadNetworkOfOwner {userId ownerEmail deviceId : String} :
    Relies s (loadNetworkOfOwner userId ownerEmail deviceId) fun t record =>
      t.OwnedBy record.networkId record.ownerUserId ∧ t.Owns userId deviceId := by
  unfold loadNetworkOfOwner
  split
  · exact .fail _
  · refine .bind rely_holders (relies_of_each (each_requireDeviceId deviceId)) fun t _ _ _ => ?_
    refine .bind rely_holders (Q := fun t record =>
      t.OwnedBy record.networkId record.ownerUserId) ?_ fun u record _ hrecord => ?_
    · refine .bind rely_holders (relies_of_each (each_lookupOr steady_query _ _))
        fun u owner _ _ => ?_
      refine relies_lookupOr fun v record _ hfound => ?_
      exact ⟨record, (Relation.mem_of_firstBy hfound).1, rfl, rfl⟩
    · refine .bind rely_holders relies_ensureDeviceOwner fun v _ huv howns => ?_
      exact .pure ⟨huv.networks hrecord, howns⟩

theorem relies_loadNetworkByKey {userId joinKey deviceId : String} :
    Relies s (loadNetworkByKey userId joinKey deviceId) fun t record =>
      t.OwnedBy record.networkId record.ownerUserId ∧ t.Owns userId deviceId := by
  unfold loadNetworkByKey
  split
  · exact .fail _
  · refine .bind rely_holders (relies_of_each (each_requireDeviceId deviceId)) fun t _ _ _ => ?_
    refine .bind rely_holders relies_ensureDeviceOwner fun u _ _ howns => ?_
    refine .bind rely_holders (Q := fun t record =>
      t.OwnedBy record.networkId record.ownerUserId) ?_ fun v record huv hrecord => ?_
    · refine relies_lookupOr fun v record _ hfound => ?_
      exact ⟨record, (Relation.mem_of_firstBy hfound).1, rfl, rfl⟩
    · refine .bind rely_holders
        (relies_of_each (.execNoting (steady_clearNetworkJoinKey _ _))) fun w _ hvw _ => ?_
      exact .pure ⟨hvw.networks hrecord, hvw.devices (huv.devices howns)⟩

theorem relies_prepareNetwork {fresh : Fresh} {userId : String} {req : CreateNetworkRequest} :
    Relies s (prepareNetwork fresh userId req) fun t prepared =>
      prepared.2.1.ownerUserId = userId ∧
        ((Text.trim req.bindDeviceId != "") = true →
          t.Owns userId (Text.trim req.bindDeviceId)) := by
  unfold prepareNetwork
  split
  · exact .fail _
  · refine .bind rely_holders (Q := fun _ _ => True)
      (.query fun t _ => ⟨.refl t, trivial⟩) fun t owned _ _ => ?_
    cases owned with
    | some owned => exact .fail _
    | none =>
      refine .bind rely_holders (Q := fun t _ => (Text.trim req.bindDeviceId != "") = true →
        t.Owns userId (Text.trim req.bindDeviceId)) ?_ fun u _ _ hbound => ?_
      · unfold onlyIf
        split
        · exact relies_ensureDeviceOwner.mono fun _ _ howns _ => howns
        · rename_i hunbound
          exact .pure fun hbind => absurd hbind hunbound
      · refine .bind rely_holders (relies_of_each (each_lookupOr steady_query _ _))
          fun v user huv _ => ?_
        refine .bind rely_holders (relies_of_each (each_checked _)) fun w subnet hvw _ => ?_
        exact .pure ⟨rfl, fun hbind => hvw.devices (huv.devices (hbound hbind))⟩

/-- The owner's device of a new network belongs to the user who makes it. -/
theorem relies_create {fresh : Fresh} {userId : String} {req : CreateNetworkRequest} :
    Relies s (create fresh userId req) fun _ _ => True := by
  refine .bind rely_holders relies_prepareNetwork fun t prepared _ hprepared => ?_
  obtain ⟨user, network, subnet⟩ := prepared
  obtain ⟨howner, hbound⟩ := hprepared
  refine .bind rely_holders (Q := fun u _ => u.OwnedBy network.networkId userId)
    (.execOr (fun u _ v hwrite => ?_) .refl) fun u _ htu hnetwork => ?_
  · exact howner ▸ changes_createNetwork hwrite
  · refine .bind rely_holders (relies_of_each (each_onlyIf _ (.exec (steady_active _ _))))
      fun v _ huv _ => ?_
    refine .bind rely_holders (Q := fun _ _ => True) ?_ fun _ _ _ _ => .pure trivial
    unfold onlyIf
    split
    · rename_i hbind
      refine .bind rely_holders (relies_ensureMember fun _ => ⟨userId, huv.networks hnetwork, ?_⟩)
        fun _ _ _ _ => .pure trivial
      exact huv.devices (htu.devices (hbound hbind))
    · exact .pure trivial

theorem relies_ensureOwnedNetwork {fresh : Fresh} {userId : String} :
    Relies s (ensureOwnedNetwork fresh userId) fun _ _ => True := by
  refine .bind rely_holders (Q := fun _ _ => True)
    (.query fun t _ => ⟨.refl t, trivial⟩) fun t existing _ _ => ?_
  cases existing with
  | some network => exact .pure trivial
  | none => exact relies_create

theorem each_ensureAttachment_steady (fresh : Fresh) (networkId subnetId deviceId : String) :
    Each Steady (ensureAttachment fresh networkId subnetId deviceId) :=
  each_ensureAttachment steady_query steady_createAttachment fresh networkId subnetId deviceId

/-- A device of the user is provisioned. -/
theorem relies_provision {fresh : Fresh} {userId deviceId : String}
    (howns : s.Owns userId deviceId) :
    Relies s (ensureDeviceProvisionedInActiveNetwork fresh userId deviceId) fun _ _ => True := by
  unfold ensureDeviceProvisionedInActiveNetwork
  split
  · exact .pure trivial
  · have hnetwork : Relies s (provisionedNetwork fresh userId) fun t record =>
        t.OwnedBy record.networkId record.ownerUserId := by
      refine .bind rely_holders (relies_of_each (each_lookupOr steady_query _ _))
        fun t user _ _ => ?_
      dsimp only
      split
      · exact .bind rely_holders relies_ensureOwnedNetwork fun _ _ _ _ => relies_networkById
      · exact relies_networkById
    refine .bind rely_holders hnetwork fun t record hst hrecord => ?_
    refine .bind rely_holders relies_membershipRole fun u role htu hrole => ?_
    refine .bind rely_holders (relies_ensureMember fun howner =>
      ⟨userId, hrole howner ▸ htu.networks hrecord, htu.devices (hst.devices howns)⟩)
      fun v member _ _ => ?_
    exact relies_of_each ((each_ensureAttachment_steady fresh _ _ _).bind fun _ => .pure ())

theorem relies_registerDevice {fresh : Fresh} {userId : String} {req : RegisterDeviceRequest} :
    Relies s (registerDevice fresh userId req) fun _ _ => True := by
  refine .bind rely_holders (relies_of_each ?_) fun t _ _ _ => ?_
  · unfold requireRegisterDeviceRequest
    split
    · exact .fail _
    · exact .pure ()
  · refine .bind rely_holders (relies_of_each (each_lookupOr steady_query _ _)) fun u user _ _ => ?_
    refine .bind rely_holders (Q := fun v record => v.Owns userId record.deviceId) ?_
      fun v record _ howns => ?_
    · refine .bind rely_holders (Q := fun _ _ => True)
        (.execOr (fun v _ w hwrite => ⟨changes_upsertDevice hwrite, trivial⟩) .refl)
        fun v _ _ _ => ?_
      refine relies_lookupOr fun w record _ hfound => ?_
      obtain ⟨hmem, huser, -⟩ := deviceByUserMachine_eq_some hfound
      exact ⟨record, hmem, huser, rfl⟩
    · exact .bind rely_holders (relies_provision howns) fun _ _ _ _ => .pure trivial

theorem relies_registerUser {fresh : Fresh} {email password : String} :
    Relies s (registerUser fresh email password) fun _ _ => True := by
  unfold registerUser
  split
  · exact .fail _
  · refine .bind rely_holders (Q := fun _ _ => True)
      (.query fun t _ => ⟨.refl t, trivial⟩) fun t existing _ _ => ?_
    split
    · exact .fail _
    · refine .bind rely_holders (relies_of_each (.execOr _ (steady_createUser _)))
        fun u _ _ _ => ?_
      exact .bind rely_holders relies_ensureOwnedNetwork fun _ _ _ _ => .pure trivial

theorem relies_void {p : Call α} (h : Relies s p fun _ _ => True) :
    Relies s p.void fun _ _ => True :=
  .bind rely_holders h fun _ _ _ _ => .pure trivial

theorem relies_request (sameName : String → String → Bool) (r : Request) :
    Relies s (r.call sameName) fun _ _ => True := by
  have hq : Steady (fun _ => []) id := steady_query
  have hip := @steady_updateAttachmentVirtualIp fun _ => []
  obtain ⟨fresh, operation⟩ := r
  cases operation with
  | registerUser email password => exact relies_registerUser
  | seedDefaultAdmin email =>
    exact relies_of_each (each_seedDefaultAdmin hq (fun _ _ => steady_createUser _) fresh email)
  | registerDevice userId req => exact relies_void relies_registerDevice
  | registerNode userId req =>
    exact relies_of_each (each_registerNode hq steady_upsertNode userId req)
  | create userId req => exact relies_void relies_create
  | update userId networkId req =>
    refine relies_of_each (each_update hq hip ?_ steady_updateNetworkMetadata userId networkId
      req).void
    exact fun _ => steady_of_eq (fun _ => rfl) (fun _ => rfl) fun _ _ => id
  | updateJoinKey userId networkId joinKey =>
    exact relies_of_each (each_updateJoinKey hq (fun _ => steady_updateNetworkJoinKey) fresh userId
      networkId joinKey).void
  | createSubnet userId networkId req =>
    exact relies_of_each (each_createSubnet hq steady_createSubnet sameName fresh userId networkId
      req).void
  | join userId networkId deviceId =>
    refine relies_void (.bind rely_holders (relies_of_each (each_requireDeviceId deviceId))
      fun _ _ _ _ => ?_)
    exact relies_joining relies_loadNetworkForDevice fun _ _ => .pure _
  | joinByOwnerEmail userId ownerEmail deviceId =>
    exact relies_void (relies_joining relies_loadNetworkOfOwner fun _ _ => .pure _)
  | joinByKey userId joinKey deviceId =>
    exact relies_void (relies_joining relies_loadNetworkByKey fun _ _ => .pure _)
  | switch userId networkId deviceId =>
    refine relies_void (.bind rely_holders (relies_of_each (each_requireDeviceId deviceId))
      fun _ _ _ _ => ?_)
    exact relies_joining relies_loadNetworkForDevice fun _ _ => .pure _
  | activate userId networkId deviceId =>
    refine relies_void (.bind rely_holders (relies_of_each (each_requireDeviceId deviceId))
      fun _ _ _ _ => ?_)
    refine relies_joining relies_loadNetworkForDevice fun record _ => ?_
    exact (each_ensureAttachment_steady fresh networkId record.defaultSubnetId deviceId).bind
      fun _ => .pure _
  | deactivate userId networkId deviceId =>
    refine relies_of_each (each_deactivate hq (fun _ _ => ?_) userId networkId deviceId)
    exact steady_of_eq (fun _ => rfl) (fun _ => rfl) fun _ _ => id
  | attachDevice userId networkId subnetId deviceId =>
    refine relies_void (relies_of_each ((each_requireDeviceId deviceId).bind fun _ => ?_))
    refine (each_ensureNetworkAccess hq userId networkId).bind fun _ => ?_
    refine (each_ensureDeviceOwner hq userId deviceId).bind fun _ => ?_
    refine (each_lookupOr hq _ _).bind fun subnet => ?_
    split
    · exact .fail _
    · exact (each_lookupOr hq _ _).bind fun _ => each_ensureAttachment_steady fresh _ _ _
  | reserve networkId subnetId attachmentId ip =>
    exact relies_of_each (each_reserve hq networkId subnetId attachmentId ip).void
  | release attachmentId => exact relies_of_each (each_release hip attachmentId)
  | updateAttachmentIp userId networkId attachmentId virtualIp =>
    exact relies_of_each (each_updateAttachmentIp hq hip userId networkId attachmentId
      virtualIp).void
  | updateAttachmentRemark userId networkId attachmentId remark =>
    refine relies_of_each (each_updateAttachmentRemark hq (fun _ _ => ?_) userId networkId
      attachmentId remark)
    exact steady_of_eq (fun _ => rfl) (fun _ => rfl) fun _ _ => id
  | bootstrap session userId nodeId networkId =>
    refine relies_of_each ((each_requireNodeSession hq userId nodeId networkId).bind fun _ => ?_)
    refine (each_lookupOr hq _ _).bind fun _ => ?_
    refine (Each.exec ?_).bind fun _ => .exec (steady_active _ _)
    exact steady_of_eq (fun _ => rfl) (fun _ => rfl) fun _ _ => id

end Calls

/-! ## Calls that take turns -/

abbrev ServiceWorld := Interleaving Store KeyEvent Failure

inductive ServiceMove where
  | call (r : Request)
  /-- The next statement of a call. -/
  | advance (call : Nat)

namespace ServiceWorld

def start : ServiceWorld := Interleaving.start ∅

def step (sameName : String → String → Bool) (w : ServiceWorld) : ServiceMove → Option ServiceWorld
  | .call r => some (w.begin (r.call sameName))
  | .advance call => w.advance call

/-- The memberships that the next statement of a call adds. -/
def added (w : ServiceWorld) (call : Nat) : List NetworkMember :=
  match w.calls[call]? with
  | some (.stmt _ write _) => (write w.state).members.rows.filter fun m => m ∉ w.state.members.rows
  | _ => []

/-- A membership is added as the owner's only while the role decision would still be that. -/
def TakesTurns (w : ServiceWorld) : ServiceMove → Prop
  | .call _ => True
  | .advance call => ∀ m ∈ w.added call, m.role = .owner →
    w.state.hasOtherOwner m.networkId m.deviceId = false

theorem mem_added {w t : ServiceWorld} {call : Nat} (h : w.advance call = some t)
    {m : NetworkMember} : m ∈ w.added call ↔ m ∈ t.state.members ∧ m ∉ w.state.members := by
  obtain ⟨note, write, next, hcall, -, rfl⟩ := Interleaving.advance_eq_some h
  unfold added
  rw [hcall]
  simp [Relation.mem_def]

end ServiceWorld

theorem Store.oneOwner_empty : Store.OneOwner ∅ where
  unique _ hm := absurd hm (Relation.not_mem_empty _)
  belongs _ hm := absurd hm (Relation.not_mem_empty _)

section OneOwner

variable {s t : Store}

/-- To whom a membership belongs is settled where it is added. -/
theorem Changes.belongs (h : Changes s t) (hs : s.OneOwner) :
    ∀ m ∈ t.members, m.role = .owner →
      ∃ userId, t.OwnedBy m.networkId userId ∧ t.Owns userId m.deviceId := by
  intro m hm howner
  have hfound : ∃ userId, s.OwnedBy m.networkId userId ∧ s.Owns userId m.deviceId := by
    rcases h.members with hold | ⟨row, hmem, hrow⟩
    · exact hs.belongs m (hold m hm) howner
    · rcases (hmem m).mp hm with hold | rfl
      · exact hs.belongs m hold howner
      · exact hrow howner
  obtain ⟨userId, hnetwork, hdevice⟩ := hfound
  exact ⟨userId, h.holders.networks hnetwork, h.holders.devices hdevice⟩

/-- An owner's device stays the only one if and only if no second one is added. -/
theorem Changes.oneOwner_next (h : Changes s t) (hs : s.OneOwner) :
    (∀ m ∈ t.members, m ∉ s.members → m.role = .owner →
      s.hasOtherOwner m.networkId m.deviceId = false) ↔ t.OneOwner := by
  constructor
  · intro hnone
    refine ⟨fun m hm howner n hn hnowner hnetwork => ?_, h.belongs hs⟩
    rcases h.members with hold | ⟨row, hmem, -⟩
    · exact hs.unique m (hold m hm) howner n (hold n hn) hnowner hnetwork
    · -- a membership that is new clashes with one of the same network and device
      have hnew : ∀ {m n : NetworkMember}, m ∈ t.members → m ∉ s.members → m.role = .owner →
          n ∈ s.members → n ∈ t.members → n.role = .owner → m.networkId = n.networkId →
            m = n := by
        intro m n hm hmnew howner hn hnt hnowner hnetwork
        have hdevice : n.deviceId = m.deviceId := by
          by_contra hne
          have hother := Store.hasOtherOwner_iff.mpr ⟨n, hn, hnetwork.symm, hnowner, hne⟩
          rw [hnone m hm hmnew howner] at hother
          cases hother
        exact Relation.eq_of_clash hm hnt (.inr ⟨hnetwork, hdevice.symm⟩)
      -- at most one of the two is new, unless they are the same row
      by_cases hms : m ∈ s.members
      · by_cases hns : n ∈ s.members
        · exact hs.unique m hms howner n hns hnowner hnetwork
        · exact (hnew hn hns hnowner hms hm howner hnetwork.symm).symm
      · by_cases hns : n ∈ s.members
        · exact hnew hm hms howner hns hn hnowner hnetwork
        · have hmrow := ((hmem m).mp hm).resolve_left hms
          exact hmrow.trans (((hmem n).mp hn).resolve_left hns).symm
  · intro ht m hm hmnew howner
    rcases h.members with hold | ⟨row, hmem, -⟩
    · exact absurd (hold m hm) hmnew
    -- a second owner's device that is added would have to be the first one
    · by_contra hother
      rw [Bool.not_eq_false, Store.hasOtherOwner_iff] at hother
      obtain ⟨n, hn, hnetwork, hnowner, hne⟩ := hother
      have hsame := ht.unique m hm howner n ((hmem n).mpr (.inl hn)) hnowner hnetwork.symm
      exact hne (congrArg NetworkMember.deviceId hsame).symm

end OneOwner

namespace ServiceWorld

theorem assured_of_reachable {sameName : String → String → Bool} {w : ServiceWorld}
    (h : Reachable (rel (step sameName)) start w) : w.Assured SameHolders Changes := by
  refine h.invariant _ (Interleaving.assured_start ∅) fun w move t hw hs => ?_
  cases move with
  | call r =>
    obtain rfl := Option.some.inj hs
    exact hw.begin (relies_request sameName r)
  | advance call => exact (hw.advance rely_holders hs).2

/-- The runs in which every network has one owner's device at most, and of its owner, are those in
which no call adds a second one. -/
theorem oneOwner_iff_takesTurns (sameName : String → String → Bool) (w : ServiceWorld) :
    Reachable (guarded TakesTurns (rel (step sameName))) start w ↔
      Reachable (kept (fun v : ServiceWorld => v.state.OneOwner) (rel (step sameName))) start w ∧
        w.state.OneOwner := by
  refine Reachable.guarded_iff_kept (fun v : ServiceWorld => v.state.OneOwner) Store.oneOwner_empty
    fun w move t hreach hw hs => ?_
  cases move with
  | call r =>
    obtain rfl := Option.some.inj hs
    exact ⟨fun _ => hw, fun _ => trivial⟩
  | advance call =>
    have hchanges := ((assured_of_reachable hreach).advance rely_holders hs).1
    rw [← hchanges.oneOwner_next hw]
    constructor
    · exact fun hturn m hm hnew => hturn m ((mem_added hs).mpr ⟨hm, hnew⟩)
    · exact fun hnone m hm => hnone m ((mem_added hs).mp hm).1 ((mem_added hs).mp hm).2

/-! ## Two devices that are registered at once -/

def registering (fresh : Fresh) (machineId : String) : ServiceMove :=
  .call ⟨fresh, .registerDevice (Control.newId "user" (Fresh.ofDigits "01" (.refl true)).user)
    ⟨"laptop", "linux", machineId, "key"⟩⟩

/-- A user registers, and then two of the user's devices. Both find no members in the network. -/
def registeringTwo : List ServiceMove :=
  .call ⟨.ofDigits "01" (.refl true), .registerUser "a@example.com" "password"⟩ ::
    List.replicate 7 (.advance 0) ++
    [registering (.ofDigits "02" (.refl true)) "machine-1", registering (.ofDigits "03" (.refl true)) "machine-2"] ++
    List.replicate 7 (.advance 1) ++ List.replicate 7 (.advance 2) ++ [.advance 1, .advance 2]

theorem two_owners : ¬∀ (sameName : String → String → Bool) (w : ServiceWorld),
    Reachable (rel (step sameName)) start w → w.state.OneOwner := by
  intro h
  obtain ⟨hrun, hmembers⟩ : (exec (step (· == ·)) start registeringTwo).isSome = true ∧
      (execD (step (· == ·)) start registeringTwo).state.members.rows =
        [⟨"member-02", "net-01", "dev-02", .owner, 0, "active"⟩,
          ⟨"member-03", "net-01", "dev-03", .owner, 0, "active"⟩] := by
    decide
  have hone := h (· == ·) _ (.of_exec .start (exec_eq_execD hrun))
  have hmem := fun m => Iff.of_eq (congrArg (m ∈ ·) hmembers)
  have hsame := hone.unique _ ((hmem _).mpr List.mem_cons_self) rfl _
    ((hmem _).mpr (List.mem_cons_of_mem _ List.mem_cons_self)) rfl rfl
  exact absurd (congrArg NetworkMember.deviceId hsame) (by decide)

end ServiceWorld

end Slan.Networks
