import Slan.Networks.Leases
import Slan.Networks.Moves

/-! # The network that a user is active in -/

namespace Slan.Networks

open Control (newId)
open Program (Each Keeps Triple)
open Transition

/-! ## The world -/

structure NetworkWorld where
  store : Store
  /-- The devices that have been members of a network. -/
  provisioned : List String

/-- Devices are in the active network of their user only, and those once provisioned are in it. -/
structure Settled (provisioned : List String) (s : Store) : Prop where
  members : ∀ u ∈ s.users, ∀ m ∈ s.members, s.Owns u.userId m.deviceId →
    m.networkId = u.activeNetworkId
  attachments : ∀ u ∈ s.users, ∀ a ∈ s.attachments, s.Owns u.userId a.deviceId →
    a.networkId = u.activeNetworkId
  present : ∀ u ∈ s.users, ∀ deviceId ∈ provisioned, s.Owns u.userId deviceId →
    s.IsMember u.activeNetworkId deviceId

/-- No row has one of these identifiers yet. -/
def Fresh.Unused (fresh : Fresh) (s : Store) : Prop :=
  (∀ u ∈ s.users.rows, u.userId ≠ newId "user" fresh.user) ∧
  (∀ d ∈ s.devices.rows, d.deviceId ≠ newId "dev" fresh.device) ∧
  (∀ n ∈ s.networks.rows, n.networkId ≠ newId "net" fresh.network) ∧
  (∀ n ∈ s.subnets.rows, n.subnetId ≠ newId "subnet" fresh.subnet) ∧
  (∀ m ∈ s.members.rows, m.memberId ≠ newId "member" fresh.member) ∧
  ∀ a ∈ s.attachments.rows, a.attachmentId ≠ newId "att" fresh.attachment

instance (fresh : Fresh) (s : Store) : Decidable (fresh.Unused s) :=
  inferInstanceAs (Decidable (_ ∧ _ ∧ _ ∧ _ ∧ _ ∧ _))

namespace NetworkWorld

def start : NetworkWorld := ⟨∅, []⟩

/-- `NewID` draws no identifier twice. -/
def step (sameName : String → String → Bool) (s : NetworkWorld) (r : Request) :
    Option NetworkWorld :=
  if r.fresh.Unused s.store then
    let store := r.after sameName s.store
    some ⟨store, s.provisioned ++ store.members.rows.map NetworkMember.deviceId⟩
  else none

def Settled (s : NetworkWorld) : Prop := Networks.Settled s.provisioned s.store

end NetworkWorld

/-! ## What a call must not do -/

/-- The calls that move a user: who calls with which device, and what finds the network. -/
structure Move where
  userId : String
  deviceId : String
  find : Call Network

def Operation.move : Operation → Option Move
  | .join userId networkId deviceId => some ⟨userId, deviceId, do
    requireDeviceId deviceId
    loadNetworkForDevice userId networkId deviceId true⟩
  | .switch userId networkId deviceId => some ⟨userId, deviceId, do
    requireDeviceId deviceId
    loadNetworkForDevice userId networkId deviceId false⟩
  | .activate userId networkId deviceId => some ⟨userId, deviceId, do
    requireDeviceId deviceId
    loadNetworkForDevice userId networkId deviceId false⟩
  | .joinByOwnerEmail userId ownerEmail deviceId =>
    some ⟨userId, deviceId, loadNetworkOfOwner userId ownerEmail deviceId⟩
  | .joinByKey userId joinKey deviceId =>
    some ⟨userId, deviceId, loadNetworkByKey userId joinKey deviceId⟩
  | _ => none

/-- The user is in the network, or has no other device that is a member anywhere. -/
def Store.MovesAll (s : Store) (userId deviceId networkId : String) : Prop :=
  (∃ u ∈ s.users.rows, u.userId = userId ∧ u.activeNetworkId = networkId) ∨
    ∀ m ∈ s.members.rows, s.Owns userId m.deviceId → m.deviceId = deviceId

instance (s : Store) (userId deviceId networkId : String) :
    Decidable (s.MovesAll userId deviceId networkId) :=
  inferInstanceAs (Decidable ((∃ u ∈ s.users.rows, u.userId = userId ∧
    u.activeNetworkId = networkId) ∨
    ∀ m ∈ s.members.rows, s.Owns userId m.deviceId → m.deviceId = deviceId))

/-- A device is bound to a new network only where its user has no active one. -/
def BindsFirst (fresh : Fresh) (s : Store) : Operation → Prop
  | .create userId req => Text.trim req.bindDeviceId ≠ "" →
    ∀ prepared ∈ ((prepareNetwork fresh userId req).run s).1.toOption,
      prepared.1.activeNetworkId = ""
  | _ => True

def KeepsActive (s : NetworkWorld) (r : Request) : Prop :=
  (∀ move ∈ r.operation.move, ∀ network ∈ (move.find.run s.store).1.toOption,
    s.store.MovesAll move.userId move.deviceId network.networkId) ∧
  BindsFirst r.fresh s.store r.operation

/-! ## The rows that refer to each other -/

/-- Not blank, and without blanks around it. -/
def Named (id : String) : Prop := id ≠ "" ∧ Text.trim id = id

structure Tied (provisioned : List String) (s : Store) : Prop extends Settled provisioned s where
  memberRow : ∀ m ∈ s.members, m.networkId ≠ "" ∧ ∃ u ∈ s.users, s.Owns u.userId m.deviceId
  attachmentRow : ∀ a ∈ s.attachments,
    a.networkId ≠ "" ∧ ∃ u ∈ s.users, s.Owns u.userId a.deviceId
  deviceRow : ∀ userId deviceId, s.Owns userId deviceId → ∃ u ∈ s.users, u.userId = userId
  provisionedRow : ∀ deviceId ∈ provisioned, ∃ userId, s.Owns userId deviceId
  networkRow : ∀ n ∈ s.networks,
    Named n.networkId ∧ ∃ u ∈ s.users, u.userId = n.ownerUserId ∧ u.activeNetworkId ≠ ""
  userRow : ∀ u ∈ s.users,
    u.activeNetworkId = "" ∨ ∃ n ∈ s.networks, n.networkId = u.activeNetworkId
  nodeRow : ∀ n ∈ s.nodes, s.Owns n.userId n.deviceId

/-- The columns that say who is where are the same. -/
structure SameTies (s t : Store) : Prop where
  users : t.users = s.users
  devices : (t.devices.rows.map fun d => (d.userId, d.deviceId)) =
    s.devices.rows.map fun d => (d.userId, d.deviceId)
  members : t.members = s.members
  nodes : t.nodes = s.nodes
  networks : (t.networks.rows.map fun n => (n.networkId, n.ownerUserId)) =
    s.networks.rows.map fun n => (n.networkId, n.ownerUserId)
  attachments : ∀ a ∈ t.attachments, ∃ b ∈ s.attachments,
    a.deviceId = b.deviceId ∧ a.networkId = b.networkId

section Ties

variable {s t : Store} {provisioned : List String}

theorem owns_iff {userId deviceId : String} :
    s.Owns userId deviceId ↔
      (userId, deviceId) ∈ s.devices.rows.map fun d => (d.userId, d.deviceId) := by
  unfold Store.Owns
  simp only [List.mem_map, Prod.mk.injEq]

theorem SameTies.owns (h : SameTies s t) (userId deviceId : String) :
    t.Owns userId deviceId ↔ s.Owns userId deviceId := by
  rw [owns_iff, owns_iff, h.devices]

theorem SameTies.network (h : SameTies s t) {n : Network} (hn : n ∈ t.networks) :
    ∃ n' ∈ s.networks, n'.networkId = n.networkId ∧ n'.ownerUserId = n.ownerUserId := by
  have hpair := List.mem_map_of_mem (f := fun n : Network => (n.networkId, n.ownerUserId)) hn
  rw [h.networks] at hpair
  obtain ⟨n', hn', heq⟩ := List.mem_map.mp hpair
  exact ⟨n', hn', (Prod.mk.inj heq).1, (Prod.mk.inj heq).2⟩

theorem SameTies.symm_network (h : SameTies s t) {n : Network} (hn : n ∈ s.networks) :
    ∃ n' ∈ t.networks, n'.networkId = n.networkId ∧ n'.ownerUserId = n.ownerUserId := by
  have hpair := List.mem_map_of_mem (f := fun n : Network => (n.networkId, n.ownerUserId)) hn
  rw [← h.networks] at hpair
  obtain ⟨n', hn', heq⟩ := List.mem_map.mp hpair
  exact ⟨n', hn', (Prod.mk.inj heq).1, (Prod.mk.inj heq).2⟩

theorem Tied.same (h : Tied provisioned s) (hsame : SameTies s t) : Tied provisioned t where
  members u hu m hm howned := by
    rw [hsame.users] at hu
    rw [hsame.members] at hm
    exact h.members u hu m hm ((hsame.owns _ _).mp howned)
  attachments u hu a ha howned := by
    rw [hsame.users] at hu
    obtain ⟨b, hb, hdevice, hnetwork⟩ := hsame.attachments a ha
    rw [hnetwork]
    exact h.attachments u hu b hb (hdevice ▸ (hsame.owns _ _).mp howned)
  present u hu deviceId hid howned := by
    rw [hsame.users] at hu
    unfold Store.IsMember
    rw [hsame.members]
    exact h.present u hu deviceId hid ((hsame.owns _ _).mp howned)
  memberRow m hm := by
    rw [hsame.members] at hm
    simpa only [hsame.users, hsame.owns] using h.memberRow m hm
  attachmentRow a ha := by
    obtain ⟨b, hb, hdevice, hnetwork⟩ := hsame.attachments a ha
    simpa only [hsame.users, hsame.owns, hdevice, hnetwork] using h.attachmentRow b hb
  deviceRow userId deviceId howned := by
    rw [hsame.users]
    exact h.deviceRow userId deviceId ((hsame.owns _ _).mp howned)
  provisionedRow deviceId hid := by
    obtain ⟨userId, howned⟩ := h.provisionedRow deviceId hid
    exact ⟨userId, (hsame.owns _ _).mpr howned⟩
  networkRow n hn := by
    obtain ⟨n', hn', hid, howner⟩ := hsame.network hn
    simpa only [hsame.users, hid, howner] using h.networkRow n' hn'
  userRow u hu := by
    rw [hsame.users] at hu
    refine (h.userRow u hu).imp_right ?_
    rintro ⟨n, hn, hactive⟩
    obtain ⟨n', hn', hid, _⟩ := hsame.symm_network hn
    exact ⟨n', hn', hid.trans hactive⟩
  nodeRow n hn := by
    rw [hsame.nodes] at hn
    exact (hsame.owns _ _).mpr (h.nodeRow n hn)

end Ties

/-! ## Statements that leave everyone where they are -/

def KeepsTies (_ : Store → List KeyEvent) (write : Store → Store) : Prop :=
  ∀ s, SameTies s (write s)

section Statements

variable {note : Store → List KeyEvent} {provisioned : List String}

theorem SameTies.refl (s : Store) : SameTies s s :=
  ⟨rfl, rfl, rfl, rfl, rfl, fun a ha => ⟨a, ha, rfl, rfl⟩⟩

theorem keepsTies_query : KeepsTies note id := SameTies.refl

theorem keepsTies_updateNetwork {chosen : Network → Bool} {f : Network → Network}
    {hf : ∀ row, (f row).networkId = row.networkId}
    (howner : ∀ row, (f row).ownerUserId = row.ownerUserId) :
    KeepsTies note fun s => s.updateNetwork chosen f hf := by
  intro s
  refine ⟨rfl, rfl, rfl, rfl, ?_, fun a ha => ⟨a, ha, rfl, rfl⟩⟩
  unfold Store.updateNetwork Relation.alter
  rw [List.map_map]
  refine List.map_congr_left fun n _ => ?_
  change ((if chosen n then f n else n).networkId, (if chosen n then f n else n).ownerUserId) = _
  split
  · rw [hf, howner]
  · rfl

theorem keepsTies_createSubnet (row : Subnet) :
    KeepsTies note fun s => (s.createSubnet row).getD s := by
  intro s
  dsimp only
  unfold Store.createSubnet
  cases s.subnets.insert row with
  | none => exact .refl s
  | some subnets => exact ⟨rfl, rfl, rfl, rfl, rfl, fun a ha => ⟨a, ha, rfl, rfl⟩⟩

theorem keepsTies_updateSubnetRange (subnet : Subnet) :
    KeepsTies note fun s => s.updateSubnetRange subnet :=
  fun _ => ⟨rfl, rfl, rfl, rfl, rfl, fun a ha => ⟨a, ha, rfl, rfl⟩⟩

theorem keepsTies_deleteAttachments (chosen : SubnetAttachment → Bool) :
    KeepsTies note fun s => { s with attachments := s.attachments.delete chosen } :=
  fun _ => ⟨rfl, rfl, rfl, rfl, rfl, fun a ha => ⟨a, (Relation.mem_delete.mp ha).1, rfl, rfl⟩⟩

theorem keepsTies_updateAttachmentRemark (attachmentId remark : String) :
    KeepsTies note fun s => s.updateAttachmentRemark attachmentId remark := by
  refine fun s => ⟨rfl, rfl, rfl, rfl, rfl, fun a ha => ?_⟩
  obtain ⟨b, hb, hab⟩ := List.mem_map.mp (Relation.mem_def.mp ha)
  refine ⟨b, hb, ?_⟩
  rw [← hab]
  split <;> exact ⟨rfl, rfl⟩

theorem keepsTies_updateAttachmentVirtualIp (attachmentId ip : String) :
    KeepsTies note fun s => (s.updateAttachmentVirtualIp attachmentId ip).getD s := by
  intro s
  dsimp only
  unfold Store.updateAttachmentVirtualIp
  cases hupdate : s.attachments.update fun row =>
      if row.attachmentId = attachmentId then { row with virtualIp := ip } else row with
  | none => exact .refl s
  | some attachments =>
    refine ⟨rfl, rfl, rfl, rfl, rfl, fun a ha => ?_⟩
    obtain ⟨b, hb, hab⟩ := (Relation.mem_update hupdate).mp ha
    refine ⟨b, hb, ?_⟩
    rw [← hab]
    split <;> exact ⟨rfl, rfl⟩

theorem keepsTied_of_each {α : Type} {p : Call α} (h : Each KeepsTies p) :
    Keeps (Tied provisioned) p :=
  (h.mono fun _ _ hsame s (hs : Tied provisioned s) => hs.same (hsame s)).keeps

end Statements

/-! ## One lemma for each kind of write -/

section Writes

variable {s t : Store} {provisioned : List String}

theorem user_eq {u v : User} (hu : u ∈ s.users) (hv : v ∈ s.users) (h : u.userId = v.userId) :
    u = v := Relation.eq_of_clash hu hv (.inl h)

/-- A device has one owner. -/
theorem owner_eq {userId userId' deviceId : String} (h : s.Owns userId deviceId)
    (h' : s.Owns userId' deviceId) : userId = userId' := by
  obtain ⟨d, hd, rfl, hid⟩ := h
  obtain ⟨d', hd', rfl, hid'⟩ := h'
  rw [Relation.eq_of_clash hd hd' (.inl (hid.trans hid'.symm))]

/-- A user without an active network has no rows anywhere. -/
theorem Tied.idle (h : Tied provisioned s) {u : User} (hu : u ∈ s.users)
    (hactive : u.activeNetworkId = "") {deviceId : String} (howned : s.Owns u.userId deviceId) :
    (∀ m ∈ s.members, m.deviceId ≠ deviceId) ∧ (∀ a ∈ s.attachments, a.deviceId ≠ deviceId) ∧
      deviceId ∉ provisioned := by
  have hmembers : ∀ m ∈ s.members, m.deviceId ≠ deviceId := by
    rintro m hm rfl
    exact (h.memberRow m hm).1 ((h.members u hu m hm howned).trans hactive)
  refine ⟨hmembers, ?_, fun hid => ?_⟩
  · rintro a ha rfl
    exact (h.attachmentRow a ha).1 ((h.attachments u hu a ha howned).trans hactive)
  · obtain ⟨m, hm, _, hdevice⟩ := h.present u hu deviceId hid howned
    exact hmembers m hm hdevice

theorem Tied.createUser (h : Tied provisioned s) {userId email : String}
    (hwrite : s.createUser ⟨userId, email, ""⟩ = some t) :
    Tied provisioned t ∧ ∃ u ∈ t.users, u.userId = userId := by
  unfold Store.createUser at hwrite
  obtain ⟨users, hinsert, rfl⟩ := Option.map_eq_some_iff.mp hwrite
  have hmem : ∀ u, u ∈ users ↔ u ∈ s.users ∨ u = ⟨userId, email, ""⟩ :=
    fun _ => Relation.mem_insert hinsert
  -- nobody has been registered under the identifier
  have hnone : ∀ deviceId, ¬s.Owns userId deviceId := by
    intro deviceId howned
    obtain ⟨v, hv, hid⟩ := h.deviceRow userId deviceId howned
    exact Relation.not_clash_of_insert hinsert hv (.inl hid)
  refine ⟨?_, _, (hmem _).mpr (.inr rfl), rfl⟩
  constructor
  · constructor
    · intro u hu m hm howned
      rcases (hmem u).mp hu with hold | rfl
      · exact h.members u hold m hm howned
      · exact absurd howned (hnone _)
    · intro u hu a ha howned
      rcases (hmem u).mp hu with hold | rfl
      · exact h.attachments u hold a ha howned
      · exact absurd howned (hnone _)
    · intro u hu deviceId hid howned
      rcases (hmem u).mp hu with hold | rfl
      · exact h.present u hold deviceId hid howned
      · exact absurd howned (hnone _)
  · intro m hm
    obtain ⟨hnetwork, u, hu, howned⟩ := h.memberRow m hm
    exact ⟨hnetwork, u, (hmem u).mpr (.inl hu), howned⟩
  · intro a ha
    obtain ⟨hnetwork, u, hu, howned⟩ := h.attachmentRow a ha
    exact ⟨hnetwork, u, (hmem u).mpr (.inl hu), howned⟩
  · intro ownerId deviceId howned
    obtain ⟨u, hu, hid⟩ := h.deviceRow ownerId deviceId howned
    exact ⟨u, (hmem u).mpr (.inl hu), hid⟩
  · exact h.provisionedRow
  · intro n hn
    obtain ⟨hnamed, u, hu, howner⟩ := h.networkRow n hn
    exact ⟨hnamed, u, (hmem u).mpr (.inl hu), howner⟩
  · intro u hu
    rcases (hmem u).mp hu with hold | rfl
    · exact h.userRow u hold
    · exact .inl rfl
  · exact h.nodeRow

theorem Tied.upsertDevice (h : Tied provisioned s) {row : Device}
    (huser : ∃ u ∈ s.users, u.userId = row.userId)
    (hwrite : s.upsertDeviceByUserMachine row = some t) : Tied provisioned t := by
  unfold Store.upsertDeviceByUserMachine at hwrite
  cases hfound : s.deviceByUserMachine row.userId row.machineId with
  | some stored =>
    rw [hfound] at hwrite
    obtain rfl := Option.some.inj hwrite
    refine h.same ⟨rfl, ?_, rfl, rfl, rfl, fun a ha => ⟨a, ha, rfl, rfl⟩⟩
    unfold Relation.alter
    rw [List.map_map]
    refine List.map_congr_left fun d _ => ?_
    dsimp only [Function.comp_apply]
    split <;> rfl
  | none =>
    rw [hfound] at hwrite
    obtain ⟨devices, hinsert, rfl⟩ := Option.map_eq_some_iff.mp hwrite
    let t : Store := { s with devices }
    have howns : ∀ userId deviceId, t.Owns userId deviceId ↔
        s.Owns userId deviceId ∨ row.userId = userId ∧ row.deviceId = deviceId := by
      intro userId deviceId
      constructor
      · rintro ⟨d, hd, howner, hid⟩
        rcases (Relation.mem_insert hinsert).mp hd with hold | rfl
        · exact .inl ⟨d, hold, howner, hid⟩
        · exact .inr ⟨howner, hid⟩
      · rintro (⟨d, hd, howner, hid⟩ | ⟨howner, hid⟩)
        · exact ⟨d, (Relation.mem_insert hinsert).mpr (.inl hd), howner, hid⟩
        · exact ⟨row, (Relation.mem_insert hinsert).mpr (.inr rfl), howner, hid⟩
    -- no row refers to a device that was not there
    have hnone : ∀ userId, ¬s.Owns userId row.deviceId := by
      rintro userId ⟨d, hd, _, hid⟩
      exact Relation.not_clash_of_insert hinsert hd (.inl hid)
    have hold : ∀ {userId deviceId owner : String}, s.Owns owner deviceId →
        t.Owns userId deviceId → s.Owns userId deviceId := by
      intro userId deviceId owner hother howned
      rcases (howns _ _).mp howned with howned | ⟨_, rfl⟩
      · exact howned
      · exact absurd hother (hnone _)
    constructor
    · constructor
      · intro u hu m hm howned
        obtain ⟨_, v, _, hother⟩ := h.memberRow m hm
        exact h.members u hu m hm (hold hother howned)
      · intro u hu a ha howned
        obtain ⟨_, v, _, hother⟩ := h.attachmentRow a ha
        exact h.attachments u hu a ha (hold hother howned)
      · intro u hu deviceId hid howned
        obtain ⟨owner, hother⟩ := h.provisionedRow deviceId hid
        exact h.present u hu deviceId hid (hold hother howned)
    · intro m hm
      obtain ⟨hnetwork, u, hu, howned⟩ := h.memberRow m hm
      exact ⟨hnetwork, u, hu, (howns _ _).mpr (.inl howned)⟩
    · intro a ha
      obtain ⟨hnetwork, u, hu, howned⟩ := h.attachmentRow a ha
      exact ⟨hnetwork, u, hu, (howns _ _).mpr (.inl howned)⟩
    · intro userId deviceId howned
      rcases (howns _ _).mp howned with howned | ⟨rfl, _⟩
      · exact h.deviceRow userId deviceId howned
      · exact huser
    · intro deviceId hid
      obtain ⟨userId, howned⟩ := h.provisionedRow deviceId hid
      exact ⟨userId, (howns _ _).mpr (.inl howned)⟩
    · exact h.networkRow
    · exact h.userRow
    · exact fun n hn => (howns _ _).mpr (.inl (h.nodeRow n hn))

theorem Tied.upsertNode (h : Tied provisioned s) {row : Control.Node}
    (howned : s.Owns row.userId row.deviceId) (hwrite : s.upsertNode row = some t) :
    Tied provisioned t := by
  rw [upsertNode_eq_some hwrite]
  refine { h with nodeRow := fun n hn => ?_ }
  rcases (mem_upsertNode hwrite).mp hn with rfl | ⟨hold, _⟩
  · exact howned
  · exact h.nodeRow n hold

/-- A member row in the network that the owner of the device is active in. -/
theorem Tied.createMember (h : Tied provisioned s) {row : NetworkMember} {u : User}
    (hu : u ∈ s.users) (howned : s.Owns u.userId row.deviceId)
    (hactive : row.networkId = u.activeNetworkId) (hnetwork : row.networkId ≠ "")
    (hwrite : s.createMember row = some t) :
    Tied provisioned t ∧ t.IsMember row.networkId row.deviceId := by
  unfold Store.createMember at hwrite
  obtain ⟨members, hinsert, rfl⟩ := Option.map_eq_some_iff.mp hwrite
  have hmem : ∀ m, m ∈ members ↔ m ∈ s.members ∨ m = row := fun _ => Relation.mem_insert hinsert
  refine ⟨{ h with members := ?_, present := ?_, memberRow := ?_ },
    row, (hmem row).mpr (.inr rfl), rfl, rfl⟩
  · intro v hv m hm hother
    rcases (hmem m).mp hm with hold | rfl
    · exact h.members v hv m hold hother
    · rw [user_eq hv hu (owner_eq hother howned)]
      exact hactive
  · intro v hv deviceId hid hother
    obtain ⟨m, hm, hnet, hdevice⟩ := h.present v hv deviceId hid hother
    exact ⟨m, (hmem m).mpr (.inl hm), hnet, hdevice⟩
  · intro m hm
    rcases (hmem m).mp hm with hold | rfl
    · exact h.memberRow m hold
    · exact ⟨hnetwork, u, hu, howned⟩

theorem Tied.createAttachment (h : Tied provisioned s) {row : SubnetAttachment}
    (hmember : s.IsMember row.networkId row.deviceId) (hwrite : s.createAttachment row = some t) :
    Tied provisioned t := by
  unfold Store.createAttachment at hwrite
  obtain ⟨attachments, hinsert, rfl⟩ := Option.map_eq_some_iff.mp hwrite
  obtain ⟨m, hm, hnet, hdevice⟩ := hmember
  have hmem : ∀ a, a ∈ attachments ↔ a ∈ s.attachments ∨ a = row :=
    fun _ => Relation.mem_insert hinsert
  refine { h with attachments := ?_, attachmentRow := ?_ }
  · intro u hu a ha howned
    rcases (hmem a).mp ha with hold | rfl
    · exact h.attachments u hu a hold howned
    · rw [← hnet]
      exact h.members u hu m hm (hdevice ▸ howned)
  · intro a ha
    rcases (hmem a).mp ha with hold | rfl
    · exact h.attachmentRow a hold
    · rw [← hnet, ← hdevice]
      exact h.memberRow m hm

/-- The user is in that network already. -/
theorem Tied.updateUserActiveNetwork (h : Tied provisioned s) {userId networkId : String}
    (hactive : ∀ u ∈ s.users, u.userId = userId → u.activeNetworkId = networkId) :
    Tied provisioned (s.updateUserActiveNetwork userId networkId) := by
  refine h.same ⟨?_, rfl, rfl, rfl, rfl, fun a ha => ⟨a, ha, rfl, rfl⟩⟩
  apply Relation.ext
  unfold Store.updateUserActiveNetwork Relation.alter
  refine (List.map_congr_left fun u hu => ?_).trans (List.map_id _)
  split
  · rename_i hid
    rw [← hactive u hu hid]
    rfl
  · rfl

/-! ### A new network -/

theorem Tied.createNetwork (h : Tied provisioned s) {network : Network} {subnet : Subnet}
    (hnamed : Named network.networkId) {u : User} (hu : u ∈ s.users)
    (howner : u.userId = network.ownerUserId)
    (hwrite : s.createNetworkWithDefaultSubnet network subnet = some t) :
    t = { s with networks := t.networks, subnets := t.subnets } ∧
      (∀ n ∈ s.networks, n.networkId ≠ network.networkId) ∧ network ∈ t.networks ∧
      (u.activeNetworkId ≠ "" → Tied provisioned t) ∧
      (u.activeNetworkId = "" →
        Tied provisioned (t.updateUserActiveNetwork u.userId network.networkId)) := by
  unfold Store.createNetworkWithDefaultSubnet at hwrite
  obtain ⟨networks, hinsert, hwrite⟩ := Option.bind_eq_some_iff.mp hwrite
  obtain ⟨subnets, _, hwrite⟩ := Option.bind_eq_some_iff.mp hwrite
  obtain rfl := Option.some.inj hwrite
  have hmem : ∀ n, n ∈ networks ↔ n ∈ s.networks ∨ n = network :=
    fun _ => Relation.mem_insert hinsert
  refine ⟨rfl, fun n hn hid => Relation.not_clash_of_insert hinsert hn hid,
    (hmem network).mpr (.inr rfl), fun hactive => ?_, fun hactive => ?_⟩
  · refine { h with networkRow := ?_, userRow := ?_ }
    · intro n hn
      rcases (hmem n).mp hn with hold | rfl
      · exact h.networkRow n hold
      · exact ⟨hnamed, u, hu, howner, hactive⟩
    · intro v hv
      exact (h.userRow v hv).imp_right fun ⟨n, hn, hid⟩ => ⟨n, (hmem n).mpr (.inl hn), hid⟩
  · have husers : MovesUser s _ u.userId network.networkId := movesUser_updateUserActiveNetwork
    have hothers : ∀ {deviceId : String}, s.Owns u.userId deviceId →
        (∀ m ∈ s.members, m.deviceId ≠ deviceId) ∧ (∀ a ∈ s.attachments, a.deviceId ≠ deviceId) ∧
          deviceId ∉ provisioned := fun howned => h.idle hu hactive howned
    constructor
    · constructor
      · intro v hv m hm howned
        rcases husers.cases hv with ⟨hid, _⟩ | ⟨_, hold⟩
        · exact absurd rfl ((hothers (hid ▸ howned)).1 m hm)
        · exact h.members v hold m hm howned
      · intro v hv a ha howned
        rcases husers.cases hv with ⟨hid, _⟩ | ⟨_, hold⟩
        · exact absurd rfl ((hothers (hid ▸ howned)).2.1 a ha)
        · exact h.attachments v hold a ha howned
      · intro v hv deviceId hid howned
        rcases husers.cases hv with ⟨hsame, _⟩ | ⟨_, hold⟩
        · exact absurd hid (hothers (hsame ▸ howned)).2.2
        · exact h.present v hold deviceId hid howned
    · intro m hm
      obtain ⟨hnetwork, v, hv, howned⟩ := h.memberRow m hm
      obtain ⟨w, hw, hid, _⟩ := husers.exists_user hnamed.1 hv
      exact ⟨hnetwork, w, hw, hid ▸ howned⟩
    · intro a ha
      obtain ⟨hnetwork, v, hv, howned⟩ := h.attachmentRow a ha
      obtain ⟨w, hw, hid, _⟩ := husers.exists_user hnamed.1 hv
      exact ⟨hnetwork, w, hw, hid ▸ howned⟩
    · intro userId deviceId howned
      obtain ⟨v, hv, hid⟩ := h.deviceRow userId deviceId howned
      obtain ⟨w, hw, hsame, _⟩ := husers.exists_user hnamed.1 hv
      exact ⟨w, hw, hsame.trans hid⟩
    · exact h.provisionedRow
    · intro n hn
      rcases (hmem n).mp hn with hold | rfl
      · obtain ⟨hname, v, hv, hid, hne⟩ := h.networkRow n hold
        obtain ⟨w, hw, hsame, hkeeps⟩ := husers.exists_user hnamed.1 hv
        exact ⟨hname, w, hw, hsame.trans hid, hkeeps (.inl hne)⟩
      · obtain ⟨w, hw, hsame, hkeeps⟩ := husers.exists_user hnamed.1 hu
        exact ⟨hnamed, w, hw, hsame.trans howner, hkeeps (.inr rfl)⟩
    · intro v hv
      rcases husers.cases hv with ⟨_, hnet, _⟩ | ⟨_, hold⟩
      · exact .inr ⟨network, (hmem network).mpr (.inr rfl), hnet.symm⟩
      · exact (h.userRow v hold).imp_right fun ⟨n, hn, hid⟩ => ⟨n, (hmem n).mpr (.inl hn), hid⟩
    · exact h.nodeRow

/-! ### A user who moves -/

/-- A user may move who is there already, or whose other devices are nowhere. -/
theorem Tied.joined (h : Tied provisioned s) {userId deviceId networkId : String}
    (hjoined : Joined s t userId deviceId networkId) (howned : s.Owns userId deviceId)
    (hnetwork : ∃ n ∈ s.networks, n.networkId = networkId)
    (hmoves : s.MovesAll userId deviceId networkId) : Tied provisioned t := by
  obtain ⟨network, hmem, rfl⟩ := hnetwork
  obtain ⟨⟨hne, _⟩, _⟩ := h.networkRow network hmem
  have howns : ∀ userId deviceId, t.Owns userId deviceId ↔ s.Owns userId deviceId := by
    intro userId deviceId
    unfold Store.Owns
    rw [hjoined.devices]
  have hmember : ∀ u ∈ t.users, ∀ m ∈ t.members, t.Owns u.userId m.deviceId →
      m.networkId = u.activeNetworkId := by
    intro u hu m hm hother
    rw [howns] at hother
    rcases hjoined.users.cases hu with ⟨hid, hactive, _⟩ | ⟨hid, hold⟩
    · rw [hactive]
      rcases hjoined.members m hm with ⟨_, hkept⟩ | ⟨hnet, _⟩
      · exact hkept (hid ▸ hother)
      · exact hnet
    · rcases hjoined.members m hm with ⟨hold', _⟩ | ⟨_, hdevice⟩
      · exact h.members u hold m hold' hother
      · exact absurd (owner_eq hother (hdevice ▸ howned)) hid
  constructor
  · constructor
    · exact hmember
    · intro u hu a ha hother
      rw [howns] at hother
      obtain ⟨hold', hkept⟩ := hjoined.attachments a ha
      rcases hjoined.users.cases hu with ⟨hid, hactive, _⟩ | ⟨_, hold⟩
      · rw [hactive]
        exact hkept (hid ▸ hother)
      · exact h.attachments u hold a hold' hother
    · intro u hu other hprovisioned hother
      rw [howns] at hother
      rcases hjoined.users.cases hu with ⟨hid, hactive, v, hv, hvid⟩ | ⟨hid, hold⟩
      · rw [hactive]
        rw [hid] at hother
        obtain ⟨m, hm, hnet, hdevice⟩ := h.present v hv other hprovisioned (hvid ▸ hother)
        rcases hmoves with ⟨v', hv', hvid', hin⟩ | hsole
        · obtain rfl := user_eq hv hv' (hvid.trans hvid'.symm)
          exact ⟨m, hjoined.kept m hm fun _ => hnet.trans hin, hnet.trans hin, hdevice⟩
        · have hsame : other = deviceId := hdevice ▸ hsole m hm (hdevice ▸ hother)
          rw [hsame]
          exact hjoined.joined
      · obtain ⟨m, hm, hnet, hdevice⟩ := h.present u hold other hprovisioned hother
        refine ⟨m, hjoined.kept m hm fun hmine => ?_, hnet, hdevice⟩
        exact absurd (owner_eq (hdevice ▸ hother) hmine) hid
  · intro m hm
    have hrow : m.networkId ≠ "" ∧ ∃ u ∈ s.users, s.Owns u.userId m.deviceId := by
      rcases hjoined.members m hm with ⟨hold, _⟩ | ⟨hnet, hdevice⟩
      · exact h.memberRow m hold
      · obtain ⟨u, hu, hid⟩ := h.deviceRow userId deviceId howned
        exact ⟨hnet ▸ hne, u, hu, hid ▸ hdevice ▸ howned⟩
    obtain ⟨hnet, v, hv, hother⟩ := hrow
    obtain ⟨w, hw, hid, _⟩ := hjoined.users.exists_user hne hv
    exact ⟨hnet, w, hw, (howns _ _).mpr (hid ▸ hother)⟩
  · intro a ha
    obtain ⟨hnet, v, hv, hother⟩ := h.attachmentRow a (hjoined.attachments a ha).1
    obtain ⟨w, hw, hid, _⟩ := hjoined.users.exists_user hne hv
    exact ⟨hnet, w, hw, (howns _ _).mpr (hid ▸ hother)⟩
  · intro ownerId other hother
    obtain ⟨v, hv, hid⟩ := h.deviceRow ownerId other ((howns _ _).mp hother)
    obtain ⟨w, hw, hsame, _⟩ := hjoined.users.exists_user hne hv
    exact ⟨w, hw, hsame.trans hid⟩
  · intro other hprovisioned
    obtain ⟨ownerId, hother⟩ := h.provisionedRow other hprovisioned
    exact ⟨ownerId, (howns _ _).mpr hother⟩
  · intro n hn
    rw [hjoined.networks] at hn
    obtain ⟨hname, v, hv, hid, hactive⟩ := h.networkRow n hn
    obtain ⟨w, hw, hsame, hkeeps⟩ := hjoined.users.exists_user hne hv
    exact ⟨hname, w, hw, hsame.trans hid, hkeeps (.inl hactive)⟩
  · intro u hu
    rw [hjoined.networks]
    rcases hjoined.users.cases hu with ⟨_, hactive, _⟩ | ⟨_, hold⟩
    · exact .inr ⟨network, hmem, hactive.symm⟩
    · exact h.userRow u hold
  · intro n hn
    rw [hjoined.nodes] at hn
    exact (howns _ _).mpr (h.nodeRow n hn)

/-- A user who may not move leaves a device behind. -/
theorem Tied.not_settled_of_joined (h : Tied provisioned s)
    {userId deviceId networkId : String} (hjoined : Joined s t userId deviceId networkId)
    (howned : s.Owns userId deviceId) (hmoves : ¬s.MovesAll userId deviceId networkId)
    (hprovisioned : ∀ m ∈ s.members, m.deviceId ∈ provisioned) :
    ∃ u ∈ t.users, ∃ other ∈ provisioned, t.Owns u.userId other ∧
      ∀ m ∈ t.members, m.deviceId ≠ other := by
  unfold Store.MovesAll at hmoves
  push Not at hmoves
  obtain ⟨haway, m, hm, hmine, hother⟩ := hmoves
  obtain ⟨v, hv, rfl⟩ := h.deviceRow userId deviceId howned
  have hwhere := h.members v hv m hm hmine
  have haway' : v.activeNetworkId ≠ networkId := haway v hv rfl
  have hw := (hjoined.users _).mpr ⟨v, hv, rfl⟩
  rw [if_pos rfl] at hw
  refine ⟨_, hw, m.deviceId, hprovisioned m hm, ?_, ?_⟩
  · unfold Store.Owns
    rw [hjoined.devices]
    exact hmine
  · intro m' hm' hdevice
    rcases hjoined.members m' hm' with ⟨hold, hkept⟩ | ⟨_, hdevice'⟩
    · rw [hdevice] at hkept
      exact haway' ((h.members v hv m' hold (hdevice ▸ hmine)).symm.trans (hkept hmine))
    · exact hother (hdevice.symm.trans hdevice')

end Writes

/-! ## The calls -/

section Calls

variable {provisioned : List String}

theorem named_newId (kind : String) (random : HexText)
    (hkind : ∀ c ∈ kind.toList, Text.isSpace c = false) : Named (newId kind random) := by
  have hchars : ∀ c ∈ (newId kind random).toList, Text.isSpace c = false := by
    intro c hc
    simp only [newId, String.toList_append, List.mem_append] at hc
    rcases hc with (hc | hc) | hc
    · exact hkind c hc
    · rw [show "-".toList = ['-'] from rfl, List.mem_singleton] at hc
      subst hc
      rfl
    · exact Netip.isSpace_of_isHexDigit (List.all_eq_true.mp random.2 c hc)
  refine ⟨fun hempty => ?_, Text.trim_of_forall_not hchars⟩
  have hlength := congrArg String.length hempty
  simp [newId] at hlength

theorem named_newId_net (random : HexText) : Named (newId "net" random) :=
  named_newId "net" random (by simp [Text.isSpace])

theorem Tied.active_named {s : Store} (h : Tied provisioned s) {u : User} (hu : u ∈ s.users) :
    u.activeNetworkId = "" ∨ Named u.activeNetworkId := by
  rcases h.userRow u hu with hidle | ⟨n, hn, hid⟩
  · exact .inl hidle
  · exact .inr (hid ▸ (h.networkRow n hn).1)

theorem triple_ensureMember (provisioned : List String) (fresh : Fresh)
    (networkId deviceId : String) (role : MemberRole) :
    Triple (fun s => Tied provisioned s ∧ networkId ≠ "" ∧ ∃ u ∈ s.users,
        s.Owns u.userId deviceId ∧ networkId = u.activeNetworkId)
      (ensureMember fresh networkId deviceId role)
      (fun _ s => Tied provisioned s ∧ s.IsMember networkId deviceId)
      fun _ => Tied provisioned := by
  refine .bind (R := fun found s => (Tied provisioned s ∧ networkId ≠ "" ∧ ∃ u ∈ s.users,
      s.Owns u.userId deviceId ∧ networkId = u.activeNetworkId) ∧
      ∀ m, found = some m → s.IsMember networkId deviceId)
    (.query fun s hs => ⟨hs, fun m hm => ?_⟩) fun found => ?_
  · exact ⟨m, memberByNetworkDevice_eq_some hm⟩
  · cases found with
    | some m => exact .pure fun s hs => ⟨hs.1.1, hs.2 m rfl⟩
    | none =>
      refine .bind (R := fun _ s => Tied provisioned s ∧ s.IsMember networkId deviceId)
        (.execOr (fun s hs t hwrite => ?_) fun s hs _ => hs.1.1) fun _ => .pure fun s hs => hs
      obtain ⟨⟨htied, hne, u, hu, howned, hactive⟩, _⟩ := hs
      exact htied.createMember hu howned hactive hne hwrite

theorem triple_ensureAttachment_tied (provisioned : List String) (fresh : Fresh)
    (networkId subnetId deviceId : String) :
    Triple (fun s => Tied provisioned s ∧ s.IsMember networkId deviceId)
      (ensureAttachment fresh networkId subnetId deviceId) (fun _ => Tied provisioned)
      fun _ => Tied provisioned := by
  let P : Store → Prop := fun s => Tied provisioned s ∧ s.IsMember networkId deviceId
  have hreads : ∀ {α : Type} {p : Call α}, Each Program.Reads p →
      Triple P p (fun _ => P) fun _ => Tied provisioned :=
    fun h => h.triple (fun s _ hs _ => hs) fun s _ hs => hs.1
  have hq : Program.Reads (fun _ : Store => ([] : List KeyEvent)) id := Program.reads_query
  refine .bind (R := fun _ => P) (hreads (.query hq _)) fun found => ?_
  cases found with
  | some attachment => exact .pure fun s hs => hs.1
  | none =>
    refine .bind (R := fun _ => P) (hreads (each_lookupOr hq _ _)) fun subnet => ?_
    refine .bind (R := fun _ => P) (hreads (each_allocateIp hq subnet)) fun allocated => ?_
    refine .bind (R := fun _ => P) (hreads (.query hq _)) fun member => ?_
    refine .bind (R := fun _ => P) (hreads (each_ownerPreference hq subnet member))
      fun preferred => ?_
    exact .bind (R := fun _ => Tied provisioned)
      (.execOr (fun s hs t hwrite => hs.1.createAttachment hs.2 hwrite) fun s hs _ => hs.1)
      fun _ => .pure fun s hs => hs

theorem owns_of_deviceById {s : Store} {userId deviceId : String}
    (h : ∃ device, s.deviceById deviceId = some device ∧ device.userId = userId) :
    s.Owns userId deviceId := by
  obtain ⟨device, hfound, howner⟩ := h
  obtain ⟨hmem, hid⟩ := deviceById_eq_some hfound
  exact ⟨device, hmem, howner, hid⟩

/-- A statement that changes no user and no device. -/
def KeepsPeople (_ : Store → List KeyEvent) (write : Store → Store) : Prop :=
  ∀ s, (write s).users = s.users ∧ (write s).devices = s.devices

theorem keeps_of_keepsPeople {α : Type} {p : Call α} (h : Each KeepsPeople p)
    {P : Store → Prop} (hP : ∀ s t : Store, t.users = s.users → t.devices = s.devices → P s → P t) :
    Keeps P p :=
  (h.mono fun _ write hsame s (hs : P s) => hP s (write s) (hsame s).1 (hsame s).2 hs).keeps

theorem keepsPeople_createMember (row : NetworkMember) :
    KeepsPeople (fun _ => []) fun s => (s.createMember row).getD s := by
  intro s
  dsimp only
  unfold Store.createMember
  cases s.members.insert row <;> exact ⟨rfl, rfl⟩

section Create

variable {provisioned : List String} {userId deviceId : String} {idle : Prop} {user : User}
  {network : Network} {subnet : Subnet}

/-- A network that is to be written for a user, who owns the device that is to be bound to it. -/
structure ToWrite (provisioned : List String) (userId deviceId : String) (idle : Prop)
    (owner : User) (network : Network) (s : Store) : Prop where
  tied : Tied provisioned s
  named : Named network.networkId
  mem : owner ∈ s.users
  isOwner : owner.userId = userId
  owned : network.ownerUserId = userId
  bound : deviceId ≠ "" → s.Owns userId deviceId
  blank : idle → owner.activeNetworkId = ""

/-- The network is written, which is in order if its owner moves to it or is not idle. -/
structure IsWritten (provisioned : List String) (userId deviceId : String) (idle : Prop)
    (owner : User) (network : Network) (s : Store) : Prop where
  named : Named network.networkId
  mem : owner ∈ s.users
  isOwner : owner.userId = userId
  active : owner.activeNetworkId = "" ∨ Named owner.activeNetworkId
  busy : owner.activeNetworkId ≠ "" → Tied provisioned s
  moving : owner.activeNetworkId = "" →
    Tied provisioned (s.updateUserActiveNetwork userId network.networkId)
  bound : deviceId ≠ "" → s.Owns userId deviceId
  blank : idle → owner.activeNetworkId = ""

def InNetwork (userId networkId : String) (s : Store) : Prop :=
  ∃ u ∈ s.users, u.userId = userId ∧ u.activeNetworkId = networkId

structure IsEntered (provisioned : List String) (userId deviceId : String) (idle : Prop)
    (network : Network) (s : Store) : Prop where
  tied : Tied provisioned s
  named : Named network.networkId
  bound : deviceId ≠ "" → s.Owns userId deviceId
  inside : idle → InNetwork userId network.networkId s

theorem ToWrite.of_prepared {fresh : Fresh} {req : CreateNetworkRequest} {s : Store}
    {prepared : User × Network × Subnet} (htied : Tied provisioned s)
    (hidle : idle → ∀ prepared ∈ ((prepareNetwork fresh userId req).run s).1.toOption,
      prepared.1.activeNetworkId = "")
    (hrun : (prepareNetwork fresh userId req).run s = (.ok prepared, s)) :
    ToWrite provisioned userId (Text.trim req.bindDeviceId) idle prepared.1 prepared.2.1 s := by
  obtain ⟨user, network, subnet⟩ := prepared
  obtain ⟨_, hdevice, huser, hnetwork, howner, _⟩ := run_prepareNetwork_eq_ok hrun
  obtain ⟨hmem, hid⟩ := userById_eq_some huser
  refine ⟨htied, hnetwork ▸ named_newId_net fresh.network, hmem, hid, howner,
    fun hne => owns_of_deviceById (hdevice hne), fun h => hidle h (user, network, subnet) ?_⟩
  rw [hrun]
  rfl

theorem ToWrite.written (h : ToWrite provisioned userId deviceId idle user network s)
    (hwrite : s.createNetworkWithDefaultSubnet network subnet = some t) :
    IsWritten provisioned userId deviceId idle user network t := by
  obtain ⟨ht, _, _, hbusy, hmoving⟩ :=
    h.tied.createNetwork h.named h.mem (h.isOwner.trans h.owned.symm) hwrite
  rw [h.isOwner] at hmoving
  refine ⟨h.named, ?_, h.isOwner, h.tied.active_named h.mem, hbusy, hmoving, fun hne => ?_,
    h.blank⟩
  · rw [ht]
    exact h.mem
  · rw [ht]
    exact h.bound hne

/-- An owner without an active network moves to the new one. -/
theorem triple_moveIdle :
    Triple (IsWritten provisioned userId deviceId idle user network)
      (onlyIf (Text.isBlank user.activeNetworkId)
        (Program.exec fun s => s.updateUserActiveNetwork userId network.networkId) : Call Unit)
      (fun _ => IsEntered provisioned userId deviceId idle network) fun _ => Tied provisioned := by
  have hblank : ∀ s, IsWritten provisioned userId deviceId idle user network s →
      (Text.isBlank user.activeNetworkId = true ↔ user.activeNetworkId = "") := by
    intro s hs
    rcases hs.active with hempty | ⟨hne, htrim⟩
    · exact iff_of_true (hempty ▸ rfl) hempty
    · rw [← Text.trim_eq_empty_iff, htrim]
  unfold onlyIf
  split
  · rename_i hb
    refine .exec fun s hs => ?_
    have hempty := (hblank s hs).mp hb
    refine ⟨hs.moving hempty, hs.named, hs.bound, fun _ => ?_⟩
    have hmoves : MovesUser s _ userId network.networkId := movesUser_updateUserActiveNetwork
    have hmoved := (hmoves _).mpr ⟨user, hs.mem, rfl⟩
    rw [if_pos hs.isOwner] at hmoved
    exact ⟨_, hmoved, hs.isOwner, rfl⟩
  · rename_i hb
    refine .pure fun s hs => ?_
    have hne : user.activeNetworkId ≠ "" := fun h => hb ((hblank s hs).mpr h)
    exact ⟨hs.busy hne, hs.named, hs.bound, fun h => absurd (hs.blank h) hne⟩

/-- A device is bound to the network that its owner has entered. -/
theorem triple_bindDevice (fresh : Fresh) (hbound : deviceId ≠ "" → idle) :
    Triple (IsEntered provisioned userId deviceId idle network)
      (onlyIf (deviceId != "") do
        let _ ← ensureMember fresh network.networkId deviceId .owner : Call Unit)
      (fun _ s => Tied provisioned s ∧ Named network.networkId ∧
        (idle → InNetwork userId network.networkId s)) fun _ => Tied provisioned := by
  unfold onlyIf
  split
  · rename_i hb
    have hne := bne_iff_ne.mp hb
    have hstays : Keeps (fun s => Named network.networkId ∧ InNetwork userId network.networkId s)
        (ensureMember fresh network.networkId deviceId .owner) :=
      keeps_of_keepsPeople (each_ensureMember (fun _ => ⟨rfl, rfl⟩) keepsPeople_createMember fresh
        _ _ _) fun s t husers _ hs => by
          unfold InNetwork
          rwa [husers]
    have hmember := (triple_ensureMember provisioned fresh network.networkId deviceId .owner).and
      hstays.triple
    refine .bind (hmember.imp (fun s hs => ?_) (fun _ _ hs => hs) fun _ s hs => hs.1) fun _ =>
      .pure fun s hs => ⟨hs.1.1, hs.2.1, fun _ => hs.2.2⟩
    obtain ⟨u, hu, hid, hactive⟩ := hs.inside (hbound hne)
    exact ⟨⟨hs.tied, hs.named.1, u, hu, hid ▸ hs.bound hne, hactive.symm⟩, hs.named, u, hu, hid,
      hactive⟩
  · exact .pure fun s hs => ⟨hs.tied, hs.named, hs.inside⟩

/-- A network is created; where a device is bound to it, or the user is known to be idle, it becomes
the user's active one. -/
theorem triple_create (provisioned : List String) (fresh : Fresh) (userId : String)
    (req : CreateNetworkRequest) {idle : Prop} (hbound : Text.trim req.bindDeviceId ≠ "" → idle) :
    Triple (fun s => Tied provisioned s ∧ (idle →
        ∀ prepared ∈ ((prepareNetwork fresh userId req).run s).1.toOption,
          prepared.1.activeNetworkId = ""))
      (create fresh userId req)
      (fun network s => Tied provisioned s ∧ (idle → network.networkId ≠ "" ∧
        ∃ u ∈ s.users, u.userId = userId ∧ u.activeNetworkId = network.networkId))
      fun _ => Tied provisioned := by
  refine .bind (R := fun prepared => ToWrite provisioned userId (Text.trim req.bindDeviceId) idle
      prepared.1 prepared.2.1)
    ((each_prepareNetwork Program.reads_query fresh userId req).triple
      (fun s _ hs hrun => .of_prepared hs.1 hs.2 hrun) fun s _ hs => hs.1) fun prepared => ?_
  obtain ⟨user, network, subnet⟩ := prepared
  refine .bind (R := fun _ => IsWritten provisioned userId (Text.trim req.bindDeviceId) idle user
      network)
    (.execOr (fun s hs t hwrite => hs.written hwrite) fun s hs _ => hs.tied) fun _ => ?_
  refine .bind triple_moveIdle fun _ => ?_
  refine .bind (triple_bindDevice fresh hbound) fun _ => ?_
  exact .pure fun s hs => ⟨hs.1, fun h => ⟨hs.2.1.1, hs.2.2 h⟩⟩

end Create

/-- The network that registration makes; no device is bound to it. -/
theorem triple_ensureOwnedNetwork (fresh : Fresh) (userId : String) (idle : Prop) :
    Triple (fun s => Tied provisioned s ∧
        (idle → ∀ u ∈ s.users, u.userId = userId → u.activeNetworkId = ""))
      (ensureOwnedNetwork fresh userId)
      (fun network s => Tied provisioned s ∧ (idle → network.networkId ≠ "" ∧
        ∃ u ∈ s.users, u.userId = userId ∧ u.activeNetworkId = network.networkId))
      fun _ => Tied provisioned := by
  refine .bind (R := fun existing s => (Tied provisioned s ∧
      (idle → ∀ u ∈ s.users, u.userId = userId → u.activeNetworkId = "")) ∧
      ∀ n, existing = some n → n ∈ s.networks ∧ n.ownerUserId = userId)
    (.query fun s hs => ⟨hs, fun n hn => ?_⟩) fun existing => ?_
  · obtain ⟨hmem, hchosen⟩ := Relation.mem_of_firstBy hn
    exact ⟨hmem, beq_iff_eq.mp hchosen⟩
  cases existing with
  | some network =>
    refine .pure fun s hs => ⟨hs.1.1, fun h => ?_⟩
    -- who owns a network is active in one
    obtain ⟨⟨htied, hidle⟩, hfound⟩ := hs
    obtain ⟨hmem, howner⟩ := hfound network rfl
    obtain ⟨_, u, hu, hid, hactive⟩ := htied.networkRow network hmem
    exact absurd (hidle h u hu (hid.trans howner)) hactive
  | none =>
    refine (triple_create provisioned fresh userId ⟨"My Network", "", "10.0.0.0/16", ""⟩
      (fun hne => absurd (by decide) hne)).imp (fun s hs => ⟨hs.1.1, fun h prepared hmem => ?_⟩)
      (fun _ _ hs => hs) fun _ _ hs => hs
    cases hrun : (prepareNetwork fresh userId ⟨"My Network", "", "10.0.0.0/16", ""⟩).run s with
    | mk result t =>
      rw [hrun] at hmem
      cases result with
      | error err => cases hmem
      | ok found =>
        obtain ⟨user, network, subnet⟩ := found
        obtain rfl := Option.some.inj hmem
        obtain ⟨_, _, huser, _⟩ := run_prepareNetwork_eq_ok hrun
        obtain ⟨hmem, hid⟩ := userById_eq_some huser
        exact hs.1.2 h user hmem hid

theorem keeps_registerUser (fresh : Fresh) (email password : String) :
    Keeps (Tied provisioned) (registerUser fresh email password) := by
  unfold registerUser
  split
  · exact .fail _
  · refine Keeps.bind (.query _) fun existing => ?_
    split
    · exact .fail _
    · dsimp only
      refine Keeps.bind ?_ fun _ => Keeps.bind ?_ fun _ => .pure ()
      · exact (Triple.execOr (Q := fun _ => Tied provisioned) (E := fun _ => Tied provisioned)
          (fun s hs t hwrite => (hs.createUser hwrite).1) fun s hs _ => hs).keeps
          (fun _ _ hs => hs) fun _ _ hs => hs
      · exact ((triple_ensureOwnedNetwork fresh _ False).imp
          (fun s hs => ⟨hs, False.elim⟩) (fun _ _ hs => hs) fun _ _ hs => hs).keeps
          (fun _ _ hs => hs.1) fun _ _ hs => hs

/-- A device is provisioned into the network that its user is active in. -/
theorem triple_provisionedNetwork (fresh : Fresh) (userId : String) :
    Triple (Tied provisioned) (provisionedNetwork fresh userId)
      (fun record s => Tied provisioned s ∧ record.networkId ≠ "" ∧
        ∃ u ∈ s.users, u.userId = userId ∧ u.activeNetworkId = record.networkId)
      fun _ => Tied provisioned := by
  refine .bind (R := fun user s => Tied provisioned s ∧ user ∈ s.users ∧ user.userId = userId)
    ((each_lookupOr Program.reads_query _ _).triple (fun s user hs hrun => ?_) fun s _ hs => hs)
    fun user => ?_
  · exact ⟨hs, userById_eq_some (run_lookupOr_eq_ok.mp hrun).1⟩
  dsimp only
  split
  · rename_i hblank
    refine .bind (R := fun owned s => Tied provisioned s ∧ owned.networkId ≠ "" ∧
        ∃ u ∈ s.users, u.userId = userId ∧ u.activeNetworkId = owned.networkId)
      ((triple_ensureOwnedNetwork fresh userId True).imp (fun s hs => ?_)
        (fun _ s hs => ⟨hs.1, hs.2 trivial⟩) fun _ _ hs => hs) fun owned => ?_
    · obtain ⟨htied, hmem, hid⟩ := hs
      have hactive : user.activeNetworkId = "" := by
        rcases htied.active_named hmem with hidle | ⟨hne, htrim⟩
        · exact hidle
        · exact absurd (htrim.symm.trans hblank) hne
      refine ⟨htied, fun _ u hu hsame => ?_⟩
      rw [user_eq hu hmem (hsame.trans hid.symm)]
      exact hactive
    · refine (each_lookupOr Program.reads_query _ _).triple (fun s record hs hrun => ?_)
        fun s _ hs => hs.1
      obtain ⟨_, hid⟩ := networkById_eq_some (run_lookup_eq_ok.mp hrun).1
      rw [hid]
      exact hs
  · rename_i hnamed
    refine (each_lookupOr Program.reads_query _ _).triple (fun s record hs hrun => ?_)
      fun s _ hs => hs.1
    obtain ⟨htied, hmem, hid⟩ := hs
    obtain ⟨_, hnetwork⟩ := networkById_eq_some (run_lookup_eq_ok.mp hrun).1
    have htrim : Text.trim user.activeNetworkId = user.activeNetworkId := by
      rcases htied.active_named hmem with hidle | ⟨_, htrim⟩
      · exact absurd (by rw [hidle]; decide) hnamed
      · exact htrim
    rw [hnetwork, htrim]
    rw [htrim] at hnamed
    exact ⟨htied, hnamed, user, hmem, hid, rfl⟩

theorem keepsPeople_provisionedNetwork (fresh : Fresh) (userId userId' deviceId : String) :
    Keeps (fun s : Store => s.Owns userId' deviceId) (provisionedNetwork fresh userId) := by
  let S : (Store → List KeyEvent) → (Store → Store) → Prop := fun _ write =>
    ∀ s, (write s).devices = s.devices
  have hmoves : MovesDevices S :=
    ⟨fun _ => rfl, fun _ _ _ => rfl, fun _ _ _ => rfl, fun _ _ _ => rfl, fun _ _ _ => rfl,
      fun row s => (keepsPeople_createMember row s).2⟩
  have heach : Each S (provisionedNetwork fresh userId) :=
    hmoves.provisionedNetwork (fun network subnet s => by
      dsimp only
      unfold Store.createNetworkWithDefaultSubnet
      cases s.networks.insert network with
      | none => rfl
      | some networks => cases s.subnets.insert subnet <;> rfl) fresh userId
  refine (heach.mono fun _ write hsame (s : Store) (hs : s.Owns userId' deviceId) => ?_).keeps
  unfold Store.Owns
  rwa [hsame s]

theorem keeps_registerDevice_tied (fresh : Fresh) (userId : String)
    (req : RegisterDeviceRequest) :
    Keeps (Tied provisioned) (registerDevice fresh userId req) := by
  have hq : Program.Reads (fun _ : Store => ([] : List KeyEvent)) id := Program.reads_query
  have hchecked : Each Program.Reads (requireRegisterDeviceRequest req) := by
    unfold requireRegisterDeviceRequest
    split
    · exact .fail _
    · exact .pure ()
  refine Triple.keeps (Q := fun _ => Tied provisioned) (E := fun _ => Tied provisioned) ?_
    (fun _ _ hs => hs) fun _ _ hs => hs
  refine .bind (R := fun _ => Tied provisioned) hchecked.keeps_of_reads.triple fun _ => ?_
  refine .bind (R := fun _ s => Tied provisioned s ∧ ∃ u ∈ s.users, u.userId = userId)
    ((each_lookupOr hq _ _).triple (fun s user hs hrun => ⟨hs, user, ?_⟩) fun s _ hs => hs)
    fun user => ?_
  · exact userById_eq_some (run_lookupOr_eq_ok.mp hrun).1
  refine .bind (R := fun record s => Tied provisioned s ∧ s.Owns userId record.deviceId)
    ?_ fun record => ?_
  · refine .bind (R := fun _ => Tied provisioned)
      (.execOr (fun s hs t hwrite => hs.1.upsertDevice hs.2 hwrite) fun s hs _ => hs.1) fun _ => ?_
    refine (each_lookupOr hq _ _).triple (fun s record hs hrun => ⟨hs, record, ?_⟩) fun s _ hs => hs
    obtain ⟨hmem, howner, _⟩ := deviceByUserMachine_eq_some (run_lookup_eq_ok.mp hrun).1
    exact ⟨hmem, howner, rfl⟩
  refine .bind (R := fun _ => Tied provisioned) ?_ fun _ => .pure fun s hs => hs
  unfold ensureDeviceProvisionedInActiveNetwork
  split
  · exact .pure fun s hs => hs.1
  refine .bind (((triple_provisionedNetwork fresh userId).and
    (keepsPeople_provisionedNetwork fresh userId userId record.deviceId).triple).imp
    (fun _ hs => hs) (fun _ _ hs => hs) fun _ _ hs => hs.1) fun network => ?_
  refine .bind (R := fun _ s => Tied provisioned s ∧ network.networkId ≠ "" ∧ ∃ u ∈ s.users,
      s.Owns u.userId record.deviceId ∧ network.networkId = u.activeNetworkId)
    ((each_membershipRole hq _ _ _ _).triple (fun s role hs _ => ?_) fun s _ hs => hs.1.1)
    fun role => ?_
  · obtain ⟨⟨htied, hne, u, hu, hid, hactive⟩, howned⟩ := hs
    exact ⟨htied, hne, u, hu, hid ▸ howned, hactive.symm⟩
  refine .bind (triple_ensureMember provisioned fresh network.networkId record.deviceId role)
    fun _ => ?_
  exact .bind (triple_ensureAttachment_tied provisioned fresh network.networkId
    network.defaultSubnetId record.deviceId) fun _ => .pure fun s hs => hs

theorem keeps_attachDevice_tied (fresh : Fresh) (userId networkId subnetId deviceId : String) :
    Keeps (Tied provisioned) (attachDevice fresh userId networkId subnetId deviceId) := by
  have hq : Program.Reads (fun _ : Store => ([] : List KeyEvent)) id := Program.reads_query
  refine (each_requireDeviceId deviceId).keeps_of_reads.bind fun _ => ?_
  refine (each_ensureNetworkAccess hq userId networkId).keeps_of_reads.bind fun _ => ?_
  refine (each_ensureDeviceOwner hq userId deviceId).keeps_of_reads.bind fun _ => ?_
  refine (each_lookupOr hq _ _).keeps_of_reads.bind fun subnet => ?_
  split
  · exact .fail _
  · refine Triple.keeps (Q := fun _ => Tied provisioned) (E := fun _ => Tied provisioned) ?_
      (fun _ _ hs => hs) fun _ _ hs => hs
    refine .bind (R := fun _ s => Tied provisioned s ∧ s.IsMember networkId deviceId)
      ((each_lookupOr hq _ _).triple (fun s member hs hrun => ⟨hs, member, ?_⟩) fun s _ hs => hs)
      fun _ => triple_ensureAttachment_tied provisioned fresh networkId subnetId deviceId
    exact memberByNetworkDevice_eq_some (run_lookupOr_eq_ok.mp hrun).1

theorem keeps_registerNode (userId : String) (req : Control.Directory.RegisterNodeRequest) :
    Keeps (Tied provisioned) (registerNode userId req) := by
  have hq : Program.Reads (fun _ : Store => ([] : List KeyEvent)) id := Program.reads_query
  refine Keeps.bind (Each.keeps_of_reads (each_checked _)) fun _ => ?_
  refine Triple.keeps (Q := fun _ => Tied provisioned) (E := fun _ => Tied provisioned) ?_
    (fun _ _ hs => hs) fun _ _ hs => hs
  refine .bind (R := fun _ s => Tied provisioned s ∧ s.Owns userId req.deviceId)
    ((each_ensureDeviceOwner hq userId req.deviceId).triple (fun s _ hs hrun => ⟨hs, ?_⟩)
      fun s _ hs => hs) fun _ => ?_
  · exact owns_of_deviceById (run_ensureDeviceOwner_eq_ok.mp hrun).1
  · exact .execOr (fun s hs t hwrite => hs.1.upsertNode hs.2 hwrite) fun s hs _ => hs.1

/-- The device of the node is a member of the network, so its user is active there. -/
theorem keeps_bootstrap (fresh : Fresh) (session : Control.FreshSession)
    (userId nodeId networkId : String) :
    Keeps (Tied provisioned) (bootstrap fresh session userId nodeId networkId) := by
  have hq : Program.Reads (fun _ : Store => ([] : List KeyEvent)) id := Program.reads_query
  let Active : Store → Prop := fun s =>
    Tied provisioned s ∧ ∀ u ∈ s.users, u.userId = userId → u.activeNetworkId = networkId
  refine Triple.keeps (Q := fun _ => Tied provisioned) (E := fun _ => Tied provisioned) ?_
    (fun _ _ hs => hs) fun _ _ hs => hs
  refine .bind (R := fun _ => Active) ((each_requireNodeSession hq userId nodeId networkId).triple
    (fun s node hs hrun => ⟨hs, fun u hu hid => ?_⟩) fun s _ hs => hs) fun node => ?_
  · obtain ⟨⟨hnode, howner⟩, member, hfound⟩ := run_requireNodeSession_eq_ok hrun
    obtain ⟨hmem, hnetwork, hdevice⟩ := memberByNetworkDevice_eq_some hfound
    have howned := hs.nodeRow node (nodeById_eq_some hnode).1
    rw [← hnetwork]
    refine (hs.members u hu member hmem ?_).symm
    rw [hid, hdevice, ← howner]
    exact howned
  refine .bind (R := fun _ => Active) ((each_lookupOr hq _ _).triple (fun s _ hs _ => hs)
    fun s _ hs => hs.1) fun _ => ?_
  refine .bind (R := fun _ => Active) (.exec fun s hs => ⟨?_, hs.2⟩) fun _ => ?_
  · exact hs.1.same ⟨rfl, rfl, rfl, rfl, rfl, fun a ha => ⟨a, ha, rfl, rfl⟩⟩
  · exact .exec fun s hs => hs.1.updateUserActiveNetwork hs.2

end Calls

/-! ## Moves -/

/-- A device of a user that was provisioned is a member nowhere. -/
def Abandons (provisioned : List String) (s : Store) : Prop :=
  ∃ u ∈ s.users, ∃ deviceId ∈ provisioned, s.Owns u.userId deviceId ∧
    ∀ m ∈ s.members, m.deviceId ≠ deviceId

/-- A statement that changes no user, no device and no member. -/
def KeepsCompany (_ : Store → List KeyEvent) (write : Store → Store) : Prop :=
  ∀ s, (write s).users = s.users ∧ (write s).devices = s.devices ∧ (write s).members = s.members

section Moves

variable {s t : Store} {provisioned : List String}

theorem Abandons.not_settled (h : Abandons provisioned s) {provisioned' : List String}
    (hsub : ∀ deviceId ∈ provisioned, deviceId ∈ provisioned') : ¬Settled provisioned' s := by
  obtain ⟨u, hu, deviceId, hid, howned, hnone⟩ := h
  intro hsettled
  obtain ⟨m, hm, _, hdevice⟩ := hsettled.present u hu deviceId (hsub _ hid) howned
  exact hnone m hm hdevice

theorem keeps_abandons {α : Type} {p : Call α} (h : Each KeepsCompany p) :
    Keeps (Abandons provisioned) p := by
  refine (h.mono fun _ write hsame (s : Store) (hs : Abandons provisioned s) => ?_).keeps
  obtain ⟨husers, hdevices, hmembers⟩ := hsame s
  unfold Abandons Store.Owns at hs ⊢
  rwa [husers, hdevices, hmembers]

theorem SameTies.trans {u : Store} (h : SameTies s t) (h' : SameTies t u) : SameTies s u where
  users := h'.users.trans h.users
  devices := h'.devices.trans h.devices
  members := h'.members.trans h.members
  nodes := h'.nodes.trans h.nodes
  networks := h'.networks.trans h.networks
  attachments a ha := by
    obtain ⟨b, hb, hdevice, hnetwork⟩ := h'.attachments a ha
    obtain ⟨c, hc, hdevice', hnetwork'⟩ := h.attachments b hb
    exact ⟨c, hc, hdevice.trans hdevice', hnetwork.trans hnetwork'⟩

theorem sameTies_of_each {α : Type} {p : Call α} (h : Each KeepsTies p)
    {result : Except Failure α} (hrun : p.run s = (result, t)) : SameTies s t := by
  have hafter : SameTies s (p.after s) :=
    ((h.mono fun _ _ hsame u (hu : SameTies s u) => hu.trans (hsame u)).keeps).after (.refl s)
  unfold Program.after at hafter
  rwa [hrun] at hafter

/-- A call that finds a network, moves the user there with the device, and goes on. -/
theorem Tied.after_move (h : Tied provisioned s)
    (hprovisioned : ∀ m ∈ s.members, m.deviceId ∈ provisioned) {fresh : Fresh}
    (hunused : fresh.Unused s) {move : Move} {rest : Network → NetworkMember → Call NetworkJoinResult}
    (hties : Each KeepsTies move.find)
    (hfound : ∀ record t, move.find.run s = (.ok record, t) →
      record ∈ s.networks ∧ s.Owns move.userId move.deviceId)
    (hrest : ∀ record t member, move.find.run s = (.ok record, t) →
      Triple (fun u => Tied provisioned u ∧ u.IsMember record.networkId move.deviceId)
        (rest record member) (fun _ => Tied provisioned) fun _ => Tied provisioned)
    (hstays : ∀ record member, Each KeepsCompany (rest record member)) :
    let call : Call NetworkJoinResult := move.find >>= fun record =>
      ensureActiveMemberForNetwork fresh move.userId move.deviceId record >>= rest record
    ((∀ network ∈ (move.find.run s).1.toOption,
        s.MovesAll move.userId move.deviceId network.networkId) →
      Tied provisioned (call.after s)) ∧
    ((¬∀ network ∈ (move.find.run s).1.toOption,
        s.MovesAll move.userId move.deviceId network.networkId) →
      Abandons provisioned (call.after s)) := by
  dsimp only
  unfold Program.after
  rw [Program.run_bind]
  cases hrun : move.find.run s with
  | mk result t =>
    have hsame := sameTies_of_each hties hrun
    have htied := h.same hsame
    cases result with
    | error err => exact ⟨fun _ => htied, fun hmoves => absurd nofun hmoves⟩
    | ok record =>
      obtain ⟨hmem, howned⟩ := hfound record t hrun
      obtain ⟨n, hn, hid, _⟩ := hsame.symm_network hmem
      have howned' := (hsame.owns _ _).mpr howned
      have hnetwork : ∃ n ∈ t.networks, n.networkId = record.networkId := ⟨n, hn, hid⟩
      have hne : record.networkId ≠ "" := (h.networkRow record hmem).1.1
      have hmembers : ∀ m ∈ t.members, m.memberId ≠ newId "member" fresh.member := by
        rw [hsame.members]
        exact hunused.2.2.2.2.1
      obtain ⟨member, u, hmove, hjoined⟩ :=
        run_ensureActiveMemberForNetwork hmembers move.userId move.deviceId hne
      have hmoves : t.MovesAll move.userId move.deviceId record.networkId ↔
          s.MovesAll move.userId move.deviceId record.networkId := by
        unfold Store.MovesAll
        rw [hsame.users, hsame.members]
        simp only [hsame.owns]
      have hguard : (∀ network ∈ (Except.ok record : Except Failure Network).toOption,
          s.MovesAll move.userId move.deviceId network.networkId) ↔
          s.MovesAll move.userId move.deviceId record.networkId := by
        simp only [Except.toOption, Option.mem_some_iff, forall_eq']
      rw [hguard]
      dsimp only
      rw [Program.run_bind, hmove]
      constructor
      · intro hok
        have hu := htied.joined hjoined howned' hnetwork (hmoves.mpr hok)
        exact (hrest record t member hrun).after ⟨hu, hjoined.joined⟩
      · intro hnot
        have hprovisioned' : ∀ m ∈ t.members, m.deviceId ∈ provisioned := by
          rw [hsame.members]
          exact hprovisioned
        have habandons : Abandons provisioned u :=
          htied.not_settled_of_joined hjoined howned' (fun hok => hnot (hmoves.mp hok))
            hprovisioned'
        exact (keeps_abandons (hstays record member)).after habandons

end Moves

/-! ## One request -/

section Requests

variable {s : Store} {provisioned : List String}

/-- Where the bound device's user is active in another network. -/
theorem Tied.not_settled_create (h : Tied provisioned s) {fresh : Fresh} (hunused : fresh.Unused s)
    {userId : String} {req : CreateNetworkRequest}
    (hbinds : ¬BindsFirst fresh s (.create userId req)) (provisioned' : List String) :
    ¬Settled provisioned' ((create fresh userId req).after s) := by
  unfold BindsFirst at hbinds
  push Not at hbinds
  obtain ⟨hbound, ⟨user, network, subnet⟩, hmem, hactive⟩ := hbinds
  obtain ⟨t, hrun⟩ := Program.mem_toOption_run.mp hmem
  obtain rfl := (each_prepareNetwork Program.reads_query fresh userId req).eq_of_run hrun
  obtain ⟨_, hdevice, huser, hnetworkId, howner, hsubnetId, _⟩ := run_prepareNetwork_eq_ok hrun
  obtain ⟨huserMem, hid⟩ := userById_eq_some huser
  obtain ⟨_, _, hnetworks, hsubnets, hmembers, _⟩ := hunused
  -- the network is new, so the user is active in another one
  have helsewhere : user.activeNetworkId ≠ network.networkId := by
    obtain ⟨n, hn, hnid⟩ := (h.userRow user huserMem).resolve_left hactive
    rw [← hnid, hnetworkId]
    exact hnetworks n hn
  obtain ⟨t, hwrite⟩ : ∃ t, s.createNetworkWithDefaultSubnet network subnet = some t := by
    unfold Store.createNetworkWithDefaultSubnet
    cases hinsert : s.networks.insert network with
    | none =>
      obtain ⟨n, hn, hclash⟩ := Relation.insert_eq_none.mp hinsert
      exact absurd (Eq.trans hclash hnetworkId) (hnetworks n hn)
    | some networks =>
      cases hinsert' : s.subnets.insert subnet with
      | none =>
        obtain ⟨n, hn, hclash⟩ := Relation.insert_eq_none.mp hinsert'
        exact absurd (Eq.trans hclash hsubnetId) (hsubnets n hn)
      | some subnets => exact ⟨_, rfl⟩
  obtain ⟨ht, _⟩ := h.createNetwork (hnetworkId ▸ named_newId_net fresh.network)
    huserMem (hid.trans howner.symm) hwrite
  have hunused : ∀ m ∈ t.members, m.memberId ≠ newId "member" fresh.member := by
    rw [ht]
    exact hmembers
  obtain ⟨member, u, hmember, hu, ⟨hmemberNetwork, hmemberDevice⟩, hmemberRow⟩ :=
    run_ensureMember hunused network.networkId (Text.trim req.bindDeviceId) .owner
  have hnamed : Text.isBlank user.activeNetworkId = false := by
    obtain ⟨hne, htrim⟩ := (h.active_named huserMem).resolve_left hactive
    rwa [← Bool.not_eq_true, ← Text.trim_eq_empty_iff, htrim]
  have hcreate : (create fresh userId req).after s = u := by
    unfold Program.after create
    rw [Program.run_bind, hrun]
    dsimp only
    rw [Program.run_bind, run_insert_eq_ok.mpr hwrite]
    dsimp only
    rw [Program.run_bind, hnamed]
    change ((onlyIf _ _ >>= fun _ => pure network : Call Network).run t).2 = u
    unfold onlyIf
    rw [if_pos (bne_iff_ne.mpr hbound), Program.run_bind, Program.run_bind, hmember]
    rfl
  rw [hcreate]
  intro hsettled
  have hplace := hsettled.members user ?_ member ((hmemberRow member).mpr (.inr rfl)) ?_
  · exact helsewhere (hplace.symm.trans hmemberNetwork)
  · rw [hu, ht]
    exact huserMem
  · obtain ⟨device, hfound, howned⟩ := hdevice hbound
    rw [hu, ht, hmemberDevice]
    exact owns_of_deviceById ⟨device, hfound, howned.trans hid.symm⟩

/-- What is a member now has been provisioned. -/
theorem Tied.provision (h : Tied provisioned s) :
    Tied (provisioned ++ s.members.rows.map NetworkMember.deviceId) s := by
  refine { h with present := fun u hu deviceId hid howned => ?_, provisionedRow := ?_ }
  · rcases List.mem_append.mp hid with hold | hnew
    · exact h.present u hu deviceId hold howned
    · obtain ⟨m, hm, rfl⟩ := List.mem_map.mp hnew
      exact ⟨m, hm, h.members u hu m hm howned, rfl⟩
  · intro deviceId hid
    rcases List.mem_append.mp hid with hold | hnew
    · exact h.provisionedRow deviceId hold
    · obtain ⟨m, hm, rfl⟩ := List.mem_map.mp hnew
      obtain ⟨_, u, _, howned⟩ := h.memberRow m hm
      exact ⟨u.userId, howned⟩

/-! ### The five calls that move a user -/

theorem found_loadNetworkForDevice {userId networkId deviceId : String} {allowOwner : Bool}
    {record : Network} {t : Store}
    (hrun : (requireDeviceId deviceId >>= fun _ =>
      loadNetworkForDevice userId networkId deviceId allowOwner).run s = (.ok record, t)) :
    record.networkId = networkId ∧ record ∈ s.networks ∧ s.Owns userId deviceId := by
  obtain ⟨_, _, hblankRun, hrun⟩ := Program.run_bind_eq_ok.mp hrun
  obtain ⟨_, rfl⟩ := run_requireDeviceId_eq_ok.mp hblankRun
  obtain ⟨hfound, howned⟩ := run_loadNetworkForDevice_eq_ok hrun
  obtain ⟨hmem, hid⟩ := networkById_eq_some hfound
  exact ⟨hid, hmem, owns_of_deviceById howned⟩

theorem keepsTies_clearNetworkJoinKey (note : Store → List KeyEvent) (networkId joinKey : String) :
    KeepsTies note fun s => s.clearNetworkJoinKey networkId joinKey :=
  keepsTies_updateNetwork fun _ => rfl

/-- Finding the network changes no one's place. -/
theorem each_find {operation : Operation} {move : Move} (h : operation.move = some move) :
    Each KeepsTies move.find := by
  have hload : ∀ userId networkId deviceId allowOwner, Each KeepsTies
      (requireDeviceId deviceId >>= fun _ =>
        loadNetworkForDevice userId networkId deviceId allowOwner) :=
    fun userId networkId deviceId allowOwner => (each_requireDeviceId deviceId).bind fun _ =>
      each_loadNetworkForDevice keepsTies_query userId networkId deviceId allowOwner
  cases operation <;> cases h
  case join => exact hload _ _ _ _
  case switch => exact hload _ _ _ _
  case activate => exact hload _ _ _ _
  case joinByOwnerEmail =>
    dsimp only
    exact each_loadNetworkOfOwner keepsTies_query _ _ _
  case joinByKey =>
    dsimp only
    exact each_loadNetworkByKey keepsTies_query keepsTies_clearNetworkJoinKey _ _ _

/-- The network that is found is one of the store, and the device is the user's. -/
theorem found_find {operation : Operation} {move : Move} (h : operation.move = some move)
    {record : Network} {t : Store} (hrun : move.find.run s = (.ok record, t)) :
    record ∈ s.networks ∧ s.Owns move.userId move.deviceId := by
  cases operation <;> cases h
  case join => exact (found_loadNetworkForDevice hrun).2
  case switch => exact (found_loadNetworkForDevice hrun).2
  case activate => exact (found_loadNetworkForDevice hrun).2
  case joinByOwnerEmail =>
    dsimp only at hrun ⊢
    obtain ⟨hmem, howned⟩ := run_loadNetworkOfOwner_eq_ok hrun
    exact ⟨hmem, owns_of_deviceById howned⟩
  case joinByKey =>
    dsimp only at hrun ⊢
    obtain ⟨hmem, howned, _⟩ := run_loadNetworkByKey_eq_ok hrun
    exact ⟨hmem, owns_of_deviceById howned⟩

/-- What a call does that moves a user: find the network, move there, and for one of them attach
the device. -/
theorem exists_rest (fresh : Fresh) {operation : Operation} {move : Move}
    (h : operation.move = some move) (sameName : String → String → Bool) :
    ∃ rest : Network → NetworkMember → Call NetworkJoinResult,
      (∀ s, Request.after sameName ⟨fresh, operation⟩ s =
        (move.find >>= fun record =>
          ensureActiveMemberForNetwork fresh move.userId move.deviceId record >>=
            rest record).after s) ∧
      (∀ record member, Each KeepsCompany (rest record member)) ∧
      ∀ s record t member, move.find.run s = (.ok record, t) →
        Triple (fun u => Tied provisioned u ∧ u.IsMember record.networkId move.deviceId)
          (rest record member) (fun _ => Tied provisioned) fun _ => Tied provisioned := by
  cases operation <;> cases h
  case activate userId networkId deviceId =>
    refine ⟨fun record member => ensureAttachment fresh networkId record.defaultSubnetId deviceId >>=
      fun attachment => pure ⟨member, some attachment⟩, fun s => ?_, fun record member => ?_,
      fun s record t member hrun => ?_⟩
    · dsimp only
      rw [Program.bind_assoc]
      exact Program.after_void _ s
    · refine (each_ensureAttachment (fun _ => ⟨rfl, rfl, rfl⟩) (fun row s => ?_) fresh networkId
        record.defaultSubnetId deviceId).bind fun _ => .pure _
      dsimp only
      unfold Store.createAttachment
      cases s.attachments.insert row <;> exact ⟨rfl, rfl, rfl⟩
    · rw [(found_loadNetworkForDevice hrun).1]
      exact (triple_ensureAttachment_tied provisioned fresh networkId record.defaultSubnetId
        deviceId).bind fun _ => .pure fun _ hs => hs
  all_goals
    refine ⟨fun _ member => pure ⟨member, none⟩, fun s => ?_, fun _ _ => .pure _,
      fun _ _ _ _ _ => .pure fun _ hs => hs.1⟩
  case join =>
    dsimp only
    rw [Program.bind_assoc]
    exact Program.after_void _ s
  case switch =>
    dsimp only
    rw [Program.bind_assoc]
    exact Program.after_void _ s
  case joinByOwnerEmail =>
    dsimp only
    exact Program.after_void _ s
  case joinByKey =>
    dsimp only
    exact Program.after_void _ s

/-- The calls that neither move a user nor create a network on request. -/
theorem keeps_call (sameName : String → String → Bool) {r : Request}
    (hstays : r.operation.move = none)
    (hcreate : ∀ userId req, r.operation ≠ .create userId req) :
    Keeps (Tied provisioned) (r.call sameName) := by
  have hvoid : ∀ {α : Type} {p : Call α}, Keeps (Tied provisioned) p →
      Keeps (Tied provisioned) p.void := fun h => h.bind fun _ => .pure ()
  have hq : KeepsTies (fun _ => []) id := keepsTies_query
  obtain ⟨fresh, operation⟩ := r
  cases operation with
  | registerUser email password => exact keeps_registerUser fresh email password
  | seedDefaultAdmin email =>
    refine ((each_seedDefaultAdmin (S := fun _ write => ∀ s, Tied provisioned s →
      Tied provisioned (write s)) (fun _ hs => hs) (fun userId email s hs => ?_) fresh email)).keeps
    dsimp only
    cases hwrite : s.createUser ⟨userId, email, ""⟩ with
    | none => exact hs
    | some t => exact (hs.createUser hwrite).1
  | registerDevice userId req => exact hvoid (keeps_registerDevice_tied fresh userId req)
  | registerNode userId req => exact keeps_registerNode userId req
  | create userId req => exact absurd rfl (hcreate userId req)
  | update userId networkId req =>
    exact hvoid (keepsTied_of_each (each_update hq keepsTies_updateAttachmentVirtualIp
      keepsTies_updateSubnetRange (fun _ _ _ _ => keepsTies_updateNetwork fun _ => rfl)
      userId networkId req))
  | updateJoinKey userId networkId joinKey =>
    exact hvoid (keepsTied_of_each (each_updateJoinKey hq
      (fun _ _ _ => keepsTies_updateNetwork fun _ => rfl) fresh userId networkId joinKey))
  | createSubnet userId networkId req =>
    exact hvoid (keepsTied_of_each (each_createSubnet hq keepsTies_createSubnet sameName fresh
      userId networkId req))
  | deactivate userId networkId deviceId =>
    exact keepsTied_of_each (each_deactivate hq (fun _ _ => keepsTies_deleteAttachments _)
      userId networkId deviceId)
  | attachDevice userId networkId subnetId deviceId =>
    exact hvoid (keeps_attachDevice_tied fresh userId networkId subnetId deviceId)
  | reserve networkId subnetId attachmentId ip =>
    exact hvoid (keepsTied_of_each (each_reserve hq networkId subnetId attachmentId ip))
  | release attachmentId =>
    exact keepsTied_of_each (each_release keepsTies_updateAttachmentVirtualIp attachmentId)
  | updateAttachmentIp userId networkId attachmentId virtualIp =>
    exact hvoid (keepsTied_of_each (each_updateAttachmentIp hq keepsTies_updateAttachmentVirtualIp
      userId networkId attachmentId virtualIp))
  | updateAttachmentRemark userId networkId attachmentId remark =>
    exact keepsTied_of_each (each_updateAttachmentRemark hq keepsTies_updateAttachmentRemark
      userId networkId attachmentId remark)
  | bootstrap session userId nodeId networkId =>
    exact keeps_bootstrap fresh session userId nodeId networkId
  | join | joinByOwnerEmail | joinByKey | switch | activate => cases hstays

/-- A request leaves the users settled if and only if it keeps to the condition. -/
theorem Tied.after_iff (h : Tied provisioned s)
    (hprovisioned : ∀ m ∈ s.members, m.deviceId ∈ provisioned)
    (sameName : String → String → Bool) {r : Request} (hunused : r.fresh.Unused s) :
    (KeepsActive ⟨s, provisioned⟩ r → Tied provisioned (r.after sameName s)) ∧
      (¬KeepsActive ⟨s, provisioned⟩ r → ∀ provisioned',
        (∀ deviceId ∈ provisioned, deviceId ∈ provisioned') →
          ¬Settled provisioned' (r.after sameName s)) := by
  obtain ⟨fresh, operation⟩ := r
  cases hmove : operation.move with
  | some move =>
    obtain ⟨rest, hcall, hcompany, hrest⟩ := exists_rest fresh hmove sameName
    obtain ⟨hkeeps, hleaves⟩ := h.after_move hprovisioned hunused (each_find hmove)
      (fun record t => found_find hmove) (hrest s) hcompany
    have hbinds : BindsFirst fresh s operation := by
      cases operation with
      | create => cases hmove
      | _ => trivial
    have hactive : KeepsActive ⟨s, provisioned⟩ ⟨fresh, operation⟩ ↔
        ∀ network ∈ (move.find.run s).1.toOption,
          s.MovesAll move.userId move.deviceId network.networkId := by
      unfold KeepsActive
      simp only [hmove, Option.mem_some_iff, forall_eq', hbinds, and_true]
    rw [hactive, hcall]
    exact ⟨hkeeps, fun hnot provisioned' hsub => (hleaves hnot).not_settled hsub⟩
  | none =>
    have hactive : KeepsActive ⟨s, provisioned⟩ ⟨fresh, operation⟩ ↔
        BindsFirst fresh s operation := by
      unfold KeepsActive
      simp only [hmove, Option.not_mem_none, false_implies, implies_true, true_and]
    rw [hactive]
    by_cases hcreate : ∃ userId req, operation = .create userId req
    · obtain ⟨userId, req, rfl⟩ := hcreate
      have hafter : Request.after sameName ⟨fresh, .create userId req⟩ s =
          (create fresh userId req).after s := Program.after_void _ s
      rw [hafter]
      refine ⟨fun hbinds => ?_, fun hnot provisioned' _ => h.not_settled_create hunused hnot _⟩
      have hcreated := (triple_create provisioned fresh userId req fun hne => hne).imp
        (fun _ hs => hs) (fun _ _ hs => hs.1) fun _ _ hs => hs
      exact hcreated.after ⟨h, hbinds⟩
    · push Not at hcreate
      have hbinds : BindsFirst fresh s operation := by
        cases operation with
        | create userId req => exact absurd rfl (hcreate userId req)
        | _ => trivial
      exact ⟨fun _ => (keeps_call sameName hmove hcreate).after h,
        fun hnot => absurd hbinds hnot⟩

end Requests

/-! ## Runs -/

namespace NetworkWorld

/-- What holds of a world whose requests have all kept to the condition. -/
structure Ordered (s : NetworkWorld) : Prop where
  tied : Tied s.provisioned s.store
  recorded : ∀ m ∈ s.store.members, m.deviceId ∈ s.provisioned

variable {s t : NetworkWorld}

theorem ordered_start : start.Ordered where
  tied :=
    { members := nofun
      attachments := nofun
      present := nofun
      memberRow := nofun
      attachmentRow := nofun
      deviceRow := fun _ _ ⟨_, hd, _⟩ => absurd hd (Relation.not_mem_empty _)
      provisionedRow := nofun
      networkRow := nofun
      userRow := nofun
      nodeRow := nofun }
  recorded := nofun

theorem Ordered.step (h : s.Ordered) {sameName : String → String → Bool} {r : Request}
    (hstep : s.step sameName r = some t) :
    (KeepsActive s r → t.Ordered) ∧ (¬KeepsActive s r → ¬t.Settled) := by
  unfold NetworkWorld.step at hstep
  split at hstep
  case isFalse => cases hstep
  case isTrue hunused =>
    obtain rfl := Option.some.inj hstep
    obtain ⟨hkeeps, hleaves⟩ := h.tied.after_iff h.recorded sameName hunused
    refine ⟨fun hactive => ⟨(hkeeps hactive).provision, fun m hm => ?_⟩, fun hnot => ?_⟩
    · exact List.mem_append_right _ (List.mem_map_of_mem hm)
    · exact hleaves hnot _ fun deviceId hid => List.mem_append_left _ hid

theorem ordered_of_guarded {sameName : String → String → Bool}
    (h : Reachable (guarded KeepsActive (rel (step sameName))) start s) : s.Ordered :=
  h.invariant Ordered ordered_start fun _ _ _ hs hstep => (hs.step hstep.2).1 hstep.1

/-- The runs in which every device stays with its user are those in which nobody moves to another
network while other devices of theirs are members. -/
theorem settled_iff (sameName : String → String → Bool) (s : NetworkWorld) :
    s.Settled ∧ Reachable (fun s r t => s.step sameName r = some t ∧ t.Settled) start s ↔
      Reachable (guarded KeepsActive (rel (step sameName))) start s := by
  constructor
  · rintro ⟨-, h⟩
    induction h with
    | start => exact .start
    | next _ hstep ih =>
      have hactive := not_not.mp fun hnot =>
        ((ordered_of_guarded ih).step hstep.1).2 hnot hstep.2
      exact .next ih ⟨hactive, hstep.1⟩
  · intro h
    refine ⟨(ordered_of_guarded h).tied.toSettled, ?_⟩
    induction h with
    | start => exact .start
    | next hr hstep ih =>
      exact .next ih ⟨hstep.2, (ordered_of_guarded (hr.next hstep)).tied.toSettled⟩

/-! ## A device left behind -/

/-- The second user has two devices in a network of their own, and joins the first user's network
with one of them. -/
def leavesBehind : List Request :=
  [⟨.ofDigits "1" (.refl true), .registerUser "one@local.slan" "password"⟩,
    ⟨.ofDigits "2" (.refl true), .updateJoinKey "user-1" "net-1" "0123456789abcdef0123456789abcdef"⟩,
    ⟨.ofDigits "3" (.refl true), .registerUser "two@local.slan" "password"⟩,
    ⟨.ofDigits "4" (.refl true), .registerDevice "user-3" (newDevice "a")⟩,
    ⟨.ofDigits "5" (.refl true), .registerDevice "user-3" (newDevice "b")⟩,
    ⟨.ofDigits "6" (.refl true), .joinByKey "user-3" "0123456789abcdef0123456789abcdef" "dev-4"⟩]

/-- Every device of a user is a member of the user's network. -/
def Provided (s : NetworkWorld) : Prop :=
  ∀ u ∈ s.store.users.rows, ∀ deviceId ∈ s.provisioned, s.store.Owns u.userId deviceId →
    ∃ m ∈ s.store.members.rows, m.networkId = u.activeNetworkId ∧ m.deviceId = deviceId

instance (s : NetworkWorld) : Decidable s.Provided :=
  inferInstanceAs (Decidable (∀ u ∈ s.store.users.rows, ∀ deviceId ∈ s.provisioned,
    s.store.Owns u.userId deviceId → ∃ m ∈ s.store.members.rows,
      m.networkId = u.activeNetworkId ∧ m.deviceId = deviceId))

theorem provided_of_settled (h : s.Settled) : s.Provided := h.present

theorem device_left_behind :
    ¬ ∀ (sameName : String → String → Bool) (s : NetworkWorld),
      Reachable (rel (step sameName)) start s → s.Settled := by
  intro h
  obtain ⟨hexec, habsent⟩ : (exec (step (· == ·)) start leavesBehind).isSome = true ∧
      ¬(execD (step (· == ·)) start leavesBehind).Provided := by decide
  have hsettled := h (· == ·) _ (.of_exec .start (exec_eq_execD hexec))
  exact habsent (provided_of_settled hsettled)

end NetworkWorld

end Slan.Networks
