import Slan.Networks.Operations

/-! # What it leaves to move a user to a network -/

namespace Slan.Networks

open Control (newId)

namespace Store

def Owns (s : Store) (userId deviceId : String) : Prop :=
  ∃ device ∈ s.devices.rows, device.userId = userId ∧ device.deviceId = deviceId

instance (s : Store) (userId deviceId : String) : Decidable (s.Owns userId deviceId) :=
  inferInstanceAs (Decidable (∃ device ∈ s.devices.rows,
    device.userId = userId ∧ device.deviceId = deviceId))

def IsMember (s : Store) (networkId deviceId : String) : Prop :=
  ∃ m ∈ s.members, m.networkId = networkId ∧ m.deviceId = deviceId

/-- Without the rows of the device in other networks. -/
def leaveOthers (s : Store) (deviceId networkId : String) : Store :=
  ((s.deleteControlSessionsByDeviceExceptNetwork deviceId networkId)
    |>.deleteAttachmentsByDeviceExceptNetwork deviceId networkId)
    |>.deleteMembersByDeviceExceptNetwork deviceId networkId

def leaveAll (s : Store) (devices : List Device) (networkId : String) : Store :=
  devices.foldl (fun s device => s.leaveOthers device.deviceId networkId) s

def movedTo (s : Store) (userId networkId : String) : Store :=
  (s.leaveAll (s.devicesByUser userId) networkId).updateUserActiveNetwork userId networkId

section Leave

variable {s : Store} {deviceId networkId : String} {devices : List Device}

theorem mem_devicesByUser {userId : String} {device : Device} :
    device ∈ s.devicesByUser userId ↔ device ∈ s.devices ∧ device.userId = userId := by
  unfold devicesByUser
  rw [Relation.mem_orderBy, Relation.mem_select, beq_iff_eq]

/-- A blank network is none to stay in. -/
theorem leaves_iff {rowDevice rowNetwork : String} :
    (rowDevice == deviceId && (networkId == "" || rowNetwork != networkId)) = false ↔
      (rowDevice = deviceId → networkId ≠ "" ∧ rowNetwork = networkId) := by
  rw [Bool.and_eq_false_iff, Bool.or_eq_false_iff, beq_eq_false_iff_ne, beq_eq_false_iff_ne,
    bne_eq_false_iff_eq]
  tauto

theorem leaveAll_others (s : Store) (devices : List Device) (networkId : String) :
    (s.leaveAll devices networkId).users = s.users ∧
      (s.leaveAll devices networkId).devices = s.devices ∧
      (s.leaveAll devices networkId).networks = s.networks ∧
      (s.leaveAll devices networkId).nodes = s.nodes := by
  induction devices generalizing s with
  | nil => exact ⟨rfl, rfl, rfl, rfl⟩
  | cons device devices ih => exact ih (s.leaveOthers device.deviceId networkId)

theorem mem_members_leaveAll {m : NetworkMember} :
    m ∈ (s.leaveAll devices networkId).members ↔
      m ∈ s.members ∧ ∀ device ∈ devices, m.deviceId = device.deviceId →
        networkId ≠ "" ∧ m.networkId = networkId := by
  induction devices generalizing s with
  | nil => simp [leaveAll]
  | cons device devices ih =>
    have hone : m ∈ (s.leaveOthers device.deviceId networkId).members ↔ m ∈ s.members ∧
        (m.deviceId = device.deviceId → networkId ≠ "" ∧ m.networkId = networkId) :=
      Relation.mem_delete.trans (and_congr_right fun _ => leaves_iff)
    rw [List.forall_mem_cons, ← and_assoc, ← hone]
    exact ih

theorem mem_attachments_leaveAll {a : SubnetAttachment} :
    a ∈ (s.leaveAll devices networkId).attachments ↔
      a ∈ s.attachments ∧ ∀ device ∈ devices, a.deviceId = device.deviceId →
        networkId ≠ "" ∧ a.networkId = networkId := by
  induction devices generalizing s with
  | nil => simp [leaveAll]
  | cons device devices ih =>
    have hone : a ∈ (s.leaveOthers device.deviceId networkId).attachments ↔ a ∈ s.attachments ∧
        (a.deviceId = device.deviceId → networkId ≠ "" ∧ a.networkId = networkId) :=
      Relation.mem_delete.trans (and_congr_right fun _ => leaves_iff)
    rw [List.forall_mem_cons, ← and_assoc, ← hone]
    exact ih

end Leave

end Store

/-- The user's active network is that one now, and no other user's has changed. -/
def MovesUser (s t : Store) (userId networkId : String) : Prop :=
  ∀ u, u ∈ t.users ↔ ∃ v ∈ s.users,
    (if v.userId = userId then { v with activeNetworkId := networkId } else v) = u

section Users

variable {s t : Store} {userId networkId : String}

theorem movesUser_updateUserActiveNetwork :
    MovesUser s (s.updateUserActiveNetwork userId networkId) userId networkId :=
  fun _ => List.mem_map

theorem MovesUser.cases (h : MovesUser s t userId networkId) {u : User} (hu : u ∈ t.users) :
    (u.userId = userId ∧ u.activeNetworkId = networkId ∧ ∃ v ∈ s.users, v.userId = userId) ∨
      u.userId ≠ userId ∧ u ∈ s.users := by
  obtain ⟨v, hv, rfl⟩ := (h u).mp hu
  by_cases hid : v.userId = userId
  · rw [if_pos hid]
    exact .inl ⟨hid, rfl, v, hv, hid⟩
  · rw [if_neg hid]
    exact .inr ⟨hid, hv⟩

/-- Every user is still there, and none has become idle. -/
theorem MovesUser.exists_user (h : MovesUser s t userId networkId) (hnetwork : networkId ≠ "")
    {v : User} (hv : v ∈ s.users) :
    ∃ u ∈ t.users, u.userId = v.userId ∧
      (v.activeNetworkId ≠ "" ∨ v.userId = userId → u.activeNetworkId ≠ "") := by
  refine ⟨_, (h _).mpr ⟨v, hv, rfl⟩, ?_⟩
  by_cases hid : v.userId = userId
  · rw [if_pos hid]
    exact ⟨rfl, fun _ => hnetwork⟩
  · rw [if_neg hid]
    exact ⟨rfl, fun hactive => hactive.resolve_right hid⟩

end Users

/-! ## The calls -/

theorem run_ensureSingleActiveNetworkForUser (s : Store) (userId networkId : String) :
    (ensureSingleActiveNetworkForUser userId networkId).run s =
      (.ok (), s.movedTo userId networkId) := by
  have hloop : ∀ (devices : List Device) (s : Store),
      (Program.forEach (fun device => ensureSingleNetworkMembership device.deviceId networkId)
        devices : Call Unit).run s = (.ok (), s.leaveAll devices networkId) := by
    intro devices
    induction devices with
    | nil => exact fun _ => rfl
    | cons device devices ih => exact fun s => ih (s.leaveOthers device.deviceId networkId)
  unfold ensureSingleActiveNetworkForUser
  rw [Program.run_bind, Program.run_query]
  dsimp only
  rw [Program.run_bind, hloop]
  rfl

theorem run_membershipRole (networkId deviceId ownerUserId userId : String) (s : Store) :
    ∃ role, (membershipRole networkId deviceId ownerUserId userId).run s = (.ok role, s) := by
  unfold membershipRole
  split
  · exact ⟨_, rfl⟩
  · rw [Program.run_bind, Program.run_query]
    dsimp only
    split <;> exact ⟨_, rfl⟩

/-- A member row is found or made. -/
theorem run_ensureMember {s : Store} {fresh : Fresh}
    (hunused : ∀ m ∈ s.members, m.memberId ≠ newId "member" fresh.member)
    (networkId deviceId : String) (role : MemberRole) :
    ∃ member t, (ensureMember fresh networkId deviceId role).run s = (.ok member, t) ∧
      t = { s with members := t.members } ∧
      (member.networkId = networkId ∧ member.deviceId = deviceId) ∧
      ∀ m, m ∈ t.members ↔ m ∈ s.members ∨ m = member := by
  unfold ensureMember
  rw [Program.run_bind, Program.run_query]
  dsimp only
  cases hfound : s.memberByNetworkDevice networkId deviceId with
  | some member =>
    obtain ⟨hmem, hmember⟩ := memberByNetworkDevice_eq_some hfound
    refine ⟨member, s, rfl, rfl, hmember, fun m => ?_⟩
    exact ⟨.inl, fun h => h.elim id fun heq => heq ▸ hmem⟩
  | none =>
    have hnone := Relation.find?_eq_none.mp hfound
    let member : NetworkMember :=
      ⟨newId "member" fresh.member, networkId, deviceId, role, fresh.now, "active"⟩
    cases hinsert : s.members.insert member with
    | none =>
      obtain ⟨m, hm, hclash⟩ := Relation.insert_eq_none.mp hinsert
      rcases hclash with hid | hsame
      · exact absurd hid (hunused m hm)
      · have hnot := hnone m hm
        rw [hsame.1, hsame.2, beq_self_eq_true, beq_self_eq_true] at hnot
        cases hnot
    | some members =>
      have hwrite : s.createMember member = some { s with members } := by
        unfold Store.createMember
        rw [hinsert]
        rfl
      refine ⟨member, { s with members }, ?_, rfl, ⟨rfl, rfl⟩, fun m => ?_⟩
      · dsimp only
        rw [Program.run_bind, run_insert_eq_ok.mpr hwrite]
        rfl
      · exact Relation.mem_insert hinsert

/-- What it leaves that a device joins a network and the user moves there. -/
structure Joined (s t : Store) (userId deviceId networkId : String) : Prop where
  users : MovesUser s t userId networkId
  devices : t.devices = s.devices
  networks : t.networks = s.networks
  nodes : t.nodes = s.nodes
  members : ∀ m, m ∈ t.members → m ∈ s.members ∧
    (s.Owns userId m.deviceId → m.networkId = networkId) ∨
    m.networkId = networkId ∧ m.deviceId = deviceId
  kept : ∀ m ∈ s.members, (s.Owns userId m.deviceId → m.networkId = networkId) → m ∈ t.members
  joined : t.IsMember networkId deviceId
  attachments : ∀ a ∈ t.attachments,
    a ∈ s.attachments ∧ (s.Owns userId a.deviceId → a.networkId = networkId)

theorem owned_iff {s : Store} {userId rowDevice : String} {p : Prop} :
    (∀ device ∈ s.devicesByUser userId, rowDevice = device.deviceId → p) ↔
      (s.Owns userId rowDevice → p) := by
  constructor
  · rintro h ⟨device, hmem, howner, rfl⟩
    exact h device (Store.mem_devicesByUser.mpr ⟨hmem, howner⟩) rfl
  · rintro h device hmem rfl
    obtain ⟨hdevice, howner⟩ := Store.mem_devicesByUser.mp hmem
    exact h ⟨device, hdevice, howner, rfl⟩

theorem mem_members_movedTo {s : Store} {userId networkId : String} {m : NetworkMember} :
    m ∈ (s.movedTo userId networkId).members ↔ m ∈ s.members ∧
      (s.Owns userId m.deviceId → networkId ≠ "" ∧ m.networkId = networkId) :=
  Store.mem_members_leaveAll.trans (and_congr_right fun _ => owned_iff)

theorem mem_attachments_movedTo {s : Store} {userId networkId : String} {a : SubnetAttachment} :
    a ∈ (s.movedTo userId networkId).attachments ↔ a ∈ s.attachments ∧
      (s.Owns userId a.deviceId → networkId ≠ "" ∧ a.networkId = networkId) :=
  Store.mem_attachments_leaveAll.trans (and_congr_right fun _ => owned_iff)

theorem run_ensureActiveMemberForNetwork {s : Store} {fresh : Fresh}
    (hunused : ∀ m ∈ s.members, m.memberId ≠ newId "member" fresh.member)
    (userId deviceId : String) {record : Network} (hnetwork : record.networkId ≠ "") :
    ∃ member t, (ensureActiveMemberForNetwork fresh userId deviceId record).run s =
      (.ok member, t) ∧ Joined s t userId deviceId record.networkId := by
  let moved := s.movedTo userId record.networkId
  obtain ⟨husers, hdevices, hnetworks, hnodes⟩ :=
    s.leaveAll_others (s.devicesByUser userId) record.networkId
  have hmembers : ∀ m, m ∈ moved.members ↔
      m ∈ s.members ∧ (s.Owns userId m.deviceId → m.networkId = record.networkId) := fun m => by
    rw [mem_members_movedTo, and_iff_right hnetwork]
  have hattachments : ∀ a, a ∈ moved.attachments ↔
      a ∈ s.attachments ∧ (s.Owns userId a.deviceId → a.networkId = record.networkId) := fun a => by
    rw [mem_attachments_movedTo, and_iff_right hnetwork]
  obtain ⟨role, hrole⟩ :=
    run_membershipRole record.networkId deviceId record.ownerUserId userId moved
  have hunused' : ∀ m ∈ moved.members, m.memberId ≠ newId "member" fresh.member :=
    fun m hm => hunused m ((hmembers m).mp hm).1
  obtain ⟨member, t, hrun, ht, hmember, hmem⟩ :=
    run_ensureMember hunused' record.networkId deviceId role
  refine ⟨member, t, ?_, ?_⟩
  · unfold ensureActiveMemberForNetwork
    rw [Program.run_bind, run_ensureSingleActiveNetworkForUser]
    dsimp only
    rw [Program.run_bind, hrole]
    exact hrun
  · constructor
    · intro u
      have hsame : t.users = moved.users := by rw [ht]
      rw [hsame, ← husers]
      exact movesUser_updateUserActiveNetwork u
    · rw [ht]
      exact hdevices
    · rw [ht]
      exact hnetworks
    · rw [ht]
      exact hnodes
    · intro m hm
      rcases (hmem m).mp hm with hold | rfl
      · exact .inl ((hmembers m).mp hold)
      · exact .inr hmember
    · exact fun m hm howned => (hmem m).mpr (.inl ((hmembers m).mpr ⟨hm, howned⟩))
    · exact ⟨member, (hmem member).mpr (.inr rfl), hmember⟩
    · intro a ha
      rw [ht] at ha
      exact (hattachments a).mp ha

end Slan.Networks
