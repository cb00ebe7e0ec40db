import Slan.Networks.Statements

/-! # What a successful call has found

A helper that only reads succeeds in the state it was called in, and its result says what it found
there.
-/

namespace Slan.Networks

open Control (ServiceError)
open Program (run_bind_eq_ok run_pure_eq_ok run_query_eq_ok)

/-! ## Lookups -/

section Lookups

variable {s : Store}

theorem subnetById_eq_some {subnetId : String} {subnet : Subnet}
    (h : s.subnetById subnetId = some subnet) :
    subnet ∈ s.subnets ∧ subnet.subnetId = subnetId :=
  Relation.of_find?_key h

theorem networkById_eq_some {networkId : String} {network : Network}
    (h : s.networkById networkId = some network) :
    network ∈ s.networks ∧ network.networkId = networkId :=
  Relation.of_find?_key h

theorem userById_eq_some {userId : String} {user : User} (h : s.userById userId = some user) :
    user ∈ s.users ∧ user.userId = userId :=
  Relation.of_find?_key h

theorem deviceById_eq_some {deviceId : String} {device : Device}
    (h : s.deviceById deviceId = some device) :
    device ∈ s.devices ∧ device.deviceId = deviceId :=
  Relation.of_find?_key h

theorem nodeById_eq_some {nodeId : String} {node : Control.Node}
    (h : s.nodeById nodeId = some node) : node ∈ s.nodes ∧ node.nodeId = nodeId :=
  Relation.of_find?_key h

/-- A registration that goes through has its row in the place of the node's row before. -/
theorem mem_upsertNode {record : Control.Node} (h : s.upsertNode record = some t)
    {row : Control.Node} :
    row ∈ t.nodes ↔ row = record ∨ row ∈ s.nodes ∧ row.nodeId ≠ record.nodeId := by
  unfold Store.upsertNode at h
  cases hfound : s.nodeById record.nodeId with
  | some stored =>
    rw [hfound] at h
    obtain rfl := Option.some.inj h
    obtain ⟨hstored, hid⟩ := nodeById_eq_some hfound
    constructor
    · intro hrow
      obtain ⟨old, hold, rfl⟩ := List.mem_map.mp (Relation.mem_def.mp hrow)
      split
      · exact .inl rfl
      · rename_i hne
        exact .inr ⟨hold, hne⟩
    · rintro (rfl | ⟨hrow, hne⟩)
      · exact Relation.mem_def.mpr (List.mem_map.mpr ⟨stored, hstored, if_pos hid⟩)
      · exact Relation.mem_def.mpr (List.mem_map.mpr ⟨row, hrow, if_neg hne⟩)
  | none =>
    rw [hfound] at h
    obtain ⟨nodes, hinsert, rfl⟩ := Option.map_eq_some_iff.mp h
    have hnew : ∀ old ∈ s.nodes, old.nodeId ≠ record.nodeId := by
      intro old hold
      have habsent := Relation.find?_eq_none.mp hfound old hold
      exact beq_eq_false_iff_ne.mp habsent
    rw [Relation.mem_insert hinsert]
    constructor
    · rintro (hrow | rfl)
      · exact .inr ⟨hrow, hnew row hrow⟩
      · exact .inl rfl
    · rintro (rfl | ⟨hrow, -⟩)
      · exact .inr rfl
      · exact .inl hrow

theorem upsertNode_eq_some {record : Control.Node} (h : s.upsertNode record = some t) :
    t = { s with nodes := t.nodes } := by
  unfold Store.upsertNode at h
  split at h
  · obtain rfl := Option.some.inj h
    rfl
  · obtain ⟨nodes, _, rfl⟩ := Option.map_eq_some_iff.mp h
    rfl

theorem attachmentById_eq_some {attachmentId : String} {attachment : SubnetAttachment}
    (h : s.attachmentById attachmentId = some attachment) :
    attachment ∈ s.attachments ∧ attachment.attachmentId = attachmentId :=
  Relation.of_find?_key h

theorem memberByNetworkDevice_eq_some {networkId deviceId : String} {member : NetworkMember}
    (h : s.memberByNetworkDevice networkId deviceId = some member) :
    member ∈ s.members ∧ member.networkId = networkId ∧ member.deviceId = deviceId := by
  have hchosen := List.find?_some
    (p := fun row : NetworkMember => row.networkId == networkId && row.deviceId == deviceId) h
  rw [Bool.and_eq_true, beq_iff_eq, beq_iff_eq] at hchosen
  exact ⟨Relation.mem_of_find? h, hchosen⟩

theorem deviceByUserMachine_eq_some {userId machineId : String} {device : Device}
    (h : s.deviceByUserMachine userId machineId = some device) :
    device ∈ s.devices ∧ device.userId = userId ∧ device.machineId = machineId := by
  have hchosen := List.find?_some
    (p := fun row : Device => row.userId == userId && row.machineId == machineId) h
  rw [Bool.and_eq_true, beq_iff_eq, beq_iff_eq] at hchosen
  exact ⟨Relation.mem_of_find? h, hchosen⟩

end Lookups

/-! ## Helpers -/

section Helpers

variable {s t : Store} {α : Type} {a : α}

theorem run_lookupOr_eq_ok {err : ServiceError} {f : Store → Option α} :
    (lookupOr err f).run s = (.ok a, t) ↔ f s = some a ∧ s = t := by
  unfold lookupOr
  simp only [run_bind_eq_ok, run_query_eq_ok, Program.run_orFail_eq_ok]
  constructor
  · rintro ⟨_, _, ⟨rfl, rfl⟩, hfound, rfl⟩
    exact ⟨hfound, rfl⟩
  · rintro ⟨hfound, rfl⟩
    exact ⟨_, s, ⟨rfl, rfl⟩, hfound, rfl⟩

theorem run_lookup_eq_ok {f : Store → Option α} :
    (lookup f).run s = (.ok a, t) ↔ f s = some a ∧ s = t := run_lookupOr_eq_ok

theorem run_checked_eq_ok {result : Except ServiceError α} :
    (checked result).run s = (.ok a, t) ↔ result = .ok a ∧ s = t := by
  unfold checked
  rw [Program.run_ofExcept, Prod.mk.injEq]
  cases result <;> simp [Except.mapError]

theorem run_insert_eq_ok {write : Store → Option Store} :
    (insert write).run s = (.ok (), t) ↔ write s = some t := Program.run_execOr_eq_ok

theorem not_run_refuse_eq_ok {err : ServiceError} :
    ((refuse err : Call α)).run s ≠ (.ok a, t) := nofun

/-- A check that a condition does not refuse. -/
theorem run_ite_refuse_eq_ok {c : Prop} [Decidable c] {err : ServiceError} {p : Call α} :
    (if c then refuse err else p).run s = (.ok a, t) ↔ ¬c ∧ p.run s = (.ok a, t) := by
  split
  · rename_i h
    exact ⟨fun hrun => absurd hrun not_run_refuse_eq_ok, fun hrun => absurd h hrun.1⟩
  · rename_i h
    exact ⟨fun hrun => ⟨h, hrun⟩, And.right⟩

theorem run_requireDeviceId_eq_ok {deviceId : String} :
    (requireDeviceId deviceId).run s = (.ok (), t) ↔ Text.isBlank deviceId = false ∧ s = t := by
  unfold requireDeviceId
  rw [run_ite_refuse_eq_ok, run_pure_eq_ok, Bool.not_eq_true]
  exact and_congr_right fun _ => ⟨And.right, fun h => ⟨rfl, h⟩⟩

theorem run_ensureDeviceOwner_eq_ok {userId deviceId : String} :
    (ensureDeviceOwner userId deviceId).run s = (.ok (), t) ↔
      (∃ device, s.deviceById deviceId = some device ∧ device.userId = userId) ∧ s = t := by
  unfold ensureDeviceOwner
  simp only [run_bind_eq_ok, run_lookup_eq_ok, run_ite_refuse_eq_ok, run_pure_eq_ok, not_not,
    true_and]
  constructor
  · rintro ⟨device, _, ⟨hdevice, rfl⟩, howner, rfl⟩
    exact ⟨⟨device, hdevice, howner⟩, rfl⟩
  · rintro ⟨⟨device, hdevice, howner⟩, rfl⟩
    exact ⟨device, s, ⟨hdevice, rfl⟩, howner, rfl⟩

theorem run_ensureSomeMember_eq_ok {networkId : String} {devices : List Device} :
    (ensureSomeMember networkId devices).run s = (.ok (), t) ↔
      (∃ device ∈ devices, (s.memberByNetworkDevice networkId device.deviceId).isSome) ∧ s = t := by
  induction devices with
  | nil =>
    refine ⟨fun h => absurd h not_run_refuse_eq_ok, ?_⟩
    rintro ⟨⟨device, hmem, _⟩, _⟩
    cases hmem
  | cons device devices ih =>
    unfold ensureSomeMember
    rw [Program.run_bind, Program.run_query]
    simp only [List.mem_cons, exists_eq_or_imp]
    split
    · rename_i hmember
      rw [run_pure_eq_ok]
      exact ⟨fun h => ⟨.inl hmember, h.2⟩, fun h => ⟨rfl, h.2⟩⟩
    · rename_i hnone
      rw [ih, or_iff_right hnone]

theorem run_ensureNetworkAccess_eq_ok {userId networkId : String} :
    (ensureNetworkAccess userId networkId).run s = (.ok (), t) ↔
      (∃ record, s.networkById networkId = some record ∧
        (record.ownerUserId = userId ∨ ∃ device ∈ s.devicesByUser userId,
          (s.memberByNetworkDevice networkId device.deviceId).isSome)) ∧ s = t := by
  unfold ensureNetworkAccess
  simp only [run_bind_eq_ok, run_lookup_eq_ok]
  constructor
  · rintro ⟨record, _, ⟨hrecord, rfl⟩, h⟩
    split at h
    · rename_i howner
      exact ⟨⟨record, hrecord, .inl howner⟩, (run_pure_eq_ok.mp h).2⟩
    · obtain ⟨_, _, hdevices, h⟩ := run_bind_eq_ok.mp h
      obtain ⟨rfl, rfl⟩ := run_query_eq_ok.mp hdevices
      obtain ⟨hmember, hstate⟩ := run_ensureSomeMember_eq_ok.mp h
      exact ⟨⟨record, hrecord, .inr hmember⟩, hstate⟩
  · rintro ⟨⟨record, hrecord, haccess⟩, rfl⟩
    refine ⟨record, s, ⟨hrecord, rfl⟩, ?_⟩
    split
    · rfl
    · rename_i howner
      exact run_bind_eq_ok.mpr ⟨_, s, rfl,
        run_ensureSomeMember_eq_ok.mpr ⟨haccess.resolve_left howner, rfl⟩⟩

theorem run_loadNetworkForDevice_eq_ok {userId networkId deviceId : String} {allowOwner : Bool}
    {record : Network}
    (h : (loadNetworkForDevice userId networkId deviceId allowOwner).run s = (.ok record, t)) :
    s.networkById networkId = some record ∧
      ∃ device, s.deviceById deviceId = some device ∧ device.userId = userId := by
  unfold loadNetworkForDevice at h
  obtain ⟨found, _, hfoundRun, h⟩ := run_bind_eq_ok.mp h
  obtain ⟨hfound, rfl⟩ := run_lookup_eq_ok.mp hfoundRun
  obtain ⟨_, _, hdeviceRun, h⟩ := run_bind_eq_ok.mp h
  obtain ⟨hdevice, rfl⟩ := run_ensureDeviceOwner_eq_ok.mp hdeviceRun
  obtain ⟨access, _, _, h⟩ := run_bind_eq_ok.mp h
  have hrecord : found = record := by
    cases access with
    | ok _ => exact (run_pure_eq_ok.mp h).1
    | error err =>
      dsimp only at h
      split at h
      · exact absurd h Program.not_run_fail_eq_ok
      · exact (run_pure_eq_ok.mp h).1
  exact ⟨hrecord ▸ hfound, hdevice⟩

theorem run_loadNetworkOfOwner_eq_ok {userId ownerEmail deviceId : String} {record : Network}
    (h : (loadNetworkOfOwner userId ownerEmail deviceId).run s = (.ok record, t)) :
    record ∈ s.networks ∧
      ∃ device, s.deviceById deviceId = some device ∧ device.userId = userId := by
  unfold loadNetworkOfOwner at h
  obtain ⟨_, h⟩ := run_ite_refuse_eq_ok.mp h
  obtain ⟨_, _, hblankRun, h⟩ := run_bind_eq_ok.mp h
  obtain ⟨_, rfl⟩ := run_requireDeviceId_eq_ok.mp hblankRun
  obtain ⟨target, _, htargetRun, h⟩ := run_bind_eq_ok.mp h
  unfold lookupOwnedNetworkByOwnerEmail at htargetRun
  obtain ⟨owner, _, hownerRun, hfoundRun⟩ := run_bind_eq_ok.mp htargetRun
  obtain ⟨_, rfl⟩ := run_lookup_eq_ok.mp hownerRun
  obtain ⟨hfound, rfl⟩ := run_lookup_eq_ok.mp hfoundRun
  obtain ⟨_, _, hdeviceRun, h⟩ := run_bind_eq_ok.mp h
  obtain ⟨hdevice, rfl⟩ := run_ensureDeviceOwner_eq_ok.mp hdeviceRun
  obtain ⟨rfl, _⟩ := run_pure_eq_ok.mp h
  exact ⟨(Relation.mem_of_firstBy hfound).1, hdevice⟩

/-- The key is cleared as the network is found. -/
theorem run_loadNetworkByKey_eq_ok {userId joinKey deviceId : String} {record : Network}
    (h : (loadNetworkByKey userId joinKey deviceId).run s = (.ok record, t)) :
    record ∈ s.networks ∧
      (∃ device, s.deviceById deviceId = some device ∧ device.userId = userId) ∧
      t = s.clearNetworkJoinKey record.networkId (Text.trim joinKey) := by
  unfold loadNetworkByKey at h
  obtain ⟨_, h⟩ := run_ite_refuse_eq_ok.mp h
  obtain ⟨_, _, hblankRun, h⟩ := run_bind_eq_ok.mp h
  obtain ⟨_, rfl⟩ := run_requireDeviceId_eq_ok.mp hblankRun
  obtain ⟨_, _, hdeviceRun, h⟩ := run_bind_eq_ok.mp h
  obtain ⟨hdevice, rfl⟩ := run_ensureDeviceOwner_eq_ok.mp hdeviceRun
  unfold consumeNetworkByJoinKey at h
  obtain ⟨found, _, hfoundRun, h⟩ := run_bind_eq_ok.mp h
  obtain ⟨hfound, rfl⟩ := run_lookup_eq_ok.mp hfoundRun
  obtain ⟨_, _, hclearRun, h⟩ := run_bind_eq_ok.mp h
  rw [Program.run_execNoting] at hclearRun
  obtain ⟨_, rfl⟩ := Prod.mk.inj hclearRun
  obtain ⟨rfl, rfl⟩ := run_pure_eq_ok.mp h
  exact ⟨(Relation.mem_of_firstBy hfound).1, hdevice, rfl⟩

theorem run_prepareNetwork_eq_ok {fresh : Fresh} {userId : String} {req : CreateNetworkRequest}
    {user : User} {network : Network} {subnet : Subnet}
    (h : (prepareNetwork fresh userId req).run s = (.ok (user, network, subnet), t)) :
    s.ownedNetworkByUser userId = none ∧
      (Text.trim req.bindDeviceId ≠ "" → ∃ device,
        s.deviceById (Text.trim req.bindDeviceId) = some device ∧ device.userId = userId) ∧
      s.userById userId = some user ∧
      network.networkId = Control.newId "net" fresh.network ∧ network.ownerUserId = userId ∧
      subnet.subnetId = Control.newId "subnet" fresh.subnet ∧
      subnet.networkId = network.networkId ∧ network.defaultSubnetId = subnet.subnetId ∧
      Text.trim req.name ≠ "" ∧ ∃ range, subnetRange req.cidr "" "" "" = .ok range := by
  unfold prepareNetwork at h
  obtain ⟨hname, h⟩ := run_ite_refuse_eq_ok.mp h
  obtain ⟨owned, _, hownedRun, h⟩ := run_bind_eq_ok.mp h
  obtain ⟨rfl, rfl⟩ := run_query_eq_ok.mp hownedRun
  cases hnone : s.ownedNetworkByUser userId with
  | some owned =>
    rw [hnone] at h
    exact absurd h not_run_refuse_eq_ok
  | none =>
    rw [hnone] at h
    obtain ⟨_, _, hbindRun, h⟩ := run_bind_eq_ok.mp h
    obtain ⟨user', _, huserRun, h⟩ := run_bind_eq_ok.mp h
    obtain ⟨huser, rfl⟩ := run_lookupOr_eq_ok.mp huserRun
    dsimp only at h
    obtain ⟨subnet', _, hsubnetRun, h⟩ := run_bind_eq_ok.mp h
    obtain ⟨hsubnet, rfl⟩ := run_checked_eq_ok.mp hsubnetRun
    obtain ⟨hresult, rfl⟩ := run_pure_eq_ok.mp h
    obtain ⟨rfl, rfl, rfl⟩ : user' = user ∧ _ = network ∧ subnet' = subnet := by
      simpa only [Prod.mk.injEq] using hresult
    obtain ⟨_, hparse, hroomy, rfl⟩ := newSubnet_default_eq_ok.mp hsubnet
    have hrange : ∃ range, subnetRange req.cidr "" "" "" = .ok range :=
      ⟨_, subnetRange_default_eq_ok.mpr ⟨_, hparse, hroomy, rfl⟩⟩
    unfold onlyIf at hbindRun
    by_cases hbound : Text.trim req.bindDeviceId = ""
    · rw [hbound, bne_self_eq_false, if_neg Bool.false_ne_true] at hbindRun
      obtain ⟨_, rfl⟩ := run_pure_eq_ok.mp hbindRun
      exact ⟨rfl, fun hne => absurd hbound hne, huser, rfl, rfl, rfl, rfl, rfl, hname, hrange⟩
    · rw [if_pos (bne_iff_ne.mpr hbound)] at hbindRun
      obtain ⟨hdevice, rfl⟩ := run_ensureDeviceOwner_eq_ok.mp hbindRun
      exact ⟨rfl, fun _ => hdevice, huser, rfl, rfl, rfl, rfl, rfl, hname, hrange⟩

theorem run_requireNodeSession_iff {userId nodeId networkId : String} {node : Control.Node} :
    (requireNodeSession userId nodeId networkId).run s = (.ok node, t) ↔
      ((Text.isBlank nodeId = false ∧ Text.isBlank networkId = false) ∧
        (s.nodeById nodeId = some node ∧ node.userId = userId) ∧
        (∃ record, s.networkById networkId = some record ∧
          (record.ownerUserId = userId ∨ ∃ device ∈ s.devicesByUser userId,
            (s.memberByNetworkDevice networkId device.deviceId).isSome)) ∧
        ∃ member, s.memberByNetworkDevice networkId node.deviceId = some member) ∧ s = t := by
  unfold requireNodeSession
  simp only [run_ite_refuse_eq_ok, run_bind_eq_ok, run_lookup_eq_ok, run_lookupOr_eq_ok,
    run_pure_eq_ok, not_or, Bool.not_eq_true, not_not]
  constructor
  · rintro ⟨hnamed, _, _, ⟨hfound, rfl⟩, howner, _, _, haccessRun, member, _, ⟨hmember, rfl⟩,
      rfl, rfl⟩
    obtain ⟨haccess, rfl⟩ := run_ensureNetworkAccess_eq_ok.mp haccessRun
    exact ⟨⟨hnamed, ⟨hfound, howner⟩, haccess, member, hmember⟩, rfl⟩
  · rintro ⟨⟨hnamed, ⟨hfound, howner⟩, haccess, member, hmember⟩, rfl⟩
    exact ⟨hnamed, node, s, ⟨hfound, rfl⟩, howner, (), s,
      run_ensureNetworkAccess_eq_ok.mpr ⟨haccess, rfl⟩, member, s, ⟨hmember, rfl⟩, rfl, rfl⟩

theorem run_requireNodeSession_eq_ok {userId nodeId networkId : String} {node : Control.Node}
    (h : (requireNodeSession userId nodeId networkId).run s = (.ok node, t)) :
    (s.nodeById nodeId = some node ∧ node.userId = userId) ∧
      ∃ member, s.memberByNetworkDevice networkId node.deviceId = some member := by
  obtain ⟨⟨_, hnode, _, hmember⟩, _⟩ := run_requireNodeSession_iff.mp h
  exact ⟨hnode, hmember⟩

theorem run_ownNetwork_eq_ok {userId networkId : String} {record : Network} :
    (ownNetwork userId networkId).run s = (.ok record, t) ↔
      (s.networkById networkId = some record ∧ record.ownerUserId = userId) ∧ s = t := by
  unfold ownNetwork
  simp only [run_bind_eq_ok, run_lookup_eq_ok, run_ite_refuse_eq_ok, run_pure_eq_ok, not_not]
  constructor
  · rintro ⟨record, _, ⟨hrecord, rfl⟩, howner, rfl, rfl⟩
    exact ⟨⟨hrecord, howner⟩, rfl⟩
  · rintro ⟨⟨hrecord, howner⟩, rfl⟩
    exact ⟨record, s, ⟨hrecord, rfl⟩, howner, rfl, rfl⟩

theorem run_ownAttachment_eq_ok {userId networkId attachmentId : String}
    {attachment : SubnetAttachment}
    (h : (ownAttachment userId networkId attachmentId).run s = (.ok attachment, t)) :
    (attachment ∈ s.attachments ∧ attachment.attachmentId = attachmentId) ∧ s = t := by
  unfold ownAttachment at h
  simp only [run_bind_eq_ok, run_ownNetwork_eq_ok, run_lookup_eq_ok, run_ite_refuse_eq_ok,
    run_pure_eq_ok] at h
  obtain ⟨_, _, ⟨_, rfl⟩, _, _, ⟨hfound, rfl⟩, _, rfl, rfl⟩ := h
  exact ⟨attachmentById_eq_some hfound, rfl⟩

/-- What may be reserved is the text that is asked for, if no other attachment holds it. -/
theorem run_reserve_eq_ok {networkId subnetId attachmentId ip reserved : String}
    (h : (reserve networkId subnetId attachmentId ip).run s = (.ok reserved, t)) :
    reserved = ip ∧ s = t ∧ ∀ row ∈ s.attachments, row.subnetId = subnetId →
      row.virtualIp = ip → row.attachmentId = attachmentId := by
  unfold reserve conflict at h
  simp only [run_bind_eq_ok, run_lookup_eq_ok, run_ite_refuse_eq_ok, run_query_eq_ok,
    run_pure_eq_ok] at h
  obtain ⟨_, _, ⟨_, rfl⟩, _, _, _, _, ⟨rfl, rfl⟩, hfree, rfl, rfl⟩ := h
  refine ⟨rfl, rfl, fun row hrow hsubnet hip => ?_⟩
  by_contra hid
  refine hfree (List.any_eq_true.mpr ⟨row, ?_, ?_⟩)
  · exact Relation.mem_orderBy.mpr (Relation.mem_select.mpr ⟨hrow, beq_iff_eq.mpr hsubnet⟩)
  · rw [Bool.and_eq_true, bne_iff_ne, beq_iff_eq]
    exact ⟨hid, hip⟩

theorem run_prepareAttachmentIp_eq_ok {userId networkId attachmentId virtualIp reserved : String}
    {attachment : SubnetAttachment}
    (h : (prepareAttachmentIp userId networkId attachmentId virtualIp).run s =
      (.ok (attachment, reserved), t)) :
    attachment ∈ s.attachments ∧ reserved = virtualIp ∧
      ∀ row ∈ s.attachments, row.subnetId = attachment.subnetId → row.virtualIp = virtualIp →
        row = attachment := by
  unfold prepareAttachmentIp at h
  simp only [run_bind_eq_ok, run_lookup_eq_ok, run_pure_eq_ok, Prod.mk.injEq] at h
  obtain ⟨_, _, hown, _, _, ⟨_, rfl⟩, _, _, hfixed, _, _, hreserve, ⟨rfl, rfl⟩, _⟩ := h
  obtain ⟨⟨hmem, _⟩, rfl⟩ := run_ownAttachment_eq_ok hown
  obtain rfl := (each_requireFixedOwnerIp Program.reads_query _ _ _).eq_of_run hfixed
  obtain ⟨hreserved, _, hfree⟩ := run_reserve_eq_ok hreserve
  refine ⟨hmem, hreserved, fun row hrow hsubnet hip => ?_⟩
  exact Relation.eq_of_clash hrow hmem (.inl (hfree row hrow hsubnet hip))

theorem run_prepareUpdate_eq_ok {userId networkId : String} {req : UpdateNetworkRequest}
    {record : Network} {subnet : Subnet} :
    (prepareUpdate userId networkId req).run s = (.ok (record, subnet), t) ↔
      (s.networkById networkId = some record ∧ record.ownerUserId = userId) ∧
      Text.trim req.cidr ≠ "" ∧
      newSubnet record.networkId record.defaultSubnetId "default" (Text.trim req.cidr) "" "" ""
        true = .ok subnet ∧ s = t := by
  unfold prepareUpdate
  simp only [run_bind_eq_ok, run_ownNetwork_eq_ok, run_ite_refuse_eq_ok, run_checked_eq_ok,
    run_pure_eq_ok, Prod.mk.injEq]
  constructor
  · rintro ⟨record, _, ⟨hrecord, rfl⟩, hcidr, subnet, _, ⟨hsubnet, rfl⟩, ⟨rfl, rfl⟩, rfl⟩
    exact ⟨hrecord, hcidr, hsubnet, rfl⟩
  · rintro ⟨hrecord, hcidr, hsubnet, rfl⟩
    exact ⟨record, s, ⟨hrecord, rfl⟩, hcidr, subnet, s, ⟨hsubnet, rfl⟩, ⟨rfl, rfl⟩, rfl⟩

end Helpers

end Slan.Networks
