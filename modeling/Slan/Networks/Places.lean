import Slan.Networks.Operations

/-! # Which devices there are, and which nodes they have

Only the two registrations write to these tables.
-/

namespace Slan.Networks

open Program (Each Keeps Triple)

structure SamePlaces (s t : Store) : Prop where
  devices : t.devices = s.devices
  nodes : t.nodes = s.nodes

def KeepsPlaces (_ : Store → List KeyEvent) (write : Store → Store) : Prop :=
  ∀ s, SamePlaces s (write s)

section Same

variable {s t u : Store}

theorem SamePlaces.refl (s : Store) : SamePlaces s s := ⟨rfl, rfl⟩

theorem SamePlaces.trans (h : SamePlaces s t) (h' : SamePlaces t u) : SamePlaces s u :=
  ⟨h'.devices.trans h.devices, h'.nodes.trans h.nodes⟩

theorem SamePlaces.of_eq (h : t = s) : SamePlaces s t := h ▸ .refl s

/-- Every device stays, and has its status unless it is the one of the user's machine. -/
theorem upsertDevice_keeps {row : Device} (hwrite : s.upsertDeviceByUserMachine row = some t) :
    t.nodes = s.nodes ∧ ∀ device ∈ s.devices, ∃ after ∈ t.devices,
      after.deviceId = device.deviceId ∧ (after.status = device.status ∨
        device.userId = row.userId ∧ device.machineId = row.machineId) := by
  unfold Store.upsertDeviceByUserMachine at hwrite
  split at hwrite
  · dsimp only at hwrite
    obtain rfl := Option.some.inj hwrite
    refine ⟨rfl, fun device hmem => ⟨_, Relation.mem_def.mpr (List.mem_map_of_mem hmem), ?_⟩⟩
    split
    · rename_i hrow
      exact ⟨rfl, .inr hrow⟩
    · exact ⟨rfl, .inl rfl⟩
  · obtain ⟨devices, hinsert, rfl⟩ := Option.map_eq_some_iff.mp hwrite
    exact ⟨rfl, fun device hmem => ⟨device, (Relation.mem_insert hinsert).mpr (.inl hmem), rfl,
      .inl rfl⟩⟩

end Same

/-! ## Statements -/

section Statements

variable {note : Store → List KeyEvent}

/-- A write that may be refused. -/
theorem keepsPlaces_of_option {write : Store → Option Store}
    (h : ∀ s t, write s = some t → SamePlaces s t) :
    KeepsPlaces note fun s => (write s).getD s := by
  intro s
  dsimp only
  cases hwrite : write s with
  | none => exact .refl s
  | some t => exact h s t hwrite

theorem keepsPlaces_createUser (row : User) :
    KeepsPlaces note fun s => (s.createUser row).getD s := by
  refine keepsPlaces_of_option fun s t hwrite => ?_
  obtain ⟨_, _, rfl⟩ := Option.map_eq_some_iff.mp hwrite
  exact ⟨rfl, rfl⟩

theorem keepsPlaces_createMember (row : NetworkMember) :
    KeepsPlaces note fun s => (s.createMember row).getD s := by
  refine keepsPlaces_of_option fun s t hwrite => ?_
  obtain ⟨_, _, rfl⟩ := Option.map_eq_some_iff.mp hwrite
  exact ⟨rfl, rfl⟩

theorem keepsPlaces_createSubnet (row : Subnet) :
    KeepsPlaces note fun s => (s.createSubnet row).getD s := by
  refine keepsPlaces_of_option fun s t hwrite => ?_
  obtain ⟨_, _, rfl⟩ := Option.map_eq_some_iff.mp hwrite
  exact ⟨rfl, rfl⟩

theorem keepsPlaces_createAttachment (row : SubnetAttachment) :
    KeepsPlaces note fun s => (s.createAttachment row).getD s := by
  refine keepsPlaces_of_option fun s t hwrite => ?_
  obtain ⟨_, _, rfl⟩ := Option.map_eq_some_iff.mp hwrite
  exact ⟨rfl, rfl⟩

theorem keepsPlaces_updateAttachmentVirtualIp (attachmentId ip : String) :
    KeepsPlaces note fun s => (s.updateAttachmentVirtualIp attachmentId ip).getD s := by
  refine keepsPlaces_of_option fun s t hwrite => ?_
  obtain ⟨_, _, rfl⟩ := Option.map_eq_some_iff.mp hwrite
  exact ⟨rfl, rfl⟩

theorem keepsPlaces_createNetwork (network : Network) (subnet : Subnet) :
    KeepsPlaces note fun s => (s.createNetworkWithDefaultSubnet network subnet).getD s := by
  refine keepsPlaces_of_option fun s t hwrite => ?_
  unfold Store.createNetworkWithDefaultSubnet at hwrite
  obtain ⟨_, _, hwrite⟩ := Option.bind_eq_some_iff.mp hwrite
  obtain ⟨_, _, hwrite⟩ := Option.bind_eq_some_iff.mp hwrite
  obtain rfl := Option.some.inj hwrite
  exact ⟨rfl, rfl⟩

theorem movesDevices_keepsPlaces : MovesDevices KeepsPlaces where
  query := .refl
  sessions _ _ _ := ⟨rfl, rfl⟩
  attachments _ _ _ := ⟨rfl, rfl⟩
  members _ _ _ := ⟨rfl, rfl⟩
  active _ _ _ := ⟨rfl, rfl⟩
  member := keepsPlaces_createMember

end Statements

/-! ## Calls -/

section Calls

variable {s : Store}

theorem samePlaces_after {α : Type} {p : Call α} (h : Each KeepsPlaces p) :
    SamePlaces s (p.after s) :=
  ((h.mono fun _ _ hsame t (ht : SamePlaces s t) => ht.trans (hsame t)).keeps).after (.refl s)

/-- The two that write to the tables. -/
def Operation.registers : Operation → Bool
  | .registerDevice .. | .registerNode .. => true
  | _ => false

theorem each_attach (fresh : Fresh) (userId networkId subnetId deviceId : String) :
    Each KeepsPlaces (attachDevice fresh userId networkId subnetId deviceId) := by
  have hq : KeepsPlaces (fun _ => []) id := movesDevices_keepsPlaces.query
  refine (each_requireDeviceId deviceId).bind fun _ => ?_
  refine (each_ensureNetworkAccess hq userId networkId).bind fun _ => ?_
  refine (each_ensureDeviceOwner hq userId deviceId).bind fun _ => ?_
  refine (each_lookupOr hq _ _).bind fun subnet => ?_
  split
  · exact .fail _
  · exact (each_lookupOr hq _ _).bind fun _ =>
      each_ensureAttachment hq keepsPlaces_createAttachment fresh networkId subnetId deviceId

theorem each_provision (fresh : Fresh) (userId deviceId : String) :
    Each KeepsPlaces (ensureDeviceProvisionedInActiveNetwork fresh userId deviceId) := by
  have hmoves := movesDevices_keepsPlaces
  have hq := hmoves.query
  unfold ensureDeviceProvisionedInActiveNetwork
  split
  · exact .pure ()
  · refine (hmoves.provisionedNetwork keepsPlaces_createNetwork fresh userId).bind
      fun record => ?_
    refine (each_membershipRole hq _ _ _ _).bind fun role => ?_
    refine (each_ensureMember hq hmoves.member fresh record.networkId deviceId role).bind
      fun _ => ?_
    exact (each_ensureAttachment hq keepsPlaces_createAttachment fresh _ _ _).bind fun _ =>
      .pure ()

theorem samePlaces_request (sameName : String → String → Bool) {r : Request}
    (hother : r.operation.registers = false) : SamePlaces s (r.after sameName s) := by
  have hmoves := movesDevices_keepsPlaces
  have hq := hmoves.query
  have hnetwork := @keepsPlaces_createNetwork fun _ => []
  have hip := @keepsPlaces_updateAttachmentVirtualIp fun _ => []
  obtain ⟨fresh, operation⟩ := r
  refine samePlaces_after ?_
  cases operation with
  | registerDevice | registerNode => cases hother
  | registerUser email password =>
    exact hmoves.registerUser hnetwork keepsPlaces_createUser fresh email password
  | seedDefaultAdmin email =>
    exact each_seedDefaultAdmin hq (fun _ _ => keepsPlaces_createUser _) fresh email
  | create userId req => exact (hmoves.create hnetwork fresh userId req).void
  | update userId networkId req =>
    exact (each_update hq hip (fun _ _ => ⟨rfl, rfl⟩) (fun _ _ _ _ _ => ⟨rfl, rfl⟩) userId
      networkId req).void
  | updateJoinKey userId networkId joinKey =>
    exact (each_updateJoinKey hq (fun _ _ _ _ => ⟨rfl, rfl⟩) fresh userId networkId joinKey).void
  | createSubnet userId networkId req =>
    exact (each_createSubnet hq keepsPlaces_createSubnet sameName fresh userId networkId req).void
  | join userId networkId deviceId => exact (hmoves.join fresh userId networkId deviceId).void
  | joinByOwnerEmail userId ownerEmail deviceId =>
    exact (hmoves.joinByOwnerEmail fresh userId ownerEmail deviceId).void
  | joinByKey userId joinKey deviceId =>
    exact (hmoves.joinByKey (fun _ _ _ _ => ⟨rfl, rfl⟩) fresh userId joinKey deviceId).void
  | switch userId networkId deviceId => exact (hmoves.switch fresh userId networkId deviceId).void
  | activate userId networkId deviceId =>
    refine Each.void ((each_requireDeviceId deviceId).bind fun _ => ?_)
    refine (each_loadNetworkForDevice hq userId networkId deviceId false).bind fun record => ?_
    refine (hmoves.ensureActiveMemberForNetwork fresh userId deviceId record).bind fun member => ?_
    exact (each_ensureAttachment hq keepsPlaces_createAttachment fresh networkId
      record.defaultSubnetId deviceId).bind fun _ => .pure _
  | deactivate userId networkId deviceId =>
    exact each_deactivate hq (fun _ _ _ => ⟨rfl, rfl⟩) userId networkId deviceId
  | attachDevice userId networkId subnetId deviceId =>
    exact (each_attach fresh userId networkId subnetId deviceId).void
  | reserve networkId subnetId attachmentId ip =>
    exact (each_reserve hq networkId subnetId attachmentId ip).void
  | release attachmentId => exact each_release hip attachmentId
  | updateAttachmentIp userId networkId attachmentId virtualIp =>
    exact (each_updateAttachmentIp hq hip userId networkId attachmentId virtualIp).void
  | updateAttachmentRemark userId networkId attachmentId remark =>
    exact each_updateAttachmentRemark hq (fun _ _ _ => ⟨rfl, rfl⟩) userId networkId attachmentId
      remark
  | bootstrap session userId nodeId networkId =>
    exact hmoves.bootstrap (fun _ _ => ⟨rfl, rfl⟩) fresh session userId nodeId networkId

/-- A registration that is not refused before it writes. -/
def RegistersDevice (s : Store) (userId : String) (req : RegisterDeviceRequest) : Prop :=
  ¬(Text.isBlank req.name ∨ Text.isBlank req.platform ∨ Text.isBlank req.machineId ∨
      Text.isBlank req.publicKey) ∧ (s.userById userId).isSome = true

theorem registerDevice_after (fresh : Fresh) (userId : String) (req : RegisterDeviceRequest) :
    SamePlaces s ((registerDevice fresh userId req).after s) ∨
      RegistersDevice s userId req ∧ ∃ row t, row.userId = userId ∧
        row.machineId = req.machineId ∧ s.upsertDeviceByUserMachine row = some t ∧
        SamePlaces t ((registerDevice fresh userId req).after s) := by
  let R : Store → Prop := fun u => SamePlaces s u ∨
    RegistersDevice s userId req ∧ ∃ row t, row.userId = userId ∧
      row.machineId = req.machineId ∧ s.upsertDeviceByUserMachine row = some t ∧ SamePlaces t u
  have hkept : ∀ {α : Type} {p : Call α}, Each KeepsPlaces p → Keeps R p := by
    intro α p h
    refine (h.mono fun _ write hsame u (hu : R u) => ?_).keeps
    rcases hu with hu | ⟨hok, row, t, huser, hmachine, hwrite, hu⟩
    · exact .inl (hu.trans (hsame u))
    · exact .inr ⟨hok, row, t, huser, hmachine, hwrite, hu.trans (hsame u)⟩
  have hq : Program.Reads (fun _ : Store => ([] : List KeyEvent)) id := Program.reads_query
  have hmoves := movesDevices_keepsPlaces
  have hstart : ∀ u, u = s → R u := fun u hu => .inl (.of_eq hu)
  have htriple : Triple (fun u => u = s) (registerDevice fresh userId req) (fun _ => R)
      fun _ => R := by
    refine .bind (R := fun _ u => u = s ∧ ¬(Text.isBlank req.name ∨ Text.isBlank req.platform ∨
      Text.isBlank req.machineId ∨ Text.isBlank req.publicKey)) ?_ fun _ => .of_and fun hnamed => ?_
    · unfold requireRegisterDeviceRequest
      split
      · exact .fail hstart
      · rename_i hnamed
        exact .pure fun u hu => ⟨hu, hnamed⟩
    refine .bind (R := fun _ u => u = s ∧ RegistersDevice s userId req)
      ((each_lookupOr hq _ _).triple (fun u user hu hrun => ⟨hu, hnamed, ?_⟩)
        fun u _ hu => hstart u hu) fun _ => .of_and fun hok => ?_
    · rw [← hu, (run_lookupOr_eq_ok.mp hrun).1]
      rfl
    refine .bind (R := fun _ => R) (.bind (R := fun _ => R) (.execOr (fun u hu t hwrite => ?_)
      fun u hu _ => hstart u hu) fun _ => ?_) fun record => ?_
    · rw [hu] at hwrite
      exact .inr ⟨hok, _, t, rfl, rfl, hwrite, .refl t⟩
    · exact (hkept (each_lookupOr hmoves.query _ _)).triple
    · refine (hkept (Each.bind ?_ fun _ => .pure record)).triple
      exact each_provision fresh userId record.deviceId
  exact htriple.after rfl

theorem registerNode_after (userId : String) (req : Control.Directory.RegisterNodeRequest) :
    SamePlaces s ((registerNode userId req).after s) ∨
      Control.Directory.requireRegisterNodeRequest req = .ok () ∧
        (∃ device ∈ s.devices, device.deviceId = req.deviceId ∧ device.userId = userId) ∧
        s.upsertNode ⟨req.nodeId, userId, req.deviceId, req.nodePublicKey, req.capabilities⟩ =
          some ((registerNode userId req).after s) := by
  unfold Program.after
  cases hrun : (registerNode userId req).run s with
  | mk result t =>
    cases result with
    | ok =>
      obtain ⟨_, _, hchecked, hrun⟩ := Program.run_bind_eq_ok.mp hrun
      obtain ⟨hvalid, rfl⟩ := run_checked_eq_ok.mp hchecked
      obtain ⟨_, _, howned, hrun⟩ := Program.run_bind_eq_ok.mp hrun
      obtain ⟨⟨device, hdevice, howner⟩, rfl⟩ := run_ensureDeviceOwner_eq_ok.mp howned
      obtain ⟨hmem, hid⟩ := deviceById_eq_some hdevice
      exact .inr ⟨hvalid, ⟨device, hmem, hid, howner⟩, run_insert_eq_ok.mp hrun⟩
    | error err =>
      have hrefused : Triple (fun u => u = s) (registerNode userId req) (fun _ _ => True)
          fun _ u => u = s := by
        have hq : Program.Reads (fun _ : Store => ([] : List KeyEvent)) id := Program.reads_query
        refine .bind (R := fun _ u => u = s) ((each_checked _).triple (fun _ _ hu _ => hu)
          fun _ _ hu => hu) fun _ => ?_
        refine .bind (R := fun _ u => u = s) ((each_ensureDeviceOwner hq _ _).triple
          (fun _ _ hu _ => hu) fun _ _ hu => hu) fun _ => ?_
        exact .execOr (fun _ _ _ _ => trivial) fun _ hu _ => hu
      exact .inl (.of_eq (hrefused.of_run_error rfl hrun))

end Calls

end Slan.Networks
