import Slan.Networks.Operations

/-! # Which network a subnet and an attachment belong to -/

namespace Slan.Networks

open Program (Each Keeps Triple)

/-- There is such a subnet in such a network. -/
def Store.Houses (s : Store) (subnetId networkId : String) : Prop :=
  ∃ subnet ∈ s.subnets, subnet.subnetId = subnetId ∧ subnet.networkId = networkId

/-- Subnets belong to networks, attachments to the network of their subnet. -/
structure Housed (s : Store) : Prop where
  subnetRow : ∀ subnet ∈ s.subnets, ∃ n ∈ s.networks, n.networkId = subnet.networkId
  defaultRow : ∀ n ∈ s.networks, s.Houses n.defaultSubnetId n.networkId
  attachmentRow : ∀ a ∈ s.attachments, s.Houses a.subnetId a.networkId

theorem housed_empty : Housed ∅ where
  subnetRow _ h := absurd h (Relation.not_mem_empty _)
  defaultRow _ h := absurd h (Relation.not_mem_empty _)
  attachmentRow _ h := absurd h (Relation.not_mem_empty _)

/-- The same subnets, networks of the same identifiers, and no attachment to another subnet. -/
structure SameHouses (s t : Store) : Prop where
  subnets : t.subnets = s.subnets
  networks : (t.networks.rows.map fun n => (n.networkId, n.defaultSubnetId)) =
    s.networks.rows.map fun n => (n.networkId, n.defaultSubnetId)
  attachments : ∀ a ∈ t.attachments, ∃ b ∈ s.attachments,
    a.subnetId = b.subnetId ∧ a.networkId = b.networkId

section Same

variable {s t u : Store}

theorem SameHouses.refl (s : Store) : SameHouses s s :=
  ⟨rfl, rfl, fun a ha => ⟨a, ha, rfl, rfl⟩⟩

theorem SameHouses.trans (h : SameHouses s t) (h' : SameHouses t u) : SameHouses s u where
  subnets := h'.subnets.trans h.subnets
  networks := h'.networks.trans h.networks
  attachments a ha := by
    obtain ⟨b, hb, hsubnet, hnetwork⟩ := h'.attachments a ha
    obtain ⟨c, hc, hsubnet', hnetwork'⟩ := h.attachments b hb
    exact ⟨c, hc, hsubnet.trans hsubnet', hnetwork.trans hnetwork'⟩

theorem SameHouses.houses (h : SameHouses s t) {subnetId networkId : String} :
    t.Houses subnetId networkId ↔ s.Houses subnetId networkId := by
  unfold Store.Houses
  rw [h.subnets]

theorem SameHouses.network (h : SameHouses s t) {n : Network} (hn : n ∈ t.networks) :
    ∃ m ∈ s.networks, m.networkId = n.networkId ∧ m.defaultSubnetId = n.defaultSubnetId := by
  have hmem : (n.networkId, n.defaultSubnetId) ∈
      s.networks.rows.map fun n => (n.networkId, n.defaultSubnetId) :=
    h.networks ▸ List.mem_map_of_mem hn
  obtain ⟨m, hm, hkeys⟩ := List.mem_map.mp hmem
  exact ⟨m, hm, Prod.mk.inj hkeys⟩

theorem SameHouses.symm_network (h : SameHouses s t) {n : Network} (hn : n ∈ s.networks) :
    ∃ m ∈ t.networks, m.networkId = n.networkId := by
  have hmem : (n.networkId, n.defaultSubnetId) ∈
      t.networks.rows.map fun n => (n.networkId, n.defaultSubnetId) :=
    h.networks ▸ List.mem_map_of_mem hn
  obtain ⟨m, hm, hkeys⟩ := List.mem_map.mp hmem
  exact ⟨m, hm, (Prod.mk.inj hkeys).1⟩

theorem Housed.same (h : Housed s) (hsame : SameHouses s t) : Housed t where
  subnetRow subnet hmem := by
    rw [hsame.subnets] at hmem
    obtain ⟨n, hn, hid⟩ := h.subnetRow subnet hmem
    obtain ⟨m, hm, hsameId⟩ := hsame.symm_network hn
    exact ⟨m, hm, hsameId.trans hid⟩
  defaultRow n hn := by
    obtain ⟨m, hm, hid, hdefault⟩ := hsame.network hn
    rw [hsame.houses, ← hid, ← hdefault]
    exact h.defaultRow m hm
  attachmentRow a ha := by
    obtain ⟨b, hb, hsubnet, hnetwork⟩ := hsame.attachments a ha
    rw [hsame.houses, hsubnet, hnetwork]
    exact h.attachmentRow b hb

end Same

/-! ## Statements that add no row -/

def KeepsHouses (_ : Store → List KeyEvent) (write : Store → Store) : Prop :=
  ∀ s, SameHouses s (write s)

section Statements

variable {note : Store → List KeyEvent}

theorem keepsHouses_query : KeepsHouses note id := SameHouses.refl

/-- A write that may be refused. -/
theorem keepsHouses_of_option {write : Store → Option Store}
    (h : ∀ s t, write s = some t → SameHouses s t) :
    KeepsHouses note fun s => (write s).getD s := by
  intro s
  dsimp only
  cases hwrite : write s with
  | none => exact .refl s
  | some t => exact h s t hwrite

/-- A write of other tables. -/
theorem keepsHouses_of_eq {write : Store → Option Store}
    (h : ∀ s t, write s = some t → t.subnets = s.subnets ∧ t.networks = s.networks ∧
      t.attachments = s.attachments) : KeepsHouses note fun s => (write s).getD s := by
  refine keepsHouses_of_option fun s t hwrite => ?_
  obtain ⟨hsubnets, hnetworks, hattachments⟩ := h s t hwrite
  refine ⟨hsubnets, by rw [hnetworks], fun a ha => ?_⟩
  rw [hattachments] at ha
  exact ⟨a, ha, rfl, rfl⟩

theorem keepsHouses_createUser (row : User) :
    KeepsHouses note fun s => (s.createUser row).getD s := by
  refine keepsHouses_of_eq fun s t hwrite => ?_
  obtain ⟨_, _, rfl⟩ := Option.map_eq_some_iff.mp hwrite
  exact ⟨rfl, rfl, rfl⟩

theorem keepsHouses_createMember (row : NetworkMember) :
    KeepsHouses note fun s => (s.createMember row).getD s := by
  refine keepsHouses_of_eq fun s t hwrite => ?_
  obtain ⟨_, _, rfl⟩ := Option.map_eq_some_iff.mp hwrite
  exact ⟨rfl, rfl, rfl⟩

theorem keepsHouses_upsertDevice (row : Device) :
    KeepsHouses note fun s => (s.upsertDeviceByUserMachine row).getD s := by
  refine keepsHouses_of_eq fun s t hwrite => ?_
  unfold Store.upsertDeviceByUserMachine at hwrite
  split at hwrite
  · obtain rfl := Option.some.inj hwrite
    exact ⟨rfl, rfl, rfl⟩
  · obtain ⟨_, _, rfl⟩ := Option.map_eq_some_iff.mp hwrite
    exact ⟨rfl, rfl, rfl⟩

theorem keepsHouses_upsertNode (row : Control.Node) :
    KeepsHouses note fun s => (s.upsertNode row).getD s := by
  refine keepsHouses_of_eq fun s t hwrite => ?_
  unfold Store.upsertNode at hwrite
  split at hwrite
  · obtain rfl := Option.some.inj hwrite
    exact ⟨rfl, rfl, rfl⟩
  · obtain ⟨_, _, rfl⟩ := Option.map_eq_some_iff.mp hwrite
    exact ⟨rfl, rfl, rfl⟩

theorem keepsHouses_deleteAttachments (chosen : SubnetAttachment → Bool) :
    KeepsHouses note fun s => { s with attachments := s.attachments.delete chosen } :=
  fun _ => ⟨rfl, rfl, fun a ha => ⟨a, (Relation.mem_delete.mp ha).1, rfl, rfl⟩⟩

theorem keepsHouses_updateNetwork {chosen : Network → Bool} {f : Network → Network}
    {hf : ∀ row, (f row).networkId = row.networkId}
    (hdefault : ∀ row, (f row).defaultSubnetId = row.defaultSubnetId) :
    KeepsHouses note fun s => s.updateNetwork chosen f hf := by
  refine fun s => ⟨rfl, ?_, fun a ha => ⟨a, ha, rfl, rfl⟩⟩
  unfold Store.updateNetwork Relation.alter
  rw [List.map_map]
  refine List.map_congr_left fun n _ => ?_
  change ((if chosen n then f n else n).networkId,
    (if chosen n then f n else n).defaultSubnetId) = _
  split
  · rw [hf, hdefault]
  · rfl

/-- The rows are the same but for columns that say nothing of networks. -/
theorem sameHouses_of_attachments {s : Store}
    {attachments : Relation SubnetAttachment SubnetAttachment.Clash}
    {f : SubnetAttachment → SubnetAttachment} (hrows : attachments.rows = s.attachments.rows.map f)
    (hf : ∀ a, (f a).subnetId = a.subnetId ∧ (f a).networkId = a.networkId) :
    SameHouses s { s with attachments } := by
  refine ⟨rfl, rfl, fun a ha => ?_⟩
  change a ∈ attachments at ha
  rw [Relation.mem_def, hrows] at ha
  obtain ⟨b, hb, rfl⟩ := List.mem_map.mp ha
  exact ⟨b, hb, hf b⟩

theorem keepsHouses_updateAttachmentRemark (attachmentId remark : String) :
    KeepsHouses note fun s => s.updateAttachmentRemark attachmentId remark := by
  refine fun s => sameHouses_of_attachments rfl fun a => ?_
  split <;> exact ⟨rfl, rfl⟩

theorem keepsHouses_updateAttachmentVirtualIp (attachmentId ip : String) :
    KeepsHouses note fun s => (s.updateAttachmentVirtualIp attachmentId ip).getD s := by
  refine keepsHouses_of_option fun s t hwrite => ?_
  obtain ⟨attachments, hupdate, rfl⟩ := Option.map_eq_some_iff.mp hwrite
  refine sameHouses_of_attachments (Relation.update_eq_some.mp hupdate) fun a => ?_
  split <;> exact ⟨rfl, rfl⟩

theorem movesDevices_keepsHouses : MovesDevices KeepsHouses where
  query := keepsHouses_query
  sessions _ _ _ := ⟨rfl, rfl, fun a ha => ⟨a, ha, rfl, rfl⟩⟩
  attachments _ _ := keepsHouses_deleteAttachments _
  members _ _ _ := ⟨rfl, rfl, fun a ha => ⟨a, ha, rfl, rfl⟩⟩
  active _ _ _ := ⟨rfl, rfl, fun a ha => ⟨a, ha, rfl, rfl⟩⟩
  member := keepsHouses_createMember

end Statements

/-! ## What the calls keep that neither add nor resize a subnet of a network that exists -/

/-- A property that is kept where no row is added, and where a network with its subnet or an
attachment to a subnet of its network is. -/
structure Housing (I : Store → Prop) : Prop where
  same : ∀ {s t}, I s → SameHouses s t → I t
  housed : ∀ {s}, I s → Housed s
  network : ∀ {s t network subnet}, I s → subnet.networkId = network.networkId →
    network.defaultSubnetId = subnet.subnetId →
    s.createNetworkWithDefaultSubnet network subnet = some t → I t
  attachment : ∀ {s t row}, I s → s.Houses row.subnetId row.networkId →
    s.createAttachment row = some t → I t

section Calls

variable {I : Store → Prop}

theorem Housing.keeps (h : Housing I) {α : Type} {p : Call α} (hp : Each KeepsHouses p) :
    Keeps I p :=
  (hp.mono fun _ _ hsame _ hs => h.same hs (hsame _)).keeps

/-- With the property, that there is such a subnet is kept too. -/
theorem Housing.triple_houses (h : Housing I) {α : Type} {p : Call α} (hp : Each KeepsHouses p)
    (subnetId networkId : String) :
    Triple (fun s => I s ∧ s.Houses subnetId networkId) p
      (fun _ s => I s ∧ s.Houses subnetId networkId) fun _ => I := by
  have hkeeps : Keeps (fun s => I s ∧ s.Houses subnetId networkId) p :=
    (hp.mono fun _ _ hsame _ hs => ⟨h.same hs.1 (hsame _), (hsame _).houses.mpr hs.2⟩).keeps
  exact hkeeps.triple.imp (fun _ hs => hs) (fun _ _ hs => hs) fun _ _ hs => hs.1

theorem Housing.triple_ensureAttachment (h : Housing I) (fresh : Fresh)
    (networkId subnetId deviceId : String) :
    Triple (fun s => I s ∧ s.Houses subnetId networkId)
      (ensureAttachment fresh networkId subnetId deviceId) (fun _ => I) fun _ => I := by
  have hq : KeepsHouses (fun _ => []) id := keepsHouses_query
  refine .bind (h.triple_houses (.query hq _) _ _) fun found => ?_
  cases found with
  | some attachment => exact .pure fun s hs => hs.1
  | none =>
    refine .bind (h.triple_houses (each_lookupOr hq _ _) _ _) fun subnet => ?_
    refine .bind (h.triple_houses (each_allocateIp hq subnet) _ _) fun allocated => ?_
    refine .bind (h.triple_houses (.query hq _) _ _) fun member => ?_
    refine .bind (h.triple_houses (each_ownerPreference hq subnet member) _ _) fun preferred => ?_
    exact .bind (R := fun _ => I) (.execOr (fun s hs t hwrite => h.attachment hs.1 hs.2 hwrite)
      fun s hs _ => hs.1) fun _ => .pure fun s hs => hs

theorem Housing.keeps_create (h : Housing I) (fresh : Fresh) (userId : String)
    (req : CreateNetworkRequest) : Keeps I (create fresh userId req) := by
  refine Triple.keeps (Q := fun _ => I) (E := fun _ => I) ?_ (fun _ _ hs => hs) fun _ _ hs => hs
  refine .bind (R := fun prepared s => I s ∧ prepared.2.2.networkId = prepared.2.1.networkId ∧
      prepared.2.1.defaultSubnetId = prepared.2.2.subnetId)
    ((each_prepareNetwork Program.reads_query fresh userId req).triple (fun s prepared hs hrun => ?_)
      fun s _ hs => hs) fun prepared => ?_
  · obtain ⟨_, _, _, _, _, _, hnetwork, hdefault, _⟩ := run_prepareNetwork_eq_ok hrun
    exact ⟨hs, hnetwork, hdefault⟩
  obtain ⟨user, network, subnet⟩ := prepared
  refine .bind (R := fun _ => I) (.execOr (fun s hs t hwrite => ?_) fun s hs _ => hs.1) fun _ => ?_
  · exact h.network hs.1 hs.2.1 hs.2.2 hwrite
  have hmoves := movesDevices_keepsHouses
  refine Keeps.triple (h.keeps ((each_onlyIf _ (.exec (hmoves.active _ _))).bind fun _ => ?_))
  exact (each_onlyIf _ ((each_ensureMember hmoves.query hmoves.member fresh _ _ _).bind
    fun _ => .pure ())).bind fun _ => .pure network

theorem Housing.keeps_ensureOwnedNetwork (h : Housing I) (fresh : Fresh) (userId : String) :
    Keeps I (ensureOwnedNetwork fresh userId) := by
  refine Keeps.bind (.query _) fun existing => ?_
  cases existing with
  | some network => exact .pure network
  | none => exact h.keeps_create fresh userId _

theorem Housing.keeps_registerUser (h : Housing I) (fresh : Fresh) (email password : String) :
    Keeps I (registerUser fresh email password) := by
  unfold registerUser
  split
  · exact .fail _
  · refine Keeps.bind (.query _) fun existing => ?_
    split
    · exact .fail _
    · refine Keeps.bind (h.keeps (.execOr _ (keepsHouses_createUser _))) fun _ => ?_
      exact (h.keeps_ensureOwnedNetwork fresh _).bind fun _ => .pure ()

/-- A network that is found has its default subnet. -/
theorem Housing.houses_of_networkById (h : Housing I) {s : Store} (hs : I s) {networkId : String}
    {network : Network} (hfound : s.networkById networkId = some network) :
    s.Houses network.defaultSubnetId network.networkId :=
  (h.housed hs).defaultRow network (networkById_eq_some hfound).1

theorem Housing.triple_provisionedNetwork (h : Housing I) (fresh : Fresh) (userId : String) :
    Triple I (provisionedNetwork fresh userId)
      (fun record s => I s ∧ s.Houses record.defaultSubnetId record.networkId) fun _ => I := by
  have hfound : ∀ networkId, Triple I (lookup fun s => s.networkById networkId)
      (fun record s => I s ∧ s.Houses record.defaultSubnetId record.networkId) fun _ => I :=
    fun networkId => (each_lookupOr Program.reads_query _ _).triple
      (fun s record hs hrun => ⟨hs, h.houses_of_networkById hs (run_lookup_eq_ok.mp hrun).1⟩)
      fun s _ hs => hs
  refine .bind (R := fun _ => I)
    (h.keeps (each_lookupOr keepsHouses_query _ _)).triple fun user => ?_
  dsimp only
  split
  · exact .bind (R := fun _ => I) (h.keeps_ensureOwnedNetwork fresh userId).triple
      fun owned => hfound owned.networkId
  · exact hfound _

theorem Housing.keeps_registerDevice (h : Housing I) (fresh : Fresh) (userId : String)
    (req : RegisterDeviceRequest) : Keeps I (registerDevice fresh userId req) := by
  have hq : KeepsHouses (fun _ => []) id := keepsHouses_query
  have hchecked : Each KeepsHouses (requireRegisterDeviceRequest req) := by
    unfold requireRegisterDeviceRequest
    split
    · exact .fail _
    · exact .pure ()
  refine (h.keeps hchecked).bind fun _ => ?_
  refine (h.keeps (each_lookupOr hq _ _)).bind fun _ => ?_
  refine (h.keeps (each_upsertDeviceRecord hq keepsHouses_upsertDevice fresh userId
    req)).bind fun record => ?_
  refine Keeps.bind ?_ fun _ => .pure record
  unfold ensureDeviceProvisionedInActiveNetwork
  split
  · exact .pure ()
  refine Triple.keeps (Q := fun _ => I) (E := fun _ => I) ?_ (fun _ _ hs => hs) fun _ _ hs => hs
  refine .bind (h.triple_provisionedNetwork fresh userId) fun network => ?_
  refine .bind (h.triple_houses (each_membershipRole hq _ _ _ _) _ _) fun role => ?_
  refine .bind (h.triple_houses (each_ensureMember hq keepsHouses_createMember fresh
    network.networkId record.deviceId role) _ _) fun _ => ?_
  exact .bind (h.triple_ensureAttachment fresh network.networkId network.defaultSubnetId
    record.deviceId) fun _ => .pure fun s hs => hs

theorem Housing.keeps_attachDevice (h : Housing I) (fresh : Fresh)
    (userId networkId subnetId deviceId : String) :
    Keeps I (attachDevice fresh userId networkId subnetId deviceId) := by
  have hq : KeepsHouses (fun _ => []) id := keepsHouses_query
  refine (h.keeps (each_requireDeviceId deviceId)).bind fun _ => ?_
  refine (h.keeps (each_ensureNetworkAccess hq userId networkId)).bind fun _ => ?_
  refine (h.keeps (each_ensureDeviceOwner hq userId deviceId)).bind fun _ => ?_
  refine Triple.keeps (Q := fun _ => I) (E := fun _ => I) ?_ (fun _ _ hs => hs) fun _ _ hs => hs
  refine .bind (R := fun subnet s => I s ∧ s.Houses subnetId subnet.networkId)
    ((each_lookupOr Program.reads_query _ _).triple (fun s subnet hs hrun => ⟨hs, subnet, ?_⟩)
      fun s _ hs => hs) fun subnet => ?_
  · obtain ⟨hmem, hid⟩ := subnetById_eq_some (run_lookup_eq_ok.mp hrun).1
    exact ⟨hmem, hid, rfl⟩
  split
  · exact .fail fun s hs => hs.1
  · rename_i hnetwork
    rw [not_not.mp hnetwork]
    exact .bind (h.triple_houses (each_lookupOr hq _ _) _ _) fun _ =>
      h.triple_ensureAttachment fresh networkId subnetId deviceId

theorem Housing.keeps_activate (h : Housing I) (fresh : Fresh)
    (userId networkId deviceId : String) :
    Keeps I (activate fresh userId networkId deviceId) := by
  have hmoves := movesDevices_keepsHouses
  refine (h.keeps (each_requireDeviceId deviceId)).bind fun _ => ?_
  refine Triple.keeps (Q := fun _ => I) (E := fun _ => I) ?_ (fun _ _ hs => hs) fun _ _ hs => hs
  refine .bind (R := fun record s => I s ∧ s.Houses record.defaultSubnetId networkId)
    ((each_loadNetworkForDevice Program.reads_query userId networkId deviceId false).triple
      (fun s record hs hrun => ⟨hs, ?_⟩) fun s _ hs => hs) fun record => ?_
  · obtain ⟨hfound, _⟩ := run_loadNetworkForDevice_eq_ok hrun
    have hhouses := h.houses_of_networkById hs hfound
    rwa [(networkById_eq_some hfound).2] at hhouses
  refine .bind (h.triple_houses (hmoves.ensureActiveMemberForNetwork fresh userId deviceId record)
    _ _) fun member => ?_
  exact .bind (h.triple_ensureAttachment fresh networkId record.defaultSubnetId deviceId)
    fun attachment => .pure fun s hs => hs

/-- What is asked of the subnets that a network has already. -/
def Operation.subnetwork : Operation → Bool
  | .createSubnet .. | .update .. => true
  | _ => false

/-- One lemma for all calls that make no subnet but a network's first. -/
theorem Housing.keeps_call (h : Housing I) (sameName : String → String → Bool) {r : Request}
    (hother : r.operation.subnetwork = false) : Keeps I (r.call sameName) := by
  have hmoves := movesDevices_keepsHouses
  have hvoid : ∀ {α : Type} {p : Call α}, Keeps I p → Keeps I p.void :=
    fun hp => hp.bind fun _ => .pure ()
  have hkey : ∀ note networkId joinKey, KeepsHouses note fun s =>
      s.updateNetworkJoinKey networkId joinKey := fun _ _ _ => keepsHouses_updateNetwork fun _ => rfl
  have hclear : ∀ note networkId joinKey, KeepsHouses note fun s =>
      s.clearNetworkJoinKey networkId joinKey := fun _ _ _ => keepsHouses_updateNetwork fun _ => rfl
  obtain ⟨fresh, operation⟩ := r
  cases operation with
  | createSubnet | update => cases hother
  | registerUser email password => exact h.keeps_registerUser fresh email password
  | registerDevice userId req => exact hvoid (h.keeps_registerDevice fresh userId req)
  | create userId req => exact hvoid (h.keeps_create fresh userId req)
  | activate userId networkId deviceId =>
    exact hvoid (h.keeps_activate fresh userId networkId deviceId)
  | attachDevice userId networkId subnetId deviceId =>
    exact hvoid (h.keeps_attachDevice fresh userId networkId subnetId deviceId)
  | seedDefaultAdmin email =>
    exact h.keeps (each_seedDefaultAdmin hmoves.query (fun _ _ => keepsHouses_createUser _)
      fresh email)
  | registerNode userId req =>
    exact h.keeps (each_registerNode hmoves.query keepsHouses_upsertNode userId req)
  | updateJoinKey userId networkId joinKey =>
    exact hvoid (h.keeps (each_updateJoinKey hmoves.query hkey fresh userId networkId joinKey))
  | join userId networkId deviceId =>
    exact hvoid (h.keeps (hmoves.join fresh userId networkId deviceId))
  | joinByOwnerEmail userId ownerEmail deviceId =>
    exact hvoid (h.keeps (hmoves.joinByOwnerEmail fresh userId ownerEmail deviceId))
  | joinByKey userId joinKey deviceId =>
    exact hvoid (h.keeps (hmoves.joinByKey hclear fresh userId joinKey deviceId))
  | switch userId networkId deviceId =>
    exact hvoid (h.keeps (hmoves.switch fresh userId networkId deviceId))
  | deactivate userId networkId deviceId =>
    exact h.keeps (each_deactivate hmoves.query (fun _ _ => keepsHouses_deleteAttachments _)
      userId networkId deviceId)
  | reserve networkId subnetId attachmentId ip =>
    exact hvoid (h.keeps (each_reserve hmoves.query networkId subnetId attachmentId ip))
  | release attachmentId =>
    exact h.keeps (each_release keepsHouses_updateAttachmentVirtualIp attachmentId)
  | updateAttachmentIp userId networkId attachmentId virtualIp =>
    exact hvoid (h.keeps (each_updateAttachmentIp hmoves.query
      keepsHouses_updateAttachmentVirtualIp userId networkId attachmentId virtualIp))
  | updateAttachmentRemark userId networkId attachmentId remark =>
    exact h.keeps (each_updateAttachmentRemark hmoves.query keepsHouses_updateAttachmentRemark
      userId networkId attachmentId remark)
  | bootstrap session userId nodeId networkId =>
    exact h.keeps (hmoves.bootstrap (fun _ _ => ⟨rfl, rfl, fun a ha => ⟨a, ha, rfl, rfl⟩⟩) fresh
      session userId nodeId networkId)

end Calls

end Slan.Networks
