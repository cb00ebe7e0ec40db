import Slan.Lib.Transition
import Slan.Networks.LeasePool
import Slan.Networks.Operations

/-! # The virtual addresses that attachments hold -/

namespace Slan.Networks

open Netip (Addr)
open Program (Each Keeps Triple)
open Transition

/-! ## Addresses that fit a subnet -/

/-- The canonical text of an address that the subnet allocates, other than its gateway. -/
def Fits (subnet : Subnet) (ip : String) : Prop :=
  ∃ range addr, subnet.range = .ok range ∧ ip = Netip.render addr ∧
    range.start ≤ addr ∧ addr ≤ range.last ∧ addr ≠ gatewayAddr range.network subnet.gatewayIp

/-- The check that decides it. -/
def fits (subnet : Subnet) (ip : String) : Bool :=
  match subnet.range, Netip.parseAddr ip with
  | .ok range, some addr =>
    ip == Netip.render addr && decide (range.start ≤ addr) && decide (addr ≤ range.last) &&
      addr != gatewayAddr range.network subnet.gatewayIp
  | _, _ => false

theorem fits_iff {subnet : Subnet} {ip : String} : fits subnet ip = true ↔ Fits subnet ip := by
  unfold fits Fits
  constructor
  · intro h
    split at h
    · rename_i range addr hrange hparse
      simp only [Bool.and_eq_true, beq_iff_eq, decide_eq_true_eq, bne_iff_ne] at h
      obtain ⟨⟨⟨hip, hstart⟩, hlast⟩, hgateway⟩ := h
      exact ⟨range, addr, hrange, hip, hstart, hlast, hgateway⟩
    · cases h
  · rintro ⟨range, addr, hrange, rfl, hstart, hlast, hgateway⟩
    rw [hrange, Netip.parseAddr_render]
    simp [hstart, hlast, hgateway]

instance (subnet : Subnet) (ip : String) : Decidable (Fits subnet ip) :=
  decidable_of_iff _ fits_iff

/-- The subnet is stored, and the address fits it. -/
def Store.Fits (s : Store) (subnetId ip : String) : Prop :=
  ∃ subnet ∈ s.subnets.rows, subnet.subnetId = subnetId ∧ Networks.Fits subnet ip

instance (s : Store) (subnetId ip : String) : Decidable (s.Fits subnetId ip) :=
  inferInstanceAs (Decidable (∃ subnet ∈ s.subnets.rows, subnet.subnetId = subnetId ∧
    Networks.Fits subnet ip))

theorem Fits.ne_empty {subnet : Subnet} {ip : String} (h : Fits subnet ip) : ip ≠ "" := by
  obtain ⟨_, addr, _, rfl, _⟩ := h
  exact Netip.render_ne_empty addr

/-- An address of the range fits: the gateway lies below it. -/
theorem fits_render {subnet : Subnet} {range : SubnetRange} {addr : Addr}
    (hrange : subnet.range = .ok range) (hstart : range.start ≤ addr) (hlast : addr ≤ range.last) :
    Fits subnet (Netip.render addr) := by
  have hgateway : gatewayAddr range.network subnet.gatewayIp < range.start :=
    (gateway_lt_start hrange).1
  refine ⟨range, addr, hrange, rfl, hstart, hlast, fun heq => ?_⟩
  rw [heq] at hstart
  exact absurd hgateway (BitVec.not_lt.mpr hstart)

/-! ## What is said of a store -/

structure WellLeased (s : Store) : Prop where
  fits : ∀ a ∈ s.attachments, s.Fits a.subnetId a.virtualIp
  distinct : ∀ a ∈ s.attachments, ∀ b ∈ s.attachments, a.subnetId = b.subnetId → a ≠ b →
    ∀ x y, Netip.parseAddr a.virtualIp = some x → Netip.parseAddr b.virtualIp = some y → x ≠ y
  activates : ∀ (fresh : Fresh) (userId networkId deviceId : String) (result : NetworkJoinResult)
    (t : Store), (activate fresh userId networkId deviceId).run s = (.ok result, t) →
    ∃ attachment ∈ t.attachments, result.attachment = some attachment ∧
      attachment.virtualIp ≠ "" ∧ t.Fits attachment.subnetId attachment.virtualIp

/-- Every stored address fits its subnet. -/
def Leased (s : Store) : Prop := ∀ a ∈ s.attachments, s.Fits a.subnetId a.virtualIp

section Basics

variable {s t : Store}

theorem Store.Fits.mono (hsubnets : ∀ subnet ∈ s.subnets, subnet ∈ t.subnets)
    {subnetId ip : String} (h : s.Fits subnetId ip) : t.Fits subnetId ip := by
  obtain ⟨subnet, hmem, hid, hfits⟩ := h
  exact ⟨subnet, hsubnets subnet hmem, hid, hfits⟩

theorem Leased.mono (h : Leased s) (hsubnets : ∀ subnet ∈ s.subnets, subnet ∈ t.subnets)
    (hattachments : ∀ a ∈ t.attachments, ∃ b ∈ s.attachments,
      a.subnetId = b.subnetId ∧ a.virtualIp = b.virtualIp) : Leased t := by
  intro a ha
  obtain ⟨b, hb, hsubnet, hip⟩ := hattachments a ha
  rw [hsubnet, hip]
  exact (h b hb).mono hsubnets

/-- The index on the text tells canonical addresses apart. -/
theorem Leased.distinct (h : Leased s) {a b : SubnetAttachment} (ha : a ∈ s.attachments)
    (hb : b ∈ s.attachments) (hsubnet : a.subnetId = b.subnetId) (hne : a ≠ b) {x y : Addr}
    (hx : Netip.parseAddr a.virtualIp = some x) (hy : Netip.parseAddr b.virtualIp = some y) :
    x ≠ y := by
  rintro rfl
  obtain ⟨_, _, _, _, addra, _, hipa, _⟩ := h a ha
  obtain ⟨_, _, _, _, addrb, _, hipb, _⟩ := h b hb
  rw [hipa, Netip.parseAddr_render] at hx
  rw [hipb, Netip.parseAddr_render] at hy
  have hip : a.virtualIp = b.virtualIp := by
    rw [hipa, hipb, Option.some.inj hx, Option.some.inj hy]
  exact hne (Relation.eq_of_clash ha hb (.inr (.inr ⟨hsubnet, hip⟩)))

end Basics

/-! ## Statements that keep the leases -/

def KeepsLeases (_ : Store → List KeyEvent) (write : Store → Store) : Prop :=
  ∀ s, Leased s → Leased (write s)

section Statements

variable {note : Store → List KeyEvent} {write : Store → Store}

theorem keepsLeases_of_eq (hsubnets : ∀ s, (write s).subnets = s.subnets)
    (hattachments : ∀ s, (write s).attachments = s.attachments) : KeepsLeases note write := by
  intro s hs
  refine hs.mono (fun subnet hmem => ?_) fun a ha => ?_
  · rwa [hsubnets]
  · rw [hattachments] at ha
    exact ⟨a, ha, rfl, rfl⟩

theorem keepsLeases_of_delete {chosen : SubnetAttachment → Bool} :
    KeepsLeases note fun s => { s with attachments := s.attachments.delete chosen } :=
  fun _ hs => hs.mono (fun _ hmem => hmem) fun a ha => ⟨a, (Relation.mem_delete.mp ha).1, rfl, rfl⟩

theorem keepsLeases_createNetwork (network : Network) (subnet : Subnet) :
    KeepsLeases note fun s => (s.createNetworkWithDefaultSubnet network subnet).getD s := by
  intro s hs
  dsimp only
  unfold Store.createNetworkWithDefaultSubnet
  cases s.networks.insert network with
  | none => exact hs
  | some networks =>
    cases hsubnets : s.subnets.insert subnet with
    | none => exact hs
    | some subnets =>
      exact hs.mono (fun row hmem => (Relation.mem_insert hsubnets).mpr (.inl hmem))
        fun a ha => ⟨a, ha, rfl, rfl⟩

theorem keepsLeases_createSubnet (row : Subnet) :
    KeepsLeases note fun s => (s.createSubnet row).getD s := by
  intro s hs
  dsimp only
  unfold Store.createSubnet
  cases hsubnets : s.subnets.insert row with
  | none => exact hs
  | some subnets =>
    exact hs.mono (fun row hmem => (Relation.mem_insert hsubnets).mpr (.inl hmem))
      fun a ha => ⟨a, ha, rfl, rfl⟩

theorem keepsLeases_createUser (row : User) :
    KeepsLeases note fun s => (s.createUser row).getD s := by
  refine keepsLeases_of_eq (fun s => ?_) fun s => ?_ <;>
    (unfold Store.createUser; cases s.users.insert row <;> rfl)

theorem keepsLeases_createMember (row : NetworkMember) :
    KeepsLeases note fun s => (s.createMember row).getD s := by
  refine keepsLeases_of_eq (fun s => ?_) fun s => ?_ <;>
    (unfold Store.createMember; cases s.members.insert row <;> rfl)

theorem keepsLeases_upsertDevice (row : Device) :
    KeepsLeases note fun s => (s.upsertDeviceByUserMachine row).getD s := by
  refine keepsLeases_of_eq (fun s => ?_) fun s => ?_ <;>
    (unfold Store.upsertDeviceByUserMachine
     cases s.deviceByUserMachine row.userId row.machineId with
     | some _ => rfl
     | none => cases s.devices.insert row <;> rfl)

theorem keepsLeases_upsertNode (row : Control.Node) :
    KeepsLeases note fun s => (s.upsertNode row).getD s := by
  refine keepsLeases_of_eq (fun s => ?_) fun s => ?_ <;>
    (unfold Store.upsertNode
     cases s.nodeById row.nodeId with
     | some _ => rfl
     | none => cases s.nodes.insert row <;> rfl)

theorem keepsLeases_updateAttachmentRemark (attachmentId remark : String) :
    KeepsLeases note fun s => s.updateAttachmentRemark attachmentId remark := by
  intro s hs
  refine hs.mono (fun _ hmem => hmem) fun a ha => ?_
  obtain ⟨b, hb, hab⟩ := List.mem_map.mp (Relation.mem_def.mp ha)
  refine ⟨b, hb, ?_⟩
  rw [← hab]
  split <;> exact ⟨rfl, rfl⟩

theorem movesDevices_keepsLeases : MovesDevices KeepsLeases where
  query := fun _ hs => hs
  sessions _ _ := keepsLeases_of_eq (fun _ => rfl) fun _ => rfl
  attachments _ _ := keepsLeases_of_delete
  members _ _ := keepsLeases_of_eq (fun _ => rfl) fun _ => rfl
  active _ _ := keepsLeases_of_eq (fun _ => rfl) fun _ => rfl
  member := keepsLeases_createMember

end Statements

/-! ## A new attachment -/

section Attach

variable {s t : Store} {subnet : Subnet}

theorem firstFree_eq_some {network : Netip.Prefix} {used : List String} {n : Nat}
    {candidate : Addr} {ip : String} (h : firstFree network used n candidate = some ip) :
    ∃ i < n, ip = Netip.render (candidate + BitVec.ofNat 32 i) := by
  induction n generalizing candidate with
  | zero => cases h
  | succ n ih =>
    unfold firstFree at h
    split at h
    · obtain ⟨i, hi, rfl⟩ := ih h
      refine ⟨i + 1, by omega, congrArg Netip.render ?_⟩
      bv_omega
    · refine ⟨0, by omega, ?_⟩
      rw [← Option.some.inj h]
      exact congrArg Netip.render (BitVec.add_zero candidate).symm

theorem fits_of_allocateIp {ip : String} (h : (allocateIp subnet).run s = (.ok ip, t)) :
    Fits subnet ip := by
  unfold allocateIp at h
  obtain ⟨attachments, _, _, h⟩ := Program.run_bind_eq_ok.mp h
  obtain ⟨range, _, hrange, h⟩ := Program.run_bind_eq_ok.mp h
  obtain ⟨hrange, _⟩ := run_checked_eq_ok.mp hrange
  split at h
  · rename_i ip' hfree
    obtain ⟨rfl, _⟩ := Program.run_pure_eq_ok.mp h
    obtain ⟨i, hi, rfl⟩ := firstFree_eq_some hfree
    have hordered : range.start ≤ range.last := by
      have hlt := (gateway_lt_start hrange).2
      bv_omega
    obtain ⟨hstart, hlast⟩ := range.address_mem hordered hi
    exact fits_render hrange hstart hlast
  · exact absurd h not_run_refuse_eq_ok

theorem fits_of_preferredOwnerIp {ip : String}
    (h : (preferredOwnerIp subnet).run s = (.ok (some ip), t)) : Fits subnet ip := by
  unfold preferredOwnerIp at h
  obtain ⟨attachments, _, _, h⟩ := Program.run_bind_eq_ok.mp h
  obtain ⟨range, _, hrange, h⟩ := Program.run_bind_eq_ok.mp h
  obtain ⟨hrange, _⟩ := run_checked_eq_ok.mp hrange
  dsimp only at h
  split at h
  · cases (Program.run_pure_eq_ok.mp h).1
  · rename_i hin
    simp only [not_or, BitVec.not_lt] at hin
    split at h
    · cases (Program.run_pure_eq_ok.mp h).1
    · obtain rfl := Option.some.inj (Program.run_pure_eq_ok.mp h).1
      exact fits_render hrange hin.1 hin.2.1

theorem fits_of_ownerPreference {member : Option NetworkMember} {ip : String}
    (h : (ownerPreference subnet member).run s = (.ok (some ip), t)) : Fits subnet ip := by
  unfold ownerPreference at h
  split at h
  · split at h
    · exact fits_of_preferredOwnerIp h
    · cases (Program.run_pure_eq_ok.mp h).1
  · cases (Program.run_pure_eq_ok.mp h).1

theorem Leased.createAttachment (h : Leased s) {row : SubnetAttachment}
    (hwrite : s.createAttachment row = some t) (hfits : s.Fits row.subnetId row.virtualIp) :
    Leased t ∧ row ∈ t.attachments := by
  unfold Store.createAttachment at hwrite
  obtain ⟨attachments, hinsert, rfl⟩ := Option.map_eq_some_iff.mp hwrite
  refine ⟨fun a ha => ?_, (Relation.mem_insert hinsert).mpr (.inr rfl)⟩
  rcases (Relation.mem_insert hinsert).mp ha with hold | rfl
  · exact h a hold
  · exact hfits

/-- An attachment is found or made with an address that fits. -/
theorem triple_ensureAttachment (fresh : Fresh) (networkId subnetId deviceId : String) :
    Triple Leased (ensureAttachment fresh networkId subnetId deviceId)
      (fun attachment s => Leased s ∧ attachment ∈ s.attachments) fun _ => Leased := by
  refine .bind (R := fun found s => Leased s ∧ ∀ a, found = some a → a ∈ s.attachments)
    (.query fun s hs => ⟨hs, fun a ha => Relation.mem_of_find? ha⟩) fun found => ?_
  cases found with
  | some attachment => exact .pure fun s hs => ⟨hs.1, hs.2 attachment rfl⟩
  | none =>
    refine .bind (R := fun subnet s => Leased s ∧ subnet ∈ s.subnets ∧ subnet.subnetId = subnetId)
      ((each_lookupOr Program.reads_query _ _).triple (fun s subnet hs hrun => ?_) fun s err hs => hs.1)
      fun subnet => ?_
    · exact ⟨hs.1, subnetById_eq_some (run_lookup_eq_ok.mp hrun).1⟩
    refine .bind (R := fun ip s => (Leased s ∧ subnet ∈ s.subnets ∧ subnet.subnetId = subnetId) ∧
        Fits subnet ip)
      ((each_allocateIp Program.reads_query subnet).triple
        (fun s ip hs hrun => ⟨hs, fits_of_allocateIp hrun⟩) fun s err hs => hs.1)
      fun allocated => ?_
    refine .bind (R := fun _ s => (Leased s ∧ subnet ∈ s.subnets ∧ subnet.subnetId = subnetId) ∧
        Fits subnet allocated) (.query fun s hs => hs) fun member => ?_
    refine .bind (R := fun preferred s =>
        (Leased s ∧ subnet ∈ s.subnets ∧ subnet.subnetId = subnetId) ∧
          Fits subnet (preferred.getD allocated))
      ((each_ownerPreference Program.reads_query subnet member).triple (fun s preferred hs hrun => ?_)
        fun s err hs => hs.1.1) fun preferred => ?_
    · cases preferred with
      | none => exact hs
      | some ip => exact ⟨hs.1, fits_of_ownerPreference hrun⟩
    refine .bind (R := fun _ s => Leased s ∧ _ ∈ s.attachments) (.execOr (fun s hs t hwrite => ?_)
      fun s hs _ => hs.1.1) fun _ => .pure fun s hs => hs
    obtain ⟨⟨hleased, hmem, hid⟩, hfits⟩ := hs
    exact hleased.createAttachment hwrite ⟨subnet, hmem, hid, hfits⟩

/-- A call that activates a device answers with its attachment. -/
theorem triple_activate (fresh : Fresh) (userId networkId deviceId : String) :
    Triple Leased (activate fresh userId networkId deviceId)
      (fun result s => Leased s ∧
        ∃ attachment ∈ s.attachments, result.attachment = some attachment) fun _ => Leased := by
  have hmoves := movesDevices_keepsLeases
  refine .bind (R := fun _ => Leased) (each_requireDeviceId deviceId).keeps.triple fun _ => ?_
  refine .bind (R := fun _ => Leased)
    (each_loadNetworkForDevice hmoves.query userId networkId deviceId false).keeps.triple
    fun record => ?_
  refine .bind (R := fun _ => Leased)
    (hmoves.ensureActiveMemberForNetwork fresh userId deviceId record).keeps.triple fun member => ?_
  refine .bind (triple_ensureAttachment fresh networkId record.defaultSubnetId deviceId)
    fun attachment => ?_
  exact .pure fun s hs => ⟨hs.1, attachment, hs.2, rfl⟩

theorem keeps_attachDevice (fresh : Fresh) (userId networkId subnetId deviceId : String) :
    Keeps Leased (attachDevice fresh userId networkId subnetId deviceId) := by
  have hquery := movesDevices_keepsLeases.query
  refine (each_requireDeviceId deviceId).keeps.bind fun _ => ?_
  refine (each_ensureNetworkAccess hquery userId networkId).keeps.bind fun _ => ?_
  refine (each_ensureDeviceOwner hquery userId deviceId).keeps.bind fun _ => ?_
  refine (each_lookupOr hquery _ _).keeps.bind fun subnet => ?_
  split
  · exact .fail _
  · refine (each_lookupOr hquery _ _).keeps.bind fun _ => ?_
    exact (triple_ensureAttachment fresh networkId subnetId deviceId).keeps
      (fun _ _ hs => hs.1) fun _ _ hs => hs

theorem keeps_registerDevice (fresh : Fresh) (userId : String) (req : RegisterDeviceRequest) :
    Keeps Leased (registerDevice fresh userId req) := by
  have hmoves := movesDevices_keepsLeases
  have hchecked : Each KeepsLeases (requireRegisterDeviceRequest req) := by
    unfold requireRegisterDeviceRequest
    split
    · exact .fail _
    · exact .pure ()
  refine hchecked.keeps.bind fun _ => ?_
  refine (each_lookupOr hmoves.query _ _).keeps.bind fun _ => ?_
  refine (each_upsertDeviceRecord hmoves.query keepsLeases_upsertDevice fresh userId
    req).keeps.bind fun record => ?_
  refine Keeps.bind ?_ fun _ => .pure record
  unfold ensureDeviceProvisionedInActiveNetwork
  split
  · exact .pure ()
  · refine (hmoves.provisionedNetwork keepsLeases_createNetwork fresh userId).keeps.bind
      fun network => ?_
    refine (each_membershipRole hmoves.query _ _ _ _).keeps.bind fun role => ?_
    refine (each_ensureMember hmoves.query hmoves.member fresh network.networkId
      record.deviceId role).keeps.bind
      fun _ => ?_
    refine Keeps.bind ?_ fun _ => .pure ()
    exact (triple_ensureAttachment fresh network.networkId network.defaultSubnetId
      record.deviceId).keeps (fun _ _ hs => hs.1) fun _ _ hs => hs

end Attach

/-! ## What an operation must not do -/

/-- The addresses that a refused update has given to attachments fit the subnet as it is. -/
def FitsMeanwhile (s : Store) (subnetId : String) (range : SubnetRange) : Prop :=
  ∀ i < (movedRows range 0 (s.leasePool subnetId)).length,
    s.Fits subnetId (Netip.render (range.address i))

instance (s : Store) (subnetId : String) (range : SubnetRange) :
    Decidable (FitsMeanwhile s subnetId range) :=
  inferInstanceAs (Decidable (∀ i < (movedRows range 0 (s.leasePool subnetId)).length,
    s.Fits subnetId (Netip.render (range.address i))))

/-- An address is asked for that fits, none is taken from an attachment, and an update that is
refused midway has only handed out addresses that fit. -/
def KeepsFit (s : Store) : Operation → Prop
  | .updateAttachmentIp userId networkId attachmentId virtualIp =>
    ∀ prepared ∈ ((prepareAttachmentIp userId networkId attachmentId virtualIp).run s).1.toOption,
      s.Fits prepared.1.subnetId virtualIp
  | .release attachmentId => Text.isBlank attachmentId = true ∨ s.attachmentById attachmentId = none
  | .update userId networkId req =>
    ∀ asked ∈ leaseRequest s userId networkId req,
      (s.attachmentsBySubnet asked.1.subnetId).length ≤ asked.2.size →
      Unhindered asked.2 0 (s.leasePool asked.1.subnetId) ∨
        FitsMeanwhile s asked.1.subnetId asked.2
  | _ => True

/-! ## What the three writes of an address leave -/

section Writes

variable {s t : Store}

/-- A row that is given an address. -/
theorem leased_updateAttachmentVirtualIp_iff (h : Leased s) {attachment : SubnetAttachment}
    (hmem : attachment ∈ s.attachments) {ip : String}
    (hwrite : s.updateAttachmentVirtualIp attachment.attachmentId ip = some t) :
    Leased t ↔ s.Fits attachment.subnetId ip := by
  obtain ⟨ht, hrows⟩ := Store.updateAttachmentVirtualIp_eq_some.mp hwrite
  have hsubnets : t.subnets = s.subnets := by rw [ht]
  have hfits : ∀ subnetId ip, t.Fits subnetId ip ↔ s.Fits subnetId ip := fun subnetId ip => by
    unfold Store.Fits
    rw [hsubnets]
  constructor
  · intro hleased
    have hwritten := hleased { attachment with virtualIp := ip } (by
      rw [Relation.mem_def, hrows]
      exact List.mem_map.mpr ⟨attachment, hmem, if_pos rfl⟩)
    exact (hfits _ _).mp hwritten
  · intro hfit a ha
    rw [Relation.mem_def, hrows] at ha
    obtain ⟨old, hold, rfl⟩ := List.mem_map.mp ha
    rw [hfits]
    split
    · rename_i hid
      obtain rfl := Relation.eq_of_clash hold hmem (.inl hid)
      exact hfit
    · exact h old hold

theorem leased_release_iff (h : Leased s) (attachmentId : String) :
    Leased ((release attachmentId).after s) ↔
      Text.isBlank attachmentId = true ∨ s.attachmentById attachmentId = none := by
  by_cases hblank : Text.isBlank attachmentId = true
  · have hafter : (release attachmentId).after s = s := by
      unfold release
      rw [if_pos hblank]
      rfl
    rw [hafter]
    exact iff_of_true h (.inl hblank)
  · have hafter : (release attachmentId).after s =
        (s.updateAttachmentVirtualIp attachmentId "").getD s := by
      unfold release
      rw [if_neg hblank]
      rfl
    rw [hafter, or_iff_right hblank]
    cases hfound : s.attachmentById attachmentId with
    | none =>
      have hnone : ∀ row ∈ s.attachments, row.attachmentId ≠ attachmentId := fun row hrow =>
        beq_eq_false_iff_ne.mp (Relation.find?_eq_none.mp hfound row hrow)
      refine iff_of_true ?_ rfl
      cases hwrite : s.updateAttachmentVirtualIp attachmentId "" with
      | none => exact h
      | some t =>
        obtain ⟨ht, hrows⟩ := Store.updateAttachmentVirtualIp_eq_some.mp hwrite
        refine h.mono (fun subnet hmem => ?_) fun a ha => ?_
        · change subnet ∈ t.subnets
          rwa [ht]
        · change a ∈ t.attachments at ha
          rw [Relation.mem_def, hrows] at ha
          obtain ⟨old, hold, rfl⟩ := List.mem_map.mp ha
          rw [if_neg (hnone old hold)]
          exact ⟨old, hold, rfl, rfl⟩
    | some attachment =>
      obtain ⟨hmem, rfl⟩ := attachmentById_eq_some hfound
      obtain ⟨t, hwrite⟩ := (Store.exists_updateAttachmentVirtualIp hmem).mpr
        fun row hrow _ hip => by
          obtain ⟨_, _, _, hfits⟩ := h row hrow
          exact absurd hip hfits.ne_empty
      rw [hwrite]
      refine iff_of_false (fun hleased => ?_) nofun
      obtain ⟨_, _, _, hfits⟩ := (leased_updateAttachmentVirtualIp_iff h hmem hwrite).mp hleased
      exact hfits.ne_empty rfl

theorem leased_updateAttachmentIp_iff (h : Leased s)
    (userId networkId attachmentId virtualIp : String) :
    Leased ((updateAttachmentIp userId networkId attachmentId virtualIp).after s) ↔
      ∀ prepared ∈
        ((prepareAttachmentIp userId networkId attachmentId virtualIp).run s).1.toOption,
        s.Fits prepared.1.subnetId virtualIp := by
  have hreads := each_prepareAttachmentIp Program.reads_query userId networkId attachmentId virtualIp
  unfold updateAttachmentIp Program.after
  rw [Program.run_bind]
  cases hrun : (prepareAttachmentIp userId networkId attachmentId virtualIp).run s with
  | mk result t =>
    obtain rfl := hreads.eq_of_run hrun
    cases result with
    | error err => exact iff_of_true h nofun
    | ok prepared =>
      obtain ⟨attachment, reserved⟩ := prepared
      obtain ⟨hmem, rfl, hfree⟩ := run_prepareAttachmentIp_eq_ok hrun
      obtain ⟨t, hwrite⟩ := (Store.exists_updateAttachmentVirtualIp hmem).mpr hfree
      have hafter : (insert fun s =>
          s.updateAttachmentVirtualIp attachment.attachmentId reserved).run s = (.ok (), t) :=
        run_insert_eq_ok.mpr hwrite
      dsimp only
      rw [Program.run_bind, hafter]
      have hone : (∀ prepared ∈ (Except.ok (attachment, reserved) :
          Except Failure (SubnetAttachment × String)).toOption,
          s.Fits prepared.1.subnetId reserved) ↔ s.Fits attachment.subnetId reserved := by
        simp only [Except.toOption, Option.mem_some_iff, forall_eq']
      rw [hone]
      exact leased_updateAttachmentVirtualIp_iff h hmem hwrite

/-- After a complete update the addresses fit the range that the subnet has now. -/
theorem leased_updated (h : Leased s) {record : Network} {subnet : Subnet}
    {req : UpdateNetworkRequest} {range : SubnetRange}
    {attachments : Relation SubnetAttachment SubnetAttachment.Clash}
    {lease : SubnetAttachment → Addr} (hrange : subnet.range = .ok range)
    (hleased : Reassigned s subnet.subnetId range attachments lease) :
    Leased (s.updated attachments record subnet req) := by
  have hsubnets : (s.updated attachments record subnet req).subnets.rows =
      s.subnets.rows.map fun row => if row.subnetId = subnet.subnetId then
        { row with
          cidr := subnet.cidr
          gatewayIp := subnet.gatewayIp
          allocationStartIp := subnet.allocationStartIp
          allocationEndIp := subnet.allocationEndIp
          isDefault := subnet.isDefault
          status := subnet.status } else row := rfl
  intro a ha
  change a ∈ attachments at ha
  rw [Relation.mem_def, hleased.rows] at ha
  obtain ⟨old, hold, rfl⟩ := List.mem_map.mp ha
  obtain ⟨stored, hmem, hid, hfits⟩ := h old hold
  have hrow := List.mem_map_of_mem (f := fun row => if row.subnetId = subnet.subnetId then
      { row with
        cidr := subnet.cidr
        gatewayIp := subnet.gatewayIp
        allocationStartIp := subnet.allocationStartIp
        allocationEndIp := subnet.allocationEndIp
        isDefault := subnet.isDefault
        status := subnet.status } else row) hmem
  rw [← hsubnets] at hrow
  by_cases hsame : old.subnetId = subnet.subnetId
  · obtain ⟨hstart, hlast⟩ := hleased.within old hold hsame
    rw [if_pos (hid.trans hsame)] at hrow
    rw [if_pos hsame]
    exact ⟨_, hrow, hid, fits_render hrange hstart hlast⟩
  · rw [if_neg (hid ▸ hsame)] at hrow
    rw [if_neg hsame]
    exact ⟨stored, hrow, hid, hfits⟩

/-- After a refused update the rows before the refused one are at their new addresses. -/
theorem leased_moved_iff (h : Leased s) {subnetId : String} {range : SubnetRange}
    {attachments : Relation SubnetAttachment SubnetAttachment.Clash}
    (hrows : attachments.rows = s.attachments.rows.map
      (leased range 0 (movedRows range 0 (s.leasePool subnetId)))) :
    Leased { s with attachments } ↔ FitsMeanwhile s subnetId range := by
  have hsub := (movedRows_isPrefixOf range 0 (s.leasePool subnetId)).sublist
  have hdistinct := distinct_leasePool.sublist hsub
  have hnodup : (movedRows range 0 (s.leasePool subnetId)).Nodup :=
    hdistinct.imp fun hid hab => hid (congrArg SubnetAttachment.attachmentId hab)
  constructor
  · intro hleased i hi
    let row := (movedRows range 0 (s.leasePool subnetId))[i]
    have hrow : row ∈ movedRows range 0 (s.leasePool subnetId) := List.getElem_mem hi
    obtain ⟨hmem, hsubnet⟩ := mem_leasePool.mp (hsub.subset hrow)
    have hnew : leased range 0 (movedRows range 0 (s.leasePool subnetId)) row = _ :=
      leased_of_mem hdistinct hrow
    have hidx : (movedRows range 0 (s.leasePool subnetId)).idxOf row = i :=
      hnodup.idxOf_getElem i hi
    rw [hidx, Nat.zero_add] at hnew
    have hfits := hleased _ (by
      change _ ∈ attachments
      rw [Relation.mem_def, hrows]
      exact List.mem_map_of_mem hmem)
    rw [hnew, hsubnet] at hfits
    exact hfits
  · intro hmeanwhile a ha
    change a ∈ attachments at ha
    rw [Relation.mem_def, hrows] at ha
    obtain ⟨old, hold, rfl⟩ := List.mem_map.mp ha
    by_cases hmoved : old ∈ movedRows range 0 (s.leasePool subnetId)
    · obtain ⟨_, hsubnet⟩ := mem_leasePool.mp (hsub.subset hmoved)
      rw [leased_of_mem hdistinct hmoved, Nat.zero_add, hsubnet]
      exact hmeanwhile _ (List.idxOf_lt_length_of_mem hmoved)
    · have hother : ∀ b ∈ movedRows range 0 (s.leasePool subnetId),
          old.attachmentId ≠ b.attachmentId := fun b hb hid => by
        obtain ⟨hmem, _⟩ := mem_leasePool.mp (hsub.subset hb)
        exact hmoved (Relation.eq_of_clash hold hmem (.inl hid) ▸ hb)
      rw [leased_of_not_mem hother]
      exact h old hold

theorem leased_update_iff (h : Leased s) (userId networkId : String)
    (req : UpdateNetworkRequest) :
    Leased ((update userId networkId req).after s) ↔
      ∀ asked ∈ leaseRequest s userId networkId req,
        (s.attachmentsBySubnet asked.1.subnetId).length ≤ asked.2.size →
        Unhindered asked.2 0 (s.leasePool asked.1.subnetId) ∨
          FitsMeanwhile s asked.1.subnetId asked.2 := by
  unfold leaseRequest Program.after
  cases hprepared : ((prepareUpdate userId networkId req).run s).1 with
  | error err =>
    rw [run_update, hprepared]
    exact iff_of_true h nofun
  | ok prepared =>
    obtain ⟨record, subnet⟩ := prepared
    obtain ⟨network, hroomy, hrange⟩ := range_of_prepareUpdate hprepared
    obtain ⟨hsmall, hlarge⟩ := run_update_of_prepared hprepared hrange hroomy
    simp only [hrange, Option.mem_def, Option.some.injEq, forall_eq']
    by_cases hroom : (s.attachmentsBySubnet subnet.subnetId).length ≤ (defaultRange network).size
    · obtain ⟨attachments, hrows, hrun⟩ := hlarge hroom
      by_cases hfree : Unhindered (defaultRange network) 0 (s.leasePool subnet.subnetId)
      · rw [if_pos hfree] at hrun
        rw [movedRows_of_unhindered hfree] at hrows
        obtain ⟨result, hrun⟩ := hrun
        rw [hrun]
        exact iff_of_true (leased_updated h hrange (reassigned_of_leased hroomy.sound hroom hrows))
          fun _ => .inl hfree
      · rw [if_neg hfree] at hrun
        rw [hrun]
        exact (leased_moved_iff h hrows).trans
          ⟨fun hfits _ => .inr hfits, fun hok => (hok hroom).resolve_left hfree⟩
    · obtain ⟨err, hrun⟩ := hsmall (Nat.not_le.mp hroom)
      rw [hrun]
      exact iff_of_true h fun hroom' => absurd hroom' hroom

end Writes

/-! ## Runs -/

section Runs

variable {sameName : String → String → Bool} {s : Store}

/-- An operation keeps the addresses right just if it keeps to addresses that fit. -/
theorem Leased.after_iff (h : Leased s) (sameName : String → String → Bool) (r : Request) :
    Leased (r.after sameName s) ↔ KeepsFit s r.operation := by
  have hmoves := movesDevices_keepsLeases
  have hnetwork := @keepsLeases_createNetwork fun _ => []
  have hkept : ∀ {p : Call Unit}, Keeps Leased p → (Leased (p.after s) ↔ True) :=
    fun hp => iff_of_true (hp.after h) trivial
  have hvoid : ∀ {α : Type} {p : Call α}, Keeps Leased p → (Leased (p.void.after s) ↔ True) :=
    fun hp => by
      rw [Program.after_void]
      exact iff_of_true (hp.after h) trivial
  obtain ⟨fresh, operation⟩ := r
  unfold Request.after
  cases operation with
  | update userId networkId req =>
    rw [Request.call, Program.after_void]
    exact leased_update_iff h userId networkId req
  | release attachmentId => exact leased_release_iff h attachmentId
  | updateAttachmentIp userId networkId attachmentId virtualIp =>
    rw [Request.call, Program.after_void]
    exact leased_updateAttachmentIp_iff h userId networkId attachmentId virtualIp
  | activate userId networkId deviceId =>
    exact hvoid ((triple_activate fresh userId networkId deviceId).keeps (fun _ _ hs => hs.1)
      fun _ _ hs => hs)
  | attachDevice userId networkId subnetId deviceId =>
    exact hvoid (keeps_attachDevice fresh userId networkId subnetId deviceId)
  | registerDevice userId req => exact hvoid (keeps_registerDevice fresh userId req)
  | registerUser email password =>
    exact hkept (hmoves.registerUser hnetwork keepsLeases_createUser fresh email password).keeps
  | seedDefaultAdmin email =>
    exact hkept (each_seedDefaultAdmin hmoves.query (fun _ _ => keepsLeases_createUser _) fresh
      email).keeps
  | registerNode userId req =>
    exact hkept (each_registerNode hmoves.query keepsLeases_upsertNode userId req).keeps
  | create userId req => exact hvoid (hmoves.create hnetwork fresh userId req).keeps
  | updateJoinKey userId networkId joinKey =>
    exact hvoid (each_updateJoinKey hmoves.query (fun _ _ _ => keepsLeases_of_eq (fun _ => rfl)
      fun _ => rfl) fresh userId networkId joinKey).keeps
  | createSubnet userId networkId req =>
    exact hvoid (each_createSubnet hmoves.query keepsLeases_createSubnet sameName fresh userId
      networkId req).keeps
  | join userId networkId deviceId =>
    exact hvoid (hmoves.join fresh userId networkId deviceId).keeps
  | joinByOwnerEmail userId ownerEmail deviceId =>
    exact hvoid (hmoves.joinByOwnerEmail fresh userId ownerEmail deviceId).keeps
  | joinByKey userId joinKey deviceId =>
    exact hvoid (hmoves.joinByKey (fun _ _ _ => keepsLeases_of_eq (fun _ => rfl) fun _ => rfl)
      fresh userId joinKey deviceId).keeps
  | switch userId networkId deviceId =>
    exact hvoid (hmoves.switch fresh userId networkId deviceId).keeps
  | deactivate userId networkId deviceId =>
    exact hkept (each_deactivate hmoves.query (fun _ _ => keepsLeases_of_delete) userId networkId
      deviceId).keeps
  | reserve networkId subnetId attachmentId ip =>
    exact hvoid (each_reserve hmoves.query networkId subnetId attachmentId ip).keeps
  | updateAttachmentRemark userId networkId attachmentId remark =>
    exact hkept (each_updateAttachmentRemark hmoves.query keepsLeases_updateAttachmentRemark
      userId networkId attachmentId remark).keeps
  | bootstrap session userId nodeId networkId =>
    exact hkept (hmoves.bootstrap (fun _ => keepsLeases_of_eq (fun _ => rfl) fun _ => rfl) fresh
      session userId nodeId networkId).keeps

theorem Leased.wellLeased (h : Leased s) : WellLeased s where
  fits := h
  distinct _ ha _ hb hsubnet hne _ _ := h.distinct ha hb hsubnet hne
  activates fresh userId networkId deviceId result t hrun := by
    obtain ⟨hleased, attachment, hmem, hresult⟩ :=
      (triple_activate fresh userId networkId deviceId).of_run_ok h hrun
    obtain ⟨_, _, _, hfits⟩ := hleased attachment hmem
    exact ⟨attachment, hmem, hresult, hfits.ne_empty, hleased attachment hmem⟩

theorem leased_empty : Leased ∅ := fun _ ha => absurd ha (Relation.not_mem_empty _)

/-- The store after each request. -/
def step (sameName : String → String → Bool) (s : Store) (r : Request) : Option Store :=
  some (r.after sameName s)

theorem leased_of_guarded
    (h : Reachable (guarded (fun s r => KeepsFit s r.operation) (rel (step sameName))) ∅ s) :
    Leased s := by
  refine h.invariant Leased leased_empty fun s r t hs hstep => ?_
  obtain rfl := Option.some.inj hstep.2
  exact (hs.after_iff sameName r).mpr hstep.1

/-- The runs in which the addresses are right all the way are those in which every operation keeps
to addresses that fit. -/
theorem wellLeased_iff (sameName : String → String → Bool) (s : Store) :
    WellLeased s ∧ Reachable (fun s r t => step sameName s r = some t ∧ WellLeased t) ∅ s ↔
      Reachable (guarded (fun s r => KeepsFit s r.operation) (rel (step sameName))) ∅ s := by
  constructor
  · rintro ⟨-, h⟩
    induction h with
    | start => exact .start
    | next _ hstep ih =>
      obtain ⟨hstep, ht⟩ := hstep
      have hfit := Option.some.inj hstep ▸ ht.fits
      exact .next ih ⟨((leased_of_guarded ih).after_iff sameName _).mp hfit, hstep⟩
  · intro h
    refine ⟨(leased_of_guarded h).wellLeased, ?_⟩
    induction h with
    | start => exact .start
    | next hr hstep ih =>
      exact .next ih ⟨hstep.2, (leased_of_guarded (hr.next hstep)).wellLeased⟩

/-! ## An address that is none -/

def newDevice (digits : String) : RegisterDeviceRequest := ⟨digits, "macos", digits, digits⟩

/-- The second device of a user, a member, is given whatever text its owner asks for. -/
def askedText : List Request :=
  [⟨.ofDigits "1" (.refl true), .registerUser "one@local.slan" "password"⟩,
    ⟨.ofDigits "2" (.refl true), .registerDevice "user-1" (newDevice "a")⟩,
    ⟨.ofDigits "3" (.refl true), .registerDevice "user-1" (newDevice "b")⟩,
    ⟨.ofDigits "4" (.refl true), .updateAttachmentIp "user-1" "net-1" "att-3" "any text"⟩]

theorem attachment_holds_any_text :
    ¬ ∀ (sameName : String → String → Bool) (s : Store),
      Reachable (rel (step sameName)) ∅ s → WellLeased s := by
  intro h
  let sameName : String → String → Bool := fun a b => a == b
  let s := execD (step sameName) ∅ askedText
  have hexec : exec (step sameName) ∅ askedText = some s := exec_eq_execD (by decide)
  have hfits := (h sameName s (.of_exec .start hexec)).fits
  have hall : ∀ a ∈ s.attachments.rows, s.Fits a.subnetId a.virtualIp := hfits
  revert hall
  decide

end Runs

end Slan.Networks
