import Mathlib.Data.Prod.Lex
import Slan.Networks.Results

/-! # A network gets a new lease pool

`Update` moves the attachments of the default subnet one row after the other, and the index on
subnet and address looks at each row as it is written.
-/

namespace Slan.Networks

open Netip (Addr)

/-! ## One row -/

instance : Std.Refl SubnetAttachment.Clash := ⟨fun _ => .inl rfl⟩

namespace Store

variable {s t : Store} {attachment : SubnetAttachment} {ip : String}

theorem updateAttachmentVirtualIp_eq_some {attachmentId : String} :
    s.updateAttachmentVirtualIp attachmentId ip = some t ↔
      t = { s with attachments := t.attachments } ∧
      t.attachments.rows = s.attachments.rows.map fun row =>
        if row.attachmentId = attachmentId then { row with virtualIp := ip } else row := by
  unfold updateAttachmentVirtualIp
  rw [Option.map_eq_some_iff]
  constructor
  · rintro ⟨attachments, hupdate, rfl⟩
    exact ⟨rfl, Relation.update_eq_some.mp hupdate⟩
  · intro ⟨ht, hrows⟩
    exact ⟨t.attachments, Relation.update_eq_some.mpr hrows, ht.symm⟩

/-- An address can be written unless another row of the subnet holds it. -/
theorem exists_updateAttachmentVirtualIp (hmem : attachment ∈ s.attachments) :
    (∃ t, s.updateAttachmentVirtualIp attachment.attachmentId ip = some t) ↔
      ∀ row ∈ s.attachments, row.subnetId = attachment.subnetId → row.virtualIp = ip →
        row = attachment := by
  have hself : ∀ row ∈ s.attachments, row.attachmentId = attachment.attachmentId →
      row = attachment := fun row hrow h => Relation.eq_of_clash hrow hmem (.inl h)
  have hupdate : (∃ t, s.updateAttachmentVirtualIp attachment.attachmentId ip = some t) ↔
      ∃ t, s.attachments.update (fun row =>
        if row.attachmentId = attachment.attachmentId then { row with virtualIp := ip }
        else row) = some t := by
    unfold updateAttachmentVirtualIp
    simp only [Option.map_eq_some_iff, exists_comm, exists_and_left, exists_eq', and_true]
  rw [hupdate, Relation.exists_update]
  constructor
  · intro h row hrow hsubnet hip
    by_contra hne
    have hid : row.attachmentId ≠ attachment.attachmentId := fun hid => hne (hself row hrow hid)
    refine hne (h row hrow attachment hmem (.inr (.inr ?_)))
    rw [if_neg hid, if_pos rfl]
    exact ⟨hsubnet, hip⟩
  · intro h a ha b hb hclash
    by_cases hida : a.attachmentId = attachment.attachmentId
    · obtain rfl := hself a ha hida
      by_cases hidb : b.attachmentId = a.attachmentId
      · exact (hself b hb hidb).symm
      · rw [if_pos rfl, if_neg hidb] at hclash
        rcases hclash with hid | hdevice | haddress
        · exact absurd hid.symm hidb
        · exact Relation.eq_of_clash ha hb (.inr (.inl hdevice))
        · exact (h b hb haddress.1.symm haddress.2.symm).symm
    · rw [if_neg hida] at hclash
      by_cases hidb : b.attachmentId = attachment.attachmentId
      · obtain rfl := hself b hb hidb
        rw [if_pos rfl] at hclash
        rcases hclash with hid | hdevice | haddress
        · exact absurd hid hida
        · exact Relation.eq_of_clash ha hb (.inr (.inl hdevice))
        · exact h a ha haddress.1 haddress.2
      · rw [if_neg hidb] at hclash
        exact Relation.eq_of_clash ha hb hclash

end Store

/-! ## The rows of a pool -/

namespace SubnetRange

def address (range : SubnetRange) (index : Nat) : Addr := range.start + BitVec.ofNat 32 index

/-- Every address of the range is one of its network. -/
structure Sound (range : SubnetRange) : Prop where
  ordered : range.start ≤ range.last
  contains : ∀ addr, range.start ≤ addr → addr ≤ range.last → range.network.contains addr = true

variable {range : SubnetRange} {i j : Nat}

theorem toNat_address (h : range.start ≤ range.last) (hi : i < range.size) :
    (range.address i).toNat = range.start.toNat + i := by
  unfold size at hi
  unfold address
  bv_omega

theorem address_mem (h : range.start ≤ range.last) (hi : i < range.size) :
    range.start ≤ range.address i ∧ range.address i ≤ range.last := by
  have haddress := toNat_address h hi
  unfold size at hi
  constructor <;> bv_omega

theorem address_lt (h : range.start ≤ range.last) (hj : j < range.size) (hij : i < j) :
    range.address i < range.address j := by
  rw [BitVec.lt_def, toNat_address h (hij.trans hj), toNat_address h hj]
  omega

theorem address_injective (h : range.start ≤ range.last) (hi : i < range.size) (hj : j < range.size)
    (heq : range.address i = range.address j) : i = j := by
  have hnat := congrArg BitVec.toNat heq
  rw [toNat_address h hi, toNat_address h hj] at hnat
  omega

end SubnetRange

/-- No row of the pool holds the new address of a row before it. -/
def Unhindered (range : SubnetRange) (index : Nat) (rows : List SubnetAttachment) : Prop :=
  (rows.zipIdx index).Pairwise fun a b => b.1.virtualIp ≠ Netip.render (range.address a.2)

instance (range : SubnetRange) (index : Nat) (rows : List SubnetAttachment) :
    Decidable (Unhindered range index rows) :=
  inferInstanceAs (Decidable ((rows.zipIdx index).Pairwise
    fun a b => b.1.virtualIp ≠ Netip.render (range.address a.2)))

/-- The rows before the first one that finds its new address with a row after it. -/
def movedRows (range : SubnetRange) : Nat → List SubnetAttachment → List SubnetAttachment
  | _, [] => []
  | index, attachment :: attachments =>
    if ∀ row ∈ attachments, row.virtualIp ≠ Netip.render (range.address index) then
      attachment :: movedRows range (index + 1) attachments
    else []

/-- A row after the addresses have been handed out from `index` on. -/
def leased (range : SubnetRange) :
    Nat → List SubnetAttachment → SubnetAttachment → SubnetAttachment
  | _, [], row => row
  | index, attachment :: attachments, row => leased range (index + 1) attachments
      (if row.attachmentId = attachment.attachmentId then
        { row with virtualIp := Netip.render (range.address index) } else row)

section Rows

variable {range : SubnetRange} {index : Nat} {attachment row : SubnetAttachment}
  {rows : List SubnetAttachment}

theorem unhindered_cons :
    Unhindered range index (attachment :: rows) ↔
      (∀ row ∈ rows, row.virtualIp ≠ Netip.render (range.address index)) ∧
        Unhindered range (index + 1) rows := by
  unfold Unhindered
  rw [List.zipIdx_cons, List.pairwise_cons]
  refine and_congr_left fun _ => ⟨fun h row hrow => ?_, fun h b hb => ?_⟩
  · rw [← List.zipIdx_map_fst (index + 1) rows] at hrow
    obtain ⟨b, hb, rfl⟩ := List.mem_map.mp hrow
    exact h b hb
  · exact h b.1 (List.fst_mem_of_mem_zipIdx hb)

theorem movedRows_of_unhindered (h : Unhindered range index rows) :
    movedRows range index rows = rows := by
  induction rows generalizing index with
  | nil => rfl
  | cons attachment rows ih =>
    obtain ⟨hhead, htail⟩ := unhindered_cons.mp h
    rw [movedRows, if_pos hhead, ih htail]

theorem movedRows_isPrefixOf (range : SubnetRange) (index : Nat) (rows : List SubnetAttachment) :
    movedRows range index rows <+: rows := by
  induction rows generalizing index with
  | nil => exact List.prefix_rfl
  | cons attachment rows ih =>
    unfold movedRows
    split
    · exact (List.prefix_cons_inj attachment).mpr (ih (index + 1))
    · exact List.nil_prefix

theorem leased_of_not_mem (h : ∀ a ∈ rows, row.attachmentId ≠ a.attachmentId) :
    leased range index rows row = row := by
  induction rows generalizing index with
  | nil => rfl
  | cons attachment rows ih =>
    obtain ⟨hhead, htail⟩ := List.forall_mem_cons.mp h
    rw [leased, if_neg hhead]
    exact ih htail

theorem leased_of_mem
    (hdistinct : rows.Pairwise fun a b => a.attachmentId ≠ b.attachmentId) (hrow : row ∈ rows) :
    leased range index rows row =
      { row with virtualIp := Netip.render (range.address (index + rows.idxOf row)) } := by
  induction rows generalizing index with
  | nil => exact absurd hrow List.not_mem_nil
  | cons attachment rows ih =>
    obtain ⟨hhead, htail⟩ := List.pairwise_cons.mp hdistinct
    rw [leased]
    by_cases heq : row = attachment
    · subst heq
      have hrest : leased range (index + 1) rows
          { row with virtualIp := Netip.render (range.address index) } =
          { row with virtualIp := Netip.render (range.address index) } := leased_of_not_mem hhead
      rw [if_pos rfl, hrest, List.idxOf_cons_self, Nat.add_zero]
    · have hmem : row ∈ rows := (List.mem_cons.mp hrow).resolve_left heq
      have hid : row.attachmentId ≠ attachment.attachmentId := (hhead row hmem).symm
      rw [if_neg hid, ih htail hmem, List.idxOf_cons_ne _ (Ne.symm heq),
        Nat.succ_eq_add_one, Nat.add_assoc index 1, Nat.add_comm 1]

end Rows

/-! ## Handing out the addresses -/

/-- These rows of the subnet are still to be moved, to the addresses from `index` on. -/
structure Pending (s : Store) (subnetId : String) (range : SubnetRange) (index : Nat)
    (rows : List SubnetAttachment) : Prop where
  mem : ∀ row ∈ rows, row ∈ s.attachments ∧ row.subnetId = subnetId
  distinct : rows.Pairwise fun a b => a.attachmentId ≠ b.attachmentId
  moved : ∀ row ∈ s.attachments, row.subnetId = subnetId → row ∉ rows →
    ∀ i, index ≤ i → i < range.size → row.virtualIp ≠ Netip.render (range.address i)
  room : index + rows.length ≤ range.size

section Run

variable {s t : Store} {subnetId : String} {range : SubnetRange} {index : Nat}
  {attachment : SubnetAttachment} {rows : List SubnetAttachment}

theorem Pending.lt (h : Pending s subnetId range index (attachment :: rows)) :
    index < range.size := by
  have hroom := h.room
  rw [List.length_cons] at hroom
  omega

theorem Pending.exists_update (h : Pending s subnetId range index (attachment :: rows)) :
    (∃ t, s.updateAttachmentVirtualIp attachment.attachmentId
        (Netip.render (range.address index)) = some t) ↔
      ∀ row ∈ rows, row.virtualIp ≠ Netip.render (range.address index) := by
  obtain ⟨hmem, hsubnet⟩ := h.mem attachment List.mem_cons_self
  rw [Store.exists_updateAttachmentVirtualIp hmem]
  constructor
  · intro hfree row hrow hip
    obtain ⟨hstored, hsame⟩ := h.mem row (List.mem_cons_of_mem _ hrow)
    obtain rfl := hfree row hstored (hsame.trans hsubnet.symm) hip
    exact (List.pairwise_cons.mp h.distinct).1 row hrow rfl
  · intro hfree row hrow hsame hip
    by_contra hne
    by_cases hpool : row ∈ rows
    · exact hfree row hpool hip
    · refine h.moved row hrow (hsame.trans hsubnet) ?_ index (Nat.le_refl _) h.lt hip
      exact fun hcons => (List.mem_cons.mp hcons).elim hne hpool

theorem Pending.step (hrange : range.Sound)
    (h : Pending s subnetId range index (attachment :: rows))
    (hwrite : s.updateAttachmentVirtualIp attachment.attachmentId
      (Netip.render (range.address index)) = some t) :
    Pending t subnetId range (index + 1) rows := by
  obtain ⟨_, hrows⟩ := Store.updateAttachmentVirtualIp_eq_some.mp hwrite
  obtain ⟨hhead, htail⟩ := List.pairwise_cons.mp h.distinct
  have hlt := h.lt
  refine ⟨fun row hrow => ?_, htail, fun row hrow hsubnet hout i hi hsize => ?_, ?_⟩
  · obtain ⟨hmem, hsubnet⟩ := h.mem row (List.mem_cons_of_mem _ hrow)
    refine ⟨?_, hsubnet⟩
    rw [Relation.mem_def, hrows]
    exact List.mem_map.mpr ⟨row, hmem, if_neg (hhead row hrow).symm⟩
  · rw [Relation.mem_def, hrows] at hrow
    obtain ⟨old, hold, rfl⟩ := List.mem_map.mp hrow
    by_cases hid : old.attachmentId = attachment.attachmentId
    · -- the row that was just moved is at a lower address
      rw [if_pos hid]
      intro hip
      have hi' := range.address_injective hrange.ordered hlt hsize (Netip.render_injective hip)
      omega
    · rw [if_neg hid] at hsubnet hout ⊢
      refine h.moved old hold hsubnet ?_ i (by omega) hsize
      exact fun hcons => (List.mem_cons.mp hcons).elim
        (fun heq => hid (congrArg SubnetAttachment.attachmentId heq)) hout
  · have hroom := h.room
    rw [List.length_cons] at hroom
    omega

theorem run_assignLeases_cons (hrange : range.Sound)
    (h : Pending s subnetId range index (attachment :: rows)) :
    (assignLeases range index (attachment :: rows)).run s =
      match s.updateAttachmentVirtualIp attachment.attachmentId
        (Netip.render (range.address index)) with
      | some t => (assignLeases range (index + 1) rows).run t
      | none => (.error .database, s) := by
  obtain ⟨hstart, hlast⟩ := range.address_mem hrange.ordered h.lt
  have hfits : ¬(range.last < range.address index ∨
      range.network.contains (range.address index) = false) := by
    rw [hrange.contains _ hstart hlast, not_or, BitVec.not_lt]
    exact ⟨hlast, by decide⟩
  have hcons : assignLeases range index (attachment :: rows) =
      if range.last < range.address index ∨
          range.network.contains (range.address index) = false then
        conflict "subnet is exhausted"
      else insert (fun s => s.updateAttachmentVirtualIp attachment.attachmentId
          (Netip.render (range.address index))) >>= fun _ =>
        assignLeases range (index + 1) rows := rfl
  rw [hcons, if_neg hfits, Program.run_bind, insert, Program.run_execOr]
  cases s.updateAttachmentVirtualIp attachment.attachmentId
    (Netip.render (range.address index)) <;> rfl

/-- The rows are moved in turn until one finds its address taken. -/
theorem run_assignLeases (hrange : range.Sound) (h : Pending s subnetId range index rows) :
    ∃ attachments,
      (assignLeases range index rows).run s =
        (if Unhindered range index rows then .ok () else .error .database,
          { s with attachments }) ∧
      attachments.rows =
        s.attachments.rows.map (leased range index (movedRows range index rows)) := by
  induction rows generalizing s index with
  | nil =>
    refine ⟨s.attachments, ?_, (List.map_id _).symm⟩
    rw [if_pos (show Unhindered range index [] from List.Pairwise.nil)]
    rfl
  | cons attachment rows ih =>
    rw [run_assignLeases_cons hrange h]
    by_cases hhead : ∀ row ∈ rows, row.virtualIp ≠ Netip.render (range.address index)
    · obtain ⟨t, hwrite⟩ := h.exists_update.mpr hhead
      obtain ⟨ht, hrows⟩ := Store.updateAttachmentVirtualIp_eq_some.mp hwrite
      obtain ⟨attachments, hrun, hleased⟩ := ih (h.step hrange hwrite)
      have hcons : Unhindered range index (attachment :: rows) ↔
          Unhindered range (index + 1) rows :=
        unhindered_cons.trans ⟨And.right, fun htail => ⟨hhead, htail⟩⟩
      refine ⟨attachments, ?_, ?_⟩
      · rw [hwrite]
        dsimp only
        rw [hrun, ht]
        simp only [hcons]
      · rw [hleased, hrows, List.map_map, movedRows, if_pos hhead]
        rfl
    · have hnone : s.updateAttachmentVirtualIp attachment.attachmentId
          (Netip.render (range.address index)) = none := by
        rw [Option.eq_none_iff_forall_ne_some]
        exact fun t hwrite => hhead (h.exists_update.mp ⟨t, hwrite⟩)
      have hcons : ¬Unhindered range index (attachment :: rows) :=
        fun hfree => hhead (unhindered_cons.mp hfree).1
      refine ⟨s.attachments, ?_, ?_⟩
      · rw [hnone, if_neg hcons]
      · rw [movedRows, if_neg hhead]
        exact (List.map_id _).symm

end Run

/-! ## The pool of a subnet -/

def Store.leasePool (s : Store) (subnetId : String) : List SubnetAttachment :=
  Control.sortStable s.leaseBefore (s.attachmentsBySubnet subnetId)

section Pool

variable {s : Store} {subnetId : String} {range : SubnetRange}

theorem mem_leasePool {row : SubnetAttachment} :
    row ∈ s.leasePool subnetId ↔ row ∈ s.attachments ∧ row.subnetId = subnetId := by
  unfold Store.leasePool Control.sortStable Store.attachmentsBySubnet
  rw [(List.perm_insertionSort _ _).mem_iff, Relation.mem_orderBy, Relation.mem_select,
    beq_iff_eq]

theorem length_leasePool :
    (s.leasePool subnetId).length = (s.attachmentsBySubnet subnetId).length :=
  (List.perm_insertionSort _ _).length_eq

theorem distinct_leasePool :
    (s.leasePool subnetId).Pairwise fun a b => a.attachmentId ≠ b.attachmentId := by
  have hrows : (s.attachments.select fun row => row.subnetId == subnetId).Pairwise
      fun a b => a.attachmentId ≠ b.attachmentId :=
    (s.attachments.apart.imp fun h hid => h (.inl hid)).filter _
  have hsymm : ∀ {a b : SubnetAttachment}, a.attachmentId ≠ b.attachmentId →
      b.attachmentId ≠ a.attachmentId := fun h => h.symm
  have hperm : (s.leasePool subnetId).Perm
      (s.attachments.select fun row => row.subnetId == subnetId) :=
    (List.perm_insertionSort _ _).trans (Relation.orderBy_perm _ _)
  exact (hperm.pairwise_iff hsymm).mpr hrows

theorem pending_leasePool (hroom : (s.attachmentsBySubnet subnetId).length ≤ range.size) :
    Pending s subnetId range 0 (s.leasePool subnetId) where
  mem row hrow := mem_leasePool.mp hrow
  distinct := distinct_leasePool
  moved row hrow hsubnet hout := absurd (mem_leasePool.mpr ⟨hrow, hsubnet⟩) hout
  room := by rwa [Nat.zero_add, length_leasePool]

/-- What the pool is sorted by. -/
def leaseKey (s : Store) (a : SubnetAttachment) : Bool ×ₗ String :=
  toLex (!s.ownerAttached a, a.attachmentId)

theorem leaseBefore_eq_false {a b : SubnetAttachment} :
    s.leaseBefore b a = false ↔ leaseKey s a ≤ leaseKey s b := by
  unfold Store.leaseBefore leaseKey
  rw [Prod.Lex.toLex_le_toLex]
  cases s.ownerAttached a <;> cases s.ownerAttached b <;> simp [-String.lt_iff_ltb]

theorem sorted_leasePool :
    (s.leasePool subnetId).Pairwise fun a b => s.leaseBefore b a = false := by
  have htotal : Std.Total fun a b => s.leaseBefore b a = false :=
    ⟨fun a b => by simpa only [leaseBefore_eq_false] using le_total _ _⟩
  have htrans : IsTrans SubnetAttachment fun a b => s.leaseBefore b a = false :=
    ⟨fun a b c hab hbc => by
      rw [leaseBefore_eq_false] at hab hbc ⊢
      exact hab.trans hbc⟩
  exact List.pairwise_insertionSort _ _

/-- Owners' devices stand first. -/
theorem idxOf_lt_of_owner {a b : SubnetAttachment} (ha : a ∈ s.leasePool subnetId)
    (hb : b ∈ s.leasePool subnetId) (howner : s.ownerAttached a = true)
    (hmember : s.ownerAttached b = false) :
    (s.leasePool subnetId).idxOf a < (s.leasePool subnetId).idxOf b := by
  by_contra hge
  have hia := List.idxOf_lt_length_of_mem ha
  have hib := List.idxOf_lt_length_of_mem hb
  have hgeta := List.getElem_idxOf hia
  have hgetb := List.getElem_idxOf hib
  rcases Nat.lt_or_eq_of_le (Nat.not_lt.mp hge) with hlt | heq
  · have hsorted := List.pairwise_iff_getElem.mp sorted_leasePool _ _ hib hia hlt
    rw [hgeta, hgetb] at hsorted
    simp [Store.leaseBefore, howner, hmember] at hsorted
  · have hab : a = b := by
      rw [← hgeta, ← hgetb]
      exact getElem_congr_idx heq.symm
    rw [hab, hmember] at howner
    cases howner

end Pool

/-! ## The update -/

/-- The rows of the subnet hold distinct addresses of the range, those of owners' devices the
lowest. -/
structure Reassigned (s : Store) (subnetId : String) (range : SubnetRange)
    (attachments : Relation SubnetAttachment SubnetAttachment.Clash)
    (lease : SubnetAttachment → Addr) : Prop where
  rows : attachments.rows = s.attachments.rows.map fun row =>
    if row.subnetId = subnetId then { row with virtualIp := Netip.render (lease row) } else row
  within : ∀ row ∈ s.attachments, row.subnetId = subnetId →
    range.start ≤ lease row ∧ lease row ≤ range.last
  distinct : ∀ a ∈ s.attachments, ∀ b ∈ s.attachments, a.subnetId = subnetId →
    b.subnetId = subnetId → lease a = lease b → a = b
  ownersFirst : ∀ a ∈ s.attachments, ∀ b ∈ s.attachments, a.subnetId = subnetId →
    b.subnetId = subnetId → s.ownerAttached a = true → s.ownerAttached b = false →
    lease a < lease b

theorem reassigned_of_leased {s : Store} {subnetId : String} {range : SubnetRange}
    {attachments : Relation SubnetAttachment SubnetAttachment.Clash} (hrange : range.Sound)
    (hroom : (s.attachmentsBySubnet subnetId).length ≤ range.size)
    (hrows : attachments.rows = s.attachments.rows.map (leased range 0 (s.leasePool subnetId))) :
    Reassigned s subnetId range attachments fun row =>
      range.address ((s.leasePool subnetId).idxOf row) := by
  have hlt : ∀ row ∈ s.attachments, row.subnetId = subnetId →
      (s.leasePool subnetId).idxOf row < range.size := fun row hrow hsubnet => by
    have hidx := List.idxOf_lt_length_of_mem (mem_leasePool.mpr ⟨hrow, hsubnet⟩)
    rw [length_leasePool] at hidx
    exact lt_of_lt_of_le hidx hroom
  constructor
  · rw [hrows]
    refine List.map_congr_left fun row hrow => ?_
    split
    · rename_i hsubnet
      rw [leased_of_mem distinct_leasePool (mem_leasePool.mpr ⟨hrow, hsubnet⟩), Nat.zero_add]
    · rename_i hsubnet
      refine leased_of_not_mem fun a ha hid => hsubnet ?_
      obtain ⟨hmem, hsame⟩ := mem_leasePool.mp ha
      rwa [Relation.eq_of_clash hrow hmem (.inl hid)]
  · intro row hrow hsubnet
    exact range.address_mem hrange.ordered (hlt row hrow hsubnet)
  · intro a ha b hb hsa hsb heq
    have hidx := range.address_injective hrange.ordered (hlt a ha hsa) (hlt b hb hsb) heq
    exact (List.idxOf_inj (mem_leasePool.mpr ⟨ha, hsa⟩)).mp hidx
  · intro a ha b hb hsa hsb howner hmember
    refine range.address_lt hrange.ordered (hlt b hb hsb) ?_
    exact idxOf_lt_of_owner (mem_leasePool.mpr ⟨ha, hsa⟩) (mem_leasePool.mpr ⟨hb, hsb⟩) howner
      hmember

/-- What a complete update leaves: the addresses, the range of the subnet, the metadata. -/
def Store.updated (s : Store) (attachments : Relation SubnetAttachment SubnetAttachment.Clash)
    (record : Network) (subnet : Subnet) (req : UpdateNetworkRequest) : Store :=
  ({ s with attachments }.updateSubnetRange subnet).updateNetworkMetadata record.networkId
    (trimmedOr req.name record.name) (trimmedOr req.description record.description) subnet.cidr

/-- An update that fails changes nothing, and one whose range has room is complete. -/
structure AllOrNothing (s : Store) (userId networkId : String) (req : UpdateNetworkRequest) :
    Prop where
  nothing : ∀ err, ((update userId networkId req).run s).1 = .error err →
    (update userId networkId req).after s = s
  all : ∀ record subnet range,
    ((prepareUpdate userId networkId req).run s).1 = .ok (record, subnet) →
    subnet.range = .ok range → (s.attachmentsBySubnet subnet.subnetId).length ≤ range.size →
    ∃ network attachments lease,
      (update userId networkId req).run s =
        (.ok network, s.updated attachments record subnet req) ∧
      Reassigned s subnet.subnetId range attachments lease

/-- The subnet and the range that an update asks for, where it passes its checks. -/
def leaseRequest (s : Store) (userId networkId : String) (req : UpdateNetworkRequest) :
    Option (Subnet × SubnetRange) :=
  match ((prepareUpdate userId networkId req).run s).1 with
  | .error _ => none
  | .ok (_, subnet) =>
    match subnet.range with
    | .error _ => none
    | .ok range => some (subnet, range)

/-- Where the range has room, no attachment holds the new address of one before it. -/
def UnhinderedUpdate (s : Store) (userId networkId : String) (req : UpdateNetworkRequest) : Prop :=
  ∀ asked ∈ leaseRequest s userId networkId req,
    (s.attachmentsBySubnet asked.1.subnetId).length ≤ asked.2.size →
    Unhindered asked.2 0 (s.leasePool asked.1.subnetId)

instance (s : Store) (userId networkId : String) (req : UpdateNetworkRequest) :
    Decidable (UnhinderedUpdate s userId networkId req) :=
  inferInstanceAs (Decidable (∀ asked ∈ leaseRequest s userId networkId req,
    (s.attachmentsBySubnet asked.1.subnetId).length ≤ asked.2.size →
    Unhindered asked.2 0 (s.leasePool asked.1.subnetId)))

section Update

variable {s : Store} {userId networkId : String} {req : UpdateNetworkRequest} {record : Network}
  {subnet : Subnet} {range : SubnetRange}

theorem after_prepareUpdate (userId networkId : String) (req : UpdateNetworkRequest) (s : Store) :
    ((prepareUpdate userId networkId req).run s).2 = s :=
  (each_prepareUpdate Program.reads_query userId networkId req).after_eq s

/-- The range that an update asks for is the default one of a roomy network. -/
theorem range_of_prepareUpdate
    (h : ((prepareUpdate userId networkId req).run s).1 = .ok (record, subnet)) :
    ∃ network, Roomy network ∧ subnet.range = .ok (defaultRange network) := by
  have hrun : (prepareUpdate userId networkId req).run s = (.ok (record, subnet), s) :=
    Prod.ext h (after_prepareUpdate userId networkId req s)
  obtain ⟨_, _, hsubnet, _⟩ := run_prepareUpdate_eq_ok.mp hrun
  obtain ⟨network, _, hroomy, rfl⟩ := newSubnet_default_eq_ok.mp hsubnet
  exact ⟨network, hroomy, range_defaultSubnet _ _ _ hroomy⟩

theorem Roomy.sound {network : Netip.Prefix} (h : Roomy network) :
    (defaultRange network).Sound where
  ordered := by
    obtain ⟨hone, htwo, hsub, hroom⟩ := h.bounds
    unfold defaultRange
    bv_omega
  contains addr hstart hlast := by
    obtain ⟨hone, htwo, hsub, hroom⟩ := h.bounds
    refine h.contains (BitVec.le_trans ?_ hstart) hlast
    unfold defaultRange
    bv_omega

theorem run_reassign (s : Store) (hrange : subnet.range = .ok range) :
    (reassignDefaultSubnetLeasePool subnet).run s =
      if range.size < (s.attachmentsBySubnet subnet.subnetId).length then
        (.error (.service (.wrap .conflict "subnet is too small for current members")), s)
      else
        match (assignLeases range 0 (s.leasePool subnet.subnetId)).run s with
        | (.ok (), t) => (.ok (), t.updateSubnetRange subnet)
        | (.error err, t) => (.error err, t) := by
  have hchecked : checked subnet.range = (pure range : Call SubnetRange) := by
    rw [hrange]
    rfl
  unfold reassignDefaultSubnetLeasePool
  rw [hchecked, Program.run_bind, Program.run_query]
  dsimp only
  rw [Program.run_bind, Program.run_pure]
  dsimp only
  split
  · rfl
  · rw [Program.run_bind, Program.run_query]
    dsimp only
    rw [Program.run_bind]
    unfold Store.leasePool
    generalize (assignLeases range 0 _).run s = result
    obtain ⟨result, t⟩ := result
    cases result <;> rfl

theorem run_update (s : Store) :
    (update userId networkId req).run s =
      match ((prepareUpdate userId networkId req).run s).1 with
      | .error err => (.error err, s)
      | .ok (record, subnet) =>
        match (reassignDefaultSubnetLeasePool subnet).run s with
        | (.error err, t) => (.error err, t)
        | (.ok (), t) =>
          (.ok { record with
            name := trimmedOr req.name record.name
            description := trimmedOr req.description record.description
            defaultSubnetCidr := subnet.cidr },
          t.updateNetworkMetadata record.networkId (trimmedOr req.name record.name)
            (trimmedOr req.description record.description) subnet.cidr) := by
  have hsame := after_prepareUpdate userId networkId req s
  unfold update
  rw [Program.run_bind]
  generalize (prepareUpdate userId networkId req).run s = result at hsame ⊢
  obtain ⟨result, t⟩ := result
  change t = s at hsame
  subst hsame
  cases result with
  | error err => rfl
  | ok prepared =>
    obtain ⟨record, subnet⟩ := prepared
    dsimp only
    rw [Program.run_bind]
    generalize (reassignDefaultSubnetLeasePool subnet).run t = result
    obtain ⟨result, u⟩ := result
    cases result <;> rfl

/-- What an update with such a range does. -/
theorem run_update_of_prepared {network : Netip.Prefix}
    (hprepared : ((prepareUpdate userId networkId req).run s).1 = .ok (record, subnet))
    (hrange : subnet.range = .ok (defaultRange network)) (hroomy : Roomy network) :
    ((defaultRange network).size < (s.attachmentsBySubnet subnet.subnetId).length →
      ∃ err, (update userId networkId req).run s = (.error err, s)) ∧
    ((s.attachmentsBySubnet subnet.subnetId).length ≤ (defaultRange network).size →
      ∃ attachments : Relation SubnetAttachment SubnetAttachment.Clash,
        attachments.rows = s.attachments.rows.map (leased (defaultRange network) 0
          (movedRows (defaultRange network) 0 (s.leasePool subnet.subnetId))) ∧
        if Unhindered (defaultRange network) 0 (s.leasePool subnet.subnetId) then
          ∃ result, (update userId networkId req).run s =
            (.ok result, s.updated attachments record subnet req)
        else (update userId networkId req).run s =
          (.error .database, { s with attachments })) := by
  rw [run_update, hprepared]
  dsimp only
  rw [run_reassign s hrange]
  refine ⟨fun hsmall => ?_, fun hroom => ?_⟩
  · rw [if_pos hsmall]
    exact ⟨_, rfl⟩
  · rw [if_neg (Nat.not_lt.mpr hroom)]
    obtain ⟨attachments, hrun, hrows⟩ := run_assignLeases hroomy.sound (pending_leasePool hroom)
    refine ⟨attachments, hrows, ?_⟩
    rw [hrun]
    split
    · exact ⟨_, rfl⟩
    · rfl

/-- The update is all or nothing unless an attachment holds the new address of one that is moved
before it. -/
theorem allOrNothing_iff (s : Store) (userId networkId : String) (req : UpdateNetworkRequest) :
    AllOrNothing s userId networkId req ↔ UnhinderedUpdate s userId networkId req := by
  unfold UnhinderedUpdate leaseRequest
  cases hprepared : ((prepareUpdate userId networkId req).run s).1 with
  | error err =>
    have hrun : (update userId networkId req).run s = (.error err, s) := by
      rw [run_update, hprepared]
    refine iff_of_true ⟨fun _ _ => congrArg Prod.snd hrun, fun record subnet range hok => ?_⟩
      nofun
    rw [hprepared] at hok
    cases hok
  | ok prepared =>
    obtain ⟨record, subnet⟩ := prepared
    obtain ⟨network, hroomy, hrange⟩ := range_of_prepareUpdate hprepared
    obtain ⟨hsmall, hlarge⟩ := run_update_of_prepared hprepared hrange hroomy
    simp only [hrange, Option.mem_def, Option.some.injEq, forall_eq']
    by_cases hroom : (s.attachmentsBySubnet subnet.subnetId).length ≤ (defaultRange network).size
    · obtain ⟨attachments, hrows, hrun⟩ := hlarge hroom
      constructor
      · intro h _
        by_contra hfree
        rw [if_neg hfree] at hrun
        obtain ⟨result, _, _, hok, _⟩ := h.all record subnet _ hprepared hrange hroom
        rw [hok] at hrun
        cases hrun
      · intro hfree
        rw [if_pos (hfree hroom)] at hrun
        rw [movedRows_of_unhindered (hfree hroom)] at hrows
        obtain ⟨result, hrun⟩ := hrun
        refine ⟨fun err herr => ?_, fun record' subnet' range' hok hrange' _ => ?_⟩
        · rw [hrun] at herr
          cases herr
        · rw [hprepared] at hok
          obtain ⟨rfl, rfl⟩ := Prod.mk.inj (Except.ok.inj hok)
          obtain rfl := Except.ok.inj (hrange.symm.trans hrange')
          exact ⟨result, attachments, _, hrun, reassigned_of_leased hroomy.sound hroom hrows⟩
    · obtain ⟨err, hrun⟩ := hsmall (Nat.not_le.mp hroom)
      refine iff_of_true ⟨fun _ _ => congrArg Prod.snd hrun,
        fun record' subnet' range' hok hrange' hroom' => ?_⟩ fun h => absurd h hroom
      rw [hprepared] at hok
      obtain ⟨rfl, rfl⟩ := Prod.mk.inj (Except.ok.inj hok)
      obtain rfl := Except.ok.inj (hrange.symm.trans hrange')
      exact absurd hroom' hroom

end Update

/-! ## A range that overlaps the one before -/

/-- An owner's device and three others; the addresses between them are free again. -/
def fourAttached : Store :=
  { (∅ : Store) with
    users := .ofRows [⟨"owner-1", "owner@local.slan", "net-1"⟩]
    networks := .ofRows [⟨"net-1", "owner-1", "home", "", "subnet-1", "10.0.0.0/16", ""⟩]
    subnets := .ofRows [⟨"subnet-1", "net-1", "default", "10.0.0.0/16", "10.0.0.1", "10.0.0.2",
      "10.0.255.254", true, "active"⟩]
    members := .ofRows [⟨"member-0", "net-1", "dev-0", .owner, 0, "active"⟩,
      ⟨"member-1", "net-1", "dev-1", .member, 0, "active"⟩,
      ⟨"member-2", "net-1", "dev-2", .member, 0, "active"⟩,
      ⟨"member-3", "net-1", "dev-3", .member, 0, "active"⟩]
    attachments := .ofRows [⟨"att-0", "net-1", "subnet-1", "dev-0", "10.0.0.2", "", "active"⟩,
      ⟨"att-1", "net-1", "subnet-1", "dev-1", "10.0.0.5", "", "active"⟩,
      ⟨"att-2", "net-1", "subnet-1", "dev-2", "10.0.0.6", "", "active"⟩,
      ⟨"att-3", "net-1", "subnet-1", "dev-3", "10.0.0.4", "", "active"⟩] }

/-- The second device is refused the address of the third, and the first has been moved. -/
theorem update_stops_midway :
    ¬ ∀ (s : Store) (userId networkId : String) (req : UpdateNetworkRequest),
      AllOrNothing s userId networkId req := by
  intro h
  let req : UpdateNetworkRequest := ⟨"", "", "10.0.0.0/24"⟩
  obtain ⟨hfails, hmoved⟩ :
      ((update "owner-1" "net-1" req).run fourAttached).1 = .error .database ∧
        ((update "owner-1" "net-1" req).after fourAttached).attachments.rows.map
          SubnetAttachment.virtualIp ≠
            fourAttached.attachments.rows.map SubnetAttachment.virtualIp := by decide
  exact hmoved (by rw [(h fourAttached "owner-1" "net-1" req).nothing _ hfails])

end Slan.Networks
