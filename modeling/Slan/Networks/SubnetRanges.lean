import Slan.Networks.Housing
import Slan.Networks.Leases

/-! # The address ranges of the subnets of one network -/

namespace Slan.Networks

open Netip (Addr Prefix)
open Program (Each Keeps Triple)
open Transition

/-! ## Ranges -/

/-- The address is one of the range that a CIDR text names. -/
def CidrHolds (cidr : String) (addr : Addr) : Prop :=
  ∃ network, Netip.parsePrefix (Text.trim cidr) = some (.ipv4 network) ∧
    network.contains addr = true

/-- Two ranges have an address in common. -/
def CidrsMeet (a b : String) : Prop := ∃ addr, CidrHolds a addr ∧ CidrHolds b addr

theorem CidrsMeet.symm {a b : String} (h : CidrsMeet a b) : CidrsMeet b a := by
  obtain ⟨addr, ha, hb⟩ := h
  exact ⟨addr, hb, ha⟩

/-- The ranges of the subnets of one network are pairwise disjoint. -/
def Apart (s : Store) : Prop :=
  ∀ x ∈ s.subnets, ∀ y ∈ s.subnets, x.networkId = y.networkId → x ≠ y → ¬CidrsMeet x.cidr y.cidr

theorem mem_of_parseHostAddress {raw field : String} {network : Prefix} {addr : Addr}
    (h : parseHostAddress raw network field = .ok addr) : network.contains addr = true := by
  unfold parseHostAddress at h
  obtain ⟨parsed, hparsed, h⟩ := Program.bind_eq_ok.mp h
  unfold parseIPv4InPrefix at hparsed
  cases hparse : Netip.parseAddr (Text.trim raw) with
  | none =>
    rw [hparse] at hparsed
    cases hparsed
  | some addr' =>
    simp only [hparse] at hparsed
    split at hparsed
    · rename_i hcontains
      obtain rfl := Except.ok.inj hparsed
      split at h
      · cases h
      · obtain rfl := Except.ok.inj h
        exact hcontains
    · cases hparsed

/-- What a range allocates lies in the range of its CIDR. -/
theorem cidrHolds_of_subnetRange {cidr gatewayIp startIp endIp : String} {range : SubnetRange}
    (h : subnetRange cidr gatewayIp startIp endIp = .ok range) {addr : Addr}
    (hstart : range.start ≤ addr) (hlast : addr ≤ range.last) : CidrHolds cidr addr := by
  obtain ⟨hparse, hlarge, gateway, hgateway, hlastOk, hgatewayStart, _⟩ := subnetRange_eq_ok h
  obtain ⟨network, start, last⟩ := range
  refine ⟨network, hparse, ?_⟩
  dsimp only at hlarge hgateway hlastOk hgatewayStart hstart hlast
  have hbroadcast := toNat_broadcast network
  have hlt : (networkBase network).toNat + 2 ^ network.hostBits ≤ 2 ^ 32 := network.masked_add_lt
  have hpos : 0 < 2 ^ network.hostBits := Nat.two_pow_pos _
  have hwithin : ∀ a : Addr, network.contains a = true →
      (networkBase network).toNat ≤ a.toNat ∧ a.toNat ≤ (broadcast network).toNat := by
    intro a ha
    obtain ⟨hbase, hbound⟩ := (network.contains_iff a).mp ha
    change a.toNat < (networkBase network).toNat + _ at hbound
    exact ⟨BitVec.le_def.mp hbase, by omega⟩
  have hgatewayIn : (networkBase network).toNat ≤ gateway.toNat := by
    unfold hostAddressOr at hgateway
    split at hgateway
    · exact (hwithin gateway (mem_of_parseHostAddress hgateway)).1
    · rw [← Except.ok.inj hgateway]
      bv_omega
  have hlastIn : last.toNat ≤ (broadcast network).toNat := by
    unfold hostAddressOr at hlastOk
    split at hlastOk
    · exact (hwithin last (mem_of_parseHostAddress hlastOk)).2
    · rw [← Except.ok.inj hlastOk]
      bv_omega
  rw [BitVec.le_def] at hstart hlast
  rw [BitVec.lt_def] at hgatewayStart
  exact contains_of_between (BitVec.le_def.mpr (by omega)) (BitVec.le_def.mpr (by omega))

theorem cidrHolds_of_fits {subnet : Subnet} {ip : String} (h : Fits subnet ip) :
    ∃ addr, ip = Netip.render addr ∧ CidrHolds subnet.cidr addr := by
  obtain ⟨range, addr, hrange, hip, hstart, hlast, _⟩ := h
  exact ⟨addr, hip, cidrHolds_of_subnetRange hrange hstart hlast⟩

/-- A check that a result has passed. -/
theorem eq_of_ite_ok {α : Type} {c : Prop} [Decidable c] {err : Control.ServiceError} {a b : α}
    (h : (if c then .error err else pure a : Except Control.ServiceError α) = .ok b) : a = b := by
  split at h
  · cases h
  · exact Except.ok.inj h

/-- A new subnet is where it was asked for. -/
theorem newSubnet_eq_ok {networkId subnetId name cidr gatewayIp startIp endIp : String}
    {isDefault : Bool} {subnet : Subnet}
    (h : newSubnet networkId subnetId name cidr gatewayIp startIp endIp isDefault = .ok subnet) :
    subnet.networkId = networkId ∧ subnet.subnetId = subnetId ∧
      ∀ addr, CidrHolds subnet.cidr addr ↔ CidrHolds cidr addr := by
  unfold newSubnet at h
  obtain ⟨range, hrange, h⟩ := Program.bind_eq_ok.mp h
  have hparse := (subnetRange_eq_ok hrange).1
  obtain rfl := eq_of_ite_ok h
  refine ⟨rfl, rfl, fun addr => ?_⟩
  unfold CidrHolds
  dsimp only
  rw [Netip.Prefix.trim_render, Netip.Prefix.parsePrefix_render, hparse]

/-! ## Networks keep a subnet each while none is added -/

section Rows

variable {s t : Store}

/-- The rows after a network is created with its subnet. -/
theorem createNetwork_eq_some {network : Network} {subnet : Subnet}
    (h : s.createNetworkWithDefaultSubnet network subnet = some t) :
    t.attachments = s.attachments ∧ (∀ n ∈ s.networks, n.networkId ≠ network.networkId) ∧
      (∀ n, n ∈ t.networks ↔ n ∈ s.networks ∨ n = network) ∧
      ∀ x, x ∈ t.subnets ↔ x ∈ s.subnets ∨ x = subnet := by
  unfold Store.createNetworkWithDefaultSubnet at h
  obtain ⟨networks, hnetworks, h⟩ := Option.bind_eq_some_iff.mp h
  obtain ⟨subnets, hsubnets, h⟩ := Option.bind_eq_some_iff.mp h
  obtain rfl := Option.some.inj h
  exact ⟨rfl, fun n hn hid => Relation.not_clash_of_insert hnetworks hn hid,
    fun _ => Relation.mem_insert hnetworks, fun _ => Relation.mem_insert hsubnets⟩

theorem Housed.createNetwork (h : Housed s) {network : Network} {subnet : Subnet}
    (hnetwork : subnet.networkId = network.networkId)
    (hdefault : network.defaultSubnetId = subnet.subnetId)
    (hwrite : s.createNetworkWithDefaultSubnet network subnet = some t) : Housed t := by
  obtain ⟨hattachments, _, hnetworks, hsubnets⟩ := createNetwork_eq_some hwrite
  have hmono : ∀ {subnetId networkId}, s.Houses subnetId networkId → t.Houses subnetId networkId :=
    fun ⟨x, hx, hids⟩ => ⟨x, (hsubnets x).mpr (.inl hx), hids⟩
  refine ⟨fun x hx => ?_, fun n hn => ?_, fun a ha => ?_⟩
  · rcases (hsubnets x).mp hx with hold | rfl
    · obtain ⟨n, hn, hid⟩ := h.subnetRow x hold
      exact ⟨n, (hnetworks n).mpr (.inl hn), hid⟩
    · exact ⟨network, (hnetworks network).mpr (.inr rfl), hnetwork.symm⟩
  · rcases (hnetworks n).mp hn with hold | rfl
    · exact hmono (h.defaultRow n hold)
    · exact ⟨subnet, (hsubnets subnet).mpr (.inr rfl), hdefault.symm, hnetwork⟩
  · rw [hattachments] at ha
    exact hmono (h.attachmentRow a ha)

/-- The subnets of a network that is created are new with it. -/
theorem Housed.newNetwork (h : Housed s) {network : Network} {subnet : Subnet}
    (hwrite : s.createNetworkWithDefaultSubnet network subnet = some t) {x : Subnet}
    (hx : x ∈ s.subnets) : x.networkId ≠ network.networkId := by
  obtain ⟨_, hnew, _⟩ := createNetwork_eq_some hwrite
  obtain ⟨n, hn, hid⟩ := h.subnetRow x hx
  exact fun heq => hnew n hn (hid.trans heq)

theorem Housed.createAttachment (h : Housed s) {row : SubnetAttachment}
    (hhouses : s.Houses row.subnetId row.networkId) (hwrite : s.createAttachment row = some t) :
    Housed t := by
  obtain ⟨attachments, hinsert, rfl⟩ := Option.map_eq_some_iff.mp hwrite
  refine { h with attachmentRow := fun a ha => ?_ }
  rcases (Relation.mem_insert hinsert).mp ha with hold | rfl
  · exact h.attachmentRow a hold
  · exact hhouses

theorem createAttachment_eq_some {row : SubnetAttachment}
    (h : s.createAttachment row = some t) : t.subnets = s.subnets := by
  obtain ⟨_, _, rfl⟩ := Option.map_eq_some_iff.mp h
  rfl

theorem housing_housed : Housing Housed where
  same := Housed.same
  housed := id
  network h hnetwork hdefault hwrite := h.createNetwork hnetwork hdefault hwrite
  attachment h hhouses hwrite := h.createAttachment hhouses hwrite

/-- No network has two subnets. -/
structure SingleSubnets (s : Store) : Prop extends Housed s where
  single : ∀ x ∈ s.subnets, ∀ y ∈ s.subnets, x.networkId = y.networkId → x = y

theorem housing_singleSubnets : Housing SingleSubnets where
  same h hsame := by
    refine ⟨h.toHoused.same hsame, ?_⟩
    rw [hsame.subnets]
    exact h.single
  housed := SingleSubnets.toHoused
  network h hnetwork hdefault hwrite := by
    refine ⟨h.toHoused.createNetwork hnetwork hdefault hwrite, fun x hx y hy hxy => ?_⟩
    obtain ⟨_, _, _, hsubnets⟩ := createNetwork_eq_some hwrite
    rcases (hsubnets x).mp hx with hx | rfl <;> rcases (hsubnets y).mp hy with hy | rfl
    · exact h.single x hx y hy hxy
    · exact absurd (hxy.trans hnetwork) (h.newNetwork hwrite hx)
    · exact absurd (hxy.symm.trans hnetwork) (h.newNetwork hwrite hy)
    · rfl
  attachment h hhouses hwrite := by
    refine ⟨h.toHoused.createAttachment hhouses hwrite, ?_⟩
    rw [createAttachment_eq_some hwrite]
    exact h.single

end Rows

/-! ## Further subnets, and new ranges -/

/-- A property that all calls keep whose requests satisfy `Asks`. -/
structure Subnetting (I : Store → Prop) (Asks : Store → Operation → Prop) : Prop
    extends Housing I where
  asks : ∀ {s t operation}, Asks s operation → SameHouses s t → Asks t operation
  subnet : ∀ {s t userId networkId req row}, I s → Asks s (.createSubnet userId networkId req) →
    row.networkId = networkId → (∃ n ∈ s.networks, n.networkId = networkId) →
    (∀ addr, CidrHolds row.cidr addr ↔ CidrHolds req.cidr addr) → s.createSubnet row = some t → I t
  range : ∀ {s userId networkId req subnet}, I s → Asks s (.update userId networkId req) →
    (∃ n ∈ s.networks, n.networkId = networkId ∧ n.defaultSubnetId = subnet.subnetId) →
    subnet.networkId = networkId → (∀ addr, CidrHolds subnet.cidr addr ↔ CidrHolds req.cidr addr) →
    I (s.updateSubnetRange subnet)

section Asked

variable {I : Store → Prop} {Asks : Store → Operation → Prop}

theorem Subnetting.triple_createSubnet (h : Subnetting I Asks) (sameName : String → String → Bool)
    (fresh : Fresh) (userId networkId : String) (req : CreateSubnetRequest) :
    Triple (fun s => I s ∧ Asks s (.createSubnet userId networkId req))
      (createSubnet sameName fresh userId networkId req) (fun _ => I) fun _ => I := by
  let P : Store → Prop := fun s => I s ∧ Asks s (.createSubnet userId networkId req)
  have hq : Program.Reads (fun _ : Store => ([] : List KeyEvent)) id := Program.reads_query
  unfold createSubnet
  split
  · exact .fail fun s hs => hs.1
  refine .bind (R := fun _ s => P s ∧ ∃ n ∈ s.networks, n.networkId = networkId)
    ((each_ownNetwork hq userId networkId).triple (fun s record hs hrun => ⟨hs, record, ?_⟩)
      fun s _ hs => hs.1) fun _ => ?_
  · exact networkById_eq_some (run_ownNetwork_eq_ok.mp hrun).1.1
  refine .bind (R := fun _ s => P s ∧ ∃ n ∈ s.networks, n.networkId = networkId)
    (.query fun s hs => hs) fun found => ?_
  split
  · exact .fail fun s hs => hs.1.1
  refine .bind (R := fun subnet s => (P s ∧ ∃ n ∈ s.networks, n.networkId = networkId) ∧
      subnet.networkId = networkId ∧ ∀ addr, CidrHolds subnet.cidr addr ↔ CidrHolds req.cidr addr)
    ((each_checked _).triple (fun s subnet hs hrun => ⟨hs, ?_⟩) fun s _ hs => hs.1.1)
    fun subnet => ?_
  · obtain ⟨hnetwork, _, hholds⟩ := newSubnet_eq_ok (run_checked_eq_ok.mp hrun).1
    exact ⟨hnetwork, hholds⟩
  refine .bind (R := fun _ => I) (.execOr (fun s hs t hwrite => ?_)
    fun s hs _ => hs.1.1.1) fun _ => .pure fun s hs => hs
  obtain ⟨⟨⟨hs, hasks⟩, hnetwork⟩, hid, hholds⟩ := hs
  exact h.subnet hs hasks hid hnetwork hholds hwrite

theorem Subnetting.triple_update (h : Subnetting I Asks) (userId networkId : String)
    (req : UpdateNetworkRequest) :
    Triple (fun s => I s ∧ Asks s (.update userId networkId req)) (update userId networkId req)
      (fun _ => I) fun _ => I := by
  have hq : Program.Reads (fun _ : Store => ([] : List KeyEvent)) id := Program.reads_query
  let P : Subnet → Store → Prop := fun subnet s =>
    (I s ∧ Asks s (.update userId networkId req)) ∧
      (∃ n ∈ s.networks, n.networkId = networkId ∧ n.defaultSubnetId = subnet.subnetId) ∧
      subnet.networkId = networkId ∧ ∀ addr, CidrHolds subnet.cidr addr ↔ CidrHolds req.cidr addr
  refine .bind (R := fun prepared => P prepared.2)
    ((each_prepareUpdate hq userId networkId req).triple (fun s prepared hs hrun => ?_)
      fun s _ hs => hs.1) fun prepared => ?_
  · obtain ⟨record, subnet⟩ := prepared
    obtain ⟨⟨hfound, _⟩, _, hsubnet, _⟩ := run_prepareUpdate_eq_ok.mp hrun
    obtain ⟨hrecord, rfl⟩ := networkById_eq_some hfound
    obtain ⟨hnetwork, hid, hholds⟩ := newSubnet_eq_ok hsubnet
    refine ⟨hs, ⟨record, hrecord, rfl, hid.symm⟩, hnetwork, fun addr => (hholds addr).trans ?_⟩
    unfold CidrHolds
    rw [Text.trim_trim]
  obtain ⟨record, subnet⟩ := prepared
  have hkept : ∀ {α : Type} {p : Call α}, Each KeepsHouses p →
      Triple (P subnet) p (fun _ => P subnet) fun _ => I := by
    intro α p hp
    have hkeeps : Keeps (P subnet) p := by
      refine (hp.mono fun _ write hsame s hs => ?_).keeps
      obtain ⟨⟨hs, hasks⟩, ⟨n, hn, hid, hdefault⟩, hsubnet⟩ := hs
      refine ⟨⟨h.same hs (hsame s), h.asks hasks (hsame s)⟩, ?_, hsubnet⟩
      have hmem : (n.networkId, n.defaultSubnetId) ∈
          (write s).networks.rows.map fun n => (n.networkId, n.defaultSubnetId) :=
        (hsame s).networks ▸ List.mem_map_of_mem hn
      obtain ⟨m, hm, hkeys⟩ := List.mem_map.mp hmem
      obtain ⟨hmid, hmdefault⟩ := Prod.mk.inj hkeys
      exact ⟨m, hm, hmid.trans hid, hmdefault.trans hdefault⟩
    exact hkeeps.triple.imp (fun _ hs => hs) (fun _ _ hs => hs) fun _ _ hs => hs.1.1
  refine .bind (R := fun _ => I) ?_ fun _ => ?_
  · refine .bind (hkept (.query keepsHouses_query _)) fun attachments => ?_
    refine .bind (hkept (each_checked _)) fun range => ?_
    split
    · exact .fail fun s hs => hs.1.1
    · refine .bind (hkept (.query keepsHouses_query _)) fun ordered => ?_
      refine .bind (hkept (each_assignLeases keepsHouses_updateAttachmentVirtualIp range 0 ordered))
        fun _ => .exec fun s hs => ?_
      obtain ⟨⟨hs, hasks⟩, hrecord, hnetwork, hholds⟩ := hs
      exact h.range hs hasks hrecord hnetwork hholds
  · have hmeta : ∀ name description, KeepsHouses (fun _ => []) fun s =>
        s.updateNetworkMetadata record.networkId name description subnet.cidr :=
      fun _ _ => keepsHouses_updateNetwork fun _ => rfl
    exact .bind (R := fun _ => I) (.exec fun s hs => h.same hs (hmeta _ _ s))
      fun _ => .pure fun s hs => hs

theorem Subnetting.after (h : Subnetting I Asks) (sameName : String → String → Bool) {s : Store}
    (hs : I s) {r : Request} (hasks : Asks s r.operation) : I (r.after sameName s) := by
  obtain ⟨fresh, operation⟩ := r
  unfold Request.after
  cases hsub : operation.subnetwork with
  | false => exact (h.toHousing.keeps_call sameName hsub).after hs
  | true =>
    cases operation with
    | createSubnet userId networkId req =>
      rw [Request.call, Program.after_void]
      exact (h.triple_createSubnet sameName fresh userId networkId req).after ⟨hs, hasks⟩
    | update userId networkId req =>
      rw [Request.call, Program.after_void]
      exact (h.triple_update userId networkId req).after ⟨hs, hasks⟩
    | _ => cases hsub

end Asked

/-! ## Every attachment is to a subnet of its network, whatever is asked -/

section Rows

variable {s t : Store}

theorem createSubnet_eq_some {row : Subnet} (h : s.createSubnet row = some t) :
    t.networks = s.networks ∧ t.attachments = s.attachments ∧
      ∀ x, x ∈ t.subnets ↔ x ∈ s.subnets ∨ x = row := by
  obtain ⟨subnets, hinsert, rfl⟩ := Option.map_eq_some_iff.mp h
  exact ⟨rfl, rfl, fun _ => Relation.mem_insert hinsert⟩

theorem Housed.createSubnet (h : Housed s) {row : Subnet}
    (hnetwork : ∃ n ∈ s.networks, n.networkId = row.networkId)
    (hwrite : s.createSubnet row = some t) : Housed t := by
  obtain ⟨hnetworks, hattachments, hsubnets⟩ := createSubnet_eq_some hwrite
  have hmono : ∀ {subnetId networkId}, s.Houses subnetId networkId → t.Houses subnetId networkId :=
    fun ⟨x, hx, hids⟩ => ⟨x, (hsubnets x).mpr (.inl hx), hids⟩
  refine ⟨fun x hx => ?_, fun n hn => ?_, fun a ha => ?_⟩
  · rw [hnetworks]
    rcases (hsubnets x).mp hx with hold | rfl
    · exact h.subnetRow x hold
    · exact hnetwork
  · rw [hnetworks] at hn
    exact hmono (h.defaultRow n hn)
  · rw [hattachments] at ha
    exact hmono (h.attachmentRow a ha)

/-- The rows after a subnet is given another range. -/
theorem mem_updateSubnetRange {subnet y : Subnet} (h : y ∈ (s.updateSubnetRange subnet).subnets) :
    ∃ x ∈ s.subnets, y.subnetId = x.subnetId ∧ y.networkId = x.networkId ∧
      y.cidr = if x.subnetId = subnet.subnetId then subnet.cidr else x.cidr := by
  obtain ⟨x, hx, rfl⟩ := List.mem_map.mp (Relation.mem_def.mp h)
  refine ⟨x, hx, ?_⟩
  split <;> exact ⟨rfl, rfl, rfl⟩

theorem Housed.updateSubnetRange (h : Housed s) (subnet : Subnet) :
    Housed (s.updateSubnetRange subnet) := by
  have hback : ∀ {subnetId networkId}, s.Houses subnetId networkId →
      (s.updateSubnetRange subnet).Houses subnetId networkId := by
    rintro _ _ ⟨x, hx, rfl, rfl⟩
    refine ⟨_, Relation.mem_def.mpr (List.mem_map.mpr ⟨x, hx, rfl⟩), ?_⟩
    split <;> exact ⟨rfl, rfl⟩
  refine ⟨fun y hy => ?_, fun n hn => hback (h.defaultRow n hn),
    fun a ha => hback (h.attachmentRow a ha)⟩
  obtain ⟨x, hx, _, hxn, _⟩ := mem_updateSubnetRange hy
  rw [hxn]
  exact h.subnetRow x hx

theorem subnetting_housed : Subnetting Housed fun _ _ => True where
  toHousing := housing_housed
  asks _ _ := trivial
  subnet h _ hid hnetwork _ hwrite := h.createSubnet (hid ▸ hnetwork) hwrite
  range h _ _ _ _ := h.updateSubnetRange _

end Rows

/-! ## Ranges that are kept apart -/

structure WellApart (s : Store) : Prop extends Housed s where
  apart : Apart s

/-- A range is asked for that meets no other subnet of the network. -/
def AsksApart (s : Store) : Operation → Prop
  | .createSubnet _ networkId req =>
    ∀ x ∈ s.subnets, x.networkId = networkId → ¬CidrsMeet req.cidr x.cidr
  | .update _ networkId req =>
    ∀ n ∈ s.networks, n.networkId = networkId → ∀ x ∈ s.subnets, x.networkId = networkId →
      x.subnetId ≠ n.defaultSubnetId → ¬CidrsMeet req.cidr x.cidr
  | _ => True

section Apart

variable {s t : Store}

theorem AsksApart.same {operation : Operation} (h : AsksApart s operation)
    (hsame : SameHouses s t) : AsksApart t operation := by
  cases operation with
  | createSubnet userId networkId req =>
    intro x hx
    rw [hsame.subnets] at hx
    exact h x hx
  | update userId networkId req =>
    intro n hn hid x hx hxn hxid
    rw [hsame.subnets] at hx
    obtain ⟨m, hm, hmid, hmdefault⟩ := hsame.network hn
    exact h m hm (hmid.trans hid) x hx hxn (hmdefault ▸ hxid)
  | _ => trivial

theorem housing_wellApart : Housing WellApart where
  same h hsame := by
    refine ⟨h.toHoused.same hsame, ?_⟩
    unfold Apart
    rw [hsame.subnets]
    exact h.apart
  housed := WellApart.toHoused
  network h hnetwork hdefault hwrite := by
    refine ⟨h.toHoused.createNetwork hnetwork hdefault hwrite, fun x hx y hy hxy hne => ?_⟩
    obtain ⟨_, _, _, hsubnets⟩ := createNetwork_eq_some hwrite
    rcases (hsubnets x).mp hx with hx | rfl <;> rcases (hsubnets y).mp hy with hy | rfl
    · exact h.apart x hx y hy hxy hne
    · exact absurd (hxy.trans hnetwork) (h.newNetwork hwrite hx)
    · exact absurd (hxy.symm.trans hnetwork) (h.newNetwork hwrite hy)
    · exact absurd rfl hne
  attachment h hhouses hwrite := by
    refine ⟨h.toHoused.createAttachment hhouses hwrite, ?_⟩
    unfold Apart
    rw [createAttachment_eq_some hwrite]
    exact h.apart

theorem WellApart.createSubnet (h : WellApart s) {row : Subnet}
    (hnetwork : ∃ n ∈ s.networks, n.networkId = row.networkId)
    (hclear : ∀ x ∈ s.subnets, x.networkId = row.networkId → ¬CidrsMeet row.cidr x.cidr)
    (hwrite : s.createSubnet row = some t) : WellApart t := by
  obtain ⟨_, _, hsubnets⟩ := createSubnet_eq_some hwrite
  refine ⟨h.toHoused.createSubnet hnetwork hwrite, fun x hx y hy hxy hne => ?_⟩
  rcases (hsubnets x).mp hx with hx | rfl <;> rcases (hsubnets y).mp hy with hy | rfl
  · exact h.apart x hx y hy hxy hne
  · exact fun hmeet => hclear x hx hxy hmeet.symm
  · exact hclear y hy hxy.symm
  · exact absurd rfl hne

/-- A subnet is given a range that is clear of the other subnets of its network. -/
theorem WellApart.updateSubnetRange (h : WellApart s) {subnet : Subnet}
    (hhouses : s.Houses subnet.subnetId subnet.networkId)
    (hclear : ∀ x ∈ s.subnets, x.networkId = subnet.networkId → x.subnetId ≠ subnet.subnetId →
      ¬CidrsMeet subnet.cidr x.cidr) : WellApart (s.updateSubnetRange subnet) := by
  refine ⟨h.toHoused.updateSubnetRange subnet, fun y hy y' hy' hyy hne => ?_⟩
  obtain ⟨stored, hstored, hid, hnetwork⟩ := hhouses
  -- the row of that identifier is the one of that network
  have hsame : ∀ x ∈ s.subnets, x.subnetId = subnet.subnetId → x.networkId = subnet.networkId :=
    fun x hx hxid => by
      obtain rfl := Relation.eq_of_clash hx hstored (hxid.trans hid.symm)
      exact hnetwork
  obtain ⟨x, hx, hxid, hxn, hxc⟩ := mem_updateSubnetRange hy
  obtain ⟨x', hx', hxid', hxn', hxc'⟩ := mem_updateSubnetRange hy'
  have hidne : x.subnetId ≠ x'.subnetId := fun heq =>
    hne (Relation.eq_of_clash hy hy' (hxid.trans (heq.trans hxid'.symm)))
  have hxx : x.networkId = x'.networkId := hxn.symm.trans (hyy.trans hxn')
  rw [hxc, hxc']
  split <;> split
  · rename_i hl hr
    exact absurd (hl.trans hr.symm) hidne
  · rename_i hl hr
    exact hclear x' hx' (hxx.symm.trans (hsame x hx hl)) hr
  · rename_i hl hr
    exact fun hmeet => hclear x hx (hxx.trans (hsame x' hx' hr)) hl hmeet.symm
  · exact h.apart x hx x' hx' hxx fun heq => hidne (congrArg Subnet.subnetId heq)

theorem CidrsMeet.congr {a b c : String} (h : ∀ addr, CidrHolds a addr ↔ CidrHolds b addr) :
    CidrsMeet a c ↔ CidrsMeet b c :=
  exists_congr fun addr => and_congr_left fun _ => h addr

theorem subnetting_wellApart : Subnetting WellApart AsksApart where
  toHousing := housing_wellApart
  asks h hsame := h.same hsame
  subnet h hasks hid hnetwork hholds hwrite := by
    refine h.createSubnet (hid ▸ hnetwork) (fun x hx hxn => ?_) hwrite
    rw [CidrsMeet.congr hholds]
    exact hasks x hx (hxn.trans hid)
  range h hasks hrecord hnetwork hholds := by
    obtain ⟨n, hn, hid, hdefault⟩ := hrecord
    refine h.updateSubnetRange ?_ fun x hx hxn hxid => ?_
    · rw [hnetwork, ← hid, ← hdefault]
      exact h.defaultRow n hn
    · rw [CidrsMeet.congr hholds]
      exact hasks n hn hid x hx (hxn.trans hnetwork) (hdefault ▸ hxid)

end Apart

/-! ## Addresses that tell attachments apart -/

/-- On a subnet no two attachments have an address in common; in a network of which the ranges are
apart no two devices have, where the addresses lie in the ranges. -/
structure UniquelyAddressed (s : Store) : Prop where
  perSubnet : ∀ a ∈ s.attachments, ∀ b ∈ s.attachments, a ≠ b → a.subnetId = b.subnetId →
    a.virtualIp ≠ b.virtualIp
  perNetwork : Apart s → ∀ a ∈ s.attachments, ∀ b ∈ s.attachments, a.deviceId ≠ b.deviceId →
    a.networkId = b.networkId → s.Fits a.subnetId a.virtualIp → s.Fits b.subnetId b.virtualIp →
    a.virtualIp ≠ b.virtualIp

section Runs

variable {sameName : String → String → Bool} {s : Store}

theorem Housed.unique_addresses (h : Housed s) : UniquelyAddressed s := by
  have hindex : ∀ a ∈ s.attachments, ∀ b ∈ s.attachments, a ≠ b → a.subnetId = b.subnetId →
      a.virtualIp ≠ b.virtualIp := fun a ha b hb hne hsubnet hip =>
    hne (Relation.eq_of_clash ha hb (.inr (.inr ⟨hsubnet, hip⟩)))
  refine ⟨hindex, fun hapart a ha b hb hdevice hnetwork hafits hbfits hip => ?_⟩
  obtain ⟨x, hx, hxid, hxfits⟩ := hafits
  obtain ⟨y, hy, hyid, hyfits⟩ := hbfits
  by_cases hsubnet : a.subnetId = b.subnetId
  · exact hindex a ha b hb (fun hab => hdevice (congrArg SubnetAttachment.deviceId hab)) hsubnet hip
  · -- each is in the network of its attachment, so the subnets are two of one network
    have hnet : ∀ (row : SubnetAttachment) (subnet : Subnet), row ∈ s.attachments →
        subnet ∈ s.subnets → subnet.subnetId = row.subnetId → subnet.networkId = row.networkId := by
      intro row subnet hrow hmem hid
      obtain ⟨stored, hstored, hsid, hsnet⟩ := h.attachmentRow row hrow
      obtain rfl := Relation.eq_of_clash hmem hstored (hid.trans hsid.symm)
      exact hsnet
    have hxy : x.networkId = y.networkId :=
      (hnet a x ha hx hxid).trans (hnetwork.trans (hnet b y hb hy hyid).symm)
    have hne : x ≠ y := fun heq => hsubnet (by rw [← hxid, ← hyid, heq])
    obtain ⟨addr, haddr, hholds⟩ := cidrHolds_of_fits hxfits
    obtain ⟨addr', haddr', hholds'⟩ := cidrHolds_of_fits hyfits
    obtain rfl : addr = addr' :=
      Netip.render_injective (haddr.symm.trans (hip.trans haddr'))
    exact hapart x hx y hy hxy hne ⟨addr, hholds, hholds'⟩

theorem wellApart_empty : WellApart ∅ where
  toHoused := housed_empty
  apart _ h := absurd h (Relation.not_mem_empty _)

theorem wellApart_of_guarded
    (h : Reachable (guarded (fun s r => AsksApart s r.operation) (rel (step sameName))) ∅ s) :
    WellApart s := by
  refine h.invariant WellApart wellApart_empty fun s r t hs hstep => ?_
  obtain rfl := Option.some.inj hstep.2
  exact subnetting_wellApart.after sameName hs hstep.1

/-- Addresses are unique on every subnet, and in every network whose ranges no request has asked to
overlap. -/
theorem uniquelyAddressed (h : Reachable (rel (step sameName)) ∅ s) :
    UniquelyAddressed s ∧
      (Reachable (guarded (fun s r => AsksApart s r.operation) (rel (step sameName))) ∅ s →
        Apart s) := by
  constructor
  · refine Housed.unique_addresses (h.invariant Housed housed_empty fun s r t hs hstep => ?_)
    obtain rfl := Option.some.inj hstep
    exact subnetting_housed.after sameName hs trivial
  · exact fun hguarded => (wellApart_of_guarded hguarded).apart

/-! ## Two subnets with one range, and two with ranges of their own -/

def twoDevices : List Request :=
  [⟨.ofDigits "1" (.refl true), .registerUser "one@local.slan" "password"⟩,
    ⟨.ofDigits "2" (.refl true), .registerDevice "user-1" (newDevice "a")⟩,
    ⟨.ofDigits "3" (.refl true), .registerDevice "user-1" (newDevice "b")⟩]

def makeLab (cidr : String) : Request :=
  ⟨.ofDigits "4" (.refl true), .createSubnet "user-1" "net-1" ⟨"lab", cidr, "", "", ""⟩⟩

def attachToLab : Request :=
  ⟨.ofDigits "5" (.refl true), .attachDevice "user-1" "net-1" "subnet-4" "dev-3"⟩

def sameText (a b : String) : Bool := a == b

/-- The store after the second device is attached to a further subnet. -/
def labStore (cidr : String) : Store :=
  attachToLab.after sameText ((makeLab cidr).after sameText (execD (step sameText) ∅ twoDevices))

/-- The owner asks for the first device's address on the second one's subnet. -/
def askForHeld : Request :=
  ⟨.ofDigits "6" (.refl true), .updateAttachmentIp "user-1" "net-1" "att-5" "10.0.0.2"⟩

theorem exec_twoDevices :
    exec (step sameText) ∅ twoDevices = some (execD (step sameText) ∅ twoDevices) :=
  exec_eq_execD (by decide)

/-- The range of the further subnet lies beside that of the default one. -/
theorem reachable_labStore :
    Reachable (guarded (fun s r => AsksApart s r.operation) (rel (step sameText))) ∅
      (labStore "10.1.0.0/24") := by
  let before := execD (step sameText) ∅ twoDevices
  have hcidr : ∀ x ∈ before.subnets.rows, x.cidr = "10.0.0.0/16" := by decide
  have hclear : ∀ x ∈ before.subnets, ¬CidrsMeet "10.1.0.0/24" x.cidr := by
    rintro x hx ⟨addr, ⟨lab, hlab, hinLab⟩, home, hhome, hinHome⟩
    rw [hcidr x hx] at hhome
    have hlab' : Netip.parsePrefix (Text.trim "10.1.0.0/24") =
        some (.ipv4 ⟨0x0a010000#32, 24, by decide⟩) := by rfl
    have hhome' : Netip.parsePrefix (Text.trim "10.0.0.0/16") =
        some (.ipv4 ⟨0x0a000000#32, 16, by decide⟩) := by rfl
    obtain rfl : _ = lab := Netip.ParsedPrefix.ipv4.inj (Option.some.inj (hlab'.symm.trans hlab))
    obtain rfl : _ = home := Netip.ParsedPrefix.ipv4.inj (Option.some.inj (hhome'.symm.trans hhome))
    have hlow : 0x0a010000 ≤ addr.toNat := ((Prefix.contains_iff _ addr).mp hinLab).1
    have hhigh : addr.toNat < 0x0a000000 + 2 ^ 16 := ((Prefix.contains_iff _ addr).mp hinHome).2
    omega
  have hbefore : Reachable (guarded (fun s r => AsksApart s r.operation) (rel (step sameText))) ∅
      before := by
    refine Reachable.start.guarded_of_exec (fun r hr s => ?_) exec_twoDevices
    simp only [twoDevices, List.mem_cons, List.not_mem_nil, or_false] at hr
    rcases hr with rfl | rfl | rfl <;> trivial
  exact (hbefore.next (a := makeLab "10.1.0.0/24") ⟨fun x hx _ => hclear x hx, rfl⟩).next
    (a := attachToLab) ⟨trivial, rfl⟩

/-- Ranges overlap, and even where they do not an owner can ask for an address that is held. -/
theorem address_held_twice :
    (¬ ∀ (sameName : String → String → Bool) (s : Store), Reachable (rel (step sameName)) ∅ s →
      Apart s ∧ ∀ a ∈ s.attachments, ∀ b ∈ s.attachments, a.deviceId ≠ b.deviceId →
        a.networkId = b.networkId → a.virtualIp ≠ b.virtualIp) ∧
    ¬ ∀ (sameName : String → String → Bool) (s : Store), Reachable (rel (step sameName)) ∅ s →
      Apart s → ∀ a ∈ s.attachments, ∀ b ∈ s.attachments, a.deviceId ≠ b.deviceId →
        a.networkId = b.networkId → a.virtualIp ≠ b.virtualIp := by
  constructor
  · intro h
    have hreach : Reachable (rel (step sameText)) ∅ (labStore "10.0.0.0/24") :=
      (Reachable.of_exec .start exec_twoDevices).next (a := makeLab "10.0.0.0/24") rfl
        |>.next (a := attachToLab) rfl
    have hall : ∀ a ∈ (labStore "10.0.0.0/24").attachments.rows,
        ∀ b ∈ (labStore "10.0.0.0/24").attachments.rows, a.deviceId ≠ b.deviceId →
          a.networkId = b.networkId → a.virtualIp ≠ b.virtualIp := (h sameText _ hreach).2
    revert hall
    decide
  · intro h
    let s := askForHeld.after sameText (labStore "10.1.0.0/24")
    have hreach : Reachable (guarded (fun s r => AsksApart s r.operation) (rel (step sameText))) ∅
        s := reachable_labStore.next (a := askForHeld) ⟨trivial, rfl⟩
    have hall : ∀ a ∈ s.attachments.rows, ∀ b ∈ s.attachments.rows, a.deviceId ≠ b.deviceId →
        a.networkId = b.networkId → a.virtualIp ≠ b.virtualIp :=
      h sameText s hreach.of_guarded (wellApart_of_guarded hreach).apart
    revert hall
    decide

theorem addresses_apart :
    UniquelyAddressed (labStore "10.1.0.0/24") ∧ Apart (labStore "10.1.0.0/24") := by
  have hunique := uniquelyAddressed reachable_labStore.of_guarded
  exact ⟨hunique.1, hunique.2 reachable_labStore⟩

end Runs

end Slan.Networks
