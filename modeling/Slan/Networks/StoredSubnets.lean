import Slan.Networks.Allocation
import Slan.Networks.Workflows

/-! # The subnets that are accepted: their ranges, and the addresses that are chosen from them -/

namespace Slan.Networks

open Netip (Addr Prefix)

/-! ## What a range is read from -/

/-- Where a range starts if it is not said. -/
def defaultStart (network : Prefix) (gatewayIp : String) (gateway : Addr) : Addr :=
  if gatewayIp ≠ "" ∧ networkBase network + 2 ≤ gateway then gateway + 1
  else networkBase network + 2

/-- What the texts of a subnet are read as. -/
structure ReadAs (cidr gatewayIp startIp endIp : String) (range : SubnetRange) (gateway : Addr) :
    Prop where
  parsed : Netip.parsePrefix (Text.trim cidr) = some (.ipv4 range.network)
  large : ¬broadcast range.network - networkBase range.network < 3
  together : Text.trim startIp = "" ↔ Text.trim endIp = ""
  gatewayRead : hostAddressOr (networkBase range.network + 1) (gatewayIp != "") gatewayIp
    range.network "gatewayIp" = .ok gateway
  startRead : hostAddressOr (defaultStart range.network gatewayIp gateway) (Text.trim startIp != "")
    startIp range.network "allocationStartIp" = .ok range.start
  lastRead : hostAddressOr (broadcast range.network - 1) (Text.trim endIp != "") endIp range.network
    "allocationEndIp" = .ok range.last
  gateway_lt : gateway < range.start
  start_lt : range.start < range.last

section Read

variable {cidr gatewayIp startIp endIp : String} {range : SubnetRange} {gateway : Addr}

theorem subnetRange_eq_ok_iff :
    subnetRange cidr gatewayIp startIp endIp = .ok range ↔
      ∃ gateway, ReadAs cidr gatewayIp startIp endIp range gateway := by
  have htogether : ∀ a b : String, ((a == "") != (b == "")) = true ↔ ¬(a = "" ↔ b = "") := by
    intro a b
    by_cases ha : a = "" <;> by_cases hb : b = "" <;> simp [ha, hb]
  constructor
  · intro h
    unfold subnetRange at h
    split at h
    · cases h
    · cases h
    · rename_i network hparse
      dsimp only at h
      split at h
      · cases h
      rename_i hlarge
      split at h
      · cases h
      rename_i hboth
      obtain ⟨gateway, hgateway, h⟩ := Program.bind_eq_ok.mp h
      obtain ⟨start, hstart, h⟩ := Program.bind_eq_ok.mp h
      obtain ⟨last, hlast, h⟩ := Program.bind_eq_ok.mp h
      split at h
      · cases h
      rename_i hordered
      obtain rfl := Except.ok.inj h
      rw [not_or, BitVec.not_le, BitVec.not_le] at hordered
      rw [htogether, not_not] at hboth
      exact ⟨gateway, hparse, hlarge, hboth, hgateway, hstart, hlast, hordered.1, hordered.2⟩
  · rintro ⟨gateway, hparse, hlarge, hboth, hgateway, hstart, hlast, hlt, hlt'⟩
    have hordered : ¬(range.start ≤ gateway ∨ range.last ≤ range.start) :=
      not_or.mpr ⟨BitVec.not_le.mpr hlt, BitVec.not_le.mpr hlt'⟩
    unfold defaultStart at hstart
    unfold subnetRange
    rw [hparse]
    dsimp only
    rw [if_neg hlarge, if_neg (by rw [htogether, not_not]; exact hboth)]
    simp only [hgateway, hstart, hlast, bind, Except.bind, if_neg hordered]
    rfl

/-! ## The bounds of a range -/

/-- The addresses of a range in order inside its network, and the numbers that are counted up or
down from them as they are written. -/
structure Bounded (range : SubnetRange) (gateway : Addr) : Prop where
  base_lt : (networkBase range.network).toNat < gateway.toNat
  gateway_lt : gateway.toNat < range.start.toNat
  start_lt : range.start.toNat < range.last.toNat
  last_lt : range.last.toNat < (broadcast range.network).toNat
  inside : ∀ addr, range.network.contains addr = true ↔
    networkBase range.network ≤ addr ∧ addr ≤ broadcast range.network
  broadcast : (broadcast range.network).toNat =
    (networkBase range.network).toNat + (2 ^ range.network.hostBits - 1)
  up : ∀ addr, networkBase range.network ≤ addr → addr ≤ range.last →
    (addr + 1).toNat = addr.toNat + 1 ∧ (networkBase range.network + 2).toNat =
      (networkBase range.network).toNat + 2
  down : (Slan.Networks.broadcast range.network - 1).toNat + 1 =
    (Slan.Networks.broadcast range.network).toNat

theorem contains_iff_between {network : Prefix} {addr : Addr} :
    network.contains addr = true ↔ networkBase network ≤ addr ∧ addr ≤ broadcast network := by
  have hbroadcast := toNat_broadcast network
  have hpos : 0 < 2 ^ network.hostBits := Nat.two_pow_pos _
  rw [network.contains_iff]
  change _ ∧ addr.toNat < (networkBase network).toNat + 2 ^ network.hostBits ↔ _
  refine and_congr_right fun _ => ?_
  rw [BitVec.le_def]
  omega

theorem between_of_parseHostAddress {raw field : String} {network : Prefix} {addr : Addr}
    (h : parseHostAddress raw network field = .ok addr) :
    networkBase network < addr ∧ addr < broadcast network := by
  obtain ⟨hbase, hlast⟩ := contains_iff_between.mp (mem_of_parseHostAddress h)
  unfold parseHostAddress at h
  obtain ⟨parsed, _, h⟩ := Program.bind_eq_ok.mp h
  split at h
  · cases h
  · rename_i hhost
    obtain rfl := Except.ok.inj h
    rw [not_or] at hhost
    constructor <;> bv_omega

/-- A host address is given, or else one stands in for it. -/
theorem between_of_hostAddressOr {raw field : String} {network : Prefix} {given : Bool}
    {standIn addr : Addr} (h : hostAddressOr standIn given raw network field = .ok addr)
    (hstandIn : networkBase network < standIn ∧ standIn < broadcast network) :
    networkBase network < addr ∧ addr < broadcast network := by
  unfold hostAddressOr at h
  split at h
  · exact between_of_parseHostAddress h
  · rwa [← Except.ok.inj h]

theorem ReadAs.bounded (h : ReadAs cidr gatewayIp startIp endIp range gateway) :
    Bounded range gateway := by
  have hlarge := h.large
  have hbroadcast := toNat_broadcast range.network
  have hlt : (networkBase range.network).toNat + 2 ^ range.network.hostBits ≤ 2 ^ 32 :=
    range.network.masked_add_lt
  have hpos : 0 < 2 ^ range.network.hostBits := Nat.two_pow_pos _
  have hgateway := between_of_hostAddressOr h.gatewayRead (by constructor <;> bv_omega)
  have hlast := between_of_hostAddressOr h.lastRead (by constructor <;> bv_omega)
  refine ⟨hgateway.1, h.gateway_lt, h.start_lt, hlast.2, fun addr => contains_iff_between,
    hbroadcast, fun addr hbase hle => ?_, ?_⟩
  · constructor <;> bv_omega
  · bv_omega

end Read

/-! ## What is stored, read again -/

section Stored

variable {cidr gatewayIp startIp endIp : String} {range : SubnetRange} {gateway : Addr}

theorem hostAddressOr_render {addr standIn : Addr} {network : Prefix} {field : String}
    (hbase : networkBase network < addr) (hlast : addr < broadcast network) :
    hostAddressOr standIn true (Netip.render addr) network field = .ok addr := by
  have hcontains : network.contains addr = true :=
    contains_iff_between.mpr ⟨BitVec.le_of_lt hbase, BitVec.le_of_lt hlast⟩
  exact parseHostAddress_render hcontains (by bv_omega) (by bv_omega)

/-- The text that is stored: what was given, or the address that stood in for it. -/
def storedText (given : String) (addr : Addr) : String :=
  if given = "" then Netip.render addr else given

/-- What is stored is read as the same address, unless a blank text is taken for one that is
given. -/
theorem hostAddressOr_storedText {given field : String} {network : Prefix} {addr standIn : Addr}
    (h : hostAddressOr standIn (given != "") given network field = .ok addr)
    (hbase : networkBase network < addr) (hlast : addr < broadcast network) :
    hostAddressOr standIn (storedText given addr != "") (storedText given addr) network field =
      .ok addr := by
  unfold storedText
  split
  · rw [bne_iff_ne.mpr (Netip.render_ne_empty addr)]
    exact hostAddressOr_render hbase hlast
  · exact h

theorem trim_storedText {given : String} {addr : Addr} :
    Text.trim (storedText given addr) = "" ↔ given ≠ "" ∧ Text.trim given = "" := by
  unfold storedText
  split
  · rename_i hempty
    rw [Netip.trim_render]
    exact iff_of_false (Netip.render_ne_empty addr) fun h => h.1 hempty
  · rename_i hgiven
    exact ⟨fun h => ⟨hgiven, h⟩, And.right⟩

/-- An end of the range, which is trimmed before it is looked at. -/
theorem hostAddressOr_storedText_trim {given field : String} {network : Prefix}
    {addr standIn : Addr}
    (h : hostAddressOr standIn (Text.trim given != "") given network field = .ok addr)
    (hbase : networkBase network < addr) (hlast : addr < broadcast network) :
    hostAddressOr standIn (Text.trim (storedText given addr) != "") (storedText given addr) network
      field = .ok addr := by
  unfold storedText
  split
  · rw [Netip.trim_render, bne_iff_ne.mpr (Netip.render_ne_empty addr)]
    exact hostAddressOr_render hbase hlast
  · exact h

theorem defaultStart_storedText
    (h : hostAddressOr (networkBase range.network + 1) (gatewayIp != "") gatewayIp range.network
      "gatewayIp" = .ok gateway) (hbounded : Bounded range gateway) :
    defaultStart range.network (storedText gatewayIp gateway) gateway =
      defaultStart range.network gatewayIp gateway := by
  unfold storedText
  split
  · rename_i hempty
    rw [hempty] at h ⊢
    obtain rfl : networkBase range.network + 1 = gateway := Except.ok.inj h
    -- a gateway that stands in is the first address, below the start that stands in
    have hlow : ¬networkBase range.network + 2 ≤ networkBase range.network + 1 := by
      have hbase := hbounded.base_lt
      have hstart := hbounded.gateway_lt
      bv_omega
    unfold defaultStart
    rw [if_neg fun hhigh => hlow hhigh.2, if_neg fun hgiven => hgiven.1 rfl]
  · rfl

theorem ReadAs.stored (h : ReadAs cidr gatewayIp startIp endIp range gateway) :
    ReadAs range.network.render (storedText gatewayIp gateway) (storedText startIp range.start)
        (storedText endIp range.last) range gateway ↔ (startIp = "" ↔ endIp = "") := by
  have hbounded := h.bounded
  obtain ⟨hbase, hgateway, hstart, hlast⟩ :
      networkBase range.network < gateway ∧ gateway < range.start ∧ range.start < range.last ∧
        range.last < broadcast range.network :=
    ⟨hbounded.base_lt, hbounded.gateway_lt, hbounded.start_lt, hbounded.last_lt⟩
  have htogether := h.together
  constructor
  · intro hstored
    -- a blank end is stored as a blank beside the address that stood in for the other end
    have hboth := hstored.together
    rw [trim_storedText, trim_storedText] at hboth
    constructor
    · rintro rfl
      by_contra hgiven
      exact (hboth.mpr ⟨hgiven, htogether.mp rfl⟩).1 rfl
    · rintro rfl
      by_contra hgiven
      exact (hboth.mp ⟨hgiven, htogether.mpr rfl⟩).1 rfl
  · intro hsame
    refine ⟨?_, h.large, ?_, ?_, ?_, ?_, hgateway, hstart⟩
    · rw [Prefix.trim_render, Prefix.parsePrefix_render]
    · rw [trim_storedText, trim_storedText]
      exact and_congr (not_congr hsame) htogether
    · exact hostAddressOr_storedText h.gatewayRead hbase (by bv_omega)
    · rw [defaultStart_storedText h.gatewayRead hbounded]
      exact hostAddressOr_storedText_trim h.startRead (by bv_omega) (by bv_omega)
    · exact hostAddressOr_storedText_trim h.lastRead (by bv_omega) hlast

/-- An accepted subnet is stored with the texts that were given. -/
theorem ReadAs.of_newSubnet {networkId subnetId name : String} {isDefault : Bool} {subnet : Subnet}
    (h : newSubnet networkId subnetId name cidr gatewayIp startIp endIp isDefault = .ok subnet) :
    ∃ range gateway, ReadAs cidr gatewayIp startIp endIp range gateway ∧
      subnet.cidr = range.network.render ∧ subnet.gatewayIp = storedText gatewayIp gateway ∧
      subnet.allocationStartIp = storedText startIp range.start ∧
      subnet.allocationEndIp = storedText endIp range.last := by
  unfold newSubnet at h
  obtain ⟨range, hrange, h⟩ := Program.bind_eq_ok.mp h
  obtain ⟨gateway, hread⟩ := subnetRange_eq_ok_iff.mp hrange
  obtain rfl := eq_of_ite_ok h
  refine ⟨range, gateway, hread, rfl, ?_, rfl, rfl⟩
  unfold storedText
  dsimp only
  split
  · rename_i hempty
    have hgateway := hread.gatewayRead
    rw [hempty] at hgateway
    rw [show networkBase range.network + 1 = gateway from Except.ok.inj hgateway]
  · rfl

/-- The stored texts are read as the range that was accepted, or as none. -/
theorem range_iff {subnet : Subnet} (h : ReadAs cidr gatewayIp startIp endIp range gateway)
    (hcidr : subnet.cidr = range.network.render)
    (hgateway : subnet.gatewayIp = storedText gatewayIp gateway)
    (hstart : subnet.allocationStartIp = storedText startIp range.start)
    (hend : subnet.allocationEndIp = storedText endIp range.last) :
    subnet.range = .ok range ↔ (startIp = "" ↔ endIp = "") := by
  unfold Subnet.range
  rw [hcidr, hgateway, hstart, hend]
  constructor
  · intro hrange
    obtain ⟨gateway', hread⟩ := subnetRange_eq_ok_iff.mp hrange
    have hsame : gateway' = gateway := by
      have hstored := hostAddressOr_storedText h.gatewayRead h.bounded.base_lt (by
        have hbounded := h.bounded
        have h₁ := hbounded.gateway_lt
        have h₂ := hbounded.start_lt
        have h₃ := hbounded.last_lt
        bv_omega)
      exact Except.ok.inj (hread.gatewayRead.symm.trans hstored)
    rw [hsame] at hread
    exact h.stored.mp hread
  · exact fun hsame => subnetRange_eq_ok_iff.mpr ⟨gateway, h.stored.mpr hsame⟩

end Stored

/-! ## The address that is chosen -/

/-- The choice of `ensureAttachment` for a device, which is that of an owner or not. -/
def chooseAddress (subnet : Subnet) (member : Option NetworkMember) : Call String := do
  let allocated ← allocateIp subnet
  let preferred ← ownerPreference subnet member
  pure (preferred.getD allocated)

/-- The least address of the range that is not used. -/
structure LeastUnused (range : SubnetRange) (used : List String) (addr : Addr) : Prop where
  start_le : range.start ≤ addr
  le_last : addr ≤ range.last
  unused : Netip.render addr ∉ used
  least : ∀ other, range.start ≤ other → other < addr → Netip.render other ∈ used

/-- The address that is kept for an owner's device, in the range and free. -/
structure Reserved (range : SubnetRange) (used : List String) (member : Option NetworkMember)
    (addr : Addr) : Prop where
  owner : ∃ m, member = some m ∧ m.role = .owner
  reserved : addr = networkBase range.network + 2
  start_le : range.start ≤ addr
  le_last : addr ≤ range.last
  unused : Netip.render addr ∉ used

section Choice

variable {subnet : Subnet} {range : SubnetRange} {used : List String} {addr : Addr}

theorem firstFree_eq_some_iff {network : Prefix} {n : Nat} {candidate : Addr} {ip : String}
    (hcontains : ∀ i < n, network.contains (candidate + BitVec.ofNat 32 i) = true) :
    firstFree network used n candidate = some ip ↔
      ∃ i < n, ip = Netip.render (candidate + BitVec.ofNat 32 i) ∧ ip ∉ used ∧
        ∀ j < i, Netip.render (candidate + BitVec.ofNat 32 j) ∈ used := by
  induction n generalizing candidate with
  | zero => simp [firstFree]
  | succ n ih =>
    have hzero : candidate + BitVec.ofNat 32 0 = candidate := BitVec.add_zero candidate
    have hnext : ∀ i, candidate + 1 + BitVec.ofNat 32 i = candidate + BitVec.ofNat 32 (i + 1) :=
      fun i => by bv_omega
    have hfirst : network.contains candidate = true := hzero ▸ hcontains 0 (Nat.succ_pos n)
    unfold firstFree
    -- a candidate that is used is skipped, and the positions move on by one
    by_cases hused : Netip.render candidate ∈ used
    · rw [if_pos (.inl hused), ih fun i hi => by rw [hnext]; exact hcontains _ (by omega)]
      simp only [hnext]
      constructor
      · rintro ⟨i, hi, hip, hfree, hbefore⟩
        refine ⟨i + 1, by omega, hip, hfree, fun j hj => ?_⟩
        cases j with
        | zero => rwa [hzero]
        | succ j => exact hbefore j (by omega)
      · rintro ⟨i, hi, hip, hfree, hbefore⟩
        cases i with
        | zero =>
          rw [hzero] at hip
          exact absurd (hip ▸ hused) hfree
        | succ i => exact ⟨i, by omega, hip, hfree, fun j hj => hbefore (j + 1) (by omega)⟩
    · rw [if_neg (by simp [hused, hfirst]), Option.some.injEq]
      constructor
      · rintro rfl
        exact ⟨0, by omega, by rw [hzero], hused, fun j hj => absurd hj (Nat.not_lt_zero j)⟩
      · rintro ⟨i, hi, hip, hfree, hbefore⟩
        cases i with
        | zero => rw [hip, hzero]
        | succ i => exact absurd (hzero ▸ hbefore 0 (Nat.succ_pos i)) hused

/-- An address of the range has a place in it. -/
theorem exists_address (hend : range.last.toNat + 1 < 2 ^ 32) (hstart : range.start ≤ addr)
    (hlast : addr ≤ range.last) :
    ∃ i < range.size, addr = range.address i ∧ addr.toNat = range.start.toNat + i := by
  refine ⟨addr.toNat - range.start.toNat, ?_, ?_, ?_⟩
  · unfold SubnetRange.size
    bv_omega
  · unfold SubnetRange.address
    bv_omega
  · bv_omega

theorem firstFree_eq_some_iff_leastUnused (hrange : range.Sound)
    (hend : range.last.toNat + 1 < 2 ^ 32) {ip : String} :
    firstFree range.network used range.size range.start = some ip ↔
      ∃ addr, ip = Netip.render addr ∧ LeastUnused range used addr := by
  have hordered := hrange.ordered
  have hin : ∀ i < range.size, range.start ≤ range.address i ∧ range.address i ≤ range.last :=
    fun i hi => range.address_mem hordered hi
  rw [firstFree_eq_some_iff fun i hi => hrange.contains _ (hin i hi).1 (hin i hi).2]
  constructor
  · rintro ⟨i, hi, rfl, hfree, hbefore⟩
    refine ⟨range.address i, rfl, (hin i hi).1, (hin i hi).2, hfree, fun other hstart hlt => ?_⟩
    have hnat := range.toNat_address hordered hi
    obtain ⟨j, hj, rfl, heq⟩ := exists_address hend hstart
      (BitVec.le_trans (BitVec.le_of_lt hlt) (hin i hi).2)
    exact hbefore j (by rw [BitVec.lt_def] at hlt; omega)
  · rintro ⟨addr, rfl, hstart, hlast, hfree, hbefore⟩
    obtain ⟨i, hi, rfl, -⟩ := exists_address hend hstart hlast
    refine ⟨i, hi, rfl, hfree, fun j hj => ?_⟩
    exact hbefore _ (hin j (hj.trans hi)).1 (range.address_lt hordered hi hj)

theorem firstFree_eq_none_iff (hrange : range.Sound) (hend : range.last.toNat + 1 < 2 ^ 32) :
    firstFree range.network used range.size range.start = none ↔
      ∀ addr, range.start ≤ addr → addr ≤ range.last → Netip.render addr ∈ used := by
  constructor
  · intro h addr hstart hlast
    obtain ⟨i, hi, rfl, -⟩ := exists_address hend hstart hlast
    exact mem_of_firstFree_eq_none h hi (hrange.contains _ hstart hlast)
  · intro h
    cases hfree : firstFree range.network used range.size range.start with
    | none => rfl
    | some ip =>
      obtain ⟨addr, rfl, hleast⟩ := (firstFree_eq_some_iff_leastUnused hrange hend).mp hfree
      exact absurd (h addr hleast.start_le hleast.le_last) hleast.unused

theorem Reserved.leastUnused {member : Option NetworkMember}
    (hrange : subnet.range = .ok range) (h : Reserved range used member addr) :
    LeastUnused range used addr := by
  refine ⟨h.start_le, h.le_last, h.unused, fun other hstart hlt => ?_⟩
  -- no range starts before the address of the owner, so none of its addresses is lower
  have hle : networkBase range.network + 2 ≤ range.start := owner_le_start hrange
  rw [← h.reserved] at hle
  exact absurd hlt (BitVec.not_lt.mpr (BitVec.le_trans hle hstart))

theorem run_allocateIp (hrange : subnet.range = .ok range) (s : Store) :
    (allocateIp subnet).run s =
      match firstFree range.network (s.heldAddresses subnet.subnetId) range.size range.start with
      | some ip => (.ok ip, s)
      | none => (.error (.service (.wrap .conflict "subnet is exhausted")), s) := by
  unfold allocateIp
  rw [Program.run_bind, Program.run_query]
  dsimp only
  rw [Program.run_bind, run_checked_eq_ok.mpr ⟨hrange, rfl⟩]
  dsimp only
  change Program.run (match firstFree range.network (s.heldAddresses subnet.subnetId) range.size
    range.start with | some ip => pure ip | none => conflict "subnet is exhausted") s = _
  cases firstFree range.network (s.heldAddresses subnet.subnetId) range.size range.start <;> rfl

/-- The preference for an owner's device changes nothing. -/
theorem run_chooseAddress (hrange : subnet.range = .ok range) (member : Option NetworkMember)
    (s : Store) : (chooseAddress subnet member).run s = (allocateIp subnet).run s := by
  unfold chooseAddress
  rw [Program.run_bind]
  have hallocate := run_allocateIp hrange s
  cases hfree : firstFree range.network (s.heldAddresses subnet.subnetId) range.size
      range.start with
  | none =>
    rw [hfree] at hallocate
    rw [hallocate]
  | some ip =>
    rw [hfree] at hallocate
    obtain ⟨preferred, hpreferred, hsame⟩ := run_ownerPreference_of_allocateIp hallocate member
    rw [hallocate]
    dsimp only
    rw [Program.run_bind, hpreferred]
    dsimp only
    rw [hsame]
    rfl

/-- A device that is not attached yet is attached with the chosen address. -/
theorem run_ensureAttachment {s t : Store} {fresh : Fresh} {networkId deviceId ip : String}
    (hnew : s.attachmentBySubnetDevice subnet.subnetId deviceId = none)
    (hsubnet : s.subnetById subnet.subnetId = some subnet)
    (hchosen : (chooseAddress subnet (s.memberByNetworkDevice networkId deviceId)).run s =
      (.ok ip, s))
    (hwrite : s.createAttachment ⟨Control.newId "att" fresh.attachment, networkId,
      subnet.subnetId, deviceId, ip, "", "active"⟩ = some t) :
    (ensureAttachment fresh networkId subnet.subnetId deviceId).run s =
      (.ok ⟨Control.newId "att" fresh.attachment, networkId, subnet.subnetId, deviceId, ip, "",
        "active"⟩, t) := by
  unfold chooseAddress at hchosen
  obtain ⟨allocated, _, hallocate, hchosen⟩ := Program.run_bind_eq_ok.mp hchosen
  have hsame := (each_allocateIp Program.reads_query subnet).eq_of_run hallocate
  obtain rfl := hsame
  obtain ⟨preferred, u, hpreferred, hchosen⟩ := Program.run_bind_eq_ok.mp hchosen
  obtain ⟨rfl, hu⟩ := Program.run_pure_eq_ok.mp hchosen
  rw [hu] at hpreferred
  unfold ensureAttachment
  rw [Program.run_bind, Program.run_query]
  dsimp only
  rw [hnew]
  dsimp only
  rw [Program.run_bind, run_lookup_eq_ok.mpr ⟨hsubnet, rfl⟩]
  dsimp only
  rw [Program.run_bind, hallocate]
  dsimp only
  rw [Program.run_bind, Program.run_query]
  dsimp only
  rw [Program.run_bind, hpreferred]
  dsimp only
  rw [Program.run_bind, run_insert_eq_ok.mpr hwrite]
  rfl

end Choice

/-! ## Accepted subnets -/

/-- For every list of attachments: the least unused address, which is the one that is kept for the
owner where that is free, and none only where every address is used. -/
structure AllocatesExactly (subnet : Subnet) (range : SubnetRange) : Prop where
  chosen : ∀ s member ip, (chooseAddress subnet member).run s = (.ok ip, s) ↔
    ∃ addr, ip = Netip.render addr ∧ LeastUnused range (s.heldAddresses subnet.subnetId) addr
  reserved : ∀ s member addr, Reserved range (s.heldAddresses subnet.subnetId) member addr →
    (chooseAddress subnet member).run s = (.ok (Netip.render addr), s)
  exhausted : ∀ s member, (∃ err t, (chooseAddress subnet member).run s = (.error err, t)) ↔
    ∀ addr, range.start ≤ addr → addr ≤ range.last →
      Netip.render addr ∈ s.heldAddresses subnet.subnetId

/-- An accepted subnet, with the range and the gateway that it was accepted for. -/
structure Exact (subnet : Subnet) (range : SubnetRange) (gateway : Addr) : Prop where
  bounded : Bounded range gateway
  reread : subnet.range = .ok range
  gateway : gatewayAddr range.network subnet.gatewayIp = gateway
  allocates : AllocatesExactly subnet range

section Accepted

variable {subnet : Subnet} {range : SubnetRange}

theorem allocatesExactly (hrange : subnet.range = .ok range)
    (hend : range.last.toNat + 1 < 2 ^ 32) : AllocatesExactly subnet range := by
  have hsound := sound_of_range hrange
  have hchosen : ∀ s member ip, (chooseAddress subnet member).run s = (.ok ip, s) ↔
      ∃ addr, ip = Netip.render addr ∧
        LeastUnused range (s.heldAddresses subnet.subnetId) addr := by
    intro s member ip
    rw [run_chooseAddress hrange, run_allocateIp hrange,
      ← firstFree_eq_some_iff_leastUnused hsound hend]
    split <;> simp [*]
  refine ⟨hchosen, fun s member addr h => ?_, fun s member => ?_⟩
  · exact (hchosen s member _).mpr ⟨addr, rfl, h.leastUnused hrange⟩
  · rw [run_chooseAddress hrange, run_allocateIp hrange, ← firstFree_eq_none_iff hsound hend]
    split <;> simp [*]

/-- An accepted subnet is exact if and only if both ends of its range were left out or neither
was. -/
theorem newSubnet_exact_iff {networkId subnetId name cidr gatewayIp startIp endIp : String}
    {isDefault : Bool}
    (h : newSubnet networkId subnetId name cidr gatewayIp startIp endIp isDefault = .ok subnet) :
    (∃ range, subnetRange cidr gatewayIp startIp endIp = .ok range ∧
      Exact subnet range (gatewayAddr range.network gatewayIp)) ↔ (startIp = "" ↔ endIp = "") := by
  obtain ⟨range, gateway, hread, hcidr, hgateway, hstart, hend⟩ := ReadAs.of_newSubnet h
  have hrange := subnetRange_eq_ok_iff.mpr ⟨gateway, hread⟩
  have hiff := range_iff hread hcidr hgateway hstart hend
  constructor
  · rintro ⟨range', hrange', hexact⟩
    obtain rfl := Except.ok.inj (hrange.symm.trans hrange')
    exact hiff.mp hexact.reread
  · intro hsame
    have hreread := hiff.mpr hsame
    have hbounded := hread.bounded
    refine ⟨range, hrange, ?_⟩
    rw [gatewayAddr_eq hread.gatewayRead]
    refine ⟨hbounded, hreread, ?_, allocatesExactly hreread ?_⟩
    · refine gatewayAddr_eq ?_
      rw [hgateway]
      refine hostAddressOr_storedText hread.gatewayRead hbounded.base_lt ?_
      have hle := hbounded.gateway_lt
      have hle' := hbounded.start_lt
      have hlt := hbounded.last_lt
      bv_omega
    · have hlt := hbounded.last_lt
      omega

end Accepted

/-- A subnet at the top of the address space. -/
theorem newSubnet_exact_top :
    ∃ subnet range, newSubnet "net-1" "subnet-1" "top" "255.255.255.248/29" "" "" "" false =
      .ok subnet ∧ subnetRange "255.255.255.248/29" "" "" "" = .ok range ∧
        Exact subnet range (gatewayAddr range.network "") := by
  have h : newSubnet "net-1" "subnet-1" "top" "255.255.255.248/29" "" "" "" false =
      .ok ⟨"subnet-1", "net-1", "top", "255.255.255.248/29", "255.255.255.249", "255.255.255.250",
        "255.255.255.254", false, "active"⟩ := by
    decide
  obtain ⟨range, hrange, hexact⟩ := (newSubnet_exact_iff h).mpr (iff_of_true rfl rfl)
  exact ⟨_, range, h, hrange, hexact⟩

/-- The end is given as a blank, which is stored beside the start that stands in. -/
theorem blank_end_not_exact : ¬∀ (networkId subnetId name cidr gatewayIp startIp endIp : String)
    (isDefault : Bool) (subnet : Subnet),
    newSubnet networkId subnetId name cidr gatewayIp startIp endIp isDefault = .ok subnet →
      ∃ range, subnetRange cidr gatewayIp startIp endIp = .ok range ∧
        Exact subnet range (gatewayAddr range.network gatewayIp) := by
  intro h
  let subnet : Subnet := ⟨"subnet-1", "net-1", "lab", "10.0.0.0/24", "10.0.0.1", "10.0.0.2", " ",
    false, "active"⟩
  have haccepted : newSubnet "net-1" "subnet-1" "lab" "10.0.0.0/24" "" "" " " false =
      .ok subnet := by
    decide
  obtain ⟨range, -, hexact⟩ := h _ _ _ _ _ _ _ _ _ haccepted
  have hrefused : subnet.range = .error (invalidArgument
      "allocationStartIp and allocationEndIp must be provided together") := by
    decide
  cases hrefused.symm.trans hexact.reread

end Slan.Networks
