import Slan.Networks.Store

/-! # The address range of a subnet -/

namespace Slan.Networks

open Control (ServiceError)
open Netip (Addr Prefix)

def networkBase (network : Prefix) : Addr := network.masked

def mask (network : Prefix) : Addr :=
  if network.bits = 0 then 0 else (~~~(0 : Addr)) <<< (32 - network.bits)

def broadcast (network : Prefix) : Addr := networkBase network ||| ~~~mask network

/-- The first and the last address that may be allocated. -/
structure SubnetRange where
  network : Prefix
  start : Addr
  last : Addr
  deriving DecidableEq

def invalidArgument (detail : String) : ServiceError := .wrap .invalidArgument detail

def parseIPv4InPrefix (raw : String) (network : Prefix) (field : String) :
    Except ServiceError Addr :=
  match Netip.parseAddr (Text.trim raw) with
  | none => .error (invalidArgument ("invalid " ++ field))
  | some addr =>
    if network.contains addr then .ok addr else .error (invalidArgument ("invalid " ++ field))

/-- An address of the subnet other than its first and its last one. -/
def parseHostAddress (raw : String) (network : Prefix) (field : String) :
    Except ServiceError Addr := do
  let addr ← parseIPv4InPrefix raw network field
  if addr = networkBase network ∨ addr = broadcast network then
    .error (invalidArgument (field ++ " cannot be network or broadcast address"))
  else return addr

/-- The address that is given, or else `addr`. -/
def hostAddressOr (addr : Addr) (given : Bool) (raw : String) (network : Prefix) (field : String) :
    Except ServiceError Addr :=
  if given then parseHostAddress raw network field else .ok addr

def subnetRange (cidr gatewayIp startIp endIp : String) : Except ServiceError SubnetRange :=
  match Netip.parsePrefix (Text.trim cidr) with
  | none => .error (invalidArgument "invalid cidr")
  | some .ipv6 => .error (invalidArgument "only IPv4 is supported")
  | some (.ipv4 network) => do
    let base := networkBase network
    let startRaw := Text.trim startIp
    let endRaw := Text.trim endIp
    if broadcast network - base < 3 then .error (invalidArgument "subnet too small")
    else if (startRaw == "") != (endRaw == "") then
      .error (invalidArgument "allocationStartIp and allocationEndIp must be provided together")
    else
      let gateway ← hostAddressOr (base + 1) (gatewayIp != "") gatewayIp network "gatewayIp"
      let start := if gatewayIp ≠ "" ∧ base + 2 ≤ gateway then gateway + 1 else base + 2
      let start ← hostAddressOr start (startRaw != "") startIp network "allocationStartIp"
      let last ← hostAddressOr (broadcast network - 1) (endRaw != "") endIp network
        "allocationEndIp"
      if start ≤ gateway ∨ last ≤ start then
        .error (invalidArgument
          "invalid allocation range, ensure gateway < allocationStartIp < allocationEndIp")
      else return ⟨network, start, last⟩

/-- `addrToUint32(mustParseAddr(raw))` -/
def parsedAddr (raw : String) : Addr := (Netip.parseAddr (Text.trim raw)).getD 0

def newSubnet (networkId subnetId name cidr gatewayIp startIp endIp : String) (isDefault : Bool) :
    Except ServiceError Subnet := do
  let range ← subnetRange cidr gatewayIp startIp endIp
  let base := networkBase range.network
  let gatewayIp := if gatewayIp = "" then Netip.render (base + 1) else gatewayIp
  let startIp := if startIp = "" then Netip.render range.start else startIp
  let endIp := if endIp = "" then Netip.render range.last else endIp
  if isDefault = true ∧
      (parsedAddr gatewayIp = base + 2 ∨ base + 2 < range.start ∨ range.last < base + 2) then
    .error (invalidArgument
      ("default subnet DHCP range must include owner ip " ++ Netip.render (base + 2)))
  else return {
    subnetId
    networkId
    name := Text.trim name
    cidr := range.network.render
    gatewayIp
    allocationStartIp := startIp
    allocationEndIp := endIp
    isDefault
    status := "active" }

namespace Subnet

def range (subnet : Subnet) : Except ServiceError SubnetRange :=
  subnetRange subnet.cidr subnet.gatewayIp subnet.allocationStartIp subnet.allocationEndIp

end Subnet

/-! ## The default range: all but the first two addresses and the last one -/

theorem toNat_not_mask (network : Prefix) :
    (~~~mask network).toNat = 2 ^ network.hostBits - 1 := by
  unfold mask Prefix.hostBits
  split
  · rename_i h
    rw [h]
    rfl
  · have hlt : 2 ^ (32 - network.bits) ≤ 2 ^ 32 := Nat.pow_le_pow_right (by omega) (by omega)
    have hpos : 0 < 2 ^ (32 - network.bits) := Nat.two_pow_pos _
    rw [BitVec.toNat_not, BitVec.toNat_shiftLeft, BitVec.toNat_not, Nat.shiftLeft_eq]
    have hmul : (2 ^ 32 - 1 - (0 : Addr).toNat) * 2 ^ (32 - network.bits) =
        (2 ^ 32 - 2 ^ (32 - network.bits)) + 2 ^ 32 * (2 ^ (32 - network.bits) - 1) := by
      rw [show (0 : Addr).toNat = 0 from rfl, Nat.sub_zero, Nat.sub_mul, Nat.mul_sub, Nat.mul_one,
        Nat.one_mul]
      have hge : 2 ^ 32 ≤ 2 ^ 32 * 2 ^ (32 - network.bits) := Nat.le_mul_of_pos_right _ hpos
      omega
    rw [hmul, Nat.add_mul_mod_self_left, Nat.mod_eq_of_lt (by omega)]
    omega

theorem toNat_broadcast (network : Prefix) :
    (broadcast network).toNat = (networkBase network).toNat + (2 ^ network.hostBits - 1) :=
  network.toNat_masked_or (toNat_not_mask network)

theorem contains_of_between {network : Prefix} {addr : Addr} (hbase : networkBase network ≤ addr)
    (hlast : addr ≤ broadcast network) : network.contains addr = true := by
  have hpos : 0 < 2 ^ network.hostBits := Nat.two_pow_pos _
  have hbroadcast := toNat_broadcast network
  rw [BitVec.le_def] at hbase hlast
  refine network.contains_iff addr |>.mpr ⟨hbase, ?_⟩
  change addr.toNat < (networkBase network).toNat + 2 ^ network.hostBits
  omega

/-- The subnet of a new network, from its CIDR alone. -/
def defaultSubnet (networkId subnetId name : String) (network : Prefix) : Subnet where
  subnetId := subnetId
  networkId := networkId
  name := Text.trim name
  cidr := network.render
  gatewayIp := Netip.render (networkBase network + 1)
  allocationStartIp := Netip.render (networkBase network + 2)
  allocationEndIp := Netip.render (broadcast network - 1)
  isDefault := true
  status := "active"

def defaultRange (network : Prefix) : SubnetRange :=
  ⟨network, networkBase network + 2, broadcast network - 1⟩

section Default

variable {network : Prefix}

/-- Room for a gateway and two more addresses. -/
def Roomy (network : Prefix) : Prop := 8 ≤ 2 ^ network.hostBits

theorem Roomy.bounds (h : Roomy network) :
    (networkBase network + 1).toNat = (networkBase network).toNat + 1 ∧
      (networkBase network + 2).toNat = (networkBase network).toNat + 2 ∧
      (broadcast network - 1).toNat + 1 = (broadcast network).toNat ∧
      (networkBase network).toNat + 7 ≤ (broadcast network).toNat := by
  have hbroadcast := toNat_broadcast network
  have hlt : (networkBase network).toNat + 2 ^ network.hostBits ≤ 2 ^ 32 := network.masked_add_lt
  unfold Roomy at h
  refine ⟨?_, ?_, ?_, by omega⟩
  all_goals bv_omega

theorem Roomy.contains (h : Roomy network) {addr : Addr}
    (hstart : networkBase network + 1 ≤ addr) (hlast : addr ≤ broadcast network - 1) :
    network.contains addr = true := by
  obtain ⟨hone, _, hsub, hroom⟩ := h.bounds
  rw [BitVec.le_def] at hstart hlast
  apply contains_of_between <;> rw [BitVec.le_def] <;> omega

theorem parseHostAddress_render {addr : Addr} {field : String} (h : network.contains addr = true)
    (hbase : addr ≠ networkBase network) (hlast : addr ≠ broadcast network) :
    parseHostAddress (Netip.render addr) network field = .ok addr := by
  unfold parseHostAddress parseIPv4InPrefix
  rw [Netip.trim_render, Netip.parseAddr_render]
  simp [h, hbase, hlast, bind, Except.bind, pure, Except.pure]

/-- What is stored of a default subnet says its range again. -/
theorem range_defaultSubnet (networkId subnetId name : String) (h : Roomy network) :
    (defaultSubnet networkId subnetId name network).range = .ok (defaultRange network) := by
  obtain ⟨hone, htwo, hsub, hroom⟩ := h.bounds
  have hgateway : parseHostAddress (Netip.render (networkBase network + 1)) network "gatewayIp" =
      .ok (networkBase network + 1) :=
    parseHostAddress_render (h.contains (by bv_omega) (by bv_omega)) (by bv_omega) (by bv_omega)
  have hstart : parseHostAddress (Netip.render (networkBase network + 2)) network
      "allocationStartIp" = .ok (networkBase network + 2) :=
    parseHostAddress_render (h.contains (by bv_omega) (by bv_omega)) (by bv_omega) (by bv_omega)
  have hlast : parseHostAddress (Netip.render (broadcast network - 1)) network
      "allocationEndIp" = .ok (broadcast network - 1) :=
    parseHostAddress_render (h.contains (by bv_omega) (by bv_omega)) (by bv_omega) (by bv_omega)
  have hlarge : ¬broadcast network - networkBase network < 3 := by bv_omega
  have hordered : ¬(networkBase network + 2 ≤ networkBase network + 1 ∨
      broadcast network - 1 ≤ networkBase network + 2) := by bv_omega
  unfold Subnet.range subnetRange defaultSubnet
  simp only [Netip.Prefix.trim_render, Netip.Prefix.parsePrefix_render, Netip.trim_render,
    if_neg hlarge, beq_eq_false_iff_ne.mpr (Netip.render_ne_empty _), bne_self_eq_false,
    Bool.false_eq_true, bne_iff_ne.mpr (Netip.render_ne_empty _), if_false, if_true,
    hostAddressOr, hgateway, hstart, hlast, bind, Except.bind, pure, Except.pure,
    if_neg hordered, defaultRange]

/-- The range of a CIDR alone. -/
theorem subnetRange_default_eq_ok {cidr : String} {range : SubnetRange} :
    subnetRange cidr "" "" "" = .ok range ↔
      ∃ network, Netip.parsePrefix (Text.trim cidr) = some (.ipv4 network) ∧ Roomy network ∧
        range = defaultRange network := by
  unfold subnetRange
  cases hparse : Netip.parsePrefix (Text.trim cidr) with
  | none => simp only [reduceCtorEq, false_and, exists_false]
  | some parsed =>
    cases parsed with
    | ipv6 => simp only [reduceCtorEq, Option.some.injEq, false_and, exists_false]
    | ipv4 network =>
      have hblank : Text.trim "" = "" := by decide
      have hbroadcast := toNat_broadcast network
      have hlt : (networkBase network).toNat + 2 ^ network.hostBits ≤ 2 ^ 32 :=
        network.masked_add_lt
      simp only [hblank, beq_self_eq_true, bne_self_eq_false, Bool.false_eq_true, if_false,
        hostAddressOr, Option.some.injEq, Netip.ParsedPrefix.ipv4.injEq, exists_eq_left', ne_eq,
        not_true_eq_false, false_and, bind, Except.bind, pure, Except.pure]
      by_cases hroomy : Roomy network
      · obtain ⟨hone, htwo, hsub, hroom⟩ := hroomy.bounds
        have hlarge : ¬broadcast network - networkBase network < 3 := by bv_omega
        have hordered : ¬(networkBase network + 2 ≤ networkBase network + 1 ∨
            broadcast network - 1 ≤ networkBase network + 2) := by bv_omega
        rw [if_neg hlarge, if_neg hordered, Except.ok.injEq]
        exact ⟨fun h => ⟨hroomy, h.symm⟩, fun h => h.2.symm⟩
      · -- four addresses or fewer
        have hsmall : broadcast network - networkBase network < 3 ∨
            broadcast network - 1 ≤ networkBase network + 2 := by
          have hbits : network.hostBits < 3 := by
            by_contra hge
            exact hroomy (Nat.pow_le_pow_right (n := 2) (by omega) (not_lt.mp hge))
          have hcases : 2 ^ network.hostBits = 1 ∨ 2 ^ network.hostBits = 2 ∨
              2 ^ network.hostBits = 4 := by
            have hbits : network.hostBits = 0 ∨ network.hostBits = 1 ∨ network.hostBits = 2 := by
              omega
            rcases hbits with h | h | h <;> rw [h] <;> decide
          rcases hcases with h | h | h <;> rw [h] at hbroadcast hlt <;> bv_omega
        simp only [hroomy, false_and, iff_false]
        split
        · exact nofun
        · rename_i hlarge
          rw [if_pos (Or.inr (hsmall.resolve_left hlarge))]
          exact nofun

theorem newSubnet_of_range {networkId subnetId name cidr : String} (hroomy : Roomy network)
    (hrange : subnetRange cidr "" "" "" = .ok (defaultRange network)) :
    newSubnet networkId subnetId name cidr "" "" "" true =
      .ok (defaultSubnet networkId subnetId name network) := by
  obtain ⟨hone, htwo, hsub, hroom⟩ := hroomy.bounds
  have hgateway : parsedAddr (Netip.render (networkBase network + 1)) =
      networkBase network + 1 := by
    unfold parsedAddr
    rw [Netip.trim_render, Netip.parseAddr_render]
    rfl
  have hfits : ¬(networkBase network + 1 = networkBase network + 2 ∨
      networkBase network + 2 < networkBase network + 2 ∨
      broadcast network - 1 < networkBase network + 2) := by bv_omega
  unfold newSubnet
  simp only [hrange, bind, Except.bind, if_true, defaultRange, true_and]
  rw [hgateway, if_neg hfits]
  rfl

/-- A subnet that is made from a CIDR alone. -/
theorem newSubnet_default_eq_ok {networkId subnetId name cidr : String} {subnet : Subnet} :
    newSubnet networkId subnetId name cidr "" "" "" true = .ok subnet ↔
      ∃ network, Netip.parsePrefix (Text.trim cidr) = some (.ipv4 network) ∧ Roomy network ∧
        subnet = defaultSubnet networkId subnetId name network := by
  constructor
  · intro h
    cases hrange : subnetRange cidr "" "" "" with
    | error err =>
      unfold newSubnet at h
      rw [hrange] at h
      cases h
    | ok range =>
      obtain ⟨network, hparse, hroomy, rfl⟩ := subnetRange_default_eq_ok.mp hrange
      rw [newSubnet_of_range hroomy hrange] at h
      exact ⟨network, hparse, hroomy, (Except.ok.inj h).symm⟩
  · intro ⟨network, hparse, hroomy, hsubnet⟩
    rw [hsubnet]
    exact newSubnet_of_range hroomy (subnetRange_default_eq_ok.mpr ⟨network, hparse, hroomy, rfl⟩)

end Default

/-! ## Where the gateway is -/

def gatewayAddr (network : Prefix) (gatewayIp : String) : Addr :=
  if gatewayIp = "" then networkBase network + 1 else parsedAddr gatewayIp

theorem parsedAddr_of_parseHostAddress {raw field : String} {network : Prefix} {addr : Addr}
    (h : parseHostAddress raw network field = .ok addr) : parsedAddr raw = addr := by
  unfold parseHostAddress at h
  obtain ⟨parsed, hparsed, h⟩ := Program.bind_eq_ok.mp h
  unfold parseIPv4InPrefix at hparsed
  unfold parsedAddr
  cases hparse : Netip.parseAddr (Text.trim raw) with
  | none =>
    rw [hparse] at hparsed
    cases hparsed
  | some addr' =>
    simp only [hparse] at hparsed
    split at hparsed
    · obtain rfl := Except.ok.inj hparsed
      split at h
      · cases h
      · exact Except.ok.inj h
    · cases hparsed

/-- What a CIDR with its addresses is read as. -/
theorem subnetRange_eq_ok {cidr gatewayIp startIp endIp : String} {range : SubnetRange}
    (h : subnetRange cidr gatewayIp startIp endIp = .ok range) :
    Netip.parsePrefix (Text.trim cidr) = some (.ipv4 range.network) ∧
      ¬broadcast range.network - networkBase range.network < 3 ∧
      ∃ gateway,
        hostAddressOr (networkBase range.network + 1) (gatewayIp != "") gatewayIp range.network
          "gatewayIp" = .ok gateway ∧
        hostAddressOr (broadcast range.network - 1) (Text.trim endIp != "") endIp range.network
          "allocationEndIp" = .ok range.last ∧
        gateway < range.start ∧ range.start < range.last := by
  unfold subnetRange at h
  split at h
  · cases h
  · cases h
  · rename_i network hparse
    dsimp only at h
    split at h
    · cases h
    rename_i hlarge
    split at h
    · cases h
    obtain ⟨gateway, hgateway, h⟩ := Program.bind_eq_ok.mp h
    obtain ⟨start, _, h⟩ := Program.bind_eq_ok.mp h
    obtain ⟨last, hlast, h⟩ := Program.bind_eq_ok.mp h
    split at h
    · cases h
    rename_i hordered
    obtain rfl := Except.ok.inj h
    refine ⟨hparse, hlarge, gateway, hgateway, hlast, ?_⟩
    simpa only [not_or, BitVec.not_le] using hordered

theorem gatewayAddr_eq {gatewayIp : String} {network : Prefix} {gateway : Addr}
    (h : hostAddressOr (networkBase network + 1) (gatewayIp != "") gatewayIp network "gatewayIp" =
      .ok gateway) : gatewayAddr network gatewayIp = gateway := by
  unfold gatewayAddr
  unfold hostAddressOr at h
  split at h
  · rename_i hgiven
    rw [if_neg (by simpa using hgiven)]
    exact parsedAddr_of_parseHostAddress h
  · rename_i hgiven
    rw [if_pos (by simpa using hgiven)]
    exact Except.ok.inj h

/-- An allocation range lies above the gateway. -/
theorem gateway_lt_start {cidr gatewayIp startIp endIp : String} {range : SubnetRange}
    (h : subnetRange cidr gatewayIp startIp endIp = .ok range) :
    gatewayAddr range.network gatewayIp < range.start ∧ range.start < range.last := by
  obtain ⟨-, -, gateway, hgateway, -, hordered⟩ := subnetRange_eq_ok h
  rw [gatewayAddr_eq hgateway]
  exact hordered

end Slan.Networks
