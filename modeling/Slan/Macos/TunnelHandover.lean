import Slan.Lib.Netip
import Slan.Macos.PacketTunnelProvider

/-! # From the configuration that was applied to the settings of the tunnel -/

namespace Slan.Macos

open App (WireGuardTunnelConfiguration)
open Netip (IsMask)
open Plist (Dictionary Value read)
open Plist.Value (asArrayOf asDictionary asInt asString)
open Program (bind_eq_ok ok_bind)
open SwiftText (int split split_one split_one_alone split_one_cases subsequence)

/-! ## Addresses with the length of a prefix -/

/-- What the characters of a text say: an address, and behind a slash the length of a prefix, which
is 32 unless it is said. Slashes before the address say nothing. -/
def Denotes (characters : List String) (address : String) (length : Nat) : Prop :=
  address ≠ "" ∧ length ≤ 32 ∧ ∃ n host rest, characters = List.replicate n "/" ++ host ++ rest ∧
    "/" ∉ host ∧ address = String.join host ∧
    ((rest = [] ∨ rest = ["/"]) ∧ length = 32 ∨
      ∃ digits, digits ≠ [] ∧ rest = "/" :: digits ∧ int (String.join digits) = some (length : Int))

namespace PacketTunnelIPv4CIDR

variable {foundation : Foundation} {cidr : String}

theorem mask_eq (length : Nat) : mask length = Netip.render (maskValue length) := by
  unfold mask
  exact Netip.render_shifts (maskValue length)

theorem isMask_maskValue {length : Nat} (h : length ≤ 32) : IsMask length (maskValue length) := by
  unfold maskValue
  split
  · rename_i hzero
    rw [hzero]
    exact Netip.isMask_allOnes (Nat.zero_le 32)
  · exact Netip.isMask_allOnes h

theorem ofParts_alone {address : String} (h : address ≠ "") :
    ofParts cidr [address] = .ok ⟨address, mask 32⟩ := by
  have hhead : ([address].head?.filter (· ≠ "")) = some address :=
    Option.filter_eq_some_iff.mpr ⟨rfl, decide_eq_true h⟩
  rw [ofParts, hhead]

theorem ofParts_pair {address digits : String} (h : address ≠ "")
    {result : PacketTunnelIPv4CIDR} : ofParts cidr [address, digits] = .ok result ↔
      ∃ length : Nat, int digits = some (length : Int) ∧ length ≤ 32 ∧
        result = ⟨address, mask length⟩ := by
  have hhead : ([address, digits].head?.filter (· ≠ "")) = some address :=
    Option.filter_eq_some_iff.mpr ⟨rfl, decide_eq_true h⟩
  rw [ofParts, hhead]
  dsimp only
  constructor
  · intro hresult
    split at hresult
    · cases hresult
    rename_i value hvalue
    obtain ⟨hint, hrange⟩ := Option.filter_eq_some_iff.mp hvalue
    obtain ⟨hnonneg, hle⟩ := of_decide_eq_true hrange
    refine ⟨value.toNat, ?_, Int.toNat_le.mpr hle, (Except.ok.inj hresult).symm⟩
    rw [Int.toNat_of_nonneg hnonneg, hint]
  · rintro ⟨length, hint, hle, rfl⟩
    have hvalue : ((int digits).filter fun value => 0 ≤ value ∧ value ≤ 32) =
        some (length : Int) :=
      Option.filter_eq_some_iff.mpr ⟨hint, decide_eq_true ⟨Int.natCast_nonneg _, by omega⟩⟩
    rw [hvalue]
    rfl

/-- A text is accepted exactly if it says something, which is what is taken from it. -/
theorem init_eq_ok_iff {result : PacketTunnelIPv4CIDR} :
    init foundation cidr = .ok result ↔
      ∃ length, Denotes (foundation.characters cidr) result.address length ∧
        result.subnetMask = mask length := by
  unfold init
  constructor
  · intro h
    obtain hsplit | ⟨n, host, rest, hhost, -, hchars, hrest⟩ :=
      split_one_cases "/" (foundation.characters cidr)
    · rw [hsplit] at h
      cases h
    by_cases haddress : String.join host = ""
    · obtain ⟨-, hsplit⟩ | ⟨tail, -, -, hsplit⟩ := hrest <;>
      · rw [hsplit, List.map_cons, haddress] at h
        cases h
    obtain ⟨hend, hsplit⟩ | ⟨digits, hdigits, hend, hsplit⟩ := hrest
    · rw [hsplit, List.map_singleton, ofParts_alone haddress] at h
      cases h
      exact ⟨32, ⟨haddress, le_rfl, n, host, rest, hchars, hhost, rfl, .inl ⟨hend, rfl⟩⟩, rfl⟩
    · rw [hsplit, List.map_cons, List.map_singleton, ofParts_pair haddress] at h
      obtain ⟨length, hint, hle, rfl⟩ := h
      exact ⟨length, ⟨haddress, hle, n, host, rest, hchars, hhost, rfl,
        .inr ⟨digits, hdigits, hend, hint⟩⟩, rfl⟩
  · rintro ⟨length, ⟨haddress, hle, n, host, rest, hchars, hhost, hjoin, hrest⟩, hmask⟩
    have hne : host ≠ [] := by
      rintro rfl
      exact haddress hjoin
    obtain ⟨address, subnetMask⟩ := result
    dsimp only at haddress hjoin hmask
    subst hjoin hmask
    obtain ⟨rfl | rfl, rfl⟩ | ⟨digits, hdigits, rfl, hint⟩ := hrest
    · rw [hchars, List.append_nil, split_one_alone hhost, subsequence, if_neg hne]
      exact ofParts_alone haddress
    · rw [hchars, split_one hhost hne]
      exact ofParts_alone haddress
    · rw [hchars, split_one hhost hne, subsequence, if_neg hdigits]
      exact (ofParts_pair haddress).mpr ⟨length, hint, hle, rfl⟩

end PacketTunnelIPv4CIDR

/-! ## What the provider makes of the stored dictionary -/

theorem exists_forall₂_iff {α β : Type} {R : α → β → Prop} {as : List α} :
    (∃ bs, List.Forall₂ R as bs) ↔ ∀ a ∈ as, ∃ b, R a b := by
  induction as with
  | nil => exact iff_of_true ⟨[], .nil⟩ nofun
  | cons a as ih =>
    rw [List.forall_mem_cons, ← ih]
    constructor
    · rintro ⟨_, h⟩
      cases h with
      | cons hfirst hrest => exact ⟨⟨_, hfirst⟩, _, hrest⟩
    · rintro ⟨⟨b, hfirst⟩, bs, hrest⟩
      exact ⟨b :: bs, .cons hfirst hrest⟩

namespace PacketTunnelProviderConfiguration

open PacketTunnelManager

variable {foundation : Foundation}

theorem require_eq_ok {α : Type} {kind key : String} {value : Option α} {a : α} :
    require kind key value = .ok a ↔ value = some a := elim_eq_ok

theorem ofRawValue_eq_some {value : String} {mode : PacketTunnelDebugEngineMode} :
    PacketTunnelDebugEngineMode.ofRawValue value = some mode ↔ value = mode.rawValue := by
  constructor
  · intro h
    unfold PacketTunnelDebugEngineMode.ofRawValue at h
    have hraw := List.find?_some h
    exact (of_decide_eq_true hraw).symm
  · rintro rfl
    cases mode <;> rfl

/-- No mode is the one that does nothing. -/
theorem optionalDebugEngineMode_eq_ok {json : Dictionary} {mode : PacketTunnelDebugEngineMode} :
    optionalDebugEngineMode json = .ok mode ↔
      nonEmptyMode (read asString json "debugEngineMode") = none ∧ mode = .noop ∨
        nonEmptyMode (read asString json "debugEngineMode") = some mode.rawValue := by
  unfold optionalDebugEngineMode nonEmptyMode
  cases (read asString json "debugEngineMode").filter (· ≠ "") with
  | none =>
    refine ⟨fun h => .inl ⟨rfl, (Except.ok.inj h).symm⟩, ?_⟩
    rintro (⟨-, rfl⟩ | h)
    · rfl
    · cases h
  | some value =>
    have hvalue : (PacketTunnelDebugEngineMode.ofRawValue value).elim
        (Except.error (PacketTunnelProviderError.mk ("invalid debug engine mode: " ++ value)))
        Except.ok = .ok mode ↔ value = mode.rawValue := elim_eq_ok.trans ofRawValue_eq_some
    refine hvalue.trans ⟨fun h => .inr (congrArg some h), ?_⟩
    rintro (⟨h, -⟩ | h)
    · cases h
    · exact Option.some.inj h

theorem allowedIp_eq_ok {β : Type} {make : String → PacketTunnelIPv4CIDR → β} {cidr : String}
    {result : Option β} : allowedIp foundation make (serializeAllowedIp cidr) = .ok result ↔
      ∃ route, PacketTunnelIPv4CIDR.init foundation cidr = .ok route ∧
        result = some (make cidr route) := by
  have hread : read asString (serializeAllowedIp cidr) "cidr" = some cidr :=
    Plist.read_cons_self _ _ _
  rw [allowedIp, hread]
  dsimp only
  cases PacketTunnelIPv4CIDR.init foundation cidr with
  | error err =>
    constructor
    · intro h
      cases h
    · rintro ⟨_, h, -⟩
      cases h
  | ok route =>
    constructor
    · intro h
      cases h
      exact ⟨route, rfl, rfl⟩
    · rintro ⟨_, h, rfl⟩
      cases h
      rfl

/-- Each of the items has an address, which has to be a text that says something. -/
theorem compactMap_allowedIp {β : Type} {make : String → PacketTunnelIPv4CIDR → β}
    {cidrs : List String} {results : List β} :
    compactMap (allowedIp foundation make) (cidrs.map serializeAllowedIp) = .ok results ↔
      List.Forall₂ (fun cidr result => ∃ route,
        PacketTunnelIPv4CIDR.init foundation cidr = .ok route ∧ result = make cidr route)
        cidrs results := by
  induction cidrs generalizing results with
  | nil =>
    rw [List.forall₂_nil_left_iff]
    exact ⟨fun h => (Except.ok.inj h).symm, fun h => h ▸ rfl⟩
  | cons cidr cidrs ih =>
    rw [List.forall₂_cons_left_iff]
    constructor
    · intro h
      obtain ⟨first, hfirst, h⟩ := bind_eq_ok.mp h
      obtain ⟨rest, hrest, h⟩ := bind_eq_ok.mp h
      cases h
      obtain ⟨route, hroute, rfl⟩ := allowedIp_eq_ok.mp hfirst
      exact ⟨make cidr route, rest, ⟨route, hroute, rfl⟩, ih.mp hrest, rfl⟩
    · rintro ⟨_, rest, ⟨route, hroute, rfl⟩, hrest, rfl⟩
      exact bind_eq_ok.mpr ⟨_, allowedIp_eq_ok.mpr ⟨route, hroute, rfl⟩,
        bind_eq_ok.mpr ⟨rest, ih.mpr hrest, rfl⟩⟩

/-- The provider's configuration of one that was stored. -/
theorem init_serialize_eq_ok {mode : Option String} {c : WireGuardTunnelConfiguration}
    (h : Filled c) {result : PacketTunnelProviderConfiguration} :
    init foundation (serialize mode c) = .ok result ↔
      ∃ first interfaceAddress debugEngineMode routes,
        c.interface.addresses.head? = some first ∧
        PacketTunnelIPv4CIDR.init foundation first = .ok interfaceAddress ∧
        optionalDebugEngineMode (serialize mode c) = .ok debugEngineMode ∧
        List.Forall₂ (fun cidr route => ∃ r, PacketTunnelIPv4CIDR.init foundation cidr = .ok r ∧
          route = NEIPv4Route.mk r.address r.subnetMask) c.peer.allowedIps routes ∧
        result = {
          localVirtualIp := c.localVirtualIp
          peerVirtualIp := c.peerVirtualIp
          remoteAddress := (remoteHost foundation c.peer.endpoint).getD c.peerVirtualIp
          dnsServers := c.interface.dnsServers
          mtu := c.interface.mtu
          selectedEndpoint := c.peer.endpoint
          debugEngineMode
          interfaceAddress
          allowedIps := c.peer.allowedIps
          allowedIPv4Routes := routes } := by
  have hlocal : requireString "localVirtualIp" (serialize mode c) = .ok c.localVirtualIp :=
    require_eq_ok.mpr (Option.filter_eq_some_iff.mpr
      ⟨by simp [serialize, serializeFields], decide_eq_true h.localVirtualIp⟩)
  have hpeerIp : requireString "peerVirtualIp" (serialize mode c) = .ok c.peerVirtualIp :=
    require_eq_ok.mpr (Option.filter_eq_some_iff.mpr
      ⟨by simp [serialize, serializeFields], decide_eq_true h.peerVirtualIp⟩)
  have hinterface : requireObject "wireguardInterface" (serialize mode c) =
      .ok (serializeInterface c.interface) :=
    require_eq_ok.mpr (by simp [serialize, serializeFields])
  have hpeer : requireObject "wireguardPeer" (serialize mode c) = .ok (serializePeer c.peer) :=
    require_eq_ok.mpr (by simp [serialize, serializeFields])
  have haddresses : read (asArrayOf asString) (serializeInterface c.interface) "addresses" =
      some c.interface.addresses := by simp [serializeInterface]
  have hdns : read (asArrayOf asString) (serializeInterface c.interface) "dnsServers" =
      some c.interface.dnsServers := by simp [serializeInterface]
  have hmtu : read asInt (serializeInterface c.interface) "mtu" = c.interface.mtu := by
    simp [serializeInterface]
  have hendpoint : read asString (serializePeer c.peer) "endpoint" = c.peer.endpoint := by
    simp [serializePeer]
  have hitems : read (asArrayOf asDictionary) (serializePeer c.peer) "allowedIps" =
      some (c.peer.allowedIps.map serializeAllowedIp) := by simp [serializePeer]
  obtain ⟨first, others, hfirst⟩ := List.exists_cons_of_ne_nil h.addresses
  simp only [init, hlocal, hpeerIp, hinterface, hpeer, haddresses, hdns, hmtu, hendpoint, hitems,
    ok_bind, Option.getD_some, hfirst, List.head?_cons]
  constructor
  · intro hinit
    obtain ⟨interfaceAddress, haddress, hinit⟩ := bind_eq_ok.mp hinit
    obtain ⟨debugEngineMode, hmode, hinit⟩ := bind_eq_ok.mp hinit
    obtain ⟨allowedIps, hallowed, hinit⟩ := bind_eq_ok.mp hinit
    obtain ⟨routes, hroutes, hinit⟩ := bind_eq_ok.mp hinit
    cases hinit
    have hsame : c.peer.allowedIps = allowedIps := by
      rw [← List.forall₂_eq_eq_eq]
      refine (compactMap_allowedIp.mp hallowed).imp ?_
      rintro _ _ ⟨_, _, hcidr⟩
      exact hcidr.symm
    exact ⟨first, interfaceAddress, debugEngineMode, routes, rfl, haddress, hmode,
      compactMap_allowedIp.mp hroutes, by rw [hsame]⟩
  · rintro ⟨_, interfaceAddress, debugEngineMode, routes, hhead, haddress, hmode, hroutes, rfl⟩
    cases hhead
    have hallowed : List.Forall₂ (fun cidr result => ∃ route,
        PacketTunnelIPv4CIDR.init foundation cidr = .ok route ∧ result = cidr)
        c.peer.allowedIps c.peer.allowedIps := by
      refine List.forall₂_same.mpr fun cidr hcidr => ?_
      obtain ⟨_, r, hr, -⟩ := exists_forall₂_iff.mp ⟨routes, hroutes⟩ cidr hcidr
      exact ⟨r, hr, rfl⟩
    exact bind_eq_ok.mpr ⟨_, haddress, bind_eq_ok.mpr ⟨_, hmode, bind_eq_ok.mpr ⟨_,
      compactMap_allowedIp.mpr hallowed, bind_eq_ok.mpr ⟨_,
        compactMap_allowedIp.mpr hroutes, rfl⟩⟩⟩⟩

end PacketTunnelProviderConfiguration

/-! ## What reaches the tunnel -/

/-- The texts for the system say what the text of the configuration says: an address, and the mask
of as many leading ones. -/
def Tells (foundation : Foundation) (cidr address subnetMask : String) : Prop :=
  ∃ length v, Denotes (foundation.characters cidr) address length ∧ IsMask length v ∧
    subnetMask = Netip.render v

/-- A configuration that the provider can use. -/
structure Usable (foundation : Foundation) (c : WireGuardTunnelConfiguration) : Prop where
  mode : PacketTunnelManager.nonEmptyMode c.debugEngineMode = none ∨
    ∃ mode : PacketTunnelDebugEngineMode,
      PacketTunnelManager.nonEmptyMode c.debugEngineMode = some mode.rawValue
  address : ∃ first address length, c.interface.addresses.head? = some first ∧
    Denotes (foundation.characters first) address length
  allowedIps : ∀ cidr ∈ c.peer.allowedIps, ∃ address length,
    Denotes (foundation.characters cidr) address length

/-- What settings carry of a configuration. -/
structure Carried (foundation : Foundation) (c : WireGuardTunnelConfiguration)
    (settings : NEIPv4Settings) : Prop where
  firstAddress : ∃ first address subnetMask, c.interface.addresses.head? = some first ∧
    settings.addresses.head? = some address ∧ settings.subnetMasks.head? = some subnetMask ∧
      Tells foundation first address subnetMask
  onlyAddress : ∀ cidr, c.interface.addresses = [cidr] → ∃ address subnetMask,
    settings.addresses = [address] ∧ settings.subnetMasks = [subnetMask] ∧
      Tells foundation cidr address subnetMask
  routes : c.peer.allowedIps ≠ [] → List.Forall₂ (fun cidr route =>
    Tells foundation cidr route.destinationAddress route.destinationSubnetMask)
      c.peer.allowedIps settings.includedRoutes
  noRoutes : c.peer.allowedIps = [] → settings.includedRoutes = [NEIPv4Route.default]
  defaultRoute : NEIPv4Route.default ∈ settings.includedRoutes → c.peer.allowedIps = [] ∨
    ∃ cidr ∈ c.peer.allowedIps, Denotes (foundation.characters cidr) "0.0.0.0" 0

section Carried

variable {foundation : Foundation} {c : WireGuardTunnelConfiguration}

theorem tells_of_init {cidr : String} {r : PacketTunnelIPv4CIDR}
    (h : PacketTunnelIPv4CIDR.init foundation cidr = .ok r) :
    Tells foundation cidr r.address r.subnetMask := by
  obtain ⟨length, hdenotes, hmask⟩ := PacketTunnelIPv4CIDR.init_eq_ok_iff.mp h
  rw [PacketTunnelIPv4CIDR.mask_eq] at hmask
  exact ⟨length, _, hdenotes, PacketTunnelIPv4CIDR.isMask_maskValue hdenotes.2.1, hmask⟩

theorem exists_init_iff {cidr : String} :
    (∃ r, PacketTunnelIPv4CIDR.init foundation cidr = .ok r) ↔
      ∃ address length, Denotes (foundation.characters cidr) address length := by
  constructor
  · rintro ⟨r, hr⟩
    obtain ⟨length, hdenotes, -⟩ := PacketTunnelIPv4CIDR.init_eq_ok_iff.mp hr
    exact ⟨r.address, length, hdenotes⟩
  · rintro ⟨address, length, hdenotes⟩
    exact ⟨⟨address, PacketTunnelIPv4CIDR.mask length⟩,
      PacketTunnelIPv4CIDR.init_eq_ok_iff.mpr ⟨length, hdenotes, rfl⟩⟩

/-- The mask of a default route is that of no leading ones. -/
theorem Tells.denotes_default {cidr : String} (h : Tells foundation cidr "0.0.0.0" "0.0.0.0") :
    Denotes (foundation.characters cidr) "0.0.0.0" 0 := by
  obtain ⟨length, v, hdenotes, hmask, hrender⟩ := h
  have hzero : Netip.render 0 = "0.0.0.0" := by decide
  obtain rfl : 0 = v := Netip.render_injective (hzero.trans hrender)
  rwa [hmask.length_eq_zero] at hdenotes

theorem exists_default {cidrs : List String} {routes : List NEIPv4Route}
    (h : List.Forall₂ (fun cidr route =>
      Tells foundation cidr route.destinationAddress route.destinationSubnetMask) cidrs routes)
    (hmem : NEIPv4Route.default ∈ routes) :
    ∃ cidr ∈ cidrs, Denotes (foundation.characters cidr) "0.0.0.0" 0 := by
  have hmembers := (List.forall₂_and_left cidrs routes).mpr ⟨fun cidr hcidr => hcidr, h⟩
  obtain ⟨cidr, hcidr, htells⟩ :=
    exists_forall₂_iff.mp ⟨cidrs, hmembers.flip⟩ NEIPv4Route.default hmem
  exact ⟨cidr, hcidr, htells.denotes_default⟩

open PacketTunnelManager PacketTunnelProviderConfiguration

theorem optionalDebugEngineMode_serialize {mode : Option String} (hmode : nonEmptyMode mode = none)
    {engineMode : PacketTunnelDebugEngineMode} :
    optionalDebugEngineMode (serialize mode c) = .ok engineMode ↔
      nonEmptyMode c.debugEngineMode = none ∧ engineMode = .noop ∨
        nonEmptyMode c.debugEngineMode = some engineMode.rawValue := by
  have hselected : nonEmptyMode (nonEmptyMode c.debugEngineMode) =
      nonEmptyMode c.debugEngineMode := by
    simp [nonEmptyMode]
  rw [optionalDebugEngineMode_eq_ok, read_serialize_mode, selectedDebugEngineMode_of_none hmode,
    hselected]

theorem exists_init_serialize_iff {mode : Option String} (hmode : nonEmptyMode mode = none)
    (h : Filled c) :
    (∃ result, init foundation (serialize mode c) = .ok result) ↔ Usable foundation c := by
  constructor
  · rintro ⟨result, hresult⟩
    obtain ⟨first, interfaceAddress, engineMode, routes, hfirst, haddress, hengine, hroutes, -⟩ :=
      (init_serialize_eq_ok h).mp hresult
    obtain ⟨address, length, hdenotes⟩ := exists_init_iff.mp ⟨interfaceAddress, haddress⟩
    refine ⟨?_, ⟨first, address, length, hfirst, hdenotes⟩, fun cidr hcidr => ?_⟩
    · exact ((optionalDebugEngineMode_serialize hmode).mp hengine).imp And.left
        fun hraw => ⟨engineMode, hraw⟩
    · obtain ⟨_, r, hr, -⟩ := exists_forall₂_iff.mp ⟨routes, hroutes⟩ cidr hcidr
      exact exists_init_iff.mp ⟨r, hr⟩
  · rintro ⟨hengine, ⟨first, address, length, hfirst, hdenotes⟩, hallowed⟩
    obtain ⟨interfaceAddress, haddress⟩ := exists_init_iff.mpr ⟨address, length, hdenotes⟩
    obtain ⟨engineMode, hengine⟩ : ∃ engineMode,
        optionalDebugEngineMode (serialize mode c) = .ok engineMode := by
      obtain hnone | ⟨engineMode, hraw⟩ := hengine
      · exact ⟨.noop, (optionalDebugEngineMode_serialize hmode).mpr (.inl ⟨hnone, rfl⟩)⟩
      · exact ⟨engineMode, (optionalDebugEngineMode_serialize hmode).mpr (.inr hraw)⟩
    have hreadable : ∀ cidr ∈ c.peer.allowedIps, ∃ route r,
        PacketTunnelIPv4CIDR.init foundation cidr = .ok r ∧
          route = NEIPv4Route.mk r.address r.subnetMask := by
      intro cidr hcidr
      obtain ⟨r, hr⟩ := exists_init_iff.mpr (hallowed cidr hcidr)
      exact ⟨_, r, hr, rfl⟩
    obtain ⟨routes, hroutes⟩ := exists_forall₂_iff.mpr hreadable
    exact ⟨_, (init_serialize_eq_ok h).mpr ⟨first, interfaceAddress, engineMode, routes, hfirst,
      haddress, hengine, hroutes, rfl⟩⟩

theorem carried_of_init {mode : Option String} (h : Filled c)
    {result : PacketTunnelProviderConfiguration}
    (hresult : init foundation (serialize mode c) = .ok result) :
    Carried foundation c (makeNetworkSettings result).ipv4Settings := by
  obtain ⟨first, interfaceAddress, debugEngineMode, routes, hfirst, haddress, -, hroutes, rfl⟩ :=
    (init_serialize_eq_ok h).mp hresult
  have htold : List.Forall₂ (fun cidr route => Tells foundation cidr
      (NEIPv4Route.destinationAddress route) (NEIPv4Route.destinationSubnetMask route))
      c.peer.allowedIps routes := by
    refine hroutes.imp fun cidr route hroute => ?_
    obtain ⟨r, hr, rfl⟩ := hroute
    exact tells_of_init hr
  have hnil : routes = [] ↔ c.peer.allowedIps = [] := by
    rw [← List.length_eq_zero_iff, ← List.length_eq_zero_iff, htold.length_eq]
  refine ⟨⟨first, _, _, hfirst, rfl, rfl, tells_of_init haddress⟩, fun cidr honly => ?_,
    fun hne => ?_, fun hempty => if_pos (hnil.mpr hempty), fun hmem => ?_⟩
  · rw [honly] at hfirst
    cases hfirst
    exact ⟨_, _, rfl, rfl, tells_of_init haddress⟩
  · dsimp only [makeNetworkSettings]
    rw [if_neg (mt hnil.mp hne)]
    exact htold
  · by_cases hempty : c.peer.allowedIps = []
    · exact .inl hempty
    dsimp only [makeNetworkSettings] at hmem
    rw [if_neg (mt hnil.mp hempty)] at hmem
    exact .inr (exists_default htold hmem)

end Carried

/-! ## The way of a configuration -/

open PacketTunnelManager WireGuardTunnelConfigMapper

theorem startTunnel_eq_ok {foundation : Foundation} {record : PacketTunnelManagerRecord}
    {json : Dictionary} (h : record.providerConfiguration = some json)
    {settings : NEPacketTunnelNetworkSettings} :
    startTunnel foundation record.protocolConfiguration = .ok settings ↔ ∃ result,
      PacketTunnelProviderConfiguration.init foundation json = .ok result ∧
        settings = makeNetworkSettings result := by
  have hbind : record.protocolConfiguration.bind NETunnelProviderProtocol.providerConfiguration =
      some json := h
  have hloaded : loadConfiguration foundation record.protocolConfiguration =
      PacketTunnelProviderConfiguration.init foundation json := by
    rw [loadConfiguration, hbind]
  rw [← hloaded]
  refine bind_eq_ok.trans (exists_congr fun result => and_congr_right fun _ => ?_)
  exact Iff.trans (Except.ok.injEq _ _).to_iff eq_comm

/-- ASCII text, each letter of which is a character. -/
def plainTexts : Foundation where
  characters text := text.toList.map fun c => String.ofList [c]
  urlHost _ := none

def granted : SystemAnswers := ⟨some (.ok ()), .ok (), .ok (), .ok ()⟩

def providerJson (mode : Option String) (allowedIps : List String) : Dictionary :=
  [("transport", .string "relay"),
    ("localVirtualIp", .string "100.64.0.10"),
    ("peerVirtualIp", .string "100.64.0.2"),
    ("debugEngineMode", .ofOption .string mode),
    ("wireguardInterface", .dictionary
      [("keyPair", .dictionary [("publicKey", .string "pub"), ("privateKey", .string "priv")]),
        ("addresses", .array [.string "100.64.0.10/32"])]),
    ("wireguardPeer", .dictionary
      [("publicKey", .string "peer-pub"),
        ("allowedIps", .array (allowedIps.map fun cidr => .dictionary [("cidr", .string cidr)]))])]

def testConfiguration (debugEngineMode : Option String) (allowedIps : List String) :
    WireGuardTunnelConfiguration where
  transport := "relay"
  localVirtualIp := "100.64.0.10"
  peerVirtualIp := "100.64.0.2"
  interface := { keyPair := ⟨"pub", "priv"⟩, addresses := ["100.64.0.10/32"] }
  peer := { publicKey := "peer-pub", allowedIps }
  debugEngineMode

/-- It was let through, and applied where there was no manager yet. -/
def Applied (debugEngineMode : Option String) (allowedIps : List String) (p : Preferences) : Prop :=
  mapConfiguration (providerJson debugEngineMode allowedIps) =
      .ok (testConfiguration debugEngineMode allowedIps) ∧
    (apply none granted (testConfiguration debugEngineMode allowedIps)).run [] = (.ok (), p)

end Slan.Macos
