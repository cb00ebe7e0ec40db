import Slan.Lib.Reservation
import Slan.Networks.SubnetRanges

/-! # Calls of `ensureAttachment` that run at the same time -/

namespace Slan.Networks

open Control (newId)
open Netip (Addr)
open Transition

/-! ## The choice of an address -/

def SubnetRange.addresses (range : SubnetRange) : List String :=
  (List.range range.size).map fun i => Netip.render (range.address i)

section Choice

variable {network : Netip.Prefix} {used used' : List String} {n : Nat} {candidate : Addr}
  {ip : String}

theorem not_mem_of_firstFree (h : firstFree network used n candidate = some ip) : ip ∉ used := by
  induction n generalizing candidate with
  | zero => cases h
  | succ n ih =>
    unfold firstFree at h
    split at h
    · exact ih h
    · rename_i hfree
      rw [← Option.some.inj h]
      exact fun hmem => hfree (.inl hmem)

/-- The first free address stays the first free one while it is free. -/
theorem firstFree_stable (hsub : ∀ x ∈ used, x ∈ used')
    (h : firstFree network used n candidate = some ip) (hip : ip ∉ used') :
    firstFree network used' n candidate = some ip := by
  induction n generalizing candidate with
  | zero => cases h
  | succ n ih =>
    unfold firstFree at h ⊢
    split at h
    · rename_i htaken
      rw [if_pos (htaken.imp_left (hsub _))]
      exact ih h
    · rename_i hfree
      obtain rfl := Option.some.inj h
      rw [if_neg]
      exact fun htaken => hfree (.inr (htaken.resolve_left hip))

theorem firstFree_congr (h : ∀ x, x ∈ used ↔ x ∈ used') :
    firstFree network used n candidate = firstFree network used' n candidate := by
  induction n generalizing candidate with
  | zero => rfl
  | succ n ih =>
    unfold firstFree
    simp only [ih, h]

theorem mem_of_firstFree_eq_none (h : firstFree network used n candidate = none) {i : Nat}
    (hi : i < n) (hcontains : network.contains (candidate + BitVec.ofNat 32 i) = true) :
    Netip.render (candidate + BitVec.ofNat 32 i) ∈ used := by
  induction n generalizing candidate i with
  | zero => omega
  | succ n ih =>
    unfold firstFree at h
    split at h
    · rename_i htaken
      cases i with
      | zero =>
        have hzero : candidate + BitVec.ofNat 32 0 = candidate := BitVec.add_zero candidate
        rw [hzero] at hcontains ⊢
        refine htaken.resolve_right fun hnot => ?_
        rw [hcontains] at hnot
        cases hnot
      | succ i =>
        have hnext : candidate + BitVec.ofNat 32 (i + 1) = candidate + 1 + BitVec.ofNat 32 i := by
          bv_omega
        rw [hnext] at hcontains ⊢
        exact ih h (by omega) hcontains
    · cases h

variable {subnet : Subnet} {range : SubnetRange}

/-- A range has no address outside its network. -/
theorem sound_of_range (h : subnet.range = .ok range) : range.Sound where
  ordered := by
    have hlt := (gateway_lt_start h).2
    bv_omega
  contains addr hstart hlast := by
    obtain ⟨network, hparse, hcontains⟩ := cidrHolds_of_subnetRange h hstart hlast
    have hnetwork := Option.some.inj ((subnetRange_eq_ok h).1.symm.trans hparse)
    rwa [← Netip.ParsedPrefix.ipv4.inj hnetwork] at hcontains

theorem ne_base_of_parseHostAddress {raw field : String} {network : Netip.Prefix} {addr : Addr}
    (h : parseHostAddress raw network field = .ok addr) : addr ≠ networkBase network := by
  unfold parseHostAddress at h
  obtain ⟨parsed, _, h⟩ := Program.bind_eq_ok.mp h
  split at h
  · cases h
  · rename_i hhost
    obtain rfl := Except.ok.inj h
    exact fun hbase => hhost (.inl hbase)

/-- The address that an owner's device prefers does not lie above where the range starts. -/
theorem owner_le_start (h : subnet.range = .ok range) :
    networkBase range.network + 2 ≤ range.start := by
  obtain ⟨-, hlarge, gateway, hgateway, -, hordered, -⟩ := subnetRange_eq_ok h
  generalize range.network = network at *
  have habove : networkBase network < gateway := by
    unfold hostAddressOr at hgateway
    split at hgateway
    · have hbase : (networkBase network).toNat ≤ gateway.toNat :=
        ((network.contains_iff gateway).mp (mem_of_parseHostAddress hgateway)).1
      have hne : gateway ≠ networkBase network := ne_base_of_parseHostAddress hgateway
      bv_omega
    · obtain rfl := Except.ok.inj hgateway
      have hbroadcast := toNat_broadcast network
      have hlt : (networkBase network).toNat + 2 ^ network.hostBits ≤ 2 ^ 32 :=
        network.masked_add_lt
      bv_omega
  bv_omega

/-- What an owner's device prefers to what it was allocated is the same address. -/
theorem preferred_eq_allocated (h : subnet.range = .ok range) (hsub : ∀ x ∈ used, x ∈ used')
    (hip : firstFree range.network used range.size range.start = some ip)
    (hstart : range.start ≤ networkBase range.network + 2)
    (hfree : Netip.render (networkBase range.network + 2) ∉ used') :
    Netip.render (networkBase range.network + 2) = ip := by
  have hsame : networkBase range.network + 2 = range.start := by
    have hle : networkBase range.network + 2 ≤ range.start := owner_le_start h
    bv_omega
  rw [hsame] at hfree ⊢
  have hsound := sound_of_range h
  have hsize : range.size ≠ 0 := by
    obtain ⟨hpos, hlt⟩ := gateway_lt_start h
    unfold SubnetRange.size
    bv_omega
  obtain ⟨n, hn⟩ := Nat.exists_eq_succ_of_ne_zero hsize
  have hcontains : range.network.contains range.start = true :=
    hsound.contains _ (BitVec.le_refl _) hsound.ordered
  rw [hn] at hip
  unfold firstFree at hip
  rw [if_neg] at hip
  · exact Option.some.inj hip
  · rw [hcontains]
    exact fun htaken => hfree (hsub _ (htaken.resolve_right Bool.false_ne_true.symm))

theorem fits_of_firstFree (h : subnet.range = .ok range)
    (hip : firstFree range.network used range.size range.start = some ip) : Fits subnet ip := by
  obtain ⟨i, hi, rfl⟩ := firstFree_eq_some hip
  obtain ⟨hstart, hlast⟩ := range.address_mem (sound_of_range h).ordered hi
  exact fits_render h hstart hlast

/-- Addresses of a range are chosen from below. -/
noncomputable def addressChooser (range : SubnetRange) (hrange : range.Sound) : Chooser String where
  pool := range.addresses.toFinset
  pick used := firstFree range.network used.toList range.size range.start
  unused h := fun hmem => not_mem_of_firstFree h (Finset.mem_toList.mpr hmem)
  stable hsub h ha := by
    refine firstFree_stable (fun x hx => ?_) h fun hmem => ha (Finset.mem_toList.mp hmem)
    exact Finset.mem_toList.mpr (hsub (Finset.mem_toList.mp hx))
  total h := by
    intro ip hip
    obtain ⟨i, hi, rfl⟩ := List.mem_map.mp (List.mem_toFinset.mp hip)
    have hlt := List.mem_range.mp hi
    obtain ⟨hstart, hlast⟩ := range.address_mem hrange.ordered hlt
    exact Finset.mem_toList.mp (mem_of_firstFree_eq_none h hlt (hrange.contains _ hstart hlast))

end Choice

/-! ## Calls and their statements -/

structure AttachRequest where
  fresh : Fresh
  deviceId : String

/-- A call that has taken so many statements, and what is left of it. -/
structure Running where
  taken : Nat
  rest : Call SubnetAttachment

/-- One call for each request, all for one subnet. -/
structure AttachWorld where
  store : Store
  calls : List Running

namespace Running

def finished (c : Running) : Bool :=
  match c.rest with
  | .ret _ => true
  | .stmt .. => false

/-- The third statement lists the attachments, the last one inserts. -/
def busy (c : Running) : Bool := decide (3 ≤ c.taken) && !c.finished

end Running

namespace AttachWorld

def start (s : Store) (networkId subnetId : String) (requests : List AttachRequest) : AttachWorld :=
  ⟨s, requests.map fun r => ⟨0, ensureAttachment r.fresh networkId subnetId r.deviceId⟩⟩

/-- A call takes its next statement. -/
def step (w : AttachWorld) (call : Nat) : Option AttachWorld :=
  match w.calls[call]? with
  | some ⟨taken, .stmt _ write next⟩ =>
    some ⟨write w.store, w.calls.set call ⟨taken + 1, next w.store⟩⟩
  | _ => none

/-- A call lists the attachments while no other one is between that and its insert. -/
def TakesTurns (w : AttachWorld) (call : Nat) : Prop :=
  match w.calls[call]? with
  | some c => c.taken = 2 → ∀ d ∈ w.calls, d.busy = false
  | none => True

instance (w : AttachWorld) (call : Nat) : Decidable (TakesTurns w call) := by
  unfold TakesTurns
  split <;> infer_instance

end AttachWorld

/-- The addresses that attachments to the subnet hold. -/
def Store.heldAddresses (s : Store) (subnetId : String) : List String :=
  (s.attachmentsBySubnet subnetId).map SubnetAttachment.virtualIp

/-- The subnet that the calls are for, the devices, the drawn identifiers and the room there is. -/
structure Setting (s : Store) (subnet : Subnet) (range : SubnetRange)
    (requests : List AttachRequest) : Prop where
  stored : s.subnetById subnet.subnetId = some subnet
  allocates : subnet.range = .ok range
  devices : (requests.map AttachRequest.deviceId).Nodup
  drawn : (requests.map fun r => newId "att" r.fresh.attachment).Nodup
  unused : ∀ r ∈ requests, ∀ a ∈ s.attachments, a.attachmentId ≠ newId "att" r.fresh.attachment
  room : requests.length ≤
    (range.addresses.filter fun ip => ip ∉ s.heldAddresses subnet.subnetId).length

namespace AttachWorld

/-- Every call has succeeded, each with an address of its own in the range of the subnet. -/
structure AllPlaced (w : AttachWorld) (subnet : Subnet) : Prop where
  placed : ∀ c ∈ w.calls, ∃ a, c.rest = .ret (.ok a) ∧ Fits subnet a.virtualIp
  apart : w.calls.Pairwise fun c d => ∀ a b, c.rest = .ret (.ok a) → d.rest = .ret (.ok b) →
    a.virtualIp ≠ b.virtualIp

end AttachWorld

/-! ## What is left of a call -/

section Rest

variable (networkId : String) (subnet : Subnet) (r : AttachRequest)

def AttachRequest.row (ip : String) : SubnetAttachment :=
  ⟨newId "att" r.fresh.attachment, networkId, subnet.subnetId, r.deviceId, ip, "", "active"⟩

def attachWith (ip : String) : Call SubnetAttachment := do
  insert fun s => s.createAttachment (r.row networkId subnet ip)
  pure (r.row networkId subnet ip)

def attachPreferring (ip : String) (preference : Call (Option String)) : Call SubnetAttachment := do
  let preferred ← preference
  attachWith networkId subnet r (preferred.getD ip)

def attachAllocated (ip : String) : Call SubnetAttachment := do
  let member ← Program.query fun s => s.memberByNetworkDevice networkId r.deviceId
  attachPreferring networkId subnet r ip (ownerPreference subnet member)

def attachOn (found : Subnet) : Call SubnetAttachment := do
  let ip ← allocateIp found
  let member ← Program.query fun s => s.memberByNetworkDevice networkId r.deviceId
  attachPreferring networkId subnet r ip (ownerPreference found member)

def attachNew : Call SubnetAttachment := do
  let found ← lookup fun s => s.subnetById subnet.subnetId
  attachOn networkId subnet r found

theorem ensureAttachment_eq :
    ensureAttachment r.fresh networkId subnet.subnetId r.deviceId =
      .stmt (fun _ => []) id fun s =>
        match s.attachmentBySubnetDevice subnet.subnetId r.deviceId with
        | some attachment => .ret (.ok attachment)
        | none => attachNew networkId subnet r := rfl

theorem attachNew_eq :
    attachNew networkId subnet r = .stmt (fun _ => []) id fun s =>
      (Program.orFail (.service .notFound) (s.subnetById subnet.subnetId)).bind
        (attachOn networkId subnet r) := rfl

theorem attachOn_eq {range : SubnetRange} (hrange : subnet.range = .ok range) :
    attachOn networkId subnet r subnet = .stmt (fun _ => []) id fun s =>
      match firstFree range.network (s.heldAddresses subnet.subnetId) range.size range.start with
      | some ip => attachAllocated networkId subnet r ip
      | none => .ret (.error (.service (.wrap .conflict "subnet is exhausted"))) := by
  unfold attachOn allocateIp checked
  rw [hrange]
  refine congrArg (Program.stmt _ _) (funext fun s => ?_)
  change Program.bind (match firstFree range.network (s.heldAddresses subnet.subnetId) range.size
    range.start with | some ip => pure ip | none => conflict "subnet is exhausted") _ = _
  cases firstFree range.network (s.heldAddresses subnet.subnetId) range.size range.start <;> rfl

theorem attachAllocated_eq (ip : String) :
    attachAllocated networkId subnet r ip = .stmt (fun _ => []) id fun s =>
      attachPreferring networkId subnet r ip
        (ownerPreference subnet (s.memberByNetworkDevice networkId r.deviceId)) := rfl

/-- What `preferredOwnerIp` finds. -/
def ownerIpFree (subnet : Subnet) (range : SubnetRange) (s : Store) : Option String :=
  let candidate := networkBase range.network + 2
  if candidate < range.start ∨ range.last < candidate ∨
      range.network.contains candidate = false then none
  else if Netip.render candidate ∈ s.heldAddresses subnet.subnetId then none
  else some (Netip.render candidate)

theorem attachPreferring_eq {range : SubnetRange} (hrange : subnet.range = .ok range)
    (ip : String) :
    attachPreferring networkId subnet r ip (preferredOwnerIp subnet) =
      .stmt (fun _ => []) id fun s =>
        attachWith networkId subnet r ((ownerIpFree subnet range s).getD ip) := by
  unfold attachPreferring preferredOwnerIp checked
  rw [hrange]
  refine congrArg (Program.stmt _ _) (funext fun s => ?_)
  unfold ownerIpFree Store.heldAddresses
  change Program.bind (if _ then pure none else if _ then pure none else pure _) _ = _
  dsimp only
  split
  · rfl
  · split <;> rfl

theorem attachWith_eq (ip : String) :
    attachWith networkId subnet r ip =
      .stmt (fun _ => []) (fun s => (s.createAttachment (r.row networkId subnet ip)).getD s)
        fun s => .ret (if (s.createAttachment (r.row networkId subnet ip)).isSome then
          .ok (r.row networkId subnet ip) else .error .database) := by
  unfold attachWith insert Program.execOr
  refine congrArg (Program.stmt _ _) (funext fun s => ?_)
  change Program.bind (.ret (if (s.createAttachment _).isSome = true then .ok () else .error _)) _ =
    _
  cases (s.createAttachment (r.row networkId subnet ip)).isSome <;> rfl

end Rest

/-! ## The calls as a race for addresses -/

/-- What a call has come to, and what that is in a race: `s₀` is the store at first. -/
inductive Stands (s₀ : Store) (networkId : String) (subnet : Subnet) (r : AttachRequest)
    (store : Store) : Running → Party String → Prop
  | begun : Stands s₀ networkId subnet r store
      ⟨0, ensureAttachment r.fresh networkId subnet.subnetId r.deviceId⟩ .waiting
  | found (a : SubnetAttachment) :
    s₀.attachmentBySubnetDevice subnet.subnetId r.deviceId = some a → a ∈ store.attachments →
    Stands s₀ networkId subnet r store ⟨1, .ret (.ok a)⟩ .settled
  | looking : s₀.attachmentBySubnetDevice subnet.subnetId r.deviceId = none →
    Stands s₀ networkId subnet r store ⟨1, attachNew networkId subnet r⟩ .waiting
  | listing : s₀.attachmentBySubnetDevice subnet.subnetId r.deviceId = none →
    Stands s₀ networkId subnet r store ⟨2, attachOn networkId subnet r subnet⟩ .waiting
  | allocated (ip : String) : s₀.attachmentBySubnetDevice subnet.subnetId r.deviceId = none →
    Stands s₀ networkId subnet r store ⟨3, attachAllocated networkId subnet r ip⟩ (.holding ip)
  | preferring (ip : String) : s₀.attachmentBySubnetDevice subnet.subnetId r.deviceId = none →
    Stands s₀ networkId subnet r store
      ⟨4, attachPreferring networkId subnet r ip (preferredOwnerIp subnet)⟩ (.holding ip)
  | inserting (taken : Nat) (ip : String) : 3 ≤ taken → taken ≤ 5 →
    s₀.attachmentBySubnetDevice subnet.subnetId r.deviceId = none →
    Stands s₀ networkId subnet r store ⟨taken, attachWith networkId subnet r ip⟩ (.holding ip)
  | placed (taken : Nat) (ip : String) : taken ≤ 6 → Fits subnet ip →
    s₀.attachmentBySubnetDevice subnet.subnetId r.deviceId = none →
    r.row networkId subnet ip ∈ store.attachments →
    Stands s₀ networkId subnet r store ⟨taken, .ret (.ok (r.row networkId subnet ip))⟩ .settled
  | refused (taken : Nat) (err : Failure) : taken ≤ 6 →
    Stands s₀ networkId subnet r store ⟨taken, .ret (.error err)⟩ .refused

section Simulation

variable {s₀ : Store} {networkId : String} {subnet : Subnet} {range : SubnetRange}
  {requests : List AttachRequest} {w : AttachWorld} {race : Race String}

theorem Stands.grow {store store' : Store} {r : AttachRequest} {c : Running} {party : Party String}
    (h : Stands s₀ networkId subnet r store c party)
    (hgrow : ∀ a ∈ store.attachments, a ∈ store'.attachments) :
    Stands s₀ networkId subnet r store' c party := by
  cases h with
  | begun => exact .begun
  | found a ha hmem => exact .found a ha (hgrow a hmem)
  | looking h => exact .looking h
  | listing h => exact .listing h
  | allocated ip h => exact .allocated ip h
  | preferring ip h => exact .preferring ip h
  | inserting taken ip hlow hhigh h => exact .inserting taken ip hlow hhigh h
  | placed taken ip htaken hfits h hmem => exact .placed taken ip htaken hfits h (hgrow _ hmem)
  | refused taken err htaken => exact .refused taken err htaken

theorem Stands.busy {store : Store} {r : AttachRequest} {c : Running} {party : Party String}
    (h : Stands s₀ networkId subnet r store c party) : c.busy = Race.isHolding party := by
  cases h with
  | inserting taken ip htaken _ _ =>
    unfold Running.busy
    rw [decide_eq_true htaken]
    rfl
  | placed | refused => exact Bool.and_false _
  | _ => rfl

theorem Stands.finished {store : Store} {r : AttachRequest} {c : Running} {party : Party String}
    (h : Stands s₀ networkId subnet r store c party) :
    c.finished = !Race.isPending party := by
  cases h <;> rfl

theorem Stands.taken_le {store : Store} {r : AttachRequest} {c : Running} {party : Party String}
    (h : Stands s₀ networkId subnet r store c party) : c.taken ≤ 6 := by
  cases h <;> dsimp only <;> omega

/-- What a call answers is a row for its device. -/
theorem Stands.row {store : Store} {r : AttachRequest} {c : Running} {party : Party String}
    (h : Stands s₀ networkId subnet r store c party) {a : SubnetAttachment}
    (ha : c.rest = .ret (.ok a)) :
    a ∈ store.attachments ∧ a.subnetId = subnet.subnetId ∧ a.deviceId = r.deviceId := by
  cases h with
  | found b hfound hmem =>
    obtain rfl : b = a := by injection ha with ha; exact Except.ok.inj ha
    have hchosen : (b.subnetId == subnet.subnetId && b.deviceId == r.deviceId) = true :=
      List.find?_some (p := fun row : SubnetAttachment =>
        row.subnetId == subnet.subnetId && row.deviceId == r.deviceId) hfound
    rw [Bool.and_eq_true, beq_iff_eq, beq_iff_eq] at hchosen
    exact ⟨hmem, hchosen⟩
  | placed taken ip _ _ _ hmem =>
    obtain rfl : r.row networkId subnet ip = a := by injection ha with ha; exact Except.ok.inj ha
    exact ⟨hmem, rfl, rfl⟩
  | _ => cases ha

/-- The calls stand as the parties of the race do, and the store has the rows that were placed. -/
structure Related (s₀ : Store) (networkId : String) (subnet : Subnet) (range : SubnetRange)
    (hrange : range.Sound) (requests : List AttachRequest) (w : AttachWorld)
    (race : Race String) : Prop where
  callCount : w.calls.length = requests.length
  partyCount : race.parties.length = requests.length
  stands : ∀ (i : Nat) (r : AttachRequest) (c : Running) (party : Party String),
    requests[i]? = some r → w.calls[i]? = some c → race.parties[i]? = some party →
      Stands s₀ networkId subnet r w.store c party
  subnets : w.store.subnets = s₀.subnets
  old : ∀ a ∈ s₀.attachments, a ∈ w.store.attachments
  rows : ∀ a ∈ w.store.attachments, a ∈ s₀.attachments ∨
    ∃ (i : Nat) (r : AttachRequest), requests[i]? = some r ∧ race.parties[i]? = some .settled ∧
      a.deviceId = r.deviceId ∧ a.attachmentId = newId "att" r.fresh.attachment
  used : ∀ ip, ip ∈ race.used ↔ ip ∈ w.store.heldAddresses subnet.subnetId
  kept : Race.Kept (addressChooser range hrange) race

theorem mem_heldAddresses {s : Store} {subnetId ip : String} :
    ip ∈ s.heldAddresses subnetId ↔
      ∃ a ∈ s.attachments, a.subnetId = subnetId ∧ a.virtualIp = ip := by
  unfold Store.heldAddresses Store.attachmentsBySubnet
  simp only [List.mem_map, Relation.mem_orderBy, Relation.mem_select, beq_iff_eq, and_assoc]

/-- The call of a number, its request and its party. -/
theorem Related.exists_call {hrange : range.Sound}
    (h : Related s₀ networkId subnet range hrange requests w race) {i : Nat} {c : Running}
    (hc : w.calls[i]? = some c) : ∃ r party, requests[i]? = some r ∧
      race.parties[i]? = some party ∧ Stands s₀ networkId subnet r w.store c party := by
  obtain ⟨hlt, _⟩ := List.getElem?_eq_some_iff.mp hc
  have hrequest : i < requests.length := h.callCount ▸ hlt
  have hparty : i < race.parties.length := h.partyCount ▸ hrequest
  have hr := List.getElem?_eq_getElem hrequest
  have hp := List.getElem?_eq_getElem hparty
  exact ⟨_, _, hr, hp, h.stands i _ c _ hr hc hp⟩

/-- What no two requests have in common tells their numbers. -/
theorem index_eq_of_nodup {β : Type} {f : AttachRequest → β} (h : (requests.map f).Nodup)
    {i j : Nat} {r r' : AttachRequest} (hi : requests[i]? = some r) (hj : requests[j]? = some r')
    (hf : f r = f r') : i = j := by
  obtain ⟨hlt, _⟩ := List.getElem?_eq_some_iff.mp hi
  refine (List.getElem?_inj (by rwa [List.length_map]) h).mp ?_
  rw [List.getElem?_map, List.getElem?_map, hi, hj, Option.map_some, Option.map_some, hf]

/-- What a call finds while it has no attachment is what was there at first. -/
theorem Related.lookup_eq {hrange : range.Sound}
    (h : Related s₀ networkId subnet range hrange requests w race)
    (hset : Setting s₀ subnet range requests) {i : Nat} {r : AttachRequest} {party : Party String}
    (hr : requests[i]? = some r) (hp : race.parties[i]? = some party) (hne : party ≠ .settled) :
    w.store.attachmentBySubnetDevice subnet.subnetId r.deviceId =
      s₀.attachmentBySubnetDevice subnet.subnetId r.deviceId := by
  cases hfound : s₀.attachmentBySubnetDevice subnet.subnetId r.deviceId with
  | some a =>
    unfold Store.attachmentBySubnetDevice at hfound ⊢
    refine Relation.find?_eq_some_of_mem (fun x y hx hy => ?_)
      (h.old a (Relation.mem_of_find? hfound)) (List.find?_some
        (p := fun row : SubnetAttachment =>
          row.subnetId == subnet.subnetId && row.deviceId == r.deviceId) hfound)
    simp only [Bool.and_eq_true, beq_iff_eq] at hx hy
    exact .inr (.inl ⟨hx.1.trans hy.1.symm, hx.2.trans hy.2.symm⟩)
  | none =>
    refine Relation.find?_eq_none.mpr fun a ha => ?_
    rcases h.rows a ha with hold | ⟨j, r', hj, hsettled, hdevice, _⟩
    · exact Relation.find?_eq_none.mp hfound a hold
    · by_contra hchosen
      simp only [Bool.not_eq_false, Bool.and_eq_true, beq_iff_eq] at hchosen
      obtain rfl := index_eq_of_nodup hset.devices hr hj (hchosen.2.symm.trans hdevice)
      exact hne (Option.some.inj (hp.symm.trans hsettled))

/-- A call comes to something else without writing. -/
theorem Related.become {hrange : range.Sound}
    (h : Related s₀ networkId subnet range hrange requests w race) {i : Nat} {r : AttachRequest}
    {c c' : Running} {party party' : Party String} (hr : requests[i]? = some r)
    (hc : w.calls[i]? = some c) (hp : race.parties[i]? = some party)
    (hpending : Race.isPending party = true)
    (hstands : Stands s₀ networkId subnet r w.store c' party')
    (hkept : Race.Kept (addressChooser range hrange) (race.become i party')) :
    Related s₀ networkId subnet range hrange requests ⟨w.store, w.calls.set i c'⟩
      (race.become i party') where
  callCount := (List.length_set).trans h.callCount
  partyCount := (List.length_set).trans h.partyCount
  stands j r' d q hr' hd hq := by
    dsimp only at hd
    rw [Race.getElem?_become hp] at hq
    rw [List.getElem?_set] at hd
    split at hq
    · rename_i hij
      subst hij
      rw [if_pos rfl, if_pos (List.getElem?_eq_some_iff.mp hc).1] at hd
      obtain rfl := Option.some.inj (hr.symm.trans hr')
      obtain rfl := Option.some.inj hd
      obtain rfl := Option.some.inj hq
      exact hstands
    · rename_i hij
      rw [if_neg hij] at hd
      exact h.stands j r' d q hr' hd hq
  subnets := h.subnets
  old := h.old
  rows a ha := by
    rcases h.rows a ha with hold | ⟨j, r', hj, hsettled, hrow⟩
    · exact .inl hold
    · refine .inr ⟨j, r', hj, ?_, hrow⟩
      rw [Race.getElem?_become hp, if_neg, hsettled]
      rintro rfl
      obtain rfl := Option.some.inj (hp.symm.trans hsettled)
      cases hpending
  used := h.used
  kept := hkept

/-- A call that reads something takes no part in the race. -/
theorem Related.still {hrange : range.Sound}
    (h : Related s₀ networkId subnet range hrange requests w race) {i : Nat} {r : AttachRequest}
    {c c' : Running} {party : Party String} (hr : requests[i]? = some r)
    (hc : w.calls[i]? = some c) (hp : race.parties[i]? = some party)
    (hpending : Race.isPending party = true)
    (hstands : Stands s₀ networkId subnet r w.store c' party) :
    Related s₀ networkId subnet range hrange requests ⟨w.store, w.calls.set i c'⟩ race := by
  have hself := Race.become_self hp
  have hmoved := h.become hr hc hp hpending hstands (by rw [hself]; exact h.kept)
  rwa [hself] at hmoved

/-- A row is refused just where its address is held. -/
theorem Related.createAttachment_eq_none {hrange : range.Sound}
    (h : Related s₀ networkId subnet range hrange requests w race)
    (hset : Setting s₀ subnet range requests) {i : Nat} {r : AttachRequest} {ip : String}
    (hr : requests[i]? = some r) (hp : race.parties[i]? = some (.holding ip))
    (hnone : s₀.attachmentBySubnetDevice subnet.subnetId r.deviceId = none) :
    w.store.createAttachment (r.row networkId subnet ip) = none ↔ ip ∈ race.used := by
  unfold Store.createAttachment
  rw [Option.map_eq_none_iff, Relation.insert_eq_none, h.used, mem_heldAddresses]
  constructor
  · rintro ⟨a, ha, hclash⟩
    have hother : ∀ j r', requests[j]? = some r' → race.parties[j]? = some .settled → i ≠ j := by
      rintro j r' _ hsettled rfl
      cases hp.symm.trans hsettled
    rcases hclash with hid | ⟨hsubnet, hdevice⟩ | ⟨hsubnet, hip⟩
    · rcases h.rows a ha with hold | ⟨j, r', hj, hsettled, _, hid'⟩
      · exact absurd hid (hset.unused r (List.mem_of_getElem? hr) a hold)
      · exact absurd (index_eq_of_nodup hset.drawn hr hj (hid.symm.trans hid'))
          (hother j r' hj hsettled)
    · rcases h.rows a ha with hold | ⟨j, r', hj, hsettled, hdevice', _⟩
      · have hno := Relation.find?_eq_none.mp hnone a hold
        simp [hsubnet, hdevice, AttachRequest.row] at hno
      · exact absurd (index_eq_of_nodup hset.devices hr hj (hdevice.symm.trans hdevice'))
          (hother j r' hj hsettled)
    · exact ⟨a, ha, hsubnet, hip⟩
  · rintro ⟨a, ha, hsubnet, hip⟩
    exact ⟨a, ha, .inr (.inr ⟨hsubnet, hip⟩)⟩

/-- A row that is accepted makes its address a used one. -/
theorem Related.take {hrange : range.Sound}
    (h : Related s₀ networkId subnet range hrange requests w race) {i : Nat} {r : AttachRequest}
    {c : Running} {ip : String} {store : Store} (hr : requests[i]? = some r)
    (hc : w.calls[i]? = some c) (hp : race.parties[i]? = some (.holding ip)) (htaken : c.taken ≤ 5)
    (hnone : s₀.attachmentBySubnetDevice subnet.subnetId r.deviceId = none)
    (hfits : Fits subnet ip)
    (hwrite : w.store.createAttachment (r.row networkId subnet ip) = some store) :
    Related s₀ networkId subnet range hrange requests
      ⟨store, w.calls.set i ⟨c.taken + 1, .ret (.ok (r.row networkId subnet ip))⟩⟩
      { race.become i .settled with used := Insert.insert ip race.used } := by
  obtain ⟨attachments, hinsert, rfl⟩ := Option.map_eq_some_iff.mp hwrite
  have hmem : ∀ a, a ∈ attachments ↔ a ∈ w.store.attachments ∨ a = r.row networkId subnet ip :=
    fun a => Relation.mem_insert hinsert
  have hgrow : ∀ a ∈ w.store.attachments, a ∈ attachments := fun a ha => (hmem a).mpr (.inl ha)
  refine ⟨(List.length_set).trans h.callCount, (List.length_set).trans h.partyCount, ?_, h.subnets,
    fun a ha => hgrow a (h.old a ha), fun a ha => ?_, fun ip' => ?_, h.kept.take hp⟩
  · intro j r' d q hr' hd hq
    dsimp only at hd
    change (race.become i .settled).parties[j]? = _ at hq
    rw [Race.getElem?_become hp] at hq
    rw [List.getElem?_set] at hd
    split at hq
    · rename_i hij
      subst hij
      rw [if_pos rfl, if_pos (List.getElem?_eq_some_iff.mp hc).1] at hd
      obtain rfl := Option.some.inj (hr.symm.trans hr')
      obtain rfl := Option.some.inj hd
      obtain rfl := Option.some.inj hq
      exact .placed _ ip (by omega) hfits hnone ((hmem _).mpr (.inr rfl))
    · rename_i hij
      rw [if_neg hij] at hd
      exact (h.stands j r' d q hr' hd hq).grow hgrow
  · rcases (hmem a).mp ha with ha | rfl
    · rcases h.rows a ha with hold | ⟨j, r', hj, hsettled, hrow⟩
      · exact .inl hold
      · refine .inr ⟨j, r', hj, ?_, hrow⟩
        change (race.become i .settled).parties[j]? = _
        rw [Race.getElem?_become hp, hsettled, ite_self]
    · refine .inr ⟨i, r, hr, ?_, rfl, rfl⟩
      change (race.become i .settled).parties[i]? = _
      rw [Race.getElem?_become hp, if_pos rfl]
  · change ip' ∈ Insert.insert ip race.used ↔ _
    rw [Finset.mem_insert, h.used, mem_heldAddresses, mem_heldAddresses]
    constructor
    · rintro (rfl | ⟨a, ha, hsubnet, hip⟩)
      · exact ⟨_, (hmem _).mpr (.inr rfl), rfl, rfl⟩
      · exact ⟨a, hgrow a ha, hsubnet, hip⟩
    · rintro ⟨a, ha, hsubnet, hip⟩
      rcases (hmem a).mp ha with ha | rfl
      · exact .inr ⟨a, ha, hsubnet, hip⟩
      · exact .inl hip.symm

/-- What is held was chosen when fewer addresses were held. -/
theorem Related.held {hrange : range.Sound}
    (h : Related s₀ networkId subnet range hrange requests w race) {i : Nat} {ip : String}
    (hp : race.parties[i]? = some (.holding ip)) :
    ∃ used : List String, (∀ x ∈ used, x ∈ w.store.heldAddresses subnet.subnetId) ∧
      firstFree range.network used range.size range.start = some ip := by
  obtain ⟨used, hsub, hpick⟩ := h.kept.held i ip hp
  exact ⟨used.toList, fun x hx => (h.used x).mp (hsub (Finset.mem_toList.mp hx)), hpick⟩

theorem step_of_stmt {i taken : Nat} {rest : Call SubnetAttachment} {note : Store → List KeyEvent}
    {write : Store → Store} {next : Store → Call SubnetAttachment} {w' : AttachWorld}
    (hstep : w.step i = some w') (hc : w.calls[i]? = some ⟨taken, rest⟩)
    (hrest : rest = .stmt note write next) :
    w' = ⟨write w.store, w.calls.set i ⟨taken + 1, next w.store⟩⟩ := by
  unfold AttachWorld.step at hstep
  rw [hc, hrest] at hstep
  exact (Option.some.inj hstep).symm

theorem not_step_of_ret {i taken : Nat} {result : Except Failure SubnetAttachment}
    {w' : AttachWorld} (hc : w.calls[i]? = some ⟨taken, .ret result⟩) : w.step i ≠ some w' := by
  unfold AttachWorld.step
  rw [hc]
  exact nofun

theorem takesTurns_of_taken {i : Nat} {c : Running} (hc : w.calls[i]? = some c)
    (htaken : c.taken ≠ 2) : w.TakesTurns i := by
  unfold AttachWorld.TakesTurns
  rw [hc]
  exact fun h => absurd h htaken

/-- A call lists the attachments in turn where its party reads in turn. -/
theorem Related.takesTurns_iff {hrange : range.Sound}
    (h : Related s₀ networkId subnet range hrange requests w race) {i : Nat} {c : Running}
    (hc : w.calls[i]? = some c) (htaken : c.taken = 2) :
    w.TakesTurns i ↔ Race.TakesTurns race (.read i) := by
  unfold AttachWorld.TakesTurns
  rw [hc]
  constructor
  · intro hturn party hparty
    obtain ⟨j, hj⟩ := List.mem_iff_getElem?.mp hparty
    obtain ⟨hlt, _⟩ := List.getElem?_eq_some_iff.mp hj
    have hcall : j < w.calls.length := by
      rw [h.callCount, ← h.partyCount]
      exact hlt
    have hd := List.getElem?_eq_getElem hcall
    obtain ⟨r, party', _, hparty', hstands⟩ := h.exists_call hd
    obtain rfl := Option.some.inj (hj.symm.trans hparty')
    rw [← hstands.busy]
    exact hturn htaken _ (List.getElem_mem hcall)
  · intro hturn _ d hd
    obtain ⟨j, hj⟩ := List.mem_iff_getElem?.mp hd
    obtain ⟨r, party, _, hparty, hstands⟩ := h.exists_call hj
    rw [hstands.busy]
    exact hturn party (List.mem_of_getElem? hparty)

/-- What an owner's device is given is what was allocated to it. -/
theorem Related.ownerIp_eq {hrange : range.Sound}
    (h : Related s₀ networkId subnet range hrange requests w race)
    (hset : Setting s₀ subnet range requests) {i : Nat} {ip : String}
    (hp : race.parties[i]? = some (.holding ip)) :
    (ownerIpFree subnet range w.store).getD ip = ip := by
  obtain ⟨used, hsub, hip⟩ := h.held hp
  unfold ownerIpFree
  dsimp only
  split
  · rfl
  · rename_i hin
    split
    · rfl
    · rename_i hfree
      simp only [not_or, BitVec.not_lt] at hin
      exact preferred_eq_allocated hset.allocates hsub hip hin.1 hfree

/-- Each statement of a call is none of the race's business, or a step of the race. -/
theorem Related.step {hrange : range.Sound}
    (h : Related s₀ networkId subnet range hrange requests w race)
    (hset : Setting s₀ subnet range requests) {i : Nat} {w' : AttachWorld}
    (hstep : w.step i = some w') :
    (Related s₀ networkId subnet range hrange requests w' race ∧ w.TakesTurns i) ∨
    ∃ e race', race.step (addressChooser range hrange) e = some race' ∧
      Related s₀ networkId subnet range hrange requests w' race' ∧
      (w.TakesTurns i ↔ Race.TakesTurns race e) := by
  have hsome : ∃ c, w.calls[i]? = some c := by
    unfold AttachWorld.step at hstep
    cases hc : w.calls[i]? with
    | none =>
      rw [hc] at hstep
      cases hstep
    | some c => exact ⟨c, rfl⟩
  obtain ⟨c, hc⟩ := hsome
  obtain ⟨r, party, hr, hp, hstands⟩ := h.exists_call hc
  cases hstands with
  | begun =>
    have hlookup := h.lookup_eq hset hr hp nofun
    obtain rfl := step_of_stmt hstep hc (ensureAttachment_eq networkId subnet r)
    rw [hlookup]
    cases hfound : s₀.attachmentBySubnetDevice subnet.subnetId r.deviceId with
    | none => exact .inl ⟨h.still hr hc hp rfl (.looking hfound), takesTurns_of_taken hc nofun⟩
    | some a =>
      have hleave : race.step (addressChooser range hrange) (.leave i) =
          some (race.become i .settled) := Race.step_leave hp
      have hold : a ∈ w.store.attachments := h.old a (Relation.mem_of_find? hfound)
      have hturn : w.TakesTurns i := takesTurns_of_taken hc nofun
      refine .inr ⟨.leave i, _, hleave, ?_, ⟨fun _ => trivial, fun _ => hturn⟩⟩
      exact h.become hr hc hp rfl (.found a hfound hold) (h.kept.step hleave)
  | looking hnone =>
    obtain rfl := step_of_stmt hstep hc (attachNew_eq networkId subnet r)
    have hsubnet : w.store.subnetById subnet.subnetId = some subnet := by
      unfold Store.subnetById
      rw [h.subnets]
      exact hset.stored
    rw [hsubnet]
    exact .inl ⟨h.still hr hc hp rfl (.listing hnone), takesTurns_of_taken hc nofun⟩
  | listing hnone =>
    obtain rfl := step_of_stmt hstep hc (attachOn_eq networkId subnet r hset.allocates)
    have hpick : (addressChooser range hrange).pick race.used = firstFree range.network
        (w.store.heldAddresses subnet.subnetId) range.size range.start :=
      firstFree_congr fun ip => Finset.mem_toList.trans (h.used ip)
    have hread : race.step (addressChooser range hrange) (.read i) =
        some (race.become i (Race.chosen ((addressChooser range hrange).pick race.used))) :=
      Race.step_read hp
    refine .inr ⟨.read i, _, hread, ?_, h.takesTurns_iff hc rfl⟩
    refine h.become hr hc hp rfl ?_ (h.kept.step hread)
    rw [hpick]
    cases firstFree range.network (w.store.heldAddresses subnet.subnetId) range.size
        range.start with
    | none => exact .refused 3 _ (by omega)
    | some ip => exact .allocated ip hnone
  | allocated ip hnone =>
    obtain rfl := step_of_stmt hstep hc (attachAllocated_eq networkId subnet r ip)
    refine .inl ⟨h.still hr hc hp rfl ?_, takesTurns_of_taken hc nofun⟩
    cases w.store.memberByNetworkDevice networkId r.deviceId with
    | none => exact .inserting 4 ip (by omega) (by omega) hnone
    | some member =>
      unfold ownerPreference
      dsimp only
      split
      · exact .preferring ip hnone
      · exact .inserting 4 ip (by omega) (by omega) hnone
  | preferring ip hnone =>
    obtain rfl := step_of_stmt hstep hc (attachPreferring_eq networkId subnet r hset.allocates ip)
    refine .inl ⟨h.still hr hc hp rfl ?_, takesTurns_of_taken hc nofun⟩
    rw [h.ownerIp_eq hset hp]
    exact .inserting 5 ip (by omega) (by omega) hnone
  | inserting taken ip hlow hhigh hnone =>
    obtain rfl := step_of_stmt hstep hc (attachWith_eq networkId subnet r ip)
    have hfree := h.createAttachment_eq_none hset hr hp hnone
    have hturn : w.TakesTurns i ↔ Race.TakesTurns race (.take i) :=
      ⟨fun _ => trivial, fun _ => takesTurns_of_taken hc (by dsimp only; omega)⟩
    by_cases hused : ip ∈ race.used
    · have htake : race.step (addressChooser range hrange) (.take i) =
          some (race.become i .refused) := Race.step_take_used hp hused
      rw [hfree.mpr hused]
      refine .inr ⟨.take i, _, htake, ?_, hturn⟩
      exact h.become hr hc hp rfl (.refused _ _ (by omega)) (h.kept.step htake)
    · obtain ⟨store, hwrite⟩ := Option.ne_none_iff_exists'.mp (mt hfree.mp hused)
      obtain ⟨used, _, hip⟩ := h.held hp
      rw [hwrite]
      exact .inr ⟨.take i, _, Race.step_take_free hp hused,
        h.take hr hc hp hhigh hnone (fits_of_firstFree hset.allocates hip) hwrite, hturn⟩
  | found | placed | refused => exact absurd hstep (not_step_of_ret hc)

/-! ### Whole runs -/

theorem nodup_addresses (hrange : range.Sound) : range.addresses.Nodup := by
  refine List.Nodup.map_on (fun i hi j hj hij => ?_) List.nodup_range
  exact SubnetRange.address_injective hrange.ordered (List.mem_range.mp hi) (List.mem_range.mp hj)
    (Netip.render_injective hij)

/-- Every party waits, and the used addresses are those that are held. -/
def raceFor (s : Store) (subnet : Subnet) (requests : List AttachRequest) : Race String :=
  ⟨(s.heldAddresses subnet.subnetId).toFinset, requests.map fun _ => .waiting⟩

theorem waiting_raceFor {i : Nat} {party : Party String}
    (h : (raceFor s₀ subnet requests).parties[i]? = some party) : party = .waiting := by
  unfold raceFor at h
  rw [List.getElem?_map, Option.map_eq_some_iff] at h
  obtain ⟨_, _, rfl⟩ := h
  rfl

theorem Setting.related (h : Setting s₀ subnet range requests) (hrange : range.Sound)
    (networkId : String) :
    Related s₀ networkId subnet range hrange requests
      (AttachWorld.start s₀ networkId subnet.subnetId requests)
      (raceFor s₀ subnet requests) where
  callCount := List.length_map _
  partyCount := List.length_map _
  stands i r c party hr hc hp := by
    obtain rfl := waiting_raceFor hp
    unfold AttachWorld.start at hc
    rw [List.getElem?_map, hr] at hc
    obtain rfl := Option.some.inj hc
    exact .begun
  subnets := rfl
  old _ ha := ha
  rows _ ha := .inl ha
  used ip := List.mem_toFinset
  kept := by
    refine ⟨fun i a hi => ?_, ?_⟩
    · cases waiting_raceFor hi
    · have hfree : range.addresses.toFinset \ (s₀.heldAddresses subnet.subnetId).toFinset =
          (range.addresses.filter fun ip => ip ∉ s₀.heldAddresses subnet.subnetId).toFinset := by
        ext ip
        simp
      change (requests.map fun _ => Party.waiting).countP Race.isPending ≤
        (range.addresses.toFinset \ (s₀.heldAddresses subnet.subnetId).toFinset).card
      rw [hfree, List.toFinset_card_of_nodup ((nodup_addresses hrange).filter _)]
      exact (List.countP_le_length).trans ((List.length_map _).le.trans h.room)

theorem clean_raceFor : Race.Clean (raceFor s₀ subnet requests) where
  accepted i hi := by cases waiting_raceFor hi
  free i a hi := by cases waiting_raceFor hi
  alone i j a b hi _ := by cases waiting_raceFor hi

/-- All calls are placed if none is refused and those that found a row found one that fits. -/
theorem Related.allPlaced_iff {hrange : range.Sound}
    (h : Related s₀ networkId subnet range hrange requests w race)
    (hset : Setting s₀ subnet range requests) (hdone : ∀ c ∈ w.calls, c.finished = true) :
    w.AllPlaced subnet ↔ .refused ∉ race.parties ∧
      ∀ r ∈ requests, ∀ a, s₀.attachmentBySubnetDevice subnet.subnetId r.deviceId = some a →
        Fits subnet a.virtualIp := by
  constructor
  · intro hall
    have hcall : ∀ i < w.calls.length, ∃ r c party, requests[i]? = some r ∧ w.calls[i]? = some c ∧
        race.parties[i]? = some party ∧ Stands s₀ networkId subnet r w.store c party ∧
        ∃ a, c.rest = .ret (.ok a) ∧ Fits subnet a.virtualIp := by
      intro i hi
      have hc := List.getElem?_eq_getElem hi
      obtain ⟨r, party, hr, hp, hstands⟩ := h.exists_call hc
      exact ⟨r, _, party, hr, hc, hp, hstands, hall.placed _ (List.getElem_mem hi)⟩
    refine ⟨fun hrefused => ?_, fun r hr a ha => ?_⟩
    · obtain ⟨i, hi⟩ := List.mem_iff_getElem?.mp hrefused
      obtain ⟨hlt, _⟩ := List.getElem?_eq_some_iff.mp hi
      rw [h.partyCount, ← h.callCount] at hlt
      obtain ⟨r, c, party, _, _, hp, hstands, a, ha, _⟩ := hcall i hlt
      obtain rfl := Option.some.inj (hi.symm.trans hp)
      cases hstands with
      | refused => cases ha
    · obtain ⟨i, hi⟩ := List.mem_iff_getElem?.mp hr
      obtain ⟨hlt, _⟩ := List.getElem?_eq_some_iff.mp hi
      rw [← h.callCount] at hlt
      obtain ⟨r', c, party, hr', _, _, hstands, b, hb, hfits⟩ := hcall i hlt
      obtain rfl := Option.some.inj (hi.symm.trans hr')
      cases hstands with
      | found b' hfound =>
        obtain rfl := Option.some.inj (ha.symm.trans hfound)
        obtain rfl : a = b := by injection hb with hb; exact Except.ok.inj hb
        exact hfits
      | placed _ _ _ _ hnone =>
        rw [hnone] at ha
        cases ha
      | _ => cases hb
  · rintro ⟨haccepted, hheld⟩
    refine ⟨fun c hc => ?_, List.pairwise_iff_getElem.mpr fun i j hi hj hij a b ha hb hip => ?_⟩
    · obtain ⟨i, hi⟩ := List.mem_iff_getElem?.mp hc
      obtain ⟨r, party, hr, hp, hstands⟩ := h.exists_call hi
      have hfinished := hstands.finished.symm.trans (hdone c hc)
      cases hstands with
      | found a hfound => exact ⟨a, rfl, hheld r (List.mem_of_getElem? hr) a hfound⟩
      | placed _ ip _ hfits => exact ⟨_, rfl, hfits⟩
      | refused => exact absurd (List.mem_of_getElem? hp) haccepted
      | _ => cases hfinished
    · obtain ⟨r, _, hr, _, hstands⟩ := h.exists_call (List.getElem?_eq_getElem hi)
      obtain ⟨r', _, hr', _, hstands'⟩ := h.exists_call (List.getElem?_eq_getElem hj)
      obtain ⟨hmem, hsubnet, hdevice⟩ := hstands.row ha
      obtain ⟨hmem', hsubnet', hdevice'⟩ := hstands'.row hb
      obtain rfl := Relation.eq_of_clash hmem hmem' (.inr (.inr ⟨hsubnet.trans hsubnet'.symm, hip⟩))
      have hsame := index_eq_of_nodup hset.devices hr hr' (hdevice.symm.trans hdevice')
      omega

/-- Calls for different devices are all placed just where each lists the attachments while no other
one is about to insert, and those that find a row find one that fits. -/
theorem allPlaced_iff_takesTurns (h : Setting s₀ subnet range requests) {schedule : List Nat}
    (hexec : exec AttachWorld.step (AttachWorld.start s₀ networkId subnet.subnetId requests)
      schedule = some w) :
    (∀ c ∈ w.calls, c.taken ≤ 6) ∧ ((∀ c ∈ w.calls, c.finished = true) →
      (w.AllPlaced subnet ↔
        execGuarded AttachWorld.TakesTurns AttachWorld.step
          (AttachWorld.start s₀ networkId subnet.subnetId requests) schedule = some w ∧
        ∀ r ∈ requests, ∀ a, s₀.attachmentBySubnetDevice subnet.subnetId r.deviceId = some a →
          Fits subnet a.virtualIp)) := by
  have hrange := sound_of_range h.allocates
  have hstart := h.related hrange networkId
  have hsim : ∀ w race i w', Related s₀ networkId subnet range hrange requests w race →
      w.step i = some w' → (Related s₀ networkId subnet range hrange requests w' race ∧
        w.TakesTurns i) ∨ ∃ e race', Race.step (addressChooser range hrange) race e = some race' ∧
          Related s₀ networkId subnet range hrange requests w' race' ∧
          (w.TakesTurns i ↔ Race.TakesTurns race e) :=
    fun w race i w' hrel hstep => hrel.step h hstep
  obtain ⟨es, race, hrace, hrel, hguard⟩ := exec_simulation _ hsim hstart hexec
  refine ⟨fun c hc => ?_, fun hdone => ?_⟩
  · obtain ⟨i, hi⟩ := List.mem_iff_getElem?.mp hc
    obtain ⟨_, _, _, _, hstands⟩ := hrel.exists_call hi
    exact hstands.taken_le
  · have hsettled : ∀ party ∈ race.parties, Race.isPending party = false := by
      intro party hparty
      obtain ⟨i, hi⟩ := List.mem_iff_getElem?.mp hparty
      obtain ⟨hlt, _⟩ := List.getElem?_eq_some_iff.mp hi
      rw [hrel.partyCount, ← hrel.callCount] at hlt
      obtain ⟨r, party', _, hp, hstands⟩ := hrel.exists_call (List.getElem?_eq_getElem hlt)
      obtain rfl := Option.some.inj (hi.symm.trans hp)
      have hfinished := hstands.finished.symm.trans (hdone _ (List.getElem_mem hlt))
      rwa [Bool.not_eq_true'] at hfinished
    rw [hguard, ← Race.exec_iff_takesTurns hstart.kept clean_raceFor hrace hsettled]
    exact hrel.allPlaced_iff h hdone

end Simulation

/-! ## Two devices that are attached at the same time -/

section TwoCalls

def smallSubnet : Subnet :=
  ⟨"subnet-1", "net-1", "default", "10.0.0.0/29", "10.0.0.1", "10.0.0.2", "10.0.0.6", true,
    "active"⟩

def smallRange : SubnetRange := ⟨⟨0x0a000000#32, 29, by decide⟩, 0x0a000002#32, 0x0a000006#32⟩

/-- A network with five addresses to give, and two members without one. -/
def smallNetwork : Store :=
  { (∅ : Store) with
    networks := .ofRows [⟨"net-1", "owner-1", "home", "", "subnet-1", "10.0.0.0/29", ""⟩]
    subnets := .ofRows [smallSubnet]
    members := .ofRows [⟨"member-2", "net-1", "dev-2", .member, 0, "active"⟩,
      ⟨"member-3", "net-1", "dev-3", .member, 0, "active"⟩] }

def twoRequests : List AttachRequest := [⟨.ofDigits "2" (.refl true), "dev-2"⟩, ⟨.ofDigits "3" (.refl true), "dev-3"⟩]

def twoCalls : AttachWorld := .start smallNetwork "net-1" "subnet-1" twoRequests

theorem setting_twoCalls : Setting smallNetwork smallSubnet smallRange twoRequests where
  stored := by decide
  allocates := by decide
  devices := by decide
  drawn := by decide
  unused _ _ a ha := absurd ha (Relation.not_mem_empty a)
  room := by decide

/-- The second call lists the attachments before the first one inserts its own. -/
def overlapping : List Nat := [0, 0, 0, 1, 1, 1, 0, 0, 1, 1]

def inTurn : List Nat := [0, 0, 0, 0, 0, 1, 1, 1, 1, 1]

def Running.succeeded (c : Running) : Bool :=
  match c.rest with
  | .ret (.ok _) => true
  | _ => false

theorem AttachWorld.AllPlaced.succeeded {w : AttachWorld} {subnet : Subnet}
    (h : w.AllPlaced subnet) : ∀ c ∈ w.calls, c.succeeded = true := by
  intro c hc
  obtain ⟨a, ha, _⟩ := h.placed c hc
  unfold Running.succeeded
  rw [ha]

/-- Of two calls that list the same attachments one fails, though there is room for both. -/
theorem overlapping_call_fails :
    ¬ ∀ (s : Store) (networkId : String) (subnet : Subnet) (range : SubnetRange)
      (requests : List AttachRequest) (schedule : List Nat) (w : AttachWorld),
      Setting s subnet range requests →
      exec AttachWorld.step (.start s networkId subnet.subnetId requests) schedule = some w →
      (∀ c ∈ w.calls, c.finished = true) → w.AllPlaced subnet := by
  intro h
  let w := execD AttachWorld.step twoCalls overlapping
  have hexec : exec AttachWorld.step twoCalls overlapping = some w :=
    exec_eq_execD (by decide)
  have hdone : ∀ c ∈ w.calls, c.finished = true := by decide +kernel
  have hall := h _ _ _ _ _ _ w setting_twoCalls hexec hdone
  have hnot : ¬ ∀ c ∈ w.calls, c.succeeded = true := by decide
  exact hnot hall.succeeded

/-- One after the other, both calls succeed. -/
theorem calls_inTurn :
    ∃ w : AttachWorld, execGuarded AttachWorld.TakesTurns AttachWorld.step twoCalls inTurn =
      some w ∧ w.calls.length = 2 ∧ w.AllPlaced smallSubnet := by
  let w := execD (fun w i => if AttachWorld.TakesTurns w i then AttachWorld.step w i else none)
    twoCalls inTurn
  have hguarded : execGuarded AttachWorld.TakesTurns AttachWorld.step twoCalls inTurn = some w :=
    exec_eq_execD (by decide)
  have hdone : ∀ c ∈ w.calls, c.finished = true := by decide
  have hiff := (allPlaced_iff_takesTurns setting_twoCalls (exec_of_execGuarded hguarded)).2 hdone
  refine ⟨w, hguarded, by decide, hiff.mpr ⟨hguarded, fun r _ a ha => ?_⟩⟩
  exact absurd (Relation.mem_of_find? ha) (Relation.not_mem_empty a)

end TwoCalls

end Slan.Networks
