import Mathlib.Data.List.NodupEquivFin
import Slan.Lib.Transition
import Slan.Client.DerpPoolCalls

/-! # Runs of a DERP pool: the active node, the flags of the links, and the epoch -/

namespace Slan.Client

open Transition

inductive DerpPoolAction where
  | installCluster (clusterId : String) (nodes : List DerpNodeMeta) (ticket : RelayTicket)
    (fresh : DerpLinkSnapshot) (nowMs : Nat)
  | warmUp (clients : Nat → DerpClient) (fanout : Nat)
  | send (clients : Nat → DerpClient) (packet : List UInt8)
  | poll (clients : Nat → DerpClient)
  | tick (clients : Nat → DerpClient)
  | maybeSwitch (nowMs : Nat)
  | forceSwitch (clients : Nat → DerpClient) (target : String) (reason : SwitchReason)
    (nowMs : Nat)
  | close (clients : Nat → DerpClient)

namespace InMemoryDerpPool

variable {pool : InMemoryDerpPool}

def after (pool : InMemoryDerpPool) : DerpPoolAction → InMemoryDerpPool
  | .installCluster clusterId nodes ticket fresh nowMs =>
    pool.installCluster clusterId nodes ticket fresh nowMs
  | .warmUp clients fanout => (pool.warmUp clients fanout).2
  | .send clients packet => (pool.sendTransportPacketViaActive clients packet).2
  | .poll clients => (pool.pollTransportPacketViaActive clients).2
  | .tick clients => pool.tickHealthCheck clients
  | .maybeSwitch nowMs => (pool.maybeSwitch nowMs).2
  | .forceSwitch clients target reason nowMs => (pool.forceSwitch clients target reason nowMs).2
  | .close clients => (pool.close clients).2

def step (pool : InMemoryDerpPool) (a : DerpPoolAction) (next : InMemoryDerpPool) : Prop :=
  next = pool.after a

/-! ## The property -/

/-- With an active node exactly one link is flagged, a usable one of that node, and without none
is. -/
structure Consistent (pool : InMemoryDerpPool) : Prop where
  active : ∀ nodeId, pool.activeNodeId = some nodeId →
    ∃ link, pool.collectSnapshots.filter DerpLinkSnapshot.isActive = [link] ∧
      link.nodeMeta.nodeId = nodeId ∧ link.usable = true
  inactive : pool.activeNodeId = none →
    pool.collectSnapshots.filter DerpLinkSnapshot.isActive = []

/-- The epoch grows exactly where the active node changes. -/
def Counts (pool next : InMemoryDerpPool) : Prop :=
  pool.switchEpoch < next.switchEpoch ↔ next.activeNodeId ≠ pool.activeNodeId

def nodeIds (links : List ManagedLink) : List String := links.map fun link => link.nodeMeta.nodeId

/-- The links of a node can be used. -/
def Usable (links : List ManagedLink) (nodeId : String) : Prop :=
  ∀ (i : Nat) (link : ManagedLink), links[i]? = some link → link.nodeMeta.nodeId = nodeId →
    link.client.usable = true

theorem filter_collectSnapshots {nodeId : String} (h : pool.activeNodeId = some nodeId) :
    pool.collectSnapshots.filter DerpLinkSnapshot.isActive =
      (pool.links.filter fun link => link.nodeMeta.nodeId == nodeId).map fun link =>
        link.snapshot (pool.activeNodeId == some link.nodeMeta.nodeId) := by
  rw [DerpPoolState.collectSnapshots, List.filter_map]
  congr 1
  refine List.filter_congr fun link _ => ?_
  change (pool.activeNodeId == some link.nodeMeta.nodeId) = _
  rw [h, Bool.eq_iff_iff, beq_iff_eq, beq_iff_eq, Option.some.injEq]
  exact eq_comm

theorem count_nodeIds (links : List ManagedLink) (nodeId : String) :
    (nodeIds links).count nodeId =
      (links.filter fun link => link.nodeMeta.nodeId == nodeId).length := by
  rw [nodeIds, List.count, List.countP_map, List.countP_eq_length_filter]
  rfl

theorem consistent_iff : pool.Consistent ↔ ∀ nodeId, pool.activeNodeId = some nodeId →
    (nodeIds pool.links).count nodeId = 1 ∧ Usable pool.links nodeId := by
  constructor
  · intro h nodeId hactive
    obtain ⟨snapshot, hfilter, -, husable⟩ := h.active nodeId hactive
    rw [filter_collectSnapshots hactive] at hfilter
    obtain ⟨link, hlink, hsnapshot⟩ := List.map_eq_singleton_iff.mp hfilter
    constructor
    · rw [count_nodeIds, hlink]
      rfl
    · intro i other hother hid
      -- the one active snapshot is that of every link of the node
      have hmem : other ∈ pool.links.filter fun link => link.nodeMeta.nodeId == nodeId :=
        List.mem_filter.mpr ⟨List.mem_of_getElem? hother, beq_iff_eq.mpr hid⟩
      rw [hlink, List.mem_singleton] at hmem
      rw [hmem, ← ManagedLink.snapshot_usable, hsnapshot]
      exact husable
  · intro h
    refine ⟨fun nodeId hactive => ?_, fun hnone => ?_⟩
    · obtain ⟨hcount, husable⟩ := h nodeId hactive
      rw [count_nodeIds] at hcount
      obtain ⟨link, hlink⟩ := List.length_eq_one_iff.mp hcount
      have hmem : link ∈ pool.links.filter fun link => link.nodeMeta.nodeId == nodeId := by
        rw [hlink]
        exact List.mem_singleton.mpr rfl
      obtain ⟨hin, hid⟩ := List.mem_filter.mp hmem
      obtain ⟨i, hi⟩ := List.mem_iff_getElem?.mp hin
      refine ⟨link.snapshot (pool.activeNodeId == some link.nodeMeta.nodeId), ?_,
        beq_iff_eq.mp hid, ?_⟩
      · rw [filter_collectSnapshots hactive, hlink]
        rfl
      · rw [ManagedLink.snapshot_usable]
        exact husable i link hi (beq_iff_eq.mp hid)
    · refine List.filter_eq_nil_iff.mpr fun snapshot hmem => ?_
      obtain ⟨link, -, rfl⟩ := List.mem_map.mp hmem
      change ¬(pool.activeNodeId == some link.nodeMeta.nodeId) = true
      rw [hnone]
      exact Bool.false_ne_true

/-! ## Which operations keep it -/

/-- The client of the first `n` links closes. -/
def Closes (clients : Nat → DerpClient) (n : Nat) : Prop :=
  ∀ idx < n, (clients idx).close.result = .ok ()

/-- An operation that leaves the flags right and counts a change of the active node. -/
def Steady (pool : InMemoryDerpPool) : DerpPoolAction → Prop
  | .installCluster _ _ _ _ _ => pool.activeNodeId = none
  | .warmUp clients fanout => ∀ ticket links, pool.links ≠ [] → pool.ticket = some ticket →
    warmLinks clients ticket (min (max fanout 1) pool.links.length) 0 pool.links =
      (.ok (), links) → chosenNode { pool with links } = pool.activeNodeId
  | .send clients packet => packet ≠ [] → ∀ idx nodeId, pool.activeNodeId = some nodeId →
    pool.position nodeId = some idx → ((clients idx).sendTransportPacket packet).client.usable
  | .poll clients => ∀ idx nodeId, pool.activeNodeId = some nodeId →
    pool.position nodeId = some idx → (clients idx).pollTransportPacket.client.usable
  | .tick clients => ∀ idx nodeId, pool.activeNodeId = some nodeId → pool.nodeAt idx = some nodeId →
    (clients idx).probe.client.usable
  | .maybeSwitch _ => ∀ target, pool.chosenNode = some target → pool.activeNodeId ≠ some target →
    (nodeIds pool.links).count target = 1 ∧ pool.switchEpoch.toNat + 1 < 2 ^ 64
  | .forceSwitch clients target _ _ => ∀ ticket idx link link', pool.ticket = some ticket →
    pool.position target = some idx → pool.links[idx]? = some link →
    link.ensureLinkReady (clients idx) ticket = (.ok (), link') →
      (nodeIds pool.links).count target = 1 ∧ link'.client.usable = true ∧
        (pool.switchEpoch.toNat + 1 < 2 ^ 64 ↔ pool.activeNodeId ≠ some target)
  | .close clients =>
    (Closes clients pool.links.length → pool.activeNodeId = none) ∧
    (¬Closes clients pool.links.length → ∀ idx nodeId, pool.activeNodeId = some nodeId →
      pool.nodeAt idx = some nodeId → Closes clients idx → (clients idx).close.client.usable)

/-! ## Links -/

theorem getElem?_nodeIds (links : List ManagedLink) (i : Nat) :
    (nodeIds links)[i]? = links[i]?.map fun link => link.nodeMeta.nodeId := List.getElem?_map

/-- Links that change in place belong to the same nodes. -/
theorem nodeIds_eq {links links' : List ManagedLink} {f : Nat → ManagedLink → ManagedLink}
    (h : ∀ i, links'[i]? = links[i]?.map (f i))
    (hf : ∀ i link, (f i link).nodeMeta = link.nodeMeta) : nodeIds links' = nodeIds links := by
  refine List.ext_getElem? fun i => ?_
  rw [getElem?_nodeIds, getElem?_nodeIds, h, Option.map_map]
  congr 1
  funext link
  exact congrArg DerpNodeMeta.nodeId (hf i link)

theorem eq_of_count_eq_one {ids : List String} {nodeId : String} (h : ids.count nodeId = 1)
    {i j : Nat} (hi : ids[i]? = some nodeId) (hj : ids[j]? = some nodeId) : i = j := by
  obtain ⟨hilt, hi⟩ := List.getElem?_eq_some_iff.mp hi
  obtain ⟨hjlt, hj⟩ := List.getElem?_eq_some_iff.mp hj
  by_contra hne
  have hdup : List.Duplicate nodeId ids := by
    rw [List.duplicate_iff_exists_distinct_get]
    rcases Nat.lt_or_gt_of_ne hne with hlt | hlt
    · exact ⟨⟨i, hilt⟩, ⟨j, hjlt⟩, hlt, hi.symm, hj.symm⟩
    · exact ⟨⟨j, hjlt⟩, ⟨i, hilt⟩, hlt, hj.symm, hi.symm⟩
  have htwo := List.duplicate_iff_two_le_count.mp hdup
  omega

theorem position_spec {nodeId : String} {idx : Nat} (h : pool.position nodeId = some idx) :
    ∃ link : ManagedLink, pool.links[idx]? = some link ∧ link.nodeMeta.nodeId = nodeId := by
  obtain ⟨hlt, hid, -⟩ := List.findIdx?_eq_some_iff_getElem.mp h
  exact ⟨pool.links[idx], List.getElem?_eq_getElem hlt, beq_iff_eq.mp hid⟩

/-- The chosen node is that of a usable link, and no usable link has a smaller score. -/
theorem chosenNode_spec {nodeId : String} (h : pool.chosenNode = some nodeId) :
    ∃ (i : Nat) (link : ManagedLink), pool.links[i]? = some link ∧
      link.nodeMeta.nodeId = nodeId ∧ link.client.usable = true ∧
      ∀ other ∈ pool.links, other.client.usable = true → link.score ≤ other.score := by
  obtain ⟨i, hi, hnode⟩ := Option.bind_eq_some_iff.mp h
  obtain ⟨link, hlink, hid⟩ := Option.map_eq_some_iff.mp hnode
  obtain ⟨snapshot, hsnapshot, husable, hmin⟩ := chooseActiveIndex_spec hi
  rw [DerpPoolState.getElem?_collectSnapshots, hlink, Option.map_some, Option.some.injEq]
    at hsnapshot
  subst hsnapshot
  rw [ManagedLink.snapshot_usable] at husable
  refine ⟨i, link, hlink, hid, husable, fun other hother hoth => ?_⟩
  have hle := hmin (other.snapshot (pool.activeNodeId == some other.nodeMeta.nodeId))
    (List.mem_map.mpr ⟨other, hother, rfl⟩) (by rw [ManagedLink.snapshot_usable]; exact hoth)
  rwa [ManagedLink.snapshot_score, ManagedLink.snapshot_score] at hle

/-- Where a link is usable, one is chosen. -/
theorem chosenNode_isSome {link : ManagedLink} (hmem : link ∈ pool.links)
    (husable : link.client.usable = true) : ∃ nodeId, pool.chosenNode = some nodeId := by
  have hsnapshot : link.snapshot (pool.activeNodeId == some link.nodeMeta.nodeId) ∈
      pool.collectSnapshots := List.mem_map.mpr ⟨link, hmem, rfl⟩
  obtain ⟨k, hk⟩ := List.mem_iff_getElem?.mp hsnapshot
  cases hchosen : chooseActiveIndex pool.collectSnapshots with
  | none =>
    rw [chooseActiveIndex, Option.map_eq_none_iff, List.argmin_eq_none] at hchosen
    have hnot := List.filter_eq_nil_iff.mp hchosen
      (link.snapshot (pool.activeNodeId == some link.nodeMeta.nodeId), k)
      (List.mem_zipIdx_iff_getElem?.mpr hk)
    rw [ManagedLink.snapshot_usable] at hnot
    exact absurd husable hnot
  | some i =>
    obtain ⟨snapshot, hi, -, -⟩ := chooseActiveIndex_spec hchosen
    rw [DerpPoolState.getElem?_collectSnapshots] at hi
    obtain ⟨chosen, hlink, -⟩ := Option.map_eq_some_iff.mp hi
    refine ⟨chosen.nodeMeta.nodeId, ?_⟩
    rw [chosenNode, hchosen, Option.bind_some, nodeAt, hlink]
    rfl

theorem usable_of_chosenNode {nodeId : String} (h : pool.chosenNode = some nodeId)
    (hcount : (nodeIds pool.links).count nodeId = 1) : Usable pool.links nodeId := by
  obtain ⟨i, link, hlink, hid, husable, -⟩ := chosenNode_spec h
  intro j other hother hoth
  have hij : i = j := by
    refine eq_of_count_eq_one hcount ?_ ?_
    · rw [getElem?_nodeIds, hlink, ← hid]
      rfl
    · rw [getElem?_nodeIds, hother, ← hoth]
      rfl
  subst hij
  rw [hlink, Option.some.injEq] at hother
  rwa [← hother]

/-! ## One operation -/

theorem counts_of_eq {next : InMemoryDerpPool} (hactive : next.activeNodeId = pool.activeNodeId)
    (hepoch : next.switchEpoch = pool.switchEpoch) : pool.Counts next := by
  rw [Counts, hactive, hepoch]
  exact iff_of_false (UInt64.lt_irrefl _) fun h => h rfl

theorem switchEpoch_lt_iff (pool : InMemoryDerpPool) :
    pool.switchEpoch < pool.switchEpoch + 1 ↔ pool.switchEpoch.toNat + 1 < 2 ^ 64 := by
  rw [UInt64.lt_iff_toNat_lt, UInt64.toNat_add]
  have := pool.switchEpoch.toNat_lt
  change pool.switchEpoch.toNat < (pool.switchEpoch.toNat + 1) % 2 ^ 64 ↔ _
  omega

/-- What an operation may do to the links where the active node and the epoch stay. -/
theorem consistent_and_counts_iff (h : pool.Consistent) (next : InMemoryDerpPool)
    (hactive : next.activeNodeId = pool.activeNodeId) (hepoch : next.switchEpoch = pool.switchEpoch)
    (hids : nodeIds next.links = nodeIds pool.links) :
    (next.Consistent ∧ pool.Counts next) ↔
      ∀ nodeId, pool.activeNodeId = some nodeId → Usable next.links nodeId := by
  have hcounts := counts_of_eq hactive hepoch
  rw [consistent_iff, hactive, hids]
  constructor
  · rintro ⟨hnext, -⟩ nodeId hnode
    exact (hnext nodeId hnode).2
  · intro husable
    refine ⟨fun nodeId hnode => ?_, hcounts⟩
    exact ⟨(consistent_iff.mp h nodeId hnode).1, husable nodeId hnode⟩

theorem installCluster_iff (clusterId : String) (nodes : List DerpNodeMeta) (ticket : RelayTicket)
    (fresh : DerpLinkSnapshot) (nowMs : Nat) :
    pool.activeNodeId = none ↔
      (pool.installCluster clusterId nodes ticket fresh nowMs).Consistent ∧
        pool.Counts (pool.installCluster clusterId nodes ticket fresh nowMs) := by
  have hconsistent : (pool.installCluster clusterId nodes ticket fresh nowMs).Consistent :=
    consistent_iff.mpr fun nodeId hnode => nomatch hnode
  have hnot : ¬pool.switchEpoch < 0 := by
    rw [UInt64.lt_iff_toNat_lt]
    exact Nat.not_lt_zero _
  change _ ↔ _ ∧ (pool.switchEpoch < 0 ↔ none ≠ pool.activeNodeId)
  constructor
  · intro hnone
    exact ⟨hconsistent, iff_of_false hnot fun hne => hne hnone.symm⟩
  · rintro ⟨-, hcounts⟩
    by_contra hne
    exact hnot (hcounts.mpr fun heq => hne heq.symm)

theorem called_iff (h : pool.Consistent) {nodeId : String} {idx : Nat}
    (hactive : pool.activeNodeId = some nodeId) (hidx : pool.position nodeId = some idx)
    (client : DerpLinkSnapshot) :
    ((pool.called idx client).Consistent ∧ pool.Counts (pool.called idx client)) ↔
      client.usable = true := by
  have hlinks : ∀ i, (pool.called idx client).links[i]? = pool.links[i]?.map fun link =>
      if idx = i then { link with client } else link :=
    fun i => List.getElem?_modify _ _ _ _
  have hids : nodeIds (pool.called idx client).links = nodeIds pool.links :=
    nodeIds_eq hlinks fun i link => by split <;> rfl
  rw [consistent_and_counts_iff h (pool.called idx client) rfl rfl hids, hactive]
  simp only [Option.some.injEq, forall_eq']
  obtain ⟨link, hlink, hid⟩ := position_spec hidx
  constructor
  · intro husable
    have hnew := hlinks idx
    rw [hlink, Option.map_some, if_pos rfl] at hnew
    exact husable idx _ hnew hid
  · intro hclient i other hother hoth
    rw [hlinks] at hother
    obtain ⟨old, hold, rfl⟩ := Option.map_eq_some_iff.mp hother
    by_cases hi : idx = i
    · rw [if_pos hi]
      exact hclient
    · rw [if_neg hi] at hoth ⊢
      exact (consistent_iff.mp h nodeId hactive).2 i old hold hoth

theorem callActive_iff {α : Type} (h : pool.Consistent) (call : Nat → ClientCall α) :
    (∀ idx nodeId, pool.activeNodeId = some nodeId → pool.position nodeId = some idx →
      (call idx).client.usable) ↔
    (pool.callActive call).2.Consistent ∧ pool.Counts (pool.callActive call).2 := by
  by_cases hcalled : ∃ nodeId idx, pool.activeNodeId = some nodeId ∧
      pool.position nodeId = some idx
  · obtain ⟨nodeId, idx, hactive, hidx⟩ := hcalled
    have hcall : (pool.callActive call).2 = pool.called idx (call idx).client := by
      rw [callActive]
      simp only [hactive, hidx]
    rw [hcall, called_iff h hactive hidx]
    constructor
    · intro hall
      exact hall idx nodeId hactive hidx
    · intro husable idx' nodeId' hactive' hidx'
      obtain rfl := Option.some.inj (hactive.symm.trans hactive')
      obtain rfl := Option.some.inj (hidx.symm.trans hidx')
      exact husable
  · have hcall : (pool.callActive call).2 = pool := by
      rw [callActive]
      split
      · rfl
      · rename_i nodeId hactive
        split
        · rfl
        · rename_i idx hidx
          exact absurd ⟨nodeId, idx, hactive, hidx⟩ hcalled
    rw [hcall]
    refine iff_of_true (fun idx nodeId hactive hidx => ?_) ⟨h, counts_of_eq rfl rfl⟩
    exact absurd ⟨nodeId, idx, hactive, hidx⟩ hcalled

theorem send_iff (h : pool.Consistent) (clients : Nat → DerpClient) (packet : List UInt8) :
    Steady pool (.send clients packet) ↔
      (pool.after (.send clients packet)).Consistent ∧
        pool.Counts (pool.after (.send clients packet)) := by
  rw [after, sendTransportPacketViaActive]
  by_cases hpacket : packet = []
  · rw [if_pos hpacket]
    exact iff_of_true (fun hne => absurd hpacket hne) ⟨h, counts_of_eq rfl rfl⟩
  · rw [if_neg hpacket, Steady, imp_iff_right hpacket]
    exact callActive_iff h fun idx => (clients idx).sendTransportPacket packet

theorem tick_iff (h : pool.Consistent) (clients : Nat → DerpClient) :
    Steady pool (.tick clients) ↔ (pool.tickHealthCheck clients).Consistent ∧
      pool.Counts (pool.tickHealthCheck clients) := by
  have hlinks : ∀ i, (pool.tickHealthCheck clients).links[i]? =
      pool.links[i]?.map fun link : ManagedLink => link.tick (clients i) :=
    fun i => List.getElem?_mapIdx
  have hmeta : ∀ (link : ManagedLink) client, (link.tick client).nodeMeta = link.nodeMeta := by
    intro link client
    unfold ManagedLink.tick
    grind
  have hclient : ∀ (link : ManagedLink) client, link.client.usable = true →
      (link.tick client).client = client.probe.client := by
    intro link client husable
    unfold ManagedLink.tick
    grind
  have hids := nodeIds_eq hlinks fun i link => hmeta link (clients i)
  rw [consistent_and_counts_iff h (pool.tickHealthCheck clients) rfl rfl hids]
  constructor
  · intro hsteady nodeId hactive i link hlink hid
    rw [hlinks] at hlink
    obtain ⟨old, hold, rfl⟩ := Option.map_eq_some_iff.mp hlink
    rw [hmeta] at hid
    rw [hclient old _ ((consistent_iff.mp h nodeId hactive).2 i old hold hid)]
    exact hsteady i nodeId hactive (by rw [nodeAt, hold, ← hid]; rfl)
  · intro husable idx nodeId hactive hnode
    obtain ⟨link, hlink, hid⟩ := Option.map_eq_some_iff.mp hnode
    have hnew := husable nodeId hactive idx (link.tick (clients idx))
      (by rw [hlinks, hlink]; rfl) (by rw [hmeta]; exact hid)
    rwa [hclient link _ ((consistent_iff.mp h nodeId hactive).2 idx link hlink hid)] at hnew

/-- A switch to a node counts, if the epoch does not wrap and the node is another one. -/
theorem switch_counts_iff (next : InMemoryDerpPool) {target : String}
    (hactive : next.activeNodeId = some target)
    (hepoch : next.switchEpoch = pool.switchEpoch + 1) :
    pool.Counts next ↔
      (pool.switchEpoch.toNat + 1 < 2 ^ 64 ↔ pool.activeNodeId ≠ some target) := by
  rw [Counts, hactive, hepoch, switchEpoch_lt_iff]
  exact iff_congr Iff.rfl ne_comm

theorem maybeSwitch_iff (h : pool.Consistent) (nowMs : Nat) :
    Steady pool (.maybeSwitch nowMs) ↔ (pool.maybeSwitch nowMs).2.Consistent ∧
      pool.Counts (pool.maybeSwitch nowMs).2 := by
  have hsame : pool.Consistent ∧ pool.Counts pool := ⟨h, counts_of_eq rfl rfl⟩
  unfold maybeSwitch
  rw [Steady]
  cases hchosen : pool.chosenNode with
  | none => exact iff_of_true nofun hsame
  | some target =>
    simp only [Option.some.injEq, forall_eq']
    by_cases hactive : pool.activeNodeId = some target
    · rw [if_pos hactive]
      exact iff_of_true (fun hne => absurd hactive hne) hsame
    · rw [if_neg hactive, imp_iff_right hactive, switch_counts_iff _ rfl rfl, consistent_iff]
      simp only [Option.some.injEq, forall_eq', ne_eq, hactive, not_false_eq_true, iff_true]
      exact and_congr_left fun _ =>
        ⟨fun hcount => ⟨hcount, usable_of_chosenNode hchosen hcount⟩, fun hboth => hboth.1⟩

/-! ### Links made ready -/

theorem ensureLinkReady_nodeMeta (link : ManagedLink) (client : DerpClient)
    (ticket : RelayTicket) : (link.ensureLinkReady client ticket).2.nodeMeta = link.nodeMeta := by
  unfold ManagedLink.ensureLinkReady
  grind

theorem ensureLinkReady_of_usable {link : ManagedLink} (h : link.client.usable = true)
    (client : DerpClient) (ticket : RelayTicket) :
    link.ensureLinkReady client ticket = (.ok (), { link with lastError := none }) := by
  rw [ManagedLink.ensureLinkReady, if_pos h]

/-- A link put in the place of one of the same node. -/
theorem nodeIds_set {links : List ManagedLink} {idx : Nat} {link link' : ManagedLink}
    (hlink : links[idx]? = some link) (hmeta : link'.nodeMeta = link.nodeMeta) :
    nodeIds (links.set idx link') = nodeIds links := by
  refine List.ext_getElem? fun i => ?_
  rw [getElem?_nodeIds, getElem?_nodeIds, List.getElem?_set']
  by_cases hi : idx = i
  · rw [if_pos hi, ← hi, hlink]
    exact congrArg (fun m : DerpNodeMeta => some m.nodeId) hmeta
  · rw [if_neg hi]

theorem usable_set_iff {links : List ManagedLink} {idx : Nat} {link link' : ManagedLink}
    {target : String} (hlink : links[idx]? = some link) (hid : link.nodeMeta.nodeId = target)
    (hmeta : link'.nodeMeta = link.nodeMeta) (hcount : (nodeIds links).count target = 1) :
    Usable (links.set idx link') target ↔ link'.client.usable = true := by
  have hget : (links.set idx link')[idx]? = some link' := by
    rw [List.getElem?_set', if_pos rfl, hlink]
    rfl
  constructor
  · intro husable
    exact husable idx link' hget (hmeta ▸ hid)
  · intro husable i other hother hoth
    have hidx : idx = i := by
      refine eq_of_count_eq_one hcount ?_ ?_
      · rw [getElem?_nodeIds, hlink, ← hid]
        rfl
      · rw [← nodeIds_set hlink hmeta, getElem?_nodeIds, hother, ← hoth]
        rfl
    rw [← hidx, hget, Option.some.injEq] at hother
    rwa [← hother]

/-- A switch that is forced to a link which gets ready. -/
def forced (pool : InMemoryDerpPool) (idx : Nat) (link : ManagedLink) (target : String) :
    InMemoryDerpPool :=
  { pool with
    links := pool.links.set idx link
    activeNodeId := some target
    switchEpoch := pool.switchEpoch + 1 }

theorem forceSwitch_snd {ticket : RelayTicket} {target : String} {idx : Nat} {link : ManagedLink}
    (hticket : pool.ticket = some ticket) (hidx : pool.position target = some idx)
    (hlink : pool.links[idx]? = some link) (clients : Nat → DerpClient) (reason : SwitchReason)
    (nowMs : Nat) {result : Except String Unit} {link' : ManagedLink}
    (hready : link.ensureLinkReady (clients idx) ticket = (result, link')) :
    (pool.forceSwitch clients target reason nowMs).2 =
      match result with
      | .error _ => { pool with links := pool.links.set idx link' }
      | .ok () => pool.forced idx link' target := by
  rw [forceSwitch]
  split
  · rename_i hnone
    cases hticket.symm.trans hnone
  · rename_i ticket' hsome
    obtain rfl := Option.some.inj (hticket.symm.trans hsome)
    simp only [hidx, hlink, Option.map_some, hready]
    cases result <;> rfl

theorem forceSwitch_refused {target : String}
    (h : ¬∃ ticket idx, pool.ticket = some ticket ∧ pool.position target = some idx)
    (clients : Nat → DerpClient) (reason : SwitchReason) (nowMs : Nat) :
    (pool.forceSwitch clients target reason nowMs).2 = pool := by
  rw [forceSwitch]
  cases hticket : pool.ticket with
  | none => rfl
  | some ticket =>
    cases hidx : pool.position target with
    | none => rfl
    | some idx => exact absurd ⟨ticket, idx, hticket, hidx⟩ h

theorem forced_iff {idx : Nat} {link link' : ManagedLink} {target : String}
    (hlink : pool.links[idx]? = some link) (hid : link.nodeMeta.nodeId = target)
    (hmeta : link'.nodeMeta = link.nodeMeta) :
    ((pool.forced idx link' target).Consistent ∧ pool.Counts (pool.forced idx link' target)) ↔
      (nodeIds pool.links).count target = 1 ∧ link'.client.usable = true ∧
        (pool.switchEpoch.toNat + 1 < 2 ^ 64 ↔ pool.activeNodeId ≠ some target) := by
  have hconsistent : (pool.forced idx link' target).Consistent ↔
      (nodeIds pool.links).count target = 1 ∧ Usable (pool.links.set idx link') target := by
    rw [consistent_iff, ← nodeIds_set hlink hmeta]
    exact ⟨fun hall => hall target rfl, fun hboth _ heq => Option.some.inj heq ▸ hboth⟩
  rw [switch_counts_iff (pool.forced idx link' target) rfl rfl, hconsistent, and_assoc]
  refine and_congr_right fun hcount => and_congr_left fun _ => ?_
  exact usable_set_iff hlink hid hmeta hcount

/-- A link that does not get ready is not the active one. -/
theorem failed_consistent (h : pool.Consistent) {idx : Nat} {link link' : ManagedLink}
    (hlink : pool.links[idx]? = some link) (hmeta : link'.nodeMeta = link.nodeMeta)
    (hcold : link.client.usable = false) :
    let next : InMemoryDerpPool := { pool with links := pool.links.set idx link' }
    next.Consistent ∧ pool.Counts next := by
  intro next
  have hids : nodeIds next.links = nodeIds pool.links := nodeIds_set hlink hmeta
  refine (consistent_and_counts_iff h next rfl rfl hids).mpr ?_
  intro nodeId hactive i other hother hoth
  have husable := (consistent_iff.mp h nodeId hactive).2
  rw [List.getElem?_set'] at hother
  by_cases hi : idx = i
  · rw [if_pos hi, ← hi, hlink] at hother
    have heq : link' = other := Option.some.inj hother
    rw [← heq, hmeta] at hoth
    rw [husable idx link hlink hoth] at hcold
    cases hcold
  · rw [if_neg hi] at hother
    exact husable i other hother hoth

/-- The link that a switch is forced to, where it gets ready. -/
def Readies (pool : InMemoryDerpPool) (clients : Nat → DerpClient) (target : String)
    (wanted : ManagedLink → Prop) : Prop :=
  ∀ ticket idx link link', pool.ticket = some ticket → pool.position target = some idx →
    pool.links[idx]? = some link → link.ensureLinkReady (clients idx) ticket = (.ok (), link') →
      wanted link'

/-- A switch that is forced is refused, or its link does not get ready, or it is made. -/
theorem forceSwitch_cases (pool : InMemoryDerpPool) (clients : Nat → DerpClient) (target : String)
    (reason : SwitchReason) (nowMs : Nat) :
    let next := (pool.forceSwitch clients target reason nowMs).2
    (next = pool ∧ ∀ wanted, pool.Readies clients target wanted) ∨
      ∃ idx link link', pool.links[idx]? = some link ∧ link.nodeMeta.nodeId = target ∧
        link'.nodeMeta = link.nodeMeta ∧
        (link.client.usable = false ∧ next = { pool with links := pool.links.set idx link' } ∧
            (∀ wanted, pool.Readies clients target wanted) ∨
          next = pool.forced idx link' target ∧
            ∀ wanted : ManagedLink → Prop, pool.Readies clients target wanted ↔ wanted link') := by
  by_cases hfound : ∃ ticket idx, pool.ticket = some ticket ∧ pool.position target = some idx
  · obtain ⟨ticket, idx, hticket, hidx⟩ := hfound
    obtain ⟨link, hlink, hid⟩ := position_spec hidx
    rcases hready : link.ensureLinkReady (clients idx) ticket with ⟨result, link'⟩
    have hmeta := ensureLinkReady_nodeMeta link (clients idx) ticket
    rw [hready] at hmeta
    have hnext := forceSwitch_snd hticket hidx hlink clients reason nowMs hready
    have hreadies : ∀ wanted : ManagedLink → Prop,
        pool.Readies clients target wanted ↔ (result = .ok () → wanted link') := by
      intro wanted
      constructor
      · rintro hall rfl
        exact hall ticket idx link link' hticket hidx hlink hready
      · intro hwanted ticket' idx' link₁ link₂ hticket' hidx' hlink' hready'
        obtain rfl := Option.some.inj (hticket.symm.trans hticket')
        obtain rfl := Option.some.inj (hidx.symm.trans hidx')
        obtain rfl := Option.some.inj (hlink.symm.trans hlink')
        obtain ⟨rfl, rfl⟩ := Prod.mk.inj (hready.symm.trans hready')
        exact hwanted rfl
    refine .inr ⟨idx, link, link', hlink, hid, hmeta, ?_⟩
    cases result with
    | error err =>
      -- only a link that could not be used needs to be made ready, and can fail to be
      have hcold : link.client.usable = false := by
        refine Bool.eq_false_of_not_eq_true fun husable => ?_
        rw [ensureLinkReady_of_usable husable] at hready
        cases hready
      exact .inl ⟨hcold, hnext, fun wanted => (hreadies wanted).mpr nofun⟩
    | ok _ => exact .inr ⟨hnext, fun wanted => (hreadies wanted).trans (imp_iff_right rfl)⟩
  · refine .inl ⟨forceSwitch_refused hfound clients reason nowMs, ?_⟩
    intro wanted ticket idx _ _ hticket hidx
    exact absurd ⟨ticket, idx, hticket, hidx⟩ hfound

theorem forceSwitch_iff (h : pool.Consistent) (clients : Nat → DerpClient) (target : String)
    (reason : SwitchReason) (nowMs : Nat) :
    Steady pool (.forceSwitch clients target reason nowMs) ↔
      (pool.after (.forceSwitch clients target reason nowMs)).Consistent ∧
        pool.Counts (pool.after (.forceSwitch clients target reason nowMs)) := by
  change pool.Readies clients target _ ↔ _
  rw [after]
  obtain ⟨hnext, hreadies⟩ | ⟨idx, link, link', hlink, hid, hmeta, hreached⟩ :=
    forceSwitch_cases pool clients target reason nowMs
  · rw [hnext]
    exact iff_of_true (hreadies _) ⟨h, counts_of_eq rfl rfl⟩
  obtain ⟨hcold, hnext, hreadies⟩ | ⟨hnext, hreadies⟩ := hreached
  · rw [hnext]
    exact iff_of_true (hreadies _) (failed_consistent h hlink hmeta hcold)
  · rw [hnext, forced_iff hlink hid hmeta]
    exact hreadies _

/-! ### Links warmed up -/

section

variable {clients : Nat → DerpClient} {ticket : RelayTicket} {warmCount idx : Nat}
  {links : List ManagedLink}

theorem warmLinks_nodeIds : nodeIds (warmLinks clients ticket warmCount idx links).2 =
    nodeIds links := by
  induction links generalizing idx with
  | nil => rfl
  | cons link rest ih =>
    rw [warmLinks]
    split
    · have hmeta := ensureLinkReady_nodeMeta link (clients idx) ticket
      split
      · rename_i err link' hready
        rw [hready] at hmeta
        exact congrArg (fun m : DerpNodeMeta => m.nodeId :: nodeIds rest) hmeta
      · rename_i link' hready
        rw [hready] at hmeta
        exact congrArg₂ (fun (m : DerpNodeMeta) ids => m.nodeId :: ids) hmeta ih
    · exact congrArg (List.cons _) ih

theorem warmLinks_cold (h : warmCount ≤ idx) :
    (warmLinks clients ticket warmCount idx links).1 = .ok () := by
  induction links generalizing idx with
  | nil => rfl
  | cons link rest ih =>
    rw [warmLinks, if_neg (by omega)]
    exact ih (by omega)

/-- Where the warm-up fails, no usable link has been closed. -/
theorem warmLinks_error {err : String}
    (herr : (warmLinks clients ticket warmCount idx links).1 = .error err) {i : Nat}
    {link' : ManagedLink}
    (h : (warmLinks clients ticket warmCount idx links).2[i]? = some link') :
    ∃ link : ManagedLink, links[i]? = some link ∧ link'.nodeMeta = link.nodeMeta ∧
      (link.client.usable = true → link'.client.usable = true) := by
  induction links generalizing idx i with
  | nil => cases herr
  | cons link rest ih =>
    by_cases hwarm : idx < warmCount
    · rw [warmLinks, if_pos hwarm] at herr h
      have hmeta := ensureLinkReady_nodeMeta link (clients idx) ticket
      rcases hready : link.ensureLinkReady (clients idx) ticket with ⟨_ | _, ready⟩
      · rw [hready] at herr h hmeta
        cases i with
        | zero =>
          obtain rfl := Option.some.inj h
          refine ⟨link, rfl, hmeta, fun husable => ?_⟩
          rw [ensureLinkReady_of_usable husable] at hready
          cases hready
        | succ i => exact ⟨link', h, rfl, id⟩
      · rw [hready] at herr h hmeta
        cases i with
        | zero =>
          obtain rfl := Option.some.inj h
          refine ⟨link, rfl, hmeta, fun husable => ?_⟩
          rw [ensureLinkReady_of_usable husable] at hready
          obtain ⟨-, rfl⟩ := Prod.mk.inj hready
          exact husable
        | succ i => exact ih herr h
    · have hok : (warmLinks clients ticket warmCount idx (link :: rest)).1 = .ok () :=
        warmLinks_cold (Nat.le_of_not_lt hwarm)
      rw [hok] at herr
      cases herr

end

theorem warmUp_iff (h : pool.Consistent) (clients : Nat → DerpClient) (fanout : Nat) :
    Steady pool (.warmUp clients fanout) ↔
      (pool.after (.warmUp clients fanout)).Consistent ∧
        pool.Counts (pool.after (.warmUp clients fanout)) := by
  have hsame : pool.Consistent ∧ pool.Counts pool := ⟨h, counts_of_eq rfl rfl⟩
  rw [Steady, after, warmUp]
  by_cases hnil : pool.links = []
  · rw [if_pos hnil]
    exact iff_of_true (fun _ _ hne => absurd hnil hne) hsame
  · rw [if_neg hnil]
    split
    · rename_i hnone
      exact iff_of_true (fun _ _ _ hsome => nomatch hnone.symm.trans hsome) hsame
    · rename_i ticket hticket
      dsimp only
      have hids : nodeIds (warmLinks clients ticket (min (max fanout 1) pool.links.length) 0
          pool.links).2 = nodeIds pool.links := warmLinks_nodeIds
      rcases hrun : warmLinks clients ticket (min (max fanout 1) pool.links.length) 0 pool.links
        with ⟨err | _, links⟩
      · rw [hrun] at hids
        dsimp only at hids ⊢
        have hiff := consistent_and_counts_iff h { pool with links } rfl rfl hids
        -- an error leaves the active node as it is, and its links as usable as they were
        refine iff_of_true ?_ (hiff.mpr ?_)
        · intro ticket' links' _ hticket' hrun'
          obtain rfl := Option.some.inj (hticket.symm.trans hticket')
          cases hrun.symm.trans hrun'
        · intro nodeId hactive i link' hlink' hid
          have hget : (warmLinks clients ticket (min (max fanout 1) pool.links.length) 0
              pool.links).2[i]? = some link' := by rw [hrun]; exact hlink'
          obtain ⟨link, hlink, hmeta, hkept⟩ := warmLinks_error (congrArg Prod.fst hrun) hget
          rw [hmeta] at hid
          exact hkept ((consistent_iff.mp h nodeId hactive).2 i link hlink hid)
      · rw [hrun] at hids
        dsimp only at hids ⊢
        constructor
        · intro hall
          have hchosen := hall ticket links hnil hticket hrun
          refine ⟨consistent_iff.mpr fun nodeId hnode => ?_, counts_of_eq hchosen rfl⟩
          have hcount := (consistent_iff.mp h nodeId (hchosen.symm.trans hnode)).1
          rw [← hids] at hcount
          have hnode' : chosenNode { pool with links } = some nodeId := hnode
          have husable : Usable links nodeId := usable_of_chosenNode hnode' hcount
          exact ⟨hcount, husable⟩
        · rintro ⟨-, hcounts⟩ ticket' links' _ hticket' hrun'
          obtain rfl := Option.some.inj (hticket.symm.trans hticket')
          obtain ⟨-, rfl⟩ := Prod.mk.inj (hrun.symm.trans hrun')
          -- the epoch stays, so the active node has to stay too
          by_contra hne
          exact UInt64.lt_irrefl _ (hcounts.mpr hne)

/-! ### Links closed -/

section

variable {clients : Nat → DerpClient} {idx : Nat} {links : List ManagedLink}

theorem closeLinks_nodeIds : nodeIds (closeLinks clients idx links).2 = nodeIds links := by
  induction links generalizing idx with
  | nil => rfl
  | cons link rest ih =>
    rw [closeLinks]
    dsimp only
    split
    · rfl
    · exact congrArg (List.cons _) ih

theorem closeLinks_ok_iff : (closeLinks clients idx links).1 = .ok () ↔
    ∀ k < links.length, (clients (idx + k)).close.result = .ok () := by
  induction links generalizing idx with
  | nil => exact iff_of_true rfl nofun
  | cons link rest ih =>
    rw [closeLinks]
    dsimp only
    split
    · rename_i err herr
      refine iff_of_false nofun fun hall => ?_
      have hfirst := hall 0 (Nat.zero_lt_succ _)
      rw [Nat.add_zero, herr] at hfirst
      cases hfirst
    · rename_i hok
      refine ih.trans ⟨fun hall k hk => ?_, fun hall k hk => ?_⟩
      · cases k with
        | zero => exact hok
        | succ k =>
          have hnext := hall k (Nat.lt_of_succ_lt_succ hk)
          rwa [Nat.add_assoc, Nat.add_comm 1 k] at hnext
      · have hnext := hall (k + 1) (Nat.succ_lt_succ hk)
        rwa [Nat.add_assoc, Nat.add_comm 1 k]

/-- The loop gets to a link if all before it have closed. -/
theorem closeLinks_spec (i : Nat) (link' : ManagedLink)
    (h : (closeLinks clients idx links).2[i]? = some link') :
    ∃ link : ManagedLink, links[i]? = some link ∧ link'.nodeMeta = link.nodeMeta ∧
      (((∀ k < i, (clients (idx + k)).close.result = .ok ()) ∧
          link'.client = (clients (idx + i)).close.client) ∨
        ((¬∀ k < i, (clients (idx + k)).close.result = .ok ()) ∧ link'.client = link.client)) := by
  induction links generalizing idx i with
  | nil => cases h
  | cons link rest ih =>
    rw [closeLinks] at h
    dsimp only at h
    cases hresult : (clients idx).close.result with
    | error err =>
      rw [hresult] at h
      cases i with
      | zero =>
        obtain rfl := Option.some.inj h
        exact ⟨link, rfl, rfl, .inl ⟨nofun, rfl⟩⟩
      | succ i =>
        refine ⟨link', h, rfl, .inr ⟨fun hall => ?_, rfl⟩⟩
        have hfirst := hall 0 (Nat.zero_lt_succ _)
        rw [Nat.add_zero, hresult] at hfirst
        cases hfirst
    | ok _ =>
      rw [hresult] at h
      cases i with
      | zero =>
        obtain rfl := Option.some.inj h
        exact ⟨link, rfl, rfl, .inl ⟨nofun, rfl⟩⟩
      | succ i =>
        obtain ⟨old, hold, hmeta, hcase⟩ := ih i h
        have hshift : (∀ k < i + 1, (clients (idx + k)).close.result = .ok ()) ↔
            ∀ k < i, (clients (idx + 1 + k)).close.result = .ok () := by
          constructor
          · intro hall k hk
            have hnext := hall (k + 1) (Nat.succ_lt_succ hk)
            rwa [Nat.add_assoc, Nat.add_comm 1 k]
          · intro hall k hk
            cases k with
            | zero => exact hresult
            | succ k =>
              have hnext := hall k (Nat.lt_of_succ_lt_succ hk)
              rwa [Nat.add_assoc, Nat.add_comm 1 k] at hnext
        rw [hshift]
        rw [Nat.add_assoc, Nat.add_comm 1 i] at hcase
        exact ⟨old, hold, hmeta, hcase⟩

end

theorem closeLinks_zero_ok_iff (clients : Nat → DerpClient) (links : List ManagedLink) :
    (closeLinks clients 0 links).1 = .ok () ↔ Closes clients links.length := by
  rw [closeLinks_ok_iff, Closes]
  simp only [Nat.zero_add]

theorem closeLinks_zero_spec (clients : Nat → DerpClient) (links : List ManagedLink) (i : Nat)
    (link' : ManagedLink) (h : (closeLinks clients 0 links).2[i]? = some link') :
    ∃ link : ManagedLink, links[i]? = some link ∧ link'.nodeMeta = link.nodeMeta ∧
      ((Closes clients i ∧ link'.client = (clients i).close.client) ∨
        (¬Closes clients i ∧ link'.client = link.client)) := by
  have hspec := closeLinks_spec i link' h
  simp only [Nat.zero_add] at hspec
  exact hspec

theorem close_iff (h : pool.Consistent) (clients : Nat → DerpClient) :
    Steady pool (.close clients) ↔ (pool.after (.close clients)).Consistent ∧
      pool.Counts (pool.after (.close clients)) := by
  have hclosed := closeLinks_zero_ok_iff clients pool.links
  have hids : nodeIds (closeLinks clients 0 pool.links).2 = nodeIds pool.links :=
    closeLinks_nodeIds
  rw [Steady, after, close]
  rcases hrun : closeLinks clients 0 pool.links with ⟨err | _, links⟩
  · rw [hrun] at hclosed hids
    have hspec := closeLinks_zero_spec clients pool.links
    rw [hrun] at hspec
    have hnot : ¬Closes clients pool.links.length := fun hall => nomatch hclosed.mpr hall
    refine Iff.trans ?_ (consistent_and_counts_iff h { pool with links } rfl rfl hids).symm
    constructor
    · rintro ⟨-, hall⟩ nodeId hactive i link' hlink' hid
      -- the links up to the one that fails are closed, the others stay
      obtain ⟨link, hlink, hmeta, ⟨hbefore, hclient⟩ | ⟨-, hclient⟩⟩ := hspec i link' hlink'
      · rw [hclient]
        refine hall hnot i nodeId hactive ?_ hbefore
        rw [nodeAt, hlink, Option.map_some, ← hmeta, hid]
      · rw [hclient]
        rw [hmeta] at hid
        exact (consistent_iff.mp h nodeId hactive).2 i link hlink hid
    · intro husable
      refine ⟨fun hall => absurd hall hnot, fun _ i nodeId hactive hnode hbefore => ?_⟩
      have hget : (nodeIds links)[i]? = some nodeId := by
        rw [hids, getElem?_nodeIds]
        exact hnode
      rw [getElem?_nodeIds] at hget
      obtain ⟨link', hlink', hid⟩ := Option.map_eq_some_iff.mp hget
      obtain ⟨-, -, -, ⟨-, hclient⟩ | ⟨hstopped, -⟩⟩ := hspec i link' hlink'
      · rw [← hclient]
        exact husable nodeId hactive i link' hlink' hid
      · exact absurd hbefore hstopped
  · rw [hrun] at hclosed
    have hall : Closes clients pool.links.length := hclosed.mp rfl
    constructor
    · rintro ⟨hnone, -⟩
      refine ⟨consistent_iff.mpr nofun, counts_of_eq ?_ rfl⟩
      exact (hnone hall).symm
    · rintro ⟨-, hcounts⟩
      refine ⟨fun _ => ?_, fun hnot => absurd hall hnot⟩
      by_contra hne
      exact UInt64.lt_irrefl _ (hcounts.mpr fun heq => hne heq.symm)

/-! ## `maybe_switch` -/

theorem foldl_argAux_map {α β : Type} (r : β → β → Prop) [DecidableRel r] (g : α → β)
    (l : List α) (o : Option α) : (l.map g).foldl (List.argAux r) (o.map g) =
      (l.foldl (List.argAux fun a b => r (g a) (g b)) o).map g := by
  induction l generalizing o with
  | nil => rfl
  | cons a l ih =>
    rw [List.map_cons, List.foldl_cons, List.foldl_cons, ← ih]
    congr 1
    cases o with
    | none => rfl
    | some b =>
      change (if r (g a) (g b) then some (g a) else some (g b)) =
        (if r (g a) (g b) then some a else some b).map g
      split <;> rfl

theorem argmin_map {α β γ : Type} [Preorder γ] [DecidableLT γ] (f : β → γ) (g : α → β)
    (l : List α) : (l.map g).argmin f = (l.argmin fun a => f (g a)).map g :=
  foldl_argAux_map (fun b c => f b < f c) g l none

/-- The choice does not look at the flags. -/
theorem chooseActiveIndex_collectSnapshots (pool : DerpPoolState) :
    chooseActiveIndex pool.collectSnapshots =
      ((pool.links.zipIdx.filter fun link => link.1.client.usable).argmin fun link =>
        toLex (link.1.score.toNat, link.1.nodeMeta.priority.toNat)).map Prod.snd := by
  rw [chooseActiveIndex, DerpPoolState.collectSnapshots, List.zipIdx_map, List.filter_map,
    argmin_map, Option.map_map]
  have husable : ∀ link ∈ pool.links.zipIdx, ((fun link : DerpLinkSnapshot × Nat => link.1.usable) ∘
      Prod.map (fun link : ManagedLink =>
        link.snapshot (pool.activeNodeId == some link.nodeMeta.nodeId)) id) link =
      link.1.client.usable :=
    fun link _ => link.1.snapshot_usable _
  rw [List.filter_congr husable]
  simp only [Prod.map_fst, ManagedLink.snapshot_key]
  rfl

theorem chosenNode_congr {next : InMemoryDerpPool} (h : next.links = pool.links) :
    next.chosenNode = pool.chosenNode := by
  unfold chosenNode nodeAt
  rw [chooseActiveIndex_collectSnapshots, chooseActiveIndex_collectSnapshots, h]

/-- A `maybe_switch` activates a usable link of the smallest score, and another one right after it
does nothing. -/
structure Settles (pool next : InMemoryDerpPool) : Prop where
  smallest : (∃ link ∈ pool.collectSnapshots, link.usable = true) →
    ∃ link ∈ next.collectSnapshots, next.activeNodeId = some link.nodeMeta.nodeId ∧
      link.usable = true ∧ ∀ other ∈ next.collectSnapshots, other.usable = true →
        link.health.score ≤ other.health.score
  stays : ∀ nowMs, next.maybeSwitch nowMs = (none, next)

theorem maybeSwitch_links (pool : InMemoryDerpPool) (nowMs : Nat) :
    (pool.maybeSwitch nowMs).2.links = pool.links := by
  unfold maybeSwitch
  split
  · rfl
  · split <;> rfl

/-- After a `maybe_switch` the chosen node is active. -/
theorem maybeSwitch_activeNodeId {target : String} (h : pool.chosenNode = some target)
    (nowMs : Nat) : (pool.maybeSwitch nowMs).2.activeNodeId = some target := by
  rw [maybeSwitch]
  simp only [h]
  split
  · assumption
  · rfl

theorem maybeSwitch_of_chosenNode_eq
    (h : ∀ target, pool.chosenNode = some target → pool.activeNodeId = some target) (nowMs : Nat) :
    pool.maybeSwitch nowMs = (none, pool) := by
  unfold maybeSwitch
  split
  · rfl
  · rename_i target htarget
    rw [if_pos (h target htarget)]

theorem maybeSwitch_settles (pool : InMemoryDerpPool) (nowMs : Nat) :
    pool.Settles (pool.maybeSwitch nowMs).2 := by
  have hlinks := maybeSwitch_links pool nowMs
  have hchosen : (pool.maybeSwitch nowMs).2.chosenNode = pool.chosenNode := chosenNode_congr hlinks
  constructor
  · rintro ⟨snapshot, hmem, husable⟩
    obtain ⟨link, hlink, rfl⟩ := List.mem_map.mp hmem
    rw [ManagedLink.snapshot_usable] at husable
    obtain ⟨target, htarget⟩ := chosenNode_isSome hlink husable
    have hactive := maybeSwitch_activeNodeId htarget nowMs
    obtain ⟨i, best, hbest, hid, hbestUsable, hmin⟩ := chosenNode_spec (hchosen.trans htarget)
    refine ⟨best.snapshot ((pool.maybeSwitch nowMs).2.activeNodeId == some best.nodeMeta.nodeId),
      List.mem_map.mpr ⟨best, List.mem_of_getElem? hbest, rfl⟩, ?_, ?_, ?_⟩
    · rw [ManagedLink.snapshot_nodeMeta, hid, hactive]
    · rw [ManagedLink.snapshot_usable]
      exact hbestUsable
    · intro other hother hoth
      obtain ⟨otherLink, hotherLink, rfl⟩ := List.mem_map.mp hother
      rw [ManagedLink.snapshot_usable] at hoth
      rw [ManagedLink.snapshot_score, ManagedLink.snapshot_score]
      exact hmin otherLink hotherLink hoth
  · refine maybeSwitch_of_chosenNode_eq fun target htarget => ?_
    exact maybeSwitch_activeNodeId (hchosen.symm.trans htarget) nowMs

/-! ## Runs -/

theorem steady_iff (h : pool.Consistent) (a : DerpPoolAction) :
    Steady pool a ↔ (pool.after a).Consistent ∧ pool.Counts (pool.after a) := by
  cases a with
  | installCluster clusterId nodes ticket fresh nowMs =>
    exact installCluster_iff clusterId nodes ticket fresh nowMs
  | warmUp clients fanout => exact warmUp_iff h clients fanout
  | send clients packet => exact send_iff h clients packet
  | poll clients => exact callActive_iff h fun idx => (clients idx).pollTransportPacket
  | tick clients => exact tick_iff h clients
  | maybeSwitch nowMs => exact maybeSwitch_iff h nowMs
  | forceSwitch clients target reason nowMs => exact forceSwitch_iff h clients target reason nowMs
  | close clients => exact close_iff h clients

/-- A step that leaves the flags right and counts a change of the active node. -/
def Sound (pool : InMemoryDerpPool) (_ : DerpPoolAction) (next : InMemoryDerpPool) : Prop :=
  next.Consistent ∧ pool.Counts next

end InMemoryDerpPool

open InMemoryDerpPool in
/-- Every `maybe_switch` settles; and the runs of steady operations are the runs in which every
operation leaves the flags right and counts a change of the active node. -/
theorem derpPool_sound_iff (pool : InMemoryDerpPool) :
    (∀ nowMs, Settles pool (pool.maybeSwitch nowMs).2) ∧
      (Reachable (guarded Steady step) .new pool ↔
        Reachable (restricted Sound step) .new pool ∧ pool.Consistent) := by
  refine ⟨maybeSwitch_settles pool, ?_⟩
  have hnew : InMemoryDerpPool.new.Consistent := consistent_iff.mpr nofun
  refine Reachable.guarded_iff_restricted Consistent Sound hnew (fun _ _ _ h => h.1) ?_
  intro s a t _ h hstep
  rw [hstep]
  exact steady_iff h a

/-! ## A node that is listed twice -/

def listedNode : DerpNodeMeta :=
  { DerpNodeMeta.empty with clusterId := "derp-1", nodeId := "node-1" }

def listedTicket : RelayTicket :=
  ⟨"ticket-1", "net-1", "session-1", "node-a", "node-b", some "derp-1", none, none, [], "", "",
    none, ""⟩

def listedClient (state : DerpLinkState) : DerpLinkSnapshot :=
  ⟨listedNode, state, ⟨0, 0, 0, 0, 0, 0, 0⟩, false⟩

/-- A client of which every call succeeds. -/
def readyClient : DerpClient where
  connectNode _ := ⟨.ok (), listedClient .connecting⟩
  attachTicket _ := ⟨.ok (), listedClient .ready⟩
  sendTransportPacket _ := ⟨.ok (), listedClient .ready⟩
  pollTransportPacket := ⟨.ok none, listedClient .ready⟩
  probe := ⟨.ok ⟨0, false, 0, 0⟩, listedClient .ready⟩
  close := ⟨.ok (), listedClient .closed⟩

def listedTwice : InMemoryDerpPool :=
  (InMemoryDerpPool.new.after (.installCluster "derp-1" [listedNode, listedNode] listedTicket
    (listedClient .connecting) 0)).after (.warmUp (fun _ => readyClient) 2)

open InMemoryDerpPool in
/-- Both its links are flagged. -/
theorem listedTwice_not_sound :
    ¬((∀ pool nowMs, Settles pool (pool.maybeSwitch nowMs).2) ∧
      (∀ pool, Reachable step .new pool → pool.Consistent) ∧
      ∀ pool a, Reachable step .new pool → pool.Counts (pool.after a)) := by
  rintro ⟨-, hall, -⟩
  have hreach : Reachable step .new listedTwice := (Reachable.start.next rfl).next rfl
  have hcount := (consistent_iff.mp (hall listedTwice hreach) "node-1" (by decide)).1
  exact absurd hcount (by decide)

end Slan.Client
