import Slan.Client.DerpPoolRuns

/-! # Warm-up: the links that fail, and the link that is left active -/

namespace Slan.Client

/-! ## The first of the best links -/

theorem idxOf_le_idxOf_iff {α : Type} [DecidableEq (α × Nat)] {l : List (α × Nat)}
    (h : l.Pairwise fun x y => x.2 < y.2) {x y : α × Nat} (hx : x ∈ l) (hy : y ∈ l) :
    l.idxOf x ≤ l.idxOf y ↔ x.2 ≤ y.2 := by
  have hless : ∀ {x y : α × Nat}, x ∈ l → y ∈ l → l.idxOf x < l.idxOf y → x.2 < y.2 := by
    intro x y hx hy hlt
    have hpair := List.pairwise_iff_getElem.mp h _ _ (List.idxOf_lt_length_of_mem hx)
      (List.idxOf_lt_length_of_mem hy) hlt
    rwa [List.getElem_idxOf, List.getElem_idxOf] at hpair
  constructor
  · intro hle
    rcases Nat.lt_or_eq_of_le hle with hlt | heq
    · exact Nat.le_of_lt (hless hx hy hlt)
    · rw [(List.idxOf_inj hx).mp heq]
  · intro hle
    refine Nat.le_of_not_lt fun hlt => ?_
    exact Nat.not_lt.mpr hle (hless hy hx hlt)

theorem pairwise_zipIdx {α : Type} (l : List α) : l.zipIdx.Pairwise fun x y => x.2 < y.2 := by
  rw [← List.pairwise_map (f := Prod.snd) (R := (· < ·)), List.zipIdx_map_snd]
  exact List.pairwise_lt_range'

/-- `choose_active_index` takes the first of the usable links with the least key. -/
theorem chooseActiveIndex_eq_some_iff {links : List DerpLinkSnapshot} {k : Nat} :
    chooseActiveIndex links = some k ↔ ∃ link, links[k]? = some link ∧ link.usable = true ∧
      ∀ (m : Nat) (other : DerpLinkSnapshot), links[m]? = some other → other.usable = true →
        link.key ≤ other.key ∧ (other.key ≤ link.key → k ≤ m) := by
  have hsorted := (pairwise_zipIdx links).filter fun link => link.1.usable
  have hmem : ∀ (link : DerpLinkSnapshot) (i : Nat),
      (link, i) ∈ (links.zipIdx.filter fun link => link.1.usable) ↔
        links[i]? = some link ∧ link.usable = true := by
    intro link i
    rw [List.mem_filter, List.mem_zipIdx_iff_getElem?]
  unfold chooseActiveIndex
  constructor
  · intro h
    obtain ⟨⟨link, i⟩, hmin, hi⟩ := Option.map_eq_some_iff.mp h
    obtain rfl : i = k := hi
    obtain ⟨hin, hle, hfirst⟩ := List.mem_argmin_iff.mp hmin
    obtain ⟨hlink, husable⟩ := (hmem link i).mp hin
    refine ⟨link, hlink, husable, fun m other hother hoth => ?_⟩
    have hin' := (hmem other m).mpr ⟨hother, hoth⟩
    exact ⟨hle _ hin', fun hback =>
      (idxOf_le_idxOf_iff hsorted hin hin').mp (hfirst _ hin' hback)⟩
  · rintro ⟨link, hlink, husable, hleast⟩
    have hin := (hmem link k).mpr ⟨hlink, husable⟩
    refine Option.map_eq_some_iff.mpr ⟨(link, k), List.mem_argmin_iff.mpr ⟨hin, ?_, ?_⟩, rfl⟩
    · rintro ⟨other, m⟩ hin'
      exact (hleast m other ((hmem other m).mp hin').1 ((hmem other m).mp hin').2).1
    · rintro ⟨other, m⟩ hin' hback
      exact (idxOf_le_idxOf_iff hsorted hin hin').mpr
        ((hleast m other ((hmem other m).mp hin').1 ((hmem other m).mp hin').2).2 hback)

/-! ## What a link can do -/

/-- The link connects, or is connected, shows itself usable, and answers a probe in time. -/
structure ManagedLink.Answers (link : ManagedLink) (client : DerpClient) (ticket : RelayTicket) :
    Prop where
  ready : (link.ensureLinkReady client ticket).1 = .ok ()
  usable : (link.ensureLinkReady client ticket).2.client.usable = true
  probed : ∃ probe, client.probe.result = .ok probe ∧ probe.timedOut = false

/-- A link after a warm-up that no link ends. -/
def ManagedLink.warmed (clients : Nat → DerpClient) (ticket : RelayTicket) (warmCount idx : Nat)
    (link : ManagedLink) : ManagedLink :=
  if idx < warmCount then (link.ensureLinkReady (clients idx) ticket).2 else link.cool (clients idx)

theorem ManagedLink.warmed_nodeMeta (clients : Nat → DerpClient) (ticket : RelayTicket)
    (warmCount idx : Nat) (link : ManagedLink) :
    (link.warmed clients ticket warmCount idx).nodeMeta = link.nodeMeta := by
  unfold ManagedLink.warmed
  split
  · exact InMemoryDerpPool.ensureLinkReady_nodeMeta link _ ticket
  · rfl

theorem forall_getElem?_cons {α : Type} {P : Nat → α → Prop} {x : α} {xs : List α} :
    (∀ (i : Nat) (y : α), (x :: xs)[i]? = some y → P i y) ↔
      P 0 x ∧ ∀ (i : Nat) (y : α), xs[i]? = some y → P (i + 1) y := by
  constructor
  · intro h
    exact ⟨h 0 x rfl, fun i y => h (i + 1) y⟩
  · rintro ⟨hfirst, hothers⟩ i y hy
    cases i with
    | zero =>
      obtain rfl := Option.some.inj hy
      exact hfirst
    | succ i => exact hothers i y hy

/-- The loop gets through where every warm link is made ready. -/
theorem warmLinks_eq_ok_iff {clients : Nat → DerpClient} {ticket : RelayTicket}
    {warmCount idx : Nat} {links links' : List ManagedLink} :
    warmLinks clients ticket warmCount idx links = (.ok (), links') ↔
      (∀ (i : Nat) (link : ManagedLink), links[i]? = some link → idx + i < warmCount →
        (link.ensureLinkReady (clients (idx + i)) ticket).1 = .ok ()) ∧
      links' = links.mapIdx fun i => ManagedLink.warmed clients ticket warmCount (idx + i) := by
  induction links generalizing idx links' with
  | nil =>
    constructor
    · intro h
      refine ⟨fun i link hlink => ?_, (Prod.mk.inj h).2.symm⟩
      rw [List.getElem?_nil] at hlink
      exact absurd hlink.symm (Option.some_ne_none link)
    · rintro ⟨-, rfl⟩
      rfl
  | cons link rest ih =>
    have hshift : ∀ i, idx + 1 + i = idx + (i + 1) := fun i => by omega
    have hrest := fun (rest' : List ManagedLink) => @ih (idx + 1) rest'
    simp only [hshift] at hrest
    have hwarmed : (link :: rest).mapIdx
        (fun i => ManagedLink.warmed clients ticket warmCount (idx + i)) =
        link.warmed clients ticket warmCount idx ::
          rest.mapIdx fun i => ManagedLink.warmed clients ticket warmCount (idx + (i + 1)) :=
      List.mapIdx_cons
    have hcons : ∀ first : ManagedLink,
        ((warmLinks clients ticket warmCount (idx + 1) rest).1,
          first :: (warmLinks clients ticket warmCount (idx + 1) rest).2) = (.ok (), links') ↔
        (∀ (i : Nat) (other : ManagedLink), rest[i]? = some other → idx + (i + 1) < warmCount →
            (other.ensureLinkReady (clients (idx + (i + 1))) ticket).1 = .ok ()) ∧
          links' = first ::
            rest.mapIdx fun i => ManagedLink.warmed clients ticket warmCount (idx + (i + 1)) := by
      intro first
      constructor
      · intro h
        obtain ⟨hok, rfl⟩ := Prod.mk.inj h
        obtain ⟨hothers, hlinks'⟩ := (hrest _).mp (Prod.ext hok rfl)
        exact ⟨hothers, congrArg (first :: ·) hlinks'⟩
      · rintro ⟨hothers, rfl⟩
        rw [(hrest _).mpr ⟨hothers, rfl⟩]
    rw [hwarmed, forall_getElem?_cons, warmLinks, ManagedLink.warmed]
    by_cases hwarm : idx < warmCount
    · rw [if_pos hwarm, if_pos hwarm]
      rcases hready : link.ensureLinkReady (clients idx) ticket with ⟨err | _, ready⟩
      · exact iff_of_false (fun h => by cases h) fun h => by cases h.1.1 hwarm
      · exact (hcons ready).trans (and_congr_left fun _ => (and_iff_right fun _ => rfl).symm)
    · rw [if_neg hwarm, if_neg hwarm]
      exact (hcons (link.cool (clients idx))).trans
        (and_congr_left fun _ => (and_iff_right fun h => absurd h hwarm).symm)

/-! ## The property -/

namespace InMemoryDerpPool

/-- One of the first `max(1, fanout)` links that can be connected and probed. -/
def AnswersAt (pool : InMemoryDerpPool) (clients : Nat → DerpClient) (fanout idx : Nat) : Prop :=
  idx < max fanout 1 ∧ ∃ ticket ∈ pool.ticket, ∃ link ∈ pool.links[idx]?,
    link.Answers (clients idx) ticket

/-- The active link of `next` is one of these of `pool`. -/
def LeavesActive (pool next : InMemoryDerpPool) (clients : Nat → DerpClient) (fanout : Nat) :
    Prop :=
  ∃ nodeId idx, next.activeNodeId = some nodeId ∧ next.position nodeId = some idx ∧
    pool.AnswersAt clients fanout idx

def Tolerates (pool : InMemoryDerpPool) (clients : Nat → DerpClient) (fanout : Nat) : Prop :=
  (∃ idx, pool.AnswersAt clients fanout idx) → (pool.warmUp clients fanout).1 = .ok () ∧
    pool.LeavesActive (pool.warmUp clients fanout).2 clients fanout

/-! ## When it holds -/

/-- None of the first `max(1, fanout)` links fails to connect or to take the ticket. -/
def AllReady (pool : InMemoryDerpPool) (clients : Nat → DerpClient) (fanout : Nat) : Prop :=
  ∀ ticket ∈ pool.ticket, ∀ (idx : Nat) (link : ManagedLink), idx < max fanout 1 →
    pool.links[idx]? = some link → (link.ensureLinkReady (clients idx) ticket).1 = .ok ()

/-- The links after such a warm-up. -/
def warmedLinks (pool : InMemoryDerpPool) (clients : Nat → DerpClient) (fanout : Nat)
    (ticket : RelayTicket) : List ManagedLink :=
  pool.links.mapIdx (ManagedLink.warmed clients ticket (max fanout 1))

/-- The first of the usable links with the least score and then the least priority. -/
structure Preferred (links : List ManagedLink) (idx : Nat) (link : ManagedLink) : Prop where
  get : links[idx]? = some link
  usable : link.client.usable = true
  least : ∀ (m : Nat) (other : ManagedLink), links[m]? = some other → other.client.usable = true →
    toLex (link.score.toNat, link.nodeMeta.priority.toNat) ≤
        toLex (other.score.toNat, other.nodeMeta.priority.toNat) ∧
      (toLex (other.score.toNat, other.nodeMeta.priority.toNat) ≤
        toLex (link.score.toNat, link.nodeMeta.priority.toNat) → idx ≤ m)

/-- Of the links as they are then, the node of the preferred one begins with a link that answers. -/
def PrefersAnswering (pool : InMemoryDerpPool) (clients : Nat → DerpClient) (fanout : Nat) : Prop :=
  ∀ ticket ∈ pool.ticket, ∃ k link,
    Preferred (pool.warmedLinks clients fanout ticket) k link ∧
      ∃ idx, pool.position link.nodeMeta.nodeId = some idx ∧ pool.AnswersAt clients fanout idx

theorem chooseActiveIndex_iff_preferred {pool : InMemoryDerpPool} {k : Nat} :
    chooseActiveIndex pool.collectSnapshots = some k ↔ ∃ link, Preferred pool.links k link := by
  have hsnapshot : ∀ (i : Nat) (snapshot : DerpLinkSnapshot),
      pool.collectSnapshots[i]? = some snapshot ↔ ∃ link, pool.links[i]? = some link ∧
        snapshot = link.snapshot (pool.activeNodeId == some link.nodeMeta.nodeId) := by
    intro i snapshot
    rw [DerpPoolState.getElem?_collectSnapshots, Option.map_eq_some_iff]
    exact exists_congr fun link => and_congr_right fun _ => eq_comm
  rw [chooseActiveIndex_eq_some_iff]
  constructor
  · rintro ⟨snapshot, hget, husable, hleast⟩
    obtain ⟨link, hlink, rfl⟩ := (hsnapshot k snapshot).mp hget
    rw [ManagedLink.snapshot_usable] at husable
    refine ⟨link, hlink, husable, fun m other hother hoth => ?_⟩
    have hboth := hleast m _ ((hsnapshot m _).mpr ⟨other, hother, rfl⟩)
      (by rwa [ManagedLink.snapshot_usable])
    rwa [ManagedLink.snapshot_key, ManagedLink.snapshot_key] at hboth
  · rintro ⟨link, hlink, husable, hleast⟩
    refine ⟨_, (hsnapshot k _).mpr ⟨link, hlink, rfl⟩, ?_, fun m snapshot hget hoth => ?_⟩
    · rwa [ManagedLink.snapshot_usable]
    · obtain ⟨other, hother, rfl⟩ := (hsnapshot m snapshot).mp hget
      rw [ManagedLink.snapshot_usable] at hoth
      rw [ManagedLink.snapshot_key, ManagedLink.snapshot_key]
      exact hleast m other hother hoth

theorem chosenNode_eq_some_iff {pool : InMemoryDerpPool} {nodeId : String} :
    pool.chosenNode = some nodeId ↔
      ∃ k link, Preferred pool.links k link ∧ link.nodeMeta.nodeId = nodeId := by
  have hnode : ∀ {k : Nat} {link : ManagedLink}, Preferred pool.links k link →
      pool.nodeAt k = some link.nodeMeta.nodeId := by
    intro k link h
    rw [nodeAt, h.get]
    rfl
  unfold chosenNode
  rw [Option.bind_eq_some_iff]
  constructor
  · rintro ⟨k, hk, hat⟩
    obtain ⟨link, hlink⟩ := chooseActiveIndex_iff_preferred.mp hk
    exact ⟨k, link, hlink, Option.some.inj ((hnode hlink).symm.trans hat)⟩
  · rintro ⟨k, link, hlink, rfl⟩
    exact ⟨k, chooseActiveIndex_iff_preferred.mpr ⟨link, hlink⟩, hnode hlink⟩

theorem position_eq {pool next : InMemoryDerpPool} (h : nodeIds next.links = nodeIds pool.links)
    (nodeId : String) : next.position nodeId = pool.position nodeId := by
  have hids : ∀ pool : InMemoryDerpPool,
      pool.position nodeId = (nodeIds pool.links).findIdx? (· == nodeId) := by
    intro pool
    unfold position nodeIds
    rw [List.findIdx?_map]
    rfl
  rw [hids, hids, h]

section

variable {pool : InMemoryDerpPool} {clients : Nat → DerpClient} {fanout : Nat}
  {ticket : RelayTicket}

theorem nodeIds_warmedLinks :
    nodeIds (pool.warmedLinks clients fanout ticket) = nodeIds pool.links :=
  nodeIds_eq (fun _ => List.getElem?_mapIdx ..) fun i link =>
    link.warmed_nodeMeta clients ticket (max fanout 1) i

theorem warmLinks_eq_ok_iff_allReady (hticket : pool.ticket = some ticket)
    {links : List ManagedLink} :
    warmLinks clients ticket (min (max fanout 1) pool.links.length) 0 pool.links =
      (.ok (), links) ↔
    pool.AllReady clients fanout ∧ links = pool.warmedLinks clients fanout ticket := by
  have hmin : ∀ {i : Nat} {link : ManagedLink}, pool.links[i]? = some link →
      (i < min (max fanout 1) pool.links.length ↔ i < max fanout 1) := by
    intro i link h
    have hlt := (List.getElem?_eq_some_iff.mp h).1
    rw [Nat.lt_min]
    exact and_iff_left hlt
  have hwarmed : (pool.links.mapIdx fun i => ManagedLink.warmed clients ticket
      (min (max fanout 1) pool.links.length) (0 + i)) =
        pool.warmedLinks clients fanout ticket := by
    refine List.ext_getElem? fun i => ?_
    unfold warmedLinks
    rw [List.getElem?_mapIdx, List.getElem?_mapIdx]
    cases hlink : pool.links[i]? with
    | none => rfl
    | some link =>
      rw [Option.map_some, Option.map_some, Nat.zero_add]
      unfold ManagedLink.warmed
      rw [if_congr (hmin hlink) rfl rfl]
  rw [warmLinks_eq_ok_iff, hwarmed]
  refine and_congr_left fun _ => ?_
  constructor
  · intro h ticket' hticket' i link hi hlink
    obtain rfl := Option.some.inj (hticket.symm.trans hticket')
    have hready := h i link hlink
    rw [Nat.zero_add] at hready
    exact hready ((hmin hlink).mpr hi)
  · intro h i link hlink hi
    rw [Nat.zero_add] at hi ⊢
    exact h ticket hticket i link ((hmin hlink).mp hi) hlink

/-- A link that is not made ready ends the warm-up with its error. -/
theorem warmUp_cases (hticket : pool.ticket = some ticket) (hlinks : pool.links ≠ []) :
    pool.AllReady clients fanout ∧ pool.warmUp clients fanout = (.ok (),
        { pool with
          links := pool.warmedLinks clients fanout ticket
          activeNodeId :=
            ({ pool with links := pool.warmedLinks clients fanout ticket } :
              InMemoryDerpPool).chosenNode }) ∨
      ¬pool.AllReady clients fanout ∧ ∃ err, (pool.warmUp clients fanout).1 = .error err := by
  unfold warmUp
  rw [if_neg hlinks, hticket]
  dsimp only
  rcases hrun : warmLinks clients ticket (min (max fanout 1) pool.links.length) 0 pool.links
    with ⟨err | _, links⟩
  · refine .inr ⟨fun hall => ?_, err, rfl⟩
    cases hrun.symm.trans ((warmLinks_eq_ok_iff_allReady hticket).mpr ⟨hall, rfl⟩)
  · obtain ⟨hall, rfl⟩ := (warmLinks_eq_ok_iff_allReady hticket).mp hrun
    exact .inl ⟨hall, rfl⟩

end

theorem tolerates_iff (pool : InMemoryDerpPool) (clients : Nat → DerpClient) (fanout : Nat) :
    pool.Tolerates clients fanout ↔ ((∃ idx, pool.AnswersAt clients fanout idx) →
      pool.AllReady clients fanout ∧ pool.PrefersAnswering clients fanout) := by
  unfold Tolerates
  refine imp_congr_right fun ⟨i, hi, ticket, hticket, link, hlink, hanswers⟩ => ?_
  have hlinks : pool.links ≠ [] := by
    intro hnil
    rw [hnil] at hlink
    cases hlink
  rcases warmUp_cases hticket hlinks with ⟨hall, hrun⟩ | ⟨hfails, err, herr⟩
  · rw [hrun, eq_self, true_and, and_iff_right hall]
    have hposition : ∀ nodeId, InMemoryDerpPool.position { pool with
        links := pool.warmedLinks clients fanout ticket } nodeId = pool.position nodeId :=
      position_eq nodeIds_warmedLinks
    constructor
    · rintro ⟨nodeId, idx, hactive, hat, hidx⟩ ticket' hticket'
      obtain rfl := Option.some.inj (hticket.symm.trans hticket')
      obtain ⟨k, preferred, hpreferred, rfl⟩ := chosenNode_eq_some_iff.mp hactive
      exact ⟨k, preferred, hpreferred, idx, (hposition _).symm.trans hat, hidx⟩
    · intro h
      obtain ⟨k, preferred, hpreferred, idx, hat, hidx⟩ := h ticket hticket
      exact ⟨_, idx, chosenNode_eq_some_iff.mpr ⟨k, preferred, hpreferred, rfl⟩,
        (hposition _).trans hat, hidx⟩
  -- a link failed, and nothing was made active
  · rw [herr]
    exact iff_of_false (fun h => by cases h.1) fun h => hfails h.1

/-- Clients that answer a probe once they are made ready, and that cannot be used once they are
closed, as a `SocketDerpClient` does. -/
structure Genuine (pool : InMemoryDerpPool) (clients : Nat → DerpClient) : Prop where
  answers : ∀ ticket ∈ pool.ticket, ∀ (idx : Nat) (link : ManagedLink),
    pool.links[idx]? = some link → (link.ensureLinkReady (clients idx) ticket).1 = .ok () →
      link.Answers (clients idx) ticket
  closed : ∀ idx, (clients idx).close.client.usable = false

/-- With such clients it is only the links that fail that a warm-up does not tolerate. -/
theorem prefersAnswering_of_genuine {pool : InMemoryDerpPool} {clients : Nat → DerpClient}
    {fanout : Nat} (hgenuine : pool.Genuine clients) (hall : pool.AllReady clients fanout)
    (hsome : ∃ idx, pool.AnswersAt clients fanout idx) : pool.PrefersAnswering clients fanout := by
  intro ticket hticket
  obtain ⟨i, hi, ticket', hticket', link, hlink, hanswers⟩ := hsome
  obtain rfl := Option.some.inj (hticket.symm.trans hticket')
  have hget : ∀ k, (pool.warmedLinks clients fanout ticket)[k]? =
      pool.links[k]?.map (ManagedLink.warmed clients ticket (max fanout 1) k) :=
    fun _ => List.getElem?_mapIdx ..
  have hwarm : link.warmed clients ticket (max fanout 1) i ∈
      pool.warmedLinks clients fanout ticket :=
    List.mem_of_getElem? ((hget i).trans (congrArg _ hlink))
  have husable : (link.warmed clients ticket (max fanout 1) i).client.usable = true := by
    unfold ManagedLink.warmed
    rw [if_pos hi]
    exact hanswers.usable
  obtain ⟨nodeId, hchosen⟩ : ∃ nodeId, chosenNode
      { pool with links := pool.warmedLinks clients fanout ticket } = some nodeId :=
    chosenNode_isSome hwarm husable
  obtain ⟨k, preferred, hpreferred, -⟩ := chosenNode_eq_some_iff.mp hchosen
  refine ⟨k, preferred, hpreferred, ?_⟩
  obtain ⟨source, hsource, rfl⟩ :=
    Option.map_eq_some_iff.mp ((hget k).symm.trans hpreferred.get)
  -- a link after the fan-out is closed, and no closed link is preferred
  have hk : k < max fanout 1 := by
    by_contra hcold
    have hclosed := hpreferred.usable
    unfold ManagedLink.warmed at hclosed
    rw [if_neg hcold] at hclosed
    exact absurd hclosed (Bool.eq_false_iff.mp (hgenuine.closed k))
  rw [ManagedLink.warmed_nodeMeta]
  obtain ⟨hlt, rfl⟩ := List.getElem?_eq_some_iff.mp hsource
  -- the first link of that node comes no later
  cases hposition : pool.position pool.links[k].nodeMeta.nodeId with
  | none =>
    have hnone := List.findIdx?_eq_none_iff.mp hposition pool.links[k] (List.getElem_mem hlt)
    rw [beq_self_eq_true] at hnone
    cases hnone
  | some j =>
    obtain ⟨hj, -, hfirst⟩ := List.findIdx?_eq_some_iff_getElem.mp hposition
    have hjk : j ≤ k := by
      refine Nat.le_of_not_lt fun hlater => ?_
      exact hfirst k hlater (beq_self_eq_true _)
    have hjlink : pool.links[j]? = some pool.links[j] := List.getElem?_eq_getElem hj
    exact ⟨j, rfl, Nat.lt_of_le_of_lt hjk hk, ticket, hticket, pool.links[j], hjlink,
      hgenuine.answers ticket hticket j _ hjlink
        (hall ticket hticket j _ (Nat.lt_of_le_of_lt hjk hk) hjlink)⟩

end InMemoryDerpPool

/-! ## A dead relay before a live one -/

def standbyNode : DerpNodeMeta := { listedNode with nodeId := "node-2" }

/-- A client that cannot connect. -/
def refusedClient : DerpClient :=
  { readyClient with
    connectNode := fun _ => ⟨.error "connection refused", listedClient .connecting⟩ }

def deadFirst : InMemoryDerpPool :=
  InMemoryDerpPool.new.installCluster "derp-1" [listedNode, standbyNode] listedTicket
    (listedClient .connecting) 0

def deadFirstClients (idx : Nat) : DerpClient := if idx = 0 then refusedClient else readyClient

theorem dead_relay_not_tolerated : ¬deadFirst.Tolerates deadFirstClients 2 := by
  intro h
  have hlive : deadFirst.AnswersAt deadFirstClients 2 1 :=
    ⟨by decide, listedTicket, rfl, _, rfl, rfl, rfl, _, rfl, rfl⟩
  have hok := (h ⟨1, hlive⟩).1
  have herr : (deadFirst.warmUp deadFirstClients 2).1 = .error "connection refused" := rfl
  cases hok.symm.trans herr

end Slan.Client
