import Slan.Control.PlanOrder

/-! # The relay nodes of a plan: the avoided node and the live health -/

namespace Slan.Control

open Ranking (Ranks)

/-- A node with live health is better than one without. -/
def Healthier (health : RelayHealth) (left right : String) : Prop :=
  match health left, health right with
  | some left, some right => betterRelayNodeRank left right = true
  | some _, none => True
  | none, _ => False

/-- Of relay paths, each with the id of its node. -/
@[mk_iff]
structure AvoidsAndFollows (avoidedNodeId : String) (health : RelayHealth)
    (paths : List (PathOption × String)) : Prop where
  avoided : paths.Pairwise fun p q => ¬(p.2 = avoidedNodeId ∧ q.2 ≠ avoidedNodeId)
  healthier : paths.Pairwise fun p q =>
    ¬(p.2 ≠ avoidedNodeId ∧ q.2 ≠ avoidedNodeId ∧ Healthier health q.2 p.2)

/-- The preferred node is not to be avoided, and otherwise preference, configured priority and node
id go the way of the live health. -/
structure ConfigFollows (nodes : List RelayNodeConfig) (preferredNodeId avoidedNodeId : String)
    (health : RelayHealth) : Prop where
  avoided : preferredNodeId = avoidedNodeId → ∀ a ∈ nodes, ∀ b ∈ nodes,
    a.nodeId = avoidedNodeId → b.nodeId = avoidedNodeId
  healthier : ∀ a ∈ nodes, ∀ b ∈ nodes, a.nodeId ≠ avoidedNodeId → b.nodeId ≠ avoidedNodeId →
    Healthier health b.nodeId a.nodeId → b.nodeId = preferredNodeId ∨
      a.nodeId ≠ preferredNodeId ∧
        (b.priority < a.priority ∨ b.priority = a.priority ∧ b.nodeId < a.nodeId)

theorem Healthier.ne {health : RelayHealth} {left right : String}
    (h : Healthier health left right) : left ≠ right := by
  rintro rfl
  unfold Healthier at h
  cases hrank : health left with
  | none => simp [hrank] at h
  | some rank =>
    simp only [hrank] at h
    exact lt_irrefl _ ((betterRelayNodeRank_iff rank rank).mp h)

/-! ## The order in which the nodes are listed -/

section Order

variable {preferredNodeId avoidedNodeId : String} {health : RelayHealth}
  {nodes order : List RelayNodeConfig} {a b : RelayNodeConfig}

/-- The key of a node where the health is left out. -/
def configKey (preferredNodeId avoidedNodeId : String) (node : RelayNodeConfig) : RelayNodeKey :=
  relayNodeKey preferredNodeId avoidedNodeId (fun _ => none) node

theorem configKey_lt_of_avoided (hne : preferredNodeId ≠ avoidedNodeId)
    (ha : a.nodeId = avoidedNodeId) (hb : b.nodeId ≠ avoidedNodeId) :
    configKey preferredNodeId avoidedNodeId b < configKey preferredNodeId avoidedNodeId a := by
  unfold configKey relayNodeKey
  by_cases hb' : b.nodeId = preferredNodeId <;>
    simp [Prod.Lex.toLex_lt_toLex, ha, hb, hb', hne, hne.symm, Bool.lt_iff]

theorem configKey_lt_of_preferred (ha : a.nodeId = preferredNodeId)
    (hb : b.nodeId ≠ preferredNodeId) :
    configKey preferredNodeId avoidedNodeId a < configKey preferredNodeId avoidedNodeId b := by
  unfold configKey relayNodeKey
  simp [Prod.Lex.toLex_lt_toLex, ha, hb, Bool.lt_iff]

theorem configKey_lt_iff (ha : a.nodeId ≠ avoidedNodeId) (hb : b.nodeId ≠ avoidedNodeId)
    (hne : b.nodeId ≠ a.nodeId) :
    configKey preferredNodeId avoidedNodeId b < configKey preferredNodeId avoidedNodeId a ↔
      b.nodeId = preferredNodeId ∨ a.nodeId ≠ preferredNodeId ∧
        (b.priority < a.priority ∨ b.priority = a.priority ∧ b.nodeId < a.nodeId) := by
  unfold configKey relayNodeKey
  by_cases ha' : a.nodeId = preferredNodeId
  · have hb' : b.nodeId ≠ preferredNodeId := fun h => hne (h.trans ha'.symm)
    simp [Prod.Lex.toLex_lt_toLex, ha', hb', Bool.lt_iff]
  · by_cases hb' : b.nodeId = preferredNodeId <;>
      simp [Prod.Lex.toLex_lt_toLex, ha, hb, ha', hb', Bool.lt_iff]

theorem configKey_ne (hne : b.nodeId ≠ a.nodeId) :
    configKey preferredNodeId avoidedNodeId b ≠ configKey preferredNodeId avoidedNodeId a := by
  intro h
  unfold configKey relayNodeKey at h
  simp only [EmbeddingLike.apply_eq_iff_eq, Prod.mk.injEq] at h
  exact hne h.2.2.2.2

/-- The nodes of the paths, in the order of the paths. -/
theorem relayPathOptions_eq (startPriority : Int) :
    relayPathOptions (prioritizeRelayNodes nodes "" "" health) preferredNodeId avoidedNodeId
        startPriority =
      let order := prioritizeRelayNodes (prioritizeRelayNodes nodes "" "" health) preferredNodeId
        avoidedNodeId fun _ => none
      (relayPathsFrom startPriority order, order.map RelayNodeConfig.nodeId) := rfl

theorem relayPathsFrom_length (priority : Int) (nodes : List RelayNodeConfig) :
    (relayPathsFrom priority nodes).length = nodes.length := by
  induction nodes generalizing priority with
  | nil => rfl
  | cons node rest ih => rw [relayPathsFrom, List.length_cons, ih, List.length_cons]

/-- No path is too late where the order without the health keeps it from being so. -/
theorem relayPaths_pairwise_iff (late : String → String → Prop) (hlate : ∀ p, ¬late p p)
    (startPriority : Int) :
    ((relayPathOptions (prioritizeRelayNodes nodes "" "" health) preferredNodeId avoidedNodeId
        startPriority).1.zip
      (relayPathOptions (prioritizeRelayNodes nodes "" "" health) preferredNodeId avoidedNodeId
        startPriority).2).Pairwise (fun p q => ¬late p.2 q.2) ↔
      ∀ a ∈ nodes, ∀ b ∈ nodes, late a.nodeId b.nodeId →
        configKey preferredNodeId avoidedNodeId b < configKey preferredNodeId avoidedNodeId a := by
  rw [relayPathOptions_eq, ← List.pairwise_map (f := Prod.snd) (R := fun p q => ¬late p q)]
  dsimp only
  rw [List.map_snd_zip (by rw [List.length_map, relayPathsFrom_length]), List.pairwise_map]
  -- the second order has no health in it, and decides alone since node ids differ
  have hranks : Ranks (relayNodeBefore preferredNodeId avoidedNodeId fun _ => none)
    (configKey preferredNodeId avoidedNodeId) := relayNodeBefore_iff _ _ _
  have hsorted := hranks.pairwise_insertionSort (prioritizeRelayNodes nodes "" "" health)
  have hmem : ∀ node, node ∈ prioritizeRelayNodes (prioritizeRelayNodes nodes "" "" health)
      preferredNodeId avoidedNodeId (fun _ => none) ↔ node ∈ nodes := fun node =>
    (List.mem_insertionSort _).trans (List.mem_insertionSort _)
  have hiff := Ranking.pairwise_not_iff_lt (fun a b => late a.nodeId b.nodeId) hsorted
    fun a b hab => configKey_ne fun heq => hlate a.nodeId (heq ▸ hab)
  simp only [← hmem]
  exact hiff

end Order

/-- Put in order once with the live health and then without it, the relay nodes avoid the avoided
node and follow the health if and only if the rest of the order does. -/
theorem relayPathOptions_avoidsAndFollows_iff (nodes : List RelayNodeConfig)
    (preferredNodeId avoidedNodeId : String) (health : RelayHealth) (startPriority : Int) :
    AvoidsAndFollows avoidedNodeId health
        ((relayPathOptions (prioritizeRelayNodes nodes "" "" health) preferredNodeId avoidedNodeId
          startPriority).1.zip
        (relayPathOptions (prioritizeRelayNodes nodes "" "" health) preferredNodeId avoidedNodeId
          startPriority).2) ↔
      ConfigFollows nodes preferredNodeId avoidedNodeId health := by
  rw [avoidsAndFollows_iff, relayPaths_pairwise_iff
      (fun p q => p = avoidedNodeId ∧ q ≠ avoidedNodeId) fun p h => h.2 h.1,
    relayPaths_pairwise_iff
      (fun p q => p ≠ avoidedNodeId ∧ q ≠ avoidedNodeId ∧ Healthier health q p)
      fun p h => h.2.2.ne rfl]
  constructor
  · rintro ⟨havoided, hhealthier⟩
    refine ⟨?_, ?_⟩
    · rintro rfl a ha b hb hpreferred
      by_contra hother
      have hlt := havoided a ha b hb ⟨hpreferred, hother⟩
      exact lt_asymm hlt (configKey_lt_of_preferred hpreferred hother)
    · intro a ha b hb hanot hbnot hbetter
      exact (configKey_lt_iff hanot hbnot hbetter.ne).mp
        (hhealthier a ha b hb ⟨hanot, hbnot, hbetter⟩)
  · rintro ⟨havoided, hhealthier⟩
    refine ⟨?_, ?_⟩
    · rintro a ha b hb ⟨hafter, hother⟩
      by_cases hne : preferredNodeId = avoidedNodeId
      · exact absurd (havoided hne a ha b hb hafter) hother
      · exact configKey_lt_of_avoided hne hafter hother
    · rintro a ha b hb ⟨hanot, hbnot, hbetter⟩
      exact (configKey_lt_iff hanot hbnot hbetter.ne).mpr
        (hhealthier a ha b hb hanot hbnot hbetter)

/-! ## The nodes of a plan -/

/-- The relay paths of a plan are those to the nodes of a configured cluster, put in order first
with some live health and then without it. -/
theorem buildConnectPlan_relayPathOptions (desk : TicketDesk) (live : LiveHealth)
    (userId nodeId networkId peerNodeId : String) (endpoints : List Endpoint)
    (sourceNatType peerNatType : String) (connectionState : PeerConnection)
    (groups : List PathHealthWindow) :
    let plan := (buildConnectPlan desk live userId nodeId networkId peerNodeId endpoints
      sourceNatType peerNatType connectionState groups).1
    let direct := directPathOptions endpoints (aggregatePathHealthWindow groups)
    ∃ (nodes : List RelayNodeConfig) (health : RelayHealth),
      (nodes ≠ [] → ∃ country ∈ desk.cfg.countries, ∃ city ∈ country.cities,
        ∃ cluster ∈ city.clusters, cluster.nodes = nodes) ∧
      (plan.paths, plan.preferredDerpNodeIds) = Prod.map (direct.1 ++ ·) id
        (relayPathOptions (prioritizeRelayNodes nodes "" "" health)
          (preferredRelayNodeId (aggregatePathHealthWindow groups) connectionState)
          (avoidedRelayNodeId connectionState) direct.2) := by
  dsimp only
  let inputs : ConnectPlanInputs := ⟨endpoints, sourceNatType, peerNatType, connectionState,
    aggregatePathHealthWindow groups, bestRelayCluster desk.cfg live.base "" ""⟩
  let view := (chooseRelayCluster desk live userId nodeId networkId peerNodeId inputs
    inputs.needRelayTicket).1.2
  have hconfigured : Configured desk.cfg view :=
    (picks_chooseRelayCluster desk live userId nodeId networkId peerNodeId rfl _).configured
  by_cases hempty : view.nodes = []
  · refine ⟨[], fun _ => none, fun hne => absurd rfl hne, ?_⟩
    have heq : view.nodes = prioritizeRelayNodes [] "" "" fun _ => none := hempty
    rw [← heq]
    rfl
  · obtain ⟨health, hmem⟩ := hconfigured hempty
    obtain ⟨country, hcountry, hmem⟩ := List.mem_flatMap.mp hmem
    obtain ⟨city, hcity, hmem⟩ := List.mem_flatMap.mp hmem
    obtain ⟨cluster, hcluster, hview⟩ := List.mem_map.mp hmem
    have heq : view.nodes = prioritizeRelayNodes cluster.nodes "" "" health := by rw [← hview]
    refine ⟨cluster.nodes, health,
      fun _ => ⟨country, hcountry, city, hcity, cluster, hcluster, rfl⟩, ?_⟩
    rw [← heq]
    rfl

/-! ## A healthy relay node -/

/-- The rank of one sample with a score. -/
def scoreRank (score : Nat) : RelayNodeRank := ⟨score, 0, true, false, 1, 0⟩

/-- The node with the better score has the larger configured priority and is tried last. -/
theorem healthy_relay_last : ¬∀ (nodes : List RelayNodeConfig)
    (preferredNodeId avoidedNodeId : String) (health : RelayHealth) (startPriority : Int),
    AvoidsAndFollows avoidedNodeId health
      ((relayPathOptions (prioritizeRelayNodes nodes "" "" health) preferredNodeId avoidedNodeId
        startPriority).1.zip
      (relayPathOptions (prioritizeRelayNodes nodes "" "" health) preferredNodeId avoidedNodeId
        startPriority).2) := by
  intro h
  let nodes : List RelayNodeConfig := [⟨"relay-cn-local-udp", "udp", "127.0.0.1:9000", 10, []⟩,
    ⟨"relay-cn-local-tcp", "tcp", "127.0.0.1:9001", 20, []⟩]
  let health : RelayHealth := fun nodeId =>
    if nodeId = "relay-cn-local-udp" then some (scoreRank 10)
    else if nodeId = "relay-cn-local-tcp" then some (scoreRank 90)
    else none
  have hfollows := (h nodes "" "" health 10).healthier
  have hpaths : (relayPathOptions (prioritizeRelayNodes nodes "" "" health) "" "" 10).1.zip
      (relayPathOptions (prioritizeRelayNodes nodes "" "" health) "" "" 10).2 =
      [(⟨"relay_udp", "127.0.0.1:9000", 10⟩, "relay-cn-local-udp"),
        (⟨"relay_tcp", "127.0.0.1:9001", 20⟩, "relay-cn-local-tcp")] := by
    decide
  rw [hpaths] at hfollows
  have hbetter : Healthier health "relay-cn-local-tcp" "relay-cn-local-udp" := by
    have htcp : health "relay-cn-local-tcp" = some (scoreRank 90) := by decide
    have hudp : health "relay-cn-local-udp" = some (scoreRank 10) := by decide
    simp only [Healthier, htcp, hudp]
    decide
  exact (List.pairwise_pair.mp hfollows) ⟨by decide, by decide, hbetter⟩

end Slan.Control
