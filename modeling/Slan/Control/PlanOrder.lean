import Slan.Control.ConnectPlan

/-! # The priorities of the paths of a plan -/

namespace Slan.Control

open Ranking (Consistent Ranks)

/-! ## Which relay nodes there are -/

/-- Some cluster of the configuration has a node. -/
def RelayConfig.HasRelayNode (cfg : RelayConfig) : Prop :=
  ∃ country ∈ cfg.countries, ∃ city ∈ country.cities, ∃ cluster ∈ city.clusters,
    cluster.nodes ≠ []

section Clusters

variable {cfg : RelayConfig} {health : RelayHealth}

theorem prioritizeRelayNodes_eq_nil {nodes : List RelayNodeConfig}
    {preferredNodeId avoidedNodeId : String} :
    prioritizeRelayNodes nodes preferredNodeId avoidedNodeId health = [] ↔ nodes = [] := by
  have hlength : (prioritizeRelayNodes nodes preferredNodeId avoidedNodeId health).length =
      nodes.length := List.length_insertionSort _ nodes
  rw [← List.length_eq_zero_iff, hlength, List.length_eq_zero_iff]

theorem exists_relayCluster_iff :
    (∃ cluster ∈ relayClusters cfg health, cluster.nodes ≠ []) ↔ cfg.HasRelayNode := by
  unfold relayClusters RelayConfig.HasRelayNode
  constructor
  · rintro ⟨view, hview, hnodes⟩
    obtain ⟨country, hcountry, hview⟩ := List.mem_flatMap.mp hview
    obtain ⟨city, hcity, hview⟩ := List.mem_flatMap.mp hview
    obtain ⟨cluster, hcluster, rfl⟩ := List.mem_map.mp hview
    exact ⟨country, hcountry, city, hcity, cluster, hcluster,
      fun hnil => hnodes (prioritizeRelayNodes_eq_nil.mpr hnil)⟩
  · rintro ⟨country, hcountry, city, hcity, cluster, hcluster, hnodes⟩
    refine ⟨_, List.mem_flatMap.mpr ⟨country, hcountry, List.mem_flatMap.mpr ⟨city, hcity,
      List.mem_map.mpr ⟨cluster, hcluster, rfl⟩⟩⟩, ?_⟩
    exact fun hnil => hnodes (prioritizeRelayNodes_eq_nil.mp hnil)

/-- One of the configured clusters, its nodes in the order of some live health. -/
def Configured (cfg : RelayConfig) (view : RelayClusterView) : Prop :=
  view.nodes ≠ [] → ∃ health, view ∈ relayClusters cfg health

/-- A cluster that has nodes where any cluster has, and that is then a configured one. -/
structure Picks (cfg : RelayConfig) (view : RelayClusterView) : Prop where
  nodes : view.nodes ≠ [] ↔ cfg.HasRelayNode
  configured : Configured cfg view

theorem picks_of_mem {view : RelayClusterView} (h : view ∈ relayClusters cfg health)
    (hnodes : view.nodes ≠ []) : Picks cfg view :=
  ⟨iff_of_true hnodes (exists_relayCluster_iff.mp ⟨view, h, hnodes⟩), fun _ => ⟨health, h⟩⟩

theorem picks_firstClusterWithNodes : Picks cfg (firstClusterWithNodes cfg health) := by
  unfold firstClusterWithNodes
  cases hfound : (relayClusters cfg health).find? fun cluster => !cluster.nodes.isEmpty with
  | none =>
    refine ⟨iff_of_false (fun h => h rfl) ?_, fun h => absurd rfl h⟩
    rw [← @exists_relayCluster_iff cfg health]
    rintro ⟨cluster, hcluster, hnodes⟩
    have hnone := List.find?_eq_none.mp hfound cluster hcluster
    simp [hnodes] at hnone
  | some cluster =>
    have hnodes : cluster.nodes ≠ [] := by simpa using List.find?_some hfound
    exact picks_of_mem (List.mem_of_find?_eq_some hfound) hnodes

theorem picks_relayClusterById {clusterId : String} {cluster : RelayClusterView}
    (h : relayClusterById cfg health clusterId = some cluster) (hnodes : cluster.nodes ≠ []) :
    Picks cfg cluster :=
  picks_of_mem (List.mem_of_find?_eq_some h) hnodes

theorem picks_defaultRelayCluster : Picks cfg (defaultRelayCluster cfg health) := by
  unfold defaultRelayCluster
  cases hfound : relayClusterById cfg health cfg.defaultClusterId with
  | none => exact picks_firstClusterWithNodes
  | some cluster =>
    dsimp only
    split
    · exact picks_firstClusterWithNodes
    · rename_i hnodes
      rw [List.isEmpty_iff] at hnodes
      exact picks_relayClusterById hfound hnodes

theorem picks_relayClusterForRequest (clusterId : String) :
    Picks cfg (relayClusterForRequest cfg health clusterId) := by
  unfold relayClusterForRequest
  dsimp only
  split
  · exact picks_defaultRelayCluster
  · cases hfound : relayClusterById cfg health (Text.trim clusterId) with
    | none => exact picks_defaultRelayCluster
    | some cluster =>
      dsimp only
      split
      · exact picks_defaultRelayCluster
      · rename_i hnodes
        rw [List.isEmpty_iff] at hnodes
        exact picks_relayClusterById hfound hnodes

abbrev RelayClusterKey := Bool ×ₗ Bool ×ₗ RankKey ×ₗ String

def relayClusterKey (preferredNodeId avoidedNodeId : String) (cluster : RelayClusterView) :
    RelayClusterKey :=
  toLex (!clusterContainsRelayNode cluster preferredNodeId,
    toLex (clusterContainsRelayNode cluster avoidedNodeId,
      toLex ((relayClusterRank cluster).key, cluster.clusterId)))

theorem relayClusterBefore_iff (preferredNodeId avoidedNodeId : String) :
    Ranks (relayClusterBefore preferredNodeId avoidedNodeId)
      (relayClusterKey preferredNodeId avoidedNodeId) := by
  intro left right
  simp only [relayClusterKey, Prod.Lex.toLex_lt_toLex, relayClusterBefore]
  cases clusterContainsRelayNode left preferredNodeId <;>
    cases clusterContainsRelayNode right preferredNodeId <;>
    cases clusterContainsRelayNode left avoidedNodeId <;>
    cases clusterContainsRelayNode right avoidedNodeId <;>
    simp [Bool.lt_iff] <;> grind [betterRelayNodeRank_iff]

/-- The best cluster is one of the configuration, or there is none. -/
theorem bestRelayCluster_mem {preferredNodeId avoidedNodeId : String}
    (h : (bestRelayCluster cfg health preferredNodeId avoidedNodeId).nodes ≠ []) :
    bestRelayCluster cfg health preferredNodeId avoidedNodeId ∈ relayClusters cfg health := by
  -- without clusters the best one is the empty view, which has no nodes
  unfold bestRelayCluster at h ⊢
  cases hhead : (sortRelayClusters (relayClusters cfg health) preferredNodeId
      avoidedNodeId).head? with
  | none =>
    rw [hhead] at h
    exact absurd rfl h
  | some best =>
    rw [Option.getD_some]
    exact (List.perm_insertionSort _ _).mem_iff.mp (List.mem_of_mem_head? hhead)

/-- A cluster with nodes ranks before one without. -/
theorem relayClusterRank_lt {cluster other : RelayClusterView} (h : cluster.nodes ≠ [])
    (hother : other.nodes = []) :
    (relayClusterRank cluster).key < (relayClusterRank other).key := by
  obtain ⟨first, rest, hnodes⟩ := List.exists_cons_of_ne_nil h
  rw [← betterRelayNodeRank_iff]
  unfold relayClusterRank
  rw [hnodes, hother]
  by_cases hpriority : 0 < first.priority <;> simp [betterRelayNodeRank, hpriority]

theorem picks_bestRelayCluster : Picks cfg (bestRelayCluster cfg health "" "") := by
  refine ⟨?_, fun hnodes => ⟨health, bestRelayCluster_mem hnodes⟩⟩
  constructor
  · exact fun hnodes => exists_relayCluster_iff.mp ⟨_, bestRelayCluster_mem hnodes, hnodes⟩
  rw [← @exists_relayCluster_iff cfg health]
  rintro ⟨cluster, hcluster, hnodes⟩ hbest
  have hmem : cluster ∈ sortRelayClusters (relayClusters cfg health) "" "" :=
    (List.mem_insertionSort _).mpr hcluster
  obtain ⟨best, hhead⟩ := Option.isSome_iff_exists.mp
    (List.isSome_head?.mpr (List.ne_nil_of_mem hmem))
  unfold bestRelayCluster at hbest
  rw [hhead, Option.getD_some] at hbest
  -- a cluster with nodes would have been sorted before a best one without
  refine absurd ?_ (not_lt.mpr ((relayClusterBefore_iff "" "").key_le_of_head? hhead hcluster))
  have hnone : ∀ other : RelayClusterView, clusterContainsRelayNode other "" = false :=
    fun other => by simp [clusterContainsRelayNode, Text.trim]
  simp only [relayClusterKey, hnone, Prod.Lex.toLex_lt_toLex, lt_irrefl, true_and, false_or]
  exact .inl (relayClusterRank_lt hnodes hbest)

/-- The cluster of a plan, whichever way it is chosen. -/
theorem picks_chooseRelayCluster (desk : TicketDesk) (live : LiveHealth)
    (userId nodeId networkId peerNodeId : String) {inputs : ConnectPlanInputs}
    (h : inputs.relayCluster = bestRelayCluster desk.cfg live.base "" "") (needRelayTicket : Bool) :
    Picks desk.cfg (chooseRelayCluster desk live userId nodeId networkId peerNodeId inputs
      needRelayTicket).1.2 := by
  have hplan : ∀ preferredNodeId avoidedNodeId, Picks desk.cfg (relayClusterForPreferredNode
      desk.cfg live.plan preferredNodeId avoidedNodeId inputs.relayCluster) := by
    intro preferredNodeId avoidedNodeId
    unfold relayClusterForPreferredNode
    dsimp only
    split
    · rw [h]
      exact picks_bestRelayCluster
    · rename_i hnodes
      rw [List.isEmpty_iff] at hnodes
      exact picks_of_mem (bestRelayCluster_mem hnodes) hnodes
  unfold chooseRelayCluster
  dsimp only
  split
  · unfold relayTicketForConnectPlan
    dsimp only
    split
    · exact hplan _ _
    · exact picks_relayClusterForRequest _
  · exact hplan _ _

end Clusters

/-! ## The paths that are listed -/

def directEndpoints (endpoints : List Endpoint) : List Endpoint :=
  endpoints.filter fun endpoint => endpoint.type ≠ "relay"

/-- The path to the endpoint at a position. -/
def directPath (priority : Int) (i : Nat) (endpoint : Endpoint) : PathOption :=
  ⟨endpoint.type, endpoint.address, directPriority endpoint.type (priority + 10 * i)⟩

theorem directPathsFrom_eq (priority : Int) (endpoints : List Endpoint) :
    directPathsFrom priority endpoints =
      ((directEndpoints endpoints).mapIdx (directPath priority),
        priority + 10 * (directEndpoints endpoints).length) := by
  induction endpoints generalizing priority with
  | nil => simp [directPathsFrom, directEndpoints]
  | cons endpoint rest ih =>
    unfold directPathsFrom directEndpoints
    -- relay endpoints are skipped and do not take up a priority
    by_cases hrelay : endpoint.type = "relay"
    · rw [if_pos hrelay, List.filter_cons_of_neg (by simp [hrelay])]
      exact ih priority
    · rw [if_neg hrelay, List.filter_cons_of_pos (by simp [hrelay]), ih (priority + 10),
        List.mapIdx_cons]
      have hshift : directPath (priority + 10) = fun i => directPath priority (i + 1) := by
        funext i endpoint
        have hnext : priority + 10 + 10 * (i : Int) = priority + 10 * ((i : Int) + 1) := by omega
        unfold directPath
        rw [Nat.cast_add, Nat.cast_one, hnext]
      have hfirst : directPath priority 0 endpoint =
          ⟨endpoint.type, endpoint.address, directPriority endpoint.type priority⟩ := by
        simp [directPath]
      have hlength : priority + 10 + 10 * ((directEndpoints rest).length : Int) =
          priority + 10 * ((endpoint :: directEndpoints rest).length : Int) := by
        rw [List.length_cons, Nat.cast_add, Nat.cast_one]
        omega
      rw [hshift, hfirst, hlength]
      rfl

theorem relayPathsFrom_priority {priority : Int} {nodes : List RelayNodeConfig} :
    ∀ path ∈ relayPathsFrom priority nodes, priority ≤ path.priority := by
  induction nodes generalizing priority with
  | nil => exact List.forall_mem_nil _
  | cons node rest ih =>
    refine List.forall_mem_cons.mpr ⟨le_refl _, fun path hpath => ?_⟩
    have hle := ih path hpath
    omega

theorem relayPathsFrom_pairwise (priority : Int) (nodes : List RelayNodeConfig) :
    (relayPathsFrom priority nodes).Pairwise fun p q => p.priority ≤ q.priority := by
  induction nodes generalizing priority with
  | nil => exact .nil
  | cons node rest ih =>
    refine List.pairwise_cons.mpr ⟨fun path hpath => ?_, ih (priority + 10)⟩
    have hle := relayPathsFrom_priority path hpath
    dsimp only
    omega

/-! ## Types in an order that their priorities keep -/

/-- A type without a priority of its own. -/
def Plain (endpointType : String) : Prop :=
  endpointType ≠ "lan" ∧ endpointType ≠ "wan" ∧ endpointType ≠ "reflexive"

/-- What may stand at position `i` before a type at position `j`. -/
@[mk_iff]
structure MayPrecede (i : Nat) (first : String) (j : Nat) (second : String) : Prop where
  lan : second = "lan" → first = "lan" ∨ Plain first ∧ i = 0
  wan : second = "wan" → first ≠ "reflexive" ∧ (Plain first → i ≤ 1)
  reflexive : second = "reflexive" → Plain first → i ≤ 2
  plain : Plain second → first = "reflexive" → 2 ≤ j

theorem type_cases (endpointType : String) :
    endpointType = "lan" ∨ endpointType = "wan" ∨ endpointType = "reflexive" ∨
      Plain endpointType := by
  unfold Plain
  tauto

theorem directPriority_le_iff {i j : Nat} (h : i < j) (first second : String) :
    directPriority first (10 + 10 * i) ≤ directPriority second (10 + 10 * j) ↔
      MayPrecede i first j second := by
  rw [mayPrecede_iff]
  unfold directPriority
  rcases type_cases first with rfl | rfl | rfl | ⟨h₁, h₂, h₃⟩ <;>
    rcases type_cases second with rfl | rfl | rfl | ⟨h₄, h₅, h₆⟩ <;>
    simp [Plain, *] <;> omega

/-! ## The order of a plan -/

/-- Of the paths, the first `direct` ones are direct. -/
structure PathsInOrder (best : String → Option RelayNodeRank) (direct : Nat)
    (paths : List PathOption) : Prop where
  nondecreasing : paths.Pairwise fun p q => p.priority ≤ q.priority
  relay : ∀ p ∈ paths.take direct, ∀ q ∈ paths.drop direct, p.priority < q.priority
  healthier : ∀ p ∈ paths.take direct, ∀ q ∈ paths.take direct,
    addressBefore best p.endpoint q.endpoint = true → p.priority ≤ q.priority

/-- Types at positions that suit their priorities, also before relay paths if there are any. -/
structure TypesFit (types : List String) (relayPaths : Prop) : Prop where
  precede : ∀ i j first second, i < j → types[i]? = some first → types[j]? = some second →
    MayPrecede i first j second
  wan : relayPaths → "wan" ∈ types → 2 ≤ types.length
  reflexive : relayPaths → "reflexive" ∈ types → 3 ≤ types.length

section Paths

variable {best : String → Option RelayNodeRank} {endpoints : List Endpoint}
  {nodes : List RelayNodeConfig}

theorem addressBefore_iff (best : String → Option RelayNodeRank) :
    Ranks (addressBefore best) fun address =>
      match best address with
      | some rank => (rank.key : WithTop RankKey)
      | none => ⊤ := by
  intro left right
  unfold addressBefore
  cases hleft : best left <;> cases hright : best right <;>
    simp [hleft, hright, betterEndpointRank, betterRelayNodeRank_iff, WithTop.coe_lt_top]

theorem directPaths_pairwise_iff :
    (endpoints.mapIdx (directPath 10)).Pairwise (fun p q => p.priority ≤ q.priority) ↔
      ∀ i j first second, i < j → (endpoints.map Endpoint.type)[i]? = some first →
        (endpoints.map Endpoint.type)[j]? = some second → MayPrecede i first j second := by
  rw [List.pairwise_iff_getElem]
  constructor
  · intro h i j first second hij hfirst hsecond
    obtain ⟨hi, rfl⟩ := List.getElem?_eq_some_iff.mp hfirst
    obtain ⟨hj, rfl⟩ := List.getElem?_eq_some_iff.mp hsecond
    rw [List.length_map] at hi hj
    have hle := h i j (by rwa [List.length_mapIdx]) (by rwa [List.length_mapIdx]) hij
    rw [List.getElem_mapIdx, List.getElem_mapIdx] at hle
    rw [List.getElem_map, List.getElem_map]
    exact (directPriority_le_iff hij _ _).mp hle
  · intro h i j hi hj hij
    rw [List.length_mapIdx] at hi hj
    rw [List.getElem_mapIdx, List.getElem_mapIdx]
    refine (directPriority_le_iff hij _ _).mpr (h i j _ _ hij ?_ ?_)
    · rw [List.getElem?_map, List.getElem?_eq_getElem hi]
      rfl
    · rw [List.getElem?_map, List.getElem?_eq_getElem hj]
      rfl

/-- A direct path is before the relay paths unless its type has a priority for more paths. -/
theorem directPriority_lt_iff {i n : Nat} (h : i < n) (endpointType : String) :
    directPriority endpointType (10 + 10 * i) < 10 + 10 * n ↔
      (endpointType = "wan" → 2 ≤ n) ∧ (endpointType = "reflexive" → 3 ≤ n) := by
  unfold directPriority
  rcases type_cases endpointType with rfl | rfl | rfl | ⟨h₁, h₂, h₃⟩ <;> simp [*] <;> omega

theorem directPaths_lt_iff :
    (∀ p ∈ endpoints.mapIdx (directPath 10), p.priority < 10 + 10 * endpoints.length) ↔
      ("wan" ∈ endpoints.map Endpoint.type → 2 ≤ endpoints.length) ∧
        ("reflexive" ∈ endpoints.map Endpoint.type → 3 ≤ endpoints.length) := by
  have heach : (∀ p ∈ endpoints.mapIdx (directPath 10),
      p.priority < 10 + 10 * endpoints.length) ↔ ∀ endpoint ∈ endpoints,
        (endpoint.type = "wan" → 2 ≤ endpoints.length) ∧
          (endpoint.type = "reflexive" → 3 ≤ endpoints.length) := by
    constructor
    · intro h endpoint hmem
      obtain ⟨i, hi, rfl⟩ := List.mem_iff_getElem.mp hmem
      exact (directPriority_lt_iff hi _).mp (h _ (List.mem_mapIdx.mpr ⟨i, hi, rfl⟩))
    · intro h path hpath
      obtain ⟨i, hi, rfl⟩ := List.mem_mapIdx.mp hpath
      exact (directPriority_lt_iff hi _).mpr (h _ (List.getElem_mem hi))
  rw [heach]
  simp only [List.mem_map]
  constructor
  · intro h
    refine ⟨?_, ?_⟩
    · rintro ⟨endpoint, hmem, htype⟩
      exact (h endpoint hmem).1 htype
    · rintro ⟨endpoint, hmem, htype⟩
      exact (h endpoint hmem).2 htype
  · exact fun h endpoint hmem =>
      ⟨fun htype => h.1 ⟨endpoint, hmem, htype⟩, fun htype => h.2 ⟨endpoint, hmem, htype⟩⟩

/-- Where endpoints stand in the order of their health, the priorities follow it. -/
theorem directPaths_healthier
    (hsorted : endpoints.Pairwise fun a b => addressBefore best b.address a.address = false)
    (hpaths : (endpoints.mapIdx (directPath 10)).Pairwise fun p q => p.priority ≤ q.priority) :
    ∀ p ∈ endpoints.mapIdx (directPath 10), ∀ q ∈ endpoints.mapIdx (directPath 10),
      addressBefore best p.endpoint q.endpoint = true → p.priority ≤ q.priority := by
  intro p hp q hq hbefore
  obtain ⟨i, hi, rfl⟩ := List.mem_mapIdx.mp hp
  obtain ⟨j, hj, rfl⟩ := List.mem_mapIdx.mp hq
  -- a healthier endpoint cannot be at a later position
  rcases Nat.lt_trichotomy i j with hij | rfl | hji
  · rw [List.pairwise_iff_getElem] at hpaths
    have hle := hpaths i j (by rwa [List.length_mapIdx]) (by rwa [List.length_mapIdx]) hij
    rwa [List.getElem_mapIdx, List.getElem_mapIdx] at hle
  · exact le_refl _
  · have hlater := List.pairwise_iff_getElem.mp hsorted j i hj hi hji
    exact absurd (hlater.symm.trans hbefore) Bool.false_ne_true

theorem relayPaths_lt_iff {direct : List PathOption} {priority : Int} :
    (∀ p ∈ direct, ∀ q ∈ relayPathsFrom priority nodes, p.priority < q.priority) ↔
      (nodes ≠ [] → ∀ p ∈ direct, p.priority < priority) := by
  constructor
  · intro h hnodes p hp
    obtain ⟨node, rest, rfl⟩ := List.exists_cons_of_ne_nil hnodes
    exact h p hp _ List.mem_cons_self
  · intro h p hp q hq
    have hnodes : nodes ≠ [] := by
      rintro rfl
      exact List.not_mem_nil hq
    exact lt_of_lt_of_le (h hnodes p hp) (relayPathsFrom_priority q hq)

theorem pathsInOrder_iff_typesFit
    (hsorted : endpoints.Pairwise fun a b => addressBefore best b.address a.address = false) :
    PathsInOrder best endpoints.length (endpoints.mapIdx (directPath 10) ++
        relayPathsFrom (10 + 10 * endpoints.length) nodes) ↔
      TypesFit (endpoints.map Endpoint.type) (nodes ≠ []) := by
  have hlength : (endpoints.mapIdx (directPath 10)).length = endpoints.length :=
    List.length_mapIdx
  let relayPaths := relayPathsFrom (10 + 10 * endpoints.length) nodes
  have htake : (endpoints.mapIdx (directPath 10) ++ relayPaths).take endpoints.length =
      endpoints.mapIdx (directPath 10) := List.take_left' hlength
  have hdrop : (endpoints.mapIdx (directPath 10) ++ relayPaths).drop endpoints.length =
      relayPaths := List.drop_left' hlength
  constructor
  · rintro ⟨hordered, hrelay, -⟩
    rw [htake, hdrop, relayPaths_lt_iff] at hrelay
    have hdirect := directPaths_pairwise_iff.mp (List.pairwise_append.mp hordered).1
    have hlast := fun hnodes => directPaths_lt_iff.mp (hrelay hnodes)
    rw [← List.length_map (f := Endpoint.type)] at hlast
    exact ⟨hdirect, fun hnodes => (hlast hnodes).1, fun hnodes => (hlast hnodes).2⟩
  · rintro ⟨hprecede, hwan, hreflexive⟩
    rw [List.length_map] at hwan hreflexive
    have hdirect := directPaths_pairwise_iff.mpr hprecede
    have hrelay := relayPaths_lt_iff.mpr fun hnodes =>
      directPaths_lt_iff.mpr ⟨hwan hnodes, hreflexive hnodes⟩
    refine ⟨?_, ?_, ?_⟩
    · exact List.pairwise_append.mpr ⟨hdirect, relayPathsFrom_pairwise _ _,
        fun p hp q hq => le_of_lt (hrelay p hp q hq)⟩
    · rw [htake, hdrop]
      exact hrelay
    · rw [htake]
      exact directPaths_healthier hsorted hdirect

end Paths

/-! ## The plan that is built -/

/-- The types of the direct endpoints, the healthiest first. -/
def typesByHealth (endpoints : List Endpoint) (pathHealth : List PathHealthWindow) :
    List String :=
  (directEndpoints (prioritizeDirectEndpoints endpoints pathHealth)).map Endpoint.type

theorem endpointBefore_ranks (best : String → Option RelayNodeRank) :
    Ranks (endpointBefore best) fun endpoint =>
      match best endpoint.address with
      | some rank => (rank.key : WithTop RankKey)
      | none => ⊤ :=
  fun left right => addressBefore_iff best left.address right.address

/-- Endpoints that are left as they are have nothing to be put in order by. -/
theorem prioritizeDirectEndpoints_consistent (pathHealth : List PathHealthWindow) :
    Consistent (endpointBefore (bestByEndpoint pathHealth)) fun endpoints =>
      prioritizeDirectEndpoints endpoints pathHealth := by
  have hsort := (endpointBefore_ranks (bestByEndpoint pathHealth)).consistent
  refine ⟨hsort.weak, fun endpoints => ?_, fun endpoints => ?_⟩
  · unfold prioritizeDirectEndpoints
    split
    · exact .refl endpoints
    · exact hsort.perm endpoints
  · unfold prioritizeDirectEndpoints
    split
    · rename_i hunsorted
      rcases hunsorted with hshort | rfl
      · match endpoints, hshort with
        | [], _ => exact .nil
        | [endpoint], _ => exact List.pairwise_singleton _ _
      · exact List.pairwise_of_forall fun _ _ => rfl
    · exact hsort.ordered endpoints

theorem directEndpoints_sorted (endpoints : List Endpoint) (pathHealth : List PathHealthWindow) :
    (directEndpoints (prioritizeDirectEndpoints endpoints pathHealth)).Pairwise fun a b =>
      addressBefore (bestByEndpoint pathHealth) b.address a.address = false :=
  List.Pairwise.filter _ ((prioritizeDirectEndpoints_consistent pathHealth).ordered endpoints)

theorem directEndpoints_length (endpoints : List Endpoint) (pathHealth : List PathHealthWindow) :
    (directEndpoints (prioritizeDirectEndpoints endpoints pathHealth)).length =
      (directEndpoints endpoints).length :=
  (((prioritizeDirectEndpoints_consistent pathHealth).perm endpoints).filter _).length_eq

section Plan

variable (desk : TicketDesk) (live : LiveHealth) (userId nodeId networkId peerNodeId : String)
  (endpoints : List Endpoint) (sourceNatType peerNatType : String)
  (connectionState : PeerConnection) (groups : List PathHealthWindow)

theorem buildConnectPlan_paths :
    ∃ nodes : List RelayNodeConfig, (nodes ≠ [] ↔ desk.cfg.HasRelayNode) ∧
      (buildConnectPlan desk live userId nodeId networkId peerNodeId endpoints sourceNatType
        peerNatType connectionState groups).1.paths =
        let direct := directEndpoints (prioritizeDirectEndpoints endpoints
          (aggregatePathHealthWindow groups))
        direct.mapIdx (directPath 10) ++ relayPathsFrom (10 + 10 * direct.length) nodes := by
  unfold buildConnectPlan
  rw [composeConnectPlan_paths]
  unfold directPathOptions relayPathOptions
  dsimp only
  rw [directPathsFrom_eq]
  refine ⟨_, ?_, rfl⟩
  rw [Ne, prioritizeRelayNodes_eq_nil]
  exact (picks_chooseRelayCluster desk live userId nodeId networkId peerNodeId rfl _).nodes

/-- The paths of a plan are in order if and only if the types of the direct endpoints, the
healthiest first, suit the fixed priorities. -/
theorem pathsInOrder_iff :
    PathsInOrder (bestByEndpoint (aggregatePathHealthWindow groups))
        (directEndpoints endpoints).length
        (buildConnectPlan desk live userId nodeId networkId peerNodeId endpoints sourceNatType
          peerNatType connectionState groups).1.paths ↔
      TypesFit (typesByHealth endpoints (aggregatePathHealthWindow groups))
        desk.cfg.HasRelayNode := by
  obtain ⟨nodes, hnodes, hpaths⟩ := buildConnectPlan_paths desk live userId nodeId networkId
    peerNodeId endpoints sourceNatType peerNatType connectionState groups
  rw [hpaths, ← directEndpoints_length endpoints (aggregatePathHealthWindow groups),
    pathsInOrder_iff_typesFit (directEndpoints_sorted endpoints _), hnodes]
  rfl

end Plan

/-! ## A healthy WAN path -/

/-- No relay nodes, and no rows. -/
def emptyDesk : TicketDesk where
  mac _ _ := []
  cfg := ⟨"", "", []⟩
  directory := ⟨∅, ∅, ∅, []⟩
  cache := ∅
  fresh := ⟨"", "", ""⟩
  now := 0
  later := 0

/-- A sample of a direct path from one node to another. -/
def directSample (pathType endpoint : String) (score : UInt32) : NodePathHealth where
  networkId := "net"
  nodeId := "node-1"
  peerNodeId := "node-2"
  pathType := pathType
  endpoint := endpoint
  derpNodeId := ""
  observedRttMs := none
  packetLossPpm := none
  pathScore := some score
  sampledAtMs := 0
  updatedAt := 0

/-- The path over the WAN scores better than that over the LAN and is listed first, with the larger
priority. -/
theorem wan_before_lan : ¬∀ (desk : TicketDesk) (live : LiveHealth)
    (userId nodeId networkId peerNodeId : String) (endpoints : List Endpoint)
    (sourceNatType peerNatType : String) (connectionState : PeerConnection)
    (groups : List PathHealthWindow),
    PathsInOrder (bestByEndpoint (aggregatePathHealthWindow groups))
      (directEndpoints endpoints).length
      (buildConnectPlan desk live userId nodeId networkId peerNodeId endpoints sourceNatType
        peerNatType connectionState groups).1.paths := by
  intro h
  let endpoints : List Endpoint :=
    [⟨"lan", "192.168.1.5:4000", 0⟩, ⟨"wan", "203.0.113.5:4000", 0⟩]
  let groups := pathHealthGroups
    [directSample "lan" "192.168.1.5:4000" 10, directSample "wan" "203.0.113.5:4000" 90]
  let noHealth : RelayHealth := fun _ => none
  have hordered := (h emptyDesk ⟨noHealth, noHealth, noHealth, noHealth⟩ "user" "node-1" "net"
    "node-2" endpoints "" "" ⟨⟨"net", "node-1", "node-2", "", "", "", 0⟩, ""⟩ groups).nondecreasing
  have hpaths : (buildConnectPlan emptyDesk ⟨noHealth, noHealth, noHealth, noHealth⟩ "user"
      "node-1" "net" "node-2" endpoints "" "" ⟨⟨"net", "node-1", "node-2", "", "", "", 0⟩, ""⟩
      groups).1.paths =
      [⟨"wan", "203.0.113.5:4000", 20⟩, ⟨"lan", "192.168.1.5:4000", 10⟩] := by
    decide +kernel
  rw [hpaths] at hordered
  exact absurd hordered (by decide)

end Slan.Control
