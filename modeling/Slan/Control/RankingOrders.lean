import Slan.Control.HealthWindows
import Slan.Control.PlanOrder

/-! # The comparisons that the plans sort by -/

namespace Slan.Control

open Ranking (Consistent Ranks)

variable {preferredNodeId avoidedNodeId : String} {health : RelayHealth}

theorem relayNodeKey_injOn {nodes : List RelayNodeConfig}
    (h : (nodes.map RelayNodeConfig.nodeId).Nodup) : ∀ a ∈ nodes, ∀ b ∈ nodes,
      relayNodeKey preferredNodeId avoidedNodeId health a =
        relayNodeKey preferredNodeId avoidedNodeId health b → a = b := by
  intro a ha b hb hkey
  have hid : a.nodeId = b.nodeId := by
    simp only [relayNodeKey, toLex_inj, Prod.mk.injEq] at hkey
    exact hkey.2.2.2.2
  exact List.inj_on_of_nodup_map h ha hb hid

theorem relayClusterKey_injOn {clusters : List RelayClusterView}
    (h : (clusters.map RelayClusterView.clusterId).Nodup) : ∀ a ∈ clusters, ∀ b ∈ clusters,
      relayClusterKey preferredNodeId avoidedNodeId a =
        relayClusterKey preferredNodeId avoidedNodeId b → a = b := by
  intro a ha b hb hkey
  have hid : a.clusterId = b.clusterId := by
    simp only [relayClusterKey, toLex_inj, Prod.mk.injEq] at hkey
    exact hkey.2.2.2
  exact List.inj_on_of_nodup_map h ha hb hid

/-- The comparisons of the plans are strict weak orders, their sorts leave nothing before what is
better, and relay nodes or clusters of different ids come out in one order. -/
theorem rankings_consistent (pathHealth : List PathHealthWindow)
    (preferredNodeId avoidedNodeId : String) (health : RelayHealth) :
    (IsStrictWeakOrder RelayNodeRank fun left right => betterEndpointRank left right = true) ∧
      (IsStrictWeakOrder RelayNodeRank fun left right => betterRelayNodeRank left right = true) ∧
      Consistent (endpointBefore (bestByEndpoint pathHealth))
        (fun endpoints => prioritizeDirectEndpoints endpoints pathHealth) ∧
      Consistent betterPathHealth aggregatePathHealthWindow ∧
      Consistent (relayNodeBefore preferredNodeId avoidedNodeId health)
        (fun nodes => prioritizeRelayNodes nodes preferredNodeId avoidedNodeId health) ∧
      Consistent (relayClusterBefore preferredNodeId avoidedNodeId)
        (fun clusters => sortRelayClusters clusters preferredNodeId avoidedNodeId) ∧
      (∀ nodes nodes' : List RelayNodeConfig, (nodes.map RelayNodeConfig.nodeId).Nodup →
        nodes.Perm nodes' → prioritizeRelayNodes nodes preferredNodeId avoidedNodeId health =
          prioritizeRelayNodes nodes' preferredNodeId avoidedNodeId health) ∧
      ∀ clusters clusters' : List RelayClusterView,
        (clusters.map RelayClusterView.clusterId).Nodup → clusters.Perm clusters' →
          sortRelayClusters clusters preferredNodeId avoidedNodeId =
            sortRelayClusters clusters' preferredNodeId avoidedNodeId := by
  have hrank : Ranks betterRelayNodeRank RelayNodeRank.key := betterRelayNodeRank_iff
  have hnode : Ranks (relayNodeBefore preferredNodeId avoidedNodeId health)
      (relayNodeKey preferredNodeId avoidedNodeId health) :=
    relayNodeBefore_iff preferredNodeId avoidedNodeId health
  have hcluster := relayClusterBefore_iff preferredNodeId avoidedNodeId
  refine ⟨hrank.isStrictWeakOrder, hrank.isStrictWeakOrder,
    prioritizeDirectEndpoints_consistent pathHealth, betterPathHealth_ranks.consistent,
    hnode.consistent, hcluster.consistent, ?_, ?_⟩
  · intro nodes nodes' hids hperm
    exact hnode.insertionSort_eq_of_perm hperm (relayNodeKey_injOn hids)
  · intro clusters clusters' hids hperm
    exact hcluster.insertionSort_eq_of_perm hperm (relayClusterKey_injOn hids)

/-- Two nodes, and two clusters, whichever comes first. -/
theorem rankings_of_two :
    prioritizeRelayNodes [⟨"node-1", "tcp", "192.0.2.1:443", 1, []⟩,
        ⟨"node-2", "tcp", "192.0.2.2:443", 1, []⟩] "node-2" "" (fun _ => none) =
      prioritizeRelayNodes [⟨"node-2", "tcp", "192.0.2.2:443", 1, []⟩,
        ⟨"node-1", "tcp", "192.0.2.1:443", 1, []⟩] "node-2" "" (fun _ => none) ∧
    sortRelayClusters [⟨"DE", "", "ber", "", "derp-1", "", []⟩,
        ⟨"DE", "", "ber", "", "derp-2", "", []⟩] "node-2" "" =
      sortRelayClusters [⟨"DE", "", "ber", "", "derp-2", "", []⟩,
        ⟨"DE", "", "ber", "", "derp-1", "", []⟩] "node-2" "" := by
  obtain ⟨-, -, -, -, -, -, hnodes, hclusters⟩ :=
    rankings_consistent [] "node-2" "" fun _ => none
  exact ⟨hnodes _ _ (by decide) (.swap _ _ _), hclusters _ _ (by decide) (.swap _ _ _)⟩

end Slan.Control
