import Mathlib.Algebra.BigOperators.Group.List.Lemmas
import Slan.Control.ConnectPlan

/-! # `aggregatePathHealthWindow`: the windows and the order of a map -/

namespace Slan.Control

open Ranking (Ranks)

def NodePathHealth.triple (value : NodePathHealth) : String × String × String :=
  (Text.trim value.pathType, Text.trim value.endpoint, Text.trim value.derpNodeId)

def PathHealthWindow.triple (window : PathHealthWindow) : String × String × String :=
  (window.pathType, window.endpoint, window.derpNodeId)

/-- The samples that are joined with one of them. -/
def joined (values : List NodePathHealth) (value : NodePathHealth) : List NodePathHealth :=
  values.filter fun other => other.windowKey = value.windowKey

/-- Whatever the order of the map, the windows, the preferred relay node and the plan are the
same. -/
structure OrderFree (values : List NodePathHealth) : Prop where
  windows : ∀ groups groups' : List PathHealthWindow, groups.Perm (pathHealthGroups values) →
    groups'.Perm (pathHealthGroups values) →
      aggregatePathHealthWindow groups = aggregatePathHealthWindow groups'
  preferred : ∀ groups groups' : List PathHealthWindow, groups.Perm (pathHealthGroups values) →
    groups'.Perm (pathHealthGroups values) → ∀ state,
      preferredRelayNodeId (aggregatePathHealthWindow groups) state =
        preferredRelayNodeId (aggregatePathHealthWindow groups') state
  plan : ∀ groups groups' : List PathHealthWindow, groups.Perm (pathHealthGroups values) →
    groups'.Perm (pathHealthGroups values) →
      ∀ desk live userId nodeId networkId peerNodeId endpoints sourceNatType peerNatType state,
        buildConnectPlan desk live userId nodeId networkId peerNodeId endpoints sourceNatType
            peerNatType state groups =
          buildConnectPlan desk live userId nodeId networkId peerNodeId endpoints sourceNatType
            peerNatType state groups'

/-- One window for each triple, and every sample in one of them. -/
structure Aggregates (values : List NodePathHealth) (windows : List PathHealthWindow) : Prop where
  triples : (windows.map PathHealthWindow.triple).Perm (values.map NodePathHealth.triple).dedup
  samples : (windows.map fun window => window.rank.samples).sum = values.length

/-- Samples that are joined have one triple, and samples that are not are told apart by what they
come to. -/
structure Separated (values : List NodePathHealth) : Prop where
  triples : ∀ v ∈ values, ∀ w ∈ values, v.windowKey = w.windowKey → v.triple = w.triple
  ranks : ∀ v ∈ values, ∀ w ∈ values, v.windowKey ≠ w.windowKey →
    (rankOf (joined values v)).key ≠ (rankOf (joined values w)).key

section Windows

variable {values : List NodePathHealth} {groups : List PathHealthWindow} {v w : NodePathHealth}

theorem windowKey_of_triple (h : v.triple = w.triple) : v.windowKey = w.windowKey := by
  simp only [NodePathHealth.triple, Prod.mk.injEq] at h
  unfold NodePathHealth.windowKey
  rw [h.1, h.2.1, h.2.2]

/-! ## The first samples of the keys -/

theorem firstOfKeys_pairwise (values : List NodePathHealth) :
    (firstOfKeys values).Pairwise fun v w => v.windowKey ≠ w.windowKey := by
  induction values with
  | nil => exact .nil
  | cons value rest ih =>
    refine List.pairwise_cons.mpr ⟨fun other hother => ?_, ih.filter _⟩
    have hne := (List.mem_filter.mp hother).2
    exact (of_decide_eq_true hne).symm

theorem firstOfKeys_inj (hv : v ∈ firstOfKeys values) (hw : w ∈ firstOfKeys values)
    (h : v.windowKey = w.windowKey) : v = w := by
  by_contra hne
  have : Std.Symm fun v w : NodePathHealth => v.windowKey ≠ w.windowKey := ⟨fun _ _ => Ne.symm⟩
  exact (firstOfKeys_pairwise values).forall hv hw hne h

theorem firstOfKeys_map_windowKey_perm (values : List NodePathHealth) :
    ((firstOfKeys values).map NodePathHealth.windowKey).Perm
      (values.map NodePathHealth.windowKey).dedup := by
  refine (List.perm_ext_iff_of_nodup (List.pairwise_map.mpr (firstOfKeys_pairwise values))
    (List.nodup_dedup _)).mpr fun key => ?_
  rw [List.mem_dedup]
  constructor
  · rintro hkey
    obtain ⟨first, hfirst, rfl⟩ := List.mem_map.mp hkey
    exact List.mem_map_of_mem (mem_of_mem_firstOfKeys hfirst)
  · rintro hkey
    obtain ⟨value, hvalue, rfl⟩ := List.mem_map.mp hkey
    obtain ⟨first, hfirst, heq⟩ := exists_mem_firstOfKeys hvalue
    exact List.mem_map.mpr ⟨first, hfirst, heq⟩

/-- Every sample counts in one window. -/
theorem pathHealthGroups_samples (values : List NodePathHealth) :
    ((pathHealthGroups values).map fun window => window.rank.samples).sum = values.length := by
  have hcount : ∀ first : NodePathHealth, (windowOf values first).rank.samples =
      (values.map NodePathHealth.windowKey).count first.windowKey := by
    intro first
    rw [List.count_eq_countP, List.countP_map, List.countP_eq_length_filter]
    refine congrArg List.length (List.filter_congr fun value _ => ?_)
    rw [Function.comp_apply, Bool.eq_iff_iff, decide_eq_true_eq, beq_iff_eq]
  unfold pathHealthGroups
  -- a window has as many samples as its key has among all keys
  rw [List.map_map]
  calc ((firstOfKeys values).map ((fun window => window.rank.samples) ∘ windowOf values)).sum
      = (((firstOfKeys values).map NodePathHealth.windowKey).map
          (values.map NodePathHealth.windowKey).count).sum := by
        rw [List.map_map]
        exact congrArg List.sum (List.map_congr_left fun first _ => hcount first)
    _ = ((values.map NodePathHealth.windowKey).dedup.map
          (values.map NodePathHealth.windowKey).count).sum :=
        ((firstOfKeys_map_windowKey_perm values).map _).sum_eq
    _ = values.length := by
        rw [List.sum_map_count_dedup_eq_length, List.length_map]

/-! ## One window for each triple -/

theorem pathHealthGroups_map_triple (values : List NodePathHealth) :
    (pathHealthGroups values).map PathHealthWindow.triple =
      (firstOfKeys values).map NodePathHealth.triple := by
  unfold pathHealthGroups
  rw [List.map_map]
  rfl

theorem nodup_map_triple (values : List NodePathHealth) :
    ((firstOfKeys values).map NodePathHealth.triple).Nodup := by
  refine List.pairwise_map.mpr ((firstOfKeys_pairwise values).imp fun hne htriple => ?_)
  exact hne (windowKey_of_triple htriple)

/-- The triples of the windows are those of the samples where joined samples have one triple. -/
theorem triples_perm_iff :
    ((pathHealthGroups values).map PathHealthWindow.triple).Perm
        (values.map NodePathHealth.triple).dedup ↔
      ∀ v ∈ values, ∀ w ∈ values, v.windowKey = w.windowKey → v.triple = w.triple := by
  rw [pathHealthGroups_map_triple, List.perm_ext_iff_of_nodup (nodup_map_triple values)
    (List.nodup_dedup _)]
  simp only [List.mem_dedup]
  constructor
  · intro h v hv w hw hkey
    obtain ⟨first, hfirst, hv'⟩ := List.mem_map.mp ((h v.triple).mpr (List.mem_map_of_mem hv))
    obtain ⟨second, hsecond, hw'⟩ := List.mem_map.mp ((h w.triple).mpr (List.mem_map_of_mem hw))
    have hsame : first.windowKey = second.windowKey :=
      (windowKey_of_triple hv').trans (hkey.trans (windowKey_of_triple hw').symm)
    rw [← hv', ← hw', firstOfKeys_inj hfirst hsecond hsame]
  · intro h triple
    constructor
    · intro htriple
      obtain ⟨first, hfirst, rfl⟩ := List.mem_map.mp htriple
      exact List.mem_map_of_mem (mem_of_mem_firstOfKeys hfirst)
    · intro htriple
      obtain ⟨value, hvalue, rfl⟩ := List.mem_map.mp htriple
      obtain ⟨first, hfirst, hkey⟩ := exists_mem_firstOfKeys hvalue
      exact List.mem_map.mpr
        ⟨first, hfirst, h first (mem_of_mem_firstOfKeys hfirst) value hvalue hkey⟩

/-! ## One order of the windows -/

theorem betterPathHealth_ranks : Ranks betterPathHealth fun window => window.rank.key :=
  fun left right => betterRelayNodeRank_iff left.rank right.rank

theorem pathHealthGroups_nodup (values : List NodePathHealth) :
    (pathHealthGroups values).Nodup := by
  refine List.Nodup.of_map PathHealthWindow.triple ?_
  rw [pathHealthGroups_map_triple]
  exact nodup_map_triple values

theorem windowOf_rank (first : NodePathHealth) :
    (windowOf values first).rank = rankOf (joined values first) := rfl

theorem windowOf_mem (hv : v ∈ values) :
    ∃ first ∈ firstOfKeys values, first.windowKey = v.windowKey ∧
      (windowOf values first).rank = rankOf (joined values v) := by
  obtain ⟨first, hfirst, hkey⟩ := exists_mem_firstOfKeys hv
  refine ⟨first, hfirst, hkey, ?_⟩
  rw [windowOf_rank]
  unfold joined
  rw [hkey]

/-- The order of the map does not matter where no two windows have the same rank. -/
theorem windows_eq_iff :
    (∀ groups groups' : List PathHealthWindow, groups.Perm (pathHealthGroups values) →
      groups'.Perm (pathHealthGroups values) →
        aggregatePathHealthWindow groups = aggregatePathHealthWindow groups') ↔
      ∀ v ∈ values, ∀ w ∈ values, v.windowKey ≠ w.windowKey →
        (rankOf (joined values v)).key ≠ (rankOf (joined values w)).key := by
  constructor
  · intro h v hv w hw hne hkey
    obtain ⟨first, hfirst, hv', hrank⟩ := windowOf_mem hv
    obtain ⟨second, hsecond, hw', hrank'⟩ := windowOf_mem hw
    -- two windows of one rank change places with the order of the map
    have heq : windowOf values first = windowOf values second := by
      refine betterPathHealth_ranks.eq_of_insertionSort_eq (pathHealthGroups_nodup values) h
        (List.mem_map_of_mem hfirst) (List.mem_map_of_mem hsecond) ?_
      rw [hrank, hrank', hkey]
    have htriple : first.triple = second.triple := congrArg PathHealthWindow.triple heq
    exact hne (hv'.symm.trans ((windowKey_of_triple htriple).trans hw'))
  · intro h groups groups' hgroups hgroups'
    refine betterPathHealth_ranks.insertionSort_eq_of_perm (hgroups.trans hgroups'.symm) ?_
    intro a ha b hb hkey
    obtain ⟨first, hfirst, rfl⟩ := List.mem_map.mp (hgroups.mem_iff.mp ha)
    obtain ⟨second, hsecond, rfl⟩ := List.mem_map.mp (hgroups.mem_iff.mp hb)
    have hsame : first.windowKey = second.windowKey := by
      by_contra hne
      exact h first (mem_of_mem_firstOfKeys hfirst) second (mem_of_mem_firstOfKeys hsecond) hne hkey
    rw [firstOfKeys_inj hfirst hsecond hsame]

end Windows

/-- The order of the map does not matter and there is one window for each triple, if and only if
joined samples have one triple and the others are told apart by what they come to. -/
theorem orderFree_and_aggregates_iff (values : List NodePathHealth) :
    (OrderFree values ∧ ∀ groups : List PathHealthWindow, groups.Perm (pathHealthGroups values) →
      Aggregates values (aggregatePathHealthWindow groups)) ↔ Separated values := by
  have hperm : ∀ {groups : List PathHealthWindow}, groups.Perm (pathHealthGroups values) →
      (aggregatePathHealthWindow groups).Perm (pathHealthGroups values) := fun hgroups =>
    (List.perm_insertionSort _ _).trans hgroups
  constructor
  · rintro ⟨⟨hwindows, -, -⟩, haggregates⟩
    have htriples := (haggregates _ (.refl _)).triples
    have hgroups := (hperm (.refl _)).map PathHealthWindow.triple
    exact ⟨triples_perm_iff.mp (hgroups.symm.trans htriples), windows_eq_iff.mp hwindows⟩
  · rintro ⟨htriples, hranks⟩
    have hwindows := windows_eq_iff.mpr hranks
    refine ⟨⟨hwindows, fun groups groups' h h' state => ?_, fun groups groups' h h' => ?_⟩,
      fun groups hgroups => ⟨?_, ?_⟩⟩
    · rw [hwindows groups groups' h h']
    · intro desk live userId nodeId networkId peerNodeId endpoints sourceNatType peerNatType state
      unfold buildConnectPlan
      rw [hwindows groups groups' h h']
    · exact ((hperm hgroups).map _).trans (triples_perm_iff.mpr htriples)
    · rw [((hperm hgroups).map _).sum_eq]
      exact pathHealthGroups_samples values

/-! ## Samples that are alike -/

/-- A sample of a path over a relay node. -/
def relaySample (endpoint derpNodeId : String) : NodePathHealth where
  networkId := "net"
  nodeId := "node-1"
  peerNodeId := "node-2"
  pathType := "relay_udp"
  endpoint := endpoint
  derpNodeId := derpNodeId
  observedRttMs := none
  packetLossPpm := none
  pathScore := some 90
  sampledAtMs := 0
  updatedAt := 0

/-- Of two relay nodes with the same score the one that comes out of the map first is preferred,
and a separator in a field joins the samples of two relay nodes. -/
theorem preferred_in_map_order : (¬∀ values, OrderFree values) ∧
    ¬∀ values (groups : List PathHealthWindow), groups.Perm (pathHealthGroups values) →
      Aggregates values (aggregatePathHealthWindow groups) := by
  constructor
  · intro h
    let values := [relaySample "192.0.2.1:9000" "relay-a", relaySample "192.0.2.2:9000" "relay-b"]
    have hpreferred := (h values).preferred (pathHealthGroups values)
      (pathHealthGroups values).reverse (.refl _) (List.reverse_perm _)
      ⟨⟨"net", "node-1", "node-2", "", "", "", 0⟩, ""⟩
    have hdiffer : preferredRelayNodeId (aggregatePathHealthWindow (pathHealthGroups values))
          ⟨⟨"net", "node-1", "node-2", "", "", "", 0⟩, ""⟩ = "relay-a" ∧
        preferredRelayNodeId (aggregatePathHealthWindow (pathHealthGroups values).reverse)
          ⟨⟨"net", "node-1", "node-2", "", "", "", 0⟩, ""⟩ = "relay-b" := by
      decide +kernel
    rw [hdiffer.1, hdiffer.2] at hpreferred
    exact absurd hpreferred (by decide)
  · intro h
    let values := [relaySample "192.0.2.1:9000|relay" "a", relaySample "192.0.2.1:9000" "relay|a"]
    have htriples := (h values (pathHealthGroups values) (.refl _)).triples.length_eq
    have hlengths : ((aggregatePathHealthWindow (pathHealthGroups values)).map
          PathHealthWindow.triple).length = 1 ∧
        (values.map NodePathHealth.triple).dedup.length = 2 := by
      decide +kernel
    rw [hlengths.1, hlengths.2] at htriples
    exact absurd htriples (by decide)

end Slan.Control
