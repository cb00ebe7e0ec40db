import Mathlib.Data.Int.ConditionallyCompleteOrder
import Mathlib.Data.List.MinMax
import Mathlib.Data.Prod.Lex
import Mathlib.Order.ConditionallyCompleteLattice.Basic
import Mathlib.Order.WithBot
import Slan.Control.RelayClusters
import Slan.Lib.Ranking

/-! # `control_plan.go`, `control_relay.go`: path health samples and what they rank first

The averages are exact rationals, as in the ranks of the relay nodes.
-/

namespace Slan.Control

open Ranking (Ranks)

/-- A path health report as it comes in. -/
structure PathHealthReport where
  networkId : String
  peerNodeId : String
  pathType : String
  endpoint : String
  derpNodeId : String
  observedRttMs : Option UInt32
  packetLossPpm : Option UInt32
  pathScore : Option UInt32
  sampledAtMs : Nat
  deriving DecidableEq, Repr

structure NodePathHealth where
  networkId : String
  nodeId : String
  peerNodeId : String
  pathType : String
  endpoint : String
  derpNodeId : String
  observedRttMs : Option UInt32
  packetLossPpm : Option UInt32
  pathScore : Option UInt32
  sampledAtMs : Nat
  updatedAt : Int
  deriving DecidableEq, Repr

/-! ## Storing samples -/

/-- The record that `ReportPathHealth` writes for an accepted report. -/
def pathHealthRecord (sourceNodeId : String) (report : PathHealthReport) (nowMs : Nat)
    (nowUnix : Int) : NodePathHealth where
  networkId := report.networkId
  nodeId := sourceNodeId
  peerNodeId := report.peerNodeId
  pathType := Text.trim report.pathType
  endpoint := Text.trim report.endpoint
  derpNodeId := Text.trim report.derpNodeId
  observedRttMs := report.observedRttMs
  packetLossPpm := report.packetLossPpm
  pathScore := report.pathScore
  sampledAtMs := if report.sampledAtMs = 0 then nowMs else report.sampledAtMs
  updatedAt := nowUnix

/-- The columns of the unique index. -/
def NodePathHealth.sameKey (row record : NodePathHealth) : Bool :=
  row.networkId == record.networkId && row.nodeId == record.nodeId &&
    row.peerNodeId == record.peerNodeId && row.pathType == record.pathType &&
    row.endpoint == record.endpoint && row.derpNodeId == record.derpNodeId

/-- On a conflict the measured columns are overwritten, which leaves the record as it is. -/
def upsertNodePathHealth (record : NodePathHealth) : List NodePathHealth → List NodePathHealth
  | [] => [record]
  | row :: rest =>
    if row.sameKey record then record :: rest else row :: upsertNodePathHealth record rest

/-! ## Ranks -/

def average (values : List UInt32) : ℚ :=
  if values = [] then 0 else (values.map fun v => (v.toNat : ℚ)).sum / values.length

/-- What a group of samples comes to. -/
def rankOf (values : List NodePathHealth) : RelayNodeRank where
  scoreAvg := average (values.filterMap NodePathHealth.pathScore)
  rttAvg := average (values.filterMap NodePathHealth.observedRttMs)
  hasScore := values.any fun value => value.pathScore.isSome
  hasRtt := values.any fun value => value.observedRttMs.isSome
  samples := values.length
  sampledAt := values.foldl (fun sampledAt value => max sampledAt value.sampledAtMs) 0

/-- The recent samples of one relay node, whoever took them. -/
def relayNodeHealth (values : List NodePathHealth) : RelayHealth := fun nodeId =>
  let group := values.filter fun value => Text.trim value.derpNodeId = nodeId
  if nodeId = "" ∨ group = [] then none else some (rankOf group)

/-! ## The preferred relay node -/

structure PathHealthWindow where
  pathType : String
  endpoint : String
  derpNodeId : String
  rank : RelayNodeRank
  deriving DecidableEq, Repr

/-- The same comparison as between relay nodes. -/
def betterPathHealth (left right : PathHealthWindow) : Bool :=
  betterRelayNodeRank left.rank right.rank

def NodePathHealth.windowKey (value : NodePathHealth) : String :=
  "|".intercalate [Text.trim value.pathType, Text.trim value.endpoint, Text.trim value.derpNodeId]

/-- The samples that share the key of one of them. -/
def windowOf (values : List NodePathHealth) (first : NodePathHealth) : PathHealthWindow where
  pathType := Text.trim first.pathType
  endpoint := Text.trim first.endpoint
  derpNodeId := Text.trim first.derpNodeId
  rank := rankOf (values.filter fun value => value.windowKey = first.windowKey)

/-- The first sample of every key. -/
def firstOfKeys : List NodePathHealth → List NodePathHealth
  | [] => []
  | value :: rest =>
    value :: (firstOfKeys rest).filter fun other => other.windowKey ≠ value.windowKey

/-- The windows, in the order in which the groups come out of the map. -/
def pathHealthGroups (values : List NodePathHealth) : List PathHealthWindow :=
  (firstOfKeys values).map (windowOf values)

/-- `aggregatePathHealthWindow`, from the groups in the order of the map. -/
def aggregatePathHealthWindow (groups : List PathHealthWindow) : List PathHealthWindow :=
  sortStable betterPathHealth groups

/-- A window that may name the preferred relay node. -/
def PathHealthWindow.isRelay (health : PathHealthWindow) : Bool :=
  let pathType := Text.trim health.pathType
  !Text.isBlank health.derpNodeId &&
    (pathType == "relay" || pathType == "derp" || "relay_".toList.isPrefixOf pathType.toList)

def bestRelayWindow (pathHealth : List PathHealthWindow) : Option PathHealthWindow :=
  (pathHealth.filter PathHealthWindow.isRelay).foldl (fun best health =>
    match best with
    | some best => if betterPathHealth health best then some health else some best
    | none => some health) none

def preferredRelayNodeIdFromPathHealth (pathHealth : List PathHealthWindow) : String :=
  match bestRelayWindow pathHealth with
  | some best => Text.trim best.derpNodeId
  | none => ""

/-! ## Comparing ranks

Both comparisons go through the parts of a rank one after the other, so they compare keys.
-/

abbrev RankKey := Bool ×ₗ ℚ ×ₗ Bool ×ₗ ℚ ×ₗ ℤ ×ₗ ℤ

/-- The smaller the better; a part that is not there counts as 0. -/
def RelayNodeRank.key (rank : RelayNodeRank) : RankKey :=
  toLex (!rank.hasScore, toLex (if rank.hasScore then -rank.scoreAvg else 0,
    toLex (!rank.hasRtt, toLex (if rank.hasRtt then rank.rttAvg else 0,
      toLex (-(rank.samples : ℤ), -(rank.sampledAt : ℤ))))))

theorem betterRelayNodeRank_iff (left right : RelayNodeRank) :
    betterRelayNodeRank left right = true ↔ left.key < right.key := by
  obtain ⟨scoreL, rttL, hasScoreL, hasRttL, samplesL, sampledL⟩ := left
  obtain ⟨scoreR, rttR, hasScoreR, hasRttR, samplesR, sampledR⟩ := right
  simp only [RelayNodeRank.key, Prod.Lex.toLex_lt_toLex, betterRelayNodeRank]
  cases hasScoreL <;> cases hasScoreR <;> cases hasRttL <;> cases hasRttR <;>
    simp [Bool.lt_iff] <;> grind

theorem betterRelayNodeRank_eq_false_iff (left right : RelayNodeRank) :
    betterRelayNodeRank left right = false ↔ right.key ≤ left.key := by
  rw [← not_lt, ← betterRelayNodeRank_iff, Bool.not_eq_true]

/-- The better average score decides, whatever else the samples say. -/
theorem betterRelayNodeRank_of_scoreAvg {left right : RelayNodeRank}
    (hleft : left.hasScore = true) (hright : right.hasScore = true)
    (hscore : right.scoreAvg < left.scoreAvg) : betterRelayNodeRank left right = true := by
  have hne : left.scoreAvg ≠ right.scoreAvg := hscore.ne'
  simp [betterRelayNodeRank, hleft, hright, hne, hscore]

abbrev RelayNodeKey := Bool ×ₗ Bool ×ₗ WithTop RankKey ×ₗ ℤ ×ₗ String

/-- A node without samples comes after every other. -/
def relayNodeKey (preferredNodeId avoidedNodeId : String) (health : RelayHealth)
    (node : RelayNodeConfig) : RelayNodeKey :=
  toLex (!(node.nodeId == preferredNodeId), toLex (node.nodeId == avoidedNodeId,
    toLex ((match health node.nodeId with
      | some rank => (rank.key : WithTop RankKey)
      | none => ⊤),
      toLex (node.priority, node.nodeId))))

theorem relayNodeBefore_iff (preferredNodeId avoidedNodeId : String) (health : RelayHealth)
    (left right : RelayNodeConfig) :
    relayNodeBefore preferredNodeId avoidedNodeId health left right = true ↔
      relayNodeKey preferredNodeId avoidedNodeId health left <
        relayNodeKey preferredNodeId avoidedNodeId health right := by
  simp only [relayNodeKey, Prod.Lex.toLex_lt_toLex, relayNodeBefore]
  cases left.nodeId == preferredNodeId <;> cases right.nodeId == preferredNodeId <;>
    cases left.nodeId == avoidedNodeId <;> cases right.nodeId == avoidedNodeId <;>
    cases hl : health left.nodeId <;> cases hr : health right.nodeId <;>
    simp [Bool.lt_iff, WithTop.coe_lt_top] <;> grind [betterRelayNodeRank_iff]

/-- A node is never listed before one that is strictly before it. -/
theorem prioritizeRelayNodes_not_sublist {preferredNodeId avoidedNodeId : String}
    {health : RelayHealth} {left right : RelayNodeConfig}
    (h : relayNodeBefore preferredNodeId avoidedNodeId health left right = true)
    (nodes : List RelayNodeConfig) :
    ¬ [right, left].Sublist (prioritizeRelayNodes nodes preferredNodeId avoidedNodeId health) :=
  Ranks.not_sublist_insertionSort (relayNodeBefore_iff preferredNodeId avoidedNodeId health) h nodes

/-- The window that names the preferred node is among the best. -/
theorem bestRelayWindow_eq_argmin (pathHealth : List PathHealthWindow) :
    bestRelayWindow pathHealth =
      (pathHealth.filter PathHealthWindow.isRelay).argmin fun window => window.rank.key := by
  unfold bestRelayWindow List.argmin
  congr 1
  funext best health
  cases best with
  | none => rfl
  | some best =>
    simp only [betterPathHealth, betterRelayNodeRank_iff, List.argAux]

/-! ## Averages -/

theorem average_of_forall_eq {values : List UInt32} {v : UInt32} (hne : values ≠ [])
    (h : ∀ w ∈ values, w = v) : average values = v.toNat := by
  have hlen : (values.length : ℚ) ≠ 0 := by
    exact_mod_cast (List.length_pos_iff.mpr hne).ne'
  rw [average, if_neg hne, List.eq_replicate_of_mem h, List.map_replicate, List.sum_replicate,
    List.length_replicate, nsmul_eq_mul, mul_div_cancel_left₀ _ hlen]

/-- The rank of samples that all carry the same score. -/
theorem rankOf_of_pathScore {values : List NodePathHealth} {score : UInt32} (hne : values ≠ [])
    (h : ∀ value ∈ values, value.pathScore = some score) :
    (rankOf values).hasScore = true ∧ (rankOf values).scoreAvg = score.toNat := by
  obtain ⟨first, hfirst⟩ := List.exists_mem_of_ne_nil values hne
  refine ⟨List.any_eq_true.mpr ⟨first, hfirst, by rw [h first hfirst]; rfl⟩, ?_⟩
  apply average_of_forall_eq
  · have hmem : score ∈ values.filterMap NodePathHealth.pathScore :=
      List.mem_filterMap.mpr ⟨first, hfirst, h first hfirst⟩
    exact List.ne_nil_of_mem hmem
  · intro w hw
    obtain ⟨value, hvalue, hscore⟩ := List.mem_filterMap.mp hw
    rw [h value hvalue] at hscore
    exact (Option.some.inj hscore).symm

/-! ## Windows -/

theorem mem_of_mem_firstOfKeys {value : NodePathHealth} {values : List NodePathHealth}
    (h : value ∈ firstOfKeys values) : value ∈ values := by
  induction values with
  | nil => exact h
  | cons first rest ih =>
    rcases List.mem_cons.mp h with rfl | h
    · exact List.mem_cons_self
    · exact List.mem_cons_of_mem first (ih (List.mem_filter.mp h).1)

theorem exists_mem_firstOfKeys {value : NodePathHealth} {values : List NodePathHealth}
    (h : value ∈ values) : ∃ first ∈ firstOfKeys values, first.windowKey = value.windowKey := by
  induction values with
  | nil => cases h
  | cons head rest ih =>
    by_cases hkey : head.windowKey = value.windowKey
    · exact ⟨head, List.mem_cons_self, hkey⟩
    · have hrest : value ∈ rest := by
        rcases List.mem_cons.mp h with rfl | h
        · exact absurd rfl hkey
        · exact h
      obtain ⟨first, hfirst, heq⟩ := ih hrest
      have hne : first.windowKey ≠ head.windowKey := fun h => hkey (h.symm.trans heq)
      exact ⟨first, List.mem_cons_of_mem head
        (List.mem_filter.mpr ⟨hfirst, decide_eq_true hne⟩), heq⟩

theorem mem_aggregatePathHealthWindow {window : PathHealthWindow}
    {groups : List PathHealthWindow} :
    window ∈ aggregatePathHealthWindow groups ↔ window ∈ groups := List.mem_insertionSort _

/-- The preferred node is named by a window than which no relay window is better. -/
theorem preferredRelayNodeId_spec {pathHealth : List PathHealthWindow} {window : PathHealthWindow}
    (hwindow : window ∈ pathHealth) (hrelay : window.isRelay = true) :
    ∃ best ∈ pathHealth, preferredRelayNodeIdFromPathHealth pathHealth =
      Text.trim best.derpNodeId ∧ betterPathHealth window best = false := by
  have hmem : window ∈ pathHealth.filter PathHealthWindow.isRelay :=
    List.mem_filter.mpr ⟨hwindow, hrelay⟩
  cases hbest : bestRelayWindow pathHealth with
  | none =>
    rw [bestRelayWindow_eq_argmin, List.argmin_eq_none] at hbest
    rw [hbest] at hmem
    cases hmem
  | some best =>
    refine ⟨best, ?_, by rw [preferredRelayNodeIdFromPathHealth, hbest], ?_⟩
    · rw [bestRelayWindow_eq_argmin] at hbest
      exact (List.mem_filter.mp (List.argmin_mem hbest)).1
    · rw [bestRelayWindow_eq_argmin] at hbest
      have hle : best.rank.key ≤ window.rank.key := by
        simpa only using List.le_of_mem_argmin hmem hbest
      exact (betterRelayNodeRank_eq_false_iff window.rank best.rank).mpr hle

/-! ## Stored samples -/

/-- Every stored row is one of the records that were written. -/
theorem mem_upsertNodePathHealth {record row : NodePathHealth} {rows : List NodePathHealth}
    (h : row ∈ upsertNodePathHealth record rows) : row = record ∨ row ∈ rows := by
  induction rows with
  | nil => exact .inl (List.mem_singleton.mp h)
  | cons first rest ih =>
    unfold upsertNodePathHealth at h
    split at h
    · rcases List.mem_cons.mp h with rfl | h
      · exact .inl rfl
      · exact .inr (List.mem_cons_of_mem first h)
    · rcases List.mem_cons.mp h with rfl | h
      · exact .inr List.mem_cons_self
      · exact (ih h).imp id (List.mem_cons_of_mem first)

end Slan.Control
