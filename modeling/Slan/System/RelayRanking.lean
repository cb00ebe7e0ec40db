import Slan.Client.DerpPool
import Slan.Control.PathHealth

/-! # The score of a relay link, from the client's pool to the control plane's ranking

The client takes the link with the smallest score. Reported as a path score it is compared by the
control plane, where the largest average comes first.
-/

namespace Slan.System

open Slan.Client Slan.Control

/-- A report as the control plane has it; the JSON between them keeps every field. -/
def receivedReport (report : ControlWsPathHealthReport) : PathHealthReport where
  networkId := report.networkId
  peerNodeId := report.peerNodeId
  pathType := report.pathType
  endpoint := report.endpoint.getD ""
  derpNodeId := report.derpNodeId.getD ""
  observedRttMs := report.observedRttMs
  packetLossPpm := report.packetLossPpm
  pathScore := report.pathScore
  sampledAtMs := report.sampledAtMs

/-- The record of a probe that some client took while the link was its active one. -/
def ReportedFor (link : ManagedLink) (row : NodePathHealth) : Prop :=
  ∃ (pool : DerpPoolState) (isActive : Bool) (clusterId nodeId networkId peerNodeId : String)
    (endpoint : Option String) (sampledAtMs : Nat) (sourceNodeId : String) (nowMs : Nat)
    (nowUnix : Int), pool.activeLink = some (link.snapshot isActive) ∧
      row = pathHealthRecord sourceNodeId
        (receivedReport (pathHealthReport networkId peerNodeId endpoint
          (probeHealth pool sampledAtMs (.derp clusterId nodeId)))) nowMs nowUnix

/-- The name of a link's relay node in the stored samples. -/
def relayName (link : ManagedLink) : String := Text.trim link.nodeMeta.nodeId

/-- Among the recent samples are reports about both links, and all samples of their relay nodes
are such reports. -/
structure Reported (a b : ManagedLink) (values : List NodePathHealth) : Prop where
  ofA : ∃ row ∈ values, ReportedFor a row
  ofB : ∃ row ∈ values, ReportedFor b row
  only : ∀ row ∈ values,
    Text.trim row.derpNodeId = relayName a ∨ Text.trim row.derpNodeId = relayName b →
    ReportedFor a row ∨ ReportedFor b row

/-- The control plane does not put the second link's relay node before the first one's, neither
in its ranking nor as the preferred relay node. -/
structure RankedAlike (a b : ManagedLink) (values : List NodePathHealth) : Prop where
  ranking : ∀ rankA rankB, relayNodeHealth values (relayName a) = some rankA →
    relayNodeHealth values (relayName b) = some rankB → betterRelayNodeRank rankB rankA = false
  preferred : ∀ groups, groups.Perm (pathHealthGroups values) →
    relayName a ≠ "" → relayName b ≠ "" → relayName a ≠ relayName b →
    preferredRelayNodeIdFromPathHealth (aggregatePathHealthWindow groups) ≠ relayName b

/-! ## What is stored for a link -/

theorem probeHealth_of_activeLink {pool : DerpPoolState} {snapshot : DerpLinkSnapshot}
    (h : pool.activeLink = some snapshot) (sampledAtMs : Nat) (clusterId nodeId : String) :
    probeHealth pool sampledAtMs (.derp clusterId nodeId) =
      ⟨sampledAtMs, .derp clusterId nodeId, some snapshot.health.rttMsEwma,
        some snapshot.health.lossPpm, some snapshot.health.score, some snapshot.nodeMeta.clusterId,
        some snapshot.nodeMeta.nodeId⟩ := by
  simp only [probeHealth, h]

section Stored

variable {link : ManagedLink} {row : NodePathHealth}

theorem ReportedFor.pathScore (h : ReportedFor link row) : row.pathScore = some link.score := by
  obtain ⟨pool, isActive, clusterId, nodeId, _, _, _, sampledAtMs, _, _, _, hactive, rfl⟩ := h
  rw [probeHealth_of_activeLink hactive]
  exact congrArg some (link.snapshot_score isActive)

theorem ReportedFor.pathType (h : ReportedFor link row) : Text.trim row.pathType = "derp" := by
  obtain ⟨pool, isActive, clusterId, nodeId, _, _, _, sampledAtMs, _, _, _, hactive, rfl⟩ := h
  rw [probeHealth_of_activeLink hactive]
  exact (by decide : Text.trim (Text.trim "derp") = "derp")

theorem ReportedFor.derpNodeId (h : ReportedFor link row) :
    Text.trim row.derpNodeId = relayName link := by
  obtain ⟨pool, isActive, clusterId, nodeId, _, _, _, sampledAtMs, _, _, _, hactive, rfl⟩ := h
  rw [probeHealth_of_activeLink hactive]
  exact Text.trim_trim link.nodeMeta.nodeId

end Stored

/-! ## The rank of a relay node -/

/-- A sample with the name of one link is a report about that link. -/
theorem Reported.reportedFor {a b link : ManagedLink} {values : List NodePathHealth}
    (h : Reported a b values) (hlink : link = a ∨ link = b) (hne : relayName a ≠ relayName b)
    {row : NodePathHealth} (hrow : row ∈ values)
    (hname : Text.trim row.derpNodeId = relayName link) : ReportedFor link row := by
  have hor := h.only row hrow (hlink.imp (fun heq => by rw [hname, heq])
    fun heq => by rw [hname, heq])
  -- A report about the other link would carry the other name.
  rcases hlink with rfl | rfl <;> rcases hor with hrep | hrep
  · exact hrep
  · exact absurd (hname.symm.trans hrep.derpNodeId) hne
  · exact absurd (hrep.derpNodeId.symm.trans hname) hne
  · exact hrep

/-- The average of a relay node's samples is the score of the link to it. -/
theorem Reported.rank {a b link : ManagedLink} {values : List NodePathHealth}
    (h : Reported a b values) (hlink : link = a ∨ link = b) (hname : relayName link ≠ "")
    (hne : relayName a ≠ relayName b) :
    ∃ rank, relayNodeHealth values (relayName link) = some rank ∧ rank.hasScore = true ∧
      rank.scoreAvg = link.score.toNat := by
  let group := values.filter fun value => Text.trim value.derpNodeId = relayName link
  have hall : ∀ value ∈ group, value.pathScore = some link.score := by
    intro value hvalue
    obtain ⟨hin, hvaluename⟩ := List.mem_filter.mp hvalue
    exact (h.reportedFor hlink hne hin (of_decide_eq_true hvaluename)).pathScore
  have hgroup : group ≠ [] := by
    have hrow : ∃ row ∈ values, ReportedFor link row := by
      rcases hlink with rfl | rfl
      · exact h.ofA
      · exact h.ofB
    obtain ⟨row, hrow, hrep⟩ := hrow
    exact List.ne_nil_of_mem (List.mem_filter.mpr ⟨hrow, decide_eq_true hrep.derpNodeId⟩)
  refine ⟨rankOf group, ?_, rankOf_of_pathScore hgroup hall⟩
  exact if_neg (not_or.mpr ⟨hname, hgroup⟩)

/-- Of two named relay nodes the one that the client's pool finds worse ranks first. -/
theorem Reported.worse_ranks_first {a b : ManagedLink} {values : List NodePathHealth}
    (h : Reported a b values) (hscore : a.score < b.score) (ha : relayName a ≠ "")
    (hb : relayName b ≠ "") (hne : relayName a ≠ relayName b) :
    ∃ rankA rankB, relayNodeHealth values (relayName a) = some rankA ∧
      relayNodeHealth values (relayName b) = some rankB ∧
      betterRelayNodeRank rankB rankA = true := by
  obtain ⟨rankA, hrankA, hhasA, havgA⟩ := h.rank (.inl rfl) ha hne
  obtain ⟨rankB, hrankB, hhasB, havgB⟩ := h.rank (.inr rfl) hb hne
  refine ⟨rankA, rankB, hrankA, hrankB, betterRelayNodeRank_of_scoreAvg hhasB hhasA ?_⟩
  rw [havgA, havgB]
  exact_mod_cast UInt32.lt_iff_toNat_lt.mp hscore

/-- So in every cluster that has both nodes, under their trimmed names, it is listed first. -/
theorem Reported.worse_listed_first {a b : ManagedLink} {values : List NodePathHealth}
    (h : Reported a b values) (hscore : a.score < b.score) {nodeA nodeB : RelayNodeConfig}
    (hnodeA : nodeA.nodeId = relayName a) (hnodeB : nodeB.nodeId = relayName b)
    (ha : relayName a ≠ "") (hb : relayName b ≠ "") (hne : relayName a ≠ relayName b)
    (nodes : List RelayNodeConfig) :
    ¬ [nodeA, nodeB].Sublist (prioritizeRelayNodes nodes "" "" (relayNodeHealth values)) := by
  obtain ⟨rankA, rankB, hrankA, hrankB, hbetter⟩ := h.worse_ranks_first hscore ha hb hne
  apply prioritizeRelayNodes_not_sublist
  simp [relayNodeBefore, hnodeA, hnodeB, ha, hb, hrankA, hrankB, hbetter]

/-- And where the names keep the windows of different nodes apart, the better one is not the
preferred node. -/
theorem Reported.better_not_preferred {a b : ManagedLink} {values : List NodePathHealth}
    (h : Reported a b values) (hscore : a.score < b.score) (hb : relayName b ≠ "")
    (hne : relayName a ≠ relayName b)
    (hkeys : ∀ row ∈ values, ∀ row' ∈ values, row.windowKey = row'.windowKey →
      Text.trim row.derpNodeId = Text.trim row'.derpNodeId)
    {groups : List PathHealthWindow} (hgroups : groups.Perm (pathHealthGroups values)) :
    preferredRelayNodeIdFromPathHealth (aggregatePathHealthWindow groups) ≠ relayName a := by
  have hrank : ∀ first ∈ values, ∀ link, link = a ∨ link = b →
      Text.trim first.derpNodeId = relayName link →
      (windowOf values first).rank.hasScore = true ∧
        (windowOf values first).rank.scoreAvg = link.score.toNat := by
    intro first hfirst link hlink hname
    refine rankOf_of_pathScore (List.ne_nil_of_mem
      (List.mem_filter.mpr ⟨hfirst, decide_eq_true rfl⟩)) fun value hvalue => ?_
    obtain ⟨hin, hkey⟩ := List.mem_filter.mp hvalue
    have hvaluename := (hkeys value hin first hfirst (of_decide_eq_true hkey)).trans hname
    exact (h.reportedFor hlink hne hin hvaluename).pathScore
  -- the preferred window is no worse than the one of `b`, which has the better score
  intro hpreferred
  obtain ⟨rowB, hrowB, hrepB⟩ := h.ofB
  obtain ⟨first, hfirst, hkey⟩ := exists_mem_firstOfKeys hrowB
  have hfirstB : Text.trim first.derpNodeId = relayName b :=
    (hkeys first (mem_of_mem_firstOfKeys hfirst) rowB hrowB hkey).trans hrepB.derpNodeId
  have hmemB : windowOf values first ∈ aggregatePathHealthWindow groups :=
    mem_aggregatePathHealthWindow.mpr (hgroups.mem_iff.mpr (List.mem_map_of_mem hfirst))
  have hrelay : (windowOf values first).isRelay = true := by
    have hrep := h.reportedFor (.inr rfl) hne (mem_of_mem_firstOfKeys hfirst) hfirstB
    have hblank : Text.isBlank (relayName b) = false := by
      rw [← Bool.not_eq_true, ← Text.trim_eq_empty_iff, relayName, Text.trim_trim]
      exact hb
    simp [PathHealthWindow.isRelay, windowOf, hrep.pathType, hfirstB, hblank,
      (by decide : Text.trim "derp" = "derp")]
  obtain ⟨best, hbest, hname, hnot⟩ := preferredRelayNodeId_spec hmemB hrelay
  obtain ⟨firstA, hfirstA, rfl⟩ :=
    List.mem_map.mp (hgroups.mem_iff.mp (mem_aggregatePathHealthWindow.mp hbest))
  have hnameA : Text.trim firstA.derpNodeId = relayName a := by
    rw [← hpreferred, hname, windowOf, Text.trim_trim]
  obtain ⟨hhasA, havgA⟩ := hrank firstA (mem_of_mem_firstOfKeys hfirstA) a (.inl rfl) hnameA
  obtain ⟨hhasB, havgB⟩ := hrank first (mem_of_mem_firstOfKeys hfirst) b (.inr rfl) hfirstB
  have hbetter := betterRelayNodeRank_of_scoreAvg hhasB hhasA (by
    rw [havgA, havgB]
    exact_mod_cast UInt32.lt_iff_toNat_lt.mp hscore)
  rw [betterPathHealth, hbetter] at hnot
  cases hnot

/-- The scores of two links are ranked alike only where they are not compared. -/
theorem rankedAlike_iff {a b : ManagedLink} {values : List NodePathHealth}
    (hscore : a.score < b.score) (h : Reported a b values) :
    RankedAlike a b values ↔ relayName a = "" ∨ relayName b = "" ∨ relayName a = relayName b := by
  constructor
  · intro halike
    by_contra hcond
    obtain ⟨ha, hcond⟩ := not_or.mp hcond
    obtain ⟨hb, hne⟩ := not_or.mp hcond
    obtain ⟨rankA, rankB, hrankA, hrankB, hbetter⟩ := h.worse_ranks_first hscore ha hb hne
    rw [halike.ranking rankA rankB hrankA hrankB] at hbetter
    cases hbetter
  · intro hcond
    constructor
    · intro rankA rankB hrankA hrankB
      rcases hcond with ha | hb | hsame
      · simp [relayNodeHealth, ha] at hrankA
      · simp [relayNodeHealth, hb] at hrankB
      · rw [hsame] at hrankA
        obtain rfl : rankA = rankB := Option.some.inj (hrankA.symm.trans hrankB)
        exact (betterRelayNodeRank_eq_false_iff rankA rankA).mpr (le_refl _)
    · intro groups _ ha hb hne
      exact absurd hcond (not_or.mpr ⟨ha, not_or.mpr ⟨hb, hne⟩⟩)

/-! ## A fast and a slow link -/

def relayLink (nodeId : String) (timeoutCount : UInt32) : ManagedLink where
  nodeMeta := { DerpNodeMeta.empty with nodeId, host := "127.0.0.1", port := 9000, priority := 10 }
  client := {
    nodeMeta := { DerpNodeMeta.empty with nodeId }
    state := .ready
    health := ⟨0, 0, 0, 0, 0, 0, 10⟩
    isActive := false }
  lastProbe := some ⟨20, false, 0, 1000⟩
  timeoutCount := timeoutCount
  consecutiveFailures := timeoutCount
  lastError := none

def fastLink : ManagedLink := relayLink "relay-cn-local-udp" 0

def slowLink : ManagedLink := relayLink "relay-cn-far-udp" 3

/-- The sample of a client whose pool has that link only. -/
def sampleOf (link : ManagedLink) : NodePathHealth :=
  pathHealthRecord "node-a" (receivedReport (pathHealthReport "net-1" "node-b" none
    (probeHealth ⟨some link.nodeMeta.nodeId, [link]⟩ 1000
      (.derp "cn-sh-local" link.nodeMeta.nodeId)))) 1000 1

theorem reported_samples :
    Reported fastLink slowLink [sampleOf fastLink, sampleOf slowLink] := by
  have hfast : ReportedFor fastLink (sampleOf fastLink) :=
    ⟨_, true, _, _, _, _, _, _, _, _, _, by decide, rfl⟩
  have hslow : ReportedFor slowLink (sampleOf slowLink) :=
    ⟨_, true, _, _, _, _, _, _, _, _, _, by decide, rfl⟩
  refine ⟨⟨_, by simp, hfast⟩, ⟨_, by simp, hslow⟩, fun row hrow _ => ?_⟩
  rcases List.mem_cons.mp hrow with rfl | hrow
  · exact .inl hfast
  · exact .inr (List.mem_singleton.mp hrow ▸ hslow)

theorem rankedAlike_iff_samples :
    RankedAlike fastLink slowLink [sampleOf fastLink, sampleOf slowLink] ↔
      relayName fastLink = "" ∨ relayName slowLink = "" ∨ relayName fastLink = relayName slowLink :=
  rankedAlike_iff (by decide) reported_samples

/-- A score of 30 against one of 3330: the control plane takes the slow link for the better one. -/
theorem slow_ranks_first :
    ¬ ∀ (a b : ManagedLink) (values : List NodePathHealth), a.score < b.score →
      Reported a b values → RankedAlike a b values := by
  intro h
  have halike := h fastLink slowLink [sampleOf fastLink, sampleOf slowLink] (by decide)
    reported_samples
  obtain ⟨rankA, rankB, hrankA, hrankB, hbetter⟩ :=
    reported_samples.worse_ranks_first (by decide) (by decide) (by decide)
      (by decide)
  rw [halike.ranking rankA rankB hrankA hrankB] at hbetter
  cases hbetter

end Slan.System
