import Mathlib.Data.List.MinMax
import Mathlib.Data.Prod.Lex
import Slan.Client.Models
import Slan.Client.Derp

/-! # `InMemoryDerpPool`: the score of a link, and where it is reported -/

namespace Slan.Client

/-- `u32::saturating_add` -/
def satAdd (a b : UInt32) : UInt32 := if a.toNat + b.toNat < 2 ^ 32 then a + b else 0xFFFFFFFF

/-- `u32::saturating_mul` -/
def satMul (a b : UInt32) : UInt32 := if a.toNat * b.toNat < 2 ^ 32 then a * b else 0xFFFFFFFF

/-- A link of the pool, its client given by the snapshot that it makes of itself. -/
structure ManagedLink where
  nodeMeta : DerpNodeMeta
  client : DerpLinkSnapshot
  lastProbe : Option ProbeSample
  timeoutCount : UInt32
  consecutiveFailures : UInt32
  lastError : Option String
  deriving DecidableEq, Repr

namespace ManagedLink

/-- The smaller the better. The sum wraps, as it does in a release build. -/
def score (link : ManagedLink) : UInt32 :=
  link.nodeMeta.priority +
    (link.lastProbe.map fun probe => satAdd probe.rttMs (probe.packetLossPpm / 1000)).getD 0 +
    satMul link.timeoutCount 1000 + satMul link.consecutiveFailures 100

/-- `build_snapshot` -/
def snapshot (link : ManagedLink) (isActive : Bool) : DerpLinkSnapshot :=
  let client := link.client
  let health := { client.health with
    timeoutCount := link.timeoutCount
    consecutiveFailures := link.consecutiveFailures
    score := link.score }
  let health :=
    match link.lastProbe with
    | some probe => { health with
        rttMsEwma := probe.rttMs
        lossPpm := probe.packetLossPpm
        lastProbeAtMs := probe.sampledAtMs }
    | none => health
  let state :=
    if link.lastError.isSome ∧ client.state = .connecting then .failed else client.state
  let timedOut := (link.lastProbe.map ProbeSample.timedOut).getD false
  let state :=
    if state = .ready ∧ (0 < link.timeoutCount ∨ timedOut) then .suspect else state
  { nodeMeta := link.nodeMeta, state, health, isActive }

@[simp] theorem snapshot_nodeMeta (link : ManagedLink) (isActive : Bool) :
    (link.snapshot isActive).nodeMeta = link.nodeMeta := rfl

@[simp] theorem snapshot_score (link : ManagedLink) (isActive : Bool) :
    (link.snapshot isActive).health.score = link.score := by
  unfold snapshot
  cases link.lastProbe <;> rfl

end ManagedLink

structure DerpPoolState where
  activeNodeId : Option String
  links : List ManagedLink
  deriving DecidableEq, Repr

namespace DerpPoolState

def collectSnapshots (pool : DerpPoolState) : List DerpLinkSnapshot :=
  pool.links.map fun link => link.snapshot (pool.activeNodeId == some link.nodeMeta.nodeId)

def activeLink (pool : DerpPoolState) : Option DerpLinkSnapshot :=
  pool.collectSnapshots.find? DerpLinkSnapshot.isActive

end DerpPoolState

def DerpLinkSnapshot.usable (link : DerpLinkSnapshot) : Bool :=
  link.state == .ready || link.state == .suspect

/-- The key of `choose_active_index`. -/
def DerpLinkSnapshot.key (link : DerpLinkSnapshot) : ℕ ×ₗ ℕ :=
  toLex (link.health.score.toNat, link.nodeMeta.priority.toNat)

def chooseActiveIndex (links : List DerpLinkSnapshot) : Option Nat :=
  ((links.zipIdx.filter fun link => link.1.usable).argmin fun link => link.1.key).map Prod.snd

/-! ## Reporting -/

structure DataPlaneProbe where
  sampledAtMs : Nat
  activePath : ActivePath
  observedRttMs : Option UInt32
  packetLossPpm : Option UInt32
  pathScore : Option UInt32
  derpClusterId : Option String
  derpNodeId : Option String
  deriving DecidableEq, Repr

/-- The measured part of a probe, by `probe_health_from_active_path`. -/
def probeHealth (pool : DerpPoolState) (sampledAtMs : Nat) (activePath : ActivePath) :
    DataPlaneProbe :=
  let unmeasured : DataPlaneProbe := ⟨sampledAtMs, activePath, none, none, none, none, none⟩
  match activePath with
  | .derp _ _ =>
    match pool.activeLink with
    | some link => { unmeasured with
        observedRttMs := some link.health.rttMsEwma
        packetLossPpm := some link.health.lossPpm
        pathScore := some link.health.score
        derpClusterId := some link.nodeMeta.clusterId
        derpNodeId := some link.nodeMeta.nodeId }
    | none => unmeasured
  | _ => unmeasured

structure ControlWsPathHealthReport where
  networkId : String
  peerNodeId : String
  pathType : String
  endpoint : Option String
  derpNodeId : Option String
  observedRttMs : Option UInt32
  packetLossPpm : Option UInt32
  pathScore : Option UInt32
  sampledAtMs : Nat
  deriving DecidableEq, Repr

def pathType : ActivePath → String
  | .none => "none"
  | .p2p _ => "p2p"
  | .relay _ => "relay"
  | .derp _ _ => "derp"

/-- The path health report of `emit_control_observations`. -/
def pathHealthReport (networkId peerNodeId : String) (endpoint : Option String)
    (probe : DataPlaneProbe) : ControlWsPathHealthReport where
  networkId := networkId
  peerNodeId := peerNodeId
  pathType := pathType probe.activePath
  endpoint := endpoint
  derpNodeId := probe.derpNodeId
  observedRttMs := probe.observedRttMs
  packetLossPpm := probe.packetLossPpm
  pathScore := probe.pathScore
  sampledAtMs := probe.sampledAtMs

/-! ## What the pool prefers -/

/-- The chosen link is usable, and no usable link has a smaller score. -/
theorem chooseActiveIndex_spec {links : List DerpLinkSnapshot} {i : Nat}
    (h : chooseActiveIndex links = some i) :
    ∃ link, links[i]? = some link ∧ link.usable = true ∧
      ∀ other ∈ links, other.usable = true → link.health.score ≤ other.health.score := by
  obtain ⟨⟨link, j⟩, hmin, hj⟩ := Option.map_eq_some_iff.mp h
  obtain rfl : j = i := hj
  have hmem := List.argmin_mem hmin
  obtain ⟨hin, husable⟩ := List.mem_filter.mp hmem
  refine ⟨link, List.mem_zipIdx_iff_getElem?.mp hin, husable, fun other hother hoth => ?_⟩
  obtain ⟨k, hk⟩ := List.mem_iff_getElem?.mp hother
  have hcand : (other, k) ∈ links.zipIdx.filter fun link => link.1.usable :=
    List.mem_filter.mpr ⟨List.mem_zipIdx_iff_getElem?.mpr hk, hoth⟩
  have hle := List.le_of_mem_argmin hcand hmin
  rw [DerpLinkSnapshot.key, DerpLinkSnapshot.key, Prod.Lex.toLex_le_toLex] at hle
  dsimp only at hle
  rw [UInt32.le_iff_toNat_le]
  omega

/-- Where a strictly better link is usable, a worse one is not chosen. -/
theorem chooseActiveIndex_ne {links : List DerpLinkSnapshot} {i : Nat}
    {better worse : DerpLinkSnapshot} (hbetter : better ∈ links) (husable : better.usable = true)
    (hscore : better.health.score < worse.health.score) (hi : links[i]? = some worse) :
    chooseActiveIndex links ≠ some i := by
  intro h
  obtain ⟨link, hlink, _, hmin⟩ := chooseActiveIndex_spec h
  obtain rfl : worse = link := Option.some.inj (hi.symm.trans hlink)
  exact absurd hscore (UInt32.not_lt.mpr (hmin better hbetter husable))

end Slan.Client
