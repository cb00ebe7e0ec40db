import Mathlib.Data.List.DropRight
import Slan.Client.DerpPoolRuns

/-! # Runs of a DERP pool: the health of a link and the probes of it

A probe gives a sample, which may say that it timed out, or fails. The history of a link has the
probes since it was installed, the last one last.
-/

namespace Slan.Client

open Transition

abbrev ProbeResult := Except String ProbeSample

def ProbeResult.succeeded : ProbeResult → Bool
  | .ok probe => !probe.timedOut
  | .error _ => false

def ProbeResult.timedOut : ProbeResult → Bool
  | .ok probe => probe.timedOut
  | .error _ => false

/-- What the score of a link is made from. -/
structure LinkHealth where
  priority : UInt32
  lastProbe : Option ProbeSample
  timeoutCount : UInt32
  consecutiveFailures : UInt32
  deriving DecidableEq, Repr

namespace LinkHealth

def probeCost (health : LinkHealth) : UInt32 :=
  (health.lastProbe.map fun probe => satAdd probe.rttMs (probe.packetLossPpm / 1000)).getD 0

/-- The score before it is cut to 32 bits. -/
def total (health : LinkHealth) : Nat :=
  health.priority.toNat + health.probeCost.toNat + (satMul health.timeoutCount 1000).toNat +
    (satMul health.consecutiveFailures 100).toNat

/-- A round trip that takes no longer, no more loss, and so on. -/
structure NoWorse (better worse : LinkHealth) : Prop where
  priority : better.priority ≤ worse.priority
  rtt : (better.lastProbe.map ProbeSample.rttMs).getD 0 ≤
    (worse.lastProbe.map ProbeSample.rttMs).getD 0
  loss : (better.lastProbe.map ProbeSample.packetLossPpm).getD 0 ≤
    (worse.lastProbe.map ProbeSample.packetLossPpm).getD 0
  timeouts : better.timeoutCount ≤ worse.timeoutCount
  failures : better.consecutiveFailures ≤ worse.consecutiveFailures

/-- What a probe does to the health of a link. -/
def probed (health : LinkHealth) (result : ProbeResult) : LinkHealth :=
  match result with
  | .ok probe =>
    if probe.timedOut then
      { health with
        lastProbe := some probe
        timeoutCount := satAdd health.timeoutCount 1
        consecutiveFailures := satAdd health.consecutiveFailures 1 }
    else { health with lastProbe := some probe, consecutiveFailures := 0 }
  | .error _ =>
    { health with
      timeoutCount := satAdd health.timeoutCount 1
      consecutiveFailures := satAdd health.consecutiveFailures 1 }

end LinkHealth

def ManagedLink.health (link : ManagedLink) : LinkHealth :=
  ⟨link.nodeMeta.priority, link.lastProbe, link.timeoutCount, link.consecutiveFailures⟩

/-! ## The property -/

def timeoutsAtEnd (history : List ProbeResult) : Nat :=
  (history.rtakeWhile ProbeResult.timedOut).length

structure FollowsProbes (link : ManagedLink) (history : List ProbeResult) : Prop where
  timeouts : link.timeoutCount.toNat = timeoutsAtEnd history
  /-- The client may have other reasons not to be ready. -/
  recovered : ∀ last, history.getLast? = some last → last.succeeded = true →
    (link.client.state = .ready → ∀ isActive, (link.snapshot isActive).state = .ready) ∧
      satMul link.timeoutCount 1000 = 0
  fits : link.health.total < 2 ^ 32
  monotone : ∀ other : ManagedLink, other.health.NoWorse link.health → other.score ≤ link.score

/-- The last sample, and the one that a link is installed with where there is none. -/
def lastCost (history : List ProbeResult) : Nat :=
  match (history.filterMap Except.toOption).getLast? with
  | some probe => min (probe.rttMs.toNat + probe.packetLossPpm.toNat / 1000) (2 ^ 32 - 1)
  | none => 0

/-- No probe fails, none times out before one that succeeds, and the timeouts are few enough. -/
def NeverRecovers (priority : UInt32) (history : List ProbeResult) : Prop :=
  ∃ answered unanswered, history = answered ++ unanswered ∧
    (∀ result ∈ answered, result.succeeded = true) ∧
    (∀ result ∈ unanswered, result.timedOut = true) ∧
    priority.toNat + lastCost history + 1100 * unanswered.length < 2 ^ 32

/-! ## The score -/

theorem toNat_satAdd (a b : UInt32) : (satAdd a b).toNat = min (a.toNat + b.toNat) (2 ^ 32 - 1) := by
  unfold satAdd
  split
  · rename_i h
    rw [UInt32.toNat_add, Nat.mod_eq_of_lt h]
    omega
  · change 2 ^ 32 - 1 = _
    omega

theorem toNat_satMul (a b : UInt32) : (satMul a b).toNat = min (a.toNat * b.toNat) (2 ^ 32 - 1) := by
  unfold satMul
  split
  · rename_i h
    rw [UInt32.toNat_mul, Nat.mod_eq_of_lt h]
    omega
  · change 2 ^ 32 - 1 = _
    omega


theorem ManagedLink.toNat_score (link : ManagedLink) :
    link.score.toNat = link.health.total % 2 ^ 32 := by
  change (link.health.priority + link.health.probeCost + satMul link.health.timeoutCount 1000 +
    satMul link.health.consecutiveFailures 100).toNat = _
  simp only [UInt32.toNat_add, LinkHealth.total]
  omega

namespace LinkHealth

theorem NoWorse.probeCost_le {better worse : LinkHealth} (h : better.NoWorse worse) :
    better.probeCost.toNat ≤ worse.probeCost.toNat := by
  have hcost : ∀ health : LinkHealth, health.probeCost =
      satAdd ((health.lastProbe.map ProbeSample.rttMs).getD 0)
        ((health.lastProbe.map ProbeSample.packetLossPpm).getD 0 / 1000) := by
    intro health
    unfold probeCost
    cases health.lastProbe <;> rfl
  have hrtt := UInt32.le_iff_toNat_le.mp h.rtt
  have hloss := UInt32.le_iff_toNat_le.mp h.loss
  have hthousandth := Nat.div_le_div_right (c := 1000) hloss
  rw [hcost, hcost, toNat_satAdd, toNat_satAdd, UInt32.toNat_div, UInt32.toNat_div]
  change min (_ + _ / 1000) _ ≤ min (_ + _ / 1000) _
  omega

theorem NoWorse.total_le {better worse : LinkHealth} (h : better.NoWorse worse) :
    better.total ≤ worse.total := by
  have hpriority := UInt32.le_iff_toNat_le.mp h.priority
  have htimeouts := UInt32.le_iff_toNat_le.mp h.timeouts
  have hfailures := UInt32.le_iff_toNat_le.mp h.failures
  have hcost := h.probeCost_le
  unfold total
  simp only [toNat_satMul, UInt32.reduceToNat]
  omega

/-! ## The history of one link -/

/-- The health that a link is installed with. -/
def installed (priority : UInt32) (nowMs : Nat) : LinkHealth :=
  ⟨priority, some ⟨0, false, 0, nowMs⟩, 0, 0⟩

def probedAll (health : LinkHealth) (history : List ProbeResult) : LinkHealth :=
  history.foldl probed health

@[simp] theorem probedAll_concat (health : LinkHealth) (history : List ProbeResult)
    (result : ProbeResult) :
    health.probedAll (history ++ [result]) = (health.probedAll history).probed result :=
  List.foldl_concat ..

variable {priority : UInt32} {nowMs : Nat} {history : List ProbeResult}

def unsuccessful (result : ProbeResult) : Bool := !result.succeeded

theorem probed_priority (health : LinkHealth) (result : ProbeResult) :
    (health.probed result).priority = health.priority := by
  unfold probed
  cases result with
  | error err => rfl
  | ok probe => dsimp only; split <;> rfl

theorem probedAll_priority (health : LinkHealth) (history : List ProbeResult) :
    (health.probedAll history).priority = health.priority := by
  induction history using List.reverseRecOn with
  | nil => rfl
  | append_singleton history result ih => rw [probedAll_concat, probed_priority, ih]

theorem probed_of_unsuccessful {health : LinkHealth} {result : ProbeResult}
    (h : unsuccessful result = true) :
    (health.probed result).timeoutCount = satAdd health.timeoutCount 1 ∧
      (health.probed result).consecutiveFailures = satAdd health.consecutiveFailures 1 := by
  cases result with
  | error err => exact ⟨rfl, rfl⟩
  | ok probe =>
    have htimedOut : probe.timedOut = true := by simpa [unsuccessful, ProbeResult.succeeded] using h
    unfold probed
    simp only [htimedOut, if_true, and_self]

/-- A success leaves the timeouts counted. -/
theorem probed_of_succeeded {health : LinkHealth} {result : ProbeResult}
    (h : unsuccessful result = false) :
    (health.probed result).timeoutCount = health.timeoutCount ∧
      (health.probed result).consecutiveFailures = 0 := by
  cases result with
  | error err => cases h
  | ok probe =>
    have htimedOut : probe.timedOut = false := by simpa [unsuccessful, ProbeResult.succeeded] using h
    unfold probed
    simp [htimedOut]

theorem probedAll_timeoutCount :
    ((installed priority nowMs).probedAll history).timeoutCount.toNat =
      min (history.countP unsuccessful) (2 ^ 32 - 1) := by
  induction history using List.reverseRecOn with
  | nil => rfl
  | append_singleton history result ih =>
    rw [probedAll_concat, List.countP_append, List.countP_singleton]
    cases h : unsuccessful result with
    | true =>
      rw [(probed_of_unsuccessful h).1, toNat_satAdd, ih]
      change min (_ + 1) _ = min (_ + 1) _
      omega
    | false =>
      rw [(probed_of_succeeded h).1, ih]
      rfl

theorem probedAll_consecutiveFailures :
    ((installed priority nowMs).probedAll history).consecutiveFailures.toNat =
      min (history.rtakeWhile unsuccessful).length (2 ^ 32 - 1) := by
  induction history using List.reverseRecOn with
  | nil => rfl
  | append_singleton history result ih =>
    rw [probedAll_concat]
    cases h : unsuccessful result with
    | true =>
      rw [(probed_of_unsuccessful h).2, toNat_satAdd, ih, List.rtakeWhile_concat_pos _ _ _ h,
        List.length_append]
      change min (_ + 1) _ = min (_ + 1) _
      omega
    | false =>
      rw [(probed_of_succeeded h).2, List.rtakeWhile_concat_neg _ _ _ (Bool.eq_false_iff.mp h)]
      rfl

theorem probedAll_lastProbe :
    ((installed priority nowMs).probedAll history).lastProbe =
      some (((history.filterMap Except.toOption).getLast?).getD ⟨0, false, 0, nowMs⟩) := by
  induction history using List.reverseRecOn with
  | nil => rfl
  | append_singleton history result ih =>
    rw [probedAll_concat, List.filterMap_append]
    cases result with
    | error err =>
      rw [List.filterMap_cons_none (by rfl), List.filterMap_nil, List.append_nil, ← ih]
      rfl
    | ok probe =>
      rw [List.filterMap_cons_some (b := probe) (by rfl), List.filterMap_nil, List.getLast?_concat]
      unfold probed
      dsimp only
      split <;> rfl

theorem probedAll_probeCost :
    ((installed priority nowMs).probedAll history).probeCost.toNat = lastCost history := by
  unfold probeCost lastCost
  rw [probedAll_lastProbe]
  cases (history.filterMap Except.toOption).getLast? with
  | none => simp [satAdd]
  | some probe =>
    rw [Option.getD_some, Option.map_some, Option.getD_some, toNat_satAdd, UInt32.toNat_div]
    rfl

theorem exists_sample {result : ProbeResult} (h : result.succeeded = true) :
    ∃ probe, result = .ok probe ∧ probe.timedOut = false := by
  cases result with
  | error err => cases h
  | ok probe => exact ⟨probe, rfl, by simpa [ProbeResult.succeeded] using h⟩

theorem samples_getLast? {probe : ProbeSample} (h : history.getLast? = some (.ok probe)) :
    (history.filterMap Except.toOption).getLast? = some probe := by
  obtain ⟨before, rfl⟩ := List.getLast?_eq_some_iff.mp h
  rw [List.filterMap_append, List.filterMap_cons_some (b := probe) (by rfl), List.filterMap_nil,
    List.getLast?_concat]

theorem unsuccessful_of_timedOut {result : ProbeResult} (h : result.timedOut = true) :
    unsuccessful result = true := by
  cases result with
  | error err => rfl
  | ok probe => simpa [unsuccessful, ProbeResult.succeeded, ProbeResult.timedOut] using h

theorem not_timedOut_of_succeeded {result : ProbeResult} (h : result.succeeded = true) :
    ¬result.timedOut = true := by
  intro htimedOut
  have hunsuccessful := unsuccessful_of_timedOut htimedOut
  rw [unsuccessful, h] at hunsuccessful
  cases hunsuccessful

end LinkHealth

/-- What is at the end, behind something else. -/
theorem rtakeWhile_append {α : Type} {p : α → Bool} {front back : List α}
    (hfront : ∀ x ∈ front, ¬p x = true) (hback : ∀ x ∈ back, p x = true) :
    (front ++ back).rtakeWhile p = back := by
  induction back using List.reverseRecOn with
  | nil =>
    rw [List.append_nil, List.rtakeWhile_eq_nil_iff]
    exact fun hne => hfront _ (List.getLast_mem hne)
  | append_singleton back x ih =>
    rw [← List.append_assoc, List.rtakeWhile_concat_pos _ _ _ (hback x (by simp)),
      ih fun y hy => hback y (by simp [hy])]

theorem length_rtakeWhile_mono {α : Type} {p q : α → Bool} (h : ∀ x, p x = true → q x = true)
    (l : List α) : (l.rtakeWhile p).length ≤ (l.rtakeWhile q).length := by
  induction l using List.reverseRecOn with
  | nil => exact Nat.le_refl 0
  | append_singleton l x ih =>
    by_cases hp : p x = true
    · rw [List.rtakeWhile_concat_pos _ _ _ hp, List.rtakeWhile_concat_pos _ _ _ (h x hp)]
      simpa using ih
    · rw [List.rtakeWhile_concat_neg _ _ _ hp]
      exact Nat.zero_le _

section History

open LinkHealth

variable {link : ManagedLink} {priority : UInt32} {nowMs : Nat} {history : List ProbeResult}

theorem total_probedAll (history : List ProbeResult) :
    ((installed priority nowMs).probedAll history).total = priority.toNat + lastCost history +
      min (min (history.countP unsuccessful) (2 ^ 32 - 1) * 1000) (2 ^ 32 - 1) +
      min (min (history.rtakeWhile unsuccessful).length (2 ^ 32 - 1) * 100) (2 ^ 32 - 1) := by
  unfold LinkHealth.total
  rw [probedAll_probeCost, probedAll_priority, toNat_satMul, toNat_satMul, probedAll_timeoutCount,
    probedAll_consecutiveFailures]
  rfl

/-- Everything that did not succeed was a timeout at the end. -/
theorem neverRecovers_of_count (hcount : history.countP unsuccessful = timeoutsAtEnd history)
    (hfits : priority.toNat + lastCost history + 1100 * timeoutsAtEnd history < 2 ^ 32) :
    NeverRecovers priority history := by
  have hsplit := List.rdropWhile_append_rtakeWhile (p := ProbeResult.timedOut) (l := history)
  have hend : (history.rtakeWhile ProbeResult.timedOut).countP unsuccessful =
      timeoutsAtEnd history := by
    apply List.countP_eq_length.mpr
    exact fun result hresult => unsuccessful_of_timedOut (List.mem_rtakeWhile_imp hresult)
  have hbefore : (history.rdropWhile ProbeResult.timedOut).countP unsuccessful = 0 := by
    rw [← hsplit, List.countP_append, hsplit, hend] at hcount
    omega
  refine ⟨_, _, hsplit.symm, fun result hresult => ?_, fun _ => List.mem_rtakeWhile_imp, hfits⟩
  have hsucceeded := List.countP_eq_zero.mp hbefore result hresult
  simpa [unsuccessful] using hsucceeded

/-- The history of a link that follows its probes. -/
theorem FollowsProbes.neverRecovers (h : FollowsProbes link history)
    (hhealth : link.health = (installed priority nowMs).probedAll history) :
    NeverRecovers priority history := by
  have htimeouts : min (history.countP unsuccessful) (2 ^ 32 - 1) = timeoutsAtEnd history := by
    rw [← h.timeouts, ← probedAll_timeoutCount, ← hhealth]
    rfl
  have hfits := h.fits
  rw [hhealth, total_probedAll] at hfits
  have hfailures : timeoutsAtEnd history ≤ (history.rtakeWhile unsuccessful).length :=
    length_rtakeWhile_mono (fun _ => unsuccessful_of_timedOut) history
  -- a count that has stopped growing is more than the sum can take, with the failures beside it
  apply neverRecovers_of_count <;> omega

/-- A link follows a history in which it never recovers. -/
theorem NeverRecovers.follows (h : NeverRecovers priority history)
    (hhealth : link.health = (installed priority nowMs).probedAll history) :
    FollowsProbes link history := by
  obtain ⟨answered, unanswered, rfl, hanswered, hunanswered, hsum⟩ := h
  have hunsuccessful : ∀ result ∈ unanswered, unsuccessful result = true :=
    fun result hresult => unsuccessful_of_timedOut (hunanswered result hresult)
  have hsuccessful : ∀ result ∈ answered, ¬unsuccessful result = true := by
    intro result hresult
    rw [unsuccessful, hanswered result hresult]
    exact Bool.false_ne_true
  have hend : timeoutsAtEnd (answered ++ unanswered) = unanswered.length := by
    unfold timeoutsAtEnd
    rw [rtakeWhile_append (fun result hresult =>
      not_timedOut_of_succeeded (hanswered result hresult)) hunanswered]
  have hcount : (answered ++ unanswered).countP unsuccessful = unanswered.length := by
    rw [List.countP_append, List.countP_eq_zero.mpr hsuccessful,
      List.countP_eq_length.mpr hunsuccessful, Nat.zero_add]
  have htimeouts : link.timeoutCount.toNat = unanswered.length := by
    change link.health.timeoutCount.toNat = _
    rw [hhealth, probedAll_timeoutCount, hcount]
    omega
  have hfits : link.health.total < 2 ^ 32 := by
    rw [hhealth, total_probedAll, hcount, rtakeWhile_append hsuccessful hunsuccessful]
    omega
  refine ⟨htimeouts.trans hend.symm, fun last hlast hsucceeded => ?_, hfits, fun other hother => ?_⟩
  · have hnone : unanswered = [] := by
      by_contra hne
      rw [List.getLast?_append_of_ne_nil _ hne] at hlast
      exact not_timedOut_of_succeeded hsucceeded (hunanswered last (List.mem_of_getLast? hlast))
    have hzero : link.timeoutCount = 0 := by
      rw [hnone] at htimeouts
      exact UInt32.toNat_inj.mp htimeouts
    refine ⟨fun hready isActive => ?_, by rw [hzero]; rfl⟩
    have hsample : (link.lastProbe.map ProbeSample.timedOut).getD false = false := by
      change (link.health.lastProbe.map ProbeSample.timedOut).getD false = false
      obtain ⟨probe, rfl, hanswered⟩ := exists_sample hsucceeded
      rw [hhealth, probedAll_lastProbe, samples_getLast? hlast]
      exact hanswered
    unfold ManagedLink.snapshot
    simp [hready, hzero, hsample]
  · have hle := hother.total_le
    rw [UInt32.le_iff_toNat_le, other.toNat_score, link.toNat_score, Nat.mod_eq_of_lt hfits,
      Nat.mod_eq_of_lt (Nat.lt_of_le_of_lt hle hfits)]
    exact hle

end History

/-! ## The links of a pool -/

namespace InMemoryDerpPool

variable {pool : InMemoryDerpPool}

def healths (links : List ManagedLink) : List LinkHealth := links.map ManagedLink.health

theorem getElem?_healths (links : List ManagedLink) (i : Nat) :
    (healths links)[i]? = links[i]?.map ManagedLink.health := List.getElem?_map

theorem ensureLinkReady_health (link : ManagedLink) (client : DerpClient) (ticket : RelayTicket) :
    (link.ensureLinkReady client ticket).2.health = link.health := by
  unfold ManagedLink.ensureLinkReady
  dsimp only
  split
  · rfl
  split
  · rfl
  · split <;> rfl

theorem warmLinks_healths {clients : Nat → DerpClient} {ticket : RelayTicket} {warmCount idx : Nat}
    {links : List ManagedLink} :
    healths (warmLinks clients ticket warmCount idx links).2 = healths links := by
  induction links generalizing idx with
  | nil => rfl
  | cons link rest ih =>
    rw [warmLinks]
    split
    · have hhealth := ensureLinkReady_health link (clients idx) ticket
      split
      · rename_i err ready hready
        rw [hready] at hhealth
        exact congrArg (fun health => health :: healths rest) hhealth
      · rename_i ready hready
        rw [hready] at hhealth
        exact congrArg₂ List.cons hhealth ih
    · exact congrArg (List.cons link.health) ih

theorem closeLinks_healths {clients : Nat → DerpClient} {idx : Nat} {links : List ManagedLink} :
    healths (closeLinks clients idx links).2 = healths links := by
  induction links generalizing idx with
  | nil => rfl
  | cons link rest ih =>
    rw [closeLinks]
    dsimp only
    split
    · rfl
    · exact congrArg (List.cons link.health) ih

theorem called_healths (pool : InMemoryDerpPool) (idx : Nat) (client : DerpLinkSnapshot) :
    healths (pool.called idx client).links = healths pool.links := by
  apply List.ext_getElem?
  intro i
  unfold called
  rw [getElem?_healths, getElem?_healths, List.getElem?_modify]
  cases pool.links[i]? with
  | none => rfl
  | some link => split <;> rfl

theorem callActive_healths {α : Type} (pool : InMemoryDerpPool) (call : Nat → ClientCall α) :
    healths (pool.callActive call).2.links = healths pool.links := by
  unfold callActive
  repeat' split
  · rfl
  · rfl
  · exact pool.called_healths _ _

theorem healths_set {links : List ManagedLink} {idx : Nat} {link link' : ManagedLink}
    (h : links[idx]? = some link) (hhealth : link'.health = link.health) :
    healths (links.set idx link') = healths links := by
  apply List.ext_getElem?
  intro i
  rw [getElem?_healths, getElem?_healths, List.getElem?_set']
  by_cases hi : idx = i
  · rw [if_pos hi, ← hi, h]
    exact congrArg some hhealth
  · rw [if_neg hi]

theorem forceSwitch_healths (pool : InMemoryDerpPool) (clients : Nat → DerpClient)
    (target : String) (reason : SwitchReason) (nowMs : Nat) :
    healths (pool.forceSwitch clients target reason nowMs).2.links = healths pool.links := by
  unfold forceSwitch
  split
  · rfl
  split
  · rfl
  rename_i ticket _ _ idx _
  cases hlink : pool.links[idx]? with
  | none => rfl
  | some link =>
    have hhealth := ensureLinkReady_health link (clients idx) ticket
    rw [Option.map_some]
    generalize link.ensureLinkReady (clients idx) ticket = run at hhealth
    rcases run with ⟨_ | _, ready⟩ <;> exact healths_set hlink hhealth

theorem tick_health (link : ManagedLink) (client : DerpClient) : (link.tick client).health =
    if link.client.usable then link.health.probed client.probe.result else link.health := by
  unfold ManagedLink.tick
  split
  · rename_i husable
    dsimp only
    unfold LinkHealth.probed
    cases client.probe.result with
    | error err => rfl
    | ok probe => dsimp only; split <;> rfl
  · rfl

/-- A health check and a new cluster are all that touches the health of a link. -/
def keepsHealth : DerpPoolAction → Bool
  | .installCluster .. => false
  | .tick _ => false
  | _ => true

theorem after_healths (pool : InMemoryDerpPool) {a : DerpPoolAction} (h : keepsHealth a = true) :
    healths (pool.after a).links = healths pool.links := by
  cases a with
  | installCluster clusterId nodes ticket fresh nowMs => cases h
  | tick clients => cases h
  | warmUp clients fanout =>
    change healths (pool.warmUp clients fanout).2.links = _
    unfold warmUp
    split
    · rfl
    split
    · rfl
    rename_i ticket _
    have hwarmed := @warmLinks_healths clients ticket (min (max fanout 1) pool.links.length) 0
      pool.links
    dsimp only
    generalize warmLinks clients ticket (min (max fanout 1) pool.links.length) 0 pool.links = run
      at hwarmed
    rcases run with ⟨_ | _, links⟩ <;> exact hwarmed
  | send clients packet =>
    change healths (pool.sendTransportPacketViaActive clients packet).2.links = _
    unfold sendTransportPacketViaActive
    split
    · rfl
    · exact pool.callActive_healths _
  | poll clients => exact pool.callActive_healths _
  | maybeSwitch nowMs => exact congrArg healths (pool.maybeSwitch_links nowMs)
  | forceSwitch clients target reason nowMs =>
    exact pool.forceSwitch_healths clients target reason nowMs
  | close clients =>
    change healths (pool.close clients).2.links = _
    have hclosed := @closeLinks_healths clients 0 pool.links
    unfold close
    generalize closeLinks clients 0 pool.links = run at hclosed
    rcases run with ⟨_ | _, links⟩ <;> exact hclosed

end InMemoryDerpPool

/-- A pool and, for each of its links, the probes since the link was installed. -/
structure ProbedPool where
  pool : InMemoryDerpPool
  history : Nat → List ProbeResult

namespace ProbedPool

def new : ProbedPool := ⟨.new, fun _ => []⟩

/-- What a health check learns of the link at a place: it probes only a link that can be used. -/
def probes (pool : InMemoryDerpPool) (clients : Nat → DerpClient) (idx : Nat) : List ProbeResult :=
  match pool.links[idx]? with
  | some link => if link.client.usable then [(clients idx).probe.result] else []
  | none => []

def after (w : ProbedPool) (a : DerpPoolAction) : ProbedPool where
  pool := w.pool.after a
  history :=
    match a with
    | .installCluster .. => fun _ => []
    | .tick clients => fun idx => w.history idx ++ probes w.pool clients idx
    | _ => w.history

def step (w : ProbedPool) (a : DerpPoolAction) (next : ProbedPool) : Prop := next = w.after a

/-- The health of every link comes from its history. -/
def Recorded (w : ProbedPool) : Prop :=
  ∀ idx link, w.pool.links[idx]? = some link → ∃ nowMs,
    link.health = (LinkHealth.installed link.nodeMeta.priority nowMs).probedAll (w.history idx)

variable {w : ProbedPool}

/-- A link of which the health is as it was before. -/
theorem Recorded.of_healths (h : w.Recorded) {next : ProbedPool}
    (hhealths : InMemoryDerpPool.healths next.pool.links = InMemoryDerpPool.healths w.pool.links)
    (hhistory : next.history = w.history) : next.Recorded := by
  intro idx link hlink
  have hget : (InMemoryDerpPool.healths next.pool.links)[idx]? =
      (InMemoryDerpPool.healths w.pool.links)[idx]? := by rw [hhealths]
  rw [InMemoryDerpPool.getElem?_healths, InMemoryDerpPool.getElem?_healths, hlink,
    Option.map_some] at hget
  obtain ⟨before, hbefore, hhealth⟩ := Option.map_eq_some_iff.mp hget.symm
  obtain ⟨nowMs, hrecorded⟩ := h idx before hbefore
  have hpriority : before.nodeMeta.priority = link.nodeMeta.priority :=
    congrArg LinkHealth.priority hhealth
  exact ⟨nowMs, by rw [← hhealth, hrecorded, hhistory, hpriority]⟩

theorem Recorded.tick (h : w.Recorded) (clients : Nat → DerpClient) :
    (w.after (.tick clients)).Recorded := by
  intro idx link hlink
  change (w.pool.links.mapIdx fun idx link => link.tick (clients idx))[idx]? = some link at hlink
  rw [List.getElem?_mapIdx] at hlink
  obtain ⟨before, hbefore, rfl⟩ := Option.map_eq_some_iff.mp hlink
  obtain ⟨nowMs, hrecorded⟩ := h idx before hbefore
  have hhealth := InMemoryDerpPool.tick_health before (clients idx)
  have hpriority : (before.tick (clients idx)).nodeMeta.priority = before.nodeMeta.priority := by
    change (before.tick (clients idx)).health.priority = before.health.priority
    rw [hhealth]
    split
    · exact LinkHealth.probed_priority _ _
    · rfl
  refine ⟨nowMs, ?_⟩
  change _ = LinkHealth.probedAll _ (w.history idx ++ probes w.pool clients idx)
  rw [hpriority, hhealth]
  unfold probes
  simp only [hbefore]
  split
  · rw [LinkHealth.probedAll_concat, ← hrecorded]
  · rw [List.append_nil, hrecorded]

theorem Recorded.after (h : w.Recorded) (a : DerpPoolAction) : (w.after a).Recorded := by
  cases a with
  | installCluster clusterId nodes ticket fresh nowMs =>
    intro idx link hlink
    obtain ⟨nodeMeta, -, rfl⟩ := List.mem_map.mp (List.mem_of_getElem? hlink)
    exact ⟨nowMs, rfl⟩
  | tick clients => exact h.tick clients
  | _ => exact h.of_healths (w.pool.after_healths rfl) rfl

def probingClient (result : ProbeResult) : DerpClient :=
  { readyClient with probe := ⟨result, listedClient .ready⟩ }

/-- A link is warmed up and probed: one timeout, then an answer after 20 ms. -/
def oneTimeout : ProbedPool :=
  (((new.after (.installCluster "derp-1" [listedNode] listedTicket (listedClient .connecting)
    0)).after (.warmUp (fun _ => readyClient) 1)).after
      (.tick fun _ => probingClient (.ok ⟨5000, true, 0, 1000⟩))).after
        (.tick fun _ => probingClient (.ok ⟨20, false, 0, 2000⟩))

/-- An installed link that has not been probed. -/
def installedOnly : ProbedPool :=
  new.after (.installCluster "derp-1" [listedNode] listedTicket (listedClient .connecting) 0)

end ProbedPool

end Slan.Client
