import Mathlib.Order.Lattice
import Mathlib.Data.String.Basic
import Slan.Lib.Backoff
import Slan.Lib.Redis

/-! # The two gates for connect plans

The gate in Redis and the throttle that a server keeps in its memory. An attempt has one time, in
nanoseconds since the zero time. Redis answers what it is asked.
-/

namespace Slan.Control

open Backoff

def seconds (n : Nat) : Nat := n * 10 ^ 9

def minutes (n : Nat) : Nat := seconds (60 * n)

/-! ## `redis.go` -/

def connectPlanRetryCountKeyPrefix : String := "connect_plan_retry_count:"

def connectPlanRetryGateKeyPrefix : String := "connect_plan_retry_gate:"

def connectPlanRetryPairKey (networkId nodeId peerNodeId : String) : String :=
  if peerNodeId < nodeId then networkId ++ ":" ++ peerNodeId ++ ":" ++ nodeId
  else networkId ++ ":" ++ nodeId ++ ":" ++ peerNodeId

def connectPlanRetryBackoff (failures : Int) : Nat :=
  if failures ≤ 1 then 0
  else if failures = 2 then seconds 2
  else if failures = 3 then seconds 5
  else if failures = 4 then seconds 10
  else seconds 20

def acquireConnectPlanRetry (redis : Redis) (now : Nat) (networkId nodeId peerNodeId : String) :
    Bool × Redis :=
  let pairKey := connectPlanRetryPairKey networkId nodeId peerNodeId
  let countKey := connectPlanRetryCountKeyPrefix ++ pairKey
  let gateKey := connectPlanRetryGateKeyPrefix ++ pairKey
  let (count, redis) := redis.incr now countKey
  let redis := if count = 1 then redis.expire now countKey (minutes 5) else redis
  let backoff := connectPlanRetryBackoff count
  if backoff ≤ 0 then (true, redis) else redis.setNX now gateKey count backoff

def resetConnectPlanRetry (redis : Redis) (networkId nodeId peerNodeId : String) : Redis :=
  let pairKey := connectPlanRetryPairKey networkId nodeId peerNodeId
  (redis.del (connectPlanRetryCountKeyPrefix ++ pairKey)).del
    (connectPlanRetryGateKeyPrefix ++ pairKey)

/-! ## `control_ws_policy.go` -/

structure ConnectPlanRetryState where
  failures : Int
  nextAllowedAt : Nat
  deriving DecidableEq, Repr

abbrev ConnectPlanThrottle := Table ConnectPlanRetryState

def connectPlanPairKey (networkId nodeId peerNodeId : String) : String :=
  if peerNodeId < nodeId then networkId ++ "|" ++ peerNodeId ++ "|" ++ nodeId
  else networkId ++ "|" ++ nodeId ++ "|" ++ peerNodeId

def connectPlanBackoff (failures : Int) : Nat :=
  if failures ≤ 1 then 0
  else if failures = 2 then seconds 2
  else if failures = 3 then seconds 5
  else if failures = 4 then seconds 10
  else seconds 20

namespace ConnectPlanThrottle

/-- The state of a pair, at first the zero one. -/
def state (throttle : ConnectPlanThrottle) (networkId nodeId peerNodeId : String) :
    ConnectPlanRetryState :=
  (throttle.get? (connectPlanPairKey networkId nodeId peerNodeId)).getD ⟨0, 0⟩

def allow (throttle : ConnectPlanThrottle) (now : Nat) (networkId nodeId peerNodeId : String) :
    Bool × ConnectPlanThrottle :=
  let state := throttle.state networkId nodeId peerNodeId
  if now < state.nextAllowedAt then (false, throttle)
  else
    let failures := state.failures + 1
    (true, throttle.put (connectPlanPairKey networkId nodeId peerNodeId)
      ⟨failures, now + connectPlanBackoff failures⟩)

def reset (throttle : ConnectPlanThrottle) (networkId nodeId peerNodeId : String) :
    ConnectPlanThrottle :=
  throttle.remove (connectPlanPairKey networkId nodeId peerNodeId)

end ConnectPlanThrottle

/-! ## Histories of one pair -/

/-- An attempt or a reset, of the pair as it is named or the other way round. -/
structure RetryEvent where
  event : Event
  reversed : Bool
  deriving DecidableEq, Repr

section

variable (networkId nodeId peerNodeId : String)

def redisAct (redis : Redis) : RetryEvent → Option Bool × Redis
  | ⟨.attempt now, reversed⟩ =>
    let (allowed, redis) :=
      if reversed then acquireConnectPlanRetry redis now networkId peerNodeId nodeId
      else acquireConnectPlanRetry redis now networkId nodeId peerNodeId
    (some allowed, redis)
  | ⟨.reset _, reversed⟩ =>
    (none, if reversed then resetConnectPlanRetry redis networkId peerNodeId nodeId
      else resetConnectPlanRetry redis networkId nodeId peerNodeId)

def throttleAct (throttle : ConnectPlanThrottle) :
    RetryEvent → Option Bool × ConnectPlanThrottle
  | ⟨.attempt now, reversed⟩ =>
    let (allowed, throttle) :=
      if reversed then throttle.allow now networkId peerNodeId nodeId
      else throttle.allow now networkId nodeId peerNodeId
    (some allowed, throttle)
  | ⟨.reset _, reversed⟩ =>
    (none, if reversed then throttle.reset networkId peerNodeId nodeId
      else throttle.reset networkId nodeId peerNodeId)

/-- What the gate in Redis has counted. -/
def redisCount (redis : Redis) : Int :=
  ((redis.get? (connectPlanRetryCountKeyPrefix ++
    connectPlanRetryPairKey networkId nodeId peerNodeId)).map RedisEntry.value).getD 0

/-- The pair is not known yet. -/
structure Unknown (redis : Redis) (throttle : ConnectPlanThrottle) : Prop where
  count : redis.get? (connectPlanRetryCountKeyPrefix ++
    connectPlanRetryPairKey networkId nodeId peerNodeId) = none
  gate : redis.get? (connectPlanRetryGateKeyPrefix ++
    connectPlanRetryPairKey networkId nodeId peerNodeId) = none
  throttle : throttle.get? (connectPlanPairKey networkId nodeId peerNodeId) = none

end

/-- At nondecreasing times, and never five minutes after the first attempt since a reset. -/
structure WithinLifetime (history : List RetryEvent) : Prop where
  sorted : (history.map fun e => e.event.time).Pairwise (· ≤ ·)
  young : ∀ before, before <+: history.map RetryEvent.event → ∀ first,
    (sinceReset before).head? = some first →
    ∀ now ∈ sinceReset before, now < first + minutes 5

/-- An attempt that is allowed comes no sooner after an allowed one than the backoff of what was
counted then, unless there was a reset. -/
def Spaced {σ : Type} (act : σ → RetryEvent → Option Bool × σ) (backoff : σ → Nat) (s : σ)
    (history : List RetryEvent) : Prop :=
  ∀ before earlier between later,
    before ++ earlier :: between ++ [later] <+: history →
    (∀ e ∈ between, ∃ now, e.event = .attempt now) →
    (act (after act s before) earlier).1 = some true →
    (act (after act s (before ++ earlier :: between)) later).1 = some true →
    earlier.event.time + backoff (after act s (before ++ [earlier])) ≤ later.event.time

/-- Both gates allow the same attempts, and neither of them allows two too close together. -/
structure GatesAgree (networkId nodeId peerNodeId : String) (redis : Redis)
    (throttle : ConnectPlanThrottle) (history : List RetryEvent) : Prop where
  same : answers (redisAct networkId nodeId peerNodeId) redis history =
    answers (throttleAct networkId nodeId peerNodeId) throttle history
  redisSpaced : Spaced (redisAct networkId nodeId peerNodeId)
    (fun redis => connectPlanRetryBackoff (redisCount networkId nodeId peerNodeId redis)) redis
    history
  throttleSpaced : Spaced (throttleAct networkId nodeId peerNodeId)
    (fun throttle => connectPlanBackoff (throttle.state networkId nodeId peerNodeId).failures)
    throttle history

/-- Attempts after which the two counts never lead to different backoffs: where some come in the
pause after the second one, none comes between the pauses for the two counts after the next one;
and likewise where some come in the pause after that. -/
structure Calm (times : List Nat) : Prop where
  third : ∀ first next refused third later,
    times = first :: next :: refused ++ third :: later →
    (∀ early ∈ refused, early < next + connectPlanBackoff 2) →
    next + connectPlanBackoff 2 ≤ third →
    ∀ now ∈ later, third + connectPlanBackoff 3 ≤ now →
      third + connectPlanBackoff (3 + refused.length) ≤ now
  fourth : ∀ first next refused third refused' fourth later,
    times = first :: next :: refused ++ third :: refused' ++ fourth :: later →
    (∀ early ∈ refused, early < next + connectPlanBackoff 2) →
    next + connectPlanBackoff 2 ≤ third →
    (∀ early ∈ refused', early < third + connectPlanBackoff 3) →
    third + connectPlanBackoff 3 ≤ fourth →
    ∀ now ∈ later, fourth + connectPlanBackoff 4 ≤ now →
      fourth + connectPlanBackoff (4 + refused.length + refused'.length) ≤ now

/-! ## The keys of a pair -/

theorem connectPlanRetryPairKey_comm (networkId nodeId peerNodeId : String) :
    connectPlanRetryPairKey networkId nodeId peerNodeId =
      connectPlanRetryPairKey networkId peerNodeId nodeId := by
  unfold connectPlanRetryPairKey
  obtain h | rfl | h := lt_trichotomy nodeId peerNodeId
  · rw [if_neg (lt_asymm h), if_pos h]
  · rfl
  · rw [if_pos h, if_neg (lt_asymm h)]

theorem connectPlanPairKey_comm (networkId nodeId peerNodeId : String) :
    connectPlanPairKey networkId nodeId peerNodeId =
      connectPlanPairKey networkId peerNodeId nodeId := by
  unfold connectPlanPairKey
  obtain h | rfl | h := lt_trichotomy nodeId peerNodeId
  · rw [if_neg (lt_asymm h), if_pos h]
  · rfl
  · rw [if_pos h, if_neg (lt_asymm h)]

theorem gateKey_ne_countKey (pairKey : String) :
    connectPlanRetryGateKeyPrefix ++ pairKey ≠ connectPlanRetryCountKeyPrefix ++ pairKey := by
  intro h
  have hlists := congrArg String.toList h
  rw [String.toList_append, String.toList_append] at hlists
  have hprefixes := List.append_cancel_right hlists
  exact absurd hprefixes (by decide)

/-! ## The backoffs -/

theorem connectPlanRetryBackoff_eq : connectPlanRetryBackoff = connectPlanBackoff := rfl

/-- Of a number of attempts. -/
def backoffAfter (count : Nat) : Nat := connectPlanBackoff count

theorem backoffAfter_one : backoffAfter 1 = 0 := rfl

theorem backoffAfter_eq_zero_iff (count : Nat) : backoffAfter count = 0 ↔ count ≤ 1 := by
  unfold backoffAfter connectPlanBackoff seconds
  grind

theorem backoffAfter_of_five_le {count : Nat} (h : 5 ≤ count) :
    backoffAfter count = backoffAfter 5 := by
  unfold backoffAfter connectPlanBackoff
  grind

/-! ## What Redis keeps of a history -/

section

variable {networkId nodeId peerNodeId : String} {redis : Redis} {history : List Event} {now : Nat}

/-- The gate that counts every attempt, after these. -/
def countingGate (times : List Nat) : Gate := times.foldl (Gate.attempt backoffAfter (· + 1)) .new

/-- The gate that counts the attempts it allows, after these. -/
def allowingGate (times : List Nat) : Gate := times.foldl (Gate.attempt backoffAfter id) .new

theorem countingGate_count (times : List Nat) : (countingGate times).count = times.length := by
  rw [countingGate, Gate.count_foldl_attempt]
  exact Nat.zero_add _

theorem countingGate_concat (times : List Nat) (now : Nat) :
    countingGate (times ++ [now]) =
      (countingGate times).attempt backoffAfter (· + 1) now := by
  rw [countingGate, List.foldl_append]
  rfl

theorem allowingGate_concat (times : List Nat) (now : Nat) :
    allowingGate (times ++ [now]) = (allowingGate times).attempt backoffAfter id now := by
  rw [allowingGate, List.foldl_append]
  rfl

/-- The count of the attempts since the last reset, and a gate that is there while it is closed. -/
structure RedisKeeps (networkId nodeId peerNodeId : String) (redis : Redis)
    (history : List Event) : Prop where
  count : redis.get? (connectPlanRetryCountKeyPrefix ++
      connectPlanRetryPairKey networkId nodeId peerNodeId) =
    (sinceReset history).head?.map fun first =>
      ⟨(sinceReset history).length, some (first + minutes 5)⟩
  gate : ∀ now, (∀ e ∈ history, e.time ≤ now) →
    ((redis.live now (connectPlanRetryGateKeyPrefix ++
        connectPlanRetryPairKey networkId nodeId peerNodeId)).isSome = true ↔
      now < (countingGate (sinceReset history)).opensAt)

/-- The count after an attempt. -/
theorem RedisKeeps.incr (h : RedisKeeps networkId nodeId peerNodeId redis history)
    (hyoung : ∀ first, (sinceReset history).head? = some first → now < first + minutes 5) :
    let key := connectPlanRetryCountKeyPrefix ++
      connectPlanRetryPairKey networkId nodeId peerNodeId
    let counted := redis.incr now key
    counted.1 = (sinceReset history).length + 1 ∧
      (if counted.1 = 1 then counted.2.expire now key (minutes 5) else counted.2).get? key =
        (sinceReset (history ++ [.attempt now])).head?.map fun first =>
          ⟨(sinceReset (history ++ [.attempt now])).length, some (first + minutes 5)⟩ := by
  intro key counted
  have hcount : redis.get? key = _ := h.count
  rw [sinceReset_concat_attempt]
  cases htimes : sinceReset history with
  | nil =>
    rw [htimes] at hcount
    have hcounted : counted = (1, redis.put key ⟨1, none⟩) := by
      unfold counted Redis.incr
      rw [Redis.live_eq_none hcount]
    have hlive : Redis.live (redis.put key ⟨1, none⟩) now key = some ⟨1, none⟩ :=
      Redis.live_eq_some (Table.get?_put_self _ _ _) rfl
    rw [hcounted, if_pos rfl, Redis.expire, hlive]
    exact ⟨rfl, Table.get?_put_self _ _ _⟩
  | cons first times =>
    rw [htimes] at hcount
    have hlive : redis.live now key =
        some ⟨(first :: times).length, some (first + minutes 5)⟩ := by
      refine Redis.live_eq_some hcount ?_
      rw [Option.all_some, decide_eq_true_eq]
      exact hyoung first (congrArg List.head? htimes)
    have hcounted : counted = (((first :: times).length : Int) + 1,
        redis.put key ⟨(first :: times).length + 1, some (first + minutes 5)⟩) := by
      unfold counted Redis.incr
      rw [hlive]
    rw [hcounted, if_neg (by rw [List.length_cons]; omega)]
    refine ⟨rfl, ?_⟩
    rw [Table.get?_put_self, List.length_append]
    rfl

theorem RedisKeeps.acquire (h : RedisKeeps networkId nodeId peerNodeId redis history)
    (hsorted : ∀ e ∈ history, e.time ≤ now)
    (hyoung : ∀ first, (sinceReset history).head? = some first → now < first + minutes 5) :
    let acquired := acquireConnectPlanRetry redis now networkId nodeId peerNodeId
    acquired.1 = decide ((countingGate (sinceReset history)).opensAt ≤ now) ∧
      RedisKeeps networkId nodeId peerNodeId acquired.2 (history ++ [.attempt now]) := by
  obtain ⟨hvalue, hentry⟩ := h.incr hyoung
  unfold acquireConnectPlanRetry
  dsimp only
  set countKey := connectPlanRetryCountKeyPrefix ++
    connectPlanRetryPairKey networkId nodeId peerNodeId
  have hne : connectPlanRetryGateKeyPrefix ++
      connectPlanRetryPairKey networkId nodeId peerNodeId ≠ countKey := gateKey_ne_countKey _
  set gateKey := connectPlanRetryGateKeyPrefix ++
    connectPlanRetryPairKey networkId nodeId peerNodeId with hgateKey
  set counted := redis.incr now countKey with hcounted
  set kept := if counted.1 = 1 then counted.2.expire now countKey (minutes 5) else counted.2
    with hkept
  have hgate : kept.get? gateKey = redis.get? gateKey := by
    rw [hkept]
    split
    · rw [Redis.get?_expire_ne hne, hcounted, Redis.get?_incr_ne hne]
    · rw [hcounted, Redis.get?_incr_ne hne]
  have hlive : ∀ now', kept.live now' gateKey = redis.live now' gateKey :=
    fun now' => Redis.live_congr hgate
  have hbackoff : connectPlanRetryBackoff counted.1 =
      backoffAfter ((countingGate (sinceReset history)).count + 1) := by
    rw [hvalue, countingGate_count, backoffAfter, connectPlanRetryBackoff_eq]
    rfl
  have hbefore : ∀ now', (∀ e ∈ history ++ [.attempt now], e.time ≤ now') →
      (∀ e ∈ history, e.time ≤ now') ∧ now ≤ now' := by
    intro now' hall
    exact ⟨fun e he => hall e (List.mem_append_left _ he),
      hall _ (List.mem_append_right _ (List.mem_singleton_self _))⟩
  by_cases hzero : backoffAfter ((countingGate (sinceReset history)).count + 1) = 0
  · -- the first attempt since a reset
    have hlength : (sinceReset history).length ≤ 1 := by
      rw [backoffAfter_eq_zero_iff, countingGate_count] at hzero
      omega
    have hopen : ∀ now', (∀ e ∈ history, e.time ≤ now') →
        (countingGate (sinceReset history)).opensAt ≤ now' := by
      intro now' hall
      refine Gate.opensAt_le_of_length _ _ backoffAfter_one hlength fun time htime => ?_
      obtain ⟨e, he, rfl⟩ := List.mem_map.mp ((sinceReset_sublist history).subset htime)
      exact hall e he
    rw [hbackoff, if_pos hzero.le]
    refine ⟨(decide_eq_true (hopen now hsorted)).symm, hentry, fun now' hall => ?_⟩
    obtain ⟨hhistory, hnow⟩ := hbefore now' hall
    rw [hlive, h.gate now' hhistory, sinceReset_concat_attempt, countingGate_concat,
      Gate.attempt_allowed _ _ (hopen now hsorted), hzero]
    exact iff_of_false (Nat.not_lt.mpr (hopen now' hhistory)) (Nat.not_lt.mpr hnow)
  · rw [hbackoff, if_neg (Nat.not_le.mpr (Nat.pos_of_ne_zero hzero)), Redis.setNX]
    by_cases hopen : (countingGate (sinceReset history)).opensAt ≤ now
    · have hnone : kept.live now gateKey = none := by
        rw [← Option.not_isSome_iff_eq_none, hlive, h.gate now hsorted]
        exact Nat.not_lt.mpr hopen
      rw [hnone]
      refine ⟨(decide_eq_true hopen).symm, ?_, fun now' hall => ?_⟩
      · exact ((Table.get?_put _ _ _ _).trans (if_neg hne.symm)).trans hentry
      · rw [sinceReset_concat_attempt, countingGate_concat, Gate.attempt_allowed _ _ hopen,
          Redis.live, ← hgateKey]
        simp
    · have hclosed := Nat.not_le.mp hopen
      obtain ⟨entry, hsome⟩ := Option.isSome_iff_exists.mp
        ((h.gate now hsorted).mpr hclosed)
      rw [hlive, hsome]
      refine ⟨(decide_eq_false hopen).symm, hentry, fun now' hall => ?_⟩
      obtain ⟨hhistory, hnow⟩ := hbefore now' hall
      rw [hlive, h.gate now' hhistory, sinceReset_concat_attempt, countingGate_concat,
        Gate.attempt_refused _ _ hclosed]

theorem redisKeeps_reset (networkId nodeId peerNodeId : String) (redis : Redis)
    (history : List Event) (now : Nat) :
    RedisKeeps networkId nodeId peerNodeId (resetConnectPlanRetry redis networkId nodeId peerNodeId)
      (history ++ [.reset now]) := by
  unfold resetConnectPlanRetry Redis.del
  constructor
  · rw [sinceReset_concat_reset, Table.get?_remove, if_neg (gateKey_ne_countKey _).symm,
      Table.get?_remove_self]
    rfl
  · intro now' _
    rw [sinceReset_concat_reset, Redis.live_eq_none (Table.get?_remove_self _ _)]
    exact iff_of_false nofun (Nat.not_lt_zero now')

/-! ## What the throttle keeps -/

variable {throttle : ConnectPlanThrottle}

def ThrottleKeeps (networkId nodeId peerNodeId : String) (throttle : ConnectPlanThrottle)
    (history : List Event) : Prop :=
  throttle.state networkId nodeId peerNodeId =
    ⟨(allowingGate (sinceReset history)).count, (allowingGate (sinceReset history)).opensAt⟩

theorem ThrottleKeeps.allow (h : ThrottleKeeps networkId nodeId peerNodeId throttle history)
    (now : Nat) :
    let allowed := throttle.allow now networkId nodeId peerNodeId
    allowed.1 = decide ((allowingGate (sinceReset history)).opensAt ≤ now) ∧
      ThrottleKeeps networkId nodeId peerNodeId allowed.2 (history ++ [.attempt now]) := by
  unfold ThrottleKeeps at h ⊢
  unfold ConnectPlanThrottle.allow
  rw [h, sinceReset_concat_attempt, allowingGate_concat]
  dsimp only
  by_cases hopen : (allowingGate (sinceReset history)).opensAt ≤ now
  · rw [if_neg (Nat.not_lt.mpr hopen), Gate.attempt_allowed _ _ hopen, decide_eq_true hopen]
    refine ⟨rfl, ?_⟩
    unfold ConnectPlanThrottle.state
    rw [Table.get?_put_self]
    rfl
  · have hclosed := Nat.not_le.mp hopen
    rw [if_pos hclosed, Gate.attempt_refused _ _ hclosed, decide_eq_false hopen]
    exact ⟨rfl, h⟩

theorem throttleKeeps_reset (networkId nodeId peerNodeId : String)
    (throttle : ConnectPlanThrottle) (history : List Event) (now : Nat) :
    ThrottleKeeps networkId nodeId peerNodeId (throttle.reset networkId nodeId peerNodeId)
      (history ++ [.reset now]) := by
  unfold ThrottleKeeps ConnectPlanThrottle.reset ConnectPlanThrottle.state
  rw [sinceReset_concat_reset, Table.get?_remove_self]
  rfl

end

/-! ## Whole histories -/

section

variable {networkId nodeId peerNodeId : String} {redis : Redis} {throttle : ConnectPlanThrottle}
  {history : List RetryEvent}

theorem WithinLifetime.of_prefix {before : List RetryEvent} (h : WithinLifetime history)
    (hbefore : before <+: history) : WithinLifetime before where
  sorted := h.sorted.sublist (hbefore.map _).sublist
  young := fun before' hbefore' => h.young before' (hbefore'.trans (hbefore.map _))

/-- The last event comes after the others. -/
theorem WithinLifetime.le_last {e : RetryEvent} (h : WithinLifetime (history ++ [e])) :
    ∀ e' ∈ history.map RetryEvent.event, e'.time ≤ e.event.time := by
  have hsorted := h.sorted
  rw [List.map_append, List.pairwise_append] at hsorted
  rw [List.forall_mem_map]
  intro e' he'
  exact hsorted.2.2 _ (List.mem_map_of_mem he') _ (List.mem_singleton_self _)

theorem WithinLifetime.young_last {now : Nat} {reversed : Bool}
    (h : WithinLifetime (history ++ [⟨.attempt now, reversed⟩])) :
    ∀ first, (sinceReset (history.map RetryEvent.event)).head? = some first →
      now < first + minutes 5 := by
  intro first hfirst
  have hyoung := h.young _ (List.prefix_refl _) first
  rw [List.map_append, List.map_singleton, sinceReset_concat_attempt,
    List.head?_append_of_ne_nil] at hyoung
  · exact hyoung hfirst now (List.mem_append_right _ (List.mem_singleton_self now))
  · rintro hnil
    rw [hnil] at hfirst
    cases hfirst

/-- One more event, in either order of the nodes. -/
theorem RedisKeeps.act {e : RetryEvent}
    (h : RedisKeeps networkId nodeId peerNodeId redis (history.map RetryEvent.event))
    (hlifetime : WithinLifetime (history ++ [e])) :
    (redisAct networkId nodeId peerNodeId redis e).1 =
        (Gate.act backoffAfter (· + 1)
          (countingGate (sinceReset (history.map RetryEvent.event))) e.event).1 ∧
      RedisKeeps networkId nodeId peerNodeId (redisAct networkId nodeId peerNodeId redis e).2
        ((history ++ [e]).map RetryEvent.event) := by
  rw [List.map_append]
  obtain ⟨event, reversed⟩ := e
  cases event with
  | attempt now =>
    obtain ⟨hanswer, hkeeps⟩ := h.acquire hlifetime.le_last hlifetime.young_last
    dsimp only [redisAct, Gate.act]
    have hsame : acquireConnectPlanRetry redis now networkId peerNodeId nodeId =
        acquireConnectPlanRetry redis now networkId nodeId peerNodeId := by
      unfold acquireConnectPlanRetry
      rw [connectPlanRetryPairKey_comm]
    rw [hsame, ite_self]
    exact ⟨congrArg some hanswer, hkeeps⟩
  | reset now =>
    have hsame : resetConnectPlanRetry redis networkId peerNodeId nodeId =
        resetConnectPlanRetry redis networkId nodeId peerNodeId := by
      unfold resetConnectPlanRetry
      rw [connectPlanRetryPairKey_comm]
    dsimp only [redisAct, Gate.act]
    rw [hsame, ite_self]
    exact ⟨rfl, redisKeeps_reset networkId nodeId peerNodeId redis _ now⟩

theorem ThrottleKeeps.act
    (h : ThrottleKeeps networkId nodeId peerNodeId throttle (history.map RetryEvent.event))
    (e : RetryEvent) :
    (throttleAct networkId nodeId peerNodeId throttle e).1 =
        (Gate.act backoffAfter id
          (allowingGate (sinceReset (history.map RetryEvent.event))) e.event).1 ∧
      ThrottleKeeps networkId nodeId peerNodeId
        (throttleAct networkId nodeId peerNodeId throttle e).2
        ((history ++ [e]).map RetryEvent.event) := by
  rw [List.map_append]
  obtain ⟨event, reversed⟩ := e
  cases event with
  | attempt now =>
    obtain ⟨hanswer, hkeeps⟩ := h.allow now
    have hsame : throttle.allow now networkId peerNodeId nodeId =
        throttle.allow now networkId nodeId peerNodeId := by
      unfold ConnectPlanThrottle.allow ConnectPlanThrottle.state
      rw [connectPlanPairKey_comm]
    dsimp only [throttleAct, Gate.act]
    rw [hsame, ite_self]
    exact ⟨congrArg some hanswer, hkeeps⟩
  | reset now =>
    have hsame : throttle.reset networkId peerNodeId nodeId =
        throttle.reset networkId nodeId peerNodeId := by
      unfold ConnectPlanThrottle.reset
      rw [connectPlanPairKey_comm]
    dsimp only [throttleAct, Gate.act]
    rw [hsame, ite_self]
    exact ⟨rfl, throttleKeeps_reset networkId nodeId peerNodeId throttle _ now⟩

theorem redisKeeps_after (hunknown : Unknown networkId nodeId peerNodeId redis throttle)
    (hlifetime : WithinLifetime history) :
    RedisKeeps networkId nodeId peerNodeId
      (after (redisAct networkId nodeId peerNodeId) redis history)
      (history.map RetryEvent.event) := by
  induction history using List.reverseRecOn with
  | nil =>
    refine ⟨hunknown.count, fun now _ => ?_⟩
    rw [after, List.foldl_nil, Redis.live_eq_none hunknown.gate]
    exact iff_of_false Bool.false_ne_true (Nat.not_lt_zero now)
  | append_singleton history e ih =>
    have hkeeps := ih (hlifetime.of_prefix (List.prefix_append _ _))
    rw [after_concat]
    exact (hkeeps.act hlifetime).2

theorem throttleKeeps_after (hunknown : Unknown networkId nodeId peerNodeId redis throttle)
    (history : List RetryEvent) :
    ThrottleKeeps networkId nodeId peerNodeId
      (after (throttleAct networkId nodeId peerNodeId) throttle history)
      (history.map RetryEvent.event) := by
  induction history using List.reverseRecOn with
  | nil =>
    rw [after, List.foldl_nil, ThrottleKeeps, ConnectPlanThrottle.state, hunknown.throttle]
    rfl
  | append_singleton history e ih =>
    rw [after_concat]
    exact (ih.act e).2

/-- Redis answers like the gate that counts every attempt. -/
theorem redisAct_answer (hunknown : Unknown networkId nodeId peerNodeId redis throttle)
    (hlifetime : WithinLifetime history) {before : List RetryEvent} {e : RetryEvent}
    (hbefore : before ++ [e] <+: history) :
    (redisAct networkId nodeId peerNodeId
        (after (redisAct networkId nodeId peerNodeId) redis before) e).1 =
      (Gate.act backoffAfter (· + 1)
        (after (Gate.act backoffAfter (· + 1)) .new (before.map RetryEvent.event)) e.event).1 := by
  have hwithin := hlifetime.of_prefix hbefore
  have hkeeps := redisKeeps_after hunknown (hwithin.of_prefix (List.prefix_append _ _))
  rw [(hkeeps.act hwithin).1, Gate.after_sinceReset]
  rfl

theorem throttleAct_answer (hunknown : Unknown networkId nodeId peerNodeId redis throttle)
    (before : List RetryEvent) (e : RetryEvent) :
    (throttleAct networkId nodeId peerNodeId
        (after (throttleAct networkId nodeId peerNodeId) throttle before) e).1 =
      (Gate.act backoffAfter id
        (after (Gate.act backoffAfter id) .new (before.map RetryEvent.event)) e.event).1 := by
  rw [((throttleKeeps_after hunknown before).act e).1, Gate.after_sinceReset]
  rfl

/-- What answers like a gate, and has its backoff after each attempt, is spaced. -/
theorem spaced_of_gate {σ : Type} {act : σ → RetryEvent → Option Bool × σ} {backoff : σ → Nat}
    {s : σ} {onRefusal : Nat → Nat}
    (hanswer : ∀ before e, before ++ [e] <+: history →
      (act (after act s before) e).1 = (Gate.act backoffAfter onRefusal
        (after (Gate.act backoffAfter onRefusal) .new (before.map RetryEvent.event)) e.event).1)
    (hbackoff : ∀ before e now, before ++ [e] <+: history → e.event = .attempt now →
      backoff (after act s (before ++ [e])) = backoffAfter
        (after (Gate.act backoffAfter onRefusal) .new
          ((before ++ [e]).map RetryEvent.event)).count) :
    Spaced act backoff s history := by
  rintro before ⟨earlier, reversed⟩ between ⟨later, reversed'⟩ hprefix hbetween hallowed hlater
  have hfirst : before ++ [⟨earlier, reversed⟩] <+: history := by
    refine List.IsPrefix.trans ⟨between ++ [⟨later, reversed'⟩], ?_⟩ hprefix
    rw [List.append_assoc, List.singleton_append, List.append_assoc, List.cons_append]
  rw [hanswer before _ hfirst] at hallowed
  rw [hanswer (before ++ ⟨earlier, reversed⟩ :: between) _ hprefix] at hlater
  cases earlier with
  | reset now => cases hallowed
  | attempt now =>
    cases later with
    | reset now' => cases hlater
    | attempt now' =>
      rw [hbackoff before _ now hfirst rfl]
      rw [List.map_append, List.map_cons] at hlater ⊢
      refine Gate.spaced backoffAfter onRefusal ?_ (of_decide_eq_true (Option.some.inj hallowed))
        (of_decide_eq_true (Option.some.inj hlater))
      intro time hmem
      obtain ⟨e, he, hreset⟩ := List.mem_map.mp hmem
      obtain ⟨now'', hattempt⟩ := hbetween e he
      rw [hreset] at hattempt
      cases hattempt

theorem redis_spaced (hunknown : Unknown networkId nodeId peerNodeId redis throttle)
    (hlifetime : WithinLifetime history) :
    Spaced (redisAct networkId nodeId peerNodeId)
      (fun redis => connectPlanRetryBackoff (redisCount networkId nodeId peerNodeId redis)) redis
      history := by
  refine spaced_of_gate (fun before e => redisAct_answer hunknown hlifetime) ?_
  rintro before ⟨event, reversed⟩ now hbefore rfl
  have hkeeps := redisKeeps_after hunknown (hlifetime.of_prefix hbefore)
  have htimes : sinceReset ((before ++ [RetryEvent.mk (.attempt now) reversed]).map
      RetryEvent.event) = sinceReset (before.map RetryEvent.event) ++ [now] := by
    rw [List.map_append, List.map_singleton, sinceReset_concat_attempt]
  have hcount : redisCount networkId nodeId peerNodeId
      (after (redisAct networkId nodeId peerNodeId) redis
        (before ++ [⟨.attempt now, reversed⟩])) =
      (sinceReset (before.map RetryEvent.event) ++ [now]).length := by
    rw [redisCount, hkeeps.count, htimes]
    cases sinceReset (before.map RetryEvent.event) <;> rfl
  have hgate := countingGate_count (sinceReset (before.map RetryEvent.event) ++ [now])
  rw [hcount, Gate.after_sinceReset, htimes, ← hgate, connectPlanRetryBackoff_eq]
  rfl

theorem throttle_spaced (hunknown : Unknown networkId nodeId peerNodeId redis throttle)
    (history : List RetryEvent) :
    Spaced (throttleAct networkId nodeId peerNodeId)
      (fun throttle => connectPlanBackoff (throttle.state networkId nodeId peerNodeId).failures)
      throttle history := by
  refine spaced_of_gate (fun before e _ => throttleAct_answer hunknown before e) ?_
  intro before e now _ _
  have hkeeps := throttleKeeps_after hunknown (before ++ [e])
  unfold ThrottleKeeps at hkeeps
  rw [hkeeps, Gate.after_sinceReset]
  rfl

end

/-! ## When the gates agree -/

theorem backoffAfter_mono {count count' : Nat} (h : count ≤ count') :
    backoffAfter count ≤ backoffAfter count' := by
  unfold backoffAfter connectPlanBackoff seconds
  grind

/-- From the fourth attempt that is allowed on, only the next pause can differ. -/
theorem agree_fourth_iff {fourth count : Nat} {later : List Nat} (hcount : 4 ≤ count)
    (hsorted : later.Pairwise (· ≤ ·)) :
    Gate.Agree backoffAfter ⟨4, fourth + backoffAfter 4⟩ ⟨count, fourth + backoffAfter count⟩
        later ↔
      ∀ now ∈ later, fourth + backoffAfter 4 ≤ now → fourth + backoffAfter count ≤ now := by
  rw [Gate.agree_iff_next (Nat.add_le_add_left (backoffAfter_mono hcount) fourth) hsorted]
  refine and_iff_left fun refused now rest _ _ _ => ?_
  refine Gate.agree_of_constant (fun n => backoffAfter_of_five_le) ?_ ?_ ?_ rest
  · exact Nat.le_succ 5
  · dsimp only
    omega
  · dsimp only
    have hfive : 5 ≤ count + refused.length + 1 := by omega
    rw [backoffAfter_of_five_le hfive]

theorem agree_iff_calm {times : List Nat} (hsorted : times.Pairwise (· ≤ ·)) :
    Gate.Agree backoffAfter .new .new times ↔ Calm times := by
  match times with
  | [] => exact iff_of_true trivial ⟨by simp, by simp⟩
  | [_] => exact iff_of_true ⟨Iff.rfl, trivial⟩ ⟨by simp, by simp⟩
  | first :: next :: rest =>
    obtain ⟨hfirst, hsorted⟩ := List.pairwise_cons.mp hsorted
    obtain ⟨-, hsorted⟩ := List.pairwise_cons.mp hsorted
    have hnext : first + backoffAfter 1 ≤ next := hfirst next List.mem_cons_self
    rw [Gate.Agree, Gate.Agree, and_iff_right Iff.rfl,
      Gate.attempt_allowed _ _ (Nat.zero_le first), Gate.attempt_allowed _ _ (Nat.zero_le first),
      and_iff_right Iff.rfl, Gate.attempt_allowed _ _ hnext, Gate.attempt_allowed _ _ hnext,
      Gate.agree_iff_next le_rfl hsorted, and_iff_right fun _ _ h => h]
    have hthird : ∀ (refused : List Nat) third later, rest = refused ++ third :: later →
        (Gate.Agree backoffAfter ⟨3, third + backoffAfter 3⟩
            ⟨2 + refused.length + 1, third + backoffAfter (2 + refused.length + 1)⟩ later ↔
          (∀ now ∈ later, third + backoffAfter 3 ≤ now →
            third + backoffAfter (3 + refused.length) ≤ now) ∧
          ∀ refused' fourth later', later = refused' ++ fourth :: later' →
            (∀ early ∈ refused', early < third + backoffAfter 3) →
            third + backoffAfter 3 ≤ fourth →
            ∀ now ∈ later', fourth + backoffAfter 4 ≤ now →
              fourth + backoffAfter (4 + refused.length + refused'.length) ≤ now) := by
      intro refused third later hrest
      have hlater : later.Pairwise (· ≤ ·) := by
        rw [hrest, List.pairwise_append, List.pairwise_cons] at hsorted
        exact hsorted.2.1.2
      have hthree : 2 + refused.length + 1 = 3 + refused.length := by omega
      rw [hthree, Gate.agree_iff_next (Nat.add_le_add_left (backoffAfter_mono (by omega)) third)
        hlater]
      refine and_congr_right fun _ => forall_congr' fun refused' => forall_congr' fun fourth =>
        forall_congr' fun later' => forall_congr' fun hsplit => forall_congr' fun _ =>
        forall_congr' fun _ => ?_
      have hlater' : later'.Pairwise (· ≤ ·) := by
        rw [hsplit, List.pairwise_append, List.pairwise_cons] at hlater
        exact hlater.2.1.2
      have hfour : 3 + refused.length + refused'.length + 1 =
          4 + refused.length + refused'.length := by omega
      dsimp only
      rw [hfour]
      exact agree_fourth_iff (by omega) hlater'
    constructor
    · intro h
      refine ⟨?_, ?_⟩
      · intro first' next' refused third later htimes hrefused hpause
        obtain ⟨-, htimes⟩ := List.cons.inj htimes
        obtain ⟨rfl, hrest⟩ := List.cons.inj htimes
        exact ((hthird refused third later hrest).mp
          (h refused third later hrest hrefused hpause)).1
      · intro first' next' refused third refused' fourth later htimes hrefused hpause
        rw [List.append_assoc, List.cons_append, List.cons_append, List.cons_append] at htimes
        obtain ⟨-, htimes⟩ := List.cons.inj htimes
        obtain ⟨rfl, hrest⟩ := List.cons.inj htimes
        exact ((hthird refused third _ hrest).mp (h refused third _ hrest hrefused hpause)).2
          refused' fourth later rfl
    · intro h refused third later hrest hrefused hpause
      refine (hthird refused third later hrest).mpr ⟨?_, ?_⟩
      · exact h.third first next refused third later (by rw [hrest]; rfl) hrefused hpause
      · intro refused' fourth later' hlater
        refine h.fourth first next refused third refused' fourth later' ?_ hrefused hpause
        rw [hrest, hlater, List.append_assoc]
        rfl

/-- Along a history of one pair the two gates agree exactly when the attempts are calm after every
reset. -/
theorem gatesAgree_iff {networkId nodeId peerNodeId : String} {redis : Redis}
    {throttle : ConnectPlanThrottle} {history : List RetryEvent}
    (hunknown : Unknown networkId nodeId peerNodeId redis throttle)
    (hlifetime : WithinLifetime history) :
    GatesAgree networkId nodeId peerNodeId redis throttle history ↔
      ∀ before, before <+: history.map RetryEvent.event → Calm (sinceReset before) := by
  have hsorted : ∀ before, before <+: history.map RetryEvent.event →
      (sinceReset before).Pairwise (· ≤ ·) := by
    intro before hbefore
    have htimes := hlifetime.sorted
    rw [← Function.comp_def, ← List.map_map] at htimes
    exact (htimes.sublist (hbefore.map Event.time).sublist).sublist (sinceReset_sublist before)
  have hcalm : (∀ before, before <+: history.map RetryEvent.event → Calm (sinceReset before)) ↔
      ∀ before, before <+: history.map RetryEvent.event →
        Gate.Agree backoffAfter .new .new (sinceReset before) :=
    forall_congr' fun before => forall_congr' fun h => (agree_iff_calm (hsorted before h)).symm
  have hredis : answers (redisAct networkId nodeId peerNodeId) redis history =
      answers (Gate.act backoffAfter (· + 1)) .new (history.map RetryEvent.event) :=
    answers_congr _ history fun _ _ hbefore => redisAct_answer hunknown hlifetime hbefore
  have hthrottle : answers (throttleAct networkId nodeId peerNodeId) throttle history =
      answers (Gate.act backoffAfter id) .new (history.map RetryEvent.event) :=
    answers_congr _ history fun before e _ => throttleAct_answer hunknown before e
  rw [hcalm, ← Gate.answers_eq_iff, ← hredis, ← hthrottle]
  constructor
  · exact fun h => h.same.symm
  · exact fun h => ⟨h.symm, redis_spaced hunknown hlifetime, throttle_spaced hunknown history⟩

/-! ## Attempts within five minutes -/

theorem withinLifetime_of_lt {history : List RetryEvent}
    (hsorted : (history.map fun e => e.event.time).Pairwise (· ≤ ·))
    (hlt : ∀ time ∈ history.map (fun e => e.event.time), time < minutes 5) :
    WithinLifetime history where
  sorted := hsorted
  young := by
    intro before hbefore first _ now hnow
    have hmem := (hbefore.map Event.time).subset ((sinceReset_sublist before).subset hnow)
    rw [List.map_map] at hmem
    exact (hlt now hmem).trans_le (Nat.le_add_left _ first)

theorem unknown_empty (networkId nodeId peerNodeId : String) :
    Unknown networkId nodeId peerNodeId ∅ ∅ :=
  ⟨Table.get?_empty _, Table.get?_empty _, Table.get?_empty _⟩

/-- Attempts at these seconds. -/
def attemptsAt (times : List Nat) : List RetryEvent :=
  times.map fun n => ⟨.attempt (seconds n), false⟩

/-- The attempt that both gates refuse makes Redis wait for ten seconds where the throttle waits
for five. -/
theorem refusal_counted :
    ¬ ∀ (networkId nodeId peerNodeId : String) (redis : Redis) (throttle : ConnectPlanThrottle)
      (history : List RetryEvent), Unknown networkId nodeId peerNodeId redis throttle →
      WithinLifetime history → GatesAgree networkId nodeId peerNodeId redis throttle history := by
  intro hall
  have hlifetime : WithinLifetime (attemptsAt [0, 0, 1, 2, 8]) :=
    withinLifetime_of_lt (by decide) (by decide)
  have hsame := (hall "net-1" "node-1" "node-2" ∅ ∅ _ (unknown_empty _ _ _) hlifetime).same
  exact absurd hsame (by decide)

/-- Two attempts, and one that both gates refuse. -/
theorem threeAttempts_agree :
    GatesAgree "net-1" "node-1" "node-2" ∅ ∅ (attemptsAt [0, 0, 1]) := by
  have hlifetime : WithinLifetime (attemptsAt [0, 0, 1]) :=
    withinLifetime_of_lt (by decide) (by decide)
  refine (gatesAgree_iff (unknown_empty _ _ _) hlifetime).mpr fun before hbefore => ?_
  have hlength : (sinceReset before).length ≤ 3 := by
    have hshort := (sinceReset_sublist before).length_le
    rw [List.length_map] at hshort
    exact hshort.trans hbefore.length_le
  constructor
  · intro first next refused third later htimes _ _ now hnow
    rw [htimes] at hlength
    cases later with
    | nil => cases hnow
    | cons now later =>
      simp only [List.length_append, List.length_cons] at hlength
      omega
  · intro first next refused third refused' fourth later htimes
    rw [htimes] at hlength
    simp only [List.length_append, List.length_cons] at hlength
    omega

end Slan.Control
