import Std.Data.String.ToInt
import Slan.Control.ConnectRetries
import Slan.Lib.Debounce
import Slan.Lib.Text
import Slan.Lib.Transition
import Slan.Ws.Messages

/-! # The two gates for peer candidates

A candidate that a node offers a peer goes on to the peer unless the same one did a short time ago.
The servers have a gate in Redis, and each of them a window of its own for when Redis does not answer.
Times are in nanoseconds, on one clock.
-/

namespace Slan.Control

open Debounce Transition
open Ws (PeerCandidate)

/-! ## `redis.go` -/

def peerCandidateDeliveryKeyPrefix : String := "peer_candidate_delivery:"

/-- What a delivery is known by. -/
def deliveryParts (networkId sourceNodeId targetNodeId : String) (candidate : PeerCandidate) :
    List String :=
  [networkId, sourceNodeId, targetNodeId, candidate.candidateType, candidate.endpoint,
    candidate.priority.toInt.repr]

def peerCandidateDeliveryKey (networkId sourceNodeId targetNodeId : String)
    (candidate : PeerCandidate) : String :=
  ":".intercalate (deliveryParts networkId sourceNodeId targetNodeId candidate)

def acquirePeerCandidateDelivery (redis : Redis) (now : Nat)
    (networkId sourceNodeId targetNodeId : String) (candidate : PeerCandidate) (ttl : Nat) :
    Bool × Redis :=
  let ttl := if ttl ≤ 0 then seconds 10 else ttl
  redis.setNX now (peerCandidateDeliveryKeyPrefix ++
    peerCandidateDeliveryKey networkId sourceNodeId targetNodeId candidate) 1 ttl

/-! ## `control_ws_policy.go` -/

def peerCandidateKey (networkId sourceNodeId targetNodeId : String) (candidate : PeerCandidate) :
    String :=
  "|".intercalate (deliveryParts networkId sourceNodeId targetNodeId candidate)

/-- When each key expires. -/
abbrev PeerCandidateWindow := Table Nat

def PeerCandidateWindow.acquire (window : PeerCandidateWindow) (now : Nat)
    (networkId sourceNodeId targetNodeId : String) (candidate : PeerCandidate) (ttl : Nat) :
    Bool × PeerCandidateWindow :=
  let ttl := if ttl ≤ 0 then seconds 10 else ttl
  let key := peerCandidateKey networkId sourceNodeId targetNodeId candidate
  let window := window.filter (now < ·)
  match window.get? key with
  | some expiresAt =>
    if now < expiresAt then (false, window) else (true, window.put key (now + ttl))
  | none => (true, window.put key (now + ttl))

/-- What becomes of a question to Redis. -/
inductive RedisReply where
  /-- The server has no Redis. -/
  | absent
  /-- The question does not get there. -/
  | unreached
  /-- Redis decides, and its answer is lost. -/
  | unheard
  | answered
  deriving DecidableEq, Repr

/-- Redis decides. -/
def RedisReply.reached : RedisReply → Bool
  | .absent | .unreached => false
  | .unheard | .answered => true

def candidateTtl : Nat := seconds 10

def allowPeerCandidateDelivery (redis : Redis) (window : PeerCandidateWindow) (reply : RedisReply)
    (now : Nat) (networkId sourceNodeId targetNodeId : String) (candidate : PeerCandidate) :
    Bool × Redis × PeerCandidateWindow :=
  let (granted, redis) :=
    if reply.reached then
      acquirePeerCandidateDelivery redis now networkId sourceNodeId targetNodeId candidate
        candidateTtl
    else (false, redis)
  if reply = .answered then (granted, redis, window)
  else
    let (allowed, window) := window.acquire now networkId sourceNodeId targetNodeId candidate
      candidateTtl
    (allowed, redis, window)

/-! ## Runs -/

/-- A candidate comes in from a node's session on one of the servers. -/
structure Offer where
  server : Nat
  now : Nat
  reply : RedisReply
  networkId : String
  nodeId : String
  candidate : PeerCandidate
  deriving DecidableEq, Repr

namespace Offer

variable (offer : Offer)

def parts : List String :=
  deliveryParts offer.networkId offer.nodeId offer.candidate.peerNodeId offer.candidate

def redisKey : String :=
  peerCandidateDeliveryKeyPrefix ++ peerCandidateDeliveryKey offer.networkId offer.nodeId
    offer.candidate.peerNodeId offer.candidate

def windowKey : String :=
  peerCandidateKey offer.networkId offer.nodeId offer.candidate.peerNodeId offer.candidate

/-- What Redis decides, if it comes to that. -/
def granted (redis : Redis) : Bool :=
  (acquirePeerCandidateDelivery redis offer.now offer.networkId offer.nodeId
    offer.candidate.peerNodeId offer.candidate candidateTtl).1

/-- Nothing in front of the endpoint has a separator. -/
def Plain : Prop :=
  ∀ part ∈ [offer.networkId, offer.nodeId, offer.candidate.peerNodeId,
    offer.candidate.candidateType], ':' ∉ part.toList ∧ '|' ∉ part.toList

instance : Decidable offer.Plain := List.decidableBAll _ _

end Offer

/-- An offer, whether it went on, and what Redis decided if it was asked. -/
structure Admission where
  offer : Offer
  allowed : Bool
  granted : Bool
  deriving DecidableEq, Repr

namespace Admission

def now (admission : Admission) : Nat := admission.offer.now

def atRedis (key : String) (admission : Admission) : Bool :=
  admission.offer.reply.reached && admission.offer.redisKey == key

def atWindow (server : Nat) (key : String) (admission : Admission) : Bool :=
  admission.offer.reply != .answered && admission.offer.server == server &&
    admission.offer.windowKey == key

end Admission

/-- The gates, the time, and the offers so far. -/
structure CandidateGates where
  redis : Redis
  windows : Nat → PeerCandidateWindow
  clock : Nat
  admissions : List Admission

namespace CandidateGates

def start : CandidateGates := ⟨∅, fun _ => ∅, 0, []⟩

/-- `forwardPeerCandidate`, up to the answer of the gates. -/
def forward (gates : CandidateGates) (offer : Offer) : CandidateGates :=
  let (allowed, redis, window) := allowPeerCandidateDelivery gates.redis
    (gates.windows offer.server) offer.reply offer.now offer.networkId offer.nodeId
    offer.candidate.peerNodeId offer.candidate
  { redis
    windows := Function.update gates.windows offer.server window
    clock := offer.now
    admissions := gates.admissions ++ [⟨offer, allowed, offer.granted gates.redis⟩] }

def step (gates : CandidateGates) (offer : Offer) : Option CandidateGates :=
  if gates.clock ≤ offer.now then some (gates.forward offer) else none

/-- Each gate lets through once in a while, and has kept what it needs for that. -/
structure Sound (gates : CandidateGates) : Prop where
  sorted : (gates.admissions.map Admission.now).Pairwise (· ≤ ·)
  clock : ∀ admission ∈ gates.admissions, admission.now ≤ gates.clock
  answered : ∀ admission ∈ gates.admissions, admission.offer.reply = .answered →
    admission.allowed = admission.granted
  redisGate : ∀ key, Debounced candidateTtl Admission.now Admission.granted
    (gates.admissions.filter (Admission.atRedis key))
  windowGate : ∀ server key, Debounced candidateTtl Admission.now Admission.allowed
    (gates.admissions.filter (Admission.atWindow server key))
  redis : ∀ key, gates.redis.get? key = (lastPassed Admission.now Admission.granted
    (gates.admissions.filter (Admission.atRedis key))).map fun t => ⟨1, some (t + candidateTtl)⟩
  window : ∀ server key, Tracks candidateTtl ((gates.windows server).get? key)
    (lastPassed Admission.now Admission.allowed
      (gates.admissions.filter (Admission.atWindow server key))) gates.clock

end CandidateGates

/-! ## What the gates answer -/

section Gates

variable {redis : Redis} {window : PeerCandidateWindow} {offer : Offer}

theorem live_of_get? {key : String} {now : Nat} {last : Option Nat}
    (h : redis.get? key = last.map fun t => ⟨1, some (t + candidateTtl)⟩) :
    redis.live now key = none ↔
      ¬ ∃ t, last.map (· + candidateTtl) = some t ∧ now < t := by
  rw [Redis.live, h]
  cases last with
  | none =>
    refine iff_of_true rfl ?_
    rintro ⟨_, ht, -⟩
    cases ht
  | some t =>
    rw [Option.map_some, Option.map_some, Option.filter_some, Option.all_some]
    by_cases hlt : now < t + candidateTtl
    · rw [if_pos (decide_eq_true hlt)]
      exact iff_of_false (Option.some_ne_none _) fun hnone => hnone ⟨_, rfl, hlt⟩
    · rw [if_neg fun h => hlt (of_decide_eq_true h)]
      refine iff_of_true rfl ?_
      rintro ⟨t', ht', hlt'⟩
      rw [← Option.some.inj ht'] at hlt'
      exact hlt hlt'

/-- What Redis is left with. -/
def Offer.redisAfter (offer : Offer) (redis : Redis) : Redis :=
  (acquirePeerCandidateDelivery redis offer.now offer.networkId offer.nodeId
    offer.candidate.peerNodeId offer.candidate candidateTtl).2

theorem granted_iff : offer.granted redis = true ↔ redis.live offer.now offer.redisKey = none :=
  Redis.setNX_iff

theorem get?_redisAfter (key : String) :
    (offer.redisAfter redis).get? key =
      if offer.granted redis = true ∧ key = offer.redisKey then
        some ⟨1, some (offer.now + candidateTtl)⟩
      else redis.get? key :=
  Redis.get?_setNX

/-- What the window of the server answers and is left with. -/
def Offer.windowed (offer : Offer) (window : PeerCandidateWindow) : Bool × PeerCandidateWindow :=
  window.acquire offer.now offer.networkId offer.nodeId offer.candidate.peerNodeId offer.candidate
    candidateTtl

theorem windowed_eq :
    offer.windowed window =
      let window := window.filter (offer.now < ·)
      if window.get? offer.windowKey = none then
        (true, window.put offer.windowKey (offer.now + candidateTtl))
      else (false, window) := by
  unfold Offer.windowed PeerCandidateWindow.acquire
  dsimp only
  rw [show Table.get? _ (peerCandidateKey offer.networkId _ _ _) =
    (window.filter (offer.now < ·)).get? offer.windowKey from rfl]
  cases hkept : (window.filter (offer.now < ·)).get? offer.windowKey with
  | none => rw [if_pos rfl]; rfl
  | some expiresAt =>
    rw [Table.get?_filter, Option.filter_eq_some_iff] at hkept
    rw [if_neg (Option.some_ne_none _)]
    exact if_pos (of_decide_eq_true hkept.2)

theorem windowed_iff :
    (offer.windowed window).1 = true ↔
      ¬ ∃ t, window.get? offer.windowKey = some t ∧ offer.now < t := by
  rw [windowed_eq]
  dsimp only
  rw [Table.get?_filter]
  by_cases hkept : (window.get? offer.windowKey).filter (offer.now < ·) = none
  · rw [if_pos hkept]
    refine iff_of_true rfl fun ⟨t, ht, hlt⟩ => ?_
    rw [ht, Option.filter_some, if_pos (decide_eq_true hlt)] at hkept
    cases hkept
  · rw [if_neg hkept]
    obtain ⟨t, ht⟩ := Option.ne_none_iff_exists'.mp hkept
    rw [Option.filter_eq_some_iff] at ht
    exact iff_of_false Bool.false_ne_true fun hnone => hnone ⟨t, ht.1, of_decide_eq_true ht.2⟩

theorem get?_windowed (key : String) :
    (offer.windowed window).2.get? key =
      if (offer.windowed window).1 = true ∧ key = offer.windowKey then
        some (offer.now + candidateTtl)
      else (window.get? key).filter (offer.now < ·) := by
  rw [windowed_eq]
  dsimp only
  by_cases hkept : (window.filter (offer.now < ·)).get? offer.windowKey = none
  · rw [if_pos hkept]
    refine (Table.get?_put _ _ _ _).trans ?_
    by_cases hkey : key = offer.windowKey
    · rw [if_pos hkey, if_pos ⟨rfl, hkey⟩]
    · rw [if_neg hkey, if_neg fun h => hkey h.2, Table.get?_filter]
  · rw [if_neg hkept, if_neg fun h => Bool.false_ne_true h.1, Table.get?_filter]

end Gates

namespace CandidateGates

variable (gates : CandidateGates) (offer : Offer)

/-- What is decided about an offer. -/
def admission : Admission where
  offer
  allowed := if offer.reply = .answered then offer.granted gates.redis
    else (offer.windowed (gates.windows offer.server)).1
  granted := offer.granted gates.redis

theorem forward_eq :
    gates.forward offer =
      { redis := if offer.reply.reached then offer.redisAfter gates.redis else gates.redis
        windows := if offer.reply = .answered then gates.windows
          else Function.update gates.windows offer.server
            (offer.windowed (gates.windows offer.server)).2
        clock := offer.now
        admissions := gates.admissions ++ [gates.admission offer] } := by
  unfold forward allowPeerCandidateDelivery admission
  cases hreply : offer.reply with
  | answered =>
    dsimp only [RedisReply.reached]
    rw [if_pos rfl, if_pos rfl, if_pos rfl, Function.update_eq_self]
    rfl
  | _ => rfl

variable {gates offer}

theorem atRedis_admission (key : String) :
    (gates.admission offer).atRedis key = true ↔
      offer.reply.reached = true ∧ key = offer.redisKey := by
  unfold Admission.atRedis
  rw [Bool.and_eq_true, beq_iff_eq, eq_comm (b := key)]
  rfl

theorem atWindow_admission (server : Nat) (key : String) :
    (gates.admission offer).atWindow server key = true ↔
      offer.reply ≠ .answered ∧ server = offer.server ∧ key = offer.windowKey := by
  unfold Admission.atWindow
  rw [Bool.and_eq_true, Bool.and_eq_true, bne_iff_ne, beq_iff_eq, beq_iff_eq, eq_comm (b := key),
    eq_comm (b := server), and_assoc]
  rfl

theorem sorted_filter {admissions : List Admission} (kind : Admission → Bool)
    (h : (admissions.map Admission.now).Pairwise (· ≤ ·)) :
    ((admissions.filter kind).map Admission.now).Pairwise (· ≤ ·) :=
  h.sublist (List.filter_sublist.map _)

theorem sound_start : Sound start where
  sorted := .nil
  clock _ h := absurd h List.not_mem_nil
  answered _ h := absurd h List.not_mem_nil
  redisGate _ := debounced_nil
  windowGate _ _ := debounced_nil
  redis _ := rfl
  window _ _ := tracks_map none 0

/-- Redis decides by what went on of the same key. -/
theorem Sound.granted_iff (h : gates.Sound) :
    offer.granted gates.redis = true ↔
      ∀ admission ∈ gates.admissions.filter (Admission.atRedis offer.redisKey),
        admission.granted = true → admission.now + candidateTtl ≤ offer.now := by
  rw [Control.granted_iff, live_of_get? (h.redis offer.redisKey)]
  exact (tracks_map _ 0).passes_iff (sorted_filter _ h.sorted) (Nat.zero_le _)

/-- A window decides by what went on through it of the same key. -/
theorem Sound.windowed_iff (h : gates.Sound) (hclock : gates.clock ≤ offer.now) :
    (offer.windowed (gates.windows offer.server)).1 = true ↔
      ∀ admission ∈ gates.admissions.filter (Admission.atWindow offer.server offer.windowKey),
        admission.allowed = true → admission.now + candidateTtl ≤ offer.now := by
  rw [Control.windowed_iff]
  exact (h.window offer.server offer.windowKey).passes_iff (sorted_filter _ h.sorted) hclock

theorem Sound.forward (h : gates.Sound) (hclock : gates.clock ≤ offer.now) :
    (gates.forward offer).Sound := by
  rw [forward_eq]
  constructor
  case sorted =>
    rw [List.map_append, List.pairwise_append]
    refine ⟨h.sorted, List.pairwise_singleton _ _, fun t ht now hnow => ?_⟩
    obtain ⟨admission, hmem, rfl⟩ := List.mem_map.mp ht
    obtain rfl := List.mem_singleton.mp hnow
    exact (h.clock admission hmem).trans hclock
  case clock =>
    intro admission hmem
    rcases List.mem_append.mp hmem with hmem | hmem
    · exact (h.clock admission hmem).trans hclock
    · obtain rfl := List.mem_singleton.mp hmem
      exact Nat.le_refl _
  case answered =>
    intro admission hmem hanswered
    rcases List.mem_append.mp hmem with hmem | hmem
    · exact h.answered admission hmem hanswered
    · obtain rfl := List.mem_singleton.mp hmem
      exact if_pos hanswered
  case redisGate =>
    refine fun key => (h.redisGate key).filter_concat fun hkind => ?_
    obtain ⟨-, rfl⟩ := (atRedis_admission key).mp hkind
    exact h.granted_iff
  case windowGate =>
    refine fun server key => (h.windowGate server key).filter_concat fun hkind => ?_
    obtain ⟨hanswered, rfl, rfl⟩ := (atWindow_admission server key).mp hkind
    rw [show (gates.admission offer).allowed = _ from if_neg hanswered]
    exact h.windowed_iff hclock
  case redis =>
    intro key
    rw [lastPassed_filter_concat]
    by_cases hreached : offer.reply.reached = true
    · dsimp only
      rw [if_pos hreached, get?_redisAfter, h.redis key,
        show (gates.admission offer).granted = offer.granted gates.redis from rfl]
      simp only [atRedis_admission, hreached, true_and]
      split <;> rfl
    · dsimp only
      rw [if_neg hreached, if_neg fun hpassed => hreached ((atRedis_admission key).mp hpassed.2).1]
      exact h.redis key
  case window =>
    intro server key
    rw [lastPassed_filter_concat]
    dsimp only
    by_cases hanswered : offer.reply = .answered
    · rw [if_pos hanswered,
        if_neg fun hpassed => ((atWindow_admission server key).mp hpassed.2).1 hanswered]
      exact (h.window server key).mono hclock
    rw [if_neg hanswered, show (gates.admission offer).allowed = _ from if_neg hanswered]
    by_cases hserver : server = offer.server
    · obtain rfl := hserver
      rw [Function.update_self, get?_windowed]
      simp only [atWindow_admission, ne_eq, hanswered, not_false_eq_true, true_and]
      split
      · exact tracks_map (some offer.now) offer.now
      · exact (h.window offer.server key).drop hclock
    · rw [Function.update_of_ne hserver,
        if_neg fun hpassed => hserver ((atWindow_admission server key).mp hpassed.2).2.1]
      exact (h.window server key).mono hclock

/-- The gates are sound at every time. -/
theorem sound_run (h : Reachable (rel step) start gates) : gates.Sound :=
  h.invariant Sound sound_start fun _ _ _ hsound hstep => by
    obtain ⟨hclock, rfl⟩ := ite_some_iff.mp hstep
    exact hsound.forward hclock

end CandidateGates

/-! ## What goes on and what does not -/

theorem isDigit_or_eq_of_mem_repr {n : Int} {c : Char} (h : c ∈ n.repr.toList) :
    c.isDigit = true ∨ c = '-' := by
  cases n with
  | ofNat n => exact .inl (Nat.isDigit_of_mem_toDigits (by decide) (by decide)
      (Nat.toList_repr ▸ h))
  | negSucc n =>
    rcases List.mem_append.mp (String.toList_append ▸ h) with h | h
    · exact .inr (List.mem_singleton.mp h)
    · exact .inl (Nat.isDigit_of_mem_toDigits (by decide) (by decide) (Nat.toList_repr ▸ h))

namespace Offer

variable {offer offer' : Offer}

/-- Joined parts are equal only when the parts are: the endpoint alone may have separators. -/
theorem parts_of_join {c : Char} (hdigit : c.isDigit = false) (hminus : c ≠ '-')
    (h : ∀ part ∈ offer.parts.take 4, c ∉ part.toList)
    (h' : ∀ part ∈ offer'.parts.take 4, c ∉ part.toList)
    (hjoin : (String.ofList [c]).intercalate offer.parts =
      (String.ofList [c]).intercalate offer'.parts) : offer.parts = offer'.parts := by
  have hpriority : ∀ n : Int, n.repr.toList.count c = 0 := fun n =>
    List.count_eq_zero.mpr fun hmem => by
      rcases isDigit_or_eq_of_mem_repr hmem with hdigit' | rfl
      · rw [hdigit] at hdigit'
        cases hdigit'
      · exact hminus rfl
  simp only [parts, deliveryParts, List.take_succ_cons, List.take_zero, List.forall_mem_cons,
    ← List.count_eq_zero] at h h'
  obtain ⟨h1, h2, h3, h4, -⟩ := h
  obtain ⟨h1', h2', h3', h4', -⟩ := h'
  have hendpoint : offer.candidate.endpoint.toList.count c =
      offer'.candidate.endpoint.toList.count c := by
    have hcount := congrArg (fun s => s.toList.count c) hjoin
    simpa [parts, deliveryParts, String.toList_intercalate, List.intercalate, List.count_append,
      h1, h2, h3, h4, h1', h2', h3', h4', hpriority] using hcount
  refine Text.join_inj_of_count ?_ hjoin
  exact .cons (h1.trans h1'.symm) (.cons (h2.trans h2'.symm) (.cons (h3.trans h3'.symm)
    (.cons (h4.trans h4'.symm) (.cons hendpoint
      (.cons ((hpriority _).trans (hpriority _).symm) .nil)))))

theorem parts_of_redisKey (h : offer.Plain) (h' : offer'.Plain)
    (hkey : offer.redisKey = offer'.redisKey) : offer.parts = offer'.parts :=
  parts_of_join (c := ':') (by decide) (by decide) (fun part hpart => (h part hpart).1)
    (fun part hpart => (h' part hpart).1) (String.append_right_inj _ |>.mp hkey)

theorem parts_of_windowKey (h : offer.Plain) (h' : offer'.Plain)
    (hkey : offer.windowKey = offer'.windowKey) : offer.parts = offer'.parts :=
  parts_of_join (c := '|') (by decide) (by decide) (fun part hpart => (h part hpart).2)
    (fun part hpart => (h' part hpart).2) hkey

end Offer

/-- Redis answered both, or one server decided about both by itself. -/
def Admission.SameGate (first second : Admission) : Prop :=
  first.offer.reply = .answered ∧ second.offer.reply = .answered ∨
    first.offer.server = second.offer.server ∧ first.offer.reply ≠ .answered ∧
      second.offer.reply ≠ .answered

/-- A gate lets the same candidate through once in ten seconds. -/
def CandidatesSpaced (admissions : List Admission) : Prop :=
  ∀ before first between second after,
    admissions = (before ++ first :: between) ++ second :: after →
      first.offer.parts = second.offer.parts → first.SameGate second → first.allowed = true →
        second.allowed = true → first.now + seconds 10 ≤ second.now

/-- A candidate is held back only where the same one went on less than twenty seconds before; less
than ten, if no answer of Redis was lost. -/
def CandidatesCovered (admissions : List Admission) : Prop :=
  ∀ before refused after, admissions = before ++ refused :: after → refused.allowed = false →
    ∃ earlier ∈ before, earlier.offer.parts = refused.offer.parts ∧ earlier.allowed = true ∧
      refused.now < earlier.now + seconds 20 ∧
      ((∀ admission ∈ before, admission.offer.reply ≠ .unheard) →
        refused.now < earlier.now + seconds 10)

namespace CandidateGates

variable {gates : CandidateGates}

theorem Sound.spaced (h : gates.Sound) : CandidatesSpaced gates.admissions := by
  intro before first between second after hsplit hparts hgate hfirst hsecond
  have hmem : first ∈ gates.admissions ∧ second ∈ gates.admissions := by simp [hsplit]
  have hredis : first.offer.redisKey = second.offer.redisKey :=
    congrArg (fun parts => peerCandidateDeliveryKeyPrefix ++ ":".intercalate parts) hparts
  have hwindow : first.offer.windowKey = second.offer.windowKey :=
    congrArg (fun parts => "|".intercalate parts) hparts
  rcases hgate with ⟨hanswered, hanswered'⟩ | ⟨hserver, hself, hself'⟩
  · refine (h.redisGate second.offer.redisKey).spaced hsplit ?_ ?_ ?_
    · simp [Admission.atRedis, RedisReply.reached, hanswered, hanswered', hredis]
    · exact h.answered first hmem.1 hanswered ▸ hfirst
    · exact h.answered second hmem.2 hanswered' ▸ hsecond
  · refine (h.windowGate second.offer.server second.offer.windowKey).spaced hsplit ?_ hfirst hsecond
    simp [Admission.atWindow, hself, hself', hserver, hwindow]

/-- What a window holds back went on through it. -/
theorem Sound.covered_window (h : gates.Sound)
    (hplain : ∀ admission ∈ gates.admissions, admission.offer.Plain)
    {before after : List Admission} {refused : Admission}
    (hsplit : gates.admissions = before ++ refused :: after)
    (hself : refused.offer.reply ≠ .answered) (hrefused : refused.allowed = false) :
    ∃ earlier ∈ before, earlier.offer.parts = refused.offer.parts ∧ earlier.allowed = true ∧
      refused.now < earlier.now + seconds 10 := by
  obtain ⟨earlier, hmem, hkind, hallowed, hlt⟩ :=
    (h.windowGate refused.offer.server refused.offer.windowKey).covered hsplit
      (by simp [Admission.atWindow, hself]) hrefused
  have hkey : earlier.offer.windowKey = refused.offer.windowKey :=
    beq_iff_eq.mp (Bool.and_eq_true_iff.mp hkind).2
  exact ⟨earlier, hmem, Offer.parts_of_windowKey (hplain _ (by simp [hsplit, hmem]))
    (hplain _ (by simp [hsplit])) hkey, hallowed, hlt⟩

theorem Sound.covered (h : gates.Sound)
    (hplain : ∀ admission ∈ gates.admissions, admission.offer.Plain) :
    CandidatesCovered gates.admissions := by
  intro before refused after hsplit hrefused
  have hmore : seconds 10 + seconds 10 = seconds 20 := rfl
  by_cases hanswered : refused.offer.reply = .answered
  · have hgranted : refused.granted = false :=
      h.answered refused (by simp [hsplit]) hanswered ▸ hrefused
    obtain ⟨granted, hmem, hkind, hgranted, hlt⟩ :=
      (h.redisGate refused.offer.redisKey).covered hsplit
        (by simp [Admission.atRedis, RedisReply.reached, hanswered]) hgranted
    change refused.now < granted.now + seconds 10 at hlt
    have hkey : granted.offer.redisKey = refused.offer.redisKey :=
      beq_iff_eq.mp (Bool.and_eq_true_iff.mp hkind).2
    have hparts := Offer.parts_of_redisKey (hplain granted (by simp [hsplit, hmem]))
      (hplain refused (by simp [hsplit])) hkey
    cases hallowed : granted.allowed with
    | true => exact ⟨granted, hmem, hparts, hallowed, by omega, fun _ => hlt⟩
    | false =>
      -- the answer was lost, and the server held the candidate back by itself
      have hlost : granted.offer.reply ≠ .answered := fun h' => by
        rw [h.answered granted (by simp [hsplit, hmem]) h', hgranted] at hallowed
        cases hallowed
      obtain ⟨older, newer, rfl⟩ := List.append_of_mem hmem
      rw [List.append_assoc, List.cons_append] at hsplit
      obtain ⟨earlier, hearlier, hsame, hwent, hlt'⟩ :=
        h.covered_window hplain hsplit hlost hallowed
      refine ⟨earlier, List.mem_append_left _ hearlier, hsame.trans hparts, hwent, by omega, ?_⟩
      intro hheard
      refine absurd ?_ (hheard granted hmem)
      have hreached : granted.offer.reply.reached = true := (Bool.and_eq_true_iff.mp hkind).1
      cases hreply : granted.offer.reply with
      | unheard => rfl
      | answered => exact absurd hreply hlost
      | _ =>
        rw [hreply] at hreached
        cases hreached
  · obtain ⟨earlier, hmem, hparts, hallowed, hlt⟩ :=
      h.covered_window hplain hsplit hanswered hrefused
    exact ⟨earlier, hmem, hparts, hallowed, by omega, fun _ => hlt⟩

section Samples

def sampleOffer (now : Nat) (reply : RedisReply) : Offer where
  server := 0
  now := seconds now
  reply
  networkId := "net-1"
  nodeId := "node-1"
  candidate := { PeerCandidate.zero with
    peerNodeId := "node-2"
    candidateType := "host"
    endpoint := "192.0.2.1:41641" }

/-- Redis is out of reach, then its answer is lost, then it answers. -/
def sampleOffers : List Offer :=
  [sampleOffer 1 .unreached, sampleOffer 9 .unheard, sampleOffer 18 .answered]

theorem reachable_sampleOffers : Reachable (rel step) start (execD step start sampleOffers) :=
  .of_exec .start (exec_eq_execD (by decide))

end Samples

end CandidateGates

end Slan.Control
