import Slan.System.TicketSignature

/-! # What a reused ticket grants -/

namespace Slan.System

open Transition
open Control (second)

/-- What a ticket is for. -/
structure Grant where
  networkId : String
  srcNodeId : String
  dstNodeId : String
  derpClusterId : String
  allowedDerpNodeIds : List String
  deriving DecidableEq, Repr

def Grant.ofTicket (ticket : Control.RelayTicket) : Grant :=
  ⟨ticket.networkId, ticket.srcNodeId, ticket.dstNodeId, ticket.derpClusterId,
    ticket.allowedDerpNodeIds⟩

namespace TicketCall

variable (cfg : Control.RelayConfig) (call : TicketCall)

def cluster : Control.RelayClusterView :=
  Control.relayClusterForRequest cfg call.health call.request.derpClusterId

def resolved : Control.RelayTicketRequest :=
  Control.normalizeRelayTicketRequest call.request (call.cluster cfg)

def key : String := Control.relayTicketCacheKey (call.resolved cfg)

/-- What a fresh ticket is for. -/
def grant : Grant :=
  ⟨call.request.networkId, call.request.srcNodeId, call.request.dstNodeId,
    (call.cluster cfg).clusterId, (call.resolved cfg).preferredDerpNodeIds⟩

/-- The request passes the checks, and there is a node to relay. -/
def Admitted : Prop :=
  Control.checkRelayTicketRequest call.directory call.userId call.request = .ok () ∧
    (call.cluster cfg).nodes ≠ []

/-- A ticket signed now runs out before the year 10000. -/
def Dated : Prop :=
  let year := (Rfc3339.ofDays (((call.later + 600 * second).fdiv second).fdiv 86400)).year
  0 ≤ year ∧ year < 10000

end TicketCall

/-- A request that was granted, and the ticket returned for it. -/
structure GrantedTicket where
  call : TicketCall
  ticket : Control.RelayTicket

/-- The cache over time, with the calls that its entries were stored for. -/
structure TicketRun where
  cache : Control.RelayTicketCache
  clock : Int
  storedFor : String → Option TicketCall
  granted : List GrantedTicket

namespace TicketRun

def start (clock : Int) : TicketRun := ⟨∅, clock, fun _ => none, []⟩

/-- A ticket under the key is still to be reused. -/
def Reuses (cfg : Control.RelayConfig) (s : TicketRun) (call : TicketCall) : Prop :=
  ∃ cached, s.cache.get? (call.key cfg) = some cached ∧ call.now < cached.validUntil

instance (cfg : Control.RelayConfig) (s : TicketRun) (call : TicketCall) :
    Decidable (s.Reuses cfg call) :=
  decidable_of_iff (∃ cached ∈ s.cache.get? (call.key cfg), call.now < cached.validUntil) <| by
    simp only [Option.mem_def, Reuses]

variable (mac : Mac) (cfg : Control.RelayConfig)

def issue (s : TicketRun) (call : TicketCall) : TicketRun :=
  match call.run mac cfg s.cache with
  | (.error _, cache) => { s with cache, clock := call.later }
  | (.ok ticket, cache) =>
    { cache
      clock := call.later
      storedFor := if s.Reuses cfg call then s.storedFor else
        fun key => if key = call.key cfg then some call else s.storedFor key
      granted := ⟨call, ticket⟩ :: s.granted }

/-- Requests and prunes at nondecreasing times. -/
def step (s : TicketRun) : TicketAction → TicketRun → Prop
  | .issue call, t => s.clock ≤ call.now ∧ call.now ≤ call.later ∧ t = s.issue mac cfg call
  | .prune now, t =>
    s.clock ≤ now ∧
      t = { s with cache := Control.pruneExpiredRelayTickets s.cache now, clock := now }

end TicketRun

/-- The ticket is for what the request asks, and good for a minute after it. -/
def GrantedTicket.Sound (cfg : Control.RelayConfig) (g : GrantedTicket) : Prop :=
  Grant.ofTicket g.ticket = g.call.grant cfg ∧
    ∃ expiresAt, Rfc3339.parse g.ticket.expiresAt = some expiresAt ∧
      g.call.now + 60 * second ≤ expiresAt * second

def TicketRun.Sound (cfg : Control.RelayConfig) (s : TicketRun) : Prop :=
  ∀ g ∈ s.granted, g.Sound cfg

/-- Every ticket signed expires in a year of four digits. -/
def DatedStep (_ : TicketRun) : TicketAction → Prop
  | .issue call => call.Dated
  | .prune _ => True

/-- A request that is granted while a ticket under its key is still to be reused resolves to the
same network, nodes, cluster and relay nodes as the request that ticket was stored for. -/
def KeyAgrees (cfg : Control.RelayConfig) (s : TicketRun) : TicketAction → Prop
  | .issue call => call.Admitted cfg → s.Reuses cfg call →
    ∀ earlier, s.storedFor (call.key cfg) = some earlier → earlier.grant cfg = call.grant cfg
  | .prune _ => True

/-! ## One call -/

section

variable {mac : Mac} {cfg : Control.RelayConfig} {s t : TicketRun} {call : TicketCall}
  {ticket : Control.RelayTicket}

/-- A ticket that a call grants is the one to be reused, or a fresh one that is stored. -/
theorem TicketCall.run_eq_ok {cache cache' : Control.RelayTicketCache}
    (h : call.run mac cfg cache = (.ok ticket, cache')) :
    call.Admitted cfg ∧
    ((∃ validUntil, cache.get? (call.key cfg) = some ⟨ticket, validUntil⟩ ∧
        call.now < validUntil ∧
        ∀ key cached, cache'.get? key = some cached → cache.get? key = some cached) ∨
      (¬∃ cached, cache.get? (call.key cfg) = some cached ∧ call.now < cached.validUntil) ∧
        ∃ primaryNode cache₁,
          ticket = Control.buildRelayTicket mac cfg call.fresh (call.resolved cfg)
            (call.cluster cfg) primaryNode (call.later + 600 * second) ∧
          (∀ key cached, cache₁.get? key = some cached → cache.get? key = some cached) ∧
          cache' = Control.storeRelayTicket cache₁ call.later (call.resolved cfg) ticket) := by
  unfold TicketCall.run at h
  rcases Control.issueRelayTicket_cases mac cfg call.directory call.health cache call.fresh call.now
    call.later call.userId call.request with ⟨err, herr⟩ |
    ⟨cluster, primaryNode, rest, req, found, cache₁, ticket', hcheck, rfl, hnodes, rfl, hlookup,
      hrun⟩
  · rw [herr] at h
    cases h
  · obtain ⟨hfound, hkept⟩ := Control.relayTicketFromCache_spec hlookup
    have hadmitted : call.Admitted cfg := by
      refine ⟨hcheck, ?_⟩
      unfold TicketCall.cluster
      rw [hnodes]
      exact List.cons_ne_nil _ _
    refine ⟨hadmitted, ?_⟩
    rcases hrun with ⟨hsome, hrun⟩ | ⟨hnone, hticket, hrun⟩
    · rw [hrun] at h
      cases h
      obtain ⟨validUntil, hcached, hfresh⟩ := (hfound _).mp hsome
      exact .inl ⟨validUntil, hcached, hfresh, hkept⟩
    · rw [hrun] at h
      cases h
      refine .inr ⟨?_, primaryNode, cache₁, hticket, hkept, rfl⟩
      rintro ⟨⟨ticket'', validUntil⟩, hcached, hfresh⟩
      have hsome := (hfound ticket'').mpr ⟨validUntil, hcached, hfresh⟩
      rw [hnone] at hsome
      cases hsome

theorem TicketCall.run_eq_error {cache cache' : Control.RelayTicketCache}
    {err : Control.ServiceError} (h : call.run mac cfg cache = (.error err, cache')) :
    cache' = cache ∧ ¬call.Admitted cfg := by
  constructor
  · unfold TicketCall.run at h
    rcases Control.issueRelayTicket_cases mac cfg call.directory call.health cache call.fresh
      call.now call.later call.userId call.request with ⟨err, herr⟩ |
      ⟨_, _, _, _, _, _, _, _, _, _, _, _, ⟨_, hrun⟩ | ⟨_, _, hrun⟩⟩
    · rw [herr] at h
      cases h
      rfl
    · rw [hrun] at h
      cases h
    · rw [hrun] at h
      cases h
  · rintro ⟨hcheck, hnodes⟩
    unfold TicketCall.cluster at hnodes
    unfold TicketCall.run Control.issueRelayTicket at h
    simp only [hcheck] at h
    split at h
    · rename_i hnil
      exact hnodes hnil
    · split at h <;> cases h

theorem ofTicket_buildRelayTicket (fresh : Control.FreshIds) (req : Control.RelayTicketRequest)
    (cluster : Control.RelayClusterView) (primaryNode : Control.RelayNodeConfig)
    (expiresAt : Int) :
    Grant.ofTicket (Control.buildRelayTicket mac cfg fresh req cluster primaryNode expiresAt) =
      ⟨req.networkId, req.srcNodeId, req.dstNodeId, cluster.clusterId, req.preferredDerpNodeIds⟩ :=
  rfl

theorem grant_buildRelayTicket (primaryNode : Control.RelayNodeConfig) (expiresAt : Int) :
    Grant.ofTicket (Control.buildRelayTicket mac cfg call.fresh (call.resolved cfg)
      (call.cluster cfg) primaryNode expiresAt) = call.grant cfg := by
  rw [ofTicket_buildRelayTicket, TicketCall.grant, TicketCall.resolved,
    Control.normalizeRelayTicketRequest]

/-- A fresh ticket is good for ten minutes, to the second. -/
theorem parse_buildRelayTicket (mac : Mac) (cfg : Control.RelayConfig) (h : call.Dated)
    (primaryNode : Control.RelayNodeConfig) :
    ∃ expiresAt, Rfc3339.parse (Control.buildRelayTicket mac cfg call.fresh (call.resolved cfg)
        (call.cluster cfg) primaryNode (call.later + 600 * second)).expiresAt = some expiresAt ∧
      call.later + 599 * second ≤ expiresAt * second := by
  refine ⟨(call.later + 600 * second).fdiv second, Rfc3339.parse_format h.1 h.2, ?_⟩
  rw [Int.fdiv_eq_ediv_of_nonneg _ (by decide)]
  unfold second
  omega

/-! ## The cache -/

/-- Every entry is a ticket for what its call asks, and it is dropped a minute before it expires. -/
structure Faithful (cfg : Control.RelayConfig) (s : TicketRun) : Prop where
  entries : ∀ key cached, s.cache.get? key = some cached →
    ∃ call, s.storedFor key = some call ∧ Grant.ofTicket cached.ticket = call.grant cfg ∧
      ∃ expiresAt, Rfc3339.parse cached.ticket.expiresAt = some expiresAt ∧
        cached.validUntil + 60 * second ≤ expiresAt * second

theorem faithful_start (clock : Int) : Faithful cfg (.start clock) where
  entries key cached h := by
    rw [TicketRun.start, Table.get?_empty] at h
    cases h

theorem Faithful.sub {cache : Control.RelayTicketCache} {clock : Int}
    (h : Faithful cfg s)
    (hsub : ∀ key cached, cache.get? key = some cached → s.cache.get? key = some cached)
    (granted : List GrantedTicket) : Faithful cfg ⟨cache, clock, s.storedFor, granted⟩ where
  entries key cached hcached := h.entries key cached (hsub key cached hcached)

/-- An entry that is stored lasts until a minute before the ticket expires. -/
theorem get?_storeRelayTicket {cache : Control.RelayTicketCache} {key : String}
    {cached : Control.CachedRelayTicket} {expiresAt : Int}
    (hparse : Rfc3339.parse ticket.expiresAt = some expiresAt)
    (hlater : call.later + 599 * second ≤ expiresAt * second) :
    (Control.storeRelayTicket cache call.later (call.resolved cfg) ticket).get? key = some cached ↔
      key = call.key cfg ∧ cached = ⟨ticket, expiresAt * second - 60 * second⟩ ∨
        key ≠ call.key cfg ∧ cache.get? key = some cached := by
  have hvalid : call.later < expiresAt * second - 60 * second := by
    unfold second at hlater ⊢
    omega
  unfold Control.storeRelayTicket
  rw [hparse]
  simp only [if_pos hvalid]
  rw [Table.get?_put]
  change (if key = call.key cfg then _ else _) = _ ↔ _
  by_cases hkey : key = call.key cfg
  · simp only [hkey, if_true, true_and, ne_eq, not_true, false_and, or_false, Option.some.injEq,
      eq_comm]
  · simp only [hkey, if_false, false_and, ne_eq, not_false_eq_true, true_and, false_or]

theorem Faithful.issue (h : Faithful cfg s) (hdated : call.Dated) :
    Faithful cfg (s.issue mac cfg call) := by
  unfold TicketRun.issue
  rcases hrun : call.run mac cfg s.cache with ⟨err | ticket, cache'⟩
  · rw [(TicketCall.run_eq_error hrun).1]
    exact h.sub (fun _ _ hcached => hcached) s.granted
  · obtain ⟨-, ⟨validUntil, hcached, hfresh, hsub⟩ |
      ⟨hnone, primaryNode, cache₁, hticket, hsub, hstore⟩⟩ := TicketCall.run_eq_ok hrun
    · have hreuses : s.Reuses cfg call := ⟨_, hcached, hfresh⟩
      simp only [if_pos hreuses]
      exact h.sub hsub _
    · have hreuses : ¬s.Reuses cfg call := hnone
      simp only [if_neg hreuses]
      obtain ⟨expiresAt, hparse, hlater⟩ :=
        parse_buildRelayTicket mac cfg hdated primaryNode
      rw [← hticket] at hparse
      refine ⟨fun key cached hcached => ?_⟩
      dsimp only at hcached ⊢
      rw [hstore, get?_storeRelayTicket hparse hlater] at hcached
      rcases hcached with ⟨rfl, rfl⟩ | ⟨hkey, hcached⟩
      · refine ⟨call, if_pos rfl, ?_, expiresAt, hparse, ?_⟩
        · rw [hticket]
          exact grant_buildRelayTicket _ _
        · exact Int.le_of_eq (Int.sub_add_cancel _ _)
      · rw [if_neg hkey]
        exact h.entries key cached (hsub key cached hcached)

/-! ## Runs -/

theorem faithful_step {a : TicketAction} (h : Faithful cfg s)
    (hstep : guarded DatedStep (TicketRun.step mac cfg) s a t) : Faithful cfg t := by
  obtain ⟨hdated, hstep⟩ := hstep
  cases a with
  | issue call =>
    obtain ⟨-, -, rfl⟩ := hstep
    exact h.issue hdated
  | prune now =>
    obtain ⟨-, rfl⟩ := hstep
    exact h.sub (fun _ _ hcached => Control.get?_of_pruneExpiredRelayTickets hcached) s.granted

theorem faithful_of_reachable {clock : Int}
    (h : Reachable (guarded DatedStep (TicketRun.step mac cfg)) (.start clock) s) :
    Faithful cfg s :=
  h.invariant (Faithful cfg) (faithful_start clock) fun _ _ _ hs hstep => faithful_step hs hstep

theorem sound_cons {g : GrantedTicket} {cache : Control.RelayTicketCache} {clock : Int}
    {storedFor : String → Option TicketCall} :
    TicketRun.Sound cfg ⟨cache, clock, storedFor, g :: s.granted⟩ ↔
      g.Sound cfg ∧ s.Sound cfg :=
  List.forall_mem_cons

/-- What a call grants is sound exactly where its key agrees. -/
theorem sound_issue_iff (h : Faithful cfg s) (hdated : call.Dated)
    (hnow : call.now ≤ call.later) :
    (s.issue mac cfg call).Sound cfg ↔ s.Sound cfg ∧ KeyAgrees cfg s (.issue call) := by
  unfold TicketRun.issue
  rcases hrun : call.run mac cfg s.cache with ⟨err | ticket, cache'⟩
  · have hrefused := (TicketCall.run_eq_error hrun).2
    constructor
    · intro hsound
      exact ⟨hsound, fun hadmitted => absurd hadmitted hrefused⟩
    · intro hsound
      exact hsound.1
  -- the ticket was cached for an earlier call, or it is built for this one
  · obtain ⟨hadmitted, ⟨validUntil, hcached, hfresh, -⟩ | ⟨hnone, primaryNode, -, hticket, -⟩⟩ :=
      TicketCall.run_eq_ok hrun
    · obtain ⟨earlier, hstored, hgrant, expiresAt, hparse, hvalid⟩ := h.entries _ _ hcached
      have hreuses : s.Reuses cfg call := ⟨_, hcached, hfresh⟩
      have hagrees : KeyAgrees cfg s (.issue call) ↔ earlier.grant cfg = call.grant cfg := by
        constructor
        · intro hkey
          exact hkey hadmitted hreuses earlier hstored
        · intro hsame _ _ earlier' hstored'
          rw [hstored] at hstored'
          rw [← Option.some.inj hstored', hsame]
      have hmargin : call.now + 60 * second ≤ expiresAt * second :=
        Int.le_trans (Int.add_le_add_right (Int.le_of_lt hfresh) _) hvalid
      rw [sound_cons, and_comm, hagrees]
      refine and_congr_right fun _ => ?_
      constructor
      · intro hsound
        exact hgrant.symm.trans hsound.1
      · intro hsame
        exact ⟨hgrant.trans hsame, expiresAt, hparse, hmargin⟩
    · have hsound : GrantedTicket.Sound cfg ⟨call, ticket⟩ := by
        obtain ⟨expiresAt, hparse, hlater⟩ :=
          parse_buildRelayTicket mac cfg hdated primaryNode
        rw [← hticket] at hparse
        refine ⟨?_, expiresAt, hparse, ?_⟩
        · rw [hticket]
          exact grant_buildRelayTicket _ _
        · unfold second at hlater ⊢
          dsimp only
          omega
      rw [sound_cons]
      constructor
      · intro hboth
        exact ⟨hboth.2, fun _ hreuses => absurd hreuses hnone⟩
      · intro hboth
        exact ⟨hsound, hboth.1⟩

theorem sound_step_iff {a : TicketAction} (h : Faithful cfg s)
    (hstep : guarded DatedStep (TicketRun.step mac cfg) s a t) :
    t.Sound cfg ↔ s.Sound cfg ∧ KeyAgrees cfg s a := by
  obtain ⟨hdated, hstep⟩ := hstep
  cases a with
  | issue call =>
    obtain ⟨-, hnow, rfl⟩ := hstep
    exact sound_issue_iff h hdated hnow
  | prune now =>
    obtain ⟨-, rfl⟩ := hstep
    exact (and_iff_left trivial).symm

end

/-- Of the runs before the year 10000, those whose keys agree are the sound ones. -/
theorem reuse_sound_iff (mac : Mac) (cfg : Control.RelayConfig) (clock : Int) (s : TicketRun) :
    Reachable (guarded (KeyAgrees cfg) (guarded DatedStep (TicketRun.step mac cfg)))
        (.start clock) s ↔
      Reachable (guarded DatedStep (TicketRun.step mac cfg)) (.start clock) s ∧ s.Sound cfg := by
  constructor
  · intro hrun
    refine ⟨hrun.of_guarded, ?_⟩
    induction hrun with
    | start => exact fun g hg => nomatch hg
    | next hrun hstep ih =>
      exact (sound_step_iff (faithful_of_reachable hrun.of_guarded) hstep.2).mpr ⟨ih, hstep.1⟩
  · rintro ⟨hrun, hsound⟩
    refine hrun.guarded_of_prefix (TicketRun.Sound cfg) hsound ?_ ?_
    · intro s a t hs hstep ht
      exact ((sound_step_iff (faithful_of_reachable hs) hstep).mp ht).1
    · intro s a t hs hstep ht
      exact ((sound_step_iff (faithful_of_reachable hs.of_guarded) hstep).mp ht).2

/-! ## Two requests with one key -/

def twoNodeConfig : Control.RelayConfig where
  defaultClusterId := "cn-east"
  ticketSigningSecret := "relay-secret"
  countries := [⟨"CN", "China", [⟨"sh", "Shanghai", [⟨"cn-east", "",
    [⟨"relay-1", "udp", "127.0.0.1:9000", 1, []⟩, ⟨"relay-2", "udp", "127.0.0.1:9001", 2, []⟩]⟩]⟩]⟩]

/-- A request from `a` to `c`, for a cluster, a relay node and a reason. -/
def callFor (now : Int) (derpClusterId nodeId reason : String) : TicketCall where
  directory := withNode (withNode sampleDirectory "a") "c"
  health := fun _ => none
  fresh := ⟨"000000000001", "000000000002", "000000000003"⟩
  now := now
  later := now
  userId := "user-1"
  request := ⟨"net-1", "a", "c", derpClusterId, [nodeId], reason⟩

def firstCall : TicketCall := callFor 0 "cn-east" "relay-1" "relay-2|relay_required"

/-- An unknown cluster stands for the default one. -/
def secondCall : TicketCall := callFor second "cn-east|relay-1" "relay-2" "relay_required"

def sharedKeyRun : TicketRun :=
  ((TicketRun.start 0).issue (fun _ _ => []) twoNodeConfig firstCall).issue (fun _ _ => [])
    twoNodeConfig secondCall

theorem sharedKeyRun_not_sound : ¬ ∀ (mac : Mac) (cfg : Control.RelayConfig) (clock : Int)
    (s : TicketRun), Reachable (guarded DatedStep (TicketRun.step mac cfg)) (.start clock) s →
      s.Sound cfg := by
  intro hclaim
  have hfirst : firstCall.Dated := by
    unfold TicketCall.Dated
    decide
  have hsecond : secondCall.Dated := by
    unfold TicketCall.Dated
    decide
  have hrun : Reachable (guarded DatedStep (TicketRun.step (fun _ _ => []) twoNodeConfig))
      (.start 0) sharedKeyRun :=
    (Reachable.start.next (a := .issue firstCall) ⟨hfirst, by decide, by decide, rfl⟩).next
      (a := .issue secondCall) ⟨hsecond, by decide, by decide, rfl⟩
  have hsound := hclaim _ _ _ _ hrun
  have hgrants : sharedKeyRun.granted.map (fun g =>
      decide (Grant.ofTicket g.ticket = g.call.grant twoNodeConfig)) = [false, true] := by
    decide
  have hall : ∀ b ∈ sharedKeyRun.granted.map (fun g =>
      decide (Grant.ofTicket g.ticket = g.call.grant twoNodeConfig)), b = true := by
    rw [List.forall_mem_map]
    exact fun g hg => decide_eq_true (hsound g hg).1
  rw [hgrants] at hall
  exact absurd (hall false List.mem_cons_self) (by decide)

end Slan.System
