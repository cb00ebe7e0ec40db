import Slan.Lib.Transition
import Slan.Relay.RuntimeSpec

/-! # The relay runtime over whole runs -/

namespace Slan.Relay

open Transition

/-- A request as it reached the daemon. -/
structure Received where
  now : Int
  source : SocketAddr
  request : ClientRequest
  deriving DecidableEq, Repr

/-- The runtime, with every request it has been given. -/
structure RelayRun where
  runtime : RelayRuntime
  received : List Received

namespace RelayRun

def new (relayUrlPrefix ticketSigningSecret : Option String) : RelayRun :=
  ⟨.new relayUrlPrefix ticketSigningSecret, []⟩

def receive (crates : Crates) (s : RelayRun) (r : Received) : RelayRun :=
  ⟨(s.runtime.handleRequest crates r.now r.source r.request).2, r :: s.received⟩

def step (crates : Crates) (s : RelayRun) (r : Received) (t : RelayRun) : Prop :=
  t = s.receive crates r

end RelayRun

/-! ## Store and bindings -/

/-- The bindings and the session store fit together, and every binding has a validated ticket. -/
structure WellBound (crates : Crates) (s : RelayRun) : Prop where
  sessions : ∀ sid, (s.runtime.endpoints.get? sid).isSome ↔
    (s.runtime.relay.store.get? sid).isSome
  nonempty : ∀ sid participants, s.runtime.endpoints.get? sid = some participants →
    participants.isEmpty = false
  parties : ∀ sid p addr, s.runtime.endpoint sid p = some addr →
    ∃ session, s.runtime.relay.store.get? sid = some session ∧
      (p = session.sourceDeviceId ∨ p = session.targetDeviceId)
  validated : ∀ sid p addr, s.runtime.endpoint sid p = some addr →
    ∃ r ∈ s.received, ∃ ticket, r.request = .attach p ticket ∧ r.source = addr ∧
      ticket.sessionId = sid ∧
      s.runtime.relay.validator.validate crates.hmacSha256 r.now (toRelayTicket ticket) = .ok ()

theorem WellBound.new (crates : Crates) (relayUrlPrefix ticketSigningSecret : Option String) :
    WellBound crates (.new relayUrlPrefix ticketSigningSecret) where
  sessions _ := by simp [RelayRun.new, RelayRuntime.new]
  nonempty _ _ h := by simp [RelayRun.new, RelayRuntime.new] at h
  parties _ _ _ h := by simp [RelayRun.new, RelayRuntime.new, RelayRuntime.endpoint] at h
  validated _ _ _ h := by simp [RelayRun.new, RelayRuntime.new, RelayRuntime.endpoint] at h

/-- A request that leaves the runtime alone only lengthens the history. -/
theorem WellBound.same {crates : Crates} {s : RelayRun} (h : WellBound crates s) (r : Received) :
    WellBound crates ⟨s.runtime, r :: s.received⟩ where
  sessions := h.sessions
  nonempty := h.nonempty
  parties := h.parties
  validated sid p addr hb := by
    obtain ⟨r', hr', rest⟩ := h.validated sid p addr hb
    exact ⟨r', List.mem_cons_of_mem r hr', rest⟩

theorem WellBound.stored {crates : Crates} {s : RelayRun} (h : WellBound crates s)
    {sid p : String} {addr : SocketAddr} (hb : s.runtime.endpoint sid p = some addr) :
    ∃ session, s.runtime.relay.store.get? sid = some session := by
  obtain ⟨session, hsession, _⟩ := h.parties sid p addr hb
  exact ⟨session, hsession⟩

section Steps

variable {crates : Crates} {s : RelayRun} {r : Received}

theorem WellBound.attach {p : String} {wire : RelayTicketWire} (h : WellBound crates s)
    (hr : r.request = .attach p wire)
    (ha : s.runtime.Admits crates r.now p (toRelayTicket wire)) :
    WellBound crates ⟨(s.runtime.opened (toRelayTicket wire)).bindEndpoint wire.sessionId p r.source,
      r :: s.received⟩ := by
  have hstore := RelayRuntime.get?_store_opened ha
  have hbind := RelayRuntime.endpoint_bindEndpoint (s.runtime.opened (toRelayTicket wire))
    wire.sessionId p
  have hendpoint : ∀ sid q, (s.runtime.opened (toRelayTicket wire)).endpoint sid q =
      s.runtime.endpoint sid q := by
    intro sid q
    simp [RelayRuntime.endpoint]
  have hid : (toRelayTicket wire).sessionId = wire.sessionId := rfl
  constructor
  · intro sid
    have := h.sessions sid
    dsimp only [RelayRuntime.bindEndpoint]
    rw [Table.get?_put, hstore sid, hid]
    by_cases hsid : sid = wire.sessionId <;> simp [hsid, this]
  · intro sid participants hp
    dsimp only [RelayRuntime.bindEndpoint] at hp
    rw [Table.get?_put] at hp
    by_cases hsid : sid = wire.sessionId
    · rw [if_pos hsid] at hp
      rw [← Option.some.inj hp, Table.isEmpty_put]
    · rw [if_neg hsid, RelayRuntime.endpoints_opened] at hp
      exact h.nonempty sid participants hp
  · intro sid q addr hq
    rw [hbind, hendpoint] at hq
    dsimp only [RelayRuntime.bindEndpoint]
    rw [hstore sid, hid]
    by_cases hsid : sid = wire.sessionId
    · refine ⟨RelayRuntime.ticketSession (toRelayTicket wire), if_pos hsid, ?_⟩
      by_cases hqp : q = p
      · subst hqp
        exact ha.party
      · -- another participant of the same session: the stored session is the ticket's
        rw [if_neg (fun hc => hqp hc.2)] at hq
        obtain ⟨session, hs, hparty⟩ := h.parties sid q addr hq
        rw [hsid] at hs
        rw [← ha.fits session hs]
        exact hparty
    · rw [if_neg (fun hc => hsid hc.1)] at hq
      rw [if_neg hsid]
      exact h.parties sid q addr hq
  · intro sid q addr hq
    rw [hbind, hendpoint] at hq
    dsimp only [RelayRuntime.bindEndpoint]
    rw [RelayRuntime.validator_opened]
    -- the new binding comes with the ticket of this request, the others are older
    by_cases hnew : sid = wire.sessionId ∧ q = p
    · rw [if_pos hnew] at hq
      obtain ⟨rfl, rfl⟩ := hnew
      exact ⟨r, List.mem_cons_self, wire, hr, Option.some.inj hq, rfl, ha.valid⟩
    · rw [if_neg hnew] at hq
      obtain ⟨r', hr', rest⟩ := h.validated sid q addr hq
      exact ⟨r', List.mem_cons_of_mem r hr', rest⟩

theorem WellBound.detach {sid₀ p₀ : String} (h : WellBound crates s)
    (hb : s.runtime.endpoint sid₀ p₀ = some r.source) :
    WellBound crates ⟨s.runtime.released sid₀ p₀, r :: s.received⟩ := by
  have hendpoint := RelayRuntime.endpoint_released s.runtime sid₀ p₀
  -- a detach binds nobody anew
  have hkept : ∀ sid p addr, (s.runtime.released sid₀ p₀).endpoint sid p = some addr →
      s.runtime.endpoint sid p = some addr := by
    intro sid p addr hp
    rw [hendpoint] at hp
    by_cases hc : sid = sid₀ ∧ p = p₀
    · simp [hc] at hp
    · rwa [if_neg hc] at hp
  obtain ⟨session₀, hstored⟩ := h.stored hb
  have hsome : (s.runtime.endpoints.get? sid₀).isSome := by
    rw [h.sessions, hstored]
    rfl
  constructor
  · intro sid
    have := h.sessions sid
    simp only [RelayRuntime.released]
    split
    · simp only [Table.get?_remove]
      by_cases hsid : sid = sid₀ <;> simp [hsid, this]
    · rw [Table.get?_put]
      by_cases hsid : sid = sid₀
      · simp [hsid, hstored]
      · simp [hsid, this]
  · intro sid participants hp
    simp only [RelayRuntime.released] at hp
    by_cases hempty : ((s.runtime.participants sid₀).remove p₀).isEmpty = true
    · rw [if_pos hempty] at hp
      simp only [Table.get?_remove] at hp
      by_cases hsid : sid = sid₀
      · simp [hsid] at hp
      · rw [if_neg hsid] at hp
        exact h.nonempty sid participants hp
    · rw [if_neg hempty] at hp
      simp only [Table.get?_put] at hp
      by_cases hsid : sid = sid₀
      · rw [if_pos hsid] at hp
        rw [← Option.some.inj hp]
        exact Bool.eq_false_iff.mpr hempty
      · rw [if_neg hsid] at hp
        exact h.nonempty sid participants hp
  · intro sid p addr hp
    obtain ⟨session, hs, hparty⟩ := h.parties sid p addr (hkept sid p addr hp)
    refine ⟨session, ?_, hparty⟩
    simp only [RelayRuntime.released]
    split
    · -- the session is dropped when nobody is left, so `p` belongs to another one
      rename_i hempty
      rw [Table.get?_remove, if_neg ?_]
      · exact hs
      · rintro rfl
        rw [hendpoint] at hp
        by_cases hpp : p = p₀
        · simp [hpp] at hp
        · rw [if_neg (fun hc => hpp hc.2),
            (RelayRuntime.isEmpty_rest s.runtime sid p₀).mp hempty p hpp] at hp
          simp at hp
    · exact hs
  · intro sid p addr hp
    rw [RelayRuntime.validator_released]
    obtain ⟨r', hr', rest⟩ := h.validated sid p addr (hkept sid p addr hp)
    exact ⟨r', List.mem_cons_of_mem r hr', rest⟩

/-- One request keeps the bindings and the store together. -/
theorem WellBound.receive (h : WellBound crates s) (r : Received) :
    WellBound crates (s.receive crates r) := by
  unfold RelayRun.receive
  cases hr : r.request with
  | ping => exact h.same r
  | attach p wire =>
    rcases s.runtime.handleAttach_cases crates r.now r.source p wire with
      ⟨ha, hok⟩ | ⟨_, err, herr⟩
    · simp only [RelayRuntime.handleRequest, hok]
      exact h.attach hr ha
    · simp only [RelayRuntime.handleRequest, herr]
      exact h.same r
  | forward sid p payloadB64 => exact h.same r
  | detach sid p =>
    by_cases hb : s.runtime.endpoint sid p = some r.source
    · obtain ⟨session, hstored⟩ := h.stored hb
      simp only [RelayRuntime.handleRequest, RelayRuntime.handleDetach_of_bound hb hstored]
      exact h.detach hb
    · obtain ⟨err, herr⟩ := RelayRuntime.handleDetach_of_not_bound hb
      simp only [RelayRuntime.handleRequest, herr]
      exact h.same r

end Steps

/-- In every run the bindings and the store fit together. -/
theorem wellBound_of_reachable {crates : Crates} {relayUrlPrefix ticketSigningSecret : Option String}
    {s : RelayRun}
    (h : Reachable (RelayRun.step crates) (.new relayUrlPrefix ticketSigningSecret) s) :
    WellBound crates s := by
  refine h.invariant (WellBound crates) (WellBound.new crates _ _) fun s r t hs hstep => ?_
  rw [hstep]
  exact hs.receive r

/-! ## What clients can rely on -/

/-- The bindings fit the store, and every next request is answered accordingly. -/
structure RelayRun.Correct (crates : Crates) (s : RelayRun) : Prop where
  wellBound : WellBound crates s
  forward_bound : ∀ source sid p payloadB64 addr, s.runtime.endpoint sid p = some addr →
    s.runtime.handleForward crates source sid p payloadB64 ≠
        .error (relayRuntimeError .sessionNotFound) ∧
      s.runtime.handleForward crates source sid p payloadB64 ≠
        .error (relayRuntimeError .unauthorizedPeer)
  detach_bound : ∀ source sid p, s.runtime.endpoint sid p = some source →
    (s.runtime.handleDetach source sid p).1 = .ok (.detached sid p, none)
  error_unchanged : ∀ (r : Received) err,
    (s.runtime.handleRequest crates r.now r.source r.request).1 = .error err →
      (s.runtime.handleRequest crates r.now r.source r.request).2 = s.runtime
  forwarded : ∀ (r : Received) response addr packet,
    (s.runtime.handleRequest crates r.now r.source r.request).1 =
        .ok (response, some (addr, packet)) →
      ∃ sid p payloadB64 session q, r.request = .forward sid p payloadB64 ∧
        s.runtime.relay.store.get? sid = some session ∧
        (p = session.sourceDeviceId ∧ q = session.targetDeviceId ∨
          p = session.targetDeviceId ∧ q = session.sourceDeviceId) ∧
        s.runtime.endpoint sid q = some addr ∧ q ≠ p ∧ addr ≠ r.source

/-- The two parties of a session differ, and so do the addresses bound for them. -/
structure Apart (rt : RelayRuntime) : Prop where
  parties : ∀ sid session, rt.relay.store.get? sid = some session →
    session.sourceDeviceId ≠ session.targetDeviceId
  addresses : ∀ sid p q addr, rt.endpoint sid p = some addr → rt.endpoint sid q = some addr → p = q

/-- An attach that is accepted names two parties, and comes from an address that is not bound
for the other one. -/
def KeepsApart (crates : Crates) (s : RelayRun) (r : Received) : Prop :=
  ∀ p ticket, r.request = .attach p ticket →
    s.runtime.Admits crates r.now p (toRelayTicket ticket) →
      ticket.srcNodeId ≠ ticket.dstNodeId ∧
        ∀ q, q ≠ p → s.runtime.endpoint ticket.sessionId q ≠ some r.source

theorem Apart.attach {crates : Crates} {s : RelayRun} {r : Received} {p : String}
    {wire : RelayTicketWire} (h : Apart s.runtime) (hok : KeepsApart crates s r)
    (hr : r.request = .attach p wire)
    (ha : s.runtime.Admits crates r.now p (toRelayTicket wire)) :
    Apart ((s.runtime.opened (toRelayTicket wire)).bindEndpoint wire.sessionId p r.source) := by
  obtain ⟨hne, hfree⟩ := hok p wire hr ha
  have hendpoint : ∀ sid q, (s.runtime.opened (toRelayTicket wire)).endpoint sid q =
      s.runtime.endpoint sid q := by
    intro sid q
    simp [RelayRuntime.endpoint]
  constructor
  · intro sid session hs
    dsimp only [RelayRuntime.bindEndpoint] at hs
    rw [RelayRuntime.get?_store_opened ha] at hs
    by_cases hsid : sid = (toRelayTicket wire).sessionId
    · rw [if_pos hsid] at hs
      rw [← Option.some.inj hs]
      exact hne
    · rw [if_neg hsid] at hs
      exact h.parties sid session hs
  · intro sid q q' addr hq hq'
    rw [RelayRuntime.endpoint_bindEndpoint, hendpoint] at hq hq'
    by_cases hsid : sid = wire.sessionId
    · subst hsid
      by_cases hqp : q = p <;> by_cases hqp' : q' = p
      · rw [hqp, hqp']
      · simp only [hqp, hqp', and_self, and_false, if_true, if_false] at hq hq'
        rw [← hq] at hq'
        exact absurd hq' (hfree q' hqp')
      · simp only [hqp, hqp', and_self, and_false, if_true, if_false] at hq hq'
        rw [← hq'] at hq
        exact absurd hq (hfree q hqp)
      · rw [if_neg (fun hc => hqp hc.2)] at hq
        rw [if_neg (fun hc => hqp' hc.2)] at hq'
        exact h.addresses wire.sessionId q q' addr hq hq'
    · rw [if_neg (fun hc => hsid hc.1)] at hq hq'
      exact h.addresses sid q q' addr hq hq'

theorem Apart.released {rt : RelayRuntime} (h : Apart rt) (sid₀ p₀ : String) :
    Apart (rt.released sid₀ p₀) := by
  constructor
  · intro sid session hs
    refine h.parties sid session ?_
    simp only [RelayRuntime.released] at hs
    split at hs
    · rw [Table.get?_remove] at hs
      by_cases hsid : sid = sid₀
      · simp [hsid] at hs
      · rwa [if_neg hsid] at hs
    · exact hs
  · intro sid p q addr hp hq
    rw [RelayRuntime.endpoint_released] at hp hq
    refine h.addresses sid p q addr ?_ ?_
    · split at hp
      · cases hp
      · exact hp
    · split at hq
      · cases hq
      · exact hq

theorem Apart.receive {crates : Crates} {s : RelayRun} {r : Received} (h : Apart s.runtime)
    (hw : WellBound crates s) (hok : KeepsApart crates s r) :
    Apart (s.receive crates r).runtime := by
  unfold RelayRun.receive
  cases hr : r.request with
  | ping => exact h
  | attach p wire =>
    rcases s.runtime.handleAttach_cases crates r.now r.source p wire with
      ⟨ha, hacc⟩ | ⟨_, err, herr⟩
    · simp only [RelayRuntime.handleRequest, hacc]
      exact h.attach hok hr ha
    · simp only [RelayRuntime.handleRequest, herr]
      exact h
  | forward sid p payloadB64 => exact h
  | detach sid p =>
    by_cases hb : s.runtime.endpoint sid p = some r.source
    · obtain ⟨session, hstored⟩ := hw.stored hb
      simp only [RelayRuntime.handleRequest, RelayRuntime.handleDetach_of_bound hb hstored]
      exact h.released sid p
    · obtain ⟨err, herr⟩ := RelayRuntime.handleDetach_of_not_bound hb
      simp only [RelayRuntime.handleRequest, herr]
      exact h

section Answers

variable {crates : Crates} {s : RelayRun}

/-- The session of a bound sender is stored and names the sender, so the lookup of the peer
succeeds. -/
theorem WellBound.peerOf (h : WellBound crates s) {sid p : String} {addr : SocketAddr}
    (hb : s.runtime.endpoint sid p = some addr) :
    ∃ session peer, s.runtime.relay.store.get? sid = some session ∧
      session.peerOf p = .ok peer := by
  obtain ⟨session, hs, hparty⟩ := h.parties sid p addr hb
  by_cases hsource : p = session.sourceDeviceId
  · exact ⟨session, session.targetDeviceId, hs,
      RelaySession.peerOf_eq_ok.mpr (.inl ⟨hsource, rfl⟩)⟩
  · have htarget := hparty.resolve_left hsource
    exact ⟨session, session.sourceDeviceId, hs,
      RelaySession.peerOf_eq_ok.mpr (.inr ⟨hsource, htarget, rfl⟩)⟩

/-- The errors that a forward can end in. -/
theorem WellBound.code_of_forward (h : WellBound crates s) {source : SocketAddr}
    {sid p payloadB64 : String} {err : RelayRuntimeError}
    (herr : s.runtime.handleForward crates source sid p payloadB64 = .error err) :
    err.code ∈ ["session_not_attached", "participant_not_attached",
      "participant_address_mismatch", "invalid_payload_b64", "empty_payload",
      "peer_not_attached"] := by
  unfold RelayRuntime.handleForward at herr
  cases hparticipants : s.runtime.endpoints.get? sid with
  | none =>
    simp only [hparticipants, Except.error.injEq] at herr
    simp [← herr, RelayRuntime.sessionNotAttached]
  | some participants =>
  cases hfrom : participants.get? p with
  | none =>
    simp only [hparticipants, hfrom, Except.error.injEq] at herr
    simp [← herr, RelayRuntime.participantNotAttached]
  | some boundAddr =>
  have hb := RelayRuntime.endpoint_eq_some.mpr ⟨participants, hparticipants, hfrom⟩
  obtain ⟨session, peer, hstored, hpeerOf⟩ := h.peerOf hb
  simp only [hparticipants, hfrom, UdpRelay.forward, UdpRelay.session, hstored, hpeerOf, bind,
    Except.bind, pure, Except.pure] at herr
  split at herr
  · simp [← Except.error.inj herr, RelayRuntime.participantAddressMismatch]
  · split at herr
    · simp [← Except.error.inj herr, RelayRuntime.invalidPayloadB64]
    · split at herr
      · rename_i hforward
        split at hforward
        · obtain rfl := Except.error.inj hforward
          simp [← Except.error.inj herr, relayRuntimeError]
        · cases hforward
      · split at herr
        · simp [← Except.error.inj herr, RelayRuntime.peerNotAttached]
        · cases herr

theorem WellBound.error_unchanged (h : WellBound crates s) {r : Received} {err : RelayRuntimeError}
    (herr : (s.runtime.handleRequest crates r.now r.source r.request).1 = .error err) :
    (s.runtime.handleRequest crates r.now r.source r.request).2 = s.runtime := by
  cases hr : r.request with
  | ping => rfl
  | attach p wire =>
    rw [hr] at herr
    rcases s.runtime.handleAttach_cases crates r.now r.source p wire with
      ⟨_, hacc⟩ | ⟨_, err', herr'⟩
    · simp [RelayRuntime.handleRequest, hacc, RelayRuntime.attached] at herr
    · simp only [RelayRuntime.handleRequest, herr']
  | forward sid p payloadB64 => rfl
  | detach sid p =>
    rw [hr] at herr
    by_cases hb : s.runtime.endpoint sid p = some r.source
    · obtain ⟨session, hstored⟩ := h.stored hb
      simp [RelayRuntime.handleRequest, RelayRuntime.handleDetach_of_bound hb hstored] at herr
    · obtain ⟨err', herr'⟩ := RelayRuntime.handleDetach_of_not_bound hb
      simp only [RelayRuntime.handleRequest, herr']

/-- A packet for another address comes from a forward only. -/
theorem WellBound.forward_of_packet (h : WellBound crates s) {r : Received}
    {response packet : ServerResponse} {addr : SocketAddr}
    (hok : (s.runtime.handleRequest crates r.now r.source r.request).1 =
      .ok (response, some (addr, packet))) :
    ∃ sid p payloadB64, r.request = .forward sid p payloadB64 ∧
      s.runtime.handleForward crates r.source sid p payloadB64 =
        .ok (response, some (addr, packet)) := by
  cases hr : r.request with
  | ping => simp [hr, RelayRuntime.handleRequest] at hok
  | attach p wire =>
    rw [hr] at hok
    rcases s.runtime.handleAttach_cases crates r.now r.source p wire with
      ⟨_, hacc⟩ | ⟨_, err, herr⟩
    · simp [RelayRuntime.handleRequest, hacc, RelayRuntime.attached] at hok
    · simp [RelayRuntime.handleRequest, herr] at hok
  | forward sid p payloadB64 =>
    rw [hr] at hok
    exact ⟨sid, p, payloadB64, rfl, hok⟩
  | detach sid p =>
    rw [hr] at hok
    by_cases hb : s.runtime.endpoint sid p = some r.source
    · obtain ⟨session, hstored⟩ := h.stored hb
      simp [RelayRuntime.handleRequest, RelayRuntime.handleDetach_of_bound hb hstored] at hok
    · obtain ⟨err, herr⟩ := RelayRuntime.handleDetach_of_not_bound hb
      simp [RelayRuntime.handleRequest, herr] at hok

theorem correct_of_apart (h : WellBound crates s) (ha : Apart s.runtime) : s.Correct crates where
  wellBound := h
  forward_bound source sid p payloadB64 addr _ := by
    constructor
    · intro herr
      exact absurd (h.code_of_forward herr) (by decide)
    · intro herr
      exact absurd (h.code_of_forward herr) (by decide)
  detach_bound source sid p hb := by
    obtain ⟨session, hstored⟩ := h.stored hb
    rw [RelayRuntime.handleDetach_of_bound hb hstored]
  error_unchanged r err herr := h.error_unchanged herr
  forwarded r response addr packet hok := by
    obtain ⟨sid, p, payloadB64, hr, hf⟩ := h.forward_of_packet hok
    obtain ⟨session, peer, peerAddr, payload, hd, hreply⟩ :=
      RelayRuntime.handleForward_eq_ok.mp hf
    have haddr : addr = peerAddr := by
      simp only [RelayRuntime.forwardReply, Prod.mk.injEq, Option.some.injEq] at hreply
      exact hreply.2.1
    subst haddr
    have hother := RelaySession.peerOf_eq_ok.mp hd.peerOf
    have hne : peer ≠ p := by
      have := ha.parties sid session hd.stored
      rcases hother with ⟨rfl, rfl⟩ | ⟨_, rfl, rfl⟩
      · exact Ne.symm this
      · exact this
    refine ⟨sid, p, payloadB64, session, peer, hr, hd.stored, ?_, hd.peerBound, hne, ?_⟩
    · exact hother.imp id fun hc => hc.2
    · intro heq
      exact hne (ha.addresses sid peer p addr hd.peerBound (heq ▸ hd.bound))

end Answers

/-- As long as every accepted attach keeps the two parties of its session apart, the bindings
fit the store and no packet returns to its sender. -/
theorem correct_of_keepsApart (crates : Crates)
    (relayUrlPrefix ticketSigningSecret : Option String) (s : RelayRun)
    (h : Reachable (guarded (KeepsApart crates) (RelayRun.step crates))
      (.new relayUrlPrefix ticketSigningSecret) s) : s.Correct crates := by
  have hinv : WellBound crates s ∧ Apart s.runtime := by
    refine h.invariant (fun s => WellBound crates s ∧ Apart s.runtime) ?_ ?_
    · refine ⟨WellBound.new crates _ _, ?_, ?_⟩
      · intro sid session hs
        simp [RelayRun.new, RelayRuntime.new] at hs
      · intro sid p q addr hp
        simp [RelayRun.new, RelayRuntime.new, RelayRuntime.endpoint] at hp
    · rintro s r t ⟨hw, ha⟩ ⟨hok, hstep⟩
      rw [hstep]
      exact ⟨hw.receive r, ha.receive hw hok⟩
  exact correct_of_apart hinv.1 hinv.2

/-- A ticket for the daemon's default configuration. -/
def sampleTicket (srcNodeId dstNodeId : String) : RelayTicketWire where
  ticketId := "ticket-1"
  networkId := "net-1"
  sessionId := "session-1"
  srcNodeId := srcNodeId
  dstNodeId := dstNodeId
  derpClusterId := none
  countryCode := none
  cityCode := none
  allowedDerpNodeIds := []
  relayUrl := "udp://127.0.0.1:9000"
  expiresAt := "4102444800"
  sessionKey := "session-key-1"
  signature := "sig"

def sampleCrates : Crates := ⟨fun _ _ => [], fun _ => "Invalid padding"⟩

def addrA : SocketAddr := ⟨"127.0.0.1", 30001⟩

def addrB : SocketAddr := ⟨"127.0.0.1", 30002⟩

/-- The two ends of one session attach, each from its own address. -/
theorem correct_of_two_attaches :
    (((RelayRun.new (some "udp://") none).receive sampleCrates
      ⟨0, addrA, .attach "node-a" (sampleTicket "node-a" "node-b")⟩).receive sampleCrates
      ⟨1, addrB, .attach "node-b" (sampleTicket "node-a" "node-b")⟩).Correct sampleCrates := by
  have hfirst : KeepsApart sampleCrates (.new (some "udp://") none)
      ⟨0, addrA, .attach "node-a" (sampleTicket "node-a" "node-b")⟩ := by
    rintro p ticket ⟨⟩ _
    refine ⟨by decide, fun q _ h => ?_⟩
    simp [RelayRun.new, RelayRuntime.new, RelayRuntime.endpoint] at h
  have hsecond : KeepsApart sampleCrates ((RelayRun.new (some "udp://") none).receive sampleCrates
      ⟨0, addrA, .attach "node-a" (sampleTicket "node-a" "node-b")⟩)
      ⟨1, addrB, .attach "node-b" (sampleTicket "node-a" "node-b")⟩ := by
    rintro p ticket ⟨⟩ _
    refine ⟨by decide, fun q _ => ?_⟩
    have hrt : ((RelayRun.new (some "udp://") none).receive sampleCrates
        ⟨0, addrA, .attach "node-a" (sampleTicket "node-a" "node-b")⟩).runtime =
        ((RelayRuntime.new (some "udp://") none).opened
          (toRelayTicket (sampleTicket "node-a" "node-b"))).bindEndpoint "session-1" "node-a"
            addrA := rfl
    rw [hrt, RelayRuntime.endpoint_bindEndpoint]
    by_cases hqa : q = "node-a"
    · simp [hqa, sampleTicket, addrA, addrB]
    · simp [hqa, RelayRuntime.endpoint, RelayRuntime.new]
  exact correct_of_keepsApart sampleCrates (some "udp://") none _
    (.next (.next .start ⟨hfirst, rfl⟩) ⟨hsecond, rfl⟩)

/-- One node named as both ends gets its own packet back. -/
theorem not_correct_of_reachable : ¬∀ crates relayUrlPrefix ticketSigningSecret s,
    Reachable (RelayRun.step crates) (.new relayUrlPrefix ticketSigningSecret) s →
      s.Correct crates := by
  intro h
  let attach : Received := ⟨0, addrA, .attach "node-a" (sampleTicket "node-a" "node-a")⟩
  let forward : Received := ⟨1, addrA, .forward "session-1" "node-a" "cGluZw=="⟩
  have hcorrect := h sampleCrates (some "udp://") none
    ((RelayRun.new (some "udp://") none).receive sampleCrates attach) (.next .start rfl)
  have hback : ((((RelayRun.new (some "udp://") none).receive sampleCrates attach).runtime)
      |>.handleRequest sampleCrates forward.now forward.source forward.request).1 =
      .ok (.forwarded ⟨"session-1", "node-a", 4⟩,
        some (addrA, .packet ⟨"session-1", "node-a", "cGluZw=="⟩)) := rfl
  obtain ⟨_, _, _, _, _, _, _, _, _, _, hne⟩ := hcorrect.forwarded forward _ _ _ hback
  exact hne rfl

end Slan.Relay
