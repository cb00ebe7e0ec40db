import Slan.Relay.Invariant

/-! # Ticket expiry over runs with a clock -/

namespace Slan.Relay

open Transition

/-- A forward that succeeded, with the ticket its sender was attached under. -/
structure ForwardedAt where
  now : Int
  ticket : Option RelayTicket

/-- A run of the daemon at nondecreasing times. -/
structure DatedRun where
  run : RelayRun
  clock : Int
  /-- The ticket of each participant's last accepted attach to a session. -/
  attachedUnder : String → String → Option RelayTicket
  forwards : List ForwardedAt

namespace DatedRun

def new (relayUrlPrefix ticketSigningSecret : Option String) (clock : Int) : DatedRun :=
  ⟨.new relayUrlPrefix ticketSigningSecret, clock, fun _ _ => none, []⟩

def answer (crates : Crates) (s : DatedRun) (r : Received) : Except RelayRuntimeError Reply :=
  (s.run.runtime.handleRequest crates r.now r.source r.request).1

def noteTicket (s : DatedRun) (r : Received) (out : Except RelayRuntimeError Reply) :
    String → String → Option RelayTicket :=
  match r.request, out with
  | .attach participantId ticket, .ok _ => fun sid p =>
    if sid = ticket.sessionId ∧ p = participantId then some (toRelayTicket ticket)
    else s.attachedUnder sid p
  | _, _ => s.attachedUnder

def noteForward (s : DatedRun) (r : Received) (out : Except RelayRuntimeError Reply) :
    List ForwardedAt :=
  match r.request, out with
  | .forward sid p _, .ok _ => ⟨r.now, s.attachedUnder sid p⟩ :: s.forwards
  | _, _ => s.forwards

def receive (crates : Crates) (s : DatedRun) (r : Received) : DatedRun where
  run := s.run.receive crates r
  clock := r.now
  attachedUnder := s.noteTicket r (s.answer crates r)
  forwards := s.noteForward r (s.answer crates r)

def step (crates : Crates) (s : DatedRun) (r : Received) (t : DatedRun) : Prop :=
  s.clock ≤ r.now ∧ t = s.receive crates r

end DatedRun

/-- The forward came before the expiry of its sender's ticket. -/
def ForwardedAt.InTime (f : ForwardedAt) : Prop :=
  ∃ ticket expiresAt, f.ticket = some ticket ∧ parseTimestamp ticket.expiresAt = .ok expiresAt ∧
    f.now < expiresAt

/-- A forward sent at or after the expiry of its sender's ticket does not come from the address
bound for the sender, or its payload is no base64 or empty, or the peer is not attached. -/
def NoLateForward (s : DatedRun) (r : Received) : Prop :=
  ∀ sid p payloadB64 ticket expiresAt, r.request = .forward sid p payloadB64 →
    s.attachedUnder sid p = some ticket → parseTimestamp ticket.expiresAt = .ok expiresAt →
      expiresAt ≤ r.now →
        ¬∃ session peer peerAddr payload,
          s.run.runtime.Delivers r.source sid p payloadB64 session peer peerAddr payload

/-- Every bound participant has a ticket whose expiry the daemon has read. -/
structure Ticketed (crates : Crates) (s : DatedRun) : Prop where
  wellBound : WellBound crates s.run
  ticketed : ∀ sid p addr, s.run.runtime.endpoint sid p = some addr →
    ∃ ticket expiresAt, s.attachedUnder sid p = some ticket ∧
      parseTimestamp ticket.expiresAt = .ok expiresAt

section Steps

variable {crates : Crates} {s : DatedRun}

/-- The ticket check is made at the attach, and made against the clock. -/
theorem inTime_of_attach {rt : RelayRuntime} {now : Int} {p : String} {ticket : RelayTicket}
    (h : rt.Admits crates now p ticket) : ForwardedAt.InTime ⟨now, some ticket⟩ := by
  obtain ⟨expiresAt, hparse, hlt⟩ := StaticTicketValidator.expiry_of_validate h.valid
  exact ⟨ticket, expiresAt, rfl, hparse, hlt⟩

theorem Ticketed.receive (h : Ticketed crates s) (r : Received) :
    Ticketed crates (s.receive crates r) := by
  refine ⟨h.wellBound.receive r, ?_⟩
  intro sid p addr hb
  unfold DatedRun.receive at hb ⊢
  simp only [RelayRun.receive, DatedRun.noteTicket, DatedRun.answer] at hb ⊢
  cases hr : r.request with
  | ping =>
    rw [hr] at hb
    exact h.ticketed sid p addr hb
  | attach q wire =>
    rw [hr] at hb
    rcases s.run.runtime.handleAttach_cases crates r.now r.source q wire with
      ⟨ha, hacc⟩ | ⟨_, err, herr⟩
    · simp only [RelayRuntime.handleRequest, hacc, RelayRuntime.attached] at hb ⊢
      rw [RelayRuntime.endpoint_bindEndpoint, toRelayTicket_sessionId] at hb
      -- an attach leaves its ticket with the party that it binds, and with no other
      by_cases hnew : sid = wire.sessionId ∧ p = q
      · obtain ⟨ticket, expiresAt, hticket, hparse, _⟩ := inTime_of_attach ha
        exact ⟨ticket, expiresAt, by rw [if_pos hnew, ← hticket], hparse⟩
      · rw [if_neg hnew]
        rw [if_neg hnew] at hb
        exact h.ticketed sid p addr (by simpa [RelayRuntime.endpoint] using hb)
    · simp only [RelayRuntime.handleRequest, herr] at hb ⊢
      exact h.ticketed sid p addr hb
  | forward sid' q payloadB64 =>
    rw [hr] at hb
    exact h.ticketed sid p addr hb
  | detach sid' q =>
    rw [hr] at hb
    by_cases hq : s.run.runtime.endpoint sid' q = some r.source
    · obtain ⟨session, hstored⟩ := h.wellBound.stored hq
      simp only [RelayRuntime.handleRequest, RelayRuntime.handleDetach_of_bound hq hstored] at hb
      rw [RelayRuntime.endpoint_released] at hb
      by_cases hgone : sid = sid' ∧ p = q
      · simp [hgone] at hb
      · rw [if_neg hgone] at hb
        exact h.ticketed sid p addr hb
    · obtain ⟨err, herr⟩ := RelayRuntime.handleDetach_of_not_bound hq
      simp only [RelayRuntime.handleRequest, herr] at hb
      exact h.ticketed sid p addr hb

/-- The forwards on record after a request: one more when it was a forward that succeeded. -/
theorem mem_forwards_receive {r : Received} {f : ForwardedAt} :
    f ∈ (s.receive crates r).forwards ↔
      f ∈ s.forwards ∨ ∃ sid p payloadB64 session peer peerAddr payload,
        r.request = .forward sid p payloadB64 ∧
        s.run.runtime.Delivers r.source sid p payloadB64 session peer peerAddr payload ∧
        f = ⟨r.now, s.attachedUnder sid p⟩ := by
  simp only [DatedRun.receive, DatedRun.noteForward, DatedRun.answer]
  cases hr : r.request with
  | ping => simp
  | attach q wire => simp
  | detach sid q => simp
  | forward sid p payloadB64 =>
    simp only [RelayRuntime.handleRequest]
    cases hf : s.run.runtime.handleForward crates r.source sid p payloadB64 with
    | error err =>
      constructor
      · exact .inl
      · rintro (hold | ⟨_, _, _, session, peer, peerAddr, payload, ⟨⟩, hd, rfl⟩)
        · exact hold
        · rw [RelayRuntime.handleForward_of_delivers crates hd] at hf
          cases hf
    | ok reply =>
      obtain ⟨session, peer, peerAddr, payload, hd, _⟩ := RelayRuntime.handleForward_eq_ok.mp hf
      simp only [List.mem_cons]
      constructor
      · rintro (rfl | hold)
        · exact .inr ⟨sid, p, payloadB64, session, peer, peerAddr, payload, rfl, hd, rfl⟩
        · exact .inl hold
      · rintro (hold | ⟨_, _, _, _, _, _, _, ⟨⟩, _, rfl⟩)
        · exact .inr hold
        · exact .inl rfl

end Steps

theorem ticketed_of_reachable {crates : Crates} {relayUrlPrefix ticketSigningSecret : Option String}
    {clock : Int} {s : DatedRun}
    (h : Reachable (DatedRun.step crates) (.new relayUrlPrefix ticketSigningSecret clock) s) :
    Ticketed crates s := by
  refine h.invariant (Ticketed crates) ?_ fun s r t hs hstep => ?_
  · refine ⟨WellBound.new crates _ _, fun sid p addr hb => ?_⟩
    simp [DatedRun.new, RelayRun.new, RelayRuntime.new, RelayRuntime.endpoint] at hb
  · rw [hstep.2]
    exact hs.receive r

/-- All forwards of a run come before their sender's ticket expires exactly when no step of the
run is a late forward that the other checks let through: there is no check of its own. -/
theorem forwards_inTime_iff (crates : Crates) (relayUrlPrefix ticketSigningSecret : Option String)
    (clock : Int) (s : DatedRun)
    (h : Reachable (DatedRun.step crates) (.new relayUrlPrefix ticketSigningSecret clock) s) :
    (∀ f ∈ s.forwards, f.InTime) ↔
      Reachable (guarded NoLateForward (DatedRun.step crates))
        (.new relayUrlPrefix ticketSigningSecret clock) s := by
  constructor
  · intro hs
    refine h.guarded_of_prefix (fun s => ∀ f ∈ s.forwards, f.InTime) hs ?_ ?_
    · rintro s r t _ ⟨_, rfl⟩ ht f hf
      exact ht f (mem_forwards_receive.mpr (.inl hf))
    rintro s r t _ ⟨_, rfl⟩ ht sid p payloadB64 ticket expiresAt hr hticket hparse hle
      ⟨session, peer, peerAddr, payload, hd⟩
    obtain ⟨ticket', expiresAt', hticket', hparse', hlt⟩ := ht _ (mem_forwards_receive.mpr
      (.inr ⟨sid, p, payloadB64, session, peer, peerAddr, payload, hr, hd, rfl⟩))
    obtain rfl : ticket = ticket' := Option.some.inj (hticket.symm.trans hticket')
    obtain rfl : expiresAt = expiresAt' := Except.ok.inj (hparse.symm.trans hparse')
    dsimp only at hlt
    omega
  · intro hg
    have hinv : Ticketed crates s ∧ ∀ f ∈ s.forwards, f.InTime := by
      refine hg.invariant (fun s => Ticketed crates s ∧ ∀ f ∈ s.forwards, f.InTime) ?_ ?_
      · refine ⟨ticketed_of_reachable .start, ?_⟩
        simp [DatedRun.new]
      · rintro s r t ⟨hticketed, hforwards⟩ ⟨hok, _, rfl⟩
        refine ⟨hticketed.receive r, fun f hf => ?_⟩
        rcases mem_forwards_receive.mp hf with
          hold | ⟨sid, p, payloadB64, session, peer, peerAddr, payload, hr, hd, rfl⟩
        · exact hforwards f hold
        · obtain ⟨ticket, expiresAt, hticket, hparse⟩ :=
            hticketed.ticketed sid p r.source hd.bound
          refine ⟨ticket, expiresAt, hticket, hparse, ?_⟩
          -- the sender is bound, so only the guard keeps a late forward from going through
          by_contra hlate
          exact hok sid p payloadB64 ticket expiresAt hr hticket hparse (not_lt.mp hlate)
            ⟨session, peer, peerAddr, payload, hd⟩
    exact hinv.2

section Samples

def datedTicket : RelayTicketWire := { sampleTicket "node-a" "node-b" with expiresAt := "100" }

def attachA : Received := ⟨0, addrA, .attach "node-a" datedTicket⟩

def attachB : Received := ⟨0, addrB, .attach "node-b" datedTicket⟩

/-- Both ends attached at time 0, under a ticket that expires at time 100. -/
def attachedPair : DatedRun :=
  ((DatedRun.new (some "udp://") none 0).receive sampleCrates attachA).receive sampleCrates attachB

theorem attachedPair_reachable : Reachable (DatedRun.step sampleCrates)
    (.new (some "udp://") none 0) attachedPair :=
  .next (.next .start ⟨le_refl 0, rfl⟩) ⟨le_refl 0, rfl⟩

end Samples

/-- A forward in time leaves the run within the guard. -/
theorem forwards_inTime_of_early :
    (∀ f ∈ (attachedPair.receive sampleCrates
      ⟨99, addrA, .forward "session-1" "node-a" "cGluZw=="⟩).forwards, f.InTime) ↔
      Reachable (guarded NoLateForward (DatedRun.step sampleCrates))
        (.new (some "udp://") none 0) (attachedPair.receive sampleCrates
          ⟨99, addrA, .forward "session-1" "node-a" "cGluZw=="⟩) :=
  forwards_inTime_iff sampleCrates (some "udp://") none 0 _
    (.next attachedPair_reachable ⟨by decide, rfl⟩)

/-- The forward at time 200 succeeds although the ticket expired at time 100. -/
theorem late_forward_succeeds : ¬∀ crates relayUrlPrefix ticketSigningSecret clock s,
    Reachable (DatedRun.step crates) (.new relayUrlPrefix ticketSigningSecret clock) s →
      ∀ f ∈ s.forwards, f.InTime := by
  intro h
  have hrun : (attachedPair.receive sampleCrates
      ⟨200, addrA, .forward "session-1" "node-a" "cGluZw=="⟩).forwards =
      [⟨200, some (toRelayTicket datedTicket)⟩] := rfl
  obtain ⟨ticket, expiresAt, hticket, hparse, hlt⟩ := h sampleCrates (some "udp://") none 0
    (attachedPair.receive sampleCrates ⟨200, addrA, .forward "session-1" "node-a" "cGluZw=="⟩)
    (.next attachedPair_reachable ⟨by decide, rfl⟩) _ (hrun ▸ List.mem_cons_self)
  obtain rfl : toRelayTicket datedTicket = ticket := Option.some.inj hticket
  have hstamp : parseTimestamp (toRelayTicket datedTicket).expiresAt = .ok 100 := rfl
  obtain rfl : (100 : Int) = expiresAt := Except.ok.inj (hstamp.symm.trans hparse)
  exact absurd hlt (by decide)

end Slan.Relay
