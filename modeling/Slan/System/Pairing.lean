import Slan.Client.RelayClient
import Slan.Relay.Invariant
import Slan.System.Wire
import Slan.System.TicketSignature

/-! # Two nodes that meet at a relay: the control plane, the clients and the daemon together -/

namespace Slan.System

open Transition

/-! ## From a ticket to an attach -/

/-- `omitempty` leaves an empty string out of the control plane's answer. -/
def omitEmpty (value : String) : Option String := if value = "" then none else some value

/-- The issued ticket as the client has it. -/
def obtained (t : Control.RelayTicket) : Client.RelayTicket where
  ticketId := t.ticketId
  networkId := t.networkId
  sessionId := t.sessionId
  srcNodeId := t.srcNodeId
  dstNodeId := t.dstNodeId
  derpClusterId := omitEmpty t.derpClusterId
  countryCode := omitEmpty t.countryCode
  cityCode := omitEmpty t.cityCode
  allowedDerpNodeIds := t.allowedDerpNodeIds
  relayUrl := t.relayUrl
  expiresAt := t.expiresAt
  sessionKey := omitEmpty t.sessionKey
  signature := t.signature

/-- How the daemon reads a client's request: as both sides are written, or with the ticket's
fields under the names that the client gives them. -/
inductive Reading where
  | asWritten
  | byClientNames
  deriving DecidableEq, Repr

/-- The ticket a daemon would have if the field names agreed. -/
def wireTicket (t : Client.RelayTicket) : Relay.RelayTicketWire where
  ticketId := t.ticketId
  networkId := t.networkId
  sessionId := t.sessionId
  srcNodeId := t.srcNodeId
  dstNodeId := t.dstNodeId
  derpClusterId := t.derpClusterId
  countryCode := t.countryCode
  cityCode := t.cityCode
  allowedDerpNodeIds := t.allowedDerpNodeIds
  relayUrl := t.relayUrl
  expiresAt := t.expiresAt
  sessionKey := t.sessionKey.getD ""
  signature := t.signature

def Reading.read (reading : Reading) (request : Client.RelayDaemonRequest) :
    Except Json.DecodeError Relay.ClientRequest :=
  match reading, request with
  | .byClientNames, .attach participantId ticket => .ok (.attach participantId (wireTicket ticket))
  | _, request => Relay.ClientRequest.decode request.encode

/-- What `connect` returned for a ticket. -/
structure Attempt where
  ticket : Client.RelayTicket
  result : Except Client.RelayClientError Client.RelayClientState
  deriving DecidableEq

/-- The texts and the functions that the clients and the daemon take from elsewhere. -/
structure Surroundings where
  mac : Mac
  config : Control.RelayConfig
  texts : Client.Texts
  crates : Relay.Crates

/-- One `connect`, and the daemon after it. A daemon that cannot read a datagram ends. -/
def connect (env : Surroundings) (reading : Reading) (now : Int) (source : Relay.SocketAddr)
    (daemon : Option Relay.RelayRun) (ticket : Client.RelayTicket) :
    Except Client.RelayClientError Client.RelayClientState × Option Relay.RelayRun :=
  match Client.SocketRelayClient.attachRequest ticket with
  | .error err => (.error err, daemon)
  | .ok request =>
    match daemon, reading.read request with
    | some run, .ok request =>
      let answer := (run.runtime.handleRequest env.crates now source request).1
      (Client.SocketRelayClient.connected env.texts ticket
          ((Relay.RelayRuntime.responses source answer).head?.map fun r => r.2.encode),
        some (run.receive env.crates ⟨now, source, request⟩))
    | _, _ => (Client.SocketRelayClient.connected env.texts ticket none, none)

/-! ## The whole system -/

structure Meeting where
  cache : Control.RelayTicketCache
  issued : List Control.RelayTicket
  daemon : Option Relay.RelayRun
  attempts : List Attempt

inductive MeetingAction where
  | issue (call : TicketCall)
  | prune (now : Int)
  | connect (ticket : Control.RelayTicket) (now : Int) (source : Relay.SocketAddr)
  | request (r : Relay.Received)

namespace Meeting

def start (relayUrlPrefix ticketSigningSecret : Option String) : Meeting :=
  ⟨∅, [], some (.new relayUrlPrefix ticketSigningSecret), []⟩

/-- The digits that a call draws have not been drawn for a session before. -/
def Fresh (s : Meeting) (call : TicketCall) : Prop :=
  ∀ t ∈ s.issued, t.sessionId ≠ Control.newId "session" call.fresh.session

instance (s : Meeting) (call : TicketCall) : Decidable (s.Fresh call) := by
  unfold Fresh
  infer_instance

/-- Requests of other kinds come from anywhere with any content. -/
def step (env : Surroundings) (reading : Reading) (s : Meeting) : MeetingAction → Option Meeting
  | .issue call =>
    if s.Fresh call then
      let answer := call.run env.mac env.config s.cache
      some { s with cache := answer.2, issued := answer.1.toOption.toList ++ s.issued }
    else none
  | .prune now => some { s with cache := Control.pruneExpiredRelayTickets s.cache now }
  | .connect ticket now source =>
    if ticket ∈ s.issued then
      let answer := System.connect env reading now source s.daemon (obtained ticket)
      some { s with daemon := answer.2, attempts := ⟨obtained ticket, answer.1⟩ :: s.attempts }
    else none
  | .request r =>
    match r.request with
    | .attach _ _ => none
    | _ => some { s with daemon := s.daemon.map fun run => run.receive env.crates r }

end Meeting

/-- Both are attached, to one session, and each is told of another peer. -/
def Paired (a b : Attempt) : Prop :=
  ∃ stateA stateB, a.result = .ok stateA ∧ b.result = .ok stateB ∧
    stateA.sessionId = stateB.sessionId ∧ stateA.peerParticipantId ≠ stateB.peerParticipantId

/-- The tickets are for one pair of different nodes, one for each direction. -/
def Opposite (a b : Attempt) : Prop :=
  a.ticket.networkId = b.ticket.networkId ∧ a.ticket.srcNodeId = b.ticket.dstNodeId ∧
    a.ticket.dstNodeId = b.ticket.srcNodeId ∧ a.ticket.srcNodeId ≠ a.ticket.dstNodeId

/-! ## One attach -/

theorem attachRequest_cases (ticket : Client.RelayTicket) :
    (∃ err, Client.SocketRelayClient.attachRequest ticket = .error err) ∨
      Client.SocketRelayClient.attachRequest ticket = .ok (.attach ticket.srcNodeId ticket) := by
  unfold Client.SocketRelayClient.attachRequest
  split
  · exact .inl ⟨_, rfl⟩
  · split
    · exact .inl ⟨_, rfl⟩
    · exact .inr rfl
    · exact .inl ⟨_, rfl⟩

/-- A client that attaches has its ticket's session, and the ticket's destination as its peer. -/
theorem connected_of_attach (env : Surroundings) (rt : Relay.RelayRuntime) (now : Int)
    (source : Relay.SocketAddr) (ticket : Client.RelayTicket) {state : Client.RelayClientState}
    (h : Client.SocketRelayClient.connected env.texts ticket
      ((Relay.RelayRuntime.responses source (rt.handleRequest env.crates now source
        (.attach ticket.srcNodeId (wireTicket ticket))).1).head?.map fun r => r.2.encode) =
      .ok state) :
    state.sessionId = some ticket.sessionId ∧ state.peerParticipantId = some ticket.dstNodeId := by
  rw [Relay.RelayRuntime.handleRequest] at h
  rcases rt.handleAttach_cases env.crates now source ticket.srcNodeId (wireTicket ticket) with
    ⟨_, hattach⟩ | ⟨_, err, hattach⟩
  · rw [hattach] at h
    have hanswer : ((rt.opened (Relay.toRelayTicket (wireTicket ticket))).attached source
        ticket.srcNodeId (Relay.toRelayTicket (wireTicket ticket))).1 =
        .ok (.attached ⟨ticket.sessionId, ticket.dstNodeId⟩, none) := by
      simp [Relay.RelayRuntime.attached, Relay.toRelayTicket, wireTicket]
    rw [hanswer] at h
    obtain rfl := Except.ok.inj h
    exact ⟨rfl, rfl⟩
  · rw [hattach] at h
    cases h

theorem connect_cases (env : Surroundings) (reading : Reading) (now : Int)
    (source : Relay.SocketAddr) (daemon : Option Relay.RelayRun) (ticket : Client.RelayTicket) :
    ((∃ err, (connect env reading now source daemon ticket).1 = .error err) ∧
      ((connect env reading now source daemon ticket).2 = daemon ∨
        (connect env reading now source daemon ticket).2 = none)) ∨
    ∃ run, reading = .byClientNames ∧ daemon = some run ∧
      connect env reading now source daemon ticket =
        (Client.SocketRelayClient.connected env.texts ticket
          ((Relay.RelayRuntime.responses source (run.runtime.handleRequest env.crates now source
            (.attach ticket.srcNodeId (wireTicket ticket))).1).head?.map fun r => r.2.encode),
          some (run.receive env.crates
            ⟨now, source, .attach ticket.srcNodeId (wireTicket ticket)⟩)) := by
  unfold connect
  rcases attachRequest_cases ticket with ⟨err, hrequest⟩ | hrequest
  · rw [hrequest]
    exact .inl ⟨⟨err, rfl⟩, .inl rfl⟩
  · rw [hrequest]
    cases daemon with
    | none => exact .inl ⟨⟨_, rfl⟩, .inr rfl⟩
    | some run =>
      cases reading with
      | asWritten =>
        have hread : Reading.asWritten.read (.attach ticket.srcNodeId ticket) =
            .error (.missingField "ticket_id") := decode_attach ticket.srcNodeId ticket
        dsimp only
        rw [hread]
        exact .inl ⟨⟨_, rfl⟩, .inr rfl⟩
      | byClientNames => exact .inr ⟨run, rfl, rfl, rfl⟩

/-! ## Every run -/

/-- Tickets of one session are one ticket, and the daemon sees no other attaches than those of
the tickets' sources. -/
structure Meeting.Kept (env : Surroundings) (reading : Reading) (s : Meeting) : Prop where
  cached : AllCached (· ∈ s.issued) s.cache
  distinct : ∀ t ∈ s.issued, ∀ u ∈ s.issued, t.sessionId = u.sessionId → t = u
  attempts : ∀ a ∈ s.attempts, ∃ t ∈ s.issued, a.ticket = obtained t ∧
    ∀ state, a.result = .ok state → reading = .byClientNames ∧
      state.sessionId = some t.sessionId ∧ state.peerParticipantId = some t.dstNodeId
  wellBound : ∀ run, s.daemon = some run → Relay.WellBound env.crates run
  attaches : ∀ run, s.daemon = some run → ∀ r ∈ run.received, ∀ p ticket,
    r.request = .attach p ticket → ∃ t ∈ s.issued, p = t.srcNodeId ∧
      ticket = wireTicket (obtained t)

section Runs

variable {env : Surroundings} {reading : Reading} {s : Meeting}

theorem Meeting.kept_start (relayUrlPrefix ticketSigningSecret : Option String) :
    (Meeting.start relayUrlPrefix ticketSigningSecret).Kept env reading := by
  refine ⟨?_, ?_, ?_, ?_, ?_⟩
  · intro key cached hcached
    rw [show (Meeting.start relayUrlPrefix ticketSigningSecret).cache = ∅ from rfl,
      Table.get?_empty] at hcached
    cases hcached
  · intro t ht
    cases ht
  · intro a ha
    cases ha
  · intro run hrun
    rw [← Option.some.inj hrun]
    exact Relay.WellBound.new env.crates relayUrlPrefix ticketSigningSecret
  · intro run hrun r hr
    rw [← Option.some.inj hrun] at hr
    cases hr

theorem Meeting.Kept.issue (h : s.Kept env reading) {call : TicketCall} (hfresh : s.Fresh call) :
    Meeting.Kept env reading { s with
      cache := (call.run env.mac env.config s.cache).2
      issued := (call.run env.mac env.config s.cache).1.toOption.toList ++ s.issued } := by
  have hmono : ∀ issued, s.issued ⊆ issued →
      (∀ t ∈ issued, ∀ u ∈ issued, t.sessionId = u.sessionId → t = u) →
      ∀ cache, AllCached (· ∈ issued) cache →
      Meeting.Kept env reading { s with cache, issued } := by
    intro issued hsub hdistinct cache hcached
    refine ⟨hcached, hdistinct, fun a ha => ?_, h.wellBound, fun run hrun r hr p ticket hreq => ?_⟩
    · obtain ⟨t, ht, hrest⟩ := h.attempts a ha
      exact ⟨t, hsub ht, hrest⟩
    · obtain ⟨t, ht, hrest⟩ := h.attaches run hrun r hr p ticket hreq
      exact ⟨t, hsub ht, hrest⟩
  rcases call.run_cases env.mac env.config s.cache with ⟨err, hrun⟩ |
    ⟨ticket, cache', hrun, hticket⟩
  · rw [hrun]
    exact hmono s.issued (List.Subset.refl _) h.distinct s.cache h.cached
  · rw [hrun]
    have hcached : ∀ P, (∀ t ∈ s.issued, P t) → AllCached P s.cache :=
      fun P hP key cached hlookup => hP _ (h.cached key cached hlookup)
    rcases hticket with hfound | ⟨req, cluster, primaryNode, expiresAt, hbuilt, hstored⟩
    · -- the ticket was in the cache: it is one of those issued before
      obtain ⟨hmem, hcache⟩ := hfound _ h.cached
      refine hmono (ticket :: s.issued) (List.subset_cons_self _ _) ?_ cache'
        fun key cached hlookup => List.mem_cons_of_mem _ (hcache key cached hlookup)
      intro t ht u hu
      exact h.distinct t (List.mem_cons.mp ht |>.elim (fun he => he ▸ hmem) id) u
        (List.mem_cons.mp hu |>.elim (fun he => he ▸ hmem) id)
    · -- the ticket is new, and so is its session
      have hsession : ticket.sessionId = Control.newId "session" call.fresh.session := by
        rw [hbuilt]
        rfl
      refine hmono (ticket :: s.issued) (List.subset_cons_self _ _) ?_ cache'
        (hstored _ (hcached _ fun t ht => List.mem_cons_of_mem _ ht) List.mem_cons_self)
      intro t ht u hu heq
      rcases List.mem_cons.mp ht with htNew | htOld <;> rcases List.mem_cons.mp hu with huNew | huOld
      · exact htNew.trans huNew.symm
      · rw [htNew] at heq
        exact absurd (heq.symm.trans hsession) (hfresh u huOld)
      · rw [huNew] at heq
        exact absurd (heq.trans hsession) (hfresh t htOld)
      · exact h.distinct t htOld u huOld heq

theorem Meeting.Kept.connect (h : s.Kept env reading) {t : Control.RelayTicket} (ht : t ∈ s.issued)
    (now : Int) (source : Relay.SocketAddr) :
    Meeting.Kept env reading { s with
      daemon := (System.connect env reading now source s.daemon (obtained t)).2
      attempts := ⟨obtained t,
        (System.connect env reading now source s.daemon (obtained t)).1⟩ :: s.attempts } := by
  rcases connect_cases env reading now source s.daemon (obtained t) with ⟨⟨err, herr⟩, hdaemon⟩ |
    ⟨run, hreading, hrun, hconnect⟩
  · have hkept : ∀ run, (System.connect env reading now source s.daemon (obtained t)).2 =
        some run → s.daemon = some run := by
      intro run hrun
      rcases hdaemon with hsame | hgone
      · exact hsame ▸ hrun
      · rw [hgone] at hrun
        cases hrun
    refine ⟨h.cached, h.distinct, fun a ha => ?_, fun run hrun => h.wellBound run (hkept run hrun),
      fun run hrun => h.attaches run (hkept run hrun)⟩
    rcases List.mem_cons.mp ha with rfl | ha
    · refine ⟨t, ht, rfl, fun state hstate => ?_⟩
      rw [show _ = Except.error err from herr] at hstate
      cases hstate
    · exact h.attempts a ha
  · rw [hconnect]
    refine ⟨h.cached, h.distinct, fun a ha => ?_, fun run' hrun' => ?_,
      fun run' hrun' r hr p ticket hreq => ?_⟩
    · rcases List.mem_cons.mp ha with rfl | ha
      · exact ⟨t, ht, rfl, fun state hstate =>
          ⟨hreading, connected_of_attach env run.runtime now source (obtained t) hstate⟩⟩
      · exact h.attempts a ha
    · rw [← Option.some.inj hrun']
      exact (h.wellBound run hrun).receive _
    · rw [← Option.some.inj hrun'] at hr
      rcases List.mem_cons.mp hr with rfl | hr
      · obtain ⟨rfl, rfl⟩ := Relay.ClientRequest.attach.inj hreq
        exact ⟨t, ht, rfl, rfl⟩
      · exact h.attaches run hrun r hr p ticket hreq

theorem Meeting.Kept.request (h : s.Kept env reading) {r : Relay.Received}
    (hr : ∀ p ticket, r.request ≠ .attach p ticket) :
    Meeting.Kept env reading
      { s with daemon := s.daemon.map fun run => run.receive env.crates r } := by
  refine ⟨h.cached, h.distinct, h.attempts, fun run hrun => ?_,
    fun run hrun r' hr' p ticket hreq => ?_⟩
  · obtain ⟨before, hbefore, rfl⟩ := Option.map_eq_some_iff.mp hrun
    exact (h.wellBound before hbefore).receive r
  · obtain ⟨before, hbefore, rfl⟩ := Option.map_eq_some_iff.mp hrun
    rcases List.mem_cons.mp hr' with rfl | hr'
    · exact absurd hreq (hr p ticket)
    · exact h.attaches before hbefore r' hr' p ticket hreq

theorem Meeting.Kept.step {t : Meeting} {action : MeetingAction} (h : s.Kept env reading)
    (hstep : s.step env reading action = some t) : t.Kept env reading := by
  cases action with
  | issue call =>
    rw [Meeting.step] at hstep
    split at hstep
    · rename_i hfresh
      obtain rfl := Option.some.inj hstep
      exact h.issue hfresh
    · cases hstep
  | prune now =>
    obtain rfl := Option.some.inj hstep
    exact ⟨h.cached.prune now, h.distinct, h.attempts, h.wellBound, h.attaches⟩
  | connect ticket now source =>
    rw [Meeting.step] at hstep
    split at hstep
    · rename_i hticket
      obtain rfl := Option.some.inj hstep
      exact h.connect hticket now source
    · cases hstep
  | request r =>
    rw [Meeting.step] at hstep
    split at hstep
    · cases hstep
    · rename_i hattach
      obtain rfl := Option.some.inj hstep
      exact h.request hattach

theorem Meeting.kept_of_reachable {relayUrlPrefix ticketSigningSecret : Option String}
    (h : Reachable (rel (Meeting.step env reading))
      (.start relayUrlPrefix ticketSigningSecret) s) : s.Kept env reading :=
  h.invariant _ (Meeting.kept_start relayUrlPrefix ticketSigningSecret)
    fun _ _ _ hkept hstep => hkept.step hstep

/-- A forward that the daemon passes on goes back to its sender: nobody else is ever bound to the
session. -/
theorem Meeting.Kept.forward_own (h : s.Kept env reading) {run : Relay.RelayRun}
    (hrun : s.daemon = some run) {source : Relay.SocketAddr} {sessionId p payloadB64 : String}
    {reply : Relay.Reply}
    (hreply : run.runtime.handleForward env.crates source sessionId p payloadB64 = .ok reply) :
    ∃ payload, reply = Relay.RelayRuntime.forwardReply sessionId p p source payload := by
  obtain ⟨session, peer, peerAddr, payload, hd, rfl⟩ :=
    Relay.RelayRuntime.handleForward_eq_ok.mp hreply
  have hbound : ∀ q addr, run.runtime.endpoint sessionId q = some addr →
      ∃ t ∈ s.issued, q = t.srcNodeId ∧ t.sessionId = sessionId := by
    intro q addr hq
    obtain ⟨r, hr, ticket, hreq, _, hsession, _⟩ :=
      (h.wellBound run hrun).validated sessionId q addr hq
    obtain ⟨t, ht, hsrc, rfl⟩ := h.attaches run hrun r hr q ticket hreq
    exact ⟨t, ht, hsrc, hsession⟩
  obtain ⟨t, ht, hp, hsession⟩ := hbound p source hd.bound
  obtain ⟨u, hu, hpeer, hsession'⟩ := hbound peer peerAddr hd.peerBound
  obtain rfl := h.distinct t ht u hu (hsession.trans hsession'.symm)
  obtain rfl : peer = p := hpeer.trans hp.symm
  obtain rfl : source = peerAddr := Option.some.inj (hd.bound.symm.trans hd.peerBound)
  exact ⟨payload, rfl⟩

/-- No two nodes are ever paired, and they would not be if the two sides agreed on the names of
the ticket's fields: the ticket of either node is its own and opens a session of its own. -/
theorem not_paired (env : Surroundings) (reading : Reading)
    (relayUrlPrefix ticketSigningSecret : Option String) (s : Meeting)
    (h : Reachable (rel (Meeting.step env reading))
      (.start relayUrlPrefix ticketSigningSecret) s)
    (a b : Attempt) (ha : a ∈ s.attempts) (hb : b ∈ s.attempts) : ¬Paired a b := by
  intro ⟨stateA, stateB, hstateA, hstateB, hsession, hpeer⟩
  have hkept := Meeting.kept_of_reachable h
  obtain ⟨t, ht, _, hattachedA⟩ := hkept.attempts a ha
  obtain ⟨u, hu, _, hattachedB⟩ := hkept.attempts b hb
  obtain ⟨_, hsessionA, hpeerA⟩ := hattachedA stateA hstateA
  obtain ⟨_, hsessionB, hpeerB⟩ := hattachedB stateB hstateB
  have hsame : t = u := by
    apply hkept.distinct t ht u hu
    exact Option.some.inj (hsessionA.symm.trans (hsession.trans hsessionB))
  apply hpeer
  rw [hpeerA, hpeerB, hsame]

end Runs

section Samples

def sampleSurroundings : Surroundings where
  mac _ _ := List.replicate 32 0
  config := sampleConfig
  texts := ⟨fun _ => "", fun _ => "", fun _ => ""⟩
  crates := Relay.sampleCrates

/-- The ticket for one direction of the pair. -/
def directedTicket (ticketId sessionId src dst sessionKey : String) : Control.RelayTicket where
  ticketId := ticketId
  networkId := "net-1"
  sessionId := sessionId
  srcNodeId := src
  dstNodeId := dst
  derpClusterId := "cn-east"
  countryCode := "CN"
  cityCode := "sh"
  allowedDerpNodeIds := ["relay-1"]
  relayUrl := "udp://127.0.0.1:9000"
  expiresAt := "1970-01-01T00:10:00Z"
  sessionKey := sessionKey
  signature := "AAAAAAAAAAAAAAAAAAAAAAAAAAAAAAAAAAAAAAAAAAA"

def ticketOfA : Control.RelayTicket :=
  directedTicket "ticket-000000000001" "session-000000000002" "node-a" "node-b"
    "cmVsYXktc2Vzc2lvbjp0aWNrZXQtMDAwMDAwMDAwMDAxOm5vZGUtYTpub2RlLWI6NjAwOnRvay0wMDAwMDAwMDAwMDM"

def ticketOfB : Control.RelayTicket :=
  directedTicket "ticket-000000000004" "session-000000000005" "node-b" "node-a"
    "cmVsYXktc2Vzc2lvbjp0aWNrZXQtMDAwMDAwMDAwMDA0Om5vZGUtYjpub2RlLWE6NjAwOnRvay0wMDAwMDAwMDAwMDY"

/-- Each node asks for its ticket and attaches with it. -/
def meetingRun (reading : Reading) : Option Meeting :=
  exec (Meeting.step sampleSurroundings reading) (.start (some "udp://") none)
    [.issue (sampleCall "node-a" "node-b"),
      .issue { sampleCall "node-b" "node-a" with
        fresh := ⟨"000000000004", "000000000005", "000000000006"⟩ },
      .connect ticketOfA 0 Relay.addrA, .connect ticketOfB 1 Relay.addrB]

theorem meetingRun_attempts {reading : Reading} {attempts : List Attempt}
    (h : (meetingRun reading).map Meeting.attempts = some attempts) :
    ∃ s, Reachable (rel (Meeting.step sampleSurroundings reading)) (.start (some "udp://") none) s ∧
      s.attempts = attempts := by
  obtain ⟨s, hs, hattempts⟩ := Option.map_eq_some_iff.mp h
  exact ⟨s, .of_exec .start hs, hattempts⟩

def attached (sessionId src dst : String) :
    Except Client.RelayClientError Client.RelayClientState :=
  .ok ⟨some "udp://127.0.0.1:9000", some sessionId, some src, some dst, true⟩

def timedOut : Except Client.RelayClientError Client.RelayClientState :=
  .error ⟨none, "timed out waiting for relay attach response"⟩

-- the tickets of the two runs are the same and are evaluated once
theorem meetingRun_evaluated :
    (meetingRun .byClientNames).map Meeting.attempts = some
        [⟨obtained ticketOfB, attached "session-000000000005" "node-b" "node-a"⟩,
          ⟨obtained ticketOfA, attached "session-000000000002" "node-a" "node-b"⟩] ∧
      (meetingRun .asWritten).map Meeting.attempts =
        some [⟨obtained ticketOfB, timedOut⟩, ⟨obtained ticketOfA, timedOut⟩] := by
  decide +kernel

end Samples

/-- With the names agreed on, both nodes do attach, each to its own session. -/
theorem not_paired_attached :
    ¬Paired ⟨obtained ticketOfA, attached "session-000000000002" "node-a" "node-b"⟩
      ⟨obtained ticketOfB, attached "session-000000000005" "node-b" "node-a"⟩ := by
  obtain ⟨s, hs, hattempts⟩ := meetingRun_attempts meetingRun_evaluated.1
  exact not_paired sampleSurroundings .byClientNames (some "udp://") none s hs _ _
    (by rw [hattempts]; exact .tail _ (.head _)) (by rw [hattempts]; exact .head _)

/-- As written, neither node gets an answer to its attach. -/
theorem opposite_not_paired : ¬∀ env relayUrlPrefix ticketSigningSecret s,
    Reachable (rel (Meeting.step env .asWritten)) (.start relayUrlPrefix ticketSigningSecret) s →
      ∀ a ∈ s.attempts, ∀ b ∈ s.attempts, Opposite a b → Paired a b := by
  intro h
  obtain ⟨s, hs, hattempts⟩ := meetingRun_attempts meetingRun_evaluated.2
  have hpaired := h sampleSurroundings (some "udp://") none s hs ⟨obtained ticketOfA, timedOut⟩
    (by rw [hattempts]; exact .tail _ (.head _)) ⟨obtained ticketOfB, timedOut⟩
    (by rw [hattempts]; exact .head _) ⟨rfl, rfl, rfl, by decide⟩
  obtain ⟨_, _, hstate, _⟩ := hpaired
  cases hstate

end Slan.System
