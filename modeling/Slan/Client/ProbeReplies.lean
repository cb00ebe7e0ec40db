import Slan.Lib.Transition
import Slan.Client.ProbeRuns

/-! # Whether a reply is one

A reply of a probe is whatever its polls find first.
-/

namespace Slan.Client

open Inbox (Arrival)
open Transition

/-! ## The property, and runs that keep to it -/

/-- What arrives by that way carries a packet: by a relay not every datagram does. -/
def CarriesPayload (json : List UInt8 → Json) (way : ConnectionPath) (bytes : List UInt8) : Prop :=
  way = .relay → ∃ sessionId source payload,
    RelayDaemonResponse.decode (json bytes) = .ok (.packet sessionId source payload)

/-- A packet of the probed peer that arrived after the probe was handed over. -/
def HandOver.Answers (handOver : HandOver) (source : String) (number : Nat) : Prop :=
  handOver.arrived ≤ number ∧ some source = handOver.peerNodeId

/-- A reply is a packet that the probed peer sent by the path of the probe, after the probe; its
round trip is from the hand-over to when it was found. -/
def ProbeReport.Genuine (json : List UInt8 → Json) (report : ProbeReport) : Prop :=
  report.record.replyObserved = true →
    report.polled = some report.handOver.connection ∧
    (∃ a ∈ report.taken, CarriesPayload json report.handOver.connection.way a.bytes ∧
      report.handOver.Answers a.source a.number) ∧
    report.record.replyRttMs =
      report.record.replySampledAtMs.map fun found => found - report.handOver.nowMs

namespace ProbeStage

/-- The clock was read. -/
def Measured : ProbeStage → Prop
  | .awaitingAck _ => False
  | .handedOver => False
  | .sampled _ _ => True
  | .polling _ _ _ => True

/-- The time that the round trip is counted from, with what the clock says now. -/
def since (nowMs : Nat) : ProbeStage → Nat
  | .awaitingAck _ => nowMs
  | .handedOver => nowMs
  | .sampled sampledAtMs _ => sampledAtMs
  | .polling sampledAtMs _ _ => sampledAtMs

/-- What is left for the polls: not what is read as the answer of the relay. -/
def pending (stage : ProbeStage) (inbox : List (Arrival String)) : List (Arrival String) :=
  match stage with
  | .awaitingAck _ => inbox.drop 1
  | _ => inbox

end ProbeStage

namespace ProbeWorld

variable (json : List UInt8 → Json)

def UnderWay (w : ProbeWorld) (sent : SentProbe) : Prop :=
  ∃ id probe, w.probes id = some probe ∧ probe.sent = some sent

/-- No packet waits at the socket in use, but for the datagram that a relay's answer would be. -/
def Clear (w : ProbeWorld) : Prop :=
  ∀ connection, w.transports.inUse = some connection →
    ∀ a ∈ (if connection.way = .relay then (w.inboxes connection.socket).drop 1
      else w.inboxes connection.socket), ¬ CarriesPayload json connection.way a.bytes

/-- A probe is handed over where no packet waits. Until its clock is read no time passes; until it
is over its path stays in use, and no one but its peer is heard from on that. -/
def Proper (w : ProbeWorld) : ProbeEvent → Prop
  | .tick ms => ms = 0 ∨ ∀ sent, w.UnderWay sent → sent.stage.Measured
  | .arrive socket source bytes => ∀ sent, w.UnderWay sent →
    sent.handOver.connection.socket = socket →
      CarriesPayload json sent.handOver.connection.way bytes → some source = sent.handOver.peerNodeId
  | .switch transports => ∀ sent, w.UnderWay sent → transports.inUse = w.transports.inUse
  | .handOver _ => w.Clear json
  | _ => True

/-! ## What a probe under way can still hear -/

structure Listens (w : ProbeWorld) (sent : SentProbe) : Prop where
  inUse : w.transports.inUse = some sent.handOver.connection
  arrived : sent.handOver.arrived ≤ w.arrived
  pending : ∀ a ∈ sent.stage.pending (w.inboxes sent.handOver.connection.socket),
    CarriesPayload json sent.handOver.connection.way a.bytes →
      sent.handOver.Answers a.source a.number
  since : sent.stage.since w.nowMs = sent.handOver.nowMs
  relay : ∀ sessionId, sent.stage = .awaitingAck sessionId → sent.handOver.connection.way = .relay

/-- The invariant of the runs. -/
structure Sound (w : ProbeWorld) : Prop where
  listens : ∀ sent, w.UnderWay sent → w.Listens json sent
  genuine : ∀ report, .ok report ∈ w.results → report.Genuine json

end ProbeWorld

namespace PathTransports

variable {texts : Texts} {json : List UInt8 → Json} {t : PathTransports} {connection : Connection}
  {inbox taken : List (Arrival String)}

/-- A hand-over goes to the socket in use. Only a relay is to acknowledge it. -/
theorem handOver_eq_ok {packet : List UInt8} {sessionId : Option String}
    (h : t.handOver packet = .ok ⟨connection, sessionId⟩) :
    t.inUse = some connection ∧ (sessionId.isSome = true ↔ connection.way = .relay) := by
  unfold handOver PathManager.sendTransportPacket at h
  unfold inUse
  split at h
  · cases h
  cases hpath : t.path.activePath with
  | none =>
    rw [hpath] at h
    cases h
  | derp clusterId nodeId =>
    rw [hpath] at h
    obtain ⟨client, hclient, h⟩ := Program.bind_eq_ok.mp (Program.mapError_eq_ok.mp h)
    obtain ⟨⟨socket, _⟩, hsend, h⟩ := Program.bind_eq_ok.mp h
    cases h
    simp [hclient, Except.toOption, derpSocket_of_send hsend]
  | p2p peerNodeId =>
    rw [hpath] at h
    obtain ⟨⟨stream, _⟩, hsend, h⟩ := Program.bind_eq_ok.mp (Program.mapError_eq_ok.mp h)
    cases h
    simp [activeStream_of_send hsend]
  | relay peerNodeId =>
    rw [hpath] at h
    obtain ⟨⟨session, request⟩, hsend, h⟩ := Program.bind_eq_ok.mp (Program.mapError_eq_ok.mp h)
    cases h
    simp [activeSocket_of_forwardRequest hsend]

/-- A read keeps to what could be heard. -/
theorem forall_read {handOver : HandOver} (h : t.inUse = some connection)
    (hinbox : ∀ a ∈ inbox, CarriesPayload json connection.way a.bytes →
      handOver.Answers a.source a.number) :
    (∀ a ∈ (t.read inbox).1, CarriesPayload json connection.way a.bytes →
      handOver.Answers a.source a.number) ∧
    ∀ a ∈ (t.read inbox).2, CarriesPayload json connection.way a.bytes →
      handOver.Answers a.source a.number := by
  unfold inUse at h
  unfold read
  cases hpath : t.path.activePath with
  | none =>
    rw [hpath] at h
    cases h
  | relay peerNodeId => exact Inbox.forall_readWhole hinbox
  | derp clusterId nodeId =>
    rw [hpath] at h
    obtain ⟨socket, _, rfl⟩ := Option.map_eq_some_iff.mp h
    have hanswers : ∀ a ∈ inbox, handOver.Answers a.source a.number :=
      fun a ha => hinbox a ha nofun
    dsimp only
    split
    · exact ⟨nofun, hinbox⟩
    split
    · exact (Inbox.forall_readStream hanswers).imp (fun htaken a ha _ => htaken a ha)
        fun hleft a ha _ => hleft a ha
    · exact (Inbox.forall_readDatagram hanswers).imp (fun htaken a ha _ => htaken a ha)
        fun hleft a ha _ => hleft a ha
  | p2p peerNodeId =>
    rw [hpath] at h
    obtain ⟨stream, _, rfl⟩ := Option.map_eq_some_iff.mp h
    have hanswers : ∀ a ∈ inbox, handOver.Answers a.source a.number :=
      fun a ha => hinbox a ha nofun
    exact (Inbox.forall_readStream hanswers).imp (fun htaken a ha _ => htaken a ha)
      fun hleft a ha _ => hleft a ha

/-- What a poll finds came as a packet. -/
theorem poll_eq_some {nowMs : Nat} {packet : List UInt8} (h : t.inUse = some connection)
    (hpoll : t.poll texts json nowMs taken = .ok (some packet)) :
    ∃ a ∈ taken, CarriesPayload json connection.way a.bytes := by
  unfold poll PathManager.pollTransportPacket at hpoll
  unfold inUse at h
  cases hpath : t.path.activePath with
  | none =>
    rw [hpath] at h
    cases h
  | derp clusterId nodeId =>
    rw [hpath] at h hpoll
    obtain ⟨socket, _, rfl⟩ := Option.map_eq_some_iff.mp h
    obtain ⟨client, _, hpoll⟩ := Program.bind_eq_ok.mp (Program.mapError_eq_ok.mp hpoll)
    obtain ⟨⟨found, next⟩, hfound, hpoll⟩ := Program.bind_eq_ok.mp hpoll
    cases hpoll
    obtain ⟨_, hread⟩ := exists_read_of_poll hfound
    have hsome : ∃ a, a ∈ taken := by
      unfold derpRead at hread
      cases taken with
      | nil => split at hread <;> cases hread
      | cons a rest => exact ⟨a, List.mem_cons_self⟩
    obtain ⟨a, ha⟩ := hsome
    exact ⟨a, ha, nofun⟩
  | p2p peerNodeId =>
    rw [hpath] at h hpoll
    obtain ⟨stream, hstream, rfl⟩ := Option.map_eq_some_iff.mp h
    have hpoll := Program.mapError_eq_ok.mp hpoll
    unfold SocketP2PConnector.pollTransportPacket at hpoll
    rw [hstream] at hpoll
    have hsome : Inbox.bytesOf taken ≠ [] := by
      intro hnone
      rw [hnone] at hpoll
      cases hpoll
    obtain ⟨a, ha⟩ := Inbox.exists_mem_of_bytesOf_ne_nil hsome
    exact ⟨a, ha, nofun⟩
  | relay peerNodeId =>
    rw [hpath] at h hpoll
    have hpoll := Program.mapError_eq_ok.mp hpoll
    split at hpoll
    · cases hpoll
    obtain ⟨found, sessionId, source, payload, hfound, hdecoded⟩ := exists_packet_of_polled hpoll
    obtain ⟨a, ha, rfl⟩ := Option.map_eq_some_iff.mp hfound
    exact ⟨a, List.mem_of_head? ha, fun _ => ⟨sessionId, source, payload, hdecoded⟩⟩

/-- A read leaves to the polls no more than was there. -/
theorem pending_read {handOver : HandOver} {stage : ProbeStage} (h : t.inUse = some connection)
    (hrelay : ∀ sessionId, stage = .awaitingAck sessionId → connection.way = .relay)
    (hinbox : ∀ a ∈ stage.pending inbox, CarriesPayload json connection.way a.bytes →
      handOver.Answers a.source a.number) :
    ∀ a ∈ stage.pending (t.read inbox).2, CarriesPayload json connection.way a.bytes →
      handOver.Answers a.source a.number := by
  cases stage with
  | awaitingAck sessionId =>
    have hread : (t.read inbox).2 = inbox.drop 1 := by
      have hway := hrelay sessionId rfl
      unfold inUse at h
      unfold read
      cases hpath : t.path.activePath with
      | relay peerNodeId => rfl
      | none =>
        rw [hpath] at h
        cases h
      | derp clusterId nodeId =>
        rw [hpath] at h
        obtain ⟨_, _, rfl⟩ := Option.map_eq_some_iff.mp h
        cases hway
      | p2p peerNodeId =>
        rw [hpath] at h
        obtain ⟨_, _, rfl⟩ := Option.map_eq_some_iff.mp h
        cases hway
    intro a ha
    rw [hread] at ha
    exact hinbox a (List.mem_of_mem_drop ha)
  | handedOver => exact (forall_read h hinbox).2
  | sampled sampledAtMs probeId => exact (forall_read h hinbox).2
  | polling sampledAtMs probeId deadlineMs => exact (forall_read h hinbox).2

end PathTransports

namespace ProbeWorld

variable {texts : Texts} {json : List UInt8 → Json} {w : ProbeWorld} {sent : SentProbe} {id : Nat}

/-! ## What each event keeps -/

theorem UnderWay.of_setProbe {probe : Option RunningProbe}
    (h : (w.setProbe id probe).UnderWay sent) :
    w.UnderWay sent ∨ probe.bind RunningProbe.sent = some sent := by
  obtain ⟨id', probe', hprobe, hsent⟩ := h
  by_cases hsame : id' = id
  · subst hsame
    have hset : probe = some probe' := by
      rw [← hprobe]
      exact (Function.update_self id' probe w.probes).symm
    rw [hset]
    exact .inr hsent
  · have hkept : w.probes id' = some probe' := by
      rw [← hprobe]
      exact (Function.update_of_ne hsame probe w.probes).symm
    exact .inl ⟨id', probe', hkept, hsent⟩

theorem Sound.setProbe (h : w.Sound json) {probe : Option RunningProbe}
    (hprobe : ∀ sent, probe.bind RunningProbe.sent = some sent → w.Listens json sent) :
    (w.setProbe id probe).Sound json where
  listens sent hsent := by
    have hlistens : w.Listens json sent := hsent.of_setProbe.elim (h.listens sent) (hprobe sent)
    exact ⟨hlistens.inUse, hlistens.arrived, hlistens.pending, hlistens.since, hlistens.relay⟩
  genuine := h.genuine

theorem Sound.finish (h : w.Sound json) {result : Except DataPlaneError ProbeReport}
    (hresult : ∀ report, result = .ok report → report.Genuine json) :
    (w.finish id result).Sound json where
  listens sent hsent := by
    have hkept : (w.setProbe id none).Sound json := h.setProbe fun _ hnone => by cases hnone
    have hlistens := hkept.listens sent hsent
    exact ⟨hlistens.inUse, hlistens.arrived, hlistens.pending, hlistens.since, hlistens.relay⟩
  genuine report hreport := by
    obtain hold | hnew := List.mem_append.mp hreport
    · exact h.genuine report hold
    · exact hresult report (List.mem_singleton.mp hnew).symm

theorem Sound.failProbe (h : w.Sound json) (err : PathManagerError) :
    (w.failProbe id err).Sound json := by
  refine h.finish fun report hreport => ?_
  generalize classifyPathManagerError err = error at hreport
  cases hreport

/-- Whoever is under way listens on the socket in use. -/
theorem Sound.setInbox (h : w.Sound json) {connection : Connection} {left : List (Arrival String)}
    (hinUse : w.transports.inUse = some connection)
    (hleft : ∀ sent, w.UnderWay sent → ∀ a ∈ sent.stage.pending left,
      CarriesPayload json connection.way a.bytes → sent.handOver.Answers a.source a.number) :
    (w.setInbox connection.socket left).Sound json where
  listens sent hsent := by
    have hlistens := h.listens sent hsent
    have hsame : connection = sent.handOver.connection :=
      Option.some.inj (hinUse.symm.trans hlistens.inUse)
    refine ⟨hlistens.inUse, hlistens.arrived, ?_, hlistens.since, hlistens.relay⟩
    rw [← hsame]
    change ∀ a ∈ sent.stage.pending (Function.update w.inboxes connection.socket left
      connection.socket), _
    rw [Function.update_self]
    exact hleft sent hsent
  genuine := h.genuine

theorem Sound.polled (h : w.Sound json) : w.polled.Sound json := by
  unfold ProbeWorld.polled
  cases hinUse : w.transports.inUse with
  | none => exact h
  | some connection =>
    have hwaiting : w.waiting = w.inboxes connection.socket := by
      unfold waiting
      rw [hinUse]
    rw [hwaiting]
    refine h.setInbox hinUse fun sent hsent => ?_
    have hlistens := h.listens sent hsent
    obtain rfl := Option.some.inj (hinUse.symm.trans hlistens.inUse)
    exact PathTransports.pending_read hinUse hlistens.relay hlistens.pending

theorem Sound.tick (h : w.Sound json) {ms : Nat} (hproper : w.Proper json (.tick ms)) :
    { w with nowMs := w.nowMs + ms }.Sound json where
  listens sent hsent := by
    have hlistens := h.listens sent hsent
    refine ⟨hlistens.inUse, hlistens.arrived, hlistens.pending, ?_, hlistens.relay⟩
    rw [← hlistens.since]
    obtain rfl | hmeasured := hproper
    · rfl
    · have hstage := hmeasured sent hsent
      cases hat : sent.stage with
      | awaitingAck sessionId =>
        rw [hat] at hstage
        cases hstage
      | handedOver =>
        rw [hat] at hstage
        cases hstage
      | sampled sampledAtMs probeId => rfl
      | polling sampledAtMs probeId deadlineMs => rfl
  genuine := h.genuine

theorem Sound.arrive (h : w.Sound json) {socket : Nat} {source : String} {bytes : List UInt8}
    (hproper : w.Proper json (.arrive socket source bytes)) :
    (w.arrive socket source bytes).Sound json where
  listens sent hsent := by
    have hlistens := h.listens sent hsent
    refine ⟨hlistens.inUse, Nat.le_succ_of_le hlistens.arrived, ?_, hlistens.since,
      hlistens.relay⟩
    change ∀ a ∈ sent.stage.pending (Function.update w.inboxes socket
      (w.inboxes socket ++ [⟨source, w.arrived, bytes⟩]) sent.handOver.connection.socket), _
    by_cases hsocket : sent.handOver.connection.socket = socket
    · rw [hsocket, Function.update_self]
      intro a ha hcarries
      have hcase : a ∈ sent.stage.pending (w.inboxes socket) ∨ a = ⟨source, w.arrived, bytes⟩ := by
        unfold ProbeStage.pending at ha ⊢
        split at ha <;> grind
      obtain hold | rfl := hcase
      · rw [← hsocket] at hold
        exact hlistens.pending a hold hcarries
      · exact ⟨hlistens.arrived, hproper sent hsent hsocket hcarries⟩
    · rw [Function.update_of_ne hsocket]
      exact hlistens.pending
  genuine := h.genuine

theorem Sound.switch (h : w.Sound json) {transports : PathTransports}
    (hproper : w.Proper json (.switch transports)) : { w with transports }.Sound json where
  listens sent hsent := by
    have hlistens := h.listens sent hsent
    exact ⟨(hproper sent hsent).trans hlistens.inUse, hlistens.arrived, hlistens.pending,
      hlistens.since, hlistens.relay⟩
  genuine := h.genuine

theorem Sound.handOverProbe (h : w.Sound json) {probe : RunningProbe} (hclear : w.Clear json) :
    (w.handOverProbe id probe).Sound json := by
  unfold ProbeWorld.handOverProbe
  split
  · exact h.failProbe _
  rename_i connection sessionId hhanded
  obtain ⟨hinUse, hrelay⟩ := PathTransports.handOver_eq_ok hhanded
  have hwaits := hclear connection hinUse
  refine h.setProbe fun sent hsent => ?_
  obtain rfl := Option.some.inj hsent
  cases sessionId with
  | none =>
    have hway : ¬connection.way = .relay := fun hway => by simpa using hrelay.mpr hway
    rw [if_neg hway] at hwaits
    exact ⟨hinUse, le_rfl, fun a ha hcarries => absurd hcarries (hwaits a ha), rfl, nofun⟩
  | some sessionId =>
    have hway := hrelay.mp rfl
    rw [if_pos hway] at hwaits
    exact ⟨hinUse, le_rfl, fun a ha hcarries => absurd hcarries (hwaits a ha), rfl,
      fun _ _ => hway⟩

theorem Sound.acknowledgeProbe (h : w.Sound json) {probe : RunningProbe} {handOver : HandOver}
    {sessionId : String} {timedOut : Bool} {w' : ProbeWorld} (hprobe : w.probes id = some probe)
    (hsent : probe.sent = some ⟨handOver, .awaitingAck sessionId⟩)
    (hstep : w.acknowledgeProbe texts json id probe handOver sessionId timedOut = some w') :
    w'.Sound json := by
  have hlistens := h.listens _ ⟨id, probe, hprobe, hsent⟩
  unfold ProbeWorld.acknowledgeProbe at hstep
  dsimp only at hstep
  split at hstep
  · cases hstep
  have hread : (w.setInbox handOver.connection.socket
      (Inbox.readWhole (w.inboxes handOver.connection.socket)).2).Sound json := by
    refine h.setInbox hlistens.inUse fun other hother => ?_
    have hothers := h.listens other hother
    have hsame : handOver.connection = other.handOver.connection :=
      Option.some.inj (hlistens.inUse.symm.trans hothers.inUse)
    intro a ha
    have hpending := hothers.pending a
    rw [← hsame] at hpending
    refine hpending ?_
    change a ∈ other.stage.pending ((w.inboxes handOver.connection.socket).drop 1) at ha
    unfold ProbeStage.pending at ha ⊢
    split at ha
    · exact List.mem_of_mem_drop ha
    · exact List.mem_of_mem_drop ha
  split at hstep
  · obtain rfl := Option.some.inj hstep
    exact hread.failProbe _
  · obtain rfl := Option.some.inj hstep
    refine hread.setProbe fun sent' hsent' => ?_
    obtain rfl := Option.some.inj hsent'
    refine ⟨hlistens.inUse, hlistens.arrived, ?_, hlistens.since, nofun⟩
    change ∀ a ∈ Function.update w.inboxes handOver.connection.socket _ handOver.connection.socket, _
    rw [Function.update_self]
    exact hlistens.pending

/-- A probe goes on to its next stage, its clock read at the latest now. -/
theorem Sound.setStage (h : w.Sound json) {probe : RunningProbe} {handOver : HandOver}
    {stage next : ProbeStage} (hprobe : w.probes id = some probe)
    (hsent : probe.sent = some ⟨handOver, stage⟩)
    (hpending : ∀ inbox, next.pending inbox = stage.pending inbox)
    (hsince : next.since w.nowMs = stage.since w.nowMs) (hnext : ∀ s, next ≠ .awaitingAck s) :
    (w.setStage id probe handOver next).Sound json := by
  have hlistens := h.listens _ ⟨id, probe, hprobe, hsent⟩
  refine h.setProbe fun sent' hsent' => ?_
  obtain rfl := Option.some.inj hsent'
  refine ⟨hlistens.inUse, hlistens.arrived, ?_, hsince.trans hlistens.since,
    fun s hs => absurd hs (hnext s)⟩
  dsimp only
  rw [hpending]
  exact hlistens.pending

theorem Sound.sampleProbe (h : w.Sound json) {probe : RunningProbe} {handOver : HandOver}
    (hprobe : w.probes id = some probe) (hsent : probe.sent = some ⟨handOver, .handedOver⟩) :
    (w.sampleProbe id probe handOver).Sound json where
  listens sent hsent' := by
    have hstage : (w.setStage id probe handOver (.sampled w.nowMs ("probe-" ++ toString w.nowMs ++
        "-" ++ toString (w.probeSequence + 1)))).Sound json :=
      h.setStage hprobe hsent (fun _ => rfl) rfl nofun
    have hlistens := hstage.listens sent hsent'
    exact ⟨hlistens.inUse, hlistens.arrived, hlistens.pending, hlistens.since, hlistens.relay⟩
  genuine := h.genuine

theorem Sound.pollProbe (h : w.Sound json) {probe : RunningProbe} {handOver : HandOver}
    {sampledAtMs deadlineMs : Nat} {probeId : String} (hprobe : w.probes id = some probe)
    (hsent : probe.sent = some ⟨handOver, .polling sampledAtMs probeId deadlineMs⟩) :
    (w.pollProbe texts json id probe handOver sampledAtMs probeId deadlineMs).Sound json := by
  have hlistens := h.listens _ ⟨id, probe, hprobe, hsent⟩
  have hinUse : w.transports.inUse = some handOver.connection := hlistens.inUse
  unfold ProbeWorld.pollProbe
  dsimp only
  split
  · exact h.polled.failProbe _
  · rename_i packet hfound
    refine h.polled.finish fun report hreport => ?_
    obtain rfl := Except.ok.inj hreport
    intro _
    have hwaiting : w.waiting = w.inboxes handOver.connection.socket := by
      unfold waiting
      rw [hinUse]
    have htaken := (PathTransports.forall_read hinUse hlistens.pending).1
    obtain ⟨a, ha, hcarries⟩ := PathTransports.poll_eq_some hinUse hfound
    refine ⟨hinUse, ⟨a, ha, hcarries, ?_⟩, ?_⟩
    · rw [hwaiting] at ha
      exact htaken a ha hcarries
    · have hsince : sampledAtMs = handOver.nowMs := hlistens.since
      rw [← hsince]
      rfl
  · split
    · refine h.polled.finish fun report hreport => ?_
      obtain rfl := Except.ok.inj hreport
      nofun
    · exact h.polled

/-- One step. -/
theorem Sound.step (h : w.Sound json) {event : ProbeEvent} (hproper : w.Proper json event)
    {w' : ProbeWorld} (hstep : w.step texts json event = some w') : w'.Sound json := by
  unfold ProbeWorld.step at hstep
  cases event with
  | tick ms =>
    obtain rfl := Option.some.inj hstep
    exact h.tick hproper
  | arrive socket source bytes =>
    obtain rfl := Option.some.inj hstep
    exact h.arrive hproper
  | switch transports =>
    obtain rfl := Option.some.inj hstep
    exact h.switch hproper
  | start id packet replyTimeoutMs =>
    dsimp only at hstep
    split at hstep
    · cases hstep
    · obtain rfl := Option.some.inj hstep
      exact h.setProbe nofun
  | handOver id =>
    dsimp only at hstep
    split at hstep
    · split at hstep
      · obtain rfl := Option.some.inj hstep
        exact h.handOverProbe hproper
      · cases hstep
    · cases hstep
  | acknowledge id timedOut =>
    dsimp only at hstep
    split at hstep
    · rename_i probe hprobe
      split at hstep
      · rename_i handOver sessionId hsent
        exact h.acknowledgeProbe hprobe hsent hstep
      · cases hstep
    · cases hstep
  | sample id =>
    dsimp only at hstep
    split at hstep
    · rename_i probe hprobe
      split at hstep
      · rename_i handOver hsent
        obtain rfl := Option.some.inj hstep
        exact h.sampleProbe hprobe hsent
      · cases hstep
    · cases hstep
  | listen id =>
    dsimp only at hstep
    split at hstep
    · rename_i probe hprobe
      split at hstep
      · rename_i handOver sampledAtMs probeId hsent
        obtain rfl := Option.some.inj hstep
        exact h.setStage hprobe hsent (fun _ => rfl) rfl nofun
      · cases hstep
    · cases hstep
  | poll id =>
    dsimp only at hstep
    split at hstep
    · rename_i probe hprobe
      split at hstep
      · rename_i handOver sampledAtMs probeId deadlineMs hsent
        obtain rfl := Option.some.inj hstep
        exact h.pollProbe hprobe hsent
      · cases hstep
    · cases hstep
  | fault id err =>
    dsimp only at hstep
    split at hstep
    · obtain rfl := Option.some.inj hstep
      exact h.failProbe err
    · cases hstep

/-- In a run of proper steps, whatever is reported as a reply is one. -/
theorem genuine_of_proper {w₀ : ProbeWorld} (hidle : ∀ id, w₀.probes id = none)
    (hnew : w₀.results = [])
    (hrun : Reachable (guarded (Proper json) (rel (ProbeWorld.step texts json))) w₀ w)
    {report : ProbeReport} (hreport : .ok report ∈ w.results) : report.Genuine json := by
  have hstart : w₀.Sound json := by
    constructor
    · rintro sent ⟨id, probe, hprobe, -⟩
      rw [hidle id] at hprobe
      cases hprobe
    · intro report hreport
      rw [hnew] at hreport
      cases hreport
  have hsound : w.Sound json :=
    hrun.invariant (Sound json) hstart fun _ _ _ hs hstep => hs.step hstep.1 hstep.2
  exact hsound.genuine report hreport

/-! ## A packet that was there before -/

/-- A stream to `node-b` is in use. -/
def pairedWorld : ProbeWorld where
  nowMs := 5000
  transports := ⟨⟨.p2p "node-b", some "node-b", none⟩, .new, fun _ => SocketDerpClient.new,
    ⟨some 3, some "node-b"⟩, ⟨none, none, none, none, false⟩, 0⟩
  inboxes _ := []
  arrived := 0
  defaultProbeReplyTimeoutMs := 25
  tunnelPeerVirtualIp := some "10.0.0.3"
  probeSequence := 0
  probes _ := none
  results := []

def plainTexts : Texts := ⟨fun _ => "response", fun _ => "json", fun text => text⟩

/-- A probe to which nobody answers, after a packet that has nothing to do with it. -/
def unansweredProbe : List ProbeEvent :=
  [.arrive 3 "node-b" [1, 2, 3], .start 0 [9] none, .handOver 0, .sample 0, .listen 0, .poll 0]

theorem leftover_taken_for_reply :
    ∃ w, exec (step plainTexts fun _ => .null) pairedWorld unansweredProbe = some w ∧
      ∃ report, .ok report ∈ w.results ∧ ¬ report.Genuine fun _ => .null := by
  refine ⟨_, rfl, _, List.mem_cons_self, fun h => ?_⟩
  obtain ⟨-, ⟨a, ha, -, hlate, -⟩, -⟩ := h rfl
  obtain rfl := List.mem_singleton.mp ha
  exact absurd hlate (by decide)

/-- A probe that is answered seven milliseconds later. -/
def answeredProbe : List ProbeEvent :=
  [.start 0 [9] none, .handOver 0, .sample 0, .listen 0, .tick 7, .arrive 3 "node-b" [1, 2, 3],
    .poll 0]

theorem UnderWay.eq_of_alone {probe : RunningProbe} (h : w.UnderWay sent)
    (hothers : ∀ other, other ≠ id → w.probes other = none) (hprobe : w.probes id = some probe) :
    probe.sent = some sent := by
  obtain ⟨id', probe', hprobe', hsent⟩ := h
  by_cases hsame : id' = id
  · rw [hsame, hprobe] at hprobe'
    obtain rfl := Option.some.inj hprobe'
    exact hsent
  · rw [hothers id' hsame] at hprobe'
    cases hprobe'

/-- The world after so many of the events. -/
def answeredAfter (n : Nat) : ProbeWorld :=
  execD (step plainTexts fun _ => .null) pairedWorld (answeredProbe.take n)

theorem answer_genuine :
    ∃ w, exec (step plainTexts fun _ => .null) pairedWorld answeredProbe = some w ∧
      ∃ report, .ok report ∈ w.results ∧ report.record.replyRttMs = some 7 ∧
        report.Genuine fun _ => .null := by
  have hclear : (answeredAfter 1).Proper (fun _ => .null) (.handOver 0) := by
    intro connection hinUse a ha
    obtain rfl := Option.some.inj hinUse
    cases ha
  have hothers : ∀ other, other ≠ 0 → (answeredAfter 4).probes other = none := by
    intro other hne
    change Function.update (Function.update (Function.update (Function.update (fun _ => none) 0 _)
      0 _) 0 _) 0 _ other = none
    simp only [Function.update_of_ne hne]
  have hmeasured : (answeredAfter 4).Proper (fun _ => .null) (.tick 7) := by
    refine .inr fun sent hsent => ?_
    obtain rfl := Option.some.inj (hsent.eq_of_alone hothers rfl)
    trivial
  have hpeer : (answeredAfter 5).Proper (fun _ => .null) (.arrive 3 "node-b" [1, 2, 3]) := by
    intro sent hsent _ _
    obtain rfl := Option.some.inj (hsent.eq_of_alone hothers rfl)
    rfl
  have hrun : Reachable (guarded (Proper fun _ => .null) (rel (step plainTexts fun _ => .null)))
      pairedWorld (answeredAfter 7) := by
    refine .next (s := answeredAfter 6) (a := .poll 0) ?_ ⟨trivial, rfl⟩
    refine .next (s := answeredAfter 5) ?_ ⟨hpeer, rfl⟩
    refine .next (s := answeredAfter 4) ?_ ⟨hmeasured, rfl⟩
    refine .next (s := answeredAfter 3) (a := .listen 0) ?_ ⟨trivial, rfl⟩
    refine .next (s := answeredAfter 2) (a := .sample 0) ?_ ⟨trivial, rfl⟩
    refine .next (s := answeredAfter 1) ?_ ⟨hclear, rfl⟩
    exact .next (a := .start 0 [9] none) .start ⟨trivial, rfl⟩
  refine ⟨answeredAfter 7, rfl, _, List.mem_cons_self, rfl, ?_⟩
  exact genuine_of_proper (fun _ => rfl) rfl hrun List.mem_cons_self

end ProbeWorld

end Slan.Client
