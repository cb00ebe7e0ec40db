import Slan.Client.AppCore
import Slan.Client.SyncRuns
import Slan.Ws.Answers

/-! # A fresh control session, from the connection to the end of its first drain

The server has the connection in its hub before it answers, so that pushes may come before each of
its two answers.
-/

namespace Slan.Ws

open Client (ControlTexts ControlWsClient ControlWsConfig Incoming Received Reply Sync SyncAction
  SyncPhase drainedUpdate isControlWsTimeoutError)
open Json (nonEmpty)
open Transition (exec exec_append)

/-! ## What the server writes -/

/-- A push, as the client meets it. -/
structure Pushed where
  message : PushMessage
  messageId : String
  ackSent : Bool

namespace Pushed

def incoming (pushed : Pushed) : Incoming :=
  .frame (pushed.message.envelope pushed.messageId) pushed.ackSent

/-- The events of pushes that are read from the given number on. -/
def received : Nat → List Pushed → List Received
  | _, [] => []
  | n, pushed :: pushes =>
    (pushed.message.carried.map (Received.mk n)).toList ++ received (n + 1) pushes

end Pushed

theorem PushMessage.exists_carried {message : PushMessage} (h : message.Readable) :
    ∃ event, message.carried = some event := by
  cases message with
  | peerCandidate _ => exact h.elim
  | _ => exact ⟨_, rfl⟩

structure Greeting where
  requestId : String
  early : List Pushed
  ack : NodeHelloAck
  late : List Pushed
  map : NetworkMap

namespace Greeting

def frames (greeting : Greeting) : List Incoming :=
  greeting.early.map Pushed.incoming ++
    (Answer.nodeHelloAck greeting.ack).incoming greeting.requestId false ::
      (greeting.late.map Pushed.incoming ++
        [(Answer.networkMapResponse ⟨greeting.map⟩).incoming greeting.requestId false])

/-- Every frame is one that the client can read. -/
@[mk_iff]
structure Fits (greeting : Greeting) : Prop where
  early : ∀ pushed ∈ greeting.early, pushed.message.Readable
  ack : greeting.ack.Fits
  late : ∀ pushed ∈ greeting.late, pushed.message.Readable
  map : greeting.map.Fits

/-- The events that the client has queued when it has read the map, the frames being numbered from
the given number on. -/
def queue (greeting : Greeting) (n : Nat) : List Received :=
  Pushed.received n greeting.early ++
    Pushed.received (n + greeting.early.length + 1) greeting.late

end Greeting

/-! ## What a call does with frames -/

section Reads

variable {texts : ControlTexts} {s : Sync} {frames : List Incoming} {P : Sync → Prop}

/-- The call reads the frames and has not failed. -/
def Arrives (texts : ControlTexts) (s : Sync) (frames : List Incoming) (P : Sync → Prop) : Prop :=
  ∃ t, exec (Sync.step texts) s (frames.map fun incoming => .read incoming none) = some t ∧
    t.phase ≠ .idle ∧ P t

theorem arrives_nil : Arrives texts s [] P ↔ s.phase ≠ .idle ∧ P s := by
  constructor
  · rintro ⟨t, hexec, ht⟩
    exact Option.some.inj hexec ▸ ht
  · exact fun h => ⟨s, rfl, h⟩

/-- A call that has failed reads nothing more. -/
theorem not_arrives_of_idle (h : s.phase = .idle) : ¬Arrives texts s frames P := by
  rintro ⟨t, hexec, ht, -⟩
  cases frames with
  | nil => exact ht (Option.some.inj hexec ▸ h)
  | cons incoming frames =>
    have hreader : s.reader = none := by
      unfold Sync.reader
      rw [h]
    rw [List.map_cons, exec, Sync.step, Sync.advance, hreader] at hexec
    cases hexec

theorem arrives_cons (frames : List Incoming) (P : Sync → Prop) {client : ControlWsClient}
    {incoming : Incoming} {facade : Client.Facade} {next : Except String SyncPhase} (hreader : s.reader = some client)
    (hstep : s.readStep texts client incoming none = some (facade, next)) :
    ∃ t : Sync, (t.facade = facade ∧ t.phase = Sync.phaseAfter next ∧ t.reads = s.reads + 1) ∧
      (Arrives texts s (incoming :: frames) P ↔ Arrives texts t frames P) := by
  have hadvance : s.advance texts (.read incoming none) = some (facade, next) := by
    simp only [Sync.advance, hreader, hstep]
  obtain ⟨t, ht, hstep⟩ : ∃ t : Sync,
      (t.facade = facade ∧ t.phase = Sync.phaseAfter next ∧ t.reads = s.reads + 1) ∧
        s.step texts (.read incoming none) = some t := by
    rw [Sync.step, hadvance, Option.map_some]
    exact ⟨_, ⟨rfl, rfl, rfl⟩, rfl⟩
  refine ⟨t, ht, ?_⟩
  unfold Arrives
  rw [List.map_cons, exec, hstep, Option.bind_some]

end Reads

/-! ## Waiting for an answer -/

/-- A phase in which the call waits for an answer, and the one after it. -/
structure Wait (α : Type) where
  phase : ControlWsClient → SyncPhase
  read : Incoming → Except String (Reply α)
  next : ControlWsClient → α → SyncPhase

namespace Wait

variable {α : Type} {texts : ControlTexts} {w : Wait α}

/-- What a reply makes of the phase. -/
def after (w : Wait α) (client : ControlWsClient) (serial : Nat) : Reply α → SyncPhase
  | .answer a => w.next client a
  | .event event => w.phase (client.enqueue ⟨serial, event⟩)

/-- The steps of the call are those of the phase; a push is an event or an error. -/
structure Sound (texts : ControlTexts) (w : Wait α) : Prop where
  reader : ∀ {s : Sync} {client}, s.phase = w.phase client → s.reader = some client
  step : ∀ {s : Sync} {client} incoming, s.phase = w.phase client →
    s.readStep texts client incoming none =
      some (s.facade, (w.read incoming).map (w.after client s.reads))
  event : ∀ (pushed : Pushed) event, w.read pushed.incoming = .ok (.event event) ↔
    pushed.message.Readable ∧ pushed.message.carried = some event
  not_answer : ∀ (pushed : Pushed) a, w.read pushed.incoming ≠ .ok (.answer a)

section Arrive

variable {s : Sync} {client : ControlWsClient} (frames : List Incoming) (P : Sync → Prop)

theorem Sound.arrives_ok (h : w.Sound texts) (hphase : s.phase = w.phase client)
    {incoming : Incoming} {reply : Reply α} (hread : w.read incoming = .ok reply) :
    ∃ t : Sync, (t.facade = s.facade ∧ t.phase = w.after client s.reads reply ∧
        t.reads = s.reads + 1) ∧
      (Arrives texts s (incoming :: frames) P ↔ Arrives texts t frames P) := by
  have hstep := h.step incoming hphase
  rw [hread] at hstep
  exact arrives_cons frames P (h.reader hphase) hstep

theorem Sound.not_arrives (h : w.Sound texts) (hphase : s.phase = w.phase client)
    {incoming : Incoming} {err : String} (hread : w.read incoming = .error err) :
    ¬Arrives texts s (incoming :: frames) P := by
  have hstep := h.step incoming hphase
  rw [hread] at hstep
  obtain ⟨t, ⟨-, hidle, -⟩, hiff⟩ := arrives_cons frames P (h.reader hphase) hstep
  rw [hiff]
  exact not_arrives_of_idle hidle

/-- Pushes are queued while the call waits. -/
theorem Sound.arrives_pushes (h : w.Sound texts) (hphase : s.phase = w.phase client)
    (pushes : List Pushed) :
    ∃ t : Sync, (t.facade = s.facade ∧
        t.phase = w.phase { client with
          queuedEvents := client.queuedEvents ++ Pushed.received s.reads pushes } ∧
        t.reads = s.reads + pushes.length) ∧
      (Arrives texts s (pushes.map Pushed.incoming ++ frames) P ↔
        (∀ pushed ∈ pushes, pushed.message.Readable) ∧ Arrives texts t frames P) := by
  induction pushes generalizing s client with
  | nil =>
    refine ⟨s, ⟨rfl, ?_, rfl⟩, ?_⟩
    · rw [Pushed.received, List.append_nil, hphase]
    · exact (and_iff_right fun _ hmem => absurd hmem List.not_mem_nil).symm
  | cons pushed pushes ih =>
    rw [List.map_cons, List.cons_append, List.forall_mem_cons]
    cases hread : w.read pushed.incoming with
    | error err =>
      -- a push that cannot be read ends the call
      have hunreadable : ¬pushed.message.Readable := by
        intro hreadable
        obtain ⟨event, hevent⟩ := PushMessage.exists_carried hreadable
        have hok := (h.event pushed event).mpr ⟨hreadable, hevent⟩
        rw [hread] at hok
        cases hok
      refine ⟨⟨s.facade, _, s.reads + (pushes.length + 1), [], []⟩, ⟨rfl, rfl, rfl⟩, ?_⟩
      exact iff_of_false (h.not_arrives _ P hphase hread) fun hall => hunreadable hall.1.1
    | ok reply =>
      cases reply with
      | answer a => exact absurd hread (h.not_answer pushed a)
      | event event =>
        obtain ⟨hreadable, hevent⟩ := (h.event pushed event).mp hread
        obtain ⟨u, ⟨hfacade, hu, hreads⟩, hiff⟩ := h.arrives_ok
          (pushes.map Pushed.incoming ++ frames) P hphase hread
        obtain ⟨t, ⟨htfacade, ht, htreads⟩, htiff⟩ := ih hu
        refine ⟨t, ⟨htfacade.trans hfacade, ?_, ?_⟩, ?_⟩
        · rw [ht, hreads, Pushed.received, hevent]
          simp [ControlWsClient.enqueue]
        · rw [htreads, hreads, List.length_cons]
          omega
        · rw [hiff, htiff, and_iff_right hreadable]

/-- The answer is taken where it fits. -/
theorem Sound.arrives_answer (h : w.Sound texts) (hphase : s.phase = w.phase client)
    {incoming : Incoming} {fits : Prop} {a : α}
    (hread : ∀ got, w.read incoming = .ok (.answer got) ↔ fits ∧ a = got)
    (hevent : ∀ event, w.read incoming ≠ .ok (.event event)) :
    ∃ t : Sync, (t.facade = s.facade ∧ t.phase = w.next client a ∧ t.reads = s.reads + 1) ∧
      (Arrives texts s (incoming :: frames) P ↔ fits ∧ Arrives texts t frames P) := by
  cases hreply : w.read incoming with
  | error err =>
    have hunfit : ¬fits := by
      intro hfits
      have hok := (hread a).mpr ⟨hfits, rfl⟩
      rw [hreply] at hok
      cases hok
    refine ⟨⟨s.facade, _, s.reads + 1, [], []⟩, ⟨rfl, rfl, rfl⟩, ?_⟩
    exact iff_of_false (h.not_arrives frames P hphase hreply) fun hall => hunfit hall.1
  | ok reply =>
    cases reply with
    | event event => exact absurd hreply (hevent event)
    | answer got =>
      obtain ⟨hfits, rfl⟩ := (hread got).mp hreply
      obtain ⟨t, ht, hiff⟩ := h.arrives_ok frames P hphase hreply
      exact ⟨t, ht, hiff.trans (and_iff_right hfits).symm⟩

end Arrive

end Wait

/-! ## The two waits of a greeting -/

section Waits

variable (texts : ControlTexts) (config : ControlWsConfig) (ack : Client.NodeHelloAck)

def awaitAck : Wait Client.NodeHelloAck where
  phase := .greeting config
  read := ControlWsClient.readHelloAck texts
  next client ack := .mapping config client ack

def awaitMap : Wait Client.NetworkMap where
  phase client := .mapping config client ack
  read := ControlWsClient.readNetworkMap texts
  next client networkMap := .draining config (some (client, ack)) networkMap Sync.drainLimit []

variable {texts}

theorem readReply_pushed_ne_answer {α : Type} {expectedType : String}
    {decode : Json → Except String α} (hother : expectedType ∉ PushMessage.msgTypes)
    (pushed : Pushed) (a : α) :
    ControlWsClient.readReply texts expectedType decode pushed.incoming ≠ .ok (.answer a) := by
  unfold ControlWsClient.readReply Pushed.incoming
  rw [PushMessage.readEnvelope_envelope]
  intro hanswer
  have hevent := ((if_neg (pushed.message.msgType_ne (by decide))).trans
    (if_neg (pushed.message.msgType_ne hother))).symm.trans hanswer
  split at hevent <;> cases hevent

theorem sound_awaitAck : (awaitAck texts config).Sound texts where
  reader hphase := by
    unfold Sync.reader
    rw [hphase]
    rfl
  step incoming hphase := by
    unfold Sync.readStep
    rw [hphase]
    dsimp only [awaitAck]
    cases ControlWsClient.readHelloAck texts incoming with
    | error err => rfl
    | ok reply => cases reply <;> rfl
  event pushed event := PushMessage.readReply_eq_ok (by decide)
  not_answer := readReply_pushed_ne_answer (by decide)

theorem sound_awaitMap : (awaitMap texts config ack).Sound texts where
  reader hphase := by
    unfold Sync.reader
    rw [hphase]
    rfl
  step incoming hphase := by
    unfold Sync.readStep
    rw [hphase]
    dsimp only [awaitMap]
    cases ControlWsClient.readNetworkMap texts incoming with
    | error err => rfl
    | ok reply => cases reply <;> rfl
  event pushed event := PushMessage.readReply_eq_ok (by decide)
  not_answer := readReply_pushed_ne_answer (by decide)

end Waits

/-! ## The whole greeting -/

section Session

variable {texts : ControlTexts} {config : ControlWsConfig} {s : Sync} {client : ControlWsClient}

theorem readReply_answer_ne_event {α : Type} {expectedType : String}
    {decode : Json → Except String α} {answer : Answer} {requestId : String}
    (herror : answer.msgType ≠ "error") (hexpected : answer.msgType = expectedType)
    (event : Client.ControlWsEvent) :
    ControlWsClient.readReply texts expectedType decode (answer.incoming requestId false) ≠
      .ok (.event event) := by
  rw [Answer.readReply_incoming texts requestId false herror hexpected]
  intro hevent
  obtain ⟨_, -, hcases⟩ := Json.map_eq_ok.mp hevent
  cases hcases

variable (texts) in
/-- The client reads a greeting to its end exactly where it fits. -/
theorem arrives_frames (greeting : Greeting) (hphase : s.phase = .greeting config client)
    (P : Sync → Prop) :
    ∃ t : Sync, (t.facade = s.facade ∧
        t.phase = .draining config
          (some ({ client with queuedEvents := client.queuedEvents ++ greeting.queue s.reads },
            greeting.ack.carried)) greeting.map.carried Sync.drainLimit []) ∧
      (Arrives texts s greeting.frames P ↔ greeting.Fits ∧ P t) := by
  have hack : (Answer.nodeHelloAck greeting.ack).msgType ≠ "error" := by simp [Answer.msgType]
  have hmap : (Answer.networkMapResponse ⟨greeting.map⟩).msgType ≠ "error" := by
    simp [Answer.msgType]
  have hreadAck : ∀ got, (awaitAck texts config).read
      ((Answer.nodeHelloAck greeting.ack).incoming greeting.requestId false) =
        .ok (.answer got) ↔ greeting.ack.Fits ∧ greeting.ack.carried = got := fun got =>
    Answer.readReply_eq_answer texts greeting.requestId false
      (decode_nodeHelloAck greeting.ack) hack rfl
  have hreadMap : ∀ got, (awaitMap texts config greeting.ack.carried).read
      ((Answer.networkMapResponse ⟨greeting.map⟩).incoming greeting.requestId false) =
        .ok (.answer got) ↔ greeting.map.Fits ∧ greeting.map.carried = got := fun got =>
    Answer.readReply_eq_answer texts greeting.requestId false
      (decode_networkMapResponse ⟨greeting.map⟩) hmap rfl
  obtain ⟨t₁, ⟨hfacade₁, hphase₁, hreads₁⟩, hiff₁⟩ :=
    (sound_awaitAck config).arrives_pushes
      ((Answer.nodeHelloAck greeting.ack).incoming greeting.requestId false ::
        (greeting.late.map Pushed.incoming ++
          [(Answer.networkMapResponse ⟨greeting.map⟩).incoming greeting.requestId false]))
      P hphase greeting.early
  obtain ⟨t₂, ⟨hfacade₂, hphase₂, hreads₂⟩, hiff₂⟩ :=
    (sound_awaitAck config).arrives_answer
      (greeting.late.map Pushed.incoming ++
        [(Answer.networkMapResponse ⟨greeting.map⟩).incoming greeting.requestId false])
      P hphase₁ hreadAck (readReply_answer_ne_event hack rfl)
  obtain ⟨t₃, ⟨hfacade₃, hphase₃, -⟩, hiff₃⟩ :=
    (sound_awaitMap config greeting.ack.carried).arrives_pushes
      [(Answer.networkMapResponse ⟨greeting.map⟩).incoming greeting.requestId false]
      P hphase₂ greeting.late
  obtain ⟨t₄, ⟨hfacade₄, hphase₄, -⟩, hiff₄⟩ :=
    (sound_awaitMap config greeting.ack.carried).arrives_answer [] P hphase₃
      hreadMap (readReply_answer_ne_event hmap rfl)
  refine ⟨t₄, ⟨?_, ?_⟩, ?_⟩
  · rw [hfacade₄, hfacade₃, hfacade₂, hfacade₁]
  · rw [hphase₄, hreads₂, hreads₁, List.append_assoc]
    rfl
  · have hgoing : t₄.phase ≠ .idle := by
      rw [hphase₄]
      exact SyncPhase.noConfusion
    rw [Greeting.frames, hiff₁, hiff₂, hiff₃, hiff₄, arrives_nil, and_iff_right hgoing,
      Greeting.fits_iff]
    simp only [and_assoc]

/-- The drain of a fresh client: what is queued, and then a read that times out unless the limit is
reached. -/
def drainActions (idle : String) (queued : Nat) : List SyncAction :=
  List.replicate (min Sync.drainLimit queued) .pop ++
    [if queued < Sync.drainLimit then .read (.failed idle) none else .drained none]

variable (texts) in
theorem exec_pops {ack : Client.NodeHelloAck} {networkMap : Client.NetworkMap} (k : Nat) :
    ∀ {s : Sync} {client : ControlWsClient} {left : Nat} {events : List Received},
      s.phase = .draining config (some (client, ack)) networkMap left events → k ≤ left →
      k ≤ client.queuedEvents.length →
      ∃ t : Sync, exec (Sync.step texts) s (List.replicate k .pop) = some t ∧
        t.facade = s.facade ∧
        t.phase = .draining config
          (some ({ client with queuedEvents := client.queuedEvents.drop k }, ack)) networkMap
          (left - k) (events ++ client.queuedEvents.take k) := by
  induction k with
  | zero =>
    intro s client left events hphase _ _
    refine ⟨s, rfl, rfl, ?_⟩
    rw [hphase, List.drop_zero, List.take_zero, List.append_nil, Nat.sub_zero]
  | succ k ih =>
    intro s client left events hphase hleft hqueued
    obtain ⟨left, rfl⟩ := Nat.exists_eq_succ_of_ne_zero (Nat.ne_zero_of_lt hleft)
    obtain ⟨target, queued⟩ := client
    cases queued with
    | nil => exact absurd hqueued (Nat.not_succ_le_zero k)
    | cons received rest =>
      have hreader : s.reader = some ⟨target, received :: rest⟩ := by
        unfold Sync.reader
        rw [hphase]
      have hadvance : s.advance texts .pop = some (s.facade,
          .ok (.draining config (some (⟨target, rest⟩, ack)) networkMap left
            (events ++ [received]))) := by
        simp only [Sync.advance, hphase, hreader]
      obtain ⟨u, hstep, hfacade, hu⟩ : ∃ u : Sync, s.step texts .pop = some u ∧
          u.facade = s.facade ∧
          u.phase = .draining config (some (⟨target, rest⟩, ack)) networkMap left
            (events ++ [received]) := by
        rw [Sync.step, hadvance, Option.map_some]
        exact ⟨_, rfl, rfl, rfl⟩
      obtain ⟨t, hexec, htfacade, ht⟩ := ih hu (Nat.le_of_succ_le_succ hleft)
        (Nat.le_of_succ_le_succ hqueued)
      refine ⟨t, ?_, htfacade.trans hfacade, ?_⟩
      · rw [List.replicate_succ, exec, hstep]
        exact hexec
      · rw [ht, Nat.succ_sub_succ, List.append_assoc]
        rfl

/-- The drain ends with the events that the limit allows; the others stay with the client. -/
theorem exec_drain {ack : Client.NodeHelloAck} {networkMap : Client.NetworkMap} {idle : String}
    (hidle : isControlWsTimeoutError idle = true)
    (hphase : s.phase =
      .draining config (some (client, ack)) networkMap Sync.drainLimit []) :
    ∃ t : Sync, exec (Sync.step texts) s (drainActions idle client.queuedEvents.length) = some t ∧
      t.facade = s.facade.withClient
        { client with queuedEvents := client.queuedEvents.drop Sync.drainLimit } ∧
      t.phase = .finishing config
        (drainedUpdate networkMap ack.heartbeatSeconds ∅
          (client.queuedEvents.take Sync.drainLimit))
        (client.queuedEvents.take Sync.drainLimit) := by
  obtain ⟨u, hexec, hfacade, hu⟩ := exec_pops texts
    (min Sync.drainLimit client.queuedEvents.length) hphase (Nat.min_le_left _ _)
    (Nat.min_le_right _ _)
  rw [List.nil_append] at hu
  -- what the last action makes of the drain
  have hlast : ∀ a facade phase, u.advance texts a = some (facade, .ok phase) →
      ∃ t : Sync, u.step texts a = some t ∧ t.facade = facade ∧ t.phase = phase := by
    intro a facade phase hadvance
    rw [Sync.step, hadvance, Option.map_some]
    exact ⟨_, rfl, rfl, rfl⟩
  by_cases hless : client.queuedEvents.length < Sync.drainLimit
  · rw [Nat.min_eq_right hless.le, List.drop_length, List.take_length] at hu
    obtain ⟨left, hleft⟩ := Nat.exists_eq_succ_of_ne_zero (Nat.sub_ne_zero_of_lt hless)
    rw [hleft] at hu
    have hreader : u.reader = some { client with queuedEvents := [] } := by
      unfold Sync.reader
      rw [hu]
    have hread : ControlWsClient.readEvent texts (.failed idle) = .error idle := rfl
    obtain ⟨t, hstep, htfacade, ht⟩ := hlast (.read (.failed idle) none)
      (u.facade.withClient { client with queuedEvents := [] })
      (.finishing config (drainedUpdate networkMap ack.heartbeatSeconds ∅ client.queuedEvents)
        client.queuedEvents) (by
        simp [Sync.advance, hreader, Sync.readStep, hu, hread, hidle, Sync.endDrain])
    refine ⟨t, ?_, ?_, ?_⟩
    · rw [drainActions, if_pos hless, exec_append, hexec, Option.bind_some, exec, hstep]
      rfl
    · rw [htfacade, hfacade, List.drop_of_length_le hless.le]
    · rw [ht, List.take_of_length_le hless.le]
  · have hmore := Nat.le_of_not_lt hless
    rw [Nat.min_eq_left hmore, Nat.sub_self] at hu
    obtain ⟨t, hstep, htfacade, ht⟩ := hlast (.drained none) _ _ (by
      simp only [Sync.advance, hu]
      rfl)
    refine ⟨t, ?_, ?_, ?_⟩
    · rw [drainActions, if_neg hless, exec_append, hexec, Option.bind_some, exec, hstep]
      rfl
    · rw [htfacade, hfacade]
    · rw [ht]

/-- What a call does from the connection to the end of the greeting. -/
def greetingActions (greeting : Greeting) : List SyncAction :=
  .connect (.ok ()) none :: greeting.frames.map fun incoming => .read incoming none

end Session

/-- A greeting without pushes. -/
def quietGreeting : Greeting where
  requestId := "node-hello"
  early := []
  ack := ⟨"cs-1", 15, 3⟩
  late := []
  map := { NetworkMap.zero with networkId := "net-1", heartbeatSeconds := 15 }

def sampleConfig : ControlWsConfig where
  wsUrl := "ws://control:8080/ws"
  accessToken := "token-1"
  sessionToken := "cs-1"
  userId := "user-1"
  deviceId := "device-a"
  nodeId := "node-a"
  nodePublicKey := "key-a"
  networkId := "net-1"
  capabilities := []

/-- A call that connects. -/
def connecting : Sync := { Sync.start .empty none with phase := .connecting sampleConfig }

end Slan.Ws
