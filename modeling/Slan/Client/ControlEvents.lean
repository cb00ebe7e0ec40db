import Slan.Client.SyncRuns

/-! # What becomes of the control events that the client acknowledges -/

namespace Slan.Client

open Transition

/-! ## Control events among the envelopes -/

def controlEventTypes : List String :=
  ["peer_update", "peer_remove", "connect_plan", "network_restart_required",
    "device_ip_reassigned", "active_network_enabled"]

def Envelope.isControlEvent (envelope : Envelope) : Bool :=
  controlEventTypes.contains envelope.msgType

theorem decodeControlWsEvent_other (texts : ControlTexts) {response : Envelope}
    (h : response.isControlEvent = false) :
    decodeControlWsEvent texts response =
      .error ("unexpected control ws event: " ++ response.msgType) := by
  unfold decodeControlWsEvent
  split <;> simp_all [Envelope.isControlEvent, controlEventTypes]

namespace ControlWsClient

variable {texts : ControlTexts} {incoming : Incoming} {envelope : Envelope}

/-- What is acknowledged is what is read. -/
theorem readEnvelope_of_acknowledged {client : ControlWsClient}
    (h : client.acknowledged incoming = some envelope) :
    readEnvelope texts incoming = .ok envelope := by
  unfold acknowledged at h
  split at h
  · split at h
    · rename_i hdecode
      split at h
      · obtain rfl := Option.some.inj h
        rw [readEnvelope, hdecode]
      · cases h
    · cases h
  · cases h

theorem readEvent_of_readEnvelope (h : readEnvelope texts incoming = .ok envelope) :
    readEvent texts incoming =
      if envelope.msgType = "error" then .error (formatControlError texts envelope.payload)
      else decodeControlWsEvent texts envelope := by
  rw [readEvent, h]
  rfl

/-- A reader that waits for an answer takes up the events that `read_event` would. -/
theorem readReply_eq_event {α : Type} {expectedType : String} {decode : Json → Except String α}
    (hexpected : controlEventTypes.contains expectedType = false) (event : ControlWsEvent) :
    readReply texts expectedType decode incoming = .ok (.event event) ↔
      readEvent texts incoming = .ok event := by
  cases hread : readEnvelope texts incoming with
  | error err => simp [readReply, readEvent, hread, bind, Except.bind]
  | ok response =>
    rw [readEvent_of_readEnvelope hread, readReply, hread]
    change (if response.msgType = "error" then _ else _) = _ ↔ _
    by_cases herror : response.msgType = "error"
    · simp [herror]
    rw [if_neg herror, if_neg herror]
    by_cases hanswer : response.msgType = expectedType
    · rw [if_pos hanswer, decodeControlWsEvent_other texts
        (by rw [Envelope.isControlEvent, hanswer, hexpected])]
      cases decode response.payload <;> simp
    · rw [if_neg hanswer]
      cases decodeControlWsEvent texts response <;> simp

/-- How a waiting reader's replies stand to what `read_event` would give. -/
def AgreesOnEvents {α : Type} (texts : ControlTexts) (incoming : Incoming)
    (reply : Except String (Reply α)) : Prop :=
  ∀ event, reply = .ok (.event event) ↔ readEvent texts incoming = .ok event

theorem agrees_readPong : AgreesOnEvents texts incoming (readPong texts incoming) :=
  readReply_eq_event (by decide)

theorem agrees_readHelloAck : AgreesOnEvents texts incoming (readHelloAck texts incoming) :=
  readReply_eq_event (by decide)

theorem agrees_readNetworkMap : AgreesOnEvents texts incoming (readNetworkMap texts incoming) :=
  readReply_eq_event (by decide)

end ControlWsClient

namespace Sync

/-! ## Where the events are -/

/-- The events that wait for a later step, in the stored client or in the running call. -/
def inHand (s : Sync) : List Received := s.facade.queued ++ s.phase.held

def locations (s : Sync) : List Nat := s.applied ++ s.inHand.map Received.serial

/-- The event that a read brings. -/
def takenBy (texts : ControlTexts) (s : Sync) : SyncAction → List Received
  | .read incoming _ =>
    match ControlWsClient.readEvent texts incoming with
    | .ok event => [⟨s.reads, event⟩]
    | .error _ => []
  | _ => []

/-- The events that a step throws away: all that the call holds when it returns with an error,
those queued in the stored client when a fresh one takes its place, and those drained before a
switch to another network that do not ask for it. -/
def lost (texts : ControlTexts) (s : Sync) (a : SyncAction) : List Received :=
  match s.phase, s.advance texts a with
  | phase, some (_, .error _) => phase.held
  | .draining _ (some _) _ _ _, some (_, .ok (.finishing _ _ _)) => s.facade.queued
  | .finishing _ update events, some (_, .ok _) =>
    events.filter fun received => !s.takenUp update received.event
  | _, _ => []

/-- The drain is over, and its events are not yet in the snapshot. -/
def isFinishing : SyncPhase → Bool
  | .finishing _ _ _ => true
  | _ => false

section Step

variable {texts : ControlTexts} {s t : Sync} {a : SyncAction}

theorem takenBy_read {incoming : Incoming} {failure : Option String} {event : ControlWsEvent}
    (h : ControlWsClient.readEvent texts incoming = .ok event) :
    s.takenBy texts (.read incoming failure) = [⟨s.reads, event⟩] := by
  rw [takenBy, h]

theorem takenBy_read_none {incoming : Incoming} {failure : Option String}
    (h : ∀ event, ControlWsClient.readEvent texts incoming ≠ .ok event) :
    s.takenBy texts (.read incoming failure) = [] := by
  rw [takenBy]
  split
  · rename_i event hevent
    exact absurd hevent (h event)
  · rfl

theorem queued_withClient (facade : Facade) (client : ControlWsClient) :
    (facade.withClient client).queued = client.queuedEvents := rfl

/-- A step that returns an error drops what the call holds. -/
theorem conserves_error {facade : Facade} {err : String}
    (hadv : s.advance texts a = some (facade, .error err))
    (htaken : s.takenBy texts a = []) (hqueued : facade.queued = s.facade.queued) :
    (s.takenBy texts a ++ s.inHand).Perm
      (s.lost texts a ++ s.appliedBy texts a ++
        (facade.queued ++ (phaseAfter (.error err)).held)) := by
  have hlost : s.lost texts a = s.phase.held := by
    unfold lost
    rw [hadv]
  have happlied : s.appliedBy texts a = [] := by
    unfold appliedBy
    rw [hadv]
    split <;> simp_all
  rw [hlost, happlied, htaken, hqueued, inHand]
  simpa [phaseAfter, SyncPhase.held] using List.perm_append_comm

/-- A step that goes on keeps what there is, but for the ends of a drain and of a call. -/
theorem conserves_going {facade : Facade} {phase : SyncPhase}
    (hadv : s.advance texts a = some (facade, .ok phase))
    (hbefore : isFinishing s.phase = false) (hafter : isFinishing phase = false)
    (hkeeps : (s.takenBy texts a ++ s.inHand).Perm (facade.queued ++ phase.held)) :
    (s.takenBy texts a ++ s.inHand).Perm
      (s.lost texts a ++ s.appliedBy texts a ++ (facade.queued ++ (phaseAfter (.ok phase)).held)) := by
  have hlost : s.lost texts a = [] := by
    unfold lost
    rw [hadv]
    split
    · simp_all
    · rename_i hphase
      simp only [Option.some.injEq, Prod.mk.injEq, Except.ok.injEq] at hphase
      rw [hphase.2] at hafter
      cases hafter
    · rename_i hphase _
      rw [hphase] at hbefore
      cases hbefore
    · rfl
  have happlied : s.appliedBy texts a = [] := by
    unfold appliedBy
    split
    · rename_i hphase _
      rw [hphase] at hbefore
      cases hbefore
    · rfl
  rw [hlost, happlied]
  exact hkeeps

theorem conserves_endDrain {config : ControlWsConfig}
    {fresh : Option (ControlWsClient × NodeHelloAck)} {networkMap : NetworkMap} {left : Nat}
    {events : List Received} {failure : Option String}
    (hphase : s.phase = .draining config fresh networkMap left events)
    (hadv : s.advance texts a = some (s.endDrain config fresh networkMap events failure))
    (htaken : s.takenBy texts a = []) :
    (s.takenBy texts a ++ s.inHand).Perm
      (s.lost texts a ++ s.appliedBy texts a ++
        ((s.endDrain config fresh networkMap events failure).1.queued ++
          (phaseAfter (s.endDrain config fresh networkMap events failure).2).held)) := by
  have happlied : s.appliedBy texts a = [] := by
    unfold appliedBy
    rw [hphase]
  cases failure with
  | some err => exact conserves_error hadv htaken rfl
  | none =>
    cases fresh with
    | none =>
      have hlost : s.lost texts a = [] := by
        unfold lost
        rw [hphase, hadv]
        rfl
      rw [htaken, hlost, happlied, inHand, hphase]
      exact List.Perm.refl _
    | some fresh =>
      have hlost : s.lost texts a = s.facade.queued := by
        unfold lost
        rw [hphase, hadv]
        rfl
      rw [htaken, hlost, happlied, inHand, hphase]
      have hswap : (events ++ fresh.1.queuedEvents).Perm (fresh.1.queuedEvents ++ events) :=
        List.perm_append_comm
      simpa [endDrain, phaseAfter, SyncPhase.held, queued_withClient] using
        hswap.append_left s.facade.queued

theorem queued_of_stored {client : ControlWsClient} (h : s.facade.controlWs = some client) :
    s.facade.queued = client.queuedEvents := by
  rw [Facade.queued, h]
  rfl

theorem perm_enqueued (received : Received) (queued held : List Received) :
    ([received] ++ (queued ++ held)).Perm (queued ++ [received] ++ held) := by
  simpa using List.perm_middle.symm

theorem perm_drained (received : Received) (queued held : List Received) :
    ([received] ++ (queued ++ held)).Perm (queued ++ (held ++ [received])) := by
  rw [← List.append_assoc queued]
  exact List.perm_append_comm

/-- A client waits for an answer: it takes up the event that comes instead, or the call goes on
with what it has. -/
theorem conserves_waiting {α : Type} {reply : Except String (Reply α)} {incoming : Incoming}
    {failure : Option String} {facade : Facade} {next : Except String SyncPhase}
    (hreply : ControlWsClient.AgreesOnEvents texts incoming reply)
    (hbefore : isFinishing s.phase = false)
    (hadv : s.advance texts (.read incoming failure) = some (facade, next))
    (hevent : ∀ event, reply = .ok (.event event) →
      ∃ phase, next = .ok phase ∧ isFinishing phase = false ∧
        ([Received.mk s.reads event] ++ s.inHand).Perm (facade.queued ++ phase.held))
    (hother : (∀ event, reply ≠ .ok (.event event)) → facade = s.facade ∧
      ((∃ err, next = .error err) ∨
        ∃ phase, next = .ok phase ∧ isFinishing phase = false ∧ phase.held = s.phase.held)) :
    (s.takenBy texts (.read incoming failure) ++ s.inHand).Perm
      (s.lost texts (.read incoming failure) ++ s.appliedBy texts (.read incoming failure) ++
        (facade.queued ++ (phaseAfter next).held)) := by
  by_cases h : ∃ event, ControlWsClient.readEvent texts incoming = .ok event
  · obtain ⟨event, hread⟩ := h
    obtain ⟨phase, rfl, hafter, hperm⟩ := hevent event ((hreply event).mpr hread)
    apply conserves_going hadv hbefore hafter
    rw [takenBy_read hread]
    exact hperm
  · rw [not_exists] at h
    have htaken : s.takenBy texts (.read incoming failure) = [] := takenBy_read_none h
    have hnone : ∀ event, reply ≠ .ok (.event event) := by
      intro event hevent
      exact h event ((hreply event).mp hevent)
    obtain ⟨rfl, ⟨err, rfl⟩ | ⟨phase, rfl, hafter, hheld⟩⟩ := hother hnone
    · exact conserves_error hadv htaken rfl
    · apply conserves_going hadv hbefore hafter
      rw [htaken, inHand, hheld]
      exact List.Perm.refl _

section Read

variable {client : ControlWsClient} {incoming : Incoming} {failure : Option String}
  {facade : Facade} {next : Except String SyncPhase} {config : ControlWsConfig}

theorem conserves_pinging (hphase : s.phase = .pinging config)
    (hstored : s.facade.controlWs = some client)
    (hadv : s.advance texts (.read incoming failure) = some (facade, next))
    (hread : s.readStep texts client incoming failure = some (facade, next)) :
    (s.takenBy texts (.read incoming failure) ++ s.inHand).Perm
      (s.lost texts (.read incoming failure) ++ s.appliedBy texts (.read incoming failure) ++
        (facade.queued ++ (phaseAfter next).held)) := by
  have hbefore : isFinishing s.phase = false := by
    rw [hphase]
    rfl
  rw [readStep, hphase] at hread
  apply conserves_waiting ControlWsClient.agrees_readPong hbefore hadv
  · intro event hevent
    rw [hevent] at hread
    dsimp only at hread
    obtain ⟨rfl, rfl⟩ := Prod.mk.inj (Option.some.inj hread)
    refine ⟨_, rfl, rfl, ?_⟩
    rw [inHand, queued_of_stored hstored, hphase]
    exact perm_enqueued _ _ _
  · intro hnone
    rw [hphase]
    cases hreply : ControlWsClient.readPong texts incoming with
    | error err =>
      rw [hreply] at hread
      dsimp only at hread
      obtain ⟨rfl, rfl⟩ := Prod.mk.inj (Option.some.inj hread)
      exact ⟨rfl, .inr ⟨_, rfl, rfl, rfl⟩⟩
    | ok reply =>
      cases reply with
      | event event => exact absurd hreply (hnone event)
      | answer pong =>
        rw [hreply] at hread
        dsimp only at hread
        cases failure <;> dsimp only at hread <;>
          obtain ⟨rfl, rfl⟩ := Prod.mk.inj (Option.some.inj hread)
        · exact ⟨rfl, .inr ⟨_, rfl, rfl, rfl⟩⟩
        · exact ⟨rfl, .inr ⟨_, rfl, rfl, rfl⟩⟩

theorem conserves_requesting (hphase : s.phase = .requesting config)
    (hstored : s.facade.controlWs = some client)
    (hadv : s.advance texts (.read incoming failure) = some (facade, next))
    (hread : s.readStep texts client incoming failure = some (facade, next)) :
    (s.takenBy texts (.read incoming failure) ++ s.inHand).Perm
      (s.lost texts (.read incoming failure) ++ s.appliedBy texts (.read incoming failure) ++
        (facade.queued ++ (phaseAfter next).held)) := by
  have hbefore : isFinishing s.phase = false := by
    rw [hphase]
    rfl
  rw [readStep, hphase] at hread
  apply conserves_waiting ControlWsClient.agrees_readNetworkMap hbefore hadv
  · intro event hevent
    rw [hevent] at hread
    obtain ⟨rfl, rfl⟩ := Prod.mk.inj (Option.some.inj hread)
    refine ⟨_, rfl, rfl, ?_⟩
    rw [inHand, queued_of_stored hstored, hphase]
    exact perm_enqueued _ _ _
  · intro hnone
    rw [hphase]
    cases hreply : ControlWsClient.readNetworkMap texts incoming with
    | error err =>
      rw [hreply] at hread
      obtain ⟨rfl, rfl⟩ := Prod.mk.inj (Option.some.inj hread)
      exact ⟨rfl, .inr ⟨_, rfl, rfl, rfl⟩⟩
    | ok reply =>
      cases reply with
      | event event => exact absurd hreply (hnone event)
      | answer networkMap =>
        rw [hreply] at hread
        obtain ⟨rfl, rfl⟩ := Prod.mk.inj (Option.some.inj hread)
        cases failure with
        | none => exact ⟨rfl, .inr ⟨_, rfl, rfl, rfl⟩⟩
        | some err => exact ⟨rfl, .inl ⟨err, rfl⟩⟩

theorem conserves_greeting (hphase : s.phase = .greeting config client)
    (hadv : s.advance texts (.read incoming failure) = some (facade, next))
    (hread : s.readStep texts client incoming failure = some (facade, next)) :
    (s.takenBy texts (.read incoming failure) ++ s.inHand).Perm
      (s.lost texts (.read incoming failure) ++ s.appliedBy texts (.read incoming failure) ++
        (facade.queued ++ (phaseAfter next).held)) := by
  have hbefore : isFinishing s.phase = false := by
    rw [hphase]
    rfl
  rw [readStep, hphase] at hread
  apply conserves_waiting ControlWsClient.agrees_readHelloAck hbefore hadv
  · intro event hevent
    rw [hevent] at hread
    obtain ⟨rfl, rfl⟩ := Prod.mk.inj (Option.some.inj hread)
    refine ⟨_, rfl, rfl, ?_⟩
    rw [inHand, hphase]
    exact perm_drained _ _ _
  · intro hnone
    rw [hphase]
    cases hreply : ControlWsClient.readHelloAck texts incoming with
    | error err =>
      rw [hreply] at hread
      obtain ⟨rfl, rfl⟩ := Prod.mk.inj (Option.some.inj hread)
      exact ⟨rfl, .inl ⟨err, rfl⟩⟩
    | ok reply =>
      cases reply with
      | event event => exact absurd hreply (hnone event)
      | answer ack =>
        rw [hreply] at hread
        obtain ⟨rfl, rfl⟩ := Prod.mk.inj (Option.some.inj hread)
        exact ⟨rfl, .inr ⟨_, rfl, rfl, rfl⟩⟩

theorem conserves_mapping {ack : NodeHelloAck} (hphase : s.phase = .mapping config client ack)
    (hadv : s.advance texts (.read incoming failure) = some (facade, next))
    (hread : s.readStep texts client incoming failure = some (facade, next)) :
    (s.takenBy texts (.read incoming failure) ++ s.inHand).Perm
      (s.lost texts (.read incoming failure) ++ s.appliedBy texts (.read incoming failure) ++
        (facade.queued ++ (phaseAfter next).held)) := by
  have hbefore : isFinishing s.phase = false := by
    rw [hphase]
    rfl
  rw [readStep, hphase] at hread
  apply conserves_waiting ControlWsClient.agrees_readNetworkMap hbefore hadv
  · intro event hevent
    rw [hevent] at hread
    obtain ⟨rfl, rfl⟩ := Prod.mk.inj (Option.some.inj hread)
    refine ⟨_, rfl, rfl, ?_⟩
    rw [inHand, hphase]
    exact perm_drained _ _ _
  · intro hnone
    rw [hphase]
    cases hreply : ControlWsClient.readNetworkMap texts incoming with
    | error err =>
      rw [hreply] at hread
      obtain ⟨rfl, rfl⟩ := Prod.mk.inj (Option.some.inj hread)
      exact ⟨rfl, .inl ⟨err, rfl⟩⟩
    | ok reply =>
      cases reply with
      | event event => exact absurd hreply (hnone event)
      | answer networkMap =>
        rw [hreply] at hread
        obtain ⟨rfl, rfl⟩ := Prod.mk.inj (Option.some.inj hread)
        cases failure with
        | none => exact ⟨rfl, .inr ⟨_, rfl, rfl, rfl⟩⟩
        | some err => exact ⟨rfl, .inl ⟨err, rfl⟩⟩

theorem conserves_draining {fresh : Option (ControlWsClient × NodeHelloAck)}
    {networkMap : NetworkMap} {left : Nat} {events : List Received}
    (hphase : s.phase = .draining config fresh networkMap left events)
    (hreader : s.reader = some client)
    (hadv : s.advance texts (.read incoming failure) = some (facade, next))
    (hread : s.readStep texts client incoming failure = some (facade, next)) :
    (s.takenBy texts (.read incoming failure) ++ s.inHand).Perm
      (s.lost texts (.read incoming failure) ++ s.appliedBy texts (.read incoming failure) ++
        (facade.queued ++ (phaseAfter next).held)) := by
  have hbefore : isFinishing s.phase = false := by
    rw [hphase]
    rfl
  rw [readStep, hphase] at hread
  cases left with
  | zero => cases hread
  | succ left =>
    dsimp only at hread
    split at hread
    swap
    · cases hread
    rename_i hempty
    -- an event goes from the stream into the hands of the drain, an error ends it or the sync
    cases hevent : ControlWsClient.readEvent texts incoming with
    | ok event =>
      rw [hevent] at hread
      obtain ⟨rfl, rfl⟩ := Prod.mk.inj (Option.some.inj hread)
      apply conserves_going hadv hbefore rfl
      rw [takenBy_read hevent, inHand, hphase]
      cases fresh with
      | none => exact perm_drained _ _ _
      | some fresh =>
        rw [reader, hphase] at hreader
        obtain rfl : fresh.1 = client := Option.some.inj hreader
        simpa [SyncPhase.held, hempty] using
          perm_drained ⟨s.reads, event⟩ s.facade.queued events
    | error err =>
      have htaken : s.takenBy texts (.read incoming failure) = [] := by
        apply takenBy_read_none
        intro event hok
        rw [hevent] at hok
        cases hok
      rw [hevent] at hread
      dsimp only at hread
      split at hread
      · have hend := Option.some.inj hread
        rw [← hread] at hadv
        have hconserves := conserves_endDrain hphase hadv htaken
        rw [hend] at hconserves
        exact hconserves
      · obtain ⟨rfl, rfl⟩ := Prod.mk.inj (Option.some.inj hread)
        exact conserves_error hadv htaken rfl

theorem conserves_read
    (hadv : s.advance texts (.read incoming failure) = some (facade, next)) :
    (s.takenBy texts (.read incoming failure) ++ s.inHand).Perm
      (s.lost texts (.read incoming failure) ++ s.appliedBy texts (.read incoming failure) ++
        (facade.queued ++ (phaseAfter next).held)) := by
  have hstep := hadv
  rw [advance] at hstep
  split at hstep
  swap
  · cases hstep
  rename_i client hreader
  have hreading := hreader
  unfold reader at hreading
  split at hreading
  · rename_i config hphase
    exact conserves_pinging hphase hreading hadv hstep
  · rename_i config hphase
    exact conserves_requesting hphase hreading hadv hstep
  · rename_i hphase
    exact conserves_draining hphase hreader hadv hstep
  · rename_i hphase
    obtain rfl := Option.some.inj hreading
    exact conserves_greeting hphase hadv hstep
  · rename_i hphase
    obtain rfl := Option.some.inj hreading
    exact conserves_mapping hphase hadv hstep
  · rename_i hphase
    exact conserves_draining hphase hreader hadv hstep
  · cases hreading

end Read

theorem conserves_connect {upgrade : Except String Unit} {failure : Option String}
    {facade : Facade} {next : Except String SyncPhase}
    (hadv : s.advance texts (.connect upgrade failure) = some (facade, next)) :
    (s.takenBy texts (.connect upgrade failure) ++ s.inHand).Perm
      (s.lost texts (.connect upgrade failure) ++ s.appliedBy texts (.connect upgrade failure) ++
        (facade.queued ++ (phaseAfter next).held)) := by
  have hstep := hadv
  rw [advance] at hstep
  split at hstep
  swap
  · cases hstep
  rename_i config hphase
  have hbefore : isFinishing s.phase = false := by
    rw [hphase]
    rfl
  split at hstep
  · rename_i client hconnect
    -- a fresh client has nothing queued
    have hempty : client.queuedEvents = [] := by
      rw [ControlWsClient.connect] at hconnect
      cases hurl : parseWsUrl config.wsUrl with
      | error err =>
        rw [hurl] at hconnect
        cases hconnect
      | ok _ =>
        rw [hurl] at hconnect
        cases upgrade with
        | error err => cases hconnect
        | ok _ =>
          obtain rfl := Except.ok.inj hconnect
          rfl
    cases failure with
    | some err =>
      obtain ⟨rfl, rfl⟩ := Prod.mk.inj (Option.some.inj hstep)
      exact conserves_error hadv rfl rfl
    | none =>
      obtain ⟨rfl, rfl⟩ := Prod.mk.inj (Option.some.inj hstep)
      apply conserves_going hadv hbefore rfl
      rw [inHand, hphase, SyncPhase.held, hempty]
      exact List.Perm.refl _
  · obtain ⟨rfl, rfl⟩ := Prod.mk.inj (Option.some.inj hstep)
    exact conserves_error hadv rfl rfl

theorem conserves_call {failure : Option String} {facade : Facade}
    {next : Except String SyncPhase}
    (hadv : s.advance texts (.call failure) = some (facade, next)) :
    (s.takenBy texts (.call failure) ++ s.inHand).Perm
      (s.lost texts (.call failure) ++ s.appliedBy texts (.call failure) ++
        (facade.queued ++ (phaseAfter next).held)) := by
  have hstep := hadv
  rw [advance] at hstep
  split at hstep
  swap
  · cases hstep
  rename_i hphase
  have hbefore : isFinishing s.phase = false := by
    rw [hphase]
    rfl
  split at hstep
  · obtain ⟨rfl, rfl⟩ := Prod.mk.inj (Option.some.inj hstep)
    exact conserves_error hadv rfl rfl
  · split at hstep <;> obtain ⟨rfl, rfl⟩ := Prod.mk.inj (Option.some.inj hstep)
    · apply conserves_going hadv hbefore rfl
      rw [inHand, hphase]
      exact List.Perm.refl _
    · apply conserves_going hadv hbefore rfl
      rw [inHand, hphase]
      exact List.Perm.refl _

theorem conserves_pop {facade : Facade} {next : Except String SyncPhase}
    (hadv : s.advance texts .pop = some (facade, next)) :
    (s.takenBy texts .pop ++ s.inHand).Perm
      (s.lost texts .pop ++ s.appliedBy texts .pop ++
        (facade.queued ++ (phaseAfter next).held)) := by
  have hstep := hadv
  rw [advance] at hstep
  split at hstep
  swap
  · cases hstep
  rename_i config fresh networkMap left events client hphase hreader
  have hbefore : isFinishing s.phase = false := by
    rw [hphase]
    rfl
  rw [reader, hphase] at hreader
  split at hstep
  · cases hstep
  rename_i received rest hqueue
  cases fresh with
  | none =>
    obtain ⟨rfl, rfl⟩ := Prod.mk.inj (Option.some.inj hstep)
    apply conserves_going hadv hbefore rfl
    rw [inHand, hphase, queued_of_stored hreader, hqueue]
    exact perm_drained received rest events
  | some fresh =>
    obtain rfl : fresh.1 = client := Option.some.inj hreader
    obtain ⟨rfl, rfl⟩ := Prod.mk.inj (Option.some.inj hstep)
    apply conserves_going hadv hbefore rfl
    rw [inHand, hphase]
    simp [SyncPhase.held, takenBy, hqueue]

theorem conserves_drained {failure : Option String} {facade : Facade}
    {next : Except String SyncPhase}
    (hadv : s.advance texts (.drained failure) = some (facade, next)) :
    (s.takenBy texts (.drained failure) ++ s.inHand).Perm
      (s.lost texts (.drained failure) ++ s.appliedBy texts (.drained failure) ++
        (facade.queued ++ (phaseAfter next).held)) := by
  have hstep := hadv
  rw [advance] at hstep
  split at hstep
  swap
  · cases hstep
  rename_i hphase
  have hend := Option.some.inj hstep
  rw [← hstep] at hadv
  have hconserves := conserves_endDrain hphase hadv rfl
  rw [hend] at hconserves
  exact hconserves

theorem conserves_finish {controller : Controller} {facade : Facade}
    {next : Except String SyncPhase}
    (hadv : s.advance texts (.finish controller) = some (facade, next)) :
    (s.takenBy texts (.finish controller) ++ s.inHand).Perm
      (s.lost texts (.finish controller) ++ s.appliedBy texts (.finish controller) ++
        (facade.queued ++ (phaseAfter next).held)) := by
  have hstep := hadv
  rw [advance] at hstep
  split at hstep
  swap
  · cases hstep
  rename_i config update events hphase
  -- the events split into those that the snapshot takes up and the others
  have hsplit : ∀ {facade : Facade} {phase : SyncPhase}, facade.queued = s.facade.queued →
      phase.held = [] → s.advance texts (.finish controller) = some (facade, .ok phase) →
      (s.takenBy texts (.finish controller) ++ s.inHand).Perm
        (s.lost texts (.finish controller) ++ s.appliedBy texts (.finish controller) ++
          (facade.queued ++ phase.held)) := by
    intro facade phase hqueued hheld hadv
    have hlost : s.lost texts (.finish controller) =
        events.filter fun received => !s.takenUp update received.event := by
      unfold lost
      rw [hphase, hadv]
      cases phase <;> rfl
    have happlied : s.appliedBy texts (.finish controller) =
        events.filter fun received => s.takenUp update received.event := by
      unfold appliedBy
      rw [hphase, hadv]
    have hevents := List.filter_append_perm (fun received => s.takenUp update received.event) events
    rw [hlost, happlied, inHand, hphase, hqueued, hheld, List.append_nil]
    change (s.facade.queued ++ events).Perm _
    exact List.perm_append_comm.trans
      ((List.perm_append_comm.trans hevents).symm.append_right s.facade.queued)
  split at hstep
  · obtain ⟨rfl, rfl⟩ := Prod.mk.inj (Option.some.inj hstep)
    exact conserves_error hadv rfl rfl
  · obtain ⟨rfl, rfl⟩ := Prod.mk.inj (Option.some.inj hstep)
    exact hsplit rfl rfl hadv
  · obtain ⟨rfl, rfl⟩ := Prod.mk.inj (Option.some.inj hstep)
    exact hsplit rfl rfl hadv

theorem queued_reapplyTunnel (facade : Facade) (generate : TunnelKeyProvider)
    (manager : TunnelManager) (nowMs : Nat) (reapply : TunnelReapply) :
    (reapplyTunnel facade generate manager nowMs reapply).2.queued = facade.queued := by
  unfold reapplyTunnel
  split
  split
  · rfl
  · split
    · rfl
    · split <;> rfl

theorem conserves_reapply {generate : TunnelKeyProvider} {manager : TunnelManager} {nowMs : Nat}
    {facade : Facade} {next : Except String SyncPhase}
    (hadv : s.advance texts (.reapply generate manager nowMs) = some (facade, next)) :
    (s.takenBy texts (.reapply generate manager nowMs) ++ s.inHand).Perm
      (s.lost texts (.reapply generate manager nowMs) ++
        s.appliedBy texts (.reapply generate manager nowMs) ++
        (facade.queued ++ (phaseAfter next).held)) := by
  have hstep := hadv
  rw [advance] at hstep
  split at hstep
  swap
  · cases hstep
  rename_i reapply hphase
  have hbefore : isFinishing s.phase = false := by
    rw [hphase]
    rfl
  have hqueued := queued_reapplyTunnel s.facade generate manager nowMs reapply
  generalize reapplyTunnel s.facade generate manager nowMs reapply = result at hstep hqueued
  obtain ⟨result, after⟩ := result
  obtain ⟨rfl, rfl⟩ := Prod.mk.inj (Option.some.inj hstep)
  cases result with
  | error err => exact conserves_error hadv rfl hqueued
  | ok _ =>
    apply conserves_going hadv hbefore rfl
    rw [inHand, hphase, hqueued]
    exact List.Perm.refl _

/-- No step duplicates an event, and none disappears but those it is said to lose. -/
theorem conserves {facade : Facade} {next : Except String SyncPhase}
    (hadv : s.advance texts a = some (facade, next)) :
    (s.takenBy texts a ++ s.inHand).Perm
      (s.lost texts a ++ s.appliedBy texts a ++ (facade.queued ++ (phaseAfter next).held)) := by
  cases a with
  | call failure => exact conserves_call hadv
  | connect upgrade failure => exact conserves_connect hadv
  | read incoming failure => exact conserves_read hadv
  | pop => exact conserves_pop hadv
  | drained failure => exact conserves_drained hadv
  | finish controller => exact conserves_finish hadv
  | reapply generate manager nowMs => exact conserves_reapply hadv

end Step

end Sync

end Slan.Client
