import Slan.Control.MessageDelivery

/-! # What becomes of one outbound message -/

namespace Slan.Control

open Transition

/-! ## The rows of one message -/

namespace MessageTables

def pendingOf (db : MessageTables) (id : String) : List ControlOutboundMessage :=
  db.pending.filter fun row => row.messageId == id

def historyOf (db : MessageTables) (id : String) : List ControlMessageHistory :=
  db.history.filter fun row => row.messageId == id

theorem mem_pendingOf {db : MessageTables} {id : String} {row : ControlOutboundMessage} :
    row ∈ db.pendingOf id ↔ row ∈ db.pending ∧ row.messageId = id := by
  rw [pendingOf, List.mem_filter, beq_iff_eq]

theorem pendingOf_create (db : MessageTables) (record : ControlOutboundMessage) (id : String) :
    (db.createControlOutboundMessage record).pendingOf id =
      db.pendingOf id ++ if record.messageId = id then [record] else [] := by
  rw [pendingOf, createControlOutboundMessage, List.filter_append]
  by_cases h : record.messageId = id
  · rw [if_pos h, List.filter_cons_of_pos (by rw [h]; exact beq_self_eq_true id)]
    rfl
  · rw [if_neg h, List.filter_cons_of_neg (by simpa using h)]
    rfl

/-- A change of single rows that keeps their ids. -/
theorem pendingOf_map (db : MessageTables) {f : ControlOutboundMessage → ControlOutboundMessage}
    (hf : ∀ row, (f row).messageId = row.messageId) (id : String) :
    pendingOf { db with pending := db.pending.map f } id = (db.pendingOf id).map f := by
  rw [pendingOf, List.filter_map, pendingOf]
  congr 1
  apply List.filter_congr
  intro row _
  rw [Function.comp_apply, hf]

theorem pendingOf_map_other (db : MessageTables)
    {f : ControlOutboundMessage → ControlOutboundMessage}
    (hf : ∀ row, (f row).messageId = row.messageId) {id : String}
    (hid : ∀ row, row.messageId = id → f row = row) :
    pendingOf { db with pending := db.pending.map f } id = db.pendingOf id := by
  rw [db.pendingOf_map hf]
  conv_rhs => rw [← List.map_id (db.pendingOf id)]
  apply List.map_congr_left
  intro row hrow
  exact hid row (mem_pendingOf.mp hrow).2

theorem pendingOf_update (db : MessageTables) (messageId : String) (attemptCount : Nat)
    (attemptedAt : Int) (id : String) :
    (db.updateControlOutboundMessageAttempt messageId attemptCount attemptedAt).pendingOf id =
      (db.pendingOf id).map fun row =>
        if row.messageId = messageId ∧ row.status = "pending" then
          { row with attemptCount, lastAttemptAt := attemptedAt, updatedAt := attemptedAt }
        else row := by
  apply db.pendingOf_map
  intro row
  split <;> rfl

theorem pendingOf_update_other (db : MessageTables) {messageId : String} (attemptCount : Nat)
    (attemptedAt : Int) {id : String} (h : messageId ≠ id) :
    (db.updateControlOutboundMessageAttempt messageId attemptCount attemptedAt).pendingOf id =
      db.pendingOf id := by
  apply db.pendingOf_map_other
  · intro row
    split <;> rfl
  · intro row hrow
    rw [if_neg]
    intro hboth
    exact h (hboth.1.symm.trans hrow)

theorem pendingOf_archive (db : MessageTables) (record : ControlOutboundMessage)
    (finalStatus failureReason : String) (archivedAt : Int) (id : String) :
    (db.archiveControlOutboundMessage record finalStatus failureReason archivedAt).pendingOf id =
      if record.messageId = id then [] else db.pendingOf id := by
  rw [pendingOf, archiveControlOutboundMessage, List.filter_filter]
  by_cases h : record.messageId = id
  · rw [if_pos h, List.filter_eq_nil_iff]
    intro row _ hrow
    simp [h] at hrow
  · rw [if_neg h, pendingOf]
    apply List.filter_congr
    intro row _
    by_cases hrow : row.messageId = id
    · simp [hrow, Ne.symm h]
    · simp [hrow]

theorem historyOf_archive (db : MessageTables) (record : ControlOutboundMessage)
    (finalStatus failureReason : String) (archivedAt : Int) (id : String) :
    ∃ entry : ControlMessageHistory, entry.attemptCount = record.attemptCount ∧
      entry.finalStatus = finalStatus ∧ entry.ackedAt = record.ackedAt ∧
      (db.archiveControlOutboundMessage record finalStatus failureReason archivedAt).history =
        db.history ++ [entry] ∧
      (db.archiveControlOutboundMessage record finalStatus failureReason archivedAt).historyOf id =
        db.historyOf id ++ if record.messageId = id then [entry] else [] := by
  refine ⟨_, rfl, rfl, rfl, rfl, ?_⟩
  rw [historyOf, archiveControlOutboundMessage, List.filter_append]
  by_cases h : record.messageId = id
  · rw [if_pos h, List.filter_cons_of_pos (by rw [h]; exact beq_self_eq_true id)]
    rfl
  · rw [if_neg h, List.filter_cons_of_neg (by simpa using h)]
    rfl

/-- An acknowledgement is refused, or marks the row that it reads. -/
theorem ack_cases (db : MessageTables) (messageId targetUserId : String) (ackedAt : Int) :
    (db.ackControlOutboundMessage messageId targetUserId ackedAt = (none, db)) ∨
    ∃ record ∈ db.pending, record.messageId = messageId ∧ record.status = "pending" ∧
      (targetUserId = "" ∨ record.targetUserId = "" ∨ record.targetUserId = targetUserId) ∧
      db.ackControlOutboundMessage messageId targetUserId ackedAt =
        (some record, { db with pending := db.pending.map fun row =>
          if row.messageId = messageId ∧ row.status = "pending" then
            { row with status := "acked", ackedAt, updatedAt := ackedAt }
          else row }) := by
  unfold ackControlOutboundMessage
  cases hfind : db.pending.find? fun row => row.messageId == messageId && row.status == "pending" with
  | none => exact .inl rfl
  | some record =>
    have hfound := List.find?_some hfind
    rw [Bool.and_eq_true, beq_iff_eq, beq_iff_eq] at hfound
    dsimp only
    by_cases huser : targetUserId ≠ "" ∧ record.targetUserId ≠ "" ∧
        record.targetUserId ≠ targetUserId
    · rw [if_pos huser]
      exact .inl rfl
    · rw [if_neg huser]
      refine .inr ⟨record, List.mem_of_find?_eq_some hfind, hfound.1, hfound.2, ?_, rfl⟩
      tauto

end MessageTables

namespace Delivery

/-- An acknowledgement is refused, or hands on the row that it marks. -/
theorem of_step_ack {s t : Delivery} {i : Nat} {targetUserId messageId : String}
    (h : s.step (.ack i targetUserId messageId) = some t) :
    t = s ∨ ∃ record ∈ s.db.pending, record.messageId = messageId ∧ record.status = "pending" ∧
      (targetUserId = "" ∨ record.targetUserId = "" ∨ record.targetUserId = targetUserId) ∧
      t = { s with
        db := { s.db with pending := s.db.pending.map fun row =>
          if row.messageId = messageId ∧ row.status = "pending" then
            { row with status := "acked", ackedAt := s.now, updatedAt := s.now }
          else row }
        acking := (i, record, s.now) :: s.acking
        acked := (messageId, s.now) :: s.acked } := by
  rw [step] at h
  rcases s.db.ack_cases messageId targetUserId s.now with hack | ⟨record, hmem, hid, hstatus, huser,
    hack⟩
  · rw [hack] at h
    exact .inl (Option.some.inj h).symm
  · rw [hack] at h
    exact .inr ⟨record, hmem, hid, hstatus, huser, (Option.some.inj h).symm⟩

/-! ## What is known about one message -/

/-- All that a run holds about one message. -/
structure MessageView where
  pending : List ControlOutboundMessage
  history : List ControlMessageHistory
  sending : Nat
  resent : List (Nat × ControlOutboundMessage)
  acking : Nat
  created : Bool
  written : Nat
  acked : List Int
  turns : Nat

def About (id : String) (e : Nat × ControlOutboundMessage) : Bool := e.2.messageId == id

def AboutAcking (id : String) (e : Nat × ControlOutboundMessage × Int) : Bool :=
  e.2.1.messageId == id

def view (s : Delivery) (id : String) : MessageView where
  pending := s.db.pendingOf id
  history := s.db.historyOf id
  sending := s.sending.countP (About id)
  resent := s.resent.filter (About id)
  acking := s.acking.countP (AboutAcking id)
  created := s.created.contains id
  written := s.written.count id
  acked := (s.acked.filter fun e => e.1 == id).map Prod.snd
  turns := s.turns.count id

/-- The message that a step is about. -/
def subject (s : Delivery) : DeliveryAction → Option String
  | .sendTracked _ send => some send.messageId
  | .write _ message _ => some message.messageId
  | .archive i => (s.passes i).head?.map ControlOutboundMessage.messageId
  | .resend i _ => (s.passes i).head?.map ControlOutboundMessage.messageId
  | .recordAttempt i => (s.resent.find? fun e => e.1 == i).map fun e => e.2.messageId
  | .ack _ _ messageId => some messageId
  | .archiveAcked _ message _ => some message.messageId
  | _ => none

/-- The instance has nothing of the message in hand. -/
def HoldsNothing (s : Delivery) (i : Nat) (id : String) : Prop :=
  (∀ e ∈ s.sending, e.1 = i → e.2.messageId ≠ id) ∧
    (∀ e ∈ s.resent, e.1 = i → e.2.messageId ≠ id) ∧
    ∀ e ∈ s.acking, e.1 = i → e.2.1.messageId ≠ id

instance (s : Delivery) (i : Nat) (id : String) : Decidable (s.HoldsNothing i id) := by
  unfold HoldsNothing
  infer_instance

section View

variable {s t : Delivery} {id : String} {a : DeliveryAction}

theorem filter_erase_other {α : Type} [BEq α] [LawfulBEq α] {p : α → Bool} {xs : List α} {x : α}
    (h : p x = false) : (xs.erase x).filter p = xs.filter p := by
  rw [← List.erase_filter, List.erase_of_not_mem]
  intro hmem
  rw [(List.mem_filter.mp hmem).2] at h
  cases h

theorem countP_erase_other {α : Type} [BEq α] [LawfulBEq α] {p : α → Bool} {xs : List α} {x : α}
    (h : p x = false) : (xs.erase x).countP p = xs.countP p := by
  rw [List.countP_eq_length_filter, filter_erase_other h, List.countP_eq_length_filter]

theorem filter_filter_of_imp {α : Type} {p q : α → Bool} {xs : List α}
    (h : ∀ x ∈ xs, p x = true → q x = true) : (xs.filter q).filter p = xs.filter p := by
  rw [List.filter_filter]
  apply List.filter_congr
  intro x hx
  cases hp : p x with
  | false => simp
  | true => simp [h x hx hp]

theorem view_noteWrite_other {message : ControlOutboundMessage} (h : message.messageId ≠ id)
    (written : Bool) : (s.noteWrite message written).view id = s.view id := by
  unfold noteWrite
  split
  · simp [view, List.count_cons_of_ne h]
  · rfl

theorem view_archive_other {record : ControlOutboundMessage} (h : record.messageId ≠ id)
    (finalStatus failureReason : String) (archivedAt : Int) :
    view { s with
      db := s.db.archiveControlOutboundMessage record finalStatus failureReason archivedAt } id =
      s.view id := by
  obtain ⟨entry, _, _, _, _, hhistory⟩ :=
    s.db.historyOf_archive record finalStatus failureReason archivedAt id
  have hpending := s.db.pendingOf_archive record finalStatus failureReason archivedAt id
  rw [if_neg h] at hpending
  rw [if_neg h, List.append_nil] at hhistory
  simp only [view, hpending, hhistory]

theorem view_sendTracked_other {i : Nat} {send : TrackedSend} (hne : send.messageId ≠ id)
    (hstep : s.step (.sendTracked i send) = some t) : t.view id = s.view id := by
  obtain ⟨-, rfl⟩ := of_step_sendTracked hstep
  have hpending := s.db.pendingOf_create (send.record s.now) id
  rw [if_neg (show (send.record s.now).messageId ≠ id from hne), List.append_nil] at hpending
  have habout : About id (i, send.record s.now) = false := beq_eq_false_iff_ne.mpr hne
  have hcreated : (send.messageId :: s.created).contains id = s.created.contains id := by
    rw [List.contains_cons, beq_eq_false_iff_ne.mpr (Ne.symm hne), Bool.false_or]
  simp only [view, hpending, hcreated, List.countP_cons, habout]
  rfl

theorem view_write_other {i : Nat} {message : ControlOutboundMessage} {written : Bool}
    (hne : message.messageId ≠ id) (hstep : s.step (.write i message written) = some t) :
    t.view id = s.view id := by
  obtain ⟨-, rfl⟩ := of_step_write hstep
  have habout : About id (i, message) = false := beq_eq_false_iff_ne.mpr hne
  have hsending : (s.noteWrite message written).sending = s.sending := by
    unfold noteWrite
    split <;> rfl
  rw [← view_noteWrite_other (s := s) hne written]
  simp only [view, countP_erase_other habout, hsending]

theorem view_resend_other {i : Nat} {written : Bool} {message : ControlOutboundMessage}
    (rest : List ControlOutboundMessage) (hne : message.messageId ≠ id) :
    view { (s.noteWrite message written).setPass i rest with
      resent := (i, message) :: s.resent } id = s.view id := by
  have habout : About id (i, message) = false := beq_eq_false_iff_ne.mpr hne
  have hresent : (s.noteWrite message written).resent = s.resent := by
    unfold noteWrite
    split <;> rfl
  rw [← view_noteWrite_other (s := s) hne written]
  simp only [view, List.filter_cons, habout, hresent]
  rfl

theorem view_ack_other {i : Nat} {targetUserId messageId : String} (hne : messageId ≠ id)
    (hstep : s.step (.ack i targetUserId messageId) = some t) : t.view id = s.view id := by
  rcases of_step_ack hstep with rfl | ⟨record, -, hrecord, -, -, rfl⟩
  · rfl
  · have hpending := s.db.pendingOf_map_other
      (f := fun row => if row.messageId = messageId ∧ row.status = "pending" then
        { row with status := "acked", ackedAt := s.now, updatedAt := s.now } else row)
      (fun row => by split <;> rfl)
      (fun row hrow => if_neg fun hboth => hne (hboth.1.symm.trans hrow))
    have hbeq : (messageId == id) = false := beq_eq_false_iff_ne.mpr hne
    simp only [view, hpending, List.countP_cons, List.filter_cons, AboutAcking, hrecord, hbeq]
    rfl

/-- A server that stops with nothing of the message in hand. -/
theorem view_crash_other {i : Nat} (h : s.HoldsNothing i id)
    (hstep : s.step (.crash i) = some t) : t.view id = s.view id := by
  obtain rfl := Option.some.inj hstep
  obtain ⟨hsending, hresent, hacking⟩ := h
  have hkeeps : ∀ xs : List (Nat × ControlOutboundMessage),
      (∀ e ∈ xs, e.1 = i → e.2.messageId ≠ id) →
      (xs.filter fun e => e.1 != i).filter (About id) = xs.filter (About id) := by
    intro xs hxs
    apply filter_filter_of_imp
    intro e he habout
    rw [bne_iff_ne]
    intro hi
    exact hxs e he hi (beq_iff_eq.mp habout)
  have hackingKeeps : (s.acking.filter fun e => e.1 != i).filter (AboutAcking id) =
      s.acking.filter (AboutAcking id) := by
    apply filter_filter_of_imp
    intro e he habout
    rw [bne_iff_ne]
    intro hi
    exact hacking e he hi (beq_iff_eq.mp habout)
  simp only [view, setPass, List.countP_eq_length_filter, hkeeps _ hsending, hkeeps _ hresent,
    hackingKeeps]

/-- A step about another message changes nothing for this one. -/
theorem view_step_other (hstep : s.step a = some t) (hsubject : s.subject a ≠ some id)
    (hcrash : ∀ i, a = .crash i → s.HoldsNothing i id) : t.view id = s.view id := by
  cases a with
  | tick now =>
    obtain ⟨-, rfl⟩ := of_step_tick hstep
    rfl
  | sendTracked i send =>
    exact view_sendTracked_other (fun heq => hsubject (congrArg some heq)) hstep
  | write i message written =>
    exact view_write_other (fun heq => hsubject (congrArg some heq)) hstep
  | list i =>
    obtain ⟨-, rfl⟩ := of_step_list hstep
    rfl
  | archive i =>
    obtain ⟨message, rest, hpass, -, rfl⟩ := of_step_archive hstep
    have hne : message.messageId ≠ id := by
      rw [subject, hpass] at hsubject
      exact fun heq => hsubject (congrArg some heq)
    rw [← view_archive_other (s := s) hne "undelivered" undeliveredReason s.now]
    simp only [view, List.count_cons_of_ne hne]
    rfl
  | resend i written =>
    obtain ⟨message, rest, hpass, -, rfl⟩ := of_step_resend hstep
    have hne : message.messageId ≠ id := by
      rw [subject, hpass] at hsubject
      exact fun heq => hsubject (congrArg some heq)
    exact view_resend_other rest hne
  | recordAttempt i =>
    obtain ⟨e, hfind, -, rfl⟩ := of_step_recordAttempt hstep
    have hne : e.2.messageId ≠ id := by
      rw [subject, hfind] at hsubject
      exact fun heq => hsubject (congrArg some heq)
    have habout : About id (i, e.2) = false := beq_eq_false_iff_ne.mpr hne
    have hpending := s.db.pendingOf_update_other (e.2.attemptCount + 1) s.now hne
    simp only [view, hpending, filter_erase_other habout, List.count_cons_of_ne hne]
    rfl
  | ack i targetUserId messageId =>
    exact view_ack_other (fun heq => hsubject (congrArg some heq)) hstep
  | archiveAcked i message ackedAt =>
    have hne : message.messageId ≠ id := fun heq => hsubject (congrArg some heq)
    obtain ⟨-, rfl⟩ := of_step_archiveAcked hstep
    have habout : AboutAcking id (i, message, ackedAt) = false := beq_eq_false_iff_ne.mpr hne
    rw [← view_archive_other (s := s) hne "delivered" "" ackedAt]
    simp only [view, countP_erase_other habout]
  | crash i => exact view_crash_other (hcrash i rfl) hstep

end View

/-! ## Turns in the right order -/

/-- The steps that can be about the message keep to their order: nobody acknowledges it, every
write reaches a session, a pass goes on with a row as long as it is as it was listed and in no
other hand, and no server stops with the message in hand. -/
def Orderly (id : String) (s : Delivery) : DeliveryAction → Prop
  | .write _ message written => message.messageId = id → written = true
  | .archive i => ∀ message ∈ (s.passes i).head?, message.messageId = id → message ∈ s.db.pending
  | .resend i written => ∀ message ∈ (s.passes i).head?, message.messageId = id →
    written = true ∧ message ∈ s.db.pending ∧ ∀ e ∈ s.resent, e.2.messageId ≠ id
  | .ack _ targetUserId messageId => messageId = id → ∀ row ∈ s.db.pending, row.messageId = id →
    row.status = "pending" →
      targetUserId ≠ "" ∧ row.targetUserId ≠ "" ∧ row.targetUserId ≠ targetUserId
  | .crash i => s.HoldsNothing i id
  | _ => True

instance (id : String) (s : Delivery) (a : DeliveryAction) : Decidable (Orderly id s a) := by
  cases a <;> dsimp only [Orderly] <;> infer_instance

/-- Nothing is left to do for the message: it waits for no pass, and nobody has it in hand. -/
structure AtRest (s : Delivery) (id : String) : Prop where
  pending : ∀ row ∈ s.db.pending, row.messageId = id → row.status ≠ "pending"
  sending : ∀ e ∈ s.sending, e.2.messageId ≠ id
  resent : ∀ e ∈ s.resent, e.2.messageId ≠ id
  acking : ∀ e ∈ s.acking, e.2.1.messageId ≠ id

/-- The message is in the history, once and as it went, and no longer in the pending table. -/
structure Settled (s : Delivery) (id : String) : Prop where
  pending : ∀ row ∈ s.db.pending, row.messageId ≠ id
  history : ∃ entry, s.db.historyOf id = [entry] ∧ entry.attemptCount = s.written.count id ∧
    (∀ ackedAt, (id, ackedAt) ∈ s.acked →
      entry.finalStatus = "delivered" ∧ entry.ackedAt = ackedAt) ∧
    ((∀ ackedAt, (id, ackedAt) ∉ s.acked) → entry.finalStatus = "undelivered")

/-- The message has not been created. -/
structure Absent (v : MessageView) : Prop where
  pending : v.pending = []
  history : v.history = []
  sending : v.sending = 0
  resent : v.resent = []
  created : v.created = false
  written : v.written = 0
  turns : v.turns = 0

/-- The message waits in the pending table. -/
structure Waiting (v : MessageView) (row : ControlOutboundMessage) : Prop where
  created : v.created = true
  pending : v.pending = [row]
  history : v.history = []
  status : row.status = "pending"
  resent : ∀ e ∈ v.resent, e.2 = row ∧ row.attemptCount < maxAttempts
  once : v.resent.length ≤ 1
  attempts : row.attemptCount ≤ maxAttempts
  written : v.written + v.sending = row.attemptCount + v.resent.length
  turns : v.turns + 1 = row.attemptCount

/-- The message has been given up. -/
structure GivenUp (v : MessageView) (entry : ControlMessageHistory) : Prop where
  created : v.created = true
  pending : v.pending = []
  history : v.history = [entry]
  status : entry.finalStatus = "undelivered"
  resent : v.resent = []
  written : v.written + v.sending = entry.attemptCount
  turns : v.turns = maxAttempts

/-- How a message that nobody acknowledges stands. -/
structure Kept (v : MessageView) : Prop where
  acking : v.acking = 0
  acked : v.acked = []
  stands : Absent v ∨ (∃ row, Waiting v row) ∨ ∃ entry, GivenUp v entry

/-! ## One step -/

section Step

variable {s t : Delivery} {id : String} {v : MessageView} {row : ControlOutboundMessage}

theorem mem_view_pending : row ∈ (s.view id).pending ↔ row ∈ s.db.pending ∧ row.messageId = id :=
  MessageTables.mem_pendingOf

theorem mem_view_resent {e : Nat × ControlOutboundMessage} :
    e ∈ (s.view id).resent ↔ e ∈ s.resent ∧ e.2.messageId = id := by
  rw [view, List.mem_filter, About, beq_iff_eq]

/-- A row in the table belongs to a waiting message. -/
theorem Kept.waiting_of_mem (h : Kept (s.view id)) (hrow : row ∈ s.db.pending)
    (hid : row.messageId = id) : Waiting (s.view id) row := by
  have hmem : row ∈ (s.view id).pending := mem_view_pending.mpr ⟨hrow, hid⟩
  rcases h.stands with habsent | ⟨row', hwaiting⟩ | ⟨entry, hgiven⟩
  · rw [habsent.pending] at hmem
    cases hmem
  · rw [hwaiting.pending] at hmem
    rw [List.mem_singleton.mp hmem]
    exact hwaiting
  · rw [hgiven.pending] at hmem
    cases hmem

/-- A row between resend and record belongs to a waiting message. -/
theorem Kept.waiting_of_resent (h : Kept (s.view id)) {e : Nat × ControlOutboundMessage}
    (he : e ∈ s.resent) (hid : e.2.messageId = id) :
    Waiting (s.view id) e.2 ∧ (s.view id).resent = [e] := by
  have hmem : e ∈ (s.view id).resent := mem_view_resent.mpr ⟨he, hid⟩
  rcases h.stands with habsent | ⟨row, hwaiting⟩ | ⟨entry, hgiven⟩
  · rw [habsent.resent] at hmem
    cases hmem
  · refine ⟨(hwaiting.resent e hmem).1 ▸ hwaiting, ?_⟩
    obtain ⟨e', he'⟩ : ∃ e', (s.view id).resent = [e'] := by
      apply List.length_eq_one_iff.mp
      have hpos := List.length_pos_of_mem hmem
      have honce := hwaiting.once
      omega
    rw [he'] at hmem ⊢
    rw [List.mem_singleton.mp hmem]
  · rw [hgiven.resent] at hmem
    cases hmem

theorem Kept.sendTracked (h : Kept (s.view id)) {i : Nat} {send : TrackedSend}
    (hid : send.messageId = id) (hstep : s.step (.sendTracked i send) = some t) :
    Kept (t.view id) := by
  obtain ⟨hnew, rfl⟩ := of_step_sendTracked hstep
  have hcreated : (s.view id).created = false := by
    rw [view, ← hid, List.contains_eq_mem, decide_eq_false_iff_not]
    exact hnew
  have hrecord : (send.record s.now).messageId = id := hid
  rcases h.stands with habsent | ⟨row, hwaiting⟩ | ⟨entry, hgiven⟩
  · refine ⟨h.acking, h.acked, .inr (.inl ⟨send.record s.now, ?_⟩)⟩
    have hpending := s.db.pendingOf_create (send.record s.now) id
    rw [if_pos hrecord, show s.db.pendingOf id = [] from habsent.pending] at hpending
    have hsending : List.countP (About id) ((i, send.record s.now) :: s.sending) = 1 := by
      rw [List.countP_cons, show s.sending.countP (About id) = 0 from habsent.sending,
        show About id (i, send.record s.now) = true from beq_iff_eq.mpr hrecord]
      rfl
    have hresent : s.resent.filter (About id) = [] := habsent.resent
    have hwritten : s.written.count id = 0 := habsent.written
    have hturns : s.turns.count id = 0 := habsent.turns
    have hfirst : (send.record s.now).attemptCount = 1 := rfl
    refine ⟨?_, hpending, habsent.history, rfl, ?_, ?_, ?_, ?_, ?_⟩
    · simp [view, hid]
    · simp [view, hresent]
    · simp [view, hresent]
    · rw [hfirst]
      decide
    · simp [view, hresent, hwritten, hsending, hfirst]
    · simp [view, hturns, hfirst]
  · rw [hwaiting.created] at hcreated
    cases hcreated
  · rw [hgiven.created] at hcreated
    cases hcreated

theorem countP_erase_own {α : Type} [BEq α] [LawfulBEq α] {p : α → Bool} {xs : List α} {x : α}
    (hx : x ∈ xs) (h : p x = true) : (xs.erase x).countP p + 1 = xs.countP p := by
  rw [(List.perm_cons_erase hx).countP_eq p, List.countP_cons, h]
  rfl

theorem Kept.write (h : Kept (s.view id)) {i : Nat} {message : ControlOutboundMessage}
    (hid : message.messageId = id) (hstep : s.step (.write i message true) = some t) :
    Kept (t.view id) := by
  obtain ⟨hmem, rfl⟩ := of_step_write hstep
  have hsending : (s.sending.erase (i, message)).countP (About id) + 1 = (s.view id).sending :=
    countP_erase_own hmem (beq_iff_eq.mpr hid)
  have hwritten : (message.messageId :: s.written).count id = (s.view id).written + 1 := by
    rw [hid, List.count_cons_self]
    rfl
  refine ⟨h.acking, h.acked, ?_⟩
  rcases h.stands with habsent | ⟨row, hw⟩ | ⟨entry, hg⟩
  · rw [habsent.sending] at hsending
    omega
  · refine .inr (.inl ⟨row, hw.created, hw.pending, hw.history, hw.status, hw.resent, hw.once,
      hw.attempts, ?_, hw.turns⟩)
    have hbalance := hw.written
    simp only [view, noteWrite, if_true] at hbalance hsending hwritten ⊢
    omega
  · refine .inr (.inr ⟨entry, hg.created, hg.pending, hg.history, hg.status, hg.resent, ?_,
      hg.turns⟩)
    have hbalance := hg.written
    simp only [view, noteWrite, if_true] at hbalance hsending hwritten ⊢
    omega

theorem Kept.archive (h : Kept (s.view id)) {i : Nat} {message : ControlOutboundMessage}
    {rest : List ControlOutboundMessage} (hid : message.messageId = id)
    (hrow : message ∈ s.db.pending) (hlast : maxAttempts ≤ message.attemptCount) :
    Kept (view { s.setPass i rest with
      db := s.db.archiveControlOutboundMessage message "undelivered" undeliveredReason s.now
      turns := message.messageId :: s.turns } id) := by
  have hw := h.waiting_of_mem hrow hid
  obtain ⟨entry, hcount, hstatus, _, _, hhistory⟩ :=
    s.db.historyOf_archive message "undelivered" undeliveredReason s.now id
  have hpending := s.db.pendingOf_archive message "undelivered" undeliveredReason s.now id
  rw [if_pos hid] at hpending hhistory
  rw [show s.db.historyOf id = [] from hw.history] at hhistory
  have hmax : message.attemptCount = maxAttempts := Nat.le_antisymm hw.attempts hlast
  -- a row on its last attempt is between no resend and its record
  have hresent : (s.view id).resent = [] := by
    apply List.eq_nil_iff_forall_not_mem.mpr
    intro e he
    have hbelow := (hw.resent e he).2
    omega
  have hturns : (message.messageId :: s.turns).count id = (s.view id).turns + 1 := by
    rw [hid, List.count_cons_self]
    rfl
  refine ⟨h.acking, h.acked, .inr (.inr ⟨entry, hw.created, hpending, hhistory, hstatus, hresent,
    ?_, ?_⟩)⟩
  · have hbalance := hw.written
    rw [hresent, List.length_nil, Nat.add_zero] at hbalance
    rw [hcount]
    exact hbalance
  · have hbefore := hw.turns
    have hafter : (message.messageId :: s.turns).count id = maxAttempts := by omega
    exact hafter

theorem Kept.resend (h : Kept (s.view id)) {i : Nat} {message : ControlOutboundMessage}
    {rest : List ControlOutboundMessage} (hid : message.messageId = id)
    (hrow : message ∈ s.db.pending) (hmore : message.attemptCount < maxAttempts)
    (hfree : ∀ e ∈ s.resent, e.2.messageId ≠ id) :
    Kept (view { (s.noteWrite message true).setPass i rest with
      resent := (i, message) :: s.resent } id) := by
  have hw := h.waiting_of_mem hrow hid
  have hnone : (s.view id).resent = [] := by
    apply List.eq_nil_iff_forall_not_mem.mpr
    intro e he
    obtain ⟨hmem, habout⟩ := mem_view_resent.mp he
    exact hfree e hmem habout
  have hresent : ((i, message) :: s.resent).filter (About id) = [(i, message)] := by
    have habout : About id (i, message) = true := beq_iff_eq.mpr hid
    rw [List.filter_cons_of_pos habout]
    exact congrArg _ hnone
  have hwritten : (message.messageId :: s.written).count id = (s.view id).written + 1 := by
    rw [hid, List.count_cons_self]
    rfl
  have hbalance := hw.written
  rw [hnone, List.length_nil] at hbalance
  refine ⟨h.acking, h.acked, .inr (.inl ⟨message, hw.created, hw.pending, hw.history, hw.status,
    fun e he => ?_, ?_, hw.attempts, ?_, hw.turns⟩)⟩
  · have hmem : e ∈ ((i, message) :: s.resent).filter (About id) := he
    rw [hresent, List.mem_singleton] at hmem
    rw [hmem]
    exact ⟨rfl, hmore⟩
  · have hlength : (((i, message) :: s.resent).filter (About id)).length ≤ 1 := by
      rw [hresent]
      exact Nat.le_refl 1
    exact hlength
  · have hlength : (message.messageId :: s.written).count id + (s.view id).sending =
        message.attemptCount + (((i, message) :: s.resent).filter (About id)).length := by
      rw [hresent, List.length_singleton]
      omega
    exact hlength

theorem Kept.recordAttempt (h : Kept (s.view id)) {j : Nat} {message : ControlOutboundMessage}
    (hmem : (j, message) ∈ s.resent) (hid : message.messageId = id) :
    Kept (view { s with
      db := s.db.updateControlOutboundMessageAttempt message.messageId (message.attemptCount + 1)
        s.now
      resent := s.resent.erase (j, message)
      turns := message.messageId :: s.turns } id) := by
  obtain ⟨hw, hresent⟩ := h.waiting_of_resent hmem hid
  have hbelow : message.attemptCount < maxAttempts :=
    (hw.resent (j, message) (mem_view_resent.mpr ⟨hmem, hid⟩)).2
  have hpending := s.db.pendingOf_update message.messageId (message.attemptCount + 1) s.now id
  rw [show s.db.pendingOf id = [message] from hw.pending, List.map_singleton,
    if_pos ⟨rfl, hw.status⟩] at hpending
  have hleft : (s.resent.erase (j, message)).filter (About id) = [] := by
    rw [← List.erase_filter, show s.resent.filter (About id) = [(j, message)] from hresent]
    exact List.erase_cons_head _ _
  have hturns : (message.messageId :: s.turns).count id = (s.view id).turns + 1 := by
    rw [show message.messageId = id from hid, List.count_cons_self]
    rfl
  have hbalance := hw.written
  rw [hresent, List.length_singleton] at hbalance
  refine ⟨h.acking, h.acked, .inr (.inl ⟨_, hw.created, hpending, hw.history, hw.status,
    fun e he => ?_, ?_, hbelow, ?_, ?_⟩)⟩
  · have hnone : e ∈ (s.resent.erase (j, message)).filter (About id) := he
    rw [hleft] at hnone
    cases hnone
  · have hlength : ((s.resent.erase (j, message)).filter (About id)).length ≤ 1 := by
      rw [hleft]
      exact Nat.zero_le 1
    exact hlength
  · have hlength : (s.view id).written + (s.view id).sending = message.attemptCount + 1 +
        ((s.resent.erase (j, message)).filter (About id)).length := by
      rw [hleft, List.length_nil]
      exact hbalance
    exact hlength
  · have hbefore : (s.view id).turns + 1 = message.attemptCount := hw.turns
    have hafter : (message.messageId :: s.turns).count id + 1 = message.attemptCount + 1 := by
      rw [hturns, hbefore]
    exact hafter

/-- An acknowledgement that is refused changes nothing. -/
theorem step_ack_refused {i : Nat} {targetUserId : String}
    (hrefused : ∀ row ∈ s.db.pending, row.messageId = id → row.status = "pending" →
      targetUserId ≠ "" ∧ row.targetUserId ≠ "" ∧ row.targetUserId ≠ targetUserId)
    (hstep : s.step (.ack i targetUserId id) = some t) : t = s := by
  rcases of_step_ack hstep with hsame | ⟨record, hmem, hid, hstatus, huser, -⟩
  · exact hsame
  · obtain ⟨hnamed, hrecord, hother⟩ := hrefused record hmem hid hstatus
    rcases huser with huser | huser | huser
    · exact absurd huser hnamed
    · exact absurd huser hrecord
    · exact absurd huser hother

theorem Kept.step {a : DeliveryAction} (h : Kept (s.view id)) (hok : Orderly id s a)
    (hstep : s.step a = some t) : Kept (t.view id) := by
  by_cases hsubject : s.subject a = some id
  swap
  · have hsame : t.view id = s.view id := by
      apply view_step_other hstep hsubject
      intro i hcrash
      rw [hcrash] at hok
      exact hok
    rw [hsame]
    exact h
  cases a with
  | sendTracked i send => exact h.sendTracked (Option.some.inj hsubject) hstep
  | write i message written =>
    have hid : message.messageId = id := Option.some.inj hsubject
    rw [hok hid] at hstep
    exact h.write hid hstep
  | archive i =>
    obtain ⟨message, hhead, hid⟩ := Option.map_eq_some_iff.mp hsubject
    have hrow := hok message hhead hid
    obtain ⟨message', rest, hpass, hlast, rfl⟩ := of_step_archive hstep
    rw [hpass] at hhead
    obtain rfl := Option.some.inj hhead
    exact h.archive hid hrow hlast
  | resend i written =>
    obtain ⟨message, hhead, hid⟩ := Option.map_eq_some_iff.mp hsubject
    obtain ⟨hwritten, hrow, hfree⟩ := hok message hhead hid
    obtain ⟨message', rest, hpass, hmore, rfl⟩ := of_step_resend hstep
    rw [hpass] at hhead
    obtain rfl := Option.some.inj hhead
    rw [hwritten]
    exact h.resend hid hrow hmore hfree
  | recordAttempt i =>
    obtain ⟨e, hfind, hid⟩ := Option.map_eq_some_iff.mp hsubject
    obtain ⟨e', hfind', rfl, rfl⟩ := of_step_recordAttempt hstep
    obtain rfl := Option.some.inj (hfind.symm.trans hfind')
    exact h.recordAttempt (List.mem_of_find?_eq_some hfind) hid
  | ack i targetUserId messageId =>
    obtain rfl : messageId = id := Option.some.inj hsubject
    rw [step_ack_refused (hok rfl) hstep]
    exact h
  | archiveAcked i message ackedAt =>
    have hid : message.messageId = id := Option.some.inj hsubject
    obtain ⟨hmem, -⟩ := of_step_archiveAcked hstep
    have hnone := List.countP_eq_zero.mp h.acking (i, message, ackedAt) hmem
    exact absurd (beq_iff_eq.mpr hid) hnone
  | tick now => cases hsubject
  | list i => cases hsubject
  | crash i => cases hsubject

end Step

end Delivery

end Slan.Control
