import Slan.Control.MessageLedger

/-! # Every message ends in the history once -/

namespace Slan.Control

open Transition

namespace Delivery

/-! ## Orderly runs -/

section Run

variable {s t : Delivery} {id : String} {now : Int}

theorem kept_start : Kept ((start now).view id) :=
  ⟨rfl, rfl, .inl ⟨rfl, rfl, rfl, rfl, rfl, rfl, rfl⟩⟩

/-- An orderly run keeps the books of the message. -/
theorem kept_of_orderly (hrun : Reachable (guarded (Orderly id) (rel Delivery.step)) (start now) s) :
    Kept (s.view id) := by
  apply hrun.invariant (fun s => Kept (s.view id)) kept_start
  intro s a t hs hstep
  exact hs.step hstep.1 hstep.2

theorem view_sending_eq_zero : (s.view id).sending = 0 ↔ ∀ e ∈ s.sending, e.2.messageId ≠ id := by
  have hcount : (s.view id).sending = s.sending.countP (About id) := rfl
  rw [hcount, List.countP_eq_zero]
  apply forall₂_congr
  intro e _
  rw [About, beq_iff_eq]

theorem GivenUp.atRest {entry : ControlMessageHistory} (h : GivenUp (s.view id) entry)
    (hacking : (s.view id).acking = 0) (hsending : ∀ e ∈ s.sending, e.2.messageId ≠ id) :
    s.AtRest id where
  pending row hrow hid := by
    have hmem : row ∈ (s.view id).pending := mem_view_pending.mpr ⟨hrow, hid⟩
    rw [h.pending] at hmem
    cases hmem
  sending := hsending
  resent e he hid := by
    have hmem : e ∈ (s.view id).resent := mem_view_resent.mpr ⟨he, hid⟩
    rw [h.resent] at hmem
    cases hmem
  acking e he hid := List.countP_eq_zero.mp hacking e he (beq_iff_eq.mpr hid)

theorem GivenUp.settled {entry : ControlMessageHistory} (h : GivenUp (s.view id) entry)
    (hacked : (s.view id).acked = []) (hsending : ∀ e ∈ s.sending, e.2.messageId ≠ id) :
    s.Settled id where
  pending row hrow hid := by
    have hmem : row ∈ (s.view id).pending := mem_view_pending.mpr ⟨hrow, hid⟩
    rw [h.pending] at hmem
    cases hmem
  history := by
    have hwritten := h.written
    rw [view_sending_eq_zero.mpr hsending, Nat.add_zero] at hwritten
    refine ⟨entry, h.history, hwritten.symm, fun ackedAt hmem => ?_, fun _ => h.status⟩
    have hview : ackedAt ∈ (s.view id).acked :=
      List.mem_map.mpr ⟨(id, ackedAt), List.mem_filter.mpr ⟨hmem, beq_self_eq_true id⟩, rfl⟩
    rw [hacked] at hview
    cases hview

/-- In an orderly run a message has at most five turns, the fifth is its last, and when nothing
is left to do for it, it stands in the history as it went. -/
theorem settled_of_orderly
    (hrun : Reachable (guarded (Orderly id) (rel Delivery.step)) (start now) s)
    (hcreated : id ∈ s.created) :
    s.turns.count id ≤ maxAttempts ∧
      (s.turns.count id = maxAttempts → (∀ e ∈ s.sending, e.2.messageId ≠ id) → s.AtRest id) ∧
      (s.AtRest id → s.Settled id) := by
  have hkept := kept_of_orderly hrun
  have hturns : (s.view id).turns = s.turns.count id := rfl
  rcases hkept.stands with habsent | ⟨row, hw⟩ | ⟨entry, hg⟩
  · have hnone : s.created.contains id = false := habsent.created
    rw [List.contains_eq_mem, decide_eq_false_iff_not] at hnone
    exact absurd hcreated hnone
  · have hbefore := hw.turns
    have hattempts := hw.attempts
    refine ⟨by omega, fun hfull => by omega, fun hrest => ?_⟩
    have hmem : row ∈ (s.view id).pending := by
      rw [hw.pending]
      exact List.mem_singleton_self row
    obtain ⟨hrow, hid⟩ := mem_view_pending.mp hmem
    exact absurd hw.status (hrest.pending row hrow hid)
  · refine ⟨(hturns.symm.trans hg.turns).le, fun _ hsending => hg.atRest hkept.acking hsending,
      fun hrest => hg.settled hkept.acked hrest.sending⟩

def sampleSend : TrackedSend where
  messageId := "msg-1"
  targetUserId := "user-1"
  targetNodeId := "node-1"
  networkId := "net-1"
  messageType := "peer_update"
  requestId := ""
  payloadJson := "{}"

/-- One retry pass over the message at the given time. -/
def samplePass (now : Int) : List DeliveryAction :=
  [.tick now, .list 0, .resend 0 true, .recordAttempt 0]

/-- The message is written and sent again until it has had five attempts, then given up. -/
def sampleRun : List DeliveryAction :=
  [.sendTracked 0 sampleSend, .write 0 (sampleSend.record 1000) true] ++
    samplePass 4000 ++ samplePass 7000 ++ samplePass 10000 ++ samplePass 13000 ++
    [.tick 16000, .list 0, .archive 0]

def sampleEnd : Delivery := execD (fun s a => if Orderly "msg-1" s a then s.step a else none)
  (start 1000) sampleRun

theorem settled_sampleRun : sampleEnd.AtRest "msg-1" ∧ sampleEnd.Settled "msg-1" := by
  have hrun : Reachable (guarded (Orderly "msg-1") (rel Delivery.step)) (start 1000) sampleEnd := by
    have hexec : execGuarded (Orderly "msg-1") Delivery.step (start 1000) sampleRun =
        some sampleEnd := exec_eq_execD (by decide)
    exact .of_execGuarded hexec
  obtain ⟨_, hlast, hsettled⟩ := settled_of_orderly hrun (by decide)
  have hrest : sampleEnd.AtRest "msg-1" := hlast (by decide) (by decide)
  exact ⟨hrest, hsettled hrest⟩

/-! ## The time of an acknowledgement -/

/-- No time of acknowledgement is in any row that will be, or has been, archived. -/
structure Unstamped (now : Int) (s : Delivery) : Prop where
  clock : now ≤ s.now
  pending : ∀ row ∈ s.db.pending, row.status = "pending" → row.ackedAt = 0
  passes : ∀ i, ∀ row ∈ s.passes i, row.ackedAt = 0
  acking : ∀ e ∈ s.acking, e.2.1.ackedAt = 0
  history : ∀ entry ∈ s.db.history, entry.ackedAt = 0
  acked : ∀ e ∈ s.acked, now ≤ e.2

theorem listRetryable_subset {db : MessageTables} {beforeAttemptAt : Int} {limit : Nat}
    {row : ControlOutboundMessage}
    (h : row ∈ db.listRetryableControlOutboundMessages beforeAttemptAt limit) :
    row ∈ db.pending ∧ row.status = "pending" := by
  have hsorted : row ∈ (db.pending.filter fun row =>
      row.status == "pending" && row.lastAttemptAt ≤ beforeAttemptAt).insertionSort
        MessageTables.retryOrder := by
    rw [MessageTables.listRetryableControlOutboundMessages] at h
    split at h
    · exact List.mem_of_mem_take h
    · exact h
  rw [List.mem_insertionSort, List.mem_filter, Bool.and_eq_true, beq_iff_eq] at hsorted
  exact ⟨hsorted.1, hsorted.2.1⟩

theorem mem_setPass {i j : Nat} {pass : List ControlOutboundMessage}
    {row : ControlOutboundMessage} (h : row ∈ (s.setPass i pass).passes j) :
    row ∈ pass ∨ row ∈ s.passes j := by
  dsimp only [setPass] at h
  rw [Function.update_apply] at h
  split at h
  · exact .inl h
  · exact .inr h

theorem Unstamped.rest (h : Unstamped now s) {i : Nat} {message : ControlOutboundMessage}
    {rest : List ControlOutboundMessage} (hpass : s.passes i = message :: rest) :
    ∀ j, ∀ row ∈ (s.setPass i rest).passes j, row.ackedAt = 0 := by
  intro j row hrow
  rcases mem_setPass hrow with hrow | hrow
  · exact h.passes i row (hpass ▸ List.mem_cons_of_mem message hrow)
  · exact h.passes j row hrow

/-- What is archived carries no time of acknowledgement into the history. -/
theorem Unstamped.archive (h : Unstamped now s) {message : ControlOutboundMessage}
    (hmessage : message.ackedAt = 0) (finalStatus failureReason : String) (archivedAt : Int) :
    Unstamped now { s with
      db := s.db.archiveControlOutboundMessage message finalStatus failureReason archivedAt } := by
  refine ⟨h.clock, fun row hrow => h.pending row (List.mem_filter.mp hrow).1, h.passes, h.acking,
    fun entry hentry => ?_, h.acked⟩
  rcases List.mem_append.mp hentry with hentry | hentry
  · exact h.history entry hentry
  · rw [List.mem_singleton.mp hentry]
    exact hmessage

/-- An update of the rows of one message that are pending. -/
theorem pending_of_update {messageId : String} {f : ControlOutboundMessage → ControlOutboundMessage}
    (h : Unstamped now s) (hf : ∀ row, row.status = "pending" → row.ackedAt = 0 →
      (f row).status = "pending" → (f row).ackedAt = 0) :
    ∀ row ∈ s.db.pending.map (fun row =>
        if row.messageId = messageId ∧ row.status = "pending" then f row else row),
      row.status = "pending" → row.ackedAt = 0 := by
  intro row hrow hstatus
  obtain ⟨before, hmem, rfl⟩ := List.mem_map.mp hrow
  by_cases hboth : before.messageId = messageId ∧ before.status = "pending"
  · rw [if_pos hboth] at hstatus ⊢
    exact hf before hboth.2 (h.pending before hmem hboth.2) hstatus
  · rw [if_neg hboth] at hstatus ⊢
    exact h.pending before hmem hstatus

theorem Unstamped.step (h : Unstamped now s) {a : DeliveryAction} (hstep : s.step a = some t) :
    Unstamped now t := by
  cases a with
  | tick later =>
    obtain ⟨hle, rfl⟩ := of_step_tick hstep
    exact ⟨h.clock.trans hle, h.pending, h.passes, h.acking, h.history, h.acked⟩
  | sendTracked i send =>
    obtain ⟨-, rfl⟩ := of_step_sendTracked hstep
    refine ⟨h.clock, fun row hrow hstatus => ?_, h.passes, h.acking, h.history, h.acked⟩
    rcases List.mem_append.mp hrow with hrow | hrow
    · exact h.pending row hrow hstatus
    · rw [List.mem_singleton.mp hrow]
      rfl
  | write i message written =>
    obtain ⟨-, rfl⟩ := of_step_write hstep
    cases written <;> exact ⟨h.clock, h.pending, h.passes, h.acking, h.history, h.acked⟩
  | list i =>
    obtain ⟨-, rfl⟩ := of_step_list hstep
    refine ⟨h.clock, h.pending, fun j row hrow => ?_, h.acking, h.history, h.acked⟩
    rcases mem_setPass hrow with hrow | hrow
    · obtain ⟨hmem, hstatus⟩ := listRetryable_subset hrow
      exact h.pending row hmem hstatus
    · exact h.passes j row hrow
  | archive i =>
    obtain ⟨message, rest, hpass, -, rfl⟩ := of_step_archive hstep
    have hmessage : message.ackedAt = 0 := h.passes i message (hpass ▸ List.mem_cons_self)
    have harchived := h.archive hmessage "undelivered" undeliveredReason s.now
    exact ⟨h.clock, harchived.pending, h.rest hpass, h.acking, harchived.history, h.acked⟩
  | resend i written =>
    obtain ⟨message, rest, hpass, -, rfl⟩ := of_step_resend hstep
    have hrest := h.rest hpass
    cases written <;> exact ⟨h.clock, h.pending, hrest, h.acking, h.history, h.acked⟩
  | recordAttempt i =>
    obtain ⟨e, -, -, rfl⟩ := of_step_recordAttempt hstep
    exact ⟨h.clock, pending_of_update h fun _ _ hzero _ => hzero, h.passes, h.acking, h.history,
      h.acked⟩
  | ack i targetUserId messageId =>
    rcases of_step_ack hstep with rfl | ⟨record, hmem, -, hstatus, -, rfl⟩
    · exact h
    · -- the row that is stamped is no longer pending, and the one that is handed on has no stamp
      refine ⟨h.clock, pending_of_update h fun row _ _ hacked => ?_, h.passes, ?_, h.history, ?_⟩
      · have hpending : "acked" = "pending" := hacked
        exact absurd hpending (by decide)
      · exact List.forall_mem_cons.mpr ⟨h.pending record hmem hstatus, h.acking⟩
      · exact List.forall_mem_cons.mpr ⟨h.clock, h.acked⟩
  | archiveAcked i message ackedAt =>
    obtain ⟨hmem, rfl⟩ := of_step_archiveAcked hstep
    have harchived := h.archive (h.acking (i, message, ackedAt) hmem) "delivered" "" ackedAt
    exact ⟨h.clock, harchived.pending, h.passes,
      fun e he => h.acking e (List.mem_of_mem_erase he), harchived.history, h.acked⟩
  | crash i =>
    obtain rfl := Option.some.inj hstep
    refine ⟨h.clock, h.pending, fun j row hrow => ?_,
      fun e he => h.acking e (List.mem_filter.mp he).1, h.history, h.acked⟩
    rcases mem_setPass hrow with hrow | hrow
    · cases hrow
    · exact h.passes j row hrow

/-- No run settles a message that has been acknowledged: the history misses the time. -/
theorem not_settled_of_acked (hnow : 0 < now) (hrun : Reachable (rel Delivery.step) (start now) s)
    {ackedAt : Int} (hacked : (id, ackedAt) ∈ s.acked) : ¬ s.Settled id := by
  intro hsettled
  have hstart : Unstamped now (start now) := by
    refine ⟨le_rfl, ?_, ?_, ?_, ?_, ?_⟩ <;> simp [start]
  have hunstamped : Unstamped now s :=
    hrun.invariant (Unstamped now) hstart fun _ _ _ hs hstep => hs.step hstep
  obtain ⟨entry, hhistory, _, hdelivered, _⟩ := hsettled.history
  have hentry : entry ∈ s.db.historyOf id := by
    rw [hhistory]
    exact List.mem_singleton_self entry
  have hzero := hunstamped.history entry (List.mem_filter.mp hentry).1
  have htime : now ≤ ackedAt := hunstamped.acked (id, ackedAt) hacked
  have hstamp := (hdelivered ackedAt hacked).2
  omega

/-- The first write of the message, its acknowledgement, and the archiving of the row. -/
def ackedRun : List DeliveryAction :=
  [.sendTracked 0 sampleSend, .write 0 (sampleSend.record 1000) true, .tick 2000,
    .ack 0 "user-1" "msg-1", .archiveAcked 0 (sampleSend.record 1000) 2000]

theorem not_settled_ackedRun : ¬ ∀ (id : String) (s : Delivery),
    Reachable (rel Delivery.step) (start 1000) s → id ∈ s.created → s.AtRest id →
      s.Settled id := by
  intro hclaim
  have hrun : Reachable (rel Delivery.step) (start 1000) (execD Delivery.step (start 1000) ackedRun) :=
    .of_exec .start (exec_eq_execD (by decide))
  have hrest : (execD Delivery.step (start 1000) ackedRun).AtRest "msg-1" := by
    refine ⟨?_, ?_, ?_, ?_⟩ <;> decide
  have hsettled := hclaim "msg-1" _ hrun (by decide) hrest
  have hacked : ("msg-1", 2000) ∈ (execD Delivery.step (start 1000) ackedRun).acked := by
    decide
  exact not_settled_of_acked (by decide) hrun hacked hsettled

end Run

end Delivery

end Slan.Control
