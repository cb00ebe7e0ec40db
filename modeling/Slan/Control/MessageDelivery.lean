import Mathlib.Data.List.Sort
import Mathlib.Logic.Function.Basic
import Slan.Lib.Transition

/-! # Outbound control messages: the pending table, the history, and who works on them

Every statement or transaction is one step. Times are Unix milliseconds.
-/

namespace Slan.Control

structure ControlOutboundMessage where
  messageId : String
  targetUserId : String
  targetNodeId : String
  networkId : String
  messageType : String
  requestId : String
  payloadJson : String
  attemptCount : Nat
  status : String
  lastAttemptAt : Int
  ackedAt : Int
  createdAt : Int
  updatedAt : Int
  deriving DecidableEq, Repr

structure ControlMessageHistory where
  messageId : String
  targetUserId : String
  targetNodeId : String
  networkId : String
  messageType : String
  requestId : String
  payloadJson : String
  attemptCount : Nat
  finalStatus : String
  ackedAt : Int
  archivedAt : Int
  failureReason : String
  deriving DecidableEq, Repr

/-! ## `message_repo.go` -/

structure MessageTables where
  pending : List ControlOutboundMessage
  history : List ControlMessageHistory
  deriving DecidableEq, Repr

namespace MessageTables

def createControlOutboundMessage (db : MessageTables) (record : ControlOutboundMessage) :
    MessageTables :=
  { db with pending := db.pending ++ [record] }

/-- `ORDER BY last_attempt_at ASC, created_at ASC` -/
def retryOrder (a b : ControlOutboundMessage) : Prop :=
  a.lastAttemptAt < b.lastAttemptAt ∨
    (a.lastAttemptAt = b.lastAttemptAt ∧ a.createdAt ≤ b.createdAt)

instance : DecidableRel retryOrder := fun a b => by
  unfold retryOrder
  infer_instance

def listRetryableControlOutboundMessages (db : MessageTables) (beforeAttemptAt : Int)
    (limit : Nat) : List ControlOutboundMessage :=
  let rows := (db.pending.filter fun row =>
    row.status == "pending" && row.lastAttemptAt ≤ beforeAttemptAt).insertionSort retryOrder
  if 0 < limit then rows.take limit else rows

def updateControlOutboundMessageAttempt (db : MessageTables) (messageId : String)
    (attemptCount : Nat) (attemptedAt : Int) : MessageTables :=
  { db with pending := db.pending.map fun row =>
      if row.messageId = messageId ∧ row.status = "pending" then
        { row with attemptCount, lastAttemptAt := attemptedAt, updatedAt := attemptedAt }
      else row }

/-- The record is returned as it was read, before the update. -/
def ackControlOutboundMessage (db : MessageTables) (messageId targetUserId : String)
    (ackedAt : Int) : Option ControlOutboundMessage × MessageTables :=
  match db.pending.find? fun row => row.messageId == messageId && row.status == "pending" with
  | none => (none, db)
  | some record =>
    if targetUserId ≠ "" ∧ record.targetUserId ≠ "" ∧ record.targetUserId ≠ targetUserId then
      (none, db)
    else
      (some record, { db with pending := db.pending.map fun row =>
        if row.messageId = messageId ∧ row.status = "pending" then
          { row with status := "acked", ackedAt, updatedAt := ackedAt }
        else row })

def archiveControlOutboundMessage (db : MessageTables) (record : ControlOutboundMessage)
    (finalStatus failureReason : String) (archivedAt : Int) : MessageTables where
  history := db.history ++
    [{ messageId := record.messageId
       targetUserId := record.targetUserId
       targetNodeId := record.targetNodeId
       networkId := record.networkId
       messageType := record.messageType
       requestId := record.requestId
       payloadJson := record.payloadJson
       attemptCount := record.attemptCount
       finalStatus
       ackedAt := record.ackedAt
       archivedAt
       failureReason }]
  pending := db.pending.filter fun row => row.messageId != record.messageId

end MessageTables

/-! ## Senders, retry loops and acknowledgement handlers -/

/-- What `sendTracked` is called with, the new id included. -/
structure TrackedSend where
  messageId : String
  targetUserId : String
  targetNodeId : String
  networkId : String
  messageType : String
  requestId : String
  payloadJson : String
  deriving DecidableEq, Repr

def TrackedSend.record (send : TrackedSend) (now : Int) : ControlOutboundMessage where
  messageId := send.messageId
  targetUserId := send.targetUserId
  targetNodeId := send.targetNodeId
  networkId := send.networkId
  messageType := send.messageType
  requestId := send.requestId
  payloadJson := send.payloadJson
  attemptCount := 1
  status := "pending"
  lastAttemptAt := now
  ackedAt := 0
  createdAt := now
  updatedAt := now

/-- The database, what every server instance has in hand, and what has been done. -/
structure Delivery where
  now : Int
  db : MessageTables
  /-- Rows created, their messages not yet written to a session. -/
  sending : List (Nat × ControlOutboundMessage)
  /-- What is left of the listing that an instance's retry pass works through. -/
  passes : Nat → List ControlOutboundMessage
  /-- Messages looked at by a pass, their attempt not yet recorded. -/
  resent : List (Nat × ControlOutboundMessage)
  /-- Acknowledged messages, not yet archived, with the time of the acknowledgement. -/
  acking : List (Nat × ControlOutboundMessage × Int)
  created : List String
  /-- The writes to sessions. -/
  written : List String
  acked : List (String × Int)
  /-- The turns that messages have had in retry passes. -/
  turns : List String

inductive DeliveryAction where
  | tick (now : Int)
  | sendTracked (i : Nat) (send : TrackedSend)
  | write (i : Nat) (message : ControlOutboundMessage) (written : Bool)
  | list (i : Nat)
  | archive (i : Nat)
  | resend (i : Nat) (written : Bool)
  | recordAttempt (i : Nat)
  | ack (i : Nat) (targetUserId messageId : String)
  | archiveAcked (i : Nat) (message : ControlOutboundMessage) (ackedAt : Int)
  | crash (i : Nat)
  deriving DecidableEq, Repr

open Transition

namespace Delivery

def start (now : Int) : Delivery where
  now := now
  db := ⟨[], []⟩
  sending := []
  passes _ := []
  resent := []
  acking := []
  created := []
  written := []
  acked := []
  turns := []

def maxAttempts : Nat := 5

def undeliveredReason : String := "http_ack_not_received_after_5_attempts"

/-- The instance's retry loop is between two messages. -/
def Free (s : Delivery) (i : Nat) : Prop := ∀ e ∈ s.resent, e.1 ≠ i

instance (s : Delivery) (i : Nat) : Decidable (s.Free i) := by
  unfold Free
  infer_instance

def setPass (s : Delivery) (i : Nat) (pass : List ControlOutboundMessage) : Delivery :=
  { s with passes := Function.update s.passes i pass }

def noteWrite (s : Delivery) (message : ControlOutboundMessage) (written : Bool) : Delivery :=
  if written then { s with written := message.messageId :: s.written } else s

/-- A write fails, or finds no session, where `written` is false; a pass goes on either way. -/
def step (s : Delivery) : DeliveryAction → Option Delivery
  | .tick now => if s.now ≤ now then some { s with now } else none
  | .sendTracked i send =>
    if send.messageId ∉ s.created then
      let record := send.record s.now
      some { s with
        db := s.db.createControlOutboundMessage record
        sending := (i, record) :: s.sending
        created := send.messageId :: s.created }
    else none
  | .write i message written =>
    if (i, message) ∈ s.sending then
      some { s.noteWrite message written with sending := s.sending.erase (i, message) }
    else none
  | .list i =>
    if s.passes i = [] ∧ s.Free i then
      some (s.setPass i (s.db.listRetryableControlOutboundMessages (s.now - 3000) 64))
    else none
  | .archive i =>
    match s.passes i with
    | [] => none
    | message :: rest =>
      if s.Free i ∧ maxAttempts ≤ message.attemptCount then
        some { s.setPass i rest with
          db := s.db.archiveControlOutboundMessage message "undelivered" undeliveredReason s.now
          turns := message.messageId :: s.turns }
      else none
  | .resend i written =>
    match s.passes i with
    | [] => none
    | message :: rest =>
      if s.Free i ∧ message.attemptCount < maxAttempts then
        some { (s.noteWrite message written).setPass i rest with
          resent := (i, message) :: s.resent }
      else none
  | .recordAttempt i =>
    match s.resent.find? fun e => e.1 == i with
    | none => none
    | some (_, message) =>
      some { s with
        db := s.db.updateControlOutboundMessageAttempt message.messageId (message.attemptCount + 1)
          s.now
        resent := s.resent.erase (i, message)
        turns := message.messageId :: s.turns }
  | .ack i targetUserId messageId =>
    match s.db.ackControlOutboundMessage messageId targetUserId s.now with
    | (none, _) => some s
    | (some record, db) =>
      some { s with
        db
        acking := (i, record, s.now) :: s.acking
        acked := (messageId, s.now) :: s.acked }
  | .archiveAcked i message ackedAt =>
    if (i, message, ackedAt) ∈ s.acking then
      some { s with
        db := s.db.archiveControlOutboundMessage message "delivered" "" ackedAt
        acking := s.acking.erase (i, message, ackedAt) }
    else none
  | .crash i =>
    some { s.setPass i [] with
      sending := s.sending.filter fun e => e.1 != i
      resent := s.resent.filter fun e => e.1 != i
      acking := s.acking.filter fun e => e.1 != i }

/-! ## What a step does -/

section Steps

variable {s t : Delivery} {i : Nat} {message : ControlOutboundMessage} {written : Bool}

theorem of_step_tick {now : Int} (h : s.step (.tick now) = some t) :
    s.now ≤ now ∧ t = { s with now } := ite_some_iff.mp h

theorem of_step_sendTracked {send : TrackedSend} (h : s.step (.sendTracked i send) = some t) :
    send.messageId ∉ s.created ∧ t = { s with
      db := s.db.createControlOutboundMessage (send.record s.now)
      sending := (i, send.record s.now) :: s.sending
      created := send.messageId :: s.created } := ite_some_iff.mp h

theorem of_step_write (h : s.step (.write i message written) = some t) :
    (i, message) ∈ s.sending ∧
      t = { s.noteWrite message written with sending := s.sending.erase (i, message) } :=
  ite_some_iff.mp h

theorem of_step_list (h : s.step (.list i) = some t) :
    (s.passes i = [] ∧ s.Free i) ∧
      t = s.setPass i (s.db.listRetryableControlOutboundMessages (s.now - 3000) 64) :=
  ite_some_iff.mp h

theorem of_step_archive (h : s.step (.archive i) = some t) :
    ∃ message rest, s.passes i = message :: rest ∧ maxAttempts ≤ message.attemptCount ∧
      t = { s.setPass i rest with
        db := s.db.archiveControlOutboundMessage message "undelivered" undeliveredReason s.now
        turns := message.messageId :: s.turns } := by
  rw [step] at h
  split at h
  · cases h
  · rename_i message rest hpass
    obtain ⟨⟨-, hlast⟩, ht⟩ := ite_some_iff.mp h
    exact ⟨message, rest, hpass, hlast, ht⟩

theorem of_step_resend (h : s.step (.resend i written) = some t) :
    ∃ message rest, s.passes i = message :: rest ∧ message.attemptCount < maxAttempts ∧
      t = { (s.noteWrite message written).setPass i rest with
        resent := (i, message) :: s.resent } := by
  rw [step] at h
  split at h
  · cases h
  · rename_i message rest hpass
    obtain ⟨⟨-, hmore⟩, ht⟩ := ite_some_iff.mp h
    exact ⟨message, rest, hpass, hmore, ht⟩

theorem of_step_recordAttempt (h : s.step (.recordAttempt i) = some t) :
    ∃ e, (s.resent.find? fun e => e.1 == i) = some e ∧ e.1 = i ∧ t = { s with
      db := s.db.updateControlOutboundMessageAttempt e.2.messageId (e.2.attemptCount + 1) s.now
      resent := s.resent.erase (i, e.2)
      turns := e.2.messageId :: s.turns } := by
  rw [step] at h
  split at h
  · cases h
  · rename_i j message hfind
    obtain rfl : j = i := by simpa using List.find?_some hfind
    exact ⟨(j, message), hfind, rfl, (Option.some.inj h).symm⟩

theorem of_step_archiveAcked {ackedAt : Int}
    (h : s.step (.archiveAcked i message ackedAt) = some t) :
    (i, message, ackedAt) ∈ s.acking ∧ t = { s with
      db := s.db.archiveControlOutboundMessage message "delivered" "" ackedAt
      acking := s.acking.erase (i, message, ackedAt) } := ite_some_iff.mp h

end Steps

end Delivery

end Slan.Control
