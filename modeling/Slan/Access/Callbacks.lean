import Slan.Lib.Text
import Slan.Lib.Transition

/-! # The callback of a login in the browser

A browser completes a callback, for which clients wait on connections. Its payload is kept until it
is acknowledged. Calls run side by side, each statement of the store and each message by itself.
-/

namespace Slan.Access

structure CompleteAuthCallbackRequest where
  accessToken : String
  userId : String
  refreshToken : String
  expiresIn : Int
  deviceId : String
  userLabel : String
  action : String
  deriving DecidableEq

/-- A payload, and which of the completions it is from. -/
structure Ready where
  completion : Nat
  payload : CompleteAuthCallbackRequest
  deriving DecidableEq

structure CallbackStore where
  payload : Option Ready
  receivedAt : Option Int

structure AuthCallbackStatusResponse where
  callbackId : String
  ready : Bool
  received : Bool
  receivedAt : Int
  payload : Option Ready

/-- What `CompleteCallback` stores, if it does not refuse the request as invalid. -/
def completeCallback (callbackId : String) (req : CompleteAuthCallbackRequest) :
    Option CompleteAuthCallbackRequest :=
  if Text.trim callbackId = "" then none
  else
    let req := { req with
      accessToken := Text.trim req.accessToken
      userId := Text.trim req.userId
      deviceId := Text.trim req.deviceId
      userLabel := Text.trim req.userLabel
      action := Text.trim req.action }
    if req.accessToken = "" ∨ req.userId = "" then none
    else some { req with expiresIn := if req.expiresIn ≤ 0 then 3600 else req.expiresIn }

/-- `GetCallbackStatus`, from what it has loaded. -/
def getCallbackStatus (callbackId : String) (payload : Option Ready) (receivedAt : Option Int) :
    Option AuthCallbackStatusResponse :=
  if Text.trim callbackId = "" then none
  else
    let receivedAt := receivedAt.getD 0
    some ⟨Text.trim callbackId, payload.isSome, 0 < receivedAt, receivedAt, payload⟩

inductive Envelope where
  | authCallbackReady (ready : Ready)
  | acknowledged
  deriving DecidableEq

def Envelope.ready? : Envelope → Option Ready
  | authCallbackReady ready => some ready
  | acknowledged => none

/-- Where the handler of a connection is. -/
inductive Phase where
  | registered
  /-- It has loaded the payload, to send its status. -/
  | loaded (payload : Option Ready)
  | serving
  /-- It has marked the callback as received, and is to delete the payload. -/
  | acknowledging
  | gone
  deriving DecidableEq

/-- What a connection was sent while it was open; with how many completions it has found, and of
which of them the store had the payload. -/
structure Connection where
  phase : Phase
  isOpen : Bool
  since : Nat
  found : Option Nat
  sent : List Envelope
  deriving DecidableEq

/-- How far the broadcast of a completion is; the sessions that are left. -/
inductive Broadcast where
  | waiting
  | sending (remaining : List Nat)
  | done
  deriving DecidableEq

structure Completion where
  request : CompleteAuthCallbackRequest
  broadcast : Broadcast

/-- One callback; the sessions that the hub has for it, its completions in the order of the store,
the acknowledgements over HTTP that have not deleted the payload yet, and the payloads deleted. -/
structure Callbacks where
  store : CallbackStore
  sessions : List Nat
  connections : Nat → Option Connection
  completions : List Completion
  acknowledging : Nat
  removed : List Nat

inductive CallbackMove where
  | connect (c : Nat)
  | load (c : Nat)
  | sendStatus (c : Nat)
  | ack (c : Nat) (now : Int)
  | finishAck (c : Nat)
  /-- The other side goes away. -/
  | close (c : Nat)
  | unregister (c : Nat)
  | complete (req : CompleteAuthCallbackRequest)
  | beginBroadcast (n : Nat)
  | broadcastTo (n c : Nat)
  | endBroadcast (n : Nat)
  /-- An acknowledgement over HTTP. -/
  | acknowledge (now : Int)
  | finishAcknowledge

def Connection.ready (k : Connection) : List Ready := k.sent.filterMap Envelope.ready?

def Connection.send (k : Connection) (envelope : Envelope) : Connection :=
  if k.isOpen then { k with sent := k.sent ++ [envelope] } else k

open Transition

namespace Callbacks

def start : Callbacks := ⟨⟨none, none⟩, [], fun _ => none, [], 0, []⟩

/-- No broadcast holds the hub's lock. -/
def Unlocked (w : Callbacks) : Prop :=
  ∀ x ∈ w.completions, x.broadcast = .waiting ∨ x.broadcast = .done

instance (w : Callbacks) : Decidable w.Unlocked :=
  inferInstanceAs (Decidable (∀ x ∈ w.completions, x.broadcast = .waiting ∨ x.broadcast = .done))

def setConnection (w : Callbacks) (c : Nat) (k : Connection) : Callbacks :=
  { w with connections := Function.update w.connections c (some k) }

def setBroadcast (w : Callbacks) (n : Nat) (x : Completion) (broadcast : Broadcast) : Callbacks :=
  { w with completions := w.completions.set n { x with broadcast } }

def markReceived (w : Callbacks) (now : Int) : Callbacks :=
  { w with store := { w.store with receivedAt := some now } }

def deletePayload (w : Callbacks) : Callbacks :=
  { w with
    store := { w.store with payload := none }
    removed := w.removed ++ (w.store.payload.map Ready.completion).toList }

section Handlers

variable (callbackId : String) (w : Callbacks)

def connect (c : Nat) : Option Callbacks :=
  if w.Unlocked ∧ w.connections c = none then
    some { w.setConnection c ⟨.registered, true, w.completions.length,
      w.store.payload.map Ready.completion, []⟩ with sessions := c :: w.sessions }
  else none

/-- The status is sent if it is ready; the time of receipt is loaded, and left aside. -/
def sendStatus (k : Connection) (payload : Option Ready) : Connection :=
  match getCallbackStatus callbackId payload w.store.receivedAt with
  | some status =>
    match status.payload with
    | some ready => if status.ready then k.send (.authCallbackReady ready) else k
    | none => k
  | none => k

/-- A message of a client, which is answered even if the callback is not marked. -/
def ack (c : Nat) (k : Connection) (now : Int) : Callbacks :=
  if Text.trim callbackId = "" then w.setConnection c (k.send .acknowledged)
  else (w.markReceived now).setConnection c { k with phase := .acknowledging }

def complete (req : CompleteAuthCallbackRequest) : Callbacks :=
  match completeCallback callbackId req with
  | none => w
  | some payload => { w with
      store := { w.store with payload := some ⟨w.completions.length, payload⟩ }
      completions := w.completions ++ [⟨req, .waiting⟩] }

def acknowledge (now : Int) : Callbacks :=
  if Text.trim callbackId = "" then w
  else { w.markReceived now with acknowledging := w.acknowledging + 1 }

def step : CallbackMove → Option Callbacks
  | .connect c => w.connect c
  | .load c => (w.connections c).bind fun k =>
    if k.phase = .registered then
      some (w.setConnection c { k with phase := .loaded w.store.payload })
    else none
  | .sendStatus c => (w.connections c).bind fun k =>
    match k.phase with
    | .loaded payload =>
      some (w.setConnection c { sendStatus callbackId w k payload with phase := .serving })
    | _ => none
  | .ack c now => (w.connections c).bind fun k =>
    if k.phase = .serving then some (w.ack callbackId c k now) else none
  | .finishAck c => (w.connections c).bind fun k =>
    if k.phase = .acknowledging then
      some (w.deletePayload.setConnection c { k.send .acknowledged with phase := .serving })
    else none
  | .close c => (w.connections c).map fun k => w.setConnection c { k with isOpen := false }
  | .unregister c => (w.connections c).bind fun k =>
    if w.Unlocked ∧ k.phase = .serving ∧ k.isOpen = false then
      some { w.setConnection c { k with phase := .gone } with sessions := w.sessions.erase c }
    else none
  | .complete req => some (w.complete callbackId req)
  | .beginBroadcast n => w.completions[n]?.bind fun x =>
    if x.broadcast = .waiting then some (w.setBroadcast n x (.sending w.sessions)) else none
  | .broadcastTo n c => w.completions[n]?.bind fun x =>
    match x.broadcast with
    | .sending remaining =>
      if c ∈ remaining then
        (w.connections c).map fun k =>
          (w.setBroadcast n x (.sending (remaining.erase c))).setConnection c
            (k.send (.authCallbackReady ⟨n, x.request⟩))
      else none
    | _ => none
  | .endBroadcast n => w.completions[n]?.bind fun x =>
    if x.broadcast = .sending [] then some (w.setBroadcast n x .done) else none
  | .acknowledge now => some (w.acknowledge callbackId now)
  | .finishAcknowledge =>
    if 0 < w.acknowledging then
      some { w.deletePayload with acknowledging := w.acknowledging - 1 }
    else none

end Handlers

/-! ## What a step does -/

section Steps

variable {callbackId : String} {w t : Callbacks} {c n : Nat}

theorem of_step_load (h : w.step callbackId (.load c) = some t) :
    ∃ k, w.connections c = some k ∧ k.phase = .registered ∧
      t = w.setConnection c { k with phase := .loaded w.store.payload } :=
  bind_ite_some_iff.mp h

theorem of_step_sendStatus (h : w.step callbackId (.sendStatus c) = some t) :
    ∃ k payload, w.connections c = some k ∧ k.phase = .loaded payload ∧
      t = w.setConnection c { sendStatus callbackId w k payload with phase := .serving } := by
  obtain ⟨k, hconnection, h⟩ := Option.bind_eq_some_iff.mp h
  split at h
  · rename_i payload hphase
    exact ⟨k, payload, hconnection, hphase, (Option.some.inj h).symm⟩
  · cases h

theorem of_step_ack {now : Int} (h : w.step callbackId (.ack c now) = some t) :
    ∃ k, w.connections c = some k ∧ k.phase = .serving ∧ t = w.ack callbackId c k now :=
  bind_ite_some_iff.mp h

theorem of_step_finishAck (h : w.step callbackId (.finishAck c) = some t) :
    ∃ k, w.connections c = some k ∧ k.phase = .acknowledging ∧
      t = w.deletePayload.setConnection c { k.send .acknowledged with phase := .serving } :=
  bind_ite_some_iff.mp h

theorem of_step_unregister (h : w.step callbackId (.unregister c) = some t) :
    ∃ k, w.connections c = some k ∧ (w.Unlocked ∧ k.phase = .serving ∧ k.isOpen = false) ∧
      t = { w.setConnection c { k with phase := .gone } with sessions := w.sessions.erase c } :=
  bind_ite_some_iff.mp h

theorem of_step_beginBroadcast (h : w.step callbackId (.beginBroadcast n) = some t) :
    ∃ x, w.completions[n]? = some x ∧ x.broadcast = .waiting ∧
      t = w.setBroadcast n x (.sending w.sessions) :=
  bind_ite_some_iff.mp h

theorem of_step_broadcastTo (h : w.step callbackId (.broadcastTo n c) = some t) :
    ∃ x remaining k, w.completions[n]? = some x ∧ x.broadcast = .sending remaining ∧
      c ∈ remaining ∧ w.connections c = some k ∧
      t = (w.setBroadcast n x (.sending (remaining.erase c))).setConnection c
        (k.send (.authCallbackReady ⟨n, x.request⟩)) := by
  obtain ⟨x, hx, h⟩ := Option.bind_eq_some_iff.mp h
  split at h
  · rename_i remaining hsending
    obtain ⟨hremains, h⟩ := Option.ite_none_right_eq_some.mp h
    obtain ⟨k, hconnection, rfl⟩ := Option.map_eq_some_iff.mp h
    exact ⟨x, remaining, k, hx, hsending, hremains, hconnection, rfl⟩
  · cases h

theorem of_step_endBroadcast (h : w.step callbackId (.endBroadcast n) = some t) :
    ∃ x, w.completions[n]? = some x ∧ x.broadcast = .sending [] ∧ t = w.setBroadcast n x .done :=
  bind_ite_some_iff.mp h

theorem of_step_finishAcknowledge (h : w.step callbackId .finishAcknowledge = some t) :
    0 < w.acknowledging ∧
      t = { w.deletePayload with acknowledging := w.acknowledging - 1 } :=
  ite_some_iff.mp h

end Steps

end Callbacks

end Slan.Access
