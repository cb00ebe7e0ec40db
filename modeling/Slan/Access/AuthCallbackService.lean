import Slan.Lib.Json
import Slan.Lib.Text
import Slan.Lib.Transition

/-! # The app's side of a login in the browser

A step is what runs up to the next `await`: timer ticks, attempts and the listeners of the sockets
take such steps in any order. The path is the one of HTTP mode, in which the app keeps the session
in its preferences.
-/

namespace Slan.Access

structure SessionModel where
  userId : String
  accessToken : String
  refreshToken : Option String
  expiresIn : Int
  deviceId : Option String
  userLabel : Option String
  deriving DecidableEq

/-- What `_applyServerCallback` takes from a payload. -/
structure ServerPayload where
  session : SessionModel
  action : Option String
  deriving DecidableEq

/-- A payload as far as it can be read, and which of the completions it is from. -/
structure LoginCallback where
  completion : Nat
  payload : Option ServerPayload
  deriving DecidableEq

/-- `String.trim`, for which the byte order mark is white space, too. -/
def trimmed (s : String) : String :=
  let space c := Text.isSpace c || c == '\uFEFF'
  String.ofList ((s.toList.dropWhile space).rdropWhile space)

section Payloads

variable (key : String) (members : List (String × Json))

/-- `as String?`, where the last of equal keys counts; `none` if the cast throws. -/
def stringMember : Option (Option String) :=
  match (Json.values key members).getLast? with
  | none | some .null => some none
  | some (.str s) => some (some s)
  | some _ => none

def intMember : Option (Option Int) :=
  match (Json.values key members).getLast? with
  | none | some .null => some none
  | some (.num n) => some (some n)
  | some _ => none

end Payloads

def nonEmpty (s : Option String) : Option String := (s.map trimmed).filter (· ≠ "")

def serverPayload (payload : List (String × Json)) : Option ServerPayload := do
  let accessToken ← stringMember "accessToken" payload
  let userId ← stringMember "userId" payload
  let refreshToken ← stringMember "refreshToken" payload
  let deviceId ← stringMember "deviceId" payload
  let userLabel ← stringMember "userLabel" payload
  let action ← stringMember "action" payload
  let expiresIn ← intMember "expiresIn" payload
  some {
    session := {
      userId := trimmed (userId.getD "")
      accessToken := trimmed (accessToken.getD "")
      refreshToken := nonEmpty refreshToken
      expiresIn := expiresIn.getD 3600
      deviceId := nonEmpty deviceId
      userLabel := nonEmpty userLabel }
    action := action.map trimmed }

def ServerPayload.Incomplete (loaded : ServerPayload) : Prop :=
  loaded.session.accessToken = "" ∨ loaded.session.userId = ""

instance (loaded : ServerPayload) : Decidable loaded.Incomplete :=
  inferInstanceAs (Decidable (_ ∨ _))

inductive SocketMessage where
  | acknowledged
  | authCallbackReady (payload : List (String × Json))

/-- What the listener takes a message for, if it does not drop it. A message that is no text, empty
or no JSON is `none`. -/
def readMessage : Option Json → Option SocketMessage
  | some (.obj decoded) =>
    (stringMember "type" decoded).bind fun kind =>
      let kind := trimmed (kind.getD "")
      if kind = "acknowledged" then some .acknowledged
      else if kind ≠ "auth_callback_ready" then none
      else match (Json.values "payload" decoded).getLast? with
        | some (.obj payload) => some (.authCallbackReady payload)
        | _ => none
  | _ => none

def newCallbackId (preferredKey : Option String) (now : Nat) : String :=
  let key := trimmed (preferredKey.getD "")
  if key ≠ "" then key else "cb-" ++ toString now

inductive SocketState where
  | opened
  /-- The app has closed it; the other side may still send. -/
  | closing
  | closed
  deriving DecidableEq

structure Socket where
  callbackId : String
  state : SocketState
  deriving DecidableEq

/-- Where a listener is with its message. -/
inductive Stage where
  | persisting (loaded : ServerPayload)
  | hydrating (action : Option String)
  | activating
  | removing
  | marking
  | acking
  deriving DecidableEq

structure Listener where
  socket : Nat
  callbackId : String
  callback : LoginCallback
  stage : Stage
  deriving DecidableEq

/-- The variables of the app, and what it keeps in the preferences. -/
structure AuthCallbackService where
  pendingCallbackId : Option String
  persistedSession : Option SessionModel
  lastAppliedCallbackId : Option String
  socket : Option Nat
  socketCallbackId : Option String
  session : Option SessionModel
  error : Option String

/-- The app, with the attempts that have not stored their id, the ticks that wait for a connection,
and the listeners. It also has what was applied, persisted and acknowledged, and the pending ids
removed, each with the id of the callback that was applied. -/
structure Desktop where
  service : AuthCallbackService
  attempts : Nat → Option String
  connects : Nat → Option String
  sockets : Nat → Option Socket
  listeners : Nat → Option Listener
  applied : List LoginCallback
  persisted : List LoginCallback
  acked : List LoginCallback
  removed : List (String × String)

/-- How `preferences.setString` ends. -/
inductive Stored where
  | stored
  | refused
  | failed (error : String)
  deriving DecidableEq

inductive DesktopMove where
  | prepare (a : Nat) (preferredKey : Option String) (now : Nat)
  | store (a : Nat)
  | tick (r : Nat)
  | connected (r s : Nat)
  | connectFailed (r : Nat)
  | message (s n completion : Nat) (text : Option Json)
  | done (s : Nat)
  | persist (n : Nat) (outcome : Stored)
  /-- With the device that matches, or an error of the API. -/
  | hydrate (n : Nat) (result : Except String (Option String))
  | activate (n : Nat) (result : Except String (Option String))
  | remove (n : Nat)
  | mark (n : Nat)
  | ack (n : Nat)

/-- Where `_applyServerCallback` goes on after `applyExternalSession`, which never throws. -/
def Stage.afterApply (action : Option String) : Stage :=
  if action = some "activate_active_network" then .activating else .removing

namespace Desktop

def start (pendingCallbackId : Option String) (persistedSession session : Option SessionModel) :
    Desktop :=
  ⟨⟨pendingCallbackId, persistedSession, none, none, none, session, none⟩,
    fun _ => none, fun _ => none, fun _ => none, fun _ => none, [], [], [], []⟩

variable (w : Desktop)

def setSocket (s : Nat) (socket : Socket) : Desktop :=
  { w with sockets := Function.update w.sockets s (some socket) }

def setListener (n : Nat) (l : Option Listener) : Desktop :=
  { w with listeners := Function.update w.listeners n l }

def forgetSocket : Desktop :=
  { w with service := { w.service with socket := none, socketCallbackId := none } }

def closeSocket : Desktop :=
  match w.service.socket.bind fun s => (w.sockets s).map (s, ·) with
  | some (s, socket) =>
    if socket.state = .opened then w.forgetSocket.setSocket s { socket with state := .closing }
    else w.forgetSocket
  | none => w.forgetSocket

/-- `_ensurePendingServerCallbackSocket`, up to the connection. -/
def ensurePendingServerCallbackSocket (r : Nat) : Desktop :=
  let callbackId := trimmed (w.service.pendingCallbackId.getD "")
  if callbackId = "" then w.closeSocket
  else if w.service.socket.isSome ∧ w.service.socketCallbackId = some callbackId then w
  else { w.closeSocket with connects := Function.update w.connects r (some callbackId) }

/-- `_applyServerCallback`, up to the first `await` of `applyExternalSessionInternal`. -/
def applyServerCallback (s n : Nat) (callbackId : String) (callback : LoginCallback) : Desktop :=
  if w.service.lastAppliedCallbackId = some callbackId then
    w.setListener n (some ⟨s, callbackId, callback, .acking⟩)
  else match callback.payload with
    -- the exception of a cast ends the listener
    | none => w
    | some loaded =>
      if loaded.Incomplete then w.setListener n (some ⟨s, callbackId, callback, .acking⟩)
      else { w.setListener n (some ⟨s, callbackId, callback, .persisting loaded⟩) with
        service := { w.service with session := some loaded.session, error := none }
        applied := callback :: w.applied }

def receive (s n completion : Nat) (socket : Socket) (text : Option Json) : Desktop :=
  match readMessage text with
  | none => w
  | some .acknowledged => w.closeSocket
  | some (.authCallbackReady payload) =>
    w.applyServerCallback s n socket.callbackId ⟨completion, serverPayload payload⟩

/-- `onDone` and `onError` of a socket. -/
def done (s : Nat) (socket : Socket) : Desktop :=
  let w' := w.setSocket s { socket with state := .closed }
  if w.service.socket = some s then w'.forgetSocket else w'

def persist (n : Nat) (l : Listener) (loaded : ServerPayload) : Stored → Desktop
  | .stored => { w.setListener n (some { l with stage := .hydrating loaded.action }) with
      service := { w.service with persistedSession := some loaded.session }
      persisted := l.callback :: w.persisted }
  | .refused => w.setListener n (some { l with stage := .hydrating loaded.action })
  -- `runAction` keeps the error, and the listener goes on
  | .failed error =>
    { w.setListener n (some { l with stage := .afterApply loaded.action }) with
      service := { w.service with error := some error } }

/-- What an action of the coordinator leaves behind; a device that it has found is the session's. -/
def runAction (result : Except String (Option String)) : Desktop :=
  match result with
  | .error error => { w with service := { w.service with error := some error } }
  | .ok none => w
  | .ok (some deviceId) => { w with service := { w.service with
      session := w.service.session.map fun session => { session with deviceId := some deviceId } } }

def remove (n : Nat) (l : Listener) : Desktop :=
  { w.setListener n (some { l with stage := .marking }) with
    service := { w.service with pendingCallbackId := none }
    removed := (w.service.pendingCallbackId.map fun p => (l.callbackId, p)).toList ++ w.removed }

/-- An acknowledgement on a socket that the app has closed throws. -/
def ack (n : Nat) (l : Listener) : Desktop :=
  if (w.sockets l.socket).map Socket.state = some .opened then
    { w.setListener n none with acked := l.callback :: w.acked }
  else w.setListener n none

def step : DesktopMove → Option Desktop
  | .prepare a preferredKey now =>
    if w.attempts a = none then
      some { w with
        service := { w.service with lastAppliedCallbackId := none }
        attempts := Function.update w.attempts a (some (newCallbackId preferredKey now)) }
    else none
  | .store a => (w.attempts a).map fun callbackId => { w with
      service := { w.service with pendingCallbackId := some callbackId }
      attempts := Function.update w.attempts a none }
  | .tick r => if w.connects r = none then some (w.ensurePendingServerCallbackSocket r) else none
  | .connected r s => (w.connects r).bind fun callbackId =>
    if w.sockets s = none then
      some { w.setSocket s ⟨callbackId, .opened⟩ with
        service := { w.service with socket := some s, socketCallbackId := some callbackId }
        connects := Function.update w.connects r none }
    else none
  | .connectFailed r => (w.connects r).map fun _ =>
    { w with connects := Function.update w.connects r none }
  | .message s n completion text => (w.sockets s).bind fun socket =>
    if socket.state ≠ .closed ∧ w.listeners n = none then
      some (w.receive s n completion socket text)
    else none
  | .done s => (w.sockets s).map fun socket => w.done s socket
  | .persist n outcome => (w.listeners n).bind fun l =>
    match l.stage with
    | .persisting loaded => some (w.persist n l loaded outcome)
    | _ => none
  | .hydrate n result => (w.listeners n).bind fun l =>
    match l.stage with
    | .hydrating action =>
      some ((w.runAction result).setListener n (some { l with stage := .afterApply action }))
    | _ => none
  | .activate n result => (w.listeners n).bind fun l =>
    if l.stage = .activating then
      some ((w.runAction result).setListener n (some { l with stage := .removing }))
    else none
  | .remove n => (w.listeners n).bind fun l =>
    if l.stage = .removing then some (w.remove n l) else none
  | .mark n => (w.listeners n).bind fun l =>
    if l.stage = .marking then
      some { w.setListener n (some { l with stage := .acking }) with
        service := { w.service with lastAppliedCallbackId := some l.callbackId } }
    else none
  | .ack n => (w.listeners n).bind fun l =>
    if l.stage = .acking then some (w.ack n l) else none

end Desktop

end Slan.Access
