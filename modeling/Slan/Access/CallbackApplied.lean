import Slan.Access.AuthCallbackService

/-! # What the app does with a completed callback

The ids, the mark of the last callback and the attempts change between the check of a message and
what its listener does later. What holds of each listener says what must not have changed.
-/

namespace Slan.Access

open Transition

def Stage.Applying : Stage → Prop
  | persisting _ | hydrating _ | activating | removing => True
  | marking | acking => False

def Stage.PastPersisting : Stage → Prop
  | persisting _ => False
  | _ => True

theorem Stage.afterApply_pastPersisting (action : Option String) :
    (afterApply action).PastPersisting := by
  unfold afterApply
  split <;> trivial

namespace Desktop

/-- What is applied is applied once, what is acknowledged has been applied and persisted, and only
the id of the callback that is applied is removed. -/
structure AppliedAsAcknowledged (w : Desktop) : Prop where
  once : w.applied.Nodup
  acked : ∀ c ∈ w.acked, c ∈ w.applied ∧ c ∈ w.persisted
  removed : ∀ r ∈ w.removed, trimmed r.2 = r.1

def Opened (w : Desktop) (s : Nat) : Prop :=
  ∃ socket, w.sockets s = some socket ∧ socket.state = .opened

/-- No other id is pending. -/
def Awaits (w : Desktop) (callbackId : String) : Prop :=
  ∀ p, w.service.pendingCallbackId = some p → trimmed p = callbackId

/-- A payload that comes on a socket is applied for the first time, for the id that is pending, or
it is a duplicate of one that is persisted. What is incomplete does not come. -/
def InTurnOn (w : Desktop) (socket : Socket) (callback : LoginCallback) : Prop :=
  if w.service.lastAppliedCallbackId = some socket.callbackId then
    socket.state = .opened → callback ∈ w.persisted
  else ∀ loaded, callback.payload = some loaded →
    if loaded.Incomplete then socket.state ≠ .opened
    else callback ∉ w.applied ∧ w.Awaits socket.callbackId

/-- Payloads come in their turn, no attempt with another id is stored while a callback is applied,
and the session is stored if its callback can still be acknowledged. -/
def InTurn (w : Desktop) : DesktopMove → Prop
  | .message s _ completion text => ∀ socket payload, w.sockets s = some socket →
    readMessage text = some (.authCallbackReady payload) →
      w.InTurnOn socket ⟨completion, serverPayload payload⟩
  | .store a => ∀ callbackId, w.attempts a = some callbackId → ∀ n l, w.listeners n = some l →
    l.stage.Applying → trimmed callbackId = l.callbackId
  | .persist n outcome => ∀ l, w.listeners n = some l → w.Opened l.socket → outcome = .stored
  | _ => True

/-- What holds of a listener all along. -/
structure Holds (w : Desktop) (l : Listener) : Prop where
  socket : w.sockets l.socket ≠ none
  applied : ∀ loaded, l.stage = .persisting loaded → l.callback ∈ w.applied
  persisted : l.stage.PastPersisting → w.Opened l.socket → l.callback ∈ w.persisted
  awaits : l.stage.Applying → w.Awaits l.callbackId

structure Sound (w : Desktop) : Prop where
  once : w.applied.Nodup
  persisted : ∀ c ∈ w.persisted, c ∈ w.applied
  acked : ∀ c ∈ w.acked, c ∈ w.persisted
  removed : ∀ r ∈ w.removed, trimmed r.2 = r.1
  holds : ∀ n l, w.listeners n = some l → w.Holds l

/-- Sockets stay and are not opened again, and the lists only grow. -/
structure Later (w w' : Desktop) : Prop where
  sockets : ∀ s, w.sockets s ≠ none → w'.sockets s ≠ none ∧ (w'.Opened s → w.Opened s)
  applied : ∀ c ∈ w.applied, c ∈ w'.applied
  persisted : ∀ c ∈ w.persisted, c ∈ w'.persisted

/-- Nothing changes but variables that no listener goes by. -/
structure Quiet (w w' : Desktop) : Prop extends Later w w' where
  pending : w'.service.pendingCallbackId = w.service.pendingCallbackId
  listeners : w'.listeners = w.listeners
  applied_eq : w'.applied = w.applied
  persisted_eq : w'.persisted = w.persisted
  acked : w'.acked = w.acked
  removed : w'.removed = w.removed

variable {w w' : Desktop} {l : Listener} {n : Nat}

theorem Sound.appliedAsAcknowledged (h : w.Sound) : w.AppliedAsAcknowledged :=
  ⟨h.once, fun c hc => ⟨h.persisted c (h.acked c hc), h.acked c hc⟩, h.removed⟩

theorem sound_start (pendingCallbackId : Option String)
    (persistedSession session : Option SessionModel) :
    (start pendingCallbackId persistedSession session).Sound where
  once := List.nodup_nil
  persisted _ hc := absurd hc List.not_mem_nil
  acked _ hc := absurd hc List.not_mem_nil
  removed _ hr := absurd hr List.not_mem_nil
  holds _ _ hl := absurd hl.symm (Option.some_ne_none _)

theorem Holds.later (h : w.Holds l) (hlater : w.Later w')
    (hawaits : l.stage.Applying → w'.Awaits l.callbackId) : w'.Holds l where
  socket := (hlater.sockets l.socket h.socket).1
  applied loaded hstage := hlater.applied _ (h.applied loaded hstage)
  persisted hpast hopened :=
    hlater.persisted _ (h.persisted hpast ((hlater.sockets l.socket h.socket).2 hopened))
  awaits := hawaits

theorem Later.refl (w : Desktop) : w.Later w :=
  ⟨fun _ hs => ⟨hs, id⟩, fun _ => id, fun _ => id⟩

/-- It is enough that the sockets and the lists stay. -/
theorem Later.of_eq (hsockets : w'.sockets = w.sockets) (happlied : w'.applied = w.applied)
    (hpersisted : w'.persisted = w.persisted) : w.Later w' where
  sockets s hs := by
    unfold Opened
    rw [hsockets]
    exact ⟨hs, id⟩
  applied c hc := happlied ▸ hc
  persisted c hc := hpersisted ▸ hc

theorem Sound.quiet (h : w.Sound) (hquiet : w.Quiet w') : w'.Sound where
  once := hquiet.applied_eq ▸ h.once
  persisted c hc := by
    rw [hquiet.persisted_eq] at hc
    exact hquiet.applied c (h.persisted c hc)
  acked c hc := by
    rw [hquiet.acked] at hc
    exact hquiet.persisted c (h.acked c hc)
  removed r hr := h.removed r (hquiet.removed ▸ hr)
  holds n l hl := by
    rw [hquiet.listeners] at hl
    refine (h.holds n l hl).later hquiet.toLater fun happlying => ?_
    unfold Awaits
    rw [hquiet.pending]
    exact (h.holds n l hl).awaits happlying

theorem Sound.setListener (h : w.Sound) (hl : w.Holds l) : (w.setListener n (some l)).Sound where
  once := h.once
  persisted := h.persisted
  acked := h.acked
  removed := h.removed
  holds m l' hl' := by
    have hsame : (w.setListener n (some l)).Holds l' ↔ w.Holds l' :=
      ⟨fun h => ⟨h.socket, h.applied, h.persisted, h.awaits⟩,
        fun h => ⟨h.socket, h.applied, h.persisted, h.awaits⟩⟩
    rw [hsame]
    unfold Desktop.setListener at hl'
    dsimp only at hl'
    by_cases hm : m = n
    · rw [hm, Function.update_self] at hl'
      rw [← Option.some.inj hl']
      exact hl
    · rw [Function.update_of_ne hm] at hl'
      exact h.holds m l' hl'

theorem Sound.dropListener (h : w.Sound) : (w.setListener n none).Sound where
  once := h.once
  persisted := h.persisted
  acked := h.acked
  removed := h.removed
  holds m l hl := by
    unfold Desktop.setListener at hl
    dsimp only at hl
    by_cases hm : m = n
    · rw [hm, Function.update_self] at hl
      cases hl
    · rw [Function.update_of_ne hm] at hl
      have hw := h.holds m l hl
      exact ⟨hw.socket, hw.applied, hw.persisted, hw.awaits⟩

/-! ## Sockets, ticks and attempts -/

theorem quiet_service (w : Desktop) (service : AuthCallbackService)
    (hpending : service.pendingCallbackId = w.service.pendingCallbackId) :
    w.Quiet { w with service } :=
  ⟨.of_eq rfl rfl rfl, hpending, rfl, rfl, rfl, rfl, rfl⟩

/-- A socket gets a new state, and is not open unless it was. -/
theorem quiet_setSocket {s : Nat} {socket : Socket}
    (hopened : w.sockets s ≠ none → socket.state = .opened → w.Opened s) :
    w.Quiet (w.setSocket s socket) where
  sockets s' hs' := by
    unfold Desktop.Opened Desktop.setSocket
    dsimp only
    by_cases hs : s' = s
    · rw [hs, Function.update_self]
      refine ⟨nofun, ?_⟩
      rintro ⟨socket', hsocket, hstate⟩
      rw [← Option.some.inj hsocket] at hstate
      exact hopened (hs ▸ hs') hstate
    · rw [Function.update_of_ne hs]
      exact ⟨hs', id⟩
  applied _ := id
  persisted _ := id
  pending := rfl
  listeners := rfl
  applied_eq := rfl
  persisted_eq := rfl
  acked := rfl
  removed := rfl

theorem Sound.closeSocket (h : w.Sound) : w.closeSocket.Sound := by
  have hforget : w.forgetSocket.Sound := h.quiet (quiet_service w _ rfl)
  unfold Desktop.closeSocket
  split
  · split
    · exact hforget.quiet (quiet_setSocket fun _ hstate => nomatch hstate)
    · exact hforget
  · exact hforget

theorem Sound.done (h : w.Sound) (s : Nat) (socket : Socket) : (w.done s socket).Sound := by
  have hset : (w.setSocket s { socket with state := .closed }).Sound :=
    h.quiet (quiet_setSocket fun _ hstate => nomatch hstate)
  unfold Desktop.done
  dsimp only
  split
  · exact hset.quiet (quiet_service _ _ rfl)
  · exact hset

theorem Sound.runAction (h : w.Sound) (result : Except String (Option String)) :
    (w.runAction result).Sound := by
  unfold Desktop.runAction
  split
  · exact h.quiet (quiet_service w _ rfl)
  · exact h
  · exact h.quiet (quiet_service w _ rfl)

theorem holds_runAction (h : w.Holds l) (result : Except String (Option String)) :
    (w.runAction result).Holds l := by
  unfold Desktop.runAction
  split
  · exact ⟨h.socket, h.applied, h.persisted, h.awaits⟩
  · exact h
  · exact ⟨h.socket, h.applied, h.persisted, h.awaits⟩

theorem Sound.connects (h : w.Sound) (connects : Nat → Option String) :
    { w with connects }.Sound :=
  h.quiet ⟨.of_eq rfl rfl rfl, rfl, rfl, rfl, rfl, rfl, rfl⟩

theorem Sound.tick (h : w.Sound) (r : Nat) : (w.ensurePendingServerCallbackSocket r).Sound := by
  unfold ensurePendingServerCallbackSocket
  dsimp only
  split
  · exact h.closeSocket
  · split
    · exact h
    · exact h.closeSocket.connects _

/-- No listener that applies a callback waits for another id than the one stored. -/
theorem Sound.store (h : w.Sound) {a : Nat} {callbackId : String}
    (hturn : ∀ n l, w.listeners n = some l → l.stage.Applying →
      trimmed callbackId = l.callbackId) :
    { w with
      service := { w.service with pendingCallbackId := some callbackId }
      attempts := Function.update w.attempts a none }.Sound where
  once := h.once
  persisted := h.persisted
  acked := h.acked
  removed := h.removed
  holds n l hl := by
    refine (h.holds n l hl).later (.of_eq rfl rfl rfl) fun happlying p hp => ?_
    rw [← Option.some.inj hp]
    exact hturn n l hl happlying

/-! ## Messages -/

theorem Sound.acking (h : w.Sound) {s : Nat} {callbackId : String} {callback : LoginCallback}
    (hs : w.sockets s ≠ none) (hpersisted : w.Opened s → callback ∈ w.persisted) :
    (w.setListener n (some ⟨s, callbackId, callback, .acking⟩)).Sound :=
  h.setListener ⟨hs, nofun, fun _ => hpersisted, nofun⟩

theorem Sound.apply (h : w.Sound) {s : Nat} {callbackId : String} {callback : LoginCallback}
    {loaded : ServerPayload} (hs : w.sockets s ≠ none) (hnew : callback ∉ w.applied)
    (hawaits : w.Awaits callbackId) (service : AuthCallbackService)
    (hpending : service.pendingCallbackId = w.service.pendingCallbackId) :
    ({ w.setListener n (some ⟨s, callbackId, callback, .persisting loaded⟩) with
      service, applied := callback :: w.applied }).Sound := by
  have happlied : ({ w with service, applied := callback :: w.applied } : Desktop).Sound :=
    { once := List.nodup_cons.mpr ⟨hnew, h.once⟩
      persisted := fun c hc => List.mem_cons_of_mem _ (h.persisted c hc)
      acked := h.acked
      removed := h.removed
      holds := fun m l hl => by
        have hlater : w.Later { w with service, applied := callback :: w.applied } :=
          ⟨fun _ hs => ⟨hs, id⟩, fun _ => List.mem_cons_of_mem _, fun _ => id⟩
        refine (h.holds m l hl).later hlater fun happlying p hp => ?_
        exact (h.holds m l hl).awaits happlying p (hpending ▸ hp) }
  refine happlied.setListener (l := ⟨s, callbackId, callback, .persisting loaded⟩) ?_
  refine ⟨hs, fun _ _ => List.mem_cons_self, nofun, fun _ p hp => ?_⟩
  exact hawaits p (hpending ▸ hp)

theorem Sound.applyServerCallback (h : w.Sound) {s : Nat} {socket : Socket}
    {callback : LoginCallback} (hs : w.sockets s = some socket)
    (hturn : w.InTurnOn socket callback) :
    (w.applyServerCallback s n socket.callbackId callback).Sound := by
  have hsome : w.sockets s ≠ none := by
    rw [hs]
    exact nofun
  have hstate (hopened : w.Opened s) : socket.state = .opened := by
    obtain ⟨socket', hsocket, hstate⟩ := hopened
    rw [hs] at hsocket
    rwa [Option.some.inj hsocket]
  unfold InTurnOn at hturn
  unfold Desktop.applyServerCallback
  split at hturn
  case isTrue hmark =>
    rw [if_pos hmark]
    exact h.acking hsome fun hopened => hturn (hstate hopened)
  case isFalse hmark =>
    rw [if_neg hmark]
    split
    · exact h
    · next loaded hloaded =>
      have hload := hturn loaded hloaded
      split at hload
      case isTrue hincomplete =>
        rw [if_pos hincomplete]
        exact h.acking hsome fun hopened => absurd (hstate hopened) hload
      case isFalse hcomplete =>
        rw [if_neg hcomplete]
        exact h.apply hsome hload.1 hload.2 _ rfl

/-! ## Listeners -/

theorem Sound.persist (h : w.Sound) {loaded : ServerPayload} (hl : w.listeners n = some l)
    (hstage : l.stage = .persisting loaded) {outcome : Stored}
    (hstored : w.Opened l.socket → outcome = .stored) : (w.persist n l loaded outcome).Sound := by
  have hw := h.holds n l hl
  have hawaits : w.Awaits l.callbackId := hw.awaits (by rw [hstage]; trivial)
  cases outcome with
  | stored =>
    have hpersisted : ({ w with
        service := { w.service with persistedSession := some loaded.session }
        persisted := l.callback :: w.persisted } : Desktop).Sound :=
      { once := h.once
        persisted := fun c hc => by
          rcases List.mem_cons.mp hc with rfl | hc
          · exact hw.applied loaded hstage
          · exact h.persisted c hc
        acked := fun c hc => List.mem_cons_of_mem _ (h.acked c hc)
        removed := h.removed
        holds := fun m k hk => (h.holds m k hk).later
          ⟨fun _ hs => ⟨hs, id⟩, fun _ => id, fun _ => List.mem_cons_of_mem _⟩
          (h.holds m k hk).awaits }
    exact hpersisted.setListener
      ⟨hw.socket, nofun, fun _ _ => List.mem_cons_self, fun _ => hawaits⟩
  | refused =>
    exact h.setListener ⟨hw.socket, nofun, fun _ hopened => (nomatch hstored hopened),
      fun _ => hawaits⟩
  | failed error =>
    have hkept := h.quiet (quiet_service w { w.service with error := some error } rfl)
    refine hkept.setListener (l := { l with stage := .afterApply loaded.action })
      ⟨hw.socket, fun _ happly => ?_, fun _ hopened => (nomatch hstored hopened), fun _ => hawaits⟩
    have hstage : Stage.afterApply loaded.action = .persisting _ := happly
    have hpast := Stage.afterApply_pastPersisting loaded.action
    rw [hstage] at hpast
    exact hpast.elim

/-- A listener goes on after it has persisted the session. -/
theorem Holds.next (h : w.Holds l) {stage : Stage} (hpast : l.stage.PastPersisting)
    (hnext : stage.PastPersisting) (hawaits : stage.Applying → l.stage.Applying) :
    w.Holds { l with stage } where
  socket := h.socket
  applied loaded hstage := by
    have hstage' : stage = .persisting loaded := hstage
    rw [hstage'] at hnext
    exact hnext.elim
  persisted _ hopened := h.persisted hpast hopened
  awaits happlying := h.awaits (hawaits happlying)

theorem Sound.remove (h : w.Sound) (hl : w.listeners n = some l) (hstage : l.stage = .removing) :
    (w.remove n l).Sound := by
  have hw := h.holds n l hl
  have hawaits : w.Awaits l.callbackId := hw.awaits (by rw [hstage]; trivial)
  have hremoved : ({ w with
      service := { w.service with pendingCallbackId := none }
      removed := (w.service.pendingCallbackId.map fun p => (l.callbackId, p)).toList ++ w.removed }
      : Desktop).Sound :=
    { once := h.once
      persisted := h.persisted
      acked := h.acked
      removed := fun r hr => by
        rcases List.mem_append.mp hr with hr | hr
        · obtain ⟨p, hp, rfl⟩ := Option.map_eq_some_iff.mp (Option.mem_toList.mp hr)
          exact hawaits p hp
        · exact h.removed r hr
      holds := fun m k hk => (h.holds m k hk).later (.of_eq rfl rfl rfl) fun _ => nofun }
  refine hremoved.setListener (l := { l with stage := .marking }) ?_
  exact ⟨hw.socket, nofun, fun _ => hw.persisted (by rw [hstage]; trivial), nofun⟩

theorem Sound.ack (h : w.Sound) (hl : w.listeners n = some l) (hstage : l.stage = .acking) :
    (w.ack n l).Sound := by
  unfold Desktop.ack
  split
  · next hstate =>
    have hopened : w.Opened l.socket := Option.map_eq_some_iff.mp hstate
    have hpersisted := (h.holds n l hl).persisted (by rw [hstage]; trivial) hopened
    have hdropped : (w.setListener n none).Sound := h.dropListener
    exact {
      once := hdropped.once
      persisted := hdropped.persisted
      acked := fun c hc => by
        rcases List.mem_cons.mp hc with rfl | hc
        · exact hpersisted
        · exact h.acked c hc
      removed := hdropped.removed
      holds := fun m k hk => (hdropped.holds m k hk).later (.of_eq rfl rfl rfl)
        (hdropped.holds m k hk).awaits }
  · exact h.dropListener

/-! ## Runs -/

theorem sound_step (h : w.Sound) {a : DesktopMove} (hturn : w.InTurn a)
    (hstep : w.step a = some w') : w'.Sound := by
  cases a with
  | prepare a preferredKey now =>
    obtain ⟨-, hw⟩ := Option.ite_none_right_eq_some.mp hstep
    obtain rfl := Option.some.inj hw
    exact h.quiet ⟨.of_eq rfl rfl rfl, rfl, rfl, rfl, rfl, rfl, rfl⟩
  | store a =>
    obtain ⟨callbackId, hid, rfl⟩ := Option.map_eq_some_iff.mp hstep
    exact h.store (hturn callbackId hid)
  | tick r =>
    obtain ⟨-, hw⟩ := Option.ite_none_right_eq_some.mp hstep
    obtain rfl := Option.some.inj hw
    exact h.tick r
  | connected r s =>
    obtain ⟨callbackId, -, hstep⟩ := Option.bind_eq_some_iff.mp hstep
    obtain ⟨hfresh, hw⟩ := Option.ite_none_right_eq_some.mp hstep
    obtain rfl := Option.some.inj hw
    have hset : (w.setSocket s ⟨callbackId, .opened⟩).Sound :=
      h.quiet (quiet_setSocket fun hs => absurd hfresh hs)
    have hservice := hset.quiet (quiet_service _
      { w.service with socket := some s, socketCallbackId := some callbackId } rfl)
    exact hservice.connects _
  | connectFailed r =>
    obtain ⟨-, -, rfl⟩ := Option.map_eq_some_iff.mp hstep
    exact h.connects _
  | message s n completion text =>
    obtain ⟨socket, hs, hstep⟩ := Option.bind_eq_some_iff.mp hstep
    obtain ⟨-, hw⟩ := Option.ite_none_right_eq_some.mp hstep
    obtain rfl := Option.some.inj hw
    unfold receive
    split
    · exact h
    · exact h.closeSocket
    · next payload hread => exact h.applyServerCallback hs (hturn socket payload hs hread)
  | done s =>
    obtain ⟨socket, -, rfl⟩ := Option.map_eq_some_iff.mp hstep
    exact h.done s socket
  | persist n outcome =>
    obtain ⟨l, hl, hstep⟩ := Option.bind_eq_some_iff.mp hstep
    split at hstep
    · next loaded hstage =>
      obtain rfl := Option.some.inj hstep
      exact h.persist hl hstage (hturn l hl)
    · cases hstep
  | hydrate n result =>
    obtain ⟨l, hl, hstep⟩ := Option.bind_eq_some_iff.mp hstep
    split at hstep
    · next action hstage =>
      obtain rfl := Option.some.inj hstep
      refine (h.runAction result).setListener ?_
      refine (holds_runAction (h.holds n l hl) result).next ?_
        (Stage.afterApply_pastPersisting action) fun _ => ?_
      · rw [hstage]; trivial
      · rw [hstage]; trivial
    · cases hstep
  | activate n result =>
    obtain ⟨l, hl, hstep⟩ := Option.bind_eq_some_iff.mp hstep
    obtain ⟨hstage, hw⟩ := Option.ite_none_right_eq_some.mp hstep
    obtain rfl := Option.some.inj hw
    refine (h.runAction result).setListener ?_
    refine (holds_runAction (h.holds n l hl) result).next ?_ trivial fun _ => ?_
    · rw [hstage]; trivial
    · rw [hstage]; trivial
  | remove n =>
    obtain ⟨l, hl, hstep⟩ := Option.bind_eq_some_iff.mp hstep
    obtain ⟨hstage, hw⟩ := Option.ite_none_right_eq_some.mp hstep
    obtain rfl := Option.some.inj hw
    exact h.remove hl hstage
  | mark n =>
    obtain ⟨l, hl, hstep⟩ := Option.bind_eq_some_iff.mp hstep
    obtain ⟨hstage, hw⟩ := Option.ite_none_right_eq_some.mp hstep
    obtain rfl := Option.some.inj hw
    have hacking : (w.setListener n (some { l with stage := .acking })).Sound :=
      h.setListener ((h.holds n l hl).next (by rw [hstage]; trivial) trivial nofun)
    exact hacking.quiet (quiet_service _
      { w.service with lastAppliedCallbackId := some l.callbackId } rfl)
  | ack n =>
    obtain ⟨l, hl, hstep⟩ := Option.bind_eq_some_iff.mp hstep
    obtain ⟨hstage, hw⟩ := Option.ite_none_right_eq_some.mp hstep
    obtain rfl := Option.some.inj hw
    exact h.ack hl hstage

/-- Whatever the order of ticks, attempts, messages and what the listeners do: if each step is in
its turn, a payload is applied once and acknowledged only after it is persisted, and no other id is
removed. -/
theorem callback_applied_once (pendingCallbackId : Option String)
    (persistedSession session : Option SessionModel)
    (h : Reachable (guarded InTurn (rel step))
      (start pendingCallbackId persistedSession session) w) : w.AppliedAsAcknowledged :=
  Sound.appliedAsAcknowledged <| h.invariant Sound
    (sound_start pendingCallbackId persistedSession session)
    fun _ _ _ hw hstep => sound_step hw hstep.1 hstep.2

section Samples

def fresh : Desktop := start none none none

def readyMessage : Option Json :=
  some (.obj [("type", .str "auth_callback_ready"),
    ("payload", .obj [("accessToken", .str "token"), ("userId", .str "user-1")])])

/-- An attempt, and a tick that opens a socket for its id. -/
def attemptMoves : List DesktopMove :=
  [.prepare 0 (some "dev-1") 7, .store 0, .tick 0, .connected 0 0]

/-- What a listener does with a payload that it applies. -/
def listenerMoves : List DesktopMove :=
  [.persist 0 .stored, .hydrate 0 (.ok none), .remove 0, .mark 0, .ack 0]

def loginMoves : List DesktopMove :=
  attemptMoves ++ .message 0 0 0 readyMessage :: listenerMoves

/-- A second tick comes before the first one has its socket. -/
def overlappingTicks : List DesktopMove :=
  [.prepare 0 (some "dev-1") 7, .store 0, .tick 0, .tick 1, .connected 0 0, .connected 1 1,
    .message 0 0 0 readyMessage, .message 1 1 0 readyMessage]

def failedPersist : List DesktopMove :=
  attemptMoves ++ [.message 0 0 0 readyMessage, .persist 0 (.failed "disk full"), .remove 0,
    .mark 0, .ack 0]

/-- Another attempt is stored while the callback of the first one is applied. -/
def newerAttempt : List DesktopMove :=
  attemptMoves ++ [.message 0 0 0 readyMessage, .prepare 0 (some "dev-2") 9, .store 0,
    .persist 0 .stored, .hydrate 0 (.ok none), .remove 0]

def after (moves : List DesktopMove) : Desktop := execD step fresh moves

theorem reachable_after {moves : List DesktopMove}
    (h : (exec step fresh moves).isSome = true) : Reachable (rel step) fresh (after moves) :=
  .of_exec .start (exec_eq_execD h)

/-- A payload that comes over two sockets is applied twice, one that could not be persisted is
acknowledged, and the id of a newer attempt is removed. -/
theorem callback_misapplied :
    (∃ w, Reachable (rel step) fresh w ∧ ¬w.applied.Nodup) ∧
    (∃ w, Reachable (rel step) fresh w ∧ ∃ c ∈ w.acked, c ∉ w.persisted) ∧
    ∃ w, Reachable (rel step) fresh w ∧ ∃ r ∈ w.removed, trimmed r.2 ≠ r.1 := by
  refine ⟨⟨after overlappingTicks, reachable_after ?_, ?_⟩,
    ⟨after failedPersist, reachable_after ?_, ?_⟩, after newerAttempt, reachable_after ?_, ?_⟩ <;>
    decide

theorem inTurn_readyMessage : (after attemptMoves).InTurn (.message 0 0 0 readyMessage) := by
  intro socket payload hs hread
  have hsocket : (after attemptMoves).sockets 0 = some ⟨"dev-1", .opened⟩ := by decide
  have hpending : (after attemptMoves).service.pendingCallbackId = some "dev-1" := by
    decide
  have hmark : (after attemptMoves).service.lastAppliedCallbackId = none := by decide
  have happlied : (after attemptMoves).applied = [] := by decide
  have hpayload : payload = [("accessToken", .str "token"), ("userId", .str "user-1")] :=
    (SocketMessage.authCallbackReady.inj (Option.some.inj hread)).symm
  obtain rfl := Option.some.inj (hsocket.symm.trans hs)
  unfold InTurnOn
  rw [hmark, if_neg nofun, happlied]
  intro loaded hloaded
  have hcomplete : ¬loaded.Incomplete := by
    have hall : ∀ loaded, serverPayload payload = some loaded → ¬loaded.Incomplete := by
      rw [hpayload]
      decide
    exact hall loaded hloaded
  rw [if_neg hcomplete]
  refine ⟨List.not_mem_nil, fun p hp => ?_⟩
  rw [hpending] at hp
  rw [← Option.some.inj hp]
  decide

theorem next_after {moves : List DesktopMove} {a : DesktopMove}
    (h : Reachable (guarded InTurn (rel step)) fresh (after moves))
    (hturn : (after moves).InTurn a) (hrun : (exec step fresh (moves ++ [a])).isSome = true) :
    Reachable (guarded InTurn (rel step)) fresh (after (moves ++ [a])) :=
  h.next ⟨hturn, rel_execD hrun⟩

theorem callback_applied_once_login : (after loginMoves).AppliedAsAcknowledged := by
  have hstart : Reachable (guarded InTurn (rel step)) fresh (after []) := .start
  have hprepared := next_after (a := .prepare 0 (some "dev-1") 7) hstart trivial (by decide)
  have hidle : (after [.prepare 0 (some "dev-1") 7]).InTurn (.store 0) :=
    fun _ _ _ _ hl => nomatch hl
  have hstored := next_after hprepared hidle (by decide)
  have hattempt : Reachable (guarded InTurn (rel step)) fresh (after attemptMoves) := by
    have hticked := next_after (a := .tick 0) hstored trivial (by decide)
    exact next_after (a := .connected 0 0) hticked trivial (by decide)
  have hmessage := next_after hattempt inTurn_readyMessage (by decide)
  have hlistener : exec step (after (attemptMoves ++ [.message 0 0 0 readyMessage])) listenerMoves =
      some (after loginMoves) := exec_execD (by decide)
  refine callback_applied_once none none none (hmessage.guarded_of_exec (fun a ha w => ?_)
    hlistener)
  simp only [listenerMoves, List.mem_cons, List.not_mem_nil, or_false] at ha
  rcases ha with rfl | rfl | rfl | rfl | rfl
  · exact fun _ _ _ => rfl
  all_goals trivial

end Samples

end Desktop

end Slan.Access
