import Mathlib.Algebra.Order.BigOperators.Group.List
import Slan.Access.CallbackDelivery

/-! # What is on its way arrives

Left to themselves, the handlers and the broadcasts come to an end, and not before all is sent.
-/

namespace Slan.Access

open Transition

/-- A step of the server, for which nobody is waited. -/
def CallbackMove.inner : CallbackMove → Bool
  | load _ | sendStatus _ | finishAck _ | unregister _ | beginBroadcast _ | broadcastTo ..
  | endBroadcast _ | finishAcknowledge => true
  | _ => false

/-- How many steps a handler has left, at most. -/
def Phase.left : Phase → Nat
  | registered => 3
  | loaded _ | acknowledging => 2
  | serving => 1
  | gone => 0

def Broadcast.left (sessions : Nat) : Broadcast → Nat
  | waiting => sessions + 2
  | sending remaining => remaining.length + 1
  | done => 0

namespace Callbacks

def phaseLeft (w : Callbacks) (c : Nat) : Nat := ((w.connections c).map fun k => k.phase.left).getD 0

/-- How many steps the server has left, at most. -/
def left (w : Callbacks) : Nat :=
  (w.sessions.map w.phaseLeft).sum +
    (w.completions.map fun x => x.broadcast.left w.sessions.length).sum + w.acknowledging

/-- A handler that is not over has its connection in the hub. -/
def Registered (w : Callbacks) : Prop :=
  ∀ c k, w.connections c = some k → k.phase ≠ .gone → c ∈ w.sessions

variable {callbackId : String} {w t : Callbacks} {c : Nat} {k k' : Connection}

theorem registered_setConnection (hw : w.Registered) (hconnection : w.connections c = some k)
    (hphase : k'.phase ≠ .gone → k.phase ≠ .gone) : (w.setConnection c k').Registered := by
  intro c' other hother hgoes
  by_cases hc : c' = c
  · unfold setConnection at hother
    dsimp only at hother
    rw [hc, Function.update_self] at hother
    obtain rfl := Option.some.inj hother
    exact hc ▸ hw c k hconnection (hphase hgoes)
  · exact hw c' other ((Function.update_of_ne hc ..).symm.trans hother) hgoes

/-- A handler that goes is over when it leaves the hub. -/
theorem registered_unregister (hw : w.Registered) :
    ({ w.setConnection c { k with phase := .gone } with
      sessions := w.sessions.erase c } : Callbacks).Registered := by
  intro c' other hother hgoes
  by_cases hc : c' = c
  · unfold setConnection at hother
    dsimp only at hother
    rw [hc, Function.update_self] at hother
    rw [← Option.some.inj hother] at hgoes
    exact absurd rfl hgoes
  · exact (List.mem_erase_of_ne hc).mpr
      (hw c' other ((Function.update_of_ne hc ..).symm.trans hother) hgoes)

theorem registered_step {a : CallbackMove} (hw : w.Registered)
    (hstep : w.step callbackId a = some t) : t.Registered := by
  cases a with
  | connect c =>
    obtain ⟨-, rfl⟩ := ite_some_iff.mp hstep
    intro c' other hother hgoes
    by_cases hc : c' = c
    · exact hc ▸ List.mem_cons_self
    · exact List.mem_cons_of_mem c
        (hw c' other ((Function.update_of_ne hc ..).symm.trans hother) hgoes)
  | load c =>
    obtain ⟨k, hconnection, hphase, rfl⟩ := of_step_load hstep
    exact registered_setConnection hw hconnection fun _ hgone => nomatch hphase.symm.trans hgone
  | ack c now =>
    obtain ⟨k, hconnection, hphase, rfl⟩ := of_step_ack hstep
    have hruns : k.phase ≠ .gone := fun hgone => nomatch hphase.symm.trans hgone
    unfold ack
    split
    · exact registered_setConnection hw hconnection fun _ => hruns
    · exact registered_setConnection (w := w.markReceived now) hw hconnection fun _ => hruns
  | finishAck c =>
    obtain ⟨k, hconnection, hphase, rfl⟩ := of_step_finishAck hstep
    exact registered_setConnection (w := w.deletePayload) hw hconnection
      fun _ hgone => nomatch hphase.symm.trans hgone
  | sendStatus c =>
    obtain ⟨k, payload, hconnection, hphase, rfl⟩ := of_step_sendStatus hstep
    exact registered_setConnection hw hconnection fun _ hgone => nomatch hphase.symm.trans hgone
  | close c =>
    obtain ⟨k, hconnection, rfl⟩ := Option.map_eq_some_iff.mp hstep
    exact registered_setConnection hw hconnection id
  | unregister c =>
    obtain ⟨k, -, -, rfl⟩ := of_step_unregister hstep
    exact registered_unregister hw
  | complete req =>
    obtain rfl := Option.some.inj hstep
    unfold complete
    split <;> exact hw
  | acknowledge now =>
    obtain rfl := Option.some.inj hstep
    unfold acknowledge
    split <;> exact hw
  | beginBroadcast n =>
    obtain ⟨x, -, -, rfl⟩ := of_step_beginBroadcast hstep
    exact hw
  | endBroadcast n =>
    obtain ⟨x, -, -, rfl⟩ := of_step_endBroadcast hstep
    exact hw
  | broadcastTo n c =>
    obtain ⟨x, remaining, k, -, -, -, hconnection, rfl⟩ := of_step_broadcastTo hstep
    exact registered_setConnection (w := w.setBroadcast n x _) hw hconnection
      fun hgoes => (k.send_fields _).1 ▸ hgoes
  | finishAcknowledge =>
    obtain ⟨-, rfl⟩ := of_step_finishAcknowledge hstep
    exact hw

/-- A step of a handler that is not over leaves it fewer. -/
theorem sum_phaseLeft_lt (hsession : c ∈ w.sessions) (hconnection : w.connections c = some k)
    (hless : k'.phase.left < k.phase.left) :
    (w.sessions.map (w.setConnection c k').phaseLeft).sum < (w.sessions.map w.phaseLeft).sum := by
  have hself : (w.setConnection c k').phaseLeft c = k'.phase.left := by
    unfold setConnection phaseLeft
    dsimp only
    rw [Function.update_self]
    rfl
  have hbefore : w.phaseLeft c = k.phase.left := by
    unfold phaseLeft
    rw [hconnection]
    rfl
  refine List.sum_lt_sum _ _ (fun c' _ => ?_) ⟨c, hsession, by rwa [hself, hbefore]⟩
  by_cases hc : c' = c
  · rw [hc, hself, hbefore]
    exact hless.le
  · unfold setConnection phaseLeft
    dsimp only
    rw [Function.update_of_ne hc]

theorem sum_set_lt {α : Type} (f : α → Nat) {y : α} :
    ∀ (xs : List α) {n : Nat} {x : α}, xs[n]? = some x → f y < f x →
      ((xs.set n y).map f).sum < (xs.map f).sum
  | z :: xs, 0, x, hx, hless => by
    obtain rfl := Option.some.inj hx
    simpa using hless
  | z :: xs, n + 1, x, hx, hless => by
    have hrest := sum_set_lt f xs (by simpa using hx) hless
    simpa using hrest

theorem left_setConnection_lt (hw : w.Registered) (hconnection : w.connections c = some k)
    (hless : k'.phase.left < k.phase.left) : (w.setConnection c k').left < w.left := by
  have hsession : c ∈ w.sessions := hw c k hconnection fun hgone => by
    rw [hgone] at hless
    exact Nat.not_lt_zero _ hless
  have hsum := sum_phaseLeft_lt hsession hconnection hless
  change _ + (w.completions.map fun x => x.broadcast.left w.sessions.length).sum +
    w.acknowledging < w.left
  unfold left
  change (w.sessions.map (w.setConnection c k').phaseLeft).sum + _ + _ < _
  omega

theorem left_setConnection_eq (hconnection : w.connections c = some k)
    (hphase : k'.phase = k.phase) : (w.setConnection c k').left = w.left := by
  have hsame : (w.setConnection c k').phaseLeft = w.phaseLeft := by
    funext c'
    unfold setConnection phaseLeft
    dsimp only
    by_cases hc : c' = c
    · rw [hc, Function.update_self, hconnection, Option.map_some, Option.map_some, hphase]
    · rw [Function.update_of_ne hc]
  unfold left
  rw [hsame]
  rfl

theorem broadcast_left_mono {m n : Nat} (h : m ≤ n) (broadcast : Broadcast) :
    broadcast.left m ≤ broadcast.left n := by
  cases broadcast with
  | waiting => exact Nat.add_le_add_right h 2
  | sending remaining => exact Nat.le_refl _
  | done => exact Nat.le_refl 0

theorem left_unregister_lt (hsession : c ∈ w.sessions) (hconnection : w.connections c = some k)
    (hless : k'.phase.left < k.phase.left) :
    ({ w.setConnection c k' with sessions := w.sessions.erase c } : Callbacks).left < w.left := by
  have hsum := sum_phaseLeft_lt hsession hconnection hless
  have hfewer : ((w.sessions.erase c).map (w.setConnection c k').phaseLeft).sum ≤
      (w.sessions.map (w.setConnection c k').phaseLeft).sum :=
    (List.erase_sublist.map _).sum_le_sum fun _ _ => Nat.zero_le _
  have hwaiting : (w.completions.map fun x => x.broadcast.left (w.sessions.erase c).length).sum ≤
      (w.completions.map fun x => x.broadcast.left w.sessions.length).sum :=
    List.sum_le_sum fun x _ => broadcast_left_mono List.length_erase_le x.broadcast
  unfold left
  change ((w.sessions.erase c).map (w.setConnection c k').phaseLeft).sum +
    (w.completions.map fun x => x.broadcast.left (w.sessions.erase c).length).sum +
      w.acknowledging < _
  omega

theorem left_setBroadcast_lt {n : Nat} {x : Completion} (hx : w.completions[n]? = some x)
    {broadcast : Broadcast}
    (hless : broadcast.left w.sessions.length < x.broadcast.left w.sessions.length) :
    (w.setBroadcast n x broadcast).left < w.left := by
  have hsum := sum_set_lt (fun x : Completion => x.broadcast.left w.sessions.length) w.completions
    (y := { x with broadcast }) hx hless
  unfold left
  change (w.sessions.map w.phaseLeft).sum + _ + w.acknowledging < _
  exact Nat.add_lt_add_right (Nat.add_lt_add_left hsum _) _

/-- Every step of its own brings the server nearer to its end. -/
theorem left_lt {a : CallbackMove} (hw : w.Registered) (ha : a.inner = true)
    (hstep : w.step callbackId a = some t) : t.left < w.left := by
  cases a with
  | connect | ack | close | complete | acknowledge => cases ha
  | load c =>
    obtain ⟨k, hconnection, hphase, rfl⟩ := of_step_load hstep
    refine left_setConnection_lt hw hconnection ?_
    rw [hphase]
    exact Nat.lt_succ_self 2
  | sendStatus c =>
    obtain ⟨k, payload, hconnection, hphase, rfl⟩ := of_step_sendStatus hstep
    refine left_setConnection_lt hw hconnection ?_
    rw [hphase]
    exact Nat.lt_succ_self 1
  | finishAck c =>
    obtain ⟨k, hconnection, hphase, rfl⟩ := of_step_finishAck hstep
    refine left_setConnection_lt (w := w.deletePayload) hw hconnection ?_
    rw [hphase]
    exact Nat.lt_succ_self 1
  | unregister c =>
    obtain ⟨k, hconnection, hgoes, rfl⟩ := of_step_unregister hstep
    have hsession : c ∈ w.sessions :=
      hw c k hconnection fun hgone => nomatch hgoes.2.1.symm.trans hgone
    have hless : ({ k with phase := .gone } : Connection).phase.left < k.phase.left := by
      rw [hgoes.2.1]
      exact Nat.one_pos
    exact left_unregister_lt hsession hconnection hless
  | beginBroadcast n =>
    obtain ⟨x, hx, hwaits, rfl⟩ := of_step_beginBroadcast hstep
    refine left_setBroadcast_lt hx ?_
    rw [hwaits]
    exact Nat.lt_succ_self _
  | broadcastTo n c =>
    obtain ⟨x, remaining, k, hx, hsending, hremains, hconnection, rfl⟩ :=
      of_step_broadcastTo hstep
    have hless : (Broadcast.sending (remaining.erase c)).left w.sessions.length <
        x.broadcast.left w.sessions.length := by
      rw [hsending]
      change (remaining.erase c).length + 1 < remaining.length + 1
      have hpos := List.length_pos_of_mem hremains
      rw [List.length_erase_of_mem hremains]
      omega
    rw [left_setConnection_eq (w := w.setBroadcast n x _) hconnection (k.send_fields _).1]
    exact left_setBroadcast_lt hx hless
  | endBroadcast n =>
    obtain ⟨x, hx, hsent, rfl⟩ := of_step_endBroadcast hstep
    refine left_setBroadcast_lt hx ?_
    rw [hsent]
    exact Nat.zero_lt_succ _
  | finishAcknowledge =>
    obtain ⟨hacks, rfl⟩ := of_step_finishAcknowledge hstep
    exact Nat.add_lt_add_left (Nat.sub_lt hacks Nat.one_pos) _

/-- While a payload is on its way to a connection there is such a step. -/
theorem exists_step (hconnection : w.connections c = some k) {n : Nat}
    (hway : w.OnWay c k n) : ∃ a : CallbackMove, a.inner = true ∧
      (w.step callbackId a).isSome = true := by
  rcases hway with (⟨ready, hloaded, _⟩ | ⟨x, hx, hreaches⟩) | ⟨hregistered, _⟩
  · refine ⟨.sendStatus c, rfl, ?_⟩
    simp [step, hconnection, hloaded]
  · cases hbroadcast : x.broadcast with
    | waiting => exact ⟨.beginBroadcast n, rfl, by simp [step, hx, hbroadcast]⟩
    | sending remaining =>
      rw [hbroadcast] at hreaches
      have hremains : c ∈ remaining := hreaches
      exact ⟨.broadcastTo n c, rfl, by simp [step, hx, hbroadcast, hremains, hconnection]⟩
    | done =>
      rw [hbroadcast] at hreaches
      cases hreaches
  · exact ⟨.load c, rfl, by simp [step, hconnection, hregistered]⟩

theorem registered_reachable (h : Reachable (rel (step callbackId)) start w) : w.Registered :=
  h.invariant Registered nofun fun _ _ _ hw hs => registered_step hw hs

/-- A run of such steps is no longer than what is left. -/
theorem length_le_left {as : List CallbackMove} (hw : w.Registered)
    (has : ∀ a ∈ as, a.inner = true) (hexec : exec (step callbackId) w as = some t) :
    as.length + t.left ≤ w.left := by
  induction as generalizing w with
  | nil =>
    obtain rfl := Option.some.inj hexec
    exact (Nat.zero_add _).le
  | cons a as ih =>
    obtain ⟨u, hstep, hrest⟩ := Option.bind_eq_some_iff.mp hexec
    have hlater := ih (registered_step hw hstep) (fun b hb => has b (List.mem_cons_of_mem a hb)) hrest
    have hless := left_lt hw (has a List.mem_cons_self) hstep
    rw [List.length_cons]
    omega

/-- In every run of which each step keeps to the guard, no payload is lost; left to itself, the
server comes to an end, and then none is on its way any more. -/
theorem callback_delivered (callbackId : String) (w : Callbacks)
    (h : Reachable (guarded (KeepsPayloads callbackId) (rel (step callbackId))) start w) :
    w.Delivers callbackId ∧ ∀ as t, (∀ a ∈ as, a.inner = true) →
      exec (step callbackId) w as = some t → as.length ≤ w.left ∧
        ((∀ a : CallbackMove, a.inner = true → t.step callbackId a = none) →
          ∀ c k, t.connections c = some k → ∀ n, ¬t.OnWay c k n) := by
  refine ⟨(sound_reachable h).delivers, fun as t has hexec => ⟨?_, ?_⟩⟩
  · have hlength := length_le_left (registered_reachable h.of_guarded) has hexec
    omega
  · intro hends c k hconnection n hway
    have henabled : ∃ a : CallbackMove, a.inner = true ∧ (t.step callbackId a).isSome = true :=
      exists_step hconnection hway
    obtain ⟨a, ha, henabled⟩ := henabled
    rw [hends a ha] at henabled
    cases henabled

/-! ## A payload that was loaded before the last one was completed -/

section Samples

def loginOf (accessToken : String) : CompleteAuthCallbackRequest :=
  ⟨accessToken, "user-1", "", 0, "", "", "login"⟩

def callbacksAfter (run : List CallbackMove) : Callbacks := execD (step "login-1") start run

theorem exec_callbacksAfter (run : List CallbackMove)
    (h : (exec (step "login-1") start run).isSome = true) :
    exec (step "login-1") start run = some (callbacksAfter run) := exec_eq_execD h

/-- A connection has loaded the first payload, and is sent the second before it sends it. -/
def overtaken : List CallbackMove :=
  [.complete (loginOf "a"), .beginBroadcast 0, .endBroadcast 0, .connect 0, .load 0,
    .complete (loginOf "b"), .beginBroadcast 1, .broadcastTo 1 0, .endBroadcast 1, .sendStatus 0]

end Samples

theorem callback_overtaken : ¬∀ (callbackId : String) (w : Callbacks),
    Reachable (rel (step callbackId)) start w → w.Delivers callbackId := by
  intro h
  have hreach := Reachable.of_exec .start (exec_callbacksAfter overtaken (by decide))
  have hconnection : (callbacksAfter overtaken).connections 0 = some ⟨.serving, true, 1, some 0,
      [.authCallbackReady ⟨1, loginOf "b"⟩,
        .authCallbackReady ⟨0, { loginOf "a" with expiresIn := 3600 }⟩]⟩ := by decide
  have hdone : ∀ x ∈ (callbacksAfter overtaken).completions, x.broadcast = .done := by
    decide
  have hlength : (callbacksAfter overtaken).requests.length = 2 := by decide
  have hlast := (h _ _ hreach).last 0 _ hconnection rfl (fun n hway => ?_) _ rfl
  · unfold Newest at hlast
    rw [hlength] at hlast
    cases hlast
  · rcases hway with (⟨_, hloaded, _⟩ | ⟨x, hx, hreaches⟩) | ⟨hregistered, _⟩
    · cases hloaded
    · rw [hdone x (List.mem_of_getElem? hx)] at hreaches
      cases hreaches
    · cases hregistered

theorem callback_delivered_greeted :
    (callbacksAfter [.connect 0, .load 0, .complete (loginOf "a"), .beginBroadcast 0,
      .broadcastTo 0 0]).Delivers "login-1" := by
  have hloaded : Reachable (guarded (KeepsPayloads "login-1") (rel (step "login-1"))) start
      (callbacksAfter [.connect 0, .load 0]) := by
    refine .guarded_of_exec .start (fun a ha _ => ?_) (exec_callbacksAfter _ (by decide))
    rcases List.mem_pair.mp ha with rfl | rfl <;> trivial
  have hcompleted : Reachable (guarded (KeepsPayloads "login-1") (rel (step "login-1"))) start
      (callbacksAfter [.connect 0, .load 0, .complete (loginOf "a")]) := by
    refine hloaded.next (a := .complete (loginOf "a")) ⟨fun _ => ⟨⟨rfl, ?_⟩, nofun⟩, rfl⟩
    intro c k hconnection hphase
    have hwas : (callbacksAfter [.connect 0, .load 0]).connections = Function.update
        (Function.update (fun _ => none) 0 (some ⟨.registered, true, 0, none, []⟩)) 0
          (some ⟨.loaded none, true, 0, none, []⟩) := rfl
    rw [hwas] at hconnection
    by_cases hc : c = 0
    · rw [hc, Function.update_self] at hconnection
      rw [← Option.some.inj hconnection] at hphase
      cases hphase
    · rw [Function.update_of_ne hc, Function.update_of_ne hc] at hconnection
      cases hconnection
  have hbegun : Reachable (guarded (KeepsPayloads "login-1") (rel (step "login-1"))) start
      (callbacksAfter [.connect 0, .load 0, .complete (loginOf "a"), .beginBroadcast 0]) :=
    hcompleted.next (a := .beginBroadcast 0) ⟨trivial, rfl⟩
  refine (callback_delivered "login-1" _ (hbegun.next (a := .broadcastTo 0 0) ⟨?_, rfl⟩)).1
  intro k _ _ m hnewest
  exact .inl (Nat.succ.inj hnewest)

end Callbacks

end Slan.Access
