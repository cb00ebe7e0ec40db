import Slan.Lib.Transition
import Slan.App.HelperRpc

/-! # Calls over the TCP host of the helper, many at once

A call has a connection of its own. The helper accepts them in the order in which they were made
and serves one until its caller has closed it.
-/

namespace Slan.App

open Transition

/-! ## `HelperServiceTunnelHostGateway._invoke` -/

/-- How a call ends: with a line, without one in time, or with the connection. -/
inductive CallEnd where
  | answered (answer : Except CallException Json)
  | timedOut
  | unavailable
  | noElement

structure Invocation where
  method : String
  args : JsonMap

/-- A call, with its connection. -/
structure HelperCall extends Invocation where
  /-- What the caller wrote and the helper has not read. -/
  request : List Char
  /-- What the helper wrote. -/
  response : List Char
  ending : Option CallEnd

def HelperCall.gaveUp (call : HelperCall) : Bool :=
  match call.ending with
  | some .timedOut => true
  | _ => false

/-- The first line of what was written, when it is there. -/
def firstLine (response : List Char) : Option (List Char) :=
  if response.any (fun c => c == '\n' || c == '\r') then
    some (response.takeWhile fun c => !(c == '\n' || c == '\r'))
  else none

/-! ## `run_tcp_host` and `handle_tcp_client` -/

/-- `read_line`: a line with its end, or what is left when no more will come. -/
def readLine (text : List Char) (closed : Bool) : Option (List Char × List Char) :=
  match text.dropWhile (· != '\n') with
  | _ :: rest => some (text.takeWhile (· != '\n') ++ ['\n'], rest)
  | [] => if closed then some (text, []) else none

inductive Fault where
  | none
  | read
  | write
  deriving DecidableEq

/-- The helper, and its callers with the youngest last. The ends of calls close their sockets. -/
structure HelperWorld (H : Type) where
  host : H
  running : Bool
  serving : Option Nat
  /-- The connections that are not accepted yet. -/
  backlog : List Nat
  calls : List HelperCall

inductive HelperEvent where
  | call (invocation : Invocation)
  | accept
  | serve (fault : Fault)
  | receive (i : Nat)
  | timeOut (i : Nat)
  | lost (i : Nat) (reset : Bool)

namespace HelperWorld

variable {H : Type}

def start (h0 : H) : HelperWorld H := ⟨h0, true, none, [], []⟩

def setCall (w : HelperWorld H) (i : Nat) (call : HelperCall) : HelperWorld H :=
  { w with calls := w.calls.set i call }

/-- The end of a call that is going on. -/
def finish (w : HelperWorld H) (i : Nat) (ending : HelperCall → Option CallEnd) :
    Option (HelperWorld H) :=
  w.calls[i]?.bind fun call =>
    if call.ending.isSome then none
    else (ending call).map fun ending => w.setCall i { call with ending := some ending }

/-- One round of the loop over a connection. A read or a write fails only where the caller has
closed its end without having read. -/
def serveCall (helper : Helper H) (fault : Fault) (w : HelperWorld H) (i : Nat)
    (call : HelperCall) : Option (HelperWorld H) :=
  if fault ≠ .none ∧ ¬ call.gaveUp then none
  else if fault = .read then some { w with running := false }
  else
    (readLine call.request call.ending.isSome).map fun (line, rest) =>
      if line = [] then { w with serving := none }
      else
        match helper.serveLine line w.host with
        | none => { w with running := false }
        | some (text, h) =>
          if fault = .write then
            { w.setCall i { call with request := rest } with host := h, running := false }
          else
            { w.setCall i { call with request := rest, response := call.response ++ text } with
              host := h }

def step (helper : Helper H) (writer : JsonText.Writer) (w : HelperWorld H) :
    HelperEvent → Option (HelperWorld H)
  | .call invocation =>
    if w.running then
      let request := requestLine writer invocation.method invocation.args
      some { w with
        calls := w.calls ++ [{ invocation with request, response := [], ending := none }]
        backlog := w.backlog ++ [w.calls.length] }
    else
      some { w with calls := w.calls ++
        [{ invocation with request := [], response := [], ending := some .unavailable }] }
  | .accept =>
    if w.running ∧ w.serving = none then
      match w.backlog with
      | i :: backlog => some { w with serving := some i, backlog }
      | [] => none
    else none
  | .serve fault =>
    if w.running then
      w.serving.bind fun i => w.calls[i]?.bind fun call => w.serveCall helper fault i call
    else none
  | .receive i =>
    w.finish i fun call => (firstLine call.response).map fun line =>
      .answered (decodeHelperResponse line)
  | .timeOut i => w.finish i fun _ => some .timedOut
  | .lost i reset =>
    if w.running then none
    else w.finish i fun _ => some (if reset then .unavailable else .noElement)

def invocations (w : HelperWorld H) : List Invocation := w.calls.map HelperCall.toInvocation

end HelperWorld

/-! ## What the calls come to -/

section

variable {H : Type} (helper : Helper H)

/-- The helper takes a request whose arguments nest so deep at most. -/
def Invocation.Taken (invocation : Invocation) : Prop :=
  JsonText.depth (.obj invocation.args) < recursionLimit

instance (invocation : Invocation) : Decidable invocation.Taken :=
  inferInstanceAs (Decidable (_ < _))

def Invocation.resultIn (invocation : Invocation) (h : H) : Except String Json × H :=
  helper.resultOf invocation.method (.obj invocation.args) h

/-- The state after calls one after the other. -/
def hostAfter (h0 : H) (invocations : List Invocation) : H :=
  invocations.foldl (fun h invocation => (invocation.resultIn helper h).2) h0

/-- What a call is answered with. -/
def Invocation.answerIn (invocation : Invocation) (h : H) : Except CallException Json :=
  callAnswer invocation.method (invocation.resultIn helper h).1

def Invocation.responseLine (invocation : Invocation) (h : H) : List Char :=
  helper.writer.text (buildRpcResponse invocation.method (invocation.resultIn helper h).1).encode ++
    ['\n']

variable {helper}

theorem hostAfter_take_succ {h0 : H} {invocations : List Invocation} {k : Nat}
    {invocation : Invocation} (h : invocations[k]? = some invocation) :
    hostAfter helper h0 (invocations.take (k + 1)) =
      (invocation.resultIn helper (hostAfter helper h0 (invocations.take k))).2 := by
  rw [List.take_add_one, h, hostAfter, List.foldl_append]
  rfl

/-- A text without line breaks is the first line of what is written. -/
theorem firstLine_text {writer : JsonText.Writer} (v : Json) :
    firstLine (writer.text v ++ ['\n']) = some (writer.text v) := by
  have hbreak : ∀ c ∈ writer.text v, (!(c == '\n' || c == '\r')) = true := by
    intro c hc
    have hcontrol := writer.printable v c hc
    simp only [Bool.not_eq_true', Bool.or_eq_false_iff, beq_eq_false_iff_ne]
    constructor
    · rintro rfl
      exact absurd hcontrol (by decide)
    · rintro rfl
      exact absurd hcontrol (by decide)
  unfold firstLine
  rw [List.takeWhile_append_of_pos hbreak]
  simp

theorem decode_responseLine {invocation : Invocation} {h : H} {line : List Char}
    (hline : firstLine (invocation.responseLine helper h) = some line) :
    decodeHelperResponse line = invocation.answerIn helper h := by
  obtain rfl := Option.some.inj ((firstLine_text _).symm.trans hline)
  exact decodeHelperResponse_encode _ _ _

theorem requestLine_ne_nil (writer : JsonText.Writer) (method : String) (args : JsonMap) :
    requestLine writer method args ≠ [] := by
  simp [requestLine]

theorem readLine_requestLine (writer : JsonText.Writer) (invocation : Invocation) (closed : Bool) :
    readLine (requestLine writer invocation.method invocation.args) closed =
      some (requestLine writer invocation.method invocation.args, []) := by
  have hbreak (v : Json) : ∀ c ∈ writer.text v, (c != '\n') = true := by
    intro c hc
    have hcontrol := writer.printable v c hc
    rw [bne_iff_ne]
    rintro rfl
    exact absurd hcontrol (by decide)
  unfold readLine requestLine
  rw [List.dropWhile_append_of_pos (hbreak _), List.takeWhile_append_of_pos (hbreak _)]
  simp

end

/-! ## Every run -/

/-- What a call is, of which the helper has carried out so many in this state. -/
structure CallInOrder {H : Type} (helper : Helper H) (writer : JsonText.Writer) (h0 : H)
    (running : Bool) (invocations : List Invocation) (k i : Nat) (call : HelperCall) : Prop where
  request : running = true →
    call.request = if i < k then [] else requestLine writer call.method call.args
  response : (call.response = [] ∧ (running = true → k ≤ i)) ∨
    (i < k ∧ call.response =
      call.toInvocation.responseLine helper (hostAfter helper h0 (invocations.take i)))
  answered : ∀ answer, call.ending = some (.answered answer) →
    i < k ∧ answer = call.toInvocation.answerIn helper (hostAfter helper h0 (invocations.take i))
  reached : running = true → call.ending ≠ some .unavailable ∧ call.ending ≠ some .noElement

/-- The calls are carried out in the order in which they were made. -/
structure InOrder {H : Type} (helper : Helper H) (writer : JsonText.Writer) (h0 : H)
    (k accepted : Nat) (w : HelperWorld H) : Prop where
  accepted_le : accepted ≤ w.calls.length
  le_accepted : k ≤ accepted
  host : w.host = hostAfter helper h0 (w.invocations.take k)
  calls : ∀ i call, w.calls[i]? = some call →
    CallInOrder helper writer h0 w.running w.invocations k i call
  backlog : w.running = true → w.backlog = List.range' accepted (w.calls.length - accepted)
  serving : w.running = true → (w.serving = none ∧ k = accepted) ∨
    ∃ i, w.serving = some i ∧ i + 1 = accepted ∧ (k = i ∨ k = accepted)
  ended : w.running = false →
    ∃ (i : Nat) (call : HelperCall), w.calls[i]? = some call ∧
      (call.gaveUp = true ∨ ¬ call.Taken)

namespace HelperWorld

variable {H : Type} {w : HelperWorld H} {i : Nat} {call call' : HelperCall}

theorem getElem?_setCall (hcall : w.calls[i]? = some call) (j : Nat) :
    (w.setCall i call').calls[j]? = if i = j then some call' else w.calls[j]? := by
  obtain ⟨hlt, -⟩ := List.getElem?_eq_some_iff.mp hcall
  change (w.calls.set i call')[j]? = _
  rw [List.getElem?_set]
  split_ifs with hij
  · rfl
  · rfl

theorem getElem?_invocations (hcall : w.calls[i]? = some call) :
    w.invocations[i]? = some call.toInvocation := by
  rw [invocations, List.getElem?_map, hcall]
  rfl

theorem invocations_setCall (hcall : w.calls[i]? = some call)
    (h : call'.toInvocation = call.toInvocation) :
    (w.setCall i call').invocations = w.invocations := by
  apply List.ext_getElem?
  intro j
  rw [invocations, invocations, List.getElem?_map, List.getElem?_map, getElem?_setCall hcall]
  split_ifs with hij
  · subst hij
    rw [hcall, Option.map_some, Option.map_some, h]
  · rfl

end HelperWorld

namespace InOrder

open HelperWorld

variable {H : Type} {helper : Helper H} {writer : JsonText.Writer} {h0 : H} {k accepted : Nat}
  {w w' : HelperWorld H}

theorem start (helper : Helper H) (writer : JsonText.Writer) (h0 : H) :
    InOrder helper writer h0 0 0 (.start h0) where
  accepted_le := Nat.le_refl 0
  le_accepted := Nat.le_refl 0
  host := rfl
  calls := by
    intro i call h
    simp [HelperWorld.start] at h
  backlog := fun _ => rfl
  serving := fun _ => .inl ⟨rfl, rfl⟩
  ended := by
    intro h
    simp [HelperWorld.start] at h

/-- One call changes, and the helper stays as it was. -/
theorem setCall {i : Nat} {call call' : HelperCall} (h : InOrder helper writer h0 k accepted w)
    (hcall : w.calls[i]? = some call) (hsame : call'.toInvocation = call.toInvocation)
    (hgave : call.gaveUp = true → call'.gaveUp = true)
    (hok : CallInOrder helper writer h0 w.running w.invocations k i call') :
    InOrder helper writer h0 k accepted (w.setCall i call') where
  accepted_le := by
    rw [HelperWorld.setCall, List.length_set]
    exact h.accepted_le
  le_accepted := h.le_accepted
  host := by
    rw [invocations_setCall hcall hsame]
    exact h.host
  calls := by
    intro j c hc
    rw [getElem?_setCall hcall] at hc
    rw [invocations_setCall hcall hsame]
    split_ifs at hc with hij
    · subst hij
      obtain rfl := Option.some.inj hc
      exact hok
    · exact h.calls j c hc
  backlog := by
    intro hrunning
    rw [HelperWorld.setCall, List.length_set]
    exact h.backlog hrunning
  serving := h.serving
  ended := by
    intro hrunning
    obtain ⟨j, c, hc, hwhy⟩ := h.ended hrunning
    by_cases hij : i = j
    · subst hij
      obtain rfl := Option.some.inj (hcall.symm.trans hc)
      refine ⟨i, call', by rw [getElem?_setCall hcall, if_pos rfl], ?_⟩
      unfold Invocation.Taken at hwhy ⊢
      rw [hsame]
      exact hwhy.imp hgave id
    · exact ⟨j, c, by rw [getElem?_setCall hcall, if_neg hij, hc], hwhy⟩

/-- A call that comes to its end. -/
theorem finish {i : Nat} {ending : HelperCall → Option CallEnd}
    (h : InOrder helper writer h0 k accepted w)
    (hend : ∀ call e, w.calls[i]? = some call → ending call = some e →
      (∀ answer, e = .answered answer → i < k ∧ answer = call.toInvocation.answerIn helper
        (hostAfter helper h0 (w.invocations.take i))) ∧
      (w.running = true → e ≠ .unavailable ∧ e ≠ .noElement))
    (hw : w.finish i ending = some w') : InOrder helper writer h0 k accepted w' := by
  obtain ⟨call, hcall, hgo⟩ := Option.bind_eq_some_iff.mp hw
  obtain ⟨hopen, hgo⟩ := Option.ite_none_left_eq_some.mp hgo
  obtain ⟨e, he, rfl⟩ := Option.map_eq_some_iff.mp hgo
  have hok := h.calls i call hcall
  obtain ⟨hanswered, hreached⟩ := hend call e hcall he
  refine h.setCall hcall rfl ?_ ?_
  · intro hgave
    rw [HelperCall.gaveUp, Option.not_isSome_iff_eq_none.mp hopen] at hgave
    exact absurd hgave Bool.false_ne_true
  · constructor
    · exact hok.request
    · exact hok.response
    · intro answer ha
      exact hanswered answer (Option.some.inj ha)
    · intro hrunning
      simpa using hreached hrunning

theorem receive {i : Nat} (h : InOrder helper writer h0 k accepted w)
    (hw : w.step helper writer (.receive i) = some w') :
    InOrder helper writer h0 k accepted w' := by
  refine h.finish ?_ hw
  intro call e hcall he
  obtain ⟨line, hline, rfl⟩ := Option.map_eq_some_iff.mp he
  refine ⟨?_, fun _ => ⟨nofun, nofun⟩⟩
  rintro answer ⟨rfl⟩
  rcases (h.calls i call hcall).response with ⟨hnone, -⟩ | ⟨hlt, hresponse⟩
  · rw [hnone] at hline
    simp [firstLine] at hline
  · rw [hresponse] at hline
    exact ⟨hlt, decode_responseLine hline⟩

theorem timeOut {i : Nat} (h : InOrder helper writer h0 k accepted w)
    (hw : w.step helper writer (.timeOut i) = some w') :
    InOrder helper writer h0 k accepted w' := by
  refine h.finish ?_ hw
  rintro call e - ⟨rfl⟩
  exact ⟨nofun, fun _ => ⟨nofun, nofun⟩⟩

theorem lost {i : Nat} {reset : Bool} (h : InOrder helper writer h0 k accepted w)
    (hw : w.step helper writer (.lost i reset) = some w') :
    InOrder helper writer h0 k accepted w' := by
  obtain ⟨hrunning, hgo⟩ := Option.ite_none_left_eq_some.mp hw
  refine h.finish ?_ hgo
  rintro call e - ⟨rfl⟩
  refine ⟨?_, fun hr => absurd hr hrunning⟩
  intro answer ha
  cases reset <;> cases ha

theorem accept (h : InOrder helper writer h0 k accepted w)
    (hw : w.step helper writer .accept = some w') :
    InOrder helper writer h0 k (accepted + 1) w' := by
  obtain ⟨⟨hrunning, hfree⟩, hgo⟩ := Option.ite_none_right_eq_some.mp hw
  have hk : k = accepted := by
    rcases h.serving hrunning with ⟨-, hk⟩ | ⟨i, hi, -⟩
    · exact hk
    · simp [hfree] at hi
  have hbacklog := h.backlog hrunning
  cases hqueue : w.backlog with
  | nil => simp [hqueue] at hgo
  | cons i rest =>
    rw [hqueue] at hgo hbacklog
    obtain rfl := Option.some.inj hgo
    have hlt : accepted < w.calls.length := by
      by_contra hle
      rw [Nat.sub_eq_zero_of_le (by omega)] at hbacklog
      simp at hbacklog
    have hsucc : w.calls.length - accepted = w.calls.length - (accepted + 1) + 1 := by omega
    rw [hsucc, List.range'_succ, List.cons.injEq] at hbacklog
    obtain ⟨hi, hrest⟩ := hbacklog
    constructor
    · exact hlt
    · exact Nat.le_succ_of_le h.le_accepted
    · exact h.host
    · exact h.calls
    · exact fun _ => hrest
    · exact fun _ => .inr ⟨i, rfl, by rw [hi], .inl (by rw [hi, hk])⟩
    · exact h.ended

/-- A call that is added; the states that the earlier ones found do not depend on it. -/
theorem append (h : InOrder helper writer h0 k accepted w) (new : HelperCall) (backlog : List Nat)
    (hbacklog : w.running = true → backlog = w.backlog ++ [w.calls.length])
    (hrequest : w.running = true → new.request = requestLine writer new.method new.args)
    (hresponse : new.response = [])
    (hending : new.ending = none ∨ w.running = false ∧ new.ending = some .unavailable) :
    InOrder helper writer h0 k accepted { w with calls := w.calls ++ [new], backlog } := by
  have hk := Nat.le_trans h.le_accepted h.accepted_le
  have hinvocations : ({ w with calls := w.calls ++ [new], backlog } : HelperWorld H).invocations =
      w.invocations ++ [new.toInvocation] := by
    simp [invocations]
  have htake (i : Nat) (hi : i ≤ w.calls.length) :
      (w.invocations ++ [new.toInvocation]).take i = w.invocations.take i :=
    List.take_append_of_le_length (by rwa [invocations, List.length_map])
  constructor
  · rw [List.length_append]
    exact Nat.le_trans h.accepted_le (Nat.le_add_right _ _)
  · exact h.le_accepted
  · rw [hinvocations, htake k hk]
    exact h.host
  · intro i c hi
    rw [hinvocations]
    rw [List.getElem?_append] at hi
    split_ifs at hi with hlt
    · have hok := h.calls i c hi
      constructor
      · exact hok.request
      · rw [htake i (Nat.le_of_lt hlt)]
        exact hok.response
      · rw [htake i (Nat.le_of_lt hlt)]
        exact hok.answered
      · exact hok.reached
    · rw [List.getElem?_singleton] at hi
      obtain ⟨hzero, hi⟩ := Option.ite_none_right_eq_some.mp hi
      obtain rfl := Option.some.inj hi
      constructor
      · intro hrunning
        rw [if_neg (by omega), hrequest hrunning]
      · exact .inl ⟨hresponse, fun _ => by omega⟩
      · intro answer ha
        rcases hending with hnone | ⟨-, hgone⟩
        · simp [hnone] at ha
        · simp [hgone] at ha
      · intro hrunning
        rcases hending with hnone | ⟨hgone, -⟩
        · simp [hnone]
        · rw [hgone] at hrunning
          cases hrunning
  · intro hrunning
    have hle := h.accepted_le
    have hend : accepted + 1 * (w.calls.length - accepted) = w.calls.length := by omega
    rw [hbacklog hrunning, h.backlog hrunning, List.length_append, List.length_singleton,
      Nat.sub_add_comm hle, List.range'_concat, hend]
  · exact h.serving
  · intro hrunning
    obtain ⟨i, old, hi, hwhy⟩ := h.ended hrunning
    obtain ⟨hlt, -⟩ := List.getElem?_eq_some_iff.mp hi
    exact ⟨i, old, by rw [List.getElem?_append_left hlt, hi], hwhy⟩

theorem call {invocation : Invocation} (h : InOrder helper writer h0 k accepted w)
    (hw : w.step helper writer (.call invocation) = some w') :
    InOrder helper writer h0 k accepted w' := by
  unfold HelperWorld.step at hw
  cases hrunning : w.running with
  | true =>
    simp only [hrunning, if_true] at hw
    obtain rfl := Option.some.inj hw
    have happend := h.append
      ⟨invocation, requestLine writer invocation.method invocation.args, [], none⟩ _
      (fun _ => rfl) (fun _ => rfl) rfl (.inl rfl)
    rwa [hrunning] at happend
  | false =>
    simp only [hrunning] at hw
    obtain rfl := Option.some.inj hw
    have hgone (P : Prop) (hr : w.running = true) : P := by simp [hrunning] at hr
    have happend := h.append ⟨invocation, [], [], some .unavailable⟩ w.backlog
      (hgone _) (hgone _) rfl (.inr ⟨hrunning, rfl⟩)
    rwa [hrunning] at happend

theorem stop (h : InOrder helper writer h0 k accepted w) {i : Nat} {c : HelperCall}
    (hc : w.calls[i]? = some c) (hwhy : c.gaveUp = true ∨ ¬ c.Taken) :
    InOrder helper writer h0 k accepted { w with running := false } where
  accepted_le := h.accepted_le
  le_accepted := h.le_accepted
  host := h.host
  calls := by
    intro j old hj
    have hok := h.calls j old hj
    refine ⟨nofun, ?_, hok.answered, nofun⟩
    exact hok.response.imp (fun hnone => ⟨hnone.1, nofun⟩) id
  backlog := nofun
  serving := nofun
  ended := fun _ => ⟨i, c, hc, hwhy⟩

/-- The next call is carried out. Its answer is lost only when the helper ends. -/
theorem carriedOut (h : InOrder helper writer h0 k accepted w) {c : HelperCall} (running : Bool)
    (response : List Char) (hc : w.calls[k]? = some c) (hserving : w.serving = some k)
    (haccepted : k + 1 = accepted) (hrunning : w.running = true)
    (hopen : running = true → response = c.toInvocation.responseLine helper w.host)
    (hlost : running = false → response = [] ∧ c.gaveUp = true) :
    InOrder helper writer h0 (k + 1) accepted
      { w.setCall k { c with request := [], response } with
        host := (c.toInvocation.resultIn helper w.host).2, running } := by
  have hinvocations : ({ w.setCall k { c with request := [], response } with
      host := (c.toInvocation.resultIn helper w.host).2, running } : HelperWorld H).invocations =
      w.invocations := invocations_setCall hc rfl
  constructor
  · change accepted ≤ (w.calls.set k _).length
    rw [List.length_set]
    exact h.accepted_le
  · exact Nat.le_of_eq haccepted
  · rw [hinvocations, hostAfter_take_succ (getElem?_invocations hc), ← h.host]
  · intro i old hi
    rw [hinvocations]
    replace hi : (w.setCall k { c with request := [], response }).calls[i]? = some old := hi
    rw [getElem?_setCall hc] at hi
    split_ifs at hi with hki
    · subst hki
      obtain rfl := Option.some.inj hi
      have hok := h.calls k c hc
      constructor
      · intro _
        rw [if_pos (Nat.lt_succ_self k)]
      · cases hr : running with
        | true => exact .inr ⟨Nat.lt_succ_self k, by rw [hopen hr, h.host]⟩
        | false => exact .inl ⟨(hlost hr).1, nofun⟩
      · intro answer ha
        exact absurd (hok.answered answer ha).1 (Nat.lt_irrefl k)
      · exact fun _ => hok.reached hrunning
    · have hok := h.calls i old hi
      have hlt : i < k + 1 ↔ i < k := by omega
      constructor
      · intro _
        rw [hok.request hrunning]
        simp only [hlt]
      · refine hok.response.imp ?_ ?_
        · rintro ⟨hnone, hle⟩
          exact ⟨hnone, fun _ => by have := hle hrunning; omega⟩
        · rintro ⟨hi, hresponse⟩
          exact ⟨hlt.mpr hi, hresponse⟩
      · intro answer ha
        exact ⟨hlt.mpr (hok.answered answer ha).1, (hok.answered answer ha).2⟩
      · exact fun _ => hok.reached hrunning
  · intro _
    change w.backlog = List.range' accepted ((w.calls.set k _).length - accepted)
    rw [List.length_set]
    exact h.backlog hrunning
  · exact fun _ => .inr ⟨k, hserving, haccepted, .inr haccepted⟩
  · intro hr
    refine ⟨k, { c with request := [], response }, ?_, .inl (hlost hr).2⟩
    change (w.setCall k { c with request := [], response }).calls[k]? = _
    rw [getElem?_setCall hc, if_pos rfl]

theorem serve {fault : Fault} (h : InOrder helper writer h0 k accepted w)
    (hw : w.step helper writer (.serve fault) = some w') :
    ∃ k', InOrder helper writer h0 k' accepted w' := by
  obtain ⟨hrunning, hgo⟩ := Option.ite_none_right_eq_some.mp hw
  obtain ⟨i, hserving, hgo⟩ := Option.bind_eq_some_iff.mp hgo
  obtain ⟨c, hc, hgo⟩ := Option.bind_eq_some_iff.mp hgo
  unfold serveCall at hgo
  obtain ⟨hfault, hgo⟩ := Option.ite_none_left_eq_some.mp hgo
  have hgave (hf : fault ≠ .none) : c.gaveUp = true := by
    by_contra hnot
    exact hfault ⟨hf, hnot⟩
  by_cases hread : fault = .read
  · rw [if_pos hread] at hgo
    obtain rfl := Option.some.inj hgo
    exact ⟨k, h.stop hc (.inl (hgave (by simp [hread])))⟩
  rw [if_neg hread] at hgo
  obtain ⟨⟨line, rest⟩, hline, rfl⟩ := Option.map_eq_some_iff.mp hgo
  have hok := h.calls i c hc
  have hrequest := hok.request hrunning
  obtain ⟨haccepted, hk⟩ : i + 1 = accepted ∧ (k = i ∨ k = accepted) := by
    rcases h.serving hrunning with ⟨hnone, -⟩ | ⟨j, hj, haccepted⟩
    · simp [hserving] at hnone
    · obtain rfl := Option.some.inj (hserving.symm.trans hj)
      exact haccepted
  rcases hk with rfl | rfl
  · -- its request is there
    rw [if_neg (Nat.lt_irrefl _)] at hrequest
    rw [hrequest, readLine_requestLine writer c.toInvocation, Option.some.injEq,
      Prod.mk.injEq] at hline
    obtain ⟨rfl, rfl⟩ := hline
    have hempty : c.response = [] := by
      rcases hok.response with ⟨hnone, -⟩ | ⟨hlt, -⟩
      · exact hnone
      · exact absurd hlt (Nat.lt_irrefl _)
    simp only [requestLine_ne_nil, if_false, serveLine_requestLine]
    by_cases htaken : c.Taken
    · have hdepth : JsonText.depth (.obj c.args) < recursionLimit := htaken
      refine ⟨k + 1, ?_⟩
      by_cases hwrite : fault = .write
      · simp only [hdepth, if_true, hwrite]
        exact h.carriedOut false _ hc hserving haccepted hrunning nofun
          fun _ => ⟨hempty, hgave (by simp [hwrite])⟩
      · simp only [hdepth, if_true, hwrite, if_false, hempty, List.nil_append]
        exact h.carriedOut w.running (c.toInvocation.responseLine helper w.host) hc hserving
          haccepted hrunning (fun _ => rfl) (fun hr => by simp [hrunning] at hr)
    · have hdepth : ¬ JsonText.depth (.obj c.args) < recursionLimit := htaken
      simp only [hdepth, if_false]
      exact ⟨k, h.stop hc (.inr htaken)⟩
  · -- it was carried out, and its caller has closed the connection
    rw [if_pos (by omega)] at hrequest
    obtain rfl : line = [] := by
      rw [hrequest] at hline
      simp only [readLine, List.dropWhile_nil, Option.ite_none_right_eq_some, Option.some.injEq,
        Prod.mk.injEq] at hline
      exact hline.2.1.symm
    refine ⟨_, h.accepted_le, h.le_accepted, h.host, h.calls, h.backlog, fun _ => .inl ⟨rfl, rfl⟩,
      h.ended⟩

/-- What a step comes to. -/
theorem step {event : HelperEvent} (h : InOrder helper writer h0 k accepted w)
    (hw : w.step helper writer event = some w') :
    ∃ k' accepted', InOrder helper writer h0 k' accepted' w' := by
  cases event with
  | call invocation => exact ⟨k, accepted, h.call hw⟩
  | accept => exact ⟨k, accepted + 1, h.accept hw⟩
  | serve fault =>
    obtain ⟨k', hk'⟩ := h.serve hw
    exact ⟨k', accepted, hk'⟩
  | receive i => exact ⟨k, accepted, h.receive hw⟩
  | timeOut i => exact ⟨k, accepted, h.timeOut hw⟩
  | lost i reset => exact ⟨k, accepted, h.lost hw⟩

theorem of_reachable (hw : Reachable (rel (HelperWorld.step helper writer)) (.start h0) w) :
    ∃ k accepted, InOrder helper writer h0 k accepted w := by
  refine hw.invariant (fun w => ∃ k accepted, InOrder helper writer h0 k accepted w)
    ⟨0, 0, start helper writer h0⟩ ?_
  rintro w event w' ⟨k, accepted, h⟩ hstep
  exact h.step hstep

end InOrder

/-- Over all interleavings of calls: the helper has carried out some first part of them, each once
and in the order in which they were made, those that were given up among them. A call that was
answered was carried out, and its answer is that of its own method and arguments where the earlier
ones had left the helper. The helper ends only on a call that was given up or nests too deep. -/
theorem helper_calls_in_order {H : Type} {helper : Helper H} {writer : JsonText.Writer} {h0 : H}
    {w : HelperWorld H} (hw : Reachable (rel (HelperWorld.step helper writer)) (.start h0) w) :
    ∃ k ≤ w.calls.length, w.host = hostAfter helper h0 (w.invocations.take k) ∧
      (∀ (i : Nat) (call : HelperCall) (answer : Except CallException Json),
        w.calls[i]? = some call → call.ending = some (.answered answer) →
        i < k ∧ answer = call.toInvocation.answerIn helper
          (hostAfter helper h0 (w.invocations.take i))) ∧
      (w.running = false → ∃ call ∈ w.calls, call.gaveUp = true ∨ ¬ call.Taken) := by
  obtain ⟨k, accepted, h⟩ := InOrder.of_reachable hw
  refine ⟨k, Nat.le_trans h.le_accepted h.accepted_le, h.host, ?_, ?_⟩
  · intro i call answer hi ha
    exact (h.calls i call hi).answered answer ha
  · intro hrunning
    obtain ⟨i, call, hi, hwhy⟩ := h.ended hrunning
    exact ⟨call, List.mem_of_getElem? hi, hwhy⟩

/-- A helper that counts the calls of its facade, and has no tunnel. -/
def sampleHelper : Helper Nat where
  tunnelHost _ _ h := (.error "app_core_tunnel_backend_error: missing tunnel configuration", h)
  facade _ _ h := (.ok (.num h), h + 1)
  env _ := none
  jsonError _ := ""
  writer := JsonText.compact

/-- Two calls; the first one is answered, the second one is given up while it is served. -/
def sampleEvents : List HelperEvent :=
  [.call ⟨"login", []⟩, .call ⟨"bringTunnelUp", []⟩, .accept, .serve .none, .receive 0,
    .serve .none, .accept, .timeOut 1, .serve .write]

def sampleWorld : HelperWorld Nat :=
  execD (HelperWorld.step sampleHelper JsonText.compact) (.start 0) sampleEvents

theorem reachable_sampleWorld :
    Reachable (rel (HelperWorld.step sampleHelper JsonText.compact)) (.start 0) sampleWorld :=
  .of_exec .start (exec_eq_execD (by decide))

theorem sample_calls_in_order :
    sampleWorld.running = false ∧
      ∃ call ∈ sampleWorld.calls, call.gaveUp = true ∨ ¬ call.Taken := by
  obtain ⟨k, -, -, -, hended⟩ := helper_calls_in_order reachable_sampleWorld
  have hstopped : sampleWorld.running = false := by decide
  exact ⟨hstopped, hended hstopped⟩

/-! ## Calls that nobody gives up -/

/-- A new call, or one that is given up. -/
def HelperEvent.fromOutside : HelperEvent → Bool
  | .call _ => true
  | .timeOut _ => true
  | _ => false

namespace HelperWorld

variable {H : Type} {helper : Helper H} {writer : JsonText.Writer} {h0 : H} {k accepted : Nat}
  {w w' : HelperWorld H}

/-- Nothing has come up that could end the helper. -/
def Steady (w : HelperWorld H) : Prop :=
  ∀ (i : Nat) (call : HelperCall), w.calls[i]? = some call → call.gaveUp = false ∧ call.Taken

/-- How many steps are left until every call is answered. -/
def remaining (w : HelperWorld H) : Nat :=
  w.calls.countP (fun call => !call.request.isEmpty) + 2 * w.backlog.length +
    w.serving.toList.length + w.calls.countP (fun call => call.ending.isNone)

theorem Steady.setCall {i : Nat} {call call' : HelperCall} (h : w.Steady)
    (hcall : w.calls[i]? = some call) (hsame : call'.toInvocation = call.toInvocation)
    (hgave : call'.gaveUp = false) : (w.setCall i call').Steady := by
  intro j c hc
  rw [getElem?_setCall hcall] at hc
  split_ifs at hc with hij
  · obtain rfl := Option.some.inj hc
    refine ⟨hgave, ?_⟩
    unfold Invocation.Taken
    rw [hsame]
    exact (h i call hcall).2
  · exact h j c hc

theorem running_of_steady (h : InOrder helper writer h0 k accepted w)
    (hsteady : w.Steady) : w.running = true := by
  by_contra hrunning
  obtain ⟨i, call, hi, hwhy⟩ := h.ended (by simpa using hrunning)
  obtain ⟨hgave, htaken⟩ := hsteady i call hi
  rcases hwhy with hgave' | htaken'
  · simp [hgave] at hgave'
  · exact htaken' htaken

theorem remaining_le (h : InOrder helper writer h0 k accepted w) (hsteady : w.Steady) :
    w.remaining ≤ 4 * w.calls.length := by
  have hrunning := running_of_steady h hsteady
  have hrequest := List.countP_le_length (p := fun call => !call.request.isEmpty) (l := w.calls)
  have hending := List.countP_le_length (p := fun call => call.ending.isNone) (l := w.calls)
  have hle := h.accepted_le
  have hbacklog : 2 * w.backlog.length + w.serving.toList.length ≤ 2 * w.calls.length := by
    rw [h.backlog hrunning, List.length_range']
    rcases h.serving hrunning with ⟨hnone, -⟩ | ⟨i, hi, haccepted, -⟩
    · simp only [hnone, Option.toList_none, List.length_nil]
      omega
    · simp only [hi, Option.toList_some, List.length_singleton]
      omega
  unfold remaining
  omega

theorem countP_setCall {i : Nat} {call : HelperCall} (hcall : w.calls[i]? = some call)
    (call' : HelperCall) (p : HelperCall → Bool) :
    (w.setCall i call').calls.countP p + (if p call then 1 else 0) =
      w.calls.countP p + (if p call' then 1 else 0) := by
  obtain ⟨hlt, hi⟩ := List.getElem?_eq_some_iff.mp hcall
  have hpos : p call = true → 0 < w.calls.countP p := fun h =>
    List.countP_pos_iff.mpr ⟨call, List.mem_of_getElem? hcall, h⟩
  rw [setCall, List.countP_set hlt, hi]
  cases hp : p call with
  | false => simp
  | true =>
    have := hpos hp
    simp only [if_true]
    omega

/-- An answer is received: one call less is going on. -/
theorem remaining_receive {i : Nat} (hw : w.step helper writer (.receive i) = some w')
    (hsteady : w.Steady) : w'.Steady ∧ w'.remaining < w.remaining := by
  obtain ⟨call, hcall, hgo⟩ := Option.bind_eq_some_iff.mp hw
  obtain ⟨hopen, hgo⟩ := Option.ite_none_left_eq_some.mp hgo
  obtain ⟨e, he, rfl⟩ := Option.map_eq_some_iff.mp hgo
  obtain ⟨line, -, rfl⟩ := Option.map_eq_some_iff.mp he
  refine ⟨hsteady.setCall hcall rfl rfl, ?_⟩
  have hnone : call.ending.isNone = true := by simpa using hopen
  have hcount := countP_setCall hcall
    { call with ending := some (.answered (decodeHelperResponse line)) }
  have hrequest := hcount fun call => !call.request.isEmpty
  have hending := hcount fun call => call.ending.isNone
  simp only [hnone, if_true, Option.isNone_some, Bool.false_eq_true, if_false] at hrequest hending
  unfold remaining
  simp only [HelperWorld.setCall] at hrequest hending ⊢
  omega

theorem remaining_accept (hw : w.step helper writer .accept = some w') (hsteady : w.Steady) :
    w'.Steady ∧ w'.remaining < w.remaining := by
  obtain ⟨⟨hrunning, hfree⟩, hgo⟩ := Option.ite_none_right_eq_some.mp hw
  cases hqueue : w.backlog with
  | nil => simp [hqueue] at hgo
  | cons i rest =>
    rw [hqueue] at hgo
    obtain rfl := Option.some.inj hgo
    refine ⟨hsteady, ?_⟩
    unfold remaining
    simp only [hqueue, hfree, List.length_cons, Option.toList_some, Option.toList_none,
      List.length_nil]
    omega

theorem remaining_serve {fault : Fault} (h : InOrder helper writer h0 k accepted w)
    (hw : w.step helper writer (.serve fault) = some w') (hsteady : w.Steady) :
    w'.Steady ∧ w'.remaining < w.remaining := by
  obtain ⟨hrunning, hgo⟩ := Option.ite_none_right_eq_some.mp hw
  obtain ⟨i, hserving, hgo⟩ := Option.bind_eq_some_iff.mp hgo
  obtain ⟨call, hcall, hgo⟩ := Option.bind_eq_some_iff.mp hgo
  obtain ⟨hgave, htaken⟩ := hsteady i call hcall
  unfold serveCall at hgo
  obtain ⟨hfault, hgo⟩ := Option.ite_none_left_eq_some.mp hgo
  obtain rfl : fault = .none := by
    by_contra hf
    exact hfault ⟨hf, by simp [hgave]⟩
  simp only [reduceCtorEq, if_false] at hgo
  obtain ⟨⟨line, rest⟩, hline, rfl⟩ := Option.map_eq_some_iff.mp hgo
  have hrequest := (h.calls i call hcall).request hrunning
  split_ifs at hrequest with hi
  · -- the connection is closed
    have hempty : line = [] := by
      rw [hrequest] at hline
      simp only [readLine, List.dropWhile_nil, Option.ite_none_right_eq_some, Option.some.injEq,
        Prod.mk.injEq] at hline
      exact hline.2.1.symm
    refine ⟨by simp only [hempty, if_true]; exact hsteady, ?_⟩
    unfold remaining
    simp only [hempty, if_true, hserving, Option.toList_none, Option.toList_some, List.length_nil,
      List.length_singleton]
    omega
  · -- the request is read, which nothing waits behind
    rw [hrequest, readLine_requestLine writer call.toInvocation, Option.some.injEq,
      Prod.mk.injEq] at hline
    obtain ⟨rfl, rfl⟩ := hline
    have hdepth : JsonText.depth (.obj call.args) < recursionLimit := htaken
    simp only [requestLine_ne_nil, if_false, serveLine_requestLine, hdepth, if_true]
    refine ⟨hsteady.setCall hcall rfl hgave, ?_⟩
    generalize call.response ++ _ = response
    have hcount := countP_setCall hcall { call with request := [], response }
    have hrequests := hcount fun call => !call.request.isEmpty
    have hendings := hcount fun call => call.ending.isNone
    have hthere : (!call.request.isEmpty) = true := by
      rw [hrequest]
      simp [requestLine_ne_nil]
    simp only [hthere, if_true, List.isEmpty_nil, Bool.not_true, Bool.false_eq_true,
      if_false] at hrequests
    unfold remaining
    simp only [HelperWorld.setCall] at hrequests hendings ⊢
    omega

/-- Every other step brings the answers nearer. -/
theorem remaining_step {event : HelperEvent} (h : InOrder helper writer h0 k accepted w)
    (hw : w.step helper writer event = some w') (hsteady : w.Steady)
    (hinside : event.fromOutside = false) : w'.Steady ∧ w'.remaining < w.remaining := by
  cases event with
  | call invocation => cases hinside
  | timeOut i => cases hinside
  | accept => exact remaining_accept hw hsteady
  | serve fault => exact remaining_serve h hw hsteady
  | receive i => exact remaining_receive hw hsteady
  | lost i reset =>
    obtain ⟨hrunning, -⟩ := Option.ite_none_left_eq_some.mp hw
    exact absurd (running_of_steady h hsteady) hrunning

theorem isSome_serve {j : Nat} {c : HelperCall} (hrunning : w.running = true)
    (hserving : w.serving = some j) (hj : w.calls[j]? = some c)
    (hline : (readLine c.request c.ending.isSome).isSome = true) :
    (w.step helper writer (.serve .none)).isSome = true := by
  simp only [HelperWorld.step, hrunning, if_true, hserving, Option.bind_some, hj, serveCall, ne_eq,
    not_true_eq_false, false_and, if_false, reduceCtorEq, Option.isSome_map, hline]

/-- What was carried out can be read by its caller. -/
theorem isSome_receive (h : InOrder helper writer h0 k accepted w) (hrunning : w.running = true)
    {j : Nat} {c : HelperCall} (hj : w.calls[j]? = some c) (hlt : j < k) (hopen : c.ending = none) :
    (w.step helper writer (.receive j)).isSome = true := by
  rcases (h.calls j c hj).response with ⟨-, hle⟩ | ⟨-, hresponse⟩
  · exact absurd (hle hrunning) (by omega)
  · simp only [HelperWorld.step, finish, hj, Option.bind_some, hopen, Option.isSome_none,
      Bool.false_eq_true, if_false, Option.isSome_map, hresponse, Invocation.responseLine,
      firstLine_text, Option.isSome_some]

/-- While a call is going on, there is a step to take. -/
theorem exists_step (h : InOrder helper writer h0 k accepted w) (hsteady : w.Steady) {i : Nat}
    {call : HelperCall} (hcall : w.calls[i]? = some call) (hopen : call.ending = none) :
    ∃ event, event.fromOutside = false ∧ (w.step helper writer event).isSome = true := by
  have hrunning := running_of_steady h hsteady
  by_cases hlt : i < k
  · exact ⟨.receive i, rfl, isSome_receive h hrunning hcall hlt hopen⟩
  obtain ⟨hlen, -⟩ := List.getElem?_eq_some_iff.mp hcall
  rcases h.serving hrunning with ⟨hfree, hk⟩ | ⟨j, hserving, haccepted, hk⟩
  · -- the next connection is accepted
    have hbacklog := h.backlog hrunning
    have hsucc : w.calls.length - accepted = w.calls.length - (accepted + 1) + 1 := by omega
    rw [hsucc, List.range'_succ] at hbacklog
    refine ⟨.accept, rfl, ?_⟩
    simp only [HelperWorld.step, hrunning, hfree, hbacklog, and_self, if_true, Option.isSome_some]
  · have hle := h.accepted_le
    obtain ⟨c, hj⟩ : ∃ c, w.calls[j]? = some c := ⟨_, List.getElem?_eq_getElem (by omega)⟩
    have hrequest := (h.calls j c hj).request hrunning
    rcases hk with rfl | rfl
    · -- its request is read
      rw [if_neg (Nat.lt_irrefl _)] at hrequest
      refine ⟨.serve .none, rfl, isSome_serve hrunning hserving hj ?_⟩
      rw [hrequest, readLine_requestLine writer c.toInvocation]
      rfl
    · rw [if_pos (by omega)] at hrequest
      cases hend : c.ending with
      | none => exact ⟨.receive j, rfl, isSome_receive h hrunning hj (by omega) hend⟩
      | some e =>
        -- the caller has closed the connection
        refine ⟨.serve .none, rfl, isSome_serve hrunning hserving hj ?_⟩
        rw [hrequest, hend]
        rfl

theorem steady_exec {events : List HelperEvent} (h : InOrder helper writer h0 k accepted w)
    (hsteady : w.Steady) (hinside : ∀ event ∈ events, event.fromOutside = false)
    (hw : exec (step helper writer) w events = some w') :
    (∃ k accepted, InOrder helper writer h0 k accepted w') ∧ w'.Steady ∧
      events.length + w'.remaining ≤ w.remaining := by
  induction events generalizing w k accepted with
  | nil =>
    obtain rfl := Option.some.inj hw
    exact ⟨⟨k, accepted, h⟩, hsteady, by simp⟩
  | cons event events ih =>
    obtain ⟨w₁, hw₁, hrest⟩ := Option.bind_eq_some_iff.mp hw
    obtain ⟨hevent, hevents⟩ := List.forall_mem_cons.mp hinside
    obtain ⟨k₁, accepted₁, h₁⟩ := h.step hw₁
    obtain ⟨hsteady₁, hlt⟩ := remaining_step h hw₁ hsteady hevent
    obtain ⟨hw', hsteady', hle⟩ := ih h₁ hsteady₁ hevents hrest
    refine ⟨hw', hsteady', ?_⟩
    rw [List.length_cons]
    omega

end HelperWorld

/-- Where no call was given up and none nests too deep, the helper is running. Until the next call
comes or is given up, no more than four steps for each call can be taken, in whatever order, and
when none is left to take every call has been answered. -/
theorem helper_calls_answered {H : Type} {helper : Helper H} {writer : JsonText.Writer} {h0 : H}
    {w w' : HelperWorld H} {events : List HelperEvent}
    (hw : Reachable (rel (HelperWorld.step helper writer)) (.start h0) w)
    (hcalls : ∀ call ∈ w.calls, call.gaveUp = false ∧ call.Taken)
    (hinside : ∀ event ∈ events, event.fromOutside = false)
    (hexec : exec (HelperWorld.step helper writer) w events = some w') :
    w'.running = true ∧ events.length ≤ 4 * w.calls.length ∧
      ((∀ event, event.fromOutside = false → w'.step helper writer event = none) →
        ∀ call ∈ w'.calls, ∃ answer, call.ending = some (.answered answer)) := by
  obtain ⟨k, accepted, h⟩ := InOrder.of_reachable hw
  have hsteady : w.Steady := fun i call hi => hcalls call (List.mem_of_getElem? hi)
  obtain ⟨⟨k', accepted', h'⟩, hsteady', hle⟩ := HelperWorld.steady_exec h hsteady hinside hexec
  refine ⟨HelperWorld.running_of_steady h' hsteady', ?_, ?_⟩
  · exact Nat.le_trans (Nat.le_of_add_right_le hle) (HelperWorld.remaining_le h hsteady)
  · intro hdone call hcall
    obtain ⟨i, hlt, rfl⟩ := List.getElem_of_mem hcall
    have hi := List.getElem?_eq_getElem hlt
    have hreached := (h'.calls i _ hi).reached (HelperWorld.running_of_steady h' hsteady')
    have hgave := (hsteady' i _ hi).1
    cases hend : w'.calls[i].ending with
    | none =>
      obtain ⟨event, hevent, hsome⟩ := HelperWorld.exists_step h' hsteady' hi hend
      simp [hdone event hevent] at hsome
    | some e =>
      cases e with
      | answered answer => exact ⟨answer, rfl⟩
      | timedOut => simp [HelperCall.gaveUp, hend] at hgave
      | unavailable => exact absurd hend hreached.1
      | noElement => exact absurd hend hreached.2

/-- Two calls at once, of which the first one has been carried out. -/
def sampleCalled : HelperWorld Nat :=
  execD (HelperWorld.step sampleHelper JsonText.compact) (.start 0)
    [.call ⟨"login", []⟩, .accept, .call ⟨"bringTunnelUp", []⟩, .serve .none]

def sampleRest : List HelperEvent :=
  [.receive 0, .serve .none, .accept, .serve .none, .receive 1, .serve .none]

def sampleAnswered : HelperWorld Nat :=
  execD (HelperWorld.step sampleHelper JsonText.compact) sampleCalled sampleRest

theorem sample_calls_answered :
    sampleAnswered.running = true ∧ sampleRest.length ≤ 4 * sampleCalled.calls.length := by
  have hcalled : Reachable (rel (HelperWorld.step sampleHelper JsonText.compact)) (.start 0)
      sampleCalled := .of_exec .start (exec_eq_execD (by decide))
  have hrest : exec (HelperWorld.step sampleHelper JsonText.compact) sampleCalled sampleRest =
      some sampleAnswered := exec_eq_execD (by decide)
  obtain ⟨hrunning, hlength, -⟩ := helper_calls_answered hcalled (by decide) (by decide) hrest
  exact ⟨hrunning, hlength⟩

end Slan.App
