import Slan.Access.Callbacks

/-! # Whether a connection gets what is completed

A payload is on its way to a connection while it is loaded for it, while its broadcast has not come
to it, and while it is in the store and the connection has not loaded it yet.
-/

namespace Slan.Access

open Transition

/-- The broadcast is still to come to the connection. -/
def Broadcast.Reaches (c : Nat) : Broadcast → Prop
  | waiting => True
  | sending remaining => c ∈ remaining
  | done => False

def Connection.Received (k : Connection) (n : Nat) : Prop := ∃ ready ∈ k.ready, ready.completion = n

namespace Connection

variable {k : Connection}

theorem ready_send (hopen : k.isOpen = true) (ready : Ready) :
    (k.send (.authCallbackReady ready)).ready = k.ready ++ [ready] := by
  unfold Connection.send
  rw [if_pos hopen]
  exact List.filterMap_append

theorem ready_acknowledged (k : Connection) :
    (k.send .acknowledged).ready = k.ready := by
  unfold Connection.send Connection.ready
  split
  · exact List.filterMap_append.trans (List.append_nil _)
  · rfl

theorem send_fields (k : Connection) (envelope : Envelope) :
    (k.send envelope).phase = k.phase ∧ (k.send envelope).isOpen = k.isOpen ∧
      (k.send envelope).since = k.since ∧ (k.send envelope).found = k.found := by
  unfold Connection.send
  split <;> exact ⟨rfl, rfl, rfl, rfl⟩

end Connection

namespace Callbacks

def requests (w : Callbacks) : List CompleteAuthCallbackRequest :=
  w.completions.map Completion.request

def Newest (w : Callbacks) (n : Nat) : Prop := n + 1 = w.requests.length

/-- A completion that a connection is to get: one since it was registered, or the one that the
store had then. -/
def Due (w : Callbacks) (k : Connection) (n : Nat) : Prop :=
  k.since ≤ n ∧ n < w.requests.length ∨ k.found = some n

/-- Whatever happens to the store, the payload comes. -/
def Coming (w : Callbacks) (c : Nat) (k : Connection) (n : Nat) : Prop :=
  (∃ ready, k.phase = .loaded (some ready) ∧ ready.completion = n) ∨
    ∃ x, w.completions[n]? = some x ∧ x.broadcast.Reaches c

def OnWay (w : Callbacks) (c : Nat) (k : Connection) (n : Nat) : Prop :=
  w.Coming c k n ∨
    k.phase = .registered ∧ ∃ ready, w.store.payload = some ready ∧ ready.completion = n

def Delivered (w : Callbacks) (n : Nat) : Prop :=
  ∃ c k, w.connections c = some k ∧ k.Received n

/-- There is a completion of this number, with a request that satisfies `P`. -/
def Asked (w : Callbacks) (n : Nat) (P : CompleteAuthCallbackRequest → Prop) : Prop :=
  ∃ req, w.requests[n]? = some req ∧ P req

def Stored (callbackId : String) (w : Callbacks) (ready : Ready) : Prop :=
  w.Asked ready.completion fun req => completeCallback callbackId req = some ready.payload

/-- A payload is what its completion has asked for, as it came or as it was stored. -/
def Carries (callbackId : String) (w : Callbacks) (ready : Ready) : Prop :=
  w.Asked ready.completion fun req =>
    ready.payload = req ∨ completeCallback callbackId req = some ready.payload

/-- No payload is lost: an open connection gets each that it is to get, the last one completed
last, and what has been deleted some connection has got. -/
structure Delivers (callbackId : String) (w : Callbacks) : Prop where
  received : ∀ c k, w.connections c = some k → k.isOpen = true → ∀ n, w.Due k n →
    k.Received n ∨ w.OnWay c k n
  last : ∀ c k, w.connections c = some k → k.isOpen = true → (∀ n, ¬w.OnWay c k n) →
    ∀ ready, k.ready.getLast? = some ready → w.Newest ready.completion
  kept : ∀ n ∈ w.removed, w.Delivered n
  carries : ∀ c k, w.connections c = some k → ∀ ready ∈ k.ready, w.Carries callbackId ready

/-! ## What a step must not do -/

/-- No acknowledgement is between its two statements. -/
def Idle (w : Callbacks) : Prop :=
  w.acknowledging = 0 ∧ ∀ c k, w.connections c = some k → k.phase ≠ .acknowledging

/-- The payload is not sent after the last one completed, unless that one comes again. -/
def InOrder (w : Callbacks) (c : Nat) (k : Connection) (n : Nat) : Prop :=
  ∀ m, w.Newest m → m = n ∨ w.OnWay c k m

/-- Who has registered and not loaded the payload of the store does not need to, or has it last. -/
def Replaceable (w : Callbacks) (last : Bool) : Prop :=
  ∀ ready, w.store.payload = some ready → ∀ c k, w.connections c = some k → k.isOpen = true →
    k.phase = .registered → w.Coming c k ready.completion ∨
      if last then k.ready.getLast?.map Ready.completion = some ready.completion
      else k.Received ready.completion

def KeepsPayloads (callbackId : String) (w : Callbacks) : CallbackMove → Prop
  | .sendStatus c => ∀ k ready, w.connections c = some k → k.isOpen = true →
    k.phase = .loaded (some ready) → w.InOrder c k ready.completion
  | .broadcastTo n c => ∀ k, w.connections c = some k → k.isOpen = true → w.InOrder c k n
  | .complete req => (completeCallback callbackId req).isSome = true → w.Idle ∧ w.Replaceable false
  | .ack .. | .acknowledge _ => ∀ ready, w.store.payload = some ready →
    w.Delivered ready.completion
  | .finishAck _ | .finishAcknowledge => w.Replaceable true
  | _ => True

/-! ## One connection -/

/-- What holds of a connection all along. -/
structure Holds (callbackId : String) (w : Callbacks) (c : Nat) (k : Connection) : Prop where
  session : k.isOpen = true → c ∈ w.sessions
  loaded : ∀ ready, k.phase = .loaded (some ready) → w.Stored callbackId ready
  carries : ∀ ready ∈ k.ready, w.Carries callbackId ready
  received : k.isOpen = true → ∀ n, w.Due k n → k.Received n ∨ w.OnWay c k n
  last : k.isOpen = true → ∀ ready, k.ready.getLast? = some ready →
    w.Newest ready.completion ∨ ∃ n, w.Newest n ∧ w.OnWay c k n

/-- The connection was sent no payload, and what was on its way to it still is. -/
structure Follows (w t : Callbacks) (c : Nat) (k k' : Connection) : Prop where
  requests : t.requests = w.requests
  since : k'.since = k.since
  found : k'.found = k.found
  ready : k'.ready = k.ready
  isOpen : k'.isOpen = true → k.isOpen = true
  session : k'.isOpen = true → c ∈ w.sessions → c ∈ t.sessions
  loaded : ∀ ready, k'.phase = .loaded (some ready) →
    k.phase = .loaded (some ready) ∨ w.store.payload = some ready
  onWay : k'.isOpen = true → ∀ n, w.OnWay c k n → t.OnWay c k' n

section One

variable {callbackId : String} {w t : Callbacks} {c : Nat} {k k' : Connection}

theorem Asked.same {n : Nat} {P : CompleteAuthCallbackRequest → Prop} (h : w.Asked n P)
    (hrequests : t.requests = w.requests) : t.Asked n P := by
  unfold Asked
  rw [hrequests]
  exact h

theorem Asked.append {n : Nat} {P : CompleteAuthCallbackRequest → Prop} (h : w.Asked n P)
    {req : CompleteAuthCallbackRequest} (hrequests : t.requests = w.requests ++ [req]) :
    t.Asked n P := by
  obtain ⟨asked, hasked, hpayload⟩ := h
  refine ⟨asked, ?_, hpayload⟩
  rw [hrequests]
  exact (List.getElem?_append_left (List.getElem?_eq_some_iff.mp hasked).1).trans hasked

theorem Asked.lt {n : Nat} {P : CompleteAuthCallbackRequest → Prop} (h : w.Asked n P) :
    n < w.requests.length := by
  obtain ⟨_, hasked, _⟩ := h
  exact (List.getElem?_eq_some_iff.mp hasked).1

theorem Stored.carries {ready : Ready} (h : w.Stored callbackId ready) :
    w.Carries callbackId ready := by
  obtain ⟨req, hreq, hpayload⟩ := h
  exact ⟨req, hreq, .inr hpayload⟩

theorem Holds.follow (h : w.Holds callbackId c k)
    (hstored : ∀ ready, w.store.payload = some ready → w.Stored callbackId ready)
    (hf : w.Follows t c k k') : t.Holds callbackId c k' := by
  refine ⟨fun hopen => ?_, fun ready hphase => ?_, fun ready hmem => ?_, fun hopen n hdue => ?_,
    fun hopen ready hlast => ?_⟩
  · exact hf.session hopen (h.session (hf.isOpen hopen))
  · rcases hf.loaded ready hphase with hbefore | hstore
    · exact (h.loaded ready hbefore).same hf.requests
    · exact (hstored ready hstore).same hf.requests
  · exact (h.carries ready (hf.ready ▸ hmem)).same hf.requests
  · unfold Due at hdue
    rw [hf.requests, hf.since, hf.found] at hdue
    refine (h.received (hf.isOpen hopen) n hdue).imp (fun hreceived => ?_) (hf.onWay hopen n)
    unfold Connection.Received
    rw [hf.ready]
    exact hreceived
  · unfold Newest
    rw [hf.requests]
    rw [hf.ready] at hlast
    refine (h.last (hf.isOpen hopen) ready hlast).imp id ?_
    rintro ⟨n, hnewest, hway⟩
    exact ⟨n, hnewest, hf.onWay hopen n hway⟩

/-- An open connection is sent a payload, in order. -/
theorem Holds.send (h : w.Holds callbackId c k) {ready : Ready} (hopen : k.isOpen = true)
    (hready : k'.ready = k.ready ++ [ready]) (hcarries : w.Carries callbackId ready)
    (horder : w.InOrder c k ready.completion) (hrequests : t.requests = w.requests)
    (hsince : k'.since = k.since) (hfound : k'.found = k.found)
    (hsession : c ∈ w.sessions → c ∈ t.sessions)
    (hloaded : ∀ other, k'.phase = .loaded (some other) → k.phase = .loaded (some other))
    (hway : ∀ n, n ≠ ready.completion → w.OnWay c k n → t.OnWay c k' n) :
    t.Holds callbackId c k' := by
  refine ⟨fun _ => hsession (h.session hopen), fun other hphase => ?_, fun other hmem => ?_,
    fun _ n hdue => ?_, fun _ other hlast => ?_⟩
  · exact (h.loaded other (hloaded other hphase)).same hrequests
  · rw [hready, List.mem_append, List.mem_singleton] at hmem
    rcases hmem with hmem | rfl
    · exact (h.carries other hmem).same hrequests
    · exact hcarries.same hrequests
  · unfold Due at hdue
    rw [hrequests, hsince, hfound] at hdue
    unfold Connection.Received
    rw [hready]
    by_cases hn : n = ready.completion
    · exact .inl ⟨ready, List.mem_append_right _ (List.mem_singleton_self ready), hn.symm⟩
    · refine (h.received hopen n hdue).imp ?_ (hway n hn)
      rintro ⟨other, hmem, hother⟩
      exact ⟨other, List.mem_append_left _ hmem, hother⟩
  · rw [hready, List.getLast?_concat] at hlast
    obtain rfl := Option.some.inj hlast
    unfold Newest
    rw [hrequests]
    have hlength : ready.completion < w.requests.length := hcarries.lt
    -- the newest one is this one, or comes after it
    have hnewest : w.Newest (w.requests.length - 1) := by
      unfold Newest
      omega
    rcases horder _ hnewest with hsame | hother
    · exact .inl (hsame ▸ hnewest)
    · by_cases hn : w.requests.length - 1 = ready.completion
      · exact .inl (hn ▸ hnewest)
      · exact .inr ⟨_, hnewest, hway _ hn hother⟩

/-- The payload of the store is deleted. -/
theorem Holds.delete (h : w.Holds callbackId c k) (hconnection : w.connections c = some k)
    (hreplaceable : w.Replaceable true) : w.deletePayload.Holds callbackId c k := by
  have hcoming : ∀ n, w.Coming c k n → w.deletePayload.OnWay c k n := fun n hcoming => .inl hcoming
  refine ⟨h.session, h.loaded, h.carries, fun hopen n hdue => ?_, fun hopen ready hlast => ?_⟩
  · rcases h.received hopen n hdue with hreceived | hway | ⟨hphase, ready, hstore, rfl⟩
    · exact .inl hreceived
    · exact .inr (hcoming n hway)
    · rcases hreplaceable ready hstore c k hconnection hopen hphase with hway | hlast
      · exact .inr (hcoming _ hway)
      · obtain ⟨other, hother, hsame⟩ := Option.map_eq_some_iff.mp hlast
        exact .inl ⟨other, List.mem_of_getLast? hother, hsame⟩
  · rcases h.last hopen ready hlast with hnewest | ⟨n, hnewest, hway | ⟨hphase, stored, hstore, rfl⟩⟩
    · exact .inl hnewest
    · exact .inr ⟨n, hnewest, hcoming n hway⟩
    · rcases hreplaceable stored hstore c k hconnection hopen hphase with hway | hhas
      · exact .inr ⟨_, hnewest, hcoming _ hway⟩
      · rw [if_pos rfl, hlast] at hhas
        rw [← Option.some.inj hhas] at hnewest
        exact .inl hnewest

/-- A completion is stored, and is still to be broadcast. -/
theorem Holds.complete (h : w.Holds callbackId c k) (hconnection : w.connections c = some k)
    (hreplaceable : w.Replaceable false) {req : CompleteAuthCallbackRequest}
    {store : CallbackStore} :
    ({ w with store, completions := w.completions ++ [⟨req, .waiting⟩] } : Callbacks).Holds
      callbackId c k := by
  have hrequests : ({ w with store, completions := w.completions ++ [⟨req, .waiting⟩] } :
      Callbacks).requests = w.requests ++ [req] := List.map_append
  have hlength : w.requests.length = w.completions.length := List.length_map _
  generalize ht : ({ w with store, completions := w.completions ++ [⟨req, .waiting⟩] } :
    Callbacks) = t at hrequests
  have hnewest : t.Newest w.requests.length := by
    unfold Newest
    rw [hrequests, List.length_append]
    rfl
  have hnew : t.OnWay c k w.requests.length := by
    subst ht
    refine .inl (.inr ⟨⟨req, .waiting⟩, ?_, trivial⟩)
    rw [hlength]
    exact List.getElem?_concat_length
  have hcoming : ∀ n, w.Coming c k n → t.OnWay c k n := by
    subst ht
    rintro n (hloaded | ⟨x, hx, hreaches⟩)
    · exact .inl (.inl hloaded)
    · refine .inl (.inr ⟨x, ?_, hreaches⟩)
      exact (List.getElem?_append_left (List.getElem?_eq_some_iff.mp hx).1).trans hx
  refine ⟨?_, fun ready hphase => (h.loaded ready hphase).append hrequests,
    fun ready hmem => (h.carries ready hmem).append hrequests, fun hopen n hdue => ?_,
    fun _ _ _ => .inr ⟨_, hnewest, hnew⟩⟩
  · subst ht
    exact h.session
  by_cases hn : n = w.requests.length
  · exact .inr (hn ▸ hnew)
  have hbefore : w.Due k n := by
    refine hdue.imp (fun hsince => ⟨hsince.1, ?_⟩) id
    have hlt := hsince.2
    rw [hrequests, List.length_append, List.length_singleton] at hlt
    omega
  rcases h.received hopen n hbefore with hreceived | hway | ⟨hphase, ready, hstore, rfl⟩
  · exact .inl hreceived
  · exact .inr (hcoming n hway)
  · rcases hreplaceable ready hstore c k hconnection hopen hphase with hway | hreceived
    · exact .inr (hcoming _ hway)
    · exact .inl hreceived

end One

/-! ## All connections -/

structure Sound (callbackId : String) (w : Callbacks) : Prop where
  holds : ∀ c k, w.connections c = some k → w.Holds callbackId c k
  stored : ∀ ready, w.store.payload = some ready → w.Stored callbackId ready
  kept : ∀ n ∈ w.removed, w.Delivered n
  acknowledged : ¬w.Idle → ∀ ready, w.store.payload = some ready → w.Delivered ready.completion

section All

variable {callbackId : String} {w t : Callbacks} {c : Nat} {k k' : Connection}

theorem Sound.delivers (h : w.Sound callbackId) : w.Delivers callbackId where
  received c k hconnection hopen := (h.holds c k hconnection).received hopen
  last c k hconnection hopen hnone ready hlast := by
    rcases (h.holds c k hconnection).last hopen ready hlast with hnewest | ⟨n, _, hway⟩
    · exact hnewest
    · exact absurd hway (hnone n)
  kept := h.kept
  carries c k hconnection := (h.holds c k hconnection).carries

theorem sound_start (callbackId : String) : start.Sound callbackId :=
  ⟨nofun, nofun, nofun, fun _ => nofun⟩

/-- Connections stay, with all that they were sent. -/
def Extends (w t : Callbacks) : Prop :=
  ∀ c k, w.connections c = some k → ∃ k', t.connections c = some k' ∧ ∀ r ∈ k.ready, r ∈ k'.ready

theorem Delivered.mono {n : Nat} (h : w.Delivered n) (hextends : w.Extends t) : t.Delivered n := by
  obtain ⟨c, k, hconnection, ready, hmem, hn⟩ := h
  obtain ⟨k', hconnection', hready⟩ := hextends c k hconnection
  exact ⟨c, k', hconnection', ready, hready ready hmem, hn⟩

theorem extends_setConnection (hconnection : w.connections c = some k)
    (hready : ∀ r ∈ k.ready, r ∈ k'.ready) : w.Extends (w.setConnection c k') := by
  intro c' other hother
  by_cases hc : c' = c
  · rw [hc, hconnection] at hother
    obtain rfl := Option.some.inj hother
    exact ⟨k', hc ▸ Function.update_self .., hready⟩
  · exact ⟨other, (Function.update_of_ne hc ..).trans hother, fun _ hmem => hmem⟩

theorem holds_setConnection {u : Callbacks} (hconnections : u.connections = w.connections)
    (hothers : ∀ c' other, c' ≠ c → w.connections c' = some other → u.Holds callbackId c' other)
    (hk : u.Holds callbackId c k') (c' : Nat) (other : Connection)
    (hother : (u.setConnection c k').connections c' = some other) :
    (u.setConnection c k').Holds callbackId c' other := by
  have hholds : u.Holds callbackId c' other := by
    unfold setConnection at hother
    dsimp only at hother
    by_cases hc : c' = c
    · rw [hc, Function.update_self] at hother
      rw [hc, ← Option.some.inj hother]
      exact hk
    · rw [Function.update_of_ne hc, hconnections] at hother
      exact hothers c' other hc hother
  exact ⟨hholds.session, hholds.loaded, hholds.carries, hholds.received, hholds.last⟩

theorem idle_setConnection (hidle : w.Idle) (hphase : k'.phase ≠ .acknowledging) :
    (w.setConnection c k').Idle := by
  refine ⟨hidle.1, fun c' other hother => ?_⟩
  by_cases hc : c' = c
  · unfold setConnection at hother
    dsimp only at hother
    rw [hc, Function.update_self] at hother
    rw [← Option.some.inj hother]
    exact hphase
  · exact hidle.2 c' other ((Function.update_of_ne hc ..).symm.trans hother)

/-- One connection goes on; the store stays as it is. -/
theorem Sound.setConnection (hw : w.Sound callbackId) (hconnection : w.connections c = some k)
    (hready : ∀ r ∈ k.ready, r ∈ k'.ready) (hk : w.Holds callbackId c k')
    (hphase : k'.phase = .acknowledging → ∀ ready, w.store.payload = some ready →
      w.Delivered ready.completion) : (w.setConnection c k').Sound callbackId := by
  have hextends : w.Extends (w.setConnection c k') := extends_setConnection hconnection hready
  refine ⟨holds_setConnection rfl (fun c' other _ => hw.holds c' other) hk, hw.stored,
    fun n hn => (hw.kept n hn).mono hextends, fun hidle ready hstore => ?_⟩
  by_cases hacks : k'.phase = .acknowledging
  · exact (hphase hacks ready hstore).mono hextends
  · exact (hw.acknowledged (fun hbefore => hidle (idle_setConnection hbefore hacks)) ready
      hstore).mono hextends

theorem requests_setBroadcast {n : Nat} {x : Completion} (hx : w.completions[n]? = some x)
    (broadcast : Broadcast) : (w.setBroadcast n x broadcast).requests = w.requests := by
  obtain ⟨hn, rfl⟩ := List.getElem?_eq_some_iff.mp hx
  have hmap : n < (w.completions.map Completion.request).length := by rwa [List.length_map]
  unfold setBroadcast requests
  dsimp only
  calc (w.completions.set n { w.completions[n] with broadcast }).map Completion.request
      = (w.completions.map Completion.request).set n w.completions[n].request := List.map_set
    _ = (w.completions.map Completion.request).set n
        (w.completions.map Completion.request)[n] := by rw [List.getElem_map]
    _ = w.completions.map Completion.request := List.set_getElem_self _

theorem coming_setBroadcast {n : Nat} {x : Completion} (hx : w.completions[n]? = some x)
    {broadcast : Broadcast} {m : Nat} (h : w.Coming c k m)
    (hreaches : m = n → x.broadcast.Reaches c → broadcast.Reaches c) :
    (w.setBroadcast n x broadcast).Coming c k m := by
  refine h.imp id ?_
  rintro ⟨y, hy, hcomes⟩
  unfold setBroadcast
  dsimp only
  by_cases hm : m = n
  · subst hm
    obtain rfl := Option.some.inj (hx.symm.trans hy)
    refine ⟨{ x with broadcast }, ?_, hreaches rfl hcomes⟩
    exact List.getElem?_set_self (List.getElem?_eq_some_iff.mp hx).1
  · exact ⟨y, (List.getElem?_set_ne (Ne.symm hm)).trans hy, hcomes⟩

/-- A broadcast goes on; no connection is sent anything yet. -/
theorem Sound.setBroadcast (hw : w.Sound callbackId) {n : Nat} {x : Completion}
    (hx : w.completions[n]? = some x) {broadcast : Broadcast}
    (hreaches : ∀ c ∈ w.sessions, x.broadcast.Reaches c → broadcast.Reaches c) :
    (w.setBroadcast n x broadcast).Sound callbackId := by
  have hrequests := requests_setBroadcast hx broadcast
  refine ⟨fun c k hconnection => ?_, fun ready hstore => ?_, hw.kept, hw.acknowledged⟩
  · have hholds := hw.holds c k hconnection
    refine hholds.follow hw.stored ⟨hrequests, rfl, rfl, rfl, id, fun _ => id, fun _ => .inl,
      fun hopen m hway => ?_⟩
    refine hway.imp (fun hcoming => ?_) id
    exact coming_setBroadcast hx hcoming fun _ => hreaches c (hholds.session hopen)
  · exact (hw.stored ready hstore).same hrequests

theorem sound_connect (hw : w.Sound callbackId) (hstep : w.connect c = some t) :
    t.Sound callbackId := by
  unfold connect at hstep
  split at hstep
  · rename_i hfree
    obtain rfl := Option.some.inj hstep
    have hextends : w.Extends (w.setConnection c ⟨.registered, true, w.completions.length,
        w.store.payload.map Ready.completion, []⟩) := by
      intro c' other hother
      have hne : c' ≠ c := by
        rintro rfl
        exact nomatch hfree.2.symm.trans hother
      exact ⟨other, (Function.update_of_ne hne ..).trans hother, fun _ hmem => hmem⟩
    refine ⟨fun c' other hother => ?_, hw.stored, fun n hn => (hw.kept n hn).mono hextends,
      fun hidle ready hstore => ?_⟩
    · by_cases hc : c' = c
      · unfold setConnection at hother
        dsimp only at hother
        rw [hc, Function.update_self] at hother
        obtain rfl := Option.some.inj hother
        refine ⟨fun _ => hc ▸ List.mem_cons_self, nofun, nofun, fun _ n hdue => .inr ?_, nofun⟩
        rcases hdue with ⟨hsince, hlt⟩ | hfound
        · unfold requests at hlt
          rw [List.length_map] at hlt
          exact absurd hlt (Nat.not_lt.mpr hsince)
        · exact .inr ⟨rfl, Option.map_eq_some_iff.mp hfound⟩
      · have hholds := hw.holds c' other ((Function.update_of_ne hc ..).symm.trans hother)
        exact ⟨fun hopen => List.mem_cons_of_mem c (hholds.session hopen), hholds.loaded,
          hholds.carries, hholds.received, hholds.last⟩
    · refine (hw.acknowledged (fun hbefore => hidle ?_) ready hstore).mono hextends
      exact idle_setConnection hbefore nofun
  · cases hstep

theorem sound_load (hw : w.Sound callbackId) (hconnection : w.connections c = some k)
    (hphase : k.phase = .registered) :
    (w.setConnection c { k with phase := .loaded w.store.payload }).Sound callbackId := by
  refine hw.setConnection hconnection (fun _ hmem => hmem) ?_ nofun
  refine (hw.holds c k hconnection).follow hw.stored ⟨rfl, rfl, rfl, rfl, id, fun _ => id,
    fun ready hloaded => .inr (Phase.loaded.inj hloaded), fun _ n hway => ?_⟩
  rcases hway with (⟨ready, hloaded, _⟩ | hcoming) | ⟨_, ready, hstore, hn⟩
  · exact nomatch hphase.symm.trans hloaded
  · exact .inl (.inr hcoming)
  · exact .inl (.inl ⟨ready, congrArg Phase.loaded hstore, hn⟩)

/-- A callback with a payload has a name. -/
theorem Stored.status {ready : Ready} (h : w.Stored callbackId ready) (receivedAt : Option Int) :
    ∃ status, getCallbackStatus callbackId (some ready) receivedAt = some status ∧
      status.ready = true ∧ status.payload = some ready := by
  obtain ⟨req, _, hpayload⟩ := h
  unfold completeCallback at hpayload
  unfold getCallbackStatus
  split at hpayload
  · cases hpayload
  · rename_i hnamed
    rw [if_neg hnamed]
    exact ⟨_, rfl, rfl, rfl⟩

theorem sendStatus_some {ready : Ready} (h : w.Stored callbackId ready) :
    sendStatus callbackId w k (some ready) = k.send (.authCallbackReady ready) := by
  obtain ⟨status, hstatus, hready, hpayload⟩ := h.status w.store.receivedAt
  unfold sendStatus
  rw [hstatus]
  dsimp only
  rw [hpayload]
  dsimp only
  rw [if_pos hready]

theorem sendStatus_none : sendStatus callbackId w k none = k := by
  unfold sendStatus getCallbackStatus
  split_ifs <;> rfl

theorem sound_sendStatus (hw : w.Sound callbackId) (hconnection : w.connections c = some k)
    {payload : Option Ready} (hphase : k.phase = .loaded payload)
    (hok : w.KeepsPayloads callbackId (.sendStatus c)) :
    (w.setConnection c { sendStatus callbackId w k payload with phase := .serving }).Sound
      callbackId := by
  have hholds := hw.holds c k hconnection
  have hserves : ∀ k', k'.phase = .serving → k'.since = k.since → k'.found = k.found →
      k'.ready = k.ready → k'.isOpen = k.isOpen →
      (k'.isOpen = true → payload = none) → w.Holds callbackId c k' := by
    intro k' hk' hsince hfound hready hsame hquiet
    refine hholds.follow hw.stored ⟨rfl, hsince, hfound, hready, fun hopen => hsame ▸ hopen,
      fun _ => id, fun ready hloaded => (nomatch hk'.symm.trans hloaded), fun hopen n hway => ?_⟩
    rcases hway with (⟨ready, hloaded, _⟩ | hcoming) | ⟨hregistered, _⟩
    · rw [hphase, hquiet hopen] at hloaded
      cases hloaded
    · exact .inl (.inr hcoming)
    · exact nomatch hphase.symm.trans hregistered
  cases payload with
  | none =>
    rw [sendStatus_none]
    exact hw.setConnection hconnection (fun _ hmem => hmem)
      (hserves _ rfl rfl rfl rfl rfl fun _ => rfl) nofun
  | some ready =>
    have hstored : w.Stored callbackId ready := hholds.loaded ready hphase
    rw [sendStatus_some hstored]
    by_cases hopen : k.isOpen = true
    · have hready := k.ready_send hopen ready
      obtain ⟨_, _, hsince, hfound⟩ := k.send_fields (.authCallbackReady ready)
      refine hw.setConnection hconnection (fun r hmem => ?_) ?_ nofun
      · change r ∈ (k.send (.authCallbackReady ready)).ready
        rw [hready]
        exact List.mem_append_left _ hmem
      · refine hholds.send hopen hready hstored.carries (hok k ready hconnection hopen hphase) rfl
          hsince hfound id nofun fun n hn hway => ?_
        rcases hway with (⟨other, hloaded, hother⟩ | hcoming) | ⟨hregistered, _⟩
        · obtain rfl := Option.some.inj (Phase.loaded.inj (hphase.symm.trans hloaded))
          exact absurd hother.symm hn
        · exact .inl (.inr hcoming)
        · exact nomatch hphase.symm.trans hregistered
    · have hsame : k.send (.authCallbackReady ready) = k := if_neg hopen
      rw [hsame]
      exact hw.setConnection hconnection (fun _ hmem => hmem)
        (hserves _ rfl rfl rfl rfl rfl fun hopen' => absurd hopen' hopen) nofun

/-- A handler that serves goes on to delete the payload, or comes back. -/
theorem holds_served (hw : w.Sound callbackId) (hholds : w.Holds callbackId c k)
    (hserving : k.phase = .serving ∨ k.phase = .acknowledging)
    (hafter : k'.phase = .serving ∨ k'.phase = .acknowledging) (hsince : k'.since = k.since)
    (hfound : k'.found = k.found) (hready : k'.ready = k.ready) (hopen : k'.isOpen = k.isOpen) :
    w.Holds callbackId c k' := by
  have hnot : ∀ payload, k'.phase ≠ .loaded payload := by
    intro payload hloaded
    rw [hloaded] at hafter
    rcases hafter with h | h <;> cases h
  refine hholds.follow hw.stored ⟨rfl, hsince, hfound, hready, fun h => hopen ▸ h, fun _ => id,
    fun ready hloaded => absurd hloaded (hnot _), fun _ n hway => ?_⟩
  rcases hway with (⟨ready, hloaded, _⟩ | hcoming) | ⟨hregistered, _⟩
  · rw [hloaded] at hserving
    rcases hserving with h | h <;> cases h
  · exact .inl (.inr hcoming)
  · rw [hregistered] at hserving
    rcases hserving with h | h <;> cases h

theorem Sound.markReceived (hw : w.Sound callbackId) (now : Int) :
    (w.markReceived now).Sound callbackId :=
  ⟨fun c k hconnection => by
    have hholds := hw.holds c k hconnection
    exact ⟨hholds.session, hholds.loaded, hholds.carries, hholds.received, hholds.last⟩,
    hw.stored, hw.kept, hw.acknowledged⟩

theorem sound_ack (hw : w.Sound callbackId) (hconnection : w.connections c = some k)
    (hphase : k.phase = .serving) {now : Int}
    (hok : w.KeepsPayloads callbackId (.ack c now)) : (w.ack callbackId c k now).Sound callbackId := by
  obtain ⟨hsent, hopen, hsince, hfound⟩ := k.send_fields .acknowledged
  have hready := k.ready_acknowledged
  unfold ack
  split
  · refine hw.setConnection hconnection (fun r hmem => hready ▸ hmem)
      (holds_served hw (hw.holds c k hconnection) (.inl hphase) (.inl (hsent.trans hphase)) hsince
        hfound hready hopen) fun hacks => ?_
    rw [hsent, hphase] at hacks
    cases hacks
  · have hmarked := hw.markReceived now
    exact hmarked.setConnection hconnection (fun _ hmem => hmem)
      (holds_served hmarked (hmarked.holds c k hconnection) (.inl hphase) (.inr rfl) rfl rfl rfl
        rfl) fun _ => hok

/-- The payload is deleted that was there when the acknowledgement came, or none. -/
theorem Sound.deletePayload (hw : w.Sound callbackId) (hidle : ¬w.Idle)
    (hreplaceable : w.Replaceable true) : w.deletePayload.Sound callbackId := by
  refine ⟨fun c k hconnection => (hw.holds c k hconnection).delete hconnection hreplaceable, nofun,
    fun n hn => ?_, fun _ => nofun⟩
  rcases List.mem_append.mp hn with hbefore | hdeleted
  · exact hw.kept n hbefore
  · obtain ⟨ready, hstore, rfl⟩ := Option.map_eq_some_iff.mp (Option.mem_toList.mp hdeleted)
    exact hw.acknowledged hidle ready hstore

theorem sound_finishAck (hw : w.Sound callbackId) (hconnection : w.connections c = some k)
    (hphase : k.phase = .acknowledging) (hok : w.KeepsPayloads callbackId (.finishAck c)) :
    (w.deletePayload.setConnection c { k.send .acknowledged with phase := .serving }).Sound
      callbackId := by
  obtain ⟨_, hopen, hsince, hfound⟩ := k.send_fields .acknowledged
  have hready := k.ready_acknowledged
  have hdeleted : w.deletePayload.Sound callbackId :=
    hw.deletePayload (fun hidle => hidle.2 c k hconnection hphase) hok
  exact hdeleted.setConnection hconnection (fun r hmem => hready ▸ hmem)
    (holds_served hdeleted (hdeleted.holds c k hconnection) (.inr hphase) (.inl rfl) hsince hfound
      hready hopen) nofun

theorem sound_close (hw : w.Sound callbackId) (hconnection : w.connections c = some k) :
    (w.setConnection c { k with isOpen := false }).Sound callbackId := by
  have hholds := hw.holds c k hconnection
  refine hw.setConnection hconnection (fun _ hmem => hmem)
    ⟨nofun, hholds.loaded, hholds.carries, nofun, nofun⟩ fun hacks => hw.acknowledged ?_
  exact fun hidle => hidle.2 c k hconnection hacks

theorem sound_unregister (hw : w.Sound callbackId) (hconnection : w.connections c = some k)
    (hclosed : k.isOpen = false) :
    ({ w.setConnection c { k with phase := .gone } with sessions := w.sessions.erase c } :
      Callbacks).Sound callbackId := by
  have hholds := hw.holds c k hconnection
  have hnever : ¬k.isOpen = true := Bool.eq_false_iff.mp hclosed
  have hgone : (w.setConnection c { k with phase := .gone }).Sound callbackId := by
    refine hw.setConnection hconnection (fun _ hmem => hmem) ⟨fun hopen => absurd hopen hnever,
      nofun, hholds.carries, fun hopen => absurd hopen hnever, fun hopen => absurd hopen hnever⟩ nofun
  refine ⟨fun c' other hother => ?_, hgone.stored, hgone.kept, hgone.acknowledged⟩
  have hbefore := hgone.holds c' other hother
  refine ⟨fun hopen => ?_, hbefore.loaded, hbefore.carries, hbefore.received, hbefore.last⟩
  have hne : c' ≠ c := by
    rintro rfl
    unfold setConnection at hother
    dsimp only at hother
    rw [Function.update_self] at hother
    rw [← Option.some.inj hother] at hopen
    exact hnever hopen
  exact (List.mem_erase_of_ne hne).mpr (hbefore.session hopen)

theorem sound_complete (hw : w.Sound callbackId) {req : CompleteAuthCallbackRequest}
    (hok : w.KeepsPayloads callbackId (.complete req)) :
    (w.complete callbackId req).Sound callbackId := by
  have hok : (completeCallback callbackId req).isSome = true → w.Idle ∧ w.Replaceable false := hok
  unfold complete
  cases hpayload : completeCallback callbackId req with
  | none => exact hw
  | some payload =>
    rw [hpayload] at hok
    obtain ⟨hidle, hreplaceable⟩ := hok rfl
    refine ⟨fun c k hconnection => (hw.holds c k hconnection).complete hconnection hreplaceable,
      fun ready hstore => ?_, hw.kept, fun hbusy => absurd hidle hbusy⟩
    obtain rfl := Option.some.inj hstore
    refine ⟨req, ?_, hpayload⟩
    unfold requests
    dsimp only
    rw [List.getElem?_map, List.getElem?_concat_length]
    rfl

theorem sound_broadcastTo (hw : w.Sound callbackId) {n : Nat} {x : Completion}
    (hx : w.completions[n]? = some x) {remaining : List Nat}
    (hsending : x.broadcast = .sending remaining) (hconnection : w.connections c = some k)
    (hok : w.KeepsPayloads callbackId (.broadcastTo n c)) :
    ((w.setBroadcast n x (.sending (remaining.erase c))).setConnection c
      (k.send (.authCallbackReady ⟨n, x.request⟩))).Sound callbackId := by
  have hrequests := requests_setBroadcast hx (.sending (remaining.erase c))
  have hcarries : w.Carries callbackId ⟨n, x.request⟩ := by
    refine ⟨x.request, ?_, .inl rfl⟩
    unfold requests
    rw [List.getElem?_map, hx]
    rfl
  -- the broadcast still comes to the others, and all else to this one
  have hway : ∀ c' k' m, c' ≠ c ∨ m ≠ n → w.OnWay c' k' m →
      (w.setBroadcast n x (.sending (remaining.erase c))).OnWay c' k' m := by
    intro c' k' m hother hway
    refine hway.imp (fun hcoming => coming_setBroadcast hx hcoming fun hm hreaches => ?_) id
    rw [hsending] at hreaches
    exact (List.mem_erase_of_ne (hother.resolve_right fun hne => hne hm)).mpr hreaches
  obtain ⟨hphase, hopenSame, hsince, hfound⟩ := k.send_fields (.authCallbackReady ⟨n, x.request⟩)
  have hready : ∀ r ∈ k.ready, r ∈ (k.send (.authCallbackReady ⟨n, x.request⟩)).ready := by
    intro r hmem
    by_cases hopen : k.isOpen = true
    · rw [k.ready_send hopen]
      exact List.mem_append_left _ hmem
    · rw [show k.send _ = k from if_neg hopen]
      exact hmem
  have hextends : w.Extends ((w.setBroadcast n x (.sending (remaining.erase c))).setConnection c
      (k.send (.authCallbackReady ⟨n, x.request⟩))) := extends_setConnection hconnection hready
  have hthis : (w.setBroadcast n x (.sending (remaining.erase c))).Holds callbackId c
      (k.send (.authCallbackReady ⟨n, x.request⟩)) := by
    have hholds := hw.holds c k hconnection
    by_cases hopen : k.isOpen = true
    · refine hholds.send hopen (k.ready_send hopen _) hcarries (hok k hconnection hopen) hrequests
        hsince hfound id (fun other hloaded => hphase ▸ hloaded) fun m hm hbefore => ?_
      refine (hway c k m (.inr hm) hbefore).imp ?_ ?_
      · exact fun hcoming => hcoming.imp (fun ⟨r, hr, hrm⟩ => ⟨r, hphase.trans hr, hrm⟩) id
      · exact fun ⟨hregistered, hstore⟩ => ⟨hphase.trans hregistered, hstore⟩
    · rw [show k.send _ = k from if_neg hopen]
      exact hholds.follow hw.stored ⟨hrequests, rfl, rfl, rfl, id, fun _ => id, fun _ => .inl,
        fun hopen' => absurd hopen' hopen⟩
  refine ⟨holds_setConnection rfl (fun c' other hne hother => ?_) hthis, fun ready hstore => ?_,
    fun m hm => (hw.kept m hm).mono hextends, fun hidle ready hstore => ?_⟩
  · exact (hw.holds c' other hother).follow hw.stored ⟨hrequests, rfl, rfl, rfl, id, fun _ => id,
      fun _ => .inl, fun _ m => hway c' other m (.inl hne)⟩
  · exact (hw.stored ready hstore).same hrequests
  · refine (hw.acknowledged (fun hbefore => hidle ?_) ready hstore).mono hextends
    refine idle_setConnection (w := w.setBroadcast n x (.sending (remaining.erase c)))
      ⟨hbefore.1, hbefore.2⟩ ?_
    rw [hphase]
    exact hbefore.2 c k hconnection

theorem sound_acknowledge (hw : w.Sound callbackId) {now : Int}
    (hok : w.KeepsPayloads callbackId (.acknowledge now)) :
    (w.acknowledge callbackId now).Sound callbackId := by
  unfold acknowledge
  split
  · exact hw
  · have hmarked := hw.markReceived now
    refine ⟨fun c k hconnection => ?_, hmarked.stored, hmarked.kept, fun _ => hok⟩
    have hholds := hmarked.holds c k hconnection
    exact ⟨hholds.session, hholds.loaded, hholds.carries, hholds.received, hholds.last⟩

theorem sound_finishAcknowledge (hw : w.Sound callbackId) (hacks : 0 < w.acknowledging)
    (hok : w.KeepsPayloads callbackId .finishAcknowledge) :
    ({ w.deletePayload with acknowledging := w.acknowledging - 1 } : Callbacks).Sound
      callbackId := by
  have hdeleted : w.deletePayload.Sound callbackId :=
    hw.deletePayload (fun hidle => Nat.ne_of_gt hacks hidle.1) hok
  refine ⟨fun c k hconnection => ?_, hdeleted.stored, hdeleted.kept, fun _ => nofun⟩
  have hholds := hdeleted.holds c k hconnection
  exact ⟨hholds.session, hholds.loaded, hholds.carries, hholds.received, hholds.last⟩

theorem sound_step {a : CallbackMove} (hw : w.Sound callbackId)
    (hok : w.KeepsPayloads callbackId a) (hstep : w.step callbackId a = some t) :
    t.Sound callbackId := by
  cases a with
  | connect c => exact sound_connect hw hstep
  | load c =>
    obtain ⟨k, hconnection, hphase, rfl⟩ := of_step_load hstep
    exact sound_load hw hconnection hphase
  | sendStatus c =>
    obtain ⟨k, payload, hconnection, hphase, rfl⟩ := of_step_sendStatus hstep
    exact sound_sendStatus hw hconnection hphase hok
  | ack c now =>
    obtain ⟨k, hconnection, hphase, rfl⟩ := of_step_ack hstep
    exact sound_ack hw hconnection hphase hok
  | finishAck c =>
    obtain ⟨k, hconnection, hphase, rfl⟩ := of_step_finishAck hstep
    exact sound_finishAck hw hconnection hphase hok
  | close c =>
    obtain ⟨k, hconnection, rfl⟩ := Option.map_eq_some_iff.mp hstep
    exact sound_close hw hconnection
  | unregister c =>
    obtain ⟨k, hconnection, hgoes, rfl⟩ := of_step_unregister hstep
    exact sound_unregister hw hconnection hgoes.2.2
  | complete req =>
    obtain rfl := Option.some.inj hstep
    exact sound_complete hw hok
  | beginBroadcast n =>
    obtain ⟨x, hx, -, rfl⟩ := of_step_beginBroadcast hstep
    exact hw.setBroadcast hx fun _ hsession _ => hsession
  | broadcastTo n c =>
    obtain ⟨x, remaining, k, hx, hsending, -, hconnection, rfl⟩ := of_step_broadcastTo hstep
    exact sound_broadcastTo hw hx hsending hconnection hok
  | endBroadcast n =>
    obtain ⟨x, hx, hsent, rfl⟩ := of_step_endBroadcast hstep
    refine hw.setBroadcast hx fun c _ hreaches => ?_
    rw [hsent] at hreaches
    cases hreaches
  | acknowledge now =>
    obtain rfl := Option.some.inj hstep
    exact sound_acknowledge hw hok
  | finishAcknowledge =>
    obtain ⟨hacks, rfl⟩ := of_step_finishAcknowledge hstep
    exact sound_finishAcknowledge hw hacks hok

theorem sound_reachable
    (h : Reachable (guarded (KeepsPayloads callbackId) (rel (step callbackId))) start w) :
    w.Sound callbackId :=
  h.invariant (Sound callbackId) (sound_start callbackId) fun _ _ _ hw hs => sound_step hw hs.1 hs.2

end All

end Callbacks

end Slan.Access
