import Mathlib.Logic.Function.Basic
import Slan.Lib.Transition
import Slan.Client.Derp
import Slan.Relay.RuntimeSpec

/-! # DERP links to a relay daemon

The daemon listens on UDP at the node's address. Datagrams keep their order on the way to it and
none is lost; others than the DERP clients may send it requests too.
-/

namespace Slan.System

open Slan.Relay Slan.Client Transition

/-- Text layer of the JSON that the daemon reads and writes. -/
structure JsonText where
  read : List UInt8 → Option Json
  write : Json → List UInt8

/-- `serde_json::from_slice::<ClientRequest>` -/
def decodeRequest (text : JsonText) (datagram : List UInt8) : Option ClientRequest :=
  (text.read datagram).bind fun json => (ClientRequest.decode json).toOption

/-- The DERP clients `ι`, with the address of their socket as the socket, and the daemon. -/
structure DerpWorld (ι : Type) where
  client : ι → DerpClientState SocketAddr
  /-- `none` once `serve` has returned. -/
  daemon : Option RelayRuntime
  /-- Datagrams on their way to the daemon. -/
  queue : List (SocketAddr × List UInt8)
  inbox : SocketAddr → List (List UInt8)
  /-- The addresses that sockets of DERP clients have had. -/
  held : List SocketAddr
  /-- The addresses that others have sent from. -/
  others : List SocketAddr
  /-- What the DERP clients have sent. -/
  sent : List (List UInt8)
  /-- The packets sent to a client over a ready link, the client attached to the link's session. -/
  owed : ι → List (List UInt8)
  /-- What a client's polls have returned. -/
  polled : ι → List (List UInt8)

/-- Calls carry the clock; a `connect` what opening a UDP socket gives, and what dialling a TCP
port that nobody listens on gives. -/
inductive DerpAction (ι : Type) where
  | connect (x : ι) (nodeMeta : DerpNodeMeta) (nowMs : Nat) (refused : String)
    (opened : Except String SocketAddr)
  | attach (x : ι) (ticket : Client.RelayTicket)
  | send (x : ι) (packet : List UInt8)
  | poll (x : ι) (nowMs : Nat)
  | close (x : ι)
  | other (source : SocketAddr) (datagram : List UInt8)
  | serve (now : Int)

/-- The daemon has the address bound to the session. -/
def attachedAt (rt : RelayRuntime) (sessionId : String) (addr : SocketAddr) : Bool :=
  (rt.participants sessionId).entries.any fun entry => entry.2 == addr

namespace DerpWorld

variable {ι : Type}

def start (relayUrlPrefix ticketSigningSecret : Option String) : DerpWorld ι where
  client := fun _ => SocketDerpClient.new
  daemon := some (.new relayUrlPrefix ticketSigningSecret)
  queue := []
  inbox := fun _ => []
  held := []
  others := []
  sent := []
  owed := fun _ => []
  polled := fun _ => []

/-- The client's socket is bound to the session at the daemon. -/
def attached (s : DerpWorld ι) (x : ι) (sessionId : String) : Bool :=
  match (s.client x).activeSocket, s.daemon with
  | some addr, some rt => attachedAt rt sessionId addr
  | _, _ => false

section Step

variable [DecidableEq ι]

def set (s : DerpWorld ι) (x : ι) (state : DerpClientState SocketAddr) : DerpWorld ι :=
  { s with client := Function.update s.client x state }

/-- A socket gets an address that has not been seen before. -/
def connect (s : DerpWorld ι) (x : ι) (nodeMeta : DerpNodeMeta) (nowMs : Nat) (refused : String)
    (opened : Except String SocketAddr) : Option (DerpWorld ι) :=
  match SocketDerpClient.connectNode (s.client x) nodeMeta nowMs (fun _ => .error refused)
      (fun _ => opened) with
  | .error _ => some s
  | .ok state =>
    match state.activeSocket with
    | none => none
    | some addr =>
      if addr ∈ s.held ∨ addr ∈ s.others then none
      else some { s.set x state with held := addr :: s.held }

def attach (s : DerpWorld ι) (x : ι) (ticket : Client.RelayTicket) : DerpWorld ι :=
  match SocketDerpClient.attachTicket (s.client x) ticket with
  | .error _ => s
  | .ok state => s.set x state

/-- What goes out is noted for the clients that are attached to the link's session. -/
def send (s : DerpWorld ι) (x : ι) (packet : List UInt8) : DerpWorld ι :=
  match SocketDerpClient.sendTransportPacket (s.client x) packet with
  | .error _ => s
  | .ok (socket, datagram) =>
    let sessionId := ((s.client x).ticket.map Client.RelayTicket.sessionId).getD ""
    let ready := SocketDerpClient.linkState (s.client x) = .ready
    { s with
      queue := s.queue ++ [(socket, datagram)]
      sent := s.sent ++ [datagram]
      owed := fun y =>
        if y ≠ x ∧ ready ∧ s.attached y sessionId then s.owed y ++ [packet] else s.owed y }

/-- A datagram longer than the read buffer is cut. -/
def poll (s : DerpWorld ι) (x : ι) (nowMs : Nat) : DerpWorld ι :=
  match SocketDerpClient.pollTransportPacket (s.client x) nowMs
      (fun addr => (s.inbox addr).head?.map (List.take 2048)) with
  | .error _ => s
  | .ok (packet, state) =>
    let inbox :=
      match state.activeSocket with
      | some addr => Function.update s.inbox addr (s.inbox addr).tail
      | none => s.inbox
    { s.set x state with
      inbox
      polled := Function.update s.polled x (s.polled x ++ packet.toList) }

def deliver (text : JsonText) (inbox : SocketAddr → List (List UInt8)) :
    List (SocketAddr × ServerResponse) → SocketAddr → List (List UInt8)
  | [] => inbox
  | (addr, response) :: rest =>
    deliver text (Function.update inbox addr (inbox addr ++ [text.write response.encode])) rest

/-- One round of `serve`; a datagram that cannot be decoded ends it. -/
def serve (text : JsonText) (crates : Crates) (s : DerpWorld ι) (now : Int) :
    Option (DerpWorld ι) :=
  match s.daemon, s.queue with
  | some rt, (source, datagram) :: rest =>
    match decodeRequest text datagram with
    | none => some { s with daemon := none, queue := rest }
    | some request =>
      let (result, rt) := rt.handleRequest crates now source request
      some { s with
        daemon := some rt
        queue := rest
        inbox := deliver text s.inbox (RelayRuntime.responses source result) }
  | _, _ => none

def step (text : JsonText) (crates : Crates) (s : DerpWorld ι) :
    DerpAction ι → Option (DerpWorld ι)
  | .connect x nodeMeta nowMs refused opened => s.connect x nodeMeta nowMs refused opened
  | .attach x ticket => some (s.attach x ticket)
  | .send x packet => some (s.send x packet)
  | .poll x nowMs => some (s.poll x nowMs)
  | .close x => some (s.set x (SocketDerpClient.close (s.client x)))
  | .other source datagram =>
    if source ∈ s.held then none
    else some { s with queue := s.queue ++ [(source, datagram)], others := source :: s.others }
  | .serve now => s.serve text crates now

end Step

/-- Ready links are attached, what the clients send can be decoded, and once nothing is on its way
the packets owed have been returned by polls. -/
structure Conforms (text : JsonText) (s : DerpWorld ι) : Prop where
  attached : ∀ x ticket, SocketDerpClient.linkState (s.client x) = .ready →
    (s.client x).ticket = some ticket → s.attached x ticket.sessionId = true
  accepted : ∀ datagram ∈ s.sent, (decodeRequest text datagram).isSome = true
  returned : s.queue = [] → ∀ y,
    (∀ addr, (s.client y).activeSocket = some addr → s.inbox addr = []) →
    ∀ packet ∈ s.owed y, packet ∈ s.polled y

end DerpWorld

/-- No link with an open socket is given a ticket that fits its node, and no link that has a ticket
opens a socket. -/
def KeepsUnready {ι : Type} (s : DerpWorld ι) : DerpAction ι → Prop
  | .connect x nodeMeta _ _ opened =>
    (s.client x).ticket = none ∨ nodeMeta.transport ≠ .udp ∨ opened.isOk = false
  | .attach x ticket =>
    (s.client x).activeSocket = none ∨
      ∀ nodeMeta, (s.client x).nodeMeta = some nodeMeta →
        SocketDerpClient.ticketFits nodeMeta ticket = false
  | _ => True

/-! ## What the daemon binds -/

theorem exists_endpoint_of_attachedAt {rt : RelayRuntime} {sessionId : String}
    {addr : SocketAddr} (h : attachedAt rt sessionId addr = true) :
    ∃ p, rt.endpoint sessionId p = some addr := by
  obtain ⟨⟨p, bound⟩, hmem, hbound⟩ := List.any_eq_true.mp h
  obtain rfl : bound = addr := by simpa using hbound
  refine ⟨p, ?_⟩
  rw [← RelayRuntime.get?_participants]
  exact AList.mem_lookup_iff.mpr hmem

/-- A detach only takes bindings away, whether it succeeds or not. -/
theorem endpoint_handleDetach {rt : RelayRuntime} {source : SocketAddr}
    {sessionId participantId sid p : String} {addr : SocketAddr}
    (h : (rt.handleDetach source sessionId participantId).2.endpoint sid p = some addr) :
    rt.endpoint sid p = some addr := by
  by_cases hbound : rt.endpoint sessionId participantId = some source
  · obtain ⟨participants, hparticipants, hget⟩ := RelayRuntime.endpoint_eq_some.mp hbound
    have hrest : rt.participants sessionId = participants := by
      simp [RelayRuntime.participants, hparticipants]
    have hrel : ∀ rt' : RelayRuntime,
        rt'.endpoints = (rt.released sessionId participantId).endpoints →
        rt'.endpoint sid p = some addr → rt.endpoint sid p = some addr := by
      intro rt' heq h'
      unfold RelayRuntime.endpoint at h'
      rw [heq] at h'
      have h'' : (rt.released sessionId participantId).endpoint sid p = some addr := h'
      rw [RelayRuntime.endpoint_released] at h''
      split_ifs at h'' with hsame
      exact h''
    refine hrel _ ?_ h
    unfold RelayRuntime.handleDetach RelayRuntime.released
    simp only [hparticipants, hget, hrest, ne_eq, not_true, if_false]
    split
    · split <;> rfl
    · rfl
  · obtain ⟨err, heq⟩ := RelayRuntime.handleDetach_of_not_bound hbound
    rwa [heq] at h

/-- Only the source of a request can become bound by it. -/
theorem endpoint_handleRequest {rt : RelayRuntime} {crates : Crates} {now : Int}
    {source : SocketAddr} {request : ClientRequest} {sid p : String} {addr : SocketAddr}
    (h : (rt.handleRequest crates now source request).2.endpoint sid p = some addr) :
    rt.endpoint sid p = some addr ∨ addr = source := by
  cases request with
  | ping => exact .inl h
  | attach participantId wire =>
    rcases RelayRuntime.handleAttach_cases rt crates now source participantId wire with
      ⟨_, heq⟩ | ⟨_, err, heq⟩
    · rw [RelayRuntime.handleRequest, heq, RelayRuntime.attached,
        RelayRuntime.endpoint_bindEndpoint] at h
      split_ifs at h with hsame
      · exact .inr (Option.some.inj h).symm
      · left
        simpa [RelayRuntime.endpoint] using h
    · rw [RelayRuntime.handleRequest, heq] at h
      exact .inl h
  | forward sessionId fromParticipantId payloadB64 => exact .inl h
  | detach sessionId participantId => exact .inl (endpoint_handleDetach h)

namespace DerpWorld

variable {ι : Type}

/-! ## As long as no link is ready -/

/-- No link is ready, so nothing has been sent, and the daemon knows others only. -/
structure Silent (s : DerpWorld ι) : Prop where
  unready : ∀ x, SocketDerpClient.linkState (s.client x) ≠ .ready
  sockets : ∀ x addr, (s.client x).activeSocket = some addr → addr ∈ s.held
  apart : ∀ addr ∈ s.held, addr ∉ s.others
  bound : ∀ rt, s.daemon = some rt → ∀ sid p addr, rt.endpoint sid p = some addr → addr ∈ s.others
  queued : ∀ d ∈ s.queue, d.1 ∈ s.others
  unsent : s.sent = []
  unowed : ∀ y, s.owed y = []

theorem silent_start (relayUrlPrefix ticketSigningSecret : Option String) :
    (start relayUrlPrefix ticketSigningSecret : DerpWorld ι).Silent where
  unready _ h := by
    rw [SocketDerpClient.linkState_eq_ready_iff] at h
    cases h.2.1
  sockets _ _ h := by cases h
  apart _ h := by cases h
  bound rt h sid p addr hbound := by
    obtain rfl : RelayRuntime.new relayUrlPrefix ticketSigningSecret = rt := Option.some.inj h
    simp [RelayRuntime.new, RelayRuntime.endpoint] at hbound
  queued _ h := by cases h
  unsent := rfl
  unowed _ := rfl

theorem Silent.conforms {s : DerpWorld ι} (h : s.Silent) (text : JsonText) : s.Conforms text where
  attached x _ hready := absurd hready (h.unready x)
  accepted datagram hsent := by
    rw [h.unsent] at hsent
    cases hsent
  returned _ y _ packet howed := by
    rw [h.unowed y] at howed
    cases howed

/-- Nothing that the daemon knows is a DERP client's socket. -/
theorem Silent.not_attached {s : DerpWorld ι} (h : s.Silent) {rt : RelayRuntime}
    (hrt : s.daemon = some rt) {addr : SocketAddr} (hnew : addr ∉ s.others) (sessionId : String) :
    attachedAt rt sessionId addr = false := by
  rw [← Bool.not_eq_true]
  intro hattached
  obtain ⟨p, hbound⟩ := exists_endpoint_of_attachedAt hattached
  exact hnew (h.bound rt hrt sessionId p addr hbound)

section Step

variable [DecidableEq ι] {s t : DerpWorld ι} {text : JsonText} {crates : Crates}

/-- Another state of one client that is not ready either. -/
theorem Silent.set (h : s.Silent) (x : ι) {state : DerpClientState SocketAddr}
    (hready : SocketDerpClient.linkState state ≠ .ready)
    (hsocket : ∀ addr, state.activeSocket = some addr → addr ∈ s.held) : (s.set x state).Silent := by
  refine ⟨fun y => ?_, fun y addr hy => ?_, h.apart, h.bound, h.queued, h.unsent, h.unowed⟩
  · by_cases hxy : y = x
    · subst hxy
      simpa [DerpWorld.set] using hready
    · simpa [DerpWorld.set, hxy] using h.unready y
  · by_cases hxy : y = x
    · subst hxy
      exact hsocket addr (by simpa [DerpWorld.set] using hy)
    · exact h.sockets y addr (by simpa [DerpWorld.set, hxy] using hy)

theorem not_ready_of_ticket {state : DerpClientState SocketAddr} (h : state.ticket = none) :
    SocketDerpClient.linkState state ≠ .ready := by
  rw [Ne, SocketDerpClient.linkState_eq_ready_iff, h]
  simp

theorem not_ready_of_socket {state : DerpClientState SocketAddr} (h : state.activeSocket = none) :
    SocketDerpClient.linkState state ≠ .ready := by
  rw [Ne, SocketDerpClient.linkState_eq_ready_iff, h]
  simp

/-- What a successful `connect` leads to: a fresh socket. -/
theorem connect_eq_some {x : ι} {nodeMeta : DerpNodeMeta} {nowMs : Nat} {refused : String}
    {opened : Except String SocketAddr}
    (hstep : s.connect x nodeMeta nowMs refused opened = some t) :
    t = s ∧ (nodeMeta.transport ≠ .udp ∨ opened.isOk = false) ∨
      nodeMeta.transport = .udp ∧ ∃ addr, opened = .ok addr ∧ addr ∉ s.held ∧ addr ∉ s.others ∧
        t = { s.set x { s.client x with
          nodeMeta := some nodeMeta, activeSocket := some addr, closed := false
          lastRecvAtMs := nowMs } with held := addr :: s.held } := by
  unfold connect at hstep
  cases hconnect : SocketDerpClient.connectNode (s.client x) nodeMeta nowMs
      (fun _ => .error refused) (fun _ => opened) with
  | error err =>
    rw [hconnect] at hstep
    refine .inl ⟨(Option.some.inj hstep).symm, ?_⟩
    by_contra hcond
    obtain ⟨hudp, hopened⟩ := not_or.mp hcond
    cases opened with
    | error err => exact hopened rfl
    | ok addr =>
      have hok : SocketDerpClient.connectNode (s.client x) nodeMeta nowMs
          (fun _ => .error refused) (fun _ => .ok addr) = .ok _ :=
        SocketDerpClient.connectNode_eq_ok.mpr ⟨not_not.mp hudp, addr, rfl, rfl⟩
      rw [hconnect] at hok
      cases hok
  | ok state =>
    obtain ⟨hudp, addr, hopened, rfl⟩ := SocketDerpClient.connectNode_eq_ok.mp hconnect
    simp only [hconnect] at hstep
    split_ifs at hstep with hseen
    obtain ⟨hheld, hothers⟩ := not_or.mp hseen
    exact .inr ⟨hudp, addr, hopened, hheld, hothers, (Option.some.inj hstep).symm⟩

theorem Silent.send (h : s.Silent) (x : ι) (packet : List UInt8) : s.send x packet = s := by
  unfold DerpWorld.send
  cases hsend : SocketDerpClient.sendTransportPacket (s.client x) packet with
  | error err => rfl
  | ok out =>
    obtain ⟨socket, datagram⟩ := out
    exact absurd (SocketDerpClient.sendTransportPacket_eq_ok hsend).1 (h.unready x)

theorem Silent.poll (h : s.Silent) (x : ι) (nowMs : Nat) : s.poll x nowMs = s := by
  unfold DerpWorld.poll
  split
  · rfl
  · rename_i hpoll
    exact absurd (SocketDerpClient.ready_of_pollTransportPacket hpoll) (h.unready x)

omit [DecidableEq ι] in
theorem Silent.serve (h : s.Silent) {now : Int} (hstep : s.serve text crates now = some t) :
    t.Silent := by
  unfold DerpWorld.serve at hstep
  cases hrt : s.daemon with
  | none => simp [hrt] at hstep
  | some rt =>
    cases hqueue : s.queue with
    | nil => simp [hrt, hqueue] at hstep
    | cons d rest =>
      obtain ⟨source, datagram⟩ := d
      have hsource : source ∈ s.others := h.queued (source, datagram) (by simp [hqueue])
      have hrest : ∀ d ∈ rest, d.1 ∈ s.others := fun d hd =>
        h.queued d (by rw [hqueue]; exact List.mem_cons_of_mem _ hd)
      cases hdecode : decodeRequest text datagram with
      | none =>
        simp only [hrt, hqueue, hdecode, Option.some.injEq] at hstep
        subst hstep
        exact ⟨h.unready, h.sockets, h.apart, (fun _ hnone => by cases hnone), hrest, h.unsent,
          h.unowed⟩
      | some request =>
        simp only [hrt, hqueue, hdecode, Option.some.injEq] at hstep
        subst hstep
        refine ⟨h.unready, h.sockets, h.apart, ?_, hrest, h.unsent, h.unowed⟩
        intro rt' hrt' sid p addr hbound
        obtain rfl : (rt.handleRequest crates now source request).2 = rt' := Option.some.inj hrt'
        rcases endpoint_handleRequest hbound with hold | rfl
        · exact h.bound rt hrt sid p addr hold
        · exact hsource

/-- A step under the condition leaves every link unready. -/
theorem Silent.step (h : s.Silent) {a : DerpAction ι} (hok : KeepsUnready s a)
    (hstep : s.step text crates a = some t) : t.Silent := by
  cases a with
  | connect x nodeMeta nowMs refused opened =>
    rcases connect_eq_some hstep with ⟨rfl, _⟩ | ⟨hudp, addr, hopened, hheld, hothers, rfl⟩
    · exact h
    -- the link gets a socket, so the guard says that it has no ticket
    · have hticket : (s.client x).ticket = none := by
        rcases hok with hticket | htransport | herr
        · exact hticket
        · exact absurd hudp htransport
        · rw [hopened] at herr
          cases herr
      have hset : ({ s with held := addr :: s.held } : DerpWorld ι).Silent := by
        refine ⟨h.unready, fun y a hy => List.mem_cons_of_mem _ (h.sockets y a hy), ?_, h.bound,
          h.queued, h.unsent, h.unowed⟩
        intro a ha
        rcases List.mem_cons.mp ha with rfl | ha
        · exact hothers
        · exact h.apart a ha
      refine hset.set x (not_ready_of_ticket hticket) fun a ha => ?_
      obtain rfl : addr = a := Option.some.inj ha
      exact List.mem_cons_self
  | attach x ticket =>
    obtain rfl : s.attach x ticket = t := Option.some.inj hstep
    unfold attach
    cases hattach : SocketDerpClient.attachTicket (s.client x) ticket with
    | error err => exact h
    | ok state =>
      obtain ⟨⟨nodeMeta, hmeta, hfits⟩, rfl⟩ := SocketDerpClient.attachTicket_eq_ok.mp hattach
      rcases hok with hsocket | hnot
      · exact h.set x (not_ready_of_socket hsocket) (h.sockets x)
      · rw [hnot nodeMeta hmeta] at hfits
        cases hfits
  | send x packet =>
    obtain rfl : s.send x packet = t := Option.some.inj hstep
    rwa [h.send]
  | poll x nowMs =>
    obtain rfl : s.poll x nowMs = t := Option.some.inj hstep
    rwa [h.poll]
  | close x =>
    obtain rfl := Option.some.inj hstep
    exact h.set x (not_ready_of_ticket rfl) fun _ hsocket => by cases hsocket
  | other source datagram =>
    unfold DerpWorld.step at hstep
    by_cases hheld : source ∈ s.held
    · simp [hheld] at hstep
    · simp only [hheld, if_false, Option.some.injEq] at hstep
      subst hstep
      refine ⟨h.unready, h.sockets, ?_, ?_, ?_, h.unsent, h.unowed⟩
      · intro addr haddr hothers
        rcases List.mem_cons.mp hothers with rfl | hothers
        · exact hheld haddr
        · exact h.apart addr haddr hothers
      · exact fun rt hrt sid p addr hbound =>
          List.mem_cons_of_mem _ (h.bound rt hrt sid p addr hbound)
      · intro d hd
        rcases List.mem_append.mp hd with hd | hd
        · exact List.mem_cons_of_mem _ (h.queued d hd)
        · rw [List.mem_singleton.mp hd]
          exact List.mem_cons_self
  | serve now => exact h.serve hstep

/-- The first link that becomes ready is not attached. -/
theorem Silent.not_conforms (h : s.Silent) {a : DerpAction ι} (hnot : ¬ KeepsUnready s a)
    (hstep : s.step text crates a = some t) : ¬ t.Conforms text := by
  intro hconf
  cases a with
  | connect x nodeMeta nowMs refused opened =>
    obtain ⟨hticket, hnot⟩ := not_or.mp hnot
    obtain ⟨ticket, hticket⟩ := Option.ne_none_iff_exists'.mp hticket
    rcases connect_eq_some hstep with ⟨_, hcond⟩ | ⟨_, addr, _, hheld, hothers, rfl⟩
    · exact hnot hcond
    · have hattached := hconf.attached x ticket
        (by rw [SocketDerpClient.linkState_eq_ready_iff]; simp [DerpWorld.set, hticket])
        (by simpa [DerpWorld.set] using hticket)
      cases hrt : s.daemon with
      | none => simp [attached, DerpWorld.set, hrt] at hattached
      | some rt =>
        have hfree := h.not_attached hrt hothers ticket.sessionId
        simp [attached, DerpWorld.set, hrt, hfree] at hattached
  | attach x ticket =>
    obtain ⟨hsocket, hfits⟩ := not_or.mp hnot
    obtain ⟨addr, haddr⟩ := Option.ne_none_iff_exists'.mp hsocket
    push Not at hfits
    obtain ⟨nodeMeta, hmeta, hfits⟩ := hfits
    have hok := SocketDerpClient.attachTicket_eq_ok.mpr
      ⟨⟨nodeMeta, hmeta, by simpa using hfits⟩, rfl⟩
    obtain rfl : s.attach x ticket = t := Option.some.inj hstep
    unfold attach at hconf
    rw [hok] at hconf
    have hattached := hconf.attached x ticket
      (by rw [SocketDerpClient.linkState_eq_ready_iff]; simp [DerpWorld.set, haddr])
      (by simp [DerpWorld.set])
    cases hrt : s.daemon with
    | none => simp [attached, DerpWorld.set, hrt] at hattached
    | some rt =>
      have hfree := h.not_attached hrt (h.apart addr (h.sockets x addr haddr)) ticket.sessionId
      simp [attached, DerpWorld.set, haddr, hrt, hfree] at hattached
  | _ => exact hnot trivial

theorem silent_of_guarded {relayUrlPrefix ticketSigningSecret : Option String}
    (h : Reachable (guarded KeepsUnready (rel (DerpWorld.step text crates)))
      (start relayUrlPrefix ticketSigningSecret) s) : s.Silent :=
  h.invariant Silent (silent_start relayUrlPrefix ticketSigningSecret)
    fun _ _ _ hs hstep => hs.step hstep.1 hstep.2

/-- The runs that conform all the way are those in which no link ever becomes ready. -/
theorem conforming_iff (text : JsonText) (crates : Crates)
    (relayUrlPrefix ticketSigningSecret : Option String) (s : DerpWorld ι) :
    Reachable (fun s a t => s.step text crates a = some t ∧ t.Conforms text)
        (start relayUrlPrefix ticketSigningSecret) s ↔
      Reachable (guarded KeepsUnready (rel (DerpWorld.step text crates)))
        (start relayUrlPrefix ticketSigningSecret) s := by
  constructor
  · intro h
    induction h with
    | start => exact .start
    | next _ hstep ih =>
      have hok := not_not.mp fun hnot =>
        (silent_of_guarded ih).not_conforms hnot hstep.1 hstep.2
      exact .next ih ⟨hok, hstep.1⟩
  · intro h
    induction h with
    | start => exact .start
    | next hr hstep ih =>
      have hsilent := (silent_of_guarded hr).step hstep.1 hstep.2
      exact .next ih ⟨hstep.2, hsilent.conforms text⟩

end Step

/-! ## A link that says it is ready -/

def derpNode : DerpNodeMeta :=
  { DerpNodeMeta.empty with
    clusterId := "cn-sh-local", nodeId := "relay-cn-local-udp", host := "127.0.0.1", port := 9000 }

def derpTicket : Client.RelayTicket where
  ticketId := "ticket-1"
  networkId := "net-1"
  sessionId := "session-1"
  srcNodeId := "node-a"
  dstNodeId := "node-b"
  derpClusterId := some "cn-sh-local"
  countryCode := none
  cityCode := none
  allowedDerpNodeIds := ["relay-cn-local-udp"]
  relayUrl := "udp://127.0.0.1:9000"
  expiresAt := "4102444800"
  sessionKey := none
  signature := "sig"

def readyRun : List (DerpAction (Fin 2)) :=
  [.connect 0 derpNode 1000 "connection refused" (.ok ⟨"127.0.0.1", 40000⟩), .attach 0 derpTicket]

/-- After `connect_node` and `attach_ticket` the daemon has not heard of the link. -/
theorem ready_link_not_attached :
    ¬ ∀ (text : JsonText) (crates : Crates) (s : DerpWorld (Fin 2)),
      Reachable (rel (DerpWorld.step text crates)) (start none none) s → s.Conforms text := by
  intro h
  let text : JsonText := ⟨fun _ => none, fun _ => []⟩
  let crates : Crates := ⟨fun _ _ => [], fun _ => ""⟩
  obtain ⟨s, hexec, hready, hticket, hattached⟩ :
      ∃ s, exec (DerpWorld.step text crates) (start none none) readyRun = some s ∧
        SocketDerpClient.linkState (s.client 0) = .ready ∧
        (s.client 0).ticket = some derpTicket ∧ s.attached 0 "session-1" = false :=
    ⟨_, rfl, by decide, by decide, by decide⟩
  have hconf := (h text crates s (.of_exec .start hexec)).attached 0 derpTicket hready hticket
  rw [show derpTicket.sessionId = "session-1" from rfl, hattached] at hconf
  cases hconf

end DerpWorld

end Slan.System
