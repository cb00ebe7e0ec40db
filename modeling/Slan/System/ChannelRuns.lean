import Slan.Relay.Invariant
import Slan.System.Channel

/-! # Runs of the relay channel -/

namespace Slan.System

open Slan.Relay Slan.Client Transition

/-! ## The datagrams of the two clients -/

section Datagrams

variable (link : Link) (texts : Texts)

def Link.request (x : Side) (packet : List UInt8) : RelayDaemonRequest :=
  .forward link.sessionId (link.participant x) (Base64.encodeStandard packet)

/-- The acknowledgement of a forward by `x`. -/
def Link.ack (x : Side) (bytes : Nat) : ServerResponse :=
  .forwarded ⟨link.sessionId, link.participant x.peer, bytes⟩

/-- The packet that a forward by `x` sends to the other side. -/
def Link.packetFrom (x : Side) (payload : List UInt8) : ServerResponse :=
  .packet ⟨link.sessionId, link.participant x, Base64.encodeStandard payload⟩

theorem forwardRequest_clientState (x : Side) {packet : List UInt8} (h : packet ≠ []) :
    SocketRelayClient.forwardRequest (link.clientState x) packet =
      .ok (link.sessionId, link.request x packet) := by
  simp [SocketRelayClient.forwardRequest, Link.clientState, Link.request, h]

theorem readUdpResponse_ack (x : Side) {bytes : Nat} (h : bytes < Json.unsignedBound 64) :
    SocketRelayClient.readUdpResponse texts (some (link.ack x bytes).encode) =
      .ok (some (.forwarded link.sessionId (link.participant x.peer) bytes)) := by
  have hdecode := decode_response (link.ack x bytes) fun ack hack => by
    cases hack
    exact h
  rw [SocketRelayClient.readUdpResponse, hdecode]
  rfl

theorem readUdpResponse_packet (x : Side) (payload : List UInt8) :
    SocketRelayClient.readUdpResponse texts (some (link.packetFrom x payload).encode) =
      .ok (some (.packet link.sessionId (link.participant x) (Base64.encodeStandard payload))) := by
  have hdecode := decode_response (link.packetFrom x payload) fun ack hack => by cases hack
  rw [SocketRelayClient.readUdpResponse, hdecode]
  rfl

theorem polled_ack (x : Side) {bytes : Nat} (h : bytes < Json.unsignedBound 64) :
    SocketRelayClient.polled texts (some (link.ack x bytes).encode) = .ok none := by
  rw [SocketRelayClient.polled, readUdpResponse_ack link texts x h]
  rfl

theorem polled_packet (x : Side) (payload : List UInt8) :
    SocketRelayClient.polled texts (some (link.packetFrom x payload).encode) =
      .ok (some payload) := by
  rw [SocketRelayClient.polled, readUdpResponse_packet]
  simp [bind, Except.bind]

theorem payloadOf_of_polled {answers : Option Nat} {datagram : Json}
    {payload : Option (List UInt8)}
    (h : SocketRelayClient.polled texts (some datagram) = .ok payload) :
    payloadOf texts ⟨answers, datagram⟩ = payload := by
  rw [payloadOf, h]

/-- A poll of an acknowledgement returns nothing. -/
theorem pending_ack (x : Side) {bytes : Nat} (answers : Option Nat)
    (h : bytes < Json.unsignedBound 64) :
    pending texts [⟨answers, (link.ack x bytes).encode⟩] = [] :=
  List.filterMap_cons_none (payloadOf_of_polled texts (polled_ack link texts x h))

theorem pending_packet (x : Side) (answers : Option Nat) (payload : List UInt8) :
    pending texts [⟨answers, (link.packetFrom x payload).encode⟩] = [payload] :=
  List.filterMap_cons_some (payloadOf_of_polled texts (polled_packet link texts x payload))

theorem forwardAcknowledged_ack (x : Side) {packet : List UInt8}
    (h : packet.length < Json.unsignedBound 64) :
    SocketRelayClient.forwardAcknowledged texts link.sessionId packet
      (some (link.ack x packet.length).encode) = .ok () := by
  rw [SocketRelayClient.forwardAcknowledged, readUdpResponse_ack link texts x h]
  simp [bind, Except.bind]

theorem forwardAcknowledged_packet (x : Side) (sessionId : String) (packet payload : List UInt8) :
    ∃ err, SocketRelayClient.forwardAcknowledged texts sessionId packet
      (some (link.packetFrom x payload).encode) = .error err := by
  rw [SocketRelayClient.forwardAcknowledged, readUdpResponse_packet]
  exact ⟨_, rfl⟩

end Datagrams

/-! ## Every run: what is on the wires -/

namespace Channel

@[simp] theorem set_runtime (c : Channel) (x : Side) (cs : ClientSide) :
    (c.set x cs).runtime = c.runtime := rfl

theorem side_set (c : Channel) (x y : Side) (cs : ClientSide) :
    (c.set x cs).side y = if y = x then cs else c.side y := Function.update_apply _ _ _ _

end Channel

theorem Side.peer_ne (x : Side) : x.peer ≠ x := by
  cases x <;> decide

theorem Side.peer_peer (x : Side) : x.peer.peer = x := by
  cases x <;> rfl

theorem Side.eq_peer_of_ne {x y : Side} (h : y ≠ x) : y = x.peer := by
  cases x <;> cases y <;> first | rfl | exact absurd rfl h

theorem Link.addr_inj (link : Link) (x y : Side) : link.addr x = link.addr y ↔ x = y := by
  refine ⟨fun h => ?_, fun h => h ▸ rfl⟩
  cases x <;> cases y
  · rfl
  · exact absurd h link.addr_ne
  · exact absurd h.symm link.addr_ne
  · rfl

/-- The datagrams under way are forwards, their acknowledgements and their packets. -/
structure Wired (link : Link) (c : Channel) : Prop where
  runtime : c.runtime = link.runtime
  outbox : ∀ x, ∀ m ∈ (c.side x).outbox,
    m.datagram = (link.request x m.packet).encode ∧ m.packet ≠ [] ∧
      m.packet.length < Json.unsignedBound 64
  packets : ∀ x, ∀ d ∈ (c.side x).inbox, d.answers = none →
    ∃ payload, d.datagram = (link.packetFrom x.peer payload).encode
  answers : ∀ x, ∀ d ∈ (c.side x).inbox, d.answers ≠ none →
    ∃ bytes < Json.unsignedBound 64, d.datagram = (link.ack x bytes).encode
  rejected : ∀ x, (c.side x).rejected = []
  waiting : ∀ x call, (c.side x).waiting = some call →
    call.sessionId = link.sessionId ∧ call.packet.length < Json.unsignedBound 64

/-- The channel after the daemon has taken `m` from `x`. -/
def Channel.served (link : Link) (c : Channel) (x : Side) (m : Outgoing) (rest : List Outgoing) :
    Channel where
  runtime := link.runtime
  side y :=
    if y = x then
      { c.side x with
        outbox := rest
        accepted := (c.side x).accepted ++ [m.packet]
        inbox := (c.side x).inbox ++ [⟨some m.seq, (link.ack x m.packet.length).encode⟩] }
    else
      { c.side y with
        inbox := (c.side y).inbox ++ [⟨none, (link.packetFrom x m.packet).encode⟩] }

/-- Both clients being attached, the daemon accepts every forward. -/
theorem Wired.serve {link : Link} {c : Channel} (h : Wired link c) (crates : Crates) (now : Int)
    {x : Side} {m : Outgoing} {rest : List Outgoing} (hm : (c.side x).outbox = m :: rest) :
    c.serve link crates now x = some (c.served link x m rest) := by
  obtain ⟨hdatagram, hne, _⟩ := h.outbox x m (hm ▸ List.mem_cons_self)
  have hd : link.runtime.Delivers (link.addr x) link.sessionId (link.participant x)
      (Base64.encodeStandard m.packet) link.session (link.participant x.peer) (link.addr x.peer)
      m.packet :=
    ⟨link.bound x, Base64.decodeStandard_encodeStandard _, hne, link.stored, link.peers x,
      link.bound x.peer⟩
  unfold Channel.serve
  simp only [hm, hdatagram, Link.request, decode_forward, h.runtime, RelayRuntime.handleRequest,
    RelayRuntime.handleForward_of_delivers crates hd, RelayRuntime.forwardReply]
  unfold Channel.served Channel.post
  simp only [Option.some.injEq, Channel.mk.injEq, true_and, Channel.set_runtime]
  funext y
  by_cases hy : y = x
  · subst hy
    simp [Channel.side_set, link.addr_inj, Ne.symm (Side.peer_ne y), Link.ack]
  · obtain rfl := Side.eq_peer_of_ne hy
    simp [Channel.side_set, link.addr_inj, Side.peer_ne, Link.packetFrom]

/-- The channel after a call has sent its forward. -/
def Channel.sent (link : Link) (c : Channel) (x : Side) (packet : List UInt8) : Channel :=
  c.set x { c.side x with
    nextSeq := (c.side x).nextSeq + 1
    waiting := some ⟨(c.side x).nextSeq, link.sessionId, packet⟩
    outbox := (c.side x).outbox ++ [⟨(c.side x).nextSeq, packet, (link.request x packet).encode⟩] }

/-- The channel after a poll has taken a datagram. -/
def Channel.polled (texts : Texts) (c : Channel) (x : Side) (d : Incoming)
    (rest : List Incoming) : Channel :=
  c.set x { c.side x with
    inbox := rest
    delivered := (c.side x).delivered ++ pending texts [d] }

/-- All that a step can do. -/
inductive ChannelStep (link : Link) (texts : Texts) (c : Channel) : ChannelAction → Channel → Prop
  | refused (x : Side) (packet : List UInt8) : ChannelStep link texts c (.send x packet) c
  | send (x : Side) (packet : List UInt8) (hidle : (c.side x).waiting = none) (hne : packet ≠ [])
      (hlength : packet.length < Json.unsignedBound 64) :
      ChannelStep link texts c (.send x packet) (c.sent link x packet)
  | serve (now : Int) (x : Side) (m : Outgoing) (rest : List Outgoing)
      (hm : (c.side x).outbox = m :: rest) :
      ChannelStep link texts c (.serve now x) (c.served link x m rest)
  | read (x : Side) (call : Sending) (d : Incoming) (rest : List Incoming)
      (hcall : (c.side x).waiting = some call) (hd : (c.side x).inbox = d :: rest) :
      ChannelStep link texts c (.read x) (c.set x (Channel.finish { c.side x with inbox := rest }
        call (SocketRelayClient.forwardAcknowledged texts call.sessionId call.packet
          (some d.datagram))))
  | timeout (x : Side) (call : Sending) (hcall : (c.side x).waiting = some call) :
      ChannelStep link texts c (.timeout x) (c.set x (Channel.finish (c.side x) call
        (SocketRelayClient.forwardAcknowledged texts call.sessionId call.packet none)))
  | poll (x : Side) (d : Incoming) (rest : List Incoming) (hidle : (c.side x).waiting = none)
      (hd : (c.side x).inbox = d :: rest) :
      ChannelStep link texts c (.poll x) (c.polled texts x d rest)

theorem poll_eq {texts : Texts} {c : Channel} {x : Side} {d : Incoming} {rest : List Incoming}
    (hidle : (c.side x).waiting = none) (hd : (c.side x).inbox = d :: rest) :
    c.poll texts x = some (c.polled texts x d rest) := by
  unfold Channel.poll Channel.polled
  simp only [hidle, hd]
  cases hp : SocketRelayClient.polled texts (some d.datagram) with
  | error err => simp [pending, payloadOf, hp]
  | ok payload => cases payload <;> simp [pending, payloadOf, hp]

theorem Wired.step_cases {link : Link} {crates : Crates} {texts : Texts} {c t : Channel}
    {action : ChannelAction} (h : Wired link c) (hs : c.step link crates texts action = some t) :
    ChannelStep link texts c action t := by
  cases action with
  | send x packet =>
    simp only [Channel.step, Channel.send] at hs
    split at hs
    · cases hs
    · rename_i hfree
      simp only [not_or, Bool.not_eq_true, Option.isSome_eq_false_iff, Option.isNone_iff_eq_none,
        not_le] at hfree
      by_cases hne : packet = []
      · subst hne
        obtain rfl := Option.some.inj hs
        exact .refused x []
      · rw [forwardRequest_clientState link x hne] at hs
        obtain rfl := Option.some.inj hs
        exact .send x packet hfree.1 hne hfree.2
  | serve now x =>
    cases hm : (c.side x).outbox with
    | nil => simp [Channel.step, Channel.serve, hm] at hs
    | cons m rest =>
      rw [Channel.step, h.serve crates now hm] at hs
      obtain rfl := Option.some.inj hs
      exact .serve now x m rest hm
  | read x =>
    simp only [Channel.step, Channel.read] at hs
    split at hs
    · rename_i call d rest hcall hd
      obtain rfl := Option.some.inj hs
      exact .read x call d rest hcall hd
    · cases hs
  | timeout x =>
    simp only [Channel.step, Channel.timeout] at hs
    split at hs
    · rename_i call hcall
      obtain rfl := Option.some.inj hs
      exact .timeout x call hcall
    · cases hs
  | poll x =>
    cases hidle : (c.side x).waiting with
    | some call => simp [Channel.step, Channel.poll, hidle] at hs
    | none =>
      cases hd : (c.side x).inbox with
      | nil => simp [Channel.step, Channel.poll, hidle, hd] at hs
      | cons d rest =>
        rw [Channel.step, poll_eq hidle hd] at hs
        obtain rfl := Option.some.inj hs
        exact .poll x d rest hidle hd

/-- A step at `x` that only takes datagrams away, or ends a call. -/
theorem Wired.set {link : Link} {c : Channel} (h : Wired link c) (x : Side) (cs : ClientSide)
    (hout : ∀ m ∈ cs.outbox,
      m.datagram = (link.request x m.packet).encode ∧ m.packet ≠ [] ∧
        m.packet.length < Json.unsignedBound 64)
    (hin : ∀ d ∈ cs.inbox, d ∈ (c.side x).inbox) (hrejected : cs.rejected = [])
    (hwaiting : ∀ call, cs.waiting = some call →
      call.sessionId = link.sessionId ∧ call.packet.length < Json.unsignedBound 64) :
    Wired link (c.set x cs) where
  runtime := h.runtime
  outbox y := by
    rw [Channel.side_set]
    by_cases hy : y = x
    · rw [if_pos hy, hy]
      exact hout
    · rw [if_neg hy]
      exact h.outbox y
  packets y d hd := by
    refine h.packets y d ?_
    rw [Channel.side_set] at hd
    by_cases hy : y = x
    · rw [if_pos hy] at hd
      rw [hy]
      exact hin d hd
    · rwa [if_neg hy] at hd
  answers y d hd := by
    refine h.answers y d ?_
    rw [Channel.side_set] at hd
    by_cases hy : y = x
    · rw [if_pos hy] at hd
      rw [hy]
      exact hin d hd
    · rwa [if_neg hy] at hd
  rejected y := by
    rw [Channel.side_set]
    by_cases hy : y = x
    · rwa [if_pos hy]
    · rw [if_neg hy]
      exact h.rejected y
  waiting y call := by
    rw [Channel.side_set]
    by_cases hy : y = x
    · rw [if_pos hy]
      exact hwaiting call
    · rw [if_neg hy]
      exact h.waiting y call

theorem Wired.served {link : Link} {c : Channel} (h : Wired link c) {x : Side} {m : Outgoing}
    {rest : List Outgoing} (hm : (c.side x).outbox = m :: rest) :
    Wired link (c.served link x m rest) where
  runtime := rfl
  outbox y m' hm' := by
    dsimp only [Channel.served] at hm'
    by_cases hy : y = x
    · rw [if_pos hy] at hm'
      rw [hy]
      exact h.outbox x m' (hm ▸ List.mem_cons_of_mem m hm')
    · rw [if_neg hy] at hm'
      exact h.outbox y m' hm'
  packets y d hd hnone := by
    dsimp only [Channel.served] at hd
    by_cases hy : y = x
    · rw [if_pos hy, List.mem_append, List.mem_singleton] at hd
      rcases hd with hd | rfl
      · exact hy ▸ h.packets x d hd hnone
      · cases hnone
    · rw [if_neg hy, List.mem_append, List.mem_singleton] at hd
      rcases hd with hd | rfl
      · exact h.packets y d hd hnone
      · refine ⟨m.packet, ?_⟩
        rw [Side.eq_peer_of_ne hy, Side.peer_peer]
  answers y d hd hsome := by
    dsimp only [Channel.served] at hd
    by_cases hy : y = x
    · rw [if_pos hy, List.mem_append, List.mem_singleton] at hd
      rcases hd with hd | rfl
      · exact hy ▸ h.answers x d hd hsome
      · exact ⟨m.packet.length, (h.outbox x m (hm ▸ List.mem_cons_self)).2.2, by rw [hy]⟩
    · rw [if_neg hy, List.mem_append, List.mem_singleton] at hd
      rcases hd with hd | rfl
      · exact h.answers y d hd hsome
      · exact absurd rfl hsome
  rejected y := by
    dsimp only [Channel.served]
    by_cases hy : y = x
    · rw [if_pos hy]
      exact h.rejected x
    · rw [if_neg hy]
      exact h.rejected y
  waiting y call := by
    dsimp only [Channel.served]
    by_cases hy : y = x
    · rw [if_pos hy]
      exact h.waiting x call
    · rw [if_neg hy]
      exact h.waiting y call

theorem Wired.step {link : Link} {texts : Texts} {c t : Channel} {action : ChannelAction}
    (h : Wired link c) (hs : ChannelStep link texts c action t) : Wired link t := by
  cases hs with
  | refused x packet => exact h
  | send x packet hidle hne hlength =>
    refine h.set x _ ?_ (fun d hd => hd) (h.rejected x) ?_
    · intro m hm
      rcases List.mem_append.mp hm with hm | hm
      · exact h.outbox x m hm
      · obtain rfl := List.mem_singleton.mp hm
        exact ⟨rfl, hne, hlength⟩
    · rintro call ⟨⟩
      exact ⟨rfl, hlength⟩
  | serve now x m rest hm => exact h.served hm
  | read x call d rest hcall hd =>
    refine h.set x _ (h.outbox x) (fun d' hd' => ?_) (h.rejected x) (fun call' hcall' => ?_)
    · rw [hd]
      exact List.mem_cons_of_mem d hd'
    · cases hcall'
  | timeout x call hcall =>
    refine h.set x _ (h.outbox x) (fun d' hd' => hd') (h.rejected x) (fun call' hcall' => ?_)
    cases hcall'
  | poll x d rest hidle hd =>
    refine h.set x _ (h.outbox x) (fun d' hd' => ?_) (h.rejected x) (h.waiting x)
    rw [hd]
    exact List.mem_cons_of_mem d hd'

theorem wired_start (link : Link) : Wired link link.start where
  runtime := rfl
  outbox _ _ hm := by simp [Link.start] at hm
  packets _ _ hd := by simp [Link.start] at hd
  answers _ _ hd := by simp [Link.start] at hd
  rejected _ := rfl
  waiting _ _ hcall := by simp [Link.start] at hcall

theorem wired_of_reachable {link : Link} {crates : Crates} {texts : Texts} {c : Channel}
    (h : Reachable (rel (Channel.step link crates texts)) link.start c) : Wired link c :=
  h.invariant (Wired link) (wired_start link) fun _ _ _ hc hs => hc.step (hc.step_cases hs)

/-! ## Runs in which calls read their own answers -/

/-- The answers among the datagrams under way to a client. -/
def answersOf (inbox : List Incoming) : List Incoming := inbox.filter fun d => d.answers.isSome

theorem pending_append (texts : Texts) (xs ys : List Incoming) :
    pending texts (xs ++ ys) = pending texts xs ++ pending texts ys := List.filterMap_append

theorem pending_cons (texts : Texts) (d : Incoming) (ds : List Incoming) :
    pending texts (d :: ds) = pending texts [d] ++ pending texts ds := pending_append texts [d] ds

/-- A client has at most one forward or answer under way, that of its waiting call. -/
structure OrderlySide (link : Link) (x : Side) (cs : ClientSide) : Prop where
  quiet : cs.waiting = none → cs.outbox = [] ∧ answersOf cs.inbox = []
  busy : ∀ call, cs.waiting = some call →
    (∃ m, cs.outbox = [m] ∧ m.seq = call.seq ∧ m.packet = call.packet ∧
        answersOf cs.inbox = []) ∨
      (cs.outbox = [] ∧
        answersOf cs.inbox = [⟨some call.seq, (link.ack x call.packet.length).encode⟩])
  failed : cs.failed = []

/-- What was accepted from one side is with the other, or on its way there. -/
structure Orderly (link : Link) (texts : Texts) (c : Channel) : Prop where
  sides : ∀ x, OrderlySide link x (c.side x)
  flow : ∀ x, (c.side x).accepted =
    (c.side x.peer).delivered ++ pending texts (c.side x.peer).inbox

section Orderly

variable {link : Link} {texts : Texts} {c : Channel}

theorem orderly_start (link : Link) (texts : Texts) : Orderly link texts link.start where
  sides _ := ⟨fun _ => ⟨rfl, rfl⟩, fun _ hcall => (by cases hcall), rfl⟩
  flow _ := rfl

/-- A step at one side that moves no payload but from the inbox to the user. -/
theorem Orderly.set (h : Orderly link texts c) {x : Side} {cs : ClientSide}
    (hside : OrderlySide link x cs) (haccepted : cs.accepted = (c.side x).accepted)
    (hflow : cs.delivered ++ pending texts cs.inbox =
      (c.side x).delivered ++ pending texts (c.side x).inbox) :
    Orderly link texts (c.set x cs) := by
  constructor
  · intro y
    rw [Channel.side_set]
    split
    · rename_i hy
      exact hy ▸ hside
    · exact h.sides y
  · intro y
    have hy := h.flow y
    rw [Channel.side_set, Channel.side_set]
    by_cases hyx : y = x
    · subst hyx
      rw [if_pos rfl, if_neg (Side.peer_ne y), haccepted]
      exact hy
    · have hpeer : y.peer = x := by rw [Side.eq_peer_of_ne hyx, Side.peer_peer]
      rw [if_neg hyx, if_pos hpeer, hflow, ← hpeer]
      exact hy

theorem Orderly.sent (h : Orderly link texts c) {x : Side} {packet : List UInt8}
    (hidle : (c.side x).waiting = none) : Orderly link texts (c.sent link x packet) := by
  obtain ⟨hout, hin⟩ := (h.sides x).quiet hidle
  refine h.set ⟨fun hwaiting => ?_, fun call hcall => ?_, (h.sides x).failed⟩ rfl rfl
  · cases hwaiting
  · obtain rfl := Option.some.inj hcall
    left
    refine ⟨⟨(c.side x).nextSeq, packet, (link.request x packet).encode⟩, ?_, rfl, rfl, hin⟩
    rw [hout]
    rfl

theorem Orderly.served (h : Orderly link texts c) (hw : Wired link c) {x : Side} {m : Outgoing}
    {rest : List Outgoing} (hm : (c.side x).outbox = m :: rest) :
    Orderly link texts (c.served link x m rest) := by
  have hlength := (hw.outbox x m (hm ▸ List.mem_cons_self)).2.2
  constructor
  · intro y
    dsimp only [Channel.served]
    split
    · rename_i hy
      subst hy
      refine ⟨fun hidle => ?_, fun call hcall => ?_, (h.sides y).failed⟩
      · have hout := ((h.sides y).quiet hidle).1
        rw [hm] at hout
        cases hout
      · rcases (h.sides y).busy call hcall with ⟨m', hout, hseq, hpacket, hin⟩ | ⟨hout, _⟩
        · -- the one forward on its way is the waiting call's, and this is its answer
          rw [hm] at hout
          obtain ⟨rfl, rfl⟩ := List.cons.inj hout
          right
          refine ⟨rfl, ?_⟩
          unfold answersOf at hin ⊢
          rw [List.filter_append, hin, ← hseq, ← hpacket]
          rfl
        · rw [hm] at hout
          cases hout
    · have hkept : ∀ d : Incoming, d.answers = none →
          answersOf ((c.side y).inbox ++ [d]) = answersOf (c.side y).inbox := by
        intro d hd
        simp [answersOf, hd]
      refine ⟨fun hidle => ?_, fun call hcall => ?_, (h.sides y).failed⟩
      · have := (h.sides y).quiet hidle
        dsimp only
        rwa [hkept _ rfl]
      · have := (h.sides y).busy call hcall
        dsimp only
        rwa [hkept _ rfl]
  · intro y
    have hy := h.flow y
    dsimp only [Channel.served]
    by_cases hyx : y = x
    · subst hyx
      rw [if_pos rfl, if_neg (Side.peer_ne y)]
      dsimp only
      rw [hy, pending_append, pending_packet, List.append_assoc]
    · have hpeer : y.peer = x := by rw [Side.eq_peer_of_ne hyx, Side.peer_peer]
      rw [if_neg hyx, if_pos hpeer]
      dsimp only
      rw [hy, hpeer, pending_append, pending_ack link texts x _ hlength, List.append_nil]

theorem answersOf_cons_of_isSome {d : Incoming} {rest : List Incoming} (h : d.answers.isSome) :
    answersOf (d :: rest) = d :: answersOf rest := List.filter_cons_of_pos h

theorem Orderly.read (h : Orderly link texts c) (hw : Wired link c) {x : Side} {call : Sending}
    {d : Incoming} {rest : List Incoming} (hcall : (c.side x).waiting = some call)
    (hd : (c.side x).inbox = d :: rest) (hown : d.answers = some call.seq) :
    Orderly link texts (c.set x (Channel.finish { c.side x with inbox := rest } call
      (SocketRelayClient.forwardAcknowledged texts call.sessionId call.packet
        (some d.datagram)))) := by
  have hcons : answersOf (d :: rest) = d :: answersOf rest :=
    answersOf_cons_of_isSome (by rw [hown]; rfl)
  obtain ⟨hsession, hlength⟩ := hw.waiting x call hcall
  rcases (h.sides x).busy call hcall with ⟨_, _, _, _, hin⟩ | ⟨hout, hin⟩
  · rw [hd, hcons] at hin
    cases hin
  · rw [hd, hcons] at hin
    obtain ⟨rfl, hrest⟩ := List.cons.inj hin
    rw [hsession, forwardAcknowledged_ack link texts x hlength]
    refine h.set ⟨fun _ => ⟨hout, hrest⟩, fun _ hwaiting => ?_, (h.sides x).failed⟩ rfl ?_
    · cases hwaiting
    · rw [hd, pending_cons, pending_ack link texts x _ hlength]
      rfl

theorem Orderly.polled (h : Orderly link texts c) {x : Side} {d : Incoming} {rest : List Incoming}
    (hidle : (c.side x).waiting = none) (hd : (c.side x).inbox = d :: rest) :
    Orderly link texts (c.polled texts x d rest) := by
  obtain ⟨hout, hin⟩ := (h.sides x).quiet hidle
  refine h.set ⟨fun _ => ⟨hout, ?_⟩, fun call hcall => ?_, (h.sides x).failed⟩ rfl ?_
  · rw [hd] at hin
    have hnone := List.filter_eq_nil_iff.mp hin
    exact List.filter_eq_nil_iff.mpr fun d' hd' => hnone d' (List.mem_cons_of_mem d hd')
  · exact absurd (hidle.symm.trans hcall) (by simp)
  · dsimp only
    rw [hd, pending_cons texts d rest, List.append_assoc]

/-- A step within the guard keeps the order. -/
theorem Orderly.step {action : ChannelAction} {t : Channel} (h : Orderly link texts c)
    (hw : Wired link c) (hok : ReadsOwnAnswer c action) (hs : ChannelStep link texts c action t) :
    Orderly link texts t := by
  cases hs with
  | refused x packet => exact h
  | send x packet hidle hne hlength => exact h.sent hidle
  | serve now x m rest hm => exact h.served hw hm
  | read x call d rest hcall hd => exact h.read hw hcall hd (hok call d rest hcall hd)
  | timeout x call hcall => exact hok.elim
  | poll x d rest hidle hd => exact h.polled hidle hd

theorem orderly_of_reachable {crates : Crates}
    (h : Reachable (guarded ReadsOwnAnswer (rel (Channel.step link crates texts))) link.start c) :
    Orderly link texts c ∧ Wired link c := by
  refine h.invariant (fun c => Orderly link texts c ∧ Wired link c)
    ⟨orderly_start link texts, wired_start link⟩ ?_
  rintro c action t ⟨ho, hw⟩ ⟨hok, hs⟩
  have hcases := hw.step_cases hs
  exact ⟨ho.step hw hok hcases, hw.step hcases⟩

end Orderly

/-! ## Failed calls -/

/-- No step forgets a failed call. -/
theorem ChannelStep.failed_subset {link : Link} {texts : Texts} {c t : Channel}
    {action : ChannelAction} (h : ChannelStep link texts c action t) (x : Side) :
    (c.side x).failed ⊆ (t.side x).failed := by
  have hfinish : ∀ (cs : ClientSide) call result,
      cs.failed ⊆ (Channel.finish cs call result).failed := by
    intro cs call result
    unfold Channel.finish
    cases result with
    | ok _ => exact List.Subset.refl _
    | error _ => exact List.subset_append_left _ _
  have hset : ∀ (y : Side) (cs : ClientSide), (c.side y).failed ⊆ cs.failed →
      (c.side x).failed ⊆ ((c.set y cs).side x).failed := by
    intro y cs hcs
    rw [Channel.side_set]
    split
    · rename_i hxy
      exact hxy ▸ hcs
    · exact List.Subset.refl _
  cases h with
  | refused y packet => exact List.Subset.refl _
  | send y packet => exact hset y _ (List.Subset.refl _)
  | serve now y m rest =>
    dsimp only [Channel.served]
    split
    · rename_i hxy
      exact hxy ▸ List.Subset.refl _
    · exact List.Subset.refl _
  | read y call d rest => exact hset y _ (hfinish _ call _)
  | timeout y call => exact hset y _ (hfinish _ call _)
  | poll y d rest => exact hset y _ (List.Subset.refl _)

/-- A call that ends well has read its own answer. -/
theorem Orderly.readsOwnAnswer {link : Link} {texts : Texts} {c t : Channel}
    {action : ChannelAction} (h : Orderly link texts c) (hw : Wired link c)
    (hs : ChannelStep link texts c action t) (hfailed : ∀ x, (t.side x).failed = []) :
    ReadsOwnAnswer c action := by
  have herror : ∀ (x : Side) (cs : ClientSide) (call : Sending) (err : RelayClientError),
      t = c.set x (Channel.finish cs call (.error err)) → False := by
    intro x cs call err ht
    have := hfailed x
    rw [ht, Channel.side_set, if_pos rfl] at this
    exact absurd this (List.append_ne_nil_of_right_ne_nil _ (List.cons_ne_nil _ _))
  cases hs with
  | refused x packet => trivial
  | send x packet => trivial
  | serve now x m rest => trivial
  | poll x d rest => trivial
  | timeout x call hcall => exact herror x _ call _ rfl
  | read x call d rest hcall hd =>
    intro call' d' rest' hcall' hd'
    obtain rfl : call = call' := Option.some.inj (hcall.symm.trans hcall')
    obtain ⟨rfl, _⟩ := List.cons.inj (hd.symm.trans hd')
    have hmem : d ∈ (c.side x).inbox := hd ▸ List.mem_cons_self
    cases hanswers : d.answers with
    | none =>
      obtain ⟨payload, hpacket⟩ := hw.packets x d hmem hanswers
      obtain ⟨err, herr⟩ := forwardAcknowledged_packet link texts x.peer call.sessionId
        call.packet payload
      rw [hpacket, herr] at herror
      exact (herror x _ call err rfl).elim
    | some seq =>
      have hin : d ∈ answersOf (c.side x).inbox :=
        List.mem_filter.mpr ⟨hmem, by rw [hanswers]; rfl⟩
      rcases (h.sides x).busy call hcall with ⟨_, _, _, _, hnone⟩ | ⟨_, hone⟩
      · rw [hnone] at hin
        cases hin
      · rw [hone, List.mem_singleton] at hin
        rw [← hanswers, hin]

/-! ## Delivery -/

/-- A client that polls until nothing is left has every payload that was under way to it. -/
theorem poll_all (link : Link) (crates : Crates) (texts : Texts) {x : Side} (n : Nat) (c : Channel)
    (hidle : (c.side x).waiting = none) (hn : (c.side x).inbox.length = n) :
    ∃ t, exec (Channel.step link crates texts) c (List.replicate n (.poll x)) = some t ∧
      (t.side x).delivered = (c.side x).delivered ++ pending texts (c.side x).inbox := by
  induction n generalizing c with
  | zero =>
    refine ⟨c, rfl, ?_⟩
    rw [List.length_eq_zero_iff.mp hn]
    exact (List.append_nil _).symm
  | succ n ih =>
    obtain ⟨d, rest, hd⟩ := List.exists_cons_of_length_eq_add_one hn
    have hside : (c.polled texts x d rest).side x =
        { c.side x with inbox := rest, delivered := (c.side x).delivered ++ pending texts [d] } := by
      rw [Channel.polled, Channel.side_set, if_pos rfl]
    obtain ⟨t, ht, hdelivered⟩ := ih (c.polled texts x d rest) (by rw [hside]; exact hidle)
      (by rw [hside]; simpa [hd] using hn)
    refine ⟨t, ?_, ?_⟩
    · rw [List.replicate_succ, exec, Channel.step, poll_eq hidle hd]
      exact ht
    · rw [hdelivered, hside, hd, pending_cons texts d rest, List.append_assoc]

/-- The channel keeps its promise in exactly the runs in which every waiting call reads the
daemon's answer to it before anything else, and in time. -/
theorem lossless_iff (link : Link) (crates : Crates) (texts : Texts) (c : Channel)
    (h : Reachable (rel (Channel.step link crates texts)) link.start c) :
    c.Lossless link crates texts ↔
      Reachable (guarded ReadsOwnAnswer (rel (Channel.step link crates texts))) link.start c := by
  constructor
  · intro hc
    have hnone : ∀ x, (c.side x).failed = [] := by
      intro x
      refine List.eq_nil_iff_forall_not_mem.mpr fun seq hseq => ?_
      have := hc.sound x seq hseq
      rw [(wired_of_reachable h).rejected x] at this
      cases this
    refine h.guarded_of_prefix (fun c => ∀ x, (c.side x).failed = []) hnone ?_ ?_
    · intro s action t hs hstep ht x
      have := ((wired_of_reachable hs).step_cases hstep).failed_subset x
      rw [ht x] at this
      exact List.subset_nil.mp this
    · intro s action t hs hstep ht
      obtain ⟨ho, hw⟩ := orderly_of_reachable hs
      exact ho.readsOwnAnswer hw (hw.step_cases hstep) ht
  · intro hg
    obtain ⟨ho, _⟩ := orderly_of_reachable hg
    refine ⟨ho.flow, fun x hidle => ?_, fun x seq hseq => ?_⟩
    · obtain ⟨t, ht, hdelivered⟩ := poll_all link crates texts _ c hidle rfl
      exact ⟨t, ht, by rw [hdelivered, ho.flow x]⟩
    · rw [(ho.sides x).failed] at hseq
      cases hseq

section Samples

/-- Both ends of the sample session attached to the daemon. -/
def sampleLink : Link where
  runtime := (((RelayRun.new (some "udp://") none).receive sampleCrates
    ⟨0, addrA, .attach "node-a" (sampleTicket "node-a" "node-b")⟩).receive sampleCrates
    ⟨1, addrB, .attach "node-b" (sampleTicket "node-a" "node-b")⟩).runtime
  relayUrl := "udp://127.0.0.1:9000"
  sessionId := "session-1"
  session := ⟨"session-1", "node-a", "node-b", "net-1"⟩
  participant
    | .a => "node-a"
    | .b => "node-b"
  addr
    | .a => addrA
    | .b => addrB
  stored := rfl
  peers x := by cases x <;> rfl
  bound x := by cases x <;> rfl
  addr_ne := by decide

def sampleTexts : Texts := ⟨fun _ => "", fun _ => "", fun _ => ""⟩

end Samples

/-- One payload sent, acknowledged and polled. -/
theorem lossless_of_one_payload :
    ∃ c, exec (Channel.step sampleLink sampleCrates sampleTexts) sampleLink.start
        [.send .a [1, 2, 3], .serve 2 .a, .read .a, .poll .b] = some c ∧
      (c.Lossless sampleLink sampleCrates sampleTexts ↔
        Reachable (guarded ReadsOwnAnswer (rel (Channel.step sampleLink sampleCrates sampleTexts)))
          sampleLink.start c) := by
  obtain ⟨c, hc⟩ : ∃ c, exec (Channel.step sampleLink sampleCrates sampleTexts) sampleLink.start
      [.send .a [1, 2, 3], .serve 2 .a, .read .a, .poll .b] = some c := ⟨_, rfl⟩
  exact ⟨c, hc, lossless_iff sampleLink sampleCrates sampleTexts c (.of_exec .start hc)⟩

/-- Both clients send; the other's packet reaches `a` before its own acknowledgement. -/
theorem crossing_sends_lose : ¬∀ link crates texts c,
    Reachable (rel (Channel.step link crates texts)) link.start c →
      c.Lossless link crates texts := by
  intro h
  obtain ⟨c, hc, hfailed, hrejected⟩ :
      ∃ c, exec (Channel.step sampleLink sampleCrates sampleTexts) sampleLink.start
          [.send .a [1], .send .b [2], .serve 2 .b, .read .a] = some c ∧
        (c.side .a).failed = [0] ∧ (c.side .a).rejected = [] := ⟨_, rfl, rfl, rfl⟩
  have := (h sampleLink sampleCrates sampleTexts c (.of_exec .start hc)).sound .a 0
    (hfailed ▸ List.mem_singleton_self 0)
  rw [hrejected] at this
  cases this

end Slan.System
