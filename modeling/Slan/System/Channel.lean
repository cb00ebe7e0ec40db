import Mathlib.Logic.Function.Basic
import Slan.Lib.Transition
import Slan.Client.RelayClient
import Slan.Relay.RuntimeSpec
import Slan.System.Wire

/-! # Two clients of one relay session

The network keeps the order of the datagrams in each direction and loses none. How long one of
them travels is open: a read may time out while its answer is still on the way.
-/

namespace Slan.System

open Slan.Relay Slan.Client Transition

inductive Side where
  | a
  | b
  deriving DecidableEq, Repr

def Side.peer : Side → Side
  | .a => .b
  | .b => .a

/-- A daemon with one session to which both clients are attached, from different addresses. -/
structure Link where
  runtime : RelayRuntime
  relayUrl : String
  sessionId : String
  session : RelaySession
  participant : Side → String
  addr : Side → SocketAddr
  stored : runtime.relay.store.get? sessionId = some session
  peers : ∀ x, session.peerOf (participant x) = .ok (participant x.peer)
  bound : ∀ x, runtime.endpoint sessionId (participant x) = some (addr x)
  addr_ne : addr .a ≠ addr .b

/-- What the client's `connect` has left. -/
def Link.clientState (link : Link) (x : Side) : RelayClientState :=
  ⟨some link.relayUrl, some link.sessionId, some (link.participant x),
    some (link.participant x.peer), true⟩

/-- A `send_transport_packet` that waits for its answer. -/
structure Sending where
  seq : Nat
  sessionId : String
  packet : List UInt8
  deriving DecidableEq, Repr

/-- A request on its way to the daemon, with the call it belongs to. -/
structure Outgoing where
  seq : Nat
  packet : List UInt8
  datagram : Json

/-- A datagram on its way to a client, with the call it answers, if any. -/
structure Incoming where
  answers : Option Nat
  datagram : Json

structure ClientSide where
  nextSeq : Nat
  waiting : Option Sending
  outbox : List Outgoing
  inbox : List Incoming
  /-- The payloads whose forward the daemon accepted. -/
  accepted : List (List UInt8)
  /-- The calls whose forward the daemon rejected. -/
  rejected : List Nat
  /-- The calls that returned an error. -/
  failed : List Nat
  /-- The payloads that polls returned. -/
  delivered : List (List UInt8)

structure Channel where
  runtime : RelayRuntime
  side : Side → ClientSide

def Link.start (link : Link) : Channel :=
  ⟨link.runtime, fun _ => ⟨0, none, [], [], [], [], [], []⟩⟩

namespace Channel

def set (c : Channel) (x : Side) (cs : ClientSide) : Channel :=
  { c with side := Function.update c.side x cs }

/-- The datagram joins those for the client with that address. -/
def post (c : Channel) (link : Link) (addr : SocketAddr) (d : Incoming) : Channel :=
  { c with side := fun y =>
      if link.addr y = addr then { c.side y with inbox := (c.side y).inbox ++ [d] } else c.side y }

/-- A call to `send_transport_packet`, up to the read. A slice has at most `usize::MAX` bytes. -/
def send (c : Channel) (link : Link) (x : Side) (packet : List UInt8) : Option Channel :=
  let cs := c.side x
  if cs.waiting.isSome ∨ Json.unsignedBound 64 ≤ packet.length then none
  else
    match SocketRelayClient.forwardRequest (link.clientState x) packet with
    | .error _ => some c
    | .ok (sessionId, request) =>
      some (c.set x { cs with
        nextSeq := cs.nextSeq + 1
        waiting := some ⟨cs.nextSeq, sessionId, packet⟩
        outbox := cs.outbox ++ [⟨cs.nextSeq, packet, request.encode⟩] })

/-- The daemon takes the next request of one client; a datagram that it cannot read ends it. -/
def serve (c : Channel) (link : Link) (crates : Crates) (now : Int) (x : Side) : Option Channel :=
  let cs := c.side x
  match cs.outbox with
  | [] => none
  | m :: rest =>
    match ClientRequest.decode m.datagram with
    | .error _ => none
    | .ok request =>
      match c.runtime.handleRequest crates now (link.addr x) request with
      | (.ok (response, packet), runtime) =>
        let c := { c with runtime }.set x { cs with
          outbox := rest, accepted := cs.accepted ++ [m.packet] }
        let c := match packet with
          | some (peerAddr, packet) => c.post link peerAddr ⟨none, packet.encode⟩
          | none => c
        some (c.post link (link.addr x) ⟨some m.seq, response.encode⟩)
      | (.error err, runtime) =>
        let c := { c with runtime }.set x { cs with
          outbox := rest, rejected := cs.rejected ++ [m.seq] }
        some (c.post link (link.addr x)
          ⟨some m.seq, (ServerResponse.error ⟨err.code, err.message⟩).encode⟩)

/-- The end of a call to `send_transport_packet`. -/
def finish (cs : ClientSide) (call : Sending) (result : Except RelayClientError Unit) :
    ClientSide :=
  { cs with
    waiting := none
    failed := match result with
      | .ok () => cs.failed
      | .error _ => cs.failed ++ [call.seq] }

/-- A waiting call reads the next datagram. -/
def read (c : Channel) (texts : Texts) (x : Side) : Option Channel :=
  let cs := c.side x
  match cs.waiting, cs.inbox with
  | some call, d :: rest =>
    some (c.set x (finish { cs with inbox := rest } call
      (SocketRelayClient.forwardAcknowledged texts call.sessionId call.packet (some d.datagram))))
  | _, _ => none

/-- A waiting call finds nothing in time. -/
def timeout (c : Channel) (texts : Texts) (x : Side) : Option Channel :=
  let cs := c.side x
  match cs.waiting with
  | some call =>
    some (c.set x (finish cs call
      (SocketRelayClient.forwardAcknowledged texts call.sessionId call.packet none)))
  | none => none

/-- A call to `poll_transport_packet` that finds a datagram; one that finds none does nothing. -/
def poll (c : Channel) (texts : Texts) (x : Side) : Option Channel :=
  let cs := c.side x
  match cs.waiting, cs.inbox with
  | none, d :: rest =>
    match SocketRelayClient.polled texts (some d.datagram) with
    | .ok (some payload) =>
      some (c.set x { cs with inbox := rest, delivered := cs.delivered ++ [payload] })
    | _ => some (c.set x { cs with inbox := rest })
  | _, _ => none

end Channel

inductive ChannelAction where
  | send (x : Side) (packet : List UInt8)
  | serve (now : Int) (x : Side)
  | read (x : Side)
  | timeout (x : Side)
  | poll (x : Side)
  deriving DecidableEq, Repr

def Channel.step (link : Link) (crates : Crates) (texts : Texts) (c : Channel) :
    ChannelAction → Option Channel
  | .send x packet => c.send link x packet
  | .serve now x => c.serve link crates now x
  | .read x => c.read texts x
  | .timeout x => c.timeout texts x
  | .poll x => c.poll texts x

/-! ## What the channel owes its users -/

/-- The payload that a poll of this datagram returns. -/
def payloadOf (texts : Texts) (d : Incoming) : Option (List UInt8) :=
  match SocketRelayClient.polled texts (some d.datagram) with
  | .ok payload => payload
  | .error _ => none

def pending (texts : Texts) (inbox : List Incoming) : List (List UInt8) :=
  inbox.filterMap (payloadOf texts)

/-- Polls return what the daemon accepted, once and in order; errors are the daemon's. -/
structure Channel.Lossless (link : Link) (crates : Crates) (texts : Texts) (c : Channel) :
    Prop where
  inOrder : ∀ x, (c.side x).accepted =
    (c.side x.peer).delivered ++ pending texts (c.side x.peer).inbox
  drains : ∀ x, (c.side x.peer).waiting = none →
    ∃ t, exec (Channel.step link crates texts) c
        (List.replicate (c.side x.peer).inbox.length (.poll x.peer)) = some t ∧
      (t.side x.peer).delivered = (c.side x).accepted
  sound : ∀ x, ∀ seq ∈ (c.side x).failed, seq ∈ (c.side x).rejected

/-- A waiting call reads the daemon's answer to that very call, and does not time out. -/
def ReadsOwnAnswer (c : Channel) : ChannelAction → Prop
  | .read x => ∀ call d rest, (c.side x).waiting = some call → (c.side x).inbox = d :: rest →
      d.answers = some call.seq
  | .timeout _ => False
  | _ => True

end Slan.System
