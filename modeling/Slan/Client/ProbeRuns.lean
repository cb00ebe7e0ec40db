import Slan.Lib.Inbox
import Slan.Lib.Program
import Slan.Client.AppProcess

/-! # `probe_with_timeout`, step by step

The calls of a probe to the path manager and to the clock one by one, with what may happen between
them: arrivals, changes of the path and of the transports, time that passes, other probes. What the
locks of the transports exclude is not excluded here.
-/

namespace Slan.Client

open Inbox (Arrival)

/-! ## The path manager over sockets -/

/-- What the path manager sends and polls with. Sockets have numbers. -/
structure PathTransports where
  path : PathState
  derpPool : InMemoryDerpPool
  /-- The client of each link of the pool. -/
  derpClients : Nat → DerpClientState Nat
  p2p : P2PState Nat
  relay : RelayClientState
  relaySocket : Nat

structure Connection where
  way : ConnectionPath
  socket : Nat
  deriving DecidableEq, Repr

/-- A packet that was handed over, and the session that the relay must acknowledge it for. -/
structure Forwarding where
  connection : Connection
  sessionId : Option String
  deriving DecidableEq, Repr

/-- What a read at most 2048 bytes gave a DERP client. A TCP stream at its end gives none. -/
def derpRead (client : DerpClientState Nat) (taken : List (Arrival String)) : Option (List UInt8) :=
  match client.nodeMeta.map DerpNodeMeta.transport with
  | some .tcp => if Inbox.bytesOf taken = [] then none else some (Inbox.bytesOf taken)
  | _ => if taken = [] then none else some (Inbox.bytesOf taken)

/-- The socket of a client that may send and poll. -/
def derpSocket (client : DerpClientState Nat) : Option Nat :=
  match SocketDerpClient.requireReadyState client with
  | .ok _ => client.activeSocket
  | .error _ => none

namespace PathTransports

def activeClient (t : PathTransports) : Except String (DerpClientState Nat) :=
  match t.derpPool.activeNodeId with
  | none => .error "derp pool has no active link"
  | some nodeId =>
    match t.derpPool.position nodeId with
    | none => .error "derp pool active node missing"
    | some idx => .ok (t.derpClients idx)

/-- The socket that the path leads to. -/
def inUse (t : PathTransports) : Option Connection :=
  match t.path.activePath with
  | .derp _ _ => (t.activeClient.toOption.bind derpSocket).map (Connection.mk .derp)
  | .p2p _ => t.p2p.activeStream.map (Connection.mk .p2p)
  | .relay _ => if t.relay.activeSocket then some ⟨.relay, t.relaySocket⟩ else none
  | .none => none

/-- `send_transport_packet`, up to the answer of a relay. -/
def handOver (t : PathTransports) (packet : List UInt8) : Except PathManagerError Forwarding :=
  PathManager.sendTransportPacket t.path.activePath
    (fun packet => do
      let client ← t.activeClient
      let (socket, _) ← SocketDerpClient.sendTransportPacket client packet
      return ⟨⟨.derp, socket⟩, none⟩)
    (fun packet => do
      let (stream, _) ← SocketP2PConnector.sendTransportPacket t.p2p packet
      return ⟨⟨.p2p, stream⟩, none⟩)
    (fun packet => do
      let (sessionId, _) ← SocketRelayClient.forwardRequest t.relay packet
      return ⟨⟨.relay, t.relaySocket⟩, some sessionId⟩)
    packet

/-- What a poll takes of what waits at the socket, and what it leaves. -/
def read (t : PathTransports) (inbox : List (Arrival String)) :
    List (Arrival String) × List (Arrival String) :=
  match t.path.activePath with
  | .derp _ _ =>
    match t.activeClient with
    | .error _ => ([], inbox)
    | .ok client =>
      match client.nodeMeta.map DerpNodeMeta.transport with
      | some .tcp => Inbox.readStream readBufferSize inbox
      | _ => Inbox.readDatagram readBufferSize inbox
  | .p2p _ => Inbox.readStream readBufferSize inbox
  | .relay _ => Inbox.readWhole inbox
  | .none => ([], inbox)

/-- `poll_transport_packet`, with what it takes. The relay client parses its datagram. -/
def poll (texts : Texts) (json : List UInt8 → Json) (t : PathTransports) (nowMs : Nat)
    (taken : List (Arrival String)) : Except PathManagerError (Option (List UInt8)) :=
  PathManager.pollTransportPacket t.path.activePath
    (do
      let client ← t.activeClient
      let (packet, _) ← SocketDerpClient.pollTransportPacket client nowMs fun _ =>
        derpRead client taken
      return packet)
    (SocketP2PConnector.pollTransportPacket t.p2p fun _ =>
      if Inbox.bytesOf taken = [] then .wouldBlock else .bytes (Inbox.bytesOf taken))
    (if t.relay.activeSocket = false then
      .error (.ofMessage "relay client has no active connection")
    else SocketRelayClient.polled texts (taken.head?.map fun a => json a.bytes))

end PathTransports

/-! ## What the calls give -/

section Calls

variable {state next : DerpClientState Nat} {socket : Nat} {packet bytes : List UInt8}

theorem derpSocket_of_send
    (h : SocketDerpClient.sendTransportPacket state packet = .ok (socket, bytes)) :
    derpSocket state = some socket := by
  obtain ⟨-, hsocket, -⟩ := SocketDerpClient.sendTransportPacket_eq_ok h
  unfold SocketDerpClient.sendTransportPacket at h
  unfold derpSocket
  cases hready : SocketDerpClient.requireReadyState state with
  | ok ready => exact hsocket
  | error err =>
    rw [hready] at h
    by_cases hempty : packet = [] <;> simp [hempty, bind, Except.bind, throw, throwThe,
      MonadExceptOf.throw] at h

theorem exists_read_of_poll {nowMs : Nat} {read : Nat → Option (List UInt8)}
    (h : SocketDerpClient.pollTransportPacket state nowMs read = .ok (some packet, next)) :
    ∃ socket, read socket = some packet := by
  unfold SocketDerpClient.pollTransportPacket at h
  obtain ⟨_, _, h⟩ := Program.bind_eq_ok.mp h
  split at h
  · rename_i active _
    refine ⟨active, ?_⟩
    split at h
    · rename_i found hfound
      cases h
      exact hfound
    · cases h
  · cases h

theorem activeStream_of_send {p2p : P2PState Nat}
    (h : SocketP2PConnector.sendTransportPacket p2p packet = .ok (socket, bytes)) :
    p2p.activeStream = some socket := by
  unfold SocketP2PConnector.sendTransportPacket at h
  split at h
  · cases h
  split at h
  · cases h
  · rename_i stream hstream
    cases h
    exact hstream

theorem activeSocket_of_forwardRequest {relay : RelayClientState}
    {request : String × RelayDaemonRequest}
    (h : SocketRelayClient.forwardRequest relay packet = .ok request) :
    relay.activeSocket = true := by
  unfold SocketRelayClient.forwardRequest at h
  split at h
  · cases h
  split at h
  · cases h
  · rename_i hactive
    exact eq_true_of_ne_false hactive

/-- What a relay's poll finds came in a packet. -/
theorem exists_packet_of_polled {texts : Texts} {datagram : Option Json}
    (h : SocketRelayClient.polled texts datagram = .ok (some packet)) :
    ∃ json sessionId source payload, datagram = some json ∧
      RelayDaemonResponse.decode json = .ok (.packet sessionId source payload) := by
  unfold SocketRelayClient.polled at h
  obtain ⟨response, hresponse, h⟩ := Program.bind_eq_ok.mp h
  unfold SocketRelayClient.readUdpResponse at hresponse
  split at hresponse
  · cases hresponse
    cases h
  · split at hresponse
    · rename_i json response' hdecoded
      cases hresponse
      cases response' <;> first | exact ⟨_, _, _, _, rfl, hdecoded⟩ | cases h
    · cases hresponse

end Calls

/-! ## The facade over these sockets -/

namespace AppCore

variable {M : Type} {core : AppCore Nat M} {t : PathTransports}

/-- The facade has these transports. -/
structure Over (core : AppCore Nat M) (t : PathTransports) : Prop where
  path : core.path = t.path
  derpPool : core.derpPool = t.derpPool
  p2p : core.p2p = t.p2p
  relay : core.relay = t.relay

theorem callActive_result {α : Type} (h : core.Over t) (call : Nat → ClientCall α)
    (f : DerpClientState Nat → Except String α)
    (hcall : ∀ idx, (call idx).result = f (t.derpClients idx)) :
    (core.derpPool.callActive call).1 = t.activeClient >>= f := by
  rw [h.derpPool]
  unfold InMemoryDerpPool.callActive PathTransports.activeClient
  cases t.derpPool.activeNodeId with
  | none => rfl
  | some nodeId =>
    dsimp only
    cases t.derpPool.position nodeId with
    | none => rfl
    | some idx => exact hcall idx

/-- A poll of the facade finds what the poll of its sockets finds. -/
theorem pollPacket_result (h : core.Over t) {texts : Texts} {json : List UInt8 → Json}
    {round : PollRound Nat} {taken : List (Arrival String)}
    (hderp : ∀ idx, (round.derpClients idx).pollTransportPacket.result =
      (SocketDerpClient.pollTransportPacket (t.derpClients idx) round.nowMs fun _ =>
        derpRead (t.derpClients idx) taken).map Prod.fst)
    (hp2p : round.p2pRead = fun _ =>
      if Inbox.bytesOf taken = [] then .wouldBlock else .bytes (Inbox.bytesOf taken))
    (hrelay : round.relayDatagram = taken.head?.map fun a => json a.bytes) :
    (core.pollPacket texts round).1 = t.poll texts json round.nowMs taken := by
  let found (client : DerpClientState Nat) : Except String (Option (List UInt8)) :=
    (SocketDerpClient.pollTransportPacket client round.nowMs fun _ => derpRead client taken).map
      Prod.fst
  have hpolled : (core.derpPool.pollTransportPacketViaActive round.derpClients).1 =
      t.activeClient >>= found := callActive_result h _ found hderp
  unfold pollPacket PathTransports.poll
  dsimp only
  rw [hpolled, h.path, h.p2p, h.relay, hp2p, hrelay]
  rfl

/-- A send of the facade is a hand-over and, by a relay, what is made of the answer. -/
theorem sendPacket_result (h : core.Over t) {calls : ProbeCalls Nat} {packet : List UInt8}
    {answer : Option Json}
    (hderp : ∀ idx, ((calls.derpClients idx).sendTransportPacket packet).result =
      (SocketDerpClient.sendTransportPacket (t.derpClients idx) packet).map fun _ => ())
    (hp2p : ∀ stream bytes, calls.p2pWrite stream bytes = .ok ())
    (hrelay : ∀ request, calls.relayExchange request = .ok answer) :
    (core.sendPacket calls packet).1 = t.handOver packet >>= fun forwarding =>
      match forwarding.sessionId with
      | none => .ok ()
      | some sessionId => (SocketRelayClient.forwardAcknowledged calls.texts sessionId packet
          answer).mapError .ofRelay := by
  let sent (client : DerpClientState Nat) : Except String Unit :=
    (SocketDerpClient.sendTransportPacket client packet).map fun _ => ()
  have hsent : (core.derpPool.callActive fun idx =>
      (calls.derpClients idx).sendTransportPacket packet).1 = t.activeClient >>= sent :=
    callActive_result h _ sent hderp
  unfold sendPacket PathTransports.handOver PathManager.sendTransportPacket
  dsimp only
  rw [h.path, h.p2p, h.relay]
  by_cases hempty : packet = []
  · rw [if_pos hempty, if_pos hempty]
    rfl
  rw [if_neg hempty, if_neg hempty]
  cases t.path.activePath with
  | none => rfl
  | derp clusterId nodeId =>
    have hvia : (core.derpPool.sendTransportPacketViaActive calls.derpClients packet).1 =
        t.activeClient >>= sent := by
      unfold InMemoryDerpPool.sendTransportPacketViaActive
      rw [if_neg hempty]
      exact hsent
    dsimp only
    rw [hvia]
    unfold sent
    cases t.activeClient with
    | error err => rfl
    | ok client =>
      cases hrun : SocketDerpClient.sendTransportPacket client packet <;>
        simp [hrun, bind, Except.bind, pure, Except.pure, Except.map, Except.mapError]
  | p2p peerNodeId =>
    cases hrun : SocketP2PConnector.sendTransportPacket t.p2p packet <;>
      simp [hp2p, bind, Except.bind, pure, Except.pure, Except.mapError]
  | relay peerNodeId =>
    cases hrun : SocketRelayClient.forwardRequest t.relay packet <;>
      simp [hrelay, bind, Except.bind, pure, Except.pure, Except.mapError]

end AppCore

/-! ## Probes under way -/

/-- When a probe was handed to its transport, and what it is to hear from. -/
structure HandOver where
  connection : Connection
  nowMs : Nat
  /-- How many packets had arrived until then. -/
  arrived : Nat
  peerNodeId : Option String
  deriving DecidableEq, Repr

inductive ProbeStage where
  | awaitingAck (sessionId : String)
  | handedOver
  | sampled (sampledAtMs : Nat) (probeId : String)
  | polling (sampledAtMs : Nat) (probeId : String) (deadlineMs : Nat)
  deriving DecidableEq, Repr

structure SentProbe where
  handOver : HandOver
  stage : ProbeStage
  deriving DecidableEq, Repr

structure RunningProbe where
  packet : List UInt8
  replyTimeoutMs : Option Nat
  activePath : ActivePath
  sent : Option SentProbe
  deriving DecidableEq, Repr

/-- A probe that is over: what it reports, and what it has read for that, and where. -/
structure ProbeReport where
  record : ProbeRecord
  handOver : HandOver
  polled : Option Connection
  taken : List (Arrival String)

structure ProbeWorld where
  nowMs : Nat
  transports : PathTransports
  /-- What waits at each socket. -/
  inboxes : Nat → List (Arrival String)
  arrived : Nat
  defaultProbeReplyTimeoutMs : Nat
  tunnelPeerVirtualIp : Option String
  probeSequence : UInt64
  probes : Nat → Option RunningProbe
  results : List (Except DataPlaneError ProbeReport)

inductive ProbeEvent where
  | tick (ms : Nat)
  | arrive (socket : Nat) (source : String) (bytes : List UInt8)
  | switch (transports : PathTransports)
  | start (id : Nat) (packet : List UInt8) (replyTimeoutMs : Option Nat)
  | handOver (id : Nat)
  /-- The relay's answer is read, or the wait for it is over. -/
  | acknowledge (id : Nat) (timedOut : Bool)
  | sample (id : Nat)
  | listen (id : Nat)
  | poll (id : Nat)
  /-- A call of the probe to a socket fails. -/
  | fault (id : Nat) (err : PathManagerError)

namespace ProbeWorld

variable (texts : Texts) (json : List UInt8 → Json)

def setProbe (w : ProbeWorld) (id : Nat) (probe : Option RunningProbe) : ProbeWorld :=
  { w with probes := Function.update w.probes id probe }

def setStage (w : ProbeWorld) (id : Nat) (probe : RunningProbe) (handOver : HandOver)
    (stage : ProbeStage) : ProbeWorld :=
  w.setProbe id (some { probe with sent := some ⟨handOver, stage⟩ })

def setInbox (w : ProbeWorld) (socket : Nat) (inbox : List (Arrival String)) : ProbeWorld :=
  { w with inboxes := Function.update w.inboxes socket inbox }

def finish (w : ProbeWorld) (id : Nat) (result : Except DataPlaneError ProbeReport) : ProbeWorld :=
  { w.setProbe id none with results := w.results ++ [result] }

def failProbe (w : ProbeWorld) (id : Nat) (err : PathManagerError) : ProbeWorld :=
  w.finish id (.error (classifyPathManagerError err))

/-- The result of a probe, with the length of the reply and the time that it was found at. -/
def record (w : ProbeWorld) (probe : RunningProbe) (sampledAtMs : Nat) (probeId : String)
    (reply : Option (Nat × Nat)) : ProbeRecord :=
  { probeHealth w.transports.derpPool.toDerpPoolState sampledAtMs probe.activePath with
    probeId
    bytesSent := probe.packet.length
    replyObserved := reply.isSome
    replyBytesReceived := reply.map Prod.fst
    replySampledAtMs := reply.map Prod.snd
    replyRttMs := reply.map fun reply => reply.2 - sampledAtMs
    tunnelPeerVirtualIp := w.tunnelPeerVirtualIp }

def arrive (w : ProbeWorld) (socket : Nat) (source : String) (bytes : List UInt8) : ProbeWorld :=
  { w.setInbox socket (w.inboxes socket ++ [⟨source, w.arrived, bytes⟩]) with
    arrived := w.arrived + 1 }

def handOverProbe (w : ProbeWorld) (id : Nat) (probe : RunningProbe) : ProbeWorld :=
  match w.transports.handOver probe.packet with
  | .error err => w.failProbe id err
  | .ok ⟨connection, sessionId⟩ =>
    w.setStage id probe ⟨connection, w.nowMs, w.arrived, w.transports.path.lastPeerNodeId⟩
      (match sessionId with
      | some sessionId => .awaitingAck sessionId
      | none => .handedOver)

/-- A relay's answer is the next datagram that is there. -/
def acknowledgeProbe (w : ProbeWorld) (id : Nat) (probe : RunningProbe) (handOver : HandOver)
    (sessionId : String) (timedOut : Bool) : Option ProbeWorld :=
  let socket := handOver.connection.socket
  let (taken, left) := Inbox.readWhole (w.inboxes socket)
  if taken = [] ∧ timedOut = false then none
  else
    let w := w.setInbox socket left
    match SocketRelayClient.forwardAcknowledged texts sessionId probe.packet
        (taken.head?.map fun a => json a.bytes) with
    | .error err => some (w.failProbe id (.ofRelay err))
    | .ok () => some (w.setStage id probe handOver .handedOver)

/-- The clock is read when the send has returned. -/
def sampleProbe (w : ProbeWorld) (id : Nat) (probe : RunningProbe) (handOver : HandOver) :
    ProbeWorld :=
  let probeSequence := w.probeSequence + 1
  let probeId := "probe-" ++ toString w.nowMs ++ "-" ++ toString probeSequence
  { w.setStage id probe handOver (.sampled w.nowMs probeId) with probeSequence }

/-- What waits at the socket in use. -/
def waiting (w : ProbeWorld) : List (Arrival String) :=
  match w.transports.inUse with
  | some connection => w.inboxes connection.socket
  | none => []

/-- What a poll has left. -/
def polled (w : ProbeWorld) : ProbeWorld :=
  match w.transports.inUse with
  | some connection => w.setInbox connection.socket (w.transports.read w.waiting).2
  | none => w

/-- One round of `poll_reply_until_timeout`, and the result when it is the last. -/
def pollProbe (w : ProbeWorld) (id : Nat) (probe : RunningProbe) (handOver : HandOver)
    (sampledAtMs : Nat) (probeId : String) (deadlineMs : Nat) : ProbeWorld :=
  let taken := (w.transports.read w.waiting).1
  let report (reply : Option (Nat × Nat)) : ProbeReport :=
    ⟨w.record probe sampledAtMs probeId reply, handOver, w.transports.inUse, taken⟩
  match w.transports.poll texts json w.nowMs taken with
  | .error err => w.polled.failProbe id err
  | .ok (some packet) => w.polled.finish id (.ok (report (some (packet.length, w.nowMs))))
  | .ok none =>
    if deadlineMs ≤ w.nowMs then w.polled.finish id (.ok (report none)) else w.polled

def step (w : ProbeWorld) : ProbeEvent → Option ProbeWorld
  | .tick ms => some { w with nowMs := w.nowMs + ms }
  | .arrive socket source bytes => some (w.arrive socket source bytes)
  | .switch transports => some { w with transports }
  | .start id packet replyTimeoutMs =>
    match w.probes id with
    | some _ => none
    | none =>
      some (w.setProbe id (some ⟨packet, replyTimeoutMs, w.transports.path.activePath, none⟩))
  | .handOver id =>
    match w.probes id with
    | some probe =>
      match probe.sent with
      | none => some (w.handOverProbe id probe)
      | some _ => none
    | none => none
  | .acknowledge id timedOut =>
    match w.probes id with
    | some probe =>
      match probe.sent with
      | some ⟨handOver, .awaitingAck sessionId⟩ =>
        w.acknowledgeProbe texts json id probe handOver sessionId timedOut
      | _ => none
    | none => none
  | .sample id =>
    match w.probes id with
    | some probe =>
      match probe.sent with
      | some ⟨handOver, .handedOver⟩ => some (w.sampleProbe id probe handOver)
      | _ => none
    | none => none
  | .listen id =>
    match w.probes id with
    | some probe =>
      match probe.sent with
      | some ⟨handOver, .sampled sampledAtMs probeId⟩ =>
        some (w.setStage id probe handOver (.polling sampledAtMs probeId
          (w.nowMs + probe.replyTimeoutMs.getD w.defaultProbeReplyTimeoutMs)))
      | _ => none
    | none => none
  | .poll id =>
    match w.probes id with
    | some probe =>
      match probe.sent with
      | some ⟨handOver, .polling sampledAtMs probeId deadlineMs⟩ =>
        some (w.pollProbe texts json id probe handOver sampledAtMs probeId deadlineMs)
      | _ => none
    | none => none
  | .fault id err =>
    match w.probes id with
    | some _ => some (w.failProbe id err)
    | none => none

end ProbeWorld

end Slan.Client
