import Slan.Client.RelayProtocol

/-! # `SocketDerpClient`: a link to one DERP node

The calls are given with what their socket operations return. A state behind a poisoned lock is
not modelled.
-/

namespace Slan.Client

inductive DerpTransport where
  | udp
  | tcp
  | quic
  deriving DecidableEq, Repr

structure DerpNodeMeta where
  clusterId : String
  regionId : String
  countryCode : Option String
  countryName : Option String
  cityCode : Option String
  cityName : Option String
  nodeId : String
  host : String
  port : UInt16
  transport : DerpTransport
  priority : UInt32
  tags : List String
  deriving DecidableEq, Repr

/-- What a snapshot shows before the first `connect_node`. -/
def DerpNodeMeta.empty : DerpNodeMeta where
  clusterId := ""
  regionId := ""
  countryCode := none
  countryName := none
  cityCode := none
  cityName := none
  nodeId := ""
  host := ""
  port := 0
  transport := .udp
  priority := 0
  tags := []

structure ProbeSample where
  rttMs : UInt32
  timedOut : Bool
  packetLossPpm : UInt32
  sampledAtMs : Nat
  deriving DecidableEq, Repr

inductive DerpLinkState where
  | connecting
  | ready
  | suspect
  | failed
  | closed
  deriving DecidableEq, Repr

structure DerpHealth where
  rttMsEwma : UInt32
  lossPpm : UInt32
  timeoutCount : UInt32
  consecutiveFailures : UInt32
  lastProbeAtMs : Nat
  lastRecvAtMs : Nat
  score : UInt32
  deriving DecidableEq, Repr

structure DerpLinkSnapshot where
  nodeMeta : DerpNodeMeta
  state : DerpLinkState
  health : DerpHealth
  isActive : Bool
  deriving DecidableEq, Repr

/-- The state of a `SocketDerpClient`, over the sockets that it may hold. -/
structure DerpClientState (Socket : Type) where
  nodeMeta : Option DerpNodeMeta
  ticket : Option RelayTicket
  activeSocket : Option Socket
  lastProbeAtMs : Nat
  lastRecvAtMs : Nat
  closed : Bool
  deriving DecidableEq, Repr

namespace SocketDerpClient

variable {Socket : Type}

def new : DerpClientState Socket := ⟨none, none, none, 0, 0, false⟩

/-- `connect_node`, with what opening the socket gives for that transport. -/
def connectNode (state : DerpClientState Socket) (nodeMeta : DerpNodeMeta) (nowMs : Nat)
    (connectTcp connectUdp : DerpNodeMeta → Except String Socket) :
    Except String (DerpClientState Socket) := do
  let activeSocket ←
    match nodeMeta.transport with
    | .tcp => connectTcp nodeMeta
    | .udp => connectUdp nodeMeta
    | .quic => .error ("quic derp transport not implemented for " ++ nodeMeta.nodeId)
  return { state with
    nodeMeta := some nodeMeta
    activeSocket := some activeSocket
    closed := false
    lastRecvAtMs := nowMs }

/-- `attach_ticket` sends nothing: the ticket is only compared with the node and kept. -/
def attachTicket (state : DerpClientState Socket) (ticket : RelayTicket) :
    Except String (DerpClientState Socket) := do
  let some nodeMeta := state.nodeMeta | .error "derp client has no connected node"
  if let some clusterId := ticket.derpClusterId then
    if clusterId ≠ nodeMeta.clusterId then
      throw ("relay ticket cluster " ++ clusterId ++ " does not match derp node cluster " ++
        nodeMeta.clusterId)
  if ticket.allowedDerpNodeIds ≠ [] ∧ nodeMeta.nodeId ∉ ticket.allowedDerpNodeIds then
    throw ("relay ticket does not allow derp node " ++ nodeMeta.nodeId)
  return { state with ticket := some ticket, closed := false }

def requireReadyState (state : DerpClientState Socket) :
    Except String (DerpNodeMeta × RelayTicket) := do
  let some nodeMeta := state.nodeMeta | .error "derp client has no connected node"
  let some ticket := state.ticket | .error "derp client has no attached ticket"
  if state.closed then throw "derp client is closed"
  return (nodeMeta, ticket)

/-- `send_transport_packet`, up to the write: the socket and the bytes for it. -/
def sendTransportPacket (state : DerpClientState Socket) (packet : List UInt8) :
    Except String (Socket × List UInt8) := do
  if packet = [] then throw "cannot send empty packet to derp node"
  let _ ← requireReadyState state
  let some socket := state.activeSocket | .error "derp client has no active socket"
  return (socket, packet)

/-- `poll_transport_packet`, with what a read of at most 2048 bytes gives, `none` where nothing is
there to read. -/
def pollTransportPacket (state : DerpClientState Socket) (nowMs : Nat)
    (read : Socket → Option (List UInt8)) :
    Except String (Option (List UInt8) × DerpClientState Socket) := do
  let _ ← requireReadyState state
  let some socket := state.activeSocket | .error "derp client has no active socket"
  match read socket with
  | some packet => return (some packet, { state with lastRecvAtMs := nowMs })
  | none => return (none, state)

/-- No packet is sent for it. -/
def probe (state : DerpClientState Socket) (nowMs : Nat) :
    Except String (ProbeSample × DerpClientState Socket) := do
  let _ ← requireReadyState state
  return (⟨0, false, 0, nowMs⟩, { state with lastProbeAtMs := nowMs })

def linkState (state : DerpClientState Socket) : DerpLinkState :=
  if state.closed then .closed
  else if state.activeSocket.isNone then .connecting
  else if state.ticket.isNone then .connecting
  else .ready

def snapshot (state : DerpClientState Socket) : DerpLinkSnapshot :=
  let nodeMeta := state.nodeMeta.getD .empty
  { nodeMeta
    state := linkState state
    health := {
      rttMsEwma := 0
      lossPpm := 0
      timeoutCount := 0
      consecutiveFailures := 0
      lastProbeAtMs := state.lastProbeAtMs
      lastRecvAtMs := state.lastRecvAtMs
      score := nodeMeta.priority }
    isActive := false }

def close (state : DerpClientState Socket) : DerpClientState Socket :=
  { state with activeSocket := none, ticket := none, closed := true }

theorem linkState_eq_ready_iff (state : DerpClientState Socket) :
    linkState state = .ready ↔
      state.closed = false ∧ state.activeSocket.isSome = true ∧ state.ticket.isSome = true := by
  unfold linkState
  cases state.closed <;> cases state.activeSocket <;> cases state.ticket <;> simp

/-- The checks of `attach_ticket`: the ticket's cluster and its allowed nodes. -/
def ticketFits (nodeMeta : DerpNodeMeta) (ticket : RelayTicket) : Bool :=
  (ticket.derpClusterId.all fun clusterId => clusterId == nodeMeta.clusterId) &&
    (ticket.allowedDerpNodeIds.isEmpty || ticket.allowedDerpNodeIds.contains nodeMeta.nodeId)

theorem attachTicket_eq_ok {state next : DerpClientState Socket} {ticket : RelayTicket} :
    attachTicket state ticket = .ok next ↔
      (∃ nodeMeta, state.nodeMeta = some nodeMeta ∧ ticketFits nodeMeta ticket = true) ∧
        next = { state with ticket := some ticket, closed := false } := by
  unfold attachTicket ticketFits
  cases state.nodeMeta with
  | none => simp
  | some nodeMeta =>
    by_cases hnodes : ticket.allowedDerpNodeIds ≠ [] ∧ nodeMeta.nodeId ∉ ticket.allowedDerpNodeIds
    · cases ticket.derpClusterId with
      | none => simp [hnodes, bind, Except.bind, throw, throwThe, MonadExceptOf.throw]
      | some clusterId =>
        by_cases hcluster : clusterId = nodeMeta.clusterId <;>
          simp [hnodes, hcluster, bind, Except.bind, throw, throwThe, MonadExceptOf.throw]
    · have hfits : ticket.allowedDerpNodeIds = [] ∨
          nodeMeta.nodeId ∈ ticket.allowedDerpNodeIds := by tauto
      cases ticket.derpClusterId with
      | none =>
        simp [hnodes, hfits, pure, Except.pure]
        exact eq_comm
      | some clusterId =>
        by_cases hcluster : clusterId = nodeMeta.clusterId
        · simp [hnodes, hfits, hcluster, pure, Except.pure]
          exact eq_comm
        · simp [hcluster, bind, Except.bind, throw, throwThe, MonadExceptOf.throw]

/-- Of the transports only UDP opens a socket, where nobody listens on TCP. -/
theorem connectNode_eq_ok {state next : DerpClientState Socket} {nodeMeta : DerpNodeMeta}
    {nowMs : Nat} {refused : String} {opened : Except String Socket} :
    connectNode state nodeMeta nowMs (fun _ => .error refused) (fun _ => opened) = .ok next ↔
      nodeMeta.transport = .udp ∧ ∃ socket, opened = .ok socket ∧
        next = { state with
          nodeMeta := some nodeMeta, activeSocket := some socket, closed := false
          lastRecvAtMs := nowMs } := by
  unfold connectNode
  cases nodeMeta.transport <;> cases opened <;>
    simp [bind, Except.bind, pure, Except.pure, eq_comm]

/-- A call that gets to the socket has a ready link. -/
theorem ready_of_requireReadyState {state : DerpClientState Socket} {socket : Socket}
    {ready : DerpNodeMeta × RelayTicket} (h : requireReadyState state = .ok ready)
    (hsocket : state.activeSocket = some socket) : linkState state = .ready := by
  rw [linkState_eq_ready_iff, hsocket]
  unfold requireReadyState at h
  cases hmeta : state.nodeMeta with
  | none => simp [hmeta] at h
  | some nodeMeta =>
    cases hticket : state.ticket with
    | none => simp [hmeta, hticket] at h
    | some ticket =>
      cases hclosed : state.closed with
      | true => simp [hmeta, hticket, hclosed, throw, throwThe, MonadExceptOf.throw] at h
      | false => exact ⟨rfl, rfl, rfl⟩

/-- The datagram is the packet itself. -/
theorem sendTransportPacket_eq_ok {state : DerpClientState Socket} {packet datagram : List UInt8}
    {socket : Socket} (h : sendTransportPacket state packet = .ok (socket, datagram)) :
    linkState state = .ready ∧ state.activeSocket = some socket ∧ datagram = packet := by
  unfold sendTransportPacket at h
  by_cases hnil : packet = []
  · simp [hnil, bind, Except.bind, throw, throwThe, MonadExceptOf.throw] at h
  · cases hready : requireReadyState state with
    | error err => simp [hnil, hready, bind, Except.bind] at h
    | ok ready =>
      cases hsocket : state.activeSocket with
      | none => simp [hnil, hready, hsocket, bind, Except.bind] at h
      | some held =>
        simp only [hnil, hready, hsocket, if_false, bind, Except.bind, pure, Except.pure,
          Except.ok.injEq, Prod.mk.injEq] at h
        obtain ⟨rfl, rfl⟩ := h
        exact ⟨ready_of_requireReadyState hready hsocket, rfl, rfl⟩

theorem ready_of_pollTransportPacket {state next : DerpClientState Socket} {nowMs : Nat}
    {read : Socket → Option (List UInt8)} {packet : Option (List UInt8)}
    (h : pollTransportPacket state nowMs read = .ok (packet, next)) :
    linkState state = .ready := by
  unfold pollTransportPacket at h
  cases hready : requireReadyState state with
  | error err => simp [hready, bind, Except.bind] at h
  | ok ready =>
    cases hsocket : state.activeSocket with
    | none => simp [hready, hsocket, bind, Except.bind] at h
    | some socket => exact ready_of_requireReadyState hready hsocket

end SocketDerpClient

end Slan.Client
