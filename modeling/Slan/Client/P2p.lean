import Slan.Client.Models

/-! # `SocketP2PConnector`, and the path manager over it

The calls are given with what their socket operations return.
-/

namespace Slan.Client

inductive ConnectionPath where
  | p2p
  | relay
  | derp
  deriving DecidableEq, Repr

inductive ConnectionState where
  | disconnected
  | connecting
  | connected (path : ConnectionPath)
  | failed (reason : String)
  deriving DecidableEq, Repr

structure PeerCandidate where
  peerNodeId : String
  endpoint : String
  candidateType : String
  deriving DecidableEq, Repr

structure P2PState (Stream : Type) where
  activeStream : Option Stream
  peerNodeId : Option String
  deriving DecidableEq, Repr

/-- What a read of a nonblocking stream gives. At the end of the stream it gives no bytes. -/
inductive StreamRead where
  | bytes (read : List UInt8)
  | wouldBlock
  | failed (err : String)
  deriving DecidableEq, Repr

/-- `vec![0_u8; 2048]` -/
def readBufferSize : Nat := 2048

namespace SocketP2PConnector

variable {Stream : Type}

def connect (state : P2PState Stream) (peer : PeerCandidate)
    (connectTcp : String → Except String Stream) : ConnectionState × P2PState Stream :=
  match peer.candidateType with
  | "tcp" =>
    match connectTcp peer.endpoint with
    | .ok stream => (.connected .p2p, ⟨some stream, some peer.peerNodeId⟩)
    | .error reason => (.failed reason, state)
  | "udp" =>
    (.failed ("udp p2p connect not implemented for " ++ peer.peerNodeId ++ " via " ++
      peer.endpoint), state)
  | other =>
    (.failed ("unsupported p2p candidate type for " ++ peer.peerNodeId ++ ": " ++ other), state)

/-- `send_transport_packet`, up to the write: the stream and the bytes for it. -/
def sendTransportPacket (state : P2PState Stream) (packet : List UInt8) :
    Except String (Stream × List UInt8) :=
  if packet = [] then .error "cannot send empty packet via p2p"
  else
    match state.activeStream with
    | none => .error "p2p connector has no active connection"
    | some stream => .ok (stream, packet)

def pollTransportPacket (state : P2PState Stream) (read : Stream → StreamRead) :
    Except String (Option (List UInt8)) :=
  match state.activeStream with
  | none => .error "p2p connector has no active connection"
  | some stream =>
    match read stream with
    | .bytes [] => .ok none
    | .bytes packet => .ok (some packet)
    | .wouldBlock => .ok none
    | .failed err => .error ("read p2p socket failed: " ++ err)

end SocketP2PConnector

/-! ## `InMemoryPathManager` -/

structure PathManagerError where
  code : Option String
  message : String
  deriving DecidableEq, Repr

namespace PathManagerError

def ofMessage (message : String) : PathManagerError := ⟨none, message⟩

def ofRelay (err : RelayClientError) : PathManagerError :=
  ⟨err.code,
    match err.code with
    | some code =>
      if Text.isBlank code then err.message else "[" ++ code ++ "] " ++ err.message
    | none => err.message⟩

end PathManagerError

namespace PathManager

variable {α : Type}

/-- `send_transport_packet`, over the three ways that a packet can take. -/
def sendTransportPacket (activePath : ActivePath) (derp p2p : List UInt8 → Except String α)
    (relay : List UInt8 → Except RelayClientError α) (packet : List UInt8) :
    Except PathManagerError α :=
  if packet = [] then .error (.ofMessage "cannot send empty packet through path manager")
  else
    match activePath with
    | .derp _ _ => (derp packet).mapError .ofMessage
    | .p2p _ => (p2p packet).mapError .ofMessage
    | .relay _ => (relay packet).mapError .ofRelay
    | .none => .error (.ofMessage "no active path selected")

def pollTransportPacket (activePath : ActivePath) (derp p2p : Except String α)
    (relay : Except RelayClientError α) : Except PathManagerError α :=
  match activePath with
  | .derp _ _ => derp.mapError .ofMessage
  | .p2p _ => p2p.mapError .ofMessage
  | .relay _ => relay.mapError .ofRelay
  | .none => .error (.ofMessage "no active path selected")

end PathManager

end Slan.Client
