import Slan.Lib.ByteStream
import Slan.Client.ControlWs

/-! # The frames under `read_event` and `drain_pending_events`

The stream is given by the bytes that arrive, and by where a read of it times out.
-/

namespace Slan.Client

open ByteStream

/-- What lies outside the client: `serde_json::from_slice`, its texts, and the text with which the
system reports a read timeout. -/
structure WsTexts extends ControlTexts where
  parse : List UInt8 → Except String Json
  timedOut : String

/-- A read of the stream: its result, and what is left of the stream. -/
abbrev WsRead := ExceptT String (StateM (List Arrival))

namespace WsFrames

variable (texts : WsTexts)

def readExact (what : String) (n : Nat) : WsRead (List UInt8) := fun s =>
  match ByteStream.readExact n s with
  | (some block, rest) => (.ok block, rest)
  | (none, rest) => (.error (what ++ ": " ++ texts.timedOut), rest)

/-- `*byte ^= mask[idx % 4]` -/
def unmask (mask payload : List UInt8) : List UInt8 :=
  payload.mapIdx fun idx byte => byte ^^^ mask.getD (idx % 4) 0

/-- The length that the header gives, or that follows it. -/
def readLength (short : Nat) : WsRead Nat :=
  if short = 126 then ofBigEndian <$> readExact texts "read websocket extended length" 2
  else if short = 127 then ofBigEndian <$> readExact texts "read websocket extended length" 8
  else pure short

def readMask (masked : Bool) : WsRead (List UInt8) :=
  if masked then readExact texts "read websocket mask" 4 else pure [0, 0, 0, 0]

def decodeTextFrame : WsRead (List UInt8) := do
  let header ← readExact texts "read websocket frame header" 2
  let opcode := header.getD 0 0 &&& 0x0f
  if opcode = 0x8 then throw "control ws closed by server"
  else if opcode ≠ 0x1 then throw ("unsupported websocket opcode: " ++ toString opcode.toNat)
  else do
    let masked : Bool := header.getD 1 0 &&& 0x80 ≠ 0
    let payloadLen ← readLength texts (header.getD 1 0 &&& 0x7f).toNat
    let mask ← readMask texts masked
    let payload ← readExact texts "read websocket payload" payloadLen
    return if masked then unmask mask payload else payload

end WsFrames

/-- An event, with the text that it came in. -/
structure WsMessage where
  text : List UInt8
  event : ControlWsEvent
  deriving DecidableEq, Repr

structure WsClient where
  queuedEvents : List WsMessage
  stream : List Arrival
  deriving DecidableEq, Repr

namespace WsClient

variable (texts : WsTexts)

/-- What `read_event` makes of a text. -/
def decodeText (text : List UInt8) : Except String ControlWsEvent :=
  match texts.parse text with
  | .error err => .error ("decode ws envelope: " ++ err)
  | .ok json => ControlWsClient.readEvent texts.toControlTexts (.frame json false)

def readEvent (client : WsClient) : Except String WsMessage × WsClient :=
  match client.queuedEvents with
  | event :: rest => (.ok event, { client with queuedEvents := rest })
  | [] =>
    match WsFrames.decodeTextFrame texts client.stream with
    | (.error err, stream) => (.error err, { client with stream })
    | (.ok text, stream) =>
      ((decodeText texts text).map fun event => ⟨text, event⟩, { client with stream })

/-- The loop of `drain_pending_events`, with the events that it has read. Its calls that change
the read timeout succeed. -/
def drain (client : WsClient) (events : List WsMessage) :
    Nat → Except String (List WsMessage) × WsClient
  | 0 => (.ok events, client)
  | limit + 1 =>
    match client.readEvent texts with
    | (.ok event, client) => client.drain (events ++ [event]) limit
    | (.error err, client) =>
      if isControlWsTimeoutError err then (.ok events, client) else (.error err, client)

def drainPendingEvents (client : WsClient) (limit : Nat) :
    Except String (List WsMessage) × WsClient := client.drain texts [] limit

end WsClient

/-! ## Calls, and what the server sends -/

inductive WsCall where
  | readEvent
  | drainPendingEvents (limit : Nat)
  deriving DecidableEq, Repr

namespace WsCall

variable (texts : WsTexts)

/-- The messages that a call returns. -/
def run (client : WsClient) : WsCall → List WsMessage × WsClient
  | .readEvent =>
    match client.readEvent texts with
    | (.ok event, client) => ([event], client)
    | (.error _, client) => ([], client)
  | .drainPendingEvents limit =>
    match client.drainPendingEvents texts limit with
    | (.ok events, client) => (events, client)
    | (.error _, client) => ([], client)

/-- The messages that a sequence of calls returns. -/
def runAll (client : WsClient) : List WsCall → List WsMessage × WsClient
  | [] => ([], client)
  | call :: calls =>
    let first := call.run texts client
    let rest := runAll first.2 calls
    (first.1 ++ rest.1, rest.2)

end WsCall

/-- A text in one unmasked frame, its length in the shortest form. -/
def serverFrame (text : List UInt8) : List UInt8 :=
  (0x81 :: if text.length < 126 then [UInt8.ofNat text.length]
    else if text.length < 2 ^ 16 then 126 :: bigEndian 2 text.length
    else 127 :: bigEndian 8 text.length) ++ text

/-- Complete frames, with read timeouts anywhere between their bytes. -/
structure Delivery where
  sent : List (List UInt8)
  arrivals : List Arrival
  /-- No slice is longer. -/
  short : ∀ text ∈ sent, text.length < 2 ^ 63
  complete : bytes arrivals = sent.flatMap serverFrame

namespace Delivery

def client (d : Delivery) : WsClient := ⟨[], d.arrivals⟩

/-- The messages returned are those sent, in order: at any time the first of them, and all of them
once all bytes are read. -/
def Survives (d : Delivery) (texts : WsTexts) (calls : List WsCall) : Prop :=
  let (returned, client) := WsCall.runAll texts d.client calls
  returned.map WsMessage.text <+: d.sent ∧
    (bytes client.stream = [] → returned.map WsMessage.text = d.sent)

end Delivery

/-- The timeouts lie between frames. -/
inductive Whole : List (List UInt8) → List Arrival → Prop
  | nil : Whole [] []
  | timeout {sent : List (List UInt8)} {s : List Arrival} (h : Whole sent s) :
    Whole sent (.timeout :: s)
  | frame {sent : List (List UInt8)} {s : List Arrival} (text : List UInt8) (h : Whole sent s) :
    Whole (text :: sent) (flow (serverFrame text) ++ s)

end Slan.Client
