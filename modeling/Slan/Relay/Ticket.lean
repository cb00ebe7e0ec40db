import Slan.Lib.Text
import Slan.Lib.Json

/-! # `relay-core`: tickets, sessions, timestamps -/

namespace Slan.Relay

/-- `Store` carries a lock failure's text. -/
inductive RelayError where
  | invalidTicket
  | invalidSignature
  | invalidTimestamp
  | ticketExpired
  | sessionNotFound
  | sessionAlreadyExists
  | unauthorizedPeer
  | emptyPayload
  | clockSkew
  | store (message : String)
  deriving DecidableEq, Repr

def RelayError.toString : RelayError → String
  | .invalidTicket => "invalid relay ticket"
  | .invalidSignature => "invalid relay ticket signature"
  | .invalidTimestamp => "invalid timestamp"
  | .ticketExpired => "relay ticket expired"
  | .sessionNotFound => "relay session not found"
  | .sessionAlreadyExists => "relay session already exists"
  | .unauthorizedPeer => "device is not a participant of the relay session"
  | .emptyPayload => "relay payload is empty"
  | .clockSkew => "system clock is before unix epoch"
  | .store message => "session store error: " ++ message

/-- The ticket as the relay daemon holds it. -/
structure RelayTicket where
  ticketId : String
  networkId : String
  sessionId : String
  srcNodeId : String
  dstNodeId : String
  derpClusterId : Option String
  countryCode : Option String
  cityCode : Option String
  allowedDerpNodeIds : List String
  relayUrl : String
  expiresAt : String
  sessionKey : String
  signature : String
  deriving DecidableEq, Repr

structure RelaySession where
  sessionId : String
  sourceDeviceId : String
  targetDeviceId : String
  networkId : String
  deriving DecidableEq, Repr

namespace RelaySession

def peerOf (s : RelaySession) (deviceId : String) : Except RelayError String :=
  if s.sourceDeviceId = deviceId then .ok s.targetDeviceId
  else if s.targetDeviceId = deviceId then .ok s.sourceDeviceId
  else .error .unauthorizedPeer

end RelaySession

/-! ## Timestamps -/

section Timestamp

/-- A byte index at which a UTF-8 string may be cut. -/
def isCharBoundary (raw : List UInt8) (i : Nat) : Bool :=
  i == 0 || i == raw.length || (raw[i]?.any fun b => b < 0x80 || 0xC0 ≤ b)

/-- `str::get(a..b)`. -/
def slice (raw : List UInt8) (a b : Nat) : Option (List UInt8) :=
  if a ≤ b ∧ b ≤ raw.length ∧ isCharBoundary raw a ∧ isCharBoundary raw b then
    some ((raw.drop a).take (b - a))
  else none

def digits : Nat → List UInt8 → Option Nat
  | acc, [] => some acc
  | acc, b :: bs => if 48 ≤ b ∧ b ≤ 57 then digits (acc * 10 + (b.toNat - 48)) bs else none

/-- At least one decimal digit and nothing else. -/
def magnitude (bs : List UInt8) : Option Nat := if bs = [] then none else digits 0 bs

/-- `str::parse` for a signed integer of the given width. -/
def parseSigned (bits : Nat) (bs : List UInt8) : Option Int := do
  let n ← match bs with
    | 43 :: rest => (magnitude rest).map Int.ofNat
    | 45 :: rest => (magnitude rest).map fun n => -Int.ofNat n
    | _ => (magnitude bs).map Int.ofNat
  if -2 ^ (bits - 1) ≤ n ∧ n < 2 ^ (bits - 1) then some n else none

/-- `str::parse` for an unsigned integer of the given width. -/
def parseUnsigned (bits : Nat) (bs : List UInt8) : Option Nat := do
  let n ← match bs with
    | 43 :: rest => magnitude rest
    | _ => magnitude bs
  if n < 2 ^ bits then some n else none

def daysFromCivil (year : Int) (month day : Nat) : Option Int :=
  if ¬(1 ≤ month ∧ month ≤ 12) ∨ ¬(1 ≤ day ∧ day ≤ 31) then none
  else
    let year := year - if month ≤ 2 then 1 else 0
    let era := (if 0 ≤ year then year else year - 399).tdiv 400
    let yoe := year - era * 400
    let month : Int := month
    let doy := (153 * (month + if 2 < month then -3 else 9) + 2).tdiv 5 + day - 1
    let doe := yoe * 365 + yoe.tdiv 4 - yoe.tdiv 100 + doy
    some (era * 146097 + doe - 719468)

/-- The offset that follows the seconds: `Z`, or a sign and `hh:mm`. -/
def offsetSeconds (rest : List UInt8) : Option Int :=
  match rest with
  | [] => none
  | b :: _ =>
    if b = 90 then some 0
    else if b = 43 ∨ b = 45 then
      if rest.length ≠ 6 then none
      else do
        let sign : Int := if b = 43 then 1 else -1
        let offsetHour ← (slice rest 1 3).bind (parseSigned 64)
        let offsetMinute ← (slice rest 4 6).bind (parseSigned 64)
        some (sign * (offsetHour * 3600 + offsetMinute * 60))
    else none

def parseRfc3339 (raw : List UInt8) : Option Int :=
  if raw.length < 20 then none
  else do
    let year ← (slice raw 0 4).bind (parseSigned 32)
    let month ← (slice raw 5 7).bind (parseUnsigned 32)
    let day ← (slice raw 8 10).bind (parseUnsigned 32)
    let hour ← (slice raw 11 13).bind (parseUnsigned 32)
    let minute ← (slice raw 14 16).bind (parseUnsigned 32)
    let second ← (slice raw 17 19).bind (parseUnsigned 32)
    let rest ← slice raw 19 raw.length
    let offset ← offsetSeconds rest
    let days ← daysFromCivil year month day
    let seconds := days * 86400 + hour * 3600 + minute * 60 + second
    some (seconds - offset)

/-- Epoch seconds of a decimal integer or an RFC 3339 text. -/
def parseTimestamp (raw : String) : Except RelayError Int :=
  let raw := Text.utf8 (Text.trim raw)
  if raw = [] then .error .invalidTimestamp
  else
    match parseSigned 64 raw with
    | some seconds => .ok seconds
    | none =>
      match parseRfc3339 raw with
      | some seconds => .ok seconds
      | none => .error .invalidTimestamp

theorem error_of_parseTimestamp {raw : String} {e : RelayError}
    (h : parseTimestamp raw = .error e) : e = .invalidTimestamp := by
  unfold parseTimestamp at h
  dsimp only at h
  split at h
  · exact (Except.error.inj h).symm
  · split at h
    · cases h
    · split at h
      · cases h
      · exact (Except.error.inj h).symm

example : parseTimestamp "4102444800" = .ok 4102444800 := by decide
example : parseTimestamp "2026-03-20T12:30:00+08:00" = .ok 1773981000 := by decide

end Timestamp

namespace RelayTicket

def isExpiredAt (t : RelayTicket) (nowEpochSeconds : Int) : Except RelayError Bool :=
  (parseTimestamp t.expiresAt).map fun expiresAt => decide (expiresAt ≤ nowEpochSeconds)

/-- `now` is the system clock in seconds from the Unix epoch. -/
def isExpired (t : RelayTicket) (now : Int) : Except RelayError Bool :=
  if now < 0 then .error .clockSkew else t.isExpiredAt now

/-- The twelve parts of the signed payload. -/
def signingFields (t : RelayTicket) : List String :=
  [t.ticketId, t.networkId, t.sessionId, t.srcNodeId, t.dstNodeId, t.derpClusterId.getD "",
    t.countryCode.getD "", t.cityCode.getD "",
    ",".intercalate (Text.sorted t.allowedDerpNodeIds), t.relayUrl, t.expiresAt, t.sessionKey]

def signingPayload (t : RelayTicket) : String := "|".intercalate t.signingFields

end RelayTicket

end Slan.Relay
