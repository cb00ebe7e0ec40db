import Mathlib.Data.List.Basic
import Mathlib.Data.Nat.Digits.Defs
import Mathlib.Tactic.Common

/-! # Responses of HTTP/1.1, and the bytes that they come in

A response comes with the length of its body, in chunks, or until the connection ends. What is sent
in one of the first two ways can be cut short.
-/

namespace Http

def crlf : List UInt8 := [13, 10]

/-- A byte of a field's value or of a reason, `obs-text` among them. -/
def isTextByte (b : UInt8) : Bool := b == 9 || (32 ≤ b && b != 127)

/-- A byte of a field's name. -/
def isTokenByte (b : UInt8) : Bool :=
  (0x30 ≤ b && b ≤ 0x39) || (0x41 ≤ b && b ≤ 0x5A) || (0x5E ≤ b && b ≤ 0x7A) ||
    (0x23 ≤ b && b ≤ 0x27) || [0x21, 0x2A, 0x2B, 0x2D, 0x2E, 0x7C, 0x7E].contains b

/-- Text on one line. -/
structure LineText where
  bytes : List UInt8
  text : ∀ b ∈ bytes, isTextByte b = true

structure HeaderField where
  name : List UInt8
  value : LineText
  name_ne_nil : name ≠ []
  name_token : ∀ b ∈ name, isTokenByte b = true

def HeaderField.line (field : HeaderField) : List UInt8 :=
  field.name ++ [58, 32] ++ field.value.bytes

def lowerByte (b : UInt8) : UInt8 := if 0x41 ≤ b && b ≤ 0x5A then b + 32 else b

def digitByte (n : Nat) : UInt8 := UInt8.ofNat (48 + n % 10)

/-- A number in decimal digits. -/
def decimal (n : Nat) : List UInt8 :=
  if n = 0 then [48] else (Nat.digits 10 n).reverse.map digitByte

def hexByte (n : Nat) : UInt8 := if n < 10 then UInt8.ofNat (48 + n) else UInt8.ofNat (87 + n)

/-- The size of a chunk that is not empty. -/
def hexadecimal (n : Nat) : List UInt8 := (Nat.digits 16 n).reverse.map hexByte

structure ResponseHead where
  status : Nat
  reason : LineText
  fields : List HeaderField
  status_lt : status < 1000

/-- `HTTP/1.1 ` -/
def version : List UInt8 := [72, 84, 84, 80, 47, 49, 46, 49, 32]

namespace ResponseHead

variable (head : ResponseHead)

def statusCode : List UInt8 :=
  [digitByte (head.status / 100), digitByte (head.status / 10), digitByte head.status]

def statusLine : List UInt8 := 
  version ++ head.statusCode ++ [32] ++ head.reason.bytes

/-- The lines up to the empty one. -/
def lines : List UInt8 := head.statusLine ++ head.fields.flatMap fun field => crlf ++ field.line

end ResponseHead

structure Chunk where
  data : List UInt8
  ext : LineText
  data_ne_nil : data ≠ []

def Chunk.bytes (chunk : Chunk) : List UInt8 :=
  hexadecimal chunk.data.length ++ chunk.ext.bytes ++ crlf ++ chunk.data ++ crlf

inductive Framed where
  | contentLength (body : List UInt8)
  | chunked (chunks : List Chunk) (lastExt : LineText) (trailers : List HeaderField)
  | untilEnd (body : List UInt8)

namespace Framed

def body : Framed → List UInt8
  | contentLength body => body
  | chunked chunks _ _ => chunks.flatMap Chunk.data
  | untilEnd body => body

def bytes : Framed → List UInt8
  | contentLength body => body
  | chunked chunks lastExt trailers =>
    chunks.flatMap Chunk.bytes ++ [48] ++ lastExt.bytes ++ crlf ++
      (trailers.flatMap fun field => field.line ++ crlf) ++ crlf
  | untilEnd body => body

/-- The fields of a head that tell how the body comes, their names in lower case. -/
def framing (fields : List HeaderField) : List (List UInt8 × List UInt8) :=
  (fields.map fun field => (field.name.map lowerByte, field.value.bytes)).filter fun field =>
    field.1 == contentLengthName || field.1 == transferEncodingName
where
  /-- `content-length` -/
  contentLengthName : List UInt8 :=
    [99, 111, 110, 116, 101, 110, 116, 45, 108, 101, 110, 103, 116, 104]
  /-- `transfer-encoding` -/
  transferEncodingName : List UInt8 :=
    [116, 114, 97, 110, 115, 102, 101, 114, 45, 101, 110, 99, 111, 100, 105, 110, 103]

def announcement : Framed → List (List UInt8 × List UInt8)
  | contentLength body => [(framing.contentLengthName, decimal body.length)]
  | chunked .. => [(framing.transferEncodingName, [99, 104, 117, 110, 107, 101, 100])]
  | untilEnd _ => []

end Framed

/-- A response, and how many bytes of its framed body arrive before the connection ends; the end of
the connection is the end of a body that has no other. -/
structure Response where
  head : ResponseHead
  framed : Framed
  arrived : Nat
  announced : Framed.framing head.fields = framed.announcement

namespace Response

variable (response : Response)

def isChunked : Bool :=
  match response.framed with
  | .chunked .. => true
  | _ => false

def isWhole : Bool :=
  match response.framed with
  | .untilEnd _ => true
  | framed => framed.bytes.length ≤ response.arrived

def bodyBytes : List UInt8 :=
  match response.framed with
  | .untilEnd body => body
  | framed => framed.bytes.take response.arrived

def bytes : List UInt8 := response.head.lines ++ crlf ++ crlf ++ response.bodyBytes

end Response

/-! ## Lines -/

/-- A line that has something in it. -/
def IsLine (line : List UInt8) : Prop := line ≠ [] ∧ 13 ∉ line

theorem isTextByte_ne {b : UInt8} (h : isTextByte b = true) : b ≠ 13 := by
  rintro rfl
  cases h

theorem isTokenByte_ne {b : UInt8} (h : isTokenByte b = true) : b ≠ 13 := by
  rintro rfl
  cases h

theorem HeaderField.isLine (field : HeaderField) : IsLine field.line := by
  refine ⟨by simp [HeaderField.line], fun hmem => ?_⟩
  simp only [HeaderField.line, List.mem_append, List.mem_cons, List.not_mem_nil, or_false] at hmem
  rcases hmem with (hname | hcolon | hspace) | hvalue
  · exact isTokenByte_ne (field.name_token _ hname) rfl
  · cases hcolon
  · cases hspace
  · exact isTextByte_ne (field.value.text _ hvalue) rfl

theorem digitByte_ne (n : Nat) : digitByte n ≠ 13 := by
  have hall : ∀ d < 10, UInt8.ofNat (48 + d) ≠ 13 := by decide
  exact hall (n % 10) (Nat.mod_lt n (by decide))

theorem ResponseHead.isLine_statusLine (head : ResponseHead) : IsLine head.statusLine := by
  refine ⟨by simp [statusLine, version], fun hmem => ?_⟩
  simp only [statusLine, version, statusCode, List.mem_append, List.mem_cons, List.not_mem_nil,
    or_false] at hmem
  rcases hmem with ((hversion | hcode) | hspace) | hreason
  · revert hversion
    decide
  · rcases hcode with hcode | hcode | hcode <;> exact digitByte_ne _ hcode.symm
  · cases hspace
  · exact isTextByte_ne (head.reason.text _ hreason) rfl

/-! ## Bodies -/

theorem length_chunk_lt (chunk : Chunk) : chunk.data.length < chunk.bytes.length := by
  simp only [Chunk.bytes, crlf, List.length_append, List.length_cons, List.length_nil]
  omega

/-- Chunked, a body is longer. -/
theorem Framed.length_chunked_lt (chunks : List Chunk) (lastExt : LineText)
    (trailers : List HeaderField) : (chunked chunks lastExt trailers).body.length <
      (chunked chunks lastExt trailers).bytes.length := by
  have hchunks : (chunks.flatMap Chunk.data).length ≤ (chunks.flatMap Chunk.bytes).length := by
    induction chunks with
    | nil => exact Nat.le_refl 0
    | cons chunk chunks ih =>
      have hchunk := length_chunk_lt chunk
      simp only [List.flatMap_cons, List.length_append]
      omega
  simp only [body, bytes, List.length_append, List.length_cons, List.length_nil]
  omega

namespace Response

variable {response : Response}

theorem bodyBytes_of_whole (h : response.isWhole = true) :
    response.bodyBytes = response.framed.bytes := by
  unfold isWhole at h
  unfold bodyBytes
  cases hframed : response.framed with
  | untilEnd body => rfl
  | contentLength body | chunked chunks lastExt trailers =>
    rw [hframed] at h
    exact List.take_of_length_le (of_decide_eq_true h)

/-- Only a chunked body comes in other bytes than its own. -/
theorem bytes_eq_body_iff (h : response.isWhole = true) :
    response.bodyBytes = response.framed.body ↔ response.isChunked = false := by
  rw [bodyBytes_of_whole h]
  unfold isChunked
  cases response.framed with
  | contentLength body => exact iff_of_true rfl rfl
  | untilEnd body => exact iff_of_true rfl rfl
  | chunked chunks lastExt trailers =>
    refine iff_of_false (fun hsame => ?_) Bool.noConfusion
    have hlonger := Framed.length_chunked_lt chunks lastExt trailers
    rw [hsame] at hlonger
    exact Nat.lt_irrefl _ hlonger

end Response

end Http
