import Slan.Client.WsStream

/-! # The frame codec, over any bytes -/

namespace Slan.Client

open ByteStream

/-- Why no text comes of a frame: an error that is returned, or the panic of `vec!` at a length
that no vector has. -/
inductive FrameFault where
  | error (err : String)
  | capacityOverflow
  deriving DecidableEq, Repr

abbrev FrameRead := ExceptT FrameFault (StateM (List Arrival))

namespace WsFrames

variable (texts : WsTexts)

/-! ## The code -/

def maskKey : List UInt8 := [0x12, 0x34, 0x56, 0x78]

def encodeTextFrame (payload : List UInt8) : List UInt8 :=
  let length :=
    if payload.length < 126 then [0x80 ||| UInt8.ofNat payload.length]
    else if payload.length ≤ 65535 then (0x80 ||| 126) :: bigEndian 2 payload.length
    else (0x80 ||| 127) :: bigEndian 8 payload.length
  0x81 :: (length ++ maskKey) ++ unmask maskKey payload

/-- A read whose error is returned with `?`. -/
def returned {α : Type} (x : WsRead α) : FrameRead α :=
  fun s => ((x s).1.mapError .error, (x s).2)

/-- `vec![0_u8; len]` -/
def zeroed (len : Nat) : FrameRead Unit :=
  if len < 2 ^ 63 then pure () else throw .capacityOverflow

/-- `decode_text_frame`, with the panic that `decodeTextFrame` leaves out. -/
def decodeFrame : FrameRead (List UInt8) := do
  let header ← returned (readExact texts "read websocket frame header" 2)
  let opcode := header.getD 0 0 &&& 0x0f
  if opcode = 0x8 then throw (.error "control ws closed by server")
  else if opcode ≠ 0x1 then
    throw (.error ("unsupported websocket opcode: " ++ toString opcode.toNat))
  else do
    let masked : Bool := header.getD 1 0 &&& 0x80 ≠ 0
    let payloadLen ← returned (readLength texts (header.getD 1 0 &&& 0x7f).toNat)
    let mask ← returned (readMask texts masked)
    zeroed payloadLen
    let payload ← returned (readExact texts "read websocket payload" payloadLen)
    return if masked then unmask mask payload else payload

/-- So many frames, one after the other. -/
def decodeFrames : Nat → FrameRead (List (List UInt8))
  | 0 => pure []
  | count + 1 => do
    let text ← decodeFrame texts
    let others ← decodeFrames count
    return text :: others

/-! ## The format -/

/-- The bytes of a text frame before its payload. -/
structure FrameHead where
  first : UInt8
  second : UInt8
  extended : List UInt8
  mask : List UInt8
  isText : first &&& 0x0f = 1
  length_extended : extended.length =
    if (second &&& 0x7f).toNat = 126 then 2 else if (second &&& 0x7f).toNat = 127 then 8 else 0
  length_mask : mask.length = if second &&& 0x80 ≠ 0 then 4 else 0

namespace FrameHead

/-- The last frame of its message. -/
def Final (head : FrameHead) : Prop := head.first &&& 0x80 ≠ 0

/-- The announced length. -/
def length (head : FrameHead) : Nat :=
  if (head.second &&& 0x7f).toNat = 126 ∨ (head.second &&& 0x7f).toNat = 127 then
    ofBigEndian head.extended
  else (head.second &&& 0x7f).toNat

def bytes (head : FrameHead) : List UInt8 :=
  head.first :: head.second :: (head.extended ++ head.mask)

def payload (head : FrameHead) (sent : List UInt8) : List UInt8 :=
  if head.second &&& 0x80 ≠ 0 then unmask head.mask sent else sent

end FrameHead

/-! ## Reading -/

variable {texts} {α : Type} {s rest : List Arrival}

theorem returned_eq_ok {x : WsRead α} {a : α} :
    returned x s = (.ok a, rest) ↔ x s = (.ok a, rest) := by
  unfold returned
  rcases x s with ⟨err | b, t⟩
  · exact iff_of_false nofun nofun
  · constructor
    · intro h
      cases h
      rfl
    · intro h
      cases h
      rfl

theorem returned_eq_overflow {x : WsRead α} :
    returned x s ≠ (.error .capacityOverflow, rest) := by
  unfold returned
  rcases x s with ⟨err | b, t⟩
  · exact nofun
  · exact nofun

theorem zeroed_eq_ok {len : Nat} {u : Unit} :
    zeroed len s = (.ok u, rest) ↔ len < 2 ^ 63 ∧ s = rest := by
  unfold zeroed
  split
  · rename_i hlen
    rw [pure_eq_ok]
    exact ⟨fun h => ⟨hlen, h.2⟩, fun h => ⟨rfl, h.2⟩⟩
  · rename_i hlen
    exact iff_of_false nofun fun h => hlen h.1

theorem zeroed_eq_overflow {len : Nat} :
    zeroed len s = (.error .capacityOverflow, rest) ↔ 2 ^ 63 ≤ len ∧ s = rest := by
  unfold zeroed
  split
  · rename_i hlen
    exact iff_of_false nofun fun h => Nat.not_lt.mpr h.1 hlen
  · rename_i hlen
    constructor
    · intro h
      exact ⟨Nat.le_of_not_lt hlen, congrArg Prod.snd h⟩
    · rintro ⟨-, rfl⟩
      rfl

theorem readExact_eq_ok_iff {what : String} {n : Nat} {block : List UInt8} :
    readExact texts what n s = (.ok block, rest) ↔ block.length = n ∧ s = flow block ++ rest := by
  constructor
  · exact readExact_eq_ok
  · rintro ⟨hlength, rfl⟩
    exact readExact_of_flow what block hlength rest

theorem readLength_eq_ok_iff {short n : Nat} :
    readLength texts short s = (.ok n, rest) ↔ ∃ extended : List UInt8,
      extended.length = (if short = 126 then 2 else if short = 127 then 8 else 0) ∧
      n = (if short = 126 ∨ short = 127 then ofBigEndian extended else short) ∧
      s = flow extended ++ rest := by
  have hextended : ∀ (what : String) (k : Nat),
      (ofBigEndian <$> readExact texts what k) s = (.ok n, rest) ↔ ∃ extended : List UInt8,
        extended.length = k ∧ n = ofBigEndian extended ∧ s = flow extended ++ rest := by
    intro what k
    constructor
    · intro h
      obtain ⟨block, t, hread, hn⟩ := bind_eq_ok.mp h
      obtain ⟨rfl, rfl⟩ := pure_eq_ok.mp hn
      exact ⟨block, (readExact_eq_ok hread).1, rfl, (readExact_eq_ok hread).2⟩
    · rintro ⟨block, hlength, rfl, rfl⟩
      exact bind_eq_ok.mpr ⟨block, rest, readExact_of_flow what block hlength rest,
        pure_eq_ok.mpr ⟨rfl, rfl⟩⟩
  unfold readLength
  by_cases hmedium : short = 126
  · simp only [hmedium, if_true, true_or]
    exact hextended _ 2
  · by_cases hlong : short = 127
    · simp only [hlong, if_true, or_true, if_neg (show ¬127 = 126 by decide)]
      exact hextended _ 8
    · simp only [hmedium, hlong, if_false, or_self]
      rw [pure_eq_ok]
      constructor
      · rintro ⟨rfl, rfl⟩
        exact ⟨[], rfl, rfl, rfl⟩
      · rintro ⟨extended, hlength, rfl, rfl⟩
        obtain rfl := List.eq_nil_of_length_eq_zero hlength
        exact ⟨rfl, rfl⟩

theorem readMask_eq_ok_iff {masked : Bool} {mask : List UInt8} :
    readMask texts masked s = (.ok mask, rest) ↔
      if masked then mask.length = 4 ∧ s = flow mask ++ rest
      else mask = [0, 0, 0, 0] ∧ s = rest := by
  cases masked
  · refine pure_eq_ok.trans ?_
    rw [eq_comm]
    rfl
  · exact readExact_eq_ok_iff

theorem returned_error {x : WsRead α} {err : String} (h : x s = (.error err, rest)) :
    returned x s = (.error (.error err), rest) := by
  unfold returned
  rw [h]
  rfl

theorem returned_bind_error {β : Type} {x : WsRead α} {f : α → FrameRead β} {err : String}
    (h : x s = (.error err, rest)) :
    (returned x >>= f) s = (.error (.error err), rest) := by
  rw [bind_run, returned_error h]

theorem returned_bind_ok {β : Type} {x : WsRead α} {f : α → FrameRead β} {a : α}
    (h : x s = (.ok a, rest)) : (returned x >>= f) s = f a rest := by
  rw [bind_run, returned_eq_ok.mpr h]

/-- After the head: the vector, then the payload. -/
def readPayload (texts : WsTexts) (head : FrameHead) : FrameRead (List UInt8) := do
  zeroed head.length
  let payload ← returned (readExact texts "read websocket payload" head.length)
  return head.payload payload

/-- A head is read as it stands. -/
theorem decodeFrame_head (texts : WsTexts) (head : FrameHead) (s : List Arrival) :
    decodeFrame texts (flow head.bytes ++ s) = readPayload texts head s := by
  have hheader : readExact texts "read websocket frame header" 2 (flow head.bytes ++ s) =
      (.ok [head.first, head.second], flow head.extended ++ (flow head.mask ++ s)) := by
    rw [← readExact_of_flow "read websocket frame header" [head.first, head.second] rfl,
      ← List.append_assoc, ← flow_append, ← List.append_assoc, ← flow_append]
    rfl
  have hlength : readLength texts (head.second &&& 0x7f).toNat
      (flow head.extended ++ (flow head.mask ++ s)) = (.ok head.length, flow head.mask ++ s) :=
    readLength_eq_ok_iff.mpr ⟨head.extended, head.length_extended, rfl, rfl⟩
  have hopcode : [head.first, head.second].getD 0 0 &&& 0x0f = 1 := head.isText
  unfold decodeFrame
  rw [returned_bind_ok hheader, if_neg (by rw [hopcode]; decide), if_neg (by rw [hopcode]; decide)]
  refine (returned_bind_ok hlength).trans ?_
  have hlengthMask := head.length_mask
  unfold readPayload FrameHead.payload
  -- without the mask bit no mask is read, and the head has none
  by_cases hmasked : head.second &&& 0x80 ≠ 0
  · have hmask : readMask texts true (flow head.mask ++ s) = (.ok head.mask, s) :=
      readMask_eq_ok_iff.mpr ⟨hlengthMask.trans (if_pos hmasked), rfl⟩
    have hbit : decide ([head.first, head.second].getD 1 0 &&& 0x80 ≠ 0) = true :=
      decide_eq_true hmasked
    rw [hbit]
    refine (returned_bind_ok hmask).trans ?_
    simp only [if_pos hmasked, if_true]
  · have hnil : head.mask = [] :=
      List.eq_nil_of_length_eq_zero (hlengthMask.trans (if_neg hmasked))
    have hbit : decide ([head.first, head.second].getD 1 0 &&& 0x80 ≠ 0) = false :=
      decide_eq_false hmasked
    have hmask : readMask texts false s = (.ok [0, 0, 0, 0], s) := rfl
    rw [hbit, hnil]
    refine (returned_bind_ok hmask).trans ?_
    simp only [if_neg hmasked, Bool.false_eq_true, if_false]

/-- Without a head the read ends with an error. -/
theorem head_or_error (texts : WsTexts) (s : List Arrival) :
    (∃ (head : FrameHead) (rest : List Arrival), s = flow head.bytes ++ rest) ∨
      ∃ (err : String) (rest : List Arrival),
        decodeFrame texts s = (.error (.error err), rest) := by
  unfold decodeFrame
  -- each read ends with an error or gives the next part of a head
  cases hheader : readExact texts "read websocket frame header" 2 s with
  | mk result s₁ =>
  cases result with
  | error err => exact .inr ⟨err, s₁, returned_bind_error hheader⟩
  | ok header =>
  rw [returned_bind_ok hheader]
  obtain ⟨hlength, rfl⟩ := readExact_eq_ok hheader
  obtain ⟨first, second, rfl⟩ := List.length_eq_two.mp hlength
  split
  · exact .inr ⟨_, s₁, rfl⟩
  · split
    · exact .inr ⟨_, s₁, rfl⟩
    · rename_i hclose htext
      cases hn : readLength texts (second &&& 0x7f).toNat s₁ with
      | mk result s₂ =>
      cases result with
      | error err => exact .inr ⟨err, s₂, returned_bind_error hn⟩
      | ok n =>
      obtain ⟨extended, hextended, -, rfl⟩ := readLength_eq_ok_iff.mp hn
      cases hmask : readMask texts (decide (second &&& 0x80 ≠ 0)) s₂ with
      | mk result s₃ =>
      cases result with
      | error err =>
        exact .inr ⟨err, s₃, (returned_bind_ok hn).trans (returned_bind_error hmask)⟩
      | ok mask =>
      have hread := readMask_eq_ok_iff.mp hmask
      have htext : first &&& 0x0f = 1 := not_not.mp htext
      by_cases hmasked : second &&& 0x80 ≠ 0
      · rw [if_pos (decide_eq_true hmasked)] at hread
        obtain ⟨hlengthMask, rfl⟩ := hread
        refine .inl ⟨⟨first, second, extended, mask, htext, hextended,
          hlengthMask.trans (if_pos hmasked).symm⟩, s₃, ?_⟩
        rw [← List.append_assoc, ← List.append_assoc, ← flow_append, ← flow_append]
        rfl
      · rw [if_neg (fun h => hmasked (of_decide_eq_true h))] at hread
        obtain ⟨-, rfl⟩ := hread
        refine .inl ⟨⟨first, second, extended, [], htext, hextended, (if_neg hmasked).symm⟩, s₂, ?_⟩
        rw [← List.append_assoc, ← flow_append]
        unfold FrameHead.bytes
        rw [List.append_nil]
        rfl

/-- A text comes of every frame whose length a vector can have, and of nothing else. -/
theorem decodeFrame_eq_ok_iff {text : List UInt8} :
    decodeFrame texts s = (.ok text, rest) ↔ ∃ (head : FrameHead) (sent : List UInt8),
      head.length < 2 ^ 63 ∧ sent.length = head.length ∧ text = head.payload sent ∧
      s = flow head.bytes ++ (flow sent ++ rest) := by
  constructor
  · intro h
    rcases head_or_error texts s with ⟨head, s', rfl⟩ | ⟨err, rest', herror⟩
    · rw [decodeFrame_head] at h
      obtain ⟨u, s₁, hzeroed, hrest⟩ := bind_eq_ok.mp h
      obtain ⟨payload, s₂, hpayload, hrest⟩ := bind_eq_ok.mp hrest
      obtain ⟨rfl, rfl⟩ := pure_eq_ok.mp hrest
      obtain ⟨hlt, rfl⟩ := zeroed_eq_ok.mp hzeroed
      obtain ⟨hcount, rfl⟩ := readExact_eq_ok (returned_eq_ok.mp hpayload)
      exact ⟨head, payload, hlt, hcount, rfl, rfl⟩
    · rw [herror] at h
      cases h
  · rintro ⟨head, sent, hlt, hsent, rfl, rfl⟩
    rw [decodeFrame_head]
    refine bind_eq_ok.mpr ⟨(), _, zeroed_eq_ok.mpr ⟨hlt, rfl⟩, ?_⟩
    refine bind_eq_ok.mpr ⟨sent, rest, returned_eq_ok.mpr ?_, pure_eq_ok.mpr ⟨rfl, rfl⟩⟩
    exact readExact_of_flow _ sent hsent rest

/-- The panic comes of every head with a length that no vector has. -/
theorem decodeFrame_overflow_iff :
    decodeFrame texts s = (.error .capacityOverflow, rest) ↔ ∃ head : FrameHead,
      2 ^ 63 ≤ head.length ∧ s = flow head.bytes ++ rest := by
  constructor
  · intro h
    rcases head_or_error texts s with ⟨head, s', rfl⟩ | ⟨err, rest', herror⟩
    · rw [decodeFrame_head] at h
      rcases bind_eq_error.mp h with hzeroed | ⟨u, s₁, -, hrest⟩
      · obtain ⟨hle, rfl⟩ := zeroed_eq_overflow.mp hzeroed
        exact ⟨head, hle, rfl⟩
      · rcases bind_eq_error.mp hrest with hpayload | ⟨payload, s₂, -, hpure⟩
        · exact absurd hpayload returned_eq_overflow
        · cases hpure
    · rw [herror] at h
      cases h
  · rintro ⟨head, hle, rfl⟩
    rw [decodeFrame_head]
    exact bind_eq_error.mpr (.inl (zeroed_eq_overflow.mpr ⟨hle, rfl⟩))

theorem length_unmask (mask payload : List UInt8) :
    (unmask mask payload).length = payload.length := List.length_mapIdx

/-- Below the panic this is `decodeTextFrame`. -/
theorem decodeFrame_eq_ok_iff_decodeTextFrame {text : List UInt8} :
    decodeFrame texts s = (.ok text, rest) ↔
      decodeTextFrame texts s = (.ok text, rest) ∧ text.length < 2 ^ 63 := by
  constructor
  · intro h
    obtain ⟨header, s₁, hheader, hbody⟩ := bind_eq_ok.mp h
    split at hbody
    · cases hbody
    · split at hbody
      · cases hbody
      · rename_i hclose htext
        obtain ⟨n, s₂, hn, hrest⟩ := bind_eq_ok.mp hbody
        obtain ⟨mask, s₃, hmask, hrest⟩ := bind_eq_ok.mp hrest
        obtain ⟨u, s₄, hzeroed, hrest⟩ := bind_eq_ok.mp hrest
        obtain ⟨payload, s₅, hpayload, hrest⟩ := bind_eq_ok.mp hrest
        obtain ⟨rfl, rfl⟩ := pure_eq_ok.mp hrest
        obtain ⟨hlt, rfl⟩ := zeroed_eq_ok.mp hzeroed
        have hpayload := returned_eq_ok.mp hpayload
        refine ⟨bind_eq_ok.mpr ⟨header, s₁, returned_eq_ok.mp hheader, ?_⟩, ?_⟩
        · rw [if_neg hclose, if_neg htext]
          exact bind_eq_ok.mpr ⟨n, s₂, returned_eq_ok.mp hn, bind_eq_ok.mpr ⟨mask, s₃,
            returned_eq_ok.mp hmask, bind_eq_ok.mpr ⟨payload, s₅, hpayload,
              pure_eq_ok.mpr ⟨rfl, rfl⟩⟩⟩⟩
        · have hlength : payload.length < 2 ^ 63 := (readExact_eq_ok hpayload).1.symm ▸ hlt
          split
          · rwa [length_unmask]
          · exact hlength
  · rintro ⟨h, hlt⟩
    obtain ⟨header, s₁, hheader, hbody⟩ := bind_eq_ok.mp h
    split at hbody
    · cases hbody
    · split at hbody
      · cases hbody
      · rename_i hclose htext
        obtain ⟨n, s₂, hn, hrest⟩ := bind_eq_ok.mp hbody
        obtain ⟨mask, s₃, hmask, hrest⟩ := bind_eq_ok.mp hrest
        obtain ⟨payload, s₄, hpayload, hrest⟩ := bind_eq_ok.mp hrest
        obtain ⟨rfl, rfl⟩ := pure_eq_ok.mp hrest
        have hn' : n < 2 ^ 63 := by
          rw [← (readExact_eq_ok hpayload).1]
          split at hlt
          · rwa [length_unmask] at hlt
          · exact hlt
        refine bind_eq_ok.mpr ⟨header, s₁, returned_eq_ok.mpr hheader, ?_⟩
        rw [if_neg hclose, if_neg htext]
        exact bind_eq_ok.mpr ⟨n, s₂, returned_eq_ok.mpr hn, bind_eq_ok.mpr ⟨mask, s₃,
          returned_eq_ok.mpr hmask, bind_eq_ok.mpr ⟨(), s₃, zeroed_eq_ok.mpr ⟨hn', rfl⟩,
            bind_eq_ok.mpr ⟨payload, s₄, returned_eq_ok.mpr hpayload,
              pure_eq_ok.mpr ⟨rfl, rfl⟩⟩⟩⟩⟩

/-! ## Round trip -/

theorem unmask_unmask (mask payload : List UInt8) :
    unmask mask (unmask mask payload) = payload := by
  refine List.ext_getElem? fun idx => ?_
  unfold unmask
  rw [List.getElem?_mapIdx, List.getElem?_mapIdx, Option.map_map]
  cases payload[idx]? with
  | none => rfl
  | some byte =>
    change some (byte ^^^ mask.getD (idx % 4) 0 ^^^ mask.getD (idx % 4) 0) = some byte
    rw [UInt8.xor_assoc, UInt8.xor_self, UInt8.xor_zero]

theorem masked_short : ∀ n < 128, ((0x80 ||| UInt8.ofNat n) &&& 0x7f).toNat = n ∧
    (0x80 ||| UInt8.ofNat n) &&& 0x80 ≠ 0 := by decide

/-- The seven bits of the length, as they are encoded. -/
def shortLength (length : Nat) : Nat :=
  if length < 126 then length else if length ≤ 65535 then 126 else 127

theorem shortLength_lt (length : Nat) : shortLength length < 128 := by
  unfold shortLength
  split
  · omega
  · split <;> decide

def extendedLength (length : Nat) : List UInt8 :=
  if length < 126 then []
  else if length ≤ 65535 then bigEndian 2 length else bigEndian 8 length

/-- The head of an encoded payload. -/
def encodedHead (payload : List UInt8) : FrameHead where
  first := 0x81
  second := 0x80 ||| UInt8.ofNat (shortLength payload.length)
  extended := extendedLength payload.length
  mask := maskKey
  isText := by decide
  length_extended := by
    rw [(masked_short _ (shortLength_lt _)).1]
    unfold shortLength extendedLength
    split
    · rw [if_neg (by omega), if_neg (by omega)]
      rfl
    · split
      · exact length_bigEndian 2 _
      · exact length_bigEndian 8 _
  length_mask := by
    rw [if_pos (masked_short _ (shortLength_lt _)).2]
    rfl

theorem length_encodedHead {payload : List UInt8} (h : payload.length < 2 ^ 63) :
    (encodedHead payload).length = payload.length := by
  unfold FrameHead.length encodedHead
  dsimp only
  rw [(masked_short _ (shortLength_lt _)).1]
  unfold shortLength extendedLength
  split
  · rw [if_neg (by omega)]
  · split
    · exact ofBigEndian_bigEndian (by omega)
    · exact ofBigEndian_bigEndian (Nat.lt_trans h (by decide))

theorem encodeTextFrame_eq (payload : List UInt8) :
    encodeTextFrame payload = (encodedHead payload).bytes ++ unmask maskKey payload := by
  unfold encodeTextFrame FrameHead.bytes encodedHead shortLength extendedLength
  dsimp only
  split
  · rfl
  · split
    · rfl
    · rfl

theorem decodeFrame_encodeTextFrame (texts : WsTexts) {payload : List UInt8}
    (h : payload.length < 2 ^ 63) (s : List Arrival) :
    decodeFrame texts (flow (encodeTextFrame payload) ++ s) = (.ok payload, s) := by
  have hlength := length_encodedHead h
  refine decodeFrame_eq_ok_iff.mpr ⟨encodedHead payload, unmask maskKey payload,
    hlength.symm ▸ h, (length_unmask _ _).trans hlength.symm, ?_, ?_⟩
  · have hmasked : (encodedHead payload).second &&& 0x80 ≠ 0 :=
      (masked_short _ (shortLength_lt _)).2
    unfold FrameHead.payload
    rw [if_pos hmasked]
    exact (unmask_unmask maskKey payload).symm
  · rw [encodeTextFrame_eq, flow_append, List.append_assoc]

/-- A list of payloads is read back, and no byte after their frames. -/
theorem decodeFrames_encodeTextFrame (texts : WsTexts) {payloads : List (List UInt8)}
    (h : ∀ payload ∈ payloads, payload.length < 2 ^ 63) (s : List Arrival) :
    decodeFrames texts payloads.length (flow (payloads.flatMap encodeTextFrame) ++ s) =
      (.ok payloads, s) := by
  induction payloads with
  | nil => rfl
  | cons payload payloads ih =>
    have hfirst := decodeFrame_encodeTextFrame texts (h payload List.mem_cons_self)
      (flow (payloads.flatMap encodeTextFrame) ++ s)
    have hothers := ih fun p hp => h p (List.mem_cons_of_mem payload hp)
    rw [List.flatMap_cons, flow_append, List.append_assoc]
    exact bind_eq_ok.mpr ⟨payload, _, hfirst,
      bind_eq_ok.mpr ⟨payloads, s, hothers, pure_eq_ok.mpr ⟨rfl, rfl⟩⟩⟩

/-! ## When a stream is decoded as it should be -/

/-- Encoded payloads come back in order, with nothing more consumed; a read of the stream returns,
and a text that it returns is a whole message. -/
structure Faithful (texts : WsTexts) (s : List Arrival) : Prop where
  roundTrip : ∀ (payloads : List (List UInt8)) (rest : List Arrival),
    (∀ payload ∈ payloads, payload.length < 2 ^ 63) →
    decodeFrames texts payloads.length (flow (payloads.flatMap encodeTextFrame) ++ rest) =
      (.ok payloads, rest)
  returns : ∀ rest, decodeFrame texts s ≠ (.error .capacityOverflow, rest)
  final : ∀ text rest, decodeFrame texts s = (.ok text, rest) →
    ∃ b s', s = .byte b :: s' ∧ b &&& 0x80 ≠ 0

/-- A text frame at the start of the stream announces a length that a vector can have, and when all
of it is there it is a final one. -/
def Decodable (s : List Arrival) : Prop :=
  ∀ (head : FrameHead) (rest : List Arrival), s = flow head.bytes ++ rest →
    head.length < 2 ^ 63 ∧
    ∀ (sent : List UInt8) (rest' : List Arrival), sent.length = head.length →
      rest = flow sent ++ rest' → head.Final

theorem faithful_iff (texts : WsTexts) (s : List Arrival) : Faithful texts s ↔ Decodable s := by
  constructor
  · rintro h head rest rfl
    have hlt : head.length < 2 ^ 63 := by
      refine Nat.lt_of_not_le fun hle => ?_
      exact h.returns rest (decodeFrame_overflow_iff.mpr ⟨head, hle, rfl⟩)
    refine ⟨hlt, ?_⟩
    rintro sent rest' hsent rfl
    obtain ⟨b, s', hs, hb⟩ := h.final _ _
      (decodeFrame_eq_ok_iff.mpr ⟨head, sent, hlt, hsent, rfl, rfl⟩)
    cases hs
    exact hb
  · intro h
    refine ⟨fun payloads rest hshort => decodeFrames_encodeTextFrame texts hshort rest, ?_, ?_⟩
    · intro rest hpanic
      obtain ⟨head, hle, hs⟩ := decodeFrame_overflow_iff.mp hpanic
      exact Nat.not_lt.mpr hle (h head rest hs).1
    · intro text rest htext
      obtain ⟨head, sent, -, hsent, -, hs⟩ := decodeFrame_eq_ok_iff.mp htext
      exact ⟨head.first, _, hs, (h head _ hs).2 sent rest hsent rfl⟩

/-- A fragment is returned as a message, and a length near the largest ends in a panic. -/
theorem fragment_not_faithful :
    ¬Faithful eventTexts (flow [0x01, 2, 104, 105]) ∧
      ¬Faithful eventTexts (flow (0x81 :: 127 :: List.replicate 8 0xff)) := by
  constructor
  · intro h
    obtain ⟨b, s', hs, hb⟩ := h.final [104, 105] [] (by rfl)
    cases hs
    exact hb rfl
  · intro h
    refine h.returns [] (decodeFrame_overflow_iff.mpr ⟨⟨0x81, 127, List.replicate 8 0xff, [],
      by decide, by decide, by decide⟩, by decide, rfl⟩)

end WsFrames

end Slan.Client
