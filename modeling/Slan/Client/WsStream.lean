import Slan.Client.WsFrames

/-! # Which streams survive their read timeouts -/

namespace Slan.Client

open ByteStream

/-! ## One frame -/

namespace WsFrames

variable {texts : WsTexts} {α β : Type} {s rest : List Arrival} {err : String}

section Bind

variable {ε : Type} {fault : ε}

theorem bind_run (x : ExceptT ε (StateM (List Arrival)) α)
    (f : α → ExceptT ε (StateM (List Arrival)) β) (s : List Arrival) :
    (x >>= f) s = match x s with
      | (.ok a, t) => f a t
      | (.error err, t) => (.error err, t) := by
  change ExceptT.bindCont f (x s).1 (x s).2 = _
  rcases x s with ⟨_ | _, _⟩ <;> rfl

theorem bind_eq_ok {x : ExceptT ε (StateM (List Arrival)) α}
    {f : α → ExceptT ε (StateM (List Arrival)) β} {b : β} :
    (x >>= f) s = (.ok b, rest) ↔ ∃ a t, x s = (.ok a, t) ∧ f a t = (.ok b, rest) := by
  rw [bind_run]
  rcases x s with ⟨_ | a, t⟩
  · exact iff_of_false nofun fun ⟨_, _, h, _⟩ => nomatch h
  · constructor
    · intro h
      exact ⟨a, t, rfl, h⟩
    · rintro ⟨_, _, hx, h⟩
      cases hx
      exact h

theorem bind_eq_error {x : ExceptT ε (StateM (List Arrival)) α}
    {f : α → ExceptT ε (StateM (List Arrival)) β} :
    (x >>= f) s = (.error fault, rest) ↔
      x s = (.error fault, rest) ∨ ∃ a t, x s = (.ok a, t) ∧ f a t = (.error fault, rest) := by
  rw [bind_run]
  rcases x s with ⟨err' | a, t⟩
  · constructor
    · intro h
      cases h
      exact .inl rfl
    · rintro (hx | ⟨_, _, hx, _⟩)
      · cases hx
        rfl
      · cases hx
  · constructor
    · intro h
      exact .inr ⟨a, t, rfl, h⟩
    · rintro (hx | ⟨_, _, hx, h⟩)
      · cases hx
      · cases hx
        exact h

theorem pure_eq_ok {a b : α} :
    (pure a : ExceptT ε (StateM (List Arrival)) α) s = (.ok b, rest) ↔ a = b ∧ s = rest := by
  change (Except.ok a, s) = (.ok b, rest) ↔ _
  rw [Prod.mk.injEq, Except.ok.injEq]

end Bind

theorem readExact_eq_ok {what : String} {n : Nat} {block : List UInt8}
    (h : readExact texts what n s = (.ok block, rest)) :
    block.length = n ∧ s = flow block ++ rest := by
  unfold readExact at h
  split at h
  · rename_i block' rest' hread
    cases h
    exact readExact_eq_some hread
  · cases h

theorem readExact_eq_error {what : String} {n : Nat}
    (h : readExact texts what n s = (.error err, rest)) :
    err = what ++ ": " ++ texts.timedOut ∧
      (s = [] ∧ rest = [] ∨ s = .timeout :: rest ∨ (bytes rest).length < (bytes s).length) := by
  unfold readExact at h
  split at h
  · cases h
  · rename_i rest' hread
    cases h
    exact ⟨rfl, readExact_eq_none hread⟩

theorem readExact_of_flow (what : String) {n : Nat} (block : List UInt8) (h : block.length = n)
    (s : List Arrival) : readExact texts what n (flow block ++ s) = (.ok block, s) := by
  subst h
  unfold readExact
  rw [readExact_flow]

/-- What the length takes beyond the header. -/
def extension (n : Nat) : Nat := if n < 126 then 0 else if n < 2 ^ 16 then 2 else 8

theorem length_serverFrame (text : List UInt8) :
    (serverFrame text).length = 2 + extension text.length + text.length := by
  unfold serverFrame extension
  split
  · simp only [List.length_append, List.length_cons, List.length_nil]
  · split <;> simp only [List.length_append, List.length_cons, length_bigEndian]

theorem readLength_eq_ok {short n : Nat} (hshort : short < 128)
    (h : readLength texts short s = (.ok n, rest)) :
    ∃ block, s = flow block ++ rest ∧ extension n ≤ block.length := by
  have hextended : ∀ {what : String} {k : Nat},
      (ofBigEndian <$> readExact texts what k) s = (.ok n, rest) →
        ∃ block, s = flow block ++ rest ∧ block.length = k ∧ n < 256 ^ k := by
    intro what k h
    obtain ⟨block, t, hread, hn⟩ := bind_eq_ok.mp h
    obtain ⟨rfl, rfl⟩ := pure_eq_ok.mp hn
    obtain ⟨rfl, hs⟩ := readExact_eq_ok hread
    exact ⟨block, hs, rfl, ofBigEndian_lt block⟩
  unfold readLength at h
  unfold extension
  split at h
  · obtain ⟨block, hs, hlength, hn⟩ := hextended h
    refine ⟨block, hs, ?_⟩
    split <;> try split
    all_goals omega
  · split at h
    · obtain ⟨block, hs, hlength, -⟩ := hextended h
      refine ⟨block, hs, ?_⟩
      split <;> try split
      all_goals omega
    · obtain ⟨rfl, rfl⟩ := pure_eq_ok.mp h
      refine ⟨[], rfl, ?_⟩
      rw [if_pos (by omega)]
      exact Nat.zero_le _

theorem readMask_eq_ok {masked : Bool} {mask : List UInt8}
    (h : readMask texts masked s = (.ok mask, rest)) : ∃ block, s = flow block ++ rest := by
  unfold readMask at h
  split at h
  · exact ⟨mask, (readExact_eq_ok h).2⟩
  · exact ⟨[], (pure_eq_ok.mp h).2⟩

/-- A frame takes at least as many bytes as the server's frame of its text. -/
theorem decodeTextFrame_eq_ok {text : List UInt8}
    (h : decodeTextFrame texts s = (.ok text, rest)) :
    ∃ block, s = flow block ++ rest ∧ (serverFrame text).length ≤ block.length := by
  obtain ⟨header, s₁, hheader, hbody⟩ := bind_eq_ok.mp h
  obtain ⟨hlength, rfl⟩ := readExact_eq_ok hheader
  split at hbody
  · cases hbody
  · split at hbody
    · cases hbody
    · obtain ⟨n, s₂, hn, hrest⟩ := bind_eq_ok.mp hbody
      obtain ⟨mask, s₃, hmask, hrest⟩ := bind_eq_ok.mp hrest
      obtain ⟨payload, s₄, hpayload, hrest⟩ := bind_eq_ok.mp hrest
      obtain ⟨htext, rfl⟩ := pure_eq_ok.mp hrest
      have hshort : (header.getD 1 0 &&& 0x7f).toNat < 128 := by
        rw [UInt8.toNat_and]
        exact Nat.lt_succ_of_le Nat.and_le_right
      obtain ⟨extended, rfl, hextended⟩ := readLength_eq_ok hshort hn
      obtain ⟨block, rfl⟩ := readMask_eq_ok hmask
      obtain ⟨hcount, rfl⟩ := readExact_eq_ok hpayload
      refine ⟨header ++ extended ++ block ++ payload, ?_, ?_⟩
      · simp only [flow_append, List.append_assoc]
      · have hsize : text.length = n := by
          rw [← htext, ← hcount]
          split
          · exact List.length_mapIdx
          · rfl
        rw [length_serverFrame, hsize]
        simp only [List.length_append]
        omega

/-- What a read makes of the stream when it fails: at its end, at a timeout that comes at once, or
with the loss of bytes. -/
def Loses (s rest : List Arrival) : Prop :=
  s = [] ∧ rest = [] ∨ s = .timeout :: rest ∨ (bytes rest).length < (bytes s).length

theorem Loses.length_le (h : Loses s rest) : (bytes rest).length ≤ (bytes s).length := by
  rcases h with ⟨rfl, rfl⟩ | rfl | hless
  · exact Nat.le_refl _
  · exact Nat.le_refl _
  · exact Nat.le_of_lt hless

theorem length_le_of_flow {block : List UInt8} (h : s = flow block ++ rest) :
    (bytes rest).length ≤ (bytes s).length := by
  rw [h, bytes_flow_append, List.length_append]
  exact Nat.le_add_left _ _

theorem readLength_eq_error {short : Nat}
    (h : readLength texts short s = (.error err, rest)) :
    (bytes rest).length ≤ (bytes s).length := by
  have hextended : ∀ {what : String} {k : Nat},
      (ofBigEndian <$> readExact texts what k) s = (.error err, rest) →
        (bytes rest).length ≤ (bytes s).length := by
    intro what k h
    rcases bind_eq_error.mp h with hread | ⟨block, t, hread, hpure⟩
    · exact Loses.length_le (readExact_eq_error hread).2
    · cases hpure
  unfold readLength at h
  split at h
  · exact hextended h
  · split at h
    · exact hextended h
    · cases h

theorem readMask_eq_error {masked : Bool} (h : readMask texts masked s = (.error err, rest)) :
    (bytes rest).length ≤ (bytes s).length := by
  unfold readMask at h
  split at h
  · exact Loses.length_le (readExact_eq_error h).2
  · cases h

theorem decodeTextFrame_eq_error (h : decodeTextFrame texts s = (.error err, rest)) :
    Loses s rest := by
  rcases bind_eq_error.mp h with hheader | ⟨header, s₁, hheader, hbody⟩
  · exact (readExact_eq_error hheader).2
  · -- the header is lost
    obtain ⟨hlength, hs⟩ := readExact_eq_ok hheader
    suffices hrest : (bytes rest).length ≤ (bytes s₁).length by
      refine .inr (.inr ?_)
      rw [hs, bytes_flow_append, List.length_append]
      omega
    split at hbody
    · cases hbody
      exact Nat.le_refl _
    · split at hbody
      · cases hbody
        exact Nat.le_refl _
      · rcases bind_eq_error.mp hbody with hn | ⟨n, s₂, hn, hbody⟩
        · exact readLength_eq_error hn
        obtain ⟨extended, hs₂, -⟩ := readLength_eq_ok (by
          rw [UInt8.toNat_and]
          exact Nat.lt_succ_of_le Nat.and_le_right) hn
        refine Nat.le_trans ?_ (length_le_of_flow hs₂)
        rcases bind_eq_error.mp hbody with hmask | ⟨mask, s₃, hmask, hbody⟩
        · exact readMask_eq_error hmask
        obtain ⟨block, hs₃⟩ := readMask_eq_ok hmask
        refine Nat.le_trans ?_ (length_le_of_flow hs₃)
        rcases bind_eq_error.mp hbody with hpayload | ⟨payload, s₄, _, hpure⟩
        · exact Loses.length_le (readExact_eq_error hpayload).2
        · cases hpure

theorem decodeTextFrame_nil :
    decodeTextFrame texts [] = (.error ("read websocket frame header: " ++ texts.timedOut), []) :=
  rfl

theorem decodeTextFrame_timeout (texts : WsTexts) (s : List Arrival) :
    decodeTextFrame texts (.timeout :: s) =
      (.error ("read websocket frame header: " ++ texts.timedOut), s) := rfl

theorem short_header : ∀ n < 128,
    UInt8.ofNat n &&& 0x80 = 0 ∧ (UInt8.ofNat n &&& 0x7f).toNat = n := by decide

theorem readLength_extended {k n : Nat} (hk : k = 2 ∨ k = 8) (h : n < 256 ^ k)
    (s : List Arrival) :
    readLength texts (if k = 2 then 126 else 127) (flow (bigEndian k n) ++ s) = (.ok n, s) := by
  have hread : ∀ what, (ofBigEndian <$> readExact texts what k) (flow (bigEndian k n) ++ s) =
      (.ok n, s) := by
    intro what
    refine bind_eq_ok.mpr ⟨_, _, readExact_of_flow what _ (length_bigEndian k n) s, ?_⟩
    change (Except.ok (ofBigEndian (bigEndian k n)), s) = _
    rw [ofBigEndian_bigEndian h]
  unfold readLength
  rcases hk with rfl | rfl
  · exact hread _
  · exact hread _

theorem decodeTextFrame_of_header {n : Nat} {text : List UInt8} (extended : List UInt8)
    (hn : n < 128)
    (hlength : ∀ s, readLength texts n (flow extended ++ s) = (.ok text.length, s))
    (s : List Arrival) :
    decodeTextFrame texts (flow (0x81 :: UInt8.ofNat n :: extended ++ text) ++ s) =
      (.ok text, s) := by
  obtain ⟨hmasked, hshort⟩ := short_header n hn
  have hheader : readExact texts "read websocket frame header" 2
      (flow (0x81 :: UInt8.ofNat n :: extended ++ text) ++ s) =
        (.ok [0x81, UInt8.ofNat n], flow extended ++ (flow text ++ s)) := by
    rw [← readExact_of_flow _ [0x81, UInt8.ofNat n] rfl]
    simp only [← List.append_assoc, ← flow_append]
    rfl
  refine bind_eq_ok.mpr ⟨_, _, hheader, ?_⟩
  have hopcode : [0x81, UInt8.ofNat n].getD 0 0 &&& 0x0f = 1 := by
    change (0x81 &&& 0x0f : UInt8) = 1
    decide
  rw [if_neg (by rw [hopcode]; decide), if_neg (by rw [hopcode]; decide)]
  refine bind_eq_ok.mpr ⟨text.length, flow text ++ s, ?_, ?_⟩
  · change readLength texts (UInt8.ofNat n &&& 0x7f).toNat _ = _
    rw [hshort]
    exact hlength _
  · have hunmasked : decide (UInt8.ofNat n &&& 0x80 ≠ 0) = false := by
      rw [hmasked]
      rfl
    refine bind_eq_ok.mpr ⟨[0, 0, 0, 0], flow text ++ s, ?_, ?_⟩
    · change readMask texts (decide (UInt8.ofNat n &&& 0x80 ≠ 0)) _ = _
      rw [hunmasked]
      rfl
    · refine bind_eq_ok.mpr ⟨text, s, readExact_of_flow _ text rfl s, ?_⟩
      change (Except.ok (if decide (UInt8.ofNat n &&& 0x80 ≠ 0) = true then _ else text), s) = _
      rw [hunmasked]
      rfl

theorem decodeTextFrame_serverFrame (texts : WsTexts) {text : List UInt8}
    (h : text.length < 2 ^ 63) (s : List Arrival) :
    decodeTextFrame texts (flow (serverFrame text) ++ s) = (.ok text, s) := by
  unfold serverFrame
  split
  · rename_i hshort
    refine decodeTextFrame_of_header [] (by omega) (fun s => ?_) s
    unfold readLength
    rw [if_neg (by omega), if_neg (by omega)]
    rfl
  · split
    · rename_i hmedium
      exact decodeTextFrame_of_header _ (by decide) (readLength_extended (.inl rfl) hmedium) s
    · have hlong : text.length < 256 ^ 8 := Nat.lt_trans h (by decide)
      exact decodeTextFrame_of_header _ (by decide) (readLength_extended (.inr rfl) hlong) s

end WsFrames

/-! ## Calls on a whole stream -/

variable {texts : WsTexts} {sent : List (List UInt8)} {s : List Arrival}

/-- Why a read of a frame that has not begun fails. -/
def WsTexts.idle (texts : WsTexts) : String := "read websocket frame header: " ++ texts.timedOut

theorem serverFrame_ne_nil (text : List UInt8) : serverFrame text ≠ [] := List.cons_ne_nil _ _

theorem Whole.bytes_eq (h : Whole sent s) : bytes s = sent.flatMap serverFrame := by
  induction h with
  | nil => rfl
  | timeout _ ih => exact ih
  | frame text _ ih => rw [bytes_flow_append, ih, List.flatMap_cons]

theorem Whole.eq_nil (h : Whole sent s) (hs : bytes s = []) : sent = [] := by
  rw [h.bytes_eq, List.flatMap_eq_nil_iff] at hs
  exact List.eq_nil_iff_forall_not_mem.mpr fun text ht => serverFrame_ne_nil text (hs text ht)

theorem whole_nil (h : bytes s = []) : Whole [] s := by
  induction s with
  | nil => exact .nil
  | cons arrival s ih =>
    cases arrival with
    | byte b => cases h
    | timeout => exact .timeout (ih h)

/-- Texts that the client reads as events. -/
structure Readable (texts : WsTexts) (sent : List (List UInt8)) : Prop where
  short : ∀ text ∈ sent, text.length < 2 ^ 63
  decoded : ∀ text ∈ sent, ∃ event, WsClient.decodeText texts text = .ok event

theorem Readable.of_append {sent₁ sent₂ : List (List UInt8)}
    (h : Readable texts (sent₁ ++ sent₂)) : Readable texts sent₂ where
  short text ht := h.short text (List.mem_append_right sent₁ ht)
  decoded text ht := h.decoded text (List.mem_append_right sent₁ ht)

theorem Readable.tail {text : List UInt8} (h : Readable texts (text :: sent)) :
    Readable texts sent where
  short text ht := h.short text (List.mem_cons_of_mem _ ht)
  decoded text ht := h.decoded text (List.mem_cons_of_mem _ ht)

namespace WsClient

theorem readEvent_ok {text : List UInt8} {event : ControlWsEvent} {rest : List Arrival}
    (hframe : WsFrames.decodeTextFrame texts s = (.ok text, rest))
    (hdecode : decodeText texts text = .ok event) :
    readEvent texts ⟨[], s⟩ = (.ok ⟨text, event⟩, ⟨[], rest⟩) := by
  unfold readEvent
  simp only [hframe, hdecode]
  rfl

theorem readEvent_error {err : String} {rest : List Arrival}
    (hframe : WsFrames.decodeTextFrame texts s = (.error err, rest)) :
    readEvent texts ⟨[], s⟩ = (.error err, ⟨[], rest⟩) := by
  unfold readEvent
  simp only [hframe]

theorem readEvent_undecoded {text : List UInt8} {err : String} {rest : List Arrival}
    (hframe : WsFrames.decodeTextFrame texts s = (.ok text, rest))
    (hdecode : decodeText texts text = .error err) :
    readEvent texts ⟨[], s⟩ = (.error err, ⟨[], rest⟩) := by
  unfold readEvent
  simp only [hframe, hdecode]
  rfl

/-- A read of a whole stream meets a timeout, or takes the first frame. -/
theorem readEvent_whole (h : Whole sent s) (hsent : Readable texts sent) :
    (∃ rest, readEvent texts ⟨[], s⟩ = (.error texts.idle, ⟨[], rest⟩) ∧ Whole sent rest) ∨
    ∃ message sent' rest, sent = message.text :: sent' ∧
      readEvent texts ⟨[], s⟩ = (.ok message, ⟨[], rest⟩) ∧ Whole sent' rest := by
  cases h with
  | nil => exact .inl ⟨[], readEvent_error WsFrames.decodeTextFrame_nil, .nil⟩
  | @timeout _ rest hrest =>
    exact .inl ⟨rest, readEvent_error (WsFrames.decodeTextFrame_timeout texts rest), hrest⟩
  | @frame sent' rest text hrest =>
    obtain ⟨event, hevent⟩ := hsent.decoded text List.mem_cons_self
    have hframe := WsFrames.decodeTextFrame_serverFrame texts
      (hsent.short text List.mem_cons_self) rest
    exact .inr ⟨⟨text, event⟩, sent', rest, rfl, readEvent_ok hframe hevent, hrest⟩

theorem drain_ok {client client' : WsClient} {message : WsMessage}
    (h : client.readEvent texts = (.ok message, client')) (events : List WsMessage) (limit : Nat) :
    client.drain texts events (limit + 1) = client'.drain texts (events ++ [message]) limit := by
  rw [drain, h]

theorem drain_error {client client' : WsClient} {err : String}
    (h : client.readEvent texts = (.error err, client')) (events : List WsMessage) (limit : Nat) :
    client.drain texts events (limit + 1) =
      if isControlWsTimeoutError err then (.ok events, client') else (.error err, client') := by
  rw [drain, h]

theorem drain_whole (hidle : isControlWsTimeoutError texts.idle = true) (h : Whole sent s)
    (hsent : Readable texts sent) (events : List WsMessage) (limit : Nat) :
    ∃ messages sent' rest, drain texts ⟨[], s⟩ events limit =
        (.ok (events ++ messages), ⟨[], rest⟩) ∧
      sent = messages.map WsMessage.text ++ sent' ∧ Whole sent' rest := by
  induction limit generalizing sent s events with
  | zero => exact ⟨[], sent, s, by rw [drain, List.append_nil], rfl, h⟩
  | succ limit ih =>
    rcases readEvent_whole h hsent with ⟨rest, hread, hrest⟩ | ⟨m, sent₁, rest, rfl, hread, hrest⟩
    · refine ⟨[], sent, rest, ?_, rfl, hrest⟩
      rw [drain_error hread, if_pos hidle, List.append_nil]
    · obtain ⟨messages, sent', rest', hdrain, rfl, hrest'⟩ :=
        ih hrest hsent.tail (events ++ [m])
      refine ⟨m :: messages, sent', rest', ?_, rfl, hrest'⟩
      rw [drain_ok hread, hdrain, List.append_assoc]
      rfl

/-- Where the timeout's text is not known, a long enough drain fails. -/
theorem drain_fails (hidle : isControlWsTimeoutError texts.idle = false) (h : Whole sent s)
    (hsent : Readable texts sent) (events : List WsMessage) {limit : Nat}
    (hlimit : sent.length < limit) :
    ∃ rest, drain texts ⟨[], s⟩ events limit = (.error texts.idle, ⟨[], rest⟩) ∧
      (bytes rest).length ≤ (bytes s).length := by
  induction limit generalizing sent s events with
  | zero => exact absurd hlimit (Nat.not_lt_zero _)
  | succ limit ih =>
    rcases readEvent_whole h hsent with ⟨rest, hread, hrest⟩ | ⟨m, sent₁, rest, rfl, hread, hrest⟩
    · refine ⟨rest, ?_, ?_⟩
      · rw [drain_error hread, hidle]
        rfl
      · rw [hrest.bytes_eq, h.bytes_eq]
    · obtain ⟨rest', hdrain, hless⟩ := ih hrest hsent.tail (events ++ [m])
        (Nat.lt_of_succ_lt_succ hlimit)
      refine ⟨rest', (drain_ok hread events limit).trans hdrain, Nat.le_trans hless ?_⟩
      rw [hrest.bytes_eq, h.bytes_eq, List.flatMap_cons, List.length_append]
      exact Nat.le_add_left _ _

end WsClient

namespace WsCall

theorem run_whole (hidle : sent ≠ [] → isControlWsTimeoutError texts.idle = true)
    (h : Whole sent s) (hsent : Readable texts sent) (call : WsCall) :
    ∃ messages sent' rest, call.run texts ⟨[], s⟩ = (messages, ⟨[], rest⟩) ∧
      sent = messages.map WsMessage.text ++ sent' ∧ Whole sent' rest := by
  cases call with
  | readEvent =>
    rcases WsClient.readEvent_whole h hsent with
      ⟨rest, hread, hrest⟩ | ⟨m, sent', rest, rfl, hread, hrest⟩
    · exact ⟨[], sent, rest, by rw [run, hread], rfl, hrest⟩
    · exact ⟨[m], sent', rest, by rw [run, hread], rfl, hrest⟩
  | drainPendingEvents limit =>
    by_cases hknown : isControlWsTimeoutError texts.idle = true
    · obtain ⟨messages, sent', rest, hdrain, hsplit, hrest⟩ :=
        WsClient.drain_whole hknown h hsent [] limit
      exact ⟨messages, sent', rest, by rw [run, WsClient.drainPendingEvents, hdrain]; rfl,
        hsplit, hrest⟩
    · -- nothing is sent, so that no drain has read an event when it fails
      obtain rfl : sent = [] := by
        by_contra hne
        exact hknown (hidle hne)
      cases limit with
      | zero => exact ⟨[], [], s, rfl, rfl, h⟩
      | succ limit =>
        rcases WsClient.readEvent_whole h hsent with ⟨rest, hread, hrest⟩ | ⟨_, _, _, hnil, _⟩
        · refine ⟨[], [], rest, ?_, rfl, hrest⟩
          rw [run, WsClient.drainPendingEvents, WsClient.drain_error hread, if_neg hknown]
        · cases hnil

theorem runAll_whole (hidle : sent ≠ [] → isControlWsTimeoutError texts.idle = true)
    (h : Whole sent s) (hsent : Readable texts sent) (calls : List WsCall) :
    ∃ messages sent' rest, runAll texts ⟨[], s⟩ calls = (messages, ⟨[], rest⟩) ∧
      sent = messages.map WsMessage.text ++ sent' ∧ Whole sent' rest := by
  induction calls generalizing sent s with
  | nil => exact ⟨[], sent, s, rfl, rfl, h⟩
  | cons call calls ih =>
    obtain ⟨messages, sent₁, rest₁, hrun, rfl, hrest₁⟩ := run_whole hidle h hsent call
    have hidle₁ : sent₁ ≠ [] → isControlWsTimeoutError texts.idle = true := fun hne =>
      hidle (List.append_ne_nil_of_right_ne_nil _ hne)
    obtain ⟨messages', sent', rest, hrunAll, rfl, hrest⟩ := ih hidle₁ hrest₁ hsent.of_append
    refine ⟨messages ++ messages', sent', rest, ?_, ?_, hrest⟩
    · simp only [runAll, hrun, hrunAll]
    · rw [List.map_append, List.append_assoc]

end WsCall

/-! ## Calls until nothing is left -/

namespace WsCall

/-- What reads return is no longer than the stream, and where it is as long, no read lost a byte. -/
structure ReadOut (texts : WsTexts) (s : List Arrival) (messages : List WsMessage) : Prop where
  decoded : ∀ message ∈ messages, WsClient.decodeText texts message.text = .ok message.event
  length_le : ((messages.map WsMessage.text).flatMap serverFrame).length ≤ (bytes s).length
  whole : bytes s = (messages.map WsMessage.text).flatMap serverFrame →
    Whole (messages.map WsMessage.text) s

variable {messages : List WsMessage} {rest : List Arrival}

theorem ReadOut.timeout (h : ReadOut texts s messages) :
    ReadOut texts (.timeout :: s) messages where
  decoded := h.decoded
  length_le := h.length_le
  whole hs := .timeout (h.whole hs)

theorem ReadOut.lost (h : ReadOut texts rest messages)
    (hless : (bytes rest).length < (bytes s).length) : ReadOut texts s messages where
  decoded := h.decoded
  length_le := Nat.le_trans h.length_le (Nat.le_of_lt hless)
  whole hs := by
    have hlength := h.length_le
    rw [← hs] at hlength
    exact absurd hless (Nat.not_lt_of_le hlength)

theorem ReadOut.frame (h : ReadOut texts rest messages) {message : WsMessage}
    {block : List UInt8} (hdecode : WsClient.decodeText texts message.text = .ok message.event)
    (hblock : (serverFrame message.text).length ≤ block.length) :
    ReadOut texts (flow block ++ rest) (message :: messages) where
  decoded := List.forall_mem_cons.mpr ⟨hdecode, h.decoded⟩
  length_le := by
    rw [List.map_cons, List.flatMap_cons, bytes_flow_append, List.length_append,
      List.length_append]
    exact Nat.add_le_add hblock h.length_le
  whole hs := by
    rw [List.map_cons, List.flatMap_cons, bytes_flow_append] at hs
    have htotal := congrArg List.length hs
    rw [List.length_append, List.length_append] at htotal
    have hlength := h.length_le
    obtain ⟨rfl, hrest⟩ := List.append_inj hs (by omega)
    exact .frame message.text (h.whole hrest)

theorem readOut_nil (h : bytes s = []) : ReadOut texts s [] where
  decoded _ hmem := absurd hmem List.not_mem_nil
  length_le := Nat.zero_le _
  whole _ := whole_nil h

theorem runAll_readEvent {client client' : WsClient} {message : WsMessage}
    (h : client.readEvent texts = (.ok message, client')) (calls : List WsCall) :
    runAll texts client (.readEvent :: calls) =
      (message :: (runAll texts client' calls).1, (runAll texts client' calls).2) := by
  simp only [runAll, run, h]
  rfl

theorem runAll_readEvent_error {client client' : WsClient} {err : String}
    (h : client.readEvent texts = (.error err, client')) (calls : List WsCall) :
    runAll texts client (.readEvent :: calls) = runAll texts client' calls := by
  simp only [runAll, run, h]
  rfl

/-- Enough reads use the stream up. -/
theorem exists_reads (texts : WsTexts) (s : List Arrival) :
    ∃ calls messages rest, runAll texts ⟨[], s⟩ calls = (messages, ⟨[], rest⟩) ∧
      bytes rest = [] ∧ ReadOut texts s messages := by
  -- a read takes bytes, or else one timeout
  induction hn : (bytes s).length using Nat.strong_induction_on generalizing s with
  | _ n ih =>
    induction s with
    | nil => exact ⟨[], [], [], rfl, rfl, readOut_nil rfl⟩
    | cons arrival s ihs =>
      cases arrival with
      | timeout =>
        obtain ⟨calls, messages, rest, hrun, hrest, hout⟩ := ihs hn
        refine ⟨.readEvent :: calls, messages, rest, ?_, hrest, hout.timeout⟩
        have hread := WsClient.readEvent_error (WsFrames.decodeTextFrame_timeout texts s)
        rw [runAll_readEvent_error hread, hrun]
      | byte b =>
        rcases hframe : WsFrames.decodeTextFrame texts (.byte b :: s) with ⟨err | text, rest₁⟩
        · have hless : (bytes rest₁).length < (bytes (.byte b :: s)).length := by
            rcases WsFrames.decodeTextFrame_eq_error hframe with ⟨h, -⟩ | h | h
            · cases h
            · cases h
            · exact h
          obtain ⟨calls, messages, rest, hrun, hrest, hout⟩ := ih _ (hn ▸ hless) rest₁ rfl
          refine ⟨.readEvent :: calls, messages, rest, ?_, hrest, hout.lost hless⟩
          rw [runAll_readEvent_error (WsClient.readEvent_error hframe), hrun]
        · obtain ⟨block, hs, hblock⟩ := WsFrames.decodeTextFrame_eq_ok hframe
          have hless : (bytes rest₁).length < (bytes (.byte b :: s)).length := by
            rw [hs, bytes_flow_append, List.length_append]
            have hpos := List.length_pos_of_ne_nil (serverFrame_ne_nil text)
            omega
          obtain ⟨calls, messages, rest, hrun, hrest, hout⟩ := ih _ (hn ▸ hless) rest₁ rfl
          rcases hdecode : WsClient.decodeText texts text with err | event
          · refine ⟨.readEvent :: calls, messages, rest, ?_, hrest, hout.lost hless⟩
            rw [runAll_readEvent_error (WsClient.readEvent_undecoded hframe hdecode), hrun]
          · refine ⟨.readEvent :: calls, ⟨text, event⟩ :: messages, rest, ?_, hrest, ?_⟩
            · rw [runAll_readEvent (WsClient.readEvent_ok hframe hdecode), hrun]
            · rw [hs]
              exact hout.frame hdecode hblock

/-- Where the timeout's text is not known, a drain loses the frames that it has read. -/
theorem exists_loss (hidle : isControlWsTimeoutError texts.idle = false) (h : Whole sent s)
    (hsent : Readable texts sent) (hne : sent ≠ []) :
    ∃ calls messages rest, runAll texts ⟨[], s⟩ calls = (messages, ⟨[], rest⟩) ∧
      bytes rest = [] ∧ messages.map WsMessage.text ≠ sent := by
  induction h with
  | nil => exact absurd rfl hne
  | @timeout sent s h ih =>
    obtain ⟨calls, messages, rest, hrun, hout⟩ := ih hsent hne
    refine ⟨.readEvent :: calls, messages, rest, ?_, hout⟩
    have hread := WsClient.readEvent_error (WsFrames.decodeTextFrame_timeout texts s)
    rw [runAll_readEvent_error hread, hrun]
  | @frame sent s text h _ =>
    obtain ⟨event, hevent⟩ := hsent.decoded text List.mem_cons_self
    have hframe := WsFrames.decodeTextFrame_serverFrame texts
      (hsent.short text List.mem_cons_self) s
    obtain ⟨rest₁, hdrain, hless⟩ := WsClient.drain_fails hidle h
      hsent.tail [⟨text, event⟩] (Nat.lt_succ_self _)
    obtain ⟨calls, messages, rest, hrun, hrest, hout⟩ := exists_reads texts rest₁
    refine ⟨.drainPendingEvents (sent.length + 2) :: calls, messages, rest, ?_, hrest, ?_⟩
    · have hfirst : run texts ⟨[], flow (serverFrame text) ++ s⟩
          (.drainPendingEvents (sent.length + 2)) = ([], ⟨[], rest₁⟩) := by
        have hread := WsClient.readEvent_ok hframe hevent
        have hall : WsClient.drainPendingEvents texts ⟨[], flow (serverFrame text) ++ s⟩
            (sent.length + 2) = (.error texts.idle, ⟨[], rest₁⟩) := by
          rw [WsClient.drainPendingEvents, WsClient.drain_ok hread]
          exact hdrain
        rw [run, hall]
      simp only [runAll, hfirst, hrun]
      rfl
    · intro hall
      have hlength := hout.length_le
      rw [hall, List.flatMap_cons, List.length_append, ← h.bytes_eq] at hlength
      have hpos := List.length_pos_of_ne_nil (serverFrame_ne_nil text)
      omega

end WsCall

/-! ## Which deliveries survive -/

theorem Delivery.Survives.all {d : Delivery} {calls : List WsCall} (h : d.Survives texts calls)
    (hread : bytes (WsCall.runAll texts d.client calls).2.stream = []) :
    (WsCall.runAll texts d.client calls).1.map WsMessage.text = d.sent := h.2 hread

theorem Delivery.survives_iff (texts : WsTexts) (d : Delivery) :
    (∀ calls, d.Survives texts calls) ↔
      (∀ text ∈ d.sent, ∃ event, WsClient.decodeText texts text = .ok event) ∧
      Whole d.sent d.arrivals ∧
      (d.sent ≠ [] → isControlWsTimeoutError texts.idle = true) := by
  constructor
  · intro h
    have hall : ∀ {calls messages rest},
        WsCall.runAll texts d.client calls = (messages, ⟨[], rest⟩) → bytes rest = [] →
          messages.map WsMessage.text = d.sent := by
      intro calls messages rest hrun hrest
      have hcalls := (h calls).all
      rw [hrun] at hcalls
      exact hcalls hrest
    obtain ⟨calls, messages, rest, hrun, hrest, hout⟩ := WsCall.exists_reads texts d.arrivals
    have hsent := hall hrun hrest
    have hwhole := hout.whole
    rw [hsent] at hwhole
    have hdecoded : ∀ text ∈ d.sent, ∃ event, WsClient.decodeText texts text = .ok event := by
      intro text ht
      rw [← hsent] at ht
      obtain ⟨message, hmessage, rfl⟩ := List.mem_map.mp ht
      exact ⟨message.event, hout.decoded message hmessage⟩
    refine ⟨hdecoded, hwhole d.complete, ?_⟩
    intro hne
    by_contra hidle
    -- otherwise a drain would lose the frames that it has read
    obtain ⟨calls, messages, rest, hrun, hrest, hloss⟩ := WsCall.exists_loss
      (Bool.eq_false_of_not_eq_true hidle) (hwhole d.complete) ⟨d.short, hdecoded⟩ hne
    exact hloss (hall hrun hrest)
  · rintro ⟨hdecoded, hwhole, hidle⟩ calls
    obtain ⟨messages, sent', rest, hrun, hsplit, hrest⟩ :=
      WsCall.runAll_whole hidle hwhole ⟨d.short, hdecoded⟩ calls
    unfold Delivery.Survives
    change WsCall.runAll texts d.client calls = _ at hrun
    rw [hrun, hsplit]
    refine ⟨List.prefix_append _ _, ?_⟩
    intro hs
    rw [hrest.eq_nil hs, List.append_nil]

/-! ## A timeout behind a header -/

def eventText : List UInt8 :=
  "\x7b\"type\":\"network_restart_required\",\"payload\":\x7b\"networkId\":\"net-1\"\x7d\x7d".toList.map
    fun c => UInt8.ofNat c.toNat

theorem length_eventText : eventText.length = 67 := by
  unfold eventText
  rw [String.toList_ofList]
  rfl

def eventJson : Json :=
  .obj [("type", .str "network_restart_required"), ("payload", .obj [("networkId", .str "net-1")])]

/-- Of the texts that come, only the event's is JSON. -/
def eventTexts : WsTexts where
  jsonError _ := "invalid payload"
  json _ := "null"
  parse text := if text = eventText then .ok eventJson else .error "expected value"
  timedOut := "Resource temporarily unavailable (os error 11)"

/-- The header comes, then nothing for a while, then the text. -/
def splitDelivery : Delivery where
  sent := [eventText]
  arrivals :=
    flow ((serverFrame eventText).take 2) ++ .timeout :: flow ((serverFrame eventText).drop 2)
  short text htext := by
    rw [List.mem_singleton.mp htext, length_eventText]
    decide
  complete := by
    rw [bytes_flow_append, bytes, bytes_flow, List.take_append_drop, List.flatMap_singleton]

/-- A drain, then reads until all bytes are read: the first of them takes the text for a header. -/
def splitCalls : List WsCall := .drainPendingEvents 16 :: List.replicate 34 .readEvent

theorem splitDelivery_not_survives : ¬ ∀ (texts : WsTexts) (d : Delivery),
    (∀ text ∈ d.sent, ∃ event, WsClient.decodeText texts text = .ok event) →
    isControlWsTimeoutError texts.idle = true → ∀ calls, d.Survives texts calls := by
  intro hclaim
  have hdecoded : ∀ text ∈ splitDelivery.sent, ∃ event,
      WsClient.decodeText eventTexts text = .ok event := by
    intro text ht
    obtain rfl := List.mem_singleton.mp ht
    exact ⟨.networkRestartRequired ⟨"net-1", 0, "", ""⟩, by rfl⟩
  obtain ⟨hidle, hread, hlost⟩ : isControlWsTimeoutError eventTexts.idle = true ∧
      bytes (WsCall.runAll eventTexts splitDelivery.client splitCalls).2.stream = [] ∧
      (WsCall.runAll eventTexts splitDelivery.client splitCalls).1.length = 0 := by decide +kernel
  have hall := (hclaim eventTexts splitDelivery hdecoded hidle splitCalls).all hread
  rw [List.length_eq_zero_iff.mp hlost] at hall
  cases hall

end Slan.Client
