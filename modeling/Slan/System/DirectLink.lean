import Slan.Lib.Transition
import Slan.Client.P2p
import Slan.Client.RelayClient

/-! # Packets over one direction of a direct TCP connection

The stream keeps all bytes and their order. How many of them have arrived when the other end polls
is open.
-/

namespace Slan.System

open Slan.Client Transition

structure DirectLink where
  sender : P2PState Unit
  receiver : P2PState Unit
  /-- Written, not yet arrived. -/
  inFlight : List UInt8
  /-- Arrived, not yet read. -/
  buffered : List UInt8
  /-- The sender's close has arrived, after all bytes. -/
  closeArrived : Bool
  sent : List (List UInt8)
  polled : List (List UInt8)
  /-- What polls gave that found the stream at its end. -/
  atEnd : List (Except PathManagerError (Option (List UInt8)))

inductive DirectAction where
  | send (packet : List UInt8)
  | arrive (n : Nat)
  | poll
  | close
  | closeArrives
  deriving DecidableEq, Repr

namespace DirectLink

/-- Both ends just after the connect. -/
def start (senderNodeId receiverNodeId : String) : DirectLink where
  sender := ⟨some (), some receiverNodeId⟩
  receiver := ⟨some (), some senderNodeId⟩
  inFlight := []
  buffered := []
  closeArrived := false
  sent := []
  polled := []
  atEnd := []

/-- `send_transport_packet` of the sender's path manager, on its direct path. -/
def sendResult (s : DirectLink) (packet : List UInt8) : Except PathManagerError (List UInt8) :=
  PathManager.sendTransportPacket (.p2p (s.sender.peerNodeId.getD ""))
    (fun _ => .error "derp pool has no active link")
    (fun packet => (SocketP2PConnector.sendTransportPacket s.sender packet).map Prod.snd)
    (fun _ => .error (.ofMessage "relay client has no active connection")) packet

/-- What a read finds. -/
def read (s : DirectLink) : StreamRead :=
  if s.buffered = [] then
    if s.closeArrived then .bytes [] else .wouldBlock
  else .bytes (s.buffered.take readBufferSize)

/-- `poll_transport_packet` of the receiver's path manager, on its direct path. -/
def pollResult (s : DirectLink) : Except PathManagerError (Option (List UInt8)) :=
  PathManager.pollTransportPacket (.p2p (s.receiver.peerNodeId.getD ""))
    (.error "derp pool has no active link")
    (SocketP2PConnector.pollTransportPacket s.receiver fun _ => s.read)
    (.error (.ofMessage "relay client has no active connection"))

/-- A call that fails leaves the link as it is. -/
def step (s : DirectLink) : DirectAction → Option DirectLink
  | .send packet =>
    match s.sendResult packet with
    | .ok bytes => some { s with sent := s.sent ++ [packet], inFlight := s.inFlight ++ bytes }
    | .error _ => some s
  | .arrive n =>
    if n ≤ s.inFlight.length then
      some { s with inFlight := s.inFlight.drop n, buffered := s.buffered ++ s.inFlight.take n }
    else none
  | .poll =>
    let s := if s.buffered = [] ∧ s.closeArrived then { s with atEnd := s.atEnd ++ [s.pollResult] }
      else s
    match s.pollResult with
    | .ok (some packet) =>
      some { s with polled := s.polled ++ [packet], buffered := s.buffered.drop readBufferSize }
    | _ => some s
  | .close => some { s with sender := { s.sender with activeStream := none } }
  | .closeArrives =>
    if s.sender.activeStream = none ∧ s.inFlight = [] then some { s with closeArrived := true }
    else none

/-- The polls give the packets that were sent, each with its own boundaries, and all of them once
no byte is left; at the end of the stream they give an error. -/
structure Preserves (s : DirectLink) : Prop where
  inOrder : s.polled <+: s.sent
  complete : s.inFlight = [] → s.buffered = [] → s.polled = s.sent
  noticed : ∀ result ∈ s.atEnd, result.isOk = false

/-- A poll finds as many bytes for its read as the next packet has, and none comes at the end. -/
def FindsWhole (s : DirectLink) : DirectAction → Prop
  | .poll =>
    if s.buffered = [] then s.closeArrived = false
    else (s.sent[s.polled.length]?).map List.length = some (min readBufferSize s.buffered.length)
  | _ => True

instance (s : DirectLink) (a : DirectAction) : Decidable (FindsWhole s a) := by
  cases a <;> dsimp only [FindsWhole] <;> infer_instance

/-! ## The calls -/

theorem sendResult_eq_ok {s : DirectLink} {packet bytes : List UInt8}
    (h : s.sendResult packet = .ok bytes) : packet ≠ [] ∧ bytes = packet := by
  unfold sendResult PathManager.sendTransportPacket SocketP2PConnector.sendTransportPacket at h
  by_cases hnil : packet = []
  · rw [if_pos hnil] at h
    cases h
  · refine ⟨hnil, ?_⟩
    cases hstream : s.sender.activeStream with
    | none => simp [hnil, hstream, Except.map, Except.mapError] at h
    | some stream =>
      simp only [hnil, hstream, if_false, Except.map, Except.mapError] at h
      exact (Except.ok.inj h).symm

/-- The receiver keeps its stream. -/
def Open (s : DirectLink) : Prop := s.receiver.activeStream = some ()

theorem pollResult_of_open {s : DirectLink} (h : s.Open) :
    s.pollResult =
      .ok (if s.buffered = [] then none else some (s.buffered.take readBufferSize)) := by
  unfold pollResult PathManager.pollTransportPacket SocketP2PConnector.pollTransportPacket read
  rw [show s.receiver.activeStream = some () from h]
  by_cases hbuf : s.buffered = []
  · cases s.closeArrived <;> simp [hbuf, Except.mapError]
  · have hne : s.buffered.take readBufferSize ≠ [] := by
      simp [List.take_eq_nil_iff, hbuf, readBufferSize]
    simp only [hbuf, if_false]
    cases htake : s.buffered.take readBufferSize with
    | nil => exact absurd htake hne
    | cons b bs => rfl

/-- Every action but a poll leaves what the receiver has taken alone, and adds whole packets to
the bytes on their way. -/
structure Quiet (s t : DirectLink) : Prop where
  receiver : t.receiver = s.receiver
  polled : t.polled = s.polled
  atEnd : t.atEnd = s.atEnd
  packets : ∃ packets, (∀ packet ∈ packets, packet ≠ []) ∧ t.sent = s.sent ++ packets ∧
    t.buffered ++ t.inFlight = s.buffered ++ s.inFlight ++ packets.flatten

theorem quiet_of_step {s t : DirectLink} {a : DirectAction} (ha : a ≠ .poll)
    (hstep : s.step a = some t) : Quiet s t := by
  have hnone : ∃ packets : List (List UInt8), (∀ packet ∈ packets, packet ≠ []) ∧
      s.sent = s.sent ++ packets ∧
      s.buffered ++ s.inFlight = s.buffered ++ s.inFlight ++ packets.flatten :=
    ⟨[], by simp⟩
  cases a with
  | send packet =>
    simp only [step] at hstep
    cases hresult : s.sendResult packet with
    | error err =>
      simp only [hresult, Option.some.injEq] at hstep
      exact hstep ▸ ⟨rfl, rfl, rfl, hnone⟩
    | ok bytes =>
      obtain ⟨hne, rfl⟩ := sendResult_eq_ok hresult
      simp only [hresult, Option.some.injEq] at hstep
      subst hstep
      refine ⟨rfl, rfl, rfl, [bytes], ?_, rfl, ?_⟩
      · intro packet hpacket
        exact List.mem_singleton.mp hpacket ▸ hne
      · rw [List.flatten_singleton, List.append_assoc]
  | arrive n =>
    simp only [step] at hstep
    split at hstep
    · obtain rfl := Option.some.inj hstep
      refine ⟨rfl, rfl, rfl, [], by simp, by simp, ?_⟩
      rw [List.flatten_nil, List.append_nil, List.append_assoc, List.take_append_drop]
    · cases hstep
  | poll => exact absurd rfl ha
  | close =>
    obtain rfl := Option.some.inj hstep
    exact ⟨rfl, rfl, rfl, hnone⟩
  | closeArrives =>
    simp only [step] at hstep
    split at hstep
    · obtain rfl := Option.some.inj hstep
      exact ⟨rfl, rfl, rfl, hnone⟩
    · cases hstep

/-- A poll takes at most a buffer of what has arrived; the end of the stream looks idle. -/
theorem step_poll {s : DirectLink} (h : s.Open) :
    s.step .poll = some (
      if s.buffered = [] then
        if s.closeArrived then { s with atEnd := s.atEnd ++ [.ok none] } else s
      else { s with
        polled := s.polled ++ [s.buffered.take readBufferSize]
        buffered := s.buffered.drop readBufferSize }) := by
  have hresult := pollResult_of_open h
  by_cases hbuf : s.buffered = []
  · rw [if_pos hbuf] at hresult
    have hatEnd : ∀ atEnd, ({ s with atEnd } : DirectLink).pollResult = .ok none := by
      intro atEnd
      exact hresult
    by_cases hclose : s.closeArrived = true
    · simp only [step, if_pos hbuf, if_pos hclose, if_pos (And.intro hbuf hclose), hresult,
        hatEnd]
    · have hnot : ¬ (s.buffered = [] ∧ s.closeArrived = true) := fun h => hclose h.2
      simp only [step, if_pos hbuf, if_neg hclose, if_neg hnot, hresult]
  · have hnot : ¬ (s.buffered = [] ∧ s.closeArrived = true) := fun h => hbuf h.1
    rw [if_neg hbuf] at hresult
    simp only [step, if_neg hbuf, if_neg hnot, hresult]

/-! ## Every byte is accounted for -/

structure Conserves (s : DirectLink) : Prop where
  isOpen : s.Open
  bytes : s.polled.flatten ++ (s.buffered ++ s.inFlight) = s.sent.flatten
  nonempty : ∀ packet ∈ s.sent, packet ≠ []

theorem conserves_start (senderNodeId receiverNodeId : String) :
    (start senderNodeId receiverNodeId).Conserves :=
  ⟨rfl, rfl, fun _ h => by cases h⟩

section Step

variable {s t : DirectLink} {a : DirectAction}

theorem Conserves.step (h : s.Conserves) (hstep : s.step a = some t) : t.Conserves := by
  by_cases ha : a = .poll
  · subst ha
    rw [step_poll h.isOpen] at hstep
    obtain rfl := Option.some.inj hstep
    split_ifs with hbuf hclose
    · exact ⟨h.isOpen, h.bytes, h.nonempty⟩
    · exact h
    · refine ⟨h.isOpen, ?_, h.nonempty⟩
      rw [← h.bytes, List.flatten_append, List.flatten_singleton, List.append_assoc,
        ← List.append_assoc (s.buffered.take readBufferSize), List.take_append_drop]
  · obtain ⟨hreceiver, hpolled, _, packets, hne, hsent, hbytes⟩ := quiet_of_step ha hstep
    refine ⟨?_, ?_, ?_⟩
    · exact (congrArg P2PState.activeStream hreceiver).trans h.isOpen
    · rw [hpolled, hbytes, hsent, List.flatten_append, ← h.bytes]
      simp only [List.append_assoc]
    · intro packet hpacket
      rw [hsent] at hpacket
      exact (List.mem_append.mp hpacket).elim (h.nonempty packet) (hne packet)

theorem eq_nil_of_flatten_eq_nil {packets : List (List UInt8)}
    (hne : ∀ packet ∈ packets, packet ≠ []) (h : packets.flatten = []) : packets = [] := by
  rw [List.eq_nil_iff_forall_not_mem]
  intro packet hpacket
  exact hne packet hpacket (List.flatten_eq_nil_iff.mp h packet hpacket)

/-- Packets that come in order are complete once their bytes are. -/
theorem Conserves.complete (h : s.Conserves) (horder : s.polled <+: s.sent)
    (hflight : s.inFlight = []) (hbuf : s.buffered = []) : s.polled = s.sent := by
  obtain ⟨rest, hrest⟩ := horder
  have hbytes := h.bytes
  rw [hflight, hbuf, ← hrest, List.flatten_append, List.append_nil,
    List.append_cancel_left_eq] at hbytes
  have hnil : rest = [] := eq_nil_of_flatten_eq_nil
    (fun packet hpacket => h.nonempty packet (hrest ▸ List.mem_append_right _ hpacket))
    hbytes.symm
  rw [← hrest, hnil, List.append_nil]

/-- A packet cannot have been polled before it was sent. -/
theorem Conserves.prefix_of_prefix_append (h : s.Conserves) {packets : List (List UInt8)}
    (hne : ∀ packet ∈ packets, packet ≠ []) (hpre : s.polled <+: s.sent ++ packets) :
    s.polled <+: s.sent := by
  rcases List.prefix_or_prefix_of_prefix hpre (List.prefix_append s.sent packets) with hpre' | hsub
  · exact hpre'
  · obtain ⟨extra, hextra⟩ := hsub
    have hbytes := h.bytes
    rw [← hextra, List.flatten_append, List.append_assoc] at hbytes
    have hflatten : extra.flatten = [] :=
      (List.append_eq_nil_iff.mp (List.append_right_eq_self.mp hbytes)).1
    rw [← hextra, List.prefix_append_right_inj] at hpre
    have hnil := eq_nil_of_flatten_eq_nil (fun packet hp => hne packet (hpre.subset hp)) hflatten
    have hpolled : s.polled = s.sent := by rw [← hextra, hnil, List.append_nil]
    exact hpolled ▸ List.prefix_rfl

/-! ## Which runs preserve the packets -/

theorem Conserves.preserves_of_step (h : s.Conserves) (hstep : s.step a = some t)
    (hpres : t.Preserves) : s.Preserves := by
  have horder : s.polled <+: s.sent ∧ ∀ result ∈ s.atEnd, result.isOk = false := by
    by_cases ha : a = .poll
    · subst ha
      rw [step_poll h.isOpen] at hstep
      obtain rfl := Option.some.inj hstep
      split_ifs at hpres with hbuf hclose
      · exact ⟨hpres.inOrder, fun result hresult =>
          hpres.noticed result (List.mem_append_left _ hresult)⟩
      · exact ⟨hpres.inOrder, hpres.noticed⟩
      · exact ⟨(List.prefix_append _ _).trans hpres.inOrder, hpres.noticed⟩
    · obtain ⟨_, hpolled, hatEnd, packets, hne, hsent, _⟩ := quiet_of_step ha hstep
      have hpre := hpres.inOrder
      rw [hpolled, hsent] at hpre
      exact ⟨h.prefix_of_prefix_append hne hpre, hatEnd ▸ hpres.noticed⟩
  exact ⟨horder.1, h.complete horder.1, horder.2⟩

/-- A poll after which the packets are still preserved found a whole one. -/
theorem Conserves.findsWhole (h : s.Conserves) (hstep : s.step a = some t)
    (hpres : t.Preserves) : FindsWhole s a := by
  cases a with
  | poll =>
    rw [step_poll h.isOpen] at hstep
    obtain rfl := Option.some.inj hstep
    unfold FindsWhole
    split_ifs at hpres ⊢ with hbuf hclose
    · have herr := hpres.noticed (.ok none) (List.mem_append_right _ List.mem_cons_self)
      cases herr
    · exact Bool.eq_false_iff.mpr hclose
    · have hget : s.sent[s.polled.length]? = some (s.buffered.take readBufferSize) := by
        obtain ⟨rest, hrest⟩ := hpres.inOrder
        have hrest : s.polled ++ [s.buffered.take readBufferSize] ++ rest = s.sent := hrest
        rw [← hrest]
        simp
      rw [hget, Option.map_some, List.length_take]
  | _ => trivial

/-- The bytes that have arrived start with the next packet, so a read of its length gives it. -/
theorem Conserves.take_eq (h : s.Conserves) (hpres : s.Preserves) {packet : List UInt8}
    (hpacket : s.sent[s.polled.length]? = some packet)
    (hlen : packet.length = min readBufferSize s.buffered.length) :
    s.buffered.take readBufferSize = packet ∧ s.polled ++ [packet] <+: s.sent := by
  obtain ⟨rest, hrest⟩ := hpres.inOrder
  rw [← hrest, List.getElem?_append_right (le_refl _), Nat.sub_self] at hpacket
  cases rest with
  | nil => simp at hpacket
  | cons next rest =>
    obtain rfl : next = packet := by simpa using hpacket
    have hbytes := h.bytes
    rw [← hrest, List.flatten_append, List.flatten_cons, List.append_cancel_left_eq] at hbytes
    constructor
    · calc s.buffered.take readBufferSize
          = s.buffered.take next.length := by rw [hlen, ← List.take_eq_take_min]
        _ = (s.buffered ++ s.inFlight).take next.length :=
            (List.take_append_of_le_length (hlen ▸ min_le_right _ _)).symm
        _ = next := by rw [hbytes, List.take_left]
    · refine ⟨rest, ?_⟩
      rw [List.append_assoc, List.singleton_append, hrest]

/-- A poll that finds a whole packet returns it. -/
theorem Conserves.preserves_step (h : s.Conserves) (hpres : s.Preserves) (hok : FindsWhole s a)
    (hstep : s.step a = some t) : t.Preserves := by
  have ht := h.step hstep
  have horder : t.polled <+: t.sent ∧ ∀ result ∈ t.atEnd, result.isOk = false := by
    by_cases ha : a = .poll
    · subst ha
      rw [step_poll h.isOpen] at hstep
      obtain rfl := Option.some.inj hstep
      unfold FindsWhole at hok
      split_ifs at hok ⊢ with hbuf hclose
      · rw [hok] at hclose
        cases hclose
      · exact ⟨hpres.inOrder, hpres.noticed⟩
      · obtain ⟨packet, hpacket, hlen⟩ := Option.map_eq_some_iff.mp hok
        obtain ⟨htake, hpre⟩ := h.take_eq hpres hpacket hlen
        exact ⟨htake.symm ▸ hpre, hpres.noticed⟩
    · obtain ⟨_, hpolled, hatEnd, packets, _, hsent, _⟩ := quiet_of_step ha hstep
      rw [hpolled, hsent, hatEnd]
      exact ⟨hpres.inOrder.trans (List.prefix_append _ _), hpres.noticed⟩
  exact ⟨horder.1, ht.complete horder.1, horder.2⟩

end Step

/-- The packets are preserved exactly in the runs where every read finds one of them. -/
theorem preserves_iff (senderNodeId receiverNodeId : String) {s : DirectLink}
    (h : Reachable (rel step) (start senderNodeId receiverNodeId) s) :
    s.Preserves ↔
      Reachable (guarded FindsWhole (rel step)) (start senderNodeId receiverNodeId) s := by
  have hcons : ∀ s, Reachable (rel step) (start senderNodeId receiverNodeId) s → s.Conserves := by
    intro s hs
    exact hs.invariant Conserves (conserves_start senderNodeId receiverNodeId)
      fun _ _ _ hs hstep => hs.step hstep
  constructor
  · intro hpres
    exact h.guarded_of_prefix Preserves hpres
      (fun s _ _ hs hstep ht => (hcons s hs).preserves_of_step hstep ht)
      (fun s _ _ hs hstep ht => (hcons s hs.of_guarded).findsWhole hstep ht)
  · intro hguard
    have hboth : s.Conserves ∧ s.Preserves := by
      refine hguard.invariant (fun s => s.Conserves ∧ s.Preserves) ⟨conserves_start _ _, ?_⟩ ?_
      · exact ⟨List.nil_prefix, fun _ _ => rfl, fun _ h => by cases h⟩
      · intro s a t hs hstep
        exact ⟨hs.1.step hstep.2, hs.1.preserves_step hs.2 hstep.1 hstep.2⟩
    exact hboth.2

/-! ## Two packets that arrive together -/

def coalescingRun : List DirectAction := [.send [1], .send [2], .arrive 2, .poll]

/-- One poll returns both. -/
theorem coalesced_packets_merge :
    ¬ ∀ s, Reachable (rel step) (start "node-a" "node-b") s → s.Preserves := by
  intro h
  have hrun : exec step (start "node-a" "node-b") coalescingRun =
      some (execD step (start "node-a" "node-b") coalescingRun) := exec_eq_execD (by decide)
  have hpres := h _ (Reachable.of_exec .start hrun)
  have hpolled : (execD step (start "node-a" "node-b") coalescingRun).polled = [[1, 2]] := by
    decide
  have hsent : (execD step (start "node-a" "node-b") coalescingRun).sent = [[1], [2]] := by
    decide
  have hpre := hpres.inOrder
  rw [hpolled, hsent] at hpre
  revert hpre
  decide

/-- Each packet polled before the next one arrives. -/
def alternatingRun : List DirectAction :=
  [.send [1], .send [2], .arrive 1, .poll, .arrive 1, .poll]

theorem preserves_iff_alternating :
    ∃ s, s.polled = [[1], [2]] ∧
      (s.Preserves ↔ Reachable (guarded FindsWhole (rel step)) (start "node-a" "node-b") s) := by
  have hrun : exec step (start "node-a" "node-b") alternatingRun =
      some (execD step (start "node-a" "node-b") alternatingRun) := exec_eq_execD (by decide)
  exact ⟨_, by decide, preserves_iff "node-a" "node-b" (Reachable.of_exec .start hrun)⟩

end DirectLink

end Slan.System
