import Slan.Client.ControlEvents

/-! # Which runs lose no acknowledged control event -/

namespace Slan.Client

open Transition

namespace Sync

/-- An acknowledgement has been sent for the control event in the envelope of that number. -/
def Acknowledged (s : Sync) (n : Nat) : Prop :=
  ∃ e ∈ s.acked, e.1 = n ∧ e.2.isControlEvent = true

instance (s : Sync) (n : Nat) : Decidable (s.Acknowledged n) := by
  unfold Acknowledged
  infer_instance

/-- Every acknowledged control event has been applied, or is queued in the stored client. -/
def Kept (s : Sync) : Prop :=
  ∀ n, s.Acknowledged n → n ∈ s.applied ∨ ∃ received ∈ s.facade.queued, received.serial = n

/-- The same, with those that the running call still has. -/
def Accounted (s : Sync) : Prop := ∀ n, s.Acknowledged n → n ∈ s.locations

/-- A control event that is acknowledged can be decoded, and no acknowledged one is among the
events that the step throws away. -/
structure Careful (texts : ControlTexts) (s : Sync) (a : SyncAction) : Prop where
  decodes : ∀ e ∈ s.ackedBy a, e.2.isControlEvent = true →
    (decodeControlWsEvent texts e.2).isOk = true
  keeps : ∀ received ∈ s.lost texts a, ¬ s.Acknowledged received.serial

instance (texts : ControlTexts) (s : Sync) (a : SyncAction) : Decidable (Careful texts s a) :=
  decidable_of_iff
    ((∀ e ∈ s.ackedBy a, e.2.isControlEvent = true →
      (decodeControlWsEvent texts e.2).isOk = true) ∧
      ∀ received ∈ s.lost texts a, ¬ s.Acknowledged received.serial)
    ⟨fun h => ⟨h.1, h.2⟩, fun h => ⟨h.decodes, h.keeps⟩⟩

/-! ## One step -/

section Step

variable {texts : ControlTexts} {s t : Sync} {a : SyncAction}

theorem step_eq_some (hstep : s.step texts a = some t) :
    ∃ facade next, s.advance texts a = some (facade, next) ∧
      t = { facade, phase := phaseAfter next, reads := s.reads + readsBy a,
            acked := s.ackedBy a ++ s.acked
            applied := (s.appliedBy texts a).map Received.serial ++ s.applied } := by
  obtain ⟨⟨facade, next⟩, hadv, rfl⟩ := Option.map_eq_some_iff.mp hstep
  exact ⟨facade, next, hadv, rfl⟩

/-- The numbers of the events before and after a step. -/
theorem locations_step (hstep : s.step texts a = some t) :
    ((s.takenBy texts a).map Received.serial ++ s.locations).Perm
      ((s.lost texts a).map Received.serial ++ t.locations) := by
  obtain ⟨facade, next, hadv, rfl⟩ := step_eq_some hstep
  have hperm := (conserves hadv).map Received.serial
  rw [List.perm_iff_count] at hperm ⊢
  intro n
  have hcount := hperm n
  simp only [locations, inHand, List.map_append, List.count_append] at hcount ⊢
  omega

theorem takenBy_cases (texts : ControlTexts) (s : Sync) (a : SyncAction) :
    s.takenBy texts a = [] ∨ readsBy a = 1 ∧ ∃ event, s.takenBy texts a = [⟨s.reads, event⟩] := by
  unfold takenBy
  split
  · split
    · rename_i event _
      exact .inr ⟨rfl, event, rfl⟩
    · exact .inl rfl
  · exact .inl rfl

theorem mem_takenBy {n : Nat} (h : n ∈ (s.takenBy texts a).map Received.serial) :
    n = s.reads ∧ readsBy a = 1 := by
  rcases takenBy_cases texts s a with htaken | ⟨hreads, event, htaken⟩
  · rw [htaken] at h
    cases h
  · rw [htaken] at h
    exact ⟨List.mem_singleton.mp h, hreads⟩

theorem mem_ackedBy (texts : ControlTexts) {e : Nat × Envelope} (h : e ∈ s.ackedBy a) :
    e.1 = s.reads ∧ ∃ incoming failure, a = .read incoming failure ∧
      ControlWsClient.readEnvelope texts incoming = .ok e.2 := by
  unfold ackedBy at h
  split at h
  · rename_i incoming failure
    split at h
    · obtain ⟨envelope, hmem, rfl⟩ := List.mem_map.mp h
      have hacked := Option.mem_toList.mp hmem
      exact ⟨rfl, incoming, failure, rfl, ControlWsClient.readEnvelope_of_acknowledged hacked⟩
    · cases h
  · cases h

/-- An acknowledged control event is taken up exactly when it can be decoded. -/
theorem taken_iff_decodes {e : Nat × Envelope} (h : e ∈ s.ackedBy a)
    (hcontrol : e.2.isControlEvent = true) :
    s.reads ∈ (s.takenBy texts a).map Received.serial ↔
      (decodeControlWsEvent texts e.2).isOk = true := by
  obtain ⟨_, incoming, failure, rfl, hread⟩ := mem_ackedBy texts h
  have hevent := ControlWsClient.readEvent_of_readEnvelope hread
  have herror : e.2.msgType ≠ "error" := by
    intro heq
    rw [Envelope.isControlEvent, heq] at hcontrol
    revert hcontrol
    decide
  rw [if_neg herror] at hevent
  rw [takenBy, hevent]
  cases decodeControlWsEvent texts e.2 with
  | ok event => simp [Except.isOk, Except.toBool]
  | error err => simp [Except.isOk, Except.toBool]

/-- A step loses only what was there before it. -/
theorem mem_inHand_of_lost {received : Received} (h : received ∈ s.lost texts a) :
    received ∈ s.inHand := by
  unfold lost at h
  split at h
  · exact List.mem_append_right _ h
  · exact List.mem_append_left _ h
  · rename_i hphase _
    rw [inHand, hphase]
    exact List.mem_append_right _ (List.mem_filter.mp h).1
  · cases h

theorem readsBy_ackedBy {e : Nat × Envelope} (h : e ∈ s.ackedBy a) : readsBy a = 1 := by
  unfold ackedBy at h
  split at h
  · rfl
  · cases h

/-- The numbers are given in the order of the reads, and no event is in two places. -/
structure Numbered (s : Sync) : Prop where
  acked : ∀ e ∈ s.acked, e.1 < s.reads
  located : ∀ n ∈ s.locations, n < s.reads
  once : s.locations.Nodup

theorem Numbered.acknowledged (h : Numbered s) {n : Nat} (hn : s.Acknowledged n) :
    n < s.reads := by
  obtain ⟨e, hmem, rfl, _⟩ := hn
  exact h.acked e hmem

theorem Numbered.taken_once (h : Numbered s) :
    ((s.takenBy texts a).map Received.serial ++ s.locations).Nodup := by
  rw [List.nodup_append]
  refine ⟨?_, h.once, ?_⟩
  · rcases takenBy_cases texts s a with htaken | ⟨_, event, htaken⟩
    · rw [htaken]
      exact List.nodup_nil
    · rw [htaken]
      exact List.nodup_singleton _
  · intro n hn m hm heq
    have htaken := (mem_takenBy hn).1
    have hlocated := h.located m hm
    omega

theorem Numbered.step (h : Numbered s) (hstep : s.step texts a = some t) : Numbered t := by
  have hperm := locations_step hstep
  obtain ⟨facade, next, _, rfl⟩ := step_eq_some hstep
  refine ⟨fun e he => ?_, fun n hn => ?_, ?_⟩
  · dsimp only at he ⊢
    rcases List.mem_append.mp he with he | he
    · rw [readsBy_ackedBy he, (mem_ackedBy texts he).1]
      exact Nat.lt_succ_self _
    · have hbefore := h.acked e he
      omega
  · dsimp only
    rcases List.mem_append.mp (hperm.symm.subset (List.mem_append_right _ hn)) with hn | hn
    · obtain ⟨rfl, hreads⟩ := mem_takenBy hn
      omega
    · have hbefore := h.located n hn
      omega
  · exact (List.nodup_append.mp (hperm.nodup_iff.mp h.taken_once)).2.1

theorem acknowledged_step (hstep : s.step texts a = some t) {n : Nat} :
    t.Acknowledged n ↔
      s.Acknowledged n ∨ ∃ e ∈ s.ackedBy a, e.1 = n ∧ e.2.isControlEvent = true := by
  obtain ⟨facade, next, _, rfl⟩ := step_eq_some hstep
  constructor
  · rintro ⟨e, hmem, hnumber, hcontrol⟩
    rcases List.mem_append.mp hmem with hmem | hmem
    · exact .inr ⟨e, hmem, hnumber, hcontrol⟩
    · exact .inl ⟨e, hmem, hnumber, hcontrol⟩
  · rintro (⟨e, hmem, hnumber, hcontrol⟩ | ⟨e, hmem, hnumber, hcontrol⟩)
    · exact ⟨e, List.mem_append_right _ hmem, hnumber, hcontrol⟩
    · exact ⟨e, List.mem_append_left _ hmem, hnumber, hcontrol⟩

/-- A careful step keeps the account. -/
theorem Accounted.step (h : s.Accounted) (hnumbered : Numbered s) (hcareful : Careful texts s a)
    (hstep : s.step texts a = some t) : t.Accounted := by
  intro n hn
  have hperm := locations_step hstep
  rcases (acknowledged_step hstep).mp hn with hacked | ⟨e, hmem, hnumber, hcontrol⟩
  · have hbefore : n ∈ (s.takenBy texts a).map Received.serial ++ s.locations :=
      List.mem_append_right _ (h n hacked)
    rcases List.mem_append.mp (hperm.subset hbefore) with hlost | hkept
    · obtain ⟨received, hreceived, rfl⟩ := List.mem_map.mp hlost
      exact absurd hacked (hcareful.keeps received hreceived)
    · exact hkept
  · have hreads : n = s.reads := hnumber.symm.trans (mem_ackedBy texts hmem).1
    have htaken : n ∈ (s.takenBy texts a).map Received.serial := by
      rw [hreads]
      exact (taken_iff_decodes hmem hcontrol).mpr (hcareful.decodes e hmem hcontrol)
    rcases List.mem_append.mp (hperm.subset (List.mem_append_left _ htaken)) with hlost | hkept
    · obtain ⟨received, hreceived, rfl⟩ := List.mem_map.mp hlost
      have hlocated : received.serial ∈ s.locations :=
        List.mem_append_right _ (List.mem_map_of_mem (mem_inHand_of_lost hreceived))
      have hbefore := hnumbered.located received.serial hlocated
      omega
    · exact hkept

/-- What is accounted for after a step was so before. -/
theorem Accounted.of_step (h : t.Accounted) (hnumbered : Numbered s)
    (hstep : s.step texts a = some t) : s.Accounted := by
  intro n hn
  have hkept := h n ((acknowledged_step hstep).mpr (.inl hn))
  rcases List.mem_append.mp ((locations_step hstep).symm.subset (List.mem_append_right _ hkept))
    with htaken | hbefore
  · have hreads := (mem_takenBy htaken).1
    have hnumber := hnumbered.acknowledged hn
    omega
  · exact hbefore

/-- A step after which all is accounted for was careful. -/
theorem Accounted.careful (h : t.Accounted) (hnumbered : Numbered s)
    (hstep : s.step texts a = some t) : Careful texts s a where
  decodes e he hcontrol := by
    have hnumber := (mem_ackedBy texts he).1
    have hkept := h e.1 ((acknowledged_step hstep).mpr (.inr ⟨e, he, rfl, hcontrol⟩))
    apply (taken_iff_decodes he hcontrol).mp
    rcases List.mem_append.mp ((locations_step hstep).symm.subset (List.mem_append_right _ hkept))
      with htaken | hbefore
    · rw [← hnumber]
      exact htaken
    · have hlocated := hnumbered.located e.1 hbefore
      omega
  keeps received hreceived hacked := by
    have hkept := h received.serial ((acknowledged_step hstep).mpr (.inl hacked))
    have hlost : received.serial ∈ (s.lost texts a).map Received.serial :=
      List.mem_map_of_mem hreceived
    have hnodup := (locations_step hstep).nodup_iff.mp hnumbered.taken_once
    exact (List.nodup_append.mp hnodup).2.2 _ hlost _ hkept rfl

end Step

/-! ## Runs -/

section Run

variable {texts : ControlTexts} {state : AppCoreSnapshot} {currentTunnel : Option String}
  {s : Sync}

theorem numbered_start : Numbered (start state currentTunnel) := by
  refine ⟨?_, ?_, ?_⟩ <;> simp [start, locations, inHand, Facade.queued, SyncPhase.held]

theorem numbered_of_reachable
    (hrun : Reachable (rel (Sync.step texts)) (start state currentTunnel) s) : Numbered s :=
  hrun.invariant Numbered numbered_start fun _ _ _ h hstep => h.step hstep

theorem accounted_of_careful
    (hrun : Reachable (guarded (Careful texts) (rel (Sync.step texts)))
      (start state currentTunnel) s) : s.Accounted := by
  have hboth : Numbered s ∧ s.Accounted := by
    apply hrun.invariant (fun s => Numbered s ∧ s.Accounted)
    · refine ⟨numbered_start, fun n hn => ?_⟩
      obtain ⟨e, hmem, _⟩ := hn
      cases hmem
    · rintro s a t ⟨hnumbered, hs⟩ ⟨hcareful, hstep⟩
      exact ⟨hnumbered.step hstep, hs.step hnumbered hcareful hstep⟩
  exact hboth.2

/-- A run ends with all accounted for only if it was careful in every step. -/
theorem careful_of_accounted
    (hrun : Reachable (rel (Sync.step texts)) (start state currentTunnel) s) (h : s.Accounted) :
    Reachable (guarded (Careful texts) (rel (Sync.step texts))) (start state currentTunnel) s := by
  apply hrun.guarded_of_prefix Accounted h
  · intro s a t hs hstep ht
    exact ht.of_step (numbered_of_reachable hs) hstep
  · intro s a t hs hstep ht
    exact ht.careful (numbered_of_reachable hs.of_guarded) hstep

theorem kept_iff_accounted (hidle : s.phase = .idle) : s.Kept ↔ s.Accounted := by
  have hheld : s.phase.held = [] := by
    rw [hidle]
    rfl
  apply forall₂_congr
  intro n _
  rw [locations, inHand, hheld, List.append_nil, List.mem_append, List.mem_map]

/-- Between two calls no acknowledged control event is missing exactly when the run was careful:
whatever it acknowledged could be decoded, no call returned with an error while it held an
acknowledged event, no connection was replaced with one in its queue, and no switch to another
network came with one. -/
theorem careful_iff_kept (hidle : s.phase = .idle) :
    Reachable (guarded (Careful texts) (rel (Sync.step texts))) (start state currentTunnel) s ↔
      Reachable (rel (Sync.step texts)) (start state currentTunnel) s ∧ s.Kept := by
  constructor
  · intro hrun
    exact ⟨hrun.of_guarded, (kept_iff_accounted hidle).mpr (accounted_of_careful hrun)⟩
  · rintro ⟨hrun, hkept⟩
    exact careful_of_accounted hrun ((kept_iff_accounted hidle).mp hkept)

/-! ## A first connection -/

instance : (phase : SyncPhase) → Decidable (phase = .idle)
  | .idle => isTrue rfl
  | .pinging _ => isFalse SyncPhase.noConfusion
  | .requesting _ => isFalse SyncPhase.noConfusion
  | .connecting _ => isFalse SyncPhase.noConfusion
  | .greeting _ _ => isFalse SyncPhase.noConfusion
  | .mapping _ _ _ => isFalse SyncPhase.noConfusion
  | .draining _ _ _ _ _ => isFalse SyncPhase.noConfusion
  | .finishing _ _ _ => isFalse SyncPhase.noConfusion
  | .reapplying _ => isFalse SyncPhase.noConfusion

def sampleTexts : ControlTexts where
  jsonError _ := "invalid payload"
  json _ := "null"

def sampleMap : NetworkMap where
  selfUserId := "user-1"
  selfDeviceId := "device-a"
  selfNodeId := "node-a"
  networkId := "net-1"
  revision := 3
  heartbeatSeconds := 15
  stunServers := []
  peers := []
  routes := []
  relayRegions := []
  dns := ⟨[], []⟩
  mtu := none

def sampleState : AppCoreSnapshot where
  session := some ⟨"user-1", "token-1"⟩
  currentDevice := some ⟨"device-a", none⟩
  currentNode := some ⟨"node-a", "key-a", []⟩
  tunnelKeyMaterial := none
  currentBootstrap :=
    some ⟨⟨"device-a", none⟩, ⟨"ws://control:8080/ws", some "cs-1", 15⟩, some sampleMap⟩
  currentNetworkId := some "net-1"
  currentConnectPlans := ∅
  activePath := none
  tunnelPeerVirtualIp := none
  tunnelRuntime := none

def helloAckFrame : Incoming :=
  .frame (.obj [("type", .str "node_hello_ack"), ("payload", .obj
    [("controlSessionId", .str "session-1"), ("heartbeatSeconds", .num 15),
      ("networkRevision", .num 3)])]) false

def networkMapFrame : Incoming :=
  .frame (.obj [("type", .str "network_map_response"), ("payload", .obj [("map", .obj
    [("selfUserId", .str "user-1"), ("selfDeviceId", .str "device-a"),
      ("selfNodeId", .str "node-a"), ("networkId", .str "net-1"), ("revision", .num 3),
      ("heartbeatSeconds", .num 15), ("dns", .obj [])])])]) false

/-- A peer has left; the client acknowledges the message. -/
def peerRemoveFrame : Incoming :=
  .frame (.obj [("type", .str "peer_remove"), ("messageId", .str "msg-1"), ("payload", .obj
    [("networkId", .str "net-1"), ("revision", .num 4), ("peerNodeId", .str "node-b")])]) true

def sampleController : Controller where
  activateNetwork _ _ _ := .ok ()
  bootstrap _ _ _ := .error "controller unreachable"

/-- The client connects, reads both answers, and drains the event. -/
def drainingRun : List SyncAction :=
  [.call none, .connect (.ok ()) none, .read helloAckFrame none, .read networkMapFrame none,
    .read peerRemoveFrame none]

/-- Then nothing more comes in time, and the snapshot is updated. -/
def keptRun : List SyncAction :=
  drainingRun ++ [.read (.failed "Resource temporarily unavailable (os error 11)") none,
    .finish sampleController]

/-- Then the server resets the connection. -/
def resetRun : List SyncAction :=
  drainingRun ++ [.read (.failed "Connection reset by peer (os error 104)") none]

def keptEnd : Sync :=
  execD (fun s a => if Careful sampleTexts s a then s.step sampleTexts a else none)
    (start sampleState none) keptRun

def resetEnd : Sync := execD (Sync.step sampleTexts) (start sampleState none) resetRun

theorem keptRun_kept : keptEnd.Acknowledged 2 ∧ keptEnd.Kept := by
  obtain ⟨hexec, hidle, hacked⟩ :
      (exec (fun s a => if Careful sampleTexts s a then s.step sampleTexts a else none)
        (start sampleState none) keptRun).isSome = true ∧
      keptEnd.phase = .idle ∧ keptEnd.Acknowledged 2 := by decide
  have hrun : Reachable (guarded (Careful sampleTexts) (rel (Sync.step sampleTexts)))
      (start sampleState none) keptEnd := .of_execGuarded (exec_eq_execD hexec)
  exact ⟨hacked, ((careful_iff_kept hidle).mp hrun).2⟩

theorem resetRun_not_kept : ¬ ∀ (texts : ControlTexts) (state : AppCoreSnapshot)
    (currentTunnel : Option String) (s : Sync),
    Reachable (rel (Sync.step texts)) (start state currentTunnel) s → s.phase = .idle → s.Kept := by
  intro hclaim
  obtain ⟨hexec, hidle, hacked, hlost⟩ :
      (exec (Sync.step sampleTexts) (start sampleState none) resetRun).isSome = true ∧
        resetEnd.phase = .idle ∧ resetEnd.Acknowledged 2 ∧
        ¬(2 ∈ resetEnd.applied ∨ ∃ received ∈ resetEnd.facade.queued, received.serial = 2) := by
    decide
  have hrun : Reachable (rel (Sync.step sampleTexts)) (start sampleState none) resetEnd :=
    .of_exec .start (exec_eq_execD hexec)
  exact hlost (hclaim sampleTexts sampleState none resetEnd hrun hidle 2 hacked)

end Run

end Sync

end Slan.Client
