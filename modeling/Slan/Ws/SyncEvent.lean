import Slan.Ws.Messages

/-! # What another instance receives of an event

Only a candidate's two priorities are lost: they share a name, so neither is written. Every other
message is read back as it was written.
-/

namespace Slan.Ws

open GoJson

/-! ## Messages that come back -/

section Lawful

attribute [local simp] Field.always Field.omitting Field.copy

theorem Endpoint.lawful : Endpoint.codec.Lawful := by
  intro m
  refine restores_struct (by decide) ?_ ⟨rfl, rfl, rfl, trivial⟩ (by simp [fields, zero])
  simp only [fields, List.forall_mem_cons]
  exact ⟨lawful_text _, lawful_text _, lawful_int _, nofun⟩

theorem Peer.lawful : Peer.codec.Lawful := by
  intro m
  refine restores_struct (by decide) ?_
    ⟨rfl, rfl, rfl, rfl, rfl, rfl, rfl, rfl, trivial⟩
    (by simp [fields, zero])
  simp only [fields, List.forall_mem_cons]
  exact ⟨lawful_text _, lawful_text _, lawful_text _, lawful_text _, lawful_boolean _,
    lawful_slice lawful_text _, lawful_slice Endpoint.lawful _, lawful_slice lawful_text _, nofun⟩

theorem PeerUpdate.lawful : PeerUpdate.codec.Lawful := by
  intro m
  refine restores_struct (by decide) ?_ ⟨rfl, rfl, rfl, trivial⟩ (by simp [fields, zero])
  simp only [fields, List.forall_mem_cons]
  exact ⟨lawful_text _, lawful_uint64 _, Peer.lawful _, nofun⟩

theorem PeerRemove.lawful : PeerRemove.codec.Lawful := by
  intro m
  refine restores_struct (by decide) ?_ ⟨rfl, rfl, rfl, trivial⟩ (by simp [fields, zero])
  simp only [fields, List.forall_mem_cons]
  exact ⟨lawful_text _, lawful_uint64 _, lawful_text _, nofun⟩

theorem PathOption.lawful : PathOption.codec.Lawful := by
  intro m
  refine restores_struct (by decide) ?_ ⟨rfl, rfl, rfl, trivial⟩ (by simp [fields, zero])
  simp only [fields, List.forall_mem_cons]
  exact ⟨lawful_text _, lawful_text _, lawful_int _, nofun⟩

theorem RelayTicket.lawful : RelayTicket.codec.Lawful := by
  intro m
  refine restores_struct (by decide) ?_
    ⟨rfl, rfl, rfl, rfl, rfl, rfl, rfl, rfl, rfl, rfl, rfl, rfl, rfl, trivial⟩
    (by simp [fields, zero])
  simp only [fields, List.forall_mem_cons]
  exact ⟨lawful_text _, lawful_text _, lawful_text _, lawful_text _, lawful_text _, lawful_text _,
    lawful_text _, lawful_text _, lawful_slice lawful_text _, lawful_text _, lawful_text _,
    lawful_text _, lawful_text _, nofun⟩

theorem ConnectPlan.lawful : ConnectPlan.codec.Lawful := by
  intro m
  refine restores_struct (by decide) ?_
    ⟨rfl, rfl, rfl, rfl, rfl, rfl, trivial⟩
    (by simp [fields, zero])
  simp only [fields, List.forall_mem_cons]
  exact ⟨lawful_text _, lawful_boolean _, lawful_slice PathOption.lawful _, lawful_text _,
    lawful_slice lawful_text _, lawful_pointer RelayTicket.lawful struct_encode_ne_null _, nofun⟩

theorem NetworkRestartRequired.lawful : NetworkRestartRequired.codec.Lawful := by
  intro m
  refine restores_struct (by decide) ?_ ⟨rfl, rfl, rfl, rfl, trivial⟩ (by simp [fields, zero])
  simp only [fields, List.forall_mem_cons]
  exact ⟨lawful_text _, lawful_uint64 _, lawful_text _, lawful_text _, nofun⟩

theorem DeviceIPReassigned.lawful : DeviceIPReassigned.codec.Lawful := by
  intro m
  refine restores_struct (by decide) ?_ ⟨rfl, rfl, rfl, rfl, rfl, trivial⟩ (by simp [fields, zero])
  simp only [fields, List.forall_mem_cons]
  exact ⟨lawful_text _, lawful_text _, lawful_text _, lawful_text _, lawful_text _, nofun⟩

theorem ActiveNetworkEnabled.lawful : ActiveNetworkEnabled.codec.Lawful := by
  intro m
  refine restores_struct (by decide) ?_ ⟨rfl, rfl, rfl, trivial⟩ (by simp [fields, zero])
  simp only [fields, List.forall_mem_cons]
  exact ⟨lawful_text _, lawful_text _, lawful_text _, nofun⟩

/-! ## Candidates -/

namespace PeerCandidate

def unranked (candidate : PeerCandidate) : PeerCandidate :=
  { candidate with priority := 0, priorityRank := 0 }

theorem visible_fields : visible fields = (fields.eraseIdx 12).eraseIdx 7 := rfl

theorem decode_encode (candidate : PeerCandidate) :
    codec.decode (codec.encode candidate) = .ok candidate.unranked := by
  have hback : ∀ f ∈ visible fields, f.codec.Restores (f.get candidate) := by
    rw [visible_fields]
    simp only [fields, List.eraseIdx, List.forall_mem_cons]
    exact ⟨lawful_text _, lawful_text _, lawful_text _, lawful_int _, lawful_text _, lawful_text _,
      lawful_int _, lawful_text _, lawful_int _, lawful_text _, lawful_text _, nofun⟩
  have hblank : Blank candidate (visible fields) zero := by
    rw [visible_fields]
    exact ⟨rfl, rfl, rfl, rfl, rfl, rfl, rfl, rfl, rfl, rfl, rfl, trivial⟩
  refine (unmarshal_marshal hback hblank).trans (congrArg Except.ok ?_)
  rw [visible_fields]
  simp [fields, zero, unranked]

theorem encode_unranked (candidate : PeerCandidate) :
    codec.encode candidate.unranked = codec.encode candidate := rfl

/-- Whatever a candidate is read from, it has no priority. -/
theorem unranked_of_decode {v : Json} {candidate : PeerCandidate}
    (h : codec.decode v = .ok candidate) :
    candidate.priority = 0 ∧ candidate.priorityRank = 0 := by
  refine of_unmarshal (P := fun c : PeerCandidate => c.priority = 0 ∧ c.priorityRank = 0)
    ⟨rfl, rfl⟩ ?_ h
  rw [visible_fields]
  simp +contextual [fields]

end PeerCandidate

/-! ## Events -/

namespace ControlSyncEvent

def unranked (event : ControlSyncEvent) : ControlSyncEvent :=
  { event with candidate := event.candidate.map PeerCandidate.unranked }

theorem publish_unranked (event : ControlSyncEvent) : event.unranked.publish = event.publish := by
  obtain ⟨_, _, _, _, _, _, _, _, _, candidate, _, _, _, _⟩ := event
  cases candidate <;> rfl

theorem receive_publish (event : ControlSyncEvent) :
    receive event.publish = .ok event.unranked := by
  have hcandidate : (pointer PeerCandidate.codec).Restores event.unranked.candidate := by
    refine restores_pointer (fun c hc => ⟨?_, nofun⟩) struct_encode_ne_null
    obtain ⟨candidate, -, rfl⟩ := Option.map_eq_some_iff.mp hc
    exact PeerCandidate.decode_encode candidate.unranked
  have hback : codec.Restores event.unranked := by
    refine restores_struct (by decide) ?_
      ⟨rfl, rfl, rfl, rfl, rfl, rfl, rfl, rfl, rfl, rfl, rfl, rfl, rfl, rfl, trivial⟩
      (by simp [fields, zero])
    simp only [fields, List.forall_mem_cons]
    exact ⟨lawful_text _, lawful_text _, lawful_text _, lawful_text _, lawful_uint64 _,
      lawful_pointer Peer.lawful struct_encode_ne_null _, lawful_text _, lawful_text _,
      lawful_text _, hcandidate, lawful_pointer ConnectPlan.lawful struct_encode_ne_null _,
      lawful_pointer NetworkRestartRequired.lawful struct_encode_ne_null _,
      lawful_pointer DeviceIPReassigned.lawful struct_encode_ne_null _,
      lawful_pointer ActiveNetworkEnabled.lawful struct_encode_ne_null _, nofun⟩
  rw [← publish_unranked]
  exact hback.decode_encode

/-- The event has no candidate, or one whose two priorities are zero. -/
def Unranked (event : ControlSyncEvent) : Prop :=
  ∀ candidate ∈ event.candidate, candidate.priority = 0 ∧ candidate.priorityRank = 0

/-- An event comes back exactly where it gives no candidate a priority. -/
theorem receive_publish_iff (event : ControlSyncEvent) :
    receive event.publish = .ok event ↔ event.Unranked := by
  rw [receive_publish, Except.ok.injEq]
  obtain ⟨_, _, _, _, _, _, _, _, _, candidate, _, _, _, _⟩ := event
  simp only [unranked, Unranked, ControlSyncEvent.mk.injEq]
  cases candidate with
  | none => simp
  | some c =>
    cases c
    simp [PeerCandidate.unranked, eq_comm]

/-- A candidate of some priority, published as it is forwarded. -/
def ranked : ControlSyncEvent :=
  { zero with
    instanceId := "server-1", eventType := "peer_candidate", networkId := "net-1"
    sourceNodeId := "node-a", targetNodeId := "node-b"
    candidate := some { PeerCandidate.zero with
      peerNodeId := "node-b", candidateType := "reflexive", endpoint := "198.51.100.7:40000"
      priority := 100 } }

/-- The other instance is given a candidate of no priority. -/
theorem priority_lost : receive ranked.publish ≠ .ok ranked :=
  fun h => absurd (Except.ok.inj ((receive_publish ranked).symm.trans h)) (by decide)

end ControlSyncEvent

end Lawful

end Slan.Ws
