import Slan.Relay.Runtime

/-! # What each request does to the runtime -/

namespace Slan.Relay

theorem RelaySession.peerOf_eq_ok {session : RelaySession} {deviceId peer : String} :
    session.peerOf deviceId = .ok peer ↔
      (deviceId = session.sourceDeviceId ∧ peer = session.targetDeviceId) ∨
        (deviceId ≠ session.sourceDeviceId ∧ deviceId = session.targetDeviceId ∧
          peer = session.sourceDeviceId) := by
  unfold peerOf
  by_cases hsource : session.sourceDeviceId = deviceId
  · simp [hsource, eq_comm]
  · by_cases htarget : session.targetDeviceId = deviceId
    · simp [hsource, Ne.symm hsource, htarget, eq_comm]
    · simp [hsource, Ne.symm hsource, htarget, Ne.symm htarget]

namespace RelayRuntime

/-- The address bound for a participant of a session. -/
def endpoint (rt : RelayRuntime) (sessionId participantId : String) : Option SocketAddr :=
  (rt.endpoints.get? sessionId).bind fun participants => participants.get? participantId

theorem endpoint_eq_some {rt : RelayRuntime} {sessionId participantId : String}
    {addr : SocketAddr} :
    rt.endpoint sessionId participantId = some addr ↔
      ∃ participants, rt.endpoints.get? sessionId = some participants ∧
        participants.get? participantId = some addr :=
  Option.bind_eq_some_iff

theorem get?_participants (rt : RelayRuntime) (sessionId participantId : String) :
    (rt.participants sessionId).get? participantId = rt.endpoint sessionId participantId := by
  unfold participants endpoint
  cases rt.endpoints.get? sessionId with
  | none => exact Table.get?_empty participantId
  | some participants => rfl

theorem endpoint_bindEndpoint (rt : RelayRuntime) (sessionId participantId sid p : String)
    (source : SocketAddr) :
    (rt.bindEndpoint sessionId participantId source).endpoint sid p =
      if sid = sessionId ∧ p = participantId then some source else rt.endpoint sid p := by
  rw [endpoint, bindEndpoint, Table.get?_put]
  by_cases hsid : sid = sessionId
  · subst hsid
    simp [Table.get?_put, get?_participants]
  · simp [hsid, endpoint]

/-! ## Attach -/

/-- The checks that an attach has to pass. -/
structure Admits (rt : RelayRuntime) (crates : Crates) (now : Int) (participantId : String)
    (ticket : RelayTicket) : Prop where
  party : participantId = ticket.srcNodeId ∨ participantId = ticket.dstNodeId
  valid : rt.relay.validator.validate crates.hmacSha256 now ticket = .ok ()
  fits : ∀ existing, rt.relay.store.get? ticket.sessionId = some existing →
    existing = ticketSession ticket

/-- The ticket's session in the store, from before or new. -/
def opened (rt : RelayRuntime) (ticket : RelayTicket) : RelayRuntime :=
  match rt.relay.store.get? ticket.sessionId with
  | some _ => rt
  | none =>
    { rt with relay := { rt.relay with
        store := rt.relay.store.put ticket.sessionId (ticketSession ticket) } }

@[simp] theorem endpoints_opened (rt : RelayRuntime) (ticket : RelayTicket) :
    (rt.opened ticket).endpoints = rt.endpoints := by
  unfold opened
  split <;> rfl

@[simp] theorem validator_opened (rt : RelayRuntime) (ticket : RelayTicket) :
    (rt.opened ticket).relay.validator = rt.relay.validator := by
  unfold opened
  split <;> rfl

theorem get?_store_opened {rt : RelayRuntime} {crates : Crates} {now : Int}
    {participantId : String} {ticket : RelayTicket} (h : rt.Admits crates now participantId ticket)
    (sid : String) :
    (rt.opened ticket).relay.store.get? sid =
      if sid = ticket.sessionId then some (ticketSession ticket) else rt.relay.store.get? sid := by
  unfold opened
  cases hstore : rt.relay.store.get? ticket.sessionId with
  | some existing =>
    by_cases hsid : sid = ticket.sessionId
    · simp only [hsid, if_true]
      rw [hstore, h.fits existing hstore]
    · simp [hsid]
  | none => exact Table.get?_put _ _ _ _

/-- An attach binds the source, or is refused and changes nothing. -/
theorem handleAttach_cases (rt : RelayRuntime) (crates : Crates) (now : Int) (source : SocketAddr)
    (participantId : String) (wire : RelayTicketWire) :
    (rt.Admits crates now participantId (toRelayTicket wire) ∧
      rt.handleAttach crates now source participantId wire =
        (rt.opened (toRelayTicket wire)).attached source participantId (toRelayTicket wire)) ∨
    (¬rt.Admits crates now participantId (toRelayTicket wire) ∧
      ∃ err, rt.handleAttach crates now source participantId wire = (.error err, rt)) := by
  unfold handleAttach
  generalize toRelayTicket wire = ticket
  by_cases hparty : participantId = ticket.srcNodeId ∨ participantId = ticket.dstNodeId
  swap
  · right
    refine ⟨fun h => hparty h.party, participantNotInTicket, ?_⟩
    simp only [not_or] at hparty
    simp [hparty]
  have hnot : ¬(participantId ≠ ticket.srcNodeId ∧ participantId ≠ ticket.dstNodeId) := by
    tauto
  simp only [hnot, if_false, UdpRelay.attachWithTicket]
  cases hvalid : rt.relay.validator.validate crates.hmacSha256 now ticket with
  | error e =>
    right
    refine ⟨fun h => ?_, relayRuntimeError e, ?_⟩
    · rw [h.valid] at hvalid
      cases hvalid
    · -- the validator's errors never take the branch of a session that exists
      have hne := rt.relay.validator.validate_ne_sessionAlreadyExists crates.hmacSha256 now ticket
      rw [hvalid] at hne
      cases e <;> first | rfl | exact absurd rfl hne
  | ok u =>
    cases hstore : rt.relay.store.get? ticket.sessionId with
    | none =>
      left
      refine ⟨⟨hparty, hvalid, fun existing h => by simp [hstore] at h⟩, ?_⟩
      simp [UdpRelay.attach, ticketSession, opened, hstore, bind, Except.bind]
    | some existing =>
      by_cases hfits : existing = ticketSession ticket
      · left
        refine ⟨⟨hparty, hvalid, fun other h => ?_⟩, ?_⟩
        · rw [hstore] at h
          exact (Option.some.inj h).symm.trans hfits
        · have hid : (ticketSession ticket).sessionId = ticket.sessionId := rfl
          simp [UdpRelay.attach, UdpRelay.session, opened, hid, hstore, hfits, bind, Except.bind]
      · right
        refine ⟨fun h => hfits (h.fits existing hstore), sessionConflict, ?_⟩
        have hid : (ticketSession ticket).sessionId = ticket.sessionId := rfl
        simp [UdpRelay.attach, UdpRelay.session, hid, hstore, hfits, bind, Except.bind]

/-! ## Forward -/

/-- What a forward needs: the sender and its peer bound, a payload that decodes to some bytes. -/
structure Delivers (rt : RelayRuntime) (source : SocketAddr)
    (sessionId fromParticipantId payloadB64 : String) (session : RelaySession) (peer : String)
    (peerAddr : SocketAddr) (payload : List UInt8) : Prop where
  bound : rt.endpoint sessionId fromParticipantId = some source
  decoded : Base64.decodeStandard payloadB64 = some payload
  nonempty : payload ≠ []
  stored : rt.relay.store.get? sessionId = some session
  peerOf : session.peerOf fromParticipantId = .ok peer
  peerBound : rt.endpoint sessionId peer = some peerAddr

/-- The reply to a forward that is passed on. -/
def forwardReply (sessionId fromParticipantId peer : String) (peerAddr : SocketAddr)
    (payload : List UInt8) : Reply :=
  (.forwarded ⟨sessionId, peer, payload.length⟩,
    some (peerAddr, .packet ⟨sessionId, fromParticipantId, Base64.encodeStandard payload⟩))

theorem handleForward_of_delivers {rt : RelayRuntime} {source : SocketAddr}
    {sessionId fromParticipantId payloadB64 : String} {session : RelaySession} {peer : String}
    {peerAddr : SocketAddr} {payload : List UInt8} (crates : Crates)
    (h : rt.Delivers source sessionId fromParticipantId payloadB64 session peer peerAddr payload) :
    rt.handleForward crates source sessionId fromParticipantId payloadB64 =
      .ok (forwardReply sessionId fromParticipantId peer peerAddr payload) := by
  obtain ⟨participants, hparticipants, hfrom⟩ := endpoint_eq_some.mp h.bound
  obtain ⟨participants', hparticipants', hpeer⟩ := endpoint_eq_some.mp h.peerBound
  obtain rfl : participants = participants' :=
    Option.some.inj (hparticipants.symm.trans hparticipants')
  simp [handleForward, hparticipants, hfrom, h.decoded, UdpRelay.forward, h.nonempty,
    UdpRelay.session, h.stored, h.peerOf, bind, Except.bind, pure, Except.pure, hpeer, forwardReply]

theorem handleForward_eq_ok {rt : RelayRuntime} {crates : Crates} {source : SocketAddr}
    {sessionId fromParticipantId payloadB64 : String} {reply : Reply} :
    rt.handleForward crates source sessionId fromParticipantId payloadB64 = .ok reply ↔
      ∃ session peer peerAddr payload,
        rt.Delivers source sessionId fromParticipantId payloadB64 session peer peerAddr payload ∧
          reply = forwardReply sessionId fromParticipantId peer peerAddr payload := by
  constructor
  · intro h
    unfold handleForward at h
    cases hparticipants : rt.endpoints.get? sessionId with
    | none => simp [hparticipants] at h
    | some participants =>
    cases hfrom : participants.get? fromParticipantId with
    | none => simp [hparticipants, hfrom] at h
    | some boundAddr =>
    by_cases haddr : boundAddr = source
    swap
    · simp [hparticipants, hfrom, haddr] at h
    subst haddr
    cases hdecoded : Base64.decodeStandard payloadB64 with
    | none => simp [hparticipants, hfrom, hdecoded] at h
    | some payload =>
    by_cases hempty : payload = []
    · simp [hparticipants, hfrom, hdecoded, UdpRelay.forward, hempty] at h
    cases hstored : rt.relay.store.get? sessionId with
    | none =>
      simp [hparticipants, hfrom, hdecoded, UdpRelay.forward, hempty, UdpRelay.session, hstored,
        bind, Except.bind] at h
    | some session =>
    cases hpeerOf : session.peerOf fromParticipantId with
    | error err =>
      simp [hparticipants, hfrom, hdecoded, UdpRelay.forward, hempty, UdpRelay.session, hstored,
        hpeerOf, bind, Except.bind] at h
    | ok peer =>
    cases hpeer : participants.get? peer with
    | none =>
      simp [hparticipants, hfrom, hdecoded, UdpRelay.forward, hempty, UdpRelay.session, hstored,
        hpeerOf, bind, Except.bind, pure, Except.pure, hpeer] at h
    | some peerAddr =>
      have hd : rt.Delivers boundAddr sessionId fromParticipantId payloadB64 session peer peerAddr
          payload :=
        ⟨endpoint_eq_some.mpr ⟨_, hparticipants, hfrom⟩, hdecoded, hempty, hstored, hpeerOf,
          endpoint_eq_some.mpr ⟨_, hparticipants, hpeer⟩⟩
      refine ⟨session, peer, peerAddr, payload, hd, ?_⟩
      have hok := handleForward_of_delivers crates hd
      simp [hparticipants, hfrom, hdecoded, UdpRelay.forward, hempty, UdpRelay.session, hstored,
        hpeerOf, bind, Except.bind, pure, Except.pure, hpeer] at h
      exact h.symm
  · rintro ⟨session, peer, peerAddr, payload, hd, rfl⟩
    exact handleForward_of_delivers crates hd

/-! ## Detach -/

/-- The bindings without one participant, and without the session once nobody is left. -/
def released (rt : RelayRuntime) (sessionId participantId : String) : RelayRuntime :=
  let rest := (rt.participants sessionId).remove participantId
  if rest.isEmpty then
    { relay := { rt.relay with store := rt.relay.store.remove sessionId }
      endpoints := rt.endpoints.remove sessionId }
  else { rt with endpoints := rt.endpoints.put sessionId rest }

/-- Nobody but the participant is bound to the session. -/
theorem isEmpty_rest (rt : RelayRuntime) (sessionId participantId : String) :
    ((rt.participants sessionId).remove participantId).isEmpty = true ↔
      ∀ p, p ≠ participantId → rt.endpoint sessionId p = none := by
  rw [Table.isEmpty_iff]
  refine forall_congr' fun p => ?_
  rw [Table.get?_remove, get?_participants]
  by_cases hp : p = participantId <;> simp [hp]

theorem endpoint_released (rt : RelayRuntime) (sessionId participantId sid p : String) :
    (rt.released sessionId participantId).endpoint sid p =
      if sid = sessionId ∧ p = participantId then none else rt.endpoint sid p := by
  unfold released
  dsimp only
  by_cases hempty : ((rt.participants sessionId).remove participantId).isEmpty = true
  · rw [if_pos hempty]
    by_cases hsid : sid = sessionId
    · subst hsid
      by_cases hp : p = participantId
      · simp [endpoint, hp]
      · simp [endpoint, hp]
        exact ((isEmpty_rest rt sid participantId).mp hempty p hp).symm
    · simp [endpoint, hsid, Table.get?_remove]
  · rw [if_neg hempty]
    by_cases hsid : sid = sessionId
    · subst hsid
      simp only [endpoint, Table.get?_put_self, Option.bind_some, Table.get?_remove,
        get?_participants, true_and]
    · simp [endpoint, hsid, Table.get?_put]

@[simp] theorem validator_released (rt : RelayRuntime) (sessionId participantId : String) :
    (rt.released sessionId participantId).relay.validator = rt.relay.validator := by
  unfold released
  dsimp only
  split <;> rfl

/-- A detach of a participant that is not bound to the source changes nothing. -/
theorem handleDetach_of_not_bound {rt : RelayRuntime} {source : SocketAddr}
    {sessionId participantId : String}
    (h : rt.endpoint sessionId participantId ≠ some source) :
    ∃ err, rt.handleDetach source sessionId participantId = (.error err, rt) := by
  unfold handleDetach
  cases hparticipants : rt.endpoints.get? sessionId with
  | none => exact ⟨_, rfl⟩
  | some participants =>
    cases hbound : participants.get? participantId with
    | none => exact ⟨participantNotAttached, by simp [hbound]⟩
    | some boundAddr =>
      have hne : boundAddr ≠ source := by
        rintro rfl
        exact h (endpoint_eq_some.mpr ⟨_, hparticipants, hbound⟩)
      exact ⟨participantAddressMismatch, by simp [hbound, hne]⟩

/-- A detach of a bound participant succeeds, the session being in the store. -/
theorem handleDetach_of_bound {rt : RelayRuntime} {source : SocketAddr}
    {sessionId participantId : String} {session : RelaySession}
    (h : rt.endpoint sessionId participantId = some source)
    (hstored : rt.relay.store.get? sessionId = some session) :
    rt.handleDetach source sessionId participantId =
      (.ok (.detached sessionId participantId, none), rt.released sessionId participantId) := by
  obtain ⟨participants, hparticipants, hbound⟩ := endpoint_eq_some.mp h
  have hrest : rt.participants sessionId = participants := by
    simp [RelayRuntime.participants, hparticipants]
  unfold handleDetach released
  simp only [hparticipants, hbound, hrest, UdpRelay.detach, hstored, ne_eq, not_true, if_false]
  split <;> rfl

end RelayRuntime

end Slan.Relay
