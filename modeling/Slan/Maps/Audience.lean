import Slan.Maps.OnlineDevices

/-! # To whom the handlers send what

An event for a network is to be of one of its members, and one for a node may go to any of the
node's connections: it has to be of a member of the networks that these are in.
-/

namespace Slan.Maps

open Control (ControlWSHub ControlWSSession WsSession)
open Networks (Failure Store)

/-! ## What may be sent -/

/-- Who has caused it is a member of the network; a candidate also names who that is. -/
def Payload.FromMember (s : Store) (networkId source : String) : Payload → Prop
  | .peerCandidate candidate => isMember s networkId source = true ∧ candidate.peerNodeId = source
  | .peerUpdate .. | .peerRemove .. | .connectPlan _ => isMember s networkId source = true
  | _ => True

/-- The node that an event is for, if it is for one. -/
def ControlSyncEvent.target? : ControlSyncEvent → Option String
  | peerCandidate _ _ targetNodeId _ => some targetNodeId
  | connectPlan _ _ targetNodeId _ => some targetNodeId
  | _ => none

/-- An event for a network is of one of its members. -/
def ControlSyncEvent.Announced (s : Store) : ControlSyncEvent → Prop
  | peerUpdate networkId sourceNodeId _ _ => isMember s networkId sourceNodeId = true
  | peerRemove networkId sourceNodeId _ => sourceNodeId ≠ "" → networkId ≠ "" →
    isMember s networkId sourceNodeId = true
  | _ => True

def Dispatch.event : Dispatch → ControlSyncEvent
  | fanout event => event
  | here event => event
  | publish event => event
  | again event => event

section Fits

variable (s : Store) (connections : Nat → Option WsSession)

/-- Something may be sent to a node on whichever connection it is. -/
def Addressed (nodeId source : String) (payload : Payload) : Prop :=
  ∀ c session, connections c = some session → session.nodeId = nodeId → nodeId ≠ "" →
    payload.FromMember s session.networkId source

structure ControlSyncEvent.Fits (event : ControlSyncEvent) : Prop where
  announced : event.Announced s
  addressed : ∀ nodeId, event.target? = some nodeId →
    Addressed s connections nodeId event.source event.payload

end Fits

/-- A hub has connections that are open, each as it is, by the names of their nodes. -/
def Current (connections : Nat → Option WsSession) (hub : ControlWSHub) : Prop :=
  ∀ nodeId entry, hub.session nodeId = some entry →
    connections entry.connection = some entry.session ∧ entry.session.nodeId = nodeId ∧ nodeId ≠ ""

/-- A node is in one network on all its connections. -/
def Uniform (connections : Nat → Option WsSession) : Prop :=
  ∀ c c' session session', connections c = some session → connections c' = some session' →
    session.nodeId = session'.nodeId → session.nodeId ≠ "" → session.networkId = session'.networkId

section Fits

variable {s t : Store} {connections : Nat → Option WsSession} {hub : ControlWSHub}
  {networkId source : String} {payload : Payload} {event : ControlSyncEvent}

theorem Payload.FromMember.mono (h : payload.FromMember s networkId source)
    (hkeeps : isMember s networkId source = true → isMember t networkId source = true) :
    payload.FromMember t networkId source := by
  cases payload with
  | peerCandidate candidate => exact ⟨hkeeps h.1, h.2⟩
  | peerUpdate _ _ _ | peerRemove _ _ _ | connectPlan _ => exact hkeeps h
  | _ => trivial

theorem ControlSyncEvent.Fits.mono (h : event.Fits s connections)
    (hkeeps : ∀ networkId, isMember s networkId event.source = true →
      isMember t networkId event.source = true) : event.Fits t connections where
  announced := by
    have hannounced := h.announced
    cases event with
    | peerUpdate networkId sourceNodeId revision peer => exact hkeeps networkId hannounced
    | peerRemove networkId sourceNodeId revision =>
      exact fun hsource hnetwork => hkeeps networkId (hannounced hsource hnetwork)
    | _ => trivial
  addressed nodeId htarget c session hopen hnode hnamed :=
    (h.addressed nodeId htarget c session hopen hnode hnamed).mono (hkeeps session.networkId)

theorem ControlSyncEvent.Fits.same (h : event.Fits s connections) (hsame : SameNetworks s t) :
    event.Fits t connections :=
  h.mono fun networkId hmember => (hsame.isMember networkId event.source).trans hmember

theorem Addressed.update {nodeId : String} (h : Addressed s connections nodeId source payload)
    {c : Nat} {after : Option WsSession}
    (hnew : ∀ session, after = some session → session.nodeId = nodeId → nodeId ≠ "" →
      payload.FromMember s session.networkId source) :
    Addressed s (Function.update connections c after) nodeId source payload := by
  intro c' session hopen hnode hnamed
  by_cases hc : c' = c
  · rw [hc, Function.update_self] at hopen
    exact hnew session hopen hnode hnamed
  · rw [Function.update_of_ne hc] at hopen
    exact h c' session hopen hnode hnamed

theorem ControlSyncEvent.Fits.of_reaches (h : event.Fits s connections) {c : Nat}
    {session : WsSession} (hopen : connections c = some session)
    (hreached : event.reaches session = true) :
    event.payload.FromMember s session.networkId event.source := by
  cases event with
  | peerUpdate networkId sourceNodeId revision peer =>
    simp only [ControlSyncEvent.reaches, Bool.and_eq_true, beq_iff_eq] at hreached
    rw [hreached.2.1]
    exact h.announced
  | peerRemove networkId sourceNodeId revision =>
    simp only [ControlSyncEvent.reaches, Bool.and_eq_true, beq_iff_eq, bne_iff_ne] at hreached
    obtain ⟨_, ⟨hsource, hnetwork⟩, hsame, _⟩ := hreached
    rw [hsame]
    exact h.announced hsource hnetwork
  | peerCandidate networkId sourceNodeId targetNodeId candidate =>
    simp only [ControlSyncEvent.reaches, Bool.and_eq_true, beq_iff_eq, bne_iff_ne] at hreached
    exact h.addressed _ rfl c session hopen hreached.2 (hreached.2 ▸ hreached.1)
  | connectPlan networkId sourceNodeId targetNodeId plan =>
    simp only [ControlSyncEvent.reaches, Bool.and_eq_true, beq_iff_eq, bne_iff_ne] at hreached
    exact h.addressed _ rfl c session hopen hreached.2 (hreached.2 ▸ hreached.1)
  | _ => trivial

theorem Current.keyed (h : Current connections hub) : Keyed hub := fun nodeId entry hentry =>
  (h nodeId entry hentry).2

theorem Current.mem_sessions (h : Current connections hub) {entry : ControlWSSession}
    (hmem : entry ∈ hub.sessions) :
    connections entry.connection = some entry.session ∧ entry.session.nodeId ≠ "" := by
  obtain ⟨nodeId, hentry⟩ := Maps.mem_sessions.mp hmem
  obtain ⟨hopen, rfl, hnamed⟩ := h nodeId entry hentry
  exact ⟨hopen, hnamed⟩

end Fits

/-! ## What the handlers send -/

section Handlers

variable {relays : Relays} {now : Int} {p : DbState} {connections : Nat → Option WsSession}
  {hub : ControlWSHub} {c : Nat} {session : WsSession}

namespace DbState

theorem connectPlan_eq_ok {userId nodeId networkId peerNodeId : String} {plan : ConnectPlan}
    (h : (p.connectPlan relays now userId nodeId networkId peerNodeId).1 = .ok plan) :
    plan.peerNodeId = peerNodeId ∧ isMember p.store networkId nodeId = true ∧
      isMember p.store networkId peerNodeId = true := by
  unfold connectPlan at h
  split at h
  · cases h
  rename_i source hsource
  split at h
  · cases h
  rename_i peer q hsnapshot
  obtain rfl := Except.ok.inj h
  obtain ⟨_, record, member, _, _, hrecord, hmember, _⟩ :=
    peerSnapshot_eq_ok.mp (congrArg Prod.fst hsnapshot)
  refine ⟨rfl, isMember_of_requireNodeSession hsource, ?_⟩
  unfold isMember
  rw [hrecord, Option.any_some, hmember]
  rfl

theorem connectPlanByNode_eq_ok {nodeId networkId peerNodeId : String} {plan : ConnectPlan}
    (h : (p.connectPlanByNode relays now nodeId networkId peerNodeId).1 = .ok plan) :
    plan.peerNodeId = peerNodeId ∧ isMember p.store networkId nodeId = true ∧
      isMember p.store networkId peerNodeId = true := by
  unfold connectPlanByNode at h
  split at h
  · cases h
  · exact connectPlan_eq_ok h

/-- A plan is about a member of the network that it is made for, where its node is. -/
theorem fits_planned {way : ControlSyncEvent → Dispatch} (hway : ∀ event, (way event).event = event)
    {s : Store} {networkId nodeId : String} {result : Except Failure ConnectPlan}
    (hplan : ∀ plan, result = .ok plan →
      Addressed s connections nodeId plan.peerNodeId (.connectPlan plan)) :
    ∀ d ∈ planned way networkId nodeId result, d.event.Fits s connections := by
  intro d hd
  cases result with
  | error err => cases hd
  | ok plan =>
    obtain rfl := List.mem_singleton.mp hd
    rw [hway]
    refine ⟨trivial, fun target htarget => ?_⟩
    obtain rfl := Option.some.inj htarget
    exact hplan plan rfl

/-- The connections of a node are in the network of any one of them. -/
theorem addressed_of_uniform {s : Store} (huniform : Uniform connections)
    (hopen : connections c = some session) {plan : ConnectPlan}
    (hmember : isMember s session.networkId plan.peerNodeId = true) :
    Addressed s connections session.nodeId plan.peerNodeId (.connectPlan plan) := by
  intro c' other hother hsame hnamed
  change isMember s other.networkId plan.peerNodeId = true
  rw [huniform c' c other session hother hopen hsame (hsame ▸ hnamed)]
  exact hmember

theorem fits_fanoutPeerUpdate :
    ∀ d ∈ (p.fanoutPeerUpdate relays now session).1, d.event.Fits p.store connections := by
  intro d hd
  unfold fanoutPeerUpdate at hd
  split at hd
  · cases hd
  rename_i peer q hsnapshot
  obtain rfl := List.mem_singleton.mp hd
  obtain ⟨source, _, _, _, hsource, _⟩ := peerSnapshot_eq_ok.mp (congrArg Prod.fst hsnapshot)
  exact ⟨isMember_of_requireNodeSession hsource, nofun⟩

theorem fits_fanoutConnectPlans (huniform : Uniform connections)
    (hopen : connections c = some session) {peers : List WsSession}
    (hpeers : ∀ peer ∈ peers, ∃ c', connections c' = some peer) :
    ∀ p : DbState, ∀ d ∈ (p.fanoutConnectPlans relays now session peers).1,
      d.event.Fits p.store connections := by
  induction peers with
  | nil => exact fun _ _ hd => nomatch hd
  | cons peer peers ih =>
    intro p d hd
    obtain ⟨c', hpeer⟩ := hpeers peer List.mem_cons_self
    have hforSource : ∀ plan, (p.connectPlan relays now session.userId session.nodeId
        session.networkId peer.nodeId).1 = .ok plan →
          Addressed p.store connections session.nodeId plan.peerNodeId (.connectPlan plan) := by
      intro plan hplan
      obtain ⟨hnode, _, hmember⟩ := connectPlan_eq_ok hplan
      exact addressed_of_uniform huniform hopen (hnode ▸ hmember)
    have hstore : (p.connectPlan relays now session.userId session.nodeId session.networkId
        peer.nodeId).2.store = p.store := p.store_connectPlan _ _ _ _
    rw [fanoutConnectPlans] at hd
    dsimp only at hd
    generalize p.connectPlan relays now session.userId session.nodeId session.networkId
      peer.nodeId = forSource at hd hforSource hstore
    obtain ⟨planForSource, q⟩ := forSource
    have hforPeer : ∀ plan, (q.connectPlan relays now peer.userId peer.nodeId peer.networkId
        session.nodeId).1 = .ok plan →
          Addressed q.store connections peer.nodeId plan.peerNodeId (.connectPlan plan) := by
      intro plan hplan
      obtain ⟨hnode, _, hmember⟩ := connectPlan_eq_ok hplan
      exact addressed_of_uniform huniform hpeer (hnode ▸ hmember)
    have hstore' : (q.connectPlan relays now peer.userId peer.nodeId peer.networkId
        session.nodeId).2.store = q.store := q.store_connectPlan _ _ _ _
    dsimp only at hd hforSource hstore
    rw [hstore] at hforPeer hstore'
    rw [List.mem_append, List.mem_append] at hd
    rcases hd with (hd | hd) | hd
    · exact fits_planned (fun _ => rfl) hforSource d hd
    · exact fits_planned (fun _ => rfl) hforPeer d hd
    · have hrest := ih (fun other hother => hpeers other (List.mem_cons_of_mem peer hother)) _ d hd
      rw [hstore'] at hrest
      exact hrest

/-- The plans about a failed connection: that of the peer goes to it on whatever connection. -/
theorem fits_fanoutConnectPlanPair (huniform : Uniform connections)
    (hopen : connections c = some session) {peerNodeId : String}
    (hpeer : isMember p.store session.networkId peerNodeId = true → ∀ c' other,
      connections c' = some other → other.nodeId = peerNodeId →
        isMember p.store other.networkId session.nodeId = true) :
    ∀ d ∈ (p.fanoutConnectPlanPair relays now session peerNodeId).1,
      d.event.Fits p.store connections := by
  intro d hd
  unfold fanoutConnectPlanPair at hd
  split at hd
  · cases hd
  have hforSource : ∀ plan, (p.connectPlan relays now session.userId session.nodeId
      session.networkId peerNodeId).1 = .ok plan →
        Addressed p.store connections session.nodeId plan.peerNodeId (.connectPlan plan) := by
    intro plan hplan
    obtain ⟨hnode, _, hmember⟩ := connectPlan_eq_ok hplan
    exact addressed_of_uniform huniform hopen (hnode ▸ hmember)
  have hstore : (p.connectPlan relays now session.userId session.nodeId session.networkId
      peerNodeId).2.store = p.store := p.store_connectPlan _ _ _ _
  dsimp only at hd
  generalize p.connectPlan relays now session.userId session.nodeId session.networkId
    peerNodeId = forSource at hd hforSource hstore
  obtain ⟨planForSource, q⟩ := forSource
  dsimp only at hd hforSource hstore
  rw [List.mem_append] at hd
  rcases hd with hd | hd
  · exact fits_planned (fun _ => rfl) hforSource d hd
  · refine fits_planned (fun _ => rfl) (fun plan hplan c' other hother hnode _ => ?_) d hd
    obtain ⟨hplanned, hsource, _⟩ := connectPlanByNode_eq_ok hplan
    rw [hstore] at hsource
    rw [hplanned]
    exact hpeer hsource c' other hother hnode

end DbState

/-! ## What a request sends -/

def ControlSyncEvent.notice : ControlSyncEvent → Bool
  | networkRestartRequired .. | deviceIPReassigned .. | activeNetworkEnabled .. => true
  | _ => false

theorem ControlSyncEvent.Fits.of_notice {s : Store} {event : ControlSyncEvent}
    (h : event.notice = true) : event.Fits s connections := by
  cases event with
  | networkRestartRequired _ _ | deviceIPReassigned _ _ | activeNetworkEnabled _ _ =>
    exact ⟨trivial, nofun⟩
  | _ => cases h

theorem ControlSyncEvent.target_of_notice {event : ControlSyncEvent} (h : event.notice = true) :
    event.target? = none := by
  cases event with
  | networkRestartRequired _ _ | deviceIPReassigned _ _ | activeNetworkEnabled _ _ => rfl
  | _ => cases h

/-- No update, removal, candidate or plan. -/
def Notices (ds : List Dispatch) : Prop := ∀ d ∈ ds, d.event.notice = true

theorem notices_nil : Notices [] := List.forall_mem_nil _

theorem Notices.append {ds ds' : List Dispatch} (h : Notices ds) (h' : Notices ds') :
    Notices (ds ++ ds') := fun d hd => (List.mem_append.mp hd).elim (h d) (h' d)

theorem notices_publishActiveNetworkEnabled (userId networkId reason : String) :
    Notices (publishActiveNetworkEnabled userId networkId reason) := by
  unfold publishActiveNetworkEnabled
  split
  · exact notices_nil
  · exact List.forall_mem_singleton.mpr rfl

theorem notices_publishDeviceIPReassigned (networkId deviceId attachmentId virtualIp : String) :
    Notices (publishDeviceIPReassigned networkId deviceId attachmentId virtualIp) := by
  unfold publishDeviceIPReassigned
  split
  · exact notices_nil
  · exact List.forall_mem_singleton.mpr rfl

theorem notices_publishedByCreate (fresh : Networks.Fresh) (userId : String)
    (req : Networks.CreateNetworkRequest) (s : Store) :
    Notices (publishedByCreate fresh userId req s) := by
  unfold publishedByCreate
  split
  · split
    · exact notices_publishActiveNetworkEnabled _ _ _
    · exact notices_nil
  · exact notices_nil

theorem notices_publishedByOwnedNetwork (fresh : Networks.Fresh) (userId : String) (s : Store) :
    Notices (publishedByOwnedNetwork fresh userId s) := by
  unfold publishedByOwnedNetwork
  split
  · exact notices_nil
  · exact notices_publishedByCreate fresh userId _ s

theorem notices_publishedByRegisterUser (fresh : Networks.Fresh) (email password : String)
    (s : Store) : Notices (publishedByRegisterUser fresh email password s) := by
  unfold publishedByRegisterUser
  split
  · exact notices_nil
  split
  · exact notices_publishedByOwnedNetwork fresh _ _
  · exact notices_nil

theorem notices_publishedByRegisterDevice (fresh : Networks.Fresh) (userId : String)
    (req : Networks.RegisterDeviceRequest) (s : Store) :
    Notices (publishedByRegisterDevice fresh userId req s) := by
  unfold publishedByRegisterDevice
  split
  · exact notices_nil
  rename_i device s' _
  split
  · exact notices_nil
  have howned : Notices (if (s'.userById userId).any fun user =>
      Text.trim user.activeNetworkId == "" then publishedByOwnedNetwork fresh userId s'
      else []) := by
    split
    · exact notices_publishedByOwnedNetwork fresh userId s'
    · exact notices_nil
  extract_lets owned
  change Notices owned at howned
  split
  · exact howned
  · exact (howned.append (notices_publishActiveNetworkEnabled _ _ _)).append
      (notices_publishDeviceIPReassigned _ _ _ _)

theorem DbState.notices_handleRequest (sameName : String → String → Bool) (p : DbState)
    (r : Networks.Request) : Notices (p.handleRequest sameName r).1 := by
  unfold handleRequest
  dsimp only
  split
  · split
    · unfold publishNetworkRestartRequired
      split
      · exact notices_nil
      · exact List.forall_mem_singleton.mpr rfl
    · exact notices_nil
  · split
    · exact (notices_publishDeviceIPReassigned _ _ _ _).append (List.forall_mem_singleton.mpr rfl)
    · exact notices_nil
  · rename_i userId req _
    dsimp only
    exact notices_publishedByCreate r.fresh userId req p.store
  · rename_i email password _
    dsimp only
    exact notices_publishedByRegisterUser r.fresh email password p.store
  · rename_i userId req _
    dsimp only
    exact notices_publishedByRegisterDevice r.fresh userId req p.store
  · exact notices_nil

/-! ## What a connection sends -/

/-- The candidate is complete and let through. -/
def PeerCandidate.Forwarded (candidate : PeerCandidate) (allowed : Bool) : Prop :=
  candidate.peerNodeId ≠ "" ∧ candidate.endpoint ≠ "" ∧ candidate.candidateType ≠ "" ∧
    allowed = true

/-- The connection has failed or was closed, and new plans are let through. -/
def ConnectionState.Replanned (state : ConnectionState) (allowed : Bool) : Prop :=
  (state.state = "failed" ∨ state.state = "closed") ∧ allowed = true

/-- No connection is of the node that a candidate is for, but for those of its sender. -/
def Unheard (connections : Nat → Option WsSession) (session : WsSession)
    (candidate : PeerCandidate) : Prop :=
  candidate.peerNodeId = session.nodeId ∨
    ∀ c other, connections c = some other → other.nodeId ≠ candidate.peerNodeId

/-- A peer in the session's network is connected in networks of which the session's node is a
member. -/
def SharesNetworks (s : Store) (connections : Nat → Option WsSession) (session : WsSession)
    (peerNodeId : String) : Prop :=
  isMember s session.networkId peerNodeId = true → ∀ c other, connections c = some other →
    other.nodeId = peerNodeId → isMember s other.networkId session.nodeId = true

namespace Handled

theorem fits_fanouts (hhub : Current connections hub) (huniform : Uniform connections)
    (hopen : connections c = some session) :
    ∀ d ∈ (fanouts relays now p hub session).dispatches,
      d.event.Fits (fanouts relays now p hub session).db.store connections := by
  rw [store_fanouts]
  intro d hd
  unfold fanouts at hd
  dsimp only at hd
  rw [List.mem_append] at hd
  rcases hd with hd | hd
  · exact DbState.fits_fanoutPeerUpdate d hd
  · have hplans := DbState.fits_fanoutConnectPlans huniform hopen (fun peer hpeer => ?_) _ d hd
    · rw [DbState.store_fanoutPeerUpdate] at hplans
      exact hplans
    · obtain ⟨entry, hentry, rfl⟩ := List.mem_map.mp hpeer
      exact ⟨entry.connection, (hhub.mem_sessions (List.mem_filter.mp hentry).1).1⟩

/-- A removal is of the session's own node, in its own network. -/
theorem fits_fanoutPeerRemove {s : Store} {networkId nodeId : String}
    (hmember : nodeId ≠ "" → isMember s networkId nodeId = true) :
    ∀ d ∈ (p.fanoutPeerRemove networkId nodeId).1, d.event.Fits s connections := by
  intro d hd
  obtain rfl := List.mem_singleton.mp hd
  exact ⟨fun hsource _ => hmember hsource, nofun⟩

theorem fits_peerCandidate (huniform : Uniform connections) (hopen : connections c = some session)
    (hmember : isMember p.store session.networkId session.nodeId = true)
    {candidate : PeerCandidate} {allowed : Bool}
    (hcandidate : candidate.Forwarded allowed → Unheard connections session candidate) :
    ∀ d ∈ (peerCandidate p hub session candidate allowed).dispatches,
      d.event.Fits p.store connections := by
  intro d hd
  unfold peerCandidate at hd
  split at hd
  · cases hd
  rename_i hcomplete
  split at hd
  · rename_i hallowed
    rw [not_or, not_or] at hcomplete
    have hunheard := hcandidate ⟨hcomplete.1, hcomplete.2.1, hcomplete.2.2, hallowed⟩
    obtain rfl := List.mem_singleton.mp hd
    refine ⟨trivial, fun target htarget c' other hother hsame hnamed => ?_⟩
    obtain rfl := Option.some.inj htarget
    rcases hunheard with hself | hnone
    · refine ⟨?_, hself⟩
      have hsame' : other.nodeId = session.nodeId := hsame.trans hself
      change isMember p.store other.networkId session.nodeId = true
      rw [huniform c' c other session hother hopen hsame' (hsame ▸ hnamed)]
      exact hmember
    · exact absurd hsame (hnone c' other hother)
  · cases hd

theorem fits_connectionState (huniform : Uniform connections)
    (hopen : connections c = some session) {state : ConnectionState} {allowed : Bool}
    (hstate : state.Replanned allowed →
      SharesNetworks p.store connections session state.peerNodeId) :
    ∀ d ∈ (connectionState relays now p hub session state allowed).dispatches,
      d.event.Fits p.store connections := by
  intro d hd
  unfold connectionState at hd
  dsimp only at hd
  split at hd
  · cases hd
  rename_i q heq
  have hstore : q.store = p.store :=
    congrArg (fun r : _ × DbState => r.2.store) heq ▸ p.reportConnectionState_store _ _ _
  split at hd
  · rename_i hreplanned
    have hpair := DbState.fits_fanoutConnectPlanPair (p := q) huniform hopen
      (hstore ▸ hstate hreplanned) d hd
    rw [hstore] at hpair
    exact hpair
  · cases hd

theorem sameNetworks_authorized (p : DbState) (hub : ControlWSHub) (session : WsSession)
    (m : ClientMessage) :
    SameNetworks p.store (authorized relays now p hub session m).db.store := by
  rcases @store_authorized relays now p hub session m with hstore | ⟨sent, endpointId, hstore⟩ |
    ⟨notice, -, hstore⟩
  · exact hstore ▸ .refl _
  · exact hstore ▸ p.sameNetworks_reportEndpoints session.userId sent endpointId
  · exact hstore ▸ p.sameNetworks_disconnect session.userId session.nodeId _

/-- What an authorized session sends. -/
theorem fits_authorized (hhub : Current connections hub) (huniform : Uniform connections)
    (hopen : connections c = some session)
    (hmember : isMember p.store session.networkId session.nodeId = true) {m : ClientMessage}
    (hcandidate : ∀ candidate allowed, m = .peerCandidate candidate allowed →
      candidate.Forwarded allowed → Unheard connections session candidate)
    (hstate : ∀ state allowed, m = .connectionState state allowed → state.Replanned allowed →
      SharesNetworks p.store connections session state.peerNodeId) :
    ∀ d ∈ (authorized relays now p hub session m).dispatches,
      d.event.Fits (authorized relays now p hub session m).db.store connections := by
  have hsame := @sameNetworks_authorized relays now p hub session m
  intro d hd
  cases m with
  | nodeHello hello => cases hd
  | ping => cases hd
  | networkMapRequest networkId =>
    unfold authorized networkMapRequest at hd
    dsimp only at hd
    split at hd <;> cases hd
  | endpointReport report endpointId =>
    unfold authorized endpointReport at hd ⊢
    dsimp only at hd ⊢
    split at hd
    · cases hd
    · exact fits_fanouts hhub huniform hopen d hd
  | connectionState state allowed =>
    exact (fits_connectionState huniform hopen (hstate state allowed rfl) d hd).same hsame
  | disconnectNotice notice =>
    unfold authorized disconnectNotice at hd
    dsimp only at hd
    split at hd
    · cases hd
    · exact fits_fanoutPeerRemove (fun _ => (hsame.isMember _ _).trans hmember) d hd
  | peerCandidate candidate allowed =>
    exact (fits_peerCandidate huniform hopen hmember (hcandidate candidate allowed rfl) d hd).same
      hsame

end Handled

end Handlers

end Slan.Maps
