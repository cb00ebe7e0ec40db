import Slan.Maps.Fanouts
import Slan.Maps.MapConsistency

/-! # Whether revisions order what is said of a peer -/

namespace Slan.Maps

open Announcements (Announcement Announcer Board)
open Control (NodeEndpoint WsSession)
open Transition

/-! ## What an event says -/

/-- The peer of an update, or its removal, tells what is stored of the node. An update can tell of a
node that is away by its status. -/
def Describes (relays : Relays) : Option Peer → Option (List NodeEndpoint) → Prop
  | none, rows => rows = none
  | some peer, none => peer.status ≠ "online"
  | some peer, some rows => peer.status = "online" ∧ ∃ now, peer.endpoints =
      rows.map (fun record => ⟨record.type, record.address, record.updatedAt⟩) ++
        relays.fallbackEndpoints now

def Notice.about : Notice → Option (String × Option Peer)
  | peerUpdate peer => some (peer.nodeId, some peer)
  | peerRemove peerNodeId => some (peerNodeId, none)
  | networkRestartRequired => none

def RevisedEvent.announcement (event : RevisedEvent) : Announcement String (Option Peer) :=
  ⟨event.revision, event.notice.about⟩

/-- What one knows of a node who keeps the event with the highest revision. -/
def known (nodeId : String) (received : List RevisedEvent) : Option (Option Peer) :=
  Announcements.follow nodeId (received.map RevisedEvent.announcement)

/-- The fan-out will describe the node as it is now. -/
def Fanout.WillDescribe (relays : Relays) (p : DbState) (networkId nodeId : String) : Fanout → Prop
  | peerUpdate session =>
    session.networkId = networkId ∧ session.nodeId = nodeId ∧ p.present networkId nodeId = true
  | snapshot session peer => session.networkId = networkId ∧ peer.nodeId = nodeId ∧
    Describes relays (some peer) (p.stored networkId nodeId)
  | peerRemove networkId' sourceNodeId => networkId' = networkId ∧ sourceNodeId = nodeId ∧
    Describes relays none (p.stored networkId nodeId)

/-- Whether the counter answers, where it is asked. -/
def FanoutMove.answered : FanoutMove → Bool
  | .draw _ reply => reply == .answered
  | .networkRestart _ reply => reply == .answered
  | _ => true

namespace FanoutWorld

def eventsOf (w : FanoutWorld) (networkId : String) : List RevisedEvent :=
  w.events.filter fun event => event.networkId == networkId

/-- No fan-out of the node is on the way. -/
def AtRest (w : FanoutWorld) (networkId nodeId : String) : Prop :=
  ∀ fanout ∈ w.fanouts, fanout.networkId = networkId → fanout.nodeId ≠ nodeId

/-- What is stored changes of the node alone whose fan-out starts, and a removal starts for a node
that is away. -/
structure ChangesOwn (w t : FanoutWorld) : Prop where
  own : ∀ networkId nodeId, t.db.stored networkId nodeId ≠ w.db.stored networkId nodeId →
    ∃ fanout, t.fanouts = fanout :: w.fanouts ∧ fanout.networkId = networkId ∧
      fanout.nodeId = nodeId
  removed : ∀ networkId nodeId, t.fanouts = .peerRemove networkId nodeId :: w.fanouts →
    t.db.stored networkId nodeId = none

variable (relays : Relays) (sameName : String → String → Bool)

/-- A call changes what is stored of its own node alone, a node that is present can be read, the
counter answers, and a fan-out draws its revision while some fan-out of its node will describe the
node as it is. -/
def Serial (w : FanoutWorld) : FanoutMove → Prop
  | .readPeer now i => ∀ session, w.fanouts[i]? = some (.peerUpdate session) →
    w.db.present session.networkId session.nodeId = true →
      (∃ source, w.db.requireNodeSession session.userId session.nodeId session.networkId =
        .ok source) ∧
      hasFreshControlSession w.db.store session.nodeId session.networkId now = true
  | .draw i reply => reply = .answered ∧ ∀ fanout, w.fanouts[i]? = some fanout →
    ∃ other ∈ w.fanouts, other.WillDescribe relays w.db fanout.networkId fanout.nodeId
  | .networkRestart _ reply => reply = .answered
  | a => ∀ t, w.step relays sameName a = some t → w.ChangesOwn t

end FanoutWorld

/-! ## Reading a node -/

namespace DbState

variable {relays : Relays} {now : Int} {p q : DbState}

theorem any_session_of_fresh {s : Networks.Store} {nodeId networkId : String}
    (h : hasFreshControlSession s nodeId networkId now = true) :
    s.controlSessions.any (fun row => row.nodeId == nodeId && row.networkId == networkId) =
      true := by
  unfold hasFreshControlSession latestControlSessionByNode at h
  split at h
  · cases h
  · rename_i session hlatest
    have hmem := (List.mem_insertionSort _).mp (List.mem_of_head? hlatest)
    apply List.any_eq_true.mpr
    exact ⟨session, (List.mem_filter.mp hmem).1, (List.mem_filter.mp hmem).2⟩

/-- What is read of the endpoints is what is stored of them then. -/
theorem endpointsForNodeInNetwork_listed (p : DbState) (nodeId networkId : String) :
    (p.endpointsForNodeInNetwork relays now nodeId networkId).1 =
      ((p.endpointsForNodeInNetwork relays now nodeId networkId).2.listNodeEndpoints nodeId
        networkId).map (fun record => ⟨record.type, record.address, record.updatedAt⟩) ++
          relays.fallbackEndpoints now := by
  have hfresh : ∀ row ∈ (p.deleteNodeEndpointsBefore nodeId networkId
      (endpointCutoff now)).listNodeEndpoints nodeId networkId,
      (!decide (row.updatedAt < endpointCutoff now)) = true := by
    intro row hrow
    obtain ⟨hkept, hof⟩ := List.mem_filter.mp ((List.mem_insertionSort _).mp hrow)
    have hnot := (List.mem_filter.mp hkept).2
    rw [hof, Bool.true_and] at hnot
    exact hnot
  unfold endpointsForNodeInNetwork
  dsimp only
  rw [List.filter_eq_self.mpr hfresh]

/-- A peer is described as it is stored once it is read. -/
theorem describes_peerOf {networkId : String} {record : Control.Node} {device : Networks.Device}
    (hrecord : p.store.nodeById record.nodeId = some record)
    (hmember : (p.store.memberByNetworkDevice networkId record.deviceId).isSome = true)
    (hdevice : p.store.deviceById record.deviceId = some device)
    (hfresh : hasFreshControlSession p.store record.nodeId networkId now = true) :
    Describes relays (some (p.peerOf relays now networkId record device).1)
      ((p.peerOf relays now networkId record device).2.stored networkId record.nodeId) := by
  have hpresent : (p.peerOf relays now networkId record device).2.present networkId record.nodeId =
      (device.status == "online") := by
    change p.present networkId record.nodeId = _
    unfold present
    rw [hrecord, Option.any_some, hmember, hdevice, any_session_of_fresh hfresh]
    simp
  unfold stored
  rw [hpresent]
  split
  · rename_i honline
    refine ⟨beq_iff_eq.mp honline, now, ?_⟩
    exact p.endpointsForNodeInNetwork_listed record.nodeId networkId
  · rename_i haway
    exact fun honline => haway (beq_iff_eq.mpr honline)

theorem describes_ownSnapshot {session : WsSession} {peer : Peer}
    (h : FanoutWorld.ownSnapshot relays p now session = (.ok peer, q)) :
    peer.nodeId = session.nodeId ∧
      Describes relays (some peer) (q.stored session.networkId session.nodeId) ∧
      q.revisions = p.revisions ∧
      ∀ networkId nodeId, ¬(networkId = session.networkId ∧ nodeId = session.nodeId) →
        q.stored networkId nodeId = p.stored networkId nodeId := by
  unfold FanoutWorld.ownSnapshot peerSnapshot at h
  split at h
  · cases h
  split at h
  · cases h
  split at h
  · cases h
  split at h
  · cases h
  split at h
  · cases h
  rename_i record hrecord _ member hmember _ device hdevice hstale
  rw [Bool.not_eq_false] at hstale
  have hid := (Networks.nodeById_eq_some hrecord).2
  obtain ⟨hpeer, rfl⟩ := Prod.mk.inj h
  obtain rfl := Except.ok.inj hpeer
  rw [← hid] at hrecord ⊢
  refine ⟨rfl, ?_, rfl, fun networkId nodeId hother => ?_⟩
  · exact describes_peerOf hrecord (by rw [hmember]; rfl) hdevice hstale
  · have hread : (p.endpointsForNodeInNetwork relays now record.nodeId session.networkId).2.stored
        networkId nodeId = p.stored networkId nodeId := p.stored_endpointsForNodeInNetwork hother
    exact hread

theorem ownSnapshot_error {session : WsSession} {err : Networks.Failure}
    (h : FanoutWorld.ownSnapshot relays p now session = (.error err, q)) :
    q = p ∧ ¬((∃ source, p.requireNodeSession session.userId session.nodeId session.networkId =
      .ok source) ∧ hasFreshControlSession p.store session.nodeId session.networkId now = true ∧
      p.present session.networkId session.nodeId = true) := by
  unfold FanoutWorld.ownSnapshot peerSnapshot at h
  split at h
  · rename_i hsource
    exact ⟨(Prod.mk.inj h).2.symm, fun ⟨⟨_, hok⟩, _⟩ => by rw [hsource] at hok; cases hok⟩
  split at h
  · rename_i hrecord
    refine ⟨(Prod.mk.inj h).2.symm, fun ⟨_, _, hpresent⟩ => ?_⟩
    unfold present at hpresent
    rw [hrecord] at hpresent
    cases hpresent
  rename_i record hrecord
  have hid := (Networks.nodeById_eq_some hrecord).2
  split at h
  · rename_i hmember
    refine ⟨(Prod.mk.inj h).2.symm, fun ⟨_, _, hpresent⟩ => ?_⟩
    unfold present at hpresent
    rw [hrecord, Option.any_some, hmember] at hpresent
    cases hpresent
  split at h
  · rename_i hdevice
    refine ⟨(Prod.mk.inj h).2.symm, fun ⟨_, _, hpresent⟩ => ?_⟩
    unfold present at hpresent
    rw [hrecord, Option.any_some, hdevice, Option.any_none, Bool.and_false] at hpresent
    cases hpresent
  split at h
  · rename_i hstale
    refine ⟨(Prod.mk.inj h).2.symm, fun ⟨_, hfresh, _⟩ => ?_⟩
    rw [hid, hfresh] at hstale
    cases hstale
  · cases h

end DbState

/-! ## The board of a network -/

namespace Fanout

def announcer : Fanout → Announcer String (Option Peer)
  | peerUpdate session => .reading session.nodeId
  | snapshot _ peer => .holding peer.nodeId (some peer)
  | peerRemove _ sourceNodeId => .holding sourceNodeId none

theorem key_announcer (fanout : Fanout) : fanout.announcer.key = fanout.nodeId := by
  cases fanout <;> rfl

theorem isSome_stored (p : DbState) (networkId nodeId : String) :
    (p.stored networkId nodeId).isSome = p.present networkId nodeId := by
  unfold DbState.stored
  cases p.present networkId nodeId <;> rfl

theorem willDescribe_iff {relays : Relays} {p : DbState} {networkId nodeId : String}
    (fanout : Fanout) : fanout.WillDescribe relays p networkId nodeId ↔
      fanout.networkId = networkId ∧
        fanout.announcer.WillTell (Describes relays) (p.stored networkId) nodeId := by
  cases fanout with
  | peerUpdate session =>
    unfold WillDescribe announcer Announcer.WillTell
    rw [isSome_stored]
    rfl
  | snapshot session peer => rfl
  | peerRemove networkId' sourceNodeId => rfl

end Fanout

namespace FanoutWorld

def announcers (networkId : String) (fanouts : List Fanout) :
    Multiset (Announcer String (Option Peer)) :=
  ↑((fanouts.filter fun fanout => fanout.networkId == networkId).map Fanout.announcer)

def board (w : FanoutWorld) (networkId : String) :
    Board String (List NodeEndpoint) (Option Peer) where
  value := w.db.stored networkId
  announcers := announcers networkId w.fanouts
  drawn := w.db.counter networkId
  said := (w.eventsOf networkId).map RevisedEvent.announcement

section Announcers

variable {networkId : String} {fanout : Fanout}

theorem announcers_cons_self (h : fanout.networkId = networkId) (fanouts : List Fanout) :
    announcers networkId (fanout :: fanouts) =
      fanout.announcer ::ₘ announcers networkId fanouts := by
  unfold announcers
  rw [List.filter_cons, if_pos (beq_iff_eq.mpr h), List.map_cons, Multiset.cons_coe]

theorem announcers_cons_of_ne (h : fanout.networkId ≠ networkId) (fanouts : List Fanout) :
    announcers networkId (fanout :: fanouts) = announcers networkId fanouts := by
  unfold announcers
  rw [List.filter_cons, if_neg (mt beq_iff_eq.mp h)]

theorem announcers_eraseIdx (networkId : String) {fanouts : List Fanout} {i : Nat}
    (h : fanouts[i]? = some fanout) :
    announcers networkId fanouts = announcers networkId (fanout :: fanouts.eraseIdx i) := by
  obtain ⟨hi, rfl⟩ := List.getElem?_eq_some_iff.mp h
  unfold announcers
  apply Multiset.coe_eq_coe.mpr
  exact (((List.getElem_cons_eraseIdx_perm hi).filter _).map _).symm

theorem mem_announcers {a : Announcer String (Option Peer)} {fanouts : List Fanout} :
    a ∈ announcers networkId fanouts ↔
      ∃ fanout ∈ fanouts, fanout.networkId = networkId ∧ fanout.announcer = a := by
  unfold announcers
  simp only [Multiset.mem_coe, List.mem_map, List.mem_filter, beq_iff_eq, and_assoc]

end Announcers

/-! ## Every move is a step on each board -/

section Steps

variable {relays : Relays} {sameName : String → String → Bool} {w t : FanoutWorld}

/-- The call of a connection, or of no one, that may have started a fan-out. -/
structure Calls (w t : FanoutWorld) : Prop where
  events : t.events = w.events
  revisions : t.db.revisions = w.db.revisions
  fanouts : t.fanouts = w.fanouts ∨
    (∃ session, t.fanouts = .peerUpdate session :: w.fanouts ∧ DbState.Rises w.db t.db) ∨
    ∃ networkId nodeId, t.fanouts = .peerRemove networkId nodeId :: w.fanouts

theorem calls_nodeHello (w : FanoutWorld) (now : Int) (session : WsSession)
    (hello : Control.NodeHello) : Calls w (w.handleNodeHello relays now session hello) := by
  have hrevisions : (w.db.handshake relays now hello).2.revisions = w.db.revisions :=
    w.db.revisions_handshake hello
  have hrises : DbState.Rises w.db (w.db.handshake relays now hello).2 := w.db.rises_handshake hello
  unfold handleNodeHello
  split
  · rename_i heq
    rw [heq] at hrevisions
    exact ⟨rfl, hrevisions, .inl rfl⟩
  · rename_i heq
    rw [heq] at hrevisions hrises
    exact ⟨rfl, hrevisions, .inr (.inl ⟨_, rfl, hrises⟩)⟩

theorem calls_endpointReport (w : FanoutWorld) (now : Int) (session : WsSession)
    (report : Control.EndpointReport) (endpointId : Nat → String) :
    Calls w (w.handleEndpointReport relays now session report endpointId) := by
  unfold handleEndpointReport
  split
  · exact ⟨rfl, rfl, .inl rfl⟩
  dsimp only
  generalize { report with
    nodeId := Control.firstNonEmpty [report.nodeId, session.nodeId]
    networkId := Control.firstNonEmpty [report.networkId, session.networkId] } = report
  have hrevisions : (w.db.reportEndpoints relays now session.userId report endpointId).2.revisions =
      w.db.revisions := w.db.revisions_reportEndpoints session.userId report endpointId
  have hrises : DbState.Rises w.db (w.db.reportEndpoints relays now session.userId report
      endpointId).2 := w.db.rises_reportEndpoints session.userId report endpointId
  split
  · rename_i heq
    rw [heq] at hrevisions
    exact ⟨rfl, hrevisions, .inl rfl⟩
  · rename_i heq
    rw [heq] at hrevisions hrises
    exact ⟨rfl, hrevisions, .inr (.inl ⟨_, rfl, hrises⟩)⟩

theorem calls_disconnectNotice (w : FanoutWorld) (now : Int) (session : WsSession)
    (notice : DisconnectNotice) : Calls w (w.handleDisconnectNotice now session notice) := by
  unfold handleDisconnectNotice
  split
  · exact ⟨rfl, rfl, .inl rfl⟩
  dsimp only
  generalize { notice with
    networkId := Control.firstNonEmpty [notice.networkId, session.networkId] } = notice
  have hrevisions : (w.db.disconnect now session.userId session.nodeId notice).2.revisions =
      w.db.revisions := w.db.revisions_disconnect session.userId session.nodeId notice
  split
  · rename_i heq
    rw [heq] at hrevisions
    exact ⟨rfl, hrevisions, .inl rfl⟩
  · rename_i heq
    rw [heq] at hrevisions
    exact ⟨rfl, hrevisions, .inr (.inr ⟨_, _, rfl⟩)⟩

theorem calls_close (w : FanoutWorld) (session : WsSession) :
    Calls w (w.closeConnection session) :=
  ⟨rfl, w.db.revisions_closeSession _ _ _, .inr (.inr ⟨_, _, rfl⟩)⟩

theorem board_congr {networkId : String} (hvalue : t.db.stored networkId = w.db.stored networkId)
    (hfanouts : announcers networkId t.fanouts = announcers networkId w.fanouts)
    (hrevisions : t.db.revisions = w.db.revisions) (hevents : t.events = w.events) :
    t.board networkId = w.board networkId := by
  unfold board eventsOf DbState.counter
  rw [hvalue, hfanouts, hrevisions, hevents]

theorem Calls.step (h : Calls w t) (hown : w.ChangesOwn t) (networkId : String) :
    Announcements.Step (Describes relays) (w.board networkId) (t.board networkId) := by
  -- the nodes that no new fan-out of the network is about
  have hkept : ∀ nodeId, (∀ fanout, t.fanouts = fanout :: w.fanouts →
      fanout.networkId = networkId → fanout.nodeId ≠ nodeId) →
      t.db.stored networkId nodeId = w.db.stored networkId nodeId := by
    intro nodeId hother
    by_contra hne
    obtain ⟨fanout, hstarted, hnetwork, hnode⟩ := hown.own networkId nodeId hne
    exact hother fanout hstarted hnetwork hnode
  by_cases hstarts : ∃ fanout, t.fanouts = fanout :: w.fanouts ∧ fanout.networkId = networkId
  · obtain ⟨fanout, hstarted, hnetwork⟩ := hstarts
    have hvalue : t.db.stored networkId = Function.update (w.db.stored networkId) fanout.nodeId
        (t.db.stored networkId fanout.nodeId) := by
      funext nodeId
      by_cases hnode : nodeId = fanout.nodeId
      · rw [hnode, Function.update_self]
      · rw [Function.update_of_ne hnode]
        refine hkept nodeId fun other hother _ hsame => hnode ?_
        rw [← hsame, (List.cons.inj (hother.symm.trans hstarted)).1]
    have hboard : t.board networkId = { w.board networkId with
        value := Function.update (w.db.stored networkId) fanout.nodeId
          (t.db.stored networkId fanout.nodeId)
        announcers := fanout.announcer ::ₘ announcers networkId w.fanouts } := by
      unfold board eventsOf DbState.counter
      rw [h.revisions, h.events, hstarted, announcers_cons_self hnetwork, ← hvalue]
    rw [hboard]
    rcases h.fanouts with hsame | ⟨session, hupdate, hrises⟩ | ⟨removedFrom, nodeId, hremove⟩
    · rw [hsame] at hstarted
      exact absurd hstarted (List.cons_ne_self _ _).symm
    · obtain rfl := (List.cons.inj (hstarted.symm.trans hupdate)).1
      exact .announce session.nodeId _ fun hnone => hrises.stored_eq_none hnone
    · obtain rfl := (List.cons.inj (hstarted.symm.trans hremove)).1
      obtain rfl : removedFrom = networkId := hnetwork
      have hnone := hown.removed removedFrom nodeId hremove
      change Announcements.Step _ _ { w.board removedFrom with
        value := Function.update (w.db.stored removedFrom) nodeId (t.db.stored removedFrom nodeId)
        announcers := .holding nodeId none ::ₘ announcers removedFrom w.fanouts }
      rw [hnone]
      exact .withdraw nodeId none rfl
  · have hsame : t.board networkId = w.board networkId := by
      refine board_congr (funext fun nodeId => hkept nodeId fun fanout hstarted hnetwork _ =>
        hstarts ⟨fanout, hstarted, hnetwork⟩) ?_ h.revisions h.events
      have hforeign : ∀ fanout, t.fanouts = fanout :: w.fanouts →
          announcers networkId t.fanouts = announcers networkId w.fanouts := by
        intro fanout hstarted
        rw [hstarted]
        exact announcers_cons_of_ne (fun hnetwork => hstarts ⟨fanout, hstarted, hnetwork⟩) _
      rcases h.fanouts with hsame | ⟨session, hupdate, _⟩ | ⟨_, _, hremove⟩
      · rw [hsame]
      · exact hforeign _ hupdate
      · exact hforeign _ hremove
    rw [hsame]
    exact .stay

theorem board_publish_self (w : FanoutWorld) (networkId : String) (notice : Notice) :
    (w.publish networkId .answered notice).board networkId = { w.board networkId with
      drawn := (w.board networkId).drawn + 1
      said := ⟨(w.board networkId).drawn + 1, notice.about⟩ :: (w.board networkId).said } := by
  have hcounter : (w.db.incremented networkId).counter networkId = w.db.counter networkId + 1 := by
    unfold DbState.incremented DbState.counter
    rw [Table.get?_put_self]
    rfl
  unfold board eventsOf publish DbState.nextRevision
  dsimp only
  rw [hcounter, List.filter_cons, if_pos (beq_self_eq_true networkId)]
  rfl

theorem board_publish_of_ne (w : FanoutWorld) {networkId networkId' : String}
    (h : networkId' ≠ networkId) (notice : Notice) :
    (w.publish networkId' .answered notice).board networkId = w.board networkId := by
  have hcounter : (w.db.incremented networkId').counter networkId = w.db.counter networkId := by
    unfold DbState.incremented DbState.counter
    rw [Table.get?_put, if_neg h.symm]
  unfold board eventsOf publish DbState.nextRevision
  dsimp only
  rw [hcounter, List.filter_cons, if_neg (mt beq_iff_eq.mp h)]
  rfl

theorem board_ending_of_ne {i : Nat} {fanout : Fanout} (hi : w.fanouts[i]? = some fanout)
    {networkId : String} (h : fanout.networkId ≠ networkId) :
    (w.ending i).board networkId = w.board networkId := by
  refine board_congr rfl ?_ rfl rfl
  rw [announcers_eraseIdx networkId hi, announcers_cons_of_ne h]
  rfl

theorem step_readPeer {now : Int} {i : Nat} {session : WsSession}
    (hi : w.fanouts[i]? = some (.peerUpdate session))
    (hserial : w.Serial relays sameName (.readPeer now i)) (networkId : String) :
    Announcements.Step (Describes relays) (w.board networkId)
      ((w.readPeer relays now i session).board networkId) := by
  have hself : session.networkId = networkId → announcers networkId w.fanouts =
      .reading session.nodeId ::ₘ announcers networkId (w.fanouts.eraseIdx i) := by
    intro h
    rw [announcers_eraseIdx networkId hi]
    exact announcers_cons_self (show (Fanout.peerUpdate session).networkId = _ from h) _
  have hother : session.networkId ≠ networkId →
      announcers networkId (w.fanouts.eraseIdx i) = announcers networkId w.fanouts := by
    intro h
    rw [announcers_eraseIdx networkId hi]
    exact (announcers_cons_of_ne (show (Fanout.peerUpdate session).networkId ≠ _ from h) _).symm
  unfold readPeer
  dsimp only
  split
  · rename_i err db heq
    obtain ⟨rfl, hfails⟩ := DbState.ownSnapshot_error heq
    -- a read fails only for a node that is not there, and then its announcer is gone
    by_cases hnetwork : session.networkId = networkId
    · refine .vanish session.nodeId _ (hself hnetwork) (if_neg fun hpresent => hfails ?_)
      rw [← hnetwork] at hpresent
      obtain ⟨hsource, hfresh⟩ := hserial session hi hpresent
      exact ⟨hsource, hfresh, hpresent⟩
    · change Announcements.Step _ _ ((w.ending i).board networkId)
      rw [board_ending_of_ne hi hnetwork]
      exact .stay
  · rename_i peer db heq
    obtain ⟨hid, hdescribes, hrevisions, hothers⟩ := DbState.describes_ownSnapshot heq
    by_cases hnetwork : session.networkId = networkId
    · subst hnetwork
      have hvalue : db.stored session.networkId = Function.update
          (w.db.stored session.networkId) session.nodeId
          (db.stored session.networkId session.nodeId) := by
        funext nodeId
        by_cases hnode : nodeId = session.nodeId
        · rw [hnode, Function.update_self]
        · rw [Function.update_of_ne hnode, hothers _ _ fun hsame => hnode hsame.2]
      have hheld : announcers session.networkId (.snapshot session peer :: w.fanouts.eraseIdx i) =
          .holding peer.nodeId (some peer) ::ₘ
            announcers session.networkId (w.fanouts.eraseIdx i) :=
        announcers_cons_self (show (Fanout.snapshot session peer).networkId = _ from rfl) _
      have hboard : board { w with db, fanouts := .snapshot session peer :: w.fanouts.eraseIdx i }
          session.networkId = { w.board session.networkId with
            value := Function.update (w.db.stored session.networkId) session.nodeId
              (db.stored session.networkId session.nodeId)
            announcers := .holding session.nodeId (some peer) ::ₘ
              announcers session.networkId (w.fanouts.eraseIdx i) } := by
        unfold board eventsOf DbState.counter
        dsimp only
        rw [hheld, hrevisions, ← hvalue, hid]
      rw [hboard]
      exact .read session.nodeId (some peer) _ _ (hself rfl) hdescribes
    · have hsame : board { w with db, fanouts := .snapshot session peer :: w.fanouts.eraseIdx i }
          networkId = w.board networkId := by
        refine board_congr (funext fun nodeId => ?_) ?_ hrevisions rfl
        · exact hothers networkId nodeId fun hsame => hnetwork hsame.1.symm
        · rw [← hother hnetwork]
          exact announcers_cons_of_ne (show (Fanout.snapshot session peer).networkId ≠ _ from
            hnetwork) _
      rw [hsame]
      exact .stay

theorem step_draw {i : Nat} {fanout : Fanout} {nodeId : String} {m : Option Peer} {notice : Notice}
    (hi : w.fanouts[i]? = some fanout) (hholds : fanout.announcer = .holding nodeId m)
    (hnotice : notice.about = some (nodeId, m))
    (hserial : ∃ other ∈ w.fanouts, other.WillDescribe relays w.db fanout.networkId nodeId)
    (networkId : String) :
    Announcements.Step (Describes relays) (w.board networkId)
      (((w.ending i).publish fanout.networkId .answered notice).board networkId) := by
  by_cases hnetwork : fanout.networkId = networkId
  · subst hnetwork
    have hfanouts := announcers_eraseIdx fanout.networkId hi
    rw [announcers_cons_self rfl, hholds] at hfanouts
    rw [board_publish_self, hnotice]
    refine .say nodeId m _ hfanouts ?_
    obtain ⟨other, hother, hwill⟩ := hserial
    obtain ⟨hsame, htell⟩ := (Fanout.willDescribe_iff other).mp hwill
    -- the one that will describe the node is this fan-out or another one
    have hmem : other.announcer ∈ announcers fanout.networkId w.fanouts :=
      mem_announcers.mpr ⟨other, hother, hsame, rfl⟩
    rw [hfanouts] at hmem
    rcases Multiset.mem_cons.mp hmem with hself | hrest
    · rw [hself] at htell
      exact .inl htell.2
    · exact .inr ⟨other.announcer, hrest, htell⟩
  · rw [board_publish_of_ne _ hnetwork, board_ending_of_ne hi hnetwork]
    exact .stay

theorem step_board {a : FanoutMove} (hserial : w.Serial relays sameName a)
    (hstep : w.step relays sameName a = some t) (networkId : String) :
    Announcements.Step (Describes relays) (w.board networkId) (t.board networkId) := by
  cases a with
  | perform a =>
    have hown := hserial t hstep
    obtain rfl := Option.some.inj hstep
    have hcalls : Calls w { w with db := w.db.after relays sameName a } :=
      ⟨rfl, w.db.revisions_after sameName a, .inl rfl⟩
    exact hcalls.step hown networkId
  | nodeHello now session hello =>
    have hown := hserial t hstep
    obtain rfl := Option.some.inj hstep
    exact (w.calls_nodeHello now session hello).step hown networkId
  | endpointReport now session report endpointId =>
    have hown := hserial t hstep
    obtain rfl := Option.some.inj hstep
    exact (w.calls_endpointReport now session report endpointId).step hown networkId
  | disconnectNotice now session notice =>
    have hown := hserial t hstep
    obtain rfl := Option.some.inj hstep
    exact (w.calls_disconnectNotice now session notice).step hown networkId
  | close session =>
    have hown := hserial t hstep
    obtain rfl := Option.some.inj hstep
    exact (w.calls_close session).step hown networkId
  | readPeer now i =>
    rw [FanoutWorld.step] at hstep
    split at hstep
    · rename_i session hi
      obtain rfl := Option.some.inj hstep
      exact step_readPeer hi hserial networkId
    · cases hstep
  | draw i reply =>
    obtain ⟨rfl, hserial⟩ := hserial
    rw [FanoutWorld.step] at hstep
    split at hstep
    · rename_i session peer hi
      obtain rfl := Option.some.inj hstep
      exact step_draw hi rfl rfl (hserial _ hi) networkId
    · rename_i removedFrom sourceNodeId hi
      obtain rfl := Option.some.inj hstep
      exact step_draw hi rfl rfl (hserial _ hi) networkId
    · cases hstep
  | networkRestart restarted reply =>
    obtain rfl := hserial
    obtain rfl := Option.some.inj hstep
    by_cases hnetwork : restarted = networkId
    · subst hnetwork
      rw [board_publish_self]
      exact .pass
    · rw [board_publish_of_ne _ hnetwork]
      exact .stay

theorem sound_start (relays : Relays) (networkId : String) :
    (start.board networkId).Sound (Describes relays) where
  rising := .nil
  bounded _ ha := nomatch ha
  current _ := .inr rfl

theorem sound_board (h : Reachable (guarded (Serial relays sameName) (rel (step relays sameName)))
    start w) (networkId : String) : (w.board networkId).Sound (Describes relays) :=
  h.invariant (fun w => (w.board networkId).Sound (Describes relays)) (sound_start relays networkId)
    fun _ _ _ hsound hstep => hsound.step (step_board hstep.1 hstep.2 networkId)

end Steps

/-- In a serial run the revisions of a network's events rise, and who has heard all of them knows
every node that no fan-out is on the way for. -/
theorem revisions_order_states {relays : Relays} {sameName : String → String → Bool}
    {w : FanoutWorld}
    (h : Reachable (guarded (Serial relays sameName) (rel (step relays sameName))) start w)
    (networkId : String) :
    ((w.eventsOf networkId).Pairwise fun later earlier => earlier.revision < later.revision) ∧
      ∀ nodeId, w.AtRest networkId nodeId → ∀ received, received.Perm (w.eventsOf networkId) →
        Announcements.Told (Describes relays) (known nodeId received)
          (w.db.stored networkId nodeId) := by
  have hsound := sound_board h networkId
  refine ⟨List.pairwise_map.mp hsound.rising, fun nodeId hrest received hperm => ?_⟩
  refine hsound.follow (fun a ha hkey => ?_) (hperm.map _)
  obtain ⟨fanout, hfanout, hnetwork, rfl⟩ := mem_announcers.mp ha
  rw [Fanout.key_announcer] at hkey
  exact hrest fanout hfanout hnetwork hkey

theorem step_readPeer_eq (relays : Relays) (sameName : String → String → Bool) {w : FanoutWorld}
    {now : Int} {i : Nat} {session : WsSession}
    (h : w.fanouts[i]? = some (.peerUpdate session)) :
    step relays sameName w (.readPeer now i) = some (w.readPeer relays now i session) := by
  simp only [step, h]

/-! ## A counter that fails, and a snapshot that is overtaken -/

section Samples

def oneNodeSession : WsSession := ⟨"user-1", "", "node-1", "net-1"⟩

/-- A node is registered and gets a control session. -/
def registering : List Action :=
  oneNodeRun ++ [.createControlSession 100 ⟨"4", "4"⟩ "user-1" "node-1" "net-1"]

/-- It connects and says hello. -/
def helloRun : List FanoutMove :=
  registering.map .perform ++
    [.nodeHello 100 ⟨"", "", "", ""⟩ (helloOf "node-1" "4"), .readPeer 100 0]

/-- The counter is refused to the node's hello and to its end. -/
def refusedRun : List FanoutMove :=
  helloRun ++ [.draw 0 .refused, .close oneNodeSession, .draw 0 .refused]

def newEndpoints : Control.EndpointReport :=
  ⟨"net-1", "node-1", "open", [⟨"lan", "192.168.1.2:7000", 100⟩]⟩

/-- The node says hello on a second connection and reports its endpoints on the first one. The
snapshot of the second hello is from before the report and draws the later revision. -/
def overtakenRun : List FanoutMove :=
  helloRun ++ [.draw 0 .answered, .nodeHello 101 ⟨"", "", "", ""⟩ (helloOf "node-1" "4"),
    .readPeer 101 0, .endpointReport 101 oneNodeSession newEndpoints fun _ => "ep-1",
    .readPeer 101 0, .draw 0 .answered, .draw 0 .answered]

def worldAfter (run : List FanoutMove) : FanoutWorld :=
  execD (step DbState.noRelays (· == ·)) start run

theorem exec_worldAfter {run : List FanoutMove}
    (h : (exec (step DbState.noRelays (· == ·)) start run).isSome = true) :
    exec (step DbState.noRelays (· == ·)) start run = some (worldAfter run) := exec_eq_execD h

/-- Two events of a network can have one revision; and where the counter always answers, the last
event of a node can still tell of endpoints that it no longer has. -/
theorem revisions_disorder :
    (¬ ∀ (relays : Relays) (sameName : String → String → Bool) (w : FanoutWorld),
      Reachable (rel (step relays sameName)) start w → ∀ networkId,
        (w.eventsOf networkId).Pairwise fun later earlier => earlier.revision < later.revision) ∧
    ¬ ∀ (relays : Relays) (sameName : String → String → Bool) (w : FanoutWorld),
      Reachable (guarded (fun _ a => a.answered = true) (rel (step relays sameName))) start w →
        ∀ networkId nodeId, w.AtRest networkId nodeId →
          ∀ received, received.Perm (w.eventsOf networkId) →
            Announcements.Told (Describes relays) (known nodeId received)
              (w.db.stored networkId nodeId) := by
  constructor
  · intro h
    obtain ⟨hexec, hdisorder⟩ :
        (exec (step DbState.noRelays (· == ·)) start refusedRun).isSome = true ∧
          ¬((worldAfter refusedRun).eventsOf "net-1").Pairwise
            fun later earlier => earlier.revision < later.revision := by decide
    exact hdisorder (h _ _ _ (.of_exec .start (exec_worldAfter hexec)) "net-1")
  · intro h
    obtain ⟨hexec, hfanouts, hknown, hstored⟩ :
        (exec (step DbState.noRelays (· == ·)) start overtakenRun).isSome = true ∧
          (worldAfter overtakenRun).fanouts = [] ∧
          ((known "node-1" ((worldAfter overtakenRun).eventsOf "net-1")).map
            fun said => said.map Peer.endpoints) = some (some []) ∧
          ((worldAfter overtakenRun).db.stored "net-1" "node-1").map List.length = some 1 := by
      decide
    have hreach : Reachable (guarded (fun _ a => a.answered = true)
        (rel (step DbState.noRelays (· == ·)))) start (worldAfter overtakenRun) :=
      .guarded_of_exec .start (fun a ha _ => (by decide : ∀ a ∈ overtakenRun, a.answered) a ha)
        (exec_worldAfter hexec)
    have hrest : (worldAfter overtakenRun).AtRest "net-1" "node-1" := by
      intro fanout hfanout
      rw [hfanouts] at hfanout
      cases hfanout
    have htold := h _ _ _ hreach "net-1" "node-1" hrest _ (.refl _)
    cases hsaid : known "node-1" ((worldAfter overtakenRun).eventsOf "net-1") with
    | none =>
      rw [hsaid] at hknown
      cases hknown
    | some said =>
      cases said with
      | none =>
        rw [hsaid] at hknown
        cases hknown
      | some peer =>
        rw [hsaid] at htold hknown
        cases hrows : (worldAfter overtakenRun).db.stored "net-1" "node-1" with
        | none =>
          rw [hrows] at hstored
          cases hstored
        | some rows =>
          rw [hrows] at htold hstored
          obtain ⟨_, now, hendpoints⟩ := htold
          -- the last word is of no endpoint, and one is stored
          have hpeer : peer.endpoints = [] := Option.some.inj (Option.some.inj hknown)
          have hlength : rows.length = 1 := Option.some.inj hstored
          have hlisted := congrArg List.length hendpoints
          rw [hpeer, List.length_append, List.length_map, hlength, List.length_nil] at hlisted
          omega

/-- What is done before a device has come online leaves nothing to announce. -/
def offline (p : DbState) : Bool := p.store.devices.rows.all fun device => device.status != "online"

def staysOffline (p : DbState) : List Action → Bool
  | [] => offline p
  | a :: as => offline p && staysOffline (p.after DbState.noRelays (· == ·) a) as

theorem stored_of_offline {p : DbState} (h : offline p = true) (networkId nodeId : String) :
    p.stored networkId nodeId = none := by
  refine if_neg fun hpresent => ?_
  unfold DbState.present at hpresent
  obtain ⟨record, _, hall⟩ := (Option.any_eq_true _ _).mp hpresent
  rw [Bool.and_eq_true, Bool.and_eq_true] at hall
  obtain ⟨device, hdevice, honline⟩ := (Option.any_eq_true _ _).mp hall.1.2
  have hmem : device ∈ p.store.devices := Relation.mem_of_find? hdevice
  have hstatus := List.all_eq_true.mp h device hmem
  rw [bne_iff_ne] at hstatus
  exact hstatus (beq_iff_eq.mp honline)

theorem session_of_stored {p : DbState} {networkId nodeId : String}
    (h : p.stored networkId nodeId ≠ none) :
    ∃ row ∈ p.store.controlSessions, row.nodeId = nodeId ∧ row.networkId = networkId := by
  have hpresent : p.present networkId nodeId = true := by
    by_contra habsent
    exact h (if_neg habsent)
  unfold DbState.present at hpresent
  obtain ⟨record, _, hall⟩ := (Option.any_eq_true _ _).mp hpresent
  rw [Bool.and_eq_true] at hall
  obtain ⟨row, hrow, hof⟩ := List.any_eq_true.mp hall.2
  rw [Bool.and_eq_true, beq_iff_eq, beq_iff_eq] at hof
  exact ⟨row, hrow, hof⟩

/-- A serial run, where names are compared as they are. -/
def SerialRun (w : FanoutWorld) : Prop :=
  Reachable (guarded (Serial DbState.noRelays (· == ·)) (rel (step DbState.noRelays (· == ·))))
    start w

theorem SerialRun.performs {p : DbState} (as : List Action) (h : SerialRun ⟨p, [], []⟩)
    (hoffline : staysOffline p as = true) :
    SerialRun ⟨as.foldl (DbState.after DbState.noRelays (· == ·)) p, [], []⟩ := by
  induction as generalizing p with
  | nil => exact h
  | cons a as ih =>
    obtain ⟨hbefore, hlater⟩ := Bool.and_eq_true_iff.mp hoffline
    have hafter : offline (p.after DbState.noRelays (· == ·) a) = true := by
      cases as with
      | nil => exact hlater
      | cons _ _ => exact (Bool.and_eq_true_iff.mp hlater).1
    refine ih (.next (a := .perform a) h ⟨fun t hstep => ?_, rfl⟩) hlater
    obtain rfl := Option.some.inj hstep
    refine ⟨fun networkId nodeId hne => absurd ?_ hne, fun _ _ => nofun⟩
    rw [stored_of_offline hafter, stored_of_offline hbefore]

def registered : DbState := registering.foldl (DbState.after DbState.noRelays (· == ·)) .start

/-- After its hello. -/
def greeted : FanoutWorld :=
  handleNodeHello DbState.noRelays ⟨registered, [], []⟩ 100 ⟨"", "", "", ""⟩ (helloOf "node-1" "4")

/-- The hello's fan-out has read the node. -/
def readOut : FanoutWorld := readPeer DbState.noRelays greeted 100 0 oneNodeSession

def onePeer : Peer :=
  ⟨"node-1", "dev-2", "public", "online", true, ["10.0.0.2"], [], ["10.0.0.0/16"]⟩

/-- The hello is announced. -/
def announcedHello : FanoutWorld :=
  execD (step DbState.noRelays (· == ·)) readOut [.draw 0 .answered]

-- the three states are evaluated together, since each is computed from the one before
theorem hello_evaluated :
    (staysOffline .start registering = true ∧ offline registered = true) ∧
      (greeted.fanouts = [.peerUpdate oneNodeSession] ∧
        (∀ row ∈ greeted.db.store.controlSessions,
          row.networkId = "net-1" ∧ row.nodeId = "node-1") ∧
        hasFreshControlSession greeted.db.store "node-1" "net-1" 100 = true ∧
        (greeted.db.requireNodeSession "user-1" "node-1" "net-1").toOption.isSome = true) ∧
      (exec (step DbState.noRelays (· == ·)) readOut [.draw 0 .answered]).isSome = true ∧
      readOut.fanouts = [.snapshot oneNodeSession onePeer] ∧
      readOut.db.stored "net-1" "node-1" = some [] := by decide

theorem serialRun_registered : SerialRun ⟨registered, [], []⟩ :=
  .performs _ .start hello_evaluated.1.1

theorem serialRun_greeted : SerialRun greeted := by
  refine .next (a := .nodeHello 100 ⟨"", "", "", ""⟩ (helloOf "node-1" "4")) serialRun_registered
    ⟨fun t hstep => ?_, rfl⟩
  obtain rfl := Option.some.inj hstep
  obtain ⟨⟨_, hoffline⟩, ⟨hfanouts, hrows, _⟩, _⟩ := hello_evaluated
  constructor
  · intro networkId nodeId hne
    rw [stored_of_offline hoffline networkId nodeId] at hne
    obtain ⟨row, hrow, rfl, rfl⟩ := session_of_stored hne
    obtain ⟨hnetwork, hnode⟩ := hrows row hrow
    exact ⟨_, hfanouts, hnetwork.symm, hnode.symm⟩
  · intro networkId nodeId hremoved
    have hstarted := hfanouts.symm.trans hremoved
    cases hstarted

theorem serialRun_readOut : SerialRun readOut := by
  obtain ⟨_, ⟨hfanouts, _, hfresh, hallowed⟩, _⟩ := hello_evaluated
  have hfirst : greeted.fanouts[0]? = some (.peerUpdate oneNodeSession) := by
    rw [hfanouts]
    rfl
  refine .next (a := .readPeer 100 0) serialRun_greeted ⟨fun session hsession _ => ?_, ?_⟩
  · obtain rfl := Fanout.peerUpdate.inj (Option.some.inj (hfirst.symm.trans hsession))
    refine ⟨?_, hfresh⟩
    cases hsource : greeted.db.requireNodeSession "user-1" "node-1" "net-1" with
    | ok source => exact ⟨source, hsource⟩
    | error err =>
      rw [hsource] at hallowed
      cases hallowed
  · exact step_readPeer_eq _ _ hfirst

theorem serialRun_announcedHello : SerialRun announcedHello := by
  obtain ⟨_, _, hdrawn, hfanouts, hstored⟩ := hello_evaluated
  have hexec : exec (step DbState.noRelays (· == ·)) readOut [.draw 0 .answered] =
      some announcedHello := exec_eq_execD hdrawn
  obtain ⟨t, hstep, ht⟩ := Option.bind_eq_some_iff.mp hexec
  obtain rfl := Option.some.inj ht
  refine .next (a := .draw 0 .answered) serialRun_readOut ⟨⟨rfl, fun fanout hfanout => ?_⟩, hstep⟩
  rw [hfanouts] at hfanout ⊢
  obtain rfl := Option.some.inj hfanout
  refine ⟨_, List.mem_singleton_self _, rfl, rfl, ?_⟩
  show Describes DbState.noRelays (some onePeer) (readOut.db.stored "net-1" "node-1")
  rw [hstored]
  exact ⟨rfl, 100, rfl⟩

end Samples

theorem revisions_order_hello :
    ((announcedHello.eventsOf "net-1").Pairwise
      fun later earlier => earlier.revision < later.revision) ∧
      ∀ nodeId, announcedHello.AtRest "net-1" nodeId → ∀ received,
        received.Perm (announcedHello.eventsOf "net-1") →
          Announcements.Told (Describes DbState.noRelays) (known nodeId received)
            (announcedHello.db.stored "net-1" nodeId) :=
  revisions_order_states serialRun_announcedHello "net-1"

end FanoutWorld

end Slan.Maps
