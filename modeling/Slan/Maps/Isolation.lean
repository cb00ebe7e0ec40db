import Slan.Maps.Audience

/-! # Who has caused what a connection is sent

A forwarded candidate is the one that was received: it names the node that it is for. A hub keeps a
connection in the network of its hello, and what is kept for a node is sent to it wherever it is.
-/

namespace Slan.Maps

open Control (ControlWSHub ControlWSSession WsSession)
open Networks (Store)
open Transition

def Delivery.Isolated (delivery : Delivery) : Prop :=
  delivery.payload.FromMember delivery.store delivery.session.networkId delivery.source

/-- Everything that was delivered came from a member of the network that its receiver was in. -/
def ControlPlane.Isolated (w : ControlPlane) : Prop := ∀ delivery ∈ w.deliveries, delivery.Isolated

namespace ControlPlane

/-- What is on its way to a node, or kept for it, and who has caused it. -/
inductive Awaits (w : ControlPlane) (nodeId : String) : String → Payload → Prop
  | onWay {i : Nat} {published : PublishedEvent} : published ∈ w.inboxes i →
    published.event.target? = some nodeId →
    Awaits w nodeId published.event.source published.event.payload
  | kept {message : OutboundMessage} : message ∈ w.messages → message.targetNodeId = nodeId →
    Awaits w nodeId message.source message.payload

/-- A membership that something depends on: of a node in the network that it is connected in, or of
one that has caused what is on its way or kept. -/
inductive Relied (w : ControlPlane) : String → String → Prop
  | connected {c : Nat} {session : WsSession} : w.connections c = some session →
    Relied w session.networkId session.nodeId
  | onWay {i : Nat} {published : PublishedEvent} (networkId : String) : published ∈ w.inboxes i →
    published.event.notice = false → Relied w networkId published.event.source
  | kept {message : OutboundMessage} (networkId : String) : message ∈ w.messages →
    Relied w networkId message.source

/-- A connection may be authenticated as a node that is nowhere in another network, and for which
there is only what members of this one have caused. -/
structure EntersAlone (w : ControlPlane) (session : WsSession) (nodeId networkId : String) :
    Prop where
  same : session.nodeId = "" ∨ session.nodeId = nodeId ∧ session.networkId = networkId
  uniform : ∀ c other, w.connections c = some other → other.nodeId = nodeId →
    other.networkId = networkId
  awaited : ∀ source payload, w.Awaits nodeId source payload →
    payload.FromMember w.db.store networkId source

/-- A connection stays the one of its node in its network, who is relied on stays a member, and a
candidate or a plan goes to nobody who is elsewhere. -/
def KeepsInside (relays : Relays) (sameName : String → String → Bool) (w : ControlPlane) :
    ServerMove → Prop
  | .ask _ (.message now c (.nodeHello hello)) => ∀ session, w.connections c = some session →
    ∀ answer q, w.db.handshake relays now hello = (.ok answer, q) →
      w.EntersAlone session hello.nodeId hello.networkId
  | .ask _ (.message now c (.networkMapRequest networkId)) => ∀ session,
    w.connections c = some session → Handled.AnswersMap relays now w.db session networkId →
      StaysIn session networkId
  | .ask _ (.message _ c (.peerCandidate candidate allowed)) => ∀ session,
    w.connections c = some session → session.authorized = true → candidate.Forwarded allowed →
      Unheard w.connections session candidate
  | .ask _ (.message _ c (.connectionState state allowed)) => ∀ session,
    w.connections c = some session → session.authorized = true → state.Replanned allowed →
      SharesNetworks w.db.store w.connections session state.peerNodeId
  | .ask _ (.request r) => ∀ networkId nodeId, w.Relied networkId nodeId →
    isMember w.db.store networkId nodeId = true →
      isMember (r.after sameName w.db.store) networkId nodeId = true
  | _ => True

structure Inside (home : Nat → Nat) (w : ControlPlane) : Prop where
  current : ∀ i, Current w.connections (w.hubs i)
  homed : ∀ i nodeId entry, (w.hubs i).session nodeId = some entry → home entry.connection = i
  uniform : Uniform w.connections
  members : ∀ c session, w.connections c = some session → session.nodeId ≠ "" →
    isMember w.db.store session.networkId session.nodeId = true
  onWay : ∀ i, ∀ published ∈ w.inboxes i, published.event.Fits w.db.store w.connections
  kept : ∀ message ∈ w.messages,
    Addressed w.db.store w.connections message.targetNodeId message.source message.payload
  isolated : w.Isolated

variable {relays : Relays} {sameName : String → String → Bool} {home : Nat → Nat}
  {w t : ControlPlane} {event : ControlSyncEvent} {c : Nat} {session : WsSession}

theorem inside_start (home : Nat → Nat) : Inside home start where
  current i nodeId entry hentry := by
    have hnone : (start.hubs i).session nodeId = none := Table.get?_empty nodeId
    rw [hnone] at hentry
    cases hentry
  homed i nodeId entry hentry := by
    have hnone : (start.hubs i).session nodeId = none := Table.get?_empty nodeId
    rw [hnone] at hentry
    cases hentry
  uniform := fun c c' session session' hopen => nomatch hopen
  members := fun c session hopen => nomatch hopen
  onWay := fun i published hmem => nomatch hmem
  kept := fun message hmem => nomatch hmem
  isolated := fun delivery hmem => nomatch hmem

/-! ## Sending -/

theorem Inside.fromMember (h : Inside home w) (hfits : event.Fits w.db.store w.connections)
    {i : Nat} {entry : ControlWSSession} (hmem : entry ∈ event.receivers (w.hubs i)) :
    w.connections entry.connection = some entry.session ∧
      event.payload.FromMember w.db.store entry.session.networkId event.source := by
  obtain ⟨hin, hreached⟩ := (h.current i).keyed.mem_receivers.mp hmem
  have hopen := ((h.current i).mem_sessions hin).1
  exact ⟨hopen, hfits.of_reaches hopen hreached⟩

theorem Inside.send (h : Inside home w) (i : Nat)
    (hfits : event.Fits w.db.store w.connections) : Inside home (w.send i event) where
  current := h.current
  homed := h.homed
  uniform := h.uniform
  members := h.members
  onWay := h.onWay
  kept message hmem := by
    rcases List.mem_append.mp hmem with hmem | hmem
    · exact h.kept message hmem
    · obtain ⟨entry, hentry, rfl⟩ := List.mem_map.mp hmem
      obtain ⟨hopen, hmember⟩ := h.fromMember hfits hentry
      intro c other hother hsame hnamed
      have hnetwork : other.networkId = entry.session.networkId :=
        h.uniform c _ other _ hother hopen hsame (hsame ▸ hnamed)
      change event.payload.FromMember w.db.store other.networkId event.source
      rw [hnetwork]
      exact hmember
  isolated delivery hmem := by
    rcases List.mem_append.mp hmem with hmem | hmem
    · exact h.isolated delivery hmem
    · obtain ⟨entry, hentry, hdelivered⟩ := List.mem_filterMap.mp hmem
      obtain ⟨hopen, hmember⟩ := h.fromMember hfits hentry
      unfold deliverTo at hdelivered
      rw [hopen, Option.map_some] at hdelivered
      obtain rfl := Option.some.inj hdelivered
      exact hmember

theorem Inside.publish (h : Inside home w) (instanceId : Option Nat)
    (hfits : event.Fits w.db.store w.connections) : Inside home (w.publish instanceId event) where
  current := h.current
  homed := h.homed
  uniform := h.uniform
  members := h.members
  onWay i published hmem := by
    rcases List.mem_append.mp hmem with hmem | hmem
    · exact h.onWay i published hmem
    · obtain rfl := List.mem_singleton.mp hmem
      exact hfits
  kept := h.kept
  isolated := h.isolated

theorem Inside.dispatch (h : Inside home w) (i : Nat) {d : Dispatch}
    (hfits : d.event.Fits w.db.store w.connections) : Inside home (dispatch i w d) := by
  cases d with
  | fanout event => exact (h.send i hfits).publish (some i) hfits
  | here event => exact h.send i hfits
  | publish event => exact h.publish none hfits
  | again event => exact h.send i hfits

theorem Inside.dispatchAll (h : Inside home w) (i : Nat) {ds : List Dispatch}
    (hfits : ∀ d ∈ ds, d.event.Fits w.db.store w.connections) :
    Inside home (dispatchAll i w ds) := by
  induction ds generalizing w with
  | nil => exact h
  | cons d ds ih =>
    refine ih (h.dispatch i (hfits d List.mem_cons_self)) fun d' hd' => ?_
    have hlater := hfits d' (List.mem_cons_of_mem d hd')
    cases d <;> exact hlater

theorem Inside.receive (h : Inside home w) {i : Nat} (hstep : w.receive i = some t) :
    Inside home t := by
  unfold ControlPlane.receive at hstep
  split at hstep
  · cases hstep
  rename_i published rest hinbox
  obtain rfl := Option.some.inj hstep
  have hrest : Inside home { w with inboxes := Function.update w.inboxes i rest } :=
    { current := h.current
      homed := h.homed
      uniform := h.uniform
      members := h.members
      onWay := fun j other hmem => by
        by_cases hj : j = i
        · rw [hj] at hmem
          change other ∈ Function.update w.inboxes i rest i at hmem
          rw [Function.update_self] at hmem
          exact h.onWay i other (hinbox ▸ List.mem_cons_of_mem published hmem)
        · change other ∈ Function.update w.inboxes i rest j at hmem
          rw [Function.update_of_ne hj] at hmem
          exact h.onWay j other hmem
      kept := h.kept
      isolated := h.isolated }
  split
  · exact hrest
  · exact hrest.send i (h.onWay i published (hinbox ▸ List.mem_cons_self))

theorem Inside.resend (h : Inside home w) {i j : Nat} (hstep : w.resend i j = some t) :
    Inside home t := by
  obtain ⟨message, hmessage, rfl⟩ := Option.map_eq_some_iff.mp hstep
  split
  · exact h
  rename_i entry hentry
  obtain ⟨hopen, hnode, hnamed⟩ := h.current i _ entry hentry
  refine ⟨h.current, h.homed, h.uniform, h.members, h.onWay, h.kept, fun delivery hmem => ?_⟩
  rcases List.mem_append.mp hmem with hmem | hmem
  · exact h.isolated delivery hmem
  · rw [Option.mem_toList] at hmem
    unfold deliverTo at hmem
    rw [hopen, Option.map_some] at hmem
    obtain rfl := Option.some.inj hmem
    exact h.kept message (List.mem_of_getElem? hmessage) entry.connection entry.session hopen hnode
      hnamed

/-! ## Members and connections -/

/-- The state of the database may change as long as who is relied on stays a member. -/
theorem Inside.restore (h : Inside home w) (db : DbState)
    (hkeeps : ∀ networkId nodeId, w.Relied networkId nodeId →
      isMember w.db.store networkId nodeId = true → isMember db.store networkId nodeId = true) :
    Inside home { w with db } where
  current := h.current
  homed := h.homed
  uniform := h.uniform
  members c session hopen hnamed :=
    hkeeps _ _ (.connected hopen) (h.members c session hopen hnamed)
  onWay i published hmem := by
    by_cases hnotice : published.event.notice = true
    · exact .of_notice hnotice
    · rw [Bool.not_eq_true] at hnotice
      exact (h.onWay i published hmem).mono fun networkId =>
        hkeeps networkId _ (.onWay networkId hmem hnotice)
  kept message hmem c session hopen hnode hnamed :=
    (h.kept message hmem c session hopen hnode hnamed).mono
      (hkeeps session.networkId _ (.kept _ hmem))
  isolated := h.isolated

/-- A connection changes, and the hub of its server, where it is not without its node. -/
theorem Inside.connect (h : Inside home w) {after : Option WsSession} {hub : ControlWSHub}
    (hhub : ∀ nodeId entry, hub.session nodeId = some entry → home entry.connection = home c ∧
      Function.update w.connections c after entry.connection = some entry.session ∧
        entry.session.nodeId = nodeId ∧ nodeId ≠ "")
    (hnew : ∀ s, after = some s → s.nodeId ≠ "" →
      isMember w.db.store s.networkId s.nodeId = true ∧
        (∀ c' other, w.connections c' = some other → other.nodeId = s.nodeId →
          other.networkId = s.networkId) ∧
        ∀ source payload, w.Awaits s.nodeId source payload →
          payload.FromMember w.db.store s.networkId source) :
    Inside home { w with
      connections := Function.update w.connections c after
      hubs := Function.update w.hubs (home c) hub } where
  current i nodeId entry hentry := by
    by_cases hi : i = home c
    · rw [hi] at hentry
      change (Function.update w.hubs (home c) hub (home c)).session nodeId = some entry at hentry
      rw [Function.update_self] at hentry
      exact (hhub nodeId entry hentry).2
    · change (Function.update w.hubs (home c) hub i).session nodeId = some entry at hentry
      rw [Function.update_of_ne hi] at hentry
      have helsewhere : entry.connection ≠ c := fun hc =>
        hi ((h.homed i nodeId entry hentry).symm.trans (congrArg home hc))
      change Function.update w.connections c after entry.connection = some entry.session ∧ _
      rw [Function.update_of_ne helsewhere]
      exact h.current i nodeId entry hentry
  homed i nodeId entry hentry := by
    by_cases hi : i = home c
    · rw [hi] at hentry ⊢
      change (Function.update w.hubs (home c) hub (home c)).session nodeId = some entry at hentry
      rw [Function.update_self] at hentry
      exact (hhub nodeId entry hentry).1
    · change (Function.update w.hubs (home c) hub i).session nodeId = some entry at hentry
      rw [Function.update_of_ne hi] at hentry
      exact h.homed i nodeId entry hentry
  uniform a b s s' ha hb hsame hnamed := by
    -- of two connections of one node at most one is the new one
    have hone : ∀ {d s}, Function.update w.connections c after d = some s →
        after = some s ∨ w.connections d = some s := by
      intro d s hd
      by_cases hdc : d = c
      · rw [hdc, Function.update_self] at hd
        exact .inl hd
      · rw [Function.update_of_ne hdc] at hd
        exact .inr hd
    rcases hone ha with ha | ha <;> rcases hone hb with hb | hb
    · rw [Option.some.inj (ha.symm.trans hb)]
    · exact ((hnew s ha hnamed).2.1 b s' hb hsame.symm).symm
    · exact (hnew s' hb (hsame ▸ hnamed)).2.1 a s ha hsame
    · exact h.uniform a b s s' ha hb hsame hnamed
  members d s hd hnamed := by
    by_cases hdc : d = c
    · rw [hdc] at hd
      change Function.update w.connections c after c = some s at hd
      rw [Function.update_self] at hd
      exact (hnew s hd hnamed).1
    · change Function.update w.connections c after d = some s at hd
      rw [Function.update_of_ne hdc] at hd
      exact h.members d s hd hnamed
  onWay i published hmem := by
    refine ⟨(h.onWay i published hmem).announced, fun nodeId htarget => ?_⟩
    refine ((h.onWay i published hmem).addressed nodeId htarget).update fun s hs hnode hnamed => ?_
    exact (hnew s hs (hnode ▸ hnamed)).2.2 _ _ (.onWay hmem (hnode ▸ htarget))
  kept message hmem := (h.kept message hmem).update fun s hs hnode hnamed =>
    (hnew s hs (hnode ▸ hnamed)).2.2 _ _ (.kept hmem hnode.symm)
  isolated := h.isolated

theorem Inside.opened (h : Inside home w) (hclosed : w.connections c = none) (deviceId : String) :
    Inside home { w with
      connections := Function.update w.connections c (some ⟨"", deviceId, "", ""⟩) } := by
  have hopened : Inside home { w with
      hubs := Function.update w.hubs (home c) (w.hubs (home c))
      connections := Function.update w.connections c (some ⟨"", deviceId, "", ""⟩) } :=
    h.connect (fun nodeId entry hentry => ?_) fun s hs hnamed => ?_
  · rw [Function.update_eq_self] at hopened
    exact hopened
  · obtain ⟨hopen, hrest⟩ := h.current (home c) nodeId entry hentry
    refine ⟨h.homed _ nodeId entry hentry, ?_, hrest⟩
    rw [Function.update_of_ne]
    · exact hopen
    · rintro rfl
      rw [hclosed] at hopen
      cases hopen
  · obtain rfl := Option.some.inj hs
    exact absurd rfl hnamed

theorem Inside.greet (h : Inside home w) (hopen : w.connections c = some session)
    {greeted : WsSession} (hnamed : greeted.nodeId ≠ "")
    (hmember : isMember w.db.store greeted.networkId greeted.nodeId = true)
    (henters : w.EntersAlone session greeted.nodeId greeted.networkId) :
    Inside home { w with
      connections := Function.update w.connections c (some greeted)
      hubs := Function.update w.hubs (home c) ((w.hubs (home c)).register ⟨c, greeted⟩) } := by
  refine h.connect (fun nodeId entry hentry => ?_) fun s hs _ => ?_
  · rw [ControlWSHub.session_register] at hentry
    split at hentry
    · rename_i hnode
      obtain rfl := Option.some.inj hentry
      refine ⟨rfl, ?_, hnode.symm, hnode ▸ hnamed⟩
      rw [Function.update_self]
    · rename_i hother
      obtain ⟨hwas, hnode, hne⟩ := h.current (home c) nodeId entry hentry
      refine ⟨h.homed _ nodeId entry hentry, ?_, hnode, hne⟩
      rw [Function.update_of_ne]
      · exact hwas
      · intro hc
        rw [hc, hopen] at hwas
        rw [← Option.some.inj hwas] at hnode
        rcases henters.same with hempty | hsame
        · exact hne (hnode.symm.trans hempty)
        · exact hother (hnode.symm.trans hsame.1)
  · obtain rfl := Option.some.inj hs
    exact ⟨hmember, henters.uniform, henters.awaited⟩

theorem Inside.close (h : Inside home w) (hopen : w.connections c = some session) :
    Inside home { w with
      connections := Function.update w.connections c none
      hubs := Function.update w.hubs (home c) ((w.hubs (home c)).unregister session.nodeId) } := by
  refine h.connect (fun nodeId entry hentry => ?_) nofun
  rw [ControlWSHub.session_unregister] at hentry
  split at hentry
  · cases hentry
  rename_i hother
  obtain ⟨hwas, hnode, hne⟩ := h.current (home c) nodeId entry hentry
  refine ⟨h.homed _ nodeId entry hentry, ?_, hnode, hne⟩
  rw [Function.update_of_ne]
  · exact hwas
  · intro hc
    rw [hc, hopen] at hwas
    rw [← Option.some.inj hwas] at hnode
    exact hother ⟨hnode ▸ hne, hnode.symm⟩

/-! ## Whole runs -/

theorem Inside.finish {after : Option WsSession} {handled : Handled}
    (h : Inside home { w with
      db := handled.db
      connections := Function.update w.connections c after
      hubs := Function.update w.hubs (home c) handled.hub })
    (hfits : ∀ d ∈ handled.dispatches,
      d.event.Fits handled.db.store (Function.update w.connections c after)) :
    Inside home (w.finish (home c) c after handled) :=
  h.dispatchAll (home c) hfits

theorem Inside.same (h : Inside home w) {db : DbState} (hsame : SameNetworks w.db.store db.store) :
    Inside home { w with db } :=
  h.restore db fun networkId nodeId _ hmember => (hsame.isMember networkId nodeId).trans hmember

/-- A message that leaves its connection and the hub as they are. -/
theorem Inside.keep (h : Inside home w) (hopen : w.connections c = some session)
    {handled : Handled} (hsame : SameNetworks w.db.store handled.db.store)
    (hhub : handled.hub = w.hubs (home c)) (hsession : handled.session = session)
    (hfits : ∀ d ∈ handled.dispatches, d.event.Fits handled.db.store w.connections) :
    Inside home (w.finish (home c) c (some handled.session) handled) := by
  have hconnections : Function.update w.connections c (some handled.session) = w.connections := by
    rw [hsession, ← hopen, Function.update_eq_self]
  have hhubs : Function.update w.hubs (home c) handled.hub = w.hubs := by
    rw [hhub, Function.update_eq_self]
  refine Inside.finish ?_ ?_
  · rw [hconnections, hhubs]
    exact h.same hsame
  · rw [hconnections]
    exact hfits

theorem inside_nodeHello (hw : Inside home w) {now : Int} {hello : Control.NodeHello}
    (hopen : w.connections c = some session)
    (hgreets : ∀ answer q, w.db.handshake relays now hello = (.ok answer, q) →
      w.EntersAlone session hello.nodeId hello.networkId) :
    Inside home (w.finish (home c) c
      (some (Handled.nodeHello relays now w.db (w.hubs (home c)) c session hello).session)
      (Handled.nodeHello relays now w.db (w.hubs (home c)) c session hello)) := by
  have hsame := @DbState.sameNetworks_handshake relays now w.db hello
  unfold Handled.nodeHello
  split
  · rename_i err q heq
    rw [heq] at hsame
    exact hw.keep hopen hsame rfl rfl (List.forall_mem_nil _)
  · rename_i ack map q heq
    rw [heq] at hsame
    obtain ⟨hnamed, hmember⟩ := DbState.handshake_eq_ok heq
    obtain ⟨hfirst, huniform, hawaited⟩ := hgreets _ q heq
    dsimp only
    generalize hgreeted : Handled.greeted session hello map.selfUserId = greeted
    have hnode : greeted.nodeId = hello.nodeId := by rw [← hgreeted]; rfl
    have hnetwork : greeted.networkId = hello.networkId := by rw [← hgreeted]; rfl
    rw [← hnode] at hnamed hmember hfirst huniform hawaited
    rw [← hnetwork] at hmember hfirst huniform hawaited
    have henters : EntersAlone { w with db := q } session greeted.nodeId greeted.networkId :=
      ⟨hfirst, huniform, fun source payload hawaits =>
        (hawaited source payload (by cases hawaits with
          | onWay hmem htarget => exact .onWay hmem htarget
          | kept hmem htarget => exact .kept hmem htarget)).mono fun h =>
            (hsame.isMember _ _).trans h⟩
    have hmoved := (hw.same hsame).greet hopen hnamed hmember henters
    have hstore : SameNetworks q.store (Handled.fanouts relays now q
        ((w.hubs (home c)).register ⟨c, greeted⟩) greeted).db.store := by
      rw [Handled.store_fanouts]
      exact .refl _
    refine Inside.finish (hmoved.same hstore) (Handled.fits_fanouts (c := c) ?_ hmoved.uniform ?_)
    · have hcurrent := hmoved.current (home c)
      change Current _ (Function.update w.hubs (home c) _ (home c)) at hcurrent
      rw [Function.update_self] at hcurrent
      exact hcurrent
    · exact Function.update_self _ _ _

theorem nodeId_of_authorized (h : session.authorized = true) : session.nodeId ≠ "" := by
  unfold WsSession.authorized at h
  simp only [Bool.and_eq_true, bne_iff_ne] at h
  exact h.1.2

theorem inside_message (hw : Inside home w) {now : Int} {m : ClientMessage} {i : Nat}
    (hopen : w.connections c = some session)
    (hok : w.KeepsInside relays sameName (.ask i (.message now c m))) :
    Inside home (w.finish (home c) c
      (some (Handled.message relays now w.db (w.hubs (home c)) c session m).session)
      (Handled.message relays now w.db (w.hubs (home c)) c session m)) := by
  by_cases hgreets : ∃ hello, m = .nodeHello hello
  · obtain ⟨hello, rfl⟩ := hgreets
    exact inside_nodeHello hw hopen (hok session hopen)
  rw [Handled.message_of_ne fun hello hm => hgreets ⟨hello, hm⟩]
  split
  · exact hw.keep hopen (.refl _) rfl rfl (List.forall_mem_nil _)
  rename_i hauthorized
  rw [Bool.not_eq_false] at hauthorized
  have hheartbeat := @DbState.sameNetworks_heartbeat now w.db session.userId session.nodeId
    session.networkId
  have hleaves : Handled.Leaves relays now w.db (w.hubs (home c)) c session
      (Handled.authorized relays now
        (w.db.heartbeat now session.userId session.nodeId session.networkId).2 (w.hubs (home c))
        session m) m := Handled.leaves_authorized w.db (w.hubs (home c)) session m
  have hmember : isMember w.db.store session.networkId session.nodeId = true :=
    hw.members c session hopen (nodeId_of_authorized hauthorized)
  have hkept : Handled.hub (Handled.authorized relays now
      (w.db.heartbeat now session.userId session.nodeId session.networkId).2 (w.hubs (home c))
        session m) = w.hubs (home c) ∧ Handled.session (Handled.authorized relays now
      (w.db.heartbeat now session.userId session.nodeId session.networkId).2 (w.hubs (home c))
        session m) = session := by
    cases hleaves with
    | same hhub hsession => exact ⟨hhub, hsession⟩
    | greeted hello => exact absurd ⟨hello, rfl⟩ hgreets
    | moved networkId hrequested hanswers hhub hmoved =>
      refine ⟨hhub, ?_⟩
      rcases hok session hopen hanswers with hempty | hstays
      · exact absurd hempty hrequested
      · rw [hmoved, hstays]
  refine hw.keep hopen (hheartbeat.trans (Handled.sameNetworks_authorized _ _ session m)) hkept.1
    hkept.2 (Handled.fits_authorized (hw.current (home c)) hw.uniform hopen
      ((hheartbeat.isMember _ _).trans hmember) ?_ ?_)
  · rintro candidate allowed rfl hforwarded
    exact hok session hopen hauthorized hforwarded
  · rintro state allowed rfl hreplanned hpeer c' other hother hnode
    rw [hheartbeat.isMember] at hpeer ⊢
    exact hok session hopen hauthorized hreplanned hpeer c' other hother hnode

theorem inside_close (hw : Inside home w) (hopen : w.connections c = some session) :
    Inside home (w.finish (home c) c none (Handled.closed w.db (w.hubs (home c)) session)) := by
  have hsame := w.db.sameNetworks_closeSession session.userId session.nodeId session.networkId
  refine Inside.finish ((hw.close hopen).same hsame)
    (Handled.fits_fanoutPeerRemove fun hnamed => ?_)
  exact (hsame.isMember _ _).trans (hw.members c session hopen hnamed)


theorem inside_step {a : ServerMove} (hw : Inside home w) (hok : w.KeepsInside relays sameName a)
    (hstep : w.step relays sameName home a = some t) : Inside home t := by
  cases a with
  | ask i asked =>
    cases asked with
    | «open» c deviceId =>
      simp only [step, ask] at hstep
      split at hstep
      · rename_i hclosed
        obtain rfl := Option.some.inj hstep
        exact hw.opened hclosed deviceId
      · cases hstep
    | message now c m =>
      obtain ⟨session, hopen, rfl⟩ := Option.map_eq_some_iff.mp hstep
      exact inside_message hw hopen hok
    | close c =>
      obtain ⟨session, hopen, rfl⟩ := Option.map_eq_some_iff.mp hstep
      exact inside_close hw hopen
    | request r =>
      obtain rfl := Option.some.inj hstep
      have hstore := DbState.store_handleRequest sameName w.db r
      have hkept : Inside home { w with db := (w.db.handleRequest sameName r).2 } :=
        hw.restore _ fun networkId nodeId hrelied hmember => by
          rw [hstore]
          exact hok networkId nodeId hrelied hmember
      exact hkept.dispatchAll i fun d hd =>
        .of_notice (DbState.notices_handleRequest sameName w.db r d hd)
    | createControlSession now fresh userId nodeId networkId =>
      obtain rfl := Option.some.inj hstep
      exact hw.same (w.db.sameNetworks_createControlSession fresh userId nodeId networkId)
    | cleanup now =>
      obtain rfl := Option.some.inj hstep
      exact hw.same ⟨rfl, rfl, rfl, rfl, rfl, rfl⟩
  | deliver i => exact hw.receive hstep
  | resend i j => exact hw.resend hstep
  | acknowledge j =>
    obtain rfl := Option.some.inj hstep
    exact ⟨hw.current, hw.homed, hw.uniform, hw.members, hw.onWay,
      fun message hmem => hw.kept message (List.mem_of_mem_eraseIdx hmem), hw.isolated⟩

/-- In every run of which each step keeps to the guard, control messages stay among the members of
a network, and a candidate names its sender. -/
theorem delivered_from_members (relays : Relays) (sameName : String → String → Bool)
    (home : Nat → Nat) (w : ControlPlane)
    (h : Reachable (guarded (KeepsInside relays sameName) (rel (step relays sameName home))) start
      w) : w.Isolated :=
  (h.invariant _ (inside_start home) fun _ _ _ hw hs => inside_step hw hs.1 hs.2).isolated

/-! ## A candidate for another node, and one for the node itself -/

section Samples

def candidateFor (peerNodeId : String) : PeerCandidate :=
  ⟨peerNodeId, "host", "1", 1, "udp", "192.0.2.10", 40000, "", 0, "", "192.0.2.10:40000"⟩

def offering (peerNodeId : String) : ServerMove :=
  .ask 0 (.message 101 0 (.peerCandidate (candidateFor peerNodeId) true))

/-- A second device of the network connects to another server, and the first node offers it a
candidate. -/
def introducing : List ServerMove :=
  settling ++ [greeting,
    .ask 0 (.request ⟨.ofDigits "3" (.refl true), .registerDevice "user-1" (Networks.newDevice "b")⟩)] ++
    [nodeOf "node-3" "dev-3"].filterMap asks ++
    [.ask 0 (.createControlSession 100 ⟨"6", "6"⟩ "user-1" "node-3" "net-1"),
      .ask 0 (.open 1 "dev-3"),
      .ask 0 (.message 100 1 (.nodeHello (helloOf "node-3" "6"))), offering "node-3"] ++
    List.replicate 8 (.deliver 1)

end Samples

/-- The candidate comes under the receiver's name. -/
theorem candidate_of_nobody : ¬∀ (relays : Relays) (sameName : String → String → Bool)
    (home : Nat → Nat) (w : ControlPlane), Reachable (rel (step relays sameName home)) start w →
      w.Isolated := by
  intro h
  obtain ⟨hexec, hdelivered⟩ :
      (exec (step DbState.noRelays (· == ·) id) start introducing).isSome = true ∧
        ("node-1", Payload.peerCandidate (candidateFor "node-3")) ∈
          (planeAfter introducing).deliveries.map fun delivery =>
            (delivery.source, delivery.payload) := by decide
  have hreach := Reachable.of_exec .start (exec_planeAfter introducing hexec)
  obtain ⟨delivery, hmem, hdelivery⟩ := List.mem_map.mp hdelivered
  have hisolated := h _ _ _ _ hreach delivery hmem
  unfold Delivery.Isolated at hisolated
  rw [(Prod.mk.inj hdelivery).1, (Prod.mk.inj hdelivery).2] at hisolated
  exact absurd hisolated.2 (by decide)

/-- Nobody is connected, and only notices are on their way. -/
structure Unconnected (w : ControlPlane) : Prop where
  connections : w.connections = fun _ => none
  hubs : w.hubs = fun _ => ∅
  inboxes : ∀ i, ∀ published ∈ w.inboxes i, published.event.notice = true
  messages : w.messages = []

theorem receivers_empty (event : ControlSyncEvent) : event.receivers ∅ = [] := by
  have hkeyed : Keyed ∅ := fun nodeId entry hentry => by
    have hnone : ControlWSHub.session ∅ nodeId = none := Table.get?_empty nodeId
    rw [hnone] at hentry
    cases hentry
  refine List.eq_nil_iff_forall_not_mem.mpr fun entry hmem => ?_
  obtain ⟨nodeId, hentry⟩ := Maps.mem_sessions.mp (hkeyed.mem_receivers.mp hmem).1
  have hnone : ControlWSHub.session ∅ nodeId = none := Table.get?_empty nodeId
  rw [hnone] at hentry
  cases hentry

theorem Unconnected.dispatchAll (h : Unconnected w) (i : Nat) {ds : List Dispatch}
    (hds : Notices ds) : Unconnected (dispatchAll i w ds) := by
  induction ds generalizing w with
  | nil => exact h
  | cons d ds ih =>
    refine ih ?_ fun d' hd' => hds d' (List.mem_cons_of_mem d hd')
    have hnotice := hds d List.mem_cons_self
    have hpublished : ∀ (instanceId : Option Nat) (j : Nat),
        ∀ published ∈ w.inboxes j ++ [⟨instanceId, d.event⟩], published.event.notice = true := by
      intro instanceId j published hmem
      rcases List.mem_append.mp hmem with hmem | hmem
      · exact h.inboxes j published hmem
      · rw [List.mem_singleton.mp hmem]
        exact hnotice
    have hsent : ∀ event, (w.send i event).messages = [] := fun event => by
      change w.messages ++ List.map _ (event.receivers (w.hubs i)) = []
      rw [h.messages, h.hubs, receivers_empty]
      rfl
    cases d with
    | fanout event => exact ⟨h.connections, h.hubs, hpublished (some i), hsent event⟩
    | here event => exact ⟨h.connections, h.hubs, h.inboxes, hsent event⟩
    | publish event => exact ⟨h.connections, h.hubs, hpublished none, h.messages⟩
    | again event => exact ⟨h.connections, h.hubs, h.inboxes, hsent event⟩

theorem Unconnected.keepsMembers (h : Unconnected w) {i : Nat} {r : Networks.Request} :
    w.KeepsInside relays sameName (.ask i (.request r)) := by
  intro networkId nodeId hrelied
  cases hrelied with
  | connected hopen =>
    rw [h.connections] at hopen
    cases hopen
  | onWay _ hmem hother =>
    rw [h.inboxes _ _ hmem] at hother
    cases hother
  | kept _ hmem =>
    rw [h.messages] at hmem
    cases hmem

/-- Requests before anyone connects. -/
theorem guarded_requests :
    Reachable (guarded (KeepsInside DbState.noRelays (· == ·))
      (rel (step DbState.noRelays (· == ·) id))) start (planeAfter (oneNodeRun.filterMap asks)) ∧
      Unconnected (planeAfter (oneNodeRun.filterMap asks)) := by
  have hstart : Unconnected start := ⟨rfl, rfl, fun _ _ hmem => absurd hmem List.not_mem_nil, rfl⟩
  have hkept := reachable_requests.restricted_of_guarded Unconnected
    (fun w a t => w.KeepsInside DbState.noRelays (· == ·) a ∧ Unconnected t) hstart
    (fun _ _ _ h => h.2) fun w a t _ hw hrequest hstep => by
      obtain ⟨r, rfl⟩ := hrequest
      refine ⟨hw.keepsMembers, ?_⟩
      obtain rfl := Option.some.inj hstep
      have hdb : Unconnected { w with db := (w.db.handleRequest (· == ·) r).2 } :=
        ⟨hw.connections, hw.hubs, hw.inboxes, hw.messages⟩
      exact hdb.dispatchAll 0 (DbState.notices_handleRequest _ _ r)
  exact ⟨hkept.1.mono fun _ _ _ hs => ⟨hs.2.1, hs.1⟩, hkept.2⟩

/-- A node that is greeted and sends a candidate of its own to itself. -/
theorem delivered_from_members_offering :
    (planeAfter (settling ++ [greeting, offering "node-1"])).Isolated := by
  obtain ⟨hreach, hunconnected⟩ := guarded_requests
  have hsettled : Reachable (guarded (KeepsInside DbState.noRelays (· == ·))
      (rel (step DbState.noRelays (· == ·) id))) start (planeAfter settling) := by
    refine hreach.guarded_of_exec (fun a ha u => ?_) (exec_execD settling_runs.2.1)
    rcases List.mem_pair.mp ha with rfl | rfl <;> trivial
  have hconnections : (planeAfter settling).connections =
      Function.update (fun _ => none) 0 (some ⟨"", "dev-2", "", ""⟩) := rfl
  have hinboxes : (planeAfter settling).inboxes =
      (planeAfter (oneNodeRun.filterMap asks)).inboxes := rfl
  have hmessages : (planeAfter settling).messages = [] := rfl
  have hgreeted : Reachable (guarded (KeepsInside DbState.noRelays (· == ·))
      (rel (step DbState.noRelays (· == ·) id))) start (planeAfter (settling ++ [greeting])) := by
    refine hsettled.next (a := greeting)
      ⟨fun session hopen answer q _ => ?_, rel_execD settling_runs.2.2⟩
    rw [hconnections, Function.update_self] at hopen
    obtain rfl := Option.some.inj hopen
    refine ⟨.inl rfl, fun c other hother hnode => ?_, fun source payload hawaits => ?_⟩
    · by_cases hc : c = 0
      · rw [hc, hconnections, Function.update_self] at hother
        obtain rfl := Option.some.inj hother
        exact absurd hnode (by decide)
      · rw [hconnections, Function.update_of_ne hc] at hother
        cases hother
    · cases hawaits with
      | @onWay i published hmem htarget =>
        rw [hinboxes] at hmem
        rw [ControlSyncEvent.target_of_notice (hunconnected.inboxes i published hmem)] at htarget
        cases htarget
      | kept hmem =>
        rw [hmessages] at hmem
        cases hmem
  obtain ⟨hexec, hnode⟩ :
      (exec (step DbState.noRelays (· == ·) id) start
        (settling ++ [greeting] ++ [offering "node-1"])).isSome = true ∧
      (planeAfter (settling ++ [greeting])).connections 0 = some firstSession := by decide
  rw [show settling ++ [greeting, offering "node-1"] = settling ++ [greeting] ++ [offering "node-1"]
    from (List.append_assoc settling [greeting] [offering "node-1"]).symm]
  refine delivered_from_members DbState.noRelays (· == ·) id _
    (hgreeted.next (a := offering "node-1") ⟨fun session hopen _ _ => ?_, rel_execD hexec⟩)
  obtain rfl := Option.some.inj (hnode.symm.trans hopen)
  exact .inl rfl

end ControlPlane

end Slan.Maps
