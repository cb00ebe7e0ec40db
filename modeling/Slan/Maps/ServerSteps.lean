import Slan.Maps.Servers

/-! # What a step does to the connections and to the hubs -/

namespace Slan.Maps

open Control (ControlWSHub ControlWSSession NodeHello WsSession)

/-! ## A hub and the connections -/

section Registers

variable {hub : ControlWSHub} {connections : Nat → Option WsSession} {own : Nat → Prop} {c : Nat}
  {session : WsSession}

/-- What happens to a connection of another hub, or before it has authenticated. -/
theorem Registers.update (h : Registers hub connections own) {after : Option WsSession}
    (hbefore : own c → ∀ s, connections c = some s → s.nodeId = "")
    (hafter : own c → ∀ s, after = some s → s.nodeId = "") :
    Registers hub (Function.update connections c after) own := by
  intro nodeId entry
  rw [h nodeId entry]
  refine and_congr_right fun hown => ?_
  by_cases hc : entry.connection = c
  · rw [hc] at hown ⊢
    rw [Function.update_self]
    constructor
    · rintro ⟨hopen, rfl, hnamed⟩
      exact absurd (hbefore hown _ hopen) hnamed
    · rintro ⟨hopen, rfl, hnamed⟩
      exact absurd (hafter hown _ hopen) hnamed
  · rw [Function.update_of_ne hc]

/-- An own connection authenticates, for the first time or once more as the same node. -/
theorem Registers.greet (h : Registers hub connections own) (hown : own c) {old : WsSession}
    (hopen : connections c = some old) (hold : old.nodeId = "" ∨ old.nodeId = session.nodeId)
    (halone : ∀ c' s, own c' → c' ≠ c → connections c' = some s → s.nodeId ≠ session.nodeId)
    (hnamed : session.nodeId ≠ "") :
    Registers (hub.register ⟨c, session⟩) (Function.update connections c (some session)) own := by
  intro nodeId entry
  rw [ControlWSHub.session_register]
  by_cases hc : entry.connection = c
  · rw [hc, Function.update_self]
    split
    · rename_i hnode
      constructor
      · intro hentry
        obtain rfl := Option.some.inj hentry
        exact ⟨hown, rfl, hnode.symm, hnode ▸ hnamed⟩
      · rintro ⟨_, hsession, _⟩
        cases entry
        rw [← hc, Option.some.inj hsession]
    · rename_i hother
      refine ⟨fun hentry => ?_, fun hentry => absurd ?_ hother⟩
      · obtain ⟨_, hwas, hnode, hne⟩ := (h nodeId entry).mp hentry
        rw [hc, hopen] at hwas
        rw [← Option.some.inj hwas] at hnode
        rcases hold with hempty | hsame
        · exact absurd (hnode.symm.trans hempty) hne
        · exact absurd (hnode.symm.trans hsame) hother
      · rw [Option.some.inj hentry.2.1]
        exact hentry.2.2.1.symm
  · rw [Function.update_of_ne hc]
    split
    · rename_i hnode
      refine ⟨fun hentry => absurd (congrArg ControlWSSession.connection
        (Option.some.inj hentry)).symm hc, ?_⟩
      rintro ⟨hown', hwas, hother, _⟩
      exact absurd (hother.trans hnode) (halone _ _ hown' hc hwas)
    · exact h nodeId entry

theorem Registers.close (h : Registers hub connections own) (hown : own c)
    (hopen : connections c = some session) (hone : OneConnection connections own) :
    Registers (hub.unregister session.nodeId) (Function.update connections c none) own := by
  intro nodeId entry
  rw [ControlWSHub.session_unregister]
  split
  · rename_i hself
    refine ⟨nofun, ?_⟩
    rintro ⟨hown', hwas, hnode, hnamed⟩
    by_cases hc : entry.connection = c
    · rw [hc, Function.update_self] at hwas
      cases hwas
    · rw [Function.update_of_ne hc] at hwas
      rw [← hnode] at hself hnamed
      exact absurd (hone _ _ _ _ hown' hown hwas hopen hself.2 hnamed) hc
  · rename_i hother
    rw [h nodeId entry]
    refine and_congr_right fun _ => ?_
    by_cases hc : entry.connection = c
    · rw [hc, Function.update_self, hopen]
      refine ⟨fun hentry => ?_, nofun⟩
      obtain ⟨hsession, hnode, hnamed⟩ := hentry
      rw [← Option.some.inj hsession] at hnode
      exact absurd ⟨hnode ▸ hnamed, hnode.symm⟩ hother
    · rw [Function.update_of_ne hc]

theorem OneConnection.update (h : OneConnection connections own) {after : Option WsSession}
    (halone : ∀ s, after = some s → s.nodeId ≠ "" → own c → ∀ c' s', own c' → c' ≠ c →
      connections c' = some s' → s'.nodeId ≠ s.nodeId) :
    OneConnection (Function.update connections c after) own := by
  intro a b s s' hown hown' ha hb hsame hnamed
  by_cases hac : a = c
  · by_cases hbc : b = c
    · exact hac.trans hbc.symm
    · rw [hac, Function.update_self] at ha
      rw [Function.update_of_ne hbc] at hb
      exact absurd hsame.symm (halone s ha hnamed (hac ▸ hown) b s' hown' hbc hb)
  · rw [Function.update_of_ne hac] at ha
    by_cases hbc : b = c
    · rw [hbc, Function.update_self] at hb
      exact absurd hsame (halone s' hb (hsame ▸ hnamed) (hbc ▸ hown') a s hown hac ha)
    · rw [Function.update_of_ne hbc] at hb
      exact h a b s s' hown hown' ha hb hsame hnamed

end Registers

/-! ## What a handler does to a session and to a hub -/

section Handlers

variable {relays : Relays} {now : Int} {p : DbState} {hub : ControlWSHub} {c : Nat}
  {session : WsSession}

theorem ne_empty_of_not_blank {s : String} (h : Text.isBlank s = false) : s ≠ "" := by
  rintro rfl
  cases h

theorem isMember_of_requireNodeSession {userId nodeId networkId : String} {node : Control.Node}
    (h : p.requireNodeSession userId nodeId networkId = .ok node) :
    isMember p.store networkId nodeId = true := by
  have hrun : (Networks.requireNodeSession userId nodeId networkId).run p.store =
      (.ok node, ((Networks.requireNodeSession userId nodeId networkId).run p.store).2) :=
    Prod.ext h rfl
  obtain ⟨⟨hnode, _⟩, member, hmember⟩ := Networks.run_requireNodeSession_eq_ok hrun
  unfold isMember
  rw [hnode, Option.any_some, hmember]
  rfl

theorem SameNetworks.isMember {s t : Networks.Store} (h : SameNetworks s t)
    (networkId nodeId : String) : isMember t networkId nodeId = isMember s networkId nodeId := by
  unfold Maps.isMember Networks.Store.nodeById Networks.Store.memberByNetworkDevice
  rw [h.nodes, h.members]

/-- Who is answered a hello is a member, and has a name. -/
theorem DbState.handshake_eq_ok {hello : NodeHello} {answer : NodeHelloAck × NetworkMap}
    {q : DbState} (h : p.handshake relays now hello = (.ok answer, q)) :
    hello.nodeId ≠ "" ∧ isMember q.store hello.networkId hello.nodeId = true := by
  unfold DbState.handshake at h
  split at h
  · cases h
  rename_i hblank
  split at h
  · cases h
  split at h
  · cases h
  split at h
  · cases h
  split at h
  · cases h
  split at h
  · cases h
  rename_i userId _ _ _ session _ _ _
  refine ⟨ne_empty_of_not_blank ?_, ?_⟩
  · rw [not_or, not_or] at hblank
    exact Bool.eq_false_iff.mpr hblank.2.1
  · dsimp only at h
    generalize ((p.touchControlSessionByToken hello.sessionToken now).updateDeviceStatus
      session.deviceId "online") = touched at h
    obtain ⟨hanswer, rfl⟩ := Prod.mk.inj h
    rw [touched.store_networkMap]
    unfold DbState.networkMap at hanswer
    cases hsource : touched.requireNodeSession userId hello.nodeId hello.networkId with
    | error err =>
      rw [hsource] at hanswer
      cases hanswer
    | ok node => exact isMember_of_requireNodeSession hsource

namespace Handled

/-- Once the session is touched, the map of the network is given. -/
def AnswersMap (relays : Relays) (now : Int) (p : DbState) (session : WsSession)
    (networkId : String) : Prop :=
  ∃ map, ((p.heartbeat now session.userId session.nodeId session.networkId).2.networkMap relays now
    session.userId session.nodeId networkId).1 = .ok map

/-- Only a hello that is accepted enters the hub; a map that is given may be of another network
than the connection is in. -/
inductive Leaves (relays : Relays) (now : Int) (p : DbState) (hub : ControlWSHub) (c : Nat)
    (session : WsSession) (handled : Handled) : ClientMessage → Prop
  | same {message : ClientMessage} : handled.hub = hub → handled.session = session →
    Leaves relays now p hub c session handled message
  | greeted (hello : NodeHello) (ack : NodeHelloAck) (map : NetworkMap) (q : DbState) :
    p.handshake relays now hello = (.ok (ack, map), q) →
    handled.hub = hub.register ⟨c, handled.session⟩ →
    handled.session = greeted session hello map.selfUserId →
    Leaves relays now p hub c session handled (.nodeHello hello)
  | moved (networkId : String) : networkId ≠ "" → AnswersMap relays now p session networkId →
    handled.hub = hub → handled.session = { session with networkId } →
    Leaves relays now p hub c session handled (.networkMapRequest networkId)

theorem leaves_authorized (p : DbState) (hub : ControlWSHub) (session : WsSession)
    (message : ClientMessage) :
    Leaves relays now p hub c session (authorized relays now
      (p.heartbeat now session.userId session.nodeId session.networkId).2 hub session message)
      message := by
  cases message with
  | nodeHello hello => exact .same rfl rfl
  | ping => exact .same rfl rfl
  | networkMapRequest networkId =>
    unfold authorized networkMapRequest
    dsimp only
    split
    · exact .same rfl rfl
    · rename_i map q hanswer
      by_cases hrequested : networkId = ""
      · rw [hrequested, if_neg (not_not.mpr rfl)]
        exact .same rfl rfl
      · rw [if_pos hrequested] at hanswer ⊢
        exact .moved networkId hrequested ⟨map, congrArg Prod.fst hanswer⟩ rfl rfl
  | endpointReport report endpointId =>
    unfold authorized endpointReport
    dsimp only
    split
    · exact .same rfl rfl
    · exact .same rfl rfl
  | connectionState state allowed =>
    unfold authorized connectionState
    dsimp only
    split
    · exact .same rfl rfl
    · split <;> exact .same rfl rfl
  | disconnectNotice notice =>
    unfold authorized disconnectNotice
    dsimp only
    split
    · exact .same rfl rfl
    · exact .same rfl rfl
  | peerCandidate candidate allowed =>
    unfold authorized peerCandidate
    dsimp only
    split
    · exact .same rfl rfl
    · split <;> exact .same rfl rfl

theorem leaves_message (p : DbState) (hub : ControlWSHub) (session : WsSession)
    (m : ClientMessage) :
    Leaves relays now p hub c session (message relays now p hub c session m) m := by
  cases m with
  | nodeHello hello =>
    unfold message nodeHello
    dsimp only
    split
    · exact .same rfl rfl
    · rename_i ack map q hanswer
      exact .greeted hello ack map q hanswer rfl rfl
  | _ =>
    unfold message
    dsimp only
    split
    · exact .same rfl rfl
    · exact leaves_authorized p hub session _

end Handled

end Handlers

/-! ## Servers whose hubs are right -/

/-- Every hub has the connections to its server, and no node has two of them. -/
structure Proper (home : Nat → Nat) (w : ControlPlane) : Prop where
  hub : ∀ i, Registers (w.hubs i) w.connections fun c => home c = i
  one : ∀ i, OneConnection w.connections fun c => home c = i

namespace ControlPlane

variable {relays : Relays} {sameName : String → String → Bool} {home : Nat → Nat}
  {w t : ControlPlane}

/-- The same connections and the same hubs. -/
structure SameHubs (w t : ControlPlane) : Prop where
  connections : t.connections = w.connections
  hubs : t.hubs = w.hubs

theorem SameHubs.trans {u : ControlPlane} (h : SameHubs w t) (h' : SameHubs t u) : SameHubs w u :=
  ⟨h'.connections.trans h.connections, h'.hubs.trans h.hubs⟩

theorem SameHubs.proper (h : SameHubs w t) (hw : Proper home w) : Proper home t := by
  refine ⟨fun i => ?_, fun i => ?_⟩
  · rw [h.connections, h.hubs]
    exact hw.hub i
  · rw [h.connections]
    exact hw.one i

theorem sameHubs_dispatch (i : Nat) (w : ControlPlane) (d : Dispatch) :
    SameHubs w (dispatch i w d) := by
  cases d <;> exact ⟨rfl, rfl⟩

theorem sameHubs_dispatchAll (i : Nat) (w : ControlPlane) (ds : List Dispatch) :
    SameHubs w (dispatchAll i w ds) := by
  induction ds generalizing w with
  | nil => exact ⟨rfl, rfl⟩
  | cons d ds ih => exact (sameHubs_dispatch i w d).trans (ih _)

theorem sameHubs_receive {i : Nat} (h : w.receive i = some t) : SameHubs w t := by
  unfold receive at h
  split at h
  · cases h
  · obtain rfl := Option.some.inj h
    split <;> exact ⟨rfl, rfl⟩

theorem sameHubs_resend {i j : Nat} (h : w.resend i j = some t) : SameHubs w t := by
  obtain ⟨message, _, rfl⟩ := Option.map_eq_some_iff.mp h
  split <;> exact ⟨rfl, rfl⟩

/-- What a message or the end of a connection leaves. -/
theorem finish_connections (w : ControlPlane) (i c : Nat) (session : Option WsSession)
    (handled : Handled) :
    (w.finish i c session handled).connections = Function.update w.connections c session :=
  (sameHubs_dispatchAll i _ handled.dispatches).connections

theorem finish_hubs (w : ControlPlane) (i c : Nat) (session : Option WsSession)
    (handled : Handled) :
    (w.finish i c session handled).hubs = Function.update w.hubs i handled.hub :=
  (sameHubs_dispatchAll i _ handled.dispatches).hubs

/-- What has to hold of one hub and the connections has to hold of the server's own, with its new
hub, and of the others. -/
theorem proper_finish {c : Nat} {session : Option WsSession} {handled : Handled}
    (hw : Proper home w)
    (hown : Registers handled.hub (Function.update w.connections c session)
      fun c' => home c' = home c)
    (hone : ∀ s, session = some s → s.nodeId ≠ "" → ∀ c' s', home c' = home c → c' ≠ c →
      w.connections c' = some s' → s'.nodeId ≠ s.nodeId) :
    Proper home (w.finish (home c) c session handled) := by
  refine ⟨fun i => ?_, fun i => ?_⟩
  · rw [finish_connections, finish_hubs]
    by_cases hi : i = home c
    · rw [hi, Function.update_self]
      exact hown
    · rw [Function.update_of_ne hi]
      exact (hw.hub i).update (fun hhome => absurd hhome.symm hi) fun hhome => absurd hhome.symm hi
  · rw [finish_connections]
    refine (hw.one i).update fun s hs hnamed hhome c' s' hhome' hne hopen => ?_
    exact hone s hs hnamed c' s' (hhome'.trans hhome.symm) hne hopen

theorem proper_open {c : Nat} (hw : Proper home w) (hclosed : w.connections c = none)
    (deviceId : String) : Proper home { w with
      connections := Function.update w.connections c (some ⟨"", deviceId, "", ""⟩) } := by
  refine ⟨fun i => (hw.hub i).update (fun _ s hs => ?_) (fun _ s hs => ?_), fun i => ?_⟩
  · rw [hclosed] at hs
    cases hs
  · rw [← Option.some.inj hs]
  · refine (hw.one i).update fun s hs hnamed => ?_
    rw [← Option.some.inj hs] at hnamed
    exact absurd rfl hnamed

theorem proper_close {c : Nat} {session : WsSession} (hw : Proper home w)
    (hopen : w.connections c = some session) :
    Proper home (w.finish (home c) c none (Handled.closed w.db (w.hubs (home c)) session)) :=
  proper_finish hw ((hw.hub (home c)).close rfl hopen (hw.one (home c))) nofun

/-- A connection may say hello for the first time or as the same node, while no other one of the
server is the node's. -/
def GreetsAlone (home : Nat → Nat) (w : ControlPlane) (c : Nat) (session : WsSession)
    (nodeId : String) : Prop :=
  (session.nodeId = "" ∨ session.nodeId = nodeId) ∧
    ∀ c' s, home c' = home c → c' ≠ c → w.connections c' = some s → s.nodeId ≠ nodeId

/-- It stays in its network. -/
def StaysIn (session : WsSession) (networkId : String) : Prop :=
  networkId = "" ∨ networkId = session.networkId

theorem proper_message {now : Int} {c : Nat} {session : WsSession} {m : ClientMessage}
    (hw : Proper home w) (hopen : w.connections c = some session)
    (hhello : ∀ hello, m = .nodeHello hello → ∀ answer q,
      w.db.handshake relays now hello = (.ok answer, q) →
        GreetsAlone home w c session hello.nodeId)
    (hmap : ∀ networkId, m = .networkMapRequest networkId →
      Handled.AnswersMap relays now w.db session networkId → StaysIn session networkId) :
    Proper home (w.finish (home c) c
      (some (Handled.message relays now w.db (w.hubs (home c)) c session m).session)
      (Handled.message relays now w.db (w.hubs (home c)) c session m)) := by
  have hsession : ∀ s, some session = some s → s.nodeId ≠ "" → ∀ c' s', home c' = home c →
      c' ≠ c → w.connections c' = some s' → s'.nodeId ≠ s.nodeId := by
    intro s hs hnamed c' s' hhome hne hopen' hsame
    obtain rfl := Option.some.inj hs
    exact hne ((hw.one (home c)) c' c s' session hhome rfl hopen' hopen hsame (hsame ▸ hnamed))
  have hstays : Function.update w.connections c (some session) = w.connections := by
    rw [← hopen, Function.update_eq_self]
  have hleaves : Handled.Leaves relays now w.db (w.hubs (home c)) c session
      (Handled.message relays now w.db (w.hubs (home c)) c session m) m :=
    Handled.leaves_message w.db (w.hubs (home c)) session m
  generalize Handled.message relays now w.db (w.hubs (home c)) c session m = handled at hleaves ⊢
  cases hleaves with
  | same hhub hkept =>
    rw [hkept]
    refine proper_finish hw ?_ hsession
    rw [hhub, hstays]
    exact hw.hub (home c)
  | greeted hello ack map q hanswer hhub hgreeted =>
    obtain ⟨hold, halone⟩ := hhello hello rfl _ q hanswer
    have hnamed : handled.session.nodeId ≠ "" := by
      rw [hgreeted]
      exact (DbState.handshake_eq_ok hanswer).1
    have hnode : handled.session.nodeId = hello.nodeId := by
      rw [hgreeted]
      rfl
    rw [← hnode] at hold halone
    refine proper_finish hw ?_ ?_
    · rw [hhub]
      exact (hw.hub (home c)).greet rfl hopen hold halone hnamed
    · intro s hs _ c' s' hhome hne hopen'
      obtain rfl := Option.some.inj hs
      exact halone c' s' hhome hne hopen'
  | moved networkId hrequested hanswers hhub hmoved =>
    have hsame : handled.session = session := by
      rcases hmap networkId rfl hanswers with hempty | hsame
      · exact absurd hempty hrequested
      · rw [hmoved, hsame]
    rw [hsame]
    refine proper_finish hw ?_ hsession
    rw [hhub, hstays]
    exact hw.hub (home c)

end ControlPlane

end Slan.Maps
