import Slan.Control.ControlServer
import Slan.Control.ControlSessionSpec

/-! # The hub over whole runs of the control channel -/

namespace Slan.Control

open Transition

namespace ControlServer

/-! ## What a step does to the connections -/

/-- Neither a connection nor the hub has changed. -/
structure SameConnections (s t : ControlServer) : Prop where
  connections : t.connections = s.connections
  nextConnection : t.nextConnection = s.nextConnection
  hub : t.hub = s.hub
  registrations : t.registrations = s.registrations

theorem sameConnections_heartbeat (s : ControlServer) (session : WsSession) :
    s.SameConnections (s.heartbeat session) := by
  unfold heartbeat
  split <;> exact ⟨rfl, rfl, rfl, rfl⟩

/-- The steps that open, authenticate, move or close a connection, and all others. -/
inductive ConnectionStep (s t : ControlServer) : ControlAction → Prop
  | same {a : ControlAction} : s.SameConnections t → ConnectionStep s t a
  | open (deviceId : String) :
    t.connections = Function.update s.connections s.nextConnection (some ⟨"", deviceId, "", ""⟩) →
    t.nextConnection = s.nextConnection + 1 → t.hub = s.hub →
    t.registrations = s.registrations → ConnectionStep s t (.open deviceId)
  | move (c : Nat) (requested networkId : String) (session : WsSession) :
    s.connections c = some session →
    t.connections = Function.update s.connections c (some { session with networkId }) →
    t.nextConnection = s.nextConnection → t.hub = s.hub → t.registrations = s.registrations →
    ConnectionStep s t (.networkMapRequest c requested)
  | hello (c : Nat) (hello : NodeHello) (row : ControlSession) (old session : WsSession) :
    s.connections c = some old → s.db.Accepts s.now hello row → session.nodeId = hello.nodeId →
    t.connections = Function.update s.connections c (some session) →
    t.nextConnection = s.nextConnection → t.hub = s.hub.register ⟨c, session⟩ →
    t.registrations = (c, session.nodeId) :: s.registrations →
    ConnectionStep s t (.nodeHello c hello)
  | close (c : Nat) (session : WsSession) :
    s.connections c = some session → t.connections = Function.update s.connections c none →
    t.nextConnection = s.nextConnection → t.hub = s.hub.unregister session.nodeId →
    t.registrations = s.registrations →
    t.db = (s.db.closeSession session.userId session.nodeId session.networkId).2 →
    ConnectionStep s t (.close c)

theorem connectionStep_nodeHello (s : ControlServer) {c : Nat} {old : WsSession}
    (hold : s.connections c = some old) (hello : NodeHello) :
    s.ConnectionStep (s.handleNodeHello c old hello) (.nodeHello c hello) := by
  unfold handleNodeHello
  rcases s.db.handshake_cases s.now hello with ⟨row, node, haccepts, _, hrun⟩ |
    ⟨_, err, db', hrun, _⟩
  · rw [hrun]
    exact .hello c hello row old _ hold haccepts rfl rfl rfl rfl rfl
  · rw [hrun]
    exact .same ⟨rfl, rfl, rfl, rfl⟩

theorem connectionStep_networkMapRequest (s : ControlServer) {c : Nat} {session : WsSession}
    (hsession : s.connections c = some session) (requested : String) :
    s.ConnectionStep (s.handleNetworkMapRequest c session requested)
      (.networkMapRequest c requested) := by
  have hsame := s.sameConnections_heartbeat session
  unfold handleNetworkMapRequest
  dsimp only
  split
  · exact .same hsame
  · split
    · exact .same hsame
    · refine .move c requested (if requested ≠ "" then requested else session.networkId) session
        hsession ?_ hsame.nextConnection hsame.hub hsame.registrations
      rw [setSession, hsame.connections]

theorem step_cases {s t : ControlServer} {a : ControlAction} (h : s.step a = some t) :
    s.ConnectionStep t a := by
  cases a with
  | tick now =>
    rw [step] at h
    split at h
    · obtain rfl := Option.some.inj h
      exact .same ⟨rfl, rfl, rfl, rfl⟩
    · cases h
  | createSession fresh userId nodeId networkId =>
    rw [step] at h
    split at h
    · obtain rfl := Option.some.inj h
      exact .same ⟨rfl, rfl, rfl, rfl⟩
    · cases h
  | «open» deviceId =>
    obtain rfl := Option.some.inj h
    exact .open deviceId rfl rfl rfl rfl
  | nodeHello c hello =>
    obtain ⟨old, hold, rfl⟩ := Option.map_eq_some_iff.mp h
    exact s.connectionStep_nodeHello hold hello
  | networkMapRequest c requested =>
    obtain ⟨session, hsession, rfl⟩ := Option.map_eq_some_iff.mp h
    exact s.connectionStep_networkMapRequest hsession requested
  | endpointReport c report endpointId =>
    obtain ⟨session, hsession, rfl⟩ := Option.map_eq_some_iff.mp h
    have hsame := s.sameConnections_heartbeat session
    unfold handleEndpointReport
    dsimp only
    split
    · exact .same hsame
    · exact .same ⟨hsame.connections, hsame.nextConnection, hsame.hub, hsame.registrations⟩
  | message c =>
    obtain ⟨session, hsession, rfl⟩ := Option.map_eq_some_iff.mp h
    exact .same (s.sameConnections_heartbeat session)
  | close c =>
    obtain ⟨session, hsession, rfl⟩ := Option.map_eq_some_iff.mp h
    exact .close c session hsession rfl rfl rfl rfl rfl
  | _ =>
    obtain rfl := Option.some.inj h
    exact .same ⟨rfl, rfl, rfl, rfl⟩

/-! ## The connection a node should have -/

/-- The connection is open and has authenticated as the node. -/
def authenticatedAs (s : ControlServer) (c : Nat) (nodeId : String) : Bool :=
  (s.connections c).any fun session => session.nodeId == nodeId

/-- The connection that registered the node last, of those that are open and authenticated as
it. -/
def latest (s : ControlServer) (nodeId : String) : Option Nat :=
  (s.registrations.find? fun r => r.2 == nodeId && s.authenticatedAs r.1 nodeId).map Prod.fst

/-- No connection closes that shares its node with another one, and none authenticates as a
second node while it is the hub's connection of a first. -/
def Undisturbed (s : ControlServer) : ControlAction → Prop
  | .nodeHello c hello => ∀ session row, s.connections c = some session →
    s.db.Accepts s.now hello row → session.nodeId ≠ hello.nodeId →
      ∀ entry, s.hub.session session.nodeId = some entry → entry.connection ≠ c
  | .close c => ∀ session, s.connections c = some session → session.nodeId ≠ "" →
    ∀ c', c' ≠ c → s.authenticatedAs c' session.nodeId = false
  | _ => True

/-- Closing a connection leaves every other authenticated connection its entry in the hub, its
endpoints and its control session. -/
def ClosesAlone (s : ControlServer) (c : Nat) : Prop :=
  ∀ t, s.step (.close c) = some t → ∀ c' session, c' ≠ c → s.connections c' = some session →
    session.nodeId ≠ "" →
      t.hub.session session.nodeId = s.hub.session session.nodeId ∧
      (∀ row : NodeEndpoint, row.nodeId = session.nodeId →
        (row ∈ t.db.endpoints ↔ row ∈ s.db.endpoints)) ∧
      ∀ row : ControlSession, row.nodeId = session.nodeId →
        (row ∈ t.db.controlSessions ↔ row ∈ s.db.controlSessions)

/-! ## The hub follows the registrations -/

/-- The hub has every node's latest connection, and only named nodes register. -/
structure HubKept (s : ControlServer) : Prop where
  entry : ∀ nodeId, (s.hub.session nodeId).map ControlWSSession.connection = s.latest nodeId
  named : ∀ r ∈ s.registrations, r.2 ≠ ""
  registered : ∀ c session, s.connections c = some session → session.nodeId ≠ "" →
    (c, session.nodeId) ∈ s.registrations
  unopened : ∀ c, s.nextConnection ≤ c → s.connections c = none

/-- What is found is still found when only others go. -/
theorem find?_map_of_gone {α β : Type} {p q : α → Bool} {f : α → β} {b : β} {xs : List α}
    (hother : ∀ a, f a ≠ b → q a = p a) (hgone : ∀ a, f a = b → q a = false)
    (h : (xs.find? p).map f ≠ some b) : (xs.find? q).map f = (xs.find? p).map f := by
  induction xs with
  | nil => rfl
  | cons a rest ih =>
    rw [List.find?_cons] at h
    rw [List.find?_cons, List.find?_cons]
    cases hp : p a with
    | true =>
      rw [hp] at h
      have hne : f a ≠ b := fun heq => h (congrArg some heq)
      rw [hother a hne, hp]
    | false =>
      rw [hp] at h
      have hq : q a = false := by
        by_cases heq : f a = b
        · exact hgone a heq
        · rw [hother a heq, hp]
      rw [hq]
      exact ih h

section Latest

variable {s t : ControlServer} {nodeId : String}

theorem authenticatedAs_update {c : Nat} {session : Option WsSession}
    (h : t.connections = Function.update s.connections c session) (c' : Nat) (nodeId : String) :
    t.authenticatedAs c' nodeId =
      if c' = c then session.any fun session => session.nodeId == nodeId
      else s.authenticatedAs c' nodeId := by
  unfold authenticatedAs
  rw [h, Function.update_apply]
  split <;> rfl

theorem latest_of_same (hregistrations : t.registrations = s.registrations)
    (h : ∀ c, t.authenticatedAs c nodeId = s.authenticatedAs c nodeId) :
    t.latest nodeId = s.latest nodeId := by
  unfold latest
  rw [hregistrations]
  simp only [h]

/-- A connection that is not the latest one can go. -/
theorem latest_of_gone (c : Nat) (hregistrations : t.registrations = s.registrations)
    (h : ∀ c', c' ≠ c → t.authenticatedAs c' nodeId = s.authenticatedAs c' nodeId)
    (hgone : t.authenticatedAs c nodeId = false) (hlatest : s.latest nodeId ≠ some c) :
    t.latest nodeId = s.latest nodeId := by
  unfold latest at hlatest ⊢
  rw [hregistrations]
  apply find?_map_of_gone ?_ ?_ hlatest
  · intro r hr
    rw [h r.1 hr]
  · intro r hr
    rw [hr, hgone, Bool.and_false]

theorem latest_cons {c : Nat} {registered : String} {rest : List (Nat × String)}
    (h : t.registrations = (c, registered) :: rest) :
    t.latest nodeId =
      if registered = nodeId ∧ t.authenticatedAs c nodeId = true then some c
      else latest { t with registrations := rest } nodeId := by
  unfold latest
  rw [h, List.find?_cons]
  by_cases hfound : registered = nodeId ∧ t.authenticatedAs c nodeId = true
  · have htrue : (registered == nodeId && t.authenticatedAs c nodeId) = true := by
      rw [hfound.1, hfound.2, beq_self_eq_true, Bool.and_self]
    rw [if_pos hfound, htrue]
    rfl
  · have hfalse : (registered == nodeId && t.authenticatedAs c nodeId) = false := by
      rw [← Bool.not_eq_true, Bool.and_eq_true, beq_iff_eq]
      exact hfound
    rw [if_neg hfound, hfalse]
    rfl

theorem authenticatedAs_of_latest {c : Nat} (h : s.latest nodeId = some c) :
    s.authenticatedAs c nodeId = true := by
  obtain ⟨r, hr, rfl⟩ := Option.map_eq_some_iff.mp h
  have hfound := List.find?_some hr
  rw [Bool.and_eq_true] at hfound
  exact hfound.2

theorem latest_eq_none_iff : s.latest nodeId = none ↔
    ∀ c, (c, nodeId) ∈ s.registrations → s.authenticatedAs c nodeId = false := by
  unfold latest
  rw [Option.map_eq_none_iff, List.find?_eq_none]
  constructor
  · intro h c hc
    have hnot := h (c, nodeId) hc
    simpa using hnot
  · intro h r hr hfound
    rw [Bool.and_eq_true, beq_iff_eq] at hfound
    obtain ⟨hnode, hauth⟩ := hfound
    have hmem : (r.1, nodeId) ∈ s.registrations := hnode ▸ hr
    rw [h r.1 hmem] at hauth
    cases hauth

end Latest

section Steps

variable {s t : ControlServer}

theorem HubKept.latest_unnamed (h : s.HubKept) : s.latest "" = none := by
  rw [latest_eq_none_iff]
  intro c hc
  exact absurd rfl (h.named _ hc)

/-- What opens no node's connection and closes none leaves the hub right. -/
theorem HubKept.same (h : s.HubKept) (hhub : t.hub = s.hub)
    (hregistrations : t.registrations = s.registrations)
    (hauth : ∀ nodeId, nodeId ≠ "" → ∀ c, t.authenticatedAs c nodeId = s.authenticatedAs c nodeId)
    (hregistered : ∀ c session, t.connections c = some session → session.nodeId ≠ "" →
      (c, session.nodeId) ∈ s.registrations)
    (hunopened : ∀ c, t.nextConnection ≤ c → t.connections c = none) : t.HubKept := by
  have hnamed : ∀ r ∈ t.registrations, r.2 ≠ "" := by
    rw [hregistrations]
    exact h.named
  refine ⟨fun nodeId => ?_, hnamed, ?_, hunopened⟩
  · rw [hhub, h.entry]
    by_cases hempty : nodeId = ""
    · rw [hempty, h.latest_unnamed, eq_comm, latest_eq_none_iff]
      intro c hc
      exact absurd rfl (hnamed _ hc)
    · exact (latest_of_same hregistrations (hauth nodeId hempty)).symm
  · rw [hregistrations]
    exact hregistered

theorem HubKept.open (h : s.HubKept) {deviceId : String}
    (hconnections : t.connections =
      Function.update s.connections s.nextConnection (some ⟨"", deviceId, "", ""⟩))
    (hnext : t.nextConnection = s.nextConnection + 1) (hhub : t.hub = s.hub)
    (hregistrations : t.registrations = s.registrations) : t.HubKept := by
  refine h.same hhub hregistrations (fun nodeId hnamed c => ?_) (fun c session hc hnamed => ?_)
    fun c hc => ?_
  · rw [authenticatedAs_update hconnections]
    split
    · rename_i hnew
      rw [hnew, authenticatedAs, h.unopened s.nextConnection (Nat.le_refl _)]
      simpa using Ne.symm hnamed
    · rfl
  · rw [hconnections, Function.update_apply] at hc
    split at hc
    · obtain rfl := Option.some.inj hc
      exact absurd rfl hnamed
    · exact h.registered c session hc hnamed
  · rw [hnext] at hc
    rw [hconnections, Function.update_apply, if_neg (by omega)]
    exact h.unopened c (by omega)

theorem HubKept.move (h : s.HubKept) {c : Nat} {session : WsSession} {networkId : String}
    (hsession : s.connections c = some session)
    (hconnections : t.connections =
      Function.update s.connections c (some { session with networkId }))
    (hnext : t.nextConnection = s.nextConnection) (hhub : t.hub = s.hub)
    (hregistrations : t.registrations = s.registrations) : t.HubKept := by
  refine h.same hhub hregistrations (fun nodeId _ c' => ?_) (fun c' session' hc' hnamed => ?_)
    fun c' hc' => ?_
  · rw [authenticatedAs_update hconnections]
    split
    · rename_i hc
      rw [hc, authenticatedAs, hsession]
      rfl
    · rfl
  · rw [hconnections, Function.update_apply] at hc'
    split at hc'
    · rename_i hc
      obtain rfl := Option.some.inj hc'
      rw [hc]
      exact h.registered c session hsession hnamed
    · exact h.registered c' session' hc' hnamed
  · rw [hnext] at hc'
    have hne : c' ≠ c := by
      intro hc
      rw [hc] at hc'
      rw [h.unopened c hc'] at hsession
      cases hsession
    rw [hconnections, Function.update_of_ne hne]
    exact h.unopened c' hc'

theorem HubKept.hello (h : s.HubKept) {c : Nat} {old session : WsSession}
    (hold : s.connections c = some old) (hnamed : session.nodeId ≠ "")
    (hconnections : t.connections = Function.update s.connections c (some session))
    (hnext : t.nextConnection = s.nextConnection) (hhub : t.hub = s.hub.register ⟨c, session⟩)
    (hregistrations : t.registrations = (c, session.nodeId) :: s.registrations)
    (hleaves : old.nodeId ≠ session.nodeId → ∀ entry, s.hub.session old.nodeId = some entry →
      entry.connection ≠ c) : t.HubKept := by
  have hauth := authenticatedAs_update hconnections
  refine ⟨fun nodeId => ?_, ?_, ?_, ?_⟩
  · rw [hhub, ControlWSHub.session_register, latest_cons hregistrations]
    by_cases hnode : nodeId = session.nodeId
    · have hself : session.nodeId = nodeId ∧ t.authenticatedAs c nodeId = true := by
        refine ⟨hnode.symm, ?_⟩
        rw [hauth, if_pos rfl, hnode]
        simp
      rw [if_pos hnode, if_pos hself]
      rfl
    · rw [if_neg hnode, if_neg (fun hself => hnode hself.1.symm), h.entry]
      -- any other node keeps its connection, which is not this one
      have hkept : latest { t with registrations := s.registrations } nodeId = s.latest nodeId := by
        refine latest_of_gone c rfl (fun c' hc' => ?_) ?_ ?_
        · exact (hauth c' nodeId).trans (if_neg hc')
        · refine (hauth c nodeId).trans ?_
          rw [if_pos rfl]
          simpa using Ne.symm hnode
        · intro hlatest
          have hwas := authenticatedAs_of_latest hlatest
          rw [authenticatedAs, hold] at hwas
          have hnodeOld : old.nodeId = nodeId := by simpa using hwas
          rw [← hnodeOld, ← h.entry] at hlatest
          obtain ⟨entry, hentry, hconnection⟩ := Option.map_eq_some_iff.mp hlatest
          exact hleaves (fun heq => hnode (hnodeOld.symm.trans heq)) entry hentry hconnection
      exact hkept.symm
  · intro r hr
    rw [hregistrations] at hr
    rcases List.mem_cons.mp hr with hnew | hr
    · rw [hnew]
      exact hnamed
    · exact h.named r hr
  · intro c' session' hc' hnamed'
    rw [hregistrations]
    rw [hconnections, Function.update_apply] at hc'
    split at hc'
    · rename_i hc
      obtain rfl := Option.some.inj hc'
      rw [hc]
      exact List.mem_cons_self
    · exact List.mem_cons_of_mem _ (h.registered c' session' hc' hnamed')
  · intro c' hc'
    rw [hnext] at hc'
    have hne : c' ≠ c := by
      intro hc
      rw [hc] at hc'
      rw [h.unopened c hc'] at hold
      cases hold
    rw [hconnections, Function.update_of_ne hne]
    exact h.unopened c' hc'

theorem HubKept.close (h : s.HubKept) {c : Nat} {session : WsSession}
    (hconnections : t.connections = Function.update s.connections c none)
    (hnext : t.nextConnection = s.nextConnection)
    (hhub : t.hub = s.hub.unregister session.nodeId)
    (hregistrations : t.registrations = s.registrations) (hsession : s.connections c = some session)
    (halone : session.nodeId ≠ "" → ∀ c', c' ≠ c → s.authenticatedAs c' session.nodeId = false) :
    t.HubKept := by
  have hauth := authenticatedAs_update hconnections
  refine ⟨fun nodeId => ?_, ?_, ?_, ?_⟩
  · rw [hhub, ControlWSHub.session_unregister]
    by_cases hnode : session.nodeId ≠ "" ∧ nodeId = session.nodeId
    · rw [if_pos hnode, eq_comm, Option.map_none, latest_eq_none_iff]
      intro c' _
      rw [hauth]
      split
      · rfl
      · rename_i hc
        rw [hnode.2]
        exact halone hnode.1 c' hc
    · rw [if_neg hnode, h.entry]
      -- the entry of another node stays, since its latest connection is not the one that closes
      refine (latest_of_gone c hregistrations (fun c' hc' => ?_) ?_ ?_).symm
      · exact (hauth c' nodeId).trans (if_neg hc')
      · exact (hauth c nodeId).trans (if_pos rfl)
      · intro hlatest
        have hwas := authenticatedAs_of_latest hlatest
        rw [authenticatedAs, hsession] at hwas
        have hnodeOld : session.nodeId = nodeId := by simpa using hwas
        by_cases hempty : session.nodeId = ""
        · rw [← hnodeOld, hempty, h.latest_unnamed] at hlatest
          cases hlatest
        · exact hnode ⟨hempty, hnodeOld.symm⟩
  · rw [hregistrations]
    exact h.named
  · intro c' session' hc' hnamed
    rw [hregistrations]
    rw [hconnections, Function.update_apply] at hc'
    split at hc'
    · cases hc'
    · exact h.registered c' session' hc' hnamed
  · intro c' hc'
    rw [hnext] at hc'
    rw [hconnections, Function.update_apply]
    split
    · rfl
    · exact h.unopened c' hc'

theorem HubKept.step {a : ControlAction} (h : s.HubKept) (hok : s.Undisturbed a)
    (hstep : s.step a = some t) : t.HubKept := by
  cases step_cases hstep with
  | same hsame =>
    refine h.same hsame.hub hsame.registrations (fun nodeId _ c => ?_) ?_ ?_
    · rw [authenticatedAs, hsame.connections]
      rfl
    · rw [hsame.connections]
      exact h.registered
    · rw [hsame.connections, hsame.nextConnection]
      exact h.unopened
  | «open» deviceId hconnections hnext hhub hregistrations =>
    exact h.open hconnections hnext hhub hregistrations
  | move c requested networkId session hsession hconnections hnext hhub hregistrations =>
    exact h.move hsession hconnections hnext hhub hregistrations
  | hello c hello row old session hold haccepts hnode hconnections hnext hhub hregistrations =>
    refine h.hello hold ?_ hconnections hnext hhub hregistrations ?_
    · intro hempty
      have hblank := haccepts.nodeId
      rw [← hnode, hempty] at hblank
      cases hblank
    · intro hne entry hentry
      rw [hnode] at hne
      exact hok old row hold haccepts hne entry hentry
  | close c session hsession hconnections hnext hhub hregistrations hdb =>
    exact h.close hconnections hnext hhub hregistrations hsession (hok session hsession)

theorem hubKept_start (now : Int) (directory : Directory) : (start now directory).HubKept := by
  refine ⟨fun nodeId => ?_, fun r hr => ?_, fun c session hc => ?_, fun c _ => rfl⟩
  · rw [show (start now directory).latest nodeId = none from rfl]
    exact congrArg _ (Table.get?_empty nodeId)
  · cases hr
  · cases hc

theorem hubKept_of_reachable {now : Int} {directory : Directory}
    (h : Reachable (guarded Undisturbed (rel step)) (start now directory) s) : s.HubKept :=
  h.invariant _ (hubKept_start now directory) fun _ _ _ hkept hstep => hkept.step hstep.1 hstep.2

theorem closesAlone_of_undisturbed {c : Nat} (h : s.Undisturbed (.close c)) : s.ClosesAlone c := by
  intro t hstep c' session hc hsession hnamed
  obtain ⟨closing, hclosing, rfl⟩ := Option.map_eq_some_iff.mp hstep
  have hother : session.nodeId ≠ closing.nodeId := by
    intro hsame
    have halone := h closing hclosing (hsame ▸ hnamed) c' hc
    rw [authenticatedAs, hsession, Option.any_some, hsame, beq_self_eq_true] at halone
    cases halone
  refine ⟨?_, fun row hrow => ?_, fun row hrow => ?_⟩
  · rw [closeConnection, ControlWSHub.session_unregister, if_neg fun hgone => hother hgone.2]
  · exact s.db.mem_endpoints_closeSession _ _ _ (hrow ▸ hother)
  · exact s.db.mem_controlSessions_closeSession _ _ _ (hrow ▸ hother)

end Steps

/-- In an undisturbed run the hub has the latest open connection of every node and none besides,
and a connection that closes takes nothing of another one with it. -/
theorem hub_correct (now : Int) (directory : Directory) (s : ControlServer)
    (h : Reachable (guarded Undisturbed (rel step)) (start now directory) s) :
    (∀ nodeId, (s.hub.session nodeId).map ControlWSSession.connection = s.latest nodeId) ∧
      ((∀ c, s.connections c = none) → ∀ nodeId, s.hub.session nodeId = none) ∧
      ∀ c, s.Undisturbed (.close c) → s.ClosesAlone c := by
  have hkept := hubKept_of_reachable h
  refine ⟨hkept.entry, fun hclosed nodeId => ?_, fun c => closesAlone_of_undisturbed⟩
  have hnone : s.latest nodeId = none := by
    apply latest_eq_none_iff.mpr
    intro c _
    rw [authenticatedAs, hclosed c]
    rfl
  rw [← hkept.entry, Option.map_eq_none_iff] at hnone
  exact hnone

section Samples

/-- One user with one node, whose device is in a network of the user's own. -/
def oneNode : Directory where
  nodes := (∅ : Table Node).put "node-a" ⟨"node-a", "user-1", "dev-1", "key", []⟩
  devices := (∅ : Table Device).put "dev-1" ⟨"dev-1", "user-1", "online"⟩
  networks := (∅ : Table NetworkRecord).put "net-1" ⟨"net-1", "user-1"⟩
  members := [⟨"net-1", "dev-1"⟩]

def sampleFresh : FreshSession := ⟨"000000000001", "000000000002"⟩

def sampleHello : NodeHello := ⟨"user-1", "dev-1", "node-a", "net-1", sampleFresh.sessionToken⟩

/-- The node gets a session and connects. -/
def connecting : List ControlAction :=
  [.createSession sampleFresh "user-1" "node-a" "net-1", .open "dev-1"]

/-- It connects once more before the first connection is seen to be dead. -/
def reconnecting : List ControlAction :=
  connecting ++ [.nodeHello 0 sampleHello, .open "dev-1", .nodeHello 1 sampleHello, .close 0]

/-- The node's first connection has authenticated. -/
def connected : ControlServer :=
  (execD step (start 0 oneNode) connecting).handleNodeHello 0 ⟨"", "dev-1", "", ""⟩ sampleHello

theorem connected_reachable :
    Reachable (guarded Undisturbed (rel step)) (start 0 oneNode) connected := by
  obtain ⟨hexec, hnobody, hsession⟩ :
      (exec step (start 0 oneNode) connecting).isSome = true ∧
        (execD step (start 0 oneNode) connecting).registrations = [] ∧
        (execD step (start 0 oneNode) connecting).connections 0 = some ⟨"", "dev-1", "", ""⟩ := by
    decide
  have hopened : Reachable (guarded Undisturbed (rel step)) (start 0 oneNode)
      (execD step (start 0 oneNode) connecting) := by
    refine .guarded_of_exec .start (fun a ha u => ?_) (exec_eq_execD hexec)
    simp only [connecting, List.mem_cons, List.not_mem_nil, or_false] at ha
    rcases ha with rfl | rfl <;> exact trivial
  have hfree : ∀ nodeId, (execD step (start 0 oneNode) connecting).hub.session nodeId = none := by
    intro nodeId
    rw [← Option.map_eq_none_iff, (hubKept_of_reachable hopened).entry, latest_eq_none_iff]
    intro c hc
    rw [hnobody] at hc
    cases hc
  have hguard : Undisturbed (execD step (start 0 oneNode) connecting) (.nodeHello 0 sampleHello) := by
    intro session row _ _ _ entry hentry
    rw [hfree] at hentry
    cases hentry
  refine .next hopened ⟨hguard, ?_⟩
  · rw [rel, step, hsession]
    rfl

end Samples

/-- The node's first connection is the hub's. -/
theorem hub_correct_connected :
    (∀ nodeId, (connected.hub.session nodeId).map ControlWSSession.connection =
        connected.latest nodeId) ∧
      ((∀ c, connected.connections c = none) → ∀ nodeId, connected.hub.session nodeId = none) ∧
      ∀ c, connected.Undisturbed (.close c) → connected.ClosesAlone c :=
  hub_correct 0 oneNode connected connected_reachable

/-- The cleanup of the old connection takes the hub's entry of the new one away. -/
theorem hub_loses_reconnected : ¬∀ now directory s,
    Reachable (rel step) (start now directory) s →
      ∀ nodeId, (s.hub.session nodeId).map ControlWSSession.connection = s.latest nodeId := by
  intro h
  obtain ⟨hexec, hgone, hlatest⟩ :
      (exec step (start 0 oneNode) reconnecting).isSome = true ∧
        ((execD step (start 0 oneNode) reconnecting).hub.session "node-a").map
          ControlWSSession.connection = none ∧
        (execD step (start 0 oneNode) reconnecting).latest "node-a" = some 1 := by decide
  have hentry := h 0 oneNode _ (.of_exec .start (exec_eq_execD hexec)) "node-a"
  rw [hgone, hlatest] at hentry
  cases hentry

end ControlServer

end Slan.Control
