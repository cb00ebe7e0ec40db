import Slan.Control.Hub

/-! # How long a control session outlives its connection

The token of a session is good for a day. The row that goes with it is deleted by the cleanup of
a connection, by the cleanup pass and by a move to another network.
-/

namespace Slan.Control

open Transition

/-! ## Rows that are touched or deleted -/

/-- The same session, seen at another time. -/
def ControlSession.Same (row row' : ControlSession) : Prop :=
  row' = { row with lastSeenAt := row'.lastSeenAt }

theorem ControlSession.Same.refl (row : ControlSession) : row.Same row := rfl

theorem ControlSession.Same.trans {r row row' : ControlSession} (h : r.Same row)
    (h' : row.Same row') : r.Same row' := by
  unfold ControlSession.Same at h h' ⊢
  rw [h', h]

theorem ControlSession.Same.sessionToken {row row' : ControlSession} (h : row.Same row') :
    row'.sessionToken = row.sessionToken := by
  rw [h]

namespace Database

/-- Some row has the token. -/
def HasToken (db : Database) (token : String) : Prop :=
  ∃ row ∈ db.controlSessions, row.sessionToken = token

/-- The rows that are not gone are still there, perhaps touched, and there are no others. -/
structure RowChange (gone : ControlSession → Prop) (db db' : Database) : Prop where
  tokens : db'.tokens = db.tokens
  rows : ∃ (kept : List ControlSession) (touch : ControlSession → ControlSession),
    kept.Sublist db.controlSessions ∧ (∀ row ∈ db.controlSessions, row ∈ kept ↔ ¬gone row) ∧
      (∀ row : ControlSession, row.Same (touch row)) ∧ db'.controlSessions = kept.map touch

section RowChange

variable {gone : ControlSession → Prop} {db db' db'' : Database}

theorem RowChange.of_eq (h : RowChange gone db db') (htokens : db''.tokens = db'.tokens)
    (hrows : db''.controlSessions = db'.controlSessions) : RowChange gone db db'' := by
  obtain ⟨kept, touch, hsub, hkept, htouch, heq⟩ := h.rows
  exact ⟨htokens.trans h.tokens, kept, touch, hsub, hkept, htouch, hrows.trans heq⟩

theorem RowChange.refl (db : Database) : RowChange (fun _ => False) db db :=
  ⟨rfl, db.controlSessions, id, .refl _, fun _ hrow => by simp [hrow], .refl, by simp⟩

theorem RowChange.same (htokens : db'.tokens = db.tokens)
    (hrows : db'.controlSessions = db.controlSessions) : RowChange (fun _ => False) db db' :=
  (RowChange.refl db).of_eq htokens hrows

theorem rowChange_touchWhere (db : Database) (chosen : ControlSession → Bool) (now : Int) :
    RowChange (fun _ => False) db (db.touchWhere chosen now) := by
  refine ⟨rfl, db.controlSessions,
    fun row => if chosen row then { row with lastSeenAt := now } else row, .refl _,
    fun _ hrow => by simp [hrow], fun row => ?_, rfl⟩
  by_cases hchosen : chosen row = true
  · simp only [hchosen, if_true]
    rfl
  · simp only [hchosen]
    exact .refl row

theorem rowChange_filter (htokens : db'.tokens = db.tokens) {chosen : ControlSession → Bool}
    (hrows : db'.controlSessions = db.controlSessions.filter fun row => !chosen row) :
    RowChange (fun row => chosen row = true) db db' :=
  ⟨htokens, db.controlSessions.filter fun row => !chosen row, id, List.filter_sublist,
    fun row hrow => by simp [hrow], .refl, by rw [hrows, List.map_id]⟩

theorem RowChange.congr {gone' : ControlSession → Prop} (h : RowChange gone db db')
    (hgone : ∀ row ∈ db.controlSessions, gone row ↔ gone' row) : RowChange gone' db db' := by
  obtain ⟨kept, touch, hsub, hkept, htouch, heq⟩ := h.rows
  refine ⟨h.tokens, kept, touch, hsub, fun row hrow => ?_, htouch, heq⟩
  rw [hkept row hrow, hgone row hrow]

theorem rowChange_greeted (db : Database) (now : Int) (hello : NodeHello) (row : ControlSession) :
    RowChange (fun _ => False) db (db.greeted now hello row) := by
  have htouch : RowChange (fun _ => False) db
      (db.touchControlSessionByToken hello.sessionToken now) := by
    unfold touchControlSessionByToken
    split
    · exact .refl db
    · exact db.rowChange_touchWhere _ now
  exact htouch.of_eq (tokens_updateDeviceStatus _ _ _) (controlSessions_updateDeviceStatus _ _ _)

theorem rowChange_handshake (db : Database) (now : Int) (hello : NodeHello) :
    RowChange (fun _ => False) db (db.handshake now hello).2 := by
  rcases db.handshake_cases now hello with ⟨row, node, _, _, hrun⟩ | ⟨_, err, db', hrun, hdb⟩
  · rw [hrun]
    exact db.rowChange_greeted now hello row
  · rw [hrun]
    rcases hdb with rfl | ⟨row, rfl⟩
    · exact .refl db'
    · exact db.rowChange_greeted now hello row

theorem rowChange_heartbeat (db : Database) (now : Int) (userId nodeId networkId : String) :
    RowChange (fun _ => False) db (db.heartbeat now userId nodeId networkId).2 := by
  unfold heartbeat
  split
  · exact .refl db
  · split
    · exact .refl db
    · unfold touchControlSessionByNode
      split
      · exact .refl db
      · exact db.rowChange_touchWhere _ now

theorem controlSessions_reportEndpoints (db : Database) (now : Int) (userId : String)
    (report : EndpointReport) (endpointId : Nat → String) :
    (db.reportEndpoints now userId report endpointId).2.controlSessions = db.controlSessions ∧
      (db.reportEndpoints now userId report endpointId).2.tokens = db.tokens := by
  unfold reportEndpoints
  split
  · exact ⟨rfl, rfl⟩
  · split
    · exact ⟨rfl, rfl⟩
    · split
      · exact ⟨rfl, rfl⟩
      · exact ⟨controlSessions_updateDeviceStatus _ _ _, tokens_updateDeviceStatus _ _ _⟩

theorem rowChange_closeSession (db : Database) (userId nodeId networkId : String) :
    RowChange (fun row => db.Closes userId nodeId networkId ∧ row.nodeId = nodeId ∧
      row.networkId = networkId) db (db.closeSession userId nodeId networkId).2 := by
  rcases db.closeSession_cases userId nodeId networkId with ⟨node, hcloses, hrun⟩ | ⟨hnot, hrun⟩
  · rw [hrun]
    have htokens : (db.cleared nodeId networkId node.deviceId).tokens = db.tokens :=
      tokens_updateDeviceStatus _ _ _
    have hrows : (db.cleared nodeId networkId node.deviceId).controlSessions =
        db.controlSessions.filter fun row => !(row.nodeId == nodeId && row.networkId == networkId) :=
      controlSessions_updateDeviceStatus _ _ _
    refine (rowChange_filter htokens hrows).congr fun row _ => ?_
    simp [hcloses]
  · rw [hrun]
    refine (RowChange.refl db).congr fun row _ => ?_
    simp [hnot]

/-- A device keeps the sessions in the network that it enters. -/
theorem controlSessions_ensureSingleNetworkMembership (devices : List Device) (db : Database)
    (networkId : String) :
    (devices.foldl (fun db device => db.ensureSingleNetworkMembership device.deviceId networkId)
        db).controlSessions =
      db.controlSessions.filter (fun row => !(devices.any (fun device =>
        row.deviceId == device.deviceId) && (networkId == "" || row.networkId != networkId))) ∧
    (devices.foldl (fun db device => db.ensureSingleNetworkMembership device.deviceId networkId)
        db).tokens = db.tokens := by
  induction devices generalizing db with
  | nil => exact ⟨by simp, rfl⟩
  | cons device devices ih =>
    rw [List.foldl_cons, (ih _).1, (ih _).2]
    refine ⟨?_, rfl⟩
    have hrows : (db.ensureSingleNetworkMembership device.deviceId networkId).controlSessions =
        db.controlSessions.filter fun row => !(row.deviceId == device.deviceId &&
          (networkId == "" || row.networkId != networkId)) := rfl
    rw [hrows, List.filter_filter]
    apply List.filter_congr
    intro row _
    rw [List.any_cons]
    cases row.deviceId == device.deviceId <;> cases networkId == "" || row.networkId != networkId <;>
      simp

theorem rowChange_ensureActiveMemberForNetwork (db : Database) (userId networkId deviceId : String) :
    RowChange (fun row => (∃ device ∈ db.directory.listDevicesByUser userId,
        device.deviceId = row.deviceId) ∧ (networkId = "" ∨ row.networkId ≠ networkId)) db
      (db.ensureActiveMemberForNetwork userId networkId deviceId) := by
  obtain ⟨hrows, htokens⟩ := controlSessions_ensureSingleNetworkMembership
    (db.directory.listDevicesByUser userId) db networkId
  have hsingle : (db.ensureActiveMemberForNetwork userId networkId deviceId).controlSessions =
        (db.ensureSingleActiveNetworkForUser userId networkId).controlSessions ∧
      (db.ensureActiveMemberForNetwork userId networkId deviceId).tokens =
        (db.ensureSingleActiveNetworkForUser userId networkId).tokens := by
    unfold ensureActiveMemberForNetwork ensureMember
    split <;> exact ⟨rfl, rfl⟩
  refine (rowChange_filter (hsingle.2.trans htokens) (hsingle.1.trans hrows)).congr fun row _ => ?_
  simp only [Bool.and_eq_true, List.any_eq_true, beq_iff_eq, Bool.or_eq_true, bne_iff_ne]
  exact and_congr_left fun _ => exists_congr fun _ => and_congr_right fun _ => eq_comm

end RowChange

/-! ## One session -/

/-- The session `r` has been issued, and every row with its token is it. -/
structure Issued (db : Database) (r : ControlSession) : Prop where
  token : db.tokens.get? r.sessionToken = some ⟨r.userId, r.connectedAt + controlSessionTokenTtl⟩
  rows : ∀ row ∈ db.controlSessions, row.sessionToken = r.sessionToken → r.Same row
  unique : (db.controlSessions.map ControlSession.sessionToken).Nodup

/-- No two rows have one token, and every row's token is known. -/
structure Tokened (db : Database) : Prop where
  known : ∀ row ∈ db.controlSessions, db.tokens.get? row.sessionToken ≠ none
  unique : (db.controlSessions.map ControlSession.sessionToken).Nodup

section Changes

variable {gone : ControlSession → Prop} {db db' : Database} {r : ControlSession}

theorem RowChange.unique (h : RowChange gone db db')
    (hunique : (db.controlSessions.map ControlSession.sessionToken).Nodup) :
    (db'.controlSessions.map ControlSession.sessionToken).Nodup := by
  obtain ⟨kept, touch, hsub, _, htouch, hrows⟩ := h.rows
  have htokens : (kept.map touch).map ControlSession.sessionToken =
      kept.map ControlSession.sessionToken := by
    rw [List.map_map]
    apply List.map_congr_left
    intro row _
    exact (htouch row).sessionToken
  rw [hrows, htokens]
  exact hunique.sublist (hsub.map _)

theorem RowChange.tokened (h : RowChange gone db db') (hdb : db.Tokened) : db'.Tokened := by
  refine ⟨fun row' hrow' => ?_, h.unique hdb.unique⟩
  obtain ⟨kept, touch, hsub, _, htouch, hrows⟩ := h.rows
  rw [hrows] at hrow'
  obtain ⟨row, hrow, rfl⟩ := List.mem_map.mp hrow'
  rw [h.tokens, (htouch row).sessionToken]
  exact hdb.known row (hsub.subset hrow)

theorem RowChange.issued (h : RowChange gone db db') (hdb : db.Issued r) : db'.Issued r := by
  refine ⟨h.tokens ▸ hdb.token, fun row' hrow' htoken => ?_, h.unique hdb.unique⟩
  obtain ⟨kept, touch, hsub, _, htouch, hrows⟩ := h.rows
  rw [hrows] at hrow'
  obtain ⟨row, hrow, rfl⟩ := List.mem_map.mp hrow'
  rw [(htouch row).sessionToken] at htoken
  exact (hdb.rows row (hsub.subset hrow) htoken).trans (htouch row)

/-- The row of a token stays until it is gone. -/
theorem RowChange.hasToken_iff (h : RowChange gone db db') (hdb : db.Issued r) :
    db'.HasToken r.sessionToken ↔ db.HasToken r.sessionToken ∧
      ∀ row ∈ db.controlSessions, row.sessionToken = r.sessionToken → ¬gone row := by
  obtain ⟨kept, touch, hsub, hkept, htouch, hrows⟩ := h.rows
  constructor
  · intro ⟨row', hrow', htoken⟩
    rw [hrows] at hrow'
    obtain ⟨row, hrow, rfl⟩ := List.mem_map.mp hrow'
    rw [(htouch row).sessionToken] at htoken
    refine ⟨⟨row, hsub.subset hrow, htoken⟩, fun other hother hsame => ?_⟩
    have heq : other = row :=
      List.inj_on_of_nodup_map hdb.unique hother (hsub.subset hrow) (hsame.trans htoken.symm)
    rw [heq]
    exact (hkept row (hsub.subset hrow)).mp hrow
  · intro ⟨⟨row, hrow, htoken⟩, hspared⟩
    refine ⟨touch row, ?_, (htouch row).sessionToken.trans htoken⟩
    rw [hrows]
    exact List.mem_map_of_mem ((hkept row hrow).mpr (hspared row hrow htoken))

end Changes

/-- A new session has a token of its own and leaves the others as they are. -/
theorem createControlSession_cases (db : Database) (now : Int) (fresh : FreshSession)
    (userId nodeId networkId : String) :
    (∃ err, db.createControlSession now fresh userId nodeId networkId = (.error err, db)) ∨
    ∃ node, db.directory.requireNodeSession userId nodeId networkId = .ok node ∧
      db.createControlSession now fresh userId nodeId networkId =
        (.ok (db.createStoredControlSession now fresh userId node.deviceId node.nodeId networkId).1,
          (db.createStoredControlSession now fresh userId node.deviceId node.nodeId networkId).2) := by
  unfold createControlSession
  cases hnode : db.directory.requireNodeSession userId nodeId networkId with
  | error err => exact .inl ⟨err, rfl⟩
  | ok node => exact .inr ⟨node, rfl, rfl⟩

section Create

variable {db : Database} {fresh : FreshSession} {now : Int}
  {userId deviceId nodeId networkId : String}

theorem Tokened.create (h : db.Tokened) (hfresh : db.tokens.get? fresh.sessionToken = none) :
    (db.createStoredControlSession now fresh userId deviceId nodeId networkId).2.Tokened := by
  refine ⟨fun row hrow => ?_, ?_⟩
  · rw [createStoredControlSession, Table.get?_put]
    rcases List.mem_append.mp hrow with hrow | hrow
    · split
      · exact Option.some_ne_none _
      · exact h.known row hrow
    · rw [List.mem_singleton.mp hrow, if_pos rfl]
      exact Option.some_ne_none _
  · have hnew : fresh.sessionToken ∉ db.controlSessions.map ControlSession.sessionToken := by
      intro hmem
      obtain ⟨row, hrow, htoken⟩ := List.mem_map.mp hmem
      exact h.known row hrow (htoken ▸ hfresh)
    rw [createStoredControlSession, List.map_append, List.nodup_append]
    refine ⟨h.unique, List.nodup_singleton _, fun token htoken token' htoken' => ?_⟩
    rintro rfl
    rw [List.mem_singleton.mp htoken'] at htoken
    exact hnew htoken

/-- The session just created is issued. -/
theorem Tokened.issued_create (h : db.Tokened)
    (hfresh : db.tokens.get? fresh.sessionToken = none) :
    (db.createStoredControlSession now fresh userId deviceId nodeId networkId).2.Issued
        (db.createStoredControlSession now fresh userId deviceId nodeId networkId).1 ∧
      (db.createStoredControlSession now fresh userId deviceId nodeId networkId).2.HasToken
        fresh.sessionToken := by
  refine ⟨⟨?_, fun row hrow htoken => ?_, (h.create hfresh).unique⟩, ?_⟩
  · exact Table.get?_put_self _ _ _
  · rcases List.mem_append.mp hrow with hrow | hrow
    · have hnone : db.tokens.get? row.sessionToken = none :=
        (congrArg db.tokens.get? htoken).trans hfresh
      exact absurd hnone (h.known row hrow)
    · rw [List.mem_singleton.mp hrow]
      exact .refl _
  · exact ⟨_, List.mem_append_right _ (List.mem_singleton_self _), rfl⟩

/-- Another session is created beside an issued one. -/
theorem Issued.create {r : ControlSession} (h : db.Issued r) (hdb : db.Tokened)
    (hfresh : db.tokens.get? fresh.sessionToken = none) :
    (db.createStoredControlSession now fresh userId deviceId nodeId networkId).2.Issued r ∧
      ((db.createStoredControlSession now fresh userId deviceId nodeId networkId).2.HasToken
        r.sessionToken ↔ db.HasToken r.sessionToken) := by
  have hother : fresh.sessionToken ≠ r.sessionToken := by
    intro heq
    rw [heq, h.token] at hfresh
    cases hfresh
  refine ⟨⟨?_, fun row hrow htoken => ?_, (hdb.create hfresh).unique⟩, ?_⟩
  · rw [createStoredControlSession, Table.get?_put, if_neg (Ne.symm hother)]
    exact h.token
  · rcases List.mem_append.mp hrow with hrow | hrow
    · exact h.rows row hrow htoken
    · rw [List.mem_singleton.mp hrow] at htoken
      exact absurd htoken hother
  · constructor
    · intro ⟨row, hrow, htoken⟩
      rcases List.mem_append.mp hrow with hrow | hrow
      · exact ⟨row, hrow, htoken⟩
      · rw [List.mem_singleton.mp hrow] at htoken
        exact absurd htoken hother
    · intro ⟨row, hrow, htoken⟩
      exact ⟨row, List.mem_append_left _ hrow, htoken⟩

end Create

end Database

/-! ## Whole runs -/

namespace ControlServer

/-- The rows that a step deletes. -/
def Deletes (s : ControlServer) : ControlAction → ControlSession → Prop
  | .close c, row => ∃ session, s.connections c = some session ∧
    s.db.Closes session.userId session.nodeId session.networkId ∧
      row.nodeId = session.nodeId ∧ row.networkId = session.networkId
  | .cleanup, row => row.lastSeenAt < s.now - controlSessionFreshnessWindow
  | .enterNetwork userId networkId _, row =>
    (∃ device ∈ s.db.directory.listDevicesByUser userId, device.deviceId = row.deviceId) ∧
      (networkId = "" ∨ row.networkId ≠ networkId)
  | _, _ => False

/-- No connection of the session's node and network is cleaned up, no cleanup pass finds the
session unseen for too long, and its device does not move to another network. -/
def Spares (r : ControlSession) (s : ControlServer) (a : ControlAction) : Prop :=
  ∀ row ∈ s.db.controlSessions, row.sessionToken = r.sessionToken → ¬s.Deletes a row

section Handlers

variable (s : ControlServer) (c : Nat) (session : WsSession)

theorem rowChange_heartbeat : s.db.RowChange (fun _ => False) (s.heartbeat session).db := by
  unfold heartbeat
  split
  · exact s.db.rowChange_heartbeat s.now _ _ _
  · exact .refl s.db

theorem rowChange_handleNodeHello (hello : NodeHello) :
    s.db.RowChange (fun _ => False) (s.handleNodeHello c session hello).db := by
  have hdb : (s.handleNodeHello c session hello).db = (s.db.handshake s.now hello).2 := by
    unfold handleNodeHello
    split <;> rename_i heq <;> rw [heq]
  rw [hdb]
  exact s.db.rowChange_handshake s.now hello

theorem rowChange_handleNetworkMapRequest (requested : String) :
    s.db.RowChange (fun _ => False) (s.handleNetworkMapRequest c session requested).db := by
  have hdb : (s.handleNetworkMapRequest c session requested).db = (s.heartbeat session).db := by
    unfold handleNetworkMapRequest
    dsimp only
    split
    · rfl
    · split <;> rfl
  rw [hdb]
  exact s.rowChange_heartbeat session

theorem rowChange_handleEndpointReport (report : EndpointReport) (endpointId : Nat → String) :
    s.db.RowChange (fun _ => False) (s.handleEndpointReport session report endpointId).db := by
  unfold handleEndpointReport
  dsimp only
  split
  · exact s.rowChange_heartbeat session
  · have hreport := Database.controlSessions_reportEndpoints (s.heartbeat session).db
      (s.heartbeat session).now session.userId { report with
        nodeId := firstNonEmpty [report.nodeId, session.nodeId]
        networkId := firstNonEmpty [report.networkId, session.networkId] } endpointId
    exact (s.rowChange_heartbeat session).of_eq hreport.2 hreport.1

theorem rowChange_cleanup : s.db.RowChange (s.Deletes .cleanup)
    (s.db.cleanupExpiredControlPlaneState s.now) := by
  have hrows : (s.db.cleanupExpiredControlPlaneState s.now).controlSessions =
      s.db.controlSessions.filter fun row =>
        !decide (row.lastSeenAt < s.now - controlSessionFreshnessWindow) := rfl
  have htokens : (s.db.cleanupExpiredControlPlaneState s.now).tokens = s.db.tokens := rfl
  refine (Database.rowChange_filter htokens hrows).congr fun row _ => ?_
  rw [decide_eq_true_eq]
  rfl

theorem rowChange_closeConnection (hsession : s.connections c = some session) :
    s.db.RowChange (s.Deletes (.close c)) (s.closeConnection c session).db := by
  refine (s.db.rowChange_closeSession session.userId session.nodeId session.networkId).congr
    fun row _ => ?_
  constructor
  · intro ⟨hcloses, hrow⟩
    exact ⟨session, hsession, hcloses, hrow⟩
  · intro ⟨other, hother, hcloses, hrow⟩
    obtain rfl := Option.some.inj (hsession.symm.trans hother)
    exact ⟨hcloses, hrow⟩

end Handlers

/-- Every step but one touches or deletes rows. -/
theorem step_rows {s t : ControlServer} {a : ControlAction} (h : s.step a = some t) :
    s.db.RowChange (s.Deletes a) t.db ∨
      ∃ fresh userId nodeId networkId, a = .createSession fresh userId nodeId networkId ∧
        s.db.tokens.get? fresh.sessionToken = none ∧
        t.db = (s.db.createControlSession s.now fresh userId nodeId networkId).2 := by
  cases a with
  | tick now =>
    obtain ⟨-, rfl⟩ := ite_some_iff.mp h
    exact .inl (.refl s.db)
  | createSession fresh userId nodeId networkId =>
    obtain ⟨hfresh, rfl⟩ := ite_some_iff.mp h
    exact .inr ⟨fresh, userId, nodeId, networkId, rfl, hfresh, rfl⟩
  | enterNetwork userId networkId deviceId =>
    obtain rfl := Option.some.inj h
    exact .inl (s.db.rowChange_ensureActiveMemberForNetwork userId networkId deviceId)
  | cleanup =>
    obtain rfl := Option.some.inj h
    exact .inl s.rowChange_cleanup
  | nodeHello c hello =>
    obtain ⟨session, _, rfl⟩ := Option.map_eq_some_iff.mp h
    exact .inl (s.rowChange_handleNodeHello c session hello)
  | networkMapRequest c networkId =>
    obtain ⟨session, _, rfl⟩ := Option.map_eq_some_iff.mp h
    exact .inl (s.rowChange_handleNetworkMapRequest c session networkId)
  | endpointReport c report endpointId =>
    obtain ⟨session, _, rfl⟩ := Option.map_eq_some_iff.mp h
    exact .inl (s.rowChange_handleEndpointReport session report endpointId)
  | message c =>
    obtain ⟨session, _, rfl⟩ := Option.map_eq_some_iff.mp h
    exact .inl (s.rowChange_heartbeat session)
  | close c =>
    obtain ⟨session, hsession, rfl⟩ := Option.map_eq_some_iff.mp h
    exact .inl (s.rowChange_closeConnection c session hsession)
  | _ =>
    obtain rfl := Option.some.inj h
    exact .inl (.same rfl rfl)

section Runs

variable {s t : ControlServer} {a : ControlAction} {r : ControlSession}

theorem tokened_step (h : s.db.Tokened) (hstep : s.step a = some t) : t.db.Tokened := by
  rcases step_rows hstep with hrows | ⟨fresh, userId, nodeId, networkId, _, hfresh, hdb⟩
  · exact hrows.tokened h
  · rw [hdb]
    rcases s.db.createControlSession_cases s.now fresh userId nodeId networkId with
      ⟨err, hcreate⟩ | ⟨node, _, hcreate⟩
    · rw [hcreate]
      exact h
    · rw [hcreate]
      exact h.create hfresh

theorem tokened_of_reachable {now : Int} {directory : Directory}
    (h : Reachable (rel step) (start now directory) s) : s.db.Tokened := by
  refine h.invariant (fun s => s.db.Tokened) ⟨fun row hrow => ?_, List.nodup_nil⟩
    fun _ _ _ htokened hstep => tokened_step htokened hstep
  cases hrow

/-- What one step does to an issued session. -/
theorem hasToken_step (h : s.db.Issued r) (htokened : s.db.Tokened) (hstep : s.step a = some t) :
    t.db.Issued r ∧
      (t.db.HasToken r.sessionToken ↔ s.db.HasToken r.sessionToken ∧ s.Spares r a) := by
  rcases step_rows hstep with hrows | ⟨fresh, userId, nodeId, networkId, rfl, hfresh, hdb⟩
  · exact ⟨hrows.issued h, hrows.hasToken_iff h⟩
  · have hspares : s.Spares r (.createSession fresh userId nodeId networkId) :=
      fun _ _ _ hdeletes => hdeletes
    rw [and_iff_left hspares, hdb]
    rcases s.db.createControlSession_cases s.now fresh userId nodeId networkId with
      ⟨err, hcreate⟩ | ⟨node, _, hcreate⟩
    · rw [hcreate]
      exact ⟨h, Iff.rfl⟩
    · rw [hcreate]
      exact h.create htokened hfresh

theorem issued_of_reachable (h : Reachable (rel step) s t) (hissued : s.db.Issued r)
    (htokened : s.db.Tokened) : t.db.Issued r ∧ t.db.Tokened := by
  refine h.invariant (fun u => u.db.Issued r ∧ u.db.Tokened) ⟨hissued, htokened⟩ ?_
  intro u a v hu hstep
  exact ⟨(hasToken_step hu.1 hu.2 hstep).1, tokened_step hu.2 hstep⟩

/-- The row exists as long as no step of the run has deleted it. -/
theorem hasToken_iff_spared (h : Reachable (rel step) s t) (hissued : s.db.Issued r)
    (htokened : s.db.Tokened) (htoken : s.db.HasToken r.sessionToken) :
    t.db.HasToken r.sessionToken ↔ Reachable (guarded (Spares r) (rel step)) s t := by
  have hkept : ∀ u, Reachable (rel step) s u → u.db.Issued r ∧ u.db.Tokened :=
    fun u hu => issued_of_reachable hu hissued htokened
  constructor
  · intro ht
    refine h.guarded_of_prefix (fun u => u.db.HasToken r.sessionToken) ht ?_ ?_
    · intro u a v hu hstep hv
      obtain ⟨hissued, htokened⟩ := hkept u hu
      exact ((hasToken_step hissued htokened hstep).2.mp hv).1
    · intro u a v hu hstep hv
      obtain ⟨hissued, htokened⟩ := hkept u hu.of_guarded
      exact ((hasToken_step hissued htokened hstep).2.mp hv).2
  · intro hguarded
    induction hguarded with
    | start => exact htoken
    | next hu hstep ih =>
      obtain ⟨hissued, htokened⟩ := hkept _ hu.of_guarded
      exact (hasToken_step hissued htokened hstep.2).2.mpr ⟨ih hu.of_guarded, hstep.1⟩

/-! ## Reconnecting -/

/-- The client's `node_hello` with the token of the session. -/
structure Presents (hello : NodeHello) (r : ControlSession) : Prop where
  sessionToken : hello.sessionToken = r.sessionToken
  nodeId : hello.nodeId = r.nodeId
  networkId : hello.networkId = r.networkId
  user : hello.userId = "" ∨ hello.userId = r.userId
  device : hello.deviceId = "" ∨ hello.deviceId = r.deviceId

/-- The session is stored, and a hello with its token is accepted and keeps it stored as long as
the token is valid and the node's device is a member of the network. -/
def Reconnects (s : ControlServer) (r : ControlSession) : Prop :=
  s.db.HasToken r.sessionToken ∧ ∀ hello node, Presents hello r →
    s.now < r.connectedAt + controlSessionTokenTtl →
    s.db.directory.requireNodeSession r.userId r.nodeId r.networkId = .ok node →
      ∃ answer, (s.db.handshake s.now hello).1 = .ok answer ∧
        (s.db.handshake s.now hello).2.HasToken r.sessionToken

theorem isBlank_sessionToken (fresh : FreshSession) :
    Text.isBlank fresh.sessionToken = false := by
  have hkind : Text.utf8 "control" = [99, 111, 110, 116, 114, 111, 108] := by decide
  have happend : ∀ rest, Text.utf8 ("control" ++ rest) =
      99 :: 111 :: 110 :: ([116, 114, 111, 108] ++ Text.utf8 rest) := by
    intro rest
    rw [Text.utf8, String.toList_append, List.flatMap_append]
    exact congrArg (· ++ Text.utf8 rest) hkind
  rw [FreshSession.sessionToken, opaqueToken, String.append_assoc, String.append_assoc,
    String.append_assoc, happend, Base64.encode, Text.isBlank, String.toList_ofList, List.all_cons]
  have hfirst : Text.isSpace (Base64.symbol Base64.urlSafeNoPad (UInt8.toNat 99 / 4)) = false := by
    decide
  rw [hfirst, Bool.false_and]

theorem named_of_requireNodeSession {d : Directory} {userId nodeId networkId : String} {node : Node}
    (h : d.requireNodeSession userId nodeId networkId = .ok node) :
    Text.isBlank nodeId = false ∧ Text.isBlank networkId = false := by
  unfold Directory.requireNodeSession at h
  split at h
  · cases h
  · rename_i hnamed
    simpa using hnamed

theorem accepts_of_hasToken (h : s.db.Issued r) (htoken : s.db.HasToken r.sessionToken)
    (hblank : Text.isBlank r.sessionToken = false) {hello : NodeHello} (hello_r : Presents hello r)
    (hnow : s.now < r.connectedAt + controlSessionTokenTtl) {node : Node}
    (hmember : s.db.directory.requireNodeSession r.userId r.nodeId r.networkId = .ok node) :
    ∃ row, s.db.Accepts s.now hello row := by
  obtain ⟨stored, hstored, hstoredToken⟩ := htoken
  have hfind : (s.db.getControlSessionByToken hello.sessionToken).isSome := by
    rw [Database.getControlSessionByToken, List.find?_isSome, hello_r.sessionToken]
    exact ⟨stored, hstored, beq_iff_eq.mpr hstoredToken⟩
  obtain ⟨row, hrow⟩ := Option.isSome_iff_exists.mp hfind
  have hmem : row ∈ s.db.controlSessions := List.mem_of_find?_eq_some hrow
  have htoken : row.sessionToken = r.sessionToken := by
    have hfound := List.find?_some hrow
    rw [beq_iff_eq, hello_r.sessionToken] at hfound
    exact hfound
  have hsame : r.Same row := h.rows row hmem htoken
  have hvalid : s.db.authenticateControlSessionToken s.now hello.sessionToken = some r.userId := by
    rw [Database.authenticateControlSessionToken, hello_r.sessionToken, h.token]
    exact if_pos hnow
  obtain ⟨hnode, hnetwork⟩ := named_of_requireNodeSession hmember
  refine ⟨row, ?_⟩
  rw [hsame] at hrow ⊢
  exact
    { sessionToken := hello_r.sessionToken ▸ hblank
      nodeId := hello_r.nodeId ▸ hnode
      networkId := hello_r.networkId ▸ hnetwork
      token := hvalid
      user := hello_r.user
      stored := hrow
      node := hello_r.nodeId.symm
      network := hello_r.networkId.symm
      device := hello_r.device.imp_right Eq.symm
      member := ⟨node, by rw [hello_r.nodeId, hello_r.networkId]; exact hmember⟩ }

end Runs

/-- A session is good for reconnecting exactly as long as no step deletes its row. -/
theorem reconnects_iff (now : Int) (directory : Directory) (s₀ s₁ s : ControlServer)
    (fresh : FreshSession) (userId nodeId networkId : String) (r : ControlSession)
    (h₀ : Reachable (rel step) (start now directory) s₀)
    (hcreate : s₀.step (.createSession fresh userId nodeId networkId) = some s₁)
    (hissued : (s₀.db.createControlSession s₀.now fresh userId nodeId networkId).1 = .ok r)
    (h : Reachable (rel step) s₁ s) :
    s.Reconnects r ↔ Reachable (guarded (Spares r) (rel step)) s₁ s := by
  have htokened := tokened_of_reachable h₀
  obtain ⟨⟨hr, hrtoken⟩, hblank⟩ : (s₁.db.Issued r ∧ s₁.db.HasToken r.sessionToken) ∧
      Text.isBlank r.sessionToken = false := by
    rw [step] at hcreate
    split at hcreate
    · rename_i hfresh
      obtain rfl := Option.some.inj hcreate
      rcases s₀.db.createControlSession_cases s₀.now fresh userId nodeId networkId with
        ⟨err, hrun⟩ | ⟨node, _, hrun⟩
      · rw [hrun] at hissued
        cases hissued
      · rw [hrun] at hissued ⊢
        obtain rfl := Except.ok.inj hissued
        exact ⟨htokened.issued_create hfresh, isBlank_sessionToken fresh⟩
    · cases hcreate
  have hstored := hasToken_iff_spared h hr (tokened_step htokened hcreate) hrtoken
  have hissuedNow := (issued_of_reachable h hr (tokened_step htokened hcreate)).1
  constructor
  · intro hreconnects
    exact hstored.mp hreconnects.1
  · intro hspared
    have htoken := hstored.mpr hspared
    refine ⟨htoken, fun hello node hpresents hnow hmember => ?_⟩
    obtain ⟨row, haccepts⟩ := accepts_of_hasToken hissuedNow htoken hblank hpresents hnow hmember
    rcases s.db.handshake_cases s.now hello with ⟨row', node', _, _, hrun⟩ | ⟨hnot, _⟩
    · have hkept := (s.db.rowChange_handshake s.now hello).hasToken_iff hissuedNow
      refine ⟨_, congrArg Prod.fst hrun, hkept.mpr ⟨htoken, fun _ _ _ hgone => hgone⟩⟩
    · exact absurd haccepts (hnot row)

section Samples

def sampleSession : ControlSession where
  controlSessionId := "ctrl-000000000001"
  userId := "user-1"
  deviceId := "dev-1"
  nodeId := "node-a"
  networkId := "net-1"
  sessionToken := sampleFresh.sessionToken
  connectedAt := 0
  lastSeenAt := 0

/-- The server right after the session has been issued. -/
def issuing : ControlServer :=
  { start 0 oneNode with
    db := ((start 0 oneNode).db.createControlSession 0 sampleFresh "user-1" "node-a" "net-1").2 }

theorem step_issuing : (start 0 oneNode).step
    (.createSession sampleFresh "user-1" "node-a" "net-1") = some issuing := by
  have hfresh : (start 0 oneNode).db.tokens.get? sampleFresh.sessionToken = none :=
    Table.get?_empty _
  rw [step, if_pos hfresh]
  rfl

theorem issued_sampleSession : ((start 0 oneNode).db.createControlSession 0 sampleFresh "user-1"
    "node-a" "net-1").1 = .ok sampleSession := by
  decide

/-- The node connects, and once more before its first connection is cleaned up. -/
def connectingTwice : List ControlAction :=
  [.open "dev-1", .nodeHello 0 sampleHello, .open "dev-1", .nodeHello 1 sampleHello]

/-- The node connects, and its connection drops and is cleaned up. -/
def dropping : List ControlAction :=
  [.open "dev-1", .nodeHello 0 sampleHello, .close 0]

end Samples

/-- The session lasts while its node connects, again and again. -/
theorem reconnects_connectingTwice :
    (execD step issuing connectingTwice).Reconnects sampleSession := by
  have hrun : exec step issuing connectingTwice = some (execD step issuing connectingTwice) :=
    exec_eq_execD (by decide)
  have hspared : Reachable (guarded (Spares sampleSession) (rel step)) issuing
      (execD step issuing connectingTwice) := by
    refine .guarded_of_exec .start (fun a ha u => ?_) hrun
    simp only [connectingTwice, List.mem_cons, List.not_mem_nil, or_false] at ha
    rcases ha with rfl | rfl | rfl | rfl <;> exact fun _ _ _ hdeletes => hdeletes
  exact (reconnects_iff 0 oneNode (start 0 oneNode) issuing _ sampleFresh "user-1" "node-a" "net-1"
    sampleSession .start step_issuing issued_sampleSession (.of_exec .start hrun)).mpr hspared

/-- After the cleanup of its connection the node is turned away. -/
theorem not_reconnects_dropped : ¬∀ now directory s₀ s₁ s fresh userId nodeId networkId r,
    Reachable (rel step) (start now directory) s₀ →
      s₀.step (.createSession fresh userId nodeId networkId) = some s₁ →
        (s₀.db.createControlSession s₀.now fresh userId nodeId networkId).1 = .ok r →
          Reachable (rel step) s₁ s → s.Reconnects r := by
  intro h
  obtain ⟨hexec, hnow, hmember, hrefused⟩ :
      (exec step issuing dropping).isSome = true ∧
        (execD step issuing dropping).now < sampleSession.connectedAt + controlSessionTokenTtl ∧
        (execD step issuing dropping).db.directory.requireNodeSession "user-1" "node-a" "net-1" =
          .ok ⟨"node-a", "user-1", "dev-1", "key", []⟩ ∧
        (((execD step issuing dropping).db.handshake
          (execD step issuing dropping).now sampleHello).1).toOption = none := by decide
  have hreconnects := h 0 oneNode (start 0 oneNode) issuing _ sampleFresh "user-1" "node-a" "net-1"
    sampleSession .start step_issuing issued_sampleSession (.of_exec .start (exec_eq_execD hexec))
  obtain ⟨answer, hanswer, _⟩ :=
    hreconnects.2 sampleHello _ ⟨rfl, rfl, rfl, .inr rfl, .inr rfl⟩ hnow hmember
  rw [hanswer] at hrefused
  cases hrefused

end ControlServer

end Slan.Control
