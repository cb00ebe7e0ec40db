import Slan.Control.ControlSessions

/-! # What the control channel's calls do to the rows of a control session -/

namespace Slan.Control

/-! ## A device's status opens and closes nothing -/

theorem Directory.any_listDevicesByUser (d : Directory) (userId : String) (f : Device → Bool) :
    (d.listDevicesByUser userId).any f = true ↔
      ∃ key device, d.devices.get? key = some device ∧ device.userId = userId ∧ f device = true := by
  unfold Directory.listDevicesByUser
  simp only [List.any_eq_true, List.mem_filter, List.mem_map, beq_iff_eq]
  constructor
  · intro ⟨device, ⟨⟨⟨key, _⟩, hentry, hdevice⟩, huser⟩, hf⟩
    obtain rfl : _ = device := hdevice
    exact ⟨key, _, AList.mem_lookup_iff.mpr hentry, huser, hf⟩
  · intro ⟨key, device, hget, huser, hf⟩
    exact ⟨device, ⟨⟨⟨key, device⟩, AList.mem_lookup_iff.mp hget, rfl⟩, huser⟩, hf⟩

/-- The same directory but for the status of devices. -/
structure Directory.SameBut (d d' : Directory) : Prop where
  nodes : d'.nodes = d.nodes
  networks : d'.networks = d.networks
  members : d'.members = d.members
  devices : ∀ key, (d'.devices.get? key).map (fun device => (device.deviceId, device.userId)) =
    (d.devices.get? key).map (fun device => (device.deviceId, device.userId))

theorem Directory.SameBut.refl (d : Directory) : d.SameBut d := ⟨rfl, rfl, rfl, fun _ => rfl⟩

theorem Directory.SameBut.symm {d d' : Directory} (h : d.SameBut d') : d'.SameBut d :=
  ⟨h.nodes.symm, h.networks.symm, h.members.symm, fun key => (h.devices key).symm⟩

theorem Directory.SameBut.any_devices {d d' : Directory} (h : d.SameBut d') {userId networkId : String}
    (hany : (d.listDevicesByUser userId).any (fun device =>
      d.hasMember networkId device.deviceId) = true) :
    (d'.listDevicesByUser userId).any (fun device =>
      d'.hasMember networkId device.deviceId) = true := by
  rw [Directory.any_listDevicesByUser] at hany ⊢
  obtain ⟨key, device, hget, huser, hmember⟩ := hany
  have hdevice := h.devices key
  rw [hget, Option.map_some] at hdevice
  obtain ⟨device', hget', hsame⟩ := Option.map_eq_some_iff.mp hdevice
  obtain ⟨hid, huser'⟩ := Prod.mk.inj hsame
  refine ⟨key, device', hget', huser'.trans huser, ?_⟩
  unfold Directory.hasMember at hmember ⊢
  rw [h.members, hid]
  exact hmember

theorem Directory.SameBut.ensureNetworkAccess {d d' : Directory} (h : d.SameBut d')
    (userId networkId : String) :
    d'.ensureNetworkAccess userId networkId = d.ensureNetworkAccess userId networkId := by
  have hany : ((d'.listDevicesByUser userId).any fun device =>
        d'.hasMember networkId device.deviceId) =
      (d.listDevicesByUser userId).any fun device => d.hasMember networkId device.deviceId := by
    apply Bool.eq_iff_iff.mpr
    exact ⟨h.symm.any_devices, h.any_devices⟩
  unfold Directory.ensureNetworkAccess
  rw [h.networks, hany]

theorem Directory.SameBut.requireNodeSession {d d' : Directory} (h : d.SameBut d')
    (userId nodeId networkId : String) :
    d'.requireNodeSession userId nodeId networkId = d.requireNodeSession userId nodeId networkId := by
  unfold Directory.requireNodeSession Directory.hasMember
  rw [h.nodes, h.members, h.ensureNetworkAccess]

namespace Database

theorem sameBut_updateDeviceStatus (db : Database) (deviceId status : String) :
    db.directory.SameBut (db.updateDeviceStatus deviceId status).directory := by
  unfold updateDeviceStatus
  split
  · exact .refl _
  · rename_i device hdevice
    refine ⟨rfl, rfl, rfl, fun key => ?_⟩
    dsimp only
    rw [Table.get?_put]
    split
    · rename_i hkey
      rw [hkey, hdevice]
      rfl
    · rfl

@[simp] theorem controlSessions_updateDeviceStatus (db : Database) (deviceId status : String) :
    (db.updateDeviceStatus deviceId status).controlSessions = db.controlSessions := by
  unfold updateDeviceStatus
  split <;> rfl

@[simp] theorem endpoints_updateDeviceStatus (db : Database) (deviceId status : String) :
    (db.updateDeviceStatus deviceId status).endpoints = db.endpoints := by
  unfold updateDeviceStatus
  split <;> rfl

@[simp] theorem tokens_updateDeviceStatus (db : Database) (deviceId status : String) :
    (db.updateDeviceStatus deviceId status).tokens = db.tokens := by
  unfold updateDeviceStatus
  split <;> rfl

@[simp] theorem directory_touchControlSessionByToken (db : Database) (sessionToken : String)
    (now : Int) : (db.touchControlSessionByToken sessionToken now).directory = db.directory := by
  unfold touchControlSessionByToken
  split <;> rfl

@[simp] theorem tokens_touchControlSessionByToken (db : Database) (sessionToken : String)
    (now : Int) : (db.touchControlSessionByToken sessionToken now).tokens = db.tokens := by
  unfold touchControlSessionByToken
  split <;> rfl

/-! ## Handshakes -/

/-- The checks that a handshake passes, `row` being the stored session. -/
structure Accepts (db : Database) (now : Int) (hello : NodeHello) (row : ControlSession) :
    Prop where
  sessionToken : Text.isBlank hello.sessionToken = false
  nodeId : Text.isBlank hello.nodeId = false
  networkId : Text.isBlank hello.networkId = false
  token : db.authenticateControlSessionToken now hello.sessionToken = some row.userId
  user : hello.userId = "" ∨ hello.userId = row.userId
  stored : db.getControlSessionByToken hello.sessionToken = some row
  node : row.nodeId = hello.nodeId
  network : row.networkId = hello.networkId
  device : hello.deviceId = "" ∨ row.deviceId = hello.deviceId
  member : ∃ node, db.directory.requireNodeSession row.userId hello.nodeId hello.networkId = .ok node

/-- The database after a handshake that has found its session. -/
def greeted (db : Database) (now : Int) (hello : NodeHello) (row : ControlSession) : Database :=
  (db.touchControlSessionByToken hello.sessionToken now).updateDeviceStatus row.deviceId "online"

theorem requireNodeSession_greeted (db : Database) (now : Int) (hello : NodeHello)
    (row : ControlSession) (userId nodeId networkId : String) :
    (db.greeted now hello row).directory.requireNodeSession userId nodeId networkId =
      db.directory.requireNodeSession userId nodeId networkId := by
  unfold greeted
  rw [(sameBut_updateDeviceStatus _ row.deviceId "online").requireNodeSession,
    directory_touchControlSessionByToken]

/-- A handshake passes all checks, or fails and has at most greeted the session. -/
theorem handshake_cases (db : Database) (now : Int) (hello : NodeHello) :
    (∃ row node, db.Accepts now hello row ∧
      db.directory.requireNodeSession row.userId hello.nodeId hello.networkId = .ok node ∧
      db.handshake now hello =
        (.ok (⟨row.controlSessionId, defaultControlHeartbeatSeconds⟩,
          ⟨row.userId, node.deviceId, node.nodeId, hello.networkId,
            defaultControlHeartbeatSeconds⟩), db.greeted now hello row)) ∨
    ((∀ row, ¬db.Accepts now hello row) ∧ ∃ err db', db.handshake now hello = (.error err, db') ∧
      (db' = db ∨ ∃ row, db' = db.greeted now hello row)) := by
  unfold handshake
  by_cases hblank : Text.isBlank hello.sessionToken ∨ Text.isBlank hello.nodeId ∨
      Text.isBlank hello.networkId
  · rw [if_pos hblank]
    refine .inr ⟨fun row h => ?_, _, _, rfl, .inl rfl⟩
    rw [h.sessionToken, h.nodeId, h.networkId] at hblank
    simp at hblank
  rw [if_neg hblank]
  simp only [not_or, Bool.not_eq_true] at hblank
  cases htoken : db.authenticateControlSessionToken now hello.sessionToken with
  | none =>
    refine .inr ⟨fun row h => ?_, _, _, rfl, .inl rfl⟩
    rw [h.token] at htoken
    cases htoken
  | some userId =>
    dsimp only
    by_cases huser : hello.userId ≠ "" ∧ hello.userId ≠ userId
    · rw [if_pos huser]
      refine .inr ⟨fun row h => ?_, _, _, rfl, .inl rfl⟩
      rw [h.token] at htoken
      obtain rfl := Option.some.inj htoken
      exact h.user.elim huser.1 huser.2
    rw [if_neg huser]
    cases hstored : db.getControlSessionByToken hello.sessionToken with
    | none =>
      refine .inr ⟨fun row h => ?_, _, _, rfl, .inl rfl⟩
      rw [h.stored] at hstored
      cases hstored
    | some session =>
      dsimp only
      by_cases hids : session.userId ≠ userId ∨ session.nodeId ≠ hello.nodeId ∨
          session.networkId ≠ hello.networkId
      · rw [if_pos hids]
        refine .inr ⟨fun row h => ?_, _, _, rfl, .inl rfl⟩
        rw [h.token] at htoken
        rw [h.stored] at hstored
        obtain rfl := Option.some.inj htoken
        obtain rfl := Option.some.inj hstored
        exact hids.elim (fun hne => hne rfl) fun hids =>
          hids.elim (fun hne => hne h.node) fun hne => hne h.network
      rw [if_neg hids]
      simp only [not_or, ne_eq, not_not] at hids
      obtain ⟨rfl, hnode, hnetwork⟩ := hids
      by_cases hdevice : hello.deviceId ≠ "" ∧ session.deviceId ≠ hello.deviceId
      · rw [if_pos hdevice]
        refine .inr ⟨fun row h => ?_, _, _, rfl, .inl rfl⟩
        rw [h.stored] at hstored
        obtain rfl := Option.some.inj hstored
        exact h.device.elim hdevice.1 hdevice.2
      rw [if_neg hdevice]
      -- the session is greeted before the membership is looked up, and stays so if that fails
      have hmap := db.requireNodeSession_greeted now hello session session.userId hello.nodeId
        hello.networkId
      unfold greeted at hmap
      unfold networkMap
      rw [hmap]
      cases hmember : db.directory.requireNodeSession session.userId hello.nodeId
        hello.networkId with
      | error err =>
        refine .inr ⟨fun row h => ?_, _, _, rfl, .inr ⟨session, rfl⟩⟩
        obtain ⟨node, hok⟩ := h.member
        rw [h.stored] at hstored
        obtain rfl := Option.some.inj hstored
        rw [hok] at hmember
        cases hmember
      | ok node =>
        refine .inl ⟨session, node, ⟨hblank.1, hblank.2.1, hblank.2.2, htoken, ?_, hstored, hnode,
          hnetwork, ?_, node, hmember⟩, hmember, rfl⟩
        · by_contra hne
          simp only [not_or] at hne
          exact huser hne
        · by_contra hne
          simp only [not_or] at hne
          exact hdevice hne

/-! ## Closing -/

/-- The session is one that a cleanup clears away. -/
structure Closes (db : Database) (userId nodeId networkId : String) : Prop where
  user : Text.isBlank userId = false
  node : Text.isBlank nodeId = false
  network : Text.isBlank networkId = false
  member : ∃ node, db.directory.requireNodeSession userId nodeId networkId = .ok node

/-- The rows that a cleanup leaves. -/
def cleared (db : Database) (nodeId networkId deviceId : String) : Database :=
  let db := db.deleteNodeEndpoints fun row => row.nodeId == nodeId && row.networkId == networkId
  let db := db.deleteNodeConnectionStates fun row =>
    (row.nodeId == nodeId || row.peerNodeId == nodeId) && row.networkId == networkId
  let db := db.deleteControlSessions fun row => row.nodeId == nodeId && row.networkId == networkId
  db.updateDeviceStatus deviceId "offline"

theorem closeSession_cases (db : Database) (userId nodeId networkId : String) :
    (∃ node : Node, db.Closes userId nodeId networkId ∧
      (db.closeSession userId nodeId networkId).2 = db.cleared nodeId networkId node.deviceId) ∨
    (¬db.Closes userId nodeId networkId ∧ (db.closeSession userId nodeId networkId).2 = db) := by
  unfold closeSession
  by_cases hblank : Text.isBlank userId ∨ Text.isBlank nodeId ∨ Text.isBlank networkId
  · rw [if_pos hblank]
    refine .inr ⟨fun h => ?_, rfl⟩
    rw [h.user, h.node, h.network] at hblank
    simp at hblank
  · rw [if_neg hblank]
    simp only [not_or, Bool.not_eq_true] at hblank
    cases hmember : db.directory.requireNodeSession userId nodeId networkId with
    | error err =>
      refine .inr ⟨fun h => ?_, ?_⟩
      · obtain ⟨node, hok⟩ := h.member
        rw [hok] at hmember
        cases hmember
      · dsimp only
        split <;> rfl
    | ok node =>
      exact .inl ⟨node, ⟨hblank.1, hblank.2.1, hblank.2.2, node, hmember⟩, rfl⟩

theorem mem_endpoints_closeSession (db : Database) (userId nodeId networkId : String)
    {row : NodeEndpoint} (h : row.nodeId ≠ nodeId) :
    row ∈ (db.closeSession userId nodeId networkId).2.endpoints ↔ row ∈ db.endpoints := by
  rcases db.closeSession_cases userId nodeId networkId with ⟨node, _, hrun⟩ | ⟨_, hrun⟩
  · rw [hrun]
    simp [cleared, deleteControlSessions, deleteNodeConnectionStates, deleteNodeEndpoints, h]
  · rw [hrun]

theorem mem_controlSessions_closeSession (db : Database) (userId nodeId networkId : String)
    {row : ControlSession} (h : row.nodeId ≠ nodeId) :
    row ∈ (db.closeSession userId nodeId networkId).2.controlSessions ↔
      row ∈ db.controlSessions := by
  rcases db.closeSession_cases userId nodeId networkId with ⟨node, _, hrun⟩ | ⟨_, hrun⟩
  · rw [hrun]
    simp [cleared, deleteControlSessions, deleteNodeConnectionStates, deleteNodeEndpoints, h]
  · rw [hrun]

end Database

end Slan.Control
