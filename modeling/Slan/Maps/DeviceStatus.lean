import Slan.Maps.ServerSteps
import Slan.Networks.Places

/-! # Which devices are online

A device is connected by an open connection that is authorized as one of its nodes, for the user
that the node belongs to. The status is one field of the device's row, whatever connections it has.
-/

namespace Slan.Maps

open Control (FreshSession Node NodeHello WsSession firstNonEmpty)
open Networks (Device SamePlaces Store)

/-! ## Connections and rows -/

/-- There is an open connection that is authorized so. -/
def Live (connections : Nat → Option WsSession) (userId nodeId : String) : Prop :=
  ∃ c session, connections c = some session ∧ session.authorized = true ∧
    session.userId = userId ∧ session.nodeId = nodeId

def Connected (s : Store) (connections : Nat → Option WsSession) (deviceId : String) : Prop :=
  ∃ node ∈ s.nodes, node.deviceId = deviceId ∧ Live connections node.userId node.nodeId

def IsOnline (s : Store) (deviceId : String) : Prop :=
  ∃ device ∈ s.devices, device.deviceId = deviceId ∧ device.status = "online"

/-- Every device that is connected is online, and every node is of a device. -/
structure Shows (connections : Nat → Option WsSession) (s : Store) : Prop where
  online : ∀ deviceId, Connected s connections deviceId → IsOnline s deviceId
  placed : ∀ node ∈ s.nodes, ∃ device ∈ s.devices, device.deviceId = node.deviceId

section Rows

variable {connections connections' : Nat → Option WsSession} {s t u : Store}
  {deviceId status : String}

theorem Shows.same (h : Shows connections s) (hsame : SamePlaces s t) : Shows connections t := by
  obtain ⟨honline, hplaced⟩ := h
  unfold Connected IsOnline at honline
  rw [← hsame.devices, ← hsame.nodes] at honline hplaced
  exact ⟨honline, hplaced⟩

/-- Where fewer are connected, no device has to be online that had not to. -/
theorem Shows.mono (h : Shows connections s)
    (hlive : ∀ userId nodeId, Live connections' userId nodeId → Live connections userId nodeId) :
    Shows connections' s where
  online deviceId := fun ⟨node, hnode, hdevice, hon⟩ =>
    h.online deviceId ⟨node, hnode, hdevice, hlive _ _ hon⟩
  placed := h.placed

theorem mem_updateDeviceStatus {device : Device} :
    device ∈ (updateDeviceStatus s deviceId status).devices ↔ ∃ row ∈ s.devices,
      (if row.deviceId = deviceId then { row with status } else row) = device := by
  unfold updateDeviceStatus
  dsimp only
  rw [Relation.mem_alter]

/-- A device may be marked online at any time, offline while it is not connected. -/
theorem Shows.mark (h : Shows connections s)
    (hdevice : status = "online" ∨ ¬Connected s connections deviceId) :
    Shows connections (updateDeviceStatus s deviceId status) where
  online other hother := by
    obtain ⟨device, hmem, hid, hon⟩ := h.online other hother
    refine ⟨_, mem_updateDeviceStatus.mpr ⟨device, hmem, rfl⟩, ?_⟩
    split
    · rename_i hmarked
      refine ⟨hid, hdevice.resolve_right fun hnone => hnone ?_⟩
      rwa [← hmarked, hid]
    · exact ⟨hid, hon⟩
  placed node hnode := by
    obtain ⟨device, hmem, hid⟩ := h.placed node hnode
    refine ⟨_, mem_updateDeviceStatus.mpr ⟨device, hmem, rfl⟩, ?_⟩
    split <;> exact hid

theorem isOnline_marked {node : Node} (h : Shows connections s) (hnode : node ∈ s.nodes)
    (hdevice : node.deviceId = deviceId ∨ IsOnline s node.deviceId) :
    IsOnline (updateDeviceStatus s deviceId "online") node.deviceId := by
  have hrow : ∃ device ∈ s.devices, device.deviceId = node.deviceId ∧
      (device.deviceId = deviceId ∨ device.status = "online") := by
    rcases hdevice with hsame | ⟨device, hmem, hid, hon⟩
    · obtain ⟨device, hmem, hid⟩ := h.placed node hnode
      exact ⟨device, hmem, hid, .inl (hid.trans hsame)⟩
    · exact ⟨device, hmem, hid, .inr hon⟩
  obtain ⟨device, hmem, hid, hstatus⟩ := hrow
  refine ⟨_, mem_updateDeviceStatus.mpr ⟨device, hmem, rfl⟩, ?_⟩
  split
  · exact ⟨hid, rfl⟩
  · rename_i hother
    exact ⟨hid, hstatus.resolve_left hother⟩

theorem Live.of_update {c : Nat} {after : Option WsSession} {userId nodeId : String}
    (h : Live (Function.update connections c after) userId nodeId) :
    Live connections userId nodeId ∨ ∃ session ∈ after, session.nodeId = nodeId := by
  obtain ⟨c', session, hopen, hauthorized, huser, hnode⟩ := h
  by_cases hc : c' = c
  · rw [hc, Function.update_self] at hopen
    exact .inr ⟨session, hopen, hnode⟩
  · rw [Function.update_of_ne hc] at hopen
    exact .inl ⟨c', session, hopen, hauthorized, huser, hnode⟩

theorem Live.of_closed {c : Nat} {userId nodeId : String}
    (h : Live (Function.update connections c none) userId nodeId) :
    Live connections userId nodeId :=
  h.of_update.resolve_right nofun

theorem Live.of_renamed {c : Nat} {session session' : WsSession}
    (hopen : connections c = some session) (hauthorized : session.authorized = true)
    (huser : session'.userId = session.userId) (hnode : session'.nodeId = session.nodeId)
    {userId nodeId : String}
    (h : Live (Function.update connections c (some session')) userId nodeId) :
    Live connections userId nodeId := by
  obtain ⟨c', other, hopen', hauthorized', huser', hnode'⟩ := h
  by_cases hc : c' = c
  · rw [hc, Function.update_self] at hopen'
    obtain rfl := Option.some.inj hopen'
    exact ⟨c, session, hopen, hauthorized, huser ▸ huser', hnode ▸ hnode'⟩
  · rw [Function.update_of_ne hc] at hopen'
    exact ⟨c', other, hopen', hauthorized', huser', hnode'⟩

/-- A connection is authorized as a node, whose device is marked or was online. -/
theorem Shows.greet (h : Shows connections s) {node : Node} (hnode : node ∈ s.nodes)
    (hdevice : node.deviceId = deviceId ∨ IsOnline s node.deviceId) {c : Nat} {session : WsSession}
    (hsession : session.nodeId = node.nodeId) :
    Shows (Function.update connections c (some session))
      (updateDeviceStatus s deviceId "online") where
  online other := by
    rintro ⟨row, hrow, rfl, hlive⟩
    rcases hlive.of_update with hbefore | ⟨greeted, hgreeted, hid⟩
    · exact (h.mark (.inl rfl)).online _ ⟨row, hrow, rfl, hbefore⟩
    · obtain rfl := Option.some.inj hgreeted
      obtain rfl : row = node := s.nodes.eq_of_clash hrow hnode (hid.symm.trans hsession)
      exact isOnline_marked h hnode hdevice
  placed := (h.mark (.inl rfl)).placed

/-- The device of a user's machine is marked offline, or is new. -/
theorem Shows.upsertDevice (h : Shows connections s) {row : Device}
    (hwrite : s.upsertDeviceByUserMachine row = some t)
    (hoff : ∀ device ∈ s.devices, device.userId = row.userId → device.machineId = row.machineId →
      ¬Connected s connections device.deviceId) : Shows connections t := by
  obtain ⟨hnodes, hdevices⟩ := Networks.upsertDevice_keeps hwrite
  refine ⟨fun other hother => ?_, fun node hnode => ?_⟩
  · unfold Connected at hother
    rw [hnodes] at hother
    obtain ⟨device, hmem, rfl, hon⟩ := h.online other hother
    obtain ⟨after, hafter, hid, hstatus⟩ := hdevices device hmem
    rcases hstatus with hsame | ⟨huser, hmachine⟩
    · exact ⟨after, hafter, hid, hsame.trans hon⟩
    · exact absurd hother (hoff device hmem huser hmachine)
  · obtain ⟨device, hmem, hdevice⟩ := h.placed node (hnodes ▸ hnode)
    obtain ⟨after, hafter, hid, _⟩ := hdevices device hmem
    exact ⟨after, hafter, hid.trans hdevice⟩

/-- A node is of another device, or is new. -/
theorem Shows.upsertNode (h : Shows connections s) {row : Node}
    (hwrite : s.upsertNode row = some t)
    (hplaced : ∃ device ∈ s.devices, device.deviceId = row.deviceId)
    (hlive : Live connections row.userId row.nodeId → IsOnline s row.deviceId) :
    Shows connections t := by
  rw [Networks.upsertNode_eq_some hwrite]
  refine ⟨fun other => ?_, fun node hnode => ?_⟩
  · rintro ⟨node, hnode, rfl, hon⟩
    rcases (Networks.mem_upsertNode hwrite).mp hnode with rfl | ⟨hold, _⟩
    · exact hlive hon
    · exact h.online _ ⟨node, hold, rfl, hon⟩
  · rcases (Networks.mem_upsertNode hwrite).mp hnode with rfl | ⟨hold, _⟩
    · exact hplaced
    · exact h.placed node hold

end Rows

/-! ## What the calls of a connection change -/

namespace DbState

variable {relays : Relays} {now : Int}

theorem samePlaces_touchByToken (p : DbState) (sessionToken : String) :
    SamePlaces p.store (p.touchControlSessionByToken sessionToken now).store := by
  unfold touchControlSessionByToken
  split <;> exact ⟨rfl, rfl⟩

theorem samePlaces_heartbeat (p : DbState) (userId nodeId networkId : String) :
    SamePlaces p.store (p.heartbeat now userId nodeId networkId).2.store := by
  unfold heartbeat
  split
  · exact .refl _
  split
  · exact .refl _
  · unfold touchControlSessionByNode
    dsimp only
    split <;> exact ⟨rfl, rfl⟩

theorem store_connectPlan (p : DbState) (userId nodeId networkId peerNodeId : String) :
    (p.connectPlan relays now userId nodeId networkId peerNodeId).2.store = p.store := by
  unfold connectPlan
  split
  · rfl
  · have hpeer : (p.peerSnapshot relays now userId nodeId networkId peerNodeId).2.store =
        p.store := p.store_peerSnapshot userId nodeId networkId peerNodeId
    generalize p.peerSnapshot relays now userId nodeId networkId peerNodeId = snapshot at hpeer ⊢
    obtain ⟨answer, q⟩ := snapshot
    cases answer <;> exact hpeer

theorem store_connectPlanByNode (p : DbState) (nodeId networkId peerNodeId : String) :
    (p.connectPlanByNode relays now nodeId networkId peerNodeId).2.store = p.store := by
  unfold connectPlanByNode
  split
  · rfl
  · exact p.store_connectPlan _ _ _ _

theorem store_fanoutPeerUpdate (p : DbState) (session : WsSession) :
    (p.fanoutPeerUpdate relays now session).2.store = p.store := by
  unfold fanoutPeerUpdate
  have hpeer : (p.peerSnapshot relays now session.userId session.nodeId session.networkId
      session.nodeId).2.store = p.store := p.store_peerSnapshot _ _ _ _
  generalize p.peerSnapshot relays now session.userId session.nodeId session.networkId
    session.nodeId = snapshot at hpeer ⊢
  obtain ⟨answer, q⟩ := snapshot
  cases answer <;> exact hpeer

theorem store_fanoutConnectPlans (session : WsSession) (peers : List WsSession) :
    ∀ p : DbState, (p.fanoutConnectPlans relays now session peers).2.store = p.store := by
  induction peers with
  | nil => exact fun _ => rfl
  | cons peer peers ih =>
    intro p
    rw [fanoutConnectPlans]
    dsimp only
    rw [ih, store_connectPlan, store_connectPlan]

theorem store_fanoutConnectPlanPair (p : DbState) (session : WsSession) (peerNodeId : String) :
    (p.fanoutConnectPlanPair relays now session peerNodeId).2.store = p.store := by
  unfold fanoutConnectPlanPair
  split
  · rfl
  · dsimp only
    rw [store_connectPlanByNode, store_connectPlan]

/-- A control session and a node for which a hello is answered. -/
structure Admits (p : DbState) (now : Int) (hello : NodeHello) (stored : Control.ControlSession)
    (node : Node) : Prop where
  token : p.authenticateControlSessionToken now hello.sessionToken = some stored.userId
  row : p.getControlSessionByToken hello.sessionToken = some stored
  user : hello.userId = "" ∨ hello.userId = stored.userId
  names : stored.nodeId = hello.nodeId ∧ stored.networkId = hello.networkId
  device : hello.deviceId = "" ∨ stored.deviceId = hello.deviceId
  node : ((p.touchControlSessionByToken hello.sessionToken now).updateDeviceStatus stored.deviceId
    "online").requireNodeSession stored.userId hello.nodeId hello.networkId = .ok node

theorem Admits.mem_nodes {p : DbState} {hello : NodeHello} {stored : Control.ControlSession}
    {node : Node} (h : p.Admits now hello stored node) :
    node ∈ p.store.nodes ∧ node.nodeId = hello.nodeId := by
  have hrun := (Networks.run_requireNodeSession_eq_ok (Prod.ext h.node rfl)).1.1
  rw [← (p.samePlaces_touchByToken hello.sessionToken).nodes]
  exact Networks.nodeById_eq_some hrun

/-- A hello marks the device of its control session, if it finds one; when it is answered, it does. -/
theorem handshake_marks (p : DbState) (hello : NodeHello) :
    SamePlaces p.store (p.handshake relays now hello).2.store ∧
        (∀ answer, (p.handshake relays now hello).1 ≠ .ok answer) ∨
      ∃ stored, SamePlaces (p.updateDeviceStatus stored.deviceId "online").store
          (p.handshake relays now hello).2.store ∧
        ∀ answer, (p.handshake relays now hello).1 = .ok answer →
          ∃ node, p.Admits now hello stored node := by
  unfold handshake
  split
  · exact .inl ⟨.refl _, nofun⟩
  split
  · exact .inl ⟨.refl _, nofun⟩
  rename_i userId htoken
  split
  · exact .inl ⟨.refl _, nofun⟩
  rename_i huser
  split
  · exact .inl ⟨.refl _, nofun⟩
  rename_i stored hstored
  split
  · exact .inl ⟨.refl _, nofun⟩
  rename_i hnames
  split
  · exact .inl ⟨.refl _, nofun⟩
  rename_i hdevice
  have hmarked : SamePlaces (p.updateDeviceStatus stored.deviceId "online").store
      ((p.touchControlSessionByToken hello.sessionToken now).updateDeviceStatus stored.deviceId
        "online").store := by
    have htouched : SamePlaces p.store
        (p.touchControlSessionByToken hello.sessionToken now).store :=
      p.samePlaces_touchByToken hello.sessionToken
    generalize p.touchControlSessionByToken hello.sessionToken now = q at htouched
    refine ⟨?_, htouched.nodes⟩
    change (Maps.updateDeviceStatus q.store _ _).devices =
      (Maps.updateDeviceStatus p.store _ _).devices
    unfold Maps.updateDeviceStatus
    dsimp only
    rw [htouched.devices]
  rw [not_or, not_or, not_not, not_not, not_not] at hnames
  refine .inr ⟨stored, ?_, fun answer hanswer => ?_⟩
  · dsimp only
    rw [store_networkMap]
    exact hmarked
  · obtain ⟨rfl, hnode, hnetwork⟩ := hnames
    dsimp only at hanswer
    generalize hq : (p.touchControlSessionByToken hello.sessionToken now).updateDeviceStatus
      stored.deviceId "online" = q at hanswer
    unfold networkMap at hanswer
    cases hsource : q.requireNodeSession stored.userId hello.nodeId hello.networkId with
    | error err =>
      rw [hsource] at hanswer
      cases hanswer
    | ok node =>
      exact ⟨node, htoken, hstored, by tauto, ⟨hnode, hnetwork⟩, by tauto, hq ▸ hsource⟩

theorem reportEndpoints_marks (p : DbState) (userId : String) (report : Control.EndpointReport)
    (endpointId : Nat → String) :
    SamePlaces p.store (p.reportEndpoints relays now userId report endpointId).2.store ∨
      ∃ deviceId, SamePlaces (p.updateDeviceStatus deviceId "online").store
        (p.reportEndpoints relays now userId report endpointId).2.store := by
  unfold reportEndpoints
  split
  · exact .inl (.refl _)
  split
  · exact .inl (.refl _)
  rename_i node _
  split
  · exact .inl (.refl _)
  · refine .inr ⟨node.deviceId, ?_⟩
    dsimp only
    rw [store_buildNetworkMap]
    exact .refl _

theorem reportConnectionState_store (p : DbState) (userId nodeId : String)
    (report : ConnectionState) :
    (p.reportConnectionState now userId nodeId report).2.store = p.store := by
  unfold reportConnectionState
  split
  · rfl
  split
  · rfl
  split
  · rfl
  split <;> rfl

/-- A node whose device a notice takes offline. -/
def EndsBy (p : DbState) (userId nodeId networkId peerNodeId : String) (node : Node) : Prop :=
  Text.isBlank nodeId = false ∧ Text.isBlank networkId = false ∧
    Text.isBlank peerNodeId = false ∧ p.requireNodeSession userId nodeId networkId = .ok node

theorem disconnect_marks (p : DbState) (userId nodeId : String) (notice : DisconnectNotice) :
    SamePlaces p.store (p.disconnect now userId nodeId notice).2.store ∨
      ∃ node, p.EndsBy userId nodeId notice.networkId notice.peerNodeId node ∧
        SamePlaces (p.updateDeviceStatus node.deviceId "offline").store
          (p.disconnect now userId nodeId notice).2.store := by
  unfold disconnect
  split
  · exact .inl (.refl _)
  rename_i hblank
  simp only [not_or, Bool.not_eq_true] at hblank
  split
  · exact .inl (.refl _)
  · rename_i node hnode
    exact .inr ⟨node, ⟨hblank.1, hblank.2.1, hblank.2.2, hnode⟩, .refl _⟩

/-- A node whose device the end of a session takes offline. -/
def ClosesBy (p : DbState) (userId nodeId networkId : String) (node : Node) : Prop :=
  Text.isBlank userId = false ∧ Text.isBlank nodeId = false ∧ Text.isBlank networkId = false ∧
    p.requireNodeSession userId nodeId networkId = .ok node

theorem closeSession_marks (p : DbState) (userId nodeId networkId : String) :
    SamePlaces p.store (p.closeSession userId nodeId networkId).2.store ∨
      ∃ node, p.ClosesBy userId nodeId networkId node ∧
        SamePlaces (p.updateDeviceStatus node.deviceId "offline").store
          (p.closeSession userId nodeId networkId).2.store := by
  unfold closeSession
  split
  · exact .inl (.refl _)
  rename_i hblank
  simp only [not_or, Bool.not_eq_true] at hblank
  split
  · split <;> exact .inl (.refl _)
  · rename_i node hnode
    exact .inr ⟨node, ⟨hblank.1, hblank.2.1, hblank.2.2, hnode⟩, ⟨rfl, rfl⟩⟩

end DbState

/-! ## What a message and the end of a connection leave -/

namespace Handled

variable {relays : Relays} {now : Int} {connections : Nat → Option WsSession} {p : DbState}

/-- The networks that the handler of a notice looks at. -/
def noticed (session : WsSession) (notice : DisconnectNotice) : String :=
  firstNonEmpty [notice.networkId, session.networkId]

theorem store_fanouts (p : DbState) (hub : Control.ControlWSHub) (session : WsSession) :
    (fanouts relays now p hub session).db.store = p.store := by
  unfold fanouts
  dsimp only
  rw [DbState.store_fanoutConnectPlans, DbState.store_fanoutPeerUpdate]

/-- Of the messages of an authorized session, reports of endpoints and notices of a disconnection
write to the store. -/
theorem store_authorized (p : DbState) (hub : Control.ControlWSHub) (session : WsSession)
    (m : ClientMessage) :
    (authorized relays now p hub session m).db.store = p.store ∨
      (∃ sent endpointId, (authorized relays now p hub session m).db.store =
        (p.reportEndpoints relays now session.userId sent endpointId).2.store) ∨
      ∃ notice, m = .disconnectNotice notice ∧
        (authorized relays now p hub session m).db.store =
          (p.disconnect now session.userId session.nodeId
            { notice with networkId := noticed session notice }).2.store := by
  cases m with
  | nodeHello hello => exact .inl rfl
  | ping => exact .inl rfl
  | networkMapRequest networkId =>
    left
    unfold authorized networkMapRequest
    dsimp only
    generalize (if networkId ≠ "" then networkId else session.networkId) = requested
    have hmap : (p.networkMap relays now session.userId session.nodeId requested).2.store =
        p.store := p.store_networkMap _ _ _
    generalize p.networkMap relays now session.userId session.nodeId requested = answer at hmap ⊢
    obtain ⟨result, q⟩ := answer
    cases result <;> exact hmap
  | endpointReport report endpointId =>
    refine .inr (.inl ⟨{ report with
      nodeId := firstNonEmpty [report.nodeId, session.nodeId]
      networkId := firstNonEmpty [report.networkId, session.networkId] }, endpointId, ?_⟩)
    unfold authorized endpointReport
    dsimp only
    split
    · rename_i heq
      exact (congrArg (fun r : _ × DbState => r.2.store) heq).symm
    · rename_i heq
      rw [store_fanouts]
      exact (congrArg (fun r : _ × DbState => r.2.store) heq).symm
  | connectionState state allowed =>
    have hreport : ∀ sent, (p.reportConnectionState now session.userId session.nodeId
        sent).2.store = p.store := fun sent => p.reportConnectionState_store _ _ sent
    left
    unfold authorized connectionState
    dsimp only
    split
    · rename_i heq
      exact congrArg (fun r : _ × DbState => r.2.store) heq ▸ hreport _
    · rename_i heq
      have hleft := congrArg (fun r : _ × DbState => r.2.store) heq ▸ hreport _
      split
      · exact (DbState.store_fanoutConnectPlanPair _ _ _).trans hleft
      · exact hleft
  | disconnectNotice notice =>
    refine .inr (.inr ⟨notice, rfl, ?_⟩)
    unfold authorized disconnectNotice
    dsimp only
    unfold noticed
    split
    · rename_i heq
      exact (congrArg (fun r : _ × DbState => r.2.store) heq).symm
    · rename_i heq
      exact (congrArg (fun r : _ × DbState => r.2.store) heq).symm
  | peerCandidate candidate allowed =>
    left
    unfold authorized peerCandidate
    dsimp only
    split
    · rfl
    · split <;> rfl

theorem shows_authorized (h : Shows connections p.store) {hub : Control.ControlWSHub}
    {session : WsSession} {m : ClientMessage}
    (hnotice : ∀ notice, m = .disconnectNotice notice → ∀ node,
      ¬p.EndsBy session.userId session.nodeId (noticed session notice) notice.peerNodeId node) :
    Shows connections (authorized relays now p hub session m).db.store := by
  rcases @store_authorized relays now p hub session m with hstore | ⟨sent, endpointId, hstore⟩ |
    ⟨notice, rfl, hstore⟩
  · exact h.same (.of_eq hstore)
  · rw [hstore]
    rcases p.reportEndpoints_marks session.userId sent endpointId with hsame | ⟨_, hmarked⟩
    · exact h.same hsame
    · exact (h.mark (.inl rfl)).same hmarked
  · rw [hstore]
    rcases p.disconnect_marks session.userId session.nodeId
      { notice with networkId := noticed session notice } with hsame | ⟨node, hends, _⟩
    · exact h.same hsame
    · exact absurd hends (hnotice notice rfl node)

theorem shows_nodeHello (h : Shows connections p.store) {hub : Control.ControlWSHub} {c : Nat}
    {session : WsSession} {hello : NodeHello} (hopen : connections c = some session)
    (hhello : ∀ stored node, p.Admits now hello stored node →
      node.deviceId = stored.deviceId ∨ IsOnline p.store node.deviceId) :
    Shows (Function.update connections c (some (nodeHello relays now p hub c session hello).session))
      (nodeHello relays now p hub c session hello).db.store := by
  have hstays : Function.update connections c (some session) = connections := by
    rw [← hopen, Function.update_eq_self]
  have hmarks := @DbState.handshake_marks relays now p hello
  unfold nodeHello
  split
  · rename_i err q heq
    rw [heq] at hmarks
    dsimp only at hmarks ⊢
    rw [hstays]
    rcases hmarks with ⟨hsame, _⟩ | ⟨_, hmarked, _⟩
    · exact h.same hsame
    · exact (h.mark (.inl rfl)).same hmarked
  · rename_i ack map q heq
    rw [heq] at hmarks
    dsimp only at hmarks ⊢
    rw [store_fanouts]
    rcases hmarks with ⟨_, hnone⟩ | ⟨stored, hmarked, hanswered⟩
    · exact absurd rfl (hnone (ack, map))
    · obtain ⟨node, hadmits⟩ := hanswered _ rfl
      have hnode := hadmits.mem_nodes
      exact (h.greet hnode.1 (hhello stored node hadmits) hnode.2.symm).same hmarked

theorem message_of_ne {m : ClientMessage} (h : ∀ hello, m ≠ .nodeHello hello) (p : DbState)
    (hub : Control.ControlWSHub) (c : Nat) (session : WsSession) :
    message relays now p hub c session m =
      if session.authorized = false then ⟨p, hub, session, []⟩
      else authorized relays now
        (p.heartbeat now session.userId session.nodeId session.networkId).2 hub session m := by
  cases m with
  | nodeHello hello => exact absurd rfl (h hello)
  | _ => rfl

/-- What of a message may take a device offline is ruled out. -/
theorem shows_message (h : Shows connections p.store) {hub : Control.ControlWSHub} {c : Nat}
    {session : WsSession} {m : ClientMessage} (hopen : connections c = some session)
    (hhello : ∀ hello, m = .nodeHello hello → ∀ stored node, p.Admits now hello stored node →
      node.deviceId = stored.deviceId ∨ IsOnline p.store node.deviceId)
    (hnotice : ∀ notice, m = .disconnectNotice notice → session.authorized = true → ∀ node,
      ¬(p.heartbeat now session.userId session.nodeId session.networkId).2.EndsBy session.userId
        session.nodeId (noticed session notice) notice.peerNodeId node) :
    Shows (Function.update connections c (some (message relays now p hub c session m).session))
      (message relays now p hub c session m).db.store := by
  by_cases hgreets : ∃ hello, m = .nodeHello hello
  · obtain ⟨hello, rfl⟩ := hgreets
    exact shows_nodeHello h hopen (hhello hello rfl)
  · rw [message_of_ne fun hello hm => hgreets ⟨hello, hm⟩]
    split
    · rw [← hopen, Function.update_eq_self]
      exact h
    · rename_i hauthorized
      rw [Bool.not_eq_false] at hauthorized
      have hleaves : Leaves relays now p hub c session (authorized relays now
          (p.heartbeat now session.userId session.nodeId session.networkId).2 hub session m) m :=
        leaves_authorized p hub session m
      have hshows : Shows connections (authorized relays now
          (p.heartbeat now session.userId session.nodeId session.networkId).2 hub session
          m).db.store :=
        shows_authorized (h.same (p.samePlaces_heartbeat _ _ _)) fun notice hm =>
          hnotice notice hm hauthorized
      refine hshows.mono fun userId nodeId hlive => hlive.of_renamed hopen hauthorized ?_ ?_
      all_goals
        cases hleaves with
        | same _ hsession => rw [hsession]
        | greeted hello => exact absurd ⟨hello, rfl⟩ hgreets
        | moved networkId _ _ _ hsession => rw [hsession]

theorem shows_closed (h : Shows connections p.store) {hub : Control.ControlWSHub} {c : Nat}
    {session : WsSession} (hclose : ∀ node,
      p.ClosesBy session.userId session.nodeId session.networkId node →
        ¬Connected p.store (Function.update connections c none) node.deviceId) :
    Shows (Function.update connections c none) (closed p hub session).db.store := by
  have hfewer : Shows (Function.update connections c none) p.store :=
    h.mono fun _ _ hlive => hlive.of_closed
  change Shows _ (p.closeSession session.userId session.nodeId session.networkId).2.store
  rcases p.closeSession_marks session.userId session.nodeId session.networkId with
    hsame | ⟨node, hcloses, hmarked⟩
  · exact hfewer.same hsame
  · exact (hfewer.mark (.inr (hclose node hcloses))).same hmarked

end Handled

end Slan.Maps
