import Slan.Control.ControlServer
import Slan.Control.ControlSessionSpec

/-! # Who owns a registered node

Users register nodes, and open the control channel as them, in any order.
-/

namespace Slan.Control

open Transition

namespace Directory

/-- The row that a registration by the user stores. -/
def RegisterNodeRequest.node (req : RegisterNodeRequest) (userId : String) : Node :=
  ⟨req.nodeId, userId, req.deviceId, req.nodePublicKey, req.capabilities⟩

theorem registerNode_eq_ok {d d' : Directory} {userId : String} {req : RegisterNodeRequest}
    {view : NodeView} :
    d.registerNode userId req = .ok (view, d') ↔
      requireRegisterNodeRequest req = .ok () ∧ d.ensureDeviceOwner userId req.deviceId = .ok () ∧
        view = ⟨req.nodeId, req.deviceId, req.nodePublicKey, req.capabilities,
          d.deviceNetworkIds req.deviceId⟩ ∧
        d' = { d with nodes := d.nodes.put req.nodeId (req.node userId) } := by
  unfold registerNode
  cases requireRegisterNodeRequest req with
  | error err => simp [bind, Except.bind]
  | ok _ =>
    cases d.ensureDeviceOwner userId req.deviceId with
    | error err => simp [bind, Except.bind]
    | ok _ => simp [RegisterNodeRequest.node, bind, Except.bind, pure, Except.pure, eq_comm]

end Directory

/-! ## Only a registration writes nodes -/

namespace Database

@[simp] theorem nodes_updateDeviceStatus (db : Database) (deviceId status : String) :
    (db.updateDeviceStatus deviceId status).directory.nodes = db.directory.nodes :=
  (sameBut_updateDeviceStatus db deviceId status).nodes

theorem nodes_handshake (db : Database) (now : Int) (hello : NodeHello) :
    (db.handshake now hello).2.directory.nodes = db.directory.nodes := by
  have hgreeted : ∀ row, (db.greeted now hello row).directory.nodes = db.directory.nodes := by
    intro row
    unfold greeted
    rw [nodes_updateDeviceStatus, directory_touchControlSessionByToken]
  rcases db.handshake_cases now hello with ⟨row, _, _, _, h⟩ | ⟨_, _, _, h, rfl | ⟨row, rfl⟩⟩
  · rw [h, hgreeted]
  · rw [h]
  · rw [h, hgreeted]

theorem nodes_heartbeat (db : Database) (now : Int) (userId nodeId networkId : String) :
    (db.heartbeat now userId nodeId networkId).2.directory.nodes = db.directory.nodes := by
  unfold heartbeat touchControlSessionByNode
  repeat' split
  all_goals rfl

theorem nodes_closeSession (db : Database) (userId nodeId networkId : String) :
    (db.closeSession userId nodeId networkId).2.directory.nodes = db.directory.nodes := by
  rcases db.closeSession_cases userId nodeId networkId with ⟨node, _, h⟩ | ⟨_, h⟩
  · rw [h]
    exact nodes_updateDeviceStatus _ _ _
  · rw [h]

theorem nodes_reportEndpoints (db : Database) (now : Int) (userId : String)
    (report : EndpointReport) (endpointId : Nat → String) :
    (db.reportEndpoints now userId report endpointId).2.directory.nodes = db.directory.nodes := by
  unfold reportEndpoints
  repeat' split
  all_goals first | rfl | exact nodes_updateDeviceStatus _ _ _

theorem nodes_createControlSession (db : Database) (now : Int) (fresh : FreshSession)
    (userId nodeId networkId : String) :
    (db.createControlSession now fresh userId nodeId networkId).2.directory.nodes =
      db.directory.nodes := by
  unfold createControlSession
  split <;> rfl

theorem nodes_ensureSingleActiveNetworkForUser (db : Database) (userId networkId : String) :
    (db.ensureSingleActiveNetworkForUser userId networkId).directory.nodes =
      db.directory.nodes := by
  unfold ensureSingleActiveNetworkForUser
  generalize db.directory.listDevicesByUser userId = devices
  induction devices generalizing db with
  | nil => rfl
  | cons device devices ih => exact ih (db.ensureSingleNetworkMembership device.deviceId networkId)

theorem nodes_ensureActiveMemberForNetwork (db : Database) (userId networkId deviceId : String) :
    (db.ensureActiveMemberForNetwork userId networkId deviceId).directory.nodes =
      db.directory.nodes := by
  have h := db.nodes_ensureSingleActiveNetworkForUser userId networkId
  unfold ensureActiveMemberForNetwork ensureMember
  split <;> exact h

end Database

namespace ControlServer

theorem nodes_handleNodeHello (s : ControlServer) (c : Nat) (session : WsSession)
    (hello : NodeHello) :
    (s.handleNodeHello c session hello).db.directory.nodes = s.db.directory.nodes := by
  have h := s.db.nodes_handshake s.now hello
  unfold handleNodeHello
  split <;> simpa only [*] using h

theorem nodes_heartbeat (s : ControlServer) (session : WsSession) :
    (s.heartbeat session).db.directory.nodes = s.db.directory.nodes := by
  unfold heartbeat
  split
  · exact s.db.nodes_heartbeat _ _ _ _
  · rfl

/-- No action but an administrative one writes a node, a hello included. -/
theorem step_nodes {s t : ControlServer} {a : ControlAction}
    (ha : ∀ directory, a ≠ .administer directory) (h : s.step a = some t) :
    t.db.directory.nodes = s.db.directory.nodes := by
  cases a with
  | administer directory => exact absurd rfl (ha directory)
  | tick now =>
    simp only [step, Option.ite_none_right_eq_some, Option.some.injEq] at h
    rw [← h.2]
  | createSession fresh userId nodeId networkId =>
    simp only [step, Option.ite_none_right_eq_some, Option.some.injEq] at h
    rw [← h.2]
    exact s.db.nodes_createControlSession _ _ _ _ _
  | enterNetwork userId networkId deviceId =>
    obtain rfl := Option.some.inj h
    exact s.db.nodes_ensureActiveMemberForNetwork _ _ _
  | nodeHello c hello =>
    obtain ⟨session, _, rfl⟩ := Option.map_eq_some_iff.mp h
    exact s.nodes_handleNodeHello c session hello
  | networkMapRequest c networkId =>
    obtain ⟨session, _, rfl⟩ := Option.map_eq_some_iff.mp h
    have hbeat := s.nodes_heartbeat session
    unfold handleNetworkMapRequest
    dsimp only
    repeat' split
    all_goals exact hbeat
  | endpointReport c report endpointId =>
    obtain ⟨session, _, rfl⟩ := Option.map_eq_some_iff.mp h
    have hbeat := s.nodes_heartbeat session
    unfold handleEndpointReport
    dsimp only
    split
    · exact hbeat
    · exact (Database.nodes_reportEndpoints _ _ _ _ _).trans hbeat
  | message c =>
    obtain ⟨session, _, rfl⟩ := Option.map_eq_some_iff.mp h
    exact s.nodes_heartbeat session
  | close c =>
    obtain ⟨session, _, rfl⟩ := Option.map_eq_some_iff.mp h
    exact s.db.nodes_closeSession _ _ _
  | _ =>
    obtain rfl := Option.some.inj h
    rfl

end ControlServer

/-! ## Runs of registrations and hellos -/

inductive NodeRequest where
  | register (req : Directory.RegisterNodeRequest) (ok : Bool)
  | hello (hello : NodeHello)

/-- A call that was answered, with the nodes before and after it. -/
structure NodeCall where
  /-- Whom the call was made as, none for the hello of a token that does not exist. -/
  userId : Option String
  request : NodeRequest
  before : Table Node
  after : Table Node

namespace NodeCall

/-- A node of somebody else keeps its owner and device, and cannot be registered. -/
structure Respects (call : NodeCall) : Prop where
  kept : ∀ nodeId row, call.before.get? nodeId = some row → call.userId ≠ some row.userId →
    ∃ row', call.after.get? nodeId = some row' ∧ row'.userId = row.userId ∧
      row'.deviceId = row.deviceId
  refused : ∀ req ok row, call.request = .register req ok →
    call.before.get? req.nodeId = some row → call.userId ≠ some row.userId →
    ok = false ∧ call.after.get? req.nodeId = some row

/-- A call that writes nothing and registers nothing. -/
theorem respects_of_unchanged {call : NodeCall} (hafter : call.after = call.before)
    (hrequest : ∀ req, call.request ≠ .register req true) : call.Respects := by
  constructor
  · intro nodeId row hrow _
    exact ⟨row, hafter ▸ hrow, rfl, rfl⟩
  · intro req ok row hreq hrow _
    refine ⟨?_, hafter ▸ hrow⟩
    cases ok with
    | false => rfl
    | true => exact absurd hreq (hrequest req)

/-- A registration that succeeds respects the others if the node was the user's, or nobody's. -/
theorem respects_register_iff (userId : String) (req : Directory.RegisterNodeRequest)
    (nodes : Table Node) :
    NodeCall.Respects ⟨some userId, .register req true, nodes,
        nodes.put req.nodeId (req.node userId)⟩ ↔
      ∀ row, nodes.get? req.nodeId = some row → row.userId = userId := by
  constructor
  · intro h row hrow
    by_contra hne
    have hrefused := h.refused req true row rfl hrow fun huser => hne (Option.some.inj huser).symm
    exact Bool.noConfusion hrefused.1
  · intro hown
    constructor
    · intro nodeId row hrow hne
      have hother : nodeId ≠ req.nodeId := by
        rintro rfl
        exact hne (congrArg some (hown row hrow).symm)
      refine ⟨row, ?_, rfl, rfl⟩
      dsimp only at hrow ⊢
      rwa [Table.get?_put, if_neg hother]
    · intro req' ok row hreq hrow hne
      obtain ⟨rfl, rfl⟩ := NodeRequest.register.inj hreq
      exact absurd (congrArg some (hown row hrow).symm) hne

end NodeCall

inductive NodeAction where
  | register (userId : String) (req : Directory.RegisterNodeRequest)
  /-- Another event of the server: a hello is one. -/
  | control (action : ControlAction)

structure NodeWorld where
  server : ControlServer
  /-- The last one first. -/
  calls : List NodeCall

namespace NodeWorld

def start (now : Int) (directory : Directory) : NodeWorld := ⟨.start now directory, []⟩

def nodes (s : NodeWorld) : Table Node := s.server.db.directory.nodes

def register (s : NodeWorld) (userId : String) (req : Directory.RegisterNodeRequest) : NodeWorld :=
  match s.server.db.directory.registerNode userId req with
  | .error _ => { s with calls := ⟨some userId, .register req false, s.nodes, s.nodes⟩ :: s.calls }
  | .ok (_, directory) =>
    { server := { s.server with db := { s.server.db with directory } }
      calls := ⟨some userId, .register req true, s.nodes, directory.nodes⟩ :: s.calls }

def hello (s : NodeWorld) (hello : NodeHello) (server : ControlServer) : NodeWorld where
  server := server
  calls := ⟨s.server.db.authenticateControlSessionToken s.server.now hello.sessionToken,
    .hello hello, s.nodes, server.db.directory.nodes⟩ :: s.calls

/-- What changes users' data otherwise leaves the nodes alone. -/
def step (s : NodeWorld) : NodeAction → Option NodeWorld
  | .register userId req => some (s.register userId req)
  | .control (.administer directory) =>
    (s.server.step (.administer { directory with nodes := s.nodes })).map fun server =>
      { s with server }
  | .control (.nodeHello c hello) =>
    (s.server.step (.nodeHello c hello)).map fun server => s.hello hello server
  | .control action => (s.server.step action).map fun server => { s with server }

/-- The state is one where every call so far respected the nodes of other users. -/
def Respectful (s : NodeWorld) : Prop := ∀ call ∈ s.calls, call.Respects

/-- A node that is stored is registered by its owner alone; else the request fails for another
reason, one that `RegisterNode` checks. -/
def RegistersOwn (s : NodeWorld) : NodeAction → Prop
  | .register userId req =>
    Directory.requireRegisterNodeRequest req ≠ .ok () ∨
      s.server.db.directory.ensureDeviceOwner userId req.deviceId ≠ .ok () ∨
      ∀ row, s.nodes.get? req.nodeId = some row → row.userId = userId
  | .control _ => True

variable {s t : NodeWorld}

/-- A registration writes the node and is recorded, or is refused and recorded. -/
theorem register_cases (s : NodeWorld) (userId : String) (req : Directory.RegisterNodeRequest) :
    ((s.register userId req).nodes = s.nodes ∧
      (s.register userId req).calls = ⟨some userId, .register req false, s.nodes, s.nodes⟩ :: s.calls ∧
      (Directory.requireRegisterNodeRequest req ≠ .ok () ∨
        s.server.db.directory.ensureDeviceOwner userId req.deviceId ≠ .ok ())) ∨
    ((s.register userId req).nodes = s.nodes.put req.nodeId (req.node userId) ∧
      (s.register userId req).calls =
        ⟨some userId, .register req true, s.nodes, (s.register userId req).nodes⟩ :: s.calls ∧
      Directory.requireRegisterNodeRequest req = .ok () ∧
      s.server.db.directory.ensureDeviceOwner userId req.deviceId = .ok ()) := by
  unfold register
  cases hregister : s.server.db.directory.registerNode userId req with
  | error err =>
    refine .inl ⟨rfl, rfl, ?_⟩
    by_contra hboth
    obtain ⟨hrequire, howner⟩ := not_or.mp hboth
    have hok := Directory.registerNode_eq_ok.mpr
      ⟨not_not.mp hrequire, not_not.mp howner, rfl, rfl⟩
    rw [hregister] at hok
    cases hok
  | ok result =>
    obtain ⟨view, directory⟩ := result
    obtain ⟨hrequire, howner, _, rfl⟩ := Directory.registerNode_eq_ok.mp hregister
    exact .inr ⟨rfl, rfl, hrequire, howner⟩

/-- Any other step leaves the nodes, and records at most a hello that did. -/
theorem step_control {action : ControlAction} (h : s.step (.control action) = some t) :
    t.nodes = s.nodes ∧
      (t.calls = s.calls ∨
        ∃ userId hello, t.calls = ⟨userId, .hello hello, s.nodes, s.nodes⟩ :: s.calls) := by
  cases action with
  | administer directory =>
    simp only [step, Option.map_eq_some_iff] at h
    obtain ⟨server, hserver, rfl⟩ := h
    obtain rfl := Option.some.inj hserver
    exact ⟨rfl, .inl rfl⟩
  | nodeHello c hello =>
    obtain ⟨server, hserver, rfl⟩ := Option.map_eq_some_iff.mp h
    have hnodes := ControlServer.step_nodes (by simp) hserver
    refine ⟨hnodes, .inr ⟨s.server.db.authenticateControlSessionToken s.server.now
      hello.sessionToken, hello, ?_⟩⟩
    unfold NodeWorld.hello
    rw [hnodes]
    rfl
  | _ =>
    simp only [step, Option.map_eq_some_iff] at h
    obtain ⟨server, hserver, rfl⟩ := h
    exact ⟨ControlServer.step_nodes (by simp) hserver, .inl rfl⟩

theorem step_calls {a : NodeAction} (h : s.step a = some t) {call : NodeCall}
    (hcall : call ∈ s.calls) : call ∈ t.calls := by
  cases a with
  | register userId req =>
    obtain rfl := Option.some.inj h
    rcases s.register_cases userId req with ⟨_, hcalls, _⟩ | ⟨_, hcalls, _⟩
    all_goals
      rw [hcalls]
      exact List.mem_cons_of_mem _ hcall
  | control action =>
    rcases (step_control h).2 with hcalls | ⟨_, _, hcalls⟩
    · rwa [hcalls]
    · rw [hcalls]
      exact List.mem_cons_of_mem _ hcall

/-- A step under the condition respects the nodes of other users. -/
theorem Respectful.step (h : s.Respectful) {a : NodeAction} (hok : s.RegistersOwn a)
    (hstep : s.step a = some t) : t.Respectful := by
  cases a with
  | register userId req =>
    obtain rfl := Option.some.inj hstep
    intro call hcall
    rcases s.register_cases userId req with ⟨_, hcalls, _⟩ | ⟨hnodes, hcalls, hrequire, howner⟩
    · rw [hcalls] at hcall
      rcases List.mem_cons.mp hcall with rfl | hcall
      · exact NodeCall.respects_of_unchanged rfl fun req' hreq => by simp at hreq
      · exact h call hcall
    · rw [hcalls, hnodes] at hcall
      rcases List.mem_cons.mp hcall with rfl | hcall
      · have hown := (hok.resolve_left (not_not.mpr hrequire)).resolve_left (not_not.mpr howner)
        exact (NodeCall.respects_register_iff userId req s.nodes).mpr hown
      · exact h call hcall
  | control action =>
    intro call hcall
    rcases (step_control hstep).2 with hcalls | ⟨_, _, hcalls⟩
    · exact h call (hcalls ▸ hcall)
    · rw [hcalls] at hcall
      rcases List.mem_cons.mp hcall with rfl | hcall
      · exact NodeCall.respects_of_unchanged rfl fun req hreq => by simp at hreq
      · exact h call hcall

theorem registersOwn_of_respectful {a : NodeAction} (hstep : s.step a = some t)
    (ht : t.Respectful) : s.RegistersOwn a := by
  cases a with
  | control action => trivial
  | register userId req =>
    obtain rfl := Option.some.inj hstep
    rcases s.register_cases userId req with ⟨_, _, hfails⟩ | ⟨hnodes, hcalls, _⟩
    · exact hfails.elim .inl fun howner => .inr (.inl howner)
    · rw [hnodes] at hcalls
      have hrespects := ht _ (hcalls ▸ List.mem_cons_self)
      exact .inr (.inr ((NodeCall.respects_register_iff userId req s.nodes).mp hrespects))

theorem respectful_of_guarded {now : Int} {directory : Directory}
    (h : Reachable (guarded RegistersOwn (rel step)) (start now directory) s) : s.Respectful :=
  h.invariant Respectful (fun _ hcall => absurd hcall List.not_mem_nil)
    fun _ _ _ hs hstep => hs.step hstep.1 hstep.2

/-- In a respectful run whoever has registered a node still owns it. -/
theorem owner_of_registered {now : Int} {directory : Directory}
    (h : Reachable (guarded RegistersOwn (rel step)) (start now directory) s) :
    ∀ call ∈ s.calls, ∀ req, call.request = .register req true →
      ∃ row, s.nodes.get? req.nodeId = some row ∧ call.userId = some row.userId := by
  induction h with
  | start => exact fun _ hcall => absurd hcall List.not_mem_nil
  | @next s t a hr hs ih =>
    obtain ⟨hok, hstep⟩ := hs
    intro call hcall req hreq
    cases a with
    | control action =>
      obtain ⟨hnodes, hcalls | ⟨_, _, hcalls⟩⟩ := step_control hstep
      · rw [hnodes]
        exact ih call (hcalls ▸ hcall) req hreq
      · rw [hcalls] at hcall
        rw [hnodes]
        rcases List.mem_cons.mp hcall with rfl | hcall
        · cases hreq
        · exact ih call hcall req hreq
    | register userId req' =>
      obtain rfl := Option.some.inj hstep
      rcases s.register_cases userId req' with ⟨hnodes, hcalls, _⟩ | ⟨hnodes, hcalls, hboth⟩
      · rw [hcalls] at hcall
        rw [hnodes]
        rcases List.mem_cons.mp hcall with rfl | hcall
        · simp at hreq
        · exact ih call hcall req hreq
      · rw [hcalls] at hcall
        rw [hnodes, Table.get?_put]
        -- by the guard whoever writes the row owned it before
        have hown := (hok.resolve_left (not_not.mpr hboth.1)).resolve_left (not_not.mpr hboth.2)
        rcases List.mem_cons.mp hcall with rfl | hcall
        · obtain ⟨rfl, _⟩ := NodeRequest.register.inj hreq
          exact ⟨_, if_pos rfl, rfl⟩
        · obtain ⟨row, hrow, huser⟩ := ih call hcall req hreq
          by_cases hid : req.nodeId = req'.nodeId
          · rw [if_pos hid]
            rw [hid] at hrow
            exact ⟨_, rfl, huser.trans (congrArg some (hown row hrow))⟩
          · rw [if_neg hid]
            exact ⟨row, hrow, huser⟩

/-- Users' nodes are safe from each other in exactly the runs where nobody registers a node that
another user owns. -/
theorem respectful_iff (now : Int) (directory : Directory) (s : NodeWorld) :
    (Reachable (rel step) (start now directory) s ∧ s.Respectful) ↔
      Reachable (guarded RegistersOwn (rel step)) (start now directory) s := by
  constructor
  · intro ⟨hr, hs⟩
    refine hr.guarded_of_prefix Respectful hs ?_ ?_
    · exact fun _ _ _ _ hstep ht call hcall => ht call (step_calls hstep hcall)
    · exact fun _ _ _ _ hstep ht => registersOwn_of_respectful hstep ht
  · exact fun h => ⟨h.of_guarded, respectful_of_guarded h⟩

/-! ## A node that is taken over -/

def twoUsers : Directory where
  nodes := ∅
  devices := ((∅ : Table Device).put "dev-1" ⟨"dev-1", "user-1", "offline"⟩).put "dev-2"
    ⟨"dev-2", "user-2", "offline"⟩
  networks := ∅
  members := []

def takeOver : List NodeAction :=
  [.register "user-1" ⟨"dev-1", "node-a", "key-1", []⟩,
    .register "user-2" ⟨"dev-2", "node-a", "key-2", []⟩]

/-- The second user registers the node of the first one, and has it. -/
theorem registered_node_taken_over :
    ¬ ∀ (now : Int) (directory : Directory) (s : NodeWorld),
      Reachable (rel step) (start now directory) s → s.Respectful := by
  intro h
  obtain ⟨s, hexec, call, hcall, hregister, hbefore, huser⟩ :
      ∃ s, exec step (start 0 twoUsers) takeOver = some s ∧ ∃ call ∈ s.calls,
        call.request = .register ⟨"dev-2", "node-a", "key-2", []⟩ true ∧
        call.before.get? "node-a" = some ⟨"node-a", "user-1", "dev-1", "key-1", []⟩ ∧
        call.userId = some "user-2" :=
    ⟨_, rfl, _, List.mem_cons_self, rfl, by decide, rfl⟩
  have hrefused := (h 0 twoUsers s (.of_exec .start hexec) call hcall).refused _ true _ hregister
    hbefore (by rw [huser]; decide)
  exact Bool.noConfusion hrefused.1

end NodeWorld

end Slan.Control
