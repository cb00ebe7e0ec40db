import Slan.Client.Observations

/-! # When the reports name the right peer -/

namespace Slan.Client

open Transition InMemoryDerpPool

section

variable {Stream M : Type}

/-! ## The path of the snapshot -/

theorem ensureTunnelKeyPair_activePath (state : AppCoreSnapshot) (generate : TunnelKeyProvider)
    (deviceId peerNodeId : String) (createdAtMs : Nat) :
    (ensureTunnelKeyPair state generate deviceId peerNodeId createdAtMs).2.activePath =
      state.activePath := by
  obtain ⟨material, hstate⟩ :=
    ensureTunnelKeyPair_state state generate deviceId peerNodeId createdAtMs
  rw [hstate]

theorem commitUpdate_activePath {state next : AppCoreSnapshot} {update : ControlWsBootstrapUpdate}
    {bootstrap : BootstrapConfig} {reapply : Option TunnelReapply}
    (h : commitUpdate state update = .ok (next, bootstrap, reapply)) :
    next.activePath = state.activePath := by
  unfold commitUpdate at h
  cases hcurrent : state.currentBootstrap with
  | none =>
    rw [hcurrent] at h
    cases h
  | some current =>
    rw [hcurrent] at h
    obtain ⟨hnext, -⟩ := Prod.mk.inj (Except.ok.inj h)
    rw [← hnext]

theorem resolveConnectContext_peer {state : AppCoreSnapshot} {peerNodeId : String}
    {context : ConnectContext} (h : resolveConnectContext state peerNodeId = .ok context) :
    context.peer.nodeId = peerNodeId := by
  unfold resolveConnectContext at h
  split at h
  · split at h
    · split at h
      · split at h
        · next peer hfind =>
          have hid := List.find?_some hfind
          rw [← Except.ok.inj h]
          exact beq_iff_eq.mp hid
        · cases h
      · cases h
    · cases h
  · cases h

namespace AppCore

/-- A path names no other peer. -/
def NamesOnly (core : AppCore Stream M) (peerNodeId : String) : Prop :=
  ∀ peer, core.path.activePath.peer? = some peer → peer = peerNodeId

theorem onP2pFailed_namesOnly (core : AppCore Stream M) (peerNodeId reason : String) :
    (core.onP2pFailed peerNodeId reason).NamesOnly peerNodeId := by
  intro peer hpeer
  have hpath : (core.onP2pFailed peerNodeId reason).path.activePath =
      PathState.fallbackPath core.derpPool peerNodeId := rfl
  rw [hpath] at hpeer
  unfold PathState.fallbackPath at hpeer
  split at hpeer
  · cases hpeer
  · exact (Option.some.inj hpeer).symm

theorem fallBackRoute_namesOnly (core : AppCore Stream M) (calls : ConnectCalls Stream M)
    (derpMap : Option DerpMap) (networkId : String) (context : ConnectContext)
    (plan : Option ControlWsConnectPlan) {found : ConnectContext}
    (h : (core.fallBackRoute calls derpMap networkId context plan).1 = .ok found) :
    (core.fallBackRoute calls derpMap networkId context plan).2.NamesOnly context.peer.nodeId := by
  obtain ⟨next, reason, hnext⟩ := fallBackRoute_eq_ok h
  rw [hnext]
  exact onP2pFailed_namesOnly next _ reason

/-- A connect that finds a way is on a path to its peer, or on one that names none. -/
theorem route_namesOnly (core : AppCore Stream M) (calls : ConnectCalls Stream M)
    (derpMap : Option DerpMap) (networkId peerNodeId : String) {found : ConnectContext}
    (h : (core.route calls derpMap networkId peerNodeId).1 = .ok found) :
    (core.route calls derpMap networkId peerNodeId).2.NamesOnly peerNodeId := by
  unfold route at h ⊢
  cases hcontext : resolveConnectContext core.facade.state peerNodeId with
  | error err =>
    rw [hcontext] at h
    cases h
  | ok context =>
    have hpeer := resolveConnectContext_peer hcontext
    rw [hcontext] at h
    dsimp only at h ⊢
    cases hhead : (orderedPeerEndpoints context.peer
        (core.facade.state.currentConnectPlans.get? context.peer.nodeId)).head? with
    | none =>
      rw [hhead] at h
      exact hpeer ▸ fallBackRoute_namesOnly _ _ _ _ _ _ h
    | some endpoint =>
      rw [hhead] at h
      dsimp only at h ⊢
      obtain ⟨stream, hconnect⟩ | ⟨reason, hconnect⟩ := p2pConnect_cases core.p2p
        ⟨context.peer.nodeId, endpoint.address, endpoint.endpointType⟩ calls.connectTcp
      · rw [hconnect]
        intro peer hnamed
        exact (Option.some.inj hnamed).symm.trans hpeer
      · rw [hconnect] at h ⊢
        exact hpeer ▸ fallBackRoute_namesOnly _ _ _ _ _ _ h

/-- A connect sets the path of the snapshot if it succeeds, and leaves it if not. -/
def SetsPath (before : Option ActivePath) (path : ActivePath)
    (result : Except String ConnectionState × AppCore Stream M) : Prop :=
  match result.1 with
  | .ok _ => result.2.facade.state.activePath = some path
  | .error _ => result.2.facade.state.activePath = before

theorem finishConnect_setsPath (core : AppCore Stream M) (calls : ConnectCalls Stream M)
    (context : ConnectContext) (connectionState : ConnectionState) :
    SetsPath core.facade.state.activePath core.path.activePath
      (core.finishConnect calls context connectionState) := by
  have hkey := ensureTunnelKeyPair_activePath core.facade.state calls.generate
    context.bootstrap.device.deviceId context.peer.nodeId calls.nowMs
  unfold finishConnect finalizeConnectedPath
  generalize ensureTunnelKeyPair core.facade.state calls.generate _ _ _ = ensured at hkey ⊢
  obtain ⟨err | keyPair, state⟩ := ensured
  · exact hkey
  · dsimp only
    generalize replaceTunnelOn calls.host _ _ _ = replaced
    obtain ⟨err | _, current, tunnels⟩ := replaced
    · exact hkey
    · rfl

theorem finishManaged_setsPath (core : AppCore Stream M) (calls : ConnectCalls Stream M)
    (context : ConnectContext) :
    SetsPath core.facade.state.activePath core.path.activePath
      (core.finishManaged calls context) := by
  unfold finishManaged
  split
  · exact finishConnect_setsPath core calls context _
  · rfl

theorem connect_setsPath (core : AppCore Stream LinuxAdapter)
    (calls : ConnectCalls Stream LinuxAdapter) (derpMap : Option DerpMap)
    (networkId peerNodeId : String) :
    let next := core.connect calls derpMap networkId peerNodeId
    SetsPath core.facade.state.activePath next.2.path.activePath next ∧
      (next.1.isOk = true → next.2.NamesOnly peerNodeId) := by
  have hframe := (route_frame core calls derpMap networkId peerNodeId).1
  have hnames := @route_namesOnly _ _ core calls derpMap networkId peerNodeId
  rw [connect_eq]
  generalize core.route calls derpMap networkId peerNodeId = found at hframe hnames ⊢
  obtain ⟨err | context, routed⟩ := found
  · exact ⟨congrArg (fun facade : Facade => facade.state.activePath) hframe, nofun⟩
  · have hsets := finishManaged_setsPath routed calls context
    have hpath := (finishManaged_frame routed calls context).1
    dsimp only [finishRoute] at hframe ⊢
    rw [hpath, ← hframe]
    refine ⟨hsets, fun _ peer hpeer => ?_⟩
    rw [hpath] at hpeer
    exact hnames rfl peer hpeer

theorem commitControlSync_activePath (core : AppCore Stream M)
    (update : ControlWsBootstrapUpdate) (generate : TunnelKeyProvider) (host : TunnelHost M)
    (nowMs : Nat) :
    (core.commitControlSync update generate host nowMs).2.facade.state.activePath =
      core.facade.state.activePath := by
  unfold commitControlSync
  split
  · rfl
  · next hcommit => exact commitUpdate_activePath hcommit
  next state bootstrap reapply hcommit =>
    have hkey := ensureTunnelKeyPair_activePath state generate
      reapply.bootstrap.device.deviceId reapply.peer.nodeId nowMs
    have hstate := hkey.trans (commitUpdate_activePath hcommit)
    dsimp only
    split
    · exact hstate
    · split
      · exact hstate
      · split <;> exact hstate

theorem controlSync_activePath (core : AppCore Stream M) (calls : SyncCalls) (host : TunnelHost M) :
    (core.controlSync calls host).2.facade.state.activePath = core.facade.state.activePath := by
  unfold controlSync
  split
  · rfl
  · exact commitControlSync_activePath _ _ _ _ _

theorem disconnect_activePath (core : AppCore Stream M) (host : TunnelHost M) :
    (core.disconnect host).2.facade.state.activePath = none ∨
      (core.disconnect host).2.facade.state.activePath = core.facade.state.activePath := by
  unfold disconnect
  dsimp only
  split
  · exact .inl rfl
  · split
    · exact .inr rfl
    · exact .inl rfl

/-! ## The node of a probe -/

/-- The same node is active, among the same ones. -/
structure SameActive (pool next : InMemoryDerpPool) : Prop extends SamePool pool next where
  activeNodeId : next.activeNodeId = pool.activeNodeId

theorem SameActive.refl (pool : InMemoryDerpPool) : SameActive pool pool := ⟨⟨rfl, rfl⟩, rfl⟩

theorem SameActive.trans {pool next last : InMemoryDerpPool} (h : SameActive pool next)
    (h' : SameActive next last) : SameActive pool last :=
  ⟨h.toSamePool.trans h'.toSamePool, h'.activeNodeId.trans h.activeNodeId⟩

theorem SameActive.activeLink {pool next : InMemoryDerpPool} (h : SameActive pool next)
    {link : DerpLinkSnapshot} (hlink : next.activeLink = some link) :
    pool.activeLink.map (fun link => link.nodeMeta.nodeId) = some link.nodeMeta.nodeId := by
  have hnext := (activeLink_iff link.nodeMeta.nodeId).mp ⟨link, hlink, rfl⟩
  rw [h.activeNodeId, h.nodeIds] at hnext
  obtain ⟨found, hfound, hid⟩ := (activeLink_iff link.nodeMeta.nodeId).mpr hnext
  rw [hfound, Option.map_some, hid]

theorem sendPacket_sameActive (core : AppCore Stream LinuxAdapter) (calls : ProbeCalls Stream)
    (packet : List UInt8) : SameActive core.derpPool (core.sendPacket calls packet).2.derpPool := by
  obtain ⟨hsame, hactive⟩ := send_samePool core.derpPool calls.derpClients packet
  unfold sendPacket
  dsimp only
  split
  · exact ⟨hsame, hactive⟩
  · exact .refl _

theorem pollPacket_sameActive (core : AppCore Stream LinuxAdapter) (texts : Texts)
    (round : PollRound Stream) :
    SameActive core.derpPool (core.pollPacket texts round).2.derpPool := by
  obtain ⟨hsame, hactive⟩ := callActive_samePool core.derpPool
    fun idx => (round.derpClients idx).pollTransportPacket
  unfold pollPacket
  dsimp only
  split
  · exact ⟨hsame, hactive⟩
  · exact .refl _

theorem pollReply_sameActive (core : AppCore Stream LinuxAdapter) (texts : Texts)
    (rounds : List (PollRound Stream)) :
    SameActive core.derpPool (core.pollReply texts rounds).2.derpPool := by
  induction rounds generalizing core with
  | nil => exact .refl _
  | cons round rounds ih =>
    have hpolled := pollPacket_sameActive core texts round
    unfold pollReply
    generalize core.pollPacket texts round = polled at hpolled ⊢
    obtain ⟨err | _ | packet, next⟩ := polled
    · exact hpolled
    · exact hpolled.trans (ih next)
    · exact hpolled

/-- The DERP node of a health is the one that a packet goes over, before what the probe does to the
pool and after. -/
theorem probeHealth_derpNodeId {core next : AppCore Stream LinuxAdapter}
    (h : SameActive core.derpPool next.derpPool) (streamAddress : Option String)
    (sampledAtMs : Nat) {nodeId : String}
    (hnode : (probeHealth next.derpPool.toDerpPoolState sampledAtMs
      core.path.activePath).derpNodeId = some nodeId) :
    (core.packetRoute streamAddress).derpNodeId = some nodeId := by
  unfold probeHealth at hnode
  unfold packetRoute
  cases hpath : core.path.activePath with
  | derp clusterId _ =>
    rw [hpath] at hnode
    dsimp only at hnode ⊢
    cases hlink : next.derpPool.activeLink with
    | none =>
      rw [hlink] at hnode
      cases hnode
    | some link =>
      rw [hlink] at hnode
      rw [h.activeLink hlink]
      exact hnode
  | none =>
    rw [hpath] at hnode
    cases hnode
  | p2p _ =>
    rw [hpath] at hnode
    cases hnode
  | relay _ =>
    rw [hpath] at hnode
    cases hnode

end AppCore

/-- The operations that connect to no peer and probe none. -/
def Operation.Aside : Operation Stream → Prop
  | connect .. | probe .. => False
  | _ => True

namespace AppProcess

/-- A probe that gets through is recorded, with the DERP node of its packet's way. -/
theorem probe_lastProbe (process : AppProcess Stream) (calls : ProbeCalls Stream)
    (packet : List UInt8) (streamAddress : Option String) :
    let next := process.probe calls packet
    next.2.facade = process.facade ∧
    (next.1.isOk = true → ∀ probe, next.2.lastProbe = some probe → ∀ nodeId,
      probe.derpNodeId = some nodeId →
        (process.packetRoute streamAddress).derpNodeId = some nodeId) ∧
    (next.1.isOk = false → next.2.lastProbe = process.lastProbe) := by
  have hsent := AppCore.sendPacket_onlyTransport process.toAppCore calls packet
  have hactive := AppCore.sendPacket_sameActive process.toAppCore calls packet
  unfold probe
  generalize process.toAppCore.sendPacket calls packet = sent at hsent hactive ⊢
  obtain ⟨err | _, core⟩ := sent
  · exact ⟨hsent.facade, nofun, fun _ => rfl⟩
  · have hpolled := AppCore.pollReply_onlyTransport core calls.texts calls.rounds
    have hactive' := hactive.trans (AppCore.pollReply_sameActive core calls.texts calls.rounds)
    dsimp only
    generalize core.pollReply calls.texts calls.rounds = polled at hpolled hactive' ⊢
    have hfacade := hpolled.facade.trans hsent.facade
    have hpath := congrArg PathState.activePath (hpolled.path.trans hsent.path)
    obtain ⟨err | reply, last⟩ := polled
    · exact ⟨hfacade, nofun, fun _ => rfl⟩
    · refine ⟨hfacade, fun _ probe hprobe nodeId hnode => ?_, nofun⟩
      rw [← Option.some.inj hprobe] at hnode
      refine AppCore.probeHealth_derpNodeId hactive' streamAddress calls.sampledAtMs ?_
      rw [← hpath]
      exact hnode

/-- Nothing that a report names is set. -/
structure SetsNothing (process next : AppProcess Stream) : Prop where
  activePath : next.facade.state.activePath = none ∨
    next.facade.state.activePath = process.facade.state.activePath
  lastProbe : next.lastProbe = none ∨ next.lastProbe = process.lastProbe

theorem run_setsNothing (process : AppProcess Stream) {op : Operation Stream} (h : op.Aside) :
    SetsNothing process (process.run op).2 := by
  cases op with
  | login answer => cases answer <;> exact ⟨.inr rfl, .inr rfl⟩
  | registerDevice answer =>
    dsimp only [run, registerDevice, Prod.map_snd]
    split <;> exact ⟨.inr rfl, .inr rfl⟩
  | registerNode answer =>
    dsimp only [run, registerNode, Prod.map_snd]
    split <;> exact ⟨.inr rfl, .inr rfl⟩
  | bootstrap controller nodeId networkId =>
    dsimp only [run, bootstrap, AppCore.bootstrap, Prod.map_snd]
    split <;> exact ⟨.inr rfl, .inr rfl⟩
  | connect calls linux derpMap networkId peerNodeId => exact h.elim
  | controlSync calls linux =>
    exact ⟨.inr (process.toAppCore.controlSync_activePath calls (linuxHost linux)), .inr rfl⟩
  | disconnect linux =>
    have hactive := process.toAppCore.disconnect_activePath (linuxHost linux)
    dsimp only [run, disconnect, Prod.map_snd]
    generalize process.toAppCore.disconnect (linuxHost linux) = disconnected at hactive ⊢
    obtain ⟨err | _, core⟩ := disconnected
    · exact ⟨hactive, .inr rfl⟩
    · exact ⟨hactive, .inl rfl⟩
  | probe calls packet => exact h.elim

end AppProcess

/-! ## Runs -/

namespace ObservedClient

/-- A path that names a peer names the connected one, and a probe is on record with its way. -/
structure Coherent (w : ObservedClient Stream) : Prop where
  named : ∀ peerNodeId,
    w.process.facade.state.activePath.bind ActivePath.peer? = some peerNodeId →
      w.connection.map PeerConnection.peerNodeId = some peerNodeId
  probed : ∀ probe, w.process.lastProbe = some probe → ∃ route, w.probed = some route ∧
    ∀ nodeId, probe.derpNodeId = some nodeId → route.derpNodeId = some nodeId

variable {w w' : ObservedClient Stream}

theorem coherent_start (kernel : LinuxKernel) :
    (start kernel : ObservedClient Stream).Coherent where
  named _ hpeer := absurd hpeer.symm (Option.some_ne_none _)
  probed _ hprobe := absurd hprobe.symm (Option.some_ne_none _)

theorem Coherent.setsNothing (h : w.Coherent) {process : AppProcess Stream}
    (hprocess : w.process.SetsNothing process) : { w with process }.Coherent where
  named peerNodeId hpeer := by
    refine h.named peerNodeId ?_
    rcases hprocess.activePath with hnone | hsame
    · rw [hnone] at hpeer
      cases hpeer
    · rwa [← hsame]
  probed probe hprobe := by
    refine h.probed probe ?_
    rcases hprocess.lastProbe with hnone | hsame
    · cases hnone.symm.trans hprobe
    · rwa [← hsame]

theorem Coherent.connect (h : w.Coherent) (calls : ConnectCalls Stream LinuxAdapter)
    (linux : LinuxCalls) (derpMap : Option DerpMap) (networkId peerNodeId : String) :
    (w.after (.connect calls linux derpMap networkId peerNodeId)).Coherent := by
  obtain ⟨hsets, hnames⟩ := w.process.toAppCore.connect_setsPath
    { calls with host := linuxHost linux } derpMap networkId peerNodeId
  dsimp only [after, AppProcess.run, AppProcess.connect]
  generalize w.process.toAppCore.connect _ derpMap networkId peerNodeId = next at hsets hnames ⊢
  obtain ⟨err | connectionState, core⟩ := next
  · refine ⟨fun peer hpeer => ?_, h.probed⟩
    have hactive : core.facade.state.activePath = w.process.facade.state.activePath := hsets
    exact h.named peer (hactive ▸ hpeer)
  · constructor
    · intro peer hpeer
      have hactive : core.facade.state.activePath = some core.path.activePath := hsets
      have hcore : core.facade.state.activePath.bind ActivePath.peer? = some peer := hpeer
      rw [hactive] at hcore
      exact congrArg some (hnames rfl peer hcore).symm
    · intro probe hprobe
      have hnone : (none : Option ProbeRecord) = some probe := hprobe
      cases hnone

theorem Coherent.probe (h : w.Coherent) (calls : ProbeCalls Stream) (packet : List UInt8) :
    (w.after (.probe calls packet)).Coherent := by
  obtain ⟨hfacade, hok, herror⟩ := w.process.probe_lastProbe calls packet w.streamAddress
  dsimp only [after, AppProcess.run]
  generalize w.process.probe calls packet = next at hfacade hok herror ⊢
  obtain ⟨err | record, process⟩ := next
  · refine ⟨fun peer hpeer => h.named peer ?_, fun probe hprobe => h.probed probe ?_⟩
    · rwa [← hfacade]
    · rwa [← herror rfl]
  · refine ⟨fun peer hpeer => h.named peer ?_, fun probe hprobe => ?_⟩
    · rwa [← hfacade]
    · exact ⟨_, rfl, hok rfl probe hprobe⟩

theorem coherent_after (h : w.Coherent) (op : Operation Stream) : (w.after op).Coherent := by
  cases op with
  | connect calls linux derpMap networkId peerNodeId => exact h.connect _ _ _ _ _
  | probe calls packet => exact h.probe calls packet
  | login answer => exact h.setsNothing (w.process.run_setsNothing trivial)
  | registerDevice answer => exact h.setsNothing (w.process.run_setsNothing trivial)
  | registerNode answer => exact h.setsNothing (w.process.run_setsNothing trivial)
  | bootstrap controller nodeId networkId =>
    exact h.setsNothing (w.process.run_setsNothing trivial)
  | controlSync calls linux => exact h.setsNothing (w.process.run_setsNothing trivial)
  | disconnect linux => exact h.setsNothing (w.process.run_setsNothing trivial)

theorem coherent_reachable {kernel : LinuxKernel} (h : Reachable step (start kernel) w) :
    w.Coherent := by
  refine h.invariant Coherent (coherent_start kernel) fun w a w' hw hstep => ?_
  rw [hstep.1]
  exact coherent_after hw a.op

/-! ## The reports -/

theorem infer_eq_some {state : AppCoreSnapshot} {peerNodeId : String}
    (h : inferControlReportPeerNodeId state = some peerNodeId) :
    state.activePath.bind ActivePath.peer? = some peerNodeId ∨
      state.activePath.bind ActivePath.peer? = none ∧ state.onlyPlanned = some peerNodeId := by
  unfold inferControlReportPeerNodeId at h
  rcases hactive : state.activePath with _ | _ | peer | peer | ⟨clusterId, nodeId⟩ <;>
    rw [hactive] at h
  · exact .inr ⟨rfl, h⟩
  · exact .inr ⟨rfl, h⟩
  · exact .inl h
  · exact .inl h
  · exact .inr ⟨rfl, h⟩

theorem infer_of_only {state : AppCoreSnapshot}
    (h : state.activePath.bind ActivePath.peer? = none) :
    inferControlReportPeerNodeId state = state.onlyPlanned := by
  unfold inferControlReportPeerNodeId
  rcases hactive : state.activePath with _ | _ | peer | peer | ⟨clusterId, nodeId⟩
  · rfl
  · rfl
  · rw [hactive] at h
    cases h
  · rw [hactive] at h
    cases h
  · rfl

/-- The peer of an observation is inferred from the snapshot that the observation is made of. -/
theorem mem_observations {op : Operation Stream} {o : ControlObservation}
    (h : o ∈ w.observations op) :
    ∃ networkId peerNodeId,
      inferControlReportPeerNodeId w.process.facade.state = some peerNodeId ∧
      ((∃ connectionState, o = .connectionState (connectionStateReport networkId peerNodeId
          connectionState (w.process.lastProbe.map ProbeRecord.toDataPlaneProbe))) ∨
        ∃ probe, w.process.lastProbe = some probe ∧
          o = .pathHealth (pathHealthReport networkId peerNodeId
            (controlReportEndpointForPeer w.process.facade.state peerNodeId)
            probe.toDataPlaneProbe)) := by
  unfold observations at h
  split at h
  · split at h
    · next config _ =>
      unfold emitControlObservations at h
      split at h
      · cases h
      · next peerNodeId hpeer =>
        refine ⟨config.networkId, peerNodeId, hpeer, ?_⟩
        rcases List.mem_append.mp h with h | h
        · obtain ⟨connectionState, -, ho⟩ := Option.map_eq_some_iff.mp (Option.mem_toList.mp h)
          exact .inl ⟨connectionState, ho.symm⟩
        · obtain ⟨health, hhealth, ho⟩ := Option.map_eq_some_iff.mp (Option.mem_toList.mp h)
          obtain ⟨probe, hprobe, rfl⟩ := Option.map_eq_some_iff.mp hhealth
          exact .inr ⟨probe, hprobe, ho.symm⟩
    · cases h
  · cases h

theorem plannedForConnection_iff (h : w.Coherent) (networkId : String) {peerNodeId : String}
    (hpeer : inferControlReportPeerNodeId w.process.facade.state = some peerNodeId)
    (connectionState : ConnectionState) :
    w.PlannedForConnection ↔ w.Attributed (.connectionState (connectionStateReport networkId
      peerNodeId connectionState (w.process.lastProbe.map ProbeRecord.toDataPlaneProbe))) := by
  constructor
  · rintro ⟨honly, hprobed⟩
    have hconnected : w.connection.map PeerConnection.peerNodeId = some peerNodeId := by
      rcases infer_eq_some hpeer with hnamed | ⟨hnone, hplanned⟩
      · exact h.named peerNodeId hnamed
      · exact honly hnone peerNodeId hplanned
    obtain ⟨⟨_, path⟩, hconnection, rfl⟩ := Option.map_eq_some_iff.mp hconnected
    refine ⟨path, hconnection, fun nodeId hnode => ?_⟩
    obtain ⟨health, hhealth, hid⟩ := Option.bind_eq_some_iff.mp hnode
    obtain ⟨probe, hprobe, rfl⟩ := Option.map_eq_some_iff.mp hhealth
    have hused := hprobed probe nodeId hprobe hid
    rw [hconnection] at hused
    exact hused
  · rintro ⟨path, hconnection, hnodes⟩
    have hconnected : w.connection = some ⟨peerNodeId, path⟩ := hconnection
    unfold PlannedForConnection
    rw [hconnected]
    refine ⟨fun hnone other hother => ?_, fun probe nodeId hprobe hid => ?_⟩
    · rw [infer_of_only hnone, hother] at hpeer
      exact hpeer.symm
    · refine hnodes nodeId ?_
      rw [hprobe]
      exact hid

theorem plannedForProbe_iff (h : w.Coherent) (networkId : String) {peerNodeId : String}
    (hpeer : inferControlReportPeerNodeId w.process.facade.state = some peerNodeId)
    {probe : ProbeRecord} (hprobe : w.process.lastProbe = some probe) :
    w.PlannedForProbe ↔ w.Attributed (.pathHealth (pathHealthReport networkId peerNodeId
      (controlReportEndpointForPeer w.process.facade.state peerNodeId)
      probe.toDataPlaneProbe)) := by
  obtain ⟨route, hroute, hnode⟩ := h.probed probe hprobe
  constructor
  · intro hplanned
    obtain ⟨hreached, hendpoint⟩ := hplanned route hroute peerNodeId hpeer
    exact ⟨route, hroute, hreached, hendpoint, hnode⟩
  · rintro ⟨route', hroute', hreached, hendpoint, -⟩ other hother peer hinferred
    obtain rfl := Option.some.inj (hroute'.symm.trans hother)
    obtain rfl := Option.some.inj (hpeer.symm.trans hinferred)
    exact ⟨hreached, hendpoint⟩

theorem keepsAttribution_iff (h : w.Coherent) {a : ObservedOperation Stream}
    (hsent : ∀ o ∈ a.sent, o ∈ w.observations a.op) :
    w.KeepsAttribution a ↔ AllAttributed w a w' := by
  refine forall₂_congr fun o ho => ?_
  obtain ⟨networkId, peerNodeId, hpeer, ⟨connectionState, rfl⟩ | ⟨probe, hprobe, rfl⟩⟩ :=
    mem_observations (hsent o ho)
  · exact plannedForConnection_iff h networkId hpeer connectionState
  · exact plannedForProbe_iff h networkId hpeer hprobe

/-- The runs whose reports are planned for the connected and the probed peer are the runs in which
every report names the peer, the address and the node that were used. -/
theorem observations_attributed_iff (kernel : LinuxKernel) (w : ObservedClient Stream) :
    Reachable (guarded KeepsAttribution step) (start kernel) w ↔
      Reachable (restricted AllAttributed step) (start kernel) w := by
  have hiff : Reachable (guarded KeepsAttribution step) (start kernel) w ↔
      Reachable (restricted AllAttributed step) (start kernel) w ∧ True := by
    refine Reachable.guarded_iff_restricted (fun _ => True) AllAttributed trivial
      (fun _ _ _ _ => trivial) fun v a v' hreach _ hstep => ?_
    exact keepsAttribution_iff (coherent_reachable hreach) hstep.2
  rw [hiff, and_true]

theorem reachable_foldl {first : ObservedClient Stream} (h : Reachable step first w)
    (ops : List (Operation Stream)) : Reachable step first (ops.foldl after w) := by
  induction ops generalizing w with
  | nil => exact h
  | cons op ops ih => exact ih (h.next (a := ⟨op, []⟩) ⟨rfl, nofun⟩)

end ObservedClient

end

/-! ## A plan for another peer -/

def sessionController : Controller where
  activateNetwork _ _ _ := .ok ()
  bootstrap _ _ _ :=
    .ok ⟨⟨"dev-1", some "10.0.0.1"⟩, ⟨"ws://controller/ws", some "session-1", 30⟩,
      some samplePeerMap⟩

/-- A new client each time, to which a plan for `node-3` is pushed. -/
def planningCalls : SyncCalls where
  request client := (.error "no answer", client)
  reconnect _ := .ok (⟨none, []⟩, samplePeerMap, 30)
  drain client := (.ok [⟨0, .connectPlan ⟨"node-3", true, [⟨"direct", "203.0.113.3:7000", 0⟩], "",
    [], none⟩⟩], client)
  controller := sessionController
  generate _ _ _ _ := .error "no key"
  nowMs := 0

/-- The client connects to `node-2`, gets the plan, and disconnects. -/
def closedClient : ObservedClient Unit :=
  List.foldl ObservedClient.after (.start .empty) [
    .login (.ok ⟨"user-1", "token-1"⟩),
    .registerNode fun _ => .ok ⟨"node-1", "key-1", []⟩,
    .bootstrap sessionController "node-1" "net-1",
    .connect (sampleCalls (linuxHost workingLinux) (.ok ())) workingLinux none "net-1" "node-2",
    .controlSync planningCalls workingLinux,
    .disconnect workingLinux]

def closedReport : ControlObservation :=
  .connectionState ⟨"net-1", "node-3", "none", "closed", none, none, none, none, none⟩

/-- The end of the connection to one peer is reported for another one. -/
theorem closed_for_another :
    ¬∀ (w : ObservedClient Unit) (a : ObservedOperation Unit) (w' : ObservedClient Unit),
      Reachable ObservedClient.step (.start .empty) w → w.step a w' → w.AllAttributed a w' := by
  intro hall
  have hsent : closedReport ∈ closedClient.observations (.controlSync planningCalls workingLinux) :=
    by decide
  have hstep : closedClient.step ⟨.controlSync planningCalls workingLinux, [closedReport]⟩
      (closedClient.after (.controlSync planningCalls workingLinux)) :=
    ⟨rfl, fun o ho => List.mem_singleton.mp ho ▸ hsent⟩
  have hreach : Reachable ObservedClient.step (.start .empty) closedClient :=
    ObservedClient.reachable_foldl .start _
  obtain ⟨path, hconnection, -⟩ := hall closedClient _ _ hreach hstep closedReport
    List.mem_cons_self
  have hpeer : closedClient.connection.map PeerConnection.peerNodeId = some "node-2" := by
    decide
  rw [hconnection] at hpeer
  have hsame : "node-3" = "node-2" := Option.some.inj hpeer
  exact absurd hsame (by decide)

end Slan.Client
