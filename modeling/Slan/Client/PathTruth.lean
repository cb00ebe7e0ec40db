import Slan.Lib.Program
import Slan.Client.AppCore
import Slan.Client.DerpPoolRuns

/-! # When the current path leads where it says -/

namespace Slan.Client

open Transition InMemoryDerpPool

/-! ## The property -/

section

variable {Stream M : Type}

/-- The DERP node is the pool's active one, in the cluster that the pool belongs to. -/
def Leads (pool : InMemoryDerpPool) (clusterId nodeId : String) : Prop :=
  pool.clusterId = clusterId ∧ ∃ link, pool.activeLink = some link ∧ link.nodeMeta.nodeId = nodeId

namespace AppCore

/-- The path is none, or one over a transport that is connected to its peer or node. -/
def Truthful (core : AppCore Stream M) : Prop :=
  match core.path.activePath with
  | .none => True
  | .p2p peerNodeId => core.p2p.activeStream.isSome = true ∧ core.p2p.peerNodeId = some peerNodeId
  | .relay peerNodeId => core.relay.activeSocket = true ∧ core.relay.sessionId.isSome = true ∧
    core.relay.peerParticipantId = some peerNodeId
  | .derp clusterId nodeId => Leads core.derpPool clusterId nodeId

end AppCore

inductive PathAction (Stream M : Type) where
  | connect (calls : ConnectCalls Stream M) (derpMap : Option DerpMap)
    (networkId peerNodeId : String)
  | disconnect (host : TunnelHost M)
  | pool (a : DerpPoolAction)
  /-- A call of the facade that changes its own state and the tunnels only. -/
  | facade (facade : Facade) (tunnels : M)

/-- A pool operation that leaves the node active, if the path is over it. -/
def PoolHolds (pool : InMemoryDerpPool) (nodeId : String) : DerpPoolAction → Prop
  | .installCluster _ _ _ _ _ => False
  | .warmUp clients fanout => ∀ ticket links, pool.links ≠ [] → pool.ticket = some ticket →
    warmLinks clients ticket (min (max fanout 1) pool.links.length) 0 pool.links =
      (.ok (), links) → chosenNode { pool with links } = some nodeId
  | .maybeSwitch _ => ∀ target, pool.chosenNode = some target → target = nodeId
  | .forceSwitch clients target _ _ => ∀ ticket idx link link', pool.ticket = some ticket →
    pool.position target = some idx → pool.links[idx]? = some link →
    link.ensureLinkReady (clients idx) ticket = (.ok (), link') → target = nodeId
  | .close clients => ¬Closes clients pool.links.length
  | _ => True

namespace AppCore

def pathAfter (core : AppCore Stream M) : PathAction Stream M → AppCore Stream M
  | .connect calls derpMap networkId peerNodeId =>
    (core.connect calls derpMap networkId peerNodeId).2
  | .disconnect host => (core.disconnect host).2
  | .pool a => { core with derpPool := core.derpPool.after a }
  | .facade facade tunnels => { core with facade, tunnels }

def pathStep (core : AppCore Stream M) (a : PathAction Stream M) (next : AppCore Stream M) : Prop :=
  next = core.pathAfter a

/-- The path is truthful after the step, gone after a disconnect, and left alone by a connect that
fails. -/
def Honest (core : AppCore Stream M) (a : PathAction Stream M) (next : AppCore Stream M) : Prop :=
  next.Truthful ∧
    match a with
    | .connect calls derpMap networkId peerNodeId =>
      ∀ err, (core.connect calls derpMap networkId peerNodeId).1 = .error err →
        next.path.activePath = core.path.activePath
    | .disconnect _ => next.path.activePath = .none
    | _ => True

/-! ## Which calls keep it -/

/-- There is a key pair for the tunnel, and the tunnel is replaced. -/
def Finishes (core : AppCore Stream M) (calls : ConnectCalls Stream M) (context : ConnectContext)
    (activePath : ActivePath) : Prop :=
  ∃ keyPair, (ensureTunnelKeyPair core.facade.state calls.generate
      context.bootstrap.device.deviceId context.peer.nodeId calls.nowMs).1 = .ok keyPair ∧
    (replaceTunnelOn calls.host core.tunnels core.facade.currentTunnelPeerVirtualIp
      (buildTunnelConfig activePath context.bootstrap context.peer keyPair)).1 = .ok ()

/-- The end of a connect, on a new path: it succeeds, or the path is that of before. -/
def EndsOn (core : AppCore Stream M) (calls : ConnectCalls Stream M) (context : ConnectContext)
    (activePath : ActivePath) : Prop :=
  activePath = core.path.activePath ∨ core.Finishes calls context activePath

/-- A relay is attached: it is one to the peer, or the pool has an active link, which is in the
pool's cluster. -/
def RelayFits (core : AppCore Stream M) (relay : RelayClientState) (peerNodeId : String) : Prop :=
  match core.derpPool.activeLink with
  | some link => link.nodeMeta.clusterId = core.derpPool.clusterId
  | none => relay.peerParticipantId = some peerNodeId

/-- A fallback that fails has found the path as it was before the call, and not one over the pool
where that is installed again. One that does not has a path that holds, to the end of the call. -/
def FallsBackTrue (core : AppCore Stream M) (calls : ConnectCalls Stream M)
    (derpMap : Option DerpMap) (networkId : String) (context : ConnectContext)
    (plan : Option ControlWsConnectPlan) (activePath : ActivePath) : Prop :=
  let unchanged := activePath = core.path.activePath
  let peerNodeId := context.peer.nodeId
  if context.peer.relayAllowed = false then unchanged
  else
    match selectDerpCluster derpMap with
    | none =>
      match core.relayTicketFromPlan calls networkId context plan with
      | .error _ => unchanged
      | .ok ticket =>
        match SocketRelayClient.connect calls.texts ticket (calls.relaySend ticket)
            (calls.relayAnswer ticket) with
        | .error _ => unchanged
        | .ok relay => core.RelayFits relay peerNodeId ∧
          core.EndsOn calls context (PathState.fallbackPath core.derpPool peerNodeId)
    | some cluster =>
      match core.issueRelayTicketWithOptions calls {
          networkId
          srcNodeId := context.srcNodeId
          dstNodeId := peerNodeId
          derpClusterId := some cluster.clusterId
          preferredDerpNodeIds := cluster.nodes.map DerpNodeMeta.nodeId
          reason := "p2p_failed" } with
      | .error _ => unchanged
      | .ok ticket =>
        match (core.derpPool.installCluster cluster.clusterId cluster.nodes ticket
            calls.freshClient calls.nowMs).warmUp calls.warmClients
            (max cluster.recommendedFanout 1) with
        | (.error _, _) => unchanged ∧ ∀ clusterId nodeId, activePath ≠ .derp clusterId nodeId
        | (.ok (), warmed) =>
          match ((warmed.tickHealthCheck calls.tickClients).maybeSwitch calls.nowMs).2.activeLink
            with
          | none => unchanged ∧ ∀ clusterId nodeId, activePath ≠ .derp clusterId nodeId
          | some link => link.nodeMeta.clusterId = cluster.clusterId ∧
            core.EndsOn calls context (.derp link.nodeMeta.clusterId link.nodeMeta.nodeId)

def ConnectsTrue (core : AppCore Stream M) (calls : ConnectCalls Stream M)
    (derpMap : Option DerpMap) (networkId : String) (context : ConnectContext) : Prop :=
  let peerNodeId := context.peer.nodeId
  let plan := core.facade.state.currentConnectPlans.get? peerNodeId
  match (orderedPeerEndpoints context.peer plan).head? with
  | none => core.FallsBackTrue calls derpMap networkId context plan core.path.activePath
  | some endpoint =>
    match (SocketP2PConnector.connect core.p2p
        ⟨peerNodeId, endpoint.address, endpoint.endpointType⟩ calls.connectTcp).1 with
    | .connected .p2p => core.EndsOn calls context (.p2p peerNodeId)
    | .failed _ => core.FallsBackTrue calls derpMap networkId context plan
      (PathState.fallbackPath core.derpPool peerNodeId)
    | _ => core.FallsBackTrue calls derpMap networkId context plan core.path.activePath

def KeepsPath (core : AppCore Stream M) : PathAction Stream M → Prop
  | .connect calls derpMap networkId peerNodeId => ∀ context,
    resolveConnectContext core.facade.state peerNodeId = .ok context →
      core.ConnectsTrue calls derpMap networkId context
  | .disconnect _ => core.path.activePath = .none
  | .pool a => ∀ clusterId nodeId, core.path.activePath = .derp clusterId nodeId →
    PoolHolds core.derpPool nodeId a
  | .facade _ _ => True

/-! ## The end of a connect -/

variable {core : AppCore Stream M} {calls : ConnectCalls Stream M} {context : ConnectContext}

theorem Truthful.congr {next : AppCore Stream M}
    (hpath : next.path.activePath = core.path.activePath) (hp2p : next.p2p = core.p2p)
    (hrelay : next.relay = core.relay) (hpool : next.derpPool = core.derpPool) :
    next.Truthful ↔ core.Truthful := by
  unfold Truthful
  rw [hpath, hp2p, hrelay, hpool]

/-- The end of a connect leaves the path and the transports. -/
theorem finishConnect_frame (core : AppCore Stream M) (calls : ConnectCalls Stream M)
    (context : ConnectContext) (connectionState : ConnectionState) :
    let next := (core.finishConnect calls context connectionState).2
    next.path = core.path ∧ next.p2p = core.p2p ∧ next.relay = core.relay ∧
      next.derpPool = core.derpPool := by
  unfold finishConnect finalizeConnectedPath
  generalize ensureTunnelKeyPair core.facade.state calls.generate _ _ _ = ensured
  rcases ensured with ⟨err | keyPair, state⟩
  · exact ⟨rfl, rfl, rfl, rfl⟩
  · dsimp only
    generalize replaceTunnelOn calls.host _ _ _ = replaced
    rcases replaced with ⟨err | _, current, tunnels⟩ <;> exact ⟨rfl, rfl, rfl, rfl⟩

theorem finishConnect_error_iff (core : AppCore Stream M) (calls : ConnectCalls Stream M)
    (context : ConnectContext) (connectionState : ConnectionState) :
    (∃ err, (core.finishConnect calls context connectionState).1 = .error err) ↔
      ¬core.Finishes calls context core.path.activePath := by
  unfold finishConnect finalizeConnectedPath Finishes
  generalize ensureTunnelKeyPair core.facade.state calls.generate _ _ _ = ensured
  rcases ensured with ⟨err | keyPair, state⟩
  · exact iff_of_true ⟨err, rfl⟩ fun ⟨_, hkey, _⟩ => nomatch hkey
  · dsimp only [withState]
    simp only [Except.ok.injEq, exists_eq_left']
    generalize replaceTunnelOn calls.host _ _ _ = replaced
    rcases replaced with ⟨err | _, current, tunnels⟩
    · exact iff_of_true ⟨err, rfl⟩ nofun
    · exact iff_of_false (fun ⟨_, herr⟩ => nomatch herr) fun hnot => hnot rfl

/-- What a connect that has come so far has to end with, from the path before the call on. -/
def Keeps (before : ActivePath) (result : Except String ConnectionState × AppCore Stream M) :
    Prop :=
  result.2.Truthful ∧ ∀ err, result.1 = .error err → result.2.path.activePath = before

theorem finishConnect_keeps_iff (core : AppCore Stream M) (before : ActivePath)
    (connectionState : ConnectionState) :
    Keeps before (core.finishConnect calls context connectionState) ↔
      core.Truthful ∧
        (core.path.activePath = before ∨ core.Finishes calls context core.path.activePath) := by
  obtain ⟨hpath, hp2p, hrelay, hpool⟩ := finishConnect_frame core calls context connectionState
  have herror := finishConnect_error_iff core calls context connectionState
  rw [Keeps, Truthful.congr (congrArg PathState.activePath hpath) hp2p hrelay hpool, hpath]
  refine and_congr_right fun _ => ?_
  constructor
  · intro hall
    by_cases hfinishes : core.Finishes calls context core.path.activePath
    · exact .inr hfinishes
    · obtain ⟨err, herr⟩ := herror.mpr hfinishes
      exact .inl (hall err herr)
  · rintro (hsame | hfinishes) err herr
    · exact hsame
    · exact absurd hfinishes (herror.mp ⟨err, herr⟩)

theorem finishManaged_eq (core : AppCore Stream M) (calls : ConnectCalls Stream M)
    (context : ConnectContext) (hpath : core.path.activePath ≠ .none) :
    ∃ connectionState, core.finishManaged calls context =
      core.finishConnect calls context connectionState := by
  unfold finishManaged
  split
  · exact ⟨_, rfl⟩
  · rename_i hnot
    refine absurd ?_ hpath
    cases hactive : core.path.activePath with
    | none => rfl
    | p2p peerNodeId => exact absurd (congrArg connectionStateFromActivePath hactive) (hnot _)
    | relay peerNodeId => exact absurd (congrArg connectionStateFromActivePath hactive) (hnot _)
    | derp clusterId nodeId =>
      exact absurd (congrArg connectionStateFromActivePath hactive) (hnot _)

theorem finishManaged_keeps_iff (core : AppCore Stream M) (before : ActivePath)
    (hpath : core.path.activePath ≠ .none) :
    Keeps before (core.finishManaged calls context) ↔
      core.Truthful ∧
        (core.path.activePath = before ∨ core.Finishes calls context core.path.activePath) := by
  obtain ⟨connectionState, heq⟩ := finishManaged_eq core calls context hpath
  rw [heq]
  exact finishConnect_keeps_iff core before connectionState

end AppCore

/-! ## The DERP pool -/

namespace InMemoryDerpPool

variable {pool : InMemoryDerpPool}

theorem activeLink_nodeId {link : DerpLinkSnapshot} (h : pool.activeLink = some link) :
    pool.activeNodeId = some link.nodeMeta.nodeId := by
  have hflag := List.find?_some h
  obtain ⟨managed, -, rfl⟩ := List.mem_map.mp (List.mem_of_find?_eq_some h)
  exact beq_iff_eq.mp hflag

/-- There is an active link where the active node has one. -/
theorem activeLink_iff (nodeId : String) :
    (∃ link, pool.activeLink = some link ∧ link.nodeMeta.nodeId = nodeId) ↔
      pool.activeNodeId = some nodeId ∧ nodeId ∈ nodeIds pool.links := by
  constructor
  · rintro ⟨link, hlink, rfl⟩
    refine ⟨activeLink_nodeId hlink, ?_⟩
    obtain ⟨managed, hmem, rfl⟩ := List.mem_map.mp (List.mem_of_find?_eq_some hlink)
    exact List.mem_map.mpr ⟨managed, hmem, rfl⟩
  · rintro ⟨hactive, hmem⟩
    obtain ⟨managed, hmanaged, hid⟩ := List.mem_map.mp hmem
    have hflag : (managed.snapshot (pool.activeNodeId == some managed.nodeMeta.nodeId)).isActive =
        true := by
      refine beq_iff_eq.mpr ?_
      rw [hactive, ← hid]
    cases hfind : pool.activeLink with
    | none =>
      have hnone := List.find?_eq_none.mp hfind _ (List.mem_map.mpr ⟨managed, hmanaged, rfl⟩)
      exact absurd hflag hnone
    | some link =>
      refine ⟨link, rfl, ?_⟩
      exact Option.some.inj ((activeLink_nodeId hfind).symm.trans hactive)

theorem activeLink_eq_none (h : pool.activeNodeId = none) : pool.activeLink = none := by
  cases hlink : pool.activeLink with
  | none => rfl
  | some link => cases h.symm.trans (activeLink_nodeId hlink)

theorem leads_iff (clusterId nodeId : String) : Leads pool clusterId nodeId ↔
    pool.clusterId = clusterId ∧ pool.activeNodeId = some nodeId ∧
      nodeId ∈ nodeIds pool.links := by
  rw [Leads, activeLink_iff]

/-! ### An operation on it -/

/-- Apart from an install, an operation leaves the cluster and its nodes. -/
structure SamePool (pool next : InMemoryDerpPool) : Prop where
  clusterId : next.clusterId = pool.clusterId
  nodeIds : nodeIds next.links = nodeIds pool.links

theorem SamePool.trans {next last : InMemoryDerpPool} (h : SamePool pool next)
    (h' : SamePool next last) : SamePool pool last :=
  ⟨h'.clusterId.trans h.clusterId, h'.nodeIds.trans h.nodeIds⟩

theorem leads_of_samePool {next : InMemoryDerpPool} (h : SamePool pool next)
    {clusterId nodeId : String} (hleads : Leads pool clusterId nodeId) :
    Leads next clusterId nodeId ↔ next.activeNodeId = some nodeId := by
  obtain ⟨hcluster, -, hmem⟩ := (leads_iff clusterId nodeId).mp hleads
  rw [leads_iff, h.clusterId, h.nodeIds]
  exact ⟨fun hnext => hnext.2.1, fun hactive => ⟨hcluster, hactive, hmem⟩⟩

theorem warmUp_samePool (pool : InMemoryDerpPool) (clients : Nat → DerpClient) (fanout : Nat) :
    SamePool pool (pool.warmUp clients fanout).2 := by
  unfold warmUp
  split
  · exact ⟨rfl, rfl⟩
  · split
    · exact ⟨rfl, rfl⟩
    · rename_i ticket _
      have hids : nodeIds (warmLinks clients ticket (min (max fanout 1) pool.links.length) 0
          pool.links).2 = nodeIds pool.links := warmLinks_nodeIds
      dsimp only
      split <;> rename_i hrun <;> rw [hrun] at hids <;> exact ⟨rfl, hids⟩

theorem called_samePool (idx : Nat) (client : DerpLinkSnapshot) :
    SamePool pool (pool.called idx client) := by
  refine ⟨rfl, nodeIds_eq (fun i => List.getElem?_modify _ _ _ _) fun i link => ?_⟩
  split <;> rfl

theorem callActive_samePool {α : Type} (pool : InMemoryDerpPool) (call : Nat → ClientCall α) :
    SamePool pool (pool.callActive call).2 ∧
      (pool.callActive call).2.activeNodeId = pool.activeNodeId := by
  unfold callActive
  split
  · exact ⟨⟨rfl, rfl⟩, rfl⟩
  · split
    · exact ⟨⟨rfl, rfl⟩, rfl⟩
    · exact ⟨called_samePool _ _, rfl⟩

theorem send_samePool (pool : InMemoryDerpPool) (clients : Nat → DerpClient) (packet : List UInt8) :
    SamePool pool (pool.sendTransportPacketViaActive clients packet).2 ∧
      (pool.sendTransportPacketViaActive clients packet).2.activeNodeId = pool.activeNodeId := by
  unfold sendTransportPacketViaActive
  split
  · exact ⟨⟨rfl, rfl⟩, rfl⟩
  · exact callActive_samePool pool _

theorem tick_samePool (clients : Nat → DerpClient) :
    SamePool pool (pool.tickHealthCheck clients) := by
  refine ⟨rfl, nodeIds_eq (fun i => List.getElem?_mapIdx) fun i link => ?_⟩
  unfold ManagedLink.tick
  grind

theorem maybeSwitch_samePool (nowMs : Nat) : SamePool pool (pool.maybeSwitch nowMs).2 := by
  unfold maybeSwitch
  split
  · exact ⟨rfl, rfl⟩
  · split <;> exact ⟨rfl, rfl⟩

theorem forceSwitch_samePool (clients : Nat → DerpClient) (target : String)
    (reason : SwitchReason) (nowMs : Nat) :
    SamePool pool (pool.forceSwitch clients target reason nowMs).2 := by
  obtain ⟨hnext, -⟩ | ⟨idx, link, link', hlink, -, hmeta, hreached⟩ :=
    forceSwitch_cases pool clients target reason nowMs
  · rw [hnext]
    exact ⟨rfl, rfl⟩
  obtain ⟨-, hnext, -⟩ | ⟨hnext, -⟩ := hreached
  · rw [hnext]
    exact ⟨rfl, nodeIds_set hlink hmeta⟩
  · rw [hnext]
    exact ⟨rfl, nodeIds_set hlink hmeta⟩

theorem close_samePool (clients : Nat → DerpClient) : SamePool pool (pool.close clients).2 := by
  have hids : nodeIds (closeLinks clients 0 pool.links).2 = nodeIds pool.links :=
    closeLinks_nodeIds
  unfold close
  split <;> rename_i hrun <;> rw [hrun] at hids <;> exact ⟨rfl, hids⟩

/-! ### The active node after it -/

variable {nodeId : String}

theorem warmUp_active_iff (h : pool.activeNodeId = some nodeId) (clients : Nat → DerpClient)
    (fanout : Nat) : (pool.warmUp clients fanout).2.activeNodeId = some nodeId ↔
      PoolHolds pool nodeId (.warmUp clients fanout) := by
  rw [PoolHolds]
  unfold warmUp
  by_cases hnil : pool.links = []
  · rw [if_pos hnil]
    exact iff_of_true h fun _ _ hne => absurd hnil hne
  · rw [if_neg hnil]
    split
    · rename_i hnone
      exact iff_of_true h fun _ _ _ hsome => nomatch hnone.symm.trans hsome
    · rename_i ticket hticket
      dsimp only
      rcases hrun : warmLinks clients ticket (min (max fanout 1) pool.links.length) 0 pool.links
        with ⟨err | _, links⟩
      · refine iff_of_true h fun ticket' links' _ hticket' hrun' => ?_
        obtain rfl := Option.some.inj (hticket.symm.trans hticket')
        cases hrun.symm.trans hrun'
      · constructor
        · intro hchosen ticket' links' _ hticket' hrun'
          obtain rfl := Option.some.inj (hticket.symm.trans hticket')
          obtain ⟨-, rfl⟩ := Prod.mk.inj (hrun.symm.trans hrun')
          exact hchosen
        · intro hall
          exact hall ticket links hnil hticket hrun

/-- A warm-up that fails leaves the active node. -/
theorem warmUp_error_active {clients : Nat → DerpClient} {fanout : Nat} {err : String}
    (h : (pool.warmUp clients fanout).1 = .error err) :
    (pool.warmUp clients fanout).2.activeNodeId = pool.activeNodeId := by
  unfold warmUp at h ⊢
  split at h
  · rw [if_pos ‹_›]
  · rw [if_neg ‹_›]
    split at h
    · rfl
    · dsimp only at h ⊢
      split at h
      · rfl
      · cases h

theorem maybeSwitch_active_iff (h : pool.activeNodeId = some nodeId) (nowMs : Nat) :
    (pool.maybeSwitch nowMs).2.activeNodeId = some nodeId ↔
      PoolHolds pool nodeId (.maybeSwitch nowMs) := by
  rw [PoolHolds]
  cases hchosen : pool.chosenNode with
  | none =>
    refine iff_of_true ?_ nofun
    rw [maybeSwitch_of_chosenNode_eq (fun _ hsome => nomatch hchosen.symm.trans hsome)]
    exact h
  | some target =>
    rw [maybeSwitch_activeNodeId hchosen, Option.some.injEq]
    exact ⟨fun heq _ hsome => Option.some.inj hsome ▸ heq, fun hall => hall target rfl⟩

theorem forceSwitch_active_iff (h : pool.activeNodeId = some nodeId) (clients : Nat → DerpClient)
    (target : String) (reason : SwitchReason) (nowMs : Nat) :
    (pool.forceSwitch clients target reason nowMs).2.activeNodeId = some nodeId ↔
      PoolHolds pool nodeId (.forceSwitch clients target reason nowMs) := by
  change _ ↔ pool.Readies clients target _
  obtain ⟨hnext, hreadies⟩ | ⟨idx, link, link', -, -, -, hreached⟩ :=
    forceSwitch_cases pool clients target reason nowMs
  · rw [hnext]
    exact iff_of_true h (hreadies _)
  obtain ⟨-, hnext, hreadies⟩ | ⟨hnext, hreadies⟩ := hreached
  · rw [hnext]
    exact iff_of_true h (hreadies _)
  · rw [hnext]
    exact Option.some_inj.trans (hreadies fun _ => target = nodeId).symm

theorem close_active_iff (h : pool.activeNodeId = some nodeId) (clients : Nat → DerpClient) :
    (pool.close clients).2.activeNodeId = some nodeId ↔
      PoolHolds pool nodeId (.close clients) := by
  have hclosed := closeLinks_zero_ok_iff clients pool.links
  rw [PoolHolds]
  unfold close
  rcases hrun : closeLinks clients 0 pool.links with ⟨err | _, links⟩
  · rw [hrun] at hclosed
    exact iff_of_true h fun hall => nomatch hclosed.mpr hall
  · rw [hrun] at hclosed
    exact iff_of_false nofun fun hnot => hnot (hclosed.mp rfl)

theorem leads_after_iff {clusterId : String} (h : Leads pool clusterId nodeId)
    (a : DerpPoolAction) : Leads (pool.after a) clusterId nodeId ↔ PoolHolds pool nodeId a := by
  obtain ⟨-, hactive, -⟩ := (leads_iff clusterId nodeId).mp h
  cases a with
  | installCluster clusterId' nodes ticket fresh nowMs =>
    refine iff_of_false (fun hleads => ?_) id
    obtain ⟨-, hnone, -⟩ := (leads_iff clusterId nodeId).mp hleads
    cases hnone
  | warmUp clients fanout =>
    exact (leads_of_samePool (warmUp_samePool pool clients fanout) h).trans
      (warmUp_active_iff hactive clients fanout)
  | send clients packet =>
    obtain ⟨hsame, hkept⟩ := send_samePool pool clients packet
    exact (leads_of_samePool hsame h).trans (iff_of_true (hkept.trans hactive) trivial)
  | poll clients =>
    obtain ⟨hsame, hkept⟩ := callActive_samePool pool fun idx => (clients idx).pollTransportPacket
    exact (leads_of_samePool hsame h).trans (iff_of_true (hkept.trans hactive) trivial)
  | tick clients =>
    exact (leads_of_samePool (tick_samePool clients) h).trans (iff_of_true hactive trivial)
  | maybeSwitch nowMs =>
    exact (leads_of_samePool (maybeSwitch_samePool nowMs) h).trans
      (maybeSwitch_active_iff hactive nowMs)
  | forceSwitch clients target reason nowMs =>
    exact (leads_of_samePool (forceSwitch_samePool clients target reason nowMs) h).trans
      (forceSwitch_active_iff hactive clients target reason nowMs)
  | close clients =>
    exact (leads_of_samePool (close_samePool clients) h).trans (close_active_iff hactive clients)

end InMemoryDerpPool

/-! ## A fallback -/

theorem SocketRelayClient.connect_attached {texts : Texts} {ticket : RelayTicket}
    {send : Except RelayClientError Unit} {answer : Option Json} {relay : RelayClientState}
    (h : SocketRelayClient.connect texts ticket send answer = .ok relay) :
    relay.activeSocket = true ∧ relay.sessionId.isSome = true := by
  rw [SocketRelayClient.connect] at h
  obtain ⟨-, -, h⟩ := Program.bind_eq_ok.mp h
  obtain ⟨-, -, h⟩ := Program.bind_eq_ok.mp h
  rw [SocketRelayClient.connected] at h
  obtain ⟨response, -, h⟩ := Program.bind_eq_ok.mp h
  split at h
  · cases h
  · obtain rfl := Except.ok.inj h
    exact ⟨rfl, rfl⟩
  · cases h
  · cases h

namespace AppCore

variable {core : AppCore Stream M} {calls : ConnectCalls Stream M} {context : ConnectContext}

/-- A path that is not over the pool does not look at it. -/
theorem Truthful.of_pool {next : AppCore Stream M} (h : core.Truthful)
    (hpath : next.path.activePath = core.path.activePath) (hp2p : next.p2p = core.p2p)
    (hrelay : next.relay = core.relay)
    (hnot : ∀ clusterId nodeId, core.path.activePath ≠ .derp clusterId nodeId) :
    next.Truthful := by
  unfold Truthful at h ⊢
  rw [hpath, hp2p, hrelay]
  cases hactive : core.path.activePath with
  | none => trivial
  | p2p peerNodeId =>
    rw [hactive] at h
    exact h
  | relay peerNodeId =>
    rw [hactive] at h
    exact h
  | derp clusterId nodeId => exact absurd hactive (hnot clusterId nodeId)

theorem failed_keeps_iff (h : core.Truthful) (path : PathState) (err : String) :
    Keeps core.path.activePath (.error err, core.withPath path) ↔
      path.activePath = core.path.activePath := by
  constructor
  · rintro ⟨-, hall⟩
    exact hall err rfl
  · intro hsame
    have htruthful : (core.withPath path).Truthful ↔ core.Truthful :=
      Truthful.congr hsame rfl rfl rfl
    exact ⟨htruthful.mpr h, fun _ _ => hsame⟩

/-- A fallback that fails with the pool installed again has left no active link. -/
theorem reinstalled_keeps_iff (h : core.Truthful) (path : PathState) (err : String)
    {derpPool : InMemoryDerpPool} (hnone : derpPool.activeLink = none) :
    Keeps core.path.activePath (.error err, { core.withPath path with derpPool }) ↔
      path.activePath = core.path.activePath ∧
        ∀ clusterId nodeId, path.activePath ≠ .derp clusterId nodeId := by
  constructor
  · rintro ⟨htruthful, hall⟩
    refine ⟨hall err rfl, fun clusterId nodeId hderp => ?_⟩
    change path.activePath = _ at hderp
    rw [Truthful] at htruthful
    dsimp only [withPath] at htruthful
    rw [hderp] at htruthful
    obtain ⟨-, link, hlink, -⟩ := htruthful
    cases hnone.symm.trans hlink
  · rintro ⟨hsame, hnot⟩
    refine ⟨h.of_pool hsame rfl rfl fun clusterId nodeId => ?_, fun _ _ => hsame⟩
    rw [← hsame]
    exact hnot clusterId nodeId

/-- The end over a pool with an active link. -/
theorem derp_keeps_iff (core : AppCore Stream M) (before : ActivePath) (path : PathState)
    {derpPool : InMemoryDerpPool} {link : DerpLinkSnapshot}
    (hlink : derpPool.activeLink = some link) (reason : String) :
    Keeps before (({ core.withPath path with derpPool } : AppCore Stream M).onP2pFailed
        context.peer.nodeId reason |>.finishManaged calls context) ↔
      link.nodeMeta.clusterId = derpPool.clusterId ∧
        (.derp link.nodeMeta.clusterId link.nodeMeta.nodeId = before ∨
          core.Finishes calls context (.derp link.nodeMeta.clusterId link.nodeMeta.nodeId)) := by
  have hpath : PathState.fallbackPath derpPool context.peer.nodeId =
      .derp link.nodeMeta.clusterId link.nodeMeta.nodeId := by
    rw [PathState.fallbackPath, hlink]
  generalize hnext : (({ core.withPath path with derpPool } : AppCore Stream M).onP2pFailed
    context.peer.nodeId reason) = next
  have hactive : next.path.activePath =
      .derp link.nodeMeta.clusterId link.nodeMeta.nodeId := by
    rw [← hnext]
    exact hpath
  have hfinishes : ∀ activePath, next.Finishes calls context activePath ↔
      core.Finishes calls context activePath := by
    intro activePath
    rw [← hnext]
    exact Iff.rfl
  have htruthful : next.Truthful ↔ link.nodeMeta.clusterId = derpPool.clusterId := by
    rw [Truthful, hactive, ← hnext]
    constructor
    · rintro ⟨hcluster, -⟩
      exact hcluster.symm
    · intro hcluster
      exact ⟨hcluster.symm, link, hlink, rfl⟩
  rw [finishManaged_keeps_iff next before (by rw [hactive]; nofun), htruthful, hactive, hfinishes]

/-- The end over a relay that has been attached. -/
theorem relay_keeps_iff (core : AppCore Stream M) (before : ActivePath) (path : PathState)
    {relay : RelayClientState} (hsocket : relay.activeSocket = true)
    (hsession : relay.sessionId.isSome = true) (reason : String) :
    Keeps before (({ core.withPath path with relay } : AppCore Stream M).onP2pFailed
        context.peer.nodeId reason |>.finishManaged calls context) ↔
      core.RelayFits relay context.peer.nodeId ∧
        (PathState.fallbackPath core.derpPool context.peer.nodeId = before ∨
          core.Finishes calls context
            (PathState.fallbackPath core.derpPool context.peer.nodeId)) := by
  rw [RelayFits]
  -- a derp link that is still active is taken for the path of the relay
  cases hlink : core.derpPool.activeLink with
  | some link =>
    have hpath : PathState.fallbackPath core.derpPool context.peer.nodeId =
        .derp link.nodeMeta.clusterId link.nodeMeta.nodeId := by
      rw [PathState.fallbackPath, hlink]
    rw [hpath]
    exact derp_keeps_iff { core with relay } before path hlink reason
  | none =>
    have hpath : PathState.fallbackPath core.derpPool context.peer.nodeId =
        .relay context.peer.nodeId := by
      rw [PathState.fallbackPath, hlink]
    rw [hpath]
    generalize hnext : (({ core.withPath path with relay } : AppCore Stream M).onP2pFailed
      context.peer.nodeId reason) = next
    have hactive : next.path.activePath = .relay context.peer.nodeId := by
      rw [← hnext]
      exact hpath
    have htruthful : next.Truthful ↔ relay.peerParticipantId = some context.peer.nodeId := by
      rw [Truthful, hactive, ← hnext]
      exact ⟨fun hall => hall.2.2, fun hpeer => ⟨hsocket, hsession, hpeer⟩⟩
    have hfinishes : ∀ activePath, next.Finishes calls context activePath ↔
        core.Finishes calls context activePath := by
      intro activePath
      rw [← hnext]
      exact Iff.rfl
    rw [finishManaged_keeps_iff next before (by rw [hactive]; nofun), htruthful, hactive,
      hfinishes]

/-- The pool as a connect leaves it once it has been warmed up. -/
theorem readied_clusterId (cluster : DerpCluster) (ticket : RelayTicket)
    (calls : ConnectCalls Stream M) {warmed : InMemoryDerpPool} {result : Except String Unit}
    (h : (core.derpPool.installCluster cluster.clusterId cluster.nodes ticket calls.freshClient
      calls.nowMs).warmUp calls.warmClients (max cluster.recommendedFanout 1) = (result, warmed)) :
    ((warmed.tickHealthCheck calls.tickClients).maybeSwitch calls.nowMs).2.clusterId =
      cluster.clusterId := by
  have hwarm := warmUp_samePool (core.derpPool.installCluster cluster.clusterId cluster.nodes
    ticket calls.freshClient calls.nowMs) calls.warmClients (max cluster.recommendedFanout 1)
  rw [h] at hwarm
  exact ((hwarm.trans (tick_samePool _)).trans (maybeSwitch_samePool _)).clusterId

/-- The fallback, with the path that the call has set by then. -/
theorem fallBack_keeps_iff (h : core.Truthful) (path : PathState) (calls : ConnectCalls Stream M)
    (derpMap : Option DerpMap) (networkId : String) (context : ConnectContext)
    (plan : Option ControlWsConnectPlan) :
    Keeps core.path.activePath
        ((core.withPath path).fallBack calls derpMap networkId context plan) ↔
      core.FallsBackTrue calls derpMap networkId context plan path.activePath := by
  rw [fallBack, FallsBackTrue]
  by_cases hallowed : context.peer.relayAllowed = false
  · rw [if_pos hallowed, if_pos hallowed]
    exact failed_keeps_iff h path _
  · rw [if_neg hallowed, if_neg hallowed, connectViaDerpPool]
    cases selectDerpCluster derpMap with
    | none =>
      have hplan : (core.withPath path).relayTicketFromPlan calls networkId context plan =
          core.relayTicketFromPlan calls networkId context plan := rfl
      dsimp only
      rw [hplan]
      cases core.relayTicketFromPlan calls networkId context plan with
      | error err => exact failed_keeps_iff h path err
      | ok ticket =>
        dsimp only
        cases hrelay : SocketRelayClient.connect calls.texts ticket (calls.relaySend ticket)
            (calls.relayAnswer ticket) with
        | error err => exact failed_keeps_iff h path _
        | ok relay =>
          obtain ⟨hsocket, hsession⟩ := SocketRelayClient.connect_attached hrelay
          exact relay_keeps_iff core _ path hsocket hsession "relay_fallback"
    | some cluster =>
      have hissue : ∀ request, (core.withPath path).issueRelayTicketWithOptions calls request =
          core.issueRelayTicketWithOptions calls request := fun _ => rfl
      have hpool : (core.withPath path).derpPool = core.derpPool := rfl
      dsimp only
      rw [hissue, hpool]
      generalize core.issueRelayTicketWithOptions calls _ = issued
      cases issued with
      | error err => exact failed_keeps_iff h path err
      | ok ticket =>
        dsimp only
        rcases hwarm : (core.derpPool.installCluster cluster.clusterId cluster.nodes ticket
          calls.freshClient calls.nowMs).warmUp calls.warmClients (max cluster.recommendedFanout 1)
          with ⟨err | _, warmed⟩
        · have hnone := warmUp_error_active (congrArg Prod.fst hwarm)
          rw [hwarm] at hnone
          exact reinstalled_keeps_iff h path err (activeLink_eq_none hnone)
        · have hcluster := readied_clusterId cluster ticket calls hwarm
          dsimp only
          cases hlink : ((warmed.tickHealthCheck calls.tickClients).maybeSwitch
              calls.nowMs).2.activeLink with
          | none => exact reinstalled_keeps_iff h path _ hlink
          | some link =>
            dsimp only
            rw [← hcluster]
            exact derp_keeps_iff core _ path hlink "derp_fallback"

theorem p2pConnect_cases (state : P2PState Stream) (peer : PeerCandidate)
    (connectTcp : String → Except String Stream) :
    (∃ stream, SocketP2PConnector.connect state peer connectTcp =
      (.connected .p2p, ⟨some stream, some peer.peerNodeId⟩)) ∨
    ∃ reason, SocketP2PConnector.connect state peer connectTcp = (.failed reason, state) := by
  unfold SocketP2PConnector.connect
  split
  · split
    · exact .inl ⟨_, rfl⟩
    · exact .inr ⟨_, rfl⟩
  · exact .inr ⟨_, rfl⟩
  · exact .inr ⟨_, rfl⟩

/-! ## Runs -/

theorem connect_keeps_iff (h : core.Truthful) (calls : ConnectCalls Stream M)
    (derpMap : Option DerpMap) (networkId peerNodeId : String) :
    core.KeepsPath (.connect calls derpMap networkId peerNodeId) ↔
      Keeps core.path.activePath (core.connect calls derpMap networkId peerNodeId) := by
  rw [KeepsPath, connect]
  cases hcontext : resolveConnectContext core.facade.state peerNodeId with
  | error err => exact iff_of_true nofun ⟨h, fun _ _ => rfl⟩
  | ok context =>
    simp only [Except.ok.injEq, forall_eq']
    rw [ConnectsTrue]
    cases (orderedPeerEndpoints context.peer
        (core.facade.state.currentConnectPlans.get? context.peer.nodeId)).head? with
    | none => exact (fallBack_keeps_iff h core.path calls derpMap networkId context _).symm
    | some endpoint =>
      dsimp only
      obtain ⟨stream, hconnect⟩ | ⟨reason, hconnect⟩ := p2pConnect_cases core.p2p
        ⟨context.peer.nodeId, endpoint.address, endpoint.endpointType⟩ calls.connectTcp
      · rw [hconnect]
        dsimp only
        rw [finishConnect_keeps_iff]
        exact ⟨fun hends => ⟨⟨rfl, rfl⟩, hends⟩, fun hboth => hboth.2⟩
      · rw [hconnect]
        exact (fallBack_keeps_iff h (.onP2pFailed core.derpPool context.peer.nodeId reason) calls
          derpMap networkId context _).symm

/-- A disconnect leaves the path and the transports. -/
theorem disconnect_frame (core : AppCore Stream M) (host : TunnelHost M) :
    let next := (core.disconnect host).2
    next.path = core.path ∧ next.p2p = core.p2p ∧ next.relay = core.relay ∧
      next.derpPool = core.derpPool := by
  unfold disconnect
  dsimp only
  split
  · exact ⟨rfl, rfl, rfl, rfl⟩
  · split <;> exact ⟨rfl, rfl, rfl, rfl⟩

theorem pool_truthful_iff (h : core.Truthful) (a : DerpPoolAction) :
    core.KeepsPath (.pool a) ↔ (core.pathAfter (.pool a)).Truthful := by
  rw [KeepsPath]
  by_cases hderp : ∃ clusterId nodeId, core.path.activePath = .derp clusterId nodeId
  · obtain ⟨clusterId, nodeId, hpath⟩ := hderp
    have hleads : Leads core.derpPool clusterId nodeId := by
      rw [Truthful, hpath] at h
      exact h
    have hafter : (core.pathAfter (.pool a)).Truthful ↔
        Leads (core.derpPool.after a) clusterId nodeId := by
      rw [Truthful]
      change (match core.path.activePath with
        | .none => True
        | .p2p _ => _
        | .relay _ => _
        | .derp clusterId nodeId => Leads (core.derpPool.after a) clusterId nodeId) ↔ _
      rw [hpath]
    rw [hafter, leads_after_iff hleads]
    constructor
    · intro hall
      exact hall clusterId nodeId hpath
    · intro hholds clusterId' nodeId' hpath'
      cases hpath.symm.trans hpath'
      exact hholds
  · have hnot : ∀ clusterId nodeId, core.path.activePath ≠ .derp clusterId nodeId :=
      fun clusterId nodeId hpath => hderp ⟨clusterId, nodeId, hpath⟩
    have hafter : (core.pathAfter (.pool a)).Truthful := h.of_pool rfl rfl rfl hnot
    exact iff_of_true (fun clusterId nodeId hpath => absurd hpath (hnot clusterId nodeId)) hafter

theorem keepsPath_iff (h : core.Truthful) (a : PathAction Stream M) :
    core.KeepsPath a ↔ core.Honest a (core.pathAfter a) := by
  cases a with
  | connect calls derpMap networkId peerNodeId =>
    exact connect_keeps_iff h calls derpMap networkId peerNodeId
  | disconnect host =>
    obtain ⟨hpath, hp2p, hrelay, hpool⟩ := disconnect_frame core host
    have htruthful : (core.disconnect host).2.Truthful ↔ core.Truthful :=
      Truthful.congr (congrArg PathState.activePath hpath) hp2p hrelay hpool
    rw [Honest, pathAfter, htruthful, hpath]
    exact ⟨fun hnone => ⟨h, hnone⟩, fun hboth => hboth.2⟩
  | pool a =>
    have htrue : core.Honest (.pool a) (core.pathAfter (.pool a)) ↔
        (core.pathAfter (.pool a)).Truthful := and_iff_left trivial
    rw [pool_truthful_iff h, htrue]
  | facade facade tunnels => exact iff_of_true trivial ⟨h, trivial⟩

end AppCore

end

/-! ## A fallback that is refused -/

def idleHost : TunnelHost Unit := ⟨fun _ _ => (.ok (), ()), fun _ _ => (.ok (), ())⟩

/-- A core with the snapshot of a client with one peer, which no relay may be used for. -/
def sampleCore : AppCore Unit Unit := (AppCore.new ()).pathAfter
  (.facade ⟨sampleSnapshot, none, none⟩ ())

end Slan.Client
