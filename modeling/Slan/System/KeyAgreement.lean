import Slan.Client.KeyProvider
import Slan.Maps.ControlChannel

/-! # Whether a tunnel and the tunnel at its other end agree on a key

Clients register their nodes with one control plane, take its maps, and connect. The public key that
a peer is configured with has come from a registration; the key pair of the interface from the
client's own provider.
-/

namespace Slan.System

open Client Transition
open Control.Directory (RegisterNodeRequest)
open Maps (DbState Relays)

/-! ## The control plane -/

/-- The nodes of a map with their keys. -/
def shownKeys (peers : List Maps.Peer) : List (String × String) :=
  peers.map fun peer => (peer.nodeId, peer.publicKey)

/-- Anything but registrations of nodes. -/
def servedBy (control next : DbState) : DbState :=
  { next with store := { next.store with nodes := control.store.nodes } }

/-! ## Clients -/

/-- A client, with the snapshots that it has exported, the last one first. -/
structure KeyClient (Stream : Type) where
  core : AppCore Stream (Table TunnelConfig)
  exported : List AppCoreSnapshot

inductive KeyCall (Stream : Type) where
  | login (session : Session)
  | registerDevice (device : Device)
  | bootstrap (networkId : String) (bootstrap : BootstrapConfig)
  | connect (calls : ConnectCalls Stream (Table TunnelConfig)) (manager : TunnelManager)
    (provider : KeyProvider) (derpMap : Option DerpMap) (networkId peerNodeId : String)
  | controlSync (update : ControlWsBootstrapUpdate) (manager : TunnelManager)
    (provider : KeyProvider) (nowMs : Nat)
  | disconnect (manager : TunnelManager)
  | changePath (path : PathState)
  | exportSnapshot
  /-- A new process, which finds the tunnels of the one before or none. -/
  | restart (kept : Bool)
  | restoreSnapshot (index : Nat)

namespace KeyClient

variable {Stream : Type}

def new : KeyClient Stream := ⟨.new ∅, []⟩

def state (client : KeyClient Stream) : AppCoreSnapshot := client.core.facade.state

/-- The manager has the tunnel. -/
def Holds (client : KeyClient Stream) (tunnel : TunnelConfig) : Prop :=
  ∃ virtualIp, client.core.tunnels.get? virtualIp = some tunnel

def withState (client : KeyClient Stream) (state : AppCoreSnapshot) : KeyClient Stream :=
  { client with core := client.core.withState state }

/-- `register_node`, after the answer. -/
def registered (client : KeyClient Stream) (node : Client.Node) : KeyClient Stream :=
  client.withState { client.state with currentNode := some node, tunnelKeyMaterial := none }

/-- Every peer of the map is one that the control plane has told of. -/
def Told (told : List (String × String)) (networkMap : Option NetworkMap) : Prop :=
  ∀ map ∈ networkMap, ∀ peer ∈ map.peers, (peer.nodeId, peer.publicKey) ∈ told

instance (told : List (String × String)) (networkMap : Option NetworkMap) :
    Decidable (Told told networkMap) :=
  inferInstanceAs (Decidable (∀ map ∈ networkMap, ∀ peer ∈ map.peers, _))

/-- A call, `none` where it cannot be made. The maps that it takes are of peers told before. -/
def step (told : List (String × String)) (client : KeyClient Stream) :
    KeyCall Stream → Option (KeyClient Stream)
  | .login session => some (client.withState { client.state with session := some session })
  | .registerDevice device =>
    some (client.withState { client.state with
      currentDevice := some device
      tunnelKeyMaterial := none })
  | .bootstrap networkId bootstrap =>
    if Told told bootstrap.networkMap then
      some (client.withState { client.state with
        currentBootstrap := some bootstrap
        currentNetworkId := some networkId
        currentConnectPlans := ∅ })
    else none
  | .connect calls manager provider derpMap networkId peerNodeId =>
    let calls := { calls with host := tableHost manager, generate := provider.generate }
    some { client with core := (client.core.connect calls derpMap networkId peerNodeId).2 }
  | .controlSync update manager provider nowMs =>
    if Told told (some update.networkMap) ∧
        Told told (update.bootstrapOverride.bind BootstrapConfig.networkMap) then
      some { client with core :=
        (client.core.commitControlSync update provider.generate (tableHost manager) nowMs).2 }
    else none
  | .disconnect manager =>
    some { client with core := (client.core.disconnect (tableHost manager)).2 }
  | .changePath path => some { client with core := client.core.withPath path }
  | .exportSnapshot => some { client with exported := client.state :: client.exported }
  | .restart kept => some { client with core := .new (if kept then client.core.tunnels else ∅) }
  | .restoreSnapshot index =>
    client.exported[index]?.map fun snapshot =>
      { client with core := client.core.restoreSnapshot snapshot }

end KeyClient

/-! ## Runs -/

structure KeyWorld (Stream : Type) where
  control : DbState
  /-- The nodes and keys of the peers that the control plane has told of, in answers and notices. -/
  told : List (String × String)
  clients : Nat → KeyClient Stream

inductive KeyAction (Stream : Type) where
  /-- The control plane does something else than to register a node. -/
  | serve (next : DbState)
  | networkMap (relays : Relays) (now : Int) (userId nodeId networkId : String)
  | peerSnapshot (relays : Relays) (now : Int) (userId nodeId networkId peerNodeId : String)
  | registerNode (i : Nat) (userId : String) (req : RegisterNodeRequest)
  | call (i : Nat) (a : KeyCall Stream)

namespace KeyWorld

variable {Stream : Type}

/-- Clients that have done nothing yet. -/
def start (control : DbState) : KeyWorld Stream := ⟨control, [], fun _ => .new⟩

def setClient (w : KeyWorld Stream) (i : Nat) (client : KeyClient Stream) : KeyWorld Stream :=
  { w with clients := Function.update w.clients i client }

def step (w : KeyWorld Stream) : KeyAction Stream → Option (KeyWorld Stream)
  | .serve next => some { w with control := servedBy w.control next }
  | .networkMap relays now userId nodeId networkId =>
    match w.control.networkMap relays now userId nodeId networkId with
    | (.ok map, control) => some { w with control, told := shownKeys map.peers ++ w.told }
    | (.error _, _) => none
  | .peerSnapshot relays now userId nodeId networkId peerNodeId =>
    match w.control.peerSnapshot relays now userId nodeId networkId peerNodeId with
    | (.ok peer, control) => some { w with control, told := shownKeys [peer] ++ w.told }
    | (.error _, _) => none
  | .registerNode i userId req =>
    match (Networks.registerNode userId req).run w.control.store with
    | (.ok (), store) =>
      let w := { w with control := { w.control with store } }
      let node : Client.Node := ⟨req.nodeId, req.nodePublicKey, req.capabilities⟩
      some (w.setClient i ((w.clients i).registered node))
    | (.error _, _) => none
  | .call i a => ((w.clients i).step w.told a).map (w.setClient i)

/-! ## The property -/

/-- A tunnel to a client's node has the public key of the tunnels that the client has. -/
def KeysAgree (w : KeyWorld Stream) : Prop :=
  ∀ i j tunnel tunnel' node, (w.clients i).Holds tunnel → (w.clients j).Holds tunnel' →
    (w.clients j).state.currentNode = some node →
    tunnel.wireguardPeer.peerNodeId = some node.nodeId →
    tunnel.wireguardPeer.publicKey = tunnel'.wireguardInterface.keyPair.publicKey

end KeyWorld

/-! ## What it takes -/

/-- The key pair that a client has on record for the device and its node is of the key that the node
is registered under; where it has none, that is the key of the pair that it would make. -/
def HasRegisteredKey (state : AppCoreSnapshot) (provider : KeyProvider) (deviceId : String)
    (nowMs : Nat) : Prop :=
  ∀ node, state.currentNode = some node →
    match state.recordedKey provider deviceId with
    | some material => material.keyPair.publicKey = node.nodePublicKey
    | none => "wg-pub-" ++ deviceId ++ "-" ++ node.nodeId ++ "-" ++ toString nowMs =
      node.nodePublicKey

namespace KeyClient

variable {Stream : Type}

/-- The tunnels that the client has are under the key of the node. -/
def HoldsUnder (client : KeyClient Stream) (publicKey : String) : Prop :=
  ∀ tunnel, client.Holds tunnel → tunnel.wireguardInterface.keyPair.publicKey = publicKey

/-- A tunnel is configured under the key of the client's node, and tunnels that are there when the
client takes a node over from a snapshot are under that node's. -/
def KeepsKey (client : KeyClient Stream) : KeyCall Stream → Prop
  | .connect calls _ provider _ _ peerNodeId =>
    ∀ context, resolveConnectContext client.state peerNodeId = .ok context →
      HasRegisteredKey client.state provider context.bootstrap.device.deviceId calls.nowMs
  | .controlSync update _ provider nowMs =>
    ∀ next bootstrap again, commitUpdate client.state update = .ok (next, bootstrap, some again) →
      HasRegisteredKey client.state provider again.bootstrap.device.deviceId nowMs
  | .restoreSnapshot index =>
    ∀ snapshot node, client.exported[index]? = some snapshot → snapshot.currentNode = some node →
      client.HoldsUnder node.nodePublicKey
  | _ => True

end KeyClient

namespace KeyWorld

variable {Stream : Type}

/-- Also a node is registered under no second key, by a client that has no tunnel under another. -/
def KeepsKeys (w : KeyWorld Stream) : KeyAction Stream → Prop
  | .registerNode i _ req =>
    (∀ record, w.control.store.nodeById req.nodeId = some record →
      record.nodePublicKey = req.nodePublicKey) ∧ (w.clients i).HoldsUnder req.nodePublicKey
  | .call i a => (w.clients i).KeepsKey a
  | _ => True

end KeyWorld

/-! ## Registrations -/

/-- The control plane has the node under the key. -/
def Registered (control : DbState) (nodeId publicKey : String) : Prop :=
  ∃ record, control.store.nodeById nodeId = some record ∧ record.nodePublicKey = publicKey

/-- A node is registered under one key. -/
theorem Registered.unique {control : DbState} {nodeId publicKey publicKey' : String}
    (h : Registered control nodeId publicKey) (h' : Registered control nodeId publicKey') :
    publicKey = publicKey' := by
  obtain ⟨record, hrecord, rfl⟩ := h
  obtain ⟨record', hrecord', rfl⟩ := h'
  obtain rfl := Option.some.inj (hrecord.symm.trans hrecord')
  rfl

/-- Whatever is registered in the one is so in the other. -/
def KeepsNodes (control control' : DbState) : Prop :=
  ∀ nodeId publicKey, Registered control nodeId publicKey → Registered control' nodeId publicKey

theorem keepsNodes_of_nodes {control control' : DbState}
    (h : control'.store.nodes = control.store.nodes) : KeepsNodes control control' := by
  rintro nodeId publicKey ⟨record, hrecord, hkey⟩
  refine ⟨record, ?_, hkey⟩
  unfold Networks.Store.nodeById
  rw [h]
  exact hrecord

/-- A peer that is shown has the key of its node's registration. -/
theorem registered_of_presentPeer {relays : Relays} {now : Int} {control : DbState}
    {networkId : String} {record : Control.Node} {peer : Maps.Peer}
    (hmem : record ∈ control.store.nodes)
    (h : control.presentPeer relays now networkId record = some peer) :
    Registered control peer.nodeId peer.publicKey := by
  obtain ⟨_, device, _, rfl⟩ := DbState.presentPeer_eq_some.mp h
  exact ⟨record, DbState.nodeById_eq_some_iff.mpr ⟨hmem, rfl⟩, rfl⟩

theorem registered_of_networkMap {relays : Relays} {now : Int} {control : DbState}
    {userId nodeId networkId : String} {map : Maps.NetworkMap}
    (h : (control.networkMap relays now userId nodeId networkId).1 = .ok map) :
    ∀ pair ∈ shownKeys map.peers, Registered control pair.1 pair.2 := by
  intro pair hpair
  obtain ⟨peer, hpeer, rfl⟩ := List.mem_map.mp hpair
  unfold DbState.networkMap at h
  cases hsource : control.requireNodeSession userId nodeId networkId with
  | error err =>
    rw [hsource] at h
    cases h
  | ok source =>
    rw [hsource] at h
    obtain rfl := Except.ok.inj h
    obtain ⟨record, hlisted, -, hshown⟩ := DbState.mem_buildNetworkMapPeers.mp hpeer
    exact registered_of_presentPeer (Maps.mem_listNodesByNetwork.mp hlisted).1 hshown

theorem registered_of_peerSnapshot {relays : Relays} {now : Int} {control : DbState}
    {userId nodeId networkId peerNodeId : String} {peer : Maps.Peer}
    (h : (control.peerSnapshot relays now userId nodeId networkId peerNodeId).1 = .ok peer) :
    Registered control peer.nodeId peer.publicKey := by
  obtain ⟨-, record, -, device, -, hrecord, -, -, -, rfl⟩ := DbState.peerSnapshot_eq_ok.mp h
  obtain ⟨-, hid⟩ := Networks.nodeById_eq_some hrecord
  refine ⟨record, ?_, rfl⟩
  rw [← hid] at hrecord
  exact hrecord

theorem registered_iff {control : DbState} {nodeId publicKey : String} :
    Registered control nodeId publicKey ↔ ∃ record ∈ control.store.nodes,
      record.nodeId = nodeId ∧ record.nodePublicKey = publicKey := by
  unfold Registered
  simp only [DbState.nodeById_eq_some_iff, and_assoc]

/-- The node of a registration that goes through has its key, and the others have theirs. -/
theorem registered_registerNode {control : DbState} {store : Networks.Store} {userId : String}
    {req : RegisterNodeRequest}
    (h : (Networks.registerNode userId req).run control.store = (.ok (), store))
    {nodeId publicKey : String} : Registered { control with store } nodeId publicKey ↔
      nodeId = req.nodeId ∧ publicKey = req.nodePublicKey ∨
        nodeId ≠ req.nodeId ∧ Registered control nodeId publicKey := by
  unfold Networks.registerNode at h
  obtain ⟨_, _, hchecked, h⟩ := Program.run_bind_eq_ok.mp h
  obtain ⟨_, rfl⟩ := Networks.run_checked_eq_ok.mp hchecked
  obtain ⟨_, _, howner, h⟩ := Program.run_bind_eq_ok.mp h
  obtain ⟨_, rfl⟩ := Networks.run_ensureDeviceOwner_eq_ok.mp howner
  have hrows := @Networks.mem_upsertNode _ _ _ (Networks.run_insert_eq_ok.mp h)
  rw [registered_iff, registered_iff]
  simp only [hrows]
  constructor
  · rintro ⟨record, rfl | ⟨hrecord, hne⟩, rfl, rfl⟩
    · exact .inl ⟨rfl, rfl⟩
    · exact .inr ⟨hne, record, hrecord, rfl, rfl⟩
  · rintro (⟨rfl, rfl⟩ | ⟨hne, record, hrecord, rfl, rfl⟩)
    · exact ⟨_, .inl rfl, rfl, rfl⟩
    · exact ⟨record, .inr ⟨hrecord, hne⟩, rfl, rfl⟩

/-! ## What holds of a client -/

namespace KeyClient

variable {Stream : Type}

/-- The node and the peers that a snapshot knows are registered under the keys that it has. -/
structure Right (control : DbState) (state : AppCoreSnapshot) : Prop where
  node : ∀ node, state.currentNode = some node → Registered control node.nodeId node.nodePublicKey
  peers : ∀ bootstrap, state.currentBootstrap = some bootstrap → ∀ peer, bootstrap.Shows peer →
    Registered control peer.nodeId peer.publicKey

/-- A tunnel's peer is registered under the key that the tunnel has for it. -/
def RightPeer (control : DbState) (tunnel : TunnelConfig) : Prop :=
  ∀ nodeId, tunnel.wireguardPeer.peerNodeId = some nodeId →
    Registered control nodeId tunnel.wireguardPeer.publicKey

structure Follows (control : DbState) (client : KeyClient Stream) : Prop where
  state : Right control client.state
  exported : ∀ snapshot ∈ client.exported, Right control snapshot
  peers : ∀ tunnel, client.Holds tunnel → RightPeer control tunnel
  own : ∀ node, client.state.currentNode = some node → client.HoldsUnder node.nodePublicKey

variable {control control' : DbState} {client next : KeyClient Stream}
  {told : List (String × String)}

theorem Right.empty (control : DbState) : Right control .empty := by
  constructor
  · intro node h
    cases h
  · intro bootstrap h
    cases h

theorem not_holds_new (tunnel : TunnelConfig) : ¬(new : KeyClient Stream).Holds tunnel := by
  rintro ⟨virtualIp, hget⟩
  have hnone : (new : KeyClient Stream).core.tunnels.get? virtualIp = none := Table.get?_empty _
  rw [hnone] at hget
  cases hget

theorem Follows.new (control : DbState) : (new : KeyClient Stream).Follows control where
  state := .empty control
  exported := List.forall_mem_nil _
  peers tunnel h := absurd h (not_holds_new tunnel)
  own _ _ tunnel h := absurd h (not_holds_new tunnel)

theorem Right.mono {state : AppCoreSnapshot} (h : Right control state)
    (hkeeps : KeepsNodes control control') : Right control' state :=
  ⟨fun node hnode => hkeeps _ _ (h.node node hnode),
    fun bootstrap hbootstrap peer hpeer => hkeeps _ _ (h.peers bootstrap hbootstrap peer hpeer)⟩

theorem Follows.mono (h : client.Follows control) (hkeeps : KeepsNodes control control') :
    client.Follows control' where
  state := h.state.mono hkeeps
  exported := fun snapshot hsnapshot => (h.exported snapshot hsnapshot).mono hkeeps
  peers := fun tunnel htunnel nodeId hnode => hkeeps _ _ (h.peers tunnel htunnel nodeId hnode)
  own := h.own

/-- What is told is registered, and so are the peers of a map of what is told. -/
theorem registered_of_told (htold : ∀ pair ∈ told, Registered control pair.1 pair.2)
    {bootstrap : BootstrapConfig} (h : Told told bootstrap.networkMap) {peer : Client.Peer}
    (hpeer : bootstrap.Shows peer) : Registered control peer.nodeId peer.publicKey := by
  obtain ⟨networkMap, hmap, hmem⟩ := hpeer
  exact htold _ (h networkMap hmap peer hmem)

end KeyClient

/-- A tunnel that is configured under the key on record is under the key of the node. -/
theorem HasRegisteredKey.ensured {state : AppCoreSnapshot} {provider : KeyProvider}
    {deviceId : String} {nowMs : Nat} (h : HasRegisteredKey state provider deviceId nowMs)
    {node : Client.Node} (hnode : state.currentNode = some node) {peer : Client.Peer}
    {tunnel : TunnelConfig}
    (htunnel : AppCore.Ensured state provider.generate deviceId nowMs peer tunnel) :
    tunnel.wireguardInterface.keyPair.publicKey = node.nodePublicKey := by
  obtain ⟨keyPair, hensured, hjoins⟩ := htunnel
  have hkey := h node hnode
  rw [hjoins.keyPair, ensureTunnelKeyPair_eq_ok hensured, hnode]
  cases hrecorded : state.recordedKey provider deviceId with
  | some material =>
    rw [hrecorded] at hkey
    exact hkey
  | none =>
    rw [hrecorded] at hkey
    exact hkey

/-! ## One step -/

namespace KeyClient

variable {Stream : Type} {control : DbState} {client next : KeyClient Stream}
  {told : List (String × String)}

/-- A call that leaves the node and the tunnels. -/
theorem Follows.of_same (h : client.Follows control) (hstate : Right control next.state)
    (hexported : ∀ snapshot ∈ next.exported, Right control snapshot)
    (hnode : next.state.currentNode = client.state.currentNode)
    (htunnels : ∀ tunnel, next.Holds tunnel → client.Holds tunnel) : next.Follows control where
  state := hstate
  exported := hexported
  peers tunnel htunnel := h.peers tunnel (htunnels tunnel htunnel)
  own node hsome tunnel htunnel :=
    h.own node (hnode ▸ hsome) tunnel (htunnels tunnel htunnel)

theorem Right.of_same {state state' : AppCoreSnapshot} (h : Right control state)
    (hnode : state'.currentNode = state.currentNode)
    (hbootstrap : state'.currentBootstrap = state.currentBootstrap) : Right control state' where
  node node hsome := h.node node (hnode ▸ hsome)
  peers bootstrap hsome := h.peers bootstrap (hbootstrap ▸ hsome)

/-- A call that configures tunnels to registered peers, under the key of the client's node. -/
theorem Follows.of_configures {fits : TunnelConfig → Prop} {core : AppCore Stream _}
    (h : client.Follows control) (hstate : Right control core.facade.state)
    (hnode : core.facade.state.currentNode = client.state.currentNode)
    (hconfigures : AppCore.Configures fits client.core core)
    (hpeers : ∀ tunnel, fits tunnel → RightPeer control tunnel)
    (hown : ∀ tunnel, fits tunnel → ∀ node, client.state.currentNode = some node →
      tunnel.wireguardInterface.keyPair.publicKey = node.nodePublicKey) :
    ({ client with core } : KeyClient Stream).Follows control where
  state := hstate
  exported := h.exported
  peers tunnel htunnel := by
    obtain ⟨virtualIp, hget⟩ := htunnel
    obtain hold | hfits := hconfigures virtualIp tunnel hget
    · exact h.peers tunnel ⟨virtualIp, hold⟩
    · exact hpeers tunnel hfits
  own node hsome tunnel htunnel := by
    have hbefore : client.state.currentNode = some node := hnode.symm.trans hsome
    obtain ⟨virtualIp, hget⟩ := htunnel
    obtain hold | hfits := hconfigures virtualIp tunnel hget
    · exact h.own node hbefore tunnel ⟨virtualIp, hold⟩
    · exact hown tunnel hfits node hbefore

/-- A tunnel that joins a registered peer. -/
theorem rightPeer_of_joins {tunnel : TunnelConfig} {keyPair : WireGuardKeyPair}
    {peer : Client.Peer} (h : tunnel.Joins keyPair peer)
    (hpeer : Registered control peer.nodeId peer.publicKey) : RightPeer control tunnel := by
  intro nodeId hnode
  obtain rfl : peer.nodeId = nodeId := Option.some.inj (h.nodeId.symm.trans hnode)
  rw [h.publicKey]
  exact hpeer

theorem Follows.connect (h : client.Follows control)
    {calls : ConnectCalls Stream (Table TunnelConfig)} {manager : TunnelManager}
    (provider : KeyProvider) (hhost : calls.host = tableHost manager)
    (hgenerate : calls.generate = provider.generate) {derpMap : Option DerpMap}
    {networkId peerNodeId : String}
    (hkey : ∀ context, resolveConnectContext client.state peerNodeId = .ok context →
      HasRegisteredKey client.state provider context.bootstrap.device.deviceId calls.nowMs) :
    ({ client with core := (client.core.connect calls derpMap networkId peerNodeId).2 } :
      KeyClient Stream).Follows control := by
  obtain ⟨hself, hconfigures⟩ := AppCore.connect_configures client.core hhost derpMap networkId
    peerNodeId
  refine h.of_configures (h.state.of_same hself.node hself.bootstrap) hself.node hconfigures ?_ ?_
  · rintro tunnel ⟨context, hresolve, keyPair, -, hjoins⟩
    obtain ⟨hbootstrap, hshows⟩ := resolveConnectContext_eq_ok hresolve
    exact rightPeer_of_joins hjoins (h.state.peers context.bootstrap hbootstrap _ hshows)
  · rintro tunnel ⟨context, hresolve, hensured⟩ node hnode
    rw [hgenerate] at hensured
    exact (hkey context hresolve).ensured hnode hensured

theorem Follows.controlSync (h : client.Follows control)
    (htold : ∀ pair ∈ told, Registered control pair.1 pair.2)
    {update : ControlWsBootstrapUpdate} {manager : TunnelManager} {provider : KeyProvider}
    {nowMs : Nat} (hmap : Told told (some update.networkMap))
    (hoverride : Told told (update.bootstrapOverride.bind BootstrapConfig.networkMap))
    (hkey : ∀ next bootstrap again,
      commitUpdate client.state update = .ok (next, bootstrap, some again) →
        HasRegisteredKey client.state provider again.bootstrap.device.deviceId nowMs) :
    ({ client with core := (client.core.commitControlSync update provider.generate
      (tableHost manager) nowMs).2 } : KeyClient Stream).Follows control := by
  obtain ⟨hnode, hbootstrap, hconfigures⟩ := AppCore.commitControlSync_configures client.core update
    provider.generate manager nowMs
  have hshown : ∀ (bootstrap : BootstrapConfig) (peer : Client.Peer),
      bootstrap.networkMap = some update.networkMap → bootstrap.Shows peer →
      Registered control peer.nodeId peer.publicKey := by
    intro bootstrap peer hnetworkMap hshows
    rw [← hnetworkMap] at hmap
    exact registered_of_told htold hmap hshows
  have hbase : ∀ current peer, client.state.currentBootstrap = some current →
      (update.base current).Shows peer → Registered control peer.nodeId peer.publicKey := by
    intro current peer hcurrent hshows
    unfold ControlWsBootstrapUpdate.base at hshows
    cases hsome : update.bootstrapOverride with
    | none =>
      rw [hsome] at hshows
      exact h.state.peers current hcurrent peer hshows
    | some refreshed =>
      rw [hsome] at hshows hoverride
      exact registered_of_told htold hoverride hshows
  refine h.of_configures ⟨fun node hsome => ?_, fun bootstrap hsome peer hshows => ?_⟩ hnode
    hconfigures ?_ ?_
  · exact h.state.node node (hnode.symm.trans hsome)
  · obtain hsame | ⟨updated, hupdated, hnetworkMap⟩ := hbootstrap
    · exact h.state.peers bootstrap (hsame.symm.trans hsome) peer hshows
    · obtain rfl := Option.some.inj (hupdated.symm.trans hsome)
      exact hshown updated peer hnetworkMap hshows
  · rintro tunnel ⟨next, bootstrap, again, hcommit, keyPair, -, hjoins⟩
    obtain ⟨current, hcurrent, -, -, -, hnetworkMap, hreapply⟩ := commitUpdate_eq_ok hcommit
    obtain ⟨-, peer, hshows, hnodeId, hpublicKey⟩ := hreapply again rfl
    refine rightPeer_of_joins hjoins ?_
    rw [hnodeId, hpublicKey]
    exact hshows.elim (hshown bootstrap peer hnetworkMap) (hbase current peer hcurrent)
  · rintro tunnel ⟨next, bootstrap, again, hcommit, hensured⟩ node hsome
    -- a commit leaves the key material, so the key is still the registered one
    obtain ⟨-, -, hsame, hmaterial, -⟩ := commitUpdate_eq_ok hcommit
    have hrecorded : HasRegisteredKey next provider again.bootstrap.device.deviceId nowMs := by
      unfold HasRegisteredKey AppCoreSnapshot.recordedKey
      rw [hsame, hmaterial]
      exact hkey next bootstrap again hcommit
    exact hrecorded.ensured (hsame.trans hsome) hensured

/-- A disconnect leaves no tunnel that was not there. -/
theorem Follows.disconnect (h : client.Follows control) (manager : TunnelManager) :
    ({ client with core := (client.core.disconnect (tableHost manager)).2 } :
      KeyClient Stream).Follows control := by
  have hframe : AppCore.SameSelf client.core (client.core.disconnect (tableHost manager)).2 ∧
      AppCore.Configures (fun _ => False) client.core
        (client.core.disconnect (tableHost manager)).2 := by
    unfold AppCore.disconnect
    dsimp only
    split
    · exact ⟨⟨rfl, rfl⟩, .of_tunnels rfl⟩
    · rename_i peerVirtualIp _
      dsimp only [tableHost]
      cases manager.close peerVirtualIp with
      | error err => exact ⟨⟨rfl, rfl⟩, .of_tunnels rfl⟩
      | ok _ =>
        refine ⟨⟨rfl, rfl⟩, fun virtualIp tunnel hget => .inl ?_⟩
        have hremoved : (client.core.tunnels.remove peerVirtualIp).get? virtualIp = some tunnel :=
          hget
        rw [Table.get?_remove] at hremoved
        split at hremoved
        · cases hremoved
        · exact hremoved
  obtain ⟨hself, hconfigures⟩ := hframe
  exact h.of_configures (h.state.of_same hself.node hself.bootstrap) hself.node hconfigures
    (fun _ => False.elim) fun _ => False.elim

theorem Follows.restoreSnapshot (h : client.Follows control) {index : Nat}
    {snapshot : AppCoreSnapshot} (hsnapshot : client.exported[index]? = some snapshot)
    (hkey : ∀ node, snapshot.currentNode = some node → client.HoldsUnder node.nodePublicKey) :
    ({ client with core := client.core.restoreSnapshot snapshot } :
      KeyClient Stream).Follows control where
  state := h.exported snapshot (List.mem_of_getElem? hsnapshot)
  exported := h.exported
  peers := h.peers
  own := hkey

/-- A new process knows nothing, and the tunnels that it finds are those that were there. -/
theorem Follows.restart (h : client.Follows control) (kept : Bool) :
    ({ client with core := .new (if kept then client.core.tunnels else ∅) } :
      KeyClient Stream).Follows control where
  state := .empty control
  exported := h.exported
  peers tunnel htunnel := by
    obtain ⟨virtualIp, hget⟩ := htunnel
    cases kept with
    | true => exact h.peers tunnel ⟨virtualIp, hget⟩
    | false => exact absurd ⟨virtualIp, hget⟩ (@not_holds_new Stream tunnel)
  own node hnode := by cases hnode

/-- Each call keeps what holds of a client. -/
theorem Follows.step (h : client.Follows control)
    (htold : ∀ pair ∈ told, Registered control pair.1 pair.2) {a : KeyCall Stream}
    (hkeeps : client.KeepsKey a) (hstep : client.step told a = some next) :
    next.Follows control := by
  cases a with
  | login session =>
    obtain rfl := Option.some.inj hstep
    exact h.of_same (h.state.of_same rfl rfl) h.exported rfl fun _ => id
  | registerDevice device =>
    obtain rfl := Option.some.inj hstep
    exact h.of_same (h.state.of_same rfl rfl) h.exported rfl fun _ => id
  | bootstrap networkId bootstrap =>
    dsimp only [KeyClient.step] at hstep
    split at hstep
    · rename_i hmap
      obtain rfl := Option.some.inj hstep
      refine h.of_same ⟨h.state.node, fun taken hsome peer hshows => ?_⟩ h.exported rfl fun _ => id
      obtain rfl := Option.some.inj hsome
      exact registered_of_told htold hmap hshows
    · cases hstep
  | connect calls manager provider derpMap networkId peerNodeId =>
    obtain rfl := Option.some.inj hstep
    exact h.connect provider rfl rfl hkeeps
  | controlSync update manager provider nowMs =>
    dsimp only [KeyClient.step] at hstep
    split at hstep
    · rename_i htaken
      obtain rfl := Option.some.inj hstep
      exact h.controlSync htold htaken.1 htaken.2 hkeeps
    · cases hstep
  | disconnect manager =>
    obtain rfl := Option.some.inj hstep
    exact h.disconnect manager
  | changePath path =>
    obtain rfl := Option.some.inj hstep
    exact h.of_same (h.state.of_same rfl rfl) h.exported rfl fun _ => id
  | exportSnapshot =>
    obtain rfl := Option.some.inj hstep
    exact h.of_same h.state (List.forall_mem_cons.mpr ⟨h.state, h.exported⟩) rfl fun _ => id
  | restart kept =>
    obtain rfl := Option.some.inj hstep
    exact h.restart kept
  | restoreSnapshot index =>
    obtain ⟨snapshot, hsnapshot, rfl⟩ := Option.map_eq_some_iff.mp hstep
    exact h.restoreSnapshot hsnapshot fun node hnode => hkeeps snapshot node hsnapshot hnode

/-- A client whose registration went through, and that has no tunnel under another key. -/
theorem Follows.registered (h : client.Follows control) {node : Client.Node}
    (hnode : Registered control node.nodeId node.nodePublicKey)
    (hown : client.HoldsUnder node.nodePublicKey) : (client.registered node).Follows control where
  state := by
    refine ⟨fun taken hsome => ?_, h.state.peers⟩
    obtain rfl := Option.some.inj hsome
    exact hnode
  exported := h.exported
  peers := h.peers
  own taken hsome := by
    obtain rfl := Option.some.inj hsome
    exact hown

end KeyClient

/-! ## Whole runs -/

namespace KeyWorld

variable {Stream : Type} {w w' : KeyWorld Stream}

/-- What is told is registered, and the clients go by it. -/
structure Agreed (w : KeyWorld Stream) : Prop where
  told : ∀ pair ∈ w.told, Registered w.control pair.1 pair.2
  clients : ∀ i, (w.clients i).Follows w.control

theorem Agreed.start (control : DbState) : (start control : KeyWorld Stream).Agreed where
  told := List.forall_mem_nil _
  clients _ := .new control

theorem Agreed.mono (h : w.Agreed) {control : DbState} (hkeeps : KeepsNodes w.control control) :
    ({ w with control } : KeyWorld Stream).Agreed where
  told pair hpair := hkeeps _ _ (h.told pair hpair)
  clients i := (h.clients i).mono hkeeps

theorem Agreed.tell (h : w.Agreed) {keys : List (String × String)}
    (hkeys : ∀ pair ∈ keys, Registered w.control pair.1 pair.2) :
    ({ w with told := keys ++ w.told } : KeyWorld Stream).Agreed where
  told pair hpair := (List.mem_append.mp hpair).elim (hkeys pair) (h.told pair)
  clients := h.clients

theorem Agreed.setClient (h : w.Agreed) {i : Nat} {client : KeyClient Stream}
    (hclient : client.Follows w.control) : (w.setClient i client).Agreed where
  told := h.told
  clients j := by
    by_cases hij : j = i
    · subst hij
      have hset : (w.setClient j client).clients j = client := Function.update_self ..
      rw [hset]
      exact hclient
    · have hset : (w.setClient i client).clients j = w.clients j := Function.update_of_ne hij ..
      rw [hset]
      exact h.clients j

theorem Agreed.step (h : w.Agreed) {a : KeyAction Stream} (hkeeps : w.KeepsKeys a)
    (hstep : w.step a = some w') : w'.Agreed := by
  cases a with
  | serve next =>
    obtain rfl := Option.some.inj hstep
    exact h.mono (keepsNodes_of_nodes rfl)
  | networkMap relays now userId nodeId networkId =>
    have hstore : (w.control.networkMap relays now userId nodeId networkId).2.store =
        w.control.store := w.control.store_networkMap userId nodeId networkId
    have hkeys := @registered_of_networkMap relays now w.control userId nodeId networkId
    dsimp only [KeyWorld.step] at hstep
    rcases hrun : w.control.networkMap relays now userId nodeId networkId with ⟨err | map, control⟩
    · rw [hrun] at hstep
      cases hstep
    · rw [hrun] at hstep hstore hkeys
      obtain rfl := Option.some.inj hstep
      have hnodes : KeepsNodes w.control control := keepsNodes_of_nodes (by rw [← hstore])
      exact (h.tell (hkeys rfl)).mono hnodes
  | peerSnapshot relays now userId nodeId networkId peerNodeId =>
    have hstore : (w.control.peerSnapshot relays now userId nodeId networkId peerNodeId).2.store =
        w.control.store := w.control.store_peerSnapshot userId nodeId networkId peerNodeId
    have hkey := @registered_of_peerSnapshot relays now w.control userId nodeId networkId peerNodeId
    dsimp only [KeyWorld.step] at hstep
    rcases hrun : w.control.peerSnapshot relays now userId nodeId networkId peerNodeId
      with ⟨err | peer, control⟩
    · rw [hrun] at hstep
      cases hstep
    · rw [hrun] at hstep hstore hkey
      obtain rfl := Option.some.inj hstep
      have hnodes : KeepsNodes w.control control := keepsNodes_of_nodes (by rw [← hstore])
      have hkeys : ∀ pair ∈ shownKeys [peer], Registered w.control pair.1 pair.2 := by
        intro pair hpair
        obtain rfl := List.mem_singleton.mp hpair
        exact hkey rfl
      exact (h.tell hkeys).mono hnodes
  | registerNode i userId req =>
    dsimp only [KeyWorld.step] at hstep
    rcases hrun : (Networks.registerNode userId req).run w.control.store with ⟨err | _, store⟩
    · rw [hrun] at hstep
      cases hstep
    · rw [hrun] at hstep
      obtain rfl := Option.some.inj hstep
      have hregistered := @registered_registerNode w.control store userId req hrun
      -- by the guard a node that registers again does so with the key that it had
      have hnodes : KeepsNodes w.control { w.control with store } := by
        rintro nodeId publicKey ⟨record, hrecord, rfl⟩
        rw [hregistered]
        by_cases hsame : nodeId = req.nodeId
        · rw [hsame] at hrecord
          exact .inl ⟨hsame, hkeeps.1 record hrecord⟩
        · exact .inr ⟨hsame, record, hrecord, rfl⟩
      refine (h.mono hnodes).setClient (((h.clients i).mono hnodes).registered ?_ hkeeps.2)
      exact hregistered.mpr (.inl ⟨rfl, rfl⟩)
  | call i a =>
    obtain ⟨client, hclient, rfl⟩ := Option.map_eq_some_iff.mp hstep
    exact h.setClient ((h.clients i).step h.told hkeeps hclient)

theorem Agreed.keysAgree (h : w.Agreed) : w.KeysAgree := by
  intro i j tunnel tunnel' node htunnel htunnel' hnode hpeer
  have hregistered := (h.clients i).peers tunnel htunnel node.nodeId hpeer
  have hself := (h.clients j).state.node node hnode
  rw [(h.clients j).own node hnode tunnel' htunnel']
  exact hregistered.unique hself

end KeyWorld

/-- In a run whose steps keep to the keys that nodes are registered under, tunnels agree. -/
theorem tunnel_keys_agree {Stream : Type} (control : DbState) (w : KeyWorld Stream)
    (h : Reachable (guarded KeyWorld.KeepsKeys (rel KeyWorld.step)) (.start control) w) :
    w.KeysAgree := by
  have hagreed : w.Agreed := by
    refine h.invariant KeyWorld.Agreed (.start control) ?_
    rintro s a t hs ⟨hkeeps, hstep⟩
    exact hs.step hkeeps hstep
  exact hagreed.keysAgree

/-! ## Two clients that connect to each other -/

/-- The devices of a network, of which none has a node yet. -/
def familyState : DbState :=
  ⟨{ DbState.homeStore "online" with nodes := ∅, controlSessions := [] }, [], [], ∅, ∅⟩

/-- With a session and an endpoint for each of two nodes. -/
def servedState : DbState :=
  ⟨DbState.homeStore "online",
    [⟨"end-a", "node-a", "net-a", "open", "tcp", "203.0.113.1:7000", 100⟩,
      ⟨"end-b", "node-b", "net-a", "open", "tcp", "203.0.113.2:7000", 100⟩], [], ∅, ∅⟩

def bootstrapOf (device : Device) (nodeId : String) (peer : Client.Peer) : BootstrapConfig where
  device
  controlPlane := ⟨"ws://controller/ws", none, 15⟩
  networkMap := some { samplePeerMap with
    selfDeviceId := device.deviceId
    selfNodeId := nodeId
    networkId := "net-a"
    peers := [peer] }

def bootstrapA : BootstrapConfig :=
  bootstrapOf ⟨"dev-a", some "10.0.0.2"⟩ "node-a" ⟨"node-b", "dev-b", "node-key-b", "online", true,
    ["10.0.0.3"], [⟨"tcp", "203.0.113.2:7000", 100⟩], ["10.0.0.0/16"]⟩

def bootstrapB : BootstrapConfig :=
  bootstrapOf ⟨"dev-b", some "10.0.0.3"⟩ "node-b" ⟨"node-a", "dev-a", "node-key-a", "online", true,
    ["10.0.0.2"], [⟨"tcp", "203.0.113.1:7000", 100⟩], ["10.0.0.0/16"]⟩

def registrationA : KeyAction Unit :=
  .registerNode 0 "user-a" ⟨"dev-a", "node-a", "node-key-a", []⟩

def registrationB : KeyAction Unit :=
  .registerNode 1 "user-a" ⟨"dev-b", "node-b", "node-key-b", []⟩

def introductions : List (KeyAction Unit) :=
  [.serve servedState, .networkMap DbState.noRelays 110 "user-a" "node-a" "net-a",
    .networkMap DbState.noRelays 110 "user-a" "node-b" "net-a",
    .call 0 (.bootstrap "net-a" bootstrapA), .call 1 (.bootstrap "net-a" bootstrapB)]

def readyManager : TunnelManager := ⟨fun _ => .ok (), fun _ => .ok ()⟩

/-- Over TCP. -/
def directConnect (i : Nat) (provider : KeyProvider) (peerNodeId : String) : KeyAction Unit :=
  .call i (.connect (sampleCalls (tableHost readyManager) (.ok ())) readyManager provider none
    "net-a" peerNodeId)

/-- A file with the material of one device and node. -/
def keyFile (deviceId nodeId publicKey : String) : KeyProvider :=
  .file ⟨.ok ⟨[⟨some deviceId, some nodeId, ⟨publicKey, "private"⟩, 0⟩]⟩, fun _ => .ok ()⟩

/-- A client may connect under a key on record that is the one of its node. -/
theorem keepsKey_directConnect {client : KeyClient Unit} {provider : KeyProvider}
    {peerNodeId : String} (bootstrap : BootstrapConfig) (node : Client.Node)
    (material : TunnelKeyMaterial) (hbootstrap : client.state.currentBootstrap = some bootstrap)
    (hnode : client.state.currentNode = some node)
    (hrecorded : client.state.recordedKey provider bootstrap.device.deviceId = some material)
    (hkey : material.keyPair.publicKey = node.nodePublicKey) :
    client.KeepsKey (.connect (sampleCalls (tableHost readyManager) (.ok ())) readyManager provider
      none "net-a" peerNodeId) := by
  intro context hresolve taken htaken
  obtain ⟨hsame, -⟩ := resolveConnectContext_eq_ok hresolve
  obtain rfl := Option.some.inj (hbootstrap.symm.trans hsame)
  obtain rfl := Option.some.inj (hnode.symm.trans htaken)
  rw [hrecorded]
  exact hkey

theorem step_of_exec (w : KeyWorld Unit) (a : KeyAction Unit)
    (h : (exec KeyWorld.step w [a]).isSome = true) :
    rel KeyWorld.step w a (execD KeyWorld.step w [a]) := by
  obtain ⟨next, hstep, hlast⟩ := Option.bind_eq_some_iff.mp (exec_eq_execD h)
  obtain rfl := Option.some.inj hlast
  exact hstep

def registeredA : KeyWorld Unit := execD KeyWorld.step (.start familyState) [registrationA]

def registeredBoth : KeyWorld Unit := execD KeyWorld.step registeredA [registrationB]

def introduced : KeyWorld Unit := execD KeyWorld.step registeredBoth introductions

def connectA : KeyAction Unit :=
  directConnect 0 (keyFile "dev-a" "node-a" "node-key-a") "node-b"

def connectB : KeyAction Unit :=
  directConnect 1 (keyFile "dev-b" "node-b" "node-key-b") "node-a"

def connectedA : KeyWorld Unit := execD KeyWorld.step introduced [connectA]

def connectedBoth : KeyWorld Unit := execD KeyWorld.step connectedA [connectB]

theorem registered_guarded :
    Reachable (guarded KeyWorld.KeepsKeys (rel KeyWorld.step)) (.start familyState)
      registeredBoth := by
  have hfirst : (KeyWorld.start familyState : KeyWorld Unit).KeepsKeys registrationA := by
    refine ⟨fun record hrecord => ?_, fun tunnel htunnel => ?_⟩
    · have hnone : familyState.store.nodeById "node-a" = none := by decide
      cases hnone.symm.trans hrecord
    · exact absurd htunnel (KeyClient.not_holds_new tunnel)
  have hsecond : registeredA.KeepsKeys registrationB := by
    refine ⟨fun record hrecord => ?_, fun tunnel htunnel => ?_⟩
    · have hnone : registeredA.control.store.nodeById "node-b" = none := by decide
      cases hnone.symm.trans hrecord
    · exact absurd htunnel (KeyClient.not_holds_new tunnel)
  have hstep := step_of_exec (.start familyState) registrationA (by decide)
  have hstep' := step_of_exec registeredA registrationB (by decide)
  exact (Reachable.start.next ⟨hfirst, hstep⟩).next ⟨hsecond, hstep'⟩

theorem connected_guarded :
    Reachable (guarded KeyWorld.KeepsKeys (rel KeyWorld.step)) (.start familyState)
      connectedBoth := by
  have hintroduced : Reachable (guarded KeyWorld.KeepsKeys (rel KeyWorld.step))
      (.start familyState) introduced := by
    refine registered_guarded.guarded_of_exec (fun a ha w => ?_) (exec_eq_execD (by decide))
    simp only [introductions, List.mem_cons, List.not_mem_nil, or_false] at ha
    obtain rfl | rfl | rfl | rfl | rfl := ha <;> trivial
  have hkeepsA : introduced.KeepsKeys connectA :=
    keepsKey_directConnect bootstrapA ⟨"node-a", "node-key-a", []⟩
      ⟨some "dev-a", some "node-a", ⟨"node-key-a", "private"⟩, 0⟩ (by decide)
      (by decide) (by decide) rfl
  have hkeepsB : connectedA.KeepsKeys connectB :=
    keepsKey_directConnect bootstrapB ⟨"node-b", "node-key-b", []⟩
      ⟨some "dev-b", some "node-b", ⟨"node-key-b", "private"⟩, 0⟩ (by decide)
      (by decide) (by decide) rfl
  have hstep := step_of_exec introduced connectA (by decide)
  have hstep' := step_of_exec connectedA connectB (by decide)
  exact (hintroduced.next ⟨hkeepsA, hstep⟩).next ⟨hkeepsB, hstep'⟩

/-- The nodes are registered under the keys that the clients have on file. -/
theorem connectedBoth_keysAgree : connectedBoth.KeysAgree :=
  tunnel_keys_agree familyState connectedBoth connected_guarded

/-- Keys that the providers make are not those that the nodes are registered under. -/
def strangersMet : KeyWorld Unit :=
  execD KeyWorld.step (.start familyState) (registrationA :: registrationB :: introductions ++
    [directConnect 0 .inMemory "node-b", directConnect 1 .inMemory "node-a"])

theorem strangersMet_evaluated :
    (exec KeyWorld.step (.start familyState) (registrationA :: registrationB :: introductions ++
      [directConnect 0 .inMemory "node-b", directConnect 1 .inMemory "node-a"])).isSome = true ∧
    ((strangersMet.clients 0).core.tunnels.get? "10.0.0.3").map (fun tunnel =>
      (tunnel.wireguardPeer.peerNodeId, tunnel.wireguardPeer.publicKey)) =
        some (some "node-b", "node-key-b") ∧
    ((strangersMet.clients 1).core.tunnels.get? "10.0.0.2").map (fun tunnel =>
      (tunnel.wireguardPeer.peerNodeId, tunnel.wireguardInterface.keyPair.publicKey)) =
        some (some "node-a", "wg-pub-dev-b-node-b-0") ∧
    (strangersMet.clients 1).state.currentNode = some ⟨"node-b", "node-key-b", []⟩ := by
  decide

theorem strangersMet_disagree : ¬∀ (control : DbState) (w : KeyWorld Unit),
    Reachable (rel KeyWorld.step) (.start control) w → w.KeysAgree := by
  intro hclaim
  obtain ⟨hexec, hforth, hback, hnode⟩ := strangersMet_evaluated
  have hrun : Reachable (rel KeyWorld.step) (.start familyState) strangersMet :=
    .of_exec .start (exec_eq_execD hexec)
  obtain ⟨tunnel, hget, hpeer⟩ := Option.map_eq_some_iff.mp hforth
  obtain ⟨tunnel', hget', hkey⟩ := Option.map_eq_some_iff.mp hback
  obtain ⟨hpeerNodeId, hpublicKey⟩ := Prod.mk.inj hpeer
  have hagree := hclaim familyState strangersMet hrun 0 1 tunnel tunnel' _ ⟨_, hget⟩ ⟨_, hget'⟩
    hnode hpeerNodeId
  rw [hpublicKey, (Prod.mk.inj hkey).2] at hagree
  exact absurd hagree (by decide)

end Slan.System
