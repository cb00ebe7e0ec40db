import Slan.Maps.NetworkMap

/-! # Peers as a snapshot and as a network map show them -/

namespace Slan.Maps

open Control (Endpoint Node NodeEndpoint)
open Networks (Store)

/-- Whether the node's device is online and the node has a fresh control session. -/
def isPresent (s : Store) (now : Int) (networkId : String) (node : Node) : Bool :=
  (s.deviceById node.deviceId).any (fun device => device.status == "online") &&
    hasFreshControlSession s node.nodeId networkId now

theorem mem_listNodesByNetwork {s : Store} {networkId : String} {node : Node} :
    node ∈ listNodesByNetwork s networkId ↔
      node ∈ s.nodes ∧ (s.memberByNetworkDevice networkId node.deviceId).isSome = true :=
  Relation.mem_orderBy.trans Relation.mem_select

namespace DbState

variable {relays : Relays} {now : Int}

/-! ## Reading endpoints drops stale ones only -/

/-- The endpoints that are not stale yet. -/
def freshEndpoints (now : Int) (p : DbState) : List NodeEndpoint :=
  p.endpoints.filter fun row => !(row.updatedAt < endpointCutoff now)

/-- The state but for stale endpoints. -/
structure SameFresh (now : Int) (p q : DbState) : Prop where
  store : q.store = p.store
  endpoints : q.freshEndpoints now = p.freshEndpoints now

theorem SameFresh.refl (p : DbState) : SameFresh now p p := ⟨rfl, rfl⟩

theorem SameFresh.trans {p q r : DbState} (h : SameFresh now p q) (h' : SameFresh now q r) :
    SameFresh now p r :=
  ⟨h'.store.trans h.store, h'.endpoints.trans h.endpoints⟩

theorem sameFresh_endpointsForNodeInNetwork (p : DbState) (nodeId networkId : String) :
    SameFresh now p (p.endpointsForNodeInNetwork relays now nodeId networkId).2 := by
  refine ⟨rfl, ?_⟩
  change ((p.endpoints.filter _).filter _) = p.endpoints.filter _
  rw [List.filter_filter]
  refine List.filter_congr fun row _ => ?_
  cases decide (row.updatedAt < endpointCutoff now) <;> simp

theorem endpointsForNodeInNetwork_eq (p : DbState) (nodeId networkId : String) :
    (p.endpointsForNodeInNetwork relays now nodeId networkId).1 =
      (Control.sortStable newerEndpoint ((p.freshEndpoints now).filter fun row =>
        row.nodeId == nodeId && row.networkId == networkId)).map
          (fun record => (⟨record.type, record.address, record.updatedAt⟩ : Endpoint)) ++
        relays.fallbackEndpoints now := by
  have hlisted : (p.deleteNodeEndpointsBefore nodeId networkId (endpointCutoff now)).endpoints.filter
      (fun row => row.nodeId == nodeId && row.networkId == networkId) =
      (p.freshEndpoints now).filter fun row => row.nodeId == nodeId && row.networkId == networkId := by
    unfold deleteNodeEndpointsBefore freshEndpoints
    rw [List.filter_filter, List.filter_filter]
    refine List.filter_congr fun row _ => ?_
    cases row.nodeId == nodeId && row.networkId == networkId <;> simp
  have hfresh : ∀ row ∈ Control.sortStable newerEndpoint ((p.freshEndpoints now).filter fun row =>
      row.nodeId == nodeId && row.networkId == networkId),
      (!decide (row.updatedAt < endpointCutoff now)) = true := by
    intro row hrow
    have hmem := (List.mem_insertionSort _).mp hrow
    exact (List.mem_filter.mp (List.mem_filter.mp hmem).1).2
  unfold endpointsForNodeInNetwork listNodeEndpoints
  dsimp only
  rw [hlisted, List.filter_eq_self.mpr hfresh]

/-- What is read of a node and its device does not depend on stale endpoints. -/
theorem SameFresh.peerOf {p q : DbState} (h : SameFresh now p q) (networkId : String)
    (record : Node) (device : Networks.Device) :
    (q.peerOf relays now networkId record device).1 =
      (p.peerOf relays now networkId record device).1 := by
  unfold DbState.peerOf
  dsimp only
  rw [endpointsForNodeInNetwork_eq, endpointsForNodeInNetwork_eq, h.endpoints, h.store]

theorem sameFresh_peerOf (p : DbState) (networkId : String) (record : Node)
    (device : Networks.Device) : SameFresh now p (p.peerOf relays now networkId record device).2 := by
  have hread : SameFresh now p (p.endpointsForNodeInNetwork relays now record.nodeId networkId).2 :=
    sameFresh_endpointsForNodeInNetwork p record.nodeId networkId
  exact hread

/-! ## The peers of a map -/

/-- The peer that others see, or none for one who is not present. -/
def presentPeer (relays : Relays) (now : Int) (p : DbState) (networkId : String) (record : Node) :
    Option Peer :=
  if isPresent p.store now networkId record then
    (p.store.deviceById record.deviceId).map fun device =>
      (p.peerOf relays now networkId record device).1
  else none

theorem SameFresh.presentPeer {p q : DbState} (h : SameFresh now p q) (networkId : String)
    (record : Node) :
    q.presentPeer relays now networkId record = p.presentPeer relays now networkId record := by
  unfold DbState.presentPeer
  rw [h.store]
  simp only [h.peerOf]

theorem networkPeerDto_eq (p : DbState) (selfNodeId networkId : String) (record : Node) :
    (p.networkPeerDto relays now selfNodeId networkId record).1 =
      if record.nodeId = selfNodeId then none
      else p.presentPeer relays now networkId record := by
  unfold networkPeerDto presentPeer isPresent
  split
  · rfl
  · cases p.store.deviceById record.deviceId with
    | none => rfl
    | some device =>
      by_cases honline : device.status = "online"
      · cases hasFreshControlSession p.store record.nodeId networkId now <;> simp [honline]
      · simp [honline]

theorem sameFresh_networkPeerDto (p : DbState) (selfNodeId networkId : String) (record : Node) :
    SameFresh now p (p.networkPeerDto relays now selfNodeId networkId record).2 := by
  unfold networkPeerDto
  split
  · exact .refl p
  · cases p.store.deviceById record.deviceId with
    | none => exact .refl p
    | some device =>
      dsimp only
      split
      · exact .refl p
      · split
        · exact .refl p
        · have hread : SameFresh now p (p.peerOf relays now networkId record device).2 :=
            sameFresh_peerOf p networkId record device
          exact hread

theorem peersOf_eq (p : DbState) (selfNodeId networkId : String) (records : List Node) :
    (p.peersOf relays now selfNodeId networkId records).1 =
      records.filterMap fun record =>
        if record.nodeId = selfNodeId then none
        else p.presentPeer relays now networkId record := by
  induction records generalizing p with
  | nil => rfl
  | cons record records ih =>
    have hsame : SameFresh now p (p.networkPeerDto relays now selfNodeId networkId record).2 :=
      sameFresh_networkPeerDto p selfNodeId networkId record
    unfold peersOf
    dsimp only
    rw [ih, networkPeerDto_eq]
    simp only [hsame.presentPeer, List.filterMap_cons]
    cases (if record.nodeId = selfNodeId then none
      else p.presentPeer relays now networkId record) <;> rfl

theorem sameFresh_peersOf (p : DbState) (selfNodeId networkId : String) (records : List Node) :
    SameFresh now p (p.peersOf relays now selfNodeId networkId records).2 := by
  induction records generalizing p with
  | nil => exact .refl p
  | cons record records ih =>
    exact (sameFresh_networkPeerDto p selfNodeId networkId record).trans (ih _)

/-- A peer of the map is a node of the network, other than the receiver, that is present. -/
theorem mem_buildNetworkMapPeers {p : DbState} {selfNodeId networkId : String} {peer : Peer} :
    peer ∈ (p.buildNetworkMapPeers relays now selfNodeId networkId).1 ↔
      ∃ record ∈ listNodesByNetwork p.store networkId, record.nodeId ≠ selfNodeId ∧
        p.presentPeer relays now networkId record = some peer := by
  unfold buildNetworkMapPeers
  rw [peersOf_eq, List.mem_filterMap]
  refine exists_congr fun record => and_congr_right fun _ => ?_
  split
  · rename_i hself
    exact ⟨nofun, fun h => absurd hself h.1⟩
  · rename_i hother
    exact ⟨fun h => ⟨hother, h⟩, And.right⟩

theorem presentPeer_eq_some {p : DbState} {networkId : String} {record : Node} {peer : Peer} :
    p.presentPeer relays now networkId record = some peer ↔
      isPresent p.store now networkId record = true ∧
        ∃ device, p.store.deviceById record.deviceId = some device ∧
          (p.peerOf relays now networkId record device).1 = peer := by
  unfold presentPeer
  split
  · rename_i hpresent
    simp [hpresent]
  · rename_i habsent
    simp [habsent]

theorem nodeId_of_presentPeer {p : DbState} {networkId : String} {record : Node} {peer : Peer}
    (h : p.presentPeer relays now networkId record = some peer) : peer.nodeId = record.nodeId := by
  obtain ⟨_, device, _, rfl⟩ := presentPeer_eq_some.mp h
  rfl

/-! ## A snapshot and the map -/

variable (relays now) in
/-- The snapshot is of a peer just where the map shows one, and of the same. -/
def SnapshotAgrees (p : DbState) (userId nodeId networkId peerNodeId : String) : Prop :=
  ∀ peer, (p.peerSnapshot relays now userId nodeId networkId peerNodeId).1 = .ok peer ↔
    ∃ map, (p.networkMap relays now userId nodeId networkId).1 = .ok map ∧ peer ∈ map.peers ∧
      peer.nodeId = peerNodeId

/-- Where the source may ask, and the peer's device is a member and the peer's session fresh, the
device is online. -/
def OnlineWhereSeen (now : Int) (p : DbState) (userId nodeId networkId peerNodeId : String) : Prop :=
  ∀ source record member device,
    p.requireNodeSession userId nodeId networkId = .ok source →
    p.store.nodeById peerNodeId = some record →
    p.store.memberByNetworkDevice networkId record.deviceId = some member →
    p.store.deviceById record.deviceId = some device →
    hasFreshControlSession p.store peerNodeId networkId now = true → device.status = "online"

theorem peerSnapshot_eq_ok {p : DbState} {userId nodeId networkId peerNodeId : String}
    {peer : Peer} :
    (p.peerSnapshot relays now userId nodeId networkId peerNodeId).1 = .ok peer ↔
      ∃ source record member device, p.requireNodeSession userId nodeId networkId = .ok source ∧
        p.store.nodeById peerNodeId = some record ∧
        p.store.memberByNetworkDevice networkId record.deviceId = some member ∧
        p.store.deviceById record.deviceId = some device ∧
        hasFreshControlSession p.store peerNodeId networkId now = true ∧
        (p.peerOf relays now networkId record device).1 = peer := by
  unfold peerSnapshot
  cases p.requireNodeSession userId nodeId networkId with
  | error err => simp
  | ok source =>
    cases hrecord : p.store.nodeById peerNodeId with
    | none => simp
    | some record =>
      obtain ⟨_, rfl⟩ := Networks.nodeById_eq_some hrecord
      cases hmember : p.store.memberByNetworkDevice networkId record.deviceId with
      | none => simp [hmember]
      | some member =>
        cases hdevice : p.store.deviceById record.deviceId with
        | none => simp [hmember, hdevice]
        | some device =>
          cases hfresh : hasFreshControlSession p.store record.nodeId networkId now <;>
            simp [hmember, hdevice, hfresh]

theorem nodeById_eq_some_iff {s : Store} {nodeId : String} {record : Node} :
    s.nodeById nodeId = some record ↔ record ∈ s.nodes ∧ record.nodeId = nodeId := by
  refine ⟨Networks.nodeById_eq_some, fun ⟨hmem, hid⟩ => ?_⟩
  refine Relation.find?_eq_some_of_mem (fun a b ha hb => ?_) hmem (beq_iff_eq.mpr hid)
  exact (beq_iff_eq.mp ha).trans (beq_iff_eq.mp hb).symm

/-- The peer of that name in the map that the source asks for. -/
theorem mem_networkMap {p : DbState} {userId nodeId networkId peerNodeId : String} {peer : Peer}
    (hne : peerNodeId ≠ nodeId) :
    (∃ map, (p.networkMap relays now userId nodeId networkId).1 = .ok map ∧ peer ∈ map.peers ∧
      peer.nodeId = peerNodeId) ↔
      ∃ source record member device, p.requireNodeSession userId nodeId networkId = .ok source ∧
        p.store.nodeById peerNodeId = some record ∧
        p.store.memberByNetworkDevice networkId record.deviceId = some member ∧
        p.store.deviceById record.deviceId = some device ∧
        (hasFreshControlSession p.store peerNodeId networkId now = true ∧
          device.status = "online") ∧
        (p.peerOf relays now networkId record device).1 = peer := by
  unfold networkMap
  cases hsource : p.requireNodeSession userId nodeId networkId with
  | error err => simp
  | ok source =>
    have hself : source.nodeId = nodeId := by
      obtain ⟨⟨hfound, _⟩, _⟩ := Networks.run_requireNodeSession_eq_ok
        (Prod.ext hsource rfl : _ = (_, ((Networks.requireNodeSession userId nodeId networkId).run
          p.store).2))
      exact (Networks.nodeById_eq_some hfound).2
    have hmap : (p.buildNetworkMap relays now userId source networkId).1.peers =
        (p.buildNetworkMapPeers relays now source.nodeId networkId).1 := rfl
    -- the map of a source leaves out the source itself
    simp only [Except.ok.injEq, exists_eq_left', hmap, mem_buildNetworkMapPeers, hself]
    constructor
    · rintro ⟨⟨record, hlisted, _, hpeer⟩, rfl⟩
      obtain ⟨hnode, hmember⟩ := mem_listNodesByNetwork.mp hlisted
      obtain ⟨member, hmember⟩ := Option.isSome_iff_exists.mp hmember
      have hid := nodeId_of_presentPeer hpeer
      obtain ⟨hpresent, device, hdevice, hpeer⟩ := presentPeer_eq_some.mp hpeer
      unfold isPresent at hpresent
      rw [hdevice, Option.any_some, Bool.and_eq_true, beq_iff_eq] at hpresent
      rw [hid]
      exact ⟨source, record, member, device, rfl, nodeById_eq_some_iff.mpr ⟨hnode, rfl⟩, hmember,
        hdevice, ⟨hpresent.2, hpresent.1⟩, hpeer⟩
    · rintro ⟨_, record, member, device, _, hrecord, hmember, hdevice, ⟨hfresh, honline⟩, hpeer⟩
      obtain ⟨hnode, rfl⟩ := nodeById_eq_some_iff.mp hrecord
      have hpresent : isPresent p.store now networkId record = true := by
        unfold isPresent
        rw [hdevice, Option.any_some, honline, hfresh]
        rfl
      have hlisted : record ∈ listNodesByNetwork p.store networkId :=
        mem_listNodesByNetwork.mpr ⟨hnode, by rw [hmember]; rfl⟩
      have hshown := presentPeer_eq_some.mpr ⟨hpresent, device, hdevice, hpeer⟩
      exact ⟨⟨record, hlisted, hne, hshown⟩, nodeId_of_presentPeer hshown⟩

/-- A snapshot shows the peers of the map, and those whose device is not online. -/
theorem snapshotAgrees_iff (relays : Relays) (now : Int) (p : DbState)
    {userId nodeId networkId peerNodeId : String} (hne : peerNodeId ≠ nodeId) :
    p.SnapshotAgrees relays now userId nodeId networkId peerNodeId ↔
      p.OnlineWhereSeen now userId nodeId networkId peerNodeId := by
  unfold SnapshotAgrees
  simp only [peerSnapshot_eq_ok, mem_networkMap hne]
  constructor
  · intro h source record member device hsource hrecord hmember hdevice hfresh
    have hshown := (h _).mp ⟨source, record, member, device, hsource, hrecord, hmember, hdevice,
      hfresh, rfl⟩
    obtain ⟨_, record', _, device', _, hrecord', _, hdevice', ⟨_, honline⟩, _⟩ := hshown
    obtain rfl := Option.some.inj (hrecord.symm.trans hrecord')
    obtain rfl := Option.some.inj (hdevice.symm.trans hdevice')
    exact honline
  · intro h peer
    constructor
    · rintro ⟨source, record, member, device, hsource, hrecord, hmember, hdevice, hfresh, hpeer⟩
      have honline := h source record member device hsource hrecord hmember hdevice hfresh
      exact ⟨source, record, member, device, hsource, hrecord, hmember, hdevice,
        ⟨hfresh, honline⟩, hpeer⟩
    · rintro ⟨source, record, member, device, hsource, hrecord, hmember, hdevice,
        ⟨hfresh, _⟩, hpeer⟩
      exact ⟨source, record, member, device, hsource, hrecord, hmember, hdevice, hfresh, hpeer⟩

/-! ## Two nodes of one device, of which one has left -/

def homeStore (status : String) : Store where
  users := .ofRows [⟨"user-a", "a@slan.io", "net-a"⟩]
  devices := .ofRows
    [⟨"dev-a", "user-a", "machine-a", "laptop", "macos", "online", some "key-a", 0⟩,
      ⟨"dev-b", "user-a", "machine-b", "server", "linux", status, some "key-b", 0⟩]
  networks := .ofRows [⟨"net-a", "user-a", "home", "", "subnet-a", "10.0.0.0/16", ""⟩]
  subnets := .ofRows [⟨"subnet-a", "net-a", "default", "10.0.0.0/16", "10.0.0.1", "10.0.0.2",
    "10.0.255.254", true, "active"⟩]
  members := .ofRows [⟨"member-a", "net-a", "dev-a", .owner, 0, "active"⟩,
    ⟨"member-b", "net-a", "dev-b", .member, 0, "active"⟩]
  attachments := .ofRows [⟨"att-a", "net-a", "subnet-a", "dev-a", "10.0.0.2", "", "active"⟩,
    ⟨"att-b", "net-a", "subnet-a", "dev-b", "10.0.0.3", "", "active"⟩]
  nodes := .ofRows [⟨"node-a", "user-a", "dev-a", "public-a", []⟩,
    ⟨"node-b", "user-a", "dev-b", "public-b", []⟩, ⟨"node-c", "user-a", "dev-b", "public-c", []⟩]
  controlSessions := [⟨"ctrl-a", "user-a", "dev-a", "node-a", "net-a", "token-a", 90, 100⟩,
    ⟨"ctrl-b", "user-a", "dev-b", "node-b", "net-a", "token-b", 90, 100⟩]

/-- The session of `node-b` is fresh; that of `node-c` was closed. -/
def homeState (status : String) : DbState := ⟨homeStore status, [], [], ∅, ∅⟩

def noRelays : Relays := ⟨⟨"", "", []⟩, fun _ => none⟩

theorem snapshot_of_offline_peer :
    ¬(homeState "offline").SnapshotAgrees noRelays 110 "user-a" "node-a" "net-a" "node-b" := by
  intro h
  have hsnapshot : ((homeState "offline").peerSnapshot noRelays 110 "user-a" "node-a" "net-a"
      "node-b").1 = .ok ⟨"node-b", "dev-b", "public-b", "offline", true, ["10.0.0.3"], [],
        ["10.0.0.0/16"]⟩ := by decide
  have hmap : ((homeState "offline").networkMap noRelays 110 "user-a" "node-a" "net-a").1 =
      .ok ⟨"user-a", "dev-a", "node-a", "net-a", 1, 15, [], [⟨"10.0.0.0/16", "node-a"⟩]⟩ := by
    decide
  obtain ⟨map, hshown, hpeer, _⟩ := (h _).mp hsnapshot
  obtain rfl := Except.ok.inj (hmap.symm.trans hshown)
  cases hpeer

theorem snapshotAgrees_online :
    (homeState "online").SnapshotAgrees noRelays 110 "user-a" "node-a" "net-a" "node-b" := by
  refine (snapshotAgrees_iff noRelays 110 (homeState "online") (by decide)).mpr ?_
  intro source record member device _ hrecord _ hdevice _
  have hnode : (homeState "online").store.nodeById "node-b" =
      some ⟨"node-b", "user-a", "dev-b", "public-b", []⟩ := by decide
  obtain rfl := Option.some.inj (hnode.symm.trans hrecord)
  have hrow : (homeState "online").store.deviceById "dev-b" =
      some ⟨"dev-b", "user-a", "machine-b", "server", "linux", "online", some "key-b", 0⟩ := by
    decide
  obtain rfl := Option.some.inj (hrow.symm.trans hdevice)
  rfl

end DbState

end Slan.Maps
