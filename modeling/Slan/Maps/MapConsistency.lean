import Slan.Networks.SubnetRanges
import Slan.Maps.ControlChannel

/-! # Whether the parts of a network map fit together -/

namespace Slan.Maps

open Control (FreshSession Node)
open Networks (NetworkMember SameHouses SingleSubnets Store SubnetAttachment)
open Transition

/-- No address is another peer's or the receiver's, and every route goes over one of these. -/
structure NetworkMap.Consistent (map : NetworkMap) (s : Store) : Prop where
  peers : map.peers.Pairwise fun a b => ∀ ip ∈ a.virtualIps, ip ∉ b.virtualIps
  receiver : ∀ peer ∈ map.peers, ∀ own ∈ s.attachments, own.deviceId = map.selfDeviceId →
    own.virtualIp ∉ peer.virtualIps
  routes : ∀ route ∈ map.routes, route.viaNodeId = map.selfNodeId ∨
    ∃ peer ∈ map.peers, peer.nodeId = route.viaNodeId

/-! ## Who holds an address, and who carries a subnet -/

section Parts

variable {s : Store} {networkId : String}

/-- The attachment gives its device an address in the network. -/
def Addresses (networkId : String) (attachment : SubnetAttachment) : Prop :=
  attachment.networkId = networkId ∧ attachment.virtualIp ≠ ""

theorem mem_virtualIpsForDeviceInNetwork {deviceId ip : String} :
    ip ∈ virtualIpsForDeviceInNetwork s deviceId networkId ↔
      ∃ a ∈ s.attachments, a.deviceId = deviceId ∧ Addresses networkId a ∧ a.virtualIp = ip := by
  unfold virtualIpsForDeviceInNetwork listAttachmentsByDevice Addresses
  simp only [List.mem_map, List.mem_filter, Relation.mem_orderBy, Relation.mem_select,
    Bool.and_eq_true, beq_iff_eq, bne_iff_ne, and_assoc]

/-- Where networks have one subnet, an address tells the attachment. -/
theorem attachment_eq_of_ip (h : SingleSubnets s) {a b : SubnetAttachment} (ha : a ∈ s.attachments)
    (hb : b ∈ s.attachments) (hnetwork : a.networkId = b.networkId)
    (hip : a.virtualIp = b.virtualIp) : a = b := by
  obtain ⟨x, hx, hxid, hxn⟩ := h.attachmentRow a ha
  obtain ⟨y, hy, hyid, hyn⟩ := h.attachmentRow b hb
  obtain rfl := h.single x hx y hy (hxn.trans (hnetwork.trans hyn.symm))
  exact Relation.eq_of_clash ha hb (.inr (.inr ⟨hxid.symm.trans hyid, hip⟩))

/-- The member's device is attached to the subnet and has a node. -/
def Reaches (s : Store) (subnetId : String) (member : NetworkMember) : Prop :=
  (∃ a ∈ s.attachments, a.subnetId = subnetId ∧ a.deviceId = member.deviceId) ∧
    ∃ node ∈ s.nodes, node.deviceId = member.deviceId

/-- The first node of the first member that reaches the subnet. -/
structure Carries (s : Store) (networkId subnetId : String) (node : Node) : Prop where
  stored : node ∈ s.nodes
  leastNode : ∀ other ∈ s.nodes, other.deviceId = node.deviceId → node.nodeId ≤ other.nodeId
  member : ∃ member ∈ s.members, member.networkId = networkId ∧ member.deviceId = node.deviceId ∧
    Reaches s subnetId member ∧ ∀ other ∈ s.members, other.networkId = networkId →
      Reaches s subnetId other → member.memberId ≤ other.memberId

theorem isSome_attachmentBySubnetDevice {subnetId deviceId : String} :
    (s.attachmentBySubnetDevice subnetId deviceId).isSome = true ↔
      ∃ a ∈ s.attachments, a.subnetId = subnetId ∧ a.deviceId = deviceId := by
  unfold Store.attachmentBySubnetDevice Relation.find?
  rw [List.find?_isSome]
  simp only [Bool.and_eq_true, beq_iff_eq]
  rfl

theorem mem_nodes_of_device {deviceId : String} {node : Node} :
    node ∈ s.nodes.select (fun node => node.deviceId == deviceId) ↔
      node ∈ s.nodes ∧ node.deviceId = deviceId := by
  rw [Relation.mem_select, beq_iff_eq]

theorem node_eq_of_nodeId {a b : Node} (ha : a ∈ s.nodes) (hb : b ∈ s.nodes)
    (h : a.nodeId = b.nodeId) : a = b := Relation.eq_of_clash ha hb h

theorem routeVia_eq_some {subnetId : String} {member : NetworkMember} {node : Node} :
    routeVia s subnetId member = some node ↔
      (∃ a ∈ s.attachments, a.subnetId = subnetId ∧ a.deviceId = member.deviceId) ∧
        node ∈ s.nodes ∧ node.deviceId = member.deviceId ∧
          ∀ other ∈ s.nodes, other.deviceId = member.deviceId → node.nodeId ≤ other.nodeId := by
  have hhead : (listNodesByDevice s member.deviceId).head? = some node ↔
      node ∈ s.nodes ∧ node.deviceId = member.deviceId ∧
        ∀ other ∈ s.nodes, other.deviceId = member.deviceId → node.nodeId ≤ other.nodeId := by
    unfold listNodesByDevice
    rw [Relation.head?_orderBy fun a ha b hb hab => node_eq_of_nodeId (Relation.mem_select.mp ha).1
      (Relation.mem_select.mp hb).1 hab]
    simp only [mem_nodes_of_device, and_imp, and_assoc]
  rw [← isSome_attachmentBySubnetDevice, ← hhead]
  unfold routeVia
  cases s.attachmentBySubnetDevice subnetId member.deviceId <;> simp

theorem isSome_routeVia {subnetId : String} {member : NetworkMember} :
    (routeVia s subnetId member).isSome = true ↔ Reaches s subnetId member := by
  unfold Reaches
  rw [← isSome_attachmentBySubnetDevice]
  unfold routeVia
  have hlisted : (listNodesByDevice s member.deviceId).head?.isSome = true ↔
      ∃ node ∈ s.nodes, node.deviceId = member.deviceId := by
    rw [List.isSome_head?, ← List.isEmpty_eq_false_iff, List.isEmpty_eq_false_iff_exists_mem]
    exact exists_congr fun node => Relation.mem_orderBy.trans mem_nodes_of_device
  cases s.attachmentBySubnetDevice subnetId member.deviceId with
  | none => simp
  | some _ => simpa using hlisted

theorem mem_routesForNetwork {route : Route} :
    route ∈ routesForNetwork s networkId ↔
      ∃ subnet ∈ s.subnets, subnet.networkId = networkId ∧
        ∃ node, Carries s networkId subnet.subnetId node ∧ route = ⟨subnet.cidr, node.nodeId⟩ := by
  have hcarries : ∀ (subnetId : String) (node : Node),
      (s.membersByNetwork networkId).findSome? (routeVia s subnetId) = some node ↔
        Carries s networkId subnetId node := by
    intro subnetId node
    unfold Store.membersByNetwork
    rw [Relation.findSome?_orderBy fun a ha b hb hab => Relation.eq_of_clash
      (Relation.mem_select.mp ha).1 (Relation.mem_select.mp hb).1 (.inl hab)]
    simp only [Relation.mem_select, beq_iff_eq, isSome_routeVia]
    constructor
    · rintro ⟨member, ⟨hmember, hnetwork⟩, hvia, hleast⟩
      obtain ⟨hattached, hnode, hdevice, hfirst⟩ := routeVia_eq_some.mp hvia
      exact ⟨hnode, fun other ho hd => hfirst other ho (hd.trans hdevice), member, hmember,
        hnetwork, hdevice.symm, ⟨hattached, node, hnode, hdevice⟩,
        fun other ho hn hr => hleast other ⟨ho, hn⟩ hr⟩
    · rintro ⟨hnode, hfirst, member, hmember, hnetwork, hdevice, hreaches, hleast⟩
      refine ⟨member, ⟨hmember, hnetwork⟩, routeVia_eq_some.mpr ⟨hreaches.1, hnode, hdevice.symm,
        fun other ho hd => hfirst other ho (hd.trans hdevice)⟩,
        fun other ho hr => hleast other ho.1 ho.2 hr⟩
  unfold routesForNetwork listSubnetsByNetwork
  simp only [List.mem_filterMap, Relation.mem_orderBy, Relation.mem_select, beq_iff_eq,
    Option.map_eq_some_iff, hcarries, and_assoc, eq_comm (b := route)]

end Parts

/-! ## When they fit together -/

section Maps

variable {s : Store} {now : Int} {networkId : String} {self : Node}

/-- A node of a member that the receiver's map shows. -/
def Shown (s : Store) (now : Int) (networkId : String) (self node : Node) : Prop :=
  node ∈ listNodesByNetwork s networkId ∧ node.nodeId ≠ self.nodeId ∧
    isPresent s now networkId node = true

/-- The receiver itself, or a node that its map shows. -/
def Seen (s : Store) (now : Int) (networkId : String) (self node : Node) : Prop :=
  node = self ∨ Shown s now networkId self node

/-- One node is seen of every device that has an address, no other one's address is the receiver's
in some other network, and the node that carries a subnet is seen. -/
structure Orderly (s : Store) (now : Int) (networkId : String) (receiver : Node) : Prop where
  oneNode : ∀ a ∈ s.attachments, Addresses networkId a → ∀ x y, Seen s now networkId receiver x →
    Seen s now networkId receiver y → x.deviceId = a.deviceId → y.deviceId = a.deviceId → x = y
  elsewhere : ∀ own ∈ s.attachments, own.deviceId = receiver.deviceId → own.networkId ≠ networkId →
    ∀ a ∈ s.attachments, Addresses networkId a → ∀ x, Shown s now networkId receiver x →
      x.deviceId = a.deviceId → own.virtualIp ≠ a.virtualIp
  carriers : ∀ subnet ∈ s.subnets, subnet.networkId = networkId → ∀ node,
    Carries s networkId subnet.subnetId node → Seen s now networkId receiver node

variable {relays : Relays} {p : DbState}

theorem virtualIps_of_presentPeer {record : Node} {peer : Peer}
    (h : p.presentPeer relays now networkId record = some peer) :
    peer.virtualIps = virtualIpsForDeviceInNetwork p.store record.deviceId networkId := by
  obtain ⟨_, device, _, rfl⟩ := DbState.presentPeer_eq_some.mp h
  rfl

variable (relays) in
/-- A node that is present has a peer to show. -/
theorem exists_presentPeer {record : Node} (h : isPresent p.store now networkId record = true) :
    ∃ peer, p.presentPeer relays now networkId record = some peer := by
  unfold isPresent at h
  obtain ⟨honline, _⟩ := Bool.and_eq_true_iff.mp h
  cases hdevice : p.store.deviceById record.deviceId with
  | none =>
    rw [hdevice] at honline
    cases honline
  | some device => exact ⟨_, DbState.presentPeer_eq_some.mpr ⟨h, device, hdevice, rfl⟩⟩

theorem mem_peers {peer : Peer} {userId : String} :
    peer ∈ (p.buildNetworkMap relays now userId self networkId).1.peers ↔
      ∃ record, Shown p.store now networkId self record ∧
        p.presentPeer relays now networkId record = some peer := by
  change peer ∈ (p.buildNetworkMapPeers relays now self.nodeId networkId).1 ↔ _
  rw [DbState.mem_buildNetworkMapPeers]
  constructor
  · rintro ⟨record, hlisted, hother, hpeer⟩
    exact ⟨record, ⟨hlisted, hother, (DbState.presentPeer_eq_some.mp hpeer).1⟩, hpeer⟩
  · rintro ⟨record, ⟨hlisted, hother, _⟩, hpeer⟩
    exact ⟨record, hlisted, hother, hpeer⟩

theorem nodup_listNodesByNetwork (s : Store) (networkId : String) :
    (listNodesByNetwork s networkId).Nodup := by
  have : Std.Refl (Networks.SameKey Node.nodeId) := ⟨fun _ => rfl⟩
  exact ((Relation.orderBy_perm _ _).nodup_iff).mpr (s.nodes.nodup.filter _)

/-- The peers differ in what a symmetric relation says just where the shown nodes do. -/
theorem peers_pairwise {R : Peer → Peer → Prop} (hR : ∀ a b, R a b → R b a) {userId : String} :
    (p.buildNetworkMap relays now userId self networkId).1.peers.Pairwise R ↔
      ∀ x, Shown p.store now networkId self x → ∀ y, Shown p.store now networkId self y → x ≠ y →
        ∀ a, p.presentPeer relays now networkId x = some a →
          ∀ b, p.presentPeer relays now networkId y = some b → R a b := by
  change (p.buildNetworkMapPeers relays now self.nodeId networkId).1.Pairwise R ↔ _
  unfold DbState.buildNetworkMapPeers
  rw [DbState.peersOf_eq, List.pairwise_filterMap]
  have hnodup := nodup_listNodesByNetwork p.store networkId
  constructor
  · intro h x hx y hy hxy a ha b hb
    have hsymm : Std.Symm fun x y : Node => ∀ a, (if x.nodeId = self.nodeId then none
        else p.presentPeer relays now networkId x) = some a → ∀ b, (if y.nodeId = self.nodeId then
        none else p.presentPeer relays now networkId y) = some b → R a b :=
      ⟨fun x y hxy b hb a ha => hR _ _ (hxy a ha b hb)⟩
    refine h.forall hx.1 hy.1 hxy a ?_ b ?_
    · rw [if_neg hx.2.1, ha]
    · rw [if_neg hy.2.1, hb]
  · intro h
    refine hnodup.pairwise_of_forall_ne fun x hx y hy hxy a ha b hb => ?_
    have hshown : ∀ {z : Node} {c : Peer}, z ∈ listNodesByNetwork p.store networkId →
        (if z.nodeId = self.nodeId then none else p.presentPeer relays now networkId z) = some c →
        Shown p.store now networkId self z ∧ p.presentPeer relays now networkId z = some c := by
      intro z c hz hc
      split at hc
      · cases hc
      · rename_i hother
        exact ⟨⟨hz, hother, (DbState.presentPeer_eq_some.mp hc).1⟩, hc⟩
    obtain ⟨hx, ha⟩ := hshown hx ha
    obtain ⟨hy, hb⟩ := hshown hy hb
    exact h x hx y hy hxy a ha b hb

variable (relays) in
/-- What a peer shows of a device's address. -/
theorem exists_peer_of_address {x : Node} (hx : Shown p.store now networkId self x)
    {a : SubnetAttachment} (ha : a ∈ p.store.attachments) (haddr : Addresses networkId a)
    (hdevice : x.deviceId = a.deviceId) :
    ∃ peer, p.presentPeer relays now networkId x = some peer ∧ a.virtualIp ∈ peer.virtualIps := by
  obtain ⟨peer, hpeer⟩ := exists_presentPeer relays hx.2.2
  refine ⟨peer, hpeer, ?_⟩
  rw [virtualIps_of_presentPeer hpeer]
  exact mem_virtualIpsForDeviceInNetwork.mpr ⟨a, ha, hdevice.symm, haddr, rfl⟩

theorem address_of_peer {x : Node} {peer : Peer} {ip : String}
    (hpeer : p.presentPeer relays now networkId x = some peer) (hip : ip ∈ peer.virtualIps) :
    ∃ a ∈ p.store.attachments, a.deviceId = x.deviceId ∧ Addresses networkId a ∧
      a.virtualIp = ip := by
  rw [virtualIps_of_presentPeer hpeer] at hip
  exact mem_virtualIpsForDeviceInNetwork.mp hip

variable {userId : String}

theorem routes_buildNetworkMap : (p.buildNetworkMap relays now userId self networkId).1.routes =
    routesForNetwork p.store networkId := by
  have hstore : (p.buildNetworkMap relays now userId self networkId).2.store = p.store :=
    p.store_buildNetworkMap userId self networkId
  exact congrArg (routesForNetwork · networkId) hstore

theorem Orderly.of_consistent (hself : self ∈ p.store.nodes)
    (h : (p.buildNetworkMap relays now userId self networkId).1.Consistent p.store) :
    Orderly p.store now networkId self := by
  have hpeers := (peers_pairwise fun a b hab ip hb ha => hab ip ha hb).mp h.peers
  refine ⟨fun a ha haddr x y hx hy hxa hya => ?_,
    fun own hown howner _ a ha haddr x hx hxa hip => ?_,
    fun subnet hsubnet hnetwork node hcarries => ?_⟩
  · by_contra hne
    -- the receiver's device and that of a peer are one
    have hreceiver : ∀ z, Shown p.store now networkId self z → z.deviceId = a.deviceId →
        a.deviceId ≠ self.deviceId := fun z hz hza hself => by
      obtain ⟨peer, hpeer, hip⟩ := exists_peer_of_address relays hz ha haddr hza
      exact h.receiver peer (mem_peers.mpr ⟨z, hz, hpeer⟩) a ha hself hip
    rcases hx with rfl | hx <;> rcases hy with rfl | hy
    · exact hne rfl
    · exact hreceiver y hy hya hxa.symm
    · exact hreceiver x hx hxa hya.symm
    · obtain ⟨peer, hpeer, hip⟩ := exists_peer_of_address relays hx ha haddr hxa
      obtain ⟨peer', hpeer', hip'⟩ := exists_peer_of_address relays hy ha haddr hya
      exact hpeers x hx y hy hne peer hpeer peer' hpeer' _ hip hip'
  · obtain ⟨peer, hpeer, hheld⟩ := exists_peer_of_address relays hx ha haddr hxa
    rw [← hip] at hheld
    exact h.receiver peer (mem_peers.mpr ⟨x, hx, hpeer⟩) own hown howner hheld
  · have hroute : (⟨subnet.cidr, node.nodeId⟩ : Route) ∈
        (p.buildNetworkMap relays now userId self networkId).1.routes := by
      rw [routes_buildNetworkMap]
      exact mem_routesForNetwork.mpr ⟨subnet, hsubnet, hnetwork, node, hcarries, rfl⟩
    rcases h.routes _ hroute with hvia | ⟨peer, hpeer, hvia⟩
    · exact .inl (node_eq_of_nodeId hcarries.stored hself hvia)
    · obtain ⟨record, hrecord, hshown⟩ := mem_peers.mp hpeer
      have hid : node.nodeId = record.nodeId :=
        hvia.symm.trans (DbState.nodeId_of_presentPeer hshown)
      obtain rfl :=
        node_eq_of_nodeId hcarries.stored (mem_listNodesByNetwork.mp hrecord.1).1 hid
      exact .inr hrecord

theorem Orderly.consistent (h : Orderly p.store now networkId self)
    (hsubnets : SingleSubnets p.store) :
    (p.buildNetworkMap relays now userId self networkId).1.Consistent p.store := by
  refine ⟨(peers_pairwise fun a b hab ip hb ha => hab ip ha hb).mpr ?_,
    fun peer hpeer own hown hself hip => ?_, fun route hroute => ?_⟩
  · intro x hx y hy hne peer hpeer peer' hpeer' ip hip hip'
    obtain ⟨a, ha, hax, haddr, rfl⟩ := address_of_peer hpeer hip
    obtain ⟨b, hb, hby, haddr', hba⟩ := address_of_peer hpeer' hip'
    obtain rfl := attachment_eq_of_ip hsubnets hb ha (haddr'.1.trans haddr.1.symm) hba
    exact hne (h.oneNode b hb haddr x y (.inr hx) (.inr hy) hax.symm hby.symm)
  · obtain ⟨record, hrecord, hshown⟩ := mem_peers.mp hpeer
    obtain ⟨a, ha, hax, haddr, hheld⟩ := address_of_peer hshown hip
    by_cases hnetwork : own.networkId = networkId
    · obtain rfl := attachment_eq_of_ip hsubnets ha hown (haddr.1.trans hnetwork.symm) hheld
      have hsame := h.oneNode a ha haddr record self (.inr hrecord) (.inl rfl) hax.symm hself.symm
      exact hrecord.2.1 (congrArg Node.nodeId hsame)
    · exact h.elsewhere own hown hself hnetwork a ha haddr record hrecord hax.symm hheld.symm
  · rw [routes_buildNetworkMap] at hroute
    obtain ⟨subnet, hsubnet, hnetwork, node, hcarries, rfl⟩ := mem_routesForNetwork.mp hroute
    rcases h.carriers subnet hsubnet hnetwork node hcarries with rfl | hshown
    · exact .inl rfl
    · obtain ⟨peer, hpeer⟩ := exists_presentPeer relays hshown.2.2
      exact .inr ⟨peer, mem_peers.mpr ⟨node, hshown, hpeer⟩, DbState.nodeId_of_presentPeer hpeer⟩

end Maps

/-! ## Whole runs -/

/-- Whether a subnet is asked for beside the one that a network is created with. -/
def Action.subnetwork : Action → Bool
  | .request r => r.operation.subnetwork
  | _ => false

section Runs

variable {relays : Relays} {sameName : String → String → Bool} {p : DbState}

theorem SameNetworks.sameHouses {s t : Store} (h : SameNetworks s t) : SameHouses s t where
  subnets := h.subnets
  networks := by rw [h.networks]
  attachments a ha := ⟨a, h.attachments ▸ ha, rfl, rfl⟩

theorem singleSubnets_empty : SingleSubnets ∅ where
  toHoused := Networks.housed_empty
  single _ h := absurd h (Relation.not_mem_empty _)

theorem singleSubnets_after {a : Action} (h : SingleSubnets p.store)
    (hother : a.subnetwork = false) : SingleSubnets (p.after relays sameName a).store := by
  by_cases hrequest : ∃ r, a = .request r
  · obtain ⟨r, rfl⟩ := hrequest
    unfold DbState.after
    rw [DbState.store_request]
    exact (Networks.housing_singleSubnets.keeps_call sameName hother).after h
  · have hsame : SameNetworks p.store (p.after relays sameName a).store :=
      p.sameNetworks_after sameName fun r hr => hrequest ⟨r, hr⟩
    exact Networks.housing_singleSubnets.same h hsame.sameHouses

/-- Where networks keep the subnets that they are created with, a map is consistent just where the
state is orderly for its receiver. -/
theorem networkMap_consistent_iff
    (h : Reachable (guarded (fun _ a => a.subnetwork = false) (rel (DbState.step relays sameName)))
      .start p) (now : Int) {userId networkId : String} {self : Node}
    (hself : self ∈ listNodesByNetwork p.store networkId) :
    (p.buildNetworkMap relays now userId self networkId).1.Consistent p.store ↔
      Orderly p.store now networkId self := by
  have hsubnets : SingleSubnets p.store := by
    refine h.invariant (fun p => SingleSubnets p.store) singleSubnets_empty fun s a t hs hstep => ?_
    obtain rfl := Option.some.inj hstep.2
    exact singleSubnets_after hs hstep.1
  exact ⟨.of_consistent (mem_listNodesByNetwork.mp hself).1, fun horderly =>
    horderly.consistent hsubnets⟩

/-! ## Two nodes of one device, and a node that has left -/

def helloOf (nodeId digits : String) : Control.NodeHello :=
  ⟨"", "", nodeId, "net-1", FreshSession.sessionToken ⟨digits, digits⟩⟩

def comes (nodeId digits : String) : List Action :=
  [.createControlSession 100 ⟨digits, digits⟩ "user-1" nodeId "net-1",
    .handshake 100 (helloOf nodeId digits)]

def nodeOf (nodeId deviceId : String) : Action :=
  .request ⟨.ofDigits "a" (.refl true), .registerNode "user-1" ⟨deviceId, nodeId, "public", []⟩⟩

/-- A user with one device and one node. -/
def oneNodeRun : List Action :=
  [.request ⟨.ofDigits "1" (.refl true), .registerUser "one@local.slan" "password"⟩,
    .request ⟨.ofDigits "2" (.refl true), .registerDevice "user-1" (Networks.newDevice "a")⟩,
    nodeOf "node-1" "dev-2"]

/-- With a second node on that device, and with a second device. -/
def threeNodesRun : List Action :=
  oneNodeRun ++ [nodeOf "node-2" "dev-2",
    .request ⟨.ofDigits "3" (.refl true), .registerDevice "user-1" (Networks.newDevice "b")⟩,
    nodeOf "node-3" "dev-3"] ++ comes "node-1" "4" ++ comes "node-2" "5" ++ comes "node-3" "6"

def leftRun : List Action := threeNodesRun ++ [.closeSession "user-1" "node-1" "net-1"]

/-- The state after a run; names are compared as they are. -/
def stateAfter (run : List Action) : DbState :=
  execD (DbState.step DbState.noRelays (· == ·)) .start run

def firstNode : Node := ⟨"node-1", "user-1", "dev-2", "public", []⟩

def thirdNode : Node := ⟨"node-3", "user-1", "dev-3", "public", []⟩

theorem reachable_stateAfter {r : List Action} (hrun : ∀ a ∈ r, a.subnetwork = false)
    (hexec : (exec (DbState.step DbState.noRelays (· == ·)) .start r).isSome = true) :
    Reachable (guarded (fun _ a => a.subnetwork = false)
      (rel (DbState.step DbState.noRelays (· == ·)))) .start (stateAfter r) :=
  Reachable.start.guarded_of_exec (fun a ha _ => hrun a ha) (exec_eq_execD hexec)

/-- A second node of the receiver's device is a peer with the receiver's address, and a route goes
over a node that has left. -/
theorem networkMap_inconsistent :
    (¬ ∀ (relays : Relays) (sameName : String → String → Bool) (p : DbState),
      Reachable (guarded (fun _ a => a.subnetwork = false) (rel (DbState.step relays sameName)))
        .start p → ∀ (now : Int) (userId networkId : String) (self : Node),
      self ∈ listNodesByNetwork p.store networkId →
      ∀ peer ∈ (p.buildNetworkMap relays now userId self networkId).1.peers,
        ∀ own ∈ p.store.attachments, own.deviceId = self.deviceId →
          own.virtualIp ∉ peer.virtualIps) ∧
    ¬ ∀ (relays : Relays) (sameName : String → String → Bool) (p : DbState),
      Reachable (guarded (fun _ a => a.subnetwork = false) (rel (DbState.step relays sameName)))
        .start p → ∀ (now : Int) (userId networkId : String) (self : Node),
      self ∈ listNodesByNetwork p.store networkId →
      ∀ route ∈ (p.buildNetworkMap relays now userId self networkId).1.routes,
        route.viaNodeId = self.nodeId ∨
          ∃ peer ∈ (p.buildNetworkMap relays now userId self networkId).1.peers,
            peer.nodeId = route.viaNodeId := by
  constructor
  · intro h
    obtain ⟨hexec, hlisted, hshown⟩ :
        (exec (DbState.step DbState.noRelays (· == ·)) .start threeNodesRun).isSome = true ∧
          firstNode ∈ listNodesByNetwork (stateAfter threeNodesRun).store "net-1" ∧
          ¬∀ peer ∈ ((stateAfter threeNodesRun).buildNetworkMap DbState.noRelays 110 "user-1"
            firstNode "net-1").1.peers, ∀ own ∈ (stateAfter threeNodesRun).store.attachments.rows,
              own.deviceId = firstNode.deviceId → own.virtualIp ∉ peer.virtualIps := by
      decide
    have hreach := reachable_stateAfter (by decide) hexec
    exact hshown (h _ _ _ hreach 110 "user-1" "net-1" firstNode hlisted)
  · intro h
    obtain ⟨hexec, hlisted, hdangling⟩ :
        (exec (DbState.step DbState.noRelays (· == ·)) .start leftRun).isSome = true ∧
          thirdNode ∈ listNodesByNetwork (stateAfter leftRun).store "net-1" ∧
          ¬∀ route ∈ ((stateAfter leftRun).buildNetworkMap DbState.noRelays 110 "user-1" thirdNode
            "net-1").1.routes, route.viaNodeId = thirdNode.nodeId ∨
              ∃ peer ∈ ((stateAfter leftRun).buildNetworkMap DbState.noRelays 110 "user-1" thirdNode
                "net-1").1.peers, peer.nodeId = route.viaNodeId := by decide +kernel
    have hreach := reachable_stateAfter (by decide) hexec
    exact hdangling (h _ _ _ hreach 110 "user-1" "net-1" thirdNode hlisted)

/-- With one node there are no peers, and the routes go over it. -/
theorem networkMap_consistent_alone :
    ((stateAfter oneNodeRun).buildNetworkMap DbState.noRelays 110 "user-1" firstNode
      "net-1").1.Consistent (stateAfter oneNodeRun).store := by
  obtain ⟨hexec, hself, hrows⟩ :
      (exec (DbState.step DbState.noRelays (· == ·)) .start oneNodeRun).isSome = true ∧
        firstNode ∈ listNodesByNetwork (stateAfter oneNodeRun).store "net-1" ∧
        ∀ node ∈ (stateAfter oneNodeRun).store.nodes.rows, node = firstNode := by decide
  have hreach := reachable_stateAfter (by decide) hexec
  have honly : ∀ node, node ∈ listNodesByNetwork (stateAfter oneNodeRun).store "net-1" →
      node = firstNode := fun node hnode => hrows node (mem_listNodesByNetwork.mp hnode).1
  have hnone : ∀ node, ¬Shown (stateAfter oneNodeRun).store 110 "net-1" firstNode node :=
    fun node hshown => hshown.2.1 (congrArg Node.nodeId (honly node hshown.1))
  refine (networkMap_consistent_iff hreach 110 hself).mpr ⟨fun a _ _ x y hx hy _ _ => ?_,
    fun _ _ _ _ _ _ _ x hx => absurd hx (hnone x), fun _ _ _ node hnode => ?_⟩
  · exact (hx.resolve_right (hnone x)).trans (hy.resolve_right (hnone y)).symm
  · exact .inl (hrows node hnode.stored)

end Runs

end Slan.Maps
