import Slan.Client.Derp
import Slan.Rest.Contract
import Slan.System.TicketSignature

/-! # The relay that an issued ticket names -/

namespace Slan.System

open Transition

/-- The address of a relay node, as tickets name it. -/
def relayUrl (node : Control.RelayNodeConfig) : String := node.transport ++ "://" ++ node.address

/-- The ticket names a relay that it allows, and a client that is connected to it accepts the
ticket. -/
structure NamesAllowedRelay (cluster : Control.RelayClusterView) (ticket : Control.RelayTicket)
    (node : Control.RelayNodeConfig) : Prop where
  mem : node ∈ cluster.nodes
  url : ticket.relayUrl = relayUrl node
  allowed : node.nodeId ∈ ticket.allowedDerpNodeIds
  accepted : ∀ {Socket : Type} (state : Client.DerpClientState Socket) (nodeMeta),
    state.nodeMeta = some nodeMeta → nodeMeta.nodeId = node.nodeId →
      nodeMeta.clusterId = cluster.clusterId →
        ∃ next, Client.SocketDerpClient.attachTicket state (Dto.carriedTicket ticket) = .ok next

/-- What the preferred ids leave of a cluster: its nodes with one of these ids where there are any,
and else all nodes. A blank id does not count. -/
def Left (nodes : List Control.RelayNodeConfig) (preferredNodeIds : List String)
    (nodeId : String) : Prop :=
  let inCluster (nodeId : String) : Prop :=
    Text.isBlank nodeId = false ∧ ∃ node ∈ nodes, node.nodeId = nodeId
  inCluster nodeId ∧ ((∃ preferred ∈ preferredNodeIds, inCluster (Text.trim preferred)) →
    ∃ preferred ∈ preferredNodeIds, Text.trim preferred = nodeId)

/-! ## The allowed ids of a ticket -/

section Allowed

variable {nodeId : String} {nodes : List Control.RelayNodeConfig}

theorem mem_keepAllowed {allowed seen preferredNodeIds : List String} :
    nodeId ∈ Control.keepAllowed allowed seen preferredNodeIds ↔ nodeId ≠ "" ∧ nodeId ∈ allowed ∧
      nodeId ∉ seen ∧ ∃ preferred ∈ preferredNodeIds, Text.trim preferred = nodeId := by
  induction preferredNodeIds generalizing seen with
  | nil => simp [Control.keepAllowed]
  | cons first rest ih =>
    unfold Control.keepAllowed
    dsimp only
    split
    · rename_i hskip
      rw [ih, List.exists_mem_cons_iff]
      constructor
      · rintro ⟨hne, hallowed, hseen, hrest⟩
        exact ⟨hne, hallowed, hseen, .inr hrest⟩
      · rintro ⟨hne, hallowed, hseen, rfl | hrest⟩
        · rcases hskip with hblank | hnot | hagain
          · exact absurd hblank hne
          · exact absurd hallowed hnot
          · exact absurd hagain hseen
        · exact ⟨hne, hallowed, hseen, hrest⟩
    · rename_i hkeep
      rw [not_or, not_or, not_not] at hkeep
      rw [List.mem_cons, ih, List.exists_mem_cons_iff, List.mem_cons, not_or]
      by_cases hfirst : nodeId = Text.trim first
      · subst hfirst
        exact iff_of_true (.inl rfl) ⟨hkeep.1, hkeep.2.1, hkeep.2.2, .inl rfl⟩
      · have hne : Text.trim first ≠ nodeId := fun h => hfirst h.symm
        simp only [hfirst, hne, false_or, not_false_eq_true, true_and]

/-- The ids of a cluster that are not blank. -/
def clusterIds (nodes : List Control.RelayNodeConfig) : List String :=
  (nodes.map Control.RelayNodeConfig.nodeId).filter fun nodeId => !Text.isBlank nodeId

theorem mem_clusterIds : nodeId ∈ clusterIds nodes ↔
    Text.isBlank nodeId = false ∧ ∃ node ∈ nodes, node.nodeId = nodeId := by
  unfold clusterIds
  rw [List.mem_filter, List.mem_map, Bool.not_eq_true', and_comm]

theorem mem_keepAllowed_clusterIds {preferredNodeIds : List String} :
    nodeId ∈ Control.keepAllowed (clusterIds nodes) [] preferredNodeIds ↔
      nodeId ∈ clusterIds nodes ∧ ∃ preferred ∈ preferredNodeIds, Text.trim preferred = nodeId := by
  rw [mem_keepAllowed]
  constructor
  · rintro ⟨-, hmem, -, hpreferred⟩
    exact ⟨hmem, hpreferred⟩
  · rintro ⟨hmem, hpreferred⟩
    refine ⟨?_, hmem, List.not_mem_nil, hpreferred⟩
    rintro rfl
    exact absurd (mem_clusterIds.mp hmem).1 (by decide)

theorem mem_normalizePreferredRelayNodeIds {preferredNodeIds : List String} :
    nodeId ∈ Control.normalizePreferredRelayNodeIds preferredNodeIds nodes ↔
      Left nodes preferredNodeIds nodeId := by
  have hleft : Left nodes preferredNodeIds nodeId ↔ nodeId ∈ clusterIds nodes ∧
      ((∃ preferred ∈ preferredNodeIds, Text.trim preferred ∈ clusterIds nodes) →
        ∃ preferred ∈ preferredNodeIds, Text.trim preferred = nodeId) := by
    simp only [mem_clusterIds, Left]
  rw [hleft]
  unfold Control.normalizePreferredRelayNodeIds
  rw [show (nodes.map Control.RelayNodeConfig.nodeId).filter (fun nodeId => !Text.isBlank nodeId) =
    clusterIds nodes from rfl]
  dsimp only
  split
  · rename_i hempty
    -- no preferred id is in the cluster, and then all its ids are left
    rw [List.isEmpty_iff] at hempty
    have hnone : ¬∃ preferred ∈ preferredNodeIds, Text.trim preferred ∈ clusterIds nodes := by
      rintro ⟨preferred, hpreferred, hmem⟩
      have hkept := mem_keepAllowed_clusterIds.mpr ⟨hmem, preferred, hpreferred, rfl⟩
      rw [hempty] at hkept
      exact List.not_mem_nil hkept
    rw [(Text.sorted_perm _).mem_iff]
    exact ⟨fun hmem => ⟨hmem, fun hsome => absurd hsome hnone⟩, And.left⟩
  · rename_i hkept
    -- some are, and then only these are left
    rw [List.isEmpty_iff] at hkept
    obtain ⟨kept, hkept⟩ := List.exists_mem_of_ne_nil _ hkept
    obtain ⟨hmem, preferred, hpreferred, rfl⟩ := mem_keepAllowed_clusterIds.mp hkept
    rw [(Text.sorted_perm _).mem_iff, mem_keepAllowed_clusterIds]
    exact and_congr_right fun _ => ⟨fun h _ => h, fun h => h ⟨preferred, hpreferred, hmem⟩⟩

end Allowed

/-! ## What the client checks -/

/-- A client takes the ticket for every node of the cluster that it allows. -/
theorem attachTicket_carriedTicket {Socket : Type} (state : Client.DerpClientState Socket)
    {nodeMeta : Client.DerpNodeMeta} (hmeta : state.nodeMeta = some nodeMeta)
    {ticket : Control.RelayTicket} (hcluster : nodeMeta.clusterId = ticket.derpClusterId)
    (hallowed : nodeMeta.nodeId ∈ ticket.allowedDerpNodeIds) :
    ∃ next, Client.SocketDerpClient.attachTicket state (Dto.carriedTicket ticket) = .ok next := by
  refine ⟨_, Client.SocketDerpClient.attachTicket_eq_ok.mpr ⟨⟨nodeMeta, hmeta, ?_⟩, rfl⟩⟩
  unfold Client.SocketDerpClient.ticketFits
  rw [Bool.and_eq_true]
  refine ⟨?_, ?_⟩
  · unfold Dto.carriedTicket Json.nonEmpty
    dsimp only
    split
    · rfl
    · simp [hcluster]
  · rw [Bool.or_eq_true]
    exact .inr (List.contains_iff_mem.mpr hallowed)

/-! ## The first node of the cluster -/

/-- A ticket names a relay that it allows, if and only if the preferred ids leave the first node of
the cluster, or another one with the same address. -/
theorem buildRelayTicket_namesAllowedRelay_iff (mac : Mac) (cfg : Control.RelayConfig)
    (fresh : Control.FreshIds) (req : Control.RelayTicketRequest)
    (cluster : Control.RelayClusterView) (primaryNode : Control.RelayNodeConfig)
    (rest : List Control.RelayNodeConfig) (expiresAt : Int) :
    let cluster := { cluster with nodes := primaryNode :: rest }
    (∃ node, NamesAllowedRelay cluster (Control.buildRelayTicket mac cfg fresh
      (Control.normalizeRelayTicketRequest req cluster) cluster primaryNode expiresAt) node) ↔
      ∃ node ∈ cluster.nodes, relayUrl node = relayUrl primaryNode ∧
        Left cluster.nodes req.preferredDerpNodeIds node.nodeId := by
  dsimp only
  constructor
  · rintro ⟨node, hmem, hurl, hallowed, -⟩
    exact ⟨node, hmem, hurl.symm, mem_normalizePreferredRelayNodeIds.mp hallowed⟩
  · rintro ⟨node, hmem, hurl, hleft⟩
    have hallowed := mem_normalizePreferredRelayNodeIds.mpr hleft
    refine ⟨node, hmem, hurl.symm, hallowed, fun state nodeMeta hmeta hnode hcluster => ?_⟩
    exact attachTicket_carriedTicket state hmeta hcluster (hnode.symm ▸ hallowed)

/-! ## Every ticket that is issued -/

/-- Built for a normalized request and the first node of a cluster. -/
def Built (mac : Mac) (cfg : Control.RelayConfig) (ticket : Control.RelayTicket) : Prop :=
  ∃ (fresh : Control.FreshIds) (req : Control.RelayTicketRequest)
    (cluster : Control.RelayClusterView) (primaryNode : Control.RelayNodeConfig)
    (rest : List Control.RelayNodeConfig) (expiresAt : Int), cluster.nodes = primaryNode :: rest ∧
      ticket = Control.buildRelayTicket mac cfg fresh
        (Control.normalizeRelayTicketRequest req cluster) cluster primaryNode expiresAt

section Issued

variable {mac : Mac} {cfg : Control.RelayConfig} {cache : Control.RelayTicketCache}

theorem AllCached.built (h : AllCached (Built mac cfg) cache) (call : TicketCall) :
    (∀ ticket, (call.run mac cfg cache).1 = .ok ticket → Built mac cfg ticket) ∧
      AllCached (Built mac cfg) (call.run mac cfg cache).2 := by
  unfold TicketCall.run
  rcases Control.issueRelayTicket_cases mac cfg call.directory call.health cache call.fresh call.now
    call.later call.userId call.request with ⟨err, herr⟩ |
    ⟨cluster, primaryNode, rest, req, found, cache', ticket, _, _, hnodes, rfl, hlookup, hrun⟩
  · rw [herr]
    exact ⟨fun ticket hticket => (by cases hticket), h⟩
  · obtain ⟨hfound, hkept⟩ := h.lookup call.now
      (Control.normalizeRelayTicketRequest call.request cluster)
    rw [hlookup] at hfound hkept
    -- the ticket comes out of the cache, or it is built and put there
    rcases hrun with ⟨rfl, hrun⟩ | ⟨-, hfresh, hrun⟩
    · rw [hrun]
      refine ⟨fun ticket' hticket => ?_, hkept⟩
      obtain rfl := Except.ok.inj hticket
      exact hfound ticket rfl
    · have hbuilt : Built mac cfg ticket :=
        ⟨call.fresh, call.request, cluster, primaryNode, rest, _, hnodes, hfresh⟩
      rw [hrun]
      refine ⟨fun ticket' hticket => ?_, hkept.store call.later _ hbuilt⟩
      obtain rfl := Except.ok.inj hticket
      exact hbuilt

/-- Fresh or out of the cache, a ticket was built so, whatever calls came before. -/
theorem built_of_issued (h : Reachable (ticketStep mac cfg) ∅ cache) (call : TicketCall)
    {ticket : Control.RelayTicket} (hticket : (call.run mac cfg cache).1 = .ok ticket) :
    Built mac cfg ticket := by
  have hcached : AllCached (Built mac cfg) cache := by
    refine h.invariant (AllCached (Built mac cfg)) ?_ ?_
    · intro key cached hcached
      rw [Table.get?_empty] at hcached
      cases hcached
    · intro cache action cache' hcache hstep
      cases action with
      | issue call =>
        rw [show cache' = _ from hstep]
        exact (hcache.built call).2
      | prune now =>
        rw [show cache' = _ from hstep]
        exact hcache.prune now
  exact (hcached.built call).1 ticket hticket

end Issued

/-! ## A preferred node that is not the first -/

/-- The ticket allows the preferred node only and names the other one. -/
theorem preferred_not_named : ¬∀ (mac : Mac) (cfg : Control.RelayConfig) (fresh : Control.FreshIds)
    (req : Control.RelayTicketRequest) (cluster : Control.RelayClusterView)
    (primaryNode : Control.RelayNodeConfig) (rest : List Control.RelayNodeConfig)
    (expiresAt : Int),
    let cluster := { cluster with nodes := primaryNode :: rest }
    ∃ node, NamesAllowedRelay cluster (Control.buildRelayTicket mac cfg fresh
      (Control.normalizeRelayTicketRequest req cluster) cluster primaryNode expiresAt) node := by
  intro h
  obtain ⟨node, hmem, hurl, hallowed, -⟩ := h (fun _ _ => []) ⟨"", "", []⟩ ⟨"", "", ""⟩
    ⟨"net", "node-1", "node-2", "local", ["relay-cn-local-tcp"], "p2p_failed"⟩
    ⟨"cn", "", "local", "", "local", "", []⟩
    ⟨"relay-cn-local-udp", "udp", "127.0.0.1:9000", 10, []⟩
    [⟨"relay-cn-local-tcp", "tcp", "127.0.0.1:9001", 20, []⟩] 0
  rcases List.mem_pair.mp hmem with rfl | rfl
  · exact absurd hallowed (by decide)
  · exact absurd hurl (by decide)

end Slan.System
