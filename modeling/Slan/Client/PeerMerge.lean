import Mathlib.Data.Finset.Max
import Mathlib.Data.Set.List
import Slan.Lib.KeyedFold
import Slan.Client.ControlSync

/-! # The order and number in which peer events come

The controller sends an event again until it is acknowledged, so a call of `control_sync` may drain
the events about the peers in any order, and each of them more than once.
-/

namespace Slan.Client

/-! ## Events about peers -/

inductive PeerEvent where
  | update (event : ControlWsPeerUpdate)
  | remove (event : ControlWsPeerRemove)
  deriving DecidableEq, Repr

namespace PeerEvent

def toEvent : PeerEvent → ControlWsEvent
  | .update event => .peerUpdate event
  | .remove event => .peerRemove event

def nodeId : PeerEvent → String
  | .update event => event.peer.nodeId
  | .remove event => event.peerNodeId

def networkId : PeerEvent → String
  | .update event => event.networkId
  | .remove event => event.networkId

def revision : PeerEvent → Nat
  | .update event => event.revision
  | .remove event => event.revision

/-- What the peer is after the event, `none` when it is gone. -/
def said : PeerEvent → Option Peer
  | .update event => some event.peer
  | .remove _ => none

/-- About the network of the map, and newer than it. -/
def Current (networkMap : NetworkMap) (event : PeerEvent) : Prop :=
  networkMap.revision < event.revision ∧ event.networkId = networkMap.networkId

instance (networkMap : NetworkMap) (event : PeerEvent) : Decidable (event.Current networkMap) :=
  inferInstanceAs (Decidable (_ ∧ _))

end PeerEvent

/-- The drained events are these, in some order, each at least once. -/
def Delivers (events : Multiset PeerEvent) (received : List Received) : Prop :=
  ∀ event, event ∈ received.map Received.event ↔ ∃ e ∈ events, e.toEvent = event

/-- The network map that a call of `control_sync` arrives at. -/
def mergedMap (networkMap : NetworkMap) (received : List Received) : NetworkMap :=
  (drainedUpdate networkMap 0 ∅ received).networkMap

/-- A peer is what the newest current event about it says, and what the snapshot says where there
is none; the lists that two deliveries lead to hold the same peers. -/
structure OrderInsensitive (networkMap : NetworkMap) (events : Multiset PeerEvent) : Prop where
  newest : ∀ received, Delivers events received → ∀ e ∈ events, e.Current networkMap →
    (∀ e' ∈ events, e'.nodeId = e.nodeId → e'.Current networkMap → e'.revision ≤ e.revision) →
    findPeer e.nodeId (some (mergedMap networkMap received)) = e.said
  unchanged : ∀ received, Delivers events received → ∀ nodeId,
    (∀ e ∈ events, e.nodeId = nodeId → ¬ e.Current networkMap) →
    findPeer nodeId (some (mergedMap networkMap received)) = findPeer nodeId (some networkMap)
  perm : ∀ received received', Delivers events received → Delivers events received' →
    (mergedMap networkMap received).peers.Perm (mergedMap networkMap received').peers

/-- All events about one peer say the same of it, and where none of them is current they say what
the snapshot says. -/
structure Unanimous (networkMap : NetworkMap) (events : Multiset PeerEvent) : Prop where
  agree : ∀ e ∈ events, ∀ e' ∈ events, e.nodeId = e'.nodeId → e.said = e'.said
  known : ∀ e ∈ events,
    (∀ e' ∈ events, e'.nodeId = e.nodeId → ¬ e'.Current networkMap) →
    e.said = findPeer e.nodeId (some networkMap)

/-! ## The entries of a node in a peer list -/

/-- The entries of a node, of which all readers take the first. -/
def entries (nodeId : String) (peers : List Peer) : List Peer :=
  peers.filter fun peer => peer.nodeId = nodeId

def nodeEntries (networkMap : NetworkMap) (nodeId : String) : List Peer :=
  entries nodeId networkMap.peers

theorem findPeer_eq_head? (nodeId : String) (networkMap : NetworkMap) :
    findPeer nodeId (some networkMap) = (entries nodeId networkMap.peers).head? := by
  rw [entries, List.head?_filter]
  rfl

theorem entries_putPeer (peer : Peer) (peers : List Peer) (nodeId : String) :
    entries nodeId (putPeer peer peers) =
      if peer.nodeId = nodeId then peer :: (entries nodeId peers).tail
      else entries nodeId peers := by
  induction peers with
  | nil => by_cases h : peer.nodeId = nodeId <;> simp [entries, putPeer, h]
  | cons existing rest ih =>
    unfold putPeer
    by_cases hsame : existing.nodeId = peer.nodeId
    · by_cases h : peer.nodeId = nodeId <;> simp [entries, hsame, h]
    · rw [if_neg hsame]
      by_cases h : peer.nodeId = nodeId
      · have hex : existing.nodeId ≠ nodeId := fun heq => hsame (heq.trans h.symm)
        simpa [entries, hex, h] using ih
      · by_cases hex : existing.nodeId = nodeId <;>
          simpa [entries, hex, h] using ih

theorem entries_remove (removed : String) (peers : List Peer) (nodeId : String) :
    entries nodeId (peers.filter fun peer => peer.nodeId ≠ removed) =
      if removed = nodeId then [] else entries nodeId peers := by
  unfold entries
  rw [List.filter_filter]
  by_cases h : removed = nodeId
  · subst h
    simp
  · rw [if_neg h]
    apply List.filter_congr
    intro peer _
    by_cases hp : peer.nodeId = nodeId
    · simp [hp, Ne.symm h]
    · simp [hp]

/-- Two lists with the same entries of every node hold the same peers. -/
theorem perm_of_entries {peers peers' : List Peer}
    (h : ∀ nodeId, entries nodeId peers = entries nodeId peers') : peers.Perm peers' := by
  rw [List.perm_iff_count]
  intro peer
  have hcount := congrArg (List.count peer) (h peer.nodeId)
  unfold entries at hcount
  rwa [List.count_filter (by simp), List.count_filter (by simp)] at hcount

/-! ## Applying events -/

/-- What becomes of the entries of a node of which an event says this. -/
def sayOf (said : Option Peer) (known : List Peer) : List Peer :=
  match said with
  | some peer => peer :: known.tail
  | none => []

theorem sayOf_head? (said : Option Peer) (known : List Peer) : (sayOf said known).head? = said := by
  cases said <;> rfl

theorem sayOf_idem (said : Option Peer) (known : List Peer) :
    sayOf said (sayOf said known) = sayOf said known := by
  cases said <;> rfl

def applyPeerEvent (networkMap : NetworkMap) (e : PeerEvent) : NetworkMap :=
  match e with
  | .update event =>
    { networkMap with
      revision := max networkMap.revision event.revision
      peers := putPeer event.peer networkMap.peers }
  | .remove event =>
    { networkMap with
      revision := max networkMap.revision event.revision
      peers := networkMap.peers.filter fun peer => peer.nodeId ≠ event.peerNodeId }

theorem applyControlWsEvent_networkMap (update : ControlWsBootstrapUpdate) (e : PeerEvent) :
    (applyControlWsEvent update e.toEvent).networkMap = applyPeerEvent update.networkMap e := by
  cases e <;> rfl

theorem entries_applyPeerEvent (networkMap : NetworkMap) (e : PeerEvent) (nodeId : String) :
    entries nodeId (applyPeerEvent networkMap e).peers =
      if e.nodeId = nodeId then sayOf e.said (entries nodeId networkMap.peers)
      else entries nodeId networkMap.peers := by
  cases e with
  | update event => exact entries_putPeer event.peer networkMap.peers nodeId
  | remove event => exact entries_remove event.peerNodeId networkMap.peers nodeId

/-! ## A whole delivery -/

section Delivery

variable {networkMap : NetworkMap} {events : Multiset PeerEvent}

theorem PeerEvent.toEvent_injective : Function.Injective PeerEvent.toEvent := by
  intro e e' h
  cases e <;> cases e' <;> simp_all [PeerEvent.toEvent]

/-- The events of a delivery, one after the other. -/
theorem Delivers.exists_list {received : List Received} (h : Delivers events received) :
    ∃ es : List PeerEvent, received.map Received.event = es.map PeerEvent.toEvent ∧
      ∀ e, e ∈ es ↔ e ∈ events := by
  have hfrom : received.map Received.event ∈ Set.range (List.map PeerEvent.toEvent) := by
    rw [Set.range_list_map]
    intro event hevent
    obtain ⟨e, _, he⟩ := (h event).mp hevent
    exact ⟨e, he⟩
  obtain ⟨es, hes⟩ := hfrom
  refine ⟨es, hes.symm, fun e => ?_⟩
  have hmem := h e.toEvent
  rw [← hes] at hmem
  constructor
  · intro he
    obtain ⟨e', he', heq⟩ := hmem.mp (List.mem_map_of_mem he)
    exact PeerEvent.toEvent_injective heq ▸ he'
  · intro he
    obtain ⟨e', he', heq⟩ := List.mem_map.mp (hmem.mpr ⟨e, he, rfl⟩)
    exact PeerEvent.toEvent_injective heq ▸ he'

theorem mergedMap_eq_foldl {received : List Received} {es : List PeerEvent}
    (h : received.map Received.event = es.map PeerEvent.toEvent) (networkMap : NetworkMap) :
    mergedMap networkMap received = es.foldl applyPeerEvent networkMap := by
  have hfold : ∀ (es : List PeerEvent) (update : ControlWsBootstrapUpdate),
      ((es.map PeerEvent.toEvent).foldl applyControlWsEvent update).networkMap =
        es.foldl applyPeerEvent update.networkMap := by
    intro es
    induction es with
    | nil => exact fun _ => rfl
    | cons e es ih =>
      intro update
      rw [List.map_cons, List.foldl_cons, ih, applyControlWsEvent_networkMap, List.foldl_cons]
  unfold mergedMap drainedUpdate
  rw [h, hfold]

/-- Of the events of a node only those about it change its entries. -/
theorem entries_mergedMap (es : List PeerEvent) (networkMap : NetworkMap) (nodeId : String) :
    entries nodeId (es.foldl applyPeerEvent networkMap).peers =
      (es.filter fun e => e.nodeId = nodeId).foldl (fun known e => sayOf e.said known)
        (entries nodeId networkMap.peers) :=
  KeyedFold.view_foldl nodeEntries (fun e : PeerEvent => sayOf e.said) entries_applyPeerEvent es
    networkMap nodeId

/-- An event of the collection can be the last one to come. -/
theorem exists_delivery_last {e : PeerEvent} (he : e ∈ events) (networkMap : NetworkMap) :
    ∃ received, Delivers events received ∧
      findPeer e.nodeId (some (mergedMap networkMap received)) = e.said := by
  let es := events.toList ++ [e]
  have hmem : ∀ e', e' ∈ es ↔ e' ∈ events := by
    intro e'
    rw [List.mem_append, Multiset.mem_toList, List.mem_singleton]
    exact ⟨fun h => h.elim id fun h => h ▸ he, .inl⟩
  have hevents : (es.map fun e' => Received.mk 0 e'.toEvent).map Received.event =
      es.map PeerEvent.toEvent := by
    rw [List.map_map]
    rfl
  refine ⟨es.map fun e' => ⟨0, e'.toEvent⟩, fun event => ?_, ?_⟩
  · rw [hevents, List.mem_map]
    simp only [hmem]
  · rw [mergedMap_eq_foldl hevents, findPeer_eq_head?]
    have hlast := KeyedFold.view_foldl_concat nodeEntries (fun e : PeerEvent => sayOf e.said)
      entries_applyPeerEvent events.toList e networkMap
    exact (congrArg List.head? hlast).trans (sayOf_head? _ _)

/-- The newest current event about a node. -/
theorem exists_newest {nodeId : String}
    (h : ∃ e ∈ events, e.nodeId = nodeId ∧ e.Current networkMap) :
    ∃ e ∈ events, e.nodeId = nodeId ∧ e.Current networkMap ∧
      ∀ e' ∈ events, e'.nodeId = nodeId → e'.Current networkMap → e'.revision ≤ e.revision := by
  let current := events.toFinset.filter fun e => e.nodeId = nodeId ∧ e.Current networkMap
  have hmem : ∀ e, e ∈ current ↔ e ∈ events ∧ e.nodeId = nodeId ∧ e.Current networkMap := by
    intro e
    rw [Finset.mem_filter, Multiset.mem_toFinset]
  obtain ⟨e₀, he₀, hcur₀⟩ := h
  obtain ⟨e, he, hmax⟩ :=
    current.exists_max_image PeerEvent.revision ⟨e₀, (hmem e₀).mpr ⟨he₀, hcur₀⟩⟩
  obtain ⟨hin, hnode, hcur⟩ := (hmem e).mp he
  exact ⟨e, hin, hnode, hcur, fun e' he' hnode' hcur' =>
    hmax e' ((hmem e').mpr ⟨he', hnode', hcur'⟩)⟩

/-- Where the events are unanimous, one of them about a node decides on its entries. -/
theorem Unanimous.entries_eq (h : Unanimous networkMap events) {received : List Received}
    (hdel : Delivers events received) {e : PeerEvent} (he : e ∈ events) :
    entries e.nodeId (mergedMap networkMap received).peers =
      sayOf e.said (entries e.nodeId networkMap.peers) := by
  obtain ⟨es, hes, hmem⟩ := hdel.exists_list
  rw [mergedMap_eq_foldl hes, entries_mergedMap]
  have hall : ∀ e' ∈ es.filter fun e' => e'.nodeId = e.nodeId, sayOf e'.said = sayOf e.said := by
    intro e' he'
    obtain ⟨hin, hnode⟩ := List.mem_filter.mp he'
    rw [h.agree e' ((hmem e').mp hin) e he (of_decide_eq_true hnode)]
  have hsome : e ∈ es.filter fun e' => e'.nodeId = e.nodeId :=
    List.mem_filter.mpr ⟨(hmem e).mpr he, decide_eq_true rfl⟩
  exact KeyedFold.foldl_of_agree (sayOf_idem e.said) hall (List.ne_nil_of_mem hsome) _

theorem entries_eq_of_no_event {received : List Received} (hdel : Delivers events received)
    {nodeId : String} (hnone : ∀ e ∈ events, e.nodeId ≠ nodeId) (networkMap : NetworkMap) :
    entries nodeId (mergedMap networkMap received).peers = entries nodeId networkMap.peers := by
  obtain ⟨es, hes, hmem⟩ := hdel.exists_list
  rw [mergedMap_eq_foldl hes, entries_mergedMap]
  have hnil : (es.filter fun e => e.nodeId = nodeId) = [] := by
    rw [List.filter_eq_nil_iff]
    intro e he
    simpa using hnone e ((hmem e).mp he)
  rw [hnil, List.foldl_nil]

theorem Unanimous.orderInsensitive (h : Unanimous networkMap events) :
    OrderInsensitive networkMap events where
  newest received hdel e he _ _ := by
    rw [findPeer_eq_head?, h.entries_eq hdel he, sayOf_head?]
  unchanged received hdel nodeId hstale := by
    by_cases hevent : ∃ e ∈ events, e.nodeId = nodeId
    · obtain ⟨e, he, rfl⟩ := hevent
      rw [findPeer_eq_head?, h.entries_eq hdel he, sayOf_head?, h.known e he hstale]
    · have hnone : ∀ e ∈ events, e.nodeId ≠ nodeId := fun e he heq => hevent ⟨e, he, heq⟩
      rw [findPeer_eq_head?, entries_eq_of_no_event hdel hnone, findPeer_eq_head?]
  perm received received' hdel hdel' := by
    apply perm_of_entries
    intro nodeId
    by_cases hevent : ∃ e ∈ events, e.nodeId = nodeId
    · obtain ⟨e, he, rfl⟩ := hevent
      rw [h.entries_eq hdel he, h.entries_eq hdel' he]
    · have hnone : ∀ e ∈ events, e.nodeId ≠ nodeId := fun e he heq => hevent ⟨e, he, heq⟩
      rw [entries_eq_of_no_event hdel hnone, entries_eq_of_no_event hdel' hnone]

theorem OrderInsensitive.known (h : OrderInsensitive networkMap events) {e : PeerEvent}
    (he : e ∈ events)
    (hstale : ∀ e' ∈ events, e'.nodeId = e.nodeId → ¬ e'.Current networkMap) :
    e.said = findPeer e.nodeId (some networkMap) := by
  obtain ⟨received, hdel, hfind⟩ := exists_delivery_last he networkMap
  rw [← hfind, h.unchanged received hdel e.nodeId hstale]

/-- Whichever event comes last, it is read back; so it has to say what the newest one says. -/
theorem OrderInsensitive.agree (h : OrderInsensitive networkMap events) {e e' : PeerEvent}
    (he : e ∈ events) (he' : e' ∈ events) (hnode : e.nodeId = e'.nodeId) : e.said = e'.said := by
  by_cases hcur : ∃ c ∈ events, c.nodeId = e.nodeId ∧ c.Current networkMap
  · obtain ⟨c, hc, hcnode, hccur, hmax⟩ := exists_newest hcur
    have hsaid : ∀ e ∈ events, e.nodeId = c.nodeId → e.said = c.said := by
      intro e he hnode
      obtain ⟨received, hdel, hfind⟩ := exists_delivery_last he networkMap
      rw [← hfind, hnode]
      exact h.newest received hdel c hc hccur (hcnode.symm ▸ hmax)
    rw [hsaid e he hcnode.symm, hsaid e' he' (hnode.symm.trans hcnode.symm)]
  · have hstale : ∀ c ∈ events, c.nodeId = e.nodeId → ¬ c.Current networkMap :=
      fun c hc hcnode hccur => hcur ⟨c, hc, hcnode, hccur⟩
    rw [h.known he hstale, h.known he' (hnode ▸ hstale), hnode]

/-- The merge ignores order, repetition and staleness exactly where the events about a peer leave
nothing to choose: `control_sync` looks at neither the revision nor the network of an event. -/
theorem orderInsensitive_iff (networkMap : NetworkMap) (events : Multiset PeerEvent) :
    OrderInsensitive networkMap events ↔ Unanimous networkMap events :=
  ⟨fun h => ⟨fun _ he _ he' hnode => h.agree he he' hnode, fun _ he hstale => h.known he hstale⟩,
    Unanimous.orderInsensitive⟩

end Delivery

/-! ## Two updates of one peer, the newer one first -/

def movingPeer (virtualIp : String) : Peer where
  nodeId := "node-b"
  deviceId := "dev-b"
  publicKey := "key-b"
  status := "online"
  relayAllowed := true
  virtualIps := [virtualIp]
  endpoints := []
  allowedRoutes := []

def snapshotMap : NetworkMap where
  selfUserId := "user-a"
  selfDeviceId := "dev-a"
  selfNodeId := "node-a"
  networkId := "net-1"
  revision := 7
  heartbeatSeconds := 30
  stunServers := []
  peers := [movingPeer "10.0.0.2"]
  routes := []
  relayRegions := []
  dns := { servers := [], searchDomains := [] }
  mtu := none

/-- The older update is what stays, when it comes last. -/
theorem older_update_stays :
    ¬ OrderInsensitive snapshotMap
      {.update ⟨"net-1", 8, movingPeer "10.0.0.3"⟩,
        .update ⟨"net-1", 9, movingPeer "10.0.0.4"⟩} := by
  intro h
  have hfound := h.newest
    [⟨0, .peerUpdate ⟨"net-1", 9, movingPeer "10.0.0.4"⟩⟩,
      ⟨1, .peerUpdate ⟨"net-1", 8, movingPeer "10.0.0.3"⟩⟩]
    (by simp [Delivers, PeerEvent.toEvent, or_comm, eq_comm])
    (.update ⟨"net-1", 9, movingPeer "10.0.0.4"⟩) (by simp) (by decide)
    (by simp [PeerEvent.revision])
  revert hfound
  decide

end Slan.Client
