import Mathlib.Data.Prod.Lex
import Mathlib.Data.String.Basic
import Slan.Lib.Ranking
import Slan.Maps.DeviceStatus

/-! # How long reported endpoints are shown

A report brings the times of its endpoints from the client; the control plane compares them with
its own clock.
-/

namespace Slan.Maps

open Control (ControlSession EndpointReport FreshSession Node NodeEndpoint)
open Networks (Failure Store)

/-! ## Calls -/

/-- What the control plane is asked, or reads of one node. -/
inductive ControlCall where
  | action (a : Action)
  | peerSnapshot (now : Int) (userId nodeId networkId peerNodeId : String)
  | nodeNatType (now : Int) (nodeId networkId : String)

def Action.time? : Action → Option Int
  | .request r => some r.fresh.now
  | .createControlSession now _ _ _ _ => some now
  | .handshake now _ => some now
  | .networkMap now _ _ _ => some now
  | .reportEndpoints now _ _ _ => some now
  | .reportConnectionState now _ _ _ => some now
  | .disconnect now _ _ _ => some now
  | .heartbeat now _ _ _ => some now
  | .closeSession _ _ _ => none
  | .cleanup now => some now

/-- The server's time of a call that reads it. -/
def ControlCall.time? : ControlCall → Option Int
  | .action a => a.time?
  | .peerSnapshot now _ _ _ _ => some now
  | .nodeNatType now _ _ => some now

namespace DbState

variable (relays : Relays) (sameName : String → String → Bool)

/-- The state after a call, whatever it answers. -/
def afterCall (p : DbState) : ControlCall → DbState
  | .action a => p.after relays sameName a
  | .peerSnapshot now userId nodeId networkId peerNodeId =>
    (p.peerSnapshot relays now userId nodeId networkId peerNodeId).2
  | .nodeNatType now nodeId networkId =>
    p.deleteNodeEndpointsBefore nodeId networkId (endpointCutoff now)

def afterCalls (p : DbState) (calls : List ControlCall) : DbState :=
  calls.foldl (afterCall relays sameName) p

/-- The node reports again in the network, or closes its session there. -/
def Ends (p : DbState) (nodeId networkId : String) : ControlCall → Prop
  | .action (.reportEndpoints now userId report endpointId) =>
    report.nodeId = nodeId ∧ report.networkId = networkId ∧
      ∃ map, (p.reportEndpoints relays now userId report endpointId).1 = .ok map
  | .action (.closeSession userId nodeId' networkId') =>
    nodeId' = nodeId ∧ networkId' = networkId ∧
      ∃ node, p.requireNodeSession userId nodeId networkId = .ok node
  | _ => False

/-- None of the calls ends what the node reported. -/
def Undisturbed (p : DbState) (nodeId networkId : String) : List ControlCall → Prop
  | [] => True
  | call :: calls => ¬ p.Ends relays nodeId networkId call ∧
    (p.afterCall relays sameName call).Undisturbed nodeId networkId calls

/-- The node, as its map or a snapshot shows it to a member. -/
def Views (now : Int) (p : DbState) (userId nodeId networkId peerNodeId : String) (peer : Peer) :
    Prop :=
  (∃ map, (p.networkMap relays now userId nodeId networkId).1 = .ok map ∧ peer ∈ map.peers ∧
    peer.nodeId = peerNodeId) ∨
  (p.peerSnapshot relays now userId nodeId networkId peerNodeId).1 = .ok peer

/-! ## The property -/

/-- An endpoint of a report as the views have it. -/
def stampedEndpoint (reportedAt : Int) (endpoint : Control.Endpoint) : Control.Endpoint :=
  { endpoint with updatedAt := Control.autoUpdateTime reportedAt endpoint.updatedAt }

/-- What another node of the network sees of a report, from the state after it on: its endpoints
until the window has passed, and none of them after that. -/
def ShownForWindow (p : DbState) (reportedAt : Int) (report : EndpointReport)
    (userId nodeId : String) : Prop :=
  ∀ calls now, (∀ call ∈ calls, ∀ time ∈ call.time?, reportedAt ≤ time ∧ time ≤ now) →
    reportedAt ≤ now → p.Undisturbed relays sameName report.nodeId report.networkId calls →
    ∀ peer, (p.afterCalls relays sameName calls).Views relays now userId nodeId report.networkId
      report.nodeId peer →
    ∀ endpoint ∈ report.endpoints,
      stampedEndpoint reportedAt endpoint ∈ peer.endpoints ↔
        now ≤ reportedAt + Control.nodeEndpointFreshnessWindow

/-- Another node that may ask for this one. -/
structure MayAsk (p : DbState) (userId nodeId networkId peerNodeId : String) : Prop where
  other : peerNodeId ≠ nodeId
  source : ∃ source, p.requireNodeSession userId nodeId networkId = .ok source
  peer : ∃ record device, p.store.nodeById peerNodeId = some record ∧
    p.store.deviceById record.deviceId = some device

/-! ## Views -/

variable {relays sameName} {p q : DbState} {now : Int}

/-- A view has the endpoints that are read for the node. -/
theorem Views.endpoints {userId nodeId networkId peerNodeId : String} {peer : Peer}
    (hne : peerNodeId ≠ nodeId)
    (h : p.Views relays now userId nodeId networkId peerNodeId peer) :
    peer.endpoints = (p.endpointsForNodeInNetwork relays now peerNodeId networkId).1 := by
  obtain hmap | hsnapshot := h
  · obtain ⟨_, record, _, device, _, hrecord, _, _, _, rfl⟩ := (mem_networkMap hne).mp hmap
    rw [← (nodeById_eq_some_iff.mp hrecord).2]
    rfl
  · obtain ⟨_, record, _, device, _, hrecord, _, _, _, rfl⟩ := peerSnapshot_eq_ok.mp hsnapshot
    rw [← (nodeById_eq_some_iff.mp hrecord).2]
    rfl

theorem mem_endpointsForNodeInNetwork {nodeId networkId : String} {endpoint : Control.Endpoint} :
    endpoint ∈ (p.endpointsForNodeInNetwork relays now nodeId networkId).1 ↔
      (∃ row ∈ p.endpoints, (row.nodeId = nodeId ∧ row.networkId = networkId) ∧
        endpointCutoff now ≤ row.updatedAt ∧
        endpoint = ⟨row.type, row.address, row.updatedAt⟩) ∨
      endpoint ∈ relays.fallbackEndpoints now := by
  rw [endpointsForNodeInNetwork_eq, List.mem_append, List.mem_map]
  refine or_congr (exists_congr fun row => ?_) Iff.rfl
  unfold Control.sortStable freshEndpoints
  rw [List.mem_insertionSort, List.mem_filter, List.mem_filter, Bool.and_eq_true, beq_iff_eq,
    beq_iff_eq, Bool.not_eq_true', decide_eq_false_iff_not, not_lt]
  constructor
  · rintro ⟨⟨⟨hmem, hfresh⟩, hof⟩, rfl⟩
    exact ⟨hmem, hof, hfresh, rfl⟩
  · rintro ⟨hmem, hof, hfresh, rfl⟩
    exact ⟨⟨⟨hmem, hfresh⟩, hof⟩, rfl⟩

theorem updatedAt_of_mem_fallback {endpoint : Control.Endpoint}
    (h : endpoint ∈ relays.fallbackEndpoints now) : endpoint.updatedAt = now := by
  obtain ⟨node, -, rfl⟩ := List.mem_map.mp h
  rfl

/-! ## What a call leaves of the rows -/

section

variable {row : NodeEndpoint}

theorem SameFresh.mem (h : SameFresh now p q) (hmem : row ∈ p.endpoints)
    (hfresh : endpointCutoff now ≤ row.updatedAt) : row ∈ q.endpoints := by
  have hkept : row ∈ p.freshEndpoints now :=
    List.mem_filter.mpr ⟨hmem, by simpa using hfresh⟩
  rw [← h.endpoints] at hkept
  exact List.mem_of_mem_filter hkept

theorem sameFresh_networkMap (p : DbState) (userId nodeId networkId : String) :
    SameFresh now p (p.networkMap relays now userId nodeId networkId).2 := by
  unfold networkMap
  split
  · exact .refl p
  · exact sameFresh_peersOf p _ networkId (listNodesByNetwork p.store networkId)

theorem sameFresh_peerSnapshot (p : DbState) (userId nodeId networkId peerNodeId : String) :
    SameFresh now p (p.peerSnapshot relays now userId nodeId networkId peerNodeId).2 := by
  unfold peerSnapshot
  cases p.requireNodeSession userId nodeId networkId with
  | error err => exact .refl p
  | ok source =>
    cases p.store.nodeById peerNodeId with
    | none => exact .refl p
    | some record =>
      cases hmember : p.store.memberByNetworkDevice networkId record.deviceId with
      | none => simpa only [hmember] using SameFresh.refl p
      | some member =>
        cases hdevice : p.store.deviceById record.deviceId with
        | none => simpa only [hmember, hdevice] using SameFresh.refl p
        | some device =>
          simp only [hmember, hdevice]
          split
          · exact .refl p
          · have hread : SameFresh now p (p.peerOf relays now networkId record device).2 :=
              sameFresh_peerOf p networkId record device
            exact hread

theorem handshake_endpoints (p : DbState) (hello : Control.NodeHello)
    (hmem : row ∈ p.endpoints) (hfresh : endpointCutoff now ≤ row.updatedAt) :
    row ∈ (p.handshake relays now hello).2.endpoints := by
  unfold handshake
  split
  · exact hmem
  split
  · exact hmem
  split
  · exact hmem
  split
  · exact hmem
  split
  · exact hmem
  split
  · exact hmem
  · refine (sameFresh_networkMap _ _ _ _).mem ?_ hfresh
    unfold touchControlSessionByToken
    split <;> exact hmem

theorem nodeId_of_requireNodeSession {userId nodeId networkId : String} {node : Node}
    (h : p.requireNodeSession userId nodeId networkId = .ok node) :
    p.store.nodeById nodeId = some node ∧ node.nodeId = nodeId ∧
      ∃ member, p.store.memberByNetworkDevice networkId node.deviceId = some member := by
  obtain ⟨⟨hfound, -⟩, hmember⟩ := Networks.run_requireNodeSession_eq_ok
    (Prod.ext h rfl : _ = (_, ((Networks.requireNodeSession userId nodeId networkId).run
      p.store).2))
  exact ⟨hfound, (Networks.nodeById_eq_some hfound).2, hmember⟩

/-- A report that is accepted. -/
theorem reportEndpoints_eq_ok {userId : String} {report : EndpointReport}
    {endpointId : Nat → String} {map : NetworkMap}
    (h : p.reportEndpoints relays now userId report endpointId = (.ok map, q)) :
    ∃ node, p.requireNodeSession userId report.nodeId report.networkId = .ok node ∧
      q = (((p.replaceNodeEndpoints report.nodeId report.networkId
        (reportedEndpoints now report report.nodeId endpointId)).updateDeviceStatus node.deviceId
          "online").buildNetworkMap relays now userId node report.networkId).2 := by
  unfold reportEndpoints at h
  split at h
  · cases h
  split at h
  · cases h
  · rename_i node hnode
    split at h
    · cases h
    · obtain ⟨-, rfl⟩ := Prod.mk.inj h
      obtain ⟨-, hid, -⟩ := nodeId_of_requireNodeSession hnode
      refine ⟨node, hnode, ?_⟩
      rw [← hid]
      rfl

/-- A report of another node, or of another network, leaves the row. -/
theorem reportEndpoints_endpoints {userId : String} {report : EndpointReport}
    {endpointId : Nat → String} (hmem : row ∈ p.endpoints)
    (hfresh : endpointCutoff now ≤ row.updatedAt)
    (hends : ¬ (report.nodeId = row.nodeId ∧ report.networkId = row.networkId ∧
      ∃ map, (p.reportEndpoints relays now userId report endpointId).1 = .ok map)) :
    row ∈ (p.reportEndpoints relays now userId report endpointId).2.endpoints := by
  rcases hrun : p.reportEndpoints relays now userId report endpointId with ⟨err | map, q⟩
  · have hsame : q = p := by
      unfold reportEndpoints at hrun
      grind
    rw [hsame]
    exact hmem
  · obtain ⟨node, -, rfl⟩ := reportEndpoints_eq_ok hrun
    refine (sameFresh_peersOf _ _ _ _).mem ?_ hfresh
    refine List.mem_append_left _ (List.mem_filter.mpr ⟨hmem, ?_⟩)
    rw [hrun] at hends
    rw [Bool.not_eq_true', Bool.and_eq_false_iff]
    by_contra hboth
    push Not at hboth
    obtain ⟨hnode, hnetwork⟩ := hboth
    refine hends ⟨?_, ?_, map, rfl⟩
    · exact (beq_iff_eq.mp (eq_true_of_ne_false hnode)).symm
    · exact (beq_iff_eq.mp (eq_true_of_ne_false hnetwork)).symm

theorem closeSession_endpoints {userId nodeId networkId : String} (hmem : row ∈ p.endpoints)
    (hends : ¬ (nodeId = row.nodeId ∧ networkId = row.networkId ∧
      ∃ node, p.requireNodeSession userId row.nodeId row.networkId = .ok node)) :
    row ∈ (p.closeSession userId nodeId networkId).2.endpoints := by
  unfold closeSession
  split
  · exact hmem
  split
  · split <;> exact hmem
  · rename_i node hnode
    refine List.mem_filter.mpr ⟨hmem, ?_⟩
    rw [Bool.not_eq_true', Bool.and_eq_false_iff]
    by_contra hboth
    push Not at hboth
    have hsame := beq_iff_eq.mp (eq_true_of_ne_false hboth.1)
    have hsame' := beq_iff_eq.mp (eq_true_of_ne_false hboth.2)
    rw [hsame, hsame'] at hends
    exact hends ⟨rfl, rfl, node, hnode⟩

theorem endpoints_request (p : DbState) (r : Networks.Request) :
    (p.request sameName r).endpoints = p.endpoints := by
  unfold request
  split
  split
  · rfl
  · unfold keepToken
    split <;> rfl

/-- A call that does not end the report leaves a row that is fresh by the time of the call. -/
theorem afterCall_endpoints {call : ControlCall} (hmem : row ∈ p.endpoints)
    (hfresh : ∀ time ∈ call.time?, endpointCutoff time ≤ row.updatedAt)
    (hends : ¬ p.Ends relays row.nodeId row.networkId call) :
    row ∈ (p.afterCall relays sameName call).endpoints := by
  cases call with
  | peerSnapshot now userId nodeId networkId peerNodeId =>
    exact (sameFresh_peerSnapshot p userId nodeId networkId peerNodeId).mem hmem (hfresh now rfl)
  | nodeNatType now nodeId networkId =>
    have hnow := hfresh now rfl
    refine List.mem_filter.mpr ⟨hmem, ?_⟩
    simp [not_lt.mpr hnow]
  | action a =>
    cases a with
    | request r =>
      change row ∈ (p.request sameName r).endpoints
      rw [endpoints_request]
      exact hmem
    | createControlSession now fresh userId nodeId networkId =>
      change row ∈ (p.createControlSession now fresh userId nodeId networkId).2.endpoints
      unfold createControlSession
      split <;> exact hmem
    | handshake now hello => exact handshake_endpoints p hello hmem (hfresh now rfl)
    | networkMap now userId nodeId networkId =>
      exact (sameFresh_networkMap p userId nodeId networkId).mem hmem (hfresh now rfl)
    | reportEndpoints now userId report endpointId =>
      exact reportEndpoints_endpoints hmem (hfresh now rfl) hends
    | reportConnectionState now userId nodeId report =>
      change row ∈ (p.reportConnectionState now userId nodeId report).2.endpoints
      unfold reportConnectionState
      repeat' split
      all_goals exact hmem
    | disconnect now userId nodeId notice =>
      change row ∈ (p.disconnect now userId nodeId notice).2.endpoints
      unfold disconnect
      split
      · exact hmem
      split <;> exact hmem
    | heartbeat now userId nodeId networkId =>
      change row ∈ (p.heartbeat now userId nodeId networkId).2.endpoints
      unfold heartbeat
      split
      · exact hmem
      split
      · exact hmem
      · unfold touchControlSessionByNode
        split <;> exact hmem
    | closeSession userId nodeId networkId => exact closeSession_endpoints hmem hends
    | cleanup now =>
      have hnow := hfresh now rfl
      refine List.mem_filter.mpr ⟨hmem, ?_⟩
      rw [endpointCutoff] at hnow
      simp [not_lt.mpr hnow]

/-- A whole run. -/
theorem afterCalls_endpoints {calls : List ControlCall} (hmem : row ∈ p.endpoints)
    (hfresh : ∀ call ∈ calls, ∀ time ∈ call.time?, endpointCutoff time ≤ row.updatedAt)
    (hundisturbed : p.Undisturbed relays sameName row.nodeId row.networkId calls) :
    row ∈ (p.afterCalls relays sameName calls).endpoints := by
  induction calls generalizing p with
  | nil => exact hmem
  | cons call calls ih =>
    obtain ⟨hends, hrest⟩ := hundisturbed
    have hkept : row ∈ (p.afterCall relays sameName call).endpoints :=
      afterCall_endpoints hmem (hfresh call List.mem_cons_self) hends
    exact ih hkept (fun c hc => hfresh c (List.mem_cons_of_mem call hc)) hrest

end

/-! ## What is left of the report -/

/-- The rows of a report that is accepted, but for those that are stale by then. -/
theorem mem_of_reportEndpoints {userId : String} {report : EndpointReport}
    {endpointId : Nat → String} {map : NetworkMap} {endpoint : Control.Endpoint}
    (haccepted : p.reportEndpoints relays now userId report endpointId = (.ok map, q))
    (hendpoint : endpoint ∈ report.endpoints)
    (hfresh : endpointCutoff now ≤ (stampedEndpoint now endpoint).updatedAt) :
    ∃ row ∈ q.endpoints, (row.nodeId = report.nodeId ∧ row.networkId = report.networkId) ∧
      stampedEndpoint now endpoint = ⟨row.type, row.address, row.updatedAt⟩ := by
  obtain ⟨node, -, rfl⟩ := reportEndpoints_eq_ok haccepted
  obtain ⟨i, hi, hat⟩ := List.mem_iff_getElem.mp hendpoint
  let row : NodeEndpoint := ⟨endpointId i, report.nodeId, report.networkId, report.natType,
    endpoint.type, endpoint.address, Control.autoUpdateTime now endpoint.updatedAt⟩
  have hrow : row ∈ reportedEndpoints now report report.nodeId endpointId :=
    List.mem_mapIdx.mpr ⟨i, hi, by rw [hat]⟩
  refine ⟨row, ?_, ⟨rfl, rfl⟩, rfl⟩
  exact (sameFresh_peersOf _ _ _ _).mem (List.mem_append_right _ hrow) hfresh

/-- Reports that are stored with the server's own time are shown for the window. -/
theorem shownForWindow_of_stamped {reportedAt : Int} {userId viewerUser viewerNode : String}
    {report : EndpointReport} {endpointId : Nat → String} {map : NetworkMap}
    (haccepted : p.reportEndpoints relays reportedAt userId report endpointId = (.ok map, q))
    (hother : report.nodeId ≠ viewerNode)
    (hstamped : ∀ endpoint ∈ report.endpoints,
      (stampedEndpoint reportedAt endpoint).updatedAt = reportedAt) :
    q.ShownForWindow relays sameName reportedAt report viewerUser viewerNode := by
  intro calls now htimes hafter hundisturbed peer hview endpoint hendpoint
  have hstamp := hstamped endpoint hendpoint
  rw [hview.endpoints hother, mem_endpointsForNodeInNetwork]
  constructor
  · rintro (⟨row, -, -, hfresh, hrow⟩ | hfallback)
    · rw [hrow] at hstamp
      dsimp only at hstamp
      rw [hstamp, endpointCutoff] at hfresh
      omega
    · rw [updatedAt_of_mem_fallback hfallback] at hstamp
      unfold Control.nodeEndpointFreshnessWindow
      omega
  · intro hwindow
    have hfresh : ∀ time, time ≤ now →
        endpointCutoff time ≤ (stampedEndpoint reportedAt endpoint).updatedAt := by
      intro time htime
      rw [hstamp, endpointCutoff]
      omega
    obtain ⟨row, hrow, ⟨hnode, hnetwork⟩, hsame⟩ :=
      mem_of_reportEndpoints haccepted hendpoint (hfresh reportedAt hafter)
    rw [hsame] at hfresh ⊢
    refine .inl ⟨row, ?_, ⟨hnode, hnetwork⟩, hfresh now le_rfl, rfl⟩
    rw [← hnode, ← hnetwork] at hundisturbed
    exact afterCalls_endpoints hrow
      (fun call hcall time htime => hfresh time (htimes call hcall time htime).2) hundisturbed

/-! ## A view at a time -/

theorem requireNodeSession_eq_ok_iff {userId nodeId networkId : String} {node : Node} :
    p.requireNodeSession userId nodeId networkId = .ok node ↔
      (Text.isBlank nodeId = false ∧ Text.isBlank networkId = false) ∧
        (p.store.nodeById nodeId = some node ∧ node.userId = userId) ∧
        (∃ record, p.store.networkById networkId = some record ∧
          (record.ownerUserId = userId ∨ ∃ device ∈ p.store.devicesByUser userId,
            (p.store.memberByNetworkDevice networkId device.deviceId).isSome)) ∧
        ∃ member, p.store.memberByNetworkDevice networkId node.deviceId = some member := by
  constructor
  · intro h
    exact (Networks.run_requireNodeSession_iff.mp (Prod.ext h rfl :
      (Networks.requireNodeSession userId nodeId networkId).run p.store = (_, _))).1
  · intro h
    exact congrArg Prod.fst (Networks.run_requireNodeSession_iff.mpr ⟨h, rfl⟩)

/-- Who may act as a node does not depend on the status of devices. -/
theorem requireNodeSession_updateDeviceStatus {userId nodeId networkId deviceId status : String}
    {node : Node} (h : p.requireNodeSession userId nodeId networkId = .ok node) :
    (p.updateDeviceStatus deviceId status).requireNodeSession userId nodeId networkId =
      .ok node := by
  obtain ⟨hnamed, hnode, ⟨record, hrecord, haccess⟩, hmember⟩ := requireNodeSession_eq_ok_iff.mp h
  refine requireNodeSession_eq_ok_iff.mpr ⟨hnamed, hnode, ⟨record, hrecord, ?_⟩, hmember⟩
  refine haccess.imp_right fun ⟨device, hdevice, hjoined⟩ => ?_
  obtain ⟨hmem, howner⟩ := Relation.mem_select.mp (Relation.mem_orderBy.mp hdevice)
  refine ⟨_, Relation.mem_orderBy.mpr (Relation.mem_select.mpr
    ⟨mem_updateDeviceStatus.mpr ⟨device, hmem, rfl⟩, ?_⟩), ?_⟩
  · split <;> exact howner
  · split <;> exact hjoined

theorem seenBefore_ranks : Ranking.Ranks seenBefore fun row =>
    toLex (OrderDual.toDual row.lastSeenAt,
      toLex (OrderDual.toDual row.connectedAt, row.controlSessionId)) := by
  intro a b
  unfold seenBefore
  simp only [Prod.Lex.toLex_lt_toLex, OrderDual.toDual_lt_toDual, EmbeddingLike.apply_eq_iff_eq]
  grind

/-- A session that has just been made is fresh, or another of the node is. -/
theorem hasFreshControlSession_of_mem {s : Store} {session : ControlSession}
    (hmem : session ∈ s.controlSessions) (hseen : session.lastSeenAt = now) (hnow : 0 < now) :
    hasFreshControlSession s session.nodeId session.networkId now = true := by
  have hrow : session ∈ s.controlSessions.filter fun row =>
      row.nodeId == session.nodeId && row.networkId == session.networkId := by
    simpa using hmem
  unfold hasFreshControlSession
  cases hlatest : latestControlSessionByNode s session.nodeId session.networkId with
  | none =>
    have hempty := List.head?_eq_none_iff.mp hlatest
    have hsorted := (List.mem_insertionSort fun a b => seenBefore b a = false).mpr hrow
    unfold Control.sortStable at hempty
    rw [hempty] at hsorted
    cases hsorted
  | some latest =>
    have hkey := seenBefore_ranks.key_le_of_head? hlatest hrow
    have hlater : session.lastSeenAt ≤ latest.lastSeenAt := by
      rw [Prod.Lex.toLex_le_toLex] at hkey
      exact hkey.elim le_of_lt fun hsame => le_of_eq (OrderDual.toDual_inj.mp hsame.1).symm
    unfold controlSessionIsFresh Control.controlSessionFreshnessWindow
    grind

/-- Once the node has a new session, who may ask for it gets a snapshot. -/
theorem exists_view {userId viewerUser viewerNode networkId peerNodeId : String} {node : Node}
    (hmay : q.MayAsk viewerUser viewerNode networkId peerNodeId)
    (hpeer : q.requireNodeSession userId peerNodeId networkId = .ok node) (hnow : 0 < now)
    (fresh : FreshSession) :
    ∃ peer, (q.createControlSession now fresh userId peerNodeId networkId).2.Views relays now
      viewerUser viewerNode networkId peerNodeId peer := by
  obtain ⟨-, ⟨source, hsource⟩, record, device, hrecord, hdevice⟩ := hmay
  have hcreated : (q.createControlSession now fresh userId peerNodeId networkId).2 =
      q.createStoredControlSession now fresh userId node.deviceId peerNodeId networkId := by
    unfold createControlSession
    rw [hpeer]
  rw [hcreated]
  obtain ⟨hfound, -, member, hmember⟩ := nodeId_of_requireNodeSession hpeer
  obtain rfl := Option.some.inj (hrecord.symm.trans hfound)
  refine ⟨_, .inr (peerSnapshot_eq_ok.mpr ⟨source, record, member, device, ?_, hrecord, hmember,
    hdevice, ?_, rfl⟩)⟩
  · have hstays := requireNodeSession_eq_ok_iff.mp hsource
    exact requireNodeSession_eq_ok_iff.mpr hstays
  · exact @hasFreshControlSession_of_mem now
      (q.createStoredControlSession now fresh userId record.deviceId peerNodeId networkId).store
      ⟨fresh.controlSessionId, userId, record.deviceId, peerNodeId, networkId, fresh.sessionToken,
        now, now⟩ (List.mem_append_right _ List.mem_cons_self) rfl hnow

theorem endpoints_createControlSession (p : DbState) (fresh : FreshSession)
    (userId nodeId networkId : String) :
    (p.createControlSession now fresh userId nodeId networkId).2.endpoints = p.endpoints := by
  unfold createControlSession
  split <;> rfl

/-- Who has reported may act as the node still. -/
theorem requireNodeSession_of_reportEndpoints {userId : String} {report : EndpointReport}
    {endpointId : Nat → String} {map : NetworkMap}
    (haccepted : p.reportEndpoints relays now userId report endpointId = (.ok map, q)) :
    ∃ node, q.requireNodeSession userId report.nodeId report.networkId = .ok node := by
  obtain ⟨node, hnode, rfl⟩ := reportEndpoints_eq_ok haccepted
  refine ⟨node, ?_⟩
  let replaced := p.replaceNodeEndpoints report.nodeId report.networkId
    (reportedEndpoints now report report.nodeId endpointId)
  have hmarked : (replaced.updateDeviceStatus node.deviceId "online").requireNodeSession userId
      report.nodeId report.networkId = .ok node := requireNodeSession_updateDeviceStatus hnode
  unfold requireNodeSession at hmarked ⊢
  rw [store_buildNetworkMap]
  exact hmarked

/-- Reports are shown for the window just where each endpoint has the server's time, or none. -/
theorem shownForWindow_iff {reportedAt : Int} {userId viewerUser viewerNode : String}
    {report : EndpointReport} {endpointId : Nat → String} {map : NetworkMap}
    (haccepted : p.reportEndpoints relays reportedAt userId report endpointId = (.ok map, q))
    (hnow : 0 < reportedAt) (hmay : q.MayAsk viewerUser viewerNode report.networkId report.nodeId) :
    q.ShownForWindow relays sameName reportedAt report viewerUser viewerNode ↔
      ∀ endpoint ∈ report.endpoints, endpoint.updatedAt = reportedAt ∨ endpoint.updatedAt = 0 := by
  have hstamp : ∀ endpoint : Control.Endpoint,
      (stampedEndpoint reportedAt endpoint).updatedAt = reportedAt ↔
        endpoint.updatedAt = reportedAt ∨ endpoint.updatedAt = 0 := by
    intro endpoint
    unfold stampedEndpoint Control.autoUpdateTime
    grind
  simp only [← hstamp]
  refine ⟨fun hshown endpoint hendpoint => ?_, shownForWindow_of_stamped haccepted hmay.other⟩
  obtain ⟨node, hnode⟩ := requireNodeSession_of_reportEndpoints haccepted
  -- with a new session of the node, there is a view at any time
  have hview : ∀ time, reportedAt ≤ time →
      (stampedEndpoint reportedAt endpoint ∈
        (q.endpointsForNodeInNetwork relays time report.nodeId report.networkId).1 ↔
          time ≤ reportedAt + Control.nodeEndpointFreshnessWindow) := by
    intro time htime
    let fresh : FreshSession := ⟨"ctrl-new", "token-new"⟩
    let call : ControlCall :=
      .action (.createControlSession time fresh userId report.nodeId report.networkId)
    obtain ⟨peer, hpeer⟩ := @exists_view relays q time userId viewerUser viewerNode
      report.networkId report.nodeId node hmay hnode (hnow.trans_le htime) fresh
    have hat := hshown [call] time (by simp [call, ControlCall.time?, Action.time?, htime]) htime
      ⟨id, trivial⟩ peer hpeer endpoint hendpoint
    rw [hpeer.endpoints hmay.other, mem_endpointsForNodeInNetwork,
      endpoints_createControlSession] at hat
    rw [mem_endpointsForNodeInNetwork]
    exact hat
  have hwindow : (0 : Int) ≤ Control.nodeEndpointFreshnessWindow := by decide
  have hlate : reportedAt ≤ (stampedEndpoint reportedAt endpoint).updatedAt := by
    have hlast := (hview (reportedAt + Control.nodeEndpointFreshnessWindow) (by omega)).mpr le_rfl
    rcases mem_endpointsForNodeInNetwork.mp hlast with ⟨row, -, -, hfresh, hrow⟩ | hfallback
    · rw [hrow]
      unfold endpointCutoff at hfresh
      dsimp only
      omega
    · rw [updatedAt_of_mem_fallback hfallback]
      omega
  refine le_antisymm (not_lt.mp fun hafter => ?_) hlate
  have hgone := hview (reportedAt + Control.nodeEndpointFreshnessWindow + 1) (by omega)
  obtain ⟨row, hrow, hof, hsame⟩ := mem_of_reportEndpoints haccepted hendpoint
    (by unfold endpointCutoff; omega)
  rw [hsame] at hafter hgone
  have hstill := hgone.mp (mem_endpointsForNodeInNetwork.mpr
    (.inl ⟨row, hrow, hof, by unfold endpointCutoff; dsimp only at hafter; omega, rfl⟩))
  omega

/-! ## A client whose clock is behind -/

/-- What `node-b` reports, and when it observed it by its own clock. -/
def homeReport (observedAt : Int) : EndpointReport :=
  ⟨"net-a", "node-b", "open", [⟨"udp", "10.0.0.3:7000", observedAt⟩]⟩

def connectedHome : DbState :=
  ((homeState "online").createControlSession 1000 ⟨"ctrl-d", "token-d"⟩ "user-a" "node-b" "net-a").2

/-- The report reaches the server at 1000. -/
def reportedHome (observedAt : Int) : Except Failure NetworkMap × DbState :=
  connectedHome.reportEndpoints noRelays 1000 "user-a" (homeReport observedAt) fun _ => "ep-a"

theorem slow_clock_not_shown :
    (∃ map, (reportedHome 400).1 = .ok map) ∧
      ¬(reportedHome 400).2.ShownForWindow noRelays (· == ·) 1000 (homeReport 400) "user-a"
        "node-a" := by
  refine ⟨⟨_, rfl⟩, fun h => ?_⟩
  have hsnapshot : ((reportedHome 400).2.peerSnapshot noRelays 1000 "user-a" "node-a" "net-a"
      "node-b").1 = .ok ⟨"node-b", "dev-b", "public-b", "online", true, ["10.0.0.3"], [],
        ["10.0.0.0/16"]⟩ := by decide
  have hshown := h [] 1000 (List.forall_mem_nil _) le_rfl trivial _ (.inr hsnapshot) _
    List.mem_cons_self
  exact absurd (hshown.mpr (by decide)) List.not_mem_nil

theorem server_time_shown :
    (reportedHome 1000).2.ShownForWindow noRelays (· == ·) 1000 (homeReport 1000) "user-a"
      "node-a" := by
  obtain ⟨map, hmap⟩ : ∃ map, connectedHome.reportEndpoints noRelays 1000 "user-a"
      (homeReport 1000) (fun _ => "ep-a") = (.ok map, (reportedHome 1000).2) := ⟨_, rfl⟩
  refine (shownForWindow_iff hmap (by decide) ⟨by decide, ⟨_, rfl⟩, _, _, rfl, rfl⟩).mpr ?_
  intro endpoint hendpoint
  rw [List.mem_singleton.mp hendpoint]
  exact .inl rfl

end DbState

end Slan.Maps
