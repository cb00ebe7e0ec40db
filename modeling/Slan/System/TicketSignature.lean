import Slan.Lib.Transition
import Slan.Control.RelayTickets
import Slan.Relay.Validator

/-! # What the signature of an issued ticket binds -/

namespace Slan.System

open Transition

/-! ## Issued tickets are signed -/

/-- A request for a ticket, with all that the answer depends on. -/
structure TicketCall where
  directory : Control.Directory
  health : Control.RelayHealth
  fresh : Control.FreshIds
  now : Int
  later : Int
  userId : String
  request : Control.RelayTicketRequest

inductive TicketAction where
  | issue (call : TicketCall)
  | prune (now : Int)

def TicketCall.run (call : TicketCall) (mac : Mac) (cfg : Control.RelayConfig)
    (cache : Control.RelayTicketCache) :
    Except Control.ServiceError Control.RelayTicket × Control.RelayTicketCache :=
  Control.issueRelayTicket mac cfg call.directory call.health cache call.fresh call.now call.later
    call.userId call.request

/-- The cache over time; everything else may change between two calls. -/
def ticketStep (mac : Mac) (cfg : Control.RelayConfig) (cache : Control.RelayTicketCache) :
    TicketAction → Control.RelayTicketCache → Prop
  | .issue call, cache' => cache' = (call.run mac cfg cache).2
  | .prune now, cache' => cache' = Control.pruneExpiredRelayTickets cache now

/-- The ticket is one that some call builds, from its own random digits. -/
def Signed (mac : Mac) (cfg : Control.RelayConfig) (t : Control.RelayTicket) : Prop :=
  t.signature = mac.sign cfg.ticketSigningSecret (Control.relayTicketSigningPayload t)

section Issued

variable {mac : Mac} {cfg : Control.RelayConfig}

theorem signed_buildRelayTicket (fresh : Control.FreshIds) (req : Control.RelayTicketRequest)
    (cluster : Control.RelayClusterView) (primaryNode : Control.RelayNodeConfig)
    (expiresAt : Int) :
    Signed mac cfg (Control.buildRelayTicket mac cfg fresh req cluster primaryNode expiresAt) :=
  rfl

/-- Every ticket in the cache has a property of tickets. -/
def AllCached (P : Control.RelayTicket → Prop) (cache : Control.RelayTicketCache) : Prop :=
  ∀ key cached, cache.get? key = some cached → P cached.ticket

theorem AllCached.prune {P : Control.RelayTicket → Prop} {cache : Control.RelayTicketCache}
    (h : AllCached P cache) (now : Int) :
    AllCached P (Control.pruneExpiredRelayTickets cache now) :=
  fun key cached hcached => h key cached (Control.get?_of_pruneExpiredRelayTickets hcached)

theorem AllCached.store {P : Control.RelayTicket → Prop} {cache : Control.RelayTicketCache}
    (h : AllCached P cache) (now : Int) (req : Control.RelayTicketRequest)
    {ticket : Control.RelayTicket} (hticket : P ticket) :
    AllCached P (Control.storeRelayTicket cache now req ticket) := by
  unfold Control.storeRelayTicket
  split
  · exact h
  · intro key cached hcached
    rw [Table.get?_put] at hcached
    split at hcached
    · rw [← Option.some.inj hcached]
      exact hticket
    · exact h key cached hcached

/-- A ticket out of the cache was in it, and a lookup adds none. -/
theorem AllCached.lookup {P : Control.RelayTicket → Prop} {cache : Control.RelayTicketCache}
    (h : AllCached P cache) (now : Int) (req : Control.RelayTicketRequest) :
    (∀ ticket, (Control.relayTicketFromCache cache now req).1 = some ticket → P ticket) ∧
      AllCached P (Control.relayTicketFromCache cache now req).2 := by
  obtain ⟨hfound, hkept⟩ := Control.relayTicketFromCache_spec
    (rfl : Control.relayTicketFromCache cache now req = (_, _))
  constructor
  · intro ticket hticket
    obtain ⟨validUntil, hcached, -⟩ := (hfound ticket).mp hticket
    exact h _ _ hcached
  · intro key cached hcached
    exact h key cached (hkept key cached hcached)

variable (mac cfg) in
/-- A call returns an error, or a ticket out of the cache, or one that it builds and caches. -/
theorem TicketCall.run_cases (call : TicketCall) (cache : Control.RelayTicketCache) :
    (∃ err, call.run mac cfg cache = (.error err, cache)) ∨
    ∃ ticket cache', call.run mac cfg cache = (.ok ticket, cache') ∧
      ((∀ P, AllCached P cache → P ticket ∧ AllCached P cache') ∨
        ∃ req cluster primaryNode expiresAt,
          ticket = Control.buildRelayTicket mac cfg call.fresh req cluster primaryNode expiresAt ∧
          ∀ P, AllCached P cache → P ticket → AllCached P cache') := by
  unfold TicketCall.run
  rcases Control.issueRelayTicket_cases mac cfg call.directory call.health cache call.fresh call.now
    call.later call.userId call.request with ⟨err, herr⟩ |
    ⟨cluster, primaryNode, rest, req, found, cache', ticket, _, _, _, _, hlookup, hrun⟩
  · exact .inl ⟨err, herr⟩
  · right
    have hkept : ∀ P, AllCached P cache → (∀ t, found = some t → P t) ∧ AllCached P cache' := by
      intro P hP
      have hboth := hP.lookup call.now req
      rw [hlookup] at hboth
      exact hboth
    rcases hrun with ⟨hfound, hrun⟩ | ⟨_, hfresh, hrun⟩
    · exact ⟨ticket, cache', hrun, .inl fun P hP => ⟨(hkept P hP).1 ticket hfound, (hkept P hP).2⟩⟩
    · exact ⟨ticket, _, hrun, .inr ⟨req, cluster, primaryNode, _, hfresh,
        fun P hP hticket => (hkept P hP).2.store call.later req hticket⟩⟩

/-- What holds of every ticket that a call builds holds of every ticket it returns. -/
theorem AllCached.run {P : Control.RelayTicket → Prop} {cache : Control.RelayTicketCache}
    (h : AllCached P cache) (call : TicketCall)
    (hbuild : ∀ req cluster primaryNode expiresAt, P (Control.buildRelayTicket mac cfg call.fresh
      req cluster primaryNode expiresAt)) :
    (∀ ticket, (call.run mac cfg cache).1 = .ok ticket → P ticket) ∧
      AllCached P (call.run mac cfg cache).2 := by
  rcases call.run_cases mac cfg cache with ⟨err, hrun⟩ | ⟨ticket, cache', hrun, hticket⟩
  · rw [hrun]
    exact ⟨fun ticket hticket => (by cases hticket), h⟩
  · have hP : P ticket ∧ AllCached P cache' := by
      rcases hticket with hfound | ⟨req, cluster, primaryNode, expiresAt, rfl, hstored⟩
      · exact hfound P h
      · exact ⟨hbuild _ _ _ _, hstored P h (hbuild _ _ _ _)⟩
    rw [hrun]
    refine ⟨fun ticket' heq => ?_, hP.2⟩
    obtain rfl := Except.ok.inj heq
    exact hP.1

theorem allCached_of_reachable {cache : Control.RelayTicketCache}
    (h : Reachable (ticketStep mac cfg) ∅ cache) : AllCached (Signed mac cfg) cache := by
  refine h.invariant (AllCached (Signed mac cfg)) ?_ ?_
  · intro key cached hcached
    rw [Table.get?_empty] at hcached
    cases hcached
  · intro cache action cache' hcache hstep
    cases action with
    | issue call =>
      rw [show cache' = _ from hstep]
      exact (hcache.run call fun req cluster primaryNode expiresAt =>
        signed_buildRelayTicket call.fresh req cluster primaryNode expiresAt).2
    | prune now =>
      rw [show cache' = _ from hstep]
      exact hcache.prune now

theorem signed_of_issued {cache : Control.RelayTicketCache} {call : TicketCall}
    {t : Control.RelayTicket} (h : Reachable (ticketStep mac cfg) ∅ cache)
    (ht : (call.run mac cfg cache).1 = .ok t) : Signed mac cfg t :=
  ((allCached_of_reachable h).run call fun req cluster primaryNode expiresAt =>
    signed_buildRelayTicket call.fresh req cluster primaryNode expiresAt).1 t ht

end Issued

/-! ## Two tickets with one signature -/

/-- The same ticket, as far as a session depends on it. -/
structure SameGrant (t : Control.RelayTicket) (u : Relay.RelayTicket) : Prop where
  ticketId : u.ticketId = t.ticketId
  networkId : u.networkId = t.networkId
  sessionId : u.sessionId = t.sessionId
  srcNodeId : u.srcNodeId = t.srcNodeId
  dstNodeId : u.dstNodeId = t.dstNodeId
  derpClusterId : u.derpClusterId.getD "" = t.derpClusterId
  relayUrl : u.relayUrl = t.relayUrl
  expiresAt : u.expiresAt = t.expiresAt
  sessionKey : u.sessionKey = t.sessionKey
  allowedDerpNodeIds : ∀ nodeId, nodeId ∈ u.allowedDerpNodeIds ↔ nodeId ∈ t.allowedDerpNodeIds

/-- The fields of a payload, the country and the city being one. -/
def grantFields : List String → List String
  | [ticketId, networkId, sessionId, src, dst, cluster, country, city, nodeIds, url, expires, key] =>
    [ticketId, networkId, sessionId, src, dst, cluster, country ++ "|" ++ city, nodeIds, url,
      expires, key]
  | fields => fields

theorem join_grantFields (fields : List String) :
    "|".intercalate (grantFields fields) = "|".intercalate fields := by
  unfold grantFields
  split
  · simp only [String.intercalate_cons_cons, String.append_assoc]
  · rfl

def bars (s : String) : Nat := s.toList.count '|'

def commas (s : String) : Nat := s.toList.count ','

/-- Field by field as many separators in the one ticket as in the other. -/
structure SeparatorsAligned (t : Control.RelayTicket) (u : Relay.RelayTicket) : Prop where
  fields : List.Forall₂ (fun x y => bars x = bars y)
    (grantFields (Control.relayTicketSigningFields t)) (grantFields u.signingFields)
  nodeIds : List.Forall₂ (fun x y => commas x = commas y) (Text.sorted t.allowedDerpNodeIds)
    (Text.sorted u.allowedDerpNodeIds)

/-- Both sides write the payload the same way, so with the separators in the same places its
fields are the same. -/
theorem sameGrant_of_aligned {t : Control.RelayTicket} {u : Relay.RelayTicket}
    (hpayload : Control.relayTicketSigningPayload t = u.signingPayload)
    (h : SeparatorsAligned t u) : SameGrant t u := by
  have hjoin : "|".intercalate (grantFields (Control.relayTicketSigningFields t)) =
      "|".intercalate (grantFields u.signingFields) := by
    rw [join_grantFields, join_grantFields]
    exact hpayload
  have hfields := Text.join_inj_of_count h.fields hjoin
  simp only [Control.relayTicketSigningFields, Relay.RelayTicket.signingFields, grantFields,
    List.cons.injEq, and_true] at hfields
  obtain ⟨h1, h2, h3, h4, h5, h6, _, hnodes, h9, h10, h11⟩ := hfields
  have hsorted := Text.join_inj_of_count h.nodeIds hnodes
  refine ⟨h1.symm, h2.symm, h3.symm, h4.symm, h5.symm, h6.symm, h9.symm, h10.symm, h11.symm, ?_⟩
  intro nodeId
  rw [← (Text.sorted_perm u.allowedDerpNodeIds).mem_iff, ← hsorted,
    (Text.sorted_perm t.allowedDerpNodeIds).mem_iff]

theorem aligned_of_sameGrant {t : Control.RelayTicket} {u : Relay.RelayTicket}
    (hpayload : Control.relayTicketSigningPayload t = u.signingPayload)
    (hnodup : t.allowedDerpNodeIds.Nodup) (hcountry : u.countryCode.getD "" = t.countryCode)
    (hcity : u.cityCode.getD "" = t.cityCode) (h : SameGrant t u) : SeparatorsAligned t u := by
  have hnodes : ",".intercalate (Text.sorted t.allowedDerpNodeIds) =
      ",".intercalate (Text.sorted u.allowedDerpNodeIds) := by
    unfold Control.relayTicketSigningPayload Control.relayTicketSigningFields
      Relay.RelayTicket.signingPayload Relay.RelayTicket.signingFields at hpayload
    rw [h.ticketId, h.networkId, h.sessionId, h.srcNodeId, h.dstNodeId, h.derpClusterId, hcountry,
      hcity, h.relayUrl, h.expiresAt, h.sessionKey] at hpayload
    simp only [String.intercalate_cons_cons, String.append_assoc, String.append_right_inj]
      at hpayload
    exact String.append_left_inj _ |>.mp hpayload
  have hsorted := Text.sorted_eq_of_join hnodup (fun nodeId => (h.allowedDerpNodeIds nodeId).symm)
    hnodes
  have hfields : u.signingFields = Control.relayTicketSigningFields t := by
    unfold Control.relayTicketSigningFields Relay.RelayTicket.signingFields
    rw [h.ticketId, h.networkId, h.sessionId, h.srcNodeId, h.dstNodeId, h.derpClusterId, hcountry,
      hcity, h.relayUrl, h.expiresAt, h.sessionKey, hsorted]
  constructor
  · rw [hfields]
    exact List.forall₂_same.mpr fun _ _ => rfl
  · rw [hsorted]
    exact List.forall₂_same.mpr fun _ _ => rfl

/-- A ticket that the HMAC check accepts under the signature of an issued ticket is the issued
one, provided its separators are in the places of the issued one's; and only then, where no node
id is allowed twice and the country and the city agree. -/
theorem signature_binds (mac : Mac) (cfg : Control.RelayConfig) (cache : Control.RelayTicketCache)
    (call : TicketCall) (t : Control.RelayTicket) (u : Relay.RelayTicket)
    (hmac : Function.Injective (mac cfg.ticketSigningSecret))
    (hcache : Reachable (ticketStep mac cfg) ∅ cache)
    (ht : (call.run mac cfg cache).1 = .ok t) (hu : u.signature = t.signature)
    (haccept : Relay.HmacTicketSignatureValidator.validate ⟨cfg.ticketSigningSecret⟩ mac u =
      .ok ()) :
    (SeparatorsAligned t u → SameGrant t u) ∧
      (t.allowedDerpNodeIds.Nodup → u.countryCode.getD "" = t.countryCode →
        u.cityCode.getD "" = t.cityCode → SameGrant t u → SeparatorsAligned t u) := by
  have hsigned := signed_of_issued hcache ht
  have htag : mac.sign cfg.ticketSigningSecret u.signingPayload = u.signature := by
    by_contra hne
    simp [Relay.HmacTicketSignatureValidator.validate, hne] at haccept
  have hpayload : Control.relayTicketSigningPayload t = u.signingPayload := by
    apply Mac.sign_injective hmac
    rw [htag, hu]
    exact hsigned.symm
  exact ⟨sameGrant_of_aligned hpayload, aligned_of_sameGrant hpayload⟩

section Samples

def sampleConfig : Control.RelayConfig where
  defaultClusterId := "cn-east"
  ticketSigningSecret := "relay-secret"
  countries := [⟨"CN", "China", [⟨"sh", "Shanghai", [⟨"cn-east", "",
    [⟨"relay-1", "udp", "127.0.0.1:9000", 1, []⟩]⟩]⟩]⟩]

/-- One user with a device in a network of its own. -/
def sampleDirectory : Control.Directory where
  nodes := ∅
  devices := (∅ : Table Control.Device).put "dev-1" ⟨"dev-1", "user-1", "online"⟩
  networks := (∅ : Table Control.NetworkRecord).put "net-1" ⟨"net-1", "user-1"⟩
  members := [⟨"net-1", "dev-1"⟩]

/-- The directory after the user has registered one more node. -/
def withNode (d : Control.Directory) (nodeId : String) : Control.Directory :=
  match d.registerNode "user-1" ⟨"dev-1", nodeId, "key", []⟩ with
  | .ok (_, d) => d
  | .error _ => d

def sampleCall (src dst : String) : TicketCall where
  directory := withNode (withNode sampleDirectory src) dst
  health := fun _ => none
  fresh := ⟨"000000000001", "000000000002", "000000000003"⟩
  now := 0
  later := 0
  userId := "user-1"
  request := ⟨"net-1", src, dst, "", [], "relay_required"⟩

/-- The ticket issued to a node that registered as `a|b`. -/
def issuedTicket : Control.RelayTicket where
  ticketId := "ticket-000000000001"
  networkId := "net-1"
  sessionId := "session-000000000002"
  srcNodeId := "a|b"
  dstNodeId := "c"
  derpClusterId := "cn-east"
  countryCode := "CN"
  cityCode := "sh"
  allowedDerpNodeIds := ["relay-1"]
  relayUrl := "udp://127.0.0.1:9000"
  expiresAt := "1970-01-01T00:10:00Z"
  sessionKey := "cmVsYXktc2Vzc2lvbjp0aWNrZXQtMDAwMDAwMDAwMDAxOmF8YjpjOjYwMDp0b2stMDAwMDAwMDAwMDAz"
  signature := "14ZGq025r3sjsdKfpxwPD-v116CK-eCBiKRoWY2sxzs"

/-- The same with other ends. -/
def presentedTicket (src dst : String) : Relay.RelayTicket where
  ticketId := issuedTicket.ticketId
  networkId := issuedTicket.networkId
  sessionId := issuedTicket.sessionId
  srcNodeId := src
  dstNodeId := dst
  derpClusterId := some issuedTicket.derpClusterId
  countryCode := some issuedTicket.countryCode
  cityCode := some issuedTicket.cityCode
  allowedDerpNodeIds := issuedTicket.allowedDerpNodeIds
  relayUrl := issuedTicket.relayUrl
  expiresAt := issuedTicket.expiresAt
  sessionKey := issuedTicket.sessionKey
  signature := issuedTicket.signature

/-- HMAC-SHA256 on the payload of the issued ticket, under the secret of the configuration. -/
def sampleMac : Mac :=
  .withTag (Control.relayTicketSigningPayload issuedTicket)
    [215, 134, 70, 171, 77, 185, 175, 123, 35, 177, 210, 159, 167, 28, 15, 15, 235, 245, 215, 160,
      138, 249, 224, 129, 136, 164, 104, 89, 141, 172, 199, 59]

theorem sampleCall_evaluated :
    ((sampleCall "a|b" "c").run sampleMac sampleConfig ∅).1 = .ok issuedTicket ∧
      Relay.HmacTicketSignatureValidator.validate ⟨sampleConfig.ticketSigningSecret⟩ sampleMac
        (presentedTicket "a|b" "c") = .ok () ∧
      Relay.HmacTicketSignatureValidator.validate ⟨sampleConfig.ticketSigningSecret⟩ sampleMac
        (presentedTicket "a" "b|c") = .ok () := by
  decide +kernel

end Samples

/-- The issued ticket itself. -/
theorem signature_binds_issued :
    (SeparatorsAligned issuedTicket (presentedTicket "a|b" "c") →
        SameGrant issuedTicket (presentedTicket "a|b" "c")) ∧
      (issuedTicket.allowedDerpNodeIds.Nodup →
        (presentedTicket "a|b" "c").countryCode.getD "" = issuedTicket.countryCode →
        (presentedTicket "a|b" "c").cityCode.getD "" = issuedTicket.cityCode →
        SameGrant issuedTicket (presentedTicket "a|b" "c") →
          SeparatorsAligned issuedTicket (presentedTicket "a|b" "c")) :=
  signature_binds sampleMac sampleConfig ∅ (sampleCall "a|b" "c") issuedTicket
    (presentedTicket "a|b" "c") (Mac.withTag_injective _ _ _) .start sampleCall_evaluated.1 rfl
    sampleCall_evaluated.2.1

/-- The signature for `a|b` and `c` is also that for `a` and `b|c`. -/
theorem signature_of_other_ends : ¬∀ mac cfg cache call t u,
    Function.Injective (mac cfg.ticketSigningSecret) → Reachable (ticketStep mac cfg) ∅ cache →
      (TicketCall.run call mac cfg cache).1 = .ok t → u.signature = t.signature →
        Relay.HmacTicketSignatureValidator.validate ⟨cfg.ticketSigningSecret⟩ mac u = .ok () →
          SameGrant t u := by
  intro h
  have hsame := h sampleMac sampleConfig ∅ (sampleCall "a|b" "c") issuedTicket
    (presentedTicket "a" "b|c") (Mac.withTag_injective _ _ _) .start sampleCall_evaluated.1 rfl
    sampleCall_evaluated.2.2
  exact absurd hsame.srcNodeId (by decide)

end Slan.System
