import Slan.Lib.Rfc3339
import Slan.Lib.Mac
import Slan.Control.Directory
import Slan.Control.RelayClusters

/-! # `control_bootstrap.go`: relay tickets and their cache

Instants are nanoseconds from the Unix epoch. The random parts of new ids come in as arguments.
-/

namespace Slan.Control

structure RelayTicketRequest where
  networkId : String
  srcNodeId : String
  dstNodeId : String
  derpClusterId : String
  preferredDerpNodeIds : List String
  reason : String
  deriving DecidableEq, Repr

/-- The ticket as the control plane issues it. -/
structure RelayTicket where
  ticketId : String
  networkId : String
  sessionId : String
  srcNodeId : String
  dstNodeId : String
  derpClusterId : String
  countryCode : String
  cityCode : String
  allowedDerpNodeIds : List String
  relayUrl : String
  expiresAt : String
  sessionKey : String
  signature : String
  deriving DecidableEq, Repr

def second : Int := 1000000000

/-- The random hexadecimal digits that `NewID` draws for one ticket. -/
structure FreshIds where
  ticket : String
  session : String
  token : String
  deriving DecidableEq, Repr

def newId (idPrefix random : String) : String := idPrefix ++ "-" ++ random

def opaqueToken (kind subject random : String) : String :=
  String.ofList (Base64.encode Base64.urlSafeNoPad
    (Text.utf8 (kind ++ ":" ++ subject ++ ":" ++ newId "tok" random)))

def newRelaySessionKey (ticketId srcNodeId dstNodeId : String) (expiresAt : Int)
    (random : String) : String :=
  opaqueToken "relay-session"
    (ticketId ++ ":" ++ srcNodeId ++ ":" ++ dstNodeId ++ ":" ++ toString (expiresAt.fdiv second))
    random

/-- The twelve parts of the payload that the relay hashes as well. -/
def relayTicketSigningFields (ticket : RelayTicket) : List String :=
  [ticket.ticketId, ticket.networkId, ticket.sessionId, ticket.srcNodeId, ticket.dstNodeId,
    ticket.derpClusterId, ticket.countryCode, ticket.cityCode,
    ",".intercalate (Text.sorted ticket.allowedDerpNodeIds), ticket.relayUrl, ticket.expiresAt,
    ticket.sessionKey]

def relayTicketSigningPayload (ticket : RelayTicket) : String :=
  "|".intercalate (relayTicketSigningFields ticket)

/-- `mac` is HMAC-SHA256. -/
def signRelayTicket (mac : Mac) (cfg : RelayConfig) (ticket : RelayTicket) : String :=
  mac.sign cfg.ticketSigningSecret (relayTicketSigningPayload ticket)

/-! ## Requests -/

/-- The preferred ids that belong to the cluster, each once. -/
def keepAllowed (allowed : List String) : List String → List String → List String
  | _, [] => []
  | seen, nodeId :: rest =>
    let nodeId := Text.trim nodeId
    if nodeId = "" ∨ nodeId ∉ allowed ∨ nodeId ∈ seen then keepAllowed allowed seen rest
    else nodeId :: keepAllowed allowed (nodeId :: seen) rest

def normalizePreferredRelayNodeIds (preferredNodeIds : List String)
    (clusterNodes : List RelayNodeConfig) : List String :=
  let defaultNodeIds :=
    (clusterNodes.map RelayNodeConfig.nodeId).filter fun nodeId => !Text.isBlank nodeId
  let normalized := keepAllowed defaultNodeIds [] preferredNodeIds
  if normalized.isEmpty then Text.sorted defaultNodeIds else Text.sorted normalized

def normalizeRelayTicketRequest (req : RelayTicketRequest) (cluster : RelayClusterView) :
    RelayTicketRequest :=
  { req with
    derpClusterId := firstNonEmpty [Text.trim req.derpClusterId, cluster.clusterId]
    preferredDerpNodeIds := normalizePreferredRelayNodeIds req.preferredDerpNodeIds cluster.nodes }

def buildRelayTicket (mac : Mac) (cfg : RelayConfig) (fresh : FreshIds)
    (req : RelayTicketRequest) (cluster : RelayClusterView) (primaryNode : RelayNodeConfig)
    (expiresAt : Int) : RelayTicket :=
  let ticket : RelayTicket :=
    { ticketId := newId "ticket" fresh.ticket
      networkId := req.networkId
      sessionId := newId "session" fresh.session
      srcNodeId := req.srcNodeId
      dstNodeId := req.dstNodeId
      derpClusterId := cluster.clusterId
      countryCode := cluster.countryCode
      cityCode := cluster.cityCode
      allowedDerpNodeIds := req.preferredDerpNodeIds
      relayUrl := primaryNode.transport ++ "://" ++ primaryNode.address
      expiresAt := Rfc3339.format (expiresAt.fdiv second)
      sessionKey := ""
      signature := "" }
  let ticket := { ticket with
    sessionKey :=
      newRelaySessionKey ticket.ticketId ticket.srcNodeId ticket.dstNodeId expiresAt fresh.token }
  { ticket with signature := signRelayTicket mac cfg ticket }

/-! ## The cache -/

structure CachedRelayTicket where
  ticket : RelayTicket
  validUntil : Int
  deriving DecidableEq, Repr

abbrev RelayTicketCache := Table CachedRelayTicket

def relayTicketCacheKey (req : RelayTicketRequest) : String :=
  "|".intercalate [req.networkId, req.srcNodeId, req.dstNodeId, req.derpClusterId,
    ",".intercalate (Text.sorted req.preferredDerpNodeIds), req.reason]

/-- The ticket to reuse, and the cache without it where it is stale. -/
def relayTicketFromCache (cache : RelayTicketCache) (now : Int) (req : RelayTicketRequest) :
    Option RelayTicket × RelayTicketCache :=
  match cache.get? (relayTicketCacheKey req) with
  | none => (none, cache)
  | some cached =>
    if now < cached.validUntil then (some cached.ticket, cache)
    else (none, cache.remove (relayTicketCacheKey req))

def storeRelayTicket (cache : RelayTicketCache) (now : Int) (req : RelayTicketRequest)
    (ticket : RelayTicket) : RelayTicketCache :=
  match Rfc3339.parse ticket.expiresAt with
  | none => cache
  | some expiresAt =>
    let validUntil := expiresAt * second - 60 * second
    let validUntil := if now < validUntil then validUntil else now + 30 * second
    cache.put (relayTicketCacheKey req) ⟨ticket, validUntil⟩

/-- A pass deletes the entries whose time is over. -/
def pruneExpiredRelayTickets (cache : RelayTicketCache) (now : Int) : RelayTicketCache :=
  (cache.entries.map Sigma.fst).foldl (fun kept key =>
    match cache.get? key with
    | some cached => if now < cached.validUntil then kept else kept.remove key
    | none => kept) cache

/-- A pass adds no entry. -/
theorem get?_of_pruneExpiredRelayTickets {cache : RelayTicketCache} {now : Int} {key : String}
    {cached : CachedRelayTicket}
    (h : (pruneExpiredRelayTickets cache now).get? key = some cached) :
    cache.get? key = some cached := by
  unfold pruneExpiredRelayTickets at h
  generalize cache.entries.map Sigma.fst = keys at h
  have hkept : ∀ kept : RelayTicketCache, (keys.foldl (fun kept key =>
      match cache.get? key with
      | some cached => if now < cached.validUntil then kept else kept.remove key
      | none => kept) kept).get? key = some cached → kept.get? key = some cached := by
    clear h
    induction keys with
    | nil => exact fun kept hkept => hkept
    | cons key' keys ih =>
      intro kept hkept
      rw [List.foldl_cons] at hkept
      have hnext := ih _ hkept
      split at hnext
      · split at hnext
        · exact hnext
        · rw [Table.get?_remove] at hnext
          split at hnext
          · cases hnext
          · exact hnext
      · exact hnext
  exact hkept cache h

/-- A ticket is found only under its key, and in time; what stays was there before. -/
theorem relayTicketFromCache_spec {cache cache' : RelayTicketCache} {now : Int}
    {req : RelayTicketRequest} {found : Option RelayTicket}
    (h : relayTicketFromCache cache now req = (found, cache')) :
    (∀ ticket, found = some ticket ↔ ∃ validUntil,
      cache.get? (relayTicketCacheKey req) = some ⟨ticket, validUntil⟩ ∧ now < validUntil) ∧
    ∀ key cached, cache'.get? key = some cached → cache.get? key = some cached := by
  unfold relayTicketFromCache at h
  split at h
  · rename_i hnone
    obtain ⟨rfl, rfl⟩ := Prod.mk.inj h
    refine ⟨fun ticket => iff_of_false nofun ?_, fun _ _ hcached => hcached⟩
    rintro ⟨validUntil, hcached, -⟩
    rw [hnone] at hcached
    cases hcached
  · rename_i cached hcached
    split at h
    · rename_i hfresh
      obtain ⟨rfl, rfl⟩ := Prod.mk.inj h
      refine ⟨fun ticket => ?_, fun _ _ hcached => hcached⟩
      rw [hcached]
      constructor
      · intro hticket
        obtain rfl := Option.some.inj hticket
        exact ⟨cached.validUntil, rfl, hfresh⟩
      · rintro ⟨validUntil, hentry, -⟩
        obtain rfl := Option.some.inj hentry
        rfl
    · rename_i hstale
      obtain ⟨rfl, rfl⟩ := Prod.mk.inj h
      refine ⟨fun ticket => iff_of_false nofun ?_, fun key cached' hkept => ?_⟩
      · rintro ⟨validUntil, hentry, hfresh⟩
        rw [hcached] at hentry
        obtain rfl := Option.some.inj hentry
        exact hstale hfresh
      · rw [Table.get?_remove] at hkept
        split at hkept
        · cases hkept
        · exact hkept

/-! ## Issuing -/

/-- The checks on a request, up to the choice of the cluster. -/
def checkRelayTicketRequest (d : Directory) (userId : String) (req : RelayTicketRequest) :
    Except ServiceError Unit :=
  if Text.isBlank req.networkId ∨ Text.isBlank req.srcNodeId ∨ Text.isBlank req.dstNodeId ∨
      Text.isBlank req.reason then
    .error (.wrap .invalidArgument "networkId, srcNodeId, dstNodeId, and reason are required")
  else
    match d.nodes.get? req.srcNodeId with
    | none => .error .notFound
    | some srcNode =>
      if srcNode.userId ≠ userId then .error .forbidden
      else do
        d.ensureNetworkAccess userId req.networkId
        match d.nodes.get? req.dstNodeId with
        | none => .error .notFound
        | some dstNode =>
          if d.hasMember req.networkId srcNode.deviceId = false then
            .error (.wrap .forbidden "source node device is not a network member")
          else if d.hasMember req.networkId dstNode.deviceId = false then
            .error (.wrap .notFound "destination node device is not a network member")
          else .ok ()

/-- Reuse a ticket or sign one; `now` is the time of the lookup, `later` that of the signature. -/
def issueRelayTicket (mac : Mac) (cfg : RelayConfig) (d : Directory) (health : RelayHealth)
    (cache : RelayTicketCache) (fresh : FreshIds) (now later : Int) (userId : String)
    (req : RelayTicketRequest) : Except ServiceError RelayTicket × RelayTicketCache :=
  match checkRelayTicketRequest d userId req with
  | .error err => (.error err, cache)
  | .ok () =>
    let cluster := relayClusterForRequest cfg health req.derpClusterId
    match cluster.nodes with
    | [] => (.error (.wrap .notFound "no relay nodes configured"), cache)
    | primaryNode :: _ =>
      let req := normalizeRelayTicketRequest req cluster
      match relayTicketFromCache cache now req with
      | (some ticket, cache) => (.ok ticket, cache)
      | (none, cache) =>
        let ticket := buildRelayTicket mac cfg fresh req cluster primaryNode (later + 600 * second)
        (.ok ticket, storeRelayTicket cache later req ticket)

/-- An answer is an error, a ticket out of the cache, or a fresh ticket that is cached. -/
theorem issueRelayTicket_cases (mac : Mac) (cfg : RelayConfig) (d : Directory)
    (health : RelayHealth) (cache : RelayTicketCache) (fresh : FreshIds) (now later : Int)
    (userId : String) (req : RelayTicketRequest) :
    (∃ err, issueRelayTicket mac cfg d health cache fresh now later userId req =
      (.error err, cache)) ∨
    ∃ cluster primaryNode rest req' found cache' ticket,
      checkRelayTicketRequest d userId req = .ok () ∧
      cluster = relayClusterForRequest cfg health req.derpClusterId ∧
      cluster.nodes = primaryNode :: rest ∧ req' = normalizeRelayTicketRequest req cluster ∧
      relayTicketFromCache cache now req' = (found, cache') ∧
      (found = some ticket ∧
          issueRelayTicket mac cfg d health cache fresh now later userId req =
            (.ok ticket, cache') ∨
        found = none ∧
          ticket = buildRelayTicket mac cfg fresh req' cluster primaryNode
            (later + 600 * second) ∧
          issueRelayTicket mac cfg d health cache fresh now later userId req =
            (.ok ticket, storeRelayTicket cache' later req' ticket)) := by
  unfold issueRelayTicket
  cases hcheck : checkRelayTicketRequest d userId req with
  | error err => exact .inl ⟨err, rfl⟩
  | ok u =>
    dsimp only
    cases hnodes : (relayClusterForRequest cfg health req.derpClusterId).nodes with
    | nil => exact .inl ⟨_, rfl⟩
    | cons primaryNode rest =>
      rcases hfound : relayTicketFromCache cache now (normalizeRelayTicketRequest req
        (relayClusterForRequest cfg health req.derpClusterId)) with ⟨found, cache'⟩
      cases found with
      | some cached =>
        exact .inr ⟨_, primaryNode, rest, _, _, cache', cached, rfl, rfl, hnodes, rfl, hfound,
          .inl ⟨rfl, rfl⟩⟩
      | none =>
        exact .inr ⟨_, primaryNode, rest, _, _, cache', _, rfl, rfl, hnodes, rfl, hfound,
          .inr ⟨rfl, rfl, rfl⟩⟩

end Slan.Control
