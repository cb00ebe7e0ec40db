import Slan.Networks.Membership

/-! # The DNS lists of a network

The rows of networks with their two columns of DNS values. A column holds its values with commas
between them.
-/

namespace Slan.Networks

open Control (ServiceError)

structure DnsConfig where
  servers : List String
  searchDomains : List String
  deriving DecidableEq, Repr

/-! ## `network_models.go` -/

/-- The items without the spaces around them, and without those that are left empty. -/
def trimmedItems (items : List String) : List String :=
  (items.map Text.trim).filter fun value => value ≠ ""

def encodeCsvList (items : List String) : String := ",".intercalate (trimmedItems items)

def decodeCsvList (raw : String) : List String :=
  if Text.trim raw = "" then [] else trimmedItems (Text.split ',' raw)

structure DnsColumns where
  dnsServers : String
  dnsSearchDomains : String
  deriving DecidableEq, Repr

def DnsColumns.dnsConfig (columns : DnsColumns) : DnsConfig :=
  ⟨decodeCsvList columns.dnsServers, decodeCsvList columns.dnsSearchDomains⟩

/-- The store, with the DNS columns of the networks for which they have been written. -/
structure DnsStore where
  store : Store
  columns : Table DnsColumns

namespace DnsStore

def columnsOf (s : DnsStore) (networkId : String) : DnsColumns :=
  (s.columns.get? networkId).getD ⟨"", ""⟩

def updateNetworkDns (s : DnsStore) (networkId : String) (dns : DnsConfig) : DnsStore :=
  ⟨s.store, s.columns.put networkId
    ⟨encodeCsvList dns.servers, encodeCsvList dns.searchDomains⟩⟩

/-! ## The network service -/

def sanitizeValues (items : List String) : List String := trimmedItems items

/-- `Get`, of its detail the DNS lists. -/
def get (s : DnsStore) (userId networkId : String) : Except Failure DnsConfig :=
  match s.store.networkById networkId with
  | none => .error (.service .notFound)
  | some _ =>
    match ((ensureNetworkAccess userId networkId).run s.store).1 with
    | .error err => .error err
    | .ok () => .ok (s.columnsOf networkId).dnsConfig

def updateDns (s : DnsStore) (userId networkId : String) (req : DnsConfig) :
    Except Failure DnsConfig × DnsStore :=
  match s.store.networkById networkId with
  | none => (.error (.service .notFound), s)
  | some record =>
    if record.ownerUserId ≠ userId then (.error (.service .forbidden), s)
    else
      let s := s.updateNetworkDns networkId
        ⟨sanitizeValues req.servers, sanitizeValues req.searchDomains⟩
      (s.get userId networkId, s)

def buildNetworkMapDns (s : DnsStore) (networkId : String) : DnsConfig :=
  match s.store.networkById networkId with
  | none => ⟨[], []⟩
  | some _ => (s.columnsOf networkId).dnsConfig

/-- Everyone who reads the network has the sanitised lists. -/
structure ReadsBack (s : DnsStore) (networkId : String) (req : DnsConfig) : Prop where
  detail : ∀ userId dns, s.get userId networkId = .ok dns →
    dns = ⟨sanitizeValues req.servers, sanitizeValues req.searchDomains⟩
  networkMap : s.buildNetworkMapDns networkId =
    ⟨sanitizeValues req.servers, sanitizeValues req.searchDomains⟩

end DnsStore

/-! ## One list -/

theorem trim_trimmedItems {items : List String} {item : String} (h : item ∈ trimmedItems items) :
    Text.trim item = item ∧ item ≠ "" := by
  obtain ⟨hmem, hne⟩ := List.mem_filter.mp h
  obtain ⟨raw, -, rfl⟩ := List.mem_map.mp hmem
  exact ⟨Text.trim_trim raw, of_decide_eq_true hne⟩

theorem trimmedItems_of_trimmed {items : List String}
    (h : ∀ item ∈ items, Text.trim item = item ∧ item ≠ "") : trimmedItems items = items := by
  unfold trimmedItems
  rw [List.map_congr_left fun item hitem => (h item hitem).1, List.map_id',
    List.filter_eq_self]
  exact fun item hitem => decide_eq_true (h item hitem).2

theorem trimmedItems_trimmedItems (items : List String) :
    trimmedItems (trimmedItems items) = trimmedItems items :=
  trimmedItems_of_trimmed fun _ => trim_trimmedItems

/-- Spaces apart, an item has the characters that it had. -/
theorem forall_trimmedItems_iff {c : Char} (hc : Text.isSpace c = false) (items : List String) :
    (∀ item ∈ trimmedItems items, c ∉ item.toList) ↔ ∀ item ∈ items, c ∉ item.toList := by
  constructor
  · intro h item hitem hmem
    have htrim := (Text.mem_trim_iff hc item).mpr hmem
    refine h (Text.trim item) (List.mem_filter.mpr ⟨List.mem_map_of_mem hitem, ?_⟩) htrim
    rw [decide_eq_true_eq]
    intro hempty
    rw [hempty] at htrim
    cases htrim
  · intro h item hitem hmem
    obtain ⟨raw, hraw, rfl⟩ := List.mem_map.mp (List.mem_of_mem_filter hitem)
    exact h raw hraw ((Text.mem_trim_iff hc raw).mp hmem)

/-- What is decoded has no comma. -/
theorem not_mem_decodeCsvList {raw item : String} (h : item ∈ decodeCsvList raw) :
    ',' ∉ item.toList := by
  unfold decodeCsvList at h
  split at h
  · cases h
  · exact (forall_trimmedItems_iff rfl (Text.split ',' raw)).mpr
      (fun _ => Text.not_mem_of_mem_split) item h

theorem decodeCsvList_encodeCsvList_iff (items : List String) :
    decodeCsvList (encodeCsvList items) = trimmedItems items ↔
      ∀ item ∈ items, ',' ∉ item.toList := by
  rw [← forall_trimmedItems_iff (rfl : Text.isSpace ',' = false)]
  constructor
  · intro h item hitem
    rw [← h] at hitem
    exact not_mem_decodeCsvList hitem
  · intro h
    unfold decodeCsvList encodeCsvList
    cases hitems : trimmedItems items with
    | nil => rfl
    | cons first rest =>
      rw [← hitems]
      have hne : trimmedItems items ≠ [] := by
        rw [hitems]
        exact List.cons_ne_nil first rest
      have hcomma : "," = String.ofList [','] := rfl
      rw [hcomma, Text.split_join hne h, trimmedItems_trimmedItems]
      refine if_neg fun hblank => ?_
      rw [Text.trim_eq_empty_iff, Text.isBlank, List.all_eq_true, String.toList_intercalate,
        hitems] at hblank
      cases rest with
      | nil =>
        obtain ⟨htrim, hempty⟩ := trim_trimmedItems (hitems ▸ List.mem_cons_self)
        rw [← htrim, Ne, Text.trim_eq_empty_iff, Text.isBlank, List.all_eq_true] at hempty
        exact hempty (by simpa using hblank)
      | cons next rest =>
        have hspace := hblank ',' (by simp [List.intercalate])
        cases hspace

/-! ## A request -/

namespace DnsStore

variable {s next : DnsStore} {userId networkId : String} {req dns : DnsConfig}

/-- A request that is accepted is the owner's, and has been stored. -/
theorem updateDns_accepted (h : s.updateDns userId networkId req = (.ok dns, next)) :
    (∃ record, next.store.networkById networkId = some record) ∧
      next.get userId networkId = .ok dns ∧
      (next.columnsOf networkId).dnsConfig =
        ⟨decodeCsvList (encodeCsvList (sanitizeValues req.servers)),
          decodeCsvList (encodeCsvList (sanitizeValues req.searchDomains))⟩ := by
  unfold updateDns at h
  cases hrecord : s.store.networkById networkId with
  | none =>
    rw [hrecord] at h
    cases h
  | some record =>
    rw [hrecord] at h
    dsimp only at h
    split at h
    · cases h
    · obtain ⟨hget, rfl⟩ := Prod.mk.inj h
      refine ⟨⟨record, hrecord⟩, hget, ?_⟩
      rw [columnsOf, updateNetworkDns, Table.get?_put_self]
      rfl

/-- An accepted request is read back exactly when no item has a comma in it. -/
theorem readsBack_iff (h : s.updateDns userId networkId req = (.ok dns, next)) :
    next.ReadsBack networkId req ↔
      ∀ item ∈ req.servers ++ req.searchDomains, ',' ∉ item.toList := by
  obtain ⟨⟨record, hrecord⟩, hget, hcolumns⟩ := updateDns_accepted h
  have hmap : next.buildNetworkMapDns networkId = (next.columnsOf networkId).dnsConfig := by
    rw [buildNetworkMapDns, hrecord]
  have hdetail : ∀ {userId dns}, next.get userId networkId = .ok dns →
      dns = (next.columnsOf networkId).dnsConfig := by
    intro userId dns hread
    unfold get at hread
    rw [hrecord] at hread
    dsimp only at hread
    split at hread
    · cases hread
    · exact (Except.ok.inj hread).symm
  have hlists : (next.columnsOf networkId).dnsConfig =
        ⟨sanitizeValues req.servers, sanitizeValues req.searchDomains⟩ ↔
      ∀ item ∈ req.servers ++ req.searchDomains, ',' ∉ item.toList := by
    have hcomma : Text.isSpace ',' = false := rfl
    have hlist : ∀ items, decodeCsvList (encodeCsvList (sanitizeValues items)) =
        sanitizeValues items ↔ ∀ item ∈ items, ',' ∉ item.toList := by
      intro items
      have hcsv := decodeCsvList_encodeCsvList_iff (trimmedItems items)
      rw [trimmedItems_trimmedItems, forall_trimmedItems_iff hcomma] at hcsv
      exact hcsv
    rw [hcolumns, DnsConfig.mk.injEq, hlist, hlist, List.forall_mem_append]
  rw [← hlists]
  constructor
  · intro hreads
    exact hmap.symm.trans hreads.networkMap
  · intro hconfig
    exact ⟨fun _ _ hread => (hdetail hread).trans hconfig, hmap.trans hconfig⟩

/-- A store with one network. -/
def single : DnsStore :=
  ⟨{ (∅ : Store) with
      networks := ⟨[⟨"net-1", "user-1", "home", "", "sub-1", "10.0.0.0/24", ""⟩], by simp⟩ }, ∅⟩

/-- One item with a comma is read back as two. -/
theorem comma_splits :
    ¬ ∀ (s next : DnsStore) (userId networkId : String) (req dns : DnsConfig),
      s.updateDns userId networkId req = (.ok dns, next) → next.ReadsBack networkId req := by
  intro hall
  have hreads := (hall single _ "user-1" "net-1" ⟨["1.1.1.1,8.8.8.8"], []⟩
    ⟨["1.1.1.1", "8.8.8.8"], []⟩ (by rfl)).networkMap
  exact absurd (congrArg DnsConfig.servers hreads) (by decide)

/-- Spaces around an item and a blank one are left out. -/
theorem spaces_sanitised :
    (single.updateDns "user-1" "net-1" ⟨[" 1.1.1.1 ", "  "], ["lan"]⟩).2.ReadsBack "net-1"
      ⟨[" 1.1.1.1 ", "  "], ["lan"]⟩ := by
  have hok : single.updateDns "user-1" "net-1" ⟨[" 1.1.1.1 ", "  "], ["lan"]⟩ =
      (.ok ⟨["1.1.1.1"], ["lan"]⟩,
        (single.updateDns "user-1" "net-1" ⟨[" 1.1.1.1 ", "  "], ["lan"]⟩).2) := by
    rfl
  exact (readsBack_iff hok).mpr (by decide)

end DnsStore

end Slan.Networks
