import Mathlib.Data.List.Sort
import Mathlib.Algebra.Order.Ring.Rat
import Slan.Lib.Text

/-! # `control_relay.go`: relay clusters in the order the control plane prefers

The averages of the health samples are exact rationals here.
-/

namespace Slan.Control

structure RelayNodeConfig where
  nodeId : String
  transport : String
  address : String
  priority : Int
  tags : List String
  deriving DecidableEq, Repr

structure RelayClusterConfig where
  clusterId : String
  clusterName : String
  nodes : List RelayNodeConfig
  deriving DecidableEq, Repr

structure RelayCityConfig where
  cityCode : String
  cityName : String
  clusters : List RelayClusterConfig
  deriving DecidableEq, Repr

structure RelayCountryConfig where
  countryCode : String
  countryName : String
  cities : List RelayCityConfig
  deriving DecidableEq, Repr

structure RelayConfig where
  defaultClusterId : String
  ticketSigningSecret : String
  countries : List RelayCountryConfig
  deriving DecidableEq, Repr

structure RelayNodeRank where
  scoreAvg : ℚ
  rttAvg : ℚ
  hasScore : Bool
  hasRtt : Bool
  samples : Nat
  sampledAt : Nat
  deriving DecidableEq, Repr

def betterRelayNodeRank (left right : RelayNodeRank) : Bool :=
  if left.hasScore ∧ right.hasScore ∧ left.scoreAvg ≠ right.scoreAvg then
    right.scoreAvg < left.scoreAvg
  else if left.hasScore ≠ right.hasScore then left.hasScore
  else if left.hasRtt ∧ right.hasRtt ∧ left.rttAvg ≠ right.rttAvg then left.rttAvg < right.rttAvg
  else if left.hasRtt ≠ right.hasRtt then left.hasRtt
  else if left.samples ≠ right.samples then right.samples < left.samples
  else right.sampledAt < left.sampledAt

/-- Health of the relay nodes by node id. -/
abbrev RelayHealth := String → Option RelayNodeRank

/-- The order of `prioritizeRelayNodes`. -/
def relayNodeBefore (preferredNodeId avoidedNodeId : String) (health : RelayHealth)
    (left right : RelayNodeConfig) : Bool :=
  let leftPreferred := left.nodeId == preferredNodeId
  let rightPreferred := right.nodeId == preferredNodeId
  let leftAvoided := left.nodeId == avoidedNodeId
  let rightAvoided := right.nodeId == avoidedNodeId
  if leftPreferred && !rightPreferred then true
  else if !leftPreferred && rightPreferred then false
  else if !leftAvoided && rightAvoided then true
  else if leftAvoided && !rightAvoided then false
  else
    let byConfig :=
      if left.priority ≠ right.priority then decide (left.priority < right.priority)
      else decide (left.nodeId < right.nodeId)
    match health left.nodeId, health right.nodeId with
    | some _, none => true
    | none, some _ => false
    | some leftHealth, some rightHealth =>
      if betterRelayNodeRank leftHealth rightHealth then true
      else if betterRelayNodeRank rightHealth leftHealth then false
      else byConfig
    | none, none => byConfig

/-- `sort.SliceStable` -/
def sortStable {α : Type} (before : α → α → Bool) (xs : List α) : List α :=
  xs.insertionSort fun a b => before b a = false

def prioritizeRelayNodes (nodes : List RelayNodeConfig) (preferredNodeId avoidedNodeId : String)
    (health : RelayHealth) : List RelayNodeConfig :=
  sortStable (relayNodeBefore preferredNodeId avoidedNodeId health) nodes

structure RelayClusterView where
  countryCode : String
  countryName : String
  cityCode : String
  cityName : String
  clusterId : String
  clusterName : String
  nodes : List RelayNodeConfig
  deriving DecidableEq, Repr

def RelayClusterView.empty : RelayClusterView := ⟨"", "", "", "", "", "", []⟩

/-- The first value that is not blank, as it is. -/
def firstNonEmpty : List String → String
  | [] => ""
  | value :: rest => if Text.isBlank value then firstNonEmpty rest else value

def relayClusters (cfg : RelayConfig) (health : RelayHealth) : List RelayClusterView :=
  cfg.countries.flatMap fun country =>
    country.cities.flatMap fun city =>
      city.clusters.map fun cluster =>
        { countryCode := country.countryCode
          countryName := country.countryName
          cityCode := city.cityCode
          cityName := city.cityName
          clusterId := cluster.clusterId
          clusterName := firstNonEmpty [cluster.clusterName, cluster.clusterId]
          nodes := prioritizeRelayNodes cluster.nodes "" "" health }

def relayClusterById (cfg : RelayConfig) (health : RelayHealth) (clusterId : String) :
    Option RelayClusterView :=
  (relayClusters cfg health).find? fun cluster => cluster.clusterId == clusterId

def firstClusterWithNodes (cfg : RelayConfig) (health : RelayHealth) : RelayClusterView :=
  ((relayClusters cfg health).find? fun cluster => !cluster.nodes.isEmpty).getD .empty

def defaultRelayCluster (cfg : RelayConfig) (health : RelayHealth) : RelayClusterView :=
  match relayClusterById cfg health cfg.defaultClusterId with
  | some cluster =>
    if cluster.nodes.isEmpty then firstClusterWithNodes cfg health else cluster
  | none => firstClusterWithNodes cfg health

def relayClusterForRequest (cfg : RelayConfig) (health : RelayHealth) (clusterId : String) :
    RelayClusterView :=
  let clusterId := Text.trim clusterId
  if clusterId = "" then defaultRelayCluster cfg health
  else
    match relayClusterById cfg health clusterId with
    | some cluster => if cluster.nodes.isEmpty then defaultRelayCluster cfg health else cluster
    | none => defaultRelayCluster cfg health

end Slan.Control
