import Slan.App.TunnelConfiguration
import Slan.Lib.Plist
import Slan.Lib.Program

/-! # `WireGuardTunnelConfigMapper.swift`

`WireGuardTunnelModels.swift` has the fields of the app's configurations.
-/

namespace Slan.Macos

open App (WireGuardTunnelConfiguration WireGuardTunnelInterfaceConfiguration
  WireGuardTunnelKeyPair WireGuardTunnelPeerConfiguration)
open Plist (Dictionary Value read)
open Plist.Value (asArray asArrayOf asDictionary asInt asString)
open Program (bind_eq_ok)

structure SlanAppCorePluginError where
  code : String
  message : String
  deriving DecidableEq, Repr

/-- Of a `guard let` that throws. -/
theorem elim_eq_ok {ε α : Type} {err : ε} {value : Option α} {a : α} :
    value.elim (.error err) Except.ok = .ok a ↔ value = some a := by
  cases value with
  | none => exact iff_of_false nofun nofun
  | some b => exact Except.ok.injEq b a ▸ (Option.some.injEq b a).symm.to_iff

namespace WireGuardTunnelConfigMapper

def invalid (message : String) : SlanAppCorePluginError where
  code := "app_core_invalid_tunnel_config"
  message

/-- The `guard` of a required field. -/
def require {α : Type} (kind key : String) (value : Option α) : Except SlanAppCorePluginError α :=
  value.elim (.error (invalid ("Missing or invalid " ++ kind ++ " field " ++ key))) .ok

section Fields

variable (key : String) (json : Dictionary)

def requireObject : Except SlanAppCorePluginError Dictionary :=
  require "object" key (read asDictionary json key)

def requireArray : Except SlanAppCorePluginError (List Value) :=
  require "array" key (read asArray json key)

def requireString : Except SlanAppCorePluginError String :=
  require "string" key ((read asString json key).filter (· ≠ ""))

def requireStringArray : Except SlanAppCorePluginError (List String) :=
  require "string array" key ((read (asArrayOf asString) json key).filter (· ≠ []))

def requireOptionalStringArray : List String := (read (asArrayOf asString) json key).getD []

end Fields

/-- Of `mapAllowedIps`, the values from an index on. -/
def mapAllowedIpsFrom (index : Nat) : List Value → Except SlanAppCorePluginError (List String)
  | [] => .ok []
  | value :: values => do
    let item ← (asDictionary value).elim
      (.error (invalid ("allowedIps[" ++ toString index ++ "] must be an object"))) .ok
    let cidr ← requireString "cidr" item
    return cidr :: (← mapAllowedIpsFrom (index + 1) values)

def mapAllowedIps (values : List Value) : Except SlanAppCorePluginError (List String) :=
  mapAllowedIpsFrom 0 values

def mapKeyPair (json : Dictionary) : Except SlanAppCorePluginError WireGuardTunnelKeyPair := do
  let publicKey ← requireString "publicKey" json
  let privateKey ← requireString "privateKey" json
  return { publicKey, privateKey }

def mapInterface (json : Dictionary) :
    Except SlanAppCorePluginError WireGuardTunnelInterfaceConfiguration := do
  let keyPair ← mapKeyPair (← requireObject "keyPair" json)
  let addresses ← requireStringArray "addresses" json
  return {
    interfaceName := read asString json "interfaceName"
    keyPair
    listenPort := read asInt json "listenPort"
    mtu := read asInt json "mtu"
    addresses
    dnsServers := requireOptionalStringArray "dnsServers" json }

def mapPeer (json : Dictionary) :
    Except SlanAppCorePluginError WireGuardTunnelPeerConfiguration := do
  let publicKey ← requireString "publicKey" json
  let allowedIps ← mapAllowedIps (← requireArray "allowedIps" json)
  return {
    peerNodeId := read asString json "peerNodeId"
    publicKey
    presharedKey := read asString json "presharedKey"
    endpoint := read asString json "endpoint"
    allowedIps
    persistentKeepaliveSeconds := read asInt json "persistentKeepaliveSeconds" }

def mapConfiguration (json : Dictionary) :
    Except SlanAppCorePluginError WireGuardTunnelConfiguration := do
  let transport ← requireString "transport" json
  let localVirtualIp ← requireString "localVirtualIp" json
  let peerVirtualIp ← requireString "peerVirtualIp" json
  let interface ← mapInterface (← requireObject "wireguardInterface" json)
  let peer ← mapPeer (← requireObject "wireguardPeer" json)
  return {
    transport
    localVirtualIp
    peerVirtualIp
    debugEngineMode := read asString json "debugEngineMode"
    interface
    peer }

/-! ## What the mapper lets through -/

section Fields

variable {α : Type} {kind key : String} {json : Dictionary}

theorem require_eq_ok {value : Option α} {a : α} :
    require kind key value = .ok a ↔ value = some a := elim_eq_ok

theorem requireString_eq_ok {s : String} :
    requireString key json = .ok s ↔ read asString json key = some s ∧ s ≠ "" := by
  rw [requireString, require_eq_ok, Option.filter_eq_some_iff, decide_eq_true_eq]

theorem requireStringArray_eq_ok {values : List String} :
    requireStringArray key json = .ok values ↔
      read (asArrayOf asString) json key = some values ∧ values ≠ [] := by
  rw [requireStringArray, require_eq_ok, Option.filter_eq_some_iff, decide_eq_true_eq]

end Fields

theorem mapAllowedIpsFrom_ne_empty {values : List Value} {cidrs : List String} {index : Nat}
    (h : mapAllowedIpsFrom index values = .ok cidrs) : ∀ cidr ∈ cidrs, cidr ≠ "" := by
  induction values generalizing index cidrs with
  | nil =>
    cases h
    exact nofun
  | cons value values ih =>
    obtain ⟨item, -, h⟩ := bind_eq_ok.mp h
    obtain ⟨cidr, hcidr, h⟩ := bind_eq_ok.mp h
    obtain ⟨rest, hrest, h⟩ := bind_eq_ok.mp h
    cases h
    exact List.forall_mem_cons.mpr ⟨(requireString_eq_ok.mp hcidr).2, ih hrest⟩

theorem mapKeyPair_ne_empty {json : Dictionary} {keyPair : WireGuardTunnelKeyPair}
    (h : mapKeyPair json = .ok keyPair) : keyPair.publicKey ≠ "" ∧ keyPair.privateKey ≠ "" := by
  obtain ⟨publicKey, hpublic, h⟩ := bind_eq_ok.mp h
  obtain ⟨privateKey, hprivate, h⟩ := bind_eq_ok.mp h
  cases h
  exact ⟨(requireString_eq_ok.mp hpublic).2, (requireString_eq_ok.mp hprivate).2⟩

theorem mapInterface_ne_empty {json : Dictionary}
    {interface : WireGuardTunnelInterfaceConfiguration} (h : mapInterface json = .ok interface) :
    (interface.keyPair.publicKey ≠ "" ∧ interface.keyPair.privateKey ≠ "") ∧
      interface.addresses ≠ [] := by
  obtain ⟨keyJson, -, h⟩ := bind_eq_ok.mp h
  obtain ⟨keyPair, hkeyPair, h⟩ := bind_eq_ok.mp h
  obtain ⟨addresses, haddresses, h⟩ := bind_eq_ok.mp h
  cases h
  exact ⟨mapKeyPair_ne_empty hkeyPair, (requireStringArray_eq_ok.mp haddresses).2⟩

theorem mapPeer_ne_empty {json : Dictionary} {peer : WireGuardTunnelPeerConfiguration}
    (h : mapPeer json = .ok peer) : peer.publicKey ≠ "" ∧ ∀ cidr ∈ peer.allowedIps, cidr ≠ "" := by
  obtain ⟨publicKey, hpublic, h⟩ := bind_eq_ok.mp h
  obtain ⟨values, -, h⟩ := bind_eq_ok.mp h
  obtain ⟨cidrs, hcidrs, h⟩ := bind_eq_ok.mp h
  cases h
  exact ⟨(requireString_eq_ok.mp hpublic).2, mapAllowedIpsFrom_ne_empty hcidrs⟩

end WireGuardTunnelConfigMapper

open WireGuardTunnelConfigMapper

/-- A configuration without empty texts where it needs one. -/
structure Filled (c : WireGuardTunnelConfiguration) : Prop where
  transport : c.transport ≠ ""
  localVirtualIp : c.localVirtualIp ≠ ""
  peerVirtualIp : c.peerVirtualIp ≠ ""
  publicKey : c.interface.keyPair.publicKey ≠ ""
  privateKey : c.interface.keyPair.privateKey ≠ ""
  addresses : c.interface.addresses ≠ []
  peerKey : c.peer.publicKey ≠ ""
  allowedIps : ∀ cidr ∈ c.peer.allowedIps, cidr ≠ ""

theorem filled_of_mapped {json : Dictionary} {c : WireGuardTunnelConfiguration}
    (h : mapConfiguration json = .ok c) : Filled c := by
  obtain ⟨transport, htransport, h⟩ := bind_eq_ok.mp h
  obtain ⟨localVirtualIp, hlocal, h⟩ := bind_eq_ok.mp h
  obtain ⟨peerVirtualIp, hpeerIp, h⟩ := bind_eq_ok.mp h
  obtain ⟨interfaceJson, -, h⟩ := bind_eq_ok.mp h
  obtain ⟨interface, hinterface, h⟩ := bind_eq_ok.mp h
  obtain ⟨peerJson, -, h⟩ := bind_eq_ok.mp h
  obtain ⟨peer, hpeer, h⟩ := bind_eq_ok.mp h
  cases h
  obtain ⟨⟨hpublic, hprivate⟩, haddresses⟩ := mapInterface_ne_empty hinterface
  obtain ⟨hpeerKey, hallowed⟩ := mapPeer_ne_empty hpeer
  exact ⟨(requireString_eq_ok.mp htransport).2, (requireString_eq_ok.mp hlocal).2,
    (requireString_eq_ok.mp hpeerIp).2, hpublic, hprivate, haddresses, hpeerKey, hallowed⟩

end Slan.Macos
