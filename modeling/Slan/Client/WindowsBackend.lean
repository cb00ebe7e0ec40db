import Mathlib.Data.Finset.Basic
import Slan.Client.Tunnel

/-! # `tunnel/windows_backend.rs`, and the addresses that its commands configure

The commands run on Windows, and not as a dry run. A command that asks for elevation is one
command with its second attempt.
-/

namespace Slan.Client

/-! ## The system -/

/-- An adapter, by its alias for `netsh` or by its index for PowerShell. -/
inductive Adapter where
  | alias (interfaceName : String)
  | index (interfaceIndex : Nat)
  deriving DecidableEq, Repr

structure AdapterAddress where
  adapter : Adapter
  ip : String
  mask : String
  deriving DecidableEq, Repr

/-- The addresses that the backend has added and not removed. -/
abbrev WindowsSystem := Finset AdapterAddress

inductive WindowsCommand where
  /-- `netsh interface ipv4 delete address name=… addr=…` -/
  | deleteAddress (name addr : String)
  /-- `netsh interface ipv4 add address name=… addr=… mask=…` -/
  | addAddress (name addr mask : String)
  /-- The script that removes the adapter's addresses and then gives it one. -/
  | resetAdapter (index : Nat) (addr mask : String)
  /-- The script that removes the adapter's addresses. -/
  | clearAdapter (index : Nat)
  deriving DecidableEq, Repr

/-- What comes of a command; a script may fail behind its removals. -/
inductive CommandOutcome where
  | done
  | failed (err : String) (cleared : Bool)
  deriving DecidableEq, Repr

def CommandOutcome.result : CommandOutcome → Except String Unit
  | .done => .ok ()
  | .failed err _ => .error err

namespace WindowsSystem

def deleteAddress (system : WindowsSystem) (name addr : String) : WindowsSystem :=
  system.filter fun a => ¬(a.adapter = .alias name ∧ a.ip = addr)

def clearAdapter (system : WindowsSystem) (index : Nat) : WindowsSystem :=
  system.filter fun a => a.adapter ≠ .index index

def run (system : WindowsSystem) : WindowsCommand → CommandOutcome → WindowsSystem
  | .deleteAddress name addr, .done => system.deleteAddress name addr
  | .deleteAddress _ _, .failed _ _ => system
  | .addAddress name addr mask, .done => insert ⟨.alias name, addr, mask⟩ system
  | .addAddress _ _ _, .failed _ _ => system
  | .resetAdapter index addr mask, .done =>
    insert ⟨.index index, addr, mask⟩ (system.clearAdapter index)
  | .clearAdapter index, .done => system.clearAdapter index
  | .resetAdapter index _ _, .failed _ cleared | .clearAdapter index, .failed _ cleared =>
    if cleared then system.clearAdapter index else system

end WindowsSystem

/-! ## Configurations -/

/-- Of `str::parse::<u8>`, the digits behind the sign. -/
def parseU8Digits (n : Nat) : List Char → Except String Nat
  | [] => .ok n
  | c :: cs =>
    if ¬c.isDigit then .error "invalid digit found in string"
    else
      let n := n * 10 + (c.toNat - '0'.toNat)
      if 255 < n then .error "number too large to fit in target type" else parseU8Digits n cs

def parseU8 (text : String) : Except String Nat :=
  match text.toList with
  | [] => .error "cannot parse integer from empty string"
  | ['+'] => .error "invalid digit found in string"
  | '+' :: cs => parseU8Digits 0 cs
  | cs => parseU8Digits 0 cs

def parseInterfaceAddress (raw : String) : Except String (String × Nat) :=
  match splitOnce ['/'] raw.toList with
  | none => .error ("windows backend requires cidr interface address, got " ++ raw)
  | some (ip, prefixLen) =>
    let ip := Text.trim (String.ofList ip)
    if ip = "" then .error "windows backend requires non-empty local virtual ip"
    else
      match parseU8 (Text.trim (String.ofList prefixLen)) with
      | .error err =>
        .error ("windows backend invalid prefix length in " ++ raw ++ ": " ++ err)
      | .ok prefixLen => .ok (ip, prefixLen)

def netmask (prefixLen : Nat) : String :=
  let mask := 2 ^ 32 - 2 ^ (32 - prefixLen)
  ".".intercalate [toString (mask / 2 ^ 24), toString (mask / 2 ^ 16 % 256),
    toString (mask / 2 ^ 8 % 256), toString (mask % 256)]

def netmaskFromPrefixLen (prefixLen : Nat) : Except String String :=
  if 32 < prefixLen then
    .error ("windows backend requires ipv4 prefix length <= 32, got " ++ toString prefixLen)
  else .ok (netmask prefixLen)

/-- What the backend reads from the machine: the alias in the environment, and the index and the
alias of the loopback adapter that `route print` and `netsh` list. -/
structure WindowsMachine where
  configuredAlias : Option String
  loopbackAdapter : Option (Nat × Option String)
  deriving DecidableEq, Repr

/-- A name that is there and not blank, trimmed. -/
def trimmed (name : Option String) : Option String :=
  (name.map Text.trim).filter fun name => name ≠ ""

def resolveInterfaceTarget (machine : WindowsMachine) (requested : Option String) :
    String × Option Nat × Bool :=
  match trimmed machine.configuredAlias with
  | some configuredAlias => (configuredAlias, none, false)
  | none =>
    match (trimmed requested).filter fun name => name ≠ "slan0" with
    | some requestedAlias => (requestedAlias, none, false)
    | none =>
      match machine.loopbackAdapter with
      | some (index, name) =>
        (name.getD "Microsoft KM-TEST Loopback Adapter", some index, true)
      | none => ("Loopback Pseudo-Interface 1", none, false)

def validateInterface (interface : WireGuardInterfaceConfig) : Except String Unit :=
  if Text.isBlank interface.keyPair.publicKey then
    .error "windows backend requires non-empty wireguard public key"
  else if Text.isBlank interface.keyPair.privateKey then
    .error "windows backend requires non-empty wireguard private key"
  else if interface.addresses.isEmpty then
    .error "windows backend requires at least one wireguard interface address"
  else .ok ()

def validatePeer (peerVirtualIp : String) (peer : WireGuardPeerConfig) : Except String Unit :=
  if Text.isBlank peerVirtualIp then
    .error "windows backend requires non-empty peer virtual ip"
  else if Text.isBlank peer.publicKey then
    .error "windows backend requires non-empty peer public key"
  else if peer.allowedIps.isEmpty then
    .error "windows backend requires at least one allowed ip"
  else .ok ()

def validateConfig (config : TunnelConfig) : Except String Unit := do
  if Text.isBlank config.localVirtualIp then
    .error "windows backend requires non-empty local virtual ip"
  else if Text.isBlank config.peerVirtualIp then
    .error "windows backend requires non-empty peer virtual ip"
  else if config.localVirtualIp = config.peerVirtualIp then
    .error "windows backend requires distinct local and peer virtual ip"
  else do
    validateInterface config.wireguardInterface
    validatePeer config.peerVirtualIp config.wireguardPeer

/-! ## The backend -/

structure WindowsInterfaceRuntime where
  interfaceName : String
  interfaceIndex : Option Nat
  isDedicatedAdapter : Bool
  localVirtualIp : String
  localPrefixLen : Nat
  isUp : Bool
  deriving DecidableEq, Repr

/-- The interface that a configuration asks for, not yet up. -/
def interfaceRuntime (machine : WindowsMachine) (interface : WireGuardInterfaceConfig) :
    Except String WindowsInterfaceRuntime := do
  validateInterface interface
  match trimmed interface.addresses.head? with
  | none => .error "windows backend requires at least one wireguard interface address"
  | some address =>
    let (localVirtualIp, localPrefixLen) ← parseInterfaceAddress address
    let (interfaceName, interfaceIndex, isDedicatedAdapter) :=
      resolveInterfaceTarget machine interface.interfaceName
    return { interfaceName, interfaceIndex, isDedicatedAdapter, localVirtualIp, localPrefixLen,
             isUp := false }

/-- What comes of the command that removes an address, and of the one that adds an address. -/
structure WindowsOutcomes where
  removal : CommandOutcome
  addition : CommandOutcome
  deriving DecidableEq, Repr

def missingIndex : String := "windows backend dedicated adapter is missing an interface index"

/-- Whether `netsh` could delete the address is not looked at. -/
def applySystemInterface (runtime : WindowsInterfaceRuntime) (outcomes : WindowsOutcomes)
    (system : WindowsSystem) : Except String Unit × WindowsSystem :=
  if runtime.isDedicatedAdapter then
    match runtime.interfaceIndex with
    | none => (.error missingIndex, system)
    | some index =>
      (outcomes.addition.result, system.run
        (.resetAdapter index runtime.localVirtualIp (netmask runtime.localPrefixLen))
        outcomes.addition)
  else
    match netmaskFromPrefixLen runtime.localPrefixLen with
    | .error err => (.error err, system)
    | .ok mask =>
      let system := system.run (.deleteAddress runtime.interfaceName runtime.localVirtualIp)
        outcomes.removal
      (outcomes.addition.result, system.run
        (.addAddress runtime.interfaceName runtime.localVirtualIp mask) outcomes.addition)

def removeSystemInterfaceAddress (runtime : WindowsInterfaceRuntime) (outcomes : WindowsOutcomes)
    (system : WindowsSystem) : Except String Unit × WindowsSystem :=
  if runtime.isDedicatedAdapter then
    match runtime.interfaceIndex with
    | none => (.error missingIndex, system)
    | some index =>
      (outcomes.removal.result, system.run (.clearAdapter index) outcomes.removal)
  else
    (outcomes.removal.result, system.run
      (.deleteAddress runtime.interfaceName runtime.localVirtualIp) outcomes.removal)

/-- The backend's record, and the system that it works on. -/
structure WindowsBackend where
  interface : Option WindowsInterfaceRuntime
  peers : Table WireGuardPeerConfig
  system : WindowsSystem

namespace WindowsBackend

def new : WindowsBackend := ⟨none, ∅, ∅⟩

def isUp (backend : WindowsBackend) : Bool :=
  (backend.interface.map WindowsInterfaceRuntime.isUp).getD false

/-- The record is overwritten, whatever it says. -/
def applyInterfaceConfig (backend : WindowsBackend) (machine : WindowsMachine)
    (interface : WireGuardInterfaceConfig) : Except String Unit × WindowsBackend :=
  match interfaceRuntime machine interface with
  | .error err => (.error err, backend)
  | .ok runtime => (.ok (), { backend with interface := some runtime })

def applyPeerConfig (backend : WindowsBackend) (peerVirtualIp : String)
    (peer : WireGuardPeerConfig) : Except String Unit × WindowsBackend :=
  match validatePeer peerVirtualIp peer with
  | .error err => (.error err, backend)
  | .ok () => (.ok (), { backend with peers := backend.peers.put peerVirtualIp peer })

def unavailable : String := "windows backend interface runtime unavailable"

def bringUp (backend : WindowsBackend) (outcomes : WindowsOutcomes) :
    Except String Unit × WindowsBackend :=
  match backend.interface with
  | none => (.error unavailable, backend)
  | some runtime =>
    match applySystemInterface runtime outcomes backend.system with
    | (.error err, system) => (.error err, { backend with system })
    | (.ok (), system) =>
      (.ok (), { backend with interface := some { runtime with isUp := true }, system })

/-- Whether the address could be removed is not looked at. -/
def bringDown (backend : WindowsBackend) (outcomes : WindowsOutcomes) :
    Except String Unit × WindowsBackend :=
  match backend.interface with
  | none => (.error unavailable, backend)
  | some runtime =>
    (.ok (), { backend with
      interface := some { runtime with isUp := false }
      system := (removeSystemInterfaceAddress runtime outcomes backend.system).2 })

def removePeer (backend : WindowsBackend) (peerVirtualIp : String) :
    Except String Unit × WindowsBackend :=
  (.ok (), { backend with peers := backend.peers.remove peerVirtualIp })

def close (backend : WindowsBackend) (peerVirtualIp : String) :
    Except String Unit × WindowsBackend :=
  backend.removePeer peerVirtualIp

def establish (backend : WindowsBackend) (machine : WindowsMachine) (outcomes : WindowsOutcomes)
    (config : TunnelConfig) : Except String Unit × WindowsBackend :=
  match validateConfig config with
  | .error err => (.error err, backend)
  | .ok () =>
    match backend.applyInterfaceConfig machine config.wireguardInterface with
    | (.error err, backend) => (.error err, backend)
    | (.ok (), backend) =>
      match backend.applyPeerConfig config.peerVirtualIp config.wireguardPeer with
      | (.error err, backend) => (.error err, backend)
      | (.ok (), backend) => backend.bringUp outcomes

end WindowsBackend

end Slan.Client
