import Mathlib.Data.Finset.SDiff
import Slan.Client.Tunnel

/-! # `tunnel/linux_adapter.rs`, and the kernel that its commands configure

A device counts only by what is configured on it. The adapter's log of its commands is left out.
-/

namespace Slan.Client

/-! ## The kernel -/

inductive LinuxCommand where
  /-- `ip link add dev … type wireguard` -/
  | linkAdd (device : String)
  /-- `wg set … private-key /dev/stdin [listen-port …]` -/
  | setPrivateKey (device privateKey : String) (listenPort : Option Nat)
  /-- `ip link set dev … mtu …` -/
  | setMtu (device : String) (mtu : Nat)
  /-- `ip address replace … dev …` -/
  | addressReplace (address device : String)
  /-- `wg set … peer … [endpoint …] allowed-ips … [persistent-keepalive …] [preshared-key …]` -/
  | setPeer (device publicKey : String) (endpoint : Option String) (allowedIps : List String)
    (keepalive : Option Nat) (presharedKey : Option String)
  /-- `ip route replace … dev …` -/
  | routeReplace (cidr device : String)
  /-- `wg set … peer … remove` -/
  | removePeer (device publicKey : String)
  /-- `ip route del … dev …` -/
  | routeDel (cidr device : String)
  /-- `ip link set up dev …`, `ip link set down dev …` -/
  | linkSet (up : Bool) (device : String)
  deriving DecidableEq, Repr

/-- What the adapter has configured: on each device its addresses, its link state and the allowed
IPs of its peers by public key, and the device of each route. -/
structure LinuxKernel where
  addresses : String → Finset String
  up : String → Bool
  peers : String → String → Option (Finset String)
  routes : String → Option String

namespace LinuxKernel

def empty : LinuxKernel := ⟨fun _ => ∅, fun _ => false, fun _ _ => none, fun _ => none⟩

/-- What a command does when it succeeds, to what it names only: that the kernel routes an address
itself, or forgets the routes of a link that goes down, is left out. An allowed IP moves to the
peer that gets it. -/
def run (kernel : LinuxKernel) : LinuxCommand → LinuxKernel
  | .linkAdd _ | .setPrivateKey _ _ _ | .setMtu _ _ => kernel
  | .addressReplace address device =>
    { kernel with addresses := fun d =>
        if d = device then insert address (kernel.addresses d) else kernel.addresses d }
  | .setPeer device publicKey _ allowedIps _ _ =>
    { kernel with peers := fun d key =>
        if d = device then
          if key = publicKey then some allowedIps.toFinset
          else (kernel.peers d key).map fun ips => ips \ allowedIps.toFinset
        else kernel.peers d key }
  | .routeReplace cidr device =>
    { kernel with routes := fun c => if c = cidr then some device else kernel.routes c }
  | .removePeer device publicKey =>
    { kernel with peers := fun d key =>
        if d = device ∧ key = publicKey then none else kernel.peers d key }
  | .routeDel cidr device =>
    { kernel with routes := fun c =>
        if c = cidr ∧ kernel.routes c = some device then none else kernel.routes c }
  | .linkSet up device => { kernel with up := fun d => if d = device then up else kernel.up d }

end LinuxKernel

/-- The failures of a command that the adapter takes for success. -/
def LinuxCommand.ignored : LinuxCommand → List String
  | .linkAdd _ => ["File exists"]
  | .routeDel _ _ => ["No such process", "Cannot find device"]
  | _ => []

/-- What a command writes to `stderr` when it fails, `none` when it succeeds. -/
abbrev LinuxOutcome := Option String

/-- `run_all`: the commands in turn, up to the first failure that is not ignored. A command that
fails does nothing; its own text in front of what it writes is left out. -/
def runAll (kernel : LinuxKernel) :
    List (LinuxCommand × LinuxOutcome) → Except String Unit × LinuxKernel
  | [] => (.ok (), kernel)
  | (command, none) :: rest => runAll (kernel.run command) rest
  | (command, some stderr) :: rest =>
    if command.ignored.any fun fragment => fragment.toList <:+: stderr.toList then
      runAll kernel rest
    else (.error stderr, kernel)

/-! ## `linux_mapper.rs`, `linux_stats.rs` -/

structure LinuxKernelInterfacePlan where
  interfaceName : Option String
  privateKey : String
  listenPort : Option Nat
  mtu : Option Nat
  addresses : List String
  dnsServers : List String
  deriving DecidableEq, Repr

structure LinuxKernelPeerPlan where
  peerNodeId : Option String
  publicKey : String
  presharedKey : Option String
  endpoint : Option String
  allowedIps : List String
  persistentKeepaliveSeconds : Option Nat
  deriving DecidableEq, Repr

structure LinuxKernelRuntime where
  interfaceName : Option String
  addresses : List String
  dnsServers : List String
  isUp : Bool
  deriving DecidableEq, Repr

namespace LinuxMapper

def validateInterface (interface : WireGuardInterfaceConfig) : Except String Unit :=
  if Text.isBlank interface.keyPair.publicKey then
    .error "linux backend requires non-empty interface public key"
  else if Text.isBlank interface.keyPair.privateKey then
    .error "linux backend requires non-empty interface private key"
  else if interface.addresses.isEmpty then
    .error "linux backend requires at least one interface address"
  else .ok ()

def validatePeer (peerVirtualIp : String) (peer : WireGuardPeerConfig) : Except String Unit :=
  if Text.isBlank peerVirtualIp then
    .error "linux backend requires non-empty peer virtual ip"
  else if Text.isBlank peer.publicKey then
    .error "linux backend requires non-empty peer public key"
  else if peer.allowedIps.isEmpty then
    .error "linux backend requires at least one allowed ip"
  else .ok ()

def validateConfig (config : TunnelConfig) : Except String Unit := do
  validateInterface config.wireguardInterface
  validatePeer config.peerVirtualIp config.wireguardPeer
  if Text.isBlank config.localVirtualIp then
    .error "linux backend requires non-empty local virtual ip"
  else if Text.isBlank config.peerVirtualIp then
    .error "linux backend requires non-empty peer virtual ip"
  else if config.localVirtualIp = config.peerVirtualIp then
    .error "linux backend requires distinct local and peer virtual ip"
  else .ok ()

def mapInterface (interface : WireGuardInterfaceConfig) : LinuxKernelInterfacePlan :=
  ⟨interface.interfaceName, interface.keyPair.privateKey, interface.listenPort, interface.mtu,
    interface.addresses, interface.dnsServers⟩

def mapPeer (peer : WireGuardPeerConfig) : LinuxKernelPeerPlan :=
  ⟨peer.peerNodeId, peer.publicKey, peer.presharedKey, peer.endpoint, peer.allowedIps,
    peer.persistentKeepaliveSeconds⟩

end LinuxMapper

def initialRuntime (interface : LinuxKernelInterfacePlan) : LinuxKernelRuntime :=
  ⟨interface.interfaceName, interface.addresses, interface.dnsServers, false⟩

/-! ## The adapter -/

def LinuxKernelInterfacePlan.name (interface : LinuxKernelInterfacePlan) : String :=
  interface.interfaceName.getD "wg0"

def LinuxKernelRuntime.name (runtime : LinuxKernelRuntime) : String :=
  runtime.interfaceName.getD "wg0"

def applyInterfaceCommands (interface : LinuxKernelInterfacePlan) : List LinuxCommand :=
  [.linkAdd interface.name,
    .setPrivateKey interface.name interface.privateKey interface.listenPort] ++
  (interface.mtu.map fun mtu => .setMtu interface.name mtu).toList ++
  interface.addresses.map fun address => .addressReplace address interface.name

def applyPeerCommands (interfaceName : String) (peer : LinuxKernelPeerPlan) : List LinuxCommand :=
  .setPeer interfaceName peer.publicKey peer.endpoint peer.allowedIps
      peer.persistentKeepaliveSeconds peer.presharedKey ::
    peer.allowedIps.map fun allowedIp => .routeReplace allowedIp interfaceName

def removePeerCommands (interfaceName : String) (peer : LinuxKernelPeerPlan) : List LinuxCommand :=
  .removePeer interfaceName peer.publicKey ::
    peer.allowedIps.map fun allowedIp => .routeDel allowedIp interfaceName

/-- The commands with what comes of them, by their place. -/
def withOutcomes (outcomes : Nat → LinuxOutcome) (commands : List LinuxCommand) :
    List (LinuxCommand × LinuxOutcome) :=
  commands.mapIdx fun i command => (command, outcomes i)

structure LinuxAdapter where
  interface : Option LinuxKernelRuntime
  peers : Table LinuxKernelPeerPlan
  kernel : LinuxKernel

namespace LinuxAdapter

def new : LinuxAdapter := ⟨none, ∅, .empty⟩

def unavailable : String := "linux adapter interface runtime unavailable"

def applyInterface (adapter : LinuxAdapter) (outcomes : Nat → LinuxOutcome)
    (interface : LinuxKernelInterfacePlan) (runtime : LinuxKernelRuntime) :
    Except String Unit × LinuxAdapter :=
  match runAll adapter.kernel (withOutcomes outcomes (applyInterfaceCommands interface)) with
  | (.error err, kernel) => (.error err, { adapter with kernel })
  | (.ok (), kernel) => (.ok (), { adapter with interface := some runtime, kernel })

def applyPeer (adapter : LinuxAdapter) (outcomes : Nat → LinuxOutcome) (peerVirtualIp : String)
    (peer : LinuxKernelPeerPlan) : Except String Unit × LinuxAdapter :=
  match adapter.interface with
  | none => (.error unavailable, adapter)
  | some runtime =>
    match runAll adapter.kernel (withOutcomes outcomes (applyPeerCommands runtime.name peer)) with
    | (.error err, kernel) => (.error err, { adapter with kernel })
    | (.ok (), kernel) =>
      (.ok (), { adapter with peers := adapter.peers.put peerVirtualIp peer, kernel })

/-- The record goes before the commands run. -/
def removePeer (adapter : LinuxAdapter) (outcomes : Nat → LinuxOutcome) (peerVirtualIp : String) :
    Except String Unit × LinuxAdapter :=
  match adapter.interface with
  | none => (.error unavailable, adapter)
  | some runtime =>
    match adapter.peers.get? peerVirtualIp with
    | none => (.ok (), adapter)
    | some peer =>
      let (result, kernel) :=
        runAll adapter.kernel (withOutcomes outcomes (removePeerCommands runtime.name peer))
      (result, { adapter with peers := adapter.peers.remove peerVirtualIp, kernel })

/-- `bring_up` and `bring_down`, with an interface. -/
def setLink (adapter : LinuxAdapter) (outcome : LinuxOutcome) (runtime : LinuxKernelRuntime)
    (up : Bool) : Except String Unit × LinuxAdapter :=
  match runAll adapter.kernel [(.linkSet up runtime.name, outcome)] with
  | (.error err, kernel) => (.error err, { adapter with kernel })
  | (.ok (), kernel) =>
    (.ok (), { adapter with interface := some { runtime with isUp := up }, kernel })

def bringUp (adapter : LinuxAdapter) (outcome : LinuxOutcome) : Except String Unit × LinuxAdapter :=
  match adapter.interface with
  | none => (.error unavailable, adapter)
  | some runtime => adapter.setLink outcome runtime true

def bringDown (adapter : LinuxAdapter) (outcome : LinuxOutcome) :
    Except String Unit × LinuxAdapter :=
  match adapter.interface with
  | none => (.ok (), adapter)
  | some runtime => adapter.setLink outcome runtime false

/-! ## `linux_backend.rs` -/

def applyInterfaceConfig (adapter : LinuxAdapter) (outcomes : Nat → LinuxOutcome)
    (interface : WireGuardInterfaceConfig) : Except String Unit × LinuxAdapter :=
  match LinuxMapper.validateInterface interface with
  | .error err => (.error err, adapter)
  | .ok () =>
    let mapped := LinuxMapper.mapInterface interface
    adapter.applyInterface outcomes mapped (initialRuntime mapped)

def applyPeerConfig (adapter : LinuxAdapter) (outcomes : Nat → LinuxOutcome)
    (peerVirtualIp : String) (peer : WireGuardPeerConfig) : Except String Unit × LinuxAdapter :=
  match LinuxMapper.validatePeer peerVirtualIp peer with
  | .error err => (.error err, adapter)
  | .ok () => adapter.applyPeer outcomes peerVirtualIp (LinuxMapper.mapPeer peer)

/-- What comes of the commands of an `establish`. -/
structure LinuxOutcomes where
  interface : Nat → LinuxOutcome
  peer : Nat → LinuxOutcome
  link : LinuxOutcome

def establish (adapter : LinuxAdapter) (outcomes : LinuxOutcomes) (config : TunnelConfig) :
    Except String Unit × LinuxAdapter :=
  match LinuxMapper.validateConfig config with
  | .error err => (.error err, adapter)
  | .ok () =>
    match adapter.applyInterfaceConfig outcomes.interface config.wireguardInterface with
    | (.error err, adapter) => (.error err, adapter)
    | (.ok (), adapter) =>
      match adapter.applyPeerConfig outcomes.peer config.peerVirtualIp config.wireguardPeer with
      | (.error err, adapter) => (.error err, adapter)
      | (.ok (), adapter) => adapter.bringUp outcomes.link

end LinuxAdapter

end Slan.Client
