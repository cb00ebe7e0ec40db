import Slan.Lib.Transition
import Slan.Client.LinuxAdapter

/-! # When the kernel is as the Linux adapter records it -/

namespace Slan.Client

open Transition

/-! ## Commands that take effect -/

section

variable {kernel : LinuxKernel} {commands : List (LinuxCommand × LinuxOutcome)}
  {command : LinuxCommand}

def LinuxCommand.ignores (command : LinuxCommand) (stderr : String) : Bool :=
  command.ignored.any fun fragment => fragment.toList <:+: stderr.toList

/-- The commands that are run and succeed. -/
def applied : List (LinuxCommand × LinuxOutcome) → List LinuxCommand
  | [] => []
  | (command, none) :: rest => command :: applied rest
  | (command, some stderr) :: rest => if command.ignores stderr then applied rest else []

/-- No failure stops the commands. -/
def succeeds : List (LinuxCommand × LinuxOutcome) → Bool
  | [] => true
  | (_, none) :: rest => succeeds rest
  | (command, some stderr) :: rest => command.ignores stderr && succeeds rest

theorem runAll_kernel (kernel : LinuxKernel) (commands : List (LinuxCommand × LinuxOutcome)) :
    (runAll kernel commands).2 = (applied commands).foldl LinuxKernel.run kernel := by
  induction commands generalizing kernel with
  | nil => rfl
  | cons entry rest ih =>
    rcases entry with ⟨command, _ | stderr⟩
    · exact ih (kernel.run command)
    · change (if command.ignores stderr then runAll kernel rest else (.error stderr, kernel)).2 = _
      rw [applied]
      split
      · exact ih kernel
      · rfl

theorem runAll_ok_iff : (runAll kernel commands).1 = .ok () ↔ succeeds commands = true := by
  induction commands generalizing kernel with
  | nil => exact iff_of_true rfl rfl
  | cons entry rest ih =>
    rcases entry with ⟨command, _ | stderr⟩
    · exact ih
    · change (if command.ignores stderr then runAll kernel rest
        else (.error stderr, kernel)).1 = _ ↔ _
      rw [succeeds]
      split
      · rename_i hignored
        rw [ih, hignored, Bool.true_and]
      · rename_i hignored
        rw [Bool.eq_false_of_not_eq_true hignored, Bool.false_and]
        exact iff_of_false nofun nofun

theorem mem_of_applied (h : command ∈ applied commands) : command ∈ commands.map Prod.fst := by
  induction commands with
  | nil => cases h
  | cons entry rest ih =>
    rcases entry with ⟨command', _ | stderr⟩
    · rcases List.mem_cons.mp h with rfl | hrest
      · exact List.mem_cons_self
      · exact List.mem_cons_of_mem _ (ih hrest)
    · rw [applied] at h
      split at h
      · exact List.mem_cons_of_mem _ (ih h)
      · cases h

/-- A command none of whose failures is ignored takes effect where all succeed. -/
theorem applied_of_succeeds (h : succeeds commands = true) (hmem : command ∈ commands.map Prod.fst)
    (hignored : command.ignored = []) : command ∈ applied commands := by
  induction commands with
  | nil => cases hmem
  | cons entry rest ih =>
    rcases entry with ⟨command', _ | stderr⟩
    · rcases List.mem_cons.mp hmem with rfl | hrest
      · exact List.mem_cons_self
      · exact List.mem_cons_of_mem _ (ih h hrest)
    · rw [succeeds, Bool.and_eq_true] at h
      rw [applied, if_pos h.1]
      rcases List.mem_cons.mp hmem with rfl | hrest
      · have hnever := h.1
        unfold LinuxCommand.ignores at hnever
        rw [hignored] at hnever
        cases hnever
      · exact ih h.2 hrest

theorem map_fst_withOutcomes (outcomes : Nat → LinuxOutcome) (cs : List LinuxCommand) :
    (withOutcomes outcomes cs).map Prod.fst = cs := by
  unfold withOutcomes
  refine List.ext_getElem (by simp) fun i _ _ => ?_
  simp

end

/-! ## What a list of commands does -/

namespace LinuxKernel

variable {kernel : LinuxKernel} {cs : List LinuxCommand}

theorem mem_addresses_foldl (kernel : LinuxKernel) (cs : List LinuxCommand) (d a : String) :
    a ∈ (cs.foldl run kernel).addresses d ↔
      a ∈ kernel.addresses d ∨ .addressReplace a d ∈ cs := by
  induction cs generalizing kernel with
  | nil => simp
  | cons c cs ih =>
    rw [List.foldl_cons, ih, List.mem_cons]
    cases c with
    | addressReplace address device =>
      by_cases hd : d = device
      · subst hd
        simp [run, or_assoc, or_left_comm]
      · simp [run, hd]
    | _ => simp [run]

theorem up_foldl (h : ∀ c ∈ cs, ∀ up d, c ≠ .linkSet up d) :
    (cs.foldl run kernel).up = kernel.up := by
  induction cs generalizing kernel with
  | nil => rfl
  | cons c cs ih =>
    rw [List.foldl_cons, ih fun c' hc' => h c' (List.mem_cons_of_mem _ hc')]
    cases c with
    | linkSet up d => exact absurd rfl (h _ List.mem_cons_self up d)
    | _ => rfl

theorem peers_foldl (h : ∀ c ∈ cs, (∀ d key e a k p, c ≠ .setPeer d key e a k p) ∧
    ∀ d key, c ≠ .removePeer d key) : (cs.foldl run kernel).peers = kernel.peers := by
  induction cs generalizing kernel with
  | nil => rfl
  | cons c cs ih =>
    rw [List.foldl_cons, ih fun c' hc' => h c' (List.mem_cons_of_mem _ hc')]
    cases c with
    | setPeer d key e a k p => exact absurd rfl ((h _ List.mem_cons_self).1 d key e a k p)
    | removePeer d key => exact absurd rfl ((h _ List.mem_cons_self).2 d key)
    | _ => rfl

/-- Peers that are only removed, all of one device and key. -/
theorem peers_foldl_remove {device publicKey : String}
    (h : ∀ c ∈ cs, (∀ d key e a k p, c ≠ .setPeer d key e a k p) ∧
      ∀ d key, c = .removePeer d key → d = device ∧ key = publicKey) (d key : String) :
    (cs.foldl run kernel).peers d key =
      if .removePeer device publicKey ∈ cs ∧ d = device ∧ key = publicKey then none
      else kernel.peers d key := by
  induction cs generalizing kernel with
  | nil => simp
  | cons c cs ih =>
    rw [List.foldl_cons, ih fun c' hc' => h c' (List.mem_cons_of_mem _ hc')]
    have hc := h c List.mem_cons_self
    cases c with
    | setPeer d key e a k p => exact absurd rfl (hc.1 d key e a k p)
    | removePeer d' key' =>
      obtain ⟨rfl, rfl⟩ := hc.2 d' key' rfl
      by_cases hd : d = d' ∧ key = key'
      · simp [run, hd]
      · simp [run, hd]
    | _ => simp [run]

/-- Routes that are only replaced, all to one device. -/
theorem routes_foldl_replace {device : String}
    (h : ∀ c ∈ cs, (∀ cidr d, c = .routeReplace cidr d → d = device) ∧
      ∀ cidr d, c ≠ .routeDel cidr d) (cidr : String) :
    (cs.foldl run kernel).routes cidr =
      if .routeReplace cidr device ∈ cs then some device else kernel.routes cidr := by
  induction cs generalizing kernel with
  | nil => simp
  | cons c cs ih =>
    rw [List.foldl_cons, ih fun c' hc' => h c' (List.mem_cons_of_mem _ hc')]
    have hc := h c List.mem_cons_self
    cases c with
    | routeReplace cidr' d =>
      obtain rfl := hc.1 cidr' d rfl
      by_cases hcidr : cidr = cidr'
      · subst hcidr
        simp [run]
      · simp [run, hcidr]
    | routeDel cidr' d => exact absurd rfl (hc.2 cidr' d)
    | _ => simp [run]

/-- Routes that are only deleted, all of one device. -/
theorem routes_foldl_del {device : String}
    (h : ∀ c ∈ cs, (∀ cidr d, c = .routeDel cidr d → d = device) ∧
      ∀ cidr d, c ≠ .routeReplace cidr d) (cidr d : String) :
    (cs.foldl run kernel).routes cidr = some d ↔
      kernel.routes cidr = some d ∧ ¬(.routeDel cidr device ∈ cs ∧ d = device) := by
  induction cs generalizing kernel with
  | nil => simp
  | cons c cs ih =>
    rw [List.foldl_cons, ih fun c' hc' => h c' (List.mem_cons_of_mem _ hc')]
    have hc := h c List.mem_cons_self
    cases c with
    | routeDel cidr' d' =>
      obtain rfl := hc.1 cidr' d' rfl
      by_cases hcidr : cidr = cidr'
      · subst hcidr
        by_cases hroute : kernel.routes cidr = some d'
        · by_cases hd : d = d'
          · simp [run, hroute, hd]
          · simp [run, hroute, hd, Ne.symm hd]
        · by_cases hd : d = d'
          · simp [run, hroute, hd]
          · simp [run, hroute, hd]
      · simp [run, hcidr]
    | routeReplace cidr' d' => exact absurd rfl (hc.2 cidr' d')
    | _ => simp [run]

/-- No address is allowed to two peers of a device. -/
def Exclusive (kernel : LinuxKernel) : Prop :=
  ∀ d key key' ips ips', kernel.peers d key = some ips → kernel.peers d key' = some ips' →
    key ≠ key' → Disjoint ips ips'

theorem Exclusive.run (h : kernel.Exclusive) (c : LinuxCommand) : (kernel.run c).Exclusive := by
  cases c with
  | setPeer device publicKey endpoint allowedIps keepalive presharedKey =>
    intro d key key' ips ips' hips hips' hne
    simp only [LinuxKernel.run] at hips hips'
    by_cases hd : d = device
    · rw [if_pos hd] at hips hips'
      by_cases hkey : key = publicKey
      · have hkey' : key' ≠ publicKey := fun heq => hne (hkey.trans heq.symm)
        rw [if_pos hkey] at hips
        rw [if_neg hkey'] at hips'
        obtain ⟨old, -, rfl⟩ := Option.map_eq_some_iff.mp hips'
        obtain rfl := Option.some.inj hips
        exact disjoint_sdiff_self_right
      · rw [if_neg hkey] at hips
        obtain ⟨old, hold, rfl⟩ := Option.map_eq_some_iff.mp hips
        by_cases hkey' : key' = publicKey
        · rw [if_pos hkey'] at hips'
          obtain rfl := Option.some.inj hips'
          exact disjoint_sdiff_self_left
        · rw [if_neg hkey'] at hips'
          obtain ⟨old', hold', rfl⟩ := Option.map_eq_some_iff.mp hips'
          exact (h d key key' old old' hold hold' hne).mono Finset.sdiff_subset Finset.sdiff_subset
    · rw [if_neg hd] at hips hips'
      exact h d key key' ips ips' hips hips' hne
  | removePeer device publicKey =>
    intro d key key' ips ips' hips hips' hne
    simp only [LinuxKernel.run] at hips hips'
    split at hips
    · cases hips
    · split at hips'
      · cases hips'
      · exact h d key key' ips ips' hips hips' hne
  | _ => exact h

theorem Exclusive.foldl (h : kernel.Exclusive) (cs : List LinuxCommand) :
    (cs.foldl LinuxKernel.run kernel).Exclusive := by
  induction cs generalizing kernel with
  | nil => exact h
  | cons c cs ih => exact ih (h.run c)

end LinuxKernel

/-! ## The record and the kernel -/

namespace LinuxAdapter

/-- The recorded interface is on this device. -/
def On (s : LinuxAdapter) (device : String) : Prop :=
  ∃ runtime, s.interface = some runtime ∧ device = runtime.name

/-- The kernel's addresses, link state, peers and routes are those recorded. -/
structure Refines (s : LinuxAdapter) : Prop where
  addresses : ∀ device address, address ∈ s.kernel.addresses device ↔
    ∃ runtime, s.interface = some runtime ∧ device = runtime.name ∧ address ∈ runtime.addresses
  up : ∀ device, s.kernel.up device = true ↔
    ∃ runtime, s.interface = some runtime ∧ device = runtime.name ∧ runtime.isUp = true
  peers : ∀ device key ips, s.kernel.peers device key = some ips ↔ s.On device ∧
    ∃ ip peer, s.peers.get? ip = some peer ∧ peer.publicKey = key ∧ peer.allowedIps.toFinset = ips
  routes : ∀ cidr device, s.kernel.routes cidr = some device ↔ s.On device ∧
    ∃ ip peer, s.peers.get? ip = some peer ∧ cidr ∈ peer.allowedIps

/-- What holds whatever the commands do: peers are recorded behind an interface only, and the
kernel allows no address to two peers. -/
structure Sane (s : LinuxAdapter) : Prop where
  peers : s.interface = none → ∀ ip, s.peers.get? ip = none
  exclusive : s.kernel.Exclusive

/-- A peer recorded under another address. -/
def Other (s : LinuxAdapter) (ip : String) (peer : LinuxKernelPeerPlan) : Prop :=
  ∃ ip', ip' ≠ ip ∧ s.peers.get? ip' = some peer

end LinuxAdapter

inductive LinuxAction where
  | applyInterface (outcomes : Nat → LinuxOutcome) (interface : LinuxKernelInterfacePlan)
  | applyPeer (outcomes : Nat → LinuxOutcome) (peerVirtualIp : String) (peer : LinuxKernelPeerPlan)
  | removePeer (outcomes : Nat → LinuxOutcome) (peerVirtualIp : String)
  | bringUp (outcome : LinuxOutcome)
  | bringDown (outcome : LinuxOutcome)

namespace LinuxAdapter

def after (s : LinuxAdapter) : LinuxAction → LinuxAdapter
  | .applyInterface outcomes interface =>
    (s.applyInterface outcomes interface (initialRuntime interface)).2
  | .applyPeer outcomes peerVirtualIp peer => (s.applyPeer outcomes peerVirtualIp peer).2
  | .removePeer outcomes peerVirtualIp => (s.removePeer outcomes peerVirtualIp).2
  | .bringUp outcome => (s.bringUp outcome).2
  | .bringDown outcome => (s.bringDown outcome).2

def step (s : LinuxAdapter) (a : LinuxAction) (t : LinuxAdapter) : Prop := t = s.after a

/-! ## Which calls keep them in step -/

/-- The interface takes the place of the recorded one: it is on the same device, has all its
addresses, and that one is down; or there is nothing left on the other device. -/
def Supersedes (s : LinuxAdapter) (interface : LinuxKernelInterfacePlan) : Prop :=
  ∀ runtime, s.interface = some runtime →
    runtime.isUp = false ∧
      (runtime.name = interface.name →
        ∀ address ∈ runtime.addresses, address ∈ interface.addresses) ∧
      (runtime.name ≠ interface.name → runtime.addresses = [] ∧ ∀ ip, s.peers.get? ip = none)

/-- A peer that shares its key with another shares its allowed IPs, otherwise it shares none; the
peer that it takes the place of has the same key, or another has, and each of its allowed IPs is
still allowed to a peer. -/
structure Fits (s : LinuxAdapter) (ip : String) (peer : LinuxKernelPeerPlan) : Prop where
  sameKey : ∀ other, s.Other ip other → other.publicKey = peer.publicKey →
    other.allowedIps.toFinset = peer.allowedIps.toFinset
  otherKey : ∀ other, s.Other ip other → other.publicKey ≠ peer.publicKey →
    Disjoint other.allowedIps.toFinset peer.allowedIps.toFinset
  oldKey : ∀ old, s.peers.get? ip = some old → old.publicKey ≠ peer.publicKey →
    ∃ other, s.Other ip other ∧ other.publicKey = old.publicKey
  oldRoutes : ∀ old, s.peers.get? ip = some old → ∀ cidr ∈ old.allowedIps, cidr ∉ peer.allowedIps →
    ∃ other, s.Other ip other ∧ cidr ∈ other.allowedIps

/-- A peer with the same key and allowed IPs is recorded. -/
def Recorded (s : LinuxAdapter) (peer : LinuxKernelPeerPlan) : Prop :=
  ∃ ip recorded, s.peers.get? ip = some recorded ∧ recorded.publicKey = peer.publicKey ∧
    recorded.allowedIps.toFinset = peer.allowedIps.toFinset

/-- A peer is removed from the kernel exactly if no other has its key, and each of its routes
exactly if no other peer has it. -/
structure Released (s : LinuxAdapter) (ip device : String) (peer : LinuxKernelPeerPlan)
    (removed : List LinuxCommand) : Prop where
  key : .removePeer device peer.publicKey ∈ removed ↔
    ¬∃ other, s.Other ip other ∧ other.publicKey = peer.publicKey
  routes : ∀ cidr ∈ peer.allowedIps, .routeDel cidr device ∈ removed ↔
    ¬∃ other, s.Other ip other ∧ cidr ∈ other.allowedIps

end LinuxAdapter

/-- A call whose commands all succeed fits the record; one that fails has not changed the kernel. -/
def Tidy (s : LinuxAdapter) : LinuxAction → Prop
  | .applyInterface outcomes interface =>
    let commands := withOutcomes outcomes (applyInterfaceCommands interface)
    if succeeds commands then s.Supersedes interface
    else ∀ address, .addressReplace address interface.name ∈ applied commands →
      ∃ runtime, s.interface = some runtime ∧ interface.name = runtime.name ∧
        address ∈ runtime.addresses
  | .applyPeer outcomes ip peer => ∀ runtime, s.interface = some runtime →
    let commands := withOutcomes outcomes (applyPeerCommands runtime.name peer)
    if succeeds commands then s.Fits ip peer
    else applied commands ≠ [] → s.Recorded peer
  | .removePeer outcomes ip => ∀ runtime, s.interface = some runtime →
    ∀ peer, s.peers.get? ip = some peer →
      s.Released ip runtime.name peer
        (applied (withOutcomes outcomes (removePeerCommands runtime.name peer)))
  | .bringUp _ | .bringDown _ => True

/-! ## What each call does -/

/-- Commands run as far as `applied` says, and fail unless they succeed. -/
theorem runAll_cases (kernel : LinuxKernel) (commands : List (LinuxCommand × LinuxOutcome)) :
    (succeeds commands = true ∧
      runAll kernel commands = (.ok (), (applied commands).foldl LinuxKernel.run kernel)) ∨
    (succeeds commands = false ∧ ∃ err,
      runAll kernel commands = (.error err, (applied commands).foldl LinuxKernel.run kernel)) := by
  have hkernel := runAll_kernel kernel commands
  have hok : (runAll kernel commands).1 = .ok () ↔ succeeds commands = true := runAll_ok_iff
  rcases hrun : runAll kernel commands with ⟨err | done, kernel'⟩
  · rw [hrun] at hkernel hok
    refine .inr ⟨?_, err, ?_⟩
    · exact Bool.eq_false_of_not_eq_true fun h => nomatch hok.mpr h
    · rw [← hkernel]
  · rw [hrun] at hkernel hok
    refine .inl ⟨hok.mp rfl, ?_⟩
    rw [← hkernel]

namespace LinuxAdapter

variable {s : LinuxAdapter}

theorem after_applyInterface (s : LinuxAdapter) (outcomes : Nat → LinuxOutcome)
    (interface : LinuxKernelInterfacePlan) :
    let commands := withOutcomes outcomes (applyInterfaceCommands interface)
    let kernel := (applied commands).foldl LinuxKernel.run s.kernel
    s.after (.applyInterface outcomes interface) =
      if succeeds commands then { s with interface := some (initialRuntime interface), kernel }
      else { s with kernel } := by
  intro commands kernel
  rcases runAll_cases s.kernel commands with ⟨hsucceeds, hrun⟩ | ⟨hsucceeds, err, hrun⟩
  · rw [if_pos hsucceeds, after, applyInterface, hrun]
  · rw [if_neg (by rw [hsucceeds]; nofun), after, applyInterface, hrun]

theorem after_applyPeer {runtime : LinuxKernelRuntime} (h : s.interface = some runtime)
    (outcomes : Nat → LinuxOutcome) (ip : String) (peer : LinuxKernelPeerPlan) :
    let commands := withOutcomes outcomes (applyPeerCommands runtime.name peer)
    let kernel := (applied commands).foldl LinuxKernel.run s.kernel
    s.after (.applyPeer outcomes ip peer) =
      if succeeds commands then { s with peers := s.peers.put ip peer, kernel }
      else { s with kernel } := by
  intro commands kernel
  rcases runAll_cases s.kernel commands with ⟨hsucceeds, hrun⟩ | ⟨hsucceeds, err, hrun⟩
  · rw [if_pos hsucceeds, after, applyPeer, h]
    simp only [hrun, commands]
    rfl
  · rw [if_neg (by rw [hsucceeds]; nofun), after, applyPeer, h]
    simp only [hrun, commands]
    rfl

theorem after_removePeer {runtime : LinuxKernelRuntime} {ip : String} {peer : LinuxKernelPeerPlan}
    (h : s.interface = some runtime) (hpeer : s.peers.get? ip = some peer)
    (outcomes : Nat → LinuxOutcome) :
    let commands := withOutcomes outcomes (removePeerCommands runtime.name peer)
    s.after (.removePeer outcomes ip) =
      { s with peers := s.peers.remove ip,
               kernel := (applied commands).foldl LinuxKernel.run s.kernel } := by
  intro commands
  rw [after, removePeer, h]
  simp only [hpeer, commands, ← runAll_kernel]

/-! ## Interfaces -/

theorem mem_applyInterfaceCommands {interface : LinuxKernelInterfacePlan} {address d : String} :
    .addressReplace address d ∈ applyInterfaceCommands interface ↔
      address ∈ interface.addresses ∧ interface.name = d := by
  simp [applyInterfaceCommands]

theorem of_mem_applied {outcomes : Nat → LinuxOutcome} {cs : List LinuxCommand} {c : LinuxCommand}
    (h : c ∈ applied (withOutcomes outcomes cs)) : c ∈ cs := by
  have hmem := mem_of_applied h
  rwa [map_fst_withOutcomes] at hmem

/-- The commands of an interface touch its addresses only. -/
theorem applyInterface_frame (kernel : LinuxKernel) (outcomes : Nat → LinuxOutcome)
    (interface : LinuxKernelInterfacePlan) :
    let commands := withOutcomes outcomes (applyInterfaceCommands interface)
    let kernel' := (applied commands).foldl LinuxKernel.run kernel
    kernel'.up = kernel.up ∧ kernel'.peers = kernel.peers ∧ kernel'.routes = kernel.routes := by
  intro commands kernel'
  have hno : ∀ c ∈ applied commands, (∀ up d, c ≠ .linkSet up d) ∧
      ((∀ d key e a k p, c ≠ .setPeer d key e a k p) ∧ ∀ d key, c ≠ .removePeer d key) ∧
      (∀ cidr d, c ≠ .routeReplace cidr d) ∧ ∀ cidr d, c ≠ .routeDel cidr d := by
    intro c hc
    have hmem := of_mem_applied hc
    cases c <;> simp [applyInterfaceCommands] at hmem ⊢
  have hup : kernel'.up = kernel.up := LinuxKernel.up_foldl fun c hc => (hno c hc).1
  have hpeers : kernel'.peers = kernel.peers :=
    LinuxKernel.peers_foldl fun c hc => (hno c hc).2.1
  refine ⟨hup, hpeers, ?_⟩
  funext cidr
  have hroutes : kernel'.routes cidr = if .routeReplace cidr interface.name ∈ applied commands then
      some interface.name else kernel.routes cidr :=
    LinuxKernel.routes_foldl_replace (fun c hc =>
      ⟨fun cidr d h => absurd h ((hno c hc).2.2.1 cidr d), (hno c hc).2.2.2⟩) cidr
  have hnone : .routeReplace cidr interface.name ∉ applied commands :=
    fun hmem => (hno _ hmem).2.2.1 cidr interface.name rfl
  rw [hroutes, if_neg hnone]

/-- What was known of the old interface is still known. -/
theorem supersedes_of_refines (h : s.Refines) {kernel : LinuxKernel}
    {interface : LinuxKernelInterfacePlan}
    (haddresses : ∀ d a, a ∈ s.kernel.addresses d → a ∈ kernel.addresses d)
    (hup : kernel.up = s.kernel.up) (hpeers : kernel.peers = s.kernel.peers)
    (hnew : Refines { s with interface := some (initialRuntime interface), kernel }) :
    s.Supersedes interface := by
  intro runtime hruntime
  refine ⟨?_, ?_, ?_⟩
  · refine Bool.eq_false_of_not_eq_true fun hisUp => ?_
    have hlive := (h.up runtime.name).mpr ⟨runtime, hruntime, rfl, hisUp⟩
    rw [← hup] at hlive
    obtain ⟨_, hsome, -, hdown⟩ := (hnew.up runtime.name).mp hlive
    obtain rfl := Option.some.inj hsome
    cases hdown
  · intro hname address haddress
    have hold := (h.addresses runtime.name address).mpr ⟨runtime, hruntime, rfl, haddress⟩
    obtain ⟨_, hsome, -, hmem⟩ :=
      (hnew.addresses runtime.name address).mp (haddresses _ _ hold)
    obtain rfl := Option.some.inj hsome
    exact hmem
  · intro hname
    constructor
    · refine List.eq_nil_iff_forall_not_mem.mpr fun address haddress => ?_
      have hold := (h.addresses runtime.name address).mpr ⟨runtime, hruntime, rfl, haddress⟩
      obtain ⟨_, hsome, heq, -⟩ :=
        (hnew.addresses runtime.name address).mp (haddresses _ _ hold)
      obtain rfl := Option.some.inj hsome
      exact hname heq
    · intro ip
      cases hpeer : s.peers.get? ip with
      | none => rfl
      | some peer =>
        have hold := (h.peers runtime.name peer.publicKey peer.allowedIps.toFinset).mpr
          ⟨⟨runtime, hruntime, rfl⟩, ip, peer, hpeer, rfl, rfl⟩
        rw [← hpeers] at hold
        obtain ⟨⟨_, hsome, heq⟩, -⟩ := (hnew.peers runtime.name _ _).mp hold
        obtain rfl := Option.some.inj hsome
        exact absurd heq hname

/-- Where there are peers, the device is the one that supersedes. -/
theorem Supersedes.on_iff {interface : LinuxKernelInterfacePlan} (h : s.Supersedes interface)
    (hsane : s.Sane) {ip : String} {peer : LinuxKernelPeerPlan}
    (hpeer : s.peers.get? ip = some peer) (d : String) : s.On d ↔ d = interface.name := by
  cases hinterface : s.interface with
  | none =>
    rw [hsane.peers hinterface ip] at hpeer
    cases hpeer
  | some runtime =>
    have hname : runtime.name = interface.name := by
      by_contra hne
      rw [((h runtime hinterface).2.2 hne).2 ip] at hpeer
      cases hpeer
    rw [On, hinterface, ← hname]
    exact ⟨fun ⟨_, hsome, hd⟩ => Option.some.inj hsome ▸ hd, fun hd => ⟨runtime, rfl, hd⟩⟩

theorem applyInterface_ok_iff (h : s.Refines) (hsane : s.Sane) {kernel : LinuxKernel}
    {interface : LinuxKernelInterfacePlan}
    (haddresses : ∀ d a, a ∈ kernel.addresses d ↔ a ∈ s.kernel.addresses d ∨
      (a ∈ interface.addresses ∧ interface.name = d))
    (hup : kernel.up = s.kernel.up) (hpeers : kernel.peers = s.kernel.peers)
    (hroutes : kernel.routes = s.kernel.routes) :
    Refines { s with interface := some (initialRuntime interface), kernel } ↔
      s.Supersedes interface := by
  refine ⟨supersedes_of_refines h (fun d a ha => (haddresses d a).mpr (.inl ha)) hup hpeers,
    fun hsupersedes => ?_⟩
  have hon : ∀ d, On { s with interface := some (initialRuntime interface), kernel } d ↔
      d = interface.name := by
    refine fun d => ⟨?_, fun hd => ⟨_, rfl, hd⟩⟩
    rintro ⟨_, hsome, hd⟩
    obtain rfl := Option.some.inj hsome
    exact hd
  refine ⟨?_, ?_, ?_, ?_⟩
  · intro d a
    rw [haddresses, h.addresses]
    constructor
    · rintro (⟨runtime, hruntime, rfl, hmem⟩ | ⟨hmem, rfl⟩)
      · obtain ⟨-, hsame, hother⟩ := hsupersedes runtime hruntime
        by_cases hname : runtime.name = interface.name
        · exact ⟨_, rfl, hname, hsame hname a hmem⟩
        · rw [(hother hname).1] at hmem
          cases hmem
      · exact ⟨_, rfl, rfl, hmem⟩
    · rintro ⟨_, hsome, rfl, hmem⟩
      obtain rfl := Option.some.inj hsome
      exact .inr ⟨hmem, rfl⟩
  · intro d
    rw [hup, h.up]
    constructor
    · rintro ⟨runtime, hruntime, -, hisUp⟩
      rw [(hsupersedes runtime hruntime).1] at hisUp
      cases hisUp
    · rintro ⟨_, hsome, -, hisUp⟩
      obtain rfl := Option.some.inj hsome
      cases hisUp
  · intro d key ips
    rw [hpeers, h.peers, hon]
    exact and_congr_left fun ⟨_, _, hpeer, _⟩ => hsupersedes.on_iff hsane hpeer d
  · intro cidr d
    rw [hroutes, h.routes, hon]
    exact and_congr_left fun ⟨_, _, hpeer, _⟩ => hsupersedes.on_iff hsane hpeer d

theorem applyInterface_failed_iff (h : s.Refines) {kernel : LinuxKernel} (device : String)
    (addresses : Set String)
    (haddresses : ∀ d a, a ∈ kernel.addresses d ↔ a ∈ s.kernel.addresses d ∨
      (a ∈ addresses ∧ device = d))
    (hup : kernel.up = s.kernel.up) (hpeers : kernel.peers = s.kernel.peers)
    (hroutes : kernel.routes = s.kernel.routes) :
    Refines { s with kernel } ↔ ∀ a ∈ addresses, ∃ runtime, s.interface = some runtime ∧
      device = runtime.name ∧ a ∈ runtime.addresses := by
  constructor
  · intro hnew a ha
    exact (hnew.addresses device a).mp ((haddresses device a).mpr (.inr ⟨ha, rfl⟩))
  · intro hrecorded
    refine ⟨?_, ?_, ?_, ?_⟩
    · intro d a
      rw [haddresses, h.addresses]
      refine ⟨?_, .inl⟩
      rintro (hold | ⟨ha, rfl⟩)
      · exact hold
      · exact hrecorded a ha
    · intro d
      rw [hup]
      exact h.up d
    · intro d key ips
      rw [hpeers]
      exact h.peers d key ips
    · intro cidr d
      rw [hroutes]
      exact h.routes cidr d

theorem applyInterface_refines_iff (h : s.Refines) (hsane : s.Sane)
    (outcomes : Nat → LinuxOutcome) (interface : LinuxKernelInterfacePlan) :
    Tidy s (.applyInterface outcomes interface) ↔
      (s.after (.applyInterface outcomes interface)).Refines := by
  obtain ⟨hup, hpeers, hroutes⟩ := applyInterface_frame s.kernel outcomes interface
  have haddresses := LinuxKernel.mem_addresses_foldl s.kernel
    (applied (withOutcomes outcomes (applyInterfaceCommands interface)))
  rw [after_applyInterface, Tidy]
  by_cases hsucceeds : succeeds (withOutcomes outcomes (applyInterfaceCommands interface)) = true
  · rw [if_pos hsucceeds, if_pos hsucceeds]
    refine (applyInterface_ok_iff h hsane (fun d a => ?_) hup hpeers hroutes).symm
    rw [haddresses, ← mem_applyInterfaceCommands]
    refine or_congr_right ⟨of_mem_applied, fun hmem => applied_of_succeeds hsucceeds ?_ rfl⟩
    rwa [map_fst_withOutcomes]
  · rw [if_neg hsucceeds, if_neg hsucceeds]
    refine (applyInterface_failed_iff h interface.name
      (fun a => .addressReplace a interface.name ∈ applied _)
      (fun d a => ?_) hup hpeers hroutes).symm
    rw [haddresses]
    refine or_congr_right ⟨fun hmem => ?_, ?_⟩
    · obtain ⟨-, rfl⟩ := mem_applyInterfaceCommands.mp (of_mem_applied hmem)
      exact ⟨hmem, rfl⟩
    · rintro ⟨hmem, rfl⟩
      exact hmem

/-! ## Peers -/

theorem exists_peer_iff (s : LinuxAdapter) (ip : String) (Q : LinuxKernelPeerPlan → Prop) :
    (∃ ip' peer, s.peers.get? ip' = some peer ∧ Q peer) ↔
      (∃ old, s.peers.get? ip = some old ∧ Q old) ∨ ∃ other, s.Other ip other ∧ Q other := by
  constructor
  · rintro ⟨ip', peer, hpeer, hQ⟩
    by_cases hip : ip' = ip
    · subst hip
      exact .inl ⟨peer, hpeer, hQ⟩
    · exact .inr ⟨peer, ⟨ip', hip, hpeer⟩, hQ⟩
  · rintro (⟨old, hold, hQ⟩ | ⟨other, ⟨ip', -, hother⟩, hQ⟩)
    · exact ⟨ip, old, hold, hQ⟩
    · exact ⟨ip', other, hother, hQ⟩

theorem exists_peer_put_iff (s : LinuxAdapter) (ip : String) (peer : LinuxKernelPeerPlan)
    (Q : LinuxKernelPeerPlan → Prop) :
    (∃ ip' peer', (s.peers.put ip peer).get? ip' = some peer' ∧ Q peer') ↔
      Q peer ∨ ∃ other, s.Other ip other ∧ Q other := by
  simp only [Table.get?_put]
  constructor
  · rintro ⟨ip', peer', hpeer, hQ⟩
    by_cases hip : ip' = ip
    · rw [if_pos hip] at hpeer
      obtain rfl := Option.some.inj hpeer
      exact .inl hQ
    · rw [if_neg hip] at hpeer
      exact .inr ⟨peer', ⟨ip', hip, hpeer⟩, hQ⟩
  · rintro (hQ | ⟨other, ⟨ip', hip, hother⟩, hQ⟩)
    · exact ⟨ip, peer, if_pos rfl, hQ⟩
    · exact ⟨ip', other, (if_neg hip).trans hother, hQ⟩

theorem exists_peer_remove_iff (s : LinuxAdapter) (ip : String) (Q : LinuxKernelPeerPlan → Prop) :
    (∃ ip' peer, (s.peers.remove ip).get? ip' = some peer ∧ Q peer) ↔
      ∃ other, s.Other ip other ∧ Q other := by
  simp only [Table.get?_remove]
  constructor
  · rintro ⟨ip', peer, hpeer, hQ⟩
    by_cases hip : ip' = ip
    · rw [if_pos hip] at hpeer
      cases hpeer
    · rw [if_neg hip] at hpeer
      exact ⟨peer, ⟨ip', hip, hpeer⟩, hQ⟩
  · rintro ⟨other, ⟨ip', hip, hother⟩, hQ⟩
    exact ⟨ip', other, (if_neg hip).trans hother, hQ⟩

theorem on_iff {runtime : LinuxKernelRuntime} (h : s.interface = some runtime) (d : String) :
    s.On d ↔ d = runtime.name := by
  simp only [On, h, Option.some.injEq, exists_eq_left']

/-- A change of the peers has to fit the peers and the routes. -/
theorem refines_iff_of_peers (h : s.Refines) {runtime : LinuxKernelRuntime}
    (hruntime : s.interface = some runtime) {peers : Table LinuxKernelPeerPlan}
    {kernel : LinuxKernel}
    (haddresses : ∀ d a, a ∈ kernel.addresses d ↔ a ∈ s.kernel.addresses d)
    (hup : kernel.up = s.kernel.up) :
    Refines { s with peers, kernel } ↔
      (∀ d key ips, kernel.peers d key = some ips ↔ d = runtime.name ∧ ∃ ip peer,
        peers.get? ip = some peer ∧ peer.publicKey = key ∧ peer.allowedIps.toFinset = ips) ∧
      ∀ cidr d, kernel.routes cidr = some d ↔ d = runtime.name ∧ ∃ ip peer,
        peers.get? ip = some peer ∧ cidr ∈ peer.allowedIps := by
  have hon : ∀ d, On { s with peers, kernel } d ↔ d = runtime.name := on_iff hruntime
  constructor
  · intro hnew
    refine ⟨fun d key ips => ?_, fun cidr d => ?_⟩
    · rw [← hon]
      exact hnew.peers d key ips
    · rw [← hon]
      exact hnew.routes cidr d
  · rintro ⟨hpeers, hroutes⟩
    refine ⟨fun d a => ?_, fun d => ?_, fun d key ips => ?_, fun cidr d => ?_⟩
    · exact (haddresses d a).trans (h.addresses d a)
    · rw [hup]
      exact h.up d
    · rw [hon]
      exact hpeers d key ips
    · rw [hon]
      exact hroutes cidr d

/-- Peers with one key have the same allowed IPs, as the kernel has one such peer. -/
theorem Refines.allowedIps_eq (h : s.Refines) {runtime : LinuxKernelRuntime}
    (hruntime : s.interface = some runtime) {ip ip' : String} {peer peer' : LinuxKernelPeerPlan}
    (hpeer : s.peers.get? ip = some peer) (hpeer' : s.peers.get? ip' = some peer')
    (hkey : peer.publicKey = peer'.publicKey) :
    peer.allowedIps.toFinset = peer'.allowedIps.toFinset := by
  have hlive := (h.peers runtime.name peer'.publicKey _).mpr
    ⟨(on_iff hruntime _).mpr rfl, ip, peer, hpeer, hkey, rfl⟩
  have hlive' := (h.peers runtime.name peer'.publicKey _).mpr
    ⟨(on_iff hruntime _).mpr rfl, ip', peer', hpeer', rfl, rfl⟩
  exact Option.some.inj (hlive.symm.trans hlive')

/-- The kernel after `wg set … peer`, and the routes of the peer. -/
structure HasPeer (s : LinuxAdapter) (device : String) (peer : LinuxKernelPeerPlan)
    (kernel : LinuxKernel) : Prop where
  peers : ∀ d key, kernel.peers d key =
    if d = device then
      if key = peer.publicKey then some peer.allowedIps.toFinset
      else (s.kernel.peers d key).map fun ips => ips \ peer.allowedIps.toFinset
    else s.kernel.peers d key
  routes : ∀ cidr, (kernel.routes cidr = s.kernel.routes cidr ∧ cidr ∉ peer.allowedIps) ∨
    (kernel.routes cidr = some device ∧ cidr ∈ peer.allowedIps)

section PutPeer

variable {runtime : LinuxKernelRuntime} {kernel : LinuxKernel} {ip : String}
  {peer : LinuxKernelPeerPlan}

/-- What the kernel lists fits, if it is the other peers and the new one. -/
theorem fits_of_listed (h : s.Refines) (hruntime : s.interface = some runtime)
    (hpeer : s.HasPeer runtime.name peer kernel)
    (hpeers : ∀ d key ips, kernel.peers d key = some ips ↔ d = runtime.name ∧
      (peer.publicKey = key ∧ peer.allowedIps.toFinset = ips ∨
        ∃ other, s.Other ip other ∧ other.publicKey = key ∧ other.allowedIps.toFinset = ips))
    (hroutes : ∀ cidr d, kernel.routes cidr = some d ↔ d = runtime.name ∧
      (cidr ∈ peer.allowedIps ∨ ∃ other, s.Other ip other ∧ cidr ∈ other.allowedIps)) :
    s.Fits ip peer := by
  have hon := on_iff hruntime
  have hlive : ∀ other, (∃ ip', s.peers.get? ip' = some other) →
      s.kernel.peers runtime.name other.publicKey = some other.allowedIps.toFinset :=
    fun other ⟨ip', hother⟩ =>
      (h.peers _ _ _).mpr ⟨(hon _).mpr rfl, ip', other, hother, rfl, rfl⟩
  refine ⟨?_, ?_, ?_, ?_⟩
  · intro other hother hkey
    have hset := (hpeers runtime.name peer.publicKey other.allowedIps.toFinset).mpr
      ⟨rfl, .inr ⟨other, hother, hkey, rfl⟩⟩
    rw [hpeer.peers, if_pos rfl, if_pos rfl] at hset
    exact (Option.some.inj hset).symm
  · rintro other ⟨ip', hip, hother⟩ hkey
    have hkept := (hpeers runtime.name other.publicKey other.allowedIps.toFinset).mpr
      ⟨rfl, .inr ⟨other, ⟨ip', hip, hother⟩, rfl, rfl⟩⟩
    rw [hpeer.peers, if_pos rfl, if_neg hkey, hlive other ⟨ip', hother⟩, Option.map_some,
      Option.some.injEq] at hkept
    exact Finset.sdiff_eq_self_iff_disjoint.mp hkept
  · intro old hold hkey
    have hleft : kernel.peers runtime.name old.publicKey =
        some (old.allowedIps.toFinset \ peer.allowedIps.toFinset) := by
      rw [hpeer.peers, if_pos rfl, if_neg hkey, hlive old ⟨ip, hold⟩, Option.map_some]
    obtain ⟨-, ⟨heq, -⟩ | ⟨other, hother, hsame, -⟩⟩ := (hpeers _ _ _).mp hleft
    · exact absurd heq.symm hkey
    · exact ⟨other, hother, hsame⟩
  · intro old hold cidr hmem hnot
    have hroute := (h.routes cidr runtime.name).mpr ⟨(hon _).mpr rfl, ip, old, hold, hmem⟩
    obtain ⟨hsame, -⟩ | ⟨-, hin⟩ := hpeer.routes cidr
    · rw [← hsame] at hroute
      obtain ⟨-, hin | hother⟩ := (hroutes _ _).mp hroute
      · exact absurd hin hnot
      · exact hother
    · exact absurd hin hnot

theorem Fits.peers_iff (hfits : s.Fits ip peer) (h : s.Refines)
    (hruntime : s.interface = some runtime) (hpeer : s.HasPeer runtime.name peer kernel)
    (d key : String) (ips : Finset String) :
    kernel.peers d key = some ips ↔ d = runtime.name ∧
      (peer.publicKey = key ∧ peer.allowedIps.toFinset = ips ∨
        ∃ other, s.Other ip other ∧ other.publicKey = key ∧
          other.allowedIps.toFinset = ips) := by
  have hon := on_iff hruntime
  rw [hpeer.peers]
  by_cases hd : d = runtime.name
  · rw [if_pos hd]
    by_cases hkey : key = peer.publicKey
    · rw [if_pos hkey, Option.some.injEq]
      constructor
      · intro heq
        exact ⟨hd, .inl ⟨hkey.symm, heq⟩⟩
      · rintro ⟨-, ⟨-, heq⟩ | ⟨other, hother, hsame, heq⟩⟩
        · exact heq
        · rw [← hfits.sameKey other hother (hsame.trans hkey), heq]
    · rw [if_neg hkey, Option.map_eq_some_iff]
      constructor
      · rintro ⟨ips', hold, rfl⟩
        rw [h.peers, exists_peer_iff s ip] at hold
        obtain ⟨-, ⟨old, hold, rfl, rfl⟩ | ⟨other, hother, rfl, rfl⟩⟩ := hold
        · obtain ⟨other, hother, hsame⟩ := hfits.oldKey old hold hkey
          obtain ⟨ip', hip, hget⟩ := hother
          rw [← h.allowedIps_eq hruntime hget hold hsame]
          have hdisjoint := hfits.otherKey other ⟨ip', hip, hget⟩ fun heq =>
            hkey (hsame.symm.trans heq)
          exact ⟨hd, .inr ⟨other, ⟨ip', hip, hget⟩, hsame,
            (Finset.sdiff_eq_self_iff_disjoint.mpr hdisjoint).symm⟩⟩
        · have hdisjoint := hfits.otherKey other hother hkey
          exact ⟨hd, .inr ⟨other, hother, rfl,
            (Finset.sdiff_eq_self_iff_disjoint.mpr hdisjoint).symm⟩⟩
      · rintro ⟨-, ⟨heq, -⟩ | ⟨other, hother, rfl, rfl⟩⟩
        · exact absurd heq.symm hkey
        · have hdisjoint := hfits.otherKey other hother hkey
          obtain ⟨ip', -, hget⟩ := hother
          exact ⟨_, (h.peers _ _ _).mpr ⟨(hon d).mpr hd, ip', other, hget, rfl, rfl⟩,
            Finset.sdiff_eq_self_iff_disjoint.mpr hdisjoint⟩
  · rw [if_neg hd, h.peers, hon]
    exact iff_of_false (fun hold => hd hold.1) fun hnew => hd hnew.1

theorem Fits.routes_iff (hfits : s.Fits ip peer) (h : s.Refines)
    (hruntime : s.interface = some runtime) (hpeer : s.HasPeer runtime.name peer kernel)
    (cidr d : String) :
    kernel.routes cidr = some d ↔ d = runtime.name ∧
      (cidr ∈ peer.allowedIps ∨ ∃ other, s.Other ip other ∧ cidr ∈ other.allowedIps) := by
  have hon := on_iff hruntime
  obtain ⟨hsame, hnot⟩ | ⟨hroute, hin⟩ := hpeer.routes cidr
  · rw [hsame, h.routes, hon, exists_peer_iff s ip]
    refine and_congr_right fun _ => ⟨?_, ?_⟩
    · rintro (⟨old, hold, hmem⟩ | hother)
      · exact .inr (hfits.oldRoutes old hold cidr hmem hnot)
      · exact .inr hother
    · rintro (hin | hother)
      · exact absurd hin hnot
      · exact .inr hother
  · rw [hroute, Option.some.injEq]
    exact ⟨fun heq => ⟨heq.symm, .inl hin⟩, fun heq => heq.1.symm⟩

theorem applyPeer_ok_iff (h : s.Refines) (hruntime : s.interface = some runtime)
    (haddresses : ∀ d a, a ∈ kernel.addresses d ↔ a ∈ s.kernel.addresses d)
    (hup : kernel.up = s.kernel.up) (hpeer : s.HasPeer runtime.name peer kernel) :
    Refines { s with peers := s.peers.put ip peer, kernel } ↔ s.Fits ip peer := by
  rw [refines_iff_of_peers h hruntime haddresses hup]
  simp only [exists_peer_put_iff]
  constructor
  · rintro ⟨hpeers, hroutes⟩
    exact fits_of_listed h hruntime hpeer hpeers hroutes
  · intro hfits
    exact ⟨hfits.peers_iff h hruntime hpeer, hfits.routes_iff h hruntime hpeer⟩

end PutPeer

theorem applyPeer_failed_iff (h : s.Refines) (hsane : s.Sane) {runtime : LinuxKernelRuntime}
    (hruntime : s.interface = some runtime) {kernel : LinuxKernel} {peer : LinuxKernelPeerPlan}
    (haddresses : ∀ d a, a ∈ kernel.addresses d ↔ a ∈ s.kernel.addresses d)
    (hup : kernel.up = s.kernel.up)
    (hpeers : ∀ d key, kernel.peers d key =
      if d = runtime.name then
        if key = peer.publicKey then some peer.allowedIps.toFinset
        else (s.kernel.peers d key).map fun ips => ips \ peer.allowedIps.toFinset
      else s.kernel.peers d key)
    (hroutes : ∀ cidr, kernel.routes cidr = s.kernel.routes cidr ∨
      (kernel.routes cidr = some runtime.name ∧ cidr ∈ peer.allowedIps)) :
    Refines { s with kernel } ↔ s.Recorded peer := by
  have hon := on_iff hruntime
  have hiff : Refines { s with kernel } ↔ _ := refines_iff_of_peers h hruntime haddresses hup
  refine hiff.trans ⟨?_, ?_⟩
  · rintro ⟨hnew, -⟩
    have hset : kernel.peers runtime.name peer.publicKey = some peer.allowedIps.toFinset := by
      rw [hpeers, if_pos rfl, if_pos rfl]
    exact ((hnew _ _ _).mp hset).2
  · rintro ⟨ip, recorded, hrecorded, hkey, hips⟩
    have hlive := (h.peers runtime.name peer.publicKey peer.allowedIps.toFinset).mpr
      ⟨(hon _).mpr rfl, ip, recorded, hrecorded, hkey, hips⟩
    -- No other peer has any of its allowed IPs, so that none moves.
    have hsame : kernel.peers = s.kernel.peers := by
      funext d key
      rw [hpeers]
      by_cases hd : d = runtime.name
      · rw [if_pos hd]
        by_cases hsamekey : key = peer.publicKey
        · rw [if_pos hsamekey, hd, hsamekey, hlive]
        · rw [if_neg hsamekey]
          cases hother : s.kernel.peers d key with
          | none => rfl
          | some ips =>
            rw [← hd] at hlive
            have hdisjoint := hsane.exclusive d key peer.publicKey _ _ hother hlive hsamekey
            exact congrArg some (Finset.sdiff_eq_self_iff_disjoint.mpr hdisjoint)
      · rw [if_neg hd]
    refine ⟨fun d key ips => ?_, fun cidr d => ?_⟩
    · rw [hsame, h.peers, hon]
    · have hroute : kernel.routes cidr = s.kernel.routes cidr := by
        obtain heq | ⟨heq, hmem⟩ := hroutes cidr
        · exact heq
        · rw [← List.mem_toFinset, ← hips, List.mem_toFinset] at hmem
          have hold := (h.routes cidr runtime.name).mpr
            ⟨(hon _).mpr rfl, ip, recorded, hrecorded, hmem⟩
          rw [heq, hold]
      rw [hroute, h.routes, hon]

/-- Of the commands of a peer none runs, or the first one and some of its routes. -/
theorem applied_applyPeerCommands (outcomes : Nat → LinuxOutcome) (device : String)
    (peer : LinuxKernelPeerPlan) :
    applied (withOutcomes outcomes (applyPeerCommands device peer)) = [] ∨
    ∃ routes, (∀ c ∈ routes, ∃ cidr ∈ peer.allowedIps, c = .routeReplace cidr device) ∧
      applied (withOutcomes outcomes (applyPeerCommands device peer)) =
        .setPeer device peer.publicKey peer.endpoint peer.allowedIps
          peer.persistentKeepaliveSeconds peer.presharedKey :: routes := by
  unfold withOutcomes applyPeerCommands
  rw [List.mapIdx_cons]
  cases outcomes 0 with
  | some stderr => exact .inl rfl
  | none =>
    refine .inr ⟨_, fun c hc => ?_, rfl⟩
    have hmem := @of_mem_applied (fun i => outcomes (i + 1)) _ c hc
    obtain ⟨cidr, hcidr, rfl⟩ := List.mem_map.mp hmem
    exact ⟨cidr, hcidr, rfl⟩

section

variable {device : String} {peer : LinuxKernelPeerPlan} {routes : List LinuxCommand}
  (hroutes : ∀ c ∈ routes, ∃ cidr ∈ peer.allowedIps, c = .routeReplace cidr device)

include hroutes

theorem routes_peers (kernel : LinuxKernel) :
    (routes.foldl LinuxKernel.run kernel).peers = kernel.peers := by
  refine LinuxKernel.peers_foldl fun c hc => ?_
  obtain ⟨cidr, -, rfl⟩ := hroutes c hc
  exact ⟨nofun, nofun⟩

theorem routes_routes (kernel : LinuxKernel) (cidr : String) :
    (routes.foldl LinuxKernel.run kernel).routes cidr =
      if .routeReplace cidr device ∈ routes then some device else kernel.routes cidr := by
  refine LinuxKernel.routes_foldl_replace (fun c hc => ?_) cidr
  obtain ⟨cidr', -, rfl⟩ := hroutes c hc
  refine ⟨fun cidr'' d h => ?_, nofun⟩
  injection h with _ hd
  exact hd.symm

theorem routes_addresses (kernel : LinuxKernel) (d a : String) :
    a ∈ (routes.foldl LinuxKernel.run kernel).addresses d ↔ a ∈ kernel.addresses d := by
  rw [LinuxKernel.mem_addresses_foldl]
  refine or_iff_left fun hmem => ?_
  obtain ⟨cidr, -, h⟩ := hroutes _ hmem
  cases h

theorem routes_up (kernel : LinuxKernel) :
    (routes.foldl LinuxKernel.run kernel).up = kernel.up := by
  refine LinuxKernel.up_foldl fun c hc => ?_
  obtain ⟨cidr, -, rfl⟩ := hroutes c hc
  exact nofun

end

theorem forall_interface_iff {runtime : LinuxKernelRuntime} (h : s.interface = some runtime)
    {Q : LinuxKernelRuntime → Prop} :
    (∀ runtime', s.interface = some runtime' → Q runtime') ↔ Q runtime := by
  simp only [h, Option.some.injEq, forall_eq']

theorem applyPeer_refines_iff (h : s.Refines) (hsane : s.Sane) (outcomes : Nat → LinuxOutcome)
    (ip : String) (peer : LinuxKernelPeerPlan) :
    Tidy s (.applyPeer outcomes ip peer) ↔ (s.after (.applyPeer outcomes ip peer)).Refines := by
  cases hinterface : s.interface with
  | none =>
    have hsame : s.after (.applyPeer outcomes ip peer) = s := by
      rw [after, applyPeer, hinterface]
    rw [hsame, Tidy]
    exact iff_of_true (fun runtime hruntime => nomatch hinterface.symm.trans hruntime) h
  | some runtime =>
    rw [after_applyPeer hinterface, Tidy, forall_interface_iff hinterface]
    dsimp only
    -- the commands run in order: without the first nothing is applied
    obtain hnil | ⟨routes, hroutes, happlied⟩ :=
      applied_applyPeerCommands outcomes runtime.name peer
    · have hfailed : ¬succeeds (withOutcomes outcomes (applyPeerCommands runtime.name peer)) =
          true := by
        intro hsucceeds
        have hmem := applied_of_succeeds hsucceeds
          (by rw [map_fst_withOutcomes]; exact List.mem_cons_self) rfl
        rw [hnil] at hmem
        cases hmem
      rw [if_neg hfailed, if_neg hfailed, hnil]
      exact iff_of_true (fun hne => absurd rfl hne) h
    · rw [happlied, List.foldl_cons]
      generalize hset : LinuxCommand.setPeer runtime.name peer.publicKey peer.endpoint
        peer.allowedIps peer.persistentKeepaliveSeconds peer.presharedKey = set at happlied ⊢
      have haddresses := routes_addresses hroutes (s.kernel.run set)
      have hup := routes_up hroutes (s.kernel.run set)
      have hpeers := routes_peers hroutes (s.kernel.run set)
      have hroute := routes_routes hroutes (s.kernel.run set)
      subst hset
      split
      · rename_i hsucceeds
        refine (applyPeer_ok_iff h hinterface haddresses hup ⟨fun d key => ?_, fun cidr => ?_⟩).symm
        · rw [hpeers]
          rfl
        · rw [hroute]
          by_cases hcidr : cidr ∈ peer.allowedIps
          · have hroute' : .routeReplace cidr runtime.name ∈
                applyPeerCommands runtime.name peer :=
              List.mem_cons_of_mem _ (List.mem_map.mpr ⟨cidr, hcidr, rfl⟩)
            rw [← map_fst_withOutcomes outcomes (applyPeerCommands runtime.name peer)] at hroute'
            have hmem := applied_of_succeeds hsucceeds hroute' rfl
            rw [happlied] at hmem
            obtain h' | hmem := List.mem_cons.mp hmem
            · cases h'
            · exact .inr ⟨if_pos hmem, hcidr⟩
          · refine .inl ⟨if_neg fun hmem => ?_, hcidr⟩
            obtain ⟨cidr', hcidr', heq⟩ := hroutes _ hmem
            injection heq with heq
            exact hcidr (heq ▸ hcidr')
      · rw [imp_iff_right (List.cons_ne_nil _ _)]
        refine (applyPeer_failed_iff h hsane hinterface haddresses hup (fun d key => ?_)
          fun cidr => ?_).symm
        · rw [hpeers]
          rfl
        · rw [hroute]
          split
          · rename_i hmem
            obtain ⟨cidr', hcidr', heq⟩ := hroutes _ hmem
            injection heq with heq
            exact .inr ⟨rfl, heq ▸ hcidr'⟩
          · exact .inl rfl

section

variable {runtime : LinuxKernelRuntime} {ip : String} {peer : LinuxKernelPeerPlan}

theorem Refines.peers_iff (h : s.Refines) (hruntime : s.interface = some runtime)
    (hpeer : s.peers.get? ip = some peer) (d key : String) (ips : Finset String) :
    s.kernel.peers d key = some ips ↔ d = runtime.name ∧
      ((peer.publicKey = key ∧ peer.allowedIps.toFinset = ips) ∨
        ∃ other, s.Other ip other ∧ other.publicKey = key ∧ other.allowedIps.toFinset = ips) := by
  rw [h.peers, on_iff hruntime, exists_peer_iff s ip, hpeer]
  simp only [Option.some.injEq, exists_eq_left']

theorem Refines.routes_iff (h : s.Refines) (hruntime : s.interface = some runtime)
    (hpeer : s.peers.get? ip = some peer) (cidr d : String) :
    s.kernel.routes cidr = some d ↔ d = runtime.name ∧
      (cidr ∈ peer.allowedIps ∨ ∃ other, s.Other ip other ∧ cidr ∈ other.allowedIps) := by
  rw [h.routes, on_iff hruntime, exists_peer_iff s ip, hpeer]
  simp only [Option.some.injEq, exists_eq_left']

/-- With a peer gone from the record, its key has to go exactly if no other peer has it. -/
theorem removePeer_peers_iff (h : s.Refines) (hruntime : s.interface = some runtime)
    (hpeer : s.peers.get? ip = some peer) (gone : Prop) [Decidable gone] :
    (∀ d key ips, (if gone ∧ d = runtime.name ∧ key = peer.publicKey then none
        else s.kernel.peers d key) = some ips ↔
      d = runtime.name ∧ ∃ other, s.Other ip other ∧
        other.publicKey = key ∧ other.allowedIps.toFinset = ips) ↔
    (gone ↔ ¬∃ other, s.Other ip other ∧ other.publicKey = peer.publicKey) := by
  constructor
  · intro hnew
    refine ⟨?_, fun hnone => ?_⟩
    · rintro hgone ⟨other, hother, hkey⟩
      have hlive := (hnew runtime.name peer.publicKey _).mpr ⟨rfl, other, hother, hkey, rfl⟩
      rw [if_pos ⟨hgone, rfl, rfl⟩] at hlive
      cases hlive
    · by_contra hnot
      have hlive := (h.peers_iff hruntime hpeer runtime.name peer.publicKey _).mpr
        ⟨rfl, .inl ⟨rfl, rfl⟩⟩
      have hkept := (hnew _ _ _).mp ((if_neg fun hgone => hnot hgone.1).trans hlive)
      obtain ⟨-, other, hother, hkey, -⟩ := hkept
      exact hnone ⟨other, hother, hkey⟩
  · intro hgone d key ips
    -- only the key of the removed peer is in question
    by_cases hkey : d = runtime.name ∧ key = peer.publicKey
    · obtain ⟨rfl, rfl⟩ := hkey
      by_cases hin : gone
      · rw [if_pos ⟨hin, rfl, rfl⟩]
        refine iff_of_false nofun ?_
        rintro ⟨-, other, hother, hkey, -⟩
        exact hgone.mp hin ⟨other, hother, hkey⟩
      · rw [if_neg fun hall => hin hall.1, h.peers_iff hruntime hpeer]
        refine and_congr_right fun _ => ⟨?_, .inr⟩
        rintro (⟨-, rfl⟩ | hother)
        · obtain ⟨other, ⟨ip', hip, hget⟩, hkey⟩ := not_not.mp (mt hgone.mpr hin)
          exact ⟨other, ⟨ip', hip, hget⟩, hkey, h.allowedIps_eq hruntime hget hpeer hkey⟩
        · exact hother
    · rw [if_neg fun hall => hkey hall.2, h.peers_iff hruntime hpeer]
      refine and_congr_right fun hd => ⟨?_, .inr⟩
      rintro (⟨rfl, -⟩ | hother)
      · exact absurd ⟨hd, rfl⟩ hkey
      · exact hother

/-- And each of its routes exactly if no other peer has it. -/
theorem removePeer_routes_iff (h : s.Refines) (hruntime : s.interface = some runtime)
    (hpeer : s.peers.get? ip = some peer) {gone : String → Prop}
    (hgone : ∀ cidr, gone cidr → cidr ∈ peer.allowedIps) :
    (∀ cidr d, (s.kernel.routes cidr = some d ∧ ¬(gone cidr ∧ d = runtime.name)) ↔
      d = runtime.name ∧ ∃ other, s.Other ip other ∧ cidr ∈ other.allowedIps) ↔
    ∀ cidr ∈ peer.allowedIps, gone cidr ↔ ¬∃ other, s.Other ip other ∧ cidr ∈ other.allowedIps := by
  constructor
  · intro hnew cidr hcidr
    refine ⟨fun hin hother => ?_, fun hnone => ?_⟩
    · exact ((hnew cidr runtime.name).mpr ⟨rfl, hother⟩).2 ⟨hin, rfl⟩
    · by_contra hnot
      have hlive := (h.routes_iff hruntime hpeer cidr runtime.name).mpr ⟨rfl, .inl hcidr⟩
      exact hnone ((hnew cidr runtime.name).mp ⟨hlive, fun hin => hnot hin.1⟩).2
  · intro hreleased cidr d
    rw [h.routes_iff hruntime hpeer]
    constructor
    · rintro ⟨⟨rfl, hcidr | hother⟩, hnot⟩
      · have hkept := mt (hreleased cidr hcidr).mpr fun hin => hnot ⟨hin, rfl⟩
        exact ⟨rfl, not_not.mp hkept⟩
      · exact ⟨rfl, hother⟩
    · rintro ⟨rfl, hother⟩
      exact ⟨⟨rfl, .inr hother⟩, fun hin => (hreleased cidr (hgone cidr hin.1)).mp hin.1 hother⟩

theorem removePeer_iff (h : s.Refines) (hruntime : s.interface = some runtime)
    (hpeer : s.peers.get? ip = some peer) {removed : List LinuxCommand}
    (hremoved : ∀ c ∈ removed, c ∈ removePeerCommands runtime.name peer) :
    Refines { s with peers := s.peers.remove ip,
                     kernel := removed.foldl LinuxKernel.run s.kernel } ↔
      s.Released ip runtime.name peer removed := by
  have hcase : ∀ c ∈ removed, c = .removePeer runtime.name peer.publicKey ∨
      ∃ cidr ∈ peer.allowedIps, c = .routeDel cidr runtime.name := by
    intro c hc
    obtain rfl | hmem := List.mem_cons.mp (hremoved c hc)
    · exact .inl rfl
    · obtain ⟨cidr, hcidr, rfl⟩ := List.mem_map.mp hmem
      exact .inr ⟨cidr, hcidr, rfl⟩
  -- none of the commands touches an address or a link
  have haddresses : ∀ d a, a ∈ (removed.foldl LinuxKernel.run s.kernel).addresses d ↔
      a ∈ s.kernel.addresses d := by
    intro d a
    rw [LinuxKernel.mem_addresses_foldl]
    refine or_iff_left fun hmem => ?_
    obtain heq | ⟨_, -, heq⟩ := hcase _ hmem <;> cases heq
  have hup : (removed.foldl LinuxKernel.run s.kernel).up = s.kernel.up := by
    refine LinuxKernel.up_foldl fun c hc => ?_
    obtain rfl | ⟨_, -, rfl⟩ := hcase c hc <;> exact nofun
  have hpeers : ∀ d key, (removed.foldl LinuxKernel.run s.kernel).peers d key =
      if .removePeer runtime.name peer.publicKey ∈ removed ∧ d = runtime.name ∧
        key = peer.publicKey then none else s.kernel.peers d key :=
    LinuxKernel.peers_foldl_remove fun c hc => by
      obtain rfl | ⟨_, -, rfl⟩ := hcase c hc
      · exact ⟨nofun, fun d key heq => by injection heq with hd hkey; exact ⟨hd.symm, hkey.symm⟩⟩
      · exact ⟨nofun, nofun⟩
  have hroutes : ∀ cidr d, (removed.foldl LinuxKernel.run s.kernel).routes cidr = some d ↔
      s.kernel.routes cidr = some d ∧ ¬(.routeDel cidr runtime.name ∈ removed ∧
        d = runtime.name) :=
    LinuxKernel.routes_foldl_del fun c hc => by
      obtain rfl | ⟨_, -, rfl⟩ := hcase c hc
      · exact ⟨nofun, nofun⟩
      · exact ⟨fun cidr d heq => by injection heq with _ hd; exact hd.symm, nofun⟩
  have hgone : ∀ cidr, .routeDel cidr runtime.name ∈ removed → cidr ∈ peer.allowedIps := by
    intro cidr hin
    obtain heq | ⟨cidr', hcidr, heq⟩ := hcase _ hin
    · cases heq
    · injection heq with heq
      exact heq ▸ hcidr
  rw [refines_iff_of_peers h hruntime haddresses hup]
  simp only [exists_peer_remove_iff, hpeers, hroutes]
  rw [removePeer_peers_iff h hruntime hpeer, removePeer_routes_iff h hruntime hpeer hgone]
  exact ⟨fun hboth => ⟨hboth.1, hboth.2⟩, fun hreleased => ⟨hreleased.key, hreleased.routes⟩⟩

end

theorem removePeer_refines_iff (h : s.Refines) (outcomes : Nat → LinuxOutcome) (ip : String) :
    Tidy s (.removePeer outcomes ip) ↔ (s.after (.removePeer outcomes ip)).Refines := by
  cases hinterface : s.interface with
  | none =>
    have hsame : s.after (.removePeer outcomes ip) = s := by
      rw [after, removePeer, hinterface]
    rw [hsame, Tidy]
    exact iff_of_true (fun runtime hruntime => nomatch hinterface.symm.trans hruntime) h
  | some runtime =>
    rw [Tidy, forall_interface_iff hinterface]
    cases hpeer : s.peers.get? ip with
    | none =>
      have hsame : s.after (.removePeer outcomes ip) = s := by
        rw [after, removePeer, hinterface]
        simp only [hpeer]
      rw [hsame]
      exact iff_of_true nofun h
    | some peer =>
      rw [after_removePeer hinterface hpeer]
      simp only [Option.some.injEq, forall_eq']
      exact (removePeer_iff h hinterface hpeer fun c hc => of_mem_applied hc).symm

/-! ## Links -/

theorem setLink_snd (s : LinuxAdapter) (outcome : LinuxOutcome) (runtime : LinuxKernelRuntime)
    (up : Bool) : (s.setLink outcome runtime up).2 = s ∨
      (s.setLink outcome runtime up).2 =
        { s with interface := some { runtime with isUp := up },
                 kernel := s.kernel.run (.linkSet up runtime.name) } := by
  cases outcome with
  | none => exact .inr rfl
  | some stderr => exact .inl rfl

theorem setLink_refines (h : s.Refines) {runtime : LinuxKernelRuntime}
    (hruntime : s.interface = some runtime) (outcome : LinuxOutcome) (up : Bool) :
    (s.setLink outcome runtime up).2.Refines := by
  obtain hsame | hset := setLink_snd s outcome runtime up
  · rw [hsame]
    exact h
  · rw [hset]
    have hon : ∀ d, On { s with interface := some { runtime with isUp := up },
                                kernel := s.kernel.run (.linkSet up runtime.name) } d ↔ s.On d := by
      intro d
      rw [on_iff hruntime]
      exact @on_iff _ { runtime with isUp := up } rfl d
    refine ⟨fun d a => ?_, fun d => ?_, fun d key ips => ?_, fun cidr d => ?_⟩
    · refine (h.addresses d a).trans ?_
      simp only [hruntime, Option.some.injEq, exists_eq_left', LinuxKernelRuntime.name]
    · change (if d = runtime.name then up else s.kernel.up d) = true ↔ _
      simp only [Option.some.injEq, exists_eq_left']
      by_cases hd : d = runtime.name
      · rw [if_pos hd]
        exact ⟨fun hup => ⟨hd, hup⟩, fun hup => hup.2⟩
      · rw [if_neg hd, h.up]
        refine iff_of_false ?_ fun hnew => hd hnew.1
        rintro ⟨runtime', hruntime', hd', -⟩
        obtain rfl := Option.some.inj (hruntime.symm.trans hruntime')
        exact hd hd'
    · rw [hon]
      exact h.peers d key ips
    · rw [hon]
      exact h.routes cidr d

theorem bringUp_refines (h : s.Refines) (outcome : LinuxOutcome) :
    (s.after (.bringUp outcome)).Refines := by
  rw [after, bringUp]
  split
  · exact h
  · rename_i runtime hruntime
    exact setLink_refines h hruntime outcome true

theorem bringDown_refines (h : s.Refines) (outcome : LinuxOutcome) :
    (s.after (.bringDown outcome)).Refines := by
  rw [after, bringDown]
  split
  · exact h
  · rename_i runtime hruntime
    exact setLink_refines h hruntime outcome false

/-! ## Runs -/

theorem Sane.new : LinuxAdapter.new.Sane :=
  ⟨fun _ ip => Table.get?_empty ip, fun _ _ _ _ _ hips => nomatch hips⟩

theorem Sane.setLink (h : s.Sane) (outcome : LinuxOutcome) (runtime : LinuxKernelRuntime)
    (up : Bool) : (s.setLink outcome runtime up).2.Sane := by
  obtain hsame | hset := setLink_snd s outcome runtime up
  · rw [hsame]
    exact h
  · rw [hset]
    have hexclusive := h.exclusive.run (.linkSet up runtime.name)
    exact ⟨nofun, hexclusive⟩

theorem Sane.after (h : s.Sane) (a : LinuxAction) : (s.after a).Sane := by
  cases a with
  | applyInterface outcomes interface =>
    rw [after_applyInterface]
    split
    · exact ⟨nofun, h.exclusive.foldl _⟩
    · exact ⟨h.peers, h.exclusive.foldl _⟩
  | applyPeer outcomes ip peer =>
    cases hinterface : s.interface with
    | none =>
      rw [LinuxAdapter.after, applyPeer, hinterface]
      exact h
    | some runtime =>
      rw [after_applyPeer hinterface]
      split
      · exact ⟨fun hnone => (nomatch hinterface.symm.trans hnone), h.exclusive.foldl _⟩
      · exact ⟨h.peers, h.exclusive.foldl _⟩
  | removePeer outcomes ip =>
    cases hinterface : s.interface with
    | none =>
      rw [LinuxAdapter.after, removePeer, hinterface]
      exact h
    | some runtime =>
      cases hpeer : s.peers.get? ip with
      | none =>
        rw [LinuxAdapter.after, removePeer, hinterface]
        simp only [hpeer]
        exact h
      | some peer =>
        rw [after_removePeer hinterface hpeer]
        exact ⟨fun hnone => (nomatch hinterface.symm.trans hnone), h.exclusive.foldl _⟩
  | bringUp outcome =>
    rw [LinuxAdapter.after, bringUp]
    split
    · exact h
    · exact h.setLink outcome _ true
  | bringDown outcome =>
    rw [LinuxAdapter.after, bringDown]
    split
    · exact h
    · exact h.setLink outcome _ false

theorem Refines.new : LinuxAdapter.new.Refines := by
  refine ⟨fun d a => ?_, fun d => ?_, fun d key ips => ?_, fun cidr d => ?_⟩
  · exact iff_of_false (Finset.notMem_empty a) nofun
  · exact iff_of_false nofun nofun
  · exact iff_of_false nofun nofun
  · exact iff_of_false nofun nofun

theorem tidy_iff_refines (h : s.Refines) (hsane : s.Sane) (a : LinuxAction) :
    Tidy s a ↔ (s.after a).Refines := by
  cases a with
  | applyInterface outcomes interface => exact applyInterface_refines_iff h hsane outcomes interface
  | applyPeer outcomes ip peer => exact applyPeer_refines_iff h hsane outcomes ip peer
  | removePeer outcomes ip => exact removePeer_refines_iff h outcomes ip
  | bringUp outcome => exact iff_of_true trivial (bringUp_refines h outcome)
  | bringDown outcome => exact iff_of_true trivial (bringDown_refines h outcome)

theorem Sane.of_reachable (h : Reachable step .new s) : s.Sane :=
  h.invariant Sane Sane.new fun _ a _ hsane hstep => hstep ▸ hsane.after a

theorem reachable_after (s : LinuxAdapter) {t : LinuxAdapter} (h : Reachable step s t)
    (a : LinuxAction) : Reachable step s (t.after a) :=
  h.next rfl

/-- An `establish` is a run of the adapter's calls. -/
theorem establish_reachable (s : LinuxAdapter) (outcomes : LinuxOutcomes) (config : TunnelConfig) :
    Reachable step s (s.establish outcomes config).2 := by
  have hinterface := reachable_after s .start
    (.applyInterface outcomes.interface (LinuxMapper.mapInterface config.wireguardInterface))
  rw [after] at hinterface
  rw [establish]
  split
  · exact .start
  · unfold applyInterfaceConfig
    cases LinuxMapper.validateInterface config.wireguardInterface with
    | error err => exact .start
    | ok _ =>
      dsimp only
      generalize hrun : s.applyInterface outcomes.interface _ _ = result at hinterface ⊢
      obtain ⟨err | _, t⟩ := result
      · exact hinterface
      · have hpeer := reachable_after s hinterface
          (.applyPeer outcomes.peer config.peerVirtualIp (LinuxMapper.mapPeer config.wireguardPeer))
        rw [after] at hpeer
        dsimp only at hpeer ⊢
        unfold applyPeerConfig
        cases LinuxMapper.validatePeer config.peerVirtualIp config.wireguardPeer with
        | error err => exact hinterface
        | ok _ =>
          dsimp only
          generalize t.applyPeer outcomes.peer _ _ = result at hpeer ⊢
          obtain ⟨err | _, u⟩ := result
          · exact hpeer
          · exact reachable_after s hpeer (.bringUp outcomes.link)

end LinuxAdapter

/-- The runs in which every call is tidy are the runs that keep the kernel as recorded. -/
theorem linux_refines_iff (s : LinuxAdapter) :
    Reachable (guarded Tidy LinuxAdapter.step) .new s ↔
      Reachable (kept LinuxAdapter.Refines LinuxAdapter.step) .new s ∧ s.Refines := by
  refine Reachable.guarded_iff_kept LinuxAdapter.Refines LinuxAdapter.Refines.new ?_
  intro s a t hreach h hstep
  rw [hstep]
  exact LinuxAdapter.tidy_iff_refines h (.of_reachable hreach) a

def samplePlan : LinuxKernelInterfacePlan :=
  ⟨some "wg0", "private-key", none, none, ["10.0.0.1/24"], []⟩

def samplePeerPlan (publicKey : String) : LinuxKernelPeerPlan :=
  ⟨some "node-2", publicKey, none, none, ["10.0.0.2/32"], none⟩

/-- A peer that comes back with another key. -/
def rekeyed : LinuxAdapter :=
  ((LinuxAdapter.new.after (.applyInterface (fun _ => none) samplePlan)).after
    (.applyPeer (fun _ => none) "10.0.0.2" (samplePeerPlan "key-1"))).after
    (.applyPeer (fun _ => none) "10.0.0.2" (samplePeerPlan "key-2"))

/-- Its old key stays in the kernel. -/
theorem rekeyed_not_refines :
    ¬∀ s, Reachable LinuxAdapter.step .new s → s.Refines := by
  intro hall
  have hreach : Reachable LinuxAdapter.step .new rekeyed :=
    ((Reachable.start.next rfl).next rfl).next rfl
  have hlive : rekeyed.kernel.peers "wg0" "key-1" = some ∅ := by decide
  obtain ⟨-, ip, peer, hpeer, hkey, -⟩ := ((hall rekeyed hreach).peers _ _ _).mp hlive
  have hpeers : rekeyed.peers = ((∅ : Table LinuxKernelPeerPlan).put "10.0.0.2"
      (samplePeerPlan "key-1")).put "10.0.0.2" (samplePeerPlan "key-2") := rfl
  rw [hpeers, Table.get?_put] at hpeer
  split at hpeer
  · obtain rfl := Option.some.inj hpeer
    exact absurd hkey (by decide)
  · rename_i hip
    rw [Table.get?_put, if_neg hip, Table.get?_empty] at hpeer
    cases hpeer

end Slan.Client
