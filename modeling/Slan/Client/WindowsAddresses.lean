import Slan.Lib.Program
import Slan.Lib.Transition
import Slan.Client.WindowsBackend

/-! # Which addresses the Windows backend leaves behind -/

namespace Slan.Client

open Transition

/-! ## Calls -/

inductive WindowsAction where
  | applyInterfaceConfig (machine : WindowsMachine) (interface : WireGuardInterfaceConfig)
  | applyPeerConfig (peerVirtualIp : String) (peer : WireGuardPeerConfig)
  | bringUp (outcomes : WindowsOutcomes)
  | bringDown (outcomes : WindowsOutcomes)
  | establish (machine : WindowsMachine) (outcomes : WindowsOutcomes) (config : TunnelConfig)
  | close (peerVirtualIp : String)

def WindowsAction.run (backend : WindowsBackend) : WindowsAction → Except String Unit × WindowsBackend
  | .applyInterfaceConfig machine interface => backend.applyInterfaceConfig machine interface
  | .applyPeerConfig peerVirtualIp peer => backend.applyPeerConfig peerVirtualIp peer
  | .bringUp outcomes => backend.bringUp outcomes
  | .bringDown outcomes => backend.bringDown outcomes
  | .establish machine outcomes config => backend.establish machine outcomes config
  | .close peerVirtualIp => backend.close peerVirtualIp

namespace WindowsBackend

def step (s : WindowsBackend) (a : WindowsAction) (t : WindowsBackend) : Prop := t = (a.run s).2

end WindowsBackend

/-! ## What the record says of the system -/

namespace WindowsInterfaceRuntime

def adapter (runtime : WindowsInterfaceRuntime) : Adapter :=
  match runtime.isDedicatedAdapter, runtime.interfaceIndex with
  | true, some index => .index index
  | _, _ => .alias runtime.interfaceName

def address (runtime : WindowsInterfaceRuntime) : AdapterAddress :=
  ⟨runtime.adapter, runtime.localVirtualIp, netmask runtime.localPrefixLen⟩

/-- A dedicated adapter is one with an index. -/
def Targeted (runtime : WindowsInterfaceRuntime) : Prop :=
  runtime.isDedicatedAdapter = true → runtime.interfaceIndex.isSome = true

/-- The address, where the record says that the interface is up. -/
def expected (runtime : WindowsInterfaceRuntime) : WindowsSystem :=
  if runtime.isUp then {runtime.address} else ∅

end WindowsInterfaceRuntime

/-- The addresses added and not removed are those that the record tells. -/
def WindowsBackend.Refines (s : WindowsBackend) : Prop :=
  s.system = (s.interface.map WindowsInterfaceRuntime.expected).getD ∅

def WindowsBackend.Targeted (s : WindowsBackend) : Prop :=
  ∀ runtime, s.interface = some runtime → runtime.Targeted

/-! ## Which calls keep them in step -/

/-- The adapter's addresses are gone. -/
def CommandOutcome.clears : CommandOutcome → Bool
  | .done => true
  | .failed _ cleared => cleared

namespace WindowsInterfaceRuntime

variable (runtime : WindowsInterfaceRuntime) (outcomes : WindowsOutcomes)

/-- The address is not lost when the interface is brought up once more. -/
def Reapplied : Prop :=
  if runtime.isDedicatedAdapter then
    outcomes.addition = .done ∨ outcomes.addition.clears = false
  else 32 < runtime.localPrefixLen ∨ outcomes.addition = .done ∨ outcomes.removal ≠ .done

/-- The address is removed when the interface is brought down. -/
def Removed : Prop :=
  if runtime.isDedicatedAdapter then outcomes.removal.clears = true else outcomes.removal = .done

/-- An earlier address is removed when the interface is brought up, or it is the one added. -/
def Replaces (old : AdapterAddress) : Prop :=
  if runtime.isDedicatedAdapter then
    old.adapter = runtime.adapter ∧ outcomes.addition.clears = true
  else
    runtime.localPrefixLen ≤ 32 ∧
      (old.adapter = runtime.adapter ∧ old.ip = runtime.localVirtualIp ∧ outcomes.removal = .done ∨
        old = runtime.address ∧ outcomes.addition = .done)

end WindowsInterfaceRuntime

/-- The record of an interface that is up is not overwritten but by one whose commands remove its
address; its address is removed when it is brought down, and not lost when it is brought up again. -/
def Careful (s : WindowsBackend) : WindowsAction → Prop
  | .applyInterfaceConfig machine interface =>
    (∃ runtime, interfaceRuntime machine interface = .ok runtime) → s.isUp = false
  | .bringUp outcomes =>
    ∀ runtime, s.interface = some runtime → runtime.isUp = true → runtime.Reapplied outcomes
  | .bringDown outcomes =>
    ∀ runtime, s.interface = some runtime → runtime.isUp = true → runtime.Removed outcomes
  | .establish machine outcomes config =>
    validateConfig config = .ok () →
      ∀ next, interfaceRuntime machine config.wireguardInterface = .ok next →
        ∀ runtime, s.interface = some runtime → runtime.isUp = true →
          next.Replaces outcomes runtime.address
  | .applyPeerConfig _ _ | .close _ => True

/-! ## Single addresses -/

section

variable {name ip : String} {index : Nat} {a b : AdapterAddress}

theorem deleteAddress_singleton :
    WindowsSystem.deleteAddress {a} name ip =
      if a.adapter = .alias name ∧ a.ip = ip then ∅ else {a} := by
  unfold WindowsSystem.deleteAddress
  rw [Finset.filter_singleton]
  split <;> simp_all

theorem clearAdapter_singleton :
    WindowsSystem.clearAdapter {a} index = if a.adapter = .index index then ∅ else {a} := by
  unfold WindowsSystem.clearAdapter
  rw [Finset.filter_singleton]
  split <;> simp_all

@[simp] theorem deleteAddress_empty : WindowsSystem.deleteAddress ∅ name ip = ∅ :=
  Finset.filter_empty _

@[simp] theorem clearAdapter_empty : WindowsSystem.clearAdapter ∅ index = ∅ :=
  Finset.filter_empty _

theorem insert_singleton_iff : (insert a {b} : WindowsSystem) = {a} ↔ b = a := by
  constructor
  · intro h
    have hb : b ∈ (insert a {b} : WindowsSystem) :=
      Finset.mem_insert_of_mem (Finset.mem_singleton_self b)
    rw [h] at hb
    exact Finset.mem_singleton.mp hb
  · rintro rfl
    exact Finset.insert_eq_of_mem (Finset.mem_singleton_self _)

end

/-! ## The commands -/

section

variable {runtime : WindowsInterfaceRuntime} {outcomes : WindowsOutcomes}
  {system system' : WindowsSystem} {old : AdapterAddress} {result : Except String Unit}

theorem CommandOutcome.result_eq_ok {outcome : CommandOutcome} :
    outcome.result = .ok () ↔ outcome = .done := by
  cases outcome with
  | done => exact iff_of_true rfl rfl
  | failed err cleared => exact iff_of_false nofun nofun

theorem WindowsInterfaceRuntime.Targeted.adapter_eq (h : runtime.Targeted)
    (hdedicated : runtime.isDedicatedAdapter = true) :
    ∃ index, runtime.interfaceIndex = some index ∧ runtime.adapter = .index index := by
  obtain ⟨index, hindex⟩ := Option.isSome_iff_exists.mp (h hdedicated)
  refine ⟨index, hindex, ?_⟩
  unfold adapter
  rw [hdedicated, hindex]

theorem WindowsInterfaceRuntime.adapter_eq_alias (h : runtime.isDedicatedAdapter = false) :
    runtime.adapter = .alias runtime.interfaceName := by
  unfold adapter
  rw [h]

/-- What the commands that bring an interface up make of the system. -/
theorem applySystemInterface_cases (htargeted : runtime.Targeted)
    (h : applySystemInterface runtime outcomes system = (result, system')) :
    (∃ index, runtime.isDedicatedAdapter = true ∧ runtime.adapter = .index index ∧
      result = outcomes.addition.result ∧
      system' = match outcomes.addition with
        | .done => insert runtime.address (system.clearAdapter index)
        | .failed _ cleared => if cleared then system.clearAdapter index else system) ∨
    runtime.isDedicatedAdapter = false ∧ runtime.adapter = .alias runtime.interfaceName ∧
      (32 < runtime.localPrefixLen ∧ result ≠ .ok () ∧ system' = system ∨
        runtime.localPrefixLen ≤ 32 ∧ result = outcomes.addition.result ∧
        ∃ between, between = (match outcomes.removal with
            | .done => system.deleteAddress runtime.interfaceName runtime.localVirtualIp
            | .failed _ _ => system) ∧
          system' = match outcomes.addition with
            | .done => insert runtime.address between
            | .failed _ _ => between) := by
  unfold applySystemInterface at h
  split at h
  · rename_i hdedicated
    obtain ⟨index, hindex, hadapter⟩ := htargeted.adapter_eq hdedicated
    rw [hindex] at h
    obtain ⟨rfl, rfl⟩ := Prod.mk.inj h
    refine .inl ⟨index, hdedicated, hadapter, rfl, ?_⟩
    unfold WindowsInterfaceRuntime.address
    rw [hadapter]
    cases outcomes.addition <;> rfl
  · rename_i hdedicated
    have halias := runtime.adapter_eq_alias (Bool.eq_false_of_not_eq_true hdedicated)
    refine .inr ⟨Bool.eq_false_of_not_eq_true hdedicated, halias, ?_⟩
    unfold netmaskFromPrefixLen at h
    by_cases hbits : 32 < runtime.localPrefixLen
    · rw [if_pos hbits] at h
      obtain ⟨rfl, rfl⟩ := Prod.mk.inj h
      exact .inl ⟨hbits, nofun, rfl⟩
    · rw [if_neg hbits] at h
      obtain ⟨rfl, rfl⟩ := Prod.mk.inj h
      refine .inr ⟨Nat.le_of_not_lt hbits, rfl, _, rfl, ?_⟩
      unfold WindowsInterfaceRuntime.address
      rw [halias]
      cases outcomes.removal <;> cases outcomes.addition <;> rfl

/-- An interface that comes up where no address is left. -/
theorem applySystemInterface_empty (htargeted : runtime.Targeted)
    (h : applySystemInterface runtime outcomes ∅ = (result, system')) :
    system' = if result = .ok () then {runtime.address} else ∅ := by
  rcases applySystemInterface_cases htargeted h with
    ⟨index, _, _, rfl, rfl⟩ | ⟨_, _, ⟨_, hresult, rfl⟩ | ⟨_, rfl, between, rfl, rfl⟩⟩
  · cases outcomes.addition <;> simp [CommandOutcome.result]
  · rw [if_neg hresult]
  · cases outcomes.removal <;> cases outcomes.addition <;> simp [CommandOutcome.result]

/-- An interface that is brought up once more. -/
theorem applySystemInterface_self (htargeted : runtime.Targeted)
    (h : applySystemInterface runtime outcomes {runtime.address} = (result, system')) :
    system' = {runtime.address} ↔ runtime.Reapplied outcomes := by
  rcases applySystemInterface_cases htargeted h with
    ⟨index, hdedicated, hadapter, rfl, rfl⟩ |
      ⟨hdedicated, hadapter, ⟨hbits, _, rfl⟩ | ⟨hbits, rfl, between, rfl, rfl⟩⟩
  · have hcleared : WindowsSystem.clearAdapter {runtime.address} index = ∅ := by
      rw [clearAdapter_singleton]
      exact if_pos hadapter
    unfold WindowsInterfaceRuntime.Reapplied
    rw [if_pos hdedicated, hcleared]
    cases outcomes.addition with
    | done => exact iff_of_true rfl (.inl rfl)
    | failed err cleared =>
      cases cleared with
      | true => exact iff_of_false (Finset.singleton_ne_empty _).symm (by rintro (h | h) <;> cases h)
      | false => exact iff_of_true rfl (.inr rfl)
  · unfold WindowsInterfaceRuntime.Reapplied
    rw [if_neg (by rw [hdedicated]; decide)]
    exact iff_of_true rfl (.inl hbits)
  · have hdeleted : WindowsSystem.deleteAddress {runtime.address} runtime.interfaceName
        runtime.localVirtualIp = ∅ := by
      rw [deleteAddress_singleton, if_pos ⟨hadapter, rfl⟩]
    have hagain : (insert runtime.address {runtime.address} : WindowsSystem) = {runtime.address} :=
      insert_singleton_iff.mpr rfl
    have hnot : ¬32 < runtime.localPrefixLen := Nat.not_lt_of_le hbits
    unfold WindowsInterfaceRuntime.Reapplied
    rw [if_neg (by rw [hdedicated]; decide), hdeleted]
    cases outcomes.removal <;> cases outcomes.addition <;>
      simp [hagain, hnot, (Finset.singleton_ne_empty _).symm]

/-- An interface that comes up in the place of another. -/
theorem applySystemInterface_other (htargeted : runtime.Targeted)
    (h : applySystemInterface runtime outcomes {old} = (result, system')) :
    (system' = if result = .ok () then {runtime.address} else ∅) ↔
      runtime.Replaces outcomes old := by
  have hne : ({old} : WindowsSystem) ≠ ∅ := Finset.singleton_ne_empty old
  rcases applySystemInterface_cases htargeted h with
    ⟨index, hdedicated, hadapter, rfl, rfl⟩ |
      ⟨hdedicated, hadapter, ⟨hbits, hresult, rfl⟩ | ⟨hbits, rfl, between, rfl, rfl⟩⟩
  · unfold WindowsInterfaceRuntime.Replaces
    rw [if_pos hdedicated, hadapter, clearAdapter_singleton]
    by_cases hold : old.adapter = .index index
    · cases outcomes.addition with
      | done => simp [hold, CommandOutcome.result, CommandOutcome.clears]
      | failed err cleared =>
        cases cleared <;> simp [hold, CommandOutcome.result, CommandOutcome.clears]
    · have hother : old ≠ runtime.address := by
        rintro rfl
        exact hold hadapter
      cases outcomes.addition with
      | done => simp [hold, CommandOutcome.result, insert_singleton_iff, hother]
      | failed err cleared => cases cleared <;> simp [hold, CommandOutcome.result]
  · unfold WindowsInterfaceRuntime.Replaces
    rw [if_neg hresult, if_neg (by rw [hdedicated]; decide)]
    exact iff_of_false hne fun hreplaces => absurd hreplaces.1 (Nat.not_le_of_lt hbits)
  · have hnetsh : ¬runtime.isDedicatedAdapter = true := by
      rw [hdedicated]
      decide
    unfold WindowsInterfaceRuntime.Replaces
    rw [if_neg hnetsh, hadapter, deleteAddress_singleton]
    have hself : old = runtime.address →
        old.adapter = .alias runtime.interfaceName ∧ old.ip = runtime.localVirtualIp := by
      rintro rfl
      exact ⟨hadapter, rfl⟩
    by_cases hold : old.adapter = .alias runtime.interfaceName ∧ old.ip = runtime.localVirtualIp
    · cases outcomes.removal <;> cases outcomes.addition <;>
        simp [hold, hbits, CommandOutcome.result, insert_singleton_iff]
    · have hother : old ≠ runtime.address := fun heq => hold (hself heq)
      cases outcomes.removal <;> cases outcomes.addition <;>
        simp [hold, hother, CommandOutcome.result, insert_singleton_iff]

end

/-! ## One call -/

section

variable {s t : WindowsBackend} {machine : WindowsMachine} {outcomes : WindowsOutcomes}

theorem resolveInterfaceTarget_dedicated (machine : WindowsMachine) (requested : Option String) :
    (resolveInterfaceTarget machine requested).2.2 = true →
      (resolveInterfaceTarget machine requested).2.1.isSome = true := by
  unfold resolveInterfaceTarget
  split
  · exact nofun
  · split
    · exact nofun
    · split
      · exact fun _ => rfl
      · exact nofun

theorem targeted_interfaceRuntime {interface : WireGuardInterfaceConfig}
    {runtime : WindowsInterfaceRuntime} (h : interfaceRuntime machine interface = .ok runtime) :
    runtime.Targeted ∧ runtime.isUp = false := by
  unfold interfaceRuntime at h
  obtain ⟨_, -, h⟩ := Program.bind_eq_ok.mp h
  split at h
  · cases h
  · obtain ⟨⟨localVirtualIp, localPrefixLen⟩, -, h⟩ := Program.bind_eq_ok.mp h
    cases h
    exact ⟨resolveInterfaceTarget_dedicated machine interface.interfaceName, rfl⟩

theorem WindowsBackend.refines_iff_of_up {runtime : WindowsInterfaceRuntime}
    {peers : Table WireGuardPeerConfig} {system : WindowsSystem} (hup : runtime.isUp = true) :
    Refines ⟨some runtime, peers, system⟩ ↔ system = {runtime.address} := by
  unfold Refines
  simp only [Option.map_some, Option.getD_some, WindowsInterfaceRuntime.expected, if_pos hup]

theorem WindowsBackend.refines_broughtUp {runtime : WindowsInterfaceRuntime}
    {peers : Table WireGuardPeerConfig} {system : WindowsSystem} :
    Refines ⟨some { runtime with isUp := true }, peers, system⟩ ↔ system = {runtime.address} :=
  refines_iff_of_up rfl

theorem WindowsBackend.refines_iff_of_down {runtime : WindowsInterfaceRuntime}
    {peers : Table WireGuardPeerConfig} {system : WindowsSystem} (hdown : runtime.isUp = false) :
    Refines ⟨some runtime, peers, system⟩ ↔ system = ∅ := by
  unfold Refines
  simp only [Option.map_some, Option.getD_some, WindowsInterfaceRuntime.expected, hdown,
    Bool.false_eq_true, if_false]

theorem WindowsBackend.bringUp_of_ok {runtime : WindowsInterfaceRuntime}
    {peers : Table WireGuardPeerConfig} {system system' : WindowsSystem}
    (h : applySystemInterface runtime outcomes system = (.ok (), system')) :
    bringUp ⟨some runtime, peers, system⟩ outcomes =
      (.ok (), ⟨some { runtime with isUp := true }, peers, system'⟩) := by
  unfold bringUp
  simp only [h]

theorem WindowsBackend.bringUp_of_error {runtime : WindowsInterfaceRuntime}
    {peers : Table WireGuardPeerConfig} {system system' : WindowsSystem} {err : String}
    (h : applySystemInterface runtime outcomes system = (.error err, system')) :
    bringUp ⟨some runtime, peers, system⟩ outcomes = (.error err, ⟨some runtime, peers, system'⟩) := by
  unfold bringUp
  simp only [h]

/-- An interface that is not up is brought up from a system without addresses. -/
theorem WindowsBackend.refines_bringUp_of_empty {runtime : WindowsInterfaceRuntime}
    {peers : Table WireGuardPeerConfig} (htargeted : runtime.Targeted)
    (hdown : runtime.isUp = false) :
    (bringUp ⟨some runtime, peers, ∅⟩ outcomes).2.Refines := by
  rcases happly : applySystemInterface runtime outcomes ∅ with ⟨err | _, system⟩
  · rw [bringUp_of_error happly]
    have hsystem := applySystemInterface_empty htargeted happly
    rw [if_neg nofun] at hsystem
    exact (refines_iff_of_down hdown).mpr hsystem
  · rw [bringUp_of_ok happly]
    have hsystem := applySystemInterface_empty htargeted happly
    rw [if_pos rfl] at hsystem
    exact refines_broughtUp.mpr hsystem

theorem WindowsBackend.refines_bringUp_of_other {runtime : WindowsInterfaceRuntime}
    {peers : Table WireGuardPeerConfig} {old : AdapterAddress} (htargeted : runtime.Targeted)
    (hdown : runtime.isUp = false) :
    runtime.Replaces outcomes old ↔
      (bringUp ⟨some runtime, peers, {old}⟩ outcomes).2.Refines := by
  rcases happly : applySystemInterface runtime outcomes {old} with ⟨err | _, system⟩
  · rw [bringUp_of_error happly]
    have hreplaces := applySystemInterface_other htargeted happly
    rw [if_neg nofun] at hreplaces
    rw [refines_iff_of_down hdown, hreplaces]
  · rw [bringUp_of_ok happly]
    have hreplaces := applySystemInterface_other htargeted happly
    rw [if_pos rfl] at hreplaces
    exact hreplaces.symm.trans refines_broughtUp.symm

theorem WindowsBackend.refines_bringUp_of_up {runtime : WindowsInterfaceRuntime}
    {peers : Table WireGuardPeerConfig} (htargeted : runtime.Targeted)
    (hup : runtime.isUp = true) :
    runtime.Reapplied outcomes ↔
      (bringUp ⟨some runtime, peers, {runtime.address}⟩ outcomes).2.Refines := by
  rcases happly : applySystemInterface runtime outcomes {runtime.address} with ⟨err | _, system⟩
  · rw [bringUp_of_error happly]
    rw [← applySystemInterface_self htargeted happly]
    rw [refines_iff_of_up hup]
  · rw [bringUp_of_ok happly]
    rw [← applySystemInterface_self htargeted happly]
    exact refines_broughtUp.symm

theorem WindowsBackend.refines_bringDown_of_up {runtime : WindowsInterfaceRuntime}
    {peers : Table WireGuardPeerConfig} (htargeted : runtime.Targeted) :
    runtime.Removed outcomes ↔
      (bringDown ⟨some runtime, peers, {runtime.address}⟩ outcomes).2.Refines := by
  have hne : ({runtime.address} : WindowsSystem) ≠ ∅ := Finset.singleton_ne_empty _
  change _ ↔ Refines ⟨some { runtime with isUp := false }, peers, _⟩
  rw [refines_iff_of_down rfl]
  unfold WindowsInterfaceRuntime.Removed removeSystemInterfaceAddress
  by_cases hdedicated : runtime.isDedicatedAdapter = true
  · obtain ⟨index, hindex, hadapter⟩ := htargeted.adapter_eq hdedicated
    have hcleared : WindowsSystem.clearAdapter {runtime.address} index = ∅ := by
      rw [clearAdapter_singleton]
      exact if_pos hadapter
    simp only [if_pos hdedicated, hindex]
    cases outcomes.removal with
    | done => exact iff_of_true rfl hcleared
    | failed err cleared =>
      cases cleared with
      | true => exact iff_of_true rfl hcleared
      | false => exact iff_of_false nofun hne
  · have hadapter := runtime.adapter_eq_alias (Bool.eq_false_of_not_eq_true hdedicated)
    have hdeleted : WindowsSystem.deleteAddress {runtime.address} runtime.interfaceName
        runtime.localVirtualIp = ∅ := by
      rw [deleteAddress_singleton]
      exact if_pos ⟨hadapter, rfl⟩
    simp only [if_neg hdedicated]
    cases outcomes.removal with
    | done => exact iff_of_true rfl hdeleted
    | failed err cleared => exact iff_of_false nofun hne

theorem WindowsBackend.refines_bringDown_of_empty {runtime : WindowsInterfaceRuntime}
    {peers : Table WireGuardPeerConfig} :
    (bringDown ⟨some runtime, peers, ∅⟩ outcomes).2.Refines := by
  change Refines ⟨some { runtime with isUp := false }, peers, _⟩
  rw [refines_iff_of_down rfl]
  unfold removeSystemInterfaceAddress
  split
  · split
    · rfl
    · cases outcomes.removal with
      | done => exact clearAdapter_empty
      | failed err cleared =>
        cases cleared with
        | true => exact clearAdapter_empty
        | false => rfl
  · cases outcomes.removal with
    | done => exact deleteAddress_empty
    | failed err cleared => rfl

theorem WindowsBackend.isUp_some {runtime : WindowsInterfaceRuntime}
    {peers : Table WireGuardPeerConfig} {system : WindowsSystem} :
    isUp ⟨some runtime, peers, system⟩ = runtime.isUp := rfl

theorem validateConfig_peer {config : TunnelConfig} (h : validateConfig config = .ok ()) :
    validatePeer config.peerVirtualIp config.wireguardPeer = .ok () := by
  unfold validateConfig at h
  split at h
  · cases h
  · split at h
    · cases h
    · split at h
      · cases h
      · obtain ⟨_, -, h⟩ := Program.bind_eq_ok.mp h
        exact h

/-- An accepted configuration is recorded, then brought up. -/
theorem WindowsBackend.establish_of_ok {config : TunnelConfig} {next : WindowsInterfaceRuntime}
    (hvalid : validateConfig config = .ok ())
    (hnext : interfaceRuntime machine config.wireguardInterface = .ok next) :
    s.establish machine outcomes config =
      bringUp ⟨some next, s.peers.put config.peerVirtualIp config.wireguardPeer, s.system⟩
        outcomes := by
  unfold establish
  rw [hvalid]
  simp only [applyInterfaceConfig, hnext, applyPeerConfig, validateConfig_peer hvalid]

theorem WindowsBackend.establish_of_error {config : TunnelConfig}
    (h : ¬(validateConfig config = .ok () ∧
      ∃ next, interfaceRuntime machine config.wireguardInterface = .ok next)) :
    ∃ err, s.establish machine outcomes config = (.error err, s) := by
  unfold establish
  cases hvalid : validateConfig config with
  | error err => exact ⟨err, rfl⟩
  | ok u =>
    cases hnext : interfaceRuntime machine config.wireguardInterface with
    | error err => exact ⟨err, by simp only [applyInterfaceConfig, hnext]⟩
    | ok next => exact absurd ⟨hvalid, next, hnext⟩ h

/-! ### Call by call -/

theorem asks_iff {runtime : WindowsInterfaceRuntime} {P : WindowsInterfaceRuntime → Prop}
    (hup : runtime.isUp = true) :
    (∀ recorded, some runtime = some recorded → recorded.isUp = true → P recorded) ↔
      P runtime := by
  constructor
  · intro hasks
    exact hasks runtime rfl hup
  · intro hruntime recorded hsome _
    rw [← Option.some.inj hsome]
    exact hruntime

/-- Nothing is asked of an interface that is down. -/
theorem asks_of_down {runtime : WindowsInterfaceRuntime} {P : WindowsInterfaceRuntime → Prop}
    (hdown : runtime.isUp = false) :
    ∀ recorded, some runtime = some recorded → recorded.isUp = true → P recorded := by
  intro recorded hsome hup
  rw [← Option.some.inj hsome, hdown] at hup
  cases hup

theorem careful_applyInterfaceConfig {interface : WireGuardInterfaceConfig} (h : s.Refines) :
    Careful s (.applyInterfaceConfig machine interface) ↔
      (s.applyInterfaceConfig machine interface).2.Refines := by
  obtain ⟨recorded, peers, system⟩ := s
  unfold WindowsBackend.applyInterfaceConfig
  cases hnext : interfaceRuntime machine interface with
  | error err =>
    refine iff_of_true ?_ h
    rintro ⟨runtime, hruntime⟩
    rw [hnext] at hruntime
    cases hruntime
  | ok next =>
    have hcareful : Careful ⟨recorded, peers, system⟩ (.applyInterfaceConfig machine interface) ↔
        WindowsBackend.isUp ⟨recorded, peers, system⟩ = false :=
      forall_prop_of_true ⟨next, hnext⟩
    rw [hcareful]
    simp only
    rw [WindowsBackend.refines_iff_of_down (targeted_interfaceRuntime hnext).2]
    cases recorded with
    | none => exact iff_of_true rfl h
    | some runtime =>
      rw [WindowsBackend.isUp_some]
      cases hup : runtime.isUp with
      | false => exact iff_of_true rfl ((WindowsBackend.refines_iff_of_down hup).mp h)
      | true =>
        refine iff_of_false (by decide) ?_
        rw [(WindowsBackend.refines_iff_of_up hup).mp h]
        exact Finset.singleton_ne_empty _

theorem careful_bringUp (htargeted : s.Targeted) (h : s.Refines) :
    Careful s (.bringUp outcomes) ↔ (s.bringUp outcomes).2.Refines := by
  obtain ⟨_ | runtime, peers, system⟩ := s
  · exact iff_of_true nofun h
  · have htarget := htargeted runtime rfl
    cases hup : runtime.isUp with
    | false =>
      obtain rfl := (WindowsBackend.refines_iff_of_down hup).mp h
      exact iff_of_true (asks_of_down hup) (WindowsBackend.refines_bringUp_of_empty htarget hup)
    | true =>
      obtain rfl := (WindowsBackend.refines_iff_of_up hup).mp h
      rw [← WindowsBackend.refines_bringUp_of_up htarget hup]
      exact asks_iff hup

theorem careful_bringDown (htargeted : s.Targeted) (h : s.Refines) :
    Careful s (.bringDown outcomes) ↔ (s.bringDown outcomes).2.Refines := by
  obtain ⟨_ | runtime, peers, system⟩ := s
  · exact iff_of_true nofun h
  · have htarget := htargeted runtime rfl
    cases hup : runtime.isUp with
    | false =>
      obtain rfl := (WindowsBackend.refines_iff_of_down hup).mp h
      exact iff_of_true (asks_of_down hup) WindowsBackend.refines_bringDown_of_empty
    | true =>
      obtain rfl := (WindowsBackend.refines_iff_of_up hup).mp h
      rw [← WindowsBackend.refines_bringDown_of_up htarget]
      exact asks_iff hup

theorem careful_establish {config : TunnelConfig} (h : s.Refines) :
    Careful s (.establish machine outcomes config) ↔
      (s.establish machine outcomes config).2.Refines := by
  by_cases haccepted : validateConfig config = .ok () ∧
      ∃ next, interfaceRuntime machine config.wireguardInterface = .ok next
  · obtain ⟨hvalid, next, hnext⟩ := haccepted
    obtain ⟨hnextTarget, hnextDown⟩ := targeted_interfaceRuntime hnext
    have hcareful : Careful s (.establish machine outcomes config) ↔
        ∀ runtime, s.interface = some runtime → runtime.isUp = true →
          next.Replaces outcomes runtime.address := by
      constructor
      · intro hcareful
        exact hcareful hvalid next hnext
      · intro hreplaces _ next' hnext'
        rw [hnext] at hnext'
        rw [← Except.ok.inj hnext']
        exact hreplaces
    rw [hcareful, WindowsBackend.establish_of_ok hvalid hnext]
    -- an interface that is down or missing has no addresses to get rid of
    obtain ⟨_ | runtime, peers, system⟩ := s
    · obtain rfl : system = ∅ := h
      exact iff_of_true nofun (WindowsBackend.refines_bringUp_of_empty hnextTarget hnextDown)
    · cases hup : runtime.isUp with
      | false =>
        obtain rfl := (WindowsBackend.refines_iff_of_down hup).mp h
        exact iff_of_true (asks_of_down hup)
          (WindowsBackend.refines_bringUp_of_empty hnextTarget hnextDown)
      | true =>
        obtain rfl := (WindowsBackend.refines_iff_of_up hup).mp h
        rw [← WindowsBackend.refines_bringUp_of_other hnextTarget hnextDown]
        exact asks_iff hup
  · obtain ⟨err, hrefused⟩ := WindowsBackend.establish_of_error haccepted
    rw [hrefused]
    refine iff_of_true ?_ h
    intro hvalid next hnext
    exact absurd ⟨hvalid, next, hnext⟩ haccepted

/-- A call keeps the system in step with the record exactly where it is careful. -/
theorem careful_iff_refines {a : WindowsAction} (htargeted : s.Targeted) (h : s.Refines)
    (hstep : s.step a t) : Careful s a ↔ t.Refines := by
  obtain rfl := hstep
  cases a with
  | applyInterfaceConfig machine interface => exact careful_applyInterfaceConfig h
  | applyPeerConfig peerVirtualIp peer =>
    refine iff_of_true trivial ?_
    change (s.applyPeerConfig peerVirtualIp peer).2.Refines
    unfold WindowsBackend.applyPeerConfig
    split <;> exact h
  | bringUp outcomes => exact careful_bringUp htargeted h
  | bringDown outcomes => exact careful_bringDown htargeted h
  | establish machine outcomes config => exact careful_establish h
  | close peerVirtualIp => exact iff_of_true trivial h

end

/-! ## Runs -/

namespace WindowsBackend

variable {s t : WindowsBackend}

theorem targeted_bringUp (h : s.Targeted) (outcomes : WindowsOutcomes) :
    (s.bringUp outcomes).2.Targeted := by
  obtain ⟨_ | runtime, peers, system⟩ := s
  · exact h
  · rcases happly : applySystemInterface runtime outcomes system with ⟨err | _, system'⟩
    · rw [bringUp_of_error happly]
      exact h
    · rw [bringUp_of_ok happly]
      intro runtime' hsome
      rw [← Option.some.inj hsome]
      exact h runtime rfl

theorem targeted_step {a : WindowsAction} (h : s.Targeted) (hstep : s.step a t) : t.Targeted := by
  obtain rfl := hstep
  cases a with
  | applyInterfaceConfig machine interface =>
    change (applyInterfaceConfig s machine interface).2.Targeted
    unfold applyInterfaceConfig
    cases hnext : interfaceRuntime machine interface with
    | error err => exact h
    | ok next =>
      intro runtime hsome
      rw [← Option.some.inj hsome]
      exact (targeted_interfaceRuntime hnext).1
  | applyPeerConfig peerVirtualIp peer =>
    change (applyPeerConfig s peerVirtualIp peer).2.Targeted
    unfold applyPeerConfig
    split <;> exact h
  | bringUp outcomes => exact targeted_bringUp h outcomes
  | bringDown outcomes =>
    obtain ⟨_ | runtime, peers, system⟩ := s
    · exact h
    · intro runtime' hsome
      rw [← Option.some.inj hsome]
      exact h runtime rfl
  | establish machine outcomes config =>
    change (establish s machine outcomes config).2.Targeted
    by_cases haccepted : validateConfig config = .ok () ∧
        ∃ next, interfaceRuntime machine config.wireguardInterface = .ok next
    · obtain ⟨hvalid, next, hnext⟩ := haccepted
      rw [establish_of_ok hvalid hnext]
      refine targeted_bringUp ?_ outcomes
      intro runtime hsome
      rw [← Option.some.inj hsome]
      exact (targeted_interfaceRuntime hnext).1
    · obtain ⟨err, hrefused⟩ := establish_of_error haccepted
      rw [hrefused]
      exact h
  | close peerVirtualIp => exact h

theorem targeted_of_reachable (h : Reachable step new s) : s.Targeted :=
  h.invariant Targeted nofun fun _ _ _ hs hstep => targeted_step hs hstep

end WindowsBackend

theorem WindowsBackend.Refines.system_eq_empty {s : WindowsBackend} (h : s.Refines)
    (hdown : s.isUp = false) : s.system = ∅ := by
  obtain ⟨_ | runtime, peers, system⟩ := s
  · exact h
  · exact (refines_iff_of_down hdown).mp h

/-- The runs of careful calls are those in which the system stays in step with the record. -/
theorem windows_refines_iff (s : WindowsBackend) :
    Reachable (guarded Careful WindowsBackend.step) .new s ↔
      Reachable (kept WindowsBackend.Refines WindowsBackend.step) .new s ∧ s.Refines :=
  Reachable.guarded_iff_kept WindowsBackend.Refines rfl fun _ _ _ hs hrefines hstep =>
    careful_iff_refines (WindowsBackend.targeted_of_reachable hs) hrefines hstep

/-! ## A second configuration -/

def sampleInterface (address : String) : WireGuardInterfaceConfig where
  interfaceName := some "slan0"
  keyPair := ⟨"self-pk", "self-sk"⟩
  listenPort := some 51820
  mtu := some 1280
  addresses := [address]
  dnsServers := []
  peers := []

def sampleTunnel : TunnelConfig where
  transport := .relay
  localVirtualIp := "10.12.0.2"
  peerVirtualIp := "10.12.0.3"
  wireguardInterface := sampleInterface "10.12.0.2/32"
  wireguardPeer := ⟨some "peer-1", "peer-pk", none, some "198.51.100.20:51820", ["10.12.0.3/32"],
    some 15⟩

/-- A tunnel is established, then its interface gets another address. -/
def readdressed : WindowsBackend :=
  let established := (WindowsBackend.new.establish ⟨none, none⟩ ⟨.done, .done⟩ sampleTunnel).2
  (established.applyInterfaceConfig ⟨none, none⟩ (sampleInterface "10.12.0.9/32")).2

theorem readdressed_leaves_address : ¬ ∀ s, Reachable WindowsBackend.step .new s → s.Refines := by
  intro hclaim
  have hrun : Reachable WindowsBackend.step .new readdressed :=
    (Reachable.start.next (a := .establish ⟨none, none⟩ ⟨.done, .done⟩ sampleTunnel) rfl).next
      (a := .applyInterfaceConfig ⟨none, none⟩ (sampleInterface "10.12.0.9/32")) rfl
  have hdown : readdressed.isUp = false := by decide
  have hleft : readdressed.system = {⟨.alias "Loopback Pseudo-Interface 1", "10.12.0.2",
      "255.255.255.255"⟩} := by decide
  have hrefines := (hclaim readdressed hrun).system_eq_empty hdown
  rw [hleft] at hrefines
  exact Finset.singleton_ne_empty _ hrefines

end Slan.Client
