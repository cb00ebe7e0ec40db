import Slan.Client.WindowsAddresses

/-! # `app-core-helper`: the tunnel host over the Windows backend

The times that the host notes are left out. A request comes with what `serde_json` makes of its
arguments.
-/

namespace Slan.Client

open Transition

structure HelperTunnelConfiguration extends TunnelConfig where
  debugEngineMode : Option String
  deriving DecidableEq, Repr

def HelperTunnelConfiguration.fromTunnelConfig (config : TunnelConfig) : HelperTunnelConfiguration :=
  { config with debugEngineMode := none }

structure HelperTunnelHost where
  backend : WindowsBackend
  configuration : Option HelperTunnelConfiguration
  lastError : Option String
  isRunning : Bool

/-- Of the answer to a request, what its own code decides. -/
structure ActionResult where
  action : String
  accepted : Bool
  phase : String
  detail : String
  connectionStatus : String
  configurationPeerVirtualIp : Option String
  runtimeState : Option String
  backendState : Option String
  runtimeLastError : Option String
  deriving DecidableEq, Repr

namespace HelperTunnelHost

def new : HelperTunnelHost := ⟨.new, none, none, false⟩

def actionResult (host : HelperTunnelHost) (action : String) (accepted : Bool)
    (phase detail : String) : ActionResult where
  action := action
  accepted := accepted
  phase := phase
  detail := detail
  connectionStatus := if host.isRunning then "connected" else "disconnected"
  configurationPeerVirtualIp := host.configuration.map fun config => config.peerVirtualIp
  runtimeState := host.configuration.map fun _ =>
    if host.isRunning then "configured" else "disconnected"
  backendState :=
    if host.lastError.isSome then some "failed"
    else if host.isRunning then some "started"
    else if host.configuration.isSome then some "idle"
    else none
  runtimeLastError := host.lastError

def backendError (err : String) : String := "app_core_tunnel_backend_error: " ++ err

def missingPeer : String := "app_core_invalid_tunnel_config: missing or invalid peerVirtualIp"

/-- Whether the interface is up already is not looked at, nor which peers there are. -/
def applyConfiguration (host : HelperTunnelHost) (machine : WindowsMachine)
    (args : Except String HelperTunnelConfiguration) :
    Except String ActionResult × HelperTunnelHost :=
  match args with
  | .error err => (.error ("app_core_invalid_tunnel_config: " ++ err), host)
  | .ok configuration =>
    match host.backend.applyInterfaceConfig machine configuration.wireguardInterface with
    | (.error err, backend) => (.error (backendError err), { host with backend })
    | (.ok (), backend) =>
      match backend.applyPeerConfig configuration.peerVirtualIp configuration.wireguardPeer with
      | (.error err, backend) => (.error (backendError err), { host with backend })
      | (.ok (), backend) =>
        let host := { host with backend, configuration := some configuration, lastError := none }
        (.ok (host.actionResult "applyTunnelConfiguration" true "configured"
          ("Rust backend accepted tunnel configuration for " ++ configuration.peerVirtualIp ++ ".")),
          host)

/-- The host forgets the configuration of a peer that is gone. -/
def forget (host : HelperTunnelHost) (peerVirtualIp : String) : HelperTunnelHost :=
  if host.configuration.map (fun config => config.peerVirtualIp) = some peerVirtualIp then
    { host with configuration := none, isRunning := false, lastError := none }
  else host

def removePeer (host : HelperTunnelHost) (peerVirtualIp : Option String) :
    Except String ActionResult × HelperTunnelHost :=
  match peerVirtualIp.filter fun peer => peer ≠ "" with
  | none => (.error missingPeer, host)
  | some peer =>
    match host.backend.removePeer peer with
    | (.error err, backend) => (.error (backendError err), { host with backend })
    | (.ok (), backend) =>
      let host := forget { host with backend } peer
      (.ok (host.actionResult "removeTunnelPeer" true
        (if host.configuration.isSome then "accepted" else "verified")
        ("Rust backend processed peer removal for " ++ peer ++ ".")), host)

def bringUp (host : HelperTunnelHost) (outcomes : WindowsOutcomes) :
    Except String ActionResult × HelperTunnelHost :=
  match host.configuration with
  | none => (.error (backendError "missing tunnel configuration"), host)
  | some _ =>
    match host.backend.bringUp outcomes with
    | (.ok (), backend) =>
      let host := { host with backend, isRunning := true, lastError := none }
      (.ok (host.actionResult "bringTunnelUp" true "started"
        "Rust backend accepted the bring-up request."), host)
    | (.error err, backend) =>
      let host := { host with backend, lastError := some err }
      (.ok (host.actionResult "bringTunnelUp" false "failed"
        ("Rust backend failed to bring the tunnel up: " ++ err)), host)

def bringDown (host : HelperTunnelHost) (outcomes : WindowsOutcomes) :
    Except String ActionResult × HelperTunnelHost :=
  match host.configuration with
  | none =>
    let host := { host with isRunning := false }
    (.ok (host.actionResult "bringTunnelDown" true "verified"
      "Rust backend confirmed the tunnel is already down."), host)
  | some _ =>
    match host.backend.bringDown outcomes with
    | (.error err, backend) => (.error (backendError err), { host with backend })
    | (.ok (), backend) =>
      let host := { host with backend, isRunning := false, lastError := none }
      (.ok (host.actionResult "bringTunnelDown" true "verified"
        "Rust backend accepted the bring-down request."), host)

/-! ## As the facade's tunnel manager -/

def establish (host : HelperTunnelHost) (machine : WindowsMachine) (outcomes : WindowsOutcomes)
    (config : TunnelConfig) : Except String Unit × HelperTunnelHost :=
  match host.backend.establish machine outcomes config with
  | (.error err, backend) => (.error err, { host with backend })
  | (.ok (), backend) =>
    (.ok (), ⟨backend, some (.fromTunnelConfig config), none, true⟩)

def close (host : HelperTunnelHost) (peerVirtualIp : String) :
    Except String Unit × HelperTunnelHost :=
  match host.backend.close peerVirtualIp with
  | (.error err, backend) => (.error err, { host with backend })
  | (.ok (), backend) => (.ok (), forget { host with backend } peerVirtualIp)

end HelperTunnelHost

/-- A request to the helper, or a call that the facade makes while it answers another. -/
inductive HelperAction where
  | applyTunnelConfiguration (machine : WindowsMachine)
    (args : Except String HelperTunnelConfiguration)
  | removeTunnelPeer (peerVirtualIp : Option String)
  | bringTunnelUp (outcomes : WindowsOutcomes)
  | bringTunnelDown (outcomes : WindowsOutcomes)
  | tunnelRuntimeView
  | establish (machine : WindowsMachine) (outcomes : WindowsOutcomes) (config : TunnelConfig)
  | close (peerVirtualIp : String)

namespace HelperTunnelHost

/-- The host after a request or a call. -/
def after (host : HelperTunnelHost) : HelperAction → HelperTunnelHost
  | .applyTunnelConfiguration machine args => (host.applyConfiguration machine args).2
  | .removeTunnelPeer peerVirtualIp => (host.removePeer peerVirtualIp).2
  | .bringTunnelUp outcomes => (host.bringUp outcomes).2
  | .bringTunnelDown outcomes => (host.bringDown outcomes).2
  | .tunnelRuntimeView => host
  | .establish machine outcomes config => (host.establish machine outcomes config).2
  | .close peerVirtualIp => (host.close peerVirtualIp).2

def step (s : HelperTunnelHost) (a : HelperAction) (t : HelperTunnelHost) : Prop := t = s.after a

/-- The backend has no peer but this one. -/
def OnlyPeer (host : HelperTunnelHost) (peerVirtualIp : String) : Prop :=
  ∀ peer config, host.backend.peers.get? peer = some config → peer = peerVirtualIp

/-- The flags agree with the backend, and its peers with the configuration. -/
structure Consistent (host : HelperTunnelHost) : Prop where
  running : host.isRunning = host.backend.isUp
  configured : host.isRunning = true → host.configuration.isSome = true
  peers : ∀ peer config, host.backend.peers.get? peer = some config →
    host.configuration.map (fun configuration => configuration.peerVirtualIp) = some peer

end HelperTunnelHost

/-! ## Which requests keep them in step -/

/-- Bringing the interface up succeeds. -/
def WindowsInterfaceRuntime.ComesUp (runtime : WindowsInterfaceRuntime)
    (outcomes : WindowsOutcomes) : Prop :=
  (runtime.isDedicatedAdapter = true ∨ runtime.localPrefixLen ≤ 32) ∧ outcomes.addition = .done

/-- The peer is not that of a configuration that is running. -/
def HelperTunnelHost.Idle (host : HelperTunnelHost) (peerVirtualIp : String) : Prop :=
  host.isRunning = true →
    host.configuration.map (fun configuration => configuration.peerVirtualIp) ≠ some peerVirtualIp

/-- A configuration is applied only while nothing runs and no other peer is left, the peer of a
running configuration is not removed, and a tunnel that is established is the only one and comes
up, or is that of the configuration that is there and not running. -/
def Orderly (s : HelperTunnelHost) : HelperAction → Prop
  | .applyTunnelConfiguration machine args =>
    ∀ configuration, args = .ok configuration →
      (∃ next, interfaceRuntime machine configuration.wireguardInterface = .ok next) →
        s.isRunning = false ∧
          (validatePeer configuration.peerVirtualIp configuration.wireguardPeer = .ok () →
            s.OnlyPeer configuration.peerVirtualIp)
  | .removeTunnelPeer peerVirtualIp => ∀ peer, peerVirtualIp = some peer → peer ≠ "" → s.Idle peer
  | .bringTunnelUp _ | .bringTunnelDown _ | .tunnelRuntimeView => True
  | .establish machine outcomes config =>
    validateConfig config = .ok () →
      ∀ next, interfaceRuntime machine config.wireguardInterface = .ok next →
        (next.ComesUp outcomes → s.OnlyPeer config.peerVirtualIp) ∧
          (¬next.ComesUp outcomes → s.isRunning = false ∧
            s.configuration.map (fun configuration => configuration.peerVirtualIp) =
              some config.peerVirtualIp)
  | .close peerVirtualIp => s.Idle peerVirtualIp

/-! ## The backend's part -/

section

variable {runtime : WindowsInterfaceRuntime} {outcomes : WindowsOutcomes}

theorem applySystemInterface_eq_ok (htargeted : runtime.Targeted) (system : WindowsSystem) :
    (applySystemInterface runtime outcomes system).1 = .ok () ↔ runtime.ComesUp outcomes := by
  rcases happly : applySystemInterface runtime outcomes system with ⟨result, system'⟩
  unfold WindowsInterfaceRuntime.ComesUp
  rcases applySystemInterface_cases htargeted happly with
    ⟨_, hdedicated, _, rfl, _⟩ | ⟨hdedicated, _, ⟨hbits, hresult, _⟩ | ⟨hbits, rfl, _⟩⟩
  · rw [CommandOutcome.result_eq_ok]
    exact (and_iff_right (.inl hdedicated)).symm
  · refine iff_of_false hresult ?_
    rintro ⟨hdedicated' | hbits', -⟩
    · rw [hdedicated] at hdedicated'
      cases hdedicated'
    · exact absurd hbits (Nat.not_lt_of_le hbits')
  · rw [CommandOutcome.result_eq_ok]
    exact (and_iff_right (.inr hbits)).symm

theorem WindowsBackend.bringUp_comesUp (htargeted : runtime.Targeted)
    (h : runtime.ComesUp outcomes) (peers : Table WireGuardPeerConfig) (system : WindowsSystem) :
    ∃ system',
      bringUp ⟨some runtime, peers, system⟩ outcomes =
        (.ok (), ⟨some { runtime with isUp := true }, peers, system'⟩) := by
  rcases happly : applySystemInterface runtime outcomes system with ⟨result, system'⟩
  have hresult := (applySystemInterface_eq_ok htargeted system).mpr h
  rw [happly] at hresult
  obtain rfl : result = .ok () := hresult
  exact ⟨system', bringUp_of_ok happly⟩

theorem WindowsBackend.bringUp_fails (htargeted : runtime.Targeted)
    (h : ¬runtime.ComesUp outcomes) (peers : Table WireGuardPeerConfig) (system : WindowsSystem) :
    ∃ err system',
      bringUp ⟨some runtime, peers, system⟩ outcomes =
        (.error err, ⟨some runtime, peers, system'⟩) := by
  rcases happly : applySystemInterface runtime outcomes system with ⟨err | _, system'⟩
  · exact ⟨err, system', bringUp_of_error happly⟩
  · have hresult := (applySystemInterface_eq_ok htargeted system).mp (by rw [happly])
    exact absurd hresult h

end

/-! ## One request -/

namespace HelperTunnelHost

variable {s t : HelperTunnelHost}

theorem Consistent.backend_down (h : s.Consistent) (hstopped : s.isRunning = false) :
    s.backend.isUp = false := h.running.symm.trans hstopped

theorem consistent_apply {machine : WindowsMachine} {args : Except String HelperTunnelConfiguration}
    (h : s.Consistent) : Orderly s (.applyTunnelConfiguration machine args) ↔
      (s.after (.applyTunnelConfiguration machine args)).Consistent := by
  change _ ↔ (s.applyConfiguration machine args).2.Consistent
  unfold applyConfiguration
  cases args with
  | error err =>
    refine iff_of_true ?_ h
    intro configuration heq
    cases heq
  | ok configuration =>
    cases hnext : interfaceRuntime machine configuration.wireguardInterface with
    | error err =>
      simp only [WindowsBackend.applyInterfaceConfig, hnext]
      refine iff_of_true ?_ h
      rintro _ heq ⟨next, hnext'⟩
      obtain rfl := Except.ok.inj heq
      rw [hnext] at hnext'
      cases hnext'
    | ok next =>
      have hdown : next.isUp = false := (targeted_interfaceRuntime hnext).2
      have horderly : Orderly s (.applyTunnelConfiguration machine (.ok configuration)) ↔
          s.isRunning = false ∧
            (validatePeer configuration.peerVirtualIp configuration.wireguardPeer = .ok () →
              s.OnlyPeer configuration.peerVirtualIp) := by
        constructor
        · intro horderly
          exact horderly configuration rfl ⟨next, hnext⟩
        · intro hboth _ heq _
          obtain rfl := Except.ok.inj heq
          exact hboth
      rw [horderly]
      -- the interface is applied before the peer is refused
      cases hpeer : validatePeer configuration.peerVirtualIp configuration.wireguardPeer with
      | error err =>
        simp only [WindowsBackend.applyInterfaceConfig, hnext, WindowsBackend.applyPeerConfig, hpeer]
        constructor
        · rintro ⟨hstopped, -⟩
          exact ⟨hstopped.trans hdown.symm, h.configured, h.peers⟩
        · intro hafter
          refine ⟨hafter.running.trans hdown, fun hvalid => ?_⟩
          cases hvalid
      | ok u =>
        simp only [WindowsBackend.applyInterfaceConfig, hnext, WindowsBackend.applyPeerConfig, hpeer]
        constructor
        · rintro ⟨hstopped, honly⟩
          refine ⟨hstopped.trans hdown.symm, fun _ => rfl, ?_⟩
          intro peer config hget
          rw [Table.get?_put] at hget
          by_cases hkey : peer = configuration.peerVirtualIp
          · rw [hkey]
            rfl
          · rw [if_neg hkey] at hget
            exact absurd (honly trivial peer config hget) hkey
        · intro hafter
          refine ⟨hafter.running.trans hdown, fun _ peer config hget => ?_⟩
          by_contra hkey
          have hkept := hafter.peers peer config (by
            rw [Table.get?_put, if_neg hkey]
            exact hget)
          exact hkey (Option.some.inj hkept).symm

/-- The host without a peer. -/
theorem consistent_forget {peer : String} (h : s.Consistent) :
    s.Idle peer ↔ (forget { s with backend := (s.backend.removePeer peer).2 } peer).Consistent := by
  unfold forget
  by_cases hpeer : s.configuration.map (fun configuration => configuration.peerVirtualIp) = some peer
  · rw [if_pos hpeer]
    have hnone : ∀ peer' config, (s.backend.peers.remove peer).get? peer' = some config → False := by
      intro peer' config hget
      rw [Table.get?_remove] at hget
      split at hget
      · cases hget
      · rename_i hkey
        exact hkey (Option.some.inj ((h.peers peer' config hget).symm.trans hpeer))
    constructor
    · intro hidle
      have hstopped : s.isRunning = false := by
        by_contra hrunning
        exact hidle (Bool.eq_true_of_not_eq_false hrunning) hpeer
      exact ⟨(h.backend_down hstopped).symm, nofun, fun peer' config hget =>
        (hnone peer' config hget).elim⟩
    · intro hafter hrunning
      have hup : s.backend.isUp = true := h.running.symm.trans hrunning
      have hdown : false = s.backend.isUp := hafter.running
      rw [hup] at hdown
      cases hdown
  · rw [if_neg hpeer]
    refine iff_of_true (fun _ => hpeer) ⟨h.running, h.configured, ?_⟩
    intro peer' config hget
    change (s.backend.peers.remove peer).get? peer' = some config at hget
    rw [Table.get?_remove] at hget
    split at hget
    · cases hget
    · exact h.peers peer' config hget

theorem consistent_remove {peerVirtualIp : Option String} (h : s.Consistent) :
    Orderly s (.removeTunnelPeer peerVirtualIp) ↔
      (s.after (.removeTunnelPeer peerVirtualIp)).Consistent := by
  change _ ↔ (s.removePeer peerVirtualIp).2.Consistent
  unfold removePeer
  cases hfilter : peerVirtualIp.filter fun peer => peer ≠ "" with
  | none =>
    refine iff_of_true ?_ h
    rintro peer rfl hne
    simp [hne] at hfilter
  | some peer =>
    obtain ⟨rfl, hne⟩ := Option.filter_eq_some_iff.mp hfilter
    constructor
    · intro horderly
      exact (consistent_forget h).mp (horderly peer rfl (of_decide_eq_true hne))
    · intro hafter _ heq _
      obtain rfl := Option.some.inj heq
      exact (consistent_forget h).mpr hafter

theorem consistent_bringUp {outcomes : WindowsOutcomes} (h : s.Consistent) :
    (s.after (.bringTunnelUp outcomes)).Consistent := by
  change (s.bringUp outcomes).2.Consistent
  unfold bringUp
  obtain ⟨⟨recorded, peers, system⟩, configuration, lastError, isRunning⟩ := s
  cases configuration with
  | none => exact h
  | some configuration =>
    cases recorded with
    | none => exact ⟨h.running, h.configured, h.peers⟩
    | some runtime =>
      rcases happly : applySystemInterface runtime outcomes system with ⟨err | _, system'⟩
      · simp only [WindowsBackend.bringUp_of_error happly]
        exact ⟨h.running, h.configured, h.peers⟩
      · simp only [WindowsBackend.bringUp_of_ok happly]
        exact ⟨rfl, fun _ => rfl, h.peers⟩

theorem consistent_bringDown {outcomes : WindowsOutcomes} (h : s.Consistent) :
    (s.after (.bringTunnelDown outcomes)).Consistent := by
  change (s.bringDown outcomes).2.Consistent
  unfold bringDown
  obtain ⟨⟨recorded, peers, system⟩, configuration, lastError, isRunning⟩ := s
  cases configuration with
  | none =>
    -- nothing runs without a configuration
    have hstopped : isRunning = false := by
      by_contra hrunning
      exact absurd (h.configured (Bool.eq_true_of_not_eq_false hrunning)) nofun
    exact ⟨(h.backend_down hstopped).symm, nofun, h.peers⟩
  | some configuration =>
    cases recorded with
    | none => exact h
    | some runtime => exact ⟨rfl, nofun, h.peers⟩

theorem consistent_establish {machine : WindowsMachine} {outcomes : WindowsOutcomes}
    {config : TunnelConfig} (h : s.Consistent) :
    Orderly s (.establish machine outcomes config) ↔
      (s.after (.establish machine outcomes config)).Consistent := by
  change _ ↔ (s.establish machine outcomes config).2.Consistent
  unfold establish
  by_cases haccepted : validateConfig config = .ok () ∧
      ∃ next, interfaceRuntime machine config.wireguardInterface = .ok next
  · obtain ⟨hvalid, next, hnext⟩ := haccepted
    obtain ⟨htargeted, hdown⟩ := targeted_interfaceRuntime hnext
    have horderly : Orderly s (.establish machine outcomes config) ↔
        (next.ComesUp outcomes → s.OnlyPeer config.peerVirtualIp) ∧
          (¬next.ComesUp outcomes → s.isRunning = false ∧
            s.configuration.map (fun configuration => configuration.peerVirtualIp) =
              some config.peerVirtualIp) := by
      constructor
      · intro horderly
        exact horderly hvalid next hnext
      · intro hboth _ next' hnext'
        rw [hnext] at hnext'
        obtain rfl := Except.ok.inj hnext'
        exact hboth
    rw [horderly, WindowsBackend.establish_of_ok hvalid hnext]
    -- a start that fails leaves the new peer beside the old configuration
    by_cases hup : next.ComesUp outcomes
    · obtain ⟨system', hbringUp⟩ := WindowsBackend.bringUp_comesUp htargeted hup
        (s.backend.peers.put config.peerVirtualIp config.wireguardPeer) s.backend.system
      rw [hbringUp]
      constructor
      · rintro ⟨honly, -⟩
        refine ⟨rfl, fun _ => rfl, ?_⟩
        intro peer config' hget
        rw [Table.get?_put] at hget
        by_cases hkey : peer = config.peerVirtualIp
        · rw [hkey]
          rfl
        · rw [if_neg hkey] at hget
          exact absurd (honly hup peer config' hget) hkey
      · intro hafter
        refine ⟨fun _ peer config' hget => ?_, fun hnot => absurd hup hnot⟩
        by_contra hkey
        have hkept := hafter.peers peer config' (by
          rw [Table.get?_put, if_neg hkey]
          exact hget)
        exact hkey (Option.some.inj hkept).symm
    · obtain ⟨err, system', hbringUp⟩ := WindowsBackend.bringUp_fails htargeted hup
        (s.backend.peers.put config.peerVirtualIp config.wireguardPeer) s.backend.system
      rw [hbringUp]
      constructor
      · rintro ⟨-, hsame⟩
        obtain ⟨hstopped, hconfig⟩ := hsame hup
        refine ⟨hstopped.trans hdown.symm, h.configured, ?_⟩
        intro peer config' hget
        rw [Table.get?_put] at hget
        by_cases hkey : peer = config.peerVirtualIp
        · rw [hkey]
          exact hconfig
        · rw [if_neg hkey] at hget
          exact h.peers peer config' hget
      · intro hafter
        refine ⟨fun hcomes => absurd hcomes hup, fun _ => ⟨hafter.running.trans hdown, ?_⟩⟩
        exact hafter.peers config.peerVirtualIp config.wireguardPeer (Table.get?_put_self _ _ _)
  · obtain ⟨err, hrefused⟩ := WindowsBackend.establish_of_error (s := s.backend) haccepted
    rw [hrefused]
    refine iff_of_true ?_ h
    intro hvalid next hnext
    exact absurd ⟨hvalid, next, hnext⟩ haccepted

/-- A request keeps the flags and the peers consistent exactly where it is orderly. -/
theorem orderly_iff_consistent {a : HelperAction} (h : s.Consistent) (hstep : s.step a t) :
    Orderly s a ↔ t.Consistent := by
  obtain rfl := hstep
  cases a with
  | applyTunnelConfiguration machine args => exact consistent_apply h
  | removeTunnelPeer peerVirtualIp => exact consistent_remove h
  | bringTunnelUp outcomes => exact iff_of_true trivial (consistent_bringUp h)
  | bringTunnelDown outcomes => exact iff_of_true trivial (consistent_bringDown h)
  | tunnelRuntimeView => exact iff_of_true trivial h
  | establish machine outcomes config => exact consistent_establish h
  | close peerVirtualIp => exact consistent_forget h

theorem consistent_new : new.Consistent where
  running := rfl
  configured := nofun
  peers peer config hget := by
    change (∅ : Table WireGuardPeerConfig).get? peer = some config at hget
    rw [Table.get?_empty] at hget
    cases hget

end HelperTunnelHost

/-- The runs of orderly requests are those in which the host is consistent all along. -/
theorem helper_consistent_iff (s : HelperTunnelHost) :
    Reachable (guarded Orderly HelperTunnelHost.step) .new s ↔
      Reachable (kept HelperTunnelHost.Consistent HelperTunnelHost.step) .new s ∧ s.Consistent :=
  Reachable.guarded_iff_kept HelperTunnelHost.Consistent HelperTunnelHost.consistent_new
    fun _ _ _ _ hs hstep => HelperTunnelHost.orderly_iff_consistent hs hstep

/-! ## A second configuration while the tunnel runs -/

/-- The sample tunnel is established, then its configuration is applied once more. -/
def reconfigured : HelperTunnelHost :=
  let established := (HelperTunnelHost.new.establish ⟨none, none⟩ ⟨.done, .done⟩ sampleTunnel).2
  (established.applyConfiguration ⟨none, none⟩ (.ok (.fromTunnelConfig sampleTunnel))).2

theorem reconfigured_not_consistent :
    ¬ ∀ s, Reachable HelperTunnelHost.step .new s → s.Consistent := by
  intro hclaim
  have hrun : Reachable HelperTunnelHost.step .new
      ((HelperTunnelHost.new.after (.establish ⟨none, none⟩ ⟨.done, .done⟩ sampleTunnel)).after
        (.applyTunnelConfiguration ⟨none, none⟩ (.ok (.fromTunnelConfig sampleTunnel)))) :=
    (Reachable.start.next rfl).next rfl
  have hrunning : reconfigured.isRunning = true := by decide
  have hdown : reconfigured.backend.isUp = false := by decide
  have hsame := (hclaim reconfigured hrun).running
  rw [hrunning, hdown] at hsame
  cases hsame

end Slan.Client
