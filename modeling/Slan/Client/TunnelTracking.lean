import Slan.Lib.Transition
import Slan.Client.AppCore

/-! # When the recorded peer is the one that the tunnel manager has a tunnel to -/

namespace Slan.Client

open Transition

/-- A manager that keeps its tunnels by the peer's address. A call that fails does nothing. -/
def tableHost (manager : TunnelManager) : TunnelHost (Table TunnelConfig) where
  close held peerVirtualIp :=
    match manager.close peerVirtualIp with
    | .ok () => (.ok (), held.remove peerVirtualIp)
    | .error err => (.error err, held)
  establish held config :=
    match manager.establish config with
    | .ok () => (.ok (), held.put config.peerVirtualIp config)
    | .error err => (.error err, held)

/-- Apart from the tunnels it is the `replace_tunnel` of `control_sync`. -/
theorem replaceTunnelOn_tableHost (manager : TunnelManager) (held : Table TunnelConfig)
    (current : Option String) (config : Option TunnelConfig) :
    let replaced := replaceTunnelOn (tableHost manager) held current config
    (replaced.1, replaced.2.1) = replaceTunnel current manager config := by
  unfold replaceTunnelOn closeOther replaceTunnel tableHost
  cases current <;> cases config <;> dsimp only <;> grind

section

variable {Stream : Type}

/-- The calls that touch the record or the tunnels, and changes of the path. -/
inductive TunnelAction (Stream : Type) where
  | connect (calls : ConnectCalls Stream (Table TunnelConfig)) (manager : TunnelManager)
    (derpMap : Option DerpMap) (networkId peerNodeId : String)
  | disconnect (manager : TunnelManager)
  /-- With no update the call fails before it commits one. -/
  | controlSync (update : Option ControlWsBootstrapUpdate) (generate : TunnelKeyProvider)
    (manager : TunnelManager) (nowMs : Nat)
  | changePath (path : PathState)
  | restoreSnapshot (snapshot : AppCoreSnapshot)

namespace AppCore

def after (core : AppCore Stream (Table TunnelConfig)) :
    TunnelAction Stream → AppCore Stream (Table TunnelConfig)
  | .connect calls manager derpMap networkId peerNodeId =>
    (core.connect { calls with host := tableHost manager } derpMap networkId peerNodeId).2
  | .disconnect manager => (core.disconnect (tableHost manager)).2
  | .controlSync none _ _ _ => core
  | .controlSync (some update) generate manager nowMs =>
    (core.commitControlSync update generate (tableHost manager) nowMs).2
  | .changePath path => core.withPath path
  | .restoreSnapshot snapshot => core.restoreSnapshot snapshot

def step (core : AppCore Stream (Table TunnelConfig)) (a : TunnelAction Stream)
    (next : AppCore Stream (Table TunnelConfig)) : Prop := next = core.after a

end AppCore

end

/-! ## The property -/

/-- The tunnels are one to the recorded peer, or none. -/
def Tracked (current : Option String) (tunnels : Table TunnelConfig) : Prop :=
  ∀ peerVirtualIp, current = some peerVirtualIp ↔ (tunnels.get? peerVirtualIp).isSome = true

/-- The tunnel has the local address, key, peer and endpoint of the configuration. -/
structure Carries (tunnel config : TunnelConfig) : Prop where
  localVirtualIp : tunnel.localVirtualIp = config.localVirtualIp
  keyPair : tunnel.wireguardInterface.keyPair = config.wireguardInterface.keyPair
  peerVirtualIp : tunnel.peerVirtualIp = config.peerVirtualIp
  peerNodeId : tunnel.wireguardPeer.peerNodeId = config.wireguardPeer.peerNodeId
  publicKey : tunnel.wireguardPeer.publicKey = config.wireguardPeer.publicKey
  endpoint : tunnel.wireguardPeer.endpoint = config.wireguardPeer.endpoint

/-- A tunnel to the configuration's peer carries it. -/
def Live (tunnels : Table TunnelConfig) (config : TunnelConfig) : Prop :=
  ∃ tunnel, tunnels.get? config.peerVirtualIp = some tunnel ∧ Carries tunnel config

/-! ## `replace_tunnel` -/

section

variable {manager : TunnelManager} {held : Table TunnelConfig} {current : Option String}

theorem Tracked.none_iff : Tracked none held ↔ ∀ peerVirtualIp, held.get? peerVirtualIp = none := by
  refine forall_congr' fun peerVirtualIp => ?_
  rw [Option.isSome_iff_ne_none]
  constructor
  · intro h
    by_contra hne
    cases h.mpr hne
  · intro h
    exact iff_of_false nofun fun hne => hne h

theorem Tracked.remove {peerVirtualIp : String} (h : Tracked (some peerVirtualIp) held) :
    Tracked none (held.remove peerVirtualIp) := by
  rw [Tracked.none_iff]
  intro ip
  rw [Table.get?_remove]
  split
  · rfl
  · rename_i hne
    by_contra hsome
    have hcurrent := (h ip).mpr (Option.isSome_iff_ne_none.mpr hsome)
    exact hne (Option.some.inj hcurrent).symm

theorem Tracked.put (h : Tracked none held) (config : TunnelConfig) :
    Tracked (some config.peerVirtualIp) (held.put config.peerVirtualIp config) := by
  intro ip
  rw [Table.get?_put]
  split
  · rename_i heq
    exact iff_of_true (congrArg some heq.symm) rfl
  · rename_i hne
    rw [Tracked.none_iff.mp h ip]
    refine iff_of_false (fun heq => hne (Option.some.inj heq).symm) nofun

theorem closeOther_tracked (manager : TunnelManager) (h : Tracked current held)
    (next : Option String) :
    let closed := closeOther (tableHost manager) held current next
    Tracked closed.2.1 closed.2.2 := by
  unfold closeOther tableHost
  cases current with
  | none => exact h
  | some peerVirtualIp =>
    dsimp only
    split
    · cases manager.close peerVirtualIp with
      | ok _ => exact h.remove
      | error err => exact h
    · exact h

/-- Once it is closed, what is left is recorded for the new peer only. -/
theorem closeOther_ok {next : Option String} {left : Option String} {tunnels : Table TunnelConfig}
    (h : closeOther (tableHost manager) held current next = (.ok (), left, tunnels)) :
    (left = none) ∨ (left = next ∧ left = current ∧ tunnels = held) := by
  unfold closeOther at h
  cases current with
  | none =>
    obtain ⟨-, hleft⟩ := Prod.mk.inj h
    exact .inl (Prod.mk.inj hleft).1.symm
  | some peerVirtualIp =>
    dsimp only at h
    split at h
    · generalize (tableHost manager).close held peerVirtualIp = closed at h
      rcases closed with ⟨err | _, tunnels'⟩
      · cases (Prod.mk.inj h).1
      · exact .inl (Prod.mk.inj (Prod.mk.inj h).2).1.symm
    · rename_i heq
      obtain ⟨hleft, htunnels⟩ := Prod.mk.inj (Prod.mk.inj h).2
      exact .inr ⟨hleft.symm.trans (not_not.mp heq), hleft.symm, htunnels.symm⟩

theorem replaceTunnelOn_tracked (h : Tracked current held) (config : Option TunnelConfig) :
    let replaced := replaceTunnelOn (tableHost manager) held current config
    Tracked replaced.2.1 replaced.2.2 := by
  have hclosed := closeOther_tracked manager h (config.map TunnelConfig.peerVirtualIp)
  unfold replaceTunnelOn
  rcases hrun : closeOther (tableHost manager) held current (config.map TunnelConfig.peerVirtualIp)
    with ⟨err | _, left, tunnels⟩
  · rw [hrun] at hclosed
    exact hclosed
  · rw [hrun] at hclosed
    cases config with
    | none => exact hclosed
    | some config =>
      dsimp only at hclosed ⊢
      split
      · rename_i hne
        have hleft : left = none := by
          obtain hnone | ⟨hnext, -, -⟩ := closeOther_ok hrun
          · exact hnone
          · exact absurd hnext hne
        rw [hleft] at hclosed ⊢
        unfold tableHost
        dsimp only
        cases manager.establish config with
        | ok _ => exact hclosed.put config
        | error err => exact hclosed
      · exact hclosed

/-- The tunnel that is recorded is left alone. -/
theorem replaceTunnelOn_recorded {M : Type} (host : TunnelHost M) (held : M)
    {config : TunnelConfig} (hcurrent : current = some config.peerVirtualIp) :
    replaceTunnelOn host held current (some config) = (.ok (), current, held) := by
  have hclosed : closeOther host held current (some config.peerVirtualIp) =
      (.ok (), current, held) := by
    rw [hcurrent, closeOther]
    exact if_neg fun hne => hne rfl
  rw [replaceTunnelOn, Option.map_some, hclosed]
  dsimp only
  rw [if_neg (not_not.mpr hcurrent)]

theorem replaceTunnelOn_established {config : TunnelConfig}
    (hcurrent : current ≠ some config.peerVirtualIp)
    (hok : (replaceTunnelOn (tableHost manager) held current (some config)).1 = .ok ()) :
    let replaced := replaceTunnelOn (tableHost manager) held current (some config)
    replaced.2.1 = some config.peerVirtualIp ∧
      replaced.2.2.get? config.peerVirtualIp = some config := by
  unfold replaceTunnelOn at hok ⊢
  rw [Option.map_some] at hok ⊢
  rcases hrun : closeOther (tableHost manager) held current (some config.peerVirtualIp)
    with ⟨err | _, left, tunnels⟩
  · rw [hrun] at hok
    cases hok
  · rw [hrun] at hok
    obtain rfl | ⟨hnext, hsame, -⟩ := closeOther_ok hrun
    · dsimp only at hok ⊢
      rw [if_pos nofun] at hok ⊢
      unfold tableHost at hok ⊢
      dsimp only at hok ⊢
      cases hresult : manager.establish config with
      | error err =>
        rw [hresult] at hok
        cases hok
      | ok _ => exact ⟨rfl, Table.get?_put_self _ _ _⟩
    · exact absurd (hsame.symm.trans hnext) hcurrent

/-- A replacement that succeeds gives the configured tunnel, unless the record is already of its
peer: then it is the tunnel that is there. -/
theorem replaceTunnelOn_live_iff (config : TunnelConfig)
    (hok : (replaceTunnelOn (tableHost manager) held current (some config)).1 = .ok ()) :
    Live (replaceTunnelOn (tableHost manager) held current (some config)).2.2 config ↔
      (current = some config.peerVirtualIp → Live held config) := by
  by_cases hcurrent : current = some config.peerVirtualIp
  · rw [replaceTunnelOn_recorded (tableHost manager) held hcurrent]
    exact ⟨fun hlive _ => hlive, fun hlive => hlive hcurrent⟩
  · refine iff_of_true ?_ fun heq => absurd heq hcurrent
    obtain ⟨-, hheld⟩ := replaceTunnelOn_established hcurrent hok
    exact ⟨config, hheld, ⟨rfl, rfl, rfl, rfl, rfl, rfl⟩⟩

end

/-! ## Calls of the facade -/

namespace AppCore

section

variable {Stream M : Type}

/-- The tunnels change in `replace_tunnel` only. -/
def Replaces (host : TunnelHost M) (core next : AppCore Stream M) : Prop :=
  (next.facade.currentTunnelPeerVirtualIp = core.facade.currentTunnelPeerVirtualIp ∧
    next.tunnels = core.tunnels) ∨
  ∃ config, (next.facade.currentTunnelPeerVirtualIp, next.tunnels) =
    (replaceTunnelOn host core.tunnels core.facade.currentTunnelPeerVirtualIp config).2

variable {host : TunnelHost M} {core next : AppCore Stream M}

theorem Replaces.refl (host : TunnelHost M) (core : AppCore Stream M) : Replaces host core core :=
  .inl ⟨rfl, rfl⟩

theorem Replaces.of_eq {core' : AppCore Stream M} (h : Replaces host core next)
    (hcurrent : core.facade.currentTunnelPeerVirtualIp = core'.facade.currentTunnelPeerVirtualIp)
    (htunnels : core.tunnels = core'.tunnels) : Replaces host core' next := by
  rw [Replaces, ← hcurrent, ← htunnels]
  exact h

theorem finalizeConnectedPath_replaces (core : AppCore Stream M) (host : TunnelHost M)
    (activePath : ActivePath) (config : Option TunnelConfig) :
    Replaces host core (core.finalizeConnectedPath host activePath config).2 := by
  refine .inr ⟨config, ?_⟩
  unfold finalizeConnectedPath
  rcases replaceTunnelOn host core.tunnels core.facade.currentTunnelPeerVirtualIp config
    with ⟨err | _, current, tunnels⟩
  · rfl
  · rfl

variable {calls : ConnectCalls Stream M} {context : ConnectContext}

theorem finishConnect_replaces (core : AppCore Stream M) (connectionState : ConnectionState) :
    Replaces calls.host core (core.finishConnect calls context connectionState).2 := by
  unfold finishConnect
  generalize ensureTunnelKeyPair core.facade.state calls.generate _ _ _ = ensured
  rcases ensured with ⟨err | keyPair, state⟩
  · exact .inl ⟨rfl, rfl⟩
  · dsimp only
    have hreplaces := finalizeConnectedPath_replaces (core.withState state) calls.host
      core.path.activePath (buildTunnelConfig core.path.activePath context.bootstrap context.peer
        keyPair)
    rcases hrun : (core.withState state).finalizeConnectedPath calls.host core.path.activePath
      (buildTunnelConfig core.path.activePath context.bootstrap context.peer keyPair)
      with ⟨err | _, next⟩
    · rw [hrun] at hreplaces
      exact hreplaces.of_eq rfl rfl
    · rw [hrun] at hreplaces
      exact hreplaces.of_eq rfl rfl

theorem finishManaged_replaces (core : AppCore Stream M) :
    Replaces calls.host core (core.finishManaged calls context).2 := by
  unfold finishManaged
  split
  · exact finishConnect_replaces core _
  · exact .inl ⟨rfl, rfl⟩

theorem connectViaDerpPool_tunnels (core : AppCore Stream M) (calls : ConnectCalls Stream M)
    (derpMap : Option DerpMap) (networkId : String) (context : ConnectContext) :
    let next := (core.connectViaDerpPool calls derpMap networkId context).2
    next.facade = core.facade ∧ next.tunnels = core.tunnels := by
  unfold connectViaDerpPool
  grind

theorem fallBack_replaces (core : AppCore Stream M) (derpMap : Option DerpMap)
    (networkId : String) (plan : Option ControlWsConnectPlan) :
    Replaces calls.host core (core.fallBack calls derpMap networkId context plan).2 := by
  unfold fallBack
  split
  · exact .refl calls.host core
  · obtain ⟨hfacade, htunnels⟩ := connectViaDerpPool_tunnels core calls derpMap networkId
      context
    rcases hrun : core.connectViaDerpPool calls derpMap networkId context
      with ⟨err | _ | connectionState, next⟩
    · rw [hrun] at hfacade htunnels
      exact .inl ⟨congrArg Facade.currentTunnelPeerVirtualIp hfacade, htunnels⟩
    · rw [hrun] at hfacade htunnels
      dsimp only at hfacade htunnels ⊢
      split
      · exact .inl ⟨congrArg Facade.currentTunnelPeerVirtualIp hfacade, htunnels⟩
      · split
        · exact .inl ⟨congrArg Facade.currentTunnelPeerVirtualIp hfacade, htunnels⟩
        · exact (finishManaged_replaces _).of_eq
            (congrArg Facade.currentTunnelPeerVirtualIp hfacade) htunnels
    · rw [hrun] at hfacade htunnels
      exact (finishManaged_replaces _).of_eq
        (congrArg Facade.currentTunnelPeerVirtualIp hfacade) htunnels

theorem connect_replaces (core : AppCore Stream M) (calls : ConnectCalls Stream M)
    (derpMap : Option DerpMap) (networkId peerNodeId : String) :
    Replaces calls.host core (core.connect calls derpMap networkId peerNodeId).2 := by
  unfold connect
  split
  · exact .refl calls.host core
  · dsimp only
    split
    · exact fallBack_replaces core derpMap networkId _
    · split
      · exact (finishConnect_replaces _ _).of_eq rfl rfl
      · exact (fallBack_replaces _ derpMap networkId _).of_eq rfl rfl
      · exact (fallBack_replaces _ derpMap networkId _).of_eq rfl rfl

theorem commitControlSync_replaces (core : AppCore Stream M) (update : ControlWsBootstrapUpdate)
    (generate : TunnelKeyProvider) (host : TunnelHost M) (nowMs : Nat) :
    Replaces host core (core.commitControlSync update generate host nowMs).2 := by
  unfold commitControlSync
  split
  · exact .refl host core
  · exact .inl ⟨rfl, rfl⟩
  · rename_i state bootstrap reapply _
    generalize ensureTunnelKeyPair state generate _ _ _ = ensured
    rcases ensured with ⟨err | keyPair, state⟩
    · exact .inl ⟨rfl, rfl⟩
    · dsimp only
      split
      · exact .inl ⟨rfl, rfl⟩
      · rename_i config _
        refine .inr ⟨some config, ?_⟩
        generalize hrun : replaceTunnelOn host _ _ _ = replaced
        rcases replaced with ⟨err | _, current, tunnels⟩
        · exact congrArg Prod.snd hrun.symm
        · exact congrArg Prod.snd hrun.symm

end

/-! ## Runs -/

variable {Stream : Type}

abbrev TracksTunnel (core : AppCore Stream (Table TunnelConfig)) : Prop :=
  Tracked core.facade.currentTunnelPeerVirtualIp core.tunnels

/-- A call that keeps the record right: only a disconnect whose close fails and a restored snapshot
of another tunnel do not. -/
def KeepsRecord (core : AppCore Stream (Table TunnelConfig)) : TunnelAction Stream → Prop
  | .disconnect manager => ∀ peerVirtualIp,
    core.facade.currentTunnelPeerVirtualIp = some peerVirtualIp →
      manager.close peerVirtualIp = .ok ()
  | .restoreSnapshot snapshot =>
    snapshot.tunnelPeerVirtualIp = core.facade.currentTunnelPeerVirtualIp
  | _ => True

theorem Replaces.tracksTunnel {core next : AppCore Stream (Table TunnelConfig)}
    {manager : TunnelManager} (hreplaces : Replaces (tableHost manager) core next)
    (h : core.TracksTunnel) : next.TracksTunnel := by
  obtain ⟨hcurrent, htunnels⟩ | ⟨config, hreplaced⟩ := hreplaces
  · rw [TracksTunnel, hcurrent, htunnels]
    exact h
  · obtain ⟨hcurrent, htunnels⟩ := Prod.mk.inj hreplaced
    rw [TracksTunnel, hcurrent, htunnels]
    exact replaceTunnelOn_tracked h config

theorem disconnect_iff {core : AppCore Stream (Table TunnelConfig)} (h : core.TracksTunnel)
    (manager : TunnelManager) :
    KeepsRecord core (.disconnect manager) ↔ (core.after (.disconnect manager)).TracksTunnel := by
  rw [KeepsRecord, after, disconnect]
  cases hcurrent : core.facade.currentTunnelPeerVirtualIp with
  | none =>
    rw [TracksTunnel, hcurrent] at h
    exact iff_of_true nofun h
  | some peerVirtualIp =>
    rw [TracksTunnel, hcurrent] at h
    simp only [Option.some.injEq, forall_eq']
    cases hclose : manager.close peerVirtualIp with
    | ok _ =>
      have hhost : (tableHost manager).close core.tunnels peerVirtualIp =
          (.ok (), core.tunnels.remove peerVirtualIp) := by
        rw [tableHost]
        simp only [hclose]
      rw [hhost]
      exact iff_of_true rfl h.remove
    | error err =>
      have hhost : (tableHost manager).close core.tunnels peerVirtualIp =
          (.error err, core.tunnels) := by
        rw [tableHost]
        simp only [hclose]
      rw [hhost]
      refine iff_of_false nofun fun hafter => ?_
      have hgone := Tracked.none_iff.mp hafter peerVirtualIp
      have hlive := (h peerVirtualIp).mp rfl
      rw [Option.isSome_iff_ne_none] at hlive
      exact hlive hgone

/-- Two records are right about the same tunnels only if they are the same. -/
theorem tracked_iff_eq {current current' : Option String} {tunnels : Table TunnelConfig}
    (h : Tracked current tunnels) : current' = current ↔ Tracked current' tunnels := by
  constructor
  · rintro rfl
    exact h
  · intro h'
    refine Option.ext fun peerVirtualIp => ?_
    exact (h' peerVirtualIp).trans (h peerVirtualIp).symm

theorem keepsRecord_iff {core : AppCore Stream (Table TunnelConfig)} (h : core.TracksTunnel)
    (a : TunnelAction Stream) : KeepsRecord core a ↔ (core.after a).TracksTunnel := by
  cases a with
  | connect calls manager derpMap networkId peerNodeId =>
    have hreplaces := connect_replaces core { calls with host := tableHost manager } derpMap
      networkId peerNodeId
    exact iff_of_true trivial (hreplaces.tracksTunnel h)
  | disconnect manager => exact disconnect_iff h manager
  | controlSync update generate manager nowMs =>
    cases update with
    | none => exact iff_of_true trivial h
    | some update =>
      have hreplaces := commitControlSync_replaces core update generate (tableHost manager) nowMs
      exact iff_of_true trivial (hreplaces.tracksTunnel h)
  | changePath path => exact iff_of_true trivial h
  | restoreSnapshot snapshot => exact tracked_iff_eq h

theorem new_tracksTunnel : (new ∅ : AppCore Stream (Table TunnelConfig)).TracksTunnel :=
  Tracked.none_iff.mpr Table.get?_empty

end AppCore

/-- The runs of calls that keep the record right are the runs in which the recorded peer is the one
with a tunnel; and a `replace_tunnel` that succeeds gives the configured tunnel unless the record is
of its peer already, where it takes the tunnel that is there for it. -/
theorem tunnel_tracked_iff {Stream : Type} (core : AppCore Stream (Table TunnelConfig)) :
    (Reachable (guarded AppCore.KeepsRecord AppCore.step) (.new ∅) core ↔
      Reachable (kept AppCore.TracksTunnel AppCore.step) (.new ∅) core ∧ core.TracksTunnel) ∧
    ∀ manager config, (replaceTunnelOn (tableHost manager) core.tunnels
        core.facade.currentTunnelPeerVirtualIp (some config)).1 = .ok () →
      (Live (replaceTunnelOn (tableHost manager) core.tunnels
          core.facade.currentTunnelPeerVirtualIp (some config)).2.2 config ↔
        (core.facade.currentTunnelPeerVirtualIp = some config.peerVirtualIp →
          Live core.tunnels config)) := by
  constructor
  · refine Reachable.guarded_iff_kept AppCore.TracksTunnel AppCore.new_tracksTunnel ?_
    intro s a t _ h hstep
    rw [hstep]
    exact AppCore.keepsRecord_iff h a
  · intro manager config hok
    exact replaceTunnelOn_live_iff config hok

/-- A manager that cannot close. -/
def stuckManager : TunnelManager := ⟨fun _ => .error "device busy", fun _ => .ok ()⟩

def stuckCalls : ConnectCalls Unit (Table TunnelConfig) :=
  sampleCalls (tableHost stuckManager) (.ok ())

def connectedThenDisconnected : AppCore Unit (Table TunnelConfig) :=
  ((AppCore.after (.new ∅) (.restoreSnapshot sampleSnapshot)).after
    (.connect stuckCalls stuckManager none "net-1" "node-2")).after (.disconnect stuckManager)

/-- The tunnel is left, and its record is gone. -/
theorem stuckManager_not_tracked :
    ¬((∀ core : AppCore Unit (Table TunnelConfig),
        Reachable AppCore.step (.new ∅) core → core.TracksTunnel) ∧
      ∀ core : AppCore Unit (Table TunnelConfig), Reachable AppCore.step (.new ∅) core →
        ∀ manager config, (replaceTunnelOn (tableHost manager) core.tunnels
            core.facade.currentTunnelPeerVirtualIp (some config)).1 = .ok () →
          Live (replaceTunnelOn (tableHost manager) core.tunnels
            core.facade.currentTunnelPeerVirtualIp (some config)).2.2 config) := by
  rintro ⟨hall, -⟩
  have htracks := hall connectedThenDisconnected
    (((Reachable.start.next rfl).next rfl).next rfl)
  have hlive : (connectedThenDisconnected.tunnels.get? "10.0.0.2").isSome = true := by
    decide
  have hgone : connectedThenDisconnected.facade.currentTunnelPeerVirtualIp = none := by
    decide
  rw [AppCore.TracksTunnel, hgone] at htracks
  cases (htracks "10.0.0.2").mpr hlive

end Slan.Client
