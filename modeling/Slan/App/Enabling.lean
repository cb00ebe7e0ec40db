import Slan.App.Coordinator
import Slan.App.ServerAnswers

/-! # What enabling the network gives the host -/

namespace Slan.App

open Program (Keeps Triple)

/-! ## What the host is given -/

def HostCall.configuration? : HostCall → Option WireGuardTunnelConfiguration
  | .applyTunnelConfiguration configuration => some configuration
  | _ => none

def AppCoreState.configurations (s : AppCoreState) : List WireGuardTunnelConfiguration :=
  s.hostCalls.filterMap HostCall.configuration?

/-- The configurations that the host has got by now. -/
def Got (configurations : List WireGuardTunnelConfiguration) (s : AppCoreState) : Prop :=
  s.configurations = configurations

section Host

variable {host : TunnelHostGateway} {configurations configurations' : List
  WireGuardTunnelConfiguration} {E : String → AppCoreState → Prop}

theorem exec_got {write : AppCoreState → AppCoreState}
    (h : ∀ s, (write s).hostCalls = s.hostCalls) :
    Triple (Got configurations) (Program.exec write : Action Unit)
      (fun _ => Got configurations) E := by
  refine .exec fun s hs => ?_
  unfold Got AppCoreState.configurations at *
  rw [h, hs]

theorem callHost_got {α : Type} (call : HostCall) (answer : List HostCall → Except String α) :
    Triple (Got configurations) (callHost call answer)
      (fun _ => Got (configurations ++ call.configuration?.toList))
      fun _ => Got (configurations ++ call.configuration?.toList) := by
  refine .bind (R := fun _ => Got configurations) (.query fun _ hs => hs) fun calls => ?_
  refine .bind (R := fun _ => Got (configurations ++ call.configuration?.toList))
    (.exec fun s hs => ?_) fun _ => (Keeps.ofExcept (answer calls)).triple
  unfold Got AppCoreState.configurations at *
  rw [List.filterMap_append, hs]
  cases call <;> rfl

theorem callHost_got_of_none {α : Type} {call : HostCall} (hcall : call.configuration? = none)
    (answer : List HostCall → Except String α) :
    Triple (Got configurations) (callHost call answer) (fun _ => Got configurations)
      fun _ => Got configurations := by
  have hgot : Triple (Got configurations) _ _ _ := callHost_got call answer
  rwa [hcall, Option.toList_none, List.append_nil] at hgot

/-- Only the call itself gives the host a configuration. -/
theorem verified_got (call : HostCall)
    (answer : List HostCall → Except String WireGuardTunnelActionResult)
    (build : Option WireGuardTunnelRuntimeView → TunnelActionReport)
    (verifyPeerVirtualIp : Option String) :
    Triple (Got configurations)
      (TunnelRuntimeService.verified host call answer build verifyPeerVirtualIp)
      (fun _ => Got (configurations ++ call.configuration?.toList))
      fun _ => Got (configurations ++ call.configuration?.toList) := by
  refine .bind (callHost_got call answer) fun nativeResult => ?_
  generalize configurations ++ call.configuration?.toList = configurations
  dsimp only
  split
  · exact .bind (callHost_got_of_none rfl _) fun runtime => .pure fun _ hs => hs
  · exact .pure fun _ hs => hs

theorem runTunnelAction_got {α : Type} {action : Action α}
    (h : Triple (Got configurations) action (fun _ => Got configurations')
      fun _ => Got configurations') :
    Triple (Got configurations) (runTunnelAction action) (fun _ => Got configurations') E := by
  refine .bind (exec_got fun _ => rfl) fun _ => ?_
  refine .bind (R := fun _ => Got configurations') (.attempt h) fun result => ?_
  cases result with
  | ok a => exact .pure fun _ hs => hs
  | error err => exact .bind (exec_got fun _ => rfl) fun _ => .pure fun _ hs => hs

theorem reported_got {operation : Action TunnelRuntimeOperationResult}
    (h : Triple (Got configurations) operation (fun _ => Got configurations')
      fun _ => Got configurations') :
    Triple (Got configurations) (reported operation) (fun _ => Got configurations') E := by
  have haction := runTunnelAction_got (E := E) (h.bind (f := fun result => do
      Program.exec fun s => { s with tunnelRuntimeView := result.runtimeView }
      return result.report) fun result =>
    .bind (exec_got fun _ => rfl) fun _ => .pure fun _ hs => hs)
  refine .bind haction fun report => ?_
  refine .bind (R := fun _ => Got configurations') (.query fun _ hs => hs) fun report => ?_
  exact .bind (exec_got fun _ => rfl) fun _ => .pure fun _ hs => hs

theorem applyTunnelConfiguration_got (configuration : WireGuardTunnelConfiguration)
    (verifyPeerVirtualIp : Option String) :
    Triple (Got configurations) (applyTunnelConfiguration host configuration verifyPeerVirtualIp)
      (fun _ => Got (configurations ++ [configuration])) E :=
  reported_got (verified_got (.applyTunnelConfiguration configuration) _ _ _)

theorem bringTunnelUp_got (verifyPeerVirtualIp : Option String) :
    Triple (Got configurations) (bringTunnelUp host verifyPeerVirtualIp)
      (fun _ => Got configurations) E := by
  refine reported_got ?_
  have hgot : Triple (Got configurations) _ _ _ := @verified_got host _ .bringTunnelUp
    host.bringTunnelUp buildBringUpVerificationReport verifyPeerVirtualIp
  rwa [show HostCall.bringTunnelUp.configuration? = none from rfl, Option.toList_none,
    List.append_nil] at hgot

end Host

section Enable

variable (api : AppCoreApi) (host : TunnelHostGateway) (clock : Clock)

/-- What the network is enabled with, if it comes to it. -/
def prepared (s : AppCoreState) : Option ActiveNetworkRuntimeResult :=
  if s.networks = [] then
    none
  else
    (prepareActiveNetworkRuntime api clock s.session s.device s.node s.networks).toOption

def ActiveNetworkRuntimeResult.configuration (runtime : ActiveNetworkRuntimeResult) :
    WireGuardTunnelConfiguration :=
  buildActiveNetworkConfiguration runtime.activeNetwork runtime.device.deviceId
    runtime.device.publicKey

theorem runAction_got {action : Action Unit} {s : AppCoreState}
    {configurations : List WireGuardTunnelConfiguration}
    (h : Triple (· = { s with error := none }) action (fun _ => Got configurations)
      fun _ => Got configurations) : Got configurations ((runAction action).after s) := by
  have haction : Triple (· = s) (runAction action) (fun _ => Got configurations)
      fun _ => Got configurations := by
    refine .bind (R := fun _ t => t = { s with error := none })
      (.exec fun t ht => ht ▸ rfl) fun _ => ?_
    refine .bind (R := fun _ => Got configurations) (.attempt h) fun result => ?_
    cases result with
    | ok _ => exact .pure fun _ hs => hs
    | error err => exact exec_got fun _ => rfl
  exact haction.after rfl

theorem prepared_of_session {s : AppCoreState} (h : s.session.isNone) :
    prepared api clock s = none := by
  unfold prepared prepareActiveNetworkRuntime
  rw [if_pos h]
  split <;> rfl

theorem prepared_of_device {s : AppCoreState} (h : s.device.isNone) :
    prepared api clock s = none := by
  unfold prepared
  split
  · rfl
  · rename_i hnetworks
    unfold prepareActiveNetworkRuntime
    rw [Option.isNone_iff_eq_none.mp h, if_neg hnetworks]
    split <;> rfl

theorem prepared_eq_some_iff {s : AppCoreState} {runtime : ActiveNetworkRuntimeResult} :
    prepared api clock s = some runtime ↔
      s.session ≠ none ∧ ∃ active ∈ s.networks.head?, ∃ device ∈ s.device, ∃ node,
        ensureNode api clock device s.node = .ok node ∧
        api.activateNetwork active.networkId device.deviceId = .ok () ∧
        ∃ bootstrap, api.bootstrap node.nodeId active.networkId = .ok bootstrap ∧
          api.controlStatus = .ok () ∧
          { device := bootstrap.device
            node
            networks := bootstrap.networks
            bootstrap
            activeNetwork := (bootstrap.networks.find?
              (·.networkId = active.networkId)).getD active } = runtime := by
  obtain hsession | ⟨session, hsession⟩ := Option.eq_none_or_eq_some s.session
  · rw [prepared_of_session api clock (by rw [hsession]; rfl)]
    exact iff_of_false nofun fun h => h.1 hsession
  obtain hdevice | ⟨device, hdevice⟩ := Option.eq_none_or_eq_some s.device
  · rw [prepared_of_device api clock (by rw [hdevice]; rfl), hdevice]
    exact iff_of_false nofun fun ⟨_, _, _, _, h, _⟩ => nomatch h
  cases hnetworks : s.networks with
  | nil =>
    rw [prepared, if_pos hnetworks]
    exact iff_of_false nofun fun ⟨_, _, h, _⟩ => nomatch h
  | cons active networks =>
    rw [prepared, if_neg (by rw [hnetworks]; nofun), prepareActiveNetworkRuntime, hsession,
      hdevice, hnetworks, if_neg (by nofun), if_neg (List.cons_ne_nil _ _)]
    have hok {result : Except String ActiveNetworkRuntimeResult} :
        result.toOption = some runtime ↔ result = .ok runtime := by
      cases result <;> simp [Except.toOption]
    simp only [hok, Program.bind_eq_ok, List.head?_cons, Option.mem_def,
      Option.some.injEq, exists_eq_left', ne_eq, reduceCtorEq, not_false_eq_true, true_and,
      Unique.exists_iff, pure, Except.pure, Except.ok.injEq]

/-- The host gets the one configuration of what was prepared. -/
theorem configurations_enable (s : AppCoreState) :
    ((enableActiveNetwork api host clock).after s).configurations =
      s.configurations ++ ((prepared api clock s).map (·.configuration)).toList := by
  refine runAction_got ?_
  refine .bind (R := fun t' t => Got s.configurations t ∧ t' = { s with error := none })
    (.query fun t ht => ⟨ht ▸ rfl, ht⟩) fun t => .of_and fun ht => ?_
  subst ht
  have hnone (h : prepared api clock s = none) : s.configurations =
      s.configurations ++ ((prepared api clock s).map (·.configuration)).toList := by
    rw [h, Option.map_none, Option.toList_none, List.append_nil]
  dsimp only
  split
  · rename_i hsession
    rw [← hnone (prepared_of_session api clock hsession)]
    exact .fail fun _ ht => ht
  · split
    · rename_i hdevice
      rw [← hnone (prepared_of_device api clock hdevice)]
      exact .fail fun _ ht => ht
    · split
      · rename_i hnetworks
        rw [← hnone (if_pos hnetworks)]
        exact exec_got fun _ => rfl
      · rename_i hnetworks
        have hprepared : prepared api clock s = (prepareActiveNetworkRuntime api clock s.session
            s.device s.node s.networks).toOption := if_neg hnetworks
        refine .bind (R := fun runtime t => Got s.configurations t ∧
            prepared api clock s = some runtime) ?_ fun runtime => .of_and fun hruntime => ?_
        · refine .ofExcept (fun runtime hok t ht => ⟨ht, ?_⟩) fun err herror t ht => ?_
          · rw [hprepared, hok]
            rfl
          · rwa [← hnone (by rw [hprepared, herror]; rfl)]
        · rw [hruntime]
          refine .bind (exec_got fun _ => rfl) fun _ => ?_
          refine .bind (applyTunnelConfiguration_got runtime.configuration _) fun applyReport => ?_
          split
          · exact .bind (bringTunnelUp_got _) fun _ => .pure fun _ ht => ht
          · exact .pure fun _ ht => ht

/-- The configurations that an action has given to the host. -/
def appliedBy (action : Action Unit) (s : AppCoreState) : List WireGuardTunnelConfiguration :=
  (action.after s).configurations.drop s.configurations.length

theorem appliedBy_enable (s : AppCoreState) :
    appliedBy (enableActiveNetwork api host clock) s =
      ((prepared api clock s).map (·.configuration)).toList := by
  rw [appliedBy, configurations_enable, List.drop_left]

end Enable

/-! ## Answers of the control plane -/

/-- The control plane, with its bootstrap answers as the server gives them. -/
structure ControlPlane where
  listNetworks : Except String (List NetworkModel)
  registerNode : (deviceId nodeId nodePublicKey : String) → (capabilities : List String) →
    Except String NodeModel
  activateNetwork : (networkId deviceId : String) → Except String Unit
  bootstrap : (nodeId networkId : String) → Except String Dto.BootstrapResponse
  controlStatus : Except String Unit

/-- `HttpAppCoreApi` -/
def ControlPlane.api (server : ControlPlane) : AppCoreApi where
  listNetworks := server.listNetworks
  registerNode := server.registerNode
  activateNetwork := server.activateNetwork
  bootstrap nodeId networkId := do
    let response ← server.bootstrap nodeId networkId
    asMap response.encode >>= parseBootstrapResponse
  controlStatus := server.controlStatus

theorem ControlPlane.api_bootstrap (server : ControlPlane) (nodeId networkId : String)
    (bootstrap : BootstrapModel) :
    server.api.bootstrap nodeId networkId = .ok bootstrap ↔
      ∃ response, server.bootstrap nodeId networkId = .ok response ∧
        (bootstrapDto response).toModel = bootstrap := by
  refine Program.bind_eq_ok.trans (exists_congr fun response => and_congr_right fun _ => ?_)
  rw [parseBootstrapResponse_encode, Except.ok.injEq]

/-- Enabling the network comes to a bootstrap answer for it, with every call answered. -/
structure Answered (server : ControlPlane) (clock : Clock) (s : AppCoreState)
    (active : NetworkModel) (response : Dto.BootstrapResponse) : Prop where
  session : s.session ≠ none
  network : s.networks.head? = some active
  calls : ∃ device ∈ s.device, ∃ node, ensureNode server.api clock device s.node = .ok node ∧
    server.activateNetwork active.networkId device.deviceId = .ok () ∧
    server.bootstrap node.nodeId active.networkId = .ok response
  controlStatus : server.controlStatus = .ok ()

/-- The configuration that is made from an answer. -/
def configurationFrom (active : NetworkModel) (response : Dto.BootstrapResponse) :
    WireGuardTunnelConfiguration :=
  let bootstrap := (bootstrapDto response).toModel
  buildActiveNetworkConfiguration
    ((bootstrap.networks.find? (·.networkId = active.networkId)).getD active)
    bootstrap.device.deviceId bootstrap.device.publicKey

section Answers

variable {server : ControlPlane} {clock : Clock} {s : AppCoreState} {active : NetworkModel}
  {response : Dto.BootstrapResponse}

theorem Answered.prepared (h : Answered server clock s active response) :
    (prepared server.api clock s).map (·.configuration) =
      some (configurationFrom active response) := by
  obtain ⟨device, hdevice, node, hnode, hactivate, hbootstrap⟩ := h.calls
  obtain ⟨networks, hnetworks⟩ := List.head?_eq_some_iff.mp h.network
  have hmodel := (server.api_bootstrap node.nodeId active.networkId _).mpr ⟨response, hbootstrap, rfl⟩
  have hsome := (prepared_eq_some_iff server.api clock).mpr
    ⟨h.session, active, h.network, device, hdevice, node, hnode, hactivate, _, hmodel,
      h.controlStatus, rfl⟩
  rw [hsome]
  rfl

theorem answered_of_prepared {runtime : ActiveNetworkRuntimeResult}
    (h : Slan.App.prepared server.api clock s = some runtime) :
    ∃ active response, Answered server clock s active response := by
  obtain ⟨hsession, active, hactive, device, hdevice, node, hnode, hactivate, bootstrap,
    hbootstrap, hstatus, -⟩ := (prepared_eq_some_iff server.api clock).mp h
  obtain ⟨response, hresponse, -⟩ := (server.api_bootstrap _ _ _).mp hbootstrap
  exact ⟨active, response, hsession, hactive, ⟨device, hdevice, node, hnode, hactivate, hresponse⟩,
    hstatus⟩

theorem Answered.unique {active' : NetworkModel} {response' : Dto.BootstrapResponse}
    (h : Answered server clock s active response) (h' : Answered server clock s active' response') :
    active = active' ∧ response = response' := by
  obtain rfl : active = active' := Option.some.inj (h.network.symm.trans h'.network)
  obtain ⟨device, hdevice, node, hnode, -, hresponse⟩ := h.calls
  obtain ⟨device', hdevice', node', hnode', -, hresponse'⟩ := h'.calls
  obtain rfl : device = device' := Option.mem_unique hdevice hdevice'
  obtain rfl : node = node' := Except.ok.inj (hnode.symm.trans hnode')
  exact ⟨rfl, Except.ok.inj (hresponse.symm.trans hresponse')⟩

end Answers

end Slan.App
