import Slan.App.Enabling

/-! # Which addresses the tunnel of the enabled network gets -/

namespace Slan.App

/-! ## Assigned addresses -/

/-- An attachment of this device to the network has the address, but for outer white space. -/
def AttachedAt (response : Dto.BootstrapResponse) (networkId address : String) : Prop :=
  ∃ attachment ∈ response.device.attachments.items, attachment.networkId = networkId ∧
    trim attachment.virtualIp = address ∧ address ≠ ""

/-- Another member of the network has the address by the network's map. -/
def OtherMemberHas (response : Dto.BootstrapResponse) (networkId address : String) : Prop :=
  response.networkMap.networkId = networkId ∧
    ∃ detail ∈ response.networks.items, detail.networkId = networkId ∧
      ∃ member ∈ detail.members.items, member.deviceId ≠ response.device.device.deviceId ∧
        ∃ peer ∈ response.networkMap.peers.items, peer.deviceId = member.deviceId ∧
          address ∈ peer.virtualIps.items

/-- The configuration is for the addresses of this device and of another member. -/
structure Assigned (response : Dto.BootstrapResponse) (networkId : String)
    (config : WireGuardTunnelConfiguration) : Prop where
  own : AttachedAt response networkId config.localVirtualIp
  addresses : config.interface.addresses = [config.localVirtualIp ++ "/32"]
  peer : OtherMemberHas response networkId config.peerVirtualIp
  allowedIps : config.peer.allowedIps = [config.peerVirtualIp ++ "/32"]

/-- What enabling the network gives the host is assigned, so that without such a pair of addresses
it gets nothing. -/
def TunnelsToAssigned (server : ControlPlane) (host : TunnelHostGateway) (clock : Clock)
    (s : AppCoreState) : Prop :=
  ∀ config ∈ appliedBy (enableActiveNetwork server.api host clock) s,
    ∃ active response, Answered server clock s active response ∧
      Assigned response active.networkId config

/-- The address that a member of the network gets if it is this device: of its first attachment
there with an address, unless that is blank. -/
def listedAddress (response : Dto.BootstrapResponse) (networkId : String) : Option String :=
  let isListed := (response.networks.items.find? (·.networkId = networkId)).any fun detail =>
    detail.members.items.any (·.deviceId = response.device.device.deviceId)
  if isListed then
    (response.device.attachments.items.find? fun attachment =>
      attachment.networkId = networkId ∧ attachment.virtualIp ≠ "").bind
        fun attachment => nonBlank (some attachment.virtualIp)
  else
    none

/-- The addresses that are made up are assigned. -/
def MadeUpAssigned (response : Dto.BootstrapResponse) (networkId : String) : Prop :=
  match listedAddress response networkId with
  | some own => OtherMemberHas response networkId
      (if own = "10.0.0.2" then "10.0.0.3" else "10.0.0.2")
  | none => AttachedAt response networkId "10.0.0.10" ∧
      OtherMemberHas response networkId "10.0.0.2"

section Addresses

variable {response : Dto.BootstrapResponse} {networkId : String}

theorem nonBlank_eq_some {text address : String} (h : nonBlank (some text) = some address) :
    trim text = address ∧ address ≠ "" := by
  obtain ⟨htrim, hne⟩ := Option.filter_eq_some_iff.mp h
  exact ⟨Option.some.inj htrim, of_decide_eq_true hne⟩

theorem attachedAt_listedAddress {own : String}
    (h : listedAddress response networkId = some own) : AttachedAt response networkId own := by
  unfold listedAddress at h
  dsimp only at h
  split at h
  · obtain ⟨attachment, hfind, hblank⟩ := Option.bind_eq_some_iff.mp h
    obtain ⟨htrim, hne⟩ := nonBlank_eq_some hblank
    have hattachment := List.find?_some hfind
    exact ⟨attachment, List.mem_of_find?_eq_some hfind, (of_decide_eq_true hattachment).1, htrim,
      hne⟩
  · cases h

/-- A network of the answer is looked up by its id. -/
theorem find_networks :
    (bootstrapDto response).toModel.networks.find? (·.networkId = networkId) =
      (response.networks.items.find? (·.networkId = networkId)).map fun detail =>
        (detailDto detail).toModel response.device.device.deviceId
          (response.device.attachments.items.map attachmentDto) := by
  change ((response.networks.items.map detailDto).map _).find? _ = _
  rw [List.map_map, List.find?_map]
  rfl

theorem findSome_ite {α β : Type} (p : α → Prop) [DecidablePred p] (found : Option β)
    (items : List α) :
    items.findSome? (fun a => if p a then found else none) =
      if items.any (p ·) then found else none := by
  induction items with
  | nil => rfl
  | cons a items ih =>
    rw [List.findSome?_cons, List.any_cons, ih]
    by_cases ha : p a <;> cases found <;> simp [ha]

theorem findSome_address (attachments : List Dto.SubnetAttachment) :
    (attachments.map attachmentDto).findSome? (fun attachment =>
        if attachment.networkId = networkId then attachment.address else none) =
      (attachments.find? fun attachment =>
        attachment.networkId = networkId ∧ attachment.virtualIp ≠ "").map (·.virtualIp) := by
  rw [List.findSome?_map]
  induction attachments with
  | nil => rfl
  | cons attachment attachments ih =>
    rw [List.findSome?_cons, List.find?_cons, ih]
    simp only [Function.comp_apply, attachmentDto, SubnetAttachmentResponseDto.address,
      Json.nonEmpty]
    by_cases hnetwork : attachment.networkId = networkId
    · by_cases hempty : attachment.virtualIp = ""
      · simp [hnetwork, hempty]
      · simp [hnetwork, hempty, Option.filter]
    · simp [hnetwork]

/-- Every entry of this device among the members gets the same address. -/
theorem localVirtualIpFor_detail {detail : Dto.NetworkDetail}
    (hfind : response.networks.items.find? (·.networkId = networkId) = some detail) :
    localVirtualIpFor ((detailDto detail).toModel response.device.device.deviceId
        (response.device.attachments.items.map attachmentDto)) response.device.device.deviceId =
      (listedAddress response networkId).getD "10.0.0.10" := by
  have hfound := List.find?_some hfind
  have hnetwork : detail.networkId = networkId := of_decide_eq_true hfound
  have hmember (member : Dto.NetworkMember) :
      (if member.deviceId = response.device.device.deviceId then
        nonBlank ((memberDto member).toModel detail.networkId response.device.device.deviceId
          (response.device.attachments.items.map attachmentDto)).virtualIp else none) =
      if member.deviceId = response.device.device.deviceId then
        nonBlank ((response.device.attachments.items.find? fun attachment =>
          attachment.networkId = networkId ∧ attachment.virtualIp ≠ "").map (·.virtualIp))
      else none := by
    split
    · rename_i hself
      rw [NetworkMemberResponseDto.toModel, memberDto]
      dsimp only
      rw [if_pos hself, hnetwork, findSome_address]
    · rfl
  unfold localVirtualIpFor listedAddress
  simp only [NetworkDetailResponseDto.toModel, detailDto, List.map_map, List.findSome?_map, hfind,
    Option.any_some]
  congr 1
  refine (congrArg (List.findSome? · detail.members.items) (funext hmember)).trans ?_
  refine (findSome_ite (fun member : Dto.NetworkMember =>
    member.deviceId = response.device.device.deviceId) _ _).trans ?_
  cases response.device.attachments.items.find? fun attachment =>
    attachment.networkId = networkId ∧ attachment.virtualIp ≠ "" <;> rfl

theorem peerVirtualIpFor_detail (detail : Dto.NetworkDetail) (localVirtualIp : String) :
    peerVirtualIpFor ((detailDto detail).toModel response.device.device.deviceId
        (response.device.attachments.items.map attachmentDto)) response.device.device.deviceId
      localVirtualIp = peerFallback localVirtualIp := by
  unfold peerVirtualIpFor
  rw [List.findSome?_eq_none_iff.mpr]
  · rfl
  · intro member hmember
    obtain ⟨dto, -, rfl⟩ := List.mem_map.mp hmember
    split
    · rename_i hother
      replace hother : dto.deviceId ≠ response.device.device.deviceId := hother
      rw [NetworkMemberResponseDto.toModel]
      dsimp only
      rw [if_neg hother]
      rfl
    · rfl

theorem assigned_configurationFrom_iff (active : NetworkModel) :
    Assigned response active.networkId (configurationFrom active response) ↔
      MadeUpAssigned response active.networkId := by
  generalize hconfig : configurationFrom active response = config
  cases hfind : response.networks.items.find? (·.networkId = active.networkId) with
  | none =>
    -- No member of the network is known, and none has an address.
    have hother (address : String) : ¬ OtherMemberHas response active.networkId address := by
      rintro ⟨-, detail, hdetail, hnetwork, -⟩
      exact List.find?_eq_none.mp hfind detail hdetail (decide_eq_true hnetwork)
    refine iff_of_false (fun h => hother _ h.peer) fun h => ?_
    unfold MadeUpAssigned at h
    split at h
    · exact hother _ h
    · exact hother _ h.2
  | some detail =>
    have hlocal : config.localVirtualIp =
        (listedAddress response active.networkId).getD "10.0.0.10" := by
      rw [← hconfig, configurationFrom, find_networks, hfind]
      exact localVirtualIpFor_detail hfind
    have hpeer : config.peerVirtualIp = peerFallback config.localVirtualIp := by
      rw [← hconfig, configurationFrom, find_networks, hfind]
      exact peerVirtualIpFor_detail detail _
    have hassigned : Assigned response active.networkId config ↔
        AttachedAt response active.networkId config.localVirtualIp ∧
          OtherMemberHas response active.networkId (peerFallback config.localVirtualIp) := by
      rw [← hpeer]
      refine ⟨fun h => ⟨h.own, h.peer⟩, fun h => ⟨h.1, ?_, h.2, ?_⟩⟩ <;> rw [← hconfig] <;> rfl
    rw [hassigned, hlocal, MadeUpAssigned]
    cases hlisted : listedAddress response active.networkId with
    | none => exact Iff.rfl
    | some own => exact and_iff_right (attachedAt_listedAddress hlisted)

end Addresses

/-- The tunnel is for assigned addresses just where the addresses that are made up are assigned. -/
theorem enableActiveNetwork_assigned_iff (server : ControlPlane) (host : TunnelHostGateway)
    (clock : Clock) (s : AppCoreState) :
    TunnelsToAssigned server host clock s ↔
      ∀ active response, Answered server clock s active response →
        MadeUpAssigned response active.networkId := by
  unfold TunnelsToAssigned
  rw [appliedBy_enable]
  constructor
  · intro h active response hanswered
    obtain ⟨active', response', hanswered', hassigned⟩ :=
      h _ (by rw [hanswered.prepared]; exact List.mem_singleton_self _)
    obtain ⟨rfl, rfl⟩ := hanswered.unique hanswered'
    exact (assigned_configurationFrom_iff active).mp hassigned
  · intro h config hconfig
    cases hprepared : prepared server.api clock s with
    | none =>
      rw [hprepared] at hconfig
      cases hconfig
    | some runtime =>
      obtain ⟨active, response, hanswered⟩ := answered_of_prepared hprepared
      rw [hanswered.prepared] at hconfig
      obtain rfl := List.mem_singleton.mp hconfig
      exact ⟨active, response, hanswered,
        (assigned_configurationFrom_iff active).mpr (h active response hanswered)⟩

/-! ### A laptop in a network with others -/

def laptop : Dto.Device where
  deviceId := "dev-1"
  name := "macbook"
  ownerEmail := ""
  platform := "macos"
  machineId := ""
  status := "online"
  currentVirtualIp := ""
  linkStatus := ""
  connectivityProtocol := ""
  joinedAt := 0
  createdAt := 0
  publicKey := "device-pub"
  networkIds := some ["net-1"]

def homeMember (deviceId : String) : Dto.NetworkMember where
  memberId := "member-" ++ deviceId
  networkId := "net-1"
  deviceId := deviceId
  role := "member"
  createdAt := 0
  status := "active"

def homePeer (deviceId virtualIp : String) : Dto.Peer where
  nodeId := "node-" ++ deviceId
  deviceId := deviceId
  publicKey := "pub-" ++ deviceId
  status := "online"
  relayAllowed := true
  virtualIps := some [virtualIp]
  endpoints := none
  allowedRoutes := none

/-- The laptop has 100.64.0.10, the others what is given. -/
def homeAnswer (others : List (String × String)) : Dto.BootstrapResponse where
  controlSessionId := ""
  sessionToken := ""
  device := {
    device := laptop
    attachments := some [⟨"attachment-1", "net-1", "subnet-1", "dev-1", "100.64.0.10", "", ""⟩] }
  networks := some [{
    networkId := "net-1"
    name := "home"
    description := ""
    defaultSubnetId := "subnet-1"
    defaultSubnetCidr := "100.64.0.0/24"
    joinKeyConfigured := false
    ownedByCurrentUser := true
    dns := ⟨none, none⟩
    joinKey := ""
    subnets := none
    members := some (homeMember "dev-1" :: others.map fun other => homeMember other.1) }]
  controlPlane := ⟨"ws://127.0.0.1:8080/control/ws", 15⟩
  stunServers := none
  relay := ⟨"cn-local-a", none⟩
  derpMap := ⟨30, none⟩
  networkMap := {
    selfUserId := "user-1"
    selfDeviceId := "dev-1"
    selfNodeId := "node-1"
    networkId := "net-1"
    revision := 1
    heartbeatSeconds := 15
    stunServers := none
    peers := some (others.map fun other => homePeer other.1 other.2)
    routes := none
    relayRegions := none
    dns := ⟨none, none⟩
    mtu := 1280 }

def homeServer (others : List (String × String)) : ControlPlane where
  listNetworks := .ok [⟨"net-1", "home", "100.64.0.0/24", []⟩]
  registerNode deviceId nodeId nodePublicKey capabilities :=
    .ok ⟨nodeId, deviceId, nodePublicKey, ["net-1"], capabilities⟩
  activateNetwork _ _ := .ok ()
  bootstrap _ _ := .ok (homeAnswer others)
  controlStatus := .ok ()

def acceptingHost : TunnelHostGateway where
  applyTunnelConfiguration _ _ := .ok ⟨true, .accepted, "accepted", none⟩
  bringTunnelUp _ := .ok ⟨true, .accepted, "accepted", none⟩
  tunnelRuntimeView _ _ := .ok none

def laptopState : AppCoreState where
  session := some ⟨"user-1", "token", none, 3600, some "dev-1", none⟩
  device := some ⟨"dev-1", "macbook", "macos", "online", none, some "device-pub"⟩
  node := none
  networks := [⟨"net-1", "home", "100.64.0.0/24", []⟩]
  bootstrap := none
  notice := none
  error := none
  tunnelDebugError := none
  tunnelRuntimeView := none
  lastTunnelActionReport := none
  hostCalls := []

/-- The other member's address is in the answer, but the tunnel is for another; and it is for the
same where there is no other member. -/
theorem peer_not_assigned :
    ¬ TunnelsToAssigned (homeServer [("dev-2", "100.64.0.11")]) acceptingHost ⟨0, 0⟩
        laptopState ∧
      OtherMemberHas (homeAnswer [("dev-2", "100.64.0.11")]) "net-1" "100.64.0.11" ∧
      (appliedBy (enableActiveNetwork (homeServer [("dev-2", "100.64.0.11")]).api acceptingHost
        ⟨0, 0⟩) laptopState).map (fun config => (config.localVirtualIp, config.peer.allowedIps)) =
        [("100.64.0.10", ["10.0.0.2/32"])] ∧
      (appliedBy (enableActiveNetwork (homeServer []).api acceptingHost ⟨0, 0⟩)
        laptopState).map (fun config => (config.localVirtualIp, config.peer.allowedIps)) =
        [("100.64.0.10", ["10.0.0.2/32"])] := by
  refine ⟨fun h => ?_, ?_, rfl, rfl⟩
  · obtain ⟨active, response, hanswered, hassigned⟩ := h _ (List.mem_singleton_self _)
    obtain ⟨_, _, _, _, _, hresponse⟩ := hanswered.calls
    cases hresponse
    obtain ⟨-, detail, -, -, member, -, -, peer, hpeer, -, haddress⟩ := hassigned.peer
    obtain rfl := List.mem_singleton.mp hpeer
    exact absurd (List.mem_singleton.mp haddress) (by decide)
  · unfold OtherMemberHas
    decide

end Slan.App
