import Slan.Macos.TunnelConfigMapper

/-! # `PacketTunnelManager.swift`

The tunnel managers that the system keeps in its preferences, and what it answers to each call. A
record that it is asked to save it keeps as it is, and gives it back so.
-/

namespace Slan.Macos

open App (WireGuardTunnelConfiguration WireGuardTunnelInterfaceConfiguration
  WireGuardTunnelPeerConfiguration)
open Plist (Dictionary Value read)
open Plist.Value (asArray asArrayOf asDictionary asInt asString ofOption)
open Program (Triple bind_eq_ok exec fail ofExcept query)
open WireGuardTunnelConfigMapper

/-! ## NetworkExtension -/

structure NETunnelProviderProtocol where
  providerBundleIdentifier : Option String
  serverAddress : Option String
  providerConfiguration : Option Dictionary

structure PacketTunnelManagerRecord where
  localizedDescription : Option String
  protocolConfiguration : Option NETunnelProviderProtocol
  isEnabled : Bool

/-- The answers to the calls of one operation, an error with its description. Of the loading there
may be none in time; a save or a reload without an answer goes for done. -/
structure SystemAnswers where
  load : Option (Except String Unit)
  refresh : Except String Unit
  save : Except String Unit
  reload : Except String Unit

/-- The system does what it is asked to. -/
structure SystemAnswers.Granted (answers : SystemAnswers) : Prop where
  load : answers.load = some (.ok ())
  refresh : answers.refresh = .ok ()
  save : answers.save = .ok ()
  reload : answers.reload = .ok ()

/-! ## The manager -/

def managerDescription : String := "SLAN PacketTunnel"

def providerBundleIdentifier : String := "com.example.slanApp.PacketTunnel"

abbrev Preferences := List PacketTunnelManagerRecord

/-- The preferences with a record at a place, or behind all others. -/
def replaceAt (place : Nat) (record : PacketTunnelManagerRecord) (preferences : Preferences) :
    Preferences :=
  preferences.take place ++ record :: preferences.drop (place + 1)

abbrev Managing := Program Preferences Empty SlanAppCorePluginError

def PacketTunnelManagerRecord.described (record : PacketTunnelManagerRecord) : Bool :=
  record.localizedDescription = some managerDescription

def PacketTunnelManagerRecord.providerConfiguration (record : PacketTunnelManagerRecord) :
    Option Dictionary :=
  record.protocolConfiguration.bind NETunnelProviderProtocol.providerConfiguration

namespace PacketTunnelManager

def serializeInterface (interface : WireGuardTunnelInterfaceConfiguration) : Dictionary :=
  [("interfaceName", ofOption .string interface.interfaceName),
    ("keyPair", .dictionary
      [("publicKey", .string interface.keyPair.publicKey),
        ("privateKey", .string interface.keyPair.privateKey)]),
    ("listenPort", ofOption .int interface.listenPort),
    ("mtu", ofOption .int interface.mtu),
    ("addresses", .array (interface.addresses.map .string)),
    ("dnsServers", .array (interface.dnsServers.map .string))]

def serializeAllowedIp (cidr : String) : Dictionary := [("cidr", .string cidr)]

def serializePeer (peer : WireGuardTunnelPeerConfiguration) : Dictionary :=
  [("peerNodeId", ofOption .string peer.peerNodeId),
    ("publicKey", .string peer.publicKey),
    ("presharedKey", ofOption .string peer.presharedKey),
    ("endpoint", ofOption .string peer.endpoint),
    ("allowedIps", .array (peer.allowedIps.map fun cidr => .dictionary (serializeAllowedIp cidr))),
    ("persistentKeepaliveSeconds", ofOption .int peer.persistentKeepaliveSeconds)]

/-- A mode, unless it is empty. -/
def nonEmptyMode (mode : Option String) : Option String := mode.filter (· ≠ "")

def selectedDebugEngineMode (debugEngineModeOverride : Option String)
    (configuration : WireGuardTunnelConfiguration) : Option String :=
  nonEmptyMode ((nonEmptyMode debugEngineModeOverride).or configuration.debugEngineMode)

/-- What is written whatever the mode is. -/
def serializeFields (configuration : WireGuardTunnelConfiguration) : Dictionary :=
  [("transport", .string configuration.transport),
    ("localVirtualIp", .string configuration.localVirtualIp),
    ("peerVirtualIp", .string configuration.peerVirtualIp),
    ("wireguardInterface", .dictionary (serializeInterface configuration.interface)),
    ("wireguardPeer", .dictionary (serializePeer configuration.peer))]

def serialize (debugEngineModeOverride : Option String)
    (configuration : WireGuardTunnelConfiguration) : Dictionary :=
  serializeFields configuration ++
    match selectedDebugEngineMode debugEngineModeOverride configuration with
    | some mode => [("debugEngineMode", .string mode)]
    | none => []

def unavailable (message : String) : SlanAppCorePluginError where
  code := "app_core_tunnel_backend_unavailable"
  message

def loadManagers (answer : Option (Except String Unit)) : Managing Preferences :=
  match answer with
  | some (.ok ()) => query id
  | some (.error err) => fail (unavailable ("Failed to load packet tunnel managers: " ++ err))
  | none => fail (unavailable "Timed out loading packet tunnel managers")

def reload (answer : Except String Unit) : Managing Unit :=
  ofExcept (answer.mapError fun err =>
    unavailable ("Failed to reload packet tunnel manager: " ++ err))

/-- The manager with its place in the preferences, which for a new one is behind the others. -/
def loadOrCreateManager (answers : SystemAnswers) : Managing (Nat × PacketTunnelManagerRecord) := do
  let managers ← loadManagers answers.load
  match managers.find? (·.described) with
  | some existing =>
    reload answers.refresh
    return (managers.findIdx (·.described), existing)
  | none => return (managers.findIdx (·.described), ⟨some managerDescription, none, false⟩)

def save (answers : SystemAnswers) (place : Nat) (manager : PacketTunnelManagerRecord) :
    Managing Unit := do
  ofExcept (answers.save.mapError fun err =>
    unavailable ("Failed to save packet tunnel manager: " ++ err))
  exec (replaceAt place manager)
  reload answers.reload

section Operations

variable (debugEngineModeOverride : Option String) (answers : SystemAnswers)

/-- What else the system keeps of a manager or its protocol stays as it is. -/
def apply (configuration : WireGuardTunnelConfiguration) : Managing Unit := do
  let (place, _) ← loadOrCreateManager answers
  save answers place {
    localizedDescription := some managerDescription
    protocolConfiguration := some {
      providerBundleIdentifier := some providerBundleIdentifier
      serverAddress := some (configuration.peer.endpoint.getD configuration.peerVirtualIp)
      providerConfiguration := some (serialize debugEngineModeOverride configuration) }
    isEnabled := true }

def clearConfiguration : Managing Unit := do
  let (place, manager) ← loadOrCreateManager answers
  save answers place { manager with protocolConfiguration := none, isEnabled := false }

/-- With what the start of the tunnel comes to. -/
def bringUp (start : Except String Unit) : Managing Unit := do
  let (place, manager) ← loadOrCreateManager answers
  (if manager.isEnabled then pure ()
    else save answers place { manager with isEnabled := true } : Managing Unit)
  ofExcept (start.mapError fun err => unavailable ("Failed to start packet tunnel: " ++ err))

def currentConfiguration : Managing (Option WireGuardTunnelConfiguration) := do
  let (_, manager) ← loadOrCreateManager answers
  match manager.providerConfiguration with
  | none => return none
  | some providerConfiguration => return (mapConfiguration providerConfiguration).toOption

end Operations

/-! ## What is written reads back -/

theorem mapAllowedIpsFrom_serialize {cidrs : List String} (h : ∀ cidr ∈ cidrs, cidr ≠ "")
    (index : Nat) :
    mapAllowedIpsFrom index (cidrs.map fun cidr => .dictionary (serializeAllowedIp cidr)) =
      .ok cidrs := by
  induction cidrs generalizing index with
  | nil => rfl
  | cons cidr cidrs ih =>
    obtain ⟨hcidr, hcidrs⟩ := List.forall_mem_cons.mp h
    have hread : requireString "cidr" (serializeAllowedIp cidr) = .ok cidr :=
      requireString_eq_ok.mpr ⟨Plist.read_cons_self _ _ _, hcidr⟩
    refine bind_eq_ok.mpr ⟨_, rfl, bind_eq_ok.mpr ⟨cidr, hread, ?_⟩⟩
    exact bind_eq_ok.mpr ⟨cidrs, ih hcidrs (index + 1), rfl⟩

theorem mapInterface_serialize {interface : WireGuardTunnelInterfaceConfiguration}
    (hpublic : interface.keyPair.publicKey ≠ "") (hprivate : interface.keyPair.privateKey ≠ "")
    (haddresses : interface.addresses ≠ []) :
    mapInterface (serializeInterface interface) = .ok interface := by
  have hkeyPair : requireObject "keyPair" (serializeInterface interface) =
      .ok [("publicKey", .string interface.keyPair.publicKey),
        ("privateKey", .string interface.keyPair.privateKey)] :=
    require_eq_ok.mpr (by simp [serializeInterface])
  have hkeys : mapKeyPair [("publicKey", .string interface.keyPair.publicKey),
      ("privateKey", .string interface.keyPair.privateKey)] = .ok interface.keyPair := by
    refine bind_eq_ok.mpr ⟨_, requireString_eq_ok.mpr ⟨by simp, hpublic⟩, ?_⟩
    exact bind_eq_ok.mpr ⟨_, requireString_eq_ok.mpr ⟨by simp, hprivate⟩, rfl⟩
  have hmap : requireStringArray "addresses" (serializeInterface interface) =
      .ok interface.addresses :=
    requireStringArray_eq_ok.mpr ⟨by simp [serializeInterface], haddresses⟩
  refine bind_eq_ok.mpr ⟨_, hkeyPair, bind_eq_ok.mpr ⟨_, hkeys, bind_eq_ok.mpr ⟨_, hmap, ?_⟩⟩⟩
  simp [serializeInterface, requireOptionalStringArray, pure, Except.pure]

theorem mapPeer_serialize {peer : WireGuardTunnelPeerConfiguration} (hpublic : peer.publicKey ≠ "")
    (hallowed : ∀ cidr ∈ peer.allowedIps, cidr ≠ "") :
    mapPeer (serializePeer peer) = .ok peer := by
  have hkey : requireString "publicKey" (serializePeer peer) = .ok peer.publicKey :=
    requireString_eq_ok.mpr ⟨by simp [serializePeer], hpublic⟩
  have harray : requireArray "allowedIps" (serializePeer peer) =
      .ok (peer.allowedIps.map fun cidr => .dictionary (serializeAllowedIp cidr)) :=
    require_eq_ok.mpr (by simp [serializePeer])
  refine bind_eq_ok.mpr ⟨_, hkey, bind_eq_ok.mpr ⟨_, harray, ?_⟩⟩
  refine bind_eq_ok.mpr ⟨_, mapAllowedIpsFrom_serialize hallowed 0, ?_⟩
  simp [serializePeer, pure, Except.pure]

theorem read_serialize_mode (mode : Option String) (c : WireGuardTunnelConfiguration) :
    read asString (serialize mode c) "debugEngineMode" = selectedDebugEngineMode mode c := by
  unfold serialize serializeFields
  cases selectedDebugEngineMode mode c <;> simp

theorem selectedDebugEngineMode_of_none {mode : Option String} (h : nonEmptyMode mode = none)
    (c : WireGuardTunnelConfiguration) :
    selectedDebugEngineMode mode c = nonEmptyMode c.debugEngineMode := by
  rw [selectedDebugEngineMode, h, Option.none_or]

/-- The stored dictionary is accepted again, with the mode that was selected. -/
theorem mapConfiguration_serialize (mode : Option String) {c : WireGuardTunnelConfiguration}
    (h : Filled c) : mapConfiguration (serialize mode c) =
      .ok { c with debugEngineMode := selectedDebugEngineMode mode c } := by
  have htransport : requireString "transport" (serialize mode c) = .ok c.transport :=
    requireString_eq_ok.mpr ⟨by simp [serialize, serializeFields], h.transport⟩
  have hlocal : requireString "localVirtualIp" (serialize mode c) = .ok c.localVirtualIp :=
    requireString_eq_ok.mpr ⟨by simp [serialize, serializeFields], h.localVirtualIp⟩
  have hpeerIp : requireString "peerVirtualIp" (serialize mode c) = .ok c.peerVirtualIp :=
    requireString_eq_ok.mpr ⟨by simp [serialize, serializeFields], h.peerVirtualIp⟩
  have hinterface : requireObject "wireguardInterface" (serialize mode c) =
      .ok (serializeInterface c.interface) :=
    require_eq_ok.mpr (by simp [serialize, serializeFields])
  have hpeer : requireObject "wireguardPeer" (serialize mode c) = .ok (serializePeer c.peer) :=
    require_eq_ok.mpr (by simp [serialize, serializeFields])
  refine bind_eq_ok.mpr ⟨_, htransport, bind_eq_ok.mpr ⟨_, hlocal, bind_eq_ok.mpr ⟨_, hpeerIp, ?_⟩⟩⟩
  refine bind_eq_ok.mpr ⟨_, hinterface, bind_eq_ok.mpr ⟨_, mapInterface_serialize h.publicKey
    h.privateKey h.addresses, bind_eq_ok.mpr ⟨_, hpeer, ?_⟩⟩⟩
  refine bind_eq_ok.mpr ⟨_, mapPeer_serialize h.peerKey h.allowedIps, ?_⟩
  rw [read_serialize_mode]
  rfl

/-! ## What is stored -/

/-- The dictionary that is stored for the tunnel. -/
def stored (preferences : Preferences) : Option Dictionary :=
  (preferences.find? (·.described)).bind (·.providerConfiguration)

theorem find?_replaceAt {preferences : Preferences} {record : PacketTunnelManagerRecord}
    (h : record.described = true) :
    (replaceAt (preferences.findIdx (·.described)) record preferences).find? (·.described) =
      some record := by
  have hbefore : (preferences.take (preferences.findIdx (·.described))).find? (·.described) =
      none := by
    refine List.find?_eq_none.mpr fun other hother => ?_
    rw [List.false_of_mem_take_findIdx hother]
    exact Bool.false_ne_true
  rw [replaceAt, List.find?_append, hbefore, Option.none_or, List.find?_cons_of_pos h]

section Operations

variable {answers : SystemAnswers} {p : Preferences} {P : Preferences → Prop}

theorem triple_loadManagers (answer : Option (Except String Unit)) :
    Triple (fun preferences => preferences = p) (loadManagers answer)
      (fun managers preferences => preferences = p ∧ managers = p)
      fun _ preferences => preferences = p ∧ answer ≠ some (.ok ()) := by
  unfold loadManagers
  split
  · exact .query fun _ hp => ⟨hp, hp⟩
  · exact .fail fun _ hp => ⟨hp, nofun⟩
  · exact .fail fun _ hp => ⟨hp, nofun⟩

/-- A call that is answered, or whose error is passed on. -/
theorem triple_answer {answer : Except String Unit} (describe : String → SlanAppCorePluginError) :
    Triple P (ofExcept (answer.mapError describe) : Managing Unit) (fun _ => P)
      fun _ preferences => P preferences ∧ answer ≠ .ok () := by
  refine .ofExcept (fun _ _ _ hp => hp) fun err herr preferences hp => ⟨hp, ?_⟩
  rintro rfl
  cases herr

/-- A manager that is found, or made, with what is stored in it. -/
theorem triple_loadOrCreateManager :
    Triple (fun preferences => preferences = p) (loadOrCreateManager answers)
      (fun found preferences => preferences = p ∧ found.1 = p.findIdx (·.described) ∧
        found.2.described = true ∧ found.2.providerConfiguration = stored p)
      fun _ preferences => preferences = p ∧ ¬answers.Granted := by
  refine .bind ((triple_loadManagers answers.load).imp (fun _ hp => hp) (fun _ _ hs => hs)
    fun _ _ hs => ⟨hs.1, fun h => hs.2 h.load⟩) fun managers => .of_and fun hmanagers => ?_
  subst hmanagers
  cases hfound : managers.find? (·.described) with
  | some existing =>
    have hstored : stored managers = existing.providerConfiguration := by
      rw [stored, hfound]
      rfl
    refine .bind ((triple_answer _).imp (fun _ hp => hp) (fun _ _ hs => hs)
      fun _ _ hs => ⟨hs.1, fun h => hs.2 h.refresh⟩) fun _ => .pure fun _ hp => ⟨hp, rfl, ?_⟩
    exact ⟨List.find?_some hfound, hstored.symm⟩
  | none =>
    have hstored : stored managers = none := by
      rw [stored, hfound]
      rfl
    exact .pure fun _ hp => ⟨hp, rfl, rfl, hstored.symm⟩

/-- What a save that fails leaves is what was stored, or already what was to be. -/
theorem triple_save {manager : PacketTunnelManagerRecord} (h : manager.described = true) :
    Triple (fun preferences => preferences = p) (save answers (p.findIdx (·.described)) manager)
      (fun _ preferences => stored preferences = manager.providerConfiguration)
      fun _ preferences => (stored preferences = stored p ∨
        stored preferences = manager.providerConfiguration) ∧ ¬answers.Granted := by
  have hreplaced : stored (replaceAt (p.findIdx (·.described)) manager p) =
      manager.providerConfiguration := by
    rw [stored, find?_replaceAt h]
    rfl
  refine .bind ((triple_answer _).imp (fun _ hp => hp) (fun _ _ hs => hs)
    fun _ _ hs => ⟨.inl (congrArg stored hs.1), fun h => hs.2 h.save⟩) fun _ => ?_
  refine .bind (R := fun _ preferences => stored preferences = manager.providerConfiguration)
    (.exec fun preferences hp => ?_) fun _ => ?_
  · rw [hp]
    exact hreplaced
  · exact (triple_answer _).imp (fun _ hs => hs) (fun _ _ hs => hs)
      fun _ _ hs => ⟨.inr hs.1, fun h => hs.2 h.reload⟩

/-- An operation on the manager. -/
theorem triple_of_manager {α : Type} {operation : Nat × PacketTunnelManagerRecord → Managing α}
    {Q : α → Preferences → Prop} {E : SlanAppCorePluginError → Preferences → Prop}
    (hrefused : ¬answers.Granted → ∀ err, E err p)
    (h : ∀ manager : PacketTunnelManagerRecord, manager.described = true →
      manager.providerConfiguration = stored p →
      Triple (fun preferences => preferences = p) (operation (p.findIdx (·.described), manager))
        Q E) :
    Triple (fun preferences => preferences = p) (loadOrCreateManager answers >>= operation)
      Q E := by
  refine .bind (triple_loadOrCreateManager.imp (fun _ hp => hp) (fun _ _ hs => hs) ?_)
    fun ⟨place, manager⟩ => .of_and fun hfound => ?_
  · rintro err _ ⟨rfl, hanswers⟩
    exact hrefused hanswers err
  · obtain ⟨rfl, hdescribed, hsame⟩ := hfound
    exact h manager hdescribed hsame

/-- After an apply that is not refused the dictionary of the configuration is stored. -/
theorem triple_apply (mode : Option String) (c : WireGuardTunnelConfiguration) :
    Triple (fun preferences => preferences = p) (apply mode answers c)
      (fun _ preferences => stored preferences = some (serialize mode c))
      fun _ preferences => (stored preferences = stored p ∨
        stored preferences = some (serialize mode c)) ∧ ¬answers.Granted :=
  triple_of_manager (fun hanswers _ => ⟨.inl rfl, hanswers⟩) fun _ _ _ => triple_save rfl

theorem triple_clearConfiguration :
    Triple (fun preferences => preferences = p) (clearConfiguration answers)
      (fun _ preferences => stored preferences = none)
      fun _ preferences => (stored preferences = stored p ∨ stored preferences = none) ∧
        ¬answers.Granted :=
  triple_of_manager (fun hanswers _ => ⟨.inl rfl, hanswers⟩) fun _ hdescribed _ =>
    triple_save hdescribed

/-- To bring the tunnel up leaves its configuration alone. -/
theorem triple_bringUp (start : Except String Unit) :
    Triple (fun preferences => preferences = p) (bringUp answers start)
      (fun _ preferences => stored preferences = stored p)
      fun _ preferences => stored preferences = stored p := by
  refine triple_of_manager (fun _ _ => rfl) fun manager hdescribed hsame => ?_
  refine .bind (R := fun _ preferences => stored preferences = stored p) ?_
    fun _ => .ofExcept (fun _ _ _ hs => hs) fun _ _ _ hs => hs
  split
  · exact .pure fun _ hp => congrArg stored hp
  · have henabled : ({ manager with isEnabled := true } : PacketTunnelManagerRecord).described =
        true := hdescribed
    refine (triple_save henabled).imp (fun _ hp => hp) (fun _ _ hs => hs.trans hsame) ?_
    exact fun _ _ hs => hs.1.elim id fun hs => hs.trans hsame

/-- What is loaded as the configuration is what is stored, as far as the mapper accepts it. -/
theorem triple_currentConfiguration :
    Triple (fun preferences => preferences = p) (currentConfiguration answers)
      (fun configuration preferences => preferences = p ∧
        configuration = (stored p).bind fun json => (mapConfiguration json).toOption)
      fun _ preferences => preferences = p ∧ ¬answers.Granted := by
  refine triple_of_manager (fun hanswers _ => ⟨rfl, hanswers⟩) fun manager _ hsame => ?_
  rw [← hsame]
  dsimp only
  cases manager.providerConfiguration with
  | none => exact .pure fun _ hp => ⟨hp, rfl⟩
  | some json => exact .pure fun _ hp => ⟨hp, rfl⟩

theorem run_currentConfiguration (h : answers.Granted) :
    (currentConfiguration answers).run p =
      (.ok ((stored p).bind fun json => (mapConfiguration json).toOption), p) := by
  cases hrun : (currentConfiguration answers).run p with
  | mk result t =>
    cases result with
    | error err => exact absurd h (triple_currentConfiguration.of_run_error rfl hrun).2
    | ok configuration =>
      obtain ⟨rfl, rfl⟩ := triple_currentConfiguration.of_run_ok rfl hrun
      rfl

end Operations

end PacketTunnelManager

end Slan.Macos
