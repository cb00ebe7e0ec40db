import Slan.Networks.Results

/-! # The operations that users and devices call -/

namespace Slan.Networks

open Program (Each)

inductive Operation where
  | registerUser (email password : String)
  | seedDefaultAdmin (email : String)
  | registerDevice (userId : String) (req : RegisterDeviceRequest)
  | registerNode (userId : String) (req : Control.Directory.RegisterNodeRequest)
  | create (userId : String) (req : CreateNetworkRequest)
  | update (userId networkId : String) (req : UpdateNetworkRequest)
  | updateJoinKey (userId networkId joinKey : String)
  | createSubnet (userId networkId : String) (req : CreateSubnetRequest)
  | join (userId networkId deviceId : String)
  | joinByOwnerEmail (userId ownerEmail deviceId : String)
  | joinByKey (userId joinKey deviceId : String)
  | switch (userId networkId deviceId : String)
  | activate (userId networkId deviceId : String)
  | deactivate (userId networkId deviceId : String)
  | attachDevice (userId networkId subnetId deviceId : String)
  | reserve (networkId subnetId attachmentId ip : String)
  | release (attachmentId : String)
  | updateAttachmentIp (userId networkId attachmentId virtualIp : String)
  | updateAttachmentRemark (userId networkId attachmentId remark : String)
  | bootstrap (session : Control.FreshSession) (userId nodeId networkId : String)

/-- An operation with what it draws. -/
structure Request where
  fresh : Fresh
  operation : Operation

namespace Request

/-- The call of an operation; what it answers is left out. -/
def call (sameName : String → String → Bool) (r : Request) : Call Unit :=
  match r.operation with
  | .registerUser email password => registerUser r.fresh email password
  | .seedDefaultAdmin email => seedDefaultAdmin r.fresh email
  | .registerDevice userId req => (registerDevice r.fresh userId req).void
  | .registerNode userId req => registerNode userId req
  | .create userId req => (create r.fresh userId req).void
  | .update userId networkId req => (update userId networkId req).void
  | .updateJoinKey userId networkId joinKey =>
    (updateJoinKey r.fresh userId networkId joinKey).void
  | .createSubnet userId networkId req => (createSubnet sameName r.fresh userId networkId req).void
  | .join userId networkId deviceId => (join r.fresh userId networkId deviceId).void
  | .joinByOwnerEmail userId ownerEmail deviceId =>
    (joinByOwnerEmail r.fresh userId ownerEmail deviceId).void
  | .joinByKey userId joinKey deviceId => (joinByKey r.fresh userId joinKey deviceId).void
  | .switch userId networkId deviceId => (switch r.fresh userId networkId deviceId).void
  | .activate userId networkId deviceId => (activate r.fresh userId networkId deviceId).void
  | .deactivate userId networkId deviceId => deactivate userId networkId deviceId
  | .attachDevice userId networkId subnetId deviceId =>
    (attachDevice r.fresh userId networkId subnetId deviceId).void
  | .reserve networkId subnetId attachmentId ip => (reserve networkId subnetId attachmentId ip).void
  | .release attachmentId => release attachmentId
  | .updateAttachmentIp userId networkId attachmentId virtualIp =>
    (updateAttachmentIp userId networkId attachmentId virtualIp).void
  | .updateAttachmentRemark userId networkId attachmentId remark =>
    updateAttachmentRemark userId networkId attachmentId remark
  | .bootstrap session userId nodeId networkId =>
    bootstrap r.fresh session userId nodeId networkId

/-- The store after the call. -/
def after (sameName : String → String → Bool) (r : Request) (s : Store) : Store :=
  (r.call sameName).after s

end Request

/-! ## Their statements -/

section Statements

variable {S : (Store → List KeyEvent) → (Store → Store) → Prop}

theorem each_updateJoinKey (hq : S (fun _ => []) id)
    (hkey : ∀ note networkId joinKey, S note fun s => s.updateNetworkJoinKey networkId joinKey)
    (fresh : Fresh) (userId networkId joinKey : String) :
    Each S (updateJoinKey fresh userId networkId joinKey) := by
  refine (each_ownNetwork hq userId networkId).bind fun _ => ?_
  dsimp only
  split
  · exact .fail _
  · exact (Each.execNoting (hkey _ _ _)).bind fun _ => each_getNetwork hq userId networkId

theorem each_createSubnet (hq : S (fun _ => []) id)
    (hrow : ∀ row, S (fun _ => []) fun s => (s.createSubnet row).getD s)
    (sameName : String → String → Bool) (fresh : Fresh) (userId networkId : String)
    (req : CreateSubnetRequest) : Each S (createSubnet sameName fresh userId networkId req) := by
  unfold createSubnet
  split
  · exact .fail _
  · refine (each_ownNetwork hq userId networkId).bind fun _ => ?_
    refine (Each.query hq _).bind fun found => ?_
    split
    · exact .fail _
    · refine (each_checked _).bind fun subnet => ?_
      exact (Each.execOr _ (hrow subnet)).bind fun _ => .pure subnet

theorem each_deactivate (hq : S (fun _ => []) id)
    (hdelete : ∀ deviceId networkId, S (fun _ => []) fun s =>
      s.deleteAttachmentsByDeviceInNetwork deviceId networkId)
    (userId networkId deviceId : String) : Each S (deactivate userId networkId deviceId) :=
  (each_requireDeviceId deviceId).bind fun _ =>
    (each_loadNetworkForDevice hq userId networkId deviceId false).bind fun _ =>
      .exec (hdelete deviceId networkId)

theorem each_updateAttachmentRemark (hq : S (fun _ => []) id)
    (hremark : ∀ attachmentId remark, S (fun _ => []) fun s =>
      s.updateAttachmentRemark attachmentId remark)
    (userId networkId attachmentId remark : String) :
    Each S (updateAttachmentRemark userId networkId attachmentId remark) :=
  (each_ownAttachment hq userId networkId attachmentId).bind fun _ => .exec (hremark _ _)

theorem each_release
    (hip : ∀ attachmentId ip, S (fun _ => []) fun s =>
      (s.updateAttachmentVirtualIp attachmentId ip).getD s) (attachmentId : String) :
    Each S (release attachmentId) := by
  unfold release
  split
  · exact .fail _
  · exact .execOr _ (hip attachmentId "")

theorem each_updateAttachmentIp (hq : S (fun _ => []) id)
    (hip : ∀ attachmentId ip, S (fun _ => []) fun s =>
      (s.updateAttachmentVirtualIp attachmentId ip).getD s)
    (userId networkId attachmentId virtualIp : String) :
    Each S (updateAttachmentIp userId networkId attachmentId virtualIp) :=
  (each_prepareAttachmentIp hq userId networkId attachmentId virtualIp).bind fun _ =>
    (Each.execOr _ (hip _ _)).bind fun _ => .pure _

theorem each_assignLeases
    (hip : ∀ attachmentId ip, S (fun _ => []) fun s =>
      (s.updateAttachmentVirtualIp attachmentId ip).getD s)
    (range : SubnetRange) (index : Nat) (rows : List SubnetAttachment) :
    Each S (assignLeases range index rows) := by
  induction rows generalizing index with
  | nil => exact .pure ()
  | cons attachment rows ih =>
    unfold assignLeases
    dsimp only
    split
    · exact .fail _
    · exact (Each.execOr _ (hip _ _)).bind fun _ => ih (index + 1)

theorem each_update (hq : S (fun _ => []) id)
    (hip : ∀ attachmentId ip, S (fun _ => []) fun s =>
      (s.updateAttachmentVirtualIp attachmentId ip).getD s)
    (hrange : ∀ subnet, S (fun _ => []) fun s => s.updateSubnetRange subnet)
    (hmeta : ∀ networkId name description cidr, S (fun _ => []) fun s =>
      s.updateNetworkMetadata networkId name description cidr)
    (userId networkId : String) (req : UpdateNetworkRequest) :
    Each S (update userId networkId req) := by
  refine (each_prepareUpdate hq userId networkId req).bind fun prepared => ?_
  obtain ⟨record, subnet⟩ := prepared
  refine Each.bind ?_ fun _ => (Each.exec (hmeta _ _ _ _)).bind fun _ => .pure _
  refine (Each.query hq _).bind fun attachments => (each_checked _).bind fun range => ?_
  split
  · exact .fail _
  · refine (Each.query hq _).bind fun ordered => ?_
    exact (each_assignLeases hip range 0 ordered).bind fun _ => .exec (hrange subnet)

theorem each_seedDefaultAdmin (hq : S (fun _ => []) id)
    (hrow : ∀ userId email, S (fun _ => []) fun s => (s.createUser ⟨userId, email, ""⟩).getD s)
    (fresh : Fresh) (email : String) : Each S (seedDefaultAdmin fresh email) := by
  unfold seedDefaultAdmin
  split
  · exact .pure ()
  · exact (Each.query hq _).bind fun _ => each_onlyIf _ (.execOr _ (hrow _ _))

theorem each_registerNode (hq : S (fun _ => []) id)
    (hrow : ∀ row, S (fun _ => []) fun s => (s.upsertNode row).getD s) (userId : String)
    (req : Control.Directory.RegisterNodeRequest) : Each S (registerNode userId req) :=
  (each_checked _).bind fun _ => (each_ensureDeviceOwner hq userId req.deviceId).bind fun _ =>
    .execOr _ (hrow _)

theorem each_upsertDeviceRecord (hq : S (fun _ => []) id)
    (hrow : ∀ row, S (fun _ => []) fun s => (s.upsertDeviceByUserMachine row).getD s)
    (fresh : Fresh) (userId : String) (req : RegisterDeviceRequest) :
    Each S (upsertDeviceRecord fresh userId req) :=
  (Each.execOr _ (hrow _)).bind fun _ => each_lookupOr hq _ _

/-! ### Creating a network -/

theorem MovesDevices.create (h : MovesDevices S)
    (hnetwork : ∀ network subnet, S (fun _ => []) fun s =>
      (s.createNetworkWithDefaultSubnet network subnet).getD s)
    (fresh : Fresh) (userId : String) (req : CreateNetworkRequest) :
    Each S (Networks.create fresh userId req) := by
  refine (each_prepareNetwork h.query fresh userId req).bind fun prepared => ?_
  obtain ⟨user, network, subnet⟩ := prepared
  refine (Each.execOr _ (hnetwork network subnet)).bind fun _ => ?_
  refine (each_onlyIf _ (.exec (h.active _ _))).bind fun _ => ?_
  refine (each_onlyIf _ ?_).bind fun _ => .pure network
  exact (each_ensureMember h.query h.member fresh _ _ _).bind fun _ => .pure ()

theorem MovesDevices.ensureOwnedNetwork (h : MovesDevices S)
    (hnetwork : ∀ network subnet, S (fun _ => []) fun s =>
      (s.createNetworkWithDefaultSubnet network subnet).getD s)
    (fresh : Fresh) (userId : String) : Each S (Networks.ensureOwnedNetwork fresh userId) := by
  refine (Each.query h.query _).bind fun existing => ?_
  cases existing with
  | some network => exact .pure network
  | none => exact h.create hnetwork fresh userId _

theorem MovesDevices.provisionedNetwork (h : MovesDevices S)
    (hnetwork : ∀ network subnet, S (fun _ => []) fun s =>
      (s.createNetworkWithDefaultSubnet network subnet).getD s)
    (fresh : Fresh) (userId : String) : Each S (Networks.provisionedNetwork fresh userId) := by
  refine (each_lookupOr h.query _ _).bind fun user => ?_
  dsimp only
  split
  · exact (h.ensureOwnedNetwork hnetwork fresh userId).bind fun _ => each_lookupOr h.query _ _
  · exact each_lookupOr h.query _ _

theorem MovesDevices.registerUser (h : MovesDevices S)
    (hnetwork : ∀ network subnet, S (fun _ => []) fun s =>
      (s.createNetworkWithDefaultSubnet network subnet).getD s)
    (hrow : ∀ row, S (fun _ => []) fun s => (s.createUser row).getD s)
    (fresh : Fresh) (email password : String) :
    Each S (Networks.registerUser fresh email password) := by
  unfold Networks.registerUser
  split
  · exact .fail _
  · refine (Each.query h.query _).bind fun existing => ?_
    split
    · exact .fail _
    · refine (Each.execOr _ (hrow _)).bind fun _ => ?_
      exact (h.ensureOwnedNetwork hnetwork fresh _).bind fun _ => .pure ()

/-! ### Joining -/

theorem MovesDevices.join (h : MovesDevices S) (fresh : Fresh)
    (userId networkId deviceId : String) : Each S (Networks.join fresh userId networkId deviceId) :=
  (each_requireDeviceId deviceId).bind fun _ =>
    (each_loadNetworkForDevice h.query userId networkId deviceId true).bind fun record =>
      (h.ensureActiveMemberForNetwork fresh userId deviceId record).bind fun _ => .pure _

theorem MovesDevices.switch (h : MovesDevices S) (fresh : Fresh)
    (userId networkId deviceId : String) :
    Each S (Networks.switch fresh userId networkId deviceId) :=
  (each_requireDeviceId deviceId).bind fun _ =>
    (each_loadNetworkForDevice h.query userId networkId deviceId false).bind fun record =>
      (h.ensureActiveMemberForNetwork fresh userId deviceId record).bind fun _ => .pure _

theorem MovesDevices.joinByOwnerEmail (h : MovesDevices S) (fresh : Fresh)
    (userId ownerEmail deviceId : String) :
    Each S (Networks.joinByOwnerEmail fresh userId ownerEmail deviceId) :=
  (each_loadNetworkOfOwner h.query userId ownerEmail deviceId).bind fun target =>
    (h.ensureActiveMemberForNetwork fresh userId deviceId target).bind fun _ => .pure _

theorem each_loadNetworkByKey (hq : S (fun _ => []) id)
    (hclear : ∀ note networkId joinKey, S note fun s => s.clearNetworkJoinKey networkId joinKey)
    (userId joinKey deviceId : String) : Each S (loadNetworkByKey userId joinKey deviceId) := by
  unfold loadNetworkByKey
  split
  · exact .fail _
  · refine (each_requireDeviceId deviceId).bind fun _ => ?_
    refine (each_ensureDeviceOwner hq userId deviceId).bind fun _ => ?_
    refine (each_lookupOr hq _ _).bind fun record => ?_
    exact (Each.execNoting (hclear _ _ _)).bind fun _ => .pure record

theorem MovesDevices.joinByKey (h : MovesDevices S)
    (hclear : ∀ note networkId joinKey, S note fun s => s.clearNetworkJoinKey networkId joinKey)
    (fresh : Fresh) (userId joinKey deviceId : String) :
    Each S (Networks.joinByKey fresh userId joinKey deviceId) :=
  (each_loadNetworkByKey h.query hclear userId joinKey deviceId).bind fun target =>
    (h.ensureActiveMemberForNetwork fresh userId deviceId target).bind fun _ => .pure _

theorem MovesDevices.bootstrap (h : MovesDevices S)
    (hsession : ∀ sessions : List Control.ControlSession, S (fun _ => []) fun s =>
      { s with controlSessions := s.controlSessions ++ sessions })
    (fresh : Fresh) (session : Control.FreshSession) (userId nodeId networkId : String) :
    Each S (Networks.bootstrap fresh session userId nodeId networkId) :=
  (each_requireNodeSession h.query userId nodeId networkId).bind fun _ =>
    (each_lookupOr h.query _ _).bind fun _ =>
      (Each.exec (hsession _)).bind fun _ => .exec (h.active _ _)

end Statements

end Slan.Networks
