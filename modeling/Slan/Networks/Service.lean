import Slan.Networks.Membership

/-! # The calls of the network service, and registration -/

namespace Slan.Networks

open Control (ServiceError Node newId)
open Program (query exec execNoting)

/-- A step of a call that is left out where the condition fails. -/
def onlyIf (condition : Bool) (p : Call Unit) : Call Unit := if condition then p else pure ()

/-- A non-blank value, or else the other one. -/
def trimmedOr (value stored : String) : String :=
  if Text.trim value = "" then stored else Text.trim value

/-! ## Networks -/

structure CreateNetworkRequest where
  name : String
  description : String
  cidr : String
  bindDeviceId : String

structure UpdateNetworkRequest where
  name : String
  description : String
  cidr : String

structure CreateSubnetRequest where
  name : String
  cidr : String
  gatewayIp : String
  allocationStartIp : String
  allocationEndIp : String

/-- What `Create` checks before it writes: the user, and the rows of the new network. -/
def prepareNetwork (fresh : Fresh) (userId : String) (req : CreateNetworkRequest) :
    Call (User × Network × Subnet) := do
  if Text.trim req.name = "" then refuse (invalidArgument "name is required")
  else do
    let owned ← query fun s => s.ownedNetworkByUser userId
    match owned with
    | some owned => conflict ("user already owns network " ++ owned.networkId)
    | none =>
      onlyIf (Text.trim req.bindDeviceId != "")
        (ensureDeviceOwner userId (Text.trim req.bindDeviceId))
      let user ← lookupOr .unauthorized fun s => s.userById userId
      let networkId := newId "net" fresh.network
      let subnet ← checked (newSubnet networkId (newId "subnet" fresh.subnet) "default" req.cidr
        "" "" "" true)
      let network : Network :=
        { networkId
          ownerUserId := userId
          name := Text.trim req.name
          description := Text.trim req.description
          defaultSubnetId := subnet.subnetId
          defaultSubnetCidr := subnet.cidr
          joinKey := "" }
      pure (user, network, subnet)

def create (fresh : Fresh) (userId : String) (req : CreateNetworkRequest) : Call Network := do
  let (user, network, subnet) ← prepareNetwork fresh userId req
  insert fun s => s.createNetworkWithDefaultSubnet network subnet
  onlyIf (Text.isBlank user.activeNetworkId)
    (exec fun s => s.updateUserActiveNetwork userId network.networkId)
  onlyIf (Text.trim req.bindDeviceId != "") do
    let _ ← ensureMember fresh network.networkId (Text.trim req.bindDeviceId) .owner
  pure network

/-- A network that the user owns. -/
def ownNetwork (userId networkId : String) : Call Network := do
  let record ← lookup fun s => s.networkById networkId
  if record.ownerUserId ≠ userId then refuse .forbidden else pure record

/-- What `Update` checks before it writes. -/
def prepareUpdate (userId networkId : String) (req : UpdateNetworkRequest) :
    Call (Network × Subnet) := do
  let record ← ownNetwork userId networkId
  let cidr := Text.trim req.cidr
  if cidr = "" then refuse (invalidArgument "cidr is required")
  else do
    let subnet ← checked (newSubnet record.networkId record.defaultSubnetId "default" cidr
      "" "" "" true)
    pure (record, subnet)

def update (userId networkId : String) (req : UpdateNetworkRequest) : Call Network := do
  let (record, subnet) ← prepareUpdate userId networkId req
  let name := trimmedOr req.name record.name
  let description := trimmedOr req.description record.description
  reassignDefaultSubnetLeasePool subnet
  exec fun s => s.updateNetworkMetadata record.networkId name description subnet.cidr
  pure { record with name, description, defaultSubnetCidr := subnet.cidr }

structure NetworkDetail where
  network : Network
  ownedByCurrentUser : Bool
  joinKey : String

def visibleJoinKey (network : Network) (userId : String) : String :=
  if network.ownerUserId ≠ userId then "" else Text.trim network.joinKey

/-- `Get`, without the lists of the network. -/
def getNetwork (userId networkId : String) : Call NetworkDetail := do
  let record ← lookup fun s => s.networkById networkId
  ensureNetworkAccess userId networkId
  pure ⟨record, record.ownerUserId == userId, visibleJoinKey record userId⟩

/-- A key that a network is given is noted. -/
def setJoinKey (networkId joinKey : String) : Call Unit :=
  execNoting
    (fun s => if (s.networkById networkId).isSome then [.set networkId joinKey] else [])
    fun s => s.updateNetworkJoinKey networkId joinKey

def updateJoinKey (fresh : Fresh) (userId networkId joinKey : String) : Call NetworkDetail := do
  let _ ← ownNetwork userId networkId
  let joinKey := trimmedOr joinKey fresh.joinKey
  if (Text.utf8 joinKey).length ≠ 32 then
    refuse (invalidArgument "joinKey must be 32 characters")
  else do
    setJoinKey networkId joinKey
    getNetwork userId networkId

/-- `sameName` is how the database compares names. -/
def createSubnet (sameName : String → String → Bool) (fresh : Fresh) (userId networkId : String)
    (req : CreateSubnetRequest) : Call Subnet := do
  if Text.trim req.name = "" then refuse (invalidArgument "name is required")
  else do
    let _ ← ownNetwork userId networkId
    let found ← query fun s => s.subnetByName sameName networkId req.name
    if found.isSome then conflict "subnet name already exists"
    else do
      let subnet ← checked (newSubnet networkId (newId "subnet" fresh.subnet) req.name req.cidr
        req.gatewayIp req.allocationStartIp req.allocationEndIp false)
      insert fun s => s.createSubnet subnet
      pure subnet

/-! ## Joining, switching, activating -/

structure NetworkJoinResult where
  member : NetworkMember
  attachment : Option SubnetAttachment

def join (fresh : Fresh) (userId networkId deviceId : String) : Call NetworkJoinResult := do
  requireDeviceId deviceId
  let record ← loadNetworkForDevice userId networkId deviceId true
  let member ← ensureActiveMemberForNetwork fresh userId deviceId record
  pure ⟨member, none⟩

/-- `ownerEmail` is lower-cased and trimmed. -/
def lookupOwnedNetworkByOwnerEmail (ownerEmail : String) : Call Network := do
  let owner ← lookup fun s => s.userByEmail ownerEmail
  lookup fun s => s.ownedNetworkByUser owner.userId

def loadNetworkOfOwner (userId ownerEmail deviceId : String) : Call Network := do
  if Text.trim ownerEmail = "" then refuse (invalidArgument "ownerEmail is required")
  else do
    requireDeviceId deviceId
    let target ← lookupOwnedNetworkByOwnerEmail ownerEmail
    ensureDeviceOwner userId deviceId
    pure target

def joinByOwnerEmail (fresh : Fresh) (userId ownerEmail deviceId : String) :
    Call NetworkJoinResult := do
  let target ← loadNetworkOfOwner userId ownerEmail deviceId
  let member ← ensureActiveMemberForNetwork fresh userId deviceId target
  pure ⟨member, none⟩

/-- Nothing looks at how many rows the update has changed. -/
def consumeNetworkByJoinKey (joinKey : String) : Call Network := do
  let record ← lookup fun s => s.networkByJoinKey joinKey
  execNoting (fun _ => [.consumed record.networkId joinKey]) fun s =>
    s.clearNetworkJoinKey record.networkId joinKey
  pure record

def loadNetworkByKey (userId joinKey deviceId : String) : Call Network := do
  if Text.trim joinKey = "" then refuse (invalidArgument "joinKey is required")
  else do
    requireDeviceId deviceId
    ensureDeviceOwner userId deviceId
    consumeNetworkByJoinKey (Text.trim joinKey)

def joinByKey (fresh : Fresh) (userId joinKey deviceId : String) : Call NetworkJoinResult := do
  let target ← loadNetworkByKey userId joinKey deviceId
  let member ← ensureActiveMemberForNetwork fresh userId deviceId target
  pure ⟨member, none⟩

def switch (fresh : Fresh) (userId networkId deviceId : String) : Call NetworkJoinResult := do
  requireDeviceId deviceId
  let record ← loadNetworkForDevice userId networkId deviceId false
  let member ← ensureActiveMemberForNetwork fresh userId deviceId record
  pure ⟨member, none⟩

def activate (fresh : Fresh) (userId networkId deviceId : String) : Call NetworkJoinResult := do
  requireDeviceId deviceId
  let record ← loadNetworkForDevice userId networkId deviceId false
  let member ← ensureActiveMemberForNetwork fresh userId deviceId record
  let attachment ← ensureAttachment fresh networkId record.defaultSubnetId deviceId
  pure ⟨member, some attachment⟩

def deactivate (userId networkId deviceId : String) : Call Unit := do
  requireDeviceId deviceId
  let _ ← loadNetworkForDevice userId networkId deviceId false
  exec fun s => s.deleteAttachmentsByDeviceInNetwork deviceId networkId

/-! ## Attachments -/

def attachDevice (fresh : Fresh) (userId networkId subnetId deviceId : String) :
    Call SubnetAttachment := do
  requireDeviceId deviceId
  ensureNetworkAccess userId networkId
  ensureDeviceOwner userId deviceId
  let subnet ← lookup fun s => s.subnetById subnetId
  if subnet.networkId ≠ networkId then refuse .notFound
  else do
    let _ ← lookupOr (.wrap .forbidden "device must join network first") fun s =>
      s.memberByNetworkDevice networkId deviceId
    ensureAttachment fresh networkId subnetId deviceId

/-- Addresses are told apart as text. -/
def reserve (networkId subnetId attachmentId ip : String) : Call String := do
  let subnet ← lookup fun s => s.subnetById subnetId
  if subnet.networkId ≠ networkId then refuse .notFound
  else if Text.trim ip = "" then refuse (invalidArgument "ip is required")
  else do
    let attachments ← query fun s => s.attachmentsBySubnet subnetId
    if attachments.any fun a => a.attachmentId != attachmentId && a.virtualIp == ip then
      conflict "virtual ip already allocated"
    else pure ip

def release (attachmentId : String) : Call Unit := do
  if Text.isBlank attachmentId then refuse (invalidArgument "attachmentId is required")
  else insert fun s => s.updateAttachmentVirtualIp attachmentId ""

/-- An attachment in a network that the user owns. -/
def ownAttachment (userId networkId attachmentId : String) : Call SubnetAttachment := do
  let _ ← ownNetwork userId networkId
  let attachment ← lookup fun s => s.attachmentById attachmentId
  if attachment.networkId ≠ networkId then refuse .notFound else pure attachment

/-- The address that an owner's device is fixed to, if any. -/
def fixedOwnerIp (subnet : Subnet) : Call (Option String) := do
  let preferred ← preferredOwnerIp subnet
  match preferred with
  | some ip => pure (some ip)
  | none => do
    let range ← checked subnet.range
    pure (if range.network.contains range.start then some (Netip.render range.start) else none)

/-- An owner's device may only ask for its fixed address. -/
def requireFixedOwnerIp (attachment : SubnetAttachment) (virtualIp : String) :
    MemberRole → Call Unit
  | .member => pure ()
  | .owner => do
    let subnet ← lookup fun s => s.subnetById attachment.subnetId
    let preferred ← fixedOwnerIp subnet
    match preferred with
    | some ip =>
      if Text.trim virtualIp ≠ ip then
        conflict ("owner device virtual ip is fixed to " ++ ip)
      else pure ()
    | none => pure ()

/-- What `UpdateAttachmentIP` checks before it writes, and the address that it will write. -/
def prepareAttachmentIp (userId networkId attachmentId virtualIp : String) :
    Call (SubnetAttachment × String) := do
  let attachment ← ownAttachment userId networkId attachmentId
  let member ← lookup fun s => s.memberByNetworkDevice networkId attachment.deviceId
  requireFixedOwnerIp attachment virtualIp member.role
  let reserved ← reserve networkId attachment.subnetId attachment.attachmentId virtualIp
  pure (attachment, reserved)

def updateAttachmentIp (userId networkId attachmentId virtualIp : String) :
    Call SubnetAttachment := do
  let (attachment, reserved) ← prepareAttachmentIp userId networkId attachmentId virtualIp
  insert fun s => s.updateAttachmentVirtualIp attachment.attachmentId reserved
  pure { attachment with virtualIp := reserved }

/-- `UpdateAttachmentRemark`, without the listing that it answers with. -/
def updateAttachmentRemark (userId networkId attachmentId remark : String) : Call Unit := do
  let _ ← ownAttachment userId networkId attachmentId
  exec fun s => s.updateAttachmentRemark attachmentId (Text.trim remark)

/-! ## Users, devices, nodes -/

def ensureOwnedNetwork (fresh : Fresh) (userId : String) : Call Network := do
  let existing ← query fun s => s.ownedNetworkByUser userId
  match existing with
  | some network => pure network
  | none => create fresh userId ⟨"My Network", "", "10.0.0.0/16", ""⟩

/-- The network that a device is provisioned into. -/
def provisionedNetwork (fresh : Fresh) (userId : String) : Call Network := do
  let user ← lookupOr .unauthorized fun s => s.userById userId
  let networkId := Text.trim user.activeNetworkId
  if networkId = "" then do
    let owned ← ensureOwnedNetwork fresh userId
    lookup fun s => s.networkById owned.networkId
  else lookup fun s => s.networkById networkId

def ensureDeviceProvisionedInActiveNetwork (fresh : Fresh) (userId deviceId : String) :
    Call Unit := do
  if Text.isBlank deviceId then pure ()
  else do
    let record ← provisionedNetwork fresh userId
    let role ← membershipRole record.networkId deviceId record.ownerUserId userId
    let _ ← ensureMember fresh record.networkId deviceId role
    let _ ← ensureAttachment fresh record.networkId record.defaultSubnetId deviceId

/-- `Auth.Register` up to its tokens; the e-mail address is lower-cased and trimmed. -/
def registerUser (fresh : Fresh) (email password : String) : Call Unit := do
  if email = "" ∨ (Text.utf8 password).length < 8 then
    refuse (invalidArgument "email and password are required")
  else do
    let existing ← query fun s => s.userByEmail email
    if existing.isSome then conflict "email already exists"
    else do
      let userId := newId "user" fresh.user
      insert fun s => s.createUser ⟨userId, email, ""⟩
      let _ ← ensureOwnedNetwork fresh userId

/-- The user that the configuration asks for, without a network. -/
def seedDefaultAdmin (fresh : Fresh) (email : String) : Call Unit := do
  if email = "" then pure ()
  else do
    let existing ← query fun s => s.userByEmail email
    onlyIf existing.isNone (insert fun s => s.createUser ⟨newId "user" fresh.user, email, ""⟩)

structure RegisterDeviceRequest where
  name : String
  platform : String
  machineId : String
  publicKey : String

def requireRegisterDeviceRequest (req : RegisterDeviceRequest) : Call Unit :=
  if Text.isBlank req.name ∨ Text.isBlank req.platform ∨ Text.isBlank req.machineId ∨
      Text.isBlank req.publicKey then
    refuse (invalidArgument "name, platform, machineId, and publicKey are required")
  else pure ()

def upsertDeviceRecord (fresh : Fresh) (userId : String) (req : RegisterDeviceRequest) :
    Call Device := do
  insert fun s => s.upsertDeviceByUserMachine
    { deviceId := newId "dev" fresh.device
      userId
      machineId := req.machineId
      name := req.name
      platform := req.platform
      status := "offline"
      publicKey := some req.publicKey
      createdAt := fresh.now }
  lookup fun s => s.deviceByUserMachine userId req.machineId

def registerDevice (fresh : Fresh) (userId : String) (req : RegisterDeviceRequest) :
    Call Device := do
  requireRegisterDeviceRequest req
  let _ ← lookupOr .unauthorized fun s => s.userById userId
  let record ← upsertDeviceRecord fresh userId req
  ensureDeviceProvisionedInActiveNetwork fresh userId record.deviceId
  pure record

def registerNode (userId : String) (req : Control.Directory.RegisterNodeRequest) : Call Unit := do
  checked (Control.Directory.requireRegisterNodeRequest req)
  ensureDeviceOwner userId req.deviceId
  insert fun s => s.upsertNode
    ⟨req.nodeId, userId, req.deviceId, req.nodePublicKey, req.capabilities⟩

/-! ## Bootstrap -/

def requireNodeSession (userId nodeId networkId : String) : Call Node := do
  if Text.isBlank nodeId ∨ Text.isBlank networkId then
    refuse (invalidArgument "nodeId and networkId are required")
  else do
    let node ← lookup fun s => s.nodeById nodeId
    if node.userId ≠ userId then refuse .forbidden
    else do
      ensureNetworkAccess userId networkId
      let _ ← lookupOr (.wrap .forbidden "node device is not a network member") fun s =>
        s.memberByNetworkDevice networkId node.deviceId
      pure node

/-- What `Bootstrap` writes: a control session, and the network as the user's active one. -/
def bootstrap (fresh : Fresh) (session : Control.FreshSession) (userId nodeId networkId : String) :
    Call Unit := do
  let node ← requireNodeSession userId nodeId networkId
  let _ ← lookup fun s => s.deviceById node.deviceId
  exec fun s => { s with controlSessions := s.controlSessions ++
    [⟨session.controlSessionId, userId, node.deviceId, nodeId, networkId, session.sessionToken,
      fresh.now, fresh.now⟩] }
  exec fun s => s.updateUserActiveNetwork userId networkId

end Slan.Networks
