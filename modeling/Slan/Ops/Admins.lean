import Slan.Control.RelayTickets
import Slan.Ops.Store

/-! # `ops_admin.go`: the administrators, their passwords and logins

`hash` is `util.HashPassword` and `lower` is `strings.ToLower`. A call reads the clock by a
statement of its own.
-/

namespace Slan.Ops

open Control (ServiceError newId opaqueToken)
open Networks (Failure HexText)
open Program (query exec execNoting orFail)

/-- What is noted of the calls on an administrator. -/
inductive AdminEvent where
  /-- The row that a login or a profile update works on. -/
  | read (row : AdminInfo)
  | checked (adminId : String) (right : Bool) (time : Nat)
  | failed (adminId : String) (failedLoginCount lockedUntil : Nat)
  | loggedIn (adminId : String) (lastLoginAt : Nat) (lastLoginIp : String)
  | passwordSet (adminId passwordHash : String) (passwordUpdatedAt : Nat)
  | profileSet (record : AdminInfo)
  deriving DecidableEq, Repr

abbrev OpsCall := Program OpsStore AdminEvent Failure

def refuse {α : Type} (err : ServiceError) : OpsCall α := Program.fail (.service err)

def invalidArgument (detail : String) : ServiceError := .wrap .invalidArgument detail

def lookupOr {α : Type} (err : ServiceError) (f : OpsStore → Option α) : OpsCall α := do
  let row ← query f
  orFail (.service err) row

def clock : OpsCall Nat := query OpsStore.now

/-- A query of the row that a call works on. -/
def readAdmin (f : OpsStore → Option AdminInfo) : OpsCall (Option AdminInfo) :=
  .stmt (fun s => ((f s).map AdminEvent.read).toList) id fun s => .ret (.ok (f s))

/-! ## Profiles -/

structure UpsertAdminInfoRequest where
  userId : String
  loginName : String
  displayName : String
  phone : String
  title : String
  department : String
  status : String
  password : String
  deriving DecidableEq, Repr

structure OpsAdminInfo where
  adminId : String
  userId : String
  loginName : String
  email : String
  displayName : String
  phone : String
  title : String
  department : String
  status : String
  passwordUpdatedAt : Nat
  lastLoginAt : Nat
  lastLoginIp : String
  failedLoginCount : Nat
  lockedUntil : Nat
  deriving DecidableEq, Repr

def OpsAdminInfo.ofRecord (record : AdminInfo) (email : String) : OpsAdminInfo :=
  { adminId := record.adminId
    userId := record.userId
    loginName := record.loginName
    email
    displayName := record.displayName
    phone := record.phone
    title := record.title
    department := record.department
    status := record.status
    passwordUpdatedAt := record.passwordUpdatedAt
    lastLoginAt := record.lastLoginAt
    lastLoginIp := record.lastLoginIp
    failedLoginCount := record.failedLoginCount
    lockedUntil := record.lockedUntil }

/-- The record of a request, of which an account that exists keeps what the request does not
say. -/
def profileRecord (lower : String → String) (random : HexText) (req : UpsertAdminInfoRequest)
    (existing : Option AdminInfo) : AdminInfo :=
  { adminId := existing.elim (newId "admin" random) AdminInfo.adminId
    userId := Text.trim req.userId
    loginName := Text.trim (lower req.loginName)
    passwordHash := existing.elim "" AdminInfo.passwordHash
    passwordUpdatedAt := existing.elim 0 AdminInfo.passwordUpdatedAt
    displayName := Text.trim req.displayName
    phone := Text.trim req.phone
    title := Text.trim req.title
    department := Text.trim req.department
    status := if Text.trim req.status = "" then "active" else Text.trim req.status
    lastLoginAt := existing.elim 0 AdminInfo.lastLoginAt
    lastLoginIp := existing.elim "" AdminInfo.lastLoginIp
    failedLoginCount := existing.elim 0 AdminInfo.failedLoginCount
    lockedUntil := existing.elim 0 AdminInfo.lockedUntil }

/-- A write of a record, which a constraint may refuse. -/
def setRecord (record : AdminInfo) (write : OpsStore → Option OpsStore) : OpsCall Unit :=
  .stmt (fun s => if (write s).isSome then [.profileSet record] else []) (fun s => (write s).getD s)
    fun s => .ret (if (write s).isSome then .ok () else .error .database)

/-- `FirstOrCreate`: a query, and then an `UPDATE` of the row found or an `INSERT`. -/
def upsertAdminInfoRecord (record : AdminInfo) : OpsCall Unit := do
  let found ← query fun s => s.admins.find? fun row =>
    row.userId == record.userId && row.adminId == record.adminId
  match found with
  | some _ => setRecord record fun s => s.assignAdminInfo record
  | none => setRecord record fun s => s.insertAdminInfo record

/-- The new password of a request. -/
def withPassword (hash : String → String) (password : String) (record : AdminInfo) :
    OpsCall AdminInfo := do
  if password = "" then pure record
  else if password.utf8ByteSize < 8 then
    refuse (invalidArgument "password must be at least 8 characters")
  else do
    let now ← clock
    pure { record with passwordHash := hash password, passwordUpdatedAt := now }

def upsertAdminInfo (hash lower : String → String) (random : HexText)
    (req : UpsertAdminInfoRequest) : OpsCall OpsAdminInfo := do
  if Text.trim req.userId = "" ∨ Text.trim (lower req.loginName) = "" ∨
      Text.trim req.displayName = "" then
    refuse (invalidArgument "userId, loginName and displayName are required")
  else do
    let user ← lookupOr .notFound fun s => s.userById (Text.trim req.userId)
    let existing ← readAdmin fun s => s.adminInfoByUserId (Text.trim req.userId)
    let record ← withPassword hash req.password (profileRecord lower random req existing)
    if record.passwordHash = "" then
      refuse (invalidArgument "password is required for new admin")
    else do
      upsertAdminInfoRecord record
      pure (.ofRecord record user.email)

/-! ## Passwords and locks -/

structure ChangeAdminPasswordRequest where
  password : String
  deriving DecidableEq, Repr

def changeAdminPassword (hash : String → String) (adminId : String)
    (req : ChangeAdminPasswordRequest) : OpsCall Unit := do
  if Text.trim adminId = "" then refuse (invalidArgument "adminId is required")
  else if req.password.utf8ByteSize < 8 then
    refuse (invalidArgument "password must be at least 8 characters")
  else do
    let admin ← lookupOr .notFound fun s => s.adminInfoById (Text.trim adminId)
    let now ← clock
    execNoting (fun _ => [.passwordSet admin.adminId (hash req.password) now])
      fun s => s.updateAdminPasswordAudit admin.adminId (hash req.password) now

def unlockAdmin (adminId : String) : OpsCall Unit := do
  if Text.trim adminId = "" then refuse (invalidArgument "adminId is required")
  else do
    let admin ← lookupOr .notFound fun s => s.adminInfoById (Text.trim adminId)
    execNoting (fun _ => [.failed admin.adminId 0 0])
      fun s => s.recordAdminLoginFailure admin.adminId 0 0

/-! ## Logins -/

structure OpsLoginRequest where
  loginName : String
  password : String
  deriving DecidableEq, Repr

structure OpsLoginResponse where
  adminId : String
  userId : String
  loginName : String
  displayName : String
  accessToken : String
  expiresIn : Nat
  deriving DecidableEq, Repr

def maxFailedLogins : Nat := 5

def lockDuration : Nat := 15 * 60 * 1000

/-- The password is the one of the account. -/
def AdminInfo.hasPassword (hash : String → String) (admin : AdminInfo) (password : String) : Bool :=
  admin.passwordHash != "" && admin.passwordHash == hash password

/-- The time, at which a password is checked unless the account is locked. -/
def checkPassword (hash : String → String) (admin : AdminInfo) (password : String) : OpsCall Nat :=
  .stmt (fun s => if s.now < admin.lockedUntil then []
      else [.checked admin.adminId (admin.hasPassword hash password) s.now])
    id fun s => .ret (.ok s.now)

/-- The end of the lock that so many failures bring. -/
def lockAfter (failedLoginCount : Nat) : OpsCall Nat := do
  if maxFailedLogins ≤ failedLoginCount then
    let now ← clock
    pure (now + lockDuration)
  else pure 0

def failLogin (admin : AdminInfo) : OpsCall Unit := do
  let lockedUntil ← lockAfter (admin.failedLoginCount + 1)
  execNoting (fun _ => [.failed admin.adminId (admin.failedLoginCount + 1) lockedUntil])
    fun s => s.recordAdminLoginFailure admin.adminId (admin.failedLoginCount + 1) lockedUntil

def opsAccessToken (admin : AdminInfo) (random : HexText) : String :=
  opaqueToken "ops-access" admin.adminId random

/-- What follows a right password. -/
def enterOps (random : HexText) (remoteIp : String) (admin : AdminInfo) :
    OpsCall OpsLoginResponse := do
  let userRoles ← query fun s => s.userRolesByUser admin.userId
  if userRoles = [] then refuse .forbidden
  else do
    exec fun s => s.storeOpsAccessToken (opsAccessToken admin random) admin.adminId
    let now ← clock
    execNoting (fun _ => [.loggedIn admin.adminId now (Text.trim remoteIp)])
      fun s => s.updateAdminLoginAudit admin.adminId now (Text.trim remoteIp)
    pure
      { adminId := admin.adminId
        userId := admin.userId
        loginName := admin.loginName
        displayName := admin.displayName
        accessToken := opsAccessToken admin random
        expiresIn := OpsStore.opsTokenTtl / 1000 }

def loginAdmin (hash lower : String → String) (random : HexText) (req : OpsLoginRequest)
    (remoteIp : String) : OpsCall OpsLoginResponse := do
  if Text.trim (lower req.loginName) = "" ∨ req.password = "" then
    refuse (invalidArgument "loginName and password are required")
  else do
    let found ← readAdmin fun s => s.adminInfoByLoginName (Text.trim (lower req.loginName))
    let admin ← orFail (.service .unauthorized) found
    if admin.status ≠ "active" then refuse .forbidden
    else do
      let now ← checkPassword hash admin req.password
      if now < admin.lockedUntil then refuse .forbidden
      else if admin.hasPassword hash req.password then enterOps random remoteIp admin
      else do
        failLogin admin
        refuse .unauthorized

end Slan.Ops
