import Slan.Lib.Table
import Slan.Networks.Store

/-! # `internal/repo/ops.go`: administrators, roles, menus and what is bound to what

Times are Unix milliseconds.
-/

namespace Slan.Ops

open Networks (User)

structure AdminInfo where
  adminId : String
  userId : String
  loginName : String
  passwordHash : String
  passwordUpdatedAt : Nat
  displayName : String
  phone : String
  title : String
  department : String
  status : String
  lastLoginAt : Nat
  lastLoginIp : String
  failedLoginCount : Nat
  lockedUntil : Nat
  deriving DecidableEq, Repr

structure Role where
  roleId : String
  roleCode : String
  roleName : String
  description : String
  builtin : Bool
  deriving DecidableEq, Repr

structure UserRole where
  bindingId : String
  userId : String
  roleId : String
  deriving DecidableEq, Repr

structure Menu where
  menuId : String
  menuCode : String
  menuName : String
  path : String
  parentId : String
  sort : Int
  status : String
  deriving DecidableEq, Repr

structure RoleMenu where
  bindingId : String
  roleId : String
  menuId : String
  deriving DecidableEq, Repr

/-- An access token in Redis. -/
structure StoredOpsToken where
  adminId : String
  expiresAt : Nat
  deriving DecidableEq, Repr

/-! ## Primary keys and unique indexes -/

def AdminInfo.Clash (a b : AdminInfo) : Prop :=
  a.adminId = b.adminId ∨ a.userId = b.userId ∨ a.loginName = b.loginName

def Role.Clash (a b : Role) : Prop := a.roleId = b.roleId ∨ a.roleCode = b.roleCode

def Menu.Clash (a b : Menu) : Prop := a.menuId = b.menuId ∨ a.menuCode = b.menuCode

def UserRole.Clash (a b : UserRole) : Prop :=
  a.bindingId = b.bindingId ∨ (a.userId = b.userId ∧ a.roleId = b.roleId)

def RoleMenu.Clash (a b : RoleMenu) : Prop :=
  a.bindingId = b.bindingId ∨ (a.roleId = b.roleId ∧ a.menuId = b.menuId)

instance : DecidableRel AdminInfo.Clash := fun a b => inferInstanceAs (Decidable
  (a.adminId = b.adminId ∨ a.userId = b.userId ∨ a.loginName = b.loginName))

instance : DecidableRel Role.Clash := fun a b =>
  inferInstanceAs (Decidable (a.roleId = b.roleId ∨ a.roleCode = b.roleCode))

instance : DecidableRel Menu.Clash := fun a b =>
  inferInstanceAs (Decidable (a.menuId = b.menuId ∨ a.menuCode = b.menuCode))

instance : DecidableRel UserRole.Clash := fun a b => inferInstanceAs (Decidable
  (a.bindingId = b.bindingId ∨ (a.userId = b.userId ∧ a.roleId = b.roleId)))

instance : DecidableRel RoleMenu.Clash := fun a b => inferInstanceAs (Decidable
  (a.bindingId = b.bindingId ∨ (a.roleId = b.roleId ∧ a.menuId = b.menuId)))

instance : Std.Symm AdminInfo.Clash :=
  ⟨fun _ _ h => h.imp Eq.symm fun h => h.imp Eq.symm Eq.symm⟩

instance : Std.Symm Menu.Clash := ⟨fun _ _ h => h.imp Eq.symm Eq.symm⟩

structure OpsStore where
  now : Nat
  users : Relation User User.Clash
  admins : Relation AdminInfo AdminInfo.Clash
  roles : Relation Role Role.Clash
  menus : Relation Menu Menu.Clash
  userRoles : Relation UserRole UserRole.Clash
  roleMenus : Relation RoleMenu RoleMenu.Clash
  tokens : Table StoredOpsToken

namespace OpsStore

/-! ## Queries -/

def userById (s : OpsStore) (userId : String) : Option User :=
  s.users.find? fun row => row.userId == userId

def adminInfoByUserId (s : OpsStore) (userId : String) : Option AdminInfo :=
  s.admins.find? fun row => row.userId == userId

def adminInfoById (s : OpsStore) (adminId : String) : Option AdminInfo :=
  s.admins.find? fun row => row.adminId == adminId

def adminInfoByLoginName (s : OpsStore) (loginName : String) : Option AdminInfo :=
  s.admins.find? fun row => row.loginName == loginName

def roleById (s : OpsStore) (roleId : String) : Option Role :=
  s.roles.find? fun row => row.roleId == roleId

def roleByCode (s : OpsStore) (roleCode : String) : Option Role :=
  s.roles.find? fun row => row.roleCode == roleCode

def menuById (s : OpsStore) (menuId : String) : Option Menu :=
  s.menus.find? fun row => row.menuId == menuId

def menuByCode (s : OpsStore) (menuCode : String) : Option Menu :=
  s.menus.find? fun row => row.menuCode == menuCode

def userRolesByUser (s : OpsStore) (userId : String) : List UserRole :=
  Relation.orderBy UserRole.bindingId (s.userRoles.select fun row => row.userId == userId)

def listRoleMenus (s : OpsStore) : List RoleMenu :=
  Relation.orderBy RoleMenu.bindingId s.roleMenus.rows

def authenticateOpsAccessToken (s : OpsStore) (token : String) : Option String :=
  match s.tokens.get? token with
  | none => none
  | some stored => if s.now < stored.expiresAt then some stored.adminId else none

/-! ## Writes -/

/-- Columns of one administrator that no index is on. -/
def updateAdmin (s : OpsStore) (adminId : String) (f : AdminInfo → AdminInfo)
    (hf : ∀ row, (f row).adminId = row.adminId ∧ (f row).userId = row.userId ∧
      (f row).loginName = row.loginName) : OpsStore :=
  let admins := s.admins.alter (fun row => if row.adminId = adminId then f row else row)
    fun a b => by
      have hkeys : ∀ row : AdminInfo, (if row.adminId = adminId then f row else row).adminId =
          row.adminId ∧ (if row.adminId = adminId then f row else row).userId = row.userId ∧
          (if row.adminId = adminId then f row else row).loginName = row.loginName := by
        intro row
        split
        · exact hf row
        · exact ⟨rfl, rfl, rfl⟩
      unfold AdminInfo.Clash
      rw [(hkeys a).1, (hkeys a).2.1, (hkeys a).2.2, (hkeys b).1, (hkeys b).2.1, (hkeys b).2.2]
  { s with admins }

theorem rows_updateAdmin (s : OpsStore) (adminId : String) (f : AdminInfo → AdminInfo)
    (hf : ∀ row, (f row).adminId = row.adminId ∧ (f row).userId = row.userId ∧
      (f row).loginName = row.loginName) :
    (s.updateAdmin adminId f hf).admins.rows =
      s.admins.rows.map fun row => if row.adminId = adminId then f row else row := rfl

def updateAdminLoginAudit (s : OpsStore) (adminId : String) (lastLoginAt : Nat)
    (lastLoginIp : String) : OpsStore :=
  s.updateAdmin adminId
    (fun row => { row with lastLoginAt, lastLoginIp, failedLoginCount := 0, lockedUntil := 0 })
    fun _ => ⟨rfl, rfl, rfl⟩

def updateAdminPasswordAudit (s : OpsStore) (adminId passwordHash : String)
    (passwordUpdatedAt : Nat) : OpsStore :=
  s.updateAdmin adminId (fun row => { row with passwordHash, passwordUpdatedAt })
    fun _ => ⟨rfl, rfl, rfl⟩

def recordAdminLoginFailure (s : OpsStore) (adminId : String)
    (failedLoginCount lockedUntil : Nat) : OpsStore :=
  s.updateAdmin adminId (fun row => { row with failedLoginCount, lockedUntil })
    fun _ => ⟨rfl, rfl, rfl⟩

/-- The `UPDATE` of `FirstOrCreate`: all columns but the primary key and the user. -/
def assignAdminInfo (s : OpsStore) (record : AdminInfo) : Option OpsStore :=
  (s.admins.update fun row =>
    if row.adminId = record.adminId then { record with userId := row.userId } else row).map
      fun admins => { s with admins }

def insertAdminInfo (s : OpsStore) (record : AdminInfo) : Option OpsStore :=
  (s.admins.insert record).map fun admins => { s with admins }

def insertRole (s : OpsStore) (record : Role) : Option OpsStore :=
  (s.roles.insert record).map fun roles => { s with roles }

def insertMenu (s : OpsStore) (record : Menu) : Option OpsStore :=
  (s.menus.insert record).map fun menus => { s with menus }

/-- One transaction: what is created after the rows are gone may be refused. -/
def replaceUserRoles (s : OpsStore) (userId : String) (roleIds : List String) : Option OpsStore :=
  let kept := s.userRoles.delete fun row => row.userId == userId
  (Relation.ofRows? (kept.rows ++ roleIds.map fun roleId =>
    ⟨"user-role:" ++ userId ++ ":" ++ roleId, userId, roleId⟩)).map fun userRoles =>
      { s with userRoles }

def replaceRoleMenus (s : OpsStore) (roleId : String) (menuIds : List String) : Option OpsStore :=
  let kept := s.roleMenus.delete fun row => row.roleId == roleId
  (Relation.ofRows? (kept.rows ++ menuIds.map fun menuId =>
    ⟨"role-menu:" ++ roleId ++ ":" ++ menuId, roleId, menuId⟩)).map fun roleMenus =>
      { s with roleMenus }

def opsTokenTtl : Nat := 8 * 60 * 60 * 1000

def storeOpsAccessToken (s : OpsStore) (token adminId : String) : OpsStore :=
  { s with tokens := s.tokens.put token ⟨adminId, s.now + opsTokenTtl⟩ }

end OpsStore

end Slan.Ops
