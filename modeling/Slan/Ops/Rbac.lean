import Slan.Ops.Admins

/-! # Roles, menus and the guards of the ops routes

`ops_rbac.go`, the authorization of `ops_admin.go`, and the middlewares of `routes_common.go` with
the routes of `routes_ops.go` that they stand before.
-/

namespace Slan.Ops

open Control (ServiceError newId)
open Networks (HexText)
open Program (query execOr forEach)

/-! ## Assignments -/

/-- `util.DedupeTrimmed` -/
def dedupeTrimmed (values : List String) : List String :=
  values.foldl (fun out value =>
    if Text.trim value = "" ∨ Text.trim value ∈ out then out else out ++ [Text.trim value]) []

structure CreateRoleRequest where
  roleCode : String
  roleName : String
  description : String
  deriving DecidableEq, Repr

def createRole (random : HexText) (req : CreateRoleRequest) : OpsCall Role := do
  if Text.trim req.roleCode = "" ∨ Text.trim req.roleName = "" then
    refuse (invalidArgument "roleCode and roleName are required")
  else do
    let existing ← query fun s => s.roleByCode (Text.trim req.roleCode)
    match existing with
    | some _ => refuse (.wrap .conflict "role code already exists")
    | none => do
      let record : Role :=
        { roleId := newId "role" random
          roleCode := Text.trim req.roleCode
          roleName := Text.trim req.roleName
          description := Text.trim req.description
          builtin := false }
      execOr .database fun s => s.insertRole record
      pure record

structure AssignUserRolesRequest where
  roleIds : List String
  deriving DecidableEq, Repr

def assignUserRoles (userId : String) (req : AssignUserRolesRequest) : OpsCall Unit := do
  if Text.trim userId = "" then refuse (invalidArgument "userId is required")
  else do
    let _ ← lookupOr .notFound fun s => s.userById (Text.trim userId)
    forEach (fun roleId => (lookupOr .notFound fun s => s.roleById roleId).void)
      (dedupeTrimmed req.roleIds)
    execOr .database fun s => s.replaceUserRoles (Text.trim userId) (dedupeTrimmed req.roleIds)

structure CreateMenuRequest where
  menuCode : String
  menuName : String
  path : String
  parentId : String
  sort : Int
  status : String
  deriving DecidableEq, Repr

def createMenu (random : HexText) (req : CreateMenuRequest) : OpsCall Menu := do
  if Text.trim req.menuCode = "" ∨ Text.trim req.menuName = "" then
    refuse (invalidArgument "menuCode and menuName are required")
  else do
    let existing ← query fun s => s.menuByCode (Text.trim req.menuCode)
    match existing with
    | some _ => refuse (.wrap .conflict "menu code already exists")
    | none => do
      if Text.trim req.parentId ≠ "" then
        (lookupOr .notFound fun s => s.menuById (Text.trim req.parentId)).void
      let record : Menu :=
        { menuId := newId "menu" random
          menuCode := Text.trim req.menuCode
          menuName := Text.trim req.menuName
          path := Text.trim req.path
          parentId := Text.trim req.parentId
          sort := req.sort
          status := if Text.trim req.status = "" then "active" else Text.trim req.status }
      execOr .database fun s => s.insertMenu record
      pure record

structure AssignRoleMenusRequest where
  menuIds : List String
  deriving DecidableEq, Repr

def assignRoleMenus (roleId : String) (req : AssignRoleMenusRequest) : OpsCall Unit := do
  if Text.trim roleId = "" then refuse (invalidArgument "roleId is required")
  else do
    let _ ← lookupOr .notFound fun s => s.roleById (Text.trim roleId)
    forEach (fun menuId => (lookupOr .notFound fun s => s.menuById menuId).void)
      (dedupeTrimmed req.menuIds)
    execOr .database fun s => s.replaceRoleMenus (Text.trim roleId) (dedupeTrimmed req.menuIds)

/-! ## Authorization -/

def authenticateAdminToken (accessToken : String) : OpsCall String := do
  let adminId ← lookupOr .unauthorized fun s => s.authenticateOpsAccessToken accessToken
  let admin ← lookupOr .unauthorized fun s => s.adminInfoById adminId
  if admin.status ≠ "active" then refuse .forbidden
  else do
    let userRoles ← query fun s => s.userRolesByUser admin.userId
    if userRoles = [] then refuse .forbidden else pure adminId

def authorizeAdminMenu (adminId menuCode : String) : OpsCall Unit := do
  if Text.trim adminId = "" ∨ Text.trim menuCode = "" then refuse .forbidden
  else do
    let admin ← lookupOr .unauthorized fun s => s.adminInfoById (Text.trim adminId)
    let menu ← lookupOr .forbidden fun s => s.menuByCode (Text.trim menuCode)
    let userRoles ← query fun s => s.userRolesByUser admin.userId
    if userRoles = [] then refuse .forbidden
    else do
      let menuBindings ← query OpsStore.listRoleMenus
      if menuBindings.any fun binding => binding.menuId == menu.menuId &&
          userRoles.any fun role => role.roleId == binding.roleId then pure ()
      else refuse .forbidden

/-- Whom a request comes from. -/
inductive OpsCaller where
  | staticToken
  | admin (adminId : String)
  deriving DecidableEq, Repr

def bearer : List Char := "Bearer ".toList

/-- The bearer token of an `Authorization` header. -/
def bearerToken (header : String) : Option String :=
  let authz := (Text.trim header).toList
  if bearer.isPrefixOf authz ∧ authz.length ≠ bearer.length then
    some (String.ofList (authz.drop bearer.length))
  else none

/-- `accessToken` is the static token of the configuration. -/
def authenticateOps (accessToken header : String) : OpsCall OpsCaller :=
  match bearerToken header with
  | none => refuse .unauthorized
  | some token => do
    if token = accessToken then pure .staticToken
    else do
      let adminId ← authenticateAdminToken token
      pure (.admin adminId)

def authorizeOpsMenu (caller : OpsCaller) (menuCode : String) : OpsCall Unit :=
  match caller with
  | .staticToken => pure ()
  | .admin adminId =>
    if adminId = "" then refuse .unauthorized else authorizeAdminMenu adminId menuCode

/-! ## Routes -/

inductive OpsPage where
  | overview
  | users
  | devices
  | admins
  | roles
  | menus
  | relays
  deriving DecidableEq, Repr

/-- What the request of a route brings, and the random part of a new identifier. -/
inductive OpsRoute where
  | view (page : OpsPage)
  | upsertAdmin (random : HexText) (req : UpsertAdminInfoRequest)
  | changePassword (adminId : String) (req : ChangeAdminPasswordRequest)
  | unlock (adminId : String)
  | createRole (random : HexText) (req : CreateRoleRequest)
  | assignUserRoles (userId : String) (req : AssignUserRolesRequest)
  | createMenu (random : HexText) (req : CreateMenuRequest)
  | assignRoleMenus (roleId : String) (req : AssignRoleMenusRequest)

namespace OpsRoute

def menuCode : OpsRoute → String
  | .view .overview => "ops.overview"
  | .view .users => "ops.users"
  | .view .devices => "ops.devices"
  | .view .admins => "ops.admins"
  | .view .roles => "ops.roles"
  | .view .menus => "ops.menus"
  | .view .relays => "ops.relays"
  | .upsertAdmin _ _ => "ops.admins"
  | .changePassword _ _ => "ops.admins"
  | .unlock _ => "ops.admins"
  | .createRole _ _ => "ops.roles"
  | .assignUserRoles _ _ => "ops.roles"
  | .createMenu _ _ => "ops.menus"
  | .assignRoleMenus _ _ => "ops.roles"

/-- What the route executes; of its answer only the success counts. -/
def handler (hash lower : String → String) : OpsRoute → OpsCall Unit
  | .view _ => pure ()
  | .upsertAdmin random req => (Ops.upsertAdminInfo hash lower random req).void
  | .changePassword adminId req => changeAdminPassword hash adminId req
  | .unlock adminId => unlockAdmin adminId
  | .createRole random req => (Ops.createRole random req).void
  | .assignUserRoles userId req => Ops.assignUserRoles userId req
  | .createMenu random req => (Ops.createMenu random req).void
  | .assignRoleMenus roleId req => Ops.assignRoleMenus roleId req

/-- The middlewares before the handler of a route. -/
def guard (accessToken header : String) (route : OpsRoute) : OpsCall Unit := do
  let caller ← authenticateOps accessToken header
  authorizeOpsMenu caller route.menuCode

def serve (hash lower : String → String) (accessToken header : String) (route : OpsRoute) :
    OpsCall Unit := do
  route.guard accessToken header
  route.handler hash lower

end OpsRoute

end Slan.Ops
