import Slan.Lib.Interleaving
import Slan.Ops.Authorization

/-! # `ops_seed.go`: what a server sets up when it starts

Several servers may start over one database at once. `hash` is `util.HashPassword` and `lower` is
`strings.ToLower`.
-/

namespace Slan.Ops

open Control (newId)
open Networks (HexText User)
open Program (Assures Rely execOr forEach query)
open Transition

/-! ## Menus and roles -/

def builtinMenu (menuCode menuName path : String) (sort : Int) : Menu :=
  ⟨"", menuCode, menuName, path, "", sort, "active"⟩

def builtinOpsMenus : List Menu :=
  [builtinMenu "ops.overview" "Overview" "/overview" 10,
    builtinMenu "ops.users" "Users" "/users" 20,
    builtinMenu "ops.devices" "Devices" "/devices" 30,
    builtinMenu "ops.admins" "Admins" "/admins" 40,
    builtinMenu "ops.roles" "Roles" "/roles" 50,
    builtinMenu "ops.menus" "Menus" "/menus" 60,
    builtinMenu "ops.relays" "Relays" "/relays" 70]

structure BuiltinOpsRoleSeed where
  roleCode : String
  roleName : String
  desc : String
  menuCodes : List String
  deriving DecidableEq, Repr

def superAdminCode : String := "ops-super-admin"

def builtinOpsRoles : List BuiltinOpsRoleSeed :=
  [ { roleCode := superAdminCode
      roleName := "Ops Super Admin"
      desc := "Full access to every ops route."
      menuCodes := ["ops.overview", "ops.users", "ops.devices", "ops.admins", "ops.roles",
        "ops.menus", "ops.relays"] },
    { roleCode := "ops-observer"
      roleName := "Ops Observer"
      desc := "Read-only access to overview, users, devices, and relays."
      menuCodes := ["ops.overview", "ops.users", "ops.devices", "ops.relays"] }]

/-- The row that a lookup finds, else one that is inserted, else one that another server has
inserted meanwhile. -/
def getOrCreate {α : Type} (find : OpsStore → Option α) (record : α)
    (insert : OpsStore → Option OpsStore) (again : OpsCall α) : OpsCall α := do
  let found ← query find
  match found with
  | some row => pure row
  | none => do
    let written ← (execOr .database insert : OpsCall Unit).attempt
    match written with
    | .ok _ => pure record
    | .error _ => again

/-- The row that another server has inserted. -/
def insertedMeanwhile {α : Type} (find : OpsStore → Option α) (otherwise : OpsCall α) : OpsCall α := do
  let found ← query find
  match found with
  | some row => pure row
  | none => otherwise

-- The source asks twice: `err` is not the error of a missing row, so both of its lookups are made.
def statefulGetOrCreateMenu (random : HexText) (item : Menu) : OpsCall Menu :=
  let record := { item with menuId := newId "menu" random }
  let find := fun s : OpsStore => s.menuByCode item.menuCode
  getOrCreate find record (fun s => s.insertMenu record)
    (insertedMeanwhile find (insertedMeanwhile find (.fail .database)))

def statefulGetOrCreateRole (random : HexText) (item : BuiltinOpsRoleSeed) : OpsCall Role :=
  let record : Role :=
    { roleId := newId "role" random
      roleCode := item.roleCode
      roleName := item.roleName
      description := item.desc
      builtin := true }
  let find := fun s : OpsStore => s.roleByCode item.roleCode
  getOrCreate find record (fun s => s.insertRole record) (insertedMeanwhile find (.fail .database))

/-- The loop over the menus; it collects their identifiers. -/
def seedMenus (fresh : String → HexText) : List Menu → Table String → OpsCall (Table String)
  | [], menuIdByCode => pure menuIdByCode
  | item :: items, menuIdByCode => do
    let menu ← statefulGetOrCreateMenu (fresh item.menuCode) item
    seedMenus fresh items (menuIdByCode.put menu.menuCode menu.menuId)

def seedRole (fresh : String → HexText) (menuIdByCode : Table String) (item : BuiltinOpsRoleSeed) :
    OpsCall Unit := do
  let role ← statefulGetOrCreateRole (fresh item.roleCode) item
  execOr .database fun s =>
    s.replaceRoleMenus role.roleId (item.menuCodes.filterMap menuIdByCode.get?)

/-- What is drawn for an identifier is named by the code it is for. -/
def seedBuiltinOpsRbac (fresh : String → HexText) : OpsCall Unit := do
  let menuIdByCode ← seedMenus fresh builtinOpsMenus ∅
  forEach (seedRole fresh menuIdByCode) builtinOpsRoles

/-! ## The default administrator -/

structure OpsDefaultAdminConfig where
  enabled : Bool
  email : String
  loginName : String
  displayName : String
  password : String
  deriving DecidableEq, Repr

def normalizeEmail (lower : String → String) (email : String) : String := Text.trim (lower email)

namespace OpsStore

def userByEmail (s : OpsStore) (lower : String → String) (email : String) : Option User :=
  s.users.find? fun row => row.email == normalizeEmail lower email

def createUser (s : OpsStore) (lower : String → String) (row : User) : Option OpsStore :=
  (s.users.insert { row with email := normalizeEmail lower row.email }).map fun users =>
    { s with users }

end OpsStore

section DefaultAdmin

variable (hash lower : String → String) (fresh : String → HexText) (cfg : OpsDefaultAdminConfig)

/-- The configuration names an administrator to be set up. -/
def OpsDefaultAdminConfig.Complete : Prop :=
  cfg.enabled = true ∧ normalizeEmail lower cfg.email ≠ "" ∧ Text.trim (lower cfg.loginName) ≠ "" ∧
    Text.trim cfg.displayName ≠ "" ∧ cfg.password ≠ ""

instance : Decidable (cfg.Complete lower) := inferInstanceAs (Decidable (_ ∧ _ ∧ _ ∧ _ ∧ _))

/-- Of the row of a user the password is not looked at here. -/
def seedUser : OpsCall User :=
  let email := normalizeEmail lower cfg.email
  let find := fun s : OpsStore => s.userByEmail lower email
  let record : User := ⟨newId "user" (fresh "user"), email, ""⟩
  getOrCreate find record (fun s => s.createUser lower record) (insertedMeanwhile find (.fail .database))

def seedAdminInfo (user : User) : OpsCall Unit := do
  let found ← query fun s => s.adminInfoByUserId user.userId
  match found with
  | some _ => pure ()
  | none =>
    upsertAdminInfoRecord
      { adminId := newId "admin" (fresh "admin")
        userId := user.userId
        loginName := Text.trim (lower cfg.loginName)
        passwordHash := hash cfg.password
        passwordUpdatedAt := 0
        displayName := Text.trim cfg.displayName
        phone := ""
        title := ""
        department := ""
        status := "active"
        lastLoginAt := 0
        lastLoginIp := ""
        failedLoginCount := 0
        lockedUntil := 0 }

def bindSuperAdmin (user : User) : OpsCall Unit := do
  let found ← query fun s => s.roleByCode superAdminCode
  let role ← Program.orFail .database found
  let bindings ← query fun s => s.userRolesByUser user.userId
  if bindings.any (fun binding => binding.roleId == role.roleId) then pure ()
  else
    execOr .database fun s => s.replaceUserRoles user.userId
      (dedupeTrimmed (bindings.map UserRole.roleId ++ [role.roleId]))

def seedDefaultAdmin : OpsCall Unit := do
  if cfg.Complete lower then do
    let user ← seedUser lower fresh cfg
    seedAdminInfo hash lower fresh cfg user
    bindSuperAdmin user
  else pure ()

/-- `NewDBServices`, as far as it goes before the services are there. -/
def newDbServices : OpsCall Unit := do
  seedBuiltinOpsRbac fresh
  seedDefaultAdmin hash lower fresh cfg

end DefaultAdmin

/-! ## What starts keep of each other -/

namespace OpsStore

variable (s : OpsStore)

/-- A role of the code of the item is bound to the menus of the item, and to no others. -/
def Complete (item : BuiltinOpsRoleSeed) : Prop :=
  ∃ role ∈ s.roles, role.roleCode = item.roleCode ∧
    (∀ row ∈ s.roleMenus, row.roleId = role.roleId →
      ∃ menu ∈ s.menus, menu.menuId = row.menuId ∧ menu.menuCode ∈ item.menuCodes) ∧
    ∀ code ∈ item.menuCodes, ∃ menu ∈ s.menus, menu.menuCode = code ∧
      ∃ row ∈ s.roleMenus, row.roleId = role.roleId ∧ row.menuId = menu.menuId

def SuperAdmin (userId : String) : Prop :=
  ∃ role ∈ s.roles, role.roleCode = superAdminCode ∧
    ∃ row ∈ s.userRoles, row.userId = userId ∧ row.roleId = role.roleId

/-- The identifiers of roles are as `NewID` makes them. -/
def ProperRoleIds : Prop :=
  ∀ role ∈ s.roles, role.roleId ≠ "" ∧ Text.trim role.roleId = role.roleId

def HasMenu (menuId menuCode : String) : Prop :=
  ∃ menu ∈ s.menus, menu.menuId = menuId ∧ menu.menuCode = menuCode

def HasRole (roleId roleCode : String) : Prop :=
  ∃ role ∈ s.roles, role.roleId = roleId ∧ role.roleCode = roleCode

def HasUser (userId email : String) : Prop :=
  ∃ user ∈ s.users, user.userId = userId ∧ user.email = email

def HasAdmin (userId : String) : Prop := ∃ admin ∈ s.admins, admin.userId = userId

end OpsStore

/-- Rows of users, administrators, roles and menus stay with what identifies them, and so does what
starts have set up. -/
structure Grows (s t : OpsStore) : Prop where
  users : ∀ {userId email}, s.HasUser userId email → t.HasUser userId email
  admins : ∀ {userId}, s.HasAdmin userId → t.HasAdmin userId
  roles : ∀ {roleId roleCode}, s.HasRole roleId roleCode → t.HasRole roleId roleCode
  menus : ∀ {menuId menuCode}, s.HasMenu menuId menuCode → t.HasMenu menuId menuCode
  roleIds : s.ProperRoleIds → t.ProperRoleIds
  complete : ∀ item ∈ builtinOpsRoles, s.Complete item → t.Complete item
  superAdmins : ∀ userId, s.SuperAdmin userId → t.SuperAdmin userId

theorem Grows.refl (s : OpsStore) : Grows s s :=
  ⟨id, id, id, id, id, fun _ _ => id, fun _ => id⟩

theorem rely_grows : Rely Grows Grows where
  refl := .refl
  trans h h' := {
    users := h'.users ∘ h.users
    admins := h'.admins ∘ h.admins
    roles := h'.roles ∘ h.roles
    menus := h'.menus ∘ h.menus
    roleIds := h'.roleIds ∘ h.roleIds
    complete := fun item hitem => h'.complete item hitem ∘ h.complete item hitem
    superAdmins := fun userId => h'.superAdmins userId ∘ h.superAdmins userId }
  own := id

section Writes

variable {s t : OpsStore}

/-- Rows are added, and nothing is bound otherwise. -/
theorem Grows.of_bindings (husers : ∀ {userId email}, s.HasUser userId email →
      t.HasUser userId email) (hadmins : ∀ {userId}, s.HasAdmin userId → t.HasAdmin userId)
    (hroles : ∀ role ∈ s.roles, role ∈ t.roles) (hmenus : ∀ menu ∈ s.menus, menu ∈ t.menus)
    (hids : s.ProperRoleIds → t.ProperRoleIds) (hroleMenus : t.roleMenus = s.roleMenus)
    (huserRoles : t.userRoles = s.userRoles) : Grows s t where
  users := husers
  admins := hadmins
  roles := fun ⟨role, hrole, hsame⟩ => ⟨role, hroles role hrole, hsame⟩
  menus := fun ⟨menu, hmenu, hsame⟩ => ⟨menu, hmenus menu hmenu, hsame⟩
  roleIds := hids
  complete := by
    rintro item - ⟨role, hrole, hcode, honly, hall⟩
    unfold OpsStore.Complete
    rw [hroleMenus]
    refine ⟨role, hroles role hrole, hcode, fun row hrow hsame => ?_, fun code hmem => ?_⟩
    · obtain ⟨menu, hmenu, hfound⟩ := honly row hrow hsame
      exact ⟨menu, hmenus menu hmenu, hfound⟩
    · obtain ⟨menu, hmenu, hfound⟩ := hall code hmem
      exact ⟨menu, hmenus menu hmenu, hfound⟩
  superAdmins := by
    rintro userId ⟨role, hrole, hfound⟩
    unfold OpsStore.SuperAdmin
    rw [huserRoles]
    exact ⟨role, hroles role hrole, hfound⟩

theorem grows_insertMenu {record : Menu} (h : s.insertMenu record = some t) :
    Grows s t ∧ t.HasMenu record.menuId record.menuCode := by
  obtain ⟨menus, hinsert, rfl⟩ := Option.map_eq_some_iff.mp h
  have hmem := fun menu => Relation.mem_insert (a := menu) hinsert
  exact ⟨.of_bindings id id (fun _ => id) (fun menu hmenu => (hmem menu).mpr (.inl hmenu)) id rfl
    rfl, record, (hmem record).mpr (.inr rfl), rfl, rfl⟩

theorem grows_insertRole {record : Role} (h : s.insertRole record = some t)
    (hid : record.roleId ≠ "" ∧ Text.trim record.roleId = record.roleId) :
    Grows s t ∧ t.HasRole record.roleId record.roleCode := by
  obtain ⟨roles, hinsert, rfl⟩ := Option.map_eq_some_iff.mp h
  have hmem := fun role => Relation.mem_insert (a := role) hinsert
  refine ⟨.of_bindings id id (fun role hrole => (hmem role).mpr (.inl hrole)) (fun _ => id)
    (fun hids role hrole => ?_) rfl rfl, record, (hmem record).mpr (.inr rfl), rfl, rfl⟩
  rcases (hmem role).mp hrole with hrole | rfl
  · exact hids role hrole
  · exact hid

theorem grows_createUser {lower : String → String} {record : User}
    (h : s.createUser lower record = some t) :
    Grows s t ∧ t.HasUser record.userId (normalizeEmail lower record.email) := by
  obtain ⟨users, hinsert, rfl⟩ := Option.map_eq_some_iff.mp h
  have hmem := fun user => Relation.mem_insert (a := user) hinsert
  refine ⟨.of_bindings ?_ id (fun _ => id) (fun _ => id) id rfl rfl, _,
    (hmem _).mpr (.inr rfl), rfl, rfl⟩
  rintro userId email ⟨user, huser, hsame⟩
  exact ⟨user, (hmem user).mpr (.inl huser), hsame⟩

theorem Grows.of_admins {admins : Relation AdminInfo AdminInfo.Clash}
    (h : ∀ admin ∈ s.admins, ∃ after ∈ admins, after.userId = admin.userId) :
    Grows s { s with admins } := by
  refine .of_bindings id ?_ (fun _ => id) (fun _ => id) id rfl rfl
  rintro userId ⟨admin, hadmin, rfl⟩
  exact h admin hadmin

theorem grows_assignAdminInfo {record : AdminInfo} (h : s.assignAdminInfo record = some t) :
    Grows s t := by
  obtain ⟨admins, hupdate, rfl⟩ := Option.map_eq_some_iff.mp h
  refine .of_admins fun admin hadmin => ⟨_, (Relation.mem_update hupdate).mpr ⟨admin, hadmin, rfl⟩, ?_⟩
  split <;> rfl

theorem grows_insertAdminInfo {record : AdminInfo} (h : s.insertAdminInfo record = some t) :
    Grows s t ∧ t.HasAdmin record.userId := by
  obtain ⟨admins, hinsert, rfl⟩ := Option.map_eq_some_iff.mp h
  have hmem := fun admin => Relation.mem_insert (a := admin) hinsert
  exact ⟨.of_admins fun admin hadmin => ⟨admin, (hmem admin).mpr (.inl hadmin), rfl⟩, record,
    (hmem record).mpr (.inr rfl), rfl⟩

theorem role_eq {role role' : Role} (hrole : role ∈ s.roles) (hrole' : role' ∈ s.roles)
    (h : role.Clash role') : role = role' :=
  have : Std.Symm Role.Clash := ⟨fun _ _ h => h.imp Eq.symm Eq.symm⟩
  Relation.eq_of_clash hrole hrole' h

theorem mem_replaceRoleMenus {roleId : String} {menuIds : List String}
    (h : s.replaceRoleMenus roleId menuIds = some t) (row : RoleMenu) :
    row ∈ t.roleMenus ↔ row ∈ s.roleMenus ∧ row.roleId ≠ roleId ∨
      ∃ menuId ∈ menuIds, ⟨"role-menu:" ++ roleId ++ ":" ++ menuId, roleId, menuId⟩ = row := by
  obtain ⟨roleMenus, hrows, rfl⟩ := Option.map_eq_some_iff.mp h
  rw [Relation.mem_def, Relation.ofRows?_eq_some.mp hrows, List.mem_append, List.mem_map,
    ← Relation.mem_def, Relation.mem_delete, beq_eq_false_iff_ne]

theorem builtinOpsRoles_inj : ∀ item ∈ builtinOpsRoles, ∀ other ∈ builtinOpsRoles,
    item.roleCode = other.roleCode → item = other := by decide

/-- A role is bound to the menus of its item. -/
theorem grows_replaceRoleMenus {item : BuiltinOpsRoleSeed} {roleId : String} {menuIds : List String}
    (h : s.replaceRoleMenus roleId menuIds = some t) (hitem : item ∈ builtinOpsRoles)
    (hrole : s.HasRole roleId item.roleCode)
    (honly : ∀ menuId ∈ menuIds, ∃ code ∈ item.menuCodes, s.HasMenu menuId code)
    (hall : ∀ code ∈ item.menuCodes, ∃ menuId ∈ menuIds, s.HasMenu menuId code) :
    Grows s t ∧ t.Complete item := by
  have hmem := mem_replaceRoleMenus h
  obtain ⟨roleMenus, -, rfl⟩ := Option.map_eq_some_iff.mp h
  dsimp only at hmem
  obtain ⟨role, hrole, rfl, hcode⟩ := hrole
  have hcomplete : OpsStore.Complete { s with roleMenus } item := by
    refine ⟨role, hrole, hcode, fun row hrow hsame => ?_, fun code hcode => ?_⟩
    · rcases (hmem row).mp hrow with hkept | ⟨menuId, hmenuId, rfl⟩
      · exact absurd hsame hkept.2
      · obtain ⟨code, hcode, menu, hmenu, hid, rfl⟩ := honly menuId hmenuId
        exact ⟨menu, hmenu, hid, hcode⟩
    · obtain ⟨menuId, hmenuId, menu, hmenu, hid, hsame⟩ := hall code hcode
      exact ⟨menu, hmenu, hsame, _, (hmem _).mpr (.inr ⟨menuId, hmenuId, rfl⟩), rfl, hid.symm⟩
  refine ⟨⟨id, id, id, id, id, fun other hother hfound => ?_, fun _ => id⟩, hcomplete⟩
  obtain ⟨role', hrole', hcode', honly', hall'⟩ := hfound
  by_cases hsame : role'.roleId = role.roleId
  · -- one role is of one item
    obtain rfl := role_eq hrole' hrole (.inl hsame)
    obtain rfl := builtinOpsRoles_inj other hother item hitem (hcode'.symm.trans hcode)
    exact hcomplete
  · refine ⟨role', hrole', hcode', fun row hrow hrowRole => ?_, fun code hcode => ?_⟩
    · rcases (hmem row).mp hrow with hkept | ⟨menuId, -, rfl⟩
      · exact honly' row hkept.1 hrowRole
      · exact absurd hrowRole.symm hsame
    · obtain ⟨menu, hmenu, hsameCode, row, hrow, hrowRole, hrowMenu⟩ := hall' code hcode
      refine ⟨menu, hmenu, hsameCode, row, (hmem row).mpr (.inl ⟨hrow, ?_⟩), hrowRole, hrowMenu⟩
      rw [hrowRole]
      exact hsame

/-- A user has the super administrator's role, maybe besides others. -/
theorem grows_replaceUserRoles {userId : String} {roleIds : List String} {roleId : String}
    (h : s.replaceUserRoles userId roleIds = some t) (hrole : s.HasRole roleId superAdminCode)
    (hroleId : roleId ∈ roleIds) : Grows s t ∧ t.SuperAdmin userId := by
  obtain ⟨userRoles, hrows, rfl⟩ := Option.map_eq_some_iff.mp h
  have hmem : ∀ row : UserRole, row ∈ userRoles ↔ row ∈ s.userRoles ∧ row.userId ≠ userId ∨
      ∃ roleId ∈ roleIds, ⟨"user-role:" ++ userId ++ ":" ++ roleId, userId, roleId⟩ = row := by
    intro row
    rw [Relation.mem_def, Relation.ofRows?_eq_some.mp hrows, List.mem_append, List.mem_map,
      ← Relation.mem_def, Relation.mem_delete, beq_eq_false_iff_ne]
  obtain ⟨role, hrole, rfl, hcode⟩ := hrole
  have hsuper : OpsStore.SuperAdmin { s with userRoles } userId :=
    ⟨role, hrole, hcode, _, (hmem _).mpr (.inr ⟨role.roleId, hroleId, rfl⟩), rfl, rfl⟩
  refine ⟨⟨id, id, id, id, id, fun _ _ => id, fun other hother => ?_⟩, hsuper⟩
  by_cases hsame : other = userId
  · rw [hsame]
    exact hsuper
  · obtain ⟨role', hrole', hcode', row, hrow, huser, hbound⟩ := hother
    exact ⟨role', hrole', hcode', row, (hmem row).mpr (.inl ⟨hrow, huser ▸ hsame⟩), huser, hbound⟩

end Writes

/-! ## What a start leads to -/

section Starts

variable {α : Type} {s : OpsStore}

abbrev Sets (s : OpsStore) (p : OpsCall α) (Q : OpsStore → α → Prop) : Prop :=
  p.Assures Grows Grows s Q

theorem sets_insertedMeanwhile {find : OpsStore → Option α} {otherwise : OpsCall α}
    {Q : OpsStore → α → Prop} (hfind : ∀ t a, Grows s t → find t = some a → Q t a)
    (hotherwise : ∀ t, Grows s t → Sets t otherwise Q) :
    Sets s (insertedMeanwhile find otherwise) Q := by
  refine Assures.bind rely_grows (Q := fun t found => Grows s t ∧ found = find t)
    (.query fun t hle => ⟨.refl t, hle, rfl⟩) fun t found _ ⟨hst, hfound⟩ => ?_
  cases hcase : found with
  | some a => exact .pure (hfind _ _ hst (hfound.symm.trans hcase))
  | none => exact hotherwise t hst

theorem sets_getOrCreate {find : OpsStore → Option α} {record : α}
    {insert : OpsStore → Option OpsStore} {again : OpsCall α} {Q : OpsStore → α → Prop}
    (hfind : ∀ t a, Grows s t → find t = some a → Q t a)
    (hinsert : ∀ t u, Grows s t → insert t = some u → Grows t u ∧ Q u record)
    (hagain : ∀ t, Grows s t → Sets t again Q) : Sets s (getOrCreate find record insert again) Q := by
  refine Assures.bind rely_grows (Q := fun t found => Grows s t ∧ found = find t)
    (.query fun t hle => ⟨.refl t, hle, rfl⟩) fun t found _ ⟨hst, hfound⟩ => ?_
  cases hcase : found with
  | some a => exact .pure (hfind _ _ hst (hfound.symm.trans hcase))
  | none =>
    have hwrite : Sets t (execOr .database insert : OpsCall Unit) fun u _ => Q u record :=
      .execOr (fun u htu v hwrite => hinsert u v (rely_grows.trans hst htu) hwrite) .refl
    refine Assures.bind rely_grows hwrite.attempt fun u written htu hwritten => ?_
    cases written with
    | ok _ => exact .pure (hwritten () rfl)
    | error _ => exact hagain u (rely_grows.trans hst htu)

theorem sets_fail {err : Networks.Failure} {Q : OpsStore → α → Prop} :
    Sets s (Program.fail err) Q := .fail err

theorem sets_statefulGetOrCreateMenu (random : HexText) (item : Menu) :
    Sets s (statefulGetOrCreateMenu random item) fun t menu =>
      menu.menuCode = item.menuCode ∧ t.HasMenu menu.menuId menu.menuCode := by
  have hfind : ∀ (t : OpsStore) menu, t.menuByCode item.menuCode = some menu →
      menu.menuCode = item.menuCode ∧ t.HasMenu menu.menuId menu.menuCode := fun t menu hfound =>
    have hmenu := OpsStore.menuByCode_eq_some.mp hfound
    ⟨hmenu.2, menu, hmenu.1, rfl, rfl⟩
  refine sets_getOrCreate (fun t menu _ => hfind t menu) (fun t u _ hinsert => ?_) fun t _ => ?_
  · exact ⟨(grows_insertMenu hinsert).1, rfl, (grows_insertMenu hinsert).2⟩
  · refine sets_insertedMeanwhile (fun u menu _ => hfind u menu) fun u _ => ?_
    exact sets_insertedMeanwhile (fun v menu _ => hfind v menu) fun _ _ => sets_fail

theorem OpsStore.roleByCode_eq_some {roleCode : String} {role : Role}
    (h : s.roleByCode roleCode = some role) : role ∈ s.roles ∧ role.roleCode = roleCode :=
  Relation.of_find?_key h

/-- An identifier that `NewID` makes. -/
theorem proper_newId {kind : String} (hkind : kind.toList.all (fun c => !Text.isSpace c) = true)
    (random : HexText) : newId kind random ≠ "" ∧ Text.trim (newId kind random) = newId kind random := by
  constructor
  · intro hempty
    have hlist := congrArg String.toList hempty
    rw [toList_newId] at hlist
    exact absurd hlist (List.append_ne_nil_of_right_ne_nil _ (List.cons_ne_nil _ _))
  · refine Text.trim_of_forall_not fun c hc => ?_
    rw [toList_newId, List.mem_append, List.mem_cons] at hc
    rcases hc with hc | rfl | hc
    · exact Bool.not_eq_true' _ ▸ List.all_eq_true.mp hkind c hc
    · decide
    · exact Netip.isSpace_of_isHexDigit (isHexDigit_of_mem hc)

theorem sets_statefulGetOrCreateRole (random : HexText) (item : BuiltinOpsRoleSeed) :
    Sets s (statefulGetOrCreateRole random item) fun t role =>
      t.HasRole role.roleId item.roleCode := by
  have hfind : ∀ (t : OpsStore) role, t.roleByCode item.roleCode = some role →
      t.HasRole role.roleId item.roleCode := fun t role hfound =>
    have hrole := OpsStore.roleByCode_eq_some hfound
    ⟨role, hrole.1, rfl, hrole.2⟩
  refine sets_getOrCreate (fun t role _ => hfind t role) (fun t u _ hinsert => ?_) fun t _ => ?_
  · exact grows_insertRole hinsert (proper_newId (by decide) random)
  · exact sets_insertedMeanwhile (fun u role _ => hfind u role) fun _ _ => sets_fail

/-- The identifiers are of menus of these codes. -/
def OpsStore.Knows (s : OpsStore) (menuIdByCode : Table String) : Prop :=
  ∀ code menuId, menuIdByCode.get? code = some menuId → s.HasMenu menuId code

theorem OpsStore.Knows.mono {t : OpsStore} {menuIdByCode : Table String}
    (h : s.Knows menuIdByCode) (hle : Grows s t) : t.Knows menuIdByCode :=
  fun code menuId hfound => hle.menus (h code menuId hfound)

theorem sets_seedMenus (fresh : String → HexText) (items : List Menu) (menuIdByCode : Table String)
    (h : s.Knows menuIdByCode) :
    Sets s (seedMenus fresh items menuIdByCode) fun t after => t.Knows after ∧
      ∀ code, code ∈ items.map Menu.menuCode ∨ (menuIdByCode.get? code).isSome = true →
        (after.get? code).isSome = true := by
  induction items generalizing s menuIdByCode with
  | nil => exact .pure ⟨h, fun code hcode => hcode.resolve_left List.not_mem_nil⟩
  | cons item items ih =>
    refine Assures.bind rely_grows (sets_statefulGetOrCreateMenu _ item)
      fun t menu hst ⟨hcode, hmenu⟩ => ?_
    have hknows : t.Knows (menuIdByCode.put menu.menuCode menu.menuId) := by
      intro code menuId hfound
      rw [Table.get?_put] at hfound
      split at hfound
      · rename_i hsame
        obtain rfl := Option.some.inj hfound
        exact hsame ▸ hmenu
      · exact h.mono hst code menuId hfound
    refine (ih _ hknows).mono fun u after ⟨hafter, hall⟩ => ⟨hafter, fun code hmem => hall code ?_⟩
    rw [Table.get?_put]
    by_cases hsame : code = menu.menuCode
    · rw [if_pos hsame]
      exact .inr rfl
    · rw [if_neg hsame]
      refine hmem.imp_left fun hcodes => (List.mem_cons.mp hcodes).resolve_left fun heq => ?_
      exact hsame (heq.trans hcode.symm)

theorem sets_seedRole (fresh : String → HexText) {menuIdByCode : Table String}
    {item : BuiltinOpsRoleSeed} (hitem : item ∈ builtinOpsRoles) (h : s.Knows menuIdByCode)
    (hall : ∀ code ∈ item.menuCodes, (menuIdByCode.get? code).isSome = true) :
    Sets s (seedRole fresh menuIdByCode item) fun t _ => t.Complete item := by
  refine Assures.bind rely_grows (sets_statefulGetOrCreateRole _ item) fun t role hst hrole => ?_
  refine .execOr (fun u htu v hwrite => ?_) .refl
  have hknows := h.mono (rely_grows.trans hst htu)
  refine grows_replaceRoleMenus hwrite hitem (htu.roles hrole) (fun menuId hmem => ?_)
    fun code hcode => ?_
  · obtain ⟨code, hcode, hfound⟩ := List.mem_filterMap.mp hmem
    exact ⟨code, hcode, hknows code menuId hfound⟩
  · obtain ⟨menuId, hfound⟩ := Option.isSome_iff_exists.mp (hall code hcode)
    exact ⟨menuId, List.mem_filterMap.mpr ⟨code, hcode, hfound⟩, hknows code menuId hfound⟩

theorem builtinOpsRoles_menuCodes : ∀ item ∈ builtinOpsRoles, ∀ code ∈ item.menuCodes,
    code ∈ builtinOpsMenus.map Menu.menuCode := by decide

theorem sets_seedBuiltinOpsRbac (fresh : String → HexText) :
    Sets s (seedBuiltinOpsRbac fresh) fun t _ => ∀ item ∈ builtinOpsRoles, t.Complete item := by
  have hnone : s.Knows ∅ := fun code menuId hfound => by
    rw [Table.get?_empty] at hfound
    cases hfound
  refine Assures.bind rely_grows (sets_seedMenus fresh builtinOpsMenus ∅ hnone)
    fun t menuIdByCode _ ⟨hknows, hall⟩ => ?_
  refine (Assures.forEach rely_grows (P := fun item u => item ∈ builtinOpsRoles → u.Complete item)
    (fun item u v huv hu hitem => huv.complete item hitem (hu hitem))
    fun item hitem u htu => ?_).mono fun u _ hu item hitem => hu item hitem hitem
  refine (sets_seedRole fresh hitem (hknows.mono htu) fun code hcode => ?_).mono
    fun _ _ hcomplete _ => hcomplete
  exact hall code (.inl (builtinOpsRoles_menuCodes item hitem code hcode))

/-! ### The default administrator -/

variable {lower : String → String} {cfg : OpsDefaultAdminConfig}

/-- The address under which the default administrator is stored and looked up. -/
def OpsDefaultAdminConfig.storedEmail (cfg : OpsDefaultAdminConfig) (lower : String → String) :
    String :=
  normalizeEmail lower (normalizeEmail lower cfg.email)

theorem sets_seedUser (fresh : String → HexText) :
    Sets s (seedUser lower fresh cfg) fun t user =>
      t.HasUser user.userId (cfg.storedEmail lower) := by
  have hfind : ∀ (t : OpsStore) user, t.userByEmail lower (normalizeEmail lower cfg.email) =
      some user → t.HasUser user.userId (cfg.storedEmail lower) := fun t user hfound =>
    have huser := Relation.of_find?_key hfound
    ⟨user, huser.1, rfl, huser.2⟩
  refine sets_getOrCreate (fun t user _ => hfind t user) (fun t u _ hinsert => ?_) fun t _ => ?_
  · exact grows_createUser hinsert
  · exact sets_insertedMeanwhile (fun u user _ => hfind u user) fun _ _ => sets_fail

theorem sets_setRecord {record : AdminInfo} {write : OpsStore → Option OpsStore}
    (h : ∀ t u, Grows s t → write t = some u → Grows t u ∧ u.HasAdmin record.userId) :
    Sets s (setRecord record write) fun t _ => t.HasAdmin record.userId := by
  refine Program.assures_stmt.mpr fun t hst => ?_
  cases hwrite : write t with
  | none => exact ⟨.refl t, .fail _⟩
  | some u =>
    obtain ⟨hle, hadmin⟩ := h t u hst hwrite
    exact ⟨hle, .pure hadmin⟩

theorem sets_upsertAdminInfoRecord (record : AdminInfo) :
    Sets s (upsertAdminInfoRecord record) fun t _ => t.HasAdmin record.userId := by
  refine Assures.bind rely_grows (Q := fun t found => ∀ admin, found = some admin →
      t.HasAdmin record.userId)
    (.query fun t _ => ⟨.refl t, fun admin hfound => ?_⟩) fun t found _ hfound => ?_
  · have hchosen := Relation.chosen_of_find? hfound
    exact ⟨admin, Relation.mem_of_find? hfound, beq_iff_eq.mp (Bool.and_eq_true_iff.mp hchosen).1⟩
  · cases found with
    | none => exact sets_setRecord fun u v _ hwrite => grows_insertAdminInfo hwrite
    | some admin =>
      refine sets_setRecord fun u v htu hwrite => ?_
      have hle := grows_assignAdminInfo hwrite
      exact ⟨hle, hle.admins (htu.admins (hfound admin rfl))⟩

theorem sets_seedAdminInfo (hash : String → String) (fresh : String → HexText) (user : User) :
    Sets s (seedAdminInfo hash lower fresh cfg user) fun t _ => t.HasAdmin user.userId := by
  refine Assures.bind rely_grows (Q := fun t found => ∀ admin, found = some admin →
      t.HasAdmin user.userId)
    (.query fun t _ => ⟨.refl t, fun admin hfound => ?_⟩) fun t found _ hfound => ?_
  · obtain ⟨hmem, huser⟩ := Relation.of_find?_key hfound
    exact ⟨admin, hmem, huser⟩
  · cases found with
    | none => exact sets_upsertAdminInfoRecord _
    | some admin => exact .pure (hfound admin rfl)

theorem mem_dedupeTrimmed {values : List String} {value : String} (h : value ∈ values)
    (hproper : value ≠ "" ∧ Text.trim value = value) : value ∈ dedupeTrimmed values := by
  have hfold : ∀ (values out : List String), value ∈ values ∨ value ∈ out →
      value ∈ values.foldl (fun out value =>
        if Text.trim value = "" ∨ Text.trim value ∈ out then out else out ++ [Text.trim value])
        out := by
    intro values
    induction values with
    | nil => exact fun out hmem => hmem.resolve_left List.not_mem_nil
    | cons first rest ih =>
      intro out hmem
      refine ih _ ?_
      dsimp only
      rcases hmem with hmem | hmem
      · rcases List.mem_cons.mp hmem with rfl | hmem
        · rw [hproper.2]
          right
          split
          · rename_i hkept
            exact hkept.resolve_left hproper.1
          · exact List.mem_append_right _ List.mem_cons_self
        · exact .inl hmem
      · right
        split
        · exact hmem
        · exact List.mem_append_left _ hmem
  exact hfold values [] (.inl h)

theorem sets_bindSuperAdmin (hids : s.ProperRoleIds) (user : User) :
    Sets s (bindSuperAdmin user) fun t _ => t.SuperAdmin user.userId := by
  refine Assures.bind rely_grows (Q := fun t found => ∀ role, found = some role →
      t.HasRole role.roleId superAdminCode ∧ role.roleId ≠ "" ∧ Text.trim role.roleId = role.roleId)
    (.query fun t hst => ⟨.refl t, fun role hfound => ?_⟩) fun t found _ hfound => ?_
  · obtain ⟨hmem, hcode⟩ := OpsStore.roleByCode_eq_some hfound
    exact ⟨⟨role, hmem, rfl, hcode⟩, hst.roleIds hids role hmem⟩
  refine Assures.bind rely_grows (Q := fun _ role => found = some role)
    (.orFail fun role hrole => hrole) fun t' role htt' hrole => ?_
  obtain ⟨hrole, hproper⟩ := hfound role hrole
  refine Assures.bind rely_grows (Q := fun u bindings => Grows t u ∧
      bindings = u.userRolesByUser user.userId)
    (.query fun u hle => ⟨.refl u, rely_grows.trans htt' hle, rfl⟩) fun u bindings _ hbindings => ?_
  obtain ⟨htu, rfl⟩ := hbindings
  split
  · -- the role is bound already
    rename_i hbound
    obtain ⟨row, hrow, hsame⟩ := List.any_eq_true.mp hbound
    obtain ⟨hmem, huser⟩ := OpsStore.mem_userRolesByUser.mp hrow
    obtain ⟨role', hrole', hid, hcode⟩ := htu.roles hrole
    exact .pure ⟨role', hrole', hcode, row, hmem, huser, (beq_iff_eq.mp hsame).trans hid.symm⟩
  · refine .execOr (fun v huv w hwrite => ?_) .refl
    refine grows_replaceUserRoles hwrite ((rely_grows.trans htu huv).roles hrole) ?_
    exact mem_dedupeTrimmed (List.mem_append_right _ List.mem_cons_self) hproper

/-- What a start leaves, as far as others keep it. -/
structure OpsStore.Settled (s : OpsStore) (lower : String → String) (cfg : OpsDefaultAdminConfig) :
    Prop where
  roles : ∀ item ∈ builtinOpsRoles, s.Complete item
  admin : cfg.Complete lower → ∃ userId, s.HasUser userId (cfg.storedEmail lower) ∧
    s.HasAdmin userId ∧ s.SuperAdmin userId

theorem OpsStore.Settled.mono {t : OpsStore} (h : s.Settled lower cfg) (hle : Grows s t) :
    t.Settled lower cfg where
  roles item hitem := hle.complete item hitem (h.roles item hitem)
  admin hcfg :=
    have ⟨userId, huser, hadmin, hsuper⟩ := h.admin hcfg
    ⟨userId, hle.users huser, hle.admins hadmin, hle.superAdmins userId hsuper⟩

theorem sets_newDbServices (hids : s.ProperRoleIds) (hash : String → String)
    (fresh : String → HexText) :
    Sets s (newDbServices hash lower fresh cfg) fun t _ => t.Settled lower cfg := by
  refine Assures.bind rely_grows (sets_seedBuiltinOpsRbac fresh) fun t _ hst hroles => ?_
  unfold seedDefaultAdmin
  split
  · refine Assures.bind rely_grows (sets_seedUser fresh) fun u user htu huser => ?_
    refine Assures.bind rely_grows (sets_seedAdminInfo hash fresh user) fun v _ huv hadmin => ?_
    have hle := rely_grows.trans hst (rely_grows.trans htu huv)
    refine ((sets_bindSuperAdmin (hle.roleIds hids) user).also rely_grows
      (P := fun w => Grows v w) (.refl v) fun _ _ hle hv => rely_grows.trans hv hle).mono ?_
    rintro w _ ⟨hvw, hsuper⟩
    have htw := rely_grows.trans htu (rely_grows.trans huv hvw)
    exact ⟨fun item hitem => htw.complete item hitem (hroles item hitem), fun _ =>
      ⟨user.userId, (rely_grows.trans huv hvw).users huser, hvw.admins hadmin, hsuper⟩⟩
  · rename_i hcfg
    exact .pure ⟨hroles, fun h => absurd h hcfg⟩

end Starts

/-! ## Servers that start over one database -/

inductive SeedMove where
  | start (fresh : String → HexText)
  | advance (call : Nat)
  /-- Others write. -/
  | write (s : OpsStore)

abbrev SeedWorld := Interleaving OpsStore AdminEvent Networks.Failure

namespace SeedWorld

variable (hash lower : String → String) (cfg : OpsDefaultAdminConfig)

/-- A server starts, one that starts takes its next statement, or others write rows that take
nothing away from what starts set up. -/
def Step (w : SeedWorld) : SeedMove → SeedWorld → Prop
  | .start fresh, t => t = Interleaving.begin w (newDbServices hash lower fresh cfg)
  | .advance call, t => Interleaving.advance w call = some t
  | .write s, t => Grows w.state s ∧ t = { w with state := s }

end SeedWorld

/-- The roles that the program comes with have their menus and no others, and the administrator that
the configuration names may use every page. -/
structure OpsStore.Ready (s : OpsStore) (lower : String → String) (cfg : OpsDefaultAdminConfig) :
    Prop where
  roles : ∀ item ∈ builtinOpsRoles, s.Complete item
  admin : cfg.Complete lower → ∃ user ∈ s.users, user.email = cfg.storedEmail lower ∧
    (∃ admin ∈ s.admins, admin.userId = user.userId) ∧
    ∀ page, s.Permits user.userId (OpsRoute.view page).menuCode

variable {s : OpsStore} {lower : String → String} {cfg : OpsDefaultAdminConfig}

theorem OpsStore.Settled.ready (h : s.Settled lower cfg) : s.Ready lower cfg where
  roles := h.roles
  admin := by
    intro hcfg
    obtain ⟨userId, ⟨user, huser, rfl, hemail⟩, hadmin, role, hrole, hcode, row, hrow, hsame, hid⟩ :=
      h.admin hcfg
    refine ⟨user, huser, hemail, hadmin, fun page => ⟨row, hrow, hsame, ?_⟩⟩
    obtain ⟨item, hitem, hsuper, hpage⟩ : ∃ item ∈ builtinOpsRoles,
        item.roleCode = superAdminCode ∧ (OpsRoute.view page).menuCode ∈ item.menuCodes := by
      cases page <;> decide
    obtain ⟨role', hrole', hcode', -, hall⟩ := h.roles item hitem
    obtain rfl := role_eq hrole' hrole (.inr ((hcode'.trans hsuper).trans hcode.symm))
    obtain ⟨menu, hmenu, hmenuCode, roleMenu, hroleMenu, hroleId, hmenuId⟩ := hall _ hpage
    exact ⟨roleMenu, hroleMenu, hroleId.trans hid.symm, menu, hmenu, hmenuId.symm, hmenuCode⟩

/-- Every start that goes on leads to what a start leaves. -/
structure SeedWorld.Sound (lower : String → String) (cfg : OpsDefaultAdminConfig) (w : SeedWorld) :
    Prop where
  roleIds : w.state.ProperRoleIds
  calls : w.Ensures Grows Grows fun s => s.Settled lower cfg

theorem SeedWorld.Sound.step {hash : String → String} {w t : SeedWorld} {move : SeedMove}
    (hw : w.Sound lower cfg) (hstep : w.Step hash lower cfg move t) : t.Sound lower cfg := by
  have hkeeps : ∀ s t : OpsStore, Grows s t → s.Settled lower cfg → t.Settled lower cfg :=
    fun _ _ hle hs => hs.mono hle
  cases move with
  | start fresh =>
    obtain rfl := hstep
    exact ⟨hw.roleIds, hw.calls.begin (sets_newDbServices hw.roleIds hash fresh)⟩
  | advance call =>
    obtain ⟨hle, hcalls⟩ := hw.calls.advance rely_grows hkeeps hstep
    exact ⟨hle.roleIds hw.roleIds, hcalls⟩
  | write s =>
    obtain ⟨hle, rfl⟩ := hstep
    exact ⟨hle.roleIds hw.roleIds, hw.calls.withState rely_grows hkeeps hle⟩

/-- Once a server has started, whatever others start or write meanwhile and afterwards, the ops
pages are as the configuration has them. -/
theorem ready_of_started (hash lower : String → String) (cfg : OpsDefaultAdminConfig)
    (s : OpsStore) (hids : s.ProperRoleIds) (w : SeedWorld)
    (h : Reachable (SeedWorld.Step hash lower cfg) (Interleaving.start s) w) (call : Nat)
    (hdone : w.calls[call]? = some (.ret (.ok ()))) : w.state.Ready lower cfg := by
  have hw : w.Sound lower cfg := h.invariant (SeedWorld.Sound lower cfg)
    ⟨hids, Interleaving.ensures_start s⟩ fun _ _ _ hw hstep => hw.step hstep
  exact (hw.calls.returned hdone).ready

/-! ## Two servers that take turns -/

section Samples

/-- The executable moves. -/
def SeedMove.run (hash lower : String → String) (cfg : OpsDefaultAdminConfig) (w : SeedWorld) :
    SeedMove → Option SeedWorld
  | .start fresh => some (Interleaving.begin w (newDbServices hash lower fresh cfg))
  | .advance call => Interleaving.advance w call
  | .write _ => none

def sampleAdmin : OpsDefaultAdminConfig := ⟨true, "admin@local.slan", "admin", "Admin", "password"⟩

/-- Each code is given one digit; no two servers draw the same. -/
def drawn (digit : String) (h : digit.toList.all Netip.isHexDigit = true) (code : String) : HexText :=
  ⟨digit ++ (if code = "ops.users" then "1" else if code = "ops.devices" then "2"
    else if code = "ops.admins" then "3" else if code = "ops.roles" then "4"
    else if code = "ops.menus" then "5" else if code = "ops.relays" then "6"
    else if code = "ops-observer" then "7" else "0"), by
      rw [String.toList_append, List.all_append, h, Bool.true_and]
      split
      · rfl
      repeat first | rfl | split⟩

def noRows : OpsStore := ⟨0, ∅, ∅, ∅, ∅, ∅, ∅, ∅⟩

/-- The servers take turns. The second one fails at the administrator that the first one inserts
before it, and the first one goes on. -/
def twoStarts : List SeedMove :=
  [.start (drawn "a" (.refl true)), .start (drawn "b" (.refl true))] ++
    (List.replicate 25 [.advance 0, .advance 1]).flatten ++ List.replicate 3 (.advance 0)

def afterTwoStarts : SeedWorld :=
  execD (SeedMove.run id id sampleAdmin) (Interleaving.start noRows) twoStarts

theorem reachable_afterTwoStarts :
    Reachable (SeedWorld.Step id id sampleAdmin) (Interleaving.start noRows) afterTwoStarts := by
  refine (Reachable.of_exec .start (exec_eq_execD ?_)).mono fun w move t hs => ?_
  · decide
  · cases move with
    | start fresh => exact (Option.some.inj hs).symm
    | advance call => exact hs
    | write s => cases hs

theorem twoStarts_ready : afterTwoStarts.state.Ready id sampleAdmin :=
  ready_of_started id id sampleAdmin noRows (fun _ h => absurd h (Relation.not_mem_empty _))
    afterTwoStarts reachable_afterTwoStarts 0 rfl

end Samples

end Slan.Ops
