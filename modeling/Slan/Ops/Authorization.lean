import Slan.Lib.Transition
import Slan.Ops.Rbac
import Slan.Ops.Lockout

/-! # Who may use an ops route: the bindings of the moment -/

namespace Slan.Ops

open Transition
open Control (newId opaqueToken)
open Networks (HexText User)
open Program (Keeps Triple)

/-! ## Runs -/

/-- A token that a login has given out. -/
structure Issue where
  token : String
  adminId : String
  time : Nat
  deriving DecidableEq, Repr

structure OpsServer where
  store : OpsStore
  /-- The logins so far, the last one first. -/
  issued : List Issue

inductive OpsMove where
  | login (random : HexText) (req : OpsLoginRequest) (remoteIp : String)
  | request (header : String) (route : OpsRoute)
  /-- The business server writes users. -/
  | users (rows : Relation User User.Clash)
  | pass (milliseconds : Nat)

namespace OpsServer

/-- No login yet. -/
def start (s : OpsStore) : OpsServer := ⟨{ s with tokens := ∅ }, []⟩

def step (hash lower : String → String) (accessToken : String) (w : OpsServer) :
    OpsMove → Option OpsServer
  | .login random req remoteIp =>
    match (loginAdmin hash lower random req remoteIp).run w.store with
    | (.ok response, store) =>
      some ⟨store, ⟨response.accessToken, response.adminId, w.store.now⟩ :: w.issued⟩
    | (.error _, store) => some { w with store }
  | .request header route =>
    some { w with store := (route.serve hash lower accessToken header).after w.store }
  | .users rows => some { w with store := { w.store with users := rows } }
  | .pass milliseconds =>
    some { w with store := { w.store with now := w.store.now + milliseconds } }

/-- The handler of the route is reached. -/
def Executes (accessToken : String) (w : OpsServer) (header : String) (route : OpsRoute) : Prop :=
  ((route.guard accessToken header).run w.store).1 = .ok ()

end OpsServer

/-! ## What is to decide -/

/-- Some role that is bound to the user is bound to the menu. -/
def OpsStore.Permits (s : OpsStore) (userId menuCode : String) : Prop :=
  ∃ userRole ∈ s.userRoles, userRole.userId = userId ∧
    ∃ roleMenu ∈ s.roleMenus, roleMenu.roleId = userRole.roleId ∧
      ∃ menu ∈ s.menus, menu.menuId = roleMenu.menuId ∧ menu.menuCode = menuCode

/-- The static token, or one that a login has given to an administrator within its lifetime, who is
active and permitted now. -/
def OpsServer.Authorized (accessToken : String) (w : OpsServer) (header menuCode : String) : Prop :=
  ∃ token, bearerToken header = some token ∧ (token = accessToken ∨
    ∃ issue ∈ w.issued, issue.token = token ∧ w.store.now < issue.time + OpsStore.opsTokenTtl ∧
      ∃ admin ∈ w.store.admins, admin.adminId = issue.adminId ∧ admin.status = "active" ∧
        w.store.Permits admin.userId menuCode)

/-! ## One request -/

namespace OpsStore

variable {s : OpsStore}

theorem adminInfoById_eq_some {adminId : String} {admin : AdminInfo} :
    s.adminInfoById adminId = some admin ↔ admin ∈ s.admins ∧ admin.adminId = adminId := by
  refine ⟨Relation.of_find?_key, fun ⟨hmem, hid⟩ => ?_⟩
  refine Relation.find?_eq_some_of_mem (fun a b ha hb => ?_) hmem (beq_iff_eq.mpr hid)
  exact .inl ((beq_iff_eq.mp ha).trans (beq_iff_eq.mp hb).symm)

theorem menuByCode_eq_some {menuCode : String} {menu : Menu} :
    s.menuByCode menuCode = some menu ↔ menu ∈ s.menus ∧ menu.menuCode = menuCode := by
  refine ⟨Relation.of_find?_key, fun ⟨hmem, hcode⟩ => ?_⟩
  refine Relation.find?_eq_some_of_mem (fun a b ha hb => ?_) hmem (beq_iff_eq.mpr hcode)
  exact .inr ((beq_iff_eq.mp ha).trans (beq_iff_eq.mp hb).symm)

theorem mem_userRolesByUser {userId : String} {row : UserRole} :
    row ∈ s.userRolesByUser userId ↔ row ∈ s.userRoles ∧ row.userId = userId := by
  unfold userRolesByUser
  rw [Relation.mem_orderBy, Relation.mem_select, beq_iff_eq]

theorem mem_listRoleMenus {row : RoleMenu} : row ∈ s.listRoleMenus ↔ row ∈ s.roleMenus :=
  Relation.mem_orderBy

end OpsStore

section Requests

variable {s t : OpsStore}

theorem run_lookupOr_eq_ok {α : Type} {err : Control.ServiceError} {f : OpsStore → Option α}
    {a : α} : (lookupOr err f).run s = (.ok a, t) ↔ f s = some a ∧ s = t := by
  unfold lookupOr
  rw [Program.run_bind_eq_ok]
  constructor
  · rintro ⟨row, u, hquery, hfound⟩
    obtain ⟨rfl, rfl⟩ := Program.run_query_eq_ok.mp hquery
    exact Program.run_orFail_eq_ok.mp hfound
  · rintro ⟨hfound, rfl⟩
    exact ⟨f s, s, rfl, Program.run_orFail_eq_ok.mpr ⟨hfound, rfl⟩⟩

theorem not_run_refuse_eq_ok {α : Type} {err : Control.ServiceError} {a : α} :
    (refuse err : OpsCall α).run s ≠ (.ok a, t) := Program.not_run_fail_eq_ok

/-- A valid token of an active administrator who has some role. -/
theorem run_authenticateAdminToken_eq_ok {accessToken adminId : String} :
    (authenticateAdminToken accessToken).run s = (.ok adminId, t) ↔
      s.authenticateOpsAccessToken accessToken = some adminId ∧
      (∃ admin ∈ s.admins, admin.adminId = adminId ∧ admin.status = "active" ∧
        s.userRolesByUser admin.userId ≠ []) ∧ s = t := by
  unfold authenticateAdminToken
  rw [Program.run_bind_eq_ok]
  constructor
  · rintro ⟨found, u, hlookup, hrest⟩
    obtain ⟨htoken, rfl⟩ := run_lookupOr_eq_ok.mp hlookup
    obtain ⟨admin, u, hlookup', hrun⟩ := Program.run_bind_eq_ok.mp hrest
    obtain ⟨hadmin, rfl⟩ := run_lookupOr_eq_ok.mp hlookup'
    obtain ⟨hmem, hid⟩ := OpsStore.adminInfoById_eq_some.mp hadmin
    split at hrun
    · exact absurd hrun not_run_refuse_eq_ok
    · rename_i hactive
      obtain ⟨userRoles, u, hroles, hlast⟩ := Program.run_bind_eq_ok.mp hrun
      obtain ⟨rfl, rfl⟩ := Program.run_query_eq_ok.mp hroles
      split at hlast
      · exact absurd hlast not_run_refuse_eq_ok
      · rename_i hsome
        obtain ⟨rfl, rfl⟩ := Program.run_pure_eq_ok.mp hlast
        exact ⟨htoken, ⟨admin, hmem, hid, not_not.mp hactive, hsome⟩, rfl⟩
  · rintro ⟨htoken, ⟨admin, hmem, hid, hactive, hsome⟩, rfl⟩
    refine ⟨adminId, s, run_lookupOr_eq_ok.mpr ⟨htoken, rfl⟩, Program.run_bind_eq_ok.mpr ?_⟩
    refine ⟨admin, s, run_lookupOr_eq_ok.mpr
      ⟨OpsStore.adminInfoById_eq_some.mpr ⟨hmem, hid⟩, rfl⟩, ?_⟩
    rw [if_neg (not_not.mpr hactive)]
    refine Program.run_bind_eq_ok.mpr ⟨s.userRolesByUser admin.userId, s, rfl, ?_⟩
    rw [if_neg hsome]
    rfl

/-- The menu, and a role of the user that is bound to it. -/
theorem run_authorizeAdminMenu_eq_ok {adminId menuCode : String} (hid : Text.trim adminId = adminId)
    (hnamed : adminId ≠ "") (hmenu : Text.trim menuCode = menuCode) (hcode : menuCode ≠ "") :
    (authorizeAdminMenu adminId menuCode).run s = (.ok (), t) ↔
      (∃ admin ∈ s.admins, admin.adminId = adminId ∧ s.Permits admin.userId menuCode) ∧ s = t := by
  unfold authorizeAdminMenu
  rw [hid, hmenu, if_neg (not_or.mpr ⟨hnamed, hcode⟩), Program.run_bind_eq_ok]
  constructor
  · rintro ⟨admin, u, hlookup, hrest⟩
    obtain ⟨hadmin, rfl⟩ := run_lookupOr_eq_ok.mp hlookup
    obtain ⟨hmem, hadminId⟩ := OpsStore.adminInfoById_eq_some.mp hadmin
    obtain ⟨menu, u, hlookup', hrun⟩ := Program.run_bind_eq_ok.mp hrest
    obtain ⟨hfound, rfl⟩ := run_lookupOr_eq_ok.mp hlookup'
    obtain ⟨hmenuMem, hmenuCode⟩ := OpsStore.menuByCode_eq_some.mp hfound
    obtain ⟨userRoles, u, hroles, hlast⟩ := Program.run_bind_eq_ok.mp hrun
    obtain ⟨rfl, rfl⟩ := Program.run_query_eq_ok.mp hroles
    split at hlast
    · exact absurd hlast not_run_refuse_eq_ok
    · obtain ⟨bindings, u, hbindings, hend⟩ := Program.run_bind_eq_ok.mp hlast
      obtain ⟨rfl, rfl⟩ := Program.run_query_eq_ok.mp hbindings
      split at hend
      · rename_i hany
        obtain ⟨-, rfl⟩ := Program.run_pure_eq_ok.mp hend
        obtain ⟨roleMenu, hroleMenu, hboth⟩ := List.any_eq_true.mp hany
        obtain ⟨hsameMenu, hbound⟩ := Bool.and_eq_true_iff.mp hboth
        obtain ⟨userRole, huserRole, hsameRole⟩ := List.any_eq_true.mp hbound
        obtain ⟨huserRole, huser⟩ := OpsStore.mem_userRolesByUser.mp huserRole
        refine ⟨⟨admin, hmem, hadminId, userRole, huserRole, huser, roleMenu,
          OpsStore.mem_listRoleMenus.mp hroleMenu, (beq_iff_eq.mp hsameRole).symm, menu, hmenuMem,
          (beq_iff_eq.mp hsameMenu).symm, hmenuCode⟩, rfl⟩
      · exact absurd hend not_run_refuse_eq_ok
  · rintro ⟨⟨admin, hmem, hadminId, userRole, huserRole, huser, roleMenu, hroleMenu, hsameRole, menu,
      hmenuMem, hsameMenu, hmenuCode⟩, rfl⟩
    have hbound := OpsStore.mem_userRolesByUser.mpr ⟨huserRole, huser⟩
    refine ⟨admin, s, run_lookupOr_eq_ok.mpr
      ⟨OpsStore.adminInfoById_eq_some.mpr ⟨hmem, hadminId⟩, rfl⟩, Program.run_bind_eq_ok.mpr ?_⟩
    refine ⟨menu, s, run_lookupOr_eq_ok.mpr
      ⟨OpsStore.menuByCode_eq_some.mpr ⟨hmenuMem, hmenuCode⟩, rfl⟩, Program.run_bind_eq_ok.mpr ?_⟩
    refine ⟨s.userRolesByUser admin.userId, s, rfl, ?_⟩
    rw [if_neg (List.ne_nil_of_mem hbound)]
    refine Program.run_bind_eq_ok.mpr ⟨s.listRoleMenus, s, rfl, ?_⟩
    rw [if_pos]
    · rfl
    · refine List.any_eq_true.mpr ⟨roleMenu, OpsStore.mem_listRoleMenus.mpr hroleMenu, ?_⟩
      refine Bool.and_eq_true_iff.mpr ⟨beq_iff_eq.mpr hsameMenu.symm, ?_⟩
      exact List.any_eq_true.mpr ⟨userRole, hbound, beq_iff_eq.mpr hsameRole.symm⟩

end Requests

/-! ## Identifiers and tokens -/

/-- An identifier that `NewID` has given to an administrator. -/
def IsAdminId (adminId : String) : Prop := ∃ digits : HexText, adminId = newId "admin" digits

section Identifiers

theorem isHexDigit_of_mem {digits : HexText} {c : Char} (h : c ∈ digits.val.toList) :
    Netip.isHexDigit c = true := List.all_eq_true.mp digits.property c h

theorem toList_newId (kind random : String) :
    (newId kind random).toList = kind.toList ++ '-' :: random.toList := by
  rw [newId, String.toList_append, String.toList_append, List.append_assoc]
  rfl

theorem IsAdminId.trim {adminId : String} (h : IsAdminId adminId) :
    Text.trim adminId = adminId := by
  obtain ⟨digits, rfl⟩ := h
  refine Text.trim_of_forall_not fun c hc => ?_
  rw [toList_newId, List.mem_append, List.mem_cons] at hc
  rcases hc with hc | rfl | hc
  · have hkind : ['a', 'd', 'm', 'i', 'n'].all (fun c => !Text.isSpace c) = true := by decide
    exact Bool.not_eq_true' _ ▸ List.all_eq_true.mp hkind c hc
  · decide
  · exact Netip.isSpace_of_isHexDigit (isHexDigit_of_mem hc)

theorem IsAdminId.ne_empty {adminId : String} (h : IsAdminId adminId) : adminId ≠ "" := by
  obtain ⟨digits, rfl⟩ := h
  intro hempty
  have hlist := congrArg String.toList hempty
  rw [toList_newId] at hlist
  cases hlist

theorem IsAdminId.count_colon {adminId : String} (h : IsAdminId adminId) :
    adminId.toList.count ':' = 0 := by
  obtain ⟨digits, rfl⟩ := h
  refine List.count_eq_zero.mpr fun hc => ?_
  rw [toList_newId, List.mem_append, List.mem_cons] at hc
  rcases hc with hc | hc | hc
  · exact absurd hc (by decide : ':' ∉ ['a', 'd', 'm', 'i', 'n'])
  · exact absurd hc (by decide)
  · exact absurd (isHexDigit_of_mem hc) (by decide)

/-- A token tells whom it is for. -/
theorem adminId_of_opsAccessToken {a b : String} {random random' : HexText} (ha : IsAdminId a)
    (hb : IsAdminId b)
    (h : opaqueToken "ops-access" a random = opaqueToken "ops-access" b random') : a = b := by
  have hjoin : ∀ id last : String, ("ops-access" ++ ":" ++ id ++ ":" ++ last).toList =
      "ops-access:".toList ++ (id.toList ++ ':' :: last.toList) := by
    intro id last
    rw [String.toList_append, String.toList_append, String.toList_append, List.append_assoc,
      List.append_assoc]
    rfl
  have hbytes := Text.utf8_injective (Base64.encode_injective _ (String.ofList_injective h))
  have hlist := congrArg String.toList hbytes
  rw [hjoin, hjoin] at hlist
  have hsame := List.append_cancel_left hlist
  exact String.toList_inj.mp
    (Text.append_sep_inj (ha.count_colon.trans hb.count_colon.symm) hsame).1

end Identifiers

/-! ## What the calls leave of the tokens -/

/-- The tokens and the time of a store whose administrators have identifiers of their own. -/
structure Holding (tokens : Table StoredOpsToken) (now : Nat) (s : OpsStore) : Prop where
  tokens : s.tokens = tokens
  now : s.now = now
  ids : ∀ a ∈ s.admins, IsAdminId a.adminId

section Holding

variable {tokens : Table StoredOpsToken} {now : Nat}

theorem Holding.updateAdmin {s : OpsStore} (h : Holding tokens now s) (adminId : String)
    (f : AdminInfo → AdminInfo)
    (hf : ∀ row, (f row).adminId = row.adminId ∧ (f row).userId = row.userId ∧
      (f row).loginName = row.loginName) : Holding tokens now (s.updateAdmin adminId f hf) := by
  refine ⟨h.tokens, h.now, fun a ha => ?_⟩
  rw [Relation.mem_def, OpsStore.rows_updateAdmin] at ha
  obtain ⟨b, hb, rfl⟩ := List.mem_map.mp ha
  split
  · rw [(hf b).1]
    exact h.ids b hb
  · exact h.ids b hb

theorem keeps_lookupOr {α : Type} {P : OpsStore → Prop} (err : Control.ServiceError)
    (f : OpsStore → Option α) : Keeps P (lookupOr err f) :=
  (Keeps.query _).bind fun _ => .orFail _ _

/-- A write that leaves tokens, time and administrators alone, or is refused. -/
theorem keeps_execOr {write : OpsStore → Option OpsStore}
    (h : ∀ s t, write s = some t → t.tokens = s.tokens ∧ t.now = s.now ∧ t.admins = s.admins) :
    Keeps (Holding tokens now) (Program.execOr Networks.Failure.database write : OpsCall Unit) := by
  refine Triple.keeps (Triple.execOr (Q := fun _ => Holding tokens now)
    (E := fun _ => Holding tokens now) (fun s hs t hwrite => ?_) fun _ hs _ => hs)
    (fun _ _ h => h) fun _ _ h => h
  obtain ⟨htokens, hnow, hadmins⟩ := h s t hwrite
  exact ⟨htokens.trans hs.tokens, hnow.trans hs.now, hadmins ▸ hs.ids⟩

theorem keeps_execNoting {note : OpsStore → List AdminEvent} {write : OpsStore → OpsStore}
    (h : ∀ s, Holding tokens now s → Holding tokens now (write s)) :
    Keeps (Holding tokens now) (Program.execNoting note write : OpsCall Unit) :=
  Triple.keeps (Triple.execNoting (Q := fun _ => Holding tokens now)
    (E := fun _ => Holding tokens now) h) (fun _ _ h => h) fun _ _ h => h

theorem keeps_changeAdminPassword (hash : String → String) (adminId : String)
    (req : ChangeAdminPasswordRequest) :
    Keeps (Holding tokens now) (changeAdminPassword hash adminId req) := by
  unfold changeAdminPassword
  split
  · exact .fail _
  split
  · exact .fail _
  exact (keeps_lookupOr _ _).bind fun _ => (Keeps.query _).bind fun _ =>
    keeps_execNoting fun _ hs => hs.updateAdmin _ _ _

theorem keeps_unlockAdmin (adminId : String) :
    Keeps (Holding tokens now) (unlockAdmin adminId) := by
  unfold unlockAdmin
  split
  · exact .fail _
  exact (keeps_lookupOr _ _).bind fun _ => keeps_execNoting fun _ hs => hs.updateAdmin _ _ _

theorem keeps_createRole (random : HexText) (req : CreateRoleRequest) :
    Keeps (Holding tokens now) (createRole random req) := by
  unfold createRole
  split
  · exact .fail _
  refine (Keeps.query _).bind fun existing => ?_
  cases existing with
  | some _ => exact .fail _
  | none =>
    refine (keeps_execOr fun s t ht => ?_).bind fun _ => .pure _
    obtain ⟨_, -, rfl⟩ := Option.map_eq_some_iff.mp ht
    exact ⟨rfl, rfl, rfl⟩

theorem keeps_createMenu (random : HexText) (req : CreateMenuRequest) :
    Keeps (Holding tokens now) (createMenu random req) := by
  unfold createMenu
  split
  · exact .fail _
  refine (Keeps.query _).bind fun existing => ?_
  cases existing with
  | some _ => exact .fail _
  | none =>
    have hinsert : ∀ record : Menu, Keeps (Holding tokens now)
        (do
          Program.execOr Networks.Failure.database fun s => s.insertMenu record
          pure record : OpsCall Menu) := by
      intro record
      refine (keeps_execOr fun s t ht => ?_).bind fun _ => .pure _
      obtain ⟨_, -, rfl⟩ := Option.map_eq_some_iff.mp ht
      exact ⟨rfl, rfl, rfl⟩
    dsimp only
    split
    · exact (keeps_lookupOr _ _).void.bind fun _ => hinsert _
    · exact hinsert _

theorem keeps_assignUserRoles (userId : String) (req : AssignUserRolesRequest) :
    Keeps (Holding tokens now) (assignUserRoles userId req) := by
  unfold assignUserRoles
  split
  · exact .fail _
  refine (keeps_lookupOr _ _).bind fun _ =>
    (Keeps.forEach (fun _ => (keeps_lookupOr _ _).void) _).bind fun _ =>
      keeps_execOr fun s t ht => ?_
  obtain ⟨_, -, rfl⟩ := Option.map_eq_some_iff.mp ht
  exact ⟨rfl, rfl, rfl⟩

theorem keeps_assignRoleMenus (roleId : String) (req : AssignRoleMenusRequest) :
    Keeps (Holding tokens now) (assignRoleMenus roleId req) := by
  unfold assignRoleMenus
  split
  · exact .fail _
  refine (keeps_lookupOr _ _).bind fun _ =>
    (Keeps.forEach (fun _ => (keeps_lookupOr _ _).void) _).bind fun _ =>
      keeps_execOr fun s t ht => ?_
  obtain ⟨_, -, rfl⟩ := Option.map_eq_some_iff.mp ht
  exact ⟨rfl, rfl, rfl⟩

theorem keeps_setRecord {record : AdminInfo} (hid : IsAdminId record.adminId)
    {write : OpsStore → Option OpsStore}
    (h : ∀ s t, write s = some t → t.tokens = s.tokens ∧ t.now = s.now ∧
      ∀ a ∈ t.admins, a.adminId = record.adminId ∨ ∃ b ∈ s.admins, a.adminId = b.adminId) :
    Keeps (Holding tokens now) (setRecord record write) := by
  refine Program.Each.keeps (Program.each_stmt.mpr ⟨fun s hs => ?_, fun _ => Program.each_ret _⟩)
  dsimp only
  cases hwrite : write s with
  | none => exact hs
  | some t =>
    rw [Option.getD_some]
    obtain ⟨htokens, hnow, hadmins⟩ := h s t hwrite
    refine ⟨htokens.trans hs.tokens, hnow.trans hs.now, fun a ha => ?_⟩
    rcases hadmins a ha with heq | ⟨b, hb, heq⟩
    · exact heq ▸ hid
    · exact heq ▸ hs.ids b hb

theorem keeps_upsertAdminInfoRecord {record : AdminInfo} (hid : IsAdminId record.adminId) :
    Keeps (Holding tokens now) (upsertAdminInfoRecord record) := by
  unfold upsertAdminInfoRecord
  refine (Keeps.query _).bind fun found => ?_
  cases found with
  | some _ =>
    refine keeps_setRecord hid fun s t ht => ?_
    obtain ⟨admins, hadmins, rfl⟩ := Option.map_eq_some_iff.mp ht
    refine ⟨rfl, rfl, fun a ha => ?_⟩
    obtain ⟨b, hb, rfl⟩ := (Relation.mem_update hadmins).mp ha
    split
    · exact .inl rfl
    · exact .inr ⟨b, hb, rfl⟩
  | none =>
    refine keeps_setRecord hid fun s t ht => ?_
    obtain ⟨admins, hadmins, rfl⟩ := Option.map_eq_some_iff.mp ht
    refine ⟨rfl, rfl, fun a ha => ?_⟩
    rcases (Relation.mem_insert hadmins).mp ha with hold | rfl
    · exact .inr ⟨a, hold, rfl⟩
    · exact .inl rfl

theorem triple_withPassword {P : OpsStore → Prop} (hash : String → String) (password : String)
    (record : AdminInfo) :
    Triple P (withPassword hash password record)
      (fun found s => P s ∧ found.adminId = record.adminId) fun _ => P := by
  unfold withPassword
  split
  · exact .pure fun _ hs => ⟨hs, rfl⟩
  split
  · exact .fail fun _ hs => hs
  exact .bind (R := fun _ => P) (.query fun _ hs => hs) fun _ => .pure fun _ hs => ⟨hs, rfl⟩

theorem keeps_upsertAdminInfo (hash lower : String → String) (random : HexText)
    (req : UpsertAdminInfoRequest) :
    Keeps (Holding tokens now) (upsertAdminInfo hash lower random req) := by
  unfold upsertAdminInfo
  split
  · exact .fail _
  refine (keeps_lookupOr _ _).bind fun user => ?_
  have hreads : Program.Each Program.Reads
      (readAdmin fun s => s.adminInfoByUserId (Text.trim req.userId)) :=
    Program.each_stmt.mpr ⟨fun _ => rfl, fun _ => Program.each_ret _⟩
  -- an account keeps its identifier, a new one gets one
  refine Triple.keeps (Q := fun _ => Holding tokens now) (E := fun _ => Holding tokens now)
    (Triple.bind (R := fun existing s => Holding tokens now s ∧
      IsAdminId (profileRecord lower random req existing).adminId)
      (hreads.triple (fun s existing hs hrun => ⟨hs, ?_⟩) fun _ _ hs => hs)
      fun existing => .of_and fun hid => ?_) (fun _ _ hs => hs) fun _ _ hs => hs
  · obtain rfl := Except.ok.inj (Prod.mk.inj hrun).1
    dsimp only
    cases hfound : s.adminInfoByUserId (Text.trim req.userId) with
    | none => exact ⟨random, rfl⟩
    | some existing => exact hs.ids existing (Relation.mem_of_find? hfound)
  · refine .bind (triple_withPassword hash req.password _) fun record => .of_and fun heq => ?_
    refine Keeps.triple ?_
    split
    · exact .fail _
    · exact (keeps_upsertAdminInfoRecord (heq ▸ hid)).bind fun _ => .pure _

/-- A login that succeeds stores its token; one that fails stores none. -/
theorem triple_enterOps (random : HexText) (remoteIp : String) {admin : AdminInfo} :
    Triple (Holding tokens now) (enterOps random remoteIp admin)
      (fun response => fun s => response.adminId = admin.adminId ∧
        response.accessToken = opsAccessToken admin random ∧
        Holding (tokens.put (opsAccessToken admin random)
          ⟨admin.adminId, now + OpsStore.opsTokenTtl⟩) now s)
      fun _ => Holding tokens now := by
  unfold enterOps
  refine .bind (R := fun _ => Holding tokens now) (.query fun _ hs => hs) fun userRoles => ?_
  split
  · exact .fail fun _ hs => hs
  refine .bind (R := fun _ => Holding (tokens.put (opsAccessToken admin random)
    ⟨admin.adminId, now + OpsStore.opsTokenTtl⟩) now) (.exec fun s hs => ?_) fun _ => ?_
  · refine ⟨?_, hs.now, hs.ids⟩
    unfold OpsStore.storeOpsAccessToken
    rw [hs.tokens, hs.now]
  refine .bind (R := fun _ => Holding _ now) (.query fun _ hs => hs) fun time => ?_
  refine .bind (R := fun _ => Holding _ now) (.execNoting fun s hs => hs.updateAdmin _ _ _)
    fun _ => ?_
  exact .pure fun s hs => ⟨rfl, rfl, hs⟩

theorem triple_loginAdmin (hash lower : String → String) (random : HexText)
    (req : OpsLoginRequest) (remoteIp : String) :
    Triple (Holding tokens now) (loginAdmin hash lower random req remoteIp)
      (fun response => fun s => IsAdminId response.adminId ∧
        response.accessToken = opaqueToken "ops-access" response.adminId random ∧
        Holding (tokens.put response.accessToken
          ⟨response.adminId, now + OpsStore.opsTokenTtl⟩) now s)
      fun _ => Holding tokens now := by
  unfold loginAdmin
  split
  · exact .fail fun _ hs => hs
  have hreads : Program.Each Program.Reads
      (readAdmin fun s => s.adminInfoByLoginName (Text.trim (lower req.loginName))) :=
    Program.each_stmt.mpr ⟨fun _ => rfl, fun _ => Program.each_ret _⟩
  refine .bind (R := fun found s => Holding tokens now s ∧
    ∀ admin, found = some admin → IsAdminId admin.adminId)
    (hreads.triple (fun s found hs hrun => ⟨hs, fun admin hadmin => ?_⟩) fun _ _ hs => hs)
    fun found => .of_and fun hids => ?_
  · obtain rfl := Except.ok.inj (Prod.mk.inj hrun).1
    exact hs.ids admin (Relation.mem_of_find? hadmin)
  refine .bind (R := fun admin s => Holding tokens now s ∧ IsAdminId admin.adminId)
    (.orFail (fun admin hadmin s hs => ⟨hs, hids admin hadmin⟩) fun _ _ hs => hs)
    fun admin => .of_and fun hid => ?_
  split
  · exact .fail fun _ hs => hs
  have hcheck : Program.Each Program.Reads (checkPassword hash admin req.password) :=
    Program.each_stmt.mpr ⟨fun _ => rfl, fun _ => Program.each_ret _⟩
  refine .bind (R := fun _ => Holding tokens now)
    (hcheck.triple (fun _ _ hs _ => hs) fun _ _ hs => hs) fun time => ?_
  split
  · exact .fail fun _ hs => hs
  split
  · refine (triple_enterOps random remoteIp).imp (fun _ hs => hs) (fun response s hs => ?_)
      fun _ _ hs => hs
    obtain ⟨hadmin, htoken, hholding⟩ := hs
    refine ⟨hadmin ▸ hid, htoken.trans ?_, ?_⟩
    · rw [opsAccessToken, hadmin]
    · rwa [htoken, hadmin]
  · refine .bind (R := fun _ => Holding tokens now) (Keeps.triple ?_) fun _ => .fail fun _ hs => hs
    unfold failLogin lockAfter
    refine Keeps.bind ?_ fun _ => keeps_execNoting fun _ hs => hs.updateAdmin _ _ _
    split
    · exact (Keeps.query _).bind fun _ => .pure _
    · exact .pure _

theorem keeps_serve (hash lower : String → String) (accessToken header : String)
    (route : OpsRoute) :
    Keeps (Holding tokens now) (route.serve hash lower accessToken header) := by
  have htoken : ∀ token, Keeps (Holding tokens now) (authenticateAdminToken token) := by
    intro token
    refine (keeps_lookupOr _ _).bind fun _ => (keeps_lookupOr _ _).bind fun admin => ?_
    split
    · exact .fail _
    refine (Keeps.query _).bind fun userRoles => ?_
    split
    · exact .fail _
    · exact .pure _
  have hmenu : ∀ adminId menuCode, Keeps (Holding tokens now)
      (authorizeAdminMenu adminId menuCode) := by
    intro adminId menuCode
    unfold authorizeAdminMenu
    split
    · exact .fail _
    refine (keeps_lookupOr _ _).bind fun _ => (keeps_lookupOr _ _).bind fun _ =>
      (Keeps.query _).bind fun userRoles => ?_
    split
    · exact .fail _
    refine (Keeps.query _).bind fun bindings => ?_
    split
    · exact .pure _
    · exact .fail _
  have hguard : Keeps (Holding tokens now) (route.guard accessToken header) := by
    refine Keeps.bind ?_ fun caller => ?_
    · unfold authenticateOps
      split
      · exact .fail _
      split
      · exact .pure _
      · exact (htoken _).bind fun _ => .pure _
    · unfold authorizeOpsMenu
      split
      · exact .pure _
      split
      · exact .fail _
      · exact hmenu _ _
  refine hguard.bind fun _ => ?_
  cases route with
  | view page => exact .pure _
  | upsertAdmin random req => exact (keeps_upsertAdminInfo hash lower random req).void
  | changePassword adminId req => exact keeps_changeAdminPassword hash adminId req
  | unlock adminId => exact keeps_unlockAdmin adminId
  | createRole random req => exact (keeps_createRole random req).void
  | assignUserRoles userId req => exact keeps_assignUserRoles userId req
  | createMenu random req => exact (keeps_createMenu random req).void
  | assignRoleMenus roleId req => exact keeps_assignRoleMenus roleId req

end Holding

/-! ## Rejected assignments -/

/-- A call that writes last fails before it has written anything. -/
theorem triple_same_of_lookups {p : OpsCall Unit} (hreads : Program.Each Program.Reads p)
    (write : OpsStore → Option OpsStore) (s : OpsStore) :
    Triple (· = s) (p >>= fun _ => Program.execOr Networks.Failure.database write)
      (fun _ _ => True) fun _ t => t = s :=
  .bind (R := fun _ => (· = s)) (hreads.keeps_of_reads).triple fun _ =>
    .execOr (fun _ _ _ _ => trivial) fun _ ht _ => ht

theorem each_reads_lookupOr {α : Type} (err : Control.ServiceError) (f : OpsStore → Option α) :
    Program.Each Program.Reads (lookupOr err f) :=
  (Program.Each.query Program.reads_query f).bind fun _ => .orFail _ _

theorem assignUserRoles_of_error {userId : String} {req : AssignUserRolesRequest} {s t : OpsStore}
    {err : Networks.Failure} (h : (assignUserRoles userId req).run s = (.error err, t)) : t = s := by
  unfold assignUserRoles at h
  split at h
  · exact (Prod.mk.inj h).2.symm
  · rw [← Program.bind_assoc] at h
    refine (triple_same_of_lookups ?_ _ s).of_run_error rfl h
    exact (each_reads_lookupOr _ _).bind fun _ =>
      .forEach (fun _ => (each_reads_lookupOr _ _).void) _

theorem assignRoleMenus_of_error {roleId : String} {req : AssignRoleMenusRequest} {s t : OpsStore}
    {err : Networks.Failure} (h : (assignRoleMenus roleId req).run s = (.error err, t)) : t = s := by
  unfold assignRoleMenus at h
  split at h
  · exact (Prod.mk.inj h).2.symm
  · rw [← Program.bind_assoc] at h
    refine (triple_same_of_lookups ?_ _ s).of_run_error rfl h
    exact (each_reads_lookupOr _ _).bind fun _ =>
      .forEach (fun _ => (each_reads_lookupOr _ _).void) _

/-! ## Runs -/

namespace OpsServer

/-- The tokens in the store are those that the logins gave out, each until it expires. -/
structure Issued (w : OpsServer) : Prop where
  ids : ∀ a ∈ w.store.admins, IsAdminId a.adminId
  issues : ∀ i ∈ w.issued, IsAdminId i.adminId ∧
    ∃ random : HexText, i.token = opaqueToken "ops-access" i.adminId random
  past : ∀ i ∈ w.issued, i.time ≤ w.store.now
  stored : ∀ token stored, w.store.tokens.get? token = some stored → ∃ i ∈ w.issued,
    i.token = token ∧ i.adminId = stored.adminId ∧ stored.expiresAt = i.time + OpsStore.opsTokenTtl
  kept : ∀ i ∈ w.issued, ∃ stored, w.store.tokens.get? i.token = some stored ∧
    stored.adminId = i.adminId ∧ i.time + OpsStore.opsTokenTtl ≤ stored.expiresAt

theorem issued_start {s : OpsStore} (h : ∀ a ∈ s.admins, IsAdminId a.adminId) :
    Issued (start s) where
  ids := h
  issues _ hi := absurd hi List.not_mem_nil
  past _ hi := absurd hi List.not_mem_nil
  stored token stored hstored := by
    rw [show (start s).store.tokens = ∅ from rfl, Table.get?_empty] at hstored
    cases hstored
  kept _ hi := absurd hi List.not_mem_nil

theorem Issued.holding {w : OpsServer} (h : Issued w) :
    Holding w.store.tokens w.store.now w.store := ⟨rfl, rfl, h.ids⟩

theorem Issued.of_holding {w : OpsServer} (h : Issued w) {s : OpsStore}
    (hs : Holding w.store.tokens w.store.now s) : Issued { w with store := s } where
  ids := hs.ids
  issues := h.issues
  past := by
    rw [hs.now]
    exact h.past
  stored := by
    rw [hs.tokens]
    exact h.stored
  kept := by
    rw [hs.tokens]
    exact h.kept

/-- A login that succeeds. -/
theorem Issued.login {w : OpsServer} (h : Issued w) {s : OpsStore} {token adminId : String}
    (hid : IsAdminId adminId) (random : HexText)
    (htoken : token = opaqueToken "ops-access" adminId random)
    (hs : Holding (w.store.tokens.put token ⟨adminId, w.store.now + OpsStore.opsTokenTtl⟩)
      w.store.now s) : Issued ⟨s, ⟨token, adminId, w.store.now⟩ :: w.issued⟩ where
  ids := hs.ids
  issues i hi := by
    rcases List.mem_cons.mp hi with rfl | hi
    · exact ⟨hid, random, htoken⟩
    · exact h.issues i hi
  past i hi := by
    dsimp only at hi ⊢
    rw [hs.now]
    rcases List.mem_cons.mp hi with rfl | hi
    · exact Nat.le_refl _
    · exact h.past i hi
  stored other stored hstored := by
    dsimp only at hstored
    rw [hs.tokens, Table.get?_put] at hstored
    split at hstored
    · rename_i heq
      obtain rfl := Option.some.inj hstored
      exact ⟨_, List.mem_cons_self, heq.symm, rfl, rfl⟩
    · obtain ⟨i, hi, hstored⟩ := h.stored other stored hstored
      exact ⟨i, List.mem_cons_of_mem _ hi, hstored⟩
  kept i hi := by
    dsimp only at hi ⊢
    rw [hs.tokens, Table.get?_put]
    rcases List.mem_cons.mp hi with rfl | hi
    · exact ⟨_, if_pos rfl, rfl, Nat.le_refl _⟩
    · split
      · -- a token that is given out again is given to the same administrator
        rename_i heq
        obtain ⟨hid', random', htoken'⟩ := h.issues i hi
        have hsame := adminId_of_opsAccessToken hid hid' (htoken.symm.trans (heq.symm.trans htoken'))
        have hpast := h.past i hi
        exact ⟨_, rfl, hsame, Nat.add_le_add_right hpast _⟩
      · exact h.kept i hi

theorem Issued.step {hash lower : String → String} {accessToken : String} {w t : OpsServer}
    {a : OpsMove} (h : Issued w) (hstep : step hash lower accessToken w a = some t) : Issued t := by
  cases a with
  | login random req remoteIp =>
    simp only [OpsServer.step] at hstep
    have htriple : Triple (Holding w.store.tokens w.store.now) _ _ _ :=
      triple_loginAdmin hash lower random req remoteIp
    split at hstep
    · rename_i response store hrun
      obtain rfl := Option.some.inj hstep
      obtain ⟨hid, htoken, hs⟩ := htriple.of_run_ok h.holding hrun
      exact h.login hid random htoken hs
    · rename_i err store hrun
      obtain rfl := Option.some.inj hstep
      exact h.of_holding (htriple.of_run_error h.holding hrun)
  | request header route =>
    obtain rfl := Option.some.inj hstep
    exact h.of_holding ((keeps_serve hash lower accessToken header route).after h.holding)
  | users rows =>
    obtain rfl := Option.some.inj hstep
    exact h.of_holding ⟨rfl, rfl, h.ids⟩
  | pass milliseconds =>
    obtain rfl := Option.some.inj hstep
    exact ⟨h.ids, h.issues, fun i hi => (h.past i hi).trans (Nat.le_add_right _ _), h.stored, h.kept⟩

/-- Each route stands under the menu of some page. -/
theorem exists_page (route : OpsRoute) :
    ∃ page, route.menuCode = (OpsRoute.view page).menuCode := by
  cases route with
  | view page => exact ⟨page, rfl⟩
  | upsertAdmin random req => exact ⟨.admins, rfl⟩
  | changePassword adminId req => exact ⟨.admins, rfl⟩
  | unlock adminId => exact ⟨.admins, rfl⟩
  | createRole random req => exact ⟨.roles, rfl⟩
  | assignUserRoles userId req => exact ⟨.roles, rfl⟩
  | createMenu random req => exact ⟨.menus, rfl⟩
  | assignRoleMenus roleId req => exact ⟨.roles, rfl⟩

theorem menuCode_trim (route : OpsRoute) :
    Text.trim route.menuCode = route.menuCode ∧ route.menuCode ≠ "" := by
  obtain ⟨page, hpage⟩ := exists_page route
  rw [hpage]
  cases page <;> exact ⟨by decide, by decide⟩

/-- The administrator of a token passes both middlewares. -/
theorem run_guard_admin_iff {w : OpsServer} (h : Issued w) {token : String} {route : OpsRoute} :
    (∃ adminId, (authenticateAdminToken token).run w.store = (.ok adminId, w.store) ∧
      ((authorizeOpsMenu (.admin adminId) route.menuCode).run w.store).1 = .ok ()) ↔
    ∃ issue ∈ w.issued, issue.token = token ∧ w.store.now < issue.time + OpsStore.opsTokenTtl ∧
      ∃ admin ∈ w.store.admins, admin.adminId = issue.adminId ∧ admin.status = "active" ∧
        w.store.Permits admin.userId route.menuCode := by
  obtain ⟨htrim, hcode⟩ := menuCode_trim route
  constructor
  · rintro ⟨adminId, hauth, hmenu⟩
    obtain ⟨htoken, ⟨admin, hadmin, hid, hactive, -⟩, -⟩ :=
      run_authenticateAdminToken_eq_ok.mp hauth
    unfold OpsStore.authenticateOpsAccessToken at htoken
    split at htoken
    · cases htoken
    rename_i stored hstored
    obtain ⟨hnow, hsome⟩ := Option.ite_none_right_eq_some.mp htoken
    obtain rfl := Option.some.inj hsome
    obtain ⟨issue, hissue, hsame, hissueId, hexpires⟩ := h.stored token stored hstored
    have hadminId : IsAdminId stored.adminId := hissueId ▸ (h.issues issue hissue).1
    simp only [authorizeOpsMenu, if_neg hadminId.ne_empty] at hmenu
    obtain ⟨⟨admin', hadmin', hid', hpermits⟩, -⟩ :=
      (run_authorizeAdminMenu_eq_ok hadminId.trim hadminId.ne_empty htrim hcode).mp
        (Prod.ext hmenu rfl)
    obtain rfl := Relation.eq_of_clash hadmin' hadmin (.inl (hid'.trans hid.symm))
    exact ⟨issue, hissue, hsame, hexpires ▸ hnow, admin', hadmin, hid.trans hissueId.symm, hactive,
      hpermits⟩
  · rintro ⟨issue, hissue, rfl, hnow, admin, hadmin, hid, hactive, hpermits⟩
    obtain ⟨stored, hstored, hstoredId, hexpires⟩ := h.kept issue hissue
    have hadminId : IsAdminId issue.adminId := (h.issues issue hissue).1
    obtain ⟨userRole, huserRole, huser, -⟩ := id hpermits
    refine ⟨issue.adminId, run_authenticateAdminToken_eq_ok.mpr
      ⟨?_, ⟨admin, hadmin, hid, hactive, ?_⟩, rfl⟩, ?_⟩
    · unfold OpsStore.authenticateOpsAccessToken
      rw [hstored]
      exact Option.ite_none_right_eq_some.mpr ⟨by omega, congrArg some hstoredId⟩
    · exact List.ne_nil_of_mem (OpsStore.mem_userRolesByUser.mpr ⟨huserRole, huser⟩)
    · simp only [authorizeOpsMenu, if_neg hadminId.ne_empty]
      exact congrArg Prod.fst
        ((run_authorizeAdminMenu_eq_ok hadminId.trim hadminId.ne_empty htrim hcode).mpr
          ⟨⟨admin, hadmin, hid, hpermits⟩, rfl⟩)

theorem executes_iff {w : OpsServer} (h : Issued w) {accessToken header : String}
    {route : OpsRoute} :
    w.Executes accessToken header route ↔ w.Authorized accessToken header route.menuCode := by
  unfold Executes Authorized OpsRoute.guard authenticateOps
  cases hbearer : bearerToken header with
  | none =>
    refine ⟨fun hrun => ?_, fun hrun => ?_⟩
    · cases hrun
    · obtain ⟨_, hnone, -⟩ := hrun
      cases hnone
  | some token =>
    simp only [Option.some.injEq, exists_eq_left']
    by_cases hstatic : token = accessToken
    · rw [if_pos hstatic]
      exact ⟨fun _ => .inl hstatic, fun _ => rfl⟩
    · rw [if_neg hstatic, ← run_guard_admin_iff h]
      refine Iff.trans ⟨fun hrun => ?_, fun ⟨adminId, hauth, hmenu⟩ => ?_⟩ (or_iff_right hstatic).symm
      · obtain ⟨caller, u, hcaller, hmenu⟩ := Program.run_bind_eq_ok.mp (Prod.ext hrun rfl)
        obtain ⟨adminId, v, hauth, hpure⟩ := Program.run_bind_eq_ok.mp hcaller
        obtain ⟨rfl, rfl⟩ := Program.run_pure_eq_ok.mp hpure
        obtain rfl := (run_authenticateAdminToken_eq_ok.mp hauth).2.2
        exact ⟨adminId, hauth, congrArg Prod.fst hmenu⟩
      · refine congrArg Prod.fst (Program.run_bind_eq_ok.mpr
          ⟨.admin adminId, w.store, Program.run_bind_eq_ok.mpr ⟨adminId, w.store, hauth, rfl⟩,
            (Prod.ext hmenu rfl : _ = (Except.ok (), _))⟩)

/-- The decisions are those of the bindings of the moment, and an assignment that is rejected leaves
them as they were. -/
structure Current (accessToken : String) (w : OpsServer) : Prop where
  executes : ∀ header route,
    w.Executes accessToken header route ↔ w.Authorized accessToken header route.menuCode
  userRoles : ∀ userId req err s, (assignUserRoles userId req).run w.store = (.error err, s) →
    s = w.store
  roleMenus : ∀ roleId req err s, (assignRoleMenus roleId req).run w.store = (.error err, s) →
    s = w.store

/-- Authorization follows the current bindings in every run. -/
theorem current_of_reachable (hash lower : String → String) (accessToken : String) (s : OpsStore)
    (hids : ∀ a ∈ s.admins, IsAdminId a.adminId) (w : OpsServer)
    (h : Reachable (rel (step hash lower accessToken)) (start s) w) : Current accessToken w := by
  have hissued : Issued w := h.invariant _ (issued_start hids) fun _ _ _ hw hs => hw.step hs
  exact ⟨fun _ _ => executes_iff hissued, fun _ _ _ _ => assignUserRoles_of_error,
    fun _ _ _ _ => assignRoleMenus_of_error⟩

section Samples

/-- The administrator may see the users. -/
def bound : OpsStore :=
  { AttemptMove.oneAdmin with
    menus := Relation.ofRows [⟨"menu-2", "ops.users", "Users", "/users", "", 20, "active"⟩]
    roleMenus := Relation.ofRows [⟨"role-menu:role-1:menu-2", "role-1", "menu-2"⟩] }

/-- A login, and the role is taken from the user. -/
def revoking : List OpsMove :=
  [.login AttemptMove.sampleDigits ⟨"root", "password"⟩ "198.51.100.7", .pass 60000,
    .request "Bearer static-token" (.assignUserRoles "user-1" ⟨[]⟩)]

end Samples

/-- The token is out, and its administrator has no role any more. -/
theorem current_of_reachable_revoking : ∃ w : OpsServer,
    w.issued.map Issue.adminId = ["admin-1"] ∧ w.store.userRoles.rows = [] ∧
      Current "static-token" w := by
  let w := execD (step AttemptMove.sampleHash id "static-token") (start bound) revoking
  have hexec : exec (step AttemptMove.sampleHash id "static-token") (start bound) revoking = some w :=
    exec_eq_execD (by decide)
  have hids : ∀ a ∈ bound.admins, IsAdminId a.adminId := by
    intro a ha
    have hrows : ∀ a ∈ bound.admins.rows, a.adminId = "admin-1" := by decide
    exact ⟨AttemptMove.sampleDigits, hrows a ha⟩
  exact ⟨w, by decide, by decide,
    current_of_reachable AttemptMove.sampleHash id "static-token" bound hids w
      (.of_exec .start hexec)⟩

end OpsServer

end Slan.Ops
