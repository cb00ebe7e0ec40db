import Slan.Ops.Admins

/-! # What the calls on administrators write -/

namespace Slan.Ops

open Program (Each)

/-- The columns that a profile update has no business with. -/
structure Credentials where
  passwordHash : String
  passwordUpdatedAt : Nat
  lastLoginAt : Nat
  lastLoginIp : String
  failedLoginCount : Nat
  lockedUntil : Nat
  deriving DecidableEq, Repr

def AdminInfo.credentials (row : AdminInfo) : Credentials :=
  ⟨row.passwordHash, row.passwordUpdatedAt, row.lastLoginAt, row.lastLoginIp, row.failedLoginCount,
    row.lockedUntil⟩

def AdminInfo.withCredentials (row : AdminInfo) (c : Credentials) : AdminInfo :=
  { row with
    passwordHash := c.passwordHash
    passwordUpdatedAt := c.passwordUpdatedAt
    lastLoginAt := c.lastLoginAt
    lastLoginIp := c.lastLoginIp
    failedLoginCount := c.failedLoginCount
    lockedUntil := c.lockedUntil }

def AdminEvent.adminId : AdminEvent → String
  | .read row => row.adminId
  | .checked adminId _ _ => adminId
  | .failed adminId _ _ => adminId
  | .loggedIn adminId _ _ => adminId
  | .passwordSet adminId _ _ => adminId
  | .profileSet record => record.adminId

/-- What an event means for the account that it is of. -/
def Credentials.noting (c : Credentials) : AdminEvent → Credentials
  | .failed _ failedLoginCount lockedUntil => { c with failedLoginCount, lockedUntil }
  | .loggedIn _ lastLoginAt lastLoginIp =>
    { c with lastLoginAt, lastLoginIp, failedLoginCount := 0, lockedUntil := 0 }
  | .passwordSet _ passwordHash passwordUpdatedAt => { c with passwordHash, passwordUpdatedAt }
  | .read _ => c
  | .checked _ _ _ => c
  | .profileSet _ => c

def AdminInfo.noting (row : AdminInfo) (e : AdminEvent) : AdminInfo :=
  if row.adminId = e.adminId then row.withCredentials (row.credentials.noting e) else row

@[simp] theorem AdminInfo.noting_adminId (row : AdminInfo) (e : AdminEvent) :
    (row.noting e).adminId = row.adminId := by
  unfold noting
  split <;> rfl

@[simp] theorem AdminInfo.noting_userId (row : AdminInfo) (e : AdminEvent) :
    (row.noting e).userId = row.userId := by
  unfold noting
  split <;> rfl

@[simp] theorem AdminInfo.noting_loginName (row : AdminInfo) (e : AdminEvent) :
    (row.noting e).loginName = row.loginName := by
  unfold noting
  split <;> rfl

def AdminEvent.isProfile : AdminEvent → Bool
  | .profileSet _ => true
  | _ => false

/-- A statement that does nothing to the administrators but what it notes, or writes a record. -/
inductive AdminStatement : (OpsStore → List AdminEvent) → (OpsStore → OpsStore) → Prop
  | noted {note : OpsStore → List AdminEvent} {write : OpsStore → OpsStore}
    (hnote : ∀ s, note s = [] ∨ ∃ e, e.isProfile = false ∧ note s = [e])
    (h : ∀ s, (write s).admins.rows = s.admins.rows.map fun row =>
      (note s).foldr (fun e row => row.noting e) row) : AdminStatement note write
  | assigns (record : AdminInfo) : AdminStatement
    (fun s => if (s.assignAdminInfo record).isSome then [.profileSet record] else [])
    fun s => (s.assignAdminInfo record).getD s
  | inserts (record : AdminInfo) : AdminStatement
    (fun s => if (s.insertAdminInfo record).isSome then [.profileSet record] else [])
    fun s => (s.insertAdminInfo record).getD s

theorem adminStatement_query : AdminStatement (fun _ => []) id :=
  .noted (fun _ => .inl rfl) fun s => (List.map_id' s.admins.rows).symm

theorem each_lookupOr {α : Type} (err : Control.ServiceError) (f : OpsStore → Option α) :
    Each AdminStatement (lookupOr err f) :=
  (Each.query adminStatement_query f).bind fun _ => .orFail _ _

theorem each_clock : Each AdminStatement clock := .query adminStatement_query _

theorem each_readAdmin (f : OpsStore → Option AdminInfo) : Each AdminStatement (readAdmin f) := by
  refine Program.each_stmt.mpr ⟨.noted (fun s => ?_) fun s => ?_, fun _ => Program.each_ret _⟩
  · cases f s with
    | none => exact .inl rfl
    | some row => exact .inr ⟨.read row, rfl, rfl⟩
  have hquiet : ∀ row : AdminInfo,
      (((f s).map AdminEvent.read).toList).foldr (fun e row => row.noting e) row = row := by
    intro row
    cases f s with
    | none => rfl
    | some found => exact ite_self row
  simp only [hquiet, List.map_id', id]

/-- A write of columns of one account is what is noted of it. -/
theorem adminStatement_execNoting {write : OpsStore → OpsStore} (e : AdminEvent)
    (he : e.isProfile = false)
    (h : ∀ s, (write s).admins.rows = s.admins.rows.map fun row =>
      if row.adminId = e.adminId then row.withCredentials (row.credentials.noting e) else row) :
    AdminStatement (fun _ => [e]) write := .noted (fun _ => .inr ⟨e, he, rfl⟩) h

theorem each_withPassword (hash : String → String) (password : String) (record : AdminInfo) :
    Each AdminStatement (withPassword hash password record) := by
  unfold withPassword
  split
  · exact .pure _
  · split
    · exact .fail _
    · exact each_clock.bind fun _ => .pure _

theorem each_upsertAdminInfo (hash lower : String → String) (random : Networks.HexText)
    (req : UpsertAdminInfoRequest) :
    Each AdminStatement (upsertAdminInfo hash lower random req) := by
  unfold upsertAdminInfo
  split
  · exact .fail _
  · refine (each_lookupOr _ _).bind fun user => (each_readAdmin _).bind fun existing =>
      (each_withPassword _ _ _).bind fun record => ?_
    split
    · exact .fail _
    · refine .bind ?_ fun _ => .pure _
      refine (Each.query adminStatement_query _).bind fun found => ?_
      cases found with
      | some _ => exact Program.each_stmt.mpr ⟨.assigns record, fun _ => Program.each_ret _⟩
      | none => exact Program.each_stmt.mpr ⟨.inserts record, fun _ => Program.each_ret _⟩

theorem each_changeAdminPassword (hash : String → String) (adminId : String)
    (req : ChangeAdminPasswordRequest) :
    Each AdminStatement (changeAdminPassword hash adminId req) := by
  unfold changeAdminPassword
  split
  · exact .fail _
  · split
    · exact .fail _
    · exact (each_lookupOr _ _).bind fun _ => each_clock.bind fun _ =>
        .execNoting (adminStatement_execNoting _ rfl fun _ => rfl)

theorem each_unlockAdmin (adminId : String) : Each AdminStatement (unlockAdmin adminId) := by
  unfold unlockAdmin
  split
  · exact .fail _
  · exact (each_lookupOr _ _).bind fun _ => .execNoting (adminStatement_execNoting _ rfl fun _ => rfl)

theorem each_checkPassword (hash : String → String) (admin : AdminInfo) (password : String) :
    Each AdminStatement (checkPassword hash admin password) := by
  refine Program.each_stmt.mpr ⟨.noted (fun s => ?_) fun s => ?_, fun _ => Program.each_ret _⟩
  · split
    · exact .inl rfl
    · exact .inr ⟨_, rfl, rfl⟩
  split
  · exact (List.map_id' _).symm
  · refine ((List.map_congr_left fun row _ => ?_).trans (List.map_id' _)).symm
    exact ite_self row

theorem each_failLogin (admin : AdminInfo) : Each AdminStatement (failLogin admin) := by
  refine Each.bind ?_ fun _ => .execNoting (adminStatement_execNoting _ rfl fun _ => rfl)
  unfold lockAfter
  split
  · exact each_clock.bind fun _ => .pure _
  · exact .pure _

theorem each_enterOps (random : Networks.HexText) (remoteIp : String) (admin : AdminInfo) :
    Each AdminStatement (enterOps random remoteIp admin) := by
  refine (Each.query adminStatement_query _).bind fun userRoles => ?_
  split
  · exact .fail _
  · exact (Each.exec (.noted (fun _ => .inl rfl) fun _ => (List.map_id' _).symm)).bind fun _ =>
      each_clock.bind fun _ =>
      (Each.execNoting (adminStatement_execNoting _ rfl fun _ => rfl)).bind fun _ => .pure _

theorem each_loginAdmin (hash lower : String → String) (random : Networks.HexText)
    (req : OpsLoginRequest) (remoteIp : String) :
    Each AdminStatement (loginAdmin hash lower random req remoteIp) := by
  unfold loginAdmin
  split
  · exact .fail _
  · refine (each_readAdmin _).bind fun found => (Each.orFail _ _).bind fun admin => ?_
    split
    · exact .fail _
    · refine (each_checkPassword hash admin req.password).bind fun now => ?_
      split
      · exact .fail _
      · split
        · exact each_enterOps random remoteIp admin
        · exact (each_failLogin admin).bind fun _ => .fail _

end Slan.Ops
