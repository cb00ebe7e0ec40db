import Slan.Ops.Lockout

/-! # Profile updates among the other writers of an administrator's row -/

namespace Slan.Ops

open Transition
open Interleaving (noted)

/-! ## What is to become of the rows -/

/-- The part of a row that profile updates have to leave alone. -/
structure Account where
  adminId : String
  userId : String
  credentials : Credentials
  deriving DecidableEq, Repr

def AdminInfo.account (row : AdminInfo) : Account := ⟨row.adminId, row.userId, row.credentials⟩

def OpsStore.accounts (s : OpsStore) : List Account := s.admins.rows.map AdminInfo.account

namespace Account

def noting (a : Account) (e : AdminEvent) : Account :=
  if a.adminId = e.adminId then { a with credentials := a.credentials.noting e } else a

/-- The account after all that was noted, the last event being the first of the list. -/
def replay (history : List (Nat × AdminEvent)) (a : Account) : Account :=
  history.foldr (fun n a => a.noting n.2) a

end Account

/-- The hash that the last change of an account's password wrote. -/
def lastPassword (adminId passwordHash : String) : List (Nat × AdminEvent) → String
  | [] => passwordHash
  | (_, .passwordSet changed newHash _) :: older =>
    if adminId = changed then newHash else lastPassword adminId passwordHash older
  | (_, .read _) :: older => lastPassword adminId passwordHash older
  | (_, .checked _ _ _) :: older => lastPassword adminId passwordHash older
  | (_, .failed _ _ _) :: older => lastPassword adminId passwordHash older
  | (_, .loggedIn _ _ _) :: older => lastPassword adminId passwordHash older
  | (_, .profileSet _) :: older => lastPassword adminId passwordHash older

/-- No update of a record is lost. -/
structure Intact (s : OpsStore) (w : AdminWorld) : Prop where
  /-- Logins, failures, unlocking and password changes have had their effect, and nothing else
  has. -/
  accounts : w.state.accounts = s.accounts.map (Account.replay w.history)
  password : ∀ a ∈ s.accounts, ∃ row ∈ w.state.admins, row.adminId = a.adminId ∧
    row.passwordHash = lastPassword a.adminId a.credentials.passwordHash w.history

/-! ## The calls -/

inductive RecordMove where
  /-- A profile update that brings no password. -/
  | profile (random : Networks.HexText) (req : UpsertAdminInfoRequest)
  | changePassword (adminId : String) (req : ChangeAdminPasswordRequest)
  | unlock (adminId : String)
  | login (random : Networks.HexText) (req : OpsLoginRequest) (remoteIp : String)
  | advance (call : Nat)
  | pass (milliseconds : Nat)

namespace RecordMove

def step (hash lower : String → String) (w : AdminWorld) : RecordMove → Option AdminWorld
  | .profile random req =>
    if req.password = "" then some (w.begin (upsertAdminInfo hash lower random req).void) else none
  | .changePassword adminId req => some (w.begin (changeAdminPassword hash adminId req))
  | .unlock adminId => some (w.begin (unlockAdmin adminId))
  | .login random req remoteIp => some (w.begin (loginAdmin hash lower random req remoteIp).void)
  | .advance call => w.advance call
  | .pass milliseconds =>
    some { w with state := { w.state with now := w.state.now + milliseconds } }

/-- What a profile update writes back of the credentials is what is stored. -/
def WritesBack (s : OpsStore) : AdminEvent → Prop
  | .profileSet record => ∀ stored ∈ s.admins, stored.adminId = record.adminId →
    stored.credentials = record.credentials
  | _ => True

/-- A profile update writes only while the credentials are still what it has read. -/
def Unraced (w : AdminWorld) : RecordMove → Prop
  | .advance call => ∀ e ∈ w.upcoming call, WritesBack w.state e
  | _ => True

instance (s : OpsStore) (e : AdminEvent) : Decidable (WritesBack s e) :=
  match e with
  | .profileSet record => inferInstanceAs (Decidable (∀ stored ∈ s.admins.rows,
      stored.adminId = record.adminId → stored.credentials = record.credentials))
  | .read _ => instDecidableTrue
  | .checked _ _ _ => instDecidableTrue
  | .failed _ _ _ => instDecidableTrue
  | .loggedIn _ _ _ => instDecidableTrue
  | .passwordSet _ _ _ => instDecidableTrue

instance (w : AdminWorld) (a : RecordMove) : Decidable (Unraced w a) :=
  match a with
  | .advance call => inferInstanceAs (Decidable (∀ e ∈ w.upcoming call, WritesBack w.state e))
  | .profile _ _ => instDecidableTrue
  | .changePassword _ _ => instDecidableTrue
  | .unlock _ => instDecidableTrue
  | .login _ _ _ => instDecidableTrue
  | .pass _ => instDecidableTrue

/-! ## What the calls note -/

/-- A profile update writes the credentials that it has read. -/
def Warranted (s : OpsStore) (seen : List AdminEvent) : AdminEvent → Prop
  | .read row => row ∈ s.admins
  | .profileSet record => ∃ row, seen = [.read row] ∧ record.account = row.account
  | _ => True

section Warranted

open Program (Justified)

theorem justified_lookupOr {α : Type} {seen : List AdminEvent} (err : Control.ServiceError)
    (f : OpsStore → Option α) :
    (lookupOr err f).Justified Warranted seen fun seen' _ => seen' = seen := by
  refine .bind (Q := fun seen' _ => seen' = seen) (.query fun _ => rfl) fun seen' row hseen => ?_
  exact .orFail fun _ _ => hseen

theorem justified_readAdmin {seen : List AdminEvent} (f : OpsStore → Option AdminInfo)
    {P : AdminInfo → Prop} (hf : ∀ s row, f s = some row → row ∈ s.admins ∧ P row) :
    (readAdmin f).Justified Warranted seen fun seen' found =>
      seen' = (found.map AdminEvent.read).toList ++ seen ∧ ∀ row, found = some row → P row := by
  refine Program.justified_stmt.mpr fun s => ⟨fun e he => ?_, .pure ⟨rfl, fun row hrow => ?_⟩⟩
  · obtain ⟨row, hrow, rfl⟩ := Option.map_eq_some_iff.mp (Option.mem_toList.mp he)
    exact (hf s row hrow).1
  · exact (hf s row hrow).2

/-- A record that is set is the one of the account. -/
theorem justified_setRecord {seen : List AdminEvent} {record : AdminInfo}
    (h : ∃ row, seen = [.read row] ∧ record.account = row.account)
    (write : OpsStore → Option OpsStore) :
    (setRecord record write).Justified Warranted seen fun _ _ => True := by
  refine Program.justified_stmt.mpr fun s => ⟨fun e he => ?_, ?_⟩
  · split at he
    · rw [List.mem_singleton.mp he]
      exact h
    · cases he
  · split
    · exact .pure trivial
    · exact .fail _

theorem justified_upsertAdminInfo (hash lower : String → String) (random : Networks.HexText)
    {req : UpsertAdminInfoRequest} (hpassword : req.password = "") :
    (upsertAdminInfo hash lower random req).Justified Warranted [] fun _ _ => True := by
  unfold upsertAdminInfo
  split
  · exact .fail _
  refine .bind (justified_lookupOr _ _) ?_
  rintro seen user rfl
  refine .bind (justified_readAdmin _ (P := fun row => row.userId = Text.trim req.userId)
    fun s row hrow => Relation.of_find?_key hrow) ?_
  rintro seen existing ⟨rfl, hexisting⟩
  rw [List.append_nil]
  refine Justified.bind (Q := fun seen record =>
    seen = (existing.map AdminEvent.read).toList ∧
      record = profileRecord lower random req existing) ?_ ?_
  · unfold withPassword
    rw [if_pos hpassword]
    exact .pure ⟨rfl, rfl⟩
  rintro seen record ⟨rfl, rfl⟩
  cases existing with
  | none => exact .fail _
  | some row =>
    have haccount : (profileRecord lower random req (some row)).account = row.account := by
      unfold AdminInfo.account
      rw [hexisting row rfl]
      rfl
    split
    · exact .fail _
    refine .bind (Q := fun _ _ => True) ?_ fun _ _ _ => .pure trivial
    refine .bind (Q := fun seen _ => seen = [.read row]) (.query fun _ => rfl) ?_
    rintro seen found rfl
    cases found with
    | none => exact justified_setRecord ⟨row, rfl, haccount⟩ _
    | some _ => exact justified_setRecord ⟨row, rfl, haccount⟩ _

theorem justified_changeAdminPassword (hash : String → String) (adminId : String)
    (req : ChangeAdminPasswordRequest) :
    (changeAdminPassword hash adminId req).Justified Warranted [] fun _ _ => True := by
  unfold changeAdminPassword
  split
  · exact .fail _
  split
  · exact .fail _
  refine .bind (justified_lookupOr _ _) fun _ admin _ => ?_
  refine .bind (Q := fun _ _ => True) (.query fun _ => trivial) fun _ now _ => ?_
  refine .execNoting fun s => ⟨fun e he => ?_, trivial⟩
  rw [List.mem_singleton.mp he]
  exact trivial

theorem justified_unlockAdmin (adminId : String) :
    (unlockAdmin adminId).Justified Warranted [] fun _ _ => True := by
  unfold unlockAdmin
  split
  · exact .fail _
  refine .bind (justified_lookupOr _ _) fun _ admin _ => ?_
  refine .execNoting fun s => ⟨fun e he => ?_, trivial⟩
  rw [List.mem_singleton.mp he]
  exact trivial

/-- Whatever an attempt to log in may note, it sets no record. -/
theorem warranted_of_attempt {name : String} {s : OpsStore} {seen : List AdminEvent}
    {e : AdminEvent} (h : AttemptMove.Warranted name s seen e) : Warranted s seen e := by
  cases e with
  | read row => exact Relation.mem_of_find? h.2
  | profileSet record => exact h.elim
  | _ => trivial

end Warranted

/-! ## What every run keeps -/

def key (row : AdminInfo) : String × String := (row.adminId, row.userId)

/-- No account comes or goes, and what a call has read is an account. -/
structure Grounded (s : OpsStore) (w : AdminWorld) : Prop where
  orderly : Interleaving.Orderly AdminStatement Warranted w
  keys : w.state.admins.rows.map key = s.admins.rows.map key
  read : ∀ call row, .read row ∈ noted w.history call → key row ∈ s.admins.rows.map key

theorem grounded_start (s : OpsStore) : Grounded s (Interleaving.start s) where
  orderly := Interleaving.orderly_start s
  keys := rfl
  read _ _ h := absurd h List.not_mem_nil

/-- What one statement does to the rows and notes. -/
inductive Statement (w t : AdminWorld) (call : Nat) : Prop
  | quiet (hup : w.upcoming call = []) (hhistory : t.history = w.history)
    (hrows : t.state.admins.rows = w.state.admins.rows)
  | noted (e : AdminEvent) (hquiet : ∀ s, WritesBack s e) (hup : w.upcoming call = [e])
    (hwarranted : Warranted w.state (noted w.history call) e)
    (hhistory : t.history = (call, e) :: w.history)
    (hrows : t.state.admins.rows = w.state.admins.rows.map fun row => row.noting e)
  | assigned (record row : AdminInfo) (hup : w.upcoming call = [.profileSet record])
    (hread : .read row ∈ noted w.history call) (haccount : record.account = row.account)
    (hhistory : t.history = (call, .profileSet record) :: w.history)
    (hrows : t.state.admins.rows = w.state.admins.rows.map fun stored =>
      if stored.adminId = record.adminId then { record with userId := stored.userId } else stored)

/-- An account that was read cannot be inserted again. -/
theorem Grounded.insertAdminInfo {s : OpsStore} {w : AdminWorld} (h : Grounded s w) {call : Nat}
    {row record : AdminInfo} (hread : .read row ∈ noted w.history call)
    (haccount : record.account = row.account) : w.state.insertAdminInfo record = none := by
  have hkey := h.read call row hread
  rw [← h.keys] at hkey
  obtain ⟨stored, hstored, heq⟩ := List.mem_map.mp hkey
  have hid : stored.adminId = record.adminId := by
    rw [(Prod.mk.inj heq).1]
    exact (congrArg Account.adminId haccount).symm
  unfold OpsStore.insertAdminInfo
  rw [Relation.insert_eq_none.mpr ⟨stored, hstored, .inl hid⟩]
  rfl

theorem Grounded.statement {s : OpsStore} {w t : AdminWorld} (h : Grounded s w) {call : Nat}
    (hstep : w.advance call = some t) : Statement w t call := by
  obtain ⟨note, write, hstatement, hup, hwarranted, hstate, hhistory⟩ := h.orderly.upcoming hstep
  have hprofile : ∀ record, AdminEvent.profileSet record ∈ note w.state →
      ∃ row, .read row ∈ noted w.history call ∧ record.account = row.account := by
    intro record hmem
    obtain ⟨row, hseen, haccount⟩ := hwarranted _ hmem
    exact ⟨row, hseen ▸ List.mem_singleton_self _, haccount⟩
  cases hstatement with
  | noted hone hrows =>
    have hrows := hrows w.state
    rw [← hstate] at hrows
    rcases hone w.state with hnone | ⟨e, hplain, hone⟩
    · rw [hnone] at hup hhistory hrows
      exact .quiet hup hhistory (hrows.trans (List.map_id' _))
    · rw [hone] at hup hhistory hrows hwarranted
      have hw := hwarranted e (List.mem_singleton_self e)
      refine .noted e (fun s => ?_) hup hw hhistory hrows
      cases e with
      | profileSet record => cases hplain
      | _ => trivial
  | assigns record =>
    dsimp only at hup hhistory hprofile hstate
    cases hwrite : w.state.assignAdminInfo record with
    | none =>
      rw [hwrite] at hup hhistory hstate
      exact .quiet hup hhistory (by rw [hstate]; rfl)
    | some written =>
      rw [hwrite] at hup hhistory hstate hprofile
      obtain ⟨row, hread, haccount⟩ := hprofile record (List.mem_singleton_self _)
      obtain ⟨admins, hadmins, hwritten⟩ := Option.map_eq_some_iff.mp hwrite
      refine .assigned record row hup hread haccount hhistory ?_
      rw [hstate, Option.getD_some, ← hwritten]
      exact Relation.update_eq_some.mp hadmins
  | inserts record =>
    dsimp only at hup hhistory hprofile hstate
    cases hwrite : w.state.insertAdminInfo record with
    | none =>
      rw [hwrite] at hup hhistory hstate
      exact .quiet hup hhistory (by rw [hstate]; rfl)
    | some written =>
      rw [hwrite] at hprofile
      obtain ⟨row, hread, haccount⟩ := hprofile record (List.mem_singleton_self _)
      rw [h.insertAdminInfo hread haccount] at hwrite
      cases hwrite

theorem Statement.keys {w t : AdminWorld} {call : Nat} (h : Statement w t call) :
    t.state.admins.rows.map key = w.state.admins.rows.map key := by
  cases h with
  | quiet _ _ hrows => rw [hrows]
  | noted e _ _ _ _ hrows =>
    rw [hrows, List.map_map]
    refine List.map_congr_left fun row _ => ?_
    exact Prod.ext (row.noting_adminId e) (row.noting_userId e)
  | assigned record row _ _ _ _ hrows =>
    rw [hrows, List.map_map]
    refine List.map_congr_left fun stored _ => ?_
    change key (if stored.adminId = record.adminId then _ else _) = key stored
    split
    · rename_i hid
      exact Prod.ext hid.symm rfl
    · rfl

theorem Grounded.advance {s : OpsStore} {w t : AdminWorld} (h : Grounded s w) {call : Nat}
    (hstep : w.advance call = some t) : Grounded s t := by
  have hstatement := h.statement hstep
  refine ⟨h.orderly.advance hstep, hstatement.keys.trans h.keys, fun other row hmem => ?_⟩
  cases hstatement with
  | quiet _ hhistory _ =>
    rw [hhistory] at hmem
    exact h.read other row hmem
  | noted e _ _ hwarranted hhistory _ =>
    rw [hhistory, Interleaving.noted_cons] at hmem
    split at hmem
    · rcases List.mem_cons.mp hmem with rfl | hmem
      · rw [← h.keys]
        exact List.mem_map_of_mem hwarranted
      · exact h.read other row hmem
    · exact h.read other row hmem
  | assigned record found _ _ _ hhistory _ =>
    rw [hhistory, Interleaving.noted_cons] at hmem
    split at hmem
    · rcases List.mem_cons.mp hmem with heq | hmem
      · cases heq
      · exact h.read other row hmem
    · exact h.read other row hmem

theorem Grounded.step {hash lower : String → String} {s : OpsStore} {w t : AdminWorld}
    {a : RecordMove} (h : Grounded s w) (hstep : step hash lower w a = some t) : Grounded s t := by
  have hbegin : ∀ p : OpsCall Unit, Program.Each AdminStatement p →
      (p.Justified Warranted [] fun _ _ => True) → Grounded s (w.begin p) :=
    fun p heach hjust => ⟨h.orderly.begin heach hjust, h.keys, h.read⟩
  cases a with
  | profile random req =>
    obtain ⟨hpassword, hsome⟩ := Option.ite_none_right_eq_some.mp hstep
    obtain rfl := Option.some.inj hsome
    refine hbegin _ (each_upsertAdminInfo hash lower random req).void ?_
    exact (justified_upsertAdminInfo hash lower random hpassword).bind fun _ _ _ => .pure trivial
  | changePassword adminId req =>
    obtain rfl := Option.some.inj hstep
    exact hbegin _ (each_changeAdminPassword hash adminId req)
      (justified_changeAdminPassword hash adminId req)
  | unlock adminId =>
    obtain rfl := Option.some.inj hstep
    exact hbegin _ (each_unlockAdmin adminId) (justified_unlockAdmin adminId)
  | login random req remoteIp =>
    obtain rfl := Option.some.inj hstep
    refine hbegin _ (each_loginAdmin hash lower random req remoteIp).void ?_
    have hjust := AttemptMove.justified_loginAdmin hash lower random remoteIp
      (rfl : Text.trim (lower req.loginName) = _)
    exact (hjust.mono (fun _ _ _ => warranted_of_attempt) fun _ _ hq => hq).bind
      fun _ _ _ => .pure trivial
  | advance call => exact h.advance hstep
  | pass milliseconds =>
    obtain rfl := Option.some.inj hstep
    exact ⟨h.orderly.withState _, h.keys, h.read⟩

/-! ## When nothing is lost -/

theorem replay_adminId (history : List (Nat × AdminEvent)) (a : Account) :
    (a.replay history).adminId = a.adminId := by
  induction history with
  | nil => rfl
  | cons n older ih =>
    change ((a.replay older).noting n.2).adminId = a.adminId
    unfold Account.noting
    split
    · exact ih
    · exact ih

theorem replay_passwordHash (history : List (Nat × AdminEvent)) (a : Account) :
    (a.replay history).credentials.passwordHash =
      lastPassword a.adminId a.credentials.passwordHash history := by
  induction history with
  | nil => rfl
  | cons n older ih =>
    obtain ⟨call, e⟩ := n
    change ((a.replay older).noting e).credentials.passwordHash = _
    unfold Account.noting
    rw [replay_adminId]
    cases e with
    | passwordSet changed newHash _ =>
      change (if a.adminId = changed then _ else _ : Account).credentials.passwordHash =
        if a.adminId = changed then newHash else lastPassword _ _ older
      split
      · rfl
      · exact ih
    | _ =>
      split
      · exact ih
      · exact ih

/-- The last password is one of the things that the events say. -/
theorem intact_iff {s : OpsStore} {w : AdminWorld} :
    Intact s w ↔ w.state.accounts = s.accounts.map (Account.replay w.history) := by
  refine ⟨Intact.accounts, fun h => ⟨h, fun a ha => ?_⟩⟩
  have hmem : a.replay w.history ∈ w.state.accounts := by
    rw [h]
    exact List.mem_map_of_mem ha
  obtain ⟨row, hrow, haccount⟩ := List.mem_map.mp hmem
  refine ⟨row, hrow, ?_, ?_⟩
  · rw [← replay_adminId w.history a, ← haccount]
    rfl
  · rw [← replay_passwordHash w.history a, ← haccount]
    rfl

theorem account_noting (row : AdminInfo) (e : AdminEvent) :
    (row.noting e).account = row.account.noting e := by
  unfold AdminInfo.noting Account.noting
  change (if row.adminId = e.adminId then _ else _ : AdminInfo).account =
    if row.adminId = e.adminId then _ else _
  split
  · rfl
  · rfl

/-- A record leaves the accounts as they are only if its credentials are those stored. -/
theorem account_assigned_iff {stored record : AdminInfo} :
    (if stored.adminId = record.adminId then { record with userId := stored.userId }
      else stored).account = stored.account ↔
    (stored.adminId = record.adminId → stored.credentials = record.credentials) := by
  by_cases hid : stored.adminId = record.adminId
  · rw [if_pos hid]
    refine ⟨fun h _ => (congrArg Account.credentials h).symm, fun h => ?_⟩
    have hcredentials := h hid
    unfold AdminInfo.account
    rw [hcredentials, hid]
    rfl
  · rw [if_neg hid]
    exact ⟨fun _ hsame => absurd hsame hid, fun _ => rfl⟩

theorem unraced_advance_iff {s : OpsStore} {w t : AdminWorld} {call : Nat}
    (h : Statement w t call) (hintact : Intact s w) :
    Unraced w (.advance call) ↔ Intact s t := by
  have haccounts := hintact.accounts
  rw [intact_iff]
  change (∀ e ∈ w.upcoming call, WritesBack w.state e) ↔ _
  cases h with
  | quiet hup hhistory hrows =>
    rw [hup, hhistory, OpsStore.accounts, hrows]
    exact ⟨fun _ => haccounts, fun _ _ he => absurd he List.not_mem_nil⟩
  | noted e hquiet hup _ hhistory hrows =>
    rw [hup, hhistory]
    refine ⟨fun _ => ?_, fun _ e' he' => List.mem_singleton.mp he' ▸ hquiet w.state⟩
    calc t.state.accounts = w.state.accounts.map fun a => a.noting e := by
          unfold OpsStore.accounts
          rw [hrows, List.map_map, List.map_map]
          exact List.map_congr_left fun row _ => account_noting row e
      _ = s.accounts.map (Account.replay ((call, e) :: w.history)) := by
          rw [haccounts, List.map_map]
          rfl
  | assigned record row hup _ _ hhistory hrows =>
    -- the event itself says nothing about the credentials
    have hsame : Account.replay ((call, .profileSet record) :: w.history) =
        Account.replay w.history := by
      funext a
      exact ite_self (a.replay w.history)
    rw [hup, hhistory, hsame, ← haccounts, OpsStore.accounts, OpsStore.accounts, hrows,
      List.map_map, List.map_inj_left, List.forall_mem_singleton]
    exact forall₂_congr fun stored _ => account_assigned_iff.symm

/-- The runs in which profile updates write only while the credentials are what they have read are
the runs in which no update is lost. -/
theorem unraced_iff_intact (hash lower : String → String) (s : OpsStore) (w : AdminWorld) :
    Reachable (guarded Unraced (rel (step hash lower))) (Interleaving.start s) w ↔
      Reachable (kept (Intact s) (rel (step hash lower))) (Interleaving.start s) w ∧
        Intact s w := by
  have hstart : Intact s (Interleaving.start s) := intact_iff.mpr (List.map_id' _).symm
  refine Reachable.guarded_iff_kept (Intact s) hstart fun w a t hr hintact hstep => ?_
  have hgrounded : Grounded s w :=
    hr.invariant _ (grounded_start s) fun _ _ _ hw hs => hw.step hs
  have hunchanged : t.state.accounts = w.state.accounts → t.history = w.history → Intact s t :=
    fun hstate hhistory => intact_iff.mpr (by rw [hstate, hhistory, hintact.accounts])
  cases a with
  | advance call => exact unraced_advance_iff (hgrounded.statement hstep) hintact
  | profile random req =>
    obtain ⟨-, hsome⟩ := Option.ite_none_right_eq_some.mp hstep
    obtain rfl := Option.some.inj hsome
    exact ⟨fun _ => hunchanged rfl rfl, fun _ => trivial⟩
  | changePassword adminId req =>
    obtain rfl := Option.some.inj hstep
    exact ⟨fun _ => hunchanged rfl rfl, fun _ => trivial⟩
  | unlock adminId =>
    obtain rfl := Option.some.inj hstep
    exact ⟨fun _ => hunchanged rfl rfl, fun _ => trivial⟩
  | login random req remoteIp =>
    obtain rfl := Option.some.inj hstep
    exact ⟨fun _ => hunchanged rfl rfl, fun _ => trivial⟩
  | pass milliseconds =>
    obtain rfl := Option.some.inj hstep
    exact ⟨fun _ => hunchanged rfl rfl, fun _ => trivial⟩

/-! ## A password change in the middle of a profile update -/

section Samples

/-- The update has read the row when the password changes, and writes the old hash back. -/
def racingUpdate : List RecordMove :=
  [.profile AttemptMove.sampleDigits ⟨"user-1", "root", "Operator", "", "", "", "active", ""⟩,
    .advance 0, .advance 0, .changePassword "admin-1" ⟨"new-password"⟩, .advance 1, .advance 1,
    .advance 1, .advance 0, .advance 0]

def raced : AdminWorld :=
  execD (step AttemptMove.sampleHash id) (Interleaving.start AttemptMove.oneAdmin) racingUpdate

end Samples

/-- The old password is back. -/
theorem password_change_lost : ¬∀ (hash lower : String → String) (s : OpsStore) (w : AdminWorld),
    Reachable (rel (step hash lower)) (Interleaving.start s) w → Intact s w := by
  intro h
  have hexec : exec (step AttemptMove.sampleHash id) (Interleaving.start AttemptMove.oneAdmin)
      racingUpdate = some raced := exec_eq_execD (by decide)
  have hlost : raced.state.accounts ≠
      AttemptMove.oneAdmin.accounts.map (Account.replay raced.history) := by decide
  exact hlost (h _ _ _ _ (.of_exec .start hexec)).accounts

end RecordMove

end Slan.Ops
