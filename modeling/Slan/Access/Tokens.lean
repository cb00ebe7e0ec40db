import Slan.Lib.Transition
import Slan.Networks.UserRows
import Slan.Ops.Seeding

/-! # `access.go`: accounts, and the access tokens that are given out for them

Calls run at once, each with its statements in order. `hash` is `util.HashPassword` and `lower` is
`strings.ToLower`; times are Unix milliseconds.
-/

namespace Slan.Access

open Control (newId opaqueToken)
open Networks (Failure Fresh HexText KeyEvent Request SameUsers Store User)
open Ops (OpsDefaultAdminConfig bearerToken normalizeEmail)
open Program (Assures Each Rely exec execOr query)
open Transition

/-! ## The keys of Redis -/

/-- What a key that is named after something is for. -/
inductive KeyFamily where
  | accessToken
  | refreshToken
  | opsAccessToken
  | controlSessionToken
  | networkRevision
  | connectPlanRetryCount
  | connectPlanRetryGate
  | peerCandidateDelivery
  | authCallbackStatus
  | authCallbackPayload
  deriving DecidableEq, Repr

namespace KeyFamily

def text : KeyFamily → String
  | accessToken => "access_token"
  | refreshToken => "refresh_token"
  | opsAccessToken => "ops_access_token"
  | controlSessionToken => "control_session_token"
  | networkRevision => "network_revision"
  | connectPlanRetryCount => "connect_plan_retry_count"
  | connectPlanRetryGate => "connect_plan_retry_gate"
  | peerCandidateDelivery => "peer_candidate_delivery"
  | authCallbackStatus => "auth_callback_status"
  | authCallbackPayload => "auth_callback_payload"

def key (family : KeyFamily) (name : String) : String := family.text ++ ":" ++ name

theorem toList_key (family : KeyFamily) (name : String) :
    (family.key name).toList = family.text.toList ++ ':' :: name.toList := by
  rw [key, String.toList_append, String.toList_append, List.append_assoc]
  rfl

theorem count_colon_text (family : KeyFamily) : family.text.toList.count ':' = 0 := by
  cases family <;> decide

/-- Whatever they are named after, no key of another family is the key of an access token. -/
theorem key_eq_accessToken {family : KeyFamily} {name token : String}
    (h : family.key name = accessToken.key token) : family = accessToken ∧ name = token := by
  have hlist := congrArg String.toList h
  rw [toList_key, toList_key] at hlist
  obtain ⟨htext, hname⟩ := Text.append_sep_inj
    ((count_colon_text family).trans (count_colon_text accessToken).symm) hlist
  refine ⟨?_, String.toList_inj.mp hname⟩
  cases family with
  | accessToken => rfl
  | _ => exact absurd htext (by decide)

end KeyFamily

/-! ## The store -/

structure StoredText where
  value : String
  expiresAt : Nat
  deriving DecidableEq, Repr

/-- An access token that was given out, to whom, when and for what it was asked. -/
structure Issue where
  token : String
  userId : String
  email : String
  password : String
  time : Nat
  deriving DecidableEq, Repr

structure AccessStore where
  now : Nat
  tables : Store
  /-- The column `password_hash` of the users. -/
  passwordHashes : Table String
  redis : Table StoredText
  /-- The access tokens so far, the last one first. -/
  issued : List Issue

abbrev AccessCall := Program AccessStore KeyEvent Failure

def accessTokenTtl : Nat := 3600000

def refreshTokenTtl : Nat := 86400000

namespace AccessStore

variable (s : AccessStore)

def passwordHash (userId : String) : String := (s.passwordHashes.get? userId).getD ""

def userByEmail (lower : String → String) (email : String) : Option User :=
  s.tables.userByEmail (normalizeEmail lower email)

def createUser (lower : String → String) (row : User) (passwordHash : String) :
    Option AccessStore :=
  (s.tables.createUser { row with email := normalizeEmail lower row.email }).map fun tables =>
    { s with tables, passwordHashes := s.passwordHashes.put row.userId passwordHash }

/-- `SET` with a time to live. -/
def set (family : KeyFamily) (name value : String) (ttl : Nat) : AccessStore :=
  { s with redis := s.redis.put (family.key name) ⟨value, s.now + ttl⟩ }

def get (family : KeyFamily) (name : String) : Option String :=
  ((s.redis.get? (family.key name)).filter fun stored => s.now < stored.expiresAt).map
    StoredText.value

/-- Besides, it is noted what the token was given out for. -/
def storeAccessToken (token userId email password : String) : AccessStore :=
  { s.set .accessToken token userId accessTokenTtl with
    issued := ⟨token, userId, email, password, s.now⟩ :: s.issued }

def storeRefreshToken (token userId : String) : AccessStore :=
  s.set .refreshToken token userId refreshTokenTtl

end AccessStore

/-! ## The calls -/

structure RegisterRequest where
  email : String
  password : String

structure LoginRequest where
  email : String
  password : String

structure AuthResponse where
  userId : String
  accessToken : String
  refreshToken : String
  expiresIn : Int
  deriving DecidableEq, Repr

/-- What a call draws at random. -/
structure Draw where
  fresh : Fresh
  access : HexText
  refresh : HexText

/-- The e-mail address and the password that were presented are only noted. -/
def issueAuthResponse (draw : Draw) (userId email password : String) : AccessCall AuthResponse := do
  let accessToken := opaqueToken "access" userId draw.access
  let refreshToken := opaqueToken "refresh" userId draw.refresh
  exec fun s => s.storeAccessToken accessToken userId email password
  exec fun s => s.storeRefreshToken refreshToken userId
  pure ⟨userId, accessToken, refreshToken, 3600⟩

section Calls

variable (hash lower : String → String)

/-- A call on the tables alone. -/
def onTables {α : Type} (p : Networks.Call α) : AccessCall α :=
  p.within AccessStore.tables fun tables s => { s with tables }

def register (draw : Draw) (req : RegisterRequest) : AccessCall AuthResponse := do
  let email := normalizeEmail lower req.email
  if email = "" ∨ (Text.utf8 req.password).length < 8 then
    .fail (.service (.wrap .invalidArgument "email and password are required"))
  else do
    let existing ← query fun s => s.userByEmail lower email
    if existing.isSome then .fail (.service (.wrap .conflict "email already exists"))
    else do
      let userId := newId "user" draw.fresh.user
      execOr .database fun s => s.createUser lower ⟨userId, email, ""⟩ (hash req.password)
      let _ ← onTables (Networks.ensureOwnedNetwork draw.fresh userId)
      issueAuthResponse draw userId req.email req.password

def login (draw : Draw) (req : LoginRequest) : AccessCall AuthResponse := do
  let email := normalizeEmail lower req.email
  if email = "" ∨ req.password = "" then
    .fail (.service (.wrap .invalidArgument "email and password are required"))
  else do
    let found ← query fun s =>
      (s.userByEmail lower email).map fun user => (user.userId, s.passwordHash user.userId)
    match found with
    | none => .fail (.service .unauthorized)
    | some (userId, passwordHash) =>
      if passwordHash ≠ hash req.password then .fail (.service .unauthorized)
      else issueAuthResponse draw userId req.email req.password

/-- `seedDefaultAdmin` as far as it writes users. -/
def seedUser (draw : Draw) (cfg : OpsDefaultAdminConfig) : AccessCall Unit := do
  if cfg.Complete lower then do
    let email := normalizeEmail lower cfg.email
    let found ← query fun s => s.userByEmail lower email
    match found with
    | some _ => pure ()
    | none =>
      execOr .database fun s =>
        s.createUser lower ⟨newId "user" draw.fresh.user, email, ""⟩ (hash cfg.password)
  else pure ()

/-- The middleware of the routes that need a user. -/
def authenticate (header : String) : AccessCall String :=
  match bearerToken header with
  | none => .fail (.service .unauthorized)
  | some token => do
    let found ← query fun s => s.get .accessToken token
    Program.orFail (.service .unauthorized) found

end Calls

/-! ## Calls at once -/

inductive AccessMove where
  | register (draw : Draw) (req : RegisterRequest)
  | login (draw : Draw) (req : LoginRequest)
  | seed (draw : Draw) (cfg : OpsDefaultAdminConfig)
  /-- A call that creates no user. -/
  | call (request : Request)
  /-- The next statement of a call. -/
  | advance (call : Nat)
  /-- Something else is kept in Redis, or deleted. -/
  | put (family : KeyFamily) (name : String) (stored : Option StoredText)
  | pass (milliseconds : Nat)

abbrev AccessWorld := Interleaving AccessStore KeyEvent Failure

namespace AccessWorld

/-- Nothing is in Redis yet. -/
def start (now : Nat) (tables : Store) (passwordHashes : Table String) : AccessWorld :=
  Interleaving.start ⟨now, tables, passwordHashes, ∅, []⟩

def step (hash lower : String → String) (sameName : String → String → Bool) (w : AccessWorld) :
    AccessMove → Option AccessWorld
  | .register draw req => some (w.begin (register hash lower draw req).void)
  | .login draw req => some (w.begin (login hash lower draw req).void)
  | .seed draw cfg => some (w.begin (seedUser hash lower draw cfg))
  | .call request =>
    if request.operation.createsUser then none
    else some (w.begin (onTables (request.call sameName)))
  | .advance call => w.advance call
  | .put family name stored =>
    if family = .accessToken then none
    else
      let redis := match stored with
        | some stored => w.state.redis.put (family.key name) stored
        | none => w.state.redis.remove (family.key name)
      some { w with state := { w.state with redis } }
  | .pass milliseconds =>
    some { w with state := { w.state with now := w.state.now + milliseconds } }

end AccessWorld

/-! ## Who may go through -/

/-- The address under which an account is created and looked up. -/
def accountEmail (lower : String → String) (email : String) : String :=
  normalizeEmail lower (normalizeEmail lower email)

namespace AccessStore

/-- The user has this address and this hash of a password. -/
def HasAccount (s : AccessStore) (userId email passwordHash : String) : Prop :=
  (∃ user ∈ s.tables.users, user.userId = userId ∧ user.email = email) ∧
    s.passwordHash userId = passwordHash

/-- A token that a call gave out to the user less than an hour ago, to whom the address and the
password that the call was made with belong. -/
def Vouched (hash lower : String → String) (s : AccessStore) (header userId : String) : Prop :=
  ∃ token, bearerToken header = some token ∧
    ∃ issue ∈ s.issued, issue.token = token ∧ issue.userId = userId ∧
      s.now < issue.time + accessTokenTtl ∧
      s.HasAccount userId (accountEmail lower issue.email) (hash issue.password)

end AccessStore

/-! ## What the calls keep -/

/-- An identifier that `NewID` has given to a user. -/
def IsUserId (userId : String) : Prop := ∃ digits : HexText, userId = newId "user" digits

theorem IsUserId.count_colon {userId : String} (h : IsUserId userId) :
    userId.toList.count ':' = 0 := by
  obtain ⟨digits, rfl⟩ := h
  refine List.count_eq_zero.mpr fun hc => ?_
  rw [Ops.toList_newId, List.mem_append, List.mem_cons] at hc
  rcases hc with hc | hc | hc
  · exact absurd hc (by decide : ':' ∉ ['u', 's', 'e', 'r'])
  · exact absurd hc (by decide)
  · exact absurd (Ops.isHexDigit_of_mem hc) (by decide)

/-- A token tells whom it is for. -/
theorem userId_of_accessToken {a b : String} {random random' : HexText} (ha : IsUserId a)
    (hb : IsUserId b) (h : opaqueToken "access" a random = opaqueToken "access" b random') :
    a = b := by
  have hjoin : ∀ id last : String, ("access" ++ ":" ++ id ++ ":" ++ last).toList =
      "access:".toList ++ (id.toList ++ ':' :: last.toList) := by
    intro id last
    rw [String.toList_append, String.toList_append, String.toList_append, List.append_assoc,
      List.append_assoc]
    rfl
  have hbytes := Text.utf8_injective (Base64.encode_injective _ (String.ofList_injective h))
  have hlist := congrArg String.toList hbytes
  rw [hjoin, hjoin] at hlist
  have hsame := List.append_cancel_left hlist
  exact String.toList_inj.mp
    (Text.append_sep_inj (ha.count_colon.trans hb.count_colon.symm) hsame).1

/-- The tokens in Redis are those that were given out, each until it expires, for the account whose
password was presented. -/
structure AccessStore.Sound (hash lower : String → String) (s : AccessStore) : Prop where
  ids : ∀ user ∈ s.tables.users, IsUserId user.userId
  made : ∀ issue ∈ s.issued, IsUserId issue.userId ∧
    ∃ random : HexText, issue.token = opaqueToken "access" issue.userId random
  backed : ∀ issue ∈ s.issued,
    s.HasAccount issue.userId (accountEmail lower issue.email) (hash issue.password)
  past : ∀ issue ∈ s.issued, issue.time ≤ s.now
  stored : ∀ token stored, s.redis.get? (KeyFamily.accessToken.key token) = some stored →
    ∃ issue ∈ s.issued, issue.token = token ∧ issue.userId = stored.value ∧
      stored.expiresAt = issue.time + accessTokenTtl
  kept : ∀ issue ∈ s.issued, ∃ stored,
    s.redis.get? (KeyFamily.accessToken.key issue.token) = some stored ∧
      stored.value = issue.userId ∧ issue.time + accessTokenTtl ≤ stored.expiresAt

/-- Accounts stay as they are. -/
def KeepsAccounts (s t : AccessStore) : Prop :=
  ∀ userId email passwordHash, s.HasAccount userId email passwordHash →
    t.HasAccount userId email passwordHash

section Keeps

variable (hash lower : String → String)

/-- What one statement of the calls does. -/
structure Maintains (s t : AccessStore) : Prop where
  accounts : KeepsAccounts s t
  sound : s.Sound hash lower → t.Sound hash lower

theorem rely_accounts : Rely KeepsAccounts (Maintains hash lower) where
  refl _ _ _ _ h := h
  trans h h' userId email passwordHash hacc := h' userId email passwordHash (h _ _ _ hacc)
  own h := h.accounts

theorem maintains_refl (s : AccessStore) : Maintains hash lower s s := ⟨fun _ _ _ h => h, id⟩

variable {hash lower} {s : AccessStore}

/-- Nothing but what is none of the tokens' business changes. -/
theorem maintains_of {t : AccessStore} (hissued : t.issued = s.issued) (hnow : s.now ≤ t.now)
    (hids : (∀ user ∈ s.tables.users, IsUserId user.userId) →
      ∀ user ∈ t.tables.users, IsUserId user.userId)
    (haccounts : KeepsAccounts s t)
    (hredis : ∀ token, t.redis.get? (KeyFamily.accessToken.key token) =
      s.redis.get? (KeyFamily.accessToken.key token)) : Maintains hash lower s t where
  accounts := haccounts
  sound hs := {
    ids := hids hs.ids
    made := hissued ▸ hs.made
    backed := fun issue hissue => haccounts _ _ _ (hs.backed issue (hissued ▸ hissue))
    past := fun issue hissue => (hs.past issue (hissued ▸ hissue)).trans hnow
    stored := by
      intro token stored hstored
      rw [hredis] at hstored
      rw [hissued]
      exact hs.stored token stored hstored
    kept := by
      intro issue hissue
      rw [hredis]
      exact hs.kept issue (hissued ▸ hissue) }

theorem keepsAccounts_of_sameUsers {tables : Store} (h : SameUsers s.tables tables) :
    KeepsAccounts s { s with tables } := by
  rintro userId email passwordHash ⟨⟨user, huser, rfl, rfl⟩, hpassword⟩
  obtain ⟨row, hrow, hid, hemail⟩ := h.symm.mem huser
  exact ⟨⟨row, hrow, hid, hemail⟩, hpassword⟩

theorem maintains_tables {tables : Store} (h : SameUsers s.tables tables) :
    Maintains hash lower s { s with tables } := by
  refine maintains_of rfl le_rfl (fun hids user huser => ?_) (keepsAccounts_of_sameUsers h)
    fun _ => rfl
  obtain ⟨row, hrow, hid, -⟩ := h.mem huser
  exact hid ▸ hids row hrow

/-- A write of other keys. -/
theorem maintains_redis {redis : Table StoredText}
    (h : ∀ token, redis.get? (KeyFamily.accessToken.key token) =
      s.redis.get? (KeyFamily.accessToken.key token)) :
    Maintains hash lower s { s with redis } :=
  maintains_of rfl le_rfl (fun hids => hids) (fun _ _ _ hacc => hacc) h

theorem get?_put_other {family : KeyFamily} (hother : family ≠ .accessToken)
    (redis : Table StoredText) (name token : String) (stored : StoredText) :
    (redis.put (family.key name) stored).get? (KeyFamily.accessToken.key token) =
      redis.get? (KeyFamily.accessToken.key token) := by
  rw [Table.get?_put, if_neg fun hkey => hother (KeyFamily.key_eq_accessToken hkey.symm).1]

theorem get?_remove_other {family : KeyFamily} (hother : family ≠ .accessToken)
    (redis : Table StoredText) (name token : String) :
    (redis.remove (family.key name)).get? (KeyFamily.accessToken.key token) =
      redis.get? (KeyFamily.accessToken.key token) := by
  rw [Table.get?_remove, if_neg fun hkey => hother (KeyFamily.key_eq_accessToken hkey.symm).1]

/-- An account that is created is no other's. -/
theorem maintains_createUser {t : AccessStore} {row : User} {passwordHash : String}
    (hid : IsUserId row.userId) (h : s.createUser lower row passwordHash = some t) :
    Maintains hash lower s t ∧
      t.HasAccount row.userId (normalizeEmail lower row.email) passwordHash := by
  obtain ⟨tables, htables, rfl⟩ := Option.map_eq_some_iff.mp h
  obtain ⟨users, husers, rfl⟩ := Option.map_eq_some_iff.mp htables
  have hmem := fun user => Relation.mem_insert (a := user) husers
  refine ⟨maintains_of rfl le_rfl (fun hids user huser => ?_) ?_ fun _ => rfl, ?_⟩
  · rcases (hmem user).mp huser with hold | rfl
    · exact hids user hold
    · exact hid
  · rintro userId email _ ⟨⟨user, huser, rfl, rfl⟩, rfl⟩
    refine ⟨⟨user, (hmem user).mpr (.inl huser), rfl, rfl⟩, ?_⟩
    have hne : user.userId ≠ row.userId := fun heq =>
      Relation.not_clash_of_insert husers huser (.inl heq)
    unfold AccessStore.passwordHash
    rw [Table.get?_put, if_neg hne]
  · refine ⟨⟨_, (hmem _).mpr (.inr rfl), rfl, rfl⟩, ?_⟩
    unfold AccessStore.passwordHash
    rw [Table.get?_put_self]
    rfl

/-- The statement that gives out a token. -/
theorem maintains_storeAccessToken {userId email password : String} (random : HexText)
    (hacc : s.HasAccount userId (accountEmail lower email) (hash password)) :
    Maintains hash lower s
      (s.storeAccessToken (opaqueToken "access" userId random) userId email password) where
  accounts _ _ _ h := h
  sound hs := by
    have hid : IsUserId userId := by
      obtain ⟨⟨user, huser, rfl, -⟩, -⟩ := hacc
      exact hs.ids user huser
    refine ⟨hs.ids, ?_, ?_, ?_, ?_, ?_⟩
    · exact List.forall_mem_cons.mpr ⟨⟨hid, random, rfl⟩, hs.made⟩
    · exact List.forall_mem_cons.mpr ⟨hacc, hs.backed⟩
    · exact List.forall_mem_cons.mpr ⟨le_rfl, hs.past⟩
    · intro token stored hstored
      change (s.redis.put _ _).get? _ = some stored at hstored
      rw [Table.get?_put] at hstored
      split at hstored
      · rename_i hkey
        obtain rfl := Option.some.inj hstored
        exact ⟨_, List.mem_cons_self, (KeyFamily.key_eq_accessToken hkey).2.symm, rfl, rfl⟩
      · obtain ⟨issue, hissue, hrest⟩ := hs.stored token stored hstored
        exact ⟨issue, List.mem_cons_of_mem _ hissue, hrest⟩
    · refine List.forall_mem_cons.mpr ⟨⟨_, Table.get?_put_self _ _ _, rfl, le_rfl⟩, ?_⟩
      intro issue hissue
      change ∃ stored, (s.redis.put _ _).get? _ = some stored ∧ _
      rw [Table.get?_put]
      split
      · -- the same token again, for the same user
        rename_i hkey
        obtain ⟨huser, old, htoken⟩ := hs.made issue hissue
        have hsame := (KeyFamily.key_eq_accessToken hkey).2
        refine ⟨_, rfl, userId_of_accessToken hid huser (hsame.symm.trans htoken), ?_⟩
        exact Nat.add_le_add_right (hs.past issue hissue) _
      · exact hs.kept issue hissue

end Keeps

/-! ## What a call relies on -/

section Calls

variable {hash lower : String → String} {s : AccessStore} {α : Type}

/-- A call that others leave its account to. -/
abbrev Relies (hash lower : String → String) (s : AccessStore) (p : AccessCall α)
    (Q : AccessStore → α → Prop) : Prop :=
  p.Assures KeepsAccounts (Maintains hash lower) s Q

theorem relies_void {p : AccessCall α} (h : Relies hash lower s p fun _ _ => True) :
    Relies hash lower s p.void fun _ _ => True :=
  .bind (rely_accounts hash lower) h fun _ _ _ _ => .pure trivial

theorem relies_onTables {p : Networks.Call α} (h : Each Networks.KeepsUsers p) :
    Relies hash lower s (onTables p) fun _ _ => True :=
  .of_each <| h.within fun _ _ hwrite t => maintains_tables (hwrite t.tables)

theorem relies_issueAuthResponse (draw : Draw) {userId email password : String}
    (hacc : s.HasAccount userId (accountEmail lower email) (hash password)) :
    Relies hash lower s (issueAuthResponse draw userId email password) fun _ _ => True := by
  refine Program.assures_stmt.mpr fun t hst => ⟨?_, Program.assures_stmt.mpr fun u _ => ⟨?_, ?_⟩⟩
  · exact maintains_storeAccessToken draw.access (hst _ _ _ hacc)
  · exact maintains_redis fun token => get?_put_other (by decide) _ _ _ _
  · exact .pure trivial

theorem relies_register (draw : Draw) (req : RegisterRequest) :
    Relies hash lower s (register hash lower draw req) fun _ _ => True := by
  unfold register
  dsimp only
  split
  · exact .fail _
  refine .bind (rely_accounts hash lower) (Q := fun _ _ => True)
    (.query fun t _ => ⟨maintains_refl hash lower t, trivial⟩) fun t existing _ _ => ?_
  split
  · exact .fail _
  refine .bind (rely_accounts hash lower) (Q := fun u _ => u.HasAccount
      (newId "user" draw.fresh.user) (accountEmail lower req.email) (hash req.password))
    (.execOr (fun u _ v hwrite => maintains_createUser ⟨draw.fresh.user, rfl⟩ hwrite)
      (maintains_refl hash lower)) fun u _ _ hacc => ?_
  have hnetwork : Each Networks.KeepsUsers
      (Networks.ensureOwnedNetwork draw.fresh (newId "user" draw.fresh.user)) :=
    Networks.writesTables_keepsUsers.ensureOwnedNetwork Networks.writesTables_keepsUsers.network _ _
  refine .bind (rely_accounts hash lower) (relies_onTables hnetwork) fun v _ huv _ => ?_
  exact relies_issueAuthResponse draw (huv _ _ _ hacc)

theorem relies_login (draw : Draw) (req : LoginRequest) :
    Relies hash lower s (login hash lower draw req) fun _ _ => True := by
  unfold login
  dsimp only
  split
  · exact .fail _
  refine .bind (rely_accounts hash lower) (Q := fun t found => ∀ userId passwordHash,
      found = some (userId, passwordHash) →
        t.HasAccount userId (accountEmail lower req.email) passwordHash)
    (.query fun t _ => ⟨maintains_refl hash lower t, fun userId passwordHash hfound => ?_⟩)
    fun t found _ hfound => ?_
  · obtain ⟨user, huser, heq⟩ := Option.map_eq_some_iff.mp hfound
    obtain ⟨rfl, rfl⟩ := Prod.mk.inj heq
    obtain ⟨hmem, hemail⟩ := Relation.of_find?_key huser
    exact ⟨⟨user, hmem, rfl, hemail⟩, rfl⟩
  · cases found with
    | none => exact .fail _
    | some row =>
      obtain ⟨userId, passwordHash⟩ := row
      dsimp only
      split
      · exact .fail _
      · rename_i hsame
        refine relies_issueAuthResponse draw ?_
        exact not_not.mp hsame ▸ hfound userId passwordHash rfl

theorem relies_seedUser (draw : Draw) (cfg : OpsDefaultAdminConfig) :
    Relies hash lower s (seedUser hash lower draw cfg) fun _ _ => True := by
  unfold seedUser
  split
  · refine .bind (rely_accounts hash lower) (Q := fun _ _ => True)
      (.query fun t _ => ⟨maintains_refl hash lower t, trivial⟩) fun t found _ _ => ?_
    cases found with
    | some user => exact .pure trivial
    | none =>
      exact .execOr (fun u _ v hwrite =>
        ⟨(maintains_createUser ⟨draw.fresh.user, rfl⟩ hwrite).1, trivial⟩)
        (maintains_refl hash lower)
  · exact .pure trivial

end Calls

/-! ## Runs -/

section Runs

variable {hash lower : String → String} {sameName : String → String → Bool} {w t : AccessWorld}

/-- The store is sound, and so is what the calls under way will do. -/
structure AccessWorld.Sound (hash lower : String → String) (w : AccessWorld) : Prop where
  state : w.state.Sound hash lower
  calls : w.Ensures KeepsAccounts (Maintains hash lower) fun _ => True

theorem AccessWorld.Sound.moved {s : AccessStore} (h : w.Sound hash lower)
    (hle : Maintains hash lower w.state s) :
    AccessWorld.Sound hash lower { w with state := s } where
  state := hle.sound h.state
  calls := h.calls.withState (rely_accounts hash lower) (fun _ _ _ _ => trivial) hle.accounts

theorem AccessWorld.Sound.step {move : AccessMove} (h : w.Sound hash lower)
    (hstep : w.step hash lower sameName move = some t) : t.Sound hash lower := by
  cases move with
  | register draw req =>
    obtain rfl := Option.some.inj hstep
    exact ⟨h.state, h.calls.begin (relies_void (relies_register draw req))⟩
  | login draw req =>
    obtain rfl := Option.some.inj hstep
    exact ⟨h.state, h.calls.begin (relies_void (relies_login draw req))⟩
  | seed draw cfg =>
    obtain rfl := Option.some.inj hstep
    exact ⟨h.state, h.calls.begin (relies_seedUser draw cfg)⟩
  | call request =>
    obtain ⟨hcreates, hbegun⟩ := Option.ite_none_left_eq_some.mp hstep
    obtain rfl := Option.some.inj hbegun
    have heach := Networks.writesTables_keepsUsers.request sameName (Bool.not_eq_true _ ▸ hcreates)
    exact ⟨h.state, h.calls.begin (relies_onTables heach)⟩
  | advance call =>
    obtain ⟨hle, hcalls⟩ :=
      h.calls.advance (rely_accounts hash lower) (fun _ _ _ _ => trivial) hstep
    exact ⟨hle.sound h.state, hcalls⟩
  | put family name stored =>
    obtain ⟨hother, hput⟩ := Option.ite_none_left_eq_some.mp hstep
    obtain rfl := Option.some.inj hput
    refine h.moved (maintains_redis fun token => ?_)
    cases stored with
    | none => exact get?_remove_other hother _ _ _
    | some stored => exact get?_put_other hother _ _ _ _
  | pass milliseconds =>
    obtain rfl := Option.some.inj hstep
    exact h.moved (maintains_of rfl (Nat.le_add_right _ _) (fun hids => hids)
      (fun _ _ _ hacc => hacc) fun _ => rfl)

theorem run_authenticate {s : AccessStore} {header userId : String} :
    ((authenticate header).run s).1 = .ok userId ↔
      ∃ token, bearerToken header = some token ∧ s.get .accessToken token = some userId := by
  unfold authenticate
  cases bearerToken header with
  | none => simp
  | some token =>
    rw [Program.run_bind, Program.run_query]
    dsimp only
    cases hget : s.get .accessToken token with
    | none => simp [hget]
    | some found => simp [hget]

/-- Whatever calls run at once, a request goes through as a user if and only if its bearer token was
given out less than an hour ago, to this user, for the address and the password of the account. -/
theorem authenticated_iff (hash lower : String → String) (sameName : String → String → Bool)
    (now : Nat) (tables : Store) (passwordHashes : Table String)
    (hids : ∀ user ∈ tables.users, IsUserId user.userId) (w : AccessWorld)
    (h : Reachable (rel (AccessWorld.step hash lower sameName))
      (AccessWorld.start now tables passwordHashes) w) (header userId : String) :
    ((authenticate header).run w.state).1 = .ok userId ↔
      w.state.Vouched hash lower header userId := by
  have hstart : AccessWorld.Sound hash lower (AccessWorld.start now tables passwordHashes) := by
    refine ⟨⟨hids, ?_, ?_, ?_, ?_, ?_⟩, Interleaving.ensures_start _⟩
    · exact fun _ hissue => absurd hissue List.not_mem_nil
    · exact fun _ hissue => absurd hissue List.not_mem_nil
    · exact fun _ hissue => absurd hissue List.not_mem_nil
    · intro token stored hstored
      exact absurd ((Table.get?_empty _).symm.trans hstored) (Option.some_ne_none stored).symm
    · exact fun _ hissue => absurd hissue List.not_mem_nil
  have hw := (h.invariant (AccessWorld.Sound hash lower) hstart
    fun _ _ _ hw hstep => hw.step hstep).state
  rw [run_authenticate]
  constructor
  · rintro ⟨token, hbearer, hget⟩
    obtain ⟨stored, hlive, rfl⟩ := Option.map_eq_some_iff.mp hget
    obtain ⟨hstored, hnow⟩ := Option.filter_eq_some_iff.mp hlive
    obtain ⟨issue, hissue, htoken, huser, hexpires⟩ := hw.stored token stored hstored
    refine ⟨token, hbearer, issue, hissue, htoken, huser, ?_, huser ▸ hw.backed issue hissue⟩
    exact hexpires ▸ decide_eq_true_eq.mp hnow
  · rintro ⟨token, hbearer, issue, hissue, rfl, rfl, hnow, -⟩
    obtain ⟨stored, hstored, hvalue, hexpires⟩ := hw.kept issue hissue
    refine ⟨_, hbearer, Option.map_eq_some_iff.mpr ⟨stored, ?_, hvalue⟩⟩
    exact Option.filter_eq_some_iff.mpr ⟨hstored, decide_eq_true (hnow.trans_le hexpires)⟩

end Runs

/-! ## A registration, and a login half an hour later -/

section Samples

def firstDraw : Draw := ⟨.ofDigits "a1" (.refl true), ⟨"b2", .refl true⟩, ⟨"c3", .refl true⟩⟩

def secondDraw : Draw := ⟨.ofDigits "d4" (.refl true), ⟨"e5", .refl true⟩, ⟨"f6", .refl true⟩⟩

/-- The second token is given out when the first one has half of its hour left. -/
def registerThenLogin : List AccessMove :=
  .register firstDraw ⟨"ann@slan", "password"⟩ :: List.replicate 9 (.advance 0) ++
    [.login secondDraw ⟨" ann@slan", "password"⟩, .advance 1, .pass 1800000, .advance 1,
      .advance 1, .pass 1800000]

def afterLogin : AccessWorld :=
  execD (AccessWorld.step id id fun a b => a == b) (.start 0 ∅ ∅) registerThenLogin

def loginHeader : String := "Bearer " ++ opaqueToken "access" "user-a1" "e5"

theorem login_vouched : afterLogin.state.Vouched id id loginHeader "user-a1" :=
  (authenticated_iff id id (fun a b => a == b) 0 ∅ ∅
    (fun _ h => absurd h (Relation.not_mem_empty _)) afterLogin
    (.of_exec .start (exec_eq_execD (by decide))) loginHeader "user-a1").mp rfl

end Samples

end Slan.Access
