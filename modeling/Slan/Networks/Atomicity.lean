import Slan.Networks.Moves
import Slan.Networks.Workflows

/-! # Which workflows of membership are atomic

A workflow is a sequence of statements without a transaction around them. It is all or nothing
wherever a statement fails only if no statement follows the first one that changes a row.
-/

namespace Slan.Networks

open Control (newId)
open Program (Endures Mirrors Reads query run_bind_eq_ok run_pure_eq_ok run_query_eq_ok)
open Transition

/-- The same users with their active networks, networks with their join keys, members and
attachments. -/
structure SameRows (s t : Store) : Prop where
  users : t.users = s.users
  networks : t.networks = s.networks
  members : t.members = s.members
  attachments : t.attachments = s.attachments

/-- With a failing statement after so many others, the call has all its effects or none. -/
def AtomicAt (call : FaultyCall Unit) (s : Store) (position : Nat) : Prop :=
  match call.run (some position, s) with
  | (.ok _, _, t) => call.run (none, s) = (.ok (), none, t)
  | (.error _, _, t) => SameRows s t

def Workflow.Atomic (fresh : Fresh) (s : Store) (w : Workflow) : Prop :=
  ∀ position, AtomicAt (w.call fresh) s position

/-! ## The condition -/

/-- The user's devices are in the network alone, and it is the active one. A blank network is none
to be in. -/
structure Arrived (s : Store) (userId networkId : String) : Prop where
  members : ∀ m ∈ s.members, s.Owns userId m.deviceId → networkId ≠ "" ∧ m.networkId = networkId
  attachments : ∀ a ∈ s.attachments, s.Owns userId a.deviceId →
    networkId ≠ "" ∧ a.networkId = networkId
  active : ∀ u ∈ s.users, u.userId = userId → u.activeNetworkId = networkId

/-- The user's device is let into the network. -/
structure Admitted (s : Store) (userId networkId deviceId : String) : Prop where
  named : Text.isBlank deviceId = false
  device : ∃ device, s.deviceById deviceId = some device ∧ device.userId = userId
  access : ∃ record, s.networkById networkId = some record ∧
    (record.ownerUserId = userId ∨ ∃ device ∈ s.devicesByUser userId,
      (s.memberByNetworkDevice networkId device.deviceId).isSome)

/-- Nobody has registered with the address, and the identifier is not in use. -/
structure Registers (fresh : Fresh) (s : Store) (email password : String) : Prop where
  valid : email ≠ "" ∧ 8 ≤ (Text.utf8 password).length
  email : s.userByEmail email = none
  unused : ∀ u ∈ s.users, u.userId ≠ newId "user" fresh.user

/-- The user may create their network, and the identifiers are not in use. -/
structure Creates (fresh : Fresh) (s : Store) (userId : String) (req : CreateNetworkRequest)
    (user : User) : Prop where
  named : Text.trim req.name ≠ ""
  first : s.ownedNetworkByUser userId = none
  device : Text.trim req.bindDeviceId ≠ "" → ∃ device,
    s.deviceById (Text.trim req.bindDeviceId) = some device ∧ device.userId = userId
  user : s.userById userId = some user
  cidr : ∃ range, subnetRange req.cidr "" "" "" = .ok range
  network : ∀ n ∈ s.networks, n.networkId ≠ newId "net" fresh.network
  subnet : ∀ x ∈ s.subnets, x.subnetId ≠ newId "subnet" fresh.subnet

/-- The user's device has a key of a network. -/
structure HasKey (s : Store) (userId joinKey deviceId : String) : Prop where
  key : Text.trim joinKey ≠ ""
  named : Text.isBlank deviceId = false
  device : ∃ device, s.deviceById deviceId = some device ∧ device.userId = userId
  network : ∃ record, s.networkByJoinKey (Text.trim joinKey) = some record

namespace Workflow

/-- Nothing follows the first statement that changes a row. -/
def Harmless (fresh : Fresh) (s : Store) : Workflow → Prop
  | .register email password => ¬Registers fresh s email password
  | .create userId req => ∀ user, Creates fresh s userId req user →
    Text.isBlank user.activeNetworkId = false ∧ Text.trim req.bindDeviceId = ""
  | .joinByKey userId joinKey deviceId => ¬HasKey s userId joinKey deviceId
  | .join userId networkId deviceId | .switch userId networkId deviceId =>
    Admitted s userId networkId deviceId → Arrived s userId networkId
  | .activate userId networkId deviceId => Admitted s userId networkId deviceId →
    Arrived s userId networkId ∧ (s.IsMember networkId deviceId ∨
      ∃ m ∈ s.members, m.memberId = newId "member" fresh.member)

end Workflow

/-! ## Errors -/

section Errors

variable {s t : Store}

theorem SameRows.refl (s : Store) : SameRows s s := ⟨rfl, rfl, rfl, rfl⟩

/-- What is left to show: the errors leave the rows. -/
theorem atomic_iff_errors {fresh : Fresh} {w : Workflow} :
    w.Atomic fresh s ↔ ∀ position err c t,
      (w.call fresh).run (some position, s) = (.error err, c, t) → SameRows s t := by
  refine forall_congr' fun position => ?_
  unfold AtomicAt
  cases hrun : (w.call fresh).run (some position, s) with
  | mk result x =>
    obtain ⟨c, t⟩ := x
    cases result with
    | error err =>
      refine ⟨fun hsame err' c' t' heq => ?_, fun h => h err c t rfl⟩
      obtain ⟨-, hleft⟩ := Prod.mk.inj heq
      obtain ⟨-, rfl⟩ := Prod.mk.inj hleft
      exact hsame
    | ok _ =>
      refine ⟨fun _ _ _ _ heq => (nomatch heq), fun _ => ?_⟩
      have hok := steadfast_call fresh w (some position) s () c t hrun
      rw [(mirrors_call fresh w).unfailed, hok]

/-- What is left of a call that failed is all it may leave. -/
theorem Workflow.Atomic.of_endures {fresh : Fresh} {w : Workflow} {Q : Unit → Store → Prop}
    (h : Endures (· = s) (w.call fresh) Q (SameRows s)) : w.Atomic fresh s :=
  atomic_iff_errors.mpr fun _ _ _ _ hrun => h.of_run_error rfl hrun

end Errors

/-! ## What a harmless workflow leaves where it fails -/

section Endures

variable {s : Store} {fresh : Fresh}

/-- A call that only reads. -/
theorem endures_reads {α : Type} {p : Call α} (hreads : Program.Each Reads p) :
    Endures (· = s) (tried p) (fun a t => t = s ∧ p.run s = (.ok a, s)) (SameRows s) := by
  refine hreads.endures (fun t a ht hrun => ?_) fun t ht => ?_
  · rw [ht] at hrun
    exact ⟨ht, hrun⟩
  · rw [ht]
    exact .refl s

theorem endures_register {email password : String} (h : ¬Registers fresh s email password) :
    Endures (· = s) (tried (register fresh email password)) (fun _ _ => True) (SameRows s) := by
  have hsame : ∀ t, t = s → SameRows s t := fun t ht => ht ▸ .refl s
  unfold tried register
  rw [Program.failing_bind]
  suffices hnever : Endures (· = s) (tried (registerUser fresh email password))
      (fun _ _ => False) (SameRows s) from hnever.bind fun _ => Program.endures_false
  unfold tried registerUser
  split
  · exact .fail hsame
  · rename_i hvalid
    rw [Program.failing_bind]
    refine .bind (Program.endures_query (Q := fun found t => t = s ∧ s.userByEmail email = found)
      (fun t ht => ⟨ht, ht ▸ rfl⟩) hsame) fun found => ?_
    split
    · exact .fail fun t ht => hsame t ht.1
    · rename_i hnone
      rw [Program.failing_bind]
      -- the row is refused
      refine .bind (R := fun _ _ => False) (Program.endures_execOr (fun t ht u hwrite => ?_)
        fun t ht => hsame t ht.1) fun _ => Program.endures_false
      obtain ⟨rfl, hfound⟩ := ht
      rw [not_or, not_lt] at hvalid
      obtain ⟨users, hinsert, rfl⟩ := Option.map_eq_some_iff.mp hwrite
      refine h ⟨hvalid, ?_, fun u hu hid => ?_⟩
      · rw [hfound]
        exact Option.not_isSome_iff_eq_none.mp hnone
      · exact Relation.not_clash_of_insert hinsert hu (.inl hid)

theorem endures_create {userId : String} {req : CreateNetworkRequest}
    (h : ∀ user, Creates fresh s userId req user →
      Text.isBlank user.activeNetworkId = false ∧ Text.trim req.bindDeviceId = "") :
    Endures (· = s) (tried (create fresh userId req).void) (fun _ _ => True) (SameRows s) := by
  unfold tried Program.void create
  rw [Program.failing_bind, Program.failing_bind]
  refine .bind (R := fun _ _ => True)
    (.bind (endures_reads (each_prepareNetwork Program.reads_query fresh userId req))
      fun prepared => ?_) fun _ => .pure fun _ _ => trivial
  obtain ⟨user, network, subnet⟩ := prepared
  dsimp only
  rw [Program.failing_bind]
  refine .bind (R := fun _ _ => Text.isBlank user.activeNetworkId = false ∧
      Text.trim req.bindDeviceId = "") (Program.endures_execOr (fun t ht u hwrite => ?_)
    fun t ht => ht.1 ▸ .refl s) fun _ => ?_
  · obtain ⟨rfl, hrun⟩ := ht
    obtain ⟨hfirst, hdevice, huser, hnetworkId, -, hsubnetId, -, -, hname, hrange⟩ :=
      run_prepareNetwork_eq_ok hrun
    obtain ⟨networks, hnetworks, hrest⟩ := Option.bind_eq_some_iff.mp hwrite
    obtain ⟨subnets, hsubnets, -⟩ := Option.bind_eq_some_iff.mp hrest
    refine h user ⟨hname, hfirst, hdevice, huser, hrange, fun n hn hid => ?_, fun x hx hid => ?_⟩
    · exact Relation.not_clash_of_insert hnetworks hn (hid.trans hnetworkId.symm)
    · exact Relation.not_clash_of_insert hsubnets hx (hid.trans hsubnetId.symm)
  · -- nothing follows
    by_cases hrest : Text.isBlank user.activeNetworkId = false ∧ Text.trim req.bindDeviceId = ""
    · unfold onlyIf
      rw [hrest.1, hrest.2, bne_self_eq_false, if_neg Bool.false_ne_true,
        if_neg Bool.false_ne_true]
      exact .pure fun _ _ => trivial
    · exact Program.endures_false.imp (fun _ => hrest) (fun _ _ => id) fun _ => id

/-- Control sessions are in none of the tables. -/
def SameButSessions (s t : Store) : Prop := ∃ sessions, t = { s with controlSessions := sessions }

theorem SameButSessions.rows {t : Store} (h : SameButSessions s t) : SameRows s t := by
  obtain ⟨sessions, rfl⟩ := h
  exact ⟨rfl, rfl, rfl, rfl⟩

theorem SameButSessions.of_eq {t : Store} (h : t = s) : SameButSessions s t :=
  ⟨s.controlSessions, h⟩

/-- The device of a user who has arrived leaves nothing behind. -/
theorem endures_leaveOthers {userId networkId deviceId : String}
    (harrived : Arrived s userId networkId) (howns : s.Owns userId deviceId) :
    Endures (SameButSessions s) (tried (ensureSingleNetworkMembership deviceId networkId))
      (fun _ => SameButSessions s) (SameButSessions s) := by
  unfold tried ensureSingleNetworkMembership
  rw [Program.failing_bind]
  refine .bind (R := fun _ => SameButSessions s) (Program.endures_exec (fun t ht => ?_) fun _ => id)
    fun _ => ?_
  · obtain ⟨sessions, rfl⟩ := ht
    exact ⟨_, rfl⟩
  rw [Program.failing_bind]
  refine .bind (R := fun _ => SameButSessions s) (Program.endures_exec (fun t ht => ?_) fun _ => id)
    fun _ => Program.endures_exec (fun t ht => ?_) fun _ => id
  · obtain ⟨sessions, rfl⟩ := ht
    refine ⟨sessions, congrArg
      (fun attachments => { s with attachments, controlSessions := sessions })
      (Relation.delete_eq_self fun a ha => Store.leaves_iff.mpr ?_)⟩
    rintro rfl
    exact harrived.attachments a ha howns
  · obtain ⟨sessions, rfl⟩ := ht
    refine ⟨sessions, congrArg (fun members => { s with members, controlSessions := sessions })
      (Relation.delete_eq_self fun m hm => Store.leaves_iff.mpr ?_)⟩
    rintro rfl
    exact harrived.members m hm howns

theorem endures_ensureSingleActiveNetworkForUser {userId networkId : String}
    (harrived : Arrived s userId networkId) :
    Endures (· = s) (tried (ensureSingleActiveNetworkForUser userId networkId))
      (fun _ => SameButSessions s) (SameButSessions s) := by
  unfold tried ensureSingleActiveNetworkForUser
  rw [Program.failing_bind]
  refine .bind (R := fun devices t => SameButSessions s t ∧ devices = s.devicesByUser userId)
    (Program.endures_query (fun t ht => ⟨.of_eq ht, ht ▸ rfl⟩) fun _ => .of_eq)
    fun devices => ?_
  rw [Program.failing_bind, Program.failing_forEach]
  refine .bind (R := fun _ => SameButSessions s) ?_ fun _ =>
    Program.endures_exec (fun t ht => ?_) fun _ => id
  · have hloop := Endures.forEach
      (I := fun devices t => SameButSessions s t ∧ ∀ device ∈ devices,
        s.Owns userId device.deviceId) (E := SameButSessions s)
      (f := fun device : Device =>
        tried (ensureSingleNetworkMembership device.deviceId networkId)) ?_ devices
    · refine hloop.imp (fun t ht => ⟨ht.1, fun device hdevice => ?_⟩) (fun _ t ht => ht.1)
        fun _ => id
      rw [ht.2] at hdevice
      obtain ⟨hmem, howner⟩ := Store.mem_devicesByUser.mp hdevice
      exact ⟨device, hmem, howner, rfl⟩
    · intro device devices
      by_cases hall : ∀ d ∈ device :: devices, s.Owns userId d.deviceId
      · obtain ⟨howns, hrest⟩ := List.forall_mem_cons.mp hall
        exact (endures_leaveOthers harrived howns).imp (fun _ ht => ht.1)
          (fun _ _ ht => ⟨ht, hrest⟩) fun _ => id
      · exact Program.endures_false.imp (fun _ ht => hall ht.2) (fun _ _ => id) fun _ => id
  · obtain ⟨sessions, rfl⟩ := ht
    refine ⟨sessions, congrArg (fun users => { s with users, controlSessions := sessions })
      (Relation.alter_eq_self fun u hu => ?_)⟩
    split
    · rename_i hid
      rw [← harrived.active u hu hid]
    · rfl

/-- The user has arrived, so that only a member row may be made. -/
theorem endures_ensureActiveMemberForNetwork {userId deviceId : String} {record : Network}
    (harrived : Arrived s userId record.networkId) :
    Endures (· = s) (tried (ensureActiveMemberForNetwork fresh userId deviceId record))
      (fun _ t => (s.IsMember record.networkId deviceId ∨
        ∃ m ∈ s.members, m.memberId = newId "member" fresh.member) → SameButSessions s t)
      (SameButSessions s) := by
  unfold tried ensureActiveMemberForNetwork
  rw [Program.failing_bind]
  refine (endures_ensureSingleActiveNetworkForUser harrived).bind fun _ => ?_
  rw [Program.failing_bind]
  refine .bind (R := fun _ => SameButSessions s)
    ((each_membershipRole Program.reads_query _ _ _ _).endures (fun _ _ ht _ => ht) fun _ => id)
    fun role => ?_
  unfold ensureMember
  rw [Program.failing_bind]
  refine .bind (R := fun found t => SameButSessions s t ∧
      s.memberByNetworkDevice record.networkId deviceId = found)
    (Program.endures_query (fun t ht => ⟨ht, ?_⟩) fun _ => id) fun found => ?_
  · obtain ⟨sessions, rfl⟩ := ht
    rfl
  cases found with
  | some member => exact .pure fun _ ht _ => ht.1
  | none =>
    dsimp only
    rw [Program.failing_bind]
    refine .bind (Program.endures_execOr (fun t ht u hwrite hfound => ?_) fun _ ht => ht.1)
      fun _ => .pure fun _ => id
    obtain ⟨⟨sessions, rfl⟩, hnone⟩ := ht
    obtain ⟨members, hinsert, -⟩ := Option.map_eq_some_iff.mp hwrite
    rcases hfound with ⟨m, hm, hmember⟩ | ⟨m, hm, hid⟩
    · exact absurd (.inr hmember) (Relation.not_clash_of_insert hinsert hm)
    · exact absurd (.inl hid) (Relation.not_clash_of_insert hinsert hm)

theorem run_enter_eq_ok {userId networkId deviceId : String} {allowOwner : Bool}
    {record : Network} {t : Store} :
    (requireDeviceId deviceId >>= fun _ =>
        loadNetworkForDevice userId networkId deviceId allowOwner).run s = (.ok record, t) ↔
      Admitted s userId networkId deviceId ∧ s.networkById networkId = some record ∧ s = t := by
  constructor
  · intro h
    obtain ⟨_, _, hnamedRun, h⟩ := run_bind_eq_ok.mp h
    obtain ⟨hnamed, rfl⟩ := run_requireDeviceId_eq_ok.mp hnamedRun
    obtain ⟨found, _, hfoundRun, h⟩ := run_bind_eq_ok.mp h
    obtain ⟨hfound, rfl⟩ := run_lookup_eq_ok.mp hfoundRun
    obtain ⟨_, _, hdeviceRun, h⟩ := run_bind_eq_ok.mp h
    obtain ⟨hdevice, rfl⟩ := run_ensureDeviceOwner_eq_ok.mp hdeviceRun
    obtain ⟨access, u, haccessRun, h⟩ := run_bind_eq_ok.mp h
    rw [Program.run_attempt, Prod.mk.injEq, Except.ok.injEq] at haccessRun
    obtain ⟨haccess, hleft⟩ := haccessRun
    have hreads := each_ensureNetworkAccess Program.reads_query userId networkId
    obtain rfl : s = u := (hreads.after_eq s).symm.trans hleft
    suffices hall : (ensureNetworkAccess userId networkId).run s = (.ok (), s) ∧ found = record ∧
        s = t by
      obtain ⟨hrun, rfl, rfl⟩ := hall
      exact ⟨⟨hnamed, hdevice, (run_ensureNetworkAccess_eq_ok.mp hrun).1⟩, hfound, rfl⟩
    cases access with
    | ok _ => exact ⟨Prod.ext haccess hleft, run_pure_eq_ok.mp h⟩
    | error err =>
      dsimp only at h
      split at h
      · exact absurd h Program.not_run_fail_eq_ok
      · rename_i howner
        rw [not_or, not_not] at howner
        exact ⟨run_ensureNetworkAccess_eq_ok.mpr ⟨⟨found, hfound, .inl howner.2⟩, rfl⟩,
          run_pure_eq_ok.mp h⟩
  · rintro ⟨⟨hnamed, hdevice, haccess⟩, hrecord, rfl⟩
    refine run_bind_eq_ok.mpr ⟨(), s, run_requireDeviceId_eq_ok.mpr ⟨hnamed, rfl⟩, ?_⟩
    have haccessRun := run_ensureNetworkAccess_eq_ok.mpr ⟨haccess, Eq.refl s⟩
    unfold loadNetworkForDevice
    rw [Program.run_bind, run_lookup_eq_ok.mpr ⟨hrecord, rfl⟩]
    dsimp only
    rw [Program.run_bind, run_ensureDeviceOwner_eq_ok.mpr ⟨hdevice, rfl⟩]
    dsimp only
    rw [Program.run_bind, Program.run_attempt, haccessRun]
    rfl

theorem endures_enter (userId networkId deviceId : String) (allowOwner : Bool) :
    Endures (· = s) (Tried.enter userId networkId deviceId allowOwner)
      (fun record t => t = s ∧ Admitted s userId networkId deviceId ∧
        s.networkById networkId = some record) (SameRows s) := by
  refine (countsDown_enter userId networkId deviceId allowOwner).endures_of_steadfast
    (steadfast_enter userId networkId deviceId allowOwner) (fun t record ht hrun => ?_)
    fun t ht => ht ▸ .refl s
  rw [ht] at hrun
  obtain ⟨hadmitted, hrecord, _⟩ := run_enter_eq_ok.mp hrun
  exact ⟨ht, hadmitted, hrecord⟩

/-- Into the network go the admitted, who have arrived. -/
theorem endures_move {userId networkId deviceId : String} {record : Network}
    (h : Admitted s userId networkId deviceId → Arrived s userId networkId) :
    Endures (fun t => t = s ∧ Admitted s userId networkId deviceId ∧
        s.networkById networkId = some record)
      (tried (ensureActiveMemberForNetwork fresh userId deviceId record))
      (fun _ t => (s.IsMember networkId deviceId ∨
        ∃ m ∈ s.members, m.memberId = newId "member" fresh.member) → SameButSessions s t)
      (SameRows s) := by
  by_cases hall : Admitted s userId networkId deviceId ∧ s.networkById networkId = some record
  · obtain ⟨_, rfl⟩ := networkById_eq_some hall.2
    exact (endures_ensureActiveMemberForNetwork (h hall.1)).imp (fun _ ht => ht.1)
      (fun _ _ ht => ht) fun _ ht => ht.rows
  · exact Program.endures_false.imp (fun _ ht => hall ht.2) (fun _ _ => False.elim) fun _ => id

theorem endures_joinOrSwitch {userId networkId deviceId : String} (allowOwner : Bool)
    (h : Admitted s userId networkId deviceId → Arrived s userId networkId) :
    Endures (· = s) (Tried.joinOrSwitch fresh userId networkId deviceId allowOwner)
      (fun _ _ => True) (SameRows s) :=
  (endures_enter userId networkId deviceId allowOwner).bind fun _ =>
    (endures_move h).bind fun _ => .pure fun _ _ => trivial

theorem endures_ensureAttachment (networkId subnetId deviceId : String) :
    Endures (SameButSessions s) (Tried.ensureAttachment fresh networkId subnetId deviceId)
      (fun _ _ => True) (SameRows s) := by
  have hq : Reads (fun _ : Store => ([] : List KeyEvent)) id := Program.reads_query
  have hkept : ∀ {α : Type} {p : Call α}, Program.Each Reads p →
      Endures (SameButSessions s) (tried p) (fun _ => SameButSessions s) (SameRows s) :=
    fun hreads => hreads.endures (fun _ _ ht _ => ht) fun _ => SameButSessions.rows
  unfold Tried.ensureAttachment
  refine (hkept (.query hq _)).bind fun found => ?_
  cases found with
  | some attachment => exact .pure fun _ _ => trivial
  | none =>
    refine (hkept (each_lookupOr hq _ _)).bind fun subnet => ?_
    refine (hkept (each_allocateIp hq subnet)).bind fun allocated => ?_
    refine Endures.bind (R := fun _ => SameButSessions s) ?_ fun member => ?_
    · refine Endures.bind (R := fun _ => SameButSessions s) ?_ fun found => .pure fun _ => id
      exact Program.Triple.attempt (((Program.Each.query hq fun s : Store =>
        s.memberByNetworkDevice networkId deviceId).endures (fun _ _ ht _ => ht) fun _ ht => ht))
    · refine (hkept (each_ownerPreference hq subnet member)).bind fun preferred => ?_
      exact (Program.endures_execOr (Q := fun _ _ => True) (fun _ _ _ _ => trivial)
        fun _ => SameButSessions.rows).bind fun _ => .pure fun _ _ => trivial

theorem endures_activate {userId networkId deviceId : String}
    (h : Admitted s userId networkId deviceId → Arrived s userId networkId ∧
      (s.IsMember networkId deviceId ∨
        ∃ m ∈ s.members, m.memberId = newId "member" fresh.member)) :
    Endures (· = s) (Tried.activate fresh userId networkId deviceId) (fun _ _ => True)
      (SameRows s) := by
  unfold Tried.activate
  refine (endures_enter userId networkId deviceId false).bind fun record => ?_
  by_cases hadmitted : Admitted s userId networkId deviceId
  · refine (endures_move fun hadmitted => (h hadmitted).1).bind fun _ => ?_
    exact ((endures_ensureAttachment networkId record.defaultSubnetId deviceId).imp
      (fun _ ht => ht (h hadmitted).2) (fun _ _ => id) fun _ => id).bind
        fun _ => .pure fun _ _ => trivial
  · exact Program.endures_false.imp (fun _ ht => hadmitted ht.2.1) (fun _ _ => False.elim)
      fun _ => id

theorem endures_joinByKey {userId joinKey deviceId : String}
    (h : ¬HasKey s userId joinKey deviceId) :
    Endures (· = s) (tried (joinByKey fresh userId joinKey deviceId).void) (fun _ _ => True)
      (SameRows s) := by
  have hq : Reads (fun _ : Store => ([] : List KeyEvent)) id := Program.reads_query
  have hsame : ∀ t, t = s → SameRows s t := fun t ht => ht ▸ .refl s
  unfold tried Program.void joinByKey
  rw [Program.failing_bind, Program.failing_bind]
  -- the key is not found
  suffices hnever : Endures (· = s) (tried (loadNetworkByKey userId joinKey deviceId))
      (fun _ _ => False) (SameRows s) from
    .bind (R := fun _ _ => False) (hnever.bind fun _ => Program.endures_false)
      fun _ => Program.endures_false
  unfold tried loadNetworkByKey
  split
  · exact .fail hsame
  · rename_i hkey
    rw [Program.failing_bind]
    refine (endures_reads (each_requireDeviceId deviceId)).bind fun _ => ?_
    rw [Program.failing_bind]
    refine .bind (R := fun _ t => t = s ∧ Text.isBlank deviceId = false ∧ ∃ device,
        s.deviceById deviceId = some device ∧ device.userId = userId)
      ((each_ensureDeviceOwner hq userId deviceId).endures (fun t _ ht hrun => ?_)
        fun t ht => hsame t ht.1) fun _ => ?_
    · obtain ⟨rfl, hnamed⟩ := ht
      exact ⟨rfl, (run_requireDeviceId_eq_ok.mp hnamed).1, (run_ensureDeviceOwner_eq_ok.mp hrun).1⟩
    unfold consumeNetworkByJoinKey
    rw [Program.failing_bind]
    refine .bind (R := fun _ _ => False) ((each_lookupOr hq _ _).endures
      (fun t record ht hrun => ?_) fun t ht => hsame t ht.1) fun _ => Program.endures_false
    obtain ⟨rfl, hnamed, hdevice⟩ := ht
    exact h ⟨hkey, hnamed, hdevice, record, (run_lookup_eq_ok.mp hrun).1⟩

end Endures

/-! ## Where another workflow stops in between -/

section Stops

variable {s : Store} {fresh : Fresh}

/-- The call can be made to fail where it leaves `t`. -/
def StopsAt (call : FaultyCall Unit) (s t : Store) : Prop :=
  ∃ position, call.run (some position, s) = (.error .database, none, t)

theorem StopsAt.not_atomic {w : Workflow} {t : Store} (h : StopsAt (w.call fresh) s t)
    (hrows : ¬SameRows s t) : ¬w.Atomic fresh s := by
  obtain ⟨position, hrun⟩ := h
  exact fun hatomic => hrows (atomic_iff_errors.mp hatomic _ _ _ _ hrun)

theorem stopsAt_register {email password : String} (h : Registers fresh s email password) :
    ∃ t, StopsAt (tried (register fresh email password)) s t ∧ ¬SameRows s t := by
  let row : User := ⟨newId "user" fresh.user, email, ""⟩
  cases hinsert : s.users.insert row with
  | none =>
    obtain ⟨u, hu, hclash⟩ := Relation.insert_eq_none.mp hinsert
    refine absurd hclash (not_or.mpr ⟨h.unused u hu, fun hemail => ?_⟩)
    have hnot := Relation.find?_eq_none.mp h.email u hu
    rw [hemail, beq_self_eq_true] at hnot
    cases hnot
  | some users =>
    have hwrite : s.createUser row = some { s with users } := by
      unfold Store.createUser
      rw [hinsert]
      rfl
    refine ⟨{ s with users }, ?_, fun hrows => ?_⟩
    · unfold StopsAt tried register registerUser
      rw [if_neg (not_or.mpr ⟨h.valid.1, not_lt.mpr h.valid.2⟩), Program.failing_bind]
      refine Program.exists_error_bind ?_
      rw [Program.failing_bind]
      refine (mirrors_tried _).exists_run_bind (Program.run_query _ s) ?_
      rw [h.email, Option.isSome_none, if_neg Bool.false_ne_true, Program.failing_bind]
      refine (mirrors_tried _).exists_run_bind (run_insert_eq_ok.mpr hwrite) ?_
      exact ⟨0, rfl⟩
    · have hmem : row ∈ s.users := hrows.users ▸ (Relation.mem_insert hinsert).mpr (.inr rfl)
      exact h.unused row hmem rfl

theorem run_prepareNetwork_of_creates {userId : String} {req : CreateNetworkRequest} {user : User}
    (h : Creates fresh s userId req user) :
    ∃ network subnet, (prepareNetwork fresh userId req).run s = (.ok (user, network, subnet), s) ∧
      network.networkId = newId "net" fresh.network ∧
      subnet.subnetId = newId "subnet" fresh.subnet := by
  obtain ⟨range, hrange⟩ := h.cidr
  obtain ⟨cidr, hparse, hroomy, _⟩ := subnetRange_default_eq_ok.mp hrange
  have hsubnet : newSubnet (newId "net" fresh.network) (newId "subnet" fresh.subnet) "default" _
      "" "" "" true = .ok _ :=
    newSubnet_default_eq_ok.mpr ⟨cidr, hparse, hroomy, rfl⟩
  have hbind : (onlyIf (Text.trim req.bindDeviceId != "")
      (ensureDeviceOwner userId (Text.trim req.bindDeviceId))).run s = (.ok (), s) := by
    unfold onlyIf
    split
    · rename_i hbound
      exact run_ensureDeviceOwner_eq_ok.mpr ⟨h.device (bne_iff_ne.mp hbound), rfl⟩
    · rfl
  refine ⟨{
      networkId := newId "net" fresh.network
      ownerUserId := userId
      name := Text.trim req.name
      description := Text.trim req.description
      defaultSubnetId := newId "subnet" fresh.subnet
      defaultSubnetCidr := cidr.render
      joinKey := "" },
    defaultSubnet (newId "net" fresh.network) (newId "subnet" fresh.subnet) "default" cidr, ?_,
    rfl, rfl⟩
  unfold prepareNetwork
  rw [if_neg h.named, Program.run_bind, Program.run_query, h.first]
  dsimp only
  rw [Program.run_bind, hbind]
  dsimp only
  rw [Program.run_bind, run_lookupOr_eq_ok.mpr ⟨h.user, rfl⟩]
  dsimp only
  rw [Program.run_bind, run_checked_eq_ok.mpr ⟨hsubnet, rfl⟩]
  rfl

theorem stopsAt_create {userId : String} {req : CreateNetworkRequest} {user : User}
    (h : Creates fresh s userId req user)
    (hnext : ¬(Text.isBlank user.activeNetworkId = false ∧ Text.trim req.bindDeviceId = "")) :
    ∃ t, StopsAt (tried (create fresh userId req).void) s t ∧ ¬SameRows s t := by
  obtain ⟨network, subnet, hprepared, hnetworkId, hsubnetId⟩ := run_prepareNetwork_of_creates h
  obtain ⟨networks, hnetworks⟩ : ∃ networks, s.networks.insert network = some networks := by
    refine Option.ne_none_iff_exists'.mp fun hnone => ?_
    obtain ⟨n, hn, hclash⟩ := Relation.insert_eq_none.mp hnone
    exact h.network n hn (hclash.trans hnetworkId)
  obtain ⟨subnets, hsubnets⟩ : ∃ subnets, s.subnets.insert subnet = some subnets := by
    refine Option.ne_none_iff_exists'.mp fun hnone => ?_
    obtain ⟨x, hx, hclash⟩ := Relation.insert_eq_none.mp hnone
    exact h.subnet x hx (hclash.trans hsubnetId)
  have hwrite : s.createNetworkWithDefaultSubnet network subnet =
      some { s with networks, subnets } := by
    unfold Store.createNetworkWithDefaultSubnet
    rw [hnetworks, hsubnets]
    rfl
  refine ⟨{ s with networks, subnets }, ?_, fun hrows => ?_⟩
  · unfold StopsAt tried Program.void create
    rw [Program.failing_bind, Program.failing_bind]
    refine Program.exists_error_bind ((mirrors_tried _).exists_run_bind hprepared ?_)
    dsimp only
    rw [Program.failing_bind]
    refine (mirrors_tried _).exists_run_bind (run_insert_eq_ok.mpr hwrite) ?_
    rw [Program.failing_bind]
    cases hblank : Text.isBlank user.activeNetworkId with
    | true => exact Program.exists_error_bind ⟨0, rfl⟩
    | false =>
      have hbound : Text.trim req.bindDeviceId ≠ "" := fun hbound => hnext ⟨hblank, hbound⟩
      rw [bne_iff_ne.mpr hbound]
      exact ⟨0, rfl⟩
  · have hmem : network ∈ s.networks :=
      hrows.networks ▸ (Relation.mem_insert hnetworks).mpr (.inr rfl)
    exact h.network network hmem hnetworkId

theorem arrived_of_sameRows {userId networkId : String}
    (h : SameRows s (s.movedTo userId networkId)) : Arrived s userId networkId where
  members m hm := by
    rw [← h.members] at hm
    exact (mem_members_movedTo.mp hm).2
  attachments a ha := by
    rw [← h.attachments] at ha
    exact (mem_attachments_movedTo.mp ha).2
  active u hu hid := by
    have hleft := (s.leaveAll_others (s.devicesByUser userId) networkId).1
    have hmoved : { u with activeNetworkId := networkId } ∈ s.users := by
      rw [← h.users]
      refine (movesUser_updateUserActiveNetwork _).mpr ⟨u, hleft ▸ hu, ?_⟩
      rw [if_pos hid]
    have hsame := Relation.eq_of_clash hu hmoved (.inl rfl)
    exact congrArg User.activeNetworkId hsame

/-- The row of the new member is read after the user's rows in other networks are gone. -/
theorem exists_run_move (userId deviceId : String) (record : Network) :
    ∃ position, (tried (ensureActiveMemberForNetwork fresh userId deviceId record)).run
      (some position, s) = (.error .database, none, s.movedTo userId record.networkId) := by
  obtain ⟨role, hrole⟩ := run_membershipRole record.networkId deviceId record.ownerUserId userId
    (s.movedTo userId record.networkId)
  unfold tried ensureActiveMemberForNetwork
  rw [Program.failing_bind]
  refine (mirrors_tried _).exists_run_bind
    (run_ensureSingleActiveNetworkForUser s userId record.networkId) ?_
  rw [Program.failing_bind]
  exact (mirrors_tried _).exists_run_bind hrole ⟨0, rfl⟩

theorem stopsAt_joinOrSwitch {userId networkId deviceId : String} (allowOwner : Bool)
    (hadmitted : Admitted s userId networkId deviceId) (h : ¬Arrived s userId networkId) :
    ∃ t, StopsAt (Tried.joinOrSwitch fresh userId networkId deviceId allowOwner) s t ∧
      ¬SameRows s t := by
  obtain ⟨record, hrecord, _⟩ := hadmitted.access
  obtain ⟨_, rfl⟩ := networkById_eq_some hrecord
  refine ⟨_, ?_, fun hrows => h (arrived_of_sameRows hrows)⟩
  exact (mirrors_enter _ _ _ _).exists_run_bind (run_enter_eq_ok.mpr ⟨hadmitted, hrecord, rfl⟩)
    (Program.exists_error_bind (exists_run_move userId deviceId record))

theorem stopsAt_activate {userId networkId deviceId : String}
    (hadmitted : Admitted s userId networkId deviceId)
    (h : ¬(Arrived s userId networkId ∧ (s.IsMember networkId deviceId ∨
      ∃ m ∈ s.members, m.memberId = newId "member" fresh.member))) :
    ∃ t, StopsAt (Tried.activate fresh userId networkId deviceId) s t ∧ ¬SameRows s t := by
  obtain ⟨record, hrecord, _⟩ := hadmitted.access
  obtain ⟨_, rfl⟩ := networkById_eq_some hrecord
  have henter : (requireDeviceId deviceId >>= fun _ =>
      loadNetworkForDevice userId record.networkId deviceId false).run s = (.ok record, s) :=
    run_enter_eq_ok.mpr ⟨hadmitted, hrecord, rfl⟩
  by_cases harrived : Arrived s userId record.networkId
  · -- a member row is made, and then the attachment is read
    have hnew := not_or.mp (not_and.mp h harrived)
    obtain ⟨role, hrole⟩ := run_membershipRole record.networkId deviceId record.ownerUserId userId
      (s.movedTo userId record.networkId)
    have hunused : ∀ m ∈ (s.movedTo userId record.networkId).members,
        m.memberId ≠ newId "member" fresh.member :=
      fun m hm hid => hnew.2 ⟨m, (mem_members_movedTo.mp hm).1, hid⟩
    obtain ⟨member, t, hmember, _, hids, hmem⟩ :=
      run_ensureMember hunused record.networkId deviceId role
    have hmove : (ensureActiveMemberForNetwork fresh userId deviceId record).run s =
        (.ok member, t) := by
      unfold ensureActiveMemberForNetwork
      rw [Program.run_bind, run_ensureSingleActiveNetworkForUser]
      dsimp only
      rw [Program.run_bind, hrole]
      exact hmember
    refine ⟨t, ?_, fun hrows => hnew.1 ⟨member, ?_, hids⟩⟩
    · exact (mirrors_enter _ _ _ _).exists_run_bind henter
        ((mirrors_tried _).exists_run_bind hmove (Program.exists_error_bind ⟨0, rfl⟩))
    · rw [← hrows.members]
      exact (hmem member).mpr (.inr rfl)
  · refine ⟨_, ?_, fun hrows => harrived (arrived_of_sameRows hrows)⟩
    exact (mirrors_enter _ _ _ _).exists_run_bind henter
      (Program.exists_error_bind (exists_run_move userId deviceId record))

theorem stopsAt_joinByKey {userId joinKey deviceId : String}
    (h : HasKey s userId joinKey deviceId) :
    ∃ t, StopsAt (tried (joinByKey fresh userId joinKey deviceId).void) s t ∧ ¬SameRows s t := by
  obtain ⟨record, hrecord⟩ := h.network
  let t := s.clearNetworkJoinKey record.networkId (Text.trim joinKey)
  have hconsumed : (loadNetworkByKey userId joinKey deviceId).run s = (.ok record, t) := by
    unfold loadNetworkByKey consumeNetworkByJoinKey
    rw [if_neg h.key, Program.run_bind, run_requireDeviceId_eq_ok.mpr ⟨h.named, rfl⟩]
    dsimp only
    rw [Program.run_bind, run_ensureDeviceOwner_eq_ok.mpr ⟨h.device, rfl⟩]
    dsimp only
    rw [Program.run_bind, run_lookup_eq_ok.mpr ⟨hrecord, rfl⟩]
    rfl
  refine ⟨t, ?_, fun hrows => ?_⟩
  · unfold StopsAt tried Program.void joinByKey
    rw [Program.failing_bind, Program.failing_bind]
    exact Program.exists_error_bind ((mirrors_tried _).exists_run_bind hconsumed ⟨0, rfl⟩)
  · obtain ⟨hmem, hkey⟩ := Relation.mem_of_firstBy hrecord
    rw [beq_iff_eq] at hkey
    have hcleared : { record with joinKey := "" } ∈ s.networks := by
      rw [← hrows.networks]
      refine List.mem_map.mpr ⟨record, hmem, if_pos ?_⟩
      dsimp only
      rw [hkey, beq_self_eq_true, beq_self_eq_true]
      rfl
    have hsame := Relation.eq_of_clash hmem hcleared rfl
    exact h.key (hkey.symm.trans (congrArg Network.joinKey hsame))

end Stops

/-! ## The condition is exact -/

/-- A workflow is all or nothing wherever a statement fails, just where it is harmless. -/
theorem atomic_iff_harmless (fresh : Fresh) (s : Store) (w : Workflow) :
    w.Atomic fresh s ↔ w.Harmless fresh s := by
  constructor
  · refine fun hatomic => by_contra fun h => ?_
    suffices hstops : ∃ t, StopsAt (w.call fresh) s t ∧ ¬SameRows s t by
      obtain ⟨t, hstop, hrows⟩ := hstops
      exact hstop.not_atomic hrows hatomic
    cases w with
    | register email password => exact stopsAt_register (not_not.mp h)
    | create userId req =>
      obtain ⟨user, hnot⟩ := not_forall.mp h
      obtain ⟨hcreates, hnext⟩ := Classical.not_imp.mp hnot
      exact stopsAt_create hcreates hnext
    | joinByKey userId joinKey deviceId => exact stopsAt_joinByKey (not_not.mp h)
    | join userId networkId deviceId =>
      obtain ⟨hadmitted, harrived⟩ := Classical.not_imp.mp h
      exact stopsAt_joinOrSwitch true hadmitted harrived
    | switch userId networkId deviceId =>
      obtain ⟨hadmitted, harrived⟩ := Classical.not_imp.mp h
      exact stopsAt_joinOrSwitch false hadmitted harrived
    | activate userId networkId deviceId =>
      obtain ⟨hadmitted, hnot⟩ := Classical.not_imp.mp h
      exact stopsAt_activate hadmitted hnot
  · intro h
    suffices hendures : Endures (· = s) (w.call fresh) (fun _ _ => True) (SameRows s) from
      .of_endures hendures
    cases w with
    | register email password => exact endures_register h
    | create userId req => exact endures_create h
    | joinByKey userId joinKey deviceId => exact endures_joinByKey h
    | join userId networkId deviceId => exact endures_joinOrSwitch true h
    | switch userId networkId deviceId => exact endures_joinOrSwitch false h
    | activate userId networkId deviceId => exact endures_activate h

/-- Where the owner's network cannot be looked up, a user is left without one. -/
theorem user_left_without_network :
    ¬ ∀ (sameName : String → String → Bool) (s : Store), Reachable (rel (step sameName)) ∅ s →
      ∀ (fresh : Fresh) (w : Workflow), w.Atomic fresh s := by
  intro h
  have hregisters : Registers (.ofDigits "1" rfl) ∅ "one@local.slan" "password" :=
    ⟨by decide, rfl, fun u hu => absurd hu (Relation.not_mem_empty u)⟩
  obtain ⟨t, hstop, hrows⟩ := stopsAt_register hregisters
  exact hstop.not_atomic (w := .register "one@local.slan" "password") hrows
    (h sameText ∅ .start _ _)

end Slan.Networks
