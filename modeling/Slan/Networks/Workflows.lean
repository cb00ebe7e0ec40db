import Slan.Lib.Faults
import Slan.Networks.Allocation

/-! # The workflows of membership, where a database call fails

A call returns the error of a statement that fails, but for two of its helpers: one lets an owner in
where access could not be checked, one takes a role that it could not read for no role.
-/

namespace Slan.Networks

open Program (CountsDown Each Faulty Mirrors Reads Steadfast query exec run_bind_eq_ok
  run_pure_eq_ok run_query_eq_ok)

abbrev FaultyCall := Program (Faulty Store) KeyEvent Failure

/-- The call, with the error of a statement that fails as its own. -/
def tried {α : Type} (p : Call α) : FaultyCall α := p.failing .database

namespace Tried

def loadNetworkForDevice (userId networkId deviceId : String)
    (allowOwnerWithoutMembership : Bool) : FaultyCall Network := do
  let record ← tried (lookup fun s => s.networkById networkId)
  tried (ensureDeviceOwner userId deviceId)
  let access ← (tried (ensureNetworkAccess userId networkId)).attempt
  match access with
  | .ok () => pure record
  | .error err =>
    if allowOwnerWithoutMembership = false ∨ record.ownerUserId ≠ userId then .fail err
    else pure record

/-- A member row that could not be read is taken for none. -/
def readableMember (networkId deviceId : String) : FaultyCall (Option NetworkMember) := do
  let member ← (tried (query fun s => s.memberByNetworkDevice networkId deviceId)).attempt
  pure member.toOption.join

def ensureAttachment (fresh : Fresh) (networkId subnetId deviceId : String) :
    FaultyCall SubnetAttachment := do
  let found ← tried (query fun s => s.attachmentBySubnetDevice subnetId deviceId)
  match found with
  | some attachment => pure attachment
  | none =>
    let subnet ← tried (lookup fun s => s.subnetById subnetId)
    let allocated ← tried (allocateIp subnet)
    let member ← readableMember networkId deviceId
    let preferred ← tried (ownerPreference subnet member)
    let attachment : SubnetAttachment :=
      { attachmentId := Control.newId "att" fresh.attachment
        networkId
        subnetId
        deviceId
        virtualIp := preferred.getD allocated
        remark := ""
        status := "active" }
    tried (insert fun s => s.createAttachment attachment)
    pure attachment

/-- What `Join`, `Switch` and `Activate` begin with. -/
def enter (userId networkId deviceId : String) (allowOwnerWithoutMembership : Bool) :
    FaultyCall Network := do
  tried (requireDeviceId deviceId)
  loadNetworkForDevice userId networkId deviceId allowOwnerWithoutMembership

/-- `Join`, which lets an owner in who is no member, and `Switch`. -/
def joinOrSwitch (fresh : Fresh) (userId networkId deviceId : String)
    (allowOwnerWithoutMembership : Bool) : FaultyCall Unit := do
  let record ← enter userId networkId deviceId allowOwnerWithoutMembership
  let _ ← tried (ensureActiveMemberForNetwork fresh userId deviceId record)

def activate (fresh : Fresh) (userId networkId deviceId : String) : FaultyCall Unit := do
  let record ← enter userId networkId deviceId false
  let _ ← tried (ensureActiveMemberForNetwork fresh userId deviceId record)
  let _ ← ensureAttachment fresh networkId record.defaultSubnetId deviceId

end Tried

/-- The two tokens are not stored in the tables. -/
def issueAuthResponse : Call Unit := do
  exec id
  exec id

def register (fresh : Fresh) (email password : String) : Call Unit := do
  registerUser fresh email password
  issueAuthResponse

inductive Workflow where
  | register (email password : String)
  | create (userId : String) (req : CreateNetworkRequest)
  | join (userId networkId deviceId : String)
  | joinByKey (userId joinKey deviceId : String)
  | switch (userId networkId deviceId : String)
  | activate (userId networkId deviceId : String)

namespace Workflow

def call (fresh : Fresh) : Workflow → FaultyCall Unit
  | .register email password => tried (Networks.register fresh email password)
  | .create userId req => tried (Networks.create fresh userId req).void
  | .join userId networkId deviceId => Tried.joinOrSwitch fresh userId networkId deviceId true
  | .joinByKey userId joinKey deviceId =>
    tried (Networks.joinByKey fresh userId joinKey deviceId).void
  | .switch userId networkId deviceId => Tried.joinOrSwitch fresh userId networkId deviceId false
  | .activate userId networkId deviceId => Tried.activate fresh userId networkId deviceId

/-- The call of which no statement fails. -/
def unfailed (fresh : Fresh) : Workflow → Call Unit
  | .register email password => Networks.register fresh email password
  | .create userId req => (Networks.create fresh userId req).void
  | .join userId networkId deviceId => (Networks.join fresh userId networkId deviceId).void
  | .joinByKey userId joinKey deviceId =>
    (Networks.joinByKey fresh userId joinKey deviceId).void
  | .switch userId networkId deviceId => (Networks.switch fresh userId networkId deviceId).void
  | .activate userId networkId deviceId => (Networks.activate fresh userId networkId deviceId).void

end Workflow

/-! ## Up to the statement that fails they are the calls -/

theorem mirrors_tried {α : Type} (p : Call α) : Mirrors (tried p) p := Program.mirrors_failing _ p

theorem mirrors_loadNetworkForDevice (userId networkId deviceId : String) (allowOwner : Bool) :
    Mirrors (Tried.loadNetworkForDevice userId networkId deviceId allowOwner)
      (loadNetworkForDevice userId networkId deviceId allowOwner) := by
  refine (mirrors_tried _).bind fun record => (mirrors_tried _).bind fun _ => ?_
  refine (mirrors_tried _).attempt.bind fun access => ?_
  cases access with
  | ok _ => exact Program.mirrors_ret _
  | error err =>
    dsimp only
    split <;> exact Program.mirrors_ret _

theorem mirrors_enter (userId networkId deviceId : String) (allowOwner : Bool) :
    Mirrors (Tried.enter userId networkId deviceId allowOwner)
      (requireDeviceId deviceId >>= fun _ =>
        loadNetworkForDevice userId networkId deviceId allowOwner) :=
  (mirrors_tried _).bind fun _ => mirrors_loadNetworkForDevice userId networkId deviceId allowOwner

theorem mirrors_readableMember (networkId deviceId : String) :
    Mirrors (Tried.readableMember networkId deviceId)
      (query fun s => s.memberByNetworkDevice networkId deviceId) where
  unfailed _ := rfl
  before s n := by
    have hone : (query fun s : Store => s.memberByNetworkDevice networkId deviceId :
      Call _).statements s = 1 := rfl
    rw [hone, Nat.add_comm]
    rfl

theorem mirrors_ensureAttachment (fresh : Fresh) (networkId subnetId deviceId : String) :
    Mirrors (Tried.ensureAttachment fresh networkId subnetId deviceId)
      (ensureAttachment fresh networkId subnetId deviceId) := by
  refine (mirrors_tried _).bind fun found => ?_
  cases found with
  | some attachment => exact Program.mirrors_ret _
  | none =>
    refine (mirrors_tried _).bind fun subnet => (mirrors_tried _).bind fun allocated => ?_
    refine (mirrors_readableMember networkId deviceId).bind fun member => ?_
    exact (mirrors_tried _).bind fun preferred =>
      (mirrors_tried _).bind fun _ => Program.mirrors_ret _

/-- A relation of the workflows to the calls that goes from their parts to the whole. -/
structure Compositional (fresh : Fresh)
    (R : ∀ {α : Type}, FaultyCall α → Call α → Prop) : Prop where
  ret : ∀ {α : Type} (result : Except Failure α), R (.ret result) (.ret result)
  tried : ∀ {α : Type} (p : Call α), R (tried p) p
  bind : ∀ {α β : Type} {q : FaultyCall α} {p : Call α} {g : α → FaultyCall β}
    {f : α → Call β},
    R q p → (∀ a, R (g a) (f a)) → R (q >>= g) (p >>= f)
  enter : ∀ (userId networkId deviceId : String) (allowOwner : Bool),
    R (Tried.enter userId networkId deviceId allowOwner)
      (requireDeviceId deviceId >>= fun _ =>
        loadNetworkForDevice userId networkId deviceId allowOwner)
  attachment : ∀ networkId subnetId deviceId : String,
    R (Tried.ensureAttachment fresh networkId subnetId deviceId)
      (ensureAttachment fresh networkId subnetId deviceId)

section Compositional

variable {fresh : Fresh} {R : ∀ {α : Type}, FaultyCall α → Call α → Prop}

theorem Compositional.joinOrSwitch (h : Compositional fresh R)
    (userId networkId deviceId : String) (allowOwner : Bool) :
    R (Tried.joinOrSwitch fresh userId networkId deviceId allowOwner)
      (requireDeviceId deviceId >>= fun _ =>
        loadNetworkForDevice userId networkId deviceId allowOwner >>= fun record =>
          ensureActiveMemberForNetwork fresh userId deviceId record >>= fun _ => pure ()) := by
  rw [← Program.bind_assoc]
  exact h.bind (h.enter userId networkId deviceId allowOwner) fun record =>
    h.bind (h.tried _) fun _ => h.ret _

theorem Compositional.call (h : Compositional fresh R) (w : Workflow) :
    R (w.call fresh) (w.unfailed fresh) := by
  cases w with
  | register email password => exact h.tried _
  | create userId req => exact h.tried _
  | joinByKey userId joinKey deviceId => exact h.tried _
  | join userId networkId deviceId =>
    unfold Workflow.unfailed Networks.join Program.void
    simp only [Program.bind_assoc]
    exact h.joinOrSwitch userId networkId deviceId true
  | switch userId networkId deviceId =>
    unfold Workflow.unfailed Networks.switch Program.void
    simp only [Program.bind_assoc]
    exact h.joinOrSwitch userId networkId deviceId false
  | activate userId networkId deviceId =>
    unfold Workflow.unfailed Networks.activate Program.void
    simp only [Program.bind_assoc]
    rw [← Program.bind_assoc]
    exact h.bind (h.enter userId networkId deviceId false) fun record =>
      h.bind (h.tried _) fun _ =>
        h.bind (h.attachment networkId record.defaultSubnetId deviceId) fun _ => h.ret _

end Compositional

/-- Where no statement fails, a workflow is the call of the service. -/
theorem mirrors_call (fresh : Fresh) (w : Workflow) :
    Mirrors (w.call fresh) (w.unfailed fresh) := by
  have hparts : Compositional fresh Mirrors :=
    ⟨Program.mirrors_ret, mirrors_tried, fun h hnext => h.bind hnext, mirrors_enter,
      mirrors_ensureAttachment fresh⟩
  exact hparts.call w

/-! ## What they succeed with, though a statement fails, they succeed with -/

theorem steadfast_tried {α : Type} (p : Call α) : Steadfast (tried p) p :=
  Program.steadfast_failing _ p

theorem countsDown_tried {α : Type} {p : Call α} (h : Each Reads p) : Each CountsDown (tried p) :=
  h.failing

/-- An owner whose access could not be checked has it. -/
theorem steadfast_loadNetworkForDevice (userId networkId deviceId : String) (allowOwner : Bool) :
    Steadfast (Tried.loadNetworkForDevice userId networkId deviceId allowOwner)
      (loadNetworkForDevice userId networkId deviceId allowOwner) := by
  intro c s record c' t h
  obtain ⟨found, ⟨c₁, s₁⟩, hfoundRun, h⟩ := run_bind_eq_ok.mp h
  have hlookup := steadfast_tried _ c s found c₁ s₁ hfoundRun
  obtain ⟨hfound, rfl⟩ := run_lookup_eq_ok.mp hlookup
  obtain ⟨_, ⟨c₂, s₂⟩, hownerRun, h⟩ := run_bind_eq_ok.mp h
  have hdevice := steadfast_tried _ c₁ s () c₂ s₂ hownerRun
  obtain ⟨_, rfl⟩ := run_ensureDeviceOwner_eq_ok.mp hdevice
  obtain ⟨access, ⟨c₃, s₃⟩, haccessRun, h⟩ := run_bind_eq_ok.mp h
  rw [Program.run_attempt, Prod.mk.injEq, Except.ok.injEq] at haccessRun
  obtain ⟨haccess, hstate⟩ := haccessRun
  suffices haccessOk : (ensureNetworkAccess userId networkId).run s = (.ok (), s) ∧ found = record ∧
      s = t by
    obtain ⟨haccessOk, rfl, rfl⟩ := haccessOk
    unfold loadNetworkForDevice
    rw [Program.run_bind, hlookup]
    dsimp only
    rw [Program.run_bind, hdevice]
    dsimp only
    rw [Program.run_bind, Program.run_attempt, haccessOk]
    rfl
  have hreads := countsDown_tried (each_ensureNetworkAccess Program.reads_query userId networkId)
  cases hresult : (tried (ensureNetworkAccess userId networkId)).run (c₂, s) with
  | mk result x =>
    obtain ⟨c₄, s₄⟩ := x
    obtain rfl : s₄ = s := hreads.same_of_run hresult
    rw [hresult] at haccess hstate
    obtain rfl : result = access := haccess
    obtain ⟨rfl, rfl⟩ := Prod.mk.inj hstate
    cases result with
    | ok _ =>
      obtain ⟨hrecord, hleft⟩ := run_pure_eq_ok.mp h
      exact ⟨steadfast_tried _ c₂ s₄ () c₄ s₄ hresult, hrecord, (Prod.mk.inj hleft).2⟩
    | error err =>
      dsimp only at h
      split at h
      · exact absurd h Program.not_run_fail_eq_ok
      · rename_i howner
        rw [not_or, not_not] at howner
        obtain ⟨hrecord, hleft⟩ := run_pure_eq_ok.mp h
        have haccess := run_ensureNetworkAccess_eq_ok.mpr
          ⟨⟨found, hfound, .inl howner.2⟩, Eq.refl s₄⟩
        exact ⟨haccess, hrecord, (Prod.mk.inj hleft).2⟩

theorem steadfast_enter (userId networkId deviceId : String) (allowOwner : Bool) :
    Steadfast (Tried.enter userId networkId deviceId allowOwner)
      (requireDeviceId deviceId >>= fun _ =>
        loadNetworkForDevice userId networkId deviceId allowOwner) :=
  (steadfast_tried _).bind fun _ =>
    steadfast_loadNetworkForDevice userId networkId deviceId allowOwner

theorem countsDown_enter (userId networkId deviceId : String) (allowOwner : Bool) :
    Each CountsDown (Tried.enter userId networkId deviceId allowOwner) := by
  have hq : Reads (fun _ : Store => ([] : List KeyEvent)) id := Program.reads_query
  refine (countsDown_tried (each_requireDeviceId deviceId)).bind fun _ => ?_
  refine (countsDown_tried (each_lookupOr hq _ _)).bind fun record => ?_
  refine (countsDown_tried (each_ensureDeviceOwner hq userId deviceId)).bind fun _ => ?_
  refine (countsDown_tried (each_ensureNetworkAccess hq userId networkId)).attempt.bind
    fun access => ?_
  cases access with
  | ok _ => exact .pure record
  | error err =>
    dsimp only
    split
    · exact .fail err
    · exact .pure record

/-- Whatever is taken for the member row, the address is the one that was allocated. -/
theorem run_ownerPreference_of_allocateIp {s : Store} {subnet : Subnet} {allocated : String}
    (h : (allocateIp subnet).run s = (.ok allocated, s)) (member : Option NetworkMember) :
    ∃ preferred, (ownerPreference subnet member).run s = (.ok preferred, s) ∧
      preferred.getD allocated = allocated := by
  have hpreferred : ∃ preferred, (preferredOwnerIp subnet).run s = (.ok preferred, s) ∧
      preferred.getD allocated = allocated := by
    unfold allocateIp at h
    obtain ⟨attachments, _, hqueryRun, h⟩ := run_bind_eq_ok.mp h
    obtain ⟨rfl, rfl⟩ := run_query_eq_ok.mp hqueryRun
    obtain ⟨range, _, hrangeRun, h⟩ := run_bind_eq_ok.mp h
    obtain ⟨hrange, rfl⟩ := run_checked_eq_ok.mp hrangeRun
    unfold preferredOwnerIp
    rw [Program.run_bind, Program.run_query]
    dsimp only
    rw [Program.run_bind, run_checked_eq_ok.mpr ⟨hrange, rfl⟩]
    dsimp only
    split
    · exact ⟨none, rfl, rfl⟩
    · rename_i hin
      split
      · exact ⟨none, rfl, rfl⟩
      · rename_i hfree
        split at h
        · rename_i ip hip
          obtain ⟨rfl, _⟩ := run_pure_eq_ok.mp h
          refine ⟨_, rfl, ?_⟩
          have hstart : range.start ≤ networkBase range.network + 2 := by
            simp only [not_or, BitVec.not_lt] at hin
            exact hin.1
          exact preferred_eq_allocated hrange (fun _ => id) hip hstart hfree
        · exact absurd h not_run_refuse_eq_ok
  unfold ownerPreference
  split
  · split
    · exact hpreferred
    · exact ⟨none, rfl, rfl⟩
  · exact ⟨none, rfl, rfl⟩

theorem run_readableMember {networkId deviceId : String} {c c' : Option Nat} {s t : Store}
    {member : Option NetworkMember}
    (h : (Tried.readableMember networkId deviceId).run (c, s) = (.ok member, c', t)) : s = t := by
  rcases c with _ | _ | n <;> exact (Prod.mk.inj (Prod.mk.inj h).2).2

theorem steadfast_ensureAttachment (fresh : Fresh) (networkId subnetId deviceId : String) :
    Steadfast (Tried.ensureAttachment fresh networkId subnetId deviceId)
      (ensureAttachment fresh networkId subnetId deviceId) := by
  intro c s attachment c' t h
  obtain ⟨found, ⟨c₁, s₁⟩, hfoundRun, h⟩ := run_bind_eq_ok.mp h
  have hquery := steadfast_tried _ c s found c₁ s₁ hfoundRun
  obtain ⟨hfound, rfl⟩ := run_query_eq_ok.mp hquery
  cases found with
  | some stored =>
    obtain ⟨rfl, hleft⟩ := run_pure_eq_ok.mp h
    obtain rfl := (Prod.mk.inj hleft).2
    unfold ensureAttachment
    rw [Program.run_bind, hquery]
    rfl
  | none =>
    obtain ⟨subnet, ⟨c₂, s₂⟩, hsubnetRun, h⟩ := run_bind_eq_ok.mp h
    have hsubnet := steadfast_tried _ c₁ s subnet c₂ s₂ hsubnetRun
    obtain ⟨_, rfl⟩ := run_lookup_eq_ok.mp hsubnet
    obtain ⟨allocated, ⟨c₃, s₃⟩, hallocatedRun, h⟩ := run_bind_eq_ok.mp h
    have hallocated := steadfast_tried _ c₂ s allocated c₃ s₃ hallocatedRun
    obtain rfl := (each_allocateIp Program.reads_query subnet).eq_of_run hallocated
    obtain ⟨member, ⟨c₄, s₄⟩, hmemberRun, h⟩ := run_bind_eq_ok.mp h
    obtain rfl := run_readableMember hmemberRun
    obtain ⟨preferred, ⟨c₅, s₅⟩, hpreferredRun, h⟩ := run_bind_eq_ok.mp h
    have hpreferred := steadfast_tried _ c₄ s preferred c₅ s₅ hpreferredRun
    obtain rfl := (each_ownerPreference Program.reads_query subnet member).eq_of_run hpreferred
    obtain ⟨_, ⟨c₆, s₆⟩, hinsertRun, h⟩ := run_bind_eq_ok.mp h
    have hinsert := steadfast_tried _ c₅ s () c₆ s₆ hinsertRun
    obtain ⟨rfl, hleft⟩ := run_pure_eq_ok.mp h
    obtain rfl := (Prod.mk.inj hleft).2
    -- the preference of the member that was read, and of the one that is there
    have hread : preferred.getD allocated = allocated := by
      obtain ⟨_, hrun, hsame⟩ := run_ownerPreference_of_allocateIp hallocated member
      obtain rfl := Except.ok.inj (Prod.mk.inj (hpreferred.symm.trans hrun)).1
      exact hsame
    obtain ⟨preferred', hrun, hsame⟩ := run_ownerPreference_of_allocateIp hallocated
      (s.memberByNetworkDevice networkId deviceId)
    unfold ensureAttachment
    rw [Program.run_bind, hquery]
    dsimp only
    rw [Program.run_bind, hsubnet]
    dsimp only
    rw [Program.run_bind, hallocated]
    dsimp only
    rw [Program.run_bind, Program.run_query]
    dsimp only
    rw [Program.run_bind, hrun]
    dsimp only
    rw [hread] at hinsert ⊢
    rw [hsame, Program.run_bind, hinsert]
    rfl

theorem steadfast_call (fresh : Fresh) (w : Workflow) :
    Steadfast (w.call fresh) (w.unfailed fresh) := by
  have hparts : Compositional fresh Steadfast :=
    ⟨Program.steadfast_ret, steadfast_tried, fun h hnext => h.bind hnext, steadfast_enter,
      steadfast_ensureAttachment fresh⟩
  exact hparts.call w

end Slan.Networks
