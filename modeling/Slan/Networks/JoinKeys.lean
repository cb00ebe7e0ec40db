import Slan.Lib.Transition
import Slan.Networks.Statements

/-! # Join keys: callers that set and use them at the same time -/

namespace Slan.Networks

open Transition
open Program (Each Notes)

inductive KeyRequest where
  | join (fresh : Fresh) (userId joinKey deviceId : String)
  | set (fresh : Fresh) (userId networkId joinKey : String)

/-- The call of a request; of its result only the success counts. -/
def KeyRequest.call : KeyRequest → Call Unit
  | .join fresh userId joinKey deviceId => do
    let _ ← joinByKey fresh userId joinKey deviceId
  | .set fresh userId networkId joinKey => do
    let _ ← updateJoinKey fresh userId networkId joinKey

structure KeyWorld where
  store : Store
  /-- The calls so far, and what is left of each. -/
  calls : List (KeyRequest × Call Unit)
  /-- What the calls have noted, the last event first. -/
  history : List (Nat × KeyEvent)

inductive KeyAction where
  | begin (request : KeyRequest)
  /-- A call takes its next statement. -/
  | advance (call : Nat)
  /-- A statement that gives no network a key. -/
  | other (store : Store)

namespace KeyWorld

def start : KeyWorld := ⟨∅, [], []⟩

/-- Every key is one that the same network had already. -/
def KeepsKeys (s t : Store) : Prop :=
  ∀ n ∈ t.networks, n.joinKey ≠ "" →
    ∃ m ∈ s.networks, m.networkId = n.networkId ∧ m.joinKey = n.joinKey

instance (s t : Store) : Decidable (KeepsKeys s t) :=
  inferInstanceAs (Decidable (∀ n ∈ t.networks.rows, n.joinKey ≠ "" →
    ∃ m ∈ s.networks.rows, m.networkId = n.networkId ∧ m.joinKey = n.joinKey))

def step (s : KeyWorld) : KeyAction → Option KeyWorld
  | .begin request => some { s with calls := s.calls ++ [(request, request.call)] }
  | .advance call =>
    match s.calls[call]? with
    | some (request, .stmt note write next) =>
      some {
        store := write s.store
        calls := s.calls.set call (request, next s.store)
        history := (note s.store).map (Prod.mk call) ++ s.history }
    | _ => none
  | .other store => if KeepsKeys s.store store then some { s with store } else none

/-! ## What is asked of a history -/

def timesSet (joinKey : String) (history : List (Nat × KeyEvent)) : Nat :=
  history.countP fun e =>
    match e.2 with
    | .set _ key => key == joinKey
    | .consumed _ _ => false

/-- A call was let in by a key, `epoch` counting how often the key had been set. -/
structure Use where
  call : Nat
  joinKey : String
  epoch : Nat
  deriving DecidableEq

def uses : List (Nat × KeyEvent) → List Use
  | [] => []
  | (call, .consumed _ joinKey) :: history =>
    ⟨call, joinKey, timesSet joinKey history⟩ :: uses history
  | (_, .set _ _) :: history => uses history

def Succeeded (s : KeyWorld) (call : Nat) : Prop :=
  ∃ request, s.calls[call]? = some (request, .ret (.ok ()))

structure SingleUse (s : KeyWorld) : Prop where
  /-- No two networks carry one key. -/
  distinct : ∀ m ∈ s.store.networks, ∀ n ∈ s.store.networks, m.joinKey ≠ "" →
    m.joinKey = n.joinKey → m = n
  /-- A join that succeeds was let in by its key. -/
  admitted : ∀ (call : Nat) (fresh : Fresh) (userId joinKey deviceId : String),
    s.calls[call]? = some (.join fresh userId joinKey deviceId, .ret (.ok ())) →
    ∃ use ∈ uses s.history, use.call = call ∧ use.joinKey = Text.trim joinKey
  /-- Each time that a key is set, it lets in one call. -/
  once : ∀ u ∈ uses s.history, ∀ v ∈ uses s.history, u.joinKey = v.joinKey → u.epoch = v.epoch →
    s.Succeeded u.call → s.Succeeded v.call → u.call = v.call

/-- A key is used up while its network carries it, and set while no other network does. -/
def Undisturbed (s : Store) : KeyEvent → Prop
  | .consumed networkId joinKey => ∃ n ∈ s.networks, n.networkId = networkId ∧ n.joinKey = joinKey
  | .set networkId joinKey => ∀ n ∈ s.networks, n.joinKey = joinKey → n.networkId = networkId

def TakesTurns (s : KeyWorld) : KeyAction → Prop
  | .advance call =>
    match s.calls[call]? with
    | some (_, .stmt note _ _) => ∀ e ∈ note s.store, Undisturbed s.store e
    | _ => True
  | _ => True

instance (s : Store) (e : KeyEvent) : Decidable (Undisturbed s e) :=
  match e with
  | .consumed networkId joinKey => inferInstanceAs
    (Decidable (∃ n ∈ s.networks.rows, n.networkId = networkId ∧ n.joinKey = joinKey))
  | .set networkId joinKey => inferInstanceAs
    (Decidable (∀ n ∈ s.networks.rows, n.joinKey = joinKey → n.networkId = networkId))

instance (s : KeyWorld) (a : KeyAction) : Decidable (s.TakesTurns a) := by
  cases a with
  | advance call =>
    dsimp only [TakesTurns]
    split <;> infer_instance
  | _ => exact instDecidableTrue

/-! ## The statements of the calls -/

/-- A statement that sets a key, uses one up, or leaves the networks alone. -/
inductive KeyStatement : (Store → List KeyEvent) → (Store → Store) → Prop
  | quiet {write : Store → Store} (h : ∀ s, (write s).networks = s.networks) :
    KeyStatement (fun _ => []) write
  | set (networkId joinKey : String) (h : joinKey ≠ "") :
    KeyStatement
      (fun s => if (s.networkById networkId).isSome then [.set networkId joinKey] else [])
      fun s => s.updateNetworkJoinKey networkId joinKey
  | consume (networkId joinKey : String) (h : joinKey ≠ "") :
    KeyStatement (fun _ => [.consumed networkId joinKey])
      fun s => s.clearNetworkJoinKey networkId joinKey

theorem keyStatement_query : KeyStatement (fun _ => []) id := .quiet fun _ => rfl

theorem movesDevices_keyStatement : MovesDevices KeyStatement where
  query := keyStatement_query
  sessions _ _ := .quiet fun _ => rfl
  attachments _ _ := .quiet fun _ => rfl
  members _ _ := .quiet fun _ => rfl
  active _ _ := .quiet fun _ => rfl
  member row := .quiet fun s => by
    unfold Store.createMember
    cases s.members.insert row <;> rfl

theorem each_call (request : KeyRequest) : Each KeyStatement request.call := by
  have hq := keyStatement_query
  cases request with
  | join fresh userId joinKey deviceId =>
    refine Each.bind ?_ fun _ => Each.pure ()
    refine Each.bind ?_ fun target =>
      (movesDevices_keyStatement.ensureActiveMemberForNetwork fresh userId deviceId target).bind
        fun member => Each.pure _
    unfold loadNetworkByKey
    split
    · exact Each.fail _
    · rename_i hkey
      refine (each_requireDeviceId deviceId).bind fun _ => ?_
      refine (each_ensureDeviceOwner hq userId deviceId).bind fun _ => ?_
      refine (each_lookupOr hq _ _).bind fun record => ?_
      exact (Each.execNoting (.consume _ _ hkey)).bind fun _ => Each.pure record
  | set fresh userId networkId joinKey =>
    refine Each.bind ?_ fun _ => Each.pure ()
    refine (each_ownNetwork hq userId networkId).bind fun _ => ?_
    dsimp only
    split
    · exact Each.fail _
    · rename_i hlength
      refine (Each.execNoting (.set networkId _ ?_)).bind fun _ => each_getNetwork hq _ _
      intro hempty
      rw [hempty] at hlength
      exact hlength (by decide)

/-- A join does not succeed without having used its key up. -/
theorem notes_joinByKey (fresh : Fresh) (userId joinKey deviceId : String) :
    Notes (fun e => ∃ networkId, e = KeyEvent.consumed networkId (Text.trim joinKey))
      (KeyRequest.join fresh userId joinKey deviceId).call := by
  refine Notes.bind_left (Notes.bind_left ?_ _) _
  unfold loadNetworkByKey
  split
  · exact Notes.fail _
  · refine Notes.bind_right _ fun _ => Notes.bind_right _ fun _ => Notes.bind_right _ fun record => ?_
    exact Notes.bind_left (Program.notes_execNoting fun s =>
      ⟨_, List.mem_singleton_self _, record.networkId, rfl⟩) _

/-! ## Networks and history, statement by statement -/

theorem mem_updateNetworkJoinKey {s : Store} {networkId joinKey : String} {n : Network} :
    n ∈ (s.updateNetworkJoinKey networkId joinKey).networks ↔
      ∃ m ∈ s.networks, (if m.networkId = networkId then { m with joinKey } else m) = n := by
  simp only [Store.updateNetworkJoinKey, Store.updateNetwork, Relation.mem_alter, beq_iff_eq]

theorem mem_clearNetworkJoinKey {s : Store} {networkId joinKey : String} {n : Network} :
    n ∈ (s.clearNetworkJoinKey networkId joinKey).networks ↔
      ∃ m ∈ s.networks, (if m.networkId = networkId ∧ m.joinKey = joinKey then
        { m with joinKey := "" } else m) = n := by
  simp only [Store.clearNetworkJoinKey, Store.updateNetwork, Relation.mem_alter, Bool.and_eq_true,
    beq_iff_eq]

theorem exists_use {call : Nat} {networkId joinKey : String} {history : List (Nat × KeyEvent)}
    (h : (call, .consumed networkId joinKey) ∈ history) :
    ∃ use ∈ uses history, use.call = call ∧ use.joinKey = joinKey := by
  induction history with
  | nil => cases h
  | cons e history ih =>
    rcases List.mem_cons.mp h with rfl | h
    · exact ⟨_, List.mem_cons_self, rfl, rfl⟩
    · obtain ⟨use, huse, hsame⟩ := ih h
      obtain ⟨c, event⟩ := e
      cases event with
      | set => exact ⟨use, huse, hsame⟩
      | consumed => exact ⟨use, List.mem_cons_of_mem _ huse, hsame⟩

/-- Keys are told apart, and a key that a network carries has not been used since it was set. -/
structure Ordered (s : Store) (history : List (Nat × KeyEvent)) : Prop where
  distinct : ∀ m ∈ s.networks, ∀ n ∈ s.networks, m.joinKey ≠ "" → m.joinKey = n.joinKey → m = n
  unused : ∀ n ∈ s.networks, n.joinKey ≠ "" → ∀ u ∈ uses history, u.joinKey = n.joinKey →
    u.epoch < timesSet n.joinKey history
  past : ∀ u ∈ uses history, u.epoch ≤ timesSet u.joinKey history
  apart : (uses history).Pairwise fun u v => u.joinKey = v.joinKey → u.epoch ≠ v.epoch

theorem ordered_start : Ordered ∅ [] where
  distinct _ hm := absurd hm (Relation.not_mem_empty _)
  unused _ hn := absurd hn (Relation.not_mem_empty _)
  past _ hu := absurd hu List.not_mem_nil
  apart := .nil

/-- Of two networks with one identifier there is one. -/
theorem eq_of_networkId {s : Store} {m n : Network} (hm : m ∈ s.networks) (hn : n ∈ s.networks)
    (h : m.networkId = n.networkId) : m = n := Relation.eq_of_clash hm hn h

variable {s t : Store} {history : List (Nat × KeyEvent)}

theorem Ordered.keeps (h : Ordered s history) (hkeys : KeepsKeys s t) : Ordered t history where
  distinct m hm n hn hkey hsame := by
    obtain ⟨m', hm', hmid, hmkey⟩ := hkeys m hm hkey
    obtain ⟨n', hn', hnid, hnkey⟩ := hkeys n hn (hsame ▸ hkey)
    have hmn : m' = n' := h.distinct m' hm' n' hn' (hmkey ▸ hkey)
      (hmkey.trans (hsame.trans hnkey.symm))
    exact eq_of_networkId hm hn (hmid.symm.trans ((congrArg Network.networkId hmn).trans hnid))
  unused n hn hkey u hu huse := by
    obtain ⟨m, hm, _, hmkey⟩ := hkeys n hn hkey
    rw [← hmkey] at hkey huse ⊢
    exact h.unused m hm hkey u hu huse
  past := h.past
  apart := h.apart

theorem Ordered.set (h : Ordered s history) {call : Nat} {networkId joinKey : String}
    (hother : ∀ n ∈ s.networks, n.joinKey = joinKey → n.networkId = networkId) :
    Ordered (s.updateNetworkJoinKey networkId joinKey)
      ((call, .set networkId joinKey) :: history) where
  distinct m hm n hn hkey hsame := by
    obtain ⟨m', hm', rfl⟩ := mem_updateNetworkJoinKey.mp hm
    obtain ⟨n', hn', rfl⟩ := mem_updateNetworkJoinKey.mp hn
    have hid : m'.networkId = n'.networkId ∨ m' = n' := by
      by_cases hmid : m'.networkId = networkId <;> by_cases hnid : n'.networkId = networkId
      · exact .inl (hmid.trans hnid.symm)
      · rw [if_pos hmid, if_neg hnid] at hsame
        exact absurd (hother n' hn' hsame.symm) hnid
      · rw [if_neg hmid, if_pos hnid] at hsame
        exact absurd (hother m' hm' hsame) hmid
      · rw [if_neg hmid] at hkey hsame
        rw [if_neg hnid] at hsame
        exact .inr (h.distinct m' hm' n' hn' hkey hsame)
    rcases hid with hid | rfl
    · rw [eq_of_networkId hm' hn' hid]
    · rfl
  unused n hn hkey u hu huse := by
    have hu : u ∈ uses history := hu
    obtain ⟨m, hm, rfl⟩ := mem_updateNetworkJoinKey.mp hn
    have hpast := h.past u hu
    unfold timesSet
    rw [List.countP_cons]
    by_cases hid : m.networkId = networkId
    · rw [if_pos hid] at huse ⊢
      rw [huse] at hpast
      simp only [beq_self_eq_true, if_true]
      exact Nat.lt_succ_of_le hpast
    · rw [if_neg hid] at hkey huse ⊢
      exact Nat.lt_of_lt_of_le (h.unused m hm hkey u hu huse) (Nat.le_add_right _ _)
  past u hu := by
    have hpast := h.past u hu
    unfold timesSet
    rw [List.countP_cons]
    exact Nat.le_trans hpast (Nat.le_add_right _ _)
  apart := h.apart

theorem timesSet_consumed (call : Nat) (networkId joinKey key : String) :
    timesSet key ((call, .consumed networkId joinKey) :: history) = timesSet key history := by
  unfold timesSet
  rw [List.countP_cons]
  rfl

theorem Ordered.consume (h : Ordered s history) {call : Nat} {networkId joinKey : String}
    (hkey : joinKey ≠ "")
    (hcarries : ∃ n ∈ s.networks, n.networkId = networkId ∧ n.joinKey = joinKey) :
    Ordered (s.clearNetworkJoinKey networkId joinKey)
      ((call, .consumed networkId joinKey) :: history) := by
  obtain ⟨n₀, hn₀, hid₀, hkey₀⟩ := hcarries
  have hkept : ∀ n ∈ (s.clearNetworkJoinKey networkId joinKey).networks, n.joinKey ≠ "" →
      n ∈ s.networks ∧ n.joinKey ≠ joinKey := by
    intro n hn hne
    obtain ⟨m, hm, rfl⟩ := mem_clearNetworkJoinKey.mp hn
    split at hne
    · exact absurd rfl hne
    · rename_i hnot
      rw [if_neg hnot]
      refine ⟨hm, fun hsame => hnot ⟨?_, hsame⟩⟩
      -- another network with the key would be this one
      rw [h.distinct m hm n₀ hn₀ hne (hsame.trans hkey₀.symm)]
      exact hid₀
  constructor
  · intro m hm n hn hne hsame
    exact h.distinct m (hkept m hm hne).1 n (hkept n hn (hsame ▸ hne)).1 hne hsame
  · intro n hn hne u hu huse
    obtain ⟨hmem, hother⟩ := hkept n hn hne
    rw [timesSet_consumed]
    rcases List.mem_cons.mp hu with rfl | hu
    · exact absurd huse.symm hother
    · exact h.unused n hmem hne u hu huse
  · intro u hu
    rw [timesSet_consumed]
    rcases List.mem_cons.mp hu with rfl | hu
    · exact Nat.le_refl _
    · exact h.past u hu
  · refine List.pairwise_cons.mpr ⟨fun u hu hsame => ?_, h.apart⟩
    have hlt := h.unused n₀ hn₀ (hkey₀ ▸ hkey) u hu (hsame.symm.trans hkey₀.symm)
    rw [hkey₀] at hlt
    exact (Nat.ne_of_lt hlt).symm

/-- What an undisturbed statement notes and writes keeps the order. -/
theorem Ordered.statement (h : Ordered s history) {note : Store → List KeyEvent}
    {write : Store → Store} (hstmt : KeyStatement note write) (call : Nat)
    (hok : ∀ e ∈ note s, Undisturbed s e) :
    Ordered (write s) ((note s).map (Prod.mk call) ++ history) := by
  cases hstmt with
  | quiet hnetworks =>
    refine h.keeps fun n hn _ => ⟨n, ?_, rfl, rfl⟩
    rwa [hnetworks] at hn
  | consume networkId joinKey hkey =>
    exact h.consume hkey (hok _ (List.mem_singleton_self _))
  | set networkId joinKey hkey =>
    dsimp only at hok ⊢
    split at hok
    · rename_i hfound
      rw [if_pos hfound]
      exact h.set (hok _ (List.mem_singleton_self _))
    · rename_i hmissing
      rw [if_neg hmissing]
      -- the network is not there, and nothing is written
      refine h.keeps fun n hn _ => ?_
      obtain ⟨m, hm, rfl⟩ := mem_updateNetworkJoinKey.mp hn
      have hid : m.networkId ≠ networkId := by
        have hnone := Relation.find?_eq_none.mp (Option.not_isSome_iff_eq_none.mp hmissing) m hm
        simpa using hnone
      rw [if_neg hid]
      exact ⟨m, hm, rfl, rfl⟩

/-! ## Runs -/

/-- The invariant of the runs in which keys are used in turn. -/
structure Kept (s : KeyWorld) : Prop where
  ordered : Ordered s.store s.history
  statements : ∀ c ∈ s.calls, Each KeyStatement c.2
  noted : ∀ (call : Nat) (fresh : Fresh) (userId joinKey deviceId : String) (p : Call Unit),
    s.calls[call]? = some (.join fresh userId joinKey deviceId, p) →
    p.Always fun events result => ∀ a, result = .ok a → ∃ networkId,
      (call, KeyEvent.consumed networkId (Text.trim joinKey)) ∈ s.history ∨
        KeyEvent.consumed networkId (Text.trim joinKey) ∈ events

theorem kept_start : start.Kept where
  ordered := ordered_start
  statements _ hc := absurd hc List.not_mem_nil
  noted _ _ _ _ _ _ h := by cases h

theorem Kept.begin {s : KeyWorld} (h : s.Kept) (request : KeyRequest) :
    Kept { s with calls := s.calls ++ [(request, request.call)] } where
  ordered := h.ordered
  statements c hc := by
    rcases List.mem_append.mp hc with hc | hc
    · exact h.statements c hc
    · rw [List.mem_singleton.mp hc]
      exact each_call request
  noted call fresh userId joinKey deviceId p hp := by
    dsimp only at hp
    by_cases hlt : call < s.calls.length
    · rw [List.getElem?_append_left hlt] at hp
      exact h.noted call fresh userId joinKey deviceId p hp
    · rw [List.getElem?_append_right (Nat.le_of_not_lt hlt)] at hp
      have hnew := List.mem_of_getElem? hp
      obtain ⟨hrequest, rfl⟩ := Prod.mk.inj (List.mem_singleton.mp hnew)
      subst hrequest
      refine (Program.notes_iff.mp (notes_joinByKey fresh userId joinKey deviceId)).mono
        fun events result hnotes a ha => ?_
      obtain ⟨_, hmem, networkId, rfl⟩ := hnotes a ha
      exact ⟨networkId, .inr hmem⟩

/-- The statement that a call takes. -/
theorem step_advance {s t : KeyWorld} {call : Nat} (hstep : s.step (.advance call) = some t) :
    ∃ request note write next, s.calls[call]? = some (request, .stmt note write next) ∧
      t = {
        store := write s.store
        calls := s.calls.set call (request, next s.store)
        history := (note s.store).map (Prod.mk call) ++ s.history } := by
  simp only [step] at hstep
  split at hstep
  · rename_i request note write next hcall
    exact ⟨request, note, write, next, hcall, (Option.some.inj hstep).symm⟩
  · cases hstep

theorem Kept.advance {s t : KeyWorld} (h : s.Kept) {call : Nat} (hok : s.TakesTurns (.advance call))
    (hstep : s.step (.advance call) = some t) : t.Kept := by
  obtain ⟨request, note, write, next, hcall, rfl⟩ := step_advance hstep
  obtain ⟨hstmt, hnext⟩ := Program.each_stmt.mp (h.statements _ (List.mem_of_getElem? hcall))
  simp only [TakesTurns, hcall] at hok
  refine ⟨h.ordered.statement hstmt call hok, ?_, ?_⟩
  · intro c hc
    rcases List.mem_or_eq_of_mem_set hc with hc | rfl
    · exact h.statements c hc
    · exact hnext s.store
  · intro i fresh userId joinKey deviceId p hp
    dsimp only at hp ⊢
    rw [List.getElem?_set] at hp
    split at hp
    · rename_i hi
      subst hi
      split at hp
      · obtain ⟨rfl, rfl⟩ := Prod.mk.inj (Option.some.inj hp)
        have halways := Program.always_stmt.mp
          (h.noted call fresh userId joinKey deviceId _ hcall) s.store
        refine halways.mono fun events result hnoted a ha => ?_
        obtain ⟨networkId, hold | hnew⟩ := hnoted a ha
        · exact ⟨networkId, .inl (List.mem_append_right _ hold)⟩
        · rcases List.mem_append.mp hnew with hnow | hlater
          · exact ⟨networkId, .inl (List.mem_append_left _ (List.mem_map_of_mem hnow))⟩
          · exact ⟨networkId, .inr hlater⟩
      · cases hp
    · refine (h.noted i fresh userId joinKey deviceId p hp).mono fun events result hnoted a ha => ?_
      obtain ⟨networkId, hold | hlater⟩ := hnoted a ha
      · exact ⟨networkId, .inl (List.mem_append_right _ hold)⟩
      · exact ⟨networkId, .inr hlater⟩

theorem Kept.step {s t : KeyWorld} (h : s.Kept) {a : KeyAction} (hok : s.TakesTurns a)
    (hstep : s.step a = some t) : t.Kept := by
  cases a with
  | begin request =>
    obtain rfl := Option.some.inj hstep
    exact h.begin request
  | advance call => exact h.advance hok hstep
  | other store =>
    simp only [KeyWorld.step] at hstep
    split at hstep
    · rename_i hkeys
      obtain rfl := Option.some.inj hstep
      exact ⟨h.ordered.keeps hkeys, h.statements, h.noted⟩
    · cases hstep

theorem Kept.singleUse {s : KeyWorld} (h : s.Kept) : s.SingleUse where
  distinct := h.ordered.distinct
  admitted call fresh userId joinKey deviceId hcall := by
    obtain ⟨networkId, hused | hnone⟩ :=
      Program.always_ret.mp (h.noted call fresh userId joinKey deviceId _ hcall) () rfl
    · exact exists_use hused
    · exact absurd hnone List.not_mem_nil
  once u hu v hv hkey hepoch _ _ := by
    by_contra hne
    have huv : u ≠ v := fun heq => hne (congrArg Use.call heq)
    have hsymm : Std.Symm fun u v : Use => u.joinKey = v.joinKey → u.epoch ≠ v.epoch :=
      ⟨fun _ _ h hsame heq => h hsame.symm heq.symm⟩
    exact h.ordered.apart.forall hu hv huv hkey hepoch

/-- Join keys are single use in every run where each is used up while its network carries it, and
set while no other network does. -/
theorem singleUse_of_takesTurns (s : KeyWorld)
    (h : Reachable (guarded TakesTurns (rel KeyWorld.step)) start s) : s.SingleUse :=
  (h.invariant Kept kept_start fun _ _ _ hs hstep => hs.step hstep.1 hstep.2).singleUse

/-! ## Two joins that read the key before either uses it up -/

section Race

def sharedKey : String := "00112233445566778899aabbccddeeff"

/-- One network, its owner, and two users with a device each. -/
def threeUsers : Store :=
  { (∅ : Store) with
    users := Relation.ofRows [⟨"owner-1", "owner@local.slan", "net-1"⟩,
      ⟨"user-2", "two@local.slan", ""⟩, ⟨"user-3", "three@local.slan", ""⟩]
    devices := Relation.ofRows [⟨"dev-2", "user-2", "machine-2", "two", "macos", "online", none, 0⟩,
      ⟨"dev-3", "user-3", "machine-3", "three", "macos", "online", none, 0⟩]
    networks := Relation.ofRows [⟨"net-1", "owner-1", "home", "", "subnet-1", "10.0.0.0/16", ""⟩] }

/-- The owner sets the key; both callers find it, then both use it up and join. -/
def racingJoins : List KeyAction :=
  [.other threeUsers, .begin (.set (.ofDigits "1" (.refl true)) "owner-1" "net-1" sharedKey),
    .advance 0, .advance 0,
    .begin (.join (.ofDigits "2" (.refl true)) "user-2" sharedKey "dev-2"),
    .begin (.join (.ofDigits "3" (.refl true)) "user-3" sharedKey "dev-3")] ++
  [.advance 1, .advance 2, .advance 1, .advance 2, .advance 1, .advance 2] ++
  List.replicate 7 (.advance 1) ++ List.replicate 7 (.advance 2)

def oneJoin : List KeyAction :=
  [.other threeUsers, .begin (.set (.ofDigits "1" (.refl true)) "owner-1" "net-1" sharedKey),
    .advance 0, .advance 0, .begin (.join (.ofDigits "2" (.refl true)) "user-2" sharedKey "dev-2")] ++
  List.replicate 10 (.advance 1)

def succeeds (s : KeyWorld) (call : Nat) : Bool :=
  match s.calls[call]? with
  | some (_, .ret (.ok ())) => true
  | _ => false

theorem succeeded_of_succeeds {s : KeyWorld} {call : Nat} (h : succeeds s call = true) :
    s.Succeeded call := by
  unfold succeeds at h
  split at h
  · rename_i request hcall
    exact ⟨request, hcall⟩
  · cases h

/-- A key that is set and used once. -/
theorem singleUse_of_takesTurns_oneJoin :
    ∃ s : KeyWorld, s.Succeeded 1 ∧ uses s.history = [⟨1, sharedKey, 1⟩] ∧ s.SingleUse := by
  let s := execD (fun s a => if TakesTurns s a then KeyWorld.step s a else none) start oneJoin
  have hexec : execGuarded TakesTurns KeyWorld.step start oneJoin = some s :=
    exec_eq_execD (by decide)
  exact ⟨s, succeeded_of_succeeds (by decide), by decide,
    singleUse_of_takesTurns s (.of_execGuarded hexec)⟩

/-- One setting of the key lets both callers in. -/
theorem two_joins_with_one_key :
    ¬ ∀ s : KeyWorld, Reachable (rel KeyWorld.step) start s → s.SingleUse := by
  intro h
  let s := execD KeyWorld.step start racingJoins
  have hexec : exec KeyWorld.step start racingJoins = some s :=
    exec_eq_execD (by decide)
  have hfirst : s.Succeeded 1 := succeeded_of_succeeds (by decide)
  have hsecond : s.Succeeded 2 := succeeded_of_succeeds (by decide)
  have huses : uses s.history = [⟨2, sharedKey, 1⟩, ⟨1, sharedKey, 1⟩] := by decide
  have honce := (h s (.of_exec .start hexec)).once ⟨1, sharedKey, 1⟩ (by simp [huses])
    ⟨2, sharedKey, 1⟩ (by simp [huses]) rfl rfl hfirst hsecond
  exact absurd honce (by decide)

end Race

end KeyWorld

end Slan.Networks
