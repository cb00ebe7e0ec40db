import Slan.Client.KeyProvider
import Slan.Lib.Files
import Slan.Lib.Transition
import Mathlib.Data.UInt
import Mathlib.Logic.Equiv.List

/-! # `key_provider.rs`: the calls of several processes on one key file

One system call is a step. `fs::read` takes the file in pieces until it finds nothing more, and
`fs::write` leaves it empty before it writes it in pieces. The directory of the file is there, and
no system call fails. A call gives its result with its last system call.
-/

namespace Slan.Client

open Transition

/-- What `serde_json` does with a store. What has been written is read again as it was. -/
structure KeyStoreFormat where
  encode : TunnelKeyStore → List UInt8
  decode : List UInt8 → Except String TunnelKeyStore
  decode_encode (store : TunnelKeyStore) : decode (encode store) = .ok store

inductive GeneratePhase where
  | opening
  | reading (got : List UInt8)
  | saving (material : TunnelKeyMaterial) (store : TunnelKeyStore)
  | writing (material : TunnelKeyMaterial) (written rest : List UInt8)
  | returned (result : Except String TunnelKeyMaterial)
  | crashed
  deriving DecidableEq

namespace GeneratePhase

def isReading : GeneratePhase → Bool
  | .reading _ => true
  | _ => false

def isWriting : GeneratePhase → Bool
  | .writing .. => true
  | _ => false

def unwritten : GeneratePhase → List UInt8
  | .writing _ _ rest => rest
  | _ => []

/-- The key material that a call gives. -/
def given : GeneratePhase → List TunnelKeyMaterial
  | .returned (.ok material) => [material]
  | _ => []

end GeneratePhase

structure GenerateCall where
  deviceId : String
  nodeId : Option String
  peerNodeId : String
  createdAtMs : Nat
  /-- What calls had given by the time it was made. -/
  earlier : List TunnelKeyMaterial
  phase : GeneratePhase
  deriving DecidableEq

/-- The file with the calls on it, and what they have given. -/
structure KeyFileWorld where
  contents : Option (List UInt8)
  calls : List GenerateCall
  returned : List TunnelKeyMaterial
  deriving DecidableEq

inductive KeyFileMove where
  | generate (deviceId : String) (nodeId : Option String) (peerNodeId : String) (createdAtMs : Nat)
  /-- The next system call of a call, on so many bytes at most and one more. -/
  | advance (i n : Nat)
  | crash (i : Nat)
  deriving DecidableEq

structure KeyFile where
  path : String
  format : KeyStoreFormat

namespace KeyFile

def loadStore (file : KeyFile) : Option (List UInt8) → Except String TunnelKeyStore
  | none => .ok ⟨[]⟩
  | some bytes =>
    (file.format.decode bytes).mapError fun err =>
      "parse tunnel key store " ++ file.path ++ ": " ++ err

/-- How a call goes on with what it has read. -/
def loaded (file : KeyFile) (call : GenerateCall) (contents : Option (List UInt8)) :
    GeneratePhase :=
  let provider : FileTunnelKeyProvider := ⟨file.loadStore contents, fun _ => .ok ()⟩
  match provider.generate call.deviceId call.nodeId call.peerNodeId call.createdAtMs with
  | .error err => .returned (.error err)
  | .ok (material, none) => .returned (.ok material)
  | .ok (material, some store) => .saving material store

end KeyFile

namespace KeyFileWorld

/-- Nobody has called yet. -/
def start (contents : Option (List UInt8)) : KeyFileWorld := ⟨contents, [], []⟩

def enter (world : KeyFileWorld) (i : Nat) (call : GenerateCall) (phase : GeneratePhase) :
    KeyFileWorld :=
  { world with
    calls := world.calls.set i { call with phase }
    returned := phase.given ++ world.returned }

def advance (file : KeyFile) (world : KeyFileWorld) (i : Nat) (call : GenerateCall) (n : Nat) :
    Option KeyFileWorld :=
  match call.phase with
  | .opening =>
    match world.contents with
    | none => some (world.enter i call (file.loaded call none))
    | some _ => some (world.enter i call (.reading []))
  | .reading got =>
    match ((world.contents.getD []).drop got.length).take (n + 1) with
    -- a read of nothing is the end of the file
    | [] => some (world.enter i call (file.loaded call (some got)))
    | chunk => some (world.enter i call (.reading (got ++ chunk)))
  | .saving material store =>
    -- the file is opened to be written anew
    some ({ world with contents := some [] }.enter i call
      (.writing material [] (file.format.encode store)))
  | .writing material written rest =>
    match rest.take (n + 1) with
    -- `write_all` returns when nothing is left
    | [] => some (world.enter i call (.returned (.ok material)))
    | chunk =>
      let contents := world.contents.map fun bytes => Files.writeAt bytes written.length chunk
      some ({ world with contents }.enter i call
        (.writing material (written ++ chunk) (rest.drop (n + 1))))
  | .returned _ | .crashed => none

def step (file : KeyFile) (world : KeyFileWorld) : KeyFileMove → Option KeyFileWorld
  | .generate deviceId nodeId peerNodeId createdAtMs =>
    some { world with
      calls := world.calls ++
        [⟨deviceId, nodeId, peerNodeId, createdAtMs, world.returned, .opening⟩] }
  | .advance i n => do
    let call ← world.calls[i]?
    world.advance file i call n
  | .crash i => do
    let call ← world.calls[i]?
    match call.phase with
    | .returned _ | .crashed => none
    | _ => some (world.enter i call .crashed)

end KeyFileWorld

/-! ## What is asked of the calls -/

/-- No call fails, and each gives the key pair again that an earlier one gave for its device and
node. -/
def KeyFileWorld.Survives (world : KeyFileWorld) : Prop :=
  ∀ call ∈ world.calls, ∀ result, call.phase = .returned result →
    ∃ material, result = .ok material ∧
      ∀ before ∈ call.earlier, before.isOf call.deviceId call.nodeId →
        material.keyPair = before.keyPair

/-- The first entry of the material's device and node is the material itself. -/
def TunnelKeyStore.Holds (store : TunnelKeyStore) (material : TunnelKeyMaterial) : Prop :=
  store.entries.find? (fun entry =>
    entry.deviceId = material.deviceId ∧ entry.nodeId = material.nodeId) = some material

instance (store : TunnelKeyStore) (material : TunnelKeyMaterial) :
    Decidable (store.Holds material) := inferInstanceAs (Decidable (_ = _))

namespace KeyFileWorld

/-- The system calls that open the file: not while a call writes it, nor for a store to be written
while a call reads it. Nothing that has been given is missing from a store that is to be written. -/
def Admits (world : KeyFileWorld) : GeneratePhase → Prop
  | .opening => ∀ other ∈ world.calls, other.phase.isWriting = false
  | .saving _ store =>
    (∀ other ∈ world.calls, other.phase.isWriting = false ∧ other.phase.isReading = false) ∧
      ∀ material ∈ world.returned, store.Holds material
  | _ => True

instance (world : KeyFileWorld) : (phase : GeneratePhase) → Decidable (world.Admits phase)
  | .opening => inferInstanceAs (Decidable (∀ _ ∈ _, _ = _))
  | .saving .. => inferInstanceAs (Decidable ((∀ _ ∈ _, _ = _ ∧ _ = _) ∧ ∀ _ ∈ _, _))
  | .reading _ | .writing .. | .returned _ | .crashed => .isTrue trivial

/-- And no call crashes with a part of its store still to be written. -/
def Careful (world : KeyFileWorld) : KeyFileMove → Prop
  | .generate .. => True
  | .advance i _ => ∀ call ∈ world.calls[i]?, world.Admits call.phase
  | .crash i => ∀ call ∈ world.calls[i]?, call.phase.unwritten = []

instance (world : KeyFileWorld) : (move : KeyFileMove) → Decidable (world.Careful move)
  | .generate .. => .isTrue trivial
  | .advance i _ => inferInstanceAs (Decidable (∀ call ∈ world.calls[i]?, world.Admits call.phase))
  | .crash i => inferInstanceAs (Decidable (∀ call ∈ world.calls[i]?, call.phase.unwritten = []))

end KeyFileWorld

/-! ## Careful runs -/

theorem TunnelKeyMaterial.isOf_iff {material : TunnelKeyMaterial} {deviceId : String}
    {nodeId : Option String} : material.isOf deviceId nodeId = true ↔
      material.deviceId = some deviceId ∧ material.nodeId = nodeId :=
  decide_eq_true_iff

theorem TunnelKeyStore.holds_iff {store : TunnelKeyStore} {material : TunnelKeyMaterial}
    {deviceId : String} {nodeId : Option String} (h : material.isOf deviceId nodeId = true) :
    store.Holds material ↔
      (store.entries.find? fun entry => entry.isOf deviceId nodeId) = some material := by
  obtain ⟨hdevice, hnode⟩ := TunnelKeyMaterial.isOf_iff.mp h
  unfold TunnelKeyStore.Holds
  rw [hdevice, hnode]
  rfl

/-- A store holds one material of a device and a node. -/
theorem TunnelKeyStore.Holds.unique {store : TunnelKeyStore}
    {material before : TunnelKeyMaterial} {deviceId : String} {nodeId : Option String}
    (h : store.Holds material) (hof : material.isOf deviceId nodeId = true)
    (hbefore : store.Holds before) (hbeforeOf : before.isOf deviceId nodeId = true) :
    material = before := by
  have hfound := (holds_iff hof).mp h
  rw [(holds_iff hbeforeOf).mp hbefore] at hfound
  exact (Option.some.inj hfound).symm

namespace GenerateCall

/-- The material of a call is that of its device and node, and that which was given before. -/
def Fits (call : GenerateCall) (material : TunnelKeyMaterial) : Prop :=
  material.isOf call.deviceId call.nodeId = true ∧
    ∀ before ∈ call.earlier, before.isOf call.deviceId call.nodeId → material = before

/-- Where a call stands that neither reads nor writes. -/
def Settled (call : GenerateCall) : Prop :=
  match call.phase with
  | .saving material store =>
    material.isOf call.deviceId call.nodeId = true ∧ store.Holds material
  | .returned (.ok material) => call.Fits material
  | .returned (.error _) => False
  | _ => True

end GenerateCall

/-- A new material is found at the end of a store that has none of its device and node. -/
theorem TunnelKeyStore.holds_append {entries : List TunnelKeyMaterial}
    {material : TunnelKeyMaterial} {deviceId : String} {nodeId : Option String}
    (hof : material.isOf deviceId nodeId = true)
    (hnone : (entries.find? fun entry => entry.isOf deviceId nodeId) = none) :
    (⟨entries ++ [material]⟩ : TunnelKeyStore).Holds material := by
  rw [holds_iff hof, List.find?_append, hnone, Option.none_or, List.find?_cons, hof]

/-- What a call goes on with when the file can be read: a material of its device and node, that of
the store or one to be saved with it. -/
theorem KeyFile.loaded_spec {file : KeyFile} {contents : Option (List UInt8)}
    {store : TunnelKeyStore} (h : file.loadStore contents = .ok store) (call : GenerateCall) :
    ∃ material, material.isOf call.deviceId call.nodeId = true ∧
      (file.loaded call contents = .returned (.ok material) ∧ store.Holds material ∨
        ∃ saved, file.loaded call contents = .saving material saved ∧ saved.Holds material) := by
  unfold loaded FileTunnelKeyProvider.generate
  dsimp only
  rw [h]
  dsimp only [bind, Except.bind]
  cases hfound : store.entries.find? fun entry => entry.isOf call.deviceId call.nodeId with
  | some existing =>
    have hof := List.find?_some hfound
    exact ⟨existing, hof, .inl ⟨rfl, (TunnelKeyStore.holds_iff hof).mpr hfound⟩⟩
  -- nothing of this device and node is saved yet, so the new one is put at the end
  | none =>
    have hof : (InMemoryTunnelKeyProvider.generate call.deviceId call.nodeId call.peerNodeId
        call.createdAtMs).isOf call.deviceId call.nodeId = true :=
      TunnelKeyMaterial.isOf_iff.mpr ⟨rfl, rfl⟩
    exact ⟨_, hof, .inr ⟨_, rfl, TunnelKeyStore.holds_append hof hfound⟩⟩

namespace KeyFileWorld

variable {file : KeyFile} {world next : KeyFileWorld} {call : GenerateCall} {i n : Nat}
  {phase : GeneratePhase}

/-- No call writes, the file holds what has been given, and readers have a first part of it. -/
structure Quiet (file : KeyFile) (world : KeyFileWorld) : Prop where
  loads : ∃ store, file.loadStore world.contents = .ok store ∧
    ∀ material ∈ world.returned, store.Holds material
  still : ∀ call ∈ world.calls, call.phase.isWriting = false
  readers : ∀ call ∈ world.calls, ∀ got, call.phase = .reading got →
    ∃ bytes, world.contents = some bytes ∧ got <+: bytes

/-- The file is a first part of a store that holds what has been given and what the call that writes
it is to give. -/
structure Writes (file : KeyFile) (world : KeyFileWorld) (call : GenerateCall)
    (material : TunnelKeyMaterial) (written rest : List UInt8) (store : TunnelKeyStore) : Prop where
  contents : world.contents = some written
  payload : written ++ rest = file.format.encode store
  holds : ∀ before ∈ world.returned, store.Holds before
  own : store.Holds material
  isOf : material.isOf call.deviceId call.nodeId = true

/-- One call writes, and meanwhile nobody reads. -/
structure Saves (file : KeyFile) (world : KeyFileWorld) (i : Nat) : Prop where
  writer : ∃ call material written rest store, world.calls[i]? = some call ∧
    call.phase = .writing material written rest ∧
    world.Writes file call material written rest store
  alone : ∀ j, j ≠ i → ∀ other ∈ world.calls[j]?,
    other.phase.isWriting = false ∧ other.phase.isReading = false

structure Sound (file : KeyFile) (world : KeyFileWorld) : Prop where
  earlier : ∀ call ∈ world.calls, ∀ material ∈ call.earlier, material ∈ world.returned
  settled : ∀ call ∈ world.calls, call.Settled
  turn : world.Quiet file ∨ ∃ i, world.Saves file i

theorem mem_enter {other : GenerateCall} (h : other ∈ (world.enter i call phase).calls) :
    other ∈ world.calls ∨ other = { call with phase } :=
  List.mem_or_eq_of_mem_set h

theorem enter_getElem?_self {current : GenerateCall} (h : world.calls[i]? = some current)
    (contents : Option (List UInt8)) :
    ({ world with contents }.enter i call phase).calls[i]? = some { call with phase } := by
  obtain ⟨hlt, -⟩ := List.getElem?_eq_some_iff.mp h
  exact List.getElem?_set_self hlt

theorem enter_getElem?_ne {j : Nat} (h : j ≠ i) (contents : Option (List UInt8)) :
    ({ world with contents }.enter i call phase).calls[j]? = world.calls[j]? :=
  List.getElem?_set_ne h.symm

/-- What a call gives is what it has given before, where a store holds both. -/
theorem fits_of_holds {store : TunnelKeyStore} {material : TunnelKeyMaterial}
    (hearlier : ∀ before ∈ call.earlier, before ∈ world.returned)
    (hholds : ∀ before ∈ world.returned, store.Holds before)
    (hof : material.isOf call.deviceId call.nodeId = true) (hown : store.Holds material) :
    call.Fits material :=
  ⟨hof, fun before hbefore hbeforeOf =>
    hown.unique hof (hholds before (hearlier before hbefore)) hbeforeOf⟩

/-- A call goes on, with the file perhaps written. -/
theorem Sound.enter (h : world.Sound file) (hi : world.calls[i]? = some call)
    (contents : Option (List UInt8)) (hsettled : GenerateCall.Settled { call with phase })
    (hturn : ({ world with contents }.enter i call phase).Quiet file ∨
      ∃ j, ({ world with contents }.enter i call phase).Saves file j) :
    ({ world with contents }.enter i call phase).Sound file := by
  refine ⟨fun other hother material hmaterial => ?_, fun other hother => ?_, hturn⟩
  · refine List.mem_append_right _ ?_
    rcases mem_enter hother with hold | rfl
    · exact h.earlier other hold material hmaterial
    · exact h.earlier call (List.mem_of_getElem? hi) material hmaterial
  · rcases mem_enter hother with hold | rfl
    · exact h.settled other hold
    · exact hsettled

theorem Quiet.enter {store : TunnelKeyStore} (h : world.Quiet file)
    (hload : file.loadStore world.contents = .ok store)
    (hholds : ∀ material ∈ phase.given ++ world.returned, store.Holds material)
    (hstill : phase.isWriting = false)
    (hreads : ∀ got, phase = .reading got → ∃ bytes, world.contents = some bytes ∧ got <+: bytes) :
    (world.enter i call phase).Quiet file := by
  refine ⟨⟨store, hload, hholds⟩, fun other hother => ?_, fun other hother => ?_⟩
  · rcases mem_enter hother with hold | rfl
    · exact h.still other hold
    · exact hstill
  · rcases mem_enter hother with hold | rfl
    · exact h.readers other hold
    · exact hreads

/-- A call that has the whole file goes on between saves. -/
theorem Sound.enter_loaded (h : world.Sound file) (hquiet : world.Quiet file)
    (hi : world.calls[i]? = some call) :
    (world.enter i call (file.loaded call world.contents)).Sound file := by
  obtain ⟨store, hload, hholds⟩ := hquiet.loads
  obtain ⟨material, hof, ⟨hphase, hown⟩ | ⟨saved, hphase, hown⟩⟩ := file.loaded_spec hload call
  · rw [hphase]
    refine h.enter hi world.contents ?_ (.inl (hquiet.enter hload ?_ rfl nofun))
    · exact fits_of_holds (h.earlier call (List.mem_of_getElem? hi)) hholds hof hown
    · exact List.forall_mem_cons.mpr ⟨hown, hholds⟩
  · rw [hphase]
    exact h.enter hi world.contents ⟨hof, hown⟩ (.inl (hquiet.enter hload hholds rfl nofun))

theorem Sound.enter_reading {bytes got : List UInt8} (h : world.Sound file)
    (hquiet : world.Quiet file) (hi : world.calls[i]? = some call)
    (hcontents : world.contents = some bytes) (hgot : got <+: bytes) :
    (world.enter i call (.reading got)).Sound file := by
  obtain ⟨store, hload, hholds⟩ := hquiet.loads
  refine h.enter hi world.contents trivial (.inl (hquiet.enter hload hholds rfl ?_))
  rintro got' ⟨⟩
  exact ⟨bytes, hcontents, hgot⟩

/-- A save begins when nobody reads or writes. -/
theorem Sound.enter_writing {material : TunnelKeyMaterial} {store : TunnelKeyStore}
    (h : world.Sound file) (hi : world.calls[i]? = some call)
    (hphase : call.phase = .saving material store) (hadmits : world.Admits call.phase) :
    ({ world with contents := some [] }.enter i call
      (.writing material [] (file.format.encode store))).Sound file := by
  have hsettled := h.settled call (List.mem_of_getElem? hi)
  unfold GenerateCall.Settled at hsettled
  rw [hphase] at hsettled hadmits
  obtain ⟨hnobody, hholds⟩ := hadmits
  -- the empty file is a first part of the store, which by the guard holds all that was given
  refine h.enter hi (some []) trivial
    (.inr ⟨i, ⟨_, material, [], _, store, enter_getElem?_self hi (some []), rfl, ?_⟩, ?_⟩)
  · exact ⟨rfl, rfl, hholds, hsettled.2, hsettled.1⟩
  · intro j hj other hother
    rw [enter_getElem?_ne hj] at hother
    exact hnobody other (List.mem_of_getElem? hother)

/-- Between saves a call reads on or begins one. -/
theorem Sound.advance_quiet (h : world.Sound file) (hquiet : world.Quiet file)
    (hi : world.calls[i]? = some call) (hadmits : world.Admits call.phase)
    (hs : world.advance file i call n = some next) : next.Sound file := by
  have hmem := List.mem_of_getElem? hi
  unfold advance at hs
  cases hphase : call.phase with
  | opening =>
    rw [hphase] at hs
    cases hcontents : world.contents with
    | none =>
      rw [hcontents] at hs
      obtain rfl := Option.some.inj hs
      rw [← hcontents]
      exact h.enter_loaded hquiet hi
    | some bytes =>
      rw [hcontents] at hs
      obtain rfl := Option.some.inj hs
      exact h.enter_reading hquiet hi hcontents List.nil_prefix
  | reading got =>
    rw [hphase] at hs
    obtain ⟨bytes, hcontents, hgot⟩ := hquiet.readers call hmem got hphase
    have hnext := Files.prefix_append_take hgot (n + 1)
    dsimp only at hs
    rw [hcontents, Option.getD_some] at hs
    cases hchunk : (bytes.drop got.length).take (n + 1) with
    | nil =>
      rw [hchunk] at hs
      obtain rfl := Option.some.inj hs
      rcases List.take_eq_nil_iff.mp hchunk with hzero | hend
      · cases hzero
      · rw [Files.eq_of_prefix_of_drop hgot hend, ← hcontents]
        exact h.enter_loaded hquiet hi
    | cons b chunk =>
      rw [hchunk] at hs hnext
      obtain rfl := Option.some.inj hs
      exact h.enter_reading hquiet hi hcontents hnext
  | saving material store =>
    rw [hphase] at hs
    obtain rfl := Option.some.inj hs
    exact h.enter_writing hi hphase hadmits
  | writing material written rest =>
    -- nobody writes between saves
    have hstill := hquiet.still call hmem
    rw [hphase] at hstill
    cases hstill
  | returned result =>
    rw [hphase] at hs
    cases hs
  | crashed =>
    rw [hphase] at hs
    cases hs

/-- The end of a save, with a result or a crash. -/
theorem Sound.enter_saved {material : TunnelKeyMaterial} {written : List UInt8}
    {store : TunnelKeyStore} (h : world.Sound file) (hi : world.calls[i]? = some call)
    (hwrites : world.Writes file call material written [] store)
    (halone : ∀ j, j ≠ i → ∀ other ∈ world.calls[j]?,
      other.phase.isWriting = false ∧ other.phase.isReading = false)
    (hsettled : GenerateCall.Settled { call with phase })
    (hgiven : ∀ given ∈ phase.given, given = material)
    (hidle : phase.isWriting = false ∧ phase.isReading = false) :
    (world.enter i call phase).Sound file := by
  -- the file is now the whole store
  have hload : file.loadStore world.contents = .ok store := by
    rw [hwrites.contents, ← List.append_nil written, hwrites.payload]
    unfold KeyFile.loadStore
    dsimp only
    rw [file.format.decode_encode]
    rfl
  have hholds : ∀ given ∈ phase.given ++ world.returned, store.Holds given := by
    intro given hmem
    rcases List.mem_append.mp hmem with hnew | hold
    · rw [hgiven given hnew]
      exact hwrites.own
    · exact hwrites.holds given hold
  have hothers : ∀ other ∈ (world.enter i call phase).calls,
      other.phase.isWriting = false ∧ other.phase.isReading = false := by
    intro other hother
    obtain ⟨j, hj⟩ := List.getElem?_of_mem hother
    by_cases hji : j = i
    · obtain rfl := hji
      obtain rfl := Option.some.inj ((enter_getElem?_self hi world.contents).symm.trans hj)
      exact hidle
    · exact halone j hji other ((enter_getElem?_ne hji world.contents).symm.trans hj)
  refine h.enter hi world.contents hsettled (.inl ⟨⟨store, hload, hholds⟩, ?_, ?_⟩)
  · exact fun other hother => (hothers other hother).1
  · intro other hother got hgot
    have hreading := (hothers other hother).2
    rw [hgot] at hreading
    cases hreading

/-- During a save the call that writes goes on, and others that have no use of the file. -/
theorem Sound.advance_saves (h : world.Sound file) {j : Nat} (hsaves : world.Saves file j)
    (hi : world.calls[i]? = some call) (hadmits : world.Admits call.phase)
    (hs : world.advance file i call n = some next) : next.Sound file := by
  obtain ⟨writer, material, written, rest, store, hj, hwriter, hwrites⟩ := hsaves.writer
  have hmem := List.mem_of_getElem? hj
  have hbusy : writer.phase.isWriting = true := by rw [hwriter]; rfl
  unfold advance at hs
  by_cases hij : i = j
  · obtain rfl := hij
    obtain rfl := Option.some.inj (hi.symm.trans hj)
    rw [hwriter] at hs
    dsimp only at hs
    cases hchunk : rest.take (n + 1) with
    | nil =>
      rw [hchunk] at hs
      obtain rfl := Option.some.inj hs
      rcases List.take_eq_nil_iff.mp hchunk with hzero | hrest
      · cases hzero
      · obtain rfl := hrest
        refine h.enter_saved hi hwrites hsaves.alone ?_ (fun given => List.mem_singleton.mp)
          ⟨rfl, rfl⟩
        exact fits_of_holds (h.earlier call (List.mem_of_getElem? hi)) hwrites.holds hwrites.isOf
          hwrites.own
    | cons b chunk =>
      rw [hchunk] at hs
      obtain rfl := Option.some.inj hs
      -- what is written and what is left stay the parts of one store
      have hnew : world.contents.map (fun bytes =>
          Files.writeAt bytes written.length (b :: chunk)) = some (written ++ b :: chunk) := by
        rw [hwrites.contents, Option.map_some, Files.writeAt_length]
      have hpayload : written ++ b :: chunk ++ rest.drop (n + 1) = file.format.encode store := by
        rw [← hwrites.payload, ← hchunk, List.append_assoc, List.take_append_drop]
      refine h.enter hi _ trivial (.inr ⟨i, ⟨_, material, _, _, store, enter_getElem?_self hi _,
        rfl, ⟨hnew, hpayload, hwrites.holds, hwrites.own, hwrites.isOf⟩⟩, ?_⟩)
      intro j hj other hother
      rw [enter_getElem?_ne hj] at hother
      exact hsaves.alone j hj other hother
  -- another call than the one that writes: the guard keeps it from opening the file
  · obtain ⟨hstill, hreading⟩ := hsaves.alone i hij call hi
    cases hphase : call.phase with
    | opening =>
      rw [hphase] at hadmits
      cases hbusy.symm.trans (hadmits writer hmem)
    | reading got =>
      rw [hphase] at hreading
      cases hreading
    | saving material store =>
      rw [hphase] at hadmits
      cases hbusy.symm.trans (hadmits.1 writer hmem).1
    | writing material written rest =>
      rw [hphase] at hstill
      cases hstill
    | returned result =>
      rw [hphase] at hs
      cases hs
    | crashed =>
      rw [hphase] at hs
      cases hs

/-- A crash between saves, or with nothing left to write, or of a call that has no use of the
file. -/
theorem Sound.crash (h : world.Sound file) (hi : world.calls[i]? = some call)
    (hunwritten : call.phase.unwritten = []) : (world.enter i call .crashed).Sound file := by
  rcases h.turn with hquiet | ⟨j, hsaves⟩
  · obtain ⟨store, hload, hholds⟩ := hquiet.loads
    exact h.enter hi world.contents trivial (.inl (hquiet.enter hload hholds rfl nofun))
  · obtain ⟨writer, material, written, rest, store, hj, hwriter, hwrites⟩ := hsaves.writer
    by_cases hij : i = j
    · obtain rfl := hij
      obtain rfl := Option.some.inj (hi.symm.trans hj)
      -- a call that has written all its store leaves the file whole when it crashes
      rw [hwriter] at hunwritten
      obtain rfl : rest = [] := hunwritten
      exact h.enter_saved hi hwrites hsaves.alone trivial nofun ⟨rfl, rfl⟩
    · have hkept : (world.enter i call .crashed).calls[j]? = some writer :=
        (enter_getElem?_ne (Ne.symm hij) world.contents).trans hj
      refine h.enter hi world.contents trivial
        (.inr ⟨j, ⟨writer, material, written, rest, store, hkept, hwriter, ?_⟩, ?_⟩)
      · exact ⟨hwrites.contents, hwrites.payload, hwrites.holds, hwrites.own, hwrites.isOf⟩
      · intro k hk other hother
        by_cases hki : k = i
        · obtain rfl := hki
          obtain rfl := Option.some.inj ((enter_getElem?_self hi world.contents).symm.trans hother)
          exact ⟨rfl, rfl⟩
        · exact hsaves.alone k hk other ((enter_getElem?_ne hki world.contents).symm.trans hother)

/-- A call that is made has not opened the file yet. -/
theorem Sound.generate (h : world.Sound file) (hphase : call.phase = .opening)
    (hearlier : call.earlier = world.returned) :
    ({ world with calls := world.calls ++ [call] } : KeyFileWorld).Sound file := by
  have hcases : ∀ other ∈ world.calls ++ [call], other ∈ world.calls ∨ other = call :=
    fun other hother => (List.mem_append.mp hother).imp_right List.mem_singleton.mp
  refine ⟨fun other hother => ?_, fun other hother => ?_, ?_⟩
  · rcases hcases other hother with hold | rfl
    · exact h.earlier other hold
    · exact fun material hmaterial => hearlier ▸ hmaterial
  · rcases hcases other hother with hold | rfl
    · exact h.settled other hold
    · unfold GenerateCall.Settled
      rw [hphase]
      trivial
  · rcases h.turn with hquiet | ⟨i, hsaves⟩
    · refine .inl ⟨hquiet.loads, fun other hother => ?_, fun other hother => ?_⟩
      · rcases hcases other hother with hold | rfl
        · exact hquiet.still other hold
        · rw [hphase]
          rfl
      · rcases hcases other hother with hold | rfl
        · exact hquiet.readers other hold
        · rw [hphase]
          exact nofun
    · obtain ⟨writer, material, written, rest, store, hi, hwriter, hwrites⟩ := hsaves.writer
      obtain ⟨hlt, -⟩ := List.getElem?_eq_some_iff.mp hi
      refine .inr ⟨i, ⟨writer, material, written, rest, store,
        (List.getElem?_append_left hlt).trans hi, hwriter, ?_⟩, fun j hj other hother => ?_⟩
      · exact ⟨hwrites.contents, hwrites.payload, hwrites.holds, hwrites.own, hwrites.isOf⟩
      · rw [List.getElem?_append] at hother
        split at hother
        · exact hsaves.alone j hj other hother
        · obtain rfl := List.mem_singleton.mp (List.mem_of_getElem? hother)
          rw [hphase]
          exact ⟨rfl, rfl⟩

theorem Sound.step {move : KeyFileMove} (h : world.Sound file) (hcareful : world.Careful move)
    (hs : world.step file move = some next) : next.Sound file := by
  cases move with
  | generate deviceId nodeId peerNodeId createdAtMs =>
    obtain rfl := Option.some.inj hs
    exact h.generate rfl rfl
  | advance i n =>
    obtain ⟨call, hi, hs⟩ := Option.bind_eq_some_iff.mp hs
    rcases h.turn with hquiet | ⟨j, hsaves⟩
    · exact h.advance_quiet hquiet hi (hcareful call hi) hs
    · exact h.advance_saves hsaves hi (hcareful call hi) hs
  | crash i =>
    obtain ⟨call, hi, hs⟩ := Option.bind_eq_some_iff.mp hs
    have hcrashed : next = world.enter i call .crashed := by
      split at hs <;> cases hs
      rfl
    rw [hcrashed]
    exact h.crash hi (hcareful call hi)

theorem Sound.start (file : KeyFile) (before : Option TunnelKeyStore) :
    (start (before.map file.format.encode)).Sound file := by
  refine ⟨List.forall_mem_nil _, List.forall_mem_nil _,
    .inl ⟨⟨before.getD ⟨[]⟩, ?_, List.forall_mem_nil _⟩, List.forall_mem_nil _,
      List.forall_mem_nil _⟩⟩
  cases before with
  | none => rfl
  | some store =>
    change Except.mapError _ (file.format.decode (file.format.encode store)) = _
    rw [file.format.decode_encode]
    rfl

theorem Sound.survives (h : world.Sound file) : world.Survives := by
  intro call hcall result hphase
  have hsettled := h.settled call hcall
  unfold GenerateCall.Settled at hsettled
  rw [hphase] at hsettled
  cases result with
  | error err => exact hsettled.elim
  | ok material =>
    refine ⟨material, rfl, fun before hbefore hof => ?_⟩
    rw [hsettled.2 before hbefore hof]

/-- As long as nobody opens the file while it is written, no save leaves out what has been given,
and no call crashes amid its save, the key pairs survive. -/
theorem survives_of_careful (file : KeyFile) (before : Option TunnelKeyStore)
    (h : Reachable (guarded Careful (rel (step file))) (start (before.map file.format.encode))
      world) : world.Survives :=
  (h.invariant (Sound file) (.start file before) fun _ _ _ hsound hs =>
    hsound.step hs.1 hs.2).survives

/-! ## A format

The text of a few stores as `serde_json` writes it. Other stores are numbered, since nothing is read
of them here but what has been written.
-/

def sampleMaterial (nodeId : String) (createdAtMs : Nat) : TunnelKeyMaterial :=
  InMemoryTunnelKeyProvider.generate "dev-1" (some nodeId) "peer-1" createdAtMs

def sampleStores : List TunnelKeyStore :=
  [⟨[sampleMaterial "node-1" 42]⟩, ⟨[sampleMaterial "node-2" 42]⟩,
    ⟨[sampleMaterial "node-2" 42, sampleMaterial "node-1" 43]⟩]

def jsonText : Option String → String
  | none => "null"
  | some text => "\"" ++ text ++ "\""

def entryText (entry : TunnelKeyMaterial) : String :=
  "    \x7b\n      \"deviceId\": " ++ jsonText entry.deviceId ++
    ",\n      \"nodeId\": " ++ jsonText entry.nodeId ++
    ",\n      \"keyPair\": \x7b\n        \"publicKey\": " ++ jsonText entry.keyPair.publicKey ++
    ",\n        \"privateKey\": " ++ jsonText entry.keyPair.privateKey ++
    "\n      \x7d,\n      \"createdAtMs\": " ++ toString entry.createdAtMs ++ "\n    \x7d"

def storeText (store : TunnelKeyStore) : List UInt8 :=
  let text := "\x7b\n  \"entries\": [\n" ++ ",\n".intercalate (store.entries.map entryText) ++
    "\n  ]\n\x7d"
  text.toUTF8.data.toList

def stringCode (text : String) : List Nat := text.toList.map Char.toNat

def codeString (code : List Nat) : String := String.ofList (code.map Char.ofNat)

theorem codeString_stringCode (text : String) : codeString (stringCode text) = text := by
  have hsame : Char.ofNat ∘ Char.toNat = id := funext Char.ofNat_toNat
  unfold codeString stringCode
  rw [List.map_map, hsame, List.map_id, String.ofList_toList]

abbrev EntryCode := (Option (List Nat) × Option (List Nat)) × (List Nat × List Nat) × Nat

def entryCode (entry : TunnelKeyMaterial) : EntryCode :=
  ((entry.deviceId.map stringCode, entry.nodeId.map stringCode),
    (stringCode entry.keyPair.publicKey, stringCode entry.keyPair.privateKey), entry.createdAtMs)

def codeEntry (code : EntryCode) : TunnelKeyMaterial :=
  ⟨code.1.1.map codeString, code.1.2.map codeString,
    ⟨codeString code.2.1.1, codeString code.2.1.2⟩, code.2.2⟩

theorem codeEntry_entryCode (entry : TunnelKeyMaterial) : codeEntry (entryCode entry) = entry := by
  have hoption : ∀ text : Option String, (text.map stringCode).map codeString = text := by
    intro text
    cases text with
    | none => rfl
    | some text => exact congrArg some (codeString_stringCode text)
  unfold codeEntry entryCode
  simp only [hoption, codeString_stringCode]

def sampleEncode (store : TunnelKeyStore) : List UInt8 :=
  if store ∈ sampleStores then storeText store
  else 0 :: List.replicate (Encodable.encode (store.entries.map entryCode)) 1

def sampleDecode (bytes : List UInt8) : Except String TunnelKeyStore :=
  if bytes = [] then .error "EOF while parsing a value at line 1 column 0"
  else if bytes.head? = some 0 then
    match (Encodable.decode bytes.tail.length : Option (List EntryCode)) with
    | some codes => .ok ⟨codes.map codeEntry⟩
    | none => .error "expected value at line 1 column 1"
  else
    match sampleStores.find? fun store => storeText store = bytes with
    | some store => .ok store
    | none => .error "expected value at line 1 column 1"

theorem sampleDecode_sampleEncode (store : TunnelKeyStore) :
    sampleDecode (sampleEncode store) = .ok store := by
  unfold sampleEncode
  split
  · next hmem =>
    have hall : ∀ store ∈ sampleStores, sampleDecode (storeText store) = .ok store := by
      decide +kernel
    exact hall store hmem
  · have hsame : codeEntry ∘ entryCode = id := funext codeEntry_entryCode
    unfold sampleDecode
    rw [if_neg (List.cons_ne_nil _ _), if_pos List.head?_cons, List.tail_cons,
      List.length_replicate, Encodable.encodek]
    dsimp only
    rw [List.map_map, hsame, List.map_id]

def sampleFile : KeyFile := ⟨"keys.json", sampleEncode, sampleDecode, sampleDecode_sampleEncode⟩

/-! ## Runs -/

/-- Two calls for a node, one after the other. -/
def carefulRun : List KeyFileMove :=
  [.generate "dev-1" (some "node-1") "peer-1" 42, .advance 0 0, .advance 0 0, .advance 0 1000,
    .advance 0 0, .generate "dev-1" (some "node-1") "peer-2" 43, .advance 1 0, .advance 1 1000,
    .advance 1 0]

theorem survives_of_careful_sequential :
    ∃ world, execGuarded Careful (step sampleFile) (start none) carefulRun = some world ∧
      world.calls.map GenerateCall.phase =
        [.returned (.ok (sampleMaterial "node-1" 42)),
          .returned (.ok (sampleMaterial "node-1" 42))] ∧
      world.Survives := by
  obtain ⟨hrun, hphases⟩ :
      (execGuarded Careful (step sampleFile) (start none) carefulRun).isSome = true ∧
        (execGuarded Careful (step sampleFile) (start none) carefulRun).map
          (fun world => world.calls.map GenerateCall.phase) =
          some [.returned (.ok (sampleMaterial "node-1" 42)),
            .returned (.ok (sampleMaterial "node-1" 42))] := by
    decide +kernel
  obtain ⟨world, hworld⟩ := Option.isSome_iff_exists.mp hrun
  rw [hworld, Option.map_some] at hphases
  exact ⟨world, hworld, Option.some.inj hphases,
    survives_of_careful sampleFile none (.of_execGuarded hworld)⟩

/-- A process crashes when it has opened the file to write its first store, and another call
comes. -/
def crashedRun : List KeyFileMove :=
  [.generate "dev-1" (some "node-1") "peer-1" 42, .advance 0 0, .advance 0 0, .crash 0,
    .generate "dev-1" (some "node-1") "peer-1" 43, .advance 1 0, .advance 1 0]

/-- Two calls for different nodes find no file. The second save loses the first. -/
def racedRun : List KeyFileMove :=
  [.generate "dev-1" (some "node-1") "peer-1" 42, .generate "dev-1" (some "node-2") "peer-1" 42,
    .advance 0 0, .advance 1 0, .advance 0 0, .advance 0 1000, .advance 0 0, .advance 1 0,
    .advance 1 1000, .advance 1 0, .generate "dev-1" (some "node-1") "peer-1" 43, .advance 2 0,
    .advance 2 1000, .advance 2 0, .advance 2 0, .advance 2 1000, .advance 2 0]

/-- A crash makes a later call fail, and a save for another node makes one give another key pair. -/
theorem not_survives :
    (∃ world, Reachable (rel (step sampleFile)) (start none) world ∧ ∃ call ∈ world.calls,
      call.phase = .returned (.error
        "parse tunnel key store keys.json: EOF while parsing a value at line 1 column 0") ∧
      ¬world.Survives) ∧
    ∃ world, Reachable (rel (step sampleFile)) (start none) world ∧ ∃ call ∈ world.calls,
      call.earlier = [sampleMaterial "node-2" 42, sampleMaterial "node-1" 42] ∧
      call.phase = .returned (.ok (sampleMaterial "node-1" 43)) ∧ ¬world.Survives := by
  constructor
  · obtain ⟨hrun, hcall⟩ : (exec (step sampleFile) (start none) crashedRun).isSome = true ∧
        ∃ call ∈ (execD (step sampleFile) (start none) crashedRun).calls, call.phase =
          .returned (.error
            "parse tunnel key store keys.json: EOF while parsing a value at line 1 column 0") := by
      decide
    obtain ⟨call, hmem, hphase⟩ := hcall
    refine ⟨_, .of_exec .start (exec_eq_execD hrun), call, hmem, hphase, fun hsurvives => ?_⟩
    obtain ⟨material, hok, -⟩ := hsurvives call hmem _ hphase
    cases hok
  · obtain ⟨hrun, hcall⟩ : (exec (step sampleFile) (start none) racedRun).isSome = true ∧
        ∃ call ∈ (execD (step sampleFile) (start none) racedRun).calls,
          (call.earlier = [sampleMaterial "node-2" 42, sampleMaterial "node-1" 42] ∧
            call.phase = .returned (.ok (sampleMaterial "node-1" 43))) ∧
          call.deviceId = "dev-1" ∧ call.nodeId = some "node-1" := by
      decide +kernel
    obtain ⟨call, hmem, ⟨hearlier, hphase⟩, hdevice, hnode⟩ := hcall
    refine ⟨_, .of_exec .start (exec_eq_execD hrun), call, hmem, hearlier, hphase,
      fun hsurvives => ?_⟩
    obtain ⟨material, hok, hsame⟩ := hsurvives call hmem _ hphase
    obtain rfl := Except.ok.inj hok
    have hlost := hsame (sampleMaterial "node-1" 42)
      (hearlier ▸ List.mem_cons_of_mem _ List.mem_cons_self)
      (by rw [hdevice, hnode]; decide)
    exact absurd hlost (by decide)

end KeyFileWorld

end Slan.Client
