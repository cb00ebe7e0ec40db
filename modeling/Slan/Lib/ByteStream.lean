import Mathlib.Algebra.Order.Ring.Nat
import Mathlib.Data.List.Basic
import Mathlib.Tactic.Common

/-! # Bytes that arrive with read timeouts between them -/

namespace ByteStream

/-! ## Reading -/

inductive Arrival where
  | byte (b : UInt8)
  | timeout
  deriving DecidableEq, Repr

/-- The bytes alone. -/
def bytes : List Arrival → List UInt8
  | [] => []
  | .byte b :: s => b :: bytes s
  | .timeout :: s => bytes s

/-- Bytes that arrive without a timeout. -/
def flow (block : List UInt8) : List Arrival := block.map .byte

/-- A read of so many bytes, `none` where it times out. The bytes that it has read until then are
lost. Where nothing more arrives, it times out too. -/
def readExact : Nat → List Arrival → Option (List UInt8) × List Arrival
  | 0, s => (some [], s)
  | _ + 1, [] => (none, [])
  | _ + 1, .timeout :: s => (none, s)
  | n + 1, .byte b :: s => ((readExact n s).1.map (b :: ·), (readExact n s).2)

@[simp] theorem bytes_flow_append (block : List UInt8) (s : List Arrival) :
    bytes (flow block ++ s) = block ++ bytes s := by
  induction block with
  | nil => rfl
  | cons b block ih => exact congrArg (b :: ·) ih

@[simp] theorem bytes_flow (block : List UInt8) : bytes (flow block) = block := by
  simpa [bytes] using bytes_flow_append block []

@[simp] theorem flow_append (block block' : List UInt8) :
    flow (block ++ block') = flow block ++ flow block' := List.map_append

@[simp] theorem readExact_flow (block : List UInt8) (s : List Arrival) :
    readExact block.length (flow block ++ s) = (some block, s) := by
  induction block with
  | nil => rfl
  | cons b block ih =>
    change ((readExact block.length (flow block ++ s)).1.map (b :: ·),
      (readExact block.length (flow block ++ s)).2) = _
    rw [ih]
    rfl

theorem readExact_eq_some {n : Nat} {s rest : List Arrival} {block : List UInt8}
    (h : readExact n s = (some block, rest)) : block.length = n ∧ s = flow block ++ rest := by
  induction n generalizing s block with
  | zero =>
    obtain ⟨hblock, hrest⟩ := Prod.mk.inj h
    obtain rfl := Option.some.inj hblock
    exact ⟨rfl, hrest⟩
  | succ n ih =>
    cases s with
    | nil => cases h
    | cons arrival s =>
      cases arrival with
      | timeout => cases h
      | byte b =>
        obtain ⟨hread, hrest⟩ := Prod.mk.inj h
        obtain ⟨block', hblock', rfl⟩ := Option.map_eq_some_iff.mp hread
        obtain ⟨hlength, hs⟩ := ih (Prod.ext hblock' hrest)
        exact ⟨congrArg (· + 1) hlength, congrArg (Arrival.byte b :: ·) hs⟩

/-- A read that times out has met the end, a timeout at once, or it loses bytes. -/
theorem readExact_eq_none {n : Nat} {s rest : List Arrival} (h : readExact n s = (none, rest)) :
    s = [] ∧ rest = [] ∨ s = .timeout :: rest ∨ (bytes rest).length < (bytes s).length := by
  induction n generalizing s with
  | zero => cases h
  | succ n ih =>
    cases s with
    | nil => exact .inl ⟨rfl, (Prod.mk.inj h).2.symm⟩
    | cons arrival s =>
      cases arrival with
      | timeout => exact .inr (.inl (congrArg (Arrival.timeout :: ·) (Prod.mk.inj h).2))
      | byte b =>
        obtain ⟨hread, hrest⟩ := Prod.mk.inj h
        have hnone : readExact n s = (none, rest) :=
          Prod.ext (Option.map_eq_none_iff.mp hread) hrest
        refine .inr (.inr ?_)
        rcases ih hnone with ⟨rfl, rfl⟩ | rfl | hless
        · exact Nat.zero_lt_one
        · exact Nat.lt_succ_self _
        · exact Nat.lt_succ_of_lt hless

/-! ## Big-endian numbers -/

/-- The low bytes of a number, the highest of them first. -/
def bigEndian : Nat → Nat → List UInt8
  | 0, _ => []
  | k + 1, n => UInt8.ofNat (n / 256 ^ k) :: bigEndian k n

def ofBigEndian (block : List UInt8) : Nat := block.foldl (fun n b => n * 256 + b.toNat) 0

@[simp] theorem length_bigEndian (k n : Nat) : (bigEndian k n).length = k := by
  induction k with
  | zero => rfl
  | succ k ih => exact congrArg (· + 1) ih

theorem foldl_bigEndian (k n acc : Nat) :
    (bigEndian k n).foldl (fun n b => n * 256 + b.toNat) acc = acc * 256 ^ k + n % 256 ^ k := by
  induction k generalizing acc with
  | zero => simp [bigEndian, Nat.mod_one]
  | succ k ih =>
    have hbyte : (UInt8.ofNat (n / 256 ^ k)).toNat = n / 256 ^ k % 256 := UInt8.toNat_ofNat'
    have hsplit : n % 256 ^ (k + 1) = n / 256 ^ k % 256 * 256 ^ k + n % 256 ^ k := by
      rw [pow_succ, Nat.mod_mul, Nat.add_comm, Nat.mul_comm]
    rw [bigEndian, List.foldl_cons, ih, hbyte, hsplit, pow_succ, Nat.add_mul, Nat.mul_assoc,
      Nat.mul_comm 256, Nat.add_assoc]

theorem ofBigEndian_bigEndian {k n : Nat} (h : n < 256 ^ k) : ofBigEndian (bigEndian k n) = n := by
  rw [ofBigEndian, foldl_bigEndian, Nat.zero_mul, Nat.zero_add, Nat.mod_eq_of_lt h]

theorem ofBigEndian_lt (block : List UInt8) : ofBigEndian block < 256 ^ block.length := by
  have hfold : ∀ (block : List UInt8) (acc : Nat),
      block.foldl (fun n b => n * 256 + b.toNat) acc < (acc + 1) * 256 ^ block.length := by
    intro block
    induction block with
    | nil =>
      intro acc
      rw [List.foldl_nil, List.length_nil, pow_zero]
      omega
    | cons b block ih =>
      intro acc
      have hb := b.toNat_lt
      calc (b :: block).foldl (fun n b => n * 256 + b.toNat) acc
          < (acc * 256 + b.toNat + 1) * 256 ^ block.length := ih _
        _ ≤ ((acc + 1) * 256) * 256 ^ block.length := Nat.mul_le_mul_right _ (by omega)
        _ = (acc + 1) * 256 ^ (b :: block).length := by
          rw [List.length_cons, pow_succ, Nat.mul_assoc, Nat.mul_comm 256]
  have h := hfold block 0
  rwa [Nat.zero_add, Nat.one_mul] at h

end ByteStream
