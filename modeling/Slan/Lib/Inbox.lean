import Mathlib.Tactic.Common

/-! # Receive buffers, with where their bytes come from

What has arrived at a socket and was not read yet, the oldest first. A piece of what arrived has
the source and the number of the whole.
-/

namespace Inbox

structure Arrival (ν : Type) where
  source : ν
  /-- How many had arrived before it. -/
  number : Nat
  bytes : List UInt8
  deriving DecidableEq, Repr

variable {ν : Type} {P : ν → Nat → Prop} {inbox : List (Arrival ν)} {n : Nat}

/-- The bytes of all of them. -/
def bytesOf (arrivals : List (Arrival ν)) : List UInt8 := (arrivals.map Arrival.bytes).flatten

/-- A read of at most so many bytes of a stream: what it takes, and what is left. -/
def readStream : Nat → List (Arrival ν) → List (Arrival ν) × List (Arrival ν)
  | 0, inbox => ([], inbox)
  | _, [] => ([], [])
  | n + 1, a :: rest =>
    if n + 1 < a.bytes.length then
      ([{ a with bytes := a.bytes.take (n + 1) }], { a with bytes := a.bytes.drop (n + 1) } :: rest)
    else
      let (taken, left) := readStream (n + 1 - a.bytes.length) rest
      (a :: taken, left)

/-- A read of one datagram, cut to so many bytes. -/
def readDatagram (n : Nat) : List (Arrival ν) → List (Arrival ν) × List (Arrival ν)
  | [] => ([], [])
  | a :: rest => ([{ a with bytes := a.bytes.take n }], rest)

/-- A read of one datagram, which is no larger than the buffer. -/
def readWhole (inbox : List (Arrival ν)) : List (Arrival ν) × List (Arrival ν) :=
  (inbox.take 1, inbox.drop 1)

/-- A read neither makes up a source nor changes a number. -/
theorem forall_readStream (h : ∀ a ∈ inbox, P a.source a.number) :
    (∀ a ∈ (readStream n inbox).1, P a.source a.number) ∧
      ∀ a ∈ (readStream n inbox).2, P a.source a.number := by
  induction inbox generalizing n with
  | nil => cases n <;> exact ⟨nofun, nofun⟩
  | cons a rest ih =>
    cases n with
    | zero => exact ⟨nofun, h⟩
    | succ n =>
      obtain ⟨ha, hrest⟩ := List.forall_mem_cons.mp h
      unfold readStream
      split
      · exact ⟨List.forall_mem_singleton.mpr ha, List.forall_mem_cons.mpr ⟨ha, hrest⟩⟩
      · obtain ⟨htaken, hleft⟩ := @ih (n + 1 - a.bytes.length) hrest
        exact ⟨List.forall_mem_cons.mpr ⟨ha, htaken⟩, hleft⟩

theorem forall_readDatagram (h : ∀ a ∈ inbox, P a.source a.number) :
    (∀ a ∈ (readDatagram n inbox).1, P a.source a.number) ∧
      ∀ a ∈ (readDatagram n inbox).2, P a.source a.number := by
  cases inbox with
  | nil => exact ⟨nofun, nofun⟩
  | cons a rest =>
    obtain ⟨ha, hrest⟩ := List.forall_mem_cons.mp h
    exact ⟨List.forall_mem_singleton.mpr ha, hrest⟩

theorem forall_readWhole {Q : Arrival ν → Prop} (h : ∀ a ∈ inbox, Q a) :
    (∀ a ∈ (readWhole inbox).1, Q a) ∧ ∀ a ∈ (readWhole inbox).2, Q a :=
  ⟨fun a ha => h a (List.mem_of_mem_take ha), fun a ha => h a (List.mem_of_mem_drop ha)⟩

/-- Where bytes were read, something was taken. -/
theorem exists_mem_of_bytesOf_ne_nil (h : bytesOf inbox ≠ []) : ∃ a, a ∈ inbox := by
  cases inbox with
  | nil => exact absurd rfl h
  | cons a rest => exact ⟨a, List.mem_cons_self⟩

end Inbox
