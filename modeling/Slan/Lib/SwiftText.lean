import Mathlib.Algebra.Ring.Int.Defs
import Mathlib.Data.List.TakeWhile
import Mathlib.Data.List.DropRight
import Mathlib.Tactic.Common

/-! # Of Swift's strings and collections: splitting, and numbers in text -/

namespace SwiftText

section Split

variable {α : Type} [DecidableEq α] {separator : α}

/-- A subsequence, left out when it is empty. -/
def subsequence (piece : List α) : List (List α) := if piece = [] then [] else [piece]

/-- Of a `split`, what is left to do behind the start of a piece, with so many splits to go. -/
def splitFrom (separator : α) : (splits : Nat) → (piece rest : List α) → List (List α)
  | 0, piece, rest => subsequence (piece ++ rest)
  | _ + 1, piece, [] => subsequence piece
  | splits + 1, piece, element :: rest =>
    if element = separator then
      if piece = [] then splitFrom separator (splits + 1) [] rest
      else piece :: splitFrom separator splits [] rest
    else splitFrom separator (splits + 1) (piece ++ [element]) rest

/-- `split(separator:maxSplits:)`, which omits the empty subsequences. -/
def split (separator : α) (maxSplits : Nat) (elements : List α) : List (List α) :=
  splitFrom separator maxSplits [] elements

theorem splitFrom_skip (splits n : Nat) (rest : List α) :
    splitFrom separator (splits + 1) [] (List.replicate n separator ++ rest) =
      splitFrom separator (splits + 1) [] rest := by
  induction n with
  | zero => rfl
  | succ n ih =>
    rw [List.replicate_succ, List.cons_append, splitFrom, if_pos rfl, if_pos rfl]
    exact ih

theorem splitFrom_walk (splits : Nat) {walked : List α} (h : separator ∉ walked)
    (piece rest : List α) :
    splitFrom separator (splits + 1) piece (walked ++ rest) =
      splitFrom separator (splits + 1) (piece ++ walked) rest := by
  induction walked generalizing piece with
  | nil => rw [List.nil_append, List.append_nil]
  | cons element walked ih =>
    obtain ⟨helement, hwalked⟩ := not_or.mp (mt List.mem_cons.mpr h)
    rw [List.cons_append, splitFrom, if_neg (Ne.symm helement), ih hwalked, List.append_assoc]
    rfl

/-- Any collection is separators, a piece without any, and what is behind the separator there. -/
theorem exists_piece (separator : α) (elements : List α) : ∃ n piece rest,
    elements = List.replicate n separator ++ piece ++ rest ∧ separator ∉ piece ∧
      (rest = [] ∨ ∃ tail, rest = separator :: tail) ∧ (piece = [] → rest = []) := by
  induction elements with
  | nil => exact ⟨0, [], [], rfl, List.not_mem_nil, .inl rfl, fun _ => rfl⟩
  | cons element elements ih =>
    obtain ⟨n, piece, rest, helements, hpiece, hrest, hnil⟩ := ih
    by_cases h : element = separator
    · refine ⟨n + 1, piece, rest, ?_, hpiece, hrest, hnil⟩
      rw [h, helements, List.replicate_succ, List.cons_append, List.cons_append]
    cases n with
    | zero =>
      refine ⟨0, element :: piece, rest, ?_, ?_, hrest, nofun⟩
      · rw [helements]
        rfl
      · exact not_or.mpr ⟨Ne.symm h, hpiece⟩ ∘ List.mem_cons.mp
    | succ n =>
      have htail : elements = separator :: (List.replicate n separator ++ piece ++ rest) := by
        rw [helements, List.replicate_succ, List.cons_append, List.cons_append]
      refine ⟨0, [element], elements, rfl, ?_, .inr ⟨_, htail⟩, nofun⟩
      exact fun hmem => h (List.mem_singleton.mp hmem).symm

/-- The first piece of a collection, and all that is behind it as the second. -/
theorem split_one {n : Nat} {piece rest : List α} (hpiece : separator ∉ piece)
    (hne : piece ≠ []) :
    split separator 1 (List.replicate n separator ++ piece ++ separator :: rest) =
      piece :: subsequence rest := by
  rw [split, List.append_assoc, splitFrom_skip, splitFrom_walk 0 hpiece, List.nil_append,
    splitFrom, if_pos rfl, if_neg hne, splitFrom, List.nil_append]

theorem split_one_alone {n : Nat} {piece : List α} (hpiece : separator ∉ piece) :
    split separator 1 (List.replicate n separator ++ piece) = subsequence piece := by
  have hwalk := splitFrom_walk 0 hpiece [] []
  rw [List.append_nil, List.nil_append] at hwalk
  rw [split, splitFrom_skip, hwalk, splitFrom]

/-- There is nothing but separators, or a piece alone, or one with something behind it. -/
theorem split_one_cases (separator : α) (elements : List α) :
    split separator 1 elements = [] ∨ ∃ n piece rest, separator ∉ piece ∧ piece ≠ [] ∧
      elements = List.replicate n separator ++ piece ++ rest ∧
        ((rest = [] ∨ rest = [separator]) ∧ split separator 1 elements = [piece] ∨
          ∃ tail, tail ≠ [] ∧ rest = separator :: tail ∧
            split separator 1 elements = [piece, tail]) := by
  obtain ⟨n, piece, rest, helements, hpiece, hrest, hnil⟩ := exists_piece separator elements
  by_cases hne : piece = []
  · refine .inl ?_
    rw [helements, hnil hne, List.append_nil, split_one_alone hpiece, hne]
    rfl
  refine .inr ⟨n, piece, rest, hpiece, hne, helements, ?_⟩
  obtain rfl | ⟨tail, rfl⟩ := hrest
  · refine .inl ⟨.inl rfl, ?_⟩
    rw [helements, List.append_nil, split_one_alone hpiece, subsequence, if_neg hne]
  rw [helements, split_one hpiece hne]
  by_cases htail : tail = []
  · exact .inl ⟨.inr (congrArg _ htail), by rw [htail]; rfl⟩
  · exact .inr ⟨tail, htail, rfl, by rw [subsequence, if_neg htail]⟩

end Split

/-! ## Numbers -/

/-- The value of some digits. -/
def magnitude (digits : List Char) : Option Int :=
  if digits ≠ [] ∧ digits.all Char.isDigit then some (Nat.ofDigitChars 10 digits 0) else none

/-- A number that fits in 64 bits. -/
def exactly (n : Int) : Option Int := if -2 ^ 63 ≤ n ∧ n < 2 ^ 63 then some n else none

/-- `Int(_: String)` -/
def int (text : String) : Option Int :=
  match text.toList with
  | '+' :: digits => (magnitude digits).bind exactly
  | '-' :: digits => (magnitude digits).bind fun n => exactly (-n)
  | digits => (magnitude digits).bind exactly

end SwiftText
