import Mathlib.Data.List.Infix
import Mathlib.Tactic.Common

/-! # A file that is written in place

Its contents, and what a write at an offset leaves: bytes that were there before and after, and
zeros where the file was shorter.
-/

namespace Files

variable {β : Type} {contents written : List β}

def writeAt [Zero β] (contents : List β) (offset : Nat) (chunk : List β) : List β :=
  contents.take offset ++ List.replicate (offset - contents.length) 0 ++ chunk ++
    contents.drop (offset + chunk.length)

/-- A file grows by what is written at its end. -/
theorem writeAt_length [Zero β] (contents chunk : List β) :
    writeAt contents contents.length chunk = contents ++ chunk := by
  unfold writeAt
  rw [List.take_length, Nat.sub_self, List.replicate_zero, List.append_nil,
    List.drop_eq_nil_of_le (Nat.le_add_right _ _), List.append_nil]

/-- What has been read of a file from its start, and the next bytes. -/
theorem prefix_append_take (h : written <+: contents) (n : Nat) :
    written ++ (contents.drop written.length).take n <+: contents := by
  obtain ⟨rest, rfl⟩ := h
  rw [List.drop_left]
  exact (List.prefix_append_right_inj written).mpr (List.take_prefix n rest)

/-- At the end of the file all of it has been read. -/
theorem eq_of_prefix_of_drop (h : written <+: contents)
    (hend : contents.drop written.length = []) : written = contents := by
  obtain ⟨rest, rfl⟩ := h
  rw [List.drop_left] at hend
  rw [hend, List.append_nil]

end Files
