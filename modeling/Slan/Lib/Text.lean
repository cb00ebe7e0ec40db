import Mathlib.Data.String.Basic
import Mathlib.Data.List.Sort
import Mathlib.Data.List.Forall2
import Mathlib.Data.List.DropRight
import Mathlib.Data.List.TakeWhile
import Mathlib.Data.List.Perm.Subperm
import Mathlib.Algebra.BigOperators.Group.List.Basic
import Mathlib.Algebra.Ring.Nat

/-! # Strings: blank text, trimming, joining with a separator -/

namespace Text

/-- The Unicode `White_Space` property. -/
def isSpace (c : Char) : Bool :=
  let n := c.toNat
  (9 ≤ n && n ≤ 13) || n == 0x20 || n == 0x85 || n == 0xA0 || n == 0x1680 ||
    (0x2000 ≤ n && n ≤ 0x200A) || n == 0x2028 || n == 0x2029 || n == 0x202F ||
    n == 0x205F || n == 0x3000

def trim (s : String) : String :=
  String.ofList ((s.toList.dropWhile isSpace).rdropWhile isSpace)

theorem trim_trim (s : String) : trim (trim s) = trim s := by
  unfold trim
  rw [String.toList_ofList]
  congr 1
  have hpre : (s.toList.dropWhile isSpace).rdropWhile isSpace <+: s.toList.dropWhile isSpace :=
    List.rdropWhile_prefix isSpace _
  have hdrop : ((s.toList.dropWhile isSpace).rdropWhile isSpace).dropWhile isSpace =
      (s.toList.dropWhile isSpace).rdropWhile isSpace := by
    cases hl : (s.toList.dropWhile isSpace).rdropWhile isSpace with
    | nil => rfl
    | cons c cs =>
      rw [hl] at hpre
      obtain ⟨rest, hrest⟩ := hpre
      have hne : s.toList.dropWhile isSpace ≠ [] := by
        rw [← hrest]
        exact List.cons_ne_nil c _
      have hhead := List.head_dropWhile_not isSpace hne
      have hc : isSpace c = false := by
        simpa [← hrest] using hhead
      rw [List.dropWhile_cons_of_neg (by simp [hc])]
  rw [hdrop, List.rdropWhile_idempotent]

/-- Nothing is left after trimming. -/
def isBlank (s : String) : Bool := s.toList.all isSpace

theorem trim_eq_empty_iff (s : String) : trim s = "" ↔ isBlank s = true := by
  rw [← String.toList_inj]
  simp only [trim, isBlank, String.toList_ofList, String.toList_empty, List.all_eq_true,
    List.rdropWhile_eq_nil_iff]
  constructor
  · intro h
    by_cases h0 : s.toList.dropWhile isSpace = []
    · exact List.dropWhile_eq_nil_iff.mp h0
    · have hhead := h _ (List.head_mem h0)
      have hnot := List.head_dropWhile_not isSpace h0
      rw [hhead] at hnot
      contradiction
  · intro h
    simp [List.dropWhile_eq_nil_iff.mpr h]

theorem trim_of_forall_not {s : String} (h : ∀ c ∈ s.toList, isSpace c = false) : trim s = s := by
  have hdrop : s.toList.dropWhile isSpace = s.toList := by
    cases hs : s.toList with
    | nil => rfl
    | cons c cs => rw [List.dropWhile_cons_of_neg (by simp [h c (hs ▸ List.mem_cons_self)])]
  unfold trim
  rw [hdrop, List.rdropWhile_eq_self_iff.mpr, String.ofList_toList]
  intro hne
  simp [h _ (List.getLast_mem hne)]

def utf8 (s : String) : List UInt8 := s.toList.flatMap String.utf8EncodeChar

theorem utf8_injective : Function.Injective utf8 := by
  intro s t h
  have hbytes : s.toList.utf8Encode = t.toList.utf8Encode := congrArg List.toByteArray h
  rw [String.utf8Encode_toList, String.utf8Encode_toList] at hbytes
  exact String.toByteArray_inj.mp hbytes

theorem forall_byte {P : UInt8 → Prop} (h : ∀ n < 256, P (UInt8.ofNat n)) (b : UInt8) : P b := by
  rw [← UInt8.ofNat_toNat (x := b)]
  exact h b.toNat b.toNat_lt

set_option maxRecDepth 4000 in
theorem length_utf8EncodeChar_of_ascii {c : Char} {b : UInt8}
    (h : (String.utf8EncodeChar c)[0]? = some b) (hb : b < 0x80) :
    (String.utf8EncodeChar c).length = 1 := by
  have htwo := forall_byte (P := fun x => ¬(x &&& 0x1f ||| 0xc0) < 0x80) (by decide)
  have hthree := forall_byte (P := fun x => ¬(x &&& 0x0f ||| 0xe0) < 0x80) (by decide)
  have hfour := forall_byte (P := fun x => ¬(x &&& 0x07 ||| 0xf0) < 0x80) (by decide)
  rw [String.length_utf8EncodeChar]
  have hpos := c.utf8Size_pos
  have hle := c.utf8Size_le_four
  have hcases : c.utf8Size = 1 ∨ c.utf8Size = 2 ∨ c.utf8Size = 3 ∨ c.utf8Size = 4 := by omega
  rcases hcases with hsize | hsize | hsize | hsize
  · exact hsize
  · rw [String.utf8EncodeChar_eq_cons_cons hsize] at h
    exact absurd hb (Option.some.inj h ▸ htwo _)
  · rw [String.utf8EncodeChar_eq_cons_cons_cons hsize] at h
    exact absurd hb (Option.some.inj h ▸ hthree _)
  · rw [String.utf8EncodeChar_eq_cons_cons_cons_cons hsize] at h
    exact absurd hb (Option.some.inj h ▸ hfour _)

set_option maxRecDepth 4000 in
/-- A byte that opens no continuation: a string may be cut before it. -/
theorem first_byte_after_ascii {cs : List Char} {i : Nat} {b b' : UInt8}
    (h : (cs.flatMap String.utf8EncodeChar)[i]? = some b) (hb : b < 0x80)
    (h' : (cs.flatMap String.utf8EncodeChar)[i + 1]? = some b') : b'.IsUTF8FirstByte := by
  have hascii := forall_byte (P := fun x => x < 0x80 → x.IsUTF8FirstByte) (by decide)
  induction cs generalizing i with
  | nil => cases h
  | cons c cs ih =>
    rw [List.flatMap_cons] at h h'
    by_cases hi : i < (String.utf8EncodeChar c).length
    · rw [List.getElem?_append_left hi] at h
      obtain ⟨_, rfl⟩ := List.getElem?_eq_some_iff.mp h
      obtain rfl := UInt8.isUTF8FirstByte_getElem_utf8EncodeChar.mp (hascii _ hb)
      have hlength := length_utf8EncodeChar_of_ascii h hb
      rw [List.getElem?_append_right (by omega), hlength] at h'
      cases cs with
      | nil => cases h'
      | cons c' cs =>
        have hpos : 0 < (String.utf8EncodeChar c').length := by
          rw [String.length_utf8EncodeChar]
          exact c'.utf8Size_pos
        rw [List.flatMap_cons, List.getElem?_append_left (by omega)] at h'
        obtain ⟨_, rfl⟩ := List.getElem?_eq_some_iff.mp h'
        exact UInt8.isUTF8FirstByte_getElem_utf8EncodeChar.mpr rfl
    · rw [List.getElem?_append_right (by omega)] at h h'
      have hstep : i + 1 - (String.utf8EncodeChar c).length =
          i - (String.utf8EncodeChar c).length + 1 := by omega
      rw [hstep] at h'
      exact ih h h'

set_option maxRecDepth 4000 in
theorem boundary_of_first_byte {b : UInt8} (h : b.IsUTF8FirstByte) : b < 0x80 ∨ 0xC0 ≤ b :=
  forall_byte (P := fun x => x.IsUTF8FirstByte → x < 0x80 ∨ 0xC0 ≤ x) (by decide) b h

/-- Byte-wise and code-point order agree on UTF-8, so one sort serves both. -/
def sorted (xs : List String) : List String := xs.insertionSort (· ≤ ·)

theorem sorted_perm (xs : List String) : (sorted xs).Perm xs := List.perm_insertionSort _ xs

section Join

variable {α : Type*} [DecidableEq α]

/-- A prefix with as many separators ends at the same separator. -/
theorem append_sep_inj {c : α} {x y r r' : List α} (hcount : x.count c = y.count c)
    (h : x ++ c :: r = y ++ c :: r') : x = y ∧ r = r' := by
  have key : ∀ {x y r r' : List α}, x.count c = y.count c → ∀ as, y = x ++ as →
      c :: r = as ++ c :: r' → as = [] := by
    intro x y r r' hcount as hy hr
    cases as with
    | nil => rfl
    | cons a as =>
      obtain rfl : c = a := (List.cons.inj hr).1
      rw [hy, List.count_append, List.count_cons_self] at hcount
      omega
  rcases List.append_eq_append_iff.mp h with ⟨as, hy, hr⟩ | ⟨as, hx, hr⟩
  · obtain rfl := key hcount as hy hr
    exact ⟨by simpa using hy.symm, by simpa using hr⟩
  · obtain rfl := key hcount.symm as hx hr
    exact ⟨by simpa using hx, by simpa using hr.symm⟩

/-- Joined lists are equal only when the parts are, once the parts hold equally many
separators place by place. -/
theorem intercalate_inj_of_count {c : α} {xs ys : List (List α)}
    (hcount : List.Forall₂ (fun x y => x.count c = y.count c) xs ys)
    (h : [c].intercalate xs = [c].intercalate ys) : xs = ys := by
  induction hcount with
  | nil => rfl
  | @cons x y xs ys hxy hrest ih =>
    cases hrest with
    | nil => simpa [List.intercalate] using h
    | @cons x' y' xs ys hxy' hrest =>
      have hx : ∀ (z z' : List α) zs, [c].intercalate (z :: z' :: zs) =
          z ++ c :: [c].intercalate (z' :: zs) := by
        intro z z' zs
        simp [List.intercalate]
      rw [hx, hx] at h
      obtain ⟨rfl, ht⟩ := append_sep_inj hxy h
      rw [ih ht]

/-- The same for strings. -/
theorem join_inj_of_count {c : Char} {xs ys : List String}
    (hcount : List.Forall₂ (fun x y => x.toList.count c = y.toList.count c) xs ys)
    (h : (String.ofList [c]).intercalate xs = (String.ofList [c]).intercalate ys) : xs = ys := by
  have h' := congrArg String.toList h
  rw [String.toList_intercalate, String.toList_intercalate, String.toList_ofList] at h'
  have := intercalate_inj_of_count (List.forall₂_map_left_iff.mpr
    (List.forall₂_map_right_iff.mpr hcount)) h'
  exact List.map_injective_iff.mpr (fun _ _ => String.toList_inj.mp) this

omit [DecidableEq α] in
theorem length_intercalate (c : α) (xs : List (List α)) :
    ([c].intercalate xs).length = (xs.map List.length).sum + (xs.length - 1) := by
  induction xs with
  | nil => rfl
  | cons x xs ih =>
    cases xs with
    | nil => simp [List.intercalate]
    | cons y ys =>
      have hx : [c].intercalate (x :: y :: ys) = x ++ c :: [c].intercalate (y :: ys) := by
        simp [List.intercalate]
      rw [hx, List.length_append, List.length_cons, ih]
      simp only [List.map_cons, List.sum_cons, List.length_cons]
      omega

end Join

/-- With the same members, none of them repeated on the left, sorted lists that join to the same
string are the same. -/
theorem sorted_eq_of_join {c : Char} {xs ys : List String} (hnodup : xs.Nodup)
    (hmem : ∀ x, x ∈ xs ↔ x ∈ ys)
    (h : (String.ofList [c]).intercalate (sorted xs) =
      (String.ofList [c]).intercalate (sorted ys)) : sorted xs = sorted ys := by
  obtain ⟨sub, hsub, hsublist⟩ := List.Nodup.subperm hnodup fun x hx => (hmem x).mp hx
  obtain ⟨rest, hys⟩ := hsublist.exists_perm_append
  have hrest : ys.Perm (xs ++ rest) := hys.trans (hsub.append_right rest)
  have hlength : ∀ zs : List String,
      ((String.ofList [c]).intercalate (sorted zs)).toList.length =
        (zs.map fun z => z.toList.length).sum + (zs.length - 1) := by
    intro zs
    rw [String.toList_intercalate, String.toList_ofList, length_intercalate, List.length_map,
      (sorted_perm zs).length_eq, List.map_map]
    congr 1
    exact ((sorted_perm zs).map _).sum_eq
  have heq := congrArg (fun s => s.toList.length) h
  rw [hlength, hlength, (hrest.map _).sum_eq, hrest.length_eq, List.map_append, List.sum_append,
    List.length_append] at heq
  have hnil : rest = [] := by
    cases xs with
    | nil =>
      refine List.eq_nil_iff_forall_not_mem.mpr fun z hz => ?_
      have := (hmem z).mpr (hrest.mem_iff.mpr (List.mem_append_right [] hz))
      cases this
    | cons x xs =>
      refine List.length_eq_zero_iff.mp ?_
      simp only [List.length_cons] at heq
      omega
  rw [hnil, List.append_nil] at hrest
  exact ((sorted_perm xs).trans (hrest.symm.trans (sorted_perm ys).symm)).eq_of_pairwise'
    List.sortedLE_insertionSort.pairwise List.sortedLE_insertionSort.pairwise

/-! ## Splitting at a separator -/

/-- The pieces between the separators. -/
def split (c : Char) (s : String) : List String := (s.toList.splitOn c).map String.ofList

theorem not_mem_of_mem_splitOn {c : Char} {cs piece : List Char} (h : piece ∈ cs.splitOn c) :
    c ∉ piece := by
  induction cs generalizing piece with
  | nil =>
    rw [List.splitOn_nil, List.mem_singleton] at h
    rw [h]
    exact List.not_mem_nil
  | cons first cs ih =>
    rw [List.splitOn_cons_eq_if_modifyHead] at h
    obtain ⟨head, tail, hpieces⟩ := List.exists_cons_of_ne_nil (List.splitOn_ne_nil c cs)
    split at h
    · obtain rfl | hmem := List.mem_cons.mp h
      · exact List.not_mem_nil
      · exact ih hmem
    · rename_i hne
      rw [hpieces, List.modifyHead_cons] at h
      obtain rfl | hmem := List.mem_cons.mp h
      · refine List.not_mem_cons_of_ne_of_not_mem ?_ (ih (hpieces ▸ List.mem_cons_self))
        rintro rfl
        exact hne (beq_self_eq_true _)
      · exact ih (hpieces ▸ List.mem_cons_of_mem _ hmem)

theorem not_mem_of_mem_split {c : Char} {s piece : String} (h : piece ∈ split c s) :
    c ∉ piece.toList := by
  obtain ⟨cs, hcs, rfl⟩ := List.mem_map.mp h
  rw [String.toList_ofList]
  exact not_mem_of_mem_splitOn hcs

theorem split_join {c : Char} {xs : List String} (hne : xs ≠ []) (h : ∀ x ∈ xs, c ∉ x.toList) :
    split c ((String.ofList [c]).intercalate xs) = xs := by
  unfold split
  rw [String.toList_intercalate, String.toList_ofList,
    List.splitOn_intercalate c (List.forall_mem_map.mpr h) fun hnil => hne (List.map_eq_nil_iff.mp
      hnil), List.map_map]
  exact List.map_id'' (fun x => String.ofList_toList) xs

theorem mem_trim_iff {c : Char} (hc : isSpace c = false) (s : String) :
    c ∈ (trim s).toList ↔ c ∈ s.toList := by
  have hdrop : ∀ cs : List Char, c ∈ cs.dropWhile isSpace ↔ c ∈ cs := by
    intro cs
    refine ⟨fun h => (List.dropWhile_sublist _).subset h, fun h => ?_⟩
    rw [← List.takeWhile_append_dropWhile (p := isSpace) (l := cs)] at h
    obtain htaken | hdropped := List.mem_append.mp h
    · rw [List.mem_takeWhile_imp htaken] at hc
      cases hc
    · exact hdropped
  unfold trim
  rw [String.toList_ofList, List.rdropWhile, List.mem_reverse, hdrop, List.mem_reverse, hdrop]

end Text
