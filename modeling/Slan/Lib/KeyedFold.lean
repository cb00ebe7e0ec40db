import Mathlib.Tactic.Common

/-! # Folding events that each change one entry

A state is seen through `view`, one entry for each key. An event acts on the entry of its own key
and leaves the others as they are.
-/

namespace KeyedFold

variable {σ ε κ β : Type*} [DecidableEq κ]

/-- Only the events of a key matter for its entry. -/
theorem view_foldl {step : σ → ε → σ} {key : ε → κ} (view : σ → κ → β) (act : ε → β → β)
    (hstep : ∀ s e k, view (step s e) k = if key e = k then act e (view s k) else view s k)
    (es : List ε) (s : σ) (k : κ) :
    view (es.foldl step s) k =
      (es.filter fun e => key e = k).foldl (fun b e => act e b) (view s k) := by
  induction es generalizing s with
  | nil => rfl
  | cons e es ih =>
    rw [List.foldl_cons, ih, hstep]
    by_cases h : key e = k
    · rw [List.filter_cons_of_pos (by simpa using h), List.foldl_cons, if_pos h]
    · rw [List.filter_cons_of_neg (by simpa using h), if_neg h]

/-- Events that all act as one idempotent `f` act as `f` once. -/
theorem foldl_of_agree {act : ε → β → β} {f : β → β} (hidem : ∀ b, f (f b) = f b)
    {es : List ε} (hes : ∀ e ∈ es, act e = f) (hne : es ≠ []) (b : β) :
    es.foldl (fun b e => act e b) b = f b := by
  induction es generalizing b with
  | nil => exact absurd rfl hne
  | cons e es ih =>
    have he : act e = f := hes e List.mem_cons_self
    rw [List.foldl_cons, he]
    by_cases hnil : es = []
    · rw [hnil, List.foldl_nil]
    · rw [ih (fun e' he' => hes e' (List.mem_cons_of_mem e he')) hnil, hidem]

/-- The entry of the last event's key. -/
theorem view_foldl_concat {step : σ → ε → σ} {key : ε → κ} (view : σ → κ → β) (act : ε → β → β)
    (hstep : ∀ s e k, view (step s e) k = if key e = k then act e (view s k) else view s k)
    (es : List ε) (e : ε) (s : σ) :
    view ((es ++ [e]).foldl step s) (key e) = act e (view (es.foldl step s) (key e)) := by
  rw [List.foldl_append, List.foldl_cons, List.foldl_nil, hstep, if_pos rfl]

end KeyedFold
