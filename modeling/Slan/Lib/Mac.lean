import Slan.Lib.Base64

/-! # Message authentication codes

A code is any function `mac secret payload`. What is assumed of one is said where it is used.
-/

/-- The tag of a payload under a secret. -/
abbrev Mac := String → String → List UInt8

namespace Mac

/-- The tag as text, in unpadded URL-safe base64. -/
def sign (mac : Mac) (secret payload : String) : String :=
  String.ofList (Base64.encode Base64.urlSafeNoPad (mac secret payload))

theorem sign_injective {mac : Mac} {secret : String} (h : Function.Injective (mac secret)) :
    Function.Injective (mac.sign secret) := by
  intro p q hpq
  exact h (Base64.encode_injective _ (String.ofList_injective hpq))

/-- A code with a given tag on one payload, and on the others a longer one that spells the
payload. -/
def withTag (payload : String) (tag : List UInt8) : Mac := fun _ p =>
  if p = payload then tag else List.replicate (tag.length + 1) 0 ++ p.toByteArray.data.toList

theorem withTag_injective (payload : String) (tag : List UInt8) (secret : String) :
    Function.Injective (withTag payload tag secret) := by
  intro p q h
  unfold withTag at h
  by_cases hp : p = payload <;> by_cases hq : q = payload
  · rw [hp, hq]
  · rw [if_pos hp, if_neg hq] at h
    have := congrArg List.length h
    simp only [List.length_append, List.length_replicate] at this
    omega
  · rw [if_neg hp, if_pos hq] at h
    have := congrArg List.length h
    simp only [List.length_append, List.length_replicate] at this
    omega
  · rw [if_neg hp, if_neg hq] at h
    have hdata := Array.toList_inj.mp (List.append_cancel_left h)
    exact String.toByteArray_inj.mp (ByteArray.ext hdata)

end Mac
