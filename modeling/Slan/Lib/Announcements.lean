import Mathlib.Data.List.MinMax
import Mathlib.Data.Multiset.AddSub
import Mathlib.Logic.Function.Basic
import Mathlib.Tactic.Common

/-! # Numbered announcements of changing values

Under each key there is a value or none. An announcer of a key reads its value, has a number drawn
and says with that number what it read; between the two the value may change. Who hears all that
was said, in whatever order, keeps of a key what has the highest number.
-/

namespace Announcements

variable {κ γ μ : Type*}

/-- An announcer has yet to read, or holds what it will say. -/
inductive Announcer (κ μ : Type*) where
  | reading (k : κ)
  | holding (k : κ) (m : μ)

def Announcer.key : Announcer κ μ → κ
  | reading k => k
  | holding k _ => k

/-- What was said of a key; a number can also be drawn for something else. -/
structure Announcement (κ μ : Type*) where
  number : Nat
  about : Option (κ × μ)

structure Board (κ γ μ : Type*) where
  value : κ → Option γ
  announcers : Multiset (Announcer κ μ)
  drawn : Nat
  /-- The last one first. -/
  said : List (Announcement κ μ)

/-! ## What is known of a key -/

section Hearing

variable [DecidableEq κ]

/-- What an announcement says of the key. -/
def Announcement.ofKey (k : κ) (a : Announcement κ μ) : Option (Nat × μ) :=
  match a.about with
  | none => none
  | some (k', m) => if k' = k then some (a.number, m) else none

/-- What has the highest number of all that was said of the key. -/
def follow (k : κ) (heard : List (Announcement κ μ)) : Option μ :=
  ((heard.filterMap (Announcement.ofKey k)).argmax Prod.fst).map Prod.snd

/-- What was said last of the key. -/
def latest (k : κ) (said : List (Announcement κ μ)) : Option μ :=
  (said.filterMap (Announcement.ofKey k)).head?.map Prod.snd

theorem number_of_ofKey {k : κ} {a : Announcement κ μ} {n : Nat} {m : μ}
    (h : a.ofKey k = some (n, m)) : n = a.number := by
  unfold Announcement.ofKey at h
  split at h
  · cases h
  · split at h
    · cases h
      rfl
    · cases h

/-- Of numbers that fall, the first is the highest, in whatever order they are heard. -/
theorem argmax_eq_head? {said heard : List (Nat × μ)} (hperm : heard.Perm said)
    (hsaid : said.Pairwise fun later earlier => earlier.1 < later.1) :
    heard.argmax Prod.fst = said.head? := by
  cases said with
  | nil =>
    rw [hperm.eq_nil]
    rfl
  | cons last rest =>
    have hlast : last ∈ heard := hperm.mem_iff.mpr List.mem_cons_self
    cases hmax : heard.argmax Prod.fst with
    | none =>
      rw [List.argmax_eq_none.mp hmax] at hlast
      cases hlast
    | some top =>
      have hle : last.1 ≤ top.1 := List.le_of_mem_argmax hlast hmax
      have htop : top ∈ last :: rest := hperm.mem_iff.mp (List.argmax_mem hmax)
      rcases List.mem_cons.mp htop with rfl | hrest
      · rfl
      · have hlt : top.1 < last.1 := (List.pairwise_cons.mp hsaid).1 top hrest
        omega

theorem follow_eq_latest {k : κ} {said heard : List (Announcement κ μ)} (hperm : heard.Perm said)
    (hsaid : said.Pairwise fun later earlier => earlier.number < later.number) :
    follow k heard = latest k said := by
  unfold follow latest
  rw [argmax_eq_head? (hperm.filterMap _)]
  apply List.Pairwise.filterMap _ _ hsaid
  intro later earlier hlt x hx y hy
  rw [number_of_ofKey hx, number_of_ofKey hy]
  exact hlt

theorem latest_cons_self (k : κ) (n : Nat) (m : μ) (said : List (Announcement κ μ)) :
    latest k (⟨n, some (k, m)⟩ :: said) = some m := by
  unfold latest Announcement.ofKey
  rw [List.filterMap_cons]
  simp

theorem latest_cons_of_ne {k k' : κ} (h : k' ≠ k) (n : Nat) (m : μ)
    (said : List (Announcement κ μ)) : latest k (⟨n, some (k', m)⟩ :: said) = latest k said := by
  unfold latest Announcement.ofKey
  rw [List.filterMap_cons]
  simp [h]

end Hearing

/-! ## Announcers that leave a true word -/

variable (tells : μ → Option γ → Prop)

/-- Of what nothing was said there is no value. -/
def Told : Option μ → Option γ → Prop
  | none, v => v = none
  | some m, v => tells m v

/-- The announcer will tell the key's value if this stays as it is. -/
def Announcer.WillTell (value : κ → Option γ) (k : κ) : Announcer κ μ → Prop
  | reading k' => k' = k ∧ (value k).isSome = true
  | holding k' m => k' = k ∧ tells m (value k)

/-- What can happen on the board. What an announcer says is true by then, or another announcer of
the key is still to tell the truth. -/
inductive Step [DecidableEq κ] (b : Board κ γ μ) : Board κ γ μ → Prop
  | stay : Step b b
  | announce (k : κ) (v : Option γ) (hgone : v = none → b.value k = none) :
    Step b { b with
      value := Function.update b.value k v
      announcers := .reading k ::ₘ b.announcers }
  | withdraw (k : κ) (m : μ) (htells : tells m none) :
    Step b { b with
      value := Function.update b.value k none
      announcers := .holding k m ::ₘ b.announcers }
  | read (k : κ) (m : μ) (v : Option γ) (rest : Multiset (Announcer κ μ))
    (hreader : b.announcers = .reading k ::ₘ rest) (htells : tells m v) :
    Step b { b with
      value := Function.update b.value k v
      announcers := .holding k m ::ₘ rest }
  | vanish (k : κ) (rest : Multiset (Announcer κ μ))
    (hreader : b.announcers = .reading k ::ₘ rest) (hgone : b.value k = none) :
    Step b { b with announcers := rest }
  | say (k : κ) (m : μ) (rest : Multiset (Announcer κ μ))
    (hspeaker : b.announcers = .holding k m ::ₘ rest)
    (htrue : tells m (b.value k) ∨ ∃ a ∈ rest, a.WillTell tells b.value k) :
    Step b { b with
      announcers := rest
      drawn := b.drawn + 1
      said := ⟨b.drawn + 1, some (k, m)⟩ :: b.said }
  | pass : Step b { b with
      drawn := b.drawn + 1
      said := ⟨b.drawn + 1, none⟩ :: b.said }

/-- The numbers rise, and of every key the truth is known or is still to be told. -/
structure Board.Sound [DecidableEq κ] (b : Board κ γ μ) : Prop where
  rising : b.said.Pairwise fun later earlier => earlier.number < later.number
  bounded : ∀ a ∈ b.said, a.number ≤ b.drawn
  current : ∀ k, (∃ a ∈ b.announcers, a.WillTell tells b.value k) ∨
    Told tells (latest k b.said) (b.value k)

section Steps

variable {tells} {b t : Board κ γ μ}

theorem Announcer.willTell_congr {value value' : κ → Option γ} {k : κ} (h : value' k = value k)
    (a : Announcer κ μ) : a.WillTell tells value' k ↔ a.WillTell tells value k := by
  cases a <;> simp only [WillTell, h]

theorem Announcer.key_of_willTell {value : κ → Option γ} {k : κ} {a : Announcer κ μ}
    (h : a.WillTell tells value k) : a.key = k := by
  cases a with
  | reading k' => exact h.1
  | holding k' m => exact h.1

variable [DecidableEq κ]

theorem Announcer.willTell_reading (value : κ → Option γ) (k : κ) (v : γ) :
    Announcer.WillTell tells (Function.update value k (some v)) k (.reading k) := by
  refine ⟨rfl, ?_⟩
  rw [Function.update_self]
  rfl

theorem Announcer.willTell_holding (value : κ → Option γ) (k : κ) {m : μ} {v : Option γ}
    (h : tells m v) : Announcer.WillTell tells (Function.update value k v) k (.holding k m) := by
  refine ⟨rfl, ?_⟩
  rw [Function.update_self]
  exact h

/-- Where the announcers of a key, its value and the last word of it stay, so does what is known. -/
theorem Board.Sound.current_of_same (h : b.Sound tells) {k : κ} (hvalue : t.value k = b.value k)
    (hsaid : latest k t.said = latest k b.said)
    (hannouncers : ∀ a ∈ b.announcers, a.key = k → a ∈ t.announcers) :
    (∃ a ∈ t.announcers, a.WillTell tells t.value k) ∨
      Told tells (latest k t.said) (t.value k) := by
  rcases h.current k with ⟨a, ha, htell⟩ | htold
  · apply Or.inl
    refine ⟨a, hannouncers a ha ?_, (Announcer.willTell_congr hvalue a).mpr htell⟩
    exact Announcer.key_of_willTell htell
  · apply Or.inr
    rw [hvalue, hsaid]
    exact htold

theorem Board.Sound.draw (h : b.Sound tells) (about : Option (κ × μ)) :
    let said : List (Announcement κ μ) := ⟨b.drawn + 1, about⟩ :: b.said
    said.Pairwise (fun later earlier => earlier.number < later.number) ∧
      ∀ a ∈ said, a.number ≤ b.drawn + 1 := by
  constructor
  · apply List.pairwise_cons.mpr
    refine ⟨fun a ha => ?_, h.rising⟩
    have hle := h.bounded a ha
    show a.number < b.drawn + 1
    omega
  · intro a ha
    rcases List.mem_cons.mp ha with rfl | ha
    · exact Nat.le_refl _
    · have hle := h.bounded a ha
      omega

theorem Board.Sound.step (h : b.Sound tells) (hstep : Step tells b t) : t.Sound tells := by
  cases hstep with
  | stay => exact h
  | announce k v hgone =>
    refine ⟨h.rising, h.bounded, fun k' => ?_⟩
    by_cases hk : k' = k
    · subst hk
      cases v with
      | none =>
        -- there was no value before either
        have hsame : Function.update b.value k' none = b.value := by
          rw [← hgone rfl]
          exact Function.update_eq_self k' b.value
        rw [hsame]
        exact h.current_of_same rfl rfl fun a ha _ => Multiset.mem_cons_of_mem ha
      | some v =>
        exact .inl ⟨_, Multiset.mem_cons_self _ _, Announcer.willTell_reading b.value k' v⟩
    · exact h.current_of_same (Function.update_of_ne hk _ _) rfl
        fun a ha _ => Multiset.mem_cons_of_mem ha
  | withdraw k m htells =>
    refine ⟨h.rising, h.bounded, fun k' => ?_⟩
    by_cases hk : k' = k
    · subst hk
      exact .inl ⟨_, Multiset.mem_cons_self _ _, Announcer.willTell_holding b.value k' htells⟩
    · exact h.current_of_same (Function.update_of_ne hk _ _) rfl
        fun a ha _ => Multiset.mem_cons_of_mem ha
  | read k m v rest hreader htells =>
    refine ⟨h.rising, h.bounded, fun k' => ?_⟩
    by_cases hk : k' = k
    · subst hk
      exact .inl ⟨_, Multiset.mem_cons_self _ _, Announcer.willTell_holding b.value k' htells⟩
    · refine h.current_of_same (Function.update_of_ne hk _ _) rfl fun a ha hkey => ?_
      rw [hreader] at ha
      rcases Multiset.mem_cons.mp ha with rfl | ha
      · exact absurd hkey.symm hk
      · exact Multiset.mem_cons_of_mem ha
  | vanish k rest hreader hgone =>
    refine ⟨h.rising, h.bounded, fun k' => ?_⟩
    rcases h.current k' with ⟨a, ha, htell⟩ | htold
    · rw [hreader] at ha
      rcases Multiset.mem_cons.mp ha with rfl | ha
      · -- the one that vanishes had nothing to tell
        obtain ⟨rfl, hsome⟩ := htell
        rw [hgone] at hsome
        cases hsome
      · exact .inl ⟨a, ha, htell⟩
    · exact .inr htold
  | say k m rest hspeaker htrue =>
    obtain ⟨hrising, hbounded⟩ := h.draw (some (k, m))
    refine ⟨hrising, hbounded, fun k' => ?_⟩
    by_cases hk : k' = k
    · subst hk
      rcases htrue with htrue | hother
      · apply Or.inr
        rw [latest_cons_self]
        exact htrue
      · exact .inl hother
    · refine h.current_of_same rfl (latest_cons_of_ne (Ne.symm hk) _ _ _) fun a ha hkey => ?_
      rw [hspeaker] at ha
      rcases Multiset.mem_cons.mp ha with rfl | ha
      · exact absurd hkey.symm hk
      · exact ha
  | pass =>
    obtain ⟨hrising, hbounded⟩ := h.draw none
    exact ⟨hrising, hbounded, h.current⟩

/-- When nobody announces a key any more, who heard everything knows its value. -/
theorem Board.Sound.follow (h : b.Sound tells) {k : κ} (hrest : ∀ a ∈ b.announcers, a.key ≠ k)
    {heard : List (Announcement κ μ)} (hperm : heard.Perm b.said) :
    Told tells (follow k heard) (b.value k) := by
  rw [follow_eq_latest hperm h.rising]
  apply (h.current k).resolve_left
  rintro ⟨a, ha, htell⟩
  exact hrest a ha (Announcer.key_of_willTell htell)

end Steps

end Announcements
