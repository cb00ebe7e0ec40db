import Mathlib.Data.List.Basic
import Mathlib.Logic.Function.Basic

/-! # Servers that tell their clients of events, and one another

Every client is connected to one server, and every server has a queue of events on the way to it.
What a client is owed is what it was told and what the queue of its server still has for it.
-/

namespace Broadcast

/-- Whom an event reaches, and what it tells them. -/
structure Scope (E S M : Type*) where
  reaches : E → S → Bool
  message : E → M

/-- As what a client is connected, the events on the way to a server, what a client was told. -/
structure Servers (I K S E M : Type*) where
  session : K → Option S
  queue : I → List E
  told : K → List M

namespace Servers

variable {I K S E M : Type*}

section Owed

variable (scope : Scope E S M) (home : K → I) (w : Servers I K S E M)

/-- What an event tells a client. -/
def notice (e : E) (k : K) : List M :=
  if (w.session k).any (scope.reaches e) then [scope.message e] else []

def notices (es : List E) (k : K) : List M := es.flatMap fun e => w.notice scope e k

def owed (k : K) : List M := w.told k ++ w.notices scope (w.queue (home k)) k

def post (chosen : I → Bool) (e : E) : Servers I K S E M :=
  { w with queue := fun i => if chosen i then w.queue i ++ [e] else w.queue i }

variable {scope home w}

theorem notice_congr {w' : Servers I K S E M} {k : K} (h : w'.session k = w.session k) (e : E) :
    w'.notice scope e k = w.notice scope e k := by
  unfold notice
  rw [h]

theorem notices_congr {w' : Servers I K S E M} {k : K} (h : w'.session k = w.session k)
    (es : List E) : w'.notices scope es k = w.notices scope es k := by
  unfold notices
  simp only [notice_congr h]

theorem notices_append (es es' : List E) (k : K) :
    w.notices scope (es ++ es') k = w.notices scope es k ++ w.notices scope es' k :=
  List.flatMap_append

theorem notices_singleton (e : E) (k : K) : w.notices scope [e] k = w.notice scope e k :=
  List.flatMap_singleton _ e

theorem notice_eq_nil {e : E} {k : K} (h : ∀ s, w.session k = some s → scope.reaches e s = false) :
    w.notice scope e k = [] := by
  refine if_neg fun hany => ?_
  obtain ⟨s, hs, hreaches⟩ := (Option.any_eq_true _ _).mp hany
  rw [h s hs] at hreaches
  cases hreaches

theorem owed_of_empty {k : K} (h : w.queue (home k) = []) : w.owed scope home k = w.told k := by
  unfold owed
  rw [h]
  exact List.append_nil _

theorem owed_post (chosen : I → Bool) (e : E) (k : K) :
    (w.post chosen e).owed scope home k =
      w.owed scope home k ++ if chosen (home k) then w.notice scope e k else [] := by
  have hsame : ∀ es, (w.post chosen e).notices scope es k = w.notices scope es k :=
    notices_congr rfl
  unfold owed
  rw [hsame]
  unfold post
  dsimp only
  split
  · rw [notices_append, notices_singleton, List.append_assoc]
  · rw [List.append_nil]

/-- An event on the way to all servers is owed to everyone it reaches, once. -/
theorem owed_publish (e : E) (k : K) :
    (w.post (fun _ => true) e).owed scope home k =
      w.owed scope home k ++ w.notice scope e k := by
  rw [owed_post, if_pos rfl]

/-- A client that comes, goes or changes while nothing that would reach it is on the way. -/
theorem owed_of_session {w' : Servers I K S E M} {k : K} (hqueue : w'.queue = w.queue)
    (htold : w'.told = w.told)
    (hbefore : ∀ e ∈ w.queue (home k), ∀ s, w.session k = some s → scope.reaches e s = false)
    (hafter : ∀ e ∈ w.queue (home k), ∀ s, w'.session k = some s → scope.reaches e s = false) :
    w'.owed scope home k = w.owed scope home k := by
  unfold owed notices
  rw [hqueue, htold]
  refine congrArg _ (List.flatMap_congr fun e he => ?_)
  rw [notice_eq_nil (hbefore e he), notice_eq_nil (hafter e he)]

end Owed

section Told

variable [DecidableEq I] (scope : Scope E S M) (home : K → I) (w : Servers I K S E M)

/-- A server tells its own clients. -/
def tell (i : I) (e : E) : Servers I K S E M :=
  { w with told := fun k => w.told k ++ if home k = i then w.notice scope e k else [] }

/-- A server takes the first event of its queue. -/
def deliver (i : I) (e : E) (es : List E) : Servers I K S E M :=
  { w with queue := Function.update w.queue i es }.tell scope home i e

theorem owed_tell (i : I) (e : E) (k : K) :
    List.Perm ((w.tell scope home i e).owed scope home k)
      (w.owed scope home k ++ if home k = i then w.notice scope e k else []) := by
  have hsame : ∀ es, (w.tell scope home i e).notices scope es k = w.notices scope es k :=
    notices_congr rfl
  unfold owed
  rw [hsame]
  unfold tell
  dsimp only
  rw [List.append_assoc, List.append_assoc]
  exact List.perm_append_comm.append_left _

/-- A server that tells its own clients and all other servers owes everyone the event once. -/
theorem owed_announce (i : I) (e : E) (k : K) :
    List.Perm (((w.tell scope home i e).post (fun j => j ≠ i) e).owed scope home k)
      (w.owed scope home k ++ w.notice scope e k) := by
  have htold := owed_tell scope home w i e k
  have hsame : (w.tell scope home i e).notice scope e k = w.notice scope e k := notice_congr rfl e
  rw [owed_post, hsame]
  by_cases hhome : home k = i
  · rw [if_pos hhome] at htold
    rw [if_neg (by simpa using hhome), List.append_nil]
    exact htold
  · rw [if_neg hhome, List.append_nil] at htold
    rw [if_pos (by simpa using hhome)]
    exact htold.append_right _

variable {scope home w}

/-- Telling its own clients is enough where the event reaches no others. -/
theorem owed_tell_of_local {i : I} {e : E}
    (h : ∀ k s, w.session k = some s → scope.reaches e s = true → home k = i) (k : K) :
    List.Perm ((w.tell scope home i e).owed scope home k)
      (w.owed scope home k ++ w.notice scope e k) := by
  refine (owed_tell scope home w i e k).trans ?_
  split
  · exact .rfl
  · rename_i hhome
    rw [notice_eq_nil fun s hs => Bool.eq_false_iff.mpr fun hreaches => hhome (h k s hs hreaches)]

/-- Nobody is told where the event reaches no client of the server. -/
theorem owed_tell_of_remote {i : I} {e : E}
    (h : ∀ k s, w.session k = some s → scope.reaches e s = true → home k ≠ i) (k : K) :
    List.Perm ((w.tell scope home i e).owed scope home k) (w.owed scope home k) := by
  refine (owed_tell scope home w i e k).trans ?_
  split
  · rename_i hhome
    rw [notice_eq_nil fun s hs => Bool.eq_false_iff.mpr fun hreaches => h k s hs hreaches hhome,
      List.append_nil]
  · rw [List.append_nil]

/-- An event that arrives is no longer owed, but told. -/
theorem owed_deliver {i : I} {e : E} {es : List E} (h : w.queue i = e :: es) (k : K) :
    (w.deliver scope home i e es).owed scope home k = w.owed scope home k := by
  have hsame : ∀ es', (w.deliver scope home i e es).notices scope es' k = w.notices scope es' k :=
    notices_congr rfl
  unfold owed
  rw [hsame]
  unfold deliver tell
  dsimp only
  by_cases hhome : home k = i
  · rw [if_pos hhome, hhome, Function.update_self, h, List.append_assoc]
    rfl
  · rw [if_neg hhome, List.append_nil, Function.update_of_ne hhome]

end Told

end Servers

end Broadcast
