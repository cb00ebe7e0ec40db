import Slan.Lib.Table

/-! # Keys with a time to live

A key that was given `ttl` at some time is there until `ttl` has passed. Values are numbers.
-/

structure RedisEntry where
  value : Int
  expiresAt : Option Nat
  deriving DecidableEq, Repr

abbrev Redis := Table RedisEntry

namespace Redis

variable (redis : Redis) (now : Nat) (key : String)

/-- The entry, unless it has expired. -/
def live : Option RedisEntry :=
  (redis.get? key).filter fun entry => entry.expiresAt.all (now < ·)

/-- `INCR` -/
def incr : Int × Redis :=
  match redis.live now key with
  | some entry => (entry.value + 1, redis.put key { entry with value := entry.value + 1 })
  | none => (1, redis.put key ⟨1, none⟩)

/-- `EXPIRE` -/
def expire (ttl : Nat) : Redis :=
  match redis.live now key with
  | some entry => redis.put key { entry with expiresAt := some (now + ttl) }
  | none => redis

/-- `SET` with `NX` and a time to live. -/
def setNX (value : Int) (ttl : Nat) : Bool × Redis :=
  match redis.live now key with
  | some _ => (false, redis)
  | none => (true, redis.put key ⟨value, some (now + ttl)⟩)

/-- `DEL` -/
def del : Redis := redis.remove key

variable {redis now key} {key' : String}

theorem live_congr {redis' : Redis} (h : redis.get? key = redis'.get? key) :
    redis.live now key = redis'.live now key := by
  rw [live, live, h]

theorem get?_incr_ne (h : key' ≠ key) : (redis.incr now key).2.get? key' = redis.get? key' := by
  unfold incr
  split <;> exact (Table.get?_put _ _ _ _).trans (if_neg h)

theorem get?_expire_ne {ttl : Nat} (h : key' ≠ key) :
    (redis.expire now key ttl).get? key' = redis.get? key' := by
  unfold expire
  split
  · exact (Table.get?_put _ _ _ _).trans (if_neg h)
  · rfl

theorem live_eq_some {entry : RedisEntry} (h : redis.get? key = some entry)
    (hexpires : entry.expiresAt.all (now < ·) = true) : redis.live now key = some entry := by
  rw [live, h, Option.filter_some, if_pos hexpires]

theorem live_eq_none (h : redis.get? key = none) : redis.live now key = none := by
  rw [live, h, Option.filter_none]

theorem setNX_iff {value : Int} {ttl : Nat} :
    (redis.setNX now key value ttl).1 = true ↔ redis.live now key = none := by
  unfold setNX
  cases redis.live now key with
  | none => exact iff_of_true rfl rfl
  | some entry => exact iff_of_false Bool.false_ne_true (Option.some_ne_none _)

theorem get?_setNX {value : Int} {ttl : Nat} :
    (redis.setNX now key value ttl).2.get? key' =
      if (redis.setNX now key value ttl).1 = true ∧ key' = key then some ⟨value, some (now + ttl)⟩
      else redis.get? key' := by
  unfold setNX
  cases redis.live now key with
  | none =>
    refine (Table.get?_put _ _ _ _).trans ?_
    simp only [true_and]
  | some entry => rw [if_neg fun h => Bool.false_ne_true h.1]

end Redis
