/-
This file is a library for maps whose entries expire. An entry is a value with the
time from which on it is no longer found; an entry stored without a positive time
to live has none, and stays.
-/

import SharedGo.MapRange

namespace SharedGo

/-- A map from keys to values with their deadlines. -/
abbrev ExpiringMap (Key Value : Type) := GoMap Key (Value × Option Int)

namespace ExpiringMap

variable {Key Value : Type} [DecidableEq Key]

/-- The value under a key, unless it has expired. -/
def find (map : ExpiringMap Key Value) (now : Int) (key : Key) : Option Value :=
  match map.lookup key with
  | some (value, none) => some value
  | some (value, some deadline) => if now < deadline then some value else none
  | none => none

/-- Stores a value for a time to live. -/
def put (map : ExpiringMap Key Value) (now : Int) (key : Key) (value : Value) (ttl : Int) :
    ExpiringMap Key Value :=
  map.insert key (value, if 0 < ttl then some (now + ttl) else none)

/-- What the map has under the key is not found from the time on. -/
def ExpiresBy (map : ExpiringMap Key Value) (key : Key) (time : Int) : Prop :=
  ∀ value deadline, map.lookup key = some (value, deadline) →
    ∃ last, deadline = some last ∧ last ≤ time

theorem find_of_expiresBy (map : ExpiringMap Key Value) (key : Key) (time now : Int)
    (expires : ExpiresBy map key time) (late : time ≤ now) : map.find now key = none := by
  unfold find
  split
  · rename_i value found
    obtain ⟨last, impossible, _⟩ := expires value none found
    cases impossible
  · rename_i value deadline found
    obtain ⟨last, same, bound⟩ := expires value (some deadline) found
    obtain rfl := Option.some_inj.mp same
    exact if_neg (by omega)
  · rfl

/-- What is found has not expired. -/
theorem lt_of_find (map : ExpiringMap Key Value) (key : Key) (time now : Int) (value : Value)
    (expires : ExpiresBy map key time) (found : map.find now key = some value) : now < time := by
  by_contra late
  rw [find_of_expiresBy map key time now expires (by omega)] at found
  cases found

theorem expiresBy_put (map : ExpiringMap Key Value) (now : Int) (key : Key) (value : Value)
    (ttl time : Int) (positive : 0 < ttl) (bound : now + ttl ≤ time) :
    ExpiresBy (map.put now key value ttl) key time := by
  intro found deadline lookup
  rw [put, AList.lookup_insert, Option.some_inj, if_pos positive] at lookup
  obtain ⟨_, rfl⟩ := Prod.mk.inj lookup
  exact ⟨now + ttl, rfl, bound⟩

theorem expiresBy_put_of_ne (map : ExpiringMap Key Value) (now : Int) (key other : Key)
    (value : Value) (ttl time : Int) (different : key ≠ other)
    (expires : ExpiresBy map key time) : ExpiresBy (map.put now other value ttl) key time := by
  intro found deadline lookup
  rw [put, AList.lookup_insert_ne different] at lookup
  exact expires found deadline lookup

theorem expiresBy_erase (map : ExpiringMap Key Value) (key other : Key) (time : Int)
    (expires : ExpiresBy map key time) : ExpiresBy (map.erase other) key time := by
  intro found deadline lookup
  exact expires found deadline (GoMap.lookup_erase_some map other key _ lookup).2

/-! ### What an operation leaves to be found -/

theorem find_put (map : ExpiringMap Key Value) (now later : Int) (key other : Key) (value : Value)
    (ttl : Int) :
    (map.put now key value ttl).find later other =
      if other = key then if ttl ≤ 0 ∨ later < now + ttl then some value else none
      else map.find later other := by
  unfold find put
  by_cases same : other = key
  · subst same
    by_cases positive : 0 < ttl
    · simp [positive, Int.not_le.mpr positive]
    · simp [positive, Int.not_lt.mp positive]
  · rw [AList.lookup_insert_ne same, if_neg same]

theorem find_erase (map : ExpiringMap Key Value) (now : Int) (key other : Key) :
    find (map.erase key) now other = if other = key then none else map.find now other := by
  unfold find
  by_cases same : other = key
  · subst same
    rw [AList.lookup_erase, if_pos rfl]
  · rw [AList.lookup_erase_ne same, if_neg same]

/-- The keys whose entries have expired. -/
def expired (map : ExpiringMap Key Value) (now : Int) : List Key :=
  map.keys.filter fun key => (map.find now key).isNone

/-- Removes the entries that have expired. -/
def sweep (map : ExpiringMap Key Value) (now : Int) : ExpiringMap Key Value :=
  (map.expired now).foldl (fun left key => left.erase key) map

theorem find_foldl_erase (keys : List Key) (map : ExpiringMap Key Value) (now : Int) (key : Key) :
    find (keys.foldl (fun left key => left.erase key) map) now key =
      if key ∈ keys then none else map.find now key := by
  induction keys generalizing map with
  | nil => simp
  | cons first keys inductionHypothesis =>
    rw [List.foldl_cons, inductionHypothesis, find_erase]
    by_cases isFirst : key = first
    · simp [isFirst]
    · simp [isFirst]

/-- What has expired stays so. -/
theorem find_none_of_le (map : ExpiringMap Key Value) (now later : Int) (order : now ≤ later)
    (key : Key) (gone : map.find now key = none) : map.find later key = none := by
  unfold find at gone ⊢
  split at gone
  · cases gone
  · rename_i value deadline found
    split_ifs at gone with early
    exact if_neg (by omega)
  · rfl

/-- A sweep removes nothing that could still be found. -/
theorem find_sweep (map : ExpiringMap Key Value) (now later : Int) (order : now ≤ later)
    (key : Key) : (map.sweep now).find later key = map.find later key := by
  rw [sweep, find_foldl_erase]
  split_ifs with swept
  · rw [expired, List.mem_filter, Option.isNone_iff_eq_none] at swept
    exact (find_none_of_le map now later order key swept.2).symm
  · rfl

end ExpiringMap

end SharedGo
