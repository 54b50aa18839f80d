/-
This file proves how long the tiered cache returns a value. Both tiers honour the
times to live they are given, and the first may also drop an entry early. A write
gives its entry in the first tier no more time than in the second; a read that
fills the first tier from the second gives it the first tier's full time, whatever
time it has left in the second.

So a value is returned until that fill expires, which may be after its own time to
live has passed. When no read fills the first tier with an entry that has less
time left, no read returns the value once its time is over.
-/

import SharedGo.CacheProvider
import SharedGo.ExpiringMap
import SharedGo.Runs

namespace SharedGo.Authz

open SharedGo

/-! ### Two tiers and a clock -/

/-- The time, and what the tiers store. -/
structure TimedTiers where
  now : Int
  l1 : ExpiringMap String String
  l2 : ExpiringMap String String

/-- A cache over one of the tiers that honours the times to live exactly. -/
def expiringCache (tier : TimedTiers → ExpiringMap String String)
    (update : TimedTiers → ExpiringMap String String → TimedTiers) : CacheProvider TimedTiers where
  get key tiers :=
    match (tier tiers).find tiers.now key with
    | some value => (.ok value, tiers)
    | none => (.error .cacheMiss, tiers)
  set key value ttl tiers := (none, update tiers ((tier tiers).put tiers.now key value ttl))
  delete key tiers := (none, update tiers ((tier tiers).erase key))

/-- A tiered cache over the two tiers. -/
def timedProvider (l1TTL : Duration) (l1TTL_pos : 0 < l1TTL) (keyFormatter : String → String) :
    TieredCacheProvider TimedTiers where
  l1 := expiringCache TimedTiers.l1 fun tiers l1 => { tiers with l1 }
  l2 := expiringCache TimedTiers.l2 fun tiers l2 => { tiers with l2 }
  bus := none
  l1TTL := l1TTL
  keyFormatter := keyFormatter
  l1TTL_pos := l1TTL_pos

/-- The operations, each at the time the clock shows, the clock, and the drops of the first
tier. -/
inductive TimedEvent where
  | tick (time : Int)
  | get (key : String)
  | set (key value : String) (ttl : Duration)
  | delete (key : String)
  | dropL1 (key : String)
  deriving DecidableEq, Repr

section Runs

variable (l1TTL : Duration) (l1TTL_pos : 0 < l1TTL) (keyFormatter : String → String)

/-- The clock does not go back. -/
def TimedTiers.step (tiers : TimedTiers) : TimedEvent → Option TimedTiers
  | .tick time => if tiers.now ≤ time then some { tiers with now := time } else none
  | .get key => some ((timedProvider l1TTL l1TTL_pos keyFormatter).get key tiers).2
  | .set key value ttl =>
    some ((timedProvider l1TTL l1TTL_pos keyFormatter).set key value ttl tiers).2
  | .delete key => some ((timedProvider l1TTL l1TTL_pos keyFormatter).delete key tiers).2
  | .dropL1 key => some { tiers with l1 := tiers.l1.erase key }

/-! ### What the operations do -/

/-- A read that misses the first tier and finds a value in the second. -/
def Fills (key : String) (tiers : TimedTiers) (value : String) : Prop :=
  tiers.l1.find tiers.now key = none ∧ tiers.l2.find tiers.now key = some value

/-- What a read returns and leaves: it returns what a tier has, and a fill changes the first. -/
theorem get_cases (key : String) (tiers : TimedTiers) :
    (∃ value, tiers.l1.find tiers.now key = some value ∧
      (timedProvider l1TTL l1TTL_pos keyFormatter).get key tiers = (.ok value, tiers)) ∨
    (∃ value, Fills key tiers value ∧
      (timedProvider l1TTL l1TTL_pos keyFormatter).get key tiers =
        (.ok value, { tiers with l1 := tiers.l1.put tiers.now key value l1TTL })) ∨
    (tiers.l1.find tiers.now key = none ∧ tiers.l2.find tiers.now key = none ∧
      (timedProvider l1TTL l1TTL_pos keyFormatter).get key tiers = (.error .cacheMiss, tiers)) := by
  cases inL1 : tiers.l1.find tiers.now key with
  | some value =>
    refine Or.inl ⟨value, rfl, ?_⟩
    simp only [TieredCacheProvider.get, timedProvider, expiringCache, inL1]
  | none =>
    cases inL2 : tiers.l2.find tiers.now key with
    | some value =>
      refine Or.inr (Or.inl ⟨value, ⟨inL1, inL2⟩, ?_⟩)
      simp only [TieredCacheProvider.get, timedProvider, expiringCache, inL1, inL2]
    | none =>
      refine Or.inr (Or.inr ⟨rfl, rfl, ?_⟩)
      simp only [TieredCacheProvider.get, timedProvider, expiringCache, inL1, inL2]

/-- What the tiers have under the key expires, in each by its own bound. -/
structure Expiring (key : String) (l1Bound l2Bound : Int) (tiers : TimedTiers) : Prop where
  l1 : tiers.l1.ExpiresBy key l1Bound
  l2 : tiers.l2.ExpiresBy key l2Bound

/-- Once both bounds have passed, a read finds nothing. -/
theorem get_of_expiring (key : String) (l1Bound l2Bound : Int) (tiers : TimedTiers)
    (expiring : Expiring key l1Bound l2Bound tiers) (lateL1 : l1Bound ≤ tiers.now)
    (lateL2 : l2Bound ≤ tiers.now) :
    ((timedProvider l1TTL l1TTL_pos keyFormatter).get key tiers).1 = .error .cacheMiss := by
  have inL1 := ExpiringMap.find_of_expiresBy tiers.l1 key l1Bound tiers.now expiring.l1 lateL1
  have inL2 := ExpiringMap.find_of_expiresBy tiers.l2 key l2Bound tiers.now expiring.l2 lateL2
  rcases get_cases l1TTL l1TTL_pos keyFormatter key tiers with
    ⟨value, found, _⟩ | ⟨value, ⟨_, found⟩, _⟩ | ⟨_, _, missed⟩
  · rw [inL1] at found
    cases found
  · rw [inL2] at found
    cases found
  · rw [missed]

/-- A write bounds the time of its entries: the one in the first tier has no more than the one in
the second. -/
theorem expiring_set (key value : String) (ttl : Duration) (positive : 0 < ttl)
    (tiers : TimedTiers) (l1Bound : Int) (bound : tiers.now + ttl ≤ l1Bound) :
    Expiring key l1Bound (tiers.now + ttl)
      ((timedProvider l1TTL l1TTL_pos keyFormatter).set key value ttl tiers).2 where
  l1 := by
    refine ExpiringMap.expiresBy_put tiers.l1 tiers.now key value _ _ ?_ ?_
    · split
      · exact positive
      · exact l1TTL_pos
    · split
      · exact bound
      · rename_i capped
        have shorter : l1TTL ≤ ttl := Int.not_lt.mp fun longer => capped ⟨positive, longer⟩
        exact (Int.add_le_add_left shorter tiers.now).trans bound
  l2 := ExpiringMap.expiresBy_put tiers.l2 tiers.now key value ttl _ positive le_rfl

/-- A step that does not write the key keeps the bounds, if what it fills the first tier with stays
within them. -/
theorem step_expiring (key : String) (l1Bound l2Bound : Int) (tiers : TimedTiers)
    (event : TimedEvent) (next : TimedTiers) (unset : ∀ value ttl, event ≠ .set key value ttl)
    (fits : event = .get key → ∀ value, Fills key tiers value → tiers.now + l1TTL ≤ l1Bound)
    (step : tiers.step l1TTL l1TTL_pos keyFormatter event = some next)
    (expiring : Expiring key l1Bound l2Bound tiers) : Expiring key l1Bound l2Bound next := by
  obtain ⟨l1, l2⟩ := expiring
  cases event with
  | tick time =>
    simp only [TimedTiers.step] at step
    split at step
    · exact Option.some_inj.mp step ▸ ⟨l1, l2⟩
    · cases step
  | get other =>
    obtain rfl := Option.some_inj.mp step
    rcases get_cases l1TTL l1TTL_pos keyFormatter other tiers with
      ⟨value, _, read⟩ | ⟨value, fills, read⟩ | ⟨_, _, read⟩
    · rw [read]
      exact ⟨l1, l2⟩
    · rw [read]
      refine ⟨?_, l2⟩
      by_cases same : key = other
      · subst same
        exact ExpiringMap.expiresBy_put _ _ _ _ _ _ l1TTL_pos (fits rfl value fills)
      · exact ExpiringMap.expiresBy_put_of_ne _ _ _ _ _ _ _ same l1
    · rw [read]
      exact ⟨l1, l2⟩
  | set other value ttl =>
    obtain rfl := Option.some_inj.mp step
    have different : key ≠ other := by
      rintro rfl
      exact unset value ttl rfl
    exact ⟨ExpiringMap.expiresBy_put_of_ne _ _ _ _ _ _ _ different l1,
      ExpiringMap.expiresBy_put_of_ne _ _ _ _ _ _ _ different l2⟩
  | delete other =>
    obtain rfl := Option.some_inj.mp step
    exact ⟨ExpiringMap.expiresBy_erase _ _ _ _ l1, ExpiringMap.expiresBy_erase _ _ _ _ l2⟩
  | dropL1 other =>
    obtain rfl := Option.some_inj.mp step
    exact ⟨ExpiringMap.expiresBy_erase _ _ _ _ l1, l2⟩

/-! ### Whole runs -/

/-- The event is no read of the key that fills the first tier with an entry that has less time left
than the first tier gives it. -/
def TimelyFill (key : String) (tiers : TimedTiers) (event : TimedEvent) : Prop :=
  event = .get key → tiers.l1.find tiers.now key = none →
    ∀ value deadline, tiers.l2.lookup key = some (value, some deadline) → tiers.now < deadline →
      tiers.now + l1TTL ≤ deadline

/-- A timely fill stays within the bound of the second tier. -/
theorem fill_of_timely (key : String) (bound : Int) (tiers : TimedTiers) (event : TimedEvent)
    (timely : TimelyFill l1TTL key tiers event) (l2 : tiers.l2.ExpiresBy key bound)
    (reads : event = .get key) (value : String) (fills : Fills key tiers value) :
    tiers.now + l1TTL ≤ bound := by
  obtain ⟨missed, found⟩ := fills
  unfold ExpiringMap.find at found
  split at found
  · rename_i stored lookup
    obtain ⟨last, impossible, _⟩ := l2 stored none lookup
    cases impossible
  · rename_i stored deadline lookup
    obtain ⟨last, same, within⟩ := l2 stored (some deadline) lookup
    obtain rfl := Option.some_inj.mp same
    split at found
    · rename_i alive
      exact (timely reads missed stored deadline lookup alive).trans within
    · cases found
  · cases found

/-- An entry does not outlive its time: from the time on at which the time to live of the last
write of a key has passed, no read returns its value, in every run in which no read fills the first
tier with an entry that has less time left than the first tier gives it. -/
theorem expired_not_returned (start final : TimedTiers) (key value : String) (ttl : Duration)
    (positive : 0 < ttl) (after : List TimedEvent)
    (run : Runs.exec (TimedTiers.step l1TTL l1TTL_pos keyFormatter) start
      (.set key value ttl :: after) = some final)
    (unset : ∀ other ttl, .set key other ttl ∉ after)
    (timely : Runs.Meets (TimedTiers.step l1TTL l1TTL_pos keyFormatter) (TimelyFill l1TTL key)
      start (.set key value ttl :: after))
    (late : start.now + ttl ≤ final.now) :
    ((timedProvider l1TTL l1TTL_pos keyFormatter).get key final).1 ≠ .ok value := by
  obtain ⟨written, set, run⟩ := Runs.exec_cons _ _ _ _ _ run
  obtain ⟨_, timely⟩ := (Runs.meets_cons _ _ start written _ after set).mp timely
  obtain rfl := Option.some_inj.mp set
  have expiring : Expiring key (start.now + ttl) (start.now + ttl) final :=
    Runs.exec_keeps_of_meets _ _ _ (fun event => ∀ other ttl, event ≠ .set key other ttl)
      (fun tiers event next unset timely step expiring =>
        step_expiring l1TTL l1TTL_pos keyFormatter key _ _ tiers event next unset
          (fill_of_timely l1TTL key _ tiers event timely expiring.l2) step expiring)
      _ final after (fun event member other ttl equal => unset other ttl (equal ▸ member)) timely
      run (expiring_set l1TTL l1TTL_pos keyFormatter key value ttl positive start _ le_rfl)
  rw [get_of_expiring l1TTL l1TTL_pos keyFormatter key _ _ final expiring late late]
  exact fun impossible => by cases impossible

/-- In every run, a value is returned for no longer than the first tier's time after its own. -/
theorem returned_within_l1TTL (start final : TimedTiers) (key value : String) (ttl : Duration)
    (positive : 0 < ttl) (after : List TimedEvent)
    (run : Runs.exec (TimedTiers.step l1TTL l1TTL_pos keyFormatter) start
      (.set key value ttl :: after) = some final)
    (unset : ∀ other ttl, .set key other ttl ∉ after)
    (late : start.now + ttl + l1TTL ≤ final.now) :
    ((timedProvider l1TTL l1TTL_pos keyFormatter).get key final).1 = .error .cacheMiss := by
  obtain ⟨written, set, run⟩ := Runs.exec_cons _ _ _ _ _ run
  obtain rfl := Option.some_inj.mp set
  have longer : start.now + ttl ≤ start.now + ttl + l1TTL := Int.le_add_of_nonneg_right l1TTL_pos.le
  have expiring : Expiring key (start.now + ttl + l1TTL) (start.now + ttl) final :=
    Runs.exec_keeps _ _ (fun event => ∀ other ttl, event ≠ .set key other ttl)
      (fun tiers event next unset step expiring =>
        step_expiring l1TTL l1TTL_pos keyFormatter key _ _ tiers event next unset
          (fun _ value fills => Int.add_le_add_right
            (ExpiringMap.lt_of_find _ key _ _ value expiring.l2 fills.2).le l1TTL) step expiring)
      _ final after (fun event member other ttl equal => unset other ttl (equal ▸ member))
      run (expiring_set l1TTL l1TTL_pos keyFormatter key value ttl positive start _ longer)
  exact get_of_expiring l1TTL l1TTL_pos keyFormatter key _ _ final expiring late
    (longer.trans late)

end Runs

/-! ### Two runs -/

/-- The default time of the first tier. -/
theorem defaultL1TTL_pos : 0 < defaultL1TTL := by decide

def emptyTiers : TimedTiers := ⟨0, ∅, ∅⟩

/-- A read fills the first tier while the entry has more than its time left. -/
def earlyFill : List TimedEvent :=
  [.tick (seconds 70), .get "perm:user_1", .tick (seconds 300)]

theorem earlyFill_expires :
    ∃ final, Runs.exec (TimedTiers.step defaultL1TTL defaultL1TTL_pos ("perm:" ++ ·)) emptyTiers
        (.set "perm:user_1" "bundle" (seconds 300) :: earlyFill) = some final ∧
      ((timedProvider defaultL1TTL defaultL1TTL_pos ("perm:" ++ ·)).get "perm:user_1" final).1 ≠
        .ok "bundle" := by
  have clock : (Runs.exec (TimedTiers.step defaultL1TTL defaultL1TTL_pos ("perm:" ++ ·)) emptyTiers
      (.set "perm:user_1" "bundle" (seconds 300) :: earlyFill)).map TimedTiers.now =
        some (seconds 300) := by
    decide +kernel
  obtain ⟨final, run, now⟩ := Option.map_eq_some_iff.mp clock
  refine ⟨final, run, ?_⟩
  refine expired_not_returned defaultL1TTL defaultL1TTL_pos ("perm:" ++ ·) emptyTiers final
    "perm:user_1" "bundle" (seconds 300) (by decide) earlyFill run (by simp [earlyFill]) ?_
    (by rw [now]; decide)
  refine (Runs.meets_cons _ _ _ _ _ _ rfl).mpr ⟨(fun reads => by cases reads), ?_⟩
  refine (Runs.meets_cons _ _ _ _ _ _ rfl).mpr ⟨(fun reads => by cases reads), ?_⟩
  refine (Runs.meets_cons _ _ _ _ _ _ rfl).mpr ⟨fun _ _ value deadline found _ => ?_, ?_⟩
  · obtain ⟨-, same⟩ := Prod.mk.inj (Option.some_inj.mp found)
    obtain rfl := Option.some_inj.mp same
    decide
  · refine (Runs.meets_cons _ _ _ _ _ _ rfl).mpr ⟨(fun reads => by cases reads), ?_⟩
    exact Runs.meets_nil _ _ _

/-- A read fills the first tier ten seconds before the entry expires. -/
def lateFill : List TimedEvent :=
  [.tick (seconds 80), .get "perm:user_1", .tick (seconds 100)]

/-- The value is returned ten seconds after its time to live has passed. -/
theorem lateFill_outlives :
    ∃ final, Runs.exec (TimedTiers.step defaultL1TTL defaultL1TTL_pos ("perm:" ++ ·)) emptyTiers
        (.set "perm:user_1" "bundle" (seconds 90) :: lateFill) = some final ∧
      (∀ other ttl, .set "perm:user_1" other ttl ∉ lateFill) ∧
      emptyTiers.now + seconds 90 ≤ final.now ∧
      ((timedProvider defaultL1TTL defaultL1TTL_pos ("perm:" ++ ·)).get "perm:user_1" final).1 =
        .ok "bundle" := by
  have observed : (Runs.exec (TimedTiers.step defaultL1TTL defaultL1TTL_pos ("perm:" ++ ·))
      emptyTiers (.set "perm:user_1" "bundle" (seconds 90) :: lateFill)).map
      (fun final => (final.now,
        ((timedProvider defaultL1TTL defaultL1TTL_pos ("perm:" ++ ·)).get "perm:user_1"
          final).1)) = some (seconds 100, .ok "bundle") := by
    decide +kernel
  obtain ⟨final, run, seen⟩ := Option.map_eq_some_iff.mp observed
  obtain ⟨now, read⟩ := Prod.mk.inj seen
  exact ⟨final, run, by simp [lateFill], by rw [now]; decide, read⟩

end SharedGo.Authz
