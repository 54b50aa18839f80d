/-
This file proves when a revocation that reports success has removed the revoked
entry. Any operation on the tiers and the bus may fail; a deletion that fails may
or may not have deleted. A revocation ignores the failures of its two deletions
and reports only that of the bus. So it succeeds without having removed the entry
when the bus takes the message and a tier that has the entry keeps it; otherwise
no later read finds the entry.
-/

import SharedGo.CacheProvider
import SharedGo.MapRange

namespace SharedGo.Authz

open SharedGo

/-! ### Tiers whose operations may fail -/

/-- What the tiers store. -/
structure StoredTiers where
  l1 : GoMap String String
  l2 : GoMap String String

/-- How a deletion ends. -/
inductive DeleteOutcome where
  | succeeds
  | failsKeeping (error : CacheError)
  | failsDeleting (error : CacheError)
  deriving DecidableEq, Repr

def DeleteOutcome.error : DeleteOutcome → Option CacheError
  | .succeeds => none
  | .failsKeeping error => some error
  | .failsDeleting error => some error

def DeleteOutcome.keeps : DeleteOutcome → Bool
  | .failsKeeping _ => true
  | _ => false

/-- What a deletion leaves of a tier. -/
def DeleteOutcome.apply (outcome : DeleteOutcome) (tier : GoMap String String) (key : String) :
    GoMap String String :=
  if outcome.keeps then tier else tier.erase key

/-- How the operations on a tier end: with an error, or as they should. -/
structure CacheOutcomes where
  get : Option CacheError
  set : Option CacheError
  delete : DeleteOutcome

/-- A cache over one of the tiers whose operations end in the given way. -/
def fallibleCache (tier : StoredTiers → GoMap String String)
    (update : StoredTiers → GoMap String String → StoredTiers) (outcomes : CacheOutcomes) :
    CacheProvider StoredTiers where
  get key tiers :=
    match outcomes.get, (tier tiers).lookup key with
    | some error, _ => (.error error, tiers)
    | none, some value => (.ok value, tiers)
    | none, none => (.error .cacheMiss, tiers)
  set key value _ tiers :=
    match outcomes.set with
    | some error => (some error, tiers)
    | none => (none, update tiers ((tier tiers).insert key value))
  delete key tiers :=
    (outcomes.delete.error, update tiers (outcomes.delete.apply (tier tiers) key))

/-- How the operations on both tiers end. -/
structure TierOutcomes where
  l1 : CacheOutcomes
  l2 : CacheOutcomes

def TierOutcomes.working : TierOutcomes := ⟨⟨none, none, .succeeds⟩, ⟨none, none, .succeeds⟩⟩

/-- A read of a tier returns what it has, and leaves the tiers alone. -/
theorem fallibleCache_get (tier : StoredTiers → GoMap String String)
    (update : StoredTiers → GoMap String String → StoredTiers) (outcomes : CacheOutcomes)
    (key : String) (tiers next : StoredTiers) (result : Except CacheError String)
    (read : (fallibleCache tier update outcomes).get key tiers = (result, next)) :
    next = tiers ∧ ∀ value, result = .ok value → (tier tiers).lookup key = some value := by
  simp only [fallibleCache] at read
  split at read
  · obtain ⟨rfl, rfl⟩ := Prod.mk.inj read
    exact ⟨rfl, fun value impossible => by cases impossible⟩
  · rename_i stored _ found
    obtain ⟨rfl, rfl⟩ := Prod.mk.inj read
    exact ⟨rfl, fun value same => by rw [found, Except.ok.inj same]⟩
  · obtain ⟨rfl, rfl⟩ := Prod.mk.inj read
    exact ⟨rfl, fun value impossible => by cases impossible⟩

section Revocation

variable (l1TTL : Duration) (l1TTL_pos : 0 < l1TTL) (keyFormatter : String → String)
  (publishing : Option (Option CacheError))

/-- A tiered cache whose operations end in the given way. Publishing, if there is a bus, ends with
an error or without. -/
def fallibleProvider (outcomes : TierOutcomes) : TieredCacheProvider StoredTiers where
  l1 := fallibleCache StoredTiers.l1 (fun tiers l1 => { tiers with l1 }) outcomes.l1
  l2 := fallibleCache StoredTiers.l2 (fun tiers l2 => { tiers with l2 }) outcomes.l2
  bus := publishing.map fun error => ⟨fun _ tiers => (error, tiers)⟩
  l1TTL := l1TTL
  keyFormatter := keyFormatter
  l1TTL_pos := l1TTL_pos

/-- The tiers when a read comes: the listener may have handled the message before. -/
def whenRead (listened : Option TierOutcomes) (principalID : String) (tiers : StoredTiers) :
    StoredTiers :=
  match listened with
  | none => tiers
  | some outcomes =>
    (fallibleProvider l1TTL l1TTL_pos keyFormatter publishing outcomes).handleRevocation
      principalID tiers

/-! ### What the operations do -/

theorem publishRevocation_eq (outcomes : TierOutcomes) (principalID : String)
    (tiers : StoredTiers) :
    (fallibleProvider l1TTL l1TTL_pos keyFormatter publishing outcomes).publishRevocation
        principalID tiers =
      (publishing.getD none,
        ⟨outcomes.l1.delete.apply tiers.l1 (keyFormatter principalID),
          outcomes.l2.delete.apply tiers.l2 (keyFormatter principalID)⟩) := by
  cases publishing with
  | none => rfl
  | some error => rfl

/-- A read that succeeds returns what a tier has. -/
theorem stored_of_get (outcomes : TierOutcomes) (key value : String) (tiers : StoredTiers)
    (read : ((fallibleProvider l1TTL l1TTL_pos keyFormatter publishing outcomes).get key tiers).1 =
      .ok value) :
    tiers.l1.lookup key = some value ∨ tiers.l2.lookup key = some value := by
  unfold TieredCacheProvider.get at read
  split at read
  · rename_i found next inL1
    obtain ⟨_, stored⟩ := fallibleCache_get StoredTiers.l1 (fun tiers l1 => { tiers with l1 })
      outcomes.l1 key tiers next _ inL1
    exact Or.inl (stored value read)
  · rename_i error next inL1
    obtain ⟨rfl, _⟩ := fallibleCache_get StoredTiers.l1 (fun tiers l1 => { tiers with l1 })
      outcomes.l1 key tiers next _ inL1
    split at read
    · cases read
    · rename_i found last inL2
      obtain ⟨_, stored⟩ := fallibleCache_get StoredTiers.l2 (fun tiers l2 => { tiers with l2 })
        outcomes.l2 key next last _ inL2
      exact Or.inr (stored value read)

theorem get_working_l1 (key value : String) (tiers : StoredTiers)
    (stored : tiers.l1.lookup key = some value) :
    ((fallibleProvider l1TTL l1TTL_pos keyFormatter publishing .working).get key tiers).1 =
      .ok value := by
  simp only [TieredCacheProvider.get, fallibleProvider, fallibleCache, TierOutcomes.working, stored]

theorem get_working_l2 (key value : String) (tiers : StoredTiers)
    (missed : tiers.l1.lookup key = none) (stored : tiers.l2.lookup key = some value) :
    ((fallibleProvider l1TTL l1TTL_pos keyFormatter publishing .working).get key tiers).1 =
      .ok value := by
  simp only [TieredCacheProvider.get, fallibleProvider, fallibleCache, TierOutcomes.working, missed,
    stored]

/-! ### Revocations that report success -/

theorem lookup_apply (outcome : DeleteOutcome) (tier : GoMap String String) (key : String) :
    (outcome.apply tier key).lookup key = if outcome.keeps then tier.lookup key else none := by
  unfold DeleteOutcome.apply
  split
  · rfl
  · exact AList.lookup_erase key tier

/-- The deletion leaves nothing under the key. -/
def Removes (outcome : DeleteOutcome) (tier : GoMap String String) (key : String) : Prop :=
  tier.lookup key = none ∨ outcome.keeps = false

theorem lookup_apply_of_removes (outcome : DeleteOutcome) (tier : GoMap String String)
    (key : String) (removes : Removes outcome tier key) :
    (outcome.apply tier key).lookup key = none := by
  rw [lookup_apply]
  rcases removes with absent | deleted
  · rw [absent, ite_self]
  · rw [deleted]
    rfl

/-- A deletion that leaves something keeps what was there. -/
theorem exists_of_not_removes (outcome : DeleteOutcome) (tier : GoMap String String)
    (key : String) (kept : ¬Removes outcome tier key) :
    ∃ value, tier.lookup key = some value ∧ (outcome.apply tier key).lookup key = some value := by
  unfold Removes at kept
  rw [not_or, Bool.not_eq_false] at kept
  obtain ⟨value, stored⟩ := Option.ne_none_iff_exists'.mp kept.1
  refine ⟨value, stored, ?_⟩
  rw [lookup_apply, kept.2, if_pos rfl, stored]

/-- The listener finds nothing where nothing is, and does not touch the second tier. -/
theorem lookup_whenRead (listened : Option TierOutcomes) (principalID : String)
    (tiers : StoredTiers)
    (absent : tiers.l1.lookup (keyFormatter principalID) = none) :
    (whenRead l1TTL l1TTL_pos keyFormatter publishing listened principalID tiers).l1.lookup
        (keyFormatter principalID) = none ∧
      (whenRead l1TTL l1TTL_pos keyFormatter publishing listened principalID tiers).l2 =
        tiers.l2 := by
  cases listened with
  | none => exact ⟨absent, rfl⟩
  | some outcomes =>
    exact ⟨lookup_apply_of_removes outcomes.l1.delete tiers.l1 _ (Or.inl absent), rfl⟩

/-- A revocation that reports success has removed the entry, whatever the operations that follow do,
exactly when the bus reports an error or each tier that has the entry deletes it. -/
theorem revocation_removes_iff (outcomes : TierOutcomes) (principalID : String)
    (tiers : StoredTiers) :
    (∀ (listened : Option TierOutcomes) (later : TierOutcomes) (value : String),
      ((fallibleProvider l1TTL l1TTL_pos keyFormatter publishing outcomes).publishRevocation
        principalID tiers).1 = none →
      tiers.l1.lookup (keyFormatter principalID) = some value ∨
        tiers.l2.lookup (keyFormatter principalID) = some value →
      ((fallibleProvider l1TTL l1TTL_pos keyFormatter publishing later).get
        (keyFormatter principalID)
        (whenRead l1TTL l1TTL_pos keyFormatter publishing listened principalID
          ((fallibleProvider l1TTL l1TTL_pos keyFormatter publishing outcomes).publishRevocation
            principalID tiers).2)).1 ≠ .ok value) ↔
      (∃ error, publishing = some (some error)) ∨
        (Removes outcomes.l1.delete tiers.l1 (keyFormatter principalID) ∧
          Removes outcomes.l2.delete tiers.l2 (keyFormatter principalID)) := by
  rw [publishRevocation_eq]
  constructor
  · intro removed
    by_cases silent : publishing.getD none = none
    · refine Or.inr ?_
      have cleared : Removes outcomes.l1.delete tiers.l1 (keyFormatter principalID) := by
        by_contra kept
        obtain ⟨value, stored, left⟩ := exists_of_not_removes _ _ _ kept
        exact removed none .working value silent (Or.inl stored)
          (get_working_l1 _ _ _ _ _ value _ left)
      refine ⟨cleared, ?_⟩
      by_contra kept
      obtain ⟨value, stored, left⟩ := exists_of_not_removes _ _ _ kept
      exact removed none .working value silent (Or.inr stored)
        (get_working_l2 _ _ _ _ _ value _ (lookup_apply_of_removes _ _ _ cleared) left)
    · refine Or.inl ?_
      cases publishing with
      | none => exact absurd rfl silent
      | some result =>
        obtain ⟨error, failed⟩ := Option.ne_none_iff_exists'.mp silent
        exact ⟨error, congrArg some failed⟩
  · rintro (⟨error, rfl⟩ | ⟨clearedL1, clearedL2⟩) listened later value reported _ read
    · cases reported
    · obtain ⟨emptyL1, sameL2⟩ := lookup_whenRead l1TTL l1TTL_pos keyFormatter publishing listened
        principalID ⟨outcomes.l1.delete.apply tiers.l1 (keyFormatter principalID),
          outcomes.l2.delete.apply tiers.l2 (keyFormatter principalID)⟩
        (lookup_apply_of_removes _ _ _ clearedL1)
      rcases stored_of_get _ _ _ _ _ _ _ _ read with inL1 | inL2
      · rw [emptyL1] at inL1
        cases inL1
      · rw [sameL2, lookup_apply_of_removes _ _ _ clearedL2] at inL2
        cases inL2

end Revocation

/-- A tier whose deletion fails after it has deleted does not keep the entry. -/
theorem failsDeleting_removes :
    ((fallibleProvider defaultL1TTL (by decide) ("perm:" ++ ·) (some none) .working).get
        "perm:user_1"
        ((fallibleProvider defaultL1TTL (by decide) ("perm:" ++ ·) (some none)
          ⟨⟨none, none, .succeeds⟩, ⟨none, none, .failsDeleting (.backend "timeout")⟩⟩)
          |>.publishRevocation "user_1"
            ⟨AList.insert "perm:user_1" "bundle" ∅, AList.insert "perm:user_1" "bundle" ∅⟩).2).1 ≠
      .ok "bundle" :=
  (revocation_removes_iff defaultL1TTL (by decide) ("perm:" ++ ·) (some none)
    ⟨⟨none, none, .succeeds⟩, ⟨none, none, .failsDeleting (.backend "timeout")⟩⟩ "user_1"
    ⟨AList.insert "perm:user_1" "bundle" ∅, AList.insert "perm:user_1" "bundle" ∅⟩).mpr
    (Or.inr ⟨Or.inr rfl, Or.inr rfl⟩) none .working "bundle" rfl (Or.inl (by decide))

/-- The second tier is out of reach, and the bus is not. -/
def l2Unreachable : TierOutcomes :=
  { TierOutcomes.working with
    l2 := ⟨none, none, .failsKeeping (.backend "connection refused")⟩ }

/-- The revocation reports success, and the next read returns the revoked bundle. -/
theorem l2Unreachable_returns :
    ((fallibleProvider defaultL1TTL (by decide) ("perm:" ++ ·) (some none)
        l2Unreachable).publishRevocation "user_1"
        ⟨∅, AList.insert "perm:user_1" "bundle" ∅⟩).1 = none ∧
      ((fallibleProvider defaultL1TTL (by decide) ("perm:" ++ ·) (some none) .working).get
        "perm:user_1"
        ((fallibleProvider defaultL1TTL (by decide) ("perm:" ++ ·) (some none)
          l2Unreachable).publishRevocation "user_1"
          ⟨∅, AList.insert "perm:user_1" "bundle" ∅⟩).2).1 = .ok "bundle" := by
  decide +kernel

end SharedGo.Authz
