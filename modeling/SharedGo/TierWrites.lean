/-
This file proves when a failed write to the tiered cache can be seen. A write goes
to the first tier, whose failure is ignored, and then to the second, whose failure
is reported. Nothing takes the first write back. So a later read returns the value
of the failed write, for as long as the first tier keeps it; when it drops the
entry, the old value comes back from the second.

A failed write stays invisible when the first tier did not store it or cannot be
read, or when the read would have returned the same without it.
-/

import SharedGo.TierExpiry

namespace SharedGo.Authz

open SharedGo

/-! ### Tiers that fail -/

/-- How the operations on a tier end: whether a read fails, whether a write does, and whether it
stores what it is given. -/
structure FaultyOutcomes where
  getError : Option CacheError
  setError : Option CacheError
  stores : Bool
  deriving DecidableEq, Repr

/-- A cache over one of the tiers whose operations end in the given way. -/
def faultyCache (tier : TimedTiers → ExpiringMap String String)
    (update : TimedTiers → ExpiringMap String String → TimedTiers) (outcomes : FaultyOutcomes) :
    CacheProvider TimedTiers where
  get key tiers :=
    match outcomes.getError with
    | some error => (.error error, tiers)
    | none => (expiringCache tier update).get key tiers
  set key value ttl tiers :=
    (outcomes.setError,
      if outcomes.stores then ((expiringCache tier update).set key value ttl tiers).2 else tiers)
  delete := (expiringCache tier update).delete

section Writes

variable (l1TTL : Duration) (l1TTL_pos : 0 < l1TTL) (keyFormatter : String → String)

/-- A tiered cache over two tiers whose operations end in the given way. -/
def faultyProvider (l1 l2 : FaultyOutcomes) : TieredCacheProvider TimedTiers where
  l1 := faultyCache TimedTiers.l1 (fun tiers l1 => { tiers with l1 }) l1
  l2 := faultyCache TimedTiers.l2 (fun tiers l2 => { tiers with l2 }) l2
  bus := none
  l1TTL := l1TTL
  keyFormatter := keyFormatter
  l1TTL_pos := l1TTL_pos

/-- How a write that fails ends: the second tier reports an error and stores nothing; what the first
does is not reported. -/
structure FailedWrite where
  l1Error : Option CacheError
  l1Stores : Bool
  l2Error : CacheError
  deriving DecidableEq, Repr

def FailedWrite.provider (write : FailedWrite) : TieredCacheProvider TimedTiers :=
  faultyProvider l1TTL l1TTL_pos keyFormatter ⟨none, write.l1Error, write.l1Stores⟩
    ⟨none, some write.l2Error, false⟩

/-- A later read: the time it comes, what the first tier has dropped before, and which of the tiers
cannot be read. -/
structure LaterRead where
  time : Int
  dropped : List String
  l1Error : Option CacheError
  l2Error : Option CacheError
  deriving DecidableEq, Repr

def LaterRead.provider (later : LaterRead) : TieredCacheProvider TimedTiers :=
  faultyProvider l1TTL l1TTL_pos keyFormatter ⟨later.l1Error, none, true⟩
    ⟨later.l2Error, none, true⟩

/-- The tiers that the read finds. -/
def LaterRead.tiers (later : LaterRead) (tiers : TimedTiers) : TimedTiers where
  now := later.time
  l1 := later.dropped.foldl (fun left key => left.erase key) tiers.l1
  l2 := tiers.l2

/-- What the read returns for a key. -/
def LaterRead.returns (later : LaterRead) (tiers : TimedTiers) (key : String) :
    Except CacheError String :=
  ((later.provider l1TTL l1TTL_pos keyFormatter).get key (later.tiers tiers)).1

/-- What the read finds in the second tier. -/
def LaterRead.findsInL2 (later : LaterRead) (tiers : TimedTiers) (key : String) :
    Except CacheError String :=
  match later.l2Error, tiers.l2.find later.time key with
  | some error, _ => .error error
  | none, some value => .ok value
  | none, none => .error .cacheMiss

/-- The second tier can be read, and holds the value. -/
def LaterRead.InL2 (later : LaterRead) (tiers : TimedTiers) (key value : String) : Prop :=
  later.l2Error = none ∧ tiers.l2.find later.time key = some value

/-- The tiers hold for the read what they hold with a write to the first one: the value while the
write lives, and afterwards no other than the second tier has. -/
def LaterRead.HoldsAlready (later : LaterRead) (tiers : TimedTiers) (key value : String)
    (lifetime : Duration) : Prop :=
  if later.time < tiers.now + lifetime then
    tiers.l1.find later.time key = some value ∨
      tiers.l1.find later.time key = none ∧ later.InL2 tiers key value
  else ∀ held, tiers.l1.find later.time key = some held → later.InL2 tiers key held

/-- How long the first tier keeps what a write stores. -/
def writeTTL (ttl : Duration) : Duration := if 0 < ttl ∧ ttl < l1TTL then ttl else l1TTL

/-! ### What a read returns -/

theorem writeTTL_pos (ttl : Duration) (positive : 0 < l1TTL) : 0 < writeTTL l1TTL ttl := by
  unfold writeTTL
  split_ifs with shorter
  · exact shorter.1
  · exact positive

/-- The value in the first tier, if it can be read and is still there. -/
def LaterRead.findsInL1 (later : LaterRead) (tiers : TimedTiers) (key : String) : Option String :=
  if later.l1Error ≠ none ∨ key ∈ later.dropped then none else tiers.l1.find later.time key

theorem provider_l1_get (later : LaterRead) (tiers : TimedTiers) (key : String) :
    ∃ error, (later.provider l1TTL l1TTL_pos keyFormatter).l1.get key (later.tiers tiers) =
      ((later.findsInL1 tiers key).elim (.error error) .ok, later.tiers tiers) := by
  have found : (later.tiers tiers).l1.find later.time key =
      if key ∈ later.dropped then none else tiers.l1.find later.time key :=
    ExpiringMap.find_foldl_erase later.dropped tiers.l1 later.time key
  simp only [LaterRead.provider, faultyProvider, faultyCache, expiringCache, LaterRead.findsInL1]
  cases later.l1Error with
  | some error => exact ⟨error, rfl⟩
  | none =>
    have now : (later.tiers tiers).now = later.time := rfl
    refine ⟨.cacheMiss, ?_⟩
    simp only [now, found]
    by_cases dropped : key ∈ later.dropped
    · simp [dropped]
    · cases tiers.l1.find later.time key <;> simp [dropped]

theorem provider_l2_get (later : LaterRead) (tiers : TimedTiers) (key : String) :
    (later.provider l1TTL l1TTL_pos keyFormatter).l2.get key (later.tiers tiers) =
      (later.findsInL2 tiers key, later.tiers tiers) := by
  simp only [LaterRead.provider, faultyProvider, faultyCache, expiringCache, LaterRead.findsInL2]
  cases later.l2Error with
  | some error => rfl
  | none => cases found : tiers.l2.find later.time key <;> simp [LaterRead.tiers, found]

/-- A read returns what it finds in the first tier, or else what it finds in the second. -/
theorem returns_eq (later : LaterRead) (tiers : TimedTiers) (key : String) :
    later.returns l1TTL l1TTL_pos keyFormatter tiers key =
      (later.findsInL1 tiers key).elim (later.findsInL2 tiers key) .ok := by
  obtain ⟨error, first⟩ := provider_l1_get l1TTL l1TTL_pos keyFormatter later tiers key
  have second := provider_l2_get l1TTL l1TTL_pos keyFormatter later tiers key
  rw [LaterRead.returns, TieredCacheProvider.get, first]
  cases later.findsInL1 tiers key with
  | some value => rfl
  | none =>
    simp only [Option.elim_none, second]
    cases later.findsInL2 tiers key <;> rfl

/-- What a failed write leaves: the second tier as it was. -/
theorem set_failed (write : FailedWrite) (key value : String) (ttl : Duration)
    (tiers : TimedTiers) :
    (write.provider l1TTL l1TTL_pos keyFormatter).set key value ttl tiers =
      (some write.l2Error,
        if write.l1Stores then
          { tiers with l1 := tiers.l1.put tiers.now key value (writeTTL l1TTL ttl) }
        else tiers) := by
  cases stores : write.l1Stores with
  | false =>
    simp [FailedWrite.provider, faultyProvider, TieredCacheProvider.set, faultyCache, stores]
  | true =>
    simp [FailedWrite.provider, faultyProvider, TieredCacheProvider.set, faultyCache, stores,
      expiringCache, writeTTL]

/-- A write to another key leaves what a read returns. -/
theorem returns_put_of_ne (later : LaterRead) (tiers : TimedTiers) (key other value : String)
    (ttl : Duration) (different : other ≠ key) :
    later.returns l1TTL l1TTL_pos keyFormatter
        { tiers with l1 := tiers.l1.put tiers.now key value ttl } other =
      later.returns l1TTL l1TTL_pos keyFormatter tiers other := by
  rw [returns_eq, returns_eq]
  simp only [LaterRead.findsInL1, LaterRead.findsInL2, ExpiringMap.find_put, if_neg different]

/-- A write to the first tier alone is seen until it expires, if the tier can be read and has not
dropped it; afterwards the second tier is. -/
theorem returns_put (later : LaterRead) (tiers : TimedTiers) (key value : String) (ttl : Duration)
    (positive : 0 < ttl) (readable : later.l1Error = none) (kept : key ∉ later.dropped) :
    later.returns l1TTL l1TTL_pos keyFormatter
        { tiers with l1 := tiers.l1.put tiers.now key value ttl } key =
      if later.time < tiers.now + ttl then .ok value else later.findsInL2 tiers key := by
  rw [returns_eq]
  simp only [LaterRead.findsInL1, LaterRead.findsInL2, ExpiringMap.find_put, readable, kept,
    ne_eq, not_true_eq_false, or_false, if_false, if_true, Int.not_le.mpr positive, false_or]
  split_ifs <;> rfl

/-- Where the first tier is not read, its writes are not seen. -/
theorem returns_put_unread (later : LaterRead) (tiers : TimedTiers) (key value : String)
    (ttl : Duration) (unread : later.l1Error ≠ none ∨ key ∈ later.dropped) :
    later.returns l1TTL l1TTL_pos keyFormatter
        { tiers with l1 := tiers.l1.put tiers.now key value ttl } key =
      later.returns l1TTL l1TTL_pos keyFormatter tiers key := by
  rw [returns_eq, returns_eq]
  simp only [LaterRead.findsInL1, LaterRead.findsInL2, if_pos unread]

/-- A write to the first tier alone cannot be seen if it cannot be seen under its own key. -/
theorem returns_put_iff (later : LaterRead) (tiers : TimedTiers) (key value : String)
    (ttl : Duration) :
    (∀ other, later.returns l1TTL l1TTL_pos keyFormatter
        { tiers with l1 := tiers.l1.put tiers.now key value ttl } other =
      later.returns l1TTL l1TTL_pos keyFormatter tiers other) ↔
    later.returns l1TTL l1TTL_pos keyFormatter
        { tiers with l1 := tiers.l1.put tiers.now key value ttl } key =
      later.returns l1TTL l1TTL_pos keyFormatter tiers key := by
  refine ⟨fun invisible => invisible key, fun equal other => ?_⟩
  by_cases same : other = key
  · rw [same]
    exact equal
  · exact returns_put_of_ne l1TTL l1TTL_pos keyFormatter later tiers key other value ttl same

theorem findsInL2_ok_iff (later : LaterRead) (tiers : TimedTiers) (key value : String) :
    later.findsInL2 tiers key = .ok value ↔ later.InL2 tiers key value := by
  unfold LaterRead.findsInL2 LaterRead.InL2
  cases later.l2Error with
  | some error => simp
  | none => cases tiers.l2.find later.time key <;> simp

/-- What a read returns is what it returns with the write, exactly when the tiers hold it. -/
theorem returns_holdsAlready_iff (later : LaterRead) (tiers : TimedTiers) (key value : String)
    (lifetime : Duration) (readable : later.l1Error = none) (kept : key ∉ later.dropped) :
    (if later.time < tiers.now + lifetime then .ok value else later.findsInL2 tiers key) =
        later.returns l1TTL l1TTL_pos keyFormatter tiers key ↔
      later.HoldsAlready tiers key value lifetime := by
  have unhidden : later.findsInL1 tiers key = tiers.l1.find later.time key := by
    simp [LaterRead.findsInL1, readable, kept]
  rw [returns_eq, unhidden, LaterRead.HoldsAlready]
  simp only [← findsInL2_ok_iff]
  cases tiers.l1.find later.time key with
  | some held => split_ifs <;> simp [eq_comm]
  | none => split_ifs <;> simp [eq_comm]

/-- A write that fails is invisible to a later read exactly when the first tier did not store it, is
not read or has dropped the entry, or the tiers hold for the read what they hold with the write. -/
theorem failedSet_invisible_iff (write : FailedWrite) (later : LaterRead) (key value : String)
    (ttl : Duration) (tiers : TimedTiers) :
    let written := (write.provider l1TTL l1TTL_pos keyFormatter).set key value ttl tiers
    written.1 = some write.l2Error ∧
      ((∀ other, later.returns l1TTL l1TTL_pos keyFormatter written.2 other =
          later.returns l1TTL l1TTL_pos keyFormatter tiers other) ↔
        write.l1Stores = false ∨ later.l1Error ≠ none ∨ key ∈ later.dropped ∨
          later.HoldsAlready tiers key value (writeTTL l1TTL ttl)) := by
  intro written
  have left : written = (some write.l2Error,
      if write.l1Stores then
        { tiers with l1 := tiers.l1.put tiers.now key value (writeTTL l1TTL ttl) }
      else tiers) :=
    set_failed l1TTL l1TTL_pos keyFormatter write key value ttl tiers
  refine ⟨by rw [left], ?_⟩
  rw [left]
  cases stores : write.l1Stores with
  | false => simp
  | true =>
    simp only [if_true, Bool.true_eq_false, false_or, returns_put_iff, ← or_assoc]
    by_cases unread : later.l1Error ≠ none ∨ key ∈ later.dropped
    · exact iff_of_true
        (returns_put_unread l1TTL l1TTL_pos keyFormatter later tiers key value _ unread)
        (Or.inl unread)
    · obtain ⟨readable, kept⟩ := not_or.mp unread
      rw [or_iff_right unread, returns_put l1TTL l1TTL_pos keyFormatter later tiers key value
        _ (writeTTL_pos l1TTL ttl l1TTL_pos) (not_not.mp readable) kept]
      exact returns_holdsAlready_iff l1TTL l1TTL_pos keyFormatter later tiers key value _
        (not_not.mp readable) kept

end Writes

/-- The second tier is out of reach, and the first stores what it is given. -/
def unreachableWrite : FailedWrite := ⟨none, true, .backend "connection refused"⟩

/-- A read right after, of tiers that are all in reach. -/
def nextRead : LaterRead := ⟨0, [], none, none⟩

/-- An old value in the second tier alone. -/
def cachedTiers : TimedTiers := ⟨0, ∅, AList.insert "perm:user_1" ("old bundle", none) ∅⟩

/-- The write of a value that is there already cannot be seen. -/
theorem sameValue_invisible :
    let written := (unreachableWrite.provider defaultL1TTL (by decide) ("perm:" ++ ·)).set
      "perm:user_1" "old bundle" (seconds 30) cachedTiers
    written.1 = some (.backend "connection refused") ∧
      nextRead.returns defaultL1TTL (by decide) ("perm:" ++ ·) written.2 "perm:user_1" =
        nextRead.returns defaultL1TTL (by decide) ("perm:" ++ ·) cachedTiers "perm:user_1" := by
  obtain ⟨failed, invisible⟩ := failedSet_invisible_iff defaultL1TTL (by decide) ("perm:" ++ ·)
    unreachableWrite nextRead "perm:user_1" "old bundle" (seconds 30) cachedTiers
  have held : nextRead.HoldsAlready cachedTiers "perm:user_1" "old bundle"
      (writeTTL defaultL1TTL (seconds 30)) := by
    rw [LaterRead.HoldsAlready, if_pos (by decide)]
    exact Or.inr ⟨by decide, by decide, by decide +kernel⟩
  exact ⟨failed, invisible.mpr (Or.inr (Or.inr (Or.inr held))) "perm:user_1"⟩

/-- The write reports an error, and the next read returns what it wrote; once the first tier drops
it, the old value is back. -/
theorem failedSet_seen :
    let written := (unreachableWrite.provider defaultL1TTL (by decide) ("perm:" ++ ·)).set
      "perm:user_1" "new bundle" (seconds 30) cachedTiers
    written.1 = some (.backend "connection refused") ∧
      nextRead.returns defaultL1TTL (by decide) ("perm:" ++ ·) written.2 "perm:user_1" =
        .ok "new bundle" ∧
      nextRead.returns defaultL1TTL (by decide) ("perm:" ++ ·) cachedTiers "perm:user_1" =
        .ok "old bundle" ∧
      ({ nextRead with dropped := ["perm:user_1"] } : LaterRead).returns defaultL1TTL (by decide)
        ("perm:" ++ ·) written.2 "perm:user_1" = .ok "old bundle" := by
  decide +kernel

end SharedGo.Authz
