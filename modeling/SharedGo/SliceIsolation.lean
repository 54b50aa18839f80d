/-
This file proves that callers cannot change what the package keeps for them. The
repository of permissions and the memory cache keep slices, and their callers get
slices from them and pass slices to them. Whoever has a slice may write to its array
at any time. Both components copy what comes in and what goes out, while the
repository appends to its own arrays in place.

At the level of arrays the repository is the map of bundles that the rest of the
development takes it for: its answers are those of the grants and revocations alone,
and an answer stays as it is until its receiver writes to it. The memory cache
returns the bytes that a `Set` was given, as they were then.
-/

import SharedGo.CacheProvider
import SharedGo.PermissionCache
import SharedGo.Slices

namespace SharedGo.Authz

open SharedGo

/-! ### The repository and its arrays -/

/-- The slices of rules, and the slices that callers have been given. -/
structure SliceRepository where
  heap : ArrayHeap PermissionRule
  permissions : GoMap String Slice
  lent : List Slice

namespace SliceRepository

def empty : SliceRepository := ⟨.empty, ∅, []⟩

/-- The rules of a principal; without a record they are nil. -/
def rules (repo : SliceRepository) (principalID : String) : Slice :=
  (repo.permissions.lookup principalID).getD .nil

/-- Appends to the rules of a principal; a new array has some spare room. -/
def grantPermission (repo : SliceRepository) (principalID : String) (rule : PermissionRule)
    (spare : List PermissionRule) : SliceRepository :=
  { repo with
    heap := (repo.heap.append (repo.rules principalID) rule spare).1
    permissions := repo.permissions.insert principalID
      (repo.heap.append (repo.rules principalID) rule spare).2 }

def revokeAll (repo : SliceRepository) (principalID : String) : SliceRepository :=
  { repo with permissions := repo.permissions.erase principalID }

/-- Gives the caller a copy of the rules; without a record it is nil. -/
def getPermissions (repo : SliceRepository) (principalID : String) : Slice × SliceRepository :=
  match repo.permissions.lookup principalID with
  | none => (.nil, { repo with lent := repo.lent ++ [.nil] })
  | some rules =>
    ((repo.heap.clone rules).2,
      { repo with
        heap := (repo.heap.clone rules).1
        lent := repo.lent ++ [(repo.heap.clone rules).2] })

end SliceRepository

/-- The calls of the repository, and the writes of callers to arrays they have been given. -/
inductive RepositoryEvent where
  | grant (principalID : String) (rule : PermissionRule) (spare : List PermissionRule)
  | revokeAll (principalID : String)
  | get (principalID : String)
  | write (array index : Nat) (rule : PermissionRule)

def SliceRepository.step (repo : SliceRepository) : RepositoryEvent → Option SliceRepository
  | .grant principalID rule spare => some (repo.grantPermission principalID rule spare)
  | .revokeAll principalID => some (repo.revokeAll principalID)
  | .get principalID => some (repo.getPermissions principalID).2
  | .write array index rule =>
    if repo.lent.any (·.array = some array) then
      some { repo with heap := repo.heap.write array index rule }
    else none

/-- A caller writes only to an array it has been given. -/
theorem step_write (repo next : SliceRepository) (array index : Nat) (rule : PermissionRule)
    (stepped : repo.step (.write array index rule) = some next) :
    (∃ given ∈ repo.lent, given.array = some array) ∧
      next = { repo with heap := repo.heap.write array index rule } := by
  obtain ⟨isGiven, written⟩ := Option.ite_none_right_eq_some.mp stepped
  obtain ⟨given, member, isArray⟩ := List.any_eq_true.mp isGiven
  exact ⟨⟨given, member, of_decide_eq_true isArray⟩, (Option.some_inj.mp written).symm⟩

/-- What an event does to the records; only grants and revocations change them. -/
def RepositoryEvent.apply (records : MemoryPermissionRepository) :
    RepositoryEvent → MemoryPermissionRepository
  | .grant principalID rule _ => Authz.grantPermission records principalID rule
  | .revokeAll principalID => Authz.revokeAll records principalID
  | .get _ => records
  | .write _ _ _ => records

/-- The records after some events. -/
def recordsAfter (events : List RepositoryEvent) : MemoryPermissionRepository :=
  events.foldl RepositoryEvent.apply ∅

theorem recordsAfter_concat (past : List RepositoryEvent) (event : RepositoryEvent) :
    recordsAfter (past ++ [event]) = event.apply (recordsAfter past) :=
  List.foldl_concat ..

/-! ### Arrays that are kept apart -/

/-- No two principals and no caller have an array of the repository in common. -/
structure Isolated (repo : SliceRepository) : Prop where
  valid : ∀ principalID slice, repo.permissions.lookup principalID = some slice →
    repo.heap.Valid slice
  lentValid : ∀ given ∈ repo.lent, repo.heap.Valid given
  apart : ∀ first second firstSlice secondSlice, first ≠ second →
    repo.permissions.lookup first = some firstSlice →
    repo.permissions.lookup second = some secondSlice → firstSlice.Apart secondSlice
  lentApart : ∀ principalID slice, repo.permissions.lookup principalID = some slice →
    ∀ given ∈ repo.lent, slice.Apart given

theorem isolated_empty : Isolated .empty where
  valid principalID slice found := by cases found
  lentValid slice member := by cases member
  apart first second firstSlice secondSlice _ found := by cases found
  lentApart principalID slice found := by cases found

theorem Isolated.rules_valid {repo : SliceRepository} (isolated : Isolated repo)
    (principalID : String) : repo.heap.Valid (repo.rules principalID) := by
  unfold SliceRepository.rules
  cases found : repo.permissions.lookup principalID with
  | none => exact ArrayHeap.valid_nil _
  | some slice => exact isolated.valid principalID slice found

/-- The rules of a principal are apart from those of the others. -/
theorem Isolated.rules_apart {repo : SliceRepository} (isolated : Isolated repo)
    (principalID other : String) (slice : Slice) (different : other ≠ principalID)
    (found : repo.permissions.lookup other = some slice) :
    (repo.rules principalID).Apart slice := by
  unfold SliceRepository.rules
  cases isRules : repo.permissions.lookup principalID with
  | none => exact Slice.nil_apart slice
  | some rules => exact isolated.apart principalID other rules slice different.symm isRules found

/-- The rules of a principal are apart from what callers have. -/
theorem Isolated.rules_lent {repo : SliceRepository} (isolated : Isolated repo)
    (principalID : String) (given : Slice) (member : given ∈ repo.lent) :
    (repo.rules principalID).Apart given := by
  unfold SliceRepository.rules
  cases isRules : repo.permissions.lookup principalID with
  | none => exact Slice.nil_apart given
  | some rules => exact isolated.lentApart principalID rules isRules given member

/-- The slices after a grant: the one that has been appended to, and the others. -/
theorem lookup_grantPermission (repo : SliceRepository) (principalID other : String)
    (rule : PermissionRule) (spare : List PermissionRule) (slice : Slice)
    (found : (repo.grantPermission principalID rule spare).permissions.lookup other =
      some slice) :
    (other = principalID ∧
        slice = (repo.heap.append (repo.rules principalID) rule spare).2) ∨
      (other ≠ principalID ∧ repo.permissions.lookup other = some slice) := by
  rw [SliceRepository.grantPermission] at found
  by_cases same : other = principalID
  · rw [same, AList.lookup_insert] at found
    exact Or.inl ⟨same, (Option.some_inj.mp found).symm⟩
  · rw [AList.lookup_insert_ne same] at found
    exact Or.inr ⟨same, found⟩

theorem isolated_grant (repo : SliceRepository) (principalID : String) (rule : PermissionRule)
    (spare : List PermissionRule) (isolated : Isolated repo) :
    Isolated (repo.grantPermission principalID rule spare) := by
  have appendedApart (other : String) (slice : Slice) (different : other ≠ principalID)
      (found : repo.permissions.lookup other = some slice) :=
    ArrayHeap.append_apart repo.heap (repo.rules principalID) slice rule spare
      (isolated.valid other slice found)
      (isolated.rules_apart principalID other slice different found)
  refine ⟨?_, ?_, ?_, ?_⟩
  · intro other slice found
    rcases lookup_grantPermission repo principalID other rule spare slice found with
      ⟨_, rfl⟩ | ⟨different, earlier⟩
    · exact (ArrayHeap.read_append _ _ rule spare (isolated.rules_valid principalID)).2
    · exact (ArrayHeap.read_append_other _ _ slice rule spare
        (isolated.valid other slice earlier)
        (isolated.rules_apart principalID other slice different earlier)).2
  · intro given member
    exact (ArrayHeap.read_append_other _ _ given rule spare (isolated.lentValid given member)
      (isolated.rules_lent principalID given member)).2
  · intro first second firstSlice secondSlice different foundFirst foundSecond
    rcases lookup_grantPermission repo principalID first rule spare firstSlice foundFirst with
      ⟨rfl, rfl⟩ | ⟨otherFirst, earlierFirst⟩
    all_goals
      rcases lookup_grantPermission repo _ second rule spare secondSlice foundSecond with
        ⟨rfl, rfl⟩ | ⟨otherSecond, earlierSecond⟩
    · exact absurd rfl different
    · exact appendedApart second secondSlice otherSecond earlierSecond
    · exact (appendedApart first firstSlice otherFirst earlierFirst).symm
    · exact isolated.apart first second _ _ different earlierFirst earlierSecond
  · intro other slice found given member
    rcases lookup_grantPermission repo principalID other rule spare slice found with
      ⟨_, rfl⟩ | ⟨_, earlier⟩
    · exact ArrayHeap.append_apart repo.heap _ given rule spare
        (isolated.lentValid given member) (isolated.rules_lent principalID given member)
    · exact isolated.lentApart other slice earlier given member

theorem isolated_revokeAll (repo : SliceRepository) (principalID : String)
    (isolated : Isolated repo) : Isolated (repo.revokeAll principalID) := by
  have kept (other : String) (slice : Slice)
      (found : (repo.revokeAll principalID).permissions.lookup other = some slice) :
      repo.permissions.lookup other = some slice :=
    (GoMap.lookup_erase_some repo.permissions principalID other slice found).2
  exact ⟨fun other slice found => isolated.valid other slice (kept other slice found),
    isolated.lentValid,
    fun first second firstSlice secondSlice different foundFirst foundSecond =>
      isolated.apart first second firstSlice secondSlice different
        (kept first firstSlice foundFirst) (kept second secondSlice foundSecond),
    fun other slice found => isolated.lentApart other slice (kept other slice found)⟩

/-- After a call of `GetPermissions` the caller has one more slice, whose array is new. -/
theorem getPermissions_cases (repo : SliceRepository) (principalID : String)
    (isolated : Isolated repo) :
    repo.heap.Extends (repo.getPermissions principalID).2.heap (fun _ => True) ∧
      (repo.getPermissions principalID).2.permissions = repo.permissions ∧
      (repo.getPermissions principalID).2.lent =
        repo.lent ++ [(repo.getPermissions principalID).1] ∧
      (repo.getPermissions principalID).2.heap.read (repo.getPermissions principalID).1 =
        repo.heap.read (repo.rules principalID) ∧
      (repo.getPermissions principalID).2.heap.Valid (repo.getPermissions principalID).1 ∧
      ∀ slice, repo.heap.Valid slice → (repo.getPermissions principalID).1.Apart slice := by
  rw [SliceRepository.getPermissions, SliceRepository.rules]
  cases found : repo.permissions.lookup principalID with
  | none =>
    exact ⟨⟨Nat.le_refl _, fun _ _ _ => rfl⟩, rfl, rfl, rfl, ArrayHeap.valid_nil _,
      fun slice _ => Slice.nil_apart slice⟩
  | some rules =>
    have copied := ArrayHeap.read_clone repo.heap rules (isolated.valid principalID rules found)
    exact ⟨ArrayHeap.extends_clone repo.heap rules, rfl, rfl, copied.1, copied.2,
      fun slice valid => ArrayHeap.clone_apart repo.heap rules slice valid⟩

theorem isolated_get (repo : SliceRepository) (principalID : String) (isolated : Isolated repo) :
    Isolated (repo.getPermissions principalID).2 := by
  obtain ⟨extended, permissions, lent, _, answerValid, answerApart⟩ :=
    getPermissions_cases repo principalID isolated
  have valid (slice : Slice) (before : repo.heap.Valid slice) :=
    (extended.read slice before fun _ _ => trivial).2
  refine ⟨?_, ?_, ?_, ?_⟩
  · rw [permissions]
    exact fun other slice found => valid slice (isolated.valid other slice found)
  · rw [lent]
    intro given member
    rcases List.mem_append.mp member with earlier | last
    · exact valid given (isolated.lentValid given earlier)
    · rw [List.mem_singleton.mp last]
      exact answerValid
  · rw [permissions]
    exact isolated.apart
  · rw [permissions, lent]
    intro other slice found given member
    rcases List.mem_append.mp member with earlier | last
    · exact isolated.lentApart other slice found given earlier
    · rw [List.mem_singleton.mp last]
      exact (answerApart slice (isolated.valid other slice found)).symm

theorem isolated_write (repo : SliceRepository) (array index : Nat) (rule : PermissionRule)
    (isolated : Isolated repo) :
    Isolated { repo with heap := repo.heap.write array index rule } where
  valid principalID slice found :=
    ArrayHeap.valid_write repo.heap array index rule slice (isolated.valid principalID slice found)
  lentValid given member :=
    ArrayHeap.valid_write repo.heap array index rule given (isolated.lentValid given member)
  apart := isolated.apart
  lentApart := isolated.lentApart

theorem step_isolated (repo next : SliceRepository) (event : RepositoryEvent)
    (stepped : repo.step event = some next) (isolated : Isolated repo) : Isolated next := by
  cases event with
  | grant principalID rule spare =>
    obtain rfl := Option.some_inj.mp stepped
    exact isolated_grant repo principalID rule spare isolated
  | revokeAll principalID =>
    obtain rfl := Option.some_inj.mp stepped
    exact isolated_revokeAll repo principalID isolated
  | get principalID =>
    obtain rfl := Option.some_inj.mp stepped
    exact isolated_get repo principalID isolated
  | write array index rule =>
    obtain ⟨_, rfl⟩ := step_write repo next array index rule stepped
    exact isolated_write repo array index rule isolated

/-! ### The records of the arrays -/

/-- The arrays hold the records that the grants and revocations make. -/
def Holds (repo : SliceRepository) (records : MemoryPermissionRepository) : Prop :=
  ∀ principalID, (repo.permissions.lookup principalID).map repo.heap.read =
    (records.lookup principalID).map (·.rules)

/-- The records stay when no slice of the repository changes. -/
theorem holds_of_read (repo next : SliceRepository) (records : MemoryPermissionRepository)
    (permissions : next.permissions = repo.permissions)
    (same : ∀ principalID slice, repo.permissions.lookup principalID = some slice →
      next.heap.read slice = repo.heap.read slice) (holds : Holds repo records) :
    Holds next records := by
  intro principalID
  rw [← holds principalID, permissions]
  cases found : repo.permissions.lookup principalID with
  | none => rfl
  | some slice => exact congrArg some (same principalID slice found)

theorem read_rules (repo : SliceRepository) (records : MemoryPermissionRepository)
    (principalID : String) (holds : Holds repo records) :
    repo.heap.read (repo.rules principalID) = (getPermissions records principalID).rules := by
  have same := holds principalID
  unfold SliceRepository.rules getPermissions
  cases found : repo.permissions.lookup principalID with
  | none =>
    rw [found] at same
    rw [Option.map_eq_none_iff.mp same.symm]
    rfl
  | some slice =>
    rw [found] at same
    obtain ⟨bundle, isBundle, read⟩ := Option.map_eq_some_iff.mp same.symm
    rw [isBundle]
    exact read.symm

theorem rules_grantPermission (records : MemoryPermissionRepository) (principalID : String)
    (rule : PermissionRule) :
    ((Authz.grantPermission records principalID rule).lookup principalID).map (·.rules) =
      some ((getPermissions records principalID).rules ++ [rule]) := by
  rw [Authz.grantPermission, AList.lookup_insert, getPermissions]
  cases records.lookup principalID <;> rfl

theorem step_holds (repo next : SliceRepository) (event : RepositoryEvent)
    (records : MemoryPermissionRepository) (stepped : repo.step event = some next)
    (isolated : Isolated repo) (holds : Holds repo records) : Holds next (event.apply records) := by
  cases event with
  | grant principalID rule spare =>
    obtain rfl := Option.some_inj.mp stepped
    intro other
    by_cases same : other = principalID
    · rw [same, RepositoryEvent.apply, rules_grantPermission, ← read_rules repo records _ holds,
        SliceRepository.grantPermission, AList.lookup_insert]
      exact congrArg some (ArrayHeap.read_append repo.heap _ rule spare
        (isolated.rules_valid principalID)).1
    · rw [RepositoryEvent.apply, Authz.grantPermission, AList.lookup_insert_ne same, ← holds other,
        SliceRepository.grantPermission, AList.lookup_insert_ne same]
      cases found : repo.permissions.lookup other with
      | none => rfl
      | some slice =>
        exact congrArg some (ArrayHeap.read_append_other repo.heap _ slice rule spare
          (isolated.valid other slice found)
          (isolated.rules_apart principalID other slice same found)).1
  | revokeAll principalID =>
    obtain rfl := Option.some_inj.mp stepped
    intro other
    by_cases same : other = principalID
    · rw [same, RepositoryEvent.apply, Authz.revokeAll, SliceRepository.revokeAll,
        AList.lookup_erase, AList.lookup_erase]
      rfl
    · rw [RepositoryEvent.apply, Authz.revokeAll, AList.lookup_erase_ne same, ← holds other,
        SliceRepository.revokeAll, AList.lookup_erase_ne same]
  | get principalID =>
    obtain rfl := Option.some_inj.mp stepped
    obtain ⟨extended, permissions, _⟩ := getPermissions_cases repo principalID isolated
    exact holds_of_read repo _ records permissions (fun other slice found =>
      (extended.read slice (isolated.valid other slice found) fun _ _ => trivial).1) holds
  | write array index rule =>
    obtain ⟨⟨slice, member, isArray⟩, rfl⟩ := step_write repo next array index rule stepped
    refine holds_of_read repo _ records rfl (fun other rules found => ?_) holds
    -- The array is a caller's, so it is not one of the repository.
    exact ArrayHeap.read_write_other repo.heap array index rule rules
      (isolated.valid other rules found) fun isRules =>
        isolated.lentApart other rules found slice member array isRules isArray

/-- A slice that a caller has, with its elements. -/
structure Answered (slice : Slice) (rules : List PermissionRule) (repo : SliceRepository) :
    Prop where
  isolated : Isolated repo
  given : slice ∈ repo.lent
  read : repo.heap.read slice = rules

/-- Only a write to its array changes what a caller has. -/
theorem step_answered (slice : Slice) (rules : List PermissionRule) (repo next : SliceRepository)
    (event : RepositoryEvent)
    (unwritten : ∀ array index rule, slice.array = some array → event ≠ .write array index rule)
    (stepped : repo.step event = some next) (answered : Answered slice rules repo) :
    Answered slice rules next := by
  have valid := answered.isolated.lentValid slice answered.given
  refine ⟨step_isolated repo next event stepped answered.isolated, ?_, ?_⟩
  · cases event with
    | grant principalID rule spare =>
      obtain rfl := Option.some_inj.mp stepped
      exact answered.given
    | revokeAll principalID =>
      obtain rfl := Option.some_inj.mp stepped
      exact answered.given
    | get principalID =>
      obtain rfl := Option.some_inj.mp stepped
      obtain ⟨_, _, lent, _⟩ := getPermissions_cases repo principalID answered.isolated
      rw [lent]
      exact List.mem_append_left _ answered.given
    | write array index rule =>
      obtain ⟨_, rfl⟩ := step_write repo next array index rule stepped
      exact answered.given
  · rw [← answered.read]
    cases event with
    | grant principalID rule spare =>
      obtain rfl := Option.some_inj.mp stepped
      exact (ArrayHeap.read_append_other repo.heap _ slice rule spare valid
        (answered.isolated.rules_lent principalID slice answered.given)).1
    | revokeAll principalID =>
      obtain rfl := Option.some_inj.mp stepped
      rfl
    | get principalID =>
      obtain rfl := Option.some_inj.mp stepped
      obtain ⟨extended, _⟩ := getPermissions_cases repo principalID answered.isolated
      exact (extended.read slice valid fun _ _ => trivial).1
    | write array index rule =>
      obtain ⟨_, rfl⟩ := step_write repo next array index rule stepped
      exact ArrayHeap.read_write_other repo.heap array index rule slice valid fun isArray =>
        unwritten array index rule isArray rfl

theorem run_holds (events : List RepositoryEvent) (final : SliceRepository)
    (run : Runs.exec SliceRepository.step .empty events = some final) :
    Isolated final ∧ Holds final (recordsAfter events) := by
  refine Runs.exec_histories SliceRepository.step .empty
    (fun past repo => Isolated repo ∧ Holds repo (recordsAfter past))
    ⟨isolated_empty, fun _ => rfl⟩ ?_ events final run
  intro past repo event next _ stepped ⟨isolated, holds⟩
  rw [recordsAfter_concat]
  exact ⟨step_isolated repo next event stepped isolated,
    step_holds repo next event (recordsAfter past) stepped isolated holds⟩

/-- Whatever callers write to the slices they are given, the arrays of the repository hold the
records of the grants and revocations so far. An answer is the bundle of those before it, and
stays so as long as nobody writes to its array. -/
theorem answer_isolated (before after : List RepositoryEvent) (principalID : String)
    (reached final : SliceRepository)
    (run : Runs.exec SliceRepository.step .empty before = some reached)
    (rest : Runs.exec SliceRepository.step (reached.getPermissions principalID).2 after =
      some final)
    (unwritten : ∀ array index rule, (reached.getPermissions principalID).1.array = some array →
      .write array index rule ∉ after) :
    final.heap.read (reached.getPermissions principalID).1 =
        (getPermissions (recordsAfter before) principalID).rules ∧
      ∀ other, (final.permissions.lookup other).map final.heap.read =
        ((recordsAfter (before ++ .get principalID :: after)).lookup other).map (·.rules) := by
  obtain ⟨isolated, holds⟩ := run_holds before reached run
  obtain ⟨_, _, lent, read, _⟩ := getPermissions_cases reached principalID isolated
  have answered : Answered (reached.getPermissions principalID).1
      (getPermissions (recordsAfter before) principalID).rules
      (reached.getPermissions principalID).2 :=
    ⟨isolated_get reached principalID isolated, by rw [lent]; simp,
      read.trans (read_rules reached _ principalID holds)⟩
  refine ⟨(Runs.exec_keeps SliceRepository.step (Answered _ _)
    (fun event => ∀ array index rule, (reached.getPermissions principalID).1.array = some array →
      event ≠ .write array index rule)
    (fun repo event next guard stepped => step_answered _ _ repo next event guard stepped)
    _ final after ?_ rest answered).read, ?_⟩
  · intro event member array index rule isArray isWrite
    exact unwritten array index rule isArray (isWrite ▸ member)
  · exact (run_holds _ final (Runs.exec_append_of SliceRepository.step .empty reached final before
      (.get principalID :: after) run rest)).2

/-- A caller overwrites its answer between two grants that share an array. -/
theorem overwritten_answer_isolated :
    let read : PermissionRule := ⟨"order:read", "order", "*", "", .permit⟩
    let write : PermissionRule := ⟨"order:write", "order", "*", "", .permit⟩
    let forged : PermissionRule := ⟨"*", "*", "*", "", .permit⟩
    let before : List RepositoryEvent :=
      [.grant "user_42" read [read, read], .get "user_42", .write 1 0 forged,
        .grant "user_42" write []]
    let after : List RepositoryEvent := [.get "user_42", .write 3 1 forged, .revokeAll "user_42"]
    ∃ reached final, Runs.exec SliceRepository.step .empty before = some reached ∧
      Runs.exec SliceRepository.step (reached.getPermissions "user_42").2 after = some final ∧
      final.heap.read (reached.getPermissions "user_42").1 = [read, write] := by
  intro read write forged before after
  refine ⟨_, _, rfl, rfl, ?_⟩
  refine (answer_isolated before after "user_42" _ _ rfl rfl ?_).1
  · intro array index rule isArray member
    obtain rfl : 2 = array := Option.some_inj.mp isArray
    simp [after] at member

/-! ### The memory cache and its arrays -/

/-- The slices that the cache was given to keep, and the slices of the callers. -/
structure SliceCache where
  heap : ArrayHeap UInt8
  stored : List (String × Slice)
  held : List Slice

namespace SliceCache

/-- Callers always have the nil slice. -/
def empty : SliceCache := ⟨.empty, [], [.nil]⟩

/-- Keeps a copy of the bytes. -/
def set (cache : SliceCache) (key : String) (value : Slice) : Option CacheError × SliceCache :=
  if key = "" then (some .invalidKey, cache)
  else
    (none,
      { cache with
        heap := (cache.heap.clone value).1
        stored := cache.stored ++ [(key, (cache.heap.clone value).2)] })

/-- Returns a copy of the bytes of an entry. Whether there is one is for the eviction of the cache
to decide. -/
def get (cache : SliceCache) (key : String) (found : Option Slice) :
    Except CacheError Slice × SliceCache :=
  if key = "" then (.error .invalidKey, cache)
  else
    match found with
    | none => (.error .cacheMiss, cache)
    | some bytes =>
      (.ok (cache.heap.clone bytes).2,
        { cache with
          heap := (cache.heap.clone bytes).1
          held := cache.held ++ [(cache.heap.clone bytes).2] })

/-- A call either fails and changes nothing, or returns a copy of the entry. -/
theorem get_cases (cache : SliceCache) (key : String) (found : Option Slice) :
    (∃ error, cache.get key found = (.error error, cache)) ∨
      key ≠ "" ∧ ∃ bytes, found = some bytes ∧
        cache.get key found = (.ok (cache.heap.clone bytes).2,
          { cache with
            heap := (cache.heap.clone bytes).1
            held := cache.held ++ [(cache.heap.clone bytes).2] }) := by
  by_cases invalid : key = ""
  · exact Or.inl ⟨.invalidKey, if_pos invalid⟩
  · cases found with
    | none => exact Or.inl ⟨.cacheMiss, if_neg invalid⟩
    | some bytes => exact Or.inr ⟨invalid, bytes, rfl, if_neg invalid⟩

end SliceCache

/-- A caller makes an array, calls the cache or writes to an array it has. -/
inductive SliceEvent where
  | make (bytes : List UInt8)
  | set (key : String) (value : Slice)
  | get (key : String) (found : Option Slice)
  | write (array index : Nat) (byte : UInt8)

/-- A caller passes and writes only what it has, and an entry is found only under the key it was
stored under. -/
def SliceCache.step (cache : SliceCache) : SliceEvent → Option SliceCache
  | .make bytes =>
    some { cache with
      heap := (cache.heap.make bytes).1
      held := cache.held ++ [⟨some (cache.heap.make bytes).2, bytes.length⟩] }
  | .set key value => if value ∈ cache.held then some (cache.set key value).2 else none
  | .get key found =>
    if ∀ bytes ∈ found, (key, bytes) ∈ cache.stored then some (cache.get key found).2 else none
  | .write array index byte =>
    if cache.held.any (·.array = some array) then
      some { cache with heap := cache.heap.write array index byte }
    else none

/-- Callers have no array of the cache, and each entry has the bytes that a `Set` was given. -/
structure Stored (past : List SliceEvent) (cache : SliceCache) : Prop where
  heldValid : ∀ slice ∈ cache.held, cache.heap.Valid slice
  valid : ∀ entry ∈ cache.stored, cache.heap.Valid entry.2
  apart : ∀ entry ∈ cache.stored, ∀ slice ∈ cache.held, entry.2.Apart slice
  origin : ∀ entry ∈ cache.stored, ∃ earlier value later source,
    past = earlier ++ .set entry.1 value :: later ∧
      Runs.exec SliceCache.step .empty earlier = some source ∧
      cache.heap.read entry.2 = source.heap.read value

theorem stored_empty : Stored [] .empty where
  heldValid slice member := by
    rw [List.mem_singleton.mp member]
    exact ArrayHeap.valid_nil _
  valid entry member := by cases member
  apart entry member := by cases member
  origin entry member := by cases member

/-- The entries stay as they are when the heap keeps them and callers get only new arrays. -/
theorem stored_of_kept (past : List SliceEvent) (event : SliceEvent) (cache next : SliceCache)
    (stored : Stored past cache) (same : next.stored = cache.stored)
    (kept : ∀ entry ∈ cache.stored, next.heap.read entry.2 = cache.heap.read entry.2 ∧
      next.heap.Valid entry.2)
    (held : ∀ slice ∈ next.held, next.heap.Valid slice ∧
      ∀ entry ∈ cache.stored, entry.2.Apart slice) :
    Stored (past ++ [event]) next := by
  refine ⟨fun slice member => (held slice member).1, ?_, ?_, ?_⟩
  · rw [same]
    exact fun entry member => (kept entry member).2
  · rw [same]
    exact fun entry member slice isHeld => (held slice isHeld).2 entry member
  · rw [same]
    intro entry member
    obtain ⟨earlier, value, later, source, split, ran, read⟩ := stored.origin entry member
    exact ⟨earlier, value, later ++ [event], source, by simp [split], ran,
      (kept entry member).1.trans read⟩

theorem stored_make (past : List SliceEvent) (event : SliceEvent) (cache : SliceCache)
    (bytes : List UInt8) (length : Nat) (fits : length ≤ bytes.length)
    (stored : Stored past cache) :
    Stored (past ++ [event])
      { cache with
        heap := (cache.heap.make bytes).1
        held := cache.held ++ [⟨some (cache.heap.make bytes).2, length⟩] } := by
  have extended := ArrayHeap.extends_make cache.heap bytes
  refine stored_of_kept past event cache _ stored rfl (fun entry member =>
    extended.read entry.2 (stored.valid entry member) fun _ _ => trivial) ?_
  intro slice member
  rcases List.mem_append.mp member with earlier | last
  · exact ⟨(extended.read slice (stored.heldValid slice earlier) fun _ _ => trivial).2,
      fun entry isStored => stored.apart entry isStored slice earlier⟩
  · obtain rfl := List.mem_singleton.mp last
    exact ⟨ArrayHeap.valid_made cache.heap bytes length fits, fun entry isStored =>
      (ArrayHeap.made_apart cache.heap length entry.2 (stored.valid entry isStored)).symm⟩

/-- An event that changes nothing. -/
theorem stored_same (past : List SliceEvent) (event : SliceEvent) (cache : SliceCache)
    (stored : Stored past cache) : Stored (past ++ [event]) cache :=
  stored_of_kept past event cache cache stored rfl
    (fun entry member => ⟨rfl, stored.valid entry member⟩)
    fun slice member => ⟨stored.heldValid slice member,
      fun entry isStored => stored.apart entry isStored slice member⟩

theorem stored_set (past : List SliceEvent) (cache : SliceCache) (key : String) (value : Slice)
    (ran : Runs.exec SliceCache.step .empty past = some cache) (member : value ∈ cache.held)
    (stored : Stored past cache) :
    Stored (past ++ [.set key value]) (cache.set key value).2 := by
  rw [SliceCache.set]
  split_ifs with invalid
  · exact stored_same past _ cache stored
  have kept (slice : Slice) (valid : cache.heap.Valid slice) :=
    ArrayHeap.read_clone_other cache.heap value slice valid
  obtain ⟨copied, copyValid⟩ :=
    ArrayHeap.read_clone cache.heap value (stored.heldValid value member)
  refine ⟨fun slice isHeld => (kept slice (stored.heldValid slice isHeld)).2, ?_, ?_, ?_⟩
  all_goals
    intro entry isStored
    rcases List.mem_append.mp isStored with earlier | last
  · exact (kept entry.2 (stored.valid entry earlier)).2
  · obtain rfl := List.mem_singleton.mp last
    exact copyValid
  · exact stored.apart entry earlier
  · obtain rfl := List.mem_singleton.mp last
    exact fun slice isHeld =>
      ArrayHeap.clone_apart cache.heap value slice (stored.heldValid slice isHeld)
  · obtain ⟨before, first, later, source, split, reached, read⟩ := stored.origin entry earlier
    exact ⟨before, first, later ++ [.set key value], source, by simp [split], reached,
      (kept entry.2 (stored.valid entry earlier)).1.trans read⟩
  · obtain rfl := List.mem_singleton.mp last
    exact ⟨past, value, [], cache, rfl, ran, copied⟩

theorem stored_get (past : List SliceEvent) (cache : SliceCache) (key : String)
    (found : Option Slice) (isStored : ∀ bytes ∈ found, (key, bytes) ∈ cache.stored)
    (stored : Stored past cache) :
    Stored (past ++ [.get key found]) (cache.get key found).2 := by
  rcases cache.get_cases key found with ⟨error, failed⟩ | ⟨_, bytes, rfl, returned⟩
  · rw [failed]
    exact stored_same past _ cache stored
  · rw [returned]
    exact stored_make past _ cache (cache.heap.read bytes) bytes.length
      (Nat.le_of_eq (ArrayHeap.length_read cache.heap bytes
        (stored.valid (key, bytes) (isStored bytes rfl))).symm) stored

theorem stored_write (past : List SliceEvent) (cache : SliceCache) (array index : Nat)
    (byte : UInt8) (given : Slice) (member : given ∈ cache.held)
    (isArray : given.array = some array) (stored : Stored past cache) :
    Stored (past ++ [.write array index byte])
      { cache with heap := cache.heap.write array index byte } := by
  refine stored_of_kept past _ cache _ stored rfl (fun entry isStored => ?_) fun slice isHeld =>
    ⟨ArrayHeap.valid_write cache.heap array index byte slice (stored.heldValid slice isHeld),
      fun entry isStored => stored.apart entry isStored slice isHeld⟩
  have valid := stored.valid entry isStored
  -- The array is a caller's, so no entry is in it.
  exact ⟨ArrayHeap.read_write_other cache.heap array index byte entry.2 valid fun inArray =>
      stored.apart entry isStored given member array inArray isArray,
    ArrayHeap.valid_write cache.heap array index byte entry.2 valid⟩

theorem step_stored (past : List SliceEvent) (cache next : SliceCache) (event : SliceEvent)
    (ran : Runs.exec SliceCache.step .empty past = some cache)
    (stepped : cache.step event = some next) (stored : Stored past cache) :
    Stored (past ++ [event]) next := by
  cases event with
  | make bytes =>
    obtain rfl := Option.some_inj.mp stepped
    exact stored_make past _ cache bytes bytes.length (Nat.le_refl _) stored
  | set key value =>
    obtain ⟨member, isSet⟩ := Option.ite_none_right_eq_some.mp stepped
    obtain rfl := Option.some_inj.mp isSet
    exact stored_set past cache key value ran member stored
  | get key found =>
    obtain ⟨isStored, isGet⟩ := Option.ite_none_right_eq_some.mp stepped
    obtain rfl := Option.some_inj.mp isGet
    exact stored_get past cache key found isStored stored
  | write array index byte =>
    obtain ⟨isHeld, written⟩ := Option.ite_none_right_eq_some.mp stepped
    obtain rfl := Option.some_inj.mp written
    obtain ⟨given, member, isArray⟩ := List.any_eq_true.mp isHeld
    exact stored_write past cache array index byte given member (of_decide_eq_true isArray) stored

/-- A slice that a caller has, with its bytes. -/
structure Reads (slice : Slice) (bytes : List UInt8) (cache : SliceCache) : Prop where
  valid : cache.heap.Valid slice
  read : cache.heap.read slice = bytes

/-- Only a write to its array changes what a caller has. -/
theorem step_reads (slice : Slice) (bytes : List UInt8) (cache next : SliceCache)
    (event : SliceEvent)
    (unwritten : ∀ array index byte, slice.array = some array → event ≠ .write array index byte)
    (stepped : cache.step event = some next) (reads : Reads slice bytes cache) :
    Reads slice bytes next := by
  have cloned (value : Slice) :=
    ArrayHeap.read_clone_other cache.heap value slice reads.valid
  cases event with
  | make made =>
    obtain rfl := Option.some_inj.mp stepped
    obtain ⟨same, valid⟩ := (ArrayHeap.extends_make cache.heap made).read slice reads.valid
      fun _ _ => trivial
    exact ⟨valid, same.trans reads.read⟩
  | set key value =>
    obtain ⟨_, isSet⟩ := Option.ite_none_right_eq_some.mp stepped
    obtain rfl := Option.some_inj.mp isSet
    rw [SliceCache.set]
    split_ifs
    · exact reads
    · exact ⟨(cloned value).2, (cloned value).1.trans reads.read⟩
  | get key found =>
    obtain ⟨_, isGet⟩ := Option.ite_none_right_eq_some.mp stepped
    obtain rfl := Option.some_inj.mp isGet
    rcases cache.get_cases key found with ⟨error, failed⟩ | ⟨_, value, rfl, returned⟩
    · rw [failed]
      exact reads
    · rw [returned]
      exact ⟨(cloned value).2, (cloned value).1.trans reads.read⟩
  | write array index byte =>
    obtain ⟨_, written⟩ := Option.ite_none_right_eq_some.mp stepped
    obtain rfl := Option.some_inj.mp written
    refine ⟨ArrayHeap.valid_write cache.heap array index byte slice reads.valid, ?_⟩
    rw [← reads.read]
    exact ArrayHeap.read_write_other cache.heap array index byte slice reads.valid fun isArray =>
      unwritten array index byte isArray rfl

/-- What a `Get` returns are the bytes of an earlier `Set` of the key, as they were when it was
called. Neither the caller of the `Set` nor any receiver can change them in the cache, and the
answer stays as it is until somebody writes to it. -/
theorem cached_bytes_isolated (before after : List SliceEvent) (key : String)
    (found : Option Slice) (reached answered final : SliceCache) (answer : Slice)
    (run : Runs.exec SliceCache.step .empty before = some reached)
    (stepped : reached.step (.get key found) = some answered)
    (got : (reached.get key found).1 = .ok answer)
    (rest : Runs.exec SliceCache.step answered after = some final)
    (unwritten : ∀ array index byte, answer.array = some array →
      .write array index byte ∉ after) :
    key ≠ "" ∧ ∃ earlier value later source, before = earlier ++ .set key value :: later ∧
      Runs.exec SliceCache.step .empty earlier = some source ∧
      final.heap.read answer = source.heap.read value := by
  have stored : Stored before reached :=
    Runs.exec_histories SliceCache.step .empty Stored stored_empty
      (fun past cache event next ran stepped => step_stored past cache next event ran stepped)
      before reached run
  obtain ⟨isStored, isGet⟩ := Option.ite_none_right_eq_some.mp stepped
  obtain rfl := Option.some_inj.mp isGet
  rcases reached.get_cases key found with ⟨error, failed⟩ | ⟨valid, bytes, rfl, returned⟩
  · rw [failed] at got
    cases got
  rw [returned] at got rest
  obtain rfl := Except.ok.inj got
  have member := isStored bytes rfl
  obtain ⟨earlier, value, later, source, split, ran, read⟩ := stored.origin _ member
  obtain ⟨copied, copyValid⟩ := ArrayHeap.read_clone reached.heap bytes (stored.valid _ member)
  refine ⟨valid, earlier, value, later, source, split, ran, ?_⟩
  refine (Runs.exec_keeps SliceCache.step (Reads (reached.heap.clone bytes).2 _)
    (fun event => ∀ array index byte, (reached.heap.clone bytes).2.array = some array →
      event ≠ .write array index byte)
    (fun cache event next guard stepped => step_reads _ _ cache next event guard stepped)
    _ final after ?_ rest ⟨copyValid, copied.trans read⟩).read
  intro event inAfter array index byte isArray isWrite
  exact unwritten array index byte isArray (isWrite ▸ inAfter)

/-- The caller of a `Set` reuses its buffer, and a receiver overwrites its answer. -/
theorem reused_buffer_isolated :
    let found : Option Slice := some ⟨some 1, 2⟩
    let before : List SliceEvent :=
      [.make [1, 2], .set "perm:user_42" ⟨some 0, 2⟩, .write 0 0 9, .get "perm:user_42" found,
        .write 2 1 7]
    ∃ reached answered answer, Runs.exec SliceCache.step .empty before = some reached ∧
      reached.step (.get "perm:user_42" found) = some answered ∧
      (reached.get "perm:user_42" found).1 = .ok answer ∧ answered.heap.read answer = [1, 2] ∧
      ∃ earlier value later source, before = earlier ++ .set "perm:user_42" value :: later ∧
        Runs.exec SliceCache.step .empty earlier = some source ∧
        answered.heap.read answer = source.heap.read value := by
  intro found before
  have observed : ((Runs.exec SliceCache.step .empty before).bind fun reached =>
      (reached.step (.get "perm:user_42" found)).bind fun answered =>
        ((reached.get "perm:user_42" found).1.toOption).map answered.heap.read) =
      some [1, 2] := by
    decide +kernel
  obtain ⟨reached, run, observed⟩ := Option.bind_eq_some_iff.mp observed
  obtain ⟨answered, stepped, observed⟩ := Option.bind_eq_some_iff.mp observed
  obtain ⟨answer, got, read⟩ := Option.map_eq_some_iff.mp observed
  have returned : (reached.get "perm:user_42" found).1 = .ok answer := by
    cases result : (reached.get "perm:user_42" found).1 with
    | error error => rw [result] at got; cases got
    | ok value => rw [result] at got; exact congrArg _ (Option.some_inj.mp got)
  exact ⟨reached, answered, answer, run, stepped, returned, read,
    (cached_bytes_isolated before [] "perm:user_42" found reached answered answered answer run
      stepped returned rfl fun _ _ _ _ member => nomatch member).2⟩

end SharedGo.Authz
