/-
This file proves what revocation promises through the read-through permission
cache. A check of a permission is a sequence of steps: it reads the cache, on a
miss reads the repository and writes the cache, and evaluates the bundle it has.
Any number of checks interleave with grants, revocations and evictions.

A check that read the repository before a revocation and writes the cache after
the eviction puts the revoked bundle back, and later checks are allowed by it.
When no check does that, no check that starts after the eviction is allowed.
-/

import SharedGo.BundleJson
import SharedGo.Policy
import SharedGo.Threads

namespace SharedGo.Authz

open SharedGo Text

/-! ### The repository and the cache -/

/-- The rules of each principal that has any. -/
abbrev MemoryPermissionRepository := GoMap String PrincipalPermissions

/-- The bundle of a principal; one without records has no rules. -/
def getPermissions (repository : MemoryPermissionRepository) (principalID : String) :
    PrincipalPermissions :=
  match repository.lookup principalID with
  | none => ⟨principalID, []⟩
  | some bundle => ⟨principalID, bundle.rules⟩

def grantPermission (repository : MemoryPermissionRepository) (principalID : String)
    (rule : PermissionRule) : MemoryPermissionRepository :=
  let bundle := (repository.lookup principalID).getD ⟨principalID, []⟩
  repository.insert principalID { bundle with rules := bundle.rules ++ [rule] }

def revokeAll (repository : MemoryPermissionRepository) (principalID : String) :
    MemoryPermissionRepository :=
  repository.erase principalID

theorem getPermissions_of_absent (repository : MemoryPermissionRepository) (subject : String)
    (absent : repository.lookup subject = none) :
    (getPermissions repository subject).rules = [] := by
  rw [getPermissions, absent]

theorem absent_erase (repository : MemoryPermissionRepository) (subject other : String)
    (absent : repository.lookup subject = none) :
    (revokeAll repository other).lookup subject = none := by
  by_cases same : subject = other
  · subst same
    exact AList.lookup_erase subject repository
  · rw [revokeAll, AList.lookup_erase_ne same, absent]

/-- The cache key of a subject's bundle. -/
def cacheKey (subject : String) : String := "perm:" ++ subject

theorem cacheKey_inj (first second : String) : cacheKey first = cacheKey second ↔ first = second :=
  String.append_right_inj "perm:"

/-! ### Checks and their steps -/

/-- A call of `PARCHandler.Handle`. -/
structure HandleCall where
  principal : Authn.Principal
  requirement : PARCRequirement
  evalCtx : EvaluationContext

def HandleCall.subject (call : HandleCall) : String := call.principal.subject

/-- Where a call stands: before its cache read, before its repository read, before its cache
write, before its evaluation, or returned. -/
inductive Phase where
  | started
  | missed
  | fetched (bundle : PrincipalPermissions)
  | loaded (bundle : PrincipalPermissions)
  | returned (allowed : Bool)

/-- The shared state, and each call that has started. -/
structure CacheState where
  repository : MemoryPermissionRepository
  cache : GoMap String String
  calls : Threads HandleCall Phase

/-- The verdict of a call, once it has returned. -/
def CacheState.verdict (state : CacheState) (id : Nat) : Option Bool :=
  match state.calls id with
  | some (_, .returned allowed) => some allowed
  | _ => none

/-- A call moves to its next phase. -/
def CacheState.advance (state : CacheState) (id : Nat) (call : HandleCall) (phase : Phase) :
    CacheState :=
  { state with calls := state.calls.advance id call phase }

/-- The steps of the calls, and what happens around them. -/
inductive CacheEvent where
  | start (id : Nat) (call : HandleCall)
  | cacheGet (id : Nat)
  | repositoryGet (id : Nat)
  | cacheSet (id : Nat)
  | evaluate (id : Nat)
  | grant (subject : String) (rule : PermissionRule)
  | revokeAll (subject : String)
  | evict (subject : String)

/-- The call an event starts, if any. -/
def CacheEvent.starts : CacheEvent → Option (Nat × HandleCall)
  | .start id call => some (id, call)
  | _ => none

section Steps

variable [CaseMapping] [BundleCodec]

/-- What the cache read finds: a bundle, or a miss when there is no entry or it does not
decode. -/
def CacheState.cached (state : CacheState) (subject : String) : Option PrincipalPermissions :=
  (state.cache.lookup (cacheKey subject)).bind BundleCodec.unmarshal

/-- The next step of a call, in the order of its phases. -/
def CacheState.step (state : CacheState) : CacheEvent → Option CacheState
  | .start id call =>
    match state.calls id with
    | none => some (state.advance id call .started)
    | some _ => none
  | .cacheGet id =>
    match state.calls id with
    | some (call, .started) =>
      match state.cached call.subject with
      | some bundle => some (state.advance id call (.loaded bundle))
      | none => some (state.advance id call .missed)
    | _ => none
  | .repositoryGet id =>
    match state.calls id with
    | some (call, .missed) =>
      some (state.advance id call (.fetched (getPermissions state.repository call.subject)))
    | _ => none
  | .cacheSet id =>
    match state.calls id with
    | some (call, .fetched bundle) =>
      some { state.advance id call (.loaded bundle) with
        cache := state.cache.insert (cacheKey call.subject) (BundleCodec.marshal bundle) }
    | _ => none
  | .evaluate id =>
    match state.calls id with
    | some (call, .loaded bundle) =>
      some (state.advance id call (.returned
        (bundle.evaluate (call.requirement.request call.principal call.evalCtx)).allowed))
    | _ => none
  | .grant subject rule =>
    some { state with repository := grantPermission state.repository subject rule }
  | .revokeAll subject =>
    some { state with repository := Authz.revokeAll state.repository subject }
  | .evict subject => some { state with cache := state.cache.erase (cacheKey subject) }

/-- What a step does, by its event. -/
inductive Stepped (state : CacheState) : CacheEvent → CacheState → Prop
  | start (id : Nat) (call : HandleCall) (fresh : state.calls id = none) :
      Stepped state (.start id call) (state.advance id call .started)
  | hit (id : Nat) (call : HandleCall) (bundle : PrincipalPermissions)
      (current : state.calls id = some (call, .started))
      (found : state.cached call.subject = some bundle) :
      Stepped state (.cacheGet id) (state.advance id call (.loaded bundle))
  | miss (id : Nat) (call : HandleCall) (current : state.calls id = some (call, .started)) :
      Stepped state (.cacheGet id) (state.advance id call .missed)
  | fetch (id : Nat) (call : HandleCall) (current : state.calls id = some (call, .missed)) :
      Stepped state (.repositoryGet id)
        (state.advance id call (.fetched (getPermissions state.repository call.subject)))
  | fill (id : Nat) (call : HandleCall) (bundle : PrincipalPermissions)
      (current : state.calls id = some (call, .fetched bundle)) :
      Stepped state (.cacheSet id)
        { state.advance id call (.loaded bundle) with
          cache := state.cache.insert (cacheKey call.subject) (BundleCodec.marshal bundle) }
  | evaluate (id : Nat) (call : HandleCall) (bundle : PrincipalPermissions)
      (current : state.calls id = some (call, .loaded bundle)) :
      Stepped state (.evaluate id)
        (state.advance id call (.returned
          (bundle.evaluate (call.requirement.request call.principal call.evalCtx)).allowed))
  | grant (subject : String) (rule : PermissionRule) :
      Stepped state (.grant subject rule)
        { state with repository := grantPermission state.repository subject rule }
  | revokeAll (subject : String) :
      Stepped state (.revokeAll subject)
        { state with repository := Authz.revokeAll state.repository subject }
  | evict (subject : String) :
      Stepped state (.evict subject)
        { state with cache := state.cache.erase (cacheKey subject) }

theorem stepped_of_step (state next : CacheState) (event : CacheEvent)
    (step : state.step event = some next) : Stepped state event next := by
  cases event with
  | start id call =>
    simp only [CacheState.step] at step
    split at step
    · rename_i fresh
      exact Option.some_inj.mp step ▸ .start id call fresh
    · cases step
  | cacheGet id =>
    simp only [CacheState.step] at step
    split at step
    · rename_i call current
      split at step
      · rename_i bundle found
        exact Option.some_inj.mp step ▸ .hit id call bundle current found
      · exact Option.some_inj.mp step ▸ .miss id call current
    · cases step
  | repositoryGet id =>
    simp only [CacheState.step] at step
    split at step
    · rename_i call current
      exact Option.some_inj.mp step ▸ .fetch id call current
    · cases step
  | cacheSet id =>
    simp only [CacheState.step] at step
    split at step
    · rename_i call bundle current
      exact Option.some_inj.mp step ▸ .fill id call bundle current
    · cases step
  | evaluate id =>
    simp only [CacheState.step] at step
    split at step
    · rename_i call bundle current
      exact Option.some_inj.mp step ▸ .evaluate id call bundle current
    · cases step
  | grant subject rule => exact Option.some_inj.mp step ▸ .grant subject rule
  | revokeAll subject => exact Option.some_inj.mp step ▸ .revokeAll subject
  | evict subject => exact Option.some_inj.mp step ▸ .evict subject

end Steps

/-! ### Before the revocation -/

section Revocation

variable [CaseMapping] [BundleCodec]

/-- A call was started, and its repository read done, by events of the run. -/
def Traced (events : List CacheEvent) (id : Nat) (call : HandleCall) (phase : Phase) : Prop :=
  .start id call ∈ events ∧ ∀ bundle, phase = .fetched bundle → .repositoryGet id ∈ events

theorem step_traced (events : List CacheEvent) (state : CacheState) (event : CacheEvent)
    (next : CacheState) (member : event ∈ events) (step : state.step event = some next)
    (traced : state.calls.Every (Traced events)) : next.calls.Every (Traced events) := by
  cases stepped_of_step state next event step with
  | start id call fresh =>
    exact Threads.every_advance _ _ id call _ traced ⟨member, by simp⟩
  | hit id call bundle current found =>
    exact Threads.every_advance _ _ id call _ traced ⟨(traced id call _ current).1, by simp⟩
  | miss id call current =>
    exact Threads.every_advance _ _ id call _ traced ⟨(traced id call _ current).1, by simp⟩
  | fetch id call current =>
    exact Threads.every_advance _ _ id call _ traced
      ⟨(traced id call _ current).1, fun _ _ => member⟩
  | fill id call bundle current =>
    exact Threads.every_advance _ _ id call _ traced ⟨(traced id call _ current).1, by simp⟩
  | evaluate id call bundle current =>
    exact Threads.every_advance _ _ id call _ traced ⟨(traced id call _ current).1, by simp⟩
  | grant subject rule => exact traced
  | revokeAll subject => exact traced
  | evict subject => exact traced

/-! ### Between the revocation and the eviction -/

/-- A call of the subject that has read the repository holds no rules, or is stale. -/
def FetchedNothing (subject : String) (stale : Nat → Prop) (id : Nat) (call : HandleCall)
    (phase : Phase) : Prop :=
  call.subject = subject → ∀ bundle, phase = .fetched bundle → bundle.rules = [] ∨ stale id

/-- The state after a revocation: the repository has no record of the subject, and what calls
have read of it before is stale. -/
structure Revoked (subject : String) (stale : Nat → Prop) (state : CacheState) : Prop where
  absent : state.repository.lookup subject = none
  fetched : state.calls.Every (FetchedNothing subject stale)

theorem step_revoked (subject : String) (stale : Nat → Prop) (state : CacheState)
    (event : CacheEvent) (next : CacheState) (ungranted : ∀ rule, event ≠ .grant subject rule)
    (step : state.step event = some next) (revoked : Revoked subject stale state) :
    Revoked subject stale next := by
  obtain ⟨absent, fetched⟩ := revoked
  cases stepped_of_step state next event step with
  | start id call fresh =>
    exact ⟨absent, Threads.every_advance _ _ id call _ fetched (by simp [FetchedNothing])⟩
  | hit id call bundle current found =>
    exact ⟨absent, Threads.every_advance _ _ id call _ fetched (by simp [FetchedNothing])⟩
  | miss id call current =>
    exact ⟨absent, Threads.every_advance _ _ id call _ fetched (by simp [FetchedNothing])⟩
  | fetch id call current =>
    refine ⟨absent, Threads.every_advance _ _ id call _ fetched ?_⟩
    rintro rfl _ ⟨⟩
    exact Or.inl (getPermissions_of_absent state.repository call.subject absent)
  | fill id call bundle current =>
    exact ⟨absent, Threads.every_advance _ _ id call _ fetched (by simp [FetchedNothing])⟩
  | evaluate id call bundle current =>
    exact ⟨absent, Threads.every_advance _ _ id call _ fetched (by simp [FetchedNothing])⟩
  | grant other rule =>
    refine ⟨?_, fetched⟩
    have different : subject ≠ other := by
      rintro rfl
      exact ungranted rule rfl
    exact (AList.lookup_insert_ne different).trans absent
  | revokeAll other => exact ⟨absent_erase state.repository subject other absent, fetched⟩
  | evict other => exact ⟨absent, fetched⟩

/-! ### After the eviction -/

/-- A call of the subject that is not an old one has no rules, and is not allowed. -/
def NewHarmless (subject : String) (old : Nat → Prop) (id : Nat) (call : HandleCall)
    (phase : Phase) : Prop :=
  call.subject = subject → ¬ old id →
    (∀ bundle, phase = .loaded bundle → bundle.rules = []) ∧ phase ≠ .returned true

/-- The state after the eviction: the cache has no rules of the subject, and neither has a call
that started since. -/
structure Evicted (subject : String) (stale old : Nat → Prop) (state : CacheState) : Prop where
  revoked : Revoked subject stale state
  cached : ∀ bundle, state.cached subject = some bundle → bundle.rules = []
  harmless : state.calls.Every (NewHarmless subject old)

omit [CaseMapping] in
/-- Only a write under its own key changes what the cache has of a subject. -/
theorem cached_insert (state : CacheState) (subject : String) (call : HandleCall)
    (written bundle : PrincipalPermissions)
    (found : ((state.cache.insert (cacheKey call.subject) (BundleCodec.marshal written)).lookup
      (cacheKey subject)).bind BundleCodec.unmarshal = some bundle) :
    (call.subject = subject ∧ bundle = written) ∨ state.cached subject = some bundle := by
  obtain ⟨text, lookup, decoded⟩ := Option.bind_eq_some_iff.mp found
  rcases GoMap.lookup_insert_cases state.cache _ _ _ _ lookup with ⟨key, rfl⟩ | earlier
  · rw [BundleCodec.unmarshal_marshal, Option.some_inj] at decoded
    exact Or.inl ⟨((cacheKey_inj _ _).mp key).symm, decoded.symm⟩
  · exact Or.inr (Option.bind_eq_some_iff.mpr ⟨text, earlier, decoded⟩)

omit [CaseMapping] in
/-- An eviction leaves what the cache has of a subject, or nothing. -/
theorem cached_erase (state : CacheState) (subject other : String) (bundle : PrincipalPermissions)
    (found : ((state.cache.erase (cacheKey other)).lookup (cacheKey subject)).bind
      BundleCodec.unmarshal = some bundle) :
    other ≠ subject ∧ state.cached subject = some bundle := by
  obtain ⟨text, lookup, decoded⟩ := Option.bind_eq_some_iff.mp found
  obtain ⟨different, earlier⟩ := GoMap.lookup_erase_some state.cache _ _ _ lookup
  exact ⟨fun equal => different (congrArg cacheKey equal.symm),
    Option.bind_eq_some_iff.mpr ⟨text, earlier, decoded⟩⟩

theorem step_evicted (subject : String) (stale old : Nat → Prop) (state : CacheState)
    (event : CacheEvent) (next : CacheState) (ungranted : ∀ rule, event ≠ .grant subject rule)
    (unfilled : ∀ id, stale id → event ≠ .cacheSet id) (step : state.step event = some next)
    (evicted : Evicted subject stale old state) : Evicted subject stale old next := by
  have revoked := step_revoked subject stale state event next ungranted step evicted.revoked
  obtain ⟨⟨absent, fetched⟩, cached, harmless⟩ := evicted
  cases stepped_of_step state next event step with
  | start id call fresh =>
    exact ⟨revoked, cached, Threads.every_advance _ _ id call _ harmless (by simp [NewHarmless])⟩
  | hit id call bundle current found =>
    refine ⟨revoked, cached, Threads.every_advance _ _ id call _ harmless ?_⟩
    rintro rfl recent
    refine ⟨?_, by simp⟩
    rintro _ ⟨⟩
    exact cached bundle found
  | miss id call current =>
    exact ⟨revoked, cached, Threads.every_advance _ _ id call _ harmless (by simp [NewHarmless])⟩
  | fetch id call current =>
    exact ⟨revoked, cached, Threads.every_advance _ _ id call _ harmless (by simp [NewHarmless])⟩
  | fill id call bundle current =>
    have empty (same : call.subject = subject) : bundle.rules = [] := by
      rcases fetched id call _ current same bundle rfl with empty | isStale
      · exact empty
      · exact absurd rfl (unfilled id isStale)
    refine ⟨revoked, ?_, Threads.every_advance _ _ id call _ harmless ?_⟩
    · intro other found
      rcases cached_insert state subject call bundle other found with ⟨same, rfl⟩ | earlier
      · exact empty same
      · exact cached other earlier
    · intro same recent
      refine ⟨?_, by simp⟩
      rintro _ ⟨⟩
      exact empty same
  | evaluate id call bundle current =>
    refine ⟨revoked, cached, Threads.every_advance _ _ id call _ harmless ?_⟩
    intro same recent
    refine ⟨by simp, ?_⟩
    have empty := (harmless id call _ current same recent).1 bundle rfl
    rw [evaluate_no_rules bundle _ empty]
    simp
  | grant other rule => exact ⟨revoked, cached, harmless⟩
  | revokeAll other => exact ⟨revoked, cached, harmless⟩
  | evict other =>
    refine ⟨revoked, ?_, harmless⟩
    intro bundle found
    exact cached bundle (cached_erase state subject other bundle found).2

/-! ### Whole runs -/

/-- A state without calls. -/
def CacheState.initial (repository : MemoryPermissionRepository) (cache : GoMap String String) :
    CacheState :=
  ⟨repository, cache, fun _ => none⟩

/-- A step moves one call, or none. -/
theorem step_moves (state : CacheState) (event : CacheEvent) (next : CacheState)
    (step : state.step event = some next) :
    Threads.Moves state.calls event.starts next.calls := by
  cases stepped_of_step state next event step with
  | start id call fresh => exact .start id call _ fresh
  | hit id call bundle current found => exact .move id call _ _ current
  | miss id call current => exact .move id call _ _ current
  | fetch id call current => exact .move id call _ _ current
  | fill id call bundle current => exact .move id call _ _ current
  | evaluate id call bundle current => exact .move id call _ _ current
  | grant subject rule => exact .stay
  | revokeAll subject => exact .stay
  | evict subject => exact .stay

/-- A call of the subject that reads the repository in a run. -/
def StaleCall (events : List CacheEvent) (subject : String) (id : Nat) : Prop :=
  ∃ call, .start id call ∈ events ∧ call.subject = subject ∧ .repositoryGet id ∈ events

/-- What a run leaves at a revocation: the subject is revoked, and stale are its calls that have
read the repository before. -/
theorem revoked_of_run (repository : MemoryPermissionRepository) (cache : GoMap String String)
    (events : List CacheEvent) (subject : String) (state next : CacheState)
    (run : Runs.exec CacheState.step (.initial repository cache) events = some state)
    (step : state.step (.revokeAll subject) = some next) :
    Revoked subject (StaleCall events subject) next := by
  have traced := Runs.exec_keeps CacheState.step
    (fun state => state.calls.Every (Traced events)) (· ∈ events) (step_traced events) _ state
    events (fun _ member => member) run (fun _ _ _ current => by cases current)
  obtain rfl := Option.some_inj.mp step
  refine ⟨AList.lookup_erase subject state.repository, ?_⟩
  intro id call phase current same bundle isFetched
  obtain ⟨started, read⟩ := traced id call phase current
  exact Or.inr ⟨call, started, same, read bundle isFetched⟩

/-- An eviction after a revocation; old are the calls that have started by then. -/
theorem evicted_of_evict (subject : String) (stale : Nat → Prop) (state next : CacheState)
    (step : state.step (.evict subject) = some next) (revoked : Revoked subject stale state) :
    Evicted subject stale (fun id => next.calls id ≠ none) next := by
  obtain rfl := Option.some_inj.mp step
  refine ⟨⟨revoked.absent, revoked.fetched⟩, ?_, ?_⟩
  · intro bundle found
    exact absurd rfl (cached_erase state subject subject bundle found).1
  · intro id call phase current _ recent
    rw [not_not.mp recent] at current
    cases current

omit [CaseMapping] in
theorem verdict_of_evicted (subject : String) (stale old : Nat → Prop) (state : CacheState)
    (evicted : Evicted subject stale old state) (id : Nat) (call : HandleCall)
    (known : state.calls.caller id = some call) (same : call.subject = subject)
    (recent : ¬ old id) : state.verdict id ≠ some true := by
  intro allowed
  unfold CacheState.verdict at allowed
  split at allowed
  · rename_i started verdict current
    obtain rfl := Threads.caller_eq state.calls id started call _ current known
    obtain rfl := Option.some_inj.mp allowed
    exact (evicted.harmless id call _ current same recent).2 rfl
  · cases allowed

/-- Instant revocation: once the permissions of a subject are revoked and its cache entry is
then evicted, no check that starts afterwards is allowed, in every run without a new grant in
which no check that read the repository before the revocation writes the cache after the
eviction. -/
theorem revocation_instant (repository : MemoryPermissionRepository)
    (cache : GoMap String String) (before between after : List CacheEvent) (subject : String)
    (final : CacheState)
    (run : Runs.exec CacheState.step (.initial repository cache)
      (before ++ .revokeAll subject :: (between ++ .evict subject :: after)) = some final)
    (ungranted : ∀ rule, .grant subject rule ∉ between ++ after)
    (unfilled : ∀ id call, .start id call ∈ before → call.subject = subject →
      .repositoryGet id ∈ before → .cacheSet id ∉ after)
    (id : Nat) (call : HandleCall) (recent : .start id call ∈ after)
    (same : call.subject = subject) : final.verdict id ≠ some true := by
  obtain ⟨running, ranBefore, run⟩ := Runs.exec_append _ _ _ _ _ run
  obtain ⟨revokedState, revoke, run⟩ := Runs.exec_cons _ _ _ _ _ run
  obtain ⟨settled, ranBetween, run⟩ := Runs.exec_append _ _ _ _ _ run
  obtain ⟨evictedState, evict, ranAfter⟩ := Runs.exec_cons _ _ _ _ _ run
  have revoked : Revoked subject (StaleCall before subject) settled :=
    Runs.exec_keeps CacheState.step (Revoked subject (StaleCall before subject))
      (fun event => ∀ rule, event ≠ .grant subject rule)
      (step_revoked subject (StaleCall before subject)) _ _ between
      (fun event member rule equal =>
        ungranted rule (List.mem_append_left _ (equal ▸ member)))
      ranBetween (revoked_of_run repository cache before subject running _ ranBefore revoke)
  have evicted := evicted_of_evict subject _ settled evictedState evict revoked
  have evictedFinal :=
    Runs.exec_keeps CacheState.step _
      (fun event => (∀ rule, event ≠ .grant subject rule) ∧
        ∀ id, StaleCall before subject id → event ≠ .cacheSet id)
      (fun state event next guarded => step_evicted subject _ _ state event next
        guarded.1 guarded.2) _ _ after
      (fun event member =>
        ⟨fun rule equal => ungranted rule (List.mem_append_right _ (equal ▸ member)),
          fun id ⟨call, started, same, read⟩ equal =>
            unfilled id call started same read (equal ▸ member)⟩)
      ranAfter evicted
  obtain ⟨fresh, known⟩ := Threads.caller_of_start CacheState.step CacheState.calls
    CacheEvent.starts step_moves (.start id call) id call rfl evictedState final after ranAfter
    recent
  exact verdict_of_evicted subject _ _ final evictedFinal id call known same (not_not.mpr fresh)

end Revocation

/-! ### Two runs -/

/-- A call of one subject that asks to read an order. -/
def readOrder (subject : String) : HandleCall where
  principal := ⟨subject, "", .unknown, [], [], ∅⟩
  requirement := ⟨"read", "order"⟩
  evalCtx := { EvaluationContext.zero with resource := ⟨"order", "ord_101", "", ∅⟩ }

def permitReadOrder : PermissionRule := ⟨"read", "order", "*", "", .permit⟩

/-- The events of a check that misses the cache. -/
def missingCheck (id : Nat) (subject : String) : List CacheEvent :=
  [.start id (readOrder subject), .cacheGet id, .repositoryGet id, .cacheSet id, .evaluate id]

/-- A run in which each check is done before the next event of the revocation. -/
def sequentialRun : List CacheEvent :=
  (.grant "user_42" permitReadOrder :: missingCheck 0 "user_42") ++
    .revokeAll "user_42" :: ([] ++ .evict "user_42" :: missingCheck 1 "user_42")

theorem sequentialRun_denied :
    ∃ final, Runs.exec (@CacheState.step asciiCase jsonCodec) (.initial ∅ ∅) sequentialRun =
        some final ∧
      final.verdict 0 = some true ∧ final.verdict 1 ≠ some true := by
  have verdict : (Runs.exec (@CacheState.step asciiCase jsonCodec) (.initial ∅ ∅)
      sequentialRun).map (fun final => final.verdict 0) = some (some true) := by
    decide +kernel
  obtain ⟨final, run, allowed⟩ := Option.map_eq_some_iff.mp verdict
  refine ⟨final, run, allowed, ?_⟩
  refine @revocation_instant asciiCase jsonCodec ∅ ∅ _ [] _ "user_42" final run ?_ ?_ 1
    (readOrder "user_42") ?_ rfl
  · simp [missingCheck]
  · simp [missingCheck]
  · simp [missingCheck]

/-- A check that has read the repository, and not yet written the cache, at the revocation; it
writes the cache after the eviction, and another check starts then. -/
def overtakenRun : List CacheEvent :=
  [.grant "user_42" permitReadOrder, .start 0 (readOrder "user_42"), .cacheGet 0,
      .repositoryGet 0] ++
    .revokeAll "user_42" :: ([] ++ .evict "user_42" ::
      [.cacheSet 0, .start 1 (readOrder "user_42"), .cacheGet 1, .evaluate 1])

/-- The check that starts after the revocation and the eviction is allowed. -/
theorem overtakenRun_allowed :
    ∃ final, Runs.exec (@CacheState.step asciiCase jsonCodec) (.initial ∅ ∅) overtakenRun =
        some final ∧
      (∀ rule, .grant "user_42" rule ∉
        ([.cacheSet 0, .start 1 (readOrder "user_42"), .cacheGet 1, .evaluate 1] :
          List CacheEvent)) ∧
      final.verdict 1 = some true := by
  have verdict : (Runs.exec (@CacheState.step asciiCase jsonCodec) (.initial ∅ ∅)
      overtakenRun).map (fun final => final.verdict 1) = some (some true) := by
    decide +kernel
  obtain ⟨final, run, allowed⟩ := Option.map_eq_some_iff.mp verdict
  exact ⟨final, run, by simp, allowed⟩

end SharedGo.Authz
