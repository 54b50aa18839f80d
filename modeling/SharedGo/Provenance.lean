/-
This file proves where the decisions of permission checks come from. The checks of
any number of principals interleave with grants and revocations, over a cache of
which only this is known: it returns bytes that were once stored under the key, or
it misses. Entries can be evicted or expire at any point, and old ones come back.

Still every decision is the evaluation of one bundle of the principal that asks, as
the repository held it at one moment of the run: the rules granted to the principal
since its permissions were last revoked, in the order of the grants. The invariant
ties the repository to the events so far, and each stored entry and each bundle in
the hands of a check to some moment among them.
-/

import Mathlib.Data.List.DropRight
import SharedGo.PermissionCache

namespace SharedGo.Authz

open SharedGo Text

/-! ### Histories -/

/-- The steps of checks and of the repository. A read of the cache says what the cache returns,
which is a miss also when an entry was evicted or has expired. -/
inductive HistoryEvent where
  | start (id : Nat) (call : HandleCall)
  | cacheGet (id : Nat) (bytes : Option String)
  | repositoryGet (id : Nat)
  | cacheSet (id : Nat)
  | evaluate (id : Nat)
  | grant (subject : String) (rule : PermissionRule)
  | revokeAll (subject : String)

/-- The repository, everything that was ever stored in the cache with its key, and the calls that
have started. -/
structure HistoryState where
  repository : MemoryPermissionRepository
  stored : List (String × String)
  calls : Threads HandleCall Phase

def HistoryState.initial : HistoryState := ⟨∅, [], fun _ => none⟩

def HistoryState.advance (state : HistoryState) (id : Nat) (call : HandleCall) (phase : Phase) :
    HistoryState :=
  { state with calls := state.calls.advance id call phase }

/-- The decision of a call, once it has returned. -/
def HistoryState.verdict (state : HistoryState) (id : Nat) : Option Bool :=
  match state.calls id with
  | some (_, .returned allowed) => some allowed
  | _ => none

theorem returned_of_verdict (state : HistoryState) (id : Nat) (allowed : Bool)
    (verdict : state.verdict id = some allowed) :
    ∃ call, state.calls id = some (call, .returned allowed) := by
  unfold HistoryState.verdict at verdict
  split at verdict
  · rename_i call returned current
    obtain rfl := Option.some_inj.mp verdict
    exact ⟨call, current⟩
  · cases verdict

section Histories

variable [CaseMapping] [BundleCodec]

/-- The decision of a call on a bundle. -/
def HandleCall.decision (call : HandleCall) (bundle : PrincipalPermissions) : Bool :=
  (bundle.evaluate (call.requirement.request call.principal call.evalCtx)).allowed

/-- The phase after a read of the cache: bytes that do not decode are a miss. -/
def Phase.afterCacheGet (bytes : Option String) : Phase :=
  match bytes.bind BundleCodec.unmarshal with
  | some bundle => .loaded bundle
  | none => .missed

def HistoryState.step (state : HistoryState) : HistoryEvent → Option HistoryState
  | .start id call =>
    match state.calls id with
    | none => some (state.advance id call .started)
    | some _ => none
  | .cacheGet id bytes =>
    match state.calls id with
    | some (call, .started) =>
      if bytes.all fun text => (cacheKey call.subject, text) ∈ state.stored then
        some (state.advance id call (.afterCacheGet bytes))
      else none
    | _ => none
  | .repositoryGet id =>
    match state.calls id with
    | some (call, .missed) =>
      some (state.advance id call (.fetched (getPermissions state.repository call.subject)))
    | _ => none
  | .cacheSet id =>
    match state.calls id with
    | some (call, .fetched bundle) =>
      some { state.advance id call (.loaded bundle) with
        stored := (cacheKey call.subject, BundleCodec.marshal bundle) :: state.stored }
    | _ => none
  | .evaluate id =>
    match state.calls id with
    | some (call, .loaded bundle) =>
      some (state.advance id call (.returned (call.decision bundle)))
    | _ => none
  | .grant subject rule =>
    some { state with repository := grantPermission state.repository subject rule }
  | .revokeAll subject =>
    some { state with repository := Authz.revokeAll state.repository subject }

/-- What a step does, by its event. -/
inductive HistoryStepped (state : HistoryState) : HistoryEvent → HistoryState → Prop
  | start (id : Nat) (call : HandleCall) (fresh : state.calls id = none) :
      HistoryStepped state (.start id call) (state.advance id call .started)
  | cacheGet (id : Nat) (call : HandleCall) (bytes : Option String)
      (current : state.calls id = some (call, .started))
      (known : ∀ text, bytes = some text → (cacheKey call.subject, text) ∈ state.stored) :
      HistoryStepped state (.cacheGet id bytes) (state.advance id call (.afterCacheGet bytes))
  | repositoryGet (id : Nat) (call : HandleCall)
      (current : state.calls id = some (call, .missed)) :
      HistoryStepped state (.repositoryGet id)
        (state.advance id call (.fetched (getPermissions state.repository call.subject)))
  | cacheSet (id : Nat) (call : HandleCall) (bundle : PrincipalPermissions)
      (current : state.calls id = some (call, .fetched bundle)) :
      HistoryStepped state (.cacheSet id)
        { state.advance id call (.loaded bundle) with
          stored := (cacheKey call.subject, BundleCodec.marshal bundle) :: state.stored }
  | evaluate (id : Nat) (call : HandleCall) (bundle : PrincipalPermissions)
      (current : state.calls id = some (call, .loaded bundle)) :
      HistoryStepped state (.evaluate id)
        (state.advance id call (.returned (call.decision bundle)))
  | grant (subject : String) (rule : PermissionRule) :
      HistoryStepped state (.grant subject rule)
        { state with repository := grantPermission state.repository subject rule }
  | revokeAll (subject : String) :
      HistoryStepped state (.revokeAll subject)
        { state with repository := Authz.revokeAll state.repository subject }

theorem historyStepped_of_step (state next : HistoryState) (event : HistoryEvent)
    (step : state.step event = some next) : HistoryStepped state event next := by
  cases event with
  | start id call =>
    simp only [HistoryState.step] at step
    split at step
    · rename_i fresh
      exact Option.some_inj.mp step ▸ .start id call fresh
    · cases step
  | cacheGet id bytes =>
    simp only [HistoryState.step] at step
    split at step
    · rename_i call current
      split at step
      · rename_i known
        refine Option.some_inj.mp step ▸ .cacheGet id call bytes current ?_
        rintro text rfl
        simpa using known
      · cases step
    · cases step
  | repositoryGet id =>
    simp only [HistoryState.step] at step
    split at step
    · rename_i call current
      exact Option.some_inj.mp step ▸ .repositoryGet id call current
    · cases step
  | cacheSet id =>
    simp only [HistoryState.step] at step
    split at step
    · rename_i call bundle current
      exact Option.some_inj.mp step ▸ .cacheSet id call bundle current
    · cases step
  | evaluate id =>
    simp only [HistoryState.step] at step
    split at step
    · rename_i call bundle current
      exact Option.some_inj.mp step ▸ .evaluate id call bundle current
    · cases step
  | grant subject rule => exact Option.some_inj.mp step ▸ .grant subject rule
  | revokeAll subject => exact Option.some_inj.mp step ▸ .revokeAll subject

/-! ### The rules a principal has -/

def HistoryEvent.revokes (subject : String) : HistoryEvent → Bool
  | .revokeAll other => other = subject
  | _ => false

def HistoryEvent.granted (subject : String) : HistoryEvent → Option PermissionRule
  | .grant other rule => if other = subject then some rule else none
  | _ => none

/-- The rules granted to a subject since its permissions were last revoked, in the order of the
grants. -/
def grantedRules (subject : String) (events : List HistoryEvent) : List PermissionRule :=
  (events.rtakeWhile fun event => !event.revokes subject).filterMap (HistoryEvent.granted subject)

omit [CaseMapping] [BundleCodec] in
theorem grantedRules_append (subject : String) (past : List HistoryEvent) (event : HistoryEvent) :
    grantedRules subject (past ++ [event]) =
      if event.revokes subject then []
      else grantedRules subject past ++ (event.granted subject).toList := by
  unfold grantedRules
  rw [List.rtakeWhile_concat]
  cases event.revokes subject with
  | true => simp
  | false =>
    cases granted : event.granted subject with
    | none => simp [granted]
    | some rule => simp [granted]

/-- The bundle of a subject after some events. -/
def bundleAfter (subject : String) (moment : List HistoryEvent) : PrincipalPermissions :=
  ⟨subject, grantedRules subject moment⟩

omit [CaseMapping] [BundleCodec] in
theorem getPermissions_grantPermission (repository : MemoryPermissionRepository)
    (subject other : String) (rule : PermissionRule) :
    getPermissions (grantPermission repository other rule) subject =
      if other = subject then ⟨subject, (getPermissions repository subject).rules ++ [rule]⟩
      else getPermissions repository subject := by
  unfold getPermissions grantPermission
  rw [GoMap.lookup_insert_eq]
  by_cases same : other = subject
  · subst same
    cases repository.lookup other with
    | none => simp
    | some bundle => simp
  · rw [if_neg same, if_neg (Ne.symm same)]

omit [CaseMapping] [BundleCodec] in
theorem getPermissions_revokeAll (repository : MemoryPermissionRepository)
    (subject other : String) :
    getPermissions (revokeAll repository other) subject =
      if other = subject then ⟨subject, []⟩ else getPermissions repository subject := by
  by_cases same : other = subject
  · subst same
    rw [getPermissions, revokeAll, AList.lookup_erase, if_pos rfl]
  · rw [getPermissions, revokeAll, AList.lookup_erase_ne (Ne.symm same), if_neg same,
      getPermissions]

/-! ### What is known of the past -/

/-- A bundle of a subject as it was at some moment. -/
def Held (past : List HistoryEvent) (subject : String) (bundle : PrincipalPermissions) : Prop :=
  ∃ moment, moment <+: past ∧ bundle = bundleAfter subject moment

/-- What is known of a call in a phase: the bundle it has was held, and it returns the decision on a
bundle that was held before. -/
def Accounted (past : List HistoryEvent) (id : Nat) (call : HandleCall) : Phase → Prop
  | .started => True
  | .missed => True
  | .fetched bundle => Held past call.subject bundle
  | .loaded bundle => Held past call.subject bundle
  | .returned allowed => ∃ before after bundle, past = before ++ .evaluate id :: after ∧
      Held before call.subject bundle ∧ allowed = call.decision bundle

/-- The state after some events. -/
structure Recorded (past : List HistoryEvent) (state : HistoryState) : Prop where
  repository : ∀ subject, getPermissions state.repository subject = bundleAfter subject past
  stored : ∀ entry ∈ state.stored, ∃ subject bundle, Held past subject bundle ∧
    entry = (cacheKey subject, BundleCodec.marshal bundle)
  calls : state.calls.Every (Accounted past)

omit [CaseMapping] [BundleCodec] in
theorem Held.append {past : List HistoryEvent} {subject : String} {bundle : PrincipalPermissions}
    (held : Held past subject bundle) (event : HistoryEvent) :
    Held (past ++ [event]) subject bundle := by
  obtain ⟨moment, earlier, isBundle⟩ := held
  exact ⟨moment, earlier.trans (List.prefix_append past [event]), isBundle⟩

omit [BundleCodec] in
theorem Accounted.append {past : List HistoryEvent} {id : Nat} {call : HandleCall} {phase : Phase}
    (accounted : Accounted past id call phase) (event : HistoryEvent) :
    Accounted (past ++ [event]) id call phase := by
  cases phase with
  | started => trivial
  | missed => trivial
  | fetched bundle => exact Held.append accounted event
  | loaded bundle => exact Held.append accounted event
  | returned allowed =>
    obtain ⟨before, after, bundle, split, held, decided⟩ := accounted
    refine ⟨before, after ++ [event], bundle, ?_, held, decided⟩
    rw [split, List.append_assoc, List.cons_append]

/-- The repository has the rules of the events so far. -/
theorem step_repository (past : List HistoryEvent) (state : HistoryState) (event : HistoryEvent)
    (next : HistoryState) (step : state.step event = some next)
    (recorded : ∀ subject, getPermissions state.repository subject = bundleAfter subject past)
    (subject : String) :
    getPermissions next.repository subject = bundleAfter subject (past ++ [event]) := by
  rw [bundleAfter, grantedRules_append]
  cases historyStepped_of_step state next event step with
  | grant other rule =>
    rw [getPermissions_grantPermission, recorded]
    by_cases same : other = subject
    · simp [HistoryEvent.revokes, HistoryEvent.granted, same, bundleAfter]
    · simp [HistoryEvent.revokes, HistoryEvent.granted, same, bundleAfter]
  | revokeAll other =>
    rw [getPermissions_revokeAll, recorded]
    by_cases same : other = subject
    · simp [HistoryEvent.revokes, same]
    · simp [HistoryEvent.revokes, HistoryEvent.granted, same, bundleAfter]
  | _ =>
    refine (recorded subject).trans ?_
    simp only [HistoryEvent.revokes, HistoryEvent.granted, Option.toList_none, List.append_nil]
    rfl

/-- Bytes that were stored for a subject decode to a bundle that it held. -/
theorem held_of_stored (past : List HistoryEvent) (state : HistoryState)
    (recorded : Recorded past state) (subject text : String) (bundle : PrincipalPermissions)
    (known : (cacheKey subject, text) ∈ state.stored)
    (decoded : BundleCodec.unmarshal text = some bundle) : Held past subject bundle := by
  obtain ⟨owner, written, held, entry⟩ := recorded.stored _ known
  obtain ⟨key, rfl⟩ := Prod.mk.inj entry
  obtain rfl := (cacheKey_inj _ _).1 key
  rw [BundleCodec.unmarshal_marshal, Option.some_inj] at decoded
  exact decoded ▸ held

theorem step_recorded (past : List HistoryEvent) (state : HistoryState) (event : HistoryEvent)
    (next : HistoryState) (step : state.step event = some next)
    (recorded : Recorded past state) : Recorded (past ++ [event]) next := by
  have repository := step_repository past state event next step recorded.repository
  have stored : ∀ entry ∈ state.stored, ∃ subject bundle, Held (past ++ [event]) subject bundle ∧
      entry = (cacheKey subject, BundleCodec.marshal bundle) := by
    intro entry member
    obtain ⟨subject, bundle, held, isEntry⟩ := recorded.stored entry member
    exact ⟨subject, bundle, held.append event, isEntry⟩
  have calls : state.calls.Every (Accounted (past ++ [event])) :=
    fun id call phase current => (recorded.calls id call phase current).append event
  cases historyStepped_of_step state next event step with
  | start id call fresh =>
    exact ⟨repository, stored, Threads.every_advance _ _ id call _ calls trivial⟩
  | cacheGet id call bytes current known =>
    refine ⟨repository, stored, Threads.every_advance _ _ id call _ calls ?_⟩
    unfold Phase.afterCacheGet
    split
    · rename_i bundle found
      obtain ⟨text, isBytes, decoded⟩ := Option.bind_eq_some_iff.mp found
      exact (held_of_stored past state recorded call.subject text bundle (known text isBytes)
        decoded).append _
    · trivial
  | repositoryGet id call current =>
    refine ⟨repository, stored, Threads.every_advance _ _ id call _ calls ?_⟩
    exact ⟨past, List.prefix_append past _, recorded.repository call.subject⟩
  | cacheSet id call bundle current =>
    have held : Held (past ++ [.cacheSet id]) call.subject bundle := calls id call _ current
    refine ⟨repository, ?_, Threads.every_advance _ _ id call _ calls held⟩
    rintro entry (_ | ⟨_, earlier⟩)
    · exact ⟨call.subject, bundle, held, rfl⟩
    · exact stored entry earlier
  | evaluate id call bundle current =>
    refine ⟨repository, stored, Threads.every_advance _ _ id call _ calls ?_⟩
    exact ⟨past, [], bundle, rfl, recorded.calls id call _ current, rfl⟩
  | grant subject rule => exact ⟨repository, stored, calls⟩
  | revokeAll subject => exact ⟨repository, stored, calls⟩

theorem recorded_initial : Recorded [] HistoryState.initial where
  repository _ := rfl
  stored entry member := by cases member
  calls id call phase current := by cases current

theorem recorded_of_run (events : List HistoryEvent) (final : HistoryState)
    (run : Runs.exec HistoryState.step .initial events = some final) : Recorded events final :=
  Runs.exec_records HistoryState.step Recorded step_recorded _ final [] events run recorded_initial

/-- Every decision that a call returns is its evaluation of the bundle that the repository held for
its subject at one moment before: exactly the rules granted to the subject since its permissions
were last revoked, in the order of the grants. -/
theorem decision_provenance (events : List HistoryEvent) (final : HistoryState)
    (run : Runs.exec HistoryState.step .initial events = some final) (id : Nat) (call : HandleCall)
    (allowed : Bool) (returned : final.calls id = some (call, .returned allowed)) :
    ∃ moment rest after held, events = moment ++ rest ++ .evaluate id :: after ∧
      Runs.exec HistoryState.step .initial moment = some held ∧
      getPermissions held.repository call.subject =
        ⟨call.subject, grantedRules call.subject moment⟩ ∧
      allowed = ((getPermissions held.repository call.subject).evaluate
        (call.requirement.request call.principal call.evalCtx)).allowed := by
  obtain ⟨before, after, bundle, split, ⟨moment, ⟨rest, isBefore⟩, isBundle⟩, decided⟩ :=
    (recorded_of_run events final run).calls id call _ returned
  rw [split, ← isBefore, List.append_assoc] at run
  obtain ⟨held, ranMoment, _⟩ := Runs.exec_append _ _ _ _ _ run
  have repository := (recorded_of_run moment held ranMoment).repository call.subject
  refine ⟨moment, rest, after, held, ?_, ranMoment, repository, ?_⟩
  · rw [split, isBefore]
  · rw [decided, isBundle, repository]
    rfl

end Histories

/-! ### A check after a revocation -/

/-- The bytes of the bundle with one rule. -/
def orderBytes : String :=
  @BundleCodec.marshal jsonCodec ⟨"user_42", [permitReadOrder]⟩

/-- A check that reads the cache after a revocation, and finds the entry of an earlier one. -/
def staleHistory : List HistoryEvent :=
  [.grant "user_42" permitReadOrder, .start 0 (readOrder "user_42"), .cacheGet 0 none,
    .repositoryGet 0, .cacheSet 0, .evaluate 0, .revokeAll "user_42",
    .start 1 (readOrder "user_42"), .cacheGet 1 (some orderBytes), .evaluate 1]

/-- The decision is on the rules before the revocation. -/
theorem staleHistory_provenance :
    ∃ final, Runs.exec (@HistoryState.step asciiCase jsonCodec) .initial staleHistory =
        some final ∧
      final.verdict 1 = some true ∧
      ∃ (call : HandleCall) (moment rest after : List HistoryEvent) (held : HistoryState),
        staleHistory = moment ++ rest ++ .evaluate 1 :: after ∧
        Runs.exec (@HistoryState.step asciiCase jsonCodec) .initial moment = some held ∧
        getPermissions held.repository call.subject =
          ⟨call.subject, grantedRules call.subject moment⟩ ∧
        true = (@PrincipalPermissions.evaluate asciiCase
          (getPermissions held.repository call.subject) (call.requirement.request
            call.principal call.evalCtx)).allowed := by
  have verdict : (Runs.exec (@HistoryState.step asciiCase jsonCodec) .initial
      staleHistory).map (fun final => final.verdict 1) = some (some true) := by
    decide +kernel
  obtain ⟨final, run, allowed⟩ := Option.map_eq_some_iff.mp verdict
  obtain ⟨call, returned⟩ := returned_of_verdict final 1 true allowed
  exact ⟨final, run, allowed, call,
    @decision_provenance asciiCase jsonCodec staleHistory final run 1 call true returned⟩

end SharedGo.Authz
