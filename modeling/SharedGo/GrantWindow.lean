/-
This file bounds the age of the permissions that a check decides on. The cache
keeps a bundle for the time to live of the handler, so a change of the repository
is not seen at once, and the package speaks of a window in which grants propagate.
The checks of any number of principals interleave with grants and revocations while
time passes, over a cache of which only this is known: it returns bytes that were
stored under the key and whose time to live has not passed, or it misses.

A bundle is older than its cache entry: a check reads the repository first and
writes the cache some time later, and the entry lives from the write on. When that
write follows within a delay, a check that starts more than a time to live and a
delay after some moment decides on a bundle that the repository held at that moment
or later.
-/

import SharedGo.ParcHandler
import SharedGo.Provenance

namespace SharedGo.Authz

open SharedGo Text

/-! ### The time to live of a handler -/

/-- A handler keeps bundles for some time, never forever. -/
theorem grantTTL_pos {World : Type} (config : PARCHandlerConfig World)
    (newMemoryCacheProvider : Except String (CacheProvider World)) (handler : PARCHandler World)
    (made : newPARCHandler config newMemoryCacheProvider = .ok handler) : 0 < handler.grantTTL := by
  have positive : 0 < if config.grantTTL ≤ 0 then defaultGrantTTL else config.grantTTL := by
    split_ifs with unset
    · decide
    · exact Int.not_le.mp unset
  unfold newPARCHandler at made
  split at made
  · cases made
  · dsimp only at made
    split at made
    · exact Except.ok.inj made ▸ positive
    · exact Except.ok.inj made ▸ positive
    · cases made

/-! ### Checks in time -/

/-- Where a call stands, with the time at which it has read the repository. -/
inductive TimedPhase where
  | started
  | missed
  | fetched (bundle : PrincipalPermissions) (readAt : Int)
  | loaded (bundle : PrincipalPermissions)
  | returned (allowed : Bool)

/-- Bytes that were stored in the cache. -/
structure StoredEntry where
  key : String
  text : String
  storedAt : Int
  deriving DecidableEq

/-- The time, the repository, everything that was ever stored in the cache, and the calls that have
started. -/
structure TimedState where
  now : Int
  repository : MemoryPermissionRepository
  stored : List StoredEntry
  calls : Threads HandleCall TimedPhase

def TimedState.initial (start : Int) (repository : MemoryPermissionRepository) : TimedState :=
  ⟨start, repository, [], fun _ => none⟩

def TimedState.advance (state : TimedState) (id : Nat) (call : HandleCall) (phase : TimedPhase) :
    TimedState :=
  { state with calls := state.calls.advance id call phase }

/-- The verdict of a call, once it has returned. -/
def TimedState.verdict (state : TimedState) (id : Nat) : Option Bool :=
  match state.calls id with
  | some (_, .returned allowed) => some allowed
  | _ => none

theorem returned_of_timedVerdict (state : TimedState) (id : Nat) (call : HandleCall)
    (allowed : Bool) (known : state.calls.caller id = some call)
    (verdict : state.verdict id = some allowed) :
    state.calls id = some (call, .returned allowed) := by
  unfold TimedState.verdict at verdict
  split at verdict
  · rename_i started returned current
    obtain rfl := Option.some_inj.mp verdict
    obtain rfl := Threads.caller_eq state.calls id started call _ current known
    exact current
  · cases verdict

/-- The steps of the calls and of the repository, and the passing of time. A read of the cache says
what the cache returns, which is a miss also when an entry was not kept or was evicted. -/
inductive WindowEvent where
  | start (id : Nat) (call : HandleCall)
  | cacheGet (id : Nat) (bytes : Option String)
  | repositoryGet (id : Nat)
  | cacheSet (id : Nat)
  | evaluate (id : Nat)
  | grant (subject : String) (rule : PermissionRule)
  | revokeAll (subject : String)
  | tick (elapsed : Nat)

/-- The call an event starts, if any. -/
def WindowEvent.starts : WindowEvent → Option (Nat × HandleCall)
  | .start id call => some (id, call)
  | _ => none

section Window

variable [CaseMapping] [BundleCodec] (ttl : Duration) (delay : Nat)

/-- The bytes that the cache may return for a key: some that were stored under it, until their time
to live has passed. -/
def TimedState.mayReturn (state : TimedState) (key text : String) : Prop :=
  ∃ entry ∈ state.stored, entry.key = key ∧ entry.text = text ∧
    (ttl ≤ 0 ∨ state.now ≤ entry.storedAt + ttl)

instance (state : TimedState) (key text : String) : Decidable (state.mayReturn ttl key text) :=
  inferInstanceAs (Decidable (∃ entry ∈ state.stored, entry.key = key ∧ entry.text = text ∧
    (ttl ≤ 0 ∨ state.now ≤ entry.storedAt + ttl)))

/-- The phase after a read of the cache: bytes that do not decode are a miss. -/
def TimedPhase.afterCacheGet (bytes : Option String) : TimedPhase :=
  match bytes.bind BundleCodec.unmarshal with
  | some bundle => .loaded bundle
  | none => .missed

/-- The next step of a call. A call writes the cache at most the delay after its read of the
repository. -/
def TimedState.step (state : TimedState) : WindowEvent → Option TimedState
  | .start id call =>
    match state.calls id with
    | none => some (state.advance id call .started)
    | some _ => none
  | .cacheGet id bytes =>
    match state.calls id with
    | some (call, .started) =>
      if ∀ text ∈ bytes, state.mayReturn ttl (cacheKey call.subject) text then
        some (state.advance id call (.afterCacheGet bytes))
      else none
    | _ => none
  | .repositoryGet id =>
    match state.calls id with
    | some (call, .missed) =>
      some (state.advance id call
        (.fetched (getPermissions state.repository call.subject) state.now))
    | _ => none
  | .cacheSet id =>
    match state.calls id with
    | some (call, .fetched bundle readAt) =>
      if state.now ≤ readAt + delay then
        some { state.advance id call (.loaded bundle) with
          stored := ⟨cacheKey call.subject, BundleCodec.marshal bundle, state.now⟩ ::
            state.stored }
      else none
    | _ => none
  | .evaluate id =>
    match state.calls id with
    | some (call, .loaded bundle) =>
      some (state.advance id call (.returned (call.decision bundle)))
    | _ => none
  | .grant subject rule =>
    some { state with repository := grantPermission state.repository subject rule }
  | .revokeAll subject =>
    some { state with repository := Authz.revokeAll state.repository subject }
  | .tick elapsed => some { state with now := state.now + elapsed }

/-- What a step does, by its event. -/
inductive TimedStepped (state : TimedState) : WindowEvent → TimedState → Prop
  | start (id : Nat) (call : HandleCall) (fresh : state.calls id = none) :
      TimedStepped state (.start id call) (state.advance id call .started)
  | read (id : Nat) (call : HandleCall) (bytes : Option String)
      (current : state.calls id = some (call, .started))
      (known : ∀ text ∈ bytes, state.mayReturn ttl (cacheKey call.subject) text) :
      TimedStepped state (.cacheGet id bytes) (state.advance id call (.afterCacheGet bytes))
  | fetch (id : Nat) (call : HandleCall) (current : state.calls id = some (call, .missed)) :
      TimedStepped state (.repositoryGet id) (state.advance id call
        (.fetched (getPermissions state.repository call.subject) state.now))
  | fill (id : Nat) (call : HandleCall) (bundle : PrincipalPermissions)
      (readAt : Int) (current : state.calls id = some (call, .fetched bundle readAt))
      (prompt : state.now ≤ readAt + delay) :
      TimedStepped state (.cacheSet id)
        { state.advance id call (.loaded bundle) with
          stored := ⟨cacheKey call.subject, BundleCodec.marshal bundle, state.now⟩ ::
            state.stored }
  | evaluate (id : Nat) (call : HandleCall) (bundle : PrincipalPermissions)
      (current : state.calls id = some (call, .loaded bundle)) :
      TimedStepped state (.evaluate id)
        (state.advance id call (.returned (call.decision bundle)))
  | grant (subject : String) (rule : PermissionRule) :
      TimedStepped state (.grant subject rule)
        { state with repository := grantPermission state.repository subject rule }
  | revokeAll (subject : String) :
      TimedStepped state (.revokeAll subject)
        { state with repository := Authz.revokeAll state.repository subject }
  | tick (elapsed : Nat) :
      TimedStepped state (.tick elapsed) { state with now := state.now + elapsed }

theorem timedStepped_of_step (state next : TimedState) (event : WindowEvent)
    (step : state.step ttl delay event = some next) :
    TimedStepped ttl delay state event next := by
  cases event with
  | start id call =>
    simp only [TimedState.step] at step
    split at step
    · rename_i fresh
      exact Option.some_inj.mp step ▸ .start id call fresh
    · cases step
  | cacheGet id bytes =>
    simp only [TimedState.step] at step
    split at step
    · rename_i call current
      obtain ⟨known, isNext⟩ := Option.ite_none_right_eq_some.mp step
      exact Option.some_inj.mp isNext ▸ .read id call bytes current known
    · cases step
  | repositoryGet id =>
    simp only [TimedState.step] at step
    split at step
    · rename_i call current
      exact Option.some_inj.mp step ▸ .fetch id call current
    · cases step
  | cacheSet id =>
    simp only [TimedState.step] at step
    split at step
    · rename_i call bundle readAt current
      obtain ⟨prompt, isNext⟩ := Option.ite_none_right_eq_some.mp step
      exact Option.some_inj.mp isNext ▸ .fill id call bundle readAt current prompt
    · cases step
  | evaluate id =>
    simp only [TimedState.step] at step
    split at step
    · rename_i call bundle current
      exact Option.some_inj.mp step ▸ .evaluate id call bundle current
    · cases step
  | grant subject rule => exact Option.some_inj.mp step ▸ .grant subject rule
  | revokeAll subject => exact Option.some_inj.mp step ▸ .revokeAll subject
  | tick elapsed => exact Option.some_inj.mp step ▸ .tick elapsed

theorem timedStep_moves (state : TimedState) (event : WindowEvent) (next : TimedState)
    (step : state.step ttl delay event = some next) :
    Threads.Moves state.calls event.starts next.calls := by
  cases timedStepped_of_step ttl delay state next event step with
  | start id call fresh => exact .start id call _ fresh
  | read id call bytes current known => exact .move id call _ _ current
  | fetch id call current => exact .move id call _ _ current
  | fill id call bundle readAt current prompt => exact .move id call _ _ current
  | evaluate id call bundle current => exact .move id call _ _ current
  | grant subject rule => exact .stay
  | revokeAll subject => exact .stay
  | tick elapsed => exact .stay

/-- Time does not go back. -/
theorem now_le_of_step (state next : TimedState) (event : WindowEvent)
    (step : state.step ttl delay event = some next) : state.now ≤ next.now := by
  cases timedStepped_of_step ttl delay state next event step with
  | tick elapsed => exact Int.le_add_of_nonneg_right (Int.natCast_nonneg elapsed)
  | _ => exact le_rfl

/-! ### Entries and reads so far -/

/-- No entry and no read is of the future. -/
structure Bounded (state : TimedState) : Prop where
  entries : ∀ entry ∈ state.stored, entry.storedAt ≤ state.now
  reads : state.calls.Every fun _ _ phase =>
    ∀ bundle readAt, phase = .fetched bundle readAt → readAt ≤ state.now

omit [CaseMapping] [BundleCodec] in
theorem bounded_initial (start : Int) (repository : MemoryPermissionRepository) :
    Bounded (.initial start repository) where
  entries entry member := by cases member
  reads id call phase current := by cases current

omit [CaseMapping] in
/-- A read of the cache leaves a call with a decoded bundle or none. -/
theorem afterCacheGet_cases (bytes : Option String) :
    (∃ text bundle, bytes = some text ∧ BundleCodec.unmarshal text = some bundle ∧
        TimedPhase.afterCacheGet bytes = .loaded bundle) ∨
      TimedPhase.afterCacheGet bytes = .missed := by
  unfold TimedPhase.afterCacheGet
  split
  · rename_i bundle found
    obtain ⟨text, isBytes, decoded⟩ := Option.bind_eq_some_iff.mp found
    exact Or.inl ⟨text, bundle, isBytes, decoded, rfl⟩
  · exact Or.inr rfl

omit [CaseMapping] in
theorem afterCacheGet_ne_fetched (bytes : Option String) (bundle : PrincipalPermissions)
    (readAt : Int) : TimedPhase.afterCacheGet bytes ≠ .fetched bundle readAt := by
  rcases afterCacheGet_cases bytes with ⟨_, _, _, _, loaded⟩ | missed
  · simp [loaded]
  · simp [missed]

theorem step_bounded (state : TimedState) (event : WindowEvent) (next : TimedState)
    (step : state.step ttl delay event = some next) (bounded : Bounded state) : Bounded next := by
  obtain ⟨entries, reads⟩ := bounded
  cases timedStepped_of_step ttl delay state next event step with
  | start id call fresh => exact ⟨entries, Threads.every_advance _ _ id call _ reads (by simp)⟩
  | read id call bytes current known =>
    exact ⟨entries, Threads.every_advance _ _ id call _ reads
      fun bundle readAt isFetched => absurd isFetched (afterCacheGet_ne_fetched bytes _ _)⟩
  | fetch id call current =>
    refine ⟨entries, Threads.every_advance _ _ id call _ reads ?_⟩
    rintro bundle readAt ⟨⟩
    exact le_rfl
  | fill id call bundle readAt current prompt =>
    refine ⟨?_, Threads.every_advance _ _ id call _ reads (by simp)⟩
    rintro entry (_ | ⟨_, earlier⟩)
    · exact le_rfl
    · exact entries entry earlier
  | evaluate id call bundle current =>
    exact ⟨entries, Threads.every_advance _ _ id call _ reads (by simp)⟩
  | grant subject rule => exact ⟨entries, reads⟩
  | revokeAll subject => exact ⟨entries, reads⟩
  | tick elapsed =>
    have later : state.now ≤ state.now + elapsed := by omega
    refine ⟨fun entry member => (entries entry member).trans later, ?_⟩
    intro id call phase current bundle readAt isFetched
    exact (reads id call phase current bundle readAt isFetched).trans later

/-! ### What is known since a moment -/

section Since

variable (origin : TimedState) (subject : String)

/-- A bundle of the subject as the repository held it at some moment since the origin. -/
def HeldSince (past : List WindowEvent) (bundle : PrincipalPermissions) : Prop :=
  ∃ moment reached, moment <+: past ∧
    Runs.exec (TimedState.step ttl delay) origin moment = some reached ∧
    bundle = getPermissions reached.repository subject

/-- Bundles of the subject that are older than the origin were read by then, and stored soon
after. -/
structure Fresh (past : List WindowEvent) (state : TimedState) : Prop where
  ran : Runs.exec (TimedState.step ttl delay) origin past = some state
  reads : state.calls.Every fun _ call phase => call.subject = subject →
    ∀ bundle readAt, phase = .fetched bundle readAt →
      HeldSince ttl delay origin subject past bundle ∨ readAt ≤ origin.now
  entries : ∀ entry ∈ state.stored, entry.key = cacheKey subject →
    (∀ bundle, BundleCodec.unmarshal entry.text = some bundle →
        HeldSince ttl delay origin subject past bundle) ∨
      entry.storedAt ≤ origin.now + delay

variable {ttl delay origin subject}

theorem HeldSince.append {past : List WindowEvent} {bundle : PrincipalPermissions}
    (held : HeldSince ttl delay origin subject past bundle) (event : WindowEvent) :
    HeldSince ttl delay origin subject (past ++ [event]) bundle := by
  obtain ⟨moment, reached, earlier, ran, isBundle⟩ := held
  exact ⟨moment, reached, earlier.trans (List.prefix_append past [event]), ran, isBundle⟩

theorem heldSince_now {past : List WindowEvent} {state : TimedState}
    (ran : Runs.exec (TimedState.step ttl delay) origin past = some state) :
    HeldSince ttl delay origin subject past (getPermissions state.repository subject) :=
  ⟨past, state, List.prefix_rfl, ran, rfl⟩

variable (ttl delay origin subject)

theorem fresh_origin (bounded : Bounded origin) : Fresh ttl delay origin subject [] origin where
  ran := rfl
  reads id call phase current _ bundle readAt isFetched :=
    Or.inr (bounded.reads id call phase current bundle readAt isFetched)
  entries entry member _ :=
    Or.inr ((bounded.entries entry member).trans
      (Int.le_add_of_nonneg_right (Int.natCast_nonneg delay)))

theorem step_fresh (past : List WindowEvent) (state : TimedState) (event : WindowEvent)
    (next : TimedState) (step : state.step ttl delay event = some next)
    (fresh : Fresh ttl delay origin subject past state) :
    Fresh ttl delay origin subject (past ++ [event]) next := by
  have ran : Runs.exec (TimedState.step ttl delay) origin (past ++ [event]) = some next := by
    refine Runs.exec_append_of _ _ _ _ _ _ fresh.ran ?_
    rw [Runs.exec, step]
    rfl
  have reads : state.calls.Every fun _ call phase => call.subject = subject →
      ∀ bundle readAt, phase = .fetched bundle readAt →
        HeldSince ttl delay origin subject (past ++ [event]) bundle ∨ readAt ≤ origin.now :=
    fun id call phase current same bundle readAt isFetched =>
      (fresh.reads id call phase current same bundle readAt isFetched).imp_left (·.append event)
  have entries : ∀ entry ∈ state.stored, entry.key = cacheKey subject →
      (∀ bundle, BundleCodec.unmarshal entry.text = some bundle →
          HeldSince ttl delay origin subject (past ++ [event]) bundle) ∨
        entry.storedAt ≤ origin.now + delay :=
    fun entry member key => (fresh.entries entry member key).imp_left
      fun held bundle decoded => (held bundle decoded).append event
  cases timedStepped_of_step ttl delay state next event step with
  | start id call fresh =>
    exact ⟨ran, Threads.every_advance _ _ id call _ reads (by simp), entries⟩
  | read id call bytes current known =>
    refine ⟨ran, Threads.every_advance _ _ id call _ reads ?_, entries⟩
    exact fun _ bundle readAt isFetched =>
      absurd isFetched (afterCacheGet_ne_fetched bytes bundle readAt)
  | fetch id call current =>
    refine ⟨ran, Threads.every_advance _ _ id call _ reads ?_, entries⟩
    rintro rfl bundle readAt ⟨⟩
    exact Or.inl ((heldSince_now fresh.ran).append _)
  | fill id call bundle readAt current prompt =>
    refine ⟨ran, Threads.every_advance _ _ id call _ reads (by simp), ?_⟩
    rintro entry (_ | ⟨_, earlier⟩) key
    · rcases reads id call _ current ((cacheKey_inj _ _).mp key) bundle readAt rfl with held | early
      · refine Or.inl fun other decoded => ?_
        rw [BundleCodec.unmarshal_marshal, Option.some_inj] at decoded
        exact decoded ▸ held
      -- The bundle was read before the origin, and is written within the delay.
      · exact Or.inr (prompt.trans (by omega))
    · exact entries entry earlier key
  | evaluate id call bundle current =>
    exact ⟨ran, Threads.every_advance _ _ id call _ reads (by simp), entries⟩
  | grant other rule => exact ⟨ran, reads, entries⟩
  | revokeAll other => exact ⟨ran, reads, entries⟩
  | tick elapsed => exact ⟨ran, reads, entries⟩

/-- Once the time to live of every older entry has passed, the cache returns no other bundles. -/
theorem mayReturn_fresh (positive : 0 < ttl) (past : List WindowEvent) (state : TimedState)
    (fresh : Fresh ttl delay origin subject past state)
    (late : origin.now + ttl + delay < state.now) (text : String) (bundle : PrincipalPermissions)
    (returned : state.mayReturn ttl (cacheKey subject) text)
    (decoded : BundleCodec.unmarshal text = some bundle) :
    HeldSince ttl delay origin subject past bundle := by
  obtain ⟨entry, member, key, rfl, alive⟩ := returned
  rcases fresh.entries entry member key with held | early
  · exact held bundle decoded
  · rcases alive with forever | alive
    · exact absurd positive (Int.not_lt.mpr forever)
    · omega

/-! ### A check that starts late enough -/

/-- What is known of a call that started late enough, in each phase. -/
def Judged (call : HandleCall) (past : List WindowEvent) : TimedPhase → Prop
  | .started => True
  | .missed => True
  | .fetched bundle _ => HeldSince ttl delay origin call.subject past bundle
  | .loaded bundle => HeldSince ttl delay origin call.subject past bundle
  | .returned allowed => ∃ bundle, HeldSince ttl delay origin call.subject past bundle ∧
      allowed = call.decision bundle

/-- A late state with such a call. -/
structure LateCall (id : Nat) (call : HandleCall) (past : List WindowEvent) (state : TimedState) :
    Prop where
  fresh : Fresh ttl delay origin call.subject past state
  late : origin.now + ttl + delay < state.now
  judged : state.calls.Every fun other otherCall phase => other = id → otherCall = call →
    Judged ttl delay origin call past phase

theorem Judged.append (call : HandleCall) (past : List WindowEvent) (phase : TimedPhase)
    (judged : Judged ttl delay origin call past phase) (event : WindowEvent) :
    Judged ttl delay origin call (past ++ [event]) phase := by
  cases phase with
  | started => trivial
  | missed => trivial
  | fetched bundle readAt => exact HeldSince.append judged event
  | loaded bundle => exact HeldSince.append judged event
  | returned allowed =>
    obtain ⟨bundle, held, decided⟩ := judged
    exact ⟨bundle, held.append event, decided⟩

theorem step_lateCall (positive : 0 < ttl) (id : Nat) (call : HandleCall)
    (past : List WindowEvent) (state : TimedState) (event : WindowEvent) (next : TimedState)
    (step : state.step ttl delay event = some next)
    (lateCall : LateCall ttl delay origin id call past state) :
    LateCall ttl delay origin id call (past ++ [event]) next := by
  obtain ⟨fresh, late, judged⟩ := lateCall
  have freshNext := step_fresh ttl delay origin call.subject past state event next step fresh
  have lateNext := late.trans_le (now_le_of_step ttl delay state next event step)
  have kept : state.calls.Every fun other otherCall phase => other = id → otherCall = call →
      Judged ttl delay origin call (past ++ [event]) phase :=
    fun other otherCall phase current isID isCall =>
      (judged other otherCall phase current isID isCall).append ttl delay origin call past phase
        event
  cases timedStepped_of_step ttl delay state next event step with
  | start other otherCall fresh =>
    exact ⟨freshNext, lateNext, Threads.every_advance _ _ other otherCall _ kept
      fun _ _ => trivial⟩
  | read other otherCall bytes current known =>
    refine ⟨freshNext, lateNext, Threads.every_advance _ _ other otherCall _ kept ?_⟩
    rintro - rfl
    rcases afterCacheGet_cases bytes with ⟨text, bundle, rfl, decoded, loaded⟩ | missed
    · rw [loaded]
      exact (mayReturn_fresh ttl delay origin _ positive past state fresh late text bundle
        (known text rfl) decoded).append _
    · rw [missed]
      trivial
  | fetch other otherCall current =>
    refine ⟨freshNext, lateNext, Threads.every_advance _ _ other otherCall _ kept ?_⟩
    rintro - rfl
    exact (heldSince_now fresh.ran).append _
  | fill other otherCall bundle readAt current prompt =>
    have held := kept other otherCall _ current
    exact ⟨freshNext, lateNext, Threads.every_advance _ _ other otherCall _ kept held⟩
  | evaluate other otherCall bundle current =>
    refine ⟨freshNext, lateNext, Threads.every_advance _ _ other otherCall _ kept ?_⟩
    rintro isID rfl
    exact ⟨bundle, kept other otherCall _ current isID rfl, rfl⟩
  | grant subject rule => exact ⟨freshNext, lateNext, kept⟩
  | revokeAll subject => exact ⟨freshNext, lateNext, kept⟩
  | tick elapsed => exact ⟨freshNext, lateNext, kept⟩

/-- The call that starts in a late state. -/
theorem lateCall_of_start (positive : 0 < ttl) (id : Nat) (call : HandleCall)
    (past : List WindowEvent) (state next : TimedState)
    (step : state.step ttl delay (.start id call) = some next)
    (fresh : Fresh ttl delay origin call.subject past state)
    (late : origin.now + ttl + delay < state.now) :
    LateCall ttl delay origin id call (past ++ [.start id call]) next := by
  refine step_lateCall ttl delay origin positive id call past state _ next step
    ⟨fresh, late, ?_⟩
  cases timedStepped_of_step ttl delay state next _ step with
  | start _ _ unused =>
    rintro other otherCall phase current rfl
    rw [unused] at current
    cases current

end Since

/-! ### Changes of the repository -/

/-- Rules of a subject stay until its permissions are revoked. -/
theorem rule_kept (subject : String) (rule : PermissionRule) (state final : TimedState)
    (events : List WindowEvent)
    (run : Runs.exec (TimedState.step ttl delay) state events = some final)
    (unrevoked : .revokeAll subject ∉ events)
    (has : rule ∈ (getPermissions state.repository subject).rules) :
    rule ∈ (getPermissions final.repository subject).rules := by
  refine Runs.exec_keeps _ (fun state => rule ∈ (getPermissions state.repository subject).rules)
    (· ≠ .revokeAll subject) ?_ state final events
    (fun event member equal => unrevoked (equal ▸ member)) run has
  intro state event next guarded step has
  cases timedStepped_of_step ttl delay state next event step with
  | grant other granted =>
    rw [getPermissions_grantPermission]
    split_ifs
    · exact List.mem_append_left _ has
    · exact has
  | revokeAll other =>
    rw [getPermissions_revokeAll, if_neg fun same => guarded (congrArg _ same)]
    exact has
  | _ => exact has

/-- A subject without rules has none until one is granted. -/
theorem rules_empty_kept (subject : String) (state final : TimedState) (events : List WindowEvent)
    (run : Runs.exec (TimedState.step ttl delay) state events = some final)
    (ungranted : ∀ rule, .grant subject rule ∉ events)
    (empty : (getPermissions state.repository subject).rules = []) :
    (getPermissions final.repository subject).rules = [] := by
  refine Runs.exec_keeps _ (fun state => (getPermissions state.repository subject).rules = [])
    (fun event => ∀ rule, event ≠ .grant subject rule) ?_ state final events
    (fun event member rule equal => ungranted rule (equal ▸ member)) run empty
  intro state event next guarded step empty
  cases timedStepped_of_step ttl delay state next event step with
  | grant other granted =>
    rw [getPermissions_grantPermission,
      if_neg fun same => guarded granted (congrArg (WindowEvent.grant · granted) same)]
    exact empty
  | revokeAll other =>
    rw [getPermissions_revokeAll]
    split_ifs
    · rfl
    · exact empty
  | _ => exact empty

/-! ### Whole runs -/

/-- A check of a handler that starts more than its time to live and a delay after some moment
decides on a bundle that the repository held since: it sees every rule that the subject had then and
keeps, and is not allowed when the subject had none and was granted none. -/
theorem decision_recent {World : Type} (config : PARCHandlerConfig World)
    (newMemoryCacheProvider : Except String (CacheProvider World)) (handler : PARCHandler World)
    (made : newPARCHandler config newMemoryCacheProvider = .ok handler) (start : Int)
    (repository : MemoryPermissionRepository) (before between after : List WindowEvent)
    (origin starting final : TimedState) (id : Nat) (call : HandleCall) (allowed : Bool)
    (reachesOrigin : Runs.exec (TimedState.step handler.grantTTL delay)
      (.initial start repository) before = some origin)
    (reachesStart : Runs.exec (TimedState.step handler.grantTTL delay) origin between =
      some starting)
    (late : origin.now + handler.grantTTL + delay < starting.now)
    (run : Runs.exec (TimedState.step handler.grantTTL delay) starting
      (.start id call :: after) = some final)
    (verdict : final.verdict id = some allowed) :
    (∃ moment reached, moment <+: between ++ .start id call :: after ∧
        Runs.exec (TimedState.step handler.grantTTL delay) origin moment = some reached ∧
        allowed = call.decision (getPermissions reached.repository call.subject) ∧
        (.revokeAll call.subject ∉ between ++ after →
          ∀ rule ∈ (getPermissions origin.repository call.subject).rules,
            rule ∈ (getPermissions reached.repository call.subject).rules)) ∧
      ((getPermissions origin.repository call.subject).rules = [] →
        (∀ rule, .grant call.subject rule ∉ between ++ after) → allowed = false) := by
  have positive := grantTTL_pos config newMemoryCacheProvider handler made
  have bounded := Runs.exec_keeps _ Bounded (fun _ => True)
    (fun state event next _ => step_bounded _ delay state event next) _ origin before
    (fun _ _ => trivial) reachesOrigin (bounded_initial start repository)
  have fresh := Runs.exec_records _ _
    (step_fresh _ delay origin call.subject) origin starting [] between reachesStart
    (fresh_origin _ delay origin call.subject bounded)
  obtain ⟨started, step, ranAfter⟩ := Runs.exec_cons _ _ _ _ _ run
  have lateCall := Runs.exec_records _ _ (step_lateCall _ delay origin positive id call) started
    final _ after ranAfter
    (lateCall_of_start _ delay origin positive id call between starting started step fresh late)
  have known := (Threads.caller_of_start _ TimedState.calls WindowEvent.starts
    (timedStep_moves _ delay) (.start id call) id call rfl starting final _ run
    List.mem_cons_self).2
  obtain ⟨bundle, ⟨moment, reached, earlier, ran, rfl⟩, decided⟩ := lateCall.judged id call _
    (returned_of_timedVerdict final id call allowed known verdict) rfl rfl
  rw [List.append_assoc] at earlier
  -- Only the other events of the run can change the repository.
  have within (event : WindowEvent) (member : event ∈ moment) :
      event ∈ between ++ after ∨ event = .start id call := by
    have whole := earlier.subset member
    simp only [List.mem_append, List.mem_cons, List.not_mem_nil, or_false] at whole ⊢
    tauto
  refine ⟨⟨moment, reached, earlier, ran, decided, fun unrevoked rule has => ?_⟩,
    fun empty ungranted => ?_⟩
  · refine rule_kept _ delay call.subject rule origin reached moment ran (fun member => ?_) has
    rcases within _ member with changes | isStart
    · exact unrevoked changes
    · cases isStart
  · have none := rules_empty_kept _ delay call.subject origin reached moment ran
      (fun rule member => by
        rcases within _ member with changes | isStart
        · exact ungranted rule changes
        · cases isStart) empty
    rw [decided, HandleCall.decision, evaluate_no_rules _ _ none]

end Window

/-- A check whose bundle is revoked while the cache has it, one within the window that is still
allowed by it, and one after the window. -/
theorem revocation_settles :
    let step := @TimedState.step asciiCase jsonCodec defaultGrantTTL 1000
    let missed (id : Nat) : List WindowEvent :=
      [.cacheGet id none, .repositoryGet id, .cacheSet id, .evaluate id]
    let served (id : Nat) : List WindowEvent := [.cacheGet id (some orderBytes), .evaluate id]
    ∃ origin starting final,
      Runs.exec step (.initial 0 ∅)
        (.grant "user_42" permitReadOrder :: .start 0 (readOrder "user_42") ::
          missed 0 ++ [.revokeAll "user_42"]) = some origin ∧
      Runs.exec step origin (.tick 60000000000 :: .start 1 (readOrder "user_42") ::
        served 1 ++ [.tick 1001]) = some starting ∧
      Runs.exec step starting (.start 2 (readOrder "user_42") :: missed 2) = some final ∧
      starting.verdict 1 = some true ∧ final.verdict 2 = some false := by
  intro step missed served
  have observed : ((Runs.exec step (.initial 0 ∅)
      (.grant "user_42" permitReadOrder :: .start 0 (readOrder "user_42") ::
        missed 0 ++ [.revokeAll "user_42"])).bind fun origin =>
      (Runs.exec step origin (.tick 60000000000 :: .start 1 (readOrder "user_42") ::
        served 1 ++ [.tick 1001])).bind fun starting =>
        (Runs.exec step starting (.start 2 (readOrder "user_42") :: missed 2)).map fun final =>
          (decide (origin.now + defaultGrantTTL + (1000 : Nat) < starting.now),
            (getPermissions origin.repository "user_42").rules.isEmpty, starting.verdict 1,
            (final.verdict 2).isSome)) = some (true, true, some true, true) := by
    decide +kernel
  obtain ⟨origin, reachesOrigin, observed⟩ := Option.bind_eq_some_iff.mp observed
  obtain ⟨starting, reachesStart, observed⟩ := Option.bind_eq_some_iff.mp observed
  obtain ⟨final, run, observed⟩ := Option.map_eq_some_iff.mp observed
  simp only [Prod.mk.injEq, decide_eq_true_eq, List.isEmpty_iff] at observed
  obtain ⟨late, empty, first, decided⟩ := observed
  obtain ⟨allowed, verdict⟩ := Option.isSome_iff_exists.mp decided
  refine ⟨origin, starting, final, reachesOrigin, reachesStart, run, first, ?_⟩
  let handler := oneRuleHandler permitReadOrder
  rw [verdict, (@decision_recent asciiCase jsonCodec 1000 Unit
    ⟨some handler.repo, some handler.cache, 0⟩ (.error "") handler rfl 0 ∅ _ _ _ origin starting
    final 2 (readOrder "user_42") allowed reachesOrigin reachesStart late run verdict).2 empty
    (by simp [missed, served])]

end SharedGo.Authz
