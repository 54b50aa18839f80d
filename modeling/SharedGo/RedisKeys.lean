/-
This file proves when cache providers that share a Redis are independent. A provider
puts its prefix and a colon before its keys, or nothing when the prefix is empty.
The calls of `Get`, `Set` and `Delete` of all providers interleave, time passes
between them, and any call may fail, after its effect or without it. Of Redis it is
assumed that the commands on a key concern nothing under other keys, that a key can
be missing, and that a value stored without an expiry is there right after.

A provider returns what it would return if the others were not there exactly when
its prefix and each of theirs are not empty and, with the colon, neither starts with
the other. So "orders" and "orders-eu" are independent, while "orders" and
"orders:eu" are not.
-/

import SharedGo.CacheProvider

namespace SharedGo.Authz

open SharedGo

/-! ### Providers of one Redis -/

structure RedisCacheConfig where
  keyPrefix : String
  revocationChannel : String

structure RedisCacheProvider where
  keyPrefix : String
  channel : String
  deriving DecidableEq, Repr

def defaultRevocationChannel : String := "authz:revocations"

def newRedisCacheProvider (config : RedisCacheConfig) : RedisCacheProvider where
  keyPrefix := config.keyPrefix
  channel :=
    if config.revocationChannel = "" then defaultRevocationChannel else config.revocationChannel

def RedisCacheProvider.formatKey (provider : RedisCacheProvider) (key : String) : String :=
  if provider.keyPrefix = "" then key else provider.keyPrefix ++ ":" ++ key

/-- What Redis has under one key, as the commands on the key and the passing of time read and change
it. How entries expire is left open. -/
class RedisCell (Cell : Type) where
  get : Cell → Option String
  set : String → Duration → Cell → Cell
  del : Cell → Cell
  elapse : Nat → Cell → Cell
  missing : Cell
  get_missing : get missing = none
  get_set : ∀ value cell, get (set value 0 cell) = some value

/-- What Redis has under each key. -/
abbrev RedisServer (Cell : Type) := String → Cell

/-- A command on a key. -/
def RedisServer.command {Cell : Type} (server : RedisServer Cell) (key : String)
    (change : Cell → Cell) : RedisServer Cell :=
  Function.update server key (change (server key))

/-- How a command ends. One that fails may have had its effect. -/
inductive CommandOutcome where
  | succeeds
  | fails (message : String) (applied : Bool)
  deriving DecidableEq, Repr

def CommandOutcome.error : CommandOutcome → Option CacheError
  | .succeeds => none
  | .fails message _ => some (.backend message)

section Servers

variable {Cell : Type} [RedisCell Cell]

def CommandOutcome.apply (outcome : CommandOutcome) (server changed : RedisServer Cell) :
    RedisServer Cell :=
  match outcome with
  | .succeeds => changed
  | .fails _ applied => if applied then changed else server

/-- The provider as a cache, when its next command ends in the given way. -/
def RedisCacheProvider.cache (provider : RedisCacheProvider) (outcome : CommandOutcome) :
    CacheProvider (RedisServer Cell) where
  get key server :=
    if key = "" then (.error .invalidKey, server)
    else
      match outcome.error, RedisCell.get (server (provider.formatKey key)) with
      | some error, _ => (.error error, server)
      | none, none => (.error .cacheMiss, server)
      | none, some value => (.ok value, server)
  set key value ttl server :=
    if key = "" then (some .invalidKey, server)
    else
      (outcome.error, outcome.apply server
        (server.command (provider.formatKey key) (RedisCell.set value ttl)))
  delete key server :=
    if key = "" then (some .invalidKey, server)
    else
      (outcome.error, outcome.apply server
        (server.command (provider.formatKey key) RedisCell.del))

/-- A call of a provider. -/
inductive RedisCall where
  | get (key : String)
  | set (key value : String) (ttl : Duration)
  | delete (key : String)
  deriving DecidableEq, Repr

/-- What a call returns: a value, or an error or none. -/
inductive RedisResult where
  | value (value : Except CacheError String)
  | error (error : Option CacheError)

/-- The result of a call, and the server after it. -/
def RedisCacheProvider.perform (provider : RedisCacheProvider) (outcome : CommandOutcome)
    (server : RedisServer Cell) : RedisCall → RedisResult × RedisServer Cell
  | .get key => ((provider.cache outcome).get key server).map .value id
  | .set key value ttl => ((provider.cache outcome).set key value ttl server).map .error id
  | .delete key => ((provider.cache outcome).delete key server).map .error id

section Sharing

variable {Name : Type} [DecidableEq Name] (providers : Name → RedisCacheProvider)

/-- Time passes, or a provider is called. -/
inductive RedisEvent (Name : Type) where
  | elapse (duration : Nat)
  | call (name : Name) (request : RedisCall) (outcome : CommandOutcome)

/-- The event is not a call of another provider. -/
def RedisEvent.concerns (name : Name) : RedisEvent Name → Bool
  | .elapse _ => true
  | .call caller _ _ => caller = name

def RedisServer.step (server : RedisServer Cell) : RedisEvent Name → RedisServer Cell
  | .elapse duration => fun key => RedisCell.elapse duration (server key)
  | .call name request outcome => ((providers name).perform outcome server request).2

/-- What the calls of a provider return, in their order. -/
def results (name : Name) : RedisServer Cell → List (RedisEvent Name) → List RedisResult
  | _, [] => []
  | server, event :: rest =>
    match event with
    | .elapse _ => results name (server.step providers event) rest
    | .call caller request outcome =>
      if caller = name then
        ((providers name).perform outcome server request).1 ::
          results name (server.step providers event) rest
      else results name (server.step providers event) rest

/-! ### Keys of two providers -/

/-- Neither prefix, with its colon, starts with the other. -/
def Separate (first second : RedisCacheProvider) : Prop :=
  first.keyPrefix ≠ "" ∧ second.keyPrefix ≠ "" ∧
    ¬first.keyPrefix.toList ++ [':'] <+: second.keyPrefix.toList ++ [':'] ∧
    ¬second.keyPrefix.toList ++ [':'] <+: first.keyPrefix.toList ++ [':']

instance (first second : RedisCacheProvider) : Decidable (Separate first second) :=
  inferInstanceAs (Decidable (_ ∧ _))

theorem formatKey_of_empty (provider : RedisCacheProvider) (key : String)
    (unnamed : provider.keyPrefix = "") : provider.formatKey key = key :=
  if_pos unnamed

theorem toList_formatKey (provider : RedisCacheProvider) (key : String)
    (named : provider.keyPrefix ≠ "") :
    (provider.formatKey key).toList = (provider.keyPrefix.toList ++ [':']) ++ key.toList := by
  rw [RedisCacheProvider.formatKey, if_neg named, String.toList_append, String.toList_append]
  rfl

/-- Separate providers have no key of Redis in common. -/
theorem formatKey_ne (first second : RedisCacheProvider) (separate : Separate first second)
    (firstKey secondKey : String) : first.formatKey firstKey ≠ second.formatKey secondKey := by
  obtain ⟨firstNamed, secondNamed, forward, backward⟩ := separate
  intro same
  have lists := congrArg String.toList same
  rw [toList_formatKey first firstKey firstNamed, toList_formatKey second secondKey secondNamed]
    at lists
  rcases List.append_eq_append_iff.mp lists with ⟨rest, longer, _⟩ | ⟨rest, longer, _⟩
  · exact forward ⟨rest, longer.symm⟩
  · exact backward ⟨rest, longer.symm⟩

/-- Providers that are not separate have keys that are the same in Redis. -/
theorem exists_formatKey_eq (first second : RedisCacheProvider)
    (overlap : ¬Separate first second) :
    ∃ firstKey secondKey, firstKey ≠ "" ∧ secondKey ≠ "" ∧
      first.formatKey firstKey = second.formatKey secondKey := by
  -- The keys of the longer prefix are keys of the shorter one that go on with its rest.
  have nested (shorter longer : RedisCacheProvider) (shorterNamed : shorter.keyPrefix ≠ "")
      (longerNamed : longer.keyPrefix ≠ "")
      (starts : shorter.keyPrefix.toList ++ [':'] <+: longer.keyPrefix.toList ++ [':']) :
      ∃ key, key ≠ "" ∧ shorter.formatKey key = longer.formatKey "x" := by
    obtain ⟨rest, split⟩ := starts
    refine ⟨String.ofList (rest ++ ['x']), ?_, ?_⟩
    · intro empty
      simpa using congrArg String.toList empty
    · apply String.toList_inj.mp
      rw [toList_formatKey shorter _ shorterNamed, toList_formatKey longer _ longerNamed, ← split]
      simp
  by_cases firstNamed : first.keyPrefix = ""
  · refine ⟨second.formatKey "x", "x", ?_, by decide, ?_⟩
    · unfold RedisCacheProvider.formatKey
      split_ifs
      · decide
      · intro empty
        simpa using congrArg String.toList empty
    · exact formatKey_of_empty first _ firstNamed
  by_cases secondNamed : second.keyPrefix = ""
  · refine ⟨"x", first.formatKey "x", by decide, ?_, ?_⟩
    · intro empty
      have lists := congrArg String.toList empty
      rw [toList_formatKey first "x" firstNamed] at lists
      simp at lists
    · exact (formatKey_of_empty second _ secondNamed).symm
  by_cases forward : first.keyPrefix.toList ++ [':'] <+: second.keyPrefix.toList ++ [':']
  · obtain ⟨key, nonempty, same⟩ := nested first second firstNamed secondNamed forward
    exact ⟨key, "x", nonempty, by decide, same⟩
  · have backward : second.keyPrefix.toList ++ [':'] <+: first.keyPrefix.toList ++ [':'] := by
      by_contra backward
      exact overlap ⟨firstNamed, secondNamed, forward, backward⟩
    obtain ⟨key, nonempty, same⟩ := nested second first secondNamed firstNamed backward
    exact ⟨"x", key, by decide, nonempty, same.symm⟩

/-! ### What a call reads and writes -/

/-- Two servers have the same under the keys of a provider. -/
def Alike (provider : RedisCacheProvider) (server other : RedisServer Cell) : Prop :=
  ∀ key, server (provider.formatKey key) = other (provider.formatKey key)

omit [RedisCell Cell] in
theorem command_alike (provider : RedisCacheProvider) (redisKey : String) (change : Cell → Cell)
    (server other : RedisServer Cell) (alike : Alike provider server other)
    (same : server redisKey = other redisKey) :
    Alike provider (server.command redisKey change) (other.command redisKey change) := by
  intro key
  unfold RedisServer.command
  by_cases written : provider.formatKey key = redisKey
  · rw [written, Function.update_self, Function.update_self, same]
  · rw [Function.update_of_ne written, Function.update_of_ne written, alike key]

omit [RedisCell Cell] in
/-- A command on another key. -/
theorem command_apart (provider : RedisCacheProvider) (redisKey : String) (change : Cell → Cell)
    (server other : RedisServer Cell) (alike : Alike provider server other)
    (apart : ∀ key, provider.formatKey key ≠ redisKey) :
    Alike provider (server.command redisKey change) other := by
  intro key
  rw [RedisServer.command, Function.update_of_ne (apart key), alike key]

omit [RedisCell Cell] in
/-- A command that fails has its effect on both servers or on neither. -/
theorem apply_alike (provider : RedisCacheProvider) (outcome : CommandOutcome)
    (server other changed otherChanged : RedisServer Cell) (alike : Alike provider server other)
    (changes : Alike provider changed otherChanged) :
    Alike provider (outcome.apply server changed) (outcome.apply other otherChanged) := by
  cases outcome with
  | succeeds => exact changes
  | fails message applied =>
    cases applied with
    | false => exact alike
    | true => exact changes

/-- A call does the same where the servers look the same. -/
theorem perform_alike (provider : RedisCacheProvider) (outcome : CommandOutcome)
    (request : RedisCall) (server other : RedisServer Cell)
    (alike : Alike provider server other) :
    (provider.perform outcome server request).1 = (provider.perform outcome other request).1 ∧
      Alike provider (provider.perform outcome server request).2
        (provider.perform outcome other request).2 := by
  cases request with
  | get key =>
    simp only [RedisCacheProvider.perform, RedisCacheProvider.cache, alike key]
    split_ifs
    · exact ⟨rfl, alike⟩
    · split <;> exact ⟨rfl, alike⟩
  | set key value ttl =>
    simp only [RedisCacheProvider.perform, RedisCacheProvider.cache]
    split_ifs
    · exact ⟨rfl, alike⟩
    · exact ⟨rfl, apply_alike provider outcome server other _ _ alike
        (command_alike provider _ _ server other alike (alike key))⟩
  | delete key =>
    simp only [RedisCacheProvider.perform, RedisCacheProvider.cache]
    split_ifs
    · exact ⟨rfl, alike⟩
    · exact ⟨rfl, apply_alike provider outcome server other _ _ alike
        (command_alike provider _ _ server other alike (alike key))⟩

/-- A separate provider does not see the call. -/
theorem perform_separate (provider caller : RedisCacheProvider)
    (separate : Separate provider caller) (outcome : CommandOutcome) (request : RedisCall)
    (server other : RedisServer Cell) (alike : Alike provider server other) :
    Alike provider (caller.perform outcome server request).2 other := by
  have apart (redisKey : String) (change : Cell → Cell)
      (foreign : ∀ key, provider.formatKey key ≠ redisKey) :
      Alike provider (outcome.apply server (server.command redisKey change)) other := by
    have changes := command_apart provider redisKey change server other alike foreign
    cases outcome with
    | succeeds => exact changes
    | fails message applied =>
      cases applied with
      | false => exact alike
      | true => exact changes
  cases request with
  | get key =>
    simp only [RedisCacheProvider.perform, RedisCacheProvider.cache]
    split_ifs
    · exact alike
    · split <;> exact alike
  | set key value ttl =>
    simp only [RedisCacheProvider.perform, RedisCacheProvider.cache]
    split_ifs
    · exact alike
    · exact apart _ _ fun own => formatKey_ne provider caller separate own key
  | delete key =>
    simp only [RedisCacheProvider.perform, RedisCacheProvider.cache]
    split_ifs
    · exact alike
    · exact apart _ _ fun own => formatKey_ne provider caller separate own key

/-! ### Runs of all providers -/

/-- Without the calls of the others, a provider that is separate from them returns the same. -/
theorem results_separate (name : Name)
    (separate : ∀ other, other ≠ name → Separate (providers name) (providers other))
    (events : List (RedisEvent Name)) (server alone : RedisServer Cell)
    (alike : Alike (providers name) server alone) :
    results providers name server events =
      results providers name alone (events.filter (RedisEvent.concerns name)) := by
  induction events generalizing server alone with
  | nil => rfl
  | cons event rest inductionHypothesis =>
    cases event with
    | elapse duration =>
      rw [List.filter_cons_of_pos rfl, results, results]
      exact inductionHypothesis _ _ fun key => congrArg (RedisCell.elapse duration) (alike key)
    | call caller request outcome =>
      by_cases own : caller = name
      · subst own
        obtain ⟨same, after⟩ := perform_alike (providers caller) outcome request server alone alike
        rw [List.filter_cons_of_pos (by simp [RedisEvent.concerns]), results, results, if_pos rfl,
          if_pos rfl, same]
        exact congrArg _ (inductionHypothesis _ _ after)
      · rw [List.filter_cons_of_neg (by simp [RedisEvent.concerns, own]), results, if_neg own]
        exact inductionHypothesis _ _ (perform_separate (providers name) (providers caller)
          (separate caller own) outcome request server alone alike)

/-- Two providers with a key in common: what one writes, the other reads. -/
theorem results_overlap (name other : Name) (different : other ≠ name)
    (firstKey secondKey : String) (firstNonempty : firstKey ≠ "") (secondNonempty : secondKey ≠ "")
    (same : (providers name).formatKey firstKey = (providers other).formatKey secondKey) :
    let events : List (RedisEvent Name) :=
      [.call other (.set secondKey "value" 0) .succeeds, .call name (.get firstKey) .succeeds]
    let server : RedisServer Cell := fun _ => RedisCell.missing
    results providers name server events = [.value (.ok "value")] ∧
      results providers name server (events.filter (RedisEvent.concerns name)) =
        [.value (.error .cacheMiss)] := by
  intro events server
  constructor
  · simp [events, results, different, RedisServer.step, RedisCacheProvider.perform,
      RedisCacheProvider.cache, firstNonempty, secondNonempty, CommandOutcome.error,
      CommandOutcome.apply, RedisServer.command, same, RedisCell.get_set]
  · simp [events, server, results, different, RedisEvent.concerns, RedisCacheProvider.perform,
      RedisCacheProvider.cache, firstNonempty, CommandOutcome.error, RedisCell.get_missing]

variable (Cell) in
/-- What the calls of a provider return is independent of those of the others on its Redis, in every
run and whatever their commands do, exactly when its prefix is separate from each of theirs. -/
theorem independent_iff_separate (name : Name) :
    (∀ (server : RedisServer Cell) events, results providers name server events =
        results providers name server (events.filter (RedisEvent.concerns name))) ↔
      ∀ other, other ≠ name → Separate (providers name) (providers other) := by
  constructor
  · intro independent other different
    by_contra overlap
    obtain ⟨firstKey, secondKey, firstNonempty, secondNonempty, same⟩ :=
      exists_formatKey_eq (providers name) (providers other) overlap
    obtain ⟨shared, alone⟩ := @results_overlap Cell _ Name _ providers name other different
      firstKey secondKey firstNonempty secondNonempty same
    have equal := independent (fun _ => RedisCell.missing)
      [.call other (.set secondKey "value" 0) .succeeds, .call name (.get firstKey) .succeeds]
    rw [shared, alone] at equal
    simp at equal
  · intro separate server events
    exact results_separate providers name separate events server server fun _ => rfl

end Sharing

end Servers

/-- A value with the time it has left, if it expires. A time to live of minus one nanosecond keeps
the one of the entry that is replaced. -/
instance : RedisCell (Option (String × Option Int)) where
  get cell := cell.map Prod.fst
  set value ttl cell :=
    some (value, if 0 < ttl then some ttl else if ttl = -1 then cell.bind Prod.snd else none)
  del _ := none
  elapse duration
    | some (value, some left) =>
      if duration < left then some (value, some (left - duration)) else none
    | cell => cell
  missing := none
  get_missing := rfl
  get_set _ _ := rfl

theorem orders_independent :
    let providers (name : Bool) : RedisCacheProvider := ⟨if name then "orders" else "orders-eu", ""⟩
    ∀ (server : RedisServer (Option (String × Option Int))) events,
      results providers true server events =
        results providers true server (events.filter (RedisEvent.concerns true)) := by
  intro providers
  exact (independent_iff_separate _ providers true).mpr (by decide)

example : Separate ⟨"orders", ""⟩ ⟨"orders-eu", ""⟩ ∧
    ¬Separate ⟨"orders", ""⟩ ⟨"orders:eu", ""⟩ := by
  decide

end SharedGo.Authz
