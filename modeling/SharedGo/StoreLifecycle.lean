/-
This file models the life of a store in memory: the calls of its users, the goroutine
that purges expired entries at the ticks of a clock, and any number of calls that
dispose of it, in every interleaving. Disposing runs once: it closes the channel that
the goroutine waits on, and drops all entries. The cache underneath is taken for an
exact expiring map, in which an entry is gone from the instant of its expiry on.

Nothing panics. A read finds the value of the last Set since the entries were
dropped, whatever the goroutine purges and whenever it reads its clock. A call that
disposes of the store returns only when the entries were dropped and the channel is
closed, also when another call does that; the goroutine may still purge at ticks it
has not taken yet, and then ends. A store that was disposed of goes on storing.
-/

import SharedGo.CacheStores
import SharedGo.Channel
import SharedGo.Once

namespace SharedGo.Cache

open SharedGo

/-! ### The process -/

/-- The goroutine: not started, waiting for a tick or the channel, about to purge what has expired
by the time it read, or ended. -/
inductive Janitor where
  | absent
  | waiting
  | sweeping (time : Int)
  | ended
  deriving DecidableEq, Repr

/-- A store and its goroutine. -/
structure Process {TypeName : Type} (Value : TypeName → Type) where
  now : Int
  memory : MemoryStore Value
  stopCh : Option (Channel Unit)
  ticks : Channel Unit
  janitor : Janitor
  panicked : Option ChannelPanic

/-- Calls of the users, the passage of time, ticks, and the steps of the goroutine. -/
inductive ProcessEvent (Element : Type) where
  | set (key : String) (value : Element) (expiration : Int)
  | delete (key : String)
  | elapse (duration : Nat)
  | tick
  | takeTick
  | sweep
  | takeStop

/-- The steps of the goroutine. -/
def ProcessEvent.internal {Element : Type} : ProcessEvent Element → Bool
  | .takeTick => true
  | .sweep => true
  | .takeStop => true
  | _ => false

section Process

variable {TypeName : Type} {Value : TypeName → Type}

/-- The goroutine runs if the interval is positive. -/
def newProcess (cleanupInterval start : Int) : Process Value :=
  if 0 < cleanupInterval then ⟨start, ∅, some (.make 0), .make 1, .waiting, none⟩
  else ⟨start, ∅, none, .make 1, .absent, none⟩

namespace Process

variable (process : Process Value)

/-- A tick, which is lost if the last one was not taken; the ticker stops with the goroutine. -/
def tick : Option (Process Value) :=
  if process.janitor = .absent ∨ process.janitor = .ended then none
  else
    match process.ticks.trySend () with
    | .ok ticks => some { process with ticks }
    | .error _ => none

/-- The goroutine takes a tick, and reads the clock before it gets the lock. -/
def takeTick : Option (Process Value) :=
  if process.janitor = .waiting then
    match process.ticks.receive with
    | some (some _, ticks) => some { process with ticks, janitor := .sweeping process.now }
    | _ => none
  else none

def sweep : Option (Process Value) :=
  match process.janitor with
  | .sweeping time => some { process with memory := process.memory.sweep time, janitor := .waiting }
  | _ => none

/-- The goroutine finds the channel closed. -/
def takeStop : Option (Process Value) :=
  if process.janitor = .waiting then
    match process.stopCh.bind Channel.receive with
    | some (none, _) => some { process with janitor := .ended }
    | _ => none
  else none

/-- Closes the channel, if there is one. -/
def closeStop : Process Value :=
  match process.stopCh with
  | none => process
  | some channel =>
    match channel.close with
    | .ok closed => { process with stopCh := some closed }
    | .error panic => { process with panicked := some panic }

/-- Drops all entries. -/
def flush : Process Value := { process with memory := ∅ }

/-- The actions of the function that `Dispose` runs once. -/
def disposal : List (Process Value → Process Value) := [closeStop, flush]

end Process

def Process.react {type : GoType TypeName} (process : Process Value) :
    ProcessEvent (type.Values Value) → Option (Process Value)
  | .set key value expiration =>
    some { process with
      memory := (process.memory.set type process.now key value expiration).2 }
  | .delete key => some { process with memory := (process.memory.delete key).2 }
  | .elapse duration => some { process with now := process.now + duration }
  | .tick => process.tick
  | .takeTick => process.takeTick
  | .sweep => process.sweep
  | .takeStop => process.takeStop

end Process

/-! ### The calls since the entries were dropped -/

section Records

variable {Element : Type}

/-- The events of a store and of the calls that dispose of it. -/
abbrev LifeEvent (Element : Type) := Once.Event (ProcessEvent Element)

/-- The call or the passage of time that an event is, if it is one. -/
def ProcessEvent.call : ProcessEvent Element → Option (CacheEvent Element)
  | .set key value expiration => some (.set key value expiration)
  | .delete key => some (.delete key)
  | .elapse duration => some (.elapse duration)
  | _ => none

/-- The number of actions of the disposal so far, and the calls since the entries were dropped,
which is the second action. -/
def recordStep (record : Nat × List (CacheEvent Element)) :
    LifeEvent Element → Nat × List (CacheEvent Element)
  | .environment event => (record.1, record.2 ++ event.call.toList)
  | .perform _ => (record.1 + 1, if record.1 = 1 then [] else record.2)
  | _ => record

def recordOf (events : List (LifeEvent Element)) : Nat × List (CacheEvent Element) :=
  events.foldl recordStep (0, [])

theorem recordOf_concat (events : List (LifeEvent Element)) (event : LifeEvent Element) :
    recordOf (events ++ [event]) = recordStep (recordOf events) event :=
  List.foldl_concat _ _ _ _

end Records

/-! ### One step -/

section Steps

variable {TypeName : Type} {Value : TypeName → Type} (type : GoType TypeName)

/-- A store after some actions of the disposal: it mirrors the calls since the entries were dropped,
and its channel is closed from the first action on. -/
structure Alive (past : List (LifeEvent (type.Values Value))) (count : Nat)
    (process : Process Value) : Prop where
  counted : (recordOf past).1 = count
  mirrors : Mirrors (fun value => some (type.box value)) (written (recordOf past).2) process.now
    process.memory
  unpanicked : process.panicked = none
  stopCh : (process.stopCh = none ∧ process.janitor = .absent) ∨
    ∃ channel, process.stopCh = some channel ∧ process.janitor ≠ .absent ∧
      channel.buffer = [] ∧ (channel.closed = true ↔ 0 < count)
  earlier : ∀ time, process.janitor = .sweeping time → time ≤ process.now

theorem alive_start (cleanupInterval start : Int) :
    Alive type [] 0 (newProcess cleanupInterval start : Process Value) := by
  unfold newProcess
  split
  · exact ⟨rfl, mirrors_empty start, rfl, Or.inr ⟨_, rfl, by simp, rfl, by simp [Channel.make]⟩,
      by simp⟩
  · exact ⟨rfl, mirrors_empty start, rfl, Or.inl ⟨rfl, rfl⟩, by simp⟩

variable {type} {past : List (LifeEvent (type.Values Value))} {count : Nat}
  {process next : Process Value} (alive : Alive type past count process)

include alive

/-- A step of the goroutine or its ticker that leaves the entries as they are. -/
theorem Alive.unstored (event : LifeEvent (type.Values Value))
    (unrecorded : recordStep (recordOf past) event = recordOf past)
    (sameTime : next.now = process.now) (sameMemory : next.memory = process.memory)
    (samePanic : next.panicked = process.panicked) (sameStop : next.stopCh = process.stopCh)
    (started : next.janitor = .absent ↔ process.janitor = .absent)
    (earlier : ∀ time, next.janitor = .sweeping time → time ≤ process.now) :
    Alive type (past ++ [event]) count next := by
  obtain ⟨counted, mirrors, unpanicked, stopCh, _⟩ := alive
  refine ⟨?_, ?_, samePanic.trans unpanicked, ?_, ?_⟩
  · rw [recordOf_concat, unrecorded, counted]
  · rwa [recordOf_concat, unrecorded, sameTime, sameMemory]
  · simpa only [sameStop, ne_eq, started] using stopCh
  · rwa [sameTime]

/-- A call of a user, or the passage of time. -/
theorem Alive.record (event : ProcessEvent (type.Values Value)) (call : CacheEvent _)
    (isCall : event.call = some call) (later : process.now ≤ next.now)
    (mirrors : Mirrors (fun value => some (type.box value))
      (written ((recordOf past).2 ++ [call])) next.now next.memory)
    (samePanic : next.panicked = process.panicked) (sameStop : next.stopCh = process.stopCh)
    (sameJanitor : next.janitor = process.janitor) :
    Alive type (past ++ [.environment event]) count next := by
  obtain ⟨counted, _, unpanicked, stopCh, earlier⟩ := alive
  have recorded : recordOf (past ++ [.environment event]) =
      (count, (recordOf past).2 ++ [call]) := by
    rw [recordOf_concat, recordStep, isCall, counted]
    rfl
  refine ⟨?_, ?_, samePanic.trans unpanicked, ?_, ?_⟩
  · rw [recorded]
  · rwa [recorded]
  · rwa [sameStop, sameJanitor]
  · intro time sweeping
    exact (earlier time (sameJanitor.symm.trans sweeping)).trans later

/-- A purge at a time that was read earlier removes nothing that could still be found. -/
theorem Alive.sweep (time : Int) (sweeping : process.janitor = .sweeping time) :
    Alive type (past ++ [.environment .sweep]) count
      { process with memory := process.memory.sweep time, janitor := .waiting } := by
  obtain ⟨counted, mirrors, unpanicked, stopCh, earlier⟩ := alive
  have recorded : recordOf (past ++ [.environment .sweep]) = recordOf past := by
    rw [recordOf_concat, recordStep]
    simp [ProcessEvent.call]
  have before := earlier time sweeping
  refine ⟨by rw [recorded, counted], ?_, unpanicked, ?_, by simp⟩
  · rw [recorded]
    intro key later order
    have after : time ≤ process.now + later := by omega
    exact (ExpiringMap.find_sweep _ time _ after key).trans (mirrors key later order)
  · rw [sweeping] at stopCh
    rcases stopCh with ⟨_, absent⟩ | ⟨channel, isStop, _, rest⟩
    · cases absent
    · exact Or.inr ⟨channel, isStop, by simp, rest⟩

theorem Alive.react (event : ProcessEvent (type.Values Value))
    (reacts : process.react event = some next) :
    Alive type (past ++ [.environment event]) count next := by
  have silent (quiet : event.call = none) :
      recordStep (recordOf past) (.environment event) = recordOf past := by
    rw [recordStep, quiet]
    simp
  cases event with
  | set key value expiration =>
    obtain rfl := Option.some_inj.mp reacts
    refine alive.record _ _ rfl le_rfl ?_ rfl rfl rfl
    refine alive.mirrors.put key value expiration _ (type.box value) rfl fun later => ?_
    split_ifs with negative
    · exact iff_of_true (Or.inl (by decide)) (Or.inl negative)
    · omega
  | delete key =>
    obtain rfl := Option.some_inj.mp reacts
    exact alive.record _ _ rfl le_rfl (alive.mirrors.erase key) rfl rfl rfl
  | elapse duration =>
    obtain rfl := Option.some_inj.mp reacts
    exact alive.record _ _ rfl (Int.le_add_of_nonneg_right (Int.natCast_nonneg duration))
      (alive.mirrors.elapse duration) rfl rfl rfl
  | tick =>
    simp only [Process.react, Process.tick] at reacts
    split at reacts
    · cases reacts
    · split at reacts
      · obtain rfl := Option.some_inj.mp reacts
        exact alive.unstored _ (silent rfl) rfl rfl rfl rfl Iff.rfl alive.earlier
      · cases reacts
  | takeTick =>
    simp only [Process.react, Process.takeTick] at reacts
    split at reacts
    · rename_i waits
      split at reacts
      · obtain rfl := Option.some_inj.mp reacts
        refine alive.unstored _ (silent rfl) rfl rfl rfl rfl (by simp [waits]) ?_
        intro time sweeping
        obtain rfl := Janitor.sweeping.inj sweeping
        exact le_rfl
      · cases reacts
    · cases reacts
  | sweep =>
    simp only [Process.react, Process.sweep] at reacts
    split at reacts
    · rename_i time sweeping
      obtain rfl := Option.some_inj.mp reacts
      exact alive.sweep time sweeping
    · cases reacts
  | takeStop =>
    simp only [Process.react, Process.takeStop] at reacts
    split at reacts
    · rename_i waits
      split at reacts
      · obtain rfl := Option.some_inj.mp reacts
        exact alive.unstored _ (silent rfl) rfl rfl rfl rfl (by simp [waits]) (by simp)
      · cases reacts
    · cases reacts

/-- The next action of the disposal: the channel is open before it is closed. -/
theorem Alive.act (caller : Nat) (action : Process Value → Process Value)
    (isNext : Process.disposal[count]? = some action) :
    Alive type (past ++ [.perform caller]) (count + 1) (action process) := by
  obtain ⟨counted, mirrors, unpanicked, stopCh, earlier⟩ := alive
  have recorded : recordOf (past ++ [.perform caller]) =
      (count + 1, if count = 1 then [] else (recordOf past).2) := by
    rw [recordOf_concat, recordStep, counted]
  rcases count with _ | _ | count
  · obtain rfl := Option.some_inj.mp isNext
    have closes : ∃ stop, process.closeStop = { process with stopCh := stop } ∧
        ((stop = none ∧ process.janitor = .absent) ∨ ∃ channel, stop = some channel ∧
          process.janitor ≠ .absent ∧ channel.buffer = [] ∧ (channel.closed = true ↔ 0 < 1)) := by
      rcases stopCh with ⟨isNil, absent⟩ | ⟨channel, isStop, present, empty, closed⟩
      · refine ⟨process.stopCh, ?_, Or.inl ⟨isNil, absent⟩⟩
        unfold Process.closeStop
        split
        · rfl
        · rename_i isStop
          rw [isNil] at isStop
          cases isStop
      · have isOpen : channel.closed = false := by simpa using closed
        refine ⟨some { channel with closed := true }, ?_, Or.inr ⟨_, rfl, present, empty, by simp⟩⟩
        simp only [Process.closeStop, isStop, channel.close_of_open isOpen]
    obtain ⟨stop, isClosed, stopped⟩ := closes
    rw [isClosed]
    exact ⟨by rw [recorded], by rwa [recorded], unpanicked, stopped, earlier⟩
  · obtain rfl := Option.some_inj.mp isNext
    refine ⟨by rw [recorded], ?_, unpanicked, ?_, earlier⟩
    · rw [recorded]
      exact mirrors_empty process.now
    · rcases stopCh with isNil | ⟨channel, isStop, present, empty, closed⟩
      · exact Or.inl isNil
      · exact Or.inr ⟨channel, isStop, present, empty, closed.trans (by simp)⟩
  · cases isNext

end Steps

/-! ### Whole runs -/

section Life

variable {TypeName : Type} {Value : TypeName → Type} {type : GoType TypeName}

/-- A store and the calls that dispose of it. -/
abbrev Life (Value : TypeName → Type) := Once.State (Process Value)

def Life.step (life : Life Value) (event : LifeEvent (type.Values Value)) : Option (Life Value) :=
  Once.State.step Process.react Process.disposal life event

def Life.initial (cleanupInterval start : Int) : Life Value :=
  Once.State.initial (newProcess cleanupInterval start)

theorem run_alive (cleanupInterval start : Int) (events : List (LifeEvent (type.Values Value)))
    (final : Life Value)
    (run : Runs.exec Life.step (Life.initial cleanupInterval start) events = some final) :
    ∃ count, Alive type events count final.world ∧
      Once.Position (Process.disposal : List (Process Value → Process Value)).length final.phase
        final.calls count := by
  refine Once.exec_keeps Process.react Process.disposal _ (Alive type)
    (alive_start type cleanupInterval start) ?_ events final run
  intro past count event after state next stepped alive
  cases stepped with
  | environment event reacts => exact alive.react event reacts
  | control event notEnvironment notPerform same =>
    refine alive.unstored event ?_ (by rw [same]) (by rw [same]) (by rw [same]) (by rw [same])
      (by rw [same]) (by rw [same]; exact alive.earlier)
    cases event with
    | environment event => exact absurd rfl (notEnvironment event)
    | perform caller => exact absurd rfl (notPerform caller)
    | call | enter | leave | skip => rfl
  | perform caller action isNext acts =>
    rw [acts]
    exact alive.act caller action isNext

theorem get_found_iff [DecidableEq TypeName] (zeros : ∀ name, Value name)
    (past : List (LifeEvent (type.Values Value))) (count : Nat) (process : Process Value)
    (alive : Alive type past count process) (key : String) (value : type.Values Value) :
    process.memory.get zeros type process.now key = (value, true, none) ↔
      Live (recordOf past).2 key value ∧ ¬type.IsNil value := by
  rw [MemoryStore.get, alive.mirrors.find, live_iff]
  cases (written (recordOf past).2 key).bind (SetValue.after 0) with
  | none => simp
  | some live =>
    simp only [Option.bind_some, Option.some.injEq]
    by_cases isNil : type.IsNil live
    · rw [assert_box_nil type live isNil]
      simp only [Prod.mk.injEq, Bool.false_eq_true, false_and, and_false, false_iff, not_and,
        not_not]
      rintro rfl
      exact isNil
    · rw [assert_box type live isNil]
      simp only [Prod.mk.injEq, and_true]
      exact ⟨fun same => ⟨same, same ▸ isNil⟩, And.left⟩

/-- In every interleaving of the calls of users, the goroutine and the calls that dispose of the
store nothing panics, and a read finds exactly the value, other than a nil interface, that lives by
the calls since the entries were dropped. Once a call has disposed of the store the entries were
dropped and the channel is closed. -/
theorem reads_since_disposal [DecidableEq TypeName] (zeros : ∀ name, Value name)
    (cleanupInterval start : Int) (events : List (LifeEvent (type.Values Value)))
    (final : Life Value)
    (run : Runs.exec Life.step (Life.initial cleanupInterval start) events = some final) :
    final.world.panicked = none ∧
      (∀ key value, final.world.memory.get zeros type final.world.now key = (value, true, none) ↔
        Live (recordOf events).2 key value ∧ ¬type.IsNil value) ∧
      (.returned ∈ final.calls → (recordOf events).1 = 2 ∧
        ∀ channel, final.world.stopCh = some channel → channel.closed = true) := by
  obtain ⟨count, alive, position⟩ := run_alive cleanupInterval start events final run
  refine ⟨alive.unpanicked, get_found_iff zeros events count final.world alive, fun returned => ?_⟩
  obtain rfl : count = 2 := position.of_returned returned
  refine ⟨alive.counted, fun channel isStop => ?_⟩
  rcases alive.stopCh with ⟨isNil, _⟩ | ⟨other, isOther, _, _, closed⟩
  · rw [isNil] at isStop
    cases isStop
  · obtain rfl := Option.some_inj.mp (isOther.symm.trans isStop)
    exact closed.mpr (by decide)

/-- Two calls dispose of a store while the goroutine purges, and one value is set while they do. -/
def disposedMidway : List (LifeEvent AnyValue) :=
  [.environment (.set "old" (anyBool true) 0), .environment .tick, .call, .call,
    .environment .takeTick, .enter 1, .perform 1, .perform 1,
    .environment (.set "new" (anyBool false) 5), .leave 1, .environment .sweep,
    .environment (.elapse 4), .skip 0, .environment .takeStop]

theorem disposedMidway_reads :
    ∃ final, Runs.exec Life.step (Life.initial 60 0) disposedMidway = some final ∧
      final.calls = [.returned, .returned] ∧ final.world.panicked = none ∧
      ∀ key value, final.world.memory.get (fun _ => false) anyType final.world.now key =
          (value, true, none) ↔
        Live [.set "new" (anyBool false) 5, .elapse 4] key value ∧ ¬anyType.IsNil value := by
  have observed : (Runs.exec Life.step (Life.initial 60 0) disposedMidway).map (·.calls) =
      some [.returned, .returned] := by decide +kernel
  obtain ⟨final, run, calls⟩ := Option.map_eq_some_iff.mp observed
  obtain ⟨unpanicked, found, _⟩ :=
    reads_since_disposal (fun _ => false) 60 0 disposedMidway final run
  exact ⟨final, run, calls, unpanicked, found⟩

/-! ### Coming to rest -/

/-- The steps that the goroutine has left without new ticks. -/
def Process.rank (process : Process Value) : Nat :=
  match process.janitor with
  | .absent => 0
  | .waiting => 2 * process.ticks.buffer.length + 1
  | .sweeping _ => 2 * process.ticks.buffer.length + 2
  | .ended => 0

/-- The steps of the goroutine, and of the calls that dispose of the store. -/
def lifeInternal {Element : Type} : LifeEvent Element → Bool
  | .environment event => event.internal
  | event => event.internal

theorem react_rank (process next : Process Value) (event : ProcessEvent (type.Values Value))
    (isInternal : event.internal = true) (reacts : process.react event = some next) :
    next.rank < process.rank := by
  cases event with
  | takeTick =>
    simp only [Process.react, Process.takeTick] at reacts
    split at reacts
    · rename_i waits
      split at reacts
      · rename_i element ticks received
        obtain rfl := Option.some_inj.mp reacts
        obtain ⟨_, _, split⟩ := Channel.receive_cases _ _ _ received
        simp only [Process.rank, waits, split, Option.toList_some, List.singleton_append,
          List.length_cons]
        omega
      · cases reacts
    · cases reacts
  | sweep =>
    simp only [Process.react, Process.sweep] at reacts
    split at reacts
    · rename_i time sweeping
      obtain rfl := Option.some_inj.mp reacts
      simp [Process.rank, sweeping]
    · cases reacts
  | takeStop =>
    simp only [Process.react, Process.takeStop] at reacts
    split at reacts
    · rename_i waits
      split at reacts
      · obtain rfl := Option.some_inj.mp reacts
        simp [Process.rank, waits]
      · cases reacts
    · cases reacts
  | set | delete | elapse | tick => cases isInternal

/-- The actions of the disposal do not move the goroutine. -/
theorem disposal_rank (process : Process Value) (count : Nat)
    (action : Process Value → Process Value)
    (isNext : Process.disposal[count]? = some action) :
    (action process).rank = process.rank := by
  rcases count with _ | _ | count
  · obtain rfl := Option.some_inj.mp isNext
    unfold Process.closeStop
    split
    · rfl
    · split <;> rfl
  · obtain rfl := Option.some_inj.mp isNext
    rfl
  · cases isNext

def Life.rank (life : Life Value) : Nat := Once.left 2 life.calls + life.world.rank

theorem step_rank (life next : Life Value) (event : LifeEvent (type.Values Value))
    (isInternal : lifeInternal event = true) (stepped : life.step event = some next) (count : Nat)
    (position : Once.Position 2 life.phase life.calls count) : next.rank < life.rank := by
  unfold Life.rank
  obtain ⟨after, isStep, _⟩ :=
    Once.step_position Process.react Process.disposal life next event stepped position
  cases isStep with
  | environment event reacts =>
    obtain ⟨world, _, rfl⟩ := Option.map_eq_some_iff.mp stepped
    exact Nat.add_lt_add_left (react_rank _ _ event isInternal reacts) _
  | control event notEnvironment notPerform same =>
    rw [same]
    refine Nat.add_lt_add_right (Once.step_left Process.react Process.disposal life next event ?_
      stepped) _
    cases event with
    | environment event => exact absurd rfl (notEnvironment event)
    | call | enter | perform | leave | skip => exact isInternal
  | perform caller action isNext acts =>
    rw [acts, disposal_rank _ _ action isNext]
    exact Nat.add_lt_add_right (Once.step_left Process.react Process.disposal life next _ rfl
      stepped) _

/-- Neither the goroutine nor a call can take a step. -/
def AtRest (type : GoType TypeName) (life : Life Value) : Prop :=
  ∀ event : LifeEvent (type.Values Value), lifeInternal event = true → life.step event = none

/-- From every reachable state the goroutine and the calls that dispose of the store take finitely
many steps, if there are no new ticks. When they have come to rest every call has returned, and if
there was one the goroutine has ended. -/
theorem disposal_settles (cleanupInterval start : Int)
    (events : List (LifeEvent (type.Values Value))) (final : Life Value)
    (run : Runs.exec Life.step (Life.initial cleanupInterval start) events = some final) :
    (∃ bound, ∀ (more : List (LifeEvent (type.Values Value))) next,
        (∀ event ∈ more, lifeInternal event = true) →
        Runs.exec Life.step final more = some next → more.length ≤ bound) ∧
      (AtRest type final → (∀ call ∈ final.calls, call = .returned) ∧
        (final.calls ≠ [] → final.world.janitor = .absent ∨ final.world.janitor = .ended)) := by
  obtain ⟨count, alive, position⟩ := run_alive cleanupInterval start events final run
  refine ⟨⟨final.rank, fun more next isInternal ran => ?_⟩, fun atRest => ?_⟩
  · refine Runs.exec_length_le Life.step Life.rank
      (fun life => ∃ count, Once.Position 2 life.phase life.calls count)
      (fun event => lifeInternal event = true) ?_ final next more isInternal ran ⟨count, position⟩
    rintro life event next isInternal stepped ⟨count, position⟩
    obtain ⟨after, _, moved⟩ :=
      Once.step_position Process.react Process.disposal life next event stepped position
    exact ⟨step_rank life next event isInternal stepped count position, after, moved⟩
  · have returned := Once.returned_of_quiet Process.react Process.disposal final position
      fun event isInternal => atRest event (by
        cases event with
        | environment event => cases isInternal
        | call | enter | perform | leave | skip => exact isInternal)
    refine ⟨returned, fun called => ?_⟩
    obtain ⟨call, member⟩ := List.exists_mem_of_ne_nil _ called
    obtain rfl : count = 2 := position.of_returned (returned call member ▸ member)
    rcases alive.stopCh with ⟨_, absent⟩ | ⟨channel, isStop, _, empty, closed⟩
    · exact Or.inl absent
    · cases janitor : final.world.janitor with
      | absent => exact Or.inl rfl
      | ended => exact Or.inr rfl
      | waiting =>
        have blocked := atRest (.environment .takeStop) rfl
        have received := channel.receive_of_closed empty (closed.mpr (by decide))
        simp [Life.step, Once.State.step, Process.react, Process.takeStop, janitor, isStop,
          received] at blocked
      | sweeping time =>
        have blocked := atRest (.environment .sweep) rfl
        simp [Life.step, Once.State.step, Process.react, Process.sweep, janitor] at blocked

/-- Where the calls have returned and the goroutine has ended nothing moves. -/
theorem atRest_of_ended (life : Life Value) (ended : life.world.janitor = .ended)
    (returned : ∀ call ∈ life.calls, call = .returned) : AtRest type life := by
  have notWaiting (caller : Nat) : life.calls[caller]? ≠ some .waiting := by
    intro found
    cases returned _ (List.mem_of_getElem? found)
  have notInside (caller performed : Nat) : life.calls[caller]? ≠ some (.inside performed) := by
    intro found
    cases returned _ (List.mem_of_getElem? found)
  intro event isInternal
  cases event with
  | environment event =>
    cases event with
    | takeTick => simp [Life.step, Once.State.step, Process.react, Process.takeTick, ended]
    | sweep => simp [Life.step, Once.State.step, Process.react, Process.sweep, ended]
    | takeStop => simp [Life.step, Once.State.step, Process.react, Process.takeStop, ended]
    | set | delete | elapse | tick => cases isInternal
  | call => cases isInternal
  | enter caller => simp [Life.step, Once.State.step, notWaiting]
  | perform caller =>
    rw [Life.step, Once.State.step]
    split
    · exact absurd ‹_› (notInside caller _)
    · rfl
  | leave caller => simp [Life.step, Once.State.step, notInside]
  | skip caller => simp [Life.step, Once.State.step, notWaiting]

theorem disposedMidway_settles :
    ∃ final, Runs.exec Life.step (Life.initial 60 0) disposedMidway = some final ∧
      AtRest anyType final ∧
      (final.world.janitor = .absent ∨ final.world.janitor = .ended) := by
  have observed : (Runs.exec Life.step (Life.initial 60 0) disposedMidway).map
      (fun final => (final.calls, final.world.janitor)) =
      some ([.returned, .returned], .ended) := by
    decide +kernel
  obtain ⟨final, run, ends⟩ := Option.map_eq_some_iff.mp observed
  obtain ⟨calls, ended⟩ := Prod.mk.inj ends
  have atRest : AtRest anyType final := atRest_of_ended final ended (by simp [calls])
  exact ⟨final, run, atRest,
    ((disposal_settles 60 0 disposedMidway final run).2 atRest).2 (by simp [calls])⟩

end Life

end SharedGo.Cache
