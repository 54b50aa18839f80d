/-
This file keeps the threads of a concurrent system in a table. A thread is a call
that does not change and a phase that its steps move; a step of the system starts
one thread, moves one, or leaves them alone. What follows from that alone is
proved here for every system: a thread stays the call it started as, and a thread
that a run starts was not there before.
-/

import Mathlib.Logic.Function.Basic
import SharedGo.Runs

namespace SharedGo

universe u v w x

/-- The threads of a system, by their identifiers. -/
abbrev Threads (Call : Type u) (Phase : Type v) := Nat → Option (Call × Phase)

namespace Threads

variable {Call : Type u} {Phase : Type v}

/-- A thread is in a new phase. -/
def advance (threads : Threads Call Phase) (id : Nat) (call : Call) (phase : Phase) :
    Threads Call Phase :=
  Function.update threads id (some (call, phase))

/-- The call of a thread. -/
def caller (threads : Threads Call Phase) (id : Nat) : Option Call := (threads id).map Prod.fst

/-- A property of every thread. -/
def Every (property : Nat → Call → Phase → Prop) (threads : Threads Call Phase) : Prop :=
  ∀ id call phase, threads id = some (call, phase) → property id call phase

/-- What a step does to the threads, by the thread its event starts, if any. -/
inductive Moves (threads : Threads Call Phase) : Option (Nat × Call) → Threads Call Phase → Prop
  | stay : Moves threads none threads
  | start (id : Nat) (call : Call) (phase : Phase) (fresh : threads id = none) :
      Moves threads (some (id, call)) (threads.advance id call phase)
  | move (id : Nat) (call : Call) (phase next : Phase)
      (current : threads id = some (call, phase)) :
      Moves threads none (threads.advance id call next)

@[simp] theorem advance_self (threads : Threads Call Phase) (id : Nat) (call : Call)
    (phase : Phase) : threads.advance id call phase id = some (call, phase) :=
  Function.update_self _ _ _

theorem advance_of_ne (threads : Threads Call Phase) (id other : Nat) (call : Call)
    (phase : Phase) (different : other ≠ id) :
    threads.advance id call phase other = threads other :=
  Function.update_of_ne different _ _

/-- A thread after one of them has moved is the one that moved, or was there before. -/
theorem advance_cases (threads : Threads Call Phase) (id other : Nat) (call otherCall : Call)
    (phase otherPhase : Phase)
    (current : threads.advance id call phase other = some (otherCall, otherPhase)) :
    (other = id ∧ otherCall = call ∧ otherPhase = phase) ∨
      threads other = some (otherCall, otherPhase) := by
  by_cases same : other = id
  · subst same
    rw [advance_self, Option.some_inj, Prod.mk.injEq] at current
    exact Or.inl ⟨rfl, current.1.symm, current.2.symm⟩
  · rw [advance_of_ne threads id other call phase same] at current
    exact Or.inr current

theorem every_advance (property : Nat → Call → Phase → Prop) (threads : Threads Call Phase)
    (id : Nat) (call : Call) (phase : Phase) (holds : threads.Every property)
    (moved : property id call phase) : (threads.advance id call phase).Every property := by
  intro other otherCall otherPhase current
  rcases advance_cases threads id other call otherCall phase otherPhase current with
    ⟨rfl, rfl, rfl⟩ | earlier
  · exact moved
  · exact holds other otherCall otherPhase earlier

theorem caller_eq (threads : Threads Call Phase) (id : Nat) (call known : Call) (phase : Phase)
    (current : threads id = some (call, phase)) (caller : threads.caller id = some known) :
    known = call := by
  rw [Threads.caller, current] at caller
  exact (Option.some_inj.mp caller).symm

/-- A thread stays the call it is. -/
theorem Moves.caller_kept {threads next : Threads Call Phase} {started : Option (Nat × Call)}
    (moves : Moves threads started next) (id : Nat) (call : Call)
    (known : threads.caller id = some call) : next.caller id = some call := by
  cases moves with
  | stay => exact known
  | start other otherCall phase fresh =>
    have different : id ≠ other := by
      rintro rfl
      rw [caller, fresh] at known
      cases known
    rw [caller, advance_of_ne threads other id otherCall phase different]
    exact known
  | move other otherCall phase nextPhase current =>
    by_cases same : id = other
    · subst same
      rw [caller_eq threads id otherCall call phase current known, caller, advance_self]
      rfl
    · rw [caller, advance_of_ne threads other id otherCall nextPhase same]
      exact known

/-- A thread that is not there before the step is the one it starts. -/
theorem Moves.caller_new {threads next : Threads Call Phase} {started : Option (Nat × Call)}
    (moves : Moves threads started next) (id : Nat) (call : Call) (fresh : threads id = none)
    (known : next.caller id = some call) : started = some (id, call) := by
  obtain ⟨⟨found, phase⟩, current, rfl⟩ := Option.map_eq_some_iff.mp known
  cases moves with
  | stay =>
    rw [fresh] at current
    cases current
  | start other otherCall otherPhase _ =>
    rcases advance_cases threads other id otherCall found otherPhase phase current with
      ⟨rfl, rfl, _⟩ | earlier
    · rfl
    · rw [fresh] at earlier
      cases earlier
  | move other otherCall otherPhase nextPhase moving =>
    rcases advance_cases threads other id otherCall found nextPhase phase current with
      ⟨rfl, _, _⟩ | earlier
    · rw [fresh] at moving
      cases moving
    · rw [fresh] at earlier
      cases earlier

/-- The thread a step starts is not there before it. -/
theorem Moves.started {threads next : Threads Call Phase} {id : Nat} {call : Call}
    (moves : Moves threads (some (id, call)) next) :
    threads id = none ∧ next.caller id = some call := by
  cases moves with
  | start _ _ phase fresh =>
    refine ⟨fresh, ?_⟩
    rw [caller, advance_self]
    rfl

/-! ### Runs -/

section Runs

variable {State : Type w} {Event : Type x} (step : State → Event → Option State)
  (threads : State → Threads Call Phase) (startOf : Event → Option (Nat × Call))
  (moves : ∀ state event next, step state event = some next →
    Moves (threads state) (startOf event) (threads next))

include moves

theorem exec_caller (state final : State) (events : List Event)
    (run : Runs.exec step state events = some final) (id : Nat) (call : Call)
    (known : (threads state).caller id = some call) :
    (threads final).caller id = some call :=
  Runs.exec_keeps step (fun state => (threads state).caller id = some call) (fun _ => True)
    (fun state event next _ stepped => (moves state event next stepped).caller_kept id call)
    state final events (fun _ _ => trivial) run known

/-- A thread that an event of a run starts was not there before the run, and is the call it
started as when the run ends. -/
theorem caller_of_start (event : Event) (id : Nat) (call : Call)
    (starts : startOf event = some (id, call)) (state final : State) (events : List Event)
    (run : Runs.exec step state events = some final) (member : event ∈ events) :
    threads state id = none ∧ (threads final).caller id = some call := by
  obtain ⟨earlier, later, rfl⟩ := List.append_of_mem member
  obtain ⟨middle, ranEarlier, ranLater⟩ := Runs.exec_append _ _ _ _ _ run
  obtain ⟨next, stepped, ranLater⟩ := Runs.exec_cons _ _ _ _ _ ranLater
  obtain ⟨fresh, started⟩ := Moves.started (starts ▸ moves middle event next stepped)
  refine ⟨?_, exec_caller step threads startOf moves next final later ranLater id call started⟩
  cases current : threads state id with
  | none => rfl
  | some entry =>
    have known := exec_caller step threads startOf moves state middle earlier ranEarlier id
      entry.1 (by rw [caller, current]; rfl)
    rw [caller, fresh] at known
    cases known

omit moves in
/-- Every thread is started by one of the events. -/
def StartedBy (events : List Event) (threads : Threads Call Phase) : Prop :=
  ∀ id call, threads.caller id = some call → ∃ event ∈ events, startOf event = some (id, call)

theorem startedBy_step (events : List Event) (state : State) (event : Event) (next : State)
    (member : event ∈ events) (stepped : step state event = some next)
    (started : StartedBy startOf events (threads state)) :
    StartedBy startOf events (threads next) := by
  intro id call known
  have moved := moves state event next stepped
  cases current : threads state id with
  | none => exact ⟨event, member, moved.caller_new id call current known⟩
  | some entry =>
    have caller : (threads state).caller id = some entry.1 := by rw [Threads.caller, current]; rfl
    have kept := moved.caller_kept id entry.1 caller
    rw [known, Option.some_inj] at kept
    exact started id call (kept ▸ caller)

end Runs

end Threads

end SharedGo
