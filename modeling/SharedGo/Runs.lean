/-
This file runs event systems. A system is a step function that is defined on the
events its state allows; a run is a list of events, each allowed where it stands.
The rule of invariants carries a property along a run whose events all meet a
guard: what is known of the events of one part of a run (that none of them grants,
that none of them fills) is the guard of that part. A condition may also depend on
the state an event meets, and an invariant on the events so far.
-/

import Mathlib.Data.List.Basic

namespace SharedGo.Runs

universe u v

variable {State : Type u} {Event : Type v} (step : State → Event → Option State)

/-- The state a run ends in, if every event is allowed where it stands. -/
def exec (state : State) : List Event → Option State
  | [] => some state
  | event :: rest =>
    match step state event with
    | none => none
    | some next => exec next rest

theorem exec_cons (state final : State) (event : Event) (rest : List Event)
    (run : exec step state (event :: rest) = some final) :
    ∃ next, step state event = some next ∧ exec step next rest = some final := by
  rw [exec] at run
  split at run
  · cases run
  · rename_i next stepped
    exact ⟨next, stepped, run⟩

theorem exec_append (state final : State) (first second : List Event)
    (run : exec step state (first ++ second) = some final) :
    ∃ middle, exec step state first = some middle ∧ exec step middle second = some final := by
  induction first generalizing state with
  | nil => exact ⟨state, rfl, run⟩
  | cons event rest inductionHypothesis =>
    obtain ⟨next, stepped, run⟩ := exec_cons step state final event (rest ++ second) run
    obtain ⟨middle, ranFirst, ranSecond⟩ := inductionHypothesis next run
    refine ⟨middle, ?_, ranSecond⟩
    rw [exec, stepped]
    exact ranFirst

theorem exec_append_of (state middle final : State) (first second : List Event)
    (ranFirst : exec step state first = some middle)
    (ranSecond : exec step middle second = some final) :
    exec step state (first ++ second) = some final := by
  induction first generalizing state with
  | nil =>
    obtain rfl := Option.some_inj.mp ranFirst
    exact ranSecond
  | cons event rest inductionHypothesis =>
    obtain ⟨next, stepped, ranFirst⟩ := exec_cons step state middle event rest ranFirst
    rw [List.cons_append, exec, stepped]
    exact inductionHypothesis next ranFirst

/-- The rule of invariants that may speak about the events so far. -/
theorem exec_records (invariant : List Event → State → Prop)
    (keeps : ∀ past state event next, step state event = some next → invariant past state →
      invariant (past ++ [event]) next)
    (state final : State) (past events : List Event)
    (run : exec step state events = some final) (holds : invariant past state) :
    invariant (past ++ events) final := by
  induction events generalizing state past with
  | nil =>
    obtain rfl := Option.some_inj.mp run
    rwa [List.append_nil]
  | cons event rest inductionHypothesis =>
    obtain ⟨next, stepped, run⟩ := exec_cons step state final event rest run
    have recorded := inductionHypothesis next (past ++ [event]) run
      (keeps past state event next stepped holds)
    rwa [List.append_assoc] at recorded

/-- The rule of invariants over the whole history of a system. -/
theorem exec_histories (initial : State) (invariant : List Event → State → Prop)
    (start : invariant [] initial)
    (keeps : ∀ past state event next, exec step initial past = some state →
      step state event = some next → invariant past state → invariant (past ++ [event]) next)
    (events : List Event) (final : State) (run : exec step initial events = some final) :
    invariant events final := by
  refine (exec_records step (fun past state => exec step initial past = some state ∧
    invariant past state) ?_ initial final [] events run ⟨rfl, start⟩).2
  rintro past state event next stepped ⟨ran, holds⟩
  refine ⟨exec_append_of step initial state next past [event] ran ?_,
    keeps past state event next ran stepped holds⟩
  rw [exec, stepped]
  rfl

/-! ### Conditions on the state an event meets -/

/-- Every event of a run meets the condition where it stands. -/
def Meets (condition : State → Event → Prop) (state : State) (events : List Event) : Prop :=
  ∀ before event after middle, events = before ++ event :: after →
    exec step state before = some middle → condition middle event

theorem meets_nil (condition : State → Event → Prop) (state : State) :
    Meets step condition state [] := by
  intro before event after middle split
  simp at split

/-- The first event meets the condition, and so do the others from where it leads. -/
theorem meets_cons (condition : State → Event → Prop) (state next : State) (event : Event)
    (rest : List Event) (stepped : step state event = some next) :
    Meets step condition state (event :: rest) ↔
      condition state event ∧ Meets step condition next rest := by
  constructor
  · intro meets
    refine ⟨meets [] event rest state rfl rfl, ?_⟩
    intro before other after middle split run
    refine meets (event :: before) other after middle (by rw [split]; rfl) ?_
    rw [exec, stepped]
    exact run
  · rintro ⟨first, others⟩ before other after middle split run
    cases before with
    | nil =>
      obtain ⟨rfl, rfl⟩ := List.cons.inj split
      obtain rfl := Option.some_inj.mp run
      exact first
    | cons head before =>
      obtain ⟨rfl, tail⟩ := List.cons.inj split
      rw [exec, stepped] at run
      exact others before other after middle tail run

/-- The rule of invariants for runs whose events meet a condition. -/
theorem exec_keeps_of_meets (invariant : State → Prop) (condition : State → Event → Prop)
    (guard : Event → Prop)
    (keeps : ∀ state event next, guard event → condition state event →
      step state event = some next → invariant state → invariant next)
    (state final : State) (events : List Event) (guarded : ∀ event ∈ events, guard event)
    (meets : Meets step condition state events)
    (run : exec step state events = some final) (holds : invariant state) : invariant final := by
  induction events generalizing state with
  | nil => exact Option.some_inj.mp run ▸ holds
  | cons event rest inductionHypothesis =>
    obtain ⟨next, stepped, run⟩ := exec_cons step state final event rest run
    obtain ⟨first, others⟩ := (meets_cons step condition state next event rest stepped).mp meets
    have holdsNext :=
      keeps state event next (guarded event List.mem_cons_self) first stepped holds
    exact inductionHypothesis next
      (fun other member => guarded other (List.mem_cons_of_mem _ member)) others run holdsNext

/-- The rule of invariants: what every guarded step keeps holds after a guarded run. -/
theorem exec_keeps (invariant : State → Prop) (guard : Event → Prop)
    (keeps : ∀ state event next, guard event → step state event = some next →
      invariant state → invariant next)
    (state final : State) (events : List Event) (guarded : ∀ event ∈ events, guard event)
    (run : exec step state events = some final) (holds : invariant state) : invariant final :=
  exec_keeps_of_meets step invariant (fun _ _ => True) guard
    (fun state event next allowed _ => keeps state event next allowed) state final events guarded
    (fun _ _ _ _ _ _ => trivial) run holds

/-! ### Runs that come to an end -/

/-- However the system goes on from here, it takes finitely many steps. -/
def Terminates (state : State) : Prop :=
  Acc (fun next current => ∃ event, step current event = some next) state

theorem terminates_of_steps (state : State)
    (steps : ∀ event next, step state event = some next → Terminates step next) :
    Terminates step state :=
  Acc.intro state fun next ⟨event, stepped⟩ => steps event next stepped

/-- Events that make a rank smaller happen no more often than the rank says. -/
theorem exec_length_le (rank : State → Nat) (invariant : State → Prop) (guard : Event → Prop)
    (decreases : ∀ state event next, guard event → step state event = some next →
      invariant state → rank next < rank state ∧ invariant next)
    (state final : State) (events : List Event) (guarded : ∀ event ∈ events, guard event)
    (run : exec step state events = some final) (holds : invariant state) :
    events.length ≤ rank state := by
  induction events generalizing state with
  | nil => exact Nat.zero_le _
  | cons event rest inductionHypothesis =>
    obtain ⟨next, stepped, run⟩ := exec_cons step state final event rest run
    obtain ⟨less, kept⟩ := decreases state event next (guarded event List.mem_cons_self) stepped
      holds
    have shorter := inductionHypothesis next
      (fun other member => guarded other (List.mem_cons_of_mem _ member)) run kept
    exact Nat.lt_of_le_of_lt shorter less

/-! ### What happens in a run -/

/-- Some event of a run meets the condition where it stands. -/
def Occurs (condition : State → Event → Prop) (state : State) (events : List Event) : Prop :=
  ∃ before event after middle, events = before ++ event :: after ∧
    exec step state before = some middle ∧ condition middle event

theorem not_occurs_nil (condition : State → Event → Prop) (state : State) :
    ¬Occurs step condition state [] := by
  rintro ⟨before, event, after, middle, split, _⟩
  simp at split

/-- What happens in a longer run happened before, or at its last event. -/
theorem occurs_concat (condition : State → Event → Prop) (state middle : State)
    (past : List Event) (event : Event) (ran : exec step state past = some middle) :
    Occurs step condition state (past ++ [event]) ↔
      Occurs step condition state past ∨ condition middle event := by
  constructor
  · rintro ⟨before, other, after, reached, split, ranBefore, holds⟩
    rcases List.eq_nil_or_concat after with rfl | ⟨earlier, last, rfl⟩
    · obtain ⟨rfl, same⟩ := List.append_inj' split rfl
      obtain rfl := List.singleton_inj.mp same
      rw [ranBefore, Option.some_inj] at ran
      exact Or.inr (ran ▸ holds)
    · rw [List.concat_eq_append, ← List.cons_append, ← List.append_assoc] at split
      obtain ⟨rfl, _⟩ := List.append_inj' split rfl
      exact Or.inl ⟨before, other, earlier, reached, rfl, ranBefore, holds⟩
  · rintro (⟨before, other, after, reached, rfl, ranBefore, holds⟩ | holds)
    · exact ⟨before, other, after ++ [event], reached, by simp, ranBefore, holds⟩
    · exact ⟨past, event, [], middle, rfl, ran, holds⟩

/-- What happens in a run happens in every longer one. -/
theorem occurs_append (condition : State → Event → Prop) (state : State)
    (past more : List Event) (happened : Occurs step condition state past) :
    Occurs step condition state (past ++ more) := by
  obtain ⟨before, other, after, reached, rfl, ranBefore, holds⟩ := happened
  exact ⟨before, other, after ++ more, reached, by simp, ranBefore, holds⟩

/-! ### What is observed along a run -/

/-- The last event adds what is read off it. -/
theorem filterMap_concat {Reading : Type} (read : Event → Option Reading) (past : List Event)
    (event : Event) :
    (past ++ [event]).filterMap read = past.filterMap read ++ (read event).toList := by
  rw [List.filterMap_append]
  cases shown : read event with
  | none => simp [shown]
  | some reading => simp [shown]

/-- An event that shows nothing adds nothing. -/
theorem filterMap_concat_none {Reading : Type} (read : Event → Option Reading)
    (past : List Event) (event : Event) (silent : read event = none) :
    (past ++ [event]).filterMap read = past.filterMap read := by
  rw [filterMap_concat, silent, Option.toList_none, List.append_nil]

/-- What the events of a run show where they stand. -/
def observations {Observation : Type} (observe : State → Event → Option Observation) :
    State → List Event → List Observation
  | _, [] => []
  | state, event :: rest =>
    match step state event with
    | none => []
    | some next => (observe state event).toList ++ observations observe next rest

/-- The last event of a run adds what it shows. -/
theorem observations_concat {Observation : Type} (observe : State → Event → Option Observation)
    (state middle next : State) (past : List Event) (event : Event)
    (ran : exec step state past = some middle) (stepped : step middle event = some next) :
    observations step observe state (past ++ [event]) =
      observations step observe state past ++ (observe middle event).toList := by
  induction past generalizing state with
  | nil =>
    obtain rfl := Option.some_inj.mp ran
    simp [observations, stepped]
  | cons first past inductionHypothesis =>
    obtain ⟨reached, steppedFirst, ranRest⟩ := exec_cons step state middle first past ran
    simp only [List.cons_append, observations, steppedFirst, inductionHypothesis reached ranRest,
      List.append_assoc]

end SharedGo.Runs
