/-
This file is a library for functions that are run once. Any number of callers ask for
the function, at any time; the first that gets the lock performs its actions, one
after the other, while the environment goes on, and the others wait until they are
all done. At every moment the actions performed so far are the first few, each
performed once, and a caller has returned only if all of them were.

The rule of invariants is for properties of the world that depend on how many of the
actions were performed: the environment keeps them, and the next action carries them
to the next number.
-/

import SharedGo.Runs

namespace SharedGo.Once

/-- A call: before the lock, inside the function after some of its actions, or over. -/
inductive Call where
  | waiting
  | inside (performed : Nat)
  | returned
  deriving DecidableEq, Repr

inductive Phase where
  | fresh
  | running
  | done
  deriving DecidableEq, Repr

/-- The world, whether the function was run, and the calls. -/
structure State (World : Type) where
  world : World
  phase : Phase
  calls : List Call

/-- An event of the environment, a new call, or a step of one of the calls. -/
inductive Event (Env : Type) where
  | environment (event : Env)
  | call
  | enter (caller : Nat)
  | perform (caller : Nat)
  | leave (caller : Nat)
  | skip (caller : Nat)

/-- The steps of the calls. -/
def Event.internal {Env : Type} : Event Env → Bool
  | .environment _ => false
  | .call => false
  | _ => true

section Once

variable {World Env : Type} (react : World → Env → Option World) (body : List (World → World))

def State.initial (world : World) : State World := ⟨world, .fresh, []⟩

def State.step (state : State World) : Event Env → Option (State World)
  | .environment event => (react state.world event).map fun world => { state with world }
  | .call => some { state with calls := state.calls ++ [.waiting] }
  | .enter caller =>
    if state.phase = .fresh ∧ state.calls[caller]? = some .waiting then
      some { state with phase := .running, calls := state.calls.set caller (.inside 0) }
    else none
  | .perform caller =>
    match state.calls[caller]? with
    | some (.inside performed) =>
      body[performed]?.map fun action => { state with
        world := action state.world
        calls := state.calls.set caller (.inside (performed + 1)) }
    | _ => none
  | .leave caller =>
    if state.calls[caller]? = some (.inside body.length) then
      some { state with phase := .done, calls := state.calls.set caller .returned }
    else none
  | .skip caller =>
    if state.phase = .done ∧ state.calls[caller]? = some .waiting then
      some { state with calls := state.calls.set caller .returned }
    else none

/-! ### Where the calls are -/

/-- The calls after some of the actions were performed. -/
inductive Position (length : Nat) (phase : Phase) (calls : List Call) : Nat → Prop
  | fresh (isFresh : phase = .fresh) (waiting : ∀ call ∈ calls, call = .waiting) :
      Position length phase calls 0
  | running (count caller : Nat) (isRunning : phase = .running) (bounded : count ≤ length)
      (inside : calls[caller]? = some (.inside count))
      (others : ∀ (other : Nat) call, other ≠ caller → calls[other]? = some call →
        call = .waiting) :
      Position length phase calls count
  | done (isDone : phase = .done) (others : ∀ call ∈ calls, call = .waiting ∨ call = .returned) :
      Position length phase calls length

variable {length count : Nat} {phase : Phase} {calls : List Call}

/-- Whoever is inside has performed the actions so far, and nobody else has got the lock. -/
theorem Position.of_inside (position : Position length phase calls count) (caller performed : Nat)
    (inside : calls[caller]? = some (.inside performed)) :
    phase = .running ∧ performed = count ∧ count ≤ length ∧
      ∀ (other : Nat) call, other ≠ caller → calls[other]? = some call → call = .waiting := by
  have member := List.mem_of_getElem? inside
  cases position with
  | fresh isFresh waiting => cases waiting _ member
  | running _ holder isRunning bounded isInside others =>
    by_cases same : caller = holder
    · subst same
      rw [isInside] at inside
      cases inside
      exact ⟨isRunning, rfl, bounded, others⟩
    · cases others caller _ same inside
  | done isDone others =>
    rcases others _ member with isWaiting | isReturned
    · cases isWaiting
    · cases isReturned

/-- When a call has returned, all actions were performed. -/
theorem Position.of_returned (position : Position length phase calls count)
    (returned : .returned ∈ calls) : count = length := by
  cases position with
  | fresh isFresh waiting => cases waiting _ returned
  | running _ holder isRunning bounded inside others =>
    obtain ⟨other, found⟩ := List.getElem?_of_mem returned
    by_cases same : other = holder
    · subst same
      rw [inside] at found
      cases found
    · cases others other _ same found
  | done isDone others => rfl

theorem Position.call (position : Position length phase calls count) :
    Position length phase (calls ++ [.waiting]) count := by
  cases position with
  | fresh isFresh waiting =>
    refine .fresh isFresh fun call member => ?_
    rcases List.mem_append.mp member with earlier | added
    · exact waiting call earlier
    · exact List.mem_singleton.mp added
  | running _ holder isRunning bounded inside others =>
    have known := (List.getElem?_eq_some_iff.mp inside).1
    refine .running _ holder isRunning bounded ?_ fun other call different found => ?_
    · rwa [List.getElem?_append_left known]
    · by_cases within : other < calls.length
      · rw [List.getElem?_append_left within] at found
        exact others other call different found
      · rw [List.getElem?_append_right (Nat.le_of_not_lt within)] at found
        exact List.mem_singleton.mp (List.mem_of_getElem? found)
  | done isDone others =>
    refine .done isDone fun call member => ?_
    rcases List.mem_append.mp member with earlier | added
    · exact others call earlier
    · exact Or.inl (List.mem_singleton.mp added)

/-- A call of the holder that moves on inside the function. -/
theorem Position.move (caller performed : Nat) (bounded : performed ≤ length)
    (known : caller < calls.length)
    (others : ∀ (other : Nat) call, other ≠ caller → calls[other]? = some call →
      call = .waiting) :
    Position length .running (calls.set caller (.inside performed)) performed := by
  refine .running _ caller rfl bounded ?_ fun other call different found => ?_
  · rw [List.getElem?_set_self known]
  · rw [List.getElem?_set_ne (Ne.symm different)] at found
    exact others other call different found

theorem Position.finish (caller : Nat)
    (others : ∀ (other : Nat) call, other ≠ caller → calls[other]? = some call →
      call = .waiting ∨ call = .returned) :
    Position length .done (calls.set caller .returned) length := by
  refine .done rfl fun call member => ?_
  obtain ⟨other, found⟩ := List.getElem?_of_mem member
  by_cases same : other = caller
  · subst same
    rw [List.getElem?_set_self' ] at found
    obtain ⟨_, _, rfl⟩ := Option.map_eq_some_iff.mp found
    exact Or.inr rfl
  · rw [List.getElem?_set_ne (Ne.symm same)] at found
    exact others other call same found

/-! ### One step -/

/-- What an event does to the world, after some of the actions. -/
inductive Stepped (state next : State World) (count : Nat) : Event Env → Nat → Prop
  | environment (event : Env) (reacts : react state.world event = some next.world) :
      Stepped state next count (.environment event) count
  | control (event : Event Env) (notEnvironment : ∀ other, event ≠ .environment other)
      (notPerform : ∀ caller, event ≠ .perform caller) (same : next.world = state.world) :
      Stepped state next count event count
  | perform (caller : Nat) (action : World → World) (isNext : body[count]? = some action)
      (acts : next.world = action state.world) :
      Stepped state next count (.perform caller) (count + 1)

theorem step_position (state next : State World) (event : Event Env)
    (stepped : state.step react body event = some next)
    (position : Position body.length state.phase state.calls count) :
    ∃ after, Stepped react body state next count event after ∧
      Position body.length next.phase next.calls after := by
  cases event with
  | environment event =>
    obtain ⟨world, reacts, rfl⟩ := Option.map_eq_some_iff.mp stepped
    exact ⟨count, .environment event reacts, position⟩
  | call =>
    obtain rfl := Option.some_inj.mp stepped
    exact ⟨count, .control _ (by simp) (by simp) rfl, position.call⟩
  | enter caller =>
    obtain ⟨⟨isFresh, waits⟩, isNext⟩ := Option.ite_none_right_eq_some.mp stepped
    obtain rfl := Option.some_inj.mp isNext
    have known := (List.getElem?_eq_some_iff.mp waits).1
    cases position with
    | fresh _ waiting =>
      refine ⟨0, .control _ (by simp) (by simp) rfl, .move caller 0 (Nat.zero_le _) known ?_⟩
      exact fun other call _ found => waiting call (List.mem_of_getElem? found)
    | running _ _ isRunning =>
      rw [isFresh] at isRunning
      cases isRunning
    | done isDone =>
      rw [isFresh] at isDone
      cases isDone
  | perform caller =>
    rw [State.step] at stepped
    split at stepped
    · rename_i performed inside
      obtain ⟨action, isNext, rfl⟩ := Option.map_eq_some_iff.mp stepped
      obtain ⟨isRunning, rfl, -, others⟩ := position.of_inside caller performed inside
      have known := (List.getElem?_eq_some_iff.mp inside).1
      have bounded := (List.getElem?_eq_some_iff.mp isNext).1
      refine ⟨performed + 1, .perform caller action isNext rfl, ?_⟩
      simp only [isRunning]
      exact .move caller (performed + 1) bounded known others
    · cases stepped
  | leave caller =>
    obtain ⟨inside, isNext⟩ := Option.ite_none_right_eq_some.mp stepped
    obtain rfl := Option.some_inj.mp isNext
    obtain ⟨-, rfl, -, others⟩ := position.of_inside caller body.length inside
    refine ⟨_, .control _ (by simp) (by simp) rfl, .finish caller ?_⟩
    exact fun other call different found => Or.inl (others other call different found)
  | skip caller =>
    obtain ⟨⟨isDone, waits⟩, isNext⟩ := Option.ite_none_right_eq_some.mp stepped
    obtain rfl := Option.some_inj.mp isNext
    cases position with
    | fresh isFresh =>
      rw [isDone] at isFresh
      cases isFresh
    | running _ _ isRunning =>
      rw [isDone] at isRunning
      cases isRunning
    | done _ others =>
      refine ⟨_, .control _ (by simp) (by simp) rfl, ?_⟩
      simp only [isDone]
      exact .finish caller fun other call _ found => others call (List.mem_of_getElem? found)

/-! ### Whole runs -/

/-- The rule of invariants: what the environment keeps and each action carries to the next number
holds along every run, for the number of actions that the calls have performed. -/
theorem exec_keeps (world : World) (Holds : List (Event Env) → Nat → World → Prop)
    (start : Holds [] 0 world)
    (keeps : ∀ past count event after (state next : State World),
      Stepped react body state next count event after → Holds past count state.world →
        Holds (past ++ [event]) after next.world)
    (events : List (Event Env)) (final : State World)
    (run : Runs.exec (State.step react body) (.initial world) events = some final) :
    ∃ count, Holds events count final.world ∧
      Position body.length final.phase final.calls count := by
  refine Runs.exec_histories (State.step react body) (.initial world) (fun past state =>
    ∃ count, Holds past count state.world ∧ Position body.length state.phase state.calls count)
    ⟨0, start, .fresh rfl fun call member => absurd member List.not_mem_nil⟩ ?_ events final run
  rintro past state event next - stepped ⟨count, holds, position⟩
  obtain ⟨after, isStep, moved⟩ := step_position react body state next event stepped position
  exact ⟨after, keeps past count event after state next isStep holds, moved⟩

/-! ### Coming to rest -/

/-- The steps that a call has left. -/
def Call.left (length : Nat) : Call → Nat
  | .waiting => length + 2
  | .inside performed => length + 1 - performed
  | .returned => 0

/-- The steps that all calls have left. -/
def left (length : Nat) : List Call → Nat
  | [] => 0
  | call :: rest => call.left length + left length rest

theorem left_set (caller : Nat) (before after : Call) (found : calls[caller]? = some before)
    (less : after.left length < before.left length) :
    left length (calls.set caller after) < left length calls := by
  induction calls generalizing caller with
  | nil => cases found
  | cons first rest inductionHypothesis =>
    cases caller with
    | zero =>
      obtain rfl := Option.some_inj.mp found
      simpa [left] using less
    | succ caller =>
      have further := inductionHypothesis caller found
      simpa [left] using further

/-- Every step of a call leaves it fewer. -/
theorem step_left (state next : State World) (event : Event Env)
    (isInternal : event.internal = true) (stepped : state.step react body event = some next) :
    left body.length next.calls < left body.length state.calls := by
  cases event with
  | environment event => cases isInternal
  | call => cases isInternal
  | enter caller =>
    obtain ⟨⟨_, waits⟩, isNext⟩ := Option.ite_none_right_eq_some.mp stepped
    obtain rfl := Option.some_inj.mp isNext
    exact left_set caller _ _ waits (by simp [Call.left])
  | perform caller =>
    rw [State.step] at stepped
    split at stepped
    · rename_i performed inside
      obtain ⟨action, isNext, rfl⟩ := Option.map_eq_some_iff.mp stepped
      have bounded := (List.getElem?_eq_some_iff.mp isNext).1
      refine left_set caller _ _ inside ?_
      simp only [Call.left]
      omega
    · cases stepped
  | leave caller =>
    obtain ⟨inside, isNext⟩ := Option.ite_none_right_eq_some.mp stepped
    obtain rfl := Option.some_inj.mp isNext
    exact left_set caller _ _ inside (by simp [Call.left])
  | skip caller =>
    obtain ⟨⟨_, waits⟩, isNext⟩ := Option.ite_none_right_eq_some.mp stepped
    obtain rfl := Option.some_inj.mp isNext
    exact left_set caller _ _ waits (by simp [Call.left])

/-- When no call can take a step, all have returned. -/
theorem returned_of_quiet (state : State World)
    (position : Position body.length state.phase state.calls count)
    (quiet : ∀ event : Event Env, event.internal = true → state.step react body event = none)
    (call : Call) (member : call ∈ state.calls) : call = .returned := by
  obtain ⟨caller, found⟩ := List.getElem?_of_mem member
  cases position with
  | fresh isFresh waiting =>
    obtain rfl := waiting call member
    have enters := quiet (.enter caller) rfl
    simp [State.step, isFresh, found] at enters
  | running _ holder isRunning bounded inside others =>
    rcases Nat.lt_or_eq_of_le bounded with more | all
    · have performs := quiet (.perform holder) rfl
      simp [State.step, inside, more] at performs
    · have leaves := quiet (.leave holder) rfl
      simp [State.step, inside, all] at leaves
  | done isDone others =>
    rcases others call member with rfl | rfl
    · have skips := quiet (.skip caller) rfl
      simp [State.step, isDone, found] at skips
    · rfl

end Once

end SharedGo.Once
