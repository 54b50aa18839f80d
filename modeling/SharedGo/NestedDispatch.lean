/-
This file is about chains of handlers that may dispatch their request again. A
dispatch finds the chain of a request and serves it; a handler of the chain may run
the handlers behind it, drop them, or suspend the chain and have its request
dispatched anew, with what the handlers share reset. What is pending after that is
up to the engine, which may or may not restore it.

The log of a request has the handlers in the order in which they are entered. A
handler that neither drops the pending handlers nor dispatches again is entered once
and puts itself in front of the log of the handlers behind it, wherever it calls
them, or if it leaves that to the chain.
-/

import Mathlib.Data.List.Basic

namespace SharedGo.Dispatch

/-- The code of a handler. -/
inductive Code (Context : Type) where
  | done
  | act (effect : Context → Context) (rest : Context → Code Context)
  | next (rest : Context → Code Context)
  | abort (rest : Context → Code Context)
  | redispatch (rest : Context → Code Context)

structure Handler (Tag Context : Type) where
  tag : Tag
  body : Context → Code Context

/-- The state of a request. -/
structure State (Tag Context : Type) where
  context : Context
  pending : List (Handler Tag Context)
  entered : List (Tag × Context)

/-- The chain of a request, what is reset before a request is dispatched again, and the handlers
that are pending afterwards. -/
structure Engine (Tag Context : Type) where
  chain : Context → List (Handler Tag Context)
  reset : Context → Context
  restore : State Tag Context → State Tag Context → List (Handler Tag Context)

section Serving

variable {Tag Context Key : Type}

def Code.run (next redispatch : State Tag Context → State Tag Context) :
    Code Context → State Tag Context → State Tag Context
  | .done, state => state
  | .act effect rest, state =>
    (rest (effect state.context)).run next redispatch
      { state with context := effect state.context }
  | .next rest, state => (rest (next state).context).run next redispatch (next state)
  | .abort rest, state => (rest state.context).run next redispatch { state with pending := [] }
  | .redispatch rest, state =>
    (rest (redispatch state).context).run next redispatch (redispatch state)

/-- Runs the pending handlers. Each takes itself off the list, so its length is enough fuel. -/
def serve (redispatch : State Tag Context → State Tag Context) :
    Nat → State Tag Context → State Tag Context
  | 0, state => state
  | fuel + 1, state =>
    match state.pending with
    | [] => state
    | handler :: rest =>
      serve redispatch fuel ((handler.body state.context).run (serve redispatch fuel) redispatch
        ⟨state.context, rest, state.entered ++ [(handler.tag, state.context)]⟩)

namespace Engine

variable (engine : Engine Tag Context)

/-- Suspends a chain while its request is dispatched again. -/
def suspend (dispatch : State Tag Context → State Tag Context) (state : State Tag Context) :
    State Tag Context :=
  let after := dispatch { state with context := engine.reset state.context }
  { after with pending := engine.restore state after }

/-- Dispatches a request, which may be dispatched again to some depth. -/
def dispatch : Nat → State Tag Context → State Tag Context
  | 0, state => state
  | depth + 1, state =>
    serve (engine.suspend (dispatch depth)) (engine.chain state.context).length
      { state with pending := engine.chain state.context }

end Engine

/-! ### Logs -/

variable (redispatch : State Tag Context → State Tag Context) (key : Context → Key)

/-- The handlers that were entered, with what the key shows of their contexts. -/
def logOf (entered : List (Tag × Context)) : List (Tag × Key) :=
  entered.map fun entry => (entry.1, key entry.2)

theorem logOf_concat (entered : List (Tag × Context)) (tag : Tag) (context : Context) :
    logOf key (entered ++ [(tag, context)]) = logOf key entered ++ [(tag, key context)] :=
  List.map_append

/-- No handler is pending, and those of a log were entered. -/
structure Ended (log : List (Tag × Key)) (state : State Tag Context) : Prop where
  log : logOf key state.entered = log
  pending : state.pending = []

/-- From every context with a key, the handlers of a log are entered. -/
def Enters (handlers : List (Handler Tag Context)) (current : Key) (log : List (Tag × Key)) :
    Prop :=
  ∀ fuel, handlers.length ≤ fuel → ∀ context entered, key context = current →
    Ended key (logOf key entered ++ log) (serve redispatch fuel ⟨context, handlers, entered⟩)

/-- The handlers behind some code still wait, or were all served. -/
def Served (handlers : List (Handler Tag Context)) (current : Key)
    (before log : List (Tag × Key)) (state : State Tag Context) : Prop :=
  (state.pending = handlers ∧ key state.context = current ∧ logOf key state.entered = before) ∨
    Ended key (before ++ log) state

/-- Code that neither drops the pending handlers nor dispatches again, and keeps the key. -/
def Code.Flows : Code Context → Prop
  | .done => True
  | .act effect rest =>
    (∀ context, key (effect context) = key context) ∧ ∀ context, (rest context).Flows
  | .next rest => ∀ context, (rest context).Flows
  | .abort _ => False
  | .redispatch _ => False

theorem serve_of_ended (fuel : Nat) (state : State Tag Context) (empty : state.pending = []) :
    serve redispatch fuel state = state := by
  cases fuel with
  | zero => rfl
  | succ fuel => simp [serve, empty]

theorem enters_nil (current : Key) : Enters redispatch key ([] : List (Handler Tag Context))
    current [] := by
  intro fuel _ context entered _
  rw [serve_of_ended redispatch fuel _ rfl]
  exact ⟨(List.append_nil _).symm, rfl⟩

variable {redispatch key} {handlers : List (Handler Tag Context)} {current : Key}
  {log : List (Tag × Key)}

/-- A handler is entered before its code runs, and the chain goes on after it. -/
theorem enters_cons (handler : Handler Tag Context)
    (runs : ∀ fuel, handlers.length ≤ fuel → ∀ context entered, key context = current →
      Ended key (logOf key entered ++ log) (serve redispatch fuel
        ((handler.body context).run (serve redispatch fuel) redispatch
          ⟨context, handlers, entered⟩))) :
    Enters redispatch key (handler :: handlers) current ((handler.tag, current) :: log) := by
  intro fuel enough context entered isCurrent
  cases fuel with
  | zero => cases enough
  | succ fuel =>
    have ended := runs fuel (Nat.le_of_succ_le_succ enough) context
      (entered ++ [(handler.tag, context)]) isCurrent
    rw [logOf_concat, isCurrent, List.append_assoc] at ended
    exact ended

theorem run_flows (enters : Enters redispatch key handlers current log) (fuel : Nat)
    (enough : handlers.length ≤ fuel) (before : List (Tag × Key)) (code : Code Context)
    (flows : code.Flows key) (state : State Tag Context)
    (served : Served key handlers current before log state) :
    Served key handlers current before log
      (code.run (serve redispatch fuel) redispatch state) := by
  induction code generalizing state with
  | done => exact served
  | act effect rest inductionHypothesis =>
    refine inductionHypothesis _ (flows.2 _) _ ?_
    rcases served with ⟨waiting, isCurrent, isBefore⟩ | ⟨isLog, empty⟩
    · exact Or.inl ⟨waiting, (flows.1 _).trans isCurrent, isBefore⟩
    · exact Or.inr ⟨isLog, empty⟩
  | next rest inductionHypothesis =>
    refine inductionHypothesis _ (flows _) _ (Or.inr ?_)
    rcases served with ⟨waiting, isCurrent, isBefore⟩ | ended
    · obtain ⟨context, pending, entered⟩ := state
      obtain rfl : pending = handlers := waiting
      rw [← isBefore]
      exact enters fuel enough context entered isCurrent
    · rwa [serve_of_ended redispatch fuel state ended.pending]
  | abort rest => exact flows.elim
  | redispatch rest => exact flows.elim

/-- A handler that lets the request flow is entered before the handlers behind it. -/
theorem enters_flowing (enters : Enters redispatch key handlers current log)
    (handler : Handler Tag Context) (flows : ∀ context, (handler.body context).Flows key) :
    Enters redispatch key (handler :: handlers) current ((handler.tag, current) :: log) := by
  refine enters_cons handler fun fuel enough context entered isCurrent => ?_
  have served := run_flows enters fuel enough (logOf key entered) _ (flows context)
    ⟨context, handlers, entered⟩ (Or.inl ⟨rfl, isCurrent, rfl⟩)
  generalize (handler.body context).run (serve redispatch fuel) redispatch
    ⟨context, handlers, entered⟩ = after at served ⊢
  rcases served with ⟨waiting, stillCurrent, isBefore⟩ | ended
  · obtain ⟨left, pending, reached⟩ := after
    obtain rfl : pending = handlers := waiting
    rw [← isBefore]
    exact enters fuel enough left reached stillCurrent
  · rwa [serve_of_ended redispatch fuel after ended.pending]

theorem enters_front (enters : Enters redispatch key handlers current log)
    (front : List (Handler Tag Context))
    (flows : ∀ handler ∈ front, ∀ context, (handler.body context).Flows key) :
    Enters redispatch key (front ++ handlers) current
      (front.map (fun handler => (handler.tag, current)) ++ log) := by
  induction front with
  | nil => exact enters
  | cons handler front inductionHypothesis =>
    obtain ⟨first, others⟩ := List.forall_mem_cons.mp flows
    exact enters_flowing (inductionHypothesis others) handler first

end Serving

end SharedGo.Dispatch
