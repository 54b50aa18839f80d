/-
This file is a library for chains of request handlers. A handler is a program that
changes the context of the request, runs the handlers that are still pending, or
drops them; it may do so in any order and any number of times. Handlers that a
handler leaves pending run after it. The state of a request keeps, for each
handler that was entered, how many were pending behind it and the context it was
entered with.

Two rules say when handlers behind a guard run: nothing behind a guard is entered
unless the guard let the request pass, and the last handler behind a row of gates is
entered exactly when all of them let the request through.
-/

import Mathlib.Data.List.Basic

namespace SharedGo.Gin

/-- The code of a handler. -/
inductive Program (Context : Type) where
  | done
  | act (effect : Context → Context) (rest : Context → Program Context)
  | next (rest : Context → Program Context)
  | abort (rest : Context → Program Context)

/-- A handler, with the name of its function. It can read the names of the whole chain. -/
structure Handler (Context : Type) where
  name : String
  body : List String → Context → Program Context

/-- The state of a request. -/
structure Chain (Context : Type) where
  context : Context
  pending : List (Handler Context)
  entered : List (Nat × Context)

section Serving

variable {Context : Type}

/-- Runs the code of a handler, where `next` runs the pending handlers. -/
def Program.run (next : Chain Context → Chain Context) :
    Program Context → Chain Context → Chain Context
  | .done, chain => chain
  | .act effect rest, chain =>
    (rest (effect chain.context)).run next { chain with context := effect chain.context }
  | .next rest, chain => (rest (next chain).context).run next (next chain)
  | .abort rest, chain => (rest chain.context).run next { chain with pending := [] }

/-- The state in which the first pending handler is entered. -/
def Chain.enter (chain : Chain Context) (rest : List (Handler Context)) : Chain Context :=
  ⟨chain.context, rest, chain.entered ++ [(rest.length, chain.context)]⟩

/-- Runs the pending handlers. Each takes itself off the list, so its length is enough fuel. -/
def serve (names : List String) : Nat → Chain Context → Chain Context
  | 0, chain => chain
  | fuel + 1, chain =>
    match chain.pending with
    | [] => chain
    | handler :: rest =>
      serve names fuel
        ((handler.body names chain.context).run (serve names fuel) (chain.enter rest))

/-- Serves a request. -/
def handle (handlers : List (Handler Context)) (context : Context) : Chain Context :=
  serve (handlers.map Handler.name) handlers.length ⟨context, handlers, []⟩

/-! ### Invariants -/

/-- What neither the context nor the dropping of handlers matters to. -/
structure Stable (Holds : Chain Context → Prop) : Prop where
  act : ∀ chain context, Holds chain → Holds { chain with context }
  abort : ∀ chain, Holds chain → Holds { chain with pending := [] }

variable {Holds : Chain Context → Prop}

/-- The code of a handler keeps what the pending handlers keep. -/
theorem run_keeps (stable : Stable Holds) (next : Chain Context → Chain Context)
    (keeps : ∀ chain, Holds chain → Holds (next chain)) (program : Program Context)
    (chain : Chain Context) (holds : Holds chain) : Holds (program.run next chain) := by
  induction program generalizing chain with
  | done => exact holds
  | act effect rest inductionHypothesis =>
    exact inductionHypothesis _ _ (stable.act chain _ holds)
  | next rest inductionHypothesis => exact inductionHypothesis _ _ (keeps chain holds)
  | abort rest inductionHypothesis => exact inductionHypothesis _ _ (stable.abort chain holds)

/-- What every handler keeps when it is entered, the whole request keeps. -/
theorem serve_keeps (names : List String)
    (enters : ∀ fuel chain handler rest, chain.pending = handler :: rest →
      (∀ other, Holds other → Holds (serve names fuel other)) → Holds chain →
      Holds ((handler.body names chain.context).run (serve names fuel) (chain.enter rest)))
    (fuel : Nat) (chain : Chain Context) (holds : Holds chain) :
    Holds (serve names fuel chain) := by
  induction fuel generalizing chain with
  | zero => exact holds
  | succ fuel inductionHypothesis =>
    rw [serve]
    split
    · exact holds
    · rename_i handler rest pending
      exact inductionHypothesis _
        (enters fuel chain handler rest pending inductionHypothesis holds)

end Serving

/-! ### Guards -/

section Guards

variable {Context : Type} (before : List (Handler Context)) (guard : Handler Context)
  (after : List (Handler Context)) (Passes : Context → Prop)

/-- The guard was entered with a context that it lets pass. -/
def Passed (entered : List (Nat × Context)) : Prop :=
  ∃ context, (after.length, context) ∈ entered ∧ Passes context

/-- Handlers behind the guard are pending or were entered only if the guard let the request
pass. -/
structure Guarded (chain : Chain Context) : Prop where
  suffix : chain.pending <:+ before ++ guard :: after
  pending : chain.pending.length ≤ after.length →
    chain.pending = [] ∨ Passed after Passes chain.entered
  entered : ∀ entry ∈ chain.entered, entry.1 < after.length → Passed after Passes chain.entered

theorem guarded_stable : Stable (Guarded before guard after Passes) where
  act _ _ guarded := ⟨guarded.suffix, guarded.pending, guarded.entered⟩
  abort _ guarded := ⟨List.nil_suffix, fun _ => Or.inl rfl, guarded.entered⟩

variable {after Passes}

theorem Passed.append {entered : List (Nat × Context)} (passed : Passed after Passes entered)
    (more : List (Nat × Context)) : Passed after Passes (entered ++ more) := by
  obtain ⟨context, member, passes⟩ := passed
  exact ⟨context, List.mem_append_left more member, passes⟩

variable {before guard}

/-- Entering a handler keeps the guard when the guard has let the request pass, or when it comes
later. -/
theorem guarded_enter (chain : Chain Context) (handler : Handler Context)
    (rest : List (Handler Context)) (pending : chain.pending = handler :: rest)
    (guarded : Guarded before guard after Passes chain)
    (allowed : Passed after Passes (chain.entered ++ [(rest.length, chain.context)]) ∨
      after.length < rest.length) :
    Guarded before guard after Passes (chain.enter rest) where
  suffix := by
    have suffix := guarded.suffix
    rw [pending] at suffix
    exact (List.suffix_cons handler rest).trans suffix
  pending few := by
    rcases allowed with passed | later
    · exact Or.inr passed
    · exact absurd few (by simpa [Chain.enter] using later)
  entered entry member behind := by
    rcases allowed with passed | later
    · exact passed
    · rcases List.mem_append.mp member with earlier | isEntry
      · exact (guarded.entered entry earlier behind).append _
      · obtain rfl := List.mem_singleton.mp isEntry
        exact absurd behind (by omega)

theorem guarded_block (chain blocked : Chain Context) (rest : List (Handler Context))
    (guarded : Guarded before guard after Passes chain) (atGuard : rest.length = after.length)
    (dropped : blocked.pending = []) (same : blocked.entered = (chain.enter rest).entered) :
    Guarded before guard after Passes blocked where
  suffix := by
    rw [dropped]
    exact List.nil_suffix
  pending _ := Or.inl dropped
  entered entry member behind := by
    rw [same] at member ⊢
    rcases List.mem_append.mp member with earlier | isEntry
    · exact (guarded.entered entry earlier behind).append _
    · obtain rfl := List.mem_singleton.mp isEntry
      exact absurd behind (by omega)

/-- A guard that drops the pending handlers unless it lets the request pass: a handler behind it
is entered only after the guard was entered with a context that passes. -/
theorem entered_behind_guard (context : Context)
    (blocks : ∀ names fuel (chain : Chain Context), ¬Passes chain.context →
      ((guard.body ((before ++ guard :: after).map Handler.name) chain.context).run
          (serve names fuel) chain).pending = [] ∧
      ((guard.body ((before ++ guard :: after).map Handler.name) chain.context).run
          (serve names fuel) chain).entered = chain.entered)
    (entry : Nat × Context)
    (member : entry ∈ (handle (before ++ guard :: after) context).entered)
    (behind : entry.1 < after.length) :
    Passed after Passes (handle (before ++ guard :: after) context).entered := by
  have start : Guarded before guard after Passes ⟨context, before ++ guard :: after, []⟩ := by
    refine ⟨List.suffix_rfl, fun few => ?_, fun entry member => by cases member⟩
    simp only [List.length_append, List.length_cons] at few
    omega
  refine (serve_keeps _ ?_ _ _ start).entered entry member behind
  intro fuel chain handler rest pending keeps guarded
  have run := run_keeps (guarded_stable before guard after Passes) _ keeps
    (handler.body ((before ++ guard :: after).map Handler.name) chain.context)
  rcases Nat.lt_trichotomy rest.length after.length with behind | atGuard | ahead
  · rcases guarded.pending (by rw [pending]; exact behind) with none | passed
    · rw [pending] at none
      cases none
    · exact run _ (guarded_enter chain handler rest pending guarded (Or.inl (passed.append _)))
  · by_cases passes : Passes chain.context
    · refine run _ (guarded_enter chain handler rest pending guarded (Or.inl ?_))
      refine ⟨chain.context, ?_, passes⟩
      rw [atGuard]
      exact List.mem_append_right _ List.mem_cons_self
    · have suffix := guarded.suffix
      rw [pending] at suffix
      obtain ⟨rfl, rfl⟩ : handler = guard ∧ rest = after := by
        have inGuard : handler :: rest <:+ guard :: after :=
          List.suffix_of_suffix_length_le suffix (List.suffix_append _ _) (by simp [atGuard])
        simpa using inGuard.eq_of_length (by simp [atGuard])
      obtain ⟨dropped, same⟩ := blocks _ fuel (chain.enter rest) passes
      exact guarded_block chain _ rest guarded rfl dropped same
  · exact run _ (guarded_enter chain handler rest pending guarded (Or.inr ahead))

end Guards

/-! ### Handlers that pass requests on -/

section Passing

variable {Context : Type}

/-- The program that changes the context and runs the pending handlers. -/
def Program.passOn (effect : Context → Context) : Program Context :=
  .act effect fun _ => .next fun _ => .done

/-- A handler that passes every request on, unchanged. -/
def Handler.passing (name : String) : Handler Context := ⟨name, fun _ _ => .passOn id⟩

/-- The handler always passes the request on, and keeps what holds of the context. -/
def PassesOn (names : List String) (Holds : Context → Prop) (handler : Handler Context) : Prop :=
  ∃ effect, (∀ context, Holds context → Holds (effect context)) ∧
    ∀ context, handler.body names context = .passOn effect

theorem passing_passesOn (names : List String) (Holds : Context → Prop) (name : String) :
    PassesOn names Holds (Handler.passing name) :=
  ⟨id, fun _ holds => holds, fun _ => rfl⟩

theorem serve_of_pending_nil (names : List String) (fuel : Nat) (chain : Chain Context)
    (empty : chain.pending = []) : serve names fuel chain = chain := by
  cases fuel with
  | zero => rfl
  | succ fuel => simp [serve, empty]

/-- Handlers that all pass the request on are all entered, one after the other. -/
theorem serve_passing (names : List String) (Holds : Context → Prop)
    (handlers : List (Handler Context))
    (passing : ∀ handler ∈ handlers, PassesOn names Holds handler)
    (fuel : Nat) (enough : handlers.length ≤ fuel) (context : Context) (holds : Holds context)
    (entered : List (Nat × Context)) :
    ∃ final trail, serve names fuel ⟨context, handlers, entered⟩ =
        ⟨final, [], entered ++ trail⟩ ∧
      trail.map Prod.fst = (List.range handlers.length).reverse ∧
      ∀ entry ∈ trail, Holds entry.2 := by
  induction handlers generalizing fuel context entered with
  | nil =>
    refine ⟨context, [], ?_, rfl, fun entry member => by cases member⟩
    rw [serve_of_pending_nil _ _ _ rfl, List.append_nil]
  | cons handler rest inductionHypothesis =>
    cases fuel with
    | zero => simp at enough
    | succ fuel =>
      obtain ⟨effect, keeps, body⟩ := passing handler List.mem_cons_self
      obtain ⟨final, trail, served, counts, trailHolds⟩ := inductionHypothesis
        (fun other member => passing other (List.mem_cons_of_mem handler member)) fuel
        (by simpa using enough) (effect context) (keeps context holds)
        (entered ++ [(rest.length, context)])
      refine ⟨final, (rest.length, context) :: trail, ?_, ?_, ?_⟩
      · simp only [serve, body, Program.passOn, Program.run, Chain.enter, served]
        rw [serve_of_pending_nil _ _ _ rfl, List.append_assoc]
        rfl
      · rw [List.map_cons, counts, List.length_cons, List.range_succ, List.reverse_append]
        rfl
      · intro entry member
        rcases List.mem_cons.mp member with rfl | member
        · exact holds
        · exact trailHolds entry member

/-- Handlers that are entered one after the other include the last one. -/
theorem last_of_counts (trail : List (Nat × Context)) (count : Nat) (positive : 0 < count)
    (counts : trail.map Prod.fst = (List.range count).reverse) : ∃ seen, (0, seen) ∈ trail := by
  have zero : 0 ∈ trail.map Prod.fst := by
    rw [counts]
    simpa using positive
  obtain ⟨entry, member, first⟩ := List.mem_map.mp zero
  exact ⟨entry.2, first ▸ member⟩

theorem map_passing (names : List String) :
    (names.map Handler.passing).map (@Handler.name Context) = names := by
  rw [List.map_map]
  exact List.map_id names

end Passing

/-! ### Gates -/

section Gates

variable {Context : Type}

/-- What a handler that decides about requests does: which it passes on, and with what context. -/
structure Gate (Context : Type) where
  Passes : Context → Prop
  effect : Context → Context

/-- Code passes on a request with some context if the gate does, and drops the pending handlers
otherwise. -/
structure Gate.DescribesAt (gate : Gate Context) (context : Context) (program : Program Context) :
    Prop where
  passes : gate.Passes context → ∀ next pending entered,
    program.run next ⟨context, pending, entered⟩ = next ⟨gate.effect context, pending, entered⟩
  blocks : ¬gate.Passes context → ∀ names fuel pending entered,
    (program.run (serve names fuel) ⟨context, pending, entered⟩).pending = [] ∧
      (program.run (serve names fuel) ⟨context, pending, entered⟩).entered = entered

/-- A gate that does the same to a request describes the same code. -/
theorem Gate.DescribesAt.congr {gate other : Gate Context} {context : Context}
    {program : Program Context} (described : gate.DescribesAt context program)
    (passes : other.Passes context ↔ gate.Passes context)
    (effect : other.effect context = gate.effect context) : other.DescribesAt context program := by
  refine ⟨fun passed => ?_, fun blocked => described.blocks (passes.not.mp blocked)⟩
  rw [effect]
  exact described.passes (passes.mp passed)

/-- The gate is what the handler does to requests. -/
def Gate.Describes (names : List String) (gate : Gate Context) (handler : Handler Context) : Prop :=
  ∀ context, gate.DescribesAt context (handler.body names context)

/-- The gate that passes all requests on. -/
def Gate.passing (effect : Context → Context) : Gate Context := ⟨fun _ => True, effect⟩

theorem passOn_describesAt (effect : Context → Context) (context : Context) :
    (Gate.passing effect).DescribesAt context (.passOn effect) :=
  ⟨fun _ _ _ _ => rfl, fun blocked => absurd trivial blocked⟩

/-- All gates pass a request on, each with the context the one before leaves. -/
def LetsThrough : List (Gate Context) → Context → Prop
  | [], _ => True
  | gate :: rest, context => gate.Passes context ∧ LetsThrough rest (gate.effect context)

/-- What is stable and kept by entering a handler, the whole request keeps. -/
theorem serve_keeps_stable {Holds : Chain Context → Prop} (stable : Stable Holds)
    (enters : ∀ chain handler rest, chain.pending = handler :: rest → Holds chain →
      Holds (chain.enter rest))
    (names : List String) (fuel : Nat) (chain : Chain Context) (holds : Holds chain) :
    Holds (serve names fuel chain) := by
  refine serve_keeps names ?_ fuel chain holds
  intro fuel chain handler rest pending keeps holds
  exact run_keeps stable _ keeps _ _ (enters chain handler rest pending holds)

theorem pending_stable (bound : Nat) :
    Stable fun chain : Chain Context => chain.pending.length ≤ bound :=
  ⟨fun _ _ few => few, fun _ _ => Nat.zero_le bound⟩

theorem serve_pending_le (bound : Nat) (names : List String) (fuel : Nat) (chain : Chain Context)
    (few : chain.pending.length ≤ bound) : (serve names fuel chain).pending.length ≤ bound := by
  refine serve_keeps_stable (pending_stable bound) ?_ names fuel chain few
  intro chain handler rest pending few
  rw [pending] at few
  exact Nat.le_of_succ_le few

/-- With enough fuel a request is served to the end. -/
theorem serve_pending (names : List String) (fuel : Nat) (chain : Chain Context)
    (enough : chain.pending.length ≤ fuel) : (serve names fuel chain).pending = [] := by
  induction fuel generalizing chain with
  | zero => exact List.eq_nil_of_length_eq_zero (Nat.le_zero.1 enough)
  | succ fuel inductionHypothesis =>
    rw [serve]
    split
    · assumption
    · rename_i handler rest pending
      rw [pending] at enough
      exact inductionHypothesis _ (run_keeps (pending_stable fuel) _
        (serve_pending_le fuel names fuel) _ _ (Nat.le_of_succ_le_succ enough))

theorem entered_stable (entry : Nat × Context) :
    Stable fun chain : Chain Context => entry ∈ chain.entered :=
  ⟨fun _ _ member => member, fun _ member => member⟩

/-- What was entered stays entered. -/
theorem serve_entered (entry : Nat × Context) (names : List String) (fuel : Nat)
    (chain : Chain Context) (member : entry ∈ chain.entered) :
    entry ∈ (serve names fuel chain).entered :=
  serve_keeps_stable (entered_stable entry)
    (fun _ _ _ _ member => List.mem_append_left _ member) names fuel chain member

/-- With fuel, the first pending handler is entered. -/
theorem serve_enters (names : List String) (fuel : Nat) (chain : Chain Context)
    (first : Handler Context) (rest : List (Handler Context))
    (pending : chain.pending = first :: rest) :
    (rest.length, chain.context) ∈ (serve names (fuel + 1) chain).entered := by
  obtain ⟨context, handlers, entered⟩ := chain
  obtain rfl : handlers = first :: rest := pending
  rw [serve]
  refine serve_entered _ names fuel _ ?_
  refine run_keeps (entered_stable _) _ (serve_entered _ names fuel) _ _ ?_
  exact List.mem_append_right _ List.mem_cons_self

/-- The last handler is entered. -/
def LastEntered (entered : List (Nat × Context)) : Prop := ∃ context, (0, context) ∈ entered

theorem lastEntered_append_later (entered : List (Nat × Context)) (pending : Nat)
    (context : Context) :
    LastEntered (entered ++ [(pending + 1, context)]) ↔ LastEntered entered := by
  simp [LastEntered]

/-- Behind handlers that gates describe, the last handler is entered exactly when all the gates let
the request through. -/
theorem serve_last_iff (names : List String) (last : Handler Context)
    (gates : List (Gate Context)) (handlers : List (Handler Context))
    (described : List.Forall₂ (Gate.Describes names) gates handlers) (fuel : Nat)
    (enough : handlers.length < fuel) (context : Context) (entered : List (Nat × Context))
    (before : ¬LastEntered entered) :
    LastEntered (serve names fuel ⟨context, handlers ++ [last], entered⟩).entered ↔
      LetsThrough gates context := by
  induction described generalizing fuel context entered with
  | nil =>
    refine iff_of_true ⟨context, ?_⟩ trivial
    cases fuel with
    | zero => cases enough
    | succ fuel => exact serve_enters names fuel _ last [] rfl
  | @cons gate handler gates handlers describes described inductionHypothesis =>
    cases fuel with
    | zero => cases enough
    | succ fuel =>
      have fewer : handlers.length < fuel := Nat.lt_of_succ_lt_succ enough
      have length : (handlers ++ [last]).length = handlers.length + 1 := List.length_append
      have enter : serve names (fuel + 1) ⟨context, handler :: handlers ++ [last], entered⟩ =
          serve names fuel ((handler.body names context).run (serve names fuel)
            ⟨context, handlers ++ [last], entered ++ [(handlers.length + 1, context)]⟩) := by
        rw [← length]
        rfl
      rw [enter]
      by_cases passes : gate.Passes context
      · have enoughBehind : (handlers ++ [last]).length ≤ fuel := by
          rw [length]
          exact fewer
        rw [(describes context).passes passes, serve_of_pending_nil _ fuel _
          (serve_pending names fuel _ enoughBehind), inductionHypothesis fuel fewer]
        · exact (and_iff_right passes).symm
        · rwa [lastEntered_append_later]
      · obtain ⟨dropped, same⟩ := (describes context).blocks passes names fuel (handlers ++ [last])
          (entered ++ [(handlers.length + 1, context)])
        rw [serve_of_pending_nil _ fuel _ dropped, same, lastEntered_append_later]
        exact iff_of_false before fun through => passes through.1

/-- The last handler of a chain runs exactly when all the gates before it let the request through.
-/
theorem handle_last_iff (last : Handler Context) (gates : List (Gate Context))
    (handlers : List (Handler Context))
    (described : List.Forall₂ (Gate.Describes ((handlers ++ [last]).map Handler.name)) gates
      handlers) (context : Context) :
    LastEntered (handle (handlers ++ [last]) context).entered ↔ LetsThrough gates context := by
  refine serve_last_iff _ last gates handlers described _ ?_ context [] ?_
  · rw [List.length_append]
    exact Nat.lt_succ_self _
  · rintro ⟨_, member⟩
    cases member

end Gates

/-! ### Code given by the caller -/

section Callbacks

variable {Context : Type}

/-- Runs one program, then another. -/
def Program.andThen : Program Context → Program Context → Program Context
  | .done, second => second
  | .act effect rest, second => .act effect fun context => (rest context).andThen second
  | .next rest, second => .next fun context => (rest context).andThen second
  | .abort rest, second => .abort fun context => (rest context).andThen second

theorem run_andThen (next : Chain Context → Chain Context) (first second : Program Context)
    (continues : ∀ chain, second.run next chain = { chain with pending := [] })
    (chain : Chain Context) :
    (first.andThen second).run next chain = { first.run next chain with pending := [] } := by
  induction first generalizing chain with
  | done => exact continues chain
  | act effect rest inductionHypothesis => exact inductionHypothesis _ _
  | next rest inductionHypothesis => exact inductionHypothesis _ _
  | abort rest inductionHypothesis => exact inductionHypothesis _ _

/-- Started with some context, the code does not run the pending handlers before it drops them. -/
def Program.Quiet : Program Context → Context → Prop
  | .done, _ => True
  | .act effect rest, context => (rest (effect context)).Quiet (effect context)
  | .next _, _ => False
  | .abort _, _ => True

/-- Once the pending handlers are dropped, code enters no handler. -/
theorem run_pending_nil (names : List String) (fuel : Nat) (program : Program Context)
    (chain : Chain Context) (empty : chain.pending = []) :
    (program.run (serve names fuel) chain).entered = chain.entered ∧
      (program.run (serve names fuel) chain).pending = [] := by
  induction program generalizing chain with
  | done => exact ⟨rfl, empty⟩
  | act effect rest inductionHypothesis => exact inductionHypothesis _ _ empty
  | next rest inductionHypothesis =>
    rw [Program.run, serve_of_pending_nil names fuel chain empty]
    exact inductionHypothesis _ chain empty
  | abort rest inductionHypothesis => exact inductionHypothesis _ _ rfl

/-- Quiet code enters no handler. -/
theorem run_quiet (names : List String) (fuel : Nat) (program : Program Context)
    (chain : Chain Context) (quiet : program.Quiet chain.context) :
    (program.run (serve names fuel) chain).entered = chain.entered := by
  induction program generalizing chain with
  | done => rfl
  | act effect rest inductionHypothesis => exact inductionHypothesis _ _ quiet
  | next rest inductionHypothesis => exact quiet.elim
  | abort rest inductionHypothesis =>
    exact (run_pending_nil names fuel (rest chain.context) { chain with pending := [] } rfl).1

/-- Code that is not quiet runs the pending handlers, and what they enter stays entered. -/
theorem run_loud (names : List String) (fuel : Nat) (program : Program Context)
    (chain : Chain Context) (loud : ¬program.Quiet chain.context) :
    ∃ context, ∀ entry ∈ (serve names fuel ⟨context, chain.pending, chain.entered⟩).entered,
      entry ∈ (program.run (serve names fuel) chain).entered := by
  induction program generalizing chain with
  | done => exact absurd trivial loud
  | act effect rest inductionHypothesis =>
    exact inductionHypothesis _ ⟨_, chain.pending, chain.entered⟩ loud
  | next rest inductionHypothesis =>
    refine ⟨chain.context, fun entry member => ?_⟩
    rw [Program.run]
    exact run_keeps (entered_stable _) _ (serve_entered _ names fuel) (rest _) _ member
  | abort rest inductionHypothesis => exact absurd trivial loud

end Callbacks

/-! ### Calls -/

section Calls

variable {Context Result : Type}

/-- Code of the caller that returns a result to a handler. -/
inductive Call (Context Result : Type) where
  | done (result : Result)
  | act (effect : Context → Context) (rest : Context → Call Context Result)
  | next (rest : Context → Call Context Result)
  | abort (rest : Context → Call Context Result)

def Call.run (next : Chain Context → Chain Context) :
    Call Context Result → Chain Context → Result × Chain Context
  | .done result, chain => (result, chain)
  | .act effect rest, chain =>
    (rest (effect chain.context)).run next { chain with context := effect chain.context }
  | .next rest, chain => (rest (next chain).context).run next (next chain)
  | .abort rest, chain => (rest chain.context).run next { chain with pending := [] }

/-- Runs a call, then goes on with its result. -/
def Call.andThen :
    Call Context Result → (Result → Context → Program Context) → Context → Program Context
  | .done result, following, context => following result context
  | .act effect rest, following, _ =>
    .act effect fun context => (rest context).andThen following context
  | .next rest, following, _ => .next fun context => (rest context).andThen following context
  | .abort rest, following, _ => .abort fun context => (rest context).andThen following context

/-- The call that changes the context and returns. -/
def Call.only (effect : Context → Result × Context) (context : Context) : Call Context Result :=
  .act (fun _ => (effect context).2) fun _ => .done (effect context).1

/-- What a call returns, and the context that it leaves, when no handlers are pending. -/
def Call.alone : Call Context Result → Context → Result × Context
  | .done result, context => (result, context)
  | .act effect rest, context => (rest (effect context)).alone (effect context)
  | .next rest, context => (rest context).alone context
  | .abort rest, context => (rest context).alone context

/-- How far a call gets before it runs the pending handlers: to its end, possibly dropping them, or
to the context in which it runs them, with the code that it goes on with. -/
inductive Stage (Context Result : Type) where
  | ended (result : Result) (left : Context) (dropped : Bool)
  | reached (seen : Context) (rest : Context → Call Context Result)

def Call.stage : Call Context Result → Context → Stage Context Result
  | .done result, context => .ended result context false
  | .act effect rest, context => (rest (effect context)).stage (effect context)
  | .next rest, context => .reached context rest
  | .abort rest, context =>
    .ended ((rest context).alone context).1 ((rest context).alone context).2 true

theorem run_call (next : Chain Context → Chain Context) (call : Call Context Result)
    (following : Result → Context → Program Context) (chain : Chain Context) :
    (call.andThen following chain.context).run next chain =
      (following (call.run next chain).1 (call.run next chain).2.context).run next
        (call.run next chain).2 := by
  induction call generalizing chain with
  | done result => rfl
  | act effect rest inductionHypothesis => exact inductionHypothesis _ ⟨_, chain.pending, _⟩
  | next rest inductionHypothesis => exact inductionHypothesis _ (next chain)
  | abort rest inductionHypothesis => exact inductionHypothesis _ ⟨chain.context, [], _⟩

theorem call_run_alone (names : List String) (fuel : Nat) (call : Call Context Result)
    (chain : Chain Context) (empty : chain.pending = []) :
    call.run (serve names fuel) chain =
      ((call.alone chain.context).1, ⟨(call.alone chain.context).2, [], chain.entered⟩) := by
  induction call generalizing chain with
  | done result =>
    rw [Call.run, Call.alone, ← empty]
  | act effect rest inductionHypothesis =>
    exact inductionHypothesis _ ⟨_, chain.pending, chain.entered⟩ empty
  | next rest inductionHypothesis =>
    rw [Call.run, serve_of_pending_nil names fuel chain empty]
    exact inductionHypothesis _ chain empty
  | abort rest inductionHypothesis => exact inductionHypothesis _ ⟨chain.context, [], _⟩ rfl

theorem call_run_ended (names : List String) (fuel : Nat) (call : Call Context Result)
    (chain : Chain Context) (result : Result) (left : Context) (dropped : Bool)
    (ended : call.stage chain.context = .ended result left dropped) :
    call.run (serve names fuel) chain =
      (result, ⟨left, if dropped then [] else chain.pending, chain.entered⟩) := by
  induction call generalizing chain with
  | done given =>
    cases ended
    rfl
  | act effect rest inductionHypothesis =>
    exact inductionHypothesis _ ⟨_, chain.pending, chain.entered⟩ ended
  | next rest inductionHypothesis => cases ended
  | abort rest inductionHypothesis =>
    cases ended
    exact call_run_alone names fuel (rest chain.context) ⟨chain.context, [], chain.entered⟩ rfl

/-- A call that runs the pending handlers goes on alone with the context that they leave. -/
theorem call_run_reached (names : List String) (fuel : Nat) (call : Call Context Result)
    (chain : Chain Context) (enough : chain.pending.length ≤ fuel) (seen : Context)
    (rest : Context → Call Context Result)
    (reached : call.stage chain.context = .reached seen rest) :
    let behind := serve names fuel ⟨seen, chain.pending, chain.entered⟩
    call.run (serve names fuel) chain = (((rest behind.context).alone behind.context).1,
      ⟨((rest behind.context).alone behind.context).2, [], behind.entered⟩) := by
  induction call generalizing chain with
  | done given => cases reached
  | act effect others inductionHypothesis =>
    exact inductionHypothesis _ ⟨_, chain.pending, chain.entered⟩ enough reached
  | next others inductionHypothesis =>
    cases reached
    exact call_run_alone names fuel _ _ (serve_pending names fuel chain enough)
  | abort others inductionHypothesis => cases reached

end Calls

/-! ### The first of two handlers -/

section First

variable {Context : Type} (handler : Handler Context) (after : List (Handler Context))
  (context : Context)

/-- A request is served by running the first handler with the others pending. -/
theorem handle_cons :
    handle (handler :: after) context =
      serve (Handler.name handler :: after.map Handler.name) after.length
        ((handler.body (Handler.name handler :: after.map Handler.name) context).run
          (serve (Handler.name handler :: after.map Handler.name) after.length)
          ⟨context, after, [(after.length, context)]⟩) :=
  rfl

/-- The first pending handler is entered once, with the context at hand. -/
theorem serve_first (names : List String) (first : Handler Context)
    (rest : List (Handler Context)) (entered : List (Nat × Context))
    (earlier : ∀ entry ∈ entered, rest.length < entry.1) (entry : Nat × Context)
    (member : entry ∈ (serve names (rest.length + 1) ⟨context, first :: rest, entered⟩).entered)
    (isFirst : entry.1 = rest.length) : entry.2 = context := by
  let Holds : Chain Context → Prop := fun chain => chain.pending.length ≤ rest.length ∧
    ∀ entry ∈ chain.entered, entry.1 = rest.length → entry.2 = context
  have stable : Stable Holds :=
    ⟨fun _ _ holds => holds, fun _ holds => ⟨Nat.zero_le _, holds.2⟩⟩
  have enters : ∀ (chain : Chain Context) handler others, chain.pending = handler :: others →
      Holds chain → Holds (chain.enter others) := by
    rintro chain other others pending ⟨few, seen⟩
    rw [pending, List.length_cons] at few
    refine ⟨Nat.le_of_succ_le few, fun entry member isFirst => ?_⟩
    rcases List.mem_append.mp member with before | isEntry
    · exact seen entry before isFirst
    · obtain rfl := List.mem_singleton.mp isEntry
      exact absurd isFirst (Nat.ne_of_lt few)
  have start : Holds ⟨context, rest, entered ++ [(rest.length, context)]⟩ := by
    refine ⟨Nat.le_refl _, fun entry member isFirst => ?_⟩
    rcases List.mem_append.mp member with before | isEntry
    · exact absurd isFirst (Nat.ne_of_gt (earlier entry before))
    · rw [List.mem_singleton.mp isEntry]
  have served := serve_keeps_stable stable enters names
  exact (served rest.length _ (run_keeps stable _ (served rest.length) _ _ start)).2 entry member
    isFirst

/-- Handlers that pass the request on unchanged leave it to those behind them. -/
theorem serve_behind_passing (names before : List String) (rest : List (Handler Context))
    (fuel : Nat) (enough : rest.length ≤ fuel) (entered : List (Nat × Context)) :
    ∃ trail, serve names (before.length + fuel)
        ⟨context, before.map Handler.passing ++ rest, entered⟩ =
          serve names fuel ⟨context, rest, entered ++ trail⟩ ∧
      ∀ entry ∈ trail, rest.length ≤ entry.1 := by
  induction before generalizing entered with
  | nil =>
    refine ⟨[], ?_, fun entry member => by cases member⟩
    rw [List.append_nil, List.length_nil, Nat.zero_add]
    rfl
  | cons name before inductionHypothesis =>
    let behind := before.map Handler.passing ++ rest
    obtain ⟨trail, served, counts⟩ :=
      inductionHypothesis (entered ++ [(behind.length, context)])
    have passed : serve names ((name :: before).length + fuel)
        ⟨context, (name :: before).map Handler.passing ++ rest, entered⟩ =
          serve names (before.length + fuel)
            ⟨context, behind, entered ++ [(behind.length, context)]⟩ := by
      rw [List.length_cons, Nat.succ_add, serve]
      exact serve_of_pending_nil _ _ _ (serve_pending _ _ _ (by simp [Chain.enter, enough]))
    refine ⟨(behind.length, context) :: trail, ?_, List.forall_mem_cons.mpr ⟨?_, counts⟩⟩
    · rw [passed, served, List.append_assoc]
      rfl
    · simp [behind]

theorem handle_behind_passing (before : List String) :
    ∃ trail, handle (before.map Handler.passing ++ handler :: after) context =
        serve (before ++ Handler.name handler :: after.map Handler.name) (after.length + 1)
          ⟨context, handler :: after, trail⟩ ∧
      ∀ entry ∈ trail, after.length < entry.1 := by
  obtain ⟨trail, served, counts⟩ := serve_behind_passing context
    (before ++ Handler.name handler :: after.map Handler.name) before (handler :: after)
    (after.length + 1) (Nat.le_refl _) []
  refine ⟨trail, ?_, counts⟩
  have names : (before.map Handler.passing ++ handler :: after).map Handler.name =
      before ++ Handler.name handler :: after.map Handler.name := by
    rw [List.map_append, map_passing, List.map_cons]
  have length : (before.map Handler.passing ++ handler :: after).length =
      before.length + (after.length + 1) := by
    simp
  rw [handle, names, length, served, List.nil_append]

end First

end SharedGo.Gin
