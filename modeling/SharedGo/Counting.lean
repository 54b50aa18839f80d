/-
This file models how the total of a search is counted. A counter decides which of
two queries to run, an exact count and an estimate of the planner; it is a program
over the answers to these calls, so that nothing is assumed about what the database
answers or when. The package has two counters: one that always counts exactly, and
one that turns to the estimate when the exact count runs out of time.
-/

import SharedGo.Paging
import SharedGo.Runs

namespace SharedGo.Search

open SharedGo Text

/-! ### Queries -/

/-- An error of a query: its text, and whether it is or wraps that of a deadline. -/
structure QueryError where
  message : String
  deadlineExceeded : Bool
  deriving DecidableEq, Repr

/-- `fmt.Errorf` with `%w`: what the error is stays known. -/
def QueryError.wrap (error : QueryError) (context : String) : QueryError :=
  { error with message := context ++ ": " ++ error.message }

/-- The outcome of a count: the total, and whether it is an estimate. -/
structure CountResult where
  count : Int64
  isEstimated : Bool
  deriving DecidableEq, Repr

/-- The JSON decoder, which finds the rows that each plan expects, and what the machine makes of a
number that is no 64-bit integer. -/
class ExplainDecoding where
  unmarshal : String → Except String (List Float64)
  outOfRange : Float64 → Int64

/-- The conversion of a number to an integer, towards zero. -/
def truncate [ExplainDecoding] (number : Float64) : Int64 :=
  match number with
  | .finite value =>
    let whole := value.num.tdiv value.den
    if whole < -2 ^ 63 ∨ 2 ^ 63 ≤ whole then ExplainDecoding.outOfRange number
    else Int64.ofInt whole
  | _ => ExplainDecoding.outOfRange number

/-- The rows that the planner expects, from its output. -/
def parseExplainEstimate [ExplainDecoding] (explainJSON : String) : Except QueryError Int64 :=
  match ExplainDecoding.unmarshal explainJSON with
  | .error reason => .error ⟨"failed to parse EXPLAIN output: " ++ reason, false⟩
  | .ok [] => .error ⟨"empty EXPLAIN output", false⟩
  | .ok (planRows :: _) => .ok (truncate planRows)

/-- The estimate, from the answer to the query for it. -/
def estimated [ExplainDecoding] (answer : Except QueryError String) : Except QueryError Int64 :=
  match answer with
  | .error error => .error error
  | .ok explainJSON => parseExplainEstimate explainJSON

/-! ### Counters -/

/-- What a counter does: it calls for an exact count, with a timeout of its own or none, or for an
estimate, goes on with the answer, and ends with an outcome. -/
inductive CountProgram where
  | done (outcome : Except QueryError CountResult)
  | exact (timeout : Option Int) (next : Except QueryError Int64 → CountProgram)
  | estimate (next : Except QueryError Int64 → CountProgram)

/-- The counters of the package, and any other type that implements the interface. -/
inductive Counter where
  | exact
  | adaptive (timeout : Int)
  | custom (program : CountProgram)

def defaultCountTimeout : Int := 200000000

def exactCounter : CountProgram :=
  .exact none fun
    | .error error => .done (.error (error.wrap "exact count failed"))
    | .ok count => .done (.ok ⟨count, false⟩)

/-- What an adaptive count does when the exact count has run out of time. -/
def estimateInstead : CountProgram :=
  .estimate fun
    | .error error => .done (.error (error.wrap "count timed out and estimate failed"))
    | .ok estimate => .done (.ok ⟨estimate, true⟩)

def adaptiveCounter (timeout : Int) : CountProgram :=
  .exact (some (if timeout ≤ 0 then defaultCountTimeout else timeout)) fun
    | .ok count => .done (.ok ⟨count, false⟩)
    | .error error =>
      if !error.deadlineExceeded then .done (.error (error.wrap "count query failed"))
      else estimateInstead

def Counter.program : Counter → CountProgram
  | .exact => exactCounter
  | .adaptive timeout => adaptiveCounter timeout
  | .custom program => program

/-- A resource and how it is counted. -/
structure CountedConfig extends ResourceConfig where
  counter : Option Counter

/-- The counter of a resource; the default one adapts. -/
def CountedConfig.counting (config : CountedConfig) : CountProgram :=
  (config.counter.getD (.adaptive 0)).program

/-- Over an empty first page, an estimate is replaced by nothing at all. -/
def correctEmptyFirstPage (result : CountResult) (pagination : Pagination) (rowsOnPage : Nat) :
    CountResult :=
  if result.isEstimated ∧ pagination.number = 1 ∧ rowsOnPage = 0 then ⟨0, false⟩ else result

/-! ### Counts that come to an end -/

/-- An answer to one of the calls of a counter. -/
inductive CountAnswer where
  | exact (answer : Except QueryError Int64)
  | explain (answer : Except QueryError String)
  deriving DecidableEq

section Answers

variable [ExplainDecoding]

/-- What is left to do after an answer, if it is one to the call that the program makes. -/
def CountProgram.answered : CountProgram → CountAnswer → Option CountProgram
  | .exact _ next, .exact answer => some (next answer)
  | .estimate next, .explain answer => some (next (estimated answer))
  | _, _ => none

/-- What holds of a program when it holds of what each answer leaves holds of every program. -/
theorem CountProgram.answered_induction {motive : CountProgram → Prop}
    (steps : ∀ program : CountProgram,
      (∀ answer next, program.answered answer = some next → motive next) → motive program)
    (program : CountProgram) : motive program := by
  induction program with
  | done outcome =>
    apply steps
    intro answer next answered
    cases answer <;> cases answered
  | exact timeout next inductionHypothesis =>
    apply steps
    intro answer rest answered
    cases answer with
    | exact answer => exact Option.some_inj.mp answered ▸ inductionHypothesis answer
    | explain answer => cases answered
  | estimate next inductionHypothesis =>
    apply steps
    intro answer rest answered
    cases answer with
    | exact answer => cases answered
    | explain answer => exact Option.some_inj.mp answered ▸ inductionHypothesis (estimated answer)

/-- With these answers, the program ends with the outcome. -/
def CountProgram.Ends (program : CountProgram) (answers : List CountAnswer)
    (outcome : Except QueryError CountResult) : Prop :=
  Runs.exec CountProgram.answered program answers = some (.done outcome)

theorem ends_done_iff (outcome other : Except QueryError CountResult) (answers : List CountAnswer) :
    (CountProgram.done outcome).Ends answers other ↔ answers = [] ∧ outcome = other := by
  cases answers with
  | nil => simp [CountProgram.Ends, Runs.exec]
  | cons answer rest => cases answer <;> simp [CountProgram.Ends, Runs.exec, CountProgram.answered]

theorem ends_exact_iff (timeout : Option Int) (next : Except QueryError Int64 → CountProgram)
    (answers : List CountAnswer) (outcome : Except QueryError CountResult) :
    (CountProgram.exact timeout next).Ends answers outcome ↔
      ∃ answer rest, answers = .exact answer :: rest ∧ (next answer).Ends rest outcome := by
  cases answers with
  | nil => simp [CountProgram.Ends, Runs.exec]
  | cons answer rest => cases answer <;> simp [CountProgram.Ends, Runs.exec, CountProgram.answered]

theorem ends_estimate_iff (next : Except QueryError Int64 → CountProgram)
    (answers : List CountAnswer) (outcome : Except QueryError CountResult) :
    (CountProgram.estimate next).Ends answers outcome ↔
      ∃ answer rest, answers = .explain answer :: rest ∧
        (next (estimated answer)).Ends rest outcome := by
  cases answers with
  | nil => simp [CountProgram.Ends, Runs.exec]
  | cons answer rest => cases answer <;> simp [CountProgram.Ends, Runs.exec, CountProgram.answered]

theorem ends_unique (program : CountProgram) (answers : List CountAnswer)
    (outcome other : Except QueryError CountResult) (ends : program.Ends answers outcome)
    (endsOther : program.Ends answers other) : outcome = other := by
  rw [CountProgram.Ends, ends, Option.some_inj, CountProgram.done.injEq] at endsOther
  exact endsOther

/-! ### Counts that succeed -/

/-- The exact count is answered, and nothing else is asked. -/
def CountsExactly (answers : List CountAnswer) (result : CountResult) : Prop :=
  ∃ count, answers = [.exact (.ok count)] ∧ result = ⟨count, false⟩

/-- The exact count runs out of time, and the estimate is answered. -/
def CountsByEstimate (answers : List CountAnswer) (result : CountResult) : Prop :=
  ∃ error answer estimate, error.deadlineExceeded = true ∧
    answers = [.exact (.error error), .explain answer] ∧ estimated answer = .ok estimate ∧
    result = ⟨estimate, true⟩

/-- With these answers, the count of a resource succeeds. -/
def CountedConfig.Counts (config : CountedConfig) (answers : List CountAnswer)
    (result : CountResult) : Prop :=
  match config.counter with
  | some .exact => CountsExactly answers result
  | some (.custom program) => program.Ends answers (.ok result)
  | _ => CountsExactly answers result ∨ CountsByEstimate answers result

theorem exactCounter_succeeds_iff (answers : List CountAnswer) (result : CountResult) :
    exactCounter.Ends answers (.ok result) ↔ CountsExactly answers result := by
  rw [exactCounter, ends_exact_iff]
  constructor
  · rintro ⟨answer, rest, rfl, ends⟩
    cases answer with
    | error error => cases ((ends_done_iff _ _ _).mp ends).2
    | ok count =>
      obtain ⟨rfl, same⟩ := (ends_done_iff _ _ _).mp ends
      exact ⟨count, rfl, (Except.ok.inj same).symm⟩
  · rintro ⟨count, rfl, rfl⟩
    exact ⟨.ok count, [], rfl, (ends_done_iff _ _ _).mpr ⟨rfl, rfl⟩⟩

theorem estimateInstead_succeeds_iff (answers : List CountAnswer) (result : CountResult) :
    estimateInstead.Ends answers (.ok result) ↔
      ∃ answer estimate, answers = [.explain answer] ∧ estimated answer = .ok estimate ∧
        result = ⟨estimate, true⟩ := by
  rw [estimateInstead, ends_estimate_iff]
  constructor
  · rintro ⟨answer, rest, rfl, ends⟩
    cases read : estimated answer with
    | error error =>
      rw [read] at ends
      cases ((ends_done_iff _ _ _).mp ends).2
    | ok estimate =>
      rw [read] at ends
      obtain ⟨rfl, same⟩ := (ends_done_iff _ _ _).mp ends
      exact ⟨answer, estimate, rfl, read, (Except.ok.inj same).symm⟩
  · rintro ⟨answer, estimate, rfl, read, rfl⟩
    refine ⟨answer, [], rfl, ?_⟩
    rw [read]
    exact (ends_done_iff _ _ _).mpr ⟨rfl, rfl⟩

/-- An adaptive count asks for the estimate only when the exact count runs out of time. -/
theorem adaptiveCounter_succeeds_iff (timeout : Int) (answers : List CountAnswer)
    (result : CountResult) :
    (adaptiveCounter timeout).Ends answers (.ok result) ↔
      CountsExactly answers result ∨ CountsByEstimate answers result := by
  rw [adaptiveCounter, ends_exact_iff]
  constructor
  · rintro ⟨answer, rest, rfl, ends⟩
    cases answer with
    | ok count =>
      obtain ⟨rfl, same⟩ := (ends_done_iff _ _ _).mp ends
      exact Or.inl ⟨count, rfl, (Except.ok.inj same).symm⟩
    | error error =>
      cases late : error.deadlineExceeded with
      | false =>
        simp only [late, Bool.not_false, if_true] at ends
        cases ((ends_done_iff _ _ _).mp ends).2
      | true =>
        simp only [late, Bool.not_true, Bool.false_eq_true, if_false] at ends
        obtain ⟨answer, estimate, rfl, read, rfl⟩ := (estimateInstead_succeeds_iff _ _).mp ends
        exact Or.inr ⟨error, answer, estimate, late, rfl, read, rfl⟩
  · rintro (⟨count, rfl, rfl⟩ | ⟨error, answer, estimate, late, rfl, read, rfl⟩)
    · exact ⟨.ok count, [], rfl, (ends_done_iff _ _ _).mpr ⟨rfl, rfl⟩⟩
    · refine ⟨.error error, [.explain answer], rfl, ?_⟩
      simp only [late, Bool.not_true, Bool.false_eq_true, if_false]
      exact (estimateInstead_succeeds_iff _ _).mpr ⟨answer, estimate, rfl, read, rfl⟩

/-- The count of a resource succeeds as its counter says. -/
theorem counting_succeeds_iff (config : CountedConfig) (answers : List CountAnswer)
    (result : CountResult) :
    config.counting.Ends answers (.ok result) ↔ config.Counts answers result := by
  unfold CountedConfig.counting CountedConfig.Counts
  cases counted : config.counter with
  | none => exact adaptiveCounter_succeeds_iff 0 answers result
  | some counter =>
    cases counter with
    | exact => exact exactCounter_succeeds_iff answers result
    | adaptive timeout => exact adaptiveCounter_succeeds_iff timeout answers result
    | custom program => exact Iff.rfl

/-! ### Counts that are estimates -/

/-- The estimate is what was counted: the planner was asked for it, or the counter of another type
says so. -/
def CountedConfig.UsesEstimate (config : CountedConfig) (answers : List CountAnswer) : Prop :=
  match config.counter with
  | some (.custom program) => ∃ count, program.Ends answers (.ok ⟨count, true⟩)
  | _ => ∃ answer, .explain answer ∈ answers

omit [ExplainDecoding] in
theorem countsExactly_usesEstimate (answers : List CountAnswer) (result : CountResult)
    (counts : CountsExactly answers result) :
    result.isEstimated = true ↔ ∃ answer, .explain answer ∈ answers := by
  obtain ⟨count, rfl, rfl⟩ := counts
  simp

theorem countsByEstimate_usesEstimate (answers : List CountAnswer) (result : CountResult)
    (counts : CountsByEstimate answers result) :
    result.isEstimated = true ↔ ∃ answer, .explain answer ∈ answers := by
  obtain ⟨error, answer, estimate, _, rfl, _, rfl⟩ := counts
  simp

/-- A count says that it is an estimate exactly when the estimate was used. -/
theorem counts_usesEstimate (config : CountedConfig) (answers : List CountAnswer)
    (result : CountResult) (counts : config.Counts answers result) :
    result.isEstimated = true ↔ config.UsesEstimate answers := by
  have adaptive : CountsExactly answers result ∨ CountsByEstimate answers result →
      (result.isEstimated = true ↔ ∃ answer, .explain answer ∈ answers) := by
    rintro (exactly | byEstimate)
    · exact countsExactly_usesEstimate answers result exactly
    · exact countsByEstimate_usesEstimate answers result byEstimate
  unfold CountedConfig.Counts at counts
  unfold CountedConfig.UsesEstimate
  cases counter : config.counter with
  | none =>
    rw [counter] at counts
    exact adaptive counts
  | some counting =>
    rw [counter] at counts
    cases counting with
    | exact => exact countsExactly_usesEstimate answers result counts
    | adaptive timeout => exact adaptive counts
    | custom program =>
      constructor
      · intro estimated
        exact ⟨result.count, estimated ▸ counts⟩
      · rintro ⟨count, ends⟩
        rw [Except.ok.inj (ends_unique program answers _ _ counts ends)]

end Answers

end SharedGo.Search
