/-
This file models a search from the request to the envelope of its response. A
request that passes validation and compiles starts a group of two goroutines, one
that selects the rows of the page and one that counts the total; the search waits
for both, and the first error that the group records is its own. The querier is
whatever answers its calls, in any order and with any answer, among them those that
a cancelled context causes; what is proved holds for every run.
-/

import SharedGo.Counting
import SharedGo.ErrGroup
import SharedGo.Validation

namespace SharedGo.Search

open SharedGo Text Fmt ErrGroup

/-! ### Statements -/

/-- The parts of a query that a request does not say. -/
structure Table where
  columns : String
  source : String

def writeWhere (whereClause : String) : String :=
  if whereClause ≠ "" then " WHERE " ++ whereClause else ""

def buildDataSQL (table : Table) (query : CompiledQuery) : String :=
  "SELECT " ++ table.columns ++ " FROM " ++ table.source ++ writeWhere query.whereClause ++
    (if query.orderBy ≠ "" then " " ++ query.orderBy else "") ++
    if query.limit ≠ "" then " " ++ query.limit else ""

def buildCountSQL (table : Table) (query : CompiledQuery) : String :=
  "SELECT COUNT(*) FROM " ++ table.source ++ writeWhere query.whereClause

def buildEstimateSQL (table : Table) (query : CompiledQuery) : String :=
  "EXPLAIN (FORMAT JSON) SELECT 1 FROM " ++ table.source ++ writeWhere query.whereClause

/-- A call to the querier; a count may have a timeout of its own. -/
inductive QuerierCall where
  | select (statement : String) (args : List Dynamic)
  | count (timeout : Option Int) (statement : String) (args : List Dynamic)
  | queryRow (statement : String) (args : List Dynamic)

/-- What the rows are scanned into: a pointer to a slice, or something else. -/
inductive Destination where
  | slice (length : Nat)
  | other
  deriving DecidableEq, Repr

/-- The destination after as many rows have been scanned into it. -/
def Destination.filled : Destination → Nat → Destination
  | .slice _, rows => .slice rows
  | .other, _ => .other

def sliceLen : Destination → Nat
  | .slice length => length
  | .other => 1

/-! ### The group -/

/-- The group of a search: its two goroutines, the second with the answer to its call if there is
one, and the first error that it has recorded. -/
structure SearchGroup where
  query : CompiledQuery
  count : Goroutine CountProgram QueryError CountResult
  data : Goroutine (Option (Except QueryError Nat)) QueryError Nat
  failure : Option QueryError

inductive SearchFailure where
  | request (error : SearchError)
  | query (error : QueryError)

/-- A search is under way, or has returned. -/
inductive SearchState where
  | running (group : SearchGroup)
  | returned (result : Except SearchFailure PagedViewModel)

/-- What may happen in a search: a call of one of the goroutines is answered, the goroutine returns
to the group, or the group has been waited for. -/
inductive SearchEvent where
  | countReturns (answer : CountAnswer)
  | countFinishes
  | selectReturns (answer : Except QueryError Nat)
  | selectFinishes
  | waited

/-- The arguments of a search, with the order in which the fields of the resource are visited. -/
structure SearchCall where
  config : CountedConfig
  order : List (GoMap.Entry String FieldConfig)
  request : RequestBody
  table : Table
  destination : Destination
  options : List CompileOption

/-- The calls that are waited for. -/
def SearchCall.pending (call : SearchCall) : SearchState → List QuerierCall
  | .returned _ => []
  | .running group =>
    (match group.count with
    | .running (.exact timeout _) =>
      [.count timeout (buildCountSQL call.table group.query) group.query.args]
    | .running (.estimate _) =>
      [.queryRow (buildEstimateSQL call.table group.query) group.query.args]
    | _ => []) ++
    match group.data with
    | .running none => [.select (buildDataSQL call.table group.query) group.query.args]
    | _ => []

/-- The response to a page of as many rows. -/
def SearchCall.respond (call : SearchCall) (count : CountResult) (rows : Nat) : PagedViewModel :=
  let corrected := correctEmptyFirstPage count call.request.pagination
    (sliceLen (call.destination.filled rows))
  newPagedViewModel call.request.pagination corrected.count corrected.isEstimated
    call.config.maxPageSize

/-- The result once both goroutines have returned; only the recorded error decides. -/
def SearchCall.result (call : SearchCall) (failure : Option QueryError)
    (count : Except QueryError CountResult) (data : Except QueryError Nat) :
    Except SearchFailure PagedViewModel :=
  match failure with
  | some error => .error (.query error)
  | none => .ok (call.respond (count.toOption.getD ⟨0, false⟩) (data.toOption.getD 0))

section Search

variable [CaseMapping] [Formatting] [TimeParsing] [ExplainDecoding]

omit [ExplainDecoding] in
/-- A search starts its goroutines only for a request that is valid and compiles. -/
def SearchCall.start (call : SearchCall) : SearchState :=
  match call.config.validate call.request with
  | some error => .returned (.error (.request error))
  | none =>
    match call.config.compile call.order call.request call.options with
    | .error error => .returned (.error (.request error))
    | .ok query => .running ⟨query, .running call.config.counting, .running none, none⟩

omit [CaseMapping] [Formatting] [TimeParsing] in
/-- The step of a search: an event is allowed where the goroutine it is about has come to it, and
the group has been waited for when both have returned. -/
def SearchCall.step (call : SearchCall) : SearchState → SearchEvent → Option SearchState
  | .returned _, _ => none
  | .running group, .countReturns answer =>
    match group.count with
    | .running program => (program.answered answer).map fun next =>
      .running { group with count := .running next }
    | .finished _ => none
  | .running group, .countFinishes =>
    match group.count with
    | .running (.done outcome) => some (.running { group with
        count := .finished outcome, failure := recorded group.failure outcome })
    | _ => none
  | .running group, .selectReturns answer =>
    match group.data with
    | .running none => some (.running { group with data := .running (some answer) })
    | _ => none
  | .running group, .selectFinishes =>
    match group.data with
    | .running (some answer) => some (.running { group with
        data := .finished answer, failure := recorded group.failure answer })
    | _ => none
  | .running group, .waited =>
    match group.count, group.data with
    | .finished count, .finished data => some (.returned (call.result group.failure count data))
    | _, _ => none

end Search

/-! ### What a group does -/

section Steps

variable [ExplainDecoding]

/-- The steps of a group. -/
inductive SearchGroup.Steps (call : SearchCall) (group : SearchGroup) :
    SearchEvent → SearchState → Prop where
  | countReturns (answer : CountAnswer) (program rest : CountProgram)
      (running : group.count = .running program) (answered : program.answered answer = some rest) :
      group.Steps call (.countReturns answer) (.running { group with count := .running rest })
  | countFinishes (outcome : Except QueryError CountResult)
      (running : group.count = .running (.done outcome)) :
      group.Steps call .countFinishes (.running { group with
        count := .finished outcome, failure := recorded group.failure outcome })
  | selectReturns (answer : Except QueryError Nat) (running : group.data = .running none) :
      group.Steps call (.selectReturns answer)
        (.running { group with data := .running (some answer) })
  | selectFinishes (answer : Except QueryError Nat)
      (running : group.data = .running (some answer)) :
      group.Steps call .selectFinishes (.running { group with
        data := .finished answer, failure := recorded group.failure answer })
  | waited (count : Except QueryError CountResult) (data : Except QueryError Nat)
      (counted : group.count = .finished count) (selected : group.data = .finished data) :
      group.Steps call .waited (.returned (call.result group.failure count data))

theorem step_cases (call : SearchCall) (state next : SearchState) (event : SearchEvent)
    (stepped : call.step state event = some next) :
    ∃ group, state = .running group ∧ group.Steps call event next := by
  cases state with
  | returned result => cases stepped
  | running group =>
    refine ⟨group, rfl, ?_⟩
    cases event with
    | countReturns answer =>
      rw [SearchCall.step] at stepped
      split at stepped
      · rename_i program running
        obtain ⟨rest, answered, rfl⟩ := Option.map_eq_some_iff.mp stepped
        exact .countReturns answer program rest running answered
      · cases stepped
    | countFinishes =>
      rw [SearchCall.step] at stepped
      split at stepped
      · rename_i outcome running
        obtain rfl := Option.some_inj.mp stepped
        exact .countFinishes outcome running
      · cases stepped
    | selectReturns answer =>
      rw [SearchCall.step] at stepped
      split at stepped
      · rename_i running
        obtain rfl := Option.some_inj.mp stepped
        exact .selectReturns answer running
      · cases stepped
    | selectFinishes =>
      rw [SearchCall.step] at stepped
      split at stepped
      · rename_i answer running
        obtain rfl := Option.some_inj.mp stepped
        exact .selectFinishes answer running
      · cases stepped
    | waited =>
      rw [SearchCall.step] at stepped
      split at stepped
      · rename_i count data counted selected
        obtain rfl := Option.some_inj.mp stepped
        exact .waited count data counted selected
      · cases stepped

/-- A search under way can go on. -/
theorem exists_step (call : SearchCall) (group : SearchGroup) :
    ∃ event next, call.step (.running group) event = some next := by
  obtain ⟨query, count, data, failure⟩ := group
  cases count with
  | running program =>
    cases program with
    | done outcome => exact ⟨.countFinishes, _, rfl⟩
    | exact timeout next => exact ⟨.countReturns (.exact (.ok 0)), _, rfl⟩
    | estimate next => exact ⟨.countReturns (.explain (.ok "")), _, rfl⟩
  | finished count =>
    cases data with
    | running answer =>
      cases answer with
      | none => exact ⟨.selectReturns (.ok 0), _, rfl⟩
      | some answer => exact ⟨.selectFinishes, _, rfl⟩
    | finished data => exact ⟨.waited, _, rfl⟩

/-! ### Every search returns -/

/-- What the counter has left to do. -/
def countLeft : Goroutine CountProgram QueryError CountResult → CountProgram
  | .running program => program
  | .finished outcome => .done outcome

/-- The steps that are left besides those of the counter. -/
def SearchGroup.left (group : SearchGroup) : Nat :=
  (match group.count with
  | .running _ => 1
  | .finished _ => 0) +
  match group.data with
  | .running none => 2
  | .running (some _) => 1
  | .finished _ => 0

theorem terminates_returned (call : SearchCall) (result : Except SearchFailure PagedViewModel) :
    Runs.Terminates call.step (.returned result) :=
  Runs.terminates_of_steps call.step _ fun _ _ stepped => nomatch stepped

/-- Each step goes on in the tree of the counter, or leaves the counter and takes one of the other
steps, of which there are few. -/
theorem terminates_running (call : SearchCall) (program : CountProgram) (left : Nat)
    (group : SearchGroup) (same : countLeft group.count = program) (few : group.left = left) :
    Runs.Terminates call.step (.running group) := by
  induction program using CountProgram.answered_induction generalizing left group with
  | steps program inductionHypothesis =>
    induction left using Nat.strong_induction_on generalizing group with
    | _ left fewer =>
      apply Runs.terminates_of_steps
      intro event next stepped
      obtain ⟨_, found, steps⟩ := step_cases call _ next event stepped
      obtain rfl := SearchState.running.inj found
      cases steps with
      | countReturns answer counting rest running answered =>
        have going : program = counting := by
          rw [← same, running]
          rfl
        exact inductionHypothesis answer rest (going ▸ answered) _ _ rfl rfl
      | countFinishes outcome running =>
        refine fewer _ ?_ _ ?_ rfl
        · simp only [← few, SearchGroup.left, running]
          omega
        · rw [← same, running]
          rfl
      | selectReturns answer running =>
        refine fewer _ ?_ _ same rfl
        simp only [← few, SearchGroup.left, running]
        omega
      | selectFinishes answer running =>
        refine fewer _ ?_ _ same rfl
        simp only [← few, SearchGroup.left, running]
        omega
      | waited count data counted selected => exact terminates_returned call _

/-! ### What a run has seen -/

/-- The answer to a call of the counter. -/
def SearchEvent.countAnswer : SearchEvent → Option CountAnswer
  | .countReturns answer => some answer
  | _ => none

/-- The answer to the call for the rows. -/
def SearchEvent.selectAnswer : SearchEvent → Option (Except QueryError Nat)
  | .selectReturns answer => some answer
  | _ => none

def countAnswers (events : List SearchEvent) : List CountAnswer :=
  events.filterMap SearchEvent.countAnswer

def selectAnswers (events : List SearchEvent) : List (Except QueryError Nat) :=
  events.filterMap SearchEvent.selectAnswer

/-- The answers that the goroutine of the rows has had. -/
def answersSeen : Goroutine (Option (Except QueryError Nat)) QueryError Nat →
    List (Except QueryError Nat)
  | .running none => []
  | .running (some answer) => [answer]
  | .finished answer => [answer]

/-- The group stands where the answers so far lead. -/
structure Tracks (call : SearchCall) (past : List SearchEvent) (group : SearchGroup) : Prop where
  counted : Runs.exec CountProgram.answered call.config.counting (countAnswers past) =
    some (countLeft group.count)
  selected : selectAnswers past = answersSeen group.data
  records : Records group.failure group.count group.data

/-- A state of a search that has seen these events. -/
inductive Follows (call : SearchCall) (past : List SearchEvent) : SearchState → Prop where
  | running (group : SearchGroup) (tracks : Tracks call past group) :
      Follows call past (.running group)
  | returned (group : SearchGroup) (count : Except QueryError CountResult)
      (data : Except QueryError Nat) (tracks : Tracks call past group)
      (counted : group.count = .finished count) (selected : group.data = .finished data) :
      Follows call past (.returned (call.result group.failure count data))

/-- A step of a group adds its answer. -/
theorem steps_follows (call : SearchCall) (past : List SearchEvent) (group : SearchGroup)
    (event : SearchEvent) (next : SearchState) (tracks : Tracks call past group)
    (steps : group.Steps call event next) : Follows call (past ++ [event]) next := by
  have countSilent : event.countAnswer = none →
      countAnswers (past ++ [event]) = countAnswers past := Runs.filterMap_concat_none _ past event
  have selectSilent : event.selectAnswer = none →
      selectAnswers (past ++ [event]) = selectAnswers past :=
    Runs.filterMap_concat_none _ past event
  obtain ⟨counted, selected, records⟩ := tracks
  cases steps with
  | countReturns answer program rest running answered =>
    rw [running] at counted records
    refine .running _ ⟨?_, (selectSilent rfl).trans selected, records_running _ _ _ _ records⟩
    rw [countAnswers, Runs.filterMap_concat]
    refine Runs.exec_append_of CountProgram.answered _ _ _ _ _ counted ?_
    simp only [SearchEvent.countAnswer, Option.toList_some, countLeft, Runs.exec, answered]
  | countFinishes outcome running =>
    rw [running] at counted records
    refine .running _ ⟨?_, (selectSilent rfl).trans selected, records_finished _ _ _ _ records⟩
    rw [countSilent rfl]
    exact counted
  | selectReturns answer running =>
    rw [running] at selected records
    refine .running _ ⟨?_, ?_, ?_⟩
    · rw [countSilent rfl]
      exact counted
    · rw [selectAnswers, Runs.filterMap_concat, ← selectAnswers, selected]
      rfl
    · exact records_symm _ _ _ (records_running _ _ _ _ (records_symm _ _ _ records))
  | selectFinishes answer running =>
    rw [running] at selected records
    refine .running _ ⟨?_, (selectSilent rfl).trans selected, ?_⟩
    · rw [countSilent rfl]
      exact counted
    · exact records_symm _ _ _ (records_finished _ _ _ _ (records_symm _ _ _ records))
  | waited count data finished returned =>
    refine .returned group count data ⟨?_, (selectSilent rfl).trans selected, records⟩
      finished returned
    rw [countSilent rfl]
    exact counted

/-- Of a search that has returned, both goroutines have; it returns the response, or the error of
one of them. -/
theorem result_cases (call : SearchCall) (events : List SearchEvent)
    (result : Except SearchFailure PagedViewModel)
    (follows : Follows call events (.returned result)) :
    ∃ count data, call.config.counting.Ends (countAnswers events) count ∧
      selectAnswers events = [data] ∧
      ((∃ counted rows, count = .ok counted ∧ data = .ok rows ∧
          result = .ok (call.respond counted rows)) ∨
        ∃ error, result = .error (.query error) ∧
          (count = .error error ∨ data = .error error)) := by
  obtain _ | ⟨group, count, data, ⟨counted, selected, records⟩, finished, returned⟩ := follows
  rw [finished] at counted records
  rw [returned] at selected records
  refine ⟨count, data, counted, selected, ?_⟩
  clear counted selected
  cases failure : group.failure with
  | some error =>
    refine Or.inr ⟨error, rfl, ?_⟩
    rcases records.failed error failure with failed | failed
    · exact Or.inl (Goroutine.finished.inj failed)
    · exact Or.inr (Goroutine.finished.inj failed)
  | none =>
    have clean := records.clean failure
    cases count with
    | error error => exact absurd rfl (clean error).1
    | ok counted =>
      cases data with
      | error error => exact absurd rfl (clean error).2
      | ok rows => exact Or.inl ⟨counted, rows, rfl, rfl, rfl⟩

end Steps

/-! ### The response -/

/-- The page is the first one, and the slice for its rows is empty. -/
def SearchCall.EmptyFirstPage (call : SearchCall) (rows : Nat) : Prop :=
  call.request.pagination.number = 1 ∧ call.destination.filled rows = .slice 0

theorem sliceLen_eq_zero_iff (destination : Destination) :
    sliceLen destination = 0 ↔ destination = .slice 0 := by
  cases destination with
  | slice length => simp [sliceLen]
  | other => simp [sliceLen]

/-- An estimate over an empty first page is none. -/
theorem respond_corrected (call : SearchCall) (count : CountResult) (rows : Nat)
    (estimated : count.isEstimated = true) (empty : call.EmptyFirstPage rows) :
    call.respond count rows =
      newPagedViewModel call.request.pagination 0 false call.config.maxPageSize := by
  obtain ⟨first, empty⟩ := empty
  simp only [SearchCall.respond, correctEmptyFirstPage, estimated, first, empty, sliceLen, and_self,
    if_true]

/-- Any other count is reported. -/
theorem respond_counted (call : SearchCall) (count : CountResult) (rows : Nat)
    (counted : ¬(count.isEstimated = true ∧ call.EmptyFirstPage rows)) :
    call.respond count rows = newPagedViewModel call.request.pagination count.count
      count.isEstimated call.config.maxPageSize := by
  rw [SearchCall.EmptyFirstPage, ← sliceLen_eq_zero_iff] at counted
  rw [SearchCall.respond, correctEmptyFirstPage, if_neg counted]

theorem totalPagesWithMax_zero (pagination : Pagination) (max : Int64) :
    pagination.totalPagesWithMax 0 max = 0 := by
  rw [Pagination.totalPagesWithMax, if_pos (by decide)]

section Orchestration

variable [ExplainDecoding]

/-! ### The orchestration -/

/-- What a search comes to, from the answers to its calls. -/
structure SearchCall.Settles (call : SearchCall) (events : List SearchEvent)
    (result : Except SearchFailure PagedViewModel) : Prop where
  succeeds : (∃ response, result = .ok response) ↔
    (∃ rows, selectAnswers events = [.ok rows]) ∧
      ∃ count, call.config.Counts (countAnswers events) count
  failed : ∀ failure, result = .error failure → ∃ error, failure = .query error ∧
    (selectAnswers events = [.error error] ∨
      call.config.counting.Ends (countAnswers events) (.error error))
  counted : ∀ response rows count, result = .ok response → selectAnswers events = [.ok rows] →
    call.config.Counts (countAnswers events) count →
    ¬(call.config.UsesEstimate (countAnswers events) ∧ call.EmptyFirstPage rows) →
    response = newPagedViewModel call.request.pagination count.count count.isEstimated
      call.config.maxPageSize
  estimated : ∀ response rows, result = .ok response → selectAnswers events = [.ok rows] →
    (response.isEstimatedCount = true ↔
      call.config.UsesEstimate (countAnswers events) ∧ ¬call.EmptyFirstPage rows)
  corrected : ∀ response rows, result = .ok response → selectAnswers events = [.ok rows] →
    call.config.UsesEstimate (countAnswers events) → call.EmptyFirstPage rows →
    response.totalCount = 0 ∧ response.totalPages = 0 ∧ response.isEstimatedCount = false

/-- With the rows and the count, a search comes to its response. -/
theorem settles_response (call : SearchCall) (events : List SearchEvent) (counted : CountResult)
    (rows : Nat) (ends : call.config.counting.Ends (countAnswers events) (.ok counted))
    (selected : selectAnswers events = [.ok rows]) :
    call.Settles events (.ok (call.respond counted rows)) := by
  have counts := (counting_succeeds_iff call.config _ counted).mp ends
  have uses := counts_usesEstimate call.config _ counted counts
  have sameRows : ∀ others, selectAnswers events = [.ok others] → rows = others := by
    intro others selectedOthers
    rw [selected] at selectedOthers
    exact Except.ok.inj (List.singleton_inj.mp selectedOthers)
  refine ⟨?_, fun failure same => (nomatch same), ?_, ?_, ?_⟩
  · exact ⟨fun _ => ⟨⟨rows, selected⟩, counted, counts⟩, fun _ => ⟨_, rfl⟩⟩
  · intro response others count same selectedOthers countsOther kept
    obtain rfl := sameRows others selectedOthers
    have endsOther := (counting_succeeds_iff call.config _ count).mpr countsOther
    obtain rfl : counted = count := Except.ok.inj (ends_unique _ _ _ _ ends endsOther)
    rw [← uses] at kept
    rw [← Except.ok.inj same, respond_counted call counted rows kept]
  · intro response others same selectedOthers
    obtain rfl := sameRows others selectedOthers
    rw [← uses, ← Except.ok.inj same]
    by_cases empty : counted.isEstimated = true ∧ call.EmptyFirstPage rows
    · rw [respond_corrected call counted rows empty.1 empty.2]
      exact ⟨fun estimated => (nomatch estimated), fun kept => absurd empty.2 kept.2⟩
    · rw [respond_counted call counted rows empty]
      exact ⟨fun estimated => ⟨estimated, fun first => empty ⟨estimated, first⟩⟩, And.left⟩
  · intro response others same selectedOthers estimated empty
    obtain rfl := sameRows others selectedOthers
    rw [← Except.ok.inj same, respond_corrected call counted rows (uses.mpr estimated) empty]
    exact ⟨rfl, totalPagesWithMax_zero call.request.pagination call.config.maxPageSize, rfl⟩

/-- With an error of one of its goroutines, a search comes to that error. -/
theorem settles_failure (call : SearchCall) (events : List SearchEvent) (error : QueryError)
    (count : Except QueryError CountResult) (data : Except QueryError Nat)
    (ends : call.config.counting.Ends (countAnswers events) count)
    (selected : selectAnswers events = [data])
    (failed : count = .error error ∨ data = .error error) :
    call.Settles events (.error (.query error)) := by
  refine ⟨⟨fun ⟨_, same⟩ => (nomatch same), ?_⟩, ?_, fun _ _ _ same => (nomatch same),
    fun _ _ same => (nomatch same), fun _ _ same => (nomatch same)⟩
  · rintro ⟨⟨rows, selectedRows⟩, counted, counts⟩
    have succeeds := (counting_succeeds_iff call.config _ counted).mpr counts
    rcases failed with rfl | rfl
    · cases ends_unique _ _ _ _ ends succeeds
    · cases selected.symm.trans selectedRows
  · intro failure same
    refine ⟨error, (Except.error.inj same).symm, ?_⟩
    rcases failed with rfl | rfl
    · exact Or.inr ends
    · exact Or.inl selected

variable [CaseMapping] [Formatting] [TimeParsing]

omit [ExplainDecoding]

/-- The request is refused, by its validation or its compilation. -/
def SearchCall.Refused (call : SearchCall) (error : SearchError) : Prop :=
  call.config.validate call.request = some error ∨
    call.config.validate call.request = none ∧
      call.config.compile call.order call.request call.options = .error error

/-- The request is valid and compiles. -/
def SearchCall.Accepted (call : SearchCall) (query : CompiledQuery) : Prop :=
  call.config.validate call.request = none ∧
    call.config.compile call.order call.request call.options = .ok query

theorem start_refused (call : SearchCall) (error : SearchError) (refused : call.Refused error) :
    call.start = .returned (.error (.request error)) := by
  rcases refused with invalid | ⟨valid, failed⟩
  · rw [SearchCall.start, invalid]
  · rw [SearchCall.start, valid, failed]

theorem start_accepted (call : SearchCall) (query : CompiledQuery)
    (accepted : call.Accepted query) :
    call.start = .running ⟨query, .running call.config.counting, .running none, none⟩ := by
  rw [SearchCall.start, accepted.1, accepted.2]

variable [ExplainDecoding]

omit [CaseMapping] [Formatting] [TimeParsing] in
/-- A search that has returned does nothing more. -/
theorem exec_returned (call : SearchCall) (result : Except SearchFailure PagedViewModel)
    (events : List SearchEvent) (final : SearchState)
    (run : Runs.exec call.step (.returned result) events = some final) : events = [] := by
  cases events with
  | nil => rfl
  | cons event rest =>
    obtain ⟨next, stepped, _⟩ := Runs.exec_cons call.step _ final event rest run
    cases stepped

/-- Every run of an accepted search follows its answers. -/
theorem exec_follows (call : SearchCall) (query : CompiledQuery) (accepted : call.Accepted query)
    (events : List SearchEvent) (final : SearchState)
    (run : Runs.exec call.step call.start events = some final) : Follows call events final := by
  refine Runs.exec_records call.step (Follows call) ?_ call.start final [] events run ?_
  · intro past state event next stepped follows
    obtain ⟨group, rfl, steps⟩ := step_cases call state next event stepped
    obtain ⟨_, tracks⟩ := follows
    exact steps_follows call past group event next tracks steps
  · rw [start_accepted call query accepted]
    exact .running _ ⟨rfl, rfl, records_start _ _⟩

/-- A search takes finitely many steps, and where it can take none it has returned. A request that
is refused returns its error with no call made. The search of any other one succeeds exactly when
its rows are selected and its count succeeds, whatever the querier answers and in whichever order
the goroutines come to their ends; an estimate is reported as one, but over an empty first page
the total is none. -/
theorem search_orchestrated (call : SearchCall) :
    (Runs.Terminates call.step call.start ∧
      ∀ events state, Runs.exec call.step call.start events = some state →
        (∀ event, call.step state event = none) → ∃ result, state = .returned result) ∧
    (∀ error, call.Refused error →
      call.start = .returned (.error (.request error)) ∧ call.pending call.start = [] ∧
        ∀ events final, Runs.exec call.step call.start events = some final → events = []) ∧
    ∀ query, call.Accepted query → ∀ events result,
      Runs.exec call.step call.start events = some (.returned result) →
        call.Settles events result := by
  refine ⟨⟨?_, ?_⟩, ?_, ?_⟩
  · cases call.start with
    | returned result => exact terminates_returned call result
    | running group => exact terminates_running call _ _ group rfl rfl
  · intro events state run stuck
    cases state with
    | returned result => exact ⟨result, rfl⟩
    | running group =>
      obtain ⟨event, next, stepped⟩ := exists_step call group
      rw [stuck event] at stepped
      cases stepped
  · intro error refused
    rw [start_refused call error refused]
    exact ⟨rfl, rfl, exec_returned call _⟩
  · intro query accepted events result run
    have follows := exec_follows call query accepted events _ run
    obtain ⟨count, data, ends, selected, outcome⟩ := result_cases call events result follows
    rcases outcome with ⟨counted, rows, rfl, rfl, rfl⟩ | ⟨error, rfl, failed⟩
    · exact settles_response call events counted rows ends selected
    · exact settles_failure call events error count data ends selected failed

end Orchestration

/-- A decoder that finds one plan in every text, with as many rows. -/
@[reducible] def planDecoding : ExplainDecoding where
  unmarshal _ := .ok [.finite 999]
  outOfRange _ := 0

def registrySearch (filters : List FilterParameter) : SearchCall where
  config := ⟨registryConfig, none⟩
  order := registryFields
  request := ⟨[], filters, [], ⟨10, 1⟩⟩
  table := ⟨"r.*", "registry r"⟩
  destination := .slice 0
  options := []

/-- No row is selected, the exact count runs out of time, and the estimate is that of the plan. -/
def lateCount : List SearchEvent :=
  [.countReturns (.exact (.error ⟨"context deadline exceeded", true⟩)), .selectReturns (.ok 0),
    .selectFinishes, .countReturns (.explain (.ok "[...]")), .countFinishes, .waited]

/-- An estimate over an empty first page comes to a total of none, and a request for a field that
is not there returns at once. -/
theorem lateCount_settles :
    (∃ query response,
      @SearchCall.Accepted asciiCase asciiFormatting noTimes (registrySearch []) query ∧
      Runs.exec (@SearchCall.step planDecoding (registrySearch []))
        (@SearchCall.start asciiCase asciiFormatting noTimes (registrySearch [])) lateCount =
          some (.returned (.ok response)) ∧
      response.totalCount = 0 ∧ response.totalPages = 0 ∧ response.isEstimatedCount = false) ∧
    @SearchCall.start asciiCase asciiFormatting noTimes
      (registrySearch [⟨"ghost", "eq", .string "x"⟩]) =
        .returned (.error (.request (.invalidField "ghost" "registry"))) := by
  constructor
  · obtain ⟨query, compiled, -⟩ := exists_of_any (@ResourceConfig.compile asciiCase asciiFormatting
      noTimes registryConfig registryFields (registrySearch []).request []) (fun _ => true)
      (by decide +kernel)
    have accepted : @SearchCall.Accepted asciiCase asciiFormatting noTimes (registrySearch [])
        query := ⟨by decide +kernel, compiled⟩
    have run : Runs.exec (@SearchCall.step planDecoding (registrySearch []))
        (@SearchCall.start asciiCase asciiFormatting noTimes (registrySearch [])) lateCount =
          some (.returned (.ok ((registrySearch []).respond ⟨999, true⟩ 0))) := by
      rw [@start_accepted asciiCase asciiFormatting noTimes _ query accepted]
      rfl
    obtain ⟨_, _, settles⟩ := @search_orchestrated asciiCase asciiFormatting noTimes planDecoding
      (registrySearch [])
    refine ⟨query, _, accepted, run, ?_⟩
    exact @SearchCall.Settles.corrected planDecoding _ _ _
      (settles query accepted lateCount _ run) _ 0 rfl rfl ⟨_, .tail _ (.head _)⟩
      ⟨by decide, rfl⟩
  · exact ((@search_orchestrated asciiCase asciiFormatting noTimes planDecoding _).2.1 _
      (Or.inl (by decide +kernel))).1

end SharedGo.Search
