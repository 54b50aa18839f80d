/-
This file is about a client that reads a search page by page. The querier answers
from a database: it has rows, it keeps those that satisfy the condition of the
query, it arranges them as the sort order says, in the same way whenever it is
asked, and it returns those in the window of the page. What the client gets is
proved against what it asked for: a total that is not marked as an estimate is the
number of rows that the request asks for, and the pages up to that total are these
rows, each of them once and in the order of the database.
-/

import SharedGo.CompileMeaning
import SharedGo.Paging
import SharedGo.Searcher

namespace SharedGo.Search

open SharedGo Text Fmt NumberedText Sql

/-! ### Windows of a list -/

/-- The elements of a list in a window. -/
def Window.slice {Element : Type} (window : Window) (elements : List Element) : List Element :=
  (elements.drop window.offset.toNat).take window.limit.toNat

/-- The windows of the first pages, one after the other, are the front of the list. -/
theorem flatMap_windows {Element : Type} (elements : List Element) (size : Nat) (pages : Nat) :
    ((List.range pages).flatMap fun index : Nat => (pageWindow size (index + 1)).slice elements) =
      elements.take (pages * size) := by
  induction pages with
  | zero => simp
  | succ pages inductionHypothesis =>
    have offset : (((pages : Int) + 1 - 1) * size).toNat = pages * size := by
      rw [Int.add_sub_cancel, ← Int.natCast_mul, Int.toNat_natCast]
    rw [List.range_succ, List.flatMap_append, inductionHypothesis, List.flatMap_singleton,
      Nat.succ_mul, List.take_add]
    simp only [pageWindow, Window.slice, offset, Int.toNat_natCast]

/-- The pages of a total reach its end. -/
theorem le_pageCount_mul (total size : Nat) (positive : 0 < size) :
    total ≤ (pageCount total size).toNat * size := by
  unfold pageCount
  split
  · omega
  · have enough : (total : Int) ≤ ((total : Int) + size - 1) / size * size := by
      have beyond := Int.lt_ediv_add_one_mul_self ((total : Int) + size - 1)
        (by omega : (0 : Int) < size)
      rw [Int.add_mul, Int.one_mul] at beyond
      omega
    have nonnegative : 0 ≤ ((total : Int) + size - 1) / size :=
      Int.ediv_nonneg (by omega) (by omega)
    obtain ⟨pages, isPages⟩ := Int.eq_ofNat_of_zero_le nonnegative
    rw [isPages] at enough ⊢
    rw [Int.toNat_natCast]
    exact_mod_cast enough

/-! ### A database -/

/-- The rows of a source with the values of their columns, and what a sort order makes of them. -/
structure Source (Row Value : Type) where
  rows : List Row
  cells : Row → Cells Value
  arrange : String → List Row → List Row
  arranges : ∀ orderBy rows, (arrange orderBy rows).Perm rows

section Source

variable {Row Value : Type} (source : Source Row Value)

/-- The rows that satisfy the condition of a query, in its order. -/
def Source.found (query : CompiledQuery) : List Row :=
  source.arrange query.orderBy (source.rows.filter fun row =>
    Satisfies ((source.cells row).under query.args).row query.whereClause)

/-- The querier answers from the source: the rows of the page are those in the window, and an exact
count is that of all. It may also fail, and an estimate can be anything. -/
structure Source.Answers (query : CompiledQuery) (window : Window) (events : List SearchEvent) :
    Prop where
  selected : ∀ rows, .selectReturns (.ok rows) ∈ events →
    rows = (window.slice (source.found query)).length
  counted : ∀ count, .countReturns (.exact (.ok count)) ∈ events →
    count.toInt = ((source.found query).length : Int)

variable [CaseMapping] [Formatting] [TimeParsing]

open Classical in
/-- The rows that a request asks for. -/
noncomputable def Source.asked (config : ResourceConfig) (state : CompileState)
    (request : RequestBody) : List Row :=
  source.rows.filter fun row => (source.cells row).Matches config state request

/-- The rows that a query finds are those that its request asks for. -/
theorem found_eq (config : ResourceConfig) (direct : config.Direct)
    (order : List (GoMap.Entry String FieldConfig)) (visits : config.fields.Visits order)
    (request : RequestBody) (options : List CompileOption) (query : CompiledQuery)
    (compiled : config.compile order request options = .ok query) :
    source.found query = source.arrange (config.buildOrderBy request.sortFields)
      (source.asked config (compileState options) request) := by
  obtain ⟨_, spec⟩ := compile_spec config direct.static order request options query compiled
  rw [Source.found, spec.orderBy, Source.asked]
  congr 1
  refine List.filter_congr fun row _ => ?_
  simp only [decide_eq_decide]
  exact compile_meaning (source.cells row) config direct order visits request options query
    compiled

end Source

/-! ### The total -/

theorem selectReturns_mem (events : List SearchEvent) (answer : Except QueryError Nat)
    (member : answer ∈ selectAnswers events) : .selectReturns answer ∈ events := by
  obtain ⟨event, isEvent, answers⟩ := List.mem_filterMap.mp member
  cases event <;> cases answers
  exact isEvent

theorem countReturns_mem (events : List SearchEvent) (answer : CountAnswer)
    (member : answer ∈ countAnswers events) : .countReturns answer ∈ events := by
  obtain ⟨event, isEvent, answers⟩ := List.mem_filterMap.mp member
  cases event <;> cases answers
  exact isEvent

/-- The first page starts at the first row. -/
theorem window_first (config : ResourceConfig) (pagination : Pagination)
    (first : pagination.number = 1) :
    config.window pagination = ⟨0, (config.pageSize pagination).toInt⟩ := by
  have zero : (pagination.number.toInt - 1) * (config.pageSize pagination).toInt = 0 := by
    simp [first]
  rw [window_eq config pagination (by rw [zero]; decide), pageWindow, zero]

section Total

variable {Row Value : Type} (source : Source Row Value) [CaseMapping] [Formatting] [TimeParsing]
  [ExplainDecoding]

/-- The counter is one of the package's. -/
def CountedConfig.Standard (config : CountedConfig) : Prop :=
  ∀ program, config.counter ≠ some (.custom program)

omit [CaseMapping] [Formatting] [TimeParsing] in
theorem counted_exactly (config : CountedConfig) (standard : config.Standard)
    (answers : List CountAnswer) (result : CountResult) (counts : config.Counts answers result)
    (unmarked : result.isEstimated = false) : .exact (.ok result.count) ∈ answers := by
  have exactly : CountsExactly answers result := by
    unfold CountedConfig.Counts at counts
    split at counts
    · exact counts
    · rename_i program custom
      exact absurd custom (standard program)
    · rcases counts with exactly | ⟨_, _, _, _, _, _, rfl⟩
      · exact exactly
      · cases unmarked
  obtain ⟨count, rfl, rfl⟩ := exactly
  exact List.mem_singleton_self _

/-- A total that is not marked as an estimate is that of the rows found, in every run: also where
the exact count ran out of time and the first page was empty. -/
theorem total_of_unmarked (call : SearchCall) (standard : call.config.Standard)
    (query : CompiledQuery) (accepted : call.Accepted query) (events : List SearchEvent)
    (response : PagedViewModel)
    (run : Runs.exec call.step call.start events = some (.returned (.ok response)))
    (answers : source.Answers query (call.config.window call.request.pagination) events)
    (unmarked : response.isEstimatedCount = false) :
    ∃ total : Int64, total.toInt = ((source.found query).length : Int) ∧
      response = newPagedViewModel call.request.pagination total false call.config.maxPageSize := by
  obtain ⟨count, data, ends, selected, succeeded | ⟨error, failed, -⟩⟩ :=
    result_cases call events _ (exec_follows call query accepted events _ run)
  · obtain ⟨counted, rows, rfl, rfl, isResponse⟩ := succeeded
    obtain rfl := Except.ok.inj isResponse
    have counts := (counting_succeeds_iff call.config _ counted).mp ends
    have isRows := answers.selected rows
      (selectReturns_mem events _ (by rw [selected]; exact List.mem_singleton_self _))
    by_cases corrected : counted.isEstimated = true ∧ call.EmptyFirstPage rows
    · refine ⟨0, ?_, respond_corrected call counted rows corrected.1 corrected.2⟩
      obtain ⟨first, empty⟩ := corrected.2
      have noRows : rows = 0 := by
        cases destination : call.destination with
        | slice length =>
          rw [destination] at empty
          exact Destination.slice.inj empty
        | other =>
          rw [destination] at empty
          cases empty
      rw [window_first call.config.toResourceConfig _ first, noRows] at isRows
      have positive := one_le_pageSize call.config.toResourceConfig call.request.pagination
      have none : source.found query = [] := by
        simp only [Window.slice, Int.toNat_zero, List.drop_zero, List.length_take] at isRows
        rw [← List.length_eq_zero_iff]
        omega
      rw [none]
      rfl
    · have isResponse := respond_counted call counted rows corrected
      rw [isResponse] at unmarked ⊢
      have exactly : counted.isEstimated = false := unmarked
      refine ⟨counted.count, ?_, by rw [exactly]⟩
      exact answers.counted _ (countReturns_mem events _
        (counted_exactly call.config standard _ counted counts exactly))
  · cases failed

/-! ### All pages -/

omit [CaseMapping] [Formatting] [TimeParsing] [ExplainDecoding] in
/-- The same search for another page. -/
def SearchCall.atPage (call : SearchCall) (number : Int64) : SearchCall :=
  { call with request := { call.request with
      pagination := { call.request.pagination with pageNumber := number } } }

omit [ExplainDecoding] in
/-- The rows that the statement of a search selects. -/
def Source.selected (call : SearchCall) : List Row :=
  match call.config.compile call.order call.request call.options with
  | .ok query => (call.config.window call.request.pagination).slice (source.found query)
  | .error _ => []

omit [ExplainDecoding] in
/-- The page is not part of the condition. -/
theorem compile_atPage (config : ResourceConfig) (order : List (GoMap.Entry String FieldConfig))
    (request : RequestBody) (options : List CompileOption) (query : CompiledQuery)
    (compiled : config.compile order request options = .ok query) (pagination : Pagination) :
    config.compile order { request with pagination := pagination } options =
      .ok { query with limit := config.buildLimit pagination } := by
  have same : config.bindConditions order { request with pagination := pagination }
      (compileState options) = config.bindConditions order request (compileState options) := rfl
  unfold ResourceConfig.compile at compiled ⊢
  rw [same]
  split at compiled
  · cases compiled
  · obtain rfl := Except.ok.inj compiled
    rfl

omit [ExplainDecoding] in
theorem selected_atPage (call : SearchCall) (query : CompiledQuery)
    (compiled : call.config.compile call.order call.request call.options = .ok query)
    (number : Int64) :
    source.selected (call.atPage number) =
      (call.config.window { call.request.pagination with pageNumber := number }).slice
        (source.found query) := by
  have recompiled := compile_atPage _ _ _ _ query compiled
    { call.request.pagination with pageNumber := number }
  rw [Source.selected]
  simp only [SearchCall.atPage, recompiled]
  rfl

omit [ExplainDecoding] in
/-- The pages of the rows found, one after the other, are all of them. -/
theorem flatMap_selected (call : SearchCall) (query : CompiledQuery)
    (compiled : call.config.compile call.order call.request call.options = .ok query)
    (total pages : Int64) (isTotal : total.toInt = ((source.found query).length : Int))
    (isPages : pages.toInt =
      pageCount total.toInt (call.config.pageSize call.request.pagination).toInt) :
    ((List.range pages.toInt.toNat).flatMap fun index =>
        source.selected (call.atPage (Int64.ofNat (index + 1)))) = source.found query := by
  have positive := one_le_pageSize call.config.toResourceConfig call.request.pagination
  obtain ⟨size, isSize⟩ := Int.eq_ofNat_of_zero_le (Int.le_trans (by decide) positive)
  have page (index : Nat) (isPage : index ∈ List.range pages.toInt.toNat) :
      source.selected (call.atPage (Int64.ofNat (index + 1))) =
        (pageWindow size (index + 1)).slice (source.found query) := by
    have below : index < pages.toInt.toNat := List.mem_range.mp isPage
    have bound := pages.toInt_lt
    have number : (Int64.ofNat (index + 1)).toInt = index + 1 := by
      rw [Int64.toInt_ofNat_of_lt (by omega)]
      rfl
    have window := window_of_page call.config.toResourceConfig call.request.pagination total
      (Int64.ofNat (index + 1)) (by rw [Int64.le_iff_toInt_le, number, Int64.toInt_one]; omega)
      (by rw [number, ← isPages]; omega)
    rw [selected_atPage source call query compiled, window, number, isSize]
  rw [List.flatMap_congr page, flatMap_windows]
  refine List.take_of_length_le ?_
  rw [isPages, isTotal, isSize]
  exact le_pageCount_mul _ _ (by omega)

end Total

/-- Three orders of one tenant with one of another between them. -/
def ordersSource : Source String Dynamic where
  rows := ["t-1", "t-2", "t-1", "t-1"]
  cells := orderRow
  arrange _ rows := rows
  arranges _ _ := List.Perm.refl _

def ordersSearch : SearchCall where
  config := ⟨ordersConfig, none⟩
  order := ordersConfig.fields.entries
  request := { ordersRequest with pagination := ⟨2, 1⟩ }
  table := ⟨"o.*", "orders o"⟩
  destination := .slice 0
  options := [.withTenant "t-1"]

def ordersCounted : List SearchEvent :=
  [.countReturns (.exact (.ok 3)), .selectReturns (.ok 2), .selectFinishes, .countFinishes, .waited]

end SharedGo.Search
