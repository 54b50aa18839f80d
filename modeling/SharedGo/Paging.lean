/-
This file proves that the pages of a search tile its result. The windows that the
compiled queries ask for, one for each page number, cut the indices of the result
into pieces of one size; the envelope of the response counts these pieces, and says
of each page whether something follows it. Both compute with 64-bit integers, and
what is proved holds where the numbers do not overflow.
-/

import Mathlib.Tactic.Ring
import SharedGo.Compile

namespace SharedGo.Search

open SharedGo Text Fmt

/-! ### Windows of one size -/

/-- A range of indices. -/
structure Window where
  offset : Int
  limit : Int
  deriving DecidableEq, Repr

def Window.Contains (window : Window) (index : Int) : Prop :=
  window.offset ≤ index ∧ index < window.offset + window.limit

/-- The window of a page, for windows of one size. -/
def pageWindow (size number : Int) : Window := ⟨(number - 1) * size, size⟩

/-- The number of windows that a total needs. -/
def pageCount (total size : Int) : Int := if total ≤ 0 then 0 else (total + size - 1) / size

theorem pageWindow_end (size number : Int) :
    (pageWindow size number).offset + (pageWindow size number).limit = number * size := by
  simp only [pageWindow]
  ring

/-- A positive number is that of a window exactly when the window starts within the total. -/
theorem le_pageCount_iff (total size number : Int) (positive : 0 < size) (first : 1 ≤ number) :
    number ≤ pageCount total size ↔ (pageWindow size number).offset < total := by
  have start : (number - 1) * size = number * size - size := by ring
  have before : 0 ≤ (number - 1) * size := Int.mul_nonneg (by omega) (by omega)
  simp only [pageCount, pageWindow]
  split
  · omega
  · rw [Int.le_ediv_iff_mul_le positive]
    omega

/-- There is a further window exactly when the total goes beyond the end of this one. -/
theorem lt_pageCount_iff (total size number : Int) (positive : 0 < size) (first : 1 ≤ number) :
    number < pageCount total size ↔
      (pageWindow size number).offset + (pageWindow size number).limit < total := by
  have next := le_pageCount_iff total size (number + 1) positive (by omega)
  rw [pageWindow_end, ← Int.add_one_le_iff, next]
  simp only [pageWindow, Int.add_sub_cancel]

/-- The window that contains an index is the one of its quotient. -/
theorem pageWindow_contains_iff (size number index : Int) (positive : 0 < size) :
    (pageWindow size number).Contains index ↔ number = index / size + 1 := by
  have start : (number - 1) * size = number * size - size := by ring
  rw [Window.Contains, pageWindow_end]
  simp only [pageWindow]
  constructor
  · rintro ⟨after, before⟩
    have lower : number - 1 ≤ index / size := (Int.le_ediv_iff_mul_le positive).mpr after
    have upper : index / size < number := (Int.ediv_lt_iff_lt_mul positive).mpr before
    omega
  · rintro rfl
    refine ⟨?_, (Int.ediv_lt_iff_lt_mul positive).mp (Int.lt_succ _)⟩
    exact (Int.le_ediv_iff_mul_le positive).mp (by omega)

/-! ### The envelope of a response -/

/-- The number of pages of a total; the sum wraps around as the machine's integers do. -/
def Pagination.totalPagesWithMax (pagination : Pagination) (total max : Int64) : Int64 :=
  if total ≤ 0 then 0
  else (total + pagination.sizeWithMax max - 1) / pagination.sizeWithMax max

def Pagination.hasPreviousPage (pagination : Pagination) : Bool := pagination.number > 1

structure PagedViewModel where
  pageSize : Int64
  pageNumber : Int64
  totalCount : Int64
  totalPages : Int64
  hasNextPage : Bool
  hasPreviousPage : Bool
  isEstimatedCount : Bool

def newPagedViewModel (pagination : Pagination) (total : Int64) (estimated : Bool) (max : Int64) :
    PagedViewModel where
  pageSize := pagination.sizeWithMax max
  pageNumber := pagination.number
  totalCount := total
  totalPages := pagination.totalPagesWithMax total max
  hasNextPage := pagination.number < pagination.totalPagesWithMax total max
  hasPreviousPage := pagination.hasPreviousPage
  isEstimatedCount := estimated

/-! ### The numbers of a page -/

theorem one_le_number (pagination : Pagination) : 1 ≤ pagination.number.toInt := by
  unfold Pagination.number
  split
  · decide
  · rename_i positive
    rw [Int64.le_iff_toInt_le, Int64.toInt_zero] at positive
    omega

/-- The page size is positive and at most the effective maximum. -/
theorem sizeWithMax_bounds (pagination : Pagination) (max : Int64) :
    1 ≤ (pagination.sizeWithMax max).toInt ∧
      (pagination.sizeWithMax max).toInt ≤
        (if max ≤ 0 then defaultMaxPageSize else max).toInt := by
  have positive : 1 ≤ (if max ≤ 0 then defaultMaxPageSize else max).toInt := by
    split
    · decide
    · rename_i given
      rw [Int64.le_iff_toInt_le, Int64.toInt_zero] at given
      omega
  have default : defaultPageSize.toInt = 10 := by decide
  unfold Pagination.sizeWithMax
  generalize (if max ≤ 0 then defaultMaxPageSize else max) = bound at positive ⊢
  simp only [gt_iff_lt, Int64.le_iff_toInt_le, Int64.lt_iff_toInt_lt, Int64.toInt_zero]
  split
  · split
    · omega
    · omega
  · split
    · omega
    · omega

/-- Both defaults of the maximum are the same. -/
theorem pageSize_eq (config : ResourceConfig) (pagination : Pagination) :
    config.pageSize pagination = pagination.sizeWithMax config.maxPageSize := by
  have default : ¬defaultMaxPageSize ≤ 0 := by decide
  unfold ResourceConfig.pageSize ResourceConfig.effectiveMaxPageSize Pagination.sizeWithMax
  by_cases positive : config.maxPageSize > 0
  · rw [if_pos positive]
  · rw [if_neg positive, if_neg default, if_pos (Int64.not_lt.mp positive)]

theorem toInt_offsetWithMax (pagination : Pagination) (max : Int64)
    (product : (pagination.number.toInt - 1) * (pagination.sizeWithMax max).toInt < 2 ^ 63) :
    (pagination.offsetWithMax max).toInt =
      (pageWindow (pagination.sizeWithMax max).toInt pagination.number.toInt).offset := by
  have first := one_le_number pagination
  have positive := (sizeWithMax_bounds pagination max).1
  have bound := pagination.number.toInt_lt
  have before : 0 ≤ (pagination.number.toInt - 1) * (pagination.sizeWithMax max).toInt :=
    Int.mul_nonneg (by omega) (by omega)
  have previous : (pagination.number - 1).toInt = pagination.number.toInt - 1 := by
    rw [Int64.toInt_sub, Int64.toInt_one]
    exact Int.bmod_eq_of_le (by omega) (by omega)
  rw [Pagination.offsetWithMax, Int64.toInt_mul, previous, pageWindow]
  exact Int.bmod_eq_of_le (by omega) (by omega)

theorem toInt_totalPagesWithMax (pagination : Pagination) (total max : Int64)
    (sum : total.toInt + (pagination.sizeWithMax max).toInt - 1 < 2 ^ 63) :
    (pagination.totalPagesWithMax total max).toInt =
      pageCount total.toInt (pagination.sizeWithMax max).toInt := by
  have positive := (sizeWithMax_bounds pagination max).1
  unfold Pagination.totalPagesWithMax pageCount
  simp only [Int64.le_iff_toInt_le, Int64.toInt_zero]
  split
  · exact Int64.toInt_zero
  · have nonzero : pagination.sizeWithMax max ≠ -1 := by
      intro negative
      rw [negative] at positive
      exact absurd positive (by decide)
    have numerator : (total + pagination.sizeWithMax max - 1).toInt =
        total.toInt + (pagination.sizeWithMax max).toInt - 1 := by
      rw [Int64.toInt_sub, Int64.toInt_add, Int64.toInt_one, Int.bmod_sub_bmod]
      exact Int.bmod_eq_of_le (by omega) (by omega)
    rw [Int64.toInt_div_of_ne_right _ _ nonzero, numerator]
    exact Int.tdiv_eq_ediv_of_nonneg (by omega)

/-- A sum beyond the range of the machine's integers wraps around to a negative number, and there
are no pages then. -/
theorem totalPagesWithMax_wrapped (pagination : Pagination) (total max : Int64)
    (sum : 2 ^ 63 ≤ total.toInt + (pagination.sizeWithMax max).toInt - 1) :
    (pagination.totalPagesWithMax total max).toInt ≤ 0 := by
  have positive := (sizeWithMax_bounds pagination max).1
  have totalBound := total.toInt_lt
  have sizeBound := (pagination.sizeWithMax max).toInt_lt
  unfold Pagination.totalPagesWithMax
  split
  · decide
  have nonzero : pagination.sizeWithMax max ≠ -1 := by
    intro negative
    rw [negative] at positive
    exact absurd positive (by decide)
  have numerator : (total + pagination.sizeWithMax max - 1).toInt < 0 := by
    have small : (total.toInt + (pagination.sizeWithMax max).toInt - 1) % ((2 ^ 64 : Nat) : Int) =
        total.toInt + (pagination.sizeWithMax max).toInt - 1 :=
      Int.emod_eq_of_lt (by omega) (by omega)
    rw [Int64.toInt_sub, Int64.toInt_add, Int64.toInt_one, Int.bmod_sub_bmod, Int.bmod_def, small,
      if_neg (by omega)]
    omega
  rw [Int64.toInt_div_of_ne_right _ _ nonzero]
  generalize (total + pagination.sizeWithMax max - 1).toInt = wrapped at numerator
  have quotient : 0 ≤ (-wrapped).tdiv (pagination.sizeWithMax max).toInt :=
    Int.tdiv_nonneg (by omega) (by omega)
  rw [Int.neg_tdiv] at quotient
  omega

/-! ### Pages -/

/-- The window that the compiled query asks for. -/
def ResourceConfig.window (config : ResourceConfig) (pagination : Pagination) : Window :=
  ⟨(pagination.offsetWithMax config.effectiveMaxPageSize).toInt,
    (config.pageSize pagination).toInt⟩

/-- The SQL of a window. -/
def Window.text (window : Window) : String :=
  "LIMIT " ++ toString window.limit ++ " OFFSET " ++ toString window.offset

theorem limit_of_compile [CaseMapping] [Formatting] [TimeParsing] (config : ResourceConfig)
    (order : List (GoMap.Entry String FieldConfig)) (request : RequestBody)
    (options : List CompileOption) (query : CompiledQuery)
    (compiled : config.compile order request options = .ok query) :
    query.limit = (config.window request.pagination).text := by
  unfold ResourceConfig.compile at compiled
  split at compiled
  · cases compiled
  · obtain rfl := Except.ok.inj compiled
    rfl

/-- Without overflow the window is that of the page number. -/
theorem window_eq (config : ResourceConfig) (pagination : Pagination)
    (product : (pagination.number.toInt - 1) * (config.pageSize pagination).toInt < 2 ^ 63) :
    config.window pagination =
      pageWindow (config.pageSize pagination).toInt pagination.number.toInt := by
  rw [ResourceConfig.window, toInt_offsetWithMax _ _ product]
  rfl

theorem number_of_positive (pageSize number : Int64) (positive : 1 ≤ number) :
    (⟨pageSize, number⟩ : Pagination).number = number := by
  refine if_neg (?_ : ¬number ≤ 0)
  rw [Int64.le_iff_toInt_le, Int64.toInt_one] at positive
  rw [Int64.le_iff_toInt_le, Int64.toInt_zero]
  omega

section Pages

variable (config : ResourceConfig) (pagination : Pagination) (total : Int64)

theorem one_le_pageSize : 1 ≤ (config.pageSize pagination).toInt :=
  (sizeWithMax_bounds pagination config.effectiveMaxPageSize).1

theorem pageSize_le_max :
    (config.pageSize pagination).toInt ≤ config.effectiveMaxPageSize.toInt := by
  have positive : ¬config.effectiveMaxPageSize ≤ 0 := by
    unfold ResourceConfig.effectiveMaxPageSize
    split
    · exact Int64.not_le.mpr ‹_›
    · decide
  have bounds := (sizeWithMax_bounds pagination config.effectiveMaxPageSize).2
  rwa [if_neg positive] at bounds

/-- The pages of a total have their windows without overflow. -/
theorem window_of_page (number : Int64) (positive : 1 ≤ number)
    (within : number.toInt ≤ pageCount total.toInt (config.pageSize pagination).toInt) :
    config.window { pagination with pageNumber := number } =
      pageWindow (config.pageSize pagination).toInt number.toInt := by
  have first : 1 ≤ number.toInt := by
    rwa [Int64.le_iff_toInt_le, Int64.toInt_one] at positive
  have starts := (le_pageCount_iff total.toInt _ number.toInt
    (one_le_pageSize config pagination) first).mp within
  have sameNumber := number_of_positive pagination.pageSize number positive
  have window := window_eq config { pagination with pageNumber := number } (by
    rw [sameNumber]
    exact Int.lt_trans starts total.toInt_lt)
  rwa [sameNumber] at window

theorem pages_cover (index : Int) (nonnegative : 0 ≤ index) (below : index < total.toInt) :
    ∃! number : Int64,
      (1 ≤ number ∧
        number.toInt ≤ pageCount total.toInt (config.pageSize pagination).toInt) ∧
        (config.window { pagination with pageNumber := number }).Contains index := by
  have positive := one_le_pageSize config pagination
  have windows (number : Int64) := window_of_page config pagination total number
  generalize (config.pageSize pagination).toInt = size at positive windows ⊢
  have quotient : 0 ≤ index / size := Int.ediv_nonneg nonnegative (by omega)
  have small : index / size ≤ index := Int.ediv_le_self _ nonnegative
  have value : (Int64.ofInt (index / size + 1)).toInt = index / size + 1 := by
    have bound := total.toInt_lt
    exact Int64.toInt_ofInt_of_le (by omega) (by omega)
  generalize Int64.ofInt (index / size + 1) = number at value
  have contains : (pageWindow size number.toInt).Contains index :=
    (pageWindow_contains_iff size number.toInt index positive).mpr value
  have first : 1 ≤ number := by
    rw [Int64.le_iff_toInt_le, Int64.toInt_one]
    omega
  have within : number.toInt ≤ pageCount total.toInt size :=
    (le_pageCount_iff _ _ _ positive (by omega)).mpr (Int.lt_of_le_of_lt contains.1 below)
  refine ⟨number, ⟨⟨first, within⟩, ?_⟩, ?_⟩
  · rwa [windows number first within]
  · rintro other ⟨⟨otherFirst, otherWithin⟩, otherContains⟩
    rw [windows other otherFirst otherWithin, pageWindow_contains_iff _ _ _ positive]
      at otherContains
    exact Int64.toInt_inj.mp (otherContains.trans value.symm)

theorem page_nonempty (number : Int64) (first : 1 ≤ number)
    (within : number.toInt ≤ pageCount total.toInt (config.pageSize pagination).toInt) :
    ∃ index, 0 ≤ index ∧ index < total.toInt ∧
      (config.window { pagination with pageNumber := number }).Contains index := by
  have positive := one_le_pageSize config pagination
  rw [window_of_page config pagination total number first within]
  rw [Int64.le_iff_toInt_le, Int64.toInt_one] at first
  rw [le_pageCount_iff _ _ _ positive first] at within
  have start : 0 ≤ (number.toInt - 1) * (config.pageSize pagination).toInt :=
    Int.mul_nonneg (by omega) (by omega)
  refine ⟨_, start, within, Int.le_refl _, ?_⟩
  simp only [pageWindow]
  omega

theorem further_page_iff
    (product : (pagination.number.toInt - 1) * (config.pageSize pagination).toInt < 2 ^ 63) :
    pagination.number.toInt < pageCount total.toInt (config.pageSize pagination).toInt ↔
      ∃ index, index < total.toInt ∧
        (config.window pagination).offset + (config.window pagination).limit ≤ index := by
  rw [window_eq config pagination product, lt_pageCount_iff _ _ _
    (one_le_pageSize config pagination) (one_le_number pagination)]
  constructor
  · intro beyond
    exact ⟨_, beyond, Int.le_refl _⟩
  · rintro ⟨index, below, behind⟩
    exact Int.lt_of_le_of_lt behind below

end Pages

/-- Every compiled query prints its window. The offset of the window is that of the page exactly
when the product of page number and size stays in the range of the machine's integers, and the
number of pages is exact exactly when the sum of total and size does, or nothing was found. -/
theorem paging_exact_iff [CaseMapping] [Formatting] [TimeParsing] (config : ResourceConfig)
    (pagination : Pagination) (total : Int64) :
    let size := (config.pageSize pagination).toInt
    let number := pagination.number.toInt
    let offset := (config.window pagination).offset
    (∀ order request options query, config.compile order request options = .ok query →
        query.limit = (config.window request.pagination).text) ∧
      (0 ≤ offset ∧ offset = (number - 1) * size ↔ (number - 1) * size < 2 ^ 63) ∧
      ((pagination.totalPagesWithMax total config.maxPageSize).toInt =
          pageCount total.toInt size ↔ total.toInt ≤ 0 ∨ total.toInt + size - 1 < 2 ^ 63) := by
  intro size number offset
  have positive : 1 ≤ size := one_le_pageSize config pagination
  refine ⟨fun order request options query compiled =>
    limit_of_compile config order request options query compiled, ⟨?_, ?_⟩, ?_, ?_⟩
  · rintro ⟨_, inRange⟩
    rw [← inRange]
    exact (pagination.offsetWithMax config.effectiveMaxPageSize).toInt_lt
  · intro product
    have window : offset = (number - 1) * size :=
      congrArg Window.offset (window_eq config pagination product)
    have first : 1 ≤ number := one_le_number pagination
    exact ⟨window ▸ Int.mul_nonneg (by omega) (by omega), window⟩
  · intro pages
    by_contra outside
    rw [not_or] at outside
    have wrapped := totalPagesWithMax_wrapped pagination total config.maxPageSize (by
      rw [← pageSize_eq]
      exact Int.not_lt.mp outside.2)
    have nonempty : 1 ≤ pageCount total.toInt size := by
      rw [le_pageCount_iff _ _ _ positive Int.le_rfl]
      simp only [pageWindow]
      omega
    omega
  · rintro (empty | sum)
    · unfold Pagination.totalPagesWithMax pageCount
      rw [if_pos empty, if_pos, Int64.toInt_zero]
      rwa [Int64.le_iff_toInt_le, Int64.toInt_zero]
    · have pages := toInt_totalPagesWithMax pagination total config.maxPageSize
      rw [← pageSize_eq] at pages
      exact pages sum

/-- The resource with pages of at most fifty. -/
def pagedConfig : ResourceConfig where
  name := "reports"
  fields := ∅
  defaultSort := ⟨"", ""⟩
  tenantColumn := ""
  maxPageSize := 50
  maxBulkTerms := 5

/-- A request for the largest page number prints a negative offset, and the largest total has a
negative number of pages. -/
theorem paging_wraps :
    let pagination : Pagination := ⟨50, 9223372036854775807⟩
    (pagedConfig.window pagination).offset = -100 ∧
      (pagination.number.toInt - 1) * (pagedConfig.pageSize pagination).toInt =
        461168601842738790300 ∧
      (@ResourceConfig.compile asciiCase asciiFormatting noTimes pagedConfig []
          ⟨[], [], [], pagination⟩ []).toOption.map CompiledQuery.limit =
        some "LIMIT 50 OFFSET -100" ∧
      pagination.totalPagesWithMax 9223372036854775807 50 = -184467440737095515 ∧
      pageCount 9223372036854775807 50 = 184467440737095517 := by
  decide +kernel

/-- The windows of the pages cover each index of the result exactly once and none is empty; the
envelope has the size of the window, which is positive and at most the effective maximum; and there
is a next page exactly when some index lies behind the window. -/
theorem pages_tile [CaseMapping] [Formatting] [TimeParsing] (config : ResourceConfig)
    (pagination : Pagination) (total : Int64) (estimated : Bool)
    (sum : total.toInt + (config.pageSize pagination).toInt - 1 < 2 ^ 63) :
    let envelope := newPagedViewModel pagination total estimated config.maxPageSize
    let window := config.window pagination
    let windowOf (number : Int64) := config.window { pagination with pageNumber := number }
    (∀ order request options query, config.compile order request options = .ok query →
        query.limit = (config.window request.pagination).text) ∧
      (∀ index : Int, 0 ≤ index → index < total.toInt →
        ∃! number : Int64, (1 ≤ number ∧ number ≤ envelope.totalPages) ∧
          (windowOf number).Contains index) ∧
      (∀ number : Int64, 1 ≤ number → number ≤ envelope.totalPages →
        ∃ index, 0 ≤ index ∧ index < total.toInt ∧ (windowOf number).Contains index) ∧
      (envelope.pageSize.toInt = window.limit ∧ 1 ≤ window.limit ∧
        window.limit ≤ config.effectiveMaxPageSize.toInt) ∧
      ((pagination.number.toInt - 1) * (config.pageSize pagination).toInt < 2 ^ 63 →
        (envelope.hasNextPage = true ↔
          ∃ index, index < total.toInt ∧ window.offset + window.limit ≤ index)) := by
  intro envelope window windowOf
  have pages : envelope.totalPages.toInt =
      pageCount total.toInt (config.pageSize pagination).toInt := by
    rw [pageSize_eq] at sum ⊢
    exact toInt_totalPagesWithMax pagination total config.maxPageSize sum
  have within (number : Int64) : number ≤ envelope.totalPages ↔
      number.toInt ≤ pageCount total.toInt (config.pageSize pagination).toInt := by
    rw [Int64.le_iff_toInt_le, pages]
  simp only [within]
  refine ⟨limit_of_compile config, pages_cover config pagination total,
    page_nonempty config pagination total, ⟨?_, one_le_pageSize config pagination,
      pageSize_le_max config pagination⟩, fun product => ?_⟩
  · exact congrArg Int64.toInt (pageSize_eq config pagination).symm
  · rw [← further_page_iff config pagination total product, ← pages, ← Int64.lt_iff_toInt_lt]
    exact decide_eq_true_iff

/-- A resource with a maximum below the default page size. -/
def smallPages : ResourceConfig where
  name := "report"
  fields := ∅
  defaultSort := ⟨"", ""⟩
  tenantColumn := ""
  maxPageSize := 7
  maxBulkTerms := 0

/-- The last index of three full pages is on exactly one of them, and nothing follows the third. -/
theorem smallPages_tile :
    (21 : Int64).toInt + (smallPages.pageSize ⟨0, 3⟩).toInt - 1 < 2 ^ 63 ∧
      (∃! number : Int64,
        (1 ≤ number ∧ number ≤ (newPagedViewModel ⟨0, 3⟩ 21 false 7).totalPages) ∧
          (smallPages.window ⟨0, number⟩).Contains 20) ∧
      ((newPagedViewModel ⟨0, 3⟩ 21 false 7).hasNextPage = true ↔
        ∃ index, index < (21 : Int64).toInt ∧
          (smallPages.window ⟨0, 3⟩).offset + (smallPages.window ⟨0, 3⟩).limit ≤ index) := by
  have sum : (21 : Int64).toInt + (smallPages.pageSize ⟨0, 3⟩).toInt - 1 < 2 ^ 63 := by decide
  have tiled := @pages_tile asciiCase asciiFormatting noTimes smallPages ⟨0, 3⟩ 21 false sum
  exact ⟨sum, tiled.2.1 20 (by decide) (by decide), tiled.2.2.2.2 (by decide)⟩

end SharedGo.Search
