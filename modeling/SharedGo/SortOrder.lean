/-
This file proves when the sort order of a compiled query is well formed. The
fields it sorts by are the requested ones that are configured as sortable, in the
order of the request, and the default sort when there are none. Each is written as
its column and a direction. The column is not looked at: a sortable field whose
predicate comes from a resolver needs none, and without one the query gets a
direction with nothing to sort by. So the order is well formed exactly when every
field it uses has a column.
-/

import SharedGo.Compile

namespace SharedGo.Search

open SharedGo Text

section SortOrder

variable [CaseMapping] (config : ResourceConfig)

/-! ### What is sorted by -/

omit [CaseMapping] in
/-- The requested fields that may be sorted by, with the directions asked for. -/
def ResourceConfig.requestedOrder (sorts : List SortField) : List (FieldConfig × String) :=
  sorts.filterMap fun sort =>
    ((config.fields.lookup sort.field).filter FieldConfig.sortable).map (·, sort.direction)

omit [CaseMapping] in
/-- The default sort, if it names a configured field. -/
def ResourceConfig.defaultOrder : List (FieldConfig × String) :=
  if config.defaultSort.field = "" then []
  else
    (config.fields.lookup config.defaultSort.field).toList.map (·, config.defaultSort.direction)

omit [CaseMapping] in
/-- What the sort order has to consist of. -/
def ResourceConfig.expectedOrder (sorts : List SortField) : List (FieldConfig × String) :=
  if config.requestedOrder sorts = [] then config.defaultOrder else config.requestedOrder sorts

/-- The item is the column of the field, which has one, and the direction. -/
def IsOrderItem (expected : FieldConfig × String) (item : String) : Prop :=
  expected.1.column ≠ "" ∧
    item = expected.1.column ++
      if CaseMapping.equalFold expected.2 "desc" then " DESC" else " ASC"

/-- The text sorts by exactly the expected fields, or is empty if there are none. -/
def IsSortOrder (sorts : List SortField) (text : String) : Prop :=
  ∃ items, List.Forall₂ IsOrderItem (config.expectedOrder sorts) items ∧
    text = if items = [] then "" else "ORDER BY " ++ join ", " items

/-! ### What is written -/

/-- What is written for a field, whether it has a column or not. -/
def orderText (expected : FieldConfig × String) : String :=
  expected.1.column ++ " " ++ sqlDirection expected.2

theorem orderText_eq (expected : FieldConfig × String) :
    orderText expected = expected.1.column ++
      if CaseMapping.equalFold expected.2 "desc" then " DESC" else " ASC" := by
  rw [orderText, sqlDirection, String.append_assoc]
  split_ifs <;> rfl

/-- The sort order is the expected fields written one after the other. -/
theorem buildOrderBy_eq (sorts : List SortField) :
    config.buildOrderBy sorts =
      if config.expectedOrder sorts = [] then ""
      else "ORDER BY " ++ join ", " ((config.expectedOrder sorts).map orderText) := by
  unfold ResourceConfig.buildOrderBy ResourceConfig.expectedOrder ResourceConfig.defaultOrder
  extract_lets parts
  have written : parts = (config.requestedOrder sorts).map orderText := by
    rw [ResourceConfig.requestedOrder, List.map_filterMap]
    refine List.filterMap_congr fun sort _ => ?_
    cases config.fields.lookup sort.field with
    | none => rfl
    | some field => cases sortable : field.sortable <;> simp [sortable, orderText]
  simp only [written, List.map_eq_nil_iff]
  by_cases requested : config.requestedOrder sorts = []
  · simp only [requested, if_true]
    by_cases named : config.defaultSort.field = ""
    · simp [named]
    · cases config.fields.lookup config.defaultSort.field with
      | none => simp [named]
      | some field => simp [named, orderText, join, String.append_assoc]
  · simp [requested]

theorem isOrderItem_iff (expected : FieldConfig × String) (item : String) :
    IsOrderItem expected item ↔ expected.1.column ≠ "" ∧ item = orderText expected := by
  rw [IsOrderItem, orderText_eq]

/-- Items of expected fields are their texts, and the fields have columns. -/
theorem forall_isOrderItem_iff (expected : List (FieldConfig × String)) (items : List String) :
    List.Forall₂ IsOrderItem expected items ↔
      (∀ field ∈ expected, field.1.column ≠ "") ∧ items = expected.map orderText := by
  induction expected generalizing items with
  | nil => simp
  | cons first rest inductionHypothesis =>
    rw [List.forall₂_cons_left_iff, List.forall_mem_cons, List.map_cons]
    constructor
    · rintro ⟨item, others, isItem, areItems, rfl⟩
      obtain ⟨column, rfl⟩ := (isOrderItem_iff first item).mp isItem
      obtain ⟨columns, rfl⟩ := (inductionHypothesis others).mp areItems
      exact ⟨⟨column, columns⟩, rfl⟩
    · rintro ⟨⟨column, columns⟩, rfl⟩
      exact ⟨_, _, (isOrderItem_iff first _).mpr ⟨column, rfl⟩,
        (inductionHypothesis _).mpr ⟨columns, rfl⟩, rfl⟩

/-- The sort order is well formed when all that is sorted by has a column. -/
theorem isSortOrder_iff (sorts : List SortField) :
    IsSortOrder config sorts (config.buildOrderBy sorts) ↔
      ∀ expected ∈ config.expectedOrder sorts, expected.1.column ≠ "" := by
  constructor
  · rintro ⟨items, areItems, _⟩
    exact ((forall_isOrderItem_iff _ items).mp areItems).1
  · intro columns
    refine ⟨_, (forall_isOrderItem_iff _ _).mpr ⟨columns, rfl⟩, ?_⟩
    rw [buildOrderBy_eq]
    simp only [List.map_eq_nil_iff]

/-! ### When it is well formed -/

omit [CaseMapping] in
theorem mem_requestedOrder_iff (sorts : List SortField) (expected : FieldConfig × String) :
    expected ∈ config.requestedOrder sorts ↔
      ∃ sort ∈ sorts, config.fields.lookup sort.field = some expected.1 ∧
        expected.1.sortable = true ∧ sort.direction = expected.2 := by
  obtain ⟨field, direction⟩ := expected
  simp only [ResourceConfig.requestedOrder, List.mem_filterMap, Option.map_eq_some_iff,
    Option.filter_eq_some_iff, Prod.mk.injEq]
  constructor
  · rintro ⟨sort, member, _, ⟨found, sortable⟩, rfl, rfl⟩
    exact ⟨sort, member, found, sortable, rfl⟩
  · rintro ⟨sort, member, found, sortable, rfl⟩
    exact ⟨sort, member, field, ⟨found, sortable⟩, rfl, rfl⟩

omit [CaseMapping] in
theorem mem_defaultOrder_iff (expected : FieldConfig × String) :
    expected ∈ config.defaultOrder ↔
      config.defaultSort.field ≠ "" ∧
        config.fields.lookup config.defaultSort.field = some expected.1 ∧
        config.defaultSort.direction = expected.2 := by
  obtain ⟨field, direction⟩ := expected
  unfold ResourceConfig.defaultOrder
  split_ifs with named
  · simp [named]
  · simp [named]

omit [CaseMapping] in
/-- Only configured fields are sorted by. -/
theorem expectedOrder_configured (sorts : List SortField) (expected : FieldConfig × String)
    (member : expected ∈ config.expectedOrder sorts) :
    ∃ name, config.fields.lookup name = some expected.1 := by
  unfold ResourceConfig.expectedOrder at member
  split_ifs at member
  · exact ⟨_, ((mem_defaultOrder_iff config expected).mp member).2.1⟩
  · obtain ⟨sort, _, found, _⟩ := (mem_requestedOrder_iff config sorts expected).mp member
    exact ⟨sort.field, found⟩

omit [CaseMapping] in
theorem requestedOrder_eq_nil_iff (sorts : List SortField) :
    config.requestedOrder sorts = [] ↔
      ∀ sort ∈ sorts, ∀ field, config.fields.lookup sort.field = some field →
        field.sortable = false := by
  rw [List.eq_nil_iff_forall_not_mem]
  constructor
  · intro none sort member field found
    by_contra sortable
    exact none (field, sort.direction) ((mem_requestedOrder_iff config sorts _).mpr
      ⟨sort, member, found, Bool.not_eq_false _ ▸ sortable, rfl⟩)
  · intro unsortable expected member
    obtain ⟨sort, requested, found, sortable, _⟩ :=
      (mem_requestedOrder_iff config sorts expected).mp member
    rw [unsortable sort requested _ found] at sortable
    cases sortable

omit [CaseMapping] in
theorem requestedOrder_columns_iff (sorts : List SortField) :
    (∀ expected ∈ config.requestedOrder sorts, expected.1.column ≠ "") ↔
      ∀ sort ∈ sorts, ∀ field, config.fields.lookup sort.field = some field →
        field.sortable = true → field.column ≠ "" := by
  simp only [mem_requestedOrder_iff]
  constructor
  · intro columns sort member field found sortable
    exact columns (field, sort.direction) ⟨sort, member, found, sortable, rfl⟩
  · rintro columns expected ⟨sort, member, found, sortable, _⟩
    exact columns sort member expected.1 found sortable

omit [CaseMapping] in
theorem defaultOrder_columns_iff :
    (∀ expected ∈ config.defaultOrder, expected.1.column ≠ "") ↔
      (config.defaultSort.field ≠ "" → ∀ field,
        config.fields.lookup config.defaultSort.field = some field → field.column ≠ "") := by
  simp only [mem_defaultOrder_iff]
  constructor
  · intro columns named field found
    exact columns (field, config.defaultSort.direction) ⟨named, found, rfl⟩
  · rintro columns expected ⟨named, found, _⟩
    exact columns named expected.1 found

/-- The sort order consists of configured fields, and is well formed exactly when every requested
field that may be sorted by has a column and, if there is none, so has the field of the default
sort. -/
theorem buildOrderBy_wellFormed_iff (sorts : List SortField) :
    (∀ expected ∈ config.expectedOrder sorts,
        ∃ name, config.fields.lookup name = some expected.1) ∧
      (IsSortOrder config sorts (config.buildOrderBy sorts) ↔
        (∀ sort ∈ sorts, ∀ field, config.fields.lookup sort.field = some field →
            field.sortable = true → field.column ≠ "") ∧
          ((∀ sort ∈ sorts, ∀ field, config.fields.lookup sort.field = some field →
              field.sortable = false) → config.defaultSort.field ≠ "" →
            ∀ field, config.fields.lookup config.defaultSort.field = some field →
              field.column ≠ "")) := by
  refine ⟨expectedOrder_configured config sorts, ?_⟩
  rw [isSortOrder_iff, ← requestedOrder_eq_nil_iff, ← requestedOrder_columns_iff,
    ← defaultOrder_columns_iff, ResourceConfig.expectedOrder]
  split_ifs with nothing
  · simp [nothing]
  · simp [nothing]

end SortOrder

/-- Documents that can be filtered and sorted by their collaborators, which are in another table. -/
def collaboratorsConfig : ResourceConfig where
  name := "documents"
  fields := AList.insert "collaborator"
    ⟨.string, "", [], true, false, some (.subquery
      ⟨"d.id IN (SELECT document_id FROM collaborators WHERE name = %s)", .string, "collaborator"⟩)⟩
    ∅
  defaultSort := ⟨"", ""⟩
  tenantColumn := ""
  maxPageSize := 0
  maxBulkTerms := 0

/-- A sortable field whose resolver makes a column needless is sorted by nothing. -/
theorem buildOrderBy_without_column :
    @ResourceConfig.buildOrderBy asciiCase collaboratorsConfig [⟨"collaborator", "asc"⟩] =
        "ORDER BY  ASC" ∧
      ¬@IsSortOrder asciiCase collaboratorsConfig [⟨"collaborator", "asc"⟩]
        (@ResourceConfig.buildOrderBy asciiCase collaboratorsConfig
          [⟨"collaborator", "asc"⟩]) := by
  refine ⟨by decide, ?_⟩
  rw [@isSortOrder_iff asciiCase]
  intro columns
  exact columns (_, "asc") List.mem_cons_self rfl

end SharedGo.Search
