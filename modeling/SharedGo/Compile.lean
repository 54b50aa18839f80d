/-
This file models the compilation of a search request to parameterised SQL: the
tenant condition, the search terms and the filters, joined into one condition
whose values are bound one after the other; the sort order; and the page. The
fields of a resource are a Go map, and the order in which `range` visits it is a
parameter.
-/

import SharedGo.Resolver
import SharedGo.Wildcard

namespace SharedGo.Search

open SharedGo Text Fmt NumberedText

/-! ### Configuration -/

/-- The search behaviour of one field. -/
structure FieldConfig where
  fieldType : FieldType
  column : String
  allowedOperators : List String
  sortable : Bool
  searchable : Bool
  resolver : Option FieldResolver

structure SortConfig where
  field : String
  direction : String

/-- The search behaviour of a resource. -/
structure ResourceConfig where
  name : String
  fields : GoMap String FieldConfig
  defaultSort : SortConfig
  tenantColumn : String
  maxPageSize : Int64
  maxBulkTerms : Int64

structure CompiledQuery where
  whereClause : String
  orderBy : String
  limit : String
  args : List Dynamic

/-- The options of a compilation. -/
inductive CompileOption where
  | withTenant (value : String)
  deriving DecidableEq, Repr

structure CompileState where
  tenantValue : String
  hasTenant : Bool
  deriving DecidableEq, Repr

def CompileOption.apply (state : CompileState) : CompileOption → CompileState
  | .withTenant value => { state with tenantValue := value, hasTenant := true }

/-- The last tenant given is the one used. -/
def compileState (options : List CompileOption) : CompileState :=
  options.foldl CompileOption.apply ⟨"", false⟩

def ResourceConfig.effectiveMaxPageSize (config : ResourceConfig) : Int64 :=
  if config.maxPageSize > 0 then config.maxPageSize else defaultMaxPageSize

def ResourceConfig.pageSize (config : ResourceConfig) (pagination : Pagination) : Int64 :=
  pagination.sizeWithMax config.effectiveMaxPageSize

/-! ### Search terms -/

/-- The searchable columns, sorted, from one visit of the fields. -/
def searchColumns (order : List (GoMap.Entry String FieldConfig)) : List String :=
  sortStrings ((order.filter fun entry => entry.2.searchable && entry.2.column ≠ "").map
    fun entry => entry.2.column)

/-- The terms that are used: blank and all-wildcard terms are skipped. -/
def effectiveTerms (terms : List String) : List String :=
  (terms.map trimSpace).filter fun term => !(term = "" || isAllWildcard term)

/-- One term over the columns; they share its placeholder. -/
def termCondition (columns : List String) (placeholder : String) : String :=
  "(" ++ join " OR " (columns.map fun column => column ++ " ILIKE " ++ placeholder) ++ ")"

/-- The conditions of the terms, each bound once. -/
def bindTerms (columns : List String) : List String → Binder (List String)
  | [] => .done []
  | term :: rest => .add (.string (wildcardToLike term)) fun placeholder =>
    (bindTerms columns rest).bind fun conditions =>
      .done (termCondition columns placeholder :: conditions)

def buildSearchTerms (columns : List String) (terms : List String) : Binder String :=
  if columns = [] then .done ""
  else (bindTerms columns (effectiveTerms terms)).bind fun conditions =>
    .done (if conditions = [] then "" else "(" ++ join " OR " conditions ++ ")")

section Compile

variable [CaseMapping]

/-! ### Sort order -/

def sqlDirection (direction : String) : String :=
  if CaseMapping.equalFold direction "desc" then "DESC" else "ASC"

/-- Unknown and unsortable fields are skipped; without any other the default sort is used. -/
def ResourceConfig.buildOrderBy (config : ResourceConfig) (sorts : List SortField) : String :=
  let parts := sorts.filterMap fun sort =>
    match config.fields.lookup sort.field with
    | some field =>
      if field.sortable then some (field.column ++ " " ++ sqlDirection sort.direction) else none
    | none => none
  if parts = [] then
    if config.defaultSort.field = "" then ""
    else
      match config.fields.lookup config.defaultSort.field with
      | some field =>
        "ORDER BY " ++ field.column ++ " " ++ sqlDirection config.defaultSort.direction
      | none => ""
  else "ORDER BY " ++ join ", " parts

/-! ### Filters -/

def ResourceConfig.validateFilter (config : ResourceConfig) (filter : FilterParameter) :
    Except SearchError FieldConfig :=
  match config.fields.lookup filter.field with
  | none => .error (.invalidField filter.field config.name)
  | some field =>
    if field.allowedOperators = [] then .ok field
    else if field.allowedOperators.contains (CaseMapping.toLower filter.operator) then .ok field
    else .error (.unsupportedOperator filter.field filter.operator)

omit [CaseMapping] in
/-- A field without a resolver compares its column. -/
def FieldConfig.effectiveResolver (config : FieldConfig) (field : String) : FieldResolver :=
  config.resolver.getD (.direct ⟨config.column, config.fieldType, field⟩)

variable [Formatting] [TimeParsing]

/-- The conditions of the filters; an empty one is left out. -/
def ResourceConfig.bindFilters (config : ResourceConfig) :
    List FilterParameter → Binder (Except SearchError (List String))
  | [] => .done (.ok [])
  | filter :: rest =>
    match config.validateFilter filter with
    | .error error => .done (.error error)
    | .ok field =>
      ((field.effectiveResolver filter.field).resolve (CaseMapping.toLower filter.operator)
        filter.value).bind fun
      | .error error => .done (.error error)
      | .ok fragment => (config.bindFilters rest).bind fun
        | .error error => .done (.error error)
        | .ok conditions =>
          .done (.ok (if fragment ≠ "" then fragment :: conditions else conditions))

/-- Filters that compile: the first one is allowed, its resolver returns a fragment, and the others
go on from there. -/
theorem bindFilters_cons_ok (config : ResourceConfig) (filter : FilterParameter)
    (others : List FilterParameter) (args rest : List Dynamic) (conditions : List String)
    (run : (config.bindFilters (filter :: others)).run args = (.ok conditions, rest)) :
    ∃ field fragment middle otherConditions, config.validateFilter filter = .ok field ∧
      ((field.effectiveResolver filter.field).resolve (CaseMapping.toLower filter.operator)
        filter.value).run args = (.ok fragment, middle) ∧
      (config.bindFilters others).run middle = (.ok otherConditions, rest) ∧
      conditions = if fragment ≠ "" then fragment :: otherConditions else otherConditions := by
  rw [ResourceConfig.bindFilters] at run
  cases valid : config.validateFilter filter with
  | error invalid =>
    rw [valid] at run
    cases run
  | ok field =>
    simp only [valid] at run
    obtain ⟨fragment, middle, resolved, run⟩ :=
      Binder.run_bind_ok _ _ args rest conditions run fun _ => rfl
    obtain ⟨otherConditions, last, resolvedOthers, run⟩ :=
      Binder.run_bind_ok _ _ middle rest conditions run fun _ => rfl
    simp only [Binder.run_done, Prod.mk.injEq, Except.ok.injEq] at run
    obtain ⟨rfl, rfl⟩ := run
    exact ⟨field, fragment, middle, otherConditions, rfl, resolved, resolvedOthers, rfl⟩

/-! ### The query -/

omit [CaseMapping] [Formatting] [TimeParsing] in
/-- The tenant condition, when the resource has tenants and one is given. -/
def ResourceConfig.bindTenant (config : ResourceConfig) (state : CompileState) :
    Binder (List String) :=
  if config.tenantColumn ≠ "" ∧ state.hasTenant then
    .add (.string state.tenantValue) fun placeholder =>
      .done [config.tenantColumn ++ " = " ++ placeholder]
  else .done []

/-- The conditions of a request, in order. -/
def ResourceConfig.bindConditions (config : ResourceConfig)
    (order : List (GoMap.Entry String FieldConfig)) (request : RequestBody)
    (state : CompileState) : Binder (Except SearchError (List String)) :=
  (config.bindTenant state).bind fun tenant =>
    (buildSearchTerms (searchColumns order) request.searchTerms).bind fun term =>
      (config.bindFilters request.filters).bind fun
      | .error error => .done (.error error)
      | .ok filters => .done (.ok (tenant ++ (if term ≠ "" then [term] else []) ++ filters))

omit [CaseMapping] [Formatting] [TimeParsing] in
def ResourceConfig.buildLimit (config : ResourceConfig) (pagination : Pagination) : String :=
  "LIMIT " ++ formatInt (config.pageSize pagination) ++ " OFFSET " ++
    formatInt (pagination.offsetWithMax config.effectiveMaxPageSize)

/-- Compiles a request, with the fields visited in an order. -/
def ResourceConfig.compile (config : ResourceConfig)
    (order : List (GoMap.Entry String FieldConfig)) (request : RequestBody)
    (options : List CompileOption) : Except SearchError CompiledQuery :=
  match (config.bindConditions order request (compileState options)).run [] with
  | (.error error, _) => .error error
  | (.ok conditions, args) =>
    .ok ⟨join " AND " conditions, config.buildOrderBy request.sortFields,
      config.buildLimit request.pagination, args⟩

end Compile

/-- A computed outcome that passes a check. -/
theorem exists_of_any {Error Value : Type} (outcome : Except Error Value) (check : Value → Bool)
    (passes : outcome.toOption.any check = true) :
    ∃ value, outcome = .ok value ∧ check value = true := by
  cases outcome with
  | error error => cases passes
  | ok value => exact ⟨value, rfl, passes⟩

end SharedGo.Search
