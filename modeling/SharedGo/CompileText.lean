/-
This file proves that request values never reach the SQL text. The outcome of the
package's resolvers is given in closed form: a filter binds the coerced values of
its parameter, and its condition is a text that depends on the operator, on the
number of values and on the position of the first. The text of a whole query is
then a function of the shape of the request, and two requests of the same shape
compile to the same text, whichever order the fields were visited in.
-/

import SharedGo.Compile

namespace SharedGo.Search

open SharedGo Text Fmt NumberedText

/-! ### What a resolver binds and writes -/

/-- The operators that take a list of values. -/
def isListOperator (operator : String) : Bool :=
  operator = "in" || operator = "not_in" || operator = "between"

section Resolvers

variable [Formatting] [TimeParsing]

/-- The values a direct resolver binds. -/
def DirectColumnResolver.bound (resolver : DirectColumnResolver) (operator : String)
    (value : Dynamic) : Except SearchError (List Dynamic) :=
  match comparisonSQL operator with
  | some _ => coerceAll resolver.field resolver.fieldType [value]
  | none =>
    if operator = "in" ∨ operator = "not_in" then
      match coerceList resolver.field resolver.fieldType value with
      | .ok [] => .error (.invalidValueType resolver.field "non-empty array" "empty array")
      | result => result
    else if operator = "between" then
      match coerceList resolver.field resolver.fieldType value with
      | .error error => .error error
      | .ok values =>
        if values.length = 2 then .ok values
        else .error (.invalidValueType resolver.field "two-element array"
          (toString values.length ++ "-element array"))
    else if operator = "is_null" ∨ operator = "is_not_null" then .ok []
    else .error (.unsupportedOperator resolver.field operator)

omit [Formatting] [TimeParsing] in
/-- The condition a direct resolver writes for `count` values after `start` others. -/
def DirectColumnResolver.fragmentText (resolver : DirectColumnResolver) (operator : String)
    (start count : Nat) : String :=
  let cast := resolver.fieldType.cast
  let values := (placeholders start count).map (· ++ cast)
  match comparisonSQL operator with
  | some symbol => resolver.column ++ " " ++ symbol ++ " " ++ join "" values
  | none =>
    if operator = "in" ∨ operator = "not_in" then
      resolver.column ++ " " ++ (if operator = "not_in" then "NOT IN" else "IN") ++ " (" ++
        join ", " values ++ ")"
    else if operator = "between" then resolver.column ++ " BETWEEN " ++ join " AND " values
    else if operator = "is_null" then resolver.column ++ " IS NULL"
    else resolver.column ++ " IS NOT NULL"

theorem direct_run (resolver : DirectColumnResolver) (operator : String) (value : Dynamic)
    (args : List Dynamic) :
    (resolver.resolve operator value).run args =
      match resolver.bound operator value with
      | .error error => (.error error, args)
      | .ok values =>
        (.ok (resolver.fragmentText operator args.length values.length), args ++ values) := by
  unfold DirectColumnResolver.resolve DirectColumnResolver.bound DirectColumnResolver.fragmentText
  cases comparison : comparisonSQL operator with
  | some symbol =>
    cases coerced : coerceScalar resolver.field resolver.fieldType value with
    | error error => simp [coerceAll, coerced]
    | ok value => simp [coerceAll, coerced, placeholders, join]
  | none =>
    by_cases list : operator = "in" ∨ operator = "not_in"
    · cases coerced : coerceList resolver.field resolver.fieldType value with
      | error error => simp [list]
      | ok values => cases values <;> simp [list]
    by_cases between : operator = "between"
    · subst between
      cases coerced : coerceList resolver.field resolver.fieldType value with
      | error error => simp
      | ok values =>
        rcases values with _ | ⟨low, _ | ⟨high, _ | ⟨more, rest⟩⟩⟩
        · simp
        · simp
        · simp [placeholders, join, List.range'_succ, String.append_assoc]
        · simp
    by_cases isNull : operator = "is_null"
    · simp [isNull]
    by_cases isNotNull : operator = "is_not_null"
    · simp [isNotNull]
    · simp [list, between, isNull, isNotNull]

/-- The values a subquery resolver binds. -/
def SubqueryResolver.bound (resolver : SubqueryResolver) (operator : String) (value : Dynamic) :
    Except SearchError (List Dynamic) :=
  if count resolver.template "%s" ≠ 1 then .error (.badTemplate resolver.field)
  else if operator = "eq" then coerceAll resolver.field resolver.fieldType [value]
  else .error (.unsupportedOperator resolver.field operator)

omit [TimeParsing] in
/-- The condition a subquery resolver writes for a value after `start` others. -/
def SubqueryResolver.fragmentText (resolver : SubqueryResolver) (start : Nat) : String :=
  sprintf resolver.template (placeholder (start + 1) ++ resolver.fieldType.cast)

theorem subquery_run (resolver : SubqueryResolver) (operator : String) (value : Dynamic)
    (args : List Dynamic) :
    (resolver.resolve operator value).run args =
      match resolver.bound operator value with
      | .error error => (.error error, args)
      | .ok values => (.ok (resolver.fragmentText args.length), args ++ values) := by
  unfold SubqueryResolver.resolve SubqueryResolver.bound SubqueryResolver.fragmentText
  by_cases places : count resolver.template "%s" ≠ 1
  · simp [places]
  by_cases equality : operator = "eq"
  · cases coerced : coerceScalar resolver.field resolver.fieldType value with
    | error error => simp [places, equality, coerceAll, coerced]
    | ok value => simp [places, equality, coerceAll, coerced]
  · simp [places, equality]

/-- The resolvers of the package. -/
inductive StaticResolver where
  | direct (resolver : DirectColumnResolver)
  | subquery (resolver : SubqueryResolver)

omit [Formatting] [TimeParsing] in
def StaticResolver.toResolver : StaticResolver → FieldResolver
  | .direct resolver => .direct resolver
  | .subquery resolver => .subquery resolver

def StaticResolver.bound (operator : String) (value : Dynamic) :
    StaticResolver → Except SearchError (List Dynamic)
  | .direct resolver => resolver.bound operator value
  | .subquery resolver => resolver.bound operator value

omit [TimeParsing] in
def StaticResolver.fragmentText (operator : String) (start count : Nat) :
    StaticResolver → String
  | .direct resolver => resolver.fragmentText operator start count
  | .subquery resolver => resolver.fragmentText start

/-- A resolver of the package binds the coerced values and writes a text of their number. -/
theorem static_run (resolver : StaticResolver) (operator : String) (value : Dynamic)
    (args : List Dynamic) :
    (resolver.toResolver.resolve operator value).run args =
      match resolver.bound operator value with
      | .error error => (.error error, args)
      | .ok values =>
        (.ok (resolver.fragmentText operator args.length values.length), args ++ values) := by
  cases resolver with
  | direct resolver => exact direct_run resolver operator value args
  | subquery resolver => exact subquery_run resolver operator value args

end Resolvers

/-! ### Filters -/

/-- A field whose resolver is one of the package's. -/
def FieldConfig.static (config : FieldConfig) (field : String) : Option StaticResolver :=
  match config.resolver with
  | none => some (.direct ⟨config.column, config.fieldType, field⟩)
  | some (.direct resolver) => some (.direct resolver)
  | some (.subquery resolver) => some (.subquery resolver)
  | some (.func _) => none

theorem static_toResolver (config : FieldConfig) (field : String) (resolver : StaticResolver)
    (static : config.static field = some resolver) :
    config.effectiveResolver field = resolver.toResolver := by
  unfold FieldConfig.static at static
  unfold FieldConfig.effectiveResolver
  split at static
  · rename_i none
    rw [none, ← Option.some_inj.mp static]
    rfl
  · rename_i some
    rw [some, ← Option.some_inj.mp static]
    rfl
  · rename_i some
    rw [some, ← Option.some_inj.mp static]
    rfl
  · cases static

/-- Every field's resolver is one of the package's. -/
def ResourceConfig.Static (config : ResourceConfig) : Prop :=
  ∀ field fieldConfig, config.fields.lookup field = some fieldConfig →
    (fieldConfig.static field).isSome

theorem static_of_entries (config : ResourceConfig)
    (entries : ∀ entry ∈ config.fields.entries, (entry.2.static entry.1).isSome) :
    config.Static := by
  intro field fieldConfig found
  exact entries ⟨field, fieldConfig⟩ (AList.mem_lookup_iff.mp found)

/-- A filter with what it binds. -/
structure BoundFilter where
  resolver : StaticResolver
  operator : String
  values : List Dynamic

section Filters

variable [CaseMapping] [Formatting] [TimeParsing]

/-- What a filter binds; it is nothing when the filter does not compile. -/
def ResourceConfig.bindFilter (config : ResourceConfig) (filter : FilterParameter) :
    Option BoundFilter :=
  match config.validateFilter filter with
  | .error _ => none
  | .ok field =>
    match field.static filter.field with
    | none => none
    | some resolver =>
      match resolver.bound (CaseMapping.toLower filter.operator) filter.value with
      | .error _ => none
      | .ok values => some ⟨resolver, CaseMapping.toLower filter.operator, values⟩

omit [CaseMapping] [TimeParsing] in
def BoundFilter.text (filter : BoundFilter) (start : Nat) : String :=
  filter.resolver.fragmentText filter.operator start filter.values.length

omit [CaseMapping] [TimeParsing] in
/-- The texts of filters after `start` values; an empty one is left out. -/
def filterTexts : Nat → List BoundFilter → List String
  | _, [] => []
  | start, filter :: rest =>
    (if filter.text start ≠ "" then [filter.text start] else []) ++
      filterTexts (start + filter.values.length) rest

omit [Formatting] [TimeParsing] in
theorem lookup_of_validateFilter (config : ResourceConfig) (filter : FilterParameter)
    (field : FieldConfig) (valid : config.validateFilter filter = .ok field) :
    config.fields.lookup filter.field = some field := by
  unfold ResourceConfig.validateFilter at valid
  split at valid
  · cases valid
  · rename_i found configured
    split_ifs at valid
    · rw [configured, Except.ok.inj valid]
    · rw [configured, Except.ok.inj valid]

/-- A filter that compiles binds its values and writes their text. -/
theorem bindFilter_run (config : ResourceConfig) (static : config.Static)
    (filter : FilterParameter) (field : FieldConfig)
    (valid : config.validateFilter filter = .ok field) (args : List Dynamic) (fragment : String)
    (rest : List Dynamic)
    (run : ((field.effectiveResolver filter.field).resolve (CaseMapping.toLower filter.operator)
      filter.value).run args = (.ok fragment, rest)) :
    ∃ bound, config.bindFilter filter = some bound ∧ fragment = bound.text args.length ∧
      rest = args ++ bound.values := by
  obtain ⟨resolver, isStatic⟩ := Option.isSome_iff_exists.mp
    (static filter.field field (lookup_of_validateFilter config filter field valid))
  rw [static_toResolver field filter.field resolver isStatic, static_run] at run
  cases coerced : resolver.bound (CaseMapping.toLower filter.operator) filter.value with
  | error error =>
    rw [coerced] at run
    cases run
  | ok values =>
    rw [coerced] at run
    simp only [Prod.mk.injEq, Except.ok.injEq] at run
    refine ⟨⟨resolver, CaseMapping.toLower filter.operator, values⟩, ?_, run.1.symm, run.2.symm⟩
    simp [ResourceConfig.bindFilter, valid, isStatic, coerced]

/-- Filters that compile bind their values and write their texts one after the other. -/
theorem bindFilters_run (config : ResourceConfig) (static : config.Static)
    (filters : List FilterParameter) (args : List Dynamic) (conditions : List String)
    (rest : List Dynamic)
    (run : (config.bindFilters filters).run args = (.ok conditions, rest)) :
    ∃ bound, List.Forall₂ (fun filter bound => config.bindFilter filter = some bound)
        filters bound ∧
      conditions = filterTexts args.length bound ∧
      rest = args ++ bound.flatMap BoundFilter.values := by
  induction filters generalizing args conditions rest with
  | nil =>
    simp only [ResourceConfig.bindFilters, Binder.run_done, Prod.mk.injEq, Except.ok.injEq] at run
    refine ⟨[], .nil, run.1.symm, ?_⟩
    simp [run.2]
  | cons filter others inductionHypothesis =>
    obtain ⟨field, fragment, middle, otherConditions, valid, resolved, resolvedOthers, rfl⟩ :=
      bindFilters_cons_ok config filter others args rest conditions run
    obtain ⟨first, boundFirst, rfl, rfl⟩ :=
      bindFilter_run config static filter field valid args fragment middle resolved
    obtain ⟨bound, boundOthers, rfl, rfl⟩ :=
      inductionHypothesis _ otherConditions rest resolvedOthers
    refine ⟨first :: bound, .cons boundFirst boundOthers, ?_, ?_⟩
    · rw [filterTexts, List.length_append]
      split_ifs <;> simp
    · rw [List.flatMap_cons, List.append_assoc]

end Filters

/-! ### The tenant and the terms -/

/-- The values of the terms: their patterns. -/
def termValues (columns terms : List String) : List Dynamic :=
  if columns = [] then [] else (effectiveTerms terms).map fun term => .string (wildcardToLike term)

/-- The condition of `count` terms after `start` values. -/
def termsText (columns : List String) (start count : Nat) : String :=
  if columns = [] ∨ count = 0 then ""
  else "(" ++ join " OR " ((placeholders start count).map (termCondition columns)) ++ ")"

theorem bindTerms_run (columns terms : List String) (args : List Dynamic) :
    (bindTerms columns terms).run args =
      ((placeholders args.length terms.length).map (termCondition columns),
        args ++ terms.map fun term => .string (wildcardToLike term)) := by
  induction terms generalizing args with
  | nil => simp [bindTerms, placeholders]
  | cons term rest inductionHypothesis =>
    simp [bindTerms, inductionHypothesis, placeholders, List.range'_succ]

theorem buildSearchTerms_run (columns terms : List String) (args : List Dynamic) :
    (buildSearchTerms columns terms).run args =
      (termsText columns args.length (effectiveTerms terms).length,
        args ++ termValues columns terms) := by
  unfold buildSearchTerms termsText termValues
  by_cases none : columns = []
  · simp [none]
  · cases used : effectiveTerms terms with
    | nil => simp [none, bindTerms]
    | cons term rest => simp [none, bindTerms_run, placeholders, List.range'_succ]

/-- The tenant condition is there. -/
def ResourceConfig.tenanted (config : ResourceConfig) (state : CompileState) : Bool :=
  config.tenantColumn ≠ "" && state.hasTenant

def ResourceConfig.tenantValues (config : ResourceConfig) (state : CompileState) :
    List Dynamic :=
  if config.tenanted state then [.string state.tenantValue] else []

def ResourceConfig.tenantTexts (config : ResourceConfig) (tenanted : Bool) : List String :=
  if tenanted then [config.tenantColumn ++ " = " ++ placeholder 1] else []

theorem bindTenant_run (config : ResourceConfig) (state : CompileState) :
    (config.bindTenant state).run [] =
      (config.tenantTexts (config.tenanted state), config.tenantValues state) := by
  unfold ResourceConfig.bindTenant ResourceConfig.tenantTexts ResourceConfig.tenantValues
    ResourceConfig.tenanted
  by_cases tenanted : config.tenantColumn ≠ "" ∧ state.hasTenant
  · simp [tenanted]
  · rw [if_neg tenanted]
    simp only [ne_eq, not_and, Bool.not_eq_true] at tenanted
    by_cases column : config.tenantColumn = ""
    · simp [column]
    · simp [tenanted column]

/-! ### The whole condition -/

section Text

variable [Formatting]

/-- The conditions of a query: the tenant's, the terms' and the filters', each numbered after
those before it. -/
def ResourceConfig.conditionTexts (config : ResourceConfig) (columns : List String)
    (tenanted : Bool) (terms : Nat) (bound : List BoundFilter) : List String :=
  let tenants := if tenanted then 1 else 0
  let termCount := if columns = [] then 0 else terms
  let term := termsText columns tenants terms
  config.tenantTexts tenanted ++ (if term ≠ "" then [term] else []) ++
    filterTexts (tenants + termCount) bound

end Text

section Spec

variable [CaseMapping] [Formatting] [TimeParsing]

/-- What a successful compilation is, for resolvers of the package. -/
structure Compiled (config : ResourceConfig) (order : List (GoMap.Entry String FieldConfig))
    (request : RequestBody) (options : List CompileOption) (bound : List BoundFilter)
    (query : CompiledQuery) : Prop where
  filters : List.Forall₂ (fun filter bound => config.bindFilter filter = some bound)
    request.filters bound
  whereClause : query.whereClause = join " AND " (config.conditionTexts (searchColumns order)
    (config.tenanted (compileState options)) (effectiveTerms request.searchTerms).length bound)
  orderBy : query.orderBy = config.buildOrderBy request.sortFields
  limit : query.limit = config.buildLimit request.pagination
  args : query.args = config.tenantValues (compileState options) ++
    termValues (searchColumns order) request.searchTerms ++ bound.flatMap BoundFilter.values

omit [CaseMapping] [Formatting] [TimeParsing] in
theorem length_tenantValues (config : ResourceConfig) (state : CompileState) :
    (config.tenantValues state).length = if config.tenanted state then 1 else 0 := by
  unfold ResourceConfig.tenantValues
  split_ifs <;> rfl

omit [CaseMapping] [Formatting] [TimeParsing] in
theorem length_termValues (columns terms : List String) :
    (termValues columns terms).length =
      if columns = [] then 0 else (effectiveTerms terms).length := by
  unfold termValues
  split_ifs <;> simp

/-- A successful compilation ran the filters after the tenant and the terms. -/
theorem compile_run (config : ResourceConfig) (order : List (GoMap.Entry String FieldConfig))
    (request : RequestBody) (options : List CompileOption) (query : CompiledQuery)
    (ok : config.compile order request options = .ok query) :
    let state := compileState options
    let columns := searchColumns order
    let term := termsText columns (config.tenantValues state).length
      (effectiveTerms request.searchTerms).length
    ∃ filters, (config.bindFilters request.filters).run
        (config.tenantValues state ++ termValues columns request.searchTerms) =
          (.ok filters, query.args) ∧
      query.whereClause = join " AND " (config.tenantTexts (config.tenanted state) ++
        (if term ≠ "" then [term] else []) ++ filters) ∧
      query.orderBy = config.buildOrderBy request.sortFields ∧
      query.limit = config.buildLimit request.pagination := by
  intro state columns term
  unfold ResourceConfig.compile at ok
  generalize ran : (config.bindConditions order request state).run [] = outcome at ok
  obtain ⟨result, args⟩ := outcome
  cases result with
  | error error => cases ok
  | ok conditions =>
    obtain rfl := Except.ok.inj ok
    rw [ResourceConfig.bindConditions, Binder.run_bind, bindTenant_run, Binder.run_bind,
      buildSearchTerms_run] at ran
    obtain ⟨filters, last, resolved, ran⟩ :=
      Binder.run_bind_ok _ _ _ args conditions ran fun _ => rfl
    simp only [Binder.run_done, Prod.mk.injEq, Except.ok.injEq] at ran
    obtain ⟨rfl, rfl⟩ := ran
    exact ⟨filters, resolved, rfl, rfl, rfl⟩

theorem compile_spec (config : ResourceConfig) (static : config.Static)
    (order : List (GoMap.Entry String FieldConfig)) (request : RequestBody)
    (options : List CompileOption) (query : CompiledQuery)
    (ok : config.compile order request options = .ok query) :
    ∃ bound, Compiled config order request options bound query := by
  obtain ⟨filters, resolved, text, orderBy, limit⟩ :=
    compile_run config order request options query ok
  obtain ⟨bound, boundFilters, rfl, args⟩ :=
    bindFilters_run config static request.filters _ filters query.args resolved
  refine ⟨bound, boundFilters, ?_, orderBy, limit, args⟩
  rw [text]
  simp only [ResourceConfig.conditionTexts, List.length_append, length_tenantValues,
    length_termValues]

end Spec

/-! ### Shapes -/

/-- What the text of a filter depends on. -/
def BoundFilter.shape (filter : BoundFilter) : StaticResolver × String × Nat :=
  (filter.resolver, filter.operator, filter.values.length)

theorem filterTexts_congr [Formatting] (start : Nat) (first second : List BoundFilter)
    (same : first.map BoundFilter.shape = second.map BoundFilter.shape) :
    filterTexts start first = filterTexts start second := by
  induction first generalizing start second with
  | nil =>
    rw [List.map_nil, eq_comm, List.map_eq_nil_iff] at same
    rw [same]
  | cons filter rest inductionHypothesis =>
    obtain ⟨other, others, rfl, sameFilter, sameRest⟩ := List.map_eq_cons_iff.mp same.symm
    obtain ⟨resolver, operator, values⟩ := filter
    obtain ⟨otherResolver, otherOperator, otherValues⟩ := other
    simp only [BoundFilter.shape, Prod.mk.injEq] at sameFilter
    obtain ⟨rfl, rfl, length⟩ := sameFilter
    have texts := inductionHypothesis (start + values.length) others sameRest.symm
    simp only [filterTexts, BoundFilter.text, length, texts]
    rfl

section Shapes

variable [CaseMapping] [Formatting] [TimeParsing]

omit [CaseMapping] in
/-- The number of coerced list elements of a filter with a list operator. -/
def StaticResolver.elementCount (operator : String) (value : Dynamic) : StaticResolver → Nat
  | .direct resolver =>
    if isListOperator operator then
      match coerceList resolver.field resolver.fieldType value with
      | .ok values => values.length
      | .error _ => 0
    else 0
  | .subquery _ => 0

/-- The field, the operator and the number of elements of a filter. -/
def ResourceConfig.filterShape (config : ResourceConfig) (filter : FilterParameter) :
    String × String × Nat :=
  let operator := CaseMapping.toLower filter.operator
  (filter.field, operator,
    match (config.fields.lookup filter.field).bind (·.static filter.field) with
    | some resolver => resolver.elementCount operator filter.value
    | none => 0)

omit [CaseMapping] in
theorem length_coerceAll_singleton (field : String) (fieldType : FieldType) (value : Dynamic)
    (values : List Dynamic) (ok : coerceAll field fieldType [value] = .ok values) :
    values.length = 1 := by
  simp only [coerceAll] at ok
  split at ok
  · cases ok
  · obtain rfl := Except.ok.inj ok
    rfl

omit [CaseMapping] in
/-- The number of values a direct resolver binds is one for a comparison, and otherwise the
number of elements. -/
theorem length_direct_bound (resolver : DirectColumnResolver) (operator : String)
    (value : Dynamic) (values : List Dynamic)
    (ok : resolver.bound operator value = .ok values) :
    values.length = if (comparisonSQL operator).isSome then 1
      else (StaticResolver.direct resolver).elementCount operator value := by
  unfold DirectColumnResolver.bound at ok
  unfold StaticResolver.elementCount isListOperator
  cases comparison : comparisonSQL operator with
  | some symbol =>
    rw [comparison] at ok
    exact length_coerceAll_singleton _ _ _ _ ok
  | none =>
    simp only [comparison] at ok
    split_ifs at ok with list between isNull
    · split at ok
      · cases ok
      · rcases list with rfl | rfl <;> simp [ok]
    · subst between
      split at ok
      · cases ok
      · rename_i coerced found
        split_ifs at ok
        obtain rfl := Except.ok.inj ok
        simp [found]
    · obtain rfl := Except.ok.inj ok
      rcases isNull with rfl | rfl <;> simp

omit [CaseMapping] in
theorem length_subquery_bound (resolver : SubqueryResolver) (operator : String) (value : Dynamic)
    (values : List Dynamic) (bound : resolver.bound operator value = .ok values) :
    values.length = 1 := by
  unfold SubqueryResolver.bound at bound
  split_ifs at bound
  exact length_coerceAll_singleton _ _ _ _ bound

omit [CaseMapping] in
/-- The number of bound values depends on the operator and the number of elements only. -/
theorem length_bound (resolver : StaticResolver) (operator : String)
    (firstValue secondValue : Dynamic) (first second : List Dynamic)
    (boundFirst : resolver.bound operator firstValue = .ok first)
    (boundSecond : resolver.bound operator secondValue = .ok second)
    (same : resolver.elementCount operator firstValue =
      resolver.elementCount operator secondValue) : first.length = second.length := by
  cases resolver with
  | direct resolver =>
    rw [length_direct_bound resolver operator firstValue first boundFirst,
      length_direct_bound resolver operator secondValue second boundSecond, same]
  | subquery resolver =>
    rw [length_subquery_bound resolver operator firstValue first boundFirst,
      length_subquery_bound resolver operator secondValue second boundSecond]

theorem bindFilter_cases (config : ResourceConfig) (filter : FilterParameter)
    (bound : BoundFilter) (binds : config.bindFilter filter = some bound) :
    ∃ field, config.fields.lookup filter.field = some field ∧
      field.static filter.field = some bound.resolver ∧
      bound.operator = CaseMapping.toLower filter.operator ∧
      bound.resolver.bound bound.operator filter.value = .ok bound.values := by
  unfold ResourceConfig.bindFilter at binds
  split at binds
  · cases binds
  · rename_i field valid
    split at binds
    · cases binds
    · rename_i resolver static
      split at binds
      · cases binds
      · rename_i values coerced
        obtain rfl := Option.some_inj.mp binds
        exact ⟨field, lookup_of_validateFilter config filter field valid, static, rfl, coerced⟩

/-- Filters of the same shape write the same text. -/
theorem bindFilter_shape (config : ResourceConfig) (firstFilter secondFilter : FilterParameter)
    (first second : BoundFilter) (bindsFirst : config.bindFilter firstFilter = some first)
    (bindsSecond : config.bindFilter secondFilter = some second)
    (same : config.filterShape firstFilter = config.filterShape secondFilter) :
    first.shape = second.shape := by
  obtain ⟨firstField, foundFirst, staticFirst, operatorFirst, boundFirst⟩ :=
    bindFilter_cases config firstFilter first bindsFirst
  obtain ⟨secondField, foundSecond, staticSecond, operatorSecond, boundSecond⟩ :=
    bindFilter_cases config secondFilter second bindsSecond
  simp only [ResourceConfig.filterShape, Prod.mk.injEq] at same
  obtain ⟨field, operator, count⟩ := same
  rw [← operatorFirst, ← operatorSecond] at operator
  have fieldSame : firstField = secondField := by
    rw [field, foundSecond] at foundFirst
    exact (Option.some_inj.mp foundFirst).symm
  have resolverSame : first.resolver = second.resolver := by
    rw [fieldSame, field, staticSecond] at staticFirst
    exact (Option.some_inj.mp staticFirst).symm
  simp only [foundFirst, foundSecond, Option.bind_some, staticFirst, staticSecond,
    ← operatorFirst, ← operatorSecond] at count
  rw [← resolverSame, ← operator] at count boundSecond
  have length := length_bound first.resolver first.operator _ _ _ _ boundFirst boundSecond count
  rw [BoundFilter.shape, BoundFilter.shape, resolverSame, operator, length]

theorem bindFilters_shape (config : ResourceConfig)
    (firstFilters secondFilters : List FilterParameter) (first second : List BoundFilter)
    (bindsFirst : List.Forall₂ (fun filter bound => config.bindFilter filter = some bound)
      firstFilters first)
    (bindsSecond : List.Forall₂ (fun filter bound => config.bindFilter filter = some bound)
      secondFilters second)
    (same : firstFilters.map config.filterShape = secondFilters.map config.filterShape) :
    first.map BoundFilter.shape = second.map BoundFilter.shape := by
  induction bindsFirst generalizing secondFilters second with
  | nil =>
    rw [List.map_nil, eq_comm, List.map_eq_nil_iff] at same
    subst same
    cases bindsSecond
    rfl
  | cons bindsHead bindsTail inductionHypothesis =>
    obtain ⟨other, others, rfl, sameHead, sameTail⟩ := List.map_eq_cons_iff.mp same.symm
    cases bindsSecond with
    | cons otherHead otherTail =>
      rw [List.map_cons, List.map_cons,
        bindFilter_shape config _ _ _ _ bindsHead otherHead sameHead.symm,
        inductionHypothesis others _ otherTail sameTail.symm]

omit [CaseMapping] [Formatting] [TimeParsing] in
/-- The searchable columns do not depend on the order the fields are visited in. -/
theorem searchColumns_eq (config : ResourceConfig)
    (first second : List (GoMap.Entry String FieldConfig))
    (visitsFirst : config.fields.Visits first) (visitsSecond : config.fields.Visits second) :
    searchColumns first = searchColumns second := by
  have perm : first.Perm second := visitsFirst.trans visitsSecond.symm
  exact sortStrings_eq_of_perm ((perm.filter _).map _)

/-- Request values never reach the text: two requests of the same shape compile to queries that
differ in their arguments only, whichever order the fields are visited in. -/
theorem compile_text_eq (config : ResourceConfig) (static : config.Static)
    (firstOrder secondOrder : List (GoMap.Entry String FieldConfig))
    (visitsFirst : config.fields.Visits firstOrder)
    (visitsSecond : config.fields.Visits secondOrder) (first second : RequestBody)
    (firstOptions secondOptions : List CompileOption) (firstQuery secondQuery : CompiledQuery)
    (compiledFirst : config.compile firstOrder first firstOptions = .ok firstQuery)
    (compiledSecond : config.compile secondOrder second secondOptions = .ok secondQuery)
    (sameFilters : first.filters.map config.filterShape = second.filters.map config.filterShape)
    (sameTerms : (effectiveTerms first.searchTerms).length =
      (effectiveTerms second.searchTerms).length)
    (sameSorts : first.sortFields = second.sortFields)
    (samePage : first.pagination = second.pagination)
    (sameTenant : (compileState firstOptions).hasTenant =
      (compileState secondOptions).hasTenant) :
    firstQuery.whereClause = secondQuery.whereClause ∧
      firstQuery.orderBy = secondQuery.orderBy ∧ firstQuery.limit = secondQuery.limit := by
  obtain ⟨firstBound, specFirst⟩ :=
    compile_spec config static firstOrder first firstOptions firstQuery compiledFirst
  obtain ⟨secondBound, specSecond⟩ :=
    compile_spec config static secondOrder second secondOptions secondQuery compiledSecond
  have columns := searchColumns_eq config firstOrder secondOrder visitsFirst visitsSecond
  have shapes := bindFilters_shape config first.filters second.filters firstBound secondBound
    specFirst.filters specSecond.filters sameFilters
  refine ⟨?_, ?_, ?_⟩
  · have tenanted : config.tenanted (compileState firstOptions) =
        config.tenanted (compileState secondOptions) := by
      rw [ResourceConfig.tenanted, ResourceConfig.tenanted, sameTenant]
    rw [specFirst.whereClause, specSecond.whereClause, columns, ResourceConfig.conditionTexts,
      ResourceConfig.conditionTexts, tenanted, sameTerms,
      filterTexts_congr _ firstBound secondBound shapes]
  · rw [specFirst.orderBy, specSecond.orderBy, sameSorts]
  · rw [specFirst.limit, specSecond.limit, samePage]

end Shapes

/-- A registry with tenants, two searchable columns, a number and a subquery. -/
def registryFields : List (GoMap.Entry String FieldConfig) :=
  [⟨"name", .string, "r.name", [], true, true, none⟩,
    ⟨"label", .string, "r.label", [], false, true, none⟩,
    ⟨"rank", .int, "r.rank", ["eq", "in"], false, false, none⟩,
    ⟨"owner", .uuid, "", ["eq"], false, false,
      some (.subquery ⟨"r.id IN (SELECT id FROM owners WHERE owner = %s)", .uuid, "owner"⟩)⟩]

def registryConfig : ResourceConfig where
  name := "registry"
  fields := ⟨registryFields, show (registryFields.map Sigma.fst).Nodup by decide⟩
  defaultSort := ⟨"name", "asc"⟩
  tenantColumn := "r.tenant_id"
  maxPageSize := 50
  maxBulkTerms := 5

def registryRequest (term rank owner : String) : RequestBody where
  searchTerms := [term]
  filters := [⟨"rank", "in", .string rank⟩, ⟨"owner", "EQ", .string owner⟩]
  sortFields := [⟨"name", "desc"⟩]
  pagination := ⟨20, 2⟩

/-- The text that two requests to the registry share. -/
theorem registry_text_eq :
    let compile := @ResourceConfig.compile asciiCase asciiFormatting noTimes registryConfig
    ∃ first second, compile registryFields (registryRequest "ac*" "3,4" "u-1")
        [.withTenant "t-1"] = .ok first ∧
      compile registryFields.reverse (registryRequest "' OR 1=1 --" "7,8" "$1")
        [.withTenant "t-2"] = .ok second ∧
      first.whereClause = second.whereClause ∧ first.orderBy = second.orderBy ∧
      first.limit = second.limit := by
  intro compile
  obtain ⟨first, compiledFirst, -⟩ := exists_of_any (compile registryFields
    (registryRequest "ac*" "3,4" "u-1") [.withTenant "t-1"]) (fun _ => true) (by decide +kernel)
  obtain ⟨second, compiledSecond, -⟩ := exists_of_any (compile registryFields.reverse
    (registryRequest "' OR 1=1 --" "7,8" "$1") [.withTenant "t-2"]) (fun _ => true)
    (by decide +kernel)
  refine ⟨first, second, compiledFirst, compiledSecond, ?_⟩
  exact @compile_text_eq asciiCase asciiFormatting noTimes registryConfig
    (static_of_entries registryConfig (by decide)) registryFields registryFields.reverse
    (List.Perm.refl _) (List.reverse_perm _) _ _ _ _ first second compiledFirst compiledSecond
    (by decide +kernel) (by decide +kernel) rfl rfl rfl

end SharedGo.Search
