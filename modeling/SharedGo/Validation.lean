/-
This file models the validation of a search request and proves that it agrees with
the compilation. Both decide on their own which terms count and which filters are
allowed; the compilation of a request that was never validated still refuses every
filter that validation would, it binds as many terms as validation counts, and with
the default resolvers it fails only with errors that are the request's own.
-/

import SharedGo.CompileText

namespace SharedGo.Search

open SharedGo Text Fmt NumberedText

/-! ### Validation -/

/-- The errors that a request is to blame for. -/
def SearchError.isValidationError : SearchError → Bool
  | .invalidField _ _ => true
  | .unsupportedOperator _ _ => true
  | .fieldNotSortable _ _ => true
  | .invalidValueType _ _ _ => true
  | .badTemplate _ => false
  | .resolver _ => false

/-- The loop that counts the terms: blank and all-wildcard ones are skipped. -/
def countTerms : Nat → List String → Nat
  | effective, [] => effective
  | effective, term :: rest =>
    let term := trimSpace term
    if term = "" ∨ isAllWildcard term then countTerms effective rest
    else countTerms (effective + 1) rest

/-- More terms than the resource allows; a limit that is not positive is none. -/
def ResourceConfig.validateTerms (config : ResourceConfig) (terms : List String) :
    Option SearchError :=
  if config.maxBulkTerms > 0 then
    let effective := countTerms 0 terms
    if config.maxBulkTerms.toInt < effective then
      some (.invalidValueType "search_terms"
        ("at most " ++ formatInt config.maxBulkTerms ++ " terms")
        (toString effective ++ " terms"))
    else none
  else none

def ResourceConfig.validateSorts (config : ResourceConfig) : List SortField → Option SearchError
  | [] => none
  | sort :: rest =>
    match config.fields.lookup sort.field with
    | none => some (.invalidField sort.field config.name)
    | some field =>
      if !field.sortable then some (.fieldNotSortable sort.field config.name)
      else config.validateSorts rest

section Validation

variable [CaseMapping]

def ResourceConfig.validateFilters (config : ResourceConfig) :
    List FilterParameter → Option SearchError
  | [] => none
  | filter :: rest =>
    match config.validateFilter filter with
    | .error error => some error
    | .ok _ => config.validateFilters rest

/-- The first error of a request. -/
def ResourceConfig.validate (config : ResourceConfig) (request : RequestBody) :
    Option SearchError :=
  match config.validateTerms request.searchTerms with
  | some error => some error
  | none =>
    match config.validateFilters request.filters with
    | some error => some error
    | none => config.validateSorts request.sortFields

/-! ### Terms -/

omit [CaseMapping] in
theorem countTerms_eq (effective : Nat) (terms : List String) :
    countTerms effective terms = effective + (effectiveTerms terms).length := by
  induction terms generalizing effective with
  | nil => rfl
  | cons term rest inductionHypothesis =>
    rw [countTerms]
    unfold effectiveTerms at inductionHypothesis ⊢
    by_cases skipped : trimSpace term = "" ∨ isAllWildcard (trimSpace term) = true
    · rw [if_pos skipped, inductionHypothesis, List.map_cons, List.filter_cons_of_neg]
      simpa [or_iff_not_imp_left] using skipped
    · rw [if_neg skipped, inductionHypothesis, List.map_cons, List.filter_cons_of_pos]
      · rw [List.length_cons, Nat.add_assoc, Nat.add_comm 1]
      · simpa using skipped

omit [CaseMapping] in
/-- The terms bind one value each, if there is a column to search. -/
theorem terms_bound (columns terms : List String) (args : List Dynamic) :
    ∃ bound, ((buildSearchTerms columns terms).run args).2 = args ++ bound ∧
      bound.length = if columns = [] then 0 else countTerms 0 terms := by
  refine ⟨termValues columns terms, congrArg Prod.snd (buildSearchTerms_run columns terms args), ?_⟩
  rw [length_termValues, countTerms_eq, Nat.zero_add]

omit [CaseMapping] in
theorem searchColumns_ne_nil (config : ResourceConfig)
    (order : List (GoMap.Entry String FieldConfig)) (visits : config.fields.Visits order)
    (name : String) (field : FieldConfig) (configured : config.fields.lookup name = some field)
    (searchable : field.searchable = true) (column : field.column ≠ "") :
    searchColumns order ≠ [] := by
  have member : field.column ∈ searchColumns order := by
    rw [searchColumns, mem_sortStrings, List.mem_map]
    refine ⟨⟨name, field⟩, List.mem_filter.mpr ⟨?_, ?_⟩, rfl⟩
    · exact (visits.mem_iff _).mpr (AList.mem_lookup_iff.mp configured)
    · simp [searchable, column]
  exact List.ne_nil_of_mem member

/-- A request that passes has at most as many terms as the resource allows. -/
theorem countTerms_le_of_validate (config : ResourceConfig) (request : RequestBody)
    (limited : config.maxBulkTerms > 0) (valid : config.validate request = none) :
    (countTerms 0 request.searchTerms : Int) ≤ config.maxBulkTerms.toInt := by
  unfold ResourceConfig.validate ResourceConfig.validateTerms at valid
  rw [if_pos limited] at valid
  by_contra more
  simp only [if_pos (Int.not_le.mp more)] at valid
  cases valid

/-! ### Filters -/

/-- What an allowed filter is. -/
theorem validateFilter_ok_iff (config : ResourceConfig) (filter : FilterParameter) :
    (∃ field, config.validateFilter filter = .ok field) ↔
      ∃ field, config.fields.lookup filter.field = some field ∧
        (field.allowedOperators = [] ∨
          CaseMapping.toLower filter.operator ∈ field.allowedOperators) := by
  unfold ResourceConfig.validateFilter
  cases configured : config.fields.lookup filter.field with
  | none => simp
  | some field =>
    by_cases all : field.allowedOperators = []
    · simp [all]
    · by_cases allowed : CaseMapping.toLower filter.operator ∈ field.allowedOperators
      · simp [all, allowed]
      · simp [all, allowed]

theorem validateFilters_of_valid (config : ResourceConfig) (filters : List FilterParameter)
    (valid : ∀ filter ∈ filters, ∃ field, config.validateFilter filter = .ok field) :
    config.validateFilters filters = none := by
  induction filters with
  | nil => rfl
  | cons filter others inductionHypothesis =>
    obtain ⟨⟨field, first⟩, rest⟩ := List.forall_mem_cons.mp valid
    rw [ResourceConfig.validateFilters, first]
    exact inductionHypothesis rest

end Validation

/-! ### Errors -/

section Errors

variable [Formatting] [TimeParsing]

theorem coerceScalar_error (field : String) (fieldType : FieldType) (value : Dynamic)
    (error : SearchError) (failed : coerceScalar field fieldType value = .error error) :
    error.isValidationError = true := by
  unfold coerceScalar coerceFloat at failed
  repeat' split at failed
  all_goals cases failed
  all_goals rfl

theorem coerceAll_error (field : String) (fieldType : FieldType) (values : List Dynamic)
    (error : SearchError) (failed : coerceAll field fieldType values = .error error) :
    error.isValidationError = true := by
  induction values with
  | nil => cases failed
  | cons value rest inductionHypothesis =>
    rw [coerceAll] at failed
    split at failed
    · rename_i first coerced
      cases failed
      exact coerceScalar_error field fieldType value error coerced
    · split at failed
      · rename_i others coercedRest
        cases failed
        exact inductionHypothesis coercedRest
      · cases failed

theorem coerceList_error (field : String) (fieldType : FieldType) (value : Dynamic)
    (error : SearchError) (failed : coerceList field fieldType value = .error error) :
    error.isValidationError = true := by
  unfold coerceList at failed
  split at failed
  · exact coerceAll_error field fieldType _ error failed
  · exact coerceAll_error field fieldType _ error failed
  · cases failed
    rfl
  · exact coerceAll_error field fieldType _ error failed

/-- The default resolver fails only on what the request asks for. -/
theorem direct_error (resolver : DirectColumnResolver) (operator : String) (value : Dynamic)
    (error : SearchError) (failed : resolver.bound operator value = .error error) :
    error.isValidationError = true := by
  unfold DirectColumnResolver.bound at failed
  split at failed
  · exact coerceAll_error _ _ _ error failed
  · split_ifs at failed
    · split at failed
      · cases failed
        rfl
      · exact coerceList_error _ _ _ error failed
    · split at failed
      · rename_i coercion coerced
        cases failed
        exact coerceList_error _ _ _ error coerced
      · split_ifs at failed
        cases failed
        rfl
    · cases failed
      rfl

variable [CaseMapping]

/-- The error of the filters is that of the validation of one of them, or of its resolver. -/
theorem bindFilters_error (config : ResourceConfig) (filters : List FilterParameter)
    (args rest : List Dynamic) (error : SearchError)
    (run : (config.bindFilters filters).run args = (.error error, rest)) :
    ∃ filter ∈ filters, config.validateFilter filter = .error error ∨
      ∃ field before after, config.validateFilter filter = .ok field ∧
        ((field.effectiveResolver filter.field).resolve (CaseMapping.toLower filter.operator)
          filter.value).run before = (.error error, after) := by
  induction filters generalizing args rest with
  | nil => cases run
  | cons filter others inductionHypothesis =>
    rw [ResourceConfig.bindFilters] at run
    cases valid : config.validateFilter filter with
    | error invalid =>
      rw [valid] at run
      obtain rfl := Except.error.inj (Prod.mk.inj run).1
      exact ⟨filter, List.mem_cons_self, .inl valid⟩
    | ok field =>
      simp only [valid] at run
      rcases Binder.run_bind_error _ _ args rest error run fun _ => rfl with
        unresolved | ⟨fragment, middle, _, run⟩
      · exact ⟨filter, List.mem_cons_self, .inr ⟨field, args, rest, valid, unresolved⟩⟩
      · rcases Binder.run_bind_error _ _ middle rest error run fun _ => rfl with
          unresolved | ⟨conditions, last, _, done⟩
        · obtain ⟨other, member, reason⟩ := inductionHypothesis middle rest unresolved
          exact ⟨other, List.mem_cons_of_mem filter member, reason⟩
        · cases done

/-- Filters that compile are all allowed. -/
theorem bindFilters_valid (config : ResourceConfig) (filters : List FilterParameter)
    (args rest : List Dynamic) (conditions : List String)
    (run : (config.bindFilters filters).run args = (.ok conditions, rest)) :
    ∀ filter ∈ filters, ∃ field, config.validateFilter filter = .ok field := by
  induction filters generalizing args rest conditions with
  | nil => exact fun filter member => absurd member List.not_mem_nil
  | cons filter others inductionHypothesis =>
    obtain ⟨field, _, middle, otherConditions, valid, _, resolvedOthers, _⟩ :=
      bindFilters_cons_ok config filter others args rest conditions run
    refine List.forall_mem_cons.mpr ⟨⟨field, valid⟩, ?_⟩
    exact inductionHypothesis middle rest otherConditions resolvedOthers

/-! ### Agreement -/

/-- What a compilation returns: on a failure the query is empty. -/
def ResourceConfig.compileResult (config : ResourceConfig)
    (order : List (GoMap.Entry String FieldConfig)) (request : RequestBody)
    (options : List CompileOption) : CompiledQuery × Option SearchError :=
  match (config.bindConditions order request (compileState options)).run [] with
  | (.error error, _) => (⟨"", "", "", []⟩, some error)
  | (.ok conditions, args) =>
    (⟨join " AND " conditions, config.buildOrderBy request.sortFields,
      config.buildLimit request.pagination, args⟩, none)

/-- The two forms of a compilation are the same one. -/
theorem compileResult_eq (config : ResourceConfig)
    (order : List (GoMap.Entry String FieldConfig)) (request : RequestBody)
    (options : List CompileOption) :
    config.compileResult order request options =
      match config.compile order request options with
      | .error error => (⟨"", "", "", []⟩, some error)
      | .ok query => (query, none) := by
  unfold ResourceConfig.compileResult ResourceConfig.compile
  generalize (config.bindConditions order request (compileState options)).run [] = outcome
  obtain ⟨result, args⟩ := outcome
  cases result with
  | error error => rfl
  | ok conditions => rfl

/-- A compilation fails where its filters do. -/
theorem compile_error (config : ResourceConfig)
    (order : List (GoMap.Entry String FieldConfig)) (request : RequestBody)
    (options : List CompileOption) (error : SearchError)
    (failed : config.compile order request options = .error error) :
    ∃ args rest, (config.bindFilters request.filters).run args = (.error error, rest) := by
  unfold ResourceConfig.compile at failed
  generalize ran : (config.bindConditions order request (compileState options)).run [] = outcome
    at failed
  obtain ⟨result, last⟩ := outcome
  cases result with
  | ok conditions => cases failed
  | error reason =>
    obtain rfl := Except.error.inj failed
    rw [ResourceConfig.bindConditions, Binder.run_bind, Binder.run_bind] at ran
    rcases Binder.run_bind_error _ _ _ last reason ran fun _ => rfl with
      unresolved | ⟨filters, rest, _, done⟩
    · exact ⟨_, last, unresolved⟩
    · cases done

/-- A request that compiles has only allowed filters. -/
theorem compile_valid (config : ResourceConfig) (order : List (GoMap.Entry String FieldConfig))
    (request : RequestBody) (options : List CompileOption) (query : CompiledQuery)
    (compiled : config.compile order request options = .ok query) :
    ∀ filter ∈ request.filters, ∃ field, config.validateFilter filter = .ok field := by
  obtain ⟨conditions, resolved, _⟩ := compile_run config order request options query compiled
  exact bindFilters_valid config request.filters _ query.args conditions resolved

/-- With the default resolvers a compilation fails only on what the request asks for. -/
theorem compile_error_validation (config : ResourceConfig)
    (order : List (GoMap.Entry String FieldConfig)) (request : RequestBody)
    (options : List CompileOption) (error : SearchError)
    (default : ∀ name field, config.fields.lookup name = some field → field.resolver = none)
    (failed : config.compile order request options = .error error) :
    error.isValidationError = true := by
  obtain ⟨args, rest, resolved⟩ := compile_error config order request options error failed
  obtain ⟨filter, _, invalid | ⟨field, before, after, valid, unresolved⟩⟩ :=
    bindFilters_error config request.filters args rest error resolved
  · unfold ResourceConfig.validateFilter at invalid
    split at invalid
    · cases invalid
      rfl
    · split_ifs at invalid
      cases invalid
      rfl
  · have direct := default filter.field field (lookup_of_validateFilter config filter field valid)
    rw [FieldConfig.effectiveResolver, direct, Option.getD_none, FieldResolver.resolve,
      direct_run] at unresolved
    split at unresolved
    · rename_i reason bound
      obtain rfl := Except.error.inj (Prod.mk.inj unresolved).1
      exact direct_error _ _ _ reason bound
    · cases unresolved

/-- Validation and compilation agree: what compiles is allowed, what validation refuses does not
compile; the terms that are bound are the terms that are counted, and within the limit for a valid
request; and the errors of the default resolvers are the request's own and leave no query. -/
theorem validate_compile_agree (config : ResourceConfig)
    (order : List (GoMap.Entry String FieldConfig)) (visits : config.fields.Visits order)
    (request : RequestBody) (options : List CompileOption) :
    (∀ query, config.compileResult order request options = (query, none) →
        ∀ filter ∈ request.filters, ∃ field, config.fields.lookup filter.field = some field ∧
          (field.allowedOperators = [] ∨
            CaseMapping.toLower filter.operator ∈ field.allowedOperators)) ∧
      (∀ error, config.validateFilters request.filters = some error →
        (config.compileResult order request options).2 ≠ none) ∧
      ((∃ name field, config.fields.lookup name = some field ∧ field.searchable = true ∧
          field.column ≠ "") →
        ∀ args, ∃ bound,
          ((buildSearchTerms (searchColumns order) request.searchTerms).run args).2 =
              args ++ bound ∧
            bound.length = countTerms 0 request.searchTerms) ∧
      (config.maxBulkTerms > 0 → config.validate request = none →
        ∀ args, ∃ bound,
          ((buildSearchTerms (searchColumns order) request.searchTerms).run args).2 =
              args ++ bound ∧
            (bound.length : Int) ≤ config.maxBulkTerms.toInt) ∧
      ((∀ name field, config.fields.lookup name = some field → field.resolver = none) →
        ∀ query error, config.compileResult order request options = (query, some error) →
          error.isValidationError = true ∧ query = ⟨"", "", "", []⟩) := by
  have valid (query : CompiledQuery)
      (result : config.compileResult order request options = (query, none)) :
      ∀ filter ∈ request.filters, ∃ field, config.validateFilter filter = .ok field := by
    rw [compileResult_eq] at result
    split at result
    · cases result
    · rename_i compiled
      exact compile_valid config order request options _ compiled
  refine ⟨?_, ?_, ?_, ?_, ?_⟩
  · intro query result filter member
    exact (validateFilter_ok_iff config filter).mp (valid query result filter member)
  · intro error refused succeeded
    have accepted := validateFilters_of_valid config request.filters
      (valid _ (Prod.ext rfl succeeded))
    rw [accepted] at refused
    cases refused
  · rintro ⟨name, field, configured, searchable, column⟩ args
    obtain ⟨bound, ran, length⟩ := terms_bound (searchColumns order) request.searchTerms args
    have columns := searchColumns_ne_nil config order visits name field configured searchable column
    exact ⟨bound, ran, by rw [length, if_neg columns]⟩
  · intro limited accepted args
    obtain ⟨bound, ran, length⟩ := terms_bound (searchColumns order) request.searchTerms args
    have counted := countTerms_le_of_validate config request limited accepted
    refine ⟨bound, ran, ?_⟩
    rw [length]
    split_ifs
    · exact Int.le_of_lt (Int64.lt_iff_toInt_lt.mp limited)
    · exact counted
  · intro default query error result
    rw [compileResult_eq] at result
    split at result
    · rename_i failed
      obtain ⟨rfl, same⟩ := Prod.mk.inj result
      obtain rfl := Option.some_inj.mp same
      exact ⟨compile_error_validation config order request options _ default failed, rfl⟩
    · cases result

end Errors

/-- A request with a term that does not count and an operator that is not allowed. -/
def refusedRequest : RequestBody where
  searchTerms := ["ac*", " ** ", "beta"]
  filters := [⟨"rank", "gt", .string "3"⟩]
  sortFields := []
  pagination := ⟨20, 1⟩

/-- Of its terms two are bound, and it does not compile. -/
theorem refusedRequest_agrees :
    (∃ bound, ((buildSearchTerms (searchColumns registryFields.reverse)
        refusedRequest.searchTerms).run []).2 = [] ++ bound ∧ bound.length = 2) ∧
      (@ResourceConfig.compileResult asciiFormatting noTimes asciiCase registryConfig
        registryFields.reverse refusedRequest []).2 ≠ none := by
  obtain ⟨_, refuses, binds, _⟩ := @validate_compile_agree asciiFormatting noTimes asciiCase
    registryConfig registryFields.reverse (List.reverse_perm _) refusedRequest []
  refine ⟨?_, refuses (.unsupportedOperator "rank" "gt") (by decide +kernel)⟩
  obtain ⟨bound, ran, length⟩ := binds ⟨"name", _, rfl, rfl, by decide⟩ []
  exact ⟨bound, ran, length.trans (by decide +kernel)⟩

end SharedGo.Search
