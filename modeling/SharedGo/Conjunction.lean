/-
This file is about what the condition of a query means. Its parts are the tenant
condition, the condition of the search terms and the fragment of every filter, and
the compiler joins them with `AND`, as they are. A row that satisfies every part
satisfies the whole. The other way around it does not have to: a fragment with an
`OR` outside of parentheses takes the parts before it and after it apart, and each
of its alternatives lets rows in on its own, rows of other tenants included.
-/

import SharedGo.CompileText
import SharedGo.Reading

namespace SharedGo.Search

open SharedGo Text Fmt NumberedText Sql

section Parts

variable [CaseMapping] [Formatting] [TimeParsing]

/-- The fragments that the resolvers of filters return, each with the arguments so far. -/
def ResourceConfig.fragments (config : ResourceConfig) :
    List Dynamic → List FilterParameter → List String
  | _, [] => []
  | args, filter :: rest =>
    match config.validateFilter filter with
    | .error _ => []
    | .ok field =>
      match ((field.effectiveResolver filter.field).resolve (CaseMapping.toLower filter.operator)
        filter.value).run args with
      | (.error _, _) => []
      | (.ok fragment, args) => fragment :: config.fragments args rest

/-- The parts of a condition; an empty one restricts nothing. -/
def ResourceConfig.parts (config : ResourceConfig) (columns : List String)
    (request : RequestBody) (state : CompileState) : List String :=
  (config.tenantTexts (config.tenanted state) ++
    termsText columns (config.tenantValues state).length
      (effectiveTerms request.searchTerms).length ::
    config.fragments (config.tenantValues state ++ termValues columns request.searchTerms)
      request.filters).filter (· ≠ "")

theorem bindFilters_fragments (config : ResourceConfig) (filters : List FilterParameter)
    (args : List Dynamic) (conditions : List String) (rest : List Dynamic)
    (run : (config.bindFilters filters).run args = (.ok conditions, rest)) :
    conditions = (config.fragments args filters).filter (· ≠ "") := by
  induction filters generalizing args conditions rest with
  | nil =>
    simp only [ResourceConfig.bindFilters, Binder.run_done, Prod.mk.injEq, Except.ok.injEq] at run
    rw [← run.1]
    rfl
  | cons filter others inductionHypothesis =>
    obtain ⟨field, fragment, middle, otherConditions, valid, resolved, resolvedOthers, rfl⟩ :=
      bindFilters_cons_ok config filter others args rest conditions run
    have following := inductionHypothesis middle otherConditions rest resolvedOthers
    simp only [ResourceConfig.fragments, valid, resolved]
    by_cases empty : fragment = ""
    · simp [empty, following]
    · simp [empty, following]

omit [CaseMapping] [Formatting] [TimeParsing] in
theorem tenantTexts_filter (config : ResourceConfig) (tenanted : Bool) :
    (config.tenantTexts tenanted).filter (· ≠ "") = config.tenantTexts tenanted := by
  unfold ResourceConfig.tenantTexts
  split_ifs
  · simp
  · rfl

/-- The condition of a query is its parts with `AND` between them. -/
theorem compile_where (config : ResourceConfig) (order : List (GoMap.Entry String FieldConfig))
    (request : RequestBody) (options : List CompileOption) (query : CompiledQuery)
    (compiled : config.compile order request options = .ok query) :
    query.whereClause =
      join " AND " (config.parts (searchColumns order) request (compileState options)) := by
  obtain ⟨filters, resolved, text, _, _⟩ :=
    compile_run config order request options query compiled
  rw [text, ResourceConfig.parts, List.filter_append, tenantTexts_filter,
    bindFilters_fragments config request.filters _ filters query.args resolved]
  by_cases empty : termsText (searchColumns order)
      (config.tenantValues (compileState options)).length
      (effectiveTerms request.searchTerms).length = ""
  · simp [empty]
  · simp [empty]

/-- A row that satisfies every part satisfies the condition. -/
theorem where_of_parts (config : ResourceConfig)
    (order : List (GoMap.Entry String FieldConfig)) (request : RequestBody)
    (options : List CompileOption) (query : CompiledQuery)
    (compiled : config.compile order request options = .ok query)
    (wellFormed : ∀ part ∈ config.parts (searchColumns order) request (compileState options),
      WellFormed part) (row : Row)
    (satisfied : ∀ part ∈ config.parts (searchColumns order) request (compileState options),
      Satisfies row part) : Satisfies row query.whereClause := by
  rw [compile_where config order request options query compiled]
  exact satisfies_join row _ wellFormed satisfied

end Parts

/-- Documents with tenants, where the filter on the owner also finds what is public. -/
def documentConfig : ResourceConfig where
  name := "documents"
  fields := ⟨[⟨"owner", .uuid, "", ["eq"], false, false,
    some (.subquery ⟨"d.owner_id = %s OR d.is_public", .uuid, "owner"⟩)⟩],
    List.nodupKeys_singleton _⟩
  defaultSort := ⟨"", ""⟩
  tenantColumn := "d.tenant_id"
  maxPageSize := 50
  maxBulkTerms := 5

def documentRequest : RequestBody where
  searchTerms := []
  filters := [⟨"owner", "eq", .string "u-1"⟩]
  sortFields := []
  pagination := ⟨20, 1⟩

/-- The row in which the given atoms are true and no other. -/
def rowOf (atoms : List (List Token)) : Row := fun tokens => if tokens ∈ atoms then .yes else .no

theorem document_parts :
    @ResourceConfig.parts asciiCase asciiFormatting noTimes documentConfig [] documentRequest
      ⟨"t-1", true⟩ = ["d.tenant_id = $1", "d.owner_id = $2::uuid OR d.is_public"] := by
  decide +kernel

theorem document_wellFormed :
    ∀ part ∈ @ResourceConfig.parts asciiCase asciiFormatting noTimes documentConfig []
      documentRequest ⟨"t-1", true⟩, WellFormed part := by
  rw [document_parts]
  decide +kernel

theorem document_compiles :
    ∃ query, @ResourceConfig.compile asciiCase asciiFormatting noTimes documentConfig
      documentConfig.fields.entries documentRequest [.withTenant "t-1"] = .ok query := by
  obtain ⟨query, compiled, -⟩ := exists_of_any (@ResourceConfig.compile asciiCase
    asciiFormatting noTimes documentConfig documentConfig.fields.entries documentRequest
    [.withTenant "t-1"]) (fun _ => true) (by decide +kernel)
  exact ⟨query, compiled⟩

/-- Each alternative of a part is true in a row that the other part keeps out. -/
theorem document_independent :
    Independent ["d.tenant_id = $1", "d.owner_id = $2::uuid OR d.is_public"] := by
  refine independent_pair _ _ ?_ ?_
  · intro alternative member
    refine ⟨rowOf (conjuncts alternative), ?_⟩
    revert alternative
    decide +kernel
  · intro alternative member
    refine ⟨rowOf (conjuncts alternative), ?_⟩
    revert alternative
    decide +kernel

theorem registry_parts :
    @ResourceConfig.parts asciiCase asciiFormatting noTimes registryConfig
      (searchColumns registryFields) (registryRequest "ac*" "3,4" "u-1") ⟨"t-1", true⟩ =
    ["r.tenant_id = $1", "((r.label ILIKE $2 OR r.name ILIKE $2))",
      "r.rank IN ($3::bigint, $4::bigint)",
      "r.id IN (SELECT id FROM owners WHERE owner = $5::uuid)"] := by
  decide +kernel

end SharedGo.Search
