/-
This file proves that the placeholders in the condition of a query and its
arguments stay in step. Each part of the condition is laid out as texts and slots,
where a slot knows what its value comes from: the tenant, a search term, or an
element of a filter. The layouts are numbered one after the other, so the
placeholders read off the whole text are those of the arguments, and each stands
where its argument belongs.

One thing a configuration can get wrong is a template whose place is directly
followed by a digit: without a cast in between, the digit becomes part of the
placeholder.
-/

import SharedGo.CompileText

namespace SharedGo.Search

open SharedGo Text Fmt NumberedText

/-! ### Where a value comes from -/

inductive Origin where
  | tenant (value : String)
  | term (text : String)
  | element (fieldType : FieldType) (value : Dynamic)

/-- The argument: the tenant, the pattern of the term, or the coerced element. -/
def Origin.value : Origin → Dynamic
  | .tenant value => .string value
  | .term text => .string (wildcardToLike text)
  | .element _ value => value

/-- Only an element of a filter is cast, to the type of its field. -/
def Origin.cast : Origin → String
  | .element fieldType _ => fieldType.cast
  | _ => ""

/-- The argument has the type its cast expects. -/
def Origin.typed : Origin → Bool
  | .element fieldType value => fieldType.expects value
  | _ => true

theorem cast_plain (origin : Origin) : '$' ∉ origin.cast.toList := by
  cases origin with
  | tenant value => simp [Origin.cast]
  | term text => simp [Origin.cast]
  | element fieldType value => cases fieldType <;> simp [Origin.cast, FieldType.cast]

theorem cast_apart (origin : Origin) : startsWithDigit origin.cast = false := by
  cases origin with
  | tenant value => rfl
  | term text => rfl
  | element fieldType value =>
    cases fieldType <;> simp [Origin.cast, FieldType.cast, startsWithDigit]

theorem separator_and : Separator " AND " := ⟨by decide, by decide, by decide⟩

theorem separator_or : Separator " OR " := ⟨by decide, by decide, by decide⟩

theorem separator_comma : Separator ", " := ⟨by decide, by decide, by decide⟩

/-! ### Filters -/

/-- The template up to its place. -/
def SubqueryResolver.before (resolver : SubqueryResolver) : String :=
  String.ofList (resolver.template.toList.takeWhile (· ≠ '%'))

/-- The template after its place. -/
def SubqueryResolver.after (resolver : SubqueryResolver) : String :=
  String.ofList ((resolver.template.toList.dropWhile (· ≠ '%')).drop 2)

/-- The only percent sign of the template is that of its place, and it has no dollar sign. -/
structure SubqueryResolver.OnePlace (resolver : SubqueryResolver) : Prop where
  template : resolver.template = resolver.before ++ "%s" ++ resolver.after
  plainAfter : '%' ∉ resolver.after.toList
  noDollar : '$' ∉ resolver.template.toList

instance (resolver : SubqueryResolver) : Decidable resolver.OnePlace :=
  decidable_of_iff (resolver.template = resolver.before ++ "%s" ++ resolver.after ∧
      '%' ∉ resolver.after.toList ∧ '$' ∉ resolver.template.toList)
    ⟨fun ⟨template, plainAfter, noDollar⟩ => ⟨template, plainAfter, noDollar⟩,
      fun ⟨template, plainAfter, noDollar⟩ => ⟨template, plainAfter, noDollar⟩⟩

/-- The texts of a resolver have no dollar sign, and its place does not run into a digit. -/
def StaticResolver.Plain : StaticResolver → Prop
  | .direct resolver => '$' ∉ resolver.column.toList
  | .subquery resolver => resolver.OnePlace ∧
    (resolver.fieldType.cast = "" → startsWithDigit resolver.after = false)

instance : DecidablePred StaticResolver.Plain
  | .direct resolver => inferInstanceAs (Decidable ('$' ∉ resolver.column.toList))
  | .subquery resolver => inferInstanceAs (Decidable (resolver.OnePlace ∧
      (resolver.fieldType.cast = "" → startsWithDigit resolver.after = false)))

/-- The layout of a direct resolver's condition. -/
def DirectColumnResolver.layout (resolver : DirectColumnResolver) (operator : String)
    (start : Nat) (values : List Dynamic) : List (Piece Origin) :=
  let elements := slots start (values.map (.element resolver.fieldType))
  match comparisonSQL operator with
  | some symbol => .text (resolver.column ++ " " ++ symbol ++ " ") :: joinPieces "" elements
  | none =>
    if operator = "in" ∨ operator = "not_in" then
      .text (resolver.column ++ " " ++ (if operator = "not_in" then "NOT IN" else "IN") ++ " (") ::
        joinPieces ", " elements ++ [.text ")"]
    else if operator = "between" then
      .text (resolver.column ++ " BETWEEN ") :: joinPieces " AND " elements
    else if operator = "is_null" then [.text (resolver.column ++ " IS NULL")]
    else [.text (resolver.column ++ " IS NOT NULL")]

/-- The layout of a subquery resolver's condition. -/
def SubqueryResolver.layout (resolver : SubqueryResolver) (start : Nat) (values : List Dynamic) :
    List (Piece Origin) :=
  .text resolver.before :: joinPieces "" (slots start (values.map (.element resolver.fieldType))) ++
    [.text resolver.after]

def StaticResolver.layout (operator : String) (start : Nat) (values : List Dynamic) :
    StaticResolver → List (Piece Origin)
  | .direct resolver => resolver.layout operator start values
  | .subquery resolver => resolver.layout start values

def StaticResolver.fieldType : StaticResolver → FieldType
  | .direct resolver => resolver.fieldType
  | .subquery resolver => resolver.fieldType

theorem render_elements (fieldType : FieldType) (separator : String) (start : Nat)
    (values : List Dynamic) :
    render Origin.cast (joinPieces separator (slots start (values.map (.element fieldType)))) =
      join separator ((placeholders start values.length).map (· ++ fieldType.cast)) := by
  rw [render_joinPieces, render_slots Origin.cast start _ fieldType.cast, List.length_map]
  intro origin member
  obtain ⟨value, _, rfl⟩ := List.mem_map.mp member
  rfl

theorem direct_render (resolver : DirectColumnResolver) (operator : String) (start : Nat)
    (values : List Dynamic) :
    render Origin.cast (resolver.layout operator start values) =
      resolver.fragmentText operator start values.length := by
  unfold DirectColumnResolver.layout DirectColumnResolver.fragmentText
  cases comparisonSQL operator with
  | some symbol => simp only [render_text, render_elements]
  | none =>
    split_ifs <;> simp [render_elements, String.append_assoc]

theorem numbered_elements (fieldType : FieldType) (start : Nat) (values : List Dynamic) :
    NumberedAll Origin.cast start (values.map (.element fieldType))
      (slots start (values.map (.element fieldType))) :=
  numberedAll_slots start _ (fun origin _ => cast_plain origin) fun origin _ => cast_apart origin

/-- A single element needs no separator. -/
theorem numbered_element (fieldType : FieldType) (start : Nat) (values : List Dynamic)
    (single : values.length = 1) :
    Numbered Origin.cast start (values.map (.element fieldType))
      (joinPieces "" (slots start (values.map (.element fieldType)))) := by
  obtain ⟨value, rfl⟩ := List.length_eq_one_iff.mp single
  exact numbered_slot start _ (cast_plain _) (cast_apart _)

theorem comparisonSQL_plain (operator symbol : String)
    (found : comparisonSQL operator = some symbol) : '$' ∉ symbol.toList := by
  obtain ⟨before, after, table, _⟩ := List.lookup_eq_some_iff.mp found
  have plain : ∀ entry ∈ before ++ (operator, symbol) :: after, '$' ∉ entry.2.toList := by
    rw [← table]
    decide
  exact plain (operator, symbol) (List.mem_append_right _ List.mem_cons_self)

section Filters

variable [Formatting] [TimeParsing]

omit [TimeParsing] in
theorem subquery_render (resolver : SubqueryResolver) (onePlace : resolver.OnePlace)
    (start : Nat) (values : List Dynamic) (single : values.length = 1) :
    render Origin.cast (resolver.layout start values) = resolver.fragmentText start := by
  have plainBefore : '%' ∉ resolver.before.toList := by
    intro member
    rw [SubqueryResolver.before, String.toList_ofList] at member
    simpa using List.mem_takeWhile_imp member
  rw [SubqueryResolver.fragmentText, onePlace.template, sprintf_plain _ _ _ plainBefore
    onePlace.plainAfter, SubqueryResolver.layout, List.cons_append, render_text, render_append,
    render_elements, single]
  simp [placeholders, join, String.append_assoc]

theorem direct_bound_expected (resolver : DirectColumnResolver) (operator : String)
    (value : Dynamic) (values : List Dynamic)
    (bound : resolver.bound operator value = .ok values) :
    ∀ element ∈ values, resolver.fieldType.expects element = true := by
  unfold DirectColumnResolver.bound at bound
  split at bound
  · exact coerceAll_expected resolver.field resolver.fieldType _ values bound
  split_ifs at bound
  · split at bound
    · cases bound
    · exact coerceList_expected resolver.field resolver.fieldType value values bound
  · split at bound
    · cases bound
    · rename_i coerced found
      split_ifs at bound
      obtain rfl := Except.ok.inj bound
      exact coerceList_expected resolver.field resolver.fieldType value coerced found
  · obtain rfl := Except.ok.inj bound
    intro element member
    cases member

theorem direct_numbered (resolver : DirectColumnResolver) (plain : '$' ∉ resolver.column.toList)
    (operator : String) (value : Dynamic) (values : List Dynamic)
    (bound : resolver.bound operator value = .ok values) (start : Nat) :
    Numbered Origin.cast start (values.map (.element resolver.fieldType))
      (resolver.layout operator start values) := by
  have elements := numbered_elements resolver.fieldType start values
  have length := length_direct_bound resolver operator value values bound
  unfold DirectColumnResolver.bound at bound
  unfold DirectColumnResolver.layout
  cases comparison : comparisonSQL operator with
  | some symbol =>
    rw [comparison] at length
    refine (numbered_element resolver.fieldType start values length).text_cons _ ?_
    have plainSymbol := comparisonSQL_plain operator symbol comparison
    simp [plain, plainSymbol]
  | none =>
    simp only [comparison] at bound ⊢
    by_cases list : operator = "in" ∨ operator = "not_in"
    · rw [if_pos list]
      refine ((elements.join ", " separator_comma).text_cons _ ?_).append_text ")" (by decide)
        (by decide)
      split_ifs <;> simp [plain]
    by_cases between : operator = "between"
    · rw [if_neg list, if_pos between]
      refine (elements.join " AND " separator_and).text_cons _ ?_
      simp [plain]
    rw [if_neg list, if_neg between] at bound ⊢
    split_ifs at bound
    obtain rfl := Except.ok.inj bound
    split_ifs
    · exact (numbered_nil start).text_cons _ (by simp [plain])
    · exact (numbered_nil start).text_cons _ (by simp [plain])

theorem subquery_numbered (resolver : SubqueryResolver)
    (plain : (StaticResolver.subquery resolver).Plain) (operator : String) (value : Dynamic)
    (values : List Dynamic) (bound : resolver.bound operator value = .ok values) (start : Nat) :
    Numbered Origin.cast start (values.map (.element resolver.fieldType))
      (resolver.layout start values) := by
  obtain ⟨onePlace, apart⟩ := plain
  have noDollar := onePlace.noDollar
  rw [onePlace.template] at noDollar
  simp only [String.toList_append, List.mem_append, not_or] at noDollar
  have single := length_subquery_bound resolver operator value values bound
  obtain ⟨element, rfl⟩ := List.length_eq_one_iff.mp single
  refine (numbered_slot_text start _ resolver.after (cast_plain _) noDollar.2 ?_).text_cons
    resolver.before noDollar.1.1
  by_cases uncast : resolver.fieldType.cast = ""
  · exact startsWithDigit_append _ _ (cast_apart _) (apart uncast)
  · exact (startsWithDigit_append_left _ _ uncast).trans
      (cast_apart (.element resolver.fieldType element))

/-- The condition of a filter is numbered. -/
theorem static_numbered (resolver : StaticResolver) (plain : resolver.Plain) (operator : String)
    (value : Dynamic) (values : List Dynamic) (bound : resolver.bound operator value = .ok values)
    (start : Nat) :
    Numbered Origin.cast start (values.map (.element resolver.fieldType))
      (resolver.layout operator start values) := by
  cases resolver with
  | direct resolver => exact direct_numbered resolver plain operator value values bound start
  | subquery resolver => exact subquery_numbered resolver plain operator value values bound start

theorem static_render (resolver : StaticResolver) (plain : resolver.Plain) (operator : String)
    (value : Dynamic) (values : List Dynamic) (bound : resolver.bound operator value = .ok values)
    (start : Nat) :
    render Origin.cast (resolver.layout operator start values) =
      resolver.fragmentText operator start values.length := by
  cases resolver with
  | direct resolver => exact direct_render resolver operator start values
  | subquery resolver =>
    exact subquery_render resolver plain.1 start values
      (length_subquery_bound resolver operator value values bound)

theorem static_typed (resolver : StaticResolver) (operator : String) (value : Dynamic)
    (values : List Dynamic) (bound : resolver.bound operator value = .ok values) :
    ∀ element ∈ values, resolver.fieldType.expects element = true := by
  cases resolver with
  | direct resolver => exact direct_bound_expected resolver operator value values bound
  | subquery resolver =>
    simp only [StaticResolver.bound, SubqueryResolver.bound] at bound
    split_ifs at bound
    exact coerceAll_expected resolver.field resolver.fieldType _ values bound

end Filters

def BoundFilter.origins (filter : BoundFilter) : List Origin :=
  filter.values.map (.element filter.resolver.fieldType)

def BoundFilter.layout (filter : BoundFilter) (start : Nat) : List (Piece Origin) :=
  filter.resolver.layout filter.operator start filter.values

/-- The layouts of filters after `start` values. -/
def filterLayouts : Nat → List BoundFilter → List (List (Piece Origin))
  | _, [] => []
  | start, filter :: rest =>
    filter.layout start :: filterLayouts (start + filter.values.length) rest

/-- A filter whose values were coerced by a plain resolver. -/
def BoundFilter.Sound [Formatting] [TimeParsing] (filter : BoundFilter) : Prop :=
  filter.resolver.Plain ∧ ∃ value, filter.resolver.bound filter.operator value = .ok filter.values

section Sound

variable [Formatting] [TimeParsing]

theorem BoundFilter.Sound.numbered {filter : BoundFilter} (sound : filter.Sound) (start : Nat) :
    Numbered Origin.cast start filter.origins (filter.layout start) := by
  obtain ⟨plain, value, bound⟩ := sound
  exact static_numbered filter.resolver plain filter.operator value filter.values bound start

theorem BoundFilter.Sound.render {filter : BoundFilter} (sound : filter.Sound) (start : Nat) :
    render Origin.cast (filter.layout start) = filter.text start := by
  obtain ⟨plain, value, bound⟩ := sound
  exact static_render filter.resolver plain filter.operator value filter.values bound start

theorem BoundFilter.Sound.typed {filter : BoundFilter} (sound : filter.Sound) :
    ∀ origin ∈ filter.origins, origin.typed = true := by
  obtain ⟨-, value, bound⟩ := sound
  intro origin member
  obtain ⟨element, isElement, rfl⟩ := List.mem_map.mp member
  exact static_typed filter.resolver filter.operator value filter.values bound element isElement

theorem BoundFilter.Sound.text_ne_empty {filter : BoundFilter} (sound : filter.Sound)
    (start : Nat) : filter.text start ≠ "" := by
  rw [← sound.render start, BoundFilter.layout]
  obtain ⟨plain, value, bound⟩ := sound
  cases isStatic : filter.resolver with
  | direct resolver =>
    rw [StaticResolver.layout, direct_render, DirectColumnResolver.fragmentText]
    split
    · simp
    · split_ifs <;> simp
  | subquery resolver =>
    rw [isStatic] at bound
    obtain ⟨element, single⟩ := List.length_eq_one_iff.mp
      (length_subquery_bound resolver filter.operator value filter.values bound)
    simp [single, StaticResolver.layout, SubqueryResolver.layout, slots, joinPieces,
      placeholder_ne_empty]

theorem filterLayouts_numbered (start : Nat) (bound : List BoundFilter)
    (sound : ∀ filter ∈ bound, filter.Sound) :
    NumberedAll Origin.cast start (bound.flatMap BoundFilter.origins)
      (filterLayouts start bound) := by
  induction bound generalizing start with
  | nil => exact .nil start
  | cons filter rest inductionHypothesis =>
    rw [List.flatMap_cons]
    refine .cons ((sound filter List.mem_cons_self).numbered start) ?_
    rw [BoundFilter.origins, List.length_map]
    exact inductionHypothesis _ fun other member => sound other (List.mem_cons_of_mem filter member)

theorem filterLayouts_render (start : Nat) (bound : List BoundFilter)
    (sound : ∀ filter ∈ bound, filter.Sound) :
    (filterLayouts start bound).map (render Origin.cast) = filterTexts start bound := by
  induction bound generalizing start with
  | nil => rfl
  | cons filter rest inductionHypothesis =>
    have soundFilter := sound filter List.mem_cons_self
    rw [filterLayouts, filterTexts, List.map_cons, soundFilter.render,
      if_pos (soundFilter.text_ne_empty start), inductionHypothesis _ fun other member =>
        sound other (List.mem_cons_of_mem filter member)]
    rfl

end Sound

/-! ### Terms -/

/-- The layout of a term: its slot stands once for each column. -/
def termLayout (columns : List String) (position : Nat) (term : String) : List (Piece Origin) :=
  .text "(" :: joinPieces " OR "
    (columns.map fun column => [.text (column ++ " ILIKE "), .slot position (.term term)]) ++
    [.text ")"]

def termLayouts (columns : List String) : Nat → List String → List (List (Piece Origin))
  | _, [] => []
  | start, term :: rest =>
    termLayout columns (start + 1) term :: termLayouts columns (start + 1) rest

/-- The layout of the terms, when there are columns and terms. -/
def termsLayout (columns : List String) (start : Nat) (terms : List String) :
    List (List (Piece Origin)) :=
  if columns = [] ∨ terms = [] then []
  else [.text "(" :: joinPieces " OR " (termLayouts columns start terms) ++ [.text ")"]]

def termOrigins (columns terms : List String) : List Origin :=
  if columns = [] then [] else terms.map .term

theorem termLayout_render (columns : List String) (position : Nat) (term : String) :
    render Origin.cast (termLayout columns position term) =
      termCondition columns (placeholder position) := by
  rw [termLayout, termCondition, List.cons_append, render_text, render_append, render_joinPieces,
    List.map_map]
  simp [Function.comp_def, Origin.cast, String.append_assoc]

theorem termLayouts_render (columns : List String) (start : Nat) (terms : List String) :
    (termLayouts columns start terms).map (render Origin.cast) =
      (placeholders start terms.length).map (termCondition columns) := by
  induction terms generalizing start with
  | nil => rfl
  | cons term rest inductionHypothesis =>
    rw [termLayouts, List.map_cons, termLayout_render, inductionHypothesis]
    simp [placeholders, List.range'_succ]

theorem termLayout_numbered (columns : List String) (nonempty : columns ≠ [])
    (plain : ∀ column ∈ columns, '$' ∉ column.toList) (start : Nat) (term : String) :
    Numbered Origin.cast start [.term term] (termLayout columns (start + 1) term) := by
  have shared : ∀ column ∈ columns, Numbered Origin.cast start [.term term]
      [.text (column ++ " ILIKE "), .slot (start + 1) (.term term)] := by
    intro column member
    refine (numbered_slot start _ (cast_plain _) (cast_apart _)).text_cons _ ?_
    simp [plain column member]
  obtain ⟨column, others, rfl⟩ := List.exists_cons_of_ne_nil nonempty
  refine Numbered.append_text (Numbered.text_cons ?_ "(" (by decide)) ")" (by decide) (by decide)
  refine numbered_joinPieces_again _ _ ?_ " OR " separator_or
  intro group member
  obtain ⟨chosen, isColumn, rfl⟩ : ∃ chosen ∈ column :: others,
      [.text (chosen ++ " ILIKE "), .slot (start + 1) (.term term)] = group :=
    List.mem_map.mp member
  exact shared chosen isColumn

theorem termLayouts_numbered (columns : List String) (nonempty : columns ≠ [])
    (plain : ∀ column ∈ columns, '$' ∉ column.toList) (start : Nat) (terms : List String) :
    NumberedAll Origin.cast start (terms.map .term) (termLayouts columns start terms) := by
  induction terms generalizing start with
  | nil => exact .nil start
  | cons term rest inductionHypothesis =>
    exact .cons (termLayout_numbered columns nonempty plain start term)
      (inductionHypothesis (start + 1))

theorem termsLayout_numbered (columns : List String)
    (plain : ∀ column ∈ columns, '$' ∉ column.toList) (start : Nat) (terms : List String) :
    NumberedAll Origin.cast start (termOrigins columns terms)
      (termsLayout columns start terms) := by
  unfold termOrigins termsLayout
  by_cases empty : columns = []
  · rw [if_pos empty, if_pos (Or.inl empty)]
    exact .nil start
  by_cases none : terms = []
  · rw [if_neg empty, if_pos (Or.inr none), none]
    exact .nil start
  · rw [if_neg empty, if_neg (not_or.mpr ⟨empty, none⟩)]
    refine .singleton (Numbered.append_text (Numbered.text_cons ?_ "(" (by decide)) ")"
      (by decide) (by decide))
    exact (termLayouts_numbered columns empty plain start terms).join " OR " separator_or

theorem termsLayout_render (columns : List String) (start : Nat) (terms : List String) :
    (termsLayout columns start terms).map (render Origin.cast) =
      if termsText columns start terms.length ≠ "" then [termsText columns start terms.length]
      else [] := by
  unfold termsLayout termsText
  by_cases none : columns = [] ∨ terms = []
  · simp [none]
  · simp [none, render_joinPieces, termLayouts_render, String.append_assoc]

/-! ### The query -/

def ResourceConfig.tenantOrigins (config : ResourceConfig) (state : CompileState) : List Origin :=
  if config.tenanted state then [.tenant state.tenantValue] else []

def ResourceConfig.tenantLayouts (config : ResourceConfig) (state : CompileState) :
    List (List (Piece Origin)) :=
  if config.tenanted state then
    [[.text (config.tenantColumn ++ " = "), .slot 1 (.tenant state.tenantValue)]]
  else []

/-- What the arguments of a query come from, in order. -/
def ResourceConfig.origins (config : ResourceConfig) (columns : List String)
    (state : CompileState) (terms : List String) (bound : List BoundFilter) : List Origin :=
  config.tenantOrigins state ++ termOrigins columns terms ++ bound.flatMap BoundFilter.origins

/-- The layouts of the conditions of a query, each numbered after those before it. -/
def ResourceConfig.layouts (config : ResourceConfig) (columns : List String)
    (state : CompileState) (terms : List String) (bound : List BoundFilter) :
    List (List (Piece Origin)) :=
  let tenants := (config.tenantOrigins state).length
  config.tenantLayouts state ++ termsLayout columns tenants terms ++
    filterLayouts (tenants + (termOrigins columns terms).length) bound

/-- The layout of the whole condition. -/
def ResourceConfig.layout (config : ResourceConfig) (columns : List String)
    (state : CompileState) (terms : List String) (bound : List BoundFilter) :
    List (Piece Origin) :=
  joinPieces " AND " (config.layouts columns state terms bound)

/-- No column and no template has a dollar sign, a template has one place, and no uncast place
runs into a digit. -/
structure ResourceConfig.Plain (config : ResourceConfig) : Prop where
  tenantColumn : '$' ∉ config.tenantColumn.toList
  column : ∀ field fieldConfig, config.fields.lookup field = some fieldConfig →
    '$' ∉ fieldConfig.column.toList
  resolver : ∀ field fieldConfig resolver, config.fields.lookup field = some fieldConfig →
    fieldConfig.static field = some resolver → resolver.Plain

theorem tenantLayouts_numbered (config : ResourceConfig) (state : CompileState)
    (plain : '$' ∉ config.tenantColumn.toList) :
    NumberedAll Origin.cast 0 (config.tenantOrigins state) (config.tenantLayouts state) := by
  unfold ResourceConfig.tenantOrigins ResourceConfig.tenantLayouts
  split_ifs
  · refine .singleton ((numbered_slot 0 _ (cast_plain _) (cast_apart _)).text_cons _ ?_)
    simp [plain]
  · exact .nil 0

theorem tenantLayouts_render (config : ResourceConfig) (state : CompileState) :
    (config.tenantLayouts state).map (render Origin.cast) =
      config.tenantTexts (config.tenanted state) := by
  unfold ResourceConfig.tenantLayouts ResourceConfig.tenantTexts
  split_ifs
  · simp [Origin.cast]
  · rfl

theorem searchColumns_plain (config : ResourceConfig) (plain : config.Plain)
    (order : List (GoMap.Entry String FieldConfig)) (visits : config.fields.Visits order) :
    ∀ column ∈ searchColumns order, '$' ∉ column.toList := by
  intro column member
  rw [searchColumns, mem_sortStrings, List.mem_map] at member
  obtain ⟨entry, isEntry, rfl⟩ := member
  have inMap := (visits.mem_iff entry).mp (List.mem_filter.mp isEntry).1
  exact plain.column entry.1 entry.2 (AList.mem_lookup_iff.mpr inMap)

section Query

variable [Formatting] [TimeParsing]

theorem layouts_numbered (config : ResourceConfig) (columns : List String)
    (state : CompileState) (terms : List String) (bound : List BoundFilter)
    (plainTenant : '$' ∉ config.tenantColumn.toList)
    (plainColumns : ∀ column ∈ columns, '$' ∉ column.toList)
    (sound : ∀ filter ∈ bound, filter.Sound) :
    NumberedAll Origin.cast 0 (config.origins columns state terms bound)
      (config.layouts columns state terms bound) := by
  have tenants := tenantLayouts_numbered config state plainTenant
  have used := termsLayout_numbered columns plainColumns (config.tenantOrigins state).length terms
  have filters := filterLayouts_numbered
    ((config.tenantOrigins state).length + (termOrigins columns terms).length) bound sound
  refine (tenants.append ?_).append ?_
  · rwa [Nat.zero_add]
  · rwa [Nat.zero_add, List.length_append]

theorem layouts_render (config : ResourceConfig) (columns : List String) (state : CompileState)
    (terms : List String) (bound : List BoundFilter) (sound : ∀ filter ∈ bound, filter.Sound) :
    (config.layouts columns state terms bound).map (render Origin.cast) =
      config.conditionTexts columns (config.tenanted state) terms.length bound := by
  have tenants : (config.tenantOrigins state).length = if config.tenanted state then 1 else 0 := by
    unfold ResourceConfig.tenantOrigins
    split_ifs <;> rfl
  have used : (termOrigins columns terms).length = if columns = [] then 0 else terms.length := by
    unfold termOrigins
    split_ifs <;> simp
  rw [ResourceConfig.layouts, ResourceConfig.conditionTexts, List.map_append, List.map_append,
    tenantLayouts_render, termsLayout_render, filterLayouts_render _ bound sound, tenants, used]

omit [Formatting] [TimeParsing] in
theorem origins_values (config : ResourceConfig) (columns : List String) (state : CompileState)
    (terms : List String) (bound : List BoundFilter) :
    (config.origins columns state (effectiveTerms terms) bound).map Origin.value =
      config.tenantValues state ++ termValues columns terms ++
        bound.flatMap BoundFilter.values := by
  have filters : (bound.flatMap BoundFilter.origins).map Origin.value =
      bound.flatMap BoundFilter.values := by
    rw [List.map_flatMap]
    refine List.flatMap_congr fun filter _ => ?_
    simp [BoundFilter.origins, Function.comp_def, Origin.value]
  rw [ResourceConfig.origins, List.map_append, List.map_append, filters]
  congr 2
  · unfold ResourceConfig.tenantOrigins ResourceConfig.tenantValues
    split_ifs <;> rfl
  · unfold termOrigins termValues
    split_ifs
    · rfl
    · simp [Function.comp_def, Origin.value]

theorem origins_typed (config : ResourceConfig) (columns : List String) (state : CompileState)
    (terms : List String) (bound : List BoundFilter) (sound : ∀ filter ∈ bound, filter.Sound) :
    ∀ origin ∈ config.origins columns state terms bound, origin.typed = true := by
  intro origin member
  rcases List.mem_append.mp member with member | member
  · rcases List.mem_append.mp member with member | member
    · unfold ResourceConfig.tenantOrigins at member
      split_ifs at member
      · obtain rfl := List.mem_singleton.mp member
        rfl
      · cases member
    · unfold termOrigins at member
      split_ifs at member
      · cases member
      · obtain ⟨term, _, rfl⟩ := List.mem_map.mp member
        rfl
  · obtain ⟨filter, isFilter, isOrigin⟩ := List.mem_flatMap.mp member
    exact (sound filter isFilter).typed origin isOrigin

variable [CaseMapping]

theorem bindFilters_sound (config : ResourceConfig) (plain : config.Plain)
    (filters : List FilterParameter) (bound : List BoundFilter)
    (binds : List.Forall₂ (fun filter bound => config.bindFilter filter = some bound)
      filters bound) :
    ∀ filter ∈ bound, filter.Sound := by
  induction binds with
  | nil => simp
  | cons bindsHead _ inductionHypothesis =>
    intro filter member
    rcases List.mem_cons.mp member with rfl | member
    · obtain ⟨field, found, static, _, values⟩ := bindFilter_cases config _ filter bindsHead
      exact ⟨plain.resolver _ field filter.resolver found static, _, values⟩
    · exact inductionHypothesis filter member

/-- Placeholders and arguments stay in step: the condition is laid out as texts and slots, the
distinct placeholders read off its text are those of the arguments in order, and the argument at
a slot's position is the value of the slot and has the type its cast expects. -/
theorem placeholders_in_step (config : ResourceConfig) (static : config.Static)
    (plain : config.Plain) (order : List (GoMap.Entry String FieldConfig))
    (visits : config.fields.Visits order) (request : RequestBody) (options : List CompileOption)
    (query : CompiledQuery) (compiled : config.compile order request options = .ok query) :
    ∃ bound, List.Forall₂ (fun filter bound => config.bindFilter filter = some bound)
        request.filters bound ∧
      query.whereClause = render Origin.cast (config.layout (searchColumns order)
        (compileState options) (effectiveTerms request.searchTerms) bound) ∧
      (occurrences query.whereClause).eraseDups = placeholders 0 query.args.length ∧
      ∀ position origin, .slot position origin ∈ config.layout (searchColumns order)
          (compileState options) (effectiveTerms request.searchTerms) bound →
        1 ≤ position ∧ query.args[position - 1]? = some origin.value ∧ origin.typed = true := by
  obtain ⟨bound, spec⟩ := compile_spec config static order request options query compiled
  have sound := bindFilters_sound config plain request.filters bound spec.filters
  have numbered := (layouts_numbered config (searchColumns order) (compileState options)
    (effectiveTerms request.searchTerms) bound plain.tenantColumn
    (searchColumns_plain config plain order visits) sound).join " AND " separator_and
  have text : query.whereClause = render Origin.cast (config.layout (searchColumns order)
      (compileState options) (effectiveTerms request.searchTerms) bound) := by
    rw [spec.whereClause, ResourceConfig.layout, render_joinPieces, layouts_render _ _ _ _ _ sound]
  have args := spec.args.trans (origins_values config (searchColumns order)
    (compileState options) request.searchTerms bound).symm
  refine ⟨bound, spec.filters, text, ?_, ?_⟩
  · rw [text, args, List.length_map]
    exact numbered.occurrences_eraseDups
  · intro position origin member
    obtain ⟨positive, found⟩ := numbered.bound position origin member
    refine ⟨positive, ?_, origins_typed _ _ _ _ _ sound origin (List.mem_of_getElem? found)⟩
    rw [args, List.getElem?_map]
    exact congrArg (Option.map Origin.value) found

end Query

theorem plain_of_entries (config : ResourceConfig)
    (tenantColumn : '$' ∉ config.tenantColumn.toList)
    (entries : ∀ entry ∈ config.fields.entries, '$' ∉ entry.2.column.toList ∧
      ∀ resolver ∈ entry.2.static entry.1, resolver.Plain) : config.Plain where
  tenantColumn := tenantColumn
  column field fieldConfig found :=
    (entries ⟨field, fieldConfig⟩ (AList.mem_lookup_iff.mp found)).1
  resolver field fieldConfig resolver found static :=
    (entries ⟨field, fieldConfig⟩ (AList.mem_lookup_iff.mp found)).2 resolver static

/-- The arguments of a request to the registry: the tenant, the pattern of its term, its two ranks
as numbers, and the owner. -/
def registryArguments : List Dynamic → Bool
  | [.string tenant, .string term, .int64 low, .int64 high, .string owner] =>
    tenant = "t-1" ∧ term = "ac%" ∧ low = 3 ∧ high = 4 ∧ owner = "u-1"
  | _ => false

theorem registryArguments_eq (args : List Dynamic) (checked : registryArguments args = true) :
    args = [.string "t-1", .string "ac%", .int64 3, .int64 4, .string "u-1"] := by
  unfold registryArguments at checked
  split at checked
  · obtain ⟨rfl, rfl, rfl, rfl, rfl⟩ := of_decide_eq_true checked
    rfl
  · cases checked

theorem registry_in_step :
    ∃ query bound, @ResourceConfig.compile asciiCase asciiFormatting noTimes registryConfig
        registryFields (registryRequest "ac*" "3,4" "u-1") [.withTenant "t-1"] = .ok query ∧
      query.whereClause = "r.tenant_id = $1 AND ((r.label ILIKE $2 OR r.name ILIKE $2)) AND " ++
        "r.rank IN ($3::bigint, $4::bigint) AND " ++
        "r.id IN (SELECT id FROM owners WHERE owner = $5::uuid)" ∧
      query.args = [.string "t-1", .string "ac%", .int64 3, .int64 4, .string "u-1"] ∧
      (occurrences query.whereClause).eraseDups = placeholders 0 query.args.length ∧
      query.whereClause = render Origin.cast (registryConfig.layout (searchColumns registryFields)
        (compileState [.withTenant "t-1"]) (effectiveTerms ["ac*"]) bound) ∧
      ∀ position origin, .slot position origin ∈ registryConfig.layout
          (searchColumns registryFields) (compileState [.withTenant "t-1"])
          (effectiveTerms ["ac*"]) bound →
        1 ≤ position ∧ query.args[position - 1]? = some origin.value ∧ origin.typed = true := by
  obtain ⟨query, compiled, checked⟩ := exists_of_any (@ResourceConfig.compile asciiCase
    asciiFormatting noTimes registryConfig registryFields (registryRequest "ac*" "3,4" "u-1")
    [.withTenant "t-1"]) (fun query => decide (query.whereClause =
      "r.tenant_id = $1 AND ((r.label ILIKE $2 OR r.name ILIKE $2)) AND " ++
        "r.rank IN ($3::bigint, $4::bigint) AND " ++
        "r.id IN (SELECT id FROM owners WHERE owner = $5::uuid)") &&
      registryArguments query.args) (by decide +kernel)
  rw [Bool.and_eq_true, decide_eq_true_eq] at checked
  have plain : registryConfig.Plain :=
    plain_of_entries registryConfig (by decide +kernel) (by decide +kernel)
  obtain ⟨bound, _, text, inStep, slots⟩ := @placeholders_in_step asciiFormatting noTimes asciiCase
    registryConfig (static_of_entries registryConfig (by decide)) plain registryFields
    (List.Perm.refl _) _ _ query compiled
  exact ⟨query, bound, compiled, checked.1, registryArguments_eq _ checked.2, inStep, text, slots⟩

/-- A template whose place is followed by a digit. -/
def decadeResolver : SubqueryResolver := ⟨"a.year = %s0", .string, "decade"⟩

def decadeConfig : ResourceConfig where
  name := "albums"
  fields := ⟨[⟨"decade", .string, "", [], false, false, some (.subquery decadeResolver)⟩],
    List.nodupKeys_singleton _⟩
  defaultSort := ⟨"", ""⟩
  tenantColumn := ""
  maxPageSize := 50
  maxBulkTerms := 5

/-- The digit becomes part of the placeholder: the text asks for a tenth argument. -/
theorem decade_out_of_step :
    decadeResolver.OnePlace ∧
    ∃ query, @ResourceConfig.compile asciiCase asciiFormatting noTimes decadeConfig
        decadeConfig.fields.entries ⟨[], [⟨"decade", "eq", .string "198"⟩], [], ⟨0, 0⟩⟩ [] =
          .ok query ∧
      query.args.length = 1 ∧ occurrences query.whereClause = ["$10"] := by
  obtain ⟨query, compiled, outOfStep⟩ := exists_of_any (@ResourceConfig.compile asciiCase
    asciiFormatting noTimes decadeConfig decadeConfig.fields.entries
    ⟨[], [⟨"decade", "eq", .string "198"⟩], [], ⟨0, 0⟩⟩ [])
    (fun query => query.args.length = 1 ∧ occurrences query.whereClause = ["$10"])
    (by decide +kernel)
  exact ⟨by decide +kernel, query, compiled, of_decide_eq_true outOfStep⟩

end SharedGo.Search
