/-
This file proves that compilation preserves the meaning of a request. What a request
asks of a row is said without SQL: the row is one of the tenant's, one of the terms
matches one of its searchable columns, and every filter is met by the value of its
column and the coerced values of the filter. What the compiled query asks is the
truth of its text, where placeholders stand for the arguments of the query, and where
`NULL` makes comparisons unknown. For fields with the default resolver they agree, for
whatever the operators of the database mean.
-/

import SharedGo.Atoms
import SharedGo.SearchTerms

namespace SharedGo.Search

open SharedGo Text Fmt NumberedText Sql

/-! ### Parameters -/

/-- The type in a cast. -/
def FieldType.castType : FieldType → Option String
  | .uuid => some "uuid"
  | .date => some "timestamptz"
  | .int => some "bigint"
  | .bool => some "boolean"
  | _ => none

/-- The parameter of the value at a position, for a field. -/
def parameterAt (fieldType : FieldType) (position : Nat) : Parameter :=
  ⟨placeholder position, fieldType.castType⟩

theorem parameterAt_text (fieldType : FieldType) (position : Nat) :
    (parameterAt fieldType position).text = placeholder position ++ fieldType.cast := by
  cases fieldType <;>
    simp [parameterAt, Parameter.text, FieldType.castType, FieldType.cast, String.append_assoc]

theorem plainWord_placeholder (position : Nat) : PlainWord (placeholder position) where
  reads := reads_placeholder position
  neutral := neutral_word _ (isKeyword_placeholder position)
  present := by
    obtain ⟨digits, chars, -, -⟩ := placeholder_chars position
    intro isNull
    rw [isNull] at chars
    exact absurd (List.cons.inj chars).1 (by decide)

theorem plainWord_castType (fieldType : FieldType) :
    ∀ type ∈ fieldType.castType, PlainWord type := by
  have plain : ∀ type ∈ ["uuid", "timestamptz", "bigint", "boolean"],
      lex type = [.word type] ∧ EndsPlain type ∧
      (∀ keyword ∈ keywords, (Token.word type).isKeyword keyword = false) ∧ type ≠ "NULL" := by
    decide
  intro type isType
  have member : type ∈ ["uuid", "timestamptz", "bigint", "boolean"] := by
    cases fieldType <;> simp_all [FieldType.castType]
  obtain ⟨tokens, endsPlain, noKeyword, present⟩ := plain type member
  exact ⟨⟨tokens, endsPlain⟩, neutral_word type noKeyword, present⟩

theorem parameterAt_plain (fieldType : FieldType) (position : Nat) :
    (parameterAt fieldType position).Plain :=
  ⟨plainWord_placeholder position, plainWord_castType fieldType⟩

/-- The parameters of `count` values after `start` others. -/
def parametersAfter (fieldType : FieldType) (start count : Nat) : List Parameter :=
  (List.range' (start + 1) count).map (parameterAt fieldType)

theorem parametersAfter_text (fieldType : FieldType) (start count : Nat) :
    (parametersAfter fieldType start count).map Parameter.text =
      (placeholders start count).map (· ++ fieldType.cast) := by
  simp [parametersAfter, placeholders, parameterAt_text]

/-! ### Fragments -/

/-- The comparison operators. -/
def comparisonOperators : List (String × Operator) :=
  [("eq", .plain .eq), ("ne", .plain .ne), ("gt", .plain .gt), ("gte", .plain .gte),
    ("lt", .plain .lt), ("lte", .plain .lte), ("like", .plain .like), ("ilike", .plain .ilike),
    ("not_like", .notLike), ("not_ilike", .notIlike)]

theorem lookup_map_snd {Value Other : Type} (table : List (String × Value))
    (convert : Value → Other) (key : String) :
    (table.map fun entry => (entry.1, convert entry.2)).lookup key =
      (table.lookup key).map convert := by
  induction table with
  | nil => rfl
  | cons entry rest inductionHypothesis =>
    rw [List.map_cons, List.lookup_cons, List.lookup_cons, inductionHypothesis]
    cases key == entry.1 <;> rfl

theorem comparisonSQL_eq (operator : String) :
    comparisonSQL operator = (comparisonOperators.lookup operator).map Operator.text :=
  lookup_map_snd comparisonOperators Operator.text operator

/-- The test that a direct resolver writes for `count` values after `start` others. -/
def DirectColumnResolver.test (resolver : DirectColumnResolver) (operator : String)
    (start count : Nat) : Test :=
  match comparisonOperators.lookup operator with
  | some comparison => .compare comparison (parameterAt resolver.fieldType (start + 1))
  | none =>
    if operator = "in" ∨ operator = "not_in" then
      .among (operator = "not_in") (parametersAfter resolver.fieldType start count)
    else if operator = "between" then
      .between (parameterAt resolver.fieldType (start + 1))
        (parameterAt resolver.fieldType (start + 2))
    else .isNull (operator ≠ "is_null")

section Fragments

variable [Formatting] [TimeParsing]

/-- How many values a direct resolver binds. -/
theorem direct_bound_cases (resolver : DirectColumnResolver) (operator : String)
    (value : Dynamic) (values : List Dynamic)
    (bound : resolver.bound operator value = .ok values) :
    (∃ comparison argument, comparisonOperators.lookup operator = some comparison ∧
        values = [argument]) ∨
      (comparisonOperators.lookup operator = none ∧
        ((operator = "in" ∨ operator = "not_in") ∧ values ≠ [] ∨
          operator = "between" ∧ (∃ low high, values = [low, high]) ∨
          (operator = "is_null" ∨ operator = "is_not_null") ∧ values = [])) := by
  unfold DirectColumnResolver.bound at bound
  rw [comparisonSQL_eq] at bound
  cases found : comparisonOperators.lookup operator with
  | some comparison =>
    rw [found] at bound
    obtain ⟨argument, rfl⟩ :=
      List.length_eq_one_iff.mp (length_coerceAll_singleton _ _ _ _ bound)
    exact .inl ⟨comparison, argument, rfl, rfl⟩
  | none =>
    rw [found] at bound
    refine .inr ⟨rfl, ?_⟩
    simp only [Option.map_none] at bound
    split_ifs at bound with list between isNull
    · refine .inl ⟨list, ?_⟩
      rintro rfl
      split at bound
      · cases bound
      · rename_i some
        exact some bound
    · split at bound
      · cases bound
      · split_ifs at bound with two
        obtain rfl := Except.ok.inj bound
        exact .inr (.inl ⟨between, List.length_eq_two.mp two⟩)
    · exact .inr (.inr ⟨isNull, (Except.ok.inj bound).symm⟩)

/-- The fragment of a direct resolver is the text of its test. -/
theorem fragmentText_eq (resolver : DirectColumnResolver) (operator : String) (value : Dynamic)
    (values : List Dynamic) (bound : resolver.bound operator value = .ok values) (start : Nat) :
    resolver.fragmentText operator start values.length =
      (resolver.test operator start values.length).text resolver.column := by
  unfold DirectColumnResolver.fragmentText DirectColumnResolver.test
  rw [comparisonSQL_eq]
  rcases direct_bound_cases resolver operator value values bound with
    ⟨comparison, argument, found, rfl⟩ | ⟨found, cases⟩
  · simp [found, Test.text, Test.words, parameterAt_text, placeholders, join, String.append_assoc]
  rw [found]
  rcases cases with ⟨list, -⟩ | ⟨rfl, low, high, rfl⟩ | ⟨isNull, rfl⟩
  · rw [← String.toList_inj]
    rcases list with rfl | rfl
    · simp [Test.text, Test.words, parametersAfter_text]
    · simp [Test.text, Test.words, parametersAfter_text]
  · simp [Test.text, Test.words, parameterAt_text, placeholders, List.range'_succ, join,
      String.append_assoc]
  · rcases isNull with rfl | rfl
    · simp [Test.text, Test.words, String.append_assoc]
    · simp [Test.text, Test.words, String.append_assoc]

theorem test_plain (resolver : DirectColumnResolver) (operator : String) (value : Dynamic)
    (values : List Dynamic) (bound : resolver.bound operator value = .ok values) (start : Nat) :
    (resolver.test operator start values.length).Plain := by
  have plain := parameterAt_plain resolver.fieldType
  unfold DirectColumnResolver.test
  rcases direct_bound_cases resolver operator value values bound with
    ⟨comparison, argument, found, rfl⟩ | ⟨found, cases⟩
  · rw [found]
    exact plain _
  rw [found]
  rcases cases with ⟨list, some⟩ | ⟨rfl, low, high, rfl⟩ | ⟨isNull, rfl⟩
  · simp only [if_pos list]
    refine ⟨?_, fun parameter member => ?_⟩
    · simpa [parametersAfter] using some
    · obtain ⟨position, -, rfl⟩ := List.mem_map.mp member
      exact plain position
  · exact ⟨plain _, plain _⟩
  · rcases isNull with rfl | rfl
    · trivial
    · trivial

end Fragments

/-! ### What a request asks of a row -/

/-- A row of a database: the values of its columns, where one without a value is `NULL`, and what
the comparisons mean; a text matches a pattern as `ILIKE` does. -/
structure Cells (Value : Type) where
  value : List Token → Option Value
  holds : Comparison → Value → Dynamic → Option String → Bool
  text : Value → String
  same : Char → Char → Bool
  ilike : ∀ value pattern, holds .ilike value (.string pattern) none =
    likeMatches same pattern.toList (text value).toList

section Meaning

variable {Value : Type} (cells : Cells Value)

/-- The row seen by a query with arguments. -/
def Cells.under (args : List Dynamic) : Interpretation Value Dynamic :=
  ⟨cells.value, boundTo args, cells.holds⟩

/-- What an operator asks of a value. -/
def Cells.asks (type : Option String) (operator : String) (values : List Dynamic)
    (value : Value) : Bool :=
  match operator with
  | "eq" => values.all fun argument => cells.holds .eq value argument type
  | "ne" => values.all fun argument => cells.holds .ne value argument type
  | "gt" => values.all fun argument => cells.holds .gt value argument type
  | "gte" => values.all fun argument => cells.holds .gte value argument type
  | "lt" => values.all fun argument => cells.holds .lt value argument type
  | "lte" => values.all fun argument => cells.holds .lte value argument type
  | "like" => values.all fun argument => cells.holds .like value argument type
  | "ilike" => values.all fun argument => cells.holds .ilike value argument type
  | "not_like" => values.all fun argument => !cells.holds .like value argument type
  | "not_ilike" => values.all fun argument => !cells.holds .ilike value argument type
  | "in" => values.any fun argument => cells.holds .eq value argument type
  | "not_in" => values.all fun argument => !cells.holds .eq value argument type
  | "between" =>
    match values with
    | [low, high] => cells.holds .gte value low type && cells.holds .lte value high type
    | _ => false
  | "is_not_null" => true
  | _ => false

/-- What an operator asks of a column: `NULL` is what `is_null` asks for, and nothing else. -/
def Cells.Selected (column : String) (fieldType : FieldType) (operator : String)
    (values : List Dynamic) : Prop :=
  match cells.value (lex column) with
  | none => operator = "is_null"
  | some value => cells.asks fieldType.castType operator values value = true

/-- The values are bound after `start` others. -/
def BoundAfter (args : List Dynamic) (start : Nat) (values : List Dynamic) : Prop :=
  ∀ index value, values[index]? = some value →
    boundTo args (placeholder (start + index + 1)) = some value

theorem verdict_at (args : List Dynamic) (start : Nat) (values : List Dynamic)
    (bound : BoundAfter args start values) (comparison : Comparison) (fieldType : FieldType)
    (value : Value) (index : Nat) (argument : Dynamic) (found : values[index]? = some argument) :
    (cells.under args).verdict comparison (some value)
        (parameterAt fieldType (start + index + 1)) =
      if cells.holds comparison value argument fieldType.castType then .yes else .no :=
  verdict_some (cells.under args) comparison value _ argument (bound index argument found)

theorem verdicts_after (args : List Dynamic) (start : Nat) (values : List Dynamic)
    (bound : BoundAfter args start values) (fieldType : FieldType) (value : Value) :
    (parametersAfter fieldType start values.length).map
        ((cells.under args).verdict .eq (some value)) =
      values.map fun argument =>
        if cells.holds .eq value argument fieldType.castType then .yes else .no := by
  refine List.ext_getElem? fun index => ?_
  rw [parametersAfter, List.map_map, List.getElem?_map, List.getElem?_map]
  by_cases inside : index < values.length
  · have found : values[index]? = some values[index] := List.getElem?_eq_getElem inside
    rw [List.getElem?_range' inside, found, Option.map_some, Option.map_some]
    have position : start + 1 + 1 * index = start + index + 1 := by omega
    rw [Function.comp_apply, position]
    exact congrArg some (verdict_at cells args start values bound .eq fieldType value index _ found)
  · rw [List.getElem?_eq_none (by simpa using inside),
      List.getElem?_eq_none (by simpa using inside)]
    rfl

theorem compared_none (args : List Dynamic) (operator : Operator) (parameter : Parameter) :
    (cells.under args).compared operator none parameter = .unknown := by
  rcases operator with comparison | _ | _ <;> rfl

/-- A comparison is true of a value when the operator asks for it. -/
theorem compared_iff (args : List Dynamic) (start : Nat) (argument : Dynamic)
    (bound : BoundAfter args start [argument]) (fieldType : FieldType) (operator : String)
    (comparison : Operator) (found : comparisonOperators.lookup operator = some comparison)
    (value : Value) :
    (cells.under args).compared comparison (some value) (parameterAt fieldType (start + 1)) =
        .yes ↔ cells.asks fieldType.castType operator [argument] value = true := by
  have verdict (comparison : Comparison) :=
    verdict_at cells args start [argument] bound comparison fieldType value 0 argument rfl
  have member : (operator, comparison) ∈ comparisonOperators := by
    obtain ⟨before, after, table, -⟩ := List.lookup_eq_some_iff.mp found
    rw [table]
    exact List.mem_append_right _ List.mem_cons_self
  simp only [comparisonOperators, List.mem_cons, Prod.mk.injEq, List.not_mem_nil, or_false]
    at member
  rw [Nat.add_zero] at verdict
  rcases member with ⟨rfl, rfl⟩ | ⟨rfl, rfl⟩ | ⟨rfl, rfl⟩ | ⟨rfl, rfl⟩ | ⟨rfl, rfl⟩ | ⟨rfl, rfl⟩ |
    ⟨rfl, rfl⟩ | ⟨rfl, rfl⟩ | ⟨rfl, rfl⟩ | ⟨rfl, rfl⟩
  all_goals
    simp only [Interpretation.compared, verdict, Cells.asks, List.all_cons, List.all_nil,
      Bool.and_true]
    split_ifs with holds <;> simp_all [Truth.negate]

/-- Whether a value is among the bound ones. -/
theorem among_iff (args : List Dynamic) (start : Nat) (values : List Dynamic)
    (bound : BoundAfter args start values) (nonempty : values ≠ []) (fieldType : FieldType)
    (operator : String) (list : operator = "in" ∨ operator = "not_in") (cell : Option Value) :
    (cells.under args).truthOf cell
        (.among (operator = "not_in") (parametersAfter fieldType start values.length)) = .yes ↔
      match cell with
      | none => operator = "is_null"
      | some value => cells.asks fieldType.castType operator values value = true := by
  rw [Interpretation.truthOf]
  cases cell with
  | none =>
    have unknown : Truth.any ((parametersAfter fieldType start values.length).map
        ((cells.under args).verdict .eq none)) = .unknown := by
      refine any_unknown _ (by simpa [parametersAfter] using nonempty) fun truth member => ?_
      obtain ⟨parameter, -, rfl⟩ := List.mem_map.mp member
      rfl
    rcases list with rfl | rfl
    · simp [unknown]
    · simp [unknown, Truth.negate]
  | some value =>
    rw [verdicts_after cells args start values bound]
    rcases list with rfl | rfl
    · simp [any_eq_yes, Cells.asks]
    · have negated (truth : Truth) : truth.negate = .yes ↔ truth = .no := by
        cases truth <;> simp [Truth.negate]
      simp [negated, any_eq_no, Cells.asks]

/-- Whether a value lies between two bound ones. -/
theorem between_iff (args : List Dynamic) (start : Nat) (low high : Dynamic)
    (bound : BoundAfter args start [low, high]) (fieldType : FieldType) (cell : Option Value) :
    (cells.under args).truthOf cell (.between (parameterAt fieldType (start + 1))
        (parameterAt fieldType (start + 2))) = .yes ↔
      match cell with
      | none => "between" = "is_null"
      | some value => cells.asks fieldType.castType "between" [low, high] value = true := by
  rw [Interpretation.truthOf]
  cases cell with
  | none => simp [verdict_none, Truth.both]
  | some value =>
    have lowVerdict := verdict_at cells args start _ bound .gte fieldType value 0 low rfl
    have highVerdict := verdict_at cells args start _ bound .lte fieldType value 1 high rfl
    rw [Nat.add_zero] at lowVerdict
    rw [lowVerdict, highVerdict]
    simp only [Cells.asks, Bool.and_eq_true]
    split_ifs with above below <;> simp_all [Truth.both]

/-- The test of a filter is true of a column exactly when the operator asks for its value. -/
theorem truthOf_test_iff [Formatting] [TimeParsing] (args : List Dynamic) (start : Nat)
    (resolver : DirectColumnResolver) (operator : String) (value : Dynamic)
    (values : List Dynamic) (coerced : resolver.bound operator value = .ok values)
    (bound : BoundAfter args start values) :
    (cells.under args).truthOf (cells.value (lex resolver.column))
        (resolver.test operator start values.length) = .yes ↔
      cells.Selected resolver.column resolver.fieldType operator values := by
  unfold DirectColumnResolver.test Cells.Selected
  generalize cells.value (lex resolver.column) = cell
  rcases direct_bound_cases resolver operator value values coerced with
    ⟨comparison, argument, found, rfl⟩ | ⟨found, cases⟩
  · rw [found]
    cases cell with
    | none =>
      refine iff_of_false ?_ ?_
      · simp [Interpretation.truthOf, compared_none]
      · rintro rfl
        cases found
    | some cell => exact compared_iff cells args start argument bound _ operator _ found cell
  rw [found]
  rcases cases with ⟨list, nonempty⟩ | ⟨rfl, low, high, rfl⟩ | ⟨isNull, rfl⟩
  · simp only [if_pos list]
    exact among_iff cells args start values bound nonempty _ operator list cell
  · exact between_iff cells args start low high bound _ cell
  · rcases isNull with rfl | rfl
    · cases cell <;> simp [Interpretation.truthOf, Cells.asks]
    · cases cell <;> simp [Interpretation.truthOf, Cells.asks]

/-! ### Filters -/

/-- Every field has the default resolver and a column that can be compared, and so has the
tenant. -/
structure ResourceConfig.Direct (config : ResourceConfig) : Prop where
  resolver : ∀ name field, config.fields.lookup name = some field → field.resolver = none
  column : ∀ name field, config.fields.lookup name = some field → IsColumn field.column
  tenant : config.tenantColumn ≠ "" → IsColumn config.tenantColumn

theorem direct_of_entries (config : ResourceConfig)
    (entries : ∀ entry ∈ config.fields.entries,
      entry.2.resolver.isNone = true ∧ IsColumn entry.2.column)
    (tenant : config.tenantColumn ≠ "" → IsColumn config.tenantColumn) : config.Direct where
  resolver name field found :=
    Option.isNone_iff_eq_none.mp (entries ⟨name, field⟩ (AList.mem_lookup_iff.mp found)).1
  column name field found := (entries ⟨name, field⟩ (AList.mem_lookup_iff.mp found)).2
  tenant := tenant

theorem ResourceConfig.Direct.static {config : ResourceConfig} (direct : config.Direct) :
    config.Static := by
  intro name field found
  simp [FieldConfig.static, direct.resolver name field found]

theorem boundAfter_append (before values after : List Dynamic) :
    BoundAfter (before ++ values ++ after) before.length values := by
  intro index value found
  obtain ⟨inside, -⟩ := List.getElem?_eq_some_iff.mp found
  rw [boundTo_placeholder, List.append_assoc, List.getElem?_append_right (Nat.le_add_right _ _),
    Nat.add_sub_cancel_left, List.getElem?_append_left inside, found]

section Filters

variable [CaseMapping] [Formatting] [TimeParsing]

/-- The values of a filter are coerced to the type of its field, and the value of the column is one
that the operator asks for. -/
def Cells.Meets (config : ResourceConfig) (filter : FilterParameter) : Prop :=
  let operator := CaseMapping.toLower filter.operator
  ∃ field values, config.fields.lookup filter.field = some field ∧
    DirectColumnResolver.bound ⟨field.column, field.fieldType, filter.field⟩ operator
      filter.value = .ok values ∧
    cells.Selected field.column field.fieldType operator values

/-- The text of a filter is read as one condition, which is satisfied when the filter is met. -/
theorem filter_text (config : ResourceConfig) (direct : config.Direct) (filter : FilterParameter)
    (bound : BoundFilter) (binds : config.bindFilter filter = some bound)
    (before after : List Dynamic) :
    bound.text before.length ≠ "" ∧ WellFormed (bound.text before.length) ∧
      SingleAlternative (lex (bound.text before.length)) ∧
      (Satisfies (cells.under (before ++ bound.values ++ after)).row (bound.text before.length) ↔
        cells.Meets config filter) := by
  obtain ⟨field, found, static, isOperator, coerced⟩ := bindFilter_cases config filter bound binds
  obtain ⟨resolver, operator, values⟩ := bound
  rw [FieldConfig.static, direct.resolver _ field found] at static
  obtain rfl := Option.some_inj.mp static
  obtain rfl : operator = _ := isOperator
  have plain := test_plain _ _ _ values coerced before.length
  have isColumn := direct.column _ field found
  have text := fragmentText_eq _ _ _ values coerced before.length
  have wellFormed := wellFormed_test field.column isColumn _ plain
  have meets : cells.Meets config filter ↔ cells.Selected field.column field.fieldType
      (CaseMapping.toLower filter.operator) values := by
    constructor
    · rintro ⟨other, others, foundOther, coercedOthers, selected⟩
      obtain rfl := Option.some_inj.mp (found.symm.trans foundOther)
      obtain rfl := Except.ok.inj (coerced.symm.trans coercedOthers)
      exact selected
    · exact fun selected => ⟨field, values, found, coerced, selected⟩
  simp only [BoundFilter.text, StaticResolver.fragmentText, text]
  refine ⟨?_, wellFormed.1, wellFormed.2, ?_⟩
  · simp [Test.text]
  · rw [satisfies_test _ field.column isColumn _ plain, meets]
    exact truthOf_test_iff cells _ _ _ _ _ values coerced (boundAfter_append before values after)

/-- The texts of the filters are satisfied together when every filter is met. -/
theorem filterTexts_iff (config : ResourceConfig) (direct : config.Direct)
    (filters : List FilterParameter) (bound : List BoundFilter)
    (binds : List.Forall₂ (fun filter bound => config.bindFilter filter = some bound)
      filters bound) (before : List Dynamic) :
    (∀ text ∈ filterTexts before.length bound,
        WellFormed text ∧ SingleAlternative (lex text)) ∧
      ((∀ text ∈ filterTexts before.length bound, Satisfies
          (cells.under (before ++ bound.flatMap BoundFilter.values)).row text) ↔
        ∀ filter ∈ filters, cells.Meets config filter) := by
  induction binds generalizing before with
  | nil => simp [filterTexts]
  | @cons filter first filters others bindsFirst bindsOthers inductionHypothesis =>
    obtain ⟨nonempty, wellFormed, single, meets⟩ := filter_text cells config direct filter first
      bindsFirst before (others.flatMap BoundFilter.values)
    have later := inductionHypothesis (before ++ first.values)
    rw [List.length_append] at later
    rw [filterTexts, if_pos nonempty, List.flatMap_cons, ← List.append_assoc]
    simp only [List.singleton_append, List.forall_mem_cons]
    exact ⟨⟨⟨wellFormed, single⟩, later.1⟩, and_congr meets later.2⟩

end Filters

/-! ### The tenant and the terms -/

theorem isOperand_of_isColumn (column : String) (isColumn : IsColumn column) :
    IsOperand column :=
  ⟨isColumn.endsPlain, isColumn.comparable.toOperand, isColumn.comparable.positive⟩

/-- One comparison of a column with one bound value. -/
theorem satisfies_compare (args : List Dynamic) (start : Nat) (argument : Dynamic)
    (bound : BoundAfter args start [argument]) (column : String) (isColumn : IsColumn column)
    (comparison : Comparison) :
    let test := Test.compare (.plain comparison) (parameterAt .string (start + 1))
    (WellFormed (test.text column) ∧ SingleAlternative (lex (test.text column))) ∧
      (Satisfies (cells.under args).row (test.text column) ↔
        ∃ value, cells.value (lex column) = some value ∧
          cells.holds comparison value argument none = true) := by
  intro test
  have plain : test.Plain := parameterAt_plain .string (start + 1)
  refine ⟨wellFormed_test column isColumn test plain, ?_⟩
  rw [satisfies_test _ column isColumn test plain]
  have verdict (value : Value) :=
    verdict_at cells args start [argument] bound comparison .string value 0 argument rfl
  cases found : cells.value (lex column) with
  | none => simp [test, Cells.under, found, Interpretation.truthOf, Interpretation.compared,
      verdict_none]
  | some value =>
    have isTrue : (cells.under args).truthOf ((cells.under args).value (lex column)) test =
        if cells.holds comparison value argument none then .yes else .no := by
      rw [show (cells.under args).value (lex column) = some value from found]
      exact verdict value
    rw [isTrue]
    simp

/-- The term, read as a wildcard expression, matches the value of a searchable column. -/
def Cells.Finds (config : ResourceConfig) (term : String) : Prop :=
  ∃ name field value, config.fields.lookup name = some field ∧ field.searchable = true ∧
    cells.value (lex field.column) = some value ∧
    wildcardMatches cells.same term.toList (cells.text value).toList = true

theorem mem_searchColumns (config : ResourceConfig) (direct : config.Direct)
    (order : List (GoMap.Entry String FieldConfig)) (visits : config.fields.Visits order)
    (column : String) :
    column ∈ searchColumns order ↔ ∃ name field, config.fields.lookup name = some field ∧
      field.searchable = true ∧ field.column = column := by
  rw [searchColumns, mem_sortStrings, List.mem_map]
  constructor
  · rintro ⟨entry, isEntry, rfl⟩
    obtain ⟨member, chosen⟩ := List.mem_filter.mp isEntry
    have inMap := (visits.mem_iff entry).mp member
    rw [Bool.and_eq_true] at chosen
    exact ⟨entry.1, entry.2, AList.mem_lookup_iff.mpr inMap, chosen.1, rfl⟩
  · rintro ⟨name, field, found, searchable, rfl⟩
    refine ⟨⟨name, field⟩, List.mem_filter.mpr ⟨?_, ?_⟩, rfl⟩
    · exact (visits.mem_iff _).mpr (AList.mem_lookup_iff.mp found)
    · have nonempty : field.column ≠ "" := by
        intro empty
        have isColumn := direct.column name field found
        rw [empty] at isColumn
        exact isColumn.comparable.nonempty rfl
      simp [searchable, nonempty]

/-- The condition of one term is satisfied when the term finds the row. -/
theorem satisfies_term (columns : List String) (searchable : columns ≠ [])
    (areColumns : ∀ column ∈ columns, IsColumn column) (args : List Dynamic) (index : Nat)
    (term : String)
    (found : boundTo args (placeholder (index + 1)) = some (.string (wildcardToLike term))) :
    Satisfies (cells.under args).row (termCondition columns (placeholder (index + 1))) ↔
      ∃ column ∈ columns, ∃ value, cells.value (lex column) = some value ∧
        wildcardMatches cells.same term.toList (cells.text value).toList = true := by
  have closed := comparisons_closed columns
    (fun column isIn => isOperand_of_isColumn column (areColumns column isIn)) (index + 1)
  have bound : BoundAfter args index [.string (wildcardToLike term)] := by
    intro offset value isValue
    obtain ⟨rfl, rfl⟩ : offset = 0 ∧ .string (wildcardToLike term) = value := by
      cases offset <;> simp_all
    exact found
  rw [termCondition, satisfies_parens _ _ (closed_join_or _ closed),
    satisfies_join_or_iff _ _ (by simpa using searchable) closed]
  simp only [List.mem_map, exists_exists_and_eq_and]
  refine exists_congr fun column => and_congr_right fun isIn => ?_
  have text : column ++ " ILIKE " ++ placeholder (index + 1) =
      (Test.compare (.plain .ilike) (parameterAt .string (index + 1))).text column := by
    simp [Test.text, Test.words, parameterAt_text, FieldType.cast, Operator.text,
      String.append_assoc]
  rw [text, (satisfies_compare cells args index _ bound column (areColumns column isIn) .ilike).2]
  simp only [cells.ilike, wildcardToLike, translateWildcard_pattern, likeMatches_translate]

/-- The text of the terms is satisfied when there is none, or one of them finds the row. -/
theorem termsText_iff (columns terms : List String) (searchable : columns ≠ [])
    (areColumns : ∀ column ∈ columns, IsColumn column) (used : terms ≠ [])
    (before after : List Dynamic) :
    let text := termsText columns before.length terms.length
    let args := before ++ (terms.map fun term => .string (wildcardToLike term)) ++ after
    text ≠ "" ∧ (WellFormed text ∧ SingleAlternative (lex text)) ∧
      (Satisfies (cells.under args).row text ↔ ∃ term ∈ terms, ∃ column ∈ columns,
        ∃ value, cells.value (lex column) = some value ∧
          wildcardMatches cells.same term.toList (cells.text value).toList = true) := by
  intro text args
  have isText : text = "(" ++ join " OR " ((placeholders before.length terms.length).map
      (termCondition columns)) ++ ")" := by
    simp [text, termsText, searchable, used]
  have operands : ∀ column ∈ columns, IsOperand column := fun column isIn =>
    isOperand_of_isColumn column (areColumns column isIn)
  have closed := termConditions_closed columns operands before.length terms.length
  have closedJoin := closed_join_or _ closed
  have texts : (placeholders before.length terms.length).map (termCondition columns) ≠ [] := by
    simp [placeholders, used]
  have one (index : Nat) (term : String) (found : terms[index]? = some term) :=
    satisfies_term cells columns searchable areColumns args (before.length + index) term
      (boundAfter_append before _ after index _ (by rw [List.getElem?_map, found]; rfl))
  rw [isText]
  refine ⟨by simp, ⟨(closed_parens _ closedJoin).toWellFormed, ?_⟩, ?_⟩
  · rw [lex_parens _ closedJoin.endsPlain]
    exact single_of_operand _ (operand_group _ closedJoin.pairs)
  · rw [satisfies_parens _ _ closedJoin, satisfies_join_or_iff _ _ texts closed]
    simp only [List.mem_map, exists_exists_and_eq_and]
    constructor
    · rintro ⟨name, isName, satisfied⟩
      obtain ⟨position, above, below, rfl⟩ := (mem_placeholders _ _ name).mp isName
      obtain ⟨index, rfl⟩ : ∃ index, position = before.length + index + 1 :=
        ⟨position - before.length - 1, by omega⟩
      have found : terms[index]? = some terms[index] := List.getElem?_eq_getElem (by omega)
      exact ⟨_, List.mem_of_getElem? found, (one index _ found).mp satisfied⟩
    · rintro ⟨term, member, finds⟩
      obtain ⟨index, found⟩ := List.mem_iff_getElem?.mp member
      obtain ⟨below, -⟩ := List.getElem?_eq_some_iff.mp found
      exact ⟨_, (mem_placeholders _ _ _).mpr ⟨_, by omega, by omega, rfl⟩,
        (one index term found).mpr finds⟩

/-- What a compilation writes for the terms of a request. -/
theorem termTexts_iff (config : ResourceConfig) (direct : config.Direct)
    (order : List (GoMap.Entry String FieldConfig)) (visits : config.fields.Visits order)
    (terms : List String) (before after : List Dynamic) :
    let text := termsText (searchColumns order) before.length (effectiveTerms terms).length
    (∀ part ∈ if text ≠ "" then [text] else [],
        WellFormed part ∧ SingleAlternative (lex part)) ∧
      ((∀ part ∈ if text ≠ "" then [text] else [], Satisfies (cells.under
          (before ++ termValues (searchColumns order) terms ++ after)).row part) ↔
        ((∃ name field, config.fields.lookup name = some field ∧ field.searchable = true) →
          effectiveTerms terms ≠ [] → ∃ term ∈ effectiveTerms terms, cells.Finds config term)) := by
  intro text
  have isColumn := mem_searchColumns config direct order visits
  by_cases unused : searchColumns order = [] ∨ effectiveTerms terms = []
  · have empty : text = "" := if_pos (unused.imp_right List.length_eq_zero_iff.mpr)
    rw [if_neg (not_not.mpr empty)]
    refine ⟨by simp, iff_of_true (by simp) ?_⟩
    rintro ⟨name, field, found, searchable⟩ used
    rcases unused with none | none
    · have member := (isColumn field.column).mpr ⟨name, field, found, searchable, rfl⟩
      rw [none] at member
      cases member
    · exact absurd none used
  rw [not_or] at unused
  obtain ⟨searchable, used⟩ := unused
  have areColumns : ∀ column ∈ searchColumns order, IsColumn column := by
    intro column member
    obtain ⟨name, field, found, -, rfl⟩ := (isColumn column).mp member
    exact direct.column name field found
  obtain ⟨nonempty, wellFormed, satisfied⟩ := termsText_iff cells _ _ searchable areColumns used
    before after
  have finds (term : String) : (∃ column ∈ searchColumns order, ∃ value,
      cells.value (lex column) = some value ∧
        wildcardMatches cells.same term.toList (cells.text value).toList = true) ↔
      cells.Finds config term := by
    constructor
    · rintro ⟨column, member, value, holds⟩
      obtain ⟨name, field, found, isSearchable, rfl⟩ := (isColumn column).mp member
      exact ⟨name, field, value, found, isSearchable, holds⟩
    · rintro ⟨name, field, value, found, isSearchable, holds⟩
      exact ⟨_, (isColumn _).mpr ⟨name, field, found, isSearchable, rfl⟩, value, holds⟩
  have exists_field : ∃ name field, config.fields.lookup name = some field ∧
      field.searchable = true := by
    obtain ⟨column, member⟩ := List.exists_mem_of_ne_nil _ searchable
    obtain ⟨name, field, found, isSearchable, -⟩ := (isColumn column).mp member
    exact ⟨name, field, found, isSearchable⟩
  rw [if_pos nonempty, termValues, if_neg searchable]
  simp only [List.forall_mem_singleton]
  refine ⟨wellFormed, satisfied.trans ?_⟩
  simp only [finds, exists_field, used, true_implies, ne_eq, not_false_eq_true]

/-- The tenant's text is satisfied by the rows of the tenant. -/
theorem tenantTexts_iff (config : ResourceConfig) (direct : config.Direct)
    (state : CompileState) (after : List Dynamic) :
    (∀ text ∈ config.tenantTexts (config.tenanted state),
        WellFormed text ∧ SingleAlternative (lex text)) ∧
      ((∀ text ∈ config.tenantTexts (config.tenanted state),
          Satisfies (cells.under (config.tenantValues state ++ after)).row text) ↔
        (config.tenanted state = true → ∃ value,
          cells.value (lex config.tenantColumn) = some value ∧
            cells.holds .eq value (.string state.tenantValue) none = true)) := by
  cases tenanted : config.tenanted state with
  | false => simp [ResourceConfig.tenantTexts]
  | true =>
    have isColumn : IsColumn config.tenantColumn := by
      rw [ResourceConfig.tenanted, Bool.and_eq_true] at tenanted
      exact direct.tenant (of_decide_eq_true tenanted.1)
    have bound := boundAfter_append [] [.string state.tenantValue] after
    have text : config.tenantColumn ++ " = " ++ placeholder 1 =
        (Test.compare (.plain .eq) (parameterAt .string (0 + 1))).text config.tenantColumn := by
      simp [Test.text, Test.words, parameterAt_text, FieldType.cast, Operator.text,
        String.append_assoc]
    obtain ⟨wellFormed, satisfied⟩ := satisfies_compare cells _ 0 _ bound _ isColumn .eq
    rw [← text] at wellFormed satisfied
    simp only [ResourceConfig.tenantTexts, ResourceConfig.tenantValues, tenanted, if_true,
      List.forall_mem_singleton, true_implies]
    exact ⟨wellFormed, satisfied⟩

/-! ### The whole query -/

section Query

variable [CaseMapping] [Formatting] [TimeParsing]

/-- What a request asks of a row: its tenant is the given one, if there is one; one of the terms
finds it, if there are terms and searchable columns; and it meets every filter. -/
structure Cells.Matches (config : ResourceConfig) (state : CompileState)
    (request : RequestBody) : Prop where
  tenant : config.tenanted state = true → ∃ value,
    cells.value (lex config.tenantColumn) = some value ∧
      cells.holds .eq value (.string state.tenantValue) none = true
  terms : (∃ name field, config.fields.lookup name = some field ∧ field.searchable = true) →
    effectiveTerms request.searchTerms ≠ [] →
      ∃ term ∈ effectiveTerms request.searchTerms, cells.Finds config term
  filters : ∀ filter ∈ request.filters, cells.Meets config filter

/-- The condition of a compiled query is satisfied by exactly the rows that the request asks for,
in whichever order the fields were visited and whatever the comparisons of the database mean. -/
theorem compile_meaning (config : ResourceConfig) (direct : config.Direct)
    (order : List (GoMap.Entry String FieldConfig)) (visits : config.fields.Visits order)
    (request : RequestBody) (options : List CompileOption) (query : CompiledQuery)
    (compiled : config.compile order request options = .ok query) :
    Satisfies (cells.under query.args).row query.whereClause ↔
      cells.Matches config (compileState options) request := by
  obtain ⟨bound, spec⟩ := compile_spec config direct.static order request options query compiled
  let state := compileState options
  let before := config.tenantValues state ++ termValues (searchColumns order) request.searchTerms
  have tenant := tenantTexts_iff cells config direct state
    (termValues (searchColumns order) request.searchTerms ++ bound.flatMap BoundFilter.values)
  have terms := termTexts_iff cells config direct order visits request.searchTerms
    (config.tenantValues state) (bound.flatMap BoundFilter.values)
  have filters := filterTexts_iff cells config direct request.filters bound spec.filters before
  rw [← List.append_assoc, ← spec.args] at tenant
  rw [← spec.args, length_tenantValues] at terms
  rw [← spec.args, List.length_append, length_tenantValues, length_termValues] at filters
  obtain ⟨tenantWhole, tenantMeaning⟩ := tenant
  obtain ⟨termsWhole, termsMeaning⟩ := terms
  obtain ⟨filtersWhole, filtersMeaning⟩ := filters
  have whole : ∀ text ∈ config.conditionTexts (searchColumns order) (config.tenanted state)
      (effectiveTerms request.searchTerms).length bound,
      WellFormed text ∧ SingleAlternative (lex text) := by
    simp only [ResourceConfig.conditionTexts, List.forall_mem_append]
    exact ⟨⟨tenantWhole, termsWhole⟩, filtersWhole⟩
  rw [spec.whereClause, satisfies_join_iff _ _ (fun text member => (whole text member).1)
    fun text member => (whole text member).2]
  simp only [ResourceConfig.conditionTexts, List.forall_mem_append]
  rw [tenantMeaning, termsMeaning, filtersMeaning]
  constructor
  · rintro ⟨⟨tenant, terms⟩, filters⟩
    exact ⟨tenant, terms, filters⟩
  · rintro ⟨tenant, terms, filters⟩
    exact ⟨⟨tenant, terms⟩, filters⟩

end Query

end Meaning

/-- Orders of several tenants, by name, status and total. -/
def ordersConfig : ResourceConfig where
  name := "orders"
  fields := AList.insert "name" ⟨.string, "o.name", [], true, true, none⟩
    (AList.insert "status" ⟨.string, "o.status", [], true, false, none⟩
      (AList.insert "total" ⟨.int, "o.total", [], true, false, none⟩ ∅))
  defaultSort := ⟨"name", "asc"⟩
  tenantColumn := "o.tenant_id"
  maxPageSize := 50
  maxBulkTerms := 5

def ordersRequest : RequestBody :=
  ⟨["ac*"], [⟨"status", "IS_NULL", .nil⟩, ⟨"total", "between", .string "10, 20"⟩], [], ⟨0, 0⟩⟩

def dynamicText : Dynamic → String
  | .string text => text
  | _ => ""

/-- Texts and integers are compared as they are. -/
def orderHolds (comparison : Comparison) (value argument : Dynamic) : Bool :=
  match comparison, value, argument with
  | .ilike, value, .string pattern =>
    likeMatches ignoringCase pattern.toList (dynamicText value).toList
  | .eq, .string first, .string second => first = second
  | .gte, .int64 first, .int64 second => second ≤ first
  | .lte, .int64 first, .int64 second => first ≤ second
  | _, _, _ => false

/-- An order that has no status yet. -/
def orderRow (tenant : String) : Cells Dynamic where
  value tokens :=
    if tokens = lex "o.tenant_id" then some (.string tenant)
    else if tokens = lex "o.name" then some (.string "Acme")
    else if tokens = lex "o.total" then some (.int64 15)
    else none
  holds comparison value argument _ := orderHolds comparison value argument
  text := dynamicText
  same := ignoringCase
  ilike _ _ := rfl

/-- The order is what its own tenant asks for, and what no other does. -/
theorem orders_asked :
    @Cells.Matches Dynamic (orderRow "t-1") asciiCase asciiFormatting noTimes ordersConfig
        (compileState [.withTenant "t-1"]) ordersRequest ∧
      ¬@Cells.Matches Dynamic (orderRow "t-2") asciiCase asciiFormatting noTimes ordersConfig
        (compileState [.withTenant "t-1"]) ordersRequest := by
  obtain ⟨query, compiled, accepted⟩ := exists_of_any (@ResourceConfig.compile asciiCase
    asciiFormatting noTimes ordersConfig ordersConfig.fields.entries ordersRequest
    [.withTenant "t-1"])
    (fun query => Satisfies ((orderRow "t-1").under query.args).row query.whereClause ∧
      ¬Satisfies ((orderRow "t-2").under query.args).row query.whereClause) (by decide +kernel)
  obtain ⟨own, other⟩ := of_decide_eq_true accepted
  have direct : ordersConfig.Direct :=
    direct_of_entries ordersConfig (by decide +kernel) (by decide +kernel)
  have meaning (tenant : String) := @compile_meaning Dynamic (orderRow tenant) asciiCase
    asciiFormatting noTimes ordersConfig direct ordersConfig.fields.entries (List.Perm.refl _)
    ordersRequest [.withTenant "t-1"] query compiled
  exact ⟨(meaning "t-1").mp own, fun asked => other ((meaning "t-2").mpr asked)⟩

end SharedGo.Search
