/-
This file is about what a free-text search accepts. A row gives each searchable
column a value, and a condition `column ILIKE $n` compares it with the pattern
that is bound at the position; so the text that is built accepts a row when one of
the used terms, read as a wildcard expression, matches one of the columns. Terms
that consist of wildcards are not used, although the terms are alternatives of
each other. The main theorem says when this changes nothing.
-/

import SharedGo.CompileText
import SharedGo.Grouping

namespace SharedGo.Search

open SharedGo Text NumberedText Sql

/-! ### Reading one comparison -/

/-- The text of a column is read as one operand. -/
structure IsOperand (column : String) : Prop where
  endsPlain : EndsPlain column
  operand : Operand (lex column)
  positive : ∀ token ∈ (lex column).head?, token.isKeyword "NOT" = false

instance (column : String) : Decidable (IsOperand column) :=
  decidable_of_iff (EndsPlain column ∧ Operand (lex column) ∧
      ∀ token ∈ (lex column).head?, token.isKeyword "NOT" = false)
    ⟨fun ⟨endsPlain, operand, positive⟩ => ⟨endsPlain, operand, positive⟩,
      fun ⟨endsPlain, operand, positive⟩ => ⟨endsPlain, operand, positive⟩⟩

theorem reads_placeholder (position : Nat) :
    Reads (placeholder position) [.word (placeholder position)] := by
  obtain ⟨digits, chars, _, all⟩ := placeholder_chars position
  exact reads_parameter_name _ digits chars all

/-- A placeholder is no keyword. -/
theorem isKeyword_placeholder (position : Nat) :
    ∀ keyword ∈ keywords, (Token.word (placeholder position)).isKeyword keyword = false := by
  have other : ∀ keyword ∈ keywords, keyword.toList.head? ≠ some '$' := by decide
  obtain ⟨digits, chars, _, _⟩ := placeholder_chars position
  intro keyword member
  rw [Token.isKeyword, chars]
  refine decide_eq_false fun equal => other keyword member ?_
  rw [← equal]
  rfl

/-- The tokens of a comparison. -/
def comparison (column : String) (position : Nat) : List Token :=
  lex column ++ [.word "ILIKE"] ++ [.word (placeholder position)]

theorem lex_comparison (column : String) (position : Nat) (plain : EndsPlain column) :
    lex (column ++ " ILIKE " ++ placeholder position) = comparison column position := by
  have tokens := lex_spaced column "ILIKE" (placeholder position) plain (by decide)
  rw [(reads_placeholder position).lex, ← List.append_assoc] at tokens
  exact tokens

theorem operand_comparison (column : String) (position : Nat) (operand : Operand (lex column)) :
    Operand (comparison column position) := by
  refine operand_snoc _ _ (operand_snoc _ _ operand ?_) ?_
  · exact neutral_word "ILIKE" (by decide)
  · exact neutral_word _ (isKeyword_placeholder position)

theorem closed_comparison (column : String) (position : Nat) (isOperand : IsOperand column) :
    Closed (column ++ " ILIKE " ++ placeholder position) := by
  have tokens := lex_comparison column position isOperand.endsPlain
  have operand := operand_comparison column position isOperand.operand
  refine ⟨⟨endsPlain_spaced column "ILIKE" (placeholder position) isOperand.endsPlain
    (by decide) (reads_placeholder position).endsPlain, ?_⟩, ?_⟩
  · rw [tokens]
    exact operand.outside
  · rw [tokens]
    exact operand.pairs

theorem satisfies_comparison (row : Row) (column : String) (position : Nat)
    (isOperand : IsOperand column) :
    Satisfies row (column ++ " ILIKE " ++ placeholder position) ↔
      row (comparison column position) = .yes := by
  have operand := operand_comparison column position isOperand.operand
  rw [Satisfies, lex_comparison column position isOperand.endsPlain,
    truth_operand row _ operand, primary_atom]
  · simp [comparison]
  · intro token first
    cases tokens : lex column with
    | nil =>
      rw [comparison, tokens] at first
      obtain rfl := Option.some_inj.mp first
      decide
    | cons head rest =>
      rw [comparison, tokens] at first
      obtain rfl := Option.some_inj.mp first
      exact isOperand.positive head (by rw [tokens]; rfl)
  · rw [comparison, List.getLast?_concat]
    simp

/-! ### The rows of a search -/

/-- The argument a placeholder stands for. -/
def boundTo (args : List Dynamic) (name : String) : Option Dynamic :=
  ((placeholders 0 args.length).zip args).lookup name

/-- A row of column values: a comparison is true when the value of its operand matches the bound
pattern. -/
def ilikeRow (same : Char → Char → Bool) (values : List Token → String) (args : List Dynamic) :
    Row := fun tokens =>
  match tokens.reverse with
  | .word name :: .word "ILIKE" :: operand =>
    match boundTo args name with
    | some (.string pattern) =>
      if likeMatches same pattern.toList (values operand.reverse).toList then .yes else .no
    | _ => .unknown
  | _ => .unknown

theorem lookup_placeholders (start index : Nat) (args : List Dynamic) :
    ((placeholders start args.length).zip args).lookup (placeholder (start + index + 1)) =
      args[index]? := by
  induction args generalizing start index with
  | nil => rfl
  | cons value rest inductionHypothesis =>
    have names : placeholders start (rest.length + 1) =
        placeholder (start + 1) :: placeholders (start + 1) rest.length := by
      simp [placeholders, List.range'_succ]
    rw [List.length_cons, names, List.zip_cons_cons, List.lookup_cons]
    cases index with
    | zero => simp
    | succ index =>
      have other : (placeholder (start + (index + 1) + 1) == placeholder (start + 1)) = false := by
        rw [beq_eq_false_iff_ne]
        intro equal
        have positions := placeholder_injective equal
        omega
      rw [other, List.getElem?_cons_succ, ← inductionHypothesis (start + 1) index,
        Nat.add_right_comm start 1 index]
      rfl

theorem boundTo_placeholder (args : List Dynamic) (index : Nat) :
    boundTo args (placeholder (index + 1)) = args[index]? := by
  have found := lookup_placeholders 0 index args
  rwa [Nat.zero_add] at found

/-- A column is compared with the pattern at the position. -/
theorem satisfies_ilikeRow (same : Char → Char → Bool) (values : List Token → String)
    (args : List Dynamic) (column pattern : String) (index : Nat)
    (isOperand : IsOperand column) (found : args[index]? = some (.string pattern)) :
    Satisfies (ilikeRow same values args) (column ++ " ILIKE " ++ placeholder (index + 1)) ↔
      likeMatches same pattern.toList (values (lex column)).toList = true := by
  rw [satisfies_comparison _ column (index + 1) isOperand]
  simp [ilikeRow, comparison, boundTo_placeholder, found]

section Terms

variable (same : Char → Char → Bool) (values : List Token → String)

/-- The term matches one of the columns as a wildcard expression. -/
def Found (columns : List String) (term : String) : Prop :=
  ∃ column ∈ columns, wildcardMatches same term.toList (values (lex column)).toList = true

instance (columns : List String) (term : String) : Decidable (Found same values columns term) :=
  inferInstanceAs (Decidable (∃ column ∈ columns, _))

/-- The condition that is built for the terms accepts the row. -/
def Accepts (columns terms : List String) (args : List Dynamic) : Prop :=
  Satisfies (ilikeRow same values ((buildSearchTerms columns terms).run args).2)
    ((buildSearchTerms columns terms).run args).1

instance (columns terms : List String) (args : List Dynamic) :
    Decidable (Accepts same values columns terms args) :=
  inferInstanceAs (Decidable (Satisfies _ _))

theorem comparisons_closed (columns : List String)
    (operands : ∀ column ∈ columns, IsOperand column) (position : Nat) :
    ∀ text ∈ columns.map fun column => column ++ " ILIKE " ++ placeholder position,
      Closed text := by
  intro text member
  obtain ⟨column, isColumn, rfl⟩ := List.mem_map.mp member
  exact closed_comparison column position (operands column isColumn)

theorem closed_termCondition (columns : List String)
    (operands : ∀ column ∈ columns, IsOperand column) (position : Nat) :
    Closed (termCondition columns (placeholder position)) :=
  closed_parens _ (closed_join_or _ (comparisons_closed columns operands position))

/-- The condition of one term accepts a row when the term matches one of the columns. -/
theorem satisfies_termCondition (columns : List String) (searchable : columns ≠ [])
    (operands : ∀ column ∈ columns, IsOperand column) (args : List Dynamic) (index : Nat)
    (term : String) (found : args[index]? = some (.string (wildcardToLike term))) :
    Satisfies (ilikeRow same values args) (termCondition columns (placeholder (index + 1))) ↔
      Found same values columns term := by
  have closed := comparisons_closed columns operands (index + 1)
  rw [termCondition, satisfies_parens _ _ (closed_join_or _ closed),
    satisfies_join_or_iff _ _ (by simpa using searchable) closed]
  simp only [List.mem_map, exists_exists_and_eq_and]
  refine exists_congr fun column => and_congr_right fun isColumn => ?_
  rw [satisfies_ilikeRow same values args column _ index (operands column isColumn) found,
    wildcardToLike, translateWildcard_pattern, likeMatches_translate]

theorem termConditions_closed (columns : List String)
    (operands : ∀ column ∈ columns, IsOperand column) (start count : Nat) :
    ∀ text ∈ (placeholders start count).map (termCondition columns), Closed text := by
  intro text member
  obtain ⟨name, isName, rfl⟩ := List.mem_map.mp member
  obtain ⟨position, _, _, rfl⟩ := (mem_placeholders start count name).mp isName
  exact closed_termCondition columns operands position

/-- The placeholders after some arguments stand for the terms that are bound after them. -/
theorem satisfies_terms (columns : List String) (searchable : columns ≠ [])
    (operands : ∀ column ∈ columns, IsOperand column) (terms : List String)
    (args : List Dynamic) :
    (∃ name ∈ placeholders args.length terms.length,
        Satisfies (ilikeRow same values
          (args ++ terms.map fun term => .string (wildcardToLike term)))
          (termCondition columns name)) ↔
      ∃ term ∈ terms, Found same values columns term := by
  have one (index : Nat) (term : String) (found : terms[index]? = some term) :=
    satisfies_termCondition same values columns searchable operands
      (args ++ terms.map fun term => .string (wildcardToLike term)) (args.length + index) term (by
        rw [List.getElem?_append_right (Nat.le_add_right _ _), Nat.add_sub_cancel_left,
          List.getElem?_map, found]
        rfl)
  constructor
  · rintro ⟨name, isName, satisfied⟩
    obtain ⟨position, above, below, rfl⟩ := (mem_placeholders _ _ name).mp isName
    obtain ⟨index, rfl⟩ : ∃ index, position = args.length + index + 1 :=
      ⟨position - args.length - 1, by omega⟩
    have found : terms[index]? = some terms[index] := List.getElem?_eq_getElem (by omega)
    exact ⟨_, List.mem_of_getElem? found, (one index _ found).mp satisfied⟩
  · rintro ⟨term, member, matched⟩
    obtain ⟨index, found⟩ := List.mem_iff_getElem?.mp member
    obtain ⟨below, -⟩ := List.getElem?_eq_some_iff.mp found
    exact ⟨placeholder (args.length + index + 1),
      (mem_placeholders _ _ _).mpr ⟨_, by omega, by omega, rfl⟩, (one index term found).mpr matched⟩

/-- The search accepts a row when there is no used term or one of them matches a column. -/
theorem accepts_iff (columns : List String) (searchable : columns ≠ [])
    (operands : ∀ column ∈ columns, IsOperand column) (terms : List String)
    (args : List Dynamic) :
    Accepts same values columns terms args ↔
      effectiveTerms terms = [] ∨
        ∃ term ∈ effectiveTerms terms, Found same values columns term := by
  rw [Accepts, buildSearchTerms_run, termsText, termValues]
  by_cases none : effectiveTerms terms = []
  · simp [none, satisfies_nil]
  have texts : (placeholders args.length (effectiveTerms terms).length).map
      (termCondition columns) ≠ [] := by
    simp [placeholders, none]
  have closed := termConditions_closed columns operands args.length (effectiveTerms terms).length
  rw [if_neg searchable, if_neg (by simp [searchable, none]),
    satisfies_parens _ _ (closed_join_or _ closed), satisfies_join_or_iff _ _ texts closed,
    or_iff_right none,
    ← satisfies_terms same values columns searchable operands (effectiveTerms terms) args]
  simp only [List.mem_map, exists_exists_and_eq_and]

/-! ### What the terms say -/

/-- The terms that are not blank. -/
def keptTerms (terms : List String) : List String := (terms.map trimSpace).filter (· ≠ "")

/-- The row is what the terms ask for. -/
def Asked (columns terms : List String) : Prop :=
  keptTerms terms = [] ∨ ∃ term ∈ keptTerms terms, Found same values columns term

instance (columns terms : List String) : Decidable (Asked same values columns terms) :=
  inferInstanceAs (Decidable (keptTerms terms = [] ∨ ∃ term ∈ keptTerms terms, _))

end Terms

theorem effectiveTerms_eq (terms : List String) :
    effectiveTerms terms = (keptTerms terms).filter fun term => !isAllWildcard term := by
  rw [effectiveTerms, keptTerms, List.filter_filter]
  refine List.filter_congr fun term _ => ?_
  rw [Bool.not_or, Bool.and_comm, decide_not]

theorem ne_empty_of_mem_keptTerms (terms : List String) (term : String)
    (member : term ∈ keptTerms terms) : term.toList ≠ [] := by
  rw [keptTerms, List.mem_filter] at member
  exact fun empty => of_decide_eq_true member.2 (String.toList_eq_nil_iff.mp empty)

theorem isAllWildcard_iff (term : String) :
    isAllWildcard term = true ↔ ∀ char ∈ term.toList, char = '*' ∨ char = '?' := by
  simp [isAllWildcard]

/-- No term consists of wildcards, or all do and one of them of stars only. -/
def WildcardsRedundant (terms : List String) : Prop :=
  (∀ term ∈ keptTerms terms, isAllWildcard term = false) ∨
    effectiveTerms terms = [] ∧ ∃ term ∈ keptTerms terms, ∀ char ∈ term.toList, char = '*'

instance (terms : List String) : Decidable (WildcardsRedundant terms) :=
  decidable_of_iff (((keptTerms terms).all fun term => !isAllWildcard term) = true ∨
      effectiveTerms terms = [] ∧
        ((keptTerms terms).any fun term => term.toList.all (· = '*')) = true)
    (by simp [WildcardsRedundant])

/-- A character that is in no text the terms match: each of them has a literal that is not the
same. -/
def Spare (same : Char → Char → Bool) (terms : List String) (spare : Char) : Prop :=
  ∀ term ∈ terms, ∃ literal ∈ term.toList, literal ≠ '*' ∧ literal ≠ '?' ∧
    same literal spare = false

instance (same : Char → Char → Bool) (terms : List String) :
    DecidablePred (Spare same terms) := fun spare =>
  decidable_of_iff ((terms.all fun term => term.toList.any fun literal =>
      literal ≠ '*' && literal ≠ '?' && !same literal spare) = true)
    (by simp [Spare, and_assoc])

theorem asked_of_redundant (same : Char → Char → Bool) (values : List Token → String)
    (columns : List String) (searchable : columns ≠ []) (terms : List String)
    (redundant : WildcardsRedundant terms) :
    (effectiveTerms terms = [] ∨
        ∃ term ∈ effectiveTerms terms, Found same values columns term) ↔
      Asked same values columns terms := by
  rcases redundant with ordinary | ⟨none, term, member, stars⟩
  · have all : effectiveTerms terms = keptTerms terms := by
      rw [effectiveTerms_eq, List.filter_eq_self]
      intro term member
      rw [ordinary term member, Bool.not_false]
    rw [Asked, all]
  · refine iff_of_true (.inl none) (.inr ⟨term, member, ?_⟩)
    obtain ⟨column, isColumn⟩ := List.exists_mem_of_ne_nil columns searchable
    exact ⟨column, isColumn, wildcardMatches_stars same _ _ stars
      (ne_empty_of_mem_keptTerms terms term member)⟩

theorem redundant_of_asked (same : Char → Char → Bool) (columns : List String)
    (searchable : columns ≠ []) (terms : List String) (spare : Char)
    (isSpare : Spare same (effectiveTerms terms) spare)
    (agree : ∀ values : List Token → String, (effectiveTerms terms = [] ∨
        ∃ term ∈ effectiveTerms terms, Found same values columns term) ↔
      Asked same values columns terms) :
    WildcardsRedundant terms := by
  by_cases ordinary : ∀ term ∈ keptTerms terms, isAllWildcard term = false
  · exact .inl ordinary
  obtain ⟨wildcard, isKept, isWild⟩ : ∃ term ∈ keptTerms terms, isAllWildcard term = true := by
    simpa using ordinary
  have wildcards := (isAllWildcard_iff wildcard).mp isWild
  by_cases none : effectiveTerms terms = []
  · -- Every row is accepted, also the one of empty texts.
    refine .inr ⟨none, ?_⟩
    rcases (agree fun _ => "").mp (.inl none) with empty | ⟨term, member, _, _, matched⟩
    · rw [empty] at isKept
      cases isKept
    · exact ⟨term, member, (wildcardMatches_nil_iff same _).mp matched⟩
  · -- The wildcards match a text of spare characters, and no other term does.
    obtain ⟨column, isColumn⟩ := List.exists_mem_of_ne_nil columns searchable
    have asked : Asked same (fun _ => String.ofList (List.replicate (wildcard.toList.count '?')
        spare)) columns terms := by
      refine .inr ⟨wildcard, isKept, column, isColumn, ?_⟩
      rw [String.toList_ofList]
      exact wildcardMatches_replicate same _ spare wildcards
    obtain ⟨term, member, other, _, matched⟩ := ((agree _).mpr asked).resolve_left none
    obtain ⟨literal, inTerm, notStar, notMark, different⟩ := isSpare term member
    obtain ⟨char, inText, equal⟩ :=
      same_of_wildcardMatches same _ _ matched literal inTerm notStar notMark
    rw [String.toList_ofList] at inText
    rw [List.eq_of_mem_replicate inText, different] at equal
    cases equal

/-- The search accepts the rows the terms ask for when no term consists of wildcards, or when all
do and one of them of stars only; and in no other case, given a spare character. -/
theorem searchTerms_meaning (same : Char → Char → Bool)
    (order : List (GoMap.Entry String FieldConfig)) (searchable : searchColumns order ≠ [])
    (operands : ∀ column ∈ searchColumns order, IsOperand column) (terms : List String)
    (args : List Dynamic) :
    (WildcardsRedundant terms → ∀ values : List Token → String,
        (Accepts same values (searchColumns order) terms args ↔
          Asked same values (searchColumns order) terms)) ∧
      ∀ spare, Spare same (effectiveTerms terms) spare →
        (∀ values : List Token → String, (Accepts same values (searchColumns order) terms args ↔
          Asked same values (searchColumns order) terms)) → WildcardsRedundant terms := by
  simp only [accepts_iff same _ _ searchable operands terms args]
  constructor
  · intro redundant values
    exact asked_of_redundant same values _ searchable terms redundant
  · intro spare isSpare agree
    exact redundant_of_asked same _ searchable terms spare isSpare agree

/-- Letters of either case are the same. -/
def ignoringCase (first second : Char) : Bool := first.toLower = second.toLower

/-- A row of the registry. -/
def acmeRow (column : List Token) : String :=
  if column = lex "r.name" then "Acme" else "supplier"

theorem searchTerms_registry :
    Accepts ignoringCase acmeRow (searchColumns registryFields) [" ac*", ""] [] ∧
      ¬∀ values : List Token → String,
        (Accepts ignoringCase values (searchColumns registryFields) ["*", "abc"] [] ↔
          Asked ignoringCase values (searchColumns registryFields) ["*", "abc"]) := by
  have searchable : searchColumns registryFields ≠ [] := by decide +kernel
  have operands : ∀ column ∈ searchColumns registryFields, IsOperand column := by decide +kernel
  constructor
  · have asked : Asked ignoringCase acmeRow (searchColumns registryFields) [" ac*", ""] := by
      decide +kernel
    exact ((searchTerms_meaning ignoringCase registryFields searchable operands [" ac*", ""]
      []).1 (by decide +kernel) acmeRow).mpr asked
  · intro agree
    have spare : Spare ignoringCase (effectiveTerms ["*", "abc"]) '#' := by
      decide +kernel
    have redundant := (searchTerms_meaning ignoringCase registryFields searchable operands
      ["*", "abc"] []).2 '#' spare agree
    exact absurd redundant (by decide +kernel)

/-- Next to another term a term that matches everything is lost, and alone a term that matches one
character accepts everything. -/
theorem searchTerms_wildcards :
    Asked ignoringCase acmeRow (searchColumns registryFields) ["*", "abc"] ∧
      ¬Accepts ignoringCase acmeRow (searchColumns registryFields) ["*", "abc"] [] ∧
      ¬Asked ignoringCase acmeRow (searchColumns registryFields) ["?"] ∧
      Accepts ignoringCase acmeRow (searchColumns registryFields) ["?"] [] := by
  decide +kernel

end SharedGo.Search
