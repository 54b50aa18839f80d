/-
This file models the resolvers, which turn a filter into a condition. A resolver
gets the compiler's `add`, which binds a value and answers with the placeholder
of its position; what a resolver does with it is a program that adds values and
goes on with the placeholders it is given. The compiler runs the program on its
arguments so far.
-/

import SharedGo.Coerce
import SharedGo.Numbering

namespace SharedGo.Search

open SharedGo Text Fmt NumberedText

/-! ### Programs that bind values -/

/-- A program that adds values and sees only the placeholders. -/
inductive Binder (Result : Type) where
  | done (result : Result)
  | add (value : Dynamic) (next : String → Binder Result)

namespace Binder

variable {Result Next : Type}

def bind (first : Binder Result) (next : Result → Binder Next) : Binder Next :=
  match first with
  | .done result => next result
  | .add value rest => .add value fun placeholder => (rest placeholder).bind next

/-- Runs a program on the arguments so far. -/
def run : Binder Result → List Dynamic → Result × List Dynamic
  | .done result, args => (result, args)
  | .add value next, args =>
    (next (placeholder (args.length + 1))).run (args ++ [value])

/-- Adds the values one after the other. -/
def addAll : List Dynamic → Binder (List String)
  | [] => .done []
  | value :: rest =>
    .add value fun placeholder => (addAll rest).bind fun others => .done (placeholder :: others)

@[simp] theorem run_done (result : Result) (args : List Dynamic) :
    (Binder.done result).run args = (result, args) := rfl

@[simp] theorem run_add (value : Dynamic) (next : String → Binder Result) (args : List Dynamic) :
    (Binder.add value next).run args =
      (next (placeholder (args.length + 1))).run (args ++ [value]) := rfl

@[simp] theorem run_bind (first : Binder Result) (next : Result → Binder Next)
    (args : List Dynamic) :
    (first.bind next).run args = (next (first.run args).1).run (first.run args).2 := by
  induction first generalizing args with
  | done result => rfl
  | add value rest inductionHypothesis => exact inductionHypothesis _ _

@[simp] theorem run_addAll (values args : List Dynamic) :
    (addAll values).run args = (placeholders args.length values.length, args ++ values) := by
  induction values generalizing args with
  | nil => simp [addAll, placeholders]
  | cons value rest inductionHypothesis =>
    simp [addAll, inductionHypothesis, placeholders, List.range'_succ]

section Failing

variable {Error Value : Type} (first : Binder (Except Error Value))
  (next : Except Error Value → Binder (Except Error Next))

/-- Where a failure is handed on, both parts of a binding that succeeds do. -/
theorem run_bind_ok (args rest : List Dynamic) (result : Next)
    (run : (first.bind next).run args = (.ok result, rest))
    (fails : ∀ error, next (.error error) = .done (.error error)) :
    ∃ value middle, first.run args = (.ok value, middle) ∧
      (next (.ok value)).run middle = (.ok result, rest) := by
  rw [run_bind] at run
  generalize first.run args = outcome at run ⊢
  obtain ⟨outcome, middle⟩ := outcome
  cases outcome with
  | error error =>
    rw [fails] at run
    cases run
  | ok value => exact ⟨value, middle, rfl, run⟩

/-- Where a failure is handed on, one of the parts of a binding that fails does. -/
theorem run_bind_error (args rest : List Dynamic) (error : Error)
    (run : (first.bind next).run args = (.error error, rest))
    (fails : ∀ error, next (.error error) = .done (.error error)) :
    first.run args = (.error error, rest) ∨
      ∃ value middle, first.run args = (.ok value, middle) ∧
        (next (.ok value)).run middle = (.error error, rest) := by
  rw [run_bind] at run
  generalize first.run args = outcome at run ⊢
  obtain ⟨outcome, middle⟩ := outcome
  cases outcome with
  | error reason =>
    rw [fails, run_done, Prod.mk.injEq, Except.error.injEq] at run
    obtain ⟨rfl, rfl⟩ := run
    exact .inl rfl
  | ok value => exact .inr ⟨value, middle, rfl, run⟩

end Failing

end Binder

/-! ### Operators -/

/-- The SQL symbol of a comparison operator. -/
def comparisonSQL (operator : String) : Option String :=
  [("eq", "="), ("ne", "<>"), ("gt", ">"), ("gte", ">="), ("lt", "<"), ("lte", "<="),
    ("like", "LIKE"), ("ilike", "ILIKE"), ("not_like", "NOT LIKE"),
    ("not_ilike", "NOT ILIKE")].lookup operator

/-! ### Resolvers -/

/-- A plain comparison of a column. -/
structure DirectColumnResolver where
  column : String
  fieldType : FieldType
  field : String

/-- A condition from a template with one place for the value. -/
structure SubqueryResolver where
  template : String
  fieldType : FieldType
  field : String

/-- The resolvers of the package, and any function in their place. -/
inductive FieldResolver where
  | direct (resolver : DirectColumnResolver)
  | subquery (resolver : SubqueryResolver)
  | func (resolve : String → Dynamic → Binder (Except SearchError String))

section Resolve

variable [Formatting] [TimeParsing]

def DirectColumnResolver.resolve (resolver : DirectColumnResolver) (operator : String)
    (value : Dynamic) : Binder (Except SearchError String) :=
  let cast := resolver.fieldType.cast
  match comparisonSQL operator with
  | some symbol =>
    match coerceScalar resolver.field resolver.fieldType value with
    | .error error => .done (.error error)
    | .ok coerced => .add coerced fun placeholder =>
      .done (.ok (resolver.column ++ " " ++ symbol ++ " " ++ (placeholder ++ cast)))
  | none =>
    if operator = "in" ∨ operator = "not_in" then
      match coerceList resolver.field resolver.fieldType value with
      | .error error => .done (.error error)
      | .ok values =>
        if values = [] then
          .done (.error (.invalidValueType resolver.field "non-empty array" "empty array"))
        else (Binder.addAll values).bind fun placeholders =>
          .done (.ok (resolver.column ++ " " ++ (if operator = "not_in" then "NOT IN" else "IN") ++
            " (" ++ join ", " (placeholders.map (· ++ cast)) ++ ")"))
    else if operator = "between" then
      match coerceList resolver.field resolver.fieldType value with
      | .error error => .done (.error error)
      | .ok [low, high] => .add low fun lowPlaceholder => .add high fun highPlaceholder =>
        .done (.ok (resolver.column ++ " BETWEEN " ++ (lowPlaceholder ++ cast) ++ " AND " ++
          (highPlaceholder ++ cast)))
      | .ok values => .done (.error (.invalidValueType resolver.field "two-element array"
          (toString values.length ++ "-element array")))
    else if operator = "is_null" then .done (.ok (resolver.column ++ " IS NULL"))
    else if operator = "is_not_null" then .done (.ok (resolver.column ++ " IS NOT NULL"))
    else .done (.error (.unsupportedOperator resolver.field operator))

/-- Only equality is supported, and the template has to have exactly one place. -/
def SubqueryResolver.resolve (resolver : SubqueryResolver) (operator : String)
    (value : Dynamic) : Binder (Except SearchError String) :=
  if count resolver.template "%s" ≠ 1 then .done (.error (.badTemplate resolver.field))
  else if operator = "eq" then
    match coerceScalar resolver.field resolver.fieldType value with
    | .error error => .done (.error error)
    | .ok coerced => .add coerced fun placeholder =>
      .done (.ok (sprintf resolver.template (placeholder ++ resolver.fieldType.cast)))
  else .done (.error (.unsupportedOperator resolver.field operator))

def FieldResolver.resolve (operator : String) (value : Dynamic) :
    FieldResolver → Binder (Except SearchError String)
  | .direct resolver => resolver.resolve operator value
  | .subquery resolver => resolver.resolve operator value
  | .func resolve => resolve operator value

end Resolve

end SharedGo.Search
