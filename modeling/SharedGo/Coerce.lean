/-
This file models the coercion of request values to the types of their fields, and
proves what the coerced values are: a value of the dynamic type that the cast of
the field's type expects.
-/

import Mathlib.Algebra.Ring.Int.Defs
import SharedGo.SearchTypes

namespace SharedGo.Search

open SharedGo Text Fmt

/-- `time.Parse`, which depends on the layout and the clock's zone tables. -/
class TimeParsing where
  parse : (layout text : String) → Option Time

/-- A parser that accepts no text. -/
@[reducible] def noTimes : TimeParsing where
  parse _ _ := none

/-- The accepted layouts of dates, in order. -/
def dateLayouts : List String := ["2006-01-02T15:04:05Z07:00", "2006-01-02"]

/-! ### Numbers and booleans in texts -/

/-- `strconv.ParseInt` in base ten, for 64 bits: a sign and at least one digit, within range. -/
def parseInt (text : String) : Option Int64 :=
  let (negative, digits) :=
    match text.toList with
    | '-' :: rest => (true, rest)
    | '+' :: rest => (false, rest)
    | rest => (false, rest)
  if digits = [] ∨ !digits.all Char.isDigit then none
  else
    let value : Int := if negative then -(digitsValue digits) else digitsValue digits
    if -2 ^ 63 ≤ value ∧ value < 2 ^ 63 then some (Int64.ofInt value) else none

/-- `strconv.ParseBool`. -/
def parseBool (text : String) : Option Bool :=
  if ["1", "t", "T", "TRUE", "true", "True"].contains text then some true
  else if ["0", "f", "F", "FALSE", "false", "False"].contains text then some false
  else none

section Coercion

variable [Formatting] [TimeParsing]

/-- An integral number within range; infinities are integral, and out of range. -/
def coerceFloat (field : String) (number : Float64) : Except SearchError Dynamic :=
  let outOfRange : SearchError :=
    .invalidValueType field "integer within int64 range" (Formatting.formatFloat number)
  match number with
  | .notANumber => .error (.invalidValueType field "integer"
      ("fractional number " ++ Formatting.formatFloat number))
  | .positiveInfinity => .error outOfRange
  | .negativeInfinity => .error outOfRange
  | .finite value =>
    if value.den ≠ 1 then
      .error (.invalidValueType field "integer"
        ("fractional number " ++ Formatting.formatFloat number))
    else if value.num < -2 ^ 63 ∨ 2 ^ 63 ≤ value.num then .error outOfRange
    else .ok (.int64 (Int64.ofInt value.num))

/-- What a text that does not parse is reported as. -/
def quotedString (text : String) : String := "string " ++ Formatting.quote false false text

def coerceScalar (field : String) (fieldType : FieldType) (value : Dynamic) :
    Except SearchError Dynamic :=
  match value with
  | .nil => .error (.invalidValueType field (typeName fieldType) "null")
  | value =>
    match fieldType with
    | .string | .uuid | .array =>
      match value with
      | .string text => .ok (.string text)
      | _ => .error (.invalidValueType field (typeName fieldType) (goType value))
    | .int =>
      match value with
      | .float64 number => coerceFloat field number
      | .int number => .ok (.int64 number)
      | .int64 number => .ok (.int64 number)
      | .string text =>
        match parseInt (trimSpace text) with
        | some number => .ok (.int64 number)
        | none => .error (.invalidValueType field "integer" (quotedString text))
      | _ => .error (.invalidValueType field "integer" (goType value))
    | .bool =>
      match value with
      | .bool flag => .ok (.bool flag)
      | .string text =>
        match parseBool (trimSpace text) with
        | some flag => .ok (.bool flag)
        | none => .error (.invalidValueType field "boolean" (quotedString text))
      | _ => .error (.invalidValueType field "boolean" (goType value))
    | .date =>
      match value with
      | .time instant => .ok (.time instant)
      | .string text =>
        match dateLayouts.findSome? fun layout => TimeParsing.parse layout (trimSpace text) with
        | some instant => .ok (.time instant)
        | none =>
          .error (.invalidValueType field "RFC3339 or YYYY-MM-DD date" (quotedString text))
      | _ => .error (.invalidValueType field "date" (goType value))
    | .undeclared _ => .ok value

/-- The loop over a list: the first error ends it. -/
def coerceAll (field : String) (fieldType : FieldType) :
    List Dynamic → Except SearchError (List Dynamic)
  | [] => .ok []
  | value :: rest =>
    match coerceScalar field fieldType value with
    | .error error => .error error
    | .ok coerced =>
      match coerceAll field fieldType rest with
      | .error error => .error error
      | .ok coercedRest => .ok (coerced :: coercedRest)

/-- A text is split at its commas, and its blank pieces are dropped; any other value is a list of
one. -/
def coerceList (field : String) (fieldType : FieldType) (value : Dynamic) :
    Except SearchError (List Dynamic) :=
  match value with
  | .array elements => coerceAll field fieldType elements
  | .string text =>
    coerceAll field fieldType
      ((((split text ',').map trimSpace).filter (· ≠ "")).map Dynamic.string)
  | .nil => .error (.invalidValueType field "array" "null")
  | value => coerceAll field fieldType [value]

end Coercion

/-! ### The type of a coerced value -/

/-- The dynamic type that the cast of a field type expects; an undeclared type expects any. -/
def FieldType.expects : FieldType → Dynamic → Bool
  | .string, .string _ => true
  | .uuid, .string _ => true
  | .array, .string _ => true
  | .int, .int64 _ => true
  | .bool, .bool _ => true
  | .date, .time _ => true
  | .undeclared _, _ => true
  | _, _ => false

section Types

variable [Formatting] [TimeParsing]

omit [TimeParsing] in
theorem coerceFloat_expected (field : String) (number : Float64) (coerced : Dynamic)
    (ok : coerceFloat field number = .ok coerced) : FieldType.int.expects coerced = true := by
  unfold coerceFloat at ok
  split at ok
  · cases ok
  · cases ok
  · cases ok
  · split_ifs at ok
    cases ok
    rfl

/-- A coerced value has the type its cast expects. -/
theorem coerceScalar_expected (field : String) (fieldType : FieldType) (value coerced : Dynamic)
    (ok : coerceScalar field fieldType value = .ok coerced) :
    fieldType.expects coerced = true := by
  unfold coerceScalar at ok
  split at ok
  · cases ok
  split at ok
  · split at ok
    · cases ok
      rfl
    · cases ok
  · split at ok
    · cases ok
      rfl
    · cases ok
  · split at ok
    · cases ok
      rfl
    · cases ok
  · split at ok
    · exact coerceFloat_expected field _ coerced ok
    · cases ok
      rfl
    · cases ok
      rfl
    · split at ok
      · cases ok
        rfl
      · cases ok
    · cases ok
  · split at ok
    · cases ok
      rfl
    · split at ok
      · cases ok
        rfl
      · cases ok
    · cases ok
  · split at ok
    · cases ok
      rfl
    · split at ok
      · cases ok
        rfl
      · cases ok
    · cases ok
  · rfl

theorem coerceAll_expected (field : String) (fieldType : FieldType) (values coerced : List Dynamic)
    (ok : coerceAll field fieldType values = .ok coerced) :
    ∀ value ∈ coerced, fieldType.expects value = true := by
  induction values generalizing coerced with
  | nil =>
    cases ok
    simp
  | cons value rest inductionHypothesis =>
    rw [coerceAll] at ok
    split at ok
    · cases ok
    · rename_i first okFirst
      split at ok
      · cases ok
      · rename_i others okRest
        cases ok
        intro element member
        rcases List.mem_cons.mp member with rfl | member
        · exact coerceScalar_expected field fieldType value element okFirst
        · exact inductionHypothesis others okRest element member

theorem coerceList_expected (field : String) (fieldType : FieldType) (value : Dynamic)
    (coerced : List Dynamic) (ok : coerceList field fieldType value = .ok coerced) :
    ∀ element ∈ coerced, fieldType.expects element = true := by
  unfold coerceList at ok
  split at ok
  · exact coerceAll_expected field fieldType _ coerced ok
  · exact coerceAll_expected field fieldType _ coerced ok
  · cases ok
  · exact coerceAll_expected field fieldType _ coerced ok

end Types

end SharedGo.Search
