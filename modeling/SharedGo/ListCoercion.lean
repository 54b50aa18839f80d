/-
This file compares the two coercions of a single value: as a scalar, and as the
value of a list operator. A value that is not a text is one element of the list.
A text is split at its commas, trimmed, and dropped when nothing is left, whatever
the type of the field; so it is one element, and the same one, exactly when none
of this changes it.
-/

import SharedGo.CompileText

namespace SharedGo.Search

open SharedGo Text Fmt

/-! ### Dates -/

section Dates

variable [TimeParsing]

/-- The date that a text is, in one of the accepted layouts. -/
def readDate (text : String) : Option Time :=
  dateLayouts.findSome? fun layout => TimeParsing.parse layout (trimSpace text)

/-- What is used of the documentation of `time.Parse`: the empty text is no date, and a comma in a
date stands between the seconds and their fraction, where what comes before it has no zone and is
no date. -/
structure DocumentedDates : Prop where
  blank : readDate "" = none
  fraction : ∀ text, trimSpace text = text → (readDate text).isSome → ',' ∈ text.toList →
    trimSpace (before text ',') ≠ "" ∧ readDate (before text ',') = none

theorem readDate_trimSpace (text : String) : readDate (trimSpace text) = readDate text := by
  rw [readDate, trimSpace_trimSpace, readDate]

/-- The law of fractions, for a text with blanks around it. -/
theorem fraction_of_date (dates : DocumentedDates) (text : String) (isDate : (readDate text).isSome)
    (comma : ',' ∈ text.toList) :
    trimSpace (before text ',') ≠ "" ∧ readDate (before text ',') = none := by
  have visible : isSpace ',' = false := by decide
  rw [← readDate_trimSpace] at isDate
  have law := dates.fraction (trimSpace text) (trimSpace_trimSpace text) isDate
    (mem_trimSpace text ',' comma visible)
  rwa [← readDate_trimSpace, trimSpace_before text ',' comma visible, readDate_trimSpace] at law

end Dates

/-! ### One element -/

section Single

variable [Formatting] [TimeParsing]

/-- A list operator takes the value for one element, which is the value. -/
def IsSingle (fieldType : FieldType) : Dynamic → Prop
  | .string text =>
    match fieldType with
    | .int | .bool => True
    | .date => ',' ∉ text.toList
    | _ => ',' ∉ text.toList ∧ trimSpace text = text ∧ text ≠ ""
  | _ => True

omit [TimeParsing] in
/-- The elements that a text is split into. -/
def elements (text : String) : List String := ((split text ',').map trimSpace).filter (· ≠ "")

omit [Formatting] [TimeParsing] in
theorem elements_of_not_mem (text : String) (absent : ',' ∉ text.toList) :
    elements text = if trimSpace text = "" then [] else [trimSpace text] := by
  rw [elements, split_of_not_mem text ',' absent]
  split_ifs with blank
  · simp [blank]
  · simp [blank]

omit [Formatting] [TimeParsing] in
/-- A text is its only element exactly when it is not empty and neither split nor trimmed. -/
theorem elements_eq_self_iff (text : String) :
    elements text = [text] ↔ ',' ∉ text.toList ∧ trimSpace text = text ∧ text ≠ "" := by
  constructor
  · intro single
    have member : text ∈ elements text := by
      rw [single]
      exact List.mem_singleton_self text
    obtain ⟨isTrimmed, nonempty⟩ := List.mem_filter.mp member
    obtain ⟨piece, isPiece, trimmed⟩ := List.mem_map.mp isTrimmed
    have absent : ',' ∉ text.toList := by
      intro comma
      rw [← trimmed] at comma
      exact not_mem_of_mem_split text piece ',' isPiece (mem_of_mem_trimSpace piece ',' comma)
    rw [elements_of_not_mem text absent] at single
    split_ifs at single
    exact ⟨absent, List.singleton_inj.mp single, by simpa using nonempty⟩
  · rintro ⟨absent, trimmed, nonempty⟩
    rw [elements_of_not_mem text absent, trimmed, if_neg nonempty]

theorem coerceList_string (field : String) (fieldType : FieldType) (text : String) :
    coerceList field fieldType (.string text) =
      coerceAll field fieldType ((elements text).map .string) := rfl

/-- A value that is neither a text nor an array is a list of one. -/
theorem coerceList_other (field : String) (fieldType : FieldType) (value coerced : Dynamic)
    (notArray : ∀ elements, value ≠ .array elements) (notText : ∀ text, value ≠ .string text)
    (accepted : coerceScalar field fieldType value = .ok coerced) :
    coerceList field fieldType value = .ok [coerced] := by
  have alone : coerceAll field fieldType [value] = .ok [coerced] := by simp [coerceAll, accepted]
  cases value with
  | nil => cases accepted
  | array elements => exact absurd rfl (notArray elements)
  | string text => exact absurd rfl (notText text)
  | _ => exact alone

/-- Where a scalar text is taken as it is, so are the elements of a list. -/
theorem coerceAll_texts (field : String) (fieldType : FieldType) (texts : List String)
    (verbatim : ∀ text, coerceScalar field fieldType (.string text) = .ok (.string text)) :
    coerceAll field fieldType (texts.map .string) = .ok (texts.map .string) := by
  induction texts with
  | nil => rfl
  | cons text rest inductionHypothesis =>
    simp [coerceAll, verbatim, inductionHypothesis]

theorem coerceList_verbatim_iff (field : String) (fieldType : FieldType) (text : String)
    (verbatim : ∀ text, coerceScalar field fieldType (.string text) = .ok (.string text)) :
    coerceList field fieldType (.string text) = .ok [.string text] ↔
      ',' ∉ text.toList ∧ trimSpace text = text ∧ text ≠ "" := by
  rw [coerceList_string, coerceAll_texts field fieldType _ verbatim, ← elements_eq_self_iff,
    Except.ok.injEq]
  constructor
  · intro same
    refine List.map_injective_iff.mpr ?_ (same : _ = [text].map Dynamic.string)
    exact fun first second equal => Dynamic.string.inj equal
  · intro same
    rw [same]
    rfl

/-- A text without commas that is trimmed before it is read is one element, if it is not blank. -/
theorem coerceList_trimmed (field : String) (fieldType : FieldType) (text : String)
    (coerced : Dynamic) (absent : ',' ∉ text.toList) (nonempty : trimSpace text ≠ "")
    (accepted : coerceScalar field fieldType (.string (trimSpace text)) = .ok coerced) :
    coerceList field fieldType (.string text) = .ok [coerced] := by
  rw [coerceList_string, elements_of_not_mem text absent, if_neg nonempty]
  simp [coerceAll, accepted]

omit [Formatting] [TimeParsing] in
/-- A comma is not trimmed, so it is among the characters that are read. -/
theorem comma_mem_trimSpace (text : String) (comma : ',' ∈ text.toList) :
    ',' ∈ (trimSpace text).toList := mem_trimSpace text ',' comma (by decide)

omit [Formatting] [TimeParsing] in
/-- An integer is a sign and digits. -/
theorem parseInt_plain (text : String) (number : Int64) (parsed : parseInt text = some number) :
    ',' ∉ text.toList ∧ text ≠ "" := by
  have digits (chars : List Char) (all : chars.all Char.isDigit = true) : ',' ∉ chars := by
    intro comma
    exact absurd (List.all_eq_true.mp all ',' comma) (by decide)
  unfold parseInt at parsed
  split at parsed
  rename_i negative chars split
  have wellFormed : ¬(chars = [] ∨ (!chars.all Char.isDigit) = true) := by
    intro malformed
    rw [if_pos malformed] at parsed
    cases parsed
  simp only [not_or, Bool.not_eq_true, Bool.not_eq_false'] at wellFormed
  have absent := digits chars wellFormed.2
  constructor
  · split at split
    · rename_i rest isText
      obtain ⟨_, rfl⟩ := Prod.mk.inj split
      rw [isText]
      simpa using absent
    · rename_i rest isText
      obtain ⟨_, rfl⟩ := Prod.mk.inj split
      rw [isText]
      simpa using absent
    · obtain ⟨_, rfl⟩ := Prod.mk.inj split
      exact absent
  · rintro rfl
    obtain ⟨_, rfl⟩ := Prod.mk.inj split
    exact wellFormed.1 rfl

omit [Formatting] [TimeParsing] in
theorem parseBool_plain (text : String) (flag : Bool) (parsed : parseBool text = some flag) :
    ',' ∉ text.toList ∧ text ≠ "" := by
  have known : text ∈ ["1", "t", "T", "TRUE", "true", "True", "0", "f", "F", "FALSE", "false",
      "False"] := by
    unfold parseBool at parsed
    split_ifs at parsed with isTrue isFalse
    · simp only [List.contains_iff_mem] at isTrue
      exact List.mem_append_left ["0", "f", "F", "FALSE", "false", "False"] isTrue
    · simp only [List.contains_iff_mem] at isFalse
      exact List.mem_append_right ["1", "t", "T", "TRUE", "true", "True"] isFalse
  clear parsed
  revert text
  decide

/-- Numbers, booleans and dates are trimmed before they are read. -/
theorem coerceScalar_trimSpace (field : String) (fieldType : FieldType) (text : String)
    (coerced : Dynamic) (trims : fieldType = .int ∨ fieldType = .bool ∨ fieldType = .date)
    (accepted : coerceScalar field fieldType (.string text) = .ok coerced) :
    coerceScalar field fieldType (.string (trimSpace text)) = .ok coerced := by
  rcases trims with rfl | rfl | rfl
  · simp only [coerceScalar, trimSpace_trimSpace] at accepted ⊢
    cases parsed : parseInt (trimSpace text) with
    | none => simp [parsed] at accepted
    | some number => simpa [parsed] using accepted
  · simp only [coerceScalar, trimSpace_trimSpace] at accepted ⊢
    cases parsed : parseBool (trimSpace text) with
    | none => simp [parsed] at accepted
    | some flag => simpa [parsed] using accepted
  · simp only [coerceScalar, trimSpace_trimSpace] at accepted ⊢
    split at accepted
    · exact accepted
    · cases accepted

/-- A number in a text is one element. -/
theorem coerceList_int (field text : String) (coerced : Dynamic)
    (accepted : coerceScalar field .int (.string text) = .ok coerced) :
    coerceList field .int (.string text) = .ok [coerced] := by
  have trimmed := coerceScalar_trimSpace field .int text coerced (Or.inl rfl) accepted
  cases parsed : parseInt (trimSpace text) with
  | none =>
    simp only [coerceScalar, parsed] at accepted
    cases accepted
  | some number =>
    obtain ⟨absent, nonempty⟩ := parseInt_plain _ number parsed
    exact coerceList_trimmed field .int text coerced
      (fun comma => absent (comma_mem_trimSpace text comma)) nonempty trimmed

/-- So is a boolean. -/
theorem coerceList_bool (field text : String) (coerced : Dynamic)
    (accepted : coerceScalar field .bool (.string text) = .ok coerced) :
    coerceList field .bool (.string text) = .ok [coerced] := by
  have trimmed := coerceScalar_trimSpace field .bool text coerced (Or.inr (Or.inl rfl)) accepted
  cases parsed : parseBool (trimSpace text) with
  | none =>
    simp only [coerceScalar, parsed] at accepted
    cases accepted
  | some flag =>
    obtain ⟨absent, nonempty⟩ := parseBool_plain _ flag parsed
    exact coerceList_trimmed field .bool text coerced
      (fun comma => absent (comma_mem_trimSpace text comma)) nonempty trimmed

/-- A date is one element exactly when it has no comma before its fraction of a second. -/
theorem coerceList_date_iff (dates : DocumentedDates) (field text : String) (coerced : Dynamic)
    (accepted : coerceScalar field .date (.string text) = .ok coerced) :
    coerceList field .date (.string text) = .ok [coerced] ↔ ',' ∉ text.toList := by
  have isDate : (readDate text).isSome := by
    simp only [coerceScalar] at accepted
    split at accepted
    · rename_i instant found
      exact Option.isSome_iff_exists.mpr ⟨instant, found⟩
    · cases accepted
  constructor
  · intro single comma
    obtain ⟨nonempty, undated⟩ := fraction_of_date dates text isDate comma
    obtain ⟨pieces, split⟩ := split_eq_cons text ','
    have first : elements text = trimSpace (before text ',') ::
        ((pieces.map trimSpace).filter (· ≠ "")) := by
      rw [elements, split, List.map_cons, List.filter_cons_of_pos (by simpa using nonempty)]
    have refused : coerceScalar field .date (.string (trimSpace (before text ','))) =
        .error (.invalidValueType field "RFC3339 or YYYY-MM-DD date"
          (quotedString (trimSpace (before text ',')))) := by
      rw [← readDate_trimSpace, readDate] at undated
      simp only [coerceScalar, undated]
    rw [coerceList_string, first, List.map_cons, coerceAll, refused] at single
    cases single
  · intro absent
    refine coerceList_trimmed field .date text coerced absent ?_
      (coerceScalar_trimSpace field .date text coerced (Or.inr (Or.inr rfl)) accepted)
    intro blank
    rw [← readDate_trimSpace, blank, dates.blank] at isDate
    cases isDate

theorem coerceList_single_iff (dates : DocumentedDates) (field : String) (fieldType : FieldType)
    (value coerced : Dynamic) (declared : fieldType ≠ .array)
    (scalar : ∀ elements, value ≠ .array elements)
    (accepted : coerceScalar field fieldType value = .ok coerced) :
    coerceList field fieldType value = .ok [coerced] ↔ IsSingle fieldType value := by
  by_cases isText : ∃ text, value = .string text
  · obtain ⟨text, rfl⟩ := isText
    cases fieldType with
    | string =>
      obtain rfl := Except.ok.inj accepted
      exact coerceList_verbatim_iff field .string text fun _ => rfl
    | uuid =>
      obtain rfl := Except.ok.inj accepted
      exact coerceList_verbatim_iff field .uuid text fun _ => rfl
    | undeclared name =>
      obtain rfl := Except.ok.inj accepted
      exact coerceList_verbatim_iff field (.undeclared name) text fun _ => rfl
    | int => exact iff_of_true (coerceList_int field text coerced accepted) trivial
    | bool => exact iff_of_true (coerceList_bool field text coerced accepted) trivial
    | date => exact coerceList_date_iff dates field text coerced accepted
    | array => exact absurd rfl declared
  · have notText : ∀ text, value ≠ .string text := fun text same => isText ⟨text, same⟩
    refine iff_of_true (coerceList_other field fieldType value coerced scalar notText accepted) ?_
    cases value with
    | string text => exact absurd rfl (notText text)
    | _ => trivial

theorem bound_in_iff (resolver : DirectColumnResolver) (value coerced : Dynamic) :
    resolver.bound "in" value = .ok [coerced] ↔
      coerceList resolver.field resolver.fieldType value = .ok [coerced] := by
  have comparison : comparisonSQL "in" = none := rfl
  rw [DirectColumnResolver.bound, comparison]
  cases coerceList resolver.field resolver.fieldType value with
  | error error => simp
  | ok values =>
    cases values with
    | nil => simp
    | cons first rest => simp

/-- A scalar that the type accepts is one element of a list exactly when it is no text, or a text
that the list coercion leaves in one piece and as it is read; and then `in` binds exactly what
`eq` binds. -/
theorem single_scalar_iff (dates : DocumentedDates) (resolver : DirectColumnResolver)
    (value coerced : Dynamic) (declared : resolver.fieldType ≠ .array)
    (scalar : ∀ elements, value ≠ .array elements)
    (accepted : coerceScalar resolver.field resolver.fieldType value = .ok coerced) :
    (coerceList resolver.field resolver.fieldType value = .ok [coerced] ↔
        IsSingle resolver.fieldType value) ∧
      ∀ args, ((resolver.resolve "eq" value).run args).2 = args ++ [coerced] ∧
        (((resolver.resolve "in" value).run args).2 = args ++ [coerced] ↔
          IsSingle resolver.fieldType value) := by
  have single := coerceList_single_iff dates resolver.field resolver.fieldType value coerced
    declared scalar accepted
  refine ⟨single, fun args => ⟨?_, ?_⟩⟩
  · have bound : resolver.bound "eq" value = .ok [coerced] := by
      have alone : coerceAll resolver.field resolver.fieldType [value] = .ok [coerced] := by
        simp [coerceAll, accepted]
      exact alone
    rw [direct_run, bound]
  · rw [direct_run, ← single, ← bound_in_iff]
    cases resolver.bound "in" value with
    | error error => simp
    | ok values => simp

end Single

/-- A parser that knows one date, with and without its time of day. -/
@[reducible] def mayTimes : TimeParsing where
  parse layout text :=
    if layout = "2006-01-02" ∧ text = "2024-05-01" then some ⟨1714521600000000000⟩
    else if layout = "2006-01-02T15:04:05Z07:00" ∧ text = "2024-05-01T10:00:00,5Z" then
      some ⟨1714557600500000000⟩
    else none

theorem mayTimes_documented : @DocumentedDates mayTimes := by
  refine @DocumentedDates.mk mayTimes (by decide) fun text trimmed isDate comma => ?_
  have known : text = "2024-05-01" ∨ text = "2024-05-01T10:00:00,5Z" := by
    by_contra unknown
    rw [not_or] at unknown
    have refused (layout : String) : @TimeParsing.parse mayTimes layout text = none :=
      (if_neg fun same => unknown.1 same.2).trans (if_neg fun same => unknown.2 same.2)
    unfold readDate at isDate
    rw [trimmed] at isDate
    simp [dateLayouts, refused] at isDate
  rcases known with rfl | rfl
  · exact absurd comma (by decide)
  · decide

theorem single_scalar_date :
    let resolver : DirectColumnResolver := ⟨"r.created_at", .date, "created_at"⟩
    @coerceList asciiFormatting mayTimes "created_at" .date (.string " 2024-05-01 ") =
        .ok [.time ⟨1714521600000000000⟩] ∧
      ((@DirectColumnResolver.resolve asciiFormatting mayTimes resolver "in"
        (.string " 2024-05-01 ")).run []).2 = [.time ⟨1714521600000000000⟩] := by
  intro resolver
  have accepted : @coerceScalar asciiFormatting mayTimes resolver.field resolver.fieldType
      (.string " 2024-05-01 ") = .ok (.time ⟨1714521600000000000⟩) := rfl
  obtain ⟨single, binds⟩ := @single_scalar_iff asciiFormatting mayTimes mayTimes_documented
    resolver (.string " 2024-05-01 ") (.time ⟨1714521600000000000⟩) (by decide)
    (fun elements => Dynamic.noConfusion) accepted
  have isSingle : IsSingle resolver.fieldType (.string " 2024-05-01 ") := by
    show ',' ∉ " 2024-05-01 ".toList
    decide
  exact ⟨single.mpr isSingle, (binds []).2.mpr isSingle⟩

/-- A text with a comma is one value for `eq` and two for `in`; a text with blanks around it is
another value; and the empty text is a value for `eq` and none for `in`. -/
theorem text_not_single :
    let scalar := @coerceScalar asciiFormatting noTimes "name" .string
    let list := @coerceList asciiFormatting noTimes "name" .string
    let resolve := @DirectColumnResolver.resolve asciiFormatting noTimes ⟨"r.name", .string, "name"⟩
    scalar (.string "Acme, Inc") = .ok (.string "Acme, Inc") ∧
      list (.string "Acme, Inc") = .ok [.string "Acme", .string "Inc"] ∧
      ((resolve "eq" (.string "Acme, Inc")).run []).2 = [.string "Acme, Inc"] ∧
      ((resolve "in" (.string "Acme, Inc")).run []).2 = [.string "Acme", .string "Inc"] ∧
      list (.string " x ") = .ok [.string "x"] ∧ list (.string "") = .ok [] :=
  ⟨rfl, rfl, rfl, rfl, rfl, rfl⟩

end SharedGo.Search
