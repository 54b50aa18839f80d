/-
This file is about the templates of subquery resolvers. A template passes the
resolver's check when it contains `%s` once, and is then used as a format, where
every percent sign is active. So it is filled in literally exactly when the
percent sign of its place is its only one.
-/

import SharedGo.CompileText
import SharedGo.SprintfLiteral

namespace SharedGo.Search

open SharedGo Text Fmt NumberedText

theorem cast_unmarked (fieldType : FieldType) :
    '$' ∉ fieldType.cast.toList ∧ '%' ∉ fieldType.cast.toList ∧ '!' ∉ fieldType.cast.toList := by
  cases fieldType with
  | undeclared code => simp [FieldType.cast]
  | _ => decide

/-- A placeholder with its cast starts with the only dollar sign in it. -/
theorem placeholder_distinctive (position : Nat) (fieldType : FieldType) :
    Distinctive (placeholder position ++ fieldType.cast) := by
  obtain ⟨digits, name, _, all⟩ := placeholder_chars position
  have chars : (placeholder position ++ fieldType.cast).toList =
      '$' :: (digits ++ fieldType.cast.toList) := by
    rw [String.toList_append, name, List.cons_append]
  have absent (char : Char) (noDigit : char.isDigit = false)
      (notInCast : char ∉ fieldType.cast.toList) : char ∉ digits ++ fieldType.cast.toList := by
    intro member
    rcases List.mem_append.mp member with inDigits | inCast
    · rw [all char inDigits] at noDigit
      cases noDigit
    · exact notInCast inCast
  obtain ⟨noDollar, noPercent, noMark⟩ := cast_unmarked fieldType
  refine ⟨⟨_, chars, absent '$' (by decide) noDollar⟩, ?_, ?_⟩
  · rw [chars, List.mem_cons, not_or]
    exact ⟨by decide, absent '%' (by decide) noPercent⟩
  · rw [chars, List.mem_cons, not_or]
    exact ⟨by decide, absent '!' (by decide) noMark⟩

/-- The percent sign of a place is the only one. -/
theorem count_percent_iff (before after : String) :
    (before ++ "%s" ++ after).toList.count '%' = 1 ↔
      '%' ∉ before.toList ∧ '%' ∉ after.toList := by
  have place : "%s".toList.count '%' = 1 := by decide
  rw [String.toList_append, String.toList_append, List.count_append, List.count_append, place,
    ← List.count_eq_zero, ← List.count_eq_zero]
  omega

section Resolving

variable [Formatting] [TimeParsing]

theorem bound_of_coerceScalar (resolver : SubqueryResolver) (value coerced : Dynamic)
    (once : count resolver.template "%s" = 1)
    (accepted : coerceScalar resolver.field resolver.fieldType value = .ok coerced) :
    resolver.bound "eq" value = .ok [coerced] := by
  simp [SubqueryResolver.bound, once, coerceAll, accepted]

/-- A template that contains `%s` once is filled in with the placeholder and its cast at that
place, and with nothing else changed, exactly when it has no other percent sign; one argument is
bound in any case. -/
theorem subquery_literal_iff (quotes : QuotesPlainly) (resolver : SubqueryResolver)
    (value coerced : Dynamic) (once : count resolver.template "%s" = 1)
    (accepted : coerceScalar resolver.field resolver.fieldType value = .ok coerced)
    (args : List Dynamic) :
    (∃ before after, resolver.template = before ++ "%s" ++ after) ∧
      ((resolver.resolve "eq" value).run args).2 = args ++ [coerced] ∧
      ∀ before after, resolver.template = before ++ "%s" ++ after →
        (((resolver.resolve "eq" value).run args).1 =
            .ok (before ++ (placeholder (args.length + 1) ++ resolver.fieldType.cast) ++ after) ↔
          resolver.template.toList.count '%' = 1) := by
  rw [subquery_run, bound_of_coerceScalar resolver value coerced once accepted]
  refine ⟨exists_of_count _ _ (by omega), rfl, fun before after template => ?_⟩
  show (Except.ok (resolver.fragmentText args.length) : Except SearchError String) = _ ↔ _
  rw [Except.ok.injEq, SubqueryResolver.fragmentText, template,
    sprintf_literal_iff quotes (placeholder_distinctive _ _), count_percent_iff]

end Resolving

theorem asciiFormatting_quotesPlainly : @QuotesPlainly asciiFormatting := by
  intro _ _ text plain member
  have quoted : '%' ∈ '"' :: ((text.toList.flatMap fun char =>
      if char = '"' ∨ char = '\\' then ['\\', char] else [char]) ++ ['"']) := by
    simpa [Formatting.quote] using member
  have inText : '%' ∈ text.toList.flatMap fun char =>
      if char = '"' ∨ char = '\\' then ['\\', char] else [char] := by
    simpa using quoted
  obtain ⟨char, inside, escaped⟩ := List.mem_flatMap.mp inText
  refine plain ?_
  split_ifs at escaped with special
  · have same : '%' = char := by simpa using escaped
    exact same ▸ inside
  · have same : '%' = char := by simpa using escaped
    exact same ▸ inside

/-- A template as the package's documentation writes one. -/
def linkResolver : SubqueryResolver :=
  ⟨"EXISTS (SELECT 1 FROM tld_links l WHERE l.parent_id = t.id AND l.tld_id = %s)", .uuid,
    "tld_id"⟩

theorem subquery_literal_link :
    count linkResolver.template "%s" = 1 ∧ linkResolver.template.toList.count '%' = 1 ∧
      ((@SubqueryResolver.resolve asciiFormatting noTimes linkResolver "eq" (.string "u-1")).run
          [.bool true]).1 =
        .ok ("EXISTS (SELECT 1 FROM tld_links l WHERE l.parent_id = t.id AND l.tld_id = " ++
          (placeholder 2 ++ "::uuid") ++ ")") := by
  have once : count linkResolver.template "%s" = 1 := by decide +kernel
  have single : linkResolver.template.toList.count '%' = 1 := by decide +kernel
  refine ⟨once, single, ?_⟩
  exact ((@subquery_literal_iff asciiFormatting noTimes asciiFormatting_quotesPlainly linkResolver
    (.string "u-1") (.string "u-1") once rfl [.bool true]).2.2 _ _ (by decide +kernel)).mpr single

/-- A template with a pattern in front of its place. -/
def patternResolver : SubqueryResolver :=
  ⟨"g.name LIKE 'a%' AND g.id = %s", .int, "tag"⟩

/-- The pattern takes the argument of the place. -/
theorem subquery_pattern :
    count patternResolver.template "%s" = 1 ∧
      (@SubqueryResolver.resolve asciiFormatting noTimes patternResolver "eq" (.int 7)).run [] =
        (.ok "g.name LIKE 'a%!'(string=$1::bigint) AND g.id = %!s(MISSING)", [.int64 7]) := by
  have once : count patternResolver.template "%s" = 1 := by decide +kernel
  have text : @SubqueryResolver.fragmentText asciiFormatting patternResolver 0 =
      "g.name LIKE 'a%!'(string=$1::bigint) AND g.id = %!s(MISSING)" := by
    decide +kernel
  refine ⟨once, ?_⟩
  rw [@subquery_run asciiFormatting noTimes,
    @bound_of_coerceScalar asciiFormatting noTimes patternResolver (.int 7) (.int64 7) once rfl,
    ← text]
  rfl

end SharedGo.Search
