/-
This file models the translation of a user's search term into a SQL `LIKE`
pattern, and proves that it preserves meaning: a text matches the pattern as
`LIKE` reads it exactly when it matches the term as the user reads it. Both
readings are matchers of their own, over the same comparison of characters, so
the result serves `LIKE` (equal characters) and `ILIKE` (characters equal up to
case) alike. The translation is three chained textual replacements; the proof
first collapses them into one replacement per character.
-/

import SharedGo.Text

namespace SharedGo.Search

open SharedGo

/-! ### The two readings of a pattern -/

section Readings

variable (same : Char → Char → Bool)

/-- A text matches a `LIKE` pattern with escape character backslash: `%` stands for any
sequence, `_` for any one character, and a backslash makes the next character literal. A
dangling backslash matches nothing. -/
def likeMatches : List Char → List Char → Bool
  | [], text => text.isEmpty
  | '%' :: pattern, text => text.tails.any (likeMatches pattern)
  | '_' :: pattern, text =>
    match text with
    | [] => false
    | _ :: rest => likeMatches pattern rest
  | ['\\'], _ => false
  | '\\' :: literal :: pattern, text =>
    match text with
    | [] => false
    | char :: rest => same literal char && likeMatches pattern rest
  | literal :: pattern, text =>
    match text with
    | [] => false
    | char :: rest => same literal char && likeMatches pattern rest

/-- A text matches a user's wildcard expression: `*` stands for any sequence, `?` for any one
character, and every other character for itself. -/
def wildcardMatches : List Char → List Char → Bool
  | [], text => text.isEmpty
  | '*' :: term, text => text.tails.any (wildcardMatches term)
  | '?' :: term, text =>
    match text with
    | [] => false
    | _ :: rest => wildcardMatches term rest
  | literal :: term, text =>
    match text with
    | [] => false
    | char :: rest => same literal char && wildcardMatches term rest

end Readings

/-- A `LIKE` pattern is well formed when it does not end in a dangling escape. -/
def likeWellFormed : List Char → Bool
  | [] => true
  | ['\\'] => false
  | '\\' :: _ :: pattern => likeWellFormed pattern
  | _ :: pattern => likeWellFormed pattern

/-! ### The translation -/

/-- The classification of a translated pattern. -/
inductive WildcardPattern where
  | exact
  | startsWith
  | contains
  deriving DecidableEq, Repr

/-- The outcome of translating a user's search term. -/
structure WildcardResult where
  pattern : String
  patternType : WildcardPattern
  deriving DecidableEq, Repr

/-- What `escapeLikeLiterals` writes for one character. -/
def escapeLikeLiteral : Char → List Char
  | '\\' => ['\\', '\\']
  | '%' => ['\\', '%']
  | '_' => ['\\', '_']
  | char => [char]

/-- Escapes the `LIKE` metacharacters. The replacer's old strings are single bytes, so it
replaces character by character. -/
def escapeLikeLiterals (text : String) : String :=
  String.ofList (text.toList.flatMap escapeLikeLiteral)

/-- The counters of `classifyPattern`'s loop over the rest of a pattern: the unescaped `%`, the
unescaped `_`, and whether the last unescaped `%` seen is the pattern's last character. -/
def classifyPatternGo : List Char → Nat → Nat → Bool → Nat × Nat × Bool
  | [], percents, underscores, atEnd => (percents, underscores, atEnd)
  | ['\\'], percents, underscores, atEnd => (percents, underscores, atEnd)
  | '\\' :: _ :: rest, percents, underscores, atEnd =>
    classifyPatternGo rest percents underscores atEnd
  | '%' :: rest, percents, underscores, _ =>
    classifyPatternGo rest (percents + 1) underscores rest.isEmpty
  | '_' :: rest, percents, underscores, atEnd =>
    classifyPatternGo rest percents (underscores + 1) atEnd
  | _ :: rest, percents, underscores, atEnd => classifyPatternGo rest percents underscores atEnd

/-- Tells a pure prefix pattern from a contains pattern; escaped metacharacters are literals. -/
def classifyPattern (pattern : String) : WildcardPattern :=
  match classifyPatternGo pattern.toList 0 0 false with
  | (1, 0, true) => .startsWith
  | _ => .contains

def containsWildcard (term : String) : Bool := Text.containsAny term "*?"

/-- Converts a user term's `*` and `?` to `LIKE`'s `%` and `_`, escaping literal `%`, `_` and
backslash first. -/
def translateWildcard (term : String) : WildcardResult :=
  if !containsWildcard term then
    { pattern := escapeLikeLiterals term, patternType := .exact }
  else
    let escaped := escapeLikeLiterals term
    let pattern := Text.replaceAll (Text.replaceAll escaped '*' "%") '?' "_"
    { pattern, patternType := classifyPattern pattern }

def wildcardToLike (term : String) : String := (translateWildcard term).pattern

/-- Whether a term is empty or consists solely of wildcard characters. -/
def isAllWildcard (term : String) : Bool := term.toList.all fun char => char = '*' ∨ char = '?'

/-! ### The translation, character by character -/

/-- What the whole translation writes for one character of the term. -/
def translateChar : Char → List Char
  | '*' => ['%']
  | '?' => ['_']
  | char => escapeLikeLiteral char

theorem translateChar_literal (char : Char) (notStar : char ≠ '*') (notMark : char ≠ '?') :
    translateChar char = escapeLikeLiteral char := by
  unfold translateChar
  split
  · exact absurd rfl notStar
  · exact absurd rfl notMark
  · rfl

theorem replaced_escapeLikeLiteral (char : Char) :
    ((escapeLikeLiteral char).flatMap fun escaped =>
        if escaped = '*' then "%".toList else [escaped]).flatMap (fun replaced =>
        if replaced = '?' then "_".toList else [replaced]) = translateChar char := by
  by_cases star : char = '*'
  · subst star
    decide
  by_cases mark : char = '?'
  · subst mark
    decide
  rw [translateChar_literal char star mark]
  unfold escapeLikeLiteral
  split
  · decide
  · decide
  · decide
  · simp [star, mark]

/-- Without wildcards the replacements of `*` and `?` change nothing, so both branches of the
translation write the same text. -/
theorem flatMap_escapeLikeLiteral (term : List Char)
    (plain : ∀ char ∈ term, char ≠ '*' ∧ char ≠ '?') :
    term.flatMap escapeLikeLiteral = term.flatMap translateChar := by
  refine List.flatMap_congr fun char member => ?_
  obtain ⟨notStar, notMark⟩ := plain char member
  exact (translateChar_literal char notStar notMark).symm

theorem translateWildcard_pattern (term : String) :
    (translateWildcard term).pattern.toList = term.toList.flatMap translateChar := by
  unfold translateWildcard
  split
  · rename_i plain
    simp only [escapeLikeLiterals, String.toList_ofList]
    refine flatMap_escapeLikeLiteral term.toList fun char member => ?_
    simp only [containsWildcard, Text.containsAny, Bool.not_eq_true', List.any_eq_false] at plain
    have absent := plain char member
    constructor <;> rintro rfl <;> exact absent (by decide)
  · simp only [Text.replaceAll, escapeLikeLiterals, String.toList_ofList, List.flatMap_assoc]
    refine List.flatMap_congr fun char _ => ?_
    rw [← replaced_escapeLikeLiteral char, List.flatMap_assoc]

/-! ### The translation preserves meaning -/

theorem likeMatches_literal (same : Char → Char → Bool) (literal : Char) (pattern text : List Char)
    (plain : literal ≠ '%' ∧ literal ≠ '_' ∧ literal ≠ '\\') :
    likeMatches same (literal :: pattern) text =
      match text with
      | [] => false
      | char :: rest => same literal char && likeMatches same pattern rest := by
  obtain ⟨notPercent, notUnderscore, notEscape⟩ := plain
  rw [likeMatches.eq_def]
  split <;> simp_all

theorem likeMatches_escaped (same : Char → Char → Bool) (literal : Char)
    (pattern text : List Char) :
    likeMatches same ('\\' :: literal :: pattern) text =
      match text with
      | [] => false
      | char :: rest => same literal char && likeMatches same pattern rest := by
  cases text <;> rfl

/-- A character that is not a wildcard is translated to a pattern that matches it only. -/
theorem likeMatches_escapeLikeLiteral (same : Char → Char → Bool) (literal : Char)
    (pattern text : List Char) :
    likeMatches same (escapeLikeLiteral literal ++ pattern) text =
      match text with
      | [] => false
      | char :: rest => same literal char && likeMatches same pattern rest := by
  unfold escapeLikeLiteral
  split
  · exact likeMatches_escaped same '\\' pattern text
  · exact likeMatches_escaped same '%' pattern text
  · exact likeMatches_escaped same '_' pattern text
  · rename_i notEscape notPercent notUnderscore
    exact likeMatches_literal same literal pattern text
      ⟨notPercent, notUnderscore, notEscape⟩

theorem wildcardMatches_literal (same : Char → Char → Bool) (literal : Char)
    (term text : List Char) (plain : literal ≠ '*' ∧ literal ≠ '?') :
    wildcardMatches same (literal :: term) text =
      match text with
      | [] => false
      | char :: rest => same literal char && wildcardMatches same term rest := by
  obtain ⟨notStar, notMark⟩ := plain
  rw [wildcardMatches.eq_def]
  split <;> simp_all

/-- The pattern means what the term means, whatever characters count as the same. -/
theorem likeMatches_translate (same : Char → Char → Bool) (term text : List Char) :
    likeMatches same (term.flatMap translateChar) text = wildcardMatches same term text := by
  induction term generalizing text with
  | nil => rfl
  | cons char term inductionHypothesis =>
    rw [List.flatMap_cons]
    by_cases star : char = '*'
    · subst star
      show text.tails.any (likeMatches same (term.flatMap translateChar)) =
        text.tails.any (wildcardMatches same term)
      rw [funext inductionHypothesis]
    by_cases mark : char = '?'
    · subst mark
      show likeMatches same ('_' :: term.flatMap translateChar) text =
        wildcardMatches same ('?' :: term) text
      cases text with
      | nil => rfl
      | cons _ rest => exact inductionHypothesis rest
    rw [translateChar_literal char star mark, likeMatches_escapeLikeLiteral,
      wildcardMatches_literal same char term text ⟨star, mark⟩]
    cases text with
    | nil => rfl
    | cons first rest => simp only [inductionHypothesis]

theorem likeWellFormed_escapeLikeLiteral (literal : Char) (pattern : List Char) :
    likeWellFormed (escapeLikeLiteral literal ++ pattern) = likeWellFormed pattern := by
  unfold escapeLikeLiteral
  split
  · rfl
  · rfl
  · rfl
  · rename_i notEscape _ _
    rw [List.singleton_append, likeWellFormed.eq_def]
    split <;> simp_all

theorem likeWellFormed_translate (term : List Char) :
    likeWellFormed (term.flatMap translateChar) = true := by
  induction term with
  | nil => rfl
  | cons char term inductionHypothesis =>
    rw [List.flatMap_cons]
    by_cases star : char = '*'
    · subst star
      exact inductionHypothesis
    by_cases mark : char = '?'
    · subst mark
      exact inductionHypothesis
    rw [translateChar_literal char star mark, likeWellFormed_escapeLikeLiteral]
    exact inductionHypothesis

/-- A text matches the translated pattern under `LIKE` exactly when it matches the term as a
wildcard expression, and the pattern never ends in a dangling escape. -/
theorem translateWildcard_meaning (term text : String) :
    (likeMatches (· == ·) (translateWildcard term).pattern.toList text.toList =
        wildcardMatches (· == ·) term.toList text.toList) ∧
      likeWellFormed (translateWildcard term).pattern.toList = true := by
  rw [translateWildcard_pattern]
  exact ⟨likeMatches_translate _ _ _, likeWellFormed_translate _⟩

/-! ### What a pattern is classified as -/

theorem classifyPatternGo_escapeLikeLiteral (literal : Char) (pattern : List Char)
    (percents underscores : Nat) (atEnd : Bool) :
    classifyPatternGo (escapeLikeLiteral literal ++ pattern) percents underscores atEnd =
      classifyPatternGo pattern percents underscores atEnd := by
  unfold escapeLikeLiteral
  split
  · rfl
  · rfl
  · rfl
  · rename_i notEscape notPercent notUnderscore
    rw [List.singleton_append, classifyPatternGo.eq_def]
    split <;> simp_all

theorem translateChar_ne_nil (char : Char) : translateChar char ≠ [] := by
  unfold translateChar
  split
  · exact List.cons_ne_nil _ _
  · exact List.cons_ne_nil _ _
  · unfold escapeLikeLiteral
    split <;> exact List.cons_ne_nil _ _

theorem isEmpty_translate (term : List Char) :
    (term.flatMap translateChar).isEmpty = term.isEmpty := by
  cases term with
  | nil => rfl
  | cons char rest => simp [translateChar_ne_nil char]

/-- The loop over a translated term counts the term's own wildcards, and ends with whether the
term's last character is a star. -/
theorem classifyPatternGo_translate (term : List Char) (percents underscores : Nat)
    (atEnd : Bool) :
    classifyPatternGo (term.flatMap translateChar) percents underscores atEnd =
      (percents + term.count '*', underscores + term.count '?',
        if '*' ∈ term then decide (term.getLast? = some '*') else atEnd) := by
  induction term generalizing percents underscores atEnd with
  | nil => rfl
  | cons char rest inductionHypothesis =>
    rw [List.flatMap_cons]
    by_cases star : char = '*'
    · subst star
      show classifyPatternGo (rest.flatMap translateChar) (percents + 1) underscores
        (rest.flatMap translateChar).isEmpty = _
      rw [inductionHypothesis, isEmpty_translate, List.count_cons_self,
        List.count_cons_of_ne (by decide), Nat.add_right_comm, Nat.add_assoc]
      cases rest with
      | nil => rfl
      | cons next rest =>
        by_cases later : '*' ∈ next :: rest
        · simp [later]
        · have notLast : (next :: rest).getLast? ≠ some '*' := fun last =>
            later (List.mem_of_getLast? last)
          simp [later, notLast]
    have last :
        (if '*' ∈ char :: rest then decide ((char :: rest).getLast? = some '*') else atEnd) =
          if '*' ∈ rest then decide (rest.getLast? = some '*') else atEnd := by
      cases rest with
      | nil => simp [Ne.symm star]
      | cons next rest => simp [Ne.symm star]
    rw [last, List.count_cons_of_ne star]
    by_cases mark : char = '?'
    · subst mark
      show classifyPatternGo (rest.flatMap translateChar) percents (underscores + 1) atEnd = _
      rw [inductionHypothesis, List.count_cons_self, Nat.add_right_comm, Nat.add_assoc]
    · rw [translateChar_literal char star mark, classifyPatternGo_escapeLikeLiteral,
        inductionHypothesis, List.count_cons_of_ne mark]

/-- A term has a pure prefix when its only wildcard is a star at its end. -/
theorem single_star_iff (term : List Char) :
    term.count '*' = 1 ∧ term.count '?' = 0 ∧ term.getLast? = some '*' ↔
      ∃ start, term = start ++ ['*'] ∧ '*' ∉ start ∧ '?' ∉ start := by
  constructor
  · rintro ⟨stars, marks, last⟩
    obtain ⟨start, rfl⟩ := List.getLast?_eq_some_iff.mp last
    rw [List.count_append, List.count_singleton_self] at stars
    rw [List.count_append] at marks
    exact ⟨start, rfl, List.count_eq_zero.mp (by omega), List.count_eq_zero.mp (by omega)⟩
  · rintro ⟨start, rfl, noStar, noMark⟩
    refine ⟨?_, ?_, List.getLast?_concat⟩
    · rw [List.count_append, List.count_eq_zero.mpr noStar, List.count_singleton_self]
    · rw [List.count_append, List.count_eq_zero.mpr noMark]
      rfl

theorem containsWildcard_eq_false_iff (term : String) :
    containsWildcard term = false ↔ '*' ∉ term.toList ∧ '?' ∉ term.toList := by
  simp only [containsWildcard, Text.containsAny, List.any_eq_false]
  constructor
  · intro absent
    exact ⟨fun member => absent '*' member (by decide),
      fun member => absent '?' member (by decide)⟩
  · rintro ⟨noStar, noMark⟩ char member wildcard
    have either : char = '*' ∨ char = '?' := by simpa using wildcard
    rcases either with rfl | rfl
    · exact noStar member
    · exact noMark member

theorem classifyPattern_eq_startsWith_iff (pattern : String) :
    classifyPattern pattern = .startsWith ↔
      classifyPatternGo pattern.toList 0 0 false = (1, 0, true) := by
  unfold classifyPattern
  split
  · rename_i counted
    simp [counted]
  · rename_i other
    exact iff_of_false (by simp) other

theorem translateWildcard_exact_iff (term : String) :
    (translateWildcard term).patternType = .exact ↔ containsWildcard term = false := by
  unfold translateWildcard classifyPattern
  cases wildcards : containsWildcard term with
  | false => simp
  | true =>
    refine iff_of_false ?_ (by simp)
    simp only [Bool.not_true, Bool.false_eq_true, ↓reduceIte]
    split <;> simp

theorem translateWildcard_startsWith_iff (term : String) :
    (translateWildcard term).patternType = .startsWith ↔
      ∃ start, term.toList = start ++ ['*'] ∧ '*' ∉ start ∧ '?' ∉ start := by
  rw [← single_star_iff]
  cases wildcards : containsWildcard term with
  | false =>
    have noStar := ((containsWildcard_eq_false_iff term).mp wildcards).1
    rw [(translateWildcard_exact_iff term).mpr wildcards, List.count_eq_zero.mpr noStar]
    simp
  | true =>
    have classified : (translateWildcard term).patternType =
        classifyPattern (translateWildcard term).pattern := by
      simp [translateWildcard, wildcards]
    rw [classified, classifyPattern_eq_startsWith_iff, translateWildcard_pattern,
      classifyPatternGo_translate]
    by_cases star : '*' ∈ term.toList
    · simp [star]
    · simp [star, List.count_eq_zero.mpr star]

/-- A term is exact when it has no wildcard, a prefix when its only wildcard is a star at its end,
and otherwise may match anywhere, whatever characters need escaping. -/
theorem translateWildcard_patternType (term : String) :
    ((translateWildcard term).patternType = .exact ↔
        '*' ∉ term.toList ∧ '?' ∉ term.toList) ∧
      ((translateWildcard term).patternType = .startsWith ↔
        ∃ start, term.toList = start ++ ['*'] ∧ '*' ∉ start ∧ '?' ∉ start) ∧
      ((translateWildcard term).patternType = .contains ↔
        ('*' ∈ term.toList ∨ '?' ∈ term.toList) ∧
          ¬∃ start, term.toList = start ++ ['*'] ∧ '*' ∉ start ∧ '?' ∉ start) := by
  rw [← translateWildcard_startsWith_iff, ← containsWildcard_eq_false_iff,
    ← translateWildcard_exact_iff]
  have wildcard : '*' ∈ term.toList ∨ '?' ∈ term.toList ↔
      ¬(translateWildcard term).patternType = .exact := by
    rw [translateWildcard_exact_iff, containsWildcard_eq_false_iff]
    tauto
  rw [wildcard]
  cases (translateWildcard term).patternType <;> simp

/-! ### What a term can match -/

section Matching

variable (same : Char → Char → Bool)

theorem wildcardMatches_star (term text : List Char) :
    wildcardMatches same ('*' :: term) text = true ↔
      ∃ rest, rest <:+ text ∧ wildcardMatches same term rest = true := by
  show text.tails.any (wildcardMatches same term) = true ↔ _
  simp only [List.any_eq_true, List.mem_tails]

/-- Every literal of a term that matches is the same as a character of the text. -/
theorem same_of_wildcardMatches (term text : List Char)
    (matched : wildcardMatches same term text = true) (literal : Char) (member : literal ∈ term)
    (notStar : literal ≠ '*') (notMark : literal ≠ '?') :
    ∃ char ∈ text, same literal char = true := by
  induction term generalizing text with
  | nil => cases member
  | cons head rest inductionHypothesis =>
    by_cases star : head = '*'
    · subst star
      obtain ⟨remaining, suffix, restMatched⟩ := (wildcardMatches_star same rest text).mp matched
      have later : literal ∈ rest := (List.mem_cons.mp member).resolve_left notStar
      obtain ⟨char, inside, equal⟩ := inductionHypothesis remaining restMatched later
      exact ⟨char, suffix.mem inside, equal⟩
    by_cases mark : head = '?'
    · subst mark
      have later : literal ∈ rest := (List.mem_cons.mp member).resolve_left notMark
      cases text with
      | nil => cases matched
      | cons first remaining =>
        obtain ⟨char, inside, equal⟩ := inductionHypothesis remaining matched later
        exact ⟨char, List.mem_cons_of_mem first inside, equal⟩
    rw [wildcardMatches_literal same head rest text ⟨star, mark⟩] at matched
    cases text with
    | nil => cases matched
    | cons first remaining =>
      obtain ⟨equal, restMatched⟩ := Bool.and_eq_true_iff.mp matched
      rcases List.mem_cons.mp member with rfl | later
      · exact ⟨first, List.mem_cons_self, equal⟩
      · obtain ⟨char, inside, sameChar⟩ := inductionHypothesis remaining restMatched later
        exact ⟨char, List.mem_cons_of_mem first inside, sameChar⟩

/-- Only terms of stars match the empty text. -/
theorem wildcardMatches_nil_iff (term : List Char) :
    wildcardMatches same term [] = true ↔ ∀ char ∈ term, char = '*' := by
  induction term with
  | nil => simp [wildcardMatches]
  | cons head rest inductionHypothesis =>
    rw [List.forall_mem_cons, ← inductionHypothesis]
    by_cases star : head = '*'
    · subst star
      rw [wildcardMatches_star]
      simp
    · refine iff_of_false ?_ fun both => star both.1
      by_cases mark : head = '?'
      · subst mark
        exact Bool.false_ne_true
      · rw [wildcardMatches_literal same head rest [] ⟨star, mark⟩]
        exact Bool.false_ne_true

/-- Terms of stars match every text. -/
theorem wildcardMatches_stars (term text : List Char) (stars : ∀ char ∈ term, char = '*')
    (nonempty : term ≠ []) : wildcardMatches same term text = true := by
  cases term with
  | nil => exact absurd rfl nonempty
  | cons head rest =>
    obtain ⟨rfl, others⟩ := List.forall_mem_cons.mp stars
    rw [wildcardMatches_star]
    exact ⟨[], List.nil_suffix, (wildcardMatches_nil_iff same rest).mpr others⟩

/-- A term of wildcards matches any character as often as it has question marks. -/
theorem wildcardMatches_replicate (term : List Char) (char : Char)
    (wildcards : ∀ wildcard ∈ term, wildcard = '*' ∨ wildcard = '?') :
    wildcardMatches same term (List.replicate (term.count '?') char) = true := by
  induction term with
  | nil => rfl
  | cons head rest inductionHypothesis =>
    obtain ⟨wildcard, others⟩ := List.forall_mem_cons.mp wildcards
    have matched := inductionHypothesis others
    rcases wildcard with rfl | rfl
    · rw [List.count_cons_of_ne (by decide), wildcardMatches_star]
      exact ⟨_, List.suffix_rfl, matched⟩
    · rw [List.count_cons_self, List.replicate_succ]
      exact matched

end Matching

end SharedGo.Search
