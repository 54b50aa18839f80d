/-
This file proves what the rules of a bundle decide together. The loop over the
rules ends early at a deny and remembers a permit, and its verdict is that of the
set of rules: some permitting rule applies and no denying rule does, in whichever
order and how often the rules are listed.

It also proves what a pattern with a star at its end covers. On its own a star
covers every value. After other characters it is read by the path matcher, whose
star stops at a slash, so the pattern covers less than the values that begin with
those characters.
-/

import SharedGo.ParcHandler

namespace SharedGo.Authz

open SharedGo Text

/-! ### Deny overrides -/

section Evaluation

variable [CaseMapping]

/-- The rules of a bundle, if there is one. -/
def bundleRules (bundle : Option PrincipalPermissions) : List PermissionRule :=
  (bundle.map PrincipalPermissions.rules).getD []

theorem evaluatePermissions_eq (bundle : Option PrincipalPermissions) (request : Request) :
    evaluatePermissions bundle request =
      if bundleRules bundle = [] then ⟨false, "no permissions found for principal"⟩
      else if Applies .deny (bundleRules bundle) request then
        ⟨false, "explicitly denied by policy rule"⟩
      else if Applies .permit (bundleRules bundle) request then ⟨true, ""⟩
      else ⟨false, "no matching permit rule found for action on resource"⟩ := by
  cases bundle with
  | none => rfl
  | some permissions =>
    show permissions.evaluate request = _
    rw [PrincipalPermissions.evaluate, evaluateRules_eq]
    simp only [Bool.false_eq_true, false_or]
    rfl

theorem allowed_iff (bundle : Option PrincipalPermissions) (request : Request) :
    (evaluatePermissions bundle request).allowed = true ↔
      Applies .permit (bundleRules bundle) request ∧
        ¬Applies .deny (bundleRules bundle) request := by
  rw [evaluatePermissions_eq]
  split_ifs with empty denied permitted
  · simp [empty, Applies]
  · simp [denied]
  · simp [denied, permitted]
  · simp [permitted]

/-- Bundles with the same rules, in any order and any number, apply alike. -/
theorem applies_congr (effect : Effect) (first second : List PermissionRule) (request : Request)
    (same : ∀ rule, rule ∈ first ↔ rule ∈ second) :
    Applies effect first request ↔ Applies effect second request := by
  simp only [Applies, same]

/-- Deny overrides: a bundle allows a request exactly when a permitting rule applies to it and no
denying rule does. So the decision depends on the set of rules only, and another rule that does
not permit never makes a denied request allowed. -/
theorem deny_overrides (bundle : Option PrincipalPermissions) (request : Request) :
    ((evaluatePermissions bundle request).allowed = true ↔
        Applies .permit (bundleRules bundle) request ∧
          ¬Applies .deny (bundleRules bundle) request) ∧
      (∀ other, (∀ rule, rule ∈ bundleRules bundle ↔ rule ∈ bundleRules other) →
        evaluatePermissions other request = evaluatePermissions bundle request) ∧
      ∀ principalID before rule after, bundleRules bundle = before ++ after →
        rule.effect ≠ .permit → (evaluatePermissions bundle request).allowed = false →
        (evaluatePermissions (some ⟨principalID, before ++ rule :: after⟩) request).allowed =
          false := by
  refine ⟨allowed_iff bundle request, fun other same => ?_, ?_⟩
  · have empty : bundleRules other = [] ↔ bundleRules bundle = [] := by
      simp only [List.eq_nil_iff_forall_not_mem, same]
    rw [evaluatePermissions_eq, evaluatePermissions_eq]
    simp only [empty, applies_congr _ _ _ request same]
  · intro principalID before rule after rules foreign denied
    rw [← Bool.not_eq_true, allowed_iff] at denied ⊢
    rintro ⟨⟨permitting, member, permits, applies⟩, undenied⟩
    refine denied ⟨⟨permitting, ?_, permits, applies⟩, ?_⟩
    · rw [rules]
      have among : permitting ∈ before ++ rule :: after := member
      rcases List.mem_append.mp among with earlier | later
      · exact List.mem_append_left _ earlier
      · rcases List.mem_cons.mp later with rfl | later
        · exact absurd permits foreign
        · exact List.mem_append_right _ later
    · rintro ⟨denying, member, denies, applies⟩
      rw [rules] at member
      refine undenied ⟨denying, ?_, denies, applies⟩
      show denying ∈ before ++ rule :: after
      rcases List.mem_append.mp member with earlier | later
      · exact List.mem_append_left _ earlier
      · exact List.mem_append_right _ (List.mem_cons_of_mem _ later)

/-! ### Patterns with a star at their end -/

theorem matchGlob_literal (literal value : String)
    (plain : ∀ char ∈ literal.toList, Path.isLiteral char = true) (nonempty : literal ≠ "") :
    matchGlob literal value = true ↔ value = literal := by
  have named : ¬(literal = "*" ∨ literal = "") := by
    rintro (rfl | rfl)
    · exact absurd (plain '*' (by decide)) (by decide)
    · exact nonempty rfl
  obtain ⟨matched, isMatch, iff⟩ := Path.matchPath_literal literal value plain
  rw [matchGlob, if_neg named, isMatch]
  split_ifs with same
  · simp [same]
  · exact iff

/-- After other characters a star covers what is left of a value, unless it holds a slash. -/
theorem matchGlob_star (literal value : String)
    (plain : ∀ char ∈ literal.toList, Path.isLiteral char = true) (nonempty : literal ≠ "") :
    matchGlob (literal ++ "*") value = true ↔
      ∃ rest, value = literal ++ rest ∧ '/' ∉ rest.toList := by
  have named : ¬(literal ++ "*" = "*" ∨ literal ++ "*" = "") := by
    simp [← String.toList_inj, nonempty]
  obtain ⟨matched, isMatch, iff⟩ := Path.matchPath_star literal value plain
  rw [matchGlob, if_neg named, isMatch]
  split_ifs with same
  · exact iff_of_true rfl ⟨"*", same.symm, by decide⟩
  · exact iff

/-- A pattern of literals and a star covers exactly the values that begin with the literals when
there are none, or when no slash follows them in the value; literals alone cover themselves. -/
theorem trailingStar_iff (literal value : String)
    (plain : ∀ char ∈ literal.toList, Path.isLiteral char = true) :
    ((matchGlob (literal ++ "*") value = true ↔ ∃ rest, value = literal ++ rest) ↔
        literal = "" ∨ ∀ rest, value = literal ++ rest → '/' ∉ rest.toList) ∧
      (literal ≠ "" → (matchGlob literal value = true ↔ value = literal)) := by
  refine ⟨?_, matchGlob_literal literal value plain⟩
  by_cases empty : literal = ""
  · subst empty
    simp [matchGlob]
  · rw [matchGlob_star literal value plain empty, or_iff_right empty]
    constructor
    · intro covers rest split slash
      obtain ⟨other, otherSplit, noSlash⟩ := covers.mpr ⟨rest, split⟩
      rw [split, String.append_right_inj] at otherSplit
      rw [otherSplit] at slash
      exact noSlash slash
    · intro noSlash
      constructor
      · exact fun ⟨rest, split, _⟩ => ⟨rest, split⟩
      · exact fun ⟨rest, split⟩ => ⟨rest, split, noSlash rest split⟩

end Evaluation

/-- All reports are permitted, except those whose id begins with `rep_`. -/
def reportPermissions : PrincipalPermissions :=
  ⟨"user_42", [⟨"*", "report", "*", "", .permit⟩, ⟨"*", "report", "rep_*", "", .deny⟩]⟩

/-- A request to read the report with the id. -/
def reportByID (id : String) : Request where
  principal := ⟨"user_42", "", [], [], "", ∅⟩
  action := ⟨"read", "GET"⟩
  resource := ⟨"report", id, "", ∅⟩
  context := ⟨"", ⟨0⟩, ∅, ∅⟩

theorem trailingStar_report :
    ((@matchGlob asciiCase ("rep_" ++ "*") "rep_100" = true ↔ ∃ rest, "rep_100" = "rep_" ++ rest) ↔
        "rep_" = "" ∨ ∀ rest, "rep_100" = "rep_" ++ rest → '/' ∉ rest.toList) ∧
      ("rep_" ≠ "" → (@matchGlob asciiCase "rep_" "rep_100" = true ↔ "rep_100" = "rep_")) :=
  @trailingStar_iff asciiCase "rep_" "rep_100" (List.all_eq_true.mp (by decide))

/-- An id that begins with `rep_` and holds a slash is not covered, and its report is allowed. -/
theorem slashed_report_allowed :
    (∃ rest, "rep_1/draft" = "rep_" ++ rest) ∧
      @matchGlob asciiCase ("rep_" ++ "*") "rep_1/draft" = false ∧
      (@evaluatePermissions asciiCase (some reportPermissions) (reportByID "rep_1/draft")).allowed =
        true ∧
      (@evaluatePermissions asciiCase (some reportPermissions) (reportByID "rep_1")).allowed =
        false :=
  ⟨⟨"1/draft", by decide⟩, by decide +kernel, by decide +kernel, by decide +kernel⟩

end SharedGo.Authz
