/-
This file compares the two requirements that list what a principal has to have:
scopes and roles. Both carry a flag that says whether all of the list is required
or one of it is enough. The handler of scopes follows the flag. The handler of
roles does not read it and requires every role, so a policy that asks for one of
several roles refuses a principal with some of them only.
-/

import SharedGo.PolicyBuilder

namespace SharedGo.Authz

open SharedGo Text

/-- What a requirement with a flag asks for: all of a list, or one of it unless it is empty. -/
def Required (has : String → Prop) (listed : List String) (requireAll : Bool) : Prop :=
  if requireAll then ∀ name ∈ listed, has name else listed = [] ∨ ∃ name ∈ listed, has name

/-- Requiring all says the same as what the flag asks for when the flag is set, there is nothing to
have, or the principal has all or none of it. -/
theorem all_iff_required_iff (has : String → Prop) (listed : List String) (requireAll : Bool) :
    ((∀ name ∈ listed, has name) ↔ Required has listed requireAll) ↔
      requireAll = true ∨ listed = [] ∨ (∀ name ∈ listed, has name) ∨
        ∀ name ∈ listed, ¬has name := by
  cases requireAll with
  | true => simp [Required]
  | false =>
    cases listed with
    | nil => simp [Required]
    | cons first rest =>
      simp only [Required, Bool.false_eq_true, if_false, false_or, List.cons_ne_nil]
      constructor
      · intro same
        by_cases all : ∀ name ∈ first :: rest, has name
        · exact Or.inl all
        · exact Or.inr fun name member held => all (same.mpr ⟨name, member, held⟩)
      · rintro (all | none)
        · exact iff_of_true all ⟨first, List.mem_cons_self, all first List.mem_cons_self⟩
        · refine iff_of_false (fun all => ?_) ?_
          · exact none first List.mem_cons_self (all first List.mem_cons_self)
          · rintro ⟨name, member, held⟩
            exact none name member held

/-- The principal has the role, ignoring case. -/
def HoldsRole [CaseMapping] (principal : Authn.Principal) (role : String) : Prop :=
  ∃ held ∈ principal.roles, CaseMapping.toLower held = CaseMapping.toLower role

/-- The policy of a single requirement. -/
def singlePolicy (name : String) (requirement : Requirement) : Policy :=
  ((newPolicy name).addRequirement requirement).build

section Requirements

variable {World : Type} [CaseMapping] [BundleCodec]

/-- A policy of a single requirement is decided by the handler of its type. -/
theorem singlePolicy_allowed_iff (parcHandler : Option (PARCHandler World))
    (engine : PolicyEngine World) (constructed : Constructed parcHandler engine) (name : String)
    (requirement : Requirement) (principal : Authn.Principal) (evalCtx : Option EvaluationContext)
    (world : World) :
    (engine.evaluate (singlePolicy name requirement) (some principal) evalCtx world).1.allowed =
        true ↔
      ∃ handler, standardHandler parcHandler requirement.requirementType = some handler ∧
        (handler principal requirement (evalCtx.getD .zero) world).1 = .ok true := by
  show (engine.evaluateRequirements principal (evalCtx.getD .zero) [requirement] world).1.allowed =
    true ↔ _
  rw [allowed_cons_iff, lookup_constructed parcHandler engine constructed]
  constructor
  · rintro ⟨handler, next, found, handled, _⟩
    exact ⟨handler, found, by rw [handled]⟩
  · rintro ⟨handler, found, handled⟩
    exact ⟨handler, _, found, Prod.ext handled rfl, rfl⟩

/-- A requirement for roles is honoured exactly when all of them are required, there are none, or
the principal has all or none of them. A requirement for scopes always is. -/
theorem roleRequirement_honoured_iff (parcHandler : Option (PARCHandler World))
    (engine : PolicyEngine World) (constructed : Constructed parcHandler engine)
    (principal : Authn.Principal) (evalCtx : Option EvaluationContext) (world : World)
    (name : String) (listed : List String) (requireAll : Bool) :
    let allowed := fun requirement =>
      (engine.evaluate (singlePolicy name requirement) (some principal) evalCtx world).1.allowed
    ((allowed (.role listed requireAll) = true ↔
          Required (HoldsRole principal) listed requireAll) ↔
        requireAll = true ∨ listed = [] ∨ (∀ role ∈ listed, HoldsRole principal role) ∨
          ∀ role ∈ listed, ¬HoldsRole principal role) ∧
      (allowed (.scope listed requireAll) = true ↔
        Required (· ∈ principal.scopes) listed requireAll) := by
  intro allowed
  have single (requirement : Requirement) := singlePolicy_allowed_iff parcHandler engine
    constructed name requirement principal evalCtx world
  constructor
  · rw [← all_iff_required_iff]
    refine iff_of_eq (congrArg (· ↔ _) (propext ?_))
    rw [single]
    simp [standardHandler, Requirement.requirementType, roleRequirementHandler, HoldsRole,
      Authn.Principal.hasRole]
  · rw [single]
    cases requireAll <;>
      simp [standardHandler, Requirement.requirementType, scopeRequirementHandler, Required,
        Authn.Principal.hasAllScopes, Authn.Principal.hasAnyScope, Authn.Principal.hasScope]

end Requirements

/-- Both of two roles are required of a principal that has them in another case. -/
theorem roleRequirement_honoured_editor :
    let engine := @newPolicyEngine Unit asciiCase none
    let editor : Authn.Principal :=
      ⟨"user_42", "", .authCodePKCE, ["documents:read"], ["Editor", "Auditor"], ∅⟩
    (engine.evaluate (singlePolicy "Editors" (.role ["editor", "auditor"] true)) (some editor) none
        ()).1.allowed = true ↔
      Required (@HoldsRole asciiCase editor) ["editor", "auditor"] true :=
  (@roleRequirement_honoured_iff Unit asciiCase jsonCodec none _
    (@Constructed.policyEngine Unit asciiCase jsonCodec none) _ none () "Editors"
    ["editor", "auditor"] true).1.mpr (Or.inl rfl)

/-- One of two roles is enough, and the principal has it, but is refused; with scopes in their
place it is not. -/
theorem anyRole_refused :
    let engine := @newPolicyEngine Unit asciiCase none
    let evaluate := fun requirement =>
      (engine.evaluate (singlePolicy "Admins" requirement) (some signedIn) none ()).1
    evaluate (.role ["admin", "auditor"] false) =
        ⟨false, "requirement 'RoleRequirement' failed"⟩ ∧
      Required (@HoldsRole asciiCase signedIn) ["admin", "auditor"] false ∧
      evaluate (.scope ["documents:read", "documents:write"] false) = ⟨true, ""⟩ := by
  refine ⟨by decide +kernel, Or.inr ⟨"admin", by simp, "Admin", by simp [signedIn], ?_⟩, by
    decide +kernel⟩
  decide +kernel

end SharedGo.Authz
