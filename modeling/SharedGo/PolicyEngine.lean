/-
This file models the policy engine: the handlers of requirements and the
evaluation of a policy, which asks the handler of each requirement in turn. What a
handler reads and writes besides the principal and the request, such as the
permission cache, is a world that the evaluation passes from one to the next.
-/

import SharedGo.Policy

namespace SharedGo.Authz

open SharedGo Text

/-! ### Results -/

structure AuthorizationResult where
  succeeded : Bool
  failureReason : String
  deriving DecidableEq, Repr

def failedResult (reason : String) : AuthorizationResult := ⟨false, reason⟩

def Decision.toResult (decision : Decision) : AuthorizationResult :=
  ⟨decision.allowed, decision.reason⟩

/-- The errors of an evaluation; a handler's is known by its text. -/
inductive AuthzError where
  | nilPrincipal
  | handler (message : String)
  deriving DecidableEq, Repr

/-! ### Handlers -/

/-- Decides a requirement, or fails, and changes the world. -/
abbrev RequirementHandler (World : Type) :=
  Authn.Principal → Requirement → EvaluationContext → World → Except String Bool × World

section Handlers

variable {World : Type}

def scopeRequirementHandler : RequirementHandler World := fun principal requirement _ world =>
  match requirement with
  | .scope scopes true => (.ok (principal.hasAllScopes scopes), world)
  | .scope scopes false => (.ok (principal.hasAnyScope scopes), world)
  | _ => (.ok false, world)

/-- Every role is required, whatever the requirement says. -/
def roleRequirementHandler [CaseMapping] : RequirementHandler World :=
  fun principal requirement _ world =>
    match requirement with
    | .role roles _ => (.ok (roles.all principal.hasRole), world)
    | _ => (.ok false, world)

def userPresentHandler : RequirementHandler World := fun principal _ _ world =>
  (.ok principal.isUserPresent, world)

def m2mHandler : RequirementHandler World := fun principal _ _ world =>
  (.ok (principal.method = .clientCredentials || principal.method = .apiKey), world)

def customRequirementHandler : RequirementHandler World :=
  fun principal requirement evalCtx world =>
    match requirement with
    | .custom _ (some func) => (.ok (func (customRequest principal evalCtx)), world)
    | _ => (.ok false, world)

/-! ### The engine -/

structure PolicyEngine (World : Type) where
  policies : GoMap String Policy
  handlers : GoMap String (RequirementHandler World)
  defaultPolicy : Option Policy
  fallbackPolicy : Option Policy

/-- An engine with the standard handlers, and one for permissions if it is given. -/
def newPolicyEngine [CaseMapping] (parcHandler : Option (RequirementHandler World)) :
    PolicyEngine World where
  policies := ∅
  handlers :=
    let standard : GoMap String (RequirementHandler World) :=
      ((((AList.insert "ScopeRequirement" scopeRequirementHandler ∅).insert "RoleRequirement"
        roleRequirementHandler).insert "UserPresentRequirement" userPresentHandler).insert
        "M2MRequirement" m2mHandler).insert "CustomRequirement" customRequirementHandler
    match parcHandler with
    | some handler => standard.insert "PARCRequirement" handler
    | none => standard
  defaultPolicy := none
  fallbackPolicy := none

/-- The requirements one after the other; the first that fails decides. -/
def PolicyEngine.evaluateRequirements (engine : PolicyEngine World)
    (principal : Authn.Principal) (evalCtx : EvaluationContext) :
    List Requirement → World → Decision × Option AuthzError × World
  | [], world => (⟨true, ""⟩, none, world)
  | requirement :: rest, world =>
    match engine.handlers.lookup requirement.requirementType with
    | none =>
      (⟨false, "no handler registered for requirement type '" ++ requirement.requirementType ++
        "'"⟩, none, world)
    | some handler =>
      match handler principal requirement evalCtx world with
      | (.error message, world) => (⟨false, message⟩, some (.handler message), world)
      | (.ok false, world) =>
        (⟨false, "requirement '" ++ requirement.requirementType ++ "' failed"⟩, none, world)
      | (.ok true, world) => engine.evaluateRequirements principal evalCtx rest world

/-- Evaluates a policy. -/
def PolicyEngine.evaluate (engine : PolicyEngine World) (policy : Policy)
    (principal : Option Authn.Principal) (evalCtx : Option EvaluationContext) (world : World) :
    Decision × Option AuthzError × World :=
  match principal with
  | none => (⟨false, "principal is nil"⟩, some .nilPrincipal, world)
  | some principal =>
    engine.evaluateRequirements principal (evalCtx.getD .zero) policy.requirements world

/-- The errors of an evaluation by name. -/
inductive NamedPolicyError where
  | policyNotFound
  | evaluation (error : AuthzError)
  deriving DecidableEq, Repr

def NamedPolicyError.text : NamedPolicyError → String
  | .policyNotFound => "authz: policy not found"
  | .evaluation .nilPrincipal => "authz: principal is nil"
  | .evaluation (.handler message) => message

/-- Evaluates the policy that is registered under a name. -/
def PolicyEngine.evaluatePolicy (engine : PolicyEngine World) (policyName : String)
    (principal : Option Authn.Principal) (evalCtx : Option EvaluationContext) (world : World) :
    Decision × Option NamedPolicyError × World :=
  match engine.policies.lookup policyName with
  | none => (⟨false, "policy '" ++ policyName ++ "' not found"⟩, some .policyNotFound, world)
  | some policy =>
    match engine.evaluate policy principal evalCtx world with
    | (decision, error, world) => (decision, error.map .evaluation, world)

/-- Evaluates a named policy to a result. -/
def PolicyEngine.authorize (engine : PolicyEngine World) (principal : Option Authn.Principal)
    (policyName : String) (evalCtx : Option EvaluationContext) (world : World) :
    AuthorizationResult × Option NamedPolicyError × World :=
  match engine.evaluatePolicy policyName principal evalCtx world with
  | (decision, error, world) => (decision.toResult, error, world)

/-! ### How requirements add up -/

section Evaluation

variable (engine : PolicyEngine World) (principal : Authn.Principal) (evalCtx : EvaluationContext)

/-- Requirements are allowed when the first one's handler says so, and the others are allowed in the
world it leaves. -/
theorem allowed_cons_iff (requirement : Requirement) (rest : List Requirement) (world : World) :
    (engine.evaluateRequirements principal evalCtx (requirement :: rest) world).1.allowed = true ↔
      ∃ handler next, engine.handlers.lookup requirement.requirementType = some handler ∧
        handler principal requirement evalCtx world = (.ok true, next) ∧
        (engine.evaluateRequirements principal evalCtx rest next).1.allowed = true := by
  rw [PolicyEngine.evaluateRequirements]
  cases engine.handlers.lookup requirement.requirementType with
  | none => simp
  | some handler =>
    rcases handled : handler principal requirement evalCtx world with ⟨_ | _ | _, next⟩
    · simp [handled]
    · simp [handled]
    · simp [handled]

/-- The requirements of a first list decide unless they are all met. -/
theorem evaluateRequirements_append (first second : List Requirement) (world : World) :
    engine.evaluateRequirements principal evalCtx (first ++ second) world =
      if (engine.evaluateRequirements principal evalCtx first world).1.allowed then
        engine.evaluateRequirements principal evalCtx second
          (engine.evaluateRequirements principal evalCtx first world).2.2
      else engine.evaluateRequirements principal evalCtx first world := by
  induction first generalizing world with
  | nil => rfl
  | cons requirement rest inductionHypothesis =>
    rw [List.cons_append, PolicyEngine.evaluateRequirements, PolicyEngine.evaluateRequirements]
    cases engine.handlers.lookup requirement.requirementType with
    | none => rfl
    | some handler =>
      rcases handled : handler principal requirement evalCtx world with ⟨_ | _ | _, next⟩
      · simp only [handled]
        rfl
      · simp only [handled]
        rfl
      · simp only [handled]
        exact inductionHypothesis next

/-- An evaluation that fails does not allow. -/
theorem evaluateRequirements_error (requirements : List Requirement) (world : World)
    (failed : (engine.evaluateRequirements principal evalCtx requirements world).2.1 ≠ none) :
    (engine.evaluateRequirements principal evalCtx requirements world).1.allowed = false := by
  induction requirements generalizing world with
  | nil => exact absurd rfl failed
  | cons requirement rest inductionHypothesis =>
    rw [PolicyEngine.evaluateRequirements] at failed ⊢
    cases found : engine.handlers.lookup requirement.requirementType with
    | none => rfl
    | some handler =>
      rw [found] at failed
      rcases handled : handler principal requirement evalCtx world with ⟨_ | _ | _, next⟩
      · simp only [handled]
      · simp only [handled]
      · simp only [handled] at failed ⊢
        exact inductionHypothesis next failed

end Evaluation

/-- An evaluation of a policy that fails does not allow. -/
theorem evaluate_error (engine : PolicyEngine World) (policy : Policy)
    (principal : Option Authn.Principal) (evalCtx : Option EvaluationContext) (world : World)
    (failed : (engine.evaluate policy principal evalCtx world).2.1 ≠ none) :
    (engine.evaluate policy principal evalCtx world).1.allowed = false := by
  cases principal with
  | none => rfl
  | some principal => exact evaluateRequirements_error engine principal _ _ world failed

end Handlers

end SharedGo.Authz
