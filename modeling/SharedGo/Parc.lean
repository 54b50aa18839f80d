/-
This file models the permission rules and their evaluation. A request names a
principal, an action, a resource and a context; a rule matches it when each of
its patterns does, and a bundle of rules allows it when some permitting rule
matches and no denying rule does.
-/

import SharedGo.Dynamic
import SharedGo.PathMatch
import SharedGo.Text

namespace SharedGo.Authz

open SharedGo Text

/-! ### Requests -/

/-- The effect of a rule. It is a text: a stored rule may have an effect that the package does
not name. -/
structure Effect where
  text : String
  deriving DecidableEq, Repr

def Effect.permit : Effect := ⟨"permit"⟩

def Effect.deny : Effect := ⟨"deny"⟩

structure Principal where
  id : String
  clientID : String
  roles : List String
  scopes : List String
  authMethod : String
  attributes : GoMap String Dynamic

structure Action where
  name : String
  httpMethod : String
  deriving DecidableEq, Repr

structure Resource where
  type : String
  id : String
  tenantID : String
  attributes : GoMap String Dynamic

structure Context where
  clientIP : String
  timestamp : Time
  headers : GoMap String String
  data : GoMap String Dynamic

structure Request where
  principal : Principal
  action : Action
  resource : Resource
  context : Context

structure Decision where
  allowed : Bool
  reason : String
  deriving DecidableEq, Repr

/-! ### Rules -/

structure PermissionRule where
  actionPattern : String
  resourceType : String
  resourceIDPattern : String
  tenantID : String
  effect : Effect
  deriving DecidableEq, Repr

/-- The rules of one principal. -/
structure PrincipalPermissions where
  principalID : String
  rules : List PermissionRule
  deriving DecidableEq, Repr

section Matching

variable [CaseMapping]

/-- A malformed pattern is compared as a text, ignoring case. -/
def matchGlob (pattern value : String) : Bool :=
  if pattern = "*" ∨ pattern = "" then true
  else if pattern = value then true
  else
    match Path.matchPath pattern value with
    | none => CaseMapping.equalFold pattern value
    | some matched => matched

/-- Whether a rule applies to a request. A request without a tenant passes every rule's tenant
check. -/
def PermissionRule.matches (rule : PermissionRule) (request : Request) : Bool :=
  if !matchGlob rule.actionPattern request.action.name &&
      !matchGlob rule.actionPattern request.action.httpMethod then false
  else if !matchGlob rule.resourceType request.resource.type then false
  else if !matchGlob rule.resourceIDPattern request.resource.id then false
  else if rule.tenantID ≠ "" ∧ rule.tenantID ≠ "*" ∧ request.resource.tenantID ≠ "" then
    rule.tenantID = request.resource.tenantID
  else true

/-- The loop over the rules: a matching deny ends it, a matching permit is remembered. -/
def evaluateRules (request : Request) : Bool → List PermissionRule → Decision
  | matchedPermit, [] =>
    if matchedPermit then ⟨true, ""⟩
    else ⟨false, "no matching permit rule found for action on resource"⟩
  | matchedPermit, rule :: rest =>
    if rule.matches request then
      if rule.effect = .deny then ⟨false, "explicitly denied by policy rule"⟩
      else evaluateRules request (matchedPermit || rule.effect = .permit) rest
    else evaluateRules request matchedPermit rest

/-- Deny overrides. -/
def PrincipalPermissions.evaluate (permissions : PrincipalPermissions) (request : Request) :
    Decision :=
  if permissions.rules = [] then ⟨false, "no permissions found for principal"⟩
  else evaluateRules request false permissions.rules

theorem evaluate_no_rules (permissions : PrincipalPermissions) (request : Request)
    (empty : permissions.rules = []) : (permissions.evaluate request).allowed = false := by
  rw [PrincipalPermissions.evaluate, if_pos empty]

/-- What a rule that applies to a request matches: the action by its name or by its method, and the
type of the resource. -/
theorem matches_patterns (rule : PermissionRule) (request : Request)
    (applies : rule.matches request = true) :
    (matchGlob rule.actionPattern request.action.name = true ∨
        matchGlob rule.actionPattern request.action.httpMethod = true) ∧
      matchGlob rule.resourceType request.resource.type = true := by
  unfold PermissionRule.matches at applies
  split at applies
  · cases applies
  · rename_i action
    split at applies
    · cases applies
    · rename_i type
      constructor
      · by_contra neither
        exact action (by simpa using neither)
      · simpa using type

/-- A rule with the effect applies to the request. -/
def Applies (effect : Effect) (rules : List PermissionRule) (request : Request) : Prop :=
  ∃ rule ∈ rules, rule.effect = effect ∧ rule.matches request = true

instance (effect : Effect) (rules : List PermissionRule) (request : Request) :
    Decidable (Applies effect rules request) :=
  inferInstanceAs (Decidable (∃ rule ∈ rules, rule.effect = effect ∧ rule.matches request = true))

theorem applies_cons (effect : Effect) (rule : PermissionRule) (rules : List PermissionRule)
    (request : Request) :
    Applies effect (rule :: rules) request ↔
      (rule.effect = effect ∧ rule.matches request = true) ∨ Applies effect rules request :=
  List.exists_mem_cons_iff _ _ _

/-- The verdict of the loop. -/
theorem evaluateRules_eq (request : Request) (matchedPermit : Bool)
    (rules : List PermissionRule) :
    evaluateRules request matchedPermit rules =
      if Applies .deny rules request then ⟨false, "explicitly denied by policy rule"⟩
      else if matchedPermit ∨ Applies .permit rules request then ⟨true, ""⟩
      else ⟨false, "no matching permit rule found for action on resource"⟩ := by
  induction rules generalizing matchedPermit with
  | nil => simp [evaluateRules, Applies]
  | cons rule rest inductionHypothesis =>
    rw [evaluateRules]
    simp only [applies_cons]
    by_cases applies : rule.matches request = true
    · by_cases denies : rule.effect = .deny
      · simp [applies, denies]
      · simp [applies, denies, inductionHypothesis, or_assoc]
    · simp [applies, inductionHypothesis]

/-- A bundle allows only what one of its permitting rules applies to. -/
theorem permit_of_evaluate (permissions : PrincipalPermissions) (request : Request)
    (allowed : (permissions.evaluate request).allowed = true) :
    ∃ rule ∈ permissions.rules, rule.effect = .permit ∧ rule.matches request = true := by
  rw [PrincipalPermissions.evaluate, evaluateRules_eq] at allowed
  split_ifs at allowed with empty denied permitted
  rcases permitted with earlier | applies
  · cases earlier
  · exact applies

/-! ### Tenants -/

/-- What a rule that applies to a request knows of its tenant: nothing if either has none, and
otherwise that it is the rule's own. -/
theorem matches_tenant (rule : PermissionRule) (request : Request)
    (applies : rule.matches request = true) :
    (rule.tenantID = "" ∨ rule.tenantID = "*") ∨ rule.tenantID = request.resource.tenantID ∨
      request.resource.tenantID = "" := by
  by_contra outside
  rw [not_or, not_or, not_or] at outside
  obtain ⟨⟨named, single⟩, other, known⟩ := outside
  have refused : rule.matches request = false := by
    have compared : rule.tenantID ≠ "" ∧ rule.tenantID ≠ "*" ∧ request.resource.tenantID ≠ "" :=
      ⟨named, single, known⟩
    simp only [PermissionRule.matches, if_pos compared, decide_eq_false other, ite_self]
  rw [refused] at applies
  cases applies

/-- A bundle allows a request only by a permitting rule that applies to it and is for all tenants or
for the tenant of the resource, unless the resource has none; so permissions for one tenant allow
nothing on a resource of another. -/
theorem allowed_within_tenant (permissions : PrincipalPermissions) (request : Request) :
    ((permissions.evaluate request).allowed = true →
        ∃ rule ∈ permissions.rules, rule.effect = .permit ∧ rule.matches request = true ∧
          ((rule.tenantID = "" ∨ rule.tenantID = "*") ∨
            rule.tenantID = request.resource.tenantID ∨ request.resource.tenantID = "")) ∧
      ∀ tenant, tenant ≠ "" → tenant ≠ "*" →
        (∀ rule ∈ permissions.rules, rule.effect = .permit → rule.tenantID = tenant) →
        request.resource.tenantID ≠ "" → request.resource.tenantID ≠ tenant →
        (permissions.evaluate request).allowed = false := by
  have within (allowed : (permissions.evaluate request).allowed = true) :
      ∃ rule ∈ permissions.rules, rule.effect = .permit ∧ rule.matches request = true ∧
        ((rule.tenantID = "" ∨ rule.tenantID = "*") ∨
          rule.tenantID = request.resource.tenantID ∨ request.resource.tenantID = "") := by
    obtain ⟨rule, member, permits, applies⟩ := permit_of_evaluate permissions request allowed
    exact ⟨rule, member, permits, applies, matches_tenant rule request applies⟩
  refine ⟨within, fun tenant named single scopes known other => ?_⟩
  by_contra allowed
  rw [Bool.not_eq_false] at allowed
  obtain ⟨rule, member, permits, _, tenants⟩ := within allowed
  rw [scopes rule member permits] at tenants
  rcases tenants with (empty | any) | same | unknown
  · exact named empty
  · exact single any
  · exact other same.symm
  · exact known unknown

end Matching

/-- The resource that a route parameter names, in a request with the given parameters. It has no
tenant. -/
def extractResourceFromParam (paramName resourceType : String) (param : String → String) :
    Resource :=
  ⟨resourceType, param paramName, "", ∅⟩

/-- Permissions for one tenant. -/
def acmePermissions : PrincipalPermissions :=
  ⟨"user_42", [⟨"read", "report", "*", "acme", .permit⟩]⟩

/-- A request for a report by its route parameter. -/
def reportRequest : Request where
  principal := ⟨"user_42", "", [], [], "", ∅⟩
  action := ⟨"read", "GET"⟩
  resource := extractResourceFromParam "id" "report" fun _ => "rep_globex"
  context := ⟨"", ⟨0⟩, ∅, ∅⟩

/-- A resource from a route parameter is not known to be in any tenant, and the permissions for one
allow it. -/
theorem unknownTenant_allowed :
    (@PrincipalPermissions.evaluate asciiCase acmePermissions reportRequest).allowed = true ∧
      ¬∃ rule ∈ acmePermissions.rules, rule.effect = .permit ∧
        @PermissionRule.matches asciiCase rule reportRequest = true ∧
          ((rule.tenantID = "" ∨ rule.tenantID = "*") ∨
            rule.tenantID = reportRequest.resource.tenantID) := by
  refine ⟨by decide +kernel, ?_⟩
  rintro ⟨rule, member, _, _, tenants⟩
  obtain rfl := List.mem_singleton.mp member
  exact absurd tenants (by decide)

end SharedGo.Authz
