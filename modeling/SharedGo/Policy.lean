/-
This file models what a policy is made of: the requirements a policy can put on a
request, the context they are evaluated in, and the requests that the handlers of
permission and custom requirements assemble from it.
-/

import SharedGo.Parc
import SharedGo.Principal

namespace SharedGo.Authz

open SharedGo Text

/-- The runtime context of an evaluation. -/
structure EvaluationContext where
  resource : Resource
  action : Action
  context : Context

/-- The context of a caller that gives none. -/
def EvaluationContext.zero : EvaluationContext where
  resource := ⟨"", "", "", ∅⟩
  action := ⟨"", ""⟩
  context := ⟨"", Time.zero, ∅, ∅⟩

/-- A permission the principal must have. -/
structure PARCRequirement where
  action : String
  resourceType : String
  deriving DecidableEq, Repr

/-- The requirements of the package, and any other type that implements the interface. -/
inductive Requirement where
  | parc (requirement : PARCRequirement)
  | scope (scopes : List String) (requireAll : Bool)
  | role (roles : List String) (requireAll : Bool)
  | userPresent
  | m2m
  | custom (name : String) (func : Option (Request → Bool))
  | other (requirementType : String)

/-- The name a requirement's handler is registered under. -/
def Requirement.requirementType : Requirement → String
  | .parc _ => "PARCRequirement"
  | .scope _ _ => "ScopeRequirement"
  | .role _ _ => "RoleRequirement"
  | .userPresent => "UserPresentRequirement"
  | .m2m => "M2MRequirement"
  | .custom name _ => if name ≠ "" then name else "CustomRequirement"
  | .other requirementType => requirementType

/-- The requirements of a policy all have to succeed. -/
structure Policy where
  name : String
  requirements : List Requirement

/-- The principal as the rules see it. -/
def requestPrincipal (principal : Authn.Principal) : Principal where
  id := principal.subject
  clientID := principal.clientID
  roles := principal.roles
  scopes := principal.scopes
  authMethod := principal.method.text
  attributes := principal.metadata

/-- The request of a custom requirement. -/
def customRequest (principal : Authn.Principal) (evalCtx : EvaluationContext) : Request where
  principal := requestPrincipal principal
  action := evalCtx.action
  resource := evalCtx.resource
  context := evalCtx.context

/-- The request of a permission requirement: its action replaces the context's, its resource
type only fills in a missing one. -/
def PARCRequirement.request (requirement : PARCRequirement) (principal : Authn.Principal)
    (evalCtx : EvaluationContext) : Request where
  principal := requestPrincipal principal
  action :=
    if requirement.action ≠ "" then { evalCtx.action with name := requirement.action }
    else evalCtx.action
  resource :=
    if requirement.resourceType ≠ "" ∧ evalCtx.resource.type = "" then
      { evalCtx.resource with type := requirement.resourceType }
    else evalCtx.resource
  context := evalCtx.context

end SharedGo.Authz
