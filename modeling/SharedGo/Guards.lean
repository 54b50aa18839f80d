/-
This file models the guards of routes and the annotations of endpoints, and proves
that they agree on what a policy says. A guard, an annotation and the check inside
a handler evaluate a policy on the request; as a gate, each lets a request pass if
the policy allows it.

An annotation sorts its arguments by their types at run time, and ignores an
extractor of resources that does not have the named type of extractors. It then
evaluates the policy on no resource, so the three agree exactly when the extractor
has that type or the resource makes no difference.
-/

import SharedGo.Authorization
import SharedGo.PolicyBuilder

namespace SharedGo.Authz

open SharedGo Text Gin

section Guards

variable {World : Type}

/-! ### Enforcing an evaluation -/

abbrev ResourceExtractorFunc (World : Type) := HttpContext World → Resource

/-- The resource of a request that no extractor was given for. -/
def noResource : Resource := EvaluationContext.zero.resource

/-- The evaluation context of a request for a resource. -/
def requestContext (context : HttpContext World) (resource : Resource) : EvaluationContext :=
  { fallbackContext context with resource }

/-- The resource of the first extractor, if there is one and it is not nil. -/
def extracted (getResource : List (Option (ResourceExtractorFunc World))) (missing : Resource)
    (context : HttpContext World) : Resource :=
  match getResource with
  | some extract :: _ => extract context
  | _ => missing

/-- Answers a request, and drops the pending handlers. -/
def refuse (answer : HttpContext World → HttpContext World) : Program (HttpContext World) :=
  .act answer fun _ => .abort fun _ => .done

/-- Lets a request pass if it has a principal and the evaluation allows it. -/
def enforce {Error : Type}
    (evaluated : Authn.Principal → AuthorizationResult × Option Error × World)
    (challenge : HttpContext World → HttpContext World)
    (forbid : String → HttpContext World → HttpContext World) (defaultReason : String)
    (context : HttpContext World) : Program (HttpContext World) :=
  match user context with
  | none => refuse challenge
  | some principal =>
    match evaluated principal with
    | (result, error, world) =>
      .act (fun context => { context with world }) fun _ =>
        if error.isSome || !result.succeeded then
          refuse (forbid (if result.failureReason = "" then defaultReason
            else result.failureReason))
        else .next fun _ => .done

/-- The result of an evaluation in place of its decision. -/
def asResult {Error : Type} (outcome : Decision × Option Error × World) :
    AuthorizationResult × Option Error × World :=
  (outcome.1.toResult, outcome.2)

/-- The evaluation allows the request, with no error. -/
def succeeds {Error : Type} (outcome : Decision × Option Error × World) : Bool :=
  outcome.2.1.isNone && outcome.1.allowed

theorem succeeds_evaluate (engine : PolicyEngine World) (policy : Policy)
    (principal : Option Authn.Principal) (evalCtx : Option EvaluationContext) (world : World) :
    succeeds (engine.evaluate policy principal evalCtx world) = true ↔
      (engine.evaluate policy principal evalCtx world).1.allowed = true := by
  rw [succeeds, Bool.and_eq_true, Option.isNone_iff_eq_none, and_iff_right_of_imp]
  intro allowed
  by_contra failed
  rw [evaluate_error engine policy principal evalCtx world failed] at allowed
  cases allowed

/-! ### Guards -/

/-- Asks a request for authentication. -/
def unauthorized (context : HttpContext World) : HttpContext World :=
  (context.header "WWW-Authenticate"
    "Bearer error=\"unauthorized\", error_description=\"Authentication required\"").json 401
    [("error", "unauthorized"), ("error_description", "Authentication required")]

/-- The header of a response to a request that is not allowed. -/
def insufficientScope (reason : String) (context : HttpContext World) : HttpContext World :=
  context.header "WWW-Authenticate"
    ("Bearer error=\"insufficient_scope\", error_description=\"" ++ reason ++ "\"")

/-- A guard that enforces a named policy, under the name its function has in the chain. -/
def requirePolicy (own : String) (engine : PolicyEngine World) (policyName : String)
    (getResource : List (Option (ResourceExtractorFunc World))) : Handler (HttpContext World) where
  name := own
  body _ context :=
    enforce (fun principal => asResult (engine.evaluatePolicy policyName (some principal)
        (some (requestContext context (extracted getResource noResource context))) context.world))
      unauthorized
      (fun reason context => (insufficientScope reason context).json 403
        [("error", "forbidden"), ("error_description", reason), ("policy", policyName)])
      "Access denied by policy" context

/-- The evaluation context of a guard for a permission. -/
def permissionContext (action resourceType : String)
    (getResource : List (Option (ResourceExtractorFunc World))) (context : HttpContext World) :
    EvaluationContext :=
  { requestContext context (extracted getResource ⟨resourceType, "*", "", ∅⟩ context) with
    action := ⟨action, context.method⟩ }

/-- A guard that enforces a permission. -/
def requirePARC (own : String) (engine : PolicyEngine World) (action resourceType : String)
    (getResource : List (Option (ResourceExtractorFunc World))) : Handler (HttpContext World) where
  name := own
  body _ context :=
    enforce (fun principal => asResult (engine.evaluate
        ((newPolicy ("inline:parc:" ++ action ++ ":" ++ resourceType)).requirePARC action
          resourceType).build (some principal)
        (some (permissionContext action resourceType getResource context)) context.world))
      unauthorized
      (fun reason context => (insufficientScope reason context).json 403
        [("error", "insufficient_permissions"), ("error_description", reason),
          ("action", action), ("resource_type", resourceType)])
      ("Missing permission for action '" ++ action ++ "' on resource '" ++ resourceType ++ "'")
      context

/-! ### Annotations -/

def contextKeyAllowAnonymous : String := "authz.allow_anonymous"

/-- An annotation that marks the request. -/
def allowAnonymous (own : String) : Handler (HttpContext World) where
  name := own
  body _ _ := .passOn (·.set contextKeyAllowAnonymous (.flag true))

/-- An argument of an annotation, by its type at run time. A function literal does not have the
named type of extractors. -/
inductive AuthorizeArg (World : Type) where
  | engine (engine : Option (PolicyEngine World))
  | resourceExtractor (extract : Option (ResourceExtractorFunc World))
  | funcLiteral (extract : HttpContext World → Resource)
  | other

structure AuthorizeConfig (World : Type) where
  engine : Option (PolicyEngine World)
  extractor : Option (ResourceExtractorFunc World)

def AuthorizeArg.apply (config : AuthorizeConfig World) :
    AuthorizeArg World → AuthorizeConfig World
  | .engine given => { config with engine := given }
  | .resourceExtractor extractor => { config with extractor }
  | .funcLiteral _ => config
  | .other => config

def authorizeConfig (args : List (AuthorizeArg World)) : AuthorizeConfig World :=
  args.foldl AuthorizeArg.apply ⟨none, none⟩

/-- The service in the context of a request. -/
def contextService (context : HttpContext World) : Option (PolicyEngine World) :=
  match context.keys.lookup contextKeyAuthorizationService with
  | some (.service service) => some service
  | _ => none

/-- The engine of an annotation: its own, or else the one in the context. -/
def AuthorizeConfig.service (config : AuthorizeConfig World) (context : HttpContext World) :
    Option (PolicyEngine World) :=
  match config.engine with
  | some engine => some engine
  | none => contextService context

def AuthorizeConfig.resource (config : AuthorizeConfig World) (context : HttpContext World) :
    Resource :=
  match config.extractor with
  | some extract => extract context
  | none => noResource

/-- An annotation that enforces a named policy. Without a service it panics, and no pending handler
runs. -/
def authorize (own policyName : String) (args : List (AuthorizeArg World)) :
    Handler (HttpContext World) where
  name := own
  body _ context :=
    match (authorizeConfig args).service context with
    | none => .abort fun _ => .done
    | some service =>
      enforce (fun principal => service.authorize (some principal) policyName
          (some (requestContext context ((authorizeConfig args).resource context)))
          context.world)
        (fun context => writeResult context (failedResult "Authentication required") policyName)
        (fun reason context => writeResult context (failedResult reason) policyName)
        "Access denied by policy" context

def withPolicy (own policyName : String) (args : List (AuthorizeArg World)) :
    Handler (HttpContext World) :=
  authorize own policyName args

/-- The check inside a handler. -/
def authorizeResource (context : HttpContext World) (resource : Resource) (policyName : String) :
    AuthorizationResult × HttpContext World :=
  match context.keys.lookup contextKeyAuthorizationService with
  | none => (failedResult "authz: authorization service not found in context", context)
  | some (.service service) =>
    match user context with
    | none => (failedResult "Authentication required", context)
    | some principal =>
      match service.authorize (some principal) policyName
        (some (requestContext context resource)) context.world with
      | (_, some error, world) => (failedResult error.text, { context with world })
      | (result, none, world) => (result, { context with world })
  | some _ => (failedResult "authz: invalid authorization service in context", context)

/-! ### Gates -/

/-- The gate of an evaluation. -/
def evaluationGate {Error : Type}
    (evaluated : HttpContext World → Authn.Principal → Decision × Option Error × World) :
    Gate (HttpContext World) where
  Passes context := ∃ principal, user context = some principal ∧
    succeeds (evaluated context principal) = true
  effect context :=
    match user context with
    | none => context
    | some principal => { context with world := (evaluated context principal).2.2 }

theorem enforce_describesAt {Error : Type}
    (evaluated : HttpContext World → Authn.Principal → Decision × Option Error × World)
    (challenge : HttpContext World → HttpContext World)
    (forbid : String → HttpContext World → HttpContext World) (defaultReason : String)
    (context : HttpContext World) :
    (evaluationGate evaluated).DescribesAt context (enforce
      (fun principal => asResult (evaluated context principal)) challenge forbid defaultReason
      context) where
  passes passes next pending entered := by
    obtain ⟨principal, found, allowed⟩ := passes
    simp only [succeeds, Bool.and_eq_true, Option.isNone_iff_eq_none] at allowed
    simp [enforce, evaluationGate, found, asResult, Decision.toResult, allowed, Program.run]
  blocks blocked names fuel pending entered := by
    unfold enforce
    cases found : user context with
    | none => exact ⟨rfl, rfl⟩
    | some principal =>
      rcases outcome : evaluated context principal with ⟨decision, error, world⟩
      have result : asResult (evaluated context principal) = (decision.toResult, error, world) := by
        rw [outcome, asResult]
      simp only [result, Program.run]
      rw [if_pos]
      · exact ⟨rfl, rfl⟩
      · by_contra allowed
        refine blocked ⟨principal, found, ?_⟩
        simpa [succeeds, outcome, Decision.toResult] using allowed

/-- What EvaluatePolicy says about a request for a resource. -/
def Allows (engine : PolicyEngine World) (policyName : String) (context : HttpContext World)
    (resource : Resource) : Prop :=
  succeeds (engine.evaluatePolicy policyName (user context)
    (some (requestContext context resource)) context.world) = true

instance (engine : PolicyEngine World) (policyName : String) (context : HttpContext World)
    (resource : Resource) : Decidable (Allows engine policyName context resource) :=
  inferInstanceAs (Decidable (_ = true))

theorem not_allows_without_principal (engine : PolicyEngine World) (policyName : String)
    (context : HttpContext World) (resource : Resource) (absent : user context = none) :
    ¬Allows engine policyName context resource := by
  rw [Allows, absent, PolicyEngine.evaluatePolicy]
  cases engine.policies.lookup policyName with
  | none => exact Bool.false_ne_true
  | some policy => exact Bool.false_ne_true

/-- The gate of a named policy. -/
def policyGate (engine : PolicyEngine World) (policyName : String)
    (resource : HttpContext World → Resource) : Gate (HttpContext World) :=
  evaluationGate fun context principal => engine.evaluatePolicy policyName (some principal)
    (some (requestContext context (resource context))) context.world

theorem policyGate_passes_iff (engine : PolicyEngine World) (policyName : String)
    (resource : HttpContext World → Resource) (context : HttpContext World) :
    (policyGate engine policyName resource).Passes context ↔
      Allows engine policyName context (resource context) := by
  cases found : user context with
  | none =>
    refine iff_of_false ?_ (not_allows_without_principal engine policyName context _ found)
    rintro ⟨principal, present, _⟩
    rw [found] at present
    cases present
  | some principal =>
    simp only [policyGate, evaluationGate, Allows, found, Option.some.injEq, exists_eq_left']

theorem requirePolicy_describes (names : List String) (own : String) (engine : PolicyEngine World)
    (policyName : String) (getResource : List (Option (ResourceExtractorFunc World))) :
    (policyGate engine policyName (extracted getResource noResource)).Describes names
      (requirePolicy own engine policyName getResource) := by
  intro context
  simp only [requirePolicy]
  exact enforce_describesAt (fun context principal => engine.evaluatePolicy policyName
    (some principal) (some (requestContext context (extracted getResource noResource context)))
    context.world) _ _ _ context

/-- The gate of an annotation. -/
def authorizeGate (policyName : String) (config : AuthorizeConfig World) :
    Gate (HttpContext World) where
  Passes context := ∃ service, config.service context = some service ∧
    Allows service policyName context (config.resource context)
  effect context :=
    match config.service context with
    | none => context
    | some service => (policyGate service policyName config.resource).effect context

theorem authorize_describes (names : List String) (own policyName : String)
    (args : List (AuthorizeArg World)) :
    (authorizeGate policyName (authorizeConfig args)).Describes names
      (authorize own policyName args) := by
  intro context
  cases found : (authorizeConfig args).service context with
  | none =>
    refine ⟨fun ⟨service, isService, _⟩ => ?_, fun _ _ _ _ _ => ?_⟩
    · rw [found] at isService
      cases isService
    · simp only [authorize, found]
      exact ⟨rfl, rfl⟩
  | some service =>
    have described := enforce_describesAt (fun context principal =>
        service.evaluatePolicy policyName (some principal)
          (some (requestContext context ((authorizeConfig args).resource context))) context.world)
      (fun context => writeResult context (failedResult "Authentication required") policyName)
      (fun reason context => writeResult context (failedResult reason) policyName)
      "Access denied by policy" context
    have same : (authorizeGate policyName (authorizeConfig args)).Passes context ↔
        (policyGate service policyName (authorizeConfig args).resource).Passes context := by
      rw [policyGate_passes_iff]
      simp only [authorizeGate, found, Option.some.injEq, exists_eq_left']
    simp only [authorize, found]
    refine ⟨fun passes => ?_, fun blocked => described.blocks (same.not.1 blocked)⟩
    simp only [authorizeGate, found]
    exact described.passes (same.1 passes)

/-! ### Three ways to enforce a named policy -/

/-- How an extractor is passed to an annotation. -/
inductive ExtractorForm where
  | resourceExtractorFunc
  | funcLiteral
  deriving DecidableEq, Repr

def ExtractorForm.arg (extract : HttpContext World → Resource) :
    ExtractorForm → AuthorizeArg World
  | .resourceExtractorFunc => .resourceExtractor (some extract)
  | .funcLiteral => .funcLiteral extract

/-- A gate decides whether the handler behind it runs. -/
theorem business_behind_gate (gate : Gate (HttpContext World))
    (handler : Handler (HttpContext World)) (describes : ∀ names, gate.Describes names handler)
    (last : Handler (HttpContext World)) (context : HttpContext World) :
    BusinessRuns (handle [handler, last] context) ↔ gate.Passes context :=
  (handle_last_iff last [gate] [handler] (.cons (describes _) .nil) context).trans
    (and_iff_left trivial)

theorem requirePolicy_runs_iff (own : String) (engine : PolicyEngine World) (policyName : String)
    (extract : HttpContext World → Resource) (last : Handler (HttpContext World))
    (context : HttpContext World) :
    BusinessRuns (handle [requirePolicy own engine policyName [some extract], last] context) ↔
      Allows engine policyName context (extract context) := by
  rw [business_behind_gate _ _ (fun names => requirePolicy_describes names own engine policyName _),
    policyGate_passes_iff]
  rfl

/-- The handler behind a guard for a permission runs exactly when there is a principal and the
engine's permission handler says that they have the permission. -/
theorem requirePARC_runs_iff [CaseMapping] [BundleCodec] (parcHandler : Option (PARCHandler World))
    (engine : PolicyEngine World) (constructed : Constructed parcHandler engine)
    (own action resourceType : String) (getResource : List (Option (ResourceExtractorFunc World)))
    (last : Handler (HttpContext World)) (context : HttpContext World) :
    BusinessRuns (handle [requirePARC own engine action resourceType getResource, last]
        context) ↔
      ∃ principal, user context = some principal ∧
        (BuilderCall.requirePARC action resourceType).Holds parcHandler principal
          (permissionContext action resourceType getResource context) context.world := by
  let inlineName := "inline:parc:" ++ action ++ ":" ++ resourceType
  let evaluated := fun (context : HttpContext World) (principal : Authn.Principal) =>
    engine.evaluate (buildChain inlineName [.requirePARC action resourceType]) (some principal)
      (some (permissionContext action resourceType getResource context)) context.world
  have describes (names : List String) : (evaluationGate evaluated).Describes names
      (requirePARC own engine action resourceType getResource) := by
    intro context
    simp only [requirePARC]
    exact enforce_describesAt evaluated _ _ _ context
  rw [business_behind_gate _ _ describes]
  refine exists_congr fun principal => and_congr_right fun _ => ?_
  rw [succeeds_evaluate, PolicyEngine.evaluate, buildChain_requirements,
    evaluateRequirements_chain parcHandler engine constructed, AllHold]
  exact and_iff_left trivial

/-- An annotation evaluates its policy on no resource when the extractor is a function literal. -/
theorem authorize_runs_iff (own : String) (engine : PolicyEngine World) (policyName : String)
    (extract : HttpContext World → Resource) (form : ExtractorForm)
    (last : Handler (HttpContext World)) (context : HttpContext World) :
    BusinessRuns (handle
        [authorize own policyName [.engine (some engine), form.arg extract], last] context) ↔
      Allows engine policyName context
        (if form = .funcLiteral then noResource else extract context) := by
  rw [business_behind_gate _ _ (fun names => authorize_describes names own policyName _)]
  cases form with
  | resourceExtractorFunc =>
    simp [authorizeGate, authorizeConfig, AuthorizeArg.apply, ExtractorForm.arg,
      AuthorizeConfig.service, AuthorizeConfig.resource]
  | funcLiteral =>
    simp [authorizeGate, authorizeConfig, AuthorizeArg.apply, ExtractorForm.arg,
      AuthorizeConfig.service, AuthorizeConfig.resource]

theorem authorizeResource_succeeds_iff (engine : PolicyEngine World) (policyName : String)
    (context : HttpContext World) (resource : Resource)
    (inContext : context.keys.lookup contextKeyAuthorizationService = some (.service engine)) :
    (authorizeResource context resource policyName).1.succeeded = true ↔
      Allows engine policyName context resource := by
  cases found : user context with
  | none =>
    refine iff_of_false ?_ (not_allows_without_principal engine policyName context resource found)
    simp [authorizeResource, inContext, found, failedResult]
  | some principal =>
    rcases evaluated : engine.evaluatePolicy policyName (some principal)
      (some (requestContext context resource)) context.world with ⟨decision, _ | error, world⟩
    · simp [authorizeResource, inContext, found, PolicyEngine.authorize, evaluated, Allows,
        succeeds, Decision.toResult]
    · simp [authorizeResource, inContext, found, PolicyEngine.authorize, evaluated, Allows,
        succeeds, failedResult]

/-- The guard, the annotation and the check inside a handler all say what the policy says about the
extracted resource, exactly when the annotation gets the extractor as one or the policy says the
same about no resource. -/
theorem enforcements_agree_iff (engine : PolicyEngine World) (policyName : String)
    (context : HttpContext World) (extract : HttpContext World → Resource) (form : ExtractorForm)
    (guardName markName : String) (last : Handler (HttpContext World)) :
    ((BusinessRuns (handle [requirePolicy guardName engine policyName [some extract], last]
          context) ↔ Allows engine policyName context (extract context)) ∧
        (BusinessRuns (handle [authorize markName policyName
            [.engine (some engine), form.arg extract], last] context) ↔
          Allows engine policyName context (extract context)) ∧
        (context.keys.lookup contextKeyAuthorizationService = some (.service engine) →
          ((authorizeResource context (extract context) policyName).1.succeeded = true ↔
            Allows engine policyName context (extract context)))) ↔
      form = .resourceExtractorFunc ∨
        (Allows engine policyName context noResource ↔
          Allows engine policyName context (extract context)) := by
  rw [and_iff_right (requirePolicy_runs_iff guardName engine policyName extract last context),
    and_iff_left (authorizeResource_succeeds_iff engine policyName context (extract context)),
    authorize_runs_iff]
  cases form with
  | resourceExtractorFunc => simp
  | funcLiteral => simp

end Guards

/-! ### A document -/

/-- Permissions on all documents but one. -/
def documentHandler : PARCHandler Unit :=
  { oneRuleHandler ⟨"*", "document", "*", "", .permit⟩ with
    repo := ⟨fun subject world => (.ok (some ⟨subject, [⟨"*", "document", "*", "", .permit⟩,
      ⟨"*", "document", "doc_secret", "", .deny⟩]⟩), world)⟩ }

def documentService : PolicyEngine Unit :=
  PolicyEngine.registerPolicy (@newPolicyEngine Unit asciiCase
      (some (@PARCHandler.handle Unit jsonCodec asciiCase documentHandler)))
    (buildChain "EditDocumentPolicy" [.requirePARC "edit" "document"])

def secretDocument : Resource := ⟨"document", "doc_secret", "", ∅⟩

def editRequest : HttpContext Unit :=
  { anonymousContext.set contextKeyPrincipal (.principal (some caller)) with method := "POST" }

/-- With a function literal, an annotation lets a request pass that the policy refuses and the guard
stops. -/
theorem literal_extractor_ignored :
    BusinessRuns (handle [authorize "authz.Authorize.func1" "EditDocumentPolicy"
        [.engine (some documentService), .funcLiteral fun _ => secretDocument],
        Handler.passing "main.edit"] editRequest) ∧
      ¬BusinessRuns (handle [requirePolicy "authz.RequirePolicy.func1" documentService
        "EditDocumentPolicy" [some fun _ => secretDocument], Handler.passing "main.edit"]
        editRequest) ∧
      ¬Allows documentService "EditDocumentPolicy" editRequest secretDocument := by
  have refused : ¬Allows documentService "EditDocumentPolicy" editRequest secretDocument := by
    decide +kernel
  refine ⟨?_, ?_, refused⟩
  · refine (authorize_runs_iff _ documentService _ (fun _ => secretDocument) .funcLiteral _ _).2 ?_
    decide +kernel
  · rwa [requirePolicy_runs_iff]

end SharedGo.Authz
