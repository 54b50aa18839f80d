/-
This file models the handler of permission requirements as one call sees it: it
takes the bundle of the principal from the cache, or from the repository, and
evaluates in it the request that the requirement and the context make up.

It proves what a permission requirement enforces. The requirement's action always
replaces the name of the context's, but a rule may also name the method of the
request instead; the requirement's resource type stands in for a missing one, and
the type of the resource at hand, when there is one, is what the rules are asked
about.
-/

import SharedGo.CacheProvider
import SharedGo.PermissionCache
import SharedGo.PolicyEngine

namespace SharedGo.Authz

open SharedGo Text

/-! ### The handler -/

/-- The records of permissions. A repository may answer with no bundle. -/
structure PermissionRepository (World : Type) where
  getPermissions : String → World → Except String (Option PrincipalPermissions) × World

structure PARCHandlerConfig (World : Type) where
  repository : Option (PermissionRepository World)
  cache : Option (CacheProvider World)
  grantTTL : Duration

structure PARCHandler (World : Type) where
  repo : PermissionRepository World
  cache : CacheProvider World
  grantTTL : Duration

def defaultGrantTTL : Duration := seconds 60

section Handler

variable {World : Type}

/-- A handler; without a cache in the configuration it gets a memory cache, if one can be made. -/
def newPARCHandler (config : PARCHandlerConfig World)
    (newMemoryCacheProvider : Except String (CacheProvider World)) :
    Except String (PARCHandler World) :=
  match config.repository with
  | none => .error "authz: repository cannot be nil"
  | some repo =>
    let grantTTL := if config.grantTTL ≤ 0 then defaultGrantTTL else config.grantTTL
    match config.cache, newMemoryCacheProvider with
    | some cache, _ => .ok { repo, cache, grantTTL }
    | none, .ok cache => .ok { repo, cache, grantTTL }
    | none, .error message =>
      .error ("authz: failed to initialize default memory cache: " ++ message)

/-- No bundle allows nothing. -/
def evaluatePermissions [CaseMapping] (permissions : Option PrincipalPermissions)
    (request : Request) : Decision :=
  match permissions with
  | none => ⟨false, "no permissions found for principal"⟩
  | some permissions => permissions.evaluate request

section Codec

variable [BundleCodec]

/-- The text of no bundle is that of a nil pointer. -/
def marshalPermissions : Option PrincipalPermissions → String
  | none => "null"
  | some permissions => BundleCodec.marshal permissions

/-- The text of a nil pointer reads as an empty bundle. -/
def unmarshalPermissions (text : String) : Option PrincipalPermissions :=
  if text = "null" then some ⟨"", []⟩ else BundleCodec.unmarshal text

/-- The bundle of a subject: the cached one if it can be read, and otherwise the repository's,
which is cached. A failure to cache it is ignored. -/
def PARCHandler.load (handler : PARCHandler World) (subject : String) (world : World) :
    Except String (Option PrincipalPermissions) × World :=
  match handler.cache.get (cacheKey subject) world with
  | (cached, world) =>
    match cached.toOption.bind unmarshalPermissions with
    | some permissions => (.ok (some permissions), world)
    | none =>
      match handler.repo.getPermissions subject world with
      | (.error message, world) =>
        (.error ("authz: failed fetching permissions: " ++ message), world)
      | (.ok permissions, world) =>
        (.ok permissions, (handler.cache.set (cacheKey subject) (marshalPermissions permissions)
          handler.grantTTL world).2)

def PARCHandler.handle [CaseMapping] (handler : PARCHandler World) : RequirementHandler World :=
  fun principal requirement evalCtx world =>
    match requirement with
    | .parc requirement =>
      match handler.load principal.subject world with
      | (.error message, world) => (.error message, world)
      | (.ok permissions, world) =>
        (.ok (evaluatePermissions permissions (requirement.request principal evalCtx)).allowed,
          world)
    | _ => (.ok false, world)

/-! ### What a permission requirement enforces -/

/-- The type of the resource that the rules are asked about. -/
def PARCRequirement.evaluatedType (requirement : PARCRequirement) (evalCtx : EvaluationContext) :
    String :=
  if evalCtx.resource.type = "" then requirement.resourceType else evalCtx.resource.type

omit [BundleCodec] in
theorem request_action_name (requirement : PARCRequirement) (principal : Authn.Principal)
    (evalCtx : EvaluationContext) (named : requirement.action ≠ "") :
    (requirement.request principal evalCtx).action =
      ⟨requirement.action, evalCtx.action.httpMethod⟩ := by
  simp only [PARCRequirement.request, if_pos named]

omit [BundleCodec] in
theorem request_resource_type (requirement : PARCRequirement) (principal : Authn.Principal)
    (evalCtx : EvaluationContext) (typed : requirement.resourceType ≠ "") :
    (requirement.request principal evalCtx).resource.type =
      requirement.evaluatedType evalCtx := by
  unfold PARCRequirement.request PARCRequirement.evaluatedType
  by_cases missing : evalCtx.resource.type = ""
  · simp only [missing, typed, ne_eq, not_false_eq_true, and_self, if_true]
  · simp only [missing, and_false, if_false]

theorem handle_true [CaseMapping] (handler : PARCHandler World) (principal : Authn.Principal)
    (requirement : PARCRequirement) (evalCtx : EvaluationContext) (world : World)
    (allowed : (handler.handle principal (.parc requirement) evalCtx world).1 = .ok true) :
    ∃ bundle, (handler.load principal.subject world).1 = .ok (some bundle) ∧
      (bundle.evaluate (requirement.request principal evalCtx)).allowed = true := by
  simp only [PARCHandler.handle] at allowed
  split at allowed
  · cases allowed
  · rename_i permissions next loaded
    cases permissions with
    | none => cases allowed
    | some bundle => exact ⟨bundle, congrArg Prod.fst loaded, Except.ok.inj allowed⟩

/-- A permission requirement that succeeds rests on a permitting rule of the bundle: one whose
action pattern matches the requirement's action or the method of the request, and whose resource
type pattern matches the type of the resource at hand, which is the requirement's unless the context
names another. -/
theorem handle_true_permits [CaseMapping] (handler : PARCHandler World)
    (principal : Authn.Principal) (requirement : PARCRequirement) (evalCtx : EvaluationContext)
    (world : World) (named : requirement.action ≠ "") (typed : requirement.resourceType ≠ "")
    (allowed : (handler.handle principal (.parc requirement) evalCtx world).1 = .ok true) :
    ∃ bundle, (handler.load principal.subject world).1 = .ok (some bundle) ∧
      ∃ rule ∈ bundle.rules, rule.effect = .permit ∧
        (matchGlob rule.actionPattern requirement.action = true ∨
          matchGlob rule.actionPattern evalCtx.action.httpMethod = true) ∧
        matchGlob rule.resourceType (requirement.evaluatedType evalCtx) = true := by
  obtain ⟨bundle, loaded, permitted⟩ :=
    handle_true handler principal requirement evalCtx world allowed
  obtain ⟨rule, member, permits, applies⟩ := permit_of_evaluate bundle _ permitted
  obtain ⟨action, type⟩ := matches_patterns rule _ applies
  rw [request_action_name requirement principal evalCtx named] at action
  rw [request_resource_type requirement principal evalCtx typed] at type
  exact ⟨bundle, loaded, rule, member, permits, action, type⟩

end Codec

end Handler

/-! ### Two callers -/

/-- A handler whose cache is empty, and whose repository has one rule for everyone. -/
def oneRuleHandler (rule : PermissionRule) : PARCHandler Unit where
  repo := ⟨fun subject world => (.ok (some ⟨subject, [rule]⟩), world)⟩
  cache := ⟨fun _ world => (.error .cacheMiss, world), fun _ _ _ world => (none, world),
    fun _ world => (none, world)⟩
  grantTTL := defaultGrantTTL

def caller : Authn.Principal := ⟨"user_42", "", .unknown, [], [], ∅⟩

/-- The context of a guarded request for a resource. -/
def guardContext (action httpMethod resourceType : String) : EvaluationContext :=
  { EvaluationContext.zero with
    action := ⟨action, httpMethod⟩
    resource := ⟨resourceType, "doc_1", "", ∅⟩ }

/-- The rule's pattern matches the action of the requirement. -/
theorem readDocument_permits :
    (@PARCHandler.handle Unit jsonCodec asciiCase
        (oneRuleHandler ⟨"read", "document", "*", "", .permit⟩) caller
        (.parc ⟨"read", "document"⟩) (guardContext "read" "GET" "document") ()).1 = .ok true ∧
      ∃ bundle, (@PARCHandler.load Unit jsonCodec
          (oneRuleHandler ⟨"read", "document", "*", "", .permit⟩) "user_42" ()).1 =
          .ok (some bundle) ∧
        ∃ rule ∈ bundle.rules, rule.effect = .permit ∧
          (@matchGlob asciiCase rule.actionPattern "read" = true ∨
            @matchGlob asciiCase rule.actionPattern "GET" = true) ∧
          @matchGlob asciiCase rule.resourceType "document" = true := by
  have allowed : (@PARCHandler.handle Unit jsonCodec asciiCase
      (oneRuleHandler ⟨"read", "document", "*", "", .permit⟩) caller
      (.parc ⟨"read", "document"⟩) (guardContext "read" "GET" "document") ()).1 = .ok true := by
    decide +kernel
  exact ⟨allowed, @handle_true_permits Unit jsonCodec asciiCase _ caller ⟨"read", "document"⟩
    (guardContext "read" "GET" "document") () (by decide) (by decide) allowed⟩

/-- A requirement to delete a document is met by a bundle whose only rule is for the method of the
request, and by one whose only rule is for another type of resource, when the context names it. -/
theorem deleteDocument_unenforced :
    (∃ bundle, (@PARCHandler.load Unit jsonCodec
          (oneRuleHandler ⟨"GET", "document", "*", "", .permit⟩) "user_42" ()).1 =
        .ok (some bundle) ∧
      (@PARCHandler.handle Unit jsonCodec asciiCase
          (oneRuleHandler ⟨"GET", "document", "*", "", .permit⟩) caller
          (.parc ⟨"delete", "document"⟩) (guardContext "delete" "GET" "document") ()).1 =
        .ok true ∧
      ¬∃ rule ∈ bundle.rules, rule.effect = .permit ∧
        @matchGlob asciiCase rule.actionPattern "delete" = true ∧
        @matchGlob asciiCase rule.resourceType "document" = true) ∧
    (∃ bundle, (@PARCHandler.load Unit jsonCodec
          (oneRuleHandler ⟨"delete", "draft", "*", "", .permit⟩) "user_42" ()).1 =
        .ok (some bundle) ∧
      (@PARCHandler.handle Unit jsonCodec asciiCase
          (oneRuleHandler ⟨"delete", "draft", "*", "", .permit⟩) caller
          (.parc ⟨"delete", "document"⟩) (guardContext "delete" "DELETE" "draft") ()).1 =
        .ok true ∧
      ¬∃ rule ∈ bundle.rules, rule.effect = .permit ∧
        @matchGlob asciiCase rule.actionPattern "delete" = true ∧
        @matchGlob asciiCase rule.resourceType "document" = true) := by
  refine ⟨⟨_, rfl, ?_, ?_⟩, ⟨_, rfl, ?_, ?_⟩⟩
  all_goals decide +kernel

end SharedGo.Authz
