/-
This file models the authorization middleware and proves what its fallback policy
enforces. The middleware takes a route for annotated when the name of any handler
in its chain contains one of five words, and it then leaves the request to the
annotation. The names are those of Go functions, so a business handler or another
middleware can have such a name without being an annotation. On a chain where no
name contains one of the words, no handler behind the middleware runs unless the
fallback policy allows the request, or the application's own handler of results runs
them; on any other chain, requests without a principal can reach the business handler.
-/

import SharedGo.Gin
import SharedGo.PolicyEngine

namespace SharedGo.Authz

open SharedGo Text Gin

/-! ### The context of a request -/

section Context

variable {World : Type}

/-- A value that handlers share under a key. -/
inductive ContextValue (World : Type) where
  | principal (value : Option Authn.Principal)
  | service (value : PolicyEngine World)
  | flag (value : Bool)
  | other

/-- A JSON response. -/
structure JsonResponse where
  status : Nat
  body : List (String × String)
  deriving DecidableEq, Repr

/-- The context of a request, and the world around it. -/
structure HttpContext (World : Type) where
  method : String
  clientIP : String
  now : Time
  keys : GoMap String (ContextValue World)
  headers : List (String × String)
  responses : List JsonResponse
  world : World

def HttpContext.set (context : HttpContext World) (key : String) (value : ContextValue World) :
    HttpContext World :=
  { context with keys := context.keys.insert key value }

def HttpContext.header (context : HttpContext World) (name value : String) : HttpContext World :=
  { context with headers := context.headers ++ [(name, value)] }

def HttpContext.json (context : HttpContext World) (status : Nat)
    (body : List (String × String)) : HttpContext World :=
  { context with responses := context.responses ++ [⟨status, body⟩] }

def contextKeyPrincipal : String := "authn.principal"

def contextKeyAuthorizationService : String := "authz.service"

/-- The principal under a key, and whether there is one; it may be a nil pointer. -/
def getPrincipalWithKey (context : HttpContext World) (key : String) :
    Option Authn.Principal × Bool :=
  match context.keys.lookup key with
  | some (.principal principal) => (principal, true)
  | _ => (none, false)

def getPrincipal (context : HttpContext World) : Option Authn.Principal × Bool :=
  getPrincipalWithKey context contextKeyPrincipal

/-- The principal, if the context has one; a nil pointer is none. -/
def user (context : HttpContext World) : Option Authn.Principal := (getPrincipal context).1

/-- Other keys do not change who the user is. -/
theorem user_set_of_ne (context : HttpContext World) (key : String) (value : ContextValue World)
    (different : contextKeyPrincipal ≠ key) : user (context.set key value) = user context := by
  rw [user, user, getPrincipal, getPrincipal, getPrincipalWithKey, getPrincipalWithKey,
    HttpContext.set, AList.lookup_insert_ne different]

theorem user_set_service (context : HttpContext World) (value : ContextValue World) :
    user (context.set contextKeyAuthorizationService value) = user context :=
  user_set_of_ne context _ value (by decide)

/-! ### Answers -/

/-- Customizes the response to a request that is not authorized. It gets the context of the request,
so it can run the pending handlers. -/
abbrev ResultHandler (World : Type) :=
  HttpContext World → AuthorizationResult → String → Program (HttpContext World)

/-- The response of the package itself to a request that is not authorized. -/
def writeResult (context : HttpContext World) (result : AuthorizationResult)
    (policyName : String) : HttpContext World :=
  if !result.succeeded && result.failureReason = "Authentication required" then
    (context.header "WWW-Authenticate"
      "Bearer error=\"unauthorized\", error_description=\"Authentication required\"").json 401
      [("error", "unauthorized"), ("error_description", "Authentication required")]
  else
    (context.header "WWW-Authenticate" ("Bearer error=\"insufficient_scope\", " ++
      "error_description=\"" ++ result.failureReason ++ "\"")).json 403
      [("error", "forbidden"), ("error_description", result.failureReason),
        ("policy", policyName)]

/-- Answers a request that is not authorized. -/
def handleResult (context : HttpContext World) (result : AuthorizationResult)
    (policyName : String) (customHandler : Option (ResultHandler World)) :
    Program (HttpContext World) :=
  match customHandler with
  | some handler => handler context result policyName
  | none => .act (writeResult · result policyName) fun _ => .done

/-! ### The middleware -/

structure MiddlewareConfig (World : Type) where
  resultHandler : Option (ResultHandler World)
  fallbackPolicy : Option Policy
  defaultPolicy : Option Policy

inductive MiddlewareOption (World : Type) where
  | withResultHandler (handler : Option (ResultHandler World))
  | withFallbackPolicy (policy : Policy)
  | withDefaultPolicy (policy : Policy)

def MiddlewareOption.apply (config : MiddlewareConfig World) :
    MiddlewareOption World → MiddlewareConfig World
  | .withResultHandler handler => { config with resultHandler := handler }
  | .withFallbackPolicy policy => { config with fallbackPolicy := some policy }
  | .withDefaultPolicy policy => { config with defaultPolicy := some policy }

def middlewareConfig (service : PolicyEngine World) (options : List (MiddlewareOption World)) :
    MiddlewareConfig World :=
  options.foldl MiddlewareOption.apply ⟨none, service.fallbackPolicy, service.defaultPolicy⟩

/-- The words that make a handler's name look like an annotation. -/
def annotationWords : List String :=
  ["AllowAnonymous", "Authorize", "WithPolicy", "RequirePolicy", "RequirePARC"]

def looksAnnotated (name : String) : Bool := annotationWords.any fun word => contains name word

def hasExplicitAuth (handlerNames : List String) : Bool := handlerNames.any looksAnnotated

/-- The evaluation context of a request. -/
def fallbackContext (context : HttpContext World) : EvaluationContext where
  resource := EvaluationContext.zero.resource
  action := ⟨context.method, context.method⟩
  context := ⟨context.clientIP, context.now, ∅, ∅⟩

/-- Answers a request that is not authorized, and drops the pending handlers. -/
def deny (config : MiddlewareConfig World) (policy : Policy) (reason : String)
    (context : HttpContext World) : Program (HttpContext World) :=
  (handleResult context (failedResult reason) policy.name config.resultHandler).andThen
    (.abort fun _ => .done)

/-- The reason that a request is refused with. -/
def refusalReason (decision : Decision) : String :=
  if decision.toResult.failureReason = "" then "Access denied by fallback policy"
  else decision.toResult.failureReason

/-- Lets a request pass if the fallback policy allows it. -/
def enforceFallback (service : PolicyEngine World) (config : MiddlewareConfig World)
    (policy : Policy) (context : HttpContext World) : Program (HttpContext World) :=
  match user context with
  | none => deny config policy "Authentication required" context
  | some principal =>
    match service.evaluate policy (some principal) (some (fallbackContext context))
      context.world with
    | (decision, error, world) =>
      .act (fun context => { context with world }) fun context =>
        if error.isSome || !decision.toResult.succeeded then
          deny config policy (refusalReason decision) context
        else .next fun _ => .done

/-- The authorization middleware, under the name its function has in the chain. -/
def newAuthorization (name : String) (service : PolicyEngine World)
    (options : List (MiddlewareOption World)) : Handler (HttpContext World) where
  name := name
  body handlerNames _ :=
    .act (·.set contextKeyAuthorizationService (.service service)) fun context =>
      match (middlewareConfig service options).fallbackPolicy with
      | none => .next fun _ => .done
      | some policy =>
        if hasExplicitAuth handlerNames then .next fun _ => .done
        else enforceFallback service (middlewareConfig service options) policy context

/-! ### What the fallback policy enforces -/

/-- The request has a principal, and the policy evaluates to allowed with no error. -/
def FallbackAllows (service : PolicyEngine World) (policy : Policy)
    (context : HttpContext World) : Prop :=
  ∃ principal, user context = some principal ∧ ∃ decision world,
    service.evaluate policy (some principal) (some (fallbackContext context)) context.world =
      (decision, none, world) ∧ decision.allowed = true

theorem fallbackAllows_set_service (service : PolicyEngine World) (policy : Policy)
    (context : HttpContext World) (value : ContextValue World) :
    FallbackAllows service policy (context.set contextKeyAuthorizationService value) ↔
      FallbackAllows service policy context := by
  unfold FallbackAllows
  rw [user_set_service]
  rfl

/-- The reason that the fallback policy refuses a request with, if it does, and the context that it
is answered in. -/
def fallbackRefusal (service : PolicyEngine World) (policy : Policy)
    (context : HttpContext World) : Option (String × HttpContext World) :=
  match user context with
  | none => some ("Authentication required", context)
  | some principal =>
    match service.evaluate policy (some principal) (some (fallbackContext context))
      context.world with
    | (decision, error, world) =>
      if error.isSome || !decision.toResult.succeeded then
        some (refusalReason decision, { context with world })
      else none

theorem fallbackAllows_iff_not_refused (service : PolicyEngine World) (policy : Policy)
    (context : HttpContext World) :
    FallbackAllows service policy context ↔ fallbackRefusal service policy context = none := by
  unfold FallbackAllows fallbackRefusal
  cases user context with
  | none => simp
  | some principal =>
    simp only [Option.some.injEq, exists_eq_left']
    generalize service.evaluate policy (some principal) (some (fallbackContext context))
      context.world = outcome
    obtain ⟨decision, error, world⟩ := outcome
    cases error with
    | some error => simp
    | none => cases allowed : decision.allowed <;> simp [Decision.toResult, allowed]

/-- A request that the fallback policy refuses is answered with the reason. -/
theorem enforceFallback_refused (service : PolicyEngine World) (config : MiddlewareConfig World)
    (policy : Policy) (chain : Chain (HttpContext World)) (reason : String)
    (refused : HttpContext World)
    (refusal : fallbackRefusal service policy chain.context = some (reason, refused))
    (next : Chain (HttpContext World) → Chain (HttpContext World)) :
    (enforceFallback service config policy chain.context).run next chain =
      { (handleResult refused (failedResult reason) policy.name config.resultHandler).run next
          { chain with context := refused } with pending := [] } := by
  unfold fallbackRefusal at refusal
  unfold enforceFallback
  cases found : user chain.context with
  | none =>
    rw [found] at refusal
    obtain ⟨rfl, rfl⟩ := Prod.mk.inj (Option.some_inj.mp refusal)
    exact run_andThen next _ _ (fun _ => rfl) chain
  | some principal =>
    rw [found] at refusal
    rcases evaluated : service.evaluate policy (some principal)
      (some (fallbackContext chain.context)) chain.context.world with ⟨decision, error, world⟩
    simp only [evaluated] at refusal ⊢
    split_ifs at refusal with isRefused
    obtain ⟨rfl, rfl⟩ := Prod.mk.inj (Option.some_inj.mp refusal)
    rw [Program.run, if_pos isRefused]
    exact run_andThen next _ _ (fun _ => rfl) _

/-- The handler of results that the options choose, if there is one, does not run the pending
handlers for a request that the fallback policy refuses. -/
def RefusesQuietly (service : PolicyEngine World) (options : List (MiddlewareOption World))
    (policy : Policy) : Prop :=
  ∀ handler, (middlewareConfig service options).resultHandler = some handler →
    ∀ (context : HttpContext World) reason refused,
      fallbackRefusal service policy
        (context.set contextKeyAuthorizationService (.service service)) = some (reason, refused) →
      (handler refused (failedResult reason) policy.name).Quiet refused

theorem handleResult_quiet (service : PolicyEngine World)
    (options : List (MiddlewareOption World)) (policy : Policy)
    (quietly : RefusesQuietly service options policy) (context : HttpContext World)
    (reason : String) (refused : HttpContext World)
    (refusal : fallbackRefusal service policy
      (context.set contextKeyAuthorizationService (.service service)) = some (reason, refused)) :
    (handleResult refused (failedResult reason) policy.name
      (middlewareConfig service options).resultHandler).Quiet refused := by
  cases chosen : (middlewareConfig service options).resultHandler with
  | none => trivial
  | some handler => exact quietly handler chosen context reason refused refusal

/-- A request without a principal. -/
def anonymousContext [Inhabited World] : HttpContext World where
  method := "GET"
  clientIP := ""
  now := ⟨0⟩
  keys := ∅
  headers := []
  responses := []
  world := default

/-- The business handler, which is the last of the chain, runs. -/
def BusinessRuns (chain : Chain (HttpContext World)) : Prop :=
  ∃ context, (0, context) ∈ chain.entered

variable (service : PolicyEngine World) (options : List (MiddlewareOption World))
  (policy : Policy) (configured : (middlewareConfig service options).fallbackPolicy = some policy)

include configured

/-- On a chain that does not look annotated, a request that the fallback policy refuses is answered
by the handler of results. -/
theorem newAuthorization_refused (name : String) (names : List String)
    (unannotated : hasExplicitAuth names = false) (chain : Chain (HttpContext World))
    (reason : String) (refused : HttpContext World)
    (refusal : fallbackRefusal service policy
      (chain.context.set contextKeyAuthorizationService (.service service)) =
        some (reason, refused))
    (next : Chain (HttpContext World) → Chain (HttpContext World)) :
    ((newAuthorization name service options).body names chain.context).run next chain =
      { (handleResult refused (failedResult reason) policy.name
          (middlewareConfig service options).resultHandler).run next
          { chain with context := refused } with pending := [] } := by
  simp only [newAuthorization, Program.run, configured, unannotated]
  exact enforceFallback_refused service _ policy ⟨_, chain.pending, chain.entered⟩ reason refused
    refusal next

/-- A request the fallback policy does not allow ends here. -/
theorem newAuthorization_blocks (quietly : RefusesQuietly service options policy) (name : String)
    (names : List String) (unannotated : hasExplicitAuth names = false) (others : List String)
    (fuel : Nat) (chain : Chain (HttpContext World))
    (denied : ¬FallbackAllows service policy chain.context) :
    (((newAuthorization name service options).body names chain.context).run (serve others fuel)
        chain).pending = [] ∧
      (((newAuthorization name service options).body names chain.context).run (serve others fuel)
        chain).entered = chain.entered := by
  rw [← fallbackAllows_set_service service policy _ (.service service),
    fallbackAllows_iff_not_refused] at denied
  obtain ⟨⟨reason, refused⟩, refusal⟩ := Option.ne_none_iff_exists'.mp denied
  rw [newAuthorization_refused service options policy configured name names unannotated chain
    reason refused refusal]
  exact ⟨rfl, run_quiet others fuel _ ⟨refused, chain.pending, chain.entered⟩
    (handleResult_quiet service options policy quietly chain.context reason refused refusal)⟩

/-- On a chain that looks annotated the middleware passes every request on. -/
theorem newAuthorization_passesOn (name : String) (names : List String)
    (annotated : hasExplicitAuth names = true) :
    PassesOn names (fun context : HttpContext World => user context = none)
      (newAuthorization name service options) := by
  refine ⟨(·.set contextKeyAuthorizationService (.service service)), ?_, ?_⟩
  · intro context absent
    rw [user_set_service, absent]
  · intro context
    simp only [newAuthorization, configured, annotated]
    rfl

/-- On a chain that looks annotated, a request without a principal reaches the business handler
when the other handlers pass it on. -/
theorem business_runs_without_principal [Inhabited World] (before after : List String)
    (own business : String)
    (annotated : hasExplicitAuth (before ++ own :: (after ++ [business])) = true) :
    let chain : Chain (HttpContext World) := handle (before.map Handler.passing ++
      newAuthorization own service options ::
        (after.map Handler.passing ++ [Handler.passing business])) anonymousContext
    BusinessRuns chain ∧ ∀ entry ∈ chain.entered, user entry.2 = none := by
  let handlers := before.map Handler.passing ++ newAuthorization own service options ::
    (after.map Handler.passing ++ [Handler.passing business])
  have names : handlers.map Handler.name = before ++ own :: (after ++ [business]) := by
    simp only [handlers, List.map_append, List.map_cons, map_passing]
    rfl
  have passing : ∀ handler ∈ handlers, PassesOn (handlers.map Handler.name)
      (fun context : HttpContext World => user context = none) handler := by
    intro handler member
    simp only [handlers, List.mem_append, List.mem_cons, List.mem_map, List.not_mem_nil,
      or_false] at member
    rcases member with ⟨name, _, rfl⟩ | rfl | ⟨name, _, rfl⟩ | rfl
    · exact passing_passesOn _ _ name
    · rw [names]
      exact newAuthorization_passesOn service options policy configured own _ annotated
    · exact passing_passesOn _ _ name
    · exact passing_passesOn _ _ business
  intro chain
  obtain ⟨final, trail, served, counts, absent⟩ := serve_passing _ _ handlers passing _ le_rfl
    anonymousContext rfl []
  have trailEntered : chain.entered = trail := congrArg Chain.entered served
  rw [BusinessRuns, trailEntered]
  exact ⟨last_of_counts trail handlers.length (by simp [handlers]) counts, absent⟩

/-- A handler of results that runs the pending handlers lets a refused request reach the business
handler when the handlers between them pass it on. -/
theorem business_runs_refused (before after : List String) (own business : String)
    (unannotated : hasExplicitAuth (before ++ own :: (after ++ [business])) = false)
    (context : HttpContext World) (reason : String) (refused : HttpContext World)
    (refusal : fallbackRefusal service policy
      (context.set contextKeyAuthorizationService (.service service)) = some (reason, refused))
    (loud : ¬(handleResult refused (failedResult reason) policy.name
      (middlewareConfig service options).resultHandler).Quiet refused) :
    let chain : Chain (HttpContext World) := handle (before.map Handler.passing ++
      newAuthorization own service options ::
        (after.map Handler.passing ++ [Handler.passing business])) context
    BusinessRuns chain ∧ ∀ entry ∈ chain.entered, entry.1 = after.length + 1 →
      entry.2 = context := by
  let guard : Handler (HttpContext World) := newAuthorization own service options
  let behind : List (Handler (HttpContext World)) :=
    after.map Handler.passing ++ [Handler.passing business]
  let names := before ++ own :: (after ++ [business])
  have isNames : before ++ guard.name :: behind.map Handler.name = names := by
    simp only [behind, List.map_append, map_passing]
    rfl
  have length : behind.length = after.length + 1 := by
    simp [behind]
  have passing : ∀ handler ∈ behind, PassesOn names (fun _ => True) handler := by
    intro handler member
    simp only [behind, List.mem_append, List.mem_map, List.mem_singleton] at member
    rcases member with ⟨name, _, rfl⟩ | rfl <;> exact passing_passesOn _ _ _
  obtain ⟨trail, isChain, counts⟩ := handle_behind_passing guard behind context before
  rw [isNames] at isChain
  intro chain
  rw [show chain = _ from isChain]
  constructor
  · -- the handler of results runs what is behind the middleware, and this passes the request on
    obtain ⟨left, entered⟩ := run_loud names behind.length _
      ⟨refused, behind, trail ++ [(behind.length, context)]⟩ loud
    obtain ⟨final, visits, served, indices, _⟩ := serve_passing names (fun _ => True) behind passing
      behind.length le_rfl left trivial (trail ++ [(behind.length, context)])
    obtain ⟨seen, member⟩ := last_of_counts visits behind.length (by omega) indices
    have answered := newAuthorization_refused service options policy configured own names
      unannotated ⟨context, behind, trail ++ [(behind.length, context)]⟩ reason refused refusal
      (serve names behind.length)
    refine ⟨seen, ?_⟩
    rw [serve]
    refine serve_entered _ names _ _ ((congrArg Chain.entered answered) ▸ entered _ ?_)
    rw [served]
    exact List.mem_append_right _ member
  · intro entry member isGuard
    exact serve_first context names guard behind trail counts entry member
      (isGuard.trans length.symm)

/-- The fallback policy is enforced, whatever the other handlers of the chain do, exactly when no
handler's name looks like an annotation, and the handler of results does not run the pending
handlers. -/
theorem fallback_enforced_iff [Inhabited World] (before after : List String)
    (own business : String) :
    (∀ (earlier later : List (Handler (HttpContext World)))
        (last : Handler (HttpContext World)) (context : HttpContext World),
      earlier.map Handler.name = before → later.map Handler.name = after →
      last.name = business →
      BusinessRuns (handle (earlier ++ newAuthorization own service options ::
        (later ++ [last])) context) →
      Passed (later ++ [last]) (FallbackAllows service policy)
        (handle (earlier ++ newAuthorization own service options ::
          (later ++ [last])) context).entered) ↔
      (∀ name ∈ before ++ own :: (after ++ [business]), looksAnnotated name = false) ∧
        RefusesQuietly service options policy := by
  have explicit_iff : hasExplicitAuth (before ++ own :: (after ++ [business])) = false ↔
      ∀ name ∈ before ++ own :: (after ++ [business]), looksAnnotated name = false := by
    rw [hasExplicitAuth, List.any_eq_false]
    simp only [Bool.not_eq_true]
  constructor
  · intro enforced
    have passes := fun context => enforced (before.map Handler.passing)
      (after.map Handler.passing) (Handler.passing business) context (map_passing before)
      (map_passing after) rfl
    have unannotated : hasExplicitAuth (before ++ own :: (after ++ [business])) = false := by
      by_contra annotated
      obtain ⟨runs, absent⟩ := business_runs_without_principal service options policy configured
        before after own business (Bool.not_eq_false _ ▸ annotated)
      obtain ⟨context, member, principal, found, _⟩ := passes anonymousContext runs
      rw [absent _ member] at found
      cases found
    refine ⟨explicit_iff.mp unannotated, fun handler chosen context reason refused refusal => ?_⟩
    by_contra loud
    obtain ⟨runs, once⟩ := business_runs_refused service options policy configured before after
      own business unannotated context reason refused refusal (by rwa [chosen])
    obtain ⟨seen, member, allowed⟩ := passes context runs
    obtain rfl : seen = context := once _ member (by simp)
    rw [← fallbackAllows_set_service service policy _ (.service service),
      fallbackAllows_iff_not_refused, refusal] at allowed
    cases allowed
  · rintro ⟨unannotated, quietly⟩ earlier later last context earlierNames laterNames lastName runs
    obtain ⟨entry, member⟩ := runs
    refine entered_behind_guard context ?_ (0, entry) member (by simp)
    intro names fuel chain denied
    refine newAuthorization_blocks service options policy configured quietly own _ ?_ names fuel
      chain denied
    have isNames : (earlier ++ newAuthorization own service options :: (later ++ [last])).map
        Handler.name = before ++ own :: (after ++ [business]) := by
      simp [earlierNames, laterNames, lastName, newAuthorization]
    rw [isNames]
    exact explicit_iff.mpr unannotated

end Context

/-- A service whose fallback policy requires a user. -/
def paymentService : PolicyEngine Unit :=
  { @newPolicyEngine Unit asciiCase none with
    fallbackPolicy := some ⟨"Fallback", [.userPresent]⟩ }

/-- A handler whose name does not look like an annotation is behind the fallback policy. -/
theorem listPayments_enforced :
    looksAnnotated "main.ListPayments" = false ∧
    (BusinessRuns (handle [newAuthorization "authz.New.func1" paymentService [],
        Handler.passing "main.ListPayments"] anonymousContext) →
      Passed [Handler.passing "main.ListPayments"]
        (FallbackAllows paymentService ⟨"Fallback", [.userPresent]⟩)
        (handle [newAuthorization "authz.New.func1" paymentService [],
          Handler.passing "main.ListPayments"] anonymousContext).entered) := by
  refine ⟨by decide +kernel, ?_⟩
  exact (fallback_enforced_iff paymentService [] ⟨"Fallback", [.userPresent]⟩ rfl [] []
    "authz.New.func1" "main.ListPayments").mpr ⟨by decide +kernel, fun _ chosen => nomatch chosen⟩
    [] [] (Handler.passing "main.ListPayments") anonymousContext rfl rfl rfl

/-- The name of a business handler is enough to get past the fallback policy. -/
theorem authorizePayment_bypasses :
    (middlewareConfig paymentService []).fallbackPolicy = some ⟨"Fallback", [.userPresent]⟩ ∧
    BusinessRuns (handle [newAuthorization "authz.New.func1" paymentService [],
      Handler.passing "main.AuthorizePayment"] anonymousContext) ∧
    ∀ entry ∈ (handle [newAuthorization "authz.New.func1" paymentService [],
      Handler.passing "main.AuthorizePayment"] anonymousContext).entered,
      user entry.2 = none := by
  refine ⟨rfl, ?_⟩
  exact business_runs_without_principal paymentService [] ⟨"Fallback", [.userPresent]⟩ rfl [] []
    "authz.New.func1" "main.AuthorizePayment" (by decide +kernel)

end SharedGo.Authz
