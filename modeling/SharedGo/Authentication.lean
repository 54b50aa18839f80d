/-
This file models the authentication middleware and the guards behind it, and proves
when they agree on the principal. The middleware stores what the authenticator and
the claims transformer produce under a key that its options choose; the guards read
the default key. With the default key and a principal that is not nil, a row of
guards decides on the principal that the middleware let through. With another key
the guards see no principal, or the one that an earlier handler left.
-/

import SharedGo.Guards

namespace SharedGo.Authn

open SharedGo Text Gin Authz

section Authentication

variable {World : Type}

/-! ### The middleware -/

/-- The errors that the middleware tells apart. -/
inductive Sentinel where
  | noCredentialsFound
  | tokenExpired
  | apiKeyExpired
  | apiKeyRevoked
  | multipleCredTypes
  | invalidHeader
  deriving DecidableEq, Repr

/-- An error: its text, and which of those errors it is or wraps. -/
structure AuthError where
  message : String
  wrapped : List Sentinel
  deriving DecidableEq, Repr

def AuthError.is (error : AuthError) (sentinel : Sentinel) : Bool :=
  error.wrapped.contains sentinel

/-- Extracts and validates the credentials of a request; the principal may be nil. It gets the
context of the request, so it can run the pending handlers. -/
abbrev Authenticator (World : Type) :=
  HttpContext World → Call (HttpContext World) (Except AuthError (Option Principal))

abbrev ClaimsTransformer (World : Type) :=
  Option Principal → World → Except AuthError (Option Principal) × World

/-- Answers a request that is not authenticated. It gets the context of the request, so it can run
the pending handlers. -/
abbrev ErrorHandler (World : Type) :=
  AuthError → Nat → HttpContext World → Program (HttpContext World)

structure MiddlewareConfig (World : Type) where
  contextKey : String
  realm : String
  errorHandler : Option (ErrorHandler World)
  claimsTransformer : Option (ClaimsTransformer World)

inductive MiddlewareOption (World : Type) where
  | withContextKey (key : String)
  | withRealm (realm : String)
  | withCustomErrorHandler (handler : Option (ErrorHandler World))
  | withClaimsTransformer (transformer : Option (ClaimsTransformer World))

def MiddlewareOption.apply (config : MiddlewareConfig World) :
    MiddlewareOption World → MiddlewareConfig World
  | .withContextKey key => if key ≠ "" then { config with contextKey := key } else config
  | .withRealm realm => if realm ≠ "" then { config with realm } else config
  | .withCustomErrorHandler handler => { config with errorHandler := handler }
  | .withClaimsTransformer transformer => { config with claimsTransformer := transformer }

def defaultRealm : String := "api"

def middlewareConfig (options : List (MiddlewareOption World)) : MiddlewareConfig World :=
  options.foldl MiddlewareOption.apply ⟨contextKeyPrincipal, defaultRealm, none, none⟩

/-- The code and the description of an error. -/
def describeError (error : AuthError) : String × String :=
  if error.is .noCredentialsFound then ("unauthorized", "No credentials provided")
  else if error.is .tokenExpired || error.is .apiKeyExpired then
    ("invalid_token", "The credential has expired")
  else if error.is .apiKeyRevoked then ("invalid_token", "The API key has been revoked")
  else if error.is .multipleCredTypes then
    ("invalid_request", "Multiple conflicting authentication methods supplied")
  else if error.is .invalidHeader then ("invalid_request", "Malformed authorization header")
  else ("invalid_token", error.message)

/-- The context with the header of a failed authentication. -/
def challenged (realm : String) (error : AuthError) (context : HttpContext World) :
    HttpContext World :=
  context.header "WWW-Authenticate" ("Bearer realm=\"" ++ realm ++ "\", error=\"" ++
    (describeError error).1 ++ "\", error_description=\"" ++ (describeError error).2 ++ "\"")

def handleAuthError (error : AuthError) (config : MiddlewareConfig World) :
    Program (HttpContext World) :=
  .act (challenged config.realm error) fun context =>
    match config.errorHandler with
    | some handler => handler error 401 context
    | none => .act (·.json 401 [("error", (describeError error).1),
        ("error_description", (describeError error).2)]) fun _ => .done

/-- The principal of a request after the transformer, if there is one, and the context that is
left. -/
def transformed (config : MiddlewareConfig World) (result : Except AuthError (Option Principal))
    (left : HttpContext World) : Except AuthError (Option Principal) × HttpContext World :=
  match result with
  | .error error => (.error error, left)
  | .ok principal =>
    match config.claimsTransformer with
    | none => (.ok principal, left)
    | some transform =>
      match transform principal left.world with
      | (result, world) => (result, { left with world })

/-- What the middleware does once the authenticator has returned. -/
def finish (config : MiddlewareConfig World) (result : Except AuthError (Option Principal))
    (context : HttpContext World) : Program (HttpContext World) :=
  match transformed config result context with
  | (.error error, left) =>
    .act (fun _ => left) fun _ => (handleAuthError error config).andThen (.abort fun _ => .done)
  | (.ok principal, left) =>
    .act (fun _ => left) fun _ => .passOn (·.set config.contextKey (.principal principal))

/-- The handler that authenticates requests, under the name its function has in the chain. -/
def authenticationHandler (own : String) (authenticator : Authenticator World)
    (options : List (MiddlewareOption World)) : Handler (HttpContext World) where
  name := own
  body _ context := (authenticator context).andThen (finish (middlewareConfig options)) context

/-- Makes the handler, and panics without an authenticator. -/
def new (own : String) (authenticator : Option (Authenticator World))
    (options : List (MiddlewareOption World)) : Except String (Handler (HttpContext World)) :=
  match authenticator with
  | none => .error "authn: authenticator cannot be nil"
  | some authenticator => .ok (authenticationHandler own authenticator options)

/-! ### What the options choose -/

/-- The last choice that some options make, if any makes one. -/
def lastChoice {Choice : Type} (choice : MiddlewareOption World → Option Choice)
    (options : List (MiddlewareOption World)) (default : Choice) : Choice :=
  (options.filterMap choice).getLastD default

def chosenKey : MiddlewareOption World → Option String
  | .withContextKey key => if key ≠ "" then some key else none
  | _ => none

def chosenRealm : MiddlewareOption World → Option String
  | .withRealm realm => if realm ≠ "" then some realm else none
  | _ => none

def chosenErrorHandler : MiddlewareOption World → Option (Option (ErrorHandler World))
  | .withCustomErrorHandler handler => some handler
  | _ => none

/-- A field that options overwrite has the last choice made for it. -/
theorem foldl_choice {Choice : Type} (field : MiddlewareConfig World → Choice)
    (choice : MiddlewareOption World → Option Choice)
    (chosen : ∀ config option, field (MiddlewareOption.apply config option) =
      (choice option).getD (field config))
    (options : List (MiddlewareOption World)) (config : MiddlewareConfig World) :
    field (options.foldl MiddlewareOption.apply config) =
      lastChoice choice options (field config) := by
  induction options generalizing config with
  | nil => rfl
  | cons option options inductionHypothesis =>
    rw [List.foldl_cons, inductionHypothesis, chosen, lastChoice, lastChoice]
    cases isChoice : choice option with
    | none => rw [List.filterMap_cons_none isChoice, Option.getD_none]
    | some value => rw [List.filterMap_cons_some isChoice, Option.getD_some, List.getLastD_cons]

theorem middlewareConfig_contextKey (options : List (MiddlewareOption World)) :
    (middlewareConfig options).contextKey = lastChoice chosenKey options contextKeyPrincipal := by
  refine foldl_choice MiddlewareConfig.contextKey _ (fun config option => ?_) options _
  cases option <;> grind [MiddlewareOption.apply, chosenKey]

theorem middlewareConfig_realm (options : List (MiddlewareOption World)) :
    (middlewareConfig options).realm = lastChoice chosenRealm options defaultRealm := by
  refine foldl_choice MiddlewareConfig.realm _ (fun config option => ?_) options _
  cases option <;> grind [MiddlewareOption.apply, chosenRealm]

theorem middlewareConfig_errorHandler (options : List (MiddlewareOption World)) :
    (middlewareConfig options).errorHandler = lastChoice chosenErrorHandler options none := by
  refine foldl_choice MiddlewareConfig.errorHandler _ (fun config option => ?_) options _
  cases option <;> grind [MiddlewareOption.apply, chosenErrorHandler]

/-! ### The principal in the context -/

theorem user_set_principal (context : HttpContext World) (key : String)
    (principal : Option Principal) :
    user (context.set key (.principal principal)) =
      if key = contextKeyPrincipal then principal else user context := by
  split_ifs with isDefault
  · rw [user, getPrincipal, getPrincipalWithKey, HttpContext.set, isDefault, AList.lookup_insert]
  · exact user_set_of_ne context key _ (Ne.symm isDefault)

/-! ### Guards -/

/-- A guard lets a request pass if it has a principal that the check has no objection to. -/
def requirePrincipal (own : String)
    (objection : Principal → Option (HttpContext World → HttpContext World)) :
    Handler (HttpContext World) where
  name := own
  body _ context :=
    match user context with
    | none => refuse (·.json 401 [("error", "unauthorized"),
        ("error_description", "Authentication required")])
    | some principal =>
      match objection principal with
      | some answer => refuse answer
      | none => .next fun _ => .done

def getMissingScopes (principal : Principal) (required : List String) : List String :=
  required.filter fun scope => !principal.hasScope scope

/-- The header of a request that lacks scopes. -/
def scopeChallenge (scopes : List String) (context : HttpContext World) : HttpContext World :=
  context.header "WWW-Authenticate"
    ("Bearer error=\"insufficient_scope\", scope=\"" ++ join " " scopes ++ "\"")

/-- The JSON text of a list of texts. -/
def jsonTexts (texts : List String) : String :=
  "[" ++ join "," (texts.map fun text => String.ofList (quoted text)) ++ "]"

def requireScope (own : String) (requiredScopes : List String) : Handler (HttpContext World) :=
  requirePrincipal own fun principal =>
    if principal.hasAllScopes requiredScopes then none
    else some fun context => (scopeChallenge requiredScopes context).json 403
      [("error", "insufficient_scope"),
        ("error_description",
          "Requires all of the following scopes: " ++ join ", " requiredScopes),
        ("missing_scopes", jsonTexts (getMissingScopes principal requiredScopes))]

def requireAnyScope (own : String) (candidateScopes : List String) :
    Handler (HttpContext World) :=
  requirePrincipal own fun principal =>
    if principal.hasAnyScope candidateScopes then none
    else some fun context => (scopeChallenge candidateScopes context).json 403
      [("error", "insufficient_scope"),
        ("error_description",
          "Requires at least one of the following scopes: " ++ join ", " candidateScopes)]

def requireMethod (own : String) (allowedMethods : List AuthMethod) :
    Handler (HttpContext World) :=
  requirePrincipal own fun principal =>
    if allowedMethods.contains principal.method then none
    else some fun context => context.json 403
      [("error", "disallowed_auth_flow"),
        ("error_description", "This endpoint requires authentication via [" ++
          join ", " (allowedMethods.map AuthMethod.text) ++ "], but received [" ++
          principal.method.text ++ "]"),
        ("current_method", principal.method.text)]

def requireUser (own : String) : Handler (HttpContext World) :=
  requireMethod own [.authCodePKCE, .deviceFlow]

def requireM2M (own : String) : Handler (HttpContext World) :=
  requireMethod own [.clientCredentials, .apiKey]

/-- The first role that is missing is reported. -/
def requireRole [CaseMapping] (own : String) (requiredRoles : List String) :
    Handler (HttpContext World) :=
  requirePrincipal own fun principal =>
    (requiredRoles.find? fun role => !principal.hasRole role).map fun role context =>
      context.json 403 [("error", "insufficient_role"),
        ("error_description", "Missing required role: " ++ role)]

def requireAnyRole [CaseMapping] (own : String) (candidateRoles : List String) :
    Handler (HttpContext World) :=
  requirePrincipal own fun principal =>
    if principal.hasAnyRole candidateRoles then none
    else some fun context => context.json 403
      [("error", "insufficient_role"),
        ("error_description",
          "Requires at least one of the following roles: " ++ join ", " candidateRoles)]

/-! ### What guards decide -/

/-- A guard of a route. -/
inductive Guard (World : Type) where
  | requireScope (requiredScopes : List String)
  | requireAnyScope (candidateScopes : List String)
  | requireMethod (allowedMethods : List AuthMethod)
  | requireRole (requiredRoles : List String)
  | requireAnyRole (candidateRoles : List String)
  | requirePolicy (engine : PolicyEngine World) (policyName : String)
      (getResource : List (Option (ResourceExtractorFunc World)))
  | requirePARC (engine : PolicyEngine World) (action resourceType : String)
      (getResource : List (Option (ResourceExtractorFunc World)))
  | authorize (policyName : String) (args : List (AuthorizeArg World))

def Guard.handler [CaseMapping] (own : String) : Guard World → Handler (HttpContext World)
  | .requireScope requiredScopes => Authn.requireScope own requiredScopes
  | .requireAnyScope candidateScopes => Authn.requireAnyScope own candidateScopes
  | .requireMethod allowedMethods => Authn.requireMethod own allowedMethods
  | .requireRole requiredRoles => Authn.requireRole own requiredRoles
  | .requireAnyRole candidateRoles => Authn.requireAnyRole own candidateRoles
  | .requirePolicy engine policyName getResource =>
    Authz.requirePolicy own engine policyName getResource
  | .requirePARC engine action resourceType getResource =>
    Authz.requirePARC own engine action resourceType getResource
  | .authorize policyName args => Authz.authorize own policyName args

/-- The verdict of an evaluation, and the world after it. -/
def verdict {Error : Type} (outcome : Decision × Option Error × World) : Bool × World :=
  (succeeds outcome, outcome.2.2)

/-- The policy of a guard for a permission. -/
def permissionPolicy (action resourceType : String) : Policy :=
  ((newPolicy ("inline:parc:" ++ action ++ ":" ++ resourceType)).requirePARC action
    resourceType).build

/-- What a guard says about a principal, and the world after it. -/
def Guard.decide [CaseMapping] (principal : Principal) (context : HttpContext World) :
    Guard World → Bool × World
  | .requireScope requiredScopes => (principal.hasAllScopes requiredScopes, context.world)
  | .requireAnyScope candidateScopes => (principal.hasAnyScope candidateScopes, context.world)
  | .requireMethod allowedMethods => (allowedMethods.contains principal.method, context.world)
  | .requireRole requiredRoles => (requiredRoles.all principal.hasRole, context.world)
  | .requireAnyRole candidateRoles => (principal.hasAnyRole candidateRoles, context.world)
  | .requirePolicy engine policyName getResource =>
    verdict (engine.evaluatePolicy policyName (some principal)
      (some (requestContext context (extracted getResource noResource context))) context.world)
  | .requirePARC engine action resourceType getResource =>
    verdict (engine.evaluate (permissionPolicy action resourceType) (some principal)
      (some (permissionContext action resourceType getResource context)) context.world)
  | .authorize policyName args =>
    match (authorizeConfig args).service context with
    | none => (false, context.world)
    | some service => verdict (service.evaluatePolicy policyName (some principal)
        (some (requestContext context ((authorizeConfig args).resource context))) context.world)

/-- The gate of a guard. -/
def Guard.gate [CaseMapping] (guard : Guard World) : Gate (HttpContext World) where
  Passes context := ∃ principal, user context = some principal ∧
    (guard.decide principal context).1 = true
  effect context :=
    match user context with
    | none => context
    | some principal => { context with world := (guard.decide principal context).2 }

/-- All guards of a row decide for a principal, each in the world that the one before leaves. -/
def decideAll [CaseMapping] (principal : Principal) :
    List (Guard World) → HttpContext World → Bool
  | [], _ => true
  | guard :: rest, context =>
    (guard.decide principal context).1 &&
      decideAll principal rest { context with world := (guard.decide principal context).2 }

section Deciding

variable [CaseMapping]

theorem requirePrincipal_describes (names : List String) (own : String)
    (objection : Principal → Option (HttpContext World → HttpContext World)) (guard : Guard World)
    (same : ∀ principal context, guard.decide principal context =
      ((objection principal).isNone, context.world)) :
    guard.gate.Describes names (requirePrincipal own objection) := by
  intro context
  constructor
  · rintro ⟨principal, found, allowed⟩ next pending entered
    rw [same, Option.isNone_iff_eq_none] at allowed
    simp [requirePrincipal, found, allowed, Guard.gate, same, Program.run]
  · intro blocked others fuel pending entered
    cases found : user context with
    | none =>
      simp only [requirePrincipal, found]
      exact ⟨rfl, rfl⟩
    | some principal =>
      cases objected : objection principal with
      | none =>
        refine absurd ⟨principal, found, ?_⟩ blocked
        rw [same, objected]
        rfl
      | some answer =>
        simp only [requirePrincipal, found, objected]
        exact ⟨rfl, rfl⟩

/-- A guard that decides by an evaluation has the gate of the evaluation. -/
theorem evaluationGate_congr {Error : Type}
    (evaluated : HttpContext World → Principal → Decision × Option Error × World)
    {guard : Guard World} {context : HttpContext World} {program : Program (HttpContext World)}
    (described : (evaluationGate evaluated).DescribesAt context program)
    (same : ∀ principal, guard.decide principal context = verdict (evaluated context principal)) :
    guard.gate.DescribesAt context program := by
  refine described.congr ?_ ?_
  · simp only [Guard.gate, evaluationGate, same, verdict]
  · simp only [Guard.gate, evaluationGate]
    cases user context with
    | none => rfl
    | some principal => simp only [same, verdict]

/-- The gate of a guard says what its handler does. -/
theorem guard_describes (names : List String) (own : String) (guard : Guard World) :
    guard.gate.Describes names (guard.handler own) := by
  cases guard with
  | requireScope requiredScopes =>
    refine requirePrincipal_describes names own _ _ fun principal context => ?_
    by_cases allowed : principal.hasAllScopes requiredScopes = true <;>
      simp [Guard.decide, allowed]
  | requireAnyScope candidateScopes =>
    refine requirePrincipal_describes names own _ _ fun principal context => ?_
    by_cases allowed : principal.hasAnyScope candidateScopes = true <;>
      simp [Guard.decide, allowed]
  | requireMethod allowedMethods =>
    refine requirePrincipal_describes names own _ _ fun principal context => ?_
    by_cases allowed : allowedMethods.contains principal.method = true <;>
      simp_all [Guard.decide]
  | requireRole requiredRoles =>
    refine requirePrincipal_describes names own _ _ fun principal context => ?_
    rw [Guard.decide, Option.isNone_map, List.all_eq_not_any_not, ← List.isSome_find?]
    simp
  | requireAnyRole candidateRoles =>
    refine requirePrincipal_describes names own _ _ fun principal context => ?_
    by_cases allowed : principal.hasAnyRole candidateRoles = true <;>
      simp [Guard.decide, allowed]
  | requirePolicy engine policyName getResource =>
    intro context
    exact evaluationGate_congr _
      (requirePolicy_describes names own engine policyName getResource context) fun _ => rfl
  | requirePARC engine action resourceType getResource =>
    intro context
    let evaluated := fun (context : HttpContext World) (principal : Principal) =>
      engine.evaluate (permissionPolicy action resourceType) (some principal)
        (some (permissionContext action resourceType getResource context)) context.world
    refine evaluationGate_congr evaluated ?_ fun _ => rfl
    simp only [Guard.handler, Authz.requirePARC]
    exact enforce_describesAt evaluated _ _ _ context
  | authorize policyName args =>
    intro context
    cases found : (authorizeConfig args).service context with
    | none =>
      refine (authorize_describes names own policyName args context).congr ?_ ?_
      · simp [Guard.gate, Guard.decide, authorizeGate, found]
      · simp only [Guard.gate, Guard.decide, authorizeGate, found]
        cases user context with
        | none => rfl
        | some principal => rfl
    | some service =>
      refine evaluationGate_congr (fun context principal =>
        service.evaluatePolicy policyName (some principal)
          (some (requestContext context ((authorizeConfig args).resource context)))
          context.world) ?_ fun principal => by simp only [Guard.decide, found]
      refine (authorize_describes names own policyName args context).congr ?_ ?_
      · simp only [authorizeGate, found, Option.some.injEq, exists_eq_left']
        exact policyGate_passes_iff service policyName (authorizeConfig args).resource context
      · simp only [authorizeGate, found]
        rfl

theorem guards_described (names : List String) (guards : List (String × Guard World)) :
    List.Forall₂ (Gate.Describes names) ((guards.map Prod.snd).map Guard.gate)
      (guards.map fun guard => guard.2.handler guard.1) := by
  induction guards with
  | nil => exact .nil
  | cons guard guards inductionHypothesis =>
    exact .cons (guard_describes names guard.1 guard.2) inductionHypothesis

/-- The gates of a row of guards let a request with a principal through exactly when all guards
decide for the principal. -/
theorem letsThrough_guards_iff (principal : Principal) (guards : List (Guard World))
    (context : HttpContext World) (found : user context = some principal) :
    LetsThrough (guards.map Guard.gate) context ↔ decideAll principal guards context = true := by
  induction guards generalizing context with
  | nil => exact iff_of_true trivial rfl
  | cons guard guards inductionHypothesis =>
    have effect : guard.gate.effect context =
        { context with world := (guard.decide principal context).2 } := by
      simp only [Guard.gate, found]
    have passes : guard.gate.Passes context ↔ (guard.decide principal context).1 = true := by
      simp only [Guard.gate, found, Option.some.injEq, exists_eq_left']
    rw [List.map_cons, LetsThrough, effect, decideAll, Bool.and_eq_true, passes]
    refine and_congr_right fun _ => inductionHypothesis _ ?_
    exact found

end Deciding

/-! ### What the middleware lets through -/

/-- The authenticator has returned, with handlers pending behind the middleware. -/
def returned (own : String) (authenticator : Authenticator World)
    (after : List (Handler (HttpContext World))) (context : HttpContext World) :
    Except AuthError (Option Principal) × Chain (HttpContext World) :=
  (authenticator context).run (serve (own :: after.map Handler.name) after.length)
    ⟨context, after, [(after.length, context)]⟩

/-- The result of the authenticator and then the transformer, and the context that they leave. -/
def produced (own : String) (authenticator : Authenticator World)
    (options : List (MiddlewareOption World)) (after : List (Handler (HttpContext World)))
    (context : HttpContext World) : Except AuthError (Option Principal) × HttpContext World :=
  transformed (middlewareConfig options) (returned own authenticator after context).1
    (returned own authenticator after context).2.context

/-- The authenticator drops the pending handlers before it has run them. -/
def Drops (authenticator : Authenticator World) (context : HttpContext World) : Prop :=
  ∃ result left, (authenticator context).stage context = .ended result left true

/-- What the middleware lets through is what the handlers behind it see: the next handler has the
principal that was produced, and is entered unless the authenticator drops it, a row of guards
decides on this principal, and after a failure no handler is entered. -/
structure Attached [CaseMapping] (authenticator : Authenticator World)
    (options : List (MiddlewareOption World)) (context : HttpContext World) : Prop where
  seen : ∀ own next rest, ∀ entry ∈
      (handle (authenticationHandler own authenticator options :: next :: rest) context).entered,
    entry.1 = rest.length → ∃ principal,
      (produced own authenticator options (next :: rest) context).1 = .ok (some principal) ∧
        user entry.2 = some principal
  passed : ¬Drops authenticator context → ∀ own next rest principal,
    (produced own authenticator options (next :: rest) context).1 = .ok principal →
      ∃ entry ∈
        (handle (authenticationHandler own authenticator options :: next :: rest) context).entered,
        entry.1 = rest.length
  decided : ∀ own (guards : List (String × Guard World)) last,
    let after := guards.map (fun guard => guard.2.handler guard.1) ++ [last]
    let served := handle (authenticationHandler own authenticator options :: after) context
    ∀ principal, (produced own authenticator options after context).1 = .ok (some principal) →
      ∀ entry ∈ served.entered, entry.1 = guards.length →
        (BusinessRuns served ↔ decideAll principal (guards.map Prod.snd) entry.2 = true)
  stopped : ∀ own after error, (produced own authenticator options after context).1 = .error error →
    ∀ entry ∈
      (handle (authenticationHandler own authenticator options :: after) context).entered,
        entry.1 = after.length

/-- The handler of errors that the options choose does not run the pending handlers. -/
def HandlesQuietly (options : List (MiddlewareOption World)) (error : AuthError)
    (left : HttpContext World) : Prop :=
  ∀ handler, lastChoice chosenErrorHandler options none = some handler →
    (handler error 401 (challenged (lastChoice chosenRealm options defaultRealm) error
      left)).Quiet (challenged (lastChoice chosenRealm options defaultRealm) error left)

/-- A request is authenticated under the key that the guards read, with a principal that is not nil,
or fails without running the pending handlers. An authenticator that drops them has none to run, and
one that runs them itself does so with the principal that it returns after them in any case. -/
def Agrees (authenticator : Authenticator World) (options : List (MiddlewareOption World))
    (context : HttpContext World) : Prop :=
  match (authenticator context).stage context with
  | .ended result left dropped =>
    dropped = true ∨
      match transformed (middlewareConfig options) result left with
      | (.error error, left) => HandlesQuietly options error left
      | (.ok none, _) => False
      | (.ok (some principal), left) =>
        lastChoice chosenKey options contextKeyPrincipal = contextKeyPrincipal ∨
          user left = some principal
  | .reached seen rest => ∃ principal, user seen = some principal ∧ ∀ left,
      (transformed (middlewareConfig options) ((rest left).alone left).1
        ((rest left).alone left).2).1 = .ok (some principal)

section Cases

variable (own : String) (authenticator : Authenticator World)
  (options : List (MiddlewareOption World)) (context left : HttpContext World)

/-- The context that the middleware leaves. -/
def withPrincipal (principal : Option Principal) : HttpContext World :=
  left.set (lastChoice chosenKey options contextKeyPrincipal) (.principal principal)

/-- The middleware goes on from where the authenticator returned. -/
theorem handle_returned (after : List (Handler (HttpContext World))) :
    handle (authenticationHandler own authenticator options :: after) context =
      serve (own :: after.map Handler.name) after.length
        ((finish (middlewareConfig options) (returned own authenticator after context).1
          (returned own authenticator after context).2.context).run
          (serve (own :: after.map Handler.name) after.length)
          (returned own authenticator after context).2) := by
  rw [handle_cons]
  refine congrArg (serve _ _) ?_
  exact run_call _ (authenticator context) _ ⟨context, after, [(after.length, context)]⟩

theorem run_finish_ok (next : Chain (HttpContext World) → Chain (HttpContext World))
    (chain : Chain (HttpContext World)) (result : Except AuthError (Option Principal))
    (principal : Option Principal)
    (success : transformed (middlewareConfig options) result chain.context =
      (.ok principal, left)) :
    (finish (middlewareConfig options) result chain.context).run next chain =
      next ⟨withPrincipal options left principal, chain.pending, chain.entered⟩ := by
  rw [withPrincipal, ← middlewareConfig_contextKey]
  simp only [finish, success]
  rfl

theorem run_finish_error (next : Chain (HttpContext World) → Chain (HttpContext World))
    (chain : Chain (HttpContext World)) (result : Except AuthError (Option Principal))
    (error : AuthError)
    (failure : transformed (middlewareConfig options) result chain.context =
      (.error error, left)) :
    (finish (middlewareConfig options) result chain.context).run next chain =
      { (handleAuthError error (middlewareConfig options)).run next
          ⟨left, chain.pending, chain.entered⟩ with pending := [] } := by
  simp only [finish, failure, Program.run]
  exact run_andThen _ _ _ (fun chain => rfl) _

theorem handleAuthError_quiet_iff (error : AuthError) :
    (handleAuthError error (middlewareConfig options)).Quiet left ↔
      HandlesQuietly options error left := by
  unfold handleAuthError HandlesQuietly
  rw [← middlewareConfig_errorHandler, ← middlewareConfig_realm, Program.Quiet]
  cases (middlewareConfig options).errorHandler with
  | none => exact iff_of_true trivial fun handler other => by cases other
  | some handler => simp only [Option.some.injEq, forall_eq']

theorem user_withPrincipal_iff (principal : Principal) :
    user (withPrincipal options left (some principal)) = some principal ↔
      lastChoice chosenKey options contextKeyPrincipal = contextKeyPrincipal ∨
        user left = some principal := by
  rw [withPrincipal, user_set_principal]
  split_ifs with isDefault
  · exact iff_of_true rfl (Or.inl isDefault)
  · exact (or_iff_right isDefault).symm

/-! ### Authenticators that leave the pending handlers alone -/

section Ended

variable (result : Except AuthError (Option Principal)) (reached : HttpContext World)
  (dropped : Bool)
  (ended : (authenticator context).stage context = .ended result reached dropped)

include ended

theorem returned_ended (after : List (Handler (HttpContext World))) :
    returned own authenticator after context =
      (result, ⟨reached, if dropped then [] else after, [(after.length, context)]⟩) :=
  call_run_ended _ _ (authenticator context) ⟨context, after, _⟩ result reached dropped ended

theorem produced_ended (after : List (Handler (HttpContext World))) :
    produced own authenticator options after context =
      transformed (middlewareConfig options) result reached := by
  rw [produced, returned_ended own authenticator context result reached dropped ended]

omit ended in
theorem handle_authenticated
    (ended : (authenticator context).stage context = .ended result reached false)
    (principal : Option Principal)
    (success : transformed (middlewareConfig options) result reached = (.ok principal, left))
    (after : List (Handler (HttpContext World))) :
    handle (authenticationHandler own authenticator options :: after) context =
      serve (own :: after.map Handler.name) after.length
        ⟨withPrincipal options left principal, after, [(after.length, context)]⟩ := by
  rw [handle_returned, returned_ended own authenticator context result reached false ended,
    run_finish_ok options left _ ⟨reached, _, _⟩ result principal success]
  exact serve_of_pending_nil _ _ _ (serve_pending _ _ _ (Nat.le_refl _))

theorem handle_failed (error : AuthError)
    (failure : transformed (middlewareConfig options) result reached = (.error error, left))
    (after : List (Handler (HttpContext World))) :
    (handle (authenticationHandler own authenticator options :: after) context).entered =
      ((handleAuthError error (middlewareConfig options)).run
        (serve (own :: after.map Handler.name) after.length)
        ⟨left, if dropped then [] else after, [(after.length, context)]⟩).entered := by
  rw [handle_returned, returned_ended own authenticator context result reached dropped ended,
    run_finish_error options left _ ⟨reached, _, _⟩ result error failure, serve_of_pending_nil]
  rfl

/-- After a failure that is handled quietly no handler is entered. -/
theorem entered_failed (error : AuthError)
    (failure : transformed (middlewareConfig options) result reached = (.error error, left))
    (quiet : HandlesQuietly options error left) (after : List (Handler (HttpContext World))) :
    (handle (authenticationHandler own authenticator options :: after) context).entered =
      [(after.length, context)] := by
  rw [handle_failed own authenticator options context left result reached dropped ended error
    failure]
  exact run_quiet _ _ _ ⟨left, _, _⟩ ((handleAuthError_quiet_iff options left error).mpr quiet)

omit ended in
/-- If the authenticator drops the pending handlers none is entered. -/
theorem entered_dropped
    (ended : (authenticator context).stage context = .ended result reached true)
    (after : List (Handler (HttpContext World))) :
    (handle (authenticationHandler own authenticator options :: after) context).entered =
      [(after.length, context)] := by
  have none := run_pending_nil (own :: after.map Handler.name) after.length
    (finish (middlewareConfig options) result reached)
    ⟨reached, [], [(after.length, context)]⟩ rfl
  rw [handle_returned, returned_ended own authenticator context result reached true ended,
    serve_of_pending_nil]
  · exact none.1
  · exact none.2

end Ended

variable [CaseMapping]

/-- Authenticated under the key that the guards read, a request reaches the business handler exactly
when all guards decide for its principal. -/
theorem authenticated_runs_iff (result : Except AuthError (Option Principal))
    (reached : HttpContext World)
    (ended : (authenticator context).stage context = .ended result reached false)
    (principal : Principal)
    (success : transformed (middlewareConfig options) result reached = (.ok (some principal), left))
    (found : user (withPrincipal options left (some principal)) = some principal)
    (guards : List (String × Guard World)) (last : Handler (HttpContext World)) :
    BusinessRuns (handle (authenticationHandler own authenticator options ::
        (guards.map (fun guard => guard.2.handler guard.1) ++ [last])) context) ↔
      decideAll principal (guards.map Prod.snd) (withPrincipal options left (some principal)) =
        true := by
  rw [handle_authenticated own authenticator options context left result reached ended _ success]
  refine Iff.trans ?_ (letsThrough_guards_iff principal (guards.map Prod.snd) _ found)
  refine serve_last_iff _ last _ _ (guards_described _ guards) _ ?_ _ _ ?_
  · rw [List.length_append]
    exact Nat.lt_succ_self _
  · rintro ⟨reached, member⟩
    simp at member

/-- A middleware that enters no handler is attached if it fails or the authenticator drops the
pending handlers. -/
theorem attached_of_unentered
    (entered : ∀ own after, (handle (authenticationHandler own authenticator options :: after)
      context).entered = [(after.length, context)])
    (ends : Drops authenticator context ∨ ∀ own after principal,
      (produced own authenticator options after context).1 ≠ .ok principal) :
    Attached authenticator options context := by
  refine ⟨?_, ?_, ?_, ?_⟩
  · intro own next rest entry member isNext
    rw [entered, List.mem_singleton] at member
    rw [member] at isNext
    exact absurd isNext (Nat.succ_ne_self _)
  · intro kept own next rest principal success
    exact (ends.resolve_left kept own _ principal success).elim
  · intro own guards last after served principal _ entry member isNext
    rw [entered, List.mem_singleton] at member
    rw [member] at isNext
    simp [after] at isNext
  · intro own after error _ entry member
    rw [entered, List.mem_singleton] at member
    rw [member]

theorem attached_of_authenticated (result : Except AuthError (Option Principal))
    (reached : HttpContext World)
    (ended : (authenticator context).stage context = .ended result reached false)
    (principal : Principal)
    (success : transformed (middlewareConfig options) result reached = (.ok (some principal), left))
    (found : user (withPrincipal options left (some principal)) = some principal) :
    Attached authenticator options context := by
  have handled (own : String) :=
    handle_authenticated own authenticator options context left result reached ended _ success
  have isProduced (own : String) (after : List (Handler (HttpContext World))) :=
    (produced_ended own authenticator options context result reached false ended after).trans
      success
  refine ⟨?_, ?_, ?_, ?_⟩
  · intro own next rest entry member isNext
    rw [handled] at member
    refine ⟨principal, by rw [isProduced], ?_⟩
    rw [serve_first _ _ next rest _ (by simp) entry member isNext]
    exact found
  · intro _ own next rest _ _
    rw [handled]
    exact ⟨_, serve_enters _ rest.length _ next rest rfl, rfl⟩
  · intro own guards last after served other same entry member isNext
    obtain rfl : principal = other := by
      rw [isProduced] at same
      simpa using same
    rw [authenticated_runs_iff own authenticator options context left result reached ended
      principal success found guards last]
    obtain ⟨next, rest, split⟩ : ∃ next rest, after = next :: rest :=
      List.exists_cons_of_ne_nil (by simp [after])
    have length : rest.length = guards.length := by
      have lengths := congrArg List.length split
      simpa [after] using lengths.symm
    have isServed : served = serve (own :: after.map Handler.name) after.length
        ⟨withPrincipal options left (some principal), after, [(after.length, context)]⟩ :=
      handled own after
    rw [isServed, split] at member
    rw [serve_first _ _ next rest _ (by simp) entry member (isNext.trans length.symm)]
  · intro own after error failure
    rw [isProduced] at failure
    cases failure

theorem quiet_of_attached (result : Except AuthError (Option Principal))
    (reached : HttpContext World)
    (ended : (authenticator context).stage context = .ended result reached false)
    (error : AuthError)
    (failure : transformed (middlewareConfig options) result reached = (.error error, left))
    (attached : Attached authenticator options context) : HandlesQuietly options error left := by
  by_contra loud
  let last : Handler (HttpContext World) := Handler.passing "main.handler"
  obtain ⟨final, entered⟩ := run_loud ["authn.New.func1", "main.handler"] 1
    (handleAuthError error (middlewareConfig options)) ⟨left, [last], [(1, context)]⟩
    ((handleAuthError_quiet_iff options left error).not.mpr loud)
  have member : (0, final) ∈ (handle
      [authenticationHandler "authn.New.func1" authenticator options, last] context).entered := by
    rw [handle_failed _ authenticator options context left result reached false ended error failure]
    exact entered _ (serve_enters _ 0 _ last [] rfl)
  obtain ⟨principal, success, _⟩ := attached.seen _ last [] _ member rfl
  rw [produced_ended _ authenticator options context result reached false ended, failure] at success
  cases success

theorem found_of_attached (result : Except AuthError (Option Principal))
    (reached : HttpContext World)
    (ended : (authenticator context).stage context = .ended result reached false)
    (principal : Option Principal)
    (success : transformed (middlewareConfig options) result reached = (.ok principal, left))
    (attached : Attached authenticator options context) :
    principal.isSome = true ∧ user (withPrincipal options left principal) = principal := by
  let last : Handler (HttpContext World) := Handler.passing "main.handler"
  have entered : (0, withPrincipal options left principal) ∈ (handle
      [authenticationHandler "authn.New.func1" authenticator options, last] context).entered := by
    rw [handle_authenticated _ authenticator options context left result reached ended _ success]
    exact serve_enters _ 0 _ last [] rfl
  obtain ⟨seen, same, found⟩ := attached.seen _ last [] _ entered rfl
  obtain rfl : principal = some seen := by
    rw [produced_ended _ authenticator options context result reached false ended, success] at same
    simpa using same
  exact ⟨rfl, found⟩

/-! ### Authenticators that run the pending handlers -/

section Reached

variable (seen : HttpContext World)
  (rest : HttpContext World → Call (HttpContext World) (Except AuthError (Option Principal)))
  (reached : (authenticator context).stage context = .reached seen rest)

/-- The handlers that are pending when the authenticator runs them. -/
def behind (after : List (Handler (HttpContext World))) : Chain (HttpContext World) :=
  serve (own :: after.map Handler.name) after.length ⟨seen, after, [(after.length, context)]⟩

/-- What is produced after the handlers have left a context. -/
def producedAfter : Except AuthError (Option Principal) :=
  (transformed (middlewareConfig options) ((rest left).alone left).1 ((rest left).alone left).2).1

include reached

omit [CaseMapping] in
theorem returned_reached (after : List (Handler (HttpContext World))) :
    returned own authenticator after context =
      (((rest (behind own context seen after).context).alone
          (behind own context seen after).context).1,
        ⟨((rest (behind own context seen after).context).alone
            (behind own context seen after).context).2, [],
          (behind own context seen after).entered⟩) :=
  call_run_reached _ _ (authenticator context) ⟨context, after, _⟩ (Nat.le_refl _) seen rest reached

omit [CaseMapping] in
theorem produced_reached (after : List (Handler (HttpContext World))) :
    (produced own authenticator options after context).1 =
      producedAfter options (behind own context seen after).context rest := by
  rw [produced, returned_reached own authenticator context seen rest reached]
  rfl

omit [CaseMapping] in
/-- The handlers have all run when the authenticator returns. -/
theorem entered_reached (after : List (Handler (HttpContext World))) :
    (handle (authenticationHandler own authenticator options :: after) context).entered =
      (behind own context seen after).entered := by
  have returns := returned_reached own authenticator context seen rest reached after
  have none := run_pending_nil (own :: after.map Handler.name) after.length
    (finish (middlewareConfig options) (returned own authenticator after context).1
      (returned own authenticator after context).2.context)
    (returned own authenticator after context).2 (by rw [returns])
  rw [handle_returned, serve_of_pending_nil _ _ _ none.2, none.1, returns]

theorem attached_of_reached (principal : Principal) (found : user seen = some principal)
    (always : ∀ left, producedAfter options left rest = .ok (some principal)) :
    Attached authenticator options context := by
  have isProduced (own : String) (after : List (Handler (HttpContext World))) :=
    (produced_reached own authenticator options context seen rest reached after).trans (always _)
  have entered (own : String) :=
    entered_reached own authenticator options context seen rest reached
  refine ⟨?_, ?_, ?_, ?_⟩
  · intro own next others entry member isNext
    rw [entered] at member
    refine ⟨principal, isProduced own _, ?_⟩
    rw [serve_first _ _ next others _ (by simp) entry member isNext]
    exact found
  · intro _ own next others _ _
    rw [entered]
    exact ⟨_, serve_enters _ others.length _ next others rfl, rfl⟩
  · intro own guards last after served other same entry member isNext
    obtain rfl : principal = other := by
      rw [isProduced] at same
      simpa using same
    obtain ⟨next, others, split⟩ : ∃ next others, after = next :: others :=
      List.exists_cons_of_ne_nil (by simp [after])
    have length : others.length = guards.length := by
      have lengths := congrArg List.length split
      simpa [after] using lengths.symm
    have isEntered : served.entered = (behind own context seen after).entered := entered own after
    rw [isEntered, split] at member
    rw [serve_first _ _ next others _ (by simp) entry member (isNext.trans length.symm),
      BusinessRuns, isEntered]
    refine Iff.trans ?_ (letsThrough_guards_iff principal (guards.map Prod.snd) _ found)
    refine serve_last_iff _ last _ _ (guards_described _ guards) _ ?_ _ _ ?_
    · simp [after]
    · rintro ⟨final, member⟩
      simp [after] at member
  · intro own after error failure
    rw [isProduced] at failure
    cases failure

theorem reached_of_attached (attached : Attached authenticator options context) :
    ∃ principal, user seen = some principal ∧
      ∀ left, producedAfter options left rest = .ok (some principal) := by
  have seenBy (left : HttpContext World) : ∃ principal, user seen = some principal ∧
      producedAfter options left rest = .ok (some principal) := by
    let last : Handler (HttpContext World) :=
      ⟨"main.handler", fun _ _ => .act (fun _ => left) fun _ => .done⟩
    have member : (0, seen) ∈ (handle
        [authenticationHandler "authn.New.func1" authenticator options, last] context).entered := by
      rw [entered_reached _ authenticator options context seen rest reached]
      exact serve_enters _ 0 _ last [] rfl
    obtain ⟨principal, success, found⟩ := attached.seen _ last [] _ member rfl
    rw [produced_reached _ authenticator options context seen rest reached] at success
    exact ⟨principal, found, success⟩
  obtain ⟨principal, found, _⟩ := seenBy seen
  refine ⟨principal, found, fun left => ?_⟩
  obtain ⟨other, otherFound, success⟩ := seenBy left
  rwa [Option.some_inj.mp (found.symm.trans otherFound)]

end Reached

end Cases

/-- The handlers behind the middleware see what it lets through exactly when it authenticates under
the key that they read, with a principal that is not nil, or fails quietly. -/
theorem attached_iff [CaseMapping] (authenticator : Authenticator World)
    (options : List (MiddlewareOption World)) (context : HttpContext World) :
    Attached authenticator options context ↔ Agrees authenticator options context := by
  unfold Agrees
  split
  · rename_i result reached dropped ended
    cases dropped with
    | true =>
      refine iff_of_true ?_ (Or.inl rfl)
      exact attached_of_unentered authenticator options context
        (fun own => entered_dropped own authenticator options context result reached ended)
        (Or.inl ⟨result, reached, ended⟩)
    | false =>
      rw [or_iff_right Bool.false_ne_true]
      split
      · rename_i error left failure
        refine ⟨quiet_of_attached authenticator options context left result reached ended error
          failure, fun quiet => ?_⟩
        refine attached_of_unentered authenticator options context (fun own =>
          entered_failed own authenticator options context left result reached false ended error
            failure quiet) (Or.inr fun own after principal success => ?_)
        rw [produced_ended own authenticator options context result reached false ended, failure]
          at success
        cases success
      · rename_i left success
        refine iff_of_false (fun attached => ?_) not_false
        exact Bool.false_ne_true (found_of_attached authenticator options context left result
          reached ended none success attached).1
      · rename_i principal left success
        rw [← user_withPrincipal_iff]
        exact ⟨fun attached => (found_of_attached authenticator options context left result reached
            ended _ success attached).2,
          attached_of_authenticated authenticator options context left result reached ended
            principal success⟩
  · rename_i seen rest reached
    refine ⟨reached_of_attached authenticator options context seen rest reached, ?_⟩
    rintro ⟨principal, found, always⟩
    exact attached_of_reached authenticator options context seen rest reached principal found always

end Authentication

/-! ### Another key -/

/-- An authenticator that knows one caller. -/
def callerAuthenticator : Authenticator Unit := fun _ => .done (.ok (some caller))

/-- The request of the caller, through a guard that asks for no scope. -/
def callerRequest : Chain (HttpContext Unit) :=
  handle [authenticationHandler "authn.New.func1" callerAuthenticator
      [.withContextKey "custom.principal"],
    requireScope "authn.RequireScope.func1" [], Handler.passing "main.handler"] anonymousContext

/-- With another key, a request is authenticated and the guard behind refuses it for lack of a
principal. -/
theorem otherKey_unseen :
    (∀ own after, (produced own callerAuthenticator [.withContextKey "custom.principal"] after
        anonymousContext).1 = .ok (some caller)) ∧
      callerRequest.entered.map (fun entry => (entry.1, (user entry.2).isSome)) =
        [(2, false), (1, false)] ∧
      callerRequest.context.responses =
        [⟨401, [("error", "unauthorized"), ("error_description", "Authentication required")]⟩] ∧
      ¬@Attached Unit asciiCase callerAuthenticator [.withContextKey "custom.principal"]
        anonymousContext := by
  refine ⟨fun _ _ => rfl, by decide, by decide, fun attached => ?_⟩
  obtain ⟨_, found⟩ := @found_of_attached Unit callerAuthenticator
    [.withContextKey "custom.principal"] anonymousContext anonymousContext asciiCase
    (.ok (some caller)) anonymousContext rfl (some caller) rfl attached
  have unseen : @user Unit (withPrincipal [.withContextKey "custom.principal"]
      anonymousContext (some caller)) = none := rfl
  rw [unseen] at found
  cases found

end SharedGo.Authn
