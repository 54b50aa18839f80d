/-
This file proves what the annotations of an endpoint enforce. A row of annotations
is a row of gates: it lets a request through exactly when no policy is named in it,
or there is a principal and all the registered policies of those names allow the
request. Nothing reads the mark of an anonymous endpoint, and nothing reads the
default policy, so the annotations decide a request as they are documented to exactly
when the verdicts of the registered policies make up for both.
-/

import SharedGo.Guards

namespace SharedGo.Authz

open SharedGo Text Gin

section Annotations

variable {World : Type}

/-! ### Rows of annotations -/

/-- An annotation of an endpoint. -/
inductive EndpointMark where
  | allowAnonymous
  | authorize (policyName : String)
  | withPolicy (policyName : String)
  deriving DecidableEq, Repr

/-- The name of the policy that an annotation enforces. -/
def EndpointMark.policyName : EndpointMark → Option String
  | .allowAnonymous => none
  | .authorize policyName => some policyName
  | .withPolicy policyName => some policyName

/-- An annotation in a chain. The name of its function contains that of the annotation, also where
the compiler moves it to another function. -/
structure PlacedMark where
  mark : EndpointMark
  name : String
  looksAnnotated : looksAnnotated name = true

def PlacedMark.handler (placed : PlacedMark) : Handler (HttpContext World) :=
  match placed.mark with
  | .allowAnonymous => Authz.allowAnonymous placed.name
  | .authorize policyName => Authz.authorize placed.name policyName []
  | .withPolicy policyName => Authz.withPolicy placed.name policyName []

/-- The chain of an annotated endpoint. -/
def endpoint (own : String) (service : PolicyEngine World)
    (options : List (MiddlewareOption World)) (placed : List PlacedMark)
    (business : Handler (HttpContext World)) : List (Handler (HttpContext World)) :=
  newAuthorization own service options :: (placed.map PlacedMark.handler ++ [business])

/-- The policies that annotations stand for allow a principal, one after the other. -/
def AllAllowed (service : PolicyEngine World) (policyOf : String → Option Policy)
    (principal : Authn.Principal) (evalCtx : EvaluationContext) : World → List EndpointMark → Prop
  | _, [] => True
  | world, mark :: rest =>
    match mark.policyName with
    | none => AllAllowed service policyOf principal evalCtx world rest
    | some policyName => ∃ policy, policyOf policyName = some policy ∧
        succeeds (service.evaluate policy (some principal) (some evalCtx) world) = true ∧
        AllAllowed service policyOf principal evalCtx
          (service.evaluate policy (some principal) (some evalCtx) world).2.2 rest

section Rows

variable (service : PolicyEngine World) (policyOf : String → Option Policy)
  (principal : Authn.Principal) (evalCtx : EvaluationContext)

theorem allAllowed_of_no_policy (world : World) (marks : List EndpointMark)
    (unnamed : ∀ mark ∈ marks, mark.policyName = none) :
    AllAllowed service policyOf principal evalCtx world marks := by
  induction marks with
  | nil => trivial
  | cons mark rest inductionHypothesis =>
    obtain ⟨first, others⟩ := List.forall_mem_cons.1 unnamed
    simp only [AllAllowed, first]
    exact inductionHypothesis others

end Rows

/-- The policy that an annotation is documented to enforce: without a name, the default policy. -/
def documentedPolicy (service : PolicyEngine World) (options : List (MiddlewareOption World))
    (policyName : String) : Option Policy :=
  if policyName = "" then (middlewareConfig service options).defaultPolicy
  else service.policies.lookup policyName

/-- What the annotations of an endpoint are documented to mean. -/
def DocumentedMeaning (service : PolicyEngine World) (options : List (MiddlewareOption World))
    (context : HttpContext World) (marks : List EndpointMark) : Prop :=
  .allowAnonymous ∈ marks ∨ ∃ principal, user context = some principal ∧
    AllAllowed service (documentedPolicy service options) principal
      (requestContext context noResource) context.world marks

/-- What the annotations of an endpoint enforce: no policy is named, or there is a principal and all
the registered policies of those names allow the request. -/
def EnforcedMeaning (service : PolicyEngine World) (context : HttpContext World)
    (marks : List EndpointMark) : Prop :=
  (∀ mark ∈ marks, mark.policyName = none) ∨ ∃ principal, user context = some principal ∧
    AllAllowed service service.policies.lookup principal (requestContext context noResource)
      context.world marks

def EndpointMark.gate (mark : EndpointMark) : Gate (HttpContext World) :=
  match mark.policyName with
  | none => .passing (·.set contextKeyAllowAnonymous (.flag true))
  | some policyName => authorizeGate policyName (authorizeConfig [])

theorem mark_describes (names : List String) (placed : PlacedMark) :
    Gate.Describes names (placed.mark.gate : Gate (HttpContext World)) placed.handler := by
  obtain ⟨mark, name, looks⟩ := placed
  cases mark with
  | allowAnonymous => exact fun context => passOn_describesAt _ context
  | authorize policyName => exact authorize_describes names name policyName []
  | withPolicy policyName => exact authorize_describes names name policyName []

/-- The evaluation by name allows a request when there is such a policy and it does. -/
theorem evaluatePolicy_succeeds_iff (engine : PolicyEngine World) (policyName : String)
    (principal : Option Authn.Principal) (evalCtx : Option EvaluationContext) (world : World) :
    succeeds (engine.evaluatePolicy policyName principal evalCtx world) = true ↔
      ∃ policy, engine.policies.lookup policyName = some policy ∧
        succeeds (engine.evaluate policy principal evalCtx world) = true := by
  cases found : engine.policies.lookup policyName with
  | none => simp [PolicyEngine.evaluatePolicy, found, succeeds]
  | some policy => simp [PolicyEngine.evaluatePolicy, found, succeeds]

theorem evaluatePolicy_world (engine : PolicyEngine World) (policyName : String) (policy : Policy)
    (principal : Option Authn.Principal) (evalCtx : Option EvaluationContext) (world : World)
    (registered : engine.policies.lookup policyName = some policy) :
    (engine.evaluatePolicy policyName principal evalCtx world).2.2 =
      (engine.evaluate policy principal evalCtx world).2.2 := by
  rw [PolicyEngine.evaluatePolicy, registered]

theorem allowAnonymous_keeps_service (context : HttpContext World) (value : ContextValue World) :
    (context.set contextKeyAllowAnonymous value).keys.lookup contextKeyAuthorizationService =
      context.keys.lookup contextKeyAuthorizationService := by
  have different : contextKeyAuthorizationService ≠ contextKeyAllowAnonymous := by decide
  exact AList.lookup_insert_ne different

theorem allowAnonymous_keeps_user (context : HttpContext World) (value : ContextValue World) :
    user (context.set contextKeyAllowAnonymous value) = user context :=
  user_set_of_ne context _ value (by decide)

/-- The gate of a named policy, in a context that has the service and a principal. -/
theorem authorizeGate_principal (service : PolicyEngine World) (policyName : String)
    (context : HttpContext World) (principal : Authn.Principal)
    (inContext : context.keys.lookup contextKeyAuthorizationService = some (.service service))
    (present : user context = some principal) :
    let outcome := service.evaluatePolicy policyName (some principal)
      (some (requestContext context noResource)) context.world
    ((authorizeGate policyName (authorizeConfig [])).Passes context ↔ succeeds outcome = true) ∧
      (authorizeGate policyName (authorizeConfig [])).effect context =
        { context with world := outcome.2.2 } := by
  have found : (authorizeConfig []).service context = some service := by
    simp only [authorizeConfig, List.foldl_nil, AuthorizeConfig.service, contextService, inContext]
  intro outcome
  constructor
  · simp only [authorizeGate, found, Option.some.injEq, exists_eq_left', Allows, present]
    rfl
  · simp only [authorizeGate, found, policyGate, evaluationGate, present]
    rfl

/-- A row of annotations lets a request through exactly when what it enforces holds. -/
theorem letsThrough_iff (service : PolicyEngine World) (marks : List EndpointMark)
    (context : HttpContext World)
    (inContext : context.keys.lookup contextKeyAuthorizationService = some (.service service)) :
    LetsThrough (marks.map EndpointMark.gate) context ↔ EnforcedMeaning service context marks := by
  unfold EnforcedMeaning
  induction marks generalizing context with
  | nil => simp [LetsThrough]
  | cons mark rest inductionHypothesis =>
    rw [List.map_cons, LetsThrough, List.forall_mem_cons]
    cases named : mark.policyName with
    | none =>
      have further := inductionHypothesis (context.set contextKeyAllowAnonymous (.flag true))
        ((allowAnonymous_keeps_service context _).trans inContext)
      rw [allowAnonymous_keeps_user] at further
      simp only [EndpointMark.gate, named, Gate.passing, AllAllowed, true_and]
      exact further
    | some policyName =>
      simp only [EndpointMark.gate, named, AllAllowed, reduceCtorEq, false_and, false_or]
      cases present : user context with
      | none =>
        refine iff_of_false ?_ (by simp)
        rintro ⟨⟨other, _, allowed⟩, _⟩
        exact not_allows_without_principal other policyName context _ present allowed
      | some principal =>
        obtain ⟨passes, effect⟩ :=
          authorizeGate_principal service policyName context principal inContext present
        have further := inductionHypothesis { context with world := (service.evaluatePolicy
          policyName (some principal) (some (requestContext context noResource))
          context.world).2.2 } inContext
        have userKept (world : World) : user { context with world } = some principal := present
        rw [passes, effect, further, evaluatePolicy_succeeds_iff, userKept]
        simp only [Option.some.injEq, exists_eq_left']
        rw [or_iff_right_of_imp (allAllowed_of_no_policy service _ principal _ _ rest),
          ← exists_and_right]
        refine exists_congr fun policy => ?_
        rw [and_assoc]
        refine and_congr_right fun registered => ?_
        rw [evaluatePolicy_world service policyName policy _ _ _ registered]
        rfl

/-- On a chain that looks annotated the middleware only leaves the service in the context. -/
theorem newAuthorization_describes (names : List String) (own : String)
    (service : PolicyEngine World) (options : List (MiddlewareOption World))
    (annotated : hasExplicitAuth names = true) :
    Gate.Describes names (.passing (·.set contextKeyAuthorizationService (.service service)))
      (newAuthorization own service options) := by
  intro context
  refine ⟨fun _ next pending entered => ?_, fun blocked => absurd trivial blocked⟩
  cases configured : (middlewareConfig service options).fallbackPolicy with
  | none => simp [newAuthorization, configured, Program.run, Gate.passing]
  | some policy => simp [newAuthorization, configured, annotated, Program.run, Gate.passing]

theorem endpoint_hasExplicitAuth (own : String) (service : PolicyEngine World)
    (options : List (MiddlewareOption World)) (placed : List PlacedMark)
    (annotated : placed ≠ []) (business : Handler (HttpContext World)) :
    hasExplicitAuth ((endpoint own service options placed business).map Handler.name) = true := by
  obtain ⟨first, rest, rfl⟩ := List.exists_cons_of_ne_nil annotated
  refine List.any_eq_true.2 ⟨first.name, ?_, first.looksAnnotated⟩
  have name : (first.handler : Handler (HttpContext World)).name = first.name := by
    obtain ⟨mark, name, looks⟩ := first
    cases mark <;> rfl
  simp [endpoint, name]

/-- The business handler of an endpoint runs exactly when what its annotations enforce holds. -/
theorem endpoint_runs_iff (own : String) (service : PolicyEngine World)
    (options : List (MiddlewareOption World)) (placed : List PlacedMark)
    (annotated : placed ≠ []) (business : Handler (HttpContext World))
    (context : HttpContext World) :
    BusinessRuns (handle (endpoint own service options placed business) context) ↔
      EnforcedMeaning service context (placed.map PlacedMark.mark) := by
  let names := (endpoint own service options placed business).map Handler.name
  have first := newAuthorization_describes names own service options
    (endpoint_hasExplicitAuth own service options placed annotated business)
  have others : List.Forall₂ (Gate.Describes names)
      ((placed.map PlacedMark.mark).map EndpointMark.gate)
      (placed.map (@PlacedMark.handler World)) := by
    rw [List.map_map, List.forall₂_map_left_iff, List.forall₂_map_right_iff]
    exact List.forall₂_same.2 fun placed _ => mark_describes names placed
  refine (handle_last_iff business _ _ (List.Forall₂.cons first others) context).trans ?_
  rw [LetsThrough, Gate.passing, true_and, letsThrough_iff service _ _ (AList.lookup_insert _),
    EnforcedMeaning, user_set_service]
  rfl

/-- Unless an annotation before it refuses the request, the first annotation without a policy name
and those behind it are decided alike by the registered policies and by the documented ones. -/
def DefaultHonoured (service : PolicyEngine World) (options : List (MiddlewareOption World))
    (principal : Authn.Principal) (evalCtx : EvaluationContext) :
    World → List EndpointMark → Prop
  | _, [] => True
  | world, mark :: rest =>
    match mark.policyName with
    | none => DefaultHonoured service options principal evalCtx world rest
    | some policyName =>
      if policyName = "" then
        (AllAllowed service service.policies.lookup principal evalCtx world (mark :: rest) ↔
          AllAllowed service (documentedPolicy service options) principal evalCtx world
            (mark :: rest))
      else
        ∀ policy, service.policies.lookup policyName = some policy →
          succeeds (service.evaluate policy (some principal) (some evalCtx) world) = true →
            DefaultHonoured service options principal evalCtx
              (service.evaluate policy (some principal) (some evalCtx) world).2.2 rest

theorem allAllowed_documented_iff (service : PolicyEngine World)
    (options : List (MiddlewareOption World)) (principal : Authn.Principal)
    (evalCtx : EvaluationContext) (world : World) (marks : List EndpointMark) :
    (AllAllowed service service.policies.lookup principal evalCtx world marks ↔
        AllAllowed service (documentedPolicy service options) principal evalCtx world marks) ↔
      DefaultHonoured service options principal evalCtx world marks := by
  induction marks generalizing world with
  | nil => simp [AllAllowed, DefaultHonoured]
  | cons mark rest inductionHypothesis =>
    cases named : mark.policyName with
    | none =>
      simp only [AllAllowed, DefaultHonoured, named]
      exact inductionHypothesis world
    | some policyName =>
      by_cases nameless : policyName = ""
      · simp only [DefaultHonoured, named, if_pos nameless]
      · have documented : documentedPolicy service options policyName =
            service.policies.lookup policyName := if_neg nameless
        simp only [AllAllowed, DefaultHonoured, named, if_neg nameless, documented]
        cases service.policies.lookup policyName with
        | none => simp
        | some policy =>
          simp only [Option.some.injEq, exists_eq_left', forall_eq']
          rw [and_congr_right_iff]
          exact imp_congr_right fun _ => inductionHypothesis _

/-- The annotations of an endpoint decide a request as they are documented to. Next to an annotation
that marks it as anonymous the others name no policy, or there is a principal and the policies that
they name allow it; without one there is no principal, or the default policy makes no difference. -/
def MeansDocumented (service : PolicyEngine World) (options : List (MiddlewareOption World))
    (context : HttpContext World) (marks : List EndpointMark) : Prop :=
  if .allowAnonymous ∈ marks then
    (∀ mark ∈ marks, mark.policyName = none) ∨ ∃ principal, user context = some principal ∧
      AllAllowed service service.policies.lookup principal (requestContext context noResource)
        context.world marks
  else
    ∀ principal, user context = some principal →
      DefaultHonoured service options principal (requestContext context noResource)
        context.world marks

/-- The business handler of an endpoint runs exactly when the documented meaning of its annotations
holds, for a request, exactly when the annotations decide the request as they are documented to. -/
theorem annotations_mean_iff (own : String) (service : PolicyEngine World)
    (options : List (MiddlewareOption World)) (placed : List PlacedMark)
    (annotated : placed ≠ []) (business : Handler (HttpContext World))
    (context : HttpContext World) :
    (BusinessRuns (handle (endpoint own service options placed business) context) ↔
        DocumentedMeaning service options context (placed.map PlacedMark.mark)) ↔
      MeansDocumented service options context (placed.map PlacedMark.mark) := by
  rw [endpoint_runs_iff own service options placed annotated business context]
  have nonempty : placed.map PlacedMark.mark ≠ [] := by
    simpa using annotated
  generalize placed.map PlacedMark.mark = marks at nonempty ⊢
  unfold EnforcedMeaning DocumentedMeaning MeansDocumented
  by_cases anonymous : .allowAnonymous ∈ marks
  · simp [anonymous]
  · have someNamed : ¬∀ mark ∈ marks, mark.policyName = none := by
      intro unnamed
      obtain ⟨first, rest, rfl⟩ := List.exists_cons_of_ne_nil nonempty
      cases first with
      | allowAnonymous => exact anonymous List.mem_cons_self
      | _ => cases unnamed _ List.mem_cons_self
    rw [or_iff_right someNamed, or_iff_right anonymous, if_neg anonymous]
    cases user context with
    | none => simp
    | some principal =>
      simp only [Option.some.injEq, exists_eq_left', forall_eq']
      exact allAllowed_documented_iff service options principal _ _ marks

end Annotations

/-! ### Some endpoints -/

/-- An annotation under the name of its function. -/
def placedAuthorize (policyName : String) : PlacedMark :=
  ⟨.authorize policyName, "authz.Authorize.func1", by decide +kernel⟩

def placedAllowAnonymous : PlacedMark :=
  ⟨.allowAnonymous, "authz.AllowAnonymous.func1", by decide +kernel⟩

/-- A service whose default policy has no requirements. -/
def openService : PolicyEngine Unit := ⟨∅, ∅, some ⟨"", []⟩, none⟩

/-- One annotation with a policy name. -/
theorem editEndpoint_means :
    BusinessRuns (handle (endpoint "authz.New.func1" documentService []
        [placedAuthorize "EditDocumentPolicy"] (Handler.passing "main.edit")) editRequest) ↔
      DocumentedMeaning documentService [] editRequest [.authorize "EditDocumentPolicy"] :=
  (annotations_mean_iff "authz.New.func1" documentService []
    [placedAuthorize "EditDocumentPolicy"] (by simp) (Handler.passing "main.edit") editRequest).2
    fun _ _ => by
      have named : "EditDocumentPolicy" ≠ "" := by decide
      simp [DefaultHonoured, placedAuthorize, EndpointMark.policyName, named]

/-- An anonymous request does not reach an endpoint that is marked as anonymous and names a policy,
and a request with a principal does not reach one that names none, though the default policy allows
it. -/
theorem exempt_and_default_ignored :
    (¬BusinessRuns (handle (endpoint "authz.New.func1" documentService []
          [placedAllowAnonymous, placedAuthorize "EditDocumentPolicy"]
          (Handler.passing "main.edit")) anonymousContext) ∧
        DocumentedMeaning documentService [] (anonymousContext : HttpContext Unit)
          [.allowAnonymous, .authorize "EditDocumentPolicy"]) ∧
      ¬BusinessRuns (handle (endpoint "authz.New.func1" openService [] [placedAuthorize ""]
          (Handler.passing "main.edit")) editRequest) ∧
        DocumentedMeaning openService [] editRequest [.authorize ""] := by
  refine ⟨⟨?_, .inl List.mem_cons_self⟩, ?_, .inr ⟨caller, rfl, ⟨"", []⟩, rfl, rfl, trivial⟩⟩
  · rw [endpoint_runs_iff _ _ _ _ (by simp)]
    rintro (unnamed | ⟨principal, present, _⟩)
    · cases unnamed (.authorize "EditDocumentPolicy") (by simp [placedAuthorize])
    · cases present
  · rw [endpoint_runs_iff _ _ _ _ (by simp)]
    rintro (unnamed | ⟨principal, _, policy, registered, _⟩)
    · cases unnamed (.authorize "") (by simp [placedAuthorize])
    · cases registered

end SharedGo.Authz
