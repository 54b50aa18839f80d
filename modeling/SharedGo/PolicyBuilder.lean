/-
This file models how policies and engines are made, and proves what a policy that
was built by a chain of calls means. The calls append requirements; an engine finds
the handler of a requirement under the name that the requirement gives; the handler
asks the principal, or the permissions. Taken together, a built policy allows a
request exactly when what each call asks for holds.

A custom requirement names its handler itself. Without a name, or under the name of
the custom handler, its own function decides it; under any other name the function
is not called.
-/

import SharedGo.ParcHandler

namespace SharedGo.Authz

open SharedGo Text

/-! ### The builder -/

structure PolicyBuilder where
  policy : Policy

def newPolicy (name : String) : PolicyBuilder := ⟨⟨name, []⟩⟩

/-- Takes the first name, if any. -/
def newPolicyBuilder (names : List String) : PolicyBuilder := newPolicy (names.headD "")

namespace PolicyBuilder

variable (builder : PolicyBuilder)

def addRequirement (requirement : Requirement) : PolicyBuilder :=
  ⟨{ builder.policy with requirements := builder.policy.requirements ++ [requirement] }⟩

def requireAuthenticatedUser : PolicyBuilder :=
  builder.addRequirement (.custom "" (some fun request => request.principal.id ≠ ""))

def requirePARC (action resourceType : String) : PolicyBuilder :=
  builder.addRequirement (.parc ⟨action, resourceType⟩)

def requireScope (scopes : List String) : PolicyBuilder :=
  builder.addRequirement (.scope scopes true)

def requireAnyScope (scopes : List String) : PolicyBuilder :=
  builder.addRequirement (.scope scopes false)

def requireRole (roles : List String) : PolicyBuilder :=
  builder.addRequirement (.role roles true)

def requireUser : PolicyBuilder := builder.addRequirement .userPresent

def requireM2M : PolicyBuilder := builder.addRequirement .m2m

def build : Policy := builder.policy

end PolicyBuilder

/-- The calls of a chain. -/
inductive BuilderCall where
  | requireScope (scopes : List String)
  | requireAnyScope (scopes : List String)
  | requireRole (roles : List String)
  | requireUser
  | requireM2M
  | requireAuthenticatedUser
  | requirePARC (action resourceType : String)
  deriving DecidableEq, Repr

def BuilderCall.apply (builder : PolicyBuilder) : BuilderCall → PolicyBuilder
  | .requireScope scopes => builder.requireScope scopes
  | .requireAnyScope scopes => builder.requireAnyScope scopes
  | .requireRole roles => builder.requireRole roles
  | .requireUser => builder.requireUser
  | .requireM2M => builder.requireM2M
  | .requireAuthenticatedUser => builder.requireAuthenticatedUser
  | .requirePARC action resourceType => builder.requirePARC action resourceType

/-- The policy a chain of calls builds. -/
def buildChain (name : String) (calls : List BuilderCall) : Policy :=
  (calls.foldl BuilderCall.apply (newPolicy name)).build

/-- The requirement a call appends. -/
def BuilderCall.requirement : BuilderCall → Requirement
  | .requireScope scopes => .scope scopes true
  | .requireAnyScope scopes => .scope scopes false
  | .requireRole roles => .role roles true
  | .requireUser => .userPresent
  | .requireM2M => .m2m
  | .requireAuthenticatedUser => .custom "" (some fun request => request.principal.id ≠ "")
  | .requirePARC action resourceType => .parc ⟨action, resourceType⟩

theorem apply_eq (builder : PolicyBuilder) (call : BuilderCall) :
    call.apply builder = builder.addRequirement call.requirement := by
  cases call <;> rfl

theorem foldl_apply (calls : List BuilderCall) (builder : PolicyBuilder) :
    (calls.foldl BuilderCall.apply builder).policy.requirements =
      builder.policy.requirements ++ calls.map BuilderCall.requirement := by
  induction calls generalizing builder with
  | nil => exact (List.append_nil _).symm
  | cons call rest inductionHypothesis =>
    rw [List.foldl_cons, inductionHypothesis, apply_eq]
    exact List.append_assoc _ _ _

theorem buildChain_requirements (name : String) (calls : List BuilderCall) :
    (buildChain name calls).requirements = calls.map BuilderCall.requirement :=
  foldl_apply calls (newPolicy name)

/-! ### Engines -/

/-- What an authorization service is made from. A policy is under its own name. -/
structure AuthorizationOptions where
  policies : GoMap String Policy
  defaultPolicy : Option Policy
  fallbackPolicy : Option Policy
  named : ∀ name policy, policies.lookup name = some policy → policy.name = name

def newAuthorizationOptions : AuthorizationOptions where
  policies := ∅
  defaultPolicy := none
  fallbackPolicy := none
  named name policy found := by
    rw [AList.lookup_empty] at found
    cases found

def AuthorizationOptions.addPolicy (options : AuthorizationOptions) (name : String)
    (policy : Policy) : AuthorizationOptions where
  policies := options.policies.insert name { policy with name }
  defaultPolicy := options.defaultPolicy
  fallbackPolicy := options.fallbackPolicy
  named other found lookup := by
    rcases GoMap.lookup_insert_cases _ _ _ _ _ lookup with ⟨rfl, rfl⟩ | earlier
    · rfl
    · exact options.named other found earlier

section Engines

variable {World : Type}

def PolicyEngine.registerPolicy (engine : PolicyEngine World) (policy : Policy) :
    PolicyEngine World :=
  { engine with policies := engine.policies.insert policy.name policy }

/-- Registers policies, in the order in which they are visited. -/
def PolicyEngine.registerPolicies (engine : PolicyEngine World)
    (order : List (GoMap.Entry String Policy)) : PolicyEngine World :=
  order.foldl (fun engine entry => PolicyEngine.registerPolicy engine entry.2) engine

/-- A handler that a service is given. -/
inductive GivenHandler (World : Type) where
  | parc (handler : PARCHandler World)
  | other (handler : RequirementHandler World)

/-- The permission handler after a handler is given. -/
def GivenHandler.install (current : Option (PARCHandler World)) :
    GivenHandler World → Option (PARCHandler World)
  | .parc handler => some handler
  | .other _ => current

/-- The permission handler that a service installs: the last it is given. -/
def installed (given : List (GivenHandler World)) : Option (PARCHandler World) :=
  given.foldl GivenHandler.install none

variable [CaseMapping] [BundleCodec]

/-- Registers the permission handlers among those it is given, and ignores the others. -/
def installHandlers (given : List (GivenHandler World))
    (handlers : GoMap String (RequirementHandler World)) :
    GoMap String (RequirementHandler World) :=
  given.foldl (fun handlers handler =>
    match handler with
    | .parc handler => handlers.insert "PARCRequirement" handler.handle
    | .other _ => handlers) handlers

/-- A service with the options' policies, which are visited in some order. -/
def newAuthorizationService (options : Option AuthorizationOptions)
    (order : List (GoMap.Entry String Policy)) (given : List (GivenHandler World)) :
    PolicyEngine World :=
  let engine : PolicyEngine World := newPolicyEngine none
  let configured :=
    match options with
    | none => engine
    | some options =>
      { engine.registerPolicies order with
        defaultPolicy := options.defaultPolicy
        fallbackPolicy := options.fallbackPolicy }
  { configured with handlers := installHandlers given configured.handlers }

/-- The engines that are made by the package's constructors and get policies registered, with the
permission handler they have. -/
inductive Constructed : Option (PARCHandler World) → PolicyEngine World → Prop
  | policyEngine (parcHandler : Option (PARCHandler World)) :
      Constructed parcHandler (newPolicyEngine (parcHandler.map PARCHandler.handle))
  | authorizationService (options : Option AuthorizationOptions)
      (order : List (GoMap.Entry String Policy)) (given : List (GivenHandler World)) :
      Constructed (installed given) (newAuthorizationService options order given)
  | registered (parcHandler : Option (PARCHandler World)) (engine : PolicyEngine World)
      (policy : Policy) (constructed : Constructed parcHandler engine) :
      Constructed parcHandler (engine.registerPolicy policy)

/-- The handler under a name. -/
def standardHandler (parcHandler : Option (PARCHandler World)) (name : String) :
    Option (RequirementHandler World) :=
  if name = "PARCRequirement" then parcHandler.map PARCHandler.handle
  else if name = "CustomRequirement" then some customRequirementHandler
  else if name = "M2MRequirement" then some m2mHandler
  else if name = "UserPresentRequirement" then some userPresentHandler
  else if name = "RoleRequirement" then some roleRequirementHandler
  else if name = "ScopeRequirement" then some scopeRequirementHandler
  else none

theorem lookup_newPolicyEngine (parcHandler : Option (PARCHandler World)) (name : String) :
    (newPolicyEngine (parcHandler.map PARCHandler.handle)).handlers.lookup name =
      standardHandler parcHandler name := by
  unfold standardHandler
  cases parcHandler with
  | none =>
    by_cases permission : name = "PARCRequirement"
    · subst permission
      rfl
    · simp only [newPolicyEngine, Option.map_none, GoMap.lookup_insert_eq, AList.lookup_empty,
        if_neg permission]
  | some handler =>
    simp only [newPolicyEngine, Option.map_some, GoMap.lookup_insert_eq, AList.lookup_empty]

omit [CaseMapping] [BundleCodec] in
theorem registerPolicies_eq (engine : PolicyEngine World)
    (order : List (GoMap.Entry String Policy)) :
    engine.registerPolicies order =
      { engine with policies := (engine.registerPolicies order).policies } := by
  unfold PolicyEngine.registerPolicies
  induction order generalizing engine with
  | nil => rfl
  | cons entry rest inductionHypothesis => exact inductionHypothesis _

/-- Installing handlers changes the handler of permissions only. -/
theorem lookup_installHandlers (given : List (GivenHandler World))
    (current : Option (PARCHandler World)) (handlers : GoMap String (RequirementHandler World))
    (standard : ∀ name, handlers.lookup name = standardHandler current name) (name : String) :
    (installHandlers given handlers).lookup name =
      standardHandler (given.foldl GivenHandler.install current) name := by
  induction given generalizing current handlers with
  | nil => exact standard name
  | cons first rest inductionHypothesis =>
    cases first with
    | parc handler =>
      refine inductionHypothesis (some handler) _ fun other => ?_
      rw [GoMap.lookup_insert_eq, standard]
      by_cases permission : other = "PARCRequirement"
      · rw [if_pos permission, standardHandler, if_pos permission]
        rfl
      · rw [if_neg permission, standardHandler, standardHandler, if_neg permission,
          if_neg permission]
    | other handler => exact inductionHypothesis current handlers standard

theorem lookup_constructed (parcHandler : Option (PARCHandler World)) (engine : PolicyEngine World)
    (constructed : Constructed parcHandler engine) (name : String) :
    engine.handlers.lookup name = standardHandler parcHandler name := by
  induction constructed with
  | policyEngine parcHandler => exact lookup_newPolicyEngine parcHandler name
  | authorizationService options order given =>
    refine lookup_installHandlers given none _ (fun other => ?_) name
    rw [← lookup_newPolicyEngine]
    cases options with
    | none => rfl
    | some options =>
      rw [registerPolicies_eq]
      rfl
  | registered parcHandler engine policy constructed inductionHypothesis =>
    exact inductionHypothesis

/-! ### What a built policy means -/

/-- What a call asks for. A permission is asked for in the world as the handler finds it. -/
def BuilderCall.Holds (parcHandler : Option (PARCHandler World)) (principal : Authn.Principal)
    (evalCtx : EvaluationContext) (world : World) : BuilderCall → Prop
  | .requireScope scopes => ∀ scope ∈ scopes, scope ∈ principal.scopes
  | .requireAnyScope scopes => scopes = [] ∨ ∃ scope ∈ scopes, scope ∈ principal.scopes
  | .requireRole roles => ∀ role ∈ roles, ∃ held ∈ principal.roles,
      CaseMapping.toLower held = CaseMapping.toLower role
  | .requireUser => principal.method = .authCodePKCE ∨ principal.method = .deviceFlow
  | .requireM2M => principal.method = .clientCredentials ∨ principal.method = .apiKey
  | .requireAuthenticatedUser => principal.subject ≠ ""
  | .requirePARC action resourceType => ∃ handler, parcHandler = some handler ∧
      (handler.handle principal (.parc ⟨action, resourceType⟩) evalCtx world).1 = .ok true

/-- The world after a call was asked for; only the permission handler changes it. -/
def BuilderCall.worldAfter (parcHandler : Option (PARCHandler World)) (principal : Authn.Principal)
    (evalCtx : EvaluationContext) (world : World) : BuilderCall → World
  | .requirePARC action resourceType =>
    match parcHandler with
    | none => world
    | some handler => (handler.handle principal (.parc ⟨action, resourceType⟩) evalCtx world).2
  | _ => world

/-- The calls of a chain hold, one after the other. -/
def AllHold (parcHandler : Option (PARCHandler World)) (principal : Authn.Principal)
    (evalCtx : EvaluationContext) : World → List BuilderCall → Prop
  | _, [] => True
  | world, call :: rest =>
    call.Holds parcHandler principal evalCtx world ∧
      AllHold parcHandler principal evalCtx
        (call.worldAfter parcHandler principal evalCtx world) rest

/-- The handler that an engine has for the requirement of a call. -/
def BuilderCall.handler (parcHandler : Option (PARCHandler World)) :
    BuilderCall → Option (RequirementHandler World)
  | .requireScope _ | .requireAnyScope _ => some scopeRequirementHandler
  | .requireRole _ => some roleRequirementHandler
  | .requireUser => some userPresentHandler
  | .requireM2M => some m2mHandler
  | .requireAuthenticatedUser => some customRequirementHandler
  | .requirePARC _ _ => parcHandler.map PARCHandler.handle

theorem standardHandler_requirement (parcHandler : Option (PARCHandler World))
    (call : BuilderCall) :
    standardHandler parcHandler call.requirement.requirementType = call.handler parcHandler := by
  cases call <;> rfl

omit [CaseMapping] [BundleCodec] in
/-- A handler that decides and leaves the world as it is lets pass what it decides for. -/
theorem decided_passes_iff (handler : RequirementHandler World) (principal : Authn.Principal)
    (requirement : Requirement) (evalCtx : EvaluationContext) (world next : World)
    (decision : Bool) (holds : Prop)
    (decides : handler principal requirement evalCtx world = (.ok decision, world))
    (means : decision = true ↔ holds) :
    (∃ found, some handler = some found ∧
        found principal requirement evalCtx world = (.ok true, next)) ↔
      holds ∧ world = next := by
  rw [← means]
  constructor
  · rintro ⟨found, same, passes⟩
    rw [← Option.some_inj.mp same, decides] at passes
    obtain ⟨passed, left⟩ := Prod.mk.inj passes
    exact ⟨Except.ok.inj passed, left⟩
  · rintro ⟨passed, rfl⟩
    exact ⟨handler, rfl, passed ▸ decides⟩

/-- The handler of a call lets the request pass exactly when what the call asks for holds. -/
theorem handler_passes_iff (parcHandler : Option (PARCHandler World)) (principal : Authn.Principal)
    (evalCtx : EvaluationContext) (world next : World) (call : BuilderCall) :
    (∃ handler, call.handler parcHandler = some handler ∧
        handler principal call.requirement evalCtx world = (.ok true, next)) ↔
      call.Holds parcHandler principal evalCtx world ∧
        call.worldAfter parcHandler principal evalCtx world = next := by
  cases call with
  | requireScope scopes =>
    refine decided_passes_iff scopeRequirementHandler principal _ evalCtx world next _ _ rfl ?_
    simp [BuilderCall.Holds, Authn.Principal.hasAllScopes, Authn.Principal.hasScope]
  | requireAnyScope scopes =>
    refine decided_passes_iff scopeRequirementHandler principal _ evalCtx world next _ _ rfl ?_
    simp [BuilderCall.Holds, Authn.Principal.hasAnyScope, Authn.Principal.hasScope]
  | requireRole roles =>
    refine decided_passes_iff roleRequirementHandler principal _ evalCtx world next _ _ rfl ?_
    simp [BuilderCall.Holds, Authn.Principal.hasRole]
  | requireUser =>
    refine decided_passes_iff userPresentHandler principal _ evalCtx world next _ _ rfl ?_
    simp [BuilderCall.Holds, Authn.Principal.isUserPresent]
  | requireM2M =>
    refine decided_passes_iff m2mHandler principal _ evalCtx world next _ _ rfl ?_
    simp [BuilderCall.Holds]
  | requireAuthenticatedUser =>
    exact decided_passes_iff customRequirementHandler principal _ evalCtx world next _ _ rfl
      decide_eq_true_iff
  | requirePARC action resourceType =>
    cases parcHandler with
    | none => simp [BuilderCall.handler, BuilderCall.Holds]
    | some handler =>
      simp [BuilderCall.handler, BuilderCall.requirement, BuilderCall.Holds,
        BuilderCall.worldAfter, Prod.ext_iff]

theorem evaluateRequirements_chain (parcHandler : Option (PARCHandler World))
    (engine : PolicyEngine World) (constructed : Constructed parcHandler engine)
    (principal : Authn.Principal) (evalCtx : EvaluationContext) (calls : List BuilderCall)
    (world : World) :
    (engine.evaluateRequirements principal evalCtx (calls.map BuilderCall.requirement)
        world).1.allowed = true ↔ AllHold parcHandler principal evalCtx world calls := by
  induction calls generalizing world with
  | nil => simp [PolicyEngine.evaluateRequirements, AllHold]
  | cons call rest inductionHypothesis =>
    rw [List.map_cons, allowed_cons_iff, AllHold, ← inductionHypothesis,
      lookup_constructed parcHandler engine constructed, standardHandler_requirement]
    constructor
    · rintro ⟨handler, next, found, handled, others⟩
      obtain ⟨holds, rfl⟩ := (handler_passes_iff parcHandler principal evalCtx world next call).1
        ⟨handler, found, handled⟩
      exact ⟨holds, others⟩
    · rintro ⟨holds, others⟩
      obtain ⟨handler, found, handled⟩ :=
        (handler_passes_iff parcHandler principal evalCtx world _ call).2 ⟨holds, rfl⟩
      exact ⟨handler, _, found, handled, others⟩

/-- Asking for some of the calls does not change what the permission handler says of another. -/
def SteadyVerdict (parcHandler : Option (PARCHandler World)) (principal : Authn.Principal)
    (evalCtx : EvaluationContext) (world : World) (calls : List BuilderCall) : Prop :=
  ∀ asked ⊆ calls, ∀ action resourceType, .requirePARC action resourceType ∈ calls →
    ((BuilderCall.requirePARC action resourceType).Holds parcHandler principal evalCtx
        (asked.foldl (BuilderCall.worldAfter parcHandler principal evalCtx) world) ↔
      (BuilderCall.requirePARC action resourceType).Holds parcHandler principal evalCtx world)

theorem SteadyVerdict.holds_iff {parcHandler : Option (PARCHandler World)}
    {principal : Authn.Principal} {evalCtx : EvaluationContext} {world : World}
    {calls : List BuilderCall} (steady : SteadyVerdict parcHandler principal evalCtx world calls)
    (asked : List BuilderCall) (among : asked ⊆ calls) (call : BuilderCall)
    (member : call ∈ calls) :
    call.Holds parcHandler principal evalCtx
        (asked.foldl (BuilderCall.worldAfter parcHandler principal evalCtx) world) ↔
      call.Holds parcHandler principal evalCtx world := by
  cases call with
  | requirePARC action resourceType => exact steady asked among action resourceType member
  | _ => exact Iff.rfl

/-- With a steady verdict, the calls of a chain hold in any order or in none. -/
theorem SteadyVerdict.allHold_iff {parcHandler : Option (PARCHandler World)}
    {principal : Authn.Principal} {evalCtx : EvaluationContext} {world : World}
    {calls : List BuilderCall} (steady : SteadyVerdict parcHandler principal evalCtx world calls)
    (asked rest : List BuilderCall) (askedAmong : asked ⊆ calls) (restAmong : rest ⊆ calls) :
    AllHold parcHandler principal evalCtx
        (asked.foldl (BuilderCall.worldAfter parcHandler principal evalCtx) world) rest ↔
      ∀ call ∈ rest, call.Holds parcHandler principal evalCtx world := by
  induction rest generalizing asked with
  | nil => simp [AllHold]
  | cons call rest inductionHypothesis =>
    obtain ⟨member, restAmong⟩ := List.cons_subset.1 restAmong
    have further := inductionHypothesis (asked ++ [call])
      (List.append_subset.2 ⟨askedAmong, List.cons_subset.2 ⟨member, List.nil_subset _⟩⟩) restAmong
    rw [List.foldl_concat] at further
    rw [AllHold, steady.holds_iff asked askedAmong call member, further, List.forall_mem_cons]

/-- A policy built by a chain of calls allows a request exactly when the calls hold. An error is
never an allowance, and with a steady verdict the order of the calls does not matter. -/
theorem build_allowed_iff (parcHandler : Option (PARCHandler World)) (engine : PolicyEngine World)
    (constructed : Constructed parcHandler engine) (name : String) (calls : List BuilderCall)
    (principal : Authn.Principal) (evalCtx : Option EvaluationContext) (world : World) :
    ((engine.evaluate (buildChain name calls) (some principal) evalCtx world).1.allowed = true ↔
        AllHold parcHandler principal (evalCtx.getD .zero) world calls) ∧
      ((engine.evaluate (buildChain name calls) (some principal) evalCtx world).2.1 ≠ none →
        (engine.evaluate (buildChain name calls) (some principal) evalCtx world).1.allowed =
          false) ∧
      (SteadyVerdict parcHandler principal (evalCtx.getD .zero) world calls →
        ∀ permuted, calls.Perm permuted →
          (engine.evaluate (buildChain name permuted) (some principal) evalCtx world).1.allowed =
            (engine.evaluate (buildChain name calls) (some principal) evalCtx
              world).1.allowed) := by
  have meaning (chain : List BuilderCall) :
      (engine.evaluate (buildChain name chain) (some principal) evalCtx world).1.allowed = true ↔
        AllHold parcHandler principal (evalCtx.getD .zero) world chain := by
    rw [PolicyEngine.evaluate, buildChain_requirements]
    exact evaluateRequirements_chain parcHandler engine constructed principal _ chain world
  refine ⟨meaning calls, evaluate_error engine _ _ evalCtx world, ?_⟩
  intro steady permuted permutation
  have inOrder := steady.allHold_iff [] calls (List.nil_subset _) (List.Subset.refl _)
  have reordered := steady.allHold_iff [] permuted (List.nil_subset _) permutation.symm.subset
  rw [Bool.eq_iff_iff, meaning, meaning]
  exact reordered.trans ((forall_congr' fun call => by rw [permutation.mem_iff]).trans inOrder.symm)

/-! ### Custom requirements -/

/-- A custom requirement is decided by its own function, wherever it stands in a policy. -/
def DecidedByFunc (engine : PolicyEngine World) (world : World) (name : String) : Prop :=
  ∀ (func : Request → Bool) (policyName : String) (before after : List Requirement)
    (principal : Authn.Principal) (evalCtx : Option EvaluationContext),
    let requirement := Requirement.custom name (some func)
    let request := customRequest principal (evalCtx.getD .zero)
    let evaluated := fun requirements =>
      engine.evaluate ⟨policyName, requirements⟩ (some principal) evalCtx world
    ((evaluated [requirement]).1.allowed = true ↔ func request = true) ∧
      (func request = false →
        (evaluated (before ++ requirement :: after)).1.allowed = false) ∧
      (func request = true →
        evaluated (before ++ requirement :: after) = evaluated (before ++ after))

omit [BundleCodec] [CaseMapping] in
theorem evaluateRequirements_custom (engine : PolicyEngine World) (name : String)
    (func : Request → Bool) (principal : Authn.Principal) (evalCtx : EvaluationContext)
    (rest : List Requirement) (world : World)
    (found : engine.handlers.lookup (Requirement.custom name (some func)).requirementType =
      some customRequirementHandler) :
    engine.evaluateRequirements principal evalCtx (.custom name (some func) :: rest) world =
      if func (customRequest principal evalCtx) then
        engine.evaluateRequirements principal evalCtx rest world
      else (⟨false, "requirement '" ++ (Requirement.custom name (some func)).requirementType ++
        "' failed"⟩, none, world) := by
  rw [PolicyEngine.evaluateRequirements, found]
  cases decided : func (customRequest principal evalCtx) with
  | false => simp only [customRequirementHandler, decided, Bool.false_eq_true, if_false]
  | true => simp only [customRequirementHandler, decided, if_true]

omit [BundleCodec] [CaseMapping] in
theorem decidedByFunc_of_lookup (engine : PolicyEngine World) (world : World) (name : String)
    (found : engine.handlers.lookup (Requirement.custom name none).requirementType =
      some customRequirementHandler) : DecidedByFunc engine world name := by
  intro func policyName before after principal evalCtx requirement request evaluated
  have step (rest : List Requirement) (current : World) :=
    evaluateRequirements_custom engine name func principal (evalCtx.getD .zero) rest current found
  refine ⟨?_, fun refused => ?_, fun accepted => ?_⟩
  · simp only [evaluated, PolicyEngine.evaluate, requirement, step]
    cases func request with
    | false => simp
    | true => simp [PolicyEngine.evaluateRequirements]
  · simp only [evaluated, PolicyEngine.evaluate, requirement, evaluateRequirements_append, step]
    simp only [request] at refused
    split
    · simp only [refused, Bool.false_eq_true, if_false]
    · rename_i denied
      exact Bool.not_eq_true _ ▸ denied
  · simp only [request] at accepted
    simp only [evaluated, PolicyEngine.evaluate, requirement, evaluateRequirements_append, step,
      accepted, if_true]

/-- A principal that no handler lets pass for a custom requirement but the custom one. -/
def stranger : Authn.Principal := ⟨"", "", .unknown, [], [], ∅⟩

theorem standardHandler_stranger (parcHandler : Option (PARCHandler World)) (name : String)
    (handler : RequirementHandler World) (func : Request → Bool) (evalCtx : EvaluationContext)
    (world : World) (found : standardHandler parcHandler name = some handler)
    (other : name ≠ "CustomRequirement") :
    handler stranger (.custom name (some func)) evalCtx world = (.ok false, world) := by
  unfold standardHandler at found
  rw [if_neg other] at found
  split_ifs at found
  · obtain ⟨parc, rfl, rfl⟩ := Option.map_eq_some_iff.1 found
    rfl
  all_goals
    cases found
    rfl

/-- Custom requirements under a name are decided by their functions exactly when there is no name,
or it is that of the custom handler. -/
theorem custom_decides_iff (parcHandler : Option (PARCHandler World)) (engine : PolicyEngine World)
    (constructed : Constructed parcHandler engine) (world : World) (name : String) :
    DecidedByFunc engine world name ↔ name = "" ∨ name = "CustomRequirement" := by
  have lookup := lookup_constructed parcHandler engine constructed
  constructor
  · intro decided
    by_contra! named
    obtain ⟨single, -⟩ := decided (fun _ => true) "" [] [] stranger none
    obtain ⟨handler, next, found, handled, -⟩ := (allowed_cons_iff engine stranger .zero
      (.custom name (some fun _ => true)) [] world).1 (single.2 rfl)
    rw [lookup, Requirement.requirementType, if_pos named.1] at found
    rw [standardHandler_stranger parcHandler name handler _ _ world found named.2] at handled
    cases handled
  · rintro (rfl | rfl)
    · exact decidedByFunc_of_lookup engine world "" (lookup _)
    · exact decidedByFunc_of_lookup engine world "CustomRequirement" (lookup _)

end Engines

/-! ### Some engines -/

/-- A user with a scope and a role. -/
def signedIn : Authn.Principal :=
  ⟨"user_42", "", .authCodePKCE, ["documents:read"], ["Admin"], ∅⟩

def adminChain : List BuilderCall :=
  [.requireScope ["documents:read"], .requireRole ["admin"], .requireUser,
    .requirePARC "read" "document"]

/-- A chain of four calls, of which the last asks the permissions, and the same calls the other way
round. -/
theorem adminChain_allowed :
    let parcHandler := some (oneRuleHandler ⟨"read", "document", "*", "", .permit⟩)
    let engine := @newPolicyEngine Unit asciiCase
      (parcHandler.map (@PARCHandler.handle Unit jsonCodec asciiCase))
    (engine.evaluate (buildChain "Admins" adminChain) (some signedIn) none ()).1.allowed = true ∧
      @AllHold Unit asciiCase jsonCodec parcHandler signedIn .zero () adminChain ∧
      (engine.evaluate (buildChain "Admins" adminChain.reverse) (some signedIn) none
        ()).1.allowed = true := by
  intro parcHandler engine
  have allowed : (engine.evaluate (buildChain "Admins" adminChain) (some signedIn) none
      ()).1.allowed = true := by
    decide +kernel
  obtain ⟨meaning, -, ordered⟩ := @build_allowed_iff Unit asciiCase jsonCodec parcHandler engine
    (@Constructed.policyEngine Unit asciiCase jsonCodec parcHandler) "Admins" adminChain signedIn
    none ()
  have steady : @SteadyVerdict Unit asciiCase jsonCodec parcHandler signedIn .zero () adminChain :=
    fun _ _ _ _ _ => Iff.rfl
  exact ⟨allowed, meaning.1 allowed,
    (ordered steady _ (List.reverse_perm adminChain).symm).trans allowed⟩

/-- A custom requirement without a name. -/
theorem unnamed_decides :
    DecidedByFunc (@newPolicyEngine Unit asciiCase
      ((none : Option (PARCHandler Unit)).map (@PARCHandler.handle Unit jsonCodec asciiCase)))
      () "" :=
  (@custom_decides_iff Unit asciiCase jsonCodec none _
    (@Constructed.policyEngine Unit asciiCase jsonCodec none) () "").2 (.inl rfl)

/-- Under a name of its own, a requirement whose function says yes is refused; under the name of
another handler, one whose function says no is met. -/
theorem named_ignores_func :
    (@PolicyEngine.evaluate Unit (@newPolicyEngine Unit asciiCase none)
        ⟨"Owners", [.custom "IsOwner" (some fun _ => true)]⟩ (some signedIn) none ()).1 =
      ⟨false, "no handler registered for requirement type 'IsOwner'"⟩ ∧
    (@PolicyEngine.evaluate Unit (@newPolicyEngine Unit asciiCase none)
        ⟨"Owners", [.custom "UserPresentRequirement" (some fun _ => false)]⟩ (some signedIn) none
        ()).1 = ⟨true, ""⟩ := by
  decide +kernel

end SharedGo.Authz
