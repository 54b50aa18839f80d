/-
This file models how an application sets up its authorization, and proves what the
requests of the whole application need. A builder refers to an options object: its
own, or one that the application gives it. Such an object may be given to several
builders, and the application may write to it as well; what a service enforces is
what the object held when the service was built, whoever wrote it.

The first failure of a permission handler stays in the builder. Of the handlers that
a service is given it installs the last one for permissions, and ignores the others.

Behind the authentication every request needs a principal, also on an endpoint that
is marked as anonymous. An endpoint with annotations enforces the policies it names,
one after the other, and one without enforces the fallback policy.
-/

import Mathlib.Logic.Function.Basic
import SharedGo.Annotations
import SharedGo.AuthenticationStack
import SharedGo.PolicyBuilder

namespace SharedGo.Authz

open SharedGo Text Gin

/-! ### Options objects -/

/-- An options object: one that the application makes, or the own one of a builder. -/
inductive OptionsRef where
  | given (object : Nat)
  | own (builder : Nat)
  deriving DecidableEq, Repr

/-- What is written to an options object. -/
inductive OptionsWrite where
  | addPolicy (name : String) (policy : Policy)
  | setDefaultPolicy (policy : Option Policy)
  | setFallbackPolicy (policy : Option Policy)

def OptionsWrite.apply (options : AuthorizationOptions) : OptionsWrite → AuthorizationOptions
  | .addPolicy name policy => options.addPolicy name policy
  | .setDefaultPolicy policy => { options with defaultPolicy := policy }
  | .setFallbackPolicy policy => { options with fallbackPolicy := policy }

/-- The policy that a write leaves under a name. -/
def OptionsWrite.policyUnder (name : String) : OptionsWrite → Option (Option Policy)
  | .addPolicy other policy => if name = other then some (some { policy with name }) else none
  | _ => none

def OptionsWrite.default : OptionsWrite → Option (Option Policy)
  | .setDefaultPolicy policy => some policy
  | _ => none

def OptionsWrite.fallback : OptionsWrite → Option (Option Policy)
  | .setFallbackPolicy policy => some policy
  | _ => none

theorem apply_lookup (options : AuthorizationOptions) (write : OptionsWrite) (name : String) :
    (write.apply options).policies.lookup name =
      (write.policyUnder name).getD (options.policies.lookup name) := by
  cases write with
  | addPolicy other policy =>
    rw [OptionsWrite.apply, AuthorizationOptions.addPolicy, GoMap.lookup_insert_eq,
      OptionsWrite.policyUnder]
    split
    · rename_i same
      rw [same]
      rfl
    · rfl
  | setDefaultPolicy policy => rfl
  | setFallbackPolicy policy => rfl

theorem apply_default (options : AuthorizationOptions) (write : OptionsWrite) :
    (write.apply options).defaultPolicy = write.default.getD options.defaultPolicy := by
  cases write <;> rfl

theorem apply_fallback (options : AuthorizationOptions) (write : OptionsWrite) :
    (write.apply options).fallbackPolicy = write.fallback.getD options.fallbackPolicy := by
  cases write <;> rfl

/-! ### Builders -/

structure AuthorizationBuilder (World : Type) where
  options : OptionsRef
  handlers : List (GivenHandler World)
  middlewareOptions : List (MiddlewareOption World)
  err : Option String

/-- A call of a method of the builder; what a call makes that may fail comes with it. -/
inductive AuthorizationCall (World : Type) where
  | withOptions (options : Option Nat)
  | addPolicy (name : String) (policy : Policy)
  | withDefaultPolicy (policy : Option Policy)
  | withFallbackPolicy (policy : Option Policy)
  | withHandler (handler : Option (GivenHandler World))
  | withPARC (config : PARCHandlerConfig World)
      (newMemoryCacheProvider : Except String (CacheProvider World))
  | withMemoryPARC (grantTTL : Duration) (repositories : List (Option (PermissionRepository World)))
      (newRepository : PermissionRepository World)
      (newMemoryCacheProvider : Except String (CacheProvider World))
  | withMiddlewareOption (options : List (MiddlewareOption World))

/-- An application writes to an options object it made, or calls a builder. -/
inductive SetupEvent (World : Type) where
  | write (object : Nat) (write : OptionsWrite)
  | call (builder : Nat) (call : AuthorizationCall World)

/-- All options objects and builders; one that is not in use yet is as it is made. -/
structure Setup (World : Type) where
  options : OptionsRef → AuthorizationOptions
  builders : Nat → AuthorizationBuilder World

section Setups

variable {World : Type}

namespace AuthorizationBuilder

def newBuilder (index : Nat) : AuthorizationBuilder World := ⟨.own index, [], [], none⟩

variable (builder : AuthorizationBuilder World)

def withPARC (config : PARCHandlerConfig World)
    (newMemoryCacheProvider : Except String (CacheProvider World)) :
    AuthorizationBuilder World :=
  if builder.err.isSome then builder
  else
    match newPARCHandler config newMemoryCacheProvider with
    | .error reason =>
      { builder with err := some ("authz: failed initializing PARC handler: " ++ reason) }
    | .ok handler => { builder with handlers := builder.handlers ++ [.parc handler] }

/-- The first repository that is given, or a new one. -/
def memoryRepository (repositories : List (Option (PermissionRepository World)))
    (newRepository : PermissionRepository World) : PermissionRepository World :=
  match repositories with
  | some repository :: _ => repository
  | _ => newRepository

def withMemoryPARC (grantTTL : Duration)
    (repositories : List (Option (PermissionRepository World)))
    (newRepository : PermissionRepository World)
    (newMemoryCacheProvider : Except String (CacheProvider World)) :
    AuthorizationBuilder World :=
  if builder.err.isSome then builder
  else builder.withPARC ⟨some (memoryRepository repositories newRepository), none, grantTTL⟩
    newMemoryCacheProvider

/-- Makes a service of what the options object holds, whose policies are visited in some order. -/
def build [CaseMapping] [BundleCodec] (options : AuthorizationOptions)
    (order : List (GoMap.Entry String Policy)) : Except String (PolicyEngine World) :=
  match builder.err with
  | some error => .error error
  | none => .ok (newAuthorizationService (some options) order builder.handlers)

end AuthorizationBuilder

namespace Setup

def initial : Setup World := ⟨fun _ => newAuthorizationOptions, .newBuilder⟩

variable (setup : Setup World)

def writeTo (object : OptionsRef) (write : OptionsWrite) : Setup World :=
  { setup with
    options := Function.update setup.options object (write.apply (setup.options object)) }

def change (index : Nat) (builder : AuthorizationBuilder World) : Setup World :=
  { setup with builders := Function.update setup.builders index builder }

/-- Performs a call of the builder with an index. -/
def perform (index : Nat) : AuthorizationCall World → Setup World
  | .withOptions none => setup
  | .withOptions (some object) =>
    setup.change index { setup.builders index with options := .given object }
  | .addPolicy name policy => setup.writeTo (setup.builders index).options (.addPolicy name policy)
  | .withDefaultPolicy policy =>
    setup.writeTo (setup.builders index).options (.setDefaultPolicy policy)
  | .withFallbackPolicy policy =>
    setup.writeTo (setup.builders index).options (.setFallbackPolicy policy)
  | .withHandler none => setup
  | .withHandler (some handler) =>
    setup.change index
      { setup.builders index with handlers := (setup.builders index).handlers ++ [handler] }
  | .withPARC config newMemoryCacheProvider =>
    setup.change index ((setup.builders index).withPARC config newMemoryCacheProvider)
  | .withMemoryPARC grantTTL repositories newRepository newMemoryCacheProvider =>
    setup.change index ((setup.builders index).withMemoryPARC grantTTL repositories newRepository
      newMemoryCacheProvider)
  | .withMiddlewareOption options =>
    setup.change index { setup.builders index with
      middlewareOptions := (setup.builders index).middlewareOptions ++ options }

def step : SetupEvent World → Setup World
  | .write object write => setup.writeTo (.given object) write
  | .call index call => setup.perform index call

/-- The state after the events of an application. -/
def after (events : List (SetupEvent World)) : Setup World := events.foldl step initial

variable [CaseMapping] [BundleCodec]

def build (index : Nat) (order : List (GoMap.Entry String Policy)) :
    Except String (PolicyEngine World) :=
  (setup.builders index).build (setup.options (setup.builders index).options) order

def buildMiddleware (index : Nat) (order : List (GoMap.Entry String Policy)) (own : String) :
    Except String (Handler (HttpContext World)) :=
  match setup.build index order with
  | .error error => .error error
  | .ok service => .ok (newAuthorization own service (setup.builders index).middlewareOptions)

end Setup

/-! ### What a history configures -/

/-- The handler that a call for permissions makes, or its error. -/
def AuthorizationCall.parc : AuthorizationCall World → Option (Except String (PARCHandler World))
  | .withPARC config newMemoryCacheProvider =>
    some (newPARCHandler config newMemoryCacheProvider)
  | .withMemoryPARC grantTTL repositories newRepository newMemoryCacheProvider =>
    some (newPARCHandler
      ⟨some (AuthorizationBuilder.memoryRepository repositories newRepository), none, grantTTL⟩
      newMemoryCacheProvider)
  | _ => none

def AuthorizationCall.failure (call : AuthorizationCall World) : Option String :=
  match call.parc with
  | some (.error reason) => some ("authz: failed initializing PARC handler: " ++ reason)
  | _ => none

/-- The handler that a call adds, if it does not fail. -/
def AuthorizationCall.handler (call : AuthorizationCall World) : Option (GivenHandler World) :=
  match call with
  | .withHandler handler => handler
  | call =>
    match call.parc with
    | some (.ok handler) => some (.parc handler)
    | _ => none

def AuthorizationCall.middlewareOptions :
    AuthorizationCall World → List (MiddlewareOption World)
  | .withMiddlewareOption options => options
  | _ => []

/-- What a call writes to the options object of the builder. -/
def AuthorizationCall.write : AuthorizationCall World → Option OptionsWrite
  | .addPolicy name policy => some (.addPolicy name policy)
  | .withDefaultPolicy policy => some (.setDefaultPolicy policy)
  | .withFallbackPolicy policy => some (.setFallbackPolicy policy)
  | _ => none

def SetupEvent.callOn (index : Nat) : SetupEvent World → Option (AuthorizationCall World)
  | .call builder called => if builder = index then some called else none
  | .write _ _ => none

/-- The calls of one builder. -/
def callsOn (index : Nat) (events : List (SetupEvent World)) : List (AuthorizationCall World) :=
  events.filterMap (SetupEvent.callOn index)

def AuthorizationCall.refers : AuthorizationCall World → Option OptionsRef
  | .withOptions (some object) => some (.given object)
  | _ => none

/-- The options object of a builder: the last one it was given, or its own. -/
def refersTo (index : Nat) (events : List (SetupEvent World)) : OptionsRef :=
  Authn.lastOf AuthorizationCall.refers (callsOn index events) (.own index)

/-- What an event writes, and to which object, after others. -/
def SetupEvent.written (past : List (SetupEvent World)) :
    SetupEvent World → Option (OptionsRef × OptionsWrite)
  | .write object content => some (.given object, content)
  | .call index called => called.write.map fun content => (refersTo index past, content)

/-- The writes to all options objects, of events after others. -/
def writesFrom (past : List (SetupEvent World)) :
    List (SetupEvent World) → List (OptionsRef × OptionsWrite)
  | [] => []
  | event :: rest => (event.written past).toList ++ writesFrom (past ++ [event]) rest

/-- The writes to one options object, whoever made them. -/
def writesTo (object : OptionsRef) (events : List (SetupEvent World)) : List OptionsWrite :=
  ((writesFrom [] events).filter (·.1 = object)).map Prod.snd

/-- The policy that was last added under a name. -/
def lastPolicy (object : OptionsRef) (events : List (SetupEvent World)) (name : String) :
    Option Policy :=
  Authn.lastOf (OptionsWrite.policyUnder name) (writesTo object events) none

def lastDefault (object : OptionsRef) (events : List (SetupEvent World)) : Option Policy :=
  Authn.lastOf OptionsWrite.default (writesTo object events) none

def lastFallback (object : OptionsRef) (events : List (SetupEvent World)) : Option Policy :=
  Authn.lastOf OptionsWrite.fallback (writesTo object events) none

/-- The handler of permissions that a builder installs. -/
def lastPARC (index : Nat) (events : List (SetupEvent World)) : Option (PARCHandler World) :=
  installed ((callsOn index events).filterMap AuthorizationCall.handler)

def MiddlewareOption.resultHandler : MiddlewareOption World → Option (Option (ResultHandler World))
  | .withResultHandler handler => some handler
  | _ => none

def MiddlewareOption.fallback : MiddlewareOption World → Option (Option Policy)
  | .withFallbackPolicy policy => some (some policy)
  | _ => none

/-- The fallback policy of the middleware: that of its last option, or that of the service. -/
def effectiveFallback (index : Nat) (events : List (SetupEvent World)) : Option Policy :=
  Authn.lastOf MiddlewareOption.fallback
    ((callsOn index events).flatMap AuthorizationCall.middlewareOptions)
    (lastFallback (refersTo index events) events)

/-! ### The state after a history -/

theorem lastOf_concat {Call Choice : Type} (choice : Call → Option Choice) (calls : List Call)
    (call : Call) (initial : Choice) :
    Authn.lastOf choice (calls ++ [call]) initial =
      (choice call).getD (Authn.lastOf choice calls initial) :=
  List.foldl_concat _ _ _ _

theorem lastOf_cases {Call Choice : Type} (choice : Call → Option Choice) (calls : List Call)
    (initial : Choice) :
    Authn.lastOf choice calls initial = initial ∨
      ∃ call ∈ calls, choice call = some (Authn.lastOf choice calls initial) := by
  induction calls using List.reverseRecOn with
  | nil => exact Or.inl rfl
  | append_singleton calls call inductionHypothesis =>
    rw [lastOf_concat]
    cases chosen : choice call with
    | some value => exact Or.inr ⟨call, by simp, chosen⟩
    | none =>
      refine inductionHypothesis.imp_right ?_
      rintro ⟨earlier, member, same⟩
      exact ⟨earlier, List.mem_append_left _ member, same⟩

theorem writesFrom_concat (past events : List (SetupEvent World)) (event : SetupEvent World) :
    writesFrom past (events ++ [event]) =
      writesFrom past events ++ (event.written (past ++ events)).toList := by
  induction events generalizing past with
  | nil => simp [writesFrom]
  | cons first rest inductionHypothesis =>
    rw [List.cons_append, writesFrom, writesFrom, inductionHypothesis, List.append_assoc,
      List.append_assoc]
    rfl

theorem writesTo_concat (object : OptionsRef) (events : List (SetupEvent World))
    (event : SetupEvent World) :
    writesTo object (events ++ [event]) = writesTo object events ++
      (((event.written events).toList.filter (·.1 = object)).map Prod.snd) := by
  rw [writesTo, writesFrom_concat, List.filter_append, List.map_append]
  rfl

theorem callsOn_concat (index : Nat) (events : List (SetupEvent World))
    (event : SetupEvent World) :
    callsOn index (events ++ [event]) = callsOn index events ++ (event.callOn index).toList := by
  rw [callsOn, List.filterMap_append]
  cases called : event.callOn index <;> simp [callsOn, called]

/-- A builder after some calls of its own. -/
structure BuilderAfter (index : Nat) (calls : List (AuthorizationCall World))
    (builder : AuthorizationBuilder World) : Prop where
  refers : builder.options = Authn.lastOf AuthorizationCall.refers calls (.own index)
  err : builder.err = calls.findSome? AuthorizationCall.failure
  handlers : calls.findSome? AuthorizationCall.failure = none →
    builder.handlers = calls.filterMap AuthorizationCall.handler
  options : builder.middlewareOptions = calls.flatMap AuthorizationCall.middlewareOptions

/-- An options object after some writes. -/
structure OptionsAfter (writes : List OptionsWrite) (options : AuthorizationOptions) : Prop where
  policies : ∀ name, options.policies.lookup name =
    Authn.lastOf (OptionsWrite.policyUnder name) writes none
  default : options.defaultPolicy = Authn.lastOf OptionsWrite.default writes none
  fallback : options.fallbackPolicy = Authn.lastOf OptionsWrite.fallback writes none

theorem optionsAfter_write {writes : List OptionsWrite} {options : AuthorizationOptions}
    (holds : OptionsAfter writes options) (write : OptionsWrite) :
    OptionsAfter (writes ++ [write]) (write.apply options) where
  policies name := by rw [apply_lookup, lastOf_concat, holds.policies]
  default := by rw [apply_default, lastOf_concat, holds.default]
  fallback := by rw [apply_fallback, lastOf_concat, holds.fallback]

/-- The builder that a call leaves. -/
def AuthorizationCall.applyTo (builder : AuthorizationBuilder World) :
    AuthorizationCall World → AuthorizationBuilder World
  | .withOptions (some object) => { builder with options := .given object }
  | .withHandler (some handler) => { builder with handlers := builder.handlers ++ [handler] }
  | .withPARC config newMemoryCacheProvider => builder.withPARC config newMemoryCacheProvider
  | .withMemoryPARC grantTTL repositories newRepository newMemoryCacheProvider =>
    builder.withMemoryPARC grantTTL repositories newRepository newMemoryCacheProvider
  | .withMiddlewareOption options =>
    { builder with middlewareOptions := builder.middlewareOptions ++ options }
  | _ => builder

/-- A call changes its own builder, and writes to the options object of that. -/
theorem perform_eq (setup : Setup World) (index : Nat) (call : AuthorizationCall World) :
    setup.perform index call = match call.write with
      | some write => setup.writeTo (setup.builders index).options write
      | none => setup.change index (call.applyTo (setup.builders index)) := by
  cases call with
  | withOptions object =>
    cases object <;> simp [Setup.perform, AuthorizationCall.write, AuthorizationCall.applyTo,
      Setup.change]
  | withHandler handler =>
    cases handler <;> simp [Setup.perform, AuthorizationCall.write, AuthorizationCall.applyTo,
      Setup.change]
  | _ => rfl

theorem applyTo_of_write (builder : AuthorizationBuilder World) (call : AuthorizationCall World)
    (write : OptionsWrite) (writes : call.write = some write) : call.applyTo builder = builder := by
  cases call <;> first | rfl | cases writes

theorem withMemoryPARC_eq (builder : AuthorizationBuilder World) (grantTTL : Duration)
    (repositories : List (Option (PermissionRepository World)))
    (newRepository : PermissionRepository World)
    (newMemoryCacheProvider : Except String (CacheProvider World)) :
    builder.withMemoryPARC grantTTL repositories newRepository newMemoryCacheProvider =
      builder.withPARC
        ⟨some (AuthorizationBuilder.memoryRepository repositories newRepository), none, grantTTL⟩
        newMemoryCacheProvider := by
  simp only [AuthorizationBuilder.withMemoryPARC, AuthorizationBuilder.withPARC]
  split <;> rfl

/-- A call for permissions fails or appends its handler, unless an earlier one failed. -/
theorem withPARC_eq (builder : AuthorizationBuilder World) (config : PARCHandlerConfig World)
    (newMemoryCacheProvider : Except String (CacheProvider World)) :
    builder.withPARC config newMemoryCacheProvider = { builder with
      handlers :=
        if builder.err.isSome then builder.handlers
        else builder.handlers ++
          ((newPARCHandler config newMemoryCacheProvider).toOption.map .parc).toList
      err := builder.err <|>
        match newPARCHandler config newMemoryCacheProvider with
        | .error reason => some ("authz: failed initializing PARC handler: " ++ reason)
        | .ok _ => none } := by
  obtain ⟨options, handlers, middlewareOptions, _ | error⟩ := builder
  · cases made : newPARCHandler config newMemoryCacheProvider <;>
      simp [AuthorizationBuilder.withPARC, made, Except.toOption]
  · simp [AuthorizationBuilder.withPARC]

/-- A call changes what it is about and nothing else. -/
theorem applyTo_eq (builder : AuthorizationBuilder World) (call : AuthorizationCall World) :
    call.applyTo builder = {
      options := call.refers.getD builder.options
      handlers :=
        if builder.err.isSome ∧ call.parc.isSome then builder.handlers
        else builder.handlers ++ call.handler.toList
      middlewareOptions := builder.middlewareOptions ++ call.middlewareOptions
      err := builder.err <|> call.failure } := by
  cases call with
  | withPARC config newMemoryCacheProvider =>
    rw [AuthorizationCall.applyTo, withPARC_eq]
    cases made : newPARCHandler config newMemoryCacheProvider <;>
      simp [AuthorizationCall.refers, AuthorizationCall.parc, AuthorizationCall.handler,
        AuthorizationCall.middlewareOptions, AuthorizationCall.failure, made, Except.toOption]
  | withMemoryPARC grantTTL repositories newRepository newMemoryCacheProvider =>
    rw [AuthorizationCall.applyTo, withMemoryPARC_eq, withPARC_eq]
    cases made : newPARCHandler
      ⟨some (AuthorizationBuilder.memoryRepository repositories newRepository), none, grantTTL⟩
      newMemoryCacheProvider <;>
      simp [AuthorizationCall.refers, AuthorizationCall.parc, AuthorizationCall.handler,
        AuthorizationCall.middlewareOptions, AuthorizationCall.failure, made, Except.toOption]
  | withOptions object =>
    cases object <;>
      simp [AuthorizationCall.applyTo, AuthorizationCall.refers, AuthorizationCall.parc,
        AuthorizationCall.handler, AuthorizationCall.middlewareOptions, AuthorizationCall.failure]
  | withHandler handler =>
    cases handler <;>
      simp [AuthorizationCall.applyTo, AuthorizationCall.refers, AuthorizationCall.parc,
        AuthorizationCall.handler, AuthorizationCall.middlewareOptions, AuthorizationCall.failure]
  | _ =>
    simp [AuthorizationCall.applyTo, AuthorizationCall.refers, AuthorizationCall.parc,
      AuthorizationCall.handler, AuthorizationCall.middlewareOptions, AuthorizationCall.failure]

theorem builderAfter_call {index : Nat} {calls : List (AuthorizationCall World)}
    {builder : AuthorizationBuilder World} (holds : BuilderAfter index calls builder)
    (call : AuthorizationCall World) :
    BuilderAfter index (calls ++ [call]) (call.applyTo builder) := by
  rw [applyTo_eq]
  refine ⟨?_, ?_, ?_, ?_⟩
  · rw [lastOf_concat, ← holds.refers]
  · rw [List.findSome?_append, ← holds.err, List.findSome?_singleton]
    exact Option.orElse_eq_or
  · intro sound
    rw [List.findSome?_append, Option.or_eq_none_iff] at sound
    rw [List.filterMap_append, ← holds.handlers sound.1, holds.err, sound.1]
    cases added : call.handler <;> simp [added]
  · rw [List.flatMap_append, ← holds.options, List.flatMap_singleton]

/-- The state of an application is that of its history. -/
structure SetupAfter (events : List (SetupEvent World)) (setup : Setup World) : Prop where
  builders : ∀ index, BuilderAfter index (callsOn index events) (setup.builders index)
  options : ∀ object, OptionsAfter (writesTo object events) (setup.options object)

theorem optionsAfter_writeTo (setup : Setup World) (events : List (SetupEvent World))
    (event : SetupEvent World) (target : OptionsRef) (write : OptionsWrite)
    (written : event.written events = some (target, write))
    (holds : ∀ object, OptionsAfter (writesTo object events) (setup.options object))
    (object : OptionsRef) :
    OptionsAfter (writesTo object (events ++ [event]))
      ((setup.writeTo target write).options object) := by
  rw [writesTo_concat, written]
  by_cases same : object = target
  · subst same
    simpa [Setup.writeTo] using optionsAfter_write (holds object) write
  · simpa [Setup.writeTo, same, Ne.symm same] using holds object

/-- One event. -/
theorem setupAfter_step (setup : Setup World) (events : List (SetupEvent World))
    (event : SetupEvent World) (holds : SetupAfter events setup) :
    SetupAfter (events ++ [event]) (setup.step event) := by
  obtain ⟨builders, options⟩ := holds
  cases event with
  | write object write =>
    refine ⟨fun index => ?_, optionsAfter_writeTo setup events _ _ write rfl options⟩
    simpa [callsOn_concat, SetupEvent.callOn, Setup.step, Setup.writeTo] using builders index
  | call index call =>
    rw [Setup.step, perform_eq]
    cases writes : call.write with
    | some write =>
      refine ⟨fun other => ?_, optionsAfter_writeTo setup events _ _ write ?_ options⟩
      · rw [callsOn_concat, SetupEvent.callOn]
        by_cases same : index = other
        · subst same
          rw [if_pos rfl]
          have called := builderAfter_call (builders index) call
          rwa [applyTo_of_write _ call write writes] at called
        · simpa [same, Setup.writeTo] using builders other
      · rw [SetupEvent.written, writes, (builders index).refers]
        rfl
    | none =>
      refine ⟨fun other => ?_, fun object => ?_⟩
      · rw [callsOn_concat, SetupEvent.callOn]
        by_cases same : index = other
        · subst same
          simpa [Setup.change] using builderAfter_call (builders index) call
        · simpa [Setup.change, same, Ne.symm same] using builders other
      · simpa [writesTo_concat, SetupEvent.written, writes, Setup.change] using options object

theorem setupAfter_after (events : List (SetupEvent World)) :
    SetupAfter events (Setup.after events) := by
  induction events using List.reverseRecOn with
  | nil =>
    exact ⟨fun index => ⟨rfl, rfl, fun _ => rfl, rfl⟩, fun object => ⟨fun _ => rfl, rfl, rfl⟩⟩
  | append_singleton events event inductionHypothesis =>
    rw [Setup.after, List.foldl_concat]
    exact setupAfter_step _ events event inductionHypothesis

/-! ### The service that is built -/

/-- Registering policies under their own names, in any order, keeps the last of each name. -/
theorem lookup_registered_iff (order : List (GoMap.Entry String Policy))
    (named : ∀ entry ∈ order, entry.2.name = entry.1) (distinct : order.NodupKeys)
    (engine : PolicyEngine World) (name : String) (policy : Policy) :
    (engine.registerPolicies order).policies.lookup name = some policy ↔
      ⟨name, policy⟩ ∈ order ∨
        name ∉ order.keys ∧ engine.policies.lookup name = some policy := by
  induction order generalizing engine with
  | nil => simp [PolicyEngine.registerPolicies]
  | cons entry rest inductionHypothesis =>
    obtain ⟨first, content⟩ := entry
    obtain ⟨isName, others⟩ := List.forall_mem_cons.mp named
    obtain ⟨fresh, restDistinct⟩ := List.nodupKeys_cons.mp distinct
    obtain rfl : content.name = first := isName
    rw [PolicyEngine.registerPolicies, List.foldl_cons, ← PolicyEngine.registerPolicies,
      inductionHypothesis others restDistinct, PolicyEngine.registerPolicy, GoMap.lookup_insert_eq]
    by_cases same : name = content.name
    · subst same
      have unlisted : ⟨content.name, policy⟩ ∉ rest := fun member =>
        fresh (List.mem_keys.mpr ⟨policy, member⟩)
      simp [fresh, unlisted, eq_comm]
    · simp [same]

section Building

variable [CaseMapping] [BundleCodec] (events : List (SetupEvent World)) (index : Nat)

/-- The object that the builder refers to after the events. -/
def builtOptions : AuthorizationOptions := (Setup.after events).options (refersTo index events)

omit [CaseMapping] [BundleCodec] in
theorem after_refers : ((Setup.after events).builders index).options = refersTo index events :=
  ((setupAfter_after events).builders index).refers

/-- Building fails with the first failure of the builder's calls, and with no other. -/
theorem build_eq_error_iff (order : List (GoMap.Entry String Policy)) (error : String) :
    (Setup.after events).build index order = .error error ↔
      (callsOn index events).findSome? AuthorizationCall.failure = some error := by
  rw [Setup.build, AuthorizationBuilder.build, ((setupAfter_after events).builders index).err]
  cases (callsOn index events).findSome? AuthorizationCall.failure <;> simp

/-- What a built service has is what the history configures. Of the handlers that were added it has
the last one for permissions, next to those of the package. -/
structure ServiceOf (service : PolicyEngine World) : Prop where
  constructed : Constructed (lastPARC index events) service
  handlers : ∀ name,
    service.handlers.lookup name = standardHandler (lastPARC index events) name
  policies : ∀ name,
    service.policies.lookup name = lastPolicy (refersTo index events) events name
  default : service.defaultPolicy = lastDefault (refersTo index events) events
  fallback : service.fallbackPolicy = lastFallback (refersTo index events) events

theorem serviceOf_build (order : List (GoMap.Entry String Policy))
    (visits : (builtOptions events index).policies.Visits order) (service : PolicyEngine World)
    (built : (Setup.after events).build index order = .ok service) :
    ServiceOf events index service := by
  obtain ⟨-, err, handlers, -⟩ := (setupAfter_after events).builders index
  obtain ⟨policies, default, fallback⟩ :=
    (setupAfter_after events).options (refersTo index events)
  rw [Setup.build, AuthorizationBuilder.build, err, after_refers] at built
  cases failed : (callsOn index events).findSome? AuthorizationCall.failure with
  | some error => simp [failed] at built
  | none =>
    rw [failed, handlers failed] at built
    obtain rfl := Except.ok.inj built
    refine ⟨.authorizationService _ order _,
      lookup_constructed _ _ (.authorizationService _ order _), fun name => ?_, default, fallback⟩
    have named : ∀ entry ∈ order, entry.2.name = entry.1 := by
      intro entry member
      exact (builtOptions events index).named _ _
        (AList.mem_lookup_iff.mpr ((visits.mem_iff entry).mp member))
    have distinct : order.NodupKeys :=
      (List.perm_nodupKeys visits).mpr (builtOptions events index).policies.nodupKeys
    rw [lastPolicy, ← policies]
    refine Option.ext fun policy => ?_
    refine (lookup_registered_iff order named distinct _ name policy).trans ?_
    rw [visits.mem_iff]
    simp [newPolicyEngine, ← AList.mem_lookup_iff, builtOptions]

/-- Whatever an application does with its builders and options objects, building one of them fails
with the first failure of its own calls, or makes the service that the history configures. -/
theorem build_of_history (order : List (GoMap.Entry String Policy))
    (visits : (builtOptions events index).policies.Visits order) :
    (∃ error, (callsOn index events).findSome? AuthorizationCall.failure = some error ∧
        (Setup.after events).build index order = .error error) ∨
      (callsOn index events).findSome? AuthorizationCall.failure = none ∧
        ∃ service, (Setup.after events).build index order = .ok service ∧
          ServiceOf events index service := by
  cases built : (Setup.after events).build index order with
  | error error => exact Or.inl ⟨error, (build_eq_error_iff events index order error).mp built, rfl⟩
  | ok service =>
    refine Or.inr ⟨?_, service, rfl, serviceOf_build events index order visits service built⟩
    refine Option.eq_none_iff_forall_ne_some.mpr fun error failed => ?_
    rw [(build_eq_error_iff events index order error).mpr failed] at built
    cases built

end Building

/-! ### What policies ask for -/

section Meaning

variable [CaseMapping] [BundleCodec]

/-- The policy was built with the methods of the policy builder. -/
def Chained (policy : Policy) : Prop :=
  ∃ chain : List BuilderCall, policy.requirements = chain.map BuilderCall.requirement

/-- There is a policy and what its calls ask for holds, and the world is the one they leave. -/
def Grants (parcHandler : Option (PARCHandler World)) (policy : Option Policy)
    (principal : Authn.Principal) (evalCtx : EvaluationContext) (world next : World) : Prop :=
  ∃ found chain, policy = some found ∧
    found.requirements = List.map BuilderCall.requirement chain ∧
    AllHold parcHandler principal evalCtx world chain ∧
    next = chain.foldl (BuilderCall.worldAfter parcHandler principal evalCtx) world

/-- The policies of a row of annotations hold, one after the other. -/
def Permitted (parcHandler : Option (PARCHandler World)) (policyOf : String → Option Policy)
    (principal : Authn.Principal) (evalCtx : EvaluationContext) : World → List EndpointMark → Prop
  | _, [] => True
  | world, mark :: rest =>
    match mark.policyName with
    | none => Permitted parcHandler policyOf principal evalCtx world rest
    | some policyName => ∃ next,
        Grants parcHandler (policyOf policyName) principal evalCtx world next ∧
          Permitted parcHandler policyOf principal evalCtx next rest

/-- The world after requirements that all hold. -/
theorem evaluateRequirements_world (parcHandler : Option (PARCHandler World))
    (engine : PolicyEngine World) (constructed : Constructed parcHandler engine)
    (principal : Authn.Principal) (evalCtx : EvaluationContext) (chain : List BuilderCall)
    (world : World) (holds : AllHold parcHandler principal evalCtx world chain) :
    (engine.evaluateRequirements principal evalCtx (chain.map BuilderCall.requirement)
        world).2.2 =
      chain.foldl (BuilderCall.worldAfter parcHandler principal evalCtx) world := by
  induction chain generalizing world with
  | nil => rfl
  | cons call rest inductionHypothesis =>
    obtain ⟨first, others⟩ := holds
    obtain ⟨handler, found, handled⟩ :=
      (handler_passes_iff parcHandler principal evalCtx world _ call).2 ⟨first, rfl⟩
    rw [← standardHandler_requirement, ← lookup_constructed parcHandler engine constructed] at found
    rw [List.map_cons, PolicyEngine.evaluateRequirements, found]
    simp only [handled]
    exact inductionHypothesis _ others

/-- A service grants what a policy of its history asks for. -/
theorem grants_iff (parcHandler : Option (PARCHandler World)) (engine : PolicyEngine World)
    (constructed : Constructed parcHandler engine) (policy : Policy) (chained : Chained policy)
    (principal : Authn.Principal) (evalCtx : EvaluationContext) (world next : World) :
    Grants parcHandler (some policy) principal evalCtx world next ↔
      succeeds (engine.evaluate policy (some principal) (some evalCtx) world) = true ∧
        (engine.evaluate policy (some principal) (some evalCtx) world).2.2 = next := by
  have meaning (chain : List BuilderCall)
      (made : policy.requirements = chain.map BuilderCall.requirement) :
      succeeds (engine.evaluate policy (some principal) (some evalCtx) world) = true ↔
        AllHold parcHandler principal evalCtx world chain := by
    rw [succeeds_evaluate, PolicyEngine.evaluate, made]
    exact evaluateRequirements_chain parcHandler engine constructed principal _ chain world
  have left (chain : List BuilderCall)
      (made : policy.requirements = chain.map BuilderCall.requirement)
      (holds : AllHold parcHandler principal evalCtx world chain) :
      (engine.evaluate policy (some principal) (some evalCtx) world).2.2 =
        chain.foldl (BuilderCall.worldAfter parcHandler principal evalCtx) world := by
    rw [PolicyEngine.evaluate, made]
    exact evaluateRequirements_world parcHandler engine constructed principal _ chain world holds
  constructor
  · rintro ⟨found, chain, same, made, holds, rfl⟩
    obtain rfl := Option.some_inj.mp same
    exact ⟨(meaning chain made).mpr holds, left chain made holds⟩
  · rintro ⟨allowed, rfl⟩
    obtain ⟨chain, made⟩ := chained
    have holds := (meaning chain made).mp allowed
    exact ⟨policy, chain, rfl, made, holds, left chain made holds⟩

/-- Annotations allow a request exactly when the policies of the history permit it. -/
theorem allAllowed_iff_permitted (parcHandler : Option (PARCHandler World))
    (engine : PolicyEngine World) (constructed : Constructed parcHandler engine)
    (policyOf : String → Option Policy)
    (chained : ∀ name policy, policyOf name = some policy → Chained policy)
    (principal : Authn.Principal) (evalCtx : EvaluationContext) (world : World)
    (marks : List EndpointMark) :
    AllAllowed engine policyOf principal evalCtx world marks ↔
      Permitted parcHandler policyOf principal evalCtx world marks := by
  induction marks generalizing world with
  | nil => exact Iff.rfl
  | cons mark rest inductionHypothesis =>
    cases named : mark.policyName with
    | none =>
      simp only [AllAllowed, Permitted, named]
      exact inductionHypothesis world
    | some policyName =>
      simp only [AllAllowed, Permitted, named]
      constructor
      · rintro ⟨policy, found, allowed, others⟩
        refine ⟨_, ?_, (inductionHypothesis _).mp others⟩
        rw [found]
        exact (grants_iff parcHandler engine constructed policy (chained _ _ found) principal
          evalCtx world _).mpr ⟨allowed, rfl⟩
      · rintro ⟨next, granted, others⟩
        obtain ⟨policy, _, found, _⟩ := id granted
        rw [found] at granted
        obtain ⟨allowed, rfl⟩ := (grants_iff parcHandler engine constructed policy
          (chained _ _ found) principal evalCtx world next).mp granted
        exact ⟨policy, found, allowed, (inductionHypothesis _).mpr others⟩

end Meaning

/-! ### The fallback policy -/

section Fallback

variable (service : PolicyEngine World) (options : List (MiddlewareOption World))

theorem middlewareConfig_fallback :
    (middlewareConfig service options).fallbackPolicy =
      Authn.lastOf MiddlewareOption.fallback options service.fallbackPolicy := by
  induction options using List.reverseRecOn with
  | nil => rfl
  | append_singleton options option inductionHypothesis =>
    rw [lastOf_concat, ← inductionHypothesis, middlewareConfig, List.foldl_concat]
    cases option <;> rfl

theorem middlewareConfig_resultHandler :
    (middlewareConfig service options).resultHandler =
      Authn.lastOf MiddlewareOption.resultHandler options none := by
  induction options using List.reverseRecOn with
  | nil => rfl
  | append_singleton options option inductionHypothesis =>
    rw [lastOf_concat, ← inductionHypothesis, middlewareConfig, List.foldl_concat]
    cases option <;> rfl

/-- The handler of results that the options choose, if there is one, does not run the pending
handlers. -/
def AnswersQuietly : Prop :=
  ∀ handler, Authn.lastOf MiddlewareOption.resultHandler options none = some handler →
    ∀ (refused : HttpContext World) reason policyName,
      (handler refused (failedResult reason) policyName).Quiet refused

theorem refusesQuietly (quietly : AnswersQuietly options) (policy : Policy) :
    RefusesQuietly service options policy := by
  intro handler chosen context reason refused _
  rw [middlewareConfig_resultHandler] at chosen
  exact quietly handler chosen refused reason policy.name

/-- The middleware on a chain without annotations. -/
def fallbackGate : Gate (HttpContext World) where
  Passes context := ∀ policy, (middlewareConfig service options).fallbackPolicy = some policy →
    FallbackAllows service policy context
  effect context :=
    match (middlewareConfig service options).fallbackPolicy with
    | none => context.set contextKeyAuthorizationService (.service service)
    | some policy =>
      { context.set contextKeyAuthorizationService (.service service) with
        world := (service.evaluate policy (user context) (some (fallbackContext context))
          context.world).2.2 }

theorem fallbackGate_describes (quietly : AnswersQuietly options) (names : List String)
    (own : String) (unannotated : hasExplicitAuth names = false) :
    (fallbackGate service options).Describes names (newAuthorization own service options) := by
  intro context
  cases configured : (middlewareConfig service options).fallbackPolicy with
  | none =>
    refine ⟨fun _ next pending entered => ?_, fun blocked => absurd ?_ blocked⟩
    · simp [newAuthorization, configured, Program.run, fallbackGate]
    · intro policy other
      rw [configured] at other
      cases other
  | some policy =>
    refine ⟨fun passes next pending entered => ?_, fun blocked others fuel pending entered => ?_⟩
    · obtain ⟨principal, present, decision, world, evaluated, allowed⟩ := passes policy configured
      simp only [newAuthorization, configured, unannotated, Program.run, enforceFallback,
        user_set_service, present, fallbackGate]
      have same : service.evaluate policy (some principal) (some (fallbackContext
          (context.set contextKeyAuthorizationService (.service service))))
          (context.set contextKeyAuthorizationService (.service service)).world =
          (decision, none, world) := evaluated
      simp [same, evaluated, Program.run, Decision.toResult, allowed]
    · refine newAuthorization_blocks service options policy configured
        (refusesQuietly service options quietly policy) own names unannotated others fuel
        ⟨context, pending, entered⟩ fun allowed => blocked fun other same => ?_
      obtain rfl := Option.some_inj.mp (configured.symm.trans same)
      exact allowed

theorem fallbackAllows_iff (policy : Policy) (context : HttpContext World)
    (principal : Authn.Principal) (present : user context = some principal) :
    FallbackAllows service policy context ↔
      succeeds (service.evaluate policy (some principal) (some (fallbackContext context))
        context.world) = true := by
  simp only [FallbackAllows, present, Option.some.injEq, exists_eq_left', succeeds]
  generalize service.evaluate policy (some principal) (some (fallbackContext context))
    context.world = outcome
  obtain ⟨decision, error, world⟩ := outcome
  simp [and_comm]

end Fallback

/-! ### Requests through the whole application -/

/-- The policies that an event gives. -/
def OptionsWrite.policies : OptionsWrite → List Policy
  | .addPolicy _ policy => [policy]
  | .setDefaultPolicy policy => policy.toList
  | .setFallbackPolicy policy => policy.toList

def MiddlewareOption.policies : MiddlewareOption World → List Policy
  | .withFallbackPolicy policy => [policy]
  | .withDefaultPolicy policy => [policy]
  | .withResultHandler _ => []

def SetupEvent.policies : SetupEvent World → List Policy
  | .write _ content => content.policies
  | .call _ called =>
    called.write.toList.flatMap OptionsWrite.policies ++
      called.middlewareOptions.flatMap MiddlewareOption.policies

/-- All the policies that the application gives were built with the policy builder. -/
def ChainedPolicies (events : List (SetupEvent World)) : Prop :=
  ∀ event ∈ events, ∀ policy ∈ event.policies, Chained policy

theorem written_of_mem_writesFrom (past events : List (SetupEvent World))
    (entry : OptionsRef × OptionsWrite) (member : entry ∈ writesFrom past events) :
    ∃ event ∈ events, entry.2.policies ⊆ event.policies := by
  induction events generalizing past with
  | nil => cases member
  | cons event rest inductionHypothesis =>
    rcases List.mem_append.mp member with here | later
    · refine ⟨event, List.mem_cons_self, ?_⟩
      rw [Option.mem_toList] at here
      cases event with
      | write object content =>
        obtain rfl := Option.some_inj.mp here
        exact List.Subset.refl _
      | call index called =>
        obtain ⟨content, isWrite, rfl⟩ := Option.map_eq_some_iff.mp here
        simp [SetupEvent.policies, isWrite]
    · obtain ⟨found, isIn, policies⟩ := inductionHypothesis _ later
      exact ⟨found, List.mem_cons_of_mem _ isIn, policies⟩

theorem lastPolicy_chained (events : List (SetupEvent World)) (chained : ChainedPolicies events)
    (object : OptionsRef) (name : String) (policy : Policy)
    (found : lastPolicy object events name = some policy) : Chained policy := by
  rcases lastOf_cases (OptionsWrite.policyUnder name) (writesTo object events) none with
    missing | ⟨write, member, chosen⟩
  · rw [lastPolicy, missing] at found
    cases found
  · rw [← lastPolicy, found] at chosen
    obtain ⟨entry, isEntry, rfl⟩ := List.mem_map.mp member
    obtain ⟨event, isEvent, among⟩ :=
      written_of_mem_writesFrom [] events entry (List.mem_of_mem_filter isEntry)
    obtain ⟨target, content⟩ := entry
    cases content with
    | addPolicy other given =>
      obtain ⟨same, isPolicy⟩ := Option.ite_none_right_eq_some.mp chosen
      obtain ⟨chain, made⟩ := chained event isEvent given (among List.mem_cons_self)
      rw [← Option.some_inj.mp (Option.some_inj.mp isPolicy)]
      exact ⟨chain, made⟩
    | setDefaultPolicy given => cases chosen
    | setFallbackPolicy given => cases chosen

theorem effectiveFallback_chained (events : List (SetupEvent World))
    (chained : ChainedPolicies events) (index : Nat) (policy : Policy)
    (found : effectiveFallback index events = some policy) : Chained policy := by
  rcases lastOf_cases MiddlewareOption.fallback
    ((callsOn index events).flatMap AuthorizationCall.middlewareOptions)
    (lastFallback (refersTo index events) events) with ofService | ⟨option, member, chosen⟩
  · rw [effectiveFallback, ofService, lastFallback] at found
    rcases lastOf_cases OptionsWrite.fallback (writesTo (refersTo index events) events) none with
      missing | ⟨write, member, chosen⟩
    · rw [missing] at found
      cases found
    · rw [found] at chosen
      obtain ⟨entry, isEntry, rfl⟩ := List.mem_map.mp member
      obtain ⟨event, isEvent, among⟩ :=
        written_of_mem_writesFrom [] events entry (List.mem_of_mem_filter isEntry)
      obtain ⟨target, content⟩ := entry
      cases content with
      | setFallbackPolicy given =>
        obtain rfl := Option.some_inj.mp chosen
        exact chained event isEvent policy (among List.mem_cons_self)
      | addPolicy other given => cases chosen
      | setDefaultPolicy given => cases chosen
  · rw [← effectiveFallback, found] at chosen
    obtain ⟨call, isCall, isOption⟩ := List.mem_flatMap.mp member
    obtain ⟨event, isEvent, calls⟩ := List.mem_filterMap.mp isCall
    cases event with
    | write object content => cases calls
    | call builder called =>
      obtain ⟨-, isCalled⟩ := Option.ite_none_right_eq_some.mp calls
      obtain rfl := Option.some_inj.mp isCalled
      cases option with
      | withFallbackPolicy given =>
        obtain rfl := Option.some_inj.mp (Option.some_inj.mp chosen)
        refine chained _ isEvent given (List.mem_append_right _ ?_)
        exact List.mem_flatMap.mpr ⟨_, isOption, List.mem_singleton.mpr rfl⟩
      | withDefaultPolicy given => cases chosen
      | withResultHandler given => cases chosen

section Requests

variable [CaseMapping] [BundleCodec] (events : List (SetupEvent World)) (index : Nat)

/-- What an endpoint enforces for a principal: the policies that its annotations name, or without
annotations the fallback policy, as the history of the setup configures them. -/
def Enforced (context : HttpContext World) (marks : List EndpointMark)
    (principal : Authn.Principal) (world : World) : Prop :=
  if marks = [] then
    ∀ policy, effectiveFallback index events = some policy →
      ∃ next, Grants (lastPARC index events) (some policy) principal (fallbackContext context)
        world next
  else
    Permitted (lastPARC index events) (lastPolicy (refersTo index events) events) principal
      (requestContext context noResource) world marks

/-- The handlers of the authorization let a request with a principal through exactly when what the
endpoint enforces holds. -/
theorem authorization_lastEntered_iff (chained : ChainedPolicies events)
    (quietly : AnswersQuietly
      ((callsOn index events).flatMap AuthorizationCall.middlewareOptions))
    (service : PolicyEngine World) (serviceOf : ServiceOf events index service)
    (own : String) (placed : List PlacedMark) (business : Handler (HttpContext World))
    (names : List String)
    (explicit : hasExplicitAuth names = true ↔ placed ≠ []) (fuel : Nat)
    (enough : placed.length + 1 < fuel) (context : HttpContext World)
    (entered : List (Nat × HttpContext World)) (before : ¬LastEntered entered)
    (principal : Authn.Principal) (present : user context = some principal) :
    LastEntered (serve names fuel ⟨context,
        endpoint own service ((callsOn index events).flatMap AuthorizationCall.middlewareOptions)
          placed business, entered⟩).entered ↔
      Enforced events index context (placed.map PlacedMark.mark) principal context.world := by
  let options := (callsOn index events).flatMap AuthorizationCall.middlewareOptions
  have others : List.Forall₂ (Gate.Describes names)
      ((placed.map PlacedMark.mark).map EndpointMark.gate)
      (placed.map (@PlacedMark.handler World)) := by
    rw [List.map_map, List.forall₂_map_left_iff, List.forall₂_map_right_iff]
    exact List.forall₂_same.2 fun placed _ => mark_describes names placed
  by_cases unmarked : placed = []
  · subst unmarked
    have unannotated : hasExplicitAuth names = false := by
      rw [← Bool.not_eq_true, explicit]
      exact fun different => different rfl
    refine (serve_last_iff names business _ _ (List.Forall₂.cons
      (fallbackGate_describes service options quietly names own unannotated) others) fuel enough
      context entered before).trans ?_
    rw [List.map_nil, List.map_nil, LetsThrough, LetsThrough, and_true, Enforced, if_pos rfl]
    refine forall_congr' fun policy => ?_
    rw [middlewareConfig_fallback, serviceOf.fallback, ← effectiveFallback]
    refine forall_congr' fun isFallback => ?_
    rw [fallbackAllows_iff service policy context principal present]
    have granted := fun next => grants_iff (lastPARC index events) service serviceOf.constructed
      policy (effectiveFallback_chained events chained index policy isFallback) principal
      (fallbackContext context) context.world next
    simp only [granted, exists_and_left, exists_eq', and_true]
  · refine (serve_last_iff names business _ _ (List.Forall₂.cons
      (newAuthorization_describes names own service options (explicit.mpr unmarked)) others) fuel
      (by simpa using enough) context entered before).trans ?_
    rw [LetsThrough, Gate.passing, true_and, letsThrough_iff service _ _ (AList.lookup_insert _),
      EnforcedMeaning, user_set_service, Enforced, if_neg (by simpa using unmarked), present]
    simp only [Option.some.injEq, exists_eq_left']
    rw [or_iff_right_of_imp (allAllowed_of_no_policy service _ principal _ _ _),
      ← allAllowed_iff_permitted (lastPARC index events) service serviceOf.constructed _
        (lastPolicy_chained events chained (refersTo index events)),
      funext serviceOf.policies]
    rfl

variable [Authn.RegisteredClaims] (calls : List (Authn.AuthenticationCall World))
  (requestOf : HttpContext World → Versioning.Request) (context : HttpContext World)

/-- The one credential of a request is validated with a principal. -/
def CredentialValid (principal : Authn.Principal) (world : World) : Prop :=
  (∃ rawKey, Authn.carried calls requestOf context = .ok ⟨.apiKey, rawKey⟩ ∧
      ∃ validate, Authn.lastOf Authn.AuthenticationCall.apiKey calls none = some validate ∧
        validate context.now rawKey context.world = (.ok (some principal), world)) ∨
    ∃ token, Authn.carried calls requestOf context = .ok ⟨.bearer, token⟩ ∧
      Authn.BearerValid calls context token principal world

/-- The context that the middleware leaves for the handlers behind it. -/
def principalContext (principal : Authn.Principal) (world : World) : HttpContext World :=
  Authn.withPrincipal (Authn.chosen calls).options { context with world } (some principal)

omit [BundleCodec] in
/-- Behind the middleware the last handler runs exactly when the credential is valid and the
handlers let the request with its principal through. -/
theorem behind_authentication_iff (plain : Authn.PlainMiddleware calls) (own : String)
    (nonnil : ∀ left, (Authn.compositeOf calls).authenticate requestOf context ≠ (.ok none, left))
    (after : List (Handler (HttpContext World))) (some : after ≠ []) :
    BusinessRuns (handle (Authn.authenticationHandler own
        ((Authn.compositeOf calls).authenticator requestOf) (Authn.chosen calls).options :: after)
        context) ↔
      ∃ principal world, CredentialValid calls requestOf context principal world ∧
        LastEntered (serve (own :: after.map Handler.name) after.length
          ⟨principalContext calls context principal world, after,
            [(after.length, context)]⟩).entered := by
  have same := Authn.outcome_untransformed ((Authn.compositeOf calls).authenticate requestOf)
    (Authn.chosen calls).options context plain.untransformed
  have valid := Authn.authenticate_eq_some_iff calls requestOf context
  rcases outcome : (Authn.compositeOf calls).authenticate requestOf context with ⟨result, left⟩
  rw [outcome] at same
  cases result with
  | error error =>
    refine iff_of_false ?_ ?_
    · rintro ⟨reached, entered⟩
      rw [Authn.entered_failed own _ (Authn.chosen calls).options context left _ _ false rfl error
        same (plain.quiet error left), List.mem_singleton] at entered
      exact some (List.eq_nil_of_length_eq_zero (congrArg Prod.fst entered).symm)
    · rintro ⟨principal, world, isValid, _⟩
      cases outcome.symm.trans ((valid principal _).mpr ⟨world, rfl, isValid⟩)
  | ok principal =>
    cases principal with
    | none => exact absurd outcome (nonnil left)
    | some principal =>
      obtain ⟨world, rfl, isValid⟩ := (valid principal left).mp outcome
      rw [Authn.handle_authenticated own _ _ context _ _ _ rfl _ same]
      refine ⟨fun reached => ⟨principal, world, isValid, reached⟩, ?_⟩
      rintro ⟨other, otherWorld, otherValid, reached⟩
      have equal := outcome.symm.trans ((valid other _).mpr ⟨otherWorld, rfl, otherValid⟩)
      obtain ⟨rfl, rfl⟩ : principal = other ∧ world = otherWorld := by simpa using equal
      exact reached

omit [CaseMapping] [BundleCodec] [Authn.RegisteredClaims] in
theorem hasExplicitAuth_endpoint_iff (first : String) (service : PolicyEngine World) (own : String)
    (options : List (MiddlewareOption World)) (placed : List PlacedMark)
    (business : Handler (HttpContext World))
    (unmarked : ∀ name ∈ [first, own, business.name], looksAnnotated name = false) :
    hasExplicitAuth (first :: (endpoint own service options placed business).map Handler.name) =
      true ↔ placed ≠ [] := by
  constructor
  · rintro explicit rfl
    obtain ⟨name, member, looks⟩ := List.any_eq_true.mp explicit
    rw [unmarked name (by simpa [endpoint, newAuthorization] using member)] at looks
    cases looks
  · intro annotated
    have explicit := endpoint_hasExplicitAuth own service options placed annotated business
    rw [hasExplicitAuth] at explicit ⊢
    rw [List.any_cons, explicit, Bool.or_true]

end Requests

end Setups

/-- Two builders share an options object; the policy is added through the second one, and the first
has a handler of permissions. -/
def sharedSetup : List (SetupEvent Unit) :=
  [.call 0 (.withOptions (some 7)), .call 1 (.withOptions (some 7)),
    .call 0 (.withHandler (some (.parc (oneRuleHandler ⟨"read", "document", "*", "", .permit⟩)))),
    .call 1 (.addPolicy "Readers" (buildChain "draft"
      [.requireScope ["documents:read"], .requirePARC "read" "document"]))]

/-- The policy has the name that it was added under. -/
theorem sharedSetup_built :
    ∃ service, @Setup.build Unit (Setup.after sharedSetup) asciiCase jsonCodec 0
        (builtOptions sharedSetup 0).policies.entries = .ok service ∧
      service.policies.lookup "Readers" = some (buildChain "Readers"
        [.requireScope ["documents:read"], .requirePARC "read" "document"]) := by
  rcases @build_of_history Unit asciiCase jsonCodec sharedSetup 0 _ (List.Perm.refl _) with
    ⟨error, failed, _⟩ | ⟨_, service, built, of⟩
  · cases failed
  · exact ⟨service, built, (@ServiceOf.policies _ asciiCase jsonCodec _ _ _ of "Readers").trans rfl⟩

/-- Every bearer token stands for one user. -/
def signedInCalls : List (Authn.AuthenticationCall Unit) :=
  [.withBearerValidator (some fun _ _ world => (.ok (some signedIn), world))]

def readersMark : PlacedMark := ⟨.authorize "Readers", "authz.Authorize.func1", rfl⟩

def anonymousMark : PlacedMark := ⟨.allowAnonymous, "authz.AllowAnonymous.func1", rfl⟩

theorem sharedSetup_chained : ChainedPolicies sharedSetup := by
  intro event isEvent policy isPolicy
  simp only [sharedSetup, List.mem_cons, List.not_mem_nil, or_false] at isEvent
  rcases isEvent with rfl | rfl | rfl | rfl
  · cases isPolicy
  · cases isPolicy
  · cases isPolicy
  · obtain rfl := List.mem_singleton.mp isPolicy
    exact ⟨[.requireScope ["documents:read"], .requirePARC "read" "document"], rfl⟩

theorem signedInCalls_nonnil (requestOf : HttpContext Unit → Versioning.Request)
    (context left : HttpContext Unit) :
    @Authn.CompositeAuthenticator.authenticate Unit asciiCase
      (@Authn.compositeOf Unit asciiCase Authn.noRegisteredClaims signedInCalls) requestOf context ≠
      (.ok none, left) := by
  intro isNil
  unfold Authn.CompositeAuthenticator.authenticate at isNil
  split at isNil
  · simp at isNil
  · simp [Authn.validatedBy, Authn.compositeOf, Authn.lastOf, signedInCalls,
      Authn.AuthenticationCall.bearer] at isNil
  · simp [Authn.validatedBy, Authn.compositeOf, Authn.lastOf, signedInCalls,
      Authn.AuthenticationCall.apiKey] at isNil

end SharedGo.Authz
