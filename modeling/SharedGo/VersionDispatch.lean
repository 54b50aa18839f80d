/-
This file runs the versioning middleware inside an engine. The engine finds the chain
of a request by its path: the handlers in front of the middleware, the middleware and
the handlers of the route, or those for a path without a route. The middleware has a
request whose path lacks the version dispatched again, inside the chain of the first
dispatch, which it then drops.

The engine goes through the paths of the passes, one dispatch for each. The handlers
in front of the middleware are entered once in every dispatch, so up to three times
for one request; the handlers of a route are entered in the last dispatch only, and
exactly when the passes let the request through to the route.
-/

import SharedGo.NestedDispatch
import SharedGo.VersionIsolation

namespace SharedGo.Versioning

open SharedGo Text Dispatch

/-! ### The engine -/

/-- The context of a request: the responses, what handlers share, and how many passes of the
middleware there were, which tells the map orders of the next one. -/
structure EngineContext (Shared : Type) where
  request : Request
  headers : List (String × String)
  problems : List Problem
  shared : Shared
  passes : Nat

/-- The handlers of an engine. -/
inductive HandlerTag where
  | front (index : Nat)
  | versioning
  | group (route : Route) (index : Nat)
  | business (route : Route)
  | noRoute (index : Nat)
  deriving DecidableEq, Repr

/-- The code of a handler, for every context. -/
abbrev HandlerCode (Shared : Type) := EngineContext Shared → Code (EngineContext Shared)

/-- What an engine is configured with. -/
structure VersionedEngine (Shared : Type) where
  service : Service
  router : Router
  application : Application
  front : List (HandlerCode Shared)
  group : Route → List (HandlerCode Shared)
  business : Route → HandlerCode Shared
  noRoute : List (HandlerCode Shared)
  unshared : Shared
  restore : State HandlerTag (EngineContext Shared) → State HandlerTag (EngineContext Shared) →
    List (Handler HandlerTag (EngineContext Shared))

section Engines

variable [CaseMapping] {Shared : Type}

/-- The middleware, as a handler. -/
def versioningHandler (service : Service) : Handler HandlerTag (EngineContext Shared) where
  tag := .versioning
  body context :=
    let result := pass service.config (service.consultation context.passes) context.request
    .act (fun context => { context with
      headers := context.headers ++ result.headers, passes := context.passes + 1 }) fun _ =>
      match result.outcome with
      | .next => .next fun _ => .done
      | .problem problem =>
        .act (fun context => { context with problems := context.problems ++ [problem] }) fun _ =>
          .abort fun _ => .done
      | .redispatch path =>
        .act (fun context => { context with request := { context.request with path } }) fun _ =>
          .redispatch fun _ => .abort fun _ => .next fun _ => .done

namespace VersionedEngine

variable (engine : VersionedEngine Shared)

/-- The handlers behind the middleware: those of the route, or those for a path without one. -/
def behind (request : Request) : List (Handler HandlerTag (EngineContext Shared)) :=
  match engine.router.find engine.application.routes request.method request.path with
  | some route =>
    (engine.group route).mapIdx (fun index code => ⟨.group route index, code⟩) ++
      [⟨.business route, engine.business route⟩]
  | none => engine.noRoute.mapIdx fun index code => ⟨.noRoute index, code⟩

def frontHandlers : List (Handler HandlerTag (EngineContext Shared)) :=
  engine.front.mapIdx fun index code => ⟨.front index, code⟩

def toEngine : Engine HandlerTag (EngineContext Shared) where
  chain context :=
    engine.frontHandlers ++ versioningHandler engine.service :: engine.behind context.request
  reset context := { context with shared := engine.unshared }
  restore := engine.restore

end VersionedEngine

/-! ### One dispatch -/

/-- What the passes depend on. -/
def passKey (context : EngineContext Shared) : Request × Nat := (context.request, context.passes)

/-- All handlers but the middleware let every request flow. -/
structure VersionedEngine.LetsFlow (engine : VersionedEngine Shared) : Prop where
  front : ∀ code ∈ engine.front, ∀ context, (code context).Flows passKey
  group : ∀ route, ∀ code ∈ engine.group route, ∀ context, (code context).Flows passKey
  business : ∀ route context, (engine.business route context).Flows passKey
  noRoute : ∀ code ∈ engine.noRoute, ∀ context, (code context).Flows passKey

omit [CaseMapping] in
theorem flows_mapIdx (codes : List (HandlerCode Shared)) (tagOf : Nat → HandlerTag)
    (flows : ∀ code ∈ codes, ∀ context, (code context).Flows passKey) :
    ∀ handler ∈ codes.mapIdx (fun index code => (⟨tagOf index, code⟩ : Handler _ _)),
      ∀ context, (handler.body context).Flows passKey := by
  intro handler member context
  obtain ⟨index, inside, rfl⟩ := List.mem_mapIdx.mp member
  exact flows _ (List.getElem_mem inside) context

omit [CaseMapping] in
theorem behind_flows (engine : VersionedEngine Shared) (flows : engine.LetsFlow)
    (request : Request) :
    ∀ handler ∈ engine.behind request, ∀ context, (handler.body context).Flows passKey := by
  unfold VersionedEngine.behind
  split
  · intro handler member
    rcases List.mem_append.mp member with inGroup | isBusiness
    · exact flows_mapIdx _ _ (flows.group _) handler inGroup
    · obtain rfl := List.mem_singleton.mp isBusiness
      exact flows.business _
  · exact flows_mapIdx _ _ flows.noRoute

section Redispatching

variable (redispatch : State HandlerTag (EngineContext Shared) →
  State HandlerTag (EngineContext Shared)) (service : Service)
  (behind : List (Handler HandlerTag (EngineContext Shared))) (request : Request) (count : Nat)
  (log : List (HandlerTag × (Request × Nat)))

/-- A pass that lets the request through. -/
theorem enters_next
    (passes : (pass service.config (service.consultation count) request).outcome = .next)
    (enters : Enters redispatch passKey behind (request, count + 1) log) :
    Enters redispatch passKey (versioningHandler service :: behind) (request, count)
      ((.versioning, (request, count)) :: log) := by
  refine enters_cons _ fun fuel enough context entered isCurrent => ?_
  obtain ⟨rfl, rfl⟩ : context.request = request ∧ context.passes = count := Prod.mk.inj isCurrent
  simp only [versioningHandler, passes, Code.run]
  have ended := enters fuel enough { context with
    headers := context.headers ++
      (pass service.config (service.consultation context.passes) context.request).headers,
    passes := context.passes + 1 } entered rfl
  rwa [serve_of_ended redispatch fuel _ ended.pending]

/-- A pass that answers with a problem. -/
theorem enters_problem (problem : Problem)
    (refused : (pass service.config (service.consultation count) request).outcome =
      .problem problem) :
    Enters redispatch passKey (versioningHandler service :: behind) (request, count)
      [(.versioning, (request, count))] := by
  refine enters_cons _ fun fuel enough context entered isCurrent => ?_
  obtain ⟨rfl, rfl⟩ : context.request = request ∧ context.passes = count := Prod.mk.inj isCurrent
  simp only [versioningHandler, refused, Code.run]
  rw [serve_of_ended redispatch fuel _ rfl]
  exact ⟨(List.append_nil _).symm, rfl⟩

/-- A pass that has the request dispatched again, and drops what is pending then. -/
theorem enters_redispatch (path : String)
    (again : (pass service.config (service.consultation count) request).outcome =
      .redispatch path)
    (dispatched : ∀ context pending entered,
      passKey context = ({ request with path }, count + 1) →
        logOf passKey (redispatch ⟨context, pending, entered⟩).entered =
          logOf passKey entered ++ log) :
    Enters redispatch passKey (versioningHandler service :: behind) (request, count)
      ((.versioning, (request, count)) :: log) := by
  refine enters_cons _ fun fuel enough context entered isCurrent => ?_
  obtain ⟨rfl, rfl⟩ : context.request = request ∧ context.passes = count := Prod.mk.inj isCurrent
  have stops (left : EngineContext Shared) (reached : List (HandlerTag × EngineContext Shared)) :
      serve redispatch fuel ⟨left, [], reached⟩ = ⟨left, [], reached⟩ :=
    serve_of_ended redispatch fuel _ rfl
  simp only [versioningHandler, again, Code.run]
  rw [stops, stops]
  exact ⟨dispatched _ behind entered rfl, rfl⟩

end Redispatching

/-! ### Whole requests -/

section Whole

variable (engine : VersionedEngine Shared) (request : Request)

/-- The handlers in front of the middleware and the middleware itself, in one dispatch. -/
def VersionedEngine.frontLog (path : String) : List (HandlerTag × String) :=
  engine.frontHandlers.map (fun handler => (handler.tag, path)) ++ [(.versioning, path)]

def VersionedEngine.behindLog (path : String) : List (HandlerTag × String) :=
  (engine.behind { request with path }).map fun handler => (handler.tag, path)

/-- The handlers that are entered from a pass on. -/
def VersionedEngine.trace : Nat → Nat → String → List (HandlerTag × String)
  | 0, _, _ => []
  | depth + 1, count, path =>
    engine.frontLog path ++
      match engine.service.outcome request count path with
      | .next => engine.behindLog request path
      | .problem _ => []
      | .redispatch next => VersionedEngine.trace depth (count + 1) next

/-- The log with the paths of the requests. -/
def pathsOf (log : List (HandlerTag × (Request × Nat))) : List (HandlerTag × String) :=
  log.map fun entry => (entry.1, entry.2.1.path)

theorem dispatch_trace (flows : engine.LetsFlow) (depth count : Nat) (path : String) :
    ∃ log, pathsOf log = engine.trace request depth count path ∧
      ∀ context pending entered, passKey context = ({ request with path }, count) →
        logOf passKey (engine.toEngine.dispatch depth ⟨context, pending, entered⟩).entered =
          logOf passKey entered ++ log := by
  induction depth generalizing count path with
  | zero => exact ⟨[], rfl, fun _ _ _ _ => (List.append_nil _).symm⟩
  | succ depth inductionHypothesis =>
    let suspended := engine.toEngine.suspend (engine.toEngine.dispatch depth)
    have whole (log : List (HandlerTag × (Request × Nat)))
        (enters : Enters suspended passKey
          (versioningHandler engine.service :: engine.behind { request with path })
          ({ request with path }, count) ((.versioning, ({ request with path }, count)) :: log))
        (same : pathsOf log =
          match engine.service.outcome request count path with
          | .next => engine.behindLog request path
          | .problem _ => []
          | .redispatch next => engine.trace request depth (count + 1) next) :
        ∃ log, pathsOf log = engine.trace request (depth + 1) count path ∧
          ∀ context pending entered, passKey context = ({ request with path }, count) →
            logOf passKey
                (engine.toEngine.dispatch (depth + 1) ⟨context, pending, entered⟩).entered =
              logOf passKey entered ++ log := by
      have all := enters_front enters engine.frontHandlers (flows_mapIdx _ _ flows.front)
      refine ⟨engine.frontHandlers.map (fun handler =>
          (handler.tag, (({ request with path }, count) : Request × Nat))) ++
        (.versioning, ({ request with path }, count)) :: log, ?_,
        fun context pending entered isCurrent => ?_⟩
      · rw [VersionedEngine.trace, ← same]
        simp [pathsOf, VersionedEngine.frontLog]
      · obtain ⟨isRequest, isCount⟩ := Prod.mk.inj isCurrent
        have ended := all (engine.toEngine.chain context).length
          (by simp [VersionedEngine.toEngine, isRequest]) context entered isCurrent
        rw [← isRequest] at ended ⊢
        exact ended.log
    cases outcome : engine.service.outcome request count path with
    | next =>
      have enters := enters_front (enters_nil suspended passKey ({ request with path }, count + 1))
        (engine.behind { request with path }) (behind_flows engine flows _)
      rw [List.append_nil, List.append_nil] at enters
      refine whole _ (enters_next suspended engine.service _ _ count _ outcome enters) ?_
      rw [outcome]
      simp [pathsOf, VersionedEngine.behindLog]
    | problem problem =>
      refine whole [] (enters_problem suspended engine.service _ _ count problem outcome) ?_
      rw [outcome]
      rfl
    | redispatch next =>
      obtain ⟨log, same, dispatched⟩ := inductionHypothesis (count + 1) next
      refine whole log (enters_redispatch suspended engine.service _ _ count log next outcome ?_) ?_
      · intro context pending entered isCurrent
        exact dispatched { context with shared := engine.unshared } pending entered isCurrent
      · rw [outcome]
        exact same

/-- The last pass of a request. -/
structure LastPass (service : Service) (last : Nat) (path : String) : Prop where
  reached : service.rewrites request last = some path
  ended : service.rewrites request (last + 1) = none

theorem exists_lastPass (service : Service) (ends : DispatchEnds service.config request) :
    ∃ last path, last ≤ 2 ∧ LastPass request service last path := by
  have third := rewrites_end service request ends
  cases second : service.rewrites request 2 with
  | some path => exact ⟨2, path, le_rfl, second, third⟩
  | none =>
    cases first : service.rewrites request 1 with
    | some path => exact ⟨1, path, by omega, first, second⟩
    | none => exact ⟨0, request.path, by omega, rfl, first⟩

variable {request}

/-- A pass that does not dispatch again is the last one. -/
theorem LastPass.eq_of_ended {service : Service} {last : Nat} {path : String}
    (isLast : LastPass request service last path) (count : Nat) (reached : String)
    (current : service.rewrites request count = some reached)
    (ended : ∀ next, service.outcome request count reached ≠ .redispatch next) :
    count = last ∧ reached = path := by
  have stopped : service.rewrites request (count + 1) = none := by
    rw [Service.rewrites, current]
    cases outcome : service.outcome request count reached with
    | redispatch next => exact absurd outcome (ended next)
    | next => simp only [outcome]
    | problem problem => simp only [outcome]
  have before : count ≤ last := by
    by_contra later
    rw [rewrites_none_of_le service request (last + 1) count (by omega) isLast.ended] at current
    cases current
  have after : last ≤ count := by
    by_contra later
    have none := rewrites_none_of_le service request (count + 1) last (by omega) stopped
    rw [isLast.reached] at none
    cases none
  obtain rfl : count = last := by omega
  exact ⟨rfl, Option.some_inj.mp (current.symm.trans isLast.reached)⟩

variable (request)

/-- The trace goes through the paths of the passes. -/
theorem trace_rewrites (last : Nat) (lastPath : String)
    (isLast : LastPass request engine.service last lastPath) (depth count : Nat) (path : String)
    (current : engine.service.rewrites request count = some path) (deep : last < count + depth) :
    engine.trace request depth count path =
      ((List.range' count (last + 1 - count)).flatMap fun index =>
          engine.frontLog ((engine.service.rewrites request index).getD "")) ++
        if engine.service.outcome request last lastPath = .next then
          engine.behindLog request lastPath
        else [] := by
  induction depth generalizing count path with
  | zero =>
    rw [rewrites_none_of_le engine.service request (last + 1) count (by omega) isLast.ended]
      at current
    cases current
  | succ depth inductionHypothesis =>
    rw [VersionedEngine.trace]
    by_cases again : ∃ next, engine.service.outcome request count path = .redispatch next
    · obtain ⟨next, again⟩ := again
      have rewritten : engine.service.rewrites request (count + 1) = some next := by
        rw [Service.rewrites, current]
        simp only [again]
      have before : count < last := by
        by_contra later
        rw [rewrites_none_of_le engine.service request (last + 1) (count + 1) (by omega)
          isLast.ended] at rewritten
        cases rewritten
      have length : last + 1 - count = last + 1 - (count + 1) + 1 := by omega
      rw [again, length, List.range'_succ, List.flatMap_cons, current, List.append_assoc]
      exact congrArg _ (inductionHypothesis (count + 1) next rewritten (by omega))
    · push Not at again
      obtain ⟨rfl, rfl⟩ := isLast.eq_of_ended count path current again
      have length : count + 1 - count = 1 := by omega
      rw [length, List.range'_one, List.flatMap_singleton, current]
      cases outcome : engine.service.outcome request count path with
      | next => rfl
      | problem problem => rfl
      | redispatch next => exact absurd outcome (again next)

omit [CaseMapping] in
theorem business_mem_behindLog_iff (path : String) (route : Route) :
    .business route ∈ (engine.behindLog request path).map Prod.fst ↔
      engine.router.find engine.application.routes request.method path = some route := by
  unfold VersionedEngine.behindLog VersionedEngine.behind
  cases found : engine.router.find engine.application.routes request.method path with
  | none => simp
  | some other => simp [eq_comm]

omit [CaseMapping] in
theorem business_not_mem_frontLog (path : String) (route : Route) :
    .business route ∉ (engine.frontLog path).map Prod.fst := by
  simp [VersionedEngine.frontLog, VersionedEngine.frontHandlers]

/-- The engine refines the passes: it dispatches a request once for each of them, with the handlers
in front of the middleware each time, and enters the handlers behind it at most once, on the path of
the last pass. The handler of a route is entered exactly when the passes say that it runs. -/
theorem dispatch_refines_rewrites (flows : engine.LetsFlow)
    (ends : DispatchEnds engine.service.config request) (depth : Nat) (deep : 3 ≤ depth)
    (context : EngineContext Shared) (current : passKey context = (request, 0)) :
    let log := (engine.toEngine.dispatch depth ⟨context, [], []⟩).entered.map fun entry =>
      (entry.1, entry.2.request.path)
    (∃ last path, last ≤ 2 ∧ LastPass request engine.service last path ∧
      log = ((List.range (last + 1)).flatMap fun index =>
          engine.frontLog ((engine.service.rewrites request index).getD "")) ++
        if engine.service.outcome request last path = .next then engine.behindLog request path
        else []) ∧
      ∀ route, .business route ∈ log.map Prod.fst ↔
        HandlerRuns engine.router engine.application engine.service request route := by
  intro log
  obtain ⟨last, path, few, isLast⟩ := exists_lastPass request engine.service ends
  obtain ⟨keyed, isTrace, dispatched⟩ := dispatch_trace engine request flows depth 0 request.path
  have isLog : log = engine.trace request depth 0 request.path := by
    rw [← isTrace]
    have same : logOf passKey _ = keyed := dispatched context [] [] current
    rw [← same]
    simp [log, logOf, pathsOf, passKey]
  have split := isLog.trans (trace_rewrites engine request last path isLast depth 0 request.path
    rfl (by omega))
  rw [← List.range_eq_range', Nat.sub_zero] at split
  refine ⟨⟨last, path, few, isLast, split⟩, fun route => ?_⟩
  rw [split, List.map_append, List.mem_append, or_iff_right]
  · constructor
    · intro member
      split_ifs at member with passes
      · exact ⟨last, path, isLast.reached, passes,
          (business_mem_behindLog_iff engine request path route).mp member⟩
      · cases member
    · rintro ⟨count, reached, rewritten, passes, found⟩
      obtain ⟨rfl, rfl⟩ := isLast.eq_of_ended count reached rewritten
        (fun next => by rw [passes]; simp)
      rw [if_pos passes]
      exact (business_mem_behindLog_iff engine request reached route).mpr found
  · intro member
    obtain ⟨entry, isEntry, same⟩ := List.mem_map.mp member
    obtain ⟨index, _, inFront⟩ := List.mem_flatMap.mp isEntry
    exact business_not_mem_frontLog engine _ route (List.mem_map.mpr ⟨entry, inFront, same⟩)

end Whole

end Engines

/-- An engine with the resource in two versions, behind a handler that counts requests. -/
def resourceEngine : VersionedEngine Nat where
  service := resourceService
  router := firstRouter
  application := @Application.build asciiCase resourceCalls
  front := [fun _ => .act (fun context => { context with shared := context.shared + 1 }) fun _ =>
    .next fun _ => .done]
  group _ := []
  business _ _ := .done
  noRoute := []
  unshared := 0
  restore before _ := before.pending

theorem resourceEngine_flows : resourceEngine.LetsFlow where
  front code member context := by
    obtain rfl := List.mem_singleton.mp member
    exact ⟨fun _ => rfl, fun _ _ => trivial⟩
  group _ _ member := by cases member
  business _ _ := trivial
  noRoute _ member := by cases member

/-- The handler in front is entered twice, and the handler of the resource once. -/
theorem resourceEngine_entered :
    ((@VersionedEngine.toEngine asciiCase Nat resourceEngine).dispatch 3
        ⟨⟨secondRequest "GET" "/api/resource", [], [], 0, 0⟩, [], []⟩).entered.map Prod.fst =
      [.front 0, .versioning, .front 0, .versioning, .business secondRoute] ∧
    @HandlerRuns asciiCase firstRouter (@Application.build asciiCase resourceCalls)
      resourceService (secondRequest "GET" "/api/resource") secondRoute := by
  have tags : ((@VersionedEngine.toEngine asciiCase Nat resourceEngine).dispatch 3
      ⟨⟨secondRequest "GET" "/api/resource", [], [], 0, 0⟩, [], []⟩).entered.map Prod.fst =
      [.front 0, .versioning, .front 0, .versioning, .business secondRoute] := by
    decide
  have ends : DispatchEnds resourceEngine.service.config (secondRequest "GET" "/api/resource") := by
    refine Or.inr fun version read _ => Or.inl ?_
    have isSecond : resourceEngine.service.config.effectiveVersion
        (secondRequest "GET" "/api/resource") = some "v2" := by
      decide
    obtain rfl := Option.some_inj.mp (isSecond.symm.trans read)
    decide
  refine ⟨tags, ((@dispatch_refines_rewrites asciiCase Nat resourceEngine
    (secondRequest "GET" "/api/resource") resourceEngine_flows ends 3 le_rfl
    ⟨secondRequest "GET" "/api/resource", [], [], 0, 0⟩ rfl).2 secondRoute).mp ?_⟩
  rw [List.map_map]
  refine (congrArg (.business secondRoute ∈ ·) tags).mpr ?_
  simp

end SharedGo.Versioning
