/-
This file proves that dispatch keeps versions apart. An application registers
its versioned routes through groups mounted at `/api/<label>`. A request may
come in with any path and any version, and may be dispatched several times. When
the reader does not look at the path, a handler of a group runs only for the
version the group is labelled with, and only when the registry did not reject
that version. The one exception is the `OPTIONS` method, which the middleware
lets through unread.
-/

import SharedGo.Redispatch

namespace SharedGo.Versioning

open SharedGo Text

/-! ### Registration -/

/-- A route of the application: the base path it is mounted under, and the label of the
versioned group it was registered through, if any. -/
structure Route where
  method : String
  basePath : String
  relativePath : String
  label : Option String
  deriving DecidableEq, Repr

/-- Whether a path is `/api` or below it. -/
def underApi (path : String) : Bool := path = "/api" || hasPrefix path "/api/"

/-- A route registered outside every versioned group, and so not below `/api`. -/
structure PlainRoute where
  method : String
  basePath : String
  relativePath : String
  outside : underApi basePath = false

/-- A versioned group, mounted at the segment it is labelled with. -/
structure VersionedGroup where
  version : String
  segment : IsSegment version

def VersionedGroup.basePath (group : VersionedGroup) : String := "/api/" ++ group.version

/-- The routes and the registry of an application under construction. -/
structure Application where
  routes : List Route
  registry : RouteVersionRegistry

def Application.empty : Application := ⟨[], .empty⟩

/-- The router group's own registration, which a versioned group has for every method. -/
def VersionedGroup.handle (group : VersionedGroup) (method relativePath : String)
    (application : Application) : Application :=
  { application with
    routes := application.routes ++
      [⟨method, group.basePath, relativePath, some group.version⟩] }

section Registration

variable [CaseMapping]

/-- A registration that is also recorded in the registry. -/
def VersionedGroup.record (group : VersionedGroup) (method relativePath : String)
    (application : Application) : Application :=
  group.handle method relativePath
    { application with
      registry := application.registry.register method relativePath group.version }

def VersionedGroup.post (group : VersionedGroup) := group.record "POST"

def VersionedGroup.get (group : VersionedGroup) := group.record "GET"

def VersionedGroup.put (group : VersionedGroup) := group.record "PUT"

def VersionedGroup.delete (group : VersionedGroup) := group.record "DELETE"

def VersionedGroup.patch (group : VersionedGroup) := group.record "PATCH"

/-- The calls that register routes. -/
inductive RouteCall where
  | post (group : VersionedGroup) (relativePath : String)
  | get (group : VersionedGroup) (relativePath : String)
  | put (group : VersionedGroup) (relativePath : String)
  | delete (group : VersionedGroup) (relativePath : String)
  | patch (group : VersionedGroup) (relativePath : String)
  | handle (group : VersionedGroup) (method relativePath : String)
  | plain (route : PlainRoute)

def Application.call (application : Application) : RouteCall → Application
  | .post group relativePath => group.post relativePath application
  | .get group relativePath => group.get relativePath application
  | .put group relativePath => group.put relativePath application
  | .delete group relativePath => group.delete relativePath application
  | .patch group relativePath => group.patch relativePath application
  | .handle group method relativePath => group.handle method relativePath application
  | .plain route =>
    { application with
      routes := application.routes ++
        [⟨route.method, route.basePath, route.relativePath, none⟩] }

/-- The application after a sequence of calls. -/
def Application.build (calls : List RouteCall) : Application :=
  calls.foldl Application.call .empty

end Registration

/-- A route below `/api` is mounted at the segment that is its label. -/
def Labelled (route : Route) : Prop :=
  underApi route.basePath = true →
    ∃ label, route.label = some label ∧ IsSegment label ∧ route.basePath = "/api/" ++ label

theorem handle_labelled (group : VersionedGroup) (method relativePath : String)
    (application : Application) (labelled : ∀ route ∈ application.routes, Labelled route) :
    ∀ route ∈ (group.handle method relativePath application).routes, Labelled route := by
  intro route member
  rcases List.mem_append.mp member with earlier | added
  · exact labelled route earlier
  · obtain rfl := List.mem_singleton.mp added
    exact fun _ => ⟨group.version, rfl, group.segment, rfl⟩

theorem call_labelled [CaseMapping] (application : Application) (call : RouteCall)
    (labelled : ∀ route ∈ application.routes, Labelled route) :
    ∀ route ∈ (application.call call).routes, Labelled route := by
  cases call with
  | post group relativePath => exact handle_labelled group _ _ _ labelled
  | get group relativePath => exact handle_labelled group _ _ _ labelled
  | put group relativePath => exact handle_labelled group _ _ _ labelled
  | delete group relativePath => exact handle_labelled group _ _ _ labelled
  | patch group relativePath => exact handle_labelled group _ _ _ labelled
  | handle group method relativePath => exact handle_labelled group _ _ _ labelled
  | plain plainRoute =>
    intro route member
    rcases List.mem_append.mp member with earlier | added
    · exact labelled route earlier
    · obtain rfl := List.mem_singleton.mp added
      intro under
      rw [plainRoute.outside] at under
      cases under

/-- Every application built by calls has its routes below `/api` labelled. -/
theorem build_labelled [CaseMapping] (calls : List RouteCall) :
    ∀ route ∈ (Application.build calls).routes, Labelled route := by
  have run (application : Application)
      (labelled : ∀ route ∈ application.routes, Labelled route) :
      ∀ route ∈ (calls.foldl Application.call application).routes, Labelled route := by
    induction calls generalizing application with
    | nil => exact labelled
    | cons call rest inductionHypothesis =>
      exact inductionHypothesis _ (call_labelled application call labelled)
  exact run .empty fun route member => absurd member List.not_mem_nil

/-! ### Readers that do not look at the path -/

/-- A strategy without the URL segment in it: a header, a query string, or a composite of
such strategies. -/
inductive VersionReadingStrategy.PathFree : VersionReadingStrategy → Prop
  | header (headerName : String) : PathFree (.header headerName)
  | queryString (paramName : String) : PathFree (.queryString paramName)
  | composite (strategies : List VersionReadingStrategy)
      (free : ∀ strategy ∈ strategies, PathFree strategy) : PathFree (.composite strategies)

theorem readFirst_congr (first second : Request) (strategies : List VersionReadingStrategy)
    (same : ∀ strategy ∈ strategies, strategy.readVersion first = strategy.readVersion second) :
    readFirst first strategies = readFirst second strategies := by
  induction strategies with
  | nil => rfl
  | cons strategy rest inductionHypothesis =>
    rw [readFirst, readFirst, same strategy List.mem_cons_self,
      inductionHypothesis fun other member => same other (List.mem_cons_of_mem _ member)]

/-- Such a strategy answers the same on every path. -/
theorem readVersion_pathFree (request : Request) (path : String)
    (strategy : VersionReadingStrategy) (free : strategy.PathFree) :
    strategy.readVersion { request with path } = strategy.readVersion request := by
  induction free with
  | header headerName => rfl
  | queryString paramName => rfl
  | composite strategies _ inductionHypothesis =>
    exact readFirst_congr _ _ strategies inductionHypothesis

/-! ### Routing -/

/-- What is assumed of the engine's routing: it picks a registered route of the request's
method whose base path the requested path is under. -/
structure Router where
  find : List Route → String → String → Option Route
  find_mem : ∀ routes method path route, find routes method path = some route → route ∈ routes
  find_method : ∀ routes method path route, find routes method path = some route →
    route.method = method
  find_under : ∀ routes method path route, find routes method path = some route →
    path = route.basePath ∨ ∃ rest, path = route.basePath ++ (String.singleton '/' ++ rest)

section Isolation

variable [CaseMapping]

/-- The handler of a route runs for a request: some pass lets the request through on a path
that the router takes to the route. -/
def HandlerRuns (router : Router) (application : Application) (service : Service)
    (request : Request) (route : Route) : Prop :=
  ∃ count path, service.rewrites request count = some path ∧
    service.outcome request count path = .next ∧
    router.find application.routes request.method path = some route

omit [CaseMapping] in
theorem effectiveVersion_pathFree (config : Config)
    (free : config.effectiveReader.PathFree) (request : Request) (path : String) :
    config.effectiveVersion { request with path } = config.effectiveVersion request :=
  congrArg config.orDefault (readVersion_pathFree request path config.effectiveReader free)

omit [CaseMapping] in
/-- The version carried by a path under a group's base path is the group's label. -/
theorem carried_eq_label (label path version : String) (segment : IsSegment label)
    (under : path = "/api/" ++ label ∨
      ∃ rest, path = "/api/" ++ label ++ (String.singleton '/' ++ rest))
    (carried : hasVersionPrefix path version = true) : version = label := by
  have labelCarried : hasVersionPrefix path label = true := by
    rcases under with rfl | ⟨rest, rfl⟩
    · simpa using hasVersionPrefix_api label "" segment (Or.inl rfl)
    · rw [String.append_assoc]
      exact hasVersionPrefix_api label _ segment (Or.inr ⟨rest, rfl⟩)
  rw [hasVersionPrefix_iff] at carried labelCarried
  exact Option.some_inj.mp (carried.symm.trans labelCarried)

/-- A versioned pass that lets the request through has read a version the path carries. -/
theorem pass_next (config : Config) (consultation : Option Consultation) (request : Request)
    (versioned : shouldVersionRoute request = true)
    (passed : (pass config consultation request).outcome = .next) :
    ∃ version, config.effectiveVersion request = some version ∧
      hasVersionPrefix request.path version = true := by
  rcases pass_cases config consultation request with
    ⟨unversioned, _⟩ | ⟨_, answered⟩ | ⟨version, _, read, _, _, last⟩
  · rw [versioned] at unversioned
    cases unversioned
  · rw [answered] at passed
    cases passed
  · rw [last] at passed
    unfold dispatchOutcome at passed
    split at passed
    · rename_i carried
      exact ⟨version, read, carried⟩
    · cases passed

/-- A versioned request whose first pass is rejected is not dispatched again, nor let
through. -/
theorem rewrites_of_rejects (service : Service) (request : Request) (version : String)
    (consultation : Consultation) (versioned : shouldVersionRoute request = true)
    (consulted : service.consultation 0 = some consultation)
    (read : service.config.effectiveVersion request = some version)
    (rejected : consultation.rejects request version = true) :
    service.outcome request 0 request.path ≠ .next ∧ service.rewrites request 1 = none := by
  have answered : ∃ problem, service.outcome request 0 request.path = .problem problem := by
    rcases pass_cases service.config (service.consultation 0) request with
      ⟨unversioned, _⟩ | answered | ⟨other, _, readOther, _, accepted, _⟩
    · rw [versioned] at unversioned
      cases unversioned
    · exact answered
    · obtain rfl := Option.some_inj.mp (readOther.symm.trans read)
      rw [accepted consultation consulted] at rejected
      cases rejected
  obtain ⟨problem, answered⟩ := answered
  simp [Service.rewrites, answered]

theorem rewrites_none_of_le (service : Service) (request : Request) (first count : Nat)
    (le : first ≤ count) (none : service.rewrites request first = none) :
    service.rewrites request count = Option.none := by
  induction le with
  | refl => exact none
  | step _ inductionHypothesis => simp [Service.rewrites, inductionHypothesis]

/-- When a handler runs for a versioned request, the registry did not reject the version. -/
theorem not_rejects_of_handlerRuns (router : Router) (application : Application)
    (service : Service) (request : Request) (route : Route)
    (runs : HandlerRuns router application service request route)
    (versioned : shouldVersionRoute request = true) (version : String)
    (read : service.config.effectiveVersion request = some version)
    (consultation : Consultation) (consulted : service.consultation 0 = some consultation) :
    consultation.rejects request version = false := by
  obtain ⟨count, path, current, passed, _⟩ := runs
  cases rejected : consultation.rejects request version with
  | false => rfl
  | true =>
    obtain ⟨stopped, none⟩ :=
      rewrites_of_rejects service request version consultation versioned consulted read rejected
    cases count with
    | zero =>
      obtain rfl := Option.some_inj.mp current
      exact absurd passed stopped
    | succ count =>
      rw [rewrites_none_of_le service request 1 (count + 1) (by omega) none] at current
      cases current

omit [CaseMapping] in
/-- Only a path below `/api` is under a group's base path. -/
theorem versioned_of_under (request : Request) (label path : String)
    (method : request.method ≠ "OPTIONS")
    (under : path = "/api/" ++ label ∨
      ∃ rest, path = "/api/" ++ label ++ (String.singleton '/' ++ rest)) :
    shouldVersionRoute { request with path } = true := by
  have start : "/api/" = "/api" ++ "/" := by decide
  refine (shouldVersionRoute_iff _).mpr ⟨method, ?_⟩
  rcases under with rfl | ⟨rest, rfl⟩
  · exact ⟨"/" ++ label, by rw [start, String.append_assoc]⟩
  · exact ⟨"/" ++ (label ++ (String.singleton '/' ++ rest)), by
      rw [start, String.append_assoc, String.append_assoc]⟩

/-- A request that is versioned in some pass is versioned in the first. -/
theorem versioned_of_rewrites (service : Service) (request : Request) (count : Nat)
    (path : String) (current : service.rewrites request count = some path)
    (versioned : shouldVersionRoute { request with path } = true) :
    shouldVersionRoute request = true := by
  induction count generalizing path with
  | zero =>
    obtain rfl := Option.some_inj.mp current
    exact versioned
  | succ count inductionHypothesis =>
    obtain ⟨earlier, passed, again⟩ := rewrites_succ service request count path current
    exact inductionHypothesis earlier passed (pass_redispatch _ _ _ _ again).1

/-- A handler below `/api` that is not registered for `OPTIONS` runs only for a versioned
request that is processed with the label of its group. -/
theorem label_of_handlerRuns (router : Router) (calls : List RouteCall) (service : Service)
    (free : service.config.effectiveReader.PathFree) (request : Request) (route : Route)
    (runs : HandlerRuns router (Application.build calls) service request route)
    (under : underApi route.basePath = true) (method : route.method ≠ "OPTIONS") :
    shouldVersionRoute request = true ∧
      ∃ label, route.label = some label ∧
        service.config.effectiveVersion request = some label := by
  obtain ⟨count, path, current, passed, found⟩ := runs
  obtain ⟨label, labelled, segment, base⟩ :=
    build_labelled calls route (router.find_mem _ _ _ _ found) under
  have below := router.find_under _ _ _ _ found
  rw [base] at below
  rw [router.find_method _ _ _ _ found] at method
  have versioned := versioned_of_under request label path method below
  obtain ⟨version, read, carried⟩ := pass_next _ _ _ versioned passed
  obtain rfl := carried_eq_label label path version segment below carried
  rw [effectiveVersion_pathFree _ free] at read
  exact ⟨versioned_of_rewrites service request count path current versioned,
    version, labelled, read⟩

/-- Version isolation. A handler below `/api` that runs is an `OPTIONS` handler or belongs to
the group whose label the request is processed with. When the registry rejects the version of
a versioned request, no handler runs. -/
theorem dispatch_isolated (router : Router) (calls : List RouteCall) (service : Service)
    (free : service.config.effectiveReader.PathFree) (request : Request) :
    (∀ route, HandlerRuns router (Application.build calls) service request route →
      underApi route.basePath = true → route.method ≠ "OPTIONS" →
        shouldVersionRoute request = true ∧
          ∃ label, route.label = some label ∧
            service.config.effectiveVersion request = some label) ∧
      ∀ version consultation, shouldVersionRoute request = true →
        service.config.effectiveVersion request = some version →
          service.consultation 0 = some consultation →
            consultation.rejects request version = true →
              ∀ route, ¬ HandlerRuns router (Application.build calls) service request route := by
  constructor
  · intro route runs under method
    exact label_of_handlerRuns router calls service free request route runs under method
  · intro version consultation versioned read consulted rejected route runs
    rw [not_rejects_of_handlerRuns router _ service request route runs versioned version read
      consultation consulted] at rejected
    cases rejected

end Isolation

/-! ### Two groups behind a router -/

/-- A router that takes the first route of the method whose base path the path is under. -/
def firstRouter : Router where
  find routes method path := routes.find? fun route =>
    route.method = method && hasPrefix path (route.basePath ++ String.singleton '/')
  find_mem _ _ _ _ found := List.mem_of_find?_eq_some found
  find_method _ _ _ _ found := by
    have fits := List.find?_some found
    simp only [Bool.and_eq_true, decide_eq_true_eq] at fits
    exact fits.1
  find_under _ _ _ _ found := by
    have fits := List.find?_some found
    simp only [Bool.and_eq_true] at fits
    obtain ⟨rest, path⟩ := (hasPrefix_iff _ _).mp fits.2
    exact Or.inr ⟨rest, by rw [path, String.append_assoc]⟩

def firstGroup : VersionedGroup := ⟨"v1", by decide⟩

def secondGroup : VersionedGroup := ⟨"v2", by decide⟩

/-- A resource in two versions, and an `OPTIONS` handler in the first. -/
def resourceCalls : List RouteCall :=
  [.get firstGroup "/resource", .get secondGroup "/resource", .get firstGroup "/report",
    .handle firstGroup "OPTIONS" "/resource"]

/-- The default configuration behind the registry that the calls fill. -/
def resourceService : Service where
  config := defaultConfig
  registry := some (@Application.build asciiCase resourceCalls).registry
  orders registry _ := listOrder registry

/-- A request for version `v2`. -/
def secondRequest (method path : String) : Request := ⟨method, path, [("X-Version", ["v2"])], []⟩

/-- The route of the resource in the second group. -/
def secondRoute : Route := ⟨"GET", "/api/v2", "/resource", some "v2"⟩

theorem secondRoute_runs :
    @HandlerRuns asciiCase firstRouter (@Application.build asciiCase resourceCalls)
      resourceService (secondRequest "GET" "/api/resource") secondRoute :=
  ⟨1, "/api/v2/resource", by decide, by decide, by decide⟩

theorem resourceService_isolated :
    (shouldVersionRoute (secondRequest "GET" "/api/resource") = true ∧
      ∃ label, secondRoute.label = some label ∧
        resourceService.config.effectiveVersion (secondRequest "GET" "/api/resource") =
          some label) ∧
      ∀ route, ¬ @HandlerRuns asciiCase firstRouter (@Application.build asciiCase resourceCalls)
        resourceService (secondRequest "GET" "/api/report") route :=
  ⟨(@dispatch_isolated asciiCase firstRouter resourceCalls resourceService (.header _)
      (secondRequest "GET" "/api/resource")).1 secondRoute secondRoute_runs (by decide) (by decide),
    (@dispatch_isolated asciiCase firstRouter resourceCalls resourceService (.header _)
      (secondRequest "GET" "/api/report")).2 "v2" _ (by decide) (by decide) rfl (by decide)⟩

/-- An `OPTIONS` handler of the first group runs for a request of the second version. -/
theorem options_not_isolated :
    ¬ ∀ route, @HandlerRuns asciiCase firstRouter (@Application.build asciiCase resourceCalls)
        resourceService (secondRequest "OPTIONS" "/api/v1/resource") route →
      underApi route.basePath = true →
        ∃ label, route.label = some label ∧ resourceService.config.effectiveVersion
          (secondRequest "OPTIONS" "/api/v1/resource") = some label := by
  intro isolated
  obtain ⟨label, labelled, read⟩ := isolated ⟨"OPTIONS", "/api/v1", "/resource", some "v1"⟩
    ⟨0, "/api/v1/resource", by decide, by decide, by decide⟩ (by decide)
  obtain rfl := Option.some_inj.mp labelled
  exact absurd read (by decide)

end SharedGo.Versioning
