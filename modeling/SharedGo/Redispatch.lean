/-
This file proves when the versioning middleware stops dispatching a request
again. Each pass that does not stop puts its version after `/api`, so the next
pass stops when it reads a version that is the path's second segment. A version
that is empty or holds a slash can never be a segment, and a reader that keeps
answering it rewrites the path forever; only the URL-segment strategy can change
its answer, and what it finds is a segment. Without a registry the chain of
rewrites is therefore finite exactly when the version is a segment, or the reader
gets to the URL segment and the rewritten path starts with one that looks like a
version. A registry can only end the chain earlier.
-/

import SharedGo.VersionMiddleware

namespace SharedGo.Versioning

open SharedGo Text

/-! ### Paths under `/api` -/

/-- A text that can be one segment of a path. -/
def IsSegment (text : String) : Prop := text ≠ "" ∧ '/' ∉ text.toList

instance (text : String) : Decidable (IsSegment text) :=
  inferInstanceAs (Decidable (text ≠ "" ∧ '/' ∉ text.toList))

/-- The rest of the path comes after the version, whatever it holds. -/
theorem rewritePath_api (rest version : String) :
    rewritePath ("/api" ++ rest) version = "/api/" ++ version ++ rest := by
  have cut : splitAfterGo "/api".toList [] ("/api" ++ rest).toList =
      "/api".toList :: splitAfterGo "/api".toList [] rest.toList := by
    have chars : ("/api" ++ rest).toList = '/' :: 'a' :: 'p' :: 'i' :: rest.toList := by simp
    rw [chars]
    rfl
  have tail : join "" ((splitAfterGo "/api".toList [] rest.toList).map String.ofList) = rest := by
    rw [← String.toList_inj, toList_join_empty, List.map_map]
    simp [Function.comp_def, flatten_splitAfterGo]
  simp only [rewritePath, splitAfter, cut, List.map_cons, List.tail_cons, tail]

theorem fields_api (rest : String) : fields ("/api/" ++ rest) '/' = "api" :: fields rest '/' := by
  have split : "/api/" ++ rest =
      "" ++ String.singleton '/' ++ ("api" ++ String.singleton '/' ++ rest) := by
    rw [← String.toList_inj]
    simp
  rw [split, fields_append, fields_append, fields_nil,
    fields_of_not_mem "api" '/' (by decide) (by decide)]
  rfl

theorem hasVersionPrefix_iff (path version : String) :
    hasVersionPrefix path version = true ↔ (fields path '/')[1]? = some version := by
  simp only [hasVersionPrefix, List.any_eq_true, decide_eq_true_eq, Prod.exists]
  constructor
  · rintro ⟨segment, index, member, rfl, rfl⟩
    simpa using List.mem_zipIdx_iff_getElem?.mp member
  · intro second
    exact ⟨version, 1, List.mem_zipIdx_iff_getElem?.mpr (by simpa using second), rfl, rfl⟩

/-- Only a segment can be the version a path carries. -/
theorem isSegment_of_hasVersionPrefix (path version : String)
    (carried : hasVersionPrefix path version = true) : IsSegment version := by
  rw [hasVersionPrefix_iff] at carried
  exact mem_fields path version '/' (List.mem_of_getElem? carried)

/-- A path whose first segment after `/api` is a segment carries it. -/
theorem hasVersionPrefix_api (version rest : String) (segment : IsSegment version)
    (cut : rest = "" ∨ ∃ tail, rest = String.singleton '/' ++ tail) :
    hasVersionPrefix ("/api/" ++ (version ++ rest)) version = true := by
  rw [hasVersionPrefix_iff, fields_api]
  have first := fields_of_not_mem version '/' segment.1 segment.2
  rcases cut with rfl | ⟨tail, rfl⟩
  · simp [first]
  · rw [← String.append_assoc, fields_append, first]
    rfl

/-! ### The segment after `/api/` -/

/-- The text starts with `v` and goes on: what the package takes for a version. -/
def looksLikeVersion (text : String) : Bool :=
  hasPrefix text "v" && decide (text.toList.length > 1)

theorem readUrlSegment_api (rest : String) :
    readUrlSegment ("/api/" ++ rest) =
      if looksLikeVersion (before rest '/') then some (before rest '/') else none := by
  have under : hasPrefix ("/api/" ++ rest) "/api/" = true := (hasPrefix_iff _ _).mpr ⟨rest, rfl⟩
  have dropped : String.ofList (("/api/" ++ rest).toList.drop "/api/".length) = rest := by
    rw [String.toList_append, ← String.toList_inj, String.toList_ofList]
    rfl
  simp only [readUrlSegment, under, dropped, Bool.not_true, Bool.false_eq_true, if_false]
  rfl

/-- What the URL-segment strategy finds is a segment that the path carries. -/
theorem readUrlSegment_carried (path version : String)
    (found : readUrlSegment path = some version) :
    IsSegment version ∧ hasVersionPrefix path version = true := by
  have under : hasPrefix path "/api/" = true := by
    unfold readUrlSegment at found
    split at found
    · cases found
    · rename_i under
      simpa using under
  obtain ⟨rest, rfl⟩ := (hasPrefix_iff path "/api/").mp under
  rw [readUrlSegment_api] at found
  split at found
  · rename_i long
    obtain rfl := Option.some_inj.mp found
    have segment : IsSegment (before rest '/') := by
      refine ⟨?_, not_mem_before rest '/'⟩
      intro empty
      rw [empty] at long
      exact absurd long (by decide)
    refine ⟨segment, ?_⟩
    obtain ⟨tail, split, cut⟩ := exists_cut rest '/'
    have carried := hasVersionPrefix_api (before rest '/') tail segment cut
    rwa [← split] at carried
  · cases found

/-! ### What a reader answers on other paths -/

mutual

/-- Whether a strategy gets to the URL segment of a request: no header and no parameter that it
asks before answers. -/
def VersionReadingStrategy.readsSegment (request : Request) : VersionReadingStrategy → Bool
  | .header _ => false
  | .queryString _ => false
  | .urlSegment => true
  | .composite strategies => anyReadsSegment request strategies

def anyReadsSegment (request : Request) : List VersionReadingStrategy → Bool
  | [] => false
  | strategy :: rest =>
    strategy.readsSegment request ||
      ((strategy.readVersion request).isNone && anyReadsSegment request rest)

end

/-- What is read at each path: the same answer everywhere, or, where the URL segment is looked at,
the URL segment if there is one. -/
inductive ReadsByPath (read : String → Option String) (looked : Bool) : Prop where
  | same (answer : Option String) (unlooked : looked = false)
      (always : ∀ path, read path = answer)
  | segment (answer : Option String) (isLooked : looked = true)
      (otherwise : ∀ path, read path = (readUrlSegment path).or answer)

theorem readFirst_cons (request : Request) (strategy : VersionReadingStrategy)
    (rest : List VersionReadingStrategy) :
    readFirst request (strategy :: rest) =
      (strategy.readVersion request).or (readFirst request rest) := by
  rw [readFirst]
  cases strategy.readVersion request <;> rfl

mutual

/-- A strategy answers the same on every path unless it gets to the URL segment. -/
theorem readVersion_byPath (request : Request) : (strategy : VersionReadingStrategy) →
    ReadsByPath (fun path => strategy.readVersion { request with path })
      (strategy.readsSegment request)
  | .header headerName => .same (readHeader headerName request) rfl fun _ => rfl
  | .queryString paramName => .same (readQueryString paramName request) rfl fun _ => rfl
  | .urlSegment => .segment none rfl fun _ => by rw [Option.or_none]; rfl
  | .composite strategies => readFirst_byPath request strategies

theorem readFirst_byPath (request : Request) : (strategies : List VersionReadingStrategy) →
    ReadsByPath (fun path => readFirst { request with path } strategies)
      (anyReadsSegment request strategies)
  | [] => .same none rfl fun _ => rfl
  | strategy :: rest => by
    have unfolded (path : String) := readFirst_cons { request with path } strategy rest
    have later := readFirst_byPath request rest
    rw [anyReadsSegment]
    cases readVersion_byPath request strategy with
    | same answer unlooked always =>
      have answered : strategy.readVersion request = answer := always request.path
      rw [unlooked, answered, Bool.false_or]
      cases answer with
      | some version =>
        exact .same (some version) rfl fun path => by rw [unfolded, always, Option.some_or]
      | none =>
        have skipped (path : String) : readFirst { request with path } (strategy :: rest) =
            readFirst { request with path } rest := by
          rw [unfolded, always, Option.none_or]
        simpa only [skipped, Option.isNone_none, Bool.true_and] using later
    | segment answer isLooked otherwise =>
      rw [isLooked, Bool.true_or]
      cases later with
      | same second _ always =>
        refine .segment (answer.or second) rfl fun path => ?_
        rw [unfolded, otherwise, always, Option.or_assoc]
      | segment second _ otherwiseSecond =>
        refine .segment (answer.or second) rfl fun path => ?_
        rw [unfolded, otherwise, otherwiseSecond]
        cases readUrlSegment path <;> rfl

end

/-- The version a request is processed with is the same on every path, unless the reader gets to
the URL segment. -/
theorem effectiveVersion_byPath (config : Config) (request : Request) :
    ReadsByPath (fun path => config.effectiveVersion { request with path })
      (config.effectiveReader.readsSegment request) := by
  cases readVersion_byPath request config.effectiveReader with
  | same answer unlooked always =>
    exact .same (config.orDefault answer) unlooked fun path =>
      congrArg config.orDefault (always path)
  | segment answer isLooked otherwise =>
    refine .segment (config.orDefault answer) isLooked fun path => ?_
    show config.orDefault (config.effectiveReader.readVersion { request with path }) = _
    rw [otherwise path]
    cases found : readUrlSegment path with
    | none => rw [Option.none_or, Option.none_or]
    | some version =>
      have nonempty := (readUrlSegment_carried path version found).1.1
      rw [Option.some_or, Option.some_or, Config.orDefault, if_neg nonempty]

/-- The path does not carry what a reader answers there only when the answer is not its URL
segment. -/
theorem answer_of_not_carried (path version : String) (answer : Option String)
    (answered : (readUrlSegment path).or answer = some version)
    (missing : hasVersionPrefix path version = false) :
    readUrlSegment path = none ∧ answer = some version := by
  cases found : readUrlSegment path with
  | none => exact ⟨rfl, by rwa [found, Option.none_or] at answered⟩
  | some segment =>
    rw [found, Option.some_or, Option.some_inj] at answered
    have carried := (readUrlSegment_carried path segment found).2
    rw [answered, missing] at carried
    cases carried

/-- Versions that their paths do not carry are one and the same answer. -/
theorem effectiveVersion_unique (config : Config) (request : Request)
    (firstPath secondPath first second : String)
    (readFirst : config.effectiveVersion { request with path := firstPath } = some first)
    (readSecond : config.effectiveVersion { request with path := secondPath } = some second)
    (missingFirst : hasVersionPrefix firstPath first = false)
    (missingSecond : hasVersionPrefix secondPath second = false) : first = second := by
  cases effectiveVersion_byPath config request with
  | same answer _ always =>
    rw [always] at readFirst readSecond
    exact Option.some_inj.mp (readFirst.symm.trans readSecond)
  | segment answer _ otherwise =>
    rw [otherwise] at readFirst readSecond
    have answerFirst := (answer_of_not_carried _ _ _ readFirst missingFirst).2
    have answerSecond := (answer_of_not_carried _ _ _ readSecond missingSecond).2
    exact Option.some_inj.mp (answerFirst.symm.trans answerSecond)

theorem not_carried_of_not_segment (path version : String) (foreign : ¬ IsSegment version) :
    hasVersionPrefix path version = false := by
  cases carried : hasVersionPrefix path version with
  | false => rfl
  | true => exact absurd (isSegment_of_hasVersionPrefix path version carried) foreign

/-- Putting a version that is no segment into the path a second time brings no new URL
segment. -/
theorem readUrlSegment_rewritten (version rest : String) (foreign : ¬ IsSegment version)
    (absent : readUrlSegment ("/api/" ++ (version ++ rest)) = none) :
    readUrlSegment ("/api/" ++ (version ++ (String.singleton '/' ++ (version ++ rest)))) =
      none := by
  by_cases slash : '/' ∈ version.toList
  · rw [readUrlSegment_api, before_append_of_mem _ _ _ slash]
    rwa [readUrlSegment_api, before_append_of_mem _ _ _ slash] at absent
  · have empty : version = "" := by
      by_contra nonempty
      exact foreign ⟨nonempty, slash⟩
    subst empty
    rw [readUrlSegment_api, String.empty_append, before_cons]
    rfl

/-! ### Passes -/

/-- Versioned are the paths under `/api`, for every method but `OPTIONS`. -/
theorem shouldVersionRoute_iff (request : Request) :
    shouldVersionRoute request = true ↔
      request.method ≠ "OPTIONS" ∧ ∃ rest, request.path = "/api" ++ rest := by
  rw [← hasPrefix_iff]
  unfold shouldVersionRoute
  constructor
  · intro versioned
    split at versioned
    · cases versioned
    · rename_i skipped
      simp only [not_or] at skipped
      exact ⟨skipped.2.2.2.2, versioned⟩
  · rintro ⟨method, under⟩
    rw [if_neg, under]
    obtain ⟨rest, path⟩ := (hasPrefix_iff _ _).mp under
    have chars : request.path.toList = '/' :: 'a' :: 'p' :: 'i' :: rest.toList := by simp [path]
    simp only [not_or, ← String.toList_inj, hasPrefix, chars, decide_eq_true_eq]
    refine ⟨?_, ?_, ?_, ?_, fun equal => method (String.toList_inj.mp equal)⟩
    · simp
    · simp
    · simp [List.cons_prefix_cons]
    · simp [List.cons_prefix_cons]

section Passes

variable [CaseMapping]

/-- A pass skips the request, answers with a problem, or gets to its last step with a version
of the configured format that the registry does not reject. -/
theorem pass_cases (config : Config) (consultation : Option Consultation) (request : Request) :
    (shouldVersionRoute request = false ∧ (pass config consultation request).outcome = .next) ∨
      (∃ problem, (pass config consultation request).outcome = .problem problem) ∨
        ∃ version, shouldVersionRoute request = true ∧
          config.effectiveVersion request = some version ∧ config.versionFormat version = true ∧
          (∀ consulted, consultation = some consulted → consulted.rejects request version = false) ∧
          (pass config consultation request).outcome = dispatchOutcome request version := by
  cases versioned : shouldVersionRoute request with
  | false => exact Or.inl ⟨rfl, by simp [pass, versioned]⟩
  | true =>
    refine Or.inr ?_
    cases answered : config.effectiveVersion request with
    | none =>
      exact Or.inl ⟨writeProblem request "Missing API version", by simp [pass, versioned, answered]⟩
    | some version =>
      cases format : config.versionFormat version with
      | false =>
        exact Or.inl ⟨writeProblem request "Invalid API version format", by
          simp [pass, versioned, answered, format]⟩
      | true =>
        cases consultation with
        | none =>
          exact Or.inr ⟨version, rfl, rfl, format, by simp, by
            simp [pass, versioned, answered, format]⟩
        | some consulted =>
          cases rejected : consulted.rejects request version with
          | true =>
            exact Or.inl ⟨writeProblem request "Unsupported API version", by
              simp [pass, versioned, answered, format, rejected]⟩
          | false =>
            refine Or.inr ⟨version, rfl, rfl, format, ?_, by
              simp [pass, versioned, answered, format, rejected]⟩
            rintro _ ⟨⟩
            exact rejected

/-- A pass that dispatches again has read a version the path does not carry. -/
theorem pass_redispatch (config : Config) (consultation : Option Consultation)
    (request : Request) (next : String)
    (again : (pass config consultation request).outcome = .redispatch next) :
    shouldVersionRoute request = true ∧ ∃ version,
      config.effectiveVersion request = some version ∧ config.versionFormat version = true ∧
        hasVersionPrefix request.path version = false ∧
        next = rewritePath request.path version := by
  rcases pass_cases config consultation request with
    ⟨_, skipped⟩ | ⟨_, answered⟩ | ⟨version, versioned, read, format, _, last⟩
  · rw [skipped] at again
    cases again
  · rw [answered] at again
    cases again
  · rw [last] at again
    unfold dispatchOutcome at again
    split at again
    · cases again
    · rename_i carried
      injection again with path
      exact ⟨versioned, version, read, format, by simpa using carried, path.symm⟩

/-- Without a registry, a version of the configured format that the path does not carry makes
the pass dispatch again. -/
theorem pass_without_registry (config : Config) (request : Request) (version : String)
    (versioned : shouldVersionRoute request = true)
    (read : config.effectiveVersion request = some version)
    (format : config.versionFormat version = true)
    (missing : hasVersionPrefix request.path version = false) :
    (pass config none request).outcome = .redispatch (rewritePath request.path version) := by
  simp [pass, versioned, read, format, dispatchOutcome, missing]

/-! ### The chain of rewrites -/

/-- A service behind the middleware: its configuration, its registry if it has one, and the map
orders of the registry's consultation in each pass. -/
structure Service where
  config : Config
  registry : Option RouteVersionRegistry
  orders : (registry : RouteVersionRegistry) → Nat → RangeOrder registry

/-- The registry as consulted in a pass. -/
def Service.consultation (service : Service) (count : Nat) : Option Consultation :=
  service.registry.map fun registry => ⟨registry, service.orders registry count⟩

/-- How the pass with the given number ends on a path of the request. -/
def Service.outcome (service : Service) (request : Request) (count : Nat) (path : String) :
    Outcome :=
  (pass service.config (service.consultation count) { request with path }).outcome

/-- The path of each pass: the request's own, then what the pass before it rewrote, for as
long as passes dispatch again. -/
def Service.rewrites (service : Service) (request : Request) : Nat → Option String
  | 0 => some request.path
  | count + 1 =>
    match service.rewrites request count with
    | none => none
    | some path =>
      match service.outcome request count path with
      | .redispatch next => some next
      | _ => none

theorem rewrites_succ (service : Service) (request : Request) (count : Nat) (next : String)
    (rewritten : service.rewrites request (count + 1) = some next) :
    ∃ path, service.rewrites request count = some path ∧
      service.outcome request count path = .redispatch next := by
  rw [Service.rewrites] at rewritten
  split at rewritten
  · cases rewritten
  · rename_i path current
    split at rewritten
    · rename_i again
      rw [Option.some_inj] at rewritten
      exact ⟨path, current, rewritten ▸ again⟩
    · cases rewritten

/-- What follows `/api` in a path. -/
def afterApi (path : String) : String := String.ofList (path.toList.drop "/api".length)

/-- The condition under which the chain ends: the request is not versioned, or the version it is
processed with is refused by the format, or is a segment, or gives way to a URL segment that the
rewrite brings about. -/
def DispatchEnds (config : Config) (request : Request) : Prop :=
  shouldVersionRoute request = false ∨
    ∀ version, config.effectiveVersion request = some version →
      config.versionFormat version = true →
        IsSegment version ∨
          (config.effectiveReader.readsSegment request = true ∧
            looksLikeVersion (before (version ++ afterApi request.path) '/') = true)

omit [CaseMapping] in
/-- A version that is no segment is read again after the rewrite, unless the reader gets to the URL
segment and finds one there. -/
theorem readAgain_iff (config : Config) (request : Request) (version : String)
    (under : ∃ rest, request.path = "/api" ++ rest) (foreign : ¬ IsSegment version)
    (read : config.effectiveVersion request = some version) :
    config.effectiveVersion { request with path := rewritePath request.path version } =
        some version ↔
      ¬ (config.effectiveReader.readsSegment request = true ∧
        looksLikeVersion (before (version ++ afterApi request.path) '/') = true) := by
  obtain ⟨rest, isPath⟩ := under
  have after : afterApi request.path = rest := by
    rw [afterApi, isPath, String.toList_append, ← String.toList_inj, String.toList_ofList]
    rfl
  cases effectiveVersion_byPath config request with
  | same answer unlooked always =>
    have answered : answer = some version := (always request.path).symm.trans read
    rw [always, unlooked, answered]
    simp
  | segment answer isLooked otherwise =>
    obtain ⟨_, answered⟩ := answer_of_not_carried request.path version answer
      ((otherwise request.path).symm.trans read) (not_carried_of_not_segment _ _ foreign)
    rw [otherwise, isLooked, answered, after, isPath, rewritePath_api, String.append_assoc,
      readUrlSegment_api]
    cases like : looksLikeVersion (before (version ++ rest) '/') with
    | false => simp
    | true =>
      have found : readUrlSegment ("/api/" ++ (version ++ rest)) =
          some (before (version ++ rest) '/') := by
        rw [readUrlSegment_api, like, if_pos rfl]
      have changed : before (version ++ rest) '/' ≠ version := by
        intro same
        exact foreign (same ▸ (readUrlSegment_carried _ _ found).1)
      simpa using changed

/-- The states of a chain that never ends: under `/api`, with a version that is read there and
read again after the rewrite. -/
structure Stuck (config : Config) (request : Request) (version path : String) : Prop where
  under : ∃ rest, path = "/api" ++ rest
  read : config.effectiveVersion { request with path } = some version
  readAgain : config.effectiveVersion
    { request with path := rewritePath path version } = some version

omit [CaseMapping] in
theorem rewritePath_rewritten (version rest : String) :
    rewritePath ("/api/" ++ version ++ rest) version =
      "/api/" ++ (version ++ (String.singleton '/' ++ (version ++ rest))) := by
  have split : "/api/" ++ version ++ rest =
      "/api" ++ (String.singleton '/' ++ (version ++ rest)) := by
    rw [← String.toList_inj]
    simp
  rw [split, rewritePath_api, String.append_assoc]

omit [CaseMapping] in
/-- A rewrite keeps the chain stuck when the version is no segment. -/
theorem stuck_rewritePath (config : Config) (request : Request) (version path : String)
    (foreign : ¬ IsSegment version) (stuck : Stuck config request version path) :
    Stuck config request version (rewritePath path version) := by
  obtain ⟨⟨rest, rfl⟩, read, readAgain⟩ := stuck
  refine ⟨⟨String.singleton '/' ++ (version ++ rest), ?_⟩, readAgain, ?_⟩
  · rw [rewritePath_api, ← String.toList_inj]
    simp
  cases effectiveVersion_byPath config request with
  | same answer _ always => rw [always, ← always ("/api" ++ rest), read]
  | segment answer _ otherwise =>
    rw [rewritePath_api] at readAgain ⊢
    rw [otherwise] at read readAgain ⊢
    obtain ⟨_, answered⟩ := answer_of_not_carried _ _ _ read
      (not_carried_of_not_segment _ _ foreign)
    obtain ⟨absent, _⟩ := answer_of_not_carried _ _ _ readAgain
      (not_carried_of_not_segment _ _ foreign)
    rw [String.append_assoc] at absent
    rw [rewritePath_rewritten, readUrlSegment_rewritten version rest foreign absent, answered,
      Option.none_or]

/-- From a stuck request, a service without a registry rewrites the path in every pass. -/
theorem rewrites_of_stuck (config : Config) (request : Request) (version : String)
    (orders : (registry : RouteVersionRegistry) → Nat → RangeOrder registry)
    (method : request.method ≠ "OPTIONS") (format : config.versionFormat version = true)
    (foreign : ¬ IsSegment version) (stuck : Stuck config request version request.path)
    (count : Nat) :
    ∃ path, Service.rewrites ⟨config, none, orders⟩ request count = some path ∧
      Stuck config request version path := by
  induction count with
  | zero => exact ⟨request.path, rfl, stuck⟩
  | succ count inductionHypothesis =>
    obtain ⟨path, current, stuck⟩ := inductionHypothesis
    refine ⟨rewritePath path version, ?_,
      stuck_rewritePath config request version path foreign stuck⟩
    have versioned : shouldVersionRoute { request with path } = true :=
      (shouldVersionRoute_iff _).mpr ⟨method, stuck.under⟩
    have again := pass_without_registry config { request with path } version versioned stuck.read
      format (not_carried_of_not_segment path version foreign)
    simp only [Service.rewrites, current, Service.outcome, Service.consultation, Option.map_none,
      again]

/-- A chain whose condition holds has at most two rewrites. -/
theorem rewrites_end (service : Service) (request : Request)
    (ends : DispatchEnds service.config request) : service.rewrites request 3 = none := by
  cases rewritten : service.rewrites request 3 with
  | none => rfl
  | some third =>
    exfalso
    obtain ⟨second, passedSecond, againThird⟩ := rewrites_succ service request 2 third rewritten
    obtain ⟨first, passedFirst, againSecond⟩ := rewrites_succ service request 1 second passedSecond
    obtain ⟨start, passedStart, againFirst⟩ := rewrites_succ service request 0 first passedFirst
    obtain rfl : request.path = start := Option.some_inj.mp passedStart
    obtain ⟨versioned, version, read, format, missing, rfl⟩ := pass_redispatch _ _ _ _ againFirst
    obtain ⟨_, versionFirst, readFirst, _, missingFirst, rfl⟩ := pass_redispatch _ _ _ _ againSecond
    obtain ⟨_, versionSecond, readSecond, _, missingSecond, rfl⟩ :=
      pass_redispatch _ _ _ _ againThird
    obtain rfl := effectiveVersion_unique _ _ _ _ _ _ readFirst read missingFirst missing
    obtain rfl := effectiveVersion_unique _ _ _ _ _ _ readSecond read missingSecond missing
    rcases ends with unversioned | ends
    · exact absurd (versioned.symm.trans unversioned) (by decide)
    obtain ⟨_, under⟩ := (shouldVersionRoute_iff request).mp versioned
    by_cases segment : IsSegment versionSecond
    · obtain ⟨rest, path⟩ := under
      simp only at missingSecond
      rw [path, rewritePath_api, rewritePath_rewritten, hasVersionPrefix_api _ _ segment
        (Or.inr ⟨_, rfl⟩)] at missingSecond
      cases missingSecond
    · have given := (ends versionSecond read format).resolve_left segment
      exact (readAgain_iff _ request versionSecond under segment read).mp readFirst given

/-- Without a registry, the chain of rewrites is finite exactly when the condition holds; with one,
it is finite whenever the condition holds. -/
theorem rewrites_finite_iff (config : Config) (request : Request) :
    (∀ orders, (∃ count, Service.rewrites ⟨config, none, orders⟩ request count = none) ↔
        DispatchEnds config request) ∧
      (DispatchEnds config request → ∀ registry orders, ∃ count,
        Service.rewrites ⟨config, registry, orders⟩ request count = none) := by
  have sufficient (ends : DispatchEnds config request) (registry : Option RouteVersionRegistry)
      (orders : (registry : RouteVersionRegistry) → Nat → RangeOrder registry) :
      ∃ count, Service.rewrites ⟨config, registry, orders⟩ request count = none :=
    ⟨3, rewrites_end ⟨config, registry, orders⟩ request ends⟩
  refine ⟨fun orders => ⟨?_, fun ends => sufficient ends none orders⟩, sufficient⟩
  rintro ⟨count, finite⟩
  by_contra endless
  simp only [DispatchEnds, not_or, not_forall, Bool.not_eq_false] at endless
  obtain ⟨versioned, version, read, format, foreign, kept⟩ := endless
  obtain ⟨method, under⟩ := (shouldVersionRoute_iff request).mp versioned
  have readAgain := (readAgain_iff config request version under foreign read).mpr kept
  obtain ⟨path, current, _⟩ := rewrites_of_stuck config request version orders method format
    foreign ⟨under, read, readAgain⟩ count
  rw [finite] at current
  cases current

end Passes

/-- The default configuration with the empty regular expression as its format. -/
def anyFormat : Config := { defaultConfig with versionFormat := fun _ => true }

/-- A request whose version header holds a slash. -/
def slashRequest : Request := ⟨"GET", "/api/x", [("X-Version", ["a/b"])], []⟩

theorem slashRequest_endless :
    ¬ ∃ count, @Service.rewrites asciiCase ⟨anyFormat, none, fun registry _ => listOrder registry⟩
      slashRequest count = none := by
  rintro ⟨count, none⟩
  obtain ⟨path, current, _⟩ := @rewrites_of_stuck asciiCase anyFormat slashRequest "a/b"
    (fun registry _ => listOrder registry) (by decide) rfl (by decide)
    ⟨⟨"/x", by decide⟩, by decide, by decide⟩ count
  rw [none] at current
  cases current

end SharedGo.Versioning
