/-
This file proves which routes of a versioned group the registry tracks. A group
over a router group records a route under its relative path, and only when it is
registered by one of the five methods that the group overrides. Requests are looked
up by the whole path below the version. So a route is tracked under the paths that
clients use exactly when one of the five methods registers it on the group itself
and its relative pattern alone covers every path of the route, as it does when the
group is mounted at the version.
-/

import SharedGo.VersionIsolation

namespace SharedGo.Versioning

open SharedGo Text

/-! ### The paths of a pattern -/

/-- The segments of a path instantiate those of a pattern: a parameter stands for any segment, and
a catch-all for one or more, whatever the pattern has behind it. -/
inductive Instantiates : List String → List String → Prop
  | nil : Instantiates [] []
  | literal (segment : String) (pattern path : List String)
      (notParameter : hasPrefix segment ":" = false) (notCatchAll : hasPrefix segment "*" = false)
      (rest : Instantiates pattern path) : Instantiates (segment :: pattern) (segment :: path)
  | parameter (segment part : String) (pattern path : List String)
      (isParameter : hasPrefix segment ":" = true) (notCatchAll : hasPrefix segment "*" = false)
      (rest : Instantiates pattern path) : Instantiates (segment :: pattern) (part :: path)
  | catchAll (segment part : String) (pattern path : List String)
      (isCatchAll : hasPrefix segment "*" = true) :
      Instantiates (segment :: pattern) (part :: path)

/-- The matcher says whether a path instantiates a pattern. -/
theorem matchSegments_iff (pattern path : List String) :
    matchSegments pattern path = true ↔ Instantiates pattern path := by
  constructor
  · intro matched
    induction pattern generalizing path with
    | nil =>
      obtain rfl := List.isEmpty_iff.mp matched
      exact .nil
    | cons segment pattern inductionHypothesis =>
      cases path with
      | nil => simp [matchSegments_cons_nil] at matched
      | cons part path =>
        cases isCatchAll : hasPrefix segment "*" with
        | true => exact .catchAll segment part pattern path isCatchAll
        | false =>
          obtain ⟨stands, matched⟩ := (matchSegments_plain _ _ _ _ isCatchAll).mp matched
          have rest := inductionHypothesis path matched
          cases isParameter : hasPrefix segment ":" with
          | true => exact .parameter segment part pattern path isParameter isCatchAll rest
          | false =>
            obtain rfl := stands.resolve_left (Bool.eq_false_iff.mp isParameter)
            exact .literal segment pattern path isParameter isCatchAll rest
  · intro instantiates
    induction instantiates with
    | nil => rfl
    | literal segment pattern path notParameter notCatchAll _ matched =>
      exact (matchSegments_plain _ _ _ _ notCatchAll).mpr ⟨.inr rfl, matched⟩
    | parameter segment part pattern path isParameter notCatchAll _ matched =>
      exact (matchSegments_plain _ _ _ _ notCatchAll).mpr ⟨.inl isParameter, matched⟩
    | catchAll segment part pattern path isCatchAll =>
      exact matchSegments_catchAll segment part pattern path isCatchAll

/-! ### Patterns that cover others -/

/-- Whether a pattern matches every path of another one. -/
def covers : List String → List String → Bool
  | [], full => full.isEmpty
  | segment :: pattern, full =>
    if hasPrefix segment "*" then !full.isEmpty
    else
      match full with
      | [] => false
      | other :: rest =>
        if hasPrefix other "*" then false
        else if hasPrefix segment ":" then covers pattern rest
        else decide (segment = other) && covers pattern rest

/-- A path of a pattern. -/
def samplePath : List String → List String
  | [] => []
  | segment :: pattern =>
    if hasPrefix segment "*" then ["x"]
    else if hasPrefix segment ":" then "x" :: samplePath pattern
    else segment :: samplePath pattern

theorem isSegment_x : IsSegment "x" := by decide

theorem samplePath_matches (pattern : List String) :
    matchSegments pattern (samplePath pattern) = true := by
  induction pattern with
  | nil => rfl
  | cons segment pattern inductionHypothesis =>
    rw [samplePath]
    cases isCatchAll : hasPrefix segment "*" with
    | true => exact matchSegments_catchAll segment "x" pattern [] isCatchAll
    | false =>
      cases isParameter : hasPrefix segment ":" with
      | true =>
        exact (matchSegments_plain _ _ _ _ isCatchAll).mpr ⟨.inl isParameter, inductionHypothesis⟩
      | false =>
        exact (matchSegments_plain _ _ _ _ isCatchAll).mpr ⟨.inr rfl, inductionHypothesis⟩

theorem samplePath_segments (pattern : List String)
    (segments : ∀ segment ∈ pattern, IsSegment segment) :
    ∀ part ∈ samplePath pattern, IsSegment part := by
  induction pattern with
  | nil => exact fun part member => absurd member List.not_mem_nil
  | cons segment pattern inductionHypothesis =>
    have rest := inductionHypothesis fun other member =>
      segments other (List.mem_cons_of_mem _ member)
    intro part member
    rw [samplePath] at member
    split_ifs at member with isCatchAll isParameter
    · rw [List.mem_singleton.mp member]
      exact isSegment_x
    · rcases List.mem_cons.mp member with rfl | later
      · exact isSegment_x
      · exact rest part later
    · rcases List.mem_cons.mp member with rfl | later
      · exact segments part List.mem_cons_self
      · exact rest part later

/-- A segment that is no catch-all covers the segments that it stands for. -/
theorem covers_cons_iff (segment other : String) (pattern rest : List String)
    (notCatchAll : hasPrefix segment "*" = false) :
    covers (segment :: pattern) (other :: rest) = true ↔
      hasPrefix other "*" = false ∧ StandsFor segment other ∧ covers pattern rest = true := by
  rw [covers, StandsFor]
  simp only [notCatchAll, Bool.false_eq_true, if_false]
  cases hasPrefix other "*" with
  | true => simp
  | false =>
    cases hasPrefix segment ":" with
    | true => simp
    | false => simp

/-- A pattern that covers another matches every path of it. -/
theorem matches_of_covers (pattern full path : List String) (covered : covers pattern full = true)
    (matched : matchSegments full path = true) : matchSegments pattern path = true := by
  induction pattern generalizing full path with
  | nil =>
    obtain rfl := List.isEmpty_iff.mp covered
    exact matched
  | cons segment pattern inductionHypothesis =>
    cases full with
    | nil => simp [covers] at covered
    | cons other rest =>
      cases path with
      | nil => simp [matchSegments_cons_nil] at matched
      | cons part path =>
        cases isCatchAll : hasPrefix segment "*" with
        | true => exact matchSegments_catchAll segment part pattern path isCatchAll
        | false =>
          obtain ⟨otherPlain, stands, covered⟩ := (covers_cons_iff _ _ _ _ isCatchAll).mp covered
          obtain ⟨standsOther, matched⟩ := (matchSegments_plain _ _ _ _ otherPlain).mp matched
          refine (matchSegments_plain _ _ _ _ isCatchAll).mpr
            ⟨?_, inductionHypothesis rest path covered matched⟩
          rcases stands with isParameter | rfl
          · exact .inl isParameter
          · exact standsOther

/-- A segment stands for some segment other than a given one that is not itself. -/
theorem exists_part (segment avoided : String) (valid : IsSegment segment)
    (different : segment ≠ avoided) :
    ∃ part, IsSegment part ∧ part ≠ avoided ∧ StandsFor segment part := by
  cases isParameter : hasPrefix segment ":" with
  | true =>
    by_cases isX : avoided = "x"
    · exact ⟨"y", by decide, by rw [isX]; decide, .inl isParameter⟩
    · exact ⟨"x", isSegment_x, Ne.symm isX, .inl isParameter⟩
  | false => exact ⟨segment, valid, different, .inr rfl⟩

/-- A pattern that does not cover another misses some path of it. -/
theorem exists_unmatched (pattern full : List String)
    (segments : ∀ segment ∈ full, IsSegment segment) (uncovered : covers pattern full = false) :
    ∃ path, (∀ part ∈ path, IsSegment part) ∧ matchSegments full path = true ∧
      matchSegments pattern path = false := by
  induction pattern generalizing full with
  | nil =>
    refine ⟨samplePath full, samplePath_segments full segments, samplePath_matches full, ?_⟩
    cases full with
    | nil => cases uncovered
    | cons other rest =>
      rw [samplePath]
      split_ifs
      · rfl
      · rfl
      · rfl
  | cons segment pattern inductionHypothesis =>
    cases full with
    | nil =>
      exact ⟨[], fun part member => absurd member List.not_mem_nil, rfl,
        matchSegments_cons_nil segment pattern⟩
    | cons other rest =>
      obtain ⟨valid, others⟩ := List.forall_mem_cons.mp segments
      cases isCatchAll : hasPrefix segment "*" with
      | true => simp [covers, isCatchAll] at uncovered
      | false =>
        cases otherCatchAll : hasPrefix other "*" with
        | true =>
          have valids := fun count part (member : part ∈ List.replicate count "x") =>
            (List.eq_of_mem_replicate member).symm ▸ isSegment_x
          cases pattern with
          | nil =>
            exact ⟨["x", "x"], valids 2, matchSegments_catchAll other "x" rest ["x"] otherCatchAll,
              matchSegments_cons_false segment "x" [] ["x"] isCatchAll rfl⟩
          | cons next pattern =>
            exact ⟨["x"], valids 1, matchSegments_catchAll other "x" rest [] otherCatchAll,
              matchSegments_cons_false segment "x" _ [] isCatchAll
                (matchSegments_cons_nil next pattern)⟩
        | false =>
          by_cases stands : StandsFor segment other
          -- The rest is not covered, so a path of the rest is missed.
          · have restUncovered : covers pattern rest = false :=
              Bool.eq_false_iff.mpr fun covered => Bool.eq_false_iff.mp uncovered
                ((covers_cons_iff _ _ _ _ isCatchAll).mpr ⟨otherCatchAll, stands, covered⟩)
            obtain ⟨path, valids, matched, missed⟩ := inductionHypothesis rest others restUncovered
            obtain ⟨part, validPart, _, standsOther⟩ := exists_part other "" valid valid.1
            exact ⟨part :: path, List.forall_mem_cons.mpr ⟨validPart, valids⟩,
              (matchSegments_plain _ _ _ _ otherCatchAll).mpr ⟨standsOther, matched⟩,
              matchSegments_cons_false segment part pattern path isCatchAll missed⟩
          -- The segment is another literal, which the path can avoid.
          · obtain ⟨notParameter, different⟩ := not_or.mp stands
            obtain ⟨part, validPart, avoids, standsOther⟩ :=
              exists_part other segment valid (Ne.symm different)
            refine ⟨part :: samplePath rest,
              List.forall_mem_cons.mpr ⟨validPart, samplePath_segments rest others⟩,
              (matchSegments_plain _ _ _ _ otherCatchAll).mpr
                ⟨standsOther, samplePath_matches rest⟩, Bool.eq_false_iff.mpr fun matched => ?_⟩
            rcases ((matchSegments_plain _ _ _ _ isCatchAll).mp matched).1 with isParameter | same
            · exact notParameter isParameter
            · exact avoids same.symm

/-- A pattern covers another exactly when it matches all its paths. -/
theorem covers_iff (pattern full : List String)
    (segments : ∀ segment ∈ full, IsSegment segment) :
    covers pattern full = true ↔
      ∀ path, (∀ part ∈ path, IsSegment part) → Instantiates full path →
        Instantiates pattern path := by
  simp only [← matchSegments_iff]
  constructor
  · exact fun covered path _ => matches_of_covers pattern full path covered
  · intro all
    by_contra uncovered
    obtain ⟨path, valids, matched, missed⟩ :=
      exists_unmatched pattern full segments (Bool.eq_false_iff.mpr uncovered)
    rw [all path valids matched] at missed
    cases missed

theorem covers_self (pattern : List String) : covers pattern pattern = true := by
  induction pattern with
  | nil => rfl
  | cons segment pattern inductionHypothesis =>
    rw [covers]
    split_ifs with isCatchAll isParameter
    · rfl
    · exact inductionHypothesis
    · simp [inductionHypothesis]

/-! ### Registration through a group -/

/-- A versioned group over a router group that is mounted below its version. -/
structure MountedGroup where
  version : String
  subPath : String

def MountedGroup.basePath (group : MountedGroup) : String :=
  "/api/" ++ group.version ++ group.subPath

/-- The methods of a group that register routes. The first five are the group's own; the others
are those of the router group. -/
inductive RoutingMethod where
  | post
  | get
  | put
  | delete
  | patch
  | head
  | options
  | handle (method : String)
  | any
  | matchMethods (methods : List String)
  deriving DecidableEq, Repr

/-- The HTTP methods that routes are registered for. -/
def RoutingMethod.methods : RoutingMethod → List String
  | .post => ["POST"]
  | .get => ["GET"]
  | .put => ["PUT"]
  | .delete => ["DELETE"]
  | .patch => ["PATCH"]
  | .head => ["HEAD"]
  | .options => ["OPTIONS"]
  | .handle method => [method]
  | .any => ["GET", "POST", "PUT", "PATCH", "HEAD", "OPTIONS", "DELETE", "CONNECT", "TRACE"]
  | .matchMethods methods => methods

/-- The HTTP method that a method of the group's own records. -/
def RoutingMethod.recorded : RoutingMethod → Option String
  | .post => some "POST"
  | .get => some "GET"
  | .put => some "PUT"
  | .delete => some "DELETE"
  | .patch => some "PATCH"
  | _ => none

/-- A registration: on the group itself or on a sub-group made from it, by a method, with a relative
path. -/
structure RouteRegistration where
  within : Option String
  via : RoutingMethod
  relativePath : String

/-- The segments of the pattern of a route, below the version. -/
def MountedGroup.pattern (group : MountedGroup) (call : RouteRegistration) : List String :=
  splitPath group.subPath ++ splitPath (call.within.getD "") ++ splitPath call.relativePath

section Registration

variable [CaseMapping]

/-- A method of the group's own records the route under its relative path. A sub-group is a plain
router group, and records nothing. -/
def MountedGroup.recordRoutes (group : MountedGroup) (call : RouteRegistration)
    (registry : RouteVersionRegistry) : RouteVersionRegistry :=
  match call.within, call.via.recorded with
  | none, some method => registry.register method call.relativePath group.version
  | _, _ => registry

/-- Registers the routes with the router, and records them. -/
def MountedGroup.register (group : MountedGroup) (call : RouteRegistration)
    (application : Application) : Application where
  routes := application.routes ++ call.via.methods.map fun method =>
    ⟨method, group.basePath ++ call.within.getD "", call.relativePath, some group.version⟩
  registry := group.recordRoutes call application.registry

/-- Every route of the registration is found under its version, by every path of its pattern that
no other registered pattern matches. -/
def TracksRoutes (group : MountedGroup) (call : RouteRegistration) : Prop :=
  ∀ (before : Application) (order : RangeOrder (group.register call before).registry),
    ∀ method ∈ call.via.methods, ∀ path,
      Instantiates (group.pattern call) (splitPath path) →
      (∀ entry ∈ (group.register call before).registry.routes.entries,
        fits method path entry = true → entry.1.pattern = call.relativePath) →
      (group.register call before).registry.lookup order method path group.version = (true, true)

/-! ### What the registry answers -/

/-- A path that no entry fits is not found. -/
theorem lookup_unfit (registry : RouteVersionRegistry) (order : RangeOrder registry)
    (method path version : String)
    (unfit : ∀ entry ∈ registry.routes.entries, fits method path entry = false) :
    registry.lookup order method path version = (false, false) := by
  rcases matchedEntry_cases registry order method path with ⟨none, _⟩ | ⟨entry, _, best⟩
  · simp only [RouteVersionRegistry.lookup, none]
  · have fit := best.2.1
    rw [unfit entry best.1] at fit
    cases fit

/-- A path that a registered pattern matches, and no other, is found under its version. -/
theorem lookup_registered (registry : RouteVersionRegistry)
    (method pattern version path : String)
    (order : RangeOrder (registry.register method pattern version))
    (matched : matchPattern path pattern = true)
    (only : ∀ entry ∈ (registry.register method pattern version).routes.entries,
      fits method path entry = true → entry.1.pattern = pattern) :
    (registry.register method pattern version).lookup order method path version =
      (true, true) := by
  let key : RouteKey := ⟨CaseMapping.toUpper method, pattern⟩
  have stored : (⟨key, (registry.versions key).insert version true⟩ : RouteEntry) ∈
      (registry.register method pattern version).routes.entries :=
    AList.mem_lookup_iff.mp (AList.lookup_insert _)
  rcases matchedEntry_cases (registry.register method pattern version) order method path with
    ⟨_, unfit⟩ | ⟨entry, found, best⟩
  · have fit := unfit _ stored
    simp [fits, key, matched] at fit
  · have isKey : entry.1 = key := by
      have fit := best.2.1
      rw [fits, Bool.and_eq_true, decide_eq_true_eq] at fit
      exact congrArg₂ RouteKey.mk fit.1 (only entry best.1 best.2.1)
    rw [lookup_eq _ order method path version entry found, versions_register, if_pos isKey,
      AList.lookup_insert, Option.getD_some]

theorem register_empty_entry (method pattern version : String) (entry : RouteEntry)
    (member : entry ∈ (RouteVersionRegistry.empty.register method pattern
      version).routes.entries) : entry.1.pattern = pattern := by
  by_contra different
  have found := AList.mem_lookup_iff.mpr member
  have other : entry.1 ≠ ⟨CaseMapping.toUpper method, pattern⟩ :=
    fun same => different (congrArg RouteKey.pattern same)
  rw [Option.mem_def, RouteVersionRegistry.register, AList.lookup_insert_ne other] at found
  cases found

end Registration

/-! ### Paths from segments -/

theorem splitPath_segments (path : String) : ∀ segment ∈ splitPath path, IsSegment segment :=
  fun segment member => mem_fields path segment '/' member

/-- Every list of segments is that of some path. -/
theorem exists_path (segments : List String) (valid : ∀ segment ∈ segments, IsSegment segment) :
    ∃ path, splitPath path = segments := by
  induction segments with
  | nil => exact ⟨"", fields_nil '/'⟩
  | cons segment segments inductionHypothesis =>
    obtain ⟨path, isPath⟩ := inductionHypothesis fun other member =>
      valid other (List.mem_cons_of_mem _ member)
    obtain ⟨nonempty, absent⟩ := valid segment List.mem_cons_self
    refine ⟨segment ++ String.singleton '/' ++ path, ?_⟩
    rw [splitPath_eq_fields, fields_append, fields_of_not_mem segment '/' nonempty absent,
      ← splitPath_eq_fields, isPath]
    rfl

theorem pattern_segments (group : MountedGroup) (call : RouteRegistration) :
    ∀ segment ∈ group.pattern call, IsSegment segment := by
  intro segment member
  rcases List.mem_append.mp member with outer | inner
  · rcases List.mem_append.mp outer with isSub | isWithin
    · exact splitPath_segments _ segment isSub
    · exact splitPath_segments _ segment isWithin
  · exact splitPath_segments _ segment inner

theorem methods_of_recorded (via : RoutingMethod) (method : String)
    (recorded : via.recorded = some method) : via.methods = [method] := by
  cases via with
  | post | get | put | delete | patch =>
    obtain rfl := Option.some_inj.mp recorded
    rfl
  | head | options | handle | any | matchMethods => cases recorded

section Tracking

variable [CaseMapping] (group : MountedGroup) (call : RouteRegistration)

/-- The registration reaches the registry. -/
def RouteRegistration.Recorded (call : RouteRegistration) : Prop :=
  call.within = none ∧ call.via.recorded.isSome = true

theorem recordRoutes_of_not_recorded (registry : RouteVersionRegistry)
    (unrecorded : ¬call.Recorded) : group.recordRoutes call registry = registry := by
  unfold MountedGroup.recordRoutes
  split
  · rename_i method within recorded
    exact absurd ⟨within, by rw [recorded]; rfl⟩ unrecorded
  · rfl

theorem recordRoutes_of_recorded (registry : RouteVersionRegistry) (method : String)
    (within : call.within = none) (recorded : call.via.recorded = some method) :
    group.recordRoutes call registry =
      registry.register method call.relativePath group.version := by
  simp only [MountedGroup.recordRoutes, within, recorded]

/-- An empty application does not find the paths of a route that is not recorded. -/
theorem recorded_of_tracks (method : String) (member : method ∈ call.via.methods)
    (tracks : TracksRoutes group call) : call.Recorded := by
  by_contra unrecorded
  obtain ⟨path, isPath⟩ := exists_path (samplePath (group.pattern call))
    (samplePath_segments _ (pattern_segments group call))
  have same : (group.register call .empty).registry = .empty :=
    recordRoutes_of_not_recorded group call .empty unrecorded
  have unfit : ∀ entry ∈ (group.register call .empty).registry.routes.entries,
      fits method path entry = false := by
    rw [same]
    exact fun entry wrong => absurd wrong List.not_mem_nil
  have found := tracks .empty (listOrder _) method member path ?_ ?_
  · rw [lookup_unfit _ _ method path group.version unfit] at found
    cases found
  · rw [isPath, ← matchSegments_iff]
    exact samplePath_matches _
  · intro entry wrong fit
    rw [unfit entry wrong] at fit
    cases fit

/-- An empty application does not find a path that the relative pattern misses. -/
theorem covers_of_tracks (method : String) (within : call.within = none)
    (recorded : call.via.recorded = some method) (tracks : TracksRoutes group call) :
    covers (splitPath call.relativePath) (group.pattern call) = true := by
  rw [covers_iff _ _ (pattern_segments group call)]
  intro segments valid instantiates
  obtain ⟨path, rfl⟩ := exists_path segments valid
  rw [← matchSegments_iff]
  by_contra missed
  have member : method ∈ call.via.methods := by
    rw [methods_of_recorded call.via method recorded]
    exact List.mem_cons_self
  have same : (group.register call .empty).registry =
      RouteVersionRegistry.empty.register method call.relativePath group.version :=
    recordRoutes_of_recorded group call .empty method within recorded
  have unfit : ∀ entry ∈ (group.register call .empty).registry.routes.entries,
      fits method path entry = false := by
    rw [same]
    intro entry stored
    rw [fits, register_empty_entry method call.relativePath group.version entry stored,
      matchPattern, Bool.eq_false_iff.mpr missed, Bool.and_false]
  have found := tracks .empty (listOrder _) method member path instantiates ?_
  · rw [lookup_unfit _ _ method path group.version unfit] at found
    cases found
  · intro entry stored fit
    rw [unfit entry stored] at fit
    cases fit

theorem tracks_of_covers (recorded : call.Recorded)
    (covered : covers (splitPath call.relativePath) (group.pattern call) = true) :
    TracksRoutes group call := by
  obtain ⟨within, isSome⟩ := recorded
  obtain ⟨verb, isVerb⟩ := Option.isSome_iff_exists.mp isSome
  intro before order method member path instantiates only
  rw [methods_of_recorded call.via verb isVerb, List.mem_singleton] at member
  subst member
  have same : (group.register call before).registry =
      before.registry.register method call.relativePath group.version :=
    recordRoutes_of_recorded group call before.registry method within isVerb
  generalize (group.register call before).registry = registry at order only same ⊢
  subst same
  refine lookup_registered before.registry method _ _ path order ?_ only
  rw [matchPattern]
  exact matches_of_covers _ _ _ covered ((matchSegments_iff _ _).mpr instantiates)

/-- A group mounted directly below its version, as the documentation has it, tracks the routes of
its own methods. -/
theorem tracks_below_version (recorded : call.Recorded) (below : splitPath group.subPath = []) :
    TracksRoutes group call := by
  refine tracks_of_covers group call recorded ?_
  rw [MountedGroup.pattern, below, recorded.1]
  exact covers_self (splitPath call.relativePath)

/-- The routes of a registration are tracked under the paths that clients use exactly when there
are none, or when a method of the group's own registers them on the group itself and their relative
pattern covers their whole pattern. -/
theorem tracksRoutes_iff :
    TracksRoutes group call ↔
      call.via.methods = [] ∨
        call.Recorded ∧ covers (splitPath call.relativePath) (group.pattern call) = true := by
  constructor
  · intro tracks
    cases methods : call.via.methods with
    | nil => exact Or.inl rfl
    | cons method others =>
      have recorded := recorded_of_tracks group call method (by rw [methods]; simp) tracks
      obtain ⟨verb, isVerb⟩ := Option.isSome_iff_exists.mp recorded.2
      exact Or.inr ⟨recorded, covers_of_tracks group call verb recorded.1 isVerb tracks⟩
  · rintro (none | ⟨recorded, covered⟩)
    · intro before order method member
      rw [none] at member
      cases member
    · exact tracks_of_covers group call recorded covered

end Tracking

/-! ### Untracked routes -/

/-- A group for administrators below the first version. -/
def adminGroup : MountedGroup := ⟨"v1", "/admin"⟩

/-- A route below a sub-path, one of a method that is not the group's own, and one on a sub-group:
clients reach them, and the registry does not know them. -/
theorem routes_untracked :
    @RouteVersionRegistry.lookup asciiCase (@MountedGroup.register asciiCase adminGroup
        ⟨none, .get, "/users/:id"⟩ .empty).registry (listOrder _) "GET" "/admin/users/7" "v1" =
        (false, false) ∧
      Instantiates (adminGroup.pattern ⟨none, .get, "/users/:id"⟩) (splitPath "/admin/users/7") ∧
      @RouteVersionRegistry.lookup asciiCase (@MountedGroup.register asciiCase ⟨"v1", ""⟩
        ⟨none, .head, "/users"⟩ .empty).registry (listOrder _) "HEAD" "/users" "v1" =
        (false, false) ∧
      @RouteVersionRegistry.lookup asciiCase (@MountedGroup.register asciiCase ⟨"v1", ""⟩
        ⟨some "/admin", .get, "/users"⟩ .empty).registry (listOrder _) "GET" "/admin/users" "v1" =
        (false, false) := by
  refine ⟨by decide, ?_, by decide, by decide⟩
  rw [← matchSegments_iff]
  decide

end SharedGo.Versioning
