/-
This file models the route registry of the versioning middleware: the matching
of a concrete path against gin patterns, and the registry that records which
versions each pattern has. Both questions the registry answers range over a Go
map and keep the first most specific match, and specificity only counts literal
segments, so two patterns can tie. The file proves exactly when the answers are
a function of the registry: when all the most specific patterns that match
carry the same versions.
-/

import SharedGo.MapRange
import SharedGo.Text

namespace SharedGo.Versioning

open SharedGo Text

/-! ### Matching a path against a pattern -/

/-- The non-empty segments of a path. -/
def splitPath (path : String) : List String := (split path '/').filter (· ≠ "")

theorem splitPath_eq_fields (path : String) : splitPath path = fields path '/' := rfl

/-- The loop of `matchPattern` over the pattern's segments, with the path segments not yet
consumed. -/
def matchSegments : List String → List String → Bool
  | [], path => path.isEmpty
  | segment :: pattern, path =>
    if hasPrefix segment "*" then !path.isEmpty
    else
      match path with
      | [] => false
      | part :: rest =>
        if hasPrefix segment ":" then matchSegments pattern rest
        else if segment ≠ part then false
        else matchSegments pattern rest

theorem matchSegments_cons_nil (segment : String) (pattern : List String) :
    matchSegments (segment :: pattern) [] = false := by
  simp only [matchSegments, List.isEmpty_nil, Bool.not_true, ite_self]

theorem matchSegments_catchAll (segment part : String) (pattern path : List String)
    (isCatchAll : hasPrefix segment "*" = true) :
    matchSegments (segment :: pattern) (part :: path) = true := by
  simp only [matchSegments, if_pos isCatchAll, List.isEmpty_cons, Bool.not_false]

/-- A segment of a pattern stands for a segment of a path. -/
def StandsFor (segment part : String) : Prop := hasPrefix segment ":" = true ∨ segment = part

/-- A segment that is no catch-all has to stand for the first segment of the path. -/
theorem matchSegments_plain (segment part : String) (pattern path : List String)
    (notCatchAll : hasPrefix segment "*" = false) :
    matchSegments (segment :: pattern) (part :: path) = true ↔
      StandsFor segment part ∧ matchSegments pattern path = true := by
  rw [matchSegments, StandsFor]
  simp only [notCatchAll, Bool.false_eq_true, if_false]
  cases isParameter : hasPrefix segment ":" with
  | true => simp
  | false =>
    by_cases same : segment = part
    · simp [same]
    · simp [same]

/-- Without a catch-all, what misses the rest misses the whole. -/
theorem matchSegments_cons_false (segment part : String) (pattern path : List String)
    (notCatchAll : hasPrefix segment "*" = false) (missed : matchSegments pattern path = false) :
    matchSegments (segment :: pattern) (part :: path) = false := by
  rw [Bool.eq_false_iff] at missed ⊢
  intro matched
  exact missed ((matchSegments_plain segment part pattern path notCatchAll).mp matched).2

/-- Whether a concrete path matches a gin route pattern. -/
def matchPattern (urlPath pattern : String) : Bool :=
  matchSegments (splitPath pattern) (splitPath urlPath)

def countLiteralSegments (pattern : String) : Nat :=
  ((splitPath pattern).filter fun segment =>
    !hasPrefix segment ":" && !hasPrefix segment "*").length

/-- Whether the first pattern has more literal segments than the second. -/
def isMoreSpecific (first second : String) : Bool :=
  decide (countLiteralSegments first > countLiteralSegments second)

/-! ### The registry -/

/-- An endpoint, independent of its version. -/
structure RouteKey where
  method : String
  pattern : String
  deriving DecidableEq, Repr

/-- The versions registered for each endpoint. -/
structure RouteVersionRegistry where
  routes : GoMap RouteKey (GoMap String Bool)

/-- One entry of the registry's map. -/
abbrev RouteEntry := GoMap.Entry RouteKey (GoMap String Bool)

def RouteVersionRegistry.empty : RouteVersionRegistry := ⟨∅⟩

/-- The versions of an endpoint; an absent endpoint has none. -/
def RouteVersionRegistry.versions (registry : RouteVersionRegistry) (key : RouteKey) :
    GoMap String Bool :=
  (registry.routes.lookup key).getD ∅

section Registry

variable [CaseMapping]

/-- Records that an endpoint has a handler for a version. -/
def RouteVersionRegistry.register (registry : RouteVersionRegistry)
    (method pattern version : String) : RouteVersionRegistry :=
  let key : RouteKey := ⟨CaseMapping.toUpper method, pattern⟩
  ⟨registry.routes.insert key ((registry.versions key).insert version true)⟩

/-- A call of `Register`. -/
structure Registration where
  method : String
  pattern : String
  version : String

/-- The registry after a sequence of `Register` calls. -/
def registerAll (calls : List Registration) : RouteVersionRegistry :=
  calls.foldl (fun registry call => registry.register call.method call.pattern call.version) .empty

/-- Whether an entry is for the method and its pattern matches the path. -/
def fits (method urlPath : String) (entry : RouteEntry) : Bool :=
  decide (entry.1.method = CaseMapping.toUpper method) && matchPattern urlPath entry.1.pattern

/-- The loop both questions share: the first most specific entry that fits, for one order of
the map. -/
def matchedEntry (order : List RouteEntry) (method urlPath : String) : Option RouteEntry :=
  firstBest (fits method urlPath)
    (fun entry current => isMoreSpecific entry.1.pattern current.1.pattern) order none

/-- One choice of the visiting orders of a call: the order of the registry's map, and of the
map of whichever endpoint is matched. -/
structure RangeOrder (registry : RouteVersionRegistry) where
  routes : List RouteEntry
  versions : RouteKey → List (GoMap.Entry String Bool)
  visitsRoutes : registry.routes.Visits routes
  visitsVersions : ∀ key, (registry.versions key).Visits (versions key)

/-- Whether the endpoint exists, and whether it has the version. -/
def RouteVersionRegistry.lookup (registry : RouteVersionRegistry) (order : RangeOrder registry)
    (method urlPath version : String) : Bool × Bool :=
  match matchedEntry order.routes method urlPath with
  | none => (false, false)
  | some entry => (true, ((registry.versions entry.1).lookup version).getD false)

/-- The sorted versions of the matched endpoint. -/
def RouteVersionRegistry.supportedVersions (registry : RouteVersionRegistry)
    (order : RangeOrder registry) (method urlPath : String) : List String :=
  match matchedEntry order.routes method urlPath with
  | none => []
  | some entry => sortStrings ((order.versions entry.1).map Sigma.fst)

/-! ### What a registry holds -/

/-- A registered version is marked with `true`. -/
def Marked (registry : RouteVersionRegistry) : Prop :=
  ∀ key version flag, (registry.versions key).lookup version = some flag → flag = true

omit [CaseMapping] in
theorem empty_marked : Marked .empty := by
  intro key version flag found
  simp [RouteVersionRegistry.versions, RouteVersionRegistry.empty] at found

theorem versions_register (registry : RouteVersionRegistry) (method pattern version : String)
    (key : RouteKey) :
    (registry.register method pattern version).versions key =
      if key = ⟨CaseMapping.toUpper method, pattern⟩ then
        (registry.versions key).insert version true
      else registry.versions key := by
  unfold RouteVersionRegistry.register
  by_cases same : key = ⟨CaseMapping.toUpper method, pattern⟩
  · subst same
    simp [RouteVersionRegistry.versions, AList.lookup_insert]
  · rw [if_neg same]
    simp [RouteVersionRegistry.versions, AList.lookup_insert_ne same]

theorem register_marked (registry : RouteVersionRegistry) (method pattern version : String)
    (marked : Marked registry) : Marked (registry.register method pattern version) := by
  intro key other flag found
  rw [versions_register] at found
  split at found
  · by_cases same : other = version
    · subst same
      rw [AList.lookup_insert] at found
      exact (Option.some_inj.mp found).symm
    · rw [AList.lookup_insert_ne same] at found
      exact marked key other flag found
  · exact marked key other flag found

theorem registerAll_marked (calls : List Registration) : Marked (registerAll calls) := by
  have run (registry : RouteVersionRegistry) (marked : Marked registry) :
      Marked (calls.foldl (fun registry call =>
        registry.register call.method call.pattern call.version) registry) := by
    induction calls generalizing registry with
    | nil => exact marked
    | cons call rest inductionHypothesis =>
      exact inductionHypothesis _ (register_marked registry _ _ _ marked)
  exact run .empty empty_marked

omit [CaseMapping] in
/-- In a marked registry, the flag `Lookup` reads says whether the version is registered. -/
theorem marked_lookup (registry : RouteVersionRegistry) (marked : Marked registry)
    (key : RouteKey) (version : String) :
    ((registry.versions key).lookup version).getD false = true ↔
      version ∈ (registry.versions key).keys := by
  rw [← AList.mem_keys, ← AList.lookup_isSome]
  cases found : (registry.versions key).lookup version with
  | none => simp
  | some flag => simp [marked key version flag found]

omit [CaseMapping] in
theorem versions_of_mem (registry : RouteVersionRegistry) (entry : RouteEntry)
    (member : entry ∈ registry.routes.entries) : registry.versions entry.1 = entry.2 := by
  have found : registry.routes.lookup entry.1 = some entry.2 := AList.mem_lookup_iff.mpr member
  rw [RouteVersionRegistry.versions, found, Option.getD_some]

/-! ### When the answers do not depend on the order -/

/-- An entry that fits and has at least as many literal segments as every entry that fits. -/
def MostSpecific (registry : RouteVersionRegistry) (method urlPath : String)
    (entry : RouteEntry) : Prop :=
  IsBest (fits method urlPath) (fun entry => countLiteralSegments entry.1.pattern)
    registry.routes.entries entry

/-- All the most specific entries that fit carry the same versions. -/
def Unambiguous (registry : RouteVersionRegistry) (method urlPath : String) : Prop :=
  ∀ first second, MostSpecific registry method urlPath first →
    MostSpecific registry method urlPath second →
      ∀ version, version ∈ first.2.keys ↔ version ∈ second.2.keys

omit [CaseMapping] in
theorem isMoreSpecific_ranked (first second : RouteEntry) :
    isMoreSpecific first.1.pattern second.1.pattern =
      decide (countLiteralSegments second.1.pattern < countLiteralSegments first.1.pattern) := rfl

theorem isBest_visits {registry : RouteVersionRegistry} {order : List RouteEntry}
    (visits : registry.routes.Visits order) (method urlPath : String) (entry : RouteEntry) :
    IsBest (fits method urlPath) (fun entry => countLiteralSegments entry.1.pattern) order entry ↔
      MostSpecific registry method urlPath entry := by
  simp only [MostSpecific, IsBest, visits.mem_iff]

/-- In any order the loop matches a most specific entry, or nothing fits. -/
theorem matchedEntry_cases (registry : RouteVersionRegistry) (order : RangeOrder registry)
    (method urlPath : String) :
    (matchedEntry order.routes method urlPath = none ∧
        ∀ entry ∈ registry.routes.entries, fits method urlPath entry = false) ∨
      ∃ entry, matchedEntry order.routes method urlPath = some entry ∧
        MostSpecific registry method urlPath entry := by
  rcases firstBest_cases (fits method urlPath) _ _ isMoreSpecific_ranked order.routes with
    ⟨result, unfit⟩ | ⟨entry, result, best⟩
  · exact Or.inl ⟨result, fun entry member => unfit entry
      ((order.visitsRoutes.mem_iff entry).mpr member)⟩
  · exact Or.inr ⟨entry, result, (isBest_visits order.visitsRoutes method urlPath entry).mp best⟩

/-- Every most specific entry is matched in some order. -/
theorem exists_order_matching (registry : RouteVersionRegistry) (method urlPath : String)
    (entry : RouteEntry) (best : MostSpecific registry method urlPath entry) :
    ∃ order : RangeOrder registry, matchedEntry order.routes method urlPath = some entry := by
  obtain ⟨rest, visits⟩ := GoMap.exists_visits_head registry.routes entry best.1
  refine ⟨⟨entry :: rest, fun key => (registry.versions key).entries, visits,
    fun _ => List.Perm.refl _⟩, ?_⟩
  exact firstBest_head _ _ _ isMoreSpecific_ranked rest entry
    ((isBest_visits visits method urlPath entry).mpr best)

/-- The list of supported versions has the matched endpoint's versions, whatever the order of
its map. -/
theorem supportedVersions_eq (registry : RouteVersionRegistry) (order : RangeOrder registry)
    (method urlPath : String) (entry : RouteEntry)
    (matched : matchedEntry order.routes method urlPath = some entry)
    (member : entry ∈ registry.routes.entries) :
    registry.supportedVersions order method urlPath = sortStrings entry.2.keys := by
  simp only [RouteVersionRegistry.supportedVersions, matched]
  refine sortStrings_eq_of_perm ?_
  have visits := order.visitsVersions entry.1
  rw [versions_of_mem registry entry member] at visits
  exact visits.map Sigma.fst

theorem lookup_eq (registry : RouteVersionRegistry) (order : RangeOrder registry)
    (method urlPath version : String) (entry : RouteEntry)
    (matched : matchedEntry order.routes method urlPath = some entry) :
    registry.lookup order method urlPath version =
      (true, ((registry.versions entry.1).lookup version).getD false) := by
  simp only [RouteVersionRegistry.lookup, matched]

omit [CaseMapping] in
/-- Endpoints with the same versions give the same sorted list. -/
theorem sortStrings_keys_eq (first second : GoMap String Bool)
    (same : ∀ version, version ∈ first.keys ↔ version ∈ second.keys) :
    sortStrings first.keys = sortStrings second.keys :=
  sortStrings_eq_of_perm ((List.perm_ext_iff_of_nodup first.keys_nodup second.keys_nodup).mpr same)

/-- The answers for a method and a path do not depend on the order of the map, and agree with
each other, exactly when the most specific patterns that match carry the same versions. -/
theorem answers_independent_iff (calls : List Registration) (method urlPath version : String) :
    (∀ first second : RangeOrder (registerAll calls),
        (registerAll calls).lookup first method urlPath version =
            (registerAll calls).lookup second method urlPath version ∧
          (registerAll calls).supportedVersions first method urlPath =
            (registerAll calls).supportedVersions second method urlPath ∧
          (((registerAll calls).lookup first method urlPath version).2 = true ↔
            version ∈ (registerAll calls).supportedVersions second method urlPath)) ↔
      Unambiguous (registerAll calls) method urlPath := by
  have marked := registerAll_marked calls
  generalize registerAll calls = registry at marked ⊢
  constructor
  · intro independent first second bestFirst bestSecond other
    obtain ⟨firstOrder, matchedFirst⟩ :=
      exists_order_matching registry method urlPath first bestFirst
    obtain ⟨secondOrder, matchedSecond⟩ :=
      exists_order_matching registry method urlPath second bestSecond
    have lists := (independent firstOrder secondOrder).2.1
    rw [supportedVersions_eq registry firstOrder method urlPath first matchedFirst bestFirst.1,
      supportedVersions_eq registry secondOrder method urlPath second matchedSecond bestSecond.1]
      at lists
    rw [← mem_sortStrings, lists, mem_sortStrings]
  · intro unambiguous firstOrder secondOrder
    rcases matchedEntry_cases registry firstOrder method urlPath with
      ⟨noneFirst, unfit⟩ | ⟨first, matchedFirst, bestFirst⟩
    · rcases matchedEntry_cases registry secondOrder method urlPath with
        ⟨noneSecond, _⟩ | ⟨second, _, bestSecond⟩
      · simp [RouteVersionRegistry.lookup, RouteVersionRegistry.supportedVersions, noneFirst,
          noneSecond]
      · exact absurd bestSecond.2.1 (by simp [unfit second bestSecond.1])
    · rcases matchedEntry_cases registry secondOrder method urlPath with
        ⟨_, unfit⟩ | ⟨second, matchedSecond, bestSecond⟩
      · exact absurd bestFirst.2.1 (by simp [unfit first bestFirst.1])
      · have same := unambiguous first second bestFirst bestSecond
        have flag (entry : RouteEntry) (member : entry ∈ registry.routes.entries) :
            ((registry.versions entry.1).lookup version).getD false = true ↔
              version ∈ entry.2.keys := by
          rw [marked_lookup registry marked, versions_of_mem registry entry member]
        rw [lookup_eq registry firstOrder method urlPath version first matchedFirst,
          lookup_eq registry secondOrder method urlPath version second matchedSecond,
          supportedVersions_eq registry firstOrder method urlPath first matchedFirst bestFirst.1,
          supportedVersions_eq registry secondOrder method urlPath second matchedSecond
            bestSecond.1]
        refine ⟨Prod.ext rfl (Bool.eq_iff_iff.mpr ?_), sortStrings_keys_eq _ _ same, ?_⟩
        · rw [flag first bestFirst.1, flag second bestSecond.1]
          exact same version
        · rw [flag first bestFirst.1, mem_sortStrings]
          exact same version

end Registry

/-- The same endpoint registered under two parameter names, one per version. -/
def tiedCalls : List Registration :=
  [⟨"GET", "/domains/:id", "v1"⟩, ⟨"GET", "/domains/:name", "v2"⟩]

/-- The order of the map's own list, and its reverse. -/
def listOrder (registry : RouteVersionRegistry) : RangeOrder registry where
  routes := registry.routes.entries
  versions key := (registry.versions key).entries
  visitsRoutes := List.Perm.refl _
  visitsVersions _ := List.Perm.refl _

def reverseOrder (registry : RouteVersionRegistry) : RangeOrder registry where
  routes := registry.routes.entries.reverse
  versions key := (registry.versions key).entries
  visitsRoutes := List.reverse_perm _
  visitsVersions _ := List.Perm.refl _

/-- Of two tied patterns the one visited first answers, so the answer changes with the order. -/
theorem tiedCalls_order_dependent :
    ¬ ∀ first second : RangeOrder (@registerAll asciiCase tiedCalls),
      @RouteVersionRegistry.lookup asciiCase _ first "GET" "/domains/test.net" "v2" =
          @RouteVersionRegistry.lookup asciiCase _ second "GET" "/domains/test.net" "v2" ∧
        @RouteVersionRegistry.supportedVersions asciiCase _ first "GET" "/domains/test.net" =
          @RouteVersionRegistry.supportedVersions asciiCase _ second "GET" "/domains/test.net" ∧
        ((@RouteVersionRegistry.lookup asciiCase _ first "GET" "/domains/test.net" "v2").2 = true ↔
          "v2" ∈ @RouteVersionRegistry.supportedVersions asciiCase _ second "GET"
            "/domains/test.net") := by
  intro independent
  have same := (independent (listOrder _) (reverseOrder _)).1
  exact absurd same (by decide)

end SharedGo.Versioning
