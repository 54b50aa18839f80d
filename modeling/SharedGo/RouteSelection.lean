/-
This file proves what the route registry answers. The matcher walks over the
segments of a pattern with an index into those of the path; it leaves at the first
catch-all, at the end of the path and at a segment that differs, and compares the
lengths at the end. The file says which paths it accepts, in terms of the segments
alone. The registry keeps, of the patterns that match, the first one with the most
literal segments in the order that the map is visited in; in every order this is a
most specific pattern, and its versions are those that calls registered for it.
-/

import SharedGo.RouteRegistry

namespace SharedGo.Versioning

open SharedGo Text

/-! ### The loop of the matcher -/

/-- The loop of `matchPattern` as it is written, at an index, with the segments of the pattern that
are left. -/
def matchFrom (urlParts patParts : List String) (index : Nat) : List String → Bool
  | [] => urlParts.length = patParts.length
  | pat :: rest =>
    if hasPrefix pat "*" then urlParts.length ≥ index + 1
    else if inside : index < urlParts.length then
      if hasPrefix pat ":" then matchFrom urlParts patParts (index + 1) rest
      else if pat ≠ urlParts[index] then false
      else matchFrom urlParts patParts (index + 1) rest
    else false

/-- At an index within the path, the loop compares what is left of both. -/
theorem matchFrom_eq (urlParts patParts rest : List String) (index : Nat)
    (within : index ≤ urlParts.length) (position : index + rest.length = patParts.length) :
    matchFrom urlParts patParts index rest = matchSegments rest (urlParts.drop index) := by
  induction rest generalizing index with
  | nil =>
    have lengths : urlParts.length = patParts.length ↔ urlParts.drop index = [] := by
      rw [List.drop_eq_nil_iff, ← position, List.length_nil]
      omega
    rw [matchFrom, matchSegments, Bool.eq_iff_iff, decide_eq_true_iff, List.isEmpty_iff]
    exact lengths
  | cons pat rest inductionHypothesis =>
    rw [List.length_cons] at position
    by_cases inside : index < urlParts.length
    · have next := inductionHypothesis (index + 1) inside (by omega)
      have longer : urlParts.length ≥ index + 1 := inside
      rw [List.drop_eq_getElem_cons inside, matchFrom, matchSegments, dif_pos inside, next]
      simp only [longer, decide_true, List.isEmpty_cons, Bool.not_false]
    · have ended : urlParts.drop index = [] := List.drop_eq_nil_of_le (Nat.le_of_not_lt inside)
      have shorter : ¬urlParts.length ≥ index + 1 := inside
      rw [ended, matchFrom, matchSegments, dif_neg inside]
      simp only [shorter, decide_false, List.isEmpty_nil, Bool.not_true]

theorem matchPattern_eq_loop (urlPath pattern : String) :
    matchPattern urlPath pattern =
      matchFrom (splitPath urlPath) (splitPath pattern) 0 (splitPath pattern) := by
  rw [matchFrom_eq _ _ _ 0 (Nat.zero_le _) (Nat.zero_add _), List.drop_zero]
  rfl

/-! ### What the matcher accepts -/

/-- The segments of a pattern stand for those of a path, as far as both go. -/
def Agree (pattern path : List String) : Prop :=
  ∀ (index : Nat) (segment part : String), pattern[index]? = some segment →
    path[index]? = some part → StandsFor segment part

/-- The first catch-all of a pattern is at the position. -/
def FirstCatchAll (pattern : List String) (position : Nat) : Prop :=
  (∃ segment, pattern[position]? = some segment ∧ hasPrefix segment "*" = true) ∧
    ∀ segment ∈ pattern.take position, hasPrefix segment "*" = false

theorem agree_nil (path : List String) : Agree [] path := by
  intro index segment part found
  cases found

theorem agree_cons_iff (segment part : String) (pattern path : List String) :
    Agree (segment :: pattern) (part :: path) ↔ StandsFor segment part ∧ Agree pattern path := by
  constructor
  · intro agree
    refine ⟨agree 0 segment part rfl rfl, fun index other otherPart => ?_⟩
    exact agree (index + 1) other otherPart
  · rintro ⟨first, agree⟩ index other otherPart found foundPart
    cases index with
    | zero =>
      obtain rfl := Option.some_inj.mp found
      obtain rfl := Option.some_inj.mp foundPart
      exact first
    | succ index => exact agree index other otherPart found foundPart

/-- A segment that is no catch-all takes one segment off the path. -/
theorem matchSegments_cons_iff (segment : String) (pattern path : List String)
    (plain : hasPrefix segment "*" = false) :
    matchSegments (segment :: pattern) path = true ↔
      ∃ part rest, path = part :: rest ∧ StandsFor segment part ∧
        matchSegments pattern rest = true := by
  cases path with
  | nil => simp [matchSegments_cons_nil]
  | cons part rest =>
    rw [matchSegments_plain segment part pattern rest plain]
    simp

/-- The start of a pattern, up to its first catch-all, takes off the path as many segments, which it
stands for. -/
theorem matchSegments_append_iff (start rest path : List String)
    (plain : ∀ segment ∈ start, hasPrefix segment "*" = false) :
    matchSegments (start ++ rest) path = true ↔
      start.length ≤ path.length ∧ Agree start path ∧
        matchSegments rest (path.drop start.length) = true := by
  induction start generalizing path with
  | nil => simp [agree_nil]
  | cons segment start inductionHypothesis =>
    obtain ⟨first, others⟩ := List.forall_mem_cons.mp plain
    rw [List.cons_append, matchSegments_cons_iff segment _ path first]
    constructor
    · rintro ⟨part, tail, rfl, stands, matched⟩
      obtain ⟨shorter, agree, matched⟩ := (inductionHypothesis tail others).mp matched
      exact ⟨Nat.succ_le_succ shorter,
        (agree_cons_iff segment part start tail).mpr ⟨stands, agree⟩, matched⟩
    · rintro ⟨shorter, agree, matched⟩
      obtain ⟨part, tail, rfl⟩ := List.exists_cons_of_length_pos (Nat.zero_lt_of_lt shorter)
      obtain ⟨stands, agree⟩ := (agree_cons_iff segment part start tail).mp agree
      exact ⟨part, tail, rfl, stands,
        (inductionHypothesis tail others).mpr ⟨Nat.le_of_succ_le_succ shorter, agree, matched⟩⟩

/-- Without a catch-all, a pattern matches the paths of its length whose segments it stands for. -/
theorem matchSegments_plain_iff (pattern path : List String)
    (plain : ∀ segment ∈ pattern, hasPrefix segment "*" = false) :
    matchSegments pattern path = true ↔ path.length = pattern.length ∧ Agree pattern path := by
  have meaning := matchSegments_append_iff pattern [] path plain
  rw [List.append_nil, matchSegments, List.isEmpty_iff, List.drop_eq_nil_iff] at meaning
  rw [meaning]
  constructor
  · rintro ⟨shorter, agree, longer⟩
    exact ⟨Nat.le_antisymm longer shorter, agree⟩
  · rintro ⟨length, agree⟩
    exact ⟨length.ge, agree, length.le⟩

/-- With a catch-all behind it, the start of a pattern matches the paths that go on after the
segments it stands for. -/
theorem matchSegments_catchAll_iff (start after path : List String) (segment : String)
    (plain : ∀ other ∈ start, hasPrefix other "*" = false)
    (catchAll : hasPrefix segment "*" = true) :
    matchSegments (start ++ segment :: after) path = true ↔
      start.length < path.length ∧ Agree start path := by
  have goesOn : matchSegments (segment :: after) (path.drop start.length) = true ↔
      start.length < path.length := by
    rw [← Nat.not_le, ← List.drop_eq_nil_iff]
    cases path.drop start.length with
    | nil => simp [matchSegments_cons_nil]
    | cons part rest => simp [matchSegments_catchAll segment part after rest catchAll]
  rw [matchSegments_append_iff start _ path plain, goesOn]
  constructor
  · rintro ⟨_, agree, longer⟩
    exact ⟨longer, agree⟩
  · rintro ⟨longer, agree⟩
    exact ⟨longer.le, agree, longer⟩

theorem firstCatchAll_split (pattern : List String) (position : Nat)
    (first : FirstCatchAll pattern position) :
    ∃ segment after, pattern = pattern.take position ++ segment :: after ∧
      (pattern.take position).length = position ∧ hasPrefix segment "*" = true := by
  obtain ⟨⟨segment, found, catchAll⟩, _⟩ := first
  obtain ⟨inside, isSegment⟩ := List.getElem?_eq_some_iff.mp found
  refine ⟨segment, pattern.drop (position + 1), ?_, ?_, catchAll⟩
  · rw [← isSegment, ← List.drop_eq_getElem_cons inside, List.take_append_drop]
  · rw [List.length_take]
    omega

/-- The paths are the same up to slashes at their ends and in a row. -/
def SameUpToSlashes : String → String → Prop := Relation.EqvGen (AddsSeparator '/')

/-- The loop of the matcher accepts a path for a pattern without a catch-all exactly when both have
as many segments and those of the pattern stand for those of the path, and for a pattern with one
exactly when the path goes on after the segments that the pattern has before it. Slashes at the
ends and in a row do not matter. -/
theorem matchPattern_meaning (urlPath pattern : String) :
    matchPattern urlPath pattern =
        matchFrom (splitPath urlPath) (splitPath pattern) 0 (splitPath pattern) ∧
      ((∀ segment ∈ splitPath pattern, hasPrefix segment "*" = false) →
        (matchPattern urlPath pattern = true ↔
          (splitPath urlPath).length = (splitPath pattern).length ∧
            Agree (splitPath pattern) (splitPath urlPath))) ∧
      (∀ position, FirstCatchAll (splitPath pattern) position →
        (matchPattern urlPath pattern = true ↔
          position < (splitPath urlPath).length ∧
            Agree ((splitPath pattern).take position) (splitPath urlPath))) ∧
      ∀ otherPath otherPattern, SameUpToSlashes urlPath otherPath →
        SameUpToSlashes pattern otherPattern →
          matchPattern urlPath pattern = matchPattern otherPath otherPattern := by
  refine ⟨matchPattern_eq_loop urlPath pattern,
    matchSegments_plain_iff (splitPath pattern) (splitPath urlPath), ?_, ?_⟩
  · intro position first
    obtain ⟨segment, after, split, length, catchAll⟩ := firstCatchAll_split _ position first
    have meaning := matchSegments_catchAll_iff _ after (splitPath urlPath) segment first.2 catchAll
    rwa [← split, length] at meaning
  · intro otherPath otherPattern samePath samePattern
    have paths : splitPath urlPath = splitPath otherPath := fields_eq_of_eqvGen '/' _ _ samePath
    have patterns : splitPath pattern = splitPath otherPattern :=
      fields_eq_of_eqvGen '/' _ _ samePattern
    rw [matchPattern, matchPattern, paths, patterns]

example : matchPattern "//domains///test.net/" "/domains/:name" = true ∧
    matchPattern "/swagger/v1/doc.json" "swagger/*any" = true ∧
    matchPattern "/swagger/" "/swagger/*any" = false := by decide

/-! ### What the calls register -/

section Selection

variable [CaseMapping]

/-- The endpoint of a call; its method is in upper case. -/
def Registration.key (call : Registration) : RouteKey :=
  ⟨CaseMapping.toUpper call.method, call.pattern⟩

/-- Some call registers the version for the method and the pattern. -/
def RegisteredFor (calls : List Registration) (method pattern version : String) : Prop :=
  ∃ call ∈ calls, call.key = ⟨CaseMapping.toUpper method, pattern⟩ ∧ call.version = version

theorem registerAll_concat (calls : List Registration) (call : Registration) :
    registerAll (calls ++ [call]) =
      (registerAll calls).register call.method call.pattern call.version :=
  List.foldl_concat ..

/-- One more call adds its version to its endpoint. -/
theorem versions_concat (calls : List Registration) (call : Registration) (key : RouteKey) :
    (registerAll (calls ++ [call])).versions key =
      if key = call.key then ((registerAll calls).versions key).insert call.version true
      else (registerAll calls).versions key := by
  rw [registerAll_concat]
  exact versions_register (registerAll calls) call.method call.pattern call.version key

/-- The registry has the endpoints of the calls. -/
theorem mem_routes_iff (calls : List Registration) (key : RouteKey) :
    key ∈ (registerAll calls).routes ↔ ∃ call ∈ calls, call.key = key := by
  induction calls using List.reverseRecOn with
  | nil => simp [registerAll, RouteVersionRegistry.empty]
  | append_singleton calls call inductionHypothesis =>
    rw [registerAll_concat, RouteVersionRegistry.register, AList.mem_insert, inductionHypothesis]
    simp only [List.mem_append, List.mem_singleton, or_and_right, exists_or, exists_eq_left]
    rw [or_comm, eq_comm]
    rfl

/-- An endpoint has the versions of its calls. -/
theorem mem_versions_iff (calls : List Registration) (key : RouteKey) (version : String) :
    version ∈ ((registerAll calls).versions key).keys ↔
      ∃ call ∈ calls, call.key = key ∧ call.version = version := by
  induction calls using List.reverseRecOn with
  | nil => simp [registerAll, RouteVersionRegistry.empty, RouteVersionRegistry.versions]
  | append_singleton calls call inductionHypothesis =>
    rw [versions_concat]
    simp only [List.mem_append, List.mem_singleton, or_and_right, exists_or, exists_eq_left,
      ← inductionHypothesis]
    by_cases same : key = call.key
    · rw [if_pos same, ← AList.mem_keys, AList.mem_insert, AList.mem_keys, or_comm]
      simp [same, eq_comm]
    · rw [if_neg same]
      simp [Ne.symm same]

/-! ### What is selected -/

/-- The pattern is registered for the method and matches the path. -/
def Candidate (calls : List Registration) (method urlPath pattern : String) : Prop :=
  (∃ version, RegisteredFor calls method pattern version) ∧ matchPattern urlPath pattern = true

/-- The pattern is a candidate that no other has more literal segments than. -/
structure Selectable (calls : List Registration) (method urlPath pattern : String) : Prop where
  candidate : Candidate calls method urlPath pattern
  mostLiteral : ∀ other, Candidate calls method urlPath other →
    countLiteralSegments other ≤ countLiteralSegments pattern

/-- The candidates are the patterns of the entries that fit. -/
theorem candidate_iff (calls : List Registration) (method urlPath pattern : String) :
    Candidate calls method urlPath pattern ↔
      ∃ entry ∈ (registerAll calls).routes.entries,
        entry.1.pattern = pattern ∧ fits method urlPath entry = true := by
  have registered : (∃ version, RegisteredFor calls method pattern version) ↔
      (⟨CaseMapping.toUpper method, pattern⟩ : RouteKey) ∈ (registerAll calls).routes := by
    rw [mem_routes_iff]
    simp [RegisteredFor]
  rw [Candidate, registered]
  constructor
  · rintro ⟨member, matched⟩
    obtain ⟨versions, found⟩ := Option.isSome_iff_exists.mp (AList.lookup_isSome.mpr member)
    refine ⟨⟨_, versions⟩, AList.mem_lookup_iff.mp found, rfl, ?_⟩
    simp [fits, matched]
  · rintro ⟨⟨⟨entryMethod, entryPattern⟩, versions⟩, member, rfl, fit⟩
    rw [fits, Bool.and_eq_true, decide_eq_true_eq] at fit
    obtain ⟨rfl, matched⟩ := fit
    exact ⟨AList.lookup_isSome.mp (by rw [AList.mem_lookup_iff.mpr member]; rfl), matched⟩

/-- The pattern of a most specific entry is selectable. -/
theorem selectable_of_mostSpecific (calls : List Registration) (method urlPath : String)
    (entry : RouteEntry) (best : MostSpecific (registerAll calls) method urlPath entry) :
    Selectable calls method urlPath entry.1.pattern where
  candidate := (candidate_iff calls method urlPath _).mpr ⟨entry, best.1, rfl, best.2.1⟩
  mostLiteral := by
    intro other candidate
    obtain ⟨otherEntry, member, rfl, fit⟩ := (candidate_iff calls method urlPath other).mp candidate
    exact best.2.2 otherEntry member fit

/-- The versions of an entry that fits are those registered for its pattern. -/
theorem mem_keys_iff_registeredFor (calls : List Registration) (method urlPath version : String)
    (entry : RouteEntry) (member : entry ∈ (registerAll calls).routes.entries)
    (fit : fits method urlPath entry = true) :
    version ∈ entry.2.keys ↔ RegisteredFor calls method entry.1.pattern version := by
  rw [fits, Bool.and_eq_true, decide_eq_true_eq] at fit
  rw [← versions_of_mem _ entry member, mem_versions_iff, RegisteredFor, ← fit.1]

/-- Both answers, in one order of the maps, are about the pattern. -/
structure ReportsOn (calls : List Registration) (order : RangeOrder (registerAll calls))
    (method urlPath pattern : String) : Prop where
  lookup : ∀ version,
    ((registerAll calls).lookup order method urlPath version).2 = true ↔
      RegisteredFor calls method pattern version
  increasing : ((registerAll calls).supportedVersions order method urlPath).Pairwise (· < ·)
  supported : ∀ version,
    version ∈ (registerAll calls).supportedVersions order method urlPath ↔
      RegisteredFor calls method pattern version

/-- The answers are about the pattern of the entry that is matched. -/
theorem reportsOn_matched (calls : List Registration) (order : RangeOrder (registerAll calls))
    (method urlPath : String) (entry : RouteEntry)
    (matched : matchedEntry order.routes method urlPath = some entry)
    (best : MostSpecific (registerAll calls) method urlPath entry) :
    ReportsOn calls order method urlPath entry.1.pattern := by
  have versions (version : String) :=
    mem_keys_iff_registeredFor calls method urlPath version entry best.1 best.2.1
  have listed := supportedVersions_eq _ order method urlPath entry matched best.1
  refine ⟨fun version => ?_, ?_, fun version => ?_⟩
  · rw [lookup_eq _ order method urlPath version entry matched,
      marked_lookup _ (registerAll_marked calls), versions_of_mem _ entry best.1]
    exact versions version
  · rw [listed]
    exact sortStrings_strictly _ entry.2.keys_nodup
  · rw [listed, mem_sortStrings]
    exact versions version

/-- Whatever was registered and in whichever order the maps are visited: an endpoint is found
exactly when a pattern that is registered for the method matches the path, and then both answers
are about such a pattern with the most literal segments; otherwise there is no version. -/
theorem lookup_selects (calls : List Registration) (order : RangeOrder (registerAll calls))
    (method urlPath : String) :
    (∀ version, ((registerAll calls).lookup order method urlPath version).1 = true ↔
        ∃ pattern, Candidate calls method urlPath pattern) ∧
      ((∃ pattern, Candidate calls method urlPath pattern) →
        ∃ pattern, Selectable calls method urlPath pattern ∧
          ReportsOn calls order method urlPath pattern) ∧
      ((¬∃ pattern, Candidate calls method urlPath pattern) →
        (∀ version, (registerAll calls).lookup order method urlPath version = (false, false)) ∧
          (registerAll calls).supportedVersions order method urlPath = []) := by
  rcases matchedEntry_cases (registerAll calls) order method urlPath with
    ⟨unmatched, unfit⟩ | ⟨entry, matched, best⟩
  · have absent : ¬∃ pattern, Candidate calls method urlPath pattern := by
      rintro ⟨pattern, candidate⟩
      obtain ⟨entry, member, _, fit⟩ := (candidate_iff calls method urlPath pattern).mp candidate
      rw [unfit entry member] at fit
      cases fit
    have nothing (version : String) :
        (registerAll calls).lookup order method urlPath version = (false, false) := by
      rw [RouteVersionRegistry.lookup, unmatched]
    have unlisted : (registerAll calls).supportedVersions order method urlPath = [] := by
      rw [RouteVersionRegistry.supportedVersions, unmatched]
    refine ⟨fun version => ?_, fun found => absurd found absent, fun _ => ⟨nothing, unlisted⟩⟩
    rw [nothing version]
    exact iff_of_false Bool.false_ne_true absent
  · have selectable := selectable_of_mostSpecific calls method urlPath entry best
    have found : ∃ pattern, Candidate calls method urlPath pattern := ⟨_, selectable.candidate⟩
    refine ⟨fun version => ?_, fun _ => ⟨entry.1.pattern, selectable, ?_⟩,
      fun absent => absurd found absent⟩
    · rw [lookup_eq _ order method urlPath version entry matched]
      exact iff_of_true rfl found
    · exact reportsOn_matched calls order method urlPath entry matched best

end Selection

-- A literal pattern with two versions is selected over a parameter, whichever is visited first.
example :
    let calls : List Registration := [⟨"post", "/domains/search", "v2"⟩,
      ⟨"POST", "/domains/:id_or_name", "v3"⟩, ⟨"POST", "/domains/search", "v1"⟩]
    let registry := @registerAll asciiCase calls
    @RouteVersionRegistry.supportedVersions asciiCase registry (listOrder registry) "POST"
        "/domains/search/" = ["v1", "v2"] ∧
      @RouteVersionRegistry.supportedVersions asciiCase registry (reverseOrder registry) "POST"
        "/domains/search/" = ["v1", "v2"] := by
  decide +kernel

end SharedGo.Versioning
