/-
This file is about the paths of versioned requests. The rewrite and the check for
a version in the path fit together for every rest of a path, so a version is put
into a path once. The other functions decide by the look of a text: the lookup
path and the URL-segment strategy take any segment that starts with `v` for a
version, and every path that starts with `/api` counts as under it. For each of
them it is proved exactly where this agrees with the documented rule about
versions and segments.
-/

import SharedGo.Redispatch

namespace SharedGo.Versioning

open SharedGo Text

/-! ### Versions of the default format -/

theorem looksLikeVersion_iff (text : String) :
    looksLikeVersion text = true ↔ ∃ first rest, text.toList = 'v' :: first :: rest := by
  rw [looksLikeVersion, Bool.and_eq_true, hasPrefix_iff, decide_eq_true_eq]
  constructor
  · rintro ⟨⟨tail, rfl⟩, long⟩
    cases chars : tail.toList with
    | nil => simp [chars] at long
    | cons first rest => exact ⟨first, rest, by simp [chars]⟩
  · rintro ⟨first, rest, chars⟩
    refine ⟨⟨String.ofList (first :: rest), ?_⟩, by simp [chars]⟩
    rw [← String.toList_inj, chars]
    simp

/-- A version of the default format is a `v` and digits, and then nothing or a `b` and digits. -/
theorem defaultVersionFormat_chars (version : String)
    (format : defaultVersionFormat version = true) :
    ∃ first rest, version.toList = 'v' :: first :: rest ∧
      ∀ char ∈ first :: rest, char.isDigit = true ∨ char = 'b' := by
  unfold defaultVersionFormat at format
  split at format
  · rename_i rest chars
    rw [Bool.and_eq_true] at format
    obtain ⟨digits, tail⟩ := format
    have split := List.takeWhile_append_dropWhile (p := Char.isDigit) (l := rest)
    have fromDigits : ∀ char ∈ rest.takeWhile Char.isDigit, char.isDigit = true ∨ char = 'b' :=
      fun char member => Or.inl (List.mem_takeWhile_imp member)
    have fromTail : ∀ char ∈ rest.dropWhile Char.isDigit, char.isDigit = true ∨ char = 'b' := by
      split at tail
      · rename_i empty
        simp [empty]
      · rename_i beta isBeta
        rw [Bool.and_eq_true, List.all_eq_true] at tail
        rw [isBeta]
        intro char member
        rcases List.mem_cons.mp member with rfl | member
        · exact Or.inr rfl
        · exact Or.inl (tail.2 char member)
      · cases tail
    have all : ∀ char ∈ rest, char.isDigit = true ∨ char = 'b' := by
      intro char member
      rw [← split] at member
      exact (List.mem_append.mp member).elim (fromDigits char) (fromTail char)
    cases rest with
    | nil => cases digits
    | cons first rest => exact ⟨first, rest, chars, all⟩
  · cases format

theorem isSegment_of_defaultVersionFormat (version : String)
    (format : defaultVersionFormat version = true) : IsSegment version := by
  obtain ⟨first, rest, chars, all⟩ := defaultVersionFormat_chars version format
  refine ⟨?_, ?_⟩
  · rintro rfl
    cases chars
  · rw [chars]
    intro member
    rcases List.mem_cons.mp member with slash | member
    · exact absurd slash (by decide)
    · exact absurd (all '/' member) (by decide)

theorem looksLikeVersion_of_defaultVersionFormat (version : String)
    (format : defaultVersionFormat version = true) : looksLikeVersion version = true := by
  obtain ⟨first, rest, chars, _⟩ := defaultVersionFormat_chars version format
  exact (looksLikeVersion_iff version).mpr ⟨first, rest, chars⟩

/-! ### The lookup path -/

/-- The first segment of the path looks like a version, and another one follows. -/
def StartsLikeVersion (path : String) : Prop :=
  ∃ segment rest, path = "/" ++ segment ++ ("/" ++ rest) ∧ '/' ∉ segment.toList ∧
    looksLikeVersion segment = true

theorem extractBasePath_api (path : String) (rooted : ∃ tail, path = "/" ++ tail) :
    extractBasePath ("/api" ++ path) = path := by
  obtain ⟨tail, rfl⟩ := rooted
  have under : hasPrefix ("/api" ++ ("/" ++ tail)) "/api" = true :=
    (hasPrefix_iff _ _).mpr ⟨_, rfl⟩
  have dropped : String.ofList (("/api" ++ ("/" ++ tail)).toList.drop "/api".length) =
      "/" ++ tail := by
    rw [String.toList_append, ← String.toList_inj, String.toList_ofList]
    rfl
  have nonempty : "/" ++ tail ≠ "" := by simp [← String.toList_inj]
  simp only [extractBasePath, under, dropped, if_true, if_neg nonempty]

/-- A first segment that looks like a version is left out of the lookup path. -/
theorem lookupPath_like (segment rest : String) (noSlash : '/' ∉ segment.toList)
    (like : looksLikeVersion segment = true) :
    extractBasePathForLookup ("/api" ++ ("/" ++ segment ++ ("/" ++ rest))) = "/" ++ rest := by
  have base := extractBasePath_api ("/" ++ segment ++ ("/" ++ rest))
    ⟨segment ++ ("/" ++ rest), String.append_assoc⟩
  have chars : ("/" ++ segment ++ ("/" ++ rest)).toList =
      '/' :: (segment.toList ++ '/' :: rest.toList) := by simp
  have candidate : (segment.toList ++ '/' :: rest.toList).takeWhile (· ≠ '/') =
      segment.toList := by
    rw [List.takeWhile_append_of_pos]
    · simp
    · intro char member
      simp only [decide_eq_true_eq]
      rintro rfl
      exact noSlash member
  obtain ⟨first, more, version⟩ := (looksLikeVersion_iff segment).mp like
  unfold extractBasePathForLookup
  rw [base]
  simp only [chars, candidate]
  rw [if_pos ⟨by simp, by simp [version], by simp [version]⟩, List.drop_left, ← String.toList_inj]
  simp

/-- Any other path is the lookup path itself. -/
theorem lookupPath_other (path : String) (rooted : ∃ tail, path = "/" ++ tail)
    (other : ¬StartsLikeVersion path) : extractBasePathForLookup ("/api" ++ path) = path := by
  unfold extractBasePathForLookup
  rw [extractBasePath_api path rooted]
  dsimp only
  split
  · rename_i rest chars
    refine if_neg ?_
    rintro ⟨shorter, head, long⟩
    obtain ⟨tail, rfl⟩ := rooted
    obtain rfl : tail.toList = rest := by simpa using chars
    refine other ?_
    obtain ⟨left, split, cut⟩ := exists_cut tail '/'
    have candidate : (before tail '/').toList = tail.toList.takeWhile (· ≠ '/') := by
      rw [before, String.toList_ofList]
    rcases cut with rfl | ⟨behind, rfl⟩
    · rw [String.append_empty] at split
      rw [← candidate, ← split] at shorter
      exact absurd shorter (Nat.lt_irrefl _)
    · refine ⟨before tail '/', behind, ?_, not_mem_before tail '/', ?_⟩
      · rw [String.append_assoc]
        exact congrArg ("/" ++ ·) split
      · rw [← candidate] at head long
        obtain ⟨more, chars⟩ := List.head?_eq_some_iff.mp head
        refine (looksLikeVersion_iff _).mpr ?_
        cases more with
        | nil => simp [chars] at long
        | cons first rest => exact ⟨first, rest, chars⟩
  · rfl

/-- A path that starts with a version has the same lookup path as without it. -/
theorem lookupPath_versioned (version path : String)
    (format : defaultVersionFormat version = true) (rooted : ∃ tail, path = "/" ++ tail) :
    extractBasePathForLookup ("/api/" ++ version ++ path) = path := by
  obtain ⟨tail, rfl⟩ := rooted
  have split : "/api/" ++ version ++ ("/" ++ tail) =
      "/api" ++ ("/" ++ version ++ ("/" ++ tail)) := by
    rw [← String.toList_inj]
    simp
  rw [split]
  exact lookupPath_like version tail (isSegment_of_defaultVersionFormat version format).2
    (looksLikeVersion_of_defaultVersionFormat version format)

theorem lookupPath_eq_iff (path : String) (rooted : ∃ tail, path = "/" ++ tail) :
    extractBasePathForLookup ("/api" ++ path) = path ↔ ¬StartsLikeVersion path := by
  constructor
  · rintro same ⟨segment, rest, rfl, noSlash, like⟩
    rw [lookupPath_like segment rest noSlash like] at same
    have length := congrArg (fun text => text.toList.length) same
    obtain ⟨first, more, version⟩ := (looksLikeVersion_iff segment).mp like
    have long := congrArg List.length version
    simp only [List.length_cons] at long
    simp only [String.toList_append, List.length_append] at length
    omega
  · exact lookupPath_other path rooted

/-- With and without a version of the default format, the registry is asked for the resource path,
and so for the same path before a rewrite and after it, exactly when the resource path does not
start with a segment that looks like a version. -/
theorem lookupPath_unversioned_iff (version path : String)
    (format : defaultVersionFormat version = true) (rooted : ∃ tail, path = "/" ++ tail) :
    ((extractBasePathForLookup ("/api" ++ path) = path ∧
          extractBasePathForLookup ("/api/" ++ version ++ path) = path) ↔
        ¬StartsLikeVersion path) ∧
      (extractBasePathForLookup ("/api" ++ path) =
          extractBasePathForLookup (rewritePath ("/api" ++ path) version) ↔
        ¬StartsLikeVersion path) := by
  have versioned := lookupPath_versioned version path format rooted
  refine ⟨?_, ?_⟩
  · rw [and_iff_left versioned]
    exact lookupPath_eq_iff path rooted
  · rw [rewritePath_api, versioned]
    exact lookupPath_eq_iff path rooted

theorem lookupPath_domains :
    ((extractBasePathForLookup ("/api" ++ "/domains/5") = "/domains/5" ∧
          extractBasePathForLookup ("/api/" ++ "v1" ++ "/domains/5") = "/domains/5") ↔
        ¬StartsLikeVersion "/domains/5") ∧
      (extractBasePathForLookup ("/api" ++ "/domains/5") =
          extractBasePathForLookup (rewritePath ("/api" ++ "/domains/5") "v1") ↔
        ¬StartsLikeVersion "/domains/5") :=
  lookupPath_unversioned_iff "v1" "/domains/5" (by decide) ⟨"domains/5", by decide⟩

/-- The segment `vendors` is no version of the default format, and it is left out all the same. -/
theorem lookupPath_vendors :
    defaultVersionFormat "vendors" = false ∧
      extractBasePathForLookup ("/api" ++ "/vendors/5") = "/5" ∧
      extractBasePathForLookup ("/api/" ++ "v1" ++ "/vendors/5") = "/vendors/5" := by
  decide

/-! ### The segment after `/api` -/

/-- A service that reads the version from the URL segment and assumes the default version where
there is none. -/
def urlVersioned (defaultVersion : String) (reportApiVersions : Bool) : Config where
  defaultVersion := defaultVersion
  assumeDefaultVersionWhenUnspecified := true
  reportApiVersions := reportApiVersions
  reader := some .urlSegment
  versionFormat := defaultVersionFormat

/-- The segment after `/api`, for what follows `/api` in a path. -/
def segmentAfter (rest : String) : Option String :=
  if hasPrefix rest "/" then some (before (String.ofList (rest.toList.drop 1)) '/') else none

/-- The version that a request should be processed with: its segment after `/api` if that is a
version of the default format, and the default version otherwise. -/
def expectedVersion (defaultVersion rest : String) : String :=
  match segmentAfter rest with
  | some segment => if defaultVersionFormat segment then segment else defaultVersion
  | none => defaultVersion

/-- The segment after `/api` is a version, or nothing there looks like one and the default version
has the format. -/
def SegmentDecides (defaultVersion rest : String) : Prop :=
  (segmentAfter rest).any defaultVersionFormat = true ∨
    ((∀ segment ∈ segmentAfter rest, ¬looksLikeVersion segment = true) ∧
      defaultVersionFormat defaultVersion = true)

instance (defaultVersion rest : String) : Decidable (SegmentDecides defaultVersion rest) :=
  inferInstanceAs (Decidable ((segmentAfter rest).any defaultVersionFormat = true ∨
    ((∀ segment ∈ segmentAfter rest, ¬looksLikeVersion segment = true) ∧
      defaultVersionFormat defaultVersion = true)))

/-- A pass processes the request with the version: it announces it, and does not refuse it for its
format. -/
def ProcessedWith [CaseMapping] (config : Config) (consultation : Option Consultation)
    (request : Request) (version : String) : Prop :=
  (pass config consultation request).headers.head? = some (defaultVersionHeaderName, version) ∧
    (pass config consultation request).outcome ≠
      .problem (writeProblem request "Invalid API version format")

/-- The service processes the request with the version: every pass does, and there is a last one. -/
structure Service.Processes [CaseMapping] (service : Service) (request : Request)
    (version : String) : Prop where
  announced : ∀ count path, service.rewrites request count = some path →
    ProcessedWith service.config (service.consultation count) { request with path } version
  ends : ∃ count, service.rewrites request count = none

theorem readUrlSegment_segmentAfter (rest : String) :
    readUrlSegment ("/api" ++ rest) =
      (segmentAfter rest).filter looksLikeVersion := by
  unfold segmentAfter
  by_cases slash : hasPrefix rest "/" = true
  · obtain ⟨tail, rfl⟩ := (hasPrefix_iff _ _).mp slash
    have path : "/api" ++ ("/" ++ tail) = "/api/" ++ tail := by
      rw [← String.toList_inj]
      simp
    have dropped : String.ofList (("/" ++ tail).toList.drop 1) = tail := by
      rw [← String.toList_inj]
      simp
    rw [path, readUrlSegment_api, if_pos slash, dropped, Option.filter_some]
  · have under : hasPrefix ("/api" ++ rest) "/api/" = false := by
      rw [← Bool.not_eq_true, hasPrefix_iff]
      rintro ⟨tail, path⟩
      refine slash ((hasPrefix_iff _ _).mpr ⟨tail, ?_⟩)
      rw [← String.toList_inj] at path ⊢
      simpa using path
    rw [if_neg slash]
    simp [readUrlSegment, under]

section Middleware

variable [CaseMapping]

/-- A versioned request with a version has it announced, whatever comes of it. -/
theorem announced_of_answered (config : Config) (consultation : Option Consultation)
    (request : Request) (version : String) (versioned : shouldVersionRoute request = true)
    (answered : config.effectiveVersion request = some version) :
    (pass config consultation request).headers.head? =
      some (defaultVersionHeaderName, version) := by
  cases format : config.versionFormat version with
  | false => simp [pass, versioned, answered, format]
  | true =>
    cases consultation with
    | none => simp [pass, versioned, answered, format]
    | some consulted =>
      cases rejected : consulted.rejects request version with
      | true => simp [pass, versioned, answered, format, rejected]
      | false => simp [pass, versioned, answered, format, rejected]

/-- A version that has the format is not refused for it. -/
theorem accepted_of_format (config : Config) (consultation : Option Consultation)
    (request : Request) (version : String) (versioned : shouldVersionRoute request = true)
    (answered : config.effectiveVersion request = some version)
    (format : config.versionFormat version = true) :
    (pass config consultation request).outcome ≠
      .problem (writeProblem request "Invalid API version format") := by
  have dispatched : dispatchOutcome request version ≠
      .problem (writeProblem request "Invalid API version format") := by
    unfold dispatchOutcome
    split <;> simp
  cases consultation with
  | none => simpa [pass, versioned, answered, format] using dispatched
  | some consulted =>
    cases rejected : consulted.rejects request version with
    | true => simp [pass, versioned, answered, format, rejected, writeProblem]
    | false => simpa [pass, versioned, answered, format, rejected] using dispatched

/-- A versioned request with a version is processed with it exactly when it has the format. -/
theorem processedWith_iff (config : Config) (consultation : Option Consultation)
    (request : Request) (read version : String) (versioned : shouldVersionRoute request = true)
    (answered : config.effectiveVersion request = some read) :
    ProcessedWith config consultation request version ↔
      read = version ∧ config.versionFormat read = true := by
  rw [ProcessedWith, announced_of_answered config consultation request read versioned answered]
  cases format : config.versionFormat read with
  | false => simp [pass, versioned, answered, format]
  | true =>
    simp [accepted_of_format config consultation request read versioned answered format]

omit [CaseMapping] in
/-- The version that is read: the segment after `/api` if it looks like a version, and the default
version otherwise. -/
theorem effectiveVersion_url (defaultVersion rest : String) (report : Bool) (request : Request)
    (path : request.path = "/api" ++ rest) :
    (urlVersioned defaultVersion report).effectiveVersion request =
      some (((segmentAfter rest).filter looksLikeVersion).getD defaultVersion) := by
  show (urlVersioned defaultVersion report).orDefault (readUrlSegment request.path) = _
  have found := readUrlSegment_segmentAfter rest
  rw [← path] at found
  rw [← found]
  cases read : readUrlSegment request.path with
  | none => rfl
  | some segment =>
    have nonempty := (readUrlSegment_carried request.path segment read).1.1
    rw [Config.orDefault, if_neg nonempty]
    rfl

omit [CaseMapping] in
/-- The version that is read is the expected one and has the format exactly when the segment
decides. -/
theorem segmentDecides_iff (defaultVersion rest : String) :
    (((segmentAfter rest).filter looksLikeVersion).getD defaultVersion =
          expectedVersion defaultVersion rest ∧
        defaultVersionFormat (((segmentAfter rest).filter looksLikeVersion).getD defaultVersion) =
          true) ↔
      SegmentDecides defaultVersion rest := by
  unfold expectedVersion SegmentDecides
  cases segmentAfter rest with
  | none => simp
  | some segment =>
    cases like : looksLikeVersion segment with
    | true =>
      cases format : defaultVersionFormat segment <;> simp [Option.filter_some, like, format]
    | false =>
      have format : defaultVersionFormat segment = false := by
        rw [← Bool.not_eq_true]
        intro format
        rw [looksLikeVersion_of_defaultVersionFormat segment format] at like
        cases like
      simp [Option.filter_some, like, format]

omit [CaseMapping] in
/-- Once the version is in the path, it is the version that is read there. -/
theorem effectiveVersion_rewritten (defaultVersion version rest : String) (report : Bool)
    (request : Request) (format : defaultVersionFormat version = true)
    (cut : rest = "" ∨ ∃ tail, rest = "/" ++ tail) :
    (urlVersioned defaultVersion report).effectiveVersion
        { request with path := "/api/" ++ version ++ rest } = some version := by
  have segment := isSegment_of_defaultVersionFormat version format
  have first : before (version ++ rest) '/' = version := by
    rw [before, ← String.toList_inj, String.toList_ofList, String.toList_append,
      List.takeWhile_append_of_pos]
    · rcases cut with rfl | ⟨tail, rfl⟩ <;> simp
    · intro char member
      simp only [decide_eq_true_eq]
      rintro rfl
      exact segment.2 member
  show (urlVersioned defaultVersion report).orDefault
    (readUrlSegment ("/api/" ++ version ++ rest)) = _
  rw [String.append_assoc, readUrlSegment_api, first,
    looksLikeVersion_of_defaultVersionFormat version format, if_pos rfl, Config.orDefault,
    if_neg segment.1]

/-- From a path under `/api` with a version of the format, every pass sees that path or the one with
the version in it. -/
theorem rewrites_url (service : Service) (defaultVersion version rest : String) (report : Bool)
    (isUrl : service.config = urlVersioned defaultVersion report) (request : Request)
    (path : request.path = "/api" ++ rest) (cut : rest = "" ∨ ∃ tail, rest = "/" ++ tail)
    (read : service.config.effectiveVersion request = some version)
    (format : defaultVersionFormat version = true) (count : Nat) (current : String)
    (reached : service.rewrites request count = some current) :
    current = request.path ∨ current = "/api/" ++ version ++ rest := by
  induction count generalizing current with
  | zero => exact Or.inl (Option.some_inj.mp reached).symm
  | succ count inductionHypothesis =>
    obtain ⟨before, passed, again⟩ := rewrites_succ service request count current reached
    obtain ⟨_, other, readThere, _, missing, rfl⟩ := pass_redispatch _ _ _ _ again
    rcases inductionHypothesis before passed with rfl | rfl
    · obtain rfl : version = other := Option.some_inj.mp (read.symm.trans readThere)
      right
      rw [path]
      exact rewritePath_api rest version
    · -- this pass reads the version that the path carries, and does not dispatch again
      rw [isUrl, effectiveVersion_rewritten defaultVersion version rest report request format cut,
        Option.some_inj] at readThere
      subst readThere
      have segment := isSegment_of_defaultVersionFormat version format
      have carried := hasVersionPrefix_api version rest segment cut
      rw [← String.append_assoc] at carried
      rw [carried] at missing
      cases missing

/-- A request for `/api` or a path under `/api/` is processed, in every pass and behind any
registry, with its segment after `/api` if that is a version, and with the default version
otherwise, exactly when its method is not `OPTIONS` and its segment is a version or does not look
like one. -/
theorem urlSegment_decides_iff (defaultVersion rest : String) (report : Bool)
    (registry : Option RouteVersionRegistry)
    (orders : (registry : RouteVersionRegistry) → Nat → RangeOrder registry) (request : Request)
    (path : request.path = "/api" ++ rest) (cut : rest = "" ∨ ∃ tail, rest = "/" ++ tail) :
    Service.Processes ⟨urlVersioned defaultVersion report, registry, orders⟩ request
        (expectedVersion defaultVersion rest) ↔
      request.method ≠ "OPTIONS" ∧ SegmentDecides defaultVersion rest := by
  let service : Service := ⟨urlVersioned defaultVersion report, registry, orders⟩
  have read := effectiveVersion_url defaultVersion rest report request path
  rw [← segmentDecides_iff]
  generalize ((segmentAfter rest).filter looksLikeVersion).getD defaultVersion = version at read ⊢
  have versioned (method : request.method ≠ "OPTIONS") : shouldVersionRoute request = true :=
    (shouldVersionRoute_iff request).mpr ⟨method, rest, path⟩
  constructor
  · intro processes
    have first := processes.announced 0 request.path rfl
    have method : request.method ≠ "OPTIONS" := by
      intro method
      have skipped : shouldVersionRoute request = false := by simp [shouldVersionRoute, method]
      have announced := first.1
      simp [pass, skipped] at announced
    exact ⟨method, (processedWith_iff service.config _ request _ _ (versioned method) read).mp
      first⟩
  · rintro ⟨method, expected, format⟩
    rw [← expected]
    refine ⟨fun count current reached => ?_, ?_⟩
    · rcases rewrites_url service defaultVersion version rest report rfl request path cut read
        format count current reached with rfl | rfl
      · exact (processedWith_iff service.config _ request _ _ (versioned method) read).mpr
          ⟨rfl, format⟩
      · have under : shouldVersionRoute { request with path := "/api/" ++ version ++ rest } =
            true := by
          refine (shouldVersionRoute_iff _).mpr ⟨method, "/" ++ version ++ rest, ?_⟩
          rw [← String.toList_inj]
          simp
        exact (processedWith_iff service.config _ _ _ _ under
          (effectiveVersion_rewritten defaultVersion version rest report request format cut)).mpr
          ⟨rfl, format⟩
    · refine ⟨3, rewrites_end service request (Or.inr fun other readOther _ => Or.inl ?_)⟩
      obtain rfl : version = other := Option.some_inj.mp (read.symm.trans readOther)
      exact isSegment_of_defaultVersionFormat version format

/-! ### The rewrite -/

/-- A version of the default format is put into a path under `/api` once: the rewritten path is
the one with the version after `/api`, it carries the version, and a service whose reader keeps
answering the version never rewrites a second time, nor a path that carries the version. -/
theorem rewrite_once (version rest : String) (format : defaultVersionFormat version = true)
    (cut : rest = "" ∨ ∃ tail, rest = "/" ++ tail) :
    (hasVersionPrefix ("/api" ++ rest) version = false →
        rewritePath ("/api" ++ rest) version = "/api/" ++ version ++ rest ∧
          hasVersionPrefix (rewritePath ("/api" ++ rest) version) version = true) ∧
      ∀ (service : Service) (request : Request), request.path = "/api" ++ rest →
        (∀ path, service.config.effectiveReader.readVersion { request with path } =
          some version) →
        (∀ next, service.rewrites request 1 = some next → next = "/api/" ++ version ++ rest) ∧
          service.rewrites request 2 = none ∧
          (hasVersionPrefix request.path version = true → service.rewrites request 1 = none) := by
  have segment := isSegment_of_defaultVersionFormat version format
  have carried : hasVersionPrefix (rewritePath ("/api" ++ rest) version) version = true := by
    rw [rewritePath_api, String.append_assoc]
    exact hasVersionPrefix_api version rest segment cut
  refine ⟨fun _ => ⟨rewritePath_api rest version, carried⟩, ?_⟩
  intro service request path keeps
  -- whatever path a pass sees, it reads the version, and rewrites only a path without it
  have rewritten (count : Nat) (current next : String)
      (again : service.outcome request count current = .redispatch next) :
      hasVersionPrefix current version = false ∧ next = rewritePath current version := by
    obtain ⟨_, other, read, _, missing, rfl⟩ := pass_redispatch _ _ _ _ again
    rw [Config.effectiveVersion, keeps, Config.orDefault, if_neg segment.1,
      Option.some_inj] at read
    subst read
    exact ⟨missing, rfl⟩
  have first (next : String) (once : service.rewrites request 1 = some next) :
      hasVersionPrefix request.path version = false ∧ next = rewritePath request.path version := by
    obtain ⟨current, start, again⟩ := rewrites_succ service request 0 next once
    obtain rfl : request.path = current := Option.some_inj.mp start
    exact rewritten 0 _ next again
  refine ⟨?_, ?_, ?_⟩
  · intro next once
    rw [(first next once).2, path, rewritePath_api]
  · cases twice : service.rewrites request 2 with
    | none => rfl
    | some next =>
      obtain ⟨current, once, again⟩ := rewrites_succ service request 1 next twice
      have missing := (rewritten 1 current next again).1
      rw [(first current once).2, path, carried] at missing
      cases missing
  · intro already
    cases once : service.rewrites request 1 with
    | none => rfl
    | some next =>
      have missing := (first next once).1
      rw [already] at missing
      cases missing

/-! ### Paths outside of `/api` -/

/-- A pass leaves a request alone, with nothing read, announced or answered, exactly when its
method is `OPTIONS` or its path does not start with the text `/api`. -/
theorem left_alone_iff (config : Config) (consultation : Option Consultation)
    (request : Request) :
    pass config consultation request = ⟨[], .next⟩ ↔
      request.method = "OPTIONS" ∨ hasPrefix request.path "/api" = false := by
  have skipped : shouldVersionRoute request = false ↔
      request.method = "OPTIONS" ∨ hasPrefix request.path "/api" = false := by
    rw [← Bool.not_eq_true, shouldVersionRoute_iff, ← hasPrefix_iff, not_and_or, not_not,
      Bool.not_eq_true]
  rw [← skipped]
  constructor
  · intro alone
    by_contra versioned
    rw [Bool.not_eq_false] at versioned
    cases answered : config.effectiveVersion request with
    | none => simp [pass, versioned, answered] at alone
    | some version =>
      have announced :=
        announced_of_answered config consultation request version versioned answered
      rw [alone] at announced
      cases announced
  · intro unversioned
    simp [pass, unversioned]

end Middleware

/-- A request without headers and parameters. -/
def plainRequest (path : String) : Request := ⟨"GET", path, [], []⟩

/-- The resource `domains` is not a version and does not look like one. -/
theorem urlSegment_domains :
    @Service.Processes asciiCase
      ⟨urlVersioned "v1" true, none, fun registry _ => listOrder registry⟩
      (plainRequest "/api/domains") "v1" :=
  (@urlSegment_decides_iff asciiCase "v1" "/domains" true none
    (fun registry _ => listOrder registry) (plainRequest "/api/domains") (by decide)
    (Or.inr ⟨"domains", by decide⟩)).mpr (by decide)

/-- The segment `vendors` is read as a version and refused. -/
theorem urlSegment_vendors :
    defaultVersionFormat "vendors" = false ∧
      @pass asciiCase (urlVersioned "v1" false) none (plainRequest "/api/vendors") =
        ⟨[("x-version", "vendors")], .problem
          (writeProblem (plainRequest "/api/vendors") "Invalid API version format")⟩ := by
  decide +kernel

/-- The default configuration reads a header, which stays what it is on every path. -/
theorem rewrite_once_nested :
    let request : Request := ⟨"GET", "/api/x/api//v1", [("X-Version", ["v1"])], []⟩
    let service : Service := ⟨defaultConfig, none, fun registry _ => listOrder registry⟩
    rewritePath ("/api" ++ "/x/api//v1") "v1" = "/api/" ++ "v1" ++ "/x/api//v1" ∧
      @Service.rewrites asciiCase service request 1 = some "/api/v1/x/api//v1" ∧
      @Service.rewrites asciiCase service request 2 = none := by
  intro request service
  obtain ⟨rewritten, passes⟩ := @rewrite_once asciiCase "v1" "/x/api//v1" (by decide)
    (Or.inr ⟨"x/api//v1", by decide⟩)
  have keeps (path : String) :
      service.config.effectiveReader.readVersion { request with path } = some "v1" := by
    show readHeader defaultVersionHeaderName request = some "v1"
    decide
  exact ⟨(rewritten (by decide)).1, by decide +kernel,
    (passes service request (by decide) keeps).2.1⟩

/-- The first segment `apiary` is not `api`, and the request is answered with a problem or sent to
another path. -/
theorem apiary_versioned :
    fields "/apiary/bees" '/' = ["apiary", "bees"] ∧
      (@pass asciiCase defaultConfig none (plainRequest "/apiary/bees")).outcome =
        .problem (writeProblem (plainRequest "/apiary/bees") "Missing API version") ∧
      (@pass asciiCase defaultConfig none
          { plainRequest "/apiary/bees" with header := [("X-Version", ["v1"])] }).outcome =
        .redispatch "/api/v1ary/bees" := by
  decide +kernel

end SharedGo.Versioning
