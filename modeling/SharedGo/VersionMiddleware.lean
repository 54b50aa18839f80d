/-
This file models the versioning middleware: the strategies that read a version
from a request, and one pass of the middleware over a request. A pass ends in
one of three ways. It lets the request through to the handlers of its route, it
answers with a problem, or it rewrites the path and has the engine dispatch the
request again, which starts another pass. The configured version format is the
predicate its compiled regular expression decides.
-/

import SharedGo.RouteRegistry

namespace SharedGo.Versioning

open SharedGo Text

/-! ### Requests -/

/-- The parts of a request the middleware reads. Header values are kept under their canonical
keys. -/
structure Request where
  method : String
  path : String
  header : List (String × List String)
  query : List (String × List String)

def isTokenChar (char : Char) : Bool :=
  char.isAlphanum || "!#$%&'*+-.^_|~".toList.contains char || char.toNat = 0x60

/-- Upper-cases a letter that starts a word and lower-cases the others. -/
def canonicalGo : Bool → List Char → List Char
  | _, [] => []
  | wordStart, char :: rest =>
    (if wordStart then char.toUpper else char.toLower) :: canonicalGo (char = '-') rest

/-- `http.CanonicalHeaderKey`: a key with a character outside the token alphabet is left
alone. -/
def canonicalHeaderKey (key : String) : String :=
  if key.toList.all isTokenChar then String.ofList (canonicalGo true key.toList) else key

/-- `c.GetHeader`: the first value, or the empty string. -/
def Request.getHeader (request : Request) (name : String) : String :=
  ((request.header.lookup (canonicalHeaderKey name)).bind List.head?).getD ""

/-- `c.Query`: the first value, or the empty string. -/
def Request.getQuery (request : Request) (name : String) : String :=
  ((request.query.lookup name).bind List.head?).getD ""

/-! ### Reading the version -/

/-- The version-reading strategies. -/
inductive VersionReadingStrategy where
  | header (headerName : String)
  | queryString (paramName : String)
  | urlSegment
  | composite (strategies : List VersionReadingStrategy)

/-- A header that is present but empty counts as found. -/
def readHeader (headerName : String) (request : Request) : Option String :=
  if request.getHeader headerName ≠ "" then some (request.getHeader headerName)
  else if (request.header.lookup (canonicalHeaderKey headerName)).isSome then some ""
  else none

def readQueryString (paramName : String) (request : Request) : Option String :=
  if request.getQuery paramName = "" then none else some (request.getQuery paramName)

/-- The segment right after `/api/`, when it starts with `v` and is longer than that. -/
def readUrlSegment (path : String) : Option String :=
  if !hasPrefix path "/api/" then none
  else
    let remainder := String.ofList (path.toList.drop "/api/".length)
    let candidate := before remainder '/'
    if hasPrefix candidate "v" && decide (candidate.toList.length > 1) then some candidate
    else none

mutual

/-- The version a strategy finds. -/
def VersionReadingStrategy.readVersion (request : Request) :
    VersionReadingStrategy → Option String
  | .header headerName => readHeader headerName request
  | .queryString paramName => readQueryString paramName request
  | .urlSegment => readUrlSegment request.path
  | .composite strategies => readFirst request strategies

/-- The first strategy that finds a version wins. -/
def readFirst (request : Request) : List VersionReadingStrategy → Option String
  | [] => none
  | strategy :: rest =>
    match strategy.readVersion request with
    | some version => some version
    | none => readFirst request rest

end

/-! ### Configuration -/

/-- The name of the default version header. -/
def defaultVersionHeaderName : String := "x-version"

def defaultVersionValue : String := "v1"

/-- The default format, `^v\d+(b\d+)?$`. -/
def defaultVersionFormat (version : String) : Bool :=
  match version.toList with
  | 'v' :: rest =>
    !(rest.takeWhile Char.isDigit).isEmpty &&
      match rest.dropWhile Char.isDigit with
      | [] => true
      | 'b' :: beta => !beta.isEmpty && beta.all Char.isDigit
      | _ => false
  | _ => false

/-- The middleware's configuration. -/
structure Config where
  defaultVersion : String
  assumeDefaultVersionWhenUnspecified : Bool
  reportApiVersions : Bool
  reader : Option VersionReadingStrategy
  versionFormat : String → Bool

def defaultConfig : Config where
  defaultVersion := defaultVersionValue
  assumeDefaultVersionWhenUnspecified := false
  reportApiVersions := false
  reader := some (.header defaultVersionHeaderName)
  versionFormat := defaultVersionFormat

/-- An unset reader is the default header. -/
def Config.effectiveReader (config : Config) : VersionReadingStrategy :=
  config.reader.getD (.header defaultVersionHeaderName)

/-- The default replaces an empty version, and an absent one when the configuration says so. -/
def Config.orDefault (config : Config) : Option String → Option String
  | none =>
    if config.assumeDefaultVersionWhenUnspecified then some config.defaultVersion else none
  | some version => some (if version = "" then config.defaultVersion else version)

/-- The version a request is processed with. -/
def Config.effectiveVersion (config : Config) (request : Request) : Option String :=
  config.orDefault (config.effectiveReader.readVersion request)

/-! ### Paths -/

/-- Whether a request is versioned at all. -/
def shouldVersionRoute (request : Request) : Bool :=
  if request.path = "/" ∨ request.path = "/health" ∨ hasPrefix request.path "/test" ∨
      hasPrefix request.path "/swagger" ∨ request.method = "OPTIONS" then false
  else hasPrefix request.path "/api"

/-- Whether the second segment of the path is the version. -/
def hasVersionPrefix (path version : String) : Bool :=
  (fields path '/').zipIdx.any fun (segment, index) => segment = version ∧ index = 1

/-- Strips the `/api` prefix. -/
def extractBasePath (urlPath : String) : String :=
  if hasPrefix urlPath "/api" then
    let result := String.ofList (urlPath.toList.drop "/api".length)
    if result = "" then "/" else result
  else urlPath

/-- Strips the `/api` prefix and a version segment after it. -/
def extractBasePathForLookup (urlPath : String) : String :=
  let base := extractBasePath urlPath
  match base.toList with
  | '/' :: rest =>
    let candidate := rest.takeWhile (· ≠ '/')
    if candidate.length < rest.length ∧ candidate.head? = some 'v' ∧ candidate.length > 1 then
      String.ofList (rest.drop candidate.length)
    else base
  | _ => base

/-- The path with the version put after its first `/api`. -/
def rewritePath (path version : String) : String :=
  let uriSegments := splitAfter path "/api"
  let segments := uriSegments.tail
  "/api/" ++ version ++ join "" segments

/-! ### One pass -/

/-- A problem response. -/
structure Problem where
  typeURI : String
  title : String
  status : Nat
  detail : String
  instancePath : String
  deriving DecidableEq, Repr

/-- The response of `writeProblem`, which also aborts the request. -/
def writeProblem (request : Request) (detail : String) : Problem where
  typeURI := "https://tools.ietf.org/html/rfc7231#section-6.5.1"
  title := "Bad Request"
  status := 400
  detail := detail
  instancePath := request.path

/-- How a pass ends. -/
inductive Outcome where
  | next
  | problem (problem : Problem)
  | redispatch (path : String)
  deriving DecidableEq, Repr

/-- What a pass does: the response headers it sets and how it ends. -/
structure Pass where
  headers : List (String × String)
  outcome : Outcome
  deriving DecidableEq, Repr

/-- A registry together with the map orders of one consultation. -/
structure Consultation where
  registry : RouteVersionRegistry
  order : RangeOrder registry

section Middleware

variable [CaseMapping]

/-- What the registry says about a request for a version: whether the endpoint exists and
whether it has the version. -/
def Consultation.lookup (consultation : Consultation) (request : Request) (version : String) :
    Bool × Bool :=
  consultation.registry.lookup consultation.order request.method
    (extractBasePathForLookup request.path) version

/-- The endpoint exists without the version. -/
def Consultation.rejects (consultation : Consultation) (request : Request) (version : String) :
    Bool :=
  (consultation.lookup request version).1 && !(consultation.lookup request version).2

/-- The header that reports the endpoint's versions, when it is asked for. -/
def reportHeaders (config : Config) (consultation : Consultation) (request : Request)
    (version : String) : List (String × String) :=
  if config.reportApiVersions && (consultation.lookup request version).1 then
    [("api-supported-versions", join ", " (consultation.registry.supportedVersions
      consultation.order request.method (extractBasePathForLookup request.path)))]
  else []

/-- The last step: let a path that carries the version through, rewrite any other. -/
def dispatchOutcome (request : Request) (version : String) : Outcome :=
  if hasVersionPrefix request.path version then .next
  else .redispatch (rewritePath request.path version)

/-- One pass of the middleware. -/
def pass (config : Config) (consultation : Option Consultation) (request : Request) : Pass :=
  if !shouldVersionRoute request then ⟨[], .next⟩
  else
    match config.effectiveVersion request with
    | none => ⟨[], .problem (writeProblem request "Missing API version")⟩
    | some version =>
      let headers := [(defaultVersionHeaderName, version)]
      if !config.versionFormat version then
        ⟨headers, .problem (writeProblem request "Invalid API version format")⟩
      else
        match consultation with
        | none => ⟨headers, dispatchOutcome request version⟩
        | some consultation =>
          if consultation.rejects request version then
            ⟨headers, .problem (writeProblem request "Unsupported API version")⟩
          else
            ⟨headers ++ reportHeaders config consultation request version,
              dispatchOutcome request version⟩

end Middleware

end SharedGo.Versioning
