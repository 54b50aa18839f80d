/-
This file models the extraction of credentials from a request and proves when it
accepts no ambiguous ones. A request can carry a credential in the Authorization
header, in the header of API keys and, if that is allowed, in a query parameter.
The first two are compared with each other, and an API key from anywhere is
compared with a bearer token; the query parameter is read only when the headers
have no API key. So the one ambiguity that is accepted is an API key in the headers
and another in the query.
-/

import SharedGo.Authentication
import SharedGo.VersionMiddleware

namespace SharedGo.Authn

open SharedGo Text

/-! ### The extractor -/

inductive CredentialType where
  | bearer
  | apiKey
  deriving DecidableEq, Repr

structure ExtractedCredential where
  type : CredentialType
  token : String
  deriving DecidableEq, Repr

def errNoCredentialsFound : AuthError :=
  ⟨"authn: no credentials found in request", [.noCredentialsFound]⟩

def errMultipleCredTypes : AuthError :=
  ⟨"authn: multiple conflicting credential types provided", [.multipleCredTypes]⟩

def errInvalidHeader : AuthError := ⟨"authn: malformed authorization header", [.invalidHeader]⟩

structure ExtractorConfig where
  apiKeyHeader : String
  allowQueryAPIKey : Bool
  apiKeyQueryParam : String
  deriving DecidableEq, Repr

def defaultExtractorConfig : ExtractorConfig := ⟨"X-API-Key", false, "api_key"⟩

structure CredentialExtractor where
  config : ExtractorConfig

/-- Names that are not given are the default ones. -/
def newCredentialExtractor (config : ExtractorConfig) : CredentialExtractor where
  config :=
    { config with
      apiKeyHeader := if config.apiKeyHeader = "" then "X-API-Key" else config.apiKeyHeader
      apiKeyQueryParam :=
        if config.apiKeyQueryParam = "" then "api_key" else config.apiKeyQueryParam }

section Extract

variable [CaseMapping]

/-- The bearer token and the API key of a trimmed Authorization header. -/
def readAuthorization (authHeader : String) : Except AuthError (String × String) :=
  if authHeader = "" then .ok ("", "")
  else
    match splitOnce authHeader ' ' with
    | [scheme, rest] =>
      let token := trimSpace rest
      if CaseMapping.toLower scheme = "bearer" then .ok (token, "")
      else if CaseMapping.toLower scheme = "apikey" ∨ CaseMapping.toLower scheme = "key" then
        .ok ("", token)
      else .error errInvalidHeader
    | _ => .error errInvalidHeader

def CredentialExtractor.extract (extractor : CredentialExtractor)
    (request : Versioning.Request) : Except AuthError ExtractedCredential :=
  let authHeader := trimSpace (request.getHeader "Authorization")
  let apiKeyHeader := trimSpace (request.getHeader extractor.config.apiKeyHeader)
  match readAuthorization authHeader with
  | .error error => .error error
  | .ok (bearerToken, authKey) =>
    if apiKeyHeader ≠ "" ∧ authKey ≠ "" ∧ authKey ≠ apiKeyHeader then .error errMultipleCredTypes
    else
      let headerKey := if apiKeyHeader ≠ "" then apiKeyHeader else authKey
      let apiKey :=
        if headerKey = "" ∧ extractor.config.allowQueryAPIKey then
          trimSpace (request.getQuery extractor.config.apiKeyQueryParam)
        else headerKey
      if bearerToken ≠ "" ∧ apiKey ≠ "" then .error errMultipleCredTypes
      else if bearerToken ≠ "" then .ok ⟨.bearer, bearerToken⟩
      else if apiKey ≠ "" then .ok ⟨.apiKey, apiKey⟩
      else .error errNoCredentialsFound

/-! ### What a request carries -/

/-- The Authorization header has the credential: a scheme, a blank and a token. -/
def AuthorizationCarries (authHeader : String) (credential : ExtractedCredential) : Prop :=
  ∃ scheme rest, authHeader = scheme ++ " " ++ rest ∧ ' ' ∉ scheme.toList ∧
    (CaseMapping.toLower scheme = "bearer" ∧ credential = ⟨.bearer, trimSpace rest⟩ ∨
      (CaseMapping.toLower scheme = "apikey" ∨ CaseMapping.toLower scheme = "key") ∧
        credential = ⟨.apiKey, trimSpace rest⟩)

section Carries

variable (extractor : CredentialExtractor) (request : Versioning.Request)

omit [CaseMapping] in
/-- The API key in the header that is for it, or nothing. -/
def headerKey : String := trimSpace (request.getHeader extractor.config.apiKeyHeader)

omit [CaseMapping] in
/-- The API key in the query, or nothing if it is not allowed there. -/
def queryKey : String :=
  if extractor.config.allowQueryAPIKey then
    trimSpace (request.getQuery extractor.config.apiKeyQueryParam)
  else ""

/-- A request carries a credential in one of the places where the extractor allows one. -/
def Carries (credential : ExtractedCredential) : Prop :=
  AuthorizationCarries (trimSpace (request.getHeader "Authorization")) credential ∨
    headerKey extractor request ≠ "" ∧ credential = ⟨.apiKey, headerKey extractor request⟩ ∨
    queryKey extractor request ≠ "" ∧ credential = ⟨.apiKey, queryKey extractor request⟩

/-- The headers of the request carry an API key and nothing besides. -/
def HeadersCarryOnly (key : String) : Prop :=
  let authHeader := trimSpace (request.getHeader "Authorization")
  authHeader = "" ∧ headerKey extractor request = key ∧ key ≠ "" ∨
    AuthorizationCarries authHeader ⟨.apiKey, key⟩ ∧
      (headerKey extractor request = "" ∨ headerKey extractor request = key)

end Carries

/-! ### Reading the Authorization header -/

/-- A header without a blank carries nothing. -/
theorem not_authorizationCarries (authHeader : String) (absent : ' ' ∉ authHeader.toList)
    (credential : ExtractedCredential) : ¬AuthorizationCarries authHeader credential := by
  rintro ⟨scheme, rest, rfl, -, -⟩
  exact absent (by simp)

/-- A header with a blank carries what its scheme says, if it is a known one. -/
theorem authorizationCarries_iff (scheme rest : String) (absent : ' ' ∉ scheme.toList)
    (credential : ExtractedCredential) :
    AuthorizationCarries (scheme ++ " " ++ rest) credential ↔
      CaseMapping.toLower scheme = "bearer" ∧ credential = ⟨.bearer, trimSpace rest⟩ ∨
        (CaseMapping.toLower scheme = "apikey" ∨ CaseMapping.toLower scheme = "key") ∧
          credential = ⟨.apiKey, trimSpace rest⟩ := by
  constructor
  · rintro ⟨otherScheme, otherRest, same, otherAbsent, known⟩
    have pieces : [scheme, rest] = [otherScheme, otherRest] := by
      rw [← splitOnce_append scheme rest ' ' absent,
        ← splitOnce_append otherScheme otherRest ' ' otherAbsent]
      exact congrArg (splitOnce · ' ') same
    obtain ⟨rfl, rfl⟩ : scheme = otherScheme ∧ rest = otherRest := by simpa using pieces
    exact known
  · intro known
    exact ⟨scheme, rest, rfl, absent, known⟩

/-- The four ways in which the reading of a trimmed Authorization header ends, with what the header
carries in each. -/
theorem readAuthorization_cases (authHeader : String)
    (trimmed : trimSpace authHeader = authHeader) :
    (authHeader = "" ∧ readAuthorization authHeader = .ok ("", "") ∧
        ∀ credential, ¬AuthorizationCarries authHeader credential) ∨
      (∃ token, authHeader ≠ "" ∧ token ≠ "" ∧ readAuthorization authHeader = .ok (token, "") ∧
        ∀ credential, AuthorizationCarries authHeader credential ↔
          credential = ⟨.bearer, token⟩) ∨
      (∃ token, authHeader ≠ "" ∧ token ≠ "" ∧ readAuthorization authHeader = .ok ("", token) ∧
        ∀ credential, AuthorizationCarries authHeader credential ↔
          credential = ⟨.apiKey, token⟩) ∨
      (authHeader ≠ "" ∧ readAuthorization authHeader = .error errInvalidHeader ∧
        ∀ credential, ¬AuthorizationCarries authHeader credential) := by
  by_cases blank : authHeader = ""
  · subst blank
    exact Or.inl ⟨rfl, rfl, not_authorizationCarries "" (by simp)⟩
  by_cases spaced : ' ' ∈ authHeader.toList
  · obtain ⟨scheme, rest, rfl, absent⟩ := exists_splitOnce authHeader ' ' spaced
    have token : trimSpace rest ≠ "" := trimSpace_ne_empty scheme rest trimmed
    have carries := authorizationCarries_iff scheme rest absent
    unfold readAuthorization
    rw [if_neg blank, splitOnce_append scheme rest ' ' absent]
    by_cases bearer : CaseMapping.toLower scheme = "bearer"
    · refine Or.inr (Or.inl ⟨trimSpace rest, blank, token, if_pos bearer, fun credential => ?_⟩)
      refine (carries credential).trans ?_
      simp [bearer]
    by_cases key : CaseMapping.toLower scheme = "apikey" ∨ CaseMapping.toLower scheme = "key"
    · refine Or.inr (Or.inr (Or.inl ⟨trimSpace rest, blank, token, ?_, fun credential => ?_⟩))
      · simp only [if_neg bearer, if_pos key]
      · refine (carries credential).trans ?_
        simp [bearer, key]
    · refine Or.inr (Or.inr (Or.inr ⟨blank, ?_, fun credential known => ?_⟩))
      · simp only [if_neg bearer, if_neg key]
      · have impossible := (carries credential).mp known
        simp [bearer, key] at impossible
  · refine Or.inr (Or.inr (Or.inr ⟨blank, ?_, not_authorizationCarries authHeader spaced⟩))
    rw [readAuthorization, if_neg blank, splitOnce_of_not_mem authHeader ' ' spaced]

/-! ### What is extracted -/

section Outcomes

variable (extractor : CredentialExtractor) (request : Versioning.Request)

theorem extract_of_blank
    (read : readAuthorization (trimSpace (request.getHeader "Authorization")) = .ok ("", "")) :
    extractor.extract request =
      if headerKey extractor request ≠ "" then .ok ⟨.apiKey, headerKey extractor request⟩
      else if queryKey extractor request ≠ "" then .ok ⟨.apiKey, queryKey extractor request⟩
      else .error errNoCredentialsFound := by
  unfold CredentialExtractor.extract queryKey
  simp only [read, headerKey]
  by_cases present : trimSpace (request.getHeader extractor.config.apiKeyHeader) = ""
  · cases allowed : extractor.config.allowQueryAPIKey <;> simp [present]
  · simp [present]

theorem extract_of_bearer (token : String) (nonempty : token ≠ "")
    (read : readAuthorization (trimSpace (request.getHeader "Authorization")) = .ok (token, "")) :
    extractor.extract request =
      if headerKey extractor request = "" ∧ queryKey extractor request = "" then
        .ok ⟨.bearer, token⟩
      else .error errMultipleCredTypes := by
  unfold CredentialExtractor.extract queryKey
  simp only [read, headerKey]
  by_cases present : trimSpace (request.getHeader extractor.config.apiKeyHeader) = ""
  · cases allowed : extractor.config.allowQueryAPIKey <;> simp [present, nonempty]
  · simp [present, nonempty]

theorem extract_of_key (token : String) (nonempty : token ≠ "")
    (read : readAuthorization (trimSpace (request.getHeader "Authorization")) = .ok ("", token)) :
    extractor.extract request =
      if headerKey extractor request = "" ∨ headerKey extractor request = token then
        .ok ⟨.apiKey, token⟩
      else .error errMultipleCredTypes := by
  unfold CredentialExtractor.extract
  simp only [read, headerKey]
  by_cases present : trimSpace (request.getHeader extractor.config.apiKeyHeader) = ""
  · simp [present, nonempty]
  · by_cases same : trimSpace (request.getHeader extractor.config.apiKeyHeader) = token
    · simp [same, nonempty]
    · simp [present, nonempty, same, Ne.symm same]

/-! ### When nothing ambiguous is accepted -/

/-- Nothing is found exactly when every place where a credential is allowed is blank. -/
theorem extract_noCredentials_iff :
    extractor.extract request = .error errNoCredentialsFound ↔
      trimSpace (request.getHeader "Authorization") = "" ∧ headerKey extractor request = "" ∧
        queryKey extractor request = "" := by
  have multiple : errMultipleCredTypes ≠ errNoCredentialsFound := by decide
  have invalid : errInvalidHeader ≠ errNoCredentialsFound := by decide
  rcases readAuthorization_cases _ (trimSpace_trimSpace (request.getHeader "Authorization")) with
    ⟨blank, read, -⟩ | ⟨token, present, nonempty, read, -⟩ | ⟨token, present, nonempty, read, -⟩ |
      ⟨present, read, -⟩
  · rw [extract_of_blank extractor request read]
    split_ifs with inHeader inQuery
    · simp [inHeader]
    · simp [inQuery]
    · simp_all
  · rw [extract_of_bearer extractor request token nonempty read]
    split_ifs <;> simp [present, multiple]
  · rw [extract_of_key extractor request token nonempty read]
    split_ifs <;> simp [present, multiple]
  · simp [CredentialExtractor.extract, read, present, invalid]

/-- What is extracted, if anything is, is all that the request carries. -/
def Unambiguous : Prop :=
  ∀ credential, extractor.extract request = .ok credential →
    ∀ carried, Carries extractor request carried → carried = credential

/-- The query has no other API key than the headers do, if they have one and nothing else. -/
def QueryAgrees : Prop :=
  ∀ key, HeadersCarryOnly extractor request key → queryKey extractor request ≠ "" →
    queryKey extractor request = key

theorem unambiguous_of_blank (blank : trimSpace (request.getHeader "Authorization") = "")
    (read : readAuthorization (trimSpace (request.getHeader "Authorization")) = .ok ("", "")) :
    Unambiguous extractor request ↔ QueryAgrees extractor request := by
  have carries := not_authorizationCarries "" (by simp)
  unfold Unambiguous QueryAgrees Carries HeadersCarryOnly
  rw [extract_of_blank extractor request read, blank]
  simp only [carries, false_and, or_false, false_or, true_and]
  split_ifs with inHeader inQuery
  · constructor
    · rintro agrees key ⟨rfl, -⟩ inQuery
      simpa using agrees _ rfl _ (Or.inr ⟨inQuery, rfl⟩)
    · rintro same credential extracted carried (⟨-, rfl⟩ | ⟨inQuery, rfl⟩)
      · exact Except.ok.inj extracted
      · rw [same _ ⟨rfl, inHeader⟩ inQuery]
        exact Except.ok.inj extracted
  · refine iff_of_true ?_ ?_
    · rintro credential extracted carried (⟨present, -⟩ | ⟨-, rfl⟩)
      · exact absurd present inHeader
      · exact Except.ok.inj extracted
    · rintro key ⟨rfl, nonempty⟩
      exact absurd nonempty inHeader
  · refine iff_of_true (fun credential impossible => by cases impossible) ?_
    rintro key ⟨rfl, nonempty⟩
    exact absurd nonempty inHeader

theorem unambiguous_of_bearer (token : String) (nonempty : token ≠ "")
    (present : trimSpace (request.getHeader "Authorization") ≠ "")
    (read : readAuthorization (trimSpace (request.getHeader "Authorization")) = .ok (token, ""))
    (carries : ∀ credential, AuthorizationCarries (trimSpace (request.getHeader "Authorization"))
      credential ↔ credential = ⟨.bearer, token⟩) :
    Unambiguous extractor request ∧ QueryAgrees extractor request := by
  unfold Unambiguous QueryAgrees Carries HeadersCarryOnly
  rw [extract_of_bearer extractor request token nonempty read]
  simp only [carries, present, false_and, false_or]
  refine ⟨?_, ?_⟩
  · intro credential extracted carried known
    split_ifs at extracted with alone
    rcases known with rfl | ⟨inHeader, -⟩ | ⟨inQuery, -⟩
    · exact Except.ok.inj extracted
    · exact absurd alone.1 inHeader
    · exact absurd alone.2 inQuery
  · rintro key ⟨impossible, -⟩
    cases impossible

theorem unambiguous_of_key (token : String) (nonempty : token ≠ "")
    (present : trimSpace (request.getHeader "Authorization") ≠ "")
    (read : readAuthorization (trimSpace (request.getHeader "Authorization")) = .ok ("", token))
    (carries : ∀ credential, AuthorizationCarries (trimSpace (request.getHeader "Authorization"))
      credential ↔ credential = ⟨.apiKey, token⟩) :
    Unambiguous extractor request ↔ QueryAgrees extractor request := by
  unfold Unambiguous QueryAgrees Carries HeadersCarryOnly
  rw [extract_of_key extractor request token nonempty read]
  simp only [carries, present, false_and, false_or]
  split_ifs with sameHeader
  · constructor
    · rintro agrees key ⟨sameKey, -⟩ inQuery
      obtain rfl : key = token := by simpa using sameKey
      simpa using agrees _ rfl _ (Or.inr (Or.inr ⟨inQuery, rfl⟩))
    · rintro same credential extracted carried (rfl | ⟨inHeader, rfl⟩ | ⟨inQuery, rfl⟩)
      · exact Except.ok.inj extracted
      · rw [sameHeader.resolve_left inHeader]
        exact Except.ok.inj extracted
      · rw [same token ⟨rfl, sameHeader⟩ inQuery]
        exact Except.ok.inj extracted
  · refine iff_of_true (fun credential impossible => by cases impossible) ?_
    rintro key ⟨sameKey, header⟩
    obtain rfl : key = token := by simpa using sameKey
    exact absurd header sameHeader

theorem unambiguous_of_malformed
    (present : trimSpace (request.getHeader "Authorization") ≠ "")
    (read : readAuthorization (trimSpace (request.getHeader "Authorization")) =
      .error errInvalidHeader)
    (carries : ∀ credential, ¬AuthorizationCarries (trimSpace (request.getHeader "Authorization"))
      credential) :
    Unambiguous extractor request ∧ QueryAgrees extractor request := by
  refine ⟨fun credential extracted => ?_, ?_⟩
  · rw [CredentialExtractor.extract, read] at extracted
    cases extracted
  · rintro key (⟨blank, -⟩ | ⟨known, -⟩)
    · exact absurd blank present
    · exact absurd known (carries _)

/-- What is extracted is all that the request carries, exactly unless the headers carry an API key
and the query another. -/
theorem unambiguous_iff : Unambiguous extractor request ↔ QueryAgrees extractor request := by
  rcases readAuthorization_cases _ (trimSpace_trimSpace (request.getHeader "Authorization")) with
    ⟨blank, read, -⟩ | ⟨token, present, nonempty, read, carries⟩ |
      ⟨token, present, nonempty, read, carries⟩ | ⟨present, read, carries⟩
  · exact unambiguous_of_blank extractor request blank read
  · exact (unambiguous_of_bearer extractor request token nonempty present read carries).elim
      iff_of_true
  · exact unambiguous_of_key extractor request token nonempty present read carries
  · exact (unambiguous_of_malformed extractor request present read carries).elim iff_of_true

end Outcomes

/-- For extractors that are made from a configuration: what is extracted is all that the request
carries, exactly unless the headers carry an API key and the query another; and nothing is found
exactly when every place where a credential is allowed is blank. -/
theorem extract_unambiguous_iff (config : ExtractorConfig) (request : Versioning.Request) :
    let extractor := newCredentialExtractor config
    (Unambiguous extractor request ↔ QueryAgrees extractor request) ∧
      (extractor.extract request = .error errNoCredentialsFound ↔
        trimSpace (request.getHeader "Authorization") = "" ∧ headerKey extractor request = "" ∧
          queryKey extractor request = "") :=
  ⟨unambiguous_iff _ request, extract_noCredentials_iff _ request⟩

end Extract

/-- A request with an API key in its header and another in its query. -/
def twoKeysRequest : Versioning.Request where
  method := "GET"
  path := "/api/me"
  header := [("X-Api-Key", ["key-1"])]
  query := [("api_key", ["key-2"])]

/-- The key of the header is taken, and the other is not looked at. -/
theorem extract_two_keys :
    let extractor := newCredentialExtractor { defaultExtractorConfig with allowQueryAPIKey := true }
    @CredentialExtractor.extract asciiCase extractor twoKeysRequest = .ok ⟨.apiKey, "key-1"⟩ ∧
      @Carries asciiCase extractor twoKeysRequest ⟨.apiKey, "key-2"⟩ ∧
      ¬@Unambiguous asciiCase extractor twoKeysRequest := by
  intro extractor
  have extracted : @CredentialExtractor.extract asciiCase extractor twoKeysRequest =
      .ok ⟨.apiKey, "key-1"⟩ := by decide +kernel
  have carried : @Carries asciiCase extractor twoKeysRequest ⟨.apiKey, "key-2"⟩ :=
    Or.inr (Or.inr (by decide +kernel))
  refine ⟨extracted, carried, fun unambiguous => ?_⟩
  have same := unambiguous _ extracted _ carried
  simp at same

end SharedGo.Authn
