/-
This file proves what reaches the handlers of an application whose authentication is
built with the builder. The builder collects the parts of a composite authenticator
and of the middleware: validators for bearer tokens and for API keys, the places
where credentials are looked for, a claims transformer and the options. The first
failure to configure Cognito stays, and in every other part the last call decides.

A request reaches the business handler exactly when it carries the one credential
that the extractor accepts, the credential is alive, and every guard decides for its
principal. An API key is alive when a call created it, none revoked it and its time
has not passed; a token that one of the flows issued stands for its subject, client,
scopes and flow.
-/

import SharedGo.ApiKeys
import SharedGo.CognitoNormalizer
import SharedGo.Extractor
import SharedGo.TokenRoundTrip

namespace SharedGo.Authn

open SharedGo Text Gin Authz

/-! ### Validators -/

/-- Validates a credential at some time; the principal may be nil. -/
abbrev CredentialValidator (World : Type) :=
  Time → String → World → Except AuthError (Option Principal) × World

def APIKeyError.authError (error : APIKeyError) : AuthError where
  message := error.message
  wrapped :=
    match error with
    | .notFound => []
    | .revoked => [.apiKeyRevoked]
    | .expired => [.apiKeyExpired]

def TokenError.authError (error : TokenError) : AuthError where
  message := error.message
  wrapped := if error = .tokenExpired then [.tokenExpired] else []

/-- The validator of API keys over a store of the world. -/
def apiKeyValidator {World : Type} (store : World → MemoryAPIKeyStore) :
    CredentialValidator World := fun now rawKey world =>
  match (store world).validateKey now rawKey with
  | .error error => (.error error.authError, world)
  | .ok principal => (.ok (some principal.toPrincipal), world)

/-- The validator of tokens; the parser gets its time from the clock. -/
def jwtValidator {World : Type} (parse : Time → Parser) (normalizer : Normalizer) :
    CredentialValidator World := fun now token world =>
  match validateToken (parse now) normalizer token with
  | .error error => (.error error.authError, world)
  | .ok principal => (.ok (some principal.toPrincipal), world)

/-! ### OpenID Connect -/

structure OIDCValidatorConfig where
  issuerURL : String
  expectedClientID : String
  skipClientIDCheck : Bool
  supportedSigningAlgs : List String
  normalizer : Option Normalizer
  customKeySetURL : String

/-- What the library's verifier is made with. -/
structure VerifierConfig where
  clientID : String
  supportedSigningAlgs : List String
  skipClientIDCheck : Bool
  deriving DecidableEq, Repr

/-- Verifies a token; its claims may not decode. -/
abbrev Verifier (World : Type) :=
  Time → String → World → Except String (Except String Claims) × World

/-- The library: a verifier for the keys at some address, and one for an issuer whose addresses are
looked up. -/
structure OIDCLibrary (World : Type) where
  remoteKeySetVerifier : (keySetURL issuer : String) → VerifierConfig → Verifier World
  newProvider : (issuer : String) → Except String (VerifierConfig → Verifier World)

structure OIDCValidator (World : Type) where
  verifier : Verifier World
  normalizer : Normalizer

section OpenID

variable {World : Type} [CaseMapping] [RegisteredClaims]

def newOIDCValidator (library : OIDCLibrary World) (config : OIDCValidatorConfig) :
    Except String (OIDCValidator World) :=
  if config.issuerURL = "" ∧ config.customKeySetURL = "" then
    .error "authn: either IssuerURL or CustomKeySetURL must be specified"
  else
    let normalizer := config.normalizer.getD CognitoClaimsNormalizer.normalize
    let verifierConfig : VerifierConfig := {
      clientID := config.expectedClientID
      supportedSigningAlgs :=
        if config.supportedSigningAlgs = [] then ["RS256"] else config.supportedSigningAlgs
      skipClientIDCheck := config.skipClientIDCheck || config.expectedClientID = "" }
    if config.customKeySetURL ≠ "" then
      .ok ⟨library.remoteKeySetVerifier config.customKeySetURL config.issuerURL verifierConfig,
        normalizer⟩
    else
      match library.newProvider config.issuerURL with
      | .error reason => .error ("authn: failed to initialize OIDC provider: " ++ reason)
      | .ok verifier => .ok ⟨verifier verifierConfig, normalizer⟩

def OIDCValidator.validateToken (validator : OIDCValidator World) : CredentialValidator World :=
  fun now token world =>
    match validator.verifier now token world with
    | (.error reason, world) => (.error (TokenError.malformed reason).authError, world)
    | (.ok (.error reason), world) =>
      (.error (TokenError.malformed ("failed unmarshaling claims: " ++ reason)).authError, world)
    | (.ok (.ok claims), world) =>
      match validator.normalizer claims token with
      | .error error => (.error error.authError, world)
      | .ok principal => (.ok (some principal.toPrincipal), world)

end OpenID

/-! ### The composite authenticator -/

section Composite

variable {World : Type}

structure CompositeAuthenticatorConfig (World : Type) where
  extractorConfig : ExtractorConfig
  bearerValidator : Option (CredentialValidator World)
  jwtValidator : Option (CredentialValidator World)
  apiKeyValidator : Option (CredentialValidator World)

structure CompositeAuthenticator (World : Type) where
  extractor : CredentialExtractor
  bearerValidator : Option (CredentialValidator World)
  apiKeyValidator : Option (CredentialValidator World)

def newCompositeAuthenticator (config : CompositeAuthenticatorConfig World) :
    CompositeAuthenticator World where
  extractor := newCredentialExtractor config.extractorConfig
  bearerValidator := config.bearerValidator <|> config.jwtValidator
  apiKeyValidator := config.apiKeyValidator

def errAuthenticatorNotConfigured (detail : String) : AuthError :=
  ⟨"authn: no validator configured for credential type: " ++ detail, []⟩

def validatedBy (validator : Option (CredentialValidator World)) (missing token : String)
    (context : HttpContext World) : Except AuthError (Option Principal) × HttpContext World :=
  match validator with
  | none => (.error (errAuthenticatorNotConfigured missing), context)
  | some validate =>
    match validate context.now token context.world with
    | (result, world) => (result, { context with world })

/-- Extracts the credential from the request that a context is for, and validates it. -/
def CompositeAuthenticator.authenticate [CaseMapping] (composite : CompositeAuthenticator World)
    (requestOf : HttpContext World → Versioning.Request) (context : HttpContext World) :
    Except AuthError (Option Principal) × HttpContext World :=
  match composite.extractor.extract (requestOf context) with
  | .error error => (.error error, context)
  | .ok ⟨.bearer, token⟩ =>
    validatedBy composite.bearerValidator "bearer token validator not provided" token context
  | .ok ⟨.apiKey, token⟩ =>
    validatedBy composite.apiKeyValidator "api key validator not provided" token context

/-- The authenticator of the middleware. It never runs or drops the pending handlers. -/
def CompositeAuthenticator.authenticator [CaseMapping] (composite : CompositeAuthenticator World)
    (requestOf : HttpContext World → Versioning.Request) : Authenticator World :=
  Call.only (composite.authenticate requestOf)

end Composite

/-! ### The builder -/

structure CognitoOptions where
  region : String
  userPoolID : String
  issuerURL : String
  customKeySetURL : String
  clientID : String

structure AuthenticationBuilder (World : Type) where
  extractorConfig : Option ExtractorConfig
  bearerValidator : Option (CredentialValidator World)
  apiKeyValidator : Option (CredentialValidator World)
  claimsTransformer : Option (ClaimsTransformer World)
  middlewareOptions : List (MiddlewareOption World)
  err : Option String

namespace AuthenticationBuilder

variable {World : Type}

def newBuilder : AuthenticationBuilder World := ⟨none, none, none, none, [], none⟩

variable [CaseMapping] [RegisteredClaims]

/-- The validator that is made for Cognito; the library is as it is at the time of the call. -/
def cognitoValidator (library : OIDCLibrary World) (options : CognitoOptions) :
    Except String (OIDCValidator World) :=
  newOIDCValidator library {
    issuerURL :=
      if options.issuerURL = "" ∧ options.region ≠ "" ∧ options.userPoolID ≠ "" then
        "https://cognito-idp." ++ options.region ++ ".amazonaws.com/" ++ options.userPoolID
      else options.issuerURL
    expectedClientID := options.clientID
    skipClientIDCheck := true
    supportedSigningAlgs := ["RS256"]
    normalizer := some CognitoClaimsNormalizer.normalize
    customKeySetURL := options.customKeySetURL }

def withCognito (builder : AuthenticationBuilder World) (library : OIDCLibrary World)
    (options : CognitoOptions) : AuthenticationBuilder World :=
  if builder.err.isSome then builder
  else
    match cognitoValidator library options with
    | .error reason =>
      { builder with err := some ("authn: failed configuring Cognito validator: " ++ reason) }
    | .ok validator => { builder with bearerValidator := some validator.validateToken }

def build (builder : AuthenticationBuilder World) :
    Except String (CompositeAuthenticator World) :=
  match builder.err with
  | some error => .error error
  | none => .ok (newCompositeAuthenticator {
      extractorConfig := builder.extractorConfig.getD defaultExtractorConfig
      bearerValidator := builder.bearerValidator
      jwtValidator := none
      apiKeyValidator := builder.apiKeyValidator })

/-- The options of the middleware, with the claims transformer as the last one. -/
def options (builder : AuthenticationBuilder World) : List (MiddlewareOption World) :=
  match builder.claimsTransformer with
  | none => builder.middlewareOptions
  | some transformer =>
    builder.middlewareOptions ++ [.withClaimsTransformer (some transformer)]

def buildMiddleware (builder : AuthenticationBuilder World)
    (requestOf : HttpContext World → Versioning.Request) (own : String) :
    Except String (Handler (HttpContext World)) :=
  match builder.build with
  | .error error => .error error
  | .ok composite => new own (some (composite.authenticator requestOf)) builder.options

end AuthenticationBuilder

/-- A call of the builder. -/
inductive AuthenticationCall (World : Type) where
  | withCognito (library : OIDCLibrary World) (options : CognitoOptions)
  | withBearerValidator (validator : Option (CredentialValidator World))
  | withApiKeyValidator (validator : Option (CredentialValidator World))
  | withExtractorConfig (config : ExtractorConfig)
  | withClaimsTransformation (transformer : Option (ClaimsTransformer World))
  | withOption (options : List (MiddlewareOption World))

section Chains

variable {World : Type} [CaseMapping] [RegisteredClaims]

def AuthenticationCall.apply (builder : AuthenticationBuilder World) :
    AuthenticationCall World → AuthenticationBuilder World
  | .withCognito library options => builder.withCognito library options
  | .withBearerValidator validator => { builder with bearerValidator := validator }
  | .withApiKeyValidator validator => { builder with apiKeyValidator := validator }
  | .withExtractorConfig config => { builder with extractorConfig := some config }
  | .withClaimsTransformation transformer => { builder with claimsTransformer := transformer }
  | .withOption options =>
    { builder with middlewareOptions := builder.middlewareOptions ++ options }

def configured (calls : List (AuthenticationCall World)) : AuthenticationBuilder World :=
  calls.foldl AuthenticationCall.apply .newBuilder

/-! ### What a chain of calls configures -/

/-- The last of the choices that calls make. -/
def lastOf {Call Choice : Type} (choice : Call → Option Choice) (calls : List Call)
    (initial : Choice) : Choice :=
  calls.foldl (fun current call => (choice call).getD current) initial

/-- The error of a call, if it is one for Cognito that fails. -/
def AuthenticationCall.failure : AuthenticationCall World → Option String
  | .withCognito library options =>
    match AuthenticationBuilder.cognitoValidator library options with
    | .error reason => some ("authn: failed configuring Cognito validator: " ++ reason)
    | .ok _ => none
  | _ => none

def AuthenticationCall.bearer :
    AuthenticationCall World → Option (Option (CredentialValidator World))
  | .withCognito library options =>
    match AuthenticationBuilder.cognitoValidator library options with
    | .error _ => none
    | .ok validator => some (some validator.validateToken)
  | .withBearerValidator validator => some validator
  | _ => none

def AuthenticationCall.apiKey :
    AuthenticationCall World → Option (Option (CredentialValidator World))
  | .withApiKeyValidator validator => some validator
  | _ => none

def AuthenticationCall.extractor : AuthenticationCall World → Option (Option ExtractorConfig)
  | .withExtractorConfig config => some (some config)
  | _ => none

def AuthenticationCall.transformer :
    AuthenticationCall World → Option (Option (ClaimsTransformer World))
  | .withClaimsTransformation transformer => some transformer
  | _ => none

def AuthenticationCall.middlewareOptions :
    AuthenticationCall World → List (MiddlewareOption World)
  | .withOption options => options
  | _ => []

/-- The first failure stays. -/
theorem apply_err (builder : AuthenticationBuilder World) (call : AuthenticationCall World) :
    (call.apply builder).err = (builder.err <|> call.failure) := by
  cases call with
  | withCognito library options =>
    simp only [AuthenticationCall.apply, AuthenticationBuilder.withCognito,
      AuthenticationCall.failure]
    cases failed : builder.err with
    | some error => simp [failed]
    | none =>
      cases AuthenticationBuilder.cognitoValidator library options <;> simp
  | _ => simp [AuthenticationCall.apply, AuthenticationCall.failure]

/-- Until then a call changes what it chooses and nothing else. -/
theorem apply_eq_of_sound (builder : AuthenticationBuilder World)
    (call : AuthenticationCall World) (unfailed : builder.err = none)
    (sound : call.failure = none) :
    call.apply builder = {
      extractorConfig := call.extractor.getD builder.extractorConfig
      bearerValidator := call.bearer.getD builder.bearerValidator
      apiKeyValidator := call.apiKey.getD builder.apiKeyValidator
      claimsTransformer := call.transformer.getD builder.claimsTransformer
      middlewareOptions := builder.middlewareOptions ++ call.middlewareOptions
      err := none } := by
  obtain ⟨extractorConfig, bearerValidator, apiKeyValidator, claimsTransformer, options, err⟩ :=
    builder
  obtain rfl : err = none := unfailed
  cases call with
  | withCognito library options =>
    simp only [AuthenticationCall.failure] at sound
    cases made : AuthenticationBuilder.cognitoValidator library options with
    | error reason => simp [made] at sound
    | ok validator =>
      simp [AuthenticationCall.apply, AuthenticationBuilder.withCognito, made,
        AuthenticationCall.extractor, AuthenticationCall.bearer, AuthenticationCall.apiKey,
        AuthenticationCall.transformer, AuthenticationCall.middlewareOptions]
  | _ =>
    simp [AuthenticationCall.apply, AuthenticationCall.extractor, AuthenticationCall.bearer,
      AuthenticationCall.apiKey, AuthenticationCall.transformer,
      AuthenticationCall.middlewareOptions]

theorem configured_err (calls : List (AuthenticationCall World)) :
    (configured calls).err = calls.findSome? AuthenticationCall.failure := by
  have folded (builder : AuthenticationBuilder World) :
      (calls.foldl AuthenticationCall.apply builder).err =
        (builder.err <|> calls.findSome? AuthenticationCall.failure) := by
    induction calls generalizing builder with
    | nil => simp
    | cons call rest inductionHypothesis =>
      rw [List.foldl_cons, inductionHypothesis, apply_err, List.findSome?_cons]
      cases builder.err with
      | some error => rfl
      | none => cases call.failure <;> rfl
  exact folded .newBuilder

/-- The builder after calls that do not fail. -/
def chosen (calls : List (AuthenticationCall World)) : AuthenticationBuilder World where
  extractorConfig := lastOf AuthenticationCall.extractor calls none
  bearerValidator := lastOf AuthenticationCall.bearer calls none
  apiKeyValidator := lastOf AuthenticationCall.apiKey calls none
  claimsTransformer := lastOf AuthenticationCall.transformer calls none
  middlewareOptions := calls.flatMap AuthenticationCall.middlewareOptions
  err := none

theorem configured_eq_chosen (calls : List (AuthenticationCall World))
    (sound : calls.findSome? AuthenticationCall.failure = none) :
    configured calls = chosen calls := by
  have folded (builder : AuthenticationBuilder World) (unfailed : builder.err = none) :
      calls.foldl AuthenticationCall.apply builder = {
        extractorConfig := lastOf AuthenticationCall.extractor calls builder.extractorConfig
        bearerValidator := lastOf AuthenticationCall.bearer calls builder.bearerValidator
        apiKeyValidator := lastOf AuthenticationCall.apiKey calls builder.apiKeyValidator
        claimsTransformer := lastOf AuthenticationCall.transformer calls builder.claimsTransformer
        middlewareOptions :=
          builder.middlewareOptions ++ calls.flatMap AuthenticationCall.middlewareOptions
        err := none } := by
    induction calls generalizing builder with
    | nil => simp [lastOf, ← unfailed]
    | cons call rest inductionHypothesis =>
      rw [List.findSome?_cons] at sound
      cases failed : call.failure with
      | some error => simp [failed] at sound
      | none =>
        rw [failed] at sound
        rw [List.foldl_cons, apply_eq_of_sound builder call unfailed failed,
          inductionHypothesis sound _ rfl]
        simp [lastOf]
  exact folded .newBuilder rfl

/-- The authenticator that a chain of calls builds. -/
def compositeOf (calls : List (AuthenticationCall World)) : CompositeAuthenticator World where
  extractor := newCredentialExtractor
    ((lastOf AuthenticationCall.extractor calls none).getD defaultExtractorConfig)
  bearerValidator := lastOf AuthenticationCall.bearer calls none
  apiKeyValidator := lastOf AuthenticationCall.apiKey calls none

/-- A chain of calls builds the middleware of its last choices, or fails with its first error. -/
theorem buildMiddleware_configured (calls : List (AuthenticationCall World))
    (requestOf : HttpContext World → Versioning.Request) (own : String) :
    (configured calls).buildMiddleware requestOf own =
      match calls.findSome? AuthenticationCall.failure with
      | some error => .error error
      | none => .ok (authenticationHandler own ((compositeOf calls).authenticator requestOf)
          (chosen calls).options) := by
  cases failed : calls.findSome? AuthenticationCall.failure with
  | some error =>
    rw [AuthenticationBuilder.buildMiddleware, AuthenticationBuilder.build, configured_err, failed]
  | none =>
    rw [configured_eq_chosen calls failed]
    simp only [AuthenticationBuilder.buildMiddleware, AuthenticationBuilder.build, chosen,
      newCompositeAuthenticator, compositeOf, new]
    cases lastOf AuthenticationCall.bearer calls none <;> rfl

/-! ### Requests through the middleware -/

section Requests

variable (own : String)
  (authenticate : HttpContext World → Except AuthError (Option Principal) × HttpContext World)
  (options : List (MiddlewareOption World)) (context : HttpContext World)
  (guards : List (String × Guard World)) (business : Handler (HttpContext World))

/-- The middleware, a row of guards and the business handler. -/
def protectedRoute (middleware : Handler (HttpContext World)) :
    List (Handler (HttpContext World)) :=
  middleware :: (guards.map (fun guard => guard.2.handler guard.1) ++ [business])

/-- What the authentication and then the transformer produce. -/
def outcome : Except AuthError (Option Principal) × HttpContext World :=
  transformed (middlewareConfig options) (authenticate context).1 (authenticate context).2

omit [RegisteredClaims] in
/-- The business handler runs exactly when the authentication produces a principal that every guard
decides for. -/
theorem route_runs_iff
    (quiet : ∀ error left, outcome authenticate options context = (.error error, left) →
      HandlesQuietly options error left)
    (present : ∀ left, outcome authenticate options context ≠ (.ok none, left))
    (key : lastChoice chosenKey options contextKeyPrincipal = contextKeyPrincipal) :
    BusinessRuns (handle (protectedRoute guards business
        (authenticationHandler own (Call.only authenticate) options)) context) ↔
      ∃ principal left, outcome authenticate options context = (.ok (some principal), left) ∧
        decideAll principal (guards.map Prod.snd)
          (left.set contextKeyPrincipal (.principal (some principal))) = true := by
  rcases produces : outcome authenticate options context with ⟨result, left⟩
  cases result with
  | error error =>
    refine iff_of_false ?_ (fun ⟨principal, other, same, _⟩ => by cases same)
    rintro ⟨final, member⟩
    rw [protectedRoute, entered_failed own (Call.only authenticate) options context left _ _ false
      rfl error produces (quiet error left produces)] at member
    simp at member
  | ok principal =>
    cases principal with
    | none => exact absurd produces (present left)
    | some principal =>
      have decided := authenticated_runs_iff own (Call.only authenticate) options context left _ _
        rfl principal produces ((user_withPrincipal_iff options left principal).mpr (Or.inl key))
        guards business
      rw [withPrincipal, key] at decided
      refine decided.trans ⟨fun all => ⟨principal, left, rfl, all⟩, ?_⟩
      rintro ⟨other, otherLeft, same, all⟩
      obtain ⟨rfl, rfl⟩ : principal = other ∧ left = otherLeft := by simpa using same
      exact all

omit [CaseMapping] [RegisteredClaims] in
theorem outcome_untransformed
    (untransformed : (middlewareConfig options).claimsTransformer = none) :
    outcome authenticate options context = authenticate context := by
  unfold outcome transformed
  rw [untransformed]
  rcases authenticate context with ⟨_ | _, left⟩ <;> rfl

end Requests

/-! ### Credentials of an application -/

section Application

variable (calls : List (AuthenticationCall World))
  (requestOf : HttpContext World → Versioning.Request) (context : HttpContext World)

/-- The calls build a middleware that stores the authenticated principal, as it is, under the key
that the guards read, and whose handler of errors does not run the pending handlers. -/
structure PlainMiddleware : Prop where
  sound : calls.findSome? AuthenticationCall.failure = none
  key : lastChoice chosenKey (chosen calls).options contextKeyPrincipal = contextKeyPrincipal
  untransformed : (middlewareConfig (chosen calls).options).claimsTransformer = none
  quiet : ∀ error left, HandlesQuietly (chosen calls).options error left

/-- The credential that the extractor finds in the request. -/
def carried : Except AuthError ExtractedCredential :=
  (compositeOf calls).extractor.extract (requestOf context)

/-- The validator of bearer tokens, if there is one, has no nil principals. -/
def BearersPresent : Prop :=
  ∀ validate token, lastOf AuthenticationCall.bearer calls none = some validate →
    (validate context.now token context.world).1 ≠ .ok none

/-- A bearer token is validated with a principal. -/
def BearerValid (token : String) (principal : Principal) (world : World) : Prop :=
  ∃ validate, lastOf AuthenticationCall.bearer calls none = some validate ∧
    validate context.now token context.world = (.ok (some principal), world)

/-- The guards decide for a principal, in the world that its validation leaves. -/
def Admitted (guards : List (String × Guard World)) (principal : Principal) (world : World) :
    Prop :=
  decideAll principal (guards.map Prod.snd)
    (({ context with world } : HttpContext World).set contextKeyPrincipal
      (.principal (some principal))) = true

omit [CaseMapping] [RegisteredClaims] in
theorem validatedBy_eq_some_iff (validator : Option (CredentialValidator World))
    (missing token : String) (principal : Principal) (left : HttpContext World) :
    validatedBy validator missing token context = (.ok (some principal), left) ↔
      ∃ world, left = { context with world } ∧ ∃ validate, validator = some validate ∧
        validate context.now token context.world = (.ok (some principal), world) := by
  cases validator with
  | none => simp [validatedBy]
  | some validate =>
    simp only [validatedBy, Option.some.injEq, exists_eq_left']
    generalize validate context.now token context.world = outcome
    obtain ⟨result, world⟩ := outcome
    simp only [Prod.mk.injEq]
    constructor
    · rintro ⟨same, rfl⟩
      exact ⟨world, rfl, same, rfl⟩
    · rintro ⟨other, rfl, same, rfl⟩
      exact ⟨same, rfl⟩

/-- The authenticator validates the credential that the extractor finds. -/
theorem authenticate_eq_some_iff (principal : Principal) (left : HttpContext World) :
    (compositeOf calls).authenticate requestOf context = (.ok (some principal), left) ↔
      ∃ world, left = { context with world } ∧
        ((∃ rawKey, carried calls requestOf context = .ok ⟨.apiKey, rawKey⟩ ∧
            ∃ validate, lastOf AuthenticationCall.apiKey calls none = some validate ∧
              validate context.now rawKey context.world = (.ok (some principal), world)) ∨
          ∃ token, carried calls requestOf context = .ok ⟨.bearer, token⟩ ∧
            BearerValid calls context token principal world) := by
  unfold CompositeAuthenticator.authenticate
  rw [← carried]
  cases found : carried calls requestOf context with
  | error error => simp
  | ok credential =>
    obtain ⟨type, token⟩ := credential
    cases type with
    | bearer =>
      simp only [validatedBy_eq_some_iff, Except.ok.injEq, ExtractedCredential.mk.injEq,
        reduceCtorEq, false_and, exists_const, false_or, true_and, exists_eq_left']
      rfl
    | apiKey =>
      simp only [validatedBy_eq_some_iff, Except.ok.injEq, ExtractedCredential.mk.injEq,
        reduceCtorEq, false_and, exists_const, or_false, true_and, exists_eq_left']
      rfl

omit [CaseMapping] [RegisteredClaims] in
/-- A key that the store validates was created, not revoked, and its time has not passed. -/
theorem apiKey_valid_iff (store : World → MemoryAPIKeyStore) (start : Time)
    (events : List KeyEvent) (recorded : Recorded start events (store context.world))
    (rawKey : String)
    (unique : ∀ creation ∈ creations events,
      hashAPIKey creation.rawKey = hashAPIKey rawKey → creation.rawKey = rawKey)
    (principal : Principal) (world : World) :
    apiKeyValidator store context.now rawKey context.world = (.ok (some principal), world) ↔
      world = context.world ∧ ∃ creation ∈ creations events, creation.rawKey = rawKey ∧
        ¬Revoked start events creation.id ∧ creation.Alive context.now ∧
        creation.principal.toPrincipal = principal := by
  unfold apiKeyValidator
  rcases validateKey_cases recorded context.now rawKey unique with missing | ⟨_, member, rfl⟩
  · rw [missing]
    refine iff_of_false (by simp) ?_
    rintro ⟨_, creation, member, rfl, unrevoked, alive, _⟩
    have valid := (validateKey_ok_iff recorded context.now creation member _).mpr
      ⟨unrevoked, alive, rfl⟩
    rw [missing] at valid
    cases valid
  · cases valid : (store context.world).validateKey context.now _ with
    | error error =>
      refine iff_of_false (by simp) ?_
      rintro ⟨_, creation, otherMember, same, unrevoked, alive, _⟩
      have other := (validateKey_ok_iff recorded context.now creation otherMember _).mpr
        ⟨unrevoked, alive, rfl⟩
      rw [same, valid] at other
      cases other
    | ok found =>
      simp only [Prod.mk.injEq, Except.ok.injEq, Option.some.injEq]
      constructor
      · rintro ⟨rfl, rfl⟩
        obtain ⟨unrevoked, alive, same⟩ :=
          (validateKey_ok_iff recorded context.now _ member found).mp valid
        exact ⟨rfl, _, member, rfl, unrevoked, alive, congrArg _ same⟩
      · rintro ⟨rfl, creation, otherMember, same, unrevoked, alive, rfl⟩
        have other := (validateKey_ok_iff recorded context.now creation otherMember _).mpr
          ⟨unrevoked, alive, rfl⟩
        rw [same, valid] at other
        exact ⟨congrArg _ (Except.ok.inj other), rfl⟩

/-- No principal is nil if the validators have none. -/
theorem authenticate_ne_nil (store : World → MemoryAPIKeyStore)
    (keysBy : lastOf AuthenticationCall.apiKey calls none = some (apiKeyValidator store))
    (present : BearersPresent calls context) (left : HttpContext World) :
    (compositeOf calls).authenticate requestOf context ≠ (.ok none, left) := by
  intro isNil
  unfold CompositeAuthenticator.authenticate at isNil
  split at isNil
  · simp at isNil
  · rename_i token found
    unfold validatedBy at isNil
    split at isNil
    · simp at isNil
    · rename_i validate chosen
      exact present validate token chosen (congrArg Prod.fst isNil)
  · rename_i token found
    simp only [validatedBy, compositeOf, keysBy, apiKeyValidator] at isNil
    split at isNil <;> simp at isNil

/-- The business handler runs exactly when the credential of the request validates and every guard
decides for its principal. -/
theorem application_runs_iff (own : String) (middleware : Handler (HttpContext World))
    (plain : PlainMiddleware calls)
    (built : (configured calls).buildMiddleware requestOf own = .ok middleware)
    (nonnil : ∀ left, (compositeOf calls).authenticate requestOf context ≠ (.ok none, left))
    (guards : List (String × Guard World)) (business : Handler (HttpContext World)) :
    BusinessRuns (handle (protectedRoute guards business middleware) context) ↔
      ∃ principal world,
        ((∃ rawKey, carried calls requestOf context = .ok ⟨.apiKey, rawKey⟩ ∧
            ∃ validate, lastOf AuthenticationCall.apiKey calls none = some validate ∧
              validate context.now rawKey context.world = (.ok (some principal), world)) ∨
          ∃ token, carried calls requestOf context = .ok ⟨.bearer, token⟩ ∧
            BearerValid calls context token principal world) ∧
        Admitted context guards principal world := by
  rw [buildMiddleware_configured, plain.sound] at built
  obtain rfl := Except.ok.inj built
  have same := outcome_untransformed ((compositeOf calls).authenticate requestOf)
    (chosen calls).options context plain.untransformed
  rw [CompositeAuthenticator.authenticator, route_runs_iff own _ _ context guards business
    (fun error left _ => plain.quiet error left) (fun left => by rw [same]; exact nonnil left)
    plain.key, same]
  constructor
  · rintro ⟨principal, left, authenticated, admitted⟩
    obtain ⟨world, rfl, valid⟩ :=
      (authenticate_eq_some_iff calls requestOf context principal left).mp authenticated
    exact ⟨principal, world, valid, admitted⟩
  · rintro ⟨principal, world, valid, admitted⟩
    exact ⟨principal, _, (authenticate_eq_some_iff calls requestOf context principal _).mpr
      ⟨world, rfl, valid⟩, admitted⟩

/-- An application with a store of API keys, after any run of calls on it, built by any chain of
calls of the builder. A request reaches the business handler exactly when the credential that it
carries is a key that was created, not revoked and has time left, or a bearer token that validates,
and every guard decides for its principal. -/
theorem request_runs_iff (own : String) (middleware : Handler (HttpContext World))
    (plain : PlainMiddleware calls)
    (built : (configured calls).buildMiddleware requestOf own = .ok middleware)
    (store : World → MemoryAPIKeyStore)
    (keysBy : lastOf AuthenticationCall.apiKey calls none = some (apiKeyValidator store))
    (present : BearersPresent calls context) (start : Time) (events : List KeyEvent)
    (state : KeyState) (run : Runs.exec keyStep (newMemoryAPIKeyStore start) events = some state)
    (current : store context.world = state.store)
    (keys : ((creations events).map Creation.rawKey).Nodup)
    (ids : ((creations events).map Creation.id).Nodup)
    (collisionFree : ∀ rawKey, carried calls requestOf context = .ok ⟨.apiKey, rawKey⟩ →
      CollisionFree (keysUsed events rawKey))
    (guards : List (String × Guard World)) (business : Handler (HttpContext World)) :
    BusinessRuns (handle (protectedRoute guards business middleware) context) ↔
      (∃ creation ∈ creations events,
        carried calls requestOf context = .ok ⟨.apiKey, creation.rawKey⟩ ∧
          ¬Revoked start events creation.id ∧ creation.Alive context.now ∧
          Admitted context guards creation.principal.toPrincipal context.world) ∨
        ∃ token principal world, carried calls requestOf context = .ok ⟨.bearer, token⟩ ∧
          BearerValid calls context token principal world ∧
          Admitted context guards principal world := by
  have valid (rawKey : String)
      (found : carried calls requestOf context = .ok ⟨.apiKey, rawKey⟩) :=
    apiKey_valid_iff context store start events
      (current ▸ run_recorded start events state run
        (distinct_of_nodup events rawKey keys ids (collisionFree rawKey found)))
      rawKey (rawKey_of_hash events rawKey (collisionFree rawKey found))
  rw [application_runs_iff calls requestOf context own middleware plain built
    (authenticate_ne_nil calls requestOf context store keysBy present) guards business]
  constructor
  · rintro ⟨principal, world, ⟨rawKey, found, validate, isStore, validated⟩ |
      ⟨token, found, validated⟩, admitted⟩
    · obtain rfl := Option.some_inj.mp (keysBy.symm.trans isStore)
      obtain ⟨rfl, creation, member, rfl, unrevoked, alive, rfl⟩ :=
        (valid rawKey found principal world).mp validated
      exact Or.inl ⟨creation, member, found, unrevoked, alive, admitted⟩
    · exact Or.inr ⟨token, principal, world, found, validated, admitted⟩
  · rintro (⟨creation, member, found, unrevoked, alive, admitted⟩ |
      ⟨token, principal, world, found, validated, admitted⟩)
    · refine ⟨_, _, Or.inl ⟨creation.rawKey, found, _, keysBy, ?_⟩, admitted⟩
      exact (valid creation.rawKey found _ _).mpr
        ⟨rfl, creation, member, rfl, unrevoked, alive, rfl⟩
    · exact ⟨principal, world, Or.inr ⟨token, found, validated⟩, admitted⟩

end Application

/-! ### Tokens of the flows -/

section Flows

open OAuth

/-- A flow of the provider returns a token; with the claims that it stands for, its scopes and its
method. -/
inductive FlowIssues (provider : MockOAuthProvider) (sign : Signer) (times : CallTimes)
    (token : String) : MapClaims → List String → AuthMethod → Prop
  | authCode (record : AuthCodeRecord) (clientID code codeVerifier : String)
      (stored : provider.authCodes.lookup code = some record)
      (returned : (provider.exchangeAuthCode sign clientID code codeVerifier times).1 = .ok token)
      (present : record.userID ≠ "") :
      FlowIssues provider sign times token (provider.authCodeClaims record times) record.scopes
        .authCodePKCE
  | clientCredentials (clientID clientSecret : String) (scopes : List String)
      (returned : provider.issueClientCredentialsToken sign clientID clientSecret scopes times =
        .ok token)
      (present : clientID ≠ "") :
      FlowIssues provider sign times token (provider.clientCredentialsClaims clientID scopes times)
        scopes .clientCredentials
  | device (record : DeviceCodeRecord) (clientID deviceCode : String)
      (stored : provider.devices.findFirst deviceCode = some record)
      (returned : (provider.pollDeviceToken sign clientID deviceCode times).1 = .ok token)
      (present : record.userID ≠ "") :
      FlowIssues provider sign times token (provider.deviceClaims record deviceCode times)
        record.scopes .deviceFlow

/-- A guard that asks for scopes or methods. -/
inductive TokenGuard where
  | requireScope (requiredScopes : List String)
  | requireAnyScope (candidateScopes : List String)
  | requireMethod (allowedMethods : List AuthMethod)

def TokenGuard.guard : TokenGuard → Guard World
  | .requireScope requiredScopes => .requireScope requiredScopes
  | .requireAnyScope candidateScopes => .requireAnyScope candidateScopes
  | .requireMethod allowedMethods => .requireMethod allowedMethods

def TokenGuard.requireUser : TokenGuard := .requireMethod [.authCodePKCE, .deviceFlow]

def TokenGuard.requireM2M : TokenGuard := .requireMethod [.clientCredentials, .apiKey]

/-- What a guard asks of the scopes and the method of a token. -/
def TokenGuard.Admits (scopes : List String) (method : AuthMethod) : TokenGuard → Prop
  | .requireScope requiredScopes => ∀ scope ∈ requiredScopes, scope ∈ scopes
  | .requireAnyScope candidateScopes =>
    candidateScopes = [] ∨ ∃ scope ∈ candidateScopes, scope ∈ scopes
  | .requireMethod allowedMethods => method ∈ allowedMethods

omit [RegisteredClaims] in
theorem decide_tokenGuard (principal : Principal) (guard : TokenGuard)
    (context : HttpContext World) :
    (guard.guard.decide principal context).1 = true ↔
      guard.Admits principal.scopes principal.method := by
  cases guard with
  | requireScope requiredScopes =>
    simp [TokenGuard.guard, Guard.decide, TokenGuard.Admits, Principal.hasAllScopes,
      Principal.hasScope]
  | requireAnyScope candidateScopes =>
    simp [TokenGuard.guard, Guard.decide, TokenGuard.Admits, Principal.hasAnyScope,
      Principal.hasScope]
  | requireMethod allowedMethods => simp [TokenGuard.guard, Guard.decide, TokenGuard.Admits]

omit [RegisteredClaims] in
theorem decideAll_tokenGuards (principal : Principal) (guards : List TokenGuard)
    (context : HttpContext World) :
    decideAll principal (guards.map TokenGuard.guard) context = true ↔
      ∀ guard ∈ guards, guard.Admits principal.scopes principal.method := by
  induction guards generalizing context with
  | nil => simp [decideAll]
  | cons guard guards inductionHypothesis =>
    rw [List.map_cons, decideAll, Bool.and_eq_true, decide_tokenGuard, inductionHypothesis,
      List.forall_mem_cons]

/-- The token of a flow is validated with its scopes and its method. -/
theorem flow_restores (lowersAscii : LowersAscii) (asFloat : Int → Float64)
    (provider : MockOAuthProvider) (sign : Signer) (times : CallTimes) (token : String)
    (signed : MapClaims) (scopes : List String) (method : AuthMethod)
    (issues : FlowIssues provider sign times token signed scopes method) (parse : Parser)
    (verifies : sign signed = .ok token → Verifies asFloat parse signed token)
    (tokens : ∀ scope ∈ scopes, ScopeToken scope) :
    ∃ principal, validateToken parse StandardOIDCNormalizer.normalize token = .ok principal ∧
      principal.scopes = scopes ∧ principal.method = method := by
  have restored : ∃ subject clientID, Restores parse token subject clientID scopes method := by
    cases issues with
    | authCode record clientID code codeVerifier stored returned present =>
      exact ⟨_, _, restores_of_issued asFloat _ _ _ _ _ _
        (authCodeClaims_issued provider times record) present tokens (by decide)
        (grantFlow_authorization_code lowersAscii) parse token
        (verifies (exchangeAuthCode_signs provider times record sign clientID code codeVerifier
          token stored returned).1)⟩
    | clientCredentials clientID clientSecret _ returned present =>
      exact ⟨_, _, restores_of_issued asFloat _ _ _ _ _ _
        (clientCredentialsClaims_issued provider times clientID scopes) present tokens (by decide)
        (grantFlow_client_credentials lowersAscii) parse token
        (verifies (issueClientCredentialsToken_signs provider times sign clientID clientSecret
          scopes token returned))⟩
    | device record clientID deviceCode stored returned present =>
      exact ⟨_, _, restores_of_issued asFloat _ _ _ _ _ _
        (deviceClaims_issued provider times record deviceCode) present tokens (by decide)
        (grantFlow_device_code lowersAscii) parse token
        (verifies (pollDeviceToken_signs provider times record sign clientID deviceCode token
          stored returned).1)⟩
  obtain ⟨subject, clientID, principal, valid, _, _, isScopes, isMethod⟩ := restored
  exact ⟨principal, valid, isScopes, isMethod⟩

/-- A token that one of the flows issued, sent as a bearer token to an application that validates
it: the request reaches the business handler exactly when every guard admits the scopes and the
flow that the token was issued for. -/
theorem flow_token_runs_iff (lowersAscii : LowersAscii) (asFloat : Int → Float64)
    (provider : MockOAuthProvider) (sign : Signer) (times : CallTimes) (token : String)
    (signed : MapClaims) (scopes : List String) (method : AuthMethod)
    (issues : FlowIssues provider sign times token signed scopes method)
    (tokens : ∀ scope ∈ scopes, ScopeToken scope) (calls : List (AuthenticationCall World))
    (parse : Time → Parser)
    (bearersBy : lastOf AuthenticationCall.bearer calls none =
      some (jwtValidator parse StandardOIDCNormalizer.normalize))
    (own : String) (requestOf : HttpContext World → Versioning.Request)
    (middleware : Handler (HttpContext World)) (plain : PlainMiddleware calls)
    (built : (configured calls).buildMiddleware requestOf own = .ok middleware)
    (context : HttpContext World)
    (found : carried calls requestOf context = .ok ⟨.bearer, token⟩)
    (verifies : sign signed = .ok token → Verifies asFloat (parse context.now) signed token)
    (guards : List (String × TokenGuard)) (business : Handler (HttpContext World)) :
    BusinessRuns (handle (protectedRoute (guards.map fun guard => (guard.1, guard.2.guard))
        business middleware) context) ↔
      ∀ guard ∈ guards, guard.2.Admits scopes method := by
  obtain ⟨principal, valid, rfl, rfl⟩ := flow_restores lowersAscii asFloat provider sign times token
    signed scopes method issues (parse context.now) verifies tokens
  have bearer : BearerValid calls context token principal.toPrincipal context.world :=
    ⟨_, bearersBy, by rw [jwtValidator, valid]⟩
  have authenticated := (authenticate_eq_some_iff calls requestOf context principal.toPrincipal
    context).mpr ⟨context.world, rfl, Or.inr ⟨token, found, bearer⟩⟩
  have admitted (world : World) : Admitted context (guards.map fun guard => (guard.1,
      guard.2.guard)) principal.toPrincipal world ↔
        ∀ guard ∈ guards, guard.2.Admits principal.scopes principal.method := by
    rw [Admitted, List.map_map]
    have same : guards.map (Prod.snd ∘ fun guard => (guard.1, guard.2.guard)) =
        ((guards.map Prod.snd).map TokenGuard.guard : List (Guard World)) := by
      rw [List.map_map]
      rfl
    rw [same, decideAll_tokenGuards]
    exact List.forall_mem_map
  rw [application_runs_iff calls requestOf context own middleware plain built
    (fun left => by rw [authenticated]; simp)]
  constructor
  · rintro ⟨other, world, otherwise, isAdmitted⟩
    have same := (authenticate_eq_some_iff calls requestOf context other _).mpr
      ⟨world, rfl, otherwise⟩
    rw [authenticated] at same
    obtain rfl : principal.toPrincipal = other := by simpa using congrArg Prod.fst same
    exact (admitted world).mp isAdmitted
  · intro all
    exact ⟨principal.toPrincipal, context.world, Or.inr ⟨token, found, bearer⟩,
      (admitted context.world).mpr all⟩

end Flows

end Chains

/-! ### An application -/

/-- The middleware for the API keys of a store. -/
def keyCalls : List (AuthenticationCall MemoryAPIKeyStore) :=
  [.withApiKeyValidator (some (apiKeyValidator id))]

def keyRequest : Versioning.Request where
  method := "GET"
  path := "/api/orders"
  header := [("X-Api-Key", ["ak_live_01"])]
  query := []

/-- A key with one scope, and a request that carries it. -/
def keyCreated : List KeyEvent :=
  [⟨⟨0⟩, .createKey ⟨"alice", "cli", "laptop", ["read"], [], 3600⟩ (.ok [1]) [2]⟩]

theorem plain_of_no_options {World : Type} [CaseMapping] [RegisteredClaims]
    (calls : List (AuthenticationCall World))
    (sound : calls.findSome? AuthenticationCall.failure = none)
    (none : (chosen calls).options = []) : PlainMiddleware calls := by
  refine ⟨sound, ?_, ?_, ?_⟩
  · rw [none]
    rfl
  · rw [none]
    rfl
  · intro error left handler isHandler
    rw [none] at isHandler
    cases isHandler

theorem keyRequest_runs :
    ∃ state middleware,
      Runs.exec keyStep (newMemoryAPIKeyStore ⟨0⟩) keyCreated = some state ∧
      @AuthenticationBuilder.buildMiddleware MemoryAPIKeyStore asciiCase
        (@configured _ asciiCase noRegisteredClaims keyCalls) (fun _ => keyRequest)
        "authn.New.func1" = .ok middleware ∧
      BusinessRuns (handle (@protectedRoute _ asciiCase
        [("authn.RequireScope.func1", .requireScope ["read"])] (Handler.passing "main.handler")
        middleware) ⟨"GET", "", ⟨10⟩, ∅, [], [], state.store⟩) := by
  have found : @CredentialExtractor.extract asciiCase
      (newCredentialExtractor defaultExtractorConfig) keyRequest = .ok ⟨.apiKey, "ak_live_01"⟩ := by
    decide +kernel
  have used : keysUsed keyCreated "ak_live_01" = ["ak_live_01", "ak_live_01"] := by decide
  refine ⟨_, _, rfl, rfl, ?_⟩
  refine (@request_runs_iff _ asciiCase noRegisteredClaims keyCalls (fun _ => keyRequest)
    ⟨"GET", "", ⟨10⟩, ∅, [], [], _⟩ "authn.New.func1" _
    (@plain_of_no_options _ asciiCase noRegisteredClaims keyCalls rfl rfl) rfl id rfl
    (fun _ _ impossible => nomatch impossible) ⟨0⟩ keyCreated _ rfl rfl (by decide) (by decide)
    (fun rawKey carries => ?_) _ _).mpr (Or.inl ⟨_, List.mem_singleton.mpr rfl, found, ?_, ?_, ?_⟩)
  · obtain rfl : "ak_live_01" = rawKey := by
      simpa using found.symm.trans carries
    rw [used]
    intro first isFirst second isSecond _
    simp only [List.mem_cons, List.not_mem_nil, or_false, or_self] at isFirst isSecond
    exact isFirst.trans isSecond.symm
  · rintro ⟨before, event, after, middle, split, _, revokes, _⟩
    obtain rfl : event = _ := List.mem_singleton.mp (split ▸ by simp : event ∈ keyCreated)
    cases revokes
  · exact Or.inr (by decide)
  · unfold Admitted
    decide

/-- A provider with one client, and the claims of its token. -/
def reportsProvider : OAuth.MockOAuthProvider :=
  (OAuth.newMockOAuthProvider "iss" "aud").registerClient "client-reports" "secret"

def reportsClaims : OAuth.MapClaims :=
  reportsProvider.clientCredentialsClaims "client-reports" ["read:reports"] ⟨⟨0⟩, ⟨0⟩, ⟨0⟩⟩

/-- A parser that knows the one token. -/
def reportsParser : Time → Parser := fun _ _ =>
  .ok (OAuth.decodedClaims (fun number => .finite number) reportsClaims, true)

def bearerRequest : Versioning.Request where
  method := "GET"
  path := "/api/reports"
  header := [("Authorization", ["Bearer token"])]
  query := []

/-- The middleware for its tokens, and a route with a guard for their scope and another one. -/
def reportsCalls : List (AuthenticationCall Unit) :=
  [.withBearerValidator (some (jwtValidator reportsParser
    (@StandardOIDCNormalizer.normalize asciiCase OAuth.wholeSecondClaims)))]

def reportsRoute (guard : TokenGuard) (middleware : Handler (HttpContext Unit)) :
    List (Handler (HttpContext Unit)) :=
  @protectedRoute Unit asciiCase
    [("authn.RequireScope.func1", .requireScope ["read:reports"]),
      ("authn.RequireMethod.func1", guard.guard)] (Handler.passing "main.handler") middleware

/-- The machine passes the guard for machines and not the one for users. -/
theorem reportsToken_runs :
    ∃ middleware, @AuthenticationBuilder.buildMiddleware Unit asciiCase
        (@configured _ asciiCase OAuth.wholeSecondClaims reportsCalls) (fun _ => bearerRequest)
        "authn.New.func1" = .ok middleware ∧
      BusinessRuns (handle (reportsRoute .requireM2M middleware) anonymousContext) ∧
      ¬BusinessRuns (handle (reportsRoute .requireUser middleware) anonymousContext) := by
  have found : @CredentialExtractor.extract asciiCase
      (newCredentialExtractor defaultExtractorConfig) bearerRequest = .ok ⟨.bearer, "token"⟩ := by
    decide +kernel
  have issues : FlowIssues reportsProvider (fun _ => .ok "token") ⟨⟨0⟩, ⟨0⟩, ⟨0⟩⟩ "token"
      reportsClaims ["read:reports"] .clientCredentials :=
    .clientCredentials "client-reports" "secret" ["read:reports"] rfl (by decide)
  have tokens : ∀ scope ∈ ["read:reports"], OAuth.ScopeToken scope := by
    have checked : ("read:reports".toList.all fun char => !isSpace char) = true := by decide
    intro scope member
    obtain rfl := List.mem_singleton.mp member
    exact ⟨by decide, fun char isIn => by simpa using List.all_eq_true.mp checked char isIn⟩
  refine ⟨_, rfl, ?_, ?_⟩
  · refine (@flow_token_runs_iff Unit asciiCase OAuth.wholeSecondClaims (fun _ _ => rfl)
      (fun number => .finite number) reportsProvider _ _ "token" _ _ _ issues tokens reportsCalls
      reportsParser rfl "authn.New.func1" (fun _ => bearerRequest) _
      (@plain_of_no_options _ asciiCase OAuth.wholeSecondClaims reportsCalls rfl rfl) rfl
      anonymousContext found (fun _ => ⟨_, rfl, OAuth.decodedClaims_roundTrip _ _⟩)
      [("authn.RequireScope.func1", .requireScope ["read:reports"]),
        ("authn.RequireMethod.func1", .requireM2M)] (Handler.passing "main.handler")).mpr ?_
    simp [TokenGuard.Admits, TokenGuard.requireM2M]
  · refine (@flow_token_runs_iff Unit asciiCase OAuth.wholeSecondClaims (fun _ _ => rfl)
      (fun number => .finite number) reportsProvider _ _ "token" _ _ _ issues tokens reportsCalls
      reportsParser rfl "authn.New.func1" (fun _ => bearerRequest) _
      (@plain_of_no_options _ asciiCase OAuth.wholeSecondClaims reportsCalls rfl rfl) rfl
      anonymousContext found (fun _ => ⟨_, rfl, OAuth.decodedClaims_roundTrip _ _⟩)
      [("authn.RequireScope.func1", .requireScope ["read:reports"]),
        ("authn.RequireMethod.func1", .requireUser)] (Handler.passing "main.handler")).not.mpr ?_
    simp [TokenGuard.Admits, TokenGuard.requireUser, AuthMethod.clientCredentials,
      AuthMethod.authCodePKCE, AuthMethod.deviceFlow]

end SharedGo.Authn
