/-
This file proves that a token which the provider issues becomes, once it is verified,
the principal it was issued for. Between the two is JSON, which turns texts into
texts, lists of texts into arrays and numbers into floating-point numbers. The scopes
are joined by spaces on one side and split and trimmed on the other, and the grant
type that each flow writes is looked at before anything else, so that no other claim
of the token can change its flow.
-/

import SharedGo.Normalizer
import SharedGo.OAuthProvider

namespace SharedGo.OAuth

open SharedGo Text Authn

/-! ### JSON -/

/-- What the JSON decoder makes of a claim, given what it makes of a number. -/
def decoded (asFloat : Int → Float64) : ClaimValue → Claim
  | .text value => .text value
  | .number value => .number (asFloat value)
  | .texts values => .array (values.map .text)

/-- The claims that were verified are the signed ones, decoded. -/
def RoundTrip (asFloat : Int → Float64) (signed : MapClaims) (verified : Claims) : Prop :=
  ∀ key, verified.lookup key = (signed.lookup key).map (decoded asFloat)

/-- The signed claims, decoded one by one. -/
def decodedClaims (asFloat : Int → Float64) (signed : MapClaims) : Claims where
  entries := signed.entries.map (.map id fun _ => decoded asFloat)
  nodupKeys := by
    rw [List.NodupKeys, List.keys, List.map_map]
    exact signed.nodupKeys

theorem decodedClaims_roundTrip (asFloat : Int → Float64) (signed : MapClaims) :
    RoundTrip asFloat signed (decodedClaims asFloat signed) :=
  fun key => List.dlookup_map₂ key

/-- The parser accepts a token and finds the signed claims in it. -/
def Verifies (asFloat : Int → Float64) (parse : Parser) (signed : MapClaims) (token : String) :
    Prop :=
  ∃ verified, parse token = .ok (verified, true) ∧ RoundTrip asFloat signed verified

/-- The text of a claim that was signed. -/
def signedText (signed : MapClaims) (key : String) : String :=
  match signed.lookup key with
  | some (.text value) => value
  | _ => ""

section RoundTrip

variable {asFloat : Int → Float64} {signed : MapClaims} {verified : Claims}
  (roundTrip : RoundTrip asFloat signed verified)

include roundTrip

theorem textClaim_eq (key : String) : textClaim verified key = signedText signed key := by
  rw [textClaim, signedText, roundTrip key]
  cases signed.lookup key with
  | none => rfl
  | some value => cases value <;> rfl

/-- The client is that of the token, which names it nowhere else. -/
theorem extractClientID_eq (azp : signed.lookup "azp" = none) (cid : signed.lookup "cid" = none) :
    extractClientID verified = signedText signed "client_id" := by
  have noAzp : textClaim verified "azp" = "" := by rw [textClaim, roundTrip, azp]; rfl
  have noCid : textClaim verified "cid" = "" := by rw [textClaim, roundTrip, cid]; rfl
  rw [extractClientID, noAzp, noCid, textClaim_eq roundTrip]
  simp only [ne_eq, not_true_eq_false, if_false, ite_not]
  split
  · rename_i empty
    exact empty.symm
  · rfl

end RoundTrip

/-! ### Scopes -/

/-- A scope is not empty and has no spaces in it. -/
def ScopeToken (scope : String) : Prop :=
  scope ≠ "" ∧ ∀ char ∈ scope.toList, isSpace char = false

/-- What is read from joined scopes is the scopes. -/
theorem scopes_of_join (scopes : List String) (tokens : ∀ scope ∈ scopes, ScopeToken scope) :
    ((split (join " " scopes) ' ').map trimSpace).filter (· ≠ "") = scopes := by
  by_cases empty : scopes = []
  · subst empty
    decide
  · have absent : ∀ scope ∈ scopes, ' ' ∉ scope.toList := by
      intro scope member space
      exact absurd ((tokens scope member).2 ' ' space) (by decide)
    have trimmed : scopes.map trimSpace = scopes := by
      refine (List.map_congr_left fun scope member => ?_).trans (List.map_id scopes)
      exact trimSpace_eq_self scope (tokens scope member).2
    have separator : (" " : String) = String.singleton ' ' := rfl
    rw [separator, split_join ' ' scopes empty absent, trimmed, List.filter_eq_self]
    intro scope member
    exact decide_eq_true (tokens scope member).1

theorem extractScopes_eq {asFloat : Int → Float64} {signed : MapClaims} {verified : Claims}
    (roundTrip : RoundTrip asFloat signed verified) (scopes : List String)
    (tokens : ∀ scope ∈ scopes, ScopeToken scope)
    (joined : signed.lookup "scope" = some (.text (join " " scopes)))
    (scp : signed.lookup "scp" = none) : extractScopes verified = scopes := by
  have standard : scopeTexts verified = scopes := by
    rw [scopeTexts, roundTrip, joined]
    exact scopes_of_join scopes tokens
  rw [extractScopes, standard, roundTrip, scp]
  cases scopes with
  | nil => rfl
  | cons scope rest => rfl

/-! ### The flow -/

/-- A grant type that names a flow decides, whatever the other claims are. -/
theorem determineOAuthFlow_of_grant [CaseMapping] (claims : Claims) (clientID sub : String)
    (flow : AuthMethod) (present : textClaim claims "gty" ≠ "")
    (named : grantFlow (textClaim claims "gty") = some flow) :
    determineOAuthFlow claims clientID sub = flow := by
  simp only [determineOAuthFlow, if_pos present, named]

section Lowers

variable [CaseMapping] (lowersAscii : LowersAscii)

include lowersAscii

theorem grantFlow_authorization_code : grantFlow "authorization_code" = some .authCodePKCE := by
  rw [grantFlow, lowersAscii _ (by decide)]
  decide

theorem grantFlow_client_credentials :
    grantFlow "client_credentials" = some .clientCredentials := by
  rw [grantFlow, lowersAscii _ (by decide)]
  decide

theorem grantFlow_device_code :
    grantFlow "urn:ietf:params:oauth:grant-type:device_code" = some .deviceFlow := by
  rw [grantFlow, lowersAscii _ (by decide)]
  decide

end Lowers

/-! ### Issued tokens -/

section Flows

variable (provider : MockOAuthProvider) (times : CallTimes)

/-- An exchange signs the claims of the record under its code. -/
theorem exchangeAuthCode_signs (record : AuthCodeRecord) (sign : Signer)
    (clientID code codeVerifier token : String)
    (found : provider.authCodes.lookup code = some record)
    (exchanged : (provider.exchangeAuthCode sign clientID code codeVerifier times).1 = .ok token) :
    sign (provider.authCodeClaims record times) = .ok token ∧ record.clientID = clientID := by
  simp only [MockOAuthProvider.exchangeAuthCode, MockOAuthProvider.takeAuthCode, found,
    MockOAuthProvider.redeem] at exchanged
  split_ifs at exchanged with late foreign unverified
  exact ⟨(signToken_ok_iff _ _ _).mp exchanged, not_not.mp foreign⟩

theorem issueClientCredentialsToken_signs (sign : Signer) (clientID clientSecret : String)
    (scopes : List String) (token : String)
    (issued : provider.issueClientCredentialsToken sign clientID clientSecret scopes times =
      .ok token) :
    sign (provider.clientCredentialsClaims clientID scopes times) = .ok token := by
  unfold MockOAuthProvider.issueClientCredentialsToken at issued
  split at issued
  · cases issued
  · split_ifs at issued
    exact (signToken_ok_iff _ _ _).mp issued

theorem pollDeviceToken_signs (record : DeviceCodeRecord) (sign : Signer)
    (clientID deviceCode token : String)
    (found : provider.devices.findFirst deviceCode = some record)
    (polled : (provider.pollDeviceToken sign clientID deviceCode times).1 = .ok token) :
    sign (provider.deviceClaims record deviceCode times) = .ok token ∧
      record.clientID = clientID := by
  simp only [MockOAuthProvider.pollDeviceToken, found] at polled
  split_ifs at polled with late foreign pending
  exact ⟨(signToken_ok_iff _ _ _).mp polled, not_not.mp foreign⟩

end Flows

section Restored

variable [CaseMapping] [RegisteredClaims]

/-- The token is validated, and its principal is the one that it was issued for. -/
def Restores (parse : Parser) (token subject clientID : String) (scopes : List String)
    (method : AuthMethod) : Prop :=
  ∃ principal, validateToken parse StandardOIDCNormalizer.normalize token = .ok principal ∧
    principal.subject = subject ∧ principal.clientID = clientID ∧ principal.scopes = scopes ∧
    principal.method = method

theorem restores_of_issued (asFloat : Int → Float64) (signed : MapClaims)
    (subject clientID : String) (scopes : List String) (grantType : String) (flow : AuthMethod)
    (issued : Issued signed subject clientID scopes grantType) (present : subject ≠ "")
    (tokens : ∀ scope ∈ scopes, ScopeToken scope) (isGrant : grantType ≠ "")
    (named : grantFlow grantType = some flow) (parse : Parser) (token : String)
    (verifies : Verifies asFloat parse signed token) :
    Restores parse token subject clientID scopes flow := by
  obtain ⟨verified, parsed, roundTrip⟩ := verifies
  have isSubject : textClaim verified "sub" = subject := by
    rw [textClaim_eq roundTrip, signedText, issued.sub]
  have isClient : extractClientID verified = clientID := by
    rw [extractClientID_eq roundTrip issued.azp issued.cid, signedText, issued.client]
  have isType : textClaim verified "gty" = grantType := by
    rw [textClaim_eq roundTrip, signedText, issued.gty]
  have isFlow (clientID sub : String) : determineOAuthFlow verified clientID sub = flow :=
    determineOAuthFlow_of_grant verified clientID sub flow (isType ▸ isGrant) (isType ▸ named)
  simp only [Restores, validateToken, parsed, Bool.not_true, Bool.false_eq_true, if_false,
    StandardOIDCNormalizer.normalize, isSubject, if_neg present]
  exact ⟨_, rfl, rfl, isClient, extractScopes_eq roundTrip scopes tokens issued.scope issued.scp,
    isFlow _ _⟩

/-- Each flow signs claims that come back as the subject, the client, the scopes and the flow they
were issued for. -/
theorem issued_restored (lowersAscii : LowersAscii) (asFloat : Int → Float64)
    (provider : MockOAuthProvider) (times : CallTimes) :
    (∀ record : AuthCodeRecord,
        (∀ sign clientID code codeVerifier token,
          provider.authCodes.lookup code = some record →
          (provider.exchangeAuthCode sign clientID code codeVerifier times).1 = .ok token →
          sign (provider.authCodeClaims record times) = .ok token ∧ record.clientID = clientID) ∧
        (record.userID ≠ "" → (∀ scope ∈ record.scopes, ScopeToken scope) →
          ∀ parse token, Verifies asFloat parse (provider.authCodeClaims record times) token →
            Restores parse token record.userID record.clientID record.scopes .authCodePKCE)) ∧
      (∀ clientID scopes,
        (∀ sign clientSecret token,
          provider.issueClientCredentialsToken sign clientID clientSecret scopes times =
            .ok token →
          sign (provider.clientCredentialsClaims clientID scopes times) = .ok token) ∧
        (clientID ≠ "" → (∀ scope ∈ scopes, ScopeToken scope) →
          ∀ parse token,
            Verifies asFloat parse (provider.clientCredentialsClaims clientID scopes times)
              token →
            Restores parse token clientID clientID scopes .clientCredentials)) ∧
      (∀ (record : DeviceCodeRecord) deviceCode,
        (∀ sign clientID token,
          provider.devices.findFirst deviceCode = some record →
          (provider.pollDeviceToken sign clientID deviceCode times).1 = .ok token →
          sign (provider.deviceClaims record deviceCode times) = .ok token ∧
            record.clientID = clientID) ∧
        (record.userID ≠ "" → (∀ scope ∈ record.scopes, ScopeToken scope) →
          ∀ parse token,
            Verifies asFloat parse (provider.deviceClaims record deviceCode times) token →
            Restores parse token record.userID record.clientID record.scopes .deviceFlow)) := by
  refine ⟨fun record => ⟨?_, ?_⟩, fun clientID scopes => ⟨?_, ?_⟩,
    fun record deviceCode => ⟨?_, ?_⟩⟩
  · exact exchangeAuthCode_signs provider times record
  · intro present tokens parse token verifies
    exact restores_of_issued asFloat _ _ _ _ _ _ (authCodeClaims_issued provider times record)
      present tokens (by decide) (grantFlow_authorization_code lowersAscii) parse token verifies
  · intro sign clientSecret token
    exact issueClientCredentialsToken_signs provider times sign clientID clientSecret scopes token
  · intro present tokens parse token verifies
    exact restores_of_issued asFloat _ _ _ _ _ _
      (clientCredentialsClaims_issued provider times clientID scopes) present tokens (by decide)
      (grantFlow_client_credentials lowersAscii) parse token verifies
  · intro sign clientID token
    exact pollDeviceToken_signs provider times record sign clientID deviceCode token
  · intro present tokens parse token verifies
    exact restores_of_issued asFloat _ _ _ _ _ _
      (deviceClaims_issued provider times record deviceCode) present tokens (by decide)
      (grantFlow_device_code lowersAscii) parse token verifies

end Restored

/-- The getters, for tokens whose times are whole seconds and whose audience is one text. -/
@[reducible] def wholeSecondClaims : RegisteredClaims :=
  let time (claims : Claims) (key : String) : Option Time :=
    match claims.lookup key with
    | some (.number (.finite seconds)) => some ⟨seconds.floor * second⟩
    | _ => none
  { issuedAt := fun claims => time claims "iat"
    expirationTime := fun claims => time claims "exp"
    issuer := fun claims => textClaim claims "iss"
    audience := fun claims => [textClaim claims "aud"] }

/-- A user with the identifier of their client, which is also a machine's by its name. -/
def clientNamedUser : AuthCodeRecord :=
  ⟨"07", "client-app", "client-app", s256 "verifier", "S256", ["read:users", "write"], ⟨0⟩⟩

theorem clientNamedUser_restored :
    @Restores asciiCase wholeSecondClaims
      (fun _ => .ok (decodedClaims (fun number => .finite number)
        ((newMockOAuthProvider "iss" "aud").authCodeClaims clientNamedUser
          ⟨⟨0⟩, ⟨0⟩, ⟨0⟩⟩), true))
      "token" "client-app" "client-app" ["read:users", "write"] .authCodePKCE := by
  refine ((@issued_restored asciiCase wholeSecondClaims (fun _ _ => rfl)
    (fun number => .finite number) (newMockOAuthProvider "iss" "aud")
    ⟨⟨0⟩, ⟨0⟩, ⟨0⟩⟩).1 clientNamedUser).2 (by decide) ?_ _ "token" ?_
  · have tokens : ∀ scope ∈ clientNamedUser.scopes,
        scope ≠ "" ∧ (scope.toList.all fun char => !isSpace char) = true := by decide
    intro scope member
    refine ⟨(tokens scope member).1, fun char isIn => ?_⟩
    simpa using List.all_eq_true.mp (tokens scope member).2 char isIn
  · exact ⟨_, rfl, decodedClaims_roundTrip _ _⟩

end SharedGo.OAuth
