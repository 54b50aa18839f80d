/-
This file models the OAuth provider: its three flows, and the claims of the tokens
that they sign. The random bytes and the times that a call reads are its arguments,
and the signer is a parameter. The exchange of an authorization code is split where
the source releases its lock: the code is taken under the lock, and everything else
is done with the record that was taken.
-/

import SharedGo.Dynamic
import SharedGo.Encoding
import SharedGo.SharedRecords
import SharedGo.Text

namespace SharedGo.OAuth

open SharedGo Text

/-! ### Times -/

def second : Int := 1000000000

def minute : Int := 60 * second

def hour : Int := 60 * minute

/-- The seconds from the epoch. -/
def unix (time : Time) : Int := time.nanoseconds / second

/-! ### Errors, claims and records -/

inductive OAuthError where
  | invalidClient
  | invalidGrant
  | pkceVerificationFail
  | deviceAuthPending
  | deviceAuthExpired
  | unsupportedMethod
  | userCodeNotFound
  | failed (reason : String)
  deriving DecidableEq, Repr

def OAuthError.message : OAuthError → String
  | .invalidClient => "oauth: invalid client or secret"
  | .invalidGrant => "oauth: invalid or expired grant"
  | .pkceVerificationFail => "oauth: pkce code verifier verification failed"
  | .deviceAuthPending => "oauth: authorization_pending"
  | .deviceAuthExpired => "oauth: device code has expired"
  | .unsupportedMethod => "only S256 code_challenge_method is supported"
  | .userCodeNotFound => "user code not found"
  | .failed reason => reason

/-- The value of a claim. -/
inductive ClaimValue where
  | text (value : String)
  | number (value : Int)
  | texts (values : List String)
  deriving DecidableEq, Repr

abbrev MapClaims := GoMap String ClaimValue

/-- The claims of a map literal. -/
def mapClaims (entries : List (String × ClaimValue)) : MapClaims :=
  entries.foldr (fun entry claims => claims.insert entry.1 entry.2) ∅

/-- Signs claims with the provider's key. -/
abbrev Signer := MapClaims → Except String String

structure AuthCodeRecord where
  code : String
  clientID : String
  userID : String
  codeChallenge : String
  codeChallengeMethod : String
  scopes : List String
  expiresAt : Time
  deriving DecidableEq, Repr

structure DeviceCodeRecord where
  deviceCode : String
  userCode : String
  clientID : String
  scopes : List String
  userID : String
  approved : Bool
  expiresAt : Time
  deriving DecidableEq, Repr

structure DeviceAuthResponse where
  deviceCode : String
  userCode : String
  verificationURI : String
  verificationURIComplete : String
  expiresIn : Nat
  interval : Nat
  deriving DecidableEq, Repr

/-- The provider. The records of devices are shared by two maps, one by device codes and one by
user codes. -/
structure MockOAuthProvider where
  issuer : String
  audience : String
  authCodes : GoMap String AuthCodeRecord
  devices : TwoIndexed String String DeviceCodeRecord
  clientSecret : GoMap String String

def newMockOAuthProvider (issuer audience : String) : MockOAuthProvider where
  issuer := issuer
  audience := audience
  authCodes := ∅
  devices := .empty
  clientSecret :=
    (∅ : GoMap String String).insert "service-worker-client" "secret-worker-password-123"

/-- The challenge of a verifier. -/
def s256 (verifier : String) : String := rawURLEncode (Sha256.sum (textBytes verifier))

/-- A verifier from random bytes, and its challenge. -/
def generatePKCEVerifierAndChallenge (bytes : Except String Bytes) :
    Except String (String × String) :=
  match bytes with
  | .error reason => .error reason
  | .ok bytes => .ok (rawURLEncode bytes, s256 (rawURLEncode bytes))

/-- The failure of the signer, as that of the call. -/
def signToken (sign : Signer) (claims : MapClaims) : Except OAuthError String :=
  (sign claims).mapError .failed

theorem signToken_ok_iff (sign : Signer) (claims : MapClaims) (token : String) :
    signToken sign claims = .ok token ↔ sign claims = .ok token := by
  unfold signToken
  cases sign claims with
  | error reason => simp [Except.mapError]
  | ok signed => simp [Except.mapError]

/-- The times that a call reads: when it checks the expiry, and for the claims of its token. -/
structure CallTimes where
  checked : Time
  expires : Time
  issued : Time
  deriving DecidableEq, Repr

/-- What an authorization is asked for with. -/
structure AuthorizeRequest where
  clientID : String
  userID : String
  challenge : String
  method : String
  scopes : List String
  deriving DecidableEq, Repr

namespace MockOAuthProvider

variable (provider : MockOAuthProvider)

def registerClient (clientID secret : String) : MockOAuthProvider :=
  { provider with clientSecret := provider.clientSecret.insert clientID secret }

/-! ### Authorization codes -/

/-- Issues an authorization code. -/
def authorizePKCE (request : AuthorizeRequest) (codeBytes : Except String Bytes) (now : Time) :
    Except OAuthError String × MockOAuthProvider :=
  if request.method ≠ "S256" then (.error .unsupportedMethod, provider)
  else
    match codeBytes with
    | .error reason => (.error (.failed reason), provider)
    | .ok codeBytes =>
      let code := hexEncode codeBytes
      let record : AuthCodeRecord :=
        ⟨code, request.clientID, request.userID, request.challenge, request.method,
          request.scopes, now.add (5 * minute)⟩
      (.ok code, { provider with authCodes := provider.authCodes.insert code record })

/-- The locked section of an exchange, which takes the code. -/
def takeAuthCode (code : String) : Option AuthCodeRecord × MockOAuthProvider :=
  match provider.authCodes.lookup code with
  | none => (none, provider)
  | some record => (some record, { provider with authCodes := provider.authCodes.erase code })

def authCodeClaims (record : AuthCodeRecord) (times : CallTimes) : MapClaims :=
  mapClaims [("iss", .text provider.issuer), ("sub", .text record.userID),
    ("aud", .text provider.audience), ("exp", .number (unix (times.expires.add (1 * hour)))),
    ("iat", .number (unix times.issued)), ("gty", .text "authorization_code"),
    ("amr", .texts ["pkce", "pwd"]), ("scope", .text (join " " record.scopes)),
    ("client_id", .text record.clientID)]

/-- The rest of an exchange, with the record that was taken. -/
def redeem (sign : Signer) (record : AuthCodeRecord) (clientID codeVerifier : String)
    (times : CallTimes) : Except OAuthError String :=
  if times.checked.after record.expiresAt then .error .invalidGrant
  else if record.clientID ≠ clientID then .error .invalidGrant
  else if s256 codeVerifier ≠ record.codeChallenge then .error .pkceVerificationFail
  else signToken sign (provider.authCodeClaims record times)

/-- Exchanges an authorization code for a token. -/
def exchangeAuthCode (sign : Signer) (clientID code codeVerifier : String) (times : CallTimes) :
    Except OAuthError String × MockOAuthProvider :=
  match provider.takeAuthCode code with
  | (none, left) => (.error .invalidGrant, left)
  | (some record, left) => (left.redeem sign record clientID codeVerifier times, left)

/-! ### Client credentials -/

def clientCredentialsClaims (clientID : String) (scopes : List String) (times : CallTimes) :
    MapClaims :=
  mapClaims [("iss", .text provider.issuer), ("sub", .text clientID),
    ("aud", .text provider.audience), ("exp", .number (unix (times.expires.add (2 * hour)))),
    ("iat", .number (unix times.issued)), ("gty", .text "client_credentials"),
    ("client_id", .text clientID), ("scope", .text (join " " scopes))]

def issueClientCredentialsToken (sign : Signer) (clientID clientSecret : String)
    (scopes : List String) (times : CallTimes) : Except OAuthError String :=
  match provider.clientSecret.lookup clientID with
  | none => .error .invalidClient
  | some secret =>
    if secret ≠ clientSecret then .error .invalidClient
    else signToken sign (provider.clientCredentialsClaims clientID scopes times)

/-! ### Devices -/

/-- Four upper-case digits, a dash, and the others. -/
def userCodeOf [CaseMapping] (bytes : Bytes) : String :=
  let digits := (CaseMapping.toUpper (hexEncode bytes)).toList
  String.ofList (digits.take 4) ++ "-" ++ String.ofList (digits.drop 4)

/-- Starts the flow of a device. -/
def requestDeviceCode [CaseMapping] (clientID : String) (scopes : List String)
    (deviceBytes userBytes : Except String Bytes) (now : Time) :
    Except OAuthError DeviceAuthResponse × MockOAuthProvider :=
  match deviceBytes with
  | .error reason => (.error (.failed reason), provider)
  | .ok deviceBytes =>
    match userBytes with
    | .error reason => (.error (.failed reason), provider)
    | .ok userBytes =>
      let deviceCode := hexEncode deviceBytes
      let userCode := userCodeOf userBytes
      let record : DeviceCodeRecord :=
        ⟨deviceCode, userCode, clientID, scopes, "", false, now.add (10 * minute)⟩
      (.ok ⟨deviceCode, userCode, "https://example.com/activate",
          "https://example.com/activate?user_code=" ++ userCode, 600, 5⟩,
        { provider with devices := provider.devices.add deviceCode userCode record })

/-- Approves the device with a user code; the failure, if any. -/
def approveDeviceCode (userCode userID : String) (now : Time) :
    Option OAuthError × MockOAuthProvider :=
  match provider.devices.findSecond userCode with
  | none => (some .userCodeNotFound, provider)
  | some record =>
    if now.after record.expiresAt then (some .deviceAuthExpired, provider)
    else (none, { provider with
      devices := provider.devices.modifySecond userCode fun record =>
        { record with approved := true, userID } })

def deviceClaims (record : DeviceCodeRecord) (deviceCode : String) (times : CallTimes) :
    MapClaims :=
  mapClaims [("iss", .text provider.issuer), ("sub", .text record.userID),
    ("aud", .text provider.audience), ("exp", .number (unix (times.expires.add (1 * hour)))),
    ("iat", .number (unix times.issued)),
    ("gty", .text "urn:ietf:params:oauth:grant-type:device_code"),
    ("client_id", .text record.clientID), ("device_code", .text deviceCode),
    ("scope", .text (join " " record.scopes))]

/-- Exchanges a device code for a token, once it is approved. The records are deleted before the
token is signed. -/
def pollDeviceToken (sign : Signer) (clientID deviceCode : String) (times : CallTimes) :
    Except OAuthError String × MockOAuthProvider :=
  match provider.devices.findFirst deviceCode with
  | none => (.error .invalidGrant, provider)
  | some record =>
    if times.checked.after record.expiresAt then (.error .deviceAuthExpired, provider)
    else if record.clientID ≠ clientID then (.error .invalidGrant, provider)
    else if !record.approved then (.error .deviceAuthPending, provider)
    else
      let left := { provider with
        devices := provider.devices.remove record.deviceCode record.userCode }
      (signToken sign (left.deviceClaims record deviceCode times), left)

end MockOAuthProvider

/-! ### What the flows write -/

theorem lookup_mapClaims (entries : List (String × ClaimValue)) (key : String) :
    (mapClaims entries).lookup key = entries.lookup key := by
  induction entries with
  | nil => rfl
  | cons entry rest inductionHypothesis =>
    have inserted : (mapClaims (entry :: rest)).lookup key =
        if key = entry.1 then some entry.2 else (mapClaims rest).lookup key :=
      GoMap.lookup_insert_eq _ entry.1 key entry.2
    rw [inserted, inductionHypothesis]
    by_cases same : key = entry.1
    · rw [if_pos same, same, List.lookup_cons_self]
    · rw [if_neg same, List.lookup_cons, beq_eq_false_iff_ne.mpr same]

/-- Claims as a flow writes them: a subject, a client, joined scopes and a grant type, and none of
the other claims in which a client or scopes are looked for. -/
structure Issued (signed : MapClaims) (subject clientID : String) (scopes : List String)
    (grantType : String) : Prop where
  sub : signed.lookup "sub" = some (.text subject)
  client : signed.lookup "client_id" = some (.text clientID)
  azp : signed.lookup "azp" = none
  cid : signed.lookup "cid" = none
  scope : signed.lookup "scope" = some (.text (join " " scopes))
  scp : signed.lookup "scp" = none
  gty : signed.lookup "gty" = some (.text grantType)

section Issued

variable (provider : MockOAuthProvider) (times : CallTimes)

theorem authCodeClaims_issued (record : AuthCodeRecord) :
    Issued (provider.authCodeClaims record times) record.userID record.clientID record.scopes
      "authorization_code" := by
  unfold MockOAuthProvider.authCodeClaims
  constructor <;> rw [lookup_mapClaims] <;> rfl

theorem clientCredentialsClaims_issued (clientID : String) (scopes : List String) :
    Issued (provider.clientCredentialsClaims clientID scopes times) clientID clientID scopes
      "client_credentials" := by
  unfold MockOAuthProvider.clientCredentialsClaims
  constructor <;> rw [lookup_mapClaims] <;> rfl

theorem deviceClaims_issued (record : DeviceCodeRecord) (deviceCode : String) :
    Issued (provider.deviceClaims record deviceCode times) record.userID record.clientID
      record.scopes "urn:ietf:params:oauth:grant-type:device_code" := by
  unfold MockOAuthProvider.deviceClaims
  constructor <;> rw [lookup_mapClaims] <;> rfl

end Issued

end SharedGo.OAuth
