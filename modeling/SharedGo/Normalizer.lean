/-
This file models how a verified token becomes a principal: the claims that the
normalizer reads, the places where issuers put the client, the scopes and the roles,
and the order in which it looks for what tells the flow of the token. Parsing and
checking the token is the JWT library's, and a parameter, as are its getters for the
registered claims.
-/

import SharedGo.Principal

namespace SharedGo.Authn

open SharedGo Text

/-! ### Claims -/

/-- The value of a claim: one that the JSON decoder produces, a list of texts, which a caller may
also pass, or a value of another type. -/
inductive Claim where
  | nil
  | bool (value : Bool)
  | number (value : Float64)
  | text (value : String)
  | texts (values : List String)
  | array (elements : List Claim)
  | object (entries : List (String × Claim))
  | other (typeName : String)

mutual

/-- A claim as a value of type `any`. -/
def Claim.dynamic : Claim → Dynamic
  | .nil => .nil
  | .bool value => .bool value
  | .number value => .float64 value
  | .text value => .string value
  | .texts values => .strings values
  | .array elements => .array (Claim.dynamicElements elements)
  | .object entries => .object (Claim.dynamicEntries entries)
  | .other typeName => .other typeName

def Claim.dynamicElements : List Claim → List Dynamic
  | [] => []
  | element :: rest => element.dynamic :: Claim.dynamicElements rest

def Claim.dynamicEntries : List (String × Claim) → List (String × Dynamic)
  | [] => []
  | (key, value) :: rest => (key, value.dynamic) :: Claim.dynamicEntries rest

end

abbrev Claims := GoMap String Claim

/-- The text of a claim, or nothing if it is not there or is not a text. -/
def textClaim (claims : Claims) (key : String) : String :=
  match claims.lookup key with
  | some (.text value) => value
  | _ => ""

/-- The texts of an array, without the spaces around them; blank ones are dropped. -/
def trimmedTexts (elements : List Claim) : List String :=
  elements.filterMap fun
    | .text value => if trimSpace value ≠ "" then some (trimSpace value) else none
    | _ => none

/-! ### The client, the scopes and the roles -/

def extractClientID (claims : Claims) : String :=
  if textClaim claims "client_id" ≠ "" then textClaim claims "client_id"
  else if textClaim claims "azp" ≠ "" then textClaim claims "azp"
  else if textClaim claims "cid" ≠ "" then textClaim claims "cid"
  else ""

/-- The scopes of the standard claim, a text with spaces or an array. -/
def scopeTexts (claims : Claims) : List String :=
  match claims.lookup "scope" with
  | some (.text value) => ((split value ' ').map trimSpace).filter (· ≠ "")
  | some (.array elements) => trimmedTexts elements
  | _ => []

def extractScopes (claims : Claims) : List String :=
  if (scopeTexts claims).isEmpty then
    match claims.lookup "scp" with
    | some (.array elements) => trimmedTexts elements
    | _ => []
  else scopeTexts claims

/-- The roles in a claim. A list of texts is taken as it is. -/
def extractFromSlice : Option Claim → List String
  | some (.array elements) => trimmedTexts elements
  | some (.texts values) => values
  | _ => []

/-- The claim in an object, if it is one. -/
def field (object : Option Claim) (key : String) : Option Claim :=
  match object with
  | some (.object entries) => entries.lookup key
  | _ => none

def extractRoles (claims : Claims) : List String :=
  let roles := extractFromSlice (claims.lookup "roles")
  let roles := if roles.isEmpty then extractFromSlice (claims.lookup "permissions") else roles
  if roles.isEmpty then extractFromSlice (field (claims.lookup "realm_access") "roles") else roles

/-! ### The flow -/

section Flow

variable [CaseMapping]

/-- The flow that a grant type names. -/
def grantFlow (grantType : String) : Option AuthMethod :=
  let lower := CaseMapping.toLower grantType
  if lower ∈ ["client_credentials", "client-credentials"] then some .clientCredentials
  else if lower ∈ ["urn:ietf:params:oauth:grant-type:device_code", "device_code", "device"] then
    some .deviceFlow
  else if lower ∈ ["authorization_code", "auth_code", "pkce"] then some .authCodePKCE
  else none

/-- The flow that a method reference names. -/
def referenceFlow : Claim → Option AuthMethod
  | .text value =>
    let lower := CaseMapping.toLower value
    if lower = "pkce" then some .authCodePKCE
    else if contains lower "device" then some .deviceFlow
    else none
  | _ => none

def referencesFlow (claims : Claims) : Option AuthMethod :=
  match claims.lookup "amr" with
  | some (.array elements) => elements.findSome? referenceFlow
  | _ => none

omit [CaseMapping] in
/-- The subject is a machine's by its name. -/
def isMachine (clientID sub : String) : Bool :=
  clientID ≠ "" &&
    (sub = clientID || hasPrefix sub "service-account-" || hasPrefix sub "client-")

def determineOAuthFlow (claims : Claims) (clientID sub : String) : AuthMethod :=
  let grantType :=
    if textClaim claims "gty" ≠ "" then textClaim claims "gty" else textClaim claims "grant_type"
  match grantFlow grantType with
  | some flow => flow
  | none =>
    match referencesFlow claims with
    | some flow => flow
    | none =>
      if isMachine clientID sub then .clientCredentials
      else if (claims.lookup "device_code").isSome then .deviceFlow
      else if sub ≠ "" then .authCodePKCE
      else .unknown

end Flow

/-! ### The principal -/

/-- The JWT library's getters. A claim that is missing or malformed has no time, the empty issuer or
no audience. -/
class RegisteredClaims where
  issuedAt : Claims → Option Time
  expirationTime : Claims → Option Time
  issuer : Claims → String
  audience : Claims → List String

inductive TokenError where
  | invalidToken
  | malformed (reason : String)
  | tokenExpired
  | tokenNotYetValid
  | invalidIssuer
  | invalidAudience
  | missingSubject
  deriving DecidableEq, Repr

def TokenError.message : TokenError → String
  | .invalidToken => "authn: invalid or malformed token"
  | .malformed reason => "authn: invalid or malformed token: " ++ reason
  | .tokenExpired => "authn: token has expired"
  | .tokenNotYetValid => "authn: token is not valid yet (nbf)"
  | .invalidIssuer => "authn: token issuer does not match expected issuer"
  | .invalidAudience => "authn: token audience does not match expected audience"
  | .missingSubject => "authn: token missing subject claim"

def standardClaims : List String :=
  ["iss", "sub", "aud", "exp", "nbf", "iat", "jti", "scope", "scp", "roles", "permissions"]

def filterStandardClaims (claims : Claims) : GoMap String Dynamic :=
  claims.entries.foldl
    (fun metadata entry =>
      if entry.1 ∈ standardClaims then metadata else metadata.insert entry.1 entry.2.dynamic) ∅

section Normalize

variable [CaseMapping] [RegisteredClaims]

/-- Normalizes the standard claims. -/
def StandardOIDCNormalizer.normalize (claims : Claims) (rawToken : String) :
    Except TokenError CredentialPrincipal :=
  let sub := textClaim claims "sub"
  if sub = "" then .error .missingSubject
  else
    let clientID := extractClientID claims
    .ok {
      subject := sub
      clientID := clientID
      method := determineOAuthFlow claims clientID sub
      scopes := extractScopes claims
      roles := extractRoles claims
      metadata := filterStandardClaims claims
      issuer := RegisteredClaims.issuer claims
      audiences := RegisteredClaims.audience claims
      issuedAt := (RegisteredClaims.issuedAt claims).getD .zero
      expiresAt := (RegisteredClaims.expirationTime claims).getD .zero
      rawToken := rawToken }

end Normalize

/-! ### Validation -/

/-- An error of the library's parser: which errors it is, and its text. -/
structure ParseError where
  expired : Bool
  notValidYet : Bool
  invalidIssuer : Bool
  invalidAudience : Bool
  text : String

/-- What the library's parser makes of a token: its claims, and whether it is valid. -/
abbrev Parser := String → Except ParseError (Claims × Bool)

abbrev Normalizer := Claims → String → Except TokenError CredentialPrincipal

def validateToken (parse : Parser) (normalizer : Normalizer) (token : String) :
    Except TokenError CredentialPrincipal :=
  match parse token with
  | .error failure =>
    if failure.expired then .error .tokenExpired
    else if failure.notValidYet then .error .tokenNotYetValid
    else if failure.invalidIssuer then .error .invalidIssuer
    else if failure.invalidAudience then .error .invalidAudience
    else .error (.malformed failure.text)
  | .ok (claims, valid) =>
    if !valid then .error .invalidToken
    else normalizer claims token

end SharedGo.Authn
