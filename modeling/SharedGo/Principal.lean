/-
This file models the authenticated principal and what is asked of it: its scopes,
its roles, and whether a user is present.
-/

import SharedGo.Dynamic
import SharedGo.Text

namespace SharedGo.Authn

open SharedGo Text

/-- How a request was authenticated. It is a text, of which the package names five. -/
structure AuthMethod where
  text : String
  deriving DecidableEq, Repr

def AuthMethod.authCodePKCE : AuthMethod := ⟨"oauth:auth_code_pkce"⟩

def AuthMethod.clientCredentials : AuthMethod := ⟨"oauth:client_credentials"⟩

def AuthMethod.deviceFlow : AuthMethod := ⟨"oauth:device_flow"⟩

def AuthMethod.apiKey : AuthMethod := ⟨"api_key"⟩

def AuthMethod.unknown : AuthMethod := ⟨"unknown"⟩

/-- The principal's data that authorization reads. -/
structure Principal where
  subject : String
  clientID : String
  method : AuthMethod
  scopes : List String
  roles : List String
  metadata : GoMap String Dynamic

/-- A principal with the data of its credential, which authorization does not read. -/
structure CredentialPrincipal extends Principal where
  issuer : String
  audiences : List String
  issuedAt : Time
  expiresAt : Time
  rawToken : String

def Principal.hasScope (principal : Principal) (scope : String) : Bool :=
  principal.scopes.contains scope

def Principal.hasAllScopes (principal : Principal) (requiredScopes : List String) : Bool :=
  requiredScopes.all principal.hasScope

/-- Asking for no scope at all succeeds. -/
def Principal.hasAnyScope (principal : Principal) (candidateScopes : List String) : Bool :=
  candidateScopes.isEmpty || candidateScopes.any principal.hasScope

/-- Roles are compared ignoring case. -/
def Principal.hasRole [CaseMapping] (principal : Principal) (role : String) : Bool :=
  principal.roles.any fun held => CaseMapping.toLower held = CaseMapping.toLower role

/-- Asking for no role at all succeeds. -/
def Principal.hasAnyRole [CaseMapping] (principal : Principal) (candidateRoles : List String) :
    Bool :=
  candidateRoles.isEmpty || candidateRoles.any principal.hasRole

def Principal.isUserPresent (principal : Principal) : Bool :=
  principal.method = .authCodePKCE || principal.method = .deviceFlow

end SharedGo.Authn
