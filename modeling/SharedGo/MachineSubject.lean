/-
This file proves when the subject of a machine is taken for one. A token that names
neither a grant nor a method of authentication is classified by its subject: that
of a client, or one that starts like a service account. The source asks this only
of tokens that name a client, and compares the subject with the first client that
is named. A service account without a client, or a subject that is only the second
client named, is classified as a user that is present, which the guards and the
policies for users then let pass.
-/

import SharedGo.Authentication
import SharedGo.RequireAll
import SharedGo.TokenRoundTrip

namespace SharedGo.Authn

open SharedGo Text Gin Authz

/-! ### Tokens that say nothing about their flow -/

/-- The grants that name a flow. -/
def recognisedGrants : List String :=
  ["client_credentials", "client-credentials", "urn:ietf:params:oauth:grant-type:device_code",
    "device_code", "device", "authorization_code", "auth_code", "pkce"]

section Subjects

variable [CaseMapping] (claims : Claims)

/-- Neither of the claims for it names a grant. -/
def NamesNoGrant : Prop :=
  ∀ key ∈ ["gty", "grant_type"], CaseMapping.toLower (textClaim claims key) ∉ recognisedGrants

/-- The method references name neither an exchange with a proof key nor a device. -/
def NamesNoMethod : Prop :=
  ∀ elements, claims.lookup "amr" = some (.array elements) → ∀ value, .text value ∈ elements →
    CaseMapping.toLower value ≠ "pkce" ∧ contains (CaseMapping.toLower value) "device" = false

omit [CaseMapping] in
/-- The subject starts as those of service accounts and clients do. -/
def StartsAsMachine : Prop :=
  hasPrefix (textClaim claims "sub") "service-account-" = true ∨
    hasPrefix (textClaim claims "sub") "client-" = true

omit [CaseMapping] in
/-- The subject is that of a machine: one of the clients, or by how it starts. -/
def MachineSubject : Prop :=
  (∃ key ∈ ["client_id", "azp", "cid"], textClaim claims key ≠ "" ∧
      textClaim claims "sub" = textClaim claims key) ∨ StartsAsMachine claims

omit [CaseMapping] in
/-- The first client that is named. -/
def firstClient : Option String :=
  (["client_id", "azp", "cid"].map (textClaim claims)).find? (· ≠ "")

omit [CaseMapping] in
/-- A client is named, and the subject is the first one or starts as a machine's does. -/
def ClientNamed : Prop :=
  ∃ client, firstClient claims = some client ∧
    (textClaim claims "sub" = client ∨ StartsAsMachine claims)

/-! ### How they are classified -/

theorem grantFlow_eq_none (grantType : String)
    (unrecognised : CaseMapping.toLower grantType ∉ recognisedGrants) :
    grantFlow grantType = none := by
  simp only [recognisedGrants, List.mem_cons, List.not_mem_nil, or_false, not_or] at unrecognised
  simp [grantFlow, unrecognised]

theorem referencesFlow_eq_none (unnamed : NamesNoMethod claims) :
    referencesFlow claims = none := by
  unfold referencesFlow
  split
  · rename_i elements found
    refine List.findSome?_eq_none_iff.mpr fun element member => ?_
    cases element with
    | text value =>
      obtain ⟨notPkce, notDevice⟩ := unnamed elements found value member
      simp [referenceFlow, notPkce, notDevice]
    | _ => rfl
  · rfl

omit [CaseMapping] in
theorem extractClientID_eq_firstClient :
    extractClientID claims = (firstClient claims).getD "" := by
  unfold extractClientID firstClient
  by_cases clientID : textClaim claims "client_id" = ""
  · by_cases azp : textClaim claims "azp" = ""
    · by_cases cid : textClaim claims "cid" = "" <;> simp [clientID, azp, cid]
    · simp [clientID, azp]
  · simp [clientID]

omit [CaseMapping] in
theorem isMachine_iff :
    isMachine (extractClientID claims) (textClaim claims "sub") = true ↔ ClientNamed claims := by
  rw [extractClientID_eq_firstClient]
  unfold ClientNamed
  cases found : firstClient claims with
  | none => simp [isMachine]
  | some client =>
    have nonempty : client ≠ "" := by simpa using List.find?_some found
    simp [isMachine, nonempty, StartsAsMachine, or_assoc]

/-- A token that says nothing about its flow is that of a machine exactly when a client is named and
the subject fits. -/
theorem determineOAuthFlow_iff (noGrant : NamesNoGrant claims) (noMethod : NamesNoMethod claims) :
    determineOAuthFlow claims (extractClientID claims) (textClaim claims "sub") =
      .clientCredentials ↔ ClientNamed claims := by
  have grant : grantFlow (if textClaim claims "gty" ≠ "" then textClaim claims "gty"
      else textClaim claims "grant_type") = none := by
    split_ifs
    · exact grantFlow_eq_none _ (noGrant "gty" (by simp))
    · exact grantFlow_eq_none _ (noGrant "grant_type" (by simp))
  rw [← isMachine_iff]
  simp only [determineOAuthFlow, grant, referencesFlow_eq_none claims noMethod]
  split_ifs with machine
  · exact iff_of_true rfl machine
  all_goals exact iff_of_false (by decide) machine

omit [CaseMapping] in
theorem subject_of_machineSubject (machine : MachineSubject claims) :
    textClaim claims "sub" ≠ "" := by
  rcases machine with ⟨key, -, nonempty, same⟩ | service | client
  · rwa [same]
  · rintro empty
    rw [empty] at service
    exact absurd service (by decide)
  · rintro empty
    rw [empty] at client
    exact absurd client (by decide)

end Subjects

/-! ### How they are treated -/

section Treatment

variable {World : Type}

/-- The handler passes the request on as it is. -/
def PassesOn (names : List String) (handler : Handler (HttpContext World))
    (context : HttpContext World) : Prop :=
  ∀ next pending entered, (handler.body names context).run next ⟨context, pending, entered⟩ =
    next ⟨context, pending, entered⟩

/-- The handler drops the pending handlers. -/
def Refuses (names : List String) (handler : Handler (HttpContext World))
    (context : HttpContext World) : Prop :=
  ∀ next pending entered,
    ((handler.body names context).run next ⟨context, pending, entered⟩).pending = [] ∧
      ((handler.body names context).run next ⟨context, pending, entered⟩).entered = entered

/-- A guard for methods passes the requests of the principals that it lists. -/
theorem requireMethod_decides (names : List String) (own : String)
    (allowedMethods : List AuthMethod) (context : HttpContext World) (principal : Principal)
    (found : user context = some principal) :
    (principal.method ∈ allowedMethods →
        PassesOn names (requireMethod own allowedMethods) context) ∧
      (principal.method ∉ allowedMethods →
        Refuses names (requireMethod own allowedMethods) context) := by
  constructor
  · intro allowed next pending entered
    simp [requireMethod, requirePrincipal, found, allowed, Program.run]
  · intro disallowed next pending entered
    simp [requireMethod, requirePrincipal, found, disallowed, refuse, Program.run]

/-- The principal is a machine to the guards and to the policies of an engine. -/
structure TreatedAsMachine (engine : PolicyEngine World) (principal : Principal) : Prop where
  method : principal.method = .clientCredentials
  notUser : ∀ names own (context : HttpContext World), user context = some principal →
    Refuses names (requireUser own) context
  m2m : ∀ names own (context : HttpContext World), user context = some principal →
    PassesOn names (requireM2M own) context
  notUserPresent : ∀ name evalCtx world, (engine.evaluate (singlePolicy name .userPresent)
    (some principal) evalCtx world).1.allowed = false
  m2mPolicy : ∀ name evalCtx world, (engine.evaluate (singlePolicy name .m2m)
    (some principal) evalCtx world).1.allowed = true

variable [CaseMapping] [BundleCodec]

/-- All that follows from the method. -/
theorem treatedAsMachine_iff (parcHandler : Option (PARCHandler World))
    (engine : PolicyEngine World) (constructed : Constructed parcHandler engine)
    (principal : Principal) :
    TreatedAsMachine engine principal ↔ principal.method = .clientCredentials := by
  refine ⟨TreatedAsMachine.method, fun method => ⟨method, ?_, ?_, ?_, ?_⟩⟩
  · intro names own context found
    refine (requireMethod_decides names own _ context principal found).2 ?_
    rw [method]
    decide
  · intro names own context found
    refine (requireMethod_decides names own _ context principal found).1 ?_
    rw [method]
    decide
  · intro name evalCtx world
    rw [← Bool.not_eq_true, singlePolicy_allowed_iff parcHandler engine constructed]
    simp [standardHandler, Requirement.requirementType, userPresentHandler,
      Principal.isUserPresent, method, AuthMethod.clientCredentials, AuthMethod.authCodePKCE,
      AuthMethod.deviceFlow]
  · intro name evalCtx world
    rw [singlePolicy_allowed_iff parcHandler engine constructed]
    simp [standardHandler, Requirement.requirementType, m2mHandler, method]

variable [RegisteredClaims]

/-- A token whose subject is that of a machine, and that says nothing else about its flow, becomes
the principal of a machine exactly when it names a client and the subject is the first one named
or starts as a machine's does. -/
theorem machineSubject_treated_iff (parcHandler : Option (PARCHandler World))
    (engine : PolicyEngine World) (constructed : Constructed parcHandler engine) (claims : Claims)
    (rawToken : String) (noGrant : NamesNoGrant claims) (noMethod : NamesNoMethod claims)
    (machine : MachineSubject claims) :
    ∃ principal, StandardOIDCNormalizer.normalize claims rawToken = .ok principal ∧
      (TreatedAsMachine engine principal.toPrincipal ↔ ClientNamed claims) := by
  rw [StandardOIDCNormalizer.normalize, if_neg (subject_of_machineSubject claims machine)]
  refine ⟨_, rfl, ?_⟩
  rw [treatedAsMachine_iff parcHandler engine constructed]
  exact determineOAuthFlow_iff claims noGrant noMethod

end Treatment

/-! ### Service accounts -/

/-- The claims of a service account, which name its client or not. -/
def serviceAccountClaims (client : Option String) : Claims :=
  match client with
  | some client =>
    (AList.insert "sub" (.text "service-account-reports") ∅).insert "azp" (.text client)
  | none => AList.insert "sub" (.text "service-account-reports") ∅

theorem serviceAccount_namesNoMethod (client : Option String) :
    @NamesNoMethod asciiCase (serviceAccountClaims client) := by
  intro elements found
  cases client <;> cases found

/-- With its client, a service account is a machine. -/
theorem serviceAccount_treated :
    let engine := @newPolicyEngine Unit asciiCase none
    ∃ principal, @StandardOIDCNormalizer.normalize asciiCase OAuth.wholeSecondClaims
        (serviceAccountClaims (some "reports")) "token" = .ok principal ∧
      TreatedAsMachine engine principal.toPrincipal := by
  intro engine
  obtain ⟨principal, normalized, treated⟩ := @machineSubject_treated_iff Unit asciiCase jsonCodec
    OAuth.wholeSecondClaims none engine (@Constructed.policyEngine Unit asciiCase jsonCodec none)
    (serviceAccountClaims (some "reports")) "token" (by unfold NamesNoGrant; decide +kernel)
    (serviceAccount_namesNoMethod _) (Or.inr (Or.inl (by decide)))
  exact ⟨principal, normalized, treated.mpr ⟨"reports", rfl, Or.inr (Or.inl (by decide))⟩⟩

/-- Without it, the same subject is a user that is present. -/
theorem serviceAccount_present :
    let claims := serviceAccountClaims none
    let engine := @newPolicyEngine Unit asciiCase none
    MachineSubject claims ∧ @NamesNoGrant asciiCase claims ∧ @NamesNoMethod asciiCase claims ∧
      ∃ principal, @StandardOIDCNormalizer.normalize asciiCase OAuth.wholeSecondClaims claims
          "token" = .ok principal ∧
        principal.method = .authCodePKCE ∧
        (engine.evaluate (singlePolicy "Users" .userPresent) (some principal.toPrincipal) none
          ()).1.allowed = true := by
  intro claims engine
  exact ⟨Or.inr (Or.inl (by decide)), by unfold NamesNoGrant; decide +kernel,
    serviceAccount_namesNoMethod none, _, rfl, by decide +kernel, by decide +kernel⟩

end SharedGo.Authn
