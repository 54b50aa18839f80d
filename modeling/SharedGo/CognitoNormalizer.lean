/-
This file models the normalizer of Cognito tokens, which completes the principal of
the standard one, and proves when it merges the groups of a token into the roles.
The groups are appended one after the other unless a role of the same lower-cased
name is there already; a set of such names is kept beside the list and is the same
as the names of the list. Groups are read from an array. A list of texts, which the
roles themselves may be given as, is passed over, and its groups are lost.
-/

import SharedGo.Normalizer

namespace SharedGo.Authn

open SharedGo Text

section Cognito

variable [CaseMapping]

/-! ### The normalizer -/

omit [CaseMapping] in
/-- The name is in the set. -/
def marked (names : GoMap String Bool) (name : String) : Bool := (names.lookup name).getD false

/-- The lower-cased names of roles. -/
def existingRoles (roles : List String) : GoMap String Bool :=
  roles.foldl (fun names role => names.insert (CaseMapping.toLower role) true) ∅

/-- Appends a group unless it is empty or a role already, ignoring case. -/
def mergeGroup (merged : List String × GoMap String Bool) : Claim → List String × GoMap String Bool
  | .text group =>
    if group ≠ "" ∧ marked merged.2 (CaseMapping.toLower group) = false then
      (merged.1 ++ [group], merged.2.insert (CaseMapping.toLower group) true)
    else merged
  | _ => merged

def mergeGroups (claims : Claims) (roles : List String) : List String :=
  match claims.lookup "cognito:groups" with
  | some (.array elements) => (elements.foldl mergeGroup (roles, existingRoles roles)).1
  | _ => roles

omit [CaseMapping] in
/-- In tokens for a user's identity the client is the audience. -/
def resolveClientID (claims : Claims) (clientID : String) (audiences : List String) : String :=
  if clientID ≠ "" then clientID
  else if textClaim claims "client_id" ≠ "" then textClaim claims "client_id"
  else if textClaim claims "token_use" = "id" then audiences.headD ""
  else clientID

/-- Records the provider that a user was federated from. -/
def attachFederation (claims : Claims) (metadata : GoMap String Dynamic) : GoMap String Dynamic :=
  match claims.lookup "identities" with
  | some (.array (first :: _)) =>
    match field (some first) "providerName" with
    | some (.text providerName) =>
      let named := metadata.insert "federated_provider" (.string providerName)
      if CaseMapping.equalFold providerName "Google" ||
          contains (CaseMapping.toLower providerName) "saml" then
        named.insert "auth_origin" (.string "google_saml")
      else named
    | _ => metadata
  | _ => metadata

omit [CaseMapping] in
def attachUsername (claims : Claims) (metadata : GoMap String Dynamic) : GoMap String Dynamic :=
  if textClaim claims "cognito:username" ≠ "" then
    metadata.insert "cognito_username" (.string (textClaim claims "cognito:username"))
  else metadata

/-- Normalizes the claims of Cognito. -/
def CognitoClaimsNormalizer.normalize [RegisteredClaims] (claims : Claims) (rawToken : String) :
    Except TokenError CredentialPrincipal :=
  match StandardOIDCNormalizer.normalize claims rawToken with
  | .error error => .error error
  | .ok principal =>
    .ok { principal with
      roles := mergeGroups claims principal.roles
      clientID := resolveClientID claims principal.clientID principal.audiences
      metadata := attachUsername claims (attachFederation claims principal.metadata) }

/-! ### What is merged -/

/-- Two names are equal ignoring case. -/
def SameName (first second : String) : Prop :=
  CaseMapping.toLower first = CaseMapping.toLower second

omit [CaseMapping] in
/-- The texts of an array that are not empty. -/
def nonemptyTexts (elements : List Claim) : List String :=
  elements.filterMap fun
    | .text value => if value ≠ "" then some value else none
    | _ => none

omit [CaseMapping] in
/-- The texts in the claim for groups that are not empty. -/
def groupEntries (claims : Claims) : List String :=
  match claims.lookup "cognito:groups" with
  | some (.array elements) => nonemptyTexts elements
  | some (.texts values) => values.filter (· ≠ "")
  | _ => []

/-- No appended name is that of a role or of another appended before it. -/
def Fresh (roles appended : List String) : Prop :=
  ∀ before group after, appended = before ++ group :: after →
    ∀ earlier ∈ roles ++ before, ¬SameName earlier group

/-- The roles of the principal are those of the token with the groups merged into them. -/
structure RolesMerged (claims : Claims) (principal : Principal) : Prop where
  held : ∀ role, principal.hasRole role = true ↔
    (∃ found ∈ extractRoles claims, SameName found role) ∨
      ∃ group ∈ groupEntries claims, SameName group role
  appended : ∃ groups, principal.roles = extractRoles claims ++ groups ∧
    Fresh (extractRoles claims) groups

/-! ### The loop -/

theorem fresh_nil (roles : List String) : Fresh roles [] := by
  intro before group after split
  simp at split

theorem fresh_cons (roles rest : List String) (group : String)
    (new : ∀ role ∈ roles, ¬SameName role group) (fresh : Fresh (roles ++ [group]) rest) :
    Fresh roles (group :: rest) := by
  intro before other after split earlier member
  cases before with
  | nil =>
    obtain ⟨rfl, -⟩ := List.cons.inj split
    exact new earlier (by simpa using member)
  | cons head before =>
    obtain ⟨rfl, tail⟩ := List.cons.inj split
    refine fresh before other after tail earlier ?_
    rwa [List.append_assoc]

omit [CaseMapping] in
theorem marked_insert (names : GoMap String Bool) (name other : String) :
    marked (names.insert name true) other = true ↔ other = name ∨ marked names other = true := by
  unfold marked
  rw [GoMap.lookup_insert_eq]
  split_ifs with same <;> simp [same]

/-- The set has the lower-cased names of the roles. -/
def Tracks (names : GoMap String Bool) (roles : List String) : Prop :=
  ∀ name, marked names name = true ↔ ∃ role ∈ roles, CaseMapping.toLower role = name

theorem tracks_append (names : GoMap String Bool) (roles : List String) (role : String)
    (tracks : Tracks names roles) :
    Tracks (names.insert (CaseMapping.toLower role) true) (roles ++ [role]) := by
  intro name
  rw [marked_insert, tracks name]
  simp only [List.mem_append, List.mem_singleton]
  constructor
  · rintro (rfl | ⟨held, member, same⟩)
    · exact ⟨role, Or.inr rfl, rfl⟩
    · exact ⟨held, Or.inl member, same⟩
  · rintro ⟨held, member | rfl, same⟩
    · exact Or.inr ⟨held, member, same⟩
    · exact Or.inl same.symm

theorem tracks_existingRoles (roles : List String) : Tracks (existingRoles roles) roles := by
  have start : Tracks (∅ : GoMap String Bool) [] := by
    intro name
    simp [marked]
  have all (names : GoMap String Bool) (before : List String) (tracks : Tracks names before) :
      Tracks (roles.foldl (fun names role => names.insert (CaseMapping.toLower role) true) names)
        (before ++ roles) := by
    induction roles generalizing names before with
    | nil => rwa [List.append_nil]
    | cons role rest inductionHypothesis =>
      have next := inductionHypothesis _ _ (tracks_append names before role tracks)
      rwa [List.append_assoc] at next
  exact all ∅ [] start

/-- What a group does to roles whose names are tracked: it is passed over if it is empty or a role,
and appended otherwise. -/
theorem mergeGroup_cases (roles : List String) (names : GoMap String Bool) (element : Claim)
    (tracks : Tracks names roles) :
    (mergeGroup (roles, names) element = (roles, names) ∧
        ∀ group ∈ nonemptyTexts [element], ∃ role ∈ roles, SameName role group) ∨
      ∃ group, nonemptyTexts [element] = [group] ∧
        (∀ role ∈ roles, ¬SameName role group) ∧
        mergeGroup (roles, names) element =
          (roles ++ [group], names.insert (CaseMapping.toLower group) true) := by
  cases element with
  | text group =>
    by_cases empty : group = ""
    · refine Or.inl ⟨by simp [mergeGroup, empty], by simp [nonemptyTexts, empty]⟩
    have alone : nonemptyTexts [.text group] = [group] := by simp [nonemptyTexts, empty]
    have known := tracks (CaseMapping.toLower group)
    cases found : marked names (CaseMapping.toLower group) with
    | true =>
      refine Or.inl ⟨by simp [mergeGroup, found], ?_⟩
      rw [alone, List.forall_mem_singleton]
      exact known.mp found
    | false =>
      refine Or.inr ⟨group, alone, fun role member same => ?_, by simp [mergeGroup, found, empty]⟩
      rw [known.mpr ⟨role, member, same⟩] at found
      cases found
  | _ => exact Or.inl ⟨rfl, by simp [nonemptyTexts]⟩

omit [CaseMapping] in
theorem nonemptyTexts_cons (element : Claim) (rest : List Claim) :
    nonemptyTexts (element :: rest) = nonemptyTexts [element] ++ nonemptyTexts rest :=
  List.filterMap_append (l := [element])

/-- The loop appends new names only, and afterwards the roles have the names of all groups. -/
theorem foldl_mergeGroup (elements : List Claim) (roles : List String) (names : GoMap String Bool)
    (tracks : Tracks names roles) :
    ∃ groups, (elements.foldl mergeGroup (roles, names)).1 = roles ++ groups ∧
      Fresh roles groups ∧
      ∀ name, (∃ role ∈ roles ++ groups, SameName role name) ↔
        (∃ role ∈ roles, SameName role name) ∨
          ∃ group ∈ nonemptyTexts elements, SameName group name := by
  induction elements generalizing roles names with
  | nil => exact ⟨[], by simp, fresh_nil roles, fun name => by simp [nonemptyTexts]⟩
  | cons element rest inductionHypothesis =>
    rw [List.foldl_cons, nonemptyTexts_cons]
    obtain ⟨kept, known⟩ | ⟨group, alone, new, appended⟩ :=
      mergeGroup_cases roles names element tracks
    · rw [kept]
      obtain ⟨groups, merged, fresh, members⟩ := inductionHypothesis roles names tracks
      refine ⟨groups, merged, fresh, fun name => ?_⟩
      rw [members name]
      simp only [List.mem_append, or_and_right, exists_or]
      constructor
      · exact Or.imp_right Or.inr
      · rintro (held | ⟨group, member, same⟩ | later)
        · exact Or.inl held
        · obtain ⟨role, isRole, sameRole⟩ := known group member
          exact Or.inl ⟨role, isRole, sameRole.trans same⟩
        · exact Or.inr later
    · rw [appended, alone]
      obtain ⟨groups, merged, fresh, members⟩ := inductionHypothesis (roles ++ [group]) _
        (tracks_append names roles group tracks)
      refine ⟨group :: groups, ?_, fresh_cons roles groups group new fresh, fun name => ?_⟩
      · rw [merged, List.append_assoc, List.singleton_append]
      · have together := members name
        rw [List.append_assoc, List.singleton_append] at together
        rw [together]
        simp only [List.mem_append, or_and_right, exists_or, or_assoc]

/-! ### When the groups are merged -/

/-- Groups that are given as a list of texts are all roles already. -/
def ListedAreRoles (claims : Claims) : Prop :=
  ∀ values, claims.lookup "cognito:groups" = some (.texts values) → ∀ group ∈ values, group ≠ "" →
    ∃ role ∈ extractRoles claims, SameName role group

/-- The roles with the groups of an array merged into them, whatever the claim for groups is. -/
theorem mergeGroups_spec (claims : Claims) (roles : List String) :
    ∃ groups, mergeGroups claims roles = roles ++ groups ∧ Fresh roles groups ∧
      ∀ name, (∃ role ∈ roles ++ groups, SameName role name) ↔
        (∃ role ∈ roles, SameName role name) ∨
          ∃ elements, claims.lookup "cognito:groups" = some (.array elements) ∧
            ∃ group ∈ nonemptyTexts elements, SameName group name := by
  unfold mergeGroups
  split
  · rename_i elements found
    obtain ⟨groups, merged, fresh, members⟩ :=
      foldl_mergeGroup elements roles _ (tracks_existingRoles roles)
    refine ⟨groups, merged, fresh, fun name => ?_⟩
    rw [members name]
    simp [found]
  · rename_i other
    refine ⟨[], by simp, fresh_nil roles, fun name => ?_⟩
    simp only [List.append_nil]
    refine ⟨Or.inl, fun held => held.resolve_right ?_⟩
    rintro ⟨elements, found, -⟩
    exact other elements found

theorem exists_groupEntries_iff (claims : Claims) (name : String) :
    (∃ group ∈ groupEntries claims, SameName group name) ↔
      (∃ elements, claims.lookup "cognito:groups" = some (.array elements) ∧
          ∃ group ∈ nonemptyTexts elements, SameName group name) ∨
        ∃ values, claims.lookup "cognito:groups" = some (.texts values) ∧
          ∃ group ∈ values, group ≠ "" ∧ SameName group name := by
  unfold groupEntries
  split
  · rename_i elements found
    simp [found]
  · rename_i values found
    simp [found, and_assoc]
  · rename_i noArray noTexts
    constructor
    · simp
    · rintro (⟨elements, found, -⟩ | ⟨values, found, -⟩)
      · exact absurd found (noArray elements)
      · exact absurd found (noTexts values)

theorem hasRole_iff (principal : Principal) (role : String) :
    principal.hasRole role = true ↔ ∃ held ∈ principal.roles, SameName held role := by
  simp [Principal.hasRole, SameName]

/-- For tokens with a subject, the groups are merged into the roles exactly when they are not a
list of texts, or all the groups in it are roles already. -/
theorem cognito_rolesMerged_iff [RegisteredClaims] (claims : Claims) (rawToken : String)
    (subject : textClaim claims "sub" ≠ "") :
    ∃ principal, CognitoClaimsNormalizer.normalize claims rawToken = .ok principal ∧
      (RolesMerged claims principal.toPrincipal ↔ ListedAreRoles claims) := by
  rw [CognitoClaimsNormalizer.normalize, StandardOIDCNormalizer.normalize, if_neg subject]
  refine ⟨_, rfl, ?_⟩
  obtain ⟨groups, merged, fresh, members⟩ := mergeGroups_spec claims (extractRoles claims)
  constructor
  · intro rolesMerged values found group member nonempty
    have held := (rolesMerged.held group).mpr (Or.inr ((exists_groupEntries_iff claims group).mpr
      (Or.inr ⟨values, found, group, member, nonempty, rfl⟩)))
    rw [hasRole_iff] at held
    simp only [merged] at held
    refine ((members group).mp held).resolve_right ?_
    rintro ⟨elements, isArray, -⟩
    rw [found] at isArray
    cases isArray
  · intro listed
    refine ⟨fun role => ?_, groups, merged, fresh⟩
    rw [hasRole_iff]
    simp only [merged]
    rw [members role, exists_groupEntries_iff]
    constructor
    · exact Or.imp_right Or.inl
    · rintro (held | array | ⟨values, found, group, member, nonempty, same⟩)
      · exact Or.inl held
      · exact Or.inr array
      · obtain ⟨held, isRole, sameGroup⟩ := listed values found group member nonempty
        exact Or.inl ⟨held, isRole, sameGroup.trans same⟩

end Cognito

/-! ### A user in two groups -/

/-- A user of two groups, one of which is a role in another case. -/
def groupedClaims (groups : Claim) : Claims :=
  ((AList.insert "sub" (.text "user_42") ∅).insert "roles" (.array [.text "admins"])).insert
    "cognito:groups" groups

/-- Getters for tokens without registered claims. -/
@[reducible] def noRegisteredClaims : RegisteredClaims where
  issuedAt _ := none
  expirationTime _ := none
  issuer _ := ""
  audience _ := []

/-- As an array, the groups are merged. -/
theorem array_groups_merged :
    let claims := groupedClaims (.array [.text "Admins", .text "Engineering", .text ""])
    ∃ principal, @CognitoClaimsNormalizer.normalize asciiCase noRegisteredClaims claims "token" =
        .ok principal ∧
      @RolesMerged asciiCase claims principal.toPrincipal ∧
      principal.roles = ["admins", "Engineering"] := by
  intro claims
  obtain ⟨principal, normalized, merged⟩ := @cognito_rolesMerged_iff asciiCase noRegisteredClaims
    claims "token" (by decide)
  have listed : @ListedAreRoles asciiCase claims := by
    intro values found
    cases found
  have computed : (@CognitoClaimsNormalizer.normalize asciiCase noRegisteredClaims claims
      "token").map (·.roles) = .ok ["admins", "Engineering"] := by decide +kernel
  rw [normalized] at computed
  exact ⟨principal, normalized, merged.mpr listed, Except.ok.inj computed⟩

/-- As a list of texts, as the roles may be given, they are not. -/
theorem listed_groups_lost :
    let claims := groupedClaims (.texts ["Admins", "Engineering"])
    ∃ principal, @CognitoClaimsNormalizer.normalize asciiCase noRegisteredClaims claims "token" =
        .ok principal ∧
      "Engineering" ∈ groupEntries claims ∧
      @Principal.hasRole asciiCase principal.toPrincipal "Engineering" = false ∧
      ¬@RolesMerged asciiCase claims principal.toPrincipal := by
  intro claims
  have entry : "Engineering" ∈ groupEntries claims := by decide +kernel
  obtain ⟨principal, normalized⟩ : ∃ principal, @CognitoClaimsNormalizer.normalize asciiCase
      noRegisteredClaims claims "token" = .ok principal := ⟨_, rfl⟩
  have computed : (@CognitoClaimsNormalizer.normalize asciiCase noRegisteredClaims claims
      "token").map (fun principal => @Principal.hasRole asciiCase principal.toPrincipal
        "Engineering") = .ok false := by decide +kernel
  rw [normalized] at computed
  have absent : @Principal.hasRole asciiCase principal.toPrincipal "Engineering" = false :=
    Except.ok.inj computed
  refine ⟨principal, normalized, entry, absent, fun merged => ?_⟩
  have held := (@RolesMerged.held asciiCase claims _ merged "Engineering").mpr
    (Or.inr ⟨"Engineering", entry, rfl⟩)
  rw [held] at absent
  cases absent

end SharedGo.Authn
