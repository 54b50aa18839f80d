/-
This file proves on which encodings of scopes their extraction does not depend.
Issuers write the scopes of a token as one text with spaces or as an array, and
under either of two names. Under the standard name both are read, and under the
other one, which is asked when the standard one has no scopes, only the array. A
text there is passed over, and with it all the scopes of the caller.
-/

import SharedGo.TokenRoundTrip

namespace SharedGo.Authn

open SharedGo Text OAuth

/-- How an issuer writes a list of scopes. -/
inductive ScopeEncoding where
  | delimited
  | array
  deriving DecidableEq, Repr

/-- The claim that holds the scopes. -/
def ScopeEncoding.claim : ScopeEncoding → List String → Claim
  | .delimited, scopes => .text (join " " scopes)
  | .array, scopes => .array (scopes.map .text)

/-- The name that an issuer writes the scopes under. -/
inductive ScopeName where
  | scope
  | scp
  deriving DecidableEq, Repr

/-- The claims have the scopes under the name. The second name counts when nothing comes from the
first one, so no scopes under the first name are none at all only without a second. -/
def CarriesScopes (claims : Claims) (scopes : List String) (encoding : ScopeEncoding) :
    ScopeName → Prop
  | .scope => claims.lookup "scope" = some (encoding.claim scopes) ∧
      (scopes = [] → claims.lookup "scp" = none)
  | .scp => scopeTexts claims = [] ∧ claims.lookup "scp" = some (encoding.claim scopes)

/-- An array of scopes is read as it is. -/
theorem trimmedTexts_eq (scopes : List String) (tokens : ∀ scope ∈ scopes, ScopeToken scope) :
    trimmedTexts (scopes.map .text) = scopes := by
  induction scopes with
  | nil => rfl
  | cons scope rest inductionHypothesis =>
    obtain ⟨⟨nonempty, spaceless⟩, others⟩ := List.forall_mem_cons.mp tokens
    have trimmed := trimSpace_eq_self scope spaceless
    have tail := inductionHypothesis others
    unfold trimmedTexts at tail ⊢
    simp only [List.map_cons, List.filterMap_cons, trimmed, ne_eq, nonempty, not_false_eq_true,
      if_true, tail]

/-- Under the standard name both encodings are read. -/
theorem scopeTexts_eq (claims : Claims) (scopes : List String)
    (tokens : ∀ scope ∈ scopes, ScopeToken scope) (encoding : ScopeEncoding)
    (carried : claims.lookup "scope" = some (encoding.claim scopes)) :
    scopeTexts claims = scopes := by
  rw [scopeTexts, carried]
  cases encoding with
  | delimited => exact scopes_of_join scopes tokens
  | array => exact trimmedTexts_eq scopes tokens

/-- The scopes are extracted, in order, exactly when they are under the standard name, in an array,
or none. -/
theorem extractScopes_encoded_iff (claims : Claims) (scopes : List String)
    (tokens : ∀ scope ∈ scopes, ScopeToken scope) (encoding : ScopeEncoding) (name : ScopeName)
    (carried : CarriesScopes claims scopes encoding name) :
    extractScopes claims = scopes ↔ name = .scope ∨ encoding = .array ∨ scopes = [] := by
  cases name with
  | scope =>
    obtain ⟨standard, alone⟩ := carried
    refine iff_of_true ?_ (Or.inl rfl)
    rw [extractScopes, scopeTexts_eq claims scopes tokens encoding standard]
    cases scopes with
    | nil =>
      rw [alone rfl]
      rfl
    | cons scope rest => rfl
  | scp =>
    obtain ⟨nothing, second⟩ := carried
    rw [extractScopes, nothing, second]
    cases encoding with
    | array => exact iff_of_true (trimmedTexts_eq scopes tokens) (Or.inr (Or.inl rfl))
    | delimited =>
      show [] = scopes ↔ _
      simp [eq_comm]

def reportScopes : List String := ["read:reports", "export:reports"]

theorem reportScopes_tokens : ∀ scope ∈ reportScopes, ScopeToken scope := by
  intro scope member
  have checked : reportScopes.all (fun scope =>
      scope ≠ "" && scope.toList.all fun char => !isSpace char) = true := by decide
  simpa [ScopeToken] using List.all_eq_true.mp checked scope member

/-- Scopes in an array under the second name. -/
theorem extractScopes_array :
    extractScopes (AList.insert "scp" (ScopeEncoding.array.claim reportScopes) ∅) =
      reportScopes :=
  (extractScopes_encoded_iff _ reportScopes reportScopes_tokens .array .scp ⟨rfl, rfl⟩).mpr
    (Or.inr (Or.inl rfl))

/-- The same scopes in a text under the second name are lost. -/
theorem extractScopes_delimited :
    let claims : Claims := AList.insert "scp" (.text "read:reports export:reports") ∅
    CarriesScopes claims reportScopes .delimited .scp ∧ extractScopes claims = [] :=
  ⟨⟨rfl, rfl⟩, rfl⟩

end SharedGo.Authn
