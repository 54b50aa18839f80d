/-
This file gives the JSON texts that permission bundles are cached as, and proves
that reading such a text gives the bundle back. The cache is proved about for any
encoding with that round trip; this one is the encoder's own format, in the order
in which it writes the fields.
-/

import SharedGo.Parc

namespace SharedGo.Authz

/-- The JSON encoding of bundles, of which only the round trip is used. -/
class BundleCodec where
  marshal : PrincipalPermissions → String
  unmarshal : String → Option PrincipalPermissions
  unmarshal_marshal : ∀ bundle, unmarshal (marshal bundle) = some bundle

/-! ### Quoted texts -/

/-- The four hexadecimal digits of a character below `2 ^ 16`. -/
def hexDigits (code : Nat) : List Char :=
  [code / 4096 % 16, code / 256 % 16, code / 16 % 16, code % 16].map Nat.digitChar

/-- The characters the encoder writes as an escape of their code. -/
def escapedByCode (char : Char) : Bool :=
  char.toNat < 0x20 || ['<', '>', '&', Char.ofNat 0x2028, Char.ofNat 0x2029].contains char

def escapeChar (char : Char) : List Char :=
  if char = '"' then ['\\', '"']
  else if char = '\\' then ['\\', '\\']
  else if char = '\x08' then ['\\', 'b']
  else if char = '\x0c' then ['\\', 'f']
  else if char = '\n' then ['\\', 'n']
  else if char = '\r' then ['\\', 'r']
  else if char = '\t' then ['\\', 't']
  else if escapedByCode char then '\\' :: 'u' :: hexDigits char.toNat
  else [char]

def hexValue (digit : Char) : Option Nat :=
  (List.range 16).find? fun value => value.digitChar = digit

/-- The character of an escape of one letter. -/
def letterEscape : Char → Option Char
  | '"' => some '"'
  | '\\' => some '\\'
  | '/' => some '/'
  | 'b' => some '\x08'
  | 'f' => some '\x0c'
  | 'n' => some '\n'
  | 'r' => some '\r'
  | 't' => some '\t'
  | _ => none

def readCode : List Char → Option (Char × List Char)
  | first :: second :: third :: fourth :: rest =>
    match hexValue first, hexValue second, hexValue third, hexValue fourth with
    | some a, some b, some c, some d => some (Char.ofNat (((a * 16 + b) * 16 + c) * 16 + d), rest)
    | _, _, _, _ => none
  | _ => none

/-- The first character of a quoted text, and what follows it. -/
def readChar : List Char → Option (Char × List Char)
  | [] => none
  | '\\' :: rest =>
    match rest with
    | [] => none
    | letter :: rest =>
      if letter = 'u' then readCode rest else (letterEscape letter).map (·, rest)
  | char :: rest => if char.toNat < 0x20 then none else some (char, rest)

/-- A quoted text up to its closing quote, and what follows the quote. -/
def readText : Nat → List Char → Option (List Char × List Char)
  | 0, _ => none
  | fuel + 1, input =>
    if input.head? = some '"' then some ([], input.tail)
    else
      match readChar input with
      | none => none
      | some (char, rest) =>
        (readText fuel rest).map fun (text, left) => (char :: text, left)

theorem hexValue_digitChar (value : Nat) (small : value < 16) :
    hexValue value.digitChar = some value := by
  have every : ∀ value : Fin 16, hexValue value.val.digitChar = some value.val := by decide
  exact every ⟨value, small⟩

theorem readCode_hexDigits (char : Char) (small : char.toNat < 65536) (rest : List Char) :
    readCode (hexDigits char.toNat ++ rest) = some (char, rest) := by
  have digits : ((char.toNat / 4096 % 16 * 16 + char.toNat / 256 % 16) * 16 +
      char.toNat / 16 % 16) * 16 + char.toNat % 16 = char.toNat := by omega
  simp only [hexDigits, List.map_cons, List.map_nil, List.cons_append, List.nil_append, readCode]
  have small (value : Nat) : value % 16 < 16 := Nat.mod_lt value (by decide)
  rw [hexValue_digitChar _ (small _), hexValue_digitChar _ (small _),
    hexValue_digitChar _ (small _), hexValue_digitChar _ (small _)]
  simp only [digits, Char.ofNat_toNat]

/-- Reading a character's escape gives the character back, and never looks like the closing
quote. -/
theorem readChar_escapeChar (char : Char) (rest : List Char) :
    readChar (escapeChar char ++ rest) = some (char, rest) ∧
      (escapeChar char ++ rest).head? ≠ some '"' := by
  unfold escapeChar
  split_ifs with quote backslash backspace feed newline carriage tab code
  · subst quote
    exact ⟨rfl, by simp⟩
  · subst backslash
    exact ⟨rfl, by simp⟩
  · subst backspace
    exact ⟨rfl, by simp⟩
  · subst feed
    exact ⟨rfl, by simp⟩
  · subst newline
    exact ⟨rfl, by simp⟩
  · subst carriage
    exact ⟨rfl, by simp⟩
  · subst tab
    exact ⟨rfl, by simp⟩
  · have small : char.toNat < 65536 := by
      simp only [escapedByCode, Bool.or_eq_true, decide_eq_true_eq, List.contains_iff_mem,
        List.mem_cons, List.not_mem_nil, or_false] at code
      rcases code with control | rfl | rfl | rfl | rfl | rfl
      · omega
      all_goals decide
    exact ⟨readCode_hexDigits char small rest, by simp⟩
  · have printable : ¬ char.toNat < 0x20 := by
      simp only [escapedByCode, Bool.or_eq_true, decide_eq_true_eq, not_or] at code
      exact code.1
    refine ⟨?_, by simpa using quote⟩
    simp only [List.cons_append, List.nil_append, readChar]
    rw [if_neg printable]

theorem readText_escape (text rest : List Char) (fuel : Nat) (enough : text.length < fuel) :
    readText fuel (text.flatMap escapeChar ++ '"' :: rest) = some (text, rest) := by
  induction text generalizing fuel with
  | nil =>
    obtain ⟨fuel, rfl⟩ := Nat.exists_eq_succ_of_ne_zero (by simpa using enough.ne' : fuel ≠ 0)
    rfl
  | cons char text inductionHypothesis =>
    obtain ⟨fuel, rfl⟩ := Nat.exists_eq_succ_of_ne_zero (Nat.ne_of_gt (Nat.zero_lt_of_lt enough))
    have shorter : text.length < fuel := by simpa using enough
    rw [List.flatMap_cons, List.append_assoc, readText,
      if_neg (readChar_escapeChar char _).2, (readChar_escapeChar char _).1]
    simp only [inductionHypothesis fuel shorter, Option.map_some]

theorem length_le_flatMap_escapeChar (text : List Char) :
    text.length ≤ (text.flatMap escapeChar).length := by
  induction text with
  | nil => simp
  | cons char text inductionHypothesis =>
    have some : 0 < (escapeChar char).length := by
      unfold escapeChar
      split_ifs <;> simp
    rw [List.flatMap_cons, List.length_append, List.length_cons]
    omega

/-! ### Fields -/

def quoted (text : String) : List Char := '"' :: (text.toList.flatMap escapeChar ++ ['"'])

/-- What follows a fixed text. -/
def expect (fixed : String) (input : List Char) : Option (List Char) :=
  if fixed.toList.isPrefixOf input then some (input.drop fixed.toList.length) else none

/-- The quoted text after a fixed one, and what follows it. -/
def readField (key : String) (input : List Char) : Option (String × List Char) :=
  match expect key input with
  | some ('"' :: body) =>
    (readText (body.length + 1) body).map fun (text, left) => (String.ofList text, left)
  | _ => none

theorem expect_append (fixed : String) (rest : List Char) :
    expect fixed (fixed.toList ++ rest) = some rest := by
  rw [expect, if_pos (List.isPrefixOf_iff_prefix.mpr (List.prefix_append _ _)), List.drop_left]

theorem readField_quoted (key text : String) (rest : List Char) :
    readField key (key.toList ++ (quoted text ++ rest)) = some (text, rest) := by
  have bound := length_le_flatMap_escapeChar text.toList
  have read := readText_escape text.toList rest
    ((text.toList.flatMap escapeChar ++ '"' :: rest).length + 1)
    (by rw [List.length_append]; omega)
  rw [readField, expect_append]
  simp only [quoted, List.cons_append, List.append_assoc, List.nil_append, read, Option.map_some,
    String.ofList_toList]

/-! ### Bundles -/

def actionPatternKey : String := "\x7b\"action_pattern\":"

def resourceTypeKey : String := ",\"resource_type\":"

def resourceIDPatternKey : String := ",\"resource_id_pattern\":"

def tenantIDKey : String := ",\"tenant_id\":"

def effectKey : String := ",\"effect\":"

def principalIDKey : String := "\x7b\"principal_id\":"

def rulesKey : String := ",\"rules\":"

def closing : String := "\x7d"

/-- The tenant of a rule is left out when it is empty. -/
def marshalTenant (tenantID : String) : List Char :=
  if tenantID = "" then [] else tenantIDKey.toList ++ quoted tenantID

def marshalRule (rule : PermissionRule) : List Char :=
  actionPatternKey.toList ++ (quoted rule.actionPattern ++
    (resourceTypeKey.toList ++ (quoted rule.resourceType ++
      (resourceIDPatternKey.toList ++ (quoted rule.resourceIDPattern ++
        (marshalTenant rule.tenantID ++
          (effectKey.toList ++ (quoted rule.effect.text ++ closing.toList))))))))

def marshalRest : List PermissionRule → List Char
  | [] => "]\x7d".toList
  | rule :: rest => ',' :: (marshalRule rule ++ marshalRest rest)

/-- A bundle without rules has them as `null`. -/
def marshalRules : List PermissionRule → List Char
  | [] => "null\x7d".toList
  | rule :: rest => '[' :: (marshalRule rule ++ marshalRest rest)

def marshalBundle (bundle : PrincipalPermissions) : List Char :=
  principalIDKey.toList ++ (quoted bundle.principalID ++
    (rulesKey.toList ++ marshalRules bundle.rules))

def readTenant (input : List Char) : String × List Char :=
  (readField tenantIDKey input).getD ("", input)

def readRule (input : List Char) : Option (PermissionRule × List Char) := do
  let (actionPattern, input) ← readField actionPatternKey input
  let (resourceType, input) ← readField resourceTypeKey input
  let (resourceIDPattern, input) ← readField resourceIDPatternKey input
  let (tenantID, input) := readTenant input
  let (effect, input) ← readField effectKey input
  let input ← expect closing input
  return (⟨actionPattern, resourceType, resourceIDPattern, tenantID, ⟨effect⟩⟩, input)

def readRest : Nat → List Char → Option (List PermissionRule)
  | 0, _ => none
  | fuel + 1, input =>
    match input with
    | ',' :: input => do
      let (rule, input) ← readRule input
      let rest ← readRest fuel input
      return rule :: rest
    | _ => if input = "]\x7d".toList then some [] else none

def readRules (input : List Char) : Option (List PermissionRule) :=
  match input with
  | '[' :: input => do
    let (rule, input) ← readRule input
    let rest ← readRest (input.length + 1) input
    return rule :: rest
  | _ => if input = "null\x7d".toList then some [] else none

def readBundle (input : List Char) : Option PrincipalPermissions := do
  let (principalID, input) ← readField principalIDKey input
  let input ← expect rulesKey input
  let rules ← readRules input
  return ⟨principalID, rules⟩

theorem readTenant_marshalTenant (tenantID : String) (rest : List Char) :
    readTenant (marshalTenant tenantID ++ (effectKey.toList ++ rest)) =
      (tenantID, effectKey.toList ++ rest) := by
  unfold marshalTenant
  split
  · rename_i empty
    rw [empty]
    rfl
  · rw [readTenant, List.append_assoc, readField_quoted]
    rfl

theorem readRule_marshalRule (rule : PermissionRule) (rest : List Char) :
    readRule (marshalRule rule ++ rest) = some (rule, rest) := by
  simp only [marshalRule, List.append_assoc, readRule, readField_quoted, Option.bind_eq_bind,
    Option.bind_some, readTenant_marshalTenant, expect_append]
  rfl

theorem readRest_marshalRest (rules : List PermissionRule) (fuel : Nat)
    (enough : rules.length < fuel) : readRest fuel (marshalRest rules) = some rules := by
  induction rules generalizing fuel with
  | nil =>
    obtain ⟨fuel, rfl⟩ := Nat.exists_eq_succ_of_ne_zero (Nat.ne_of_gt (Nat.zero_lt_of_lt enough))
    rfl
  | cons rule rest inductionHypothesis =>
    obtain ⟨fuel, rfl⟩ := Nat.exists_eq_succ_of_ne_zero (Nat.ne_of_gt (Nat.zero_lt_of_lt enough))
    have shorter : rest.length < fuel := by simpa using enough
    simp only [marshalRest, readRest, readRule_marshalRule, Option.bind_eq_bind, Option.bind_some,
      inductionHypothesis fuel shorter]
    rfl

theorem length_le_marshalRest (rules : List PermissionRule) :
    rules.length ≤ (marshalRest rules).length := by
  induction rules with
  | nil => simp
  | cons rule rest inductionHypothesis =>
    simp only [marshalRest, List.length_cons, List.length_append]
    omega

theorem readRules_marshalRules (rules : List PermissionRule) :
    readRules (marshalRules rules) = some rules := by
  cases rules with
  | nil => rfl
  | cons rule rest =>
    have bound := length_le_marshalRest rest
    simp only [marshalRules, readRules, readRule_marshalRule, Option.bind_eq_bind,
      Option.bind_some, readRest_marshalRest rest _ (Nat.lt_succ_of_le bound)]
    rfl

/-- The encoder's format. -/
@[reducible] def jsonCodec : BundleCodec where
  marshal bundle := String.ofList (marshalBundle bundle)
  unmarshal text := readBundle text.toList
  unmarshal_marshal bundle := by
    simp only [String.toList_ofList, marshalBundle, readBundle, readField_quoted,
      Option.bind_eq_bind, Option.bind_some, expect_append, readRules_marshalRules]
    rfl

end SharedGo.Authz
