/-
This file is a library for reading the text of an SQL condition. The text is cut
into words, symbols and quoted texts, with comments left out; a quoted text may have
escapes, or dollar signs with a tag as its delimiters. The words `OR` and `AND`
outside of groups separate alternatives and their conjuncts, where `AND` binds
tighter and the `AND` of a `BETWEEN` belongs to it. What remains between them is a
negation, a condition in parentheses, or an atom, and a row gives each atom a truth
value, which may be unknown.

The main results are about two conditions with `AND` between them. The last
alternative of the first one and the first alternative of the second one become
one alternative, and all others stay alternatives of the whole: a row that makes
both conditions true makes the whole true, and the other way around holds when
neither condition has a second alternative.
-/

import Mathlib.Data.List.Forall2
import SharedGo.Text

namespace SharedGo.Sql

open SharedGo Text

/-! ### Words and symbols -/

inductive Token where
  | word (text : String)
  | symbol (char : Char)
  | quoted (delimiter : Char) (content : String)
  deriving DecidableEq, Repr

/-- What the reader of a text is inside of. -/
inductive Mode where
  | plain
  | dash
  | slash
  | quote (delimiter : Char)
  | escape
  | backslash
  | dollar (tag : List Char)
  | line
  | block (depth : Nat)
  | blockStar (depth : Nat)
  | blockSlash (depth : Nat)
  deriving DecidableEq, Repr

/-- The mode, the characters of the word or quoted text so far, and whether a text with escapes was
read last, with nothing but blanks and line comments since. -/
structure Lexer where
  mode : Mode
  word : List Char
  escaped : Bool
  deriving DecidableEq, Repr

/-- Between tokens. -/
def Lexer.behind (escaped : Bool) : Lexer := ⟨.plain, [], escaped⟩

def Lexer.start : Lexer := .behind false

def isBlank (char : Char) : Bool := [0x09, 0x0A, 0x0B, 0x0C, 0x0D, 0x20].contains char.toNat

def isNameChar (char : Char) : Bool := char.isAlphanum || char = '_' || char.toNat ≥ 128

def isWordChar (char : Char) : Bool := isNameChar char || char = '$' || char = '.'

/-- A number or a parameter. It ends where a name starts, also without a blank between them. -/
def isNumber : List Char → Bool
  | '$' :: digits => digits ≠ [] && digits.all Char.isDigit
  | chars => chars.any Char.isDigit && chars.all fun char => char.isDigit || char = '.'

/-- One more dollar sign makes the word the delimiter of a text. -/
def opensText : List Char → Bool
  | '$' :: tag => tag.all isNameChar && tag.head?.all fun char => !char.isDigit
  | _ => false

/-- The word so far, if there is one. -/
def flush (word : List Char) : List Token :=
  if word = [] then [] else [.word (String.ofList word)]

/-- One character outside of quotes and comments. Behind an `E`, a quote opens a text with escapes.
So it does behind such a text: directly behind it the two quotes stand for one, and on a later line
the text goes on. -/
def stepPlain (word : List Char) (escaped : Bool) (char : Char) : List Token × Lexer :=
  if isBlank char then (flush word, .behind escaped)
  else if char = '$' && opensText word then ([], ⟨.dollar (word.drop 1), [], false⟩)
  else if isWordChar char then
    if isNumber word && !(char.isDigit || char = '.') then (flush word, ⟨.plain, [char], false⟩)
    else ([], ⟨.plain, word ++ [char], false⟩)
  else if char = Char.ofNat 0x27 then
    if escaped || word = ['E'] || word = ['e'] then (flush word, ⟨.escape, [], false⟩)
    else (flush word, ⟨.quote char, [], false⟩)
  else if char = '"' then (flush word, ⟨.quote char, [], false⟩)
  else if char = '-' then (flush word, ⟨.dash, [], escaped⟩)
  else if char = '/' then (flush word, ⟨.slash, [], false⟩)
  else (flush word ++ [.symbol char], .start)

/-- One character: the tokens it completes, and what the reader is inside of next. -/
def Lexer.step (lexer : Lexer) (char : Char) : List Token × Lexer :=
  match lexer.mode with
  | .plain => stepPlain lexer.word lexer.escaped char
  | .dash =>
    if char = '-' then ([], ⟨.line, [], lexer.escaped⟩)
    else (.symbol '-' :: (stepPlain [] false char).1, (stepPlain [] false char).2)
  | .slash =>
    if char = '*' then ([], ⟨.block 0, [], false⟩)
    else (.symbol '/' :: (stepPlain [] false char).1, (stepPlain [] false char).2)
  | .quote delimiter =>
    if char = delimiter then ([.quoted delimiter (String.ofList lexer.word)], .start)
    else ([], ⟨.quote delimiter, lexer.word ++ [char], false⟩)
  | .escape =>
    if char = Char.ofNat 0x27 then ([.quoted char (String.ofList lexer.word)], .behind true)
    else if char = '\\' then ([], ⟨.backslash, lexer.word ++ [char], false⟩)
    else ([], ⟨.escape, lexer.word ++ [char], false⟩)
  | .backslash => ([], ⟨.escape, lexer.word ++ [char], false⟩)
  | .dollar tag =>
    if char = '$' ∧ ('$' :: tag).isSuffixOf lexer.word then
      ([.quoted '$' (String.ofList (lexer.word.take (lexer.word.length - tag.length - 1)))], .start)
    else ([], ⟨.dollar tag, lexer.word ++ [char], false⟩)
  | .line => if char = '\n' ∨ char = '\r' then ([], .behind lexer.escaped) else ([], lexer)
  | .block depth =>
    if char = '*' then ([], ⟨.blockStar depth, [], false⟩)
    else if char = '/' then ([], ⟨.blockSlash depth, [], false⟩)
    else ([], ⟨.block depth, [], false⟩)
  | .blockStar depth =>
    if char = '/' then
      match depth with
      | 0 => ([], .start)
      | depth + 1 => ([], ⟨.block depth, [], false⟩)
    else if char = '*' then ([], ⟨.blockStar depth, [], false⟩)
    else ([], ⟨.block depth, [], false⟩)
  | .blockSlash depth =>
    if char = '*' then ([], ⟨.block (depth + 1), [], false⟩)
    else if char = '/' then ([], ⟨.blockSlash depth, [], false⟩)
    else ([], ⟨.block depth, [], false⟩)

def lexFrom : Lexer → List Char → List Token
  | lexer, [] => flush lexer.word
  | lexer, char :: rest => (lexer.step char).1 ++ lexFrom (lexer.step char).2 rest

def Lexer.after (lexer : Lexer) (chars : List Char) : Lexer :=
  chars.foldl (fun lexer char => (lexer.step char).2) lexer

/-- The tokens of a text, as PostgreSQL reads it with its default settings. -/
def lex (text : String) : List Token := lexFrom .start text.toList

/-- The text does not end inside of a quoted text, an operator or a comment. -/
def EndsPlain (text : String) : Prop := (Lexer.start.after text.toList).mode = .plain

instance (text : String) : Decidable (EndsPlain text) :=
  inferInstanceAs (Decidable ((Lexer.start.after text.toList).mode = .plain))

/-- A character that ends a word outside of quotes and comments ends what is read before it. -/
theorem lexFrom_stop (lexer : Lexer) (first rest : List Char) (char : Char) (symbols : List Token)
    (behind : Bool → Lexer)
    (stops : ∀ word escaped, stepPlain word escaped char = (flush word ++ symbols, behind escaped))
    (plain : (lexer.after first).mode = .plain) :
    lexFrom lexer (first ++ char :: rest) =
      lexFrom lexer first ++ (symbols ++ lexFrom (behind (lexer.after first).escaped) rest) := by
  induction first generalizing lexer with
  | nil =>
    have mode : lexer.mode = .plain := plain
    simp [lexFrom, Lexer.step, Lexer.after, mode, stops]
  | cons char others inductionHypothesis =>
    rw [List.cons_append, lexFrom, lexFrom, inductionHypothesis _ plain, List.append_assoc]
    rfl

theorem stepPlain_space (word : List Char) (escaped : Bool) :
    stepPlain word escaped ' ' = (flush word ++ [], .behind escaped) := by
  have space : isBlank ' ' = true := by decide
  rw [stepPlain, if_pos space, List.append_nil]

/-- The keyword is read the same behind any text, and ends like a word. -/
def IsSeparator (keyword : String) : Prop :=
  ∀ escaped ∈ [false, true], lexFrom (.behind escaped) keyword.toList = lex keyword ∧
    (Lexer.after (.behind escaped) keyword.toList).mode = .plain ∧
    (Lexer.after (.behind escaped) keyword.toList).escaped = false

instance (keyword : String) : Decidable (IsSeparator keyword) :=
  inferInstanceAs (Decidable (∀ escaped ∈ [false, true], _ ∧ _ ∧ _))

theorem IsSeparator.behind {keyword : String} (separator : IsSeparator keyword) (escaped : Bool) :
    lexFrom (.behind escaped) keyword.toList = lex keyword ∧
      (Lexer.after (.behind escaped) keyword.toList).mode = .plain ∧
      (Lexer.after (.behind escaped) keyword.toList).escaped = false :=
  separator escaped (by cases escaped <;> decide)

/-- Texts with spaces between them are read one after the other. -/
theorem lex_spaced (first keyword second : String) (plain : EndsPlain first)
    (separator : IsSeparator keyword) :
    lex (first ++ (" " ++ keyword ++ " ") ++ second) =
      lex first ++ (lex keyword ++ lex second) := by
  have chars : (first ++ (" " ++ keyword ++ " ") ++ second).toList =
      first.toList ++ ' ' :: (keyword.toList ++ ' ' :: second.toList) := by simp
  obtain ⟨reads, plainKeyword, unescaped⟩ :=
    separator.behind (Lexer.start.after first.toList).escaped
  rw [lex, chars, lexFrom_stop _ _ _ _ _ _ stepPlain_space plain,
    lexFrom_stop _ _ _ _ _ _ stepPlain_space plainKeyword, reads, unescaped]
  rfl

/-- A condition, `AND` and another condition are read one after the other. -/
theorem lex_and (first second : String) (plain : EndsPlain first) :
    lex (first ++ " AND " ++ second) = lex first ++ .word "AND" :: lex second :=
  lex_spaced first "AND" second plain (by decide)

/-! ### Alternatives and conjuncts -/

/-- Keywords are read in either case. -/
def Token.isKeyword (keyword : String) : Token → Bool
  | .word text => text.toList.map Char.toUpper = keyword.toList
  | _ => false

def Token.opens (token : Token) : Bool :=
  token = .symbol '(' || token = .symbol '[' || token.isKeyword "CASE"

def Token.closes (token : Token) : Bool :=
  token = .symbol ')' || token = .symbol ']' || token.isKeyword "END"

/-- How many groups are open, and how many `BETWEEN` outside of groups wait for their `AND`. -/
structure Scan where
  depth : Nat
  pending : Nat
  deriving DecidableEq, Repr

def Scan.start : Scan := ⟨0, 0⟩

/-- The token is an `OR` outside of groups. -/
def isOr (scan : Scan) (token : Token) : Bool := scan.depth = 0 && token.isKeyword "OR"

/-- One token; a condition starts anew after an `OR`. -/
def Scan.next (scan : Scan) (token : Token) : Scan :=
  if isOr scan token then .start
  else if token.opens then { scan with depth := scan.depth + 1 }
  else if token.closes then { scan with depth := scan.depth - 1 }
  else if scan.depth = 0 && token.isKeyword "BETWEEN" then
    { scan with pending := scan.pending + 1 }
  else if scan.depth = 0 && token.isKeyword "AND" then { scan with pending := scan.pending - 1 }
  else scan

def Scan.after (scan : Scan) (tokens : List Token) : Scan := tokens.foldl Scan.next scan

/-- The token is an `AND` outside of groups that belongs to no `BETWEEN`. -/
def isAnd (scan : Scan) (token : Token) : Bool := scan = .start && token.isKeyword "AND"

section Splitting

variable (separates : Scan → Token → Bool)

/-- The pieces between separators; `piece` has been read since the last one. -/
def splitFrom : Scan → List Token → List Token → List (List Token)
  | _, piece, [] => [piece]
  | scan, piece, token :: rest =>
    if separates scan token then piece :: splitFrom (scan.next token) [] rest
    else splitFrom (scan.next token) (piece ++ [token]) rest

/-- The pieces that are complete after some tokens, and the one that is not. -/
def piecesFrom : Scan → List Token → List Token → List (List Token) × List Token
  | _, piece, [] => ([], piece)
  | scan, piece, token :: rest =>
    if separates scan token then
      (piece :: (piecesFrom (scan.next token) [] rest).1,
        (piecesFrom (scan.next token) [] rest).2)
    else piecesFrom (scan.next token) (piece ++ [token]) rest

theorem splitFrom_append (scan : Scan) (piece first rest : List Token) :
    splitFrom separates scan piece (first ++ rest) =
      (piecesFrom separates scan piece first).1 ++ splitFrom separates (scan.after first)
        (piecesFrom separates scan piece first).2 rest := by
  induction first generalizing scan piece with
  | nil => rfl
  | cons token others inductionHypothesis =>
    rw [List.cons_append, splitFrom, piecesFrom]
    split_ifs
    · rw [inductionHypothesis, List.cons_append]
      rfl
    · rw [inductionHypothesis]
      rfl

theorem splitFrom_eq (scan : Scan) (piece tokens : List Token) :
    splitFrom separates scan piece tokens = (piecesFrom separates scan piece tokens).1 ++
      [(piecesFrom separates scan piece tokens).2] := by
  have whole := splitFrom_append separates scan piece tokens []
  rwa [List.append_nil, splitFrom] at whole

/-- What was read before goes in front of the first piece. -/
theorem splitFrom_piece (scan : Scan) (before piece tokens : List Token) :
    splitFrom separates scan (before ++ piece) tokens =
      (splitFrom separates scan piece tokens).modifyHead (before ++ ·) := by
  induction tokens generalizing scan piece with
  | nil => rfl
  | cons token rest inductionHypothesis =>
    rw [splitFrom, splitFrom]
    split_ifs
    · rfl
    · rw [List.append_assoc, inductionHypothesis]

theorem length_of_mem_splitFrom (scan : Scan) (piece tokens member : List Token)
    (isMember : member ∈ splitFrom separates scan piece tokens) :
    member.length ≤ piece.length + tokens.length := by
  induction tokens generalizing scan piece with
  | nil =>
    obtain rfl := List.mem_singleton.mp isMember
    exact Nat.le_add_right _ _
  | cons token rest inductionHypothesis =>
    rw [splitFrom] at isMember
    split_ifs at isMember
    · rcases List.mem_cons.mp isMember with rfl | isMember
      · exact Nat.le_add_right _ _
      · have shorter := inductionHypothesis _ _ isMember
        simp only [List.length_nil, List.length_cons] at shorter ⊢
        omega
    · have shorter := inductionHypothesis _ _ isMember
      simp only [List.length_append, List.length_cons, List.length_nil] at shorter ⊢
      omega

end Splitting

/-- The alternatives of a condition. -/
def alternatives (tokens : List Token) : List (List Token) := splitFrom isOr .start [] tokens

/-- The conjuncts of an alternative. -/
def conjuncts (tokens : List Token) : List (List Token) := splitFrom isAnd .start [] tokens

theorem length_of_mem_alternatives (tokens alternative : List Token)
    (member : alternative ∈ alternatives tokens) : alternative.length ≤ tokens.length := by
  simpa using length_of_mem_splitFrom isOr .start [] tokens alternative member

theorem length_of_mem_conjuncts (tokens conjunct : List Token)
    (member : conjunct ∈ conjuncts tokens) : conjunct.length ≤ tokens.length := by
  simpa using length_of_mem_splitFrom isAnd .start [] tokens conjunct member

/-! ### Truth -/

inductive Truth where
  | yes
  | no
  | unknown
  deriving DecidableEq, Repr

def Truth.negate : Truth → Truth
  | .yes => .no
  | .no => .yes
  | .unknown => .unknown

def Truth.both : Truth → Truth → Truth
  | .no, _ => .no
  | _, .no => .no
  | .yes, .yes => .yes
  | _, _ => .unknown

def Truth.either : Truth → Truth → Truth
  | .yes, _ => .yes
  | _, .yes => .yes
  | .no, .no => .no
  | _, _ => .unknown

def Truth.all (truths : List Truth) : Truth := truths.foldr Truth.both .yes

def Truth.any (truths : List Truth) : Truth := truths.foldr Truth.either .no

theorem all_eq_yes (truths : List Truth) :
    Truth.all truths = .yes ↔ ∀ truth ∈ truths, truth = .yes := by
  induction truths with
  | nil => simp [Truth.all]
  | cons truth rest inductionHypothesis =>
    rw [List.forall_mem_cons, ← inductionHypothesis]
    show truth.both (Truth.all rest) = .yes ↔ _
    cases truth <;> cases Truth.all rest <;> simp [Truth.both]

theorem any_eq_yes (truths : List Truth) : Truth.any truths = .yes ↔ .yes ∈ truths := by
  induction truths with
  | nil => simp [Truth.any]
  | cons truth rest inductionHypothesis =>
    rw [List.mem_cons, ← inductionHypothesis]
    show truth.either (Truth.any rest) = .yes ↔ _
    cases truth <;> cases Truth.any rest <;> simp [Truth.either]

/-- The groups open and close in pairs. -/
def balanced : Nat → List Token → Bool
  | depth, [] => depth = 0
  | depth, token :: rest =>
    if token.opens then balanced (depth + 1) rest
    else if token.closes then
      match depth with
      | 0 => false
      | depth + 1 => balanced depth rest
    else balanced depth rest

/-- What is inside of the parentheses around a whole condition. -/
def unwrap (tokens : List Token) : Option (List Token) :=
  match tokens with
  | .symbol '(' :: rest =>
    if rest.getLast? = some (.symbol ')') ∧ balanced 0 rest.dropLast then some rest.dropLast
    else none
  | _ => none

theorem length_of_unwrap (tokens inside : List Token) (wrapped : unwrap tokens = some inside) :
    inside.length < tokens.length := by
  unfold unwrap at wrapped
  split at wrapped
  · split_ifs at wrapped
    obtain rfl := Option.some_inj.mp wrapped
    rw [List.length_dropLast, List.length_cons]
    omega
  · cases wrapped

/-- The truth of an atom in a row. -/
abbrev Row := List Token → Truth

/-- A negation, a condition in parentheses, or an atom; without tokens there is no condition. -/
def primaryWith (row : Row) (inner : List Token → Truth) (tokens : List Token) : Truth :=
  match tokens with
  | [] => .yes
  | token :: rest =>
    if token.isKeyword "NOT" then (inner rest).negate
    else
      match unwrap tokens with
      | some inside => inner inside
      | none => row tokens

/-- Every level of negation or parentheses takes a token, so the length is enough fuel. -/
def truthWith (row : Row) : Nat → List Token → Truth
  | 0, _ => .unknown
  | fuel + 1, tokens => Truth.any ((alternatives tokens).map fun alternative =>
      Truth.all ((conjuncts alternative).map (primaryWith row (truthWith row fuel))))

/-- The truth of a condition in a row. -/
def truth (row : Row) (tokens : List Token) : Truth := truthWith row (tokens.length + 1) tokens

def primary (row : Row) (tokens : List Token) : Truth := primaryWith row (truth row) tokens

/-- Every conjunct of the alternative is true. -/
def Holds (row : Row) (alternative : List Token) : Prop :=
  ∀ conjunct ∈ conjuncts alternative, primary row conjunct = .yes

/-- The row satisfies the text: `WHERE` keeps it. -/
def Satisfies (row : Row) (text : String) : Prop := truth row (lex text) = .yes

instance (row : Row) (alternative : List Token) : Decidable (Holds row alternative) :=
  inferInstanceAs (Decidable (∀ conjunct ∈ conjuncts alternative, primary row conjunct = .yes))

instance (row : Row) (text : String) : Decidable (Satisfies row text) :=
  inferInstanceAs (Decidable (truth row (lex text) = .yes))

theorem primaryWith_congr (row : Row) (first second : List Token → Truth) (tokens : List Token)
    (same : ∀ inside, inside.length < tokens.length → first inside = second inside) :
    primaryWith row first tokens = primaryWith row second tokens := by
  unfold primaryWith
  cases tokens with
  | nil => rfl
  | cons token rest =>
    simp only
    split_ifs
    · rw [same rest (by simp)]
    · cases wrapped : unwrap (token :: rest) with
      | none => rfl
      | some inside => exact same inside (length_of_unwrap _ _ wrapped)

/-- The truth of the parts of a condition decides its truth. -/
theorem truthWith_congr (row : Row) (first second : List Token → Truth) (tokens : List Token)
    (same : ∀ inside, inside.length < tokens.length → first inside = second inside) :
    (alternatives tokens).map (fun alternative =>
        Truth.all ((conjuncts alternative).map (primaryWith row first))) =
      (alternatives tokens).map fun alternative =>
        Truth.all ((conjuncts alternative).map (primaryWith row second)) := by
  refine List.map_congr_left fun alternative isAlternative => congrArg Truth.all ?_
  refine List.map_congr_left fun conjunct isConjunct => primaryWith_congr row _ _ _ ?_
  intro inside shorter
  have conjunctLength := length_of_mem_conjuncts alternative conjunct isConjunct
  have alternativeLength := length_of_mem_alternatives tokens alternative isAlternative
  exact same inside (by omega)

theorem truthWith_fuel (row : Row) (first second : Nat) (tokens : List Token)
    (enoughFirst : tokens.length < first) (enoughSecond : tokens.length < second) :
    truthWith row first tokens = truthWith row second tokens := by
  induction first generalizing second tokens with
  | zero => omega
  | succ first inductionHypothesis =>
    cases second with
    | zero => omega
    | succ second =>
      rw [truthWith, truthWith, truthWith_congr row _ (truthWith row second)]
      intro inside shorter
      exact inductionHypothesis second inside (by omega) (by omega)

theorem truth_eq (row : Row) (tokens : List Token) :
    truth row tokens = Truth.any ((alternatives tokens).map fun alternative =>
      Truth.all ((conjuncts alternative).map (primary row))) := by
  rw [truth, truthWith, truthWith_congr row _ (truth row)]
  · rfl
  · intro inside shorter
    exact truthWith_fuel row _ _ inside shorter (Nat.lt_succ_self _)

/-- A condition is true when one of its alternatives holds. -/
theorem truth_eq_yes (row : Row) (tokens : List Token) :
    truth row tokens = .yes ↔ ∃ alternative ∈ alternatives tokens, Holds row alternative := by
  rw [truth_eq, any_eq_yes, List.mem_map]
  simp only [all_eq_yes, List.forall_mem_map]
  rfl

/-! ### Conjunctions -/

/-- The condition has no open group and no open `BETWEEN` at its end. -/
def EndsOutside (tokens : List Token) : Prop := Scan.start.after tokens = .start

instance (tokens : List Token) : Decidable (EndsOutside tokens) :=
  inferInstanceAs (Decidable (Scan.start.after tokens = .start))

/-- The alternatives before the last one. -/
def earlier (tokens : List Token) : List (List Token) := (piecesFrom isOr .start [] tokens).1

def last (tokens : List Token) : List Token := (piecesFrom isOr .start [] tokens).2

theorem alternatives_eq (tokens : List Token) :
    alternatives tokens = earlier tokens ++ [last tokens] :=
  splitFrom_eq isOr .start [] tokens

/-- After an `OR` a condition starts anew. -/
theorem next_of_isOr (scan : Scan) (token : Token) (separates : isOr scan token = true) :
    scan.next token = .start := by
  rw [Scan.next, if_pos separates]

/-- The last alternative ends like the condition. -/
theorem after_piecesFrom (scan : Scan) (piece tokens : List Token)
    (before : Scan.start.after piece = scan) :
    Scan.start.after (piecesFrom isOr scan piece tokens).2 = scan.after tokens := by
  induction tokens generalizing scan piece with
  | nil => exact before
  | cons token rest inductionHypothesis =>
    rw [piecesFrom]
    split_ifs with separates
    · refine inductionHypothesis (scan.next token) [] ?_
      rw [next_of_isOr scan token separates]
      rfl
    · refine inductionHypothesis (scan.next token) (piece ++ [token]) ?_
      rw [Scan.after, List.foldl_append]
      exact congrArg (Scan.next · token) before

theorem conjuncts_and (first second : List Token) (outside : EndsOutside first) :
    conjuncts (first ++ .word "AND" :: second) = conjuncts first ++ conjuncts second := by
  have separates : isAnd .start (.word "AND") = true := by decide
  have next : Scan.start.next (.word "AND") = .start := by decide
  rw [conjuncts, splitFrom_append, outside, splitFrom, if_pos separates, next, conjuncts,
    splitFrom_eq isAnd .start [] first, conjuncts, List.append_assoc]
  rfl

/-- The last alternative of the first condition and the first one of the second are one. -/
theorem alternatives_and (first second : List Token) (outside : EndsOutside first) :
    alternatives (first ++ .word "AND" :: second) =
      earlier first ++ (alternatives second).modifyHead (last first ++ .word "AND" :: ·) := by
  have together : isOr .start (.word "AND") = false := by decide
  have next : Scan.start.next (.word "AND") = .start := by decide
  rw [alternatives, splitFrom_append, outside, splitFrom, if_neg (by rw [together]; decide), next]
  have piece := splitFrom_piece isOr .start (last first ++ [.word "AND"]) [] second
  rw [List.append_nil] at piece
  rw [alternatives, earlier]
  refine congrArg _ (piece.trans ?_)
  simp

theorem holds_and (row : Row) (first second : List Token) (outside : EndsOutside first) :
    Holds row (last first ++ .word "AND" :: second) ↔
      Holds row (last first) ∧ Holds row second := by
  have lastOutside : EndsOutside (last first) :=
    (after_piecesFrom .start [] first rfl).trans outside
  simp only [Holds, conjuncts_and _ _ lastOutside, List.mem_append, or_imp, forall_and]

/-- A row that makes both conditions true makes the whole true. -/
theorem truth_and_of_both (row : Row) (first second : List Token) (outside : EndsOutside first)
    (trueFirst : truth row first = .yes) (trueSecond : truth row second = .yes) :
    truth row (first ++ .word "AND" :: second) = .yes := by
  rw [truth_eq_yes] at trueFirst trueSecond ⊢
  rw [alternatives_and first second outside]
  obtain ⟨alternative, member, holds⟩ := trueFirst
  obtain ⟨other, otherMember, otherHolds⟩ := trueSecond
  rw [alternatives_eq] at member
  rcases List.mem_append.mp member with early | isLast
  · exact ⟨alternative, List.mem_append_left _ early, holds⟩
  obtain rfl := List.mem_singleton.mp isLast
  cases split : alternatives second with
  | nil =>
    rw [split] at otherMember
    cases otherMember
  | cons head rest =>
    rw [split] at otherMember
    rcases List.mem_cons.mp otherMember with rfl | later
    · exact ⟨_, List.mem_append_right _ List.mem_cons_self,
        (holds_and row first other outside).mpr ⟨holds, otherHolds⟩⟩
    · exact ⟨other, List.mem_append_right _ (List.mem_cons_of_mem _ later), otherHolds⟩

/-- The condition has no `OR` outside of groups. -/
def SingleAlternative (tokens : List Token) : Prop := earlier tokens = []

instance (tokens : List Token) : Decidable (SingleAlternative tokens) :=
  inferInstanceAs (Decidable (earlier tokens = []))

example : ¬SingleAlternative (lex "d.quote = E'\\'' OR d.owner_id = $1 OR d.quote = E'\\''") := by
  decide +kernel

example : SingleAlternative (lex "d.note = $tag$ or $$ ' or $tag$ AND d.rank <> 1") := by
  decide +kernel

theorem alternatives_of_single (tokens : List Token) (single : SingleAlternative tokens) :
    alternatives tokens = [last tokens] := by
  rw [alternatives_eq, single, List.nil_append]

theorem single_and (first second : List Token) (outside : EndsOutside first)
    (singleFirst : SingleAlternative first) (singleSecond : SingleAlternative second) :
    SingleAlternative (first ++ .word "AND" :: second) := by
  have split := alternatives_and first second outside
  rw [alternatives_of_single second singleSecond, singleFirst, alternatives_eq] at split
  have length := congrArg List.length split
  simp only [List.length_append, List.length_cons, List.length_nil, List.nil_append,
    List.modifyHead_cons] at length
  exact List.length_eq_zero_iff.mp (by omega)

/-- Without other alternatives the whole is true exactly when both conditions are. -/
theorem truth_and_iff (row : Row) (first second : List Token) (outside : EndsOutside first)
    (singleFirst : SingleAlternative first) (singleSecond : SingleAlternative second) :
    truth row (first ++ .word "AND" :: second) = .yes ↔
      truth row first = .yes ∧ truth row second = .yes := by
  rw [truth_eq_yes, truth_eq_yes, truth_eq_yes, alternatives_and first second outside,
    singleFirst, alternatives_of_single first singleFirst,
    alternatives_of_single second singleSecond]
  simp [holds_and row first _ outside]

/-- The text is complete: whatever is opened in it is closed in it. -/
structure WellFormed (text : String) : Prop where
  endsPlain : EndsPlain text
  endsOutside : EndsOutside (lex text)

instance (text : String) : Decidable (WellFormed text) :=
  decidable_of_iff (EndsPlain text ∧ EndsOutside (lex text))
    ⟨fun ⟨endsPlain, endsOutside⟩ => ⟨endsPlain, endsOutside⟩,
      fun ⟨endsPlain, endsOutside⟩ => ⟨endsPlain, endsOutside⟩⟩

theorem satisfies_nil (row : Row) : Satisfies row "" := rfl

/-- A row that satisfies every condition satisfies all of them joined. -/
theorem satisfies_join (row : Row) (texts : List String)
    (wellFormed : ∀ text ∈ texts, WellFormed text)
    (satisfied : ∀ text ∈ texts, Satisfies row text) : Satisfies row (join " AND " texts) := by
  induction texts with
  | nil => exact satisfies_nil row
  | cons text rest inductionHypothesis =>
    cases rest with
    | nil => exact satisfied text List.mem_cons_self
    | cons next others =>
      have complete := wellFormed text List.mem_cons_self
      rw [Satisfies, join, lex_and _ _ complete.endsPlain]
      refine truth_and_of_both row _ _ complete.endsOutside
        (satisfied text List.mem_cons_self) (inductionHypothesis ?_ ?_)
      · exact fun other member => wellFormed other (List.mem_cons_of_mem text member)
      · exact fun other member => satisfied other (List.mem_cons_of_mem text member)

theorem single_join (texts : List String) (wellFormed : ∀ text ∈ texts, WellFormed text)
    (single : ∀ text ∈ texts, SingleAlternative (lex text)) :
    SingleAlternative (lex (join " AND " texts)) := by
  induction texts with
  | nil => rfl
  | cons text rest inductionHypothesis =>
    cases rest with
    | nil => exact single text List.mem_cons_self
    | cons next others =>
      have complete := wellFormed text List.mem_cons_self
      rw [join, lex_and _ _ complete.endsPlain]
      refine single_and _ _ complete.endsOutside (single text List.mem_cons_self)
        (inductionHypothesis ?_ ?_)
      · exact fun other member => wellFormed other (List.mem_cons_of_mem text member)
      · exact fun other member => single other (List.mem_cons_of_mem text member)

/-- Conditions without other alternatives mean their conjunction when they are joined. -/
theorem satisfies_join_iff (row : Row) (texts : List String)
    (wellFormed : ∀ text ∈ texts, WellFormed text)
    (single : ∀ text ∈ texts, SingleAlternative (lex text)) :
    Satisfies row (join " AND " texts) ↔ ∀ text ∈ texts, Satisfies row text := by
  induction texts with
  | nil => exact iff_of_true (satisfies_nil row) (by simp)
  | cons text rest inductionHypothesis =>
    cases rest with
    | nil => simp [join]
    | cons next others =>
      have complete := wellFormed text List.mem_cons_self
      have restComplete : ∀ other ∈ next :: others, WellFormed other :=
        fun other member => wellFormed other (List.mem_cons_of_mem text member)
      have restSingle : ∀ other ∈ next :: others, SingleAlternative (lex other) :=
        fun other member => single other (List.mem_cons_of_mem text member)
      rw [List.forall_mem_cons, ← inductionHypothesis restComplete restSingle, Satisfies, join,
        lex_and _ _ complete.endsPlain]
      exact truth_and_iff row _ _ complete.endsOutside (single text List.mem_cons_self)
        (single_join _ restComplete restSingle)

/-! ### Independent conditions -/

def firstAlternative (tokens : List Token) : List Token := (alternatives tokens).headD []

/-- The alternatives after the first one. -/
def later (tokens : List Token) : List (List Token) := (alternatives tokens).tail

theorem alternatives_eq_cons (tokens : List Token) :
    alternatives tokens = firstAlternative tokens :: later tokens := by
  unfold firstAlternative later
  rw [alternatives_eq]
  cases earlier tokens <;> rfl

theorem firstAlternative_mem (tokens : List Token) :
    firstAlternative tokens ∈ alternatives tokens := by
  rw [alternatives_eq_cons]
  exact List.mem_cons_self

theorem last_mem (tokens : List Token) : last tokens ∈ alternatives tokens := by
  rw [alternatives_eq]
  exact List.mem_append_right _ List.mem_cons_self

theorem truth_of_later (row : Row) (tokens : List Token)
    (holds : ∃ alternative ∈ later tokens, Holds row alternative) : truth row tokens = .yes := by
  obtain ⟨alternative, member, holds⟩ := holds
  rw [truth_eq_yes, alternatives_eq_cons]
  exact ⟨alternative, List.mem_cons_of_mem _ member, holds⟩

/-- The first alternative of the whole is that of the first condition, alone or with that of the
second. -/
theorem holds_firstAlternative_and (row : Row) (first second : List Token)
    (outside : EndsOutside first) (holdsFirst : Holds row (firstAlternative first))
    (holdsSecond : Holds row (firstAlternative second)) :
    Holds row (firstAlternative (first ++ .word "AND" :: second)) := by
  unfold firstAlternative at holdsFirst ⊢
  rw [alternatives_eq first] at holdsFirst
  rw [alternatives_and first second outside, alternatives_eq_cons second]
  cases split : earlier first with
  | nil =>
    rw [split] at holdsFirst
    exact (holds_and row first _ outside).mpr ⟨holdsFirst, holdsSecond⟩
  | cons alternative rest =>
    rw [split] at holdsFirst
    exact holdsFirst

theorem later_and (first second alternative : List Token) (outside : EndsOutside first)
    (member : alternative ∈ later second) :
    alternative ∈ later (first ++ .word "AND" :: second) := by
  unfold later
  rw [alternatives_and first second outside, alternatives_eq_cons second]
  cases earlier first with
  | nil => exact member
  | cons _ rest => exact List.mem_append_right rest (List.mem_cons_of_mem _ member)

/-- After a second alternative the first condition's last one is apart from what came before. -/
theorem exists_later_and (row : Row) (first second : List Token) (outside : EndsOutside first)
    (several : ¬SingleAlternative first) (holdsFirst : Holds row (last first))
    (holdsSecond : Holds row (firstAlternative second)) :
    ∃ alternative ∈ later (first ++ .word "AND" :: second), Holds row alternative := by
  refine ⟨_, ?_, (holds_and row first _ outside).mpr ⟨holdsFirst, holdsSecond⟩⟩
  unfold later
  rw [alternatives_and first second outside, alternatives_eq_cons second]
  cases split : earlier first with
  | nil => exact absurd split several
  | cons _ rest => exact List.mem_append_right rest List.mem_cons_self

/-- No condition follows from alternatives of the others. -/
def Independent (texts : List String) : Prop :=
  ∀ before text after, texts = before ++ text :: after → ∀ chosen : List (List Token),
    List.Forall₂ (fun other alternative => alternative ∈ alternatives (lex other))
      (before ++ after) chosen →
    ∃ row, (∀ alternative ∈ chosen, Holds row alternative) ∧ ¬Satisfies row text

theorem independent_pair (first second : String)
    (apartSecond : ∀ alternative ∈ alternatives (lex first),
      ∃ row, Holds row alternative ∧ ¬Satisfies row second)
    (apartFirst : ∀ alternative ∈ alternatives (lex second),
      ∃ row, Holds row alternative ∧ ¬Satisfies row first) : Independent [first, second] := by
  intro before text after split chosen related
  cases before with
  | nil =>
    obtain ⟨rfl, rfl⟩ : first = text ∧ [second] = after := by simpa using split
    cases related with
    | cons member rest =>
      cases rest
      obtain ⟨row, holds, fails⟩ := apartFirst _ member
      exact ⟨row, by simpa using holds, fails⟩
  | cons previous others =>
    cases others with
    | nil =>
      obtain ⟨rfl, rfl, rfl⟩ : first = previous ∧ second = text ∧ after = [] := by
        simpa using split
      cases related with
      | cons member rest =>
        cases rest
        obtain ⟨row, holds, fails⟩ := apartSecond _ member
        exact ⟨row, by simpa using holds, fails⟩
    | cons _ _ => simp at split

theorem holds_firstAlternative_join (row : Row) (texts : List String)
    (wellFormed : ∀ text ∈ texts, WellFormed text)
    (holds : ∀ text ∈ texts, Holds row (firstAlternative (lex text))) :
    Holds row (firstAlternative (lex (join " AND " texts))) := by
  induction texts with
  | nil =>
    intro conjunct member
    obtain rfl := List.mem_singleton.mp member
    rfl
  | cons text rest inductionHypothesis =>
    cases rest with
    | nil => exact holds text List.mem_cons_self
    | cons next others =>
      have complete := wellFormed text List.mem_cons_self
      rw [join, lex_and _ _ complete.endsPlain]
      refine holds_firstAlternative_and row _ _ complete.endsOutside
        (holds text List.mem_cons_self) (inductionHypothesis ?_ ?_)
      · exact fun other member => wellFormed other (List.mem_cons_of_mem text member)
      · exact fun other member => holds other (List.mem_cons_of_mem text member)

theorem exists_later_join (row : Row) (text : String) (rest : List String)
    (wellFormed : ∀ other ∈ text :: rest, WellFormed other)
    (several : ¬SingleAlternative (lex text)) (holdsLast : Holds row (last (lex text)))
    (holds : ∀ other ∈ rest, Holds row (firstAlternative (lex other))) :
    ∃ alternative ∈ later (lex (join " AND " (text :: rest))), Holds row alternative := by
  have complete := wellFormed text List.mem_cons_self
  cases rest with
  | nil =>
    refine ⟨last (lex text), ?_, holdsLast⟩
    show last (lex text) ∈ (alternatives (lex text)).tail
    rw [alternatives_eq]
    cases split : earlier (lex text) with
    | nil => exact absurd split several
    | cons _ others => exact List.mem_append_right others List.mem_cons_self
  | cons next others =>
    rw [join, lex_and _ _ complete.endsPlain]
    refine exists_later_and row _ _ complete.endsOutside several holdsLast ?_
    exact holds_firstAlternative_join row _
      (fun other member => wellFormed other (List.mem_cons_of_mem text member)) holds

theorem later_join (before : List String) (text : String) (rest : List String)
    (wellFormed : ∀ other ∈ before, WellFormed other) (alternative : List Token)
    (member : alternative ∈ later (lex (join " AND " (text :: rest)))) :
    alternative ∈ later (lex (join " AND " (before ++ text :: rest))) := by
  induction before with
  | nil => exact member
  | cons first others inductionHypothesis =>
    have complete := wellFormed first List.mem_cons_self
    have inOthers := inductionHypothesis fun other isOther =>
      wellFormed other (List.mem_cons_of_mem first isOther)
    obtain ⟨next, following, split⟩ : ∃ next following, others ++ text :: rest =
        next :: following := List.exists_cons_of_ne_nil (by simp)
    rw [split] at inOthers
    rw [List.cons_append, split, join, lex_and _ _ complete.endsPlain]
    exact later_and _ _ _ complete.endsOutside inOthers

/-- The first of several alternatives of the first condition lets a row in on its own. -/
theorem satisfies_join_of_first (row : Row) (text next : String) (rest : List String)
    (complete : WellFormed text) (several : ¬SingleAlternative (lex text))
    (holds : Holds row (firstAlternative (lex text))) :
    Satisfies row (join " AND " (text :: next :: rest)) := by
  rw [Satisfies, join, lex_and _ _ complete.endsPlain, truth_eq_yes,
    alternatives_and _ _ complete.endsOutside]
  refine ⟨_, List.mem_append_left _ ?_, holds⟩
  unfold firstAlternative
  rw [alternatives_eq]
  cases split : earlier (lex text) with
  | nil => exact absurd split several
  | cons _ others => exact List.mem_cons_self

/-- The last of several alternatives of a condition lets a row in with what comes after it. -/
theorem satisfies_join_of_last (row : Row) (before : List String) (text : String)
    (after : List String) (wellFormed : ∀ other ∈ before ++ text :: after, WellFormed other)
    (several : ¬SingleAlternative (lex text)) (holdsLast : Holds row (last (lex text)))
    (holds : ∀ other ∈ after, Holds row (firstAlternative (lex other))) :
    Satisfies row (join " AND " (before ++ text :: after)) := by
  obtain ⟨alternative, inRest, holdsRest⟩ := exists_later_join row text after
    (fun other member => wellFormed other (List.mem_append_right before member)) several
    holdsLast holds
  refine truth_of_later row _ ⟨alternative, later_join before text after ?_ _ inRest, holdsRest⟩
  exact fun other member => wellFormed other (List.mem_append_left _ member)

theorem forall₂_firstAlternative (texts : List String) :
    List.Forall₂ (fun text alternative => alternative ∈ alternatives (lex text)) texts
      (texts.map fun text => firstAlternative (lex text)) := by
  induction texts with
  | nil => exact .nil
  | cons text rest inductionHypothesis =>
    exact .cons (firstAlternative_mem (lex text)) inductionHypothesis

/-- Independent conditions that mean their conjunction when they are joined have no `OR` outside
of groups. -/
theorem single_of_conjunction (texts : List String)
    (wellFormed : ∀ text ∈ texts, WellFormed text) (independent : Independent texts)
    (two : 2 ≤ texts.length)
    (conjunction : ∀ row, Satisfies row (join " AND " texts) ↔
      ∀ text ∈ texts, Satisfies row text) :
    ∀ text ∈ texts, SingleAlternative (lex text) := by
  intro text member
  by_contra several
  obtain ⟨before, after, rfl⟩ := List.append_of_mem member
  rcases before.eq_nil_or_concat' with rfl | ⟨start, previous, rfl⟩
  · cases after with
    | nil => simp at two
    | cons next rest =>
      obtain ⟨row, holds, fails⟩ := independent [text] next rest rfl _
        (forall₂_firstAlternative (text :: rest))
      have whole := satisfies_join_of_first row text next rest
        (wellFormed text List.mem_cons_self) several (holds _ List.mem_cons_self)
      exact fails ((conjunction row).mp whole next (by simp))
  · obtain ⟨row, holds, fails⟩ := independent start previous (text :: after) (by simp) _
      (List.rel_append (forall₂_firstAlternative start)
        (.cons (last_mem (lex text)) (forall₂_firstAlternative after)))
    have whole := satisfies_join_of_last row (start ++ [previous]) text after wellFormed several
      (holds _ (List.mem_append_right _ List.mem_cons_self)) fun other isOther =>
        holds _ (List.mem_append_right _ (List.mem_cons_of_mem _
          (List.mem_map_of_mem isOther)))
    exact fails ((conjunction row).mp whole previous (by simp))

end SharedGo.Sql
