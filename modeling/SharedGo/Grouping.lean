/-
This file is a library for conditions that are put together with `OR` and with
parentheses. A text is closed when whatever is opened in it is closed in it, in
pairs. Closed texts with `OR` between them are closed, and a row satisfies them
when it satisfies one of them. A closed text in parentheses is closed, and means
what it means without them, since no separator inside of a group is read outside.
-/

import SharedGo.Reading

namespace SharedGo.Sql

open SharedGo Text

/-! ### The end of a text -/

/-- A text is read to its end as tokens. -/
structure Reads (text : String) (tokens : List Token) : Prop where
  lex : lex text = tokens
  endsPlain : EndsPlain text

theorem after_stop (lexer : Lexer) (first rest : List Char) (char : Char) (symbols : List Token)
    (behind : Bool → Lexer)
    (stops : ∀ word escaped, stepPlain word escaped char = (flush word ++ symbols, behind escaped))
    (plain : (lexer.after first).mode = .plain) :
    lexer.after (first ++ char :: rest) = (behind (lexer.after first).escaped).after rest := by
  have step : ((lexer.after first).step char).2 = behind (lexer.after first).escaped := by
    rw [Lexer.step, plain, stops]
  rw [Lexer.after, List.foldl_append, List.foldl_cons]
  exact congrArg (Lexer.after · rest) step

theorem endsPlain_spaced (first keyword second : String) (plain : EndsPlain first)
    (separator : IsSeparator keyword) (plainSecond : EndsPlain second) :
    EndsPlain (first ++ (" " ++ keyword ++ " ") ++ second) := by
  have chars : (first ++ (" " ++ keyword ++ " ") ++ second).toList =
      first.toList ++ ' ' :: (keyword.toList ++ ' ' :: second.toList) := by simp
  obtain ⟨_, plainKeyword, unescaped⟩ := separator.behind (Lexer.start.after first.toList).escaped
  rw [EndsPlain, chars, after_stop _ _ _ _ _ _ stepPlain_space plain,
    after_stop _ _ _ _ _ _ stepPlain_space plainKeyword, unescaped]
  exact plainSecond

/-! ### Parameters -/

theorem isDigit_range (char : Char) (digit : char.isDigit = true) :
    48 ≤ char.toNat ∧ char.toNat ≤ 57 := by
  simpa [Char.isDigit, UInt32.le_iff_toNat_le] using digit

/-- A digit goes on with a word. -/
theorem stepPlain_digit (word : List Char) (escaped : Bool) (char : Char)
    (digit : char.isDigit = true) :
    stepPlain word escaped char = ([], ⟨.plain, word ++ [char], false⟩) := by
  have range := isDigit_range char digit
  have visible : isBlank char = false := by
    simp only [isBlank, List.contains_eq_mem, decide_eq_false_iff_not, List.mem_cons,
      List.not_mem_nil, or_false]
    omega
  have noDollar : char ≠ '$' := by
    rintro rfl
    cases digit
  simp [stepPlain, visible, noDollar, isWordChar, isNameChar, Char.isAlphanum, digit]

theorem read_digits (word digits : List Char) (all : ∀ char ∈ digits, char.isDigit = true) :
    lexFrom ⟨.plain, word, false⟩ digits = flush (word ++ digits) ∧
      Lexer.after ⟨.plain, word, false⟩ digits = ⟨.plain, word ++ digits, false⟩ := by
  induction digits generalizing word with
  | nil => simp [lexFrom, Lexer.after]
  | cons char rest inductionHypothesis =>
    obtain ⟨digit, others⟩ := List.forall_mem_cons.mp all
    have step : Lexer.step ⟨.plain, word, false⟩ char = ([], ⟨.plain, word ++ [char], false⟩) :=
      stepPlain_digit word false char digit
    have later := inductionHypothesis (word ++ [char]) others
    rw [List.append_assoc, List.singleton_append] at later
    rw [lexFrom, step]
    refine ⟨later.1, ?_⟩
    rw [Lexer.after, List.foldl_cons, step]
    exact later.2

/-- A dollar sign and digits are one word. -/
theorem reads_parameter_name (name : String) (digits : List Char)
    (chars : name.toList = '$' :: digits) (all : ∀ char ∈ digits, char.isDigit = true) :
    Reads name [.word name] := by
  have opened : Lexer.start.step '$' = ([], ⟨.plain, ['$'], false⟩) := by decide
  obtain ⟨tokens, after⟩ := read_digits ['$'] digits all
  constructor
  · rw [lex, chars, lexFrom, opened, tokens]
    show flush ('$' :: digits) = _
    rw [← chars, flush, if_neg (by rw [chars]; exact List.cons_ne_nil _ _), String.ofList_toList]
  · rw [EndsPlain, chars, Lexer.after, List.foldl_cons, opened]
    exact congrArg Lexer.mode after

/-! ### Parentheses -/

theorem stepPlain_close (word : List Char) (escaped : Bool) :
    stepPlain word escaped ')' = (flush word ++ [.symbol ')'], .start) := by
  have visible : isBlank ')' = false := by decide
  have noWord : isWordChar ')' = false := by decide
  simp [stepPlain, visible, noWord]

theorem parens_toList (text : String) :
    ("(" ++ text ++ ")").toList = '(' :: (text.toList ++ [')']) := by simp

theorem lex_parens (text : String) (plain : EndsPlain text) :
    lex ("(" ++ text ++ ")") = .symbol '(' :: (lex text ++ [.symbol ')']) := by
  have opened : Lexer.start.step '(' = ([.symbol '('], .start) := by decide
  rw [lex, parens_toList, lexFrom, opened, lexFrom_stop _ _ _ _ _ _ stepPlain_close plain]
  rfl

theorem endsPlain_parens (text : String) (plain : EndsPlain text) :
    EndsPlain ("(" ++ text ++ ")") := by
  have opened : Lexer.start.step '(' = ([.symbol '('], .start) := by decide
  rw [EndsPlain, parens_toList, Lexer.after, List.foldl_cons, opened]
  exact congrArg Lexer.mode (after_stop .start text.toList [] ')' _ _ stepPlain_close plain)

/-! ### Groups -/

theorem balanced_cons (depth : Nat) (token : Token) (rest : List Token) :
    balanced depth (token :: rest) =
      if token.opens then balanced (depth + 1) rest
      else if token.closes then
        match depth with
        | 0 => false
        | depth + 1 => balanced depth rest
      else balanced depth rest := by
  cases depth <;> rfl

/-- What follows balanced tokens is read at the depth they started from. -/
theorem balanced_append (depth outer : Nat) (first rest : List Token)
    (pairs : balanced depth first = true) :
    balanced (depth + outer) (first ++ rest) = balanced outer rest := by
  induction first generalizing depth with
  | nil =>
    obtain rfl : depth = 0 := by simpa [balanced] using pairs
    rw [List.nil_append, Nat.zero_add]
  | cons token others inductionHypothesis =>
    rw [balanced_cons] at pairs
    rw [List.cons_append, balanced_cons]
    split_ifs at pairs ⊢ with opens closes
    · rw [Nat.add_right_comm]
      exact inductionHypothesis (depth + 1) pairs
    · cases depth with
      | zero => cases pairs
      | succ depth =>
        rw [Nat.add_right_comm]
        exact inductionHypothesis depth pairs
    · exact inductionHypothesis depth pairs

theorem depth_of_isOr (scan : Scan) (token : Token) (separates : isOr scan token = true) :
    scan.depth = 0 := by
  unfold isOr at separates
  exact of_decide_eq_true (Bool.and_eq_true_iff.mp separates).1

theorem depth_of_isAnd (scan : Scan) (token : Token) (separates : isAnd scan token = true) :
    scan.depth = 0 := by
  unfold isAnd at separates
  rw [of_decide_eq_true (Bool.and_eq_true_iff.mp separates).1, Scan.start]

theorem next_inside (depth pending : Nat) (token : Token) :
    Scan.next ⟨depth + 1, pending⟩ token =
      if token.opens then ⟨depth + 2, pending⟩
      else if token.closes then ⟨depth, pending⟩ else ⟨depth + 1, pending⟩ := by
  simp [Scan.next, isOr]

/-- Balanced tokens inside of a group end in it, and nothing in them separates. -/
theorem read_group (separates : Scan → Token → Bool)
    (outside : ∀ scan token, separates scan token = true → scan.depth = 0)
    (depth pending : Nat) (piece tokens : List Token) (pairs : balanced depth tokens = true) :
    Scan.after ⟨depth + 1, pending⟩ tokens = ⟨1, pending⟩ ∧
      piecesFrom separates ⟨depth + 1, pending⟩ piece tokens = ([], piece ++ tokens) := by
  induction tokens generalizing depth piece with
  | nil =>
    obtain rfl : depth = 0 := by simpa [balanced] using pairs
    simp [Scan.after, piecesFrom]
  | cons token rest inductionHypothesis =>
    have inside : separates ⟨depth + 1, pending⟩ token = false := by
      cases separator : separates ⟨depth + 1, pending⟩ token with
      | false => rfl
      | true => cases outside _ _ separator
    rw [balanced_cons] at pairs
    rw [Scan.after, List.foldl_cons, piecesFrom, inside, if_neg Bool.false_ne_true, next_inside,
      List.append_cons piece token rest]
    split_ifs at pairs ⊢ with opens closes
    · exact inductionHypothesis (depth + 1) _ pairs
    · cases depth with
      | zero => cases pairs
      | succ depth => exact inductionHypothesis depth _ pairs
    · exact inductionHypothesis depth _ pairs

/-! ### Operands -/

/-- The tokens stand together: no separator cuts them, and no group reaches out of them. -/
structure Operand (tokens : List Token) : Prop where
  outside : EndsOutside tokens
  pairs : balanced 0 tokens = true
  single : alternatives tokens = [tokens]
  whole : conjuncts tokens = [tokens]

instance (tokens : List Token) : Decidable (Operand tokens) :=
  decidable_of_iff (EndsOutside tokens ∧ balanced 0 tokens = true ∧
      alternatives tokens = [tokens] ∧ conjuncts tokens = [tokens])
    ⟨fun ⟨outside, pairs, single, whole⟩ => ⟨outside, pairs, single, whole⟩,
      fun ⟨outside, pairs, single, whole⟩ => ⟨outside, pairs, single, whole⟩⟩

theorem truth_operand (row : Row) (tokens : List Token) (operand : Operand tokens) :
    truth row tokens = primary row tokens := by
  rw [truth_eq, operand.single, List.map_singleton, operand.whole, List.map_singleton]
  cases primary row tokens <;> rfl

/-- The words that open, close or separate. -/
def keywords : List String := ["OR", "AND", "NOT", "BETWEEN", "CASE", "END"]

/-- The token neither opens nor closes nor separates. -/
structure Neutral (token : Token) : Prop where
  opens : token.opens = false
  closes : token.closes = false
  next : Scan.start.next token = .start
  notOr : isOr .start token = false
  notAnd : isAnd .start token = false

theorem neutral_word (name : String)
    (noKeyword : ∀ keyword ∈ keywords, (Token.word name).isKeyword keyword = false) :
    Neutral (.word name) := by
  simp only [keywords, List.forall_mem_cons] at noKeyword
  obtain ⟨notOr, notAnd, _, notBetween, notCase, notEnd, -⟩ := noKeyword
  have opens : (Token.word name).opens = false := by simp [Token.opens, notCase]
  have closes : (Token.word name).closes = false := by simp [Token.closes, notEnd]
  have separates : isOr .start (.word name) = false := by simp [isOr, notOr]
  exact ⟨opens, closes, by simp [Scan.next, separates, opens, closes, notBetween, notAnd],
    separates, by simp [isAnd, notAnd]⟩

theorem splitFrom_snoc (separates : Scan → Token → Bool) (tokens : List Token) (token : Token)
    (outside : EndsOutside tokens) (whole : splitFrom separates .start [] tokens = [tokens])
    (together : separates .start token = false) :
    splitFrom separates .start [] (tokens ++ [token]) = [tokens ++ [token]] := by
  rw [splitFrom_eq] at whole
  obtain ⟨none, piece⟩ := List.append_eq_singleton_iff.mp whole |>.resolve_right (by simp)
  rw [splitFrom_append, outside, none, List.singleton_inj.mp piece, splitFrom, together,
    if_neg Bool.false_ne_true, splitFrom, List.nil_append]

/-- A neutral token joins what stands in front of it. -/
theorem operand_snoc (tokens : List Token) (token : Token) (operand : Operand tokens)
    (neutral : Neutral token) : Operand (tokens ++ [token]) where
  outside := by
    have outside := operand.outside
    rw [EndsOutside, Scan.after] at outside
    rw [EndsOutside, Scan.after, List.foldl_append, outside]
    exact neutral.next
  pairs := by
    refine (balanced_append 0 0 tokens [token] operand.pairs).trans ?_
    simp [balanced, neutral.opens, neutral.closes]
  single := splitFrom_snoc isOr tokens token operand.outside operand.single neutral.notOr
  whole := splitFrom_snoc isAnd tokens token operand.outside operand.whole neutral.notAnd

/-- The tokens of a condition in parentheses. -/
def group (tokens : List Token) : List Token := .symbol '(' :: (tokens ++ [.symbol ')'])

theorem splitFrom_group (separates : Scan → Token → Bool)
    (outside : ∀ scan token, separates scan token = true → scan.depth = 0)
    (openNot : separates .start (.symbol '(') = false) (tokens : List Token)
    (pairs : balanced 0 tokens = true) :
    splitFrom separates .start [] (group tokens) = [group tokens] := by
  have opened : Scan.start.next (.symbol '(') = ⟨0 + 1, 0⟩ := by decide
  obtain ⟨inside, pieces⟩ := read_group separates outside 0 0 [.symbol '('] tokens pairs
  have closeNot : separates ⟨1, 0⟩ (.symbol ')') = false := by
    cases separator : separates ⟨1, 0⟩ (.symbol ')') with
    | false => rfl
    | true => cases outside _ _ separator
  rw [group, splitFrom, openNot, if_neg Bool.false_ne_true, opened, List.nil_append,
    splitFrom_append, inside, pieces, splitFrom, closeNot, if_neg Bool.false_ne_true]
  rfl

theorem operand_group (tokens : List Token) (pairs : balanced 0 tokens = true) :
    Operand (group tokens) where
  outside := by
    have opened : Scan.start.next (.symbol '(') = ⟨0 + 1, 0⟩ := by decide
    have inside := (read_group isOr depth_of_isOr 0 0 [] tokens pairs).1
    rw [Scan.after] at inside
    rw [EndsOutside, group, Scan.after, List.foldl_cons, opened, List.foldl_append, inside]
    rfl
  pairs := by
    have opens : (Token.symbol '(').opens = true := by decide
    rw [group, balanced_cons, if_pos opens]
    exact balanced_append 0 1 tokens [.symbol ')'] pairs
  single := splitFrom_group isOr depth_of_isOr (by decide) tokens pairs
  whole := splitFrom_group isAnd depth_of_isAnd (by decide) tokens pairs

theorem unwrap_group (tokens : List Token) (pairs : balanced 0 tokens = true) :
    unwrap (group tokens) = some tokens := by
  simp [unwrap, group, pairs]

/-- A condition in parentheses means what it means without them. -/
theorem truth_group (row : Row) (tokens : List Token) (pairs : balanced 0 tokens = true) :
    truth row (group tokens) = truth row tokens := by
  have notNegated : (Token.symbol '(').isKeyword "NOT" = false := rfl
  have wrapped := unwrap_group tokens pairs
  rw [truth_operand row _ (operand_group tokens pairs)]
  rw [group] at wrapped ⊢
  simp [primary, primaryWith, wrapped, notNegated]

/-- Only what ends in a closing parenthesis is in parentheses. -/
theorem getLast_of_unwrap (tokens inside : List Token) (wrapped : unwrap tokens = some inside) :
    tokens.getLast? = some (.symbol ')') := by
  unfold unwrap at wrapped
  split at wrapped
  · split_ifs at wrapped with closes
    rw [List.getLast?_cons, closes.1]
    rfl
  · cases wrapped

/-- What starts without `NOT` and ends without a parenthesis is an atom. -/
theorem primary_atom (row : Row) (tokens : List Token) (nonempty : tokens ≠ [])
    (positive : ∀ token ∈ tokens.head?, token.isKeyword "NOT" = false)
    (noGroup : tokens.getLast? ≠ some (.symbol ')')) : primary row tokens = row tokens := by
  have bare : unwrap tokens = none := by
    cases wrapped : unwrap tokens with
    | none => rfl
    | some inside => exact absurd (getLast_of_unwrap tokens inside wrapped) noGroup
  cases tokens with
  | nil => exact absurd rfl nonempty
  | cons token rest =>
    have notNegated := positive token rfl
    simp [primary, primaryWith, bare, notNegated]

/-! ### Alternatives -/

theorem alternatives_or (first second : List Token) (outside : EndsOutside first) :
    alternatives (first ++ .word "OR" :: second) = alternatives first ++ alternatives second := by
  have separates : isOr .start (.word "OR") = true := by decide
  have next : Scan.start.next (.word "OR") = .start := by decide
  rw [alternatives, splitFrom_append, outside, splitFrom, if_pos separates, next, alternatives,
    splitFrom_eq isOr .start [] first, alternatives, List.append_assoc]
  rfl

theorem truth_or_iff (row : Row) (first second : List Token) (outside : EndsOutside first) :
    truth row (first ++ .word "OR" :: second) = .yes ↔
      truth row first = .yes ∨ truth row second = .yes := by
  simp only [truth_eq_yes, alternatives_or first second outside, List.mem_append, or_and_right,
    exists_or]

/-- Whatever is opened in the text is closed in it, in pairs. -/
structure Closed (text : String) : Prop extends WellFormed text where
  pairs : balanced 0 (lex text) = true

theorem lex_or (first second : String) (plain : EndsPlain first) :
    lex (first ++ " OR " ++ second) = lex first ++ .word "OR" :: lex second :=
  lex_spaced first "OR" second plain (by decide)

theorem closed_or (first second : String) (closedFirst : Closed first)
    (closedSecond : Closed second) : Closed (first ++ " OR " ++ second) := by
  have tokens := lex_or first second closedFirst.endsPlain
  refine ⟨⟨endsPlain_spaced first "OR" second closedFirst.endsPlain (by decide)
    closedSecond.endsPlain, ?_⟩, ?_⟩
  · have next : Scan.start.next (.word "OR") = .start := by decide
    have outside := closedFirst.endsOutside
    rw [EndsOutside, Scan.after] at outside
    rw [tokens, EndsOutside, Scan.after, List.foldl_append, outside, List.foldl_cons, next]
    exact closedSecond.endsOutside
  · rw [tokens]
    exact (balanced_append 0 0 _ _ closedFirst.pairs).trans closedSecond.pairs

theorem closed_parens (text : String) (closed : Closed text) : Closed ("(" ++ text ++ ")") := by
  have tokens := lex_parens text closed.endsPlain
  refine ⟨⟨endsPlain_parens text closed.endsPlain, ?_⟩, ?_⟩
  · rw [tokens]
    exact (operand_group (lex text) closed.pairs).outside
  · rw [tokens]
    exact (operand_group (lex text) closed.pairs).pairs

theorem satisfies_parens (row : Row) (text : String) (closed : Closed text) :
    Satisfies row ("(" ++ text ++ ")") ↔ Satisfies row text := by
  rw [Satisfies, Satisfies, lex_parens text closed.endsPlain]
  exact iff_of_eq (congrArg (· = Truth.yes) (truth_group row (lex text) closed.pairs))

theorem closed_join_or (texts : List String) (closed : ∀ text ∈ texts, Closed text) :
    Closed (join " OR " texts) := by
  induction texts with
  | nil => exact ⟨by decide, by decide⟩
  | cons text rest inductionHypothesis =>
    obtain ⟨closedText, closedRest⟩ := List.forall_mem_cons.mp closed
    cases rest with
    | nil => exact closedText
    | cons next others => exact closed_or text _ closedText (inductionHypothesis closedRest)

/-- A row satisfies conditions with `OR` between them when it satisfies one of them. -/
theorem satisfies_join_or_iff (row : Row) (texts : List String) (nonempty : texts ≠ [])
    (closed : ∀ text ∈ texts, Closed text) :
    Satisfies row (join " OR " texts) ↔ ∃ text ∈ texts, Satisfies row text := by
  induction texts with
  | nil => exact absurd rfl nonempty
  | cons text rest inductionHypothesis =>
    obtain ⟨closedText, closedRest⟩ := List.forall_mem_cons.mp closed
    cases rest with
    | nil => simp [join]
    | cons next others =>
      rw [List.exists_mem_cons_iff, ← inductionHypothesis (List.cons_ne_nil _ _) closedRest,
        Satisfies, join, lex_or _ _ closedText.endsPlain]
      exact truth_or_iff row _ _ closedText.endsOutside

end SharedGo.Sql
