/-
This file is a library for the atoms of an SQL condition: an operand that is
compared with a parameter, looked up in a list of parameters, placed between two of
them, or tested for `NULL`. The operand in front can be any expression, so an atom
is read from its end. A row gives operands their values, and an operand without a
value makes every comparison with it unknown; what a comparison means for the values
and arguments there are is a parameter.

The main theorem is that the tokens written for a test have the truth of the test.
-/

import SharedGo.Grouping

namespace SharedGo.Sql

open SharedGo Text

/-! ### Truth of lists -/

theorem any_eq_no (truths : List Truth) :
    Truth.any truths = .no ↔ ∀ truth ∈ truths, truth = .no := by
  induction truths with
  | nil => simp [Truth.any]
  | cons truth rest inductionHypothesis =>
    rw [List.forall_mem_cons, ← inductionHypothesis]
    show truth.either (Truth.any rest) = .no ↔ _
    cases truth <;> cases Truth.any rest <;> simp [Truth.either]

theorem any_unknown (truths : List Truth) (nonempty : truths ≠ [])
    (unknown : ∀ truth ∈ truths, truth = .unknown) : Truth.any truths = .unknown := by
  have notYes : Truth.any truths ≠ .yes := by
    rw [ne_eq, any_eq_yes]
    intro isYes
    cases unknown _ isYes
  have notNo : Truth.any truths ≠ .no := by
    rw [ne_eq, any_eq_no]
    intro isNo
    obtain ⟨truth, member⟩ := List.exists_mem_of_ne_nil truths nonempty
    cases (unknown truth member).symm.trans (isNo truth member)
  cases truth : Truth.any truths with
  | yes => exact absurd truth notYes
  | no => exact absurd truth notNo
  | unknown => rfl

/-! ### Tests -/

/-- The comparisons of a value with an argument. -/
inductive Comparison where
  | eq
  | ne
  | gt
  | gte
  | lt
  | lte
  | like
  | ilike
  deriving DecidableEq, Repr

/-- A comparison, or the negation of one that has an operator of its own. -/
inductive Operator where
  | plain (comparison : Comparison)
  | notLike
  | notIlike
  deriving DecidableEq, Repr

/-- The name of a parameter, and the type it is cast to. -/
structure Parameter where
  name : String
  type : Option String
  deriving DecidableEq, Repr

/-- What is asked of an operand. -/
inductive Test where
  | compare (operator : Operator) (parameter : Parameter)
  | among (negated : Bool) (parameters : List Parameter)
  | between (low high : Parameter)
  | isNull (negated : Bool)
  deriving DecidableEq, Repr

def Comparison.tokens : Comparison → List Token
  | .eq => [.symbol '=']
  | .ne => [.symbol '<', .symbol '>']
  | .gt => [.symbol '>']
  | .gte => [.symbol '>', .symbol '=']
  | .lt => [.symbol '<']
  | .lte => [.symbol '<', .symbol '=']
  | .like => [.word "LIKE"]
  | .ilike => [.word "ILIKE"]

def Operator.tokens : Operator → List Token
  | .plain comparison => comparison.tokens
  | .notLike => [.word "NOT", .word "LIKE"]
  | .notIlike => [.word "NOT", .word "ILIKE"]

def Parameter.tokens (parameter : Parameter) : List Token :=
  match parameter.type with
  | none => [.word parameter.name]
  | some type => [.word parameter.name, .symbol ':', .symbol ':', .word type]

/-- Parameters with commas between them. -/
def listTokens : List Parameter → List Token
  | [] => []
  | [parameter] => parameter.tokens
  | parameter :: rest => parameter.tokens ++ .symbol ',' :: listTokens rest

/-- The tokens behind the operand. -/
def Test.tokens : Test → List Token
  | .compare operator parameter => operator.tokens ++ parameter.tokens
  | .among negated parameters =>
    (if negated then [.word "NOT", .word "IN"] else [.word "IN"]) ++ group (listTokens parameters)
  | .between low high => .word "BETWEEN" :: (low.tokens ++ .word "AND" :: high.tokens)
  | .isNull negated =>
    if negated then [.word "IS", .word "NOT", .word "NULL"] else [.word "IS", .word "NULL"]

/-! ### Reading from the end -/

def readOperator : List Token → Option (Operator × List Token)
  | .symbol '=' :: .symbol '>' :: rest => some (.plain .gte, rest)
  | .symbol '=' :: .symbol '<' :: rest => some (.plain .lte, rest)
  | .symbol '=' :: rest => some (.plain .eq, rest)
  | .symbol '>' :: .symbol '<' :: rest => some (.plain .ne, rest)
  | .symbol '>' :: rest => some (.plain .gt, rest)
  | .symbol '<' :: rest => some (.plain .lt, rest)
  | .word "LIKE" :: .word "NOT" :: rest => some (.notLike, rest)
  | .word "LIKE" :: rest => some (.plain .like, rest)
  | .word "ILIKE" :: .word "NOT" :: rest => some (.notIlike, rest)
  | .word "ILIKE" :: rest => some (.plain .ilike, rest)
  | _ => none

def readParameter : List Token → Option (Parameter × List Token)
  | .word type :: .symbol ':' :: .symbol ':' :: .word name :: rest =>
    some (⟨name, some type⟩, rest)
  | .word name :: rest => some (⟨name, none⟩, rest)
  | _ => none

/-- The parameters in front of `later`, and what is in front of their parenthesis. -/
def readList (later : List Parameter) : List Token → Option (List Parameter × List Token)
  | .word type :: .symbol ':' :: .symbol ':' :: .word name :: .symbol ',' :: rest =>
    readList (⟨name, some type⟩ :: later) rest
  | .word type :: .symbol ':' :: .symbol ':' :: .word name :: .symbol '(' :: rest =>
    some (⟨name, some type⟩ :: later, rest)
  | .word name :: .symbol ',' :: rest => readList (⟨name, none⟩ :: later) rest
  | .word name :: .symbol '(' :: rest => some (⟨name, none⟩ :: later, rest)
  | _ => none

def readAmong (tokens : List Token) : Option (Test × List Token) :=
  match readList [] tokens with
  | some (parameters, .word "IN" :: .word "NOT" :: operand) =>
    some (.among true parameters, operand)
  | some (parameters, .word "IN" :: operand) => some (.among false parameters, operand)
  | _ => none

def readNull : List Token → Option (Test × List Token)
  | .word "NOT" :: .word "IS" :: operand => some (.isNull true, operand)
  | .word "IS" :: operand => some (.isNull false, operand)
  | _ => none

/-- A comparison with one parameter, or with two of them. -/
def readCompared (tokens : List Token) : Option (Test × List Token) :=
  match readParameter tokens with
  | some (high, .word "AND" :: rest) =>
    match readParameter rest with
    | some (low, .word "BETWEEN" :: operand) => some (.between low high, operand)
    | _ => none
  | some (parameter, rest) =>
    (readOperator rest).map fun (operator, operand) => (.compare operator parameter, operand)
  | none => none

/-- The test at the end of an atom, and the operand in front of it, both from their ends. -/
def readTest (tokens : List Token) : Option (Test × List Token) :=
  match tokens with
  | .symbol ')' :: rest => readAmong rest
  | .word name :: rest => if name = "NULL" then readNull rest else readCompared tokens
  | _ => none

/-- A word that is no keyword. -/
structure PlainWord (text : String) : Prop where
  reads : Reads text [.word text]
  neutral : Neutral (.word text)
  present : text ≠ "NULL"

/-- The parameter is written with such words. -/
structure Parameter.Plain (parameter : Parameter) : Prop where
  name : PlainWord parameter.name
  type : ∀ type ∈ parameter.type, PlainWord type

def Test.Plain : Test → Prop
  | .compare _ parameter => parameter.Plain
  | .among _ parameters => parameters ≠ [] ∧ ∀ parameter ∈ parameters, parameter.Plain
  | .between low high => low.Plain ∧ high.Plain
  | .isNull _ => True

/-- The operand does not run into the operator behind it. -/
def Complete (operand : List Token) : Prop :=
  ∀ token ∈ operand.getLast?,
    token ≠ .symbol '<' ∧ token ≠ .symbol '>' ∧ token.isKeyword "NOT" = false

theorem complete_head (operand : List Token) (complete : Complete operand) (head : Token)
    (tail : List Token) (reversed : operand.reverse = head :: tail) :
    head ≠ .symbol '<' ∧ head ≠ .symbol '>' ∧ head ≠ .word "NOT" := by
  obtain ⟨notLess, notGreater, notNegated⟩ :=
    complete head (by rw [List.getLast?_eq_head?_reverse, reversed]; rfl)
  refine ⟨notLess, notGreater, ?_⟩
  rintro rfl
  cases notNegated

theorem readOperator_tokens (operator : Operator) (operand : List Token)
    (complete : Complete operand) :
    readOperator (operator.tokens.reverse ++ operand.reverse) =
      some (operator, operand.reverse) := by
  rcases reversed : operand.reverse with _ | ⟨head, tail⟩
  · rcases operator with comparison | _ | _
    · cases comparison <;> rfl
    · rfl
    · rfl
  obtain ⟨notLess, notGreater, notNegated⟩ :=
    complete_head operand complete head tail reversed
  rcases operator with comparison | _ | _
  · cases comparison <;>
      simp [readOperator, Operator.tokens, Comparison.tokens, notLess, notGreater, notNegated]
  · rfl
  · rfl

/-- The token in front of a parameter is not one of a cast. -/
theorem readParameter_tokens (parameter : Parameter) (token : Token) (rest : List Token)
    (apart : token ≠ .symbol ':') :
    readParameter (parameter.tokens.reverse ++ token :: rest) =
      some (parameter, token :: rest) := by
  obtain ⟨name, _ | type⟩ := parameter
  · simp [readParameter, Parameter.tokens, apart]
  · rfl

theorem listTokens_cons (parameter next : Parameter) (rest : List Parameter) :
    listTokens (parameter :: next :: rest) =
      parameter.tokens ++ .symbol ',' :: listTokens (next :: rest) := rfl

theorem listTokens_concat (parameters : List Parameter) (parameter : Parameter)
    (nonempty : parameters ≠ []) :
    listTokens (parameters ++ [parameter]) =
      listTokens parameters ++ .symbol ',' :: parameter.tokens := by
  induction parameters with
  | nil => exact absurd rfl nonempty
  | cons first rest inductionHypothesis =>
    cases rest with
    | nil => rfl
    | cons second others =>
      have following := inductionHypothesis (List.cons_ne_nil _ _)
      rw [List.cons_append] at following
      rw [List.cons_append, List.cons_append, listTokens_cons, following, listTokens_cons,
        List.append_assoc, List.cons_append]

theorem readList_tokens (parameters later : List Parameter) (nonempty : parameters ≠ [])
    (rest : List Token) :
    readList later ((listTokens parameters).reverse ++ .symbol '(' :: rest) =
      some (parameters ++ later, rest) := by
  induction parameters using List.reverseRecOn generalizing later with
  | nil => exact absurd rfl nonempty
  | append_singleton before parameter inductionHypothesis =>
    obtain ⟨name, type⟩ := parameter
    by_cases first : before = []
    · subst first
      cases type <;> rfl
    · have earlier := inductionHypothesis (⟨name, type⟩ :: later) first
      rw [listTokens_concat before _ first, List.append_assoc, List.singleton_append, ← earlier]
      cases type <;> simp [Parameter.tokens, readList]

theorem readTest_parameter (parameter : Parameter) (plain : parameter.Plain)
    (rest : List Token) :
    readTest (parameter.tokens.reverse ++ rest) =
      readCompared (parameter.tokens.reverse ++ rest) := by
  obtain ⟨name, _ | type⟩ := parameter
  · exact if_neg plain.name.present
  · exact if_neg (plain.type type rfl).present

theorem operator_reverse (operator : Operator) :
    ∃ token rest, operator.tokens.reverse = token :: rest ∧ token ≠ .symbol ':' ∧
      token ≠ .word "AND" := by
  rcases operator with comparison | _ | _
  · cases comparison <;> exact ⟨_, _, rfl, by decide, by decide⟩
  · exact ⟨_, _, rfl, by decide, by decide⟩
  · exact ⟨_, _, rfl, by decide, by decide⟩

/-- What was written behind an operand is read back. -/
theorem readTest_tokens (test : Test) (plain : test.Plain) (operand : List Token)
    (complete : Complete operand) :
    readTest (operand ++ test.tokens).reverse = some (test, operand.reverse) := by
  rw [List.reverse_append]
  cases test with
  | compare operator parameter =>
    have read := readOperator_tokens operator operand complete
    obtain ⟨token, rest, reversed, noCast, notAnd⟩ := operator_reverse operator
    rw [reversed, List.cons_append] at read
    rw [Test.tokens, List.reverse_append, List.append_assoc, reversed, List.cons_append,
      readTest_parameter parameter plain, readCompared, readParameter_tokens _ _ _ noCast]
    simp [notAnd, read]
  | among negated parameters =>
    have read := readList_tokens parameters [] plain.1
    cases negated with
    | false =>
      have tokens : (Test.among false parameters).tokens.reverse ++ operand.reverse =
          .symbol ')' :: ((listTokens parameters).reverse ++
            .symbol '(' :: .word "IN" :: operand.reverse) := by
        simp [Test.tokens, group]
      rw [tokens, readTest, readAmong, read, List.append_nil]
      rcases reversed : operand.reverse with _ | ⟨head, tail⟩
      · rfl
      · have notNegated := (complete_head operand complete head tail reversed).2.2
        simp [notNegated]
    | true => simp [Test.tokens, group, readTest, readAmong, read]
  | between low high =>
    rw [Test.tokens, List.reverse_cons, List.reverse_append, List.reverse_cons]
    simp only [List.append_assoc, List.cons_append, List.nil_append]
    rw [readTest_parameter high plain.2, readCompared, readParameter_tokens _ _ _ (by decide)]
    simp only [readParameter_tokens low (.word "BETWEEN") operand.reverse (by decide)]
  | isNull negated =>
    cases negated with
    | false => rfl
    | true => rfl

/-! ### Standing together -/

theorem next_of_neutral (pending : Nat) (token : Token) (neutral : Neutral token) :
    Scan.next ⟨0, pending⟩ token = ⟨0, pending⟩ := by
  have notOr := neutral.notOr
  have notAnd := neutral.notAnd
  have next := neutral.next
  simp only [isOr, isAnd, Scan.start, decide_true, Bool.true_and] at notOr notAnd
  simp [Scan.next, isOr, notOr, notAnd, neutral.opens, neutral.closes, Scan.start] at next ⊢
  exact next

/-- Neutral tokens outside of groups go on with the piece. -/
theorem splitFrom_neutral (separates : Scan → Token → Bool) (pending : Nat)
    (together : ∀ token, Neutral token → separates ⟨0, pending⟩ token = false)
    (piece tokens rest : List Token) (neutral : ∀ token ∈ tokens, Neutral token) :
    splitFrom separates ⟨0, pending⟩ piece (tokens ++ rest) =
      splitFrom separates ⟨0, pending⟩ (piece ++ tokens) rest := by
  induction tokens generalizing piece with
  | nil => simp
  | cons token others inductionHypothesis =>
    obtain ⟨first, later⟩ := List.forall_mem_cons.mp neutral
    rw [List.cons_append, splitFrom, together token first, if_neg Bool.false_ne_true,
      next_of_neutral pending token first, inductionHypothesis _ later, List.append_assoc,
      List.singleton_append]

theorem splitFrom_both (separates : Scan → Token → Bool) (first second : List Token)
    (outside : EndsOutside first) (wholeFirst : splitFrom separates .start [] first = [first])
    (wholeSecond : splitFrom separates .start [] second = [second]) :
    splitFrom separates .start [] (first ++ second) = [first ++ second] := by
  have pieces := splitFrom_eq separates .start [] first
  rw [wholeFirst, eq_comm] at pieces
  obtain ⟨none, piece⟩ := List.append_eq_singleton_iff.mp pieces |>.resolve_right (by simp)
  have following := splitFrom_piece separates .start first [] second
  rw [List.append_nil, wholeSecond, List.modifyHead_cons] at following
  rw [splitFrom_append, outside, none, List.singleton_inj.mp piece, following, List.nil_append]

/-- Operands one after the other stand together. -/
theorem operand_append (first second : List Token) (operandFirst : Operand first)
    (operandSecond : Operand second) : Operand (first ++ second) where
  outside := by
    have outside := operandFirst.outside
    rw [EndsOutside, Scan.after] at outside
    rw [EndsOutside, Scan.after, List.foldl_append, outside]
    exact operandSecond.outside
  pairs := (balanced_append 0 0 first second operandFirst.pairs).trans operandSecond.pairs
  single := splitFrom_both isOr first second operandFirst.outside operandFirst.single
    operandSecond.single
  whole := splitFrom_both isAnd first second operandFirst.outside operandFirst.whole
    operandSecond.whole

theorem operand_neutral (tokens : List Token) (neutral : ∀ token ∈ tokens, Neutral token) :
    Operand tokens := by
  induction tokens using List.reverseRecOn with
  | nil => decide
  | append_singleton before token inductionHypothesis =>
    simp only [List.forall_mem_append, List.forall_mem_singleton] at neutral
    exact operand_snoc before token (inductionHypothesis neutral.1) neutral.2

theorem neutral_symbol (char : Char) (noParen : char ∉ ['(', ')', '[', ']']) :
    Neutral (.symbol char) := by
  simp only [List.mem_cons, List.not_mem_nil, or_false, not_or] at noParen
  obtain ⟨notOpen, notClose, notOpenBracket, notCloseBracket⟩ := noParen
  have opens : (Token.symbol char).opens = false := by
    simp [Token.opens, Token.isKeyword, notOpen, notOpenBracket]
  have closes : (Token.symbol char).closes = false := by
    simp [Token.closes, Token.isKeyword, notClose, notCloseBracket]
  exact ⟨opens, closes, by simp [Scan.next, isOr, Token.isKeyword, opens, closes],
    by simp [isOr, Token.isKeyword], by simp [isAnd, Token.isKeyword]⟩

theorem Parameter.Plain.neutral {parameter : Parameter} (plain : parameter.Plain) :
    ∀ token ∈ parameter.tokens, Neutral token := by
  obtain ⟨name, _ | type⟩ := parameter
  · exact List.forall_mem_singleton.mpr plain.name.neutral
  · have colon := neutral_symbol ':' (by decide)
    have isType := (plain.type type rfl).neutral
    intro token member
    simp only [Parameter.tokens, List.mem_cons, List.not_mem_nil, or_false] at member
    rcases member with rfl | rfl | rfl | rfl
    · exact plain.name.neutral
    · exact colon
    · exact colon
    · exact isType

theorem operand_list (parameters : List Parameter)
    (plain : ∀ parameter ∈ parameters, parameter.Plain) : Operand (listTokens parameters) := by
  induction parameters with
  | nil => exact operand_neutral [] (by simp)
  | cons parameter rest inductionHypothesis =>
    obtain ⟨plainFirst, plainRest⟩ := List.forall_mem_cons.mp plain
    cases rest with
    | nil => exact operand_neutral _ plainFirst.neutral
    | cons next others =>
      rw [listTokens_cons, List.append_cons]
      refine operand_append _ _ (operand_snoc _ _ (operand_neutral _ plainFirst.neutral) ?_)
        (inductionHypothesis plainRest)
      exact neutral_symbol ',' (by decide)

/-- The `AND` of a `BETWEEN` separates nothing. -/
theorem splitFrom_between (separates : Scan → Token → Bool)
    (together : ∀ pending token, Neutral token → separates ⟨0, pending⟩ token = false)
    (notBetween : separates .start (.word "BETWEEN") = false)
    (notAnd : separates ⟨0, 1⟩ (.word "AND") = false) (low high : List Token)
    (neutralLow : ∀ token ∈ low, Neutral token) (neutralHigh : ∀ token ∈ high, Neutral token) :
    splitFrom separates .start [] (.word "BETWEEN" :: (low ++ .word "AND" :: high)) =
      [.word "BETWEEN" :: (low ++ .word "AND" :: high)] := by
  have opened : Scan.start.next (.word "BETWEEN") = ⟨0, 1⟩ := by decide
  have closed : Scan.next ⟨0, 1⟩ (.word "AND") = ⟨0, 0⟩ := by decide
  rw [splitFrom, notBetween, if_neg Bool.false_ne_true, opened,
    splitFrom_neutral separates 1 (together 1) _ low _ neutralLow, splitFrom, notAnd,
    if_neg Bool.false_ne_true, closed, ← List.append_nil high,
    splitFrom_neutral separates 0 (together 0) _ high [] neutralHigh, splitFrom]
  simp

theorem after_neutral (pending : Nat) (tokens : List Token)
    (neutral : ∀ token ∈ tokens, Neutral token) :
    Scan.after ⟨0, pending⟩ tokens = ⟨0, pending⟩ := by
  induction tokens with
  | nil => rfl
  | cons token rest inductionHypothesis =>
    obtain ⟨first, later⟩ := List.forall_mem_cons.mp neutral
    rw [Scan.after, List.foldl_cons, next_of_neutral pending token first]
    exact inductionHypothesis later

theorem operand_between (low high : List Token) (neutralLow : ∀ token ∈ low, Neutral token)
    (neutralHigh : ∀ token ∈ high, Neutral token) :
    Operand (.word "BETWEEN" :: (low ++ .word "AND" :: high)) where
  outside := by
    have opened : Scan.start.next (.word "BETWEEN") = ⟨0, 1⟩ := by decide
    have closed : Scan.next ⟨0, 1⟩ (.word "AND") = ⟨0, 0⟩ := by decide
    have lowAfter := after_neutral 1 low neutralLow
    rw [Scan.after] at lowAfter
    rw [EndsOutside, Scan.after, List.foldl_cons, opened, List.foldl_append, lowAfter,
      List.foldl_cons, closed]
    exact after_neutral 0 high neutralHigh
  pairs := by
    have between : (Token.word "BETWEEN").opens = false ∧ (Token.word "BETWEEN").closes = false :=
      by decide
    have and : (Token.word "AND").opens = false ∧ (Token.word "AND").closes = false := by decide
    simp only [balanced_cons, between, Bool.false_eq_true, if_false]
    refine (balanced_append 0 0 low _ (operand_neutral low neutralLow).pairs).trans ?_
    simp only [balanced_cons, and, Bool.false_eq_true, if_false]
    exact (operand_neutral high neutralHigh).pairs
  single := splitFrom_between isOr (fun _ _ neutral => neutral.notOr) (by decide) (by decide) low
    high neutralLow neutralHigh
  whole := splitFrom_between isAnd (fun pending token neutral => by
      have notAnd := neutral.notAnd
      simp only [isAnd, Scan.start, decide_true, Bool.true_and] at notAnd
      simp [isAnd, notAnd]) (by decide) (by decide) low high neutralLow neutralHigh

theorem operand_operator (operator : Operator) : Operand operator.tokens := by
  rcases operator with comparison | _ | _
  · cases comparison <;> decide
  · decide
  · decide

theorem operand_test (test : Test) (plain : test.Plain) : Operand test.tokens := by
  cases test with
  | compare operator parameter =>
    exact operand_append _ _ (operand_operator operator) (operand_neutral _ plain.neutral)
  | among negated parameters =>
    refine operand_append _ _ ?_ (operand_group _ (operand_list parameters plain.2).pairs)
    cases negated <;> decide
  | between low high => exact operand_between _ _ plain.1.neutral plain.2.neutral
  | isNull negated => cases negated <;> decide

/-! ### Atoms -/

/-- The tokens of an operand that can be compared. -/
structure Comparable (operand : List Token) : Prop extends Operand operand where
  nonempty : operand ≠ []
  positive : ∀ token ∈ operand.head?, token.isKeyword "NOT" = false
  complete : Complete operand

instance (operand : List Token) : Decidable (Complete operand) :=
  inferInstanceAs (Decidable (∀ token ∈ operand.getLast?,
    token ≠ .symbol '<' ∧ token ≠ .symbol '>' ∧ token.isKeyword "NOT" = false))

instance (operand : List Token) : Decidable (Comparable operand) :=
  decidable_of_iff (Operand operand ∧ operand ≠ [] ∧
      (∀ token ∈ operand.head?, token.isKeyword "NOT" = false) ∧ Complete operand)
    ⟨fun ⟨operand, nonempty, positive, complete⟩ => ⟨operand, nonempty, positive, complete⟩,
      fun ⟨operand, nonempty, positive, complete⟩ => ⟨operand, nonempty, positive, complete⟩⟩

/-- Tokens that close more than they open do not become balanced by what follows. -/
theorem not_balanced_append (depth : Nat) (tokens rest : List Token)
    (closes : balanced (depth + 1) tokens = true) : balanced depth (tokens ++ rest) = false := by
  induction tokens generalizing depth with
  | nil => simp [balanced] at closes
  | cons token others inductionHypothesis =>
    rw [balanced_cons] at closes
    rw [List.cons_append, balanced_cons]
    split_ifs at closes ⊢ with isOpen isClose
    · exact inductionHypothesis (depth + 1) closes
    · cases depth with
      | zero => rfl
      | succ depth => exact inductionHypothesis depth closes
    · exact inductionHypothesis depth closes

/-- What follows an operand is not inside of parentheses around it. -/
theorem unwrap_operand (operand rest : List Token) (pairs : balanced 0 operand = true)
    (nonempty : operand ≠ []) (following : rest ≠ []) : unwrap (operand ++ rest) = none := by
  cases operand with
  | nil => exact absurd rfl nonempty
  | cons token others =>
    unfold unwrap
    split
    · rename_i inside isGroup
      rw [List.cons_append, List.cons.injEq] at isGroup
      obtain ⟨rfl, rfl⟩ := isGroup
      have opens : (Token.symbol '(').opens = true := by decide
      rw [balanced_cons, if_pos opens] at pairs
      rw [if_neg]
      rintro ⟨-, closed⟩
      rw [List.dropLast_append_of_ne_nil following, not_balanced_append 0 others _ pairs] at closed
      cases closed
    · rfl

/-- What values there are: those of operands, where one without a value is `NULL`, those of
parameters, and the comparisons between them. -/
structure Interpretation (Value Argument : Type) where
  value : List Token → Option Value
  argument : String → Option Argument
  holds : Comparison → Value → Argument → Option String → Bool

section Truth

variable {Value Argument : Type} (meaning : Interpretation Value Argument)

def Interpretation.verdict (comparison : Comparison) (cell : Option Value)
    (parameter : Parameter) : Truth :=
  match cell, meaning.argument parameter.name with
  | some value, some argument =>
    if meaning.holds comparison value argument parameter.type then .yes else .no
  | _, _ => .unknown

def Interpretation.compared (operator : Operator) (cell : Option Value)
    (parameter : Parameter) : Truth :=
  match operator with
  | .plain comparison => meaning.verdict comparison cell parameter
  | .notLike => (meaning.verdict .like cell parameter).negate
  | .notIlike => (meaning.verdict .ilike cell parameter).negate

def Interpretation.truthOf (cell : Option Value) : Test → Truth
  | .compare operator parameter => meaning.compared operator cell parameter
  | .among negated parameters =>
    let found := Truth.any (parameters.map (meaning.verdict .eq cell))
    if negated then found.negate else found
  | .between low high => (meaning.verdict .gte cell low).both (meaning.verdict .lte cell high)
  | .isNull negated => if cell.isNone = negated then .no else .yes

/-- The row of an interpretation: an atom is read from its end. -/
def Interpretation.row : Row := fun tokens =>
  match readTest tokens.reverse with
  | some (test, operand) => meaning.truthOf (meaning.value operand.reverse) test
  | none => .unknown

theorem verdict_none (comparison : Comparison) (parameter : Parameter) :
    meaning.verdict comparison none parameter = .unknown := rfl

theorem verdict_some (comparison : Comparison) (value : Value) (parameter : Parameter)
    (argument : Argument) (bound : meaning.argument parameter.name = some argument) :
    meaning.verdict comparison (some value) parameter =
      if meaning.holds comparison value argument parameter.type then .yes else .no := by
  simp only [Interpretation.verdict, bound]

theorem test_ne_nil (test : Test) : test.tokens ≠ [] := by
  cases test with
  | compare operator parameter =>
    obtain ⟨token, rest, reversed, -, -⟩ := operator_reverse operator
    intro empty
    rw [Test.tokens, List.append_eq_nil_iff] at empty
    rw [empty.1] at reversed
    cases reversed
  | among negated parameters => simp [Test.tokens, group]
  | between low high => simp [Test.tokens]
  | isNull negated => cases negated <;> simp [Test.tokens]

/-- The tokens of a test behind an operand have the truth of the test. -/
theorem truth_test (operand : List Token) (comparable : Comparable operand) (test : Test)
    (plain : test.Plain) :
    truth meaning.row (operand ++ test.tokens) =
      meaning.truthOf (meaning.value operand) test := by
  have whole := operand_append _ _ comparable.toOperand (operand_test test plain)
  have bare := unwrap_operand operand test.tokens comparable.pairs comparable.nonempty
    (test_ne_nil test)
  have read : meaning.row (operand ++ test.tokens) =
      meaning.truthOf (meaning.value operand) test := by
    rw [Interpretation.row, readTest_tokens test plain operand comparable.complete]
    simp
  rw [truth_operand _ _ whole, ← read, primary]
  obtain ⟨token, rest, rfl⟩ := List.exists_cons_of_ne_nil comparable.nonempty
  have positive := comparable.positive token rfl
  rw [List.cons_append] at bare ⊢
  simp [primaryWith, positive, bare]

end Truth

/-! ### Texts -/

def Operator.text : Operator → String
  | .plain .eq => "="
  | .plain .ne => "<>"
  | .plain .gt => ">"
  | .plain .gte => ">="
  | .plain .lt => "<"
  | .plain .lte => "<="
  | .plain .like => "LIKE"
  | .plain .ilike => "ILIKE"
  | .notLike => "NOT LIKE"
  | .notIlike => "NOT ILIKE"

def Parameter.text (parameter : Parameter) : String :=
  match parameter.type with
  | none => parameter.name
  | some type => parameter.name ++ "::" ++ type

/-- The keyword behind the operand, and what follows it. -/
def Test.words : Test → String × String
  | .compare operator parameter => (operator.text, parameter.text)
  | .among negated parameters =>
    (if negated then "NOT IN" else "IN", "(" ++ join ", " (parameters.map Parameter.text) ++ ")")
  | .between low high => ("BETWEEN", low.text ++ " AND " ++ high.text)
  | .isNull negated => ("IS", if negated then "NOT NULL" else "NULL")

def Test.text (operand : String) (test : Test) : String :=
  operand ++ (" " ++ test.words.1 ++ " ") ++ test.words.2

theorem stepPlain_symbol (char : Char) (symbol : char ∈ [':', ',']) (word : List Char)
    (escaped : Bool) : stepPlain word escaped char = (flush word ++ [.symbol char], .start) := by
  simp only [List.mem_cons, List.not_mem_nil, or_false] at symbol
  rcases symbol with rfl | rfl
  · have visible : isBlank ':' = false := by decide
    have noWord : isWordChar ':' = false := by decide
    simp [stepPlain, visible, noWord]
  · have visible : isBlank ',' = false := by decide
    have noWord : isWordChar ',' = false := by decide
    simp [stepPlain, visible, noWord]

theorem reads_spaced (first keyword second : String) (tokens keywords others : List Token)
    (readsFirst : Reads first tokens) (readsKeyword : lex keyword = keywords)
    (separator : IsSeparator keyword) (readsSecond : Reads second others) :
    Reads (first ++ (" " ++ keyword ++ " ") ++ second) (tokens ++ (keywords ++ others)) := by
  refine ⟨?_, endsPlain_spaced first keyword second readsFirst.endsPlain separator
    readsSecond.endsPlain⟩
  rw [lex_spaced first keyword second readsFirst.endsPlain separator, readsFirst.lex,
    readsKeyword, readsSecond.lex]

theorem reads_stop (text first second : String) (char : Char)
    (tokens symbols others : List Token)
    (chars : text.toList = first.toList ++ char :: second.toList)
    (readsFirst : Reads first tokens) (readsSecond : Reads second others) (behind : Bool → Lexer)
    (stops : ∀ word escaped, stepPlain word escaped char = (flush word ++ symbols, behind escaped))
    (anew : behind (Lexer.start.after first.toList).escaped = .start) :
    Reads text (tokens ++ (symbols ++ others)) := by
  constructor
  · rw [lex, chars, lexFrom_stop _ _ _ _ _ _ stops readsFirst.endsPlain, anew]
    exact congrArg₂ _ readsFirst.lex (congrArg _ readsSecond.lex)
  · rw [EndsPlain, chars, after_stop _ _ _ _ _ _ stops readsFirst.endsPlain, anew]
    exact readsSecond.endsPlain

theorem reads_empty : Reads "" [] := ⟨rfl, rfl⟩

theorem reads_parameter (parameter : Parameter) (plain : parameter.Plain) :
    Reads parameter.text parameter.tokens := by
  obtain ⟨name, _ | type⟩ := parameter
  · exact plain.name.reads
  · have colon := stepPlain_symbol ':' (by decide)
    have readsType := reads_stop (":" ++ type) "" type ':' [] [.symbol ':'] _ (by simp) reads_empty
      (plain.type type rfl).reads _ colon rfl
    exact reads_stop _ name (":" ++ type) ':' _ [.symbol ':'] _ (by simp [Parameter.text])
      plain.name.reads readsType _ colon rfl

theorem reads_list (parameters : List Parameter)
    (plain : ∀ parameter ∈ parameters, parameter.Plain) :
    Reads (join ", " (parameters.map Parameter.text)) (listTokens parameters) := by
  induction parameters with
  | nil => exact reads_empty
  | cons parameter rest inductionHypothesis =>
    obtain ⟨plainFirst, plainRest⟩ := List.forall_mem_cons.mp plain
    have readsFirst := reads_parameter parameter plainFirst
    cases rest with
    | nil => exact readsFirst
    | cons next others =>
      have readsRest := reads_stop (" " ++ join ", " ((next :: others).map Parameter.text)) "" _ ' '
        [] [] _ (by simp) reads_empty (inductionHypothesis plainRest) _ stepPlain_space rfl
      exact reads_stop _ parameter.text _ ',' _ [.symbol ','] _ (by simp [join]) readsFirst
        readsRest _ (stepPlain_symbol ',' (by decide)) rfl

theorem reads_parens (text : String) (tokens : List Token) (reads : Reads text tokens) :
    Reads ("(" ++ text ++ ")") (group tokens) :=
  ⟨by rw [lex_parens text reads.endsPlain, reads.lex, group], endsPlain_parens text reads.endsPlain⟩

theorem lex_operator (operator : Operator) :
    lex operator.text = operator.tokens ∧ IsSeparator operator.text := by
  rcases operator with comparison | _ | _
  · cases comparison <;> exact ⟨by decide, by decide⟩
  · exact ⟨by decide, by decide⟩
  · exact ⟨by decide, by decide⟩

/-- The text of a test is read as its tokens. -/
theorem reads_test (operand : String) (plainEnd : EndsPlain operand) (test : Test)
    (plain : test.Plain) : Reads (test.text operand) (lex operand ++ test.tokens) := by
  have readsOperand : Reads operand (lex operand) := ⟨rfl, plainEnd⟩
  cases test with
  | compare operator parameter =>
    obtain ⟨readsOperator, separator⟩ := lex_operator operator
    exact reads_spaced _ _ _ _ _ _ readsOperand readsOperator separator
      (reads_parameter parameter plain)
  | among negated parameters =>
    obtain ⟨readsIn, separator⟩ : lex (if negated then "NOT IN" else "IN") =
        (if negated then [.word "NOT", .word "IN"] else [.word "IN"]) ∧
          IsSeparator (if negated then "NOT IN" else "IN") := by
      cases negated <;> exact ⟨by decide, by decide⟩
    exact reads_spaced _ _ _ _ _ _ readsOperand readsIn separator
      (reads_parens _ _ (reads_list parameters plain.2))
  | between low high =>
    have readsBounds : Reads (low.text ++ (" " ++ "AND" ++ " ") ++ high.text)
        (low.tokens ++ ([.word "AND"] ++ high.tokens)) :=
      reads_spaced low.text "AND" high.text _ _ _ (reads_parameter low plain.1) (by decide)
        (by decide) (reads_parameter high plain.2)
    exact reads_spaced _ "BETWEEN" _ _ [.word "BETWEEN"] _ readsOperand (by decide) (by decide)
      readsBounds
  | isNull negated =>
    cases negated with
    | false =>
      exact reads_spaced _ _ _ _ [.word "IS"] [.word "NULL"] readsOperand (by decide) (by decide)
        ⟨by decide, by decide⟩
    | true =>
      exact reads_spaced _ _ _ _ [.word "IS"] [.word "NOT", .word "NULL"] readsOperand
        (by decide) (by decide) ⟨by decide, by decide⟩

/-- The text of a column that can be compared. -/
structure IsColumn (column : String) : Prop where
  endsPlain : EndsPlain column
  comparable : Comparable (lex column)

instance (column : String) : Decidable (IsColumn column) :=
  decidable_of_iff (EndsPlain column ∧ Comparable (lex column))
    ⟨fun ⟨endsPlain, comparable⟩ => ⟨endsPlain, comparable⟩,
      fun ⟨endsPlain, comparable⟩ => ⟨endsPlain, comparable⟩⟩

theorem single_of_operand (tokens : List Token) (operand : Operand tokens) :
    SingleAlternative tokens := by
  have split := operand.single
  rw [alternatives_eq] at split
  exact (List.append_eq_singleton_iff.mp split |>.resolve_right (by simp)).1

section Columns

variable {Value Argument : Type} (meaning : Interpretation Value Argument) (column : String)
  (isColumn : IsColumn column) (test : Test) (plain : test.Plain)

include isColumn plain

/-- A row satisfies the text of a test when the test is true of the column. -/
theorem satisfies_test : Satisfies meaning.row (test.text column) ↔
    meaning.truthOf (meaning.value (lex column)) test = .yes := by
  rw [Satisfies, (reads_test column isColumn.endsPlain test plain).lex,
    truth_test meaning _ isColumn.comparable test plain]

theorem wellFormed_test :
    WellFormed (test.text column) ∧ SingleAlternative (lex (test.text column)) := by
  have reads := reads_test column isColumn.endsPlain test plain
  have operand := operand_append _ _ isColumn.comparable.toOperand (operand_test test plain)
  rw [← reads.lex] at operand
  exact ⟨⟨reads.endsPlain, operand.outside⟩, single_of_operand _ operand⟩

end Columns

end SharedGo.Sql
