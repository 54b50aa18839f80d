/-
This file gives the meaning of shell patterns as `path.Match` reads them, on
texts of characters. A pattern is scanned into tokens; the tokens between stars
are chunks, each character of a chunk stands for one character of the name, and
a star skips characters up to the next slash until its chunk fits. A malformed
pattern matches nothing and is reported, whatever the name is.

This is the documented reading, by characters. The implementation moves a star over
the bytes of the name, so that a question mark or a class after a star may also stand
for the last bytes of a character that takes several; on names of ASCII characters
the two are the same.
-/

import Mathlib.Data.List.Basic

namespace SharedGo.Path

/-! ### Tokens -/

/-- What stands for one character of the name. -/
inductive Element where
  | any
  | literal (char : Char)
  | charClass (negated : Bool) (ranges : List (Char × Char))
  deriving DecidableEq, Repr

/-- A question mark does not stand for a slash; a class may. -/
def Element.fits (char : Char) : Element → Bool
  | .any => char ≠ '/'
  | .literal expected => char = expected
  | .charClass negated ranges =>
    (ranges.any fun (low, high) => low ≤ char && char ≤ high) != negated

inductive Token where
  | star
  | element (element : Element)
  deriving DecidableEq, Repr

/-- Where the scanner stands: outside a class, after a backslash there, or inside a class that
has its ranges so far. -/
inductive Scan where
  | plain
  | escaped
  | opened
  | low (negated : Bool) (ranges : List (Char × Char))
  | lowEscaped (negated : Bool) (ranges : List (Char × Char))
  | afterLow (negated : Bool) (ranges : List (Char × Char)) (low : Char)
  | high (negated : Bool) (ranges : List (Char × Char)) (low : Char)
  | highEscaped (negated : Bool) (ranges : List (Char × Char)) (low : Char)

/-- A character where a range may start: a bracket closes a class that has a range, and neither
a bracket nor a dash starts one. -/
def scanLow (negated : Bool) (ranges : List (Char × Char)) (char : Char) :
    Option (Scan × List Token) :=
  if char = ']' ∧ ranges ≠ [] then some (.plain, [.element (.charClass negated ranges.reverse)])
  else if char = '-' ∨ char = ']' then none
  else if char = '\\' then some (.lowEscaped negated ranges, [])
  else some (.afterLow negated ranges char, [])

/-- One character of the pattern: the scanner's next position and the token it completes. -/
def scanChar (char : Char) : Scan → Option (Scan × List Token)
  | .plain =>
    if char = '*' then some (.plain, [.star])
    else if char = '?' then some (.plain, [.element .any])
    else if char = '\\' then some (.escaped, [])
    else if char = '[' then some (.opened, [])
    else some (.plain, [.element (.literal char)])
  | .escaped => some (.plain, [.element (.literal char)])
  | .opened => if char = '^' then some (.low true [], []) else scanLow false [] char
  | .low negated ranges => scanLow negated ranges char
  | .lowEscaped negated ranges => some (.afterLow negated ranges char, [])
  | .afterLow negated ranges low =>
    if char = '-' then some (.high negated ranges low, [])
    else scanLow negated ((low, low) :: ranges) char
  | .high negated ranges low =>
    if char = '-' ∨ char = ']' then none
    else if char = '\\' then some (.highEscaped negated ranges low, [])
    else some (.low negated ((low, char) :: ranges), [])
  | .highEscaped negated ranges low => some (.low negated ((low, char) :: ranges), [])

/-- The tokens of a pattern; there are none when it ends inside a class or after a
backslash. -/
def scan : Scan → List Char → Option (List Token)
  | .plain, [] => some []
  | _, [] => none
  | position, char :: rest =>
    match scanChar char position with
    | none => none
    | some (next, tokens) => (scan next rest).map (tokens ++ ·)

/-! ### Chunks -/

/-- The elements up to the next star, and whether a star stands before them. -/
structure Chunk where
  star : Bool
  elements : List Element
  deriving DecidableEq, Repr

/-- Adds a token in front of the chunks that follow it; stars in a row are one star. -/
def addToken : Token → List Chunk → List Chunk
  | .star, [] => [⟨true, []⟩]
  | .star, chunk :: rest => ⟨true, chunk.elements⟩ :: rest
  | .element element, ⟨false, elements⟩ :: rest => ⟨false, element :: elements⟩ :: rest
  | .element element, chunks => ⟨false, [element]⟩ :: chunks

def chunksOf (tokens : List Token) : List Chunk := tokens.foldr addToken []

/-- What is left of the name when the elements fit its start. -/
def matchChunk : List Element → List Char → Option (List Char)
  | [], name => some name
  | _ :: _, [] => none
  | element :: elements, char :: name =>
    if element.fits char then matchChunk elements name else none

/-- What is left of the name after the first place where the chunk fits; the last chunk has to
fit at the end of the name, and only a star skips characters, whole ones as documented. -/
def placeChunk (star last : Bool) (elements : List Element) : List Char → Option (List Char)
  | [] => matchChunk elements []
  | char :: name =>
    match matchChunk elements (char :: name) with
    | some rest =>
      if rest.isEmpty || !last then some rest
      else if star && char ≠ '/' then placeChunk star last elements name
      else none
    | none => if star && char ≠ '/' then placeChunk star last elements name else none

/-- A star at the end takes what is left of the name, unless it holds a slash. -/
def matchChunks : List Chunk → List Char → Bool
  | [], name => name.isEmpty
  | chunk :: rest, name =>
    if chunk.star && chunk.elements.isEmpty then !name.contains '/'
    else
      match placeChunk chunk.star rest.isEmpty chunk.elements name with
      | some left => matchChunks rest left
      | none => false

/-- `path.Match`; a malformed pattern has no answer. -/
def matchPath (pattern name : String) : Option Bool :=
  (scan .plain pattern.toList).map fun tokens => matchChunks (chunksOf tokens) name.toList

example : matchPath "reports:[a-c]*x?" "reports:bxxy" = some true := by decide

example : matchPath "a*/b" "axx/b" = some true ∧ matchPath "*b" "a/b" = some false ∧
    matchPath "[a" "a" = none := by decide

/-! ### Literal patterns -/

/-- The character stands for itself in a pattern. -/
def isLiteral (char : Char) : Bool := char ≠ '*' && char ≠ '?' && char ≠ '[' && char ≠ '\\'

theorem scan_literal (char : Char) (rest : List Char) (plain : isLiteral char = true) :
    scan .plain (char :: rest) =
      (scan .plain rest).map (.element (.literal char) :: ·) := by
  simp only [isLiteral, Bool.and_eq_true, decide_eq_true_eq] at plain
  obtain ⟨⟨⟨star, mark⟩, bracket⟩, backslash⟩ := plain
  have char : scanChar char .plain = some (.plain, [.element (.literal char)]) := by
    simp [scanChar, star, mark, bracket, backslash]
  rw [scan, char]
  rfl

/-- Literal characters are scanned one by one, whatever comes after them. -/
theorem scan_literals (text rest : List Char) (plain : ∀ char ∈ text, isLiteral char = true) :
    scan .plain (text ++ rest) =
      (scan .plain rest).map (text.map (fun char => .element (.literal char)) ++ ·) := by
  induction text with
  | nil => simp
  | cons char text inductionHypothesis =>
    rw [List.forall_mem_cons] at plain
    rw [List.cons_append, scan_literal char _ plain.1, inductionHypothesis plain.2,
      Option.map_map]
    rfl

/-- Elements in front of other chunks make up one chunk, unless the first of those has no star. -/
theorem chunksOf_elements (element : Element) (elements : List Element) (tokens : List Token)
    (starred : ∀ chunk rest, chunksOf tokens = chunk :: rest → chunk.star = true) :
    chunksOf ((element :: elements).map .element ++ tokens) =
      ⟨false, element :: elements⟩ :: chunksOf tokens := by
  induction elements generalizing element with
  | nil =>
    show addToken (.element element) (chunksOf tokens) = _
    cases chunks : chunksOf tokens with
    | nil => rfl
    | cons chunk rest =>
      obtain ⟨star, others⟩ := chunk
      obtain rfl : star = true := starred _ _ chunks
      rfl
  | cons next elements inductionHypothesis =>
    show addToken (.element element)
      (chunksOf ((next :: elements).map .element ++ tokens)) = _
    rw [inductionHypothesis next]
    rfl

/-- Literals fit a name that starts with them. -/
theorem matchChunk_literals (text name left : List Char) :
    matchChunk (text.map .literal) name = some left ↔ name = text ++ left := by
  induction text generalizing name with
  | nil => simp [matchChunk]
  | cons char text inductionHypothesis =>
    cases name with
    | nil => simp [matchChunk]
    | cons first name =>
      rw [List.map_cons, matchChunk, List.cons_append, List.cons.injEq, ← inductionHypothesis]
      by_cases same : first = char
      · simp [Element.fits, same]
      · simp [Element.fits, same]

theorem placeChunk_literals (last : Bool) (text name left : List Char) :
    placeChunk false last (text.map .literal) name = some left ↔
      name = text ++ left ∧ (last = true → left = []) := by
  cases name with
  | nil =>
    rw [placeChunk, matchChunk_literals]
    constructor
    · intro split
      exact ⟨split, fun _ => (List.append_eq_nil_iff.mp split.symm).2⟩
    · exact fun ⟨split, _⟩ => split
  | cons first name =>
    rw [placeChunk]
    cases fits : matchChunk (text.map .literal) (first :: name) with
    | none =>
      have apart : first :: name ≠ text ++ left := by
        intro split
        rw [← matchChunk_literals, fits] at split
        cases split
      simp [apart]
    | some rest =>
      have split := (matchChunk_literals text _ rest).mp fits
      rw [split]
      cases last with
      | false => simp
      | true =>
        cases rest with
        | nil => simp [eq_comm]
        | cons next rest =>
          simp only [List.isEmpty_cons, Bool.not_true, Bool.or_self, Bool.false_eq_true, if_false,
            Bool.false_and, List.append_cancel_left_eq, forall_const, reduceCtorEq, false_iff,
            not_and]
          rintro rfl
          exact List.cons_ne_nil _ _

/-- The chunks of literals and tokens after them. -/
theorem chunksOf_literals (text : List Char) (tokens : List Token)
    (starred : ∀ chunk rest, chunksOf tokens = chunk :: rest → chunk.star = true) :
    chunksOf (text.map (fun char => .element (.literal char)) ++ tokens) =
      if text = [] then chunksOf tokens else ⟨false, text.map .literal⟩ :: chunksOf tokens := by
  cases text with
  | nil => rfl
  | cons char text =>
    have elements := chunksOf_elements (.literal char) (text.map .literal) tokens starred
    rw [← List.map_cons, List.map_map] at elements
    exact elements

/-- The first chunk of literals takes them off the name. -/
theorem matchChunks_literals (text name : List Char) (chunks : List Chunk) :
    matchChunks (⟨false, text.map .literal⟩ :: chunks) name = true ↔
      ∃ left, name = text ++ left ∧ (chunks = [] → left = []) ∧
        matchChunks chunks left = true := by
  rw [matchChunks]
  simp only [Bool.false_and, Bool.false_eq_true, if_false]
  cases placed : placeChunk false chunks.isEmpty (text.map .literal) name with
  | none =>
    simp only [Bool.false_eq_true, false_iff, not_exists, not_and]
    intro left split ends
    have fits := (placeChunk_literals chunks.isEmpty text name left).mpr
      ⟨split, fun empty => ends (List.isEmpty_iff.mp empty)⟩
    rw [placed] at fits
    cases fits
  | some left =>
    obtain ⟨split, ends⟩ := (placeChunk_literals chunks.isEmpty text name left).mp placed
    constructor
    · exact fun matched => ⟨left, split, fun empty => ends (List.isEmpty_iff.mpr empty), matched⟩
    · rintro ⟨other, otherSplit, _, matched⟩
      rw [split, List.append_cancel_left_eq] at otherSplit
      rwa [otherSplit]

/-- A pattern of literals matches the name that it is. -/
theorem matchPath_literal (literal name : String)
    (plain : ∀ char ∈ literal.toList, isLiteral char = true) :
    ∃ matched, matchPath literal name = some matched ∧ (matched = true ↔ name = literal) := by
  have scanned := scan_literals literal.toList [] plain
  rw [List.append_nil] at scanned
  refine ⟨_, by rw [matchPath, scanned, scan, Option.map_some, Option.map_some], ?_⟩
  rw [chunksOf_literals _ _ (by simp [chunksOf]), ← String.toList_inj]
  split
  · rename_i empty
    simp [chunksOf, matchChunks, empty]
  · rw [matchChunks_literals]
    simp [chunksOf, matchChunks]

/-- A star after literals takes what is left of the name, up to a slash. -/
theorem matchPath_star (literal name : String)
    (plain : ∀ char ∈ literal.toList, isLiteral char = true) :
    ∃ matched, matchPath (literal ++ "*") name = some matched ∧
      (matched = true ↔ ∃ rest, name = literal ++ rest ∧ '/' ∉ rest.toList) := by
  have scanned := scan_literals literal.toList ['*'] plain
  have star : scan .plain ['*'] = some [.star] := rfl
  have chars : (literal ++ "*").toList = literal.toList ++ ['*'] := by simp
  refine ⟨_, by rw [matchPath, chars, scanned, star, Option.map_some, Option.map_some], ?_⟩
  have texts : (∃ rest, name.toList = literal.toList ++ rest ∧ '/' ∉ rest) ↔
      ∃ rest, name = literal ++ rest ∧ '/' ∉ rest.toList := by
    constructor
    · rintro ⟨rest, split, noSlash⟩
      refine ⟨String.ofList rest, ?_, by rwa [String.toList_ofList]⟩
      rw [← String.toList_inj, split, String.toList_append, String.toList_ofList]
    · rintro ⟨rest, rfl, noSlash⟩
      exact ⟨rest.toList, String.toList_append, noSlash⟩
  rw [chunksOf_literals _ _ (by simp [chunksOf, addToken]), ← texts]
  split
  · rename_i empty
    simp [chunksOf, addToken, matchChunks, empty]
  · rw [matchChunks_literals]
    simp [chunksOf, addToken, matchChunks]

end SharedGo.Path
