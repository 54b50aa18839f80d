/-
This file models `fmt.Sprintf` with one string operand, on any format text. A
percent sign starts a directive: flags, an argument index in brackets, a width, a
precision and a verb. A directive that does not fit the operand does not fail; it
leaves a note in the result. The lemmas are about formats with one plain
directive, where the result is the format with the operand in its place.
-/

import SharedGo.Dynamic
import Mathlib.Data.List.TakeWhile

namespace SharedGo.Fmt

open SharedGo

/-- The parts of formatting that rest on Unicode tables and on the shortest decimal that denotes
a float: `%q` with its plus and sharp flags, and `%v` of a float. -/
class Formatting where
  quote : (plus sharp : Bool) → String → String
  formatFloat : Float64 → String

/-- The formatting of printable ASCII texts and of whole numbers. -/
@[reducible] def asciiFormatting : Formatting where
  quote _ _ text := "\"" ++ String.ofList (text.toList.flatMap fun char =>
    if char = '"' ∨ char = '\\' then ['\\', char] else [char]) ++ "\""
  formatFloat
    | .finite value => toString value.num
    | .positiveInfinity => "+Inf"
    | .negativeInfinity => "-Inf"
    | .notANumber => "NaN"

/-! ### Directives -/

structure Flags where
  sharp : Bool
  zero : Bool
  plus : Bool
  minus : Bool
  space : Bool
  deriving DecidableEq, Repr

/-- What a directive asks for before its verb. -/
structure Spec where
  flags : Flags
  width : Option Nat
  precision : Option Nat
  deriving DecidableEq, Repr

/-- Where the reader of a directive stands: the rest of the format, the operand that is next,
whether any directive had an argument index, whether this one's is in range and was just read,
and the notes so far. -/
structure Cursor where
  rest : List Char
  argNum : Nat
  reordered : Bool
  good : Bool
  afterIndex : Bool
  notes : List Char
  deriving DecidableEq, Repr

def readFlags : Flags → List Char → Flags × List Char
  | flags, '#' :: rest => readFlags { flags with sharp := true } rest
  | flags, '0' :: rest => readFlags { flags with zero := true } rest
  | flags, '+' :: rest => readFlags { flags with plus := true } rest
  | flags, '-' :: rest => readFlags { flags with minus := true } rest
  | flags, ' ' :: rest => readFlags { flags with space := true } rest
  | flags, rest => (flags, rest)

def digitsValue (digits : List Char) : Nat :=
  digits.foldl (fun value digit => value * 10 + (digit.toNat - '0'.toNat)) 0

/-- `parsenum`: a number that is too large takes the rest of the text with it. -/
def parseNum (text : List Char) : Option Nat × List Char :=
  let digits := text.takeWhile Char.isDigit
  if digits = [] then (none, text)
  else if digitsValue digits / 10 > 1000000 then (none, [])
  else (some (digitsValue digits), text.dropWhile Char.isDigit)

/-- The number in brackets, when there is nothing else in them. -/
def bracketNumber (inside : List Char) : Option Nat :=
  match parseNum inside with
  | (some number, []) => some number
  | _ => none

/-- An argument index, if one stands here; the only operand has the index one. -/
def argNumber (cursor : Cursor) : Cursor :=
  match cursor.rest with
  | '[' :: rest =>
    let closed := rest.dropWhile (· ≠ ']')
    if rest.length < 2 ∨ closed = [] then
      { cursor with rest, reordered := true, good := false, afterIndex := false }
    else
      match bracketNumber (rest.takeWhile (· ≠ ']')) with
      | some 1 =>
        { cursor with rest := closed.tail, argNum := 0, reordered := true, afterIndex := true }
      | some _ =>
        { cursor with rest := closed.tail, reordered := true, good := false, afterIndex := true }
      | none =>
        { cursor with rest := closed.tail, reordered := true, good := false, afterIndex := false }
  | _ => { cursor with afterIndex := false }

/-- A star asks for a number from the operands, and the operand is a text. -/
def starOperand (cursor : Cursor) (rest : List Char) (note : String) : Cursor :=
  { cursor with
    rest, argNum := min 1 (cursor.argNum + 1), afterIndex := false
    notes := cursor.notes ++ note.toList }

def readWidth (cursor : Cursor) : Option Nat × Cursor :=
  match cursor.rest with
  | '*' :: rest => (none, starOperand cursor rest "%!(BADWIDTH)")
  | _ =>
    let (width, rest) := parseNum cursor.rest
    (width, { cursor with rest, good := cursor.good && !(cursor.afterIndex && width.isSome) })

/-- A point without a number is the precision zero. -/
def readPrecision (cursor : Cursor) : Option Nat × Cursor :=
  match cursor.rest with
  | '.' :: rest =>
    let cursor := argNumber { cursor with rest, good := cursor.good && !cursor.afterIndex }
    match cursor.rest with
    | '*' :: rest => (none, starOperand cursor rest "%!(BADPREC)")
    | _ =>
      let (precision, rest) := parseNum cursor.rest
      (some (precision.getD 0), { cursor with rest })
  | _ => (none, cursor)

/-! ### Printing the operand -/

/-- Fills up to the width, with zeros only on the left. -/
def padString (spec : Spec) (text : List Char) : List Char :=
  let missing := (spec.width.getD 0) - text.length
  if spec.flags.minus then text ++ List.replicate missing ' '
  else List.replicate missing (if spec.flags.zero then '0' else ' ') ++ text

/-- Cuts to the precision. -/
def truncate (spec : Spec) (text : List Char) : List Char :=
  match spec.precision with
  | none => text
  | some precision => text.take precision

def hexByte (upper : Bool) (byte : UInt8) : List Char :=
  let digits := [byte.toNat / 16, byte.toNat % 16].map Nat.digitChar
  if upper then digits.map Char.toUpper else digits

/-- `%x` and `%X`: the bytes of the text. -/
def printHex (spec : Spec) (upper : Bool) (operand : String) : List Char :=
  let bytes := match spec.precision with
    | none => operand.toUTF8.toList
    | some precision => operand.toUTF8.toList.take precision
  let sign := if spec.flags.sharp then (if upper then ['0', 'X'] else ['0', 'x']) else []
  let body :=
    if spec.flags.space then
      List.intercalate [' '] (bytes.map fun byte => sign ++ hexByte upper byte)
    else if bytes = [] then [] else sign ++ bytes.flatMap (hexByte upper)
  padString spec body

section Printing

variable [Formatting]

/-- A verb that does not fit prints the operand after its type. -/
def badVerb (verb : Char) (shown : List Char) : List Char :=
  "%!".toList ++ verb :: "(string=".toList ++ shown ++ [')']

def printOperand (spec : Spec) (verb : Char) (operand : String) : List Char :=
  let plain := padString spec (truncate spec operand.toList)
  let quoted (plus sharp : Bool) := padString spec
    (Formatting.quote plus sharp (String.ofList (truncate spec operand.toList))).toList
  match verb with
  | 's' => plain
  | 'v' => if spec.flags.sharp then quoted false false else plain
  | 'x' => printHex spec false operand
  | 'X' => printHex spec true operand
  | 'q' => quoted spec.flags.plus spec.flags.sharp
  | 'T' => padString spec (truncate spec "string".toList)
  | 'w' => badVerb 'w' (if spec.flags.sharp then quoted false false else plain)
  | _ => badVerb verb plain

/-- What a verb prints, and the operand that is next. -/
def printVerb (spec : Spec) (cursor : Cursor) (verb : Char) (operand : String) :
    List Char × Nat :=
  if verb = '%' then (['%'], cursor.argNum)
  else if !cursor.good then ("%!".toList ++ verb :: "(BADINDEX)".toList, cursor.argNum)
  else if cursor.argNum ≥ 1 then ("%!".toList ++ verb :: "(MISSING)".toList, cursor.argNum)
  else (printOperand spec verb operand, cursor.argNum + 1)

/-- A directive after its percent sign: what it prints, the rest of the format, the operand that
is next and whether one was reordered. -/
def printDirective (operand : String) (format : List Char) (argNum : Nat) (reordered : Bool) :
    List Char × List Char × Nat × Bool :=
  let (flags, rest) := readFlags ⟨false, false, false, false, false⟩ format
  let cursor := argNumber ⟨rest, argNum, reordered, true, false, []⟩
  let (width, cursor) := readWidth cursor
  let (precision, cursor) := readPrecision cursor
  let cursor := if cursor.afterIndex then cursor else argNumber cursor
  match cursor.rest with
  | [] => (cursor.notes ++ "%!(NOVERB)".toList, [], cursor.argNum, cursor.reordered)
  | verb :: rest =>
    let (printed, argNum) := printVerb ⟨flags, width, precision⟩ cursor verb operand
    (cursor.notes ++ printed, rest, argNum, cursor.reordered)

/-- An operand that no directive used is noted at the end. -/
def unused (operand : String) (argNum : Nat) (reordered : Bool) : List Char :=
  if !reordered && argNum < 1 then "%!(EXTRA string=".toList ++ operand.toList ++ [')'] else []

/-- The text up to each directive and what the directive prints; every directive takes at least
its percent sign, so the length of the format is enough fuel. -/
def sprintfGo (operand : String) : Nat → List Char → Nat → Bool → List Char
  | 0, _, _, _ => []
  | fuel + 1, format, argNum, reordered =>
    format.takeWhile (· ≠ '%') ++
      match format.dropWhile (· ≠ '%') with
      | [] => unused operand argNum reordered
      | _ :: rest =>
        let (printed, rest, argNum, reordered) := printDirective operand rest argNum reordered
        printed ++ sprintfGo operand fuel rest argNum reordered

/-- `fmt.Sprintf` with one string operand. -/
def sprintf (format operand : String) : String :=
  String.ofList (sprintfGo operand (format.length + 1) format.toList 0 false)

/-! ### One plain directive -/

theorem sprintfGo_text (operand : String) (fuel : Nat) (text : List Char) (reordered : Bool)
    (plain : '%' ∉ text) : sprintfGo operand (fuel + 1) text 1 reordered = text := by
  have all : ∀ char ∈ text, decide (char ≠ '%') = true := by
    intro char member
    simp only [decide_eq_true_eq]
    rintro rfl
    exact plain member
  rw [sprintfGo, List.takeWhile_eq_self_iff.mpr all, List.dropWhile_eq_nil_iff.mpr all]
  simp [unused]

theorem printDirective_s (operand : String) (rest : List Char) (reordered : Bool) :
    printDirective operand ('s' :: rest) 0 reordered = (operand.toList, rest, 1, reordered) := by
  simp [printDirective, readFlags, argNumber, readWidth, parseNum, readPrecision, printVerb,
    printOperand, padString, truncate]

/-- In a format whose only percent sign is that of `%s`, the operand stands in its place. -/
theorem sprintf_plain (before after operand : String) (plainBefore : '%' ∉ before.toList)
    (plainAfter : '%' ∉ after.toList) :
    sprintf (before ++ "%s" ++ after) operand = before ++ operand ++ after := by
  have chars : (before ++ "%s" ++ after).toList =
      before.toList ++ '%' :: 's' :: after.toList := by simp
  have length : (before ++ "%s" ++ after).length = before.length + (after.length + 1) + 1 := by
    simp only [String.length_append]
    have two : "%s".length = 2 := rfl
    omega
  have all : ∀ char ∈ before.toList, decide (char ≠ '%') = true := by
    intro char member
    simp only [decide_eq_true_eq]
    rintro rfl
    exact plainBefore member
  rw [← String.toList_inj, sprintf, String.toList_ofList, chars, length, sprintfGo,
    List.takeWhile_append_of_pos all, List.dropWhile_append_of_pos all]
  simp only [List.takeWhile_cons, List.dropWhile_cons, ne_eq, not_true_eq_false, decide_false,
    Bool.false_eq_true, if_false, List.append_nil, printDirective_s]
  rw [← Nat.add_assoc, sprintfGo_text operand _ _ _ plainAfter]
  simp

end Printing

end SharedGo.Fmt
