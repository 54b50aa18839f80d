/-
This file proves when `fmt.Sprintf` fills a format in literally, with the operand
in the place of one `%s` and every other character as it is: exactly when the
format has no other percent sign.

Another percent sign starts a directive, and what the directive prints is never
what it was. The difference does not have to stay where it is, since a later
directive might print what an earlier one left out. So the proof compares what is
still to be printed with what is still to be read. If the printer is behind, it
stays behind: it would have to print a percent sign that some directive starts
with, and what directives print has an exclamation mark after a percent sign. If
it is ahead, it stays ahead: what it printed too much has to be read next, and
reading that prints at least as much again.
-/

import Mathlib.Data.List.TakeWhile
import SharedGo.Sprintf

namespace SharedGo.Fmt

open SharedGo

/-! ### Marked texts -/

/-- A percent sign that is not at the end has an exclamation mark after it. -/
def Marked (text : List Char) : Prop :=
  ∀ before next after, text = before ++ '%' :: next :: after → next = '!'

theorem marked_of_not_mem (text : List Char) (plain : '%' ∉ text) : Marked text := by
  rintro before next after rfl
  exact absurd (by simp) plain

theorem marked_singleton : Marked ['%'] := by
  rintro (_ | ⟨char, before⟩) next after split
  · cases split
  · simp at split

/-- A note starts with its only percent sign. -/
theorem marked_note (rest : List Char) (plain : '%' ∉ rest) : Marked ('%' :: '!' :: rest) := by
  rintro (_ | ⟨char, _ | ⟨second, before⟩⟩) next after split
  · simp only [List.nil_append, List.cons.injEq] at split
    exact split.2.1.symm
  · simp at split
  · simp only [List.cons_append, List.cons.injEq] at split
    exact absurd (split.2.2 ▸ List.mem_append_right before List.mem_cons_self) plain

theorem marked_suffix (first second : List Char) (marked : Marked (first ++ second)) :
    Marked second := by
  rintro before next after rfl
  exact marked (first ++ before) next after (by simp)

theorem marked_append (first second : List Char) (markedFirst : Marked first)
    (closed : first.getLast? ≠ some '%') (markedSecond : Marked second) :
    Marked (first ++ second) := by
  intro before next after split
  rcases List.append_eq_append_iff.mp split with ⟨middle, rfl, rest⟩ | ⟨middle, rfl, rest⟩
  · exact markedSecond middle next after rest
  · rcases middle with _ | ⟨char, _ | ⟨second, middle⟩⟩
    · exact markedSecond [] next after rest.symm
    · simp only [List.singleton_append, List.cons.injEq] at rest
      exact absurd (by simp [← rest.1]) closed
    · simp only [List.cons_append, List.cons.injEq] at rest
      obtain ⟨rfl, rfl, _⟩ := rest
      exact markedFirst before next middle rfl

/-! ### What a directive reads -/

/-- The operand is still to be used, and would be noted at the end. -/
def Unused (argNum : Nat) (reordered : Bool) : Prop := reordered = false ∧ argNum < 1

/-- What the reader of a directive has read, noted and counted so far. While the operand is unused
it has seen no exclamation mark, except on the way to the end. -/
structure Reads (format : List Char) (argNum : Nat) (reordered : Bool) (cursor : Cursor) :
    Prop where
  taken : ∃ taken, format = taken ++ cursor.rest ∧
    (Unused cursor.argNum cursor.reordered → '!' ∉ taken ∨ cursor.rest = [])
  unused : Unused cursor.argNum cursor.reordered → Unused argNum reordered ∧ cursor.good = true
  index : cursor.afterIndex = true → cursor.reordered = true
  notes : Marked cursor.notes ∧ cursor.notes.getLast? ≠ some '%'

section Reading

variable {format : List Char} {argNum : Nat} {reordered : Bool} {cursor : Cursor}

/-- The reader goes on by one piece. -/
theorem Reads.step (reads : Reads format argNum reordered cursor) (next : Cursor)
    (piece : List Char) (split : cursor.rest = piece ++ next.rest)
    (unused : Unused next.argNum next.reordered →
      Unused cursor.argNum cursor.reordered ∧ next.good = true ∧ ('!' ∉ piece ∨ next.rest = []))
    (index : next.afterIndex = true → next.reordered = true)
    (notes : Marked next.notes ∧ next.notes.getLast? ≠ some '%') :
    Reads format argNum reordered next := by
  obtain ⟨taken, whole, clean⟩ := reads.taken
  refine ⟨⟨taken ++ piece, by rw [whole, split, List.append_assoc], fun stays => ?_⟩,
    fun stays => ⟨(reads.unused (unused stays).1).1, (unused stays).2.1⟩, index, notes⟩
  obtain ⟨before, _, cleanPiece⟩ := unused stays
  rcases clean before with cleanTaken | ended
  · rcases cleanPiece with cleanPiece | ended
    · exact Or.inl fun mark => (List.mem_append.mp mark).elim cleanTaken cleanPiece
    · exact Or.inr ended
  · rw [ended] at split
    exact Or.inr (List.append_eq_nil_iff.mp split.symm).2

theorem Reads.noIndex (reads : Reads format argNum reordered cursor)
    (stays : Unused cursor.argNum cursor.reordered) : cursor.afterIndex = false := by
  rw [← Bool.not_eq_true]
  intro index
  exact absurd (stays.1.symm.trans (reads.index index)) (by decide)

theorem readFlags_taken (flags : Flags) (text : List Char) :
    ∃ taken, text = taken ++ (readFlags flags text).2 ∧ '!' ∉ taken := by
  fun_induction readFlags flags text
  case case6 flags rest => exact ⟨[], rfl, List.not_mem_nil⟩
  all_goals
    rename_i inductionHypothesis
    obtain ⟨taken, split, clean⟩ := inductionHypothesis
    refine ⟨_ :: taken, congrArg (List.cons _) split, ?_⟩
    simpa using clean

theorem parseNum_taken (text : List Char) :
    ∃ taken, text = taken ++ (parseNum text).2 ∧ ('!' ∉ taken ∨ (parseNum text).2 = []) := by
  unfold parseNum
  dsimp only
  split_ifs
  · exact ⟨[], rfl, Or.inl List.not_mem_nil⟩
  · exact ⟨text, (List.append_nil text).symm, Or.inr rfl⟩
  · refine ⟨text.takeWhile Char.isDigit, List.takeWhile_append_dropWhile.symm, Or.inl ?_⟩
    intro mark
    exact absurd (List.mem_takeWhile_imp mark) (by decide)

/-- An argument index uses the operand. -/
theorem Reads.argNumber (reads : Reads format argNum reordered cursor) :
    Reads format argNum reordered (argNumber cursor) := by
  have used (next : Nat) : ¬Unused next true := fun stays => absurd stays.1 (by decide)
  unfold Fmt.argNumber
  split
  · rename_i rest bracket
    have split : rest = rest.takeWhile (· ≠ ']') ++ rest.dropWhile (· ≠ ']') :=
      List.takeWhile_append_dropWhile.symm
    have closes (closed : rest.dropWhile (· ≠ ']') ≠ []) :
        cursor.rest =
          ('[' :: rest.takeWhile (· ≠ ']') ++ [(rest.dropWhile (· ≠ ']')).head closed]) ++
          (rest.dropWhile (· ≠ ']')).tail := by
      rw [bracket, List.append_assoc, List.singleton_append, List.cons_head_tail,
        List.cons_append, ← split]
    dsimp only
    split
    · exact reads.step _ ['['] bracket (fun stays => absurd stays (used _)) (fun _ => rfl)
        reads.notes
    · rename_i short
      rw [not_or] at short
      split
      · exact reads.step _ _ (closes short.2) (fun stays => absurd stays (used _)) (fun _ => rfl)
          reads.notes
      · exact reads.step _ _ (closes short.2) (fun stays => absurd stays (used _)) (fun _ => rfl)
          reads.notes
      · exact reads.step _ _ (closes short.2) (fun stays => absurd stays (used _)) (fun _ => rfl)
          reads.notes
  · exact reads.step _ [] rfl
      (fun stays => ⟨stays, (reads.unused stays).2, Or.inl List.not_mem_nil⟩)
      (fun index => by cases index) reads.notes

/-- A star takes the operand for a number, and notes that it is none. -/
theorem Reads.starOperand (reads : Reads format argNum reordered cursor) (rest : List Char)
    (note : String) (text : List Char) (star : cursor.rest = '*' :: rest)
    (isNote : note.toList = '%' :: '!' :: text) (plain : '%' ∉ text)
    (closed : note.toList.getLast? ≠ some '%') :
    Reads format argNum reordered (starOperand cursor rest note) := by
  refine reads.step _ ['*'] star ?_ (fun index => by cases index) ⟨?_, ?_⟩
  · rintro ⟨_, below⟩
    have one : min 1 (cursor.argNum + 1) < 1 := below
    omega
  · show Marked (cursor.notes ++ note.toList)
    refine marked_append _ _ reads.notes.1 reads.notes.2 ?_
    rw [isNote]
    exact marked_note text plain
  · show (cursor.notes ++ note.toList).getLast? ≠ some '%'
    rw [List.getLast?_append_of_ne_nil]
    · exact closed
    · rw [isNote]
      exact List.cons_ne_nil _ _

theorem Reads.readWidth (reads : Reads format argNum reordered cursor) :
    Reads format argNum reordered (readWidth cursor).2 := by
  unfold Fmt.readWidth
  split
  · rename_i rest star
    exact reads.starOperand rest "%!(BADWIDTH)" "(BADWIDTH)".toList star (by decide) (by decide)
      (by decide)
  · obtain ⟨taken, split, clean⟩ := parseNum_taken cursor.rest
    refine reads.step _ taken split (fun stays => ⟨stays, ?_, clean⟩) reads.index reads.notes
    have good := (reads.unused stays).2
    simp [good, reads.noIndex stays]

theorem Reads.readPrecision (reads : Reads format argNum reordered cursor) :
    Reads format argNum reordered (readPrecision cursor).2 := by
  unfold Fmt.readPrecision
  split
  · rename_i rest point
    have afterPoint : Reads format argNum reordered
        { cursor with rest, good := cursor.good && !cursor.afterIndex } := by
      refine reads.step _ ['.'] point (fun stays => ⟨stays, ?_, Or.inl (by decide)⟩) reads.index
        reads.notes
      have good := (reads.unused stays).2
      simp [good, reads.noIndex stays]
    have indexed := afterPoint.argNumber
    dsimp only
    split
    · rename_i rest star
      exact indexed.starOperand rest "%!(BADPREC)" "(BADPREC)".toList star (by decide) (by decide)
        (by decide)
    · obtain ⟨taken, split, clean⟩ := parseNum_taken
        (Fmt.argNumber { cursor with rest, good := cursor.good && !cursor.afterIndex }).rest
      exact indexed.step _ taken split (fun stays => ⟨stays, (indexed.unused stays).2, clean⟩)
        indexed.index indexed.notes
  · exact reads

end Reading

/-! ### What a directive prints -/

theorem padString_plain (spec : Spec) (text : List Char) (plain : '%' ∉ text) :
    '%' ∉ padString spec text := by
  unfold padString
  dsimp only
  split_ifs <;> simp [plain, List.mem_replicate]

theorem truncate_plain (spec : Spec) (text : List Char) (plain : '%' ∉ text) :
    '%' ∉ truncate spec text := by
  unfold truncate
  split
  · exact plain
  · exact fun member => plain (List.mem_of_mem_take member)

theorem hexByte_plain (upper : Bool) (byte : UInt8) : '%' ∉ hexByte upper byte := by
  have digits : ∀ digit < 16, Nat.digitChar digit ≠ '%' ∧ (Nat.digitChar digit).toUpper ≠ '%' := by
    decide
  have bound := byte.toNat_lt
  have high := digits (byte.toNat / 16) (by omega)
  have low := digits (byte.toNat % 16) (by omega)
  unfold hexByte
  dsimp only
  split_ifs
  · simp [high.2.symm, low.2.symm]
  · simp [high.1.symm, low.1.symm]

theorem intercalate_plain (separator : List Char) (texts : List (List Char))
    (plainSeparator : '%' ∉ separator) (plain : ∀ text ∈ texts, '%' ∉ text) :
    '%' ∉ List.intercalate separator texts := by
  induction texts with
  | nil => simp
  | cons text rest inductionHypothesis =>
    rw [List.forall_mem_cons] at plain
    cases rest with
    | nil => simpa using plain.1
    | cons next others =>
      rw [List.intercalate_cons_cons]
      simp only [List.mem_append, not_or]
      exact ⟨⟨plain.1, plainSeparator⟩, inductionHypothesis plain.2⟩

theorem printHex_plain (spec : Spec) (upper : Bool) (operand : String) :
    '%' ∉ printHex spec upper operand := by
  refine padString_plain spec _ ?_
  have sign : '%' ∉
      (if spec.flags.sharp then (if upper then ['0', 'X'] else ['0', 'x']) else []) := by
    split_ifs <;> decide
  generalize (if spec.flags.sharp then (if upper then ['0', 'X'] else ['0', 'x']) else []) = signs
    at sign ⊢
  split_ifs
  · refine intercalate_plain _ _ (by decide) fun text member => ?_
    obtain ⟨byte, _, rfl⟩ := List.mem_map.mp member
    exact fun percent => (List.mem_append.mp percent).elim sign (hexByte_plain upper byte)
  · exact List.not_mem_nil
  · intro percent
    rcases List.mem_append.mp percent with inSign | inBytes
    · exact sign inSign
    · obtain ⟨byte, _, member⟩ := List.mem_flatMap.mp inBytes
      exact hexByte_plain upper byte member

section Printing

variable [Formatting]

/-- Quoting a text without percent signs writes none. -/
def QuotesPlainly : Prop :=
  ∀ plus sharp text, '%' ∉ text.toList → '%' ∉ (Formatting.quote plus sharp text).toList

omit [Formatting] in
theorem marked_badVerb (verb : Char) (shown : List Char) (other : verb ≠ '%')
    (plain : '%' ∉ shown) : Marked (badVerb verb shown) := by
  refine marked_note (verb :: "(string=".toList ++ shown ++ [')']) ?_
  simp [other.symm, plain]

theorem marked_printOperand (quotes : QuotesPlainly) (operand : String)
    (plain : '%' ∉ operand.toList) (spec : Spec) (verb : Char) (other : verb ≠ '%') :
    Marked (printOperand spec verb operand) := by
  have cut : '%' ∉ truncate spec operand.toList := truncate_plain spec _ plain
  have shown : '%' ∉ padString spec (truncate spec operand.toList) := padString_plain spec _ cut
  have quoted (plus sharp : Bool) : '%' ∉ padString spec (Formatting.quote plus sharp
      (String.ofList (truncate spec operand.toList))).toList :=
    padString_plain spec _ (quotes plus sharp _ (by rwa [String.toList_ofList]))
  unfold printOperand
  dsimp only
  split
  · exact marked_of_not_mem _ shown
  · split_ifs
    · exact marked_of_not_mem _ (quoted false false)
    · exact marked_of_not_mem _ shown
  · exact marked_of_not_mem _ (printHex_plain spec false operand)
  · exact marked_of_not_mem _ (printHex_plain spec true operand)
  · exact marked_of_not_mem _ (quoted _ _)
  · exact marked_of_not_mem _ (padString_plain spec _ (truncate_plain spec _ (by decide)))
  · refine marked_badVerb 'w' _ (by decide) ?_
    split_ifs
    · exact quoted false false
    · exact shown
  · exact marked_badVerb verb _ other shown

theorem marked_printVerb (quotes : QuotesPlainly) (operand : String)
    (plain : '%' ∉ operand.toList) (spec : Spec) (cursor : Cursor) (verb : Char) :
    Marked (printVerb spec cursor verb operand).1 := by
  unfold printVerb
  split_ifs with percent
  · exact marked_singleton
  · exact marked_note (verb :: "(BADINDEX)".toList) (by simp [Ne.symm percent])
  · exact marked_note (verb :: "(MISSING)".toList) (by simp [Ne.symm percent])
  · exact marked_printOperand quotes operand plain spec verb percent

/-- A directive is read up to its verb, or to the end. -/
theorem printDirective_cases (operand : String) (format : List Char) (argNum : Nat)
    (reordered : Bool) :
    ∃ cursor spec, Reads format argNum reordered cursor ∧
      printDirective operand format argNum reordered =
        match cursor.rest with
        | [] => (cursor.notes ++ "%!(NOVERB)".toList, [], cursor.argNum, cursor.reordered)
        | verb :: rest => (cursor.notes ++ (printVerb spec cursor verb operand).1, rest,
            (printVerb spec cursor verb operand).2, cursor.reordered) := by
  obtain ⟨taken, split, clean⟩ := readFlags_taken ⟨false, false, false, false, false⟩ format
  have flags : Reads format argNum reordered
      ⟨(readFlags ⟨false, false, false, false, false⟩ format).2, argNum, reordered, true, false,
        []⟩ :=
    ⟨⟨taken, split, fun _ => Or.inl clean⟩, fun stays => ⟨stays, rfl⟩, (by rintro ⟨⟩),
      marked_of_not_mem _ List.not_mem_nil, by simp⟩
  have precision := flags.argNumber.readWidth.readPrecision
  unfold printDirective
  dsimp only
  generalize readWidth (argNumber _) = width at precision ⊢
  generalize readPrecision width.2 = precise at precision ⊢
  refine ⟨if precise.2.afterIndex then precise.2 else argNumber precise.2,
    ⟨(readFlags ⟨false, false, false, false, false⟩ format).1, width.1, precise.1⟩, ?_, rfl⟩
  split_ifs
  · exact precision
  · exact precision.argNumber

/-- A directive takes something from the format, if there is anything; and if the operand is still
unused after it, the directive has noted something or has read no exclamation mark. -/
theorem printDirective_taken (operand : String) (format : List Char) (argNum : Nat)
    (reordered : Bool) :
    let result := printDirective operand format argNum reordered
    ∃ taken, format = taken ++ result.2.1 ∧ (taken = [] → format = []) ∧
      (Unused result.2.2.1 result.2.2.2 →
        Unused argNum reordered ∧ ('!' ∈ result.1 ∨ '!' ∉ taken)) := by
  intro result
  obtain ⟨cursor, spec, reads, directive⟩ :=
    printDirective_cases operand format argNum reordered
  obtain ⟨taken, split, clean⟩ := reads.taken
  have isResult : result = printDirective operand format argNum reordered := rfl
  rw [directive] at isResult
  cases remaining : cursor.rest with
  | nil =>
    rw [remaining] at isResult split
    simp only at isResult
    rw [isResult]
    refine ⟨taken, split, fun empty => by rw [split, empty]; rfl, fun stays => ?_⟩
    refine ⟨(reads.unused stays).1, Or.inl (List.mem_append_right _ (by decide))⟩
  | cons verb rest =>
    rw [remaining] at isResult split clean
    simp only at isResult
    rw [isResult]
    refine ⟨taken ++ [verb], by rw [split]; simp, by simp, fun stays => ?_⟩
    have before : Unused cursor.argNum cursor.reordered := by
      refine ⟨stays.1, ?_⟩
      have below : (printVerb spec cursor verb operand).2 < 1 := stays.2
      unfold printVerb at below
      split_ifs at below <;> omega
    refine ⟨(reads.unused before).1, Or.inr ?_⟩
    have isPercent : verb = '%' := by
      by_contra other
      have below : (printVerb spec cursor verb operand).2 < 1 := stays.2
      have good := (reads.unused before).2
      have unread : ¬cursor.argNum ≥ 1 := Nat.not_le.mpr before.2
      rw [printVerb, if_neg other, if_neg (by simp [good]), if_neg unread] at below
      simp at below
    rcases clean before with clean | ended
    · simp [clean, isPercent]
    · cases ended

theorem marked_printDirective (quotes : QuotesPlainly) (operand : String)
    (plain : '%' ∉ operand.toList) (format : List Char) (argNum : Nat) (reordered : Bool) :
    Marked (printDirective operand format argNum reordered).1 := by
  obtain ⟨cursor, spec, reads, directive⟩ :=
    printDirective_cases operand format argNum reordered
  rw [directive]
  split
  · exact marked_append _ _ reads.notes.1 reads.notes.2
      (marked_note "(NOVERB)".toList (by decide))
  · exact marked_append _ _ reads.notes.1 reads.notes.2
      (marked_printVerb quotes operand plain spec cursor _)

theorem printDirective_nil (operand : String) (argNum : Nat) (reordered : Bool) :
    printDirective operand [] argNum reordered = ("%!(NOVERB)".toList, [], argNum, reordered) := by
  simp [printDirective, readFlags, argNumber, readWidth, parseNum, readPrecision]

/-- An exclamation mark is a verb that does not fit. -/
theorem printDirective_bang (operand : String) (rest : List Char) (reordered : Bool) :
    printDirective operand ('!' :: rest) 0 reordered =
      ('%' :: '!' :: '!' :: ("(string=".toList ++ operand.toList ++ [')']), rest, 1,
        reordered) := by
  simp [printDirective, readFlags, argNumber, readWidth, parseNum, readPrecision, printVerb,
    printOperand, padString, truncate, badVerb]

theorem printDirective_bang_missing (operand : String) (rest : List Char) (argNum : Nat)
    (reordered : Bool) (used : 1 ≤ argNum) :
    printDirective operand ('!' :: rest) argNum reordered =
      ('%' :: '!' :: '!' :: "(MISSING)".toList, rest, argNum, reordered) := by
  simp [printDirective, readFlags, argNumber, readWidth, parseNum, readPrecision, printVerb, used]

theorem printDirective_s_missing (operand : String) (rest : List Char) (argNum : Nat)
    (reordered : Bool) (used : 1 ≤ argNum) :
    printDirective operand ('s' :: rest) argNum reordered =
      ('%' :: '!' :: 's' :: "(MISSING)".toList, rest, argNum, reordered) := by
  simp [printDirective, readFlags, argNumber, readWidth, parseNum, readPrecision, printVerb, used]

/-! ### The whole format -/

/-- What a format prints. -/
def formatted (operand : String) (format : List Char) (argNum : Nat) (reordered : Bool) :
    List Char :=
  sprintfGo operand (format.length + 1) format argNum reordered

theorem length_printDirective (operand : String) (format : List Char) (argNum : Nat)
    (reordered : Bool) :
    (printDirective operand format argNum reordered).2.1.length ≤ format.length := by
  obtain ⟨taken, split, _⟩ := printDirective_taken operand format argNum reordered
  have length := congrArg List.length split
  rw [List.length_append] at length
  omega

theorem sprintfGo_fuel (operand : String) (first second : Nat) (format : List Char)
    (argNum : Nat) (reordered : Bool) (enoughFirst : format.length < first)
    (enoughSecond : format.length < second) :
    sprintfGo operand first format argNum reordered =
      sprintfGo operand second format argNum reordered := by
  induction first generalizing second format argNum reordered with
  | zero => omega
  | succ first inductionHypothesis =>
    cases second with
    | zero => omega
    | succ second =>
      rw [sprintfGo, sprintfGo]
      refine congrArg _ ?_
      have shorter := (List.dropWhile_suffix (l := format) (· ≠ '%')).length_le
      cases remaining : format.dropWhile (· ≠ '%') with
      | nil => rfl
      | cons percent rest =>
        rw [remaining, List.length_cons] at shorter
        have length := length_printDirective operand rest argNum reordered
        dsimp only
        generalize printDirective operand rest argNum reordered = result at length ⊢
        obtain ⟨printed, left, nextNum, nextReordered⟩ := result
        exact congrArg (printed ++ ·) (inductionHypothesis second left nextNum nextReordered
          (by simp only at length; omega) (by simp only at length; omega))

@[simp] theorem formatted_nil (operand : String) (argNum : Nat) (reordered : Bool) :
    formatted operand [] argNum reordered = unused operand argNum reordered := rfl

theorem formatted_cons (operand : String) (char : Char) (rest : List Char) (argNum : Nat)
    (reordered : Bool) (plain : char ≠ '%') :
    formatted operand (char :: rest) argNum reordered =
      char :: formatted operand rest argNum reordered := by
  unfold formatted
  rw [List.length_cons, sprintfGo, sprintfGo_fuel operand (rest.length + 1) (rest.length + 2) rest
    argNum reordered (by omega) (by omega), sprintfGo]
  simp [plain]

theorem formatted_percent (operand : String) (rest : List Char) (argNum : Nat)
    (reordered : Bool) :
    formatted operand ('%' :: rest) argNum reordered =
      (printDirective operand rest argNum reordered).1 ++
        formatted operand (printDirective operand rest argNum reordered).2.1
          (printDirective operand rest argNum reordered).2.2.1
          (printDirective operand rest argNum reordered).2.2.2 := by
  unfold formatted
  rw [List.length_cons, sprintfGo]
  have length := length_printDirective operand rest argNum reordered
  simp only [List.takeWhile_cons, List.dropWhile_cons, ne_eq, not_true_eq_false, decide_false,
    Bool.false_eq_true, if_false, List.nil_append]
  generalize printDirective operand rest argNum reordered = result at length ⊢
  obtain ⟨printed, left, nextNum, nextReordered⟩ := result
  simp only at length ⊢
  exact congrArg (printed ++ ·) (sprintfGo_fuel operand _ _ left nextNum nextReordered (by omega)
    (by omega))

/-! ### Behind and ahead -/

/-- An operand whose first character comes nowhere else in it, and that has nothing in it that
starts a directive or a note. -/
structure Distinctive (operand : String) : Prop where
  dollar : ∃ rest, operand.toList = '$' :: rest ∧ '$' ∉ rest
  noPercent : '%' ∉ operand.toList
  noMark : '!' ∉ operand.toList

section Literal

variable (quotes : QuotesPlainly) {operand : String} (distinctive : Distinctive operand)

include quotes distinctive in
/-- A directive against the text that it would have to print, after what is pending from before:
its percent sign stays to be printed, alone or with what was pending, or it is a note that has
nothing before it. -/
theorem directive_cases (format : List Char) (argNum : Nat) (reordered : Bool)
    (pending target output : List Char)
    (start : ∀ text, target = '!' :: text → ∃ others, format = '!' :: others)
    (same : (printDirective operand format argNum reordered).1 ++ output =
      pending ++ '%' :: target) :
    (∃ front, output = front ++ target ∧ (front = [] → format ≠ []) ∧
      ('!' ∈ (printDirective operand format argNum reordered).1 → '!' ∈ pending) ∧
      ('!' ∈ front → '!' ∈ pending)) ∨
      (pending = [] ∧ ∃ others, format = '!' :: others) := by
  have marked := marked_printDirective quotes operand distinctive.noPercent format argNum reordered
  have ended (empty : format = []) :
      (printDirective operand format argNum reordered).1 = "%!(NOVERB)".toList := by
    rw [empty, printDirective_nil]
  have bang (others : List Char) (isBang : format = '!' :: others) :
      ∃ text, (printDirective operand format argNum reordered).1 = '%' :: text ∧ '%' ∉ text := by
    subst isBang
    by_cases used : 1 ≤ argNum
    · rw [printDirective_bang_missing operand others argNum reordered used]
      exact ⟨_, rfl, by decide⟩
    · obtain rfl : argNum = 0 := by omega
      rw [printDirective_bang]
      refine ⟨_, rfl, ?_⟩
      simp [distinctive.noPercent]
  generalize (printDirective operand format argNum reordered).1 = printed
    at same marked ended bang ⊢
  rcases List.append_eq_append_iff.mp same with ⟨left, rfl, rfl⟩ | ⟨middle, rfl, rest⟩
  · refine Or.inl ⟨left ++ ['%'], by simp, by simp, List.mem_append_left left, fun mark => ?_⟩
    rcases List.mem_append.mp mark with inLeft | isPercent
    · exact List.mem_append_right printed inLeft
    · exact absurd isPercent (by decide)
  · rcases middle with _ | ⟨char, _ | ⟨next, middle⟩⟩
    · refine Or.inl ⟨['%'], by simpa using rest.symm, by simp, by simp, fun mark => ?_⟩
      exact absurd mark (by decide)
    · obtain ⟨rfl, rfl⟩ : '%' = char ∧ target = output := by simpa using rest
      refine Or.inl ⟨[], rfl, fun _ empty => ?_, fun mark => ?_, fun mark => by cases mark⟩
      · have last := congrArg List.getLast? (ended empty)
        simp at last
      · simpa using mark
    · obtain ⟨rfl, rfl⟩ : '%' = char ∧ target = next :: middle ++ output := by simpa using rest
      obtain rfl : next = '!' := marked pending next middle rfl
      obtain ⟨others, isBang⟩ := start _ rfl
      refine Or.inr ⟨?_, others, isBang⟩
      obtain ⟨text, isNote, plain⟩ := bang others isBang
      cases pending with
      | nil => rfl
      | cons first pending =>
        obtain ⟨_, rfl⟩ : first = '%' ∧ pending ++ '%' :: '!' :: middle = text := by
          simpa using isNote
        exact absurd (List.mem_append_right pending List.mem_cons_self) plain

include quotes distinctive in
/-- A directive that is not a note at the start leaves something pending: a part of the text that
is to be printed, and what the directive has taken of the format. -/
theorem directive_pending (format : List Char) (argNum : Nat) (reordered : Bool)
    (pending target output : List Char) (clean : Unused argNum reordered → '!' ∉ pending)
    (start : ∀ text, target = '!' :: text → ∃ others, format = '!' :: others)
    (same : (printDirective operand format argNum reordered).1 ++ output =
      pending ++ '%' :: target) :
    let result := printDirective operand format argNum reordered
    (∃ front taken, output = front ++ target ∧ format = taken ++ result.2.1 ∧
      (taken = [] → format = []) ∧ front ++ taken ≠ [] ∧
      (Unused result.2.2.1 result.2.2.2 →
        Unused argNum reordered ∧ '!' ∉ front ∧ '!' ∉ taken)) ∨
      (pending = [] ∧ ∃ others, format = '!' :: others) := by
  intro result
  obtain ⟨taken, split, takes, unusedAfter⟩ := printDirective_taken operand format argNum reordered
  rcases directive_cases quotes distinctive format argNum reordered pending target output start
    same with ⟨front, isOutput, starts, noted, markInFront⟩ | bang
  · refine Or.inl ⟨front, taken, isOutput, split, takes, ?_, fun stays => ?_⟩
    · intro empty
      obtain ⟨noFront, noTaken⟩ := List.append_eq_nil_iff.mp empty
      exact starts noFront (takes noTaken)
    · obtain ⟨unusedBefore, inResult⟩ := unusedAfter stays
      have noMark := clean unusedBefore
      refine ⟨unusedBefore, fun inFront => noMark (markInFront inFront), fun inTaken => ?_⟩
      rcases inResult with inPrinted | notTaken
      · exact noMark (noted inPrinted)
      · exact notTaken inTaken
  · exact Or.inr bang

include quotes distinctive in
/-- Behind by some text, the printer does not catch up. -/
theorem behind (format : List Char) (argNum : Nat) (reordered : Bool) (pending : List Char)
    (nonempty : pending ≠ []) (clean : Unused argNum reordered → '!' ∉ pending) :
    formatted operand format argNum reordered ≠ pending ++ format := by
  induction length : format.length using Nat.strong_induction_on
    generalizing format argNum reordered pending with
  | _ size inductionHypothesis =>
    subst length
    intro same
    cases format with
    | nil =>
      rw [formatted_nil, List.append_nil, unused] at same
      split_ifs at same with stays
      · have isUnused : Unused argNum reordered := by simpa [Unused] using stays
        refine clean isUnused (same ▸ ?_)
        simp
      · exact nonempty same.symm
    | cons char rest =>
      by_cases percent : char = '%'
      · subst percent
        rw [formatted_percent] at same
        have shorter := length_printDirective operand rest argNum reordered
        rcases directive_pending quotes distinctive rest argNum reordered pending rest _ clean
          (fun text isBang => ⟨text, isBang⟩) same with
          ⟨front, taken, output, split, _, more, noMark⟩ | ⟨empty, _⟩
        · generalize printDirective operand rest argNum reordered = result
            at split shorter noMark output
          refine inductionHypothesis result.2.1.length (by simp only [List.length_cons]; omega)
            result.2.1 result.2.2.1 result.2.2.2 (front ++ taken) more ?_ rfl ?_
          · intro stays mark
            exact (List.mem_append.mp mark).elim (noMark stays).2.1 (noMark stays).2.2
          · rw [output, List.append_assoc, ← split]
        · exact nonempty empty
      · rw [formatted_cons operand char rest argNum reordered percent] at same
        cases pending with
        | nil => exact nonempty rfl
        | cons first others =>
          obtain ⟨rfl, same⟩ : char = first ∧
              formatted operand rest argNum reordered = others ++ char :: rest := by
            simpa using same
          refine inductionHypothesis rest.length (by simp) rest argNum reordered (others ++ [char])
            (by simp) (fun stays => ?_) rfl (by simpa using same)
          have noMark := clean stays
          simp only [List.mem_cons, not_or, List.mem_append, List.not_mem_nil, or_false] at noMark ⊢
          exact ⟨noMark.2, noMark.1⟩

omit [Formatting] in
/-- Moving the first character of a marked text to its end. -/
theorem marked_rotate (char : Char) (others : List Char) (marked : Marked (char :: others))
    (closed : (char :: others).getLast? ≠ some '%') (plain : char ≠ '%') :
    Marked (others ++ [char]) ∧ (others ++ [char]).getLast? ≠ some '%' := by
  refine ⟨marked_append others [char] (marked_suffix [char] others marked) ?_ ?_, by simp [plain]⟩
  · cases others with
    | nil => simp
    | cons next others => simpa using closed
  · exact marked_of_not_mem _ (by simp [plain.symm])

omit [Formatting] in
/-- A marked text that starts with a percent sign starts with a note. -/
theorem note_of_marked (others : List Char) (marked : Marked ('%' :: others))
    (closed : ('%' :: others).getLast? ≠ some '%') :
    ∃ more, others = '!' :: more ∧ Marked more ∧ more.getLast? ≠ some '%' := by
  cases others with
  | nil => exact absurd rfl closed
  | cons next more =>
    obtain rfl : next = '!' := marked [] next more rfl
    refine ⟨more, rfl, marked_suffix ['%', '!'] more marked, ?_⟩
    cases more with
    | nil => simp
    | cons following more => simpa using closed

omit [Formatting] in
/-- A note after a marked text. -/
theorem marked_append_note (text note : List Char) (marked : Marked text)
    (closed : text.getLast? ≠ some '%') (plain : '%' ∉ note) :
    Marked (text ++ '%' :: '!' :: note) ∧ (text ++ '%' :: '!' :: note).getLast? ≠ some '%' := by
  refine ⟨marked_append text _ marked closed (marked_note note plain), ?_⟩
  rw [List.getLast?_append_of_ne_nil _ (List.cons_ne_nil _ _), List.getLast?_cons_cons]
  intro last
  have member := List.mem_of_getLast? last
  rcases List.mem_cons.mp member with isMark | inNote
  · exact absurd isMark (by decide)
  · exact plain inNote

/-- One step ahead by some marked text: a character is printed as it is, and a percent sign is
printed with a note, which asks for an exclamation mark after it. -/
theorem ahead_step (operand : String) (char : Char) (target rest : List Char) (argNum : Nat)
    (reordered : Bool) (surplus : List Char) (used : 1 ≤ argNum) (nonempty : 1 ≤ surplus.length)
    (marked : Marked surplus) (closed : surplus.getLast? ≠ some '%')
    (same : char :: target = surplus ++ formatted operand (char :: rest) argNum reordered) :
    (char ≠ '%' ∧ ∃ next, target = next ++ formatted operand rest argNum reordered ∧
      surplus.length ≤ next.length ∧ Marked next ∧ next.getLast? ≠ some '%') ∨
    (char = '%' ∧ ∃ others, target = '!' :: others ∧ ∀ later, rest = '!' :: later →
      ∃ next, others = next ++ formatted operand later argNum reordered ∧
        surplus.length ≤ next.length ∧ Marked next ∧ next.getLast? ≠ some '%') := by
  cases surplus with
  | nil => cases nonempty
  | cons first others =>
    by_cases percent : char = '%'
    · subst percent
      obtain ⟨rfl, tail⟩ := List.cons.inj same
      obtain ⟨more, rfl, markedMore, closedMore⟩ := note_of_marked others marked closed
      refine Or.inr ⟨rfl, _, tail, ?_⟩
      rintro later rfl
      obtain ⟨markedNext, closedNext⟩ := marked_append_note more ('!' :: "(MISSING)".toList)
        markedMore closedMore (by decide)
      refine ⟨_, ?_, ?_, markedNext, closedNext⟩
      · rw [formatted_percent, printDirective_bang_missing operand later argNum reordered used]
        exact (List.append_assoc more _ _).symm
      · simp only [List.length_cons, List.length_append]
        omega
    · rw [formatted_cons operand char rest argNum reordered percent] at same
      obtain ⟨rfl, tail⟩ := List.cons.inj same
      obtain ⟨markedNext, closedNext⟩ := marked_rotate char others marked closed percent
      exact Or.inl ⟨percent, others ++ [char], by simpa using tail, by simp, markedNext, closedNext⟩

/-- Ahead by some marked text, the printer stays ahead. -/
theorem ahead (operand : String) (format : List Char) (argNum : Nat) (reordered : Bool)
    (surplus : List Char) (used : 1 ≤ argNum) (nonempty : 1 ≤ surplus.length)
    (marked : Marked surplus) (closed : surplus.getLast? ≠ some '%') :
    format ≠ surplus ++ formatted operand format argNum reordered := by
  induction length : format.length using Nat.strong_induction_on
    generalizing format surplus with
  | _ size inductionHypothesis =>
    subst length
    intro same
    cases format with
    | nil =>
      obtain ⟨rfl, _⟩ := List.append_eq_nil_iff.mp same.symm
      cases nonempty
    | cons char rest =>
      rcases ahead_step operand char rest rest argNum reordered surplus used nonempty marked closed
        same with ⟨_, next, output, longer, markedNext, closedNext⟩ | ⟨_, others, rfl, noted⟩
      · exact inductionHypothesis rest.length (by simp) rest next (by omega) markedNext closedNext
          rfl output
      · obtain ⟨next, output, longer, markedNext, closedNext⟩ := noted others rfl
        exact inductionHypothesis others.length (by simp only [List.length_cons]; omega) others
          next (by omega) markedNext closedNext rfl output

include quotes distinctive in
/-- Once the operand is used, a percent sign is not printed as it is. -/
theorem formatted_ne_self (format : List Char) (argNum : Nat) (reordered : Bool)
    (used : 1 ≤ argNum) (percent : '%' ∈ format) :
    formatted operand format argNum reordered ≠ format := by
  induction format with
  | nil => cases percent
  | cons char rest inductionHypothesis =>
    intro same
    by_cases isPercent : char = '%'
    · subst isPercent
      rw [formatted_percent] at same
      rcases directive_pending quotes distinctive rest argNum reordered [] rest _
        (fun _ => List.not_mem_nil) (fun text isBang => ⟨text, isBang⟩) same with
        ⟨front, taken, output, split, _, more, noMark⟩ | ⟨_, others, rfl⟩
      · refine behind quotes distinctive _ _ _ (front ++ taken) more ?_
          (by rw [output, List.append_assoc, ← split])
        intro stays
        exact absurd used (Nat.not_le.mpr (noMark stays).1.2)
      · rw [printDirective_bang_missing operand others argNum reordered used] at same
        refine ahead operand others argNum reordered ('!' :: "(MISSING)".toList) used (by decide)
          (marked_of_not_mem _ (by decide)) (by decide) ?_
        simpa using same.symm
    · rw [formatted_cons operand char rest argNum reordered isPercent, List.cons.injEq] at same
      have later : '%' ∈ rest := by
        rcases List.mem_cons.mp percent with equal | later
        · exact absurd equal.symm isPercent
        · exact later
      exact inductionHypothesis later same.2

/-! ### One place -/

/-- The printer does not catch up before the place of the operand. -/
def BehindPlace (operand : String) (before after : List Char) : Prop :=
  ∀ argNum reordered pending, pending ≠ [] → (Unused argNum reordered → '!' ∉ pending) →
    formatted operand (before ++ '%' :: 's' :: after) argNum reordered ≠
      pending ++ (before ++ (operand.toList ++ after))

include distinctive in
omit [Formatting] in
/-- The operand does not start with an exclamation mark, so neither does its place. -/
theorem starts_of_literal (before after text : List Char)
    (isBang : before ++ (operand.toList ++ after) = '!' :: text) :
    ∃ others, before ++ '%' :: 's' :: after = '!' :: others := by
  obtain ⟨digits, chars, _⟩ := distinctive.dollar
  cases before with
  | nil =>
    rw [List.nil_append, chars, List.cons_append] at isBang
    exact absurd (List.cons.inj isBang).1 (by decide)
  | cons first rest =>
    rw [(List.cons.inj isBang).1]
    exact ⟨_, rfl⟩

include distinctive in
omit [Formatting] in
/-- What is printed at a place ends before the operand starts, if something else is pending. -/
theorem operand_left (printed output pending after : List Char) (nonempty : pending ≠ [])
    (plain : '$' ∉ printed.tail)
    (same : printed ++ output = pending ++ (operand.toList ++ after)) :
    ∃ left, output = left ++ operand.toList ++ after := by
  obtain ⟨digits, chars, _⟩ := distinctive.dollar
  rcases List.append_eq_append_iff.mp same with ⟨left, rfl, rest⟩ | ⟨middle, rfl, rest⟩
  · exact ⟨left, by rw [rest, List.append_assoc]⟩
  · cases middle with
    | nil => exact ⟨[], by simpa using rest.symm⟩
    | cons first middle =>
      have isDollar : first = '$' := by
        rw [chars, List.cons_append, List.cons_append] at rest
        exact (List.cons.inj rest).1.symm
      refine absurd ?_ plain
      rw [List.tail_append_of_ne_nil nonempty, isDollar]
      exact List.mem_append_right _ List.mem_cons_self

include quotes distinctive in
/-- Behind at the place itself. -/
theorem behindPlace_nil (after : List Char) : BehindPlace operand [] after := by
  intro argNum reordered pending nonempty clean same
  obtain ⟨digits, chars, noDollar⟩ := distinctive.dollar
  rw [List.nil_append, List.nil_append, formatted_percent] at same
  by_cases used : 1 ≤ argNum
  · rw [printDirective_s_missing operand after argNum reordered used] at same
    have plain : '$' ∉ ('%' :: '!' :: 's' :: "(MISSING)".toList).tail := by decide
    obtain ⟨left, output⟩ := operand_left distinctive _ _ pending after nonempty plain same
    refine behind quotes distinctive after argNum reordered (left ++ operand.toList)
      (by simp [chars]) (fun stays => ?_) output
    exact absurd used (Nat.not_le.mpr stays.2)
  · obtain rfl : argNum = 0 := by omega
    rw [printDirective_s] at same
    obtain ⟨left, output⟩ := operand_left distinctive _ _ pending after nonempty
      (by rw [chars]; exact noDollar) same
    refine behind quotes distinctive after 1 reordered (left ++ operand.toList)
      (by simp [chars]) (fun stays => ?_) output
    exact absurd stays.2 (by decide)

include quotes distinctive in
/-- What is left after a directive that starts before the place: the place is still ahead, cut
apart, or behind. -/
theorem behind_rest (before after front taken rest : List Char) (argNum : Nat) (reordered : Bool)
    (shorter : ∀ middle, middle.length ≤ before.length → BehindPlace operand middle after)
    (split : before ++ '%' :: 's' :: after = taken ++ rest) (takes : taken ≠ [])
    (clean : Unused argNum reordered → '!' ∉ front ∧ '!' ∉ taken) :
    formatted operand rest argNum reordered ≠ front ++ (before ++ (operand.toList ++ after)) := by
  obtain ⟨digits, chars, _⟩ := distinctive.dollar
  have noMark := distinctive.noMark
  intro same
  rcases List.append_eq_append_iff.mp split with ⟨middle, rfl, place⟩ | ⟨middle, rfl, place⟩
  · rcases middle with _ | ⟨percent, _ | ⟨letter, middle⟩⟩
    · -- the place comes next
      rw [List.append_nil] at takes clean
      refine shorter [] (Nat.zero_le _) argNum reordered (front ++ before) (by simp [takes])
        (fun stays mark => ?_) ?_
      · exact (List.mem_append.mp mark).elim (clean stays).1 (clean stays).2
      · rw [List.nil_append, List.nil_append, place, List.nil_append, same, List.append_assoc]
    · -- the directive took the percent sign of the place, and its letter is text
      obtain ⟨rfl, rfl⟩ : '%' = percent ∧ 's' :: after = rest := by simpa using place
      rw [formatted_cons operand 's' after argNum reordered (by decide), ← List.append_assoc]
        at same
      cases ahead : front ++ before with
      | nil =>
        rw [ahead, List.nil_append, chars, List.cons_append] at same
        exact absurd (List.cons.inj same).1 (by decide)
      | cons first others =>
        rw [ahead, List.cons_append] at same
        refine behind quotes distinctive after argNum reordered (others ++ operand.toList)
          (by simp [chars]) (fun stays mark => ?_)
          (by rw [(List.cons.inj same).2, List.append_assoc])
        rcases List.mem_append.mp mark with inOthers | inOperand
        · have member : '!' ∈ front ++ before := by
            rw [ahead]
            exact List.mem_cons_of_mem first inOthers
          rcases List.mem_append.mp member with inFront | inBefore
          · exact (clean stays).1 inFront
          · exact (clean stays).2 (List.mem_append_left _ inBefore)
        · exact noMark inOperand
    · -- the directive took the place and more
      obtain ⟨rfl, rfl, rfl⟩ : '%' = percent ∧ 's' = letter ∧ after = middle ++ rest := by
        simpa using place
      refine behind quotes distinctive rest argNum reordered
        (front ++ (before ++ (operand.toList ++ middle))) (by simp [chars]) (fun stays mark => ?_)
        (by rw [same]; simp)
      obtain ⟨cleanFront, cleanTaken⟩ := clean stays
      simp only [List.mem_append, List.mem_cons, not_or] at mark cleanTaken
      rcases mark with inFront | inBefore | inOperand | inMiddle
      · exact cleanFront inFront
      · exact cleanTaken.1 inBefore
      · exact noMark inOperand
      · exact cleanTaken.2.2.2 inMiddle
  · -- the place is still ahead
    refine shorter middle (by simp) argNum reordered (front ++ taken) (by simp [takes])
      (fun stays mark => ?_) ?_
    · exact (List.mem_append.mp mark).elim (clean stays).1 (clean stays).2
    · rw [← place, same, List.append_assoc, List.append_assoc]

include quotes distinctive in
/-- Behind by some text before the place, the printer does not catch up. -/
theorem behindPlace (before after : List Char) : BehindPlace operand before after := by
  induction length : before.length using Nat.strong_induction_on generalizing before with
  | _ size inductionHypothesis =>
    subst length
    cases before with
    | nil => exact behindPlace_nil quotes distinctive after
    | cons char rest =>
      intro argNum reordered pending nonempty clean same
      rw [List.cons_append] at same
      by_cases percent : char = '%'
      · subst percent
        rw [formatted_percent] at same
        rcases directive_pending quotes distinctive _ argNum reordered pending _ _ clean
          (starts_of_literal distinctive rest after) same with
          ⟨front, taken, output, split, takes, _, noMark⟩ | ⟨empty, _⟩
        · exact behind_rest quotes distinctive rest after front taken _ _ _
            (fun middle shorter => inductionHypothesis middle.length
              (by simp only [List.length_cons]; omega) middle rfl) split
            (fun empty => absurd (takes empty) (by simp)) (fun stays => (noMark stays).2) output
        · exact nonempty empty
      · rw [formatted_cons operand char _ argNum reordered percent] at same
        cases pending with
        | nil => exact nonempty rfl
        | cons first others =>
          obtain ⟨rfl, later⟩ := List.cons.inj same
          refine inductionHypothesis rest.length (by simp) rest rfl argNum reordered
            (others ++ [char]) (by simp) (fun stays mark => clean stays ?_)
            (later.trans (by simp))
          rcases List.mem_append.mp mark with inOthers | isChar
          · exact List.mem_cons_of_mem _ inOthers
          · rw [List.mem_singleton.mp isChar]
            exact List.mem_cons_self

include distinctive in
/-- Ahead by more than the operand before the place, the printer stays ahead. -/
theorem ahead_place (before after : List Char) (argNum : Nat) (reordered : Bool)
    (surplus : List Char) (used : 1 ≤ argNum) (long : operand.toList.length ≤ surplus.length)
    (marked : Marked surplus) (closed : surplus.getLast? ≠ some '%') :
    before ++ (operand.toList ++ after) ≠
      surplus ++ formatted operand (before ++ '%' :: 's' :: after) argNum reordered := by
  obtain ⟨digits, chars, _⟩ := distinctive.dollar
  induction length : before.length using Nat.strong_induction_on
    generalizing before surplus with
  | _ size inductionHypothesis =>
    subst length
    intro same
    cases before with
    | nil =>
      rw [List.nil_append, List.nil_append, formatted_percent,
        printDirective_s_missing operand after argNum reordered used] at same
      dsimp only at same
      rw [← List.append_assoc] at same
      obtain ⟨markedAll, closedAll⟩ := marked_append_note surplus ('s' :: "(MISSING)".toList)
        marked closed (by decide)
      rcases List.append_eq_append_iff.mp same with
        ⟨middle, isSurplus, rest⟩ | ⟨middle, isOperand, _⟩
      · have more : 1 ≤ middle.length := by
          have length := congrArg List.length isSurplus
          simp only [List.length_append, List.length_cons] at length
          omega
        rw [isSurplus] at markedAll closedAll
        rw [List.getLast?_append_of_ne_nil _ (List.ne_nil_of_length_pos more)] at closedAll
        exact ahead operand after argNum reordered middle used more
          (marked_suffix operand.toList middle markedAll) closedAll rest
      · have length := congrArg List.length isOperand
        simp only [List.length_append, List.length_cons] at length
        omega
    | cons char rest =>
      rw [List.cons_append, List.cons_append] at same
      have operandLength : 1 ≤ operand.toList.length := by simp [chars]
      rcases ahead_step operand char _ _ argNum reordered surplus used (by omega) marked closed
        same with ⟨_, next, output, longer, markedNext, closedNext⟩ | ⟨_, others, isBang, noted⟩
      · exact inductionHypothesis rest.length (by simp) rest next (by omega) markedNext closedNext
          rfl output
      · cases rest with
        | nil =>
          rw [List.nil_append, chars, List.cons_append] at isBang
          exact absurd (List.cons.inj isBang).1 (by decide)
        | cons second rest =>
          obtain ⟨rfl, rfl⟩ := List.cons.inj isBang
          obtain ⟨next, output, longer, markedNext, closedNext⟩ := noted _ rfl
          exact inductionHypothesis rest.length (by simp only [List.length_cons]; omega) rest next
            (by omega) markedNext closedNext rfl output

include quotes distinctive in
/-- With another percent sign the operand is not put literally in its place. -/
theorem formatted_ne_literal (before after : List Char)
    (percent : '%' ∈ before ∨ '%' ∈ after) :
    formatted operand (before ++ '%' :: 's' :: after) 0 false ≠
      before ++ (operand.toList ++ after) := by
  induction before with
  | nil =>
    intro same
    rw [List.nil_append, List.nil_append, formatted_percent, printDirective_s] at same
    have later : '%' ∈ after := percent.resolve_left List.not_mem_nil
    exact formatted_ne_self quotes distinctive after 1 false (Nat.le_refl 1) later
      (List.append_cancel_left same)
  | cons char rest inductionHypothesis =>
    intro same
    rw [List.cons_append, List.cons_append] at same
    by_cases isPercent : char = '%'
    · subst isPercent
      rw [formatted_percent] at same
      rcases directive_pending quotes distinctive _ 0 false [] _ _ (fun _ => List.not_mem_nil)
        (starts_of_literal distinctive rest after) same with
        ⟨front, taken, output, split, takes, _, noMark⟩ | ⟨_, others, isBang⟩
      · exact behind_rest quotes distinctive rest after front taken _ _ _
          (fun middle _ => behindPlace quotes distinctive middle after) split
          (fun empty => absurd (takes empty) (by simp)) (fun stays => (noMark stays).2) output
      · cases rest with
        | nil => exact absurd (List.cons.inj isBang).1 (by decide)
        | cons second rest =>
          obtain rfl : second = '!' := (List.cons.inj isBang).1
          rw [List.cons_append, printDirective_bang] at same
          have plain : '%' ∉ '!' :: ("(string=".toList ++ operand.toList ++ [')']) := by
            simp [distinctive.noPercent]
          refine ahead_place distinctive rest after 1 false _ (Nat.le_refl 1) ?_
            (marked_of_not_mem _ plain) (fun last => plain (List.mem_of_getLast? last)) ?_
          · simp only [List.length_cons, List.length_append]
            omega
          · simpa using same.symm
    · rw [formatted_cons operand char _ 0 false isPercent, List.cons.injEq] at same
      refine inductionHypothesis ?_ same.2
      rcases percent with inBefore | inAfter
      · rcases List.mem_cons.mp inBefore with equal | inRest
        · exact absurd equal.symm isPercent
        · exact Or.inl inRest
      · exact Or.inr inAfter

include quotes distinctive in
/-- A format with one `%s` is filled in literally exactly when it has no other percent sign. -/
theorem sprintf_literal_iff (before after : String) :
    sprintf (before ++ "%s" ++ after) operand = before ++ operand ++ after ↔
      '%' ∉ before.toList ∧ '%' ∉ after.toList := by
  constructor
  · intro literal
    rw [← not_or]
    intro percent
    refine formatted_ne_literal quotes distinctive before.toList after.toList percent ?_
    have chars := congrArg String.toList literal
    rw [sprintf, String.toList_ofList] at chars
    have format : (before ++ "%s" ++ after).toList =
        before.toList ++ '%' :: 's' :: after.toList := by simp
    rw [format] at chars
    rw [formatted, ← format, String.length_toList, format, chars]
    simp
  · rintro ⟨plainBefore, plainAfter⟩
    exact sprintf_plain before after operand plainBefore plainAfter

end Literal

end Printing

end SharedGo.Fmt
