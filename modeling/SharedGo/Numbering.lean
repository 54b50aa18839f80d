/-
This file is a library for texts with numbered placeholders. A text is laid out as
a list of pieces: plain texts, and slots that hold a value and are written as the
placeholder of a position followed by a cast. A layout is numbered after `start`
values when its slots use the next positions in order, each for its own value, and
when no slot runs into what follows it. The rules say how numbered layouts are put
together, and the main theorem is that the placeholders found by reading the text
are those of the slots.
-/

import Mathlib.Data.List.TakeWhile
import SharedGo.Text

namespace SharedGo.NumberedText

open SharedGo Text

/-! ### Placeholders -/

/-- The placeholder of the value at a position, counted from one. -/
def placeholder (position : Nat) : String := "$" ++ toString position

/-- The placeholders of `count` values after `start` others. -/
def placeholders (start count : Nat) : List String :=
  (List.range' (start + 1) count).map placeholder

theorem placeholder_injective : Function.Injective placeholder := by
  intro first second same
  have digits : Nat.toDigits 10 first = Nat.toDigits 10 second := by
    rw [← Nat.toList_repr, ← Nat.toList_repr, String.toList_inj]
    simpa [placeholder] using same
  rw [← Nat.ofDigitChars_ten_toDigits (n := first), digits, Nat.ofDigitChars_ten_toDigits]

theorem placeholder_ne_empty (position : Nat) : placeholder position ≠ "" := by
  simp [placeholder]

/-- A placeholder is a dollar sign and digits. -/
theorem placeholder_chars (position : Nat) :
    ∃ digits, (placeholder position).toList = '$' :: digits ∧ digits ≠ [] ∧
      ∀ char ∈ digits, char.isDigit = true := by
  refine ⟨position.repr.toList, by simp [placeholder], ?_, ?_⟩
  · intro empty
    exact Nat.repr_ne_empty (String.toList_eq_nil_iff.mp empty)
  · intro char member
    rw [Nat.toList_repr] at member
    exact Nat.isDigit_of_mem_toDigits (by omega) (by omega) member

theorem mem_placeholders (start count : Nat) (name : String) :
    name ∈ placeholders start count ↔
      ∃ position, start < position ∧ position ≤ start + count ∧ placeholder position = name := by
  simp only [placeholders, List.mem_map, List.mem_range'_1]
  constructor
  · rintro ⟨position, range, rfl⟩
    exact ⟨position, by omega, by omega, rfl⟩
  · rintro ⟨position, above, below, rfl⟩
    exact ⟨position, by omega, rfl⟩

theorem placeholders_append (start first second : Nat) :
    placeholders start first ++ placeholders (start + first) second =
      placeholders start (first + second) := by
  rw [placeholders, placeholders, placeholders, ← List.map_append, Nat.add_right_comm,
    List.range'_append_1]

/-! ### Reading a text -/

/-- The placeholders in a text, in order: a dollar sign with all the digits after it. -/
def occurrencesGo : List Char → List String
  | [] => []
  | char :: rest =>
    if char = '$' ∧ rest.takeWhile Char.isDigit ≠ [] then
      String.ofList ('$' :: rest.takeWhile Char.isDigit) :: occurrencesGo rest
    else occurrencesGo rest

def occurrences (text : String) : List String := occurrencesGo text.toList

theorem occurrencesGo_append (text rest : List Char) (plain : '$' ∉ text) :
    occurrencesGo (text ++ rest) = occurrencesGo rest := by
  induction text with
  | nil => rfl
  | cons char others inductionHypothesis =>
    rw [List.mem_cons, not_or] at plain
    rw [List.cons_append, occurrencesGo, if_neg, inductionHypothesis plain.2]
    rintro ⟨rfl, -⟩
    exact plain.1 rfl

/-- The text starts with a digit. -/
def startsWithDigit (text : String) : Bool := text.toList.head?.any Char.isDigit

theorem startsWithDigit_append (first second : String) (plainFirst : startsWithDigit first = false)
    (plainSecond : startsWithDigit second = false) :
    startsWithDigit (first ++ second) = false := by
  unfold startsWithDigit at plainFirst plainSecond ⊢
  rw [String.toList_append]
  cases chars : first.toList with
  | nil => exact plainSecond
  | cons char rest =>
    rw [chars] at plainFirst
    exact plainFirst

theorem startsWithDigit_append_left (first second : String) (nonempty : first ≠ "") :
    startsWithDigit (first ++ second) = startsWithDigit first := by
  unfold startsWithDigit
  rw [String.toList_append]
  cases chars : first.toList with
  | nil => exact absurd (String.toList_eq_nil_iff.mp chars) nonempty
  | cons char rest => rfl

theorem takeWhile_isDigit (text : String) (plain : startsWithDigit text = false) :
    text.toList.takeWhile Char.isDigit = [] := by
  unfold startsWithDigit at plain
  cases chars : text.toList with
  | nil => rfl
  | cons char rest =>
    rw [chars] at plain
    exact List.takeWhile_cons_of_neg (by simpa using plain)

/-- A placeholder that does not run into a digit is read back. -/
theorem occurrences_placeholder (position : Nat) (rest : String)
    (plain : startsWithDigit rest = false) :
    occurrences (placeholder position ++ rest) = placeholder position :: occurrences rest := by
  obtain ⟨digits, name, nonempty, all⟩ := placeholder_chars position
  have taken : (digits ++ rest.toList).takeWhile Char.isDigit = digits := by
    rw [List.takeWhile_append_of_pos all, takeWhile_isDigit rest plain, List.append_nil]
  have chars : (placeholder position ++ rest).toList = '$' :: (digits ++ rest.toList) := by
    rw [String.toList_append, name, List.cons_append]
  have plainDigits : '$' ∉ digits := fun member => absurd (all '$' member) (by decide)
  rw [occurrences, chars, occurrencesGo, taken, if_pos ⟨rfl, nonempty⟩,
    occurrencesGo_append _ _ plainDigits, occurrences, ← name, String.ofList_toList]

/-! ### Layouts -/

/-- A plain text, or the place of the value at a position. -/
inductive Piece (Value : Type) where
  | text (content : String)
  | slot (position : Nat) (value : Value)

section Layouts

variable {Value : Type} (cast : Value → String)

def Piece.render : Piece Value → String
  | .text content => content
  | .slot position value => placeholder position ++ cast value

/-- The text of a layout. -/
def render : List (Piece Value) → String
  | [] => ""
  | piece :: rest => piece.render cast ++ render rest

@[simp] theorem render_nil : render cast [] = "" := rfl

@[simp] theorem render_text (text : String) (rest : List (Piece Value)) :
    render cast (.text text :: rest) = text ++ render cast rest := rfl

@[simp] theorem render_slot (position : Nat) (value : Value) (rest : List (Piece Value)) :
    render cast (.slot position value :: rest) =
      placeholder position ++ cast value ++ render cast rest := rfl

@[simp] theorem render_append (first second : List (Piece Value)) :
    render cast (first ++ second) = render cast first ++ render cast second := by
  induction first with
  | nil => simp
  | cons piece rest inductionHypothesis =>
    rw [List.cons_append, render, render, inductionHypothesis, String.append_assoc]

/-- Layouts with a text between them. -/
def joinPieces (separator : String) : List (List (Piece Value)) → List (Piece Value)
  | [] => []
  | [pieces] => pieces
  | pieces :: next :: rest => pieces ++ .text separator :: joinPieces separator (next :: rest)

theorem render_joinPieces (separator : String) (groups : List (List (Piece Value))) :
    render cast (joinPieces separator groups) = join separator (groups.map (render cast)) := by
  induction groups with
  | nil => rfl
  | cons pieces rest inductionHypothesis =>
    cases rest with
    | nil => rfl
    | cons next others =>
      rw [joinPieces, render_append, render_text, inductionHypothesis]
      simp only [List.map_cons, join, String.append_assoc]

/-- The slots of values one after the other. -/
def slots : Nat → List Value → List (List (Piece Value))
  | _, [] => []
  | start, value :: rest => [.slot (start + 1) value] :: slots (start + 1) rest

theorem render_slots (start : Nat) (values : List Value) (suffix : String)
    (same : ∀ value ∈ values, cast value = suffix) :
    (slots start values).map (render cast) =
      (placeholders start values.length).map (· ++ suffix) := by
  induction values generalizing start with
  | nil => rfl
  | cons value rest inductionHypothesis =>
    rw [slots, List.map_cons, inductionHypothesis _ fun other member =>
      same other (List.mem_cons_of_mem value member)]
    simp [placeholders, List.range'_succ, same]

/-- Texts have no dollar sign, and no slot runs into a digit. -/
def Separated : List (Piece Value) → Prop
  | [] => True
  | .text text :: rest => '$' ∉ text.toList ∧ Separated rest
  | .slot _ value :: rest =>
    '$' ∉ (cast value).toList ∧ startsWithDigit (cast value ++ render cast rest) = false ∧
      Separated rest

theorem separated_append (first second : List (Piece Value)) (separatedFirst : Separated cast first)
    (separatedSecond : Separated cast second)
    (plain : startsWithDigit (render cast second) = false) :
    Separated cast (first ++ second) := by
  induction first with
  | nil => exact separatedSecond
  | cons piece rest inductionHypothesis =>
    cases piece with
    | text text => exact ⟨separatedFirst.1, inductionHypothesis separatedFirst.2⟩
    | slot position value =>
      refine ⟨separatedFirst.1, ?_, inductionHypothesis separatedFirst.2.2⟩
      show startsWithDigit (cast value ++ render cast (rest ++ second)) = false
      rw [render_append, ← String.append_assoc]
      exact startsWithDigit_append _ _ separatedFirst.2.1 plain

/-- The placeholders of the slots, in order. -/
def names : List (Piece Value) → List String
  | [] => []
  | .text _ :: rest => names rest
  | .slot position _ :: rest => placeholder position :: names rest

@[simp] theorem names_append (first second : List (Piece Value)) :
    names (first ++ second) = names first ++ names second := by
  induction first with
  | nil => rfl
  | cons piece rest inductionHypothesis => cases piece <;> simp [names, inductionHypothesis]

/-- Reading the text of a layout finds the placeholders of its slots. -/
theorem occurrences_render (pieces : List (Piece Value)) (separated : Separated cast pieces) :
    occurrences (render cast pieces) = names pieces := by
  induction pieces with
  | nil => rfl
  | cons piece rest inductionHypothesis =>
    cases piece with
    | text text =>
      rw [render_text, occurrences, String.toList_append, occurrencesGo_append _ _ separated.1]
      exact inductionHypothesis separated.2
    | slot position value =>
      rw [render_slot, String.append_assoc, occurrences_placeholder _ _ separated.2.1, names,
        ← inductionHypothesis separated.2.2, occurrences, String.toList_append,
        occurrencesGo_append _ _ separated.1, occurrences]

/-! ### Numbered layouts -/

/-- The layout uses the positions after `start` for the values, in order. -/
structure Numbered (start : Nat) (values : List Value) (pieces : List (Piece Value)) : Prop where
  separated : Separated cast pieces
  named : (names pieces).eraseDups = placeholders start values.length
  bound : ∀ position value, .slot position value ∈ pieces →
    start < position ∧ values[position - (start + 1)]? = some value

variable {cast}

theorem Numbered.mem_names {start : Nat} {values : List Value} {pieces : List (Piece Value)}
    (numbered : Numbered cast start values pieces) (name : String) :
    name ∈ names pieces ↔ name ∈ placeholders start values.length := by
  rw [← numbered.named, List.mem_eraseDups]

theorem numbered_nil (start : Nat) : Numbered cast start [] [] where
  separated := trivial
  named := rfl
  bound position value member := by cases member

theorem numbered_slot_text (start : Nat) (value : Value) (after : String)
    (plainCast : '$' ∉ (cast value).toList) (plainAfter : '$' ∉ after.toList)
    (apart : startsWithDigit (cast value ++ after) = false) :
    Numbered cast start [value] [.slot (start + 1) value, .text after] where
  separated := by
    refine ⟨plainCast, ?_, plainAfter, trivial⟩
    rwa [render_text, render_nil, String.append_empty]
  named := rfl
  bound position other member := by
    simp only [List.mem_cons, Piece.slot.injEq, reduceCtorEq, List.not_mem_nil, or_false] at member
    obtain ⟨rfl, rfl⟩ := member
    simp

theorem numbered_slot (start : Nat) (value : Value) (plainCast : '$' ∉ (cast value).toList)
    (apart : startsWithDigit (cast value) = false) :
    Numbered cast start [value] [.slot (start + 1) value] where
  separated := by
    refine ⟨plainCast, ?_, trivial⟩
    rwa [render_nil, String.append_empty]
  named := rfl
  bound position other member := by
    simp only [List.mem_cons, Piece.slot.injEq, List.not_mem_nil, or_false] at member
    obtain ⟨rfl, rfl⟩ := member
    simp

/-- A text before a layout. -/
theorem Numbered.text_cons {start : Nat} {values : List Value} {pieces : List (Piece Value)}
    (numbered : Numbered cast start values pieces) (text : String) (plain : '$' ∉ text.toList) :
    Numbered cast start values (.text text :: pieces) where
  separated := ⟨plain, numbered.separated⟩
  named := numbered.named
  bound position value member := by
    rcases List.mem_cons.mp member with same | member
    · cases same
    · exact numbered.bound position value member

/-- One layout after another, with its values after the other's. -/
theorem Numbered.append {start : Nat} {firstValues secondValues : List Value}
    {first second : List (Piece Value)} (numberedFirst : Numbered cast start firstValues first)
    (numberedSecond : Numbered cast (start + firstValues.length) secondValues second)
    (plain : startsWithDigit (render cast second) = false) :
    Numbered cast start (firstValues ++ secondValues) (first ++ second) where
  separated := separated_append cast first second numberedFirst.separated
    numberedSecond.separated plain
  named := by
    have apart : (names second).removeAll (names first) = names second := by
      refine List.filter_eq_self.mpr fun name member => ?_
      simp only [Bool.not_eq_true', List.elem_eq_mem, decide_eq_false_iff_not]
      intro before
      rw [numberedFirst.mem_names, mem_placeholders] at before
      rw [numberedSecond.mem_names, mem_placeholders] at member
      obtain ⟨low, _, below, rfl⟩ := before
      obtain ⟨high, above, _, same⟩ := member
      have := placeholder_injective same
      omega
    rw [names_append, List.eraseDups_append, apart, numberedFirst.named, numberedSecond.named,
      placeholders_append, List.length_append]
  bound position value member := by
    rcases List.mem_append.mp member with member | member
    · obtain ⟨above, found⟩ := numberedFirst.bound position value member
      have below := (List.getElem?_eq_some_iff.mp found).1
      rw [List.getElem?_append_left below]
      exact ⟨above, found⟩
    · obtain ⟨above, found⟩ := numberedSecond.bound position value member
      refine ⟨by omega, ?_⟩
      rw [List.getElem?_append_right (by omega)]
      convert found using 2
      omega

/-- One layout after another with the same values. -/
theorem Numbered.again {start : Nat} {values : List Value} {first second : List (Piece Value)}
    (numberedFirst : Numbered cast start values first)
    (numberedSecond : Numbered cast start values second)
    (plain : startsWithDigit (render cast second) = false) :
    Numbered cast start values (first ++ second) where
  separated := separated_append cast first second numberedFirst.separated
    numberedSecond.separated plain
  named := by
    have covered : (names second).removeAll (names first) = [] := by
      refine List.filter_eq_nil_iff.mpr fun name member => ?_
      rw [numberedSecond.mem_names, ← numberedFirst.mem_names] at member
      simpa using member
    rw [names_append, List.eraseDups_append, covered, numberedFirst.named, List.eraseDups_nil,
      List.append_nil]
  bound position value member := by
    rcases List.mem_append.mp member with member | member
    · exact numberedFirst.bound position value member
    · exact numberedSecond.bound position value member

/-- A text after a layout. -/
theorem Numbered.append_text {start : Nat} {values : List Value} {pieces : List (Piece Value)}
    (numbered : Numbered cast start values pieces) (text : String) (plain : '$' ∉ text.toList)
    (apart : startsWithDigit text = false) :
    Numbered cast start values (pieces ++ [.text text]) := by
  have ends : Numbered cast (start + values.length) [] [.text text] :=
    (numbered_nil _).text_cons text plain
  have appended := numbered.append ends (by rwa [render_text, render_nil, String.append_empty])
  rwa [List.append_nil] at appended

/-- A separator is not empty, has no dollar sign and does not start with a digit. -/
structure Separator (text : String) : Prop where
  nonempty : text ≠ ""
  plain : '$' ∉ text.toList
  apart : startsWithDigit text = false

/-- Layouts numbered one after the other. -/
inductive NumberedAll (cast : Value → String) :
    Nat → List Value → List (List (Piece Value)) → Prop
  | nil (start : Nat) : NumberedAll cast start [] []
  | cons {start : Nat} {values others : List Value} {pieces : List (Piece Value)}
      {rest : List (List (Piece Value))} (first : Numbered cast start values pieces)
      (following : NumberedAll cast (start + values.length) others rest) :
      NumberedAll cast start (values ++ others) (pieces :: rest)

theorem NumberedAll.append {start : Nat} {firstValues secondValues : List Value}
    {first second : List (List (Piece Value))}
    (numberedFirst : NumberedAll cast start firstValues first)
    (numberedSecond : NumberedAll cast (start + firstValues.length) secondValues second) :
    NumberedAll cast start (firstValues ++ secondValues) (first ++ second) := by
  induction numberedFirst with
  | nil start => exact numberedSecond
  | cons head _ inductionHypothesis =>
    rw [List.length_append, ← Nat.add_assoc] at numberedSecond
    rw [List.append_assoc]
    exact .cons head (inductionHypothesis numberedSecond)

theorem NumberedAll.singleton {start : Nat} {values : List Value} {pieces : List (Piece Value)}
    (numbered : Numbered cast start values pieces) : NumberedAll cast start values [pieces] := by
  have single : NumberedAll cast start (values ++ []) [pieces] := .cons numbered (.nil _)
  rwa [List.append_nil] at single

/-- Layouts numbered one after the other stay numbered when they are joined. -/
theorem NumberedAll.join {start : Nat} {values : List Value}
    {groups : List (List (Piece Value))} (numbered : NumberedAll cast start values groups)
    (separator : String) (separates : Separator separator) :
    Numbered cast start values (joinPieces separator groups) := by
  induction numbered with
  | nil start => exact numbered_nil start
  | cons first following inductionHypothesis =>
    cases following with
    | nil =>
      rw [List.append_nil]
      exact first
    | cons next others =>
      refine first.append (inductionHypothesis.text_cons separator separates.plain) ?_
      rw [render_text, startsWithDigit_append_left _ _ separates.nonempty]
      exact separates.apart

/-- Layouts of the same values stay numbered when they are joined. -/
theorem numbered_joinPieces_again {start : Nat} {values : List Value} (pieces : List (Piece Value))
    (groups : List (List (Piece Value)))
    (numbered : ∀ group ∈ pieces :: groups, Numbered cast start values group)
    (separator : String) (separates : Separator separator) :
    Numbered cast start values (joinPieces separator (pieces :: groups)) := by
  induction groups generalizing pieces with
  | nil => exact numbered pieces List.mem_cons_self
  | cons next rest inductionHypothesis =>
    have others := inductionHypothesis next fun group member =>
      numbered group (List.mem_cons_of_mem pieces member)
    refine (numbered pieces List.mem_cons_self).again
      (others.text_cons separator separates.plain) ?_
    rw [render_text, startsWithDigit_append_left _ _ separates.nonempty]
    exact separates.apart

theorem numberedAll_slots (start : Nat) (values : List Value)
    (plainCast : ∀ value ∈ values, '$' ∉ (cast value).toList)
    (apart : ∀ value ∈ values, startsWithDigit (cast value) = false) :
    NumberedAll cast start values (slots start values) := by
  induction values generalizing start with
  | nil => exact .nil start
  | cons value rest inductionHypothesis =>
    have first : Numbered cast start [value] [.slot (start + 1) value] :=
      numbered_slot start value (plainCast value List.mem_cons_self)
        (apart value List.mem_cons_self)
    refine .cons first (inductionHypothesis (start + 1) ?_ ?_)
    · exact fun other member => plainCast other (List.mem_cons_of_mem value member)
    · exact fun other member => apart other (List.mem_cons_of_mem value member)

/-- The distinct placeholders in the text of a numbered layout are those of its values, and
their first occurrences are in order. -/
theorem Numbered.occurrences_eraseDups {start : Nat} {values : List Value}
    {pieces : List (Piece Value)} (numbered : Numbered cast start values pieces) :
    (occurrences (render cast pieces)).eraseDups = placeholders start values.length := by
  rw [occurrences_render cast pieces numbered.separated, numbered.named]

end Layouts

end SharedGo.NumberedText
