/-
This file models the part of Go's `strings` package the services use. A Go
string is a Lean `String`, read as its list of characters; each function is the
documented one, and the lemmas say how it meets concatenation, which is how the
services build every text they produce.
-/

import Mathlib.Data.List.Infix
import Mathlib.Data.List.TakeWhile
import Mathlib.Logic.Relation

namespace SharedGo.Text

/-! ### Case -/

/-- Go's Unicode case tables: `strings.ToLower`, `strings.ToUpper` and `strings.EqualFold`.
They are a parameter; what a result needs them to hold is a hypothesis of it. -/
class CaseMapping where
  toLower : String → String
  toUpper : String → String
  equalFold : String → String → Bool

/-- The case tables restricted to the letters of ASCII. -/
@[reducible] def asciiCase : CaseMapping where
  toLower text := String.ofList (text.toList.map Char.toLower)
  toUpper text := String.ofList (text.toList.map Char.toUpper)
  equalFold first second := first.toList.map Char.toLower = second.toList.map Char.toLower

/-- The tables change the letters of an ASCII text as `asciiCase` does. -/
def LowersAscii [CaseMapping] : Prop :=
  ∀ text : String, (text.toList.all fun char => char.toNat < 128) = true →
    CaseMapping.toLower text = asciiCase.toLower text

/-! ### Searching -/

/-- `strings.HasPrefix`. -/
def hasPrefix (text start : String) : Bool := decide (start.toList <+: text.toList)

/-- `strings.Contains`. -/
def contains (text part : String) : Bool := decide (part.toList <:+: text.toList)

/-- `strings.ContainsAny`. -/
def containsAny (text chars : String) : Bool :=
  text.toList.any fun char => chars.toList.contains char

/-- The number of non-overlapping occurrences of a non-empty `part`. -/
def countGo (part : List Char) : List Char → Nat → Nat
  | [], _ => 0
  | _ :: rest, skip + 1 => countGo part rest skip
  | char :: rest, 0 =>
    if part <+: char :: rest then countGo part rest (part.length - 1) + 1
    else countGo part rest 0

/-- `strings.Count`, for a non-empty `part`. -/
def count (text part : String) : Nat := countGo part.toList text.toList 0

/-! ### Trimming -/

/-- `unicode.IsSpace`. -/
def isSpace (char : Char) : Bool :=
  [0x09, 0x0A, 0x0B, 0x0C, 0x0D, 0x20, 0x85, 0xA0, 0x1680, 0x2028, 0x2029, 0x202F, 0x205F,
    0x3000].contains char.toNat || (0x2000 ≤ char.toNat && char.toNat ≤ 0x200A)

/-- `strings.TrimSpace`. -/
def trimSpace (text : String) : String :=
  String.ofList (((text.toList.dropWhile isSpace).reverse.dropWhile isSpace).reverse)

/-! ### Splitting and joining -/

/-- `strings.Split` at a one-character separator. -/
def split (text : String) (separator : Char) : List String :=
  (text.toList.splitOn separator).map String.ofList

/-- `strings.FieldsFunc` for the predicate "is the separator": the non-empty pieces. -/
def fields (text : String) (separator : Char) : List String :=
  (split text separator).filter (· ≠ "")

/-- `strings.Join`. -/
def join (separator : String) : List String → String
  | [] => ""
  | [text] => text
  | text :: next :: rest => text ++ separator ++ join separator (next :: rest)

/-- The pieces of a text cut after each occurrence of `separator`; `piece` is what has been
read since the last cut. -/
def splitAfterGo (separator : List Char) : List Char → List Char → List (List Char)
  | piece, [] => [piece]
  | piece, char :: rest =>
    if separator <:+ piece ++ [char] then (piece ++ [char]) :: splitAfterGo separator [] rest
    else splitAfterGo separator (piece ++ [char]) rest

/-- `strings.SplitAfter`, for a non-empty separator. -/
def splitAfter (text separator : String) : List String :=
  (splitAfterGo separator.toList [] text.toList).map String.ofList

/-- `strings.ReplaceAll` of one character. -/
def replaceAll (text : String) (old : Char) (new : String) : String :=
  String.ofList (text.toList.flatMap fun char => if char = old then new.toList else [char])

/-! ### Characters of composed texts -/

theorem toList_join_empty (texts : List String) :
    (join "" texts).toList = (texts.map String.toList).flatten := by
  induction texts with
  | nil => rfl
  | cons text rest inductionHypothesis =>
    cases rest with
    | nil => simp [join]
    | cons next tail =>
      rw [List.map_cons, List.flatten_cons, ← inductionHypothesis]
      simp [join]

theorem fields_eq_map_filter (text : String) (separator : Char) :
    fields text separator =
      ((text.toList.splitOn separator).filter (· ≠ [])).map String.ofList := by
  unfold fields split
  rw [List.filter_map]
  refine congrArg (List.map String.ofList) (List.filter_congr fun piece _ => ?_)
  simp

theorem hasPrefix_iff (text start : String) :
    hasPrefix text start = true ↔ ∃ rest, text = start ++ rest := by
  simp only [hasPrefix, decide_eq_true_eq, List.prefix_iff_exists_append_eq]
  constructor
  · rintro ⟨rest, split⟩
    refine ⟨String.ofList rest, String.toList_inj.mp ?_⟩
    rw [String.toList_append, String.toList_ofList, split]
  · rintro ⟨rest, rfl⟩
    exact ⟨rest.toList, String.toList_append.symm⟩

/-! ### Counting -/

theorem exists_of_countGo (part text : List Char) (skip : Nat)
    (occurs : 0 < countGo part text skip) : ∃ before after, text = before ++ part ++ after := by
  have later (char : Char) (rest : List Char)
      (found : ∃ before after, rest = before ++ part ++ after) :
      ∃ before after, char :: rest = before ++ part ++ after := by
    obtain ⟨before, after, rfl⟩ := found
    exact ⟨char :: before, after, rfl⟩
  fun_induction countGo part text skip
  case case1 => cases occurs
  case case2 char rest skip inductionHypothesis =>
    exact later char rest (inductionHypothesis occurs)
  case case3 char rest starts inductionHypothesis =>
    obtain ⟨after, split⟩ := starts
    exact ⟨[], after, by rw [List.nil_append, split]⟩
  case case4 char rest starts inductionHypothesis =>
    exact later char rest (inductionHypothesis occurs)

/-- A part that is counted stands somewhere in the text. -/
theorem exists_of_count (text part : String) (occurs : 0 < count text part) :
    ∃ before after, text = before ++ part ++ after := by
  obtain ⟨before, after, split⟩ := exists_of_countGo part.toList text.toList 0 occurs
  refine ⟨String.ofList before, String.ofList after, ?_⟩
  rw [← String.toList_inj, split]
  simp

/-! ### Fields -/

theorem fields_nil (separator : Char) : fields "" separator = [] := by
  simp [fields, split]

/-- Cutting at a separator cuts the fields. -/
theorem fields_append (first rest : String) (separator : Char) :
    fields (first ++ String.singleton separator ++ rest) separator =
      fields first separator ++ fields rest separator := by
  have cut : (first ++ String.singleton separator ++ rest).toList =
      first.toList ++ separator :: rest.toList := by simp
  rw [fields_eq_map_filter, cut, List.splitOn_append_cons_self, List.filter_append,
    List.map_append, ← fields_eq_map_filter, ← fields_eq_map_filter]

/-- A non-empty text without the separator is its only field. -/
theorem fields_of_not_mem (text : String) (separator : Char) (nonempty : text ≠ "")
    (absent : separator ∉ text.toList) : fields text separator = [text] := by
  rw [fields_eq_map_filter, List.splitOn_eq_singleton absent]
  simp [nonempty]

/-- The second text is the first with one more separator at its start, at its end, or behind
another one. -/
inductive AddsSeparator (separator : Char) : String → String → Prop
  | leading (text : String) : AddsSeparator separator text (String.singleton separator ++ text)
  | trailing (text : String) : AddsSeparator separator text (text ++ String.singleton separator)
  | repeated (first rest : String) :
      AddsSeparator separator (first ++ String.singleton separator ++ rest)
        (first ++ String.singleton separator ++ (String.singleton separator ++ rest))

theorem fields_leading (text : String) (separator : Char) :
    fields (String.singleton separator ++ text) separator = fields text separator := by
  have empty := fields_append "" text separator
  rwa [String.empty_append, fields_nil, List.nil_append] at empty

theorem fields_of_addsSeparator (separator : Char) (first second : String)
    (adds : AddsSeparator separator first second) :
    fields first separator = fields second separator := by
  cases adds with
  | leading => exact (fields_leading first separator).symm
  | trailing =>
    have empty := fields_append first "" separator
    rw [String.append_empty, fields_nil, List.append_nil] at empty
    exact empty.symm
  | repeated start rest => rw [fields_append, fields_append, fields_leading]

/-- Texts that are the same up to separators at their ends and in a row have the same fields. -/
theorem fields_eq_of_eqvGen (separator : Char) (first second : String)
    (same : Relation.EqvGen (AddsSeparator separator) first second) :
    fields first separator = fields second separator := by
  induction same with
  | rel first second adds => exact fields_of_addsSeparator separator first second adds
  | refl text => rfl
  | symm first second _ inductionHypothesis => exact inductionHypothesis.symm
  | trans first middle last _ _ firstHypothesis lastHypothesis =>
    exact firstHypothesis.trans lastHypothesis

theorem not_mem_of_mem_splitOn (text piece : List Char) (separator : Char)
    (member : piece ∈ text.splitOn separator) : separator ∉ piece := by
  induction text generalizing piece with
  | nil => simp_all
  | cons char rest inductionHypothesis =>
    rw [List.splitOn_cons_eq_if_modifyHead] at member
    split at member
    · rcases List.mem_cons.mp member with rfl | tail
      · exact List.not_mem_nil
      · exact inductionHypothesis piece tail
    · rename_i different
      cases pieces : rest.splitOn separator with
      | nil => exact absurd pieces (List.splitOn_ne_nil separator rest)
      | cons head tail =>
        rw [pieces] at member inductionHypothesis
        rcases List.mem_cons.mp member with rfl | later
        · rw [List.mem_cons, not_or]
          refine ⟨fun equal => different (by simp [equal]), ?_⟩
          exact inductionHypothesis head List.mem_cons_self
        · exact inductionHypothesis piece (List.mem_cons_of_mem _ later)

/-- A field is not empty and does not contain the separator. -/
theorem mem_fields (text field : String) (separator : Char)
    (member : field ∈ fields text separator) :
    field ≠ "" ∧ separator ∉ field.toList := by
  rw [fields_eq_map_filter] at member
  obtain ⟨piece, kept, rfl⟩ := List.mem_map.mp member
  obtain ⟨member, nonempty⟩ := List.mem_filter.mp kept
  rw [String.toList_ofList]
  exact ⟨by simpa using nonempty, not_mem_of_mem_splitOn text.toList piece separator member⟩

/-! ### What trimming leaves -/

theorem dropWhile_eq_self {Item : Type} (drops : Item → Bool) (items : List Item)
    (stays : ∀ item ∈ items.head?, drops item = false) : items.dropWhile drops = items := by
  cases items with
  | nil => rfl
  | cons item rest => simp [stays item rfl]

theorem trimSpace_eq_self (text : String) (spaceless : ∀ char ∈ text.toList, isSpace char = false) :
    trimSpace text = text := by
  have front : text.toList.dropWhile isSpace = text.toList :=
    dropWhile_eq_self isSpace _ fun char isHead => spaceless char (List.mem_of_mem_head? isHead)
  have back : text.toList.reverse.dropWhile isSpace = text.toList.reverse :=
    dropWhile_eq_self isSpace _ fun char isHead =>
      spaceless char (List.mem_reverse.mp (List.mem_of_mem_head? isHead))
  rw [trimSpace, front, back, List.reverse_reverse, String.ofList_toList]

theorem head_dropWhile {Item : Type} (drops : Item → Bool) (items : List Item) :
    ∀ item ∈ (items.dropWhile drops).head?, drops item = false := by
  intro item isHead
  have stops := List.head?_dropWhile_not drops items
  rw [Option.mem_def.mp isHead] at stops
  exact stops

theorem mem_dropWhile {Item : Type} (drops : Item → Bool) (items : List Item) (item : Item)
    (member : item ∈ items) (stays : drops item = false) : item ∈ items.dropWhile drops := by
  rw [← List.takeWhile_append_dropWhile (p := drops) (l := items)] at member
  rcases List.mem_append.mp member with dropped | kept
  · rw [List.mem_takeWhile_imp dropped] at stays
    cases stays
  · exact kept

/-- A trimmed text does not end in a blank. -/
theorem last_trimSpace (text : String) :
    ∀ char ∈ (trimSpace text).toList.reverse.head?, isSpace char = false := by
  rw [trimSpace, String.toList_ofList, List.reverse_reverse]
  exact head_dropWhile isSpace _

/-- Trimming a trimmed text changes nothing. -/
theorem trimSpace_trimSpace (text : String) : trimSpace (trimSpace text) = trimSpace text := by
  have first : ∀ char ∈ (trimSpace text).toList.head?, isSpace char = false := by
    intro char isHead
    refine head_dropWhile isSpace text.toList char ?_
    rw [trimSpace, String.toList_ofList] at isHead
    have front : ((text.toList.dropWhile isSpace).reverse.dropWhile isSpace).reverse <+:
        text.toList.dropWhile isSpace := by
      rw [← List.reverse_suffix, List.reverse_reverse]
      exact List.dropWhile_suffix isSpace
    obtain ⟨rest, split⟩ := front
    rw [← split, List.head?_append_of_ne_nil]
    · exact isHead
    · rintro empty
      rw [empty] at isHead
      cases isHead
  rw [trimSpace, dropWhile_eq_self isSpace _ first,
    dropWhile_eq_self isSpace _ (last_trimSpace text),
    List.reverse_reverse, String.ofList_toList]

theorem mem_trimSpace (text : String) (char : Char) (member : char ∈ text.toList)
    (visible : isSpace char = false) : char ∈ (trimSpace text).toList := by
  rw [trimSpace, String.toList_ofList, List.mem_reverse]
  refine mem_dropWhile isSpace _ char (List.mem_reverse.mpr ?_) visible
  exact mem_dropWhile isSpace _ char member visible

/-- Trimming takes characters away only. -/
theorem mem_of_mem_trimSpace (text : String) (char : Char)
    (member : char ∈ (trimSpace text).toList) : char ∈ text.toList := by
  rw [trimSpace, String.toList_ofList, List.mem_reverse] at member
  have kept := List.mem_reverse.mp ((List.dropWhile_suffix isSpace).subset member)
  exact (List.dropWhile_suffix isSpace).subset kept

/-- What follows a blank in a trimmed text is not blank. -/
theorem trimSpace_ne_empty (start rest : String)
    (trimmed : trimSpace (start ++ " " ++ rest) = start ++ " " ++ rest) : trimSpace rest ≠ "" := by
  intro empty
  have blank : ∀ char ∈ rest.toList, isSpace char = true := by
    intro char member
    by_contra visible
    have kept := mem_trimSpace rest char member (Bool.not_eq_true _ ▸ visible)
    rw [empty] at kept
    cases kept
  have last := last_trimSpace (start ++ " " ++ rest)
  rw [trimmed, String.toList_append, String.toList_append, List.reverse_append] at last
  cases reversed : rest.toList.reverse with
  | nil =>
    rw [reversed] at last
    have visible := last ' ' (by simp)
    cases visible
  | cons char others =>
    rw [reversed] at last
    have visible := last char rfl
    rw [blank char (List.mem_reverse.mp (reversed ▸ List.mem_cons_self))] at visible
    cases visible

/-! ### Splitting -/

theorem split_of_not_mem (text : String) (separator : Char) (absent : separator ∉ text.toList) :
    split text separator = [text] := by
  rw [split, List.splitOn_eq_singleton absent, List.map_singleton, String.ofList_toList]

theorem not_mem_of_mem_split (text piece : String) (separator : Char)
    (member : piece ∈ split text separator) : separator ∉ piece.toList := by
  obtain ⟨chars, isPiece, rfl⟩ := List.mem_map.mp member
  rw [String.toList_ofList]
  exact not_mem_of_mem_splitOn text.toList chars separator isPiece

/-- Splitting what was joined gives the texts back, if they do not contain the separator. -/
theorem split_join (separator : Char) (texts : List String) (nonempty : texts ≠ [])
    (absent : ∀ text ∈ texts, separator ∉ text.toList) :
    split (join (String.singleton separator) texts) separator = texts := by
  induction texts with
  | nil => exact absurd rfl nonempty
  | cons text rest inductionHypothesis =>
    have alone := absent text List.mem_cons_self
    cases rest with
    | nil => simp [split, join, List.splitOn_eq_singleton alone]
    | cons next others =>
      have tail := inductionHypothesis (List.cons_ne_nil _ _)
        fun text member => absent text (List.mem_cons_of_mem _ member)
      have cut : (join (String.singleton separator) (text :: next :: others)).toList =
          text.toList ++ separator ::
            (join (String.singleton separator) (next :: others)).toList := by
        simp [join]
      unfold split at tail ⊢
      rw [cut, List.splitOn_append_cons_self, List.map_append, tail,
        List.splitOn_eq_singleton alone]
      simp

/-! ### Cutting at a separator -/

/-- The text before the first separator. -/
def before (text : String) (separator : Char) : String :=
  String.ofList (text.toList.takeWhile (· ≠ separator))

theorem not_mem_before (text : String) (separator : Char) :
    separator ∉ (before text separator).toList := by
  rw [before, String.toList_ofList]
  intro member
  simpa using List.mem_takeWhile_imp member

/-- What follows the text before the first separator is nothing, or starts with it. -/
theorem exists_cut (text : String) (separator : Char) :
    ∃ rest, text = before text separator ++ rest ∧
      (rest = "" ∨ ∃ tail, rest = String.singleton separator ++ tail) := by
  refine ⟨String.ofList (text.toList.dropWhile (· ≠ separator)), ?_, ?_⟩
  · rw [before, ← String.toList_inj, String.toList_append, String.toList_ofList,
      String.toList_ofList, List.takeWhile_append_dropWhile]
  · have stop := List.head?_dropWhile_not (· ≠ separator) text.toList
    cases remaining : text.toList.dropWhile (· ≠ separator) with
    | nil => exact Or.inl rfl
    | cons char tail =>
      rw [remaining] at stop
      have same : char = separator := by simpa using stop
      refine Or.inr ⟨String.ofList tail, ?_⟩
      rw [← String.toList_inj, same]
      simp

/-- The first piece of a text. -/
theorem split_eq_cons (text : String) (separator : Char) :
    ∃ pieces, split text separator = before text separator :: pieces := by
  obtain ⟨rest, cut, ends⟩ := exists_cut text separator
  have alone := split_of_not_mem _ separator (not_mem_before text separator)
  rcases ends with rfl | ⟨tail, rfl⟩
  · rw [String.append_empty] at cut
    refine ⟨[], ?_⟩
    rwa [← cut] at alone ⊢
  · refine ⟨split tail separator, ?_⟩
    have chars : text.toList = (before text separator).toList ++ separator :: tail.toList := by
      nth_rewrite 1 [cut]
      simp
    unfold split at alone ⊢
    rw [chars, List.splitOn_append_cons_self, List.map_append, alone]
    rfl

/-- `strings.SplitN` at a one-character separator, into at most two pieces. -/
def splitOnce (text : String) (separator : Char) : List String :=
  match text.toList.dropWhile (· ≠ separator) with
  | [] => [text]
  | _ :: rest => [before text separator, String.ofList rest]

theorem splitOnce_append (first second : String) (separator : Char)
    (absent : separator ∉ first.toList) :
    splitOnce (first ++ String.singleton separator ++ second) separator = [first, second] := by
  have others : ∀ char ∈ first.toList, decide (char ≠ separator) = true := by
    intro char member
    rw [decide_eq_true_eq]
    rintro rfl
    exact absent member
  have dropped : (first ++ String.singleton separator ++ second).toList.dropWhile (· ≠ separator) =
      separator :: second.toList := by
    rw [String.toList_append, String.toList_append, List.append_assoc,
      List.dropWhile_append_of_pos others]
    simp
  have start : before (first ++ String.singleton separator ++ second) separator = first := by
    rw [before, String.toList_append, String.toList_append, List.append_assoc,
      List.takeWhile_append_of_pos others]
    simp
  rw [splitOnce, dropped, start]
  simp only [String.ofList_toList]

theorem splitOnce_of_not_mem (text : String) (separator : Char)
    (absent : separator ∉ text.toList) : splitOnce text separator = [text] := by
  have all : text.toList.dropWhile (· ≠ separator) = [] := by
    rw [List.dropWhile_eq_nil_iff]
    intro char member
    rw [decide_eq_true_eq]
    rintro rfl
    exact absent member
  rw [splitOnce, all]

/-- A text with a separator is cut at the first one. -/
theorem exists_splitOnce (text : String) (separator : Char) (member : separator ∈ text.toList) :
    ∃ first second, text = first ++ String.singleton separator ++ second ∧
      separator ∉ first.toList := by
  obtain ⟨rest, cut, rfl | ⟨tail, rfl⟩⟩ := exists_cut text separator
  · rw [String.append_empty] at cut
    rw [cut] at member
    exact absurd member (not_mem_before text separator)
  · refine ⟨before text separator, tail, ?_, not_mem_before text separator⟩
    rw [String.append_assoc]
    exact cut

theorem before_append_of_mem (first rest : String) (separator : Char)
    (member : separator ∈ first.toList) :
    before (first ++ rest) separator = before first separator := by
  rw [before, before, String.toList_append]
  refine congrArg String.ofList ?_
  generalize first.toList = chars at member
  induction chars with
  | nil => cases member
  | cons char tail inductionHypothesis =>
    by_cases same : char = separator
    · simp [same]
    · have later : separator ∈ tail := by
        rcases List.mem_cons.mp member with equal | later
        · exact absurd equal.symm same
        · exact later
      rw [List.cons_append, List.takeWhile_cons, List.takeWhile_cons, inductionHypothesis later]

/-- Blanks around a text do not change the trimmed text before its separator. -/
theorem trimSpace_before (text : String) (separator : Char) (member : separator ∈ text.toList)
    (visible : isSpace separator = false) :
    trimSpace (before (trimSpace text) separator) = trimSpace (before text separator) := by
  -- leading blanks come off before or after the cut
  have leading (chars : List Char) :
      (chars.takeWhile (· ≠ separator)).dropWhile isSpace =
        (chars.dropWhile isSpace).takeWhile (· ≠ separator) := by
    induction chars with
    | nil => rfl
    | cons char rest inductionHypothesis =>
      by_cases same : char = separator
      · simp [same, visible]
      · cases space : isSpace char with
        | true => simpa [same, space] using inductionHypothesis
        | false => simp [same, space]
  have split : String.ofList (text.toList.dropWhile isSpace) = trimSpace text ++
      String.ofList ((text.toList.dropWhile isSpace).reverse.takeWhile isSpace).reverse := by
    rw [← String.toList_inj, String.toList_append, trimSpace, String.toList_ofList,
      String.toList_ofList, String.toList_ofList, ← List.reverse_append,
      List.takeWhile_append_dropWhile, List.reverse_reverse]
  have cut := before_append_of_mem (trimSpace text) (String.ofList
    ((text.toList.dropWhile isSpace).reverse.takeWhile isSpace).reverse) separator
    (mem_trimSpace text separator member visible)
  rw [← split] at cut
  rw [← cut]
  unfold trimSpace before
  simp only [String.toList_ofList, leading]
  rw [dropWhile_eq_self isSpace _ (head_dropWhile isSpace _)]

theorem before_cons (separator : Char) (rest : String) :
    before (String.singleton separator ++ rest) separator = "" := by
  simp [before]

/-! ### Cutting after a separator -/

/-- The pieces of `splitAfter` put together are the text. -/
theorem flatten_splitAfterGo (separator piece text : List Char) :
    (splitAfterGo separator piece text).flatten = piece ++ text := by
  induction text generalizing piece with
  | nil => simp [splitAfterGo]
  | cons char rest inductionHypothesis =>
    unfold splitAfterGo
    split
    · rw [List.flatten_cons, inductionHypothesis]
      simp
    · rw [inductionHypothesis]
      simp

end SharedGo.Text
