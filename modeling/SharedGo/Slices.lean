/-
This file is a library for the slices of Go. A slice is a part of an array that
other slices may share, and what is written through one of them is seen through the
others. An append writes into the array when there is room behind the slice, and
moves the elements to a new array otherwise. The lemmas say which arrays an
operation leaves alone: a slice whose array nobody else writes to keeps its
elements.
-/

import Mathlib.Data.List.Basic

namespace SharedGo

/-- The beginning of an array; the nil slice has none. -/
structure Slice where
  array : Option Nat
  length : Nat
  deriving DecidableEq, Repr

def Slice.nil : Slice := ⟨none, 0⟩

/-- Two slices have no array in common. -/
def Slice.Apart (first second : Slice) : Prop :=
  ∀ array, first.array = some array → second.array ≠ some array

theorem Slice.Apart.symm {first second : Slice} (apart : first.Apart second) :
    second.Apart first :=
  fun array isSecond isFirst => apart array isFirst isSecond

theorem Slice.nil_apart (slice : Slice) : Slice.nil.Apart slice := by
  intro array isArray
  cases isArray

/-- A slice does not reach beyond another, if they have an array in common. -/
def Slice.Under (shorter longer : Slice) : Prop :=
  ∀ array, shorter.array = some array → longer.array = some array → shorter.length ≤ longer.length

/-- The arrays that have been made so far. -/
structure ArrayHeap (Value : Type) where
  arrays : List (List Value)
  deriving Repr

namespace ArrayHeap

variable {Value : Type}

def empty : ArrayHeap Value := ⟨[]⟩

def contents (heap : ArrayHeap Value) (array : Nat) : List Value := heap.arrays[array]?.getD []

/-- The elements that a slice can have, with those behind its end. -/
def room (heap : ArrayHeap Value) (slice : Slice) : List Value :=
  match slice.array with
  | none => []
  | some array => heap.contents array

/-- The elements of a slice. -/
def read (heap : ArrayHeap Value) (slice : Slice) : List Value :=
  (heap.room slice).take slice.length

/-- A new array with some elements. -/
def make (heap : ArrayHeap Value) (values : List Value) : ArrayHeap Value × Nat :=
  (⟨heap.arrays ++ [values]⟩, heap.arrays.length)

/-- Writes an element of an array. -/
def write (heap : ArrayHeap Value) (array index : Nat) (value : Value) : ArrayHeap Value :=
  ⟨heap.arrays.modify array (·.set index value)⟩

/-- A copy of a slice in an array of its own. -/
def clone (heap : ArrayHeap Value) (slice : Slice) : ArrayHeap Value × Slice :=
  ((heap.make (heap.read slice)).1, ⟨some (heap.make (heap.read slice)).2, slice.length⟩)

/-- Appends an element. When there is no room the elements move to a new array, which has some
spare room behind them. -/
def append (heap : ArrayHeap Value) (slice : Slice) (value : Value) (spare : List Value) :
    ArrayHeap Value × Slice :=
  match slice.array with
  | some array =>
    if slice.length < (heap.contents array).length then
      (heap.write array slice.length value, ⟨some array, slice.length + 1⟩)
    else
      ((heap.make (heap.read slice ++ value :: spare)).1,
        ⟨some heap.arrays.length, slice.length + 1⟩)
  | none =>
    ((heap.make (heap.read slice ++ value :: spare)).1,
      ⟨some heap.arrays.length, slice.length + 1⟩)

/-- The slice lies within an array that has been made. -/
structure Valid (heap : ArrayHeap Value) (slice : Slice) : Prop where
  known : ∀ array, slice.array = some array → array < heap.arrays.length
  within : slice.length ≤ (heap.room slice).length

/-- The arrays are as before, and there may be more. -/
structure Extends (heap next : ArrayHeap Value) (kept : Nat → Prop) : Prop where
  larger : heap.arrays.length ≤ next.arrays.length
  same : ∀ array, array < heap.arrays.length → kept array →
    next.contents array = heap.contents array

theorem valid_nil (heap : ArrayHeap Value) : heap.Valid .nil where
  known array isArray := by cases isArray
  within := Nat.zero_le _

theorem length_read (heap : ArrayHeap Value) (slice : Slice) (valid : heap.Valid slice) :
    (heap.read slice).length = slice.length := by
  rw [read, List.length_take]
  exact Nat.min_eq_left valid.within

/-! ### What an operation leaves alone -/

theorem contents_make (heap : ArrayHeap Value) (values : List Value) :
    (heap.make values).1.contents heap.arrays.length = values := by
  simp [contents, make]

theorem extends_make (heap : ArrayHeap Value) (values : List Value) :
    heap.Extends (heap.make values).1 fun _ => True where
  larger := by simp [make]
  same array before _ := by
    rw [contents, contents, make, List.getElem?_append_left before]

theorem extends_write (heap : ArrayHeap Value) (array index : Nat) (value : Value) :
    heap.Extends (heap.write array index value) (· ≠ array) where
  larger := by simp [write]
  same other _ different := by
    rw [contents, contents, write, List.getElem?_modify_ne _ _ different.symm]

theorem contents_write (heap : ArrayHeap Value) (array index : Nat) (value : Value) :
    (heap.write array index value).contents array = (heap.contents array).set index value := by
  rw [contents, contents, write, List.getElem?_modify_eq]
  cases heap.arrays[array]? <;> rfl

theorem length_contents_write (heap : ArrayHeap Value) (array index other : Nat) (value : Value) :
    ((heap.write array index value).contents other).length = (heap.contents other).length := by
  by_cases same : other = array
  · rw [same, contents_write, List.length_set]
  · rw [contents, contents, write, List.getElem?_modify_ne _ _ (Ne.symm same)]

/-- A slice keeps its elements when its array is kept. -/
theorem Extends.read {heap next : ArrayHeap Value} {kept : Nat → Prop}
    (extended : heap.Extends next kept) (slice : Slice) (valid : heap.Valid slice)
    (isKept : ∀ array, slice.array = some array → kept array) :
    next.read slice = heap.read slice ∧ next.Valid slice := by
  obtain ⟨array, length⟩ := slice
  cases array with
  | none =>
    exact ⟨rfl, ⟨by simp, valid.within⟩⟩
  | some array =>
    have known := valid.known array rfl
    have same : next.room ⟨some array, length⟩ = heap.room ⟨some array, length⟩ :=
      extended.same array known (isKept array rfl)
    refine ⟨by rw [ArrayHeap.read, ArrayHeap.read, same], ⟨fun other isArray => ?_, ?_⟩⟩
    · obtain rfl := Option.some_inj.mp isArray
      exact Nat.lt_of_lt_of_le known extended.larger
    · rw [same]
      exact valid.within

/-- A write may change the elements of a slice, and leaves it valid. -/
theorem valid_write (heap : ArrayHeap Value) (array index : Nat) (value : Value) (slice : Slice)
    (valid : heap.Valid slice) : (heap.write array index value).Valid slice := by
  obtain ⟨other, length⟩ := slice
  cases other with
  | none => exact ⟨by simp, valid.within⟩
  | some other =>
    refine ⟨fun made isArray => ?_, ?_⟩
    · obtain rfl := Option.some_inj.mp isArray
      exact Nat.lt_of_lt_of_le (valid.known other rfl) (extends_write heap array index value).larger
    · show length ≤ ((heap.write array index value).contents other).length
      rw [length_contents_write]
      exact valid.within

theorem valid_made (heap : ArrayHeap Value) (values : List Value) (length : Nat)
    (fits : length ≤ values.length) :
    (heap.make values).1.Valid ⟨some heap.arrays.length, length⟩ where
  known array isArray := by
    obtain rfl := Option.some_inj.mp isArray
    simp [make]
  within := by
    show length ≤ ((heap.make values).1.contents heap.arrays.length).length
    rwa [contents_make]

/-- A new array is in no slice that there is already. -/
theorem made_apart (heap : ArrayHeap Value) (length : Nat) (slice : Slice)
    (valid : heap.Valid slice) : Slice.Apart ⟨some heap.arrays.length, length⟩ slice := by
  intro array isMade isArray
  obtain rfl := Option.some_inj.mp isMade
  exact absurd (valid.known _ isArray) (Nat.lt_irrefl _)

/-- A write changes only the slices of its array. -/
theorem read_write_other (heap : ArrayHeap Value) (array index : Nat) (value : Value)
    (slice : Slice) (valid : heap.Valid slice) (other : slice.array ≠ some array) :
    (heap.write array index value).read slice = heap.read slice :=
  ((extends_write heap array index value).read slice valid
    fun _ isArray same => other (same ▸ isArray)).1

/-! ### Copies and appends -/

theorem extends_clone (heap : ArrayHeap Value) (slice : Slice) :
    heap.Extends (heap.clone slice).1 fun _ => True :=
  extends_make heap _

theorem read_clone (heap : ArrayHeap Value) (slice : Slice) (valid : heap.Valid slice) :
    (heap.clone slice).1.read (heap.clone slice).2 = heap.read slice ∧
      (heap.clone slice).1.Valid (heap.clone slice).2 := by
  have copied : (heap.clone slice).1.room (heap.clone slice).2 = heap.read slice :=
    contents_make heap (heap.read slice)
  have length := length_read heap slice valid
  refine ⟨?_, valid_made heap _ slice.length (Nat.le_of_eq length.symm)⟩
  rw [read, copied]
  exact List.take_of_length_le (Nat.le_of_eq length)

/-- A copy leaves every slice as it is. -/
theorem read_clone_other (heap : ArrayHeap Value) (slice other : Slice)
    (valid : heap.Valid other) :
    (heap.clone slice).1.read other = heap.read other ∧ (heap.clone slice).1.Valid other :=
  (extends_clone heap slice).read other valid fun _ _ => trivial

theorem clone_apart (heap : ArrayHeap Value) (slice other : Slice) (valid : heap.Valid other) :
    (heap.clone slice).2.Apart other :=
  made_apart heap slice.length other valid

/-- An append leaves all other arrays alone, and its slice is in the array of the first one or in a
new one. -/
theorem append_cases (heap : ArrayHeap Value) (slice : Slice) (value : Value)
    (spare : List Value) :
    heap.Extends (heap.append slice value spare).1 (fun array => slice.array ≠ some array) ∧
      ∃ array, (heap.append slice value spare).2 = ⟨some array, slice.length + 1⟩ ∧
        (slice.array = some array ∨ array = heap.arrays.length) := by
  have moved (values : List Value) :
      heap.Extends (heap.make values).1 fun array => slice.array ≠ some array :=
    ⟨(extends_make heap values).larger,
      fun array before _ => (extends_make heap values).same array before trivial⟩
  rw [append]
  cases isArray : slice.array with
  | none => exact ⟨by simpa [isArray] using moved _, _, rfl, Or.inr rfl⟩
  | some array =>
    simp only
    split_ifs
    · refine ⟨⟨(extends_write heap array _ value).larger, fun other before different => ?_⟩,
        array, rfl, Or.inl rfl⟩
      exact (extends_write heap array _ value).same other before
        fun same => different (congrArg some same.symm)
    · exact ⟨by simpa [isArray] using moved _, _, rfl, Or.inr rfl⟩

/-- An append leaves the slices of other arrays as they are. -/
theorem read_append_other (heap : ArrayHeap Value) (slice other : Slice) (value : Value)
    (spare : List Value) (valid : heap.Valid other) (apart : slice.Apart other) :
    (heap.append slice value spare).1.read other = heap.read other ∧
      (heap.append slice value spare).1.Valid other :=
  (append_cases heap slice value spare).1.read other valid apart.symm

theorem append_apart (heap : ArrayHeap Value) (slice other : Slice) (value : Value)
    (spare : List Value) (valid : heap.Valid other) (apart : slice.Apart other) :
    (heap.append slice value spare).2.Apart other := by
  obtain ⟨_, array, appended, old | rfl⟩ := append_cases heap slice value spare
  · rw [appended]
    exact fun same isArray => apart same (old.trans isArray)
  · rw [appended]
    exact made_apart heap _ other valid

/-- An append leaves the slices as they are that do not reach beyond its own. -/
theorem read_append_under (heap : ArrayHeap Value) (slice other : Slice) (value : Value)
    (spare : List Value) (valid : heap.Valid other) (under : other.Under slice) :
    (heap.append slice value spare).1.read other = heap.read other ∧
      (heap.append slice value spare).1.Valid other := by
  by_cases apart : slice.Apart other
  · exact read_append_other heap slice other value spare valid apart
  obtain ⟨array, isSlice, isOther⟩ : ∃ array, slice.array = some array ∧
      other.array = some array := by
    simpa [Slice.Apart] using apart
  have shorter := under array isOther isSlice
  have made (values : List Value) := (extends_make heap values).read other valid fun _ _ => trivial
  rw [append, isSlice]
  simp only
  split_ifs
  · refine ⟨?_, valid_write heap array _ value other valid⟩
    rw [read, read, room, room, isOther]
    show ((heap.write array slice.length value).contents array).take other.length = _
    rw [contents_write, List.take_set_of_le shorter]
  · exact made _

/-- The slice of an append goes on reaching further. -/
theorem append_under (heap : ArrayHeap Value) (slice other : Slice) (value : Value)
    (spare : List Value) (valid : heap.Valid other) (under : other.Under slice) :
    other.Under (heap.append slice value spare).2 := by
  obtain ⟨_, array, appended, old | rfl⟩ := append_cases heap slice value spare
  · intro same isOther isAppended
    rw [appended] at isAppended ⊢
    obtain rfl := Option.some_inj.mp isAppended
    exact Nat.le_succ_of_le (under array isOther old)
  · intro same isOther isAppended
    rw [appended] at isAppended
    obtain rfl := Option.some_inj.mp isAppended
    exact absurd (valid.known _ isOther) (Nat.lt_irrefl _)

theorem read_moved (heap : ArrayHeap Value) (slice : Slice) (value : Value) (spare : List Value)
    (valid : heap.Valid slice) :
    let moved := (heap.make (heap.read slice ++ value :: spare)).1
    moved.read ⟨some heap.arrays.length, slice.length + 1⟩ = heap.read slice ++ [value] ∧
      moved.Valid ⟨some heap.arrays.length, slice.length + 1⟩ := by
  intro moved
  have room : moved.room ⟨some heap.arrays.length, slice.length + 1⟩ =
      heap.read slice ++ value :: spare := contents_make heap _
  have length := length_read heap slice valid
  refine ⟨?_, valid_made heap _ _ ?_⟩
  · rw [read, room, ← length, List.take_length_add_append, List.take_succ_cons, List.take_zero]
  · rw [List.length_append, length, List.length_cons]
    show slice.length + 1 ≤ _
    omega

theorem read_append (heap : ArrayHeap Value) (slice : Slice) (value : Value) (spare : List Value)
    (valid : heap.Valid slice) :
    (heap.append slice value spare).1.read (heap.append slice value spare).2 =
        heap.read slice ++ [value] ∧
      (heap.append slice value spare).1.Valid (heap.append slice value spare).2 := by
  have moved := read_moved heap slice value spare valid
  rw [append]
  cases isArray : slice.array with
  | none => exact moved
  | some array =>
    simp only
    split_ifs with fits
    · -- There is room: the element is written behind the end.
      have room : heap.room slice = heap.contents array := by rw [ArrayHeap.room, isArray]
      have written := contents_write heap array slice.length value
      refine ⟨?_, fun other isOther => ?_, ?_⟩
      · show ((heap.write array slice.length value).contents array).take _ = _
        have fitsWritten :
            slice.length < ((heap.contents array).set slice.length value).length := by
          rwa [List.length_set]
        rw [written, read, room, List.take_succ_eq_append_getElem fitsWritten,
          List.take_set_of_le (Nat.le_refl _), List.getElem_set_self]
      · obtain rfl := Option.some_inj.mp isOther
        exact Nat.lt_of_lt_of_le (valid.known array isArray)
          (extends_write heap array _ value).larger
      · show slice.length + 1 ≤ ((heap.write array slice.length value).contents array).length
        rw [length_contents_write]
        exact fits
    · exact moved

end ArrayHeap

end SharedGo
