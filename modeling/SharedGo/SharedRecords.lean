/-
This file is a library for records that two maps share. Both maps hold pointers to
the same cells, each under a key of its own; a change through one of them is seen
through the other. The maps are paired when each cell that one of them points to is
in the other under the other key of its record. Paired maps are one map from the
first keys to the records, and the lemmas say what each operation does to that map.
-/

import SharedGo.MapRange

namespace SharedGo

/-- Records in cells, with the pointers to them under two kinds of keys. -/
structure TwoIndexed (First Second Record : Type) where
  cells : List Record
  byFirst : GoMap First Nat
  bySecond : GoMap Second Nat

namespace TwoIndexed

variable {First Second Record : Type}

def empty : TwoIndexed First Second Record := ⟨[], ∅, ∅⟩

/-- The same records with the maps in the other order. -/
def swap (store : TwoIndexed First Second Record) : TwoIndexed Second First Record :=
  ⟨store.cells, store.bySecond, store.byFirst⟩

variable [DecidableEq First] [DecidableEq Second]

omit [DecidableEq Second] in
def findFirst (store : TwoIndexed First Second Record) (key : First) : Option Record :=
  (store.byFirst.lookup key).bind fun pointer => store.cells[pointer]?

omit [DecidableEq First] in
def findSecond (store : TwoIndexed First Second Record) (key : Second) : Option Record :=
  store.swap.findFirst key

/-- Stores the pointer to a new record under both keys. -/
def add (store : TwoIndexed First Second Record) (first : First) (second : Second)
    (record : Record) : TwoIndexed First Second Record where
  cells := store.cells ++ [record]
  byFirst := store.byFirst.insert first store.cells.length
  bySecond := store.bySecond.insert second store.cells.length

omit [DecidableEq First] in
/-- Changes the record under a second key, if there is one. -/
def modifySecond (store : TwoIndexed First Second Record) (key : Second)
    (change : Record → Record) : TwoIndexed First Second Record :=
  match store.bySecond.lookup key with
  | none => store
  | some pointer => { store with cells := store.cells.modify pointer change }

/-- Removes a key from each map. -/
def remove (store : TwoIndexed First Second Record) (first : First) (second : Second) :
    TwoIndexed First Second Record :=
  { store with
    byFirst := store.byFirst.erase first
    bySecond := store.bySecond.erase second }

/-! ### Paired maps -/

section Pairing

variable (firstOf : Record → First) (secondOf : Record → Second)

/-- Each pointer in the first map is there under the key of its record, and is in the second map
too. -/
def Covered (store : TwoIndexed First Second Record) : Prop :=
  ∀ key pointer, store.byFirst.lookup key = some pointer →
    ∃ record, store.cells[pointer]? = some record ∧ firstOf record = key ∧
      store.bySecond.lookup (secondOf record) = some pointer

/-- Each pointer is in both maps, under the keys of its record. -/
structure Paired (store : TwoIndexed First Second Record) : Prop where
  first : Covered firstOf secondOf store
  second : Covered secondOf firstOf store.swap

end Pairing

variable {firstOf : Record → First} {secondOf : Record → Second}

theorem paired_empty : Paired firstOf secondOf (empty : TwoIndexed First Second Record) where
  first key pointer found := by cases found
  second key pointer found := by cases found

namespace Paired

variable {store : TwoIndexed First Second Record} (paired : Paired firstOf secondOf store)

include paired

theorem swap : Paired secondOf firstOf store.swap := ⟨paired.second, paired.first⟩

theorem findFirst_key (key : First) (record : Record) (found : store.findFirst key = some record) :
    firstOf record = key := by
  obtain ⟨pointer, points, cell⟩ := Option.bind_eq_some_iff.mp found
  obtain ⟨same, sameCell, keyed, _⟩ := paired.first key pointer points
  obtain rfl : record = same := Option.some_inj.mp (cell.symm.trans sameCell)
  exact keyed

/-- What is under a first key is also under the second key of its record. -/
theorem findSecond_of_findFirst (key : First) (record : Record)
    (found : store.findFirst key = some record) :
    store.findSecond (secondOf record) = some record := by
  obtain ⟨pointer, points, cell⟩ := Option.bind_eq_some_iff.mp found
  obtain ⟨same, sameCell, _, other⟩ := paired.first key pointer points
  obtain rfl : record = same := Option.some_inj.mp (cell.symm.trans sameCell)
  exact Option.bind_eq_some_iff.mpr ⟨pointer, other, cell⟩

/-- What is under a second key is what is under the first key of its record. -/
theorem findSecond_iff (key : Second) (record : Record) :
    store.findSecond key = some record ↔
      store.findFirst (firstOf record) = some record ∧ secondOf record = key := by
  constructor
  · intro found
    exact ⟨paired.swap.findSecond_of_findFirst key record found,
      paired.swap.findFirst_key key record found⟩
  · rintro ⟨found, rfl⟩
    exact paired.findSecond_of_findFirst _ record found

theorem lookup_none (key : First) (missing : store.findFirst key = none) :
    store.byFirst.lookup key = none := by
  cases points : store.byFirst.lookup key with
  | none => rfl
  | some pointer =>
    obtain ⟨record, cell, _⟩ := paired.first key pointer points
    rw [findFirst, points, Option.bind_some, cell] at missing
    cases missing

/-- The two maps hold the same pointers. -/
theorem pointers_iff (pointer : Nat) :
    (∃ key, store.byFirst.lookup key = some pointer) ↔
      ∃ key, store.bySecond.lookup key = some pointer := by
  constructor
  · rintro ⟨key, points⟩
    obtain ⟨record, _, _, other⟩ := paired.first key pointer points
    exact ⟨secondOf record, other⟩
  · rintro ⟨key, points⟩
    obtain ⟨record, _, _, other⟩ := paired.second key pointer points
    exact ⟨firstOf record, other⟩

theorem pointer_lt (key : First) (pointer : Nat)
    (points : store.byFirst.lookup key = some pointer) : pointer < store.cells.length := by
  obtain ⟨record, cell, _⟩ := paired.first key pointer points
  exact (List.getElem?_eq_some_iff.mp cell).1

/-! ### Adding -/

theorem findFirst_add (first key : First) (second : Second) (record : Record) :
    (store.add first second record).findFirst key =
      if key = first then some record else store.findFirst key := by
  simp only [findFirst, TwoIndexed.add, GoMap.lookup_insert_eq]
  split
  · simp
  · cases points : store.byFirst.lookup key with
    | none => rfl
    | some pointer => exact List.getElem?_append_left (paired.pointer_lt key pointer points)

theorem covered_add (record : Record) (fresh : store.findSecond (secondOf record) = none) :
    Covered firstOf secondOf (store.add (firstOf record) (secondOf record) record) := by
  intro key pointer points
  rcases GoMap.lookup_insert_cases _ _ _ _ _ points with ⟨rfl, rfl⟩ | earlier
  · exact ⟨record, List.getElem?_concat_length, rfl, AList.lookup_insert _⟩
  · obtain ⟨old, cell, keyed, other⟩ := paired.first key pointer earlier
    have missing : store.bySecond.lookup (secondOf record) = none :=
      paired.swap.lookup_none _ fresh
    have different : secondOf old ≠ secondOf record := by
      intro same
      rw [same, missing] at other
      cases other
    refine ⟨old, ?_, keyed, (AList.lookup_insert_ne different).trans other⟩
    exact (List.getElem?_append_left (paired.pointer_lt key pointer earlier)).trans cell

/-- A record under two keys that are not there yet leaves the maps paired. -/
theorem add (record : Record) (freshFirst : store.findFirst (firstOf record) = none)
    (freshSecond : store.findSecond (secondOf record) = none) :
    Paired firstOf secondOf (store.add (firstOf record) (secondOf record) record) :=
  ⟨paired.covered_add record freshSecond, paired.swap.covered_add record freshFirst⟩

/-! ### Changing -/

/-- A record has a second key exactly when the second map points to its cell under that key. -/
theorem secondOf_iff (first : First) (pointer : Nat) (record : Record) (key : Second)
    (points : store.byFirst.lookup first = some pointer)
    (cell : store.cells[pointer]? = some record) :
    secondOf record = key ↔ store.bySecond.lookup key = some pointer := by
  constructor
  · rintro rfl
    obtain ⟨same, sameCell, _, other⟩ := paired.first first pointer points
    obtain rfl : record = same := Option.some_inj.mp (cell.symm.trans sameCell)
    exact other
  · intro other
    obtain ⟨same, sameCell, keyed, _⟩ := paired.second key pointer other
    obtain rfl : record = same := Option.some_inj.mp (cell.symm.trans sameCell)
    exact keyed

/-- A change through the second map changes the record with that key, and no other. -/
theorem findFirst_modifySecond (key : Second) (change : Record → Record) (first : First) :
    (store.modifySecond key change).findFirst first =
      (store.findFirst first).map fun record =>
        if secondOf record = key then change record else record := by
  have sameMap : (store.modifySecond key change).byFirst = store.byFirst := by
    unfold modifySecond
    split <;> rfl
  rw [findFirst, findFirst, sameMap]
  cases points : store.byFirst.lookup first with
  | none => rfl
  | some pointer =>
    obtain ⟨record, cell, _⟩ := paired.first first pointer points
    have keyed := paired.secondOf_iff first pointer record key points cell
    rw [Option.bind_some, Option.bind_some, cell, Option.map_some]
    unfold modifySecond
    cases other : store.bySecond.lookup key with
    | none =>
      rw [other] at keyed
      rw [if_neg (by simpa using keyed)]
      exact cell
    | some changed =>
      rw [other, Option.some_inj] at keyed
      simp only [List.getElem?_modify, cell, Option.map_eq_map, Option.map_some, keyed]

/-- A change that keeps the keys of records leaves the maps paired. -/
theorem modifySecond (key : Second) (change : Record → Record)
    (keepsFirst : ∀ record, firstOf (change record) = firstOf record)
    (keepsSecond : ∀ record, secondOf (change record) = secondOf record) :
    Paired firstOf secondOf (store.modifySecond key change) := by
  unfold TwoIndexed.modifySecond
  split
  · exact paired
  · rename_i pointer _
    have cells (other : Nat) (record : Record) (cell : store.cells[other]? = some record) :
        ∃ changed, (store.cells.modify pointer change)[other]? = some changed ∧
          firstOf changed = firstOf record ∧ secondOf changed = secondOf record := by
      rw [List.getElem?_modify, cell]
      by_cases same : pointer = other
      · exact ⟨change record, by simp [same], keepsFirst record, keepsSecond record⟩
      · exact ⟨record, by simp [same], rfl, rfl⟩
    constructor
    · intro first other points
      obtain ⟨record, cell, keyed, paired⟩ := paired.first first other points
      obtain ⟨changed, changedCell, sameFirst, sameSecond⟩ := cells other record cell
      exact ⟨changed, changedCell, sameFirst.trans keyed, by rwa [sameSecond]⟩
    · intro second other points
      obtain ⟨record, cell, keyed, paired⟩ := paired.second second other points
      obtain ⟨changed, changedCell, sameFirst, sameSecond⟩ := cells other record cell
      exact ⟨changed, changedCell, sameSecond.trans keyed, by rwa [sameFirst]⟩

/-! ### Removing -/

omit paired in
theorem findFirst_remove (first key : First) (second : Second) :
    (store.remove first second).findFirst key =
      if key = first then none else store.findFirst key := by
  simp only [findFirst, TwoIndexed.remove]
  by_cases same : key = first
  · rw [if_pos same, same, AList.lookup_erase, Option.bind_none]
  · rw [if_neg same, AList.lookup_erase_ne same]

theorem covered_remove (record : Record)
    (found : store.findFirst (firstOf record) = some record) :
    Covered firstOf secondOf (store.remove (firstOf record) (secondOf record)) := by
  intro key pointer points
  obtain ⟨different, earlier⟩ := GoMap.lookup_erase_some _ _ _ _ points
  obtain ⟨kept, cell, keyed, other⟩ := paired.first key pointer earlier
  refine ⟨kept, cell, keyed, ?_⟩
  have otherSecond : secondOf kept ≠ secondOf record := by
    intro same
    have sameRecord := paired.findSecond_of_findFirst _ record found
    have keptRecord := paired.findSecond_of_findFirst key kept
      (Option.bind_eq_some_iff.mpr ⟨pointer, earlier, cell⟩)
    rw [same, sameRecord, Option.some_inj] at keptRecord
    exact different (by rw [← keyed, ← keptRecord])
  exact (AList.lookup_erase_ne otherSecond).trans other

/-- The removal of a record's keys leaves the maps paired. -/
theorem remove (record : Record) (found : store.findFirst (firstOf record) = some record) :
    Paired firstOf secondOf (store.remove (firstOf record) (secondOf record)) :=
  ⟨paired.covered_remove record found,
    paired.swap.covered_remove record (paired.findSecond_of_findFirst _ record found)⟩

end Paired

end TwoIndexed

end SharedGo
