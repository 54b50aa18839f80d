/-
This file is about loops over a Go map. A map is an association list without
repeated keys, and `range` may visit its entries in any order: a loop is a
function of the visiting order, and what it computes is a property of the map
only when no order changes it. The file has the two loops the services write.
One collects the keys and sorts them, which forgets the order. The other keeps
the first entry that fits and replaces it only by a strictly better one, which
picks some best entry; every best entry is picked in some order.
-/

import Mathlib.Data.List.AList
import Mathlib.Data.List.Sort
import Mathlib.Data.String.Basic

namespace SharedGo

/-- A Go map. -/
abbrev GoMap (Key Value : Type) := AList fun _ : Key => Value

/-- One entry of a Go map. -/
abbrev GoMap.Entry (Key Value : Type) := Sigma fun _ : Key => Value

/-- The orders in which `range` may visit a map. -/
def GoMap.Visits {Key Value : Type} (map : GoMap Key Value)
    (order : List (GoMap.Entry Key Value)) : Prop :=
  order.Perm map.entries

namespace GoMap

variable {Key Value : Type}

theorem Visits.mem_iff {map : GoMap Key Value} {order : List (Entry Key Value)}
    (visits : map.Visits order) (entry : Entry Key Value) :
    entry ∈ order ↔ entry ∈ map.entries :=
  List.Perm.mem_iff visits

/-- Any entry may be visited first. -/
theorem exists_visits_head (map : GoMap Key Value) (entry : Entry Key Value)
    (member : entry ∈ map.entries) : ∃ rest, map.Visits (entry :: rest) := by
  obtain ⟨before, after, split⟩ := List.append_of_mem member
  refine ⟨before ++ after, ?_⟩
  unfold Visits
  rw [split]
  exact List.perm_middle.symm

theorem lookup_insert_eq [DecidableEq Key] (map : GoMap Key Value) (key other : Key)
    (value : Value) :
    (map.insert key value).lookup other = if other = key then some value else map.lookup other := by
  split
  · rename_i same
    subst same
    exact AList.lookup_insert map
  · rename_i different
    exact AList.lookup_insert_ne different

/-- What a map has after a write was written, or was there before. -/
theorem lookup_insert_cases [DecidableEq Key] (map : GoMap Key Value) (key other : Key)
    (value found : Value) (lookup : (map.insert key value).lookup other = some found) :
    (other = key ∧ found = value) ∨ map.lookup other = some found := by
  rw [lookup_insert_eq] at lookup
  split at lookup
  · rename_i same
    exact Or.inl ⟨same, (Option.some_inj.mp lookup).symm⟩
  · exact Or.inr lookup

/-- What a map has after a deletion is under another key, and was there before. -/
theorem lookup_erase_some [DecidableEq Key] (map : GoMap Key Value) (key other : Key)
    (found : Value) (lookup : (map.erase key).lookup other = some found) :
    other ≠ key ∧ map.lookup other = some found := by
  by_cases same : other = key
  · subst same
    rw [AList.lookup_erase] at lookup
    cases lookup
  · rw [AList.lookup_erase_ne same] at lookup
    exact ⟨same, lookup⟩

theorem entries_eq_nil_iff [DecidableEq Key] (map : GoMap Key Value) :
    map.entries = [] ↔ ∀ key, map.lookup key = none := by
  constructor
  · intro empty key
    rw [AList.lookup, empty]
    rfl
  · intro absent
    refine List.eq_nil_iff_forall_not_mem.mpr fun entry member => ?_
    have found := List.mem_dlookup map.nodupKeys member
    rw [← AList.lookup, absent] at found
    cases found

theorem length_keys_erase [DecidableEq Key] (map : GoMap Key Value) (key : Key) (value : Value)
    (found : map.lookup key = some value) :
    (map.erase key).keys.length + 1 = map.keys.length := by
  have member : key ∈ map.keys := AList.lookup_isSome.mp (by rw [found]; rfl)
  rw [AList.keys_erase, List.length_erase_of_mem member]
  exact Nat.sub_add_cancel (List.length_pos_of_mem member)

theorem length_keys_insert [DecidableEq Key] (map : GoMap Key Value) (key : Key) (value : Value)
    (fresh : map.lookup key = none) :
    (map.insert key value).keys.length = map.keys.length + 1 := by
  rw [AList.keys_insert, List.erase_of_not_mem (AList.lookup_eq_none.mp fresh)]
  rfl

end GoMap

/-! ### Sorted keys -/

/-- `sort.Strings`. -/
def sortStrings (texts : List String) : List String := texts.insertionSort (· ≤ ·)

theorem mem_sortStrings (texts : List String) (text : String) :
    text ∈ sortStrings texts ↔ text ∈ texts :=
  (List.perm_insertionSort (· ≤ ·) texts).mem_iff

/-- Sorting forgets the order in which the texts were collected. -/
theorem sortStrings_eq_of_perm {first second : List String} (perm : first.Perm second) :
    sortStrings first = sortStrings second := by
  refine List.Perm.eq_of_pairwise (fun _ _ _ _ => le_antisymm)
    (List.pairwise_insertionSort (· ≤ ·) _) (List.pairwise_insertionSort (· ≤ ·) _) ?_
  exact ((List.perm_insertionSort _ first).trans perm).trans
    (List.perm_insertionSort _ second).symm

/-- Distinct texts are strictly increasing when they are sorted. -/
theorem sortStrings_strictly (texts : List String) (distinct : texts.Nodup) :
    (sortStrings texts).Pairwise (· < ·) := by
  have sorted : (sortStrings texts).Pairwise (· ≤ ·) := List.pairwise_insertionSort (· ≤ ·) texts
  have apart : (sortStrings texts).Nodup :=
    (List.perm_insertionSort (· ≤ ·) texts).nodup_iff.mpr distinct
  exact (sorted.and apart).imp fun ⟨below, different⟩ => lt_of_le_of_ne below different

/-! ### The first best entry -/

section FirstBest

variable {Element : Type} (fits : Element → Bool) (better : Element → Element → Bool)

/-- The loop that keeps the first element that fits and replaces it by every later one that
fits and is better. -/
def firstBest : List Element → Option Element → Option Element
  | [], best => best
  | element :: rest, best =>
    if fits element then
      match best with
      | none => firstBest rest (some element)
      | some current =>
        if better element current then firstBest rest (some element)
        else firstBest rest best
    else firstBest rest best

variable (rank : Element → Nat)
  (ranked : ∀ first second, better first second = decide (rank second < rank first))

include ranked in
/-- An element replaces the kept one when it fits and has a higher rank. -/
theorem firstBest_cons_some (element current : Element) (rest : List Element) :
    firstBest fits better (element :: rest) (some current) =
      if fits element = true ∧ rank current < rank element then
        firstBest fits better rest (some element)
      else firstBest fits better rest (some current) := by
  rw [firstBest]
  by_cases fit : fits element = true
  · simp only [fit, if_true, true_and, ranked, decide_eq_true_eq]
  · simp only [fit, false_and, if_false, Bool.false_eq_true]

include ranked in
/-- From a kept element, the loop ends with one at least as good as it and as everything that
follows. -/
theorem firstBest_some (elements : List Element) (current : Element) :
    ∃ best, firstBest fits better elements (some current) = some best ∧
      (best = current ∨ best ∈ elements ∧ fits best = true) ∧ rank current ≤ rank best ∧
        ∀ element ∈ elements, fits element = true → rank element ≤ rank best := by
  induction elements generalizing current with
  | nil => exact ⟨current, rfl, Or.inl rfl, le_rfl, by simp⟩
  | cons element rest inductionHypothesis =>
    rw [firstBest_cons_some fits better rank ranked]
    by_cases replaces : fits element = true ∧ rank current < rank element
    · rw [if_pos replaces]
      obtain ⟨fit, improves⟩ := replaces
      obtain ⟨best, result, origin, above, all⟩ := inductionHypothesis element
      refine ⟨best, result, ?_, improves.le.trans above,
        List.forall_mem_cons.mpr ⟨fun _ => above, all⟩⟩
      rcases origin with rfl | ⟨member, fitBest⟩
      · exact Or.inr ⟨List.mem_cons_self, fit⟩
      · exact Or.inr ⟨List.mem_cons_of_mem _ member, fitBest⟩
    · rw [if_neg replaces]
      obtain ⟨best, result, origin, above, all⟩ := inductionHypothesis current
      have headBelow (fit : fits element = true) : rank element ≤ rank best :=
        (not_lt.mp fun improves => replaces ⟨fit, improves⟩).trans above
      refine ⟨best, result, ?_, above, List.forall_mem_cons.mpr ⟨headBelow, all⟩⟩
      exact origin.imp_right fun ⟨member, fitBest⟩ => ⟨List.mem_cons_of_mem _ member, fitBest⟩

/-- An element that fits and that no element beats. -/
def IsBest (elements : List Element) (best : Element) : Prop :=
  best ∈ elements ∧ fits best = true ∧
    ∀ element ∈ elements, fits element = true → rank element ≤ rank best

include ranked in
/-- The loop finds a best element, or nothing fits. -/
theorem firstBest_cases (elements : List Element) :
    (firstBest fits better elements none = none ∧ ∀ element ∈ elements, fits element = false) ∨
      ∃ best, firstBest fits better elements none = some best ∧
        IsBest fits rank elements best := by
  induction elements with
  | nil => exact Or.inl ⟨rfl, by simp⟩
  | cons element rest inductionHypothesis =>
    unfold firstBest
    by_cases fit : fits element = true
    · rw [if_pos fit]
      obtain ⟨best, result, origin, above, all⟩ :=
        firstBest_some fits better rank ranked rest element
      refine Or.inr ⟨best, result, ?_, ?_, ?_⟩
      · rcases origin with rfl | ⟨member, _⟩
        · exact List.mem_cons_self
        · exact List.mem_cons_of_mem _ member
      · rcases origin with rfl | ⟨_, fitBest⟩
        · exact fit
        · exact fitBest
      · exact List.forall_mem_cons.mpr ⟨fun _ => above, all⟩
    · rw [if_neg fit]
      rcases inductionHypothesis with ⟨result, unfit⟩ | ⟨best, result, member, fitBest, all⟩
      · exact Or.inl ⟨result, List.forall_mem_cons.mpr ⟨Bool.eq_false_iff.mpr fit, unfit⟩⟩
      · exact Or.inr ⟨best, result, List.mem_cons_of_mem _ member, fitBest,
          List.forall_mem_cons.mpr ⟨fun fitElement => absurd fitElement fit, all⟩⟩

include ranked in
/-- A best element visited first is the one the loop keeps. -/
theorem firstBest_head (rest : List Element) (best : Element)
    (isBest : IsBest fits rank (best :: rest) best) :
    firstBest fits better (best :: rest) none = some best := by
  obtain ⟨_, fitBest, all⟩ := isBest
  have kept (elements : List Element) (below : ∀ element ∈ elements, fits element = true →
      rank element ≤ rank best) :
      firstBest fits better elements (some best) = some best := by
    induction elements with
    | nil => rfl
    | cons element tail inductionHypothesis =>
      obtain ⟨headBelow, tailBelow⟩ := List.forall_mem_cons.mp below
      have stays : ¬(fits element = true ∧ rank best < rank element) := fun replaces =>
        not_lt.mpr (headBelow replaces.1) replaces.2
      rw [firstBest_cons_some fits better rank ranked, if_neg stays]
      exact inductionHypothesis tailBelow
  unfold firstBest
  rw [if_pos fitBest]
  exact kept rest fun element member => all element (List.mem_cons_of_mem _ member)

end FirstBest

end SharedGo
