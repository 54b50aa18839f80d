/-
This file models the builders of policies at the level of arrays. A builder appends
requirements to its slice, in place where there is room, and `Build` returns the policy
with the same slice. A builder may be used again after that: policies that were built
earlier then share their array with it, and with each other.

They do not change. An append writes behind the end of every slice that was built from
the builder, so each built policy goes on having the requirements of the calls before
its `Build`, as the rest of the development has it with lists.
-/

import SharedGo.PolicyBuilder
import SharedGo.Runs
import SharedGo.Slices

namespace SharedGo.Authz

open SharedGo

/-! ### Builders with slices and with lists -/

/-- A policy as it is in memory. -/
structure SlicePolicy where
  name : String
  requirements : Slice

/-- The policy that a stored one is. -/
def SlicePolicy.read (heap : ArrayHeap Requirement) (stored : SlicePolicy) : Policy :=
  ⟨stored.name, heap.read stored.requirements⟩

/-- The calls of any number of builders. A new array has some spare room. -/
inductive BuilderEvent where
  | newPolicyBuilder (names : List String)
  | call (builder : Nat) (call : BuilderCall) (spare : List Requirement)
  | addRequirement (builder : Nat) (requirement : Requirement) (spare : List Requirement)
  | build (builder : Nat)

/-- The policies of the builders, and those that were built. -/
structure SliceBuilders where
  heap : ArrayHeap Requirement
  builders : List SlicePolicy
  built : List SlicePolicy

namespace SliceBuilders

def initial : SliceBuilders := ⟨.empty, [], []⟩

def append (state : SliceBuilders) (builder : Nat) (requirement : Requirement)
    (spare : List Requirement) : Option SliceBuilders :=
  state.builders[builder]?.map fun stored => { state with
    heap := (state.heap.append stored.requirements requirement spare).1
    builders := state.builders.set builder
      ⟨stored.name, (state.heap.append stored.requirements requirement spare).2⟩ }

def step (state : SliceBuilders) : BuilderEvent → Option SliceBuilders
  | .newPolicyBuilder names =>
    some { state with builders := state.builders ++ [⟨names.headD "", .nil⟩] }
  | .call builder call spare => state.append builder call.requirement spare
  | .addRequirement builder requirement spare => state.append builder requirement spare
  | .build builder =>
    state.builders[builder]?.map fun stored => { state with built := state.built ++ [stored] }

end SliceBuilders

/-- The same with lists: what was built is a value of its own. -/
structure ListBuilders where
  builders : List PolicyBuilder
  built : List Policy

namespace ListBuilders

def initial : ListBuilders := ⟨[], []⟩

def change (state : ListBuilders) (builder : Nat) (change : PolicyBuilder → PolicyBuilder) :
    Option ListBuilders :=
  state.builders[builder]?.map fun current => { state with
    builders := state.builders.set builder (change current) }

def step (state : ListBuilders) : BuilderEvent → Option ListBuilders
  | .newPolicyBuilder names =>
    some { state with builders := state.builders ++ [Authz.newPolicyBuilder names] }
  | .call builder call _ => state.change builder call.apply
  | .addRequirement builder requirement _ => state.change builder (·.addRequirement requirement)
  | .build builder =>
    state.builders[builder]?.map fun current => { state with
      built := state.built ++ [current.build] }

end ListBuilders

/-! ### One step -/

/-- The slices stand for the lists. Builders have arrays of their own, and no built policy reaches
beyond a builder it shares an array with. -/
structure Represents (state : SliceBuilders) (lists : ListBuilders) : Prop where
  builders : state.builders.map (·.read state.heap) = lists.builders.map (·.policy)
  built : state.built.map (·.read state.heap) = lists.built
  validBuilders : ∀ stored ∈ state.builders, state.heap.Valid stored.requirements
  validBuilt : ∀ stored ∈ state.built, state.heap.Valid stored.requirements
  apart : ∀ (first second : Nat) one other, first ≠ second → state.builders[first]? = some one →
    state.builders[second]? = some other → one.requirements.Apart other.requirements
  under : ∀ stored ∈ state.built, ∀ builder ∈ state.builders,
    stored.requirements.Under builder.requirements

theorem represents_initial : Represents .initial .initial where
  builders := rfl
  built := rfl
  validBuilders _ member := absurd member List.not_mem_nil
  validBuilt _ member := absurd member List.not_mem_nil
  apart _ _ _ _ _ isOne := by cases isOne
  under _ member := absurd member List.not_mem_nil

theorem set_map_congr {Item Result : Type} (items : List Item) (first second : Item → Result)
    (place : Nat) (result : Result)
    (same : ∀ (index : Nat) item, index ≠ place → items[index]? = some item →
      first item = second item) :
    (items.map first).set place result = (items.map second).set place result := by
  refine List.ext_getElem? fun index => ?_
  by_cases here : place = index
  · simp [List.getElem?_set, here]
  · rw [List.getElem?_set_ne here, List.getElem?_set_ne here, List.getElem?_map, List.getElem?_map]
    cases found : items[index]? with
    | none => rfl
    | some item => exact congrArg some (same index item (Ne.symm here) found)

theorem set_cases {Item : Type} (items : List Item) (place index : Nat) (changed item : Item)
    (known : place < items.length) (found : (items.set place changed)[index]? = some item) :
    (index = place ∧ item = changed) ∨ (index ≠ place ∧ items[index]? = some item) := by
  by_cases here : index = place
  · subst here
    rw [List.getElem?_set_self known] at found
    exact Or.inl ⟨rfl, (Option.some_inj.mp found).symm⟩
  · rw [List.getElem?_set_ne (Ne.symm here)] at found
    exact Or.inr ⟨here, found⟩

variable {state : SliceBuilders} {lists : ListBuilders} (represents : Represents state lists)

include represents

theorem Represents.policy_eq (builder : Nat) (stored : SlicePolicy) (current : PolicyBuilder)
    (isStored : state.builders[builder]? = some stored)
    (isCurrent : lists.builders[builder]? = some current) :
    stored.read state.heap = current.policy := by
  have same := congrArg (·[builder]?) represents.builders
  simpa [isStored, isCurrent] using same

/-- A new builder has no array yet. -/
theorem Represents.newPolicyBuilder (names : List String) :
    Represents { state with builders := state.builders ++ [⟨names.headD "", .nil⟩] }
      { lists with builders := lists.builders ++ [Authz.newPolicyBuilder names] } := by
  obtain ⟨builders, built, validBuilders, validBuilt, apart, under⟩ := represents
  have known (index : Nat) (stored : SlicePolicy)
      (found : (state.builders ++ [⟨names.headD "", .nil⟩])[index]? = some stored) :
      state.builders[index]? = some stored ∨ stored = ⟨names.headD "", .nil⟩ := by
    by_cases within : index < state.builders.length
    · rw [List.getElem?_append_left within] at found
      exact Or.inl found
    · rw [List.getElem?_append_right (Nat.le_of_not_lt within)] at found
      exact Or.inr (List.mem_singleton.mp (List.mem_of_getElem? found))
  refine ⟨?_, built, ?_, validBuilt, ?_, ?_⟩
  · rw [List.map_append, List.map_append, builders]
    rfl
  · intro stored member
    rcases List.mem_append.mp member with earlier | added
    · exact validBuilders stored earlier
    · rw [List.mem_singleton.mp added]
      exact state.heap.valid_nil
  · intro first second one other different isOne isOther
    rcases known first one isOne with foundOne | rfl
    · rcases known second other isOther with foundOther | rfl
      · exact apart first second one other different foundOne foundOther
      · exact (Slice.nil_apart _).symm
    · exact Slice.nil_apart _
  · intro stored member builder isBuilder
    rcases List.mem_append.mp isBuilder with earlier | added
    · exact under stored member builder earlier
    · rw [List.mem_singleton.mp added]
      intro array _ isNil
      cases isNil

/-- After an append the builders still have arrays of their own. -/
theorem append_apart_builders (builder : Nat) (stored : SlicePolicy) (requirement : Requirement)
    (spare : List Requirement) (isStored : state.builders[builder]? = some stored)
    (first second : Nat) (one other : SlicePolicy) (different : first ≠ second)
    (isOne : (state.builders.set builder ⟨stored.name,
      (state.heap.append stored.requirements requirement spare).2⟩)[first]? = some one)
    (isOther : (state.builders.set builder ⟨stored.name,
      (state.heap.append stored.requirements requirement spare).2⟩)[second]? = some other) :
    one.requirements.Apart other.requirements := by
  have place := (List.getElem?_eq_some_iff.mp isStored).1
  have moved (index : Nat) (third : SlicePolicy) (elsewhere : index ≠ builder)
      (isThird : state.builders[index]? = some third) :=
    state.heap.append_apart stored.requirements third.requirements requirement spare
      (represents.validBuilders third (List.mem_of_getElem? isThird))
      (represents.apart builder index stored third (Ne.symm elsewhere) isStored isThird)
  rcases set_cases _ builder first _ one place isOne with ⟨rfl, rfl⟩ | ⟨firstElsewhere, foundOne⟩
  · rcases set_cases _ first second _ other place isOther with ⟨rfl, _⟩ | ⟨elsewhere, foundOther⟩
    · exact absurd rfl different
    · exact moved second other elsewhere foundOther
  · rcases set_cases _ builder second _ other place isOther with ⟨rfl, rfl⟩ | ⟨_, foundOther⟩
    · exact (moved first one firstElsewhere foundOne).symm
    · exact represents.apart first second one other different foundOne foundOther

/-- An append changes its own builder only: the others have arrays of their own, and the built
policies end before the requirement that is written. -/
theorem Represents.append (builder : Nat) (stored : SlicePolicy) (current : PolicyBuilder)
    (requirement : Requirement) (spare : List Requirement)
    (isStored : state.builders[builder]? = some stored)
    (isCurrent : lists.builders[builder]? = some current) :
    Represents
      { state with
        heap := (state.heap.append stored.requirements requirement spare).1
        builders := state.builders.set builder
          ⟨stored.name, (state.heap.append stored.requirements requirement spare).2⟩ }
      { lists with
        builders := lists.builders.set builder (current.addRequirement requirement) } := by
  have policy := represents.policy_eq builder stored current isStored isCurrent
  have apartAfter := append_apart_builders represents builder stored requirement spare isStored
  obtain ⟨builders, built, validBuilders, validBuilt, apart, under⟩ := represents
  have isMember := List.mem_of_getElem? isStored
  have place := (List.getElem?_eq_some_iff.mp isStored).1
  obtain ⟨read, valid⟩ := state.heap.read_append stored.requirements requirement spare
    (validBuilders stored isMember)
  have others (index : Nat) (other : SlicePolicy) (different : index ≠ builder)
      (isOther : state.builders[index]? = some other) :=
    state.heap.read_append_other stored.requirements other.requirements requirement spare
      (validBuilders other (List.mem_of_getElem? isOther))
      (apart builder index stored other (Ne.symm different) isStored isOther)
  have kept (other : SlicePolicy) (member : other ∈ state.built) :=
    state.heap.read_append_under stored.requirements other.requirements requirement spare
      (validBuilt other member) (under other member stored isMember)
  refine ⟨?_, ?_, ?_, fun other member => (kept other member).2, apartAfter, ?_⟩
  · have appended : SlicePolicy.read (state.heap.append stored.requirements requirement spare).1
        ⟨stored.name, (state.heap.append stored.requirements requirement spare).2⟩ =
        (current.addRequirement requirement).policy := by
      rw [SlicePolicy.read, read, PolicyBuilder.addRequirement, ← policy]
      rfl
    rw [List.map_set, List.map_set, ← builders, appended]
    refine set_map_congr _ _ _ builder _ fun index other different isOther => ?_
    exact congrArg (Policy.mk other.name) (others index other different isOther).1
  · rw [← built]
    refine List.map_congr_left fun other member => ?_
    exact congrArg (Policy.mk other.name) (kept other member).1
  · intro other member
    obtain ⟨index, found⟩ := List.getElem?_of_mem member
    rcases set_cases _ builder index _ other place found with ⟨_, rfl⟩ | ⟨different, isOther⟩
    · exact valid
    · exact (others index other different isOther).2
  · intro other member changed isChanged
    obtain ⟨index, found⟩ := List.getElem?_of_mem isChanged
    rcases set_cases _ builder index _ changed place found with ⟨_, rfl⟩ | ⟨_, isOther⟩
    · exact state.heap.append_under stored.requirements other.requirements requirement spare
        (validBuilt other member) (under other member stored isMember)
    · exact under other member changed (List.mem_of_getElem? isOther)

/-- A built policy ends where its builder does. -/
theorem Represents.build (builder : Nat) (stored : SlicePolicy) (current : PolicyBuilder)
    (isStored : state.builders[builder]? = some stored)
    (isCurrent : lists.builders[builder]? = some current) :
    Represents { state with built := state.built ++ [stored] }
      { lists with built := lists.built ++ [current.build] } := by
  have policy := represents.policy_eq builder stored current isStored isCurrent
  obtain ⟨builders, built, validBuilders, validBuilt, apart, under⟩ := represents
  have isMember := List.mem_of_getElem? isStored
  refine ⟨builders, ?_, validBuilders, ?_, apart, ?_⟩
  · rw [List.map_append, built, List.map_singleton, policy]
    rfl
  · intro other member
    rcases List.mem_append.mp member with earlier | added
    · exact validBuilt other earlier
    · rw [List.mem_singleton.mp added]
      exact validBuilders stored isMember
  · intro other member changed isChanged
    rcases List.mem_append.mp member with earlier | added
    · exact under other earlier changed isChanged
    · rw [List.mem_singleton.mp added]
      intro array isStoredArray isChangedArray
      obtain ⟨index, found⟩ := List.getElem?_of_mem isChanged
      by_cases here : index = builder
      · subst here
        rw [isStored] at found
        rw [Option.some_inj.mp found]
      · exact absurd isChangedArray
          (apart builder index stored changed (Ne.symm here) isStored found array isStoredArray)

/-- There is a builder at one level where there is one at the other. -/
theorem Represents.exists_current (builder : Nat) (stored : SlicePolicy)
    (isStored : state.builders[builder]? = some stored) :
    ∃ current, lists.builders[builder]? = some current := by
  have same := congrArg (·[builder]?) represents.builders
  simp only [List.getElem?_map, isStored, Option.map_some] at same
  obtain ⟨current, isCurrent, _⟩ := Option.map_eq_some_iff.mp same.symm
  exact ⟨current, isCurrent⟩

/-- Both levels take every step together. -/
theorem Represents.step (next : SliceBuilders) (event : BuilderEvent)
    (stepped : state.step event = some next) :
    ∃ nextLists, lists.step event = some nextLists ∧ Represents next nextLists := by
  have appends (builder : Nat) (requirement : Requirement) (spare : List Requirement)
      (change : PolicyBuilder → PolicyBuilder)
      (adds : ∀ current, change current = current.addRequirement requirement)
      (appended : state.append builder requirement spare = some next) :
      ∃ nextLists, lists.change builder change = some nextLists ∧ Represents next nextLists := by
    obtain ⟨stored, isStored, rfl⟩ := Option.map_eq_some_iff.mp appended
    obtain ⟨current, isCurrent⟩ := represents.exists_current builder stored isStored
    refine ⟨_, ?_, represents.append builder stored current requirement spare isStored isCurrent⟩
    rw [ListBuilders.change, isCurrent, Option.map_some, adds]
  cases event with
  | newPolicyBuilder names =>
    obtain rfl := Option.some_inj.mp stepped
    exact ⟨_, rfl, represents.newPolicyBuilder names⟩
  | call builder call spare =>
    exact appends builder call.requirement spare call.apply (apply_eq · call) stepped
  | addRequirement builder requirement spare =>
    exact appends builder requirement spare _ (fun _ => rfl) stepped
  | build builder =>
    obtain ⟨stored, isStored, rfl⟩ := Option.map_eq_some_iff.mp stepped
    obtain ⟨current, isCurrent⟩ := represents.exists_current builder stored isStored
    refine ⟨_, ?_, represents.build builder stored current isStored isCurrent⟩
    rw [ListBuilders.step, isCurrent, Option.map_some]

omit represents

/-! ### Whole runs -/

/-- In every run of any number of builders, the policies that were built have, at its end, exactly
the requirements that their builders had at the time of the `Build`. -/
theorem built_policies_kept (events : List BuilderEvent) (final : SliceBuilders)
    (run : Runs.exec SliceBuilders.step .initial events = some final) :
    ∃ lists, Runs.exec ListBuilders.step .initial events = some lists ∧
      final.built.map (·.read final.heap) = lists.built ∧
      final.builders.map (·.read final.heap) = lists.builders.map (·.policy) := by
  have kept : ∃ lists, Runs.exec ListBuilders.step .initial events = some lists ∧
      Represents final lists := by
    refine Runs.exec_histories SliceBuilders.step .initial (fun past state =>
      ∃ lists, Runs.exec ListBuilders.step .initial past = some lists ∧ Represents state lists)
      ⟨_, rfl, represents_initial⟩ ?_ events final run
    rintro past state event next - stepped ⟨lists, ran, represents⟩
    obtain ⟨nextLists, steppedLists, kept⟩ := represents.step next event stepped
    refine ⟨nextLists, Runs.exec_append_of _ _ _ _ past [event] ran ?_, kept⟩
    rw [Runs.exec, steppedLists]
    rfl
  obtain ⟨lists, ran, represents⟩ := kept
  exact ⟨lists, ran, represents.built, represents.builders⟩

/-- A builder that goes on after its first policy, in the room behind it. -/
def reusedBuilder : List BuilderEvent :=
  [.newPolicyBuilder ["readers"], .call 0 .requireUser [.m2m], .build 0,
    .call 0 (.requireScope ["read"]) [], .build 0]

theorem reusedBuilder_kept :
    ∃ final, Runs.exec SliceBuilders.step .initial reusedBuilder = some final ∧
      final.built.map (·.requirements.array) = [some 0, some 0] ∧
      final.built.map (·.read final.heap) =
        [⟨"readers", [.userPresent]⟩, ⟨"readers", [.userPresent, .scope ["read"] true]⟩] := by
  refine ⟨_, rfl, rfl, ?_⟩
  obtain ⟨lists, ran, built, _⟩ := built_policies_kept reusedBuilder _ rfl
  obtain rfl := Option.some_inj.mp ran
  rw [built]
  rfl

end SharedGo.Authz
