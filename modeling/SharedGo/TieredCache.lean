/-
This file proves what revocation promises across the instances of the tiered
cache. Each instance has its own first tier; the second tier and the revocation
bus are shared. A read that misses the first tier reads the second and fills the
first; a revocation deletes from both tiers and publishes a message that each
instance's listener receives and deletes from its first tier for.

The fill of a read is not atomic with the deletions: a read that found the value
in the second tier before the revocation deleted it there may put it back into
its first tier after the listener has deleted it. When no read does that, no read
that starts after every listener has handled the message returns the value.
-/

import SharedGo.MapRange
import SharedGo.Threads

namespace SharedGo.Authz

open SharedGo

/-! ### Instances and their operations -/

/-- The operations of a provider. -/
inductive TieredRequest where
  | get (key : String)
  | set (key value : String)
  | revoke (principalID : String)
  deriving DecidableEq, Repr

/-- An operation on an instance. -/
structure TieredCall (Node : Type) where
  node : Node
  request : TieredRequest
  deriving DecidableEq, Repr

/-- Where an operation stands, between its steps on the tiers and the bus. -/
inductive TieredPhase where
  | started
  | missed
  | found (value : String)
  | storedL1
  | deletedL1
  | deletedL2
  | returned (result : Option String)
  deriving DecidableEq, Repr

/-- A message on the bus: the revocation that published it, and the principal it names. -/
structure Revocation where
  publication : Nat
  principalID : String
  deriving DecidableEq, Repr

/-- The first tier of each instance, the shared second tier, the messages each listener has yet
to receive, the one it is handling, and the operations. -/
structure TieredState (Node : Type) where
  l1 : Node → GoMap String String
  l2 : GoMap String String
  inbox : Node → List Revocation
  handling : Node → Option Revocation
  calls : Threads (TieredCall Node) TieredPhase

/-- The steps of the operations and of the listeners; a tier may also lose an entry on its own,
by expiry or by deletion. -/
inductive TieredEvent (Node : Type) where
  | start (id : Nat) (call : TieredCall Node)
  | l1Get (id : Nat)
  | l2Get (id : Nat)
  | l1Fill (id : Nat)
  | l1Set (id : Nat)
  | l2Set (id : Nat)
  | l1Delete (id : Nat)
  | l2Delete (id : Nat)
  | publish (id : Nat)
  | receive (node : Node)
  | evict (node : Node) (message : Revocation)
  | dropL1 (node : Node) (key : String)
  | dropL2 (key : String)

/-- The operation an event starts, if any. -/
def TieredEvent.starts {Node : Type} : TieredEvent Node → Option (Nat × TieredCall Node)
  | .start id call => some (id, call)
  | _ => none

theorem starts_eq {Node : Type} (event : TieredEvent Node) (id : Nat) (call : TieredCall Node)
    (starts : event.starts = some (id, call)) : event = .start id call := by
  cases event with
  | start otherId otherCall =>
    simp only [TieredEvent.starts, Option.some_inj, Prod.mk.injEq] at starts
    rw [starts.1, starts.2]
  | _ => cases starts

section Steps

variable {Node : Type} [DecidableEq Node] (keyFormatter : String → String)

def TieredState.advance (state : TieredState Node) (id : Nat) (call : TieredCall Node)
    (phase : TieredPhase) : TieredState Node :=
  { state with calls := state.calls.advance id call phase }

/-- Stores a value in the first tier of an instance. -/
def TieredState.storeL1 (state : TieredState Node) (node : Node) (key value : String) :
    TieredState Node :=
  { state with l1 := Function.update state.l1 node ((state.l1 node).insert key value) }

/-- Deletes a key from the first tier of an instance. -/
def TieredState.eraseL1 (state : TieredState Node) (node : Node) (key : String) :
    TieredState Node :=
  { state with l1 := Function.update state.l1 node ((state.l1 node).erase key) }

def TieredState.step (state : TieredState Node) :
    TieredEvent Node → Option (TieredState Node)
  | .start id call =>
    match state.calls id with
    | none => some (state.advance id call .started)
    | some _ => none
  | .l1Get id =>
    match state.calls id with
    | some (⟨node, .get key⟩, .started) =>
      match (state.l1 node).lookup key with
      | some value => some (state.advance id ⟨node, .get key⟩ (.returned (some value)))
      | none => some (state.advance id ⟨node, .get key⟩ .missed)
    | _ => none
  | .l2Get id =>
    match state.calls id with
    | some (⟨node, .get key⟩, .missed) =>
      match state.l2.lookup key with
      | some value => some (state.advance id ⟨node, .get key⟩ (.found value))
      | none => some (state.advance id ⟨node, .get key⟩ (.returned none))
    | _ => none
  | .l1Fill id =>
    match state.calls id with
    | some (⟨node, .get key⟩, .found value) =>
      some ((state.storeL1 node key value).advance id ⟨node, .get key⟩ (.returned (some value)))
    | _ => none
  | .l1Set id =>
    match state.calls id with
    | some (⟨node, .set key value⟩, .started) =>
      some ((state.storeL1 node key value).advance id ⟨node, .set key value⟩ .storedL1)
    | _ => none
  | .l2Set id =>
    match state.calls id with
    | some (⟨node, .set key value⟩, .storedL1) =>
      some { state.advance id ⟨node, .set key value⟩ (.returned none) with
        l2 := state.l2.insert key value }
    | _ => none
  | .l1Delete id =>
    match state.calls id with
    | some (⟨node, .revoke principalID⟩, .started) =>
      some ((state.eraseL1 node (keyFormatter principalID)).advance id
        ⟨node, .revoke principalID⟩ .deletedL1)
    | _ => none
  | .l2Delete id =>
    match state.calls id with
    | some (⟨node, .revoke principalID⟩, .deletedL1) =>
      some { state.advance id ⟨node, .revoke principalID⟩ .deletedL2 with
        l2 := state.l2.erase (keyFormatter principalID) }
    | _ => none
  | .publish id =>
    match state.calls id with
    | some (⟨node, .revoke principalID⟩, .deletedL2) =>
      some { state.advance id ⟨node, .revoke principalID⟩ (.returned none) with
        inbox := fun other => state.inbox other ++ [⟨id, principalID⟩] }
    | _ => none
  | .receive node =>
    match state.handling node, state.inbox node with
    | none, message :: rest =>
      some { state with
        inbox := Function.update state.inbox node rest
        handling := Function.update state.handling node (some message) }
    | _, _ => none
  | .evict node message =>
    if state.handling node = some message then
      some { state.eraseL1 node (keyFormatter message.principalID) with
        handling := Function.update state.handling node none }
    else none
  | .dropL1 node key => some (state.eraseL1 node key)
  | .dropL2 key => some { state with l2 := state.l2.erase key }

/-- What a step does, by its event. -/
inductive TieredStepped (state : TieredState Node) : TieredEvent Node → TieredState Node → Prop
  | start (id : Nat) (call : TieredCall Node) (fresh : state.calls id = none) :
      TieredStepped state (.start id call) (state.advance id call .started)
  | l1Hit (id : Nat) (node : Node) (key value : String)
      (current : state.calls id = some (⟨node, .get key⟩, .started))
      (cached : (state.l1 node).lookup key = some value) :
      TieredStepped state (.l1Get id)
        (state.advance id ⟨node, .get key⟩ (.returned (some value)))
  | l1Miss (id : Nat) (node : Node) (key : String)
      (current : state.calls id = some (⟨node, .get key⟩, .started)) :
      TieredStepped state (.l1Get id) (state.advance id ⟨node, .get key⟩ .missed)
  | l2Hit (id : Nat) (node : Node) (key value : String)
      (current : state.calls id = some (⟨node, .get key⟩, .missed))
      (cached : state.l2.lookup key = some value) :
      TieredStepped state (.l2Get id) (state.advance id ⟨node, .get key⟩ (.found value))
  | l2Miss (id : Nat) (node : Node) (key : String)
      (current : state.calls id = some (⟨node, .get key⟩, .missed)) :
      TieredStepped state (.l2Get id) (state.advance id ⟨node, .get key⟩ (.returned none))
  | l1Fill (id : Nat) (node : Node) (key value : String)
      (current : state.calls id = some (⟨node, .get key⟩, .found value)) :
      TieredStepped state (.l1Fill id)
        ((state.storeL1 node key value).advance id ⟨node, .get key⟩ (.returned (some value)))
  | l1Set (id : Nat) (node : Node) (key value : String)
      (current : state.calls id = some (⟨node, .set key value⟩, .started)) :
      TieredStepped state (.l1Set id)
        ((state.storeL1 node key value).advance id ⟨node, .set key value⟩ .storedL1)
  | l2Set (id : Nat) (node : Node) (key value : String)
      (current : state.calls id = some (⟨node, .set key value⟩, .storedL1)) :
      TieredStepped state (.l2Set id)
        { state.advance id ⟨node, .set key value⟩ (.returned none) with
          l2 := state.l2.insert key value }
  | l1Delete (id : Nat) (node : Node) (principalID : String)
      (current : state.calls id = some (⟨node, .revoke principalID⟩, .started)) :
      TieredStepped state (.l1Delete id)
        ((state.eraseL1 node (keyFormatter principalID)).advance id
          ⟨node, .revoke principalID⟩ .deletedL1)
  | l2Delete (id : Nat) (node : Node) (principalID : String)
      (current : state.calls id = some (⟨node, .revoke principalID⟩, .deletedL1)) :
      TieredStepped state (.l2Delete id)
        { state.advance id ⟨node, .revoke principalID⟩ .deletedL2 with
          l2 := state.l2.erase (keyFormatter principalID) }
  | publish (id : Nat) (node : Node) (principalID : String)
      (current : state.calls id = some (⟨node, .revoke principalID⟩, .deletedL2)) :
      TieredStepped state (.publish id)
        { state.advance id ⟨node, .revoke principalID⟩ (.returned none) with
          inbox := fun other => state.inbox other ++ [⟨id, principalID⟩] }
  | receive (node : Node) (inbox : Node → List Revocation)
      (handling : Node → Option Revocation) :
      TieredStepped state (.receive node) { state with inbox, handling }
  | evict (node : Node) (message : Revocation) (handling : Node → Option Revocation) :
      TieredStepped state (.evict node message)
        { state.eraseL1 node (keyFormatter message.principalID) with handling }
  | dropL1 (node : Node) (key : String) :
      TieredStepped state (.dropL1 node key) (state.eraseL1 node key)
  | dropL2 (key : String) :
      TieredStepped state (.dropL2 key) { state with l2 := state.l2.erase key }

theorem tieredStepped_of_step (state : TieredState Node) (event : TieredEvent Node)
    (next : TieredState Node) (step : state.step keyFormatter event = some next) :
    TieredStepped keyFormatter state event next := by
  cases event with
  | start id call =>
    simp only [TieredState.step] at step
    split at step
    · rename_i fresh
      exact Option.some_inj.mp step ▸ .start id call fresh
    · cases step
  | l1Get id =>
    simp only [TieredState.step] at step
    split at step
    · rename_i node key current
      split at step
      · rename_i value cached
        exact Option.some_inj.mp step ▸ .l1Hit id node key value current cached
      · exact Option.some_inj.mp step ▸ .l1Miss id node key current
    · cases step
  | l2Get id =>
    simp only [TieredState.step] at step
    split at step
    · rename_i node key current
      split at step
      · rename_i value cached
        exact Option.some_inj.mp step ▸ .l2Hit id node key value current cached
      · exact Option.some_inj.mp step ▸ .l2Miss id node key current
    · cases step
  | l1Fill id =>
    simp only [TieredState.step] at step
    split at step
    · rename_i node key value current
      exact Option.some_inj.mp step ▸ .l1Fill id node key value current
    · cases step
  | l1Set id =>
    simp only [TieredState.step] at step
    split at step
    · rename_i node key value current
      exact Option.some_inj.mp step ▸ .l1Set id node key value current
    · cases step
  | l2Set id =>
    simp only [TieredState.step] at step
    split at step
    · rename_i node key value current
      exact Option.some_inj.mp step ▸ .l2Set id node key value current
    · cases step
  | l1Delete id =>
    simp only [TieredState.step] at step
    split at step
    · rename_i node principalID current
      exact Option.some_inj.mp step ▸ .l1Delete id node principalID current
    · cases step
  | l2Delete id =>
    simp only [TieredState.step] at step
    split at step
    · rename_i node principalID current
      exact Option.some_inj.mp step ▸ .l2Delete id node principalID current
    · cases step
  | publish id =>
    simp only [TieredState.step] at step
    split at step
    · rename_i node principalID current
      exact Option.some_inj.mp step ▸ .publish id node principalID current
    · cases step
  | receive node =>
    simp only [TieredState.step] at step
    split at step
    · exact Option.some_inj.mp step ▸ .receive node _ _
    · cases step
  | evict node message =>
    simp only [TieredState.step] at step
    split at step
    · exact Option.some_inj.mp step ▸ .evict node message _
    · cases step
  | dropL1 node key => exact Option.some_inj.mp step ▸ .dropL1 node key
  | dropL2 key => exact Option.some_inj.mp step ▸ .dropL2 key

/-! ### Where values come from -/

omit keyFormatter in
theorem lookup_storeL1 (state : TieredState Node) (node other : Node)
    (key otherKey value found : String)
    (lookup : ((state.storeL1 node key value).l1 other).lookup otherKey = some found) :
    (other = node ∧ otherKey = key ∧ found = value) ∨
      (state.l1 other).lookup otherKey = some found := by
  simp only [TieredState.storeL1, Function.update_apply] at lookup
  split at lookup
  · rename_i same
    subst same
    rcases GoMap.lookup_insert_cases _ _ _ _ _ lookup with ⟨rfl, rfl⟩ | earlier
    · exact Or.inl ⟨rfl, rfl, rfl⟩
    · exact Or.inr earlier
  · exact Or.inr lookup

omit keyFormatter in
theorem lookup_eraseL1 (state : TieredState Node) (node other : Node) (key otherKey found : String)
    (lookup : ((state.eraseL1 node key).l1 other).lookup otherKey = some found) :
    ¬ (other = node ∧ otherKey = key) ∧ (state.l1 other).lookup otherKey = some found := by
  simp only [TieredState.eraseL1, Function.update_apply] at lookup
  split at lookup
  · rename_i same
    subst same
    obtain ⟨different, earlier⟩ := GoMap.lookup_erase_some _ _ _ _ lookup
    exact ⟨fun equal => different equal.2, earlier⟩
  · rename_i different
    exact ⟨fun equal => different equal.1, lookup⟩

/-- A value in the second tier was there before the step, or is stored by a `Set`. -/
theorem l2_source (state : TieredState Node) (event : TieredEvent Node) (next : TieredState Node)
    (step : state.step keyFormatter event = some next) (key value : String)
    (cached : next.l2.lookup key = some value) :
    state.l2.lookup key = some value ∨
      ∃ id node, event = .l2Set id ∧
        state.calls id = some (⟨node, .set key value⟩, .storedL1) := by
  cases tieredStepped_of_step keyFormatter state event next step with
  | l2Set id node setKey setValue current =>
    rcases GoMap.lookup_insert_cases _ _ _ _ _ cached with ⟨rfl, rfl⟩ | earlier
    · exact Or.inr ⟨id, node, rfl, current⟩
    · exact Or.inl earlier
  | l2Delete id node principalID current =>
    exact Or.inl (GoMap.lookup_erase_some _ _ _ _ cached).2
  | dropL2 other => exact Or.inl (GoMap.lookup_erase_some _ _ _ _ cached).2
  | _ => exact Or.inl cached

/-- A value in the first tier of an instance was there before the step, is filled in by a
`Get` that found it, or is stored by a `Set`. -/
theorem l1_source (state : TieredState Node) (event : TieredEvent Node) (next : TieredState Node)
    (step : state.step keyFormatter event = some next) (node : Node) (key value : String)
    (cached : (next.l1 node).lookup key = some value) :
    (state.l1 node).lookup key = some value ∨
      (∃ id, event = .l1Fill id ∧ state.calls id = some (⟨node, .get key⟩, .found value)) ∨
      ∃ id, event = .l1Set id ∧ state.calls id = some (⟨node, .set key value⟩, .started) := by
  cases tieredStepped_of_step keyFormatter state event next step with
  | l1Fill id fillNode fillKey fillValue current =>
    rcases lookup_storeL1 state fillNode node fillKey key fillValue value cached with
      ⟨rfl, rfl, rfl⟩ | earlier
    · exact Or.inr (Or.inl ⟨id, rfl, current⟩)
    · exact Or.inl earlier
  | l1Set id setNode setKey setValue current =>
    rcases lookup_storeL1 state setNode node setKey key setValue value cached with
      ⟨rfl, rfl, rfl⟩ | earlier
    · exact Or.inr (Or.inr ⟨id, rfl, current⟩)
    · exact Or.inl earlier
  | l1Delete id other principalID current =>
    exact Or.inl (lookup_eraseL1 state other node _ key value cached).2
  | evict other message handling =>
    exact Or.inl (lookup_eraseL1 state other node _ key value cached).2
  | dropL1 other otherKey =>
    exact Or.inl (lookup_eraseL1 state other node _ key value cached).2
  | _ => exact Or.inl cached

/-- A `Get` holds a value that it held before the step, or that it reads from the second
tier. -/
theorem found_source (state : TieredState Node) (event : TieredEvent Node)
    (next : TieredState Node) (step : state.step keyFormatter event = some next) (id : Nat)
    (call : TieredCall Node) (value : String)
    (current : next.calls id = some (call, .found value)) :
    state.calls id = some (call, .found value) ∨
      event = .l2Get id ∧ ∃ node key, call = ⟨node, .get key⟩ ∧
        state.l2.lookup key = some value := by
  cases tieredStepped_of_step keyFormatter state event next step with
  | l2Hit other node key found reading cached =>
    rcases Threads.advance_cases _ _ _ _ _ _ _ current with ⟨rfl, rfl, same⟩ | earlier
    · injection same with same
      subst same
      exact Or.inr ⟨rfl, node, key, rfl, cached⟩
    · exact Or.inl earlier
  | receive _ _ _ => exact Or.inl current
  | evict _ _ _ => exact Or.inl current
  | dropL1 _ _ => exact Or.inl current
  | dropL2 _ => exact Or.inl current
  | _ =>
    rcases Threads.advance_cases _ _ _ _ _ _ _ current with ⟨_, _, same⟩ | earlier
    · cases same
    · exact Or.inl earlier

/-- A `Get` that has returned a value had returned it before the step, reads it from the first
tier, or returns what it found. -/
theorem returned_source (state : TieredState Node) (event : TieredEvent Node)
    (next : TieredState Node) (step : state.step keyFormatter event = some next) (id : Nat)
    (call : TieredCall Node) (value : String)
    (current : next.calls id = some (call, .returned (some value))) :
    state.calls id = some (call, .returned (some value)) ∨
      (∃ node key, call = ⟨node, .get key⟩ ∧ (state.l1 node).lookup key = some value) ∨
      event = .l1Fill id ∧ state.calls id = some (call, .found value) := by
  cases tieredStepped_of_step keyFormatter state event next step with
  | l1Hit other node key found reading cached =>
    rcases Threads.advance_cases _ _ _ _ _ _ _ current with ⟨rfl, rfl, same⟩ | earlier
    · injection same with same
      injection same with same
      subst same
      exact Or.inr (Or.inl ⟨node, key, rfl, cached⟩)
    · exact Or.inl earlier
  | l1Fill other node key found reading =>
    rcases Threads.advance_cases _ _ _ _ _ _ _ current with ⟨rfl, rfl, same⟩ | earlier
    · injection same with same
      injection same with same
      subst same
      exact Or.inr (Or.inr ⟨rfl, reading⟩)
    · exact Or.inl earlier
  | receive _ _ _ => exact Or.inl current
  | evict _ _ _ => exact Or.inl current
  | dropL1 _ _ => exact Or.inl current
  | dropL2 _ => exact Or.inl current
  | _ =>
    rcases Threads.advance_cases _ _ _ _ _ _ _ current with ⟨_, _, same⟩ | earlier
    · cases same
    · exact Or.inl earlier

theorem tieredStep_moves (state : TieredState Node) (event : TieredEvent Node)
    (next : TieredState Node) (step : state.step keyFormatter event = some next) :
    Threads.Moves state.calls event.starts next.calls := by
  cases tieredStepped_of_step keyFormatter state event next step with
  | start id call fresh => exact .start id call _ fresh
  | receive _ _ _ => exact .stay
  | evict _ _ _ => exact .stay
  | dropL1 _ _ => exact .stay
  | dropL2 _ => exact .stay
  | l1Hit id node key value current cached => exact .move id _ _ _ current
  | l1Miss id node key current => exact .move id _ _ _ current
  | l2Hit id node key value current cached => exact .move id _ _ _ current
  | l2Miss id node key current => exact .move id _ _ _ current
  | l1Fill id node key value current => exact .move id _ _ _ current
  | l1Set id node key value current => exact .move id _ _ _ current
  | l2Set id node key value current => exact .move id _ _ _ current
  | l1Delete id node principalID current => exact .move id _ _ _ current
  | l2Delete id node principalID current => exact .move id _ _ _ current
  | publish id node principalID current => exact .move id _ _ _ current

/-! ### After the second tier is cleared -/

/-- No `Set` of the value under the key has a step among the events. -/
def Unset (started events : List (TieredEvent Node)) (key value : String) : Prop :=
  ∀ id node, .start id ⟨node, .set key value⟩ ∈ started → .l1Set id ∉ events ∧ .l2Set id ∉ events

/-- A `Get` of an instance that reads the second tier in a run. -/
def StaleGet (events : List (TieredEvent Node)) (node : Node) (key : String) (id : Nat) : Prop :=
  .start id ⟨node, .get key⟩ ∈ events ∧ .l2Get id ∈ events

/-- The second tier does not have the value, and the operations of the instance that hold it
are stale. -/
structure Withdrawn (started : List (TieredEvent Node)) (node : Node) (key value : String)
    (stale : Nat → Prop) (state : TieredState Node) : Prop where
  startedBy : Threads.StartedBy TieredEvent.starts started state.calls
  absentL2 : state.l2.lookup key ≠ some value
  held : ∀ id, state.calls id = some (⟨node, .get key⟩, .found value) → stale id

omit [DecidableEq Node] in
theorem start_of_current (started : List (TieredEvent Node)) (state : TieredState Node)
    (startedBy : Threads.StartedBy TieredEvent.starts started state.calls) (id : Nat)
    (call : TieredCall Node) (phase : TieredPhase)
    (current : state.calls id = some (call, phase)) : .start id call ∈ started := by
  obtain ⟨event, member, starts⟩ :=
    startedBy id call (by rw [Threads.caller, current]; rfl)
  exact starts_eq event id call starts ▸ member

theorem step_withdrawn (started events : List (TieredEvent Node)) (node : Node)
    (key value : String) (stale : Nat → Prop) (unset : Unset started events key value)
    (state : TieredState Node) (event : TieredEvent Node) (next : TieredState Node)
    (member : event ∈ events) (memberStarted : event ∈ started)
    (step : state.step keyFormatter event = some next)
    (withdrawn : Withdrawn started node key value stale state) :
    Withdrawn started node key value stale next := by
  obtain ⟨startedBy, absentL2, held⟩ := withdrawn
  refine ⟨Threads.startedBy_step _ _ _ (tieredStep_moves keyFormatter) started state event next
    memberStarted step startedBy, ?_, ?_⟩
  · intro cached
    rcases l2_source keyFormatter state event next step key value cached with
      earlier | ⟨id, setter, rfl, current⟩
    · exact absentL2 earlier
    · exact (unset id setter (start_of_current started state startedBy id _ _ current)).2 member
  · intro id current
    rcases found_source keyFormatter state event next step id _ value current with
      earlier | ⟨_, _, _, ⟨⟩, cached⟩
    · exact held id earlier
    · exact absurd cached absentL2

/-! ### After the instance has handled the message -/

/-- The instance does not have the value either, and none of its new operations has returned
it. -/
structure Handled (started : List (TieredEvent Node)) (node : Node) (key value : String)
    (stale old : Nat → Prop) (state : TieredState Node) : Prop where
  withdrawn : Withdrawn started node key value stale state
  absentL1 : (state.l1 node).lookup key ≠ some value
  results : ∀ id, state.calls id = some (⟨node, .get key⟩, .returned (some value)) → old id

theorem step_handled (started events : List (TieredEvent Node)) (node : Node)
    (key value : String) (stale old : Nat → Prop) (unset : Unset started events key value)
    (unfilled : ∀ id, stale id → .l1Fill id ∉ events) (state : TieredState Node)
    (event : TieredEvent Node) (next : TieredState Node) (member : event ∈ events)
    (memberStarted : event ∈ started) (step : state.step keyFormatter event = some next)
    (handled : Handled started node key value stale old state) :
    Handled started node key value stale old next := by
  obtain ⟨withdrawn, absentL1, results⟩ := handled
  refine ⟨step_withdrawn keyFormatter started events node key value stale unset state event next
    member memberStarted step withdrawn, ?_, ?_⟩
  · intro cached
    rcases l1_source keyFormatter state event next step node key value cached with
      earlier | ⟨id, rfl, current⟩ | ⟨id, rfl, current⟩
    · exact absentL1 earlier
    · exact unfilled id (withdrawn.held id current) member
    · have start := start_of_current started state withdrawn.startedBy id _ _ current
      exact (unset id node start).1 member
  · intro id current
    rcases returned_source keyFormatter state event next step id _ value current with
      earlier | ⟨_, _, ⟨⟩, cached⟩ | ⟨rfl, holding⟩
    · exact results id earlier
    · exact absurd cached absentL1
    · exact absurd member (unfilled id (withdrawn.held id holding))

/-! ### Whole runs -/

omit [DecidableEq Node] in
/-- The caches before any operation. -/
def TieredState.initial (l1 : Node → GoMap String String) (l2 : GoMap String String) :
    TieredState Node :=
  ⟨l1, l2, fun _ => [], fun _ => none, fun _ => none⟩

/-- The value an operation has returned, if any. -/
def TieredState.result (state : TieredState Node) (id : Nat) : Option String :=
  match state.calls id with
  | some (_, .returned result) => result
  | _ => none

/-- The operations were started, and the values they hold read, by events of the run. -/
structure TieredTraced (events : List (TieredEvent Node)) (state : TieredState Node) : Prop where
  startedBy : Threads.StartedBy TieredEvent.starts events state.calls
  read : ∀ id call value, state.calls id = some (call, .found value) → .l2Get id ∈ events

theorem step_tieredTraced (events : List (TieredEvent Node)) (state : TieredState Node)
    (event : TieredEvent Node) (next : TieredState Node) (member : event ∈ events)
    (step : state.step keyFormatter event = some next) (traced : TieredTraced events state) :
    TieredTraced events next := by
  refine ⟨Threads.startedBy_step _ _ _ (tieredStep_moves keyFormatter) events state event next
    member step traced.startedBy, ?_⟩
  intro id call value current
  rcases found_source keyFormatter state event next step id call value current with
    earlier | ⟨rfl, _⟩
  · exact traced.read id call value earlier
  · exact member

theorem exec_tieredTraced (l1 : Node → GoMap String String) (l2 : GoMap String String)
    (events : List (TieredEvent Node)) (state : TieredState Node)
    (run : Runs.exec (TieredState.step keyFormatter) (.initial l1 l2) events = some state) :
    TieredTraced events state := by
  refine Runs.exec_keeps (TieredState.step keyFormatter) (TieredTraced events) (· ∈ events)
    (step_tieredTraced keyFormatter events) _ state events (fun _ member => member) run ⟨?_, ?_⟩
  · intro id call known
    cases known
  · intro id call value current
    cases current

/-- When a revocation deletes the key from the second tier, what reads hold is stale. -/
theorem withdrawn_of_l2Delete (before after : List (TieredEvent Node))
    (state next : TieredState Node) (traced : TieredTraced before state) (revocation : Nat)
    (origin node : Node) (principalID value : String)
    (known : state.calls.caller revocation = some ⟨origin, .revoke principalID⟩)
    (step : state.step keyFormatter (.l2Delete revocation) = some next) :
    Withdrawn (before ++ .l2Delete revocation :: after) node (keyFormatter principalID) value
      (StaleGet before node (keyFormatter principalID)) next := by
  have startedBy := Threads.startedBy_step _ _ _ (tieredStep_moves keyFormatter)
    (before ++ .l2Delete revocation :: after) state (.l2Delete revocation) next
    (List.mem_append_right _ List.mem_cons_self) step
    (fun id call known => by
      obtain ⟨event, member, starts⟩ := traced.startedBy id call known
      exact ⟨event, List.mem_append_left _ member, starts⟩)
  refine ⟨startedBy, ?_, ?_⟩
  · cases tieredStepped_of_step keyFormatter state _ next step with
    | l2Delete _ deleter deleted current =>
      have same := Threads.caller_eq state.calls revocation _ _ _ current known
      injection same with _ same
      injection same with same
      rw [← same, AList.lookup_erase]
      simp
  · intro id current
    rcases found_source keyFormatter state _ next step id _ value current with
      earlier | ⟨⟨⟩, _⟩
    exact ⟨start_of_current before state traced.startedBy id _ _ earlier,
      traced.read id _ value earlier⟩

/-- When an instance handles the message, its first tier does not have the value; old are the
operations that have started by then. -/
theorem handled_of_evict (started : List (TieredEvent Node)) (node : Node)
    (message : Revocation) (value : String) (stale : Nat → Prop) (state next : TieredState Node)
    (events : List (TieredEvent Node))
    (unset : Unset started events (keyFormatter message.principalID) value)
    (member : .evict node message ∈ events) (memberStarted : .evict node message ∈ started)
    (step : state.step keyFormatter (.evict node message) = some next)
    (withdrawn : Withdrawn started node (keyFormatter message.principalID) value stale state) :
    Handled started node (keyFormatter message.principalID) value stale
      (fun id => next.calls id ≠ none) next := by
  refine ⟨step_withdrawn keyFormatter started events node _ value stale unset state _ next member
    memberStarted step withdrawn, ?_, ?_⟩
  · intro cached
    cases tieredStepped_of_step keyFormatter state _ next step with
    | evict _ _ handling =>
      exact (lookup_eraseL1 state node node _ _ value cached).1 ⟨rfl, rfl⟩
  · intro id current
    rw [current]
    simp

omit [DecidableEq Node] in
theorem unset_of_subset (started events fewer : List (TieredEvent Node)) (key value : String)
    (sub : ∀ event ∈ fewer, event ∈ events) (unset : Unset started events key value) :
    Unset started fewer key value := by
  intro id node start
  obtain ⟨unsetL1, unsetL2⟩ := unset id node start
  exact ⟨fun member => unsetL1 (sub _ member), fun member => unsetL2 (sub _ member)⟩

omit [DecidableEq Node] in
/-- Only an old operation has returned the value. -/
theorem result_of_handled (started : List (TieredEvent Node)) (node : Node) (key value : String)
    (stale old : Nat → Prop) (state : TieredState Node)
    (handled : Handled started node key value stale old state) (id : Nat)
    (known : state.calls.caller id = some ⟨node, .get key⟩)
    (returned : state.result id = some value) : old id := by
  unfold TieredState.result at returned
  split at returned
  · rename_i call result current
    rw [returned, ← Threads.caller_eq state.calls id call _ _ current known] at current
    exact handled.results id current
  · cases returned

/-- Revocation across instances: once a revocation has deleted the key from the second tier and
every instance has handled its message, no `Get` of the key that starts afterwards returns a
value that is not set again, in every run in which no `Get` that read the second tier before the
deletion fills the first tier of its instance after the instance has handled the message. -/
theorem revocation_propagates (l1 : Node → GoMap String String) (l2 : GoMap String String)
    (before during after : List (TieredEvent Node)) (final : TieredState Node)
    (revocation : Nat) (origin : Node) (principalID value : String)
    (run : Runs.exec (TieredState.step keyFormatter) (.initial l1 l2)
      (before ++ .l2Delete revocation :: (during ++ after)) = some final)
    (revoked : .start revocation ⟨origin, .revoke principalID⟩ ∈ before)
    (handled : ∀ node, .evict node ⟨revocation, principalID⟩ ∈ during)
    (unset : Unset (before ++ .l2Delete revocation :: (during ++ after)) (during ++ after)
      (keyFormatter principalID) value)
    (unfilled : ∀ node id earlier later,
      during = earlier ++ .evict node ⟨revocation, principalID⟩ :: later →
        StaleGet before node (keyFormatter principalID) id → .l1Fill id ∉ later ++ after)
    (id : Nat) (node : Node)
    (recent : .start id ⟨node, .get (keyFormatter principalID)⟩ ∈ after) :
    final.result id ≠ some value := by
  obtain ⟨running, ranBefore, run⟩ := Runs.exec_append _ _ _ _ _ run
  obtain ⟨cleared, delete, run⟩ := Runs.exec_cons _ _ _ _ _ run
  obtain ⟨earlier, later, split⟩ := List.append_of_mem (handled node)
  have rest : during ++ after =
      earlier ++ .evict node ⟨revocation, principalID⟩ :: (later ++ after) := by
    rw [split, List.append_assoc, List.cons_append]
  rw [rest] at run
  obtain ⟨waiting, ranEarlier, run⟩ := Runs.exec_append _ _ _ _ _ run
  obtain ⟨settled, evict, ranLater⟩ := Runs.exec_cons _ _ _ _ _ run
  have included : ∀ event ∈ during ++ after,
      event ∈ before ++ .l2Delete revocation :: (during ++ after) :=
    fun event member => List.mem_append_right _ (List.mem_cons_of_mem _ member)
  obtain ⟨_, known⟩ := Threads.caller_of_start (TieredState.step keyFormatter) TieredState.calls
    TieredEvent.starts (tieredStep_moves keyFormatter) _ revocation _ rfl _ running before
    ranBefore revoked
  have withdrawnCleared := withdrawn_of_l2Delete keyFormatter before (during ++ after) running
    cleared (exec_tieredTraced keyFormatter l1 l2 before running ranBefore) revocation origin node
    principalID value known delete
  have withdrawn := Runs.exec_keeps (TieredState.step keyFormatter) _ (· ∈ during ++ after)
    (fun state event next member => step_withdrawn keyFormatter _ (during ++ after) node _ value _
      unset state event next member (included event member))
    cleared waiting earlier
    (fun event member => by rw [rest]; exact List.mem_append_left _ member) ranEarlier
    withdrawnCleared
  have evictMember : .evict node ⟨revocation, principalID⟩ ∈ during ++ after := by
    rw [rest]
    exact List.mem_append_right _ List.mem_cons_self
  have handledSettled := handled_of_evict keyFormatter _ node ⟨revocation, principalID⟩ value _
    waiting settled (during ++ after) unset evictMember (included _ evictMember) evict withdrawn
  have sub : ∀ event ∈ later ++ after, event ∈ during ++ after := by
    intro event member
    rw [rest]
    exact List.mem_append_right _ (List.mem_cons_of_mem _ member)
  have handledFinal := Runs.exec_keeps (TieredState.step keyFormatter) _ (· ∈ later ++ after)
    (fun state event next member => step_handled keyFormatter _ (later ++ after) node _ value _ _
      (unset_of_subset _ _ _ _ value sub unset)
      (fun id stale => unfilled node id earlier later split stale) state event next member
      (included event (sub event member)))
    settled final (later ++ after) (fun _ member => member) ranLater handledSettled
  obtain ⟨fresh, started⟩ := Threads.caller_of_start (TieredState.step keyFormatter)
    TieredState.calls TieredEvent.starts (tieredStep_moves keyFormatter) _ id _ rfl settled final
    (later ++ after) ranLater (List.mem_append_right _ recent)
  intro returned
  exact result_of_handled _ node _ value _ _ final handledFinal id started returned fresh

end Steps

/-! ### Two runs of two instances -/

inductive Replica where
  | first
  | second
  deriving DecidableEq, Repr

/-- The default key of a principal. -/
def permissionKey (principalID : String) : String := "perm:" ++ principalID

/-- A value in the second tier only. -/
def primed : TieredState Replica :=
  .initial (fun _ => ∅) ((∅ : GoMap String String).insert "perm:user_999" "roles: editor")

/-- The end of a revocation, up to its handling by both instances. -/
def broadcast : List (TieredEvent Replica) :=
  [.publish 1, .receive .first, .evict .first ⟨1, "user_999"⟩, .receive .second,
    .evict .second ⟨1, "user_999"⟩]

/-- A read that is done before the revocation starts, and a read after it is handled. -/
def readThenRevoke : List (TieredEvent Replica) :=
  [.start 0 ⟨.first, .get "perm:user_999"⟩, .l1Get 0, .l2Get 0, .l1Fill 0,
      .start 1 ⟨.second, .revoke "user_999"⟩, .l1Delete 1] ++
    .l2Delete 1 :: (broadcast ++ [.start 2 ⟨.first, .get "perm:user_999"⟩, .l1Get 2, .l2Get 2])

theorem readThenRevoke_withdrawn :
    ∃ final, Runs.exec (TieredState.step permissionKey) primed readThenRevoke = some final ∧
      final.result 0 = some "roles: editor" ∧ final.result 2 ≠ some "roles: editor" := by
  have result : (Runs.exec (TieredState.step permissionKey) primed readThenRevoke).map
      (fun final => final.result 0) = some (some "roles: editor") := by
    decide +kernel
  obtain ⟨final, run, returned⟩ := Option.map_eq_some_iff.mp result
  refine ⟨final, run, returned, ?_⟩
  refine revocation_propagates permissionKey (fun _ => ∅) _ _ broadcast _ final 1 .second
    "user_999" _ run ?_ ?_ ?_ ?_ 2 .first ?_
  · simp
  · intro node
    cases node <;> simp [broadcast]
  · intro id node start
    simp [broadcast] at start
  · intro node id earlier later split stale filled
    have members : TieredEvent.l1Fill id ∈ broadcast ++
        [.start 2 ⟨.first, .get "perm:user_999"⟩, .l1Get 2, .l2Get 2] := by
      rw [split, List.append_assoc, List.cons_append]
      exact List.mem_append_right _ (List.mem_cons_of_mem _ filled)
    simp [broadcast] at members
  · simp [permissionKey]

/-- A read that has found the value in the second tier when the revocation deletes it there; it
fills its first tier after the message is handled, and another read starts then. -/
def readAcrossRevoke : List (TieredEvent Replica) :=
  [.start 0 ⟨.first, .get "perm:user_999"⟩, .l1Get 0, .l2Get 0,
      .start 1 ⟨.second, .revoke "user_999"⟩, .l1Delete 1] ++
    .l2Delete 1 :: (broadcast ++
      [.l1Fill 0, .start 2 ⟨.first, .get "perm:user_999"⟩, .l1Get 2])

/-- The read that starts after both instances have handled the message returns the revoked
value, which is never set. -/
theorem readAcrossRevoke_stale :
    ∃ final, Runs.exec (TieredState.step permissionKey) primed readAcrossRevoke = some final ∧
      (∀ node, .evict node ⟨1, "user_999"⟩ ∈ broadcast) ∧
      (∀ id node value, .start id ⟨node, .set (permissionKey "user_999") value⟩ ∉
        readAcrossRevoke) ∧
      final.result 2 = some "roles: editor" := by
  have result : (Runs.exec (TieredState.step permissionKey) primed readAcrossRevoke).map
      (fun final => final.result 2) = some (some "roles: editor") := by
    decide +kernel
  obtain ⟨final, run, returned⟩ := Option.map_eq_some_iff.mp result
  refine ⟨final, run, ?_, ?_, returned⟩
  · intro node
    cases node <;> simp [broadcast]
  · intro id node value start
    simp [readAcrossRevoke, broadcast] at start

end SharedGo.Authz
