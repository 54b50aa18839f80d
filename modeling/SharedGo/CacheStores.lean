/-
This file models the two cache backends and proves when they are the same expiring
map. The one in memory holds values as interface values and gets them back with a
type assertion; the one in Redis holds their JSON texts. Both turn an expiration
that is not positive into one that never comes, each in the way of its own client.

A value of an interface type is held as its dynamic value, so a nil one is held as
the nil interface, which no assertion accepts. The one in memory therefore misses a
stored nil interface, which the one in Redis finds. On every other value both are
the map that the calls describe: a key has the value of its last Set if no Delete
came after it and its time has not passed.
-/

import Mathlib.Data.List.Induction
import SharedGo.ExpiringMap

namespace SharedGo.Cache

open SharedGo

/-! ### Types and interface values -/

/-- A Go type: one with values of its own, or an interface, by the types that implement it. -/
inductive GoType (TypeName : Type) where
  | concrete (name : TypeName)
  | interface (implements : TypeName → Bool)

section Types

variable {TypeName : Type} [DecidableEq TypeName] (Value : TypeName → Type)

/-- The value of an interface: nil, or a value with its dynamic type. -/
abbrev Interface := Option (Sigma Value)

/-- The values of a type. An interface holds only values of types that implement it. -/
def GoType.Values : GoType TypeName → Type
  | .concrete name => Value name
  | .interface implements =>
    { held : Interface Value // ∀ dynamic, held = some dynamic → implements dynamic.1 = true }

variable {Value}

/-- The zero value of a type, given those of the types with values of their own. -/
def GoType.zero (zeros : ∀ name, Value name) : (type : GoType TypeName) → type.Values Value
  | .concrete name => zeros name
  | .interface _ => ⟨none, fun _ held => by cases held⟩

/-- The conversion to the empty interface. -/
def GoType.box : (type : GoType TypeName) → type.Values Value → Interface Value
  | .concrete name, value => some ⟨name, value⟩
  | .interface _, value => value.1

/-- The assertion that an interface value has the type. -/
def GoType.assert : (type : GoType TypeName) → Interface Value → Option (type.Values Value)
  | _, none => none
  | .concrete name, some ⟨dynamic, value⟩ =>
    if same : dynamic = name then some (same ▸ value) else none
  | .interface implements, some dynamic =>
    if implemented : implements dynamic.1 = true then
      some ⟨some dynamic, fun _ same => Option.some_inj.mp same ▸ implemented⟩
    else none

/-- The value is that of a nil interface. A nil pointer is not, as it has a dynamic type. -/
def GoType.IsNil : (type : GoType TypeName) → type.Values Value → Prop
  | .concrete _, _ => False
  | .interface _, value => value.1 = none

theorem assert_box (type : GoType TypeName) (value : type.Values Value)
    (present : ¬type.IsNil value) : type.assert (type.box value) = some value := by
  cases type with
  | concrete name => simp only [GoType.box, GoType.assert, dif_pos]
  | interface implements =>
    obtain ⟨held, implemented⟩ := value
    cases held with
    | none => exact absurd rfl present
    | some dynamic => simp only [GoType.box, GoType.assert, dif_pos (implemented dynamic rfl)]

theorem assert_box_nil (type : GoType TypeName) (value : type.Values Value)
    (absent : type.IsNil value) : type.assert (type.box value) = none := by
  cases type with
  | concrete name => exact absent.elim
  | interface implements =>
    have held : GoType.box (.interface implements) value = none := absent
    rw [held]
    rfl

end Types

/-! ### The backends -/

/-- The JSON encoding of the values of a type. -/
structure Codec (Element : Type) where
  marshal : Element → Except String String
  unmarshal : String → Except String Element

/-- Decoding undoes the encoding of a value. -/
def Codec.RoundTrips {Element : Type} (codec : Codec Element) (value : Element) : Prop :=
  ∃ data, codec.marshal value = .ok data ∧ codec.unmarshal data = .ok value

section Backends

variable {TypeName : Type} [DecidableEq TypeName] {Value : TypeName → Type}
  (zeros : ∀ name, Value name) (type : GoType TypeName)

/-- The store in memory, where values are held as interface values. -/
abbrev MemoryStore (Value : TypeName → Type) := ExpiringMap String (Interface Value)

/-- The store in Redis, where values are held as JSON texts. -/
abbrev RedisStore := ExpiringMap String String

/-- The duration that stands for no expiration in memory. -/
def noExpiration : Int := -1

/-- Stores a value; the failure, if any, and the store. -/
def MemoryStore.set (store : MemoryStore Value) (now : Int) (key : String)
    (value : type.Values Value) (expiration : Int) : Option String × MemoryStore Value :=
  (none, store.put now key (type.box value)
    (if expiration ≤ 0 then noExpiration else expiration))

/-- The value under a key, whether it was found, and the failure, if any. -/
def MemoryStore.get (store : MemoryStore Value) (now : Int) (key : String) :
    type.Values Value × Bool × Option String :=
  match store.find now key with
  | none => (type.zero zeros, false, none)
  | some raw =>
    match type.assert raw with
    | none => (type.zero zeros, false, none)
    | some value => (value, true, none)

def MemoryStore.delete (store : MemoryStore Value) (key : String) :
    Option String × MemoryStore Value :=
  (none, store.erase key)

variable {type} (codec : Codec (type.Values Value))

def RedisStore.set (store : RedisStore) (now : Int) (key : String) (value : type.Values Value)
    (expiration : Int) : Option String × RedisStore :=
  match codec.marshal value with
  | .error error => (some error, store)
  | .ok data => (none, store.put now key data (if expiration ≤ 0 then 0 else expiration))

def RedisStore.get (store : RedisStore) (now : Int) (key : String) :
    type.Values Value × Bool × Option String :=
  match store.find now key with
  | none => (type.zero zeros, false, none)
  | some data =>
    match codec.unmarshal data with
    | .error error => (type.zero zeros, false, some error)
    | .ok value => (value, true, none)

def RedisStore.delete (store : RedisStore) (key : String) : Option String × RedisStore :=
  (none, store.erase key)

/-! ### Runs -/

/-- The calls, the passage of time, and the sweeps of the janitor. -/
inductive CacheEvent (Element : Type) where
  | set (key : String) (value : Element) (expiration : Int)
  | get (key : String)
  | delete (key : String)
  | elapse (duration : Nat)
  | sweep

/-- The time, and both stores. -/
structure Stores (Value : TypeName → Type) where
  now : Int
  memory : MemoryStore Value
  redis : RedisStore

/-- Both stores get every call; the janitor sweeps the one in memory. -/
def Stores.step (stores : Stores Value) : CacheEvent (type.Values Value) → Stores Value
  | .set key value expiration =>
    { stores with
      memory := (stores.memory.set type stores.now key value expiration).2
      redis := (stores.redis.set codec stores.now key value expiration).2 }
  | .get _ => stores
  | .delete key =>
    { stores with
      memory := (stores.memory.delete key).2
      redis := (stores.redis.delete key).2 }
  | .elapse duration => { stores with now := stores.now + duration }
  | .sweep => { stores with memory := stores.memory.sweep stores.now }

/-- The stores after a run that starts with empty ones. -/
def runStores (start : Int) (events : List (CacheEvent (type.Values Value))) : Stores Value :=
  events.foldl (Stores.step codec) ⟨start, ∅, ∅⟩

end Backends

/-! ### The map that the calls describe -/

section Standing

variable {Element : Type}

/-- The event writes to the key. -/
def CacheEvent.Writes (key : String) : CacheEvent Element → Prop
  | .set other _ _ => other = key
  | .delete other => other = key
  | _ => False

/-- The time that passes in some events. -/
def elapsed : List (CacheEvent Element) → Int
  | [] => 0
  | .elapse duration :: rest => duration + elapsed rest
  | _ :: rest => elapsed rest

/-- The last write to the key set the value, with an expiration that is not positive or is more
than the time since. -/
def Live (events : List (CacheEvent Element)) (key : String) (value : Element) : Prop :=
  ∃ before after expiration, events = before ++ .set key value expiration :: after ∧
    (∀ event ∈ after, ¬event.Writes key) ∧ (expiration ≤ 0 ∨ elapsed after < expiration)

/-- A value that was set, its expiration, and the time since. -/
structure SetValue (Element : Type) where
  value : Element
  expiration : Int
  age : Int

/-- The value, if it still stands after some more time. -/
def SetValue.after (later : Int) (written : SetValue Element) : Option Element :=
  if written.expiration ≤ 0 ∨ written.age + later < written.expiration then some written.value
  else none

/-- What an event does to the last value set under a key. -/
def writtenStep (key : String) (written : Option (SetValue Element)) :
    CacheEvent Element → Option (SetValue Element)
  | .set other value expiration => if key = other then some ⟨value, expiration, 0⟩ else written
  | .get _ => written
  | .delete other => if key = other then none else written
  | .elapse duration => written.map fun set => { set with age := set.age + duration }
  | .sweep => written

/-- The last value set under a key, unless it was deleted. -/
def written (events : List (CacheEvent Element)) (key : String) : Option (SetValue Element) :=
  events.foldl (writtenStep key) none

theorem written_concat (events : List (CacheEvent Element)) (event : CacheEvent Element)
    (key : String) :
    written (events ++ [event]) key = writtenStep key (written events key) event :=
  List.foldl_concat _ _ _ _

/-- Events that do not write to the key only let its value age. -/
theorem foldl_written_of_not_writes (key : String) (after : List (CacheEvent Element))
    (kept : ∀ event ∈ after, ¬event.Writes key) (set : SetValue Element) :
    after.foldl (writtenStep key) (some set) =
      some { set with age := set.age + elapsed after } := by
  induction after generalizing set with
  | nil => simp [elapsed]
  | cons event after inductionHypothesis =>
    have others := fun other member => kept other (List.mem_cons_of_mem event member)
    have first := kept event List.mem_cons_self
    cases event with
    | set other value expiration =>
      simp only [CacheEvent.Writes] at first
      rw [List.foldl_cons, writtenStep, if_neg (Ne.symm first), inductionHypothesis others]
      rfl
    | get other => exact inductionHypothesis others set
    | delete other =>
      simp only [CacheEvent.Writes] at first
      rw [List.foldl_cons, writtenStep, if_neg (Ne.symm first), inductionHypothesis others]
      rfl
    | elapse duration =>
      rw [List.foldl_cons, writtenStep, Option.map_some, inductionHypothesis others, elapsed,
        Int.add_assoc]
    | sweep => exact inductionHypothesis others set

theorem elapsed_append (first second : List (CacheEvent Element)) :
    elapsed (first ++ second) = elapsed first + elapsed second := by
  induction first with
  | nil => exact (Int.zero_add _).symm
  | cons event first inductionHypothesis =>
    cases event with
    | elapse duration => rw [List.cons_append, elapsed, elapsed, inductionHypothesis, Int.add_assoc]
    | set | get | delete | sweep => exact inductionHypothesis

/-- The last write to the key is a Set, some time ago. -/
def LastSet (events : List (CacheEvent Element)) (key : String) (set : SetValue Element) : Prop :=
  ∃ before after, events = before ++ .set key set.value set.expiration :: after ∧
    (∀ event ∈ after, ¬event.Writes key) ∧ elapsed after = set.age

theorem LastSet.concat {past : List (CacheEvent Element)} {key : String} {set : SetValue Element}
    (last : LastSet past key set) (event : CacheEvent Element) (keeps : ¬event.Writes key) :
    LastSet (past ++ [event]) key { set with age := set.age + elapsed [event] } := by
  obtain ⟨before, after, rfl, kept, same⟩ := last
  refine ⟨before, after ++ [event], by simp, ?_, ?_⟩
  · intro other member
    rcases List.mem_append.mp member with earlier | isEvent
    · exact kept other earlier
    · rw [List.mem_singleton.mp isEvent]
      exact keeps
  · rw [elapsed_append, same]

/-- The last value set comes from a Set after which nothing was written. -/
theorem lastSet_of_written (events : List (CacheEvent Element)) (key : String)
    (set : SetValue Element) (isWritten : written events key = some set) :
    LastSet events key set := by
  induction events using List.reverseRecOn generalizing set with
  | nil => cases isWritten
  | append_singleton past event inductionHypothesis =>
    rw [written_concat] at isWritten
    cases event with
    | set other value expiration =>
      rw [writtenStep] at isWritten
      split_ifs at isWritten with same
      · obtain rfl := Option.some_inj.mp isWritten
        subst same
        exact ⟨past, [], rfl, fun event member => absurd member List.not_mem_nil, rfl⟩
      · simpa [elapsed] using (inductionHypothesis set isWritten).concat
          (.set other value expiration) (Ne.symm same)
    | get other =>
      simpa [elapsed] using (inductionHypothesis set isWritten).concat (.get other) not_false
    | delete other =>
      rw [writtenStep] at isWritten
      split_ifs at isWritten with same
      simpa [elapsed] using (inductionHypothesis set isWritten).concat (.delete other)
        (Ne.symm same)
    | elapse duration =>
      obtain ⟨earlier, wasWritten, rfl⟩ := Option.map_eq_some_iff.mp isWritten
      simpa [elapsed] using (inductionHypothesis earlier wasWritten).concat (.elapse duration)
        not_false
    | sweep =>
      simpa [elapsed] using (inductionHypothesis set isWritten).concat .sweep not_false

/-- The value that lives under a key is the last one set, if its time has not passed. -/
theorem live_iff (events : List (CacheEvent Element)) (key : String) (value : Element) :
    Live events key value ↔ (written events key).bind (SetValue.after 0) = some value := by
  constructor
  · rintro ⟨before, after, expiration, rfl, kept, standing⟩
    rw [written, List.foldl_append, List.foldl_cons, writtenStep, if_pos rfl,
      foldl_written_of_not_writes key after kept, Option.bind_some, SetValue.after, if_pos]
    simpa using standing
  · intro isLive
    obtain ⟨set, isWritten, standing⟩ := Option.bind_eq_some_iff.mp isLive
    obtain ⟨before, after, rfl, kept, same⟩ := lastSet_of_written events key set isWritten
    rw [SetValue.after, Option.ite_none_right_eq_some] at standing
    obtain ⟨standing, isValue⟩ := standing
    obtain rfl := Option.some_inj.mp isValue
    refine ⟨before, after, set.expiration, rfl, kept, ?_⟩
    simpa [same] using standing

theorem live_unique (events : List (CacheEvent Element)) (key : String) (first second : Element)
    (live : Live events key first) (other : Live events key second) : first = second := by
  rw [live_iff] at live other
  exact Option.some_inj.mp (live.symm.trans other)

theorem live_was_set (events : List (CacheEvent Element)) (key : String) (value : Element)
    (live : Live events key value) : ∃ expiration, .set key value expiration ∈ events := by
  obtain ⟨before, after, expiration, rfl, _⟩ := live
  exact ⟨expiration, List.mem_append_right _ List.mem_cons_self⟩

end Standing

/-! ### What the stores hold -/

section Mirrors

variable {Element Stored : Type}

/-- A map finds under every key, now and later, the stored form of the value that stands. -/
def Mirrors (represent : Element → Option Stored) (written : String → Option (SetValue Element))
    (now : Int) (map : ExpiringMap String Stored) : Prop :=
  ∀ key later, 0 ≤ later →
    map.find (now + later) key = ((written key).bind (SetValue.after later)).bind represent

variable {represent : Element → Option Stored} {now : Int} {map : ExpiringMap String Stored}
  {past : List (CacheEvent Element)}

theorem mirrors_empty (now : Int) :
    Mirrors represent (written []) now (∅ : ExpiringMap String Stored) :=
  fun _ _ _ => rfl

variable (mirrors : Mirrors represent (written past) now map)

include mirrors

theorem Mirrors.put (key : String) (value : Element) (expiration ttl : Int) (stored : Stored)
    (isStored : represent value = some stored)
    (same : ∀ later, ttl ≤ 0 ∨ now + later < now + ttl ↔ expiration ≤ 0 ∨ later < expiration) :
    Mirrors represent (written (past ++ [.set key value expiration])) now
      (map.put now key stored ttl) := by
  intro other later order
  rw [ExpiringMap.find_put, written_concat, writtenStep]
  by_cases isKey : other = key
  · rw [if_pos isKey, if_pos isKey, Option.bind_some, SetValue.after]
    simp only [Int.zero_add, same later]
    split_ifs
    · exact isStored.symm
    · rfl
  · rw [if_neg isKey, if_neg isKey]
    exact mirrors other later order

theorem Mirrors.erase (key : String) :
    Mirrors represent (written (past ++ [.delete key])) now (map.erase key) := by
  intro other later order
  rw [ExpiringMap.find_erase, written_concat, writtenStep]
  split_ifs
  · rfl
  · exact mirrors other later order

theorem Mirrors.elapse (duration : Nat) :
    Mirrors represent (written (past ++ [.elapse duration])) (now + duration) map := by
  intro key later order
  rw [Int.add_assoc, mirrors key (duration + later) (by omega), written_concat, writtenStep]
  cases written past key with
  | none => rfl
  | some set => simp only [Option.bind_some, Option.map_some, SetValue.after, Int.add_assoc]

theorem Mirrors.sweep :
    Mirrors represent (written (past ++ [.sweep])) now (map.sweep now) := by
  intro key later order
  rw [ExpiringMap.find_sweep map now _ (by omega), written_concat]
  exact mirrors key later order

/-- An event that writes nothing is not seen. -/
theorem Mirrors.keep (event : CacheEvent Element)
    (kept : ∀ key, writtenStep key (written past key) event = written past key) :
    Mirrors represent (written (past ++ [event])) now map := by
  intro key later order
  rw [written_concat, kept]
  exact mirrors key later order

theorem Mirrors.find (key : String) :
    map.find now key = ((written past key).bind (SetValue.after 0)).bind represent := by
  simpa using mirrors key 0 (Int.le_refl 0)

end Mirrors

section Stores

variable {TypeName : Type} {Value : TypeName → Type}
  {type : GoType TypeName} (codec : Codec (type.Values Value))

/-- The text of a value, if it can be encoded. -/
def Codec.text {Element : Type} (codec : Codec Element) (value : Element) : Option String :=
  (codec.marshal value).toOption

/-- Both stores mirror the calls. -/
structure Tracked (past : List (CacheEvent (type.Values Value))) (stores : Stores Value) :
    Prop where
  memory : Mirrors (fun value => some (type.box value)) (written past) stores.now stores.memory
  redis : Mirrors codec.text (written past) stores.now stores.redis

variable (past : List (CacheEvent (type.Values Value))) (stores : Stores Value)

theorem tracked_set (tracked : Tracked codec past stores) (key : String)
    (value : type.Values Value) (expiration : Int) (roundTrips : codec.RoundTrips value) :
    Tracked codec (past ++ [.set key value expiration])
      (stores.step codec (.set key value expiration)) := by
  obtain ⟨data, marshalled, _⟩ := roundTrips
  refine ⟨?_, ?_⟩
  · refine tracked.memory.put key value expiration _ (type.box value) rfl fun later => ?_
    split_ifs with negative
    · exact iff_of_true (Or.inl (by decide)) (Or.inl negative)
    · omega
  · simp only [Stores.step, RedisStore.set, marshalled]
    refine tracked.redis.put key value expiration _ data ?_ fun later => ?_
    · rw [Codec.text, marshalled]
      rfl
    · split_ifs with negative
      · exact iff_of_true (Or.inl (Int.le_refl 0)) (Or.inl negative)
      · omega

theorem tracked_step (tracked : Tracked codec past stores)
    (event : CacheEvent (type.Values Value))
    (roundTrips : ∀ key value expiration, event = .set key value expiration →
      codec.RoundTrips value) :
    Tracked codec (past ++ [event]) (stores.step codec event) := by
  cases event with
  | set key value expiration =>
    exact tracked_set codec past stores tracked key value expiration
      (roundTrips key value expiration rfl)
  | get key => exact ⟨tracked.memory.keep _ fun _ => rfl, tracked.redis.keep _ fun _ => rfl⟩
  | delete key => exact ⟨tracked.memory.erase key, tracked.redis.erase key⟩
  | elapse duration => exact ⟨tracked.memory.elapse duration, tracked.redis.elapse duration⟩
  | sweep => exact ⟨tracked.memory.sweep, tracked.redis.keep _ fun _ => rfl⟩

/-- In every run of values that can be encoded, both stores mirror the calls. -/
theorem run_tracked (start : Int) (events : List (CacheEvent (type.Values Value)))
    (roundTrips : ∀ key value expiration, .set key value expiration ∈ events →
      codec.RoundTrips value) :
    Tracked codec events (runStores codec start events) := by
  induction events using List.reverseRecOn with
  | nil => exact ⟨mirrors_empty start, mirrors_empty start⟩
  | append_singleton past event inductionHypothesis =>
    rw [runStores, List.foldl_concat]
    refine tracked_step codec past _ (inductionHypothesis ?_) event ?_
    · intro key value expiration member
      exact roundTrips key value expiration (List.mem_append_left _ member)
    · rintro key value expiration rfl
      exact roundTrips key value expiration (List.mem_append_right _ List.mem_cons_self)

end Stores

/-! ### Two backends, one map -/

section Agreement

variable {TypeName : Type} [DecidableEq TypeName] {Value : TypeName → Type}
  (zeros : ∀ name, Value name) {type : GoType TypeName} (codec : Codec (type.Values Value))

/-- After a run both stores are the map that its calls describe, at a key: a read finds exactly the
value that lives there and otherwise misses, and no call tells the stores apart. -/
structure SameMap (start : Int) (events : List (CacheEvent (type.Values Value))) (key : String) :
    Prop where
  found : ∀ value,
    (runStores codec start events).memory.get zeros type (runStores codec start events).now key =
        (value, true, none) ↔ Live events key value
  missed : (¬∃ value, Live events key value) →
    (runStores codec start events).memory.get zeros type (runStores codec start events).now key =
      (type.zero zeros, false, none)
  same : (runStores codec start events).redis.get zeros codec
      (runStores codec start events).now key =
    (runStores codec start events).memory.get zeros type (runStores codec start events).now key
  sameSet : ∀ value expiration, codec.RoundTrips value →
    ((runStores codec start events).redis.set codec (runStores codec start events).now key value
        expiration).1 =
      ((runStores codec start events).memory.set type (runStores codec start events).now key value
        expiration).1
  sameDelete : ((runStores codec start events).redis.delete key).1 =
    ((runStores codec start events).memory.delete key).1

section Reads

variable {codec} {past : List (CacheEvent (type.Values Value))} {stores : Stores Value}
  (tracked : Tracked codec past stores) (key : String)

include tracked

theorem get_dead (dead : ¬∃ value, Live past key value) :
    stores.memory.get zeros type stores.now key = (type.zero zeros, false, none) ∧
      stores.redis.get zeros codec stores.now key = (type.zero zeros, false, none) := by
  have none : (written past key).bind (SetValue.after 0) = none := by
    refine Option.eq_none_iff_forall_ne_some.mpr fun value isLive => dead ⟨value, ?_⟩
    exact (live_iff past key value).mpr isLive
  rw [MemoryStore.get, RedisStore.get, tracked.memory.find, tracked.redis.find, none]
  exact ⟨rfl, rfl⟩

theorem memory_get_live (value : type.Values Value) (live : Live past key value) :
    stores.memory.get zeros type stores.now key =
      match type.assert (type.box value) with
      | none => (type.zero zeros, false, none)
      | some value => (value, true, none) := by
  rw [MemoryStore.get, tracked.memory.find, (live_iff past key value).mp live]
  rfl

omit [DecidableEq TypeName] in
theorem redis_get_live (value : type.Values Value) (live : Live past key value)
    (roundTrips : codec.RoundTrips value) :
    stores.redis.get zeros codec stores.now key = (value, true, none) := by
  obtain ⟨data, marshalled, unmarshalled⟩ := roundTrips
  have text : codec.text value = some data := by
    rw [Codec.text, marshalled]
    rfl
  rw [RedisStore.get, tracked.redis.find, (live_iff past key value).mp live, Option.bind_some, text]
  simp only [unmarshalled]

end Reads

/-- After every run of values that can be encoded, both stores are the map that its calls describe
at a key, exactly when no nil interface lives there. -/
theorem sameMap_iff (start : Int) (events : List (CacheEvent (type.Values Value))) (key : String)
    (roundTrips : ∀ key value expiration, .set key value expiration ∈ events →
      codec.RoundTrips value) :
    SameMap zeros codec start events key ↔
      ∀ value, Live events key value → ¬type.IsNil value := by
  have tracked := run_tracked codec start events roundTrips
  constructor
  · intro sameMap value live absent
    have found := (sameMap.found value).mpr live
    rw [memory_get_live zeros tracked key value live, assert_box_nil type value absent] at found
    cases (Prod.mk.inj (Prod.mk.inj found).2).1
  · intro present
    have sameSet : ∀ value expiration, codec.RoundTrips value →
        ((runStores codec start events).redis.set codec (runStores codec start events).now key
          value expiration).1 = none := by
      rintro value expiration ⟨data, marshalled, _⟩
      rw [RedisStore.set, marshalled]
    by_cases alive : ∃ value, Live events key value
    · obtain ⟨value, live⟩ := alive
      have memory := memory_get_live zeros tracked key value live
      rw [assert_box type value (present value live)] at memory
      obtain ⟨expiration, wasSet⟩ := live_was_set events key value live
      have redis := redis_get_live zeros tracked key value live
        (roundTrips key value expiration wasSet)
      refine ⟨fun other => ?_, fun dead => absurd ⟨value, live⟩ dead, ?_, sameSet, rfl⟩
      · rw [memory]
        constructor
        · intro same
          exact (Prod.mk.inj same).1 ▸ live
        · intro otherLive
          rw [live_unique events key value other live otherLive]
      · rw [memory, redis]
    · obtain ⟨memory, redis⟩ := get_dead zeros tracked key alive
      refine ⟨fun other => ?_, fun _ => memory, redis.trans memory.symm, sameSet, rfl⟩
      rw [memory]
      constructor
      · intro same
        cases (Prod.mk.inj (Prod.mk.inj same).2).1
      · intro live
        exact absurd ⟨other, live⟩ alive

end Agreement

/-! ### Booleans behind an interface -/

/-- The one type of the examples. -/
inductive BoolName where
  | bool
  deriving DecidableEq, Repr

/-- The empty interface. -/
def anyType : GoType BoolName := .interface fun _ => true

abbrev AnyValue := anyType.Values fun _ => Bool

def anyNil : AnyValue := ⟨none, fun _ held => by cases held⟩

def anyBool (value : Bool) : AnyValue := ⟨some ⟨.bool, value⟩, fun _ _ => rfl⟩

/-- The encoding of a boolean or nil behind an interface. -/
def anyCodec : Codec AnyValue where
  marshal value :=
    match value.1 with
    | none => .ok "null"
    | some ⟨_, true⟩ => .ok "true"
    | some ⟨_, false⟩ => .ok "false"
  unmarshal text :=
    if text = "null" then .ok anyNil
    else if text = "true" then .ok (anyBool true)
    else if text = "false" then .ok (anyBool false)
    else .error "invalid character"

/-- A boolean behind an interface is found by both, also when it is the zero value. -/
theorem storedFalse_same :
    SameMap (fun _ => false) anyCodec 0
      [.set "flag" (anyBool false) 10, .elapse 9, .sweep] "flag" := by
  refine (sameMap_iff (fun _ => false) anyCodec 0 _ "flag" ?_).mpr ?_
  · intro key value expiration member
    simp only [List.mem_cons, CacheEvent.set.injEq, reduceCtorEq, List.not_mem_nil, or_false]
      at member
    exact ⟨"false", by rw [member.2.1]; rfl, by rw [member.2.1]; rfl⟩
  · intro value live
    obtain rfl : anyBool false = value := Option.some_inj.mp ((live_iff _ _ value).mp live)
    exact Option.some_ne_none _

/-- A nil interface is found in Redis, and missed in memory. -/
theorem storedNil_missed :
    (runStores anyCodec 0 [.set "key" anyNil 0]).memory.get (fun _ => false) anyType 0 "key" =
        (anyNil, false, none) ∧
      (runStores anyCodec 0 [.set "key" anyNil 0]).redis.get (fun _ => false) anyCodec 0 "key" =
        (anyNil, true, none) ∧
      Live [.set "key" anyNil 0] "key" anyNil ∧ anyCodec.RoundTrips anyNil := by
  refine ⟨rfl, rfl, ?_, ?_⟩
  · exact ⟨[], [], 0, rfl, fun _ member => absurd member List.not_mem_nil, Or.inl (Int.le_refl 0)⟩
  · exact ⟨"null", rfl, rfl⟩

end SharedGo.Cache
