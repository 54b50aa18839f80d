/-
This file proves what the in-memory revocation bus promises. Subscribing makes a
channel and enters it in a map; publishing offers the identifier to every channel
in the map, without waiting; a subscription ends when its context is cancelled, or
when the provider is closed. These sections hold one mutex, so a run is a list of
them, in any order, with the receives of the subscribers between them.

No section panics: a channel leaves the map in the section that closes it, and
only channels in the map are closed or sent to. A channel takes an identifier only
while its buffer has room, so a subscriber receives what was published exactly
when no identifier was published while its buffer was full.
-/

import SharedGo.Channel
import SharedGo.MapRange
import SharedGo.Runs
import Mathlib.Data.List.Perm.Basic

namespace SharedGo.Authz

open SharedGo

/-! ### The provider -/

/-- The channels that were made, by their identities. -/
abbrev Channels := Nat → Option (Channel String)

/-- The buffer of a subscription. -/
def subscriptionCapacity : Nat := 100

/-- The bus of a provider: its channels and its map of subscribers, the context that the goroutine
of each subscription waits for, the contexts that are cancelled, and whether the provider was
closed. Kept besides is what was received from each channel since it was made, and the panic that
has ended the process. -/
structure BusState where
  channels : Channels
  subscribers : GoMap Nat Unit
  waiting : Nat → Option Nat
  cancelled : Nat → Bool
  closeDone : Bool
  received : Nat → List String
  panicked : Option ChannelPanic

def BusState.initial : BusState where
  channels _ := none
  subscribers := ∅
  waiting _ := none
  cancelled _ := false
  closeDone := false
  received _ := []
  panicked := none

/-- The sections of the provider, the receives and the cancellations. A section that ranges over
the subscribers visits them in some order. -/
inductive BusEvent where
  | subscribe (id context : Nat)
  | publish (principalID : String) (order : List Nat)
  | cancel (context : Nat)
  | unsubscribe (id : Nat)
  | receive (id : Nat)
  | close (order : List Nat)
  deriving DecidableEq, Repr

/-- The loop of a publication. A nil channel is never ready. -/
def sendAll (principalID : String) : List Nat → Channels → Except ChannelPanic Channels
  | [], channels => .ok channels
  | id :: rest, channels =>
    match channels id with
    | none => sendAll principalID rest channels
    | some channel =>
      match channel.trySend principalID with
      | .error panic => .error panic
      | .ok sent => sendAll principalID rest (Function.update channels id (some sent))

def closeChannel (channels : Channels) (id : Nat) : Except ChannelPanic Channels :=
  match channels id with
  | none => .error .closeOfNilChannel
  | some channel =>
    match channel.close with
    | .error panic => .error panic
    | .ok closed => .ok (Function.update channels id (some closed))

/-- The loop of a closing: every channel is closed and deleted from the map. -/
def closeAll : List Nat → Channels → GoMap Nat Unit →
    Except ChannelPanic (Channels × GoMap Nat Unit)
  | [], channels, subscribers => .ok (channels, subscribers)
  | id :: rest, channels, subscribers =>
    match closeChannel channels id with
    | .error panic => .error panic
    | .ok channels => closeAll rest channels (subscribers.erase id)

def BusState.publishRevocation (state : BusState) (principalID : String) (order : List Nat) :
    BusState :=
  match sendAll principalID order state.channels with
  | .error panic => { state with panicked := some panic }
  | .ok channels => { state with channels }

/-- The section of the goroutine of a subscription whose context is cancelled. -/
def BusState.unsubscribe (state : BusState) (id : Nat) : BusState :=
  let finished := { state with waiting := Function.update state.waiting id none }
  if id ∈ state.subscribers then
    match closeChannel state.channels id with
    | .error panic => { finished with panicked := some panic }
    | .ok channels => { finished with channels, subscribers := state.subscribers.erase id }
  else finished

def BusState.close (state : BusState) (order : List Nat) : BusState :=
  match closeAll order state.channels state.subscribers with
  | .error panic => { state with panicked := some panic }
  | .ok (channels, subscribers) => { state with channels, subscribers, closeDone := true }

/-- One step of a run; none is possible after a panic. -/
def BusState.step (state : BusState) (event : BusEvent) : Option BusState :=
  if state.panicked.isSome then none
  else
    match event with
    | .subscribe id context =>
      match state.channels id with
      | some _ => none
      | none =>
        some { state with
          channels := Function.update state.channels id (some (.make subscriptionCapacity))
          subscribers := state.subscribers.insert id ()
          waiting := Function.update state.waiting id (some context)
          received := Function.update state.received id [] }
    | .publish principalID order =>
      if order.Perm state.subscribers.keys then some (state.publishRevocation principalID order)
      else none
    | .cancel context =>
      some { state with cancelled := Function.update state.cancelled context true }
    | .unsubscribe id =>
      match state.waiting id with
      | none => none
      | some context => if state.cancelled context then some (state.unsubscribe id) else none
    | .receive id =>
      match (state.channels id).bind Channel.receive with
      | none => none
      | some (element, channel) =>
        some { state with
          channels := Function.update state.channels id (some channel)
          received := Function.update state.received id
            (state.received id ++ element.toList) }
    | .close order =>
      if state.closeDone then some state
      else if order.Perm state.subscribers.keys then some (state.close order)
      else none

/-! ### The loops on open channels -/

/-- The channel was made, and is open. -/
def OpenAt (channels : Channels) (id : Nat) : Prop :=
  ∃ channel, channels id = some channel ∧ channel.closed = false

theorem openAt_update_self (channels : Channels) (id : Nat) (channel : Channel String)
    (isOpen : channel.closed = false) :
    OpenAt (Function.update channels id (some channel)) id :=
  ⟨channel, Function.update_self _ _ _, isOpen⟩

theorem openAt_update_of_ne (channels : Channels) (id other : Nat)
    (channel : Option (Channel String)) (different : other ≠ id) (isOpen : OpenAt channels other) :
    OpenAt (Function.update channels id channel) other := by
  rw [OpenAt, Function.update_of_ne different]
  exact isOpen

/-- A publication to open channels does not panic: it sends once to each channel it visits, and
leaves the others alone. -/
theorem sendAll_of_open (principalID : String) (order : List Nat) (distinct : order.Nodup)
    (channels : Channels) (isOpen : ∀ id ∈ order, OpenAt channels id) :
    ∃ next, sendAll principalID order channels = .ok next ∧
      (∀ id, id ∉ order → next id = channels id) ∧
      ∀ id ∈ order, ∀ channel, channels id = some channel →
        ∃ sent, channel.trySend principalID = .ok sent ∧ next id = some sent := by
  induction order generalizing channels with
  | nil => exact ⟨channels, rfl, fun _ _ => rfl, fun _ member => by cases member⟩
  | cons first rest inductionHypothesis =>
    obtain ⟨fresh, distinct⟩ := List.nodup_cons.mp distinct
    obtain ⟨channel, current, unclosed⟩ := isOpen first List.mem_cons_self
    obtain ⟨sent, sending, _⟩ := channel.trySend_of_open principalID unclosed
    have others : ∀ id ∈ rest, id ≠ first := by
      rintro id member rfl
      exact fresh member
    obtain ⟨next, ran, untouched, visited⟩ := inductionHypothesis distinct
      (Function.update channels first (some sent))
      (fun id member => openAt_update_of_ne channels first id _ (others id member)
        (isOpen id (List.mem_cons_of_mem _ member)))
    refine ⟨next, ?_, ?_, ?_⟩
    · rw [sendAll, current]
      simp only [sending]
      exact ran
    · intro id absent
      rw [List.mem_cons, not_or] at absent
      rw [untouched id absent.2, Function.update_of_ne absent.1]
    · intro id member other found
      rcases List.mem_cons.mp member with rfl | member
      · rw [current, Option.some_inj] at found
        refine ⟨sent, found ▸ sending, ?_⟩
        rw [untouched id fresh, Function.update_self]
      · refine visited id member other ?_
        rw [Function.update_of_ne (others id member), found]

theorem closeChannel_of_open (channels : Channels) (id : Nat) (isOpen : OpenAt channels id) :
    ∃ channel, closeChannel channels id = .ok (Function.update channels id (some channel)) := by
  obtain ⟨channel, current, unclosed⟩ := isOpen
  refine ⟨{ channel with closed := true }, ?_⟩
  rw [closeChannel, current]
  simp only [channel.close_of_open unclosed]

/-- A closing of open channels does not panic, and leaves none of them in the map. -/
theorem closeAll_of_open (order : List Nat) (distinct : order.Nodup) (channels : Channels)
    (subscribers : GoMap Nat Unit) (isOpen : ∀ id ∈ order, OpenAt channels id) :
    ∃ next remaining, closeAll order channels subscribers = .ok (next, remaining) ∧
      ∀ id ∈ remaining, id ∈ subscribers ∧ id ∉ order := by
  induction order generalizing channels subscribers with
  | nil => exact ⟨channels, subscribers, rfl, fun id member => ⟨member, List.not_mem_nil⟩⟩
  | cons first rest inductionHypothesis =>
    obtain ⟨fresh, distinct⟩ := List.nodup_cons.mp distinct
    obtain ⟨closed, closing⟩ := closeChannel_of_open channels first
      (isOpen first List.mem_cons_self)
    have others : ∀ id ∈ rest, id ≠ first := by
      rintro id member rfl
      exact fresh member
    obtain ⟨next, remaining, ran, left⟩ := inductionHypothesis distinct
      (Function.update channels first (some closed)) (subscribers.erase first)
      (fun id member => openAt_update_of_ne channels first id _ (others id member)
        (isOpen id (List.mem_cons_of_mem _ member)))
    refine ⟨next, remaining, ?_, ?_⟩
    · rw [closeAll, closing]
      exact ran
    · intro id member
      obtain ⟨kept, absent⟩ := left id member
      obtain ⟨different, earlier⟩ := AList.mem_erase.mp kept
      exact ⟨earlier, fun visited => (List.mem_cons.mp visited).elim different absent⟩

/-! ### No section panics -/

/-- No section has panicked, and the map has open channels only. -/
structure Safe (state : BusState) : Prop where
  calm : state.panicked = none
  isOpen : ∀ id ∈ state.subscribers, OpenAt state.channels id

theorem safe_initial : Safe .initial where
  calm := rfl
  isOpen id member := absurd member (AList.notMem_empty id)

/-- What a publication does: it sends once to each subscriber. -/
theorem publishRevocation_of_safe (state : BusState) (safe : Safe state) (principalID : String)
    (order : List Nat) (visits : order.Perm state.subscribers.keys) :
    ∃ next, state.publishRevocation principalID order = { state with channels := next } ∧
      ∀ id ∈ state.subscribers, ∀ channel, state.channels id = some channel →
        ∃ sent, channel.trySend principalID = .ok sent ∧ next id = some sent := by
  have distinct : order.Nodup := visits.nodup_iff.mpr state.subscribers.keys_nodup
  obtain ⟨next, ran, _, visited⟩ := sendAll_of_open principalID order distinct
    state.channels (fun id member => safe.isOpen id (visits.mem_iff.mp member))
  refine ⟨next, ?_, fun id member => visited id (visits.mem_iff.mpr member)⟩
  rw [BusState.publishRevocation, ran]

theorem publishRevocation_safe (state : BusState) (safe : Safe state) (principalID : String)
    (order : List Nat) (visits : order.Perm state.subscribers.keys) :
    Safe (state.publishRevocation principalID order) := by
  obtain ⟨next, published, visited⟩ :=
    publishRevocation_of_safe state safe principalID order visits
  rw [published]
  refine ⟨safe.calm, ?_⟩
  intro id member
  obtain ⟨channel, current, unclosed⟩ := safe.isOpen id member
  obtain ⟨sent, sending, received⟩ := visited id member channel current
  obtain ⟨other, sendingOther, otherOpen, _⟩ := channel.trySend_of_open principalID unclosed
  obtain rfl : sent = other := Except.ok.inj (sending.symm.trans sendingOther)
  exact ⟨sent, received, otherOpen⟩

theorem unsubscribe_safe (state : BusState) (safe : Safe state) (id : Nat) :
    Safe (state.unsubscribe id) := by
  unfold BusState.unsubscribe
  by_cases member : id ∈ state.subscribers
  · obtain ⟨closed, closing⟩ := closeChannel_of_open state.channels id (safe.isOpen id member)
    simp only [if_pos member, closing]
    refine ⟨safe.calm, ?_⟩
    intro other kept
    obtain ⟨different, earlier⟩ := AList.mem_erase.mp kept
    exact openAt_update_of_ne _ _ _ _ different (safe.isOpen other earlier)
  · simp only [if_neg member]
    exact ⟨safe.calm, safe.isOpen⟩

/-- A closing empties the map. -/
theorem close_safe (state : BusState) (safe : Safe state) (order : List Nat)
    (visits : order.Perm state.subscribers.keys) : Safe (state.close order) := by
  have distinct : order.Nodup := visits.nodup_iff.mpr state.subscribers.keys_nodup
  obtain ⟨next, remaining, ran, left⟩ := closeAll_of_open order distinct state.channels
    state.subscribers (fun id member => safe.isOpen id (visits.mem_iff.mp member))
  rw [BusState.close, ran]
  refine ⟨safe.calm, ?_⟩
  intro id member
  obtain ⟨earlier, absent⟩ := left id member
  exact absurd (visits.mem_iff.mpr earlier) absent

/-- What a step does, by its event. -/
inductive BusStepped (state : BusState) : BusEvent → BusState → Prop
  | subscribe (id context : Nat) (fresh : state.channels id = none) :
      BusStepped state (.subscribe id context)
        { state with
          channels := Function.update state.channels id (some (.make subscriptionCapacity))
          subscribers := state.subscribers.insert id ()
          waiting := Function.update state.waiting id (some context)
          received := Function.update state.received id [] }
  | publish (principalID : String) (order : List Nat)
      (visits : order.Perm state.subscribers.keys) :
      BusStepped state (.publish principalID order) (state.publishRevocation principalID order)
  | cancel (context : Nat) (cancelled : Nat → Bool) :
      BusStepped state (.cancel context) { state with cancelled }
  | unsubscribe (id : Nat) : BusStepped state (.unsubscribe id) (state.unsubscribe id)
  | receive (id : Nat) (channel rest : Channel String) (element : Option String)
      (current : state.channels id = some channel)
      (received : channel.receive = some (element, rest)) :
      BusStepped state (.receive id)
        { state with
          channels := Function.update state.channels id (some rest)
          received := Function.update state.received id (state.received id ++ element.toList) }
  | close (order : List Nat) (visits : order.Perm state.subscribers.keys) :
      BusStepped state (.close order) (state.close order)
  | closeAgain (order : List Nat) : BusStepped state (.close order) state

theorem busStepped_of_step (state next : BusState) (event : BusEvent)
    (step : state.step event = some next) : BusStepped state event next := by
  unfold BusState.step at step
  split at step
  · cases step
  · cases event with
    | subscribe id context =>
      simp only at step
      split at step
      · cases step
      · rename_i fresh
        exact Option.some_inj.mp step ▸ .subscribe id context fresh
    | publish principalID order =>
      simp only at step
      split at step
      · rename_i visits
        exact Option.some_inj.mp step ▸ .publish principalID order visits
      · cases step
    | cancel context => exact Option.some_inj.mp step ▸ .cancel context _
    | unsubscribe id =>
      simp only at step
      split at step
      · cases step
      · split at step
        · exact Option.some_inj.mp step ▸ .unsubscribe id
        · cases step
    | receive id =>
      simp only at step
      split at step
      · cases step
      · rename_i element rest bound
        obtain ⟨channel, current, received⟩ := Option.bind_eq_some_iff.mp bound
        exact Option.some_inj.mp step ▸ .receive id channel rest element current received
    | close order =>
      simp only at step
      split at step
      · exact Option.some_inj.mp step ▸ .closeAgain order
      · split at step
        · rename_i visits
          exact Option.some_inj.mp step ▸ .close order visits
        · cases step

theorem step_safe (state : BusState) (event : BusEvent) (next : BusState)
    (step : state.step event = some next) (safe : Safe state) : Safe next := by
  cases busStepped_of_step state next event step with
  | subscribe id context fresh =>
    refine ⟨safe.calm, ?_⟩
    intro other member
    by_cases same : other = id
    · subst same
      exact openAt_update_self _ _ _ rfl
    · have earlier : other ∈ state.subscribers := ((AList.mem_insert _).mp member).resolve_left same
      exact openAt_update_of_ne _ _ _ _ same (safe.isOpen other earlier)
  | publish principalID order visits =>
    exact publishRevocation_safe state safe principalID order visits
  | cancel context cancelled => exact ⟨safe.calm, safe.isOpen⟩
  | unsubscribe id => exact unsubscribe_safe state safe id
  | receive id channel rest element current received =>
    refine ⟨safe.calm, ?_⟩
    intro other member
    by_cases same : other = id
    · subst same
      obtain ⟨known, found, unclosed⟩ := safe.isOpen other member
      obtain rfl := Option.some_inj.mp (current.symm.trans found)
      obtain ⟨sameClosed, _⟩ := channel.receive_cases rest element received
      exact openAt_update_self _ _ _ (sameClosed.trans unclosed)
    · exact openAt_update_of_ne _ _ _ _ same (safe.isOpen other member)
  | close order visits => exact close_safe state safe order visits
  | closeAgain order => exact safe

theorem run_safe (events : List BusEvent) (state final : BusState) (safe : Safe state)
    (run : Runs.exec BusState.step state events = some final) : Safe final :=
  Runs.exec_keeps BusState.step Safe (fun _ => True)
    (fun state event next _ => step_safe state event next) state final events
    (fun _ _ => trivial) run safe

/-- Channel safety: in no run does a section close a channel twice, close a nil channel or send on
a closed one, any of which panics, and a channel is in the map only while it is open. -/
theorem channels_safe (events : List BusEvent) (final : BusState)
    (run : Runs.exec BusState.step .initial events = some final) :
    final.panicked = none ∧
      ∀ id ∈ final.subscribers, ∃ channel, final.channels id = some channel ∧
        channel.closed = false := by
  have safe := run_safe events .initial final safe_initial run
  exact ⟨safe.calm, safe.isOpen⟩

/-- Two subscriptions: one is cancelled, and its goroutine comes after the provider was closed; the
other is made after the closing. -/
def cancelledLate : List BusEvent :=
  [.subscribe 0 7, .publish "user_1" [0], .cancel 7, .close [0], .unsubscribe 0, .subscribe 1 8,
    .publish "user_2" [1], .receive 0, .receive 0, .receive 1, .close []]

theorem cancelledLate_safe :
    ∃ final, Runs.exec BusState.step .initial cancelledLate = some final ∧
      final.received 0 = ["user_1"] ∧ final.received 1 = ["user_2"] ∧ final.panicked = none := by
  have observed : (Runs.exec BusState.step .initial cancelledLate).map
      (fun final => (final.received 0, final.received 1)) = some (["user_1"], ["user_2"]) := by
    decide +kernel
  obtain ⟨final, run, received⟩ := Option.map_eq_some_iff.mp observed
  obtain ⟨first, second⟩ := Prod.mk.inj received
  exact ⟨final, run, first, second, (channels_safe cancelledLate final run).1⟩

/-! ### What a subscriber receives -/

/-- Neither ends a subscription nor prepares to. -/
def BusEvent.quiet : BusEvent → Bool
  | .subscribe _ _ => true
  | .publish _ _ => true
  | .receive _ => true
  | _ => false

/-- The identifiers that a run publishes. -/
def publishedIDs (events : List BusEvent) : List String :=
  events.filterMap fun event =>
    match event with
    | .publish principalID _ => some principalID
    | _ => none

/-- A publication finds room in the channel. -/
def RoomAt (id : Nat) (state : BusState) (event : BusEvent) : Prop :=
  ∀ principalID order, event = .publish principalID order →
    ∀ channel, state.channels id = some channel → channel.hasRoom = true

/-- The channel is subscribed, and is this one. -/
structure Following (id : Nat) (channel : Channel String) (state : BusState) : Prop where
  safe : Safe state
  subscribed : id ∈ state.subscribers
  current : state.channels id = some channel

/-- What a step adds to the channel. -/
def accepted (channel : Channel String) : BusEvent → List String
  | .publish principalID _ => if channel.hasRoom then [principalID] else []
  | _ => []

/-- A step of a run that ends no subscription adds what it publishes at the end of what was and
will be received. -/
theorem step_following (id : Nat) (channel : Channel String) (state : BusState) (event : BusEvent)
    (next : BusState) (quiet : event.quiet = true) (step : state.step event = some next)
    (following : Following id channel state) :
    ∃ channel', Following id channel' next ∧
      next.received id ++ channel'.buffer =
        state.received id ++ channel.buffer ++ accepted channel event := by
  have safe := step_safe state event next step following.safe
  cases busStepped_of_step state next event step with
  | subscribe other context fresh =>
    have different : id ≠ other := by
      rintro rfl
      rw [following.current] at fresh
      cases fresh
    refine ⟨channel, ⟨safe, (AList.mem_insert _).mpr (Or.inr following.subscribed), ?_⟩, ?_⟩
    · exact (Function.update_of_ne different _ _).trans following.current
    · simp only [accepted, Function.update_of_ne different, List.append_nil]
  | publish principalID order visits =>
    obtain ⟨channels, published, visited⟩ :=
      publishRevocation_of_safe state following.safe principalID order visits
    obtain ⟨sent, sending, received⟩ :=
      visited id following.subscribed channel following.current
    obtain ⟨known, found, unclosed⟩ := following.safe.isOpen id following.subscribed
    obtain rfl := Option.some_inj.mp (following.current.symm.trans found)
    obtain ⟨other, sendingOther, _, _, buffer⟩ := channel.trySend_of_open principalID unclosed
    obtain rfl : sent = other := Except.ok.inj (sending.symm.trans sendingOther)
    rw [published] at safe ⊢
    refine ⟨sent, ⟨safe, following.subscribed, received⟩, ?_⟩
    rw [buffer, accepted]
    split
    · exact (List.append_assoc _ _ _).symm
    · exact (List.append_nil _).symm
  | cancel context cancelled => cases quiet
  | unsubscribe other => cases quiet
  | receive other channel' rest element current received =>
    by_cases same : id = other
    · subst same
      obtain rfl := Option.some_inj.mp (following.current.symm.trans current)
      obtain ⟨_, _, split⟩ := channel.receive_cases rest element received
      refine ⟨rest, ⟨safe, following.subscribed, Function.update_self _ _ _⟩, ?_⟩
      rw [split]
      simp only [accepted, Function.update_self, List.append_nil, List.append_assoc]
    · refine ⟨channel, ⟨safe, following.subscribed, ?_⟩, ?_⟩
      · exact (Function.update_of_ne same _ _).trans following.current
      · simp only [accepted, Function.update_of_ne same, List.append_nil]
  | close order visits => cases quiet
  | closeAgain order => cases quiet

theorem accepted_sublist (channel : Channel String) (event : BusEvent) :
    (accepted channel event).Sublist (publishedIDs [event]) := by
  cases event with
  | publish principalID order =>
    simp only [accepted, publishedIDs, List.filterMap_cons, List.filterMap_nil]
    split
    · exact List.Sublist.refl _
    · exact List.nil_sublist _
  | _ => exact List.Sublist.refl _

theorem accepted_eq_iff (id : Nat) (channel : Channel String) (state : BusState)
    (current : state.channels id = some channel) (event : BusEvent) :
    accepted channel event = publishedIDs [event] ↔ RoomAt id state event := by
  cases event with
  | publish principalID order =>
    simp only [accepted, publishedIDs, List.filterMap_cons, List.filterMap_nil, RoomAt, current,
      Option.some_inj]
    constructor
    · rintro whole _ _ _ _ rfl
      by_contra full
      rw [if_neg full] at whole
      cases whole
    · intro room
      rw [if_pos (room principalID order rfl channel rfl)]
  | _ => simp [accepted, publishedIDs, RoomAt]

/-- Sublists of two lists make up the whole only if each does. -/
theorem append_eq_append_iff_of_sublist {Element : Type} (first second : List Element)
    (wholeFirst wholeSecond : List Element) (partFirst : first.Sublist wholeFirst)
    (partSecond : second.Sublist wholeSecond) :
    first ++ second = wholeFirst ++ wholeSecond ↔ first = wholeFirst ∧ second = wholeSecond := by
  constructor
  · intro whole
    have lengths := congrArg List.length whole
    rw [List.length_append, List.length_append] at lengths
    have shorterFirst := partFirst.length_le
    have shorterSecond := partSecond.length_le
    exact ⟨partFirst.eq_of_length (by omega), partSecond.eq_of_length (by omega)⟩
  · rintro ⟨rfl, rfl⟩
    rfl

/-- What a run adds to a channel is part of what it publishes, and all of it exactly when every
publication finds room. -/
theorem run_following (id : Nat) (channel : Channel String) (events : List BusEvent)
    (state final : BusState) (quiet : ∀ event ∈ events, event.quiet = true)
    (run : Runs.exec BusState.step state events = some final)
    (following : Following id channel state) :
    ∃ channel' delivered, Following id channel' final ∧
      final.received id ++ channel'.buffer =
        state.received id ++ channel.buffer ++ delivered ∧
      delivered.Sublist (publishedIDs events) ∧
      (delivered = publishedIDs events ↔ Runs.Meets BusState.step (RoomAt id) state events) := by
  induction events generalizing state channel with
  | nil =>
    obtain rfl := Option.some_inj.mp run
    refine ⟨channel, [], following, (List.append_nil _).symm, List.nil_sublist _, ?_⟩
    exact iff_of_true rfl (Runs.meets_nil _ _ _)
  | cons event rest inductionHypothesis =>
    obtain ⟨next, stepped, run⟩ := Runs.exec_cons _ _ _ _ _ run
    obtain ⟨channel', followingNext, added⟩ := step_following id channel state event next
      (quiet event List.mem_cons_self) stepped following
    obtain ⟨last, delivered, followingFinal, addedRest, part, whole⟩ := inductionHypothesis channel'
      next (fun other member => quiet other (List.mem_cons_of_mem _ member)) run followingNext
    have published : publishedIDs (event :: rest) = publishedIDs [event] ++ publishedIDs rest := by
      rw [publishedIDs, publishedIDs, publishedIDs, ← List.filterMap_append]
      rfl
    have partEvent := accepted_sublist channel event
    refine ⟨last, accepted channel event ++ delivered, followingFinal, ?_, ?_, ?_⟩
    · rw [addedRest, added, List.append_assoc]
    · rw [published]
      exact partEvent.append part
    · rw [published, append_eq_append_iff_of_sublist _ _ _ _ partEvent part, whole,
        accepted_eq_iff id channel state following.current,
        Runs.meets_cons _ _ state next event rest stepped]

/-- No lost revocation: a subscriber that has drained its channel has received the identifiers that
were published since it subscribed, in their order, exactly when none of them was published while
its buffer was full. -/
theorem received_all_iff (early later : List BusEvent) (id context : Nat)
    (subscribed final : BusState)
    (subscribes : Runs.exec BusState.step .initial (early ++ [.subscribe id context]) =
      some subscribed)
    (run : Runs.exec BusState.step subscribed later = some final)
    (quiet : ∀ event ∈ later, event.quiet = true) (channel : Channel String)
    (current : final.channels id = some channel) (drained : channel.buffer = []) :
    final.received id = publishedIDs later ↔
      Runs.Meets BusState.step (RoomAt id) subscribed later := by
  have safe := run_safe _ _ _ safe_initial subscribes
  obtain ⟨state, _, last⟩ := Runs.exec_append _ _ _ _ _ subscribes
  obtain ⟨next, step, ended⟩ := Runs.exec_cons _ _ _ _ _ last
  obtain rfl := Option.some_inj.mp ended
  have started : Following id (.make subscriptionCapacity) next ∧ next.received id = [] := by
    cases busStepped_of_step state next _ step with
    | subscribe _ _ fresh =>
      exact ⟨⟨safe, (AList.mem_insert _).mpr (Or.inl rfl), Function.update_self _ _ _⟩,
        Function.update_self _ _ _⟩
  obtain ⟨following, unread⟩ := started
  obtain ⟨known, delivered, followingFinal, added, _, whole⟩ :=
    run_following id _ later next final quiet run following
  obtain rfl := Option.some_inj.mp (current.symm.trans followingFinal.current)
  have received : final.received id = delivered := by
    rw [drained, List.append_nil, unread] at added
    exact added
  rw [received, whole]

/-- A subscriber that keeps up. -/
def keepingUp : List BusEvent :=
  [.publish "user_1" [0], .publish "user_2" [0], .receive 0, .publish "user_1" [0], .receive 0,
    .receive 0]

theorem keepingUp_receives_all :
    ∃ subscribed final, Runs.exec BusState.step .initial ([] ++ [.subscribe 0 0]) =
        some subscribed ∧
      Runs.exec BusState.step subscribed keepingUp = some final ∧
      final.received 0 = ["user_1", "user_2", "user_1"] ∧
      Runs.Meets BusState.step (RoomAt 0) subscribed keepingUp := by
  have observed : ((Runs.exec BusState.step .initial ([] ++ [.subscribe 0 0])).bind
      fun subscribed => Runs.exec BusState.step subscribed keepingUp).map
      (fun final => (final.received 0, (final.channels 0).map Channel.buffer)) =
        some (["user_1", "user_2", "user_1"], some []) := by
    decide +kernel
  obtain ⟨final, runs, seen⟩ := Option.map_eq_some_iff.mp observed
  obtain ⟨subscribed, subscribes, run⟩ := Option.bind_eq_some_iff.mp runs
  obtain ⟨received, buffers⟩ := Prod.mk.inj seen
  obtain ⟨channel, current, drained⟩ := Option.map_eq_some_iff.mp buffers
  refine ⟨subscribed, final, subscribes, run, received, ?_⟩
  exact (received_all_iff [] keepingUp 0 0 subscribed final subscribes run (by decide) channel
    current drained).mp received

/-- A subscriber that starts to receive after a burst of publications. -/
def burst : List BusEvent :=
  List.replicate 101 (.publish "user_1" [0]) ++ List.replicate 100 (.receive 0)

/-- The last of 101 identifiers is lost. -/
theorem burst_loses_one :
    ∃ subscribed final channel,
      Runs.exec BusState.step .initial ([] ++ [.subscribe 0 0]) = some subscribed ∧
      Runs.exec BusState.step subscribed burst = some final ∧
      (∀ event ∈ burst, event.quiet = true) ∧
      final.channels 0 = some channel ∧ channel.buffer = [] ∧
      final.received 0 ≠ publishedIDs burst := by
  have observed : ((Runs.exec BusState.step .initial ([] ++ [.subscribe 0 0])).bind
      fun subscribed => Runs.exec BusState.step subscribed burst).map
      (fun final => ((final.received 0).length, (final.channels 0).map Channel.buffer)) =
        some (100, some []) := by
    decide +kernel
  obtain ⟨final, runs, seen⟩ := Option.map_eq_some_iff.mp observed
  obtain ⟨subscribed, subscribes, run⟩ := Option.bind_eq_some_iff.mp runs
  obtain ⟨received, buffers⟩ := Prod.mk.inj seen
  obtain ⟨channel, current, drained⟩ := Option.map_eq_some_iff.mp buffers
  refine ⟨subscribed, final, channel, subscribes, run, by decide +kernel, current, drained, ?_⟩
  intro all
  rw [all] at received
  exact absurd received (by decide +kernel)

end SharedGo.Authz
