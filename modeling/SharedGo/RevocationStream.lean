/-
This file proves what the revocation stream of a tiered cache promises when its bus
is Redis. A goroutine of the bus forwards the messages of the subscription to a
channel with a buffer of a hundred, and waits while it is full. The listener of the
cache takes them from there and deletes the key of each from the first tier. Closing
the cache cancels both, waits for the listener, and closes the tiers, once for any
number of calls. The goroutines and the calls interleave in any order.

No send or close panics. The deletions are those of the messages, in their order and
once each, none after the first tier is closed. The system always settles: until the
cache is closed every message is handled in the end, and afterwards every call
returns and both goroutines end.
-/

import SharedGo.CacheProvider
import SharedGo.Channel
import SharedGo.Runs

namespace SharedGo.Authz

open SharedGo

/-! ### The goroutines and the calls -/

/-- The goroutine of a subscription. It ends by closing its channel and the subscription. -/
inductive ForwarderPhase where
  | receiving
  | sending (payload : String)
  | closingOut
  | closingPubSub
  | done
  deriving DecidableEq, Repr

/-- The goroutine of the revocation listener. -/
inductive ListenerPhase where
  | selecting
  | evicting (principalID : String)
  | done
  deriving DecidableEq, Repr

/-- The statements of `Close` that run once. -/
inductive CloseStage where
  | cancelling
  | waiting
  | closingL1
  | closingL2 (err1 : Option CacheError)
  deriving DecidableEq, Repr

/-- The `sync.Once` of `Close`, with the call that runs its function. -/
inductive CloseOnce where
  | unused
  | running (call : Nat) (stage : CloseStage)
  | done
  deriving DecidableEq, Repr

/-- A call of `Close`. -/
inductive CloseCall where
  | entered
  | returned (err : Option CacheError)
  deriving DecidableEq, Repr

/-- What the goroutines and the calls do to the tiers. -/
inductive TierEffect where
  | l1Delete (key : String)
  | l1Close (err : Option CacheError)
  | l2Close (err : Option CacheError)
  deriving DecidableEq, Repr

/-- The messages of the subscription that have not been taken, and whether it has ended; the
goroutines and the channel between them; the context that they share; the calls of `Close`. Kept
besides is what happened to the tiers, and the panic that has ended the process. -/
structure StreamState where
  messages : List String
  ended : Bool
  forwarder : ForwarderPhase
  out : Channel String
  listener : ListenerPhase
  cancelled : Bool
  closeOnce : CloseOnce
  calls : List CloseCall
  effects : List TierEffect
  panicked : Option ChannelPanic

/-- The buffer between the goroutines. -/
def streamCapacity : Nat := 100

/-- The listener has subscribed and both goroutines have started. -/
def StreamState.initial : StreamState where
  messages := []
  ended := false
  forwarder := .receiving
  out := .make streamCapacity
  listener := .selecting
  cancelled := false
  closeOnce := .unused
  calls := []
  effects := []
  panicked := none

/-- Redis delivers a message or ends the subscription, `Close` is called, and the goroutines and
calls take their steps. -/
inductive StreamEvent where
  | deliver (principalID : String)
  | finish
  | forwardReceive
  | forwardSend
  | forwardStop
  | closeOut
  | closePubSub
  | listenReceive
  | listenStop
  | evict
  | close
  | enterOnce (call : Nat)
  | cancelListen
  | wait
  | closeL1 (err1 : Option CacheError)
  | closeL2 (err2 : Option CacheError)
  deriving DecidableEq, Repr

/-- The events that are steps of a goroutine or of a call. -/
def StreamEvent.internal : StreamEvent → Bool
  | .deliver _ => false
  | .finish => false
  | .close => false
  | _ => true

/-- The identifiers that Redis delivers. -/
def StreamEvent.delivered : StreamEvent → Option String
  | .deliver principalID => some principalID
  | _ => none

/-! ### Steps -/

section Steps

variable (keyFormatter : String → String)

/-- The forwarder waits for a message; a closed subscription is drained first. -/
def StreamState.forwardReceive (state : StreamState) : Option StreamState :=
  match state.forwarder with
  | .receiving =>
    match state.messages with
    | payload :: rest => some { state with messages := rest, forwarder := .sending payload }
    | [] => if state.ended then some { state with forwarder := .closingOut } else none
  | _ => none

/-- The forwarder waits for room in the channel. -/
def StreamState.forwardSend (state : StreamState) : Option StreamState :=
  match state.forwarder with
  | .sending payload =>
    if state.out.closed || state.out.hasRoom then
      match state.out.trySend payload with
      | .error panic => some { state with panicked := some panic }
      | .ok out => some { state with out, forwarder := .receiving }
    else none
  | _ => none

/-- Both of the forwarder's selects end when the context is cancelled. -/
def StreamState.forwardStop (state : StreamState) : Option StreamState :=
  match state.forwarder with
  | .receiving => if state.cancelled then some { state with forwarder := .closingOut } else none
  | .sending _ => if state.cancelled then some { state with forwarder := .closingOut } else none
  | _ => none

def StreamState.closeOut (state : StreamState) : Option StreamState :=
  match state.forwarder with
  | .closingOut =>
    match state.out.close with
    | .error panic => some { state with panicked := some panic }
    | .ok out => some { state with out, forwarder := .closingPubSub }
  | _ => none

def StreamState.listenReceive (state : StreamState) : Option StreamState :=
  match state.listener with
  | .selecting =>
    match state.out.receive with
    | none => none
    | some (none, out) => some { state with out, listener := .done }
    | some (some principalID, out) => some { state with out, listener := .evicting principalID }
  | _ => none

def StreamState.evict (state : StreamState) : Option StreamState :=
  match state.listener with
  | .evicting principalID =>
    some { state with
      listener := .selecting
      effects := state.effects ++ [.l1Delete (keyFormatter principalID)] }
  | _ => none

/-- The first call runs the function; the others wait for it and return nil. -/
def StreamState.enterOnce (state : StreamState) (call : Nat) : Option StreamState :=
  match state.calls[call]?, state.closeOnce with
  | some .entered, .unused => some { state with closeOnce := .running call .cancelling }
  | some .entered, .done => some { state with calls := state.calls.set call (.returned none) }
  | _, _ => none

/-- The function that runs once. The error of the first tier is preferred. -/
def StreamState.runOnce (state : StreamState) (event : StreamEvent) : Option StreamState :=
  match state.closeOnce, event with
  | .running call .cancelling, .cancelListen =>
    some { state with cancelled := true, closeOnce := .running call .waiting }
  | .running call .waiting, .wait =>
    if state.listener = .done then some { state with closeOnce := .running call .closingL1 }
    else none
  | .running call .closingL1, .closeL1 err1 =>
    some { state with
      closeOnce := .running call (.closingL2 err1)
      effects := state.effects ++ [.l1Close err1] }
  | .running call (.closingL2 err1), .closeL2 err2 =>
    some { state with
      closeOnce := .done
      calls := state.calls.set call (.returned (err1 <|> err2))
      effects := state.effects ++ [.l2Close err2] }
  | _, _ => none

/-- One step of a run; none is possible after a panic. -/
def StreamState.step (state : StreamState) (event : StreamEvent) : Option StreamState :=
  if state.panicked.isSome then none
  else
    match event with
    | .deliver principalID =>
      if state.ended then none
      else some { state with messages := state.messages ++ [principalID] }
    | .finish => some { state with ended := true }
    | .forwardReceive => state.forwardReceive
    | .forwardSend => state.forwardSend
    | .forwardStop => state.forwardStop
    | .closeOut => state.closeOut
    | .closePubSub =>
      if state.forwarder = .closingPubSub then
        some { state with forwarder := .done, ended := true }
      else none
    | .listenReceive => state.listenReceive
    | .listenStop =>
      if state.listener = .selecting ∧ state.cancelled then
        some { state with listener := .done }
      else none
    | .evict => state.evict keyFormatter
    | .close => some { state with calls := state.calls ++ [.entered] }
    | .enterOnce call => state.enterOnce call
    | .cancelListen => state.runOnce event
    | .wait => state.runOnce event
    | .closeL1 _ => state.runOnce event
    | .closeL2 _ => state.runOnce event

/-- What a step does that does not panic, by its event. -/
inductive StreamStepped (state : StreamState) : StreamEvent → StreamState → Prop
  | deliver (principalID : String) (running : state.ended = false) :
      StreamStepped state (.deliver principalID)
        { state with messages := state.messages ++ [principalID] }
  | finish : StreamStepped state .finish { state with ended := true }
  | take (payload : String) (rest : List String) (receiving : state.forwarder = .receiving)
      (first : state.messages = payload :: rest) :
      StreamStepped state .forwardReceive
        { state with messages := rest, forwarder := .sending payload }
  | drain (receiving : state.forwarder = .receiving) (empty : state.messages = [])
      (isOver : state.ended = true) :
      StreamStepped state .forwardReceive { state with forwarder := .closingOut }
  | send (payload : String) (out : Channel String) (sending : state.forwarder = .sending payload)
      (isOpen : out.closed = state.out.closed) (capacity : out.capacity = state.out.capacity)
      (buffer : out.buffer = state.out.buffer ++ [payload]) :
      StreamStepped state .forwardSend { state with out, forwarder := .receiving }
  | stop (running : state.forwarder = .receiving ∨ ∃ payload, state.forwarder = .sending payload)
      (cancelled : state.cancelled = true) :
      StreamStepped state .forwardStop { state with forwarder := .closingOut }
  | closeOut (closing : state.forwarder = .closingOut) :
      StreamStepped state .closeOut
        { state with out := { state.out with closed := true }, forwarder := .closingPubSub }
  | closePubSub (closing : state.forwarder = .closingPubSub) :
      StreamStepped state .closePubSub { state with forwarder := .done, ended := true }
  | receive (principalID : String) (out : Channel String)
      (selecting : state.listener = .selecting) (isOpen : out.closed = state.out.closed)
      (capacity : out.capacity = state.out.capacity)
      (buffer : state.out.buffer = principalID :: out.buffer) :
      StreamStepped state .listenReceive { state with out, listener := .evicting principalID }
  | listened (selecting : state.listener = .selecting) (closed : state.out.closed = true)
      (empty : state.out.buffer = []) :
      StreamStepped state .listenReceive { state with listener := .done }
  | listenStop (selecting : state.listener = .selecting) (cancelled : state.cancelled = true) :
      StreamStepped state .listenStop { state with listener := .done }
  | evict (principalID : String) (evicting : state.listener = .evicting principalID) :
      StreamStepped state .evict
        { state with
          listener := .selecting
          effects := state.effects ++ [.l1Delete (keyFormatter principalID)] }
  | close : StreamStepped state .close { state with calls := state.calls ++ [.entered] }
  | enter (call : Nat) (entered : state.calls[call]? = some .entered)
      (unused : state.closeOnce = .unused) :
      StreamStepped state (.enterOnce call)
        { state with closeOnce := .running call .cancelling }
  | skip (call : Nat) (entered : state.calls[call]? = some .entered)
      (done : state.closeOnce = .done) :
      StreamStepped state (.enterOnce call)
        { state with calls := state.calls.set call (.returned none) }
  | cancelListen (call : Nat) (running : state.closeOnce = .running call .cancelling) :
      StreamStepped state .cancelListen
        { state with cancelled := true, closeOnce := .running call .waiting }
  | wait (call : Nat) (running : state.closeOnce = .running call .waiting)
      (done : state.listener = .done) :
      StreamStepped state .wait { state with closeOnce := .running call .closingL1 }
  | closeL1 (call : Nat) (err1 : Option CacheError)
      (running : state.closeOnce = .running call .closingL1) :
      StreamStepped state (.closeL1 err1)
        { state with
          closeOnce := .running call (.closingL2 err1)
          effects := state.effects ++ [.l1Close err1] }
  | closeL2 (call : Nat) (err1 err2 : Option CacheError)
      (running : state.closeOnce = .running call (.closingL2 err1)) :
      StreamStepped state (.closeL2 err2)
        { state with
          closeOnce := .done
          calls := state.calls.set call (.returned (err1 <|> err2))
          effects := state.effects ++ [.l2Close err2] }

/-- The forwarder's channel is open until the forwarder has closed it. -/
structure StreamSafe (state : StreamState) : Prop where
  calm : state.panicked = none
  capacity : state.out.capacity = streamCapacity
  closed : state.out.closed = true ↔
    state.forwarder = .closingPubSub ∨ state.forwarder = .done

/-- A state whose forwarder has not closed its channel. -/
theorem StreamSafe.isOpen {state : StreamState} (safe : StreamSafe state)
    (closing : state.forwarder ≠ .closingPubSub) (done : state.forwarder ≠ .done) :
    state.out.closed = false :=
  Bool.eq_false_iff.mpr fun closed => (safe.closed.mp closed).elim closing done

theorem stepped_forwardReceive (state next : StreamState)
    (stepped : state.forwardReceive = some next) :
    StreamStepped keyFormatter state .forwardReceive next := by
  unfold StreamState.forwardReceive at stepped
  split at stepped
  · rename_i receiving
    split at stepped
    · rename_i payload rest first
      exact Option.some_inj.mp stepped ▸ .take payload rest receiving first
    · rename_i empty
      split at stepped
      · rename_i isOver
        exact Option.some_inj.mp stepped ▸ .drain receiving empty isOver
      · cases stepped
  · cases stepped

theorem stepped_forwardSend (state next : StreamState) (safe : StreamSafe state)
    (stepped : state.forwardSend = some next) :
    StreamStepped keyFormatter state .forwardSend next := by
  unfold StreamState.forwardSend at stepped
  split at stepped
  · rename_i payload sending
    have isOpen := safe.isOpen (by simp [sending]) (by simp [sending])
    obtain ⟨out, sent, outOpen, capacity, buffer⟩ :=
      Channel.trySend_of_open state.out payload isOpen
    rw [isOpen, Bool.false_or, sent] at stepped
    split at stepped
    · rename_i room
      rw [if_pos room] at buffer
      exact Option.some_inj.mp stepped ▸
        .send payload out sending (outOpen.trans isOpen.symm) capacity buffer
    · cases stepped
  · cases stepped

theorem stepped_forwardStop (state next : StreamState)
    (stepped : state.forwardStop = some next) :
    StreamStepped keyFormatter state .forwardStop next := by
  unfold StreamState.forwardStop at stepped
  split at stepped
  · rename_i receiving
    obtain ⟨cancelled, stopped⟩ := Option.ite_none_right_eq_some.mp stepped
    exact Option.some_inj.mp stopped ▸ .stop (Or.inl receiving) cancelled
  · rename_i payload sending
    obtain ⟨cancelled, stopped⟩ := Option.ite_none_right_eq_some.mp stepped
    exact Option.some_inj.mp stopped ▸ .stop (Or.inr ⟨payload, sending⟩) cancelled
  · cases stepped

theorem stepped_closeOut (state next : StreamState) (safe : StreamSafe state)
    (stepped : state.closeOut = some next) : StreamStepped keyFormatter state .closeOut next := by
  unfold StreamState.closeOut at stepped
  split at stepped
  · rename_i closing
    rw [Channel.close_of_open state.out (safe.isOpen (by simp [closing]) (by simp [closing]))]
      at stepped
    exact Option.some_inj.mp stepped ▸ .closeOut closing
  · cases stepped

theorem stepped_listenReceive (state next : StreamState)
    (stepped : state.listenReceive = some next) :
    StreamStepped keyFormatter state .listenReceive next := by
  unfold StreamState.listenReceive at stepped
  split at stepped
  · rename_i selecting
    split at stepped
    · cases stepped
    · rename_i out received
      obtain ⟨rfl, closed, empty⟩ := Channel.receive_none state.out out received
      exact Option.some_inj.mp stepped ▸ .listened selecting closed empty
    · rename_i principalID out received
      obtain ⟨isOpen, capacity, buffer⟩ := Channel.receive_cases state.out out _ received
      exact Option.some_inj.mp stepped ▸ .receive principalID out selecting isOpen capacity buffer
  · cases stepped

theorem stepped_evict (state next : StreamState) (stepped : state.evict keyFormatter = some next) :
    StreamStepped keyFormatter state .evict next := by
  unfold StreamState.evict at stepped
  split at stepped
  · rename_i principalID evicting
    exact Option.some_inj.mp stepped ▸ .evict principalID evicting
  · cases stepped

theorem stepped_enterOnce (state next : StreamState) (call : Nat)
    (stepped : state.enterOnce call = some next) :
    StreamStepped keyFormatter state (.enterOnce call) next := by
  unfold StreamState.enterOnce at stepped
  split at stepped
  · rename_i entered unused
    exact Option.some_inj.mp stepped ▸ .enter call entered unused
  · rename_i entered done
    exact Option.some_inj.mp stepped ▸ .skip call entered done
  · cases stepped

theorem stepped_runOnce (state next : StreamState) (event : StreamEvent)
    (stepped : state.runOnce event = some next) : StreamStepped keyFormatter state event next := by
  unfold StreamState.runOnce at stepped
  split at stepped
  · rename_i call running
    exact Option.some_inj.mp stepped ▸ .cancelListen call running
  · rename_i call running
    obtain ⟨done, waited⟩ := Option.ite_none_right_eq_some.mp stepped
    exact Option.some_inj.mp waited ▸ .wait call running done
  · rename_i call err1 running
    exact Option.some_inj.mp stepped ▸ .closeL1 call err1 running
  · rename_i call err1 err2 running
    exact Option.some_inj.mp stepped ▸ .closeL2 call err1 err2 running
  · cases stepped

theorem streamStepped_of_step (state next : StreamState) (event : StreamEvent)
    (safe : StreamSafe state) (stepped : state.step keyFormatter event = some next) :
    StreamStepped keyFormatter state event next := by
  unfold StreamState.step at stepped
  rw [if_neg (by simp [safe.calm])] at stepped
  cases event with
  | deliver principalID =>
    obtain ⟨running, delivered⟩ := Option.ite_none_left_eq_some.mp stepped
    exact Option.some_inj.mp delivered ▸ .deliver principalID (Bool.eq_false_iff.mpr running)
  | finish => exact Option.some_inj.mp stepped ▸ .finish
  | forwardReceive => exact stepped_forwardReceive keyFormatter state next stepped
  | forwardSend => exact stepped_forwardSend keyFormatter state next safe stepped
  | forwardStop => exact stepped_forwardStop keyFormatter state next stepped
  | closeOut => exact stepped_closeOut keyFormatter state next safe stepped
  | closePubSub =>
    obtain ⟨closing, closed⟩ := Option.ite_none_right_eq_some.mp stepped
    exact Option.some_inj.mp closed ▸ .closePubSub closing
  | listenReceive => exact stepped_listenReceive keyFormatter state next stepped
  | listenStop =>
    obtain ⟨⟨selecting, cancelled⟩, stopped⟩ := Option.ite_none_right_eq_some.mp stepped
    exact Option.some_inj.mp stopped ▸ .listenStop selecting cancelled
  | evict => exact stepped_evict keyFormatter state next stepped
  | close => exact Option.some_inj.mp stepped ▸ .close
  | enterOnce call => exact stepped_enterOnce keyFormatter state next call stepped
  | cancelListen => exact stepped_runOnce keyFormatter state next _ stepped
  | wait => exact stepped_runOnce keyFormatter state next _ stepped
  | closeL1 err1 => exact stepped_runOnce keyFormatter state next _ stepped
  | closeL2 err2 => exact stepped_runOnce keyFormatter state next _ stepped

theorem streamSafe_initial : StreamSafe .initial := ⟨rfl, rfl, by decide⟩

theorem step_streamSafe (state next : StreamState) (event : StreamEvent)
    (stepped : StreamStepped keyFormatter state event next) (safe : StreamSafe state) :
    StreamSafe next := by
  obtain ⟨calm, capacity, closed⟩ := safe
  cases stepped with
  | take payload rest receiving => exact ⟨calm, capacity, by simp [closed, receiving]⟩
  | drain receiving => exact ⟨calm, capacity, by simp [closed, receiving]⟩
  | send payload out sending isOpen sameCapacity =>
    exact ⟨calm, sameCapacity.trans capacity, by simp [isOpen, closed, sending]⟩
  | stop running =>
    refine ⟨calm, capacity, ?_⟩
    rcases running with receiving | ⟨payload, sending⟩
    · simp [closed, receiving]
    · simp [closed, sending]
  | closeOut closing => exact ⟨calm, capacity, by simp⟩
  | closePubSub closing => exact ⟨calm, capacity, by simp [closed, closing]⟩
  | receive principalID out selecting isOpen sameCapacity =>
    exact ⟨calm, sameCapacity.trans capacity, by rw [isOpen]; exact closed⟩
  | _ => exact ⟨calm, capacity, closed⟩

/-! ### The order of the messages -/

/-- What the forwarder has taken and not sent. -/
def ForwarderPhase.pending : ForwarderPhase → List String
  | .sending payload => [payload]
  | _ => []

/-- The forwarder has left its loop. -/
def ForwarderPhase.stopped : ForwarderPhase → Bool
  | .receiving => false
  | .sending _ => false
  | _ => true

/-- What the listener has received and not handled. -/
def ListenerPhase.pending : ListenerPhase → List String
  | .evicting principalID => [principalID]
  | _ => []

/-- The messages on their way, the first ones first. -/
def StreamState.queue (state : StreamState) : List String :=
  state.listener.pending ++ state.out.buffer ++ state.forwarder.pending

/-- The deletions of the listener. -/
def TierEffect.deleted : TierEffect → Option String
  | .l1Delete key => some key
  | _ => none

/-- The listener has handled the first of the messages and the rest are on their way. Only a
forwarder that is cancelled loses one. -/
def Ordered (past : List StreamEvent) (state : StreamState) : Prop :=
  ∃ handled lost, state.effects.filterMap TierEffect.deleted = handled.map keyFormatter ∧
    past.filterMap StreamEvent.delivered = handled ++ state.queue ++ lost ++ state.messages ∧
    (lost ≠ [] → state.forwarder.stopped = true ∧ state.cancelled = true)

/-- Without a cancellation the goroutines end only when there is nothing left for them. -/
structure Drained (state : StreamState) : Prop where
  forwarder : state.cancelled = false → state.forwarder.stopped = true →
    state.ended = true ∧ state.messages = []
  listener : state.cancelled = false → state.listener = .done →
    state.out.closed = true ∧ state.out.buffer = []

theorem step_ordered (past : List StreamEvent) (state next : StreamState) (event : StreamEvent)
    (stepped : StreamStepped keyFormatter state event next)
    (ordered : Ordered keyFormatter past state) :
    Ordered keyFormatter (past ++ [event]) next := by
  obtain ⟨handled, lost, deleted, delivered, losing⟩ := ordered
  rw [StreamState.queue] at delivered
  unfold Ordered StreamState.queue
  rw [Runs.filterMap_concat, delivered]
  cases stepped with
  | deliver principalID =>
    exact ⟨handled, lost, deleted, by simp [StreamEvent.delivered], losing⟩
  | take payload rest receiving first =>
    -- Nothing has been lost while the forwarder is in its loop.
    have none : lost = [] := by
      by_contra some
      simpa [receiving, ForwarderPhase.stopped] using losing some
    refine ⟨handled, [], deleted, ?_, fun some => absurd rfl some⟩
    simp [none, receiving, first, ForwarderPhase.pending, StreamEvent.delivered]
  | drain receiving empty isOver =>
    exact ⟨handled, lost, deleted, by simp [receiving, ForwarderPhase.pending,
      StreamEvent.delivered], fun some => ⟨rfl, (losing some).2⟩⟩
  | send payload out sending isOpen capacity buffer =>
    have none : lost = [] := by
      by_contra some
      simpa [sending, ForwarderPhase.stopped] using losing some
    refine ⟨handled, [], deleted, ?_, fun some => absurd rfl some⟩
    simp [none, sending, buffer, ForwarderPhase.pending, StreamEvent.delivered]
  | stop running cancelled =>
    -- What the forwarder was about to send is lost.
    refine ⟨handled, state.forwarder.pending ++ lost, deleted, ?_, fun _ => ⟨rfl, cancelled⟩⟩
    simp [ForwarderPhase.pending, StreamEvent.delivered]
  | closeOut closing =>
    exact ⟨handled, lost, deleted, by simp [closing, ForwarderPhase.pending,
      StreamEvent.delivered], fun some => ⟨rfl, (losing some).2⟩⟩
  | closePubSub closing =>
    exact ⟨handled, lost, deleted, by simp [closing, ForwarderPhase.pending,
      StreamEvent.delivered], fun some => ⟨rfl, (losing some).2⟩⟩
  | receive principalID out selecting isOpen capacity buffer =>
    exact ⟨handled, lost, deleted, by simp [selecting, buffer, ListenerPhase.pending,
      StreamEvent.delivered], losing⟩
  | listened selecting closed empty =>
    exact ⟨handled, lost, deleted, by simp [selecting, ListenerPhase.pending,
      StreamEvent.delivered], losing⟩
  | listenStop selecting cancelled =>
    exact ⟨handled, lost, deleted, by simp [selecting, ListenerPhase.pending,
      StreamEvent.delivered], losing⟩
  | evict principalID evicting =>
    refine ⟨handled ++ [principalID], lost, ?_, ?_, losing⟩
    · simp [deleted, TierEffect.deleted]
    · simp [evicting, ListenerPhase.pending, StreamEvent.delivered]
  | cancelListen call running =>
    exact ⟨handled, lost, deleted, by simp [StreamEvent.delivered],
      fun some => ⟨(losing some).1, rfl⟩⟩
  | closeL1 call err1 running =>
    exact ⟨handled, lost, (Runs.filterMap_concat_none _ _ _ rfl).trans deleted,
      by simp [StreamEvent.delivered], losing⟩
  | closeL2 call err1 err2 running =>
    exact ⟨handled, lost, (Runs.filterMap_concat_none _ _ _ rfl).trans deleted,
      by simp [StreamEvent.delivered], losing⟩
  | _ => exact ⟨handled, lost, deleted, by simp [StreamEvent.delivered], losing⟩

theorem step_drained (state next : StreamState) (event : StreamEvent)
    (stepped : StreamStepped keyFormatter state event next) (safe : StreamSafe state)
    (drained : Drained state) : Drained next := by
  obtain ⟨forwarder, listener⟩ := drained
  cases stepped with
  | deliver principalID running =>
    refine ⟨fun uncancelled stopped => ?_, listener⟩
    have isOver := (forwarder uncancelled stopped).1
    rw [running] at isOver
    cases isOver
  | finish => exact ⟨fun uncancelled stopped => ⟨rfl, (forwarder uncancelled stopped).2⟩, listener⟩
  | take payload rest receiving first => exact ⟨fun _ stopped => (nomatch stopped), listener⟩
  | drain receiving empty isOver => exact ⟨fun _ _ => ⟨isOver, empty⟩, listener⟩
  | send payload out sending isOpen capacity buffer =>
    refine ⟨fun _ stopped => (nomatch stopped), fun uncancelled done => ?_⟩
    have closed := (listener uncancelled done).1
    rw [safe.isOpen (by simp [sending]) (by simp [sending])] at closed
    cases closed
  | stop running cancelled =>
    have impossible (uncancelled : state.cancelled = false) : False := by
      rw [cancelled] at uncancelled
      cases uncancelled
    exact ⟨fun uncancelled => (impossible uncancelled).elim, listener⟩
  | closeOut closing =>
    exact ⟨fun uncancelled _ => forwarder uncancelled (by rw [closing]; rfl),
      fun uncancelled done => ⟨rfl, (listener uncancelled done).2⟩⟩
  | closePubSub closing =>
    exact ⟨fun uncancelled _ => ⟨rfl, (forwarder uncancelled (by rw [closing]; rfl)).2⟩, listener⟩
  | receive principalID out selecting isOpen capacity buffer =>
    exact ⟨forwarder, fun _ done => nomatch done⟩
  | listened selecting closed empty => exact ⟨forwarder, fun _ _ => ⟨closed, empty⟩⟩
  | listenStop selecting cancelled =>
    refine ⟨forwarder, fun uncancelled => ?_⟩
    rw [cancelled] at uncancelled
    cases uncancelled
  | evict principalID evicting => exact ⟨forwarder, fun _ done => nomatch done⟩
  | cancelListen call running =>
    exact ⟨fun uncancelled => (nomatch uncancelled), fun uncancelled => (nomatch uncancelled)⟩
  | _ => exact ⟨forwarder, listener⟩

/-! ### Closing once -/

/-- What the function that runs once has done to the tiers. -/
def CloseStage.closings : CloseStage → List TierEffect
  | .closingL2 err1 => [.l1Close err1]
  | _ => []

/-- Where the function that runs once has come to. -/
structure StageReached (state : StreamState) (stage : CloseStage) : Prop where
  cancelled : stage ≠ .cancelling → state.cancelled = true
  waited : stage ≠ .cancelling → stage ≠ .waiting → state.listener = .done
  effects : ∃ keys : List String, state.effects = keys.map .l1Delete ++ stage.closings

/-- The calls of `Close` wait while one of them runs the function. -/
inductive Closing (state : StreamState) : Prop
  | unused (once : state.closeOnce = .unused) (uncancelled : state.cancelled = false)
      (entered : ∀ call ∈ state.calls, call = .entered)
      (effects : ∃ keys : List String, state.effects = keys.map .l1Delete)
  | running (call : Nat) (stage : CloseStage) (once : state.closeOnce = .running call stage)
      (runner : state.calls[call]? = some .entered)
      (entered : ∀ other ∈ state.calls, other = .entered) (reached : StageReached state stage)
  | done (call : Nat) (err1 err2 : Option CacheError) (once : state.closeOnce = .done)
      (cancelled : state.cancelled = true) (waited : state.listener = .done)
      (runner : state.calls[call]? = some (.returned (err1 <|> err2)))
      (others : ∀ other result, other ≠ call → state.calls[other]? = some result →
        result = .entered ∨ result = .returned none)
      (effects : ∃ keys : List String,
        state.effects = keys.map .l1Delete ++ [.l1Close err1, .l2Close err2])

theorem closing_initial : Closing .initial :=
  .unused rfl rfl (fun _ member => nomatch member) ⟨[], rfl⟩

/-- A step of the goroutines that does nothing to the tiers. -/
theorem closing_of_same (state next : StreamState) (once : next.closeOnce = state.closeOnce)
    (cancelled : next.cancelled = state.cancelled) (calls : next.calls = state.calls)
    (effects : next.effects = state.effects)
    (listener : state.listener = .done → next.listener = .done) (closing : Closing state) :
    Closing next := by
  cases closing with
  | unused isOnce uncancelled entered deletes =>
    exact .unused (once.trans isOnce) (cancelled.trans uncancelled) (by rwa [calls])
      (by rwa [effects])
  | running call stage isOnce runner entered reached =>
    exact .running call stage (once.trans isOnce) (by rwa [calls]) (by rwa [calls])
      ⟨fun late => cancelled.trans (reached.cancelled late),
        fun late later => listener (reached.waited late later), by
          rw [effects]
          exact reached.effects⟩
  | done call err1 err2 isOnce isCancelled waited runner others closed =>
    exact .done call err1 err2 (once.trans isOnce) (cancelled.trans isCancelled)
      (listener waited) (by rwa [calls]) (by rwa [calls]) (by rwa [effects])

/-- The listener handles a message only before the tiers are closed. -/
theorem closing_evict (state : StreamState) (principalID : String)
    (evicting : state.listener = .evicting principalID) (closing : Closing state) :
    Closing { state with
      listener := .selecting
      effects := state.effects ++ [.l1Delete (keyFormatter principalID)] } := by
  have awake : state.listener ≠ .done := by simp [evicting]
  have more (keys : List String) (deletes : state.effects = keys.map .l1Delete) :
      ∃ keys : List String,
        state.effects ++ [.l1Delete (keyFormatter principalID)] = keys.map .l1Delete :=
    ⟨keys ++ [keyFormatter principalID], by rw [deletes, List.map_append, List.map_singleton]⟩
  cases closing with
  | unused once uncancelled entered effects =>
    obtain ⟨keys, deletes⟩ := effects
    exact .unused once uncancelled entered (more keys deletes)
  | running call stage once runner entered reached =>
    obtain ⟨keys, deletes⟩ := reached.effects
    cases stage with
    | cancelling =>
      simp only [CloseStage.closings, List.append_nil] at deletes
      refine .running call .cancelling once runner entered ⟨reached.cancelled,
        fun late => absurd rfl late, ?_⟩
      simpa only [CloseStage.closings, List.append_nil] using more keys deletes
    | waiting =>
      simp only [CloseStage.closings, List.append_nil] at deletes
      refine .running call .waiting once runner entered ⟨reached.cancelled,
        fun _ late => absurd rfl late, ?_⟩
      simpa only [CloseStage.closings, List.append_nil] using more keys deletes
    | closingL1 => exact absurd (reached.waited (by simp) (by simp)) awake
    | closingL2 err1 => exact absurd (reached.waited (by simp) (by simp)) awake
  | done call err1 err2 once cancelled waited => exact absurd waited awake

/-- A new call waits with the others. -/
theorem closing_close (state : StreamState) (closing : Closing state) :
    Closing { state with calls := state.calls ++ [.entered] } := by
  have all (entered : ∀ call ∈ state.calls, call = .entered) :
      ∀ call ∈ state.calls ++ [.entered], call = .entered := by
    intro call member
    rcases List.mem_append.mp member with earlier | last
    · exact entered call earlier
    · exact List.mem_singleton.mp last
  cases closing with
  | unused once uncancelled entered effects =>
    exact .unused once uncancelled (all entered) effects
  | running call stage once runner entered reached =>
    exact .running call stage once
      ((List.getElem?_append_left (List.getElem?_eq_some_iff.mp runner).1).trans runner)
      (all entered) ⟨reached.cancelled, reached.waited, reached.effects⟩
  | done call err1 err2 once cancelled waited runner others effects =>
    refine .done call err1 err2 once cancelled waited
      ((List.getElem?_append_left (List.getElem?_eq_some_iff.mp runner).1).trans runner) ?_ effects
    intro other result different found
    by_cases earlier : other < state.calls.length
    · exact others other result different ((List.getElem?_append_left earlier).symm.trans found)
    · rw [List.getElem?_append_right (Nat.le_of_not_lt earlier)] at found
      exact Or.inl (List.mem_singleton.mp (List.mem_of_getElem? found))

theorem step_closing (state next : StreamState) (event : StreamEvent)
    (stepped : StreamStepped keyFormatter state event next) (closing : Closing state) :
    Closing next := by
  cases stepped with
  | receive principalID out selecting =>
    exact closing_of_same state _ rfl rfl rfl rfl (by simp [selecting]) closing
  | listened => exact closing_of_same state _ rfl rfl rfl rfl (fun _ => rfl) closing
  | listenStop => exact closing_of_same state _ rfl rfl rfl rfl (fun _ => rfl) closing
  | evict principalID evicting =>
    exact closing_evict keyFormatter state principalID evicting closing
  | close => exact closing_close state closing
  | enter call runner unused =>
    cases closing with
    | unused once uncancelled entered effects =>
      refine .running call .cancelling rfl runner entered ⟨fun late => absurd rfl late,
        fun late => absurd rfl late, ?_⟩
      simpa only [CloseStage.closings, List.append_nil] using effects
    | running other stage once => simp [once] at unused
    | done other err1 err2 once => simp [once] at unused
  | skip call entered done =>
    cases closing with
    | unused once => simp [once] at done
    | running other stage once => simp [once] at done
    | done runner err1 err2 once cancelled waited result others effects =>
      have different : call ≠ runner := by
        rintro rfl
        simp [entered] at result
      refine .done runner err1 err2 once cancelled waited ?_ ?_ effects
      · rw [List.getElem?_set_ne different]
        exact result
      · intro other otherResult isOther found
        by_cases same : call = other
        · subst same
          rw [List.getElem?_set_self (List.getElem?_eq_some_iff.mp entered).1] at found
          exact Or.inr (Option.some_inj.mp found).symm
        · rw [List.getElem?_set_ne same] at found
          exact others other otherResult isOther found
  | cancelListen call running =>
    cases closing with
    | unused once => simp [once] at running
    | running other stage once runner entered reached =>
      obtain ⟨rfl, rfl⟩ := CloseOnce.running.inj (once.symm.trans running)
      exact .running other .waiting rfl runner entered ⟨fun _ => rfl,
        fun _ late => absurd rfl late, reached.effects⟩
    | done other err1 err2 once => simp [once] at running
  | wait call running done =>
    cases closing with
    | unused once => simp [once] at running
    | running other stage once runner entered reached =>
      obtain ⟨rfl, rfl⟩ := CloseOnce.running.inj (once.symm.trans running)
      exact .running other .closingL1 rfl runner entered
        ⟨fun _ => reached.cancelled (by simp), fun _ _ => done, reached.effects⟩
    | done other err1 err2 once => simp [once] at running
  | closeL1 call err1 running =>
    cases closing with
    | unused once => simp [once] at running
    | running other stage once runner entered reached =>
      obtain ⟨rfl, rfl⟩ := CloseOnce.running.inj (once.symm.trans running)
      obtain ⟨keys, deletes⟩ := reached.effects
      exact .running other (.closingL2 err1) rfl runner entered
        ⟨fun _ => reached.cancelled (by simp), fun _ _ => reached.waited (by simp) (by simp),
          keys, by simp [deletes, CloseStage.closings]⟩
    | done other err1 err2 once => simp [once] at running
  | closeL2 call err1 err2 running =>
    cases closing with
    | unused once => simp [once] at running
    | running other stage once runner entered reached =>
      obtain ⟨rfl, rfl⟩ := CloseOnce.running.inj (once.symm.trans running)
      obtain ⟨keys, deletes⟩ := reached.effects
      refine .done other err1 err2 rfl (reached.cancelled (by simp))
        (reached.waited (by simp) (by simp)) ?_ ?_ ⟨keys, by simp [deletes, CloseStage.closings]⟩
      · exact List.getElem?_set_self (List.getElem?_eq_some_iff.mp runner).1
      · intro waiting result different found
        rw [List.getElem?_set_ne (Ne.symm different)] at found
        exact Or.inl (entered result (List.mem_of_getElem? found))
    | done other err1 err2 once => simp [once] at running
  | _ => exact closing_of_same state _ rfl rfl rfl rfl id closing

/-! ### Every run settles -/

def ForwarderPhase.rank : ForwarderPhase → Nat
  | .receiving => 3
  | .sending _ => 6
  | .closingOut => 2
  | .closingPubSub => 1
  | .done => 0

def ListenerPhase.rank : ListenerPhase → Nat
  | .selecting => 1
  | .evicting _ => 2
  | .done => 0

def CloseOnce.rank : CloseOnce → Nat
  | .unused => 5
  | .running _ .cancelling => 4
  | .running _ .waiting => 3
  | .running _ .closingL1 => 2
  | .running _ (.closingL2 _) => 1
  | .done => 0

/-- How many calls of `Close` have not returned. -/
def openCalls (calls : List CloseCall) : Nat := calls.countP (· = .entered)

/-- A bound on the steps that the goroutines and the calls can take. -/
def StreamState.rank (state : StreamState) : Nat :=
  4 * state.messages.length + state.forwarder.rank + 2 * state.out.buffer.length +
    state.listener.rank + state.closeOnce.rank + openCalls state.calls

theorem openCalls_returned (calls : List CloseCall) (call : Nat) (err : Option CacheError) :
    openCalls (calls.set call (.returned err)) ≤ openCalls calls ∧
      (calls[call]? = some .entered →
        openCalls (calls.set call (.returned err)) < openCalls calls) := by
  by_cases known : call < calls.length
  · have counted := List.countP_set (p := (· = CloseCall.entered)) (a := .returned err) known
    rw [openCalls, openCalls, counted]
    refine ⟨by simp, fun entered => ?_⟩
    have isEntered := (List.getElem?_eq_some_iff.mp entered).2
    have positive : 0 < calls.countP (· = .entered) :=
      List.countP_pos_iff.mpr ⟨.entered, List.mem_of_getElem? entered, by simp⟩
    simp only [isEntered, decide_true, if_true]
    simp only [reduceCtorEq, decide_false, Bool.false_eq_true, if_false]
    omega
  · rw [List.set_eq_of_length_le (Nat.le_of_not_lt known)]
    refine ⟨Nat.le_refl _, fun entered => ?_⟩
    exact absurd (List.getElem?_eq_some_iff.mp entered).1 known

theorem step_rank (state next : StreamState) (event : StreamEvent)
    (isInternal : event.internal = true) (stepped : StreamStepped keyFormatter state event next) :
    next.rank < state.rank := by
  unfold StreamState.rank
  cases stepped with
  | deliver => cases isInternal
  | finish => cases isInternal
  | close => cases isInternal
  | take payload rest receiving first =>
    simp only [receiving, first, ForwarderPhase.rank, List.length_cons]
    omega
  | drain receiving =>
    simp only [receiving, ForwarderPhase.rank]
    omega
  | send payload out sending isOpen capacity buffer =>
    simp only [sending, buffer, ForwarderPhase.rank, List.length_append, List.length_singleton]
    omega
  | stop running =>
    rcases running with receiving | ⟨payload, sending⟩
    · simp only [receiving, ForwarderPhase.rank]
      omega
    · simp only [sending, ForwarderPhase.rank]
      omega
  | closeOut closing =>
    simp only [closing, ForwarderPhase.rank]
    omega
  | closePubSub closing =>
    simp only [closing, ForwarderPhase.rank]
    omega
  | receive principalID out selecting isOpen capacity buffer =>
    simp only [selecting, buffer, ListenerPhase.rank, List.length_cons]
    omega
  | listened selecting =>
    simp only [selecting, ListenerPhase.rank]
    omega
  | listenStop selecting =>
    simp only [selecting, ListenerPhase.rank]
    omega
  | evict principalID evicting =>
    simp only [evicting, ListenerPhase.rank]
    omega
  | enter call entered unused =>
    simp only [unused, CloseOnce.rank]
    omega
  | skip call entered =>
    have fewer := (openCalls_returned state.calls call none).2 entered
    simp only
    omega
  | cancelListen call running =>
    simp only [running, CloseOnce.rank]
    omega
  | wait call running =>
    simp only [running, CloseOnce.rank]
    omega
  | closeL1 call err1 running =>
    simp only [running, CloseOnce.rank]
    omega
  | closeL2 call err1 err2 running =>
    have fewer := (openCalls_returned state.calls call (err1 <|> err2)).1
    simp only [running, CloseOnce.rank]
    omega

/-- No goroutine and no call can take a step. -/
def Quiet (state : StreamState) : Prop :=
  ∀ event : StreamEvent, event.internal = true → state.step keyFormatter event = none

/-- What is blocked in a quiet state. -/
structure Blocked (state : StreamState) : Prop where
  forwardReceive : state.forwardReceive = none
  forwardSend : state.forwardSend = none
  forwardStop : state.forwardStop = none
  closeOut : state.closeOut = none
  closePubSub : state.forwarder ≠ .closingPubSub
  listenReceive : state.listenReceive = none
  listenStop : ¬(state.listener = .selecting ∧ state.cancelled = true)
  evict : state.evict keyFormatter = none
  enterOnce : ∀ call, state.enterOnce call = none
  runOnce : ∀ event ∈ [.cancelListen, .wait, .closeL1 none, .closeL2 none],
    state.runOnce event = none

section Settling

variable {keyFormatter} {state : StreamState}

theorem Quiet.blocked (quiet : Quiet keyFormatter state) (safe : StreamSafe state) :
    Blocked keyFormatter state := by
  have steps (event : StreamEvent) (isInternal : event.internal = true) :=
    quiet event isInternal
  unfold StreamState.step at steps
  simp only [safe.calm, Option.isSome_none, Bool.false_eq_true, if_false] at steps
  refine ⟨steps .forwardReceive rfl, steps .forwardSend rfl, steps .forwardStop rfl,
    steps .closeOut rfl, fun closing => ?_, steps .listenReceive rfl, fun stop => ?_,
    steps .evict rfl, fun call => steps (.enterOnce call) rfl, ?_⟩
  · simpa [closing] using steps .closePubSub rfl
  · simpa [stop] using steps .listenStop rfl
  · simp only [List.mem_cons, List.not_mem_nil, or_false, forall_eq_or_imp, forall_eq]
    exact ⟨steps .cancelListen rfl, steps .wait rfl, steps (.closeL1 none) rfl,
      steps (.closeL2 none) rfl⟩

/-- The listener has ended, or waits for a message and for the cancellation. -/
theorem Blocked.listener (blocked : Blocked keyFormatter state) :
    state.listener = .done ∨ (state.listener = .selecting ∧ state.cancelled = false ∧
      state.out.buffer = [] ∧ state.out.closed = false) := by
  cases phase : state.listener with
  | done => exact Or.inl rfl
  | evicting principalID =>
    have evict := blocked.evict
    rw [StreamState.evict, phase] at evict
    cases evict
  | selecting =>
    have uncancelled : state.cancelled = false :=
      Bool.eq_false_iff.mpr fun cancelled => blocked.listenStop ⟨phase, cancelled⟩
    have receive := blocked.listenReceive
    rw [StreamState.listenReceive, phase] at receive
    simp only at receive
    split at receive
    · rename_i waits
      exact Or.inr ⟨rfl, uncancelled, (Channel.receive_eq_none_iff state.out).mp waits⟩
    · cases receive
    · cases receive

/-- A forwarder that waits for room has a listener that makes some. -/
theorem Blocked.not_sending (blocked : Blocked keyFormatter state) (safe : StreamSafe state)
    (drained : Drained state) (payload : String) : state.forwarder ≠ .sending payload := by
  intro sending
  have isOpen := safe.isOpen (by simp [sending]) (by simp [sending])
  have uncancelled : state.cancelled = false := by
    have stop := blocked.forwardStop
    simp only [StreamState.forwardStop, sending] at stop
    simpa using stop
  have empty : state.out.buffer = [] := by
    rcases blocked.listener with done | ⟨_, _, empty, _⟩
    · exact (drained.listener uncancelled done).2
    · exact empty
  have room : state.out.hasRoom = true := by
    simp [Channel.hasRoom, empty, safe.capacity, streamCapacity]
  obtain ⟨out, sent, _⟩ := Channel.trySend_of_open state.out payload isOpen
  have send := blocked.forwardSend
  simp [StreamState.forwardSend, sending, room, sent] at send

/-- The forwarder has ended, or waits for a message and for the cancellation. -/
theorem Blocked.forwarder (blocked : Blocked keyFormatter state) (safe : StreamSafe state)
    (drained : Drained state) :
    state.forwarder = .done ∨ (state.forwarder = .receiving ∧ state.cancelled = false ∧
      state.messages = []) := by
  cases phase : state.forwarder with
  | done => exact Or.inl rfl
  | receiving =>
    have stop := blocked.forwardStop
    have receive := blocked.forwardReceive
    simp only [StreamState.forwardStop, phase] at stop
    simp only [StreamState.forwardReceive, phase] at receive
    split at receive
    · cases receive
    · rename_i empty
      exact Or.inr ⟨rfl, by simpa using stop, empty⟩
  | sending payload => exact absurd phase (blocked.not_sending safe drained payload)
  | closingOut =>
    have close := blocked.closeOut
    rw [StreamState.closeOut, phase, Channel.close_of_open state.out
      (safe.isOpen (by simp [phase]) (by simp [phase]))] at close
    cases close
  | closingPubSub => exact absurd phase blocked.closePubSub

/-- The function of `Close` is not stuck halfway: once it is cancelled the listener ends. -/
theorem Blocked.closeOnce (blocked : Blocked keyFormatter state) (closing : Closing state)
    (call : Nat) (stage : CloseStage) : state.closeOnce ≠ .running call stage := by
  intro running
  have reached : StageReached state stage := by
    cases closing with
    | unused once => simp [once] at running
    | running other otherStage once _ _ reached =>
      obtain ⟨rfl, rfl⟩ := CloseOnce.running.inj (once.symm.trans running)
      exact reached
    | done other err1 err2 once => simp [once] at running
  cases stage with
  | cancelling => simpa [StreamState.runOnce, running] using blocked.runOnce .cancelListen (by simp)
  | waiting =>
    have done : state.listener = .done := by
      rcases blocked.listener with done | ⟨_, uncancelled, _⟩
      · exact done
      · simp [reached.cancelled (by simp)] at uncancelled
    simpa [StreamState.runOnce, running, done] using blocked.runOnce .wait (by simp)
  | closingL1 =>
    simpa [StreamState.runOnce, running] using blocked.runOnce (.closeL1 none) (by simp)
  | closingL2 err1 =>
    simpa [StreamState.runOnce, running] using blocked.runOnce (.closeL2 none) (by simp)

/-- When nothing moves any more, either `Close` was never called and no message is left, or every
call has returned and both goroutines have ended. -/
theorem settled_of_quiet (quiet : Quiet keyFormatter state) (safe : StreamSafe state)
    (drained : Drained state) (closing : Closing state) :
    (state.calls = [] ∧ state.queue = [] ∧ state.messages = [] ∧ state.cancelled = false) ∨
      (state.calls ≠ [] ∧ (∀ call ∈ state.calls, ∃ err, call = .returned err) ∧
        state.forwarder = .done ∧ state.listener = .done ∧ state.out.closed = true) := by
  have blocked := quiet.blocked safe
  have forwarder := blocked.forwarder safe drained
  cases closing with
  | unused once uncancelled entered effects =>
    refine Or.inl ⟨?_, ?_, ?_, uncancelled⟩
    · by_contra some
      obtain ⟨call, rest, split⟩ := List.exists_cons_of_ne_nil some
      have first := entered call (by simp [split])
      have enter := blocked.enterOnce 0
      simp [StreamState.enterOnce, split, first, once] at enter
    · have buffer : state.listener.pending = [] ∧ state.out.buffer = [] := by
        rcases blocked.listener with done | ⟨selecting, _, empty, _⟩
        · exact ⟨by rw [done]; rfl, (drained.listener uncancelled done).2⟩
        · exact ⟨by rw [selecting]; rfl, empty⟩
      have pending : state.forwarder.pending = [] := by
        rcases forwarder with done | ⟨receiving, _⟩
        · rw [done]
          rfl
        · rw [receiving]
          rfl
      rw [StreamState.queue, buffer.1, buffer.2, pending]
      rfl
    · rcases forwarder with done | ⟨_, _, empty⟩
      · exact (drained.forwarder uncancelled (by rw [done]; rfl)).2
      · exact empty
  | running call stage once runner entered reached =>
    exact absurd once
      (blocked.closeOnce (.running call stage once runner entered reached) call stage)
  | done runner err1 err2 once cancelled waited result others effects =>
    have ended : state.forwarder = .done := by
      rcases forwarder with done | ⟨_, uncancelled, _⟩
      · exact done
      · simp [cancelled] at uncancelled
    refine Or.inr ⟨fun none => by simp [none] at result, fun call member => ?_, ended, waited,
      safe.closed.mpr (Or.inr ended)⟩
    obtain ⟨index, found⟩ := List.mem_iff_getElem?.mp member
    cases call with
    | returned err => exact ⟨err, rfl⟩
    | entered =>
      have enter := blocked.enterOnce index
      simp [StreamState.enterOnce, found, once] at enter

end Settling

/-! ### Whole runs -/

/-- What holds in every state of the stream. -/
structure StreamInvariant (past : List StreamEvent) (state : StreamState) : Prop where
  safe : StreamSafe state
  ordered : Ordered keyFormatter past state
  drained : Drained state
  closing : Closing state

theorem streamInvariant_initial : StreamInvariant keyFormatter [] .initial where
  safe := streamSafe_initial
  ordered := ⟨[], [], rfl, rfl, fun lost => absurd rfl lost⟩
  drained := ⟨fun _ stopped => (nomatch stopped), fun _ done => (nomatch done)⟩
  closing := closing_initial

theorem step_streamInvariant (past : List StreamEvent) (state next : StreamState)
    (event : StreamEvent) (step : state.step keyFormatter event = some next)
    (invariant : StreamInvariant keyFormatter past state) :
    StreamInvariant keyFormatter (past ++ [event]) next := by
  obtain ⟨safe, ordered, drained, closing⟩ := invariant
  have stepped := streamStepped_of_step keyFormatter state next event safe step
  exact ⟨step_streamSafe keyFormatter state next event stepped safe,
    step_ordered keyFormatter past state next event stepped ordered,
    step_drained keyFormatter state next event stepped safe drained,
    step_closing keyFormatter state next event stepped closing⟩

theorem run_streamInvariant (events : List StreamEvent) (final : StreamState)
    (run : Runs.exec (StreamState.step keyFormatter) .initial events = some final) :
    StreamInvariant keyFormatter events final :=
  Runs.exec_records (StreamState.step keyFormatter) (StreamInvariant keyFormatter)
    (fun past state event next step =>
      step_streamInvariant keyFormatter past state next event step)
    .initial final [] events run (streamInvariant_initial keyFormatter)

theorem filterMap_deleted (keys : List String) (closings : List TierEffect)
    (silent : closings.filterMap TierEffect.deleted = []) :
    (keys.map TierEffect.l1Delete ++ closings).filterMap TierEffect.deleted = keys := by
  rw [List.filterMap_append, silent, List.append_nil, List.filterMap_map]
  exact List.filterMap_some

/-- In every interleaving nothing panics, and the listener has deleted the keys of the first
messages, once each and in their order, all before the tiers were closed. The tiers are closed
at most once, the first one first. A call of `Close` returns only after that; one of the calls
reports the error of the tiers, that of the first if both fail, and the others none. -/
theorem deletions_in_order (events : List StreamEvent) (final : StreamState)
    (run : Runs.exec (StreamState.step keyFormatter) .initial events = some final) :
    final.panicked = none ∧
      ∃ handled closings, handled <+: events.filterMap StreamEvent.delivered ∧
        final.effects = (handled.map keyFormatter).map .l1Delete ++ closings ∧
        (((closings = [] ∨ ∃ err1, closings = [.l1Close err1]) ∧
            ∀ err, .returned err ∉ final.calls) ∨
          ∃ err1 err2, ∃ call : Nat, closings = [.l1Close err1, .l2Close err2] ∧
            final.calls[call]? = some (CloseCall.returned (err1 <|> err2)) ∧
            ∀ (other : Nat) err, other ≠ call →
              final.calls[other]? = some (CloseCall.returned err) → err = none) := by
  obtain ⟨safe, ⟨handled, lost, deleted, delivered, _⟩, _, closing⟩ :=
    run_streamInvariant keyFormatter events final run
  have first : handled <+: events.filterMap StreamEvent.delivered := by
    rw [delivered, List.append_assoc, List.append_assoc]
    exact ⟨_, rfl⟩
  have shape (keys : List String) (closings : List TierEffect)
      (effects : final.effects = keys.map .l1Delete ++ closings)
      (silent : closings.filterMap TierEffect.deleted = []) :
      final.effects = (handled.map keyFormatter).map .l1Delete ++ closings := by
    rw [effects, filterMap_deleted keys closings silent] at deleted
    rw [← deleted, effects]
  have unreturned (entered : ∀ call ∈ final.calls, call = .entered) (err : Option CacheError) :
      .returned err ∉ final.calls :=
    fun member => nomatch entered _ member
  refine ⟨safe.calm, ?_⟩
  cases closing with
  | unused once uncancelled entered effects =>
    obtain ⟨keys, effects⟩ := effects
    exact ⟨handled, [], first, shape keys [] (by simpa using effects) rfl,
      Or.inl ⟨Or.inl rfl, unreturned entered⟩⟩
  | running call stage once runner entered reached =>
    obtain ⟨keys, effects⟩ := reached.effects
    cases stage with
    | closingL2 err1 =>
      exact ⟨handled, _, first, shape keys _ effects rfl,
        Or.inl ⟨Or.inr ⟨err1, rfl⟩, unreturned entered⟩⟩
    | _ =>
      exact ⟨handled, [], first, shape keys [] effects rfl,
        Or.inl ⟨Or.inl rfl, unreturned entered⟩⟩
  | done call err1 err2 once cancelled waited result others effects =>
    obtain ⟨keys, effects⟩ := effects
    refine ⟨handled, _, first, shape keys _ effects rfl,
      Or.inr ⟨err1, err2, call, rfl, result, fun other err different found => ?_⟩⟩
    rcases others other _ different found with entered | returned
    · cases entered
    · exact CloseCall.returned.inj returned

/-- From every reachable state the goroutines and the calls take finitely many steps. When they
have come to rest and `Close` was not called, every message has been handled; when it was, every
call has returned, both goroutines have ended, and the channel between them is closed. -/
theorem stream_settles (events : List StreamEvent) (final : StreamState)
    (run : Runs.exec (StreamState.step keyFormatter) .initial events = some final) :
    (∃ bound, ∀ more next, (∀ event ∈ more, StreamEvent.internal event = true) →
        Runs.exec (StreamState.step keyFormatter) final more = some next →
        more.length ≤ bound) ∧
      (Quiet keyFormatter final →
        (final.calls = [] → final.effects.filterMap TierEffect.deleted =
            (events.filterMap StreamEvent.delivered).map keyFormatter) ∧
          (final.calls ≠ [] → (∀ call ∈ final.calls, ∃ err, call = .returned err) ∧
            final.forwarder = .done ∧ final.listener = .done ∧ final.out.closed = true)) := by
  obtain ⟨safe, ⟨handled, lost, deleted, delivered, losing⟩, drained, closing⟩ :=
    run_streamInvariant keyFormatter events final run
  refine ⟨⟨final.rank, fun more next isInternal ran => ?_⟩, fun quiet => ?_⟩
  · refine Runs.exec_length_le (StreamState.step keyFormatter) StreamState.rank StreamSafe
      (fun event => event.internal = true) (fun state event next isInternal step safe => ?_)
      final next more isInternal ran safe
    have stepped := streamStepped_of_step keyFormatter state next event safe step
    exact ⟨step_rank keyFormatter state next event isInternal stepped,
      step_streamSafe keyFormatter state next event stepped safe⟩
  · rcases settled_of_quiet quiet safe drained closing with
      ⟨none, queue, messages, uncancelled⟩ | ⟨some, settled⟩
    · refine ⟨fun _ => ?_, fun some => absurd none some⟩
      have kept : lost = [] := by
        by_contra some
        simp [(losing some).2] at uncancelled
      rw [deleted, delivered, queue, messages, kept, List.append_nil, List.append_nil,
        List.append_nil]
    · exact ⟨fun none => absurd none some, fun _ => settled⟩

end Steps

/-- A message is handled, and a second one arrives while two calls of `Close` run. -/
def closedMidway : List StreamEvent :=
  [.deliver "user_1", .forwardReceive, .forwardSend, .listenReceive, .evict, .deliver "user_2",
    .forwardReceive, .close, .close, .enterOnce 1, .cancelListen, .listenStop, .forwardStop, .wait,
    .closeOut, .closeL1 (some (.backend "l1")), .closePubSub, .closeL2 (some (.backend "l2")),
    .enterOnce 0]

theorem closedMidway_in_order :
    ∃ final, Runs.exec (StreamState.step ("perm:" ++ ·)) .initial closedMidway =
        some final ∧
      final.calls = [.returned none, .returned (some (.backend "l1"))] ∧
      ∃ handled closings, handled <+: closedMidway.filterMap StreamEvent.delivered ∧
        final.effects = (handled.map ("perm:" ++ ·)).map .l1Delete ++ closings := by
  have observed : (Runs.exec (StreamState.step ("perm:" ++ ·)) .initial closedMidway).map
      (·.calls) = some [.returned none, .returned (some (.backend "l1"))] := by
    decide +kernel
  obtain ⟨final, run, calls⟩ := Option.map_eq_some_iff.mp observed
  obtain ⟨_, handled, closings, first, effects, _⟩ :=
    deletions_in_order ("perm:" ++ ·) closedMidway final run
  exact ⟨final, run, calls, handled, closings, first, effects⟩

/-- Where everything has ended nothing moves. -/
theorem quiet_of_ended (keyFormatter : String → String) (state : StreamState)
    (forwarder : state.forwarder = .done) (listener : state.listener = .done)
    (once : state.closeOnce = .done) (returned : .entered ∉ state.calls) :
    Quiet keyFormatter state := by
  have waiting (call : Nat) : state.calls[call]? ≠ some .entered :=
    fun found => returned (List.mem_of_getElem? found)
  intro event isInternal
  cases event with
  | deliver => cases isInternal
  | finish => cases isInternal
  | close => cases isInternal
  | enterOnce call =>
    have blocked : state.enterOnce call = none := by
      rw [StreamState.enterOnce, once]
      split
      · contradiction
      · exact absurd ‹_› (waiting call)
      · rfl
    simp [StreamState.step, blocked]
  | _ =>
    simp [StreamState.step, StreamState.forwardReceive, StreamState.forwardSend,
      StreamState.forwardStop, StreamState.closeOut, StreamState.listenReceive, StreamState.evict,
      StreamState.runOnce, forwarder, listener, once]

theorem closedMidway_settles :
    ∃ final, Runs.exec (StreamState.step ("perm:" ++ ·)) .initial closedMidway = some final ∧
      Quiet ("perm:" ++ ·) final ∧ ∀ call ∈ final.calls, ∃ err, call = .returned err := by
  have observed : (Runs.exec (StreamState.step ("perm:" ++ ·)) .initial closedMidway).map
      (fun final => (final.forwarder, final.listener, final.closeOnce, final.calls)) =
      some (.done, .done, .done, [.returned none, .returned (some (.backend "l1"))]) := by
    decide +kernel
  obtain ⟨final, run, ended⟩ := Option.map_eq_some_iff.mp observed
  simp only [Prod.mk.injEq] at ended
  obtain ⟨forwarder, listener, once, calls⟩ := ended
  have quiet := quiet_of_ended ("perm:" ++ ·) final forwarder listener once (by simp [calls])
  exact ⟨final, run, quiet, ((stream_settles ("perm:" ++ ·) closedMidway final run).2 quiet).2
    (by simp [calls]) |>.1⟩

end SharedGo.Authz
