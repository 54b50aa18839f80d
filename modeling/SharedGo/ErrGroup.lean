/-
This file is about two goroutines of a group that keeps the first error which one of
them returns. A goroutine has something left to do or has returned its outcome; once
both have returned, the group has recorded an error exactly when one of the outcomes
is one, in whichever order they came.
-/

import Mathlib.Data.Option.Basic

namespace SharedGo.ErrGroup

/-- A goroutine: what it has left to do, or what it returned. -/
inductive Goroutine (Work Error Value : Type) where
  | running (work : Work)
  | finished (outcome : Except Error Value)

variable {Work Error Value OtherWork OtherValue : Type}

/-- The first error that a goroutine returns is kept. -/
def recorded (failure : Option Error) (outcome : Except Error Value) : Option Error :=
  match failure, outcome with
  | none, .error error => some error
  | failure, _ => failure

/-- A goroutine has returned an error. -/
def Goroutine.Failed (goroutine : Goroutine Work Error Value) (error : Error) : Prop :=
  goroutine = .finished (.error error)

/-- The group has recorded an error exactly when one of its goroutines has returned one, and then
such an error. -/
structure Records (failure : Option Error) (goroutine : Goroutine Work Error Value)
    (other : Goroutine OtherWork Error OtherValue) : Prop where
  clean : failure = none → ∀ error, ¬goroutine.Failed error ∧ ¬other.Failed error
  failed : ∀ error, failure = some error → goroutine.Failed error ∨ other.Failed error

theorem not_failed_running (work : Work) (error : Error) :
    ¬(Goroutine.running work : Goroutine Work Error Value).Failed error := by
  intro failed
  cases failed

/-- Nothing is recorded while both goroutines are running. -/
theorem records_start (work : Work) (otherWork : OtherWork) :
    Records none (.running work : Goroutine Work Error Value)
      (.running otherWork : Goroutine OtherWork Error OtherValue) where
  clean := fun _ error => ⟨not_failed_running work error, not_failed_running otherWork error⟩
  failed := fun _ found => nomatch found

variable (failure : Option Error) (other : Goroutine OtherWork Error OtherValue)

theorem records_symm (goroutine : Goroutine Work Error Value)
    (records : Records failure goroutine other) : Records failure other goroutine where
  clean := fun none error => (records.clean none error).symm
  failed := fun error found => (records.failed error found).symm

/-- An error that is recorded while a goroutine is running is that of the other one. -/
theorem failed_other (work : Work) (error : Error)
    (records : Records failure (.running work : Goroutine Work Error Value) other)
    (found : failure = some error) : other.Failed error := by
  rcases records.failed error found with failed | failed
  · exact absurd failed (not_failed_running work error)
  · exact failed

/-- A goroutine that goes on records nothing. -/
theorem records_running (work next : Work)
    (records : Records failure (.running work : Goroutine Work Error Value) other) :
    Records failure (.running next : Goroutine Work Error Value) other where
  clean := fun none error => ⟨not_failed_running next error, (records.clean none error).2⟩
  failed := fun error found => Or.inr (failed_other failure other work error records found)

/-- A goroutine that returns records its error, unless there is one already. -/
theorem records_finished (work : Work) (outcome : Except Error Value)
    (records : Records failure (.running work : Goroutine Work Error Value) other) :
    Records (recorded failure outcome) (.finished outcome : Goroutine Work Error Value) other := by
  cases failure with
  | some first =>
    refine ⟨fun clean => (nomatch clean), ?_⟩
    intro error found
    exact Or.inr (failed_other _ other work error records found)
  | none =>
    cases outcome with
    | error returned =>
      refine ⟨fun clean => (nomatch clean), ?_⟩
      intro error found
      obtain rfl : returned = error := Option.some_inj.mp found
      exact Or.inl rfl
    | ok value =>
      refine ⟨?_, fun error found => nomatch found⟩
      intro clean error
      exact ⟨fun failed => (nomatch failed), (records.clean clean error).2⟩

end SharedGo.ErrGroup
