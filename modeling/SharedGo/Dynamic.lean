/-
This file gives the values a Go interface holds here: what the JSON decoder
produces, the integers, times and lists of texts a caller may also pass, and a value
of any other type, of which only the name of its type is known.
-/

import SharedGo.MapRange
import Mathlib.Data.Rat.Defs

namespace SharedGo

/-- A 64-bit floating-point number: a finite one is the rational it denotes, with one zero. -/
inductive Float64 where
  | finite (value : ℚ)
  | positiveInfinity
  | negativeInfinity
  | notANumber
  deriving DecidableEq, Repr

/-- An instant, in nanoseconds from the epoch. -/
structure Time where
  nanoseconds : Int
  deriving DecidableEq, Repr

/-- The first instant of the year one. -/
def Time.zero : Time := ⟨-62135596800000000000⟩

def Time.add (time : Time) (duration : Int) : Time := ⟨time.nanoseconds + duration⟩

def Time.after (first second : Time) : Bool := second.nanoseconds < first.nanoseconds

/-- A value of type `any`. -/
inductive Dynamic where
  | nil
  | bool (value : Bool)
  | float64 (value : Float64)
  | int (value : Int64)
  | int32 (value : Int32)
  | int64 (value : Int64)
  | string (value : String)
  | time (value : Time)
  | strings (values : List String)
  | array (elements : List Dynamic)
  | object (entries : List (String × Dynamic))
  | other (typeName : String)

end SharedGo
