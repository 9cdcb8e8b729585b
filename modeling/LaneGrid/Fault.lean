import LaneGrid.Error

namespace LaneGrid

/-- A broken precondition. Unlike an `Error`, which a caller is expected to handle, a fault
ends the computation that met it. -/
inductive Fault where
  | addOverflow | subOverflow | mulOverflow | divOverflow | remOverflow | shiftOverflow
  | divByZero | remByZero
  | outOfBounds (length index : Nat)
  /-- An axis that the named coordinate does not have; `quantity` is what was asked for. -/
  | noSuchAxis (quantity : String) (axis : Nat) (owner : String)
  | sharedOutOfBounds (index length : Nat)
  /-- A byte position at which no character starts and the text does not end. -/
  | noBoundary (position : Nat)
  | refused (error : Error)
  | raised (text : Option String)
  | tooManyEntries
  /-- Lanes of a block that wait for each other and are never released. -/
  | endlessWait (block : Nat)
  deriving DecidableEq, Repr

def Fault.message : Fault → String
  | addOverflow => "attempt to add with overflow"
  | subOverflow => "attempt to subtract with overflow"
  | mulOverflow => "attempt to multiply with overflow"
  | divOverflow => "attempt to divide with overflow"
  | remOverflow => "attempt to calculate the remainder with overflow"
  | shiftOverflow => "attempt to shift left with overflow"
  | divByZero => "attempt to divide by zero"
  | remByZero => "attempt to calculate the remainder with a divisor of zero"
  | outOfBounds length index =>
      s!"index out of bounds: the len is {length} but the index is {index}"
  | noSuchAxis quantity axis owner => s!"{quantity} axis {axis} out of range for {owner}"
  | sharedOutOfBounds index length => s!"shared index {index} out of bounds for length {length}"
  | noBoundary position => s!"byte index {position} is not a char boundary"
  | refused error => error.message
  | raised text => text.getD "non-string panic payload"
  | tooManyEntries => "capacity overflow"
  | endlessWait block => s!"lanes of block {block} wait for each other without end"

inductive Failure where
  | fault (fault : Fault)
  | error (error : Error)
  deriving DecidableEq, Repr

abbrev Outcome := Except Failure

instance : MonadLift (Except Fault) Outcome where
  monadLift := Except.mapError .fault

instance : MonadLift (Except Error) Outcome where
  monadLift := Except.mapError .error

end LaneGrid
