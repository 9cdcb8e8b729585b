import LaneGrid.Atomic
import LaneGrid.Kernel.Program
import LaneGrid.Script.Expression

/-!
The instructions of a script. Every lane performs all of them in order, unless their condition
is zero for it.
-/

namespace LaneGrid.Script

inductive Touch where
  | load
  | store (value : Expression)
  | update (op : AtomicOp) (operand : Expression)
  | swapIf (current new : Expression)
  deriving Repr

namespace Touch

/-- The access for a kind of element; operands lose the bits it cannot hold. -/
def access (l : Lane) (f : Frame) (k : ElementKind) : Touch → Except Fault (Access k)
  | load => .ok .load
  | store x => do return .store ((← x.eval l f).setWidth k.bits)
  | update op x => do return .update op ((← x.eval l f).setWidth k.bits)
  | swapIf current new => do
    let current ← current.eval l f
    return .swapIf (current.setWidth k.bits) ((← new.eval l f).setWidth k.bits)

/-- Whether the value found in the element is the result; a plain store has none. -/
def answers : Touch → Bool
  | store _ => false
  | _ => true

end Touch

inductive Action where
  | indices
  | elements
  | identity
  /-- The sizes of the two groups in which the lane meets others. -/
  | groups
  | compute (value : Expression)
  | sync
  | vote (poll : Poll) (value : Expression)
  | reduce (scope : Scope) (reduction : Reduction) (value : Expression)
  | warpVote (poll : Poll) (value : Expression)
  /-- One bit per lane of the warp: its own vote, or its presence. -/
  | ballot (value : Option Expression)
  | onesCount (value : Expression)
  | lowestOne (value : Expression)
  | allocate (kind : ElementKind) (length : Expression) (caught : Bool)
  | dynamic (kind : ElementKind)
  | reserved
  | shared (slice : Nat) (index : Expression) (touch : Touch)
  /-- An access to the buffer; outside its extent the lane faults or is refused. -/
  | buffer (index : List Expression) (touch : Touch) (faulting : Bool)
  /-- An update of every element that the lane handles and the buffer has; if not `clipped`,
  of every element that the lane handles. -/
  | updateElements (op : AtomicOp) (operand : Expression) (clipped : Bool)
  /-- Stores into every element that the lane handles and the buffer has the sum of a value and
  the element's row-major number. -/
  | numberElements (value : Expression)
  | fail (message : String)
  | raise (text : Option String)
  | stop
  deriving Repr

structure Instruction where
  condition : Option Expression
  /-- Whether the result is kept out of the journal. -/
  quiet : Bool
  target : Option String
  action : Action
  deriving Repr

end LaneGrid.Script
