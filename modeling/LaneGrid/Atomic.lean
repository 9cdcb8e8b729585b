import LaneGrid.Element
import LaneGrid.Fault

namespace LaneGrid

inductive AtomicOp where
  | add | sub | min | max | exchange | increment | decrement | and | or | xor
  deriving DecidableEq, Repr

namespace AtomicOp

def all : List AtomicOp :=
  [add, sub, min, max, exchange, increment, decrement, and, or, xor]

def name : AtomicOp → String
  | add => "Add" | sub => "Sub" | min => "Min" | max => "Max" | exchange => "Exch"
  | increment => "Inc" | decrement => "Dec" | and => "And" | or => "Or" | xor => "Xor"

def below {w : Nat} (signed : Bool) (a b : BitVec w) : Bool :=
  if signed then a.slt b else a.ult b

/-- The least pattern of a signed type has no predecessor. -/
def predecessor {w : Nat} (signed : Bool) (a : BitVec w) : Except Fault (BitVec w) :=
  if signed && a == BitVec.intMin w then .error .subOverflow else .ok (a - 1)

/-- The value stored in place of `old`. Sums and differences wrap. Counting up starts again
from zero once it reaches the operand, counting down starts again from the operand once it
reaches zero or lies above it. -/
def apply {w : Nat} (signed : Bool) (op : AtomicOp) (old operand : BitVec w) :
    Except Fault (BitVec w) :=
  match op with
  | add => .ok (old + operand)
  | sub => .ok (old - operand)
  | min => .ok (if below signed operand old then operand else old)
  | max => .ok (if below signed old operand then operand else old)
  | exchange => .ok operand
  | increment => .ok (if below signed old operand then old + 1 else 0)
  | decrement =>
      if old = 0 || below signed operand old then .ok operand else predecessor signed old
  | and => .ok (old &&& operand)
  | or => .ok (old ||| operand)
  | xor => .ok (old ^^^ operand)

end AtomicOp

inductive Access (k : ElementKind) where
  | load
  | store (value : Element k)
  | update (op : AtomicOp) (operand : Element k)
  | swapIf (current new : Element k)
  deriving Repr

def Access.result {k : ElementKind} (old : Element k) : Access k → Except Fault (Element k)
  | load => .ok old
  | store value => .ok value
  | update op operand => op.apply k.isSigned old operand
  | swapIf current new => .ok (if old = current then new else old)

end LaneGrid
