import LaneGrid.Kernel.Lane
import LaneGrid.Block.Reduction

namespace LaneGrid.Script

inductive Quantity where
  | lane | block | gridThread | lanes | blocks | placeInWarp | warpSize
  | threadAxis (axis : Nat) | blockAxis (axis : Nat) | gridThreadAxis (axis : Nat)
  deriving DecidableEq, Repr

def Quantity.ofName? : String → Option Quantity
  | "lane" => some lane
  | "block" => some block
  | "gid" => some gridThread
  | "lanes" => some lanes
  | "blocks" => some blocks
  | "wlane" => some placeInWarp
  | "wsize" => some warpSize
  | s =>
    match s.toList with
    | 't' :: digits => (String.ofList digits).toNat?.map threadAxis
    | 'b' :: digits => (String.ofList digits).toNat?.map blockAxis
    | 'g' :: digits => (String.ofList digits).toNat?.map gridThreadAxis
    | _ => none

def Quantity.value (l : Lane) : Quantity → Except Fault Nat
  | lane => l.threadNumber
  | block => l.blockNumber
  | gridThread => l.gridThreadNumber
  | lanes => l.division.laneCount
  | blocks => l.division.blockCount
  | placeInWarp => l.placeInWarp
  | warpSize => .ok l.warpSize
  | threadAxis axis => Axes.component l.threadIndex axis
  | blockAxis axis => Axes.component l.blockIndex axis
  | gridThreadAxis axis => do Axes.component (← l.gridThreadIndex) axis

inductive Operator where
  | add | sub | mul | div | rem | and | or | xor | shiftLeft | shiftRight
  | less | atMost | equal | different
  deriving DecidableEq, Repr

def Operator.all : List Operator :=
  [add, sub, mul, div, rem, and, or, xor, shiftLeft, shiftRight, less, atMost, equal, different]

def Operator.symbol : Operator → String
  | add => "+"
  | sub => "-"
  | mul => "*"
  | div => "/"
  | rem => "%"
  | and => "&"
  | or => "|"
  | xor => "^"
  | shiftLeft => "<<"
  | shiftRight => ">>"
  | less => "<"
  | atMost => "<="
  | equal => "=="
  | different => "!="

/-- Division by zero gives zero, shifts take their count modulo the width, and comparisons give
one or zero. -/
def Operator.apply (o : Operator) (a b : Word) : Word :=
  match o with
  | add => a + b
  | sub => a - b
  | mul => a * b
  | div => a / b
  | rem => if b = 0 then 0 else a % b
  | and => a &&& b
  | or => a ||| b
  | xor => a ^^^ b
  | shiftLeft => a <<< (b.toNat % 64)
  | shiftRight => a >>> (b.toNat % 64)
  | less => if a.ult b then 1 else 0
  | atMost => if a.ule b then 1 else 0
  | equal => if a = b then 1 else 0
  | different => if a = b then 0 else 1

inductive Expression where
  | word (value : Word)
  | quantity (quantity : Quantity)
  | register (name : String)
  | apply (operator : Operator) (left right : Expression)
  deriving Repr

/-- What a lane remembers between instructions: its registers and the slices it was given. -/
structure Frame where
  registers : List (String × Word)
  slices : List SharedSlice

namespace Frame

def empty : Frame :=
  ⟨[], []⟩

/-- A register holds zero until it is set. -/
def register (f : Frame) (name : String) : Word :=
  (f.registers.lookup name).getD 0

def setRegister (f : Frame) (name : String) (value : Word) : Frame :=
  { f with registers := (name, value) :: f.registers }

def addSlice (f : Frame) (s : SharedSlice) : Frame :=
  { f with slices := f.slices ++ [s] }

def slice (f : Frame) (number : Nat) : Except Fault SharedSlice :=
  match f.slices[number]? with
  | some s => .ok s
  | none => .error (.outOfBounds f.slices.length number)

end Frame

def Expression.eval (l : Lane) (f : Frame) : Expression → Except Fault Word
  | word w => .ok w
  | quantity q => do return BitVec.ofNat 64 (← q.value l)
  | register name => .ok (f.register name)
  | apply o a b => do
    let x ← a.eval l f
    return o.apply x (← b.eval l f)

end LaneGrid.Script
