import LaneGrid.Arithmetic

/-!
Lists with one number per axis: extents, indices, offsets. Axis 0 varies slowest, so a box is
numbered row by row.
-/

namespace LaneGrid.Axes

variable {α : Type}

def sum (A : Arithmetic α) (v : List α) : Except Fault α :=
  v.foldlM A.add A.zero

def product (A : Arithmetic α) (v : List α) : Except Fault α :=
  v.foldlM A.mul A.one

/-- The product of all components, if every partial product stays in the type. -/
def product? (A : Arithmetic α) (v : List α) : Option α :=
  (product A v).toOption

/-- Combines two lists of one length, axis by axis; the first faulty axis decides. -/
def combine (f : α → α → Except Fault α) (v w : List α) : Except Fault (List α) :=
  (v.zip w).mapM fun p => f p.1 p.2

def ceilDiv [DecidableEq α] (A : Arithmetic α) (a b : α) : Except Fault α := do
  let quotient ← A.div a b
  let remainder ← A.rem a b
  if remainder = A.zero then pure quotient else A.add quotient A.one

def ceilDivs [DecidableEq α] (A : Arithmetic α) (v divisors : List α) : Except Fault (List α) :=
  combine (ceilDiv A) v divisors

def ceilDivs? [DecidableEq α] (A : Arithmetic α) (v divisors : List α) :
    Except Fault (Option (List α)) :=
  if divisors.contains A.zero then pure none else some <$> ceilDivs A v divisors

def isWithin [LT α] [DecidableLT α] (index extent : List α) : Bool :=
  (index.zip extent).all fun p => p.1 < p.2

/-- The row-major number of an index in a box. -/
def linearize (A : Arithmetic α) (index extent : List α) : Except Fault α :=
  (index.zip extent).foldlM (fun acc p => do A.add (← A.mul acc p.2) p.1) A.zero

/-- The digits of a number in a box, least significant axis first. -/
def digits (A : Arithmetic α) (linear : α) : List α → Except Fault (List α)
  | [] => pure []
  | e :: rest => do
    let digit ← A.rem linear e
    let linear ← A.div linear e
    return digit :: (← digits A linear rest)

/-- The index with a given row-major number. A box with a zero axis holds no index; it
answers with zeros. -/
def delinearize [DecidableEq α] (A : Arithmetic α) (linear : α) (extent : List α) :
    Except Fault (List α) :=
  if extent.contains A.zero then pure (extent.map fun _ => A.zero)
  else List.reverse <$> digits A linear extent.reverse

def component (v : List α) (axis : Nat) : Except Fault α :=
  match v[axis]? with
  | some x => .ok x
  | none => .error (.outOfBounds v.length axis)

def setComponent (v : List α) (axis : Nat) (x : α) : Except Fault (List α) :=
  if axis < v.length then .ok (v.set axis x) else .error (.outOfBounds v.length axis)

def lastComponents (v : List α) (m : Nat) : List α :=
  v.drop (v.length - m)

/-- Moves every component to another type, if each fits. -/
def cast? (target : IndexKind) (v : List Int) : Option (List Int) :=
  v.mapM fun x => if target.Holds x then some x else none

end LaneGrid.Axes
