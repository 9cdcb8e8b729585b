import LaneGrid.Axes

namespace LaneGrid

/-- How the components of a value are spread over its axes. Fields are written fastest axis
first (`x`, `y`, `z`, `w`), rows slowest axis first. -/
inductive Arrangement where
  | scalar | rows | fields
  deriving DecidableEq, Repr

inductive Quantity where
  | extent | offset
  deriving DecidableEq, Repr

def Quantity.name : Quantity → String
  | extent => "extent"
  | offset => "offset"

structure Coordinate (α : Type) where
  arrangement : Arrangement
  components : List α
  deriving Repr

namespace Coordinate

variable {α : Type}

def dimension (c : Coordinate α) : Nat :=
  c.components.length

def toAxes (c : Coordinate α) : List α :=
  match c.arrangement with
  | .fields => c.components.reverse
  | _ => c.components

/-- A value with given components by axis, arranged as `c` is. -/
def withAxes (c : Coordinate α) (axes : List α) : Coordinate α :=
  match c.arrangement with
  | .fields => { c with components := axes.reverse }
  | _ => { c with components := axes }

theorem toAxes_withAxes (c : Coordinate α) (axes : List α) : (c.withAxes axes).toAxes = axes := by
  unfold withAxes toAxes
  cases c.arrangement <;> simp

def axis? (c : Coordinate α) (axis : Nat) : Option α :=
  c.toAxes[axis]?

/-- Replaces the component along an axis, if there is such an axis. -/
def setAxis? (c : Coordinate α) (axis : Nat) (x : α) : Option (Coordinate α) :=
  if axis < c.dimension then some (c.withAxes (c.toAxes.set axis x)) else none

def axisFault (c : Coordinate α) (q : Quantity) (axis : Nat) : Fault :=
  match c.arrangement with
  | .scalar => .noSuchAxis q.name axis "a scalar"
  | .rows => .outOfBounds c.dimension axis
  | .fields => .noSuchAxis q.name axis s!"Vec{c.dimension}"

def axisAt (c : Coordinate α) (q : Quantity) (axis : Nat) : Except Fault α :=
  match c.axis? axis with
  | some x => .ok x
  | none => .error (c.axisFault q axis)

def setAxisAt (c : Coordinate α) (q : Quantity) (axis : Nat) (x : α) : Except Fault (Coordinate α) :=
  match c.setAxis? axis x with
  | some c => .ok c
  | none => .error (c.axisFault q axis)

def get (c : Coordinate α) (axis : Nat) : Except Error α :=
  match c.axis? axis with
  | some x => .ok x
  | none => .error (.axisOutOfRange axis c.dimension)

def set (c : Coordinate α) (axis : Nat) (x : α) : Except Error (Coordinate α) :=
  match c.setAxis? axis x with
  | some c => .ok c
  | none => .error (.axisOutOfRange axis c.dimension)

def extentProduct (A : Arithmetic α) (c : Coordinate α) : Except Fault α :=
  Axes.product A c.toAxes

def extentProduct? (A : Arithmetic α) (c : Coordinate α) : Option α :=
  Axes.product? A c.toAxes

end Coordinate

end LaneGrid
