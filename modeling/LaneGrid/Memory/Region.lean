import LaneGrid.Memory.Bytes
import LaneGrid.Memory.Layout

/-!
Elements of one kind laid out over bytes. Whole-region operations go row by row, so padding
between rows is never read and never written.
-/

namespace LaneGrid

structure Region where
  kind : ElementKind
  layout : Layout
  deriving DecidableEq, Repr

namespace Region

/-- Every element, in row-major order. Their number is counted first, so that a box without
elements is refused if its other axes are too large to count. -/
def toList (r : Region) (b : Bytes) : Except Fault (List (Element r.kind)) := do
  let _ ← r.layout.length
  return (← r.layout.rowOffsets).flatMap fun offset => b.loadAll r.kind offset r.layout.rowLength

def fill (r : Region) (x : Element r.kind) (b : Bytes) : Except Fault Bytes := do
  return (← r.layout.rowOffsets).foldl
    (fun b offset => b.storeAll offset (List.replicate r.layout.rowLength x)) b

def storeRows {k : ElementKind} (n : Nat) (b : Bytes) : List Nat → List (Element k) → Bytes
  | [], _ => b
  | offset :: rest, xs => storeRows n (b.storeAll offset (xs.take n)) rest (xs.drop n)

/-- Replaces all elements by a list in row-major order, which must have their number. -/
def copyIn (r : Region) (xs : List (Element r.kind)) (b : Bytes) : Outcome Bytes := do
  let n ← r.layout.length
  if xs.length ≠ n then
    throw (.error (.extentMismatch (.elements n) (.elements xs.length)))
  return storeRows r.layout.rowLength b (← r.layout.rowOffsets) xs

def payload (r : Region) : Except Fault Nat := do
  wordArithmetic.mul (← r.layout.rowBytes) (← r.layout.rowCount)

/-- The destination's bytes after all elements of `source` were copied into them. -/
def copy (r source : Region) (b sourceBytes : Bytes) : Outcome Bytes := do
  if r.layout.extent ≠ source.layout.extent then
    throw (.error (.extentMismatch (.extent r.layout.extent) (.extent source.layout.extent)))
  let _ ← r.payload
  let rowBytes ← r.layout.rowBytes
  let rows ← r.layout.rowOffsets
  let sourceRows ← source.layout.rowOffsets
  return (rows.zip sourceRows).foldl (fun b p => b.copyFrom p.1 sourceBytes p.2 rowBytes) b

def access (r : Region) (index : List Nat) (a : Access r.kind) (b : Bytes) :
    Outcome (Element r.kind × Bytes) := do
  b.access (← r.layout.offset index) a

/-- The elements as one dense list, if rows follow each other without padding. -/
def dense (r : Region) (b : Bytes) : Except Fault (Option (List (Element r.kind))) := do
  if ← r.layout.isContiguous then return some (b.loadAll r.kind 0 (← r.layout.length))
  else return none

def setDense (r : Region) (i : Nat) (x : Element r.kind) (b : Bytes) :
    Except Fault (Option Bytes) := do
  if ← r.layout.isContiguous then
    let n ← r.layout.length
    if i < n then return some (b.store (i * r.kind.size) x) else throw (.outOfBounds n i)
  else return none

end Region

end LaneGrid
