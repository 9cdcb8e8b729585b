import LaneGrid.Block.Arena
import LaneGrid.WorkDivision

namespace LaneGrid

structure Lane where
  division : WorkDivision
  blockIndex : List Nat
  threadIndex : List Nat
  number : Nat
  warpSize : Nat
  /-- Lanes that meet at the block's barrier. -/
  blockGroup : Nat
  /-- Lanes that meet at the warp's barrier. -/
  warpGroup : Nat
  arena : Arena

namespace Lane

/-- The first lane of a block reserves shared memory for all of them. -/
def isMaster (l : Lane) : Bool :=
  l.number = 0

def gridThreadIndex (l : Lane) : Except Fault (List Nat) := do
  let first ← Axes.combine wordArithmetic.mul l.blockIndex l.division.blockThreads
  Axes.combine wordArithmetic.add first l.threadIndex

def blockNumber (l : Lane) : Except Fault Nat :=
  Axes.linearize wordArithmetic l.blockIndex l.division.gridBlocks

def threadNumber (l : Lane) : Except Fault Nat :=
  Axes.linearize wordArithmetic l.threadIndex l.division.blockThreads

def gridThreadNumber (l : Lane) : Except Fault Nat := do
  let index ← l.gridThreadIndex
  Axes.linearize wordArithmetic index (← l.division.gridThreads)

def placeInWarp (l : Lane) : Except Fault Nat := do
  wordArithmetic.rem (← l.threadNumber) l.warpSize

def elementOrigin (l : Lane) : Except Fault (List Nat) := do
  Axes.combine wordArithmetic.mul (← l.gridThreadIndex) l.division.threadElements

def elementCount (l : Lane) : Except Fault Nat :=
  Axes.product wordArithmetic l.division.threadElements

/-- Index of one of the lane's elements, counted in row-major order from `origin`. -/
def elementIndex (l : Lane) (origin : List Nat) (i : Nat) : Except Fault (List Nat) := do
  Axes.combine wordArithmetic.add origin
    (← Axes.delinearize wordArithmetic i l.division.threadElements)

def elementIndices (l : Lane) : Except Fault (List (List Nat)) := do
  let origin ← l.elementOrigin
  (List.range (← l.elementCount)).mapM (l.elementIndex origin)

end Lane

end LaneGrid
