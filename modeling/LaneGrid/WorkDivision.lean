import LaneGrid.Axes

namespace LaneGrid

structure LaunchLimits where
  gridBlockExtent : Nat
  blockThreadExtent : Nat
  blockThreads : Nat
  threadElementExtent : Nat
  sharedBytes : Nat
  warpSize : Nat
  deriving DecidableEq, Repr

/-- Blocks per grid axis, lanes per block axis and elements per lane axis. -/
structure WorkDivision where
  gridBlocks : List Nat
  blockThreads : List Nat
  threadElements : List Nat
  deriving DecidableEq, Repr

namespace WorkDivision

/-- The three extents with their names, in the order in which they are checked. -/
def parts (d : WorkDivision) : List (DivisionPart × List Nat) :=
  [(.gridBlocks, d.gridBlocks), (.blockThreads, d.blockThreads),
    (.threadElements, d.threadElements)]

def text (d : WorkDivision) : String :=
  s!"grid {Text.tuple d.gridBlocks} x block {Text.tuple d.blockThreads} x elems {
    Text.tuple d.threadElements}"

def zeroFlaw? (d : WorkDivision) : Option DivisionFlaw :=
  d.parts.findSome? fun p => (p.2.findIdx? (· = 0)).map (.zeroAxis p.1 p.2 ·)

def make (gridBlocks blockThreads threadElements : List Nat) : Except Error WorkDivision :=
  let d : WorkDivision := ⟨gridBlocks, blockThreads, threadElements⟩
  match d.zeroFlaw? with
  | some flaw => .error (.invalidDivision flaw)
  | none => .ok d

def linear (blocks threads elements : Nat) : Except Error WorkDivision :=
  make [blocks] [threads] [elements]

def gridThreads (d : WorkDivision) : Except Fault (List Nat) :=
  Axes.combine wordArithmetic.mul d.gridBlocks d.blockThreads

def gridElements (d : WorkDivision) : Except Fault (List Nat) := do
  Axes.combine wordArithmetic.mul (← d.gridThreads) d.threadElements

def blockCount (d : WorkDivision) : Except Fault Nat :=
  Axes.product wordArithmetic d.gridBlocks

def laneCount (d : WorkDivision) : Except Fault Nat :=
  Axes.product wordArithmetic d.blockThreads

/-- What makes the division too large for the limits, if anything; checked in this order. -/
def flaw? (limits : LaunchLimits) (d : WorkDivision) : Option DivisionFlaw :=
  if d.gridBlocks.any (limits.gridBlockExtent < ·) then
    some (.overLimit .gridBlocks d.gridBlocks limits.gridBlockExtent)
  else if d.blockThreads.any (limits.blockThreadExtent < ·) then
    some (.overLimit .blockThreads d.blockThreads limits.blockThreadExtent)
  else if d.threadElements.any (limits.threadElementExtent < ·) then
    some (.overLimit .threadElements d.threadElements limits.threadElementExtent)
  else if !(d.laneCount.toOption.any (· ≤ limits.blockThreads)) then
    some (.crowdedBlock d.blockThreads limits.blockThreads)
  else if d.blockCount.toOption.isNone || d.gridElements.toOption.isNone then
    some (.tooLarge d.text)
  else none

def validate (limits : LaunchLimits) (d : WorkDivision) : Except Error Unit :=
  match d.flaw? limits with
  | some flaw => .error (.invalidDivision flaw)
  | none => .ok ()

/-- Hands out the lanes of a block, fastest axis first: each axis takes what it needs, up to
the limit per axis and what the axes before it have left over. -/
def fillBlock (perAxis : Nat) : Nat → List Nat → List Nat
  | _, [] => []
  | budget, needed :: rest =>
    let threads := min (min needed perAxis) budget
    threads :: fillBlock perAxis (budget / threads) rest

def chooseBlock (limits : LaunchLimits) (needed : List Nat) : List Nat :=
  (fillBlock (max limits.blockThreadExtent 1) (max limits.blockThreads 1) needed.reverse).reverse

/-- The division that covers an extent with as few blocks as the chosen block allows. -/
def forExtent (limits : LaunchLimits) (extent threadElements : List Nat) :
    Outcome WorkDivision := do
  if let some axis := extent.findIdx? (· = 0) then throw (.error (.zeroExtent axis))
  if threadElements.contains 0 then
    throw (.error (.invalidDivision (.zeroElements threadElements)))
  let threads ← Axes.ceilDivs wordArithmetic extent threadElements
  let block := chooseBlock limits threads
  let grid ← Axes.ceilDivs wordArithmetic threads block
  let d ← make grid block threadElements
  d.validate limits
  return d

end WorkDivision

end LaneGrid
