import LaneGrid.Axes

namespace LaneGrid

structure Layout where
  extent : List Nat
  pitch : List Nat
  deriving DecidableEq, Repr

/-- The least multiple of `step` that is not below `n`, if it is a machine word. -/
def nextMultiple? (n step : Nat) : Option Nat :=
  if n % step = 0 then some n
  else (keepWord .addOverflow (n + (step - n % step))).toOption

def wordProduct? (a b : Nat) : Option Nat :=
  (wordArithmetic.mul a b).toOption

namespace Layout

/-- Byte pitches from the last axis outwards: the element size, the row pitch, then planes. -/
def pitches? (size rowPitch : Nat) : List Nat → Option (List Nat)
  | [] => some []
  | [_] => some [size]
  | [_, _] => some [rowPitch, size]
  | _ :: f :: g :: rest => do
    let inner ← pitches? size rowPitch (f :: g :: rest)
    let plane ← wordProduct? (← inner.head?) f
    return plane :: inner

/-- The pitches of a box whose whole span is a machine word. -/
def spannedPitches? (extent : List Nat) (size rowPitch : Nat) : Option (List Nat) := do
  let pitch ← pitches? size rowPitch extent
  let _ ← wordProduct? (← pitch.head?) (← extent.head?)
  return pitch

def rowPayload? (extent : List Nat) (size : Nat) : Option Nat := do
  wordProduct? (← extent.getLast?) size

/-- The refusal of a row pitch that cannot hold a row, or would split elements. -/
def rowPitchError (rowPitch rowBytes size : Nat) : Error :=
  .invalidValue "row_pitch"
    s!"{rowPitch} bytes cannot hold rows of {rowBytes} bytes of {size}-byte elements"

/-- Rows of a box with a given distance in bytes. A box of one axis has a single row, so the
row pitch says nothing about it. -/
def withRowPitch (extent : List Nat) (size rowPitch : Nat) : Outcome Layout := do
  let overflow : Failure := .error (.layoutOverflow (.box extent size))
  let some rowBytes := rowPayload? extent size | throw overflow
  if 2 ≤ extent.length then
    if rowPitch < rowBytes then throw (.error (rowPitchError rowPitch rowBytes size))
    if (← wordArithmetic.rem rowPitch size) ≠ 0 then
      throw (.error (rowPitchError rowPitch rowBytes size))
  let some pitch := spannedPitches? extent size rowPitch | throw overflow
  return ⟨extent, pitch⟩

def pitched (extent : List Nat) (size alignment : Nat) : Outcome Layout := do
  let some rowPitch := do nextMultiple? (← rowPayload? extent size) (max alignment 1)
    | throw (.error (.layoutOverflow (.box extent size)))
  withRowPitch extent size rowPitch

def contiguous (extent : List Nat) (size : Nat) : Outcome Layout :=
  pitched extent size 1

def rank (l : Layout) : Nat :=
  l.extent.length

def elementSize (l : Layout) : Nat :=
  l.pitch.getLastD 0

def rowLength (l : Layout) : Nat :=
  l.extent.getLastD 0

def length (l : Layout) : Except Fault Nat :=
  Axes.product wordArithmetic l.extent

def isEmpty (l : Layout) : Bool :=
  l.extent.contains 0

def sizeBytes (l : Layout) : Except Fault Nat :=
  wordArithmetic.mul (l.pitch.headD 0) (l.extent.headD 0)

def rowBytes (l : Layout) : Except Fault Nat :=
  wordArithmetic.mul l.rowLength l.elementSize

def rowCount (l : Layout) : Except Fault Nat :=
  if l.rowLength = 0 then pure 0 else do wordArithmetic.div (← l.length) l.rowLength

/-- Distance in bytes between neighbouring rows, if there can be neighbours. -/
def rowPitch? (l : Layout) : Option Nat :=
  if 2 ≤ l.rank then l.pitch[l.rank - 2]? else none

def isContiguous (l : Layout) : Except Fault Bool :=
  match l.rowPitch? with
  | none => pure true
  | some pitch => do return pitch == (← l.rowBytes)

/-- Byte offset of an index, which the caller has checked. -/
def byteOffset (l : Layout) (index : List Nat) : Except Fault Nat :=
  (index.zip l.pitch).foldlM
    (fun acc p => do wordArithmetic.add acc (← wordArithmetic.mul p.1 p.2)) 0

def boundsError (l : Layout) (index : List Nat) : Error :=
  .indexOutOfBounds (Text.tuple index) (Text.tuple l.extent)

def offset (l : Layout) (index : List Nat) : Outcome Nat :=
  if Axes.isWithin index l.extent then (l.byteOffset index : Except Fault Nat)
  else throw (.error (l.boundsError index))

/-- Byte offset of the first element of a row, rows counted in row-major order. -/
def rowOffset (l : Layout) (row : Nat) : Except Fault Nat := do
  let linear ← wordArithmetic.mul row l.rowLength
  l.byteOffset (← Axes.delinearize wordArithmetic linear l.extent)

def firstRowOffsets (l : Layout) (limit : Nat) : Except Fault (List Nat) := do
  (List.range (min (← l.rowCount) limit)).mapM l.rowOffset

def rowOffsets (l : Layout) : Except Fault (List Nat) := do
  (List.range (← l.rowCount)).mapM l.rowOffset

/-- Bytes that the elements reach, without the padding after the last row. -/
def span (l : Layout) : Except Fault Nat := do
  match ← l.rowCount with
  | 0 => return 0
  | rows + 1 => wordArithmetic.add (← l.rowOffset rows) (← l.rowBytes)

end Layout

end LaneGrid
