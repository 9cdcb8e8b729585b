import LaneGrid.Device.Basic
import LaneGrid.Index.Size
import LaneGrid.Memory.Region

namespace LaneGrid

inductive Handle where
  | buffer | view | constView
  deriving DecidableEq, Repr

namespace Handle

def title : Handle → String
  | buffer => "Buffer" | view => "View" | constView => "ConstView"

def noun : Handle → String
  | buffer => "buffer"
  | view | constView => "view"

end Handle

/-- A region of some device's memory, seen through a handle. The extent is kept in the index
type it was given in. -/
structure View where
  handle : Handle
  device : DeviceId
  indexKind : IndexKind
  extent : List Int
  region : Region
  deriving DecidableEq, Repr

structure ViewShape where
  indexKind : IndexKind
  extent : List Int
  rowPitch : Option Nat
  deriving DecidableEq, Repr

namespace ViewShape

def layout (s : ViewShape) (k : ElementKind) : Outcome Layout := do
  let sizes ← s.indexKind.toSizes s.extent
  match s.rowPitch with
  | some pitch => Layout.withRowPitch sizes k.size pitch
  | none => Layout.contiguous sizes k.size

/-- Refuses a layout that `count` elements of memory do not hold: dense rows must fill the
memory exactly, rows with a pitch may leave bytes over. -/
def checkCover (s : ViewShape) (k : ElementKind) (l : Layout) (count : Nat) : Outcome Unit := do
  match s.rowPitch with
  | none =>
    let n ← l.length
    if count ≠ n then throw (.error (.extentMismatch (.elements n) (.elements count)))
  | some _ =>
    let available ← wordArithmetic.mul count k.size
    let required ← l.span
    if available < required then
      throw (.error (.extentMismatch (.bytesFor required l.extent) (.bytes available)))

end ViewShape

namespace View

def ofSlice (handle : Handle) (device : DeviceId) (k : ElementKind) (count : Nat)
    (s : ViewShape) : Outcome View := do
  let l ← s.layout k
  s.checkCover k l count
  return ⟨handle, device, s.indexKind, s.extent, ⟨k, l⟩⟩

/-- A view of memory whose cover the caller vouches for. -/
def ofMemory (handle : Handle) (device : DeviceId) (k : ElementKind) (s : ViewShape) :
    Outcome View := do
  return ⟨handle, device, s.indexKind, s.extent, ⟨k, ← s.layout k⟩⟩

def paddedError (v : View) (operation : String) : Error :=
  .unsupported s!"{operation} on a pitched {v.handle.noun}"

def description (v : View) : String :=
  s!"{v.handle.title} \x7b elem: {v.region.kind.title}, device: {v.device.description}, extent: Vector({
    Text.listing v.extent}), pitch_bytes: Vector({Text.listing v.region.layout.pitch}) \x7d"

def accessorDescription (v : View) (title : String) : String :=
  s!"{title} \x7b extent: Vector({Text.listing v.region.layout.extent}), pitch_bytes: Vector({
    Text.listing v.region.layout.pitch}) \x7d"

end View

end LaneGrid
