import LaneGrid.Memory.View

namespace LaneGrid

structure Buffer where
  device : DeviceId
  indexKind : IndexKind
  extent : List Int
  region : Region
  sizeBytes : Nat
  bytes : Bytes

structure Allocation where
  result : Outcome (Buffer × Device)
  events : List Event

namespace Buffer

def view (b : Buffer) (handle : Handle) : View :=
  ⟨handle, b.device, b.indexKind, b.extent, b.region⟩

def sizes (k : IndexKind) (extent : List Int) :
    Nat → List Int → Except (Error × List Event) (List Nat)
  | _, [] => .ok []
  | axis, v :: rest => do
    let n ← (k.toSize v).mapError fun e => (e, [])
    if n = 0 then
      let text := Text.tuple extent
      throw (.zeroSized text, [.zeroSizeRejected axis text])
    return n :: (← sizes k extent (axis + 1) rest)

/-- Reserves the bytes on the device's account, then asks the machine for them. A refusal by
the machine gives the reservation back. -/
def acquire (d : Device) (bytes : Nat) : Except Error Device := do
  let ledger ← d.ledger.reserve bytes
  d.machine.provide bytes
  return { d with ledger }

def ofLayout (d : Device) (k : ElementKind) (indexKind : IndexKind) (extent : List Int)
    (l : Layout) : Outcome (Buffer × Device) := do
  let bytes ← l.sizeBytes
  let d ← acquire d bytes
  return (⟨d.id, indexKind, extent, ⟨k, l⟩, bytes, .zeros⟩, d)

def allocated (b : Buffer) : Event :=
  let l := b.region.layout
  let pitch := l.rowPitch?.getD (l.rowBytes.toOption.getD 0)
  .allocated b.sizeBytes b.device.name pitch none

def allocateAligned (d : Device) (k : ElementKind) (indexKind : IndexKind) (extent : List Int)
    (alignment : Nat) : Allocation :=
  match sizes indexKind extent 0 extent with
  | .error (e, events) => ⟨.error (.error e), events⟩
  | .ok dims =>
    let result := do ofLayout d k indexKind extent (← Layout.pitched dims k.size alignment)
    ⟨result, match result with
      | .ok (b, _) => [b.allocated]
      | .error _ => []⟩

/-- Allocates dense rows, or rows padded as the device prefers. -/
def allocate (d : Device) (k : ElementKind) (indexKind : IndexKind) (extent : List Int)
    (pitched : Bool) : Allocation :=
  allocateAligned d k indexKind extent (if pitched then d.properties.pitchAlignment else 1)

def clone (b : Buffer) (d : Device) : Allocation :=
  let alignment :=
    if b.region.layout.isContiguous.toOption.getD true then 1 else d.properties.pitchAlignment
  let fresh := allocateAligned d b.region.kind b.indexKind b.extent alignment
  let result : Outcome (Buffer × Device) := do
    let (c, d) ← fresh.result
    return ({ c with bytes := ← c.region.copy b.region c.bytes b.bytes }, d)
  let copied :=
    match result with
    | .ok _ =>
      [.transferred (b.region.payload.toOption.getD 0)
        (DeviceKind.direction b.device.kind d.id.kind) none, .spanCompleted]
    | .error _ => []
  ⟨result, fresh.events ++ copied⟩

end Buffer

end LaneGrid
