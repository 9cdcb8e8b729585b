import LaneGrid.Memory.Buffer

namespace LaneGrid

structure HostSlice where
  kind : ElementKind
  length : Nat
  bytes : Bytes

inductive Holding where
  | buffer (buffer : Buffer)
  | slice (slice : HostSlice)

namespace Holding

def bytes : Holding → Bytes
  | buffer b => b.bytes
  | slice s => s.bytes

def setBytes (h : Holding) (bytes : Bytes) : Holding :=
  match h with
  | buffer b => .buffer { b with bytes }
  | slice s => .slice { s with bytes }

end Holding

namespace HostSlice

def ofList {k : ElementKind} (xs : List (Element k)) : HostSlice :=
  ⟨k, xs.length, Bytes.zeros.storeAll 0 xs⟩

def toList (s : HostSlice) : List (Element s.kind) :=
  s.bytes.loadAll s.kind 0 s.length

end HostSlice

/-- How an operation reaches the memory behind a name. -/
structure Borrow where
  handle : Handle
  shape : ViewShape
  /-- Whether the cover of host elements is checked. -/
  checked : Bool
  deriving DecidableEq, Repr

/-- Devices, named memories and everything reported so far, newest first. -/
structure Workspace where
  host : Platform
  accelerators : Platform
  holdings : List (String × Holding)
  reported : List Event

namespace Workspace

def start (settings : Settings) : Workspace :=
  let host := Platform.host settings.host
  let accelerators := Platform.accelerators settings.accelerator
  ⟨host, accelerators, [], ((host ++ accelerators).map Device.created).reverse⟩

def devices (w : Workspace) : List Device :=
  w.host ++ w.accelerators

def report (w : Workspace) (events : List Event) : Workspace :=
  { w with reported := events.reverse ++ w.reported }

def events (w : Workspace) : List Event :=
  w.reported.reverse

def platform (w : Workspace) : DeviceKind → Platform
  | .host => w.host
  | .accelerator => w.accelerators

def setDevice (w : Workspace) (d : Device) : Workspace :=
  let update (p : Platform) : Platform := p.map fun e => if e.id = d.id then d else e
  { w with host := update w.host, accelerators := update w.accelerators }

def holding? (w : Workspace) (name : String) : Option Holding :=
  w.holdings.lookup name

/-- Frees what a name held: a buffer's bytes go back to its device. -/
def free (w : Workspace) : Holding → Workspace
  | .slice _ => w
  | .buffer b =>
    let w := w.report [.released b.device.name b.sizeBytes]
    match w.devices.find? (·.id = b.device) with
    | some d => w.setDevice { d with ledger := d.ledger.release b.sizeBytes }
    | none => w

/-- Takes a name out of use without freeing its memory. -/
def take (w : Workspace) (name : String) : Workspace :=
  { w with holdings := w.holdings.filter (·.1 ≠ name) }

def drop (w : Workspace) (name : String) : Workspace :=
  match w.holding? name with
  | some h => (w.take name).free h
  | none => w

/-- Lets a name hold memory, then frees what it held before. -/
def put (w : Workspace) (name : String) (h : Holding) : Workspace :=
  let old := w.holding? name
  let w := w.take name
  let w := { w with holdings := (name, h) :: w.holdings }
  match old with
  | some h => w.free h
  | none => w

def setBytes (w : Workspace) (name : String) (bytes : Bytes) : Workspace :=
  { w with holdings := w.holdings.map fun p =>
      if p.1 = name then (p.1, p.2.setBytes bytes) else p }

def rename (w : Workspace) (name target : String) : Workspace :=
  match w.holding? name with
  | some h => (w.take name).put target h
  | none => w

/-- Keeps a new allocation under a name, if it succeeded. -/
def keep (w : Workspace) (name : String) (a : Allocation) : Outcome Unit × Workspace :=
  let w := w.report a.events
  match a.result with
  | .ok (b, d) => (.ok (), (w.setDevice d).put name (.buffer b))
  | .error e => (.error e, w)

def allocate (w : Workspace) (name : String) (family : DeviceKind) (index : Nat)
    (k : ElementKind) (indexKind : IndexKind) (extent : List Int) (pitched : Bool) :
    Outcome Unit × Workspace :=
  match (w.platform family).device index with
  | .error e => (.error (.error e), w)
  | .ok d => w.keep name (Buffer.allocate d k indexKind extent pitched)

def clone (w : Workspace) (name target : String) : Outcome Unit × Workspace :=
  match w.holding? name with
  | some (.buffer b) =>
    match w.devices.find? (·.id = b.device) with
    | some d => w.keep target (b.clone d)
    | none => (.error (.error (.other name)), w)
  | _ => (.error (.error (.other name)), w)

/-- Frees all memories, in the order of their names. -/
def finish (w : Workspace) : Workspace :=
  (w.holdings.map (·.1)).mergeSort (· ≤ ·) |>.foldl drop w

/-- The view through which an operation reaches the memory behind a name. -/
def view (w : Workspace) (name : String) (how : Borrow) : Outcome (View × Bytes) :=
  match w.holding? name with
  | some (.buffer b) => .ok (b.view how.handle, b.bytes)
  | some (.slice s) => do
    let device : DeviceId := ⟨.host, 0⟩
    let v ← if how.checked then View.ofSlice how.handle device s.kind s.length how.shape
      else View.ofMemory how.handle device s.kind how.shape
    return (v, s.bytes)
  | none => .error (.error (.other name))

def transfer (bytes : Nat) (source destination : DeviceId) : Event :=
  .transferred bytes (DeviceKind.direction source.kind destination.kind) none

def read (w : Workspace) (v : View) (bytes : Bytes) :
    Except Fault (List (Element v.region.kind)) × Workspace :=
  match v.region.toList bytes with
  | .ok xs => (.ok xs, w.report [transfer (xs.length * v.region.kind.size) v.device ⟨.host, 0⟩])
  | .error e => (.error e, w)

def write (w : Workspace) (name : String) (v : View) (bytes : Bytes)
    (xs : List (Element v.region.kind)) : Outcome Unit × Workspace :=
  match v.region.copyIn xs bytes with
  | .ok bytes =>
    (.ok (), (w.setBytes name bytes).report
      [transfer (xs.length * v.region.kind.size) ⟨.host, 0⟩ v.device])
  | .error e => (.error e, w)

def fill (w : Workspace) (name : String) (v : View) (bytes : Bytes) (x : Element v.region.kind) :
    Except Fault Unit × Workspace :=
  match v.region.fill x bytes with
  | .ok bytes => (.ok (), w.setBytes name bytes)
  | .error e => (.error e, w)

def access (w : Workspace) (name : String) (v : View) (bytes : Bytes) (index : List Nat)
    (a : Access v.region.kind) : Outcome (Element v.region.kind) × Workspace :=
  match v.region.access index a bytes with
  | .ok (x, bytes) => (.ok x, w.setBytes name bytes)
  | .error e => (.error e, w)

def copy (w : Workspace) (name : String) (v : View) (bytes : Bytes) (source : View)
    (sourceBytes : Bytes) : Outcome Unit × Workspace :=
  match v.region.copy source.region bytes sourceBytes with
  | .ok bytes =>
    (.ok (), (w.setBytes name bytes).report
      [transfer (v.region.payload.toOption.getD 0) source.device v.device, .spanCompleted])
  | .error e => (.error e, w)

end Workspace

end LaneGrid
