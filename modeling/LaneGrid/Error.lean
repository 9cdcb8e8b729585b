import LaneGrid.Index.Kind
import LaneGrid.Text.Quoted
import LaneGrid.Text.Tuple

namespace LaneGrid

inductive DivisionPart where
  | gridBlocks | blockThreads | threadElements
  deriving DecidableEq, Repr

def DivisionPart.name : DivisionPart → String
  | gridBlocks => "grid block"
  | blockThreads => "block thread"
  | threadElements => "thread elem"

inductive DivisionFlaw where
  | zeroAxis (part : DivisionPart) (extent : List Nat) (axis : Nat)
  | overLimit (part : DivisionPart) (extent : List Nat) (limit : Nat)
  | crowdedBlock (extent : List Nat) (limit : Nat)
  | tooLarge (division : String)
  | zeroElements (extent : List Nat)
  | described (text : String)
  deriving DecidableEq, Repr

def DivisionFlaw.text : DivisionFlaw → String
  | zeroAxis part extent axis =>
      s!"{part.name} extent {Text.tuple extent} is zero on axis {axis}"
  | overLimit part extent limit =>
      s!"{part.name} extent {Text.tuple extent} exceeds {limit} on some axis"
  | crowdedBlock extent limit =>
      s!"block of {Text.tuple extent} threads exceeds {limit} threads per block"
  | tooLarge division => s!"{division} overflows usize"
  | zeroElements extent => s!"thread elem extent {Text.tuple extent} has a zero axis"
  | described text => text

/-- An amount of memory as messages put it: by extent, by count or by bytes. -/
inductive Amount where
  | extent (extent : List Nat)
  | elements (count : Nat)
  | bytes (count : Nat)
  | bytesFor (count : Nat) (extent : List Nat)
  | described (text : String)
  deriving DecidableEq, Repr

def Amount.text : Amount → String
  | extent e => Text.tuple e
  | elements n => s!"{n} elements"
  | bytes n => s!"{n} bytes"
  | bytesFor n e => s!"{n} bytes for extent {Text.tuple e}"
  | described text => text

/-- A request whose size in bytes is not a machine word, or not one that can be provided. -/
inductive SizeRequest where
  | box (extent : List Nat) (elementSize : Nat)
  | unaligned (bytes : Nat)
  | shared (arena dynamic : Nat)
  | described (text : String)
  deriving DecidableEq, Repr

def SizeRequest.text : SizeRequest → String
  | box extent size => s!"extent {Text.tuple extent} of {size}-byte elements"
  | unaligned n => s!"{n} bytes: invalid parameters to Layout::from_size_align"
  | shared arena dynamic => s!"{arena} + {dynamic} shared bytes"
  | described text => text

/-- Why a request is refused. A refused request leaves every state as it was. -/
inductive Error where
  | axisOutOfRange (axis dimension : Nat)
  | dimensionMismatch (expected actual : Nat)
  | zeroExtent (axis : Nat)
  | indexOverflow (value : Int) (kind : IndexKind)
  | invalidDivision (flaw : DivisionFlaw)
  | unreadable (what value : String)
  | invalidValue (key reason : String)
  | outOfMemory (device : String) (requested available : Nat)
  | invalidDevice (index count : Nat)
  | zeroSized (extent : String)
  | layoutOverflow (request : SizeRequest)
  | sharedMemoryExceeded (requested limit : Nat)
  | extentMismatch (expected actual : Amount)
  | indexOutOfBounds (index extent : String)
  | kernelPanicked (block lane : Nat) (message : String)
  | deadlock (block pending lanes : Nat)
  | execution (message : String)
  | unsupported (operation : String)
  | other (message : String)
  deriving DecidableEq, Repr

def Error.message : Error → String
  | axisOutOfRange axis dim => s!"axis {axis} out of range for dimension {dim}"
  | dimensionMismatch expected actual =>
      s!"dimension mismatch: expected {expected}, got {actual}"
  | zeroExtent axis => s!"zero extent along axis {axis}"
  | indexOverflow value kind => s!"value {value} does not fit into index type {kind.name}"
  | invalidDivision flaw => s!"invalid work division: {flaw.text}"
  | unreadable what value => s!"failed to parse {what}: {Text.quote value}"
  | invalidValue key reason => s!"invalid configuration value for {key}: {reason}"
  | outOfMemory device requested available =>
      s!"out of memory on {device}: requested {requested} bytes, {available} bytes available"
  | invalidDevice index count =>
      s!"invalid device index {index} (platform has {count} devices)"
  | zeroSized extent => s!"zero-sized allocation with extent {extent}"
  | layoutOverflow request => s!"allocation layout overflow: {request.text}"
  | sharedMemoryExceeded requested limit =>
      s!"block shared memory exceeded: requested {requested} bytes, limit {limit} bytes"
  | extentMismatch expected actual =>
      s!"extent mismatch: expected {expected.text}, got {actual.text}"
  | indexOutOfBounds index extent => s!"index {index} out of bounds for extent {extent}"
  | kernelPanicked block lane message =>
      s!"kernel panicked in block {block}, lane {lane}: {message}"
  | deadlock block pending lanes =>
      s!"deadlock in block {block}: {pending} of {lanes} lanes blocked"
  | execution message => s!"execution error: {message}"
  | unsupported operation => s!"unsupported operation: {operation}"
  | other message => message

end LaneGrid
