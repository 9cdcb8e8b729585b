import LaneGrid.Memory.Buffer

namespace LaneGrid

/-- A reservation that the arena cannot hold. An end beyond the machine word is given as the
largest word. -/
structure SharedExcess where
  requested : Nat
  limit : Nat
  deriving DecidableEq, Repr

namespace SharedExcess

def error (e : SharedExcess) : Error :=
  .sharedMemoryExceeded e.requested e.limit

def description (e : SharedExcess) : String :=
  s!"SharedMemoryExceeded \x7b requested: {e.requested}, limit: {e.limit} \x7d"

end SharedExcess

structure SharedSlice where
  kind : ElementKind
  offset : Nat
  length : Nat
  deriving DecidableEq, Repr

namespace SharedSlice

/-- The byte behind the last element. A lane that asks for more elements than were reserved can
meet the end of the machine word here. -/
def stop (s : SharedSlice) : Except Fault Nat := do
  wordArithmetic.add s.offset (← wordArithmetic.mul s.length s.kind.size)

def place (s : SharedSlice) (index : Nat) : Except Fault Nat :=
  if index < s.length then .ok (s.offset + index * s.kind.size)
  else .error (.sharedOutOfBounds index s.length)

def description (s : SharedSlice) : String :=
  s!"SharedSlice \x7b offset: {s.offset}, len: {s.length} \x7d"

end SharedSlice

structure Arena where
  capacity : Nat
  dynamicOffset : Nat
  dynamicBytes : Nat
  deriving DecidableEq, Repr

namespace Arena

/-- Where the dynamic area starts. It is aligned for every element kind; without dynamic bytes
it is the empty end of the arena. -/
def dynamicStart? (capacity dynamic : Nat) : Option Nat :=
  if dynamic = 0 then some capacity else nextMultiple? capacity baseAlignment

def make (machine : Machine) (capacity dynamic : Nat) : Except Error Arena := do
  let overflow : Error := .layoutOverflow (.shared capacity dynamic)
  let some start := dynamicStart? capacity dynamic | throw overflow
  let some total := (wordArithmetic.add start dynamic).toOption | throw overflow
  machine.provide total
  return ⟨capacity, start, dynamic⟩

/-- Reserves elements above `top`: the offset of the first one, which is a multiple of its size,
and the new top. -/
def bump (capacity : Nat) (k : ElementKind) (top length : Nat) : Except SharedExcess (Nat × Nat) :=
  match nextMultiple? top k.size with
  | none => .error ⟨wordMax, capacity⟩
  | some offset =>
    match (keepWord .addOverflow (offset + length * k.size)).toOption with
    | none => .error ⟨wordMax, capacity⟩
    | some stop => if capacity < stop then .error ⟨stop, capacity⟩ else .ok (offset, stop)

/-- The dynamic area as elements of a kind; bytes that do not make up an element are left out. -/
def dynamicSlice (a : Arena) (k : ElementKind) : SharedSlice :=
  ⟨k, a.dynamicOffset, a.dynamicBytes / k.size⟩

end Arena

end LaneGrid
