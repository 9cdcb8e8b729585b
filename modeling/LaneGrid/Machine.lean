import LaneGrid.Fault

/-!
What the machine gives on which everything runs: memory, and room for lists.
-/

namespace LaneGrid

structure Machine where
  /-- From this size on there is no memory to give. -/
  memoryEnd : Nat
  /-- Bytes of the outcome of a block or a lane in a list. -/
  outcomeBytes : Nat
  deriving DecidableEq, Repr

/-- The largest distance between two addresses. -/
def addressMax : Nat := 9223372036854775807

def baseAlignment : Nat := 64

/-- The largest size whose end, rounded up to the base alignment, a signed word can express. -/
def allocationMax : Nat := addressMax - (baseAlignment - 1)

namespace Machine

def standard : Machine :=
  ⟨576460752303423488, 64⟩

def provide (m : Machine) (bytes : Nat) : Except Error Unit :=
  if allocationMax < bytes then .error (.layoutOverflow (.unaligned bytes))
  else if m.memoryEnd ≤ bytes then .error (.outOfMemory "host allocator" bytes 0)
  else .ok ()

/-- Makes a list for the outcomes of so many blocks or lanes, before any of them is known. -/
def keep (m : Machine) (n : Nat) : Except Fault Unit :=
  if n * m.outcomeBytes ≤ addressMax then pure () else throw .tooManyEntries

end Machine

end LaneGrid
