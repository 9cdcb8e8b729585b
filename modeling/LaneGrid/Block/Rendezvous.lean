import LaneGrid.Block.Reduction
import LaneGrid.Fault

/-!
A meeting point for a group of lanes that can be used again and again. The last lane to arrive
ends the generation: it publishes the folded contributions and opens the meeting point for the
lanes that wait in it.
-/

namespace LaneGrid

structure Rendezvous where
  size : Nat
  arrived : Nat
  generation : Word
  /-- The contributions of the open generation, folded so far. -/
  gathered : Word
  /-- The folded contributions of the last full generation. -/
  result : Word
  deriving DecidableEq, Repr

namespace Rendezvous

def make (size : Nat) : Rendezvous :=
  ⟨max size 1, 0, 0, 0, 0⟩

/-- What is gathered once one more lane has arrived. The first lane of a generation starts the
fold afresh. -/
def gather (r : Rendezvous) : Option Contribution → Word
  | none => r.gathered
  | some c =>
    c.reduction.combine (if r.arrived = 0 then c.reduction.identity else r.gathered) c.value

def arrive (r : Rendezvous) (c : Option Contribution) : Rendezvous :=
  if r.arrived + 1 = r.size then
    { r with arrived := 0, generation := r.generation + 1, gathered := 0, result := r.gather c }
  else { r with arrived := r.arrived + 1, gathered := r.gather c }

end Rendezvous

/-- What a lane meets at a meeting point: it goes on with the folded word, it goes on without
one because the group will never be complete, or it waits for a generation to end. -/
inductive Arrival where
  | released (result : Option Word)
  | waiting (generation : Word)
  deriving DecidableEq, Repr

class Gate (β : Type) where
  size : β → Nat
  arrive : β → Option Contribution → Except Fault Arrival × β
  /-- A lane that waits for the end of a generation looks again. -/
  look : β → Word → Arrival
  /-- A lane ends, and will not arrive again. -/
  leave : β → (failed : Bool) → Except Fault Unit × β

/-- The meeting point of a group of one lane, which never waits. -/
structure SoloGate where
  deriving DecidableEq, Repr

namespace SoloGate

def fold : Option Contribution → Word
  | none => 0
  | some c => c.reduction.combine c.reduction.identity c.value

instance : Gate SoloGate where
  size _ := 1
  arrive g c := (.ok (.released (some (fold c))), g)
  look _ _ := .released (some 0)
  leave g _ := (.ok (), g)

end SoloGate

end LaneGrid
