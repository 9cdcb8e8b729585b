import LaneGrid.Block.Rendezvous

namespace LaneGrid

structure FiberBarrier where
  meeting : Rendezvous
  /-- All arrivals so far, by which progress is noticed. -/
  arrivals : Nat
  deriving DecidableEq, Repr

namespace FiberBarrier

def make (size : Nat) : FiberBarrier :=
  ⟨.make size, 0⟩

def waiting (b : FiberBarrier) : Nat :=
  b.meeting.arrived

def look (b : FiberBarrier) (generation : Word) : Arrival :=
  if b.meeting.generation ≠ generation then .released (some b.meeting.result)
  else .waiting generation

def arrive (b : FiberBarrier) (c : Option Contribution) : Arrival × FiberBarrier :=
  let after : FiberBarrier := ⟨b.meeting.arrive c, b.arrivals + 1⟩
  (after.look b.meeting.generation, after)

instance : Gate FiberBarrier where
  size b := b.meeting.size
  arrive b c := (.ok (b.arrive c).1, (b.arrive c).2)
  look := look
  leave b _ := (.ok (), b)

end FiberBarrier

/-- One pass of a fiber through a barrier. It arrives when it is first polled. -/
inductive FiberPass where
  | created (contribution : Option Contribution)
  | waiting (generation : Word)
  deriving DecidableEq, Repr

namespace FiberPass

def poll (p : FiberPass) (b : FiberBarrier) : Except FiberPass (Option Word) × FiberBarrier :=
  let (arrival, b) := match p with
    | created c => b.arrive c
    | waiting g => (b.look g, b)
  match arrival with
  | .released r => (.ok r, b)
  | .waiting g => (.error (.waiting g), b)

end FiberPass

end LaneGrid
