import LaneGrid.Arithmetic
import LaneGrid.Block.Rendezvous

/-!
The barrier of lanes that run at the same time. Lanes that end are counted; once a waiting lane
can no longer be joined by every peer, the barrier releases everyone and records how many lanes
had not ended.
-/

namespace LaneGrid

structure ThreadBarrier where
  meeting : Rendezvous
  poisoned : Bool
  /-- Lanes that ended without failing. -/
  finished : Nat
  /-- Unfinished lanes at the time when the group could no longer be complete. -/
  stranded : Option Nat
  deriving DecidableEq, Repr

namespace ThreadBarrier

def make (size : Nat) : ThreadBarrier :=
  ⟨.make size, false, 0, none⟩

/-- Releases all lanes, now and later. -/
def poison (b : ThreadBarrier) : ThreadBarrier :=
  { b with poisoned := true }

/-- Whether some lane waits for one that has ended. -/
def unreachable (b : ThreadBarrier) : Bool :=
  !b.poisoned && b.finished ≠ 0 && b.meeting.arrived ≠ 0

/-- Gives up a generation that can no longer be complete. -/
def strand (b : ThreadBarrier) : Except Fault Unit × ThreadBarrier :=
  if b.unreachable then
    match wordArithmetic.sub b.meeting.size b.finished with
    | .ok pending => (.ok (), { b with stranded := some pending, poisoned := true })
    | .error e => (.error e, b)
  else (.ok (), b)

def arrive (b : ThreadBarrier) (c : Option Contribution) : Except Fault Arrival × ThreadBarrier :=
  if b.poisoned then (.ok (.released none), b)
  else
    let generation := b.meeting.generation
    let b := { b with meeting := b.meeting.arrive c }
    if b.meeting.generation ≠ generation then (.ok (.released (some b.meeting.result)), b)
    else
      match b.strand with
      | (.ok (), b) => (.ok (if b.poisoned then .released none else .waiting generation), b)
      | (.error e, b) => (.error e, b)

/-- A waiting lane looks again. The end of its generation comes before everything else. -/
def look (b : ThreadBarrier) (generation : Word) : Arrival :=
  if b.meeting.generation ≠ generation then .released (some b.meeting.result)
  else if b.poisoned then .released none
  else .waiting generation

def laneFinished (b : ThreadBarrier) : Except Fault Unit × ThreadBarrier :=
  strand { b with finished := b.finished + 1 }

instance : Gate ThreadBarrier where
  size b := b.meeting.size
  arrive := arrive
  look := look
  leave b failed := if failed then (.ok (), b.poison) else b.laneFinished

/-- Lanes arrive one after the other; each answer is what its lane takes along in the end, if
it ever goes on. -/
def arriveAll (b : ThreadBarrier) (cs : List (Option Contribution)) :
    List (Except Fault Arrival) × ThreadBarrier :=
  let (arrivals, b) := cs.foldl (fun (acc, b) c =>
    let (a, b) := arrive b c
    (acc ++ [a], b)) ([], b)
  (arrivals.map fun a => a.map fun
    | .released r => .released r
    | .waiting g => b.look g, b)

end ThreadBarrier

end LaneGrid
