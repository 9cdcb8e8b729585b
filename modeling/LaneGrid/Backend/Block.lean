import LaneGrid.Backend.Basic
import LaneGrid.Block.FiberBarrier
import LaneGrid.Block.Team
import LaneGrid.Block.ThreadBarrier

namespace LaneGrid

structure BlockReport where
  result : Outcome Unit
  journals : List (List Observation)
  buffers : Array Bytes
  /-- Events, newest first. -/
  reported : List Event

structure BlockTask where
  division : WorkDivision
  kernel : Kernel
  block : Nat
  arena : Arena
  buffers : Array Bytes

structure Grouping where
  lanes : Nat
  warpSize : Nat
  blockGroup : Nat
  warpGroup : Nat → Nat

def Grouping.warps (g : Grouping) : Nat :=
  g.lanes / g.warpSize + if g.lanes % g.warpSize = 0 then 0 else 1

namespace BlockTask

/-- Operations after which every lane has come to its end. -/
def bound (b : BlockTask) : Nat :=
  b.kernel.bound b.division

def lane (b : BlockTask) (g : Grouping) (number : Nat) : Except Fault Lane := do
  return {
    division := b.division
    blockIndex := ← Axes.delinearize wordArithmetic b.block b.division.gridBlocks
    threadIndex := ← Axes.delinearize wordArithmetic number b.division.blockThreads
    number
    warpSize := g.warpSize
    blockGroup := g.blockGroup
    warpGroup := g.warpGroup (number / g.warpSize)
    arena := b.arena }

def members (b : BlockTask) (g : Grouping) : Except Fault (Array Member) :=
  (Array.range g.lanes).mapM fun number => do
    return ⟨.running (b.kernel.program (← b.lane g number)), 0, #[]⟩

def team {β ω : Type} (b : BlockTask) (g : Grouping) (reserver : Reserver) (observed : Bool)
    (barrier : β) (warps : Array ω) : Except Fault (Team β ω) := do
  return {
    plan := ⟨b.block, b.arena, reserver, g.warpSize, observed⟩
    members := ← b.members g
    barrier, warps
    memory := ⟨.zeros, b.buffers⟩
    top := 0
    published := none
    reported := [] }

def report {β ω : Type} (t : Team β ω) (result : Outcome Unit) : BlockReport :=
  ⟨result, (t.members.map fun m => m.journal.toList).toList, t.memory.buffers, t.reported⟩

/-- The result of a team: the first failure in the order of the lanes. -/
def firstResult {β ω : Type} (t : Team β ω) : Outcome Unit :=
  match t.firstError? with
  | some e => .error (.error e)
  | none => .ok ()

def refused (b : BlockTask) (f : Failure) : BlockReport :=
  ⟨.error f, [], b.buffers, []⟩

def soloGrouping (lanes blockGroup : Nat) : Grouping :=
  ⟨lanes, 1, blockGroup, fun _ => 1⟩

def runAlone (b : BlockTask) (observed : Bool) : BlockReport :=
  match b.team (soloGrouping 1 1) .lane observed SoloGate.mk #[SoloGate.mk] with
  | .error f => b.refused (.fault f)
  | .ok t =>
    let t := t.turn 0 (Team.stepBound b.bound)
    report t (firstResult t)

def noteFailure (block lane : Nat) (t : Team FiberBarrier SoloGate) : Team FiberBarrier SoloGate :=
  match t.members[lane]?.bind fun m => m.stage.outcome? with
  | some (.error e) => t.report (.fiberFailed block lane e.message)
  | _ => t

/-- The lanes of a block that take turns. -/
def fiberTeam (b : BlockTask) (lanes : Nat) : Except Fault (Team FiberBarrier SoloGate) :=
  b.team (soloGrouping lanes (max lanes 1)) .master true (FiberBarrier.make lanes)
    (Array.replicate lanes SoloGate.mk)

/-- When none of the lanes can go on although some have not ended, they are blocked for ever; the
failure of a lane tells more than that. -/
def takeTurns (b : BlockTask) (lanes : Nat) (t : Team FiberBarrier SoloGate) : BlockReport :=
  let (rounds, t) := t.run b.bound (noteFailure b.block)
  if t.pending = 0 then
    report (t.report (.fibersFinished b.block lanes rounds)) (firstResult t)
  else
    let e := t.firstError?.getD (.deadlock b.block t.pending lanes)
    report (t.report (.fibersBlocked b.block t.pending lanes rounds)) (.error (.error e))

def runFibers (b : BlockTask) (lanes : Nat) : BlockReport :=
  match b.fiberTeam lanes with
  | .error f => b.refused (.fault f)
  | .ok t => b.takeTurns lanes t

/-- The result of lanes that have threads of their own. Lanes that a barrier released because it
could not be complete run on with stale data, so their failures come second. -/
def threadsResult (b : BlockTask) (t : Team ThreadBarrier ThreadBarrier) : Outcome Unit :=
  match t.barrier.stranded.or (t.warps.findSome? (·.stranded)) with
  | some pending => .error (.error (.deadlock b.block pending t.size))
  | none => if t.pending = 0 then firstResult t else .error (.fault (.endlessWait b.block))

/-- Lanes that have threads of their own, taken in the order in which they are started. -/
def runThreads (b : BlockTask) (lanes warpSize : Nat) (reserver : Reserver) : BlockReport :=
  let g : Grouping :=
    { lanes
      warpSize := max warpSize 1
      blockGroup := max lanes 1
      warpGroup := fun w => min (max warpSize 1) (lanes - w * max warpSize 1) }
  match b.team g reserver false (ThreadBarrier.make lanes)
      ((Array.range g.warps).map fun w => ThreadBarrier.make (g.warpGroup w)) with
  | .error f => b.refused (.fault f)
  | .ok t =>
    let (_, t) := t.run b.bound fun _ t => t
    report t (b.threadsResult t)

end BlockTask

def Backend.runBlock (backend : Backend) (lanes : Nat) (b : BlockTask) : BlockReport :=
  match backend.kind with
  | .serial => b.runAlone true
  | .blocks => b.runAlone false
  | .threads => b.runThreads lanes 1 .master
  | .fibers => b.runFibers lanes
  | .accelerator => b.runThreads lanes backend.device.properties.warpSize .lane

end LaneGrid
