import LaneGrid.Backend.Launch
import LaneGrid.Kernel.Coroutine

namespace LaneGrid

def BackendKind.reserver : BackendKind → Reserver
  | serial | blocks | accelerator => .lane
  | threads | fibers => .master

namespace Coroutine

/-- Calls the kernel for every lane, and then lets the lanes take turns. -/
def runFibers (k : Coroutine) (limit : Nat) (stop : Outcome Unit) (lanes : Nat) (b : BlockTask) :
    BlockReport :=
  let start : Except Fault (List Lane × Team FiberBarrier SoloGate) := do
    let all ← (List.range lanes).mapM (b.lane (BlockTask.soloGrouping lanes (max lanes 1)))
    return (all, ← b.fiberTeam lanes)
  match start with
  | .error f => b.refused (.fault f)
  | .ok (all, t) =>
    match k.callAll limit stop all t.memory #[] with
    | .error (f, journals, memory) => ⟨.error (.fault f), journals, memory.buffers, []⟩
    | .ok (memory, members) => b.takeTurns lanes { t with memory, members }

end Coroutine

namespace Backend

def runCoroutine (b : Backend) (k : Coroutine) (limit : Nat) (stop : Outcome Unit) (lanes : Nat)
    (task : BlockTask) : BlockReport :=
  match b.kind with
  | .fibers => k.runFibers limit stop lanes task
  | _ => b.runBlock lanes task

/-- A launch in which every lane stops after so many actions, with the given outcome. -/
def launchCoroutine (b : Backend) (d : WorkDivision) (k : Coroutine) (limit : Nat)
    (stop : Outcome Unit) (buffers : Array Bytes) : LaunchReport :=
  b.launch d (k.kernel b.kind.reserver limit stop) buffers (b.runCoroutine k limit stop)

end Backend

end LaneGrid
