import LaneGrid.Device.Basic
import LaneGrid.WorkDivision

namespace LaneGrid

inductive BackendKind where
  /-- One lane per block, one block after the other. -/
  | serial
  /-- One lane per block, blocks at the same time. -/
  | blocks
  /-- A thread per lane, one block after the other. -/
  | threads
  /-- Lanes take turns on one thread, one block after the other. -/
  | fibers
  /-- A thread per lane on a simulated accelerator, blocks at the same time. -/
  | accelerator
  deriving DecidableEq, Repr

namespace BackendKind

def name : BackendKind → String
  | serial => "cpu_serial"
  | blocks => "cpu_blocks"
  | threads => "cpu_threads"
  | fibers => "cpu_fibers"
  | accelerator => "sim_gpu"

def runsAllBlocks : BackendKind → Bool
  | blocks | accelerator => true
  | serial | threads | fibers => false

/-- Whether every lane has a thread of its own. When one of them fails, nobody can tell how far
the others have come. -/
def hasLaneThreads : BackendKind → Bool
  | threads | accelerator => true
  | serial | blocks | fibers => false

end BackendKind

structure Backend where
  kind : BackendKind
  device : Device
  /-- Lanes per block, also the limit per axis. -/
  blockThreads : Nat

namespace Backend

def serial (device : Device) : Backend :=
  ⟨.serial, device, 1⟩

def blocks (device : Device) : Backend :=
  ⟨.blocks, device, 1⟩

def threads (device : Device) (settings : HostSettings) : Backend :=
  ⟨.threads, device, settings.blockThreads⟩

def fibers (device : Device) (settings : HostSettings) : Backend :=
  ⟨.fibers, device, settings.fiberBlockThreads⟩

def accelerator (device : Device) : Backend :=
  ⟨.accelerator, device, device.properties.blockThreads⟩

def machine (b : Backend) : Machine :=
  b.device.machine

def limits (b : Backend) : LaunchLimits where
  gridBlockExtent := b.device.properties.gridBlockExtent
  blockThreadExtent := b.blockThreads
  blockThreads := b.blockThreads
  threadElementExtent := wordMax
  sharedBytes := b.device.properties.sharedBytes
  warpSize := b.device.properties.warpSize

def workers (b : Backend) : Nat :=
  max (b.device.properties.multiprocessors.getD 1) 1

def created (b : Backend) : List Event :=
  match b.kind with
  | .accelerator => [.multiprocessorsStarted b.device.id.name]
  | _ => []

def description (b : Backend) : String :=
  s!"SimGpu \x7b device: {b.device.description}, multiprocessors: {b.workers} \x7d"

end Backend

end LaneGrid
