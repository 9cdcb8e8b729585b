import LaneGrid.Arithmetic
import LaneGrid.Telemetry.Rate

namespace LaneGrid

inductive Severity where
  | trace | debug | info | warn | error
  deriving DecidableEq, Repr

def Severity.name : Severity → String
  | trace => "TRACE" | debug => "DEBUG" | info => "INFO" | warn => "WARN" | error => "ERROR"

inductive FieldValue where
  | text (value : String)
  | number (value : Nat)
  | rate (value : Float)
  deriving Repr

/-- Reported events. A duration is given in microseconds, where it was measured. -/
inductive Event where
  | hostCreated (device : String) (capacity : Nat)
  | acceleratorCreated (device : String) (globalBytes sharedBytes : Nat)
  | multiprocessorsStarted (device : String)
  | zeroSizeRejected (axis : Nat) (extent : String)
  | allocated (bytes : Nat) (device : String) (pitch : Nat) (micros : Option Nat)
  | released (device : String) (bytes : Nat)
  | transferred (bytes : Nat) (direction : String) (micros : Option Nat)
  | launchRejected (backend division error : String)
  | sharedRejected (backend : String) (shared dynamic limit : Nat)
  | launched (backend division : String) (shared dynamic : Nat)
  | launchRecorded (backend : String) (blocks lanes : Nat) (micros : Option Nat)
  | launchFailed (backend : String) (blocks : Nat)
  | sharedReserved (offset length : Nat) (element : String)
  | sharedPublished (length : Nat) (element outcome : String)
  | fiberFailed (block lane : Nat) (error : String)
  | fibersBlocked (block pending lanes rounds : Nat)
  | fibersFinished (block lanes rounds : Nat)
  | spanCompleted
  | blockTimed (operation : String)
  | sharedNoted (bytes lane : Nat)
  deriving Repr

namespace Event

def severity : Event → Severity
  | released .. | sharedReserved .. | sharedPublished .. | fibersFinished .. => .trace
  | launchRejected .. | sharedRejected .. => .warn
  | _ => .debug

/-- The name under which an event is published, if it has one. -/
def message? : Event → Option String
  | hostCreated .. => "host_device_created"
  | acceleratorCreated .. => "sim_gpu_device_created"
  | multiprocessorsStarted .. => "sim_gpu_backend_created"
  | zeroSizeRejected .. => "zero_sized_allocation_rejected"
  | allocated .. => "memory_allocation"
  | released .. => "device_allocation_released"
  | transferred .. => "memory_transfer"
  | launchRejected .. => "kernel_launch_rejected"
  | sharedRejected .. => "kernel_shared_memory_rejected"
  | launched .. | launchRecorded .. => "kernel_launch"
  | launchFailed .. => "kernel_launch_failed"
  | sharedReserved .. => "shared_alloc"
  | sharedPublished .. => "master_shared_alloc"
  | fiberFailed .. => "fiber_failed"
  | fibersBlocked .. => "fiber_deadlock"
  | fibersFinished .. => "fibers_finished"
  | spanCompleted => "performance_span_complete"
  | blockTimed .. => "timed_block_complete"
  | sharedNoted .. => none

/-- A measured duration, with the rate that follows from it. -/
def measured (rate : Option (String × (Nat → Float))) :
    Option Nat → List (String × FieldValue)
  | none => []
  | some micros =>
      ("duration_us", .number micros) :: rate.toList.map fun r => (r.1, .rate (r.2 micros))

def fields : Event → List (String × FieldValue)
  | hostCreated device capacity => [("device", .text device), ("capacity", .number capacity)]
  | acceleratorCreated device globalBytes sharedBytes =>
      [("device", .text device), ("global_mem_bytes", .number globalBytes),
        ("shared_mem_bytes_max", .number sharedBytes)]
  | multiprocessorsStarted device => [("device", .text device)]
  | zeroSizeRejected axis extent => [("axis", .number axis), ("extent", .text extent)]
  | allocated bytes device pitch micros =>
      [("event", .text "allocation"), ("size_bytes", .number bytes),
        ("size_kb", .rate (Rate.kibibytes bytes)), ("device", .text device),
        ("pitch_bytes", .number pitch)] ++ measured none micros
  | released device bytes => [("device", .text device), ("bytes", .number bytes)]
  | transferred bytes direction micros =>
      [("event", .text "transfer"), ("bytes", .number bytes), ("direction", .text direction)] ++
        measured (some ("bandwidth_mbps", Rate.bandwidth bytes)) micros
  | launchRejected backend division error =>
      [("backend", .text backend), ("work_div", .text division), ("error", .text error)]
  | sharedRejected backend shared dynamic limit =>
      [("backend", .text backend), ("shared_bytes", .number shared),
        ("dyn_shared_bytes", .number dynamic), ("limit", .number limit)]
  | launched backend division shared dynamic =>
      [("backend", .text backend), ("work_div", .text division),
        ("shared_bytes", .number shared), ("dyn_shared_bytes", .number dynamic)]
  | launchRecorded backend blocks lanes micros =>
      [("event", .text "launch"), ("backend", .text backend), ("blocks", .number blocks),
        ("threads_per_block", .number lanes)] ++
        measured (some ("lanes_per_sec", Rate.perSecond (blocks * lanes))) micros
  | launchFailed backend blocks =>
      [("backend", .text backend), ("failed_blocks", .number blocks)]
  | sharedReserved offset length element =>
      [("offset", .number offset), ("len", .number length), ("elem", .text element)]
  | sharedPublished length element outcome =>
      [("len", .number length), ("elem", .text element), ("outcome", .text outcome)]
  | fiberFailed block lane error =>
      [("block", .number block), ("lane", .number lane), ("error", .text error)]
  | fibersBlocked block pending lanes rounds =>
      [("block", .number block), ("pending", .number pending), ("lanes", .number lanes),
        ("rounds", .number rounds)]
  | fibersFinished block lanes rounds =>
      [("block", .number block), ("lanes", .number lanes), ("rounds", .number rounds)]
  | spanCompleted => []
  | blockTimed operation => [("operation", .text operation)]
  | sharedNoted bytes lane =>
      [("event", .text "shared_alloc"), ("bytes", .number bytes), ("lane", .number lane)]

/-- The record of a finished launch. It counts the lanes of the whole grid, which must be a
machine word. -/
def launchRecord (backend : String) (blocks lanes : Nat) (micros : Option Nat) :
    Except Fault Event := do
  let _ ← wordArithmetic.mul blocks lanes
  return .launchRecorded backend blocks lanes micros

end Event

end LaneGrid
