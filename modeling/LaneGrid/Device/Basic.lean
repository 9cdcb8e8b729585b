import LaneGrid.Device.Ledger
import LaneGrid.Machine
import LaneGrid.Settings.Basic
import LaneGrid.Telemetry.Event

namespace LaneGrid

inductive DeviceKind where
  /-- The processor itself; its memory can be addressed directly. -/
  | host
  /-- A simulated accelerator, whose memory is reached by copies and by kernels. -/
  | accelerator
  deriving DecidableEq, Repr

namespace DeviceKind

def title : DeviceKind → String
  | host => "Host"
  | accelerator => "SimGpu"

def label : DeviceKind → String
  | host => "cpu"
  | accelerator => "simgpu"

def direction (source destination : DeviceKind) : String :=
  match source, destination with
  | host, host => "H2H"
  | host, accelerator => "H2D"
  | accelerator, host => "D2H"
  | accelerator, accelerator => "D2D"

end DeviceKind

structure DeviceId where
  kind : DeviceKind
  index : Nat
  deriving DecidableEq, Repr

namespace DeviceId

def name (d : DeviceId) : String :=
  s!"{d.kind.label}{d.index}"

def description (d : DeviceId) : String :=
  s!"DeviceId \x7b kind: {d.kind.title}, index: {d.index} \x7d"

end DeviceId

structure DeviceProperties where
  name : String
  /-- Blocks that run at the same time; the host leaves this to its threads. -/
  multiprocessors : Option Nat
  globalBytes : Nat
  sharedBytes : Nat
  blockThreads : Nat
  gridBlockExtent : Nat
  pitchAlignment : Nat
  warpSize : Nat
  deriving DecidableEq, Repr

structure Device where
  /-- Distinguishes devices that were created separately. -/
  serial : Nat
  id : DeviceId
  properties : DeviceProperties
  ledger : Ledger
  /-- Where the device lives or is simulated. -/
  machine : Machine
  deriving DecidableEq, Repr

namespace Device

def host (settings : HostSettings) (serial : Nat) : Device :=
  let id : DeviceId := ⟨.host, 0⟩
  let capacity := settings.memoryLimit.getD wordMax
  { serial, id
    properties :=
      { name := "host cpu"
        multiprocessors := none
        globalBytes := capacity
        sharedBytes := settings.sharedBytes
        blockThreads := max settings.blockThreads settings.fiberBlockThreads
        gridBlockExtent := wordMax
        pitchAlignment := 1
        warpSize := 1 }
    ledger := .empty id.name capacity
    machine := .standard }

def accelerator (settings : AcceleratorSettings) (index serial : Nat) : Device :=
  let id : DeviceId := ⟨.accelerator, index⟩
  { serial, id
    properties :=
      { name := settings.name
        multiprocessors := some settings.multiprocessors
        globalBytes := settings.globalBytes
        sharedBytes := settings.sharedBytes
        blockThreads := settings.blockThreads
        gridBlockExtent := settings.gridBlockExtent
        pitchAlignment := settings.pitchAlignment
        warpSize := settings.warpSize }
    ledger := .empty id.name settings.globalBytes
    machine := .standard }

def created (d : Device) : Event :=
  match d.id.kind with
  | .host => .hostCreated d.id.name d.ledger.capacity
  | .accelerator =>
      .acceleratorCreated d.id.name d.properties.globalBytes d.properties.sharedBytes

def same (d e : Device) : Bool :=
  d.serial == e.serial

def description (d : Device) : String :=
  let title := match d.id.kind with
    | .host => "CpuDevice"
    | .accelerator => "SimGpuDevice"
  s!"{title} \x7b id: {d.id.description}, used_bytes: {d.ledger.used} \x7d"

end Device

abbrev Platform := List Device

namespace Platform

def host (settings : HostSettings) : Platform :=
  [Device.host settings 0]

def accelerators (settings : AcceleratorSettings) : Platform :=
  (List.range settings.deviceCount).map fun i => Device.accelerator settings i (i + 1)

def device (p : Platform) (index : Nat) : Except Error Device :=
  match p[index]? with
  | some d => .ok d
  | none => .error (.invalidDevice index p.length)

end Platform

end LaneGrid
