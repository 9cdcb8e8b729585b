import LaneGrid.Backend.Launch
import LaneGrid.Memory.Buffer
import LaneGrid.Script.Kernel

namespace LaneGrid.Script

structure Job where
  kind : ElementKind
  extent : List Int
  pitched : Bool
  /-- What every element holds at the start; zero if not given. -/
  start : Option (Element kind)
  sharedBytes : Nat
  dynamicBytes : Nat
  instructions : List Instruction

structure JobReport where
  kind : ElementKind
  result : Outcome Unit
  journals : Array (List (List Observation))
  /-- All elements of the buffer, unless nobody can tell what the lanes have done to them. -/
  content : Option (List (Element kind))

namespace Job

/-- The elements of the buffer after a launch. A fault of the launch goes on here. -/
def readBack (r : Region) (kind : BackendKind) (result : Outcome Unit) (bytes : Bytes) :
    Except Fault (Option (List (Element r.kind))) :=
  match result with
  | .ok () => some <$> r.toList bytes
  | .error (.fault f) => .error f
  | .error (.error _) => if kind.hasLaneThreads then pure none else some <$> r.toList bytes

/-- Runs the script and reads the buffer back, which is released in the end. -/
def runOver (j : Job) (b : Backend) (d : WorkDivision) (buffer : Buffer) :
    Outcome JobReport × List Event :=
  let r := buffer.region
  let filled : Except Fault Bytes :=
    if h : r.kind = j.kind then
      match j.start with
      | some x => r.fill (h ▸ x) buffer.bytes
      | none => .ok buffer.bytes
    else .ok buffer.bytes
  let released : Event := .released b.device.id.name buffer.sizeBytes
  match filled with
  | .error f => (.error (.fault f), [released])
  | .ok bytes =>
    let script : Script := ⟨r, j.sharedBytes, j.dynamicBytes, j.instructions⟩
    let launched := b.launch d script.kernel #[bytes]
    match readBack r b.kind launched.result (launched.buffers[0]?.getD bytes) with
    | .error f => (.error (.fault f), launched.events ++ [released])
    | .ok content =>
      let read : List Event := content.toList.map fun xs =>
        .transferred (xs.length * r.kind.size) (DeviceKind.direction b.device.id.kind .host) none
      (.ok ⟨r.kind, launched.result, launched.journals, content⟩,
        launched.events ++ read ++ [released])

/-- Runs the job on a new backend. The second component tells everything that was reported. -/
def run (j : Job) (b : Backend) (d : WorkDivision) : Outcome JobReport × List Event :=
  let allocation := Buffer.allocate b.device j.kind .word j.extent j.pitched
  match allocation.result with
  | .error e => (.error e, allocation.events)
  | .ok (buffer, device) =>
    let (r, events) := j.runOver { b with device } d buffer
    (r, allocation.events ++ events)

end Job

end LaneGrid.Script
