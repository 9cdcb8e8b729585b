import LaneGrid.Backend.Block

namespace LaneGrid

structure LaunchReport where
  result : Outcome Unit
  journals : Array (List (List Observation))
  buffers : Array Bytes
  events : List Event

namespace Backend

/-- Checks a division of work and the kernel's demand for shared memory. A refusal comes with
the event that reports it. -/
def approve (b : Backend) (d : WorkDivision) (kernel : Kernel) : Except (Error × Event) Unit := do
  if let .error e := d.validate b.limits then
    throw (e, .launchRejected b.kind.name d.text e.message)
  let shared := kernel.sharedBytes d
  let dynamic := kernel.dynamicBytes d
  let total := min (shared + dynamic) wordMax
  if b.limits.sharedBytes < total then
    throw (.sharedMemoryExceeded total b.limits.sharedBytes,
      .sharedRejected b.kind.name shared dynamic b.limits.sharedBytes)

structure Progress where
  failure : Option Failure
  failed : Nat
  journals : Array (List (List Observation))
  buffers : Array Bytes
  /-- Events, newest first. -/
  reported : List Event

def Progress.add (p : Progress) (r : BlockReport) : Progress :=
  let failure? : Option Failure := match r.result with
    | .ok () => none
    | .error f => some f
  { failure := p.failure.or failure?
    failed := p.failed + failure?.toList.length
    journals := p.journals.push r.journals
    buffers := r.buffers
    reported := r.reported ++ p.reported }

/-- The report of one block. `run` is the backend's way to run a block of so many lanes. -/
def runNext (b : Backend) (d : WorkDivision) (kernel : Kernel) (lanes block : Nat)
    (buffers : Array Bytes) (run : Nat → BlockTask → BlockReport := b.runBlock) : BlockReport :=
  match Arena.make b.machine (kernel.sharedBytes d) (kernel.dynamicBytes d) with
  | .error e => ⟨.error (.error e), [], buffers, []⟩
  | .ok arena =>
    let task : BlockTask := ⟨d, kernel, block, arena, buffers⟩
    match b.machine.keep lanes with
    | .error f => task.refused (.fault f)
    | .ok () => run lanes task

/-- Runs `n` blocks from a given one on, in order. After a failure only some backends go on. -/
def runBlocks (b : Backend) (d : WorkDivision) (kernel : Kernel) (lanes : Nat) (p : Progress)
    (block n : Nat) (run : Nat → BlockTask → BlockReport := b.runBlock) : Progress :=
  match n with
  | 0 => p
  | n + 1 =>
    let p := p.add (b.runNext d kernel lanes block p.buffers run)
    if p.failure.isSome && !b.kind.runsAllBlocks then p
    else b.runBlocks d kernel lanes p (block + 1) n run

/-- What is left of a launch that a fault ended outside its lanes: it is not recorded. -/
def Progress.broken (p : Progress) (f : Fault) : LaunchReport :=
  ⟨.error (.fault f), p.journals, p.buffers, p.reported.reverse ++ [.spanCompleted]⟩

def record (b : Backend) (blocks lanes : Nat) (p : Progress) (result : Outcome Unit) :
    LaunchReport :=
  match Event.launchRecord b.kind.name blocks lanes none with
  | .error f => p.broken f
  | .ok record =>
    let failed := if p.failed = 0 then [] else [.launchFailed b.kind.name p.failed]
    ⟨result, p.journals, p.buffers,
      p.reported.reverse ++ [record] ++ failed ++ [.spanCompleted]⟩

def finish (b : Backend) (blocks lanes : Nat) (p : Progress) : LaunchReport :=
  match p.failure with
  | none => b.record blocks lanes p (.ok ())
  | some (.error e) => b.record blocks lanes p (.error (.error e))
  | some (.fault f) => p.broken f

/-- Runs the blocks of a launch. Blocks that run at the same time need a place for the result of
each of them before any of them starts. -/
def complete (b : Backend) (d : WorkDivision) (kernel : Kernel) (blocks lanes : Nat)
    (p : Progress) (run : Nat → BlockTask → BlockReport := b.runBlock) : LaunchReport :=
  match if b.kind.runsAllBlocks then b.machine.keep blocks else .ok () with
  | .error f => p.broken f
  | .ok () => b.finish blocks lanes (b.runBlocks d kernel lanes p 0 blocks run)

def launch (b : Backend) (d : WorkDivision) (kernel : Kernel) (buffers : Array Bytes)
    (run : Nat → BlockTask → BlockReport := b.runBlock) : LaunchReport :=
  match b.approve d kernel with
  | .error (e, event) => ⟨.error (.error e), #[], buffers, [event]⟩
  | .ok () =>
    let start : Event :=
      .launched b.kind.name d.text (kernel.sharedBytes d) (kernel.dynamicBytes d)
    let report : Except Fault LaunchReport := do
      let blocks ← d.blockCount
      let lanes ← d.laneCount
      return b.complete d kernel blocks lanes ⟨none, 0, #[], buffers, [start]⟩ run
    match report with
    | .ok r => r
    | .error f => ⟨.error (.fault f), #[], buffers, [start]⟩

end Backend

end LaneGrid
