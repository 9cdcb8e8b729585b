import LaneGrid.Kernel.Program
import LaneGrid.Telemetry.Event

/-!
The lanes of one block at work. A team's state changes only through `Team.step`, in which one
lane performs one operation that no other lane can interrupt; every way of running a block is an
order of such steps. `Team.turn` lets a lane go on until it waits or ends, and `Team.rounds` gives
every lane a turn again and again.
-/

namespace LaneGrid

inductive Reserver where
  /-- Each lane for itself; lanes that ask for the same slices get the same offsets. -/
  | lane
  /-- The master lane, while the others wait; it publishes the offset. -/
  | master
  deriving DecidableEq, Repr

structure BlockPlan where
  block : Nat
  arena : Arena
  reserver : Reserver
  warpSize : Nat
  /-- Whether reservations are reported where the launch is observed. -/
  observed : Bool

/-- What a lane does once the meeting is over for which it waits. -/
inductive Resumption where
  | deliver (next : Word → Program)
  | publish (kind : ElementKind) (length : Nat) (next : Except Error SharedSlice → Program)
  | collect (kind : ElementKind) (length : Nat) (next : Except Error SharedSlice → Program)

inductive Stage where
  | running (program : Program)
  | waiting (scope : Scope) (generation : Word) (resumption : Resumption)
  /-- All lanes have come to reserve shared memory; it is up to the master. -/
  | publishing (kind : ElementKind) (length : Nat) (next : Except Error SharedSlice → Program)
  /-- The lane meets the others again before it reads what was published. -/
  | closing (kind : ElementKind) (length : Nat) (next : Except Error SharedSlice → Program)
  | collecting (kind : ElementKind) (length : Nat) (next : Except Error SharedSlice → Program)
  /-- The lane has its outcome and still has to tell the members of a group. -/
  | leaving (outcome : Except Error Unit) (scope : Scope)
  | ended (outcome : Except Error Unit)

namespace Stage

def outcome? : Stage → Option (Except Error Unit)
  | ended o => some o
  | _ => none

end Stage

namespace Resumption

def stage (r : Resumption) (result : Option Word) : Stage :=
  match r with
  | deliver next => .running (next (result.getD 0))
  | publish k n next => .publishing k n next
  | collect k n next => .collecting k n next

end Resumption

structure Member where
  stage : Stage
  /-- Bytes that the lane has reserved, where each lane keeps its own account. -/
  top : Nat
  journal : Array Observation

structure Memory where
  shared : Bytes
  buffers : Array Bytes

def Memory.access (m : Memory) (p : Place) {k : ElementKind} (a : Access k) :
    Except Fault (Element k × Memory) :=
  match p.space with
  | .shared => do
    let (x, shared) ← m.shared.access p.offset a
    return (x, { m with shared })
  | .buffer i =>
    match m.buffers[i]? with
    | none => .error (.outOfBounds m.buffers.size i)
    | some b => do
      let (x, b) ← b.access p.offset a
      return (x, { m with buffers := m.buffers.setIfInBounds i b })

structure Team (β ω : Type) where
  plan : BlockPlan
  members : Array Member
  barrier : β
  warps : Array ω
  memory : Memory
  /-- Bytes reserved by the master, where it keeps the account. -/
  top : Nat
  /-- The answer to the last reservation by the master. -/
  published : Option (Except SharedExcess Nat)
  /-- Events, newest first. -/
  reported : List Event

namespace Team

variable {β ω : Type} [Gate β] [Gate ω]

def size (t : Team β ω) : Nat :=
  t.members.size

def moveTo (t : Team β ω) (lane : Nat) (stage : Stage) : Team β ω :=
  { t with members := t.members.modify lane fun m => { m with stage } }

def note (t : Team β ω) (lane : Nat) (entry : Observation) : Team β ω :=
  { t with members := t.members.modify lane fun m =>
      { m with journal := m.journal.push entry } }

def report (t : Team β ω) (event : Event) : Team β ω :=
  if t.plan.observed then { t with reported := event :: t.reported } else t

/-- A lane has its outcome. A fault counts as a failure of the lane. -/
def conclude (t : Team β ω) (lane : Nat) (outcome : Outcome Unit) : Team β ω :=
  let outcome : Except Error Unit := match outcome with
    | .ok () => .ok ()
    | .error (.error e) => .error e
    | .error (.fault f) => .error (.kernelPanicked t.plan.block lane f.message)
  t.moveTo lane (.leaving outcome .block)

def arriveAt (t : Team β ω) (lane : Nat) (scope : Scope) (c : Option Contribution) :
    Except Fault Arrival × Team β ω :=
  match scope with
  | .block =>
    let (a, barrier) := Gate.arrive t.barrier c
    (a, { t with barrier })
  | .warp =>
    match t.warps[lane / t.plan.warpSize]? with
    | none => (.ok (.released none), t)
    | some w =>
      let (a, w) := Gate.arrive w c
      (a, { t with warps := t.warps.setIfInBounds (lane / t.plan.warpSize) w })

def lookAt (t : Team β ω) (lane : Nat) (scope : Scope) (generation : Word) : Arrival :=
  match scope with
  | .block => Gate.look t.barrier generation
  | .warp =>
    match t.warps[lane / t.plan.warpSize]? with
    | none => .released none
    | some w => Gate.look w generation

def leave (t : Team β ω) (lane : Nat) (scope : Scope) (failed : Bool) :
    Except Fault Unit × Team β ω :=
  match scope with
  | .block =>
    let (r, barrier) := Gate.leave t.barrier failed
    (r, { t with barrier })
  | .warp =>
    match t.warps[lane / t.plan.warpSize]? with
    | none => (.ok (), t)
    | some w =>
      let (r, w) := Gate.leave w failed
      (r, { t with warps := t.warps.setIfInBounds (lane / t.plan.warpSize) w })

def meet (t : Team β ω) (lane : Nat) (scope : Scope) (c : Option Contribution)
    (r : Resumption) : Team β ω :=
  match t.arriveAt lane scope c with
  | (.ok (.released w), t) => t.moveTo lane (r.stage w)
  | (.ok (.waiting g), t) => t.moveTo lane (.waiting scope g r)
  | (.error f, t) => t.conclude lane (.error (.fault f))

def reserveAlone (t : Team β ω) (lane : Nat) (top : Nat) (k : ElementKind) (length : Nat)
    (next : Except Error SharedSlice → Program) : Team β ω :=
  match Arena.bump t.plan.arena.capacity k top length with
  | .ok (offset, top) =>
    let t := t.report (.sharedReserved offset length k.name)
    let t := { t with members := t.members.modify lane fun m => { m with top } }
    t.moveTo lane (.running (next (.ok ⟨k, offset, length⟩)))
  | .error e => t.moveTo lane (.running (next (.error e.error)))

def publish (t : Team β ω) (k : ElementKind) (length : Nat) : Team β ω :=
  match Arena.bump t.plan.arena.capacity k t.top length with
  | .ok (offset, top) =>
    { t with top, published := some (.ok offset) }.report
      (.sharedPublished length k.name s!"Ok({offset})")
  | .error e =>
    { t with published := some (.error e) }.report
      (.sharedPublished length k.name s!"Err({e.description})")

def collected (t : Team β ω) (k : ElementKind) (length : Nat) : Except Error SharedSlice :=
  match t.published with
  | some (.ok offset) => .ok ⟨k, offset, length⟩
  | some (.error e) => .error e.error
  | none => .error (.execution "block shared allocation without a master lane")

def perform (t : Team β ω) (lane : Nat) (m : Member) : Program → Team β ω
  | .finish outcome => t.conclude lane outcome
  | .note entry next => (t.note lane entry).moveTo lane (.running next)
  | .arrive scope c next => t.meet lane scope c (.deliver next)
  | .allocate k length next =>
    match t.plan.reserver with
    | .lane => t.reserveAlone lane m.top k length next
    | .master => t.meet lane .block none (.publish k length next)
  | .reserved next =>
    let bytes := match t.plan.reserver with
      | .lane => m.top
      | .master => t.top
    t.moveTo lane (.running (next bytes))
  | .access place _ a next =>
    match t.memory.access place a with
    | .ok (x, memory) => { t with memory }.moveTo lane (.running (next x))
    | .error f => t.conclude lane (.error (.fault f))

def step (t : Team β ω) (lane : Nat) : Option (Team β ω) := do
  let m ← t.members[lane]?
  match m.stage with
  | .running p => return t.perform lane m p
  | .waiting scope g r =>
    match t.lookAt lane scope g with
    | .released w => return t.moveTo lane (r.stage w)
    | .waiting _ => none
  | .publishing k length next =>
    let t := if lane = 0 then t.publish k length else t
    return t.moveTo lane (.closing k length next)
  | .closing k length next => return t.meet lane .block none (.collect k length next)
  | .collecting k length next => return t.moveTo lane (.running (next (t.collected k length)))
  | .leaving outcome scope =>
    match t.leave lane scope outcome.isOk.not with
    | (.ok (), t) =>
      return t.moveTo lane (match scope with
        | .block => .leaving outcome .warp
        | .warp => .ended outcome)
    | (.error f, t) =>
      return t.moveTo lane (.ended (.error (.kernelPanicked t.plan.block lane f.message)))
  | .ended _ => none

/-- Steps of a lane whose program has at most `n` operations: reserving takes six, the end
three. -/
def stepBound (n : Nat) : Nat :=
  6 * n + 3

def turn (t : Team β ω) (lane : Nat) : Nat → Team β ω
  | 0 => t
  | fuel + 1 =>
    match t.step lane with
    | none => t
    | some t => t.turn lane fuel

def canStep (t : Team β ω) (lane : Nat) : Bool :=
  (t.step lane).isSome

def pending (t : Team β ω) : Nat :=
  t.members.countP fun m => m.stage.outcome?.isNone

def firstError? (t : Team β ω) : Option Error :=
  t.members.findSome? fun m =>
    match m.stage with
    | .ended (.error e) => some e
    | _ => none

/-- Lets lanes take turns in the given order. `onEnd` sees each lane that ends. -/
def sweep (fuel : Nat) (onEnd : Nat → Team β ω → Team β ω) :
    List Nat → Bool × Team β ω → Bool × Team β ω
  | [], r => r
  | lane :: rest, (moved, t) =>
    if t.canStep lane then
      let t := t.turn lane fuel
      let isOver := (t.members[lane]?).any fun m => m.stage.outcome?.isSome
      sweep fuel onEnd rest (true, if isOver then onEnd lane t else t)
    else sweep fuel onEnd rest (moved, t)

/-- Gives every lane a turn, round after round, until all have ended or none can go on. The
number of rounds is counted. -/
def rounds (fuel : Nat) (onEnd : Nat → Team β ω → Team β ω) (count : Nat) (t : Team β ω) :
    Nat → Nat × Team β ω
  | 0 => (count, t)
  | limit + 1 =>
    if t.pending = 0 then (count, t)
    else
      match sweep fuel onEnd (List.range t.size) (false, t) with
      | (true, t) => t.rounds fuel onEnd (count + 1) limit
      | (false, t) => (count + 1, t)

/-- Runs a team whose programs have at most `n` operations. Every round but the last takes a
step, so there are no more rounds than steps of all lanes. -/
def run (t : Team β ω) (n : Nat) (onEnd : Nat → Team β ω → Team β ω) : Nat × Team β ω :=
  t.rounds (stepBound n) onEnd 0 (t.size * stepBound n + 1)

end Team

end LaneGrid
