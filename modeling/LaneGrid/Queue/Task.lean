import LaneGrid.Backend.Basic

namespace LaneGrid

/-- A queue's count of its tasks. Markers compare counts only, so a task counts as submitted before
it is handed over, and as completed after its last step. -/
structure TaskAccount where
  submitted : Nat
  completed : Nat
  /-- The first failure that no one has asked for yet. -/
  failure : Option Error
  deriving DecidableEq, Repr

namespace TaskAccount

def empty : TaskAccount :=
  ⟨0, 0, none⟩

def submit (a : TaskAccount) : TaskAccount :=
  { a with submitted := a.submitted + 1 }

/-- One more task is over. An earlier failure is kept. -/
def complete (a : TaskAccount) (failure : Option Error) : TaskAccount :=
  { a with completed := a.completed + 1, failure := a.failure.or failure }

def reaches (a : TaskAccount) (target : Nat) : Bool :=
  target ≤ a.completed

def isBalanced (a : TaskAccount) : Bool :=
  a.completed = a.submitted

/-- Asks for the failure, which is forgotten then. -/
def takeFailure (a : TaskAccount) : Except Error Unit × TaskAccount :=
  (match a.failure with
    | some e => .error e
    | none => .ok (),
    { a with failure := none })

end TaskAccount

/-- A place in the order of a queue's tasks, complete once `target` of them are over. -/
structure Marker where
  queue : Nat
  target : Nat
  deriving DecidableEq, Repr

/-- A part of a task. What a task acts on, `σ`, is common to all queues. -/
inductive TaskStep (σ : Type) where
  | act (effect : Backend → σ → Outcome Unit × σ)
  /-- Waits for a gate to be opened. -/
  | pass (gate : Nat)
  /-- Waits for a marker to be complete. -/
  | await (marker : Marker)

/-- The steps of a task, in order. The first failure ends it. -/
abbrev QueueTask (σ : Type) := List (TaskStep σ)

/-- A call that hands over a task. Calls are numbered as they begin. -/
structure Submission (σ : Type) where
  number : Nat
  queue : Nat
  task : QueueTask σ

/-- What a worker makes of a task's failure; it outlives the faults of its tasks. -/
def Failure.ofTask : Failure → Error
  | .error e => e
  | .fault f => .execution s!"queued task panicked: {f.message}"

end LaneGrid
