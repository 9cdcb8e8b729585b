import LaneGrid.Queue.System

/-!
What a single client sees. Each call is made while the workers rest, and they come to rest again
before it returns: a client that is alone can only tell what is certain by then. A call that waits
for something that nobody else will bring about has no result. The main statement is
`QueueSystem.advance_settle`: after settling no worker can take a step.
-/

namespace LaneGrid.QueueSystem

variable {σ : Type}

/-- One step of the first worker that can take one. -/
def advance (s : QueueSystem σ) : Option (QueueSystem σ) :=
  (List.range s.queues.length).findSome? s.workerStep

theorem work_advance {s t : QueueSystem σ} (h : s.advance = some t) : t.work < s.work := by
  obtain ⟨q, _, h⟩ := List.exists_of_findSome?_eq_some h
  exact work_workerStep h

/-- Lets the workers go on until each of them waits, rests or has stopped. -/
def settle (s : QueueSystem σ) : QueueSystem σ :=
  match _h : s.advance with
  | some t => t.settle
  | none => s
termination_by s.work
decreasing_by exact work_advance _h

theorem advance_settle (s : QueueSystem σ) : s.settle.advance = none := by
  fun_induction settle s with
  | case1 _ _ _ ih => exact ih
  | case2 _ h => exact h

def runHere (s : QueueSystem σ) (b : Backend) :
    QueueTask σ → Option (Outcome Unit × QueueSystem σ)
  | [] => some (.ok (), s)
  | step :: rest => do
    match ← s.perform b step with
    | (.ok (), s) => s.runHere b rest
    | r => return r

/-- Submits a task. A blocking queue answers with the task's own outcome; a fault passes through
it before the task is counted as completed. -/
def enqueue (s : QueueSystem σ) (q : Nat) (task : QueueTask σ) :
    Option (Outcome Unit × QueueSystem σ) := do
  let queue ← s.queues[q]?
  match queue.worker with
  | some _ => return (.ok (), ((s.submit q).send ⟨queue.account.submitted, q, task⟩).settle)
  | none =>
    match ← (s.submit q).runHere queue.backend task with
    | (.error (.fault f), s) => return (.error (.fault f), s.settle)
    | (r, s) => return (r, (s.complete q none).settle)

def waitMarker (s : QueueSystem σ) (m : Marker) : Option (QueueSystem σ) :=
  if s.isComplete m then some s else none

def waitFor (s : QueueSystem σ) (q : Nat) (m : Marker) : Option (QueueSystem σ) := do
  match (← s.queues[q]?).worker with
  | some _ => return (← s.enqueue q [.await m]).2
  | none => s.waitMarker m

/-- Waits until every task submitted so far is over, and asks for the failure. -/
def wait (s : QueueSystem σ) (q : Nat) : Option (Except Error Unit × QueueSystem σ) := do
  let queue ← s.queues[q]?
  match queue.worker with
  | none => return (.ok (), s)
  | some _ =>
    let s ← s.waitMarker (← s.record q)
    let (r, account) := queue.account.takeFailure
    return (r, s.modifyQueue q fun queue => { queue with account })

/-- Whether every task is over. A blocking queue has none that is not. -/
def isEmpty (s : QueueSystem σ) (q : Nat) : Option Bool := do
  let queue ← s.queues[q]?
  return queue.worker.isNone || queue.account.isBalanced

def release (s : QueueSystem σ) (gate : Nat) : QueueSystem σ :=
  (s.openGate gate).settle

/-- Gives up a queue, once its worker has run what was sent. -/
def drop (s : QueueSystem σ) (q : Nat) : Option (QueueSystem σ) := do
  let s := (s.close q).settle
  match (← s.queues[q]?).worker with
  | some ⟨_, _, .stopped⟩ | none => return s
  | some _ => none

def describe (s : QueueSystem σ) (m : Marker) : String :=
  s!"Event \x7b target: {m.target}, complete: {s.isComplete m} \x7d"

end LaneGrid.QueueSystem
