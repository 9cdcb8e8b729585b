import LaneGrid.Queue.Task

/-!
Queues of tasks with their workers. Every function here is one step that nothing can interrupt:
handing over a task takes two, and a worker takes one for each step of a task, one to receive the
task and two to leave it. The main statement is `QueueSystem.work_workerStep`: workers come to rest
once no more tasks are handed over.
-/

namespace LaneGrid

/-- What a worker is about to do. -/
inductive WorkerStage (σ : Type) where
  | idle
  | running (submission : Submission σ) (rest : QueueTask σ)
  /-- The task is over and still has to be counted. -/
  | reporting (submission : Submission σ) (failure : Option Error)
  | stopped

/-- The thread of a queue, which receives tasks in the order in which they were sent. -/
structure Worker (σ : Type) where
  channel : List (Submission σ)
  closed : Bool
  stage : WorkerStage σ

/-- A queue over one backend. Without a worker, tasks run where they are submitted. -/
structure TaskQueue (σ : Type) where
  backend : Backend
  account : TaskAccount
  worker : Option (Worker σ)

namespace TaskQueue

variable {σ : Type}

def blocking (b : Backend) : TaskQueue σ :=
  ⟨b, .empty, none⟩

def working (b : Backend) : TaskQueue σ :=
  ⟨b, .empty, some ⟨[], false, .idle⟩⟩

end TaskQueue

structure QueueSystem (σ : Type) where
  queues : List (TaskQueue σ)
  openGates : List Nat
  state : σ

namespace QueueSystem

variable {σ : Type}

def modifyQueue (s : QueueSystem σ) (q : Nat) (f : TaskQueue σ → TaskQueue σ) : QueueSystem σ :=
  { s with queues := s.queues.modify q f }

def setWorker (s : QueueSystem σ) (q : Nat) (w : Worker σ) : QueueSystem σ :=
  s.modifyQueue q fun queue => { queue with worker := some w }

def submit (s : QueueSystem σ) (q : Nat) : QueueSystem σ :=
  s.modifyQueue q fun queue => { queue with account := queue.account.submit }

def send (s : QueueSystem σ) (r : Submission σ) : QueueSystem σ :=
  s.modifyQueue r.queue fun queue =>
    { queue with worker := queue.worker.map fun w => { w with channel := w.channel ++ [r] } }

def complete (s : QueueSystem σ) (q : Nat) (failure : Option Error) : QueueSystem σ :=
  s.modifyQueue q fun queue => { queue with account := queue.account.complete failure }

/-- Lets the worker stop after the tasks that were sent. -/
def close (s : QueueSystem σ) (q : Nat) : QueueSystem σ :=
  s.modifyQueue q fun queue =>
    { queue with worker := queue.worker.map fun w => { w with closed := true } }

def openGate (s : QueueSystem σ) (gate : Nat) : QueueSystem σ :=
  { s with openGates := gate :: s.openGates }

/-- Marks the tasks submitted so far. -/
def record (s : QueueSystem σ) (q : Nat) : Option Marker := do
  return ⟨q, (← s.queues[q]?).account.submitted⟩

def isComplete (s : QueueSystem σ) (m : Marker) : Bool :=
  s.queues[m.queue]?.any fun queue => queue.account.reaches m.target

def perform (s : QueueSystem σ) (b : Backend) : TaskStep σ → Option (Outcome Unit × QueueSystem σ)
  | .act effect =>
    let (r, state) := effect b s.state
    some (r, { s with state })
  | .pass gate => if s.openGates.contains gate then some (.ok (), s) else none
  | .await m => if s.isComplete m then some (.ok (), s) else none

def stageAfter (r : Submission σ) (rest : QueueTask σ) : Outcome Unit → WorkerStage σ
  | .ok () => .running r rest
  | .error f => .reporting r (some f.ofTask)

/-- One step of a queue's worker, unless it has to wait or has stopped. -/
def workerStep (s : QueueSystem σ) (q : Nat) : Option (QueueSystem σ) := do
  let queue ← s.queues[q]?
  let w ← queue.worker
  match w.stage with
  | .idle =>
    match w.channel with
    | [] => if w.closed then s.setWorker q { w with stage := .stopped } else none
    | r :: channel => s.setWorker q { w with channel, stage := .running r r.task }
  | .running r [] => s.setWorker q { w with stage := .reporting r none }
  | .running r (step :: rest) =>
    (s.perform queue.backend step).map fun (result, s) =>
      s.setWorker q { w with stage := stageAfter r rest result }
  | .reporting _ failure => s.modifyQueue q fun queue =>
      { queue with
        account := queue.account.complete failure
        worker := some { w with stage := .idle } }
  | .stopped => none

end QueueSystem

/-- Steps that a worker takes at most before it stops or waits for tasks. -/
def WorkerStage.work {σ : Type} : WorkerStage σ → Nat
  | idle => 1
  | running _ rest => rest.length + 3
  | reporting _ _ => 2
  | stopped => 0

def Worker.work {σ : Type} (w : Worker σ) : Nat :=
  w.channel.foldr (fun r n => r.task.length + 3 + n) 0 + w.stage.work

theorem Worker.work_lt {σ : Type} {w : Worker σ} {stage : WorkerStage σ}
    (h : stage.work < w.stage.work) : { w with stage }.work < w.work :=
  Nat.add_lt_add_left h _

def TaskQueue.work {σ : Type} (queue : TaskQueue σ) : Nat :=
  queue.worker.elim 0 Worker.work

namespace QueueSystem

variable {σ : Type}

def work (s : QueueSystem σ) : Nat :=
  s.queues.foldr (fun queue n => queue.work + n) 0

theorem foldr_modify_lt {α : Type} {f : α → α} {g : α → Nat} {l : List α} {i : Nat} {a : α}
    (ha : l[i]? = some a) (h : g (f a) < g a) :
    (l.modify i f).foldr (fun x n => g x + n) 0 < l.foldr (fun x n => g x + n) 0 := by
  induction l generalizing i with
  | nil => simp at ha
  | cons b l ih =>
    cases i with
    | zero =>
      simp only [List.getElem?_cons_zero, Option.some.injEq] at ha
      simp [ha, h]
    | succ i =>
      simp only [List.getElem?_cons_succ] at ha
      simpa using ih ha

theorem work_modifyQueue {s : QueueSystem σ} {q : Nat} {queue : TaskQueue σ}
    {f : TaskQueue σ → TaskQueue σ} (hq : s.queues[q]? = some queue)
    (h : (f queue).work < queue.work) : (s.modifyQueue q f).work < s.work :=
  foldr_modify_lt hq h

theorem work_setWorker {s : QueueSystem σ} {q : Nat} {queue : TaskQueue σ} {w v : Worker σ}
    (hq : s.queues[q]? = some queue) (hw : queue.worker = some w) (h : v.work < w.work) :
    (s.setWorker q v).work < s.work :=
  work_modifyQueue hq (by simpa [TaskQueue.work, hw] using h)

/-- A step of a task leaves the queues as they are. -/
theorem queues_perform {s t : QueueSystem σ} {b : Backend} {step : TaskStep σ} {r : Outcome Unit}
    (h : s.perform b step = some (r, t)) : t.queues = s.queues := by
  cases step with
  | act effect =>
    simp only [perform, Option.some.injEq, Prod.mk.injEq] at h
    rw [← h.2]
  | pass gate =>
    simp only [perform, Option.ite_none_right_eq_some, Option.some.injEq, Prod.mk.injEq] at h
    rw [h.2.2]
  | await m =>
    simp only [perform, Option.ite_none_right_eq_some, Option.some.injEq, Prod.mk.injEq] at h
    rw [h.2.2]

theorem work_stageAfter (r : Submission σ) (rest : QueueTask σ) (result : Outcome Unit) :
    (stageAfter r rest result).work ≤ rest.length + 3 := by
  cases result <;> simp [stageAfter, WorkerStage.work]

/-- Every step of a worker brings it closer to the end of its work. -/
theorem work_workerStep {s t : QueueSystem σ} {q : Nat} (h : s.workerStep q = some t) :
    t.work < s.work := by
  unfold workerStep at h
  simp only [Option.bind_eq_bind, Option.bind_eq_some_iff] at h
  obtain ⟨queue, hq, w, hw, h⟩ := h
  split at h
  · rename_i stage
    split at h
    · split at h
      · obtain rfl := Option.some.inj h
        exact work_setWorker hq hw (Worker.work_lt (by simp [WorkerStage.work, stage]))
      · simp at h
    · rename_i channel
      obtain rfl := Option.some.inj h
      exact work_setWorker hq hw (by simp [Worker.work, WorkerStage.work, stage, channel]; omega)
  · rename_i stage
    obtain rfl := Option.some.inj h
    exact work_setWorker hq hw (Worker.work_lt (by simp [WorkerStage.work, stage]))
  · rename_i r step rest stage
    obtain ⟨⟨result, u⟩, hu, rfl⟩ := Option.map_eq_some_iff.1 h
    have same := queues_perform hu
    have : u.work = s.work := by simp only [work, same]
    rw [← this]
    refine work_setWorker (by rw [same]; exact hq) hw (Worker.work_lt ?_)
    rw [stage]
    exact Nat.lt_of_le_of_lt (work_stageAfter r rest result) (Nat.lt_succ_self _)
  · rename_i stage
    obtain rfl := Option.some.inj h
    refine work_modifyQueue hq ?_
    simp only [TaskQueue.work, hw, Option.elim_some]
    exact Worker.work_lt (by simp [WorkerStage.work, stage])
  · simp at h

end QueueSystem

end LaneGrid
