import LaneGrid.Proofs.Clients.History
import LaneGrid.Queue.System

/-!
Queues that several clients use at the same time. A call of a client takes several steps, between
which other clients and the workers go on, in whatever order. The history is kept beside the queues
and never influences them.
-/

namespace LaneGrid

namespace QueueSystem

variable {σ : Type} {s t : QueueSystem σ} {q : Nat}

def worker? (s : QueueSystem σ) (q : Nat) : Option (Worker σ) :=
  (s.queues[q]?).bind TaskQueue.worker

def stage? (s : QueueSystem σ) (q : Nat) : Option (WorkerStage σ) :=
  (s.worker? q).map Worker.stage

/-- Whether the queue still takes calls. -/
def isOpen (s : QueueSystem σ) (q : Nat) : Bool :=
  (s.worker? q).any fun w => !w.closed

def hasStopped (s : QueueSystem σ) (q : Nat) : Bool :=
  (s.worker? q).any fun w => w.stage matches .stopped

theorem worker?_eq_some {w : Worker σ} :
    s.worker? q = some w ↔ ∃ queue, s.queues[q]? = some queue ∧ queue.worker = some w :=
  Option.bind_eq_some_iff

theorem hasStopped_iff :
    s.hasStopped q = true ↔ ∃ w, s.worker? q = some w ∧ w.stage = .stopped := by
  refine Option.any_eq_true _ _ |>.trans (exists_congr fun w => and_congr_right fun _ => ?_)
  cases w.stage <;> simp

/-- A step of a task that has to wait. -/
inductive Waits (s : QueueSystem σ) : TaskStep σ → Prop
  | pass {gate : Nat} (hclosed : s.openGates.contains gate = false) : Waits s (.pass gate)
  | await {m : Marker} (hpending : s.isComplete m = false) : Waits s (.await m)

theorem waits_of_perform_eq_none {b : Backend} {step : TaskStep σ}
    (h : s.perform b step = none) : s.Waits step := by
  cases step with
  | act effect => cases h
  | pass gate => exact .pass (by simpa [perform] using h)
  | await m => exact .await (by simpa [perform] using h)

/-- All that a worker can do. -/
inductive WorkerStep (s : QueueSystem σ) (q : Nat) (queue : TaskQueue σ) (w : Worker σ) :
    QueueSystem σ → Prop
  | stop (hstage : w.stage = .idle) (hchannel : w.channel = []) (hclosed : w.closed = true) :
      WorkerStep s q queue w (s.setWorker q { w with stage := .stopped })
  | receive {r channel} (hstage : w.stage = .idle) (hchannel : w.channel = r :: channel) :
      WorkerStep s q queue w (s.setWorker q { w with channel, stage := .running r r.task })
  | conclude {r} (hstage : w.stage = .running r []) :
      WorkerStep s q queue w (s.setWorker q { w with stage := .reporting r none })
  | perform {r step rest result t} (hstage : w.stage = .running r (step :: rest))
      (hstep : s.perform queue.backend step = some (result, t)) :
      WorkerStep s q queue w (t.setWorker q { w with stage := stageAfter r rest result })
  | report {r failure} (hstage : w.stage = .reporting r failure) :
      WorkerStep s q queue w (s.modifyQueue q fun queue =>
        { queue with
          account := queue.account.complete failure
          worker := some { w with stage := .idle } })

theorem workerStep_eq_some : s.workerStep q = some t ↔ ∃ queue w,
    s.queues[q]? = some queue ∧ queue.worker = some w ∧ s.WorkerStep q queue w t := by
  constructor
  · intro h
    obtain ⟨queue, hq, h⟩ := Option.bind_eq_some_iff.mp h
    obtain ⟨w, hw, h⟩ := Option.bind_eq_some_iff.mp h
    refine ⟨queue, w, hq, hw, ?_⟩
    split at h
    · rename_i hstage
      split at h
      · rename_i hchannel
        split at h
        · rename_i hclosed
          exact Option.some.inj h ▸ .stop hstage hchannel hclosed
        · cases h
      · rename_i hchannel
        exact Option.some.inj h ▸ .receive hstage hchannel
    · rename_i hstage
      exact Option.some.inj h ▸ .conclude hstage
    · rename_i hstage
      obtain ⟨⟨r, u⟩, hu, rfl⟩ := Option.map_eq_some_iff.mp h
      exact .perform hstage hu
    · rename_i hstage
      exact Option.some.inj h ▸ .report hstage
    · cases h
  · rintro ⟨queue, w, hq, hw, h⟩
    rw [workerStep, hq]
    simp only [Option.bind_eq_bind, Option.bind_some, hw]
    cases h with
    | stop hstage hchannel hclosed => rw [hstage, hchannel, if_pos hclosed]
    | receive hstage hchannel => rw [hstage, hchannel]
    | conclude hstage => rw [hstage]
    | perform hstage hstep =>
        rw [hstage]
        simp only [hstep, Option.map_some]
    | report hstage => rw [hstage]

theorem getElem?_modifyQueue (s : QueueSystem σ) (q q' : Nat) (f : TaskQueue σ → TaskQueue σ) :
    (s.modifyQueue q f).queues[q']? =
      if q = q' then (s.queues[q']?).map f else s.queues[q']? := by
  rw [modifyQueue, List.getElem?_modify]
  split
  · rfl
  · exact Option.map_id'

theorem length_modifyQueue (s : QueueSystem σ) (q : Nat) (f : TaskQueue σ → TaskQueue σ) :
    (s.modifyQueue q f).queues.length = s.queues.length :=
  List.length_modify f s.queues q

theorem map_worker?_modifyQueue {α : Type} (g : Worker σ → α) {f : TaskQueue σ → TaskQueue σ}
    (hf : ∀ queue, s.queues[q]? = some queue → (f queue).worker.map g = queue.worker.map g)
    (q' : Nat) : ((s.modifyQueue q f).worker? q').map g = (s.worker? q').map g := by
  rw [worker?, worker?, getElem?_modifyQueue]
  split
  · rename_i heq
    subst heq
    cases hq : s.queues[q]? with
    | none => rfl
    | some queue => exact hf queue hq
  · rfl

theorem stage?_modifyQueue {queue : TaskQueue σ} {f : TaskQueue σ → TaskQueue σ}
    (hq : s.queues[q]? = some queue) :
    (s.modifyQueue q f).stage? q = (f queue).worker.map Worker.stage := by
  rw [stage?, worker?, getElem?_modifyQueue, if_pos rfl, hq]
  rfl

theorem length_workerStep {queue : TaskQueue σ} {w : Worker σ} (hstep : s.WorkerStep q queue w t) :
    t.queues.length = s.queues.length := by
  cases hstep with
  | stop | receive | conclude | report => exact length_modifyQueue _ _ _
  | perform _ hperform =>
      exact (length_modifyQueue _ _ _).trans (congrArg List.length (queues_perform hperform))

theorem worker?_workerStep_of_ne {queue : TaskQueue σ} {w : Worker σ} {q' : Nat}
    (hstep : s.WorkerStep q queue w t) (hne : q ≠ q') : t.worker? q' = s.worker? q' := by
  have hsame : ∀ {u : QueueSystem σ} (f : TaskQueue σ → TaskQueue σ), u.queues = s.queues →
      (u.modifyQueue q f).worker? q' = s.worker? q' := by
    intro u f hu
    rw [worker?, getElem?_modifyQueue, if_neg hne, hu]
    rfl
  cases hstep with
  | stop | receive | conclude | report => exact hsame _ rfl
  | perform _ hperform => exact hsame _ (queues_perform hperform)

end QueueSystem

/-- What a client is about to do. -/
inductive ClientStage (σ : Type) where
  | free
  /-- The task is counted, and still has to be sent. -/
  | sending (submission : Submission σ)
  /-- Waits for a marker. A client that waits for a whole queue asks for the failure after that. -/
  | awaiting (marker : Marker) (asks : Bool)
  | asking (queue : Nat)
  /-- Has given up a queue and waits for its worker. -/
  | leaving (queue : Nat)

namespace ClientStage

variable {σ : Type}

/-- The task of a queue that the client still has to send, if there is one. -/
def unsent (queue : Nat) : ClientStage σ → List (Submission σ)
  | sending r => if r.queue = queue then [r] else []
  | _ => []

/-- A queue can be given up only when no call on it is under way. -/
def Uses (queue : Nat) : ClientStage σ → Prop
  | free => False
  | sending r => r.queue = queue
  | awaiting m asks => asks = true ∧ m.queue = queue
  | asking q | leaving q => q = queue

end ClientStage

structure SharedQueues (σ : Type) where
  system : QueueSystem σ
  clients : List (ClientStage σ)
  /-- How many calls have begun that hand over a task. -/
  calls : Nat
  history : History σ

namespace SharedQueues

variable {σ : Type}

/-- Queues with workers before anybody has called. -/
def start (backends : List Backend) (clients : Nat) (openGates : List Nat) (state : σ) :
    SharedQueues σ where
  system := ⟨backends.map TaskQueue.working, openGates, state⟩
  clients := List.replicate clients .free
  calls := 0
  history := []

/-- A client that is free begins a call. -/
inductive Call (s : SharedQueues σ) (client : Nat) : SharedQueues σ → Prop
  | enqueue {q : Nat} {task : QueueTask σ} (hfree : s.clients[client]? = some .free)
      (hopen : s.system.isOpen q = true)
      (hmarkers : ∀ m, .await m ∈ task → .recorded m ∈ s.history) :
      Call s client {
        system := s.system.submit q
        clients := s.clients.set client (.sending ⟨s.calls, q, task⟩)
        calls := s.calls + 1
        history := s.history ++ [.submitted ⟨s.calls, q, task⟩] }
  | record {q : Nat} {m : Marker} (hfree : s.clients[client]? = some .free)
      (hopen : s.system.isOpen q = true) (hm : s.system.record q = some m) :
      Call s client { s with history := s.history ++ [.recorded m] }
  | wait {q : Nat} {m : Marker} (hfree : s.clients[client]? = some .free)
      (hopen : s.system.isOpen q = true) (hm : s.system.record q = some m) :
      Call s client { s with
        clients := s.clients.set client (.awaiting m true)
        history := s.history ++ [.recorded m] }
  | awaitMarker {m : Marker} (hfree : s.clients[client]? = some .free)
      (hm : .recorded m ∈ s.history) :
      Call s client { s with clients := s.clients.set client (.awaiting m false) }
  | drop {q : Nat} (hfree : s.clients[client]? = some .free) (hopen : s.system.isOpen q = true)
      (hunused : ∀ stage ∈ s.clients, ¬stage.Uses q) :
      Call s client { s with
        system := s.system.close q
        clients := s.clients.set client (.leaving q) }

/-- A client goes on with its call. -/
inductive ClientMove (s : SharedQueues σ) (client : Nat) : SharedQueues σ → Prop
  | send {r : Submission σ} (hstage : s.clients[client]? = some (.sending r))
      (hlive : s.system.hasStopped r.queue = false) :
      ClientMove s client { s with
        system := s.system.send r
        clients := s.clients.set client .free
        history := s.history ++ [.sent r] }
  | refuse {r : Submission σ} (hstage : s.clients[client]? = some (.sending r))
      (hstopped : s.system.hasStopped r.queue = true) :
      ClientMove s client { s with
        system := s.system.complete r.queue none
        clients := s.clients.set client .free
        history := s.history ++ [.refused r] }
  | pass {m : Marker} {asks : Bool} (hstage : s.clients[client]? = some (.awaiting m asks))
      (hm : s.system.isComplete m = true) :
      ClientMove s client { s with
        clients := s.clients.set client (if asks then .asking m.queue else .free) }
  | ask {q : Nat} {queue : TaskQueue σ} (hstage : s.clients[client]? = some (.asking q))
      (hq : s.system.queues[q]? = some queue) :
      ClientMove s client { s with
        system := s.system.modifyQueue q fun queue =>
          { queue with account := queue.account.takeFailure.2 }
        clients := s.clients.set client .free
        history := s.history ++ [.answered client q queue.account.takeFailure.1] }
  | leave {q : Nat} (hstage : s.clients[client]? = some (.leaving q))
      (hstopped : s.system.hasStopped q = true) :
      ClientMove s client { s with
        clients := s.clients.set client .free
        history := s.history ++ [.dropped q] }

/-- What is told of a worker's next step. -/
def news? (s : SharedQueues σ) (q : Nat) : Option (Occurrence σ) := do
  let queue ← s.system.queues[q]?
  let w ← queue.worker
  match w.stage with
  | .idle => w.channel.head?.map .started
  | .running r (step :: _) =>
    (s.system.perform queue.backend step).map fun (result, _) => .performed r result
  | .reporting r failure => some (.finished r failure)
  | .running _ [] | .stopped => none

/-- The worker of a queue goes on. -/
def WorkerMove (s : SharedQueues σ) (q : Nat) (s' : SharedQueues σ) : Prop :=
  ∃ system, s.system.workerStep q = some system ∧
    s' = { s with system, history := s.history ++ (s.news? q).toList }

/-- Something that has begun goes on. -/
def Move (s s' : SharedQueues σ) : Prop :=
  (∃ client, s.ClientMove client s') ∨ ∃ q, s.WorkerMove q s'

inductive Reachable (s₀ : SharedQueues σ) : SharedQueues σ → Prop
  | refl : Reachable s₀ s₀
  | call {s s' : SharedQueues σ} {client : Nat} (h : Reachable s₀ s) (hcall : s.Call client s') :
      Reachable s₀ s'
  | move {s s' : SharedQueues σ} (h : Reachable s₀ s) (hmove : s.Move s') : Reachable s₀ s'

/-- A run of all clients and workers in which the worker of one queue takes `n` steps. -/
inductive Run (q : Nat) : Nat → SharedQueues σ → SharedQueues σ → Prop
  | refl {s : SharedQueues σ} : Run q 0 s s
  | call {n client : Nat} {s s' s'' : SharedQueues σ} (h : Run q n s s')
      (hcall : s'.Call client s'') : Run q n s s''
  | client {n client : Nat} {s s' s'' : SharedQueues σ} (h : Run q n s s')
      (hmove : s'.ClientMove client s'') : Run q n s s''
  | other {n q' : Nat} {s s' s'' : SharedQueues σ} (h : Run q n s s') (hne : q' ≠ q)
      (hmove : s'.WorkerMove q' s'') : Run q n s s''
  | worker {n : Nat} {s s' s'' : SharedQueues σ} (h : Run q n s s')
      (hmove : s'.WorkerMove q s'') : Run q (n + 1) s s''

end SharedQueues

end LaneGrid
