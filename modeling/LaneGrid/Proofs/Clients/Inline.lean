import LaneGrid.Proofs.Clients.Promises
import LaneGrid.Queue.Client

namespace LaneGrid

namespace QueueSystem

variable {σ : Type} {s t : QueueSystem σ} {q : Nat} {queue : TaskQueue σ}

theorem getElem?_workerStep {w : Worker σ} {worked : TaskQueue σ} {q' : Nat}
    (hq : s.queues[q]? = some queue) (hnone : queue.worker = none)
    (hworked : s.queues[q']? = some worked) (hw : worked.worker = some w)
    (hstep : s.WorkerStep q' worked w t) : t.queues[q]? = some queue := by
  have hne : q' ≠ q := by
    rintro rfl
    rw [Option.some.inj (hq.symm.trans hworked), hw] at hnone
    cases hnone
  have hsame : ∀ {u : QueueSystem σ} (f : TaskQueue σ → TaskQueue σ), u.queues = s.queues →
      (u.modifyQueue q' f).queues[q]? = some queue := by
    intro u f hu
    rw [getElem?_modifyQueue, if_neg hne, hu, hq]
  cases hstep with
  | stop | receive | conclude | report => exact hsame _ rfl
  | perform _ hperform => exact hsame _ (queues_perform hperform)

theorem getElem?_settle (hq : s.queues[q]? = some queue) (hnone : queue.worker = none) :
    s.settle.queues[q]? = some queue := by
  fun_induction settle s with
  | case1 s t hadvance ih =>
      apply ih
      obtain ⟨q', -, hstep⟩ := List.exists_of_findSome?_eq_some hadvance
      obtain ⟨worked, w, hworked, hw, hstep⟩ := workerStep_eq_some.mp hstep
      exact getElem?_workerStep hq hnone hworked hw hstep
  | case2 => exact hq

theorem queues_runHere {b : Backend} {task : QueueTask σ} {r : Outcome Unit}
    (h : s.runHere b task = some (r, t)) : t.queues = s.queues := by
  induction task generalizing s with
  | nil =>
      cases h
      rfl
  | cons step rest ih =>
      obtain ⟨⟨r', u⟩, hstep, h⟩ := Option.bind_eq_some_iff.mp h
      have hsame := queues_perform hstep
      split at h
      · rename_i hok
        cases hok
        exact (ih h).trans hsame
      · cases h
        exact hsame

end QueueSystem

/-- An event, and how many tasks had returned and how many had panicked when it was recorded. -/
structure InlineEvent where
  marker : Marker
  returned : Nat
  panicked : Nat

/-- A client that calls one queue. It catches the panics of its tasks and goes on. -/
structure InlineClient (σ : Type) where
  system : QueueSystem σ
  /-- Tasks that have come back with an outcome, good or bad. -/
  returned : Nat
  panicked : Nat
  events : List InlineEvent

namespace InlineClient

variable {σ : Type}

def start (s : QueueSystem σ) : InlineClient σ :=
  ⟨s, 0, 0, []⟩

/-- After a task has come to its end. -/
def counted (c : InlineClient σ) (s : QueueSystem σ) : Outcome Unit → InlineClient σ
  | .error (.fault _) => { c with system := s, panicked := c.panicked + 1 }
  | _ => { c with system := s, returned := c.returned + 1 }

/-- The calls of a client on its queue. -/
inductive Call (q : Nat) (c : InlineClient σ) : InlineClient σ → Prop
  | enqueue {task : QueueTask σ} {r : Outcome Unit} {s : QueueSystem σ}
      (h : c.system.enqueue q task = some (r, s)) : Call q c (c.counted s r)
  | record {m : Marker} (h : c.system.record q = some m) :
      Call q c { c with events := ⟨m, c.returned, c.panicked⟩ :: c.events }
  | isEmpty {answer : Bool} (h : c.system.isEmpty q = some answer) : Call q c c
  | wait {r : Except Error Unit} {s : QueueSystem σ} (h : c.system.wait q = some (r, s)) :
      Call q c { c with system := s }
  | waitFor {e : InlineEvent} {s : QueueSystem σ} (he : e ∈ c.events)
      (h : c.system.waitFor q e.marker = some s) : Call q c { c with system := s }

def Run (q : Nat) : InlineClient σ → InlineClient σ → Prop :=
  Relation.ReflTransGen (Call q)

/-- The queue has counted every task as submitted, and those as completed that have returned. -/
structure Sound (b : Backend) (q : Nat) (c : InlineClient σ) : Prop where
  queue_eq : c.system.queues[q]? = some ⟨b, ⟨c.returned + c.panicked, c.returned, none⟩, none⟩
  marker_eq : ∀ e ∈ c.events, e.marker = ⟨q, e.returned + e.panicked⟩
  returned_le : ∀ e ∈ c.events, e.returned ≤ c.returned

section

variable {b : Backend} {q : Nat} {c c' : InlineClient σ}

theorem sound_start {s : QueueSystem σ} (hq : s.queues[q]? = some (.blocking b)) :
    (start s).Sound b q :=
  ⟨hq, nofun, nofun⟩

namespace Sound

theorem isComplete_eq (h : c.Sound b q) (target : Nat) :
    c.system.isComplete ⟨q, target⟩ = decide (target ≤ c.returned) := by
  rw [QueueSystem.isComplete, h.queue_eq]
  rfl

theorem record_eq (h : c.Sound b q) :
    c.system.record q = some ⟨q, c.returned + c.panicked⟩ := by
  rw [QueueSystem.record, h.queue_eq]
  rfl

theorem wait_eq (h : c.Sound b q) : c.system.wait q = some (.ok (), c.system) := by
  rw [QueueSystem.wait, h.queue_eq]
  rfl

theorem isEmpty_eq (h : c.Sound b q) : c.system.isEmpty q = some true := by
  rw [QueueSystem.isEmpty, h.queue_eq]
  rfl

theorem waitFor_eq (h : c.Sound b q) (m : Marker) :
    c.system.waitFor q m = if c.system.isComplete m then some c.system else none := by
  rw [QueueSystem.waitFor, h.queue_eq]
  rfl

theorem enqueue_eq (h : c.Sound b q) {task : QueueTask σ} {r : Outcome Unit} {t : QueueSystem σ}
    (hrun : (c.system.submit q).runHere b task = some (r, t)) :
    ∃ s, c.system.enqueue q task = some (r, s) ∧ (c.counted s r).Sound b q := by
  have hqueue : t.queues[q]? =
      some ⟨b, ⟨c.returned + c.panicked + 1, c.returned, none⟩, none⟩ := by
    rw [QueueSystem.queues_runHere hrun, QueueSystem.submit, QueueSystem.getElem?_modifyQueue,
      if_pos rfl, h.queue_eq]
    rfl
  have hcomplete : (t.complete q none).queues[q]? =
      some ⟨b, ⟨c.returned + c.panicked + 1, c.returned + 1, none⟩, none⟩ := by
    rw [QueueSystem.complete, QueueSystem.getElem?_modifyQueue, if_pos rfl, hqueue]
    rfl
  have hreturned : ({ c with
      system := (t.complete q none).settle, returned := c.returned + 1 } : InlineClient σ).Sound b q := by
    refine ⟨?_, h.marker_eq, fun e he => Nat.le_succ_of_le (h.returned_le e he)⟩
    rw [Nat.add_right_comm]
    exact QueueSystem.getElem?_settle hcomplete rfl
  rw [QueueSystem.enqueue, h.queue_eq]
  simp only [Option.bind_eq_bind, Option.bind_some, hrun]
  rcases r with (f | e) | ⟨⟩
  · exact ⟨_, rfl, ⟨QueueSystem.getElem?_settle hqueue rfl, h.marker_eq, h.returned_le⟩⟩
  · exact ⟨_, rfl, hreturned⟩
  · exact ⟨_, rfl, hreturned⟩

theorem exists_runHere (h : c.Sound b q) {task : QueueTask σ} {p : Outcome Unit × QueueSystem σ}
    (henqueue : c.system.enqueue q task = some p) :
    ∃ r t, (c.system.submit q).runHere b task = some (r, t) := by
  rw [QueueSystem.enqueue, h.queue_eq] at henqueue
  simp only [Option.bind_eq_bind, Option.bind_some] at henqueue
  obtain ⟨⟨r, t⟩, hrun, -⟩ := Option.bind_eq_some_iff.mp henqueue
  exact ⟨r, t, hrun⟩

theorem call (h : c.Sound b q) (hcall : c.Call q c') : c'.Sound b q := by
  cases hcall with
  | enqueue henqueue =>
      obtain ⟨r', t, hrun⟩ := h.exists_runHere henqueue
      obtain ⟨s', henqueue', hsound⟩ := h.enqueue_eq hrun
      cases henqueue.symm.trans henqueue'
      exact hsound
  | record hrecord =>
      obtain rfl := Option.some.inj (h.record_eq.symm.trans hrecord)
      refine ⟨h.queue_eq, ?_, ?_⟩
      · intro e he
        rcases List.mem_cons.mp he with rfl | he
        · rfl
        · exact h.marker_eq e he
      · intro e he
        rcases List.mem_cons.mp he with rfl | he
        · exact Nat.le_refl _
        · exact h.returned_le e he
  | isEmpty => exact h
  | wait hwait =>
      cases h.wait_eq.symm.trans hwait
      exact h
  | waitFor he hwait =>
      rw [h.waitFor_eq] at hwait
      split at hwait
      · cases hwait
        exact h
      · cases hwait

end Sound

theorem Run.sound {s : QueueSystem σ} (hq : s.queues[q]? = some (.blocking b))
    (h : Run q (start s) c) : c.Sound b q := by
  induction h with
  | refl => exact sound_start hq
  | tail _ hcall ih => exact ih.call hcall

/-- What a client can rely on when a queue runs its tasks at once. Every task that panics leaves
the count of completed tasks one behind for ever. Without panics the counts agree, and every
event is complete as soon as it is recorded and stays so. After a panic none is when it is
recorded; it becomes complete when as many tasks have returned since as had panicked before, and
waiting for it until then never ends. The queue calls itself empty all the time. -/
theorem events_lag_by_panics {s : QueueSystem σ} (hq : s.queues[q]? = some (.blocking b))
    (hrun : Run q (start s) c) :
    (∃ queue, c.system.queues[q]? = some queue ∧
      queue.account.submitted = queue.account.completed + c.panicked ∧
      c.system.isEmpty q = some true ∧ (queue.account.isBalanced = true ↔ c.panicked = 0)) ∧
    (∃ m, c.system.record q = some m ∧ (c.system.isComplete m = true ↔ c.panicked = 0)) ∧
    (∀ e ∈ c.events,
      (c.system.isComplete e.marker = true ↔ e.panicked ≤ c.returned - e.returned) ∧
        c.system.waitFor q e.marker =
          if c.system.isComplete e.marker then some c.system else none) ∧
    c.system.wait q = some (.ok (), c.system) ∧
    ∀ task r t, (c.system.submit q).runHere b task = some (r, t) →
      ∃ s', c.system.enqueue q task = some (r, s') := by
  have h := hrun.sound hq
  refine ⟨⟨_, h.queue_eq, rfl, h.isEmpty_eq, ?_⟩, ⟨_, h.record_eq, ?_⟩, ?_, h.wait_eq, ?_⟩
  · simp [TaskAccount.isBalanced]
  · rw [h.isComplete_eq, decide_eq_true_iff]
    omega
  · intro e he
    refine ⟨?_, h.waitFor_eq e.marker⟩
    have hle := h.returned_le e he
    rw [h.marker_eq e he, h.isComplete_eq, decide_eq_true_iff]
    omega
  · intro task r t htask
    obtain ⟨s', henqueue, -⟩ := h.enqueue_eq htask
    exact ⟨s', henqueue⟩

end

/-- A queue without a worker that nobody has called yet. -/
def lonelyQueue : QueueSystem Unit :=
  ⟨[.blocking SharedQueues.plainBackend], [], ()⟩

theorem exists_run_boom :
    ∃ c, Run 0 (start lonelyQueue) c ∧ c.returned = 0 ∧ c.panicked = 1 := by
  have h := sound_start (s := lonelyQueue) (q := 0) rfl
  have hrun : (lonelyQueue.submit 0).runHere SharedQueues.plainBackend SharedQueues.boom =
      some (.error (.fault (.raised (some "boom"))), lonelyQueue.submit 0) := rfl
  obtain ⟨s, henqueue, -⟩ := h.enqueue_eq hrun
  exact ⟨_, .single (.enqueue henqueue), rfl, rfl⟩

/-- After one panic an event is not complete when it is recorded. -/
theorem events_lag_boom :
    ∃ c, Run 0 (start lonelyQueue) c ∧ c.panicked = 1 ∧
      ∃ m, c.system.record 0 = some m ∧ ¬ c.system.isComplete m = true := by
  obtain ⟨c, hrun, -, hpanicked⟩ := exists_run_boom
  obtain ⟨-, ⟨m, hrecord, hcomplete⟩, -⟩ := events_lag_by_panics rfl hrun
  refine ⟨c, hrun, hpanicked, m, hrecord, ?_⟩
  rw [hcomplete, hpanicked]
  decide

/-- So it is not true that events of such a queue are complete when they are recorded. -/
theorem not_forall_complete_when_recorded :
    ¬ ∀ (s : QueueSystem Unit) (b : Backend) (q : Nat) (c : InlineClient Unit),
      s.queues[q]? = some (.blocking b) → Run q (start s) c →
        ∀ m, c.system.record q = some m → c.system.isComplete m = true := by
  intro hall
  obtain ⟨c, hrun, -, hpanicked⟩ := exists_run_boom
  have h := hrun.sound rfl
  have hcomplete := hall lonelyQueue _ 0 c rfl hrun _ h.record_eq
  rw [h.isComplete_eq, decide_eq_true_iff, hpanicked] at hcomplete
  omega

end InlineClient

end LaneGrid
