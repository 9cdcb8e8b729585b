import LaneGrid.Proofs.Clients.Effects
import LaneGrid.Proofs.Clients.Progress

namespace LaneGrid.SharedQueues

variable {σ : Type} {s : SharedQueues σ} {backends : List Backend} {state : σ}

/-- What holds of queues over `backends` that began with `state`. -/
structure Promises (backends : List Backend) (state : σ) (s : SharedQueues σ) : Prop where
  /-- The call is never over without a worker that will run the task. -/
  accepted : ∀ r, .refused r ∉ s.history
  /-- No task runs twice, tasks run in the order in which they were sent, and one at a time. -/
  once : ∀ q, (s.history.reached .sent q).Nodup ∧
    s.history.reached .started q <+: s.history.reached .sent q ∧
    ∃ running, s.history.reached .started q = s.history.reached .finished q ++ running ∧
      running.length ≤ 1
  /-- A task that is over has come to its end, step by step. -/
  ends : ∀ r failure, .finished r failure ∈ s.history → r.Ends (s.history.results r) failure
  /-- The state is what the steps that were performed have left, each acting once. -/
  effects : s.history.Leads backends state s.system.state
  /-- Where only one queue has tasks that start, they act one after the other, each to its end. -/
  inTurn : ∀ q b, backends[q]? = some b → (∀ r, .started r ∈ s.history → r.queue = q) →
    s.history.reached .started q = s.history.reached .finished q →
      Submission.runAll b state (s.history.reached .finished q) =
        (s.history.failures q, s.system.state)
  /-- A task that was handed over before the call for another one began runs first. -/
  inOrder : ∀ earlier between later r r',
    s.history = earlier ++ .submitted r' :: between ++ .started r' :: later →
      .sent r ∈ earlier → r.queue = r'.queue →
        ∃ failure, .finished r failure ∈ earlier ++ .submitted r' :: between
  /-- A marker is complete only after all tasks that were handed over before it was recorded. -/
  markers : ∀ earlier later m r, s.history = earlier ++ .recorded m :: later →
    .sent r ∈ earlier → r.queue = m.queue → s.system.isComplete m = true →
      ∃ failure, .finished r failure ∈ s.history
  counts : ∀ (q : Nat) (queue : TaskQueue σ), s.system.queues[q]? = some queue →
    queue.account.completed ≤ queue.account.submitted
  /-- A client that has waited was told of the first failure since the last answer. -/
  answers : ∀ (earlier later : History σ) (client q : Nat) (answer : Except Error Unit),
    s.history = earlier ++ .answered client q answer :: later → answer = earlier.answer q
  /-- A queue is given up after all the tasks that were sent to it. -/
  dropped : ∀ earlier later q r, s.history = earlier ++ .dropped q :: later →
    .sent r ∈ earlier → r.queue = q → ∃ failure, .finished r failure ∈ earlier
  /-- A worker with unfinished tasks that do not wait can go on. -/
  goesOn : ∀ r, .sent r ∈ s.history → (∀ failure, .finished r failure ∉ s.history) →
    (∀ r', .sent r' ∈ s.history → r'.queue = r.queue → r'.Returns) →
      ∃ s', s.WorkerMove r.queue s'
  /-- A worker that goes on finishes all the tasks sent so far, whatever the others do. -/
  finishes : ∀ q, ∃ limit, ∀ n s', Run q n s s' → limit ≤ n → ∀ r, .sent r ∈ s.history →
    r.queue = q → ∃ failure, .finished r failure ∈ s'.history

namespace Sound

variable {m : Marker} {r : Submission σ}

theorem target_le_of_isComplete (hs : s.Sound) (hm : s.system.isComplete m = true) :
    m.target ≤ (s.history.reached .finished m.queue).length := by
  obtain ⟨queue, hq, hreaches⟩ := (Option.any_eq_true _ _).mp hm
  obtain ⟨w, -, hd⟩ := hs.books m.queue queue hq
  rw [TaskAccount.reaches, decide_eq_true_eq, hd.completed_eq] at hreaches
  exact hreaches

theorem exists_workerMove_of_returns (hs : s.Sound) (hr : .sent r ∈ s.history)
    (hnot : ∀ failure, .finished r failure ∉ s.history)
    (hreturns : ∀ r', .sent r' ∈ s.history → r'.queue = r.queue → r'.Returns) :
    ∃ s', s.WorkerMove r.queue s' := by
  rcases hs.exists_workerMove hr hnot with hmove | ⟨r', step, hruns, hstep, hwaits⟩
  · exact hmove
  · have hstarted : r' ∈ s.history.reached .started r.queue := by
      rw [hruns]
      exact List.mem_append_right _ List.mem_cons_self
    obtain ⟨hsent, hq⟩ := History.mem_sent.mp ((hs.lawful.isPrefix r.queue).2.subset hstarted)
    obtain ⟨effect, rfl⟩ := hreturns r' hsent hq step hstep
    cases hwaits

theorem promises (hs : s.Sound) (he : s.Effective backends state) :
    s.Promises backends state where
  accepted r hr := by
    obtain ⟨earlier, later, heq⟩ := List.append_of_mem hr
    have hall := hs.lawful
    rw [heq] at hall
    cases hall.follows
  once q := ⟨hs.lawful.nodup_sent q, (hs.lawful.isPrefix q).2, hs.lawful.exists_running q⟩
  ends r failure hr := hs.lawful.ends_of_finished hr
  effects := he.leads
  inTurn q b hb hone hfree := he.leads.runAll_eq hs.lawful hb hone hfree
  inOrder earlier between later r r' heq hr hq := (heq ▸ hs.lawful).finished_of_sent_before hr hq
  markers earlier later m r heq hr hq hm := by
    have hle := hs.target_le_of_isComplete hm
    have hall := hs.lawful
    rw [heq] at hall hle ⊢
    exact hall.finished_of_target_le hr hq hle
  counts q queue hq := by
    obtain ⟨w, -, hd⟩ := hs.books q queue hq
    have hbegins := hs.lawful.isPrefix q
    rw [hd.submitted_eq, hd.completed_eq]
    exact (hbegins.1.trans hbegins.2).length_le.trans (hs.lawful.length_sent_le q)
  answers earlier later client q answer heq := by
    have hall := hs.lawful
    rw [heq] at hall
    cases hall.follows
    rfl
  dropped earlier later q r heq hr hq := by
    have hall := hs.lawful
    rw [heq] at hall
    cases hall.follows with
    | dropped hfinished =>
        exact (History.mem_finished.mp (hfinished ▸ History.mem_sent.mpr ⟨hr, hq⟩)).1
  goesOn r hr hnot hreturns := hs.exists_workerMove_of_returns hr hnot hreturns
  finishes q := by
    refine ⟨s.distance q (s.history.reached .sent q).length + 1, ?_⟩
    intro n s' hrun hn r hr hq
    exact hrun.finished_of_sent hs hr hq hn

end Sound

theorem promises_of_reachable {clients : Nat} {openGates : List Nat}
    (h : (start backends clients openGates state).Reachable s) : s.Promises backends state :=
  (h.sound (.start backends clients openGates state)).promises h.effective

def plainBackend : Backend :=
  .serial (.host .standard 0)

def boom : QueueTask Unit :=
  [.act fun _ state => (.error (.fault (.raised (some "boom"))), state)]

/-- A task that notes its steps, and panics in the second of three. -/
def noisyBoom : QueueTask (List Nat) :=
  [.act fun _ notes => (.ok (), notes ++ [1]),
    .act fun _ notes => (.error (.fault (.raised (some "boom"))), notes ++ [2]),
    .act fun _ notes => (.ok (), notes ++ [3])]

def noisy : QueueTask (List Nat) :=
  [.act fun _ notes => (.ok (), notes ++ [4])]

/-- One client sends a task that panics and then another one, and a second client waits for both. -/
theorem promises_boom : ∃ s, (start [plainBackend] 2 [] []).Reachable s ∧
    .answered 1 0 (.error (.execution "queued task panicked: boom")) ∈ s.history ∧
      s.system.state = [1, 2, 4] ∧ s.Promises [plainBackend] [] := by
  have h₁ := Reachable.call (@Reachable.refl (List Nat) (start [plainBackend] 2 [] []))
    (@Call.enqueue (List Nat) _ 0 0 noisyBoom rfl rfl (by simp [noisyBoom]))
  have h₂ := h₁.move (.inl ⟨0, .send rfl rfl⟩)
  have h₃ := h₂.call (@Call.enqueue (List Nat) _ 0 0 noisy rfl rfl (by simp [noisy]))
  have h₄ := h₃.move (.inl ⟨0, .send rfl rfl⟩)
  have h₅ := h₄.call (@Call.wait (List Nat) _ 1 0 ⟨0, 2⟩ rfl rfl rfl)
  -- The worker receives a task, performs its steps and counts it, twice.
  have h₆ := h₅.move (.inr ⟨0, _, rfl, rfl⟩)
  have h₇ := h₆.move (.inr ⟨0, _, rfl, rfl⟩)
  have h₈ := h₇.move (.inr ⟨0, _, rfl, rfl⟩)
  have h₉ := h₈.move (.inr ⟨0, _, rfl, rfl⟩)
  have h₁₀ := h₉.move (.inr ⟨0, _, rfl, rfl⟩)
  have h₁₁ := h₁₀.move (.inr ⟨0, _, rfl, rfl⟩)
  have h₁₂ := h₁₁.move (.inr ⟨0, _, rfl, rfl⟩)
  have h₁₃ := h₁₂.move (.inr ⟨0, _, rfl, rfl⟩)
  have h₁₄ := h₁₃.move (.inl ⟨1, .pass rfl rfl⟩)
  have h₁₅ := h₁₄.move (.inl ⟨1, .ask rfl rfl⟩)
  refine ⟨_, h₁₅, ?_, rfl, promises_of_reachable h₁₅⟩
  exact List.mem_append_right _ List.mem_cons_self

end LaneGrid.SharedQueues
