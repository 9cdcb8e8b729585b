import LaneGrid.Proofs.Clients.Sound

/-!
What tasks do to the state that they share. `SharedQueues.Reachable.leads` says that a state comes
from the steps that were performed, and `History.Leads.runAll_eq` that tasks of a single queue run
one after the other.
-/

namespace LaneGrid

variable {σ : Type} {b : Backend} {r : Submission σ} {now mid state : σ}

/-- What a step does to the state, once it does not have to wait. -/
def TaskStep.run (b : Backend) (now : σ) : TaskStep σ → Outcome Unit × σ
  | act effect => effect b now
  | pass _ | await _ => (.ok (), now)

/-- A task from its first step to its last, or to the first one that fails. -/
def QueueTask.run (b : Backend) (now : σ) : QueueTask σ → Option Error × σ
  | [] => (none, now)
  | step :: rest =>
    match step.run b now with
    | (.ok (), next) => run b next rest
    | (.error f, next) => (some f.ofTask, next)

namespace Submission

/-- Tasks one after the other, each of them to its end, with the failures that they report. -/
def runAll (b : Backend) (state : σ) (tasks : List (Submission σ)) : List (Option Error) × σ :=
  tasks.foldl (fun (failures, now) r =>
    let (failure, next) := QueueTask.run b now r.task
    (failures ++ [failure], next)) ([], state)

theorem runAll_concat {tasks : List (Submission σ)} {failures : List (Option Error)}
    {failure : Option Error} {next : σ} (hall : runAll b state tasks = (failures, now))
    (hrun : QueueTask.run b now r.task = (failure, next)) :
    runAll b state (tasks ++ [r]) = (failures ++ [failure], next) := by
  rw [runAll] at hall
  rw [runAll, List.foldl_concat, hall]
  simp only [hrun]

/-- The first steps of a task, and their results. -/
inductive Begins (b : Backend) (r : Submission σ) (now : σ) : List (Outcome Unit) → σ → Prop
  | nil : Begins b r now [] now
  | concat {results : List (Outcome Unit)} {mid next : σ} {step : TaskStep σ}
      {result : Outcome Unit} (hbegins : Begins b r now results mid)
      (hstep : r.task[results.length]? = some step) (hrun : step.run b mid = (result, next)) :
      Begins b r now (results ++ [result]) next

theorem begins_nil_iff : r.Begins b now [] mid ↔ mid = now := by
  constructor
  · intro h
    generalize heq : [] = all at h
    cases h with
    | nil => rfl
    | concat => simp at heq
  · rintro rfl
    exact .nil

theorem begins_concat_iff {results : List (Outcome Unit)} {result : Outcome Unit} {next : σ} :
    r.Begins b now (results ++ [result]) next ↔ ∃ mid step, r.Begins b now results mid ∧
      r.task[results.length]? = some step ∧ step.run b mid = (result, next) := by
  constructor
  · intro h
    generalize heq : results ++ [result] = all at h
    cases h with
    | nil => simp at heq
    | concat hbegins hstep hrun =>
        obtain ⟨rfl, hsame⟩ := List.append_inj' heq rfl
        cases hsame
        exact ⟨_, _, hbegins, hstep, hrun⟩
  · rintro ⟨mid, step, hbegins, hstep, hrun⟩
    exact .concat hbegins hstep hrun

theorem Begins.run_eq {n : Nat} (h : r.Begins b now (List.replicate n (.ok ())) mid) :
    QueueTask.run b now r.task = QueueTask.run b mid (r.task.drop n) := by
  induction n generalizing mid with
  | zero => rw [begins_nil_iff.mp h, List.drop_zero]
  | succ n ih =>
      rw [List.replicate_succ'] at h
      obtain ⟨before, step, hbegins, hstep, hrun⟩ := begins_concat_iff.mp h
      rw [List.length_replicate] at hstep
      rw [ih hbegins, List.drop_eq_getElem?_toList_append, hstep, Option.toList_some,
        List.singleton_append, QueueTask.run, hrun]

theorem Begins.run_of_ends {results : List (Outcome Unit)} {failure : Option Error}
    (h : r.Begins b now results mid) (hends : r.Ends results failure) :
    QueueTask.run b now r.task = (failure, mid) := by
  cases hends with
  | all => rw [h.run_eq, List.drop_length, QueueTask.run]
  | @failed n f =>
      obtain ⟨before, step, hbegins, hstep, hrun⟩ := begins_concat_iff.mp h
      rw [List.length_replicate] at hstep
      rw [hbegins.run_eq, List.drop_eq_getElem?_toList_append, hstep, Option.toList_some,
        List.singleton_append, QueueTask.run, hrun]

end Submission

/-- The failure of a task that is over, if it is one of the queue's. -/
def Occurrence.ended? (queue : Nat) : Occurrence σ → Option (Option Error)
  | finished r failure => if r.queue = queue then some failure else none
  | _ => none

namespace History

variable {backends : List Backend} {h : History σ} {q : Nat}

/-- What the tasks of a queue have reported that are over. -/
def failures (h : History σ) (queue : Nat) : List (Option Error) :=
  h.filterMap (Occurrence.ended? queue)

/-- A state changes only where a step is performed. The step is the next one of its task, and it
acts on what all steps before it have left. -/
inductive Leads (backends : List Backend) (state : σ) : History σ → σ → Prop
  | nil : Leads backends state [] state
  | performed {h : History σ} {now next : σ} {r : Submission σ} {b : Backend} {step : TaskStep σ}
      {result : Outcome Unit} (hbefore : Leads backends state h now)
      (hb : backends[r.queue]? = some b) (hstep : r.task[(h.results r).length]? = some step)
      (hrun : step.run b now = (result, next)) :
      Leads backends state (h ++ [.performed r result]) next
  | other {h : History σ} {now : σ} {x : Occurrence σ} (hbefore : Leads backends state h now)
      (hx : ∀ r result, x ≠ .performed r result) : Leads backends state (h ++ [x]) now

theorem failures_concat_eq (h : History σ) (x : Occurrence σ) (q : Nat) :
    failures (h ++ [x]) q = h.failures q ++ (x.ended? q).toList := by
  rw [failures, List.filterMap_append, failures]
  cases hx : x.ended? q with
  | none => simp only [List.filterMap_cons, hx, List.filterMap_nil, Option.toList_none]
  | some failure => simp only [List.filterMap_cons, hx, List.filterMap_nil, Option.toList_some]

theorem failures_concat_none {x : Occurrence σ} (h : History σ) (hx : x.ended? q = none) :
    failures (h ++ [x]) q = h.failures q := by
  rw [failures_concat_eq, hx, Option.toList_none, List.append_nil]

theorem failures_concat_finished (h : History σ) (r : Submission σ) (failure : Option Error) :
    failures (h ++ [.finished r failure]) r.queue = h.failures r.queue ++ [failure] := by
  rw [failures_concat_eq, Occurrence.ended?, if_pos rfl, Option.toList_some]

/-- The state after whole tasks, and the steps of the one that runs. -/
def InTurn (b : Backend) (state : σ) (q : Nat) (h : History σ) (now : σ) : Prop :=
  ∃ base, Submission.runAll b state (h.reached .finished q) = (h.failures q, base) ∧
    ((h.reached .started q = h.reached .finished q ∧ now = base) ∨
      ∃ r, h.reached .started q = h.reached .finished q ++ [r] ∧ r.Begins b base (h.results r) now)

namespace InTurn

theorem concat_silent {x : Occurrence σ} (hturn : InTurn b state q h now)
    (hstarted : x.submission? .started = none) (hfinished : x.submission? .finished = none)
    (hresult : ∀ r, x.result? r = none) (hended : x.ended? q = none) :
    InTurn b state q (h ++ [x]) now := by
  obtain ⟨base, hall, hruns⟩ := hturn
  rw [InTurn, reached_concat_none h _ hstarted, reached_concat_none h _ hfinished,
    failures_concat_none h hended]
  simp only [results_concat_none h (hresult _)]
  exact ⟨base, hall, hruns⟩

theorem runAll_eq (hturn : InTurn b state q h now)
    (hfree : h.reached .started q = h.reached .finished q) :
    Submission.runAll b state (h.reached .finished q) = (h.failures q, now) := by
  obtain ⟨base, hall, ⟨-, rfl⟩ | ⟨r, hruns, -⟩⟩ := hturn
  · exact hall
  · rw [hfree] at hruns
    simp at hruns

theorem exists_begins (hturn : InTurn b state q h now)
    (hruns : h.reached .started q = h.reached .finished q ++ [r]) :
    ∃ base, Submission.runAll b state (h.reached .finished q) = (h.failures q, base) ∧
      r.Begins b base (h.results r) now := by
  obtain ⟨base, hall, ⟨hfree, -⟩ | ⟨r', hruns', hbegins⟩⟩ := hturn
  · rw [hruns] at hfree
    simp at hfree
  · obtain rfl := List.singleton_inj.mp (List.append_cancel_left (hruns.symm.trans hruns'))
    exact ⟨base, hall, hbegins⟩

theorem started (hturn : InTurn b state r.queue h now) (hnew : h.results r = [])
    (hfree : h.reached .finished r.queue = h.reached .started r.queue) :
    InTurn b state r.queue (h ++ [.started r]) now := by
  refine ⟨now, ?_, .inr ⟨r, ?_, ?_⟩⟩
  · rw [reached_concat_none h .finished rfl, failures_concat_none h rfl]
    exact hturn.runAll_eq hfree.symm
  · rw [reached_concat h .started rfl, reached_concat_none h .finished rfl, hfree]
  · rw [results_concat_none h rfl, hnew]
    exact .nil

theorem performed {step : TaskStep σ} {result : Outcome Unit} {next : σ}
    (hturn : InTurn b state r.queue h now)
    (hruns : h.reached .started r.queue = h.reached .finished r.queue ++ [r])
    (hstep : r.task[(h.results r).length]? = some step) (hrun : step.run b now = (result, next)) :
    InTurn b state r.queue (h ++ [.performed r result]) next := by
  obtain ⟨base, hall, hbegins⟩ := hturn.exists_begins hruns
  refine ⟨base, ?_, .inr ⟨r, ?_, ?_⟩⟩
  · rw [reached_concat_none h .finished rfl, failures_concat_none h rfl]
    exact hall
  · rw [reached_concat_none h .started rfl, reached_concat_none h .finished rfl, hruns]
  · rw [results_concat_performed]
    exact .concat hbegins hstep hrun

theorem finished {failure : Option Error} (hturn : InTurn b state r.queue h now)
    (hruns : h.reached .started r.queue = h.reached .finished r.queue ++ [r])
    (hends : r.Ends (h.results r) failure) :
    InTurn b state r.queue (h ++ [.finished r failure]) now := by
  obtain ⟨base, hall, hbegins⟩ := hturn.exists_begins hruns
  refine ⟨now, ?_, .inl ⟨?_, rfl⟩⟩
  · rw [reached_concat h .finished rfl, failures_concat_finished]
    exact Submission.runAll_concat hall (hbegins.run_of_ends hends)
  · rw [reached_concat_none h .started rfl, reached_concat h .finished rfl, hruns]

end InTurn

theorem Leads.inTurn (hleads : h.Leads backends state now) (hall : h.Lawful)
    (hb : backends[q]? = some b) (hone : ∀ r, .started r ∈ h → r.queue = q) :
    InTurn b state q h now := by
  induction hleads with
  | nil => exact ⟨state, rfl, .inl ⟨rfl, rfl⟩⟩
  | @performed h now next r b₁ step result _ hb₁ hstep hrun ih =>
      obtain ⟨hbefore, hx⟩ := lawful_concat.mp hall
      have hturn := ih hbefore fun r hr => hone r (List.mem_append_left _ hr)
      cases hx with
      | performed hruns =>
          have hmem : r ∈ h.reached .started r.queue := hruns ▸ List.mem_concat_self
          obtain rfl := hone r (List.mem_append_left _ (mem_started.mp hmem).1)
          obtain rfl := Option.some.inj (hb.symm.trans hb₁)
          exact hturn.performed hruns hstep hrun
  | @other h now x _ hx' ih =>
      obtain ⟨hbefore, hx⟩ := lawful_concat.mp hall
      have hturn := ih hbefore fun r hr => hone r (List.mem_append_left _ hr)
      cases hx with
      | @started r later hfirst hfree =>
          obtain rfl := hone r List.mem_concat_self
          have hmem : r ∈ h.reached .sent r.queue :=
            hfirst ▸ List.mem_append_right _ List.mem_cons_self
          have hsubmitted := hbefore.submitted_of_sent (mem_sent.mp hmem).1
          refine hturn.started (hbefore.results_eq_nil hsubmitted fun hstarted => ?_) hfree
          have hnodup := hfirst ▸ hbefore.nodup_sent r.queue
          exact List.disjoint_of_nodup_append hnodup (mem_started.mpr ⟨hstarted, rfl⟩)
            List.mem_cons_self
      | performed => exact absurd rfl (hx' _ _)
      | @finished r failure hruns hends =>
          have hmem : r ∈ h.reached .started r.queue := hruns ▸ List.mem_concat_self
          obtain rfl := hone r (List.mem_append_left _ (mem_started.mp hmem).1)
          exact hturn.finished hruns hends
      | _ => exact hturn.concat_silent rfl rfl (fun _ => rfl) rfl

/-- Tasks of one queue, where no other queue has tasks that start. While none of them runs, the
state is what they leave when they run one after the other, each of them to its end. -/
theorem Leads.runAll_eq (hleads : h.Leads backends state now) (hall : h.Lawful)
    (hb : backends[q]? = some b) (hone : ∀ r, .started r ∈ h → r.queue = q)
    (hfree : h.reached .started q = h.reached .finished q) :
    Submission.runAll b state (h.reached .finished q) = (h.failures q, now) :=
  (hleads.inTurn hall hb hone).runAll_eq hfree

end History

namespace QueueSystem

variable {s t : QueueSystem σ} {q : Nat}

theorem run_of_perform {step : TaskStep σ} {result : Outcome Unit}
    (h : s.perform b step = some (result, t)) : step.run b s.state = (result, t.state) := by
  cases step with
  | act effect =>
      cases h
      rfl
  | pass | await =>
      simp only [perform, Option.ite_none_right_eq_some, Option.some.injEq, Prod.mk.injEq] at h
      rw [TaskStep.run, ← h.2.1, ← h.2.2]

theorem map_backend_modifyQueue (s : QueueSystem σ) (q : Nat) {f : TaskQueue σ → TaskQueue σ}
    (hf : ∀ queue, (f queue).backend = queue.backend) :
    (s.modifyQueue q f).queues.map TaskQueue.backend = s.queues.map TaskQueue.backend := by
  refine List.ext_getElem? fun q' => ?_
  rw [List.getElem?_map, List.getElem?_map, getElem?_modifyQueue]
  split
  · rw [Option.map_map]
    exact congrArg (Option.map · _) (funext hf)
  · rfl

theorem map_backend_workerStep {queue : TaskQueue σ} {w : Worker σ}
    (hstep : s.WorkerStep q queue w t) :
    t.queues.map TaskQueue.backend = s.queues.map TaskQueue.backend := by
  cases hstep with
  | stop | receive | conclude | report =>
      refine map_backend_modifyQueue s q ?_
      exact fun _ => rfl
  | perform _ hperform =>
      refine (map_backend_modifyQueue _ q ?_).trans
        (congrArg (List.map _) (queues_perform hperform))
      exact fun _ => rfl

end QueueSystem

namespace SharedQueues

variable {s s' : SharedQueues σ} {backends : List Backend} {q client : Nat}

/-- The queues keep their backends, and the state is what the steps have left. -/
structure Effective (backends : List Backend) (state : σ) (s : SharedQueues σ) : Prop where
  backends_eq : s.system.queues.map TaskQueue.backend = backends
  leads : s.history.Leads backends state s.system.state

namespace Effective

theorem start (backends : List Backend) (clients : Nat) (openGates : List Nat) (state : σ) :
    (SharedQueues.start backends clients openGates state).Effective backends state where
  backends_eq := by
    rw [SharedQueues.start, List.map_map]
    exact List.map_id _
  leads := .nil

theorem call (he : s.Effective backends state) (hcall : s.Call client s') :
    s'.Effective backends state := by
  cases hcall with
  | enqueue =>
      refine ⟨(QueueSystem.map_backend_modifyQueue _ _ ?_).trans he.backends_eq,
        he.leads.other (by simp)⟩
      exact fun _ => rfl
  | record | wait => exact ⟨he.backends_eq, he.leads.other (by simp)⟩
  | awaitMarker => exact ⟨he.backends_eq, he.leads⟩
  | drop =>
      refine ⟨(QueueSystem.map_backend_modifyQueue _ _ ?_).trans he.backends_eq, he.leads⟩
      exact fun _ => rfl

theorem clientMove (he : s.Effective backends state) (hmove : s.ClientMove client s') :
    s'.Effective backends state := by
  cases hmove with
  | send | refuse | ask =>
      refine ⟨(QueueSystem.map_backend_modifyQueue _ _ ?_).trans he.backends_eq,
        he.leads.other (by simp)⟩
      exact fun _ => rfl
  | pass => exact ⟨he.backends_eq, he.leads⟩
  | leave => exact ⟨he.backends_eq, he.leads.other (by simp)⟩

theorem workerMove (hs : s.Sound) (he : s.Effective backends state) (hmove : s.WorkerMove q s') :
    s'.Effective backends state := by
  obtain ⟨system, hstep, rfl⟩ := hmove
  obtain ⟨queue, w, hq, hw, hstep⟩ := QueueSystem.workerStep_eq_some.mp hstep
  refine ⟨(QueueSystem.map_backend_workerStep hstep).trans he.backends_eq, ?_⟩
  obtain ⟨w₁, hw₁, hd⟩ := hs.books q queue hq
  obtain rfl := Option.some.inj (hw.symm.trans hw₁)
  have hagrees := hd.stage
  rw [news?, hq]
  simp only [Option.bind_eq_bind, Option.bind_some, hw]
  cases hstep with
  | stop hstage hchannel =>
      rw [hstage, hchannel]
      simp only [List.head?_nil, Option.map_none, Option.toList_none, List.append_nil]
      exact he.leads
  | receive hstage hchannel =>
      rw [hstage, hchannel]
      exact he.leads.other (by simp)
  | conclude hstage =>
      rw [hstage, Option.toList_none, List.append_nil]
      exact he.leads
  | @perform r step rest result t hstage hperform =>
      rw [hstage] at hagrees ⊢
      obtain ⟨hruns, past, htask, hpast⟩ := hagrees
      simp only [hperform, Option.map_some]
      have hb : backends[r.queue]? = some queue.backend := by
        rw [← he.backends_eq, List.getElem?_map, History.queue_eq_of_runs hruns, hq,
          Option.map_some]
      have hrun := QueueSystem.run_of_perform hperform
      refine he.leads.performed hb ?_ hrun
      rw [hpast, List.length_replicate, htask, List.getElem?_append_right le_rfl, Nat.sub_self]
      rfl
  | report hstage =>
      rw [hstage]
      exact he.leads.other (by simp)

end Effective

theorem Reachable.effective {clients : Nat} {openGates : List Nat}
    (h : (start backends clients openGates state).Reachable s) : s.Effective backends state := by
  induction h with
  | refl => exact .start backends clients openGates state
  | call _ hcall ih => exact ih.call hcall
  | move h hmove ih =>
      rcases hmove with ⟨client, hmove⟩ | ⟨q, hmove⟩
      · exact ih.clientMove hmove
      · exact ih.workerMove (h.sound (.start backends clients openGates state)) hmove

end SharedQueues

end LaneGrid
