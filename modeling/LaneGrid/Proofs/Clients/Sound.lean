import LaneGrid.Proofs.Clients.Shared

namespace LaneGrid

open scoped List

variable {σ : Type} {h h' : History σ} {q : Nat} {r : Submission σ} {x : Occurrence σ}

namespace WorkerStage

/-- What a worker is about to do with the last task that it received. -/
def Agrees (h : History σ) (q : Nat) : WorkerStage σ → Prop
  | idle | stopped => h.reached .finished q = h.reached .started q
  | running r rest => h.reached .started q = h.reached .finished q ++ [r] ∧
      ∃ past, r.task = past ++ rest ∧ h.results r = List.replicate past.length (.ok ())
  | reporting r failure => h.reached .started q = h.reached .finished q ++ [r] ∧
      r.Ends (h.results r) failure

theorem Agrees.congr {stage : WorkerStage σ} (hagrees : stage.Agrees h q)
    (hstarted : h'.reached .started q = h.reached .started q)
    (hfinished : h'.reached .finished q = h.reached .finished q)
    (hresults : ∀ r : Submission σ, r.queue = q → h'.results r = h.results r) :
    stage.Agrees h' q := by
  cases stage with
  | idle | stopped => exact hfinished.trans (hagrees.trans hstarted.symm)
  | running r rest =>
      obtain ⟨hruns, past, htask, hpast⟩ := hagrees
      exact ⟨by rw [hstarted, hfinished, hruns], past, htask,
        (hresults r (History.queue_eq_of_runs hruns)).trans hpast⟩
  | reporting r failure =>
      obtain ⟨hruns, hends⟩ := hagrees
      refine ⟨by rw [hstarted, hfinished, hruns], ?_⟩
      rw [hresults r (History.queue_eq_of_runs hruns)]
      exact hends

end WorkerStage

/-- What the counters and the worker of a queue are after all that has happened. -/
structure History.Describes (h : History σ) (q : Nat) (account : TaskAccount) (w : Worker σ) :
    Prop where
  submitted_eq : account.submitted = (h.reached .submitted q).length
  completed_eq : account.completed = (h.reached .finished q).length
  failure_eq : account.failure = h.failure? q
  sent_eq : h.reached .sent q = h.reached .started q ++ w.channel
  stage : w.stage.Agrees h q
  stopped : w.stage = .stopped → w.channel = [] ∧ w.closed = true

theorem History.reached_concat_unsent (h : History σ) (phase : Phase)
    (hx : x.submission? phase = some r) :
    reached (h ++ [x]) phase q = reached h phase q ++ (ClientStage.sending r).unsent q := by
  rw [reached_concat_eq, hx, Option.filter_some, ClientStage.unsent]
  by_cases hq : r.queue = q <;> simp [hq]

namespace History.Describes

variable {account : TaskAccount} {w : Worker σ}

theorem congr (hd : h.Describes q account w)
    (hreached : ∀ phase, h'.reached phase q = h.reached phase q)
    (hresults : ∀ r : Submission σ, r.queue = q → h'.results r = h.results r)
    (hfailure : h'.failure? q = h.failure? q) : h'.Describes q account w where
  submitted_eq := by rw [hreached, hd.submitted_eq]
  completed_eq := by rw [hreached, hd.completed_eq]
  failure_eq := by rw [hfailure, hd.failure_eq]
  sent_eq := by rw [hreached, hreached, hd.sent_eq]
  stage := hd.stage.congr (hreached _) (hreached _) hresults
  stopped := hd.stopped

theorem concat_of_queue_ne (hd : h.Describes q account w) (hx : x.queue ≠ q) :
    Describes (h ++ [x]) q account w :=
  hd.congr (fun _ => reached_concat_of_queue_ne h _ hx)
    (fun _ hr => results_concat_of_queue_ne h fun heq => hx (heq.trans hr))
    (failure?_concat_of_queue_ne h hx)

theorem concat_silent (hd : h.Describes q account w) (hphase : ∀ phase, x.submission? phase = none)
    (hresult : ∀ r, x.result? r = none) (hfailure : x.failure? q = none)
    (hanswers : x.answers q = false) : Describes (h ++ [x]) q account w :=
  hd.congr (fun _ => reached_concat_none h _ (hphase _))
    (fun _ _ => results_concat_none h (hresult _))
    (failure?_concat_none h hanswers hfailure)

/-! What stays as it is when something happens that does not count for it. -/

theorem submitted_concat (hd : h.Describes q account w) (hx : x.submission? .submitted = none) :
    account.submitted = (reached (h ++ [x]) .submitted q).length := by
  rw [reached_concat_none h _ hx]
  exact hd.submitted_eq

theorem completed_concat (hd : h.Describes q account w) (hx : x.submission? .finished = none) :
    account.completed = (reached (h ++ [x]) .finished q).length := by
  rw [reached_concat_none h _ hx]
  exact hd.completed_eq

theorem failure_concat (hd : h.Describes q account w) (hanswers : x.answers q = false)
    (hfailure : x.failure? q = none) : account.failure = failure? (h ++ [x]) q := by
  rw [failure?_concat_none h hanswers hfailure]
  exact hd.failure_eq

theorem sent_concat (hd : h.Describes q account w) (hsent : x.submission? .sent = none)
    (hstarted : x.submission? .started = none) :
    reached (h ++ [x]) .sent q = reached (h ++ [x]) .started q ++ w.channel := by
  rw [reached_concat_none h _ hsent, reached_concat_none h _ hstarted]
  exact hd.sent_eq

theorem stage_concat (hd : h.Describes q account w) (hstarted : x.submission? .started = none)
    (hfinished : x.submission? .finished = none) (hresult : ∀ r, x.result? r = none) :
    w.stage.Agrees (h ++ [x]) q :=
  hd.stage.congr (reached_concat_none h _ hstarted) (reached_concat_none h _ hfinished)
    fun _ _ => results_concat_none h (hresult _)

/-! What changes with each occurrence of the queue. -/

theorem submitted (hd : h.Describes r.queue account w) :
    Describes (h ++ [.submitted r]) r.queue account.submit w where
  submitted_eq := by
    rw [reached_concat h _ rfl, List.length_append, ← hd.submitted_eq]
    rfl
  completed_eq := hd.completed_concat rfl
  failure_eq := hd.failure_concat rfl rfl
  sent_eq := hd.sent_concat rfl rfl
  stage := hd.stage_concat rfl rfl fun _ => rfl
  stopped := hd.stopped

theorem sent (hd : h.Describes r.queue account w) (hlive : w.stage ≠ .stopped) :
    Describes (h ++ [.sent r]) r.queue account { w with channel := w.channel ++ [r] } where
  submitted_eq := hd.submitted_concat rfl
  completed_eq := hd.completed_concat rfl
  failure_eq := hd.failure_concat rfl rfl
  sent_eq := by
    rw [reached_concat h _ rfl, reached_concat_none h _ rfl, hd.sent_eq, List.append_assoc]
  stage := hd.stage_concat rfl rfl fun _ => rfl
  stopped := fun hstopped => absurd hstopped hlive

theorem answered {client : Nat} (hd : h.Describes q account w) :
    Describes (h ++ [.answered client q (h.answer q)]) q account.takeFailure.2 w where
  submitted_eq := hd.submitted_concat rfl
  completed_eq := hd.completed_concat rfl
  failure_eq := by
    rw [failure?_concat, if_pos (by simp [Occurrence.answers])]
    rfl
  sent_eq := hd.sent_concat rfl rfl
  stage := hd.stage_concat rfl rfl fun _ => rfl
  stopped := hd.stopped

theorem close (hd : h.Describes q account w) : h.Describes q account { w with closed := true } where
  __ := hd
  stopped := fun hstopped => ⟨(hd.stopped hstopped).1, rfl⟩

theorem answer_eq (hd : h.Describes q account w) : account.takeFailure.1 = h.answer q := by
  rw [TaskAccount.takeFailure, hd.failure_eq]
  rfl

theorem stop (hd : h.Describes q account w) (hstage : w.stage = .idle) (hchannel : w.channel = [])
    (hclosed : w.closed = true) : h.Describes q account { w with stage := .stopped } where
  __ := hd
  stage := by
    have hagrees := hd.stage
    rw [hstage] at hagrees
    exact hagrees
  stopped := fun _ => ⟨hchannel, hclosed⟩

theorem conclude (hd : h.Describes q account w) (hstage : w.stage = .running r []) :
    h.Describes q account { w with stage := .reporting r none } where
  __ := hd
  stage := by
    have hagrees := hd.stage
    rw [hstage] at hagrees
    obtain ⟨hruns, past, htask, hpast⟩ := hagrees
    rw [List.append_nil] at htask
    refine ⟨hruns, ?_⟩
    rw [hpast, ← htask]
    exact .all
  stopped := nofun

theorem received (hd : h.Describes r.queue account w) {waiting : List (Submission σ)}
    (hstage : w.stage = .idle) (hnew : h.results r = []) (hchannel : w.channel = r :: waiting) :
    Describes (h ++ [.started r]) r.queue account
      { w with channel := waiting, stage := .running r r.task } where
  submitted_eq := hd.submitted_concat rfl
  completed_eq := hd.completed_concat rfl
  failure_eq := hd.failure_concat rfl rfl
  sent_eq := by
    rw [reached_concat_none h .sent rfl, reached_concat h _ rfl, hd.sent_eq, hchannel,
      List.append_assoc]
    rfl
  stage := by
    have hagrees := hd.stage
    rw [hstage] at hagrees
    refine ⟨?_, [], rfl, (results_concat_none h rfl).trans hnew⟩
    rw [reached_concat h _ rfl, reached_concat_none h _ rfl, hagrees]
  stopped := nofun

theorem performed (hd : h.Describes r.queue account w) {past rest : QueueTask σ}
    {step : TaskStep σ} {result : Outcome Unit}
    (hruns : h.reached .started r.queue = h.reached .finished r.queue ++ [r])
    (htask : r.task = past ++ step :: rest)
    (hpast : h.results r = List.replicate past.length (.ok ())) :
    Describes (h ++ [.performed r result]) r.queue account
      { w with stage := QueueSystem.stageAfter r rest result } where
  submitted_eq := hd.submitted_concat rfl
  completed_eq := hd.completed_concat rfl
  failure_eq := hd.failure_concat rfl rfl
  sent_eq := hd.sent_concat rfl rfl
  stage := by
    have hruns' : reached (h ++ [.performed r result]) .started r.queue =
        reached (h ++ [.performed r result]) .finished r.queue ++ [r] := by
      rw [reached_concat_none h _ rfl, reached_concat_none h _ rfl, hruns]
    have hresults := results_concat_performed h r result
    rw [hpast] at hresults
    cases result with
    | ok =>
        refine ⟨hruns', past ++ [step], by rw [htask, List.append_assoc]; rfl, ?_⟩
        rw [hresults, List.length_append, List.length_singleton, List.replicate_succ']
    | error f =>
        refine ⟨hruns', ?_⟩
        rw [hresults]
        refine .failed ?_
        rw [htask, List.length_append, List.length_cons]
        omega
  stopped := fun hstopped => by
    cases result <;> cases hstopped

theorem finished {failure : Option Error} (hd : h.Describes r.queue account w)
    (hruns : h.reached .started r.queue = h.reached .finished r.queue ++ [r]) :
    Describes (h ++ [.finished r failure]) r.queue (account.complete failure)
      { w with stage := .idle } where
  submitted_eq := hd.submitted_concat rfl
  completed_eq := by
    rw [reached_concat h _ rfl, List.length_append, ← hd.completed_eq]
    rfl
  failure_eq := by
    rw [failure?_concat, Occurrence.failure?, if_pos rfl, ← hd.failure_eq]
    rfl
  sent_eq := hd.sent_concat rfl rfl
  stage := by
    change reached _ _ _ = reached _ _ _
    rw [reached_concat h _ rfl, reached_concat_none h _ rfl, hruns]
  stopped := nofun

end History.Describes

theorem perm_flatMap_set {α β : Type} {l : List α} {i : Nat} {a b : α} (f : α → List β)
    (ha : l[i]? = some a) : f a ++ (l.set i b).flatMap f ~ f b ++ l.flatMap f := by
  induction l generalizing i with
  | nil => cases ha
  | cons c l ih =>
      cases i with
      | zero =>
          obtain rfl := Option.some.inj ha
          exact List.perm_append_comm_assoc _ _ _
      | succ i =>
          rw [List.set_cons_succ, List.flatMap_cons, List.flatMap_cons]
          calc f a ++ (f c ++ (l.set i b).flatMap f)
              ~ f c ++ (f a ++ (l.set i b).flatMap f) := List.perm_append_comm_assoc _ _ _
            _ ~ f c ++ (f b ++ l.flatMap f) := (ih ha).append_left _
            _ ~ f b ++ (f c ++ l.flatMap f) := List.perm_append_comm_assoc _ _ _

namespace QueueSystem

variable {s t : QueueSystem σ}

theorem isOpen_modifyQueue {f : TaskQueue σ → TaskQueue σ} (q' : Nat)
    (hf : ∀ queue, s.queues[q]? = some queue →
      (f queue).worker.map Worker.closed = queue.worker.map Worker.closed) :
    (s.modifyQueue q f).isOpen q' = s.isOpen q' := by
  have hany : ∀ w : Option (Worker σ),
      w.any (fun w => !w.closed) = (w.map Worker.closed).any (!·) := by
    rintro (_ | w) <;> rfl
  rw [isOpen, isOpen, hany, hany, map_worker?_modifyQueue Worker.closed hf]

theorem lt_length_of_isOpen (hopen : s.isOpen q = true) : q < s.queues.length := by
  obtain ⟨w, hw, -⟩ := (Option.any_eq_true _ _).mp hopen
  obtain ⟨queue, hq, -⟩ := worker?_eq_some.mp hw
  exact (List.getElem?_eq_some_iff.mp hq).1

theorem isOpen_workerStep {queue : TaskQueue σ} {w : Worker σ} (hq : s.queues[q]? = some queue)
    (hw : queue.worker = some w) (hstep : s.WorkerStep q queue w t) (q' : Nat) :
    t.isOpen q' = s.isOpen q' := by
  have hsame : ∀ {u : QueueSystem σ} {f : TaskQueue σ → TaskQueue σ}, u.queues = s.queues →
      (f queue).worker.map Worker.closed = some w.closed →
      (u.modifyQueue q f).isOpen q' = s.isOpen q' := by
    intro u f hu hf
    have hopen : u.isOpen q' = s.isOpen q' := by rw [isOpen, worker?, hu]; rfl
    refine (isOpen_modifyQueue q' fun queue₁ hq₁ => ?_).trans hopen
    obtain rfl := Option.some.inj (hq.symm.trans (hu ▸ hq₁))
    rw [hf, hw]
    rfl
  cases hstep with
  | stop | receive | conclude | report => exact hsame rfl rfl
  | perform _ hperform => exact hsame (queues_perform hperform) rfl

/-- Every queue has a worker, and both are as the history has it. -/
def Books (s : QueueSystem σ) (h : History σ) : Prop :=
  ∀ q queue, s.queues[q]? = some queue →
    ∃ w, queue.worker = some w ∧ h.Describes q queue.account w

namespace Books

theorem of_queues_eq (hbooks : s.Books h) (hqueues : t.queues = s.queues) : t.Books h :=
  fun q queue hq => hbooks q queue (hqueues ▸ hq)

theorem modify {f : TaskQueue σ → TaskQueue σ} (hbooks : s.Books h)
    (hsame : ∀ queue w, s.queues[q]? = some queue → queue.worker = some w →
      h.Describes q queue.account w →
      ∃ w', (f queue).worker = some w' ∧ h'.Describes q (f queue).account w')
    (hother : ∀ q' account w, q ≠ q' → h.Describes q' account w → h'.Describes q' account w) :
    (s.modifyQueue q f).Books h' := by
  intro q' queue' hq'
  rw [getElem?_modifyQueue] at hq'
  split at hq'
  · rename_i heq
    subst heq
    obtain ⟨queue, hq, rfl⟩ := Option.map_eq_some_iff.mp hq'
    obtain ⟨w, hw, hd⟩ := hbooks q queue hq
    exact hsame queue w hq hw hd
  · rename_i hne
    obtain ⟨w, hw, hd⟩ := hbooks q' queue' hq'
    exact ⟨w, hw, hother q' _ w hne hd⟩

theorem setWorker {queue : TaskQueue σ} {w : Worker σ} (hbooks : s.Books h)
    (hq : s.queues[q]? = some queue) (hd : h'.Describes q queue.account w)
    (hother : ∀ q' account w, q ≠ q' → h.Describes q' account w → h'.Describes q' account w) :
    (s.setWorker q w).Books h' := by
  refine hbooks.modify (fun queue₁ _ hq₁ _ _ => ⟨w, rfl, ?_⟩) hother
  obtain rfl := Option.some.inj (hq.symm.trans hq₁)
  exact hd

theorem concat_silent (hbooks : s.Books h) (hphase : ∀ phase, x.submission? phase = none)
    (hresult : ∀ r, x.result? r = none) (hfailure : ∀ q, x.failure? q = none)
    (hanswers : ∀ q, x.answers q = false) : s.Books (h ++ [x]) := by
  intro q queue hq
  obtain ⟨w, hw, hd⟩ := hbooks q queue hq
  exact ⟨w, hw, hd.concat_silent hphase hresult (hfailure q) (hanswers q)⟩

end Books

end QueueSystem

namespace SharedQueues

/-- How the stage of a worker changes, and what is told of it. -/
inductive Turn (h : History σ) (q : Nat) : WorkerStage σ → WorkerStage σ → History σ → Prop
  | stop (hall : h.reached .finished q = h.reached .sent q) : Turn h q .idle .stopped []
  | receive {r : Submission σ} (hq : r.queue = q) (hx : Occurrence.Follows h (.started r)) :
      Turn h q .idle (.running r r.task) [.started r]
  | conclude {r : Submission σ} : Turn h q (.running r []) (.reporting r none) []
  | perform {r : Submission σ} {step : TaskStep σ} {rest : QueueTask σ} {result : Outcome Unit}
      (hq : r.queue = q) (hx : Occurrence.Follows h (.performed r result)) :
      Turn h q (.running r (step :: rest)) (QueueSystem.stageAfter r rest result)
        [.performed r result]
  | report {r : Submission σ} {failure : Option Error} (hq : r.queue = q)
      (hx : Occurrence.Follows h (.finished r failure)) :
      Turn h q (.reporting r failure) .idle [.finished r failure]

namespace Turn

variable {stage stage' : WorkerStage σ} {news : History σ} {q' : Nat}

theorem lawful (hturn : Turn h q stage stage' news) (hall : h.Lawful) :
    History.Lawful (h ++ news) := by
  cases hturn with
  | stop | conclude =>
      rw [List.append_nil]
      exact hall
  | receive _ hx | perform _ hx | report _ hx => exact History.lawful_concat.mpr ⟨hall, hx⟩

theorem submitted_eq (hturn : Turn h q stage stage' news) :
    History.reached (h ++ news) .submitted q' = h.reached .submitted q' := by
  cases hturn with
  | stop | conclude => rw [List.append_nil]
  | receive | perform | report => exact History.reached_concat_none h _ rfl

theorem sent_eq (hturn : Turn h q stage stage' news) :
    History.reached (h ++ news) .sent q' = h.reached .sent q' := by
  cases hturn with
  | stop | conclude => rw [List.append_nil]
  | receive | perform | report => exact History.reached_concat_none h _ rfl

theorem recorded_mem {m : Marker} (hturn : Turn h q stage stage' news)
    (hm : .recorded m ∈ h ++ news) : .recorded m ∈ h := by
  cases hturn <;> simpa using hm

end Turn

variable {s s' : SharedQueues σ}

/-- What is known of shared queues at any time. -/
structure Sound (s : SharedQueues σ) : Prop where
  lawful : s.history.Lawful
  submissions : ∀ r, .submitted r ∈ s.history →
    r.number < s.calls ∧ r.queue < s.system.queues.length
  markers : ∀ m, .recorded m ∈ s.history → m.queue < s.system.queues.length
  /-- A task that is counted and was not sent is about to be sent. -/
  unsent : ∀ q, s.history.reached .submitted q ~
    s.history.reached .sent q ++ s.clients.flatMap (ClientStage.unsent q)
  closed : ∀ q, s.system.isOpen q = false → s.clients.flatMap (ClientStage.unsent q) = []
  books : s.system.Books s.history

theorem perm_unsent_set {clients : List (ClientStage σ)} {i : Nat} {a b : ClientStage σ}
    (hstage : clients[i]? = some a) (ha : a.unsent q = []) (hb : b.unsent q = []) :
    (clients.set i b).flatMap (ClientStage.unsent q) ~
      clients.flatMap (ClientStage.unsent q) := by
  have hperm := perm_flatMap_set (b := b) (ClientStage.unsent q) hstage
  rwa [ha, hb] at hperm

namespace Sound

theorem of_perm (hs : s.Sound) (hcalls : s'.calls = s.calls)
    (hlength : s'.system.queues.length = s.system.queues.length)
    (hmarkers : ∀ m, .recorded m ∈ s'.history →
      .recorded m ∈ s.history ∨ m.queue < s.system.queues.length)
    (hsubmitted : ∀ q, s'.history.reached .submitted q = s.history.reached .submitted q)
    (hsent : ∀ q, s'.history.reached .sent q = s.history.reached .sent q)
    (hclients : ∀ q, s'.clients.flatMap (ClientStage.unsent q) ~
      s.clients.flatMap (ClientStage.unsent q))
    (hopen : ∀ q, s'.system.isOpen q = false → s.clients.flatMap (ClientStage.unsent q) = [])
    (hlawful : s'.history.Lawful) (hbooks : s'.system.Books s'.history) : s'.Sound where
  lawful := hlawful
  submissions r hr := by
    have hmem := History.mem_submitted.mpr ⟨hr, rfl⟩
    rw [hsubmitted] at hmem
    rw [hcalls, hlength]
    exact hs.submissions r (History.mem_submitted.mp hmem).1
  markers m hm := by
    rw [hlength]
    exact (hmarkers m hm).elim (hs.markers m) id
  unsent q := by
    rw [hsubmitted, hsent]
    exact (hs.unsent q).trans ((hclients q).symm.append_left _)
  closed q hq := List.perm_nil.mp (hopen q hq ▸ hclients q)
  books := hbooks

theorem record {m : Marker} {clients : List (ClientStage σ)} (hs : s.Sound)
    (hm : s.system.record q = some m)
    (hclients : ∀ q, clients.flatMap (ClientStage.unsent q) ~
      s.clients.flatMap (ClientStage.unsent q)) :
    Sound { s with clients := clients, history := s.history ++ [.recorded m] } := by
  obtain ⟨queue, hq, hm⟩ := Option.bind_eq_some_iff.mp hm
  obtain rfl := Option.some.inj hm
  obtain ⟨w, hw, hd⟩ := hs.books q queue hq
  refine hs.of_perm rfl rfl (fun m' hm' => ?_) (fun _ => History.reached_concat_none _ _ rfl)
    (fun _ => History.reached_concat_none _ _ rfl) hclients hs.closed
    (History.lawful_concat.mpr ⟨hs.lawful, .recorded hd.submitted_eq⟩)
    (hs.books.concat_silent (by rintro (_ | _ | _ | _) <;> rfl) (fun _ => rfl) (fun _ => rfl)
      fun _ => rfl)
  refine (List.mem_append.mp hm').imp_right fun hm' => ?_
  cases List.mem_singleton.mp hm'
  exact (List.getElem?_eq_some_iff.mp hq).1

theorem enqueue {client : Nat} {task : QueueTask σ} (hs : s.Sound)
    (hfree : s.clients[client]? = some .free) (hopen : s.system.isOpen q = true)
    (hmarkers : ∀ m, .await m ∈ task → .recorded m ∈ s.history) :
    Sound {
      system := s.system.submit q
      clients := s.clients.set client (.sending ⟨s.calls, q, task⟩)
      calls := s.calls + 1
      history := s.history ++ [.submitted ⟨s.calls, q, task⟩] } := by
  have hclients := fun q' =>
    perm_flatMap_set (b := .sending ⟨s.calls, q, task⟩) (ClientStage.unsent q') hfree
  have hsame : ∀ q', (s.system.submit q).isOpen q' = s.system.isOpen q' := fun q' =>
    QueueSystem.isOpen_modifyQueue q' fun _ _ => rfl
  constructor
  case lawful =>
    exact History.lawful_concat.mpr
      ⟨hs.lawful, .submitted (fun r' hr' => Nat.ne_of_lt (hs.submissions r' hr').1) hmarkers⟩
  case submissions =>
    intro r hr
    rw [QueueSystem.submit, QueueSystem.length_modifyQueue]
    rcases List.mem_append.mp hr with hr | hr
    · exact ⟨Nat.lt_succ_of_lt (hs.submissions r hr).1, (hs.submissions r hr).2⟩
    · cases List.mem_singleton.mp hr
      exact ⟨Nat.lt_succ_self _, QueueSystem.lt_length_of_isOpen hopen⟩
  case markers =>
    intro m hm
    rw [QueueSystem.submit, QueueSystem.length_modifyQueue]
    exact hs.markers m (by simpa using hm)
  case unsent =>
    intro q'
    rw [History.reached_concat_unsent s.history .submitted rfl, History.reached_concat_none _ _ rfl]
    calc s.history.reached .submitted q' ++ ClientStage.unsent q' (.sending ⟨s.calls, q, task⟩)
        ~ s.history.reached .sent q' ++ s.clients.flatMap (ClientStage.unsent q') ++
            ClientStage.unsent q' (.sending ⟨s.calls, q, task⟩) := (hs.unsent q').append_right _
      _ ~ s.history.reached .sent q' ++ (ClientStage.unsent q' (.sending ⟨s.calls, q, task⟩) ++
            s.clients.flatMap (ClientStage.unsent q')) := by
          rw [List.append_assoc]
          exact List.perm_append_comm.append_left _
      _ ~ _ := (hclients q').symm.append_left _
  case closed =>
    intro q' hq'
    replace hq' : s.system.isOpen q' = false := hsame q' ▸ hq'
    have hne : q ≠ q' := by
      rintro rfl
      rw [hopen] at hq'
      cases hq'
    have hperm := hclients q'
    rw [hs.closed q' hq', List.append_nil, ClientStage.unsent, if_neg hne] at hperm
    exact List.perm_nil.mp hperm
  case books =>
    exact hs.books.modify (fun queue w _ hw hd => ⟨w, hw, hd.submitted⟩)
      fun _ _ _ hne hd => hd.concat_of_queue_ne hne

theorem send {client : Nat} (hs : s.Sound) (hstage : s.clients[client]? = some (.sending r))
    (hlive : s.system.hasStopped r.queue = false) :
    Sound { s with
      system := s.system.send r
      clients := s.clients.set client .free
      history := s.history ++ [.sent r] } := by
  have hclients := fun q' => perm_flatMap_set (b := .free) (ClientStage.unsent q') hstage
  have hsame : ∀ q', (s.system.send r).isOpen q' = s.system.isOpen q' := fun q' =>
    QueueSystem.isOpen_modifyQueue q' fun queue _ => by cases queue.worker <;> rfl
  have hmem : r ∈ s.clients.flatMap (ClientStage.unsent r.queue) := by
    refine List.mem_flatMap.mpr ⟨_, List.mem_of_getElem? hstage, ?_⟩
    rw [ClientStage.unsent, if_pos rfl]
    exact List.mem_singleton_self r
  constructor
  case lawful =>
    have hperm := hs.unsent r.queue
    have hnodup := hperm.nodup_iff.mp (hs.lawful.nodup_submitted r.queue)
    have hsubmitted := hperm.mem_iff.mpr (List.mem_append_right _ hmem)
    refine History.lawful_concat.mpr
      ⟨hs.lawful, .sent (History.mem_submitted.mp hsubmitted).1 fun hsent => ?_⟩
    exact (List.disjoint_of_nodup_append hnodup) (History.mem_sent.mpr ⟨hsent, rfl⟩) hmem
  case submissions =>
    intro r' hr'
    rw [QueueSystem.send, QueueSystem.length_modifyQueue]
    refine hs.submissions r' ?_
    simpa using hr'
  case markers =>
    intro m hm
    rw [QueueSystem.send, QueueSystem.length_modifyQueue]
    exact hs.markers m (by simpa using hm)
  case unsent =>
    intro q'
    rw [History.reached_concat_unsent s.history .sent rfl, History.reached_concat_none _ _ rfl,
      List.append_assoc]
    exact (hs.unsent q').trans ((hclients q').symm.append_left _)
  case closed =>
    intro q' hq'
    have hperm := hclients q'
    rw [hs.closed q' (hsame q' ▸ hq')] at hperm
    exact (List.append_eq_nil_iff.mp (List.perm_nil.mp hperm)).2
  case books =>
    refine hs.books.modify (fun queue w hq hw hd => ⟨_, congrArg (Option.map _) hw, hd.sent ?_⟩)
      fun _ _ _ hne hd => hd.concat_of_queue_ne hne
    intro hstopped
    rw [QueueSystem.hasStopped, QueueSystem.worker?, hq, Option.bind_some, hw] at hlive
    simp [hstopped] at hlive

theorem call {client : Nat} (hs : s.Sound) (hcall : s.Call client s') : s'.Sound := by
  cases hcall with
  | enqueue hfree hopen hmarkers => exact hs.enqueue hfree hopen hmarkers
  | record _ _ hm => exact hs.record hm fun _ => .refl _
  | wait hfree _ hm => exact hs.record hm fun _ => perm_unsent_set hfree rfl rfl
  | awaitMarker hfree _ =>
      exact hs.of_perm rfl rfl (fun _ => .inl) (fun _ => rfl) (fun _ => rfl)
        (fun _ => perm_unsent_set hfree rfl rfl)
        hs.closed hs.lawful hs.books
  | @drop q hfree _ hunused =>
      refine hs.of_perm rfl (QueueSystem.length_modifyQueue _ _ _) (fun _ => .inl)
        (fun _ => rfl) (fun _ => rfl) (fun _ => perm_unsent_set hfree rfl rfl)
        (fun q' hq' => ?_) hs.lawful ?_
      · by_cases hne : q = q'
        · subst hne
          refine List.flatMap_eq_nil_iff.mpr fun stage hstage => ?_
          cases stage with
          | sending r => exact if_neg (hunused _ hstage)
          | _ => rfl
        · refine hs.closed q' ?_
          rw [← hq', QueueSystem.isOpen, QueueSystem.isOpen, QueueSystem.worker?,
            QueueSystem.worker?, QueueSystem.close, QueueSystem.getElem?_modifyQueue, if_neg hne]
      · exact hs.books.modify
          (fun _ _ _ hw hd => ⟨_, congrArg (Option.map _) hw, hd.close⟩) fun _ _ _ _ hd => hd

theorem describes_of_worker? {w : Worker σ} (hs : s.Sound) (hw : s.system.worker? q = some w) :
    ∃ queue, s.system.queues[q]? = some queue ∧ s.history.Describes q queue.account w := by
  obtain ⟨queue, hq, hw⟩ := QueueSystem.worker?_eq_some.mp hw
  obtain ⟨w₁, hw₁, hd⟩ := hs.books q queue hq
  obtain rfl := Option.some.inj (hw.symm.trans hw₁)
  exact ⟨queue, hq, hd⟩

theorem hasStopped_eq_false {client : Nat} (hs : s.Sound)
    (hstage : s.clients[client]? = some (.sending r)) : s.system.hasStopped r.queue = false := by
  rw [← Bool.not_eq_true, QueueSystem.hasStopped_iff]
  rintro ⟨w, hw, hstopped⟩
  obtain ⟨queue, hq, hd⟩ := hs.describes_of_worker? hw
  have hclosed : s.system.isOpen r.queue = false := by
    rw [QueueSystem.isOpen, hw, Option.any_some, (hd.stopped hstopped).2]
    rfl
  have hnone := List.flatMap_eq_nil_iff.mp (hs.closed _ hclosed) _ (List.mem_of_getElem? hstage)
  rw [ClientStage.unsent, if_pos rfl] at hnone
  cases hnone

theorem clientMove {client : Nat} (hs : s.Sound) (hmove : s.ClientMove client s') : s'.Sound := by
  cases hmove with
  | send hstage hlive => exact hs.send hstage hlive
  | refuse hstage hstopped =>
      rw [hs.hasStopped_eq_false hstage] at hstopped
      cases hstopped
  | @pass m asks hstage _ =>
      refine hs.of_perm rfl rfl (fun _ => .inl) (fun _ => rfl) (fun _ => rfl)
        (fun _ => perm_unsent_set hstage rfl ?_) hs.closed hs.lawful hs.books
      cases asks <;> rfl
  | @ask q queue hstage hq =>
      obtain ⟨w, hw, hd⟩ := hs.books q queue hq
      have hsame : ∀ q', (s.system.modifyQueue q fun queue =>
          { queue with account := queue.account.takeFailure.2 }).isOpen q' = s.system.isOpen q' :=
        fun q' => QueueSystem.isOpen_modifyQueue q' fun _ _ => rfl
      rw [hd.answer_eq]
      refine hs.of_perm rfl (QueueSystem.length_modifyQueue _ _ _)
        (fun m hm => .inl (by simpa using hm)) (fun _ => History.reached_concat_none _ _ rfl)
        (fun _ => History.reached_concat_none _ _ rfl) (fun _ => perm_unsent_set hstage rfl rfl)
        (fun q' hq' => hs.closed q' (hsame q' ▸ hq'))
        (History.lawful_concat.mpr ⟨hs.lawful, .answered⟩) ?_
      exact hs.books.modify (fun _ w _ hw hd => ⟨w, hw, hd.answered⟩)
        fun _ _ _ hne hd => hd.concat_of_queue_ne hne
  | @leave q hstage hstopped =>
      obtain ⟨w, hw, hstopped⟩ := QueueSystem.hasStopped_iff.mp hstopped
      obtain ⟨queue, -, hd⟩ := hs.describes_of_worker? hw
      have hall : s.history.reached .finished q = s.history.reached .sent q := by
        have hagrees := hd.stage
        rw [hstopped] at hagrees
        rw [hd.sent_eq, (hd.stopped hstopped).1, List.append_nil]
        exact hagrees
      exact hs.of_perm rfl rfl (fun m hm => .inl (by simpa using hm))
        (fun _ => History.reached_concat_none _ _ rfl)
        (fun _ => History.reached_concat_none _ _ rfl) (fun _ => perm_unsent_set hstage rfl rfl)
        hs.closed (History.lawful_concat.mpr ⟨hs.lawful, .dropped hall⟩)
        (hs.books.concat_silent (by rintro (_ | _ | _ | _) <;> rfl) (fun _ => rfl) (fun _ => rfl)
          fun _ => rfl)

theorem workerStep {queue : TaskQueue σ} {w : Worker σ} {system : QueueSystem σ} (hs : s.Sound)
    (hq : s.system.queues[q]? = some queue) (hw : queue.worker = some w)
    (hd : s.history.Describes q queue.account w) (hstep : s.system.WorkerStep q queue w system) :
    ∃ stage, system.stage? q = some stage ∧
      Turn s.history q w.stage stage (s.news? q).toList ∧
      system.Books (s.history ++ (s.news? q).toList) := by
  have hagrees := hd.stage
  rw [news?, hq]
  simp only [Option.bind_eq_bind, Option.bind_some, hw]
  cases hstep with
  | stop hstage hchannel hclosed =>
      have hsent := hd.sent_eq
      have hstop := hd.stop hstage hchannel hclosed
      rw [hchannel] at hsent hstop ⊢
      rw [List.append_nil] at hsent
      rw [hstage] at hagrees ⊢
      refine ⟨_, QueueSystem.stage?_modifyQueue hq, .stop (hagrees.trans hsent.symm), ?_⟩
      rw [List.head?_nil, Option.map_none, Option.toList_none, List.append_nil]
      exact hs.books.setWorker hq hstop fun _ _ _ _ hd => hd
  | @receive r waiting hstage hchannel =>
      have hsent := hd.sent_eq
      rw [hchannel] at hsent
      rw [hstage] at hagrees ⊢
      rw [hchannel]
      have hmem : r ∈ s.history.reached .sent q := by
        rw [hsent]
        exact List.mem_append_right _ List.mem_cons_self
      obtain ⟨hearlier, rfl⟩ := History.mem_sent.mp hmem
      have hnew : .started r ∉ s.history := by
        intro hstarted
        have hnodup := hsent ▸ hs.lawful.nodup_sent r.queue
        exact (List.disjoint_of_nodup_append hnodup) (History.mem_started.mpr ⟨hstarted, rfl⟩)
          List.mem_cons_self
      have hresults := hs.lawful.results_eq_nil (hs.lawful.submitted_of_sent hearlier) hnew
      refine ⟨_, QueueSystem.stage?_modifyQueue hq, .receive rfl (.started hsent hagrees), ?_⟩
      exact hs.books.setWorker hq (hd.received hstage hresults hchannel)
        fun _ _ _ hne hd => hd.concat_of_queue_ne hne
  | conclude hstage =>
      rw [hstage]
      refine ⟨_, QueueSystem.stage?_modifyQueue hq, .conclude, ?_⟩
      rw [Option.toList_none, List.append_nil]
      exact hs.books.setWorker hq (hd.conclude hstage) fun _ _ _ _ hd => hd
  | @perform r step rest result t hstage hperform =>
      have hqueues := QueueSystem.queues_perform hperform
      rw [hstage] at hagrees ⊢
      obtain ⟨hruns, past, htask, hpast⟩ := hagrees
      simp only [hperform, Option.map_some]
      obtain rfl := History.queue_eq_of_runs hruns
      have hlt : past.length < r.task.length := by
        rw [htask, List.length_append, List.length_cons]
        omega
      refine ⟨_, QueueSystem.stage?_modifyQueue (hqueues ▸ hq),
        .perform rfl (.performed hruns hpast hlt), ?_⟩
      exact (hs.books.of_queues_eq hqueues).setWorker (hqueues ▸ hq)
        (hd.performed hruns htask hpast) fun _ _ _ hne hd => hd.concat_of_queue_ne hne
  | report hstage =>
      rw [hstage] at hagrees ⊢
      obtain ⟨hruns, hends⟩ := hagrees
      obtain rfl := History.queue_eq_of_runs hruns
      refine ⟨_, QueueSystem.stage?_modifyQueue hq, .report rfl (.finished hruns hends), ?_⟩
      refine hs.books.modify (fun queue₁ _ hq₁ _ _ => ⟨_, rfl, ?_⟩)
        fun _ _ _ hne hd => hd.concat_of_queue_ne hne
      obtain rfl := Option.some.inj (hq.symm.trans hq₁)
      exact hd.finished hruns

theorem workerMove (hs : s.Sound) (hmove : s.WorkerMove q s') : s'.Sound := by
  obtain ⟨system, hstep, rfl⟩ := hmove
  obtain ⟨queue, w, hq, hw, hstep⟩ := QueueSystem.workerStep_eq_some.mp hstep
  obtain ⟨_, hw₁, hd⟩ := hs.books q queue hq
  obtain rfl := Option.some.inj (hw.symm.trans hw₁)
  have hopen := fun q' => QueueSystem.isOpen_workerStep hq hw hstep q'
  obtain ⟨stage, -, hturn, hbooks⟩ := hs.workerStep hq hw hd hstep
  exact hs.of_perm rfl (QueueSystem.length_workerStep hstep)
    (fun _ hm => .inl (hturn.recorded_mem hm)) (fun _ => hturn.submitted_eq)
    (fun _ => hturn.sent_eq) (fun _ => .refl _)
    (fun q' hq' => hs.closed q' (hopen q' ▸ hq')) (hturn.lawful hs.lawful) hbooks

theorem turn (hs : s.Sound) (hmove : s.WorkerMove q s') : ∃ stage stage' news,
    s.system.stage? q = some stage ∧ s'.system.stage? q = some stage' ∧
      s'.history = s.history ++ news ∧ Turn s.history q stage stage' news := by
  obtain ⟨system, hstep, rfl⟩ := hmove
  obtain ⟨queue, w, hq, hw, hstep⟩ := QueueSystem.workerStep_eq_some.mp hstep
  obtain ⟨_, hw₁, hd⟩ := hs.books q queue hq
  obtain rfl := Option.some.inj (hw.symm.trans hw₁)
  obtain ⟨stage, hstage, hturn, -⟩ := hs.workerStep hq hw hd hstep
  have hbefore : s.system.stage? q = some w.stage :=
    congrArg (Option.map _) (QueueSystem.worker?_eq_some.mpr ⟨queue, hq, hw⟩)
  exact ⟨w.stage, stage, _, hbefore, hstage, rfl, hturn⟩

theorem move (hs : s.Sound) (hmove : s.Move s') : s'.Sound := by
  rcases hmove with ⟨client, hmove⟩ | ⟨q, hmove⟩
  · exact hs.clientMove hmove
  · exact hs.workerMove hmove

theorem start (backends : List Backend) (clients : Nat) (openGates : List Nat) (state : σ) :
    (SharedQueues.start backends clients openGates state).Sound where
  lawful := History.lawful_nil
  submissions := nofun
  markers := nofun
  unsent q := by
    refine .of_eq (Eq.symm (List.flatMap_eq_nil_iff.mpr fun stage hstage => ?_))
    rw [List.eq_of_mem_replicate hstage]
    rfl
  closed q _ := List.flatMap_eq_nil_iff.mpr fun stage hstage => by
    rw [List.eq_of_mem_replicate hstage]
    rfl
  books q queue hq := by
    obtain ⟨b, -, rfl⟩ := List.mem_map.mp (List.mem_of_getElem? hq)
    exact ⟨_, rfl, rfl, rfl, rfl, rfl, rfl, nofun⟩

end Sound

theorem Reachable.sound {s₀ : SharedQueues σ} (hs₀ : s₀.Sound) (h : s₀.Reachable s) : s.Sound := by
  induction h with
  | refl => exact hs₀
  | call _ hcall ih => exact ih.call hcall
  | move _ hmove ih => exact ih.move hmove

end SharedQueues

end LaneGrid
