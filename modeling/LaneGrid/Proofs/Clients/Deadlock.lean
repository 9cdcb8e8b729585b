import LaneGrid.Proofs.Clients.Promises
import LaneGrid.Queue.Client

/-!
Workers that wait for markers. A task is counted before it is sent, so a marker may count a task
that is sent only after the one that waits for the marker, and then the two block each other for
ever. `SharedQueues.exists_workerMove_of_awaitsEarlier` says that nothing else can stop all workers.
-/

namespace LaneGrid

variable {σ : Type} {h : History σ} {r r' : Submission σ} {m : Marker}

namespace History

/-- Every task waits only for tasks that were sent before it. -/
def AwaitsEarlier (h : History σ) : Prop :=
  ∀ earlier later r m, h = earlier ++ .sent r :: later → .await m ∈ r.task →
    m.target ≤ (reached earlier .sent m.queue).length

/-- No task was between being counted and being sent when a marker of its queue was recorded. -/
def RecordsSettled (h : History σ) : Prop :=
  ∀ earlier later m, h = earlier ++ .recorded m :: later →
    (reached earlier .submitted m.queue).length = (reached earlier .sent m.queue).length

theorem RecordsSettled.concat {x : Occurrence σ} (hsettled : h.RecordsSettled)
    (hx : ∀ m, x = .recorded m →
      (h.reached .submitted m.queue).length = (h.reached .sent m.queue).length) :
    RecordsSettled (h ++ [x]) := by
  intro earlier later m heq
  rcases split_concat heq with ⟨rfl, hm⟩ | ⟨later, heq⟩
  · exact hx m hm.symm
  · exact hsettled earlier later m heq

theorem Lawful.recorded_of_await {earlier later : History σ}
    (hall : Lawful (earlier ++ .sent r :: later)) (hm : .await m ∈ r.task) :
    .recorded m ∈ earlier := by
  cases hall.follows with
  | sent hsubmitted =>
      obtain ⟨before, between, rfl⟩ := List.append_of_mem hsubmitted
      cases hall.of_append.follows with
      | submitted _ hmarkers => exact List.mem_append_left _ (hmarkers m hm)

theorem Lawful.awaitsEarlier (hall : h.Lawful) (hsettled : h.RecordsSettled) :
    h.AwaitsEarlier := by
  rintro earlier later r m rfl hm
  obtain ⟨before, between, rfl⟩ := List.append_of_mem (hall.recorded_of_await hm)
  have hsame := hsettled before (between ++ .sent r :: later) m
    (by rw [List.append_assoc, List.cons_append])
  cases hall.of_append.follows with
  | recorded hcount =>
      rw [hcount, hsame]
      exact (reached_isPrefix _ _ _ _).length_le

theorem exists_first_unfinished (hr : .sent r ∈ h) (hnot : ∀ failure, .finished r failure ∉ h) :
    ∃ earlier r₁ later, h = earlier ++ .sent r₁ :: later ∧
      (∀ failure, .finished r₁ failure ∉ h) ∧
      ∀ r', .sent r' ∈ earlier → ∃ failure, .finished r' failure ∈ h := by
  classical
  let late : Occurrence σ → Bool := fun x =>
    decide (∃ r', x = .sent r' ∧ ∀ failure, .finished r' failure ∉ h)
  have hsome : (h.find? late).isSome :=
    List.find?_isSome.mpr ⟨_, hr, decide_eq_true ⟨r, rfl, hnot⟩⟩
  obtain ⟨x, hx⟩ := Option.isSome_iff_exists.mp hsome
  obtain ⟨hlate, earlier, later, heq, hearlier⟩ := List.find?_eq_some_iff_append.mp hx
  obtain ⟨r₁, rfl, hunfinished⟩ := of_decide_eq_true hlate
  refine ⟨earlier, r₁, later, heq, hunfinished, fun r' hr' => ?_⟩
  by_contra hnone
  have hfalse := hearlier _ hr'
  rw [Bool.not_eq_true', decide_eq_false_iff_not] at hfalse
  exact hfalse ⟨r', rfl, fun failure hfinished => hnone ⟨failure, hfinished⟩⟩

theorem Lawful.eq_of_runs {earlier later : History σ} (hall : h.Lawful)
    (heq : h = earlier ++ .sent r :: later) (hnot : ∀ failure, .finished r failure ∉ h)
    (hfirst : ∀ r', .sent r' ∈ earlier → ∃ failure, .finished r' failure ∈ h)
    (hruns : h.reached .started r.queue = h.reached .finished r.queue ++ [r']) : r' = r := by
  obtain ⟨-, hstarted⟩ := hall.isPrefix r.queue
  have hnodup := hruns ▸ hall.nodup_started r.queue
  have hupTo : earlier.reached .sent r.queue ++ [r] <+: h.reached .sent r.queue := by
    have hlast : reached (earlier ++ [.sent r]) .sent r.queue = _ := reached_concat earlier _ rfl
    rw [heq, List.append_cons earlier, ← hlast]
    exact reached_isPrefix _ _ _ _
  have hnotFinished : r ∉ h.reached .finished r.queue := by
    intro hmem
    obtain ⟨failure, hfinished⟩ := (mem_finished.mp hmem).1
    exact hnot failure hfinished
  rcases List.prefix_or_prefix_of_prefix hstarted hupTo with hle | hle
  · have hmem := hle.subset (hruns ▸ List.mem_append_right _ List.mem_cons_self)
    rcases List.mem_append.mp hmem with hmem | hmem
    · obtain ⟨hsent, hq⟩ := mem_sent.mp hmem
      have hfinished := mem_finished.mpr ⟨hfirst r' hsent, hq⟩
      exact absurd List.mem_cons_self (List.disjoint_of_nodup_append hnodup hfinished)
    · exact List.mem_singleton.mp hmem
  · have hmem := hle.subset (List.mem_append_right _ List.mem_cons_self)
    rw [hruns] at hmem
    rcases List.mem_append.mp hmem with hmem | hmem
    · exact absurd hmem hnotFinished
    · exact (List.mem_singleton.mp hmem).symm

end History

namespace SharedQueues

variable {s s' : SharedQueues σ}

theorem Sound.isComplete_of_le (hs : s.Sound) (hq : m.queue < s.system.queues.length)
    (hle : m.target ≤ (s.history.reached .finished m.queue).length) :
    s.system.isComplete m = true := by
  have hqueue := List.getElem?_eq_getElem hq
  obtain ⟨w, -, hd⟩ := hs.books m.queue _ hqueue
  rw [QueueSystem.isComplete, hqueue, Option.any_some, TaskAccount.reaches, decide_eq_true_eq,
    hd.completed_eq]
  exact hle

theorem Sound.exists_workerMove_of_first {earlier later : History σ} (hs : s.Sound)
    (hearlier : s.history.AwaitsEarlier)
    (hpasses : ∀ r', .sent r' ∈ s.history → ∀ gate, .pass gate ∉ r'.task)
    (heq : s.history = earlier ++ .sent r :: later)
    (hnot : ∀ failure, .finished r failure ∉ s.history)
    (hfirst : ∀ r', .sent r' ∈ earlier → ∃ failure, .finished r' failure ∈ s.history) :
    ∃ s', s.WorkerMove r.queue s' := by
  have hr : .sent r ∈ s.history := heq ▸ List.mem_append_right _ List.mem_cons_self
  rcases hs.exists_workerMove hr hnot with hmove | ⟨r', step, hruns, hstep, hwaits⟩
  · exact hmove
  · obtain rfl := hs.lawful.eq_of_runs heq hnot hfirst hruns
    cases hwaits with
    | pass => exact absurd hstep (hpasses r' hr _)
    | @await m hpending =>
        -- The marker counts tasks that were sent earlier, and all of these are over.
        have htarget := hearlier earlier later r' m heq hstep
        have hsub : earlier.reached .sent m.queue ⊆ s.history.reached .finished m.queue := by
          intro r₁ hr₁
          obtain ⟨hsent, hq⟩ := History.mem_sent.mp hr₁
          exact History.mem_finished.mpr ⟨hfirst r₁ hsent, hq⟩
        have hall := hs.lawful
        rw [heq] at hall
        have hle := (List.subperm_of_subset (hall.of_append.nodup_sent m.queue) hsub).length_le
        have hrecorded : .recorded m ∈ s.history :=
          heq ▸ List.mem_append_left _ (hall.recorded_of_await hstep)
        rw [hs.isComplete_of_le (hs.markers m hrecorded) (htarget.trans hle)] at hpending
        cases hpending

theorem Sound.settled_of_one {client : Nat} (hs : s.Sound) (hone : s.clients.length = 1)
    (hfree : s.clients[client]? = some .free) (q : Nat) :
    (s.history.reached .submitted q).length = (s.history.reached .sent q).length := by
  obtain ⟨stage, hstage⟩ := List.length_eq_one_iff.mp hone
  have hclients : s.clients = [.free] := by
    have hmem := List.mem_of_getElem? hfree
    rw [hstage, List.mem_singleton] at hmem
    rw [hstage, hmem]
  have hperm := hs.unsent q
  rw [hclients] at hperm
  exact hperm.length_eq.trans (by simp [ClientStage.unsent])

theorem Reachable.awaitsEarlier_of_one {backends : List Backend} {openGates : List Nat} {state : σ}
    (h : (start backends 1 openGates state).Reachable s) : s.history.AwaitsEarlier := by
  have hsound : ∀ {s}, (start backends 1 openGates state).Reachable s → s.Sound := fun h =>
    h.sound (.start backends 1 openGates state)
  suffices hsettled : s.clients.length = 1 ∧ s.history.RecordsSettled from
    (hsound h).lawful.awaitsEarlier hsettled.2
  induction h with
  | refl => exact ⟨rfl, by rintro (_ | _) later m heq <;> cases heq⟩
  | call h hcall ih =>
      obtain ⟨hone, hsettled⟩ := ih
      cases hcall with
      | enqueue => exact ⟨List.length_set.trans hone, hsettled.concat nofun⟩
      | record hfree =>
          exact ⟨hone, hsettled.concat fun _ _ => (hsound h).settled_of_one hone hfree _⟩
      | wait hfree =>
          exact ⟨List.length_set.trans hone,
            hsettled.concat fun _ _ => (hsound h).settled_of_one hone hfree _⟩
      | awaitMarker | drop => exact ⟨List.length_set.trans hone, hsettled⟩
  | move h hmove ih =>
      obtain ⟨hone, hsettled⟩ := ih
      rcases hmove with ⟨client, hmove⟩ | ⟨q, hmove⟩
      · cases hmove with
        | pass => exact ⟨List.length_set.trans hone, hsettled⟩
        | _ => exact ⟨List.length_set.trans hone, hsettled.concat nofun⟩
      · obtain ⟨_, _, news, -, -, hnews, hturn⟩ := (hsound h).turn hmove
        obtain ⟨system, -, rfl⟩ := hmove
        refine ⟨hone, ?_⟩
        rw [hnews]
        cases hturn with
        | stop | conclude =>
            rw [List.append_nil]
            exact hsettled
        | receive | perform | report => exact hsettled.concat nofun

theorem Sound.exists_clientMove {client : Nat} (hs : s.Sound)
    (hstage : s.clients[client]? = some (.sending r)) : ∃ s', s.ClientMove client s' :=
  ⟨_, .send hstage (hs.hasStopped_eq_false hstage)⟩

theorem Sound.sent_of_submitted (hs : s.Sound) (hclients : ∀ client s', ¬s.ClientMove client s')
    (hr : .submitted r ∈ s.history) : .sent r ∈ s.history := by
  have hmem := (hs.unsent r.queue).mem_iff.mp (History.mem_submitted.mpr ⟨hr, rfl⟩)
  rcases List.mem_append.mp hmem with hmem | hmem
  · exact (History.mem_sent.mp hmem).1
  · obtain ⟨stage, hstage, hunsent⟩ := List.mem_flatMap.mp hmem
    obtain ⟨client, hclient⟩ := List.mem_iff_getElem?.mp hstage
    cases stage with
    | sending r' =>
        obtain ⟨s', hmove⟩ := hs.exists_clientMove hclient
        exact absurd hmove (hclients client s')
    | _ => cases hunsent

/-- Where tasks wait only for tasks that were sent before them, workers never stop all of them:
some worker goes on, and it finishes the task that all others wait for. -/
theorem exists_workerMove_of_awaitsEarlier {backends : List Backend} {clients : Nat}
    {openGates : List Nat} {state : σ} (h : (start backends clients openGates state).Reachable s)
    (hearlier : s.history.AwaitsEarlier)
    (hpasses : ∀ r', .sent r' ∈ s.history → ∀ gate, .pass gate ∉ r'.task)
    (hclients : ∀ client s', ¬s.ClientMove client s')
    (hr : .submitted r ∈ s.history) (hnot : ∀ failure, .finished r failure ∉ s.history) :
    ∃ earlier r₁ later, s.history = earlier ++ .sent r₁ :: later ∧
      (∀ failure, .finished r₁ failure ∉ s.history) ∧
      (∀ r', .sent r' ∈ earlier → ∃ failure, .finished r' failure ∈ s.history) ∧
      (∃ s', s.WorkerMove r₁.queue s') ∧
      ∃ limit, ∀ n s', Run r₁.queue n s s' → limit ≤ n →
        ∃ failure, .finished r₁ failure ∈ s'.history := by
  have hs := h.sound (.start backends clients openGates state)
  obtain ⟨earlier, r₁, later, heq, hunfinished, hfirst⟩ :=
    History.exists_first_unfinished (hs.sent_of_submitted hclients hr) hnot
  have hmove := hs.exists_workerMove_of_first hearlier hpasses heq hunfinished hfirst
  have hsent : .sent r₁ ∈ s.history := heq ▸ List.mem_append_right _ List.mem_cons_self
  refine ⟨earlier, r₁, later, heq, hunfinished, hfirst, hmove, ?_⟩
  exact ⟨_, fun n s' hrun hn => hrun.finished_of_sent hs hsent rfl (Nat.lt_of_succ_le hn)⟩

def quick : QueueTask Unit :=
  [.act fun _ state => (.ok (), state)]

def markerTask : QueueTask Unit :=
  [.await ⟨0, 1⟩]

/-- One worker waits for a task that the other one still has to receive. -/
theorem exists_workerMove_quick :
    ∃ s, (start [plainBackend, plainBackend] 1 [] ()).Reachable s ∧
      (∀ s', ¬s.WorkerMove 1 s') ∧ ∃ r₁, (∀ failure, .finished r₁ failure ∉ s.history) ∧
        (∃ s', s.WorkerMove r₁.queue s') ∧ ∃ limit, ∀ n s', Run r₁.queue n s s' → limit ≤ n →
          ∃ failure, .finished r₁ failure ∈ s'.history := by
  obtain ⟨s, hreach, hhistory, hclients, hsystem⟩ :
      ∃ s, (start [plainBackend, plainBackend] 1 [] ()).Reachable s ∧
        s.history = [.submitted ⟨0, 0, quick⟩, .sent ⟨0, 0, quick⟩, .recorded ⟨0, 1⟩,
          .submitted ⟨1, 1, markerTask⟩, .sent ⟨1, 1, markerTask⟩,
          .started ⟨1, 1, markerTask⟩] ∧
        s.clients = [.free] ∧
        s.system = ⟨[⟨plainBackend, ⟨1, 0, none⟩, some ⟨[⟨0, 0, quick⟩], false, .idle⟩⟩,
          ⟨plainBackend, ⟨1, 0, none⟩,
            some ⟨[], false, .running ⟨1, 1, markerTask⟩ markerTask⟩⟩], [], ()⟩ := by
    have h₁ := Reachable.call (@Reachable.refl Unit (start [plainBackend, plainBackend] 1 [] ()))
      (@Call.enqueue Unit _ 0 0 quick rfl rfl (by simp [quick]))
    have h₂ := h₁.move (.inl ⟨0, .send rfl rfl⟩)
    have h₃ := h₂.call (@Call.record Unit _ 0 0 ⟨0, 1⟩ rfl rfl rfl)
    have h₄ := h₃.call (@Call.enqueue Unit _ 0 1 markerTask rfl rfl (by simp [markerTask]))
    have h₅ := h₄.move (.inl ⟨0, .send rfl rfl⟩)
    have h₆ := h₅.move (.inr ⟨1, _, rfl, rfl⟩)
    exact ⟨_, h₆, rfl, rfl, rfl⟩
  have hquiet : ∀ client s', ¬s.ClientMove client s' := by
    intro client s' hmove
    have hfree : ∀ {stage : ClientStage Unit}, s.clients[client]? = some stage → stage = .free := by
      intro stage hstage
      have hmem := List.mem_of_getElem? hstage
      rw [hclients] at hmem
      simpa using hmem
    cases hmove with
    | send h | refuse h | pass h | ask h | leave h => cases hfree h
  obtain ⟨-, r₁, -, -, hnot, -, hmove, hlimit⟩ := exists_workerMove_of_awaitsEarlier hreach
    hreach.awaitsEarlier_of_one (by simp [hhistory, quick, markerTask]) hquiet
    (r := ⟨1, 1, markerTask⟩) (by simp [hhistory]) (by simp [hhistory])
  refine ⟨s, hreach, ?_, r₁, hnot, hmove, hlimit⟩
  rintro s' ⟨system, hstep, -⟩
  rw [hsystem] at hstep
  cases hstep

/-- A client is counted first and sends last. In between, another one records a marker and sends a
task that waits for it. Then both wait for the queue. -/
theorem exists_stuck_history :
    ∃ s, (start [plainBackend] 2 [] ()).Reachable s ∧
      s.history = [.submitted ⟨0, 0, quick⟩, .recorded ⟨0, 1⟩, .submitted ⟨1, 0, markerTask⟩,
        .sent ⟨1, 0, markerTask⟩, .sent ⟨0, 0, quick⟩, .started ⟨1, 0, markerTask⟩,
        .recorded ⟨0, 2⟩, .recorded ⟨0, 2⟩] ∧
      s.clients = [.awaiting ⟨0, 2⟩ true, .awaiting ⟨0, 2⟩ true] ∧
      s.system = ⟨[⟨plainBackend, ⟨2, 0, none⟩,
        some ⟨[⟨0, 0, quick⟩], false, .running ⟨1, 0, markerTask⟩ markerTask⟩⟩], [], ()⟩ := by
  have h₁ := Reachable.call (@Reachable.refl Unit (start [plainBackend] 2 [] ()))
    (@Call.enqueue Unit _ 0 0 quick rfl rfl (by simp [quick]))
  have h₂ := h₁.call (@Call.record Unit _ 1 0 ⟨0, 1⟩ rfl rfl rfl)
  have h₃ := h₂.call (@Call.enqueue Unit _ 1 0 markerTask rfl rfl (by simp [markerTask]))
  have h₄ := h₃.move (.inl ⟨1, .send rfl rfl⟩)
  have h₅ := h₄.move (.inl ⟨0, .send rfl rfl⟩)
  have h₆ := h₅.move (.inr ⟨0, _, rfl, rfl⟩)
  have h₇ := h₆.call (@Call.wait Unit _ 0 0 ⟨0, 2⟩ rfl rfl rfl)
  have h₈ := h₇.call (@Call.wait Unit _ 1 0 ⟨0, 2⟩ rfl rfl rfl)
  exact ⟨_, h₈, rfl, rfl, rfl⟩

theorem exists_stuck : ∃ s, (start [plainBackend] 2 [] ()).Reachable s ∧
    (∃ r, .sent r ∈ s.history ∧ r.Returns ∧ ∀ failure, .finished r failure ∉ s.history) ∧
    (∀ r, .sent r ∈ s.history → ∀ gate, .pass gate ∉ r.task) ∧
    (∀ client s', ¬s.Call client s' ∧ ¬s.ClientMove client s') ∧ ∀ q s', ¬s.WorkerMove q s' := by
  obtain ⟨s, hreach, hhistory, hclients, hsystem⟩ := exists_stuck_history
  have hpending : s.system.isComplete ⟨0, 2⟩ = false := by
    rw [hsystem]
    rfl
  have hstage : ∀ {client : Nat} {stage : ClientStage Unit}, s.clients[client]? = some stage →
      stage = .awaiting ⟨0, 2⟩ true := by
    intro client stage hstage
    have hmem := List.mem_of_getElem? hstage
    rw [hclients] at hmem
    simpa using hmem
  refine ⟨s, hreach, ⟨⟨0, 0, quick⟩, ?_, ?_, ?_⟩, ?_, fun client s' => ⟨?_, ?_⟩, ?_⟩
  · simp [hhistory]
  · simp [Submission.Returns, quick]
  · simp [hhistory]
  · simp [hhistory, quick, markerTask]
  · intro hcall
    cases hcall with
    | enqueue hfree | record hfree | wait hfree | awaitMarker hfree | drop hfree =>
        cases hstage hfree
  · intro hmove
    cases hmove with
    | pass h hm =>
        cases hstage h
        rw [hpending] at hm
        cases hm
    | send h | refuse h | ask h | leave h => cases hstage h
  · rintro q s' ⟨system, hstep, -⟩
    rw [hsystem] at hstep
    cases q with
    | zero => cases hstep
    | succ q => cases hstep

end SharedQueues

namespace QueueSystem

theorem settle_of_advance_eq_none {s : QueueSystem σ} (h : s.advance = none) : s.settle = s := by
  rw [settle]
  split
  · rename_i t ht
    rw [h] at ht
    cases ht
  · rfl

theorem settle_of_advance {s t : QueueSystem σ} (h : s.advance = some t) :
    s.settle = t.settle := by
  rw [settle]
  split
  · rename_i u hu
    rw [Option.some.inj (hu.symm.trans h)]
  · rename_i hnone
    rw [h] at hnone
    cases hnone

theorem exists_hanging_wait {b : Backend} : ∃ s m t,
    enqueue ⟨[.blocking b, .working b], [], ()⟩ 0 SharedQueues.boom =
        some (.error (.fault (.raised (some "boom"))), s) ∧
      s.record 0 = some m ∧ s.waitFor 1 m = some t ∧ t.isComplete m = false ∧ t.wait 1 = none := by
  let s : QueueSystem Unit := ⟨[⟨b, ⟨1, 0, none⟩, none⟩, .working b], [], ()⟩
  let t : QueueSystem Unit := ⟨[⟨b, ⟨1, 0, none⟩, none⟩,
    ⟨b, ⟨1, 0, none⟩, some ⟨[], false, .running ⟨0, 1, [.await ⟨0, 1⟩]⟩ [.await ⟨0, 1⟩]⟩⟩], [], ()⟩
  have hs : s.settle = s := settle_of_advance_eq_none rfl
  have ht : ((s.submit 1).send ⟨0, 1, [.await ⟨0, 1⟩]⟩).settle = t :=
    (settle_of_advance rfl).trans (settle_of_advance_eq_none rfl)
  refine ⟨s, ⟨0, 1⟩, t, ?_, rfl, congrArg some ht, rfl, rfl⟩
  exact congrArg (fun u => some ((.error (.fault (.raised (some "boom"))) : Outcome Unit), u)) hs

end QueueSystem

namespace SharedQueues

/-- Workers can stop for ever although every task comes to an end: two clients that use one queue
can bring that about, and so can one whose task panics in a queue without a worker. -/
theorem workers_can_hang :
    (∃ s, (start [plainBackend] 2 [] ()).Reachable s ∧
      (∃ r, .sent r ∈ s.history ∧ r.Returns ∧ ∀ failure, .finished r failure ∉ s.history) ∧
      (∀ r, .sent r ∈ s.history → ∀ gate, .pass gate ∉ r.task) ∧
      (∀ client s', ¬s.Call client s' ∧ ¬s.ClientMove client s') ∧
      ∀ q s', ¬s.WorkerMove q s') ∧
    ∃ s m t, QueueSystem.enqueue
        ⟨[.blocking plainBackend, .working plainBackend], [], ()⟩
        0 boom = some (.error (.fault (.raised (some "boom"))), s) ∧
      s.record 0 = some m ∧ s.waitFor 1 m = some t ∧ t.isComplete m = false ∧ t.wait 1 = none :=
  ⟨exists_stuck, QueueSystem.exists_hanging_wait⟩

end SharedQueues

end LaneGrid
