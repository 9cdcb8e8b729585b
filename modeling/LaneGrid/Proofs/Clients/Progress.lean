import LaneGrid.Proofs.Clients.Sound

namespace LaneGrid

variable {σ : Type}

/-- No step of the task waits. -/
def Submission.Returns (r : Submission σ) : Prop :=
  ∀ step ∈ r.task, ∃ effect, step = .act effect

namespace SharedQueues

variable {s s' : SharedQueues σ} {q q' k n client : Nat} {r : Submission σ}

/-- The worker of a queue is where it was, and at most more tasks have been sent to it. -/
structure Stays (q : Nat) (s s' : SharedQueues σ) : Prop where
  stage : s'.system.stage? q = s.system.stage? q
  sent : s.history.reached .sent q <+: s'.history.reached .sent q
  started : s'.history.reached .started q = s.history.reached .started q
  finished : s'.history.reached .finished q = s.history.reached .finished q

namespace Stays

theorem of_concat {x : Occurrence σ} (hstage : s'.system.stage? q = s.system.stage? q)
    (hhistory : s'.history = s.history ++ [x]) (hstarted : x.submission? .started = none)
    (hfinished : x.submission? .finished = none) : Stays q s s' where
  stage := hstage
  sent := by
    rw [hhistory]
    exact History.reached_isPrefix _ _ _ _
  started := by rw [hhistory, History.reached_concat_none _ _ hstarted]
  finished := by rw [hhistory, History.reached_concat_none _ _ hfinished]

theorem of_history_eq (hstage : s'.system.stage? q = s.system.stage? q)
    (hhistory : s'.history = s.history) : Stays q s s' where
  stage := hstage
  sent := by rw [hhistory]
  started := by rw [hhistory]
  finished := by rw [hhistory]

end Stays

theorem Call.stays (hcall : s.Call client s') (q : Nat) : Stays q s s' := by
  cases hcall with
  | enqueue =>
      refine .of_concat (QueueSystem.map_worker?_modifyQueue _ (fun _ _ => ?_) q) rfl rfl rfl
      rfl
  | record | wait => exact .of_concat rfl rfl rfl rfl
  | awaitMarker => exact .of_history_eq rfl rfl
  | drop =>
      refine .of_history_eq (QueueSystem.map_worker?_modifyQueue _ (fun queue _ => ?_) q) rfl
      cases queue.worker <;> rfl

theorem ClientMove.stays (hmove : s.ClientMove client s') (q : Nat) : Stays q s s' := by
  cases hmove with
  | send =>
      refine .of_concat (QueueSystem.map_worker?_modifyQueue _ (fun queue _ => ?_) q) rfl rfl rfl
      cases queue.worker <;> rfl
  | refuse | ask =>
      refine .of_concat (QueueSystem.map_worker?_modifyQueue _ (fun _ _ => ?_) q) rfl rfl rfl
      rfl
  | pass => exact .of_history_eq rfl rfl
  | leave => exact .of_concat rfl rfl rfl rfl

theorem WorkerMove.stays (hs : s.Sound) (hmove : s.WorkerMove q' s') (hne : q' ≠ q) :
    Stays q s s' := by
  obtain ⟨stage, stage', news, -, -, hnews, hturn⟩ := hs.turn hmove
  obtain ⟨system, hstep, rfl⟩ := hmove
  obtain ⟨queue, w, -, -, hstep⟩ := QueueSystem.workerStep_eq_some.mp hstep
  have hstage : system.stage? q = s.system.stage? q := by
    rw [QueueSystem.stage?, QueueSystem.worker?_workerStep_of_ne hstep hne]
    rfl
  cases hturn with
  | stop | conclude => exact .of_history_eq hstage (hnews.trans (List.append_nil _))
  | receive hq | perform hq | report hq =>
      refine ⟨hstage, ?_, ?_, ?_⟩ <;> rw [hnews, History.reached_concat_of_queue_ne]
      all_goals exact hq.trans_ne hne

/-- How many steps the worker of a queue has to take until the first `k` tasks are over. -/
def distance (s : SharedQueues σ) (q k : Nat) : Nat :=
  (((s.history.reached .sent q).take k).drop (s.history.reached .started q).length).foldr
    (fun r n => r.task.length + 3 + n) 0 + (s.system.stage? q).elim 0 WorkerStage.work

theorem Stays.distance_eq (hstays : Stays q s s')
    (hk : k ≤ (s.history.reached .sent q).length) : s'.distance q k = s.distance q k := by
  obtain ⟨more, hmore⟩ := hstays.sent
  rw [distance, distance, hstays.stage, hstays.started, ← hmore,
    List.take_append_of_le_length hk]

theorem Stays.distance_add_le {bound : Nat} (hstays : Stays q s s')
    (hk : k ≤ (s.history.reached .sent q).length)
    (hbound : (s.history.reached .finished q).length < k → s.distance q k + n ≤ bound)
    (hlt : (s'.history.reached .finished q).length < k) : s'.distance q k + n ≤ bound := by
  rw [hstays.finished] at hlt
  rw [hstays.distance_eq hk]
  exact hbound hlt

theorem distance_lt (hs : s.Sound) (hmove : s.WorkerMove q s')
    (hk : k ≤ (s.history.reached .sent q).length)
    (hlt : (s.history.reached .finished q).length < k) : s'.distance q k < s.distance q k := by
  obtain ⟨stage, stage', news, hstage, hstage', hnews, hturn⟩ := hs.turn hmove
  rw [distance, distance, hstage, hstage', hnews, hturn.sent_eq, Option.elim_some,
    Option.elim_some]
  cases hturn with
  | stop hall =>
      rw [hall] at hlt
      omega
  | @receive r hq hx =>
      subst hq
      cases hx with
      | @started _ later hfirst hfree =>
          rw [hfree] at hlt
          obtain ⟨m, rfl⟩ : ∃ m, k = (s.history.reached .started r.queue).length + (m + 1) :=
            ⟨k - (s.history.reached .started r.queue).length - 1, by omega⟩
          rw [History.reached_concat _ _ rfl, hfirst, List.length_append, List.length_singleton,
            List.take_length_add_append, List.drop_left, ← List.drop_drop, List.drop_left,
            List.take_succ_cons, List.drop_one, List.tail_cons, List.foldr_cons]
          simp only [WorkerStage.work]
          omega
  | conclude =>
      rw [List.append_nil]
      exact Nat.add_lt_add_left (Nat.lt_succ_self _) _
  | @perform r step rest result hq hx =>
      rw [History.reached_concat_none _ _ rfl]
      have hwork := QueueSystem.work_stageAfter r rest result
      exact Nat.add_lt_add_left (Nat.lt_of_le_of_lt hwork (Nat.lt_succ_self _)) _
  | report hq hx =>
      rw [History.reached_concat_none _ _ rfl]
      exact Nat.add_lt_add_left (Nat.lt_succ_self _) _

namespace Run

theorem sound (hs : s.Sound) (hrun : Run q n s s') : s'.Sound := by
  induction hrun with
  | refl => exact hs
  | call _ hcall ih => exact (ih hs).call hcall
  | client _ hmove ih => exact (ih hs).clientMove hmove
  | other _ _ hmove ih | worker _ hmove ih => exact (ih hs).workerMove hmove

theorem sent_isPrefix (hs : s.Sound) (hrun : Run q n s s') :
    s.history.reached .sent q <+: s'.history.reached .sent q := by
  induction hrun with
  | refl => exact List.prefix_refl _
  | call _ hcall ih => exact (ih hs).trans (hcall.stays q).sent
  | client _ hmove ih => exact (ih hs).trans (hmove.stays q).sent
  | other hrun hne hmove ih => exact (ih hs).trans (hmove.stays (hrun.sound hs) hne).sent
  | worker hrun hmove ih =>
      obtain ⟨_, _, news, -, -, hnews, -⟩ := (hrun.sound hs).turn hmove
      rw [hnews]
      exact (ih hs).trans (History.reached_isPrefix _ _ _ _)

theorem distance_add_le (hs : s.Sound) (hrun : Run q n s s')
    (hk : k ≤ (s.history.reached .sent q).length)
    (hlt : (s'.history.reached .finished q).length < k) :
    s'.distance q k + n ≤ s.distance q k := by
  -- Each step of the worker is paid for by the distance, which nobody else changes.
  induction hrun with
  | refl => exact le_rfl
  | call hrun hcall ih =>
      have hk' := hk.trans (hrun.sent_isPrefix hs).length_le
      exact (hcall.stays q).distance_add_le hk' (ih hs hk) hlt
  | client hrun hmove ih =>
      have hk' := hk.trans (hrun.sent_isPrefix hs).length_le
      exact (hmove.stays q).distance_add_le hk' (ih hs hk) hlt
  | other hrun hne hmove ih =>
      have hk' := hk.trans (hrun.sent_isPrefix hs).length_le
      exact (hmove.stays (hrun.sound hs) hne).distance_add_le hk' (ih hs hk) hlt
  | @worker n s s' s'' hrun hmove ih =>
      obtain ⟨_, _, news, -, -, hnews, -⟩ := (hrun.sound hs).turn hmove
      have hmono := (History.reached_isPrefix s'.history news .finished q).length_le
      rw [← hnews] at hmono
      have hstep := distance_lt (hrun.sound hs) hmove
        (hk.trans (hrun.sent_isPrefix hs).length_le) (by omega)
      have hbefore := ih hs hk (by omega)
      omega

theorem finished_of_sent (hs : s.Sound) (hrun : Run q n s s') (hr : .sent r ∈ s.history)
    (hq : r.queue = q) (hn : s.distance q (s.history.reached .sent q).length < n) :
    ∃ failure, .finished r failure ∈ s'.history := by
  have hle : (s.history.reached .sent q).length ≤ (s'.history.reached .finished q).length := by
    by_contra hlt
    have hdistance := hrun.distance_add_le hs le_rfl (Nat.lt_of_not_le hlt)
    omega
  have hfinished := (hrun.sound hs).lawful.isPrefix q
  have hbegins := List.prefix_of_prefix_length_le (hrun.sent_isPrefix hs)
    (hfinished.1.trans hfinished.2) hle
  exact (History.mem_finished.mp (hbegins.subset (History.mem_sent.mpr ⟨hr, hq⟩))).1

end Run

/-- Where a task was sent and is not over, the worker can go on, or some task on the same queue has
come to a step that waits. -/
theorem Sound.exists_workerMove (hs : s.Sound) (hr : .sent r ∈ s.history)
    (hnot : ∀ failure, .finished r failure ∉ s.history) :
    (∃ s', s.WorkerMove r.queue s') ∨ ∃ r' step,
      s.history.reached .started r.queue = s.history.reached .finished r.queue ++ [r'] ∧
        step ∈ r'.task ∧ s.system.Waits step := by
  obtain ⟨queue, hq⟩ : ∃ queue, s.system.queues[r.queue]? = some queue :=
    ⟨_, List.getElem?_eq_getElem (hs.submissions r (hs.lawful.submitted_of_sent hr)).2⟩
  obtain ⟨w, hw, hd⟩ := hs.books r.queue queue hq
  have hgo : ∀ {system}, s.system.WorkerStep r.queue queue w system →
      ∃ s', s.WorkerMove r.queue s' := fun hstep =>
    ⟨_, _, QueueSystem.workerStep_eq_some.mpr ⟨queue, w, hq, hw, hstep⟩, rfl⟩
  have hwaits : s.history.reached .finished r.queue = s.history.reached .started r.queue →
      w.channel ≠ [] := by
    intro hfree hchannel
    have hmem := History.mem_sent.mpr ⟨hr, rfl⟩
    rw [hd.sent_eq, hchannel, List.append_nil, ← hfree] at hmem
    obtain ⟨failure, hfinished⟩ := (History.mem_finished.mp hmem).1
    exact hnot failure hfinished
  have hagrees := hd.stage
  cases hstage : w.stage with
  | idle =>
      rw [hstage] at hagrees
      obtain ⟨r', waiting, hchannel⟩ := List.exists_cons_of_ne_nil (hwaits hagrees)
      exact .inl (hgo (.receive hstage hchannel))
  | running r' rest =>
      rw [hstage] at hagrees
      obtain ⟨hruns, past, htask, -⟩ := hagrees
      cases rest with
      | nil => exact .inl (hgo (.conclude hstage))
      | cons step rest =>
          cases hstep : s.system.perform queue.backend step with
          | some result => exact .inl (hgo (.perform hstage hstep))
          | none =>
              refine .inr ⟨r', step, hruns, ?_, QueueSystem.waits_of_perform_eq_none hstep⟩
              rw [htask]
              exact List.mem_append_right _ List.mem_cons_self
  | reporting => exact .inl (hgo (.report hstage))
  | stopped =>
      rw [hstage] at hagrees
      exact absurd (hd.stopped hstage).1 (hwaits hagrees)

end SharedQueues

end LaneGrid
