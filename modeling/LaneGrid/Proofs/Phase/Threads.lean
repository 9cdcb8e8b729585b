import LaneGrid.Proofs.Phase.Fibers

namespace LaneGrid

open Deed MeetingGate

/-- The score changes nothing there. -/
def Score.Spares (σ : Score) (Φ : Nat) (x : Place) : Prop :=
  ∀ i < σ.lanes, ∀ d ∈ (σ.close Φ i).log, ¬d.Writes x

/-- A block on its way to the end of its score. -/
structure OnScore (σ : Score) (own : Place → Prop) (Φ : Nat)
    (t : Team ThreadBarrier ThreadBarrier) : Prop where
  tame : t.Tame
  block_eq : t.plan.block = σ.block
  capacity_eq : t.plan.arena.capacity = σ.capacity
  stranded_eq : t.barrier.stranded = none
  /-- Only a lane that has failed closes the barrier. -/
  closed : t.barrier.poisoned = true → t.scene.Left
  follows : ∃ φ ≤ Φ, ∃ solo log, Follows σ t.plan.reserver own φ solo log t.scene

namespace OnScore

variable {σ : Score} {own : Place → Prop} {Φ lane n : Nat}
  {t t' : Team ThreadBarrier ThreadBarrier}

theorem stage?_lt (h : OnScore σ own Φ t) {i : Nat} {st : Stage} (hst : t.stage? i = some st) :
    i < σ.lanes := by
  obtain ⟨φ, -, solo, log, hfollows⟩ := h.follows
  exact hfollows.stage?_lt hst

theorem stage?_isSome (h : OnScore σ own Φ t) (i : Nat) :
    (t.stage? i).isSome = true ↔ i < σ.lanes := by
  obtain ⟨φ, -, solo, log, hfollows⟩ := h.follows
  have hnow := hfollows.ranks.lanes i
  rw [Scene.now?, Option.isSome_map] at hnow
  exact hnow

theorem size_eq (h : OnScore σ own Φ t) : t.size = σ.lanes :=
  Team.size_eq h.stage?_isSome

theorem step (h : OnScore σ own Φ t) (hσ : σ.Completes own Φ) (hstep : t.step lane = some t') :
    OnScore σ own Φ t' ∧
      (∀ x, σ.Spares Φ x → t'.memory.contents x = t.memory.contents x) ∧
      t'.memory.buffers.size = t.memory.buffers.size := by
  obtain ⟨st, hst, hplan, htame, hact⟩ := Team.step_act h.tame hstep
  obtain ⟨φ, hφ, solo, log, hfollows⟩ := h.follows
  have hlane := h.stage?_lt hst
  rw [h.block_eq, h.capacity_eq] at hact
  obtain ⟨hgate, hclosed, hstranded⟩ := hfollows.unhindered hσ hφ h.closed hst hact
  obtain ⟨φ', solo', hφ', hfollows'⟩ :=
    hfollows.step_halts (hσ.halts (Nat.zero_lt_of_lt hlane)) hφ hst hact hgate
  refine ⟨⟨htame, ?_, ?_, hstranded.trans h.stranded_eq, hclosed, φ', hφ', solo',
    Function.update log lane (log lane ++ st.deed?.toList), ?_⟩, fun x hx => ?_, hact.size_eq⟩
  · rw [hplan]
    exact h.block_eq
  · rw [hplan]
    exact h.capacity_eq
  · rw [hplan]
    exact hfollows'
  · refine hact.contents_eq fun d hd => hx lane hlane d ?_
    rw [← hσ.goal_eq hlane]
    exact hfollows.deed_mem hφ hst hd

theorem run (h : OnScore σ own Φ t) (hσ : σ.Completes own Φ) (hrun : Team.Run n t t') :
    OnScore σ own Φ t' ∧ t'.memory.buffers.size = t.memory.buffers.size := by
  induction hrun with
  | refl => exact ⟨h, rfl⟩
  | step hstep _ ih =>
      obtain ⟨hnext, -, hsize⟩ := h.step hσ hstep
      obtain ⟨hend, hsize'⟩ := ih hnext
      exact ⟨hend, hsize'.trans hsize⟩

theorem elsewhere (h : OnScore σ own Φ t) {memory : Memory}
    (hsize : memory.buffers.size = t.memory.buffers.size)
    (hown : ∀ x, own x → memory.contents x = t.memory.contents x) :
    OnScore σ own Φ { t with memory } := by
  obtain ⟨φ, hφ, solo, log, hfollows⟩ := h.follows
  exact ⟨⟨h.tame.plain, h.tame.idle⟩, h.block_eq, h.capacity_eq, h.stranded_eq, h.closed, φ, hφ,
    solo, log, hfollows.elsewhere hsize hown⟩

theorem at_rest (h : OnScore σ own Φ t) (hσ : σ.Completes own Φ) (hlanes : 0 < σ.lanes)
    (hrest : t.AtRest) :
    (∀ i < σ.lanes, ∃ o, (σ.close Φ i).program = .finish o ∧
      t.stage? i = some (.ended (told σ.block i o))) ∧
    ∀ x, own x → t.memory.contents x = σ.merge Φ (σ.close Φ) x := by
  obtain ⟨φ, hφ, solo, log, hfollows⟩ := h.follows
  have hended := hfollows.at_rest hσ hφ hlanes fun i st hst =>
    Team.stays hst (h.tame.plain i st hst) (hrest i)
  have hprefix : ∀ i < σ.lanes, log i <+: (σ.close Φ i).log := fun i hi => by
    obtain ⟨st, hst⟩ := Option.isSome_iff_exists.mp ((hfollows.ranks.lanes i).mpr hi)
    rw [← hσ.goal_eq hi]
    exact (List.prefix_append _ _).trans (hfollows.log_isPrefix hφ hst)
  obtain ⟨hdone, hcontents⟩ := hfollows.contents_eq hlanes
    (fun i hi => (hended i hi).elim fun _ ho => ⟨_, ho.2⟩)
    (hσ.harmonious.of_master.of_isPrefix hprefix)
  obtain ⟨-, hmeets, o, hfinish, -⟩ := hdone 0 hlanes
  have hlast : φ = Φ := by
    rw [← hmeets, ← σ.close_of_finish hfinish hφ]
    exact hσ.meets_eq 0 hlanes
  subst hlast
  exact ⟨hended, hcontents⟩

theorem threadsResult_eq (h : OnScore σ own Φ t) (b : BlockTask) (hended : t.pending = 0) :
    b.threadsResult t = BlockTask.resultOf σ.lanes t.outcome? := by
  have hwarps : t.warps.findSome? (·.stranded) = none := by
    rw [Array.findSome?_eq_none_iff]
    intro w hw
    obtain ⟨i, hi, rfl⟩ := Array.mem_iff_getElem.mp hw
    exact (h.tame.idle i _ (Array.getElem?_eq_getElem hi)).2
  rw [BlockTask.threadsResult, h.stranded_eq, hwarps, ← h.size_eq, ← BlockTask.firstResult_eq]
  dsimp only [Option.or]
  rw [if_pos hended]

end OnScore

namespace BlockTask

variable {b : BlockTask} {lanes warpSize : Nat} {reserver : Reserver} {own : Place → Prop}
  {Φ : Nat}

/-- The lanes of a block that have threads of their own, before any of them takes a step. They are
to do what lanes do that take turns, also when the buffers are not quite the same. -/
structure Fresh (b : BlockTask) (lanes : Nat) (own : Place → Prop) (buffers : Array Bytes)
    (t : Team ThreadBarrier ThreadBarrier) : Prop where
  tame : t.Tame
  stage_eq : ∀ i, t.stage? i =
    if i < lanes then some (.running ((b.score lanes).program i)) else none
  block_eq : t.plan.block = b.block
  capacity_eq : t.plan.arena.capacity = b.arena.capacity
  barrier_eq : t.barrier = .make lanes
  memory_eq : t.memory = ⟨.zeros, buffers⟩
  follows : Follows (b.score lanes) t.plan.reserver own 0 ((b.score lanes).phase 0) (fun _ => [])
    t.scene

theorem exists_fresh (hkernel : b.kernel.Portable) (warpSize : Nat) (reserver : Reserver)
    {buffers : Array Bytes} (hsize : buffers.size = b.buffers.size)
    (hown : ∀ x, own x →
      (Memory.mk .zeros buffers).contents x = (Memory.mk .zeros b.buffers).contents x) :
    ∃ t, BlockTask.threadTeam { b with buffers } lanes warpSize reserver = .ok t ∧
      b.Fresh lanes own buffers t := by
  obtain ⟨t, ht⟩ : ∃ t, BlockTask.threadTeam { b with buffers } lanes warpSize reserver = .ok t :=
    exists_team ..
  obtain ⟨hstage, hwarps, hmemory, htops⟩ := team_scene (b := { b with buffers }) hkernel ht rfl
  obtain ⟨hstarts, hplan, hbarrier⟩ := team_starts ht
  refine ⟨t, ht, ⟨fun i st hst => ?_, fun i w hw => ?_⟩, hstage, ?_, ?_, hbarrier, hmemory, ?_⟩
  · exact team_plain (b := { b with buffers }) hkernel hstage hst
  · rw [hwarps, Array.getElem?_map] at hw
    obtain ⟨w', -, rfl⟩ := Option.map_eq_some_iff.mp hw
    exact ⟨rfl, rfl⟩
  · rw [hplan]
  · rw [hplan]
  · refine .start t.plan.reserver hstage ?_ ?_ hstarts.top_eq hstarts.published_eq htops ?_ ?_
    · exact (congrArg ThreadBarrier.meeting hbarrier).trans rfl
    · exact congrArg ThreadBarrier.finished hbarrier
    · exact (congrArg (·.buffers.size) hmemory).trans hsize
    · exact fun x hx => (congrArg (Memory.contents · x) hmemory).trans (hown x hx)

namespace Fresh

variable {buffers : Array Bytes} {t : Team ThreadBarrier ThreadBarrier}

theorem onScore (h : b.Fresh lanes own buffers t) (Φ : Nat) : OnScore (b.score lanes) own Φ t := by
  refine ⟨h.tame, h.block_eq, h.capacity_eq, ?_, fun hclosed => ?_, 0, Nat.zero_le Φ, _, _,
    h.follows⟩
  · rw [h.barrier_eq]
    rfl
  · rw [h.barrier_eq] at hclosed
    cases hclosed

theorem size_eq (h : b.Fresh lanes own buffers t) : t.size = lanes := by
  refine Team.size_eq fun i => ?_
  rw [h.stage_eq]
  split <;> simp_all

theorem within (h : b.Fresh lanes own buffers t) :
    t.Within (t.size * Team.stepBound b.bound) :=
  Team.within_of_running fun _ _ hst => running_within h.stage_eq hst

theorem run (h : b.Fresh lanes own buffers t) :
    (∃ n, Team.Run n t (t.run b.bound fun _ t => t).2) ∧
      (t.run b.bound fun _ t => t).2.AtRest :=
  ⟨t.run_run b.bound, Team.atRest_run (fun _ _ hst => running_within h.stage_eq hst)
    fun _ t => ⟨t.reported, rfl⟩⟩

end Fresh

theorem PlaysScore.at_rest (h : b.PlaysScore lanes own Φ) (hlanes : 0 < lanes)
    {t : Team ThreadBarrier ThreadBarrier} (ht : OnScore (b.score lanes) own Φ t)
    (hrest : t.AtRest) :
    (∀ i < lanes, t.outcome? i = b.fiberOutcome? lanes i) ∧
      b.threadsResult t = (b.runFibers lanes).result ∧
      ∀ i offset, own ⟨.buffer i, offset⟩ → t.memory.contents ⟨.buffer i, offset⟩ =
        (Memory.mk .zeros (b.runFibers lanes).buffers).contents ⟨.buffer i, offset⟩ := by
  obtain ⟨hended, hcontents⟩ := ht.at_rest h.completes hlanes hrest
  have houtcome : ∀ i < lanes, t.outcome? i = b.fiberOutcome? lanes i := by
    intro i hi
    obtain ⟨o, hfinish, hst⟩ := hended i hi
    obtain ⟨o', hfinish', ho'⟩ := h.outcome_eq i hi
    rw [hfinish] at hfinish'
    obtain rfl := Program.finish.inj hfinish'
    rw [ho']
    exact Team.outcome?_eq_some.mpr hst
  have hpending : t.pending = 0 := Team.pending_eq_zero.mpr fun i st hst => by
    obtain ⟨o, -, ho⟩ := hended i (ht.stage?_lt hst)
    exact ⟨_, Option.some.inj (hst.symm.trans ho)⟩
  refine ⟨houtcome, ?_, fun i offset hx => (hcontents _ hx).trans (h.contents_eq i offset hx).symm⟩
  rw [ht.threadsResult_eq b hpending, h.result_eq]
  exact resultOf_congr houtcome

/-- Lanes that have threads of their own, and are taken in turns, leave the buffers as lanes do that
share a thread. -/
theorem runThreads_of_playsScore (hkernel : b.kernel.Portable) (hlanes : 0 < lanes)
    (h : b.PlaysScore lanes own Φ) (warpSize : Nat) (reserver : Reserver) {buffers : Array Bytes}
    (hsize : buffers.size = b.buffers.size)
    (hown : ∀ x, own x →
      (Memory.mk .zeros buffers).contents x = (Memory.mk .zeros b.buffers).contents x)
    {r : BlockReport} (hr : BlockTask.runThreads { b with buffers } lanes warpSize reserver = r) :
    r.result = (b.runFibers lanes).result ∧
      r.buffers.size = (b.runFibers lanes).buffers.size ∧
      ∀ i offset, own ⟨.buffer i, offset⟩ →
        (Memory.mk .zeros r.buffers).contents ⟨.buffer i, offset⟩ =
          (Memory.mk .zeros (b.runFibers lanes).buffers).contents ⟨.buffer i, offset⟩ := by
  obtain ⟨t, ht, hfresh⟩ := exists_fresh hkernel warpSize reserver hsize hown
  obtain ⟨⟨n, hrun⟩, hrest⟩ := hfresh.run
  rw [runThreads_eq, ht] at hr
  change report (t.run b.bound fun _ t => t).2
    (b.threadsResult (t.run b.bound fun _ t => t).2) = r at hr
  generalize (t.run b.bound fun _ t => t).2 = t' at hrun hrest hr
  obtain ⟨hscore, hsize'⟩ := (hfresh.onScore Φ).run h.completes hrun
  obtain ⟨-, hresult, hcontents⟩ := h.at_rest hlanes hscore hrest
  subst hr
  refine ⟨hresult, ?_, hcontents⟩
  rw [h.size_eq, ← hsize, report, hsize', hfresh.memory_eq]

end BlockTask

end LaneGrid
