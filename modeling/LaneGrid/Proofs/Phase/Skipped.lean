import LaneGrid.Proofs.Phase.Threads

/-!
Blocks in which some lanes come to their ends while others wait for a meeting that can never be
complete. Lanes that share a thread report how many wait. Lanes that have threads of their own give
up the meeting as soon as one lane waits and another one has gone, and report all that have not gone
by then.
-/

namespace LaneGrid

open Deed MeetingGate

namespace Score

/-- Whether a lane has come to its end by phase `k`. -/
def isOver (σ : Score) (k i : Nat) : Bool :=
  match (σ.close k i).program with
  | .finish _ => true
  | _ => false

/-- Lanes that have not come to their ends by phase `k`. -/
def pending (σ : Score) (k : Nat) : Nat :=
  (List.range σ.lanes).countP fun i => !σ.isOver k i

/-- In phase `Φ` some lanes of the score come to their ends, all of them well, and some do not. -/
structure Skips (σ : Score) (own : Place → Prop) (Φ : Nat) : Prop extends σ.Halts own Φ where
  ends_well : ∀ i < σ.lanes, ∀ o, (σ.close Φ i).program = .finish o → o = .ok ()
  waits : ∃ i < σ.lanes, ∀ o, (σ.close Φ i).program ≠ .finish o

variable {σ : Score} {k i : Nat}

theorem isOver_iff : σ.isOver k i = true ↔ ∃ o, (σ.close k i).program = .finish o := by
  rw [isOver]
  split
  · rename_i o hfinish
    exact ⟨fun _ => ⟨o, hfinish⟩, fun _ => rfl⟩
  · rename_i hgoes
    exact ⟨nofun, fun ⟨o, hfinish⟩ => absurd hfinish (hgoes o)⟩

theorem length_add_pending_le {gone : List Nat} (hnodup : gone.Nodup)
    (hgone : ∀ i ∈ gone, i < σ.lanes ∧ ∃ o, (σ.close k i).program = .finish o) :
    gone.length + σ.pending k ≤ σ.lanes := by
  have hsub : gone ⊆ (List.range σ.lanes).filter (σ.isOver k) := fun i hi =>
    List.mem_filter.mpr ⟨List.mem_range.mpr (hgone i hi).1, isOver_iff.mpr (hgone i hi).2⟩
  have hle := hnodup.length_le_of_subset hsub
  have hsum := List.length_eq_countP_add_countP (σ.isOver k) (l := List.range σ.lanes)
  rw [← List.countP_eq_length_filter] at hle
  rw [List.length_range] at hsum
  have hpending : σ.pending k = (List.range σ.lanes).countP fun i => ¬σ.isOver k i := by
    simp [pending]
  omega

end Score

namespace Follows

variable {σ : Score} {reserver : Reserver} {own : Place → Prop} {φ Φ lane : Nat}
  {solo : Nat → Solo} {log : Nat → List Deed} {s : Scene ThreadBarrier} {st : Stage}

theorem finished_add_pending_le (h : Follows σ reserver own φ solo log s) (hφ : φ ≤ Φ) :
    s.barrier.finished + σ.pending Φ ≤ σ.lanes := by
  obtain ⟨gone, hnodup, hgone, hlength⟩ := h.ranks.departed_le
  have hle := Score.length_add_pending_le hnodup fun i hi => h.finish_of_gone hφ (hgone i hi)
  exact (Nat.add_le_add_right hlength _).trans hle

theorem finished_succ_add_pending_le (h : Follows σ reserver own φ solo log s) (hφ : φ ≤ Φ)
    (hst : s.now? lane = some st) (hstays : ¬st.HasLeft) {o : Outcome Unit}
    (hfinish : (solo lane).program = .finish o) :
    s.barrier.finished + 1 + σ.pending Φ ≤ σ.lanes := by
  obtain ⟨gone, hnodup, hgone, hlength⟩ := h.ranks.departed_le
  have hlane : lane ∉ gone := fun hlane => by
    obtain ⟨_, hst', hleft⟩ := hgone lane hlane
    obtain rfl := Option.some.inj (hst.symm.trans hst')
    exact hstays hleft
  have hle := Score.length_add_pending_le (σ := σ) (k := Φ)
    (List.nodup_cons.mpr ⟨hlane, hnodup⟩) fun i hi => by
      rcases List.mem_cons.mp hi with rfl | hi
      · exact ⟨h.ranks.lane_lt hst, o, h.finish_of_finish hφ (h.ranks.lane_lt hst) hfinish⟩
      · exact h.finish_of_gone hφ (hgone i hi)
  rw [List.length_cons] at hle
  have hfinished : s.barrier.finished ≤ gone.length := hlength
  omega

end Follows

/-- A lane that has asked for nothing and cannot go on has come to the end of its way: it has ended,
or waits for a meeting. -/
theorem Follows.rests {β : Type} [Gate β] [MeetingGate β] {σ : Score} {reserver : Reserver}
    {own : Place → Prop} {φ i : Nat} {solo : Nat → Solo} {log : Nat → List Deed} {s : Scene β}
    {st : Stage} (h : Follows σ reserver own φ solo log s) (hst : s.stage? i = some st)
    (hrest : (∃ o, st = .ended o) ∨
      ∃ g r, st = .waiting .block g r ∧ Gate.look s.barrier g = .waiting g)
    (hrequests : requests (log i) = []) :
    σ.goal φ i = log i ∧
      ((∃ o, (σ.close φ i).program = .finish o ∧ st = .ended (told σ.block i o)) ∨
        ∃ c next, (σ.close φ i).program = .arrive .block c next ∧ st.outcome? = none) := by
  have hi := h.stage?_lt hst
  obtain ⟨hnow, hends⟩ := ended_or_waits hst hrest
  obtain ⟨pending, hstand, hlog⟩ := h.ranks.stands i st hnow
  have hasks {k : ElementKind} {n : Nat} (hpending : log i = (solo i).log ++ [.request k n]) :
      False := by
    rw [hpending, requests_append] at hrequests
    exact List.cons_ne_nil _ _ (List.append_eq_nil_iff.mp hrequests).2
  rcases hends with ⟨o, rfl⟩ | ⟨st', hst', hawaited⟩
  · cases hstand with
    | ended hfinish ho =>
        have hclose := h.close_of_finish hi hfinish
        rw [σ.goal_of_finish (by rw [hclose]; exact hfinish), hclose, hlog, List.append_nil]
        exact ⟨rfl, .inl ⟨_, hfinish, ho ▸ rfl⟩⟩
  · obtain rfl := Option.some.inj (hnow.symm.trans hst')
    cases hstand with
    | meets hprogram =>
        have hclose : σ.close φ i = solo i := by
          rw [← h.ranks.onWay i hi, Score.rest, hprogram, Program.goOn, ← hprogram]
        rw [σ.goal_of_arrive (by rw [hclose]; exact hprogram), hclose, hlog]
        exact ⟨rfl, .inr ⟨_, _, hprogram, rfl⟩⟩
    | asks _ _ | closes _ _ => exact (hasks hlog).elim
    | _ => cases hawaited

/-- A block whose barrier is still open. At no time has a lane gone while another one waits. -/
structure Underway (σ : Score) (own : Place → Prop) (Φ : Nat)
    (t : Team ThreadBarrier ThreadBarrier) : Prop where
  block_eq : t.plan.block = σ.block
  capacity_eq : t.plan.arena.capacity = σ.capacity
  isOpen : t.barrier.poisoned = false
  apart : t.barrier.finished = 0 ∨ t.barrier.meeting.arrived = 0
  left : t.scene.Left → t.barrier.finished ≠ 0
  follows : ∃ φ ≤ Φ, ∃ solo log, Follows σ t.plan.reserver own φ solo log t.scene

/-- A meeting has been given up, and with it at least the lanes that wait in the end. -/
structure GivenUp (σ : Score) (Φ : Nat) (t : Team ThreadBarrier ThreadBarrier) : Prop where
  isClosed : t.barrier.poisoned = true
  stranded : ∃ p, t.barrier.stranded = some p ∧ σ.pending Φ ≤ p ∧ p < σ.lanes

variable {σ : Score} {own : Place → Prop} {Φ lane n : Nat}
  {t t' : Team ThreadBarrier ThreadBarrier}

theorem GivenUp.step (h : GivenUp σ Φ t) (ht : t.Tame) (hstep : t.step lane = some t') :
    GivenUp σ Φ t' := by
  obtain ⟨st, hst, -, -, hact⟩ := Team.step_act ht hstep
  obtain ⟨hclosed, hstranded⟩ := ThreadBarrier.handles_closed hact.handles h.isClosed
  obtain ⟨p, hp, hbounds⟩ := h.stranded
  exact ⟨hclosed, p, hstranded.trans hp, hbounds⟩

theorem Underway.step (h : Underway σ own Φ t) (hσ : σ.Skips own Φ) (ht : t.Tame)
    (hstep : t.step lane = some t') : Underway σ own Φ t' ∨ GivenUp σ Φ t' := by
  obtain ⟨st, hst, hplan, htame, hact⟩ := Team.step_act ht hstep
  obtain ⟨φ, hφ, solo, log, hfollows⟩ := h.follows
  rw [h.block_eq, h.capacity_eq] at hact
  have hiff := hact.left_iff hst
  have hsize : t.barrier.meeting.size = max σ.lanes 1 := hfollows.ranks.size_eq
  -- As long as the barrier stays open, the block follows its score.
  have hunderway (hopen : t'.barrier.poisoned = false)
      (hapart : t'.barrier.finished = 0 ∨ t'.barrier.meeting.arrived = 0)
      (hleft : t'.scene.Left → t'.barrier.finished ≠ 0) : Underway σ own Φ t' := by
    obtain ⟨φ', solo', hφ', hfollows'⟩ :=
      hfollows.step_halts hσ.toHalts hφ hst hact (.isOpen h.isOpen hopen)
    exact ⟨by rw [hplan]; exact h.block_eq, by rw [hplan]; exact h.capacity_eq, hopen, hapart,
      hleft, φ', hφ', solo', _, hplan ▸ hfollows'⟩
  have hhandles : Handles t.plan.reserver st t.barrier t'.barrier := hact.handles
  generalize hb : t'.barrier = b at hhandles hunderway
  cases hhandles with
  | spares hstays =>
      refine .inl (hunderway h.isOpen h.apart fun hleft => ?_)
      exact h.left ((hiff.mp hleft).resolve_right fun ⟨o, ho⟩ => hstays o ho)
  | @arrives c r hpasses =>
      have hnow := t.scene.now?_of_awaited hst (Stage.awaited_of_passes hpasses)
      have hlt : t.barrier.finished < t.barrier.meeting.size :=
        hfollows.departed_lt hnow (Stage.stays_of_passes hpasses)
      obtain ⟨hverdict, hsame⟩ := ThreadBarrier.arrive_verdict h.isOpen (Nat.le_of_lt hlt) c
      have hpending := hfollows.finished_add_pending_le hφ
      change t.barrier.finished + _ ≤ _ at hpending
      cases hverdict with
      | stays hopen _ hapart =>
          refine .inl (hunderway hopen hapart fun hleft => ?_)
          rw [hsame]
          refine h.left ((hiff.mp hleft).resolve_right ?_)
          rintro ⟨o, rfl⟩
          cases hpasses
      | givesUp hclosed hstranded hgone =>
          rw [hsame] at hgone hstranded
          rw [← hb] at hclosed hstranded
          exact .inr ⟨hclosed, _, hstranded, by omega, by omega⟩
  | @leaves o hleaving =>
      subst hleaving
      have hnow := t.scene.now?_of_awaited hst rfl
      have hlane := hfollows.ranks.lane_lt hnow
      obtain ⟨pending, hstand, -⟩ := hfollows.ranks.stands lane _ hnow
      cases hstand with
      | leaving hfinish ho =>
          obtain rfl := hσ.ends_well lane hlane _ (hfollows.finish_of_finish hφ hlane hfinish)
          have hlt : t.barrier.finished < t.barrier.meeting.size := hfollows.departed_lt hnow id
          have hpending := hfollows.finished_succ_add_pending_le hφ hnow id hfinish
          change t.barrier.finished + 1 + _ ≤ _ at hpending
          have hok : o.isOk.not = false := by rw [ho]; rfl
          rw [hok] at hunderway hb
          obtain ⟨hverdict, hone⟩ := ThreadBarrier.leave_verdict h.isOpen hlt
          cases hverdict with
          | stays hopen _ hapart =>
              refine .inl (hunderway hopen hapart fun _ => ?_)
              rw [hone]
              exact Nat.succ_ne_zero _
          | givesUp hclosed hstranded =>
              rw [hone] at hstranded
              rw [← hb] at hclosed hstranded
              exact .inr ⟨hclosed, _, hstranded, by omega, by omega⟩

theorem Underway.run (h : Underway σ own Φ t ∨ GivenUp σ Φ t) (hσ : σ.Skips own Φ) (ht : t.Tame)
    (hrun : Team.Run n t t') : t'.Tame ∧ (Underway σ own Φ t' ∨ GivenUp σ Φ t') := by
  induction hrun with
  | refl => exact ⟨ht, h⟩
  | step hstep _ ih =>
      obtain ⟨-, -, -, htame, -⟩ := Team.step_act ht hstep
      refine ih ?_ htame
      rcases h with h | h
      · exact h.step hσ ht hstep
      · exact .inr (h.step ht hstep)

theorem Underway.not_atRest (h : Underway σ own Φ t) (hσ : σ.Skips own Φ) (ht : t.Tame) :
    ¬t.AtRest := by
  intro hrest
  obtain ⟨φ, hφ, solo, log, hfollows⟩ := h.follows
  have hstays {i : Nat} (hi : i < σ.lanes) : ∃ st, t.stage? i = some st ∧
      t.scene.now? i = some st ∧ ((∃ o, st = .ended o) ∨ Waits t.scene.now? i) := by
    obtain ⟨st, hnow⟩ := Option.isSome_iff_exists.mp ((hfollows.ranks.lanes i).mpr hi)
    obtain ⟨st₁, hst₁, -⟩ := Option.map_eq_some_iff.mp hnow
    exact ⟨st₁, hst₁, Follows.ended_or_waits (s := t.scene) hst₁
      (Team.stays hst₁ (ht.plain i st₁ hst₁) (hrest i))⟩
  obtain ⟨first, hfirst, -⟩ := hσ.ends
  obtain ⟨j, hj, hnot⟩ := hfollows.exists_not_waits (Nat.zero_lt_of_lt hfirst)
  obtain ⟨st, hst, -, hends⟩ := hstays hj
  obtain ⟨o, rfl⟩ := hends.resolve_right hnot
  have hcalm := hfollows.arrived_eq_zero.mp (h.apart.resolve_left (h.left ⟨j, _, hst, trivial⟩))
  obtain ⟨i, hi, hgoes⟩ := hσ.waits
  obtain ⟨st', -, hnow, hends'⟩ := hstays hi
  obtain ⟨o', rfl⟩ := hends'.resolve_right (hcalm i)
  obtain ⟨pending, hstand, -⟩ := hfollows.ranks.stands i _ hnow
  obtain ⟨o₁, hfinish⟩ := hstand.finish_of_hasLeft trivial
  exact hgoes o₁ (hfollows.finish_of_finish hφ hi hfinish)

namespace BlockTask

variable {b : BlockTask} {lanes : Nat}

theorem Fresh.underway {buffers : Array Bytes} (h : b.Fresh lanes own buffers t) (Φ : Nat) :
    Underway (b.score lanes) own Φ t := by
  have hbarrier := h.barrier_eq
  refine ⟨h.block_eq, h.capacity_eq, ?_, .inl ?_, ?_, 0, Nat.zero_le Φ, _, _, h.follows⟩
  · rw [hbarrier]
    rfl
  · rw [hbarrier]
    rfl
  · rintro ⟨i, st, hst, hleft⟩
    obtain ⟨p, rfl, -⟩ := running_within h.stage_eq hst
    exact hleft.elim

/-- Lanes that have not ended where the lanes take turns. -/
def blocked (b : BlockTask) (lanes : Nat) : Nat :=
  (List.range lanes).countP fun i => (b.fiberOutcome? lanes i).isNone

/-- Lanes that take turns, do not get in each other's way and ask for no shared memory. None of them
fails, but some return while others are left waiting for a meeting. -/
structure SkipsMeeting (b : BlockTask) (lanes : Nat) : Prop where
  harmonious : Harmonious .master lanes (fun _ => True) (b.fiberLog lanes)
  requests_eq : ∀ i < lanes, requests (b.fiberLog lanes i) = []
  ends_well : ∀ i < lanes, ∀ e, b.fiberOutcome? lanes i ≠ some (.error e)
  returns : ∃ i < lanes, b.fiberOutcome? lanes i = some (.ok ())
  waits : ∃ i < lanes, b.fiberOutcome? lanes i = none

/-- Lanes that take turns, do not get in each other's way and ask for no shared memory have come
where their score tells, to their ends or to a meeting. -/
theorem exists_halts (hkernel : b.kernel.Portable) (hends : ∃ i < lanes, ∃ o,
      b.fiberOutcome? lanes i = some o)
    (hharm : Harmonious .master lanes (fun _ => True) (b.fiberLog lanes))
    (hrequests : ∀ i < lanes, requests (b.fiberLog lanes i) = []) :
    ∃ Φ, (b.score lanes).Halts (fun _ => True) Φ ∧ ∀ i < lanes,
      (∃ o, ((b.score lanes).close Φ i).program = .finish o ∧
        b.fiberOutcome? lanes i = some (told b.block i o)) ∨
      (∀ o, ((b.score lanes).close Φ i).program ≠ .finish o) ∧ b.fiberOutcome? lanes i = none := by
  obtain ⟨j, hj, o, hended⟩ := hends
  rcases ht : b.fiberTrace lanes with f | t
  · rw [fiberOutcome?, ht] at hended
    cases hended
  · rw [fiberLog_eq ht] at hharm hrequests
    rw [fiberOutcome?_eq ht] at hended ⊢
    have hplayed := played hkernel ht fun _ => True
    obtain ⟨Φ, solo, hfollows⟩ := hplayed.follows hharm
    have hlane : ∀ i < lanes, (b.score lanes).goal Φ i = t.log i ∧
        ((∃ o, ((b.score lanes).close Φ i).program = .finish o ∧
            t.team.outcome? i = some (told b.block i o)) ∨
          (∀ o, ((b.score lanes).close Φ i).program ≠ .finish o) ∧ t.team.outcome? i = none) := by
      intro i hi
      obtain ⟨st, hst⟩ := Option.isSome_iff_exists.mp ((hplayed.lanes_iff i).mpr hi)
      have hstays := Team.stays hst (hplayed.tame.plain i st hst) (atRest_fiberTrace hkernel ht i)
      obtain ⟨hgoal, hends⟩ := hfollows.rests hst hstays (hrequests i hi)
      refine ⟨hgoal, hends.imp ?_ ?_⟩
      · rintro ⟨o, hfinish, rfl⟩
        exact ⟨o, hfinish, Team.outcome?_eq_some.mpr hst⟩
      · rintro ⟨c, next, hprogram, hnone⟩
        refine ⟨fun o hfinish => ?_, by rw [Team.outcome?, hst]; exact hnone⟩
        rw [hprogram] at hfinish
        cases hfinish
    refine ⟨Φ, ⟨⟨j, hj, ?_⟩, ?_⟩, fun i hi => (hlane i hi).2⟩
    · obtain ⟨o', hfinish, -⟩ | ⟨-, hnone⟩ := (hlane j hj).2
      · exact ⟨o', hfinish⟩
      · rw [hended] at hnone
        cases hnone
    · exact hharm.of_isPrefix fun i hi => (hlane i hi).1 ▸ List.prefix_refl _

theorem result_of_blocked (hkernel : b.kernel.Portable)
    (hwell : ∀ i < lanes, ∀ e, b.fiberOutcome? lanes i ≠ some (.error e))
    (hstarts : ∃ t, b.fiberTrace lanes = .ok t) (hblocked : b.blocked lanes ≠ 0) :
    (b.runFibers lanes).result = .error (.error (.deadlock b.block (b.blocked lanes) lanes)) := by
  obtain ⟨t, ht⟩ := hstarts
  have hpending : t.team.pending = b.blocked lanes := by
    rw [Team.pending_eq, blocked, fiberOutcome?_eq ht,
      Team.size_eq (played hkernel ht fun _ => True).lanes_iff]
  have hok : resultOf lanes (b.fiberOutcome? lanes) = .ok () := by
    refine resultOf_eq_ok.mpr fun i hi => ?_
    rcases houtcome : b.fiberOutcome? lanes i with _ | (e | o)
    · rfl
    · exact absurd houtcome (hwell i hi e)
    · rfl
  rw [(runFibers_spec hkernel ht).2, hpending, if_neg hblocked, hok]

theorem SkipsMeeting.exists_skips (h : b.SkipsMeeting lanes) (hkernel : b.kernel.Portable) :
    (b.runFibers lanes).result = .error (.error (.deadlock b.block (b.blocked lanes) lanes)) ∧
    ∃ Φ, (b.score lanes).Skips (fun _ => True) Φ ∧ (b.score lanes).pending Φ = b.blocked lanes := by
  obtain ⟨hharm, hrequests, hwell, ⟨first, hfirst, hreturned⟩, ⟨i, hi, hwaits⟩⟩ := h
  obtain ⟨Φ, hhalts, hlane⟩ := exists_halts hkernel ⟨first, hfirst, _, hreturned⟩ hharm hrequests
  have hstarts : ∃ t, b.fiberTrace lanes = .ok t := by
    rcases ht : b.fiberTrace lanes with f | t
    · rw [fiberOutcome?, ht] at hreturned
      cases hreturned
    · exact ⟨t, rfl⟩
  have hblocked : b.blocked lanes ≠ 0 := by
    rw [blocked, Ne, List.countP_eq_zero]
    intro hall
    refine hall i (List.mem_range.mpr hi) ?_
    rw [hwaits]
    rfl
  refine ⟨result_of_blocked hkernel hwell hstarts hblocked, Φ,
    ⟨hhalts, fun j hj o hfinish => ?_, i, hi, ?_⟩, ?_⟩
  · obtain ⟨o', hfinish', houtcome⟩ | ⟨hgoes, -⟩ := hlane j hj
    · obtain rfl := Program.finish.inj (hfinish.symm.trans hfinish')
      rcases o with (f | e) | ⟨⟩
      · exact absurd houtcome (hwell j hj _)
      · exact absurd houtcome (hwell j hj _)
      · rfl
    · exact absurd hfinish (hgoes o)
  · obtain ⟨o', -, houtcome⟩ | ⟨hgoes, -⟩ := hlane i hi
    · rw [hwaits] at houtcome
      cases houtcome
    · exact hgoes
  · rw [Score.pending, blocked]
    refine List.countP_congr fun j hj => ?_
    obtain ⟨o, hfinish, houtcome⟩ | ⟨hgoes, hnone⟩ := hlane j (List.mem_range.mp hj)
    · have hover : (b.score lanes).isOver Φ j = true := Score.isOver_iff.mpr ⟨o, hfinish⟩
      rw [hover, houtcome]
      exact Iff.rfl
    · have hover : (b.score lanes).isOver Φ j = false := Bool.eq_false_iff.mpr fun hover => by
        obtain ⟨o, hfinish⟩ := Score.isOver_iff.mp hover
        exact hgoes o hfinish
      rw [hover, hnone]
      exact Iff.rfl

theorem GivenUp.threadsResult_eq {Φ : Nat} {t : Team ThreadBarrier ThreadBarrier}
    (h : GivenUp (b.score lanes) Φ t) (hsize : t.size = lanes) :
    ∃ p, (b.score lanes).pending Φ ≤ p ∧ p < lanes ∧
      b.threadsResult t = .error (.error (.deadlock b.block p lanes)) := by
  obtain ⟨p, hp, hle, hlt⟩ := h.stranded
  refine ⟨p, hle, hlt, ?_⟩
  rw [threadsResult, hp, hsize]
  rfl

/-- If some lanes return while others are left waiting for a meeting, lanes that have threads of
their own come to rest too, in every order of their steps, and are reported as blocked. The number
that is reported is at least that of the lanes that wait, and leaves out at least one lane. The
operations of the kernel have a bound (`Kernel.within`). -/
theorem deadlock_of_skipsMeeting (h : b.SkipsMeeting lanes) (hkernel : b.kernel.Portable)
    (warpSize : Nat) (reserver : Reserver) :
    (b.runFibers lanes).result = .error (.error (.deadlock b.block (b.blocked lanes) lanes)) ∧
    (∃ p, b.blocked lanes ≤ p ∧ p < lanes ∧ (b.runThreads lanes warpSize reserver).result =
      .error (.error (.deadlock b.block p lanes))) ∧
    ∃ t, b.threadTeam lanes warpSize reserver = .ok t ∧ ∃ limit, ∀ n t', Team.Run n t t' →
      n ≤ limit ∧ (t'.AtRest → ∃ p, b.blocked lanes ≤ p ∧ p < lanes ∧
        b.threadsResult t' = .error (.error (.deadlock b.block p lanes))) := by
  obtain ⟨hfibers, Φ, hskips, hpending⟩ := h.exists_skips hkernel
  obtain ⟨t, ht, hfresh⟩ : ∃ t, b.threadTeam lanes warpSize reserver = .ok t ∧
      b.Fresh lanes (fun _ => True) b.buffers t :=
    exists_fresh hkernel warpSize reserver rfl fun _ _ => rfl
  have hends {n : Nat} {t' : Team ThreadBarrier ThreadBarrier} (hrun : Team.Run n t t')
      (hrest : t'.AtRest) : ∃ p, b.blocked lanes ≤ p ∧ p < lanes ∧
        b.threadsResult t' = .error (.error (.deadlock b.block p lanes)) := by
    obtain ⟨htame, hunderway | hgiven⟩ := Underway.run (.inl (hfresh.underway Φ)) hskips hfresh.tame
      hrun
    · exact absurd hrest (hunderway.not_atRest hskips htame)
    · rw [← hpending]
      exact GivenUp.threadsResult_eq hgiven (hrun.size_eq.trans hfresh.size_eq)
  refine ⟨hfibers, ?_, t, ht, _, fun n t' hrun => ⟨hrun.le hfresh.within, hends hrun⟩⟩
  obtain ⟨⟨n, hrun⟩, hrest⟩ := hfresh.run
  rw [runThreads_eq, ht]
  exact hends hrun hrest

/-- The first lane of a block waits for the others, which return at once. -/
def skipProgram (lane : Lane) : Program :=
  if lane.number = 0 then .arrive .block none fun _ => .finish (.ok ()) else .finish (.ok ())

theorem skipProgram_within (lane : Lane) : (skipProgram lane).Within 1 := by
  rw [skipProgram]
  split
  · exact .arrive fun _ => .finish
  · exact .finish

def skipTask : BlockTask where
  division := ⟨[1], [3], [1]⟩
  kernel := ⟨skipProgram, fun _ => 0, fun _ => 0, fun _ => 1, skipProgram_within⟩
  block := 0
  arena := ⟨0, 0, 0⟩
  buffers := #[]

theorem skipTask_portable : skipTask.kernel.Portable := by
  refine ⟨fun lane => ?_, fun _ _ _ => rfl⟩
  change (skipProgram lane).Plain
  rw [skipProgram]
  split
  · exact ⟨rfl, fun _ => trivial⟩
  · trivial

theorem fiberLog_skipTask : ∀ i < 3,
    skipTask.fiberLog 3 i = if i = 0 then [.meet none] else [] := by
  decide +kernel

theorem fiberOutcome?_skipTask : ∀ i < 3,
    skipTask.fiberOutcome? 3 i = if i = 0 then none else some (.ok ()) := by
  decide +kernel

theorem harmonious_skipTask : Harmonious .master 3 (fun _ => True) (skipTask.fiberLog 3) := by
  refine .of_isMeet (fun i hi d hd => ?_) fun i hi j hj => ?_
  · rw [fiberLog_skipTask i hi] at hd
    split at hd
    · exact List.mem_singleton.mp hd ▸ rfl
    · cases hd
  · rw [fiberLog_skipTask i hi, fiberLog_skipTask j hj]
    split <;> split
    · exact .inl (List.prefix_refl _)
    · exact .inr List.nil_prefix
    · exact .inl List.nil_prefix
    · exact .inl List.nil_prefix

theorem skipTask_skipsMeeting : skipTask.SkipsMeeting 3 := by
  refine ⟨harmonious_skipTask, fun i hi => ?_, fun i hi e => ?_,
    ⟨1, by decide, fiberOutcome?_skipTask 1 (by decide)⟩,
    ⟨0, by decide, fiberOutcome?_skipTask 0 (by decide)⟩⟩
  · rw [fiberLog_skipTask i hi]
    split <;> rfl
  · rw [fiberOutcome?_skipTask i hi]
    split <;> nofun

/-- One lane waits, but the report may well tell of two. -/
theorem deadlock_skipTask :
    (skipTask.runFibers 3).result = .error (.error (.deadlock 0 1 3)) ∧
    ∃ t, skipTask.threadTeam 3 1 .master = .ok t ∧ ∀ n t', Team.Run n t t' → t'.AtRest →
      ∃ p, 1 ≤ p ∧ p < 3 ∧ skipTask.threadsResult t' = .error (.error (.deadlock 0 p 3)) := by
  obtain ⟨hfibers, -, t, ht, limit, hend⟩ :=
    deadlock_of_skipsMeeting skipTask_skipsMeeting skipTask_portable 1 .master
  have hblocked : skipTask.blocked 3 = 1 := by decide +kernel
  rw [hblocked] at hfibers hend
  exact ⟨hfibers, t, ht, fun n t' hrun => (hend n t' hrun).2⟩

/-- Lanes that have threads of their own, and lanes that share one, do not always report the same
number of blocked lanes. -/
theorem not_forall_same_deadlock : ¬∀ (b : BlockTask) (lanes : Nat), b.kernel.Portable →
    b.SkipsMeeting lanes →
      (b.runThreads lanes 1 .master).result = (b.runFibers lanes).result := by
  intro hall
  have hsame := hall skipTask 3 skipTask_portable skipTask_skipsMeeting
  have hthreads : (skipTask.runThreads 3 1 .master).result =
      .error (.error (.deadlock 0 2 3)) := by decide +kernel
  have hfibers : (skipTask.runFibers 3).result = .error (.error (.deadlock 0 1 3)) := by
    decide +kernel
  rw [hthreads, hfibers] at hsame
  cases hsame

end BlockTask

end LaneGrid
