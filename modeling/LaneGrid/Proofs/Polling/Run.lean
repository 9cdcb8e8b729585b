import LaneGrid.Proofs.Phase.Fibers
import LaneGrid.Proofs.Polling.Loop
import LaneGrid.Proofs.Shared.Allocators
import LaneGrid.Proofs.Team.Budget

namespace LaneGrid

theorem Stage.Inward.awaited_eq {st : Stage} (h : st.Inward) : st.awaited = none := by
  cases st with
  | running => rfl
  | waiting scope =>
      cases scope with
      | block => exact h.elim
      | warp => rfl
  | leaving => rfl
  | _ => exact h.elim

namespace Team

variable {β ω : Type} {t t' : Team β ω} {lane n : Nat}

/-- Each lane has at most `n` steps to take. -/
def Bounded (n : Nat) (t : Team β ω) : Prop :=
  ∀ lane st, t.stage? lane = some st → ∃ k ≤ n, st.Within k

theorem bounded_of_running
    (h : ∀ lane st, t.stage? lane = some st → ∃ p, st = .running p ∧ p.Within n) :
    t.Bounded (stepBound n) := by
  intro lane st hst
  obtain ⟨p, rfl, hp⟩ := h lane st hst
  exact ⟨stepBound n, Nat.le_refl _, n, hp, Nat.le_refl _⟩

variable [Gate β] [Gate ω]

theorem Bounded.step (h : t.Bounded n) (hstep : t.step lane = some t') : t'.Bounded n := by
  obtain ⟨m, hm, hstep'⟩ := exists_step hstep
  have hlane := stage?_eq_some hm
  obtain ⟨k, hk, hwithin⟩ := h lane _ hlane
  obtain ⟨st', k', hstage, hwithin', hlt⟩ := hstep'.within hlane hwithin
  intro peer st hst
  rw [hstage] at hst
  by_cases hpeer : peer = lane
  · rw [hpeer, Function.update_self] at hst
    obtain rfl := Option.some.inj hst
    exact ⟨k', by omega, hwithin'⟩
  · rw [Function.update_of_ne hpeer] at hst
    exact h peer st hst

theorem turn_of_rest (h : t.step lane = none) (fuel : Nat) : t.turn lane fuel = t := by
  cases fuel with
  | zero => rfl
  | succ fuel => rw [turn, h]

section

variable (fuel : Nat) (onEnd : Nat → Team β ω → Team β ω) (lanes : List Nat) (moved : Bool)

theorem sweep_cons_of_rest (h : t.step lane = none) :
    sweep fuel onEnd (lane :: lanes) (moved, t) = sweep fuel onEnd lanes (moved, t) := by
  rw [sweep, canStep, h]
  rfl

theorem sweep_cons_of_step (h : t.step lane = some t') :
    sweep fuel onEnd (lane :: lanes) (moved, t) = sweep fuel onEnd lanes (true,
      if ((t.turn lane fuel).outcome? lane).isSome then onEnd lane (t.turn lane fuel)
      else t.turn lane fuel) := by
  have hover : ((t.turn lane fuel).members[lane]?.any fun m => m.stage.outcome?.isSome) =
      ((t.turn lane fuel).outcome? lane).isSome := by
    rw [outcome?, stage?]
    cases (t.turn lane fuel).members[lane]? <;> rfl
  rw [sweep, canStep, h, ← hover]
  rfl

end

end Team

namespace Chronicle

variable {onEnd : Nat → Team FiberBarrier SoloGate → Team FiberBarrier SoloGate}
  {lane n fuel : Nat} {lanes : List Nat} {turns : List Turn} {c c' : Chronicle FiberBarrier SoloGate}

theorem bounded_step (h : c.team.Bounded n) (hstep : c.step lane = some c') :
    c'.team.Bounded n := by
  obtain ⟨st, team, -, hteam, rfl⟩ := step_eq_some.mp hstep
  exact h.step hteam

theorem within_step {st : Stage} {k : Nat} (hlane : c.team.stage? lane = some st)
    (hwithin : st.Within k) (hstep : c.step lane = some c') :
    ∃ st' k', c'.team.stage? lane = some st' ∧ st'.Within k' ∧ k' < k := by
  obtain ⟨st₁, team, hst₁, hteam, rfl⟩ := step_eq_some.mp hstep
  obtain ⟨m, hm, hstep'⟩ := Team.exists_step hteam
  obtain rfl := Option.some.inj (hlane.symm.trans (Team.stage?_eq_some hm))
  obtain ⟨st', k', hstage, hwithin', hlt⟩ := hstep'.within hlane hwithin
  exact ⟨st', k', (congrFun hstage lane).trans (Function.update_self ..), hwithin', hlt⟩

theorem exists_polled_of_within {st : Stage} {k : Nat} (hlane : c.team.stage? lane = some st)
    (hwithin : st.Within k) (hfuel : k ≤ fuel) :
    ∃ c', c.Polled lane c' ∧ c'.team = c.team.turn lane fuel := by
  induction fuel generalizing c st k with
  | zero =>
      rcases hstep : c.team.step lane with _ | t'
      · exact ⟨c, .rest hstep, rfl⟩
      · have hgo := step_eq_some.mpr ⟨st, t', hlane, hstep, rfl⟩
        obtain ⟨st', k', -, -, hlt⟩ := within_step hlane hwithin hgo
        omega
  | succ fuel ih =>
      rw [Team.turn]
      rcases hstep : c.team.step lane with _ | t'
      · exact ⟨c, .rest hstep, rfl⟩
      · have hgo := step_eq_some.mpr ⟨st, t', hlane, hstep, rfl⟩
        obtain ⟨st', k', hlane', hwithin', hlt⟩ := within_step hlane hwithin hgo
        obtain ⟨c', hpolled, hteam⟩ := ih hlane' hwithin' (by omega)
        exact ⟨c', .go hgo hpolled, hteam⟩

theorem exists_polled (hbounded : c.team.Bounded n) (hfuel : n ≤ fuel) (lane : Nat) :
    ∃ c', c.Polled lane c' ∧ c'.team = c.team.turn lane fuel := by
  rcases hlane : c.team.stage? lane with _ | st
  · have hsize : c.team.size ≤ lane := by
      refine Nat.le_of_not_lt fun hlt => ?_
      rw [← c.team.isSome_stage?, hlane] at hlt
      exact nomatch hlt
    have hrest := Team.step_of_size_le hsize
    exact ⟨c, .rest hrest, (Team.turn_of_rest hrest fuel).symm⟩
  · obtain ⟨k, hk, hwithin⟩ := hbounded lane st hlane
    exact exists_polled_of_within hlane hwithin (hk.trans hfuel)

/-- A lane that takes a step and cannot go on after it has ended, or has just come to the
barrier. -/
theorem progress_step (h : c.step lane = some c') : c.progress ≤ c'.progress ∧
    (c'.team.step lane = none → (c'.team.outcome? lane).isSome = true ∨ c.progress < c'.progress) := by
  obtain ⟨st, st', team, rfl, hlane, hstage, hplan, hmove⟩ := step_move h
  have hlane' : team.stage? lane = some st' := by
    rw [hstage, Function.update_self]
  have hsame (hbarrier : team.barrier = c.team.barrier) (hst' : st'.awaited = none) :
      c.progress ≤ (c.after lane st team).progress ∧ (team.step lane = none →
        (team.outcome? lane).isSome = true ∨ c.progress < (c.after lane st team).progress) := by
    refine ⟨Nat.le_of_eq (congrArg FiberBarrier.arrivals hbarrier.symm), fun hrest => .inl ?_⟩
    rcases Team.waits_of_step_eq_none hlane' hrest with ⟨o, rfl⟩ | ⟨scope, g, r, g', rfl, hlook⟩
    · exact Option.isSome_of_eq_some (Team.outcome?_eq_some.mpr hlane')
    · cases scope with
      | block => cases hst'
      | warp => exact absurd hlook (team.lookAt_solo lane g g')
  cases hmove with
  | work _ hinward hbarrier _ => exact hsame hbarrier hinward.awaited_eq
  | pass _ harrive _ =>
      have hmore : team.barrier.arrivals = c.team.barrier.arrivals + 1 :=
        congrArg FiberBarrier.arrivals (congrArg Prod.snd harrive).symm
      exact ⟨Nat.le_of_lt (Nat.lt_of_succ_le hmore.ge), fun _ => .inr (Nat.lt_of_succ_le hmore.ge)⟩
  | refused _ harrive _ => cases harrive
  | @resume _ _ r w _ hbarrier _ => exact hsame hbarrier (r.awaited_stage w)
  | publish hbarrier _ => exact hsame hbarrier rfl
  | collect hbarrier _ => exact hsame hbarrier rfl
  | leave hleft hbarrier _ => exact hsame hbarrier hleft.idle.1
  | part hbarrier _ => exact hsame hbarrier rfl

theorem Polled.rests (h : c.Polled lane c') : c'.team.step lane = none := by
  induction h with
  | rest h => exact h
  | go _ _ ih => exact ih

theorem Polled.progress (h : c.Polled lane c') : c' = c ∨ c.progress ≤ c'.progress ∧
    ((c'.team.outcome? lane).isSome = true ∨ c.progress < c'.progress) := by
  induction h with
  | rest => exact .inl rfl
  | @go _ c₁ _ hgo hpolled ih =>
      obtain ⟨hle, hrests⟩ := progress_step hgo
      refine .inr ?_
      rcases ih with rfl | ⟨hle', hmore⟩
      · exact ⟨hle, hrests hpolled.rests⟩
      · exact ⟨hle.trans hle', hmore.imp_right hle.trans_lt⟩

theorem exists_polled_of_step (hbounded : c.team.Bounded n) (hfuel : n ≤ fuel)
    {t' : Team FiberBarrier SoloGate} (hstep : c.team.step lane = some t') :
    c.team.outcome? lane = none ∧ ∃ c₁, c.Polled lane c₁ ∧ c₁.team = c.team.turn lane fuel ∧
      c₁.team.Bounded n ∧
      ((c₁.team.outcome? lane).isSome = true ∨ c.progress < c₁.progress) := by
  constructor
  · refine Option.eq_none_iff_forall_ne_some.mpr fun o ho => ?_
    cases (Team.step_of_ended (Team.outcome?_eq_some.mp ho)).symm.trans hstep
  · obtain ⟨c₁, hpolled, hteam⟩ := exists_polled hbounded hfuel lane
    refine ⟨c₁, hpolled, hteam, hpolled.preserves (fun _ _ _ => bounded_step) hbounded, ?_⟩
    rcases hpolled.progress with rfl | ⟨-, hmore⟩
    · cases hpolled.rests.symm.trans hstep
    · exact hmore

section

variable (hquiet : ∀ lane t, ∃ reported, onEnd lane t = { t with reported })

include hquiet

theorem bounded_onEnd (h : c.team.Bounded n) (lane : Nat) : (onEnd lane c.team).Bounded n := by
  obtain ⟨reported, heq⟩ := hquiet lane c.team
  rw [heq]
  exact h

theorem progress_onEnd (c : Chronicle FiberBarrier SoloGate) (lane : Nat) :
    progress { c with team := onEnd lane c.team } = c.progress := by
  obtain ⟨reported, heq⟩ := hquiet lane c.team
  rw [progress, heq]
  rfl

theorem Sweep.progress_le (h : Sweep onEnd lanes c turns c') : c.progress ≤ c'.progress := by
  refine h.preserves (P := fun c' => c.progress ≤ c'.progress) ?_ ?_ (Nat.le_refl _)
  · exact fun _ _ _ hle hgo => hle.trans (progress_step hgo).1
  · exact fun c₁ lane hle => hle.trans_eq (progress_onEnd hquiet c₁ lane).symm

theorem exists_sweep (hbounded : c.team.Bounded n) (hfuel : n ≤ fuel) (lanes : List Nat)
    (moved : Bool) : ∃ turns c', Sweep onEnd lanes c turns c' ∧
      ((∀ turn ∈ turns, turn.ended = false) ∧ c' = c ∧
          Team.sweep fuel onEnd lanes (moved, c.team) = (moved, c'.team) ∨
        ((∃ turn ∈ turns, turn.ended = true) ∨ c.progress < c'.progress) ∧
          Team.sweep fuel onEnd lanes (moved, c.team) = (true, c'.team)) := by
  induction lanes generalizing c moved with
  | nil => exact ⟨[], c, .nil, .inl ⟨fun _ h => absurd h List.not_mem_nil, rfl, rfl⟩⟩
  | cons lane lanes ih =>
      rcases hstep : c.team.step lane with _ | t'
      · rw [Team.sweep_cons_of_rest _ _ _ _ hstep]
        obtain ⟨turns, c', hsweep, hspec⟩ := ih hbounded moved
        rcases hopen : c.team.outcome? lane with _ | o
        · refine ⟨⟨lane, false⟩ :: turns, c', .pending hopen (.rest hstep) hopen hsweep, ?_⟩
          simpa using hspec
        · exact ⟨turns, c', .skip hopen hsweep, hspec⟩
      · obtain ⟨hopen, c₁, hpolled, hteam, hbounded₁, hmore⟩ :=
          exists_polled_of_step hbounded hfuel hstep
        rw [Team.sweep_cons_of_step _ _ _ _ hstep, ← hteam]
        rcases hended : c₁.team.outcome? lane with _ | o
        · obtain ⟨turns, c', hsweep, hspec⟩ := ih hbounded₁ true
          rw [hended] at hmore
          refine ⟨⟨lane, false⟩ :: turns, c', .pending hopen hpolled hended hsweep, .inr ⟨.inr ?_, ?_⟩⟩
          · exact (hmore.resolve_left Bool.false_ne_true).trans_le (hsweep.progress_le hquiet)
          · exact hspec.elim (fun hidle => hidle.2.2) And.right
        · obtain ⟨turns, c', hsweep, hspec⟩ :=
            ih (c := { c₁ with team := onEnd lane c₁.team }) (bounded_onEnd hquiet hbounded₁ lane) true
          refine ⟨⟨lane, true⟩ :: turns, c', .ready hopen hpolled hended hsweep,
            .inr ⟨.inl ⟨_, List.mem_cons_self, rfl⟩, ?_⟩⟩
          exact hspec.elim (fun hidle => hidle.2.2) And.right

theorem exists_scheduled {total limit : Nat} (hbounded : c.team.Bounded n) (hfuel : n ≤ fuel + 1)
    (hwithin : c.team.Within total) (hlimit : total < limit) (count : Nat) :
    ∃ rounds turns c', Scheduled onEnd rounds turns c c' ∧
      c.team.rounds (fuel + 1) onEnd count limit = (count + rounds, c'.team) := by
  induction limit generalizing c total count with
  | zero => exact absurd hlimit (Nat.not_lt_zero _)
  | succ limit ih =>
      rw [Team.rounds]
      by_cases hpending : c.team.pending = 0
      · rw [if_pos hpending]
        exact ⟨0, [], c, .finished hpending, rfl⟩
      rw [if_neg hpending]
      obtain ⟨turns, c₁, hsweep, ⟨hnone, rfl, heq⟩ | ⟨hmore, heq⟩⟩ :=
        exists_sweep hquiet hbounded hfuel (List.range c.team.size) false
      · rw [heq]
        exact ⟨1, turns, c₁, .stuck hpending hsweep ⟨hpending, hnone, rfl⟩, rfl⟩
      · have hgoes : ¬c.Stuck c₁ turns := by
          intro hstuck
          rcases hmore with ⟨turn, hturn, hended⟩ | hlt
          · exact absurd ((hstuck.none_ended turn hturn).symm.trans hended) Bool.false_ne_true
          · exact absurd hstuck.progress_eq hlt.ne'
        have hbounded₁ := hsweep.preserves (fun _ _ _ => bounded_step)
          (fun _ lane hbounded => bounded_onEnd hquiet hbounded lane) hbounded
        -- Lanes that have moved have fewer steps to take, so the limit is never reached.
        rcases hwithin.sweep hquiet fuel (List.range c.team.size) false with
          ⟨hidle, -⟩ | ⟨t', total', hsweep', hwithin', hlt⟩
        · cases heq.symm.trans hidle
        · obtain ⟨-, rfl⟩ := Prod.mk.inj (heq.symm.trans hsweep')
          obtain ⟨rounds, later, c', hrest, hrounds⟩ := ih hbounded₁ hwithin' (by omega) (count + 1)
          rw [heq]
          refine ⟨rounds + 1, turns ++ later, c', .round hpending hsweep hgoes hrest, ?_⟩
          exact hrounds.trans (congrArg (·, c'.team) (by omega))

end

end Chronicle

namespace BlockTask

variable {b : BlockTask} {lanes rounds : Nat} {turns : List Turn}
  {c : Chronicle FiberBarrier SoloGate}

/-- The loop drives the lanes of a block that take turns to their end. -/
def Drives (b : BlockTask) (lanes rounds : Nat) (turns : List Turn)
    (c : Chronicle FiberBarrier SoloGate) : Prop :=
  ∃ t, b.fiberTeam lanes = .ok t ∧
    Chronicle.Scheduled (noteFailure b.block) rounds turns (.make t) c

theorem exists_run_eq {t : Team FiberBarrier SoloGate} (ht : b.fiberTeam lanes = .ok t) :
    ∃ rounds turns c, Chronicle.Scheduled (noteFailure b.block) rounds turns (.make t) c ∧
      t.run b.bound (noteFailure b.block) = (rounds, c.team) := by
  have hrunning (lane : Nat) (st : Stage) (hst : t.stage? lane = some st) :
      ∃ p, st = .running p ∧ p.Within b.bound := team_within ht hst
  obtain ⟨rounds, turns, c, hscheduled, heq⟩ :=
    Chronicle.exists_scheduled (c := .make t) (noteFailure_eq b.block)
      (Team.bounded_of_running hrunning) (Nat.le_refl (Team.stepBound b.bound))
      (Team.within_of_running hrunning) (Nat.lt_succ_self _) 0
  rw [Nat.zero_add] at heq
  exact ⟨rounds, turns, c, hscheduled, heq⟩

theorem exists_drives (b : BlockTask) (lanes : Nat) :
    ∃ rounds turns c, b.Drives lanes rounds turns c := by
  obtain ⟨t, ht⟩ : ∃ t, b.fiberTeam lanes = .ok t := exists_team ..
  obtain ⟨rounds, turns, c, hscheduled, -⟩ := exists_run_eq ht
  exact ⟨rounds, turns, c, t, ht, hscheduled⟩

theorem Drives.run_eq (h : b.Drives lanes rounds turns c) :
    ∃ t, b.fiberTeam lanes = .ok t ∧ t.run b.bound (noteFailure b.block) = (rounds, c.team) := by
  obtain ⟨t, ht, hscheduled⟩ := h
  obtain ⟨rounds', turns', c', hscheduled', hrun⟩ := exists_run_eq ht
  obtain ⟨rfl, -, rfl⟩ := hscheduled.unique hscheduled'
  exact ⟨t, ht, hrun⟩

theorem Drives.runFibers_eq (h : b.Drives lanes rounds turns c) :
    b.runFibers lanes =
      if c.team.pending = 0 then
        report (c.team.report (.fibersFinished b.block lanes rounds)) (firstResult c.team)
      else report (c.team.report (.fibersBlocked b.block c.team.pending lanes rounds))
        (.error (.error (c.team.firstError?.getD (.deadlock b.block c.team.pending lanes)))) := by
  obtain ⟨t, ht, hrun⟩ := h.run_eq
  rw [BlockTask.runFibers_eq, ht]
  dsimp only
  rw [hrun]

theorem Drives.exists_event (h : b.Drives lanes rounds turns c) :
    ∃ event, b.runFibers lanes = report (c.team.report event) (b.runFibers lanes).result := by
  rw [h.runFibers_eq]
  split
  · exact ⟨_, rfl⟩
  · exact ⟨_, rfl⟩

theorem Drives.atRest (h : b.Drives lanes rounds turns c) : c.team.AtRest := by
  obtain ⟨t, ht, hrun⟩ := h.run_eq
  have hrest := Team.atRest_run (fun _ _ hst => team_within ht hst) (noteFailure_eq b.block)
  rw [hrun] at hrest
  exact hrest

end BlockTask

end LaneGrid
