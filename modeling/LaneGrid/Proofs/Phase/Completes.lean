import LaneGrid.Proofs.Phase.Closing
import LaneGrid.Proofs.Phase.Halts

namespace LaneGrid

open Deed MeetingGate

namespace Score

/-- In phase `Φ` all lanes of the score come to their ends, having done the same together and
without ever getting in each other's way. -/
structure Completes (σ : Score) (own : Place → Prop) (Φ : Nat) : Prop where
  ends : ∀ i < σ.lanes, ∃ o, (σ.close Φ i).program = .finish o
  meets_eq : ∀ i < σ.lanes, meets (σ.close Φ i).log = Φ
  same : ∀ i < σ.lanes, ∀ j < σ.lanes,
    joint .master (σ.close Φ i).log = joint .master (σ.close Φ j).log
  harmonious : Harmonious .master σ.lanes own fun i => (σ.close Φ i).log

namespace Completes

variable {σ : Score} {own : Place → Prop} {Φ : Nat}

theorem joint_eq (hσ : σ.Completes own Φ) (reserver : Reserver) {i j : Nat} (hi : i < σ.lanes)
    (hj : j < σ.lanes) : joint reserver (σ.close Φ i).log = joint reserver (σ.close Φ j).log := by
  cases reserver with
  | master => exact hσ.same i hi j hj
  | lane => rw [← joint_lane, hσ.same i hi j hj, joint_lane]

theorem goal_eq (hσ : σ.Completes own Φ) {i : Nat} (hi : i < σ.lanes) :
    σ.goal Φ i = (σ.close Φ i).log := by
  obtain ⟨o, hfinish⟩ := hσ.ends i hi
  exact σ.goal_of_finish hfinish

theorem halts (hσ : σ.Completes own Φ) (hlanes : 0 < σ.lanes) : σ.Halts own Φ :=
  ⟨⟨0, hlanes, hσ.ends 0 hlanes⟩,
    hσ.harmonious.of_isPrefix fun _ hi => hσ.goal_eq hi ▸ List.prefix_refl _⟩

end Completes

end Score

namespace Follows

section

variable {β : Type} [Gate β] [MeetingGate β] {σ : Score} {reserver : Reserver}
  {own : Place → Prop} {φ Φ lane peer : Nat} {solo : Nat → Solo} {log : Nat → List Deed}
  {s : Scene β} {st st' : Stage}

theorem no_more (h : Follows σ reserver own φ solo log s) (hσ : σ.Completes own Φ)
    (hφ : φ ≤ Φ) (hst : s.now? lane = some st) {o : Outcome Unit}
    (hfinish : (solo lane).program = .finish o) (hst' : s.now? peer = some st') :
    st'.isHalf = false ∧ st'.ahead = 0 ∧ joint reserver st'.deed?.toList = [] := by
  have hlane := h.ranks.lane_lt hst
  have hpeer := h.ranks.lane_lt hst'
  obtain ⟨count, half, hlevel⟩ := h.ranks.level
  have hclose := h.close_of_finish hlane hfinish
  have hend : σ.close Φ lane = solo lane := by
    rw [σ.close_of_finish (by rw [hclose]; exact hfinish) hφ, hclose]
  have hdone : st.isHalf = false ∧ st.ahead = 0 ∧ log lane = (solo lane).log := by
    obtain ⟨pending, hstand, hlog⟩ := h.ranks.stands lane st hst
    rw [hlog]
    cases hstand with
    | running | leaving | ended => exact ⟨rfl, rfl, List.append_nil _⟩
    | meets hprogram =>
        rw [hfinish] at hprogram
        cases hprogram
    | asks _ hprogram | publishing _ hprogram | closing _ hprogram | closes _ hprogram
    | collecting _ hprogram =>
        rw [hfinish] at hprogram
        cases hprogram
  obtain ⟨hhalf, hahead, hlog⟩ := hdone
  have hcount : (joint reserver (σ.close Φ lane).log).length = count := by
    rw [hend, ← hlog, (hlevel lane st hst).2, hahead, Nat.add_zero]
  have hle := ((h.log_isPrefix hφ hst').filter (Deed.isJoint reserver)).length_le
  rw [hσ.goal_eq hpeer] at hle
  change (joint reserver _).length ≤ (joint reserver _).length at hle
  rw [joint_append, List.length_append, (hlevel peer st' hst').2,
    hσ.joint_eq reserver hpeer hlane, hcount] at hle
  refine ⟨?_, by omega, List.eq_nil_of_length_eq_zero (by omega)⟩
  rw [(hlevel peer st' hst').1, ← (hlevel lane st hst).1, hhalf]

theorem calm (h : Follows σ reserver own φ solo log s) (hσ : σ.Completes own Φ)
    (hφ : φ ≤ Φ) (hst : s.now? lane = some st) {o : Outcome Unit}
    (hfinish : (solo lane).program = .finish o) (i : Nat) : ¬Waits s.now? i := by
  rintro ⟨st', hst', hawaited⟩
  obtain ⟨hhalf, hahead, -⟩ := h.no_more hσ hφ hst hfinish hst'
  obtain ⟨pending, hstand, -⟩ := h.ranks.stands i st' hst'
  cases hstand with
  | meets | asks => cases hahead
  | closes => cases hhalf
  | _ => cases hawaited

theorem passes_eq_none (h : Follows σ reserver own φ solo log s) (hσ : σ.Completes own Φ)
    (hφ : φ ≤ Φ) (hst : s.now? lane = some st) {o : Outcome Unit}
    (hfinish : (solo lane).program = .finish o) (hst' : s.stage? peer = some st') :
    st'.passes reserver = none := by
  by_cases hcalm : st'.awaited = none
  · obtain ⟨hhalf, -, hjoint⟩ := h.no_more hσ hφ hst hfinish (s.now?_of_awaited hst' hcalm)
    cases st' with
    | running p =>
        rcases p with _ | _ | ⟨_ | _, c, next⟩ | _ | _ | _
        case arrive.block => cases hjoint
        case allocate =>
          cases reserver with
          | lane => rfl
          | master => cases hjoint
        all_goals rfl
    | closing => cases hhalf
    | _ => rfl
  · cases st' with
    | waiting => rfl
    | _ => exact absurd rfl hcalm

theorem at_rest (h : Follows σ reserver own φ solo log s) (hσ : σ.Completes own Φ) (hφ : φ ≤ Φ)
    (hlanes : 0 < σ.lanes)
    (hrest : ∀ i st, s.stage? i = some st → (∃ o, st = .ended o) ∨
      ∃ g r, st = .waiting .block g r ∧ Gate.look s.barrier g = .waiting g) :
    ∀ i < σ.lanes, ∃ o, (σ.close Φ i).program = .finish o ∧
      s.stage? i = some (.ended (told σ.block i o)) := by
  have hstays {i : Nat} (hi : i < σ.lanes) : ∃ st, s.stage? i = some st ∧
      s.now? i = some st ∧ ((∃ o, st = .ended o) ∨ Waits s.now? i) := by
    obtain ⟨st, hnow⟩ := Option.isSome_iff_exists.mp ((h.ranks.lanes i).mpr hi)
    obtain ⟨st₁, hst₁, -⟩ := Option.map_eq_some_iff.mp hnow
    exact ⟨st₁, hst₁, ended_or_waits hst₁ (hrest i st₁ hst₁)⟩
  -- Some lane does not wait; it is at its end, and so nobody waits.
  obtain ⟨j, hj, hnot⟩ := h.exists_not_waits hlanes
  obtain ⟨st, -, hnow, hends⟩ := hstays hj
  obtain ⟨o, rfl⟩ := hends.resolve_right hnot
  obtain ⟨pending, hstand, -⟩ := h.ranks.stands j _ hnow
  obtain ⟨o', hfinish⟩ := hstand.finish_of_hasLeft trivial
  intro i hi
  obtain ⟨st, hst, hnow', hends'⟩ := hstays hi
  obtain ⟨o, rfl⟩ := hends'.resolve_right (h.calm hσ hφ hnow hfinish i)
  obtain ⟨pending', hstand', -⟩ := h.ranks.stands i _ hnow'
  cases hstand' with
  | ended hfinish' ho =>
      rw [ho] at hst
      exact ⟨_, h.finish_of_finish hφ hi hfinish', hst⟩

theorem contents_eq (h : Follows σ reserver own φ solo log s) (hlanes : 0 < σ.lanes)
    (hended : ∀ i < σ.lanes, ∃ o, s.stage? i = some (.ended o))
    (hharm : Harmonious reserver σ.lanes own log) :
    (∀ i < σ.lanes, log i = (σ.close φ i).log ∧ meets (σ.close φ i).log = φ ∧
      ∃ o, (σ.close φ i).program = .finish o ∧ s.stage? i = some (.ended (told σ.block i o))) ∧
    ∀ x, own x → s.memory.contents x = σ.merge φ (σ.close φ) x := by
  have hclose : ∀ i < σ.lanes, σ.close φ i = solo i ∧ log i = (solo i).log ∧
      ∃ o, (solo i).program = .finish o ∧ s.stage? i = some (.ended (told σ.block i o)) := by
    intro i hi
    obtain ⟨o, hst⟩ := hended i hi
    obtain ⟨pending, hstand, hlog⟩ := h.ranks.stands i _ (s.now?_of_awaited hst rfl)
    cases hstand with
    | ended hfinish ho =>
        rw [List.append_nil] at hlog
        rw [ho] at hst
        exact ⟨h.close_of_finish hi hfinish, hlog, _, hfinish, hst⟩
  refine ⟨fun i hi => ?_, fun x hown => ?_⟩
  · obtain ⟨heq, hlog, hdone⟩ := hclose i hi
    rw [heq]
    exact ⟨hlog, h.ranks.meets_eq i hi, hdone⟩
  · refine σ.merge_eq hlanes (fun i hi j hj hne hwrote hwrote' => ?_) fun i hi hothers => ?_
    · rw [(hclose i hi).1, ← (hclose i hi).2.1] at hwrote
      rw [(hclose j hj).1, ← (hclose j hj).2.1] at hwrote'
      exact hharm.apart i hi j hj hne φ x hwrote hwrote'.touched
    · rw [(hclose i hi).1]
      refine h.store.seen i hi x hown fun j hj hne => ?_
      rw [← (hclose j hj).1]
      exact hothers j hj hne

theorem completes (h : Follows σ .master own φ solo log s) (hlanes : 0 < σ.lanes)
    (hended : ∀ i < σ.lanes, ∃ o, s.stage? i = some (.ended o))
    (hharm : Harmonious .master σ.lanes own log) : σ.Completes own φ := by
  obtain ⟨hdone, -⟩ := h.contents_eq hlanes hended hharm
  obtain ⟨count, half, hlevel⟩ := h.ranks.level
  have hlength : ∀ i < σ.lanes, (joint .master (log i)).length = count := by
    intro i hi
    obtain ⟨o, hst⟩ := hended i hi
    exact (hlevel i _ (s.now?_of_awaited hst rfl)).2
  refine ⟨fun i hi => ?_, fun i hi => (hdone i hi).2.1, fun i hi j hj => ?_, ?_⟩
  · obtain ⟨-, -, o, hfinish, -⟩ := hdone i hi
    exact ⟨o, hfinish⟩
  · rw [← (hdone i hi).1, ← (hdone j hj).1]
    exact (hharm.inStep i hi j hj).eq (by rw [hlength i hi, hlength j hj])
  · exact hharm.of_isPrefix fun i hi => (hdone i hi).1 ▸ List.prefix_refl _

end

variable {σ : Score} {reserver : Reserver} {own : Place → Prop} {φ Φ lane : Nat}
  {solo : Nat → Solo} {log : Nat → List Deed} {s s' : Scene ThreadBarrier} {st : Stage}

theorem departed_eq_zero (h : Follows σ reserver own φ solo log s)
    (hgone : ∀ i, ¬Gone s.now? i) : s.barrier.finished = 0 := by
  obtain ⟨gone, -, hmem, hlength⟩ := h.ranks.departed_le
  rcases gone with _ | ⟨i, gone⟩
  · exact Nat.le_zero.mp hlength
  · exact absurd (hmem i List.mem_cons_self) (hgone i)

/-- Lanes that follow a score to the ends of all of them give up no generation, and close the
barrier only when nobody will come to it any more. -/
theorem unhindered (h : Follows σ reserver own φ solo log s) (hσ : σ.Completes own Φ) (hφ : φ ≤ Φ)
    (hclosed : s.barrier.poisoned = true → s.Left) (hst : s.stage? lane = some st)
    (hact : s.Act σ.block σ.capacity reserver lane st s') :
    Unhindered reserver st s s' ∧ (s'.barrier.poisoned = true → s'.Left) ∧
      s'.barrier.stranded = s.barrier.stranded := by
  have hidle {i : Nat} {st' : Stage} {o : Outcome Unit} (hst' : s.now? i = some st')
      (hfinish : (solo i).program = .finish o) : Unhindered reserver st s s' :=
    .idle (h.calm hσ hφ hst' hfinish) (h.passes_eq_none hσ hφ hst' hfinish hst)
  have hleft : s.Left → ∃ i st' o, s.now? i = some st' ∧ (solo i).program = .finish o := by
    rintro ⟨i, st', hst', hleft⟩
    have hnow := s.now?_of_awaited hst' (Stage.awaited_of_hasLeft hleft)
    obtain ⟨pending, hstand, -⟩ := h.ranks.stands i st' hnow
    obtain ⟨o, hfinish⟩ := hstand.finish_of_hasLeft hleft
    exact ⟨i, st', o, hnow, hfinish⟩
  have hiff := hact.left_iff hst
  have hhandles := hact.handles
  generalize hb : s'.barrier = b at hhandles
  cases hhandles with
  | spares _ =>
      refine ⟨?_, fun hpoisoned => hiff.mpr (.inl (hclosed hpoisoned)), rfl⟩
      by_cases hpoisoned : s.barrier.poisoned = true
      · obtain ⟨i, st', o, hst', hfinish⟩ := hleft (hclosed hpoisoned)
        exact hidle hst' hfinish
      · have hopen : s.barrier.poisoned = false := Bool.eq_false_iff.mpr hpoisoned
        exact .isOpen hopen (hb ▸ hopen)
  | @arrives c r hpasses =>
      -- The lane has something left to do together, so no lane is at its end.
      have hnobody {i : Nat} {st' : Stage} {o : Outcome Unit} (hst' : s.now? i = some st')
          (hfinish : (solo i).program = .finish o) : False := by
        rw [h.passes_eq_none hσ hφ hst' hfinish hst] at hpasses
        cases hpasses
      have hopen : s.barrier.poisoned = false := Bool.eq_false_iff.mpr fun hpoisoned => by
        obtain ⟨i, st', o, hst', hfinish⟩ := hleft (hclosed hpoisoned)
        exact hnobody hst' hfinish
      have hfinished := h.departed_eq_zero fun i ⟨st', hst', hgone⟩ => by
        obtain ⟨pending, hstand, -⟩ := h.ranks.stands i st' hst'
        obtain ⟨o, hfinish⟩ := hstand.finish_of_hasLeft hgone
        exact hnobody hst' hfinish
      obtain ⟨hverdict, hsame⟩ :=
        ThreadBarrier.arrive_verdict hopen (hfinished ▸ Nat.zero_le _) c
      cases hverdict with
      | stays hopen' hstranded =>
          refine ⟨.isOpen hopen (hb ▸ hopen'), fun hpoisoned => ?_, hstranded⟩
          rw [hopen'] at hpoisoned
          cases hpoisoned
      | givesUp _ _ hgone => exact absurd (hsame.trans hfinished) hgone
  | @leaves o hleaving =>
      subst hleaving
      have hnow := s.now?_of_awaited hst rfl
      obtain ⟨pending, hstand, -⟩ := h.ranks.stands lane _ hnow
      cases hstand with
      | leaving hfinish ho =>
          refine ⟨hidle hnow hfinish, fun _ => hiff.mpr (.inr ⟨o, rfl⟩), ?_⟩
          by_cases hpoisoned : s.barrier.poisoned = true
          · exact (ThreadBarrier.leave_closed hpoisoned _).2
          · have hopen : s.barrier.poisoned = false := Bool.eq_false_iff.mpr hpoisoned
            rcases hok : o.isOk with _ | _
            · rfl
            · obtain ⟨hverdict, -⟩ := ThreadBarrier.leave_verdict hopen (h.departed_lt hnow id)
              cases hverdict with
              | stays _ hstranded => exact hstranded
              | givesUp _ _ _ hwaiting =>
                  have harrived := h.arrived_eq_zero.mpr (h.calm hσ hφ hnow hfinish)
                  rw [← MeetingGate.meeting_leave s.barrier false] at harrived
                  exact absurd harrived hwaiting

end Follows

end LaneGrid
