import LaneGrid.Proofs.Phase.Follows

namespace LaneGrid

open Deed MeetingGate

namespace Score

/-- What a lane does up to the end of phase `k`, with the meeting for which it then is ready. -/
def goal (σ : Score) (k i : Nat) : List Deed :=
  (σ.close k i).log ++ (Stage.running (σ.close k i).program).deed?.toList

/-- In phase `Φ` some lane of the score comes to its end. Up to there no lane has got in the way of
another. -/
structure Halts (σ : Score) (own : Place → Prop) (Φ : Nat) : Prop where
  ends : ∃ i < σ.lanes, ∃ o, (σ.close Φ i).program = .finish o
  harmonious : Harmonious .master σ.lanes own (σ.goal Φ)

variable {σ : Score} {k m i : Nat} {o : Outcome Unit}

theorem close_of_finish (h : (σ.close k i).program = .finish o) (hkm : k ≤ m) :
    σ.close m i = σ.close k i := by
  induction hkm with
  | refl => rfl
  | @step m _ ih =>
      have hphase : σ.phase (m + 1) i = σ.close m i := by
        rw [ih]
        have hreleased : σ.phase (m + 1) i =
            (σ.close m i).released (σ.word (σ.close m)) (σ.merge m (σ.close m)) := rfl
        rw [hreleased, ih, Solo.released, h]
      have hclose : σ.close (m + 1) i = σ.rest (σ.phase (m + 1) i) := rfl
      rw [hclose, hphase, ih, rest, h, Program.goOn, ← h]

theorem goal_of_finish (h : (σ.close k i).program = .finish o) :
    σ.goal k i = (σ.close k i).log := by
  rw [goal, h]
  exact List.append_nil _

theorem goal_of_arrive {c : Option Contribution} {next : Word → Program}
    (h : (σ.close k i).program = .arrive .block c next) :
    σ.goal k i = (σ.close k i).log ++ [.meet (c.map (·.reduction))] := by
  rw [goal, h]
  rfl

end Score

theorem Program.deed_isPrefix (capacity reach : Nat) {p : Program} {d : Deed}
    (hd : (Stage.running p).deed? = some d) (hmeet : d.isMeet = false) (contents : Contents)
    (log : List Deed) : log ++ [d] <+: (p.goOn capacity reach contents log).log := by
  cases p with
  | arrive scope c next =>
      cases scope with
      | block =>
          obtain rfl := Option.some.inj hd
          cases hmeet
      | warp => cases hd
  | allocate k n next =>
      obtain rfl := Option.some.inj hd
      exact (goOn_log ..).1
  | access p k a next =>
      obtain rfl := Option.some.inj hd
      rw [goOn]
      rcases contents.access reach p a with f | ⟨x, contents'⟩
      · exact List.prefix_refl _
      · exact (goOn_log ..).1
  | _ => cases hd

namespace Stand

variable {tell : Outcome Unit → Except Error Unit} {reserver : Reserver} {g : Word} {s : Solo}
  {st : Stage} {pending : List Deed}

theorem finish_of_hasLeft (h : Stand tell reserver g s st pending) (hleft : st.HasLeft) :
    ∃ o, s.program = .finish o := by
  cases h with
  | leaving hfinish | ended hfinish => exact ⟨_, hfinish⟩
  | _ => exact hleft.elim

end Stand

namespace Follows

variable {β : Type} [Gate β] [MeetingGate β] {σ : Score} {reserver : Reserver}
  {own : Place → Prop} {φ Φ lane i : Nat} {solo : Nat → Solo} {log : Nat → List Deed}
  {s s' : Scene β} {st : Stage}

theorem close_of_finish (h : Follows σ reserver own φ solo log s) (hlane : lane < σ.lanes)
    {o : Outcome Unit} (hfinish : (solo lane).program = .finish o) :
    σ.close φ lane = solo lane := by
  rw [← h.ranks.onWay lane hlane, Score.rest, hfinish, Program.goOn, ← hfinish]

theorem finish_of_finish (h : Follows σ reserver own φ solo log s) (hφ : φ ≤ Φ)
    (hlane : lane < σ.lanes) {o : Outcome Unit} (hfinish : (solo lane).program = .finish o) :
    (σ.close Φ lane).program = .finish o := by
  have hclose := h.close_of_finish hlane hfinish
  rw [σ.close_of_finish (by rw [hclose]; exact hfinish) hφ, hclose]
  exact hfinish

theorem finish_of_gone (h : Follows σ reserver own φ solo log s) (hφ : φ ≤ Φ)
    (hgone : Gone s.now? i) : i < σ.lanes ∧ ∃ o, (σ.close Φ i).program = .finish o := by
  obtain ⟨st, hst, hleft⟩ := hgone
  obtain ⟨pending, hstand, -⟩ := h.ranks.stands i st hst
  obtain ⟨o, hfinish⟩ := hstand.finish_of_hasLeft hleft
  exact ⟨h.ranks.lane_lt hst, o, h.finish_of_finish hφ (h.ranks.lane_lt hst) hfinish⟩

theorem log_isPrefix (h : Follows σ reserver own φ solo log s) (hφ : φ ≤ Φ)
    (hst : s.now? lane = some st) : log lane ++ st.deed?.toList <+: σ.goal Φ lane := by
  have hlane := h.ranks.lane_lt hst
  have honWay := h.ranks.onWay lane hlane
  have hclose := (σ.close_log_mono lane hφ).trans (List.prefix_append _ _ : _ <+: σ.goal Φ lane)
  obtain ⟨pending, hstand, hlog⟩ := h.ranks.stands lane st hst
  have hmeet {c : Option Contribution} {next : Word → Program}
      (hprogram : (solo lane).program = .arrive .block c next) :
      (solo lane).log ++ [.meet (c.map (·.reduction))] <+: σ.goal Φ lane := by
    rw [Score.rest, hprogram, Program.goOn, ← hprogram] at honWay
    have hready : (σ.close φ lane).program = .arrive .block c next := honWay ▸ hprogram
    rcases Nat.eq_or_lt_of_le hφ with rfl | hlt
    · rw [σ.goal_of_arrive hready, ← honWay]
    · have hmore := (σ.phase_log_isPrefix (φ + 1) lane).trans (σ.close_log_mono lane hlt)
      rw [σ.phase_succ hready, ← honWay] at hmore
      exact hmore.trans (List.prefix_append _ _)
  have hrequest {k : ElementKind} {n : Nat} {next : Except Error SharedSlice → Program}
      (hprogram : (solo lane).program = .allocate k n next) :
      (solo lane).log ++ [.request k n] <+: σ.goal Φ lane := by
    refine List.IsPrefix.trans ?_ hclose
    rw [← honWay, Score.rest, hprogram]
    exact Program.deed_isPrefix _ _ rfl rfl _ _
  have hnone : (solo lane).log <+: σ.goal Φ lane := by
    refine List.IsPrefix.trans ?_ hclose
    rw [← honWay]
    exact (Program.goOn_log ..).1
  rw [hlog]
  cases hstand with
  | running =>
      rw [List.append_nil]
      rcases hdeed : (Stage.running (solo lane).program).deed? with _ | d
      · rw [Option.toList_none, List.append_nil]
        exact hnone
      · by_cases hd : d.isMeet = true
        · rcases hprogram : (solo lane).program with o | ⟨e, next⟩ | ⟨_ | _, c, next⟩ |
            ⟨k, n, next⟩ | next | ⟨p, k, a, next⟩
          all_goals rw [hprogram] at hdeed
          · cases hdeed
          · cases hdeed
          · obtain rfl := Option.some.inj hdeed
            exact hmeet hprogram
          · cases hdeed
          · obtain rfl := Option.some.inj hdeed
            cases hd
          · cases hdeed
          · obtain rfl := Option.some.inj hdeed
            cases hd
        · refine List.IsPrefix.trans ?_ hclose
          rw [← honWay]
          exact Program.deed_isPrefix _ _ hdeed (Bool.eq_false_iff.mpr hd) _ _
  | meets hprogram =>
      change (solo lane).log ++ _ ++ [] <+: _
      rw [List.append_nil]
      exact hmeet hprogram
  | asks _ hprogram | publishing _ hprogram | closing _ hprogram | closes _ hprogram
  | collecting _ hprogram =>
      change (solo lane).log ++ _ ++ [] <+: _
      rw [List.append_nil]
      exact hrequest hprogram
  | leaving | ended =>
      change (solo lane).log ++ [] ++ [] <+: _
      rw [List.append_nil, List.append_nil]
      exact hnone

theorem noted_isPrefix (h : Follows σ reserver own φ solo log s) (hφ : φ ≤ Φ)
    (hst : s.stage? lane = some st) (hi : i < σ.lanes) :
    Function.update log lane (log lane ++ st.deed?.toList) i <+: σ.goal Φ i := by
  obtain ⟨st', hst'⟩ := Option.isSome_iff_exists.mp ((h.ranks.lanes i).mpr hi)
  have hlog := (List.prefix_append _ _).trans (h.log_isPrefix hφ hst')
  by_cases heq : i = lane
  · subst heq
    rw [Function.update_self]
    by_cases hcalm : st.awaited = none
    · exact h.log_isPrefix hφ (s.now?_of_awaited hst hcalm)
    · have hdeed : st.deed? = none := by
        cases st with
        | running => exact absurd rfl hcalm
        | _ => rfl
      rw [hdeed, Option.toList_none, List.append_nil]
      exact hlog
  · rw [Function.update_of_ne heq]
    exact hlog

theorem stage?_lt (h : Follows σ reserver own φ solo log s) (hst : s.stage? lane = some st) :
    lane < σ.lanes := by
  have hnow : s.now? lane = some (st.awake (meeting s.barrier)) := by
    rw [Scene.now?, hst]
    rfl
  exact h.ranks.lane_lt hnow

theorem deed_mem (h : Follows σ reserver own φ solo log s) (hφ : φ ≤ Φ)
    (hst : s.stage? lane = some st) {d : Deed} (hd : st.deed? = some d) : d ∈ σ.goal Φ lane := by
  refine (h.noted_isPrefix hφ hst (h.stage?_lt hst)).subset ?_
  rw [Function.update_self, hd]
  exact List.mem_append_right _ (List.mem_singleton_self d)

theorem step_halts (h : Follows σ reserver own φ solo log s) (hσ : σ.Halts own Φ) (hφ : φ ≤ Φ)
    (hst : s.stage? lane = some st) (hact : s.Act σ.block σ.capacity reserver lane st s')
    (hgate : Unhindered reserver st s s') :
    ∃ φ' solo', φ' ≤ Φ ∧
      Follows σ reserver own φ' solo' (Function.update log lane (log lane ++ st.deed?.toList))
        s' := by
  obtain ⟨φ', solo', hnext, hfollows⟩ := h.step hst hact hgate
    (hσ.harmonious.of_master.of_isPrefix fun i hi => h.noted_isPrefix hφ hst hi)
  refine ⟨φ', solo', ?_, hfollows⟩
  rcases hnext with rfl | ⟨rfl, harrives⟩
  · exact hφ
  · obtain ⟨i, hi, o, hends⟩ := hσ.ends
    obtain ⟨c, next, hprogram⟩ := harrives i hi
    refine Nat.lt_of_le_of_ne hφ ?_
    rintro rfl
    rw [hends] at hprogram
    cases hprogram

theorem ended_or_waits (hst : s.stage? i = some st)
    (hrest : (∃ o, st = .ended o) ∨
      ∃ g r, st = .waiting .block g r ∧ Gate.look s.barrier g = .waiting g) :
    s.now? i = some st ∧ ((∃ o, st = .ended o) ∨ Waits s.now? i) := by
  rcases hrest with ⟨o, rfl⟩ | ⟨g, r, rfl, hlook⟩
  · exact ⟨s.now?_of_awaited hst rfl, .inl ⟨o, rfl⟩⟩
  · have hgeneration : ¬(meeting s.barrier).generation ≠ g := by
      intro hne
      rw [look_eq, if_pos hne] at hlook
      cases hlook
    have hnow : s.now? i = some (.waiting .block g r) := by
      rw [Scene.now?, hst, Option.map_some, Stage.awake, if_neg hgeneration]
    exact ⟨hnow, .inr ⟨_, hnow, rfl⟩⟩

theorem exists_not_waits (h : Follows σ reserver own φ solo log s) (hlanes : 0 < σ.lanes) :
    ∃ i < σ.lanes, ¬Waits s.now? i := by
  by_contra hall
  push Not at hall
  have hroom := h.room
  obtain ⟨order, hnodup, hmem, harrived, -⟩ := h.ranks.present
  have hsub : List.range σ.lanes ⊆ order := fun i hi =>
    (hmem i).mpr (hall i (List.mem_range.mp hi))
  have hle := List.nodup_range.length_le_of_subset hsub
  rw [List.length_range] at hle
  rw [harrived, h.ranks.size_eq] at hroom
  omega

theorem arrived_eq_zero (h : Follows σ reserver own φ solo log s) :
    (meeting s.barrier).arrived = 0 ↔ ∀ i, ¬Waits s.now? i := by
  obtain ⟨order, -, hmem, harrived, -⟩ := h.ranks.present
  rw [harrived, List.length_eq_zero_iff, List.eq_nil_iff_forall_not_mem]
  exact forall_congr' fun i => not_congr (hmem i)

end Follows

end LaneGrid
