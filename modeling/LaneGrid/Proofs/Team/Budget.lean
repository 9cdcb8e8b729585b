import Mathlib.Algebra.BigOperators.Group.Finset.Basic
import Mathlib.Algebra.Order.BigOperators.Group.Finset
import LaneGrid.Proofs.Team.Rest

namespace LaneGrid

/-- After the meeting, the lane has at most `n` steps to take. -/
def Resumption.Within (n : Nat) : Resumption → Prop
  | .deliver next => ∃ m, (∀ w, (next w).Within m) ∧ Team.stepBound m + 1 ≤ n
  | .publish _ _ next => ∃ m, (∀ r, (next r).Within m) ∧ Team.stepBound m + 5 ≤ n
  | .collect _ _ next => ∃ m, (∀ r, (next r).Within m) ∧ Team.stepBound m + 2 ≤ n

/-- The lane has at most `n` steps to take. -/
def Stage.Within (n : Nat) : Stage → Prop
  | .running p => ∃ m, p.Within m ∧ Team.stepBound m ≤ n
  | .waiting _ _ r => r.Within n
  | .publishing _ _ next => ∃ m, (∀ r, (next r).Within m) ∧ Team.stepBound m + 4 ≤ n
  | .closing _ _ next => ∃ m, (∀ r, (next r).Within m) ∧ Team.stepBound m + 3 ≤ n
  | .collecting _ _ next => ∃ m, (∀ r, (next r).Within m) ∧ Team.stepBound m + 1 ≤ n
  | .leaving _ .block => 2 ≤ n
  | .leaving _ .warp => 1 ≤ n
  | .ended _ => True

theorem Resumption.Within.stage {n : Nat} {r : Resumption} (h : r.Within n) (w : Option Word) :
    ∃ m, (r.stage w).Within m ∧ m < n := by
  cases r with
  | deliver next =>
      obtain ⟨m, hnext, hle⟩ := h
      exact ⟨_, ⟨m, hnext _, Nat.le_refl _⟩, hle⟩
  | publish k l next =>
      obtain ⟨m, hnext, hle⟩ := h
      exact ⟨_, ⟨m, hnext, Nat.le_refl _⟩, hle⟩
  | collect k l next =>
      obtain ⟨m, hnext, hle⟩ := h
      exact ⟨_, ⟨m, hnext, Nat.le_refl _⟩, hle⟩

theorem Resumption.Within.stageAt {n : Nat} {r : Resumption} (h : r.Within n) (a : Arrival)
    (scope : Scope) : (a.stageAt scope r).Within n := by
  cases a with
  | waiting g => exact h
  | released w =>
      cases r with
      | deliver next =>
          obtain ⟨m, hnext, hle⟩ := h
          exact ⟨m, hnext _, by omega⟩
      | publish k l next =>
          obtain ⟨m, hnext, hle⟩ := h
          exact ⟨m, hnext, by omega⟩
      | collect k l next =>
          obtain ⟨m, hnext, hle⟩ := h
          exact ⟨m, hnext, by omega⟩

theorem Stage.Within.of_calls {n : Nat} {st : Stage} (h : st.Within n) {reserver : Reserver}
    {scope : Scope} {c : Option Contribution} {r : Resumption}
    (hcalls : st.calls reserver = some (scope, c, r)) : 2 < n ∧ r.Within (n - 1) := by
  cases calls_spec hcalls with
  | arrive =>
      obtain ⟨m, hp, hle⟩ := h
      cases hp with
      | @arrive m _ _ _ hnext =>
          rw [Team.stepBound] at hle
          exact ⟨by omega, m, hnext, by rw [Team.stepBound]; omega⟩
  | allocate =>
      obtain ⟨m, hp, hle⟩ := h
      cases hp with
      | @allocate m _ _ _ hnext =>
          rw [Team.stepBound] at hle
          exact ⟨by omega, m, hnext, by rw [Team.stepBound]; omega⟩
  | closing =>
      obtain ⟨m, hnext, hle⟩ := h
      exact ⟨by omega, m, hnext, by omega⟩

theorem Team.Step.within {β ω : Type} [Gate β] [Gate ω] {t t' : Team β ω} {lane : Nat} {m : Member}
    {st : Stage} (h : t.Step lane m st t') (hlane : t.stage? lane = some st) {n : Nat}
    (hst : st.Within n) :
    ∃ st' k, t'.stage? = Function.update t.stage? lane (some st') ∧ st'.Within k ∧ k < n := by
  cases h with
  | finish =>
      obtain ⟨m, -, hle⟩ := hst
      rw [conclude_eq]
      refine ⟨_, 2, stage?_moveTo rfl hlane _, Nat.le_refl 2, ?_⟩
      rw [stepBound] at hle
      omega
  | note =>
      obtain ⟨m, hp, hle⟩ := hst
      cases hp with
      | @note m e p hp =>
          refine ⟨_, _, stage?_moveTo (stage?_note t lane _) hlane _, ⟨m, hp, Nat.le_refl _⟩, ?_⟩
          rw [stepBound] at hle ⊢
          omega
  | arrive hcalls harrive =>
      obtain ⟨hlt, hwithin⟩ := hst.of_calls hcalls
      exact ⟨_, n - 1, stage?_moveTo (stage?_arriveAt harrive) hlane _, hwithin.stageAt _ _,
        by omega⟩
  | refused hcalls harrive =>
      rw [conclude_eq]
      exact ⟨_, 2, stage?_moveTo (stage?_arriveAt harrive) hlane _, Nat.le_refl 2,
        (hst.of_calls hcalls).1⟩
  | @reserve k l next _ =>
      obtain ⟨n₁, hp, hle⟩ := hst
      obtain ⟨hstage, -⟩ := reserveAlone_spec m.top k l next hlane
      cases hp with
      | @allocate n₁ k l next hp =>
          refine ⟨_, _, hstage, ⟨n₁, hp _, Nat.le_refl _⟩, ?_⟩
          rw [stepBound] at hle ⊢
          omega
  | reserved =>
      obtain ⟨m, hp, hle⟩ := hst
      cases hp with
      | @reserved m next hp =>
          refine ⟨_, _, stage?_moveTo rfl hlane _, ⟨m, hp _, Nat.le_refl _⟩, ?_⟩
          rw [stepBound] at hle ⊢
          omega
  | access =>
      obtain ⟨m, hp, hle⟩ := hst
      cases hp with
      | @access m p k a next hp =>
          refine ⟨_, _, stage?_moveTo rfl hlane _, ⟨m, hp _, Nat.le_refl _⟩, ?_⟩
          rw [stepBound] at hle ⊢
          omega
  | fault =>
      obtain ⟨m, -, hle⟩ := hst
      rw [conclude_eq]
      refine ⟨_, 2, stage?_moveTo rfl hlane _, Nat.le_refl 2, ?_⟩
      rw [stepBound] at hle
      omega
  | resume =>
      obtain ⟨m, hwithin, hlt⟩ := Resumption.Within.stage hst _
      exact ⟨_, m, stage?_moveTo rfl hlane _, hwithin, hlt⟩
  | @publish k l next =>
      obtain ⟨m, hnext, hle⟩ := hst
      refine ⟨.closing k l next, _, stage?_moveTo ?_ hlane _, ⟨m, hnext, Nat.le_refl _⟩, hle⟩
      split
      · exact (t.publish_spec k l).2.2.1
      · rfl
  | collect =>
      obtain ⟨m, hnext, hle⟩ := hst
      exact ⟨_, _, stage?_moveTo rfl hlane _, ⟨m, hnext _, Nat.le_refl _⟩, hle⟩
  | @leave o scope t₁ hleave =>
      cases scope with
      | block => exact ⟨_, 1, stage?_moveTo (stage?_leave hleave) hlane _, Nat.le_refl 1, hst⟩
      | warp => exact ⟨_, 0, stage?_moveTo (stage?_leave hleave) hlane _, trivial, hst⟩
  | @broken o scope f t₁ hleave =>
      refine ⟨_, 0, stage?_moveTo (stage?_leave hleave) hlane _, trivial, ?_⟩
      cases scope with
      | block => exact Nat.lt_of_lt_of_le Nat.two_pos hst
      | warp => exact hst

namespace Team

variable {β ω : Type}

/-- All lanes together have at most `total` steps to take. -/
def Within (total : Nat) (t : Team β ω) : Prop :=
  ∃ budget : Nat → Nat, (∀ i st, t.stage? i = some st → st.Within (budget i)) ∧
    ∑ i ∈ Finset.range t.size, budget i ≤ total

theorem sum_update_lt {n i m : Nat} {budget : Nat → Nat} (hi : i < n) (hm : m < budget i) :
    ∑ j ∈ Finset.range n, Function.update budget i m j < ∑ j ∈ Finset.range n, budget j := by
  refine Finset.sum_lt_sum (fun j _ => ?_) ⟨i, Finset.mem_range.mpr hi, ?_⟩
  · by_cases hj : j = i
    · rw [hj, Function.update_self]
      exact Nat.le_of_lt hm
    · rw [Function.update_of_ne hj]
  · rw [Function.update_self]
    exact hm

variable [Gate β] [Gate ω] {t t' : Team β ω} {lane n total : Nat}

theorem size_step (h : t.step lane = some t') : t'.size = t.size := by
  obtain ⟨st, st', hst, hstage, -⟩ := step_move h
  refine size_eq fun i => ?_
  rw [← isSome_stage?, hstage]
  by_cases hi : i = lane
  · rw [hi, Function.update_self, hst]
    rfl
  · rw [Function.update_of_ne hi]

theorem Within.step (h : t.Within total) (hstep : t.step lane = some t') :
    ∃ total', t'.Within total' ∧ total' < total := by
  obtain ⟨budget, hbudget, hle⟩ := h
  obtain ⟨member, hmember, hstep'⟩ := exists_step hstep
  have hst := stage?_eq_some hmember
  obtain ⟨st', m, hstage, hwithin, hlt⟩ := hstep'.within hst (hbudget lane _ hst)
  have hsize := size_step hstep
  have hlane : lane < t.size := (t.isSome_stage? lane).mp (Option.isSome_of_eq_some hst)
  refine ⟨∑ i ∈ Finset.range t.size, Function.update budget lane m i,
    ⟨Function.update budget lane m, ?_, ?_⟩, ?_⟩
  · intro i st₁ hst₁
    rw [hstage] at hst₁
    by_cases hi : i = lane
    · subst hi
      rw [Function.update_self] at hst₁ ⊢
      obtain rfl := Option.some.inj hst₁
      exact hwithin
    · rw [Function.update_of_ne hi] at hst₁ ⊢
      exact hbudget i st₁ hst₁
  · rw [hsize]
  · exact Nat.lt_of_lt_of_le (sum_update_lt hlane hlt) hle

theorem Within.turn (h : t.Within total) (lane fuel : Nat) :
    ∃ total', (t.turn lane fuel).Within total' ∧ total' ≤ total := by
  induction fuel generalizing t total with
  | zero => exact ⟨total, h, Nat.le_refl _⟩
  | succ fuel ih =>
      rw [Team.turn]
      rcases hstep : t.step lane with _ | t'
      · exact ⟨total, h, Nat.le_refl _⟩
      · obtain ⟨total', hwithin, hlt⟩ := h.step hstep
        obtain ⟨total'', hwithin', hle⟩ := ih hwithin
        exact ⟨total'', hwithin', by omega⟩

theorem Within.step_turn (h : t.Within total) (lane : Nat) {fuel : Nat} (hfuel : total ≤ fuel) :
    (t.turn lane fuel).step lane = none := by
  induction fuel generalizing t total with
  | zero =>
      rcases hstep : t.step lane with _ | t'
      · exact hstep
      · obtain ⟨total', -, hlt⟩ := h.step hstep
        omega
  | succ fuel ih =>
      rw [Team.turn]
      rcases hstep : t.step lane with _ | t'
      · exact hstep
      · obtain ⟨total', hwithin, hlt⟩ := h.step hstep
        exact ih hwithin (by omega)

section

variable {onEnd : Nat → Team β ω → Team β ω}
  (hquiet : ∀ lane t, ∃ reported, onEnd lane t = { t with reported })

include hquiet

theorem Within.sweep (h : t.Within total) (fuel : Nat) (lanes : List Nat)
    (moved : Bool) :
    (Team.sweep (fuel + 1) onEnd lanes (moved, t) = (moved, t) ∧
      ∀ lane ∈ lanes, t.canStep lane = false) ∨
    ∃ t' total', Team.sweep (fuel + 1) onEnd lanes (moved, t) = (true, t') ∧
      t'.Within total' ∧ total' < total := by
  induction lanes generalizing t total moved with
  | nil => exact .inl ⟨rfl, fun lane hlane => absurd hlane List.not_mem_nil⟩
  | cons lane lanes ih =>
      rw [Team.sweep]
      rcases hstep : t.step lane with _ | t'
      · have hstays : t.canStep lane = false := by
          rw [canStep, hstep]
          rfl
        rw [hstays, if_neg Bool.false_ne_true]
        refine (ih h moved).imp_left fun ⟨heq, hrest⟩ => ⟨heq, fun peer hpeer => ?_⟩
        rcases List.mem_cons.mp hpeer with rfl | hpeer
        · exact hstays
        · exact hrest peer hpeer
      · have hgoes : t.canStep lane = true := by
          rw [canStep, hstep]
          rfl
        obtain ⟨total', hwithin, hlt⟩ := h.step hstep
        obtain ⟨total'', hwithin', hle⟩ := hwithin.turn lane fuel
        have heq : t.turn lane (fuel + 1) = t'.turn lane fuel := by rw [Team.turn, hstep]
        rw [if_pos hgoes, heq]
        dsimp only
        generalize t'.turn lane fuel = t₁ at hwithin'
        obtain ⟨reported, hafter⟩ : ∃ reported,
            (if (t₁.members[lane]?).any fun m => m.stage.outcome?.isSome then onEnd lane t₁
              else t₁) = { t₁ with reported } := by
          split
          · exact hquiet lane t₁
          · exact ⟨t₁.reported, rfl⟩
        rw [hafter]
        have hwithin₁ : ({ t₁ with reported } : Team β ω).Within total'' := hwithin'
        right
        rcases ih hwithin₁ true with ⟨hsweep, -⟩ | ⟨t₂, total₂, hsweep, hw₂, hlt₂⟩
        · exact ⟨_, total'', hsweep, hwithin₁, by omega⟩
        · exact ⟨t₂, total₂, hsweep, hw₂, by omega⟩

theorem Within.rounds (h : t.Within total) (fuel count : Nat) {limit : Nat}
    (hlimit : total < limit) : (t.rounds (fuel + 1) onEnd count limit).2.AtRest := by
  induction limit generalizing t total count with
  | zero => exact absurd hlimit (Nat.not_lt_zero _)
  | succ limit ih =>
      rw [Team.rounds]
      split
      · rename_i hpending
        exact atRest_of_pending hpending
      · rcases h.sweep hquiet fuel (List.range t.size) false with
          ⟨hsweep, hrest⟩ | ⟨t', total', hsweep, hwithin, hlt⟩
        · rw [hsweep]
          intro lane
          by_cases hlane : t.size ≤ lane
          · exact step_of_size_le hlane
          · have hstays := hrest lane (List.mem_range.mpr (Nat.lt_of_not_le hlane))
            rw [canStep, Option.isSome_eq_false_iff] at hstays
            exact Option.isNone_iff_eq_none.mp hstays
        · rw [hsweep]
          exact ih hwithin (count + 1) (by omega)

end

omit [Gate β] [Gate ω] in
theorem within_of_running
    (h : ∀ i st, t.stage? i = some st → ∃ p, st = .running p ∧ p.Within n) :
    t.Within (t.size * stepBound n) := by
  refine ⟨fun _ => stepBound n, fun i st hst => ?_, ?_⟩
  · obtain ⟨p, rfl, hp⟩ := h i st hst
    exact ⟨n, hp, Nat.le_refl _⟩
  · rw [Finset.sum_const, Finset.card_range]
    exact Nat.le_refl _

theorem atRest_run
    (h : ∀ i st, t.stage? i = some st → ∃ p, st = .running p ∧ p.Within n)
    {onEnd : Nat → Team β ω → Team β ω}
    (hquiet : ∀ lane t, ∃ reported, onEnd lane t = { t with reported }) :
    (t.run n onEnd).2.AtRest :=
  (within_of_running h).rounds hquiet (6 * n + 2) 0 (Nat.lt_succ_self _)

/-- In `n` steps, whatever their order, the one comes to the other. -/
inductive Run : Nat → Team β ω → Team β ω → Prop
  | refl {t : Team β ω} : Run 0 t t
  | step {n lane : Nat} {t t' t'' : Team β ω} (h : t.step lane = some t') (hrun : Run n t' t'') :
      Run (n + 1) t t''

theorem Run.size_eq (h : Run n t t') : t'.size = t.size := by
  induction h with
  | refl => rfl
  | step hstep _ ih => exact ih.trans (size_step hstep)

theorem Run.trans {m : Nat} {t'' : Team β ω} (h : Run n t t') (h' : Run m t' t'') :
    Run (n + m) t t'' := by
  induction h with
  | refl => exact (Nat.zero_add m).symm ▸ h'
  | step hstep _ ih => exact (Nat.succ_add _ m).symm ▸ .step hstep (ih h')

theorem Run.le (h : Run n t t') (hwithin : t.Within total) : n ≤ total := by
  induction h generalizing total with
  | refl => exact Nat.zero_le _
  | step hstep _ ih =>
      obtain ⟨total', hwithin', hlt⟩ := hwithin.step hstep
      have hle := ih hwithin'
      omega

end Team

end LaneGrid
