import LaneGrid.Proofs.Meeting.Gate
import LaneGrid.Proofs.Team.Move

namespace LaneGrid

namespace Team

variable {β ω : Type}

/-- How a lane has ended, if it has. -/
def outcome? (t : Team β ω) (lane : Nat) : Option (Except Error Unit) :=
  (t.stage? lane).bind Stage.outcome?

theorem outcome?_eq_some {t : Team β ω} {lane : Nat} {o : Except Error Unit} :
    t.outcome? lane = some o ↔ t.stage? lane = some (.ended o) := by
  rw [outcome?, Option.bind_eq_some_iff]
  constructor
  · rintro ⟨st, hst, ho⟩
    cases st with
    | ended => exact Option.some.inj ho ▸ hst
    | _ => cases ho
  · exact fun h => ⟨_, h, rfl⟩

theorem isSome_stage? (t : Team β ω) (lane : Nat) :
    (t.stage? lane).isSome = true ↔ lane < t.size := by
  rw [stage?, Option.isSome_map, isSome_getElem?]
  rfl

theorem size_eq {t : Team β ω} {n : Nat} (h : ∀ i, (t.stage? i).isSome = true ↔ i < n) :
    t.size = n := by
  have hiff (i : Nat) : i < t.size ↔ i < n := (t.isSome_stage? i).symm.trans (h i)
  exact Nat.le_antisymm (Nat.le_of_not_lt fun hlt => Nat.lt_irrefl _ ((hiff _).mp hlt))
    (Nat.le_of_not_lt fun hlt => Nat.lt_irrefl _ ((hiff _).mpr hlt))

theorem map_outcome? (t : Team β ω) :
    t.members.toList.map (fun m => m.stage.outcome?) = (List.range t.size).map t.outcome? := by
  refine List.ext_getElem (by simp [size]) fun i hi _ => ?_
  have hlt : i < t.members.size := by simpa using hi
  rw [List.getElem_map, List.getElem_map, List.getElem_range, Array.getElem_toList, outcome?,
    stage?_eq_some (Array.getElem?_eq_getElem hlt)]
  rfl

theorem pending_eq (t : Team β ω) :
    t.pending = (List.range t.size).countP fun i => (t.outcome? i).isNone := by
  have houtcomes := congrArg (List.countP Option.isNone) t.map_outcome?
  rw [List.countP_map, List.countP_map] at houtcomes
  rw [pending, ← Array.countP_toList]
  exact houtcomes

/-- The failure of a lane that has ended with one. -/
def failure? : Option (Except Error Unit) → Option Error
  | some (.error e) => some e
  | _ => none

theorem firstError?_eq (t : Team β ω) :
    t.firstError? = ((List.range t.size).map t.outcome?).findSome? failure? := by
  rw [← map_outcome?, List.findSome?_map, firstError?, ← Array.findSome?_toList]
  refine congrArg (List.findSome? · _) (funext fun m => ?_)
  rw [Function.comp_apply]
  rcases m.stage with _ | _ | _ | _ | _ | _ | (_ | _) <;> rfl

theorem pending_eq_zero {t : Team β ω} :
    t.pending = 0 ↔ ∀ i st, t.stage? i = some st → ∃ o, st = .ended o := by
  rw [pending_eq, List.countP_eq_zero]
  constructor
  · intro h i st hst
    have hsome := h i (List.mem_range.mpr ((t.isSome_stage? i).mp (Option.isSome_of_eq_some hst)))
    rw [Bool.not_eq_true, Option.isNone_eq_false_iff] at hsome
    obtain ⟨o, ho⟩ := Option.isSome_iff_exists.mp hsome
    exact ⟨o, Option.some.inj (hst.symm.trans (outcome?_eq_some.mp ho))⟩
  · intro h i hi
    obtain ⟨st, hst⟩ := Option.isSome_iff_exists.mp ((t.isSome_stage? i).mpr (List.mem_range.mp hi))
    obtain ⟨o, rfl⟩ := h i st hst
    rw [outcome?_eq_some.mpr hst]
    exact Bool.false_ne_true

variable [Gate β] [Gate ω]

/-- No lane can go on. -/
def AtRest (t : Team β ω) : Prop :=
  ∀ lane, t.step lane = none

theorem step_of_ended {t : Team β ω} {lane : Nat} {o : Except Error Unit}
    (hst : t.stage? lane = some (.ended o)) : t.step lane = none := by
  obtain ⟨m, hm, hstage⟩ := Option.map_eq_some_iff.mp hst
  rw [step, hm]
  simp only [Option.bind_eq_bind, Option.bind_some]
  rw [hstage]

theorem step_of_size_le {t : Team β ω} {lane : Nat} (h : t.size ≤ lane) : t.step lane = none := by
  rw [step, Array.getElem?_eq_none h]
  rfl

theorem atRest_of_pending {t : Team β ω} (h : t.pending = 0) : t.AtRest := by
  intro lane
  by_cases hlane : t.size ≤ lane
  · exact step_of_size_le hlane
  · obtain ⟨st, hst⟩ := Option.isSome_iff_exists.mp
      ((t.isSome_stage? lane).mpr (Nat.lt_of_not_le hlane))
    obtain ⟨o, rfl⟩ := pending_eq_zero.mp h lane st hst
    exact step_of_ended hst

theorem waits_of_step_eq_none {t : Team β ω} {lane : Nat} {st : Stage}
    (hst : t.stage? lane = some st) (h : t.step lane = none) :
    (∃ o, st = .ended o) ∨
      ∃ scope g r g', st = .waiting scope g r ∧ t.lookAt lane scope g = .waiting g' := by
  obtain ⟨m, hm, rfl⟩ := Option.map_eq_some_iff.mp hst
  rw [step, hm] at h
  simp only [Option.bind_eq_bind, Option.bind_some] at h
  rcases hstage : m.stage with p | ⟨scope, g, r⟩ | _ | _ | _ | ⟨o, scope⟩ | o
  all_goals
    rw [hstage] at h
    dsimp only at h
  case waiting =>
    rcases hlook : t.lookAt lane scope g with w | g'
    · rw [hlook] at h
      cases h
    · exact .inr ⟨scope, g, r, g', rfl, hlook⟩
  case leaving =>
    split at h <;> cases h
  case ended => exact .inl ⟨o, rfl⟩
  all_goals cases h

end Team

end LaneGrid
