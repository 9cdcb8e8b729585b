import LaneGrid.Proofs.Phase.Deed
import LaneGrid.Proofs.Team.Budget

namespace LaneGrid

structure Traced (β ω : Type) where
  team : Team β ω
  log : Nat → List Deed

namespace Traced

variable {β ω : Type}

def start (team : Team β ω) : Traced β ω :=
  ⟨team, fun _ => []⟩

/-- The record after a step of a lane that stood at `st`. -/
def noted (log : Nat → List Deed) (lane : Nat) (st : Stage) : Nat → List Deed :=
  Function.update log lane (log lane ++ st.deed?.toList)

variable [Gate β] [Gate ω]

def step (t : Traced β ω) (lane : Nat) : Option (Traced β ω) := do
  let st ← t.team.stage? lane
  let team ← t.team.step lane
  return ⟨team, noted t.log lane st⟩

def turn (t : Traced β ω) (lane : Nat) : Nat → Traced β ω
  | 0 => t
  | fuel + 1 =>
    match t.step lane with
    | none => t
    | some t => t.turn lane fuel

def sweep (fuel : Nat) (onEnd : Nat → Team β ω → Team β ω) :
    List Nat → Bool × Traced β ω → Bool × Traced β ω
  | [], r => r
  | lane :: rest, (moved, t) =>
    if t.team.canStep lane then
      let t := t.turn lane fuel
      let isOver := (t.team.members[lane]?).any fun m => m.stage.outcome?.isSome
      sweep fuel onEnd rest (true, if isOver then ⟨onEnd lane t.team, t.log⟩ else t)
    else sweep fuel onEnd rest (moved, t)

def rounds (fuel : Nat) (onEnd : Nat → Team β ω → Team β ω) (count : Nat) (t : Traced β ω) :
    Nat → Nat × Traced β ω
  | 0 => (count, t)
  | limit + 1 =>
    if t.team.pending = 0 then (count, t)
    else
      match sweep fuel onEnd (List.range t.team.size) (false, t) with
      | (true, t) => t.rounds fuel onEnd (count + 1) limit
      | (false, t) => (count + 1, t)

def run (t : Traced β ω) (n : Nat) (onEnd : Nat → Team β ω → Team β ω) : Nat × Traced β ω :=
  t.rounds (Team.stepBound n) onEnd 0 (t.team.size * Team.stepBound n + 1)

variable {t t' : Traced β ω} {lane : Nat}

theorem step_eq_some : t.step lane = some t' ↔ ∃ st team, t.team.stage? lane = some st ∧
    t.team.step lane = some team ∧ t' = ⟨team, noted t.log lane st⟩ := by
  constructor
  · intro h
    obtain ⟨st, hst, h⟩ := Option.bind_eq_some_iff.mp h
    obtain ⟨team, hteam, h⟩ := Option.bind_eq_some_iff.mp h
    exact ⟨st, team, hst, hteam, (Option.some.inj h).symm⟩
  · rintro ⟨st, team, hst, hteam, rfl⟩
    rw [step, hst, hteam]
    rfl

theorem step_eq_none : t.step lane = none ↔ t.team.step lane = none := by
  rw [step]
  rcases hteam : t.team.step lane with _ | team
  · cases t.team.stage? lane <;> exact ⟨fun _ => rfl, fun _ => rfl⟩
  · obtain ⟨st, -, hst, -⟩ := Team.step_move hteam
    rw [hst]
    exact ⟨nofun, nofun⟩

theorem turn_team (t : Traced β ω) (lane fuel : Nat) :
    (t.turn lane fuel).team = t.team.turn lane fuel := by
  induction fuel generalizing t with
  | zero => rfl
  | succ fuel ih =>
      rw [turn, Team.turn]
      rcases hstep : t.step lane with _ | t'
      · rw [step_eq_none.mp hstep]
      · obtain ⟨st, team, -, hteam, rfl⟩ := step_eq_some.mp hstep
        rw [hteam]
        exact ih _

theorem sweep_team (fuel : Nat) (onEnd : Nat → Team β ω → Team β ω) (lanes : List Nat)
    (moved : Bool) (t : Traced β ω) :
    Team.sweep fuel onEnd lanes (moved, t.team) =
      ((sweep fuel onEnd lanes (moved, t)).1, (sweep fuel onEnd lanes (moved, t)).2.team) := by
  induction lanes generalizing moved t with
  | nil => rfl
  | cons lane lanes ih =>
      rw [Team.sweep, sweep]
      split
      · dsimp only
        rw [← turn_team]
        split
        · exact ih true ⟨onEnd lane (t.turn lane fuel).team, (t.turn lane fuel).log⟩
        · exact ih true (t.turn lane fuel)
      · exact ih moved t

theorem rounds_team (fuel : Nat) (onEnd : Nat → Team β ω → Team β ω) (count limit : Nat)
    (t : Traced β ω) : t.team.rounds fuel onEnd count limit =
      ((t.rounds fuel onEnd count limit).1, (t.rounds fuel onEnd count limit).2.team) := by
  induction limit generalizing t count with
  | zero => rfl
  | succ limit ih =>
      rw [Team.rounds, rounds, sweep_team]
      split
      · rfl
      · rcases sweep fuel onEnd (List.range t.team.size) (false, t) with ⟨_ | _, t'⟩
        · rfl
        · exact ih (count + 1) t'

theorem run_team (t : Traced β ω) (n : Nat) (onEnd : Nat → Team β ω → Team β ω) :
    t.team.run n onEnd = ((t.run n onEnd).1, (t.run n onEnd).2.team) :=
  rounds_team ..

section

variable {P : Traced β ω → Prop} {onEnd : Nat → Team β ω → Team β ω}
  (hstep : ∀ t lane t', P t → t.step lane = some t' → P t')
  (hend : ∀ t lane, P t → P ⟨onEnd lane t.team, t.log⟩)

include hstep

theorem turn_induction (h : P t) (lane fuel : Nat) : P (t.turn lane fuel) := by
  induction fuel generalizing t with
  | zero => exact h
  | succ fuel ih =>
      rw [turn]
      split
      · exact h
      · rename_i t' hnext
        exact ih (hstep t lane t' h hnext)

include hend

theorem sweep_induction (h : P t) (fuel : Nat) (lanes : List Nat) (moved : Bool) :
    P (sweep fuel onEnd lanes (moved, t)).2 := by
  induction lanes generalizing moved t with
  | nil => exact h
  | cons lane lanes ih =>
      have hturn := turn_induction hstep h lane fuel
      rw [sweep]
      split
      · dsimp only
        split
        · exact ih (hend _ lane hturn) true
        · exact ih hturn true
      · exact ih h moved

theorem rounds_induction (h : P t) (fuel count limit : Nat) :
    P (t.rounds fuel onEnd count limit).2 := by
  induction limit generalizing t count with
  | zero => exact h
  | succ limit ih =>
      have hsweep := sweep_induction hstep hend h fuel (List.range t.team.size) false
      rw [rounds]
      split
      · exact h
      · rcases heq : sweep fuel onEnd (List.range t.team.size) (false, t) with ⟨_ | _, t'⟩
        · rw [heq] at hsweep
          exact hsweep
        · rw [heq] at hsweep
          exact ih hsweep (count + 1)

theorem run_induction (h : P t) (n : Nat) : P (t.run n onEnd).2 :=
  rounds_induction hstep hend h ..

end

end Traced

namespace Team

variable {β ω : Type} [Gate β] [Gate ω] {P : Team β ω → Prop} {t : Team β ω}
  (hstep : ∀ t lane t', P t → t.step lane = some t' → P t')

include hstep

theorem turn_induction (h : P t) (lane fuel : Nat) : P (t.turn lane fuel) := by
  have hteam : t.turn lane fuel = ((Traced.start t).turn lane fuel).team :=
    ((Traced.start t).turn_team lane fuel).symm
  rw [hteam]
  refine Traced.turn_induction (P := fun t => P t.team) ?_ h lane fuel
  intro t lane t' h hnext
  obtain ⟨st, team, -, hteam, rfl⟩ := Traced.step_eq_some.mp hnext
  exact hstep t.team lane team h hteam

theorem run_induction {onEnd : Nat → Team β ω → Team β ω} (hend : ∀ t lane, P t → P (onEnd lane t))
    (h : P t) (n : Nat) : P (t.run n onEnd).2 := by
  have hteam : t.run n onEnd =
      (((Traced.start t).run n onEnd).1, ((Traced.start t).run n onEnd).2.team) :=
    (Traced.start t).run_team n onEnd
  rw [hteam]
  refine Traced.run_induction (P := fun t => P t.team) ?_ (fun t => hend t.team) h n
  intro t lane t' h hnext
  obtain ⟨st, team, -, hteam, rfl⟩ := Traced.step_eq_some.mp hnext
  exact hstep t.team lane team h hteam

omit hstep in
theorem run_run (t : Team β ω) (bound : Nat) : ∃ n, Run n t (t.run bound fun _ t => t).2 := by
  refine run_induction (P := fun t' => ∃ n, Run n t t') ?_ (fun _ _ h => h) ⟨0, .refl⟩ bound
  rintro t₁ lane t₂ ⟨n, hrun⟩ hstep
  exact ⟨n + 1, hrun.trans (.step hstep .refl)⟩

end Team

end LaneGrid
