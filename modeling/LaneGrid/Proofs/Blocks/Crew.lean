import LaneGrid.Proofs.Solitude.Block

namespace LaneGrid

namespace Team

variable {β ω : Type} [Gate β] [Gate ω] {t t' t'' : Team β ω} {lane : Nat}

/-- What may become of a team on its own: its lanes go on in any order, and something is
reported. -/
inductive Goes (t : Team β ω) : Team β ω → Prop
  | refl : Goes t t
  | step {t' t'' : Team β ω} {lane : Nat} (h : Goes t t') (hstep : t'.step lane = some t'') :
      Goes t t''
  | report {t' : Team β ω} (h : Goes t t') (reported : List Event) : Goes t { t' with reported }

theorem step_of_waiting {scope : Scope} {g g' : Word} {r : Resumption}
    (hst : t.stage? lane = some (.waiting scope g r))
    (hlook : t.lookAt lane scope g = .waiting g') : t.step lane = none := by
  obtain ⟨m, hm, hstage⟩ := Option.map_eq_some_iff.mp hst
  rw [step, hm]
  simp only [Option.bind_eq_bind, Option.bind_some]
  rw [hstage]
  dsimp only
  rw [hlook]

theorem step_eq_none_of_memory (memory : Memory) (reported : List Event) (h : t.step lane = none) :
    step { t with memory, reported } lane = none := by
  rcases hst : t.stage? lane with _ | st
  · refine step_of_size_le (Nat.le_of_not_lt fun hlt => ?_)
    rw [← isSome_stage?] at hlt
    exact absurd (hst ▸ hlt : (none : Option Stage).isSome = true) Bool.false_ne_true
  · rcases waits_of_step_eq_none hst h with ⟨o, rfl⟩ | ⟨scope, g, r, g', rfl, hlook⟩
    · exact step_of_ended hst
    · exact step_of_waiting hst hlook

theorem AtRest.of_memory (h : t.AtRest) (memory : Memory) (reported : List Event) :
    AtRest { t with memory, reported } :=
  fun lane => step_eq_none_of_memory memory reported (h lane)

theorem Goes.size_eq (h : t.Goes t') : t'.size = t.size := by
  induction h with
  | refl => rfl
  | step _ hstep ih => exact (size_step hstep).trans ih
  | report _ _ ih => exact ih

theorem run_goes {onEnd : Nat → Team β ω → Team β ω}
    (hquiet : ∀ lane t, ∃ reported, onEnd lane t = { t with reported }) (n : Nat) :
    t.Goes (t.run n onEnd).2 := by
  refine run_induction (fun _ _ _ => .step) (fun t' lane h => ?_) .refl n
  obtain ⟨reported, heq⟩ := hquiet lane t'
  rw [heq]
  exact h.report reported

end Team

theorem BlockTask.team_memory {b : BlockTask} {g : Grouping} {β ω : Type} {reserver : Reserver}
    {observed : Bool} {barrier : β} {warps : Array ω} {t : Team β ω}
    (h : b.team g reserver observed barrier warps = .ok t) : t.memory = ⟨.zeros, b.buffers⟩ := by
  obtain ⟨members, -, h⟩ := bind_eq_ok.mp h
  obtain rfl := Except.ok.inj h
  rfl

/-- How the lanes of a block are brought together, and what their ends make of the block. -/
structure Crew where
  Barrier : Type
  Warp : Type
  [barrier : Gate Barrier]
  [warp : Gate Warp]
  lanes : Nat
  team : BlockTask → Except Fault (Team Barrier Warp)
  result : BlockTask → Team Barrier Warp → Outcome Unit
  size_eq : ∀ task t, team task = .ok t → t.size = lanes
  buffers_eq : ∀ task t, team task = .ok t → t.memory.buffers = task.buffers
  within : ∀ task t, team task = .ok t → ∀ i st, t.stage? i = some st →
    ∃ p, st = .running p ∧ p.Within task.bound
  /-- What is reported does not matter. -/
  result_eq : ∀ task t reported, result task { t with reported } = result task t

attribute [instance] Crew.barrier Crew.warp

namespace Crew

open BlockTask

def solo (observed : Bool) : Crew where
  Barrier := SoloGate
  Warp := SoloGate
  lanes := 1
  team task := task.soloTeam observed
  result _ t := firstResult t
  size_eq _ _ h := Team.size_eq (team_starts h).1.lanes_iff
  buffers_eq _ _ h := congrArg Memory.buffers (team_memory h)
  within _ _ h _ _ hst := team_within h hst
  result_eq _ _ _ := rfl

def threads (lanes warpSize : Nat) (reserver : Reserver) : Crew where
  Barrier := ThreadBarrier
  Warp := ThreadBarrier
  lanes
  team task := task.threadTeam lanes warpSize reserver
  result := threadsResult
  size_eq _ _ h := Team.size_eq (team_starts h).1.lanes_iff
  buffers_eq _ _ h := congrArg Memory.buffers (team_memory h)
  within _ _ h _ _ hst := team_within h hst
  result_eq _ _ _ := rfl

def fibers (lanes : Nat) : Crew where
  Barrier := FiberBarrier
  Warp := SoloGate
  lanes
  team task := task.fiberTeam lanes
  result task t :=
    if t.pending = 0 then firstResult t
    else .error (.error (t.firstError?.getD (.deadlock task.block t.pending lanes)))
  size_eq _ _ h := Team.size_eq (team_starts h).1.lanes_iff
  buffers_eq _ _ h := congrArg Memory.buffers (team_memory h)
  within _ _ h _ _ hst := team_within h hst
  result_eq _ _ _ := rfl

/-- A way to run blocks that lets the crew come to rest in one of the possible orders. -/
structure Runs (c : Crew) (run : BlockTask → BlockReport) : Prop where
  refused : ∀ task f, c.team task = .error f → run task = task.refused (.fault f)
  ends : ∀ task t, c.team task = .ok t →
    ∃ t', t.Goes t' ∧ t'.AtRest ∧ (run task).Alike (report t' (c.result task t'))

theorem runs_solo (observed : Bool) : (solo observed).Runs fun task => task.runAlone observed where
  refused task f h := by
    rw [runAlone_eq, show task.soloTeam observed = .error f from h]
  ends task (t : Team SoloGate SoloGate) (h : task.soloTeam observed = .ok t) := by
    have hsize : t.size = 1 := (solo observed).size_eq task t h
    have hwithin := Team.within_of_running fun _ _ hst => team_within h hst
    rw [hsize, Nat.one_mul] at hwithin
    have hgoes : t.Goes (t.turn 0 (Team.stepBound task.bound)) :=
      Team.turn_induction (fun _ _ _ => .step) .refl 0 _
    refine ⟨_, hgoes, fun lane => ?_, ?_⟩
    · rcases Nat.eq_zero_or_pos lane with rfl | hpos
      · exact hwithin.step_turn 0 (Nat.le_refl _)
      · exact Team.step_of_size_le ((hgoes.size_eq.trans hsize).trans_le hpos)
    · rw [runAlone_eq, h]
      exact ⟨rfl, rfl, rfl⟩

theorem runs_threads (lanes warpSize : Nat) (reserver : Reserver) :
    (threads lanes warpSize reserver).Runs fun task => task.runThreads lanes warpSize reserver where
  refused task f h := by
    rw [runThreads_eq, show task.threadTeam lanes warpSize reserver = .error f from h]
  ends task (t : Team ThreadBarrier ThreadBarrier)
      (h : task.threadTeam lanes warpSize reserver = .ok t) := by
    have hquiet : ∀ (_ : Nat) (t : Team ThreadBarrier ThreadBarrier),
        ∃ reported, t = { t with reported } := fun _ t => ⟨t.reported, rfl⟩
    refine ⟨_, Team.run_goes hquiet task.bound,
      Team.atRest_run ((threads lanes warpSize reserver).within task t h) hquiet, ?_⟩
    rw [runThreads_eq, h]
    exact ⟨rfl, rfl, rfl⟩

theorem runs_fibers (lanes : Nat) : (fibers lanes).Runs fun task => task.runFibers lanes where
  refused task f h := by
    rw [runFibers_eq, show task.fiberTeam lanes = .error f from h]
  ends task (t : Team FiberBarrier SoloGate) (h : task.fiberTeam lanes = .ok t) := by
    have hquiet := noteFailure_eq task.block
    refine ⟨_, Team.run_goes hquiet task.bound,
      Team.atRest_run ((fibers lanes).within task t h) hquiet, ?_⟩
    rw [runFibers_eq, h]
    dsimp only
    generalize t.run task.bound (noteFailure task.block) = r
    obtain ⟨rounds, t'⟩ := r
    dsimp only
    split
    · rename_i hpending
      obtain ⟨reported, hreport⟩ := t'.report_eq (.fibersFinished task.block lanes rounds)
      rw [hreport]
      exact ⟨(if_pos hpending).symm, rfl, rfl⟩
    · rename_i hpending
      obtain ⟨reported, hreport⟩ := t'.report_eq (.fibersBlocked task.block t'.pending lanes rounds)
      rw [hreport]
      exact ⟨(if_neg hpending).symm, rfl, rfl⟩

end Crew

/-- The crew of each block of a launch. -/
def Backend.crew (b : Backend) (lanes : Nat) : Crew :=
  match b.kind with
  | .serial => .solo true
  | .blocks => .solo false
  | .threads => .threads lanes 1 .master
  | .fibers => .fibers lanes
  | .accelerator => .threads lanes b.device.properties.warpSize .lane

theorem Backend.crew_runs (b : Backend) (lanes : Nat) :
    (b.crew lanes).Runs (b.runBlock lanes) := by
  obtain ⟨kind, device, blockThreads⟩ := b
  cases kind with
  | serial => exact Crew.runs_solo true
  | blocks => exact Crew.runs_solo false
  | threads => exact Crew.runs_threads lanes 1 .master
  | fibers => exact Crew.runs_fibers lanes
  | accelerator => exact Crew.runs_threads lanes device.properties.warpSize .lane

end LaneGrid
