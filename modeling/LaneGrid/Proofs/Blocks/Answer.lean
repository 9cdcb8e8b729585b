import LaneGrid.Proofs.Blocks.Pool
import LaneGrid.Proofs.Box.Checked

namespace LaneGrid

/-- What the teams of a crew have in common from their start to their end, if it settles how they
end. Other blocks may change the buffers meanwhile. -/
structure Crew.Settles (crew : Crew) (d : WorkDivision) (kernel : Kernel)
    (outcome : Nat → Except Error Unit) (P : Nat → Team crew.Barrier crew.Warp → Prop) : Prop where
  starts : ∀ block arena buffers,
    ∃ t, crew.team ⟨d, kernel, block, arena, buffers⟩ = .ok t ∧ P block t
  step : ∀ block t memory reported lane t', P block t →
    Team.step { t with memory, reported } lane = some t' → P block t'
  ends : ∀ block task t, P block t → t.AtRest →
    crew.result task t = (outcome block).mapError .error

namespace Commission

variable {c : Commission} {outcome : Nat → Except Error Unit} {buffers : Array Bytes}
  {P : Nat → Team c.crew.Barrier c.crew.Warp → Prop}

theorem posts_of_settles (h : c.crew.Settles c.division c.kernel outcome P) {arena : Arena}
    (harena : Arena.make c.backend.machine (c.kernel.sharedBytes c.division)
      (c.kernel.dynamicBytes c.division) = .ok arena)
    (hlanes : c.backend.machine.keep c.lanes = .ok ()) {n : Nat} {s : Pool c}
    (hrun : Pool.Run (.start c buffers) n s) (block : Nat) :
    s.posts block = .idle ∨ ∃ task t, s.posts block = .working task t ∧ P block t := by
  induction hrun with
  | refl => exact .inl rfl
  | @step _ s' _ _ hstep ih =>
      cases hstep with
      | @enter other =>
          dsimp only
          by_cases hblock : block = other
          · obtain ⟨t, hteam, hholds⟩ := h.starts other arena s'.buffers
            rw [hblock, Function.update_self, enter, harena, hlanes]
            dsimp only
            rw [hteam]
            exact .inr ⟨_, t, rfl, hholds⟩
          · rw [Function.update_of_ne hblock]
            exact ih
      | @go other lane task t t' reported hpost hstep =>
          dsimp only
          by_cases hblock : block = other
          · subst hblock
            rw [Function.update_self]
            rcases ih with hidle | ⟨task', t₁, hpost', hholds⟩
            · rw [hpost] at hidle
              cases hidle
            · rw [hpost] at hpost'
              cases hpost'
              exact .inr ⟨task, t', rfl, h.step _ _ _ _ _ _ hholds hstep⟩
          · rw [Function.update_of_ne hblock]
            exact ih

theorem decides_of_settles (h : c.crew.Settles c.division c.kernel outcome P) {arena : Arena}
    (harena : Arena.make c.backend.machine (c.kernel.sharedBytes c.division)
      (c.kernel.dynamicBytes c.division) = .ok arena)
    (hlanes : c.backend.machine.keep c.lanes = .ok ()) : c.Decides buffers outcome := by
  intro n s hrun block r hends
  rcases posts_of_settles h harena hlanes hrun block with hidle | ⟨task, t, hpost, hholds⟩
  · exact absurd hidle hends.ne_idle
  · rw [hpost] at hends
    obtain ⟨hrest, rfl⟩ := hends.of_working
    exact h.ends block task t hholds hrest

end Commission

/-- The lane ends with the given answer, or has done so. -/
inductive Stage.Answers (o : Except Error Unit) : Stage → Prop
  | running : Answers o (.running (.finish (o.mapError .error)))
  | leaving {scope : Scope} : Answers o (.leaving o scope)
  | ended : Answers o (.ended o)

namespace Team

variable {t t' : Team SoloGate SoloGate} {o : Except Error Unit} {lane : Nat}

/-- The only lane of a team ends with the given answer, or has done so. -/
structure Answers (o : Except Error Unit) (t : Team SoloGate SoloGate) : Prop where
  size_eq : t.size = 1
  stage : ∀ lane st, t.stage? lane = some st → st.Answers o

theorem leave_solo {scope : Scope} {failed : Bool} {r : Except Fault Unit}
    {t₁ : Team SoloGate SoloGate} (h : t.leave lane scope failed = (r, t₁)) : r = .ok () := by
  rw [← (Prod.mk.inj h).1]
  cases scope with
  | block => rfl
  | warp =>
      dsimp only
      split
      · rfl
      · rfl

theorem Answers.step (h : t.Answers o) (hstep : t.step lane = some t') : t'.Answers o := by
  obtain ⟨m, hm, hmove⟩ := exists_step hstep
  have hlane := stage?_eq_some hm
  have hanswers := h.stage lane _ hlane
  have hnext {t₁ : Team SoloGate SoloGate} {st : Stage} (hstage : t₁.stage? = t.stage?)
      (hst : st.Answers o) (hmoved : t₁.moveTo lane st = t') : t'.Answers o := by
    refine ⟨(size_step hstep).trans h.size_eq, fun peer st' hpeer => ?_⟩
    rw [← hmoved, stage?_moveTo hstage hlane] at hpeer
    by_cases heq : peer = lane
    · rw [heq, Function.update_self] at hpeer
      exact Option.some.inj hpeer ▸ hst
    · rw [Function.update_of_ne heq] at hpeer
      exact h.stage peer st' hpeer
  generalize m.stage = st at hmove hlane hanswers
  cases hanswers with
  | running =>
      cases hmove with
      | finish =>
          have htold : told t.plan.block lane (o.mapError .error) = o := by
            rcases o with e | ⟨⟩
            · rfl
            · rfl
          have hleaving : Stage.Answers o (.leaving o .block) := .leaving
          refine hnext rfl hleaving ?_
          rw [conclude_eq, htold]
      | arrive hcalls => cases hcalls
      | refused hcalls => cases hcalls
  | @leaving scope =>
      cases hmove with
      | leave hleave =>
          refine hnext (stage?_leave hleave) ?_ rfl
          cases scope with
          | block => exact .leaving
          | warp => exact .ended
      | broken hleave => cases leave_solo hleave
      | arrive hcalls => cases hcalls
      | refused hcalls => cases hcalls
  | ended =>
      cases hmove with
      | arrive hcalls => cases hcalls
      | refused hcalls => cases hcalls

theorem Answers.firstResult_eq (h : t.Answers o) (hrest : t.AtRest) :
    BlockTask.firstResult t = o.mapError .error := by
  obtain ⟨st, hst⟩ := Option.isSome_iff_exists.mp
    ((t.isSome_stage? 0).mpr (h.size_eq ▸ Nat.one_pos))
  have hended : st = .ended o := by
    have hanswers := h.stage 0 st hst
    rcases waits_of_step_eq_none hst (hrest 0) with ⟨o', rfl⟩ | ⟨scope, g, r, g', rfl, -⟩
    · cases hanswers
      rfl
    · cases hanswers
  have houtcome : t.outcome? 0 = some o := outcome?_eq_some.mpr (hended ▸ hst)
  rw [BlockTask.firstResult, firstError?_eq, h.size_eq, List.range_one, List.map_singleton,
    houtcome]
  rcases o with e | ⟨⟩
  · rfl
  · rfl

end Team

def answerKernel (answer : List Nat → Except Error Unit) : Kernel where
  program lane := .finish ((answer lane.blockIndex).mapError .error)
  sharedBytes _ := 0
  dynamicBytes _ := 0
  bound _ := 0
  within _ := .finish

/-- The second block of a launch fails. -/
def secondFails (block : List Nat) : Except Error Unit :=
  if block = [1] then .error (.execution "no") else .ok ()

def allFail (_ : List Nat) : Except Error Unit :=
  .error (.execution "no")

def secondKernel : Kernel :=
  answerKernel secondFails

def failingKernel : Kernel :=
  answerKernel allFail

def threeBlocks : WorkDivision :=
  ⟨[3], [1], [1]⟩

def manyBlocks : WorkDivision :=
  ⟨[4611686018427387904], [1], [1]⟩

def plainHost : Device :=
  .host .standard 0

variable {answer : List Nat → Except Error Unit} {d : WorkDivision}

theorem BlockTask.exists_soloTeam_answers (task : BlockTask)
    (hkernel : task.kernel = answerKernel answer) (hgrid : ∀ e ∈ task.division.gridBlocks, 0 < e)
    (hthreads : ∀ e ∈ task.division.blockThreads, 0 < e) (observed : Bool) :
    ∃ t, task.soloTeam observed = .ok t ∧
      t.Answers (answer (Box.index task.division.gridBlocks task.block)) := by
  rw [soloTeam, team_of_one rfl, lane, Box.delinearize_eq_ok hgrid, ok_bind,
    Box.delinearize_eq_ok hthreads, ok_bind, pure_eq_ok]
  refine ⟨_, rfl, rfl, fun lane st hst => ?_⟩
  obtain ⟨m, hm, rfl⟩ := Option.map_eq_some_iff.mp hst
  rw [hkernel] at hm
  rcases lane with _ | lane
  · obtain rfl := Option.some.inj hm
    exact .running
  · cases hm

theorem Crew.settles_solo (hgrid : ∀ e ∈ d.gridBlocks, 0 < e)
    (hthreads : ∀ e ∈ d.blockThreads, 0 < e) (observed : Bool) :
    (Crew.solo observed).Settles d (answerKernel answer)
      (fun block => answer (Box.index d.gridBlocks block))
      (fun block (t : Team SoloGate SoloGate) =>
        t.Answers (answer (Box.index d.gridBlocks block))) where
  starts block arena buffers :=
    BlockTask.exists_soloTeam_answers ⟨d, answerKernel answer, block, arena, buffers⟩ rfl hgrid
      hthreads observed
  step _ t memory reported _ _ h hstep :=
    Team.Answers.step (t := { t with memory, reported }) ⟨h.size_eq, h.stage⟩ hstep
  ends _ _ _ h hrest := h.firstResult_eq hrest

theorem decides_answerKernel (answer : List Nat → Except Error Unit) {b : Backend}
    (hkind : b.kind = .serial ∨ b.kind = .blocks) (hmachine : b.machine = .standard)
    (hgrid : ∀ e ∈ d.gridBlocks, 0 < e) (hthreads : ∀ e ∈ d.blockThreads, 0 < e) (blocks : Nat)
    (buffers : Array Bytes) :
    Commission.Decides ⟨b, d, answerKernel answer, blocks, 1⟩ buffers
      fun block => answer (Box.index d.gridBlocks block) := by
  have harena : Arena.make b.machine 0 0 = .ok ⟨0, 0, 0⟩ := by
    rw [hmachine]
    rfl
  have hkeep : b.machine.keep 1 = .ok () := by
    rw [hmachine]
    rfl
  obtain ⟨kind, device, blockThreads⟩ := b
  rcases hkind with rfl | rfl
  · exact Commission.decides_of_settles (Crew.settles_solo hgrid hthreads true) harena hkeep
  · exact Commission.decides_of_settles (Crew.settles_solo hgrid hthreads false) harena hkeep

end LaneGrid
