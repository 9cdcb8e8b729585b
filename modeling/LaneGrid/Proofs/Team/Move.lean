import LaneGrid.Proofs.Team.Step

namespace LaneGrid

namespace Arrival

/-- Where a lane stands after it has come to the barrier of its block. -/
def stage (a : Arrival) (r : Resumption) : Stage :=
  match a with
  | released w => r.stage w
  | waiting g => .waiting .block g r

end Arrival

namespace Stage

/-- How a lane comes to the barrier of its block, if that is what it does next. -/
def passes (reserver : Reserver) : Stage → Option (Option Contribution × Resumption)
  | running (.arrive .block c next) => some (c, .deliver next)
  | running (.allocate k n next) =>
    match reserver with
    | .lane => none
    | .master => some (none, .publish k n next)
  | closing k n next => some (none, .collect k n next)
  | _ => none

/-- A lane that has nothing to do with the barrier of its block at the moment. -/
def Inward : Stage → Prop
  | running _ => True
  | waiting .warp _ (.deliver _) => True
  | leaving _ .block => True
  | _ => False

/-- A lane that will not come to the barrier of its block any more. -/
def HasLeft : Stage → Prop
  | leaving _ .warp => True
  | ended _ => True
  | _ => False

end Stage

theorem Arrival.stageAt_block (a : Arrival) (r : Resumption) : a.stageAt .block r = a.stage r := by
  cases a <;> rfl

theorem Stage.Calls.passes {reserver : Reserver} {st : Stage} {scope : Scope}
    {c : Option Contribution} {r : Resumption} (h : st.Calls reserver scope c r) :
    scope = .block ∧ st.passes reserver = some (c, r) ∨
      scope = .warp ∧ ∃ next, st = .running (.arrive .warp c next) ∧ r = .deliver next := by
  cases h with
  | @arrive scope c next =>
      cases scope with
      | block => exact .inl ⟨rfl, rfl⟩
      | warp => exact .inr ⟨rfl, next, rfl, rfl⟩
  | allocate hreserver =>
      rw [hreserver]
      exact .inl ⟨rfl, rfl⟩
  | closing => exact .inl ⟨rfl, rfl⟩

namespace Team

variable {β ω : Type}

/-- The master's account after it has answered a request. -/
structure Publishes (t t' : Team β ω) (k : ElementKind) (length : Nat) : Prop where
  top_eq : t'.top = Arena.grow t.plan.arena.capacity t.top k length
  published_eq : t'.published = some (Arena.answer t.plan.arena.capacity t.top k length).result

theorem publish_spec (t : Team β ω) (k : ElementKind) (length : Nat) :
    (t.publish k length).plan = t.plan ∧ (t.publish k length).barrier = t.barrier ∧
      (t.publish k length).stage? = t.stage? ∧ t.Publishes (t.publish k length) k length := by
  obtain ⟨reported, hpublish⟩ := t.publish_eq k length
  rw [hpublish]
  exact ⟨rfl, rfl, rfl, rfl, rfl⟩

variable [Gate β] [Gate ω]

/-- All that a lane can do in one step. -/
inductive Move (t : Team β ω) (lane : Nat) (t' : Team β ω) : Stage → Stage → Prop
  /-- The lane goes on by itself. -/
  | work {p : Program} {st' : Stage} (hpasses : (Stage.running p).passes t.plan.reserver = none)
      (hinward : st'.Inward) (hbarrier : t'.barrier = t.barrier) (haccount : t.SameAccount t') :
      Move t lane t' (.running p) st'
  | pass {st : Stage} {c : Option Contribution} {r : Resumption} {a : Arrival}
      (hpasses : st.passes t.plan.reserver = some (c, r))
      (harrive : Gate.arrive t.barrier c = (.ok a, t'.barrier)) (haccount : t.SameAccount t') :
      Move t lane t' st (a.stage r)
  | refused {st : Stage} {c : Option Contribution} {r : Resumption} {f : Fault}
      {o : Except Error Unit} (hpasses : st.passes t.plan.reserver = some (c, r))
      (harrive : Gate.arrive t.barrier c = (.error f, t'.barrier))
      (haccount : t.SameAccount t') : Move t lane t' st (.leaving o .block)
  | resume {scope : Scope} {g : Word} {r : Resumption} {w : Option Word}
      (hlook : t.lookAt lane scope g = .released w) (hbarrier : t'.barrier = t.barrier)
      (haccount : t.SameAccount t') : Move t lane t' (.waiting scope g r) (r.stage w)
  | publish {k : ElementKind} {n : Nat} {next : Except Error SharedSlice → Program}
      (hbarrier : t'.barrier = t.barrier)
      (haccount : if lane = 0 then t.Publishes t' k n else t.SameAccount t') :
      Move t lane t' (.publishing k n next) (.closing k n next)
  | collect {k : ElementKind} {n : Nat} {next : Except Error SharedSlice → Program}
      (hbarrier : t'.barrier = t.barrier) (haccount : t.SameAccount t') :
      Move t lane t' (.collecting k n next) (.running (next (t.collected k n)))
  | leave {o : Except Error Unit} {st' : Stage} (hleft : st'.HasLeft)
      (hbarrier : t'.barrier = (Gate.leave t.barrier o.isOk.not).2)
      (haccount : t.SameAccount t') : Move t lane t' (.leaving o .block) st'
  | part {o o' : Except Error Unit} (hbarrier : t'.barrier = t.barrier)
      (haccount : t.SameAccount t') : Move t lane t' (.leaving o .warp) (.ended o')

theorem Step.move {t t' : Team β ω} {lane : Nat} {m : Member} {st : Stage}
    (h : t.Step lane m st t') (hlane : t.stage? lane = some st) :
    ∃ st', t'.stage? = Function.update t.stage? lane (some st') ∧ t'.plan = t.plan ∧
      t.Move lane t' st st' := by
  cases h with
  | finish =>
      rw [conclude_eq]
      exact ⟨_, stage?_moveTo rfl hlane _, rfl, .work rfl trivial rfl ⟨rfl, rfl⟩⟩
  | note =>
      exact ⟨_, stage?_moveTo (stage?_note t lane _) hlane _, rfl,
        .work rfl trivial rfl ⟨rfl, rfl⟩⟩
  | @arrive _ scope c r a t₁ hcalls harrive =>
      refine ⟨_, stage?_moveTo (stage?_arriveAt harrive) hlane _, (members_arriveAt harrive).2, ?_⟩
      rcases (Stage.calls_spec hcalls).passes with ⟨rfl, hpasses⟩ | ⟨rfl, next, rfl, rfl⟩
      · obtain ⟨barrier, hgate, rfl⟩ := arriveAt_block harrive
        rw [a.stageAt_block]
        exact .pass hpasses hgate ⟨rfl, rfl⟩
      · obtain ⟨warps, rfl⟩ := arriveAt_warp harrive
        refine .work rfl ?_ rfl ⟨rfl, rfl⟩
        cases a <;> exact trivial
  | @refused _ scope c r f t₁ hcalls harrive =>
      rw [conclude_eq]
      refine ⟨_, stage?_moveTo (stage?_arriveAt harrive) hlane _, (members_arriveAt harrive).2, ?_⟩
      rcases (Stage.calls_spec hcalls).passes with ⟨rfl, hpasses⟩ | ⟨rfl, next, rfl, rfl⟩
      · obtain ⟨barrier, hgate, rfl⟩ := arriveAt_block harrive
        exact .refused hpasses hgate ⟨rfl, rfl⟩
      · obtain ⟨warps, rfl⟩ := arriveAt_warp harrive
        exact .work rfl trivial rfl ⟨rfl, rfl⟩
  | @reserve k n next hreserver =>
      obtain ⟨hstage, hplan, hbarrier, haccount⟩ := reserveAlone_spec m.top k n next hlane
      refine ⟨_, hstage, hplan, .work ?_ trivial hbarrier haccount⟩
      rw [hreserver]
      rfl
  | reserved => exact ⟨_, stage?_moveTo rfl hlane _, rfl, .work rfl trivial rfl ⟨rfl, rfl⟩⟩
  | access => exact ⟨_, stage?_moveTo rfl hlane _, rfl, .work rfl trivial rfl ⟨rfl, rfl⟩⟩
  | fault =>
      rw [conclude_eq]
      exact ⟨_, stage?_moveTo rfl hlane _, rfl, .work rfl trivial rfl ⟨rfl, rfl⟩⟩
  | resume hlook => exact ⟨_, stage?_moveTo rfl hlane _, rfl, .resume hlook rfl ⟨rfl, rfl⟩⟩
  | @publish k n next =>
      obtain ⟨hplan, hbarrier, hstage, hpublishes⟩ := t.publish_spec k n
      refine ⟨.closing k n next, ?_⟩
      by_cases hmaster : lane = 0
      · rw [if_pos hmaster]
        refine ⟨stage?_moveTo hstage hlane _, hplan, .publish hbarrier ?_⟩
        rw [if_pos hmaster]
        exact ⟨hpublishes.top_eq, hpublishes.published_eq⟩
      · rw [if_neg hmaster]
        refine ⟨stage?_moveTo rfl hlane _, rfl, .publish rfl ?_⟩
        rw [if_neg hmaster]
        exact ⟨rfl, rfl⟩
  | collect => exact ⟨_, stage?_moveTo rfl hlane _, rfl, .collect rfl ⟨rfl, rfl⟩⟩
  | @leave o scope t₁ hleave =>
      refine ⟨_, stage?_moveTo (stage?_leave hleave) hlane _, (members_leave hleave).2, ?_⟩
      cases scope with
      | block =>
          obtain ⟨barrier, hgate, rfl⟩ := leave_block hleave
          exact .leave trivial (congrArg Prod.snd hgate).symm ⟨rfl, rfl⟩
      | warp =>
          obtain ⟨warps, rfl⟩ := leave_warp hleave
          exact .part rfl ⟨rfl, rfl⟩
  | @broken o scope f t₁ hleave =>
      refine ⟨_, stage?_moveTo (stage?_leave hleave) hlane _, (members_leave hleave).2, ?_⟩
      cases scope with
      | block =>
          obtain ⟨barrier, hgate, rfl⟩ := leave_block hleave
          exact .leave trivial (congrArg Prod.snd hgate).symm ⟨rfl, rfl⟩
      | warp =>
          obtain ⟨warps, rfl⟩ := leave_warp hleave
          exact .part rfl ⟨rfl, rfl⟩

theorem step_move {t t' : Team β ω} {lane : Nat} (h : t.step lane = some t') :
    ∃ st st', t.stage? lane = some st ∧
      t'.stage? = Function.update t.stage? lane (some st') ∧ t'.plan = t.plan ∧
      t.Move lane t' st st' := by
  obtain ⟨m, hm, hstep⟩ := exists_step h
  have hlane := stage?_eq_some hm
  obtain ⟨st', hmove⟩ := hstep.move hlane
  exact ⟨m.stage, st', hlane, hmove⟩

end Team

end LaneGrid
