import LaneGrid.Proofs.Phase.Scene
import LaneGrid.Proofs.Shared.Standing
import LaneGrid.Proofs.Shared.Transcript

namespace LaneGrid

theorem Stage.exists_arrive_of_calls {st : Stage} {scope : Scope} {c : Option Contribution}
    {r : Resumption} (hcalls : st.calls .lane = some (scope, c, r)) (hquiet : st.request? = none) :
    ∃ next, st = .running (.arrive scope c next) ∧ r = .deliver next := by
  cases calls_spec hcalls with
  | @arrive _ _ next => exact ⟨next, rfl, rfl⟩
  | allocate hreserver => cases hreserver
  | closing => cases hquiet

namespace Team

variable {β ω : Type} {t t₁ t' : Team β ω} {lane : Nat} {m : Member} {st' : Stage}

theorem tops_of_members (h : t₁.members = t.members) : t₁.scene.tops = t.scene.tops := by
  funext peer
  dsimp only [scene]
  rw [h]

variable [Gate β] [Gate ω]

theorem slices_arrive (t : Team β ω) (lane : Nat) (m : Member) (scope : Scope)
    (c : Option Contribution) (next : Word → Program) :
    (t.reply? lane { m with stage := .running (.arrive scope c next) }).toList.filterMap
      Reply.slice? = [] := by
  rw [reply?]
  dsimp only
  split <;> rfl

/-- What a step of a lane that reserves for itself gives it, and what it has reserved then. -/
def ServesAlone (t : Team β ω) (lane : Nat) (m : Member) (st : Stage) (t' : Team β ω) : Prop :=
  ∃ st' top, t'.stage? = Function.update t.stage? lane (some st') ∧ st'.request? = none ∧
    t'.plan = t.plan ∧ t'.scene.tops = Function.update t.scene.tops lane top ∧
    Arena.serve t.plan.arena.capacity m.top (Collective.requests st.begins.toList) =
      ((t.reply? lane { m with stage := st }).toList.filterMap Reply.slice?, top)

theorem servesAlone_quiet {st : Stage} (hm : t.members[lane]? = some m)
    (hstage : t₁.stage? = t.stage?) (htops : t₁.scene.tops = t.scene.tops)
    (hplan : t₁.plan = t.plan) (hst' : st'.request? = none)
    (hbegins : Collective.requests st.begins.toList = [])
    (hreply : (t.reply? lane { m with stage := st }).toList.filterMap Reply.slice? = []) :
    t.ServesAlone lane m st (t₁.moveTo lane st') := by
  have hmove : (t₁.moveTo lane st').scene.tops = t₁.scene.tops :=
    t₁.tops_modify lane fun _ => rfl
  refine ⟨st', m.top, stage?_moveTo hstage (stage?_eq_some hm) _, hst', hplan, ?_, ?_⟩
  · rw [hmove, htops, ← tops_scene hm, Function.update_eq_self]
  · rw [hbegins, hreply]
    rfl

theorem Step.servesAlone {st : Stage} (hm : t.members[lane]? = some m)
    (hreserver : t.plan.reserver = .lane) (hquiet : st.request? = none)
    (h : t.Step lane m st t') : t.ServesAlone lane m st t' := by
  cases h with
  | finish =>
      rw [conclude_eq]
      exact servesAlone_quiet hm rfl rfl rfl rfl rfl rfl
  | note =>
      exact servesAlone_quiet hm (stage?_note t lane _) (t.tops_modify lane fun _ => rfl) rfl rfl
        rfl rfl
  | @arrive _ scope c r a t₁ hcalls harrive =>
      rw [hreserver] at hcalls
      obtain ⟨next, rfl, rfl⟩ := Stage.exists_arrive_of_calls hcalls hquiet
      obtain ⟨hmembers, hplan⟩ := members_arriveAt harrive
      refine servesAlone_quiet hm (stage?_of_members hmembers) (tops_of_members hmembers) hplan ?_
        ?_ (slices_arrive t lane m scope c next)
      · cases a <;> rfl
      · cases scope <;> rfl
  | @refused _ scope c r f t₁ hcalls harrive =>
      rw [hreserver] at hcalls
      obtain ⟨next, rfl, rfl⟩ := Stage.exists_arrive_of_calls hcalls hquiet
      obtain ⟨hmembers, hplan⟩ := members_arriveAt harrive
      rw [conclude_eq]
      refine servesAlone_quiet hm (stage?_of_members hmembers) (tops_of_members hmembers) hplan rfl
        ?_ (slices_arrive t lane m scope c next)
      cases scope <;> rfl
  | @reserve k n next _ =>
      obtain ⟨hstage, hplan, -⟩ := reserveAlone_spec m.top k n next (stage?_eq_some hm)
      refine ⟨_, Arena.grow t.plan.arena.capacity m.top k n, hstage, rfl, hplan, ?_, ?_⟩
      · rw [scene_reserveAlone hm, tops_scene hm]
        rfl
      · simp only [reply?, hreserver]
        rfl
  | reserved => exact servesAlone_quiet hm rfl rfl rfl rfl rfl rfl
  | access haccess =>
      refine servesAlone_quiet hm rfl rfl rfl rfl rfl ?_
      simp [reply?, haccess, Reply.slice?]
  | fault haccess =>
      rw [conclude_eq]
      refine servesAlone_quiet hm rfl rfl rfl rfl rfl ?_
      simp [reply?, haccess]
  | @resume scope g r w hlook =>
      cases r with
      | deliver next =>
          refine servesAlone_quiet hm rfl rfl rfl rfl rfl ?_
          simp [reply?, hlook, Reply.slice?]
      | publish => cases hquiet
      | collect => cases hquiet
  | publish => cases hquiet
  | collect => cases hquiet
  | @leave o scope _ hleave =>
      obtain ⟨hmembers, hplan⟩ := members_leave hleave
      refine servesAlone_quiet hm (stage?_of_members hmembers) (tops_of_members hmembers) hplan ?_
        rfl rfl
      cases scope <;> rfl
  | broken hleave =>
      obtain ⟨hmembers, hplan⟩ := members_leave hleave
      exact servesAlone_quiet hm (stage?_of_members hmembers) (tops_of_members hmembers) hplan rfl
        rfl rfl

end Team

namespace Transcript

variable {β ω : Type}

/-- Every lane has been given what its requests are answered in an arena of its own. -/
structure Alone (d : Transcript β ω) : Prop where
  reserver : d.team.plan.reserver = .lane
  quiet : ∀ lane st, d.team.stage? lane = some st → st.request? = none
  served : ∀ lane, Arena.serve d.team.plan.arena.capacity 0 (d.requests lane) =
    (d.slices lane, d.team.scene.tops lane)

theorem alone_make {t : Team β ω} (hreserver : t.plan.reserver = .lane)
    (hrunning : ∀ lane st, t.stage? lane = some st → ∃ p, st = .running p)
    (htops : ∀ lane, t.scene.tops lane = 0) : (make t).Alone where
  reserver := hreserver
  quiet lane st hst := by
    obtain ⟨p, rfl⟩ := hrunning lane st hst
    rfl
  served lane := Prod.ext rfl (htops lane).symm

variable [Gate β] [Gate ω] {d d' : Transcript β ω} {lane : Nat}

theorem Alone.step (h : d.Alone) (hstep : d.step lane = some d') : d'.Alone := by
  obtain ⟨m, t', hm, ht', rfl⟩ := step_eq_some.mp hstep
  obtain ⟨m', hm', hstep⟩ := Team.exists_step ht'
  obtain rfl := Option.some.inj (hm.symm.trans hm')
  have hquiet := h.quiet lane _ (Team.stage?_eq_some hm)
  obtain ⟨st', top, hstage, hst', hplan, htops, hserve⟩ := hstep.servesAlone hm h.reserver hquiet
  have hteam : (d.after lane m t').team = t' := rfl
  constructor
  case reserver => rw [hteam, hplan, h.reserver]
  case quiet =>
    intro peer st hst
    rw [hteam, hstage] at hst
    by_cases hpeer : peer = lane
    · subst hpeer
      rw [Function.update_self] at hst
      exact Option.some.inj hst ▸ hst'
    · rw [Function.update_of_ne hpeer] at hst
      exact h.quiet peer st hst
  case served =>
    intro peer
    rw [hteam, hplan, htops]
    by_cases hpeer : peer = lane
    · subst hpeer
      rw [requests_after_self, slices_after_self, Arena.serve_append, h.served,
        Team.tops_scene hm, hserve, Function.update_self]
    · rw [requests_after_of_ne d hpeer, slices_after_of_ne d hpeer, Function.update_of_ne hpeer]
      exact h.served peer

end Transcript

end LaneGrid
