import LaneGrid.Proofs.Shared.Together
import LaneGrid.Proofs.Polling.Run

/-!
How often a lane comes to the barrier in all and how it ends, if nothing holds it up. What it has
done counts as it was done; for the rest, every answer that its operations can be given is allowed.
-/

namespace LaneGrid

/-- With some answers to its operations, the program comes to the barrier of its block `n` times,
and ends with this outcome. -/
inductive Program.Ends : Nat → Outcome Unit → Program → Prop
  | finish {o : Outcome Unit} : Ends 0 o (.finish o)
  | note {n : Nat} {o : Outcome Unit} {entry : Observation} {next : Program} (h : Ends n o next) :
      Ends n o (.note entry next)
  | meet {n : Nat} {o : Outcome Unit} {c : Option Contribution} {next : Word → Program} (w : Word)
      (h : Ends n o (next w)) : Ends (n + 1) o (.arrive .block c next)
  | vote {n : Nat} {o : Outcome Unit} {c : Option Contribution} {next : Word → Program} (w : Word)
      (h : Ends n o (next w)) : Ends n o (.arrive .warp c next)
  /-- The master answers between two meetings. -/
  | allocate {n : Nat} {o : Outcome Unit} {k : ElementKind} {length : Nat}
      {next : Except Error SharedSlice → Program} (r : Except Error SharedSlice)
      (h : Ends n o (next r)) : Ends (n + 2) o (.allocate k length next)
  | reserved {n : Nat} {o : Outcome Unit} {next : Nat → Program} (bytes : Nat)
      (h : Ends n o (next bytes)) : Ends n o (.reserved next)
  | access {n : Nat} {o : Outcome Unit} {place : Place} {k : ElementKind} {a : Access k}
      {next : Element k → Program} (x : Element k) (h : Ends n o (next x)) :
      Ends n o (.access place k a next)
  | fault {place : Place} {k : ElementKind} {a : Access k} {next : Element k → Program}
      {memory : Memory} {f : Fault} (h : memory.access place a = .error f) :
      Ends 0 (.error (.fault f)) (.access place k a next)

theorem Program.Within.exists_ends {m : Nat} {p : Program} (h : p.Within m) :
    ∃ n o, p.Ends n o := by
  induction h with
  | finish => exact ⟨0, _, .finish⟩
  | note _ ih =>
      obtain ⟨n, o, h⟩ := ih
      exact ⟨n, o, .note h⟩
  | @arrive _ scope _ _ _ ih =>
      obtain ⟨n, o, h⟩ := ih 0
      cases scope with
      | block => exact ⟨n + 1, o, .meet 0 h⟩
      | warp => exact ⟨n, o, .vote 0 h⟩
  | @allocate _ k length _ _ ih =>
      obtain ⟨n, o, h⟩ := ih (.ok ⟨k, 0, length⟩)
      exact ⟨n + 2, o, .allocate _ h⟩
  | reserved _ ih =>
      obtain ⟨n, o, h⟩ := ih 0
      exact ⟨n, o, .reserved 0 h⟩
  | @access _ _ k _ _ _ ih =>
      obtain ⟨n, o, h⟩ := ih default
      exact ⟨n, o, .access _ h⟩

/-- What a lane still does after a meeting. -/
inductive Resumption.Ends (n : Nat) (o : Outcome Unit) : Resumption → Prop
  | deliver {next : Word → Program} (w : Word) (h : (next w).Ends n o) : Ends n o (.deliver next)
  | publish {k : ElementKind} {length : Nat} {next : Except Error SharedSlice → Program}
      (r : Except Error SharedSlice) (h : (next r).Ends n o) : Ends n o (.publish k length next)
  | collect {k : ElementKind} {length : Nat} {next : Except Error SharedSlice → Program}
      (r : Except Error SharedSlice) (h : (next r).Ends n o) : Ends n o (.collect k length next)

/-- What a lane still does when what it has begun is done: with some answers, it comes to the
barrier `n` times, and then reports this outcome. -/
inductive Stage.Ends (block lane : Nat) : Nat → Except Error Unit → Stage → Prop
  | running {n : Nat} {o : Outcome Unit} {p : Program} (h : p.Ends n o) :
      Ends block lane n (told block lane o) (.running p)
  | waiting {n : Nat} {o : Outcome Unit} {scope : Scope} {g : Word} {r : Resumption}
      (h : r.Ends n o) : Ends block lane n (told block lane o) (.waiting scope g r)
  | publishing {n : Nat} {o : Outcome Unit} {k : ElementKind} {length : Nat}
      {next : Except Error SharedSlice → Program} (r : Except Error SharedSlice)
      (h : (next r).Ends n o) : Ends block lane n (told block lane o) (.publishing k length next)
  | closing {n : Nat} {o : Outcome Unit} {k : ElementKind} {length : Nat}
      {next : Except Error SharedSlice → Program} (r : Except Error SharedSlice)
      (h : (next r).Ends n o) : Ends block lane n (told block lane o) (.closing k length next)
  | collecting {n : Nat} {o : Outcome Unit} {k : ElementKind} {length : Nat}
      {next : Except Error SharedSlice → Program} (r : Except Error SharedSlice)
      (h : (next r).Ends n o) : Ends block lane n (told block lane o) (.collecting k length next)
  | leaving {o : Except Error Unit} {scope : Scope} : Ends block lane 0 o (.leaving o scope)
  | ended {o : Except Error Unit} : Ends block lane 0 o (.ended o)

section

variable {n block lane : Nat}

theorem Resumption.Within.exists_ends {k : Nat} {r : Resumption} (h : r.Within k) :
    ∃ n o, r.Ends n o := by
  cases r with
  | deliver next =>
      obtain ⟨m, hnext, -⟩ := h
      obtain ⟨n, o, h⟩ := (hnext 0).exists_ends
      exact ⟨n, o, .deliver 0 h⟩
  | publish k length next =>
      obtain ⟨m, hnext, -⟩ := h
      obtain ⟨n, o, h⟩ := (hnext (.ok ⟨k, 0, length⟩)).exists_ends
      exact ⟨n, o, .publish _ h⟩
  | collect k length next =>
      obtain ⟨m, hnext, -⟩ := h
      obtain ⟨n, o, h⟩ := (hnext (.ok ⟨k, 0, length⟩)).exists_ends
      exact ⟨n, o, .collect _ h⟩

theorem Stage.Within.exists_ends {k : Nat} {st : Stage} (h : st.Within k) (block lane : Nat) :
    ∃ n o, st.Ends block lane n o := by
  cases st with
  | running p =>
      obtain ⟨m, hp, -⟩ := h
      obtain ⟨n, o, h⟩ := hp.exists_ends
      exact ⟨n, _, .running h⟩
  | waiting scope g r =>
      obtain ⟨n, o, h⟩ := Resumption.Within.exists_ends h
      exact ⟨n, _, .waiting h⟩
  | publishing k length next =>
      obtain ⟨m, hnext, -⟩ := h
      obtain ⟨n, o, h⟩ := (hnext (.ok ⟨k, 0, length⟩)).exists_ends
      exact ⟨n, _, .publishing _ h⟩
  | closing k length next =>
      obtain ⟨m, hnext, -⟩ := h
      obtain ⟨n, o, h⟩ := (hnext (.ok ⟨k, 0, length⟩)).exists_ends
      exact ⟨n, _, .closing _ h⟩
  | collecting k length next =>
      obtain ⟨m, hnext, -⟩ := h
      obtain ⟨n, o, h⟩ := (hnext (.ok ⟨k, 0, length⟩)).exists_ends
      exact ⟨n, _, .collecting _ h⟩
  | leaving o scope => exact ⟨0, o, .leaving⟩
  | ended o => exact ⟨0, o, .ended⟩

variable {o : Except Error Unit}

theorem Stage.Ends.of_stage {r : Resumption} {w : Option Word}
    (h : (r.stage w).Ends block lane n o) : ∃ o', r.Ends n o' ∧ o = told block lane o' := by
  cases r with
  | deliver next =>
      cases h with
      | running h => exact ⟨_, .deliver _ h, rfl⟩
  | publish k length next =>
      cases h with
      | publishing r h => exact ⟨_, .publish r h, rfl⟩
  | collect k length next =>
      cases h with
      | collecting r h => exact ⟨_, .collect r h, rfl⟩

theorem Stage.Ends.of_stageAt {a : Arrival} {scope : Scope} {r : Resumption}
    (h : (a.stageAt scope r).Ends block lane n o) : ∃ o', r.Ends n o' ∧ o = told block lane o' := by
  cases a with
  | released w => exact of_stage h
  | waiting g =>
      cases h with
      | waiting h => exact ⟨_, h, rfl⟩

theorem Stage.Ends.of_calls {st : Stage} {scope : Scope} {c : Option Contribution} {r : Resumption}
    {o : Outcome Unit} (hcalls : st.calls .master = some (scope, c, r)) (h : r.Ends n o) :
    st.Ends block lane (n + Collective.allPasses st.begins.toList) (told block lane o) := by
  cases calls_spec hcalls with
  | @arrive scope c next =>
      cases h with
      | deliver w h =>
          cases scope with
          | block => exact .running (.meet w h)
          | warp => exact .running (.vote w h)
  | allocate =>
      cases h with
      | publish r h => exact .running (.allocate r h)
  | closing =>
      cases h with
      | collect r h => exact .closing r h

end

namespace Team

variable {t t' t₁ : Team FiberBarrier SoloGate} {lane : Nat} {scope : Scope}

theorem arriveAt_ne_error {c : Option Contribution} {f : Fault} :
    t.arriveAt lane scope c ≠ (.error f, t₁) := by
  intro h
  cases scope with
  | block => cases congrArg Prod.fst h
  | warp =>
      rw [arriveAt] at h
      split at h <;> cases congrArg Prod.fst h

theorem leave_ne_error {failed : Bool} {f : Fault} : t.leave lane scope failed ≠ (.error f, t₁) := by
  intro h
  cases scope with
  | block => cases congrArg Prod.fst h
  | warp =>
      rw [leave] at h
      split at h <;> cases congrArg Prod.fst h

/-- What a lane can still do after a step it could do before the step, once it has done what it
begins with it. -/
theorem Step.ends {m : Member} {st : Stage} (h : t.Step lane m st t')
    (hlane : t.stage? lane = some st) (hreserver : t.plan.reserver = .master) :
    ∃ st', t'.stage? = Function.update t.stage? lane (some st') ∧
      ∀ n o, st'.Ends t.plan.block lane n o →
        st.Ends t.plan.block lane (n + Collective.allPasses st.begins.toList) o := by
  cases h with
  | finish =>
      rw [conclude_eq]
      refine ⟨_, stage?_moveTo rfl hlane _, fun n o h => ?_⟩
      cases h with
      | leaving => exact .running .finish
  | note =>
      refine ⟨_, stage?_moveTo (stage?_note t lane _) hlane _, fun n o h => ?_⟩
      cases h with
      | running h => exact .running (.note h)
  | arrive hcalls harrive =>
      refine ⟨_, stage?_moveTo (stage?_arriveAt harrive) hlane _, fun n o h => ?_⟩
      obtain ⟨o, hends, rfl⟩ := h.of_stageAt
      rw [hreserver] at hcalls
      exact .of_calls hcalls hends
  | refused _ harrive => exact absurd harrive arriveAt_ne_error
  | reserve hown => exact nomatch hreserver.symm.trans hown
  | reserved =>
      refine ⟨_, stage?_moveTo rfl hlane _, fun n o h => ?_⟩
      cases h with
      | running h => exact .running (.reserved _ h)
  | access =>
      refine ⟨_, stage?_moveTo rfl hlane _, fun n o h => ?_⟩
      cases h with
      | running h => exact .running (.access _ h)
  | fault haccess =>
      rw [conclude_eq]
      refine ⟨_, stage?_moveTo rfl hlane _, fun n o h => ?_⟩
      cases h with
      | leaving => exact .running (.fault haccess)
  | resume =>
      refine ⟨_, stage?_moveTo rfl hlane _, fun n o h => ?_⟩
      obtain ⟨o, hends, rfl⟩ := h.of_stage
      exact .waiting hends
  | @publish k l next =>
      refine ⟨.closing k l next, stage?_moveTo ?_ hlane _, fun n o h => ?_⟩
      · split
        · exact (t.publish_spec k l).2.2.1
        · rfl
      · cases h with
        | closing r h => exact .publishing r h
  | collect =>
      refine ⟨_, stage?_moveTo rfl hlane _, fun n o h => ?_⟩
      cases h with
      | running h => exact .collecting _ h
  | @leave o scope t₁ hleave =>
      refine ⟨_, stage?_moveTo (stage?_leave hleave) hlane _, fun n o h => ?_⟩
      cases scope with
      | block =>
          cases h with
          | leaving => exact .leaving
      | warp =>
          cases h with
          | ended => exact .leaving
  | broken hleave => exact absurd hleave leave_ne_error

end Team

namespace Chronicle

variable {c c' : Chronicle FiberBarrier SoloGate} {lane i n : Nat} {o : Except Error Unit}

/-- In all, the lane comes to the barrier `n` times if nothing holds it up, and it reports this
outcome: it has begun so much, and can do the rest. -/
def Makes (c : Chronicle FiberBarrier SoloGate) (lane n : Nat) (o : Except Error Unit) : Prop :=
  ∃ st k, c.team.stage? lane = some st ∧ st.Ends c.team.plan.block lane k o ∧
    Collective.allPasses (c.begun lane) + k = n

theorem Makes.of_step (h : c'.Makes i n o) (hreserver : c.team.plan.reserver = .master)
    (hstep : c.step lane = some c') : c.Makes i n o := by
  obtain ⟨st, team, hlane, hteam, rfl⟩ := step_eq_some.mp hstep
  obtain ⟨m, hm, hstep'⟩ := Team.exists_step hteam
  obtain rfl := Option.some.inj (hlane.symm.trans (Team.stage?_eq_some hm))
  obtain ⟨st', hstage, hends⟩ := hstep'.ends hlane hreserver
  obtain ⟨-, -, -, -, hplan, -⟩ := Team.step_move hteam
  obtain ⟨st₁, k, hst₁, h, rfl⟩ := h
  have hteam' : (c.after lane m.stage team).team = team := rfl
  rw [hteam', hstage] at hst₁
  rw [hteam', hplan] at h
  rw [begun_after]
  by_cases hi : i = lane
  · subst hi
    rw [Function.update_self] at hst₁ ⊢
    obtain rfl := Option.some.inj hst₁
    refine ⟨_, _, hlane, hends k o h, ?_⟩
    rw [Collective.allPasses_append]
    omega
  · rw [Function.update_of_ne hi] at hst₁ ⊢
    exact ⟨st₁, k, hst₁, h, rfl⟩

theorem exists_makes (hbounded : c.team.Bounded n) (hlane : (c.team.stage? lane).isSome = true) :
    ∃ n o, c.Makes lane n o := by
  obtain ⟨st, hst⟩ := Option.isSome_iff_exists.mp hlane
  obtain ⟨k, -, hwithin⟩ := hbounded lane st hst
  obtain ⟨n, o, h⟩ := hwithin.exists_ends c.team.plan.block lane
  exact ⟨_, o, st, n, hst, h, rfl⟩

end Chronicle

end LaneGrid
