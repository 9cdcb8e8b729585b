import LaneGrid.Block.ThreadBarrier
import LaneGrid.Proofs.Phase.Deed
import LaneGrid.Proofs.Team.Rest

/-!
What the steps of a team depend on when its lanes meet at the barrier of their block only: where the
lanes stand, the barrier, the memory and the accounts of what is reserved. `Act` lists all that one
lane can do there.
-/

namespace LaneGrid

/-- A gate at which nobody meets. Lanes only leave it. -/
class IdleGate (ω : Type) [Gate ω] where
  Idle : ω → Prop
  leave_idle {w : ω} (h : Idle w) (failed : Bool) :
    (Gate.leave w failed).1 = .ok () ∧ Idle (Gate.leave w failed).2

instance : IdleGate SoloGate where
  Idle _ := True
  leave_idle _ _ := ⟨rfl, trivial⟩

instance : IdleGate ThreadBarrier where
  Idle b := b.meeting.arrived = 0 ∧ b.stranded = none
  leave_idle := by
    intro b h failed
    cases failed with
    | true => exact ⟨rfl, h⟩
    | false =>
        have hreach :
            ({ b with finished := b.finished + 1 } : ThreadBarrier).unreachable = false := by
          simp [ThreadBarrier.unreachable, h.1]
        have hleave : Gate.leave b false = (.ok (), { b with finished := b.finished + 1 }) := by
          simp only [Gate.leave, ThreadBarrier.laneFinished, ThreadBarrier.strand, hreach,
            Bool.false_eq_true, if_false]
        rw [hleave]
        exact ⟨rfl, h⟩

/-- The lane meets nobody but the lanes of its block. -/
def Program.Plain : Program → Prop
  | .finish _ => True
  | .note _ next => next.Plain
  | .arrive scope _ next => scope = .block ∧ ∀ w, (next w).Plain
  | .allocate _ _ next => ∀ r, (next r).Plain
  | .reserved next => ∀ n, (next n).Plain
  | .access _ _ _ next => ∀ x, (next x).Plain

def Resumption.Plain : Resumption → Prop
  | .deliver next => ∀ w, (next w).Plain
  | .publish _ _ next => ∀ r, (next r).Plain
  | .collect _ _ next => ∀ r, (next r).Plain

def Stage.Plain : Stage → Prop
  | .running p => p.Plain
  | .waiting scope _ r => scope = .block ∧ r.Plain
  | .publishing _ _ next => ∀ r, (next r).Plain
  | .closing _ _ next => ∀ r, (next r).Plain
  | .collecting _ _ next => ∀ r, (next r).Plain
  | .leaving _ _ => True
  | .ended _ => True

theorem Resumption.Plain.stage {r : Resumption} (h : r.Plain) (w : Option Word) :
    (r.stage w).Plain := by
  cases r with
  | deliver next => exact h _
  | publish => exact h
  | collect => exact h

theorem Resumption.Plain.stage_arrival {r : Resumption} (h : r.Plain) (a : Arrival) :
    (a.stage r).Plain := by
  cases a with
  | released w => exact h.stage w
  | waiting g => exact ⟨rfl, h⟩

theorem Stage.Plain.of_passes {st : Stage} (h : st.Plain) {reserver : Reserver}
    {c : Option Contribution} {r : Resumption} (hpasses : st.passes reserver = some (c, r)) :
    r.Plain := by
  cases st with
  | running p =>
      cases p with
      | arrive scope c' next =>
          obtain ⟨rfl, h⟩ := h
          obtain ⟨-, rfl⟩ := Prod.mk.inj (Option.some.inj hpasses)
          exact h
      | allocate k n next =>
          cases reserver with
          | lane => cases hpasses
          | master =>
              obtain ⟨-, rfl⟩ := Prod.mk.inj (Option.some.inj hpasses)
              exact h
      | _ => cases hpasses
  | closing k n next =>
      obtain ⟨-, rfl⟩ := Prod.mk.inj (Option.some.inj hpasses)
      exact h
  | _ => cases hpasses

theorem Stage.Plain.passes {st : Stage} (h : st.Plain) {reserver : Reserver} {scope : Scope}
    {c : Option Contribution} {r : Resumption} (hcalls : st.calls reserver = some (scope, c, r)) :
    scope = .block ∧ st.passes reserver = some (c, r) := by
  refine (calls_spec hcalls).passes.resolve_right ?_
  rintro ⟨rfl, next, rfl, rfl⟩
  cases h.1

structure Scene (β : Type) where
  stage? : Nat → Option Stage
  /-- What every lane has reserved, where each keeps its own account. -/
  tops : Nat → Nat
  barrier : β
  memory : Memory
  top : Nat
  published : Option (Except SharedExcess Nat)

namespace Scene

variable {β : Type}

def put (s : Scene β) (lane : Nat) (st : Stage) : Scene β :=
  { s with stage? := Function.update s.stage? lane (some st) }

def reserved (s : Scene β) (reserver : Reserver) (lane : Nat) : Nat :=
  match reserver with
  | .lane => s.tops lane
  | .master => s.top

/-- The master answers a request. -/
def publish (s : Scene β) (capacity : Nat) (k : ElementKind) (n : Nat) : Scene β :=
  { s with
    top := Arena.grow capacity s.top k n
    published := some (Arena.answer capacity s.top k n).result }

def collected (s : Scene β) (k : ElementKind) (n : Nat) : Except Error SharedSlice :=
  match s.published with
  | some r => Answer.slice ⟨k, n, r⟩
  | none => .error (.execution "block shared allocation without a master lane")

variable [Gate β]

/-- All that a lane can do in one step, by where it stands. -/
inductive Act (block capacity : Nat) (reserver : Reserver) (lane : Nat) (s : Scene β) :
    Stage → Scene β → Prop
  | note {e : Observation} {p : Program} :
      Act block capacity reserver lane s (.running (.note e p)) (s.put lane (.running p))
  | finish {o : Outcome Unit} :
      Act block capacity reserver lane s (.running (.finish o))
        (s.put lane (.leaving (told block lane o) .block))
  | reserved {next : Nat → Program} :
      Act block capacity reserver lane s (.running (.reserved next))
        (s.put lane (.running (next (s.reserved reserver lane))))
  | reserve {k : ElementKind} {n : Nat} {next : Except Error SharedSlice → Program}
      (hreserver : reserver = .lane) :
      Act block capacity reserver lane s (.running (.allocate k n next))
        (put { s with
            tops := Function.update s.tops lane (Arena.grow capacity (s.tops lane) k n) } lane
          (.running (next (Arena.answer capacity (s.tops lane) k n).slice)))
  | access {p : Place} {k : ElementKind} {a : Access k} {next : Element k → Program}
      {x : Element k} {memory : Memory} (h : s.memory.access p a = .ok (x, memory)) :
      Act block capacity reserver lane s (.running (.access p k a next))
        (put { s with memory } lane (.running (next x)))
  | fault {p : Place} {k : ElementKind} {a : Access k} {next : Element k → Program} {f : Fault}
      (h : s.memory.access p a = .error f) :
      Act block capacity reserver lane s (.running (.access p k a next))
        (s.put lane (.leaving (told block lane (.error (.fault f))) .block))
  | pass {st : Stage} {c : Option Contribution} {r : Resumption} {a : Arrival} {barrier : β}
      (hpasses : st.passes reserver = some (c, r))
      (harrive : Gate.arrive s.barrier c = (.ok a, barrier)) :
      Act block capacity reserver lane s st (put { s with barrier } lane (a.stage r))
  | refused {st : Stage} {c : Option Contribution} {r : Resumption} {f : Fault} {barrier : β}
      {o : Except Error Unit} (hpasses : st.passes reserver = some (c, r))
      (harrive : Gate.arrive s.barrier c = (.error f, barrier)) :
      Act block capacity reserver lane s st (put { s with barrier } lane (.leaving o .block))
  | look {g : Word} {r : Resumption} {w : Option Word}
      (h : Gate.look s.barrier g = .released w) :
      Act block capacity reserver lane s (.waiting .block g r) (s.put lane (r.stage w))
  | publish {k : ElementKind} {n : Nat} {next : Except Error SharedSlice → Program} :
      Act block capacity reserver lane s (.publishing k n next)
        (put (if lane = 0 then s.publish capacity k n else s) lane (.closing k n next))
  | collect {k : ElementKind} {n : Nat} {next : Except Error SharedSlice → Program} :
      Act block capacity reserver lane s (.collecting k n next)
        (s.put lane (.running (next (s.collected k n))))
  | leave {o : Except Error Unit} {barrier : β}
      (h : Gate.leave s.barrier o.isOk.not = (.ok (), barrier)) :
      Act block capacity reserver lane s (.leaving o .block)
        (put { s with barrier } lane (.leaving o .warp))
  | broken {o o' : Except Error Unit} {barrier : β} {f : Fault}
      (h : Gate.leave s.barrier o.isOk.not = (.error f, barrier)) :
      Act block capacity reserver lane s (.leaving o .block)
        (put { s with barrier } lane (.ended o'))
  | part {o : Except Error Unit} :
      Act block capacity reserver lane s (.leaving o .warp) (s.put lane (.ended o))

theorem Act.exists_put {block capacity : Nat} {reserver : Reserver} {lane : Nat} {s s' : Scene β}
    {st : Stage} (h : Act block capacity reserver lane s st s') (hplain : st.Plain) :
    ∃ st', s'.stage? = Function.update s.stage? lane (some st') ∧ st'.Plain := by
  cases h with
  | note => exact ⟨_, rfl, hplain⟩
  | finish => exact ⟨_, rfl, trivial⟩
  | reserved => exact ⟨_, rfl, hplain _⟩
  | reserve => exact ⟨_, rfl, hplain _⟩
  | access => exact ⟨_, rfl, hplain _⟩
  | fault => exact ⟨_, rfl, trivial⟩
  | pass hpasses => exact ⟨_, rfl, (hplain.of_passes hpasses).stage_arrival _⟩
  | refused => exact ⟨_, rfl, trivial⟩
  | look => exact ⟨_, rfl, hplain.2.stage _⟩
  | @publish k n next =>
      refine ⟨.closing k n next, ?_, hplain⟩
      split <;> rfl
  | collect => exact ⟨_, rfl, hplain _⟩
  | leave => exact ⟨_, rfl, trivial⟩
  | broken => exact ⟨_, rfl, trivial⟩
  | part => exact ⟨_, rfl, trivial⟩

end Scene

namespace Team

variable {β ω : Type}

def scene (t : Team β ω) : Scene β where
  stage? := t.stage?
  tops lane := (t.members[lane]?).elim 0 (·.top)
  barrier := t.barrier
  memory := t.memory
  top := t.top
  published := t.published

theorem tops_scene {t : Team β ω} {lane : Nat} {m : Member} (hm : t.members[lane]? = some m) :
    t.scene.tops lane = m.top := by
  dsimp only [scene]
  rw [hm]
  rfl

theorem tops_modify (t : Team β ω) (lane : Nat) {f : Member → Member}
    (hf : ∀ m, (f m).top = m.top) :
    ({ t with members := t.members.modify lane f } : Team β ω).scene.tops = t.scene.tops := by
  funext peer
  dsimp only [scene]
  rw [Array.getElem?_modify]
  split
  · cases t.members[peer]? with
    | none => rfl
    | some m => exact hf m
  · rfl

theorem scene_moveTo {t : Team β ω} {lane : Nat} (hlane : (t.stage? lane).isSome = true)
    (st : Stage) : (t.moveTo lane st).scene = t.scene.put lane st := by
  obtain ⟨st₁, hst₁⟩ := Option.isSome_iff_exists.mp hlane
  have htops : (t.moveTo lane st).scene.tops = t.scene.tops := t.tops_modify lane fun _ => rfl
  have hstage : (t.moveTo lane st).scene.stage? = (t.scene.put lane st).stage? :=
    stage?_moveTo rfl hst₁ st
  calc (t.moveTo lane st).scene
      = { t.scene with
          stage? := (t.moveTo lane st).scene.stage?, tops := (t.moveTo lane st).scene.tops } := rfl
    _ = t.scene.put lane st := by rw [htops, hstage]; rfl

theorem scene_note (t : Team β ω) (lane : Nat) (e : Observation) :
    (t.note lane e).scene = t.scene := by
  have htops : (t.note lane e).scene.tops = t.scene.tops := t.tops_modify lane fun _ => rfl
  calc (t.note lane e).scene
      = { t.scene with stage? := (t.note lane e).stage?, tops := (t.note lane e).scene.tops } := rfl
    _ = t.scene := by rw [htops, stage?_note]; rfl

theorem scene_publish (t : Team β ω) (k : ElementKind) (n : Nat) :
    (t.publish k n).scene = t.scene.publish t.plan.arena.capacity k n := by
  obtain ⟨reported, hpublish⟩ := t.publish_eq k n
  rw [hpublish]
  rfl

theorem collected_scene (t : Team β ω) (k : ElementKind) (n : Nat) :
    t.scene.collected k n = t.collected k n := by
  rw [Scene.collected, collected]
  dsimp only [scene]
  rcases t.published with _ | e | offset <;> rfl

theorem scene_reserveAlone {t : Team β ω} {lane : Nat} {m : Member} (hm : t.members[lane]? = some m)
    (k : ElementKind) (n : Nat) (next : Except Error SharedSlice → Program) :
    (t.reserveAlone lane m.top k n next).scene =
      Scene.put { t.scene with
          tops := Function.update t.scene.tops lane
            (Arena.grow t.plan.arena.capacity (t.scene.tops lane) k n) } lane
        (.running (next (Arena.answer t.plan.arena.capacity (t.scene.tops lane) k n).slice)) := by
  have htop := tops_scene hm
  have hlane : (t.stage? lane).isSome = true := Option.isSome_of_eq_some (stage?_eq_some hm)
  rw [htop, reserveAlone, Arena.grow, Arena.answer]
  rcases Arena.bump t.plan.arena.capacity k m.top n with e | ⟨offset, top⟩
  · refine (scene_moveTo hlane _).trans ?_
    have hsame : Function.update t.scene.tops lane m.top = t.scene.tops := by
      rw [← htop, Function.update_eq_self]
    rw [hsame]
    rfl
  · obtain ⟨reported, hreport⟩ := t.report_eq (.sharedReserved offset n k.name)
    dsimp only
    rw [hreport]
    have hstage : ({ t with reported, members := t.members.modify lane fun m => { m with top } } :
        Team β ω).stage? = t.stage? := t.stage?_modify lane fun _ => rfl
    have htops : (fun peer => ((t.members.modify lane fun m => { m with top })[peer]?).elim 0
        (·.top)) = Function.update t.scene.tops lane top := by
      funext peer
      rw [Array.getElem?_modify]
      by_cases hpeer : peer = lane
      · subst hpeer
        rw [if_pos rfl, Function.update_self, hm]
        rfl
      · rw [if_neg (Ne.symm hpeer), Function.update_of_ne hpeer]
        rfl
    rw [scene_moveTo (by rw [hstage]; exact hlane), scene, hstage]
    dsimp only
    rw [htops]
    rfl

theorem reserved_scene {t : Team β ω} {lane : Nat} {m : Member} (hm : t.members[lane]? = some m) :
    t.scene.reserved t.plan.reserver lane = t.reserved m := by
  rw [reserved]
  cases t.plan.reserver with
  | lane => exact tops_scene hm
  | master => rfl

/-- No lane meets others than those of its block. -/
structure Tame [Gate ω] [IdleGate ω] (t : Team β ω) : Prop where
  plain : ∀ lane st, t.stage? lane = some st → st.Plain
  idle : ∀ (i : Nat) (w : ω), t.warps[i]? = some w → IdleGate.Idle w

variable [Gate β] [Gate ω] {t t' : Team β ω} {lane : Nat}

variable [IdleGate ω]

theorem leave_warp_ok (ht : t.Tame) (lane : Nat) (failed : Bool) :
    ∃ warps, t.leave lane .warp failed = (.ok (), { t with warps }) ∧
      ∀ (i : Nat) (w : ω), warps[i]? = some w → IdleGate.Idle w := by
  rcases hwarp : t.warps[lane / t.plan.warpSize]? with _ | w
  · refine ⟨t.warps, ?_, ht.idle⟩
    rw [leave, hwarp]
  · obtain ⟨hok, hidle⟩ := IdleGate.leave_idle (ht.idle _ _ hwarp) failed
    refine ⟨t.warps.setIfInBounds (lane / t.plan.warpSize) (Gate.leave w failed).2, ?_, ?_⟩
    · rw [leave, hwarp]
      dsimp only
      rw [hok]
    · intro i w' hw'
      rw [Array.getElem?_setIfInBounds] at hw'
      split at hw'
      · split at hw'
        · obtain rfl := Option.some.inj hw'
          exact hidle
        · cases hw'
      · exact ht.idle i w' hw'

theorem Step.act {m : Member} {st : Stage} (ht : t.Tame) (hm : t.members[lane]? = some m)
    (hst : t.stage? lane = some st) (h : t.Step lane m st t') :
    Scene.Act t.plan.block t.plan.arena.capacity t.plan.reserver lane t.scene st t'.scene ∧
      ∀ (i : Nat) (w : ω), t'.warps[i]? = some w → IdleGate.Idle w := by
  have hsome : (t.stage? lane).isSome = true := Option.isSome_of_eq_some hst
  have hplain := ht.plain lane _ hst
  cases h with
  | finish =>
      rw [conclude_eq, scene_moveTo hsome]
      exact ⟨.finish, ht.idle⟩
  | note =>
      rw [scene_moveTo (by rw [stage?_note]; exact hsome), scene_note]
      exact ⟨.note, ht.idle⟩
  | @arrive _ scope c r a t₁ hcalls harrive =>
      obtain ⟨rfl, hpasses⟩ := hplain.passes hcalls
      obtain ⟨barrier, hgate, rfl⟩ := arriveAt_block harrive
      rw [scene_moveTo (t := { t with barrier }) hsome, a.stageAt_block]
      exact ⟨.pass hpasses hgate, ht.idle⟩
  | @refused _ scope c r f t₁ hcalls harrive =>
      obtain ⟨rfl, hpasses⟩ := hplain.passes hcalls
      obtain ⟨barrier, hgate, rfl⟩ := arriveAt_block harrive
      rw [conclude_eq, scene_moveTo (t := { t with barrier }) hsome]
      exact ⟨.refused hpasses hgate, ht.idle⟩
  | @reserve k n next hreserver =>
      obtain ⟨members, reported, hframe⟩ := t.reserveAlone_frame lane m.top k n next
      rw [scene_reserveAlone hm, hframe]
      exact ⟨.reserve hreserver, ht.idle⟩
  | reserved =>
      rw [scene_moveTo hsome, ← reserved_scene hm]
      exact ⟨.reserved, ht.idle⟩
  | @access _ _ _ _ x memory haccess =>
      rw [scene_moveTo (t := { t with memory }) hsome]
      exact ⟨.access haccess, ht.idle⟩
  | fault haccess =>
      rw [conclude_eq, scene_moveTo hsome]
      exact ⟨.fault haccess, ht.idle⟩
  | @resume scope g r w hlook =>
      obtain ⟨rfl, -⟩ := hplain
      rw [scene_moveTo hsome]
      exact ⟨.look hlook, ht.idle⟩
  | @publish k n next =>
      have hput : (if lane = 0 then t.publish k n else t).scene =
          if lane = 0 then t.scene.publish t.plan.arena.capacity k n else t.scene := by
        rw [apply_ite Team.scene, scene_publish]
      have hsame : ((if lane = 0 then t.publish k n else t).stage? lane).isSome = true := by
        rw [apply_ite Team.stage?, (t.publish_spec k n).2.2.1, ite_self]
        exact hsome
      have hwarps : (if lane = 0 then t.publish k n else t).warps = t.warps := by
        obtain ⟨reported, hpublish⟩ := t.publish_eq k n
        rw [apply_ite Team.warps, hpublish, ite_self]
      rw [scene_moveTo hsame, hput]
      refine ⟨.publish, fun i w hw => ht.idle i w ?_⟩
      rw [← hwarps]
      exact hw
  | collect =>
      rw [scene_moveTo hsome, ← collected_scene]
      exact ⟨.collect, ht.idle⟩
  | @leave o scope t₁ hleave =>
      cases scope with
      | block =>
          obtain ⟨barrier, hgate, rfl⟩ := leave_block hleave
          rw [scene_moveTo (t := { t with barrier }) hsome]
          exact ⟨.leave hgate, ht.idle⟩
      | warp =>
          obtain ⟨warps, hleave', hidle⟩ := leave_warp_ok ht lane o.isOk.not
          obtain ⟨-, rfl⟩ := Prod.mk.inj (hleave.symm.trans hleave')
          rw [scene_moveTo (t := { t with warps }) hsome]
          exact ⟨.part, hidle⟩
  | @broken o scope f t₁ hleave =>
      cases scope with
      | block =>
          obtain ⟨barrier, hgate, rfl⟩ := leave_block hleave
          rw [scene_moveTo (t := { t with barrier }) hsome]
          exact ⟨.broken hgate, ht.idle⟩
      | warp =>
          obtain ⟨warps, hleave', -⟩ := leave_warp_ok ht lane o.isOk.not
          obtain ⟨hbroken, -⟩ := Prod.mk.inj (hleave.symm.trans hleave')
          cases hbroken

theorem step_act (ht : t.Tame) (h : t.step lane = some t') :
    ∃ st, t.stage? lane = some st ∧ t'.plan = t.plan ∧ t'.Tame ∧
      Scene.Act t.plan.block t.plan.arena.capacity t.plan.reserver lane t.scene st t'.scene := by
  obtain ⟨m, hm, hstep⟩ := exists_step h
  have hst := stage?_eq_some hm
  obtain ⟨hact, hidle⟩ := hstep.act ht hm hst
  obtain ⟨-, -, -, -, hplan, -⟩ := step_move h
  refine ⟨m.stage, hst, hplan, ⟨fun peer st' hst' => ?_, hidle⟩, hact⟩
  obtain ⟨next, hnext, hplain⟩ := hact.exists_put (ht.plain lane _ hst)
  have hstage : t'.stage? = Function.update t.stage? lane (some next) := hnext
  rw [hstage] at hst'
  by_cases hpeer : peer = lane
  · rw [hpeer, Function.update_self] at hst'
    obtain rfl := Option.some.inj hst'
    exact hplain
  · rw [Function.update_of_ne hpeer] at hst'
    exact ht.plain peer st' hst'

omit [IdleGate ω] in
theorem stays [MeetingGate β] {st : Stage} (hst : t.stage? lane = some st) (hplain : st.Plain)
    (h : t.step lane = none) :
    (∃ o, st = .ended o) ∨
      ∃ g r, st = .waiting .block g r ∧ Gate.look t.barrier g = .waiting g := by
  refine (waits_of_step_eq_none hst h).imp_right ?_
  rintro ⟨scope, g, r, g', rfl, hlook⟩
  obtain ⟨rfl, -⟩ := hplain
  have hlook' : Gate.look t.barrier g = .waiting g' := hlook
  exact ⟨g, r, rfl, MeetingGate.look_waiting hlook' ▸ hlook'⟩

end Team

end LaneGrid
