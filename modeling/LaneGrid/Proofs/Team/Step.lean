import Mathlib.Logic.Function.Basic
import LaneGrid.Block.Team
import LaneGrid.Proofs.Shared.Reservation

namespace LaneGrid

/-- Where a lane stands after it has come to the gate of a group. -/
def Arrival.stageAt (a : Arrival) (scope : Scope) (r : Resumption) : Stage :=
  match a with
  | released w => r.stage w
  | waiting g => .waiting scope g r

/-- How a lane comes to the gate of a group, if that is what it does next. -/
def Stage.calls (reserver : Reserver) :
    Stage → Option (Scope × Option Contribution × Resumption)
  | running (.arrive scope c next) => some (scope, c, .deliver next)
  | running (.allocate k n next) =>
    match reserver with
    | .lane => none
    | .master => some (.block, none, .publish k n next)
  | closing k n next => some (.block, none, .collect k n next)
  | _ => none

/-- A lane comes to a gate to meet, or twice for each request that the master is to answer. -/
inductive Stage.Calls (reserver : Reserver) :
    Stage → Scope → Option Contribution → Resumption → Prop
  | arrive {scope : Scope} {c : Option Contribution} {next : Word → Program} :
      Calls reserver (.running (.arrive scope c next)) scope c (.deliver next)
  | allocate {k : ElementKind} {n : Nat} {next : Except Error SharedSlice → Program}
      (hreserver : reserver = .master) :
      Calls reserver (.running (.allocate k n next)) .block none (.publish k n next)
  | closing {k : ElementKind} {n : Nat} {next : Except Error SharedSlice → Program} :
      Calls reserver (.closing k n next) .block none (.collect k n next)

theorem Stage.calls_spec {reserver : Reserver} {st : Stage} {scope : Scope}
    {c : Option Contribution} {r : Resumption} (h : st.calls reserver = some (scope, c, r)) :
    st.Calls reserver scope c r := by
  cases st with
  | running p =>
      cases p with
      | arrive scope' c' next =>
          cases h
          exact .arrive
      | allocate k n next =>
          cases reserver with
          | lane => cases h
          | master =>
              cases h
              exact .allocate rfl
      | _ => cases h
  | closing k n next =>
      cases h
      exact .closing
  | _ => cases h

/-- A lane tells the members of one group after the other that it has its outcome. -/
def Stage.afterLeaving (o : Except Error Unit) : Scope → Stage
  | .block => .leaving o .warp
  | .warp => .ended o

/-- What a lane of a block reports as its outcome. A fault counts as a failure of the lane. -/
def told (block lane : Nat) : Outcome Unit → Except Error Unit
  | .ok () => .ok ()
  | .error (.error e) => .error e
  | .error (.fault f) => .error (.kernelPanicked block lane f.message)

namespace Team

variable {β ω : Type}

def stage? (t : Team β ω) (lane : Nat) : Option Stage :=
  (t.members[lane]?).map (·.stage)

theorem stage?_eq_some {t : Team β ω} {lane : Nat} {m : Member} (h : t.members[lane]? = some m) :
    t.stage? lane = some m.stage := by
  rw [stage?, h]
  rfl

theorem stage?_moveTo {t t₁ : Team β ω} {lane : Nat} (hstage : t₁.stage? = t.stage?)
    {st : Stage} (hlane : t.stage? lane = some st) (st' : Stage) :
    (t₁.moveTo lane st').stage? = Function.update t.stage? lane (some st') := by
  funext peer
  by_cases hpeer : peer = lane
  · subst hpeer
    rw [← hstage, stage?] at hlane
    obtain ⟨m, hm, -⟩ := Option.map_eq_some_iff.mp hlane
    rw [Function.update_self, stage?, moveTo, Array.getElem?_modify, if_pos rfl, hm]
    rfl
  · rw [Function.update_of_ne hpeer, ← hstage, stage?, moveTo, Array.getElem?_modify,
      if_neg (Ne.symm hpeer)]
    rfl

theorem stage?_modify (t : Team β ω) (lane : Nat) {f : Member → Member}
    (hf : ∀ m, (f m).stage = m.stage) :
    ({ t with members := t.members.modify lane f } : Team β ω).stage? = t.stage? := by
  funext peer
  rw [stage?, stage?, Array.getElem?_modify]
  split
  · rw [Option.map_map]
    exact congrArg (fun g => Option.map g t.members[peer]?) (funext hf)
  · rfl

theorem stage?_note (t : Team β ω) (lane : Nat) (entry : Observation) :
    (t.note lane entry).stage? = t.stage? :=
  t.stage?_modify lane fun _ => rfl

theorem report_eq (t : Team β ω) (event : Event) :
    ∃ reported, t.report event = { t with reported } := by
  rw [report]
  split
  · exact ⟨_, rfl⟩
  · exact ⟨t.reported, rfl⟩

theorem publish_eq (t : Team β ω) (k : ElementKind) (length : Nat) :
    ∃ reported, t.publish k length = { t with
      top := Arena.grow t.plan.arena.capacity t.top k length
      published := some (Arena.answer t.plan.arena.capacity t.top k length).result
      reported } := by
  rw [publish, Arena.grow, Arena.answer]
  rcases Arena.bump t.plan.arena.capacity k t.top length with e | ⟨offset, top⟩
  · exact report_eq _ _
  · exact report_eq _ _

theorem collected_eq {t : Team β ω} {a : Answer} (h : t.published = some a.result) :
    t.collected a.kind a.length = a.slice := by
  rw [collected, h, Answer.slice]
  cases a.result <;> rfl

theorem conclude_eq (t : Team β ω) (lane : Nat) (o : Outcome Unit) :
    t.conclude lane o = t.moveTo lane (.leaving (told t.plan.block lane o) .block) := by
  rcases o with (f | e) | u <;> rfl

/-- The bytes that are reserved, as a lane is told. -/
def reserved (t : Team β ω) (m : Member) : Nat :=
  match t.plan.reserver with
  | .lane => m.top
  | .master => t.top

structure SameAccount (t t' : Team β ω) : Prop where
  top_eq : t'.top = t.top
  published_eq : t'.published = t.published

theorem reserveAlone_frame (t : Team β ω) (lane top : Nat) (k : ElementKind) (length : Nat)
    (next : Except Error SharedSlice → Program) :
    ∃ members reported, t.reserveAlone lane top k length next = { t with members, reported } := by
  rw [reserveAlone]
  split
  · rename_i offset top' _
    obtain ⟨reported, hreport⟩ := t.report_eq (.sharedReserved offset length k.name)
    dsimp only
    rw [hreport]
    exact ⟨_, _, rfl⟩
  · exact ⟨_, _, rfl⟩

theorem reserveAlone_spec {t : Team β ω} {lane : Nat} {st : Stage} (top : Nat) (k : ElementKind)
    (length : Nat) (next : Except Error SharedSlice → Program)
    (hlane : t.stage? lane = some st) :
    (t.reserveAlone lane top k length next).stage? = Function.update t.stage? lane
        (some (.running (next (Arena.answer t.plan.arena.capacity top k length).slice))) ∧
      (t.reserveAlone lane top k length next).plan = t.plan ∧
      (t.reserveAlone lane top k length next).barrier = t.barrier ∧
      t.SameAccount (t.reserveAlone lane top k length next) := by
  rw [reserveAlone, Arena.answer]
  rcases Arena.bump t.plan.arena.capacity k top length with e | ⟨offset, top'⟩
  · exact ⟨stage?_moveTo rfl hlane _, rfl, rfl, ⟨rfl, rfl⟩⟩
  · obtain ⟨reported, hreport⟩ := t.report_eq (.sharedReserved offset length k.name)
    dsimp only
    rw [hreport]
    refine ⟨stage?_moveTo ?_ hlane _, rfl, rfl, ⟨rfl, rfl⟩⟩
    exact stage?_modify { t with reported } lane fun _ => rfl

variable [Gate β] [Gate ω]

/-- The steps of a lane, by where it stands. -/
inductive Step (t : Team β ω) (lane : Nat) (m : Member) : Stage → Team β ω → Prop
  | finish {o : Outcome Unit} : Step t lane m (.running (.finish o)) (t.conclude lane o)
  | note {entry : Observation} {next : Program} :
      Step t lane m (.running (.note entry next)) ((t.note lane entry).moveTo lane (.running next))
  | arrive {st : Stage} {scope : Scope} {c : Option Contribution} {r : Resumption} {a : Arrival}
      {t₁ : Team β ω} (hcalls : st.calls t.plan.reserver = some (scope, c, r))
      (h : t.arriveAt lane scope c = (.ok a, t₁)) :
      Step t lane m st (t₁.moveTo lane (a.stageAt scope r))
  | refused {st : Stage} {scope : Scope} {c : Option Contribution} {r : Resumption} {f : Fault}
      {t₁ : Team β ω} (hcalls : st.calls t.plan.reserver = some (scope, c, r))
      (h : t.arriveAt lane scope c = (.error f, t₁)) :
      Step t lane m st (t₁.conclude lane (.error (.fault f)))
  | reserve {k : ElementKind} {n : Nat} {next : Except Error SharedSlice → Program}
      (hreserver : t.plan.reserver = .lane) :
      Step t lane m (.running (.allocate k n next)) (t.reserveAlone lane m.top k n next)
  | reserved {next : Nat → Program} :
      Step t lane m (.running (.reserved next)) (t.moveTo lane (.running (next (t.reserved m))))
  | access {place : Place} {k : ElementKind} {a : Access k} {next : Element k → Program}
      {x : Element k} {memory : Memory} (h : t.memory.access place a = .ok (x, memory)) :
      Step t lane m (.running (.access place k a next))
        (moveTo { t with memory } lane (.running (next x)))
  | fault {place : Place} {k : ElementKind} {a : Access k} {next : Element k → Program} {f : Fault}
      (h : t.memory.access place a = .error f) :
      Step t lane m (.running (.access place k a next)) (t.conclude lane (.error (.fault f)))
  | resume {scope : Scope} {g : Word} {r : Resumption} {w : Option Word}
      (h : t.lookAt lane scope g = .released w) :
      Step t lane m (.waiting scope g r) (t.moveTo lane (r.stage w))
  | publish {k : ElementKind} {n : Nat} {next : Except Error SharedSlice → Program} :
      Step t lane m (.publishing k n next)
        ((if lane = 0 then t.publish k n else t).moveTo lane (.closing k n next))
  | collect {k : ElementKind} {n : Nat} {next : Except Error SharedSlice → Program} :
      Step t lane m (.collecting k n next)
        (t.moveTo lane (.running (next (t.collected k n))))
  | leave {o : Except Error Unit} {scope : Scope} {t₁ : Team β ω}
      (h : t.leave lane scope o.isOk.not = (.ok (), t₁)) :
      Step t lane m (.leaving o scope) (t₁.moveTo lane (.afterLeaving o scope))
  | broken {o : Except Error Unit} {scope : Scope} {f : Fault} {t₁ : Team β ω}
      (h : t.leave lane scope o.isOk.not = (.error f, t₁)) :
      Step t lane m (.leaving o scope)
        (t₁.moveTo lane (.ended (.error (.kernelPanicked t₁.plan.block lane f.message))))

theorem step_meet {t : Team β ω} {lane : Nat} {m : Member} {st : Stage} {scope : Scope}
    {c : Option Contribution} {r : Resumption}
    (hcalls : st.calls t.plan.reserver = some (scope, c, r)) :
    t.Step lane m st (t.meet lane scope c r) := by
  rw [meet]
  rcases harrive : t.arriveAt lane scope c with ⟨f | (w | g), t₁⟩
  · exact .refused hcalls harrive
  · exact .arrive (a := .released w) hcalls harrive
  · exact .arrive (a := .waiting g) hcalls harrive

theorem step_perform (t : Team β ω) (lane : Nat) (m : Member) (p : Program) :
    t.Step lane m (.running p) (t.perform lane m p) := by
  cases p with
  | finish o => exact .finish
  | note entry next => exact .note
  | arrive scope c next => exact step_meet rfl
  | allocate k n next =>
      rcases hreserver : t.plan.reserver with _ | _
      · rw [perform, hreserver]
        exact .reserve hreserver
      · rw [perform, hreserver]
        refine step_meet ?_
        rw [hreserver]
        rfl
  | reserved next => exact .reserved
  | access place k a next =>
      rw [perform]
      rcases haccess : t.memory.access place a with f | ⟨x, memory⟩
      · exact .fault haccess
      · exact .access haccess

theorem exists_step {t t' : Team β ω} {lane : Nat} (h : t.step lane = some t') :
    ∃ m, t.members[lane]? = some m ∧ t.Step lane m m.stage t' := by
  obtain ⟨m, hm, h⟩ := Option.bind_eq_some_iff.mp h
  refine ⟨m, hm, ?_⟩
  revert h
  cases m.stage with
  | running p =>
      intro h
      obtain rfl := Option.some.inj h
      exact step_perform t lane m p
  | waiting scope g r =>
      intro h
      simp only at h
      split at h
      · rename_i w hlook
        obtain rfl := Option.some.inj h
        exact .resume hlook
      · cases h
  | publishing k n next =>
      intro h
      obtain rfl := Option.some.inj h
      exact .publish
  | closing k n next =>
      intro h
      obtain rfl := Option.some.inj h
      exact step_meet rfl
  | collecting k n next =>
      intro h
      obtain rfl := Option.some.inj h
      exact .collect
  | leaving o scope =>
      intro h
      simp only at h
      split at h
      · rename_i t₁ hleave
        obtain rfl := Option.some.inj h
        exact .leave hleave
      · rename_i f t₁ hleave
        obtain rfl := Option.some.inj h
        exact .broken hleave
  | ended o =>
      intro h
      cases h

section

variable {t t₁ : Team β ω} {lane : Nat} {scope : Scope}

theorem arriveAt_block {c : Option Contribution} {a : Except Fault Arrival}
    (h : t.arriveAt lane .block c = (a, t₁)) :
    ∃ barrier, Gate.arrive t.barrier c = (a, barrier) ∧ t₁ = { t with barrier } := by
  obtain ⟨rfl, rfl⟩ := Prod.mk.inj h
  exact ⟨_, rfl, rfl⟩

theorem arriveAt_warp {c : Option Contribution} {a : Except Fault Arrival}
    (h : t.arriveAt lane .warp c = (a, t₁)) : ∃ warps, t₁ = { t with warps } := by
  rw [← (Prod.mk.inj h).2]
  dsimp only
  split
  · exact ⟨t.warps, rfl⟩
  · exact ⟨_, rfl⟩

theorem leave_block {failed : Bool} {r : Except Fault Unit}
    (h : t.leave lane .block failed = (r, t₁)) :
    ∃ barrier, Gate.leave t.barrier failed = (r, barrier) ∧ t₁ = { t with barrier } := by
  obtain ⟨rfl, rfl⟩ := Prod.mk.inj h
  exact ⟨_, rfl, rfl⟩

theorem leave_warp {failed : Bool} {r : Except Fault Unit}
    (h : t.leave lane .warp failed = (r, t₁)) : ∃ warps, t₁ = { t with warps } := by
  rw [← (Prod.mk.inj h).2]
  dsimp only
  split
  · exact ⟨t.warps, rfl⟩
  · exact ⟨_, rfl⟩

theorem members_arriveAt {c : Option Contribution} {a : Except Fault Arrival}
    (h : t.arriveAt lane scope c = (a, t₁)) : t₁.members = t.members ∧ t₁.plan = t.plan := by
  cases scope with
  | block =>
      obtain ⟨barrier, -, rfl⟩ := arriveAt_block h
      exact ⟨rfl, rfl⟩
  | warp =>
      obtain ⟨warps, rfl⟩ := arriveAt_warp h
      exact ⟨rfl, rfl⟩

theorem members_leave {failed : Bool} {r : Except Fault Unit}
    (h : t.leave lane scope failed = (r, t₁)) : t₁.members = t.members ∧ t₁.plan = t.plan := by
  cases scope with
  | block =>
      obtain ⟨barrier, -, rfl⟩ := leave_block h
      exact ⟨rfl, rfl⟩
  | warp =>
      obtain ⟨warps, rfl⟩ := leave_warp h
      exact ⟨rfl, rfl⟩

omit [Gate β] [Gate ω] in
theorem stage?_of_members (h : t₁.members = t.members) : t₁.stage? = t.stage? := by
  funext lane
  rw [stage?, stage?, h]

theorem stage?_arriveAt {c : Option Contribution} {a : Except Fault Arrival}
    (h : t.arriveAt lane scope c = (a, t₁)) : t₁.stage? = t.stage? :=
  stage?_of_members (members_arriveAt h).1

theorem stage?_leave {failed : Bool} {r : Except Fault Unit}
    (h : t.leave lane scope failed = (r, t₁)) : t₁.stage? = t.stage? :=
  stage?_of_members (members_leave h).1

end

end Team

end LaneGrid
