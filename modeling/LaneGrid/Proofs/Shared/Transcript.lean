import LaneGrid.Proofs.Shared.Chronicle
import LaneGrid.Proofs.Team.Budget
import LaneGrid.Proofs.Team.Move

namespace LaneGrid

/-- What an operation of a lane returns. -/
inductive Reply where
  /-- What the lanes of a group have brought together. -/
  | met (result : Word)
  | given (answer : Except Error SharedSlice)
  /-- The number of bytes that are reserved. -/
  | told (bytes : Nat)
  | found {k : ElementKind} (element : Element k)

namespace Reply

def slice? : Reply → Option (Except Error SharedSlice)
  | given answer => some answer
  | _ => none

end Reply

/-- How a lane goes on with a reply. -/
def Stage.continued? : Stage → Reply → Option Program
  | running (.arrive _ _ next), .met w => some (next w)
  | running (.allocate _ _ next), .given answer => some (next answer)
  | running (.reserved next), .told bytes => some (next bytes)
  | running (.access _ k _ next), @Reply.found k' x =>
    if h : k' = k then some (next (h ▸ x)) else none
  | waiting _ _ (.deliver next), .met w => some (next w)
  | collecting _ _ next, .given answer => some (next answer)
  | _, _ => none

namespace Team

variable {β ω : Type} [Gate β] [Gate ω]

/-- What is returned to a lane in its next step. -/
def reply? (t : Team β ω) (lane : Nat) (m : Member) : Option Reply :=
  match m.stage with
  | .running (.arrive scope c _) =>
    match (t.arriveAt lane scope c).1 with
    | .ok (.released w) => some (.met (w.getD 0))
    | _ => none
  | .running (.allocate k n _) =>
    match t.plan.reserver with
    | .lane => some (.given (Arena.answer t.plan.arena.capacity m.top k n).slice)
    | .master => none
  | .running (.reserved _) => some (.told (t.reserved m))
  | .running (.access place _ a _) =>
    match t.memory.access place a with
    | .ok (x, _) => some (.found x)
    | .error _ => none
  | .waiting scope g (.deliver _) =>
    match t.lookAt lane scope g with
    | .released w => some (.met (w.getD 0))
    | .waiting _ => none
  | .collecting k n _ => some (.given (t.collected k n))
  | _ => none

theorem exists_arrive {t : Team β ω} {lane : Nat} {m : Member} {st : Stage} {scope : Scope}
    {c : Option Contribution} {resumption : Resumption} {r : Reply}
    (hcalls : st.calls t.plan.reserver = some (scope, c, resumption))
    (hr : t.reply? lane { m with stage := st } = some r) :
    ∃ next, st = .running (.arrive scope c next) ∧ resumption = .deliver next := by
  cases Stage.calls_spec hcalls with
  | @arrive _ _ next => exact ⟨next, rfl, rfl⟩
  | allocate hreserver => simp [reply?, hreserver] at hr
  | closing => cases hr

theorem continued?_of_reply? {t t' : Team β ω} {lane : Nat} {m : Member} {r : Reply}
    (hm : t.members[lane]? = some m) (hr : t.reply? lane m = some r)
    (h : t.step lane = some t') :
    ∃ p, m.stage.continued? r = some p ∧ t'.stage? lane = some (.running p) := by
  obtain ⟨m', hm', hstep⟩ := exists_step h
  obtain rfl := Option.some.inj (hm.symm.trans hm')
  have hlane := stage?_eq_some hm
  have hself {t₁ : Team β ω} (hstage : t₁.stage? = t.stage?) (st : Stage) :
      (t₁.moveTo lane st).stage? lane = some st := by
    rw [stage?_moveTo hstage hlane, Function.update_self]
  rw [reply?] at hr
  generalize m.stage = st at hstep hr
  cases hstep with
  | finish => cases hr
  | note => cases hr
  | @arrive _ scope c resumption a t₁ hcalls harrive =>
      obtain ⟨next, rfl, rfl⟩ := exists_arrive hcalls hr
      simp only [harrive] at hr
      cases a with
      | released w =>
          obtain rfl := Option.some.inj hr
          exact ⟨_, rfl, hself (stage?_arriveAt harrive) _⟩
      | waiting g => cases hr
  | refused hcalls harrive =>
      obtain ⟨next, rfl, rfl⟩ := exists_arrive hcalls hr
      simp only [harrive] at hr
      cases hr
  | @reserve k n next hreserver =>
      simp only [hreserver] at hr
      obtain rfl := Option.some.inj hr
      refine ⟨_, rfl, ?_⟩
      rw [(reserveAlone_spec m.top k n next hlane).1, Function.update_self]
  | reserved =>
      obtain rfl := Option.some.inj hr
      exact ⟨_, rfl, hself rfl _⟩
  | access haccess =>
      simp only [haccess] at hr
      obtain rfl := Option.some.inj hr
      exact ⟨_, dif_pos rfl, hself rfl _⟩
  | fault haccess =>
      simp only [haccess] at hr
      cases hr
  | @resume scope g resumption w hlook =>
      cases resumption with
      | deliver next =>
          simp only [hlook] at hr
          obtain rfl := Option.some.inj hr
          exact ⟨_, rfl, hself rfl _⟩
      | publish => cases hr
      | collect => cases hr
  | publish => cases hr
  | collect =>
      obtain rfl := Option.some.inj hr
      exact ⟨_, rfl, hself rfl _⟩
  | leave => cases hr
  | broken => cases hr

end Team

structure Transcript (β ω : Type) where
  team : Team β ω
  /-- What every lane has begun to do with the others, in order. -/
  begun : Nat → List Collective
  /-- What has been returned to every lane, in order. -/
  replies : Nat → List Reply

namespace Transcript

variable {β ω : Type}

def make (team : Team β ω) : Transcript β ω :=
  ⟨team, fun _ => [], fun _ => []⟩

/-- The requests of a lane, in order. -/
def requests (d : Transcript β ω) (lane : Nat) : List (ElementKind × Nat) :=
  Collective.requests (d.begun lane)

/-- What the requests of a lane have given it, in order. -/
def slices (d : Transcript β ω) (lane : Nat) : List (Except Error SharedSlice) :=
  (d.replies lane).filterMap Reply.slice?

variable [Gate β] [Gate ω]

/-- The record after a step of a lane. -/
def after (d : Transcript β ω) (lane : Nat) (m : Member) (team : Team β ω) : Transcript β ω where
  team
  begun := Function.update d.begun lane (d.begun lane ++ m.stage.begins.toList)
  replies := Function.update d.replies lane (d.replies lane ++ (d.team.reply? lane m).toList)

/-- One step of a lane. -/
def step (d : Transcript β ω) (lane : Nat) : Option (Transcript β ω) := do
  let m ← d.team.members[lane]?
  let team ← d.team.step lane
  return d.after lane m team

/-- In `n` steps, whatever their order, the one comes to the other. -/
inductive Run : Nat → Transcript β ω → Transcript β ω → Prop
  | refl {d : Transcript β ω} : Run 0 d d
  | step {n lane : Nat} {d d' d'' : Transcript β ω} (h : d.step lane = some d')
      (hrun : Run n d' d'') : Run (n + 1) d d''

variable {d d' : Transcript β ω} {lane n : Nat} {m : Member} {t t' : Team β ω}

theorem step_eq_some : d.step lane = some d' ↔ ∃ m t', d.team.members[lane]? = some m ∧
    d.team.step lane = some t' ∧ d' = d.after lane m t' := by
  constructor
  · intro h
    obtain ⟨m, hm, h⟩ := Option.bind_eq_some_iff.mp h
    obtain ⟨t', ht', h⟩ := Option.bind_eq_some_iff.mp h
    exact ⟨m, t', hm, ht', (Option.some.inj h).symm⟩
  · rintro ⟨m, t', hm, ht', rfl⟩
    rw [step, hm, ht']
    rfl

theorem exists_step (h : d.team.step lane = some t') :
    ∃ d', d.step lane = some d' ∧ d'.team = t' := by
  obtain ⟨m, hm, -⟩ := Team.exists_step h
  exact ⟨_, step_eq_some.mpr ⟨m, t', hm, h, rfl⟩, rfl⟩

theorem Run.team (h : Run n d d') : Team.Run n d.team d'.team := by
  induction h with
  | refl => exact .refl
  | step hstep _ ih =>
      obtain ⟨m, t', -, ht', rfl⟩ := step_eq_some.mp hstep
      exact .step ht' ih

theorem Run.induction {P : Transcript β ω → Prop} (h : Run n d d')
    (hstep : ∀ d lane d', P d → d.step lane = some d' → P d') (hd : P d) : P d' := by
  induction h with
  | refl => exact hd
  | step hnext _ ih => exact ih (hstep _ _ _ hd hnext)

theorem run_of_foldlM {lanes : List Nat} (h : lanes.foldlM step d = some d') :
    Run lanes.length d d' := by
  induction lanes generalizing d with
  | nil =>
      obtain rfl := Option.some.inj h
      exact .refl
  | cons lane lanes ih =>
      obtain ⟨next, hnext, hrest⟩ := Option.bind_eq_some_iff.mp h
      exact .step hnext (ih hrest)

theorem begun_after (d : Transcript β ω) (lane : Nat) (m : Member) (t' : Team β ω) :
    (d.after lane m t').begun =
      Function.update d.begun lane (d.begun lane ++ m.stage.begins.toList) :=
  rfl

theorem replies_after (d : Transcript β ω) (lane : Nat) (m : Member) (t' : Team β ω) :
    (d.after lane m t').replies =
      Function.update d.replies lane (d.replies lane ++ (d.team.reply? lane m).toList) :=
  rfl

theorem begun_isPrefix_after (d : Transcript β ω) (lane : Nat) (m : Member) (t' : Team β ω)
    (peer : Nat) : d.begun peer <+: (d.after lane m t').begun peer := by
  rw [begun_after]
  by_cases hpeer : peer = lane
  · subst hpeer
    simp
  · simp [hpeer]

theorem requests_after_self (d : Transcript β ω) (lane : Nat) (m : Member) (t' : Team β ω) :
    (d.after lane m t').requests lane =
      d.requests lane ++ Collective.requests m.stage.begins.toList := by
  simp [requests, begun_after, Collective.requests]

theorem slices_after_self (d : Transcript β ω) (lane : Nat) (m : Member) (t' : Team β ω) :
    (d.after lane m t').slices lane =
      d.slices lane ++ (d.team.reply? lane m).toList.filterMap Reply.slice? := by
  simp [slices, replies_after]

theorem requests_after_of_ne (d : Transcript β ω) {peer : Nat} (hpeer : peer ≠ lane) (m : Member)
    (t' : Team β ω) : (d.after lane m t').requests peer = d.requests peer := by
  simp [requests, begun_after, hpeer]

theorem slices_after_of_ne (d : Transcript β ω) {peer : Nat} (hpeer : peer ≠ lane) (m : Member)
    (t' : Team β ω) : (d.after lane m t').slices peer = d.slices peer := by
  simp [slices, replies_after, hpeer]

theorem Run.idle (h : Run n (make t) d) (hlane : t.size ≤ lane) :
    d.begun lane = [] ∧ d.replies lane = [] := by
  have hidle : d.team.size ≤ lane ∧ d.begun lane = [] ∧ d.replies lane = [] := by
    apply h.induction (P := fun d => d.team.size ≤ lane ∧ d.begun lane = [] ∧ d.replies lane = [])
    on_goal 2 => exact ⟨hlane, rfl, rfl⟩
    rintro d peer d' ⟨hsize, hbegun, hreplies⟩ hstep
    obtain ⟨m, t', hm, ht', rfl⟩ := step_eq_some.mp hstep
    have hne : lane ≠ peer := by
      rintro rfl
      exact absurd hsize (Nat.not_le_of_lt (Array.getElem?_eq_some_iff.mp hm).1)
    refine ⟨(Team.size_step ht').trans_le hsize, ?_, ?_⟩
    · simpa [begun_after, hne] using hbegun
    · simpa [replies_after, hne] using hreplies
  exact hidle.2

theorem Run.plan_eq (h : Run n d d') : d'.team.plan = d.team.plan := by
  apply h.induction (P := fun d₁ => d₁.team.plan = d.team.plan)
  on_goal 2 => rfl
  intro d₁ lane d₂ hplan hstep
  obtain ⟨m, t', -, ht', rfl⟩ := step_eq_some.mp hstep
  obtain ⟨-, -, -, -, hsame, -⟩ := Team.step_move ht'
  exact hsame.trans hplan

end Transcript

end LaneGrid
