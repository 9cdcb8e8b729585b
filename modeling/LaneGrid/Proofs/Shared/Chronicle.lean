import Mathlib.Logic.Relation
import LaneGrid.Proofs.Meeting.Gate
import LaneGrid.Proofs.Team.Move

/-!
A team with a record of its requests for shared memory, of the answers of the master and of the
slices that were handed out. The record never influences a step.
-/

namespace LaneGrid

/-- What a lane does together with all lanes of its block. -/
inductive Collective where
  | meet
  | request (kind : ElementKind) (length : Nat)
  deriving DecidableEq

namespace Collective

/-- How often it takes a lane to the barrier. -/
def passes : Collective → Nat
  | meet => 1
  | request _ _ => 2

def request? : Collective → Option (ElementKind × Nat)
  | meet => none
  | request k n => some (k, n)

def requests (xs : List Collective) : List (ElementKind × Nat) :=
  xs.filterMap request?

end Collective

namespace Stage

/-- What a lane begins with its next step. -/
def begins : Stage → Option Collective
  | running (.arrive .block _ _) => some .meet
  | running (.allocate k n _) => some (.request k n)
  | _ => none

end Stage

/-- A slice that a lane was given. -/
structure Handout where
  lane : Nat
  /-- The number of the lane's request, counted from zero. -/
  number : Nat
  slice : SharedSlice
  /-- How many requests the master had answered by then. -/
  answered : Nat
  /-- Whether the barrier was closed by then. -/
  closed : Bool
  deriving DecidableEq

namespace Handout

def stop (h : Handout) : Nat :=
  h.slice.offset + h.slice.length * h.slice.kind.size

/-- The slice starts where the master's latest reservation did. -/
def Given (answers : List Answer) (h : Handout) : Prop :=
  ∃ a : Answer, ∃ last, h.answered = last + 1 ∧ answers[last]? = some a ∧
    a.result = .ok h.slice.offset

/-- The master has answered the lane's request with the same number, and it was the same. -/
def Matches (answers : List Answer) (h : Handout) : Prop :=
  ∃ a : Answer, answers[h.number]? = some a ∧ a.kind = h.slice.kind ∧ a.length = h.slice.length

/-- The master had reserved just this slice for just this request. -/
def Reserved (answers : List Answer) (h : Handout) : Prop :=
  h.number < h.answered ∧ ∃ a : Answer, answers[h.number]? = some a ∧
    a.kind = h.slice.kind ∧ a.length = h.slice.length ∧ a.result = .ok h.slice.offset

end Handout

structure Chronicle (β ω : Type) where
  team : Team β ω
  /-- What every lane has begun to do with the others, in order. -/
  begun : Nat → List Collective
  /-- The answers of the master, in order. -/
  answers : List Answer
  /-- The slices that lanes were given, in order. -/
  handouts : List Handout

namespace Chronicle

variable {β ω : Type}

/-- The requests of a lane, in order. -/
def requests (c : Chronicle β ω) (lane : Nat) : List (ElementKind × Nat) :=
  (c.begun lane).filterMap Collective.request?

def make (team : Team β ω) : Chronicle β ω :=
  ⟨team, fun _ => [], [], []⟩

/-- What is answered in a step of a lane. -/
def answer? (c : Chronicle β ω) (lane : Nat) : Stage → Option Answer
  | .publishing k n _ =>
    if lane = 0 then some (Arena.answer c.team.plan.arena.capacity c.team.top k n) else none
  | _ => none

variable [Gate β] [MeetingGate β]

/-- What is handed out in a step of a lane. -/
def handout? (c : Chronicle β ω) (lane : Nat) : Stage → Option Handout
  | .collecting k n _ =>
    match c.team.collected k n with
    | .ok slice => some ⟨lane, (c.requests lane).length - 1, slice, c.answers.length,
        MeetingGate.isClosed c.team.barrier⟩
    | .error _ => none
  | _ => none

/-- The record after a step of a lane that stood at `st`. -/
def after (c : Chronicle β ω) (lane : Nat) (st : Stage) (team : Team β ω) : Chronicle β ω where
  team
  begun := Function.update c.begun lane (c.begun lane ++ st.begins.toList)
  answers := c.answers ++ (c.answer? lane st).toList
  handouts := c.handouts ++ (c.handout? lane st).toList

theorem begun_after (c : Chronicle β ω) (lane : Nat) (st : Stage) (team : Team β ω) :
    (c.after lane st team).begun =
      Function.update c.begun lane (c.begun lane ++ st.begins.toList) :=
  rfl

theorem answers_after (c : Chronicle β ω) (lane : Nat) (st : Stage) (team : Team β ω) :
    (c.after lane st team).answers = c.answers ++ (c.answer? lane st).toList :=
  rfl

theorem requests_after_self (c : Chronicle β ω) (lane : Nat) (st : Stage) (team : Team β ω) :
    (c.after lane st team).requests lane =
      c.requests lane ++ st.begins.toList.filterMap Collective.request? := by
  rw [requests, begun_after, Function.update_self, List.filterMap_append]
  rfl

theorem requests_after_of_ne (c : Chronicle β ω) {lane peer : Nat} (hpeer : peer ≠ lane)
    (st : Stage) (team : Team β ω) : (c.after lane st team).requests peer = c.requests peer := by
  rw [requests, begun_after, Function.update_of_ne hpeer]
  rfl

theorem begun_grows (c : Chronicle β ω) (lane : Nat) (st : Stage) (team : Team β ω)
    (peer : Nat) : c.begun peer <+: (c.after lane st team).begun peer := by
  rw [begun_after]
  by_cases hpeer : peer = lane
  · rw [hpeer, Function.update_self]
    exact List.prefix_append _ _
  · refine ⟨[], ?_⟩
    rw [List.append_nil, Function.update_of_ne hpeer]

variable [Gate ω]

/-- One step of a lane. -/
def step (c : Chronicle β ω) (lane : Nat) : Option (Chronicle β ω) := do
  let st ← c.team.stage? lane
  let team ← c.team.step lane
  return c.after lane st team

/-- The records of all runs of a team. -/
def Reachable (team : Team β ω) (c : Chronicle β ω) : Prop :=
  Relation.ReflTransGen (fun c c' => ∃ lane, c.step lane = some c') (make team) c

theorem step_eq_some {c c' : Chronicle β ω} {lane : Nat} :
    c.step lane = some c' ↔ ∃ st team, c.team.stage? lane = some st ∧
      c.team.step lane = some team ∧ c' = c.after lane st team := by
  constructor
  · intro h
    obtain ⟨st, hst, h⟩ := Option.bind_eq_some_iff.mp h
    obtain ⟨team, hteam, h⟩ := Option.bind_eq_some_iff.mp h
    exact ⟨st, team, hst, hteam, (Option.some.inj h).symm⟩
  · rintro ⟨st, team, hst, hteam, rfl⟩
    rw [step, hst, hteam]
    rfl

theorem step_move {c c' : Chronicle β ω} {lane : Nat} (h : c.step lane = some c') :
    ∃ st st' team, c' = c.after lane st team ∧ c.team.stage? lane = some st ∧
      team.stage? = Function.update c.team.stage? lane (some st') ∧ team.plan = c.team.plan ∧
      c.team.Move lane team st st' := by
  obtain ⟨st, team, hst, hteam, rfl⟩ := step_eq_some.mp h
  obtain ⟨st₁, st', hst₁, hstage, hplan, hmove⟩ := Team.step_move hteam
  obtain rfl := Option.some.inj (hst.symm.trans hst₁)
  exact ⟨st, st', team, rfl, hst, hstage, hplan, hmove⟩

theorem reachable_of_foldlM {team : Team β ω} {lanes : List Nat} {c c' : Chronicle β ω}
    (hc : Reachable team c) (h : lanes.foldlM step c = some c') : Reachable team c' := by
  induction lanes generalizing c with
  | nil =>
      obtain rfl := Option.some.inj h
      exact hc
  | cons lane lanes ih =>
      obtain ⟨next, hnext, hrest⟩ := Option.bind_eq_some_iff.mp h
      exact ih (hc.tail ⟨lane, hnext⟩) hrest

end Chronicle

end LaneGrid
