import LaneGrid.Backend.Block
import LaneGrid.Proofs.Meeting.Account
import LaneGrid.Proofs.Shared.Standing
import LaneGrid.Proofs.Team.Move

namespace LaneGrid

open MeetingGate

namespace Stage

/-- The generation for which a lane waits at the gate of a group. -/
def awaitedAt (scope : Scope) : Stage → Option Word
  | waiting scope' g _ => if scope' = scope then some g else none
  | _ => none

/-- A lane that will not come to the gate of a group any more. -/
def HasLeftAt : Scope → Stage → Prop
  | .block, st => st.HasLeft
  | .warp, st => ∃ o, st = ended o

/-- A lane that can still come to both of its gates, and waits at neither. -/
def Roams : Stage → Prop
  | waiting .. => False
  | leaving _ .warp => False
  | ended _ => False
  | _ => True

theorem Roams.awaitedAt_eq {st : Stage} (h : st.Roams) (scope : Scope) :
    st.awaitedAt scope = none := by
  cases st with
  | waiting => exact h.elim
  | _ => rfl

theorem Roams.not_hasLeftAt {st : Stage} (h : st.Roams) (scope : Scope) : ¬st.HasLeftAt scope := by
  cases st with
  | leaving o scope' =>
      cases scope' with
      | block => cases scope <;> exact nofun
      | warp => exact h.elim
  | ended => exact h.elim
  | _ => cases scope <;> exact nofun

theorem roams_of_calls {st : Stage} {reserver : Reserver}
    {call : Scope × Option Contribution × Resumption} (h : st.calls reserver = some call) :
    st.Roams := by
  cases st with
  | running => exact trivial
  | closing => exact trivial
  | _ => cases h

theorem roams_stage (r : Resumption) (w : Option Word) : (r.stage w).Roams := by
  cases r <;> exact trivial

theorem not_hasLeftAt_stageAt (a : Arrival) (scope : Scope) (r : Resumption) (scope' : Scope) :
    ¬(a.stageAt scope r).HasLeftAt scope' := by
  cases a with
  | released w => exact (roams_stage r w).not_hasLeftAt scope'
  | waiting g => cases scope' <;> exact nofun

theorem not_hasLeftAt_leaving (o : Except Error Unit) (scope : Scope) :
    ¬(leaving o scope).HasLeftAt scope := by
  cases scope <;> exact nofun

theorem hasLeftAt_afterLeaving (o : Except Error Unit) (scope : Scope) :
    (afterLeaving o scope).HasLeftAt scope := by
  cases scope with
  | block => exact trivial
  | warp => exact ⟨o, rfl⟩

theorem hasLeftAt_afterLeaving_of_ne (o : Except Error Unit) {scope scope' : Scope}
    (h : scope' ≠ scope) :
    (afterLeaving o scope).HasLeftAt scope' ↔ (leaving o scope).HasLeftAt scope' := by
  cases scope <;> cases scope'
  · exact absurd rfl h
  · exact iff_of_false nofun nofun
  · exact iff_of_true trivial trivial
  · exact absurd rfl h

theorem awaitedAt_stageAt_self (a : Arrival) (scope : Scope) (r : Resumption) :
    (a.stageAt scope r).awaitedAt scope = a.awaited := by
  cases a with
  | released w => exact (roams_stage r w).awaitedAt_eq scope
  | waiting g => exact if_pos rfl

theorem awaitedAt_stageAt_of_ne (a : Arrival) {scope scope' : Scope} (r : Resumption)
    (h : scope' ≠ scope) : (a.stageAt scope r).awaitedAt scope' = none := by
  cases a with
  | released w => exact (roams_stage r w).awaitedAt_eq scope'
  | waiting g => exact if_neg (Ne.symm h)

end Stage

namespace Grouping

/-- The gate to which a lane comes. The block has one, and so has every warp. -/
def gateOf (g : Grouping) (lane : Nat) : Scope → Option Nat
  | .block => none
  | .warp => some (lane / g.warpSize)

/-- The number of a lane among those that come to a gate. -/
def seat (g : Grouping) (lane : Nat) : Scope → Nat
  | .block => lane
  | .warp => lane % g.warpSize

/-- How many lanes come to a gate. -/
def crew (g : Grouping) : Option Nat → Nat
  | none => g.lanes
  | some w => g.warpGroup w

/-- Warps take their lanes one after the other. -/
structure Tiled (g : Grouping) : Prop where
  warpSize_pos : 0 < g.warpSize
  warpGroup_eq : ∀ w, g.warpGroup w = min g.warpSize (g.lanes - w * g.warpSize)

variable {g : Grouping} {lane peer : Nat}

theorem gateOf_ne (g : Grouping) (lane peer : Nat) {scope scope' : Scope} (h : scope ≠ scope') :
    g.gateOf lane scope ≠ g.gateOf peer scope' := by
  cases scope <;> cases scope'
  · exact absurd rfl h
  · exact nofun
  · exact nofun
  · exact absurd rfl h

theorem seat_ne {scope : Scope} (hgate : g.gateOf peer scope = g.gateOf lane scope)
    (hne : peer ≠ lane) : g.seat peer scope ≠ g.seat lane scope := by
  cases scope with
  | block => exact hne
  | warp =>
      intro hseat
      refine hne ?_
      rw [← Nat.div_add_mod peer g.warpSize, ← Nat.div_add_mod lane g.warpSize]
      rw [Option.some.inj hgate]
      exact congrArg (g.warpSize * (lane / g.warpSize) + ·) hseat

theorem Tiled.seat_lt (h : g.Tiled) (hlane : lane < g.lanes) (scope : Scope) :
    g.seat lane scope < g.crew (g.gateOf lane scope) := by
  cases scope with
  | block => exact hlane
  | warp =>
      have hmod := Nat.mod_lt lane h.warpSize_pos
      have hdiv := Nat.div_add_mod lane g.warpSize
      have hwarp : g.crew (g.gateOf lane .warp) =
          min g.warpSize (g.lanes - lane / g.warpSize * g.warpSize) := h.warpGroup_eq _
      rw [hwarp, seat, Nat.lt_min]
      rw [Nat.mul_comm] at hdiv
      omega

theorem Tiled.exists_lane (h : g.Tiled) (scope : Scope) {i : Nat}
    (hi : i < g.crew (g.gateOf lane scope)) :
    ∃ peer < g.lanes, g.gateOf peer scope = g.gateOf lane scope ∧ g.seat peer scope = i := by
  cases scope with
  | block => exact ⟨i, hi, rfl, rfl⟩
  | warp =>
      have hwarp : g.crew (g.gateOf lane .warp) =
          min g.warpSize (g.lanes - lane / g.warpSize * g.warpSize) := h.warpGroup_eq _
      rw [hwarp, Nat.lt_min] at hi
      refine ⟨lane / g.warpSize * g.warpSize + i, by omega, congrArg some ?_, ?_⟩
      · rw [Nat.mul_comm, Nat.mul_add_div h.warpSize_pos, Nat.div_eq_of_lt hi.1, Nat.add_zero]
      · rw [seat, Nat.mul_comm, Nat.mul_add_mod, Nat.mod_eq_of_lt hi.1]

end Grouping

namespace Team

variable {β : Type}

/-- The gate of the block, and those of the warps. -/
def gate? (t : Team β β) : Option Nat → Option β
  | none => some t.barrier
  | some w => t.warps[w]?

def setGate (t : Team β β) (gate : Option Nat) (b : β) : Team β β :=
  match gate with
  | none => { t with barrier := b }
  | some w => { t with warps := t.warps.setIfInBounds w b }

theorem gate?_setGate {t : Team β β} {gate : Option Nat} {b : β} (h : t.gate? gate = some b)
    (b' : β) : (t.setGate gate b').gate? = Function.update t.gate? gate (some b') := by
  funext other
  by_cases heq : other = gate
  · subst heq
    rw [Function.update_self]
    cases other with
    | none => rfl
    | some w =>
        exact Array.getElem?_setIfInBounds_self_of_lt (Array.getElem?_eq_some_iff.mp h).1
  · rw [Function.update_of_ne heq]
    cases gate <;> cases other
    · exact absurd rfl heq
    · rfl
    · rfl
    · exact Array.getElem?_setIfInBounds_ne fun h => heq (congrArg some h.symm)

theorem stage?_setGate (t : Team β β) (gate : Option Nat) (b : β) :
    (t.setGate gate b).stage? = t.stage? := by
  cases gate <;> rfl

theorem plan_setGate (t : Team β β) (gate : Option Nat) (b : β) :
    (t.setGate gate b).plan = t.plan := by
  cases gate <;> rfl

section

variable [Gate β] {g : Grouping} {t : Team β β} {lane : Nat} {scope : Scope} {b : β}
  (hsize : t.plan.warpSize = g.warpSize) (hgate : t.gate? (g.gateOf lane scope) = some b)

include hsize hgate

theorem arriveAt_eq (c : Option Contribution) : t.arriveAt lane scope c =
    ((Gate.arrive b c).1, t.setGate (g.gateOf lane scope) (Gate.arrive b c).2) := by
  cases scope with
  | block =>
      obtain rfl := Option.some.inj hgate
      rfl
  | warp =>
      have hwarp : t.warps[lane / t.plan.warpSize]? = some b := by rw [hsize]; exact hgate
      rw [arriveAt, hwarp, hsize]
      rfl

theorem lookAt_eq (generation : Word) :
    t.lookAt lane scope generation = Gate.look b generation := by
  cases scope with
  | block =>
      obtain rfl := Option.some.inj hgate
      rfl
  | warp =>
      have hwarp : t.warps[lane / t.plan.warpSize]? = some b := by rw [hsize]; exact hgate
      rw [lookAt, hwarp]

theorem leave_eq (failed : Bool) : t.leave lane scope failed =
    ((Gate.leave b failed).1, t.setGate (g.gateOf lane scope) (Gate.leave b failed).2) := by
  cases scope with
  | block =>
      obtain rfl := Option.some.inj hgate
      rfl
  | warp =>
      have hwarp : t.warps[lane / t.plan.warpSize]? = some b := by rw [hsize]; exact hgate
      rw [leave, hwarp, hsize]
      rfl

end

/-- What a lane has to do with the gates in one step. -/
inductive Errand [Gate β] (g : Grouping) (reserver : Reserver) (gates : Option Nat → Option β)
    (lane : Nat) : Stage → Stage → (Option Nat → Option β) → Prop
  | spares {st st' : Stage} (hcalls : st.calls reserver = none) (hst : st.Roams)
      (hst' : st'.Roams) : Errand g reserver gates lane st st' gates
  | arrives {st : Stage} {scope : Scope} {c : Option Contribution} {a : Arrival} {r : Resumption}
      {b b' : β} (hcalls : st.calls reserver = some (scope, c, r))
      (hgate : gates (g.gateOf lane scope) = some b) (h : Gate.arrive b c = (.ok a, b')) :
      Errand g reserver gates lane st (a.stageAt scope r)
        (Function.update gates (g.gateOf lane scope) (some b'))
  | refused {st st' : Stage} {scope : Scope} {c : Option Contribution} {r : Resumption} {f : Fault}
      {b b' : β} {gates' : Option Nat → Option β}
      (hcalls : st.calls reserver = some (scope, c, r))
      (hgate : gates (g.gateOf lane scope) = some b) (h : Gate.arrive b c = (.error f, b')) :
      Errand g reserver gates lane st st' gates'
  | looks {scope : Scope} {generation : Word} {r : Resumption} {w : Option Word} {b : β}
      (hgate : gates (g.gateOf lane scope) = some b)
      (h : Gate.look b generation = .released w) :
      Errand g reserver gates lane (.waiting scope generation r) (r.stage w) gates
  | leaves {o : Except Error Unit} {scope : Scope} {b b' : β}
      (hgate : gates (g.gateOf lane scope) = some b)
      (h : Gate.leave b o.isOk.not = (.ok (), b')) :
      Errand g reserver gates lane (.leaving o scope) (.afterLeaving o scope)
        (Function.update gates (g.gateOf lane scope) (some b'))
  | broken {o : Except Error Unit} {st' : Stage} {scope : Scope} {f : Fault} {b b' : β}
      {gates' : Option Nat → Option β} (hgate : gates (g.gateOf lane scope) = some b)
      (h : Gate.leave b o.isOk.not = (.error f, b')) :
      Errand g reserver gates lane (.leaving o scope) st' gates'

theorem gate?_moveTo (t : Team β β) (lane : Nat) (st : Stage) :
    (t.moveTo lane st).gate? = t.gate? := by
  funext gate
  cases gate <;> rfl

theorem gate?_publish (t : Team β β) (k : ElementKind) (n : Nat) :
    (t.publish k n).gate? = t.gate? := by
  obtain ⟨reported, hpublish⟩ := t.publish_eq k n
  rw [hpublish]
  funext gate
  cases gate <;> rfl

theorem gate?_reserveAlone (t : Team β β) (lane top : Nat) (k : ElementKind) (n : Nat)
    (next : Except Error SharedSlice → Program) :
    (t.reserveAlone lane top k n next).gate? = t.gate? := by
  obtain ⟨members, reported, hframe⟩ := t.reserveAlone_frame lane top k n next
  rw [hframe]
  funext gate
  cases gate <;> rfl

theorem gate?_memory (t : Team β β) (memory : Memory) :
    ({ t with memory } : Team β β).gate? = t.gate? := by
  funext gate
  cases gate <;> rfl

/-- The step is an errand that takes the lane to `st'`. -/
def RunsErrand [Gate β] (g : Grouping) (t : Team β β) (lane : Nat) (st : Stage) (t' : Team β β) :
    Prop :=
  ∃ st', t'.stage? = Function.update t.stage? lane (some st') ∧ t'.plan = t.plan ∧
    Errand g t.plan.reserver t.gate? lane st st' t'.gate?

section

variable [Gate β] {g : Grouping} {t t₁ : Team β β} {lane : Nat} {st st' : Stage}

theorem runsErrand_spares (hlane : t.stage? lane = some st) (hstage : t₁.stage? = t.stage?)
    (hplan : t₁.plan = t.plan) (hgates : t₁.gate? = t.gate?)
    (hcalls : st.calls t.plan.reserver = none) (hst : st.Roams) (hst' : st'.Roams) :
    RunsErrand g t lane st (t₁.moveTo lane st') := by
  refine ⟨st', stage?_moveTo hstage hlane _, hplan, ?_⟩
  rw [gate?_moveTo, hgates]
  exact .spares hcalls hst hst'

theorem step_errand {m : Member} {t' : Team β β} (hlane : t.stage? lane = some st)
    (hsize : t.plan.warpSize = g.warpSize)
    (hgates : ∀ scope, (t.gate? (g.gateOf lane scope)).isSome = true)
    (h : t.Step lane m st t') : RunsErrand g t lane st t' := by
  have hset (scope : Scope) (b : β) (st' : Stage) :
      ((t.setGate (g.gateOf lane scope) b).moveTo lane st').stage? =
        Function.update t.stage? lane (some st') :=
    stage?_moveTo (stage?_setGate t _ b) hlane _
  cases h with
  | finish =>
      rw [conclude_eq]
      exact runsErrand_spares hlane rfl rfl rfl rfl trivial trivial
  | note => exact runsErrand_spares hlane (stage?_note t lane _) rfl rfl rfl trivial trivial
  | @arrive _ scope c r a t₁ hcalls harrive =>
      obtain ⟨b, hb⟩ := Option.isSome_iff_exists.mp (hgates scope)
      rw [arriveAt_eq hsize hb] at harrive
      obtain ⟨hanswer, rfl⟩ := Prod.mk.inj harrive
      refine ⟨_, hset scope _ _, plan_setGate t _ _, ?_⟩
      rw [gate?_moveTo, gate?_setGate hb]
      exact .arrives hcalls hb (Prod.ext hanswer rfl)
  | @refused _ scope c r f t₁ hcalls harrive =>
      obtain ⟨b, hb⟩ := Option.isSome_iff_exists.mp (hgates scope)
      rw [arriveAt_eq hsize hb] at harrive
      obtain ⟨hanswer, rfl⟩ := Prod.mk.inj harrive
      rw [conclude_eq]
      exact ⟨_, hset scope _ _, plan_setGate t _ _,
        .refused hcalls hb (Prod.ext hanswer rfl)⟩
  | @reserve k n next hreserver =>
      obtain ⟨hstage, hplan, -⟩ := reserveAlone_spec m.top k n next hlane
      have hcalls : (Stage.running (.allocate k n next)).calls t.plan.reserver = none := by
        rw [hreserver]
        rfl
      refine ⟨_, hstage, hplan, ?_⟩
      rw [gate?_reserveAlone]
      exact .spares hcalls trivial trivial
  | reserved => exact runsErrand_spares hlane rfl rfl rfl rfl trivial trivial
  | access => exact runsErrand_spares hlane rfl rfl (gate?_memory t _) rfl trivial trivial
  | fault =>
      rw [conclude_eq]
      exact runsErrand_spares hlane rfl rfl rfl rfl trivial trivial
  | @resume scope generation r w hlook =>
      obtain ⟨b, hb⟩ := Option.isSome_iff_exists.mp (hgates scope)
      rw [lookAt_eq hsize hb] at hlook
      refine ⟨_, stage?_moveTo rfl hlane _, rfl, ?_⟩
      rw [gate?_moveTo]
      exact .looks hb hlook
  | @publish k n next =>
      obtain ⟨hplan, -, hstage, -⟩ := t.publish_spec k n
      split
      · exact runsErrand_spares hlane hstage hplan (gate?_publish t k n) rfl trivial trivial
      · exact runsErrand_spares hlane rfl rfl rfl rfl trivial trivial
  | collect => exact runsErrand_spares hlane rfl rfl rfl rfl trivial trivial
  | @leave o scope t₁ hleave =>
      obtain ⟨b, hb⟩ := Option.isSome_iff_exists.mp (hgates scope)
      rw [leave_eq hsize hb] at hleave
      obtain ⟨hanswer, rfl⟩ := Prod.mk.inj hleave
      refine ⟨_, hset scope _ _, plan_setGate t _ _, ?_⟩
      rw [gate?_moveTo, gate?_setGate hb]
      exact .leaves hb (Prod.ext hanswer rfl)
  | @broken o scope f t₁ hleave =>
      obtain ⟨b, hb⟩ := Option.isSome_iff_exists.mp (hgates scope)
      rw [leave_eq hsize hb] at hleave
      obtain ⟨hanswer, rfl⟩ := Prod.mk.inj hleave
      exact ⟨_, hset scope _ _, plan_setGate t _ _, .broken hb (Prod.ext hanswer rfl)⟩

end

end Team

end LaneGrid
