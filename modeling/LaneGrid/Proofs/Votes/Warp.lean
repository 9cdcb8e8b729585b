import LaneGrid.Proofs.Meeting.Stranding
import LaneGrid.Proofs.Votes.Record
import LaneGrid.Proofs.Votes.Vote

namespace LaneGrid

open MeetingGate Team

namespace Voting

variable {g : Grouping} {w : Nat} {plan : Nat → Itinerary}
  {d d' : Voting ThreadBarrier ThreadBarrier} {groups groups' : Option Nat → Group ThreadBarrier}
  {lane : Nat}

/-- The lanes of a warp do at their gate what they have planned. -/
structure Follows (g : Grouping) (w : Nat) (plan : Nat → Itinerary)
    (d : Voting ThreadBarrier ThreadBarrier) : Prop where
  brought : ∀ lane ∈ g.warpLanes w, d.brought lane <+: (plan (g.seat lane .warp)).stops
  ended : ∀ lane ∈ g.warpLanes w, ∀ o, d.team.stage? lane = some (.ended o) →
    o.isOk.not = (plan (g.seat lane .warp)).fails ∧
      (d.brought lane).length = (plan (g.seat lane .warp)).stops.length

theorem Follows.of_step (hstep : d.step lane = some d') (h : d'.Follows g w plan) :
    d.Follows g w plan where
  brought peer hpeer := (brought_isPrefix hstep peer).trans (h.brought peer hpeer)
  ended peer hpeer o ho := by
    obtain ⟨st, t', hst, ht', rfl⟩ := step_eq_some.mp hstep
    obtain ⟨-, st', -, hstage, -⟩ := Team.step_move ht'
    have hne : peer ≠ lane := by
      rintro rfl
      rw [Team.step_of_ended ho] at ht'
      cases ht'
    have hlast := h.ended peer hpeer o (by
      change t'.stage? peer = _
      rw [hstage, Function.update_of_ne hne]
      exact ho)
    simpa only [after, Function.update_of_ne hne] using hlast

theorem gateOf_warp (hlane : lane ∈ g.warpLanes w) : g.gateOf lane .warp = some w :=
  congrArg some (Grouping.mem_warpLanes.mp hlane).2

theorem warpVisits_eq (hlane : lane ∈ g.warpLanes w) :
    warpVisits g groups lane = (groups (some w)).visits (g.seat lane .warp) := by
  rw [warpVisits, gateOf_warp hlane]

theorem Recorded.length_brought (h : d.Recorded g groups) (hlane : lane ∈ g.warpLanes w) :
    (d.brought lane).length = ((groups (some w)).visits (g.seat lane .warp)).length := by
  rw [h.brought_eq, List.length_map, warpVisits_eq hlane]

theorem group_eq_of_ne {reserver : Reserver} {st st' : Stage}
    (h : Moves g reserver groups lane st st' groups') (hgate : g.gateOf lane .warp ≠ some w) :
    groups' (some w) = groups (some w) := by
  have hne (scope : Scope) : some w ≠ g.gateOf lane scope := by
    cases scope with
    | block => exact nofun
    | warp => exact Ne.symm hgate
  cases h with
  | spares => rfl
  | arrives => exact Function.update_of_ne (hne _) _ _
  | looks => exact Function.update_of_ne (hne _) _ _
  | leaves => exact Function.update_of_ne (hne _) _ _

theorem Recorded.warps_eq (h : d.Recorded g groups) (htiled : g.Tiled)
    (hw : w * g.warpSize < g.lanes) : d.team.warps[w]? = some (groups (some w)).gate := by
  have hfirst : w * g.warpSize ∈ g.warpLanes w :=
    Grouping.mem_warpLanes.mpr ⟨hw, Nat.mul_div_cancel w htiled.warpSize_pos⟩
  have hgate := h.present _ hw .warp
  rwa [gateOf_warp hfirst] at hgate

theorem Recorded.apart (h : d.Recorded g groups) (htiled : g.Tiled) (hw : w * g.warpSize < g.lanes)
    (hlane : lane ∉ g.warpLanes w) (hstep : d.step lane = some d') :
    d'.team.warps[w]? = d.team.warps[w]? ∧
      ∀ peer ∈ g.warpLanes w, d'.brought peer = d.brought peer ∧ d'.heard peer = d.heard peer := by
  obtain ⟨st, st', groups', hst, -, hmoves, h'⟩ := h.step htiled hstep
  have hlt := (h.lanes lane).mp (Option.isSome_of_eq_some hst)
  have hsame : groups' (some w) = groups (some w) := group_eq_of_ne hmoves fun hgate =>
    hlane (Grouping.mem_warpLanes.mpr ⟨hlt, Option.some.inj hgate⟩)
  refine ⟨?_, fun peer hpeer => ?_⟩
  · rw [h'.warps_eq htiled hw, h.warps_eq htiled hw, hsame]
  · rw [h'.brought_eq, h'.heard_eq, warpVisits_eq hpeer, hsame, h.brought_eq, h.heard_eq,
      warpVisits_eq hpeer]
    exact ⟨rfl, rfl⟩

section Advance

variable {st st' : Stage} {reserver : Reserver} (h : d.Recorded g groups) (htiled : g.Tiled)
  (h' : d'.Recorded g groups') (hf : d'.Follows g w plan) (hlane : lane ∈ g.warpLanes w)

include h htiled h' hf hlane

theorem advance_of_moves (hmoves : Moves g reserver groups lane st st' groups')
    (hst' : d'.team.stage? lane = some st') : groups' (some w) = groups (some w) ∨
      Group.Advance (g.warpGroup w) plan (groups (some w)) (groups' (some w)) := by
  have hgate := gateOf_warp hlane
  have hblock : some w ≠ g.gateOf lane .block := Option.some_ne_none w
  have hseat := htiled.seat_lt_warpGroup hlane
  have hlength := h.length_brought hlane
  have hbrought := hmoves.contributions
  rw [← h.brought_eq, ← h'.brought_eq] at hbrought
  cases hmoves with
  | spares => exact .inl rfl
  | @arrives _ scope c a r b hcalls hfree harrive =>
      cases scope with
      | block => exact .inl (Function.update_of_ne hblock _ _)
      | warp =>
          right
          have hbrings : st.brings = some c := by
            cases Stage.calls_spec hcalls
            rfl
          have hnext : (plan (g.seat lane .warp)).stops[(d.brought lane).length]? = some c := by
            obtain ⟨rest, hrest⟩ := hf.brought lane hlane
            rw [← hrest, hbrought, hbrings]
            simp
          rw [hgate] at hfree harrive ⊢
          rw [Function.update_self]
          exact .arrive hseat hfree (hlength ▸ hnext) harrive
  | @looks scope generation r word earlier v hvisits hwaiting hlook =>
      cases scope with
      | block => exact .inl (Function.update_of_ne hblock _ _)
      | warp =>
          right
          rw [hgate] at hvisits hlook ⊢
          rw [Function.update_self]
          exact .wake hvisits hwaiting hlook
  | @leaves o scope hfree hleave =>
      cases scope with
      | block => exact .inl (Function.update_of_ne hblock _ _)
      | warp =>
          right
          obtain ⟨hfails, hdone⟩ := hf.ended lane hlane o hst'
          have hbrings : (Stage.leaving o .warp).brings = none := rfl
          rw [hbrought, hbrings, Option.toList_none, List.append_nil, hlength] at hdone
          rw [hgate] at hfree hleave ⊢
          rw [Function.update_self]
          rw [hfails] at hleave ⊢
          exact .leave hseat hfree hdone hleave

end Advance

/-- A warp whose lanes follow a plan, with what is known at its gate. -/
structure Underway (g : Grouping) (w : Nat) (plan : Nat → Itinerary)
    (d : Voting ThreadBarrier ThreadBarrier) (groups : Option Nat → Group ThreadBarrier) : Prop
    extends d.Recorded g groups where
  follows : d.Follows g w plan
  onPlan : (groups (some w)).OnPlan (g.warpGroup w) plan
  open_eq : (groups (some w)).gate.poisoned = false

theorem Underway.step (h : d.Underway g w plan groups) (htiled : g.Tiled)
    (heven : Group.Even (g.warpGroup w) plan) (hf : d'.Follows g w plan)
    (hstep : d.step lane = some d') : ∃ groups', d'.Underway g w plan groups' := by
  obtain ⟨st, st', groups', hst, hstage, hmoves, h'⟩ := h.toRecorded.step htiled hstep
  have hlt := (h.lanes lane).mp (Option.isSome_of_eq_some hst)
  have hcases : groups' (some w) = groups (some w) ∨
      Group.Advance (g.warpGroup w) plan (groups (some w)) (groups' (some w)) := by
    by_cases hlane : lane ∈ g.warpLanes w
    · refine advance_of_moves h.toRecorded htiled h' hf hlane hmoves ?_
      rw [hstage, Function.update_self]
    · refine .inl (group_eq_of_ne hmoves fun hgate => hlane ?_)
      exact Grouping.mem_warpLanes.mpr ⟨hlt, Option.some.inj hgate⟩
  rcases hcases with hsame | hadvance
  · exact ⟨groups', h', hf, hsame ▸ h.onPlan, hsame ▸ h.open_eq⟩
  · exact ⟨groups', h', hf, hadvance.onPlan h.onPlan, hadvance.even h.onPlan heven h.open_eq⟩

theorem underway_of_leads {b : BlockTask} {lanes warpSize : Nat} {reserver : Reserver}
    {t : Team ThreadBarrier ThreadBarrier} (ht : b.threadTeam lanes warpSize reserver = .ok t)
    (hleads : Leads (make t) d)
    (heven : Group.Even ((BlockTask.threadGrouping lanes warpSize).warpGroup w) plan)
    (hf : d.Follows (BlockTask.threadGrouping lanes warpSize) w plan) :
    ∃ groups, d.Underway (BlockTask.threadGrouping lanes warpSize) w plan groups := by
  induction hleads with
  | refl => exact ⟨_, recorded_make ht, hf, Group.onPlan_make _ plan, rfl⟩
  | tail _ hstep ih =>
      obtain ⟨lane, hstep⟩ := hstep
      obtain ⟨groups, h⟩ := ih (hf.of_step hstep)
      exact h.step (BlockTask.tiled_threadGrouping lanes warpSize) heven hf hstep

end Voting

end LaneGrid
