import LaneGrid.Proofs.Division.Partition
import LaneGrid.Proofs.Votes.Warp
import LaneGrid.Settings.Validity

namespace LaneGrid

open MeetingGate Team

theorem Stage.exists_waiting {st : Stage} {scope : Scope} {generation : Word}
    (h : st.awaitedAt scope = some generation) : ∃ r, st = .waiting scope generation r := by
  cases st with
  | waiting scope' generation' r =>
      rw [awaitedAt] at h
      split at h
      · rename_i heq
        obtain rfl := Option.some.inj h
        exact ⟨r, by rw [heq]⟩
      · cases h
  | _ => cases h

theorem Stage.Proper.exists_deliver {generation : Word} {r : Resumption}
    (h : (waiting .warp generation r).Proper) : ∃ next, r = .deliver next := by
  cases r with
  | deliver next => exact ⟨next, rfl⟩
  | _ => exact h.elim

namespace Voting

section Underway

variable {g : Grouping} {w k : Nat} {plan : Nat → Itinerary} {word : Word}
  {d : Voting ThreadBarrier ThreadBarrier} {groups : Option Nat → Group ThreadBarrier}
  {lane : Nat} {st : Stage}

theorem Underway.held (h : d.Underway g w plan groups) (hlane : lane ∈ g.warpLanes w)
    (hst : d.team.stage? lane = some st) :
    Held ((groups (some w)).visits (g.seat lane .warp)) (st.awaitedAt .warp) := by
  have hattends := (h.attends lane st hst .warp).held
  rwa [gateOf_warp hlane] at hattends

theorem Underway.exists_stage (h : d.Underway g w plan groups) (hlane : lane ∈ g.warpLanes w) :
    ∃ st, d.team.stage? lane = some st :=
  Option.isSome_iff_exists.mp ((h.lanes lane).mpr (Grouping.mem_warpLanes.mp hlane).1)

theorem Underway.heard_eq_words (h : d.Underway g w plan groups) (hlane : lane ∈ g.warpLanes w) :
    d.heard lane = ((groups (some w)).visits (g.seat lane .warp)).filterMap Visit.word? := by
  rw [h.heard_eq, warpVisits_eq hlane]

theorem Underway.result_of_heard (h : d.Underway g w plan groups) (hlane : lane ∈ g.warpLanes w)
    (hword : (d.heard lane)[k]? = some word) : (groups (some w)).results[k]? = some word := by
  obtain ⟨st, hst⟩ := h.exists_stage hlane
  rw [h.heard_eq_words hlane, (h.held hlane hst).getElem?_words] at hword
  obtain ⟨v, hv, hword⟩ := Option.bind_eq_some_iff.mp hword
  have hopen : ¬isClosed (groups (some w)).gate = true := Bool.eq_false_iff.mp h.open_eq
  cases (h.sound (some w)).fate _ _ v hv with
  | refused _ hclosed _ => exact absurd hclosed hopen
  | givenUp _ hclosed _ _ => exact absurd hclosed hopen
  | released _ hresult hanswer =>
      rw [Visit.word?, hanswer] at hword
      obtain rfl := Option.some.inj hword
      exact hresult
  | waiting _ _ _ hanswer =>
      rw [Visit.word?, hanswer] at hword
      cases hword

theorem Underway.stop_of_visit (h : d.Underway g w plan groups)
    (hlane : lane ∈ g.warpLanes w) {v : Visit}
    (hv : ((groups (some w)).visits (g.seat lane .warp))[k]? = some v) :
    (plan (g.seat lane .warp)).stops[k]? = some v.contribution := by
  have hbrought : (d.brought lane)[k]? = some v.contribution := by
    rw [h.brought_eq, warpVisits_eq hlane, List.getElem?_map, hv]
    rfl
  obtain ⟨rest, hrest⟩ := h.follows.brought lane hlane
  rw [← hrest, List.getElem?_append_left (List.getElem?_eq_some_iff.mp hbrought).1]
  exact hbrought

theorem Underway.counted_of_result (h : d.Underway g w plan groups)
    (hword : (groups (some w)).results[k]? = some word) {i : Nat} (hi : i < g.warpGroup w) :
    (groups (some w)).Counted i k := by
  obtain ⟨order, hperm, hcounted, -⟩ :=
    (h.sound (some w)).complete k (List.getElem?_eq_some_iff.mp hword).1
  exact hcounted i (hperm.mem_iff.mpr (List.mem_range.mpr hi))

theorem Underway.brought_of_result (h : d.Underway g w plan groups) (htiled : g.Tiled)
    (hword : (groups (some w)).results[k]? = some word) (hlane : lane ∈ g.warpLanes w) :
    k < (d.brought lane).length := by
  obtain ⟨v, hv, -⟩ := h.counted_of_result hword (htiled.seat_lt_warpGroup hlane)
  rw [h.length_brought hlane]
  exact (List.getElem?_eq_some_iff.mp hv).1

theorem Underway.heard_of_ended (h : d.Underway g w plan groups)
    (hlane : lane ∈ g.warpLanes w) {o : Except Error Unit}
    (ho : d.team.stage? lane = some (.ended o)) :
    (d.heard lane).length = (plan (g.seat lane .warp)).stops.length := by
  have hheld := (h.held hlane ho).length_words
  rw [← (h.follows.ended lane hlane o ho).2, h.length_brought hlane, h.heard_eq_words hlane,
    ← hheld]
  rfl

theorem Underway.counted_of_brought (h : d.Underway g w plan groups)
    (hlane : lane ∈ g.warpLanes w) (hk : k < (d.brought lane).length) :
    (groups (some w)).Counted (g.seat lane .warp) k := by
  rw [h.length_brought hlane] at hk
  have hv := List.getElem?_eq_getElem hk
  have hopen : ¬isClosed (groups (some w)).gate = true := Bool.eq_false_iff.mp h.open_eq
  refine ⟨_, hv, ?_⟩
  cases (h.sound (some w)).fate _ _ _ hv with
  | refused _ hclosed _ => exact absurd hclosed hopen
  | givenUp _ hclosed _ _ => exact absurd hclosed hopen
  | released hgeneration _ _ => exact hgeneration
  | waiting hgeneration _ _ _ => exact hgeneration

theorem Underway.exists_result (h : d.Underway g w plan groups) (htiled : g.Tiled)
    (hlane : lane ∈ g.warpLanes w) (hall : ∀ peer ∈ g.warpLanes w, k < (d.brought peer).length) :
    ∃ word, (groups (some w)).results[k]? = some word := by
  have hcounted : ∀ i < g.warpGroup w, (groups (some w)).Counted i k := by
    intro i hi
    obtain ⟨peer, hpeer, rfl⟩ := htiled.exists_seat hi
    exact h.counted_of_brought hpeer (hall peer hpeer)
  have hn := Nat.one_le_of_lt (htiled.seat_lt_warpGroup hlane)
  exact ⟨_, List.getElem?_eq_getElem ((h.sound (some w)).lt_of_all hn hcounted)⟩

theorem Underway.lookAt_of_waiting (h : d.Underway g w plan groups) (hlane : lane ∈ g.warpLanes w)
    {generation : Word} {r : Resumption}
    (hst : d.team.stage? lane = some (.waiting .warp generation r))
    (hword : (groups (some w)).results[(d.heard lane).length]? = some word) :
    d.team.lookAt lane .warp generation = .released (some word) := by
  have hgate := h.present lane (Grouping.mem_warpLanes.mp hlane).1 .warp
  have hheld := h.held hlane hst
  have hlength := hheld.length_words
  rw [Stage.awaitedAt, if_pos rfl] at hheld hlength
  rw [← h.heard_eq_words hlane, ← h.length_brought hlane] at hlength
  have hless : (d.heard lane).length < (d.brought lane).length := Nat.lt_of_succ_le hlength.le
  obtain ⟨v, hv, hgeneration⟩ := h.counted_of_brought hlane hless
  obtain ⟨earlier, last, hvisits, hwaiting, -⟩ := hheld
  have hlast : earlier.length = (d.heard lane).length := by
    rw [h.length_brought hlane, hvisits, List.length_append] at hlength
    exact (Nat.succ.inj hlength).symm
  obtain rfl : last = v := by
    rw [hvisits, ← hlast, List.getElem?_concat_length] at hv
    exact Option.some.inj hv
  rw [lookAt_eq h.warpSize_eq hgate, gateOf_warp hlane]
  rcases (h.sound (some w)).receives (List.mem_of_getElem? hv) hgeneration hword with
    hreleased | ⟨generation', hwaiting', hlook⟩
  · rw [hwaiting] at hreleased
    cases hreleased
  · rw [hwaiting] at hwaiting'
    obtain rfl := Arrival.waiting.inj hwaiting'
    exact hlook

theorem Underway.hears_next (h : d.Underway g w plan groups) (hlane : lane ∈ g.warpLanes w)
    (hword : (groups (some w)).results[k]? = some word) (hk : k < (d.brought lane).length)
    (hless : (d.heard lane).length ≤ k) :
    ∃ d', d.step lane = some d' ∧ k < (d'.heard lane).length := by
  obtain ⟨st, hst⟩ := h.exists_stage hlane
  have hlength := (h.held hlane hst).length_words
  rw [← h.heard_eq_words hlane, ← h.length_brought hlane] at hlength
  rcases hawaited : st.awaitedAt .warp with _ | generation
  · rw [hawaited, Option.toList_none, List.length_nil] at hlength
    omega
  · rw [hawaited, Option.toList_some, List.length_singleton] at hlength
    obtain rfl : (d.heard lane).length = k := by omega
    obtain ⟨r, rfl⟩ := Stage.exists_waiting hawaited
    obtain ⟨next, rfl⟩ := (h.proper lane _ hst).exists_deliver
    have hlook := h.lookAt_of_waiting hlane hst hword
    obtain ⟨team, hteam⟩ : ∃ team, d.team.step lane = some team := by
      refine Option.ne_none_iff_exists'.mp fun hnone => ?_
      obtain ⟨o, ho⟩ | ⟨scope, generation', r', g', heq, hwaits⟩ :=
        Team.waits_of_step_eq_none hst hnone
      · cases ho
      · cases heq
        rw [hlook] at hwaits
        cases hwaits
    refine ⟨_, step_eq_some.mpr ⟨_, team, hst, hteam, rfl⟩, ?_⟩
    simp [after, hears, hlook, Arrival.word?]

end Underway

end Voting

end LaneGrid
