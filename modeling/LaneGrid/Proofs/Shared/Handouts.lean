import LaneGrid.Proofs.Shared.Chronicle

namespace LaneGrid

namespace Handout

variable {answers answers' : List Answer} {h : Handout} {capacity top : Nat}

theorem Given.mono (hgiven : h.Given answers) (hgrows : answers <+: answers') :
    h.Given answers' := by
  obtain ⟨a, last, hanswered, ha, hresult⟩ := hgiven
  obtain ⟨hlt, rfl⟩ := List.getElem?_eq_some_iff.mp ha
  exact ⟨_, last, hanswered, List.prefix_iff_getElem?.mp hgrows last hlt, hresult⟩

theorem Reserved.mono (hreserved : h.Reserved answers) (hgrows : answers <+: answers') :
    h.Reserved answers' := by
  obtain ⟨hlt, a, ha, hsame⟩ := hreserved
  obtain ⟨hnumber, rfl⟩ := List.getElem?_eq_some_iff.mp ha
  exact ⟨hlt, _, List.prefix_iff_getElem?.mp hgrows h.number hnumber, hsame⟩

/-- A slice with elements is what was reserved for its request exactly if the master had answered
that request last, and the lane's request was the same. -/
theorem reserved_iff (hreservations : Reservations capacity top answers)
    (hgiven : h.Given answers) (hlength : 0 < h.slice.length) :
    h.Reserved answers ↔ h.answered = h.number + 1 ∧ h.Matches answers := by
  obtain ⟨a, last, hanswered, ha, hresult⟩ := hgiven
  constructor
  · rintro ⟨hlt, b, hb, hkind, hsame, hoffset⟩
    refine ⟨?_, b, hb, hkind, hsame⟩
    rw [hanswered] at hlt ⊢
    rcases Nat.lt_succ_iff_lt_or_eq.mp hlt with hearlier | hnow
    · -- An earlier reservation with elements ends before the latest one starts.
      have hle : b.stop h.slice.offset ≤ h.slice.offset :=
        hreservations.before hearlier hb ha _ _ hoffset hresult
      have hpos : 0 < b.length * b.kind.size :=
        Nat.mul_pos (hsame ▸ hlength) b.kind.size_pos
      rw [Answer.stop] at hle
      omega
    · rw [hnow]
  · rintro ⟨hnumber, b, hb, hkind, hsame⟩
    obtain rfl : h.number = last := by omega
    obtain rfl : a = b := Option.some.inj (ha.symm.trans hb)
    exact ⟨by omega, a, ha, hkind, hsame, hresult⟩

theorem Reserved.inside (hreservations : Reservations capacity top answers)
    (hreserved : h.Reserved answers) :
    h.slice.kind.size ∣ h.slice.offset ∧ h.stop ≤ capacity := by
  obtain ⟨-, a, ha, hkind, hlength, hresult⟩ := hreserved
  have hinside := hreservations.inside (List.mem_of_getElem? ha) hresult
  rw [Answer.stop, hkind, hlength] at hinside
  exact hinside

theorem Reserved.disjoint (hreservations : Reservations capacity top answers) {h' : Handout}
    (hreserved : h.Reserved answers) (hreserved' : h'.Reserved answers)
    (hne : h'.number ≠ h.number) :
    h.stop ≤ h'.slice.offset ∨ h'.stop ≤ h.slice.offset := by
  obtain ⟨-, a, ha, hkind, hlength, hresult⟩ := hreserved
  obtain ⟨-, b, hb, hkind', hlength', hresult'⟩ := hreserved'
  rcases Nat.lt_or_gt_of_ne hne with hlt | hgt
  · right
    have hle := hreservations.before hlt hb ha _ _ hresult' hresult
    rw [Answer.stop, hkind', hlength'] at hle
    exact hle
  · left
    have hle := hreservations.before hgt ha hb _ _ hresult hresult'
    rw [Answer.stop, hkind, hlength] at hle
    exact hle

end Handout

namespace Chronicle

variable {β ω : Type}

/-- The record of the answers is what the team works with. -/
structure Kept (c : Chronicle β ω) : Prop where
  reservations : Reservations c.team.plan.arena.capacity c.team.top c.answers
  published_eq : c.team.published = c.answers.getLast?.map Answer.result
  given : ∀ h ∈ c.handouts, h.Given c.answers

theorem kept_make {team : Team β ω} (htop : team.top = 0) (hpublished : team.published = none) :
    (make team).Kept := by
  refine ⟨?_, hpublished, fun h hh => absurd hh List.not_mem_nil⟩
  rw [make, htop]
  exact .nil _

variable {c c' : Chronicle β ω} {lane : Nat} {st st' : Stage} {team : Team β ω}

theorem answer?_of_passes {r : Option Contribution × Resumption} {reserver : Reserver}
    (h : st.passes reserver = some r) (c : Chronicle β ω) (lane : Nat) :
    c.answer? lane st = none := by
  cases st with
  | publishing k n next => cases h
  | _ => rfl

variable [Gate β] [MeetingGate β]

theorem Kept.given_handout (hkept : c.Kept) {h : Handout} (hh : c.handout? lane st = some h) :
    h.Given c.answers := by
  cases st with
  | collecting k n next =>
      rw [handout?] at hh
      rcases hpublished : c.team.published with _ | e | offset
      · rw [Team.collected, hpublished] at hh
        cases hh
      · rw [Team.collected, hpublished] at hh
        cases hh
      · rw [Team.collected, hpublished] at hh
        obtain rfl := Option.some.inj hh
        rw [hkept.published_eq] at hpublished
        obtain ⟨a, ha, hresult⟩ := Option.map_eq_some_iff.mp hpublished
        rw [List.getLast?_eq_getElem?] at ha
        have hlt := (List.getElem?_eq_some_iff.mp ha).1
        exact ⟨a, _, (Nat.sub_add_cancel (Nat.one_le_of_lt hlt)).symm, ha, hresult⟩
  | _ => cases hh

theorem Kept.given_after (hkept : c.Kept) :
    ∀ h ∈ (c.after lane st team).handouts, h.Given (c.after lane st team).answers := by
  intro h hh
  have hgrows : c.answers <+: (c.after lane st team).answers := List.prefix_append _ _
  rcases List.mem_append.mp hh with hold | hnew
  · exact (hkept.given h hold).mono hgrows
  · exact (hkept.given_handout (Option.mem_toList.mp hnew)).mono hgrows

theorem Kept.after_of_same (hkept : c.Kept) (hplan : team.plan = c.team.plan)
    (haccount : c.team.SameAccount team) (hanswer : c.answer? lane st = none) :
    (c.after lane st team).Kept := by
  have hanswers : (c.after lane st team).answers = c.answers := by
    rw [after, hanswer]
    exact List.append_nil _
  refine ⟨?_, ?_, hkept.given_after⟩
  · rw [hanswers, after, hplan, haccount.top_eq]
    exact hkept.reservations
  · rw [hanswers, after, haccount.published_eq]
    exact hkept.published_eq

variable [Gate ω]

theorem Kept.step (hkept : c.Kept) (h : c.step lane = some c') : c'.Kept := by
  obtain ⟨st, st', team, rfl, -, -, hplan, hmove⟩ := step_move h
  cases hmove with
  | work _ _ _ haccount => exact hkept.after_of_same hplan haccount rfl
  | pass hpasses _ haccount =>
      exact hkept.after_of_same hplan haccount (answer?_of_passes hpasses c lane)
  | refused hpasses _ haccount =>
      exact hkept.after_of_same hplan haccount (answer?_of_passes hpasses c lane)
  | resume _ _ haccount => exact hkept.after_of_same hplan haccount rfl
  | collect _ haccount => exact hkept.after_of_same hplan haccount rfl
  | leave _ _ haccount => exact hkept.after_of_same hplan haccount rfl
  | part _ haccount => exact hkept.after_of_same hplan haccount rfl
  | @publish k n next _ haccount =>
      by_cases hmaster : lane = 0
      · rw [if_pos hmaster] at haccount
        have hanswers : (c.after lane (.publishing k n next) team).answers =
            c.answers ++ [Arena.answer c.team.plan.arena.capacity c.team.top k n] := by
          rw [after, answer?, if_pos hmaster]
          rfl
        refine ⟨?_, ?_, hkept.given_after⟩
        · rw [hanswers, after, hplan, haccount.top_eq]
          exact hkept.reservations.concat k n
        · rw [hanswers, after, haccount.published_eq, List.getLast?_concat]
          rfl
      · rw [if_neg hmaster] at haccount
        exact hkept.after_of_same hplan haccount (if_neg hmaster)

end Chronicle

end LaneGrid
