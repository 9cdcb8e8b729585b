import LaneGrid.Proofs.Meeting.Safety

namespace LaneGrid

open MeetingGate

namespace ThreadBarrier

/-- What an open barrier does when lanes wait at it and others are known to have gone: it gives up
the lanes that have not gone. -/
inductive Verdict (b : ThreadBarrier) : ThreadBarrier → Prop
  | stays {b' : ThreadBarrier} (hopen : b'.poisoned = false) (hstranded : b'.stranded = b.stranded)
      (hapart : b'.finished = 0 ∨ b'.meeting.arrived = 0) : Verdict b b'
  | givesUp {b' : ThreadBarrier} (hclosed : b'.poisoned = true)
      (hstranded : b'.stranded = some (b.meeting.size - b'.finished)) (hgone : b'.finished ≠ 0)
      (hwaiting : b'.meeting.arrived ≠ 0) : Verdict b b'

theorem strand_verdict {b : ThreadBarrier} (hopen : b.poisoned = false)
    (hfinished : b.finished ≤ b.meeting.size) :
    ∃ b', b.strand = (.ok (), b') ∧ b.Verdict b' := by
  rw [strand]
  by_cases hreach : b.unreachable = true
  · have hboth : b.finished ≠ 0 ∧ b.meeting.arrived ≠ 0 := by
      simpa [unreachable, hopen] using hreach
    have hsub : wordArithmetic.sub b.meeting.size b.finished =
        .ok (b.meeting.size - b.finished) := if_pos hfinished
    rw [if_pos hreach, hsub]
    exact ⟨_, rfl, .givesUp rfl rfl hboth.1 hboth.2⟩
  · rw [if_neg hreach]
    refine ⟨b, rfl, .stays hopen rfl ?_⟩
    by_contra hboth
    rw [not_or] at hboth
    exact hreach (by simp [unreachable, hopen, hboth.1, hboth.2])

theorem arrive_verdict {b : ThreadBarrier} (hopen : b.poisoned = false)
    (hfinished : b.finished ≤ b.meeting.size) (c : Option Contribution) :
    b.Verdict (Gate.arrive b c).2 ∧ (Gate.arrive b c).2.finished = b.finished := by
  rcases b with ⟨m, poisoned, finished, stranded⟩
  obtain rfl : poisoned = false := hopen
  have hsize : (m.arrive c).size = m.size := by
    rw [Rendezvous.arrive]
    split <;> rfl
  obtain ⟨b', hstrand, hverdict⟩ :=
    strand_verdict (b := ⟨m.arrive c, false, finished, stranded⟩) rfl (hsize.symm ▸ hfinished)
  have hsame := (strand_snd ⟨m.arrive c, false, finished, stranded⟩).2.1
  rw [hstrand] at hsame
  simp only [Gate.arrive, arrive, Bool.false_eq_true, if_false, hstrand]
  split
  · rename_i hgeneration
    refine ⟨.stays rfl rfl (.inr ?_), rfl⟩
    by_cases hlast : m.arrived + 1 = m.size
    · dsimp only
      rw [Rendezvous.arrive_of_last hlast]
    · exact absurd (Rendezvous.generation_arrive_of_more hlast c) hgeneration
  · refine ⟨?_, hsame⟩
    cases hverdict with
    | stays hopen hstranded hapart => exact .stays hopen hstranded hapart
    | givesUp hclosed hstranded hgone hwaiting =>
        exact .givesUp hclosed (hsize ▸ hstranded) hgone hwaiting

theorem leave_verdict {b : ThreadBarrier} (hopen : b.poisoned = false)
    (hfinished : b.finished < b.meeting.size) :
    b.Verdict (Gate.leave b false).2 ∧ (Gate.leave b false).2.finished = b.finished + 1 := by
  obtain ⟨b', hstrand, hverdict⟩ :=
    strand_verdict (b := { b with finished := b.finished + 1 }) hopen hfinished
  have hleave : Gate.leave b false = (.ok (), b') := hstrand
  have hgone := (strand_snd { b with finished := b.finished + 1 }).2.1
  rw [hstrand] at hgone
  rw [hleave]
  refine ⟨?_, hgone⟩
  cases hverdict with
  | stays hopen hstranded hapart => exact .stays hopen hstranded hapart
  | givesUp hclosed hstranded hgone hwaiting => exact .givesUp hclosed hstranded hgone hwaiting

theorem leave_closed {b : ThreadBarrier} (hclosed : b.poisoned = true) (failed : Bool) :
    (Gate.leave b failed).2.poisoned = true ∧ (Gate.leave b failed).2.stranded = b.stranded := by
  cases failed with
  | true => exact ⟨rfl, rfl⟩
  | false =>
      have hreach : unreachable { b with finished := b.finished + 1 } = false := by
        simp [unreachable, hclosed]
      have hleave : Gate.leave b false = (.ok (), { b with finished := b.finished + 1 }) := by
        simp only [Gate.leave, laneFinished, strand, hreach, Bool.false_eq_true, if_false]
      rw [hleave]
      exact ⟨hclosed, rfl⟩

/-- Lanes that come, or go without failing, close a barrier only when they are given up. -/
structure Settles (b b' : ThreadBarrier) : Prop where
  of_closed : b.poisoned = true → b'.poisoned = true ∧ b'.stranded = b.stranded
  of_open : b.poisoned = false → (b'.poisoned = true ↔ b'.stranded ≠ none)

theorem Verdict.settles {b b' : ThreadBarrier} (h : b.Verdict b') (hopen : b.poisoned = false)
    (hnone : b.stranded = none) : b.Settles b' where
  of_closed hclosed := absurd (hopen.symm.trans hclosed) (by decide)
  of_open _ := by
    cases h with
    | stays hopen hstranded _ => simp [hopen, hstranded, hnone]
    | givesUp hclosed hstranded _ _ => simp [hclosed, hstranded]

theorem Settles.poisoned_iff {b b' : ThreadBarrier} (h : b.Settles b') {failed : Prop}
    (hb : b.poisoned = true ↔ b.stranded ≠ none ∨ failed) :
    b'.poisoned = true ↔ b'.stranded ≠ none ∨ failed := by
  rcases hclosed : b.poisoned with _ | _
  · refine (h.of_open hclosed).trans (or_iff_left fun hfailed => ?_).symm
    exact absurd (hclosed.symm.trans (hb.mpr (.inr hfailed))) (by decide)
  · obtain ⟨hclosed', hstranded⟩ := h.of_closed hclosed
    rw [hstranded]
    exact iff_of_true hclosed' (hb.mp hclosed)

theorem Settles.blame {b b' : ThreadBarrier} (h : b.Settles b') {failed : Prop}
    (hb : b.poisoned = true → b.stranded ≠ none ∨ failed) (hclosed' : b'.poisoned = true) :
    b'.stranded ≠ none ∨ failed := by
  rcases hclosed : b.poisoned with _ | _
  · exact .inl ((h.of_open hclosed).mp hclosed')
  · rw [(h.of_closed hclosed).2]
    exact hb hclosed

end ThreadBarrier

/-- A gate that a lane closes as it comes only if others have gone. -/
class PatientGate (β : Type) [Gate β] [MeetingGate β] : Prop where
  departed_ne_zero {b : β} (hopen : isClosed b = false) (hdeparted : departed b ≤ (meeting b).size)
    {c : Option Contribution} (hclosed : isClosed (Gate.arrive b c).2 = true) : departed b ≠ 0

instance : PatientGate ThreadBarrier where
  departed_ne_zero := by
    intro b hopen hdeparted c hclosed
    obtain ⟨hverdict, hfinished⟩ := ThreadBarrier.arrive_verdict hopen hdeparted c
    cases hverdict with
    | stays hopen' _ _ => exact absurd (hopen'.symm.trans hclosed) Bool.false_ne_true
    | givesUp _ _ hgone _ => exact fun hnone => hgone (hfinished.trans hnone)

instance : PatientGate FiberBarrier where
  departed_ne_zero _ _ _ hclosed := absurd hclosed Bool.false_ne_true

namespace Group

variable {n lane : Nat} {s s' : Group ThreadBarrier}

structure Accounts (n : Nat) (s : Group ThreadBarrier) : Prop where
  /-- An open barrier has counted every lane that has gone. -/
  finished_eq : s.gate.poisoned = false → s.gate.finished = (List.range n).countP s.left
  /-- At an open barrier nobody waits for a lane that has gone. -/
  apart : s.gate.poisoned = false → s.gate.finished = 0 ∨ s.gate.meeting.arrived = 0
  /-- Lanes are only given up for good. -/
  closed : s.gate.stranded ≠ none → s.gate.poisoned = true

theorem accounts_make (n : Nat) : (make (ThreadBarrier.make n)).Accounts n where
  finished_eq _ := (List.countP_eq_zero.mpr fun _ _ => Bool.false_ne_true).symm
  apart _ := .inl rfl
  closed h := absurd rfl h

theorem accounts_of_closed (h : s.gate.poisoned = true) : s.Accounts n where
  finished_eq hopen := absurd (h.symm.trans hopen) (by decide)
  apart hopen := absurd (h.symm.trans hopen) (by decide)
  closed _ := h

theorem Accounts.stranded_eq (h : s.Accounts n) (hopen : s.gate.poisoned = false) :
    s.gate.stranded = none := by
  by_contra hgiven
  exact absurd (hopen.symm.trans (h.closed hgiven)) (by decide)

theorem Accounts.settles_arrive (h : s.Accounts n) (hs : s.Sound n) (hlane : lane < n)
    (hfree : s.Free lane) (c : Option Contribution) : s.gate.Settles (Gate.arrive s.gate c).2 := by
  rcases hclosed : s.gate.poisoned with _ | _
  · exact (ThreadBarrier.arrive_verdict hclosed
      (Nat.le_of_lt (hs.departed_lt hlane hfree)) c).1.settles hclosed (h.stranded_eq hclosed)
  · rw [arrive_closed (b := s.gate) hclosed c]
    exact ⟨fun _ => ⟨hclosed, rfl⟩, fun hopen => absurd (hopen.symm.trans hclosed) (by decide)⟩

theorem Accounts.settles_leave (h : s.Accounts n) (hs : s.Sound n) (hlane : lane < n)
    (hfree : s.Free lane) : s.gate.Settles (Gate.leave s.gate false).2 := by
  rcases hclosed : s.gate.poisoned with _ | _
  · exact (ThreadBarrier.leave_verdict hclosed (hs.departed_lt hlane hfree)).1.settles hclosed
      (h.stranded_eq hclosed)
  · exact ⟨fun _ => ThreadBarrier.leave_closed hclosed false,
      fun hopen => absurd (hopen.symm.trans hclosed) (by decide)⟩

theorem Accounts.of_verdict {b : ThreadBarrier} (h : s.Accounts n) (hopen : s.gate.poisoned = false)
    (hverdict : s.gate.Verdict b) (hgate : s'.gate = b)
    (hfinished : b.finished = (List.range n).countP s'.left) : s'.Accounts n := by
  subst hgate
  cases hverdict with
  | stays hopen' hstranded hapart =>
      refine ⟨fun _ => hfinished, fun _ => hapart, fun hgiven => ?_⟩
      rw [hstranded] at hgiven
      exact absurd (hopen.symm.trans (h.closed hgiven)) (by decide)
  | givesUp hclosed => exact accounts_of_closed hclosed

theorem Step.accounts (hs : s.Sound n) (h : s.Accounts n) (hstep : Step n s s') :
    s'.Accounts n := by
  cases hstep with
  | @arrive lane c a gate hlane hfree harrive =>
      rcases hclosed : s.gate.poisoned with _ | _
      · obtain ⟨hverdict, hfinished⟩ := ThreadBarrier.arrive_verdict hclosed
          (Nat.le_of_lt (hs.departed_lt hlane hfree)) c
        rw [harrive] at hverdict hfinished
        exact h.of_verdict hclosed hverdict rfl (hfinished.trans (h.finished_eq hclosed))
      · have hgate := arrive_closed (b := s.gate) hclosed c
        rw [harrive] at hgate
        obtain ⟨-, rfl⟩ := Prod.mk.inj hgate
        exact accounts_of_closed hclosed
  | look => exact ⟨h.finished_eq, h.apart, h.closed⟩
  | @leave lane hlane hfree failed =>
      rcases hclosed : s.gate.poisoned with _ | _
      · cases failed with
        | true => exact accounts_of_closed rfl
        | false =>
            obtain ⟨hverdict, hfinished⟩ :=
              ThreadBarrier.leave_verdict hclosed (hs.departed_lt hlane hfree)
            refine h.of_verdict hclosed hverdict rfl ?_
            rw [hfinished, h.finished_eq hclosed]
            exact (countP_update List.nodup_range (List.mem_range.mpr hlane) hfree.1).symm
      · exact accounts_of_closed (isClosed_leave (b := s.gate) hclosed failed)
  | close => exact accounts_of_closed rfl

section Blocked

variable {β : Type} [Gate β] [MeetingGate β] {s : Group β}

/-- A lane that waits, and is not let go when it looks again. -/
def Blocked (s : Group β) (lane : Nat) : Prop :=
  ∃ earlier v g, s.visits lane = earlier ++ [v] ∧ v.answer = .waiting g ∧
    Gate.look s.gate g = .waiting g

theorem Sound.eq_concat_of_waiting (h : s.Sound n) {j : Nat} {v : Visit} {g : Word}
    (hv : (s.visits lane)[j]? = some v) (hwaiting : v.answer = .waiting g) :
    ∃ earlier, s.visits lane = earlier ++ [v] := by
  refine List.getLast?_eq_some_iff.mp ?_
  rw [List.getLast?_eq_getElem?, ← h.waits lane j v g hv hwaiting]
  exact hv

theorem Sound.exists_waiting (h : s.Sound n) (hstays : s.left lane = false)
    (hbusy : ¬s.Free lane) :
    ∃ earlier v g, s.visits lane = earlier ++ [v] ∧ v.answer = .waiting g := by
  rw [Free, not_and] at hbusy
  obtain ⟨v, hv⟩ := not_forall.mp (hbusy hstays)
  obtain ⟨hmem, hanswer⟩ := Classical.not_imp.mp hv
  obtain ⟨j, hj⟩ := List.getElem?_of_mem hmem
  rcases hwaiting : v.answer with r | g
  · exact absurd ⟨r, hwaiting⟩ hanswer
  · obtain ⟨earlier, hvisits⟩ := h.eq_concat_of_waiting hj hwaiting
    exact ⟨earlier, v, g, hvisits, hwaiting⟩

theorem Sound.of_blocked (h : s.Sound n) (hblocked : s.Blocked lane) :
    isClosed s.gate = false ∧ s.Counted lane s.results.length := by
  obtain ⟨earlier, v, g, hvisits, hwaiting, hlook⟩ := hblocked
  have hv : (s.visits lane)[earlier.length]? = some v := by
    rw [hvisits, List.getElem?_concat_length]
  cases h.fate_look hvisits hwaiting with
  | refused _ _ hanswer => rw [hlook] at hanswer; cases hanswer
  | released _ _ hanswer => rw [hlook] at hanswer; cases hanswer
  | givenUp _ _ _ hanswer => rw [hlook] at hanswer; cases hanswer
  | waiting hgeneration hle hlast hanswer =>
      obtain rfl : g = BitVec.ofNat 64 earlier.length := by
        rw [hlook] at hanswer
        exact Arrival.waiting.inj hanswer
      rcases Nat.eq_or_lt_of_le hle with hopen | hlt
      · refine ⟨?_, v, hopen ▸ hv, hopen ▸ hgeneration⟩
        rw [look_eq] at hlook
        split at hlook
        · cases hlook
        · split at hlook
          · cases hlook
          · rename_i hclosed
            exact Bool.eq_false_iff.mpr hclosed
      · rw [h.look_of_complete (List.getElem?_eq_getElem hlt) hlast] at hlook
        cases hlook

theorem Sound.arrived_ne_zero (h : s.Sound n) (hcounted : s.Counted lane s.results.length) :
    (meeting s.gate).arrived ≠ 0 := by
  obtain ⟨order, -, hmem, harrived, -, -⟩ := h.present
  intro hzero
  have hnil : order = [] := List.eq_nil_of_length_eq_zero (harrived.symm.trans hzero)
  exact absurd ((hmem lane).mpr hcounted) (hnil ▸ List.not_mem_nil)

theorem Sound.exists_not_blocked (h : s.Sound n) (hn : 1 ≤ n) : ∃ lane < n, ¬s.Blocked lane := by
  by_contra hall
  refine Nat.lt_irrefl _ (h.lt_of_all hn fun lane hlane => (h.of_blocked ?_).2)
  exact not_not.mp fun hnot => hall ⟨lane, hlane, hnot⟩

end Blocked

theorem Accounts.stays_of_blocked (h : s.Accounts n) (hs : s.Sound n) (hblocked : s.Blocked lane) :
    ∀ peer < n, s.left peer = false := by
  obtain ⟨hopen, hcounted⟩ := hs.of_blocked hblocked
  have hnone := (h.finished_eq hopen).symm.trans
    ((h.apart hopen).resolve_right (hs.arrived_ne_zero hcounted))
  intro peer hpeer
  exact Bool.eq_false_iff.mpr (List.countP_eq_zero.mp hnone peer (List.mem_range.mpr hpeer))

end Group

end LaneGrid
