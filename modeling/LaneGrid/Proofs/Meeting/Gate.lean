import LaneGrid.Block.FiberBarrier
import LaneGrid.Block.ThreadBarrier

/-!
What the two barriers have in common: a meeting point, a sign that it was closed for good, and a
count of the lanes that have gone. The laws say all that an arrival, a second look and a departure
can do.
-/

namespace LaneGrid

namespace Rendezvous

theorem next_generation_ne (g : Word) : g + 1 ≠ g := by
  intro h
  have hone : (1 : Word) = 0 := BitVec.add_right_eq_self.mp h
  exact absurd hone (by decide)

theorem arrive_of_last {r : Rendezvous} (h : r.arrived + 1 = r.size) (c : Option Contribution) :
    r.arrive c = { r with
      arrived := 0, generation := r.generation + 1, gathered := 0, result := r.gather c } :=
  if_pos h

theorem arrive_of_more {r : Rendezvous} (h : r.arrived + 1 ≠ r.size) (c : Option Contribution) :
    r.arrive c = { r with arrived := r.arrived + 1, gathered := r.gather c } :=
  if_neg h

theorem generation_arrive_of_last {r : Rendezvous} (h : r.arrived + 1 = r.size)
    (c : Option Contribution) : (r.arrive c).generation ≠ r.generation := by
  rw [arrive_of_last h]
  exact next_generation_ne _

theorem result_arrive_of_last {r : Rendezvous} (h : r.arrived + 1 = r.size)
    (c : Option Contribution) : (r.arrive c).result = r.gather c := by
  rw [arrive_of_last h]

theorem generation_arrive_of_more {r : Rendezvous} (h : r.arrived + 1 ≠ r.size)
    (c : Option Contribution) : (r.arrive c).generation = r.generation := by
  rw [arrive_of_more h]

end Rendezvous

/-- A gate that is a meeting point which may be closed for good. -/
class MeetingGate (β : Type) [Gate β] where
  meeting : β → Rendezvous
  /-- Whether lanes are sent on without meeting. -/
  isClosed : β → Bool
  /-- Lanes that are known to have gone. -/
  departed : β → Nat
  arrive_closed {b : β} (h : isClosed b = true) (c : Option Contribution) :
    Gate.arrive b c = (.ok (.released none), b)
  /-- The last lane of a generation ends it. -/
  arrive_last {b : β} (h : isClosed b = false) (c : Option Contribution)
    (hlast : (meeting b).arrived + 1 = (meeting b).size) :
    ∃ b', Gate.arrive b c = (.ok (.released (some ((meeting b).gather c))), b') ∧
      meeting b' = (meeting b).arrive c ∧ isClosed b' = false ∧ departed b' = departed b
  /-- Any other lane waits, unless it finds that the generation can never be complete. -/
  arrive_more {b : β} (h : isClosed b = false) (c : Option Contribution)
    (hmore : (meeting b).arrived + 1 ≠ (meeting b).size)
    (hdeparted : departed b ≤ (meeting b).size) :
    ∃ b' a, Gate.arrive b c = (.ok a, b') ∧ meeting b' = (meeting b).arrive c ∧
      departed b' = departed b ∧
      a = if isClosed b' then .released none else .waiting (meeting b).generation
  look_eq (b : β) (g : Word) : Gate.look b g =
    if (meeting b).generation ≠ g then .released (some (meeting b).result)
    else if isClosed b then .released none
    else .waiting g
  meeting_leave (b : β) (failed : Bool) : meeting (Gate.leave b failed).2 = meeting b
  isClosed_leave {b : β} (h : isClosed b = true) (failed : Bool) :
    isClosed (Gate.leave b failed).2 = true
  /-- Only a lane that ends well may be counted. -/
  departed_leave (b : β) (failed : Bool) :
    departed (Gate.leave b failed).2 ≤ departed b + if failed then 0 else 1
  leave_ok {b : β} (h : departed b < (meeting b).size) (failed : Bool) :
    (Gate.leave b failed).1 = .ok ()

theorem MeetingGate.look_waiting {β : Type} [Gate β] [MeetingGate β] {b : β} {g g' : Word}
    (h : Gate.look b g = .waiting g') : g' = g := by
  rw [look_eq] at h
  split at h
  · cases h
  · split at h
    · cases h
    · exact (Arrival.waiting.inj h).symm

namespace ThreadBarrier

theorem strand_eq_ok {b : ThreadBarrier} (h : b.finished ≤ b.meeting.size) :
    ∃ b', b.strand = (.ok (), b') ∧ b'.meeting = b.meeting ∧ b'.finished = b.finished := by
  rw [strand]
  split
  · have hsub : wordArithmetic.sub b.meeting.size b.finished =
        .ok (b.meeting.size - b.finished) := if_pos h
    rw [hsub]
    exact ⟨_, rfl, rfl, rfl⟩
  · exact ⟨b, rfl, rfl, rfl⟩

theorem strand_snd (b : ThreadBarrier) :
    b.strand.2.meeting = b.meeting ∧ b.strand.2.finished = b.finished ∧
      (b.poisoned = true → b.strand.2.poisoned = true) := by
  rw [strand]
  split
  · rcases wordArithmetic.sub b.meeting.size b.finished with f | pending
    · exact ⟨rfl, rfl, id⟩
    · exact ⟨rfl, rfl, fun _ => rfl⟩
  · exact ⟨rfl, rfl, id⟩

instance : MeetingGate ThreadBarrier where
  meeting := meeting
  isClosed := poisoned
  departed := finished
  arrive_closed h c := if_pos h
  arrive_last := by
    intro b h c hlast
    have hgeneration := Rendezvous.generation_arrive_of_last hlast c
    refine ⟨{ b with meeting := b.meeting.arrive c }, ?_, rfl, h, rfl⟩
    rw [← Rendezvous.result_arrive_of_last hlast c]
    simp only [Gate.arrive, arrive, h, Bool.false_eq_true, if_false, if_pos hgeneration]
  arrive_more := by
    intro b h c hmore hdeparted
    rcases b with ⟨meeting, poisoned, finished, stranded⟩
    obtain rfl : poisoned = false := h
    have hsame := Rendezvous.generation_arrive_of_more hmore c
    have hsize : (meeting.arrive c).size = meeting.size := by
      rw [Rendezvous.arrive_of_more hmore]
    obtain ⟨b', hstrand, hmeeting, hfinished⟩ :=
      strand_eq_ok (b := ⟨meeting.arrive c, false, finished, stranded⟩) (hsize ▸ hdeparted)
    refine ⟨b', _, ?_, hmeeting, hfinished, rfl⟩
    simp only [Gate.arrive, arrive, Bool.false_eq_true, if_false, hsame, ne_eq,
      not_true_eq_false, hstrand]
  look_eq b g := rfl
  meeting_leave := by
    intro b failed
    cases failed with
    | true => rfl
    | false => exact (strand_snd _).1
  isClosed_leave := by
    intro b h failed
    cases failed with
    | true => rfl
    | false => exact (strand_snd { b with finished := b.finished + 1 }).2.2 h
  departed_leave := by
    intro b failed
    cases failed with
    | true => exact Nat.le_refl _
    | false => exact Nat.le_of_eq (strand_snd { b with finished := b.finished + 1 }).2.1
  leave_ok := by
    intro b h failed
    cases failed with
    | true => rfl
    | false =>
        obtain ⟨b', hstrand, -⟩ := strand_eq_ok (b := { b with finished := b.finished + 1 }) h
        exact congrArg Prod.fst hstrand

end ThreadBarrier

namespace FiberBarrier

instance : MeetingGate FiberBarrier where
  meeting := meeting
  isClosed _ := false
  departed _ := 0
  arrive_closed h := absurd h (by simp)
  arrive_last := by
    intro b _ c hlast
    have hgeneration := Rendezvous.generation_arrive_of_last hlast c
    refine ⟨⟨b.meeting.arrive c, b.arrivals + 1⟩, ?_, rfl, rfl, rfl⟩
    rw [← Rendezvous.result_arrive_of_last hlast c]
    simp only [Gate.arrive, arrive, look, if_pos hgeneration]
  arrive_more := by
    intro b _ c hmore _
    have hsame := Rendezvous.generation_arrive_of_more hmore c
    refine ⟨⟨b.meeting.arrive c, b.arrivals + 1⟩, _, ?_, rfl, rfl, rfl⟩
    simp only [Gate.arrive, arrive, look, hsame, ne_eq, not_true_eq_false, if_false,
      Bool.false_eq_true]
  look_eq b g := rfl
  meeting_leave _ _ := rfl
  isClosed_leave h := absurd h (by simp)
  departed_leave _ _ := Nat.zero_le _
  leave_ok _ _ := rfl

end FiberBarrier

namespace FiberPass

def polled : Arrival → Except FiberPass (Option Word)
  | .released r => .ok r
  | .waiting g => .error (.waiting g)

theorem poll_waiting (g : Word) (b : FiberBarrier) :
    (waiting g).poll b = (polled (b.look g), b) := by
  simp only [poll]
  cases b.look g <;> rfl

end FiberPass

end LaneGrid
