import LaneGrid.Proofs.Meeting.Gate
import LaneGrid.Proofs.Shared.Transcript

namespace LaneGrid

/-- What a lane that has its block to itself has done so far. -/
structure LaneRecord where
  memory : Memory
  /-- Bytes that are reserved. -/
  top : Nat
  journal : Array Observation

/-- What becomes of a lane, and all that it has done by then. -/
abbrev Fate :=
  Except Error Unit × LaneRecord

namespace Program

/-- Runs a program in a block that has no other lane, and in which so many bytes can be reserved. -/
def evaluate (capacity : Nat) : Program → LaneRecord → Outcome Unit × LaneRecord
  | .finish o, s => (o, s)
  | .note entry next, s => next.evaluate capacity { s with journal := s.journal.push entry }
  | .arrive _ c next, s => (next (SoloGate.fold c)).evaluate capacity s
  | .allocate k n next, s =>
    (next (Arena.answer capacity s.top k n).slice).evaluate capacity
      { s with top := Arena.grow capacity s.top k n }
  | .reserved next, s => (next s.top).evaluate capacity s
  | .access place _ a next, s =>
    match s.memory.access place a with
    | .ok (x, memory) => (next x).evaluate capacity { s with memory }
    | .error f => (.error (.fault f), s)

end Program

/-- A gate to which only one lane comes. -/
class LoneGate (β : Type) [Gate β] where
  /-- No lane is there, and only one is to come. -/
  IsLone : β → Prop
  /-- No lane has been given up. -/
  Spares : β → Prop
  arrive_lone {b : β} (h : IsLone b) (c : Option Contribution) :
    ∃ b', Gate.arrive b c = (.ok (.released (some (SoloGate.fold c))), b') ∧ IsLone b'
  leave_lone {b : β} (h : IsLone b) (failed : Bool) :
    ∃ b', Gate.leave b failed = (.ok (), b') ∧ Spares b'

namespace Rendezvous

structure IsLone (r : Rendezvous) : Prop where
  size_eq : r.size = 1
  arrived_eq : r.arrived = 0
  gathered_eq : r.gathered = 0

variable {r : Rendezvous}

theorem isLone_make : (make 1).IsLone :=
  ⟨rfl, rfl, rfl⟩

theorem IsLone.last (h : r.IsLone) : r.arrived + 1 = r.size := by
  rw [h.arrived_eq, h.size_eq]

theorem IsLone.arrive (h : r.IsLone) (c : Option Contribution) : (r.arrive c).IsLone := by
  rw [arrive_of_last h.last]
  exact ⟨h.size_eq, rfl, rfl⟩

theorem IsLone.gather (h : r.IsLone) (c : Option Contribution) : r.gather c = SoloGate.fold c := by
  cases c with
  | none => exact h.gathered_eq
  | some c => rw [Rendezvous.gather, if_pos h.arrived_eq, SoloGate.fold]

end Rendezvous

instance : LoneGate SoloGate where
  IsLone _ := True
  Spares _ := True
  arrive_lone {b} _ _ := ⟨b, rfl, trivial⟩
  leave_lone {b} _ _ := ⟨b, rfl, trivial⟩

open MeetingGate

instance : LoneGate FiberBarrier where
  IsLone b := b.meeting.IsLone
  Spares _ := True
  arrive_lone := by
    intro b h c
    obtain ⟨b', harrive, hmeeting, -⟩ := arrive_last (b := b) rfl c h.last
    refine ⟨b', ?_, ?_⟩
    · rw [harrive]
      exact congrArg (fun w => (Except.ok (Arrival.released (some w)), b')) (h.gather c)
    · exact (hmeeting ▸ h.arrive c : (meeting b').IsLone)
  leave_lone {b} _ _ := ⟨b, rfl, trivial⟩

instance : LoneGate ThreadBarrier where
  IsLone b := b.meeting.IsLone ∧ b.poisoned = false ∧ b.stranded = none
  Spares b := b.stranded = none
  arrive_lone := by
    rintro b ⟨h, hopen, hspares⟩ c
    have hgeneration := Rendezvous.generation_arrive_of_last h.last c
    refine ⟨{ b with meeting := b.meeting.arrive c }, ?_, h.arrive c, hopen, hspares⟩
    rw [← h.gather c, ← Rendezvous.result_arrive_of_last h.last c]
    simp only [Gate.arrive, ThreadBarrier.arrive, hopen, Bool.false_eq_true, if_false,
      if_pos hgeneration]
  leave_lone := by
    rintro b ⟨h, hopen, hspares⟩ failed
    cases failed with
    | true => exact ⟨b.poison, rfl, hspares⟩
    | false =>
        -- Nobody is there who could wait for the lane that leaves.
        refine ⟨{ b with finished := b.finished + 1 }, ?_, hspares⟩
        have hreachable :
            ThreadBarrier.unreachable { b with finished := b.finished + 1 } = false := by
          simp [ThreadBarrier.unreachable, h.arrived_eq]
        simp only [Gate.leave, ThreadBarrier.laneFinished, ThreadBarrier.strand, hreachable,
          Bool.false_eq_true, if_false]

end LaneGrid
