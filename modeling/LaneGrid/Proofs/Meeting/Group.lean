import Mathlib.Data.List.Perm.Subperm
import Mathlib.Data.List.Nodup
import Mathlib.Logic.Function.Basic
import Mathlib.Logic.Relation
import LaneGrid.Proofs.Meeting.Fold
import LaneGrid.Proofs.Meeting.Gate

/-!
A group of lanes that meet at one gate again and again, in every order of the gate's indivisible
steps. Each lane comes, waits until it is let go, and may come again; the invariant ties every
visit to the generation in which it was counted.
-/

namespace LaneGrid

open MeetingGate

structure Visit where
  contribution : Option Contribution
  /-- The generation in which the lane was counted. A closed gate counts nobody. -/
  generation : Option Nat
  answer : Arrival

/-- Lanes that share a gate, with all that has happened so far. -/
structure Group (β : Type) where
  gate : β
  /-- What each completed generation has gathered. -/
  results : List Word
  /-- The visits of every lane, in order. -/
  visits : Nat → List Visit
  /-- Lanes that will not come again. -/
  left : Nat → Bool

namespace Group

variable {β : Type} [Gate β] [MeetingGate β]

def make (gate : β) : Group β :=
  ⟨gate, [], fun _ => [], fun _ => false⟩

/-- A lane that can still come and does not wait. -/
def Free (s : Group β) (lane : Nat) : Prop :=
  s.left lane = false ∧ ∀ v ∈ s.visits lane, ∃ r, v.answer = .released r

/-- A lane has come to the gate. -/
def arrived (s : Group β) (lane : Nat) (c : Option Contribution) (a : Arrival) (gate : β) :
    Group β where
  gate
  results :=
    if (meeting gate).generation = (meeting s.gate).generation then s.results
    else s.results ++ [(meeting gate).result]
  visits := Function.update s.visits lane
    (s.visits lane ++ [⟨c, if isClosed s.gate then none else some s.results.length, a⟩])
  left := s.left

/-- A lane has looked at the gate again, and its last visit is now `v`. -/
def looked (s : Group β) (lane : Nat) (earlier : List Visit) (v : Visit) : Group β :=
  { s with visits := Function.update s.visits lane (earlier ++ [v]) }

def gone (s : Group β) (lane : Nat) (failed : Bool) : Group β :=
  { s with gate := (Gate.leave s.gate failed).2, left := Function.update s.left lane true }

/-- The gate was closed from outside. -/
def shut (s : Group β) : Group β :=
  { s with gate := (Gate.leave s.gate true).2 }

/-- The indivisible steps of `n` lanes. -/
inductive Step (n : Nat) : Group β → Group β → Prop
  | arrive {s : Group β} {lane : Nat} {c : Option Contribution} {a : Arrival} {gate : β}
      (hlane : lane < n) (hfree : s.Free lane) (h : Gate.arrive s.gate c = (.ok a, gate)) :
      Step n s (s.arrived lane c a gate)
  | look {s : Group β} {lane : Nat} {earlier : List Visit} {v : Visit} {g : Word}
      (hvisits : s.visits lane = earlier ++ [v]) (hwaiting : v.answer = .waiting g) :
      Step n s (s.looked lane earlier { v with answer := Gate.look s.gate g })
  | leave {s : Group β} {lane : Nat} (hlane : lane < n) (hfree : s.Free lane) (failed : Bool) :
      Step n s (s.gone lane failed)
  | close {s : Group β} : Step n s s.shut

/-- The states that `n` lanes can bring about, starting at an unused gate. -/
def Reachable (n : Nat) (gate : β) (s : Group β) : Prop :=
  Relation.ReflTransGen (Step n) (make gate) s

/-- A lane was counted in a generation: it has visited the gate exactly so often before. -/
def Counted (s : Group β) (lane g : Nat) : Prop :=
  ∃ v, (s.visits lane)[g]? = some v ∧ v.generation = some g

def contribution (s : Group β) (g lane : Nat) : Option Contribution :=
  (s.visits lane)[g]?.bind (·.contribution)

/-- What can have become of a lane's visit number `j`. -/
inductive Fate (s : Group β) (j : Nat) (v : Visit) : Prop where
  | refused (hgeneration : v.generation = none) (hclosed : isClosed s.gate = true)
      (hanswer : v.answer = .released none)
  | released {w : Word} (hgeneration : v.generation = some j) (hresult : s.results[j]? = some w)
      (hanswer : v.answer = .released (some w))
  /-- The gate was closed while the lane waited. -/
  | givenUp (hgeneration : v.generation = some j) (hclosed : isClosed s.gate = true)
      (hopen : j = s.results.length) (hanswer : v.answer = .released none)
  /-- The lane may not have noticed yet that its generation is complete. -/
  | waiting (hgeneration : v.generation = some j) (hle : j ≤ s.results.length)
      (hlast : s.results.length ≤ j + 1) (hanswer : v.answer = .waiting (BitVec.ofNat 64 j))

/-- What holds whenever no lane is in the middle of a step. -/
structure Sound (n : Nat) (s : Group β) : Prop where
  size_eq : (meeting s.gate).size = max n 1
  generation_eq : (meeting s.gate).generation = BitVec.ofNat 64 s.results.length
  result_eq : ∀ w, s.results.getLast? = some w → (meeting s.gate).result = w
  departed_le : departed s.gate ≤ (List.range n).countP s.left
  idle : ∀ lane, n ≤ lane → s.visits lane = []
  fate : ∀ lane j v, (s.visits lane)[j]? = some v → s.Fate j v
  /-- A lane that waits does nothing else. -/
  waits : ∀ lane j v g, (s.visits lane)[j]? = some v → v.answer = .waiting g →
    j + 1 = (s.visits lane).length
  /-- Every lane has taken part in every completed generation. -/
  complete : ∀ g < s.results.length, ∃ order : List Nat, order.Perm (List.range n) ∧
    (∀ lane ∈ order, s.Counted lane g) ∧
    s.results[g]? = some (Rendezvous.collect (order.map (s.contribution g)))
  /-- The open generation has gathered what its lanes have brought so far. -/
  present : ∃ order : List Nat, order.Nodup ∧
    (∀ lane, lane ∈ order ↔ s.Counted lane s.results.length) ∧
    (meeting s.gate).arrived = order.length ∧
    (meeting s.gate).gathered =
      Rendezvous.collect (order.map (s.contribution s.results.length)) ∧
    order.length < max n 1

theorem sound_make {n : Nat} {gate : β} (hmeeting : meeting gate = .make n)
    (hdeparted : departed gate = 0) : (make gate).Sound n where
  size_eq := by rw [make, hmeeting]; rfl
  generation_eq := by rw [make, hmeeting]; rfl
  result_eq := by simp [make]
  departed_le := by rw [make, hdeparted]; exact Nat.zero_le _
  idle := fun _ _ => rfl
  fate := by simp [make]
  waits := by simp [make]
  complete := by simp [make]
  present := by
    refine ⟨[], List.nodup_nil, ?_, ?_, ?_, ?_⟩
    · simp [make, Counted]
    · rw [make, hmeeting]; rfl
    · rw [make, hmeeting]; rfl
    · exact Nat.lt_of_lt_of_le Nat.zero_lt_one (Nat.le_max_right n 1)

end Group

end LaneGrid
