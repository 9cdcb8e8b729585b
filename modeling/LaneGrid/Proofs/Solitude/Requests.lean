import LaneGrid.Kernel.Coroutine
import LaneGrid.Proofs.Solitude.Evaluation

namespace LaneGrid

/-- The same outcome, memory and observations; the bytes reserved may differ. -/
structure LaneRecord.Concurs (r r' : Outcome Unit × LaneRecord) : Prop where
  outcome_eq : r.1 = r'.1
  memory_eq : r.2.memory = r'.2.memory
  journal_eq : r.2.journal = r'.2.journal

namespace Coroutine

/-- In so many actions of a lane, whatever it is answered, it awaits its oldest request each time,
and looks at what is reserved only while it holds none. Before its future is polled it does not look
up which lane it is. -/
def InOrder (k : Coroutine) (polled : Bool) (fuel : Nat) {n : Nat} (x : k.State n) : Prop :=
  match fuel with
  | 0 => True
  | fuel + 1 =>
    match k.act x with
    | .panic _ | .finish _ => True
    | .ready next => k.InOrder true fuel next
    | .identity next => polled = true ∧ ∀ lane, k.InOrder true fuel (next (some lane))
    | .arrive _ _ next => ∀ w, k.InOrder true fuel (next w)
    | .ask _ _ next => k.InOrder polled fuel next
    | .await i next => i.val = 0 ∧ ∀ answer, k.InOrder true fuel (next answer)
    | .reserved next => n = 0 ∧ ∀ bytes, k.InOrder polled fuel (next bytes)
    | .access _ _ _ next => ∀ x, k.InOrder polled fuel (next x)

/-- Requests that are met one after the other from `top` on, up to `last`. -/
inductive Request.Met (capacity : Nat) : Nat → List Request → List Request → Nat → Prop
  | nil {top} : Met capacity top [] [] top
  | cons {top k n pending met last}
      (h : Met capacity (Arena.grow capacity top k n) pending met last) :
      Met capacity top (.pending k n :: pending) (.met (Arena.answer capacity top k n).slice :: met)
        last

namespace Request.Met

variable {capacity top last : Nat} {pending met : List Request}

theorem concat (h : Met capacity top pending met last) (k : ElementKind) (n : Nat) :
    Met capacity top (pending ++ [.pending k n])
      (met ++ [.met (Arena.answer capacity last k n).slice]) (Arena.grow capacity last k n) := by
  induction h with
  | nil => exact .cons .nil
  | cons _ ih => exact .cons ih

theorem eq_of_nil (h : Met capacity top [] met last) : top = last := by
  cases h
  rfl

end Request.Met

namespace Requests

variable {n : Nat}

theorem get_erase_zero {pending met : Requests n} {i : Fin n} {capacity top last : Nat}
    (h : Request.Met capacity top pending.items met.items last) (hi : i.val = 0) :
    ∃ k m, pending.get i = .pending k m ∧ met.get i = .met (Arena.answer capacity top k m).slice ∧
      Request.Met capacity (Arena.grow capacity top k m) (pending.erase i).items
        (met.erase i).items last := by
  obtain ⟨pending, hpending⟩ := pending
  obtain ⟨met, hmet⟩ := met
  obtain ⟨i, hlt⟩ := i
  dsimp only at hi h
  subst hi
  cases h with
  | nil =>
      subst hpending
      exact absurd hlt (Nat.lt_irrefl 0)
  | @cons _ k m pending met _ h => exact ⟨k, m, rfl, rfl, h⟩

end Requests

variable {k : Coroutine} {lane : Nat} {stop : Outcome Unit}

/-- What a lane comes to in its first actions, in a block that it has to itself, does not depend on
who reserves. What it has reserved by then does. -/
theorem InOrder.concurs {polled : Bool} {fuel n : Nat} {x : k.State n}
    (hordered : k.InOrder polled fuel x) {pending met : Requests n} {capacity top last : Nat}
    (hmet : Request.Met capacity top pending.items met.items last) (lane : Nat)
    (stop : Outcome Unit) (memory : Memory) (journal : Array Observation) : LaneRecord.Concurs
      ((k.program .lane lane stop fuel met x).evaluate capacity ⟨memory, last, journal⟩)
      ((k.program .master lane stop fuel pending x).evaluate capacity ⟨memory, top, journal⟩) := by
  induction fuel generalizing n polled top last memory journal with
  | zero => exact ⟨rfl, rfl, rfl⟩
  | succ fuel ih =>
      rw [InOrder] at hordered
      rw [program, program]
      cases hact : k.act x with
      | panic f => exact ⟨rfl, rfl, rfl⟩
      | finish outcome => exact ⟨rfl, rfl, rfl⟩
      | ready next =>
          rw [hact] at hordered
          exact ih hordered hmet memory journal
      | identity next =>
          rw [hact] at hordered
          exact ih (hordered.2 lane) hmet memory _
      | arrive scope c next =>
          rw [hact] at hordered
          exact ih (hordered _) hmet memory _
      | ask kind length next =>
          rw [hact] at hordered
          exact ih hordered (hmet.concat kind length) memory journal
      | await i next =>
          rw [hact] at hordered
          obtain ⟨kind, length, hpending, hgiven, hrest⟩ := Requests.get_erase_zero hmet hordered.1
          dsimp only
          rw [hpending, hgiven]
          exact ih (hordered.2 _) hrest memory _
      | reserved next =>
          rw [hact] at hordered
          obtain ⟨rfl, hordered⟩ := hordered
          have hnone : pending.items = [] := List.eq_nil_of_length_eq_zero pending.length_eq
          obtain rfl : top = last := (hnone ▸ hmet).eq_of_nil
          exact ih (hordered top) hmet memory _
      | access place kind a next =>
          rw [hact] at hordered
          rcases haccess : memory.access place a with f | ⟨x, memory'⟩
          · simp only [Program.evaluate, haccess]
            exact ⟨rfl, rfl, rfl⟩
          · simp only [Program.evaluate, haccess]
            exact ih (hordered x) hmet memory' _

theorem InOrder.evaluate_rest {fuel n : Nat} {x : k.State n} (hordered : k.InOrder false fuel x)
    {held : Requests n} {memory : Memory} {journal : Array Observation} {p : Program}
    (hrest : (k.call lane stop fuel held x memory journal).rest = .ok p) (capacity : Nat) :
    p.evaluate capacity ⟨(k.call lane stop fuel held x memory journal).memory, 0,
        (k.call lane stop fuel held x memory journal).journal⟩ =
      (k.program .master lane stop fuel held x).evaluate capacity ⟨memory, 0, journal⟩ := by
  induction fuel generalizing n memory journal with
  | zero =>
      obtain rfl := Except.ok.inj hrest
      rfl
  | succ fuel ih =>
      rw [InOrder] at hordered
      rw [call] at hrest ⊢
      cases hact : k.act x with
      | panic f =>
          rw [hact] at hrest
          cases hrest
      | identity next =>
          rw [hact] at hordered
          cases hordered.1
      | ask kind length next =>
          rw [hact] at hordered hrest
          rw [program, hact]
          exact ih hordered hrest
      | reserved next =>
          rw [hact] at hordered hrest
          rw [program, hact]
          exact ih (hordered.2 0) hrest
      | access place kind a next =>
          rw [hact] at hordered hrest
          rw [program, hact]
          rcases haccess : memory.access place a with f | ⟨x, memory'⟩
          · simp only [haccess] at hrest
            cases hrest
          · simp only [haccess] at hrest
            simp only [Program.evaluate, haccess]
            exact ih (hordered x) hrest
      | ready | finish | arrive | await =>
          rw [hact] at hrest
          obtain rfl := Except.ok.inj hrest
          rfl

theorem within_call {fuel n : Nat} {x : k.State n} {held : Requests n} {memory : Memory}
    {journal : Array Observation} {p : Program}
    (hrest : (k.call lane stop fuel held x memory journal).rest = .ok p) : p.Within (2 * fuel) := by
  induction fuel generalizing n memory journal with
  | zero =>
      obtain rfl := Except.ok.inj hrest
      exact .finish
  | succ fuel ih =>
      rw [call] at hrest
      cases hact : k.act x with
      | panic f =>
          rw [hact] at hrest
          cases hrest
      | identity next | ask _ _ next | reserved next =>
          rw [hact] at hrest
          exact (ih hrest).mono (by omega)
      | access place kind a next =>
          rw [hact] at hrest
          dsimp only at hrest
          split at hrest
          · exact (ih hrest).mono (by omega)
          · cases hrest
      | ready | finish | arrive | await =>
          rw [hact] at hrest
          obtain rfl := Except.ok.inj hrest
          exact k.within_program _ _ _ _ _ _

end Coroutine

end LaneGrid
