import LaneGrid.Fault

namespace LaneGrid

/-- The operations of a bounded number type. Each gives the exact result, or the fault of
leaving the type. -/
structure Arithmetic (α : Type) where
  zero : α
  one : α
  add : α → α → Except Fault α
  sub : α → α → Except Fault α
  mul : α → α → Except Fault α
  div : α → α → Except Fault α
  rem : α → α → Except Fault α

def IndexKind.keep (k : IndexKind) (fault : Fault) (v : Int) : Except Fault Int :=
  if k.Holds v then .ok v else .error fault

/-- Arithmetic of an index type. Division truncates toward zero; only the least value
divided by minus one leaves the type. -/
def IndexKind.arithmetic (k : IndexKind) : Arithmetic Int where
  zero := 0
  one := 1
  add a b := k.keep .addOverflow (a + b)
  sub a b := k.keep .subOverflow (a - b)
  mul a b := k.keep .mulOverflow (a * b)
  div a b := if b = 0 then .error .divByZero else k.keep .divOverflow (a.tdiv b)
  rem a b :=
    if b = 0 then .error .remByZero
    else if k.Holds (a.tdiv b) then .ok (a.tmod b)
    else .error .remOverflow

def keepWord (fault : Fault) (n : Nat) : Except Fault Nat :=
  if n ≤ wordMax then .ok n else .error fault

def wordArithmetic : Arithmetic Nat where
  zero := 0
  one := 1
  add a b := keepWord .addOverflow (a + b)
  sub a b := if b ≤ a then .ok (a - b) else .error .subOverflow
  mul a b := keepWord .mulOverflow (a * b)
  div a b := if b = 0 then .error .divByZero else .ok (a / b)
  rem a b := if b = 0 then .error .remByZero else .ok (a % b)

theorem keepWord_eq_ok {fault : Fault} {n m : Nat} :
    keepWord fault n = .ok m ↔ n ≤ wordMax ∧ n = m := by
  unfold keepWord
  split
  · rename_i h
    simp [h]
  · rename_i h
    exact ⟨nofun, fun hn => absurd hn.1 h⟩

theorem IndexKind.keep_eq_ok {k : IndexKind} {fault : Fault} {v w : Int} :
    k.keep fault v = .ok w ↔ k.Holds v ∧ v = w := by
  unfold IndexKind.keep
  split <;> simp_all

end LaneGrid
