import LaneGrid.Error

/-!
The account of the memory of one device. Reserving and releasing are made of smaller steps, each
of which is indivisible, so several clients may work on one account at the same time.
-/

namespace LaneGrid

structure Ledger where
  device : String
  capacity : Nat
  used : Nat
  live : Nat
  deriving DecidableEq, Repr

namespace Ledger

def empty (device : String) (capacity : Nat) : Ledger :=
  ⟨device, capacity, 0, 0⟩

def available (l : Ledger) : Nat :=
  l.capacity - l.used

/-- Takes bytes from the capacity, or refuses and leaves the account alone. -/
def claim (l : Ledger) (bytes : Nat) : Except Error Ledger :=
  if l.used + bytes ≤ wordMax ∧ l.used + bytes ≤ l.capacity then
    .ok { l with used := l.used + bytes }
  else .error (.outOfMemory l.device bytes l.available)

def countUp (l : Ledger) : Ledger :=
  { l with live := l.live + 1 }

def refund (l : Ledger) (bytes : Nat) : Ledger :=
  { l with used := l.used - bytes }

def countDown (l : Ledger) : Ledger :=
  { l with live := l.live - 1 }

def reserve (l : Ledger) (bytes : Nat) : Except Error Ledger :=
  countUp <$> l.claim bytes

def release (l : Ledger) (bytes : Nat) : Ledger :=
  (l.refund bytes).countDown

theorem release_reserve {l m : Ledger} {bytes : Nat} (h : l.reserve bytes = .ok m) :
    m.release bytes = l := by
  unfold reserve claim at h
  split at h
  · cases h
    simp [release, refund, countDown, countUp]
  · cases h

end Ledger

end LaneGrid
