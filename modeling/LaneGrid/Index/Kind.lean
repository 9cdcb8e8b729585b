namespace LaneGrid

/-- The integer types in which indices and extents are computed. The last of each row has the
machine's own width, 64 bits. -/
inductive IndexKind where
  | u8 | u16 | u32 | u64 | word
  | i8 | i16 | i32 | i64 | signedWord
  deriving DecidableEq, Repr

/-- The largest machine word, which bounds every size and byte offset. -/
def wordMax : Nat := 18446744073709551615

namespace IndexKind

def all : List IndexKind :=
  [u8, u16, u32, u64, word, i8, i16, i32, i64, signedWord]

def name : IndexKind → String
  | u8 => "u8" | u16 => "u16" | u32 => "u32" | u64 => "u64" | word => "usize"
  | i8 => "i8" | i16 => "i16" | i32 => "i32" | i64 => "i64" | signedWord => "isize"

def bits : IndexKind → Nat
  | u8 | i8 => 8
  | u16 | i16 => 16
  | u32 | i32 => 32
  | u64 | i64 | word | signedWord => 64

def isSigned : IndexKind → Bool
  | u8 | u16 | u32 | u64 | word => false
  | i8 | i16 | i32 | i64 | signedWord => true

def least (k : IndexKind) : Int :=
  if k.isSigned then -(1 <<< (k.bits - 1) : Nat) else 0

def greatest (k : IndexKind) : Int :=
  if k.isSigned then (1 <<< (k.bits - 1) : Nat) - 1 else (1 <<< k.bits : Nat) - 1

def Holds (k : IndexKind) (v : Int) : Prop :=
  k.least ≤ v ∧ v ≤ k.greatest

instance (k : IndexKind) (v : Int) : Decidable (k.Holds v) :=
  inferInstanceAs (Decidable (_ ∧ _))

theorem least_nonpos (k : IndexKind) : k.least ≤ 0 := by
  cases k <;> decide

/-- Every type holds zero and one, so empty sums and products always exist. -/
theorem holds_zero (k : IndexKind) : k.Holds 0 := by
  cases k <;> decide

theorem holds_one (k : IndexKind) : k.Holds 1 := by
  cases k <;> decide

theorem Holds.of_le {k : IndexKind} {v w : Int} (hw : k.Holds w) (hv : 0 ≤ v) (h : v ≤ w) :
    k.Holds v :=
  ⟨Int.le_trans k.least_nonpos hv, Int.le_trans h hw.2⟩

end IndexKind

end LaneGrid
