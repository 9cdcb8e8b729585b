import Mathlib.Algebra.Order.Floor.Div
import Mathlib.GroupTheory.GroupAction.Ring
import LaneGrid.Axes
import LaneGrid.Memory.Layout
import LaneGrid.Proofs.Outcome

namespace LaneGrid

theorem lt_ceilDiv_iff {a b x : Nat} (hb : 0 < b) : x < a ⌈/⌉ b ↔ x * b < a := by
  rw [Nat.mul_comm]
  exact lt_iff_lt_of_le_iff_le (ceilDiv_le_iff_le_mul hb)

theorem le_ceilDiv_mul {b : Nat} (hb : 0 < b) (a : Nat) : a ≤ a ⌈/⌉ b * b := by
  rw [Nat.mul_comm]
  exact (ceilDiv_le_iff_le_mul hb).mp (Nat.le_refl _)

theorem ceilDiv_pos {a b : Nat} (ha : 0 < a) (hb : 0 < b) : 0 < a ⌈/⌉ b := by
  rwa [lt_ceilDiv_iff hb, Nat.zero_mul]

theorem ceilDiv_le_self {b : Nat} (hb : 0 < b) (a : Nat) : a ⌈/⌉ b ≤ a :=
  (ceilDiv_le_iff_le_mul hb).mpr (Nat.le_mul_of_pos_left a hb)

theorem ceilDiv_mul_lt {b : Nat} (hb : 0 < b) (a : Nat) : a ⌈/⌉ b * b < a + b := by
  rw [Nat.ceilDiv_eq_add_pred_div]
  have hdiv := Nat.div_mul_le_self (a + b - 1) b
  omega

theorem ceilDiv_eq_ite {b : Nat} (hb : 0 < b) (a : Nat) :
    a ⌈/⌉ b = if a % b = 0 then a / b else a / b + 1 := by
  have hdiv := Nat.div_add_mod' a b
  have hmod := Nat.mod_lt a hb
  split
  · rename_i hzero
    apply Nat.le_antisymm
    · exact (ceilDiv_le_iff_le_mul hb).mpr (by rw [Nat.mul_comm]; omega)
    · exact Nat.le_of_mul_le_mul_right (by have := le_ceilDiv_mul hb a; omega) hb
  · apply Nat.le_antisymm
    · exact (ceilDiv_le_iff_le_mul hb).mpr (by rw [Nat.mul_comm, Nat.succ_mul]; omega)
    · exact (lt_ceilDiv_iff hb).mpr (by omega)

theorem Axes.ceilDiv_eq_ok {a b : Nat} (ha : a ≤ wordMax) (hb : 0 < b) :
    Axes.ceilDiv wordArithmetic a b = .ok (a ⌈/⌉ b) := by
  have hfits := Nat.le_trans (ceilDiv_le_self hb a) ha
  rw [ceilDiv_eq_ite hb] at hfits ⊢
  rw [Axes.ceilDiv, word_div (Nat.ne_of_gt hb), ok_bind, word_rem (Nat.ne_of_gt hb), ok_bind]
  change (if a % b = 0 then pure (a / b) else wordArithmetic.add (a / b) 1) = _
  by_cases hzero : a % b = 0
  · rw [if_pos hzero, if_pos hzero]
    rfl
  · rw [if_neg hzero] at hfits ⊢
    rw [if_neg hzero]
    exact word_add hfits

theorem nextMultiple?_eq {n step : Nat} (hn : n ≤ wordMax) (hstep : 0 < step) :
    nextMultiple? n step =
      if n ⌈/⌉ step * step ≤ wordMax then some (n ⌈/⌉ step * step) else none := by
  have hdiv := Nat.div_add_mod' n step
  have hmod := Nat.mod_lt n hstep
  rw [nextMultiple?, ceilDiv_eq_ite hstep]
  by_cases hzero : n % step = 0
  · have hexact : n / step * step = n := by omega
    rw [if_pos hzero, if_pos hzero, hexact, if_pos hn]
  · have hround : n + (step - n % step) = (n / step + 1) * step := by
      rw [Nat.succ_mul]
      omega
    rw [if_neg hzero, if_neg hzero, hround, keepWord]
    split <;> rfl

end LaneGrid
