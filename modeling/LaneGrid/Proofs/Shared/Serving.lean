import LaneGrid.Proofs.Rounding
import LaneGrid.Proofs.Shared.Reservation

namespace LaneGrid

namespace Arena

/-- The next place for elements of a kind when so many bytes are reserved. -/
def aligned (k : ElementKind) (top : Nat) : Nat :=
  top ⌈/⌉ k.size * k.size

/-- The byte behind so many elements at that place. -/
def alignedEnd (k : ElementKind) (top length : Nat) : Nat :=
  aligned k top + length * k.size

theorem le_alignedEnd (k : ElementKind) (top length : Nat) : top ≤ alignedEnd k top length :=
  Nat.le_trans (le_ceilDiv_mul k.size_pos top) (Nat.le_add_right _ _)

/-- A request is refused exactly if the elements would end behind the arena. Ends behind the
machine word are reported as the largest word. -/
theorem bump_eq {capacity top : Nat} (htop : top ≤ capacity) (hcapacity : capacity ≤ wordMax)
    (k : ElementKind) (length : Nat) :
    bump capacity k top length =
      if alignedEnd k top length ≤ capacity then .ok (aligned k top, alignedEnd k top length)
      else .error ⟨min (alignedEnd k top length) wordMax, capacity⟩ := by
  have hnext := nextMultiple?_eq (Nat.le_trans htop hcapacity) k.size_pos
  have hend : alignedEnd k top length = top ⌈/⌉ k.size * k.size + length * k.size := rfl
  rw [bump]
  by_cases hstart : top ⌈/⌉ k.size * k.size ≤ wordMax
  · simp only [hnext, if_pos hstart, keepWord, ← hend]
    by_cases hword : alignedEnd k top length ≤ wordMax
    · rw [if_pos hword, Nat.min_eq_left hword]
      by_cases hfits : alignedEnd k top length ≤ capacity
      · rw [if_pos hfits]
        exact if_neg (Nat.not_lt_of_le hfits)
      · rw [if_neg hfits]
        exact if_pos (Nat.lt_of_not_le hfits)
    · rw [if_neg hword, if_neg (by omega), Nat.min_eq_right (by omega)]
      rfl
  · simp only [hnext, if_neg hstart]
    rw [if_neg (by omega), Nat.min_eq_right (by omega)]

/-- So the requests are answered, one after the other, when `top` bytes are reserved, and so many
bytes are reserved in the end. -/
inductive Serving (capacity : Nat) :
    Nat → List (ElementKind × Nat) → List (Except Error SharedSlice) → Nat → Prop
  | nil {top} : Serving capacity top [] [] top
  | given {top k length requests answers last} (hfits : alignedEnd k top length ≤ capacity)
      (hrest : Serving capacity (alignedEnd k top length) requests answers last) :
      Serving capacity top ((k, length) :: requests)
        (.ok ⟨k, aligned k top, length⟩ :: answers) last
  | refused {top k length requests answers last} (hexcess : capacity < alignedEnd k top length)
      (hrest : Serving capacity top requests answers last) :
      Serving capacity top ((k, length) :: requests)
        (.error (.sharedMemoryExceeded (min (alignedEnd k top length) wordMax) capacity) :: answers)
        last

namespace Serving

variable {capacity top last : Nat} {requests : List (ElementKind × Nat)}
  {answers : List (Except Error SharedSlice)}

theorem top_le (h : Serving capacity top requests answers last) : top ≤ last := by
  induction h with
  | nil => exact Nat.le_refl _
  | given _ _ ih => exact Nat.le_trans (le_alignedEnd _ _ _) ih
  | refused _ _ ih => exact ih

theorem eraseIdx (h : Serving capacity top requests answers last) {i : Nat} {e : Error}
    (hi : answers[i]? = some (.error e)) :
    Serving capacity top (requests.eraseIdx i) (answers.eraseIdx i) last := by
  induction h generalizing i with
  | nil => cases hi
  | given hfits _ ih =>
      cases i with
      | zero => cases hi
      | succ i => exact .given hfits (ih hi)
  | refused hexcess hrest ih =>
      cases i with
      | zero => exact hrest
      | succ i => exact .refused hexcess (ih hi)

end Serving

theorem serving_serve {capacity top : Nat} (htop : top ≤ capacity) (hcapacity : capacity ≤ wordMax)
    (requests : List (ElementKind × Nat)) :
    Serving capacity top requests (serve capacity top requests).1
      (serve capacity top requests).2 := by
  induction requests generalizing top with
  | nil => exact .nil
  | cons q requests ih =>
      obtain ⟨k, length⟩ := q
      have hbump := bump_eq htop hcapacity k length
      by_cases hfits : alignedEnd k top length ≤ capacity
      · rw [if_pos hfits] at hbump
        rw [serve, grow, answer, hbump]
        exact .given hfits (ih hfits)
      · rw [if_neg hfits] at hbump
        rw [serve_cons_of_error hbump]
        exact .refused (Nat.lt_of_not_le hfits) (ih htop)

theorem exists_reservations (capacity : Nat) (requests : List (ElementKind × Nat)) :
    ∃ answers, (serve capacity 0 requests).1 = answers.map Answer.slice ∧
      Reservations capacity (serve capacity 0 requests).2 answers := by
  induction requests using List.reverseRecOn with
  | nil => exact ⟨[], rfl, .nil capacity⟩
  | append_singleton requests q ih =>
      obtain ⟨answers, hslices, hreservations⟩ := ih
      obtain ⟨k, length⟩ := q
      rw [serve_append]
      refine ⟨_, ?_, hreservations.concat k length⟩
      rw [List.map_append, hslices]
      rfl

end Arena

end LaneGrid
