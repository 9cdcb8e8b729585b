import LaneGrid.Memory.Layout
import LaneGrid.Proofs.Box.Checked

/-!
Every layout without empty axes is a sequence of rows at a fixed distance. The outer axes only
number the rows, so an address is found by dividing an element's row-major number by the length
of a row.
-/

namespace LaneGrid

/-- Rows of `length` elements of `size` bytes, each row `pitch` bytes after the one before, and
as many of them as the outer axes have indices. -/
structure Rows where
  axes : List Nat
  length : Nat
  size : Nat
  pitch : Nat
  axes_pos : ∀ e ∈ axes, 0 < e
  length_pos : 0 < length
  size_pos : 0 < size
  row_le_pitch : length * size ≤ pitch
  size_dvd_pitch : size ∣ pitch
  span_le : axes.prod * pitch ≤ wordMax
  /-- A box of one axis has a single row, to which no padding belongs. -/
  single : axes = [] → pitch = length * size

/-- Byte pitches of the outer axes, when rows lie `pitch` bytes apart. -/
def rowPitches (pitch : Nat) : List Nat → List Nat
  | [] => []
  | _ :: axes => pitch * axes.prod :: rowPitches pitch axes

namespace Rows

variable (g : Rows)

def extent : List Nat :=
  g.axes ++ [g.length]

def layout : Layout :=
  ⟨g.extent, rowPitches g.pitch g.axes ++ [g.size]⟩

def count : Nat :=
  g.axes.prod

def elements : Nat :=
  g.count * g.length

/-- Byte offset of the element with a given row-major number. -/
def place (n : Nat) : Nat :=
  n / g.length * g.pitch + n % g.length * g.size

theorem count_pos : 0 < g.count :=
  List.prod_pos_iff_forall_pos_nat.mpr g.axes_pos

theorem prod_extent : g.extent.prod = g.elements := by
  rw [extent, List.prod_append, List.prod_singleton]
  rfl

theorem extent_pos : ∀ e ∈ g.extent, 0 < e := by
  intro e he
  rcases List.mem_append.mp he with he | he
  · exact g.axes_pos e he
  · rw [List.mem_singleton.mp he]
    exact g.length_pos

theorem length_le_pitch : g.length ≤ g.pitch :=
  Nat.le_trans (Nat.le_mul_of_pos_right _ g.size_pos) g.row_le_pitch

theorem pitch_le_span : g.pitch ≤ g.count * g.pitch :=
  Nat.le_mul_of_pos_left _ g.count_pos

theorem elements_le : g.elements ≤ wordMax :=
  calc
    g.count * g.length ≤ g.count * g.pitch := Nat.mul_le_mul_left _ g.length_le_pitch
    _ ≤ wordMax := g.span_le

theorem row_lt_count {n : Nat} (h : n < g.elements) : n / g.length < g.count :=
  Nat.div_lt_of_lt_mul (by rwa [Nat.mul_comm])

theorem place_row (r : Nat) : g.place (r * g.length) = r * g.pitch := by
  rw [place, Nat.mul_div_cancel _ g.length_pos, Nat.mul_mod_left, Nat.zero_mul, Nat.add_zero]

theorem place_row_add (r : Nat) {j : Nat} (h : j < g.length) :
    g.place (r * g.length + j) = r * g.pitch + j * g.size := by
  rw [place, Box.mul_add_div_of_lt h, Box.mul_add_mod_of_lt h]

theorem place_add_le_row_end (n : Nat) :
    g.place n + g.size ≤ n / g.length * g.pitch + g.length * g.size := by
  have hcolumn : n % g.length + 1 ≤ g.length := Nat.mod_lt n g.length_pos
  have hend : (n % g.length + 1) * g.size ≤ g.length * g.size := Nat.mul_le_mul_right _ hcolumn
  rw [Nat.succ_mul] at hend
  rw [place]
  omega

theorem place_add_le_next_row (n : Nat) :
    g.place n + g.size ≤ (n / g.length + 1) * g.pitch := by
  have hend := g.place_add_le_row_end n
  have hrow := g.row_le_pitch
  rw [Nat.succ_mul]
  omega

theorem place_add_le {n m : Nat} (h : n < m) : g.place n + g.size ≤ g.place m := by
  rcases Nat.lt_or_eq_of_le (Nat.div_le_div_right (c := g.length) (Nat.le_of_lt h)) with hrow | hrow
  · calc
      g.place n + g.size ≤ (n / g.length + 1) * g.pitch := g.place_add_le_next_row n
      _ ≤ m / g.length * g.pitch := Nat.mul_le_mul_right _ hrow
      _ ≤ g.place m := Nat.le_add_right _ _
  · have hn := Nat.div_add_mod n g.length
    have hm := Nat.div_add_mod m g.length
    have hcolumn : n % g.length + 1 ≤ m % g.length := by
      rw [hrow] at hn
      omega
    have hstep : (n % g.length + 1) * g.size ≤ m % g.length * g.size :=
      Nat.mul_le_mul_right _ hcolumn
    rw [Nat.succ_mul] at hstep
    rw [place, place, hrow]
    omega

theorem place_add_le_span {n : Nat} (h : n < g.elements) :
    g.place n + g.size ≤ g.count * g.pitch :=
  Nat.le_trans (g.place_add_le_next_row n) (Nat.mul_le_mul_right _ (g.row_lt_count h))

theorem place_le {n : Nat} (h : n < g.elements) : g.place n ≤ wordMax := by
  have hspan := g.place_add_le_span h
  have hmax := g.span_le
  rw [count] at hspan
  omega

theorem size_dvd_place (n : Nat) : g.size ∣ g.place n :=
  Nat.dvd_add (Nat.dvd_mul_left_of_dvd g.size_dvd_pitch _) (Nat.dvd_mul_left _ _)

theorem place_apart {n m : Nat} (h : n ≠ m) :
    g.place n + g.size ≤ g.place m ∨ g.place m + g.size ≤ g.place n :=
  (Nat.lt_or_gt_of_ne h).imp g.place_add_le g.place_add_le

theorem place_lt {n m : Nat} (h : n < m) : g.place n < g.place m :=
  Nat.lt_of_lt_of_le (Nat.lt_add_of_pos_right g.size_pos) (g.place_add_le h)

theorem dense_iff_span : g.pitch = g.length * g.size ↔ g.count * g.pitch = g.size * g.elements := by
  have hfull : g.size * g.elements = g.count * (g.length * g.size) := by
    rw [elements, Nat.mul_comm, Nat.mul_assoc]
  rw [hfull]
  exact (Nat.mul_right_inj (Nat.ne_of_gt g.count_pos)).symm

theorem place_of_dense (h : g.pitch = g.length * g.size) (n : Nat) : g.place n = n * g.size := by
  rw [place, h, ← Nat.mul_assoc, ← Nat.add_mul, Nat.mul_comm (n / g.length), Nat.div_add_mod]

end Rows

end LaneGrid
