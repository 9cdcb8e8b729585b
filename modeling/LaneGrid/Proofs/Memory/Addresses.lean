import LaneGrid.Proofs.Memory.RowLayout

namespace LaneGrid

namespace Rows

variable (g : Rows)

theorem exists_place {index : List Nat} (h : Box.Within index g.extent) :
    Box.number index g.extent < g.elements ∧
      g.layout.byteOffset index = .ok (g.place (Box.number index g.extent)) :=
  ⟨g.prod_extent ▸ Box.number_lt_prod h, g.layout_byteOffset h⟩

theorem place_eq_of_byteOffset {index : List Nat} {offset : Nat} (h : Box.Within index g.extent)
    (ho : g.layout.byteOffset index = .ok offset) :
    offset = g.place (Box.number index g.extent) :=
  Except.ok.inj (ho.symm.trans (g.layout_byteOffset h))

theorem linearize_extent {index : List Nat} (h : Box.Within index g.extent) :
    Axes.linearize wordArithmetic index g.extent = .ok (Box.number index g.extent) :=
  Box.linearize_eq_ok h (g.prod_extent ▸ g.elements_le)

end Rows

namespace Layout

/-- The ways in which a layout of elements of `size` bytes is made. -/
inductive Accepted (extent : List Nat) (size : Nat) (l : Layout) : Prop where
  | dense (h : contiguous extent size = .ok l)
  | aligned {alignment : Nat} (h : pitched extent size alignment = .ok l)
  | spaced {rowPitch : Nat} (h : withRowPitch extent size rowPitch = .ok l)

theorem Accepted.exists_rows {extent : List Nat} {size : Nat} {l : Layout}
    (h : Accepted extent size l) (hpos : ∀ e ∈ extent, 0 < e) (hsize : 0 < size) :
    ∃ g : Rows, g.layout = l ∧ g.extent = extent ∧ g.size = size := by
  rcases h with h | h | h
  · exact exists_rows_of_pitched hpos hsize h
  · exact exists_rows_of_pitched hpos hsize h
  · obtain ⟨g, hl, hextent, hg, -⟩ := exists_rows_of_withRowPitch hpos hsize h
    exact ⟨g, hl, hextent, hg⟩

/-- Addresses of an accepted layout are sound. The offset of every index inside the extent is
computed without a fault, is a multiple of the element size, and its element ends within the
span. Elements of different indices share no byte, and offsets increase in row-major order. A
layout without empty axes is contiguous exactly when its span is the size of its elements, and
then an offset is the index's row-major number, scaled by the size of an element. -/
theorem addresses_of_accepted {extent : List Nat} {size : Nat} {l : Layout} (hsize : 0 < size)
    (h : Accepted extent size l) :
    (∀ index, Box.Within index extent → ∃ offset bytes,
      l.byteOffset index = .ok offset ∧ l.sizeBytes = .ok bytes ∧
        size ∣ offset ∧ offset + size ≤ bytes) ∧
    (∀ i j oi oj, Box.Within i extent → Box.Within j extent →
      l.byteOffset i = .ok oi → l.byteOffset j = .ok oj →
        (i ≠ j → oi + size ≤ oj ∨ oj + size ≤ oi) ∧ (i < j → oi < oj)) ∧
    ((∀ e ∈ extent, e ≠ 0) → ∃ contiguous bytes,
      l.isContiguous = .ok contiguous ∧ l.sizeBytes = .ok bytes ∧
        (contiguous = true ↔ bytes = size * extent.prod) ∧
        (contiguous = true → ∀ index, Box.Within index extent → ∃ n,
          Axes.linearize wordArithmetic index extent = .ok n ∧
            l.byteOffset index = .ok (size * n))) := by
  refine ⟨?_, ?_, ?_⟩
  · intro index hin
    obtain ⟨g, rfl, rfl, rfl⟩ := h.exists_rows (Box.pos_of_within hin) hsize
    obtain ⟨hlt, hoffset⟩ := g.exists_place hin
    exact ⟨_, _, hoffset, g.layout_sizeBytes, g.size_dvd_place _, g.place_add_le_span hlt⟩
  · intro i j oi oj hi hj hoi hoj
    obtain ⟨g, rfl, rfl, rfl⟩ := h.exists_rows (Box.pos_of_within hi) hsize
    rw [g.place_eq_of_byteOffset hi hoi, g.place_eq_of_byteOffset hj hoj]
    constructor
    · intro hne
      apply g.place_apart
      intro heq
      exact hne (Box.number_injective hi hj heq)
    · intro hlt
      exact g.place_lt (Box.number_lt_number hi hj hlt)
  · intro hne
    have hpos : ∀ e ∈ extent, 0 < e := fun e he => Nat.pos_of_ne_zero (hne e he)
    obtain ⟨g, rfl, rfl, rfl⟩ := h.exists_rows hpos hsize
    refine ⟨_, _, g.layout_isContiguous, g.layout_sizeBytes, ?_, ?_⟩
    · rw [decide_eq_true_iff, g.prod_extent]
      exact g.dense_iff_span
    · intro hdense index hin
      refine ⟨_, g.linearize_extent hin, ?_⟩
      rw [g.layout_byteOffset hin, g.place_of_dense (of_decide_eq_true hdense), Nat.mul_comm]

/-- Rows of five 4-byte elements, once padded to 32 bytes and once dense. -/
theorem addresses_of_three_rows :
    (∀ index, Box.Within index [3, 5] → ∃ offset bytes,
      byteOffset ⟨[3, 5], [32, 4]⟩ index = .ok offset ∧ sizeBytes ⟨[3, 5], [32, 4]⟩ = .ok bytes ∧
        4 ∣ offset ∧ offset + 4 ≤ bytes) ∧
    ∀ index, Box.Within index [3, 5] → ∃ n,
      Axes.linearize wordArithmetic index [3, 5] = .ok n ∧
        byteOffset ⟨[3, 5], [20, 4]⟩ index = .ok (4 * n) := by
  have hpadded : pitched [3, 5] 4 32 = .ok ⟨[3, 5], [32, 4]⟩ := rfl
  have hdense : contiguous [3, 5] 4 = .ok ⟨[3, 5], [20, 4]⟩ := rfl
  refine ⟨(addresses_of_accepted (by decide) (.aligned hpadded)).1, ?_⟩
  obtain ⟨dense, bytes, hcontiguous, -, -, haddress⟩ :=
    (addresses_of_accepted (by decide) (.dense hdense)).2.2 (by decide)
  exact haddress (Except.ok.inj (hcontiguous.symm.trans rfl))

end Layout

end LaneGrid
