import Mathlib.Order.Bounds.Basic
import LaneGrid.Proofs.Memory.Slices

namespace LaneGrid

namespace Layout

/-- The rows of a layout, by the offsets at which they start. Each has `length` elements of `size`
bytes, and there is one for every index of the outer axes. -/
structure Enumeration (l : Layout) (axes : List Nat) (length size : Nat) (offsets : List Nat)
    (rowBytes bytes : Nat) : Prop where
  length_eq : offsets.length = axes.prod
  /-- A row starts with the element that is the first along the last axis. -/
  start_eq : ∀ (k : Nat) (hk : k < offsets.length),
    l.byteOffset (Box.index axes k ++ [0]) = .ok offsets[k]
  increasing : offsets.Pairwise (· < ·)
  apart : ∀ (k : Nat) (hk : k + 1 < offsets.length), offsets[k] + rowBytes ≤ offsets[k + 1]
  /-- The layout has room for the last row, and no element ends behind that row. -/
  last : ∃ start, offsets.getLast? = some start ∧ start + rowBytes ≤ bytes ∧
    IsGreatest {stop | ∃ index offset, Box.Within index (axes ++ [length]) ∧
      l.byteOffset index = .ok offset ∧ offset + size = stop} (start + rowBytes)
  /-- The bytes of a row hold just the elements whose numbers are the row's. -/
  inside : ∀ (k : Nat) (hk : k < offsets.length) (index : List Nat) (n offset : Nat),
    Box.Within index (axes ++ [length]) →
    Axes.linearize wordArithmetic index (axes ++ [length]) = .ok n →
    l.byteOffset index = .ok offset →
      (offsets[k] ≤ offset ∧ offset + size ≤ offsets[k] + rowBytes ↔
        k * length ≤ n ∧ n < (k + 1) * length)
  /-- Along a row elements lie side by side, in the order of their numbers. -/
  in_order : ∀ (k : Nat) (hk : k < offsets.length) (j : Nat), j < length → ∃ index,
    Box.Within index (axes ++ [length]) ∧
      Axes.linearize wordArithmetic index (axes ++ [length]) = .ok (k * length + j) ∧
      l.byteOffset index = .ok (offsets[k] + j * size)

end Layout

namespace Rows

variable (g : Rows)

theorem pitch_pos : 0 < g.pitch :=
  Nat.lt_of_lt_of_le g.length_pos g.length_le_pitch

theorem within_row_start (k : Nat) : Box.Within (Box.index g.axes k ++ [0]) g.extent :=
  List.rel_append (Box.within_index g.axes_pos k) (.cons g.length_pos .nil)

theorem byteOffset_row_start {k : Nat} (hk : k < g.count) :
    g.layout.byteOffset (Box.index g.axes k ++ [0]) = .ok (k * g.pitch) := by
  have hlength := (Box.within_index g.axes_pos k).length_eq
  have hrow : k % g.axes.prod = k := Nat.mod_eq_of_lt hk
  have hnumber : Box.number (Box.index g.axes k ++ [0]) g.extent = k * g.length := by
    rw [extent, Box.number_append hlength, Box.number_index, hrow, Nat.add_zero]
  rw [g.layout_byteOffset (g.within_row_start k), hnumber, g.place_row]

theorem exists_index {n : Nat} (h : n < g.elements) : ∃ index, Box.Within index g.extent ∧
    Axes.linearize wordArithmetic index g.extent = .ok n ∧
      g.layout.byteOffset index = .ok (g.place n) := by
  have hwithin := Box.within_index g.extent_pos n
  have hnumber : Box.number (Box.index g.extent n) g.extent = n := by
    rw [Box.number_index, g.prod_extent, Nat.mod_eq_of_lt h]
  refine ⟨_, hwithin, ?_, ?_⟩
  · rw [g.linearize_extent hwithin, hnumber]
  · rw [g.layout_byteOffset hwithin, hnumber]

theorem row_add_lt {k j : Nat} (hk : k < g.count) (hj : j < g.length) :
    k * g.length + j < g.elements :=
  calc
    k * g.length + j < k * g.length + g.length := Nat.add_lt_add_left hj _
    _ = (k + 1) * g.length := (Nat.succ_mul k _).symm
    _ ≤ g.elements := Nat.mul_le_mul_right _ hk

theorem place_in_row_iff (k n : Nat) :
    k * g.pitch ≤ g.place n ∧ g.place n + g.size ≤ k * g.pitch + g.length * g.size ↔
      k * g.length ≤ n ∧ n < (k + 1) * g.length := by
  have hrow : k * g.length ≤ n ∧ n < (k + 1) * g.length ↔ n / g.length = k := by
    rw [Nat.div_eq_iff g.length_pos, Nat.succ_mul]
    have := g.length_pos
    omega
  rw [hrow]
  have hsize := g.size_pos
  constructor
  · rintro ⟨hlow, hhigh⟩
    rcases Nat.lt_trichotomy (n / g.length) k with hbefore | hsame | hafter
    · have hnext : (n / g.length + 1) * g.pitch ≤ k * g.pitch := Nat.mul_le_mul_right _ hbefore
      have hend := g.place_add_le_next_row n
      omega
    · exact hsame
    · have hnext : (k + 1) * g.pitch ≤ n / g.length * g.pitch := Nat.mul_le_mul_right _ hafter
      have hstart : n / g.length * g.pitch ≤ g.place n := Nat.le_add_right _ _
      have hpitch := g.row_le_pitch
      rw [Nat.succ_mul] at hnext
      omega
  · rintro rfl
    exact ⟨Nat.le_add_right _ _, g.place_add_le_row_end n⟩

theorem getLast?_starts :
    ((List.range g.count).map (· * g.pitch)).getLast? = some ((g.count - 1) * g.pitch) := by
  rw [List.getLast?_map, List.getLast?_range, if_neg (Nat.ne_of_gt g.count_pos)]
  rfl

theorem isGreatest_reach : IsGreatest {stop | ∃ index offset, Box.Within index g.extent ∧
    g.layout.byteOffset index = .ok offset ∧ offset + g.size = stop} g.reach := by
  constructor
  · have hlast : g.elements - 1 < g.elements :=
      Nat.sub_one_lt_of_lt (Nat.mul_pos g.count_pos g.length_pos)
    obtain ⟨index, hwithin, -, hoffset⟩ := g.exists_index hlast
    exact ⟨index, _, hwithin, hoffset, g.place_last⟩
  · rintro stop ⟨index, offset, hwithin, hoffset, rfl⟩
    obtain ⟨hlt, -⟩ := g.exists_place hwithin
    rw [g.place_eq_of_byteOffset hwithin hoffset]
    exact place_add_le_reach hlt

theorem enumeration : g.layout.Enumeration g.axes g.length g.size
    ((List.range g.count).map (· * g.pitch)) (g.length * g.size) (g.count * g.pitch) where
  length_eq := by simp [count]
  start_eq := by
    intro k hk
    rw [List.getElem_map, List.getElem_range]
    exact g.byteOffset_row_start (by simpa using hk)
  increasing := by
    refine List.pairwise_map.mpr (List.pairwise_lt_range.imp fun hlt => ?_)
    exact Nat.mul_lt_mul_of_pos_right hlt g.pitch_pos
  apart := by
    intro k hk
    simp only [List.getElem_map, List.getElem_range]
    rw [Nat.succ_mul]
    exact Nat.add_le_add_left g.row_le_pitch _
  last := ⟨_, g.getLast?_starts, g.reach_le_span, g.isGreatest_reach⟩
  inside := by
    intro k hk index n offset hwithin hn hoffset
    obtain rfl : Box.number index g.extent = n :=
      Except.ok.inj ((g.linearize_extent hwithin).symm.trans hn)
    rw [List.getElem_map, List.getElem_range, g.place_eq_of_byteOffset hwithin hoffset]
    exact g.place_in_row_iff k _
  in_order := by
    intro k hk j hj
    have hcount : k < g.count := by simpa using hk
    obtain ⟨index, hwithin, hn, hoffset⟩ := g.exists_index (g.row_add_lt hcount hj)
    rw [g.place_row_add k hj] at hoffset
    refine ⟨index, hwithin, hn, ?_⟩
    rw [List.getElem_map, List.getElem_range]
    exact hoffset

end Rows

namespace Layout

variable {axes : List Nat} {length size : Nat} {l : Layout}

/-- Elements without bytes are laid out along a single axis only, since no row pitch can be checked
to be a multiple of their size. -/
theorem Accepted.of_unsized (h : Accepted (axes ++ [length]) 0 l) :
    axes = [] ∧ l = ⟨[length], [0]⟩ := by
  obtain ⟨rowPitch, h⟩ := h.exists_withRowPitch
  have hpayload : rowPayload? (axes ++ [length]) 0 = some 0 :=
    rowPayload?_append.mpr ⟨Nat.zero_le _, rfl⟩
  have hrem : wordArithmetic.rem rowPitch 0 = .error .remByZero := rfl
  rcases axes with _ | ⟨e, axes⟩
  · have hspan : spannedPitches? [length] 0 rowPitch = some [0] := by
      have hproduct : wordProduct? 0 length = some 0 := by
        rw [wordProduct?_eq_some, Nat.zero_mul]
        exact ⟨Nat.zero_le _, rfl⟩
      simp [spannedPitches?, pitches?, hproduct]
    rw [withRowPitch, hpayload, List.nil_append, hspan] at h
    cases h
    exact ⟨rfl, rfl⟩
  · rw [withRowPitch, hpayload] at h
    have hrank : 2 ≤ (e :: axes ++ [length]).length := by simp
    simp only [hrem, lift_fault, error_bind, if_pos hrank, if_neg (Nat.not_lt_zero _)] at h
    cases h

theorem exists_of_within_singleton {index : List Nat} {n : Nat} (h : Box.Within index [n]) :
    ∃ i, index = [i] ∧ i < n := by
  rcases h with _ | ⟨hlt, hrest⟩
  cases hrest
  exact ⟨_, rfl, hlt⟩

theorem byteOffset_unsized (n i : Nat) : byteOffset ⟨[n], [0]⟩ [i] = .ok 0 := by
  simp [byteOffset, word_mul, word_add]

section

variable {n : Nat} (hpos : 0 < n) (hword : n ≤ wordMax)

include hpos hword

theorem rowOffsets_unsized : rowOffsets ⟨[n], [0]⟩ = .ok [0] := by
  have hextent : ∀ e ∈ [n], 0 < e := by simpa using hpos
  have hlength : Layout.length ⟨[n], [0]⟩ = .ok n :=
    (Box.product_eq_ok hextent (by simpa using hword)).trans (by rw [List.prod_singleton])
  have hcount : rowCount ⟨[n], [0]⟩ = .ok 1 := by
    rw [rowCount, hlength, ok_bind]
    exact (if_neg (Nat.ne_of_gt hpos)).trans
      ((word_div (Nat.ne_of_gt hpos)).trans (by rw [Nat.div_self hpos]))
  have hfirst : rowOffset ⟨[n], [0]⟩ 0 = .ok 0 := by
    rw [rowOffset, word_mul (by simp), ok_bind, Box.delinearize_eq_ok hextent, ok_bind]
    exact byteOffset_unsized n _
  rw [rowOffsets, hcount, ok_bind]
  exact mapM_eq_ok (g := fun _ => 0) fun r hr => by
    obtain rfl := Nat.lt_one_iff.mp (List.mem_range.mp hr)
    exact hfirst

theorem enumeration_unsized : Enumeration ⟨[n], [0]⟩ [] n 0 [0] 0 0 where
  length_eq := rfl
  start_eq := by
    intro k hk
    obtain rfl : k = 0 := Nat.lt_one_iff.mp hk
    exact byteOffset_unsized n 0
  increasing := List.pairwise_singleton _ _
  apart := by
    intro k hk
    exact absurd hk (Nat.not_lt.mpr (Nat.le_add_left 1 k))
  last := by
    refine ⟨0, rfl, Nat.le_refl 0, ⟨[0], 0, .cons hpos .nil, byteOffset_unsized n 0, rfl⟩, ?_⟩
    rintro stop ⟨index, offset, hwithin, hoffset, rfl⟩
    obtain ⟨i, rfl, -⟩ := exists_of_within_singleton hwithin
    exact Nat.le_of_eq (Except.ok.inj (hoffset.symm.trans (byteOffset_unsized n i)))
  inside := by
    intro k hk index m offset hwithin hm hoffset
    obtain rfl : k = 0 := Nat.lt_one_iff.mp hk
    obtain ⟨rfl, -⟩ := (Box.linearize_eq_ok_iff hwithin).mp hm
    have hlt := Box.number_lt_prod hwithin
    rw [List.nil_append, List.prod_singleton] at hlt
    obtain ⟨i, rfl, -⟩ := exists_of_within_singleton hwithin
    obtain rfl := Except.ok.inj (hoffset.symm.trans (byteOffset_unsized n i))
    simpa using hlt
  in_order := by
    intro k hk j hj
    obtain rfl : k = 0 := Nat.lt_one_iff.mp hk
    have hwithin : Box.Within [j] [n] := .cons hj .nil
    refine ⟨[j], hwithin, ?_, byteOffset_unsized n j⟩
    rw [List.nil_append, Box.linearize_eq_ok hwithin (by simpa using hword)]
    simp [Box.number]

end

/-- The rows of an accepted layout whose axes are machine words and not empty. There is one offset
for every index of the outer axes, that of the row's first element; the offsets increase by at least
the bytes of a row. The last row ends within the layout, just where the element ends that reaches
furthest. A row has the elements whose row-major numbers are its own, side by side in the order of
these numbers. -/
theorem rows_of_accepted (h : Accepted (axes ++ [length]) size l)
    (haxes : ∀ e ∈ axes ++ [length], 0 < e ∧ e ≤ wordMax) :
    ∃ offsets rowBytes bytes, l.rowOffsets = .ok offsets ∧ l.rowBytes = .ok rowBytes ∧
      l.sizeBytes = .ok bytes ∧ l.Enumeration axes length size offsets rowBytes bytes := by
  rcases Nat.eq_zero_or_pos size with rfl | hsize
  · obtain ⟨rfl, rfl⟩ := h.of_unsized
    obtain ⟨hpos, hword⟩ := haxes length (by simp)
    refine ⟨[0], 0, 0, rowOffsets_unsized hpos hword, ?_, ?_, enumeration_unsized hpos hword⟩
    · exact word_mul (Nat.zero_le _)
    · exact word_mul_eq_ok.mpr ⟨(Nat.zero_mul length).symm ▸ Nat.zero_le _, Nat.zero_mul length⟩
  · obtain ⟨g, rfl, hextent, rfl⟩ := h.exists_rows (fun e he => (haxes e he).1) hsize
    obtain ⟨rfl, hlength⟩ := List.append_inj' hextent rfl
    obtain rfl : g.length = length := by simpa using hlength
    exact ⟨_, _, _, g.layout_rowOffsets, g.layout_rowBytes, g.layout_sizeBytes, g.enumeration⟩

/-- Two planes of three rows, each of five 4-byte elements padded to 32 bytes. -/
theorem rows_of_two_planes :
    byteOffset ⟨[2, 3, 5], [96, 32, 4]⟩ [1, 2, 0] = .ok 160 ∧
      IsGreatest {stop | ∃ index offset, Box.Within index [2, 3, 5] ∧
        byteOffset ⟨[2, 3, 5], [96, 32, 4]⟩ index = .ok offset ∧ offset + 4 = stop} 180 := by
  have hpitched : pitched ([2, 3] ++ [5]) 4 32 = .ok ⟨[2, 3, 5], [96, 32, 4]⟩ := rfl
  obtain ⟨offsets, rowBytes, bytes, hoffsets, hrow, -, hrows⟩ :=
    rows_of_accepted (.aligned hpitched) (by decide)
  obtain rfl : [0, 32, 64, 96, 128, 160] = offsets := Except.ok.inj hoffsets
  obtain rfl : 20 = rowBytes := Except.ok.inj hrow
  obtain ⟨start, hstart, -, hgreatest⟩ := hrows.last
  obtain rfl : 160 = start := Option.some.inj hstart
  exact ⟨hrows.start_eq 5 (by decide), hgreatest⟩

end Layout

end LaneGrid
