import LaneGrid.Proofs.Memory.Scatter

namespace LaneGrid

/-- Whether a byte belongs to some element; all others are padding or lie outside. -/
def Region.Holds (r : Region) (i : Nat) : Prop :=
  ∃ index offset, Box.Within index r.layout.extent ∧ r.layout.byteOffset index = .ok offset ∧
    offset ≤ i ∧ i < offset + r.kind.size

namespace Rows

variable {g : Rows} {k : ElementKind}

abbrev region (g : Rows) (k : ElementKind) : Region :=
  ⟨k, g.layout⟩

theorem outside_of_not_holds {i : Nat} (h : ¬ (g.region k).Holds i) {n : Nat}
    (hn : n < g.elements) : i < g.place n ∨ g.place n + k.size ≤ i := by
  have hwithin := Box.within_index g.extent_pos n
  have hnumber : Box.number (Box.index g.extent n) g.extent = n := by
    rw [Box.number_index, g.prod_extent, Nat.mod_eq_of_lt hn]
  have hoffset := g.layout_byteOffset hwithin
  rw [hnumber] at hoffset
  by_contra hin
  rw [not_or] at hin
  exact h ⟨_, _, hwithin, hoffset, Nat.le_of_not_lt hin.1, Nat.lt_of_not_le hin.2⟩

variable (hk : g.size = k.size)

include hk

theorem separate {n m : Nat} (h : n < m) : g.place n + k.size ≤ g.place m :=
  hk ▸ g.place_add_le h

omit hk in
theorem get_scatter_of_not_holds {i : Nat} (h : ¬ (g.region k).Holds i) {xs : List (Element k)}
    (hxs : xs.length ≤ g.elements) (b : Bytes) :
    (b.scatter g.place 0 xs).get i = b.get i := by
  apply Bytes.get_scatter_of_outside
  intro j hj
  rw [Nat.zero_add]
  exact outside_of_not_holds h (Nat.lt_of_lt_of_le hj hxs)

theorem contents_scatter {xs : List (Element k)} (h : xs.length = g.elements) (b : Bytes) :
    g.contents k (b.scatter g.place 0 xs) = xs := by
  rw [contents, ← h]
  exact Bytes.map_load_scatter (separate hk) b xs

theorem contents_store (b : Bytes) (n : Nat) (x : Element k) :
    g.contents k (b.store (g.place n) x) = (g.contents k b).set n x :=
  Bytes.map_load_store (separate hk) g.elements x

theorem toList_region (b : Bytes) : (g.region k).toList b = .ok (g.contents k b) := by
  simp only [Region.toList, layout_length, ok_bind, layout_rowOffsets, layout_rowLength,
    flatMap_loadAll hk]
  rfl

theorem copyIn_region (xs : List (Element k)) (b : Bytes) :
    (g.region k).copyIn xs b =
      if xs.length = g.elements then .ok (b.scatter g.place 0 xs)
      else .error (.error (.extentMismatch (.elements g.elements) (.elements xs.length))) := by
  simp only [Region.copyIn, layout_length, lift_ok, ok_bind, layout_rowOffsets,
    layout_rowLength]
  by_cases hlength : xs.length = g.elements
  · have hrows : xs.length = g.count * g.length := hlength
    have hstored := storeRows_eq_scatter hk b 0 hrows
    rw [Nat.zero_mul, ← List.range_eq_range'] at hstored
    rw [if_neg (not_not_intro hlength), if_pos hlength, hstored]
    rfl
  · rw [if_pos hlength, if_neg hlength]
    rfl

theorem fill_region (x : Element k) (b : Bytes) :
    (g.region k).fill x b = .ok (b.scatter g.place 0 (List.replicate g.elements x)) := by
  have hlength : (List.replicate g.elements x).length = g.count * g.length :=
    List.length_replicate
  have hrows := storeRows_eq_scatter hk b 0 hlength
  rw [Nat.zero_mul, ← List.range_eq_range'] at hrows
  simp only [Region.fill, layout_rowOffsets, ok_bind, layout_rowLength,
    foldl_storeAll_replicate, List.length_map, List.length_range]
  exact congrArg Except.ok hrows

omit hk in
theorem getElem?_contents {n : Nat} (hn : n < g.elements) (b : Bytes) :
    (g.contents k b)[n]? = some (b.load k (g.place n)) := by
  rw [contents, List.getElem?_map, List.getElem?_range hn]
  rfl

omit hk in
theorem access_region_of_within {index : List Nat} (h : Box.Within index g.extent)
    (a : Access k) (b : Bytes) :
    (g.region k).access index a b = b.access (g.place (Box.number index g.extent)) a := by
  simp only [Region.access, layout_offset g h, ok_bind]

omit hk in
theorem access_region_of_outside {index : List Nat}
    (h : Axes.isWithin index g.layout.extent = false) (a : Access k) (b : Bytes) :
    (g.region k).access index a b = .error (.error (g.layout.boundsError index)) := by
  simp only [Region.access, Layout.offset, h]
  rfl

omit hk in
theorem dense_eq_contents (hdense : g.pitch = g.length * g.size) (hk : g.size = k.size)
    (b : Bytes) : b.loadAll k 0 g.elements = g.contents k b := by
  apply List.map_congr_left
  intro n _
  rw [g.place_of_dense hdense, hk, Nat.zero_add]

theorem dense_region (b : Bytes) :
    (g.region k).dense b =
      .ok (if g.pitch = g.length * g.size then some (g.contents k b) else none) := by
  simp only [Region.dense, layout_isContiguous, ok_bind, layout_length]
  by_cases hdense : g.pitch = g.length * g.size
  · rw [decide_eq_true hdense, if_pos hdense, ← dense_eq_contents hdense hk]
    rfl
  · rw [decide_eq_false hdense, if_neg hdense]
    rfl

theorem setDense_region (i : Nat) (x : Element k) (b : Bytes) :
    (g.region k).setDense i x b =
      if g.pitch = g.length * g.size then
        if i < g.elements then .ok (some (b.store (g.place i) x))
        else .error (.outOfBounds g.elements i)
      else .ok none := by
  simp only [Region.setDense, layout_isContiguous, ok_bind, layout_length]
  by_cases hdense : g.pitch = g.length * g.size
  · rw [decide_eq_true hdense, if_pos hdense, g.place_of_dense hdense, hk]
    rfl
  · rw [decide_eq_false hdense, if_neg hdense]
    rfl

end Rows

end LaneGrid
