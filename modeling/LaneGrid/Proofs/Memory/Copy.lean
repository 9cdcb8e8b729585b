import LaneGrid.Proofs.Memory.RegionRows

namespace LaneGrid

namespace Bytes

theorem get_copyFrom (b source : Bytes) (offset start n i : Nat) :
    (b.copyFrom offset source start n).get i =
      if offset ≤ i ∧ i < offset + n then source.get (start + (i - offset)) else b.get i := by
  induction n generalizing b offset start with
  | zero =>
      rw [if_neg (by omega)]
      rfl
  | succ n ih =>
      rw [copyFrom, ih, get_set]
      split
      · rename_i hlater
        rw [if_pos (by omega)]
        congr 1
        omega
      · rename_i hnot
        by_cases hfirst : offset = i
        · subst hfirst
          rw [if_pos rfl, if_pos (by omega), Nat.sub_self, Nat.add_zero]
        · rw [if_neg hfirst, if_neg (by omega)]

theorem loadNat_shift {b c : Bytes} {offset start n : Nat}
    (h : ∀ t < n, b.get (offset + t) = c.get (start + t)) :
    b.loadNat offset n = c.loadNat start n := by
  induction n generalizing offset start with
  | zero => rfl
  | succ n ih =>
      have hfirst : b.get offset = c.get start := h 0 (Nat.succ_pos n)
      have hrest : ∀ t < n, b.get (offset + 1 + t) = c.get (start + 1 + t) := by
        intro t ht
        rw [Nat.add_assoc, Nat.add_assoc, Nat.add_comm 1 t]
        exact h (t + 1) (by omega)
      rw [loadNat, loadNat, hfirst, ih hrest]

/-- Copies rows of `n` bytes, one for each pair of offsets. -/
def copyRows (source : Bytes) (n : Nat) (b : Bytes) (rows : List (Nat × Nat)) : Bytes :=
  rows.foldl (fun b p => b.copyFrom p.1 source p.2 n) b

theorem get_copyRows_of_outside {source b : Bytes} {n i : Nat} {rows : List (Nat × Nat)}
    (h : ∀ p ∈ rows, i < p.1 ∨ p.1 + n ≤ i) : (copyRows source n b rows).get i = b.get i := by
  induction rows generalizing b with
  | nil => rfl
  | cons p rows ih =>
      have hp := h p (by simp)
      rw [copyRows, List.foldl_cons, ← copyRows, ih fun q hq => h q (by simp [hq]),
        get_copyFrom, if_neg (by omega)]

theorem get_copyRows {source b : Bytes} {n t : Nat} {rows : List (Nat × Nat)}
    (hsep : rows.Pairwise fun p q => p.1 + n ≤ q.1) {p : Nat × Nat} (hp : p ∈ rows) (ht : t < n) :
    (copyRows source n b rows).get (p.1 + t) = source.get (p.2 + t) := by
  induction rows generalizing b with
  | nil => cases hp
  | cons q rows ih =>
      obtain ⟨hfirst, hrest⟩ := List.pairwise_cons.mp hsep
      rw [copyRows, List.foldl_cons, ← copyRows]
      rcases List.mem_cons.mp hp with rfl | hp
      · rw [get_copyRows_of_outside, get_copyFrom, if_pos (by omega), Nat.add_sub_cancel_left]
        intro q hq
        have hq := hfirst q hq
        omega
      · exact ih hrest hp

end Bytes

theorem Region.copy_of_extent_ne {r source : Region}
    (h : r.layout.extent ≠ source.layout.extent) (b c : Bytes) :
    r.copy source b c = .error (.error (.extentMismatch (.extent r.layout.extent)
      (.extent source.layout.extent))) := by
  rw [copy, if_pos h]
  rfl

namespace Rows

variable {g s : Rows} {k : ElementKind}

theorem length_eq_of_extent_eq (h : g.extent = s.extent) :
    g.axes = s.axes ∧ g.length = s.length := by
  obtain ⟨haxes, hlength⟩ := List.append_inj' h rfl
  exact ⟨haxes, List.singleton_inj.mp hlength⟩

theorem count_eq_of_extent_eq (h : g.extent = s.extent) : g.count = s.count := by
  rw [count, count, (length_eq_of_extent_eq h).1]

theorem pairwise_rows (g s : Rows) :
    ((List.range g.count).map fun r => (r * g.pitch, r * s.pitch)).Pairwise
      fun p q => p.1 + g.length * g.size ≤ q.1 := by
  rw [List.pairwise_map]
  apply List.Pairwise.imp _ List.pairwise_lt_range
  intro r t hlt
  calc
    r * g.pitch + g.length * g.size ≤ r * g.pitch + g.pitch :=
      Nat.add_le_add_left g.row_le_pitch _
    _ = (r + 1) * g.pitch := by rw [Nat.succ_mul]
    _ ≤ t * g.pitch := Nat.mul_le_mul_right _ hlt

/-- The destination after a copy: each row is the source's row of the same number. -/
def copied (g s : Rows) (b source : Bytes) : Bytes :=
  Bytes.copyRows source (g.length * g.size) b
    ((List.range g.count).map fun r => (r * g.pitch, r * s.pitch))

theorem payload_region (g : Rows) (k : ElementKind) :
    (g.region k).payload = .ok (g.length * g.size * g.count) := by
  have hfits : g.length * g.size * g.count ≤ wordMax :=
    calc
      g.length * g.size * g.count ≤ g.pitch * g.count := Nat.mul_le_mul_right _ g.row_le_pitch
      _ = g.count * g.pitch := Nat.mul_comm _ _
      _ ≤ wordMax := g.span_le
  simp only [Region.payload, layout_rowBytes, ok_bind, layout_rowCount]
  exact word_mul hfits

theorem copy_region (h : g.extent = s.extent) (k : ElementKind) (b source : Bytes) :
    (g.region k).copy (s.region k) b source = .ok (g.copied s b source) := by
  have hextent : g.layout.extent = s.layout.extent := h
  simp only [Region.copy, hextent, ne_eq, not_true_eq_false, if_false, payload_region,
    layout_rowBytes, layout_rowOffsets, lift_ok, ok_bind, ← count_eq_of_extent_eq h, List.zip_map']
  rfl

theorem extent_eq_of_copy {b source c : Bytes}
    (h : (g.region k).copy (s.region k) b source = .ok c) : g.extent = s.extent := by
  simp only [Region.copy] at h
  split at h
  · cases h
  · rename_i heq
    exact Decidable.of_not_not heq

theorem get_copied_row (g s : Rows) (b source : Bytes) {r t : Nat} (hr : r < g.count)
    (ht : t < g.length * g.size) :
    (g.copied s b source).get (r * g.pitch + t) = source.get (r * s.pitch + t) := by
  have hmem : (r * g.pitch, r * s.pitch) ∈
      (List.range g.count).map fun r => (r * g.pitch, r * s.pitch) :=
    List.mem_map.mpr ⟨r, List.mem_range.mpr hr, rfl⟩
  exact Bytes.get_copyRows (g.pairwise_rows s) hmem ht

theorem contents_copied (hk : g.size = k.size) (hs : s.size = k.size) (h : g.extent = s.extent)
    (b source : Bytes) : g.contents k (g.copied s b source) = s.contents k source := by
  obtain ⟨haxes, hlength⟩ := length_eq_of_extent_eq h
  have helements : g.elements = s.elements := by
    rw [elements, elements, count_eq_of_extent_eq h, hlength]
  rw [contents, contents, ← helements]
  apply List.map_congr_left
  intro n hn
  have hrow : n / g.length < g.count := g.row_lt_count (List.mem_range.mp hn)
  have hcolumn : n % g.length + 1 ≤ g.length := Nat.mod_lt n g.length_pos
  have hend : (n % g.length + 1) * g.size ≤ g.length * g.size := Nat.mul_le_mul_right _ hcolumn
  rw [Nat.succ_mul] at hend
  rw [Bytes.load, Bytes.load]
  congr 1
  apply Bytes.loadNat_shift
  intro t ht
  rw [place, place, ← hlength, hs, ← hk, Nat.add_assoc, Nat.add_assoc]
  exact get_copied_row g s b source hrow (by omega)

theorem get_copied_of_not_holds (hk : g.size = k.size) {i : Nat} (h : ¬ (g.region k).Holds i)
    (b source : Bytes) : (g.copied s b source).get i = b.get i := by
  apply Bytes.get_copyRows_of_outside
  rintro p hp
  obtain ⟨r, hr, rfl⟩ := List.mem_map.mp hp
  have hr := List.mem_range.mp hr
  by_contra hin
  rw [not_or, Nat.not_lt, Nat.not_le] at hin
  obtain ⟨hlow, hhigh⟩ := hin
  -- the column of the element that the byte would belong to
  have hdiv := Nat.div_add_mod' (i - r * g.pitch) g.size
  have hmod := Nat.mod_lt (i - r * g.pitch) g.size_pos
  have hrow : i - r * g.pitch < g.length * g.size := by omega
  have hcolumn : (i - r * g.pitch) / g.size < g.length :=
    Nat.div_lt_of_lt_mul (Nat.mul_comm g.length g.size ▸ hrow)
  have hn : r * g.length + (i - r * g.pitch) / g.size < g.elements :=
    calc
      r * g.length + (i - r * g.pitch) / g.size < r * g.length + g.length := by omega
      _ = (r + 1) * g.length := by rw [Nat.succ_mul]
      _ ≤ g.elements := Nat.mul_le_mul_right _ hr
  have hout := outside_of_not_holds h hn
  rw [g.place_row_add r hcolumn, ← hk] at hout
  omega

end Rows

end LaneGrid
