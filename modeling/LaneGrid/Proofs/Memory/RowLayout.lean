import LaneGrid.Proofs.Memory.Rows

namespace LaneGrid

theorem Layout.sizeBytes_rowPitches {axes : List Nat} {length size pitch : Nat}
    (hsingle : axes = [] → pitch = length * size) (hspan : axes.prod * pitch ≤ wordMax) :
    Layout.sizeBytes ⟨axes ++ [length], rowPitches pitch axes ++ [size]⟩ =
      .ok (axes.prod * pitch) := by
  rw [Layout.sizeBytes]
  rcases axes with _ | ⟨e, axes⟩
  · have hrow : size * length = ([] : List Nat).prod * pitch := by
      rw [hsingle rfl, List.prod_nil, Nat.one_mul, Nat.mul_comm]
    simp only [rowPitches, List.nil_append, List.headD_cons]
    exact word_mul_eq_ok.mpr ⟨Nat.le_trans (Nat.le_of_eq hrow) hspan, hrow⟩
  · have hplanes : pitch * axes.prod * e = (e :: axes).prod * pitch := by
      rw [List.prod_cons, Nat.mul_comm e, Nat.mul_assoc, Nat.mul_comm]
    simp only [rowPitches, List.cons_append, List.headD_cons]
    exact word_mul_eq_ok.mpr ⟨Nat.le_trans (Nat.le_of_eq hplanes) hspan, hplanes⟩

namespace Rows

open Layout

variable (g : Rows)

@[simp] theorem layout_extent : g.layout.extent = g.axes ++ [g.length] := rfl

@[simp] theorem layout_rowLength : g.layout.rowLength = g.length := by
  simp [Layout.rowLength]

@[simp] theorem layout_elementSize : g.layout.elementSize = g.size := by
  simp [Layout.elementSize, layout]

theorem layout_length : g.layout.length = .ok g.elements := by
  have hfits : g.extent.prod ≤ wordMax := g.prod_extent ▸ g.elements_le
  rw [← g.prod_extent]
  exact Box.product_eq_ok g.extent_pos hfits

theorem layout_sizeBytes : g.layout.sizeBytes = .ok (g.count * g.pitch) :=
  sizeBytes_rowPitches g.single g.span_le

theorem layout_rowCount : g.layout.rowCount = .ok g.count := by
  have hlength : g.length ≠ 0 := Nat.ne_of_gt g.length_pos
  rw [Layout.rowCount, layout_rowLength, if_neg hlength, layout_length, ok_bind,
    word_div hlength, elements, Nat.mul_div_cancel _ g.length_pos]

theorem row_le : g.length * g.size ≤ wordMax :=
  calc
    g.length * g.size ≤ g.pitch := g.row_le_pitch
    _ ≤ g.count * g.pitch := g.pitch_le_span
    _ ≤ wordMax := g.span_le

theorem layout_rowBytes : g.layout.rowBytes = .ok (g.length * g.size) := by
  rw [Layout.rowBytes, layout_rowLength, layout_elementSize, word_mul g.row_le]

theorem rowPitches_length (pitch : Nat) (axes : List Nat) :
    (rowPitches pitch axes).length = axes.length := by
  induction axes with
  | nil => rfl
  | cons e axes ih => simp [rowPitches, ih]

theorem getLast?_rowPitches (pitch : Nat) {axes : List Nat} (h : axes ≠ []) :
    (rowPitches pitch axes).getLast? = some pitch := by
  induction axes with
  | nil => exact absurd rfl h
  | cons e axes ih =>
      rcases axes with _ | ⟨f, axes⟩
      · simp [rowPitches]
      · rw [rowPitches, List.getLast?_cons, ih (by simp)]
        rfl

theorem layout_rowPitch? :
    g.layout.rowPitch? = if g.axes = [] then none else some g.pitch := by
  have hrank : g.layout.rank = g.axes.length + 1 := by simp [Layout.rank]
  split
  · rename_i hempty
    rw [Layout.rowPitch?, hrank, hempty]
    rfl
  · rename_i hne
    have hpos : 0 < g.axes.length := List.length_pos_iff.mpr hne
    have hlast : (rowPitches g.pitch g.axes)[g.axes.length - 1]? = some g.pitch := by
      rw [← getLast?_rowPitches g.pitch hne, List.getLast?_eq_getElem?, rowPitches_length]
    rw [Layout.rowPitch?, hrank, if_pos (by omega), layout,
      show g.axes.length + 1 - 2 = g.axes.length - 1 by omega, List.getElem?_append_left, hlast]
    rw [rowPitches_length]
    omega

theorem layout_isContiguous :
    g.layout.isContiguous = .ok (decide (g.pitch = g.length * g.size)) := by
  rw [Layout.isContiguous, layout_rowPitch?]
  split
  · rename_i hempty
    split at hempty
    · rename_i haxes
      rw [decide_eq_true (g.single haxes)]
      rfl
    · cases hempty
  · rename_i pitch hpitch
    split at hpitch
    · cases hpitch
    · cases hpitch
      rw [layout_rowBytes]
      rfl

theorem foldlM_rowPitches {index axes : List Nat} (h : Box.Within index axes) {pitch start : Nat}
    (last : List (Nat × Nat)) (hfits : start + Box.number index axes * pitch ≤ wordMax) :
    (index.zip (rowPitches pitch axes) ++ last).foldlM
        (fun acc p => do wordArithmetic.add acc (← wordArithmetic.mul p.1 p.2)) start =
      last.foldlM (fun acc p => do wordArithmetic.add acc (← wordArithmetic.mul p.1 p.2))
        (start + Box.number index axes * pitch) := by
  induction h generalizing start with
  | nil => simp [Box.number]
  | @cons i e index axes hlt htail ih =>
      have hregroup : start + (i * axes.prod + Box.number index axes) * pitch =
          start + i * (pitch * axes.prod) + Box.number index axes * pitch := by
        rw [Nat.add_mul, Nat.mul_assoc, Nat.mul_comm axes.prod, Nat.add_assoc]
      rw [Box.number, hregroup] at hfits ⊢
      have hterm : i * (pitch * axes.prod) ≤ wordMax := by omega
      have hsum : start + i * (pitch * axes.prod) ≤ wordMax := by omega
      rw [rowPitches, List.zip_cons_cons, List.cons_append, List.foldlM_cons, word_mul hterm,
        ok_bind, word_add hsum, ok_bind, ih hfits]

theorem exists_row_column {index : List Nat} (h : Box.Within index g.extent) :
    ∃ row column, index = row ++ [column] ∧ Box.Within row g.axes ∧ column < g.length := by
  have hrow := List.forall₂_take_append index g.axes [g.length] h
  have hlast := List.forall₂_drop_append index g.axes [g.length] h
  rcases hdrop : index.drop g.axes.length with _ | ⟨column, rest⟩
  · rw [hdrop] at hlast
    cases hlast
  · rw [hdrop] at hlast
    rcases hlast with _ | ⟨hcolumn, hrest⟩
    cases hrest
    refine ⟨index.take g.axes.length, column, ?_, hrow, hcolumn⟩
    rw [← hdrop, List.take_append_drop]

theorem layout_byteOffset {index : List Nat} (h : Box.Within index g.extent) :
    g.layout.byteOffset index = .ok (g.place (Box.number index g.extent)) := by
  obtain ⟨row, column, rfl, hrow, hcolumn⟩ := g.exists_row_column h
  have hnumber : Box.number (row ++ [column]) g.extent = Box.number row g.axes * g.length + column :=
    Box.number_append hrow.length_eq column g.length
  have hplace := g.place_le (g.prod_extent ▸ Box.number_lt_prod h)
  rw [hnumber, g.place_row_add _ hcolumn] at hplace ⊢
  have hlength : row.length = (rowPitches g.pitch g.axes).length := by
    rw [rowPitches_length, hrow.length_eq]
  rw [Layout.byteOffset, layout, List.zip_append hlength,
    foldlM_rowPitches hrow _ (by omega)]
  simp only [List.zip_cons_cons, List.zip_nil_right, List.foldlM_cons, List.foldlM_nil]
  rw [word_mul (by omega), ok_bind, Nat.zero_add, word_add hplace]
  rfl

theorem layout_rowOffset {r : Nat} (h : r < g.count) :
    g.layout.rowOffset r = .ok (r * g.pitch) := by
  have hlast : r * g.length < g.elements := Nat.mul_lt_mul_of_pos_right h g.length_pos
  have hlinear : r * g.length ≤ wordMax := Nat.le_trans (Nat.le_of_lt hlast) g.elements_le
  have hnumber : Box.number (Box.index g.extent (r * g.length)) g.extent = r * g.length := by
    rw [Box.number_index, g.prod_extent, Nat.mod_eq_of_lt hlast]
  have hwithin := Box.within_index g.extent_pos (r * g.length)
  rw [Layout.rowOffset, layout_rowLength, word_mul hlinear, ok_bind,
    show g.layout.extent = g.extent from rfl, Box.delinearize_eq_ok g.extent_pos, ok_bind,
    layout_byteOffset g hwithin, hnumber, place_row]

theorem layout_rowOffsets :
    g.layout.rowOffsets = .ok ((List.range g.count).map (· * g.pitch)) := by
  rw [Layout.rowOffsets, layout_rowCount, ok_bind]
  exact mapM_eq_ok fun r hr => g.layout_rowOffset (List.mem_range.mp hr)

/-- The bytes up to the end of the last row, whose padding is not counted. -/
def reach : Nat :=
  (g.count - 1) * g.pitch + g.length * g.size

theorem reach_le_span : g.reach ≤ g.count * g.pitch := by
  have hcount := g.count_pos
  calc
    (g.count - 1) * g.pitch + g.length * g.size ≤ (g.count - 1) * g.pitch + g.pitch :=
      Nat.add_le_add_left g.row_le_pitch _
    _ = (g.count - 1 + 1) * g.pitch := by rw [Nat.succ_mul]
    _ = g.count * g.pitch := by rw [Nat.sub_add_cancel hcount]

theorem layout_span : g.layout.span = .ok g.reach := by
  obtain ⟨rows, hrows⟩ : ∃ rows, g.count = rows + 1 :=
    Nat.exists_eq_succ_of_ne_zero (Nat.ne_of_gt g.count_pos)
  have hlast : g.layout.rowOffset rows = .ok (rows * g.pitch) := g.layout_rowOffset (by omega)
  have hfits : rows * g.pitch + g.length * g.size ≤ wordMax := by
    have hreach := Nat.le_trans g.reach_le_span g.span_le
    rwa [reach, hrows, Nat.add_sub_cancel] at hreach
  rw [Layout.span, layout_rowCount, ok_bind, hrows]
  simp only [hlast, layout_rowBytes, ok_bind]
  rw [word_add hfits, reach, hrows, Nat.add_sub_cancel]

theorem layout_offset {index : List Nat} (h : Box.Within index g.extent) :
    g.layout.offset index = .ok (g.place (Box.number index g.extent)) := by
  have hin : Axes.isWithin index g.layout.extent = true :=
    (Box.isWithin_eq_true_iff h.length_eq).mpr h
  rw [Layout.offset, if_pos hin, layout_byteOffset g h, lift_ok]

end Rows

theorem wordProduct?_eq_some {a b c : Nat} :
    wordProduct? a b = some c ↔ a * b ≤ wordMax ∧ a * b = c := by
  rw [← word_mul_eq_ok, wordProduct?]
  rcases wordArithmetic.mul a b with f | p
  · exact ⟨nofun, nofun⟩
  · exact ⟨fun h => congrArg _ (Option.some.inj h), fun h => congrArg _ (Except.ok.inj h)⟩

namespace Layout

theorem head?_rowPitches (pitch e : Nat) (axes : List Nat) (last : List Nat) :
    (rowPitches pitch (e :: axes) ++ last).head? = some (pitch * axes.prod) :=
  rfl

theorem pitches?_append {size pitch length : Nat} {axes p : List Nat}
    (h : pitches? size pitch (axes ++ [length]) = some p) :
    p = rowPitches pitch axes ++ [size] := by
  induction axes generalizing p with
  | nil =>
      rw [List.nil_append, pitches?] at h
      exact (Option.some.inj h).symm
  | cons e axes ih =>
      rcases axes with _ | ⟨f, axes⟩
      · rw [List.singleton_append, pitches?] at h
        rw [← Option.some.inj h]
        simp [rowPitches]
      · obtain ⟨g, rest, hrest⟩ : ∃ g rest, axes ++ [length] = g :: rest := by
          rcases axes with _ | ⟨g, axes⟩
          · exact ⟨length, [], rfl⟩
          · exact ⟨g, axes ++ [length], rfl⟩
        simp only [List.cons_append, hrest, pitches?, Option.bind_eq_bind,
          Option.bind_eq_some_iff] at h
        obtain ⟨inner, hinner, h⟩ := h
        obtain ⟨head, hhead, h⟩ := h
        obtain ⟨plane, hplane, h⟩ := h
        have hih := ih (p := inner) (by simpa only [List.cons_append, hrest] using hinner)
        rw [hih, head?_rowPitches] at hhead
        obtain ⟨-, rfl⟩ := wordProduct?_eq_some.mp hplane
        rw [← Option.some.inj h, hih, ← Option.some.inj hhead]
        simp only [rowPitches, List.prod_cons, List.cons_append, Nat.mul_assoc,
          Nat.mul_comm f]

theorem rowPayload?_append {axes : List Nat} {length size bytes : Nat} :
    rowPayload? (axes ++ [length]) size = some bytes ↔
      length * size ≤ wordMax ∧ length * size = bytes := by
  rw [rowPayload?, List.getLast?_append, List.getLast?_singleton]
  exact wordProduct?_eq_some

theorem spannedPitches?_append {axes p : List Nat} {length size pitch : Nat}
    (hsingle : axes = [] → pitch = length * size)
    (h : spannedPitches? (axes ++ [length]) size pitch = some p) :
    p = rowPitches pitch axes ++ [size] ∧ axes.prod * pitch ≤ wordMax := by
  simp only [spannedPitches?, Option.bind_eq_bind, Option.bind_eq_some_iff] at h
  obtain ⟨q, hq, first, hfirst, head, hhead, span, hspan, h⟩ := h
  cases h
  have hp := pitches?_append hq
  refine ⟨hp, ?_⟩
  obtain ⟨hle, -⟩ := wordProduct?_eq_some.mp hspan
  rcases axes with _ | ⟨e, axes⟩
  · have hlength : length = head := by simpa using hhead
    have hsize : size = first := by simpa [hp, rowPitches] using hfirst
    rw [hsingle rfl, hlength, hsize, List.prod_nil, Nat.one_mul, Nat.mul_comm]
    exact hle
  · have he : e = head := by simpa using hhead
    have hplane : pitch * axes.prod = first := by
      rw [hp, head?_rowPitches] at hfirst
      exact Option.some.inj hfirst
    calc
      (e :: axes).prod * pitch = pitch * axes.prod * e := by
        rw [List.prod_cons, Nat.mul_comm, Nat.mul_comm e, Nat.mul_assoc]
      _ = first * head := by rw [hplane, he]
      _ ≤ wordMax := hle

theorem withRowPitch_append {axes : List Nat} {length size pitch : Nat} {l : Layout}
    (hsize : size ≠ 0) (h : withRowPitch (axes ++ [length]) size pitch = .ok l) :
    (axes ≠ [] → length * size ≤ pitch ∧ size ∣ pitch) ∧
      ∃ p, spannedPitches? (axes ++ [length]) size pitch = some p ∧
        l = ⟨axes ++ [length], p⟩ := by
  rw [withRowPitch] at h
  rcases hpayload : rowPayload? (axes ++ [length]) size with _ | rowBytes
  · rw [hpayload] at h
    cases h
  obtain ⟨-, rfl⟩ := rowPayload?_append.mp hpayload
  rcases hspan : spannedPitches? (axes ++ [length]) size pitch with _ | p
  · rw [hpayload, hspan] at h
    simp only [word_rem hsize, lift_ok, ok_bind] at h
    split_ifs at h <;> cases h
  · rw [hpayload, hspan] at h
    simp only [word_rem hsize, lift_ok, ok_bind] at h
    split_ifs at h with hrank hshort hsplit hsplit
    · cases h
    · cases h
    · cases h
    · cases h
      refine ⟨fun _ => ⟨Nat.le_of_not_lt hshort, ?_⟩, p, rfl, rfl⟩
      exact Nat.dvd_of_mod_eq_zero (Decidable.of_not_not hsplit)
    · cases h
      refine ⟨fun haxes => ?_, p, rfl, rfl⟩
      have hpos := List.length_pos_iff.mpr haxes
      rw [List.length_append, List.length_singleton] at hrank
      omega

theorem exists_rows_of_withRowPitch {extent : List Nat} {size pitch : Nat} {l : Layout}
    (hpos : ∀ e ∈ extent, 0 < e) (hsize : 0 < size)
    (h : withRowPitch extent size pitch = .ok l) :
    ∃ g : Rows, g.layout = l ∧ g.extent = extent ∧ g.size = size ∧
      (g.axes ≠ [] → g.pitch = pitch) := by
  rcases List.eq_nil_or_concat extent with rfl | ⟨axes, length, rfl⟩
  · cases h
  rw [List.concat_eq_append] at *
  obtain ⟨hrows, p, hspan, rfl⟩ := withRowPitch_append (Nat.ne_of_gt hsize) h
  have haxes : ∀ e ∈ axes, 0 < e := fun e he => hpos e (by simp [he])
  have hlength : 0 < length := hpos length (by simp)
  rcases axes with _ | ⟨e, axes⟩
  · have hspan' : spannedPitches? ([] ++ [length]) size (length * size) = some p := hspan
    obtain ⟨rfl, hle⟩ := spannedPitches?_append (fun _ => rfl) hspan'
    refine ⟨⟨[], length, size, length * size, nofun, hlength, hsize, Nat.le_refl _,
      Nat.dvd_mul_left _ _, hle, fun _ => rfl⟩, rfl, rfl, rfl, fun hne => absurd rfl hne⟩
  · obtain ⟨hrow, hdvd⟩ := hrows (by simp)
    obtain ⟨rfl, hle⟩ := spannedPitches?_append (fun hnil => absurd hnil (by simp)) hspan
    exact ⟨⟨e :: axes, length, size, pitch, haxes, hlength, hsize, hrow, hdvd, hle, nofun⟩,
      rfl, rfl, rfl, fun _ => rfl⟩

theorem exists_rows_of_pitched {extent : List Nat} {size alignment : Nat} {l : Layout}
    (hpos : ∀ e ∈ extent, 0 < e) (hsize : 0 < size)
    (h : pitched extent size alignment = .ok l) :
    ∃ g : Rows, g.layout = l ∧ g.extent = extent ∧ g.size = size := by
  rw [pitched] at h
  split at h
  · obtain ⟨g, hl, hextent, hg, -⟩ := exists_rows_of_withRowPitch hpos hsize h
    exact ⟨g, hl, hextent, hg⟩
  · cases h

end Layout

end LaneGrid
