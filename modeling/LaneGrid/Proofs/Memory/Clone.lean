import LaneGrid.Proofs.Memory.DenseArray

namespace LaneGrid

namespace Layout

variable {extent : List Nat} {size alignment : Nat} {l : Layout}

@[simp] theorem nextMultiple?_one (n : Nat) : nextMultiple? n 1 = some n := by
  rw [nextMultiple?, Nat.mod_one, if_pos rfl]

theorem withRowPitch_single (length size p q : Nat) :
    withRowPitch [length] size p = withRowPitch [length] size q := rfl

theorem pitched_eq_ok (h : pitched extent size alignment = .ok l) :
    ∃ bytes rowPitch, rowPayload? extent size = some bytes ∧
      nextMultiple? bytes (max alignment 1) = some rowPitch ∧
      withRowPitch extent size rowPitch = .ok l := by
  rw [pitched] at h
  split at h
  · rename_i rowPitch hnext
    obtain ⟨bytes, hbytes, hpitch⟩ := Option.bind_eq_some_iff.mp hnext
    exact ⟨bytes, rowPitch, hbytes, hpitch, h⟩
  · cases h

theorem contiguous_eq {bytes : Nat} (h : rowPayload? extent size = some bytes) :
    contiguous extent size = withRowPitch extent size bytes := by
  have hnext : (do nextMultiple? (← rowPayload? extent size) (max 1 1)) = some bytes := by
    rw [h]
    exact nextMultiple?_one bytes
  rw [contiguous, pitched, hnext]

theorem exists_rows_and_pitch (hpos : ∀ e ∈ extent, 0 < e) (hsize : 0 < size)
    (h : pitched extent size alignment = .ok l) :
    ∃ g : Rows, ∃ rowPitch, g.layout = l ∧ g.extent = extent ∧ g.size = size ∧
      nextMultiple? (g.length * g.size) (max alignment 1) = some rowPitch ∧
      withRowPitch extent size rowPitch = .ok l ∧
      contiguous extent size = withRowPitch extent size (g.length * g.size) ∧
      (g.axes ≠ [] → g.pitch = rowPitch) := by
  obtain ⟨bytes, rowPitch, hbytes, hnext, h⟩ := pitched_eq_ok h
  obtain ⟨g, hl, rfl, rfl, hpitch⟩ := exists_rows_of_withRowPitch hpos hsize h
  obtain ⟨-, rfl⟩ := rowPayload?_append.mp hbytes
  exact ⟨g, rowPitch, hl, rfl, rfl, hnext, h, contiguous_eq hbytes, hpitch⟩

theorem isContiguous_of_contiguous (hpos : ∀ e ∈ extent, 0 < e) (hsize : 0 < size)
    (h : contiguous extent size = .ok l) : l.isContiguous = .ok true := by
  obtain ⟨g, rowPitch, rfl, -, -, hnext, -, -, hpitch⟩ := exists_rows_and_pitch hpos hsize h
  have hdense : g.pitch = g.length * g.size := by
    by_cases haxes : g.axes = []
    · exact g.single haxes
    · rw [Nat.max_self, nextMultiple?_one] at hnext
      rw [hpitch haxes, Option.some.inj hnext]
  rw [g.layout_isContiguous, decide_eq_true hdense]

theorem contiguous_of_isContiguous (hpos : ∀ e ∈ extent, 0 < e) (hsize : 0 < size)
    (h : pitched extent size alignment = .ok l) (hdense : l.isContiguous = .ok true) :
    contiguous extent size = .ok l := by
  obtain ⟨g, rowPitch, rfl, rfl, rfl, -, h, hcontiguous, hpitch⟩ :=
    exists_rows_and_pitch hpos hsize h
  rw [g.layout_isContiguous] at hdense
  have hrow : g.pitch = g.length * g.size := of_decide_eq_true (Except.ok.inj hdense)
  rw [hcontiguous, ← h]
  by_cases haxes : g.axes = []
  · rw [Rows.extent, haxes]
    exact withRowPitch_single _ _ _ _
  · rw [← hpitch haxes, hrow]

end Layout

namespace Buffer

/-- The buffer was allocated, dense or padded to the `preferred` alignment. Its bytes may have
changed since. -/
structure Drawn (preferred : Nat) (b : Buffer) : Prop where
  exists_layout : ∃ dims padded, sizes b.indexKind b.extent 0 b.extent = .ok dims ∧
    Layout.pitched dims b.region.kind.size (if padded = true then preferred else 1) =
      .ok b.region.layout
  sizeBytes_eq : b.region.layout.sizeBytes = .ok b.sizeBytes

variable {d : Device} {b : Buffer} {preferred : Nat}

theorem Drawn.exists_rows (h : b.Drawn preferred) :
    ∃ g : Rows, b.region = g.region b.region.kind ∧ g.size = b.region.kind.size := by
  obtain ⟨dims, padded, hdims, hl⟩ := h.exists_layout
  obtain ⟨g, hg, -, hsize⟩ :=
    Layout.exists_rows_of_pitched (sizes_pos hdims) b.region.kind.size_pos hl
  refine ⟨g, ?_, hsize⟩
  rw [Rows.region, hg]

theorem Drawn.setBytes (h : b.Drawn preferred) (bytes : Bytes) :
    ({ b with bytes } : Buffer).Drawn preferred :=
  ⟨h.exists_layout, h.sizeBytes_eq⟩

theorem Drawn.exists_pitched (h : b.Drawn preferred) :
    ∃ dims, sizes b.indexKind b.extent 0 b.extent = .ok dims ∧
      Layout.pitched dims b.region.kind.size
          (if b.region.layout.isContiguous.toOption.getD true then 1 else preferred) =
        .ok b.region.layout := by
  obtain ⟨dims, padded, hdims, hl⟩ := h.exists_layout
  obtain ⟨g, hregion, -⟩ := h.exists_rows
  have hsize := b.region.kind.size_pos
  have hcontiguous := g.layout_isContiguous
  rw [← show b.region.layout = g.layout from congrArg Region.layout hregion] at hcontiguous
  refine ⟨dims, hdims, ?_⟩
  by_cases hdense : g.pitch = g.length * g.size
  · rw [decide_eq_true hdense] at hcontiguous
    rw [hcontiguous]
    exact Layout.contiguous_of_isContiguous (sizes_pos hdims) hsize hl hcontiguous
  · rw [decide_eq_false hdense] at hcontiguous
    rw [hcontiguous]
    cases padded with
    | true => exact hl
    | false =>
        -- rows that were not padded would be contiguous
        have htrue := Layout.isContiguous_of_contiguous (sizes_pos hdims) hsize hl
        rw [hcontiguous] at htrue
        cases htrue

theorem id_of_acquire {d' : Device} {bytes : Nat} (h : acquire d bytes = .ok d') :
    d'.id = d.id ∧ d'.properties = d.properties := by
  obtain ⟨ledger, -, h⟩ := bind_eq_ok.mp h
  obtain ⟨-, -, h⟩ := bind_eq_ok.mp h
  cases h
  exact ⟨rfl, rfl⟩

theorem ofLayout_eq {k : ElementKind} {indexKind : IndexKind} {extent : List Int} {l : Layout}
    {bytes : Nat} (h : l.sizeBytes = .ok bytes) :
    ofLayout d k indexKind extent l = do
      let d' ← (acquire d bytes : Except Error Device)
      return (⟨d.id, indexKind, extent, ⟨k, l⟩, bytes, .zeros⟩, d') := by
  rw [ofLayout, h, lift_ok, ok_bind]
  rcases hacquire : acquire d bytes with e | d'
  · rfl
  · rw [liftError_ok, ok_bind, ok_bind, (id_of_acquire hacquire).1]

theorem drawn_of_allocate {d' : Device} {k : ElementKind} {indexKind : IndexKind}
    {extent : List Int} {padded : Bool}
    (h : (allocate d k indexKind extent padded).result = .ok (b, d')) :
    b.Drawn d.properties.pitchAlignment ∧ b.device = d.id ∧ d'.id = d.id ∧
      d'.properties = d.properties := by
  rw [allocate, allocateAligned] at h
  split at h
  · cases h
  · rename_i dims hdims
    simp only [bind_eq_ok] at h
    obtain ⟨l, hl, h⟩ := h
    simp only [ofLayout, bind_eq_ok] at h
    obtain ⟨bytes, hbytes, d'', hacquire, h⟩ := h
    cases h
    have hsame := id_of_acquire (liftError_eq_ok.mp hacquire)
    exact ⟨⟨⟨dims, padded, hdims, hl⟩, liftFault_eq_ok.mp hbytes⟩, hsame.1, hsame⟩

/-- A clone needs as many bytes of its device as the original has, and is refused for no other
reason. It differs from the original in nothing that can be read. -/
theorem Drawn.clone_eq (h : b.Drawn d.properties.pitchAlignment) (hdevice : b.device = d.id) :
    ∃ bytes, b.region.toList bytes = b.region.toList b.bytes ∧
      (b.clone d).result = do
        let d' ← (acquire d b.sizeBytes : Except Error Device)
        return ({ b with bytes }, d') := by
  obtain ⟨dims, hdims, hl⟩ := h.exists_pitched
  obtain ⟨g, hregion, hsize⟩ := h.exists_rows
  refine ⟨g.copied g .zeros b.bytes, ?_, ?_⟩
  · rw [hregion, Rows.toList_region hsize, Rows.toList_region hsize,
      Rows.contents_copied hsize hsize rfl]
  · have hcopy := g.copy_region (s := g) rfl b.region.kind .zeros b.bytes
    rw [← hregion] at hcopy
    simp only [clone, allocateAligned, hdims, hl, ok_bind, ofLayout_eq h.sizeBytes_eq]
    rcases acquire d b.sizeBytes with e | d'
    · rfl
    · simp only [liftError_ok, ok_bind, pure_eq_ok, hcopy, ← hdevice]

end Buffer

end LaneGrid
