import LaneGrid.Proofs.Box.Product
import LaneGrid.Proofs.Memory.Addresses
import LaneGrid.Proofs.Memory.Transfer

namespace LaneGrid

namespace Box

/-- The elements can be counted axis by axis within a machine word. -/
def CountFits (extent : List Nat) : Prop :=
  (leading extent).prod ≤ wordMax

instance (extent : List Nat) : Decidable (CountFits extent) :=
  inferInstanceAs (Decidable ((leading extent).prod ≤ wordMax))

theorem exists_foldlM_mul_iff {extent : List Nat} {n : Nat} (hn : n ≤ wordMax) :
    (∃ p, extent.foldlM wordArithmetic.mul n = .ok p) ↔ n * (leading extent).prod ≤ wordMax := by
  induction extent generalizing n with
  | nil =>
      simp only [leading, List.takeWhile_nil, List.prod_nil, Nat.mul_one, hn, iff_true]
      exact ⟨n, rfl⟩
  | cons e extent ih =>
      rw [List.foldlM_cons]
      rcases Nat.eq_zero_or_pos e with rfl | he
      · -- from an empty axis on there is nothing left to overflow
        have hzero : n * 0 ≤ wordMax := Nat.zero_le _
        rw [leading_cons_zero, List.prod_nil, Nat.mul_one, word_mul hzero, ok_bind, ih hzero]
        simp [hn]
      · rw [leading_cons_of_pos he, List.prod_cons, ← Nat.mul_assoc]
        by_cases hstep : n * e ≤ wordMax
        · rw [word_mul hstep, ok_bind, ih hstep]
        · have hle : n * e ≤ n * e * (leading extent).prod :=
            Nat.le_mul_of_pos_right _ (prod_leading_pos extent)
          refine iff_of_false ?_ (by omega)
          rintro ⟨p, hp⟩
          obtain ⟨m, hm, -⟩ := bind_eq_ok.mp hp
          exact hstep (word_mul_eq_ok.mp hm).1

theorem product_eq_ok_iff {extent : List Nat} {n : Nat} :
    Axes.product wordArithmetic extent = .ok n ↔ extent.prod = n ∧ CountFits extent := by
  have hcount := @exists_foldlM_mul_iff extent 1 (by decide)
  rw [Nat.one_mul] at hcount
  constructor
  · intro h
    exact ⟨(eq_of_product_eq_ok h).1, hcount.mp ⟨n, h⟩⟩
  · rintro ⟨rfl, hfits⟩
    obtain ⟨p, hp⟩ := hcount.mpr hfits
    have hproduct : Axes.product wordArithmetic extent = .ok p := hp
    rw [hproduct, (eq_of_product_eq_ok hproduct).1]

end Box

namespace Layout

open Box

/-- The rows can be counted: rows without elements are not counted at all. -/
def RowsFit (extent : List Nat) : Prop :=
  extent.getLastD 0 = 0 ∨ CountFits extent

instance (extent : List Nat) : Decidable (RowsFit extent) :=
  inferInstanceAs (Decidable (_ ∨ _))

theorem length_eq_ok_iff (l : Layout) {n : Nat} :
    l.length = .ok n ↔ l.extent.prod = n ∧ CountFits l.extent :=
  product_eq_ok_iff

theorem rowCount_eq_ok_iff (l : Layout) {n : Nat} :
    l.rowCount = .ok n ↔ l.extent.prod / l.rowLength = n ∧ RowsFit l.extent := by
  rw [rowCount]
  split
  · rename_i hzero
    rw [hzero, Nat.div_zero, pure_eq_ok, Except.ok.injEq]
    exact (and_iff_left (.inl hzero)).symm
  · rename_i hne
    have hrows : RowsFit l.extent ↔ CountFits l.extent := or_iff_right hne
    rw [hrows, bind_eq_ok]
    constructor
    · rintro ⟨count, hcount, hn⟩
      obtain ⟨rfl, hfits⟩ := l.length_eq_ok_iff.mp hcount
      rw [word_div hne, Except.ok.injEq] at hn
      exact ⟨hn, hfits⟩
    · rintro ⟨rfl, hfits⟩
      exact ⟨_, l.length_eq_ok_iff.mpr ⟨rfl, hfits⟩, word_div hne⟩

variable {extent : List Nat} {size : Nat} {l : Layout}

/-- An accepted layout as rows that lie `pitch` bytes apart, of which there may be none. -/
structure Stacked (l : Layout) (axes : List Nat) (length size pitch : Nat) : Prop where
  layout_eq : l = ⟨axes ++ [length], rowPitches pitch axes ++ [size]⟩
  row_fits : length * size ≤ wordMax
  row_le_pitch : length * size ≤ pitch
  span_le : axes.prod * pitch ≤ wordMax
  single : axes = [] → pitch = length * size

theorem row_fits_of_withRowPitch {axes : List Nat} {length rowPitch : Nat}
    (h : withRowPitch (axes ++ [length]) size rowPitch = .ok l) : length * size ≤ wordMax := by
  rw [withRowPitch] at h
  rcases hpayload : rowPayload? (axes ++ [length]) size with _ | bytes
  · rw [hpayload] at h
    cases h
  · exact (rowPayload?_append.mp hpayload).1

theorem stacked_of_withRowPitch {rowPitch : Nat} (hsize : 0 < size)
    (h : withRowPitch extent size rowPitch = .ok l) :
    ∃ axes length pitch, extent = axes ++ [length] ∧ l.Stacked axes length size pitch := by
  rcases List.eq_nil_or_concat extent with rfl | ⟨axes, length, rfl⟩
  · cases h
  rw [List.concat_eq_append] at h
  have hrow := row_fits_of_withRowPitch h
  obtain ⟨hrows, p, hspan, rfl⟩ := withRowPitch_append (Nat.ne_of_gt hsize) h
  rcases axes with _ | ⟨e, axes⟩
  · have hspan' : spannedPitches? ([] ++ [length]) size (length * size) = some p := hspan
    obtain ⟨rfl, hle⟩ := spannedPitches?_append (fun _ => rfl) hspan'
    exact ⟨[], length, length * size, List.concat_eq_append,
      ⟨rfl, hrow, Nat.le_refl _, hle, fun _ => rfl⟩⟩
  · obtain ⟨hle_pitch, -⟩ := hrows (by simp)
    obtain ⟨rfl, hle⟩ := spannedPitches?_append (fun hnil => absurd hnil (by simp)) hspan
    exact ⟨e :: axes, length, rowPitch, List.concat_eq_append,
      ⟨rfl, hrow, hle_pitch, hle, nofun⟩⟩

theorem Accepted.exists_withRowPitch (h : Accepted extent size l) :
    ∃ rowPitch, withRowPitch extent size rowPitch = .ok l := by
  rcases h with h | h | h
  · obtain ⟨-, rowPitch, -, -, h⟩ := pitched_eq_ok h
    exact ⟨rowPitch, h⟩
  · obtain ⟨-, rowPitch, -, -, h⟩ := pitched_eq_ok h
    exact ⟨rowPitch, h⟩
  · exact ⟨_, h⟩

theorem Accepted.exists_stacked (h : Accepted extent size l) (hsize : 0 < size) :
    ∃ axes length pitch, extent = axes ++ [length] ∧ l.Stacked axes length size pitch := by
  obtain ⟨rowPitch, h⟩ := h.exists_withRowPitch
  exact stacked_of_withRowPitch hsize h

theorem Accepted.extent_eq (h : Accepted extent size l) (hsize : 0 < size) : l.extent = extent := by
  obtain ⟨rowPitch, h⟩ := h.exists_withRowPitch
  exact extent_of_withRowPitch (Nat.ne_of_gt hsize) h

namespace Stacked

variable {axes : List Nat} {length pitch : Nat} (h : l.Stacked axes length size pitch)

include h

theorem sizeBytes_eq : l.sizeBytes = .ok (axes.prod * pitch) := by
  rw [h.layout_eq, sizeBytes_rowPitches h.single h.span_le]

theorem rowBytes_eq : l.rowBytes = .ok (length * size) := by
  have hlength : l.rowLength = length := by simp [rowLength, h.layout_eq]
  have hsize : l.elementSize = size := by simp [elementSize, h.layout_eq]
  rw [rowBytes, hlength, hsize, word_mul h.row_fits]

theorem exists_isContiguous : ∃ dense, l.isContiguous = .ok dense := by
  rw [isContiguous]
  split
  · exact ⟨true, rfl⟩
  · rw [h.rowBytes_eq]
    exact ⟨_, rfl⟩

theorem prod_le_span :
    size * (axes ++ [length]).prod ≤ axes.prod * pitch := by
  rw [List.prod_append, List.prod_singleton, Nat.mul_left_comm, Nat.mul_comm size]
  exact Nat.mul_le_mul_left _ h.row_le_pitch

end Stacked

theorem Accepted.empty_or_rows (h : Accepted extent size l) (hsize : 0 < size) :
    extent.prod = 0 ∨ ∃ g : Rows, g.layout = l ∧ g.extent = extent ∧ g.size = size := by
  by_cases hzero : 0 ∈ extent
  · exact .inl (List.prod_eq_zero hzero)
  · refine .inr (h.exists_rows (fun e he => Nat.pos_of_ne_zero ?_) hsize)
    rintro rfl
    exact hzero he

theorem Accepted.countFits (h : Accepted extent size l) (hsize : 0 < size)
    (hne : ∀ e ∈ extent, e ≠ 0) : CountFits extent := by
  have hpos : ∀ e ∈ extent, 0 < e := fun e he => Nat.pos_of_ne_zero (hne e he)
  obtain ⟨g, -, rfl, -⟩ := h.exists_rows hpos hsize
  rw [CountFits, leading_of_pos hpos, g.prod_extent]
  exact g.elements_le

theorem Accepted.exists_rowOffsets_iff (h : Accepted extent size l) (hsize : 0 < size) :
    (∃ offsets, l.rowOffsets = .ok offsets) ↔ RowsFit extent := by
  have hextent := h.extent_eq hsize
  constructor
  · rintro ⟨offsets, hoffsets⟩
    obtain ⟨rows, hrows, -⟩ := bind_eq_ok.mp hoffsets
    rw [← hextent]
    exact (l.rowCount_eq_ok_iff.mp hrows).2
  · intro hfits
    rcases h.empty_or_rows hsize with hzero | ⟨g, rfl, -, -⟩
    · have hrows : l.rowCount = .ok 0 :=
        l.rowCount_eq_ok_iff.mpr ⟨by rw [hextent, hzero, Nat.zero_div], hextent ▸ hfits⟩
      exact ⟨[], by rw [rowOffsets, hrows]; rfl⟩
    · exact ⟨_, g.layout_rowOffsets⟩

theorem withRowPitch_ne_fault {rowPitch : Nat} (hsize : size ≠ 0) (f : Fault) :
    withRowPitch extent size rowPitch ≠ .error (.fault f) := by
  intro h
  rw [withRowPitch] at h
  split at h
  · simp only [word_rem hsize, lift_ok, ok_bind] at h
    split_ifs at h <;> split at h <;> cases h
  · cases h

end Layout

namespace ViewShape

open Layout

variable {s : ViewShape} {k : ElementKind} {l : Layout}

theorem layout_ne_fault (f : Fault) : s.layout k ≠ .error (.fault f) := by
  intro h
  rw [layout] at h
  rcases hsizes : s.indexKind.toSizes s.extent with e | sizes
  · rw [hsizes] at h
    cases h
  · rw [hsizes, liftError_ok, ok_bind] at h
    split at h
    · exact withRowPitch_ne_fault (Nat.ne_of_gt k.size_pos) f h
    · rw [contiguous, pitched] at h
      split at h
      · exact withRowPitch_ne_fault (Nat.ne_of_gt k.size_pos) f h
      · cases h

theorem layout_accepted (h : s.layout k = .ok l) :
    s.indexKind.toSizes s.extent = .ok l.extent ∧ Accepted l.extent k.size l := by
  obtain ⟨sizes, hsizes, hl⟩ := bind_eq_ok.mp h
  have haccepted : Accepted sizes k.size l := by
    split at hl
    · exact .spaced hl
    · exact .dense hl
  rw [haccepted.extent_eq k.size_pos]
  exact ⟨liftError_eq_ok.mp hsizes, haccepted⟩

end ViewShape

namespace Region

open Box Layout

variable {r source : Region}

theorem exists_toList_iff (h : Accepted r.layout.extent r.kind.size r.layout) (b : Bytes) :
    (∃ xs, r.toList b = .ok xs) ↔ CountFits r.layout.extent := by
  constructor
  · rintro ⟨xs, hxs⟩
    obtain ⟨n, hn, -⟩ := bind_eq_ok.mp hxs
    exact (r.layout.length_eq_ok_iff.mp hn).2
  · intro hfits
    have hlength := r.layout.length_eq_ok_iff.mpr ⟨rfl, hfits⟩
    obtain ⟨offsets, hoffsets⟩ := (h.exists_rowOffsets_iff r.kind.size_pos).mpr (.inr hfits)
    exact ⟨_, by rw [toList, hlength, ok_bind, hoffsets]; rfl⟩

theorem exists_fill_iff (h : Accepted r.layout.extent r.kind.size r.layout)
    (x : Element r.kind) (b : Bytes) :
    (∃ c, r.fill x b = .ok c) ↔ RowsFit r.layout.extent := by
  rw [← h.exists_rowOffsets_iff r.kind.size_pos]
  constructor
  · rintro ⟨c, hc⟩
    obtain ⟨offsets, hoffsets, -⟩ := bind_eq_ok.mp hc
    exact ⟨offsets, hoffsets⟩
  · rintro ⟨offsets, hoffsets⟩
    exact ⟨_, by rw [fill, hoffsets]; rfl⟩

theorem copyIn_fault_iff (h : Accepted r.layout.extent r.kind.size r.layout)
    (xs : List (Element r.kind)) (b : Bytes) :
    (∃ f, r.copyIn xs b = .error (.fault f)) ↔ ¬ CountFits r.layout.extent := by
  by_cases hfits : CountFits r.layout.extent
  · have hlength := r.layout.length_eq_ok_iff.mpr ⟨rfl, hfits⟩
    obtain ⟨offsets, hoffsets⟩ := (h.exists_rowOffsets_iff r.kind.size_pos).mpr (.inr hfits)
    refine iff_of_false ?_ (not_not_intro hfits)
    rintro ⟨f, hf⟩
    rw [copyIn, hlength, lift_ok, ok_bind, hoffsets] at hf
    split_ifs at hf <;> cases hf
  · have hnone : ¬∃ n, r.layout.length = .ok n := by
      rintro ⟨n, hn⟩
      exact hfits (r.layout.length_eq_ok_iff.mp hn).2
    obtain ⟨f, hf⟩ := exists_error_iff.mpr hnone
    refine iff_of_true ⟨f, ?_⟩ hfits
    rw [copyIn, hf]
    rfl

theorem exists_payload_iff (h : Accepted r.layout.extent r.kind.size r.layout) :
    (∃ n, r.payload = .ok n) ↔ RowsFit r.layout.extent := by
  obtain ⟨axes, length, pitch, -, hstacked⟩ := h.exists_stacked r.kind.size_pos
  constructor
  · rintro ⟨n, hn⟩
    obtain ⟨bytes, -, hn⟩ := bind_eq_ok.mp hn
    obtain ⟨rows, hrows, -⟩ := bind_eq_ok.mp hn
    exact (r.layout.rowCount_eq_ok_iff.mp hrows).2
  · intro hfits
    have hrows := r.layout.rowCount_eq_ok_iff.mpr ⟨rfl, hfits⟩
    rcases h.empty_or_rows r.kind.size_pos with hzero | ⟨g, hl, -, -⟩
    · rw [hzero, Nat.zero_div] at hrows
      exact ⟨_, by rw [payload, hstacked.rowBytes_eq, ok_bind, hrows, ok_bind, word_mul (by simp)]⟩
    · have hr : r = g.region r.kind := by rw [Rows.region, hl]
      exact ⟨_, by rw [hr, g.payload_region]⟩

theorem copy_fault_iff (h : Accepted r.layout.extent r.kind.size r.layout)
    (hsource : Accepted source.layout.extent source.kind.size source.layout) (b c : Bytes) :
    (∃ f, r.copy source b c = .error (.fault f)) ↔
      r.layout.extent = source.layout.extent ∧ ¬ RowsFit r.layout.extent := by
  by_cases hextent : r.layout.extent = source.layout.extent
  · rw [copy, if_neg (not_not_intro hextent), and_iff_right hextent]
    by_cases hfits : RowsFit r.layout.extent
    · obtain ⟨axes, length, pitch, -, hstacked⟩ := h.exists_stacked r.kind.size_pos
      obtain ⟨bytes, hbytes⟩ := (exists_payload_iff h).mpr hfits
      obtain ⟨rows, hrows⟩ := (h.exists_rowOffsets_iff r.kind.size_pos).mpr hfits
      obtain ⟨rows', hrows'⟩ :=
        (hsource.exists_rowOffsets_iff source.kind.size_pos).mpr (hextent ▸ hfits)
      refine iff_of_false ?_ (not_not_intro hfits)
      rintro ⟨f, hf⟩
      rw [hbytes, hstacked.rowBytes_eq, hrows, hrows'] at hf
      cases hf
    · obtain ⟨f, hf⟩ := exists_error_iff.mpr fun hn => hfits ((exists_payload_iff h).mp hn)
      refine iff_of_true ⟨f, ?_⟩ hfits
      rw [hf]
      rfl
  · rw [copy, if_pos hextent]
    refine iff_of_false ?_ fun hboth => hextent hboth.1
    rintro ⟨f, hf⟩
    cases hf

end Region

namespace ViewShape

open Box Layout

variable {s : ViewShape} {k : ElementKind} {l : Layout}

/-- What has to be counted to see whether memory covers the shape. -/
def CoverFits (s : ViewShape) (extent : List Nat) : Prop :=
  if s.rowPitch = none then CountFits extent else RowsFit extent

theorem exists_span_iff {extent : List Nat} {size : Nat} (h : Accepted extent size l)
    (hsize : 0 < size) : (∃ n, l.span = .ok n) ↔ RowsFit extent := by
  have hextent := h.extent_eq hsize
  constructor
  · rintro ⟨n, hn⟩
    obtain ⟨rows, hrows, -⟩ := bind_eq_ok.mp hn
    rw [← hextent]
    exact (l.rowCount_eq_ok_iff.mp hrows).2
  · intro hfits
    rcases h.empty_or_rows hsize with hzero | ⟨g, rfl, -, -⟩
    · have hrows : l.rowCount = .ok 0 :=
        l.rowCount_eq_ok_iff.mpr ⟨by rw [hextent, hzero, Nat.zero_div], hextent ▸ hfits⟩
      exact ⟨0, by rw [span, hrows]; rfl⟩
    · exact ⟨_, g.layout_span⟩

theorem checkCover_fault_iff (h : Accepted l.extent k.size l) {count : Nat}
    (hcount : count * k.size ≤ wordMax) :
    (∃ f, s.checkCover k l count = .error (.fault f)) ↔ ¬ s.CoverFits l.extent := by
  rw [checkCover, CoverFits]
  split
  · rename_i hdense
    rw [if_pos hdense]
    by_cases hfits : CountFits l.extent
    · refine iff_of_false ?_ (not_not_intro hfits)
      rintro ⟨f, hf⟩
      rw [l.length_eq_ok_iff.mpr ⟨rfl, hfits⟩, lift_ok, ok_bind] at hf
      split_ifs at hf <;> cases hf
    · obtain ⟨f, hf⟩ := exists_error_iff.mpr fun ⟨n, hn⟩ => hfits (l.length_eq_ok_iff.mp hn).2
      exact iff_of_true ⟨f, by rw [hf]; rfl⟩ hfits
  · rename_i pitch hpitch
    rw [if_neg (by simp [hpitch]), word_mul hcount, lift_ok, ok_bind]
    by_cases hfits : RowsFit l.extent
    · obtain ⟨required, hrequired⟩ := (exists_span_iff h k.size_pos).mpr hfits
      refine iff_of_false ?_ (not_not_intro hfits)
      rintro ⟨f, hf⟩
      rw [hrequired, lift_ok, ok_bind] at hf
      split_ifs at hf <;> cases hf
    · obtain ⟨f, hf⟩ := exists_error_iff.mpr fun hn => hfits ((exists_span_iff h k.size_pos).mp hn)
      exact iff_of_true ⟨f, by rw [hf]; rfl⟩ hfits

end ViewShape

theorem View.ofSlice_fault_iff {handle : Handle} {device : DeviceId} {k : ElementKind}
    {count : Nat} {s : ViewShape} (hcount : count * k.size ≤ wordMax) :
    (∃ f, ofSlice handle device k count s = .error (.fault f)) ↔
      ∃ l, s.layout k = .ok l ∧ ¬ s.CoverFits l.extent := by
  rw [ofSlice]
  rcases hl : s.layout k with e | l
  · refine iff_of_false ?_ (by simp)
    rintro ⟨f, hf⟩
    rw [error_bind, Except.error.injEq] at hf
    exact s.layout_ne_fault f (hl.trans (congrArg _ hf))
  · simp only [ok_bind, Except.ok.injEq, exists_eq_left',
      ← ViewShape.checkCover_fault_iff (ViewShape.layout_accepted hl).2 hcount]
    rcases hcover : s.checkCover k l count with e | u
    · simp
    · refine iff_of_false ?_ (by simp)
      rintro ⟨f, hf⟩
      cases hf

namespace Layout

open Box

/-- Questions about the size of an accepted layout, axes of which may be empty. Whether it is
empty, the bytes that it spans, the bytes of a row and whether rows are padded are always
answered, and the span has room for all elements. The number of elements is exact, and is
answered exactly if the axes before the first empty one multiply within a machine word; so is
everything that counts rows, unless rows have no elements. Without empty axes all of it is
answered. Making a view of host memory, and reading, filling or copying any view, overflow
exactly where they count elements or rows and there are too many. -/
theorem sizes_of_accepted {extent : List Nat} {size : Nat} {l : Layout} (hsize : 0 < size)
    (h : Accepted extent size l) :
    (l.isEmpty = true ↔ 0 ∈ extent) ∧
    (∃ bytes, l.sizeBytes = .ok bytes ∧ size * extent.prod ≤ bytes) ∧
    (∃ bytes, l.rowBytes = .ok bytes) ∧ (∃ dense, l.isContiguous = .ok dense) ∧
    (∀ n, l.length = .ok n ↔ extent.prod = n ∧ CountFits extent) ∧
    (∀ n, l.rowCount = .ok n ↔ extent.prod / extent.getLastD 0 = n ∧ RowsFit extent) ∧
    ((∃ offsets, l.rowOffsets = .ok offsets) ↔ RowsFit extent) ∧
    ((∀ e ∈ extent, e ≠ 0) → CountFits extent) ∧
    (∀ k : ElementKind, k.size = size → ∀ (x : Element k) (xs : List (Element k)) (b c : Bytes)
      (l' : Layout), Accepted extent size l' →
      ((∃ ys, Region.toList ⟨k, l⟩ b = .ok ys) ↔ CountFits extent) ∧
      ((∃ d, Region.fill ⟨k, l⟩ x b = .ok d) ↔ RowsFit extent) ∧
      ((∃ f, Region.copyIn ⟨k, l⟩ xs b = .error (.fault f)) ↔ ¬ CountFits extent) ∧
      ((∃ f, Region.copy ⟨k, l⟩ ⟨k, l'⟩ b c = .error (.fault f)) ↔ ¬ RowsFit extent)) ∧
    ∀ handle device k count (s : ViewShape), count * k.size ≤ wordMax →
      ((∃ f, View.ofSlice handle device k count s = .error (.fault f)) ↔
        ∃ m, s.layout k = .ok m ∧ ¬ s.CoverFits m.extent) := by
  obtain ⟨axes, length, pitch, rfl, hstacked⟩ := h.exists_stacked hsize
  have hextent := h.extent_eq hsize
  refine ⟨?_, ⟨_, hstacked.sizeBytes_eq, hstacked.prod_le_span⟩, ⟨_, hstacked.rowBytes_eq⟩,
    hstacked.exists_isContiguous, ?_, ?_, h.exists_rowOffsets_iff hsize, h.countFits hsize, ?_, ?_⟩
  · rw [isEmpty, hextent, List.contains_iff_mem]
  · intro n
    rw [l.length_eq_ok_iff, hextent]
  · intro n
    rw [l.rowCount_eq_ok_iff, rowLength, hextent]
  · rintro k rfl x xs b c l' h'
    have hextent' := h'.extent_eq hsize
    have hl : Accepted l.extent k.size l := by rwa [hextent]
    have hl' : Accepted l'.extent k.size l' := by rwa [hextent']
    have hcopy := @Region.copy_fault_iff ⟨k, l⟩ ⟨k, l'⟩ hl hl' b c
    rw [hextent, hextent', and_iff_right rfl] at hcopy
    rw [← hextent] at hcopy ⊢
    exact ⟨Region.exists_toList_iff (r := ⟨k, l⟩) hl b, Region.exists_fill_iff (r := ⟨k, l⟩) hl x b,
      Region.copyIn_fault_iff (r := ⟨k, l⟩) hl xs b, hcopy⟩
  · intro handle device k count s hcount
    exact View.ofSlice_fault_iff hcount

/-- An empty axis behind one large axis is early enough, behind two it is not. -/
theorem sizes_of_empty_middle :
    length ⟨[4294967296, 0, 4294967296], [0, 17179869184, 4]⟩ = .ok 0 ∧
      (∃ offsets, rowOffsets ⟨[4294967296, 0, 4294967296], [0, 17179869184, 4]⟩ = .ok offsets) ∧
      ¬ ∃ offsets, rowOffsets ⟨[4294967296, 4294967296, 0, 5], [0, 0, 20, 4]⟩ = .ok offsets := by
  have hearly : contiguous [4294967296, 0, 4294967296] 4 =
      .ok ⟨[4294967296, 0, 4294967296], [0, 17179869184, 4]⟩ := by rfl
  have hlate : contiguous [4294967296, 4294967296, 0, 5] 4 =
      .ok ⟨[4294967296, 4294967296, 0, 5], [0, 0, 20, 4]⟩ := by rfl
  obtain ⟨-, -, -, -, hlength, -, hrows, -⟩ := sizes_of_accepted (by decide) (.dense hearly)
  obtain ⟨-, -, -, -, -, -, hlate, -⟩ := sizes_of_accepted (by decide) (.dense hlate)
  exact ⟨(hlength 0).mpr (by decide), hrows.mpr (by decide),
    fun h => absurd (hlate.mp h) (by decide)⟩

/-- Two axes whose product leaves a machine word, an empty axis and a row: accepted, and neither
its elements nor its rows can be counted. -/
theorem not_forall_exists_sizes :
    ¬ ∀ (extent : List Nat) (size : Nat) (l : Layout), 0 < size → Accepted extent size l →
      (∃ n, l.length = .ok n) ∧ (∃ n, l.rowCount = .ok n) ∧
        ∃ offsets, l.rowOffsets = .ok offsets := by
  intro h
  have haccepted : contiguous [4294967296, 4294967296, 0, 5] 4 =
      .ok ⟨[4294967296, 4294967296, 0, 5], [0, 0, 20, 4]⟩ := by rfl
  obtain ⟨⟨n, hn⟩, -⟩ := h _ 4 _ (by decide) (.dense haccepted)
  exact absurd ((length_eq_ok_iff _).mp hn).2 (by decide)

end Layout

end LaneGrid
