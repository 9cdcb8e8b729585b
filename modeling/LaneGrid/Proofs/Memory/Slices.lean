import LaneGrid.Proofs.Memory.Sizes

namespace LaneGrid

namespace Bytes

theorem get_eq_of_loadNat_eq {b c : Bytes} {offset n t : Nat}
    (h : b.loadNat offset n = c.loadNat offset n) (ht : t < n) :
    b.get (offset + t) = c.get (offset + t) := by
  induction n generalizing offset t with
  | zero => omega
  | succ n ih =>
      rw [loadNat, loadNat] at h
      have hb := (b.get offset).toNat_lt
      have hc := (c.get offset).toNat_lt
      rcases t with _ | t
      · rw [Nat.add_zero]
        exact UInt8.toNat_inj.mp (by omega)
      · rw [Nat.add_comm t 1, ← Nat.add_assoc]
        exact ih (by omega) (Nat.lt_of_succ_lt_succ ht)

theorem loadNat_lt (b : Bytes) (offset n : Nat) : b.loadNat offset n < Nat.pow 256 n := by
  induction n generalizing offset with
  | zero => exact Nat.one_pos
  | succ n ih =>
      have hbyte := (b.get offset).toNat_lt
      have hrest := ih (offset + 1)
      have hpow : Nat.pow 256 (n + 1) = 256 * Nat.pow 256 n := Nat.pow_succ'
      rw [loadNat, hpow]
      omega

theorem toNat_load (b : Bytes) (k : ElementKind) (offset : Nat) :
    (b.load k offset).toNat = b.loadNat offset k.size := by
  have hbits : Nat.pow 2 k.bits = Nat.pow 256 k.size := Nat.pow_mul 2 8 k.size
  have hlt := Nat.lt_of_lt_of_eq (b.loadNat_lt offset k.size) hbits.symm
  rw [load, BitVec.toNat_ofNat]
  exact Nat.mod_eq_of_lt hlt

theorem get_eq_of_load_eq {b c : Bytes} {k : ElementKind} {offset i : Nat}
    (h : b.load k offset = c.load k offset) (hlow : offset ≤ i) (hhigh : i < offset + k.size) :
    b.get i = c.get i := by
  have hnat := congrArg BitVec.toNat h
  rw [toNat_load, toNat_load] at hnat
  have hbyte := get_eq_of_loadNat_eq hnat (t := i - offset) (by omega)
  rwa [Nat.add_sub_cancel' hlow] at hbyte

theorem copyFrom_congr {b c c' : Bytes} {offset start n : Nat}
    (h : ∀ t < n, c.get (start + t) = c'.get (start + t)) :
    b.copyFrom offset c start n = b.copyFrom offset c' start n := by
  induction n generalizing b offset start with
  | zero => rfl
  | succ n ih =>
      have hfirst : c.get start = c'.get start := h 0 (Nat.succ_pos n)
      rw [copyFrom, copyFrom, hfirst]
      refine ih fun t ht => ?_
      rw [Nat.add_assoc, Nat.add_comm 1 t]
      exact h (t + 1) (Nat.succ_lt_succ ht)

theorem copyRows_congr {b c c' : Bytes} {n : Nat} {rows : List (Nat × Nat)}
    (h : ∀ p ∈ rows, ∀ t < n, c.get (p.2 + t) = c'.get (p.2 + t)) :
    copyRows c n b rows = copyRows c' n b rows := by
  induction rows generalizing b with
  | nil => rfl
  | cons p rows ih =>
      rw [copyRows, List.foldl_cons, copyFrom_congr (h p (by simp))]
      exact ih fun q hq => h q (by simp [hq])

end Bytes

namespace Rows

variable {g : Rows} {k : ElementKind} {limit : Nat}

theorem place_last (g : Rows) : g.place (g.elements - 1) + g.size = g.reach := by
  obtain ⟨rows, hrows⟩ := Nat.exists_eq_succ_of_ne_zero (Nat.ne_of_gt g.count_pos)
  obtain ⟨column, hcolumn⟩ := Nat.exists_eq_succ_of_ne_zero (Nat.ne_of_gt g.length_pos)
  have hlast : g.elements - 1 = rows * g.length + column := by
    rw [elements, hrows, Nat.succ_mul]
    omega
  rw [hlast, g.place_row_add rows (by omega), reach, hrows, Nat.succ_sub_one, Nat.add_assoc]
  congr 1
  rw [hcolumn, Nat.succ_mul]

theorem place_add_le_reach {n : Nat} (h : n < g.elements) : g.place n + g.size ≤ g.reach := by
  rcases Nat.lt_or_eq_of_le (Nat.le_sub_one_of_lt h) with hlt | rfl
  · calc
      g.place n + g.size ≤ g.place (g.elements - 1) := g.place_add_le hlt
      _ ≤ g.place (g.elements - 1) + g.size := Nat.le_add_right _ _
      _ = g.reach := g.place_last
  · exact Nat.le_of_eq g.place_last

theorem row_end_le_reach {r : Nat} (h : r < g.count) :
    r * g.pitch + g.length * g.size ≤ g.reach :=
  Nat.add_le_add_right (Nat.mul_le_mul_right _ (Nat.le_sub_one_of_lt h)) _

theorem reach_le_iff (g : Rows) :
    g.reach ≤ limit ↔ ∀ index, Box.Within index g.extent → ∃ offset,
      g.layout.byteOffset index = .ok offset ∧ offset + g.size ≤ limit := by
  constructor
  · intro hreach index hin
    obtain ⟨hlt, hoffset⟩ := g.exists_place hin
    exact ⟨_, hoffset, Nat.le_trans (place_add_le_reach hlt) hreach⟩
  · intro hall
    have hpos : 0 < g.elements := Nat.mul_pos g.count_pos g.length_pos
    obtain ⟨offset, hoffset, hle⟩ := hall _ (Box.within_index g.extent_pos (g.elements - 1))
    rw [g.place_eq_of_byteOffset (Box.within_index g.extent_pos _) hoffset, Box.number_index,
      g.prod_extent, Nat.mod_eq_of_lt (Nat.sub_one_lt_of_lt hpos), g.place_last] at hle
    exact hle

theorem reach_of_dense (h : g.pitch = g.length * g.size) : g.reach = g.elements * g.size := by
  obtain ⟨rows, hrows⟩ := Nat.exists_eq_succ_of_ne_zero (Nat.ne_of_gt g.count_pos)
  rw [reach, elements, h, hrows, Nat.succ_sub_one, ← Nat.succ_mul, Nat.mul_assoc]

section

variable (hk : g.size = k.size) (hreach : g.reach ≤ limit)

include hk hreach

theorem lt_of_holds {i : Nat} (h : (g.region k).Holds i) : i < limit := by
  obtain ⟨index, offset, hin, hoffset, -, hhigh⟩ := h
  obtain ⟨offset', hoffset', hle⟩ := g.reach_le_iff.mp hreach index hin
  obtain rfl := Except.ok.inj (hoffset.symm.trans hoffset')
  rw [← hk] at hhigh
  omega

theorem contents_congr {b c : Bytes} (h : ∀ i < limit, b.get i = c.get i) :
    g.contents k b = g.contents k c := by
  refine List.map_congr_left fun n hn => ?_
  have hend := Nat.le_trans (place_add_le_reach (List.mem_range.mp hn)) hreach
  rw [hk] at hend
  rw [Bytes.load, Bytes.load, Bytes.loadNat_congr fun i _ hi => h i (by omega)]

omit hk hreach in
theorem get_eq_of_contents_eq {b c : Bytes} (h : g.contents k b = g.contents k c) {i : Nat}
    (hi : (g.region k).Holds i) : b.get i = c.get i := by
  obtain ⟨index, offset, hin, hoffset, hlow, hhigh⟩ := hi
  obtain ⟨hlt, hplace⟩ := g.exists_place hin
  obtain rfl := Except.ok.inj (hoffset.symm.trans hplace)
  have hload := congrArg (·[Box.number index g.extent]?) h
  rw [getElem?_contents hlt, getElem?_contents hlt, Option.some_inj] at hload
  exact Bytes.get_eq_of_load_eq hload hlow hhigh

omit hk in
theorem get_copy_of_le {source : Region} {b c d : Bytes}
    (h : (g.region k).copy source b c = .ok d) {i : Nat} (hi : limit ≤ i) : d.get i = b.get i := by
  simp only [Region.copy, payload_region, layout_rowBytes, layout_rowOffsets, lift_ok,
    ok_bind] at h
  split at h
  · cases h
  · obtain ⟨rows, -, hd⟩ := bind_eq_ok.mp h
    rw [← Except.ok.inj hd]
    refine Bytes.get_copyRows_of_outside fun p hp => .inr ?_
    obtain ⟨r, hr, hrow⟩ := List.mem_map.mp (List.of_mem_zip hp).1
    have hend := row_end_le_reach (List.mem_range.mp hr)
    rw [hrow] at hend
    omega

theorem copy_congr {l : Layout} (htarget : Layout.Accepted l.extent k.size l)
    {b c c' : Bytes} (h : ∀ i < limit, c.get i = c'.get i) :
    Region.copy ⟨k, l⟩ (g.region k) b c = Region.copy ⟨k, l⟩ (g.region k) b c' := by
  by_cases hextent : l.extent = g.extent
  · have hpos : ∀ e ∈ l.extent, 0 < e := hextent ▸ g.extent_pos
    obtain ⟨t, rfl, -, hsize⟩ := htarget.exists_rows hpos k.size_pos
    have hsame : t.extent = g.extent := hextent
    obtain ⟨-, hlength⟩ := length_eq_of_extent_eq hsame
    rw [copy_region hsame, copy_region hsame, copied, copied]
    congr 1
    refine Bytes.copyRows_congr fun p hp n hn => h _ ?_
    obtain ⟨r, hr, rfl⟩ := List.mem_map.mp hp
    have hr : r < g.count := count_eq_of_extent_eq hsame ▸ List.mem_range.mp hr
    have hend := row_end_le_reach hr
    rw [hsize, hlength, ← hk] at hn
    show r * g.pitch + n < limit
    omega
  · rw [Region.copy_of_extent_ne hextent, Region.copy_of_extent_ne hextent]

end

end Rows

namespace View

/-- Nothing that is done through the view, by any sequence of requests or by a copy to it or
from it, depends on bytes from `limit` on, or changes them. -/
structure Confined (v : View) (limit : Nat) : Prop where
  holds_lt : ∀ i, v.region.Holds i → i < limit
  reads : ∀ (requests : List v.Query) (b c : Bytes), (∀ i < limit, b.get i = c.get i) →
    (serveAll v.serve b requests).1 = (serveAll v.serve c requests).1 ∧
      ∀ i < limit, (serveAll v.serve b requests).2.get i = (serveAll v.serve c requests).2.get i
  writes : ∀ (requests : List v.Query) (b : Bytes) (i : Nat), limit ≤ i →
    (serveAll v.serve b requests).2.get i = b.get i
  copiedTo : ∀ (source : Region) (b c d : Bytes), v.region.copy source b c = .ok d →
    ∀ i, limit ≤ i → d.get i = b.get i
  copiedFrom : ∀ l : Layout, Layout.Accepted l.extent v.region.kind.size l →
    ∀ b c c' : Bytes, (∀ i < limit, c.get i = c'.get i) →
      Region.copy ⟨v.region.kind, l⟩ v.region b c = Region.copy ⟨v.region.kind, l⟩ v.region b c'

section

variable {handle : Handle} {device : DeviceId} {indexKind : IndexKind} {extent : List Int}
  {g : Rows} {k : ElementKind} {limit : Nat}

variable (hk : g.size = k.size) (hreach : g.reach ≤ limit)

include hk hreach

theorem serve_congr {b c : Bytes} (h : ∀ i < limit, b.get i = c.get i)
    (q : (ofRows handle device indexKind extent g k).Query) :
    ((ofRows handle device indexKind extent g k).serve b q).1 =
        ((ofRows handle device indexKind extent g k).serve c q).1 ∧
      ∀ i < limit, ((ofRows handle device indexKind extent g k).serve b q).2.get i =
        ((ofRows handle device indexKind extent g k).serve c q).2.get i := by
  obtain ⟨hanswer, hlist, hkeep⟩ := agrees_of_rows (b := b) hk (fun _ _ => rfl) q
  obtain ⟨hanswer', hlist', hkeep'⟩ := agrees_of_rows (b := c) hk (fun _ _ => rfl) q
  have hcontents := Rows.contents_congr hk hreach h
  rw [← hcontents] at hanswer' hlist'
  refine ⟨hanswer.trans hanswer'.symm, fun i hi => ?_⟩
  by_cases hheld : (g.region k).Holds i
  · have hsame := hlist.trans hlist'.symm
    rw [Rows.toList_region hk, Rows.toList_region hk, Except.ok.injEq] at hsame
    exact Rows.get_eq_of_contents_eq hsame hheld
  · rw [hkeep i hheld, hkeep' i hheld, h i hi]

theorem get_serve_of_le (b : Bytes) (q : (ofRows handle device indexKind extent g k).Query)
    {i : Nat} (hi : limit ≤ i) :
    ((ofRows handle device indexKind extent g k).serve b q).2.get i = b.get i := by
  obtain ⟨-, -, hkeep⟩ := agrees_of_rows (b := b) hk (fun _ _ => rfl) q
  refine hkeep i fun hheld => ?_
  exact Nat.not_lt.mpr hi (Rows.lt_of_holds hk hreach hheld)

theorem confined_of_rows : (ofRows handle device indexKind extent g k).Confined limit where
  holds_lt := fun _ => Rows.lt_of_holds hk hreach
  reads := fun requests _ _ h =>
    serveAll_agrees (R := fun b c : Bytes => ∀ i < limit, b.get i = c.get i)
      (fun _ _ q hbelow => serve_congr hk hreach hbelow q) requests h
  writes := by
    intro requests
    induction requests with
    | nil => exact fun _ _ _ => rfl
    | cons q rest ih =>
        intro b i hi
        rw [serveAll, ih _ i hi]
        exact get_serve_of_le hk hreach b q hi
  copiedTo := fun _ _ _ _ h _ => Rows.get_copy_of_le hreach h
  copiedFrom := fun _ haccepted _ _ _ h => Rows.copy_congr hk hreach haccepted h

end

variable {handle : Handle} {device : DeviceId} {k : ElementKind} {count : Nat} {s : ViewShape}

theorem ofSlice_eq_ok_iff {v : View} :
    ofSlice handle device k count s = .ok v ↔ ∃ l, s.layout k = .ok l ∧
      s.checkCover k l count = .ok () ∧ v = ⟨handle, device, s.indexKind, s.extent, ⟨k, l⟩⟩ := by
  constructor
  · intro h
    obtain ⟨l, hl, h⟩ := bind_eq_ok.mp h
    obtain ⟨u, hcover, h⟩ := bind_eq_ok.mp h
    exact ⟨l, hl, hcover, (Except.ok.inj h).symm⟩
  · rintro ⟨l, hl, hcover, rfl⟩
    rw [ofSlice, hl, ok_bind, hcover]
    rfl

theorem exists_ofSlice_iff :
    (∃ v, ofSlice handle device k count s = .ok v) ↔
      ∃ l, s.layout k = .ok l ∧ s.checkCover k l count = .ok () := by
  constructor
  · rintro ⟨v, hv⟩
    obtain ⟨l, hl, hcover, -⟩ := ofSlice_eq_ok_iff.mp hv
    exact ⟨l, hl, hcover⟩
  · rintro ⟨l, hl, hcover⟩
    exact ⟨_, ofSlice_eq_ok_iff.mpr ⟨l, hl, hcover, rfl⟩⟩

theorem checkCover_dense_iff {l : Layout} (hpitch : s.rowPitch = none) :
    s.checkCover k l count = .ok () ↔ l.length = .ok count := by
  rw [ViewShape.checkCover, hpitch]
  rcases hlength : l.length with f | n
  · constructor <;> rintro ⟨⟩
  · simp only [lift_ok, ok_bind, Except.ok.injEq]
    split_ifs with hne
    · refine iff_of_false ?_ fun heq => hne heq.symm
      rintro ⟨⟩
    · exact iff_of_true rfl (Decidable.of_not_not hne).symm

theorem checkCover_rows_iff {g : Rows} {pitch : Nat} (hpitch : s.rowPitch = some pitch)
    (hcount : count * k.size ≤ wordMax) :
    s.checkCover k g.layout count = .ok () ↔ g.reach ≤ count * k.size := by
  rw [ViewShape.checkCover, hpitch]
  simp only [word_mul hcount, g.layout_span, lift_ok, ok_bind]
  split_ifs with hshort
  · refine iff_of_false ?_ (Nat.not_le.mpr hshort)
    rintro ⟨⟩
  · exact iff_of_true rfl (Nat.le_of_not_lt hshort)

theorem exists_rows_of_ofSlice {v : View} (hextent : ∀ e ∈ s.extent, e ≠ 0)
    (hcount : count * k.size ≤ wordMax) (h : ofSlice handle device k count s = .ok v) :
    ∃ g : Rows, g.size = k.size ∧ g.reach ≤ count * k.size ∧
      v = ofRows handle device s.indexKind s.extent g k := by
  obtain ⟨l, hl, hcover, rfl⟩ := ofSlice_eq_ok_iff.mp h
  obtain ⟨sizes, hsizes, haccepted⟩ := bind_eq_ok.mp hl
  have hpos := toSizes_pos (liftError_eq_ok.mp hsizes) hextent
  rcases hpitch : s.rowPitch with _ | pitch
  · rw [hpitch] at haccepted
    obtain ⟨g, rfl, -, hsize⟩ := Layout.exists_rows_of_pitched hpos k.size_pos haccepted
    have hdense : g.pitch = g.length * g.size := by
      have hcontiguous := Layout.isContiguous_of_contiguous hpos k.size_pos haccepted
      rw [g.layout_isContiguous] at hcontiguous
      exact of_decide_eq_true (Except.ok.inj hcontiguous)
    have hcover := (checkCover_dense_iff hpitch).mp hcover
    rw [g.layout_length, Except.ok.injEq] at hcover
    refine ⟨g, hsize, ?_, rfl⟩
    rw [Rows.reach_of_dense hdense, hcover, hsize]
  · rw [hpitch] at haccepted
    obtain ⟨g, rfl, -, hsize, -⟩ := Layout.exists_rows_of_withRowPitch hpos k.size_pos haccepted
    exact ⟨g, hsize, (checkCover_rows_iff hpitch hcount).mp hcover, rfl⟩

theorem exists_ofSlice_spaced_iff {pitch : Nat} (hextent : ∀ e ∈ s.extent, e ≠ 0)
    (hcount : count * k.size ≤ wordMax) (hpitch : s.rowPitch = some pitch) :
    (∃ v, ofSlice handle device k count s = .ok v) ↔
      ∃ sizes l, s.indexKind.toSizes s.extent = .ok sizes ∧
        Layout.withRowPitch sizes k.size pitch = .ok l ∧
        ∀ index, Box.Within index sizes → ∃ offset, l.byteOffset index = .ok offset ∧
          offset + k.size ≤ count * k.size := by
  simp only [exists_ofSlice_iff, ViewShape.layout, hpitch, bind_eq_ok, liftError_eq_ok]
  -- rows of an accepted layout are covered exactly if their elements are
  have hcovered : ∀ sizes l, s.indexKind.toSizes s.extent = .ok sizes →
      Layout.withRowPitch sizes k.size pitch = .ok l → (s.checkCover k l count = .ok () ↔
        ∀ index, Box.Within index sizes → ∃ offset, l.byteOffset index = .ok offset ∧
          offset + k.size ≤ count * k.size) := by
    intro sizes l hsizes hl
    obtain ⟨g, rfl, rfl, hsize, -⟩ :=
      Layout.exists_rows_of_withRowPitch (toSizes_pos hsizes hextent) k.size_pos hl
    rw [checkCover_rows_iff hpitch hcount, g.reach_le_iff, hsize]
  constructor
  · rintro ⟨l, ⟨sizes, hsizes, hl⟩, hcover⟩
    exact ⟨sizes, l, hsizes, hl, (hcovered sizes l hsizes hl).mp hcover⟩
  · rintro ⟨sizes, l, hsizes, hl, hfits⟩
    exact ⟨l, ⟨sizes, hsizes, hl⟩, (hcovered sizes l hsizes hl).mpr hfits⟩

theorem exists_ofSlice_dense_iff (hpitch : s.rowPitch = none) :
    (∃ v, ofSlice handle device k count s = .ok v) ↔
      ∃ sizes l, s.indexKind.toSizes s.extent = .ok sizes ∧
        Layout.contiguous sizes k.size = .ok l ∧ l.length = .ok count := by
  simp only [exists_ofSlice_iff, ViewShape.layout, hpitch, bind_eq_ok, liftError_eq_ok,
    checkCover_dense_iff hpitch]
  constructor
  · rintro ⟨l, ⟨sizes, hsizes, hl⟩, hlength⟩
    exact ⟨sizes, l, hsizes, hl, hlength⟩
  · rintro ⟨sizes, l, hsizes, hl, hlength⟩
    exact ⟨l, ⟨sizes, hsizes, hl⟩, hlength⟩

theorem ok_or_error_of_ofSlice (hextent : ∀ e ∈ s.extent, e ≠ 0)
    (hcount : count * k.size ≤ wordMax) :
    (∃ v, ofSlice handle device k count s = .ok v) ∨
      ∃ e, ofSlice handle device k count s = .error (.error e) := by
  rcases h : ofSlice handle device k count s with (f | e) | v
  · obtain ⟨l, hl, huncounted⟩ := (ofSlice_fault_iff hcount).mp ⟨f, h⟩
    obtain ⟨hsizes, haccepted⟩ := ViewShape.layout_accepted hl
    have hfits := haccepted.countFits k.size_pos fun e he =>
      Nat.ne_of_gt (toSizes_pos hsizes hextent e he)
    rw [ViewShape.CoverFits] at huncounted
    split_ifs at huncounted
    · exact absurd hfits huncounted
    · exact absurd (.inr hfits) huncounted
  · exact .inr ⟨e, rfl⟩
  · exact .inl ⟨v, rfl⟩

/-- A view of `count` host elements, for an extent without empty axes. With a row pitch it is made
exactly if the extent and the pitch are accepted and every element lies inside the memory, whether
or not the padding after the last row does; without one it is made exactly if the memory has as
many elements as the extent. Otherwise the request is refused, and a view that was made neither
reads nor writes beyond the memory. -/
theorem ofSlice_exact (handle : Handle) (device : DeviceId) (k : ElementKind) (count : Nat)
    (s : ViewShape) (hextent : ∀ e ∈ s.extent, e ≠ 0) (hcount : count * k.size ≤ wordMax) :
    (∀ pitch, s.rowPitch = some pitch → ((∃ v, ofSlice handle device k count s = .ok v) ↔
      ∃ sizes l, s.indexKind.toSizes s.extent = .ok sizes ∧
        Layout.withRowPitch sizes k.size pitch = .ok l ∧
        ∀ index, Box.Within index sizes → ∃ offset, l.byteOffset index = .ok offset ∧
          offset + k.size ≤ count * k.size)) ∧
    (s.rowPitch = none → ((∃ v, ofSlice handle device k count s = .ok v) ↔
      ∃ sizes l, s.indexKind.toSizes s.extent = .ok sizes ∧
        Layout.contiguous sizes k.size = .ok l ∧ l.length = .ok count)) ∧
    ((∃ v, ofSlice handle device k count s = .ok v) ∨
      ∃ e, ofSlice handle device k count s = .error (.error e)) ∧
    ∀ v, ofSlice handle device k count s = .ok v → v.Confined (count * k.size) := by
  refine ⟨fun _ hpitch => exists_ofSlice_spaced_iff hextent hcount hpitch,
    exists_ofSlice_dense_iff, ok_or_error_of_ofSlice hextent hcount, fun v hv => ?_⟩
  obtain ⟨g, hsize, hreach, rfl⟩ := exists_rows_of_ofSlice hextent hcount hv
  exact confined_of_rows hsize hreach

/-- Two rows of three 4-byte elements, 16 bytes apart, need 28 bytes: seven elements are enough
and six are not. -/
theorem ofSlice_exact_two_rows :
    (∃ v, ofSlice .view ⟨.host, 0⟩ .u32 7 ⟨.word, [2, 3], some 16⟩ = .ok v ∧ v.Confined 28) ∧
      ¬ ∃ v, ofSlice .view ⟨.host, 0⟩ .u32 6 ⟨.word, [2, 3], some 16⟩ = .ok v := by
  have hmade : ofSlice .view ⟨.host, 0⟩ .u32 7 ⟨.word, [2, 3], some 16⟩ =
      .ok ⟨.view, ⟨.host, 0⟩, .word, [2, 3], ⟨.u32, ⟨[2, 3], [16, 4]⟩⟩⟩ := by rfl
  have hconfined := (ofSlice_exact .view ⟨.host, 0⟩ .u32 7 ⟨.word, [2, 3], some 16⟩ (by decide)
    (by decide)).2.2.2 _ hmade
  refine ⟨⟨_, hmade, hconfined⟩, fun hshort => ?_⟩
  obtain ⟨sizes, l, hsizes, hl, hfits⟩ := ((ofSlice_exact .view ⟨.host, 0⟩ .u32 6
    ⟨.word, [2, 3], some 16⟩ (by decide) (by decide)).1 16 rfl).mp hshort
  cases hsizes
  cases hl
  obtain ⟨offset, hoffset, hle⟩ := hfits [1, 2] (.cons (by decide) (.cons (by decide) .nil))
  cases hoffset
  exact absurd hle (by decide)

end View

end LaneGrid
