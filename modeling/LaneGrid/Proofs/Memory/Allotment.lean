import Mathlib.Data.Nat.Prime.Basic
import LaneGrid.Settings.Validity
import LaneGrid.Proofs.Box.Codec
import LaneGrid.Proofs.Memory.Clone
import LaneGrid.Proofs.Rounding

namespace LaneGrid

theorem isPowerOfTwo_iff {n : Nat} : isPowerOfTwo n = true ↔ n.isPowerOfTwo := by
  rw [← Nat.ne_zero_and_sub_one_eq_zero_iff_isPowerOfTwo]
  simp [isPowerOfTwo]

theorem ElementKind.size_isPowerOfTwo (k : ElementKind) : k.size.isPowerOfTwo := by
  rw [← isPowerOfTwo_iff]
  cases k <;> decide

/-- Rounded up to a power of two, a multiple of a power of two stays one: either the step is a
multiple of it as well, or there is nothing to round. -/
theorem dvd_ceilDiv_mul {n size step : Nat} (hsize : size.isPowerOfTwo) (hstep : step.isPowerOfTwo)
    (hn : size ∣ n) : size ∣ n ⌈/⌉ step * step := by
  obtain ⟨i, rfl⟩ := hsize
  obtain ⟨j, rfl⟩ := hstep
  rcases Nat.le_total i j with hle | hle
  · exact Nat.dvd_mul_left_of_dvd (Nat.pow_dvd_pow 2 hle) _
  · have hexact : 2 ^ j ∣ n := Nat.dvd_trans (Nat.pow_dvd_pow 2 hle) hn
    rw [ceilDiv_eq_ite (Nat.two_pow_pos j), if_pos (Nat.mod_eq_zero_of_dvd hexact),
      Nat.div_mul_cancel hexact]
    exact hn

theorem isLeast_ceilDiv_mul {step : Nat} (hstep : 0 < step) (n : Nat) :
    IsLeast {m | step ∣ m ∧ n ≤ m} (n ⌈/⌉ step * step) := by
  refine ⟨⟨Nat.dvd_mul_left _ _, le_ceilDiv_mul hstep n⟩, ?_⟩
  rintro m ⟨⟨q, rfl⟩, hle⟩
  rw [Nat.mul_comm step]
  exact Nat.mul_le_mul_right step ((ceilDiv_le_iff_le_mul hstep).mpr hle)

namespace Layout

/-- Distance of rows that start at multiples of `step`. -/
def paddedRow (length size step : Nat) : Nat :=
  (length * size) ⌈/⌉ step * step

/-- Bytes of a box of such rows. A box of one axis has a single row, which is not padded. -/
def paddedBytes (axes : List Nat) (length size step : Nat) : Nat :=
  if axes = [] then length * size else paddedRow length size step * axes.prod

theorem le_paddedRow (length size : Nat) {step : Nat} (hstep : 0 < step) :
    length * size ≤ paddedRow length size step :=
  le_ceilDiv_mul hstep _

theorem paddedBytes_pos {axes : List Nat} {length size step : Nat} (haxes : ∀ e ∈ axes, 0 < e)
    (hlength : 0 < length) (hsize : 0 < size) (hstep : 0 < step) :
    0 < paddedBytes axes length size step := by
  have hrow : 0 < length * size := Nat.mul_pos hlength hsize
  rw [paddedBytes]
  split
  · exact hrow
  · have hpadded := Nat.lt_of_lt_of_le hrow (le_paddedRow length size hstep)
    exact Nat.mul_pos hpadded (List.prod_pos_iff_forall_pos_nat.mpr haxes)

section

variable {axes : List Nat} {length size pitch step : Nat}

theorem pitches?_eq (haxes : ∀ e ∈ axes, 0 < e) (hfits : pitch * axes.prod ≤ wordMax) :
    pitches? size pitch (axes ++ [length]) = some (rowPitches pitch axes ++ [size]) := by
  induction axes with
  | nil => rfl
  | cons e axes ih =>
      rcases axes with _ | ⟨f, axes⟩
      · simp [pitches?, rowPitches]
      · have hle : pitch * (f :: axes).prod ≤ pitch * (e :: f :: axes).prod := by
          rw [List.prod_cons (a := e)]
          exact Nat.mul_le_mul_left _ (Nat.le_mul_of_pos_left _ (haxes e (by simp)))
        have hinner := ih (fun x hx => haxes x (by simp [hx])) (Nat.le_trans hle hfits)
        have hplane : wordProduct? (pitch * axes.prod) f = some (pitch * (f :: axes).prod) := by
          have hsame : pitch * axes.prod * f = pitch * (f :: axes).prod := by
            rw [List.prod_cons, Nat.mul_assoc, Nat.mul_comm f]
          exact wordProduct?_eq_some.mpr ⟨by omega, hsame⟩
        obtain ⟨g, rest, hrest⟩ : ∃ g rest, axes ++ [length] = g :: rest :=
          List.exists_cons_of_ne_nil (by simp)
        simp only [List.cons_append, hrest, pitches?] at hinner ⊢
        rw [hinner]
        simp only [Option.bind_eq_bind, Option.bind_some, rowPitches, List.cons_append,
          List.head?_cons, hplane]
        rfl

theorem spannedPitches?_eq (haxes : ∀ e ∈ axes, 0 < e)
    (hsingle : axes = [] → pitch = length * size) :
    spannedPitches? (axes ++ [length]) size pitch =
      if pitch * axes.prod ≤ wordMax then some (rowPitches pitch axes ++ [size]) else none := by
  by_cases hfits : pitch * axes.prod ≤ wordMax
  · rw [if_pos hfits, spannedPitches?, pitches?_eq haxes hfits]
    rcases axes with _ | ⟨e, axes⟩
    · have hspan : wordProduct? size length = some (size * length) := by
        rw [hsingle rfl, List.prod_nil, Nat.mul_one, Nat.mul_comm] at hfits
        exact wordProduct?_eq_some.mpr ⟨hfits, rfl⟩
      simp only [rowPitches, List.nil_append, List.head?_cons, Option.bind_eq_bind,
        Option.bind_some, hspan]
      rfl
    · have hspan : wordProduct? (pitch * axes.prod) e = some (pitch * (e :: axes).prod) := by
        have hsame : pitch * axes.prod * e = pitch * (e :: axes).prod := by
          rw [List.prod_cons, Nat.mul_assoc, Nat.mul_comm e]
        exact wordProduct?_eq_some.mpr ⟨Nat.le_trans (Nat.le_of_eq hsame) hfits, hsame⟩
      simp only [rowPitches, List.cons_append, List.head?_cons, Option.bind_eq_bind,
        Option.bind_some, hspan]
      rfl
  · rw [if_neg hfits, Option.eq_none_iff_forall_ne_some]
    intro p hp
    have hle := (spannedPitches?_append hsingle hp).2
    rw [Nat.mul_comm] at hle
    exact hfits hle

theorem withRowPitch_eq (hsize : size ≠ 0) (hfits : length * size ≤ wordMax)
    (hrow : length * size ≤ pitch) (hdvd : size ∣ pitch) :
    withRowPitch (axes ++ [length]) size pitch =
      match spannedPitches? (axes ++ [length]) size pitch with
      | some p => .ok ⟨axes ++ [length], p⟩
      | none => .error (.error (.layoutOverflow (.box (axes ++ [length]) size))) := by
  have hpayload : rowPayload? (axes ++ [length]) size = some (length * size) :=
    rowPayload?_append.mpr ⟨hfits, rfl⟩
  have hsplit : ¬ pitch % size ≠ 0 := not_not_intro (Nat.mod_eq_zero_of_dvd hdvd)
  simp only [withRowPitch, hpayload, if_neg (Nat.not_lt.mpr hrow), word_rem hsize, lift_ok,
    ok_bind, if_neg hsplit]
  rcases spannedPitches? (axes ++ [length]) size pitch with _ | p <;> split <;> rfl

theorem nextMultiple?_rowPayload? (hstep : 0 < step) :
    (do nextMultiple? (← rowPayload? (axes ++ [length]) size) step) =
      if paddedRow length size step ≤ wordMax then some (paddedRow length size step) else none := by
  by_cases hfits : length * size ≤ wordMax
  · rw [rowPayload?_append.mpr ⟨hfits, rfl⟩]
    exact nextMultiple?_eq hfits hstep
  · have hnone : rowPayload? (axes ++ [length]) size = none := by
      rw [Option.eq_none_iff_forall_ne_some]
      intro bytes hbytes
      exact hfits (rowPayload?_append.mp hbytes).1
    have hrow := Nat.lt_of_lt_of_le (Nat.lt_of_not_le hfits) (le_paddedRow length size hstep)
    rw [hnone, if_neg (Nat.not_le.mpr hrow)]
    rfl

/-- A single row has no neighbour, so the padding of rows shows in its layout only when there is
no machine word for it. -/
theorem spannedPitches?_paddedRow (haxes : ∀ e ∈ axes, 0 < e) (hstep : 0 < step)
    (hword : paddedRow length size step ≤ wordMax) :
    spannedPitches? (axes ++ [length]) size (paddedRow length size step) =
      if paddedRow length size step * axes.prod ≤ wordMax then
        some (rowPitches (paddedRow length size step) axes ++ [size])
      else none := by
  rcases axes with _ | ⟨e, axes⟩
  · have hrow := le_paddedRow length size hstep
    have hsingle : spannedPitches? ([] ++ [length]) size (length * size) = _ :=
      spannedPitches?_eq haxes fun _ => rfl
    rw [if_pos (by simpa using Nat.le_trans hrow hword)] at hsingle
    rw [if_pos (by simpa using hword)]
    exact hsingle
  · exact spannedPitches?_eq haxes nofun

/-- Padded rows are laid out if a machine word holds them all, and are never found to split
elements. -/
theorem pitched_eq (haxes : ∀ e ∈ axes, 0 < e) (hsize : size.isPowerOfTwo)
    (hstep : step.isPowerOfTwo) :
    pitched (axes ++ [length]) size step =
      if paddedRow length size step * axes.prod ≤ wordMax then
        .ok ⟨axes ++ [length], rowPitches (paddedRow length size step) axes ++ [size]⟩
      else .error (.error (.layoutOverflow (.box (axes ++ [length]) size))) := by
  have hpos : 0 < step := Nat.pos_of_isPowerOfTwo hstep
  have hrow := le_paddedRow length size hpos
  rw [pitched, Nat.max_eq_left hpos, nextMultiple?_rowPayload? hpos]
  by_cases hword : paddedRow length size step ≤ wordMax
  · have hdvd : size ∣ paddedRow length size step :=
      dvd_ceilDiv_mul hsize hstep (Nat.dvd_mul_left size length)
    have hne : size ≠ 0 := Nat.ne_of_gt (Nat.pos_of_isPowerOfTwo hsize)
    rw [if_pos hword]
    change withRowPitch _ _ _ = _
    rw [withRowPitch_eq hne (Nat.le_trans hrow hword) hrow hdvd,
      spannedPitches?_paddedRow haxes hpos hword]
    by_cases hspan : paddedRow length size step * axes.prod ≤ wordMax
    · rw [if_pos hspan, if_pos hspan]
    · rw [if_neg hspan, if_neg hspan]
  · have hall : paddedRow length size step ≤ paddedRow length size step * axes.prod :=
      Nat.le_mul_of_pos_right _ (List.prod_pos_iff_forall_pos_nat.mpr haxes)
    rw [if_neg hword, if_neg fun hle => hword (Nat.le_trans hall hle)]
    rfl

theorem exists_padded_rows (haxes : ∀ e ∈ axes, 0 < e) (hlength : 0 < length)
    (hsize : size.isPowerOfTwo) (hstep : step.isPowerOfTwo)
    (hspan : paddedRow length size step * axes.prod ≤ wordMax) :
    ∃ g : Rows, pitched (axes ++ [length]) size step = .ok g.layout ∧ g.axes = axes ∧
      g.length = length ∧ g.size = size ∧ g.count * g.pitch = paddedBytes axes length size step ∧
      (axes ≠ [] → g.pitch = paddedRow length size step) := by
  have hpos : 0 < step := Nat.pos_of_isPowerOfTwo hstep
  have hrow := le_paddedRow length size hpos
  have hdvd : size ∣ paddedRow length size step :=
    dvd_ceilDiv_mul hsize hstep (Nat.dvd_mul_left size length)
  rw [pitched_eq haxes hsize hstep, if_pos hspan]
  by_cases hnil : axes = []
  · subst hnil
    have hfits : [].prod * (length * size) ≤ wordMax := by
      rw [List.prod_nil, Nat.mul_one] at hspan
      rw [List.prod_nil, Nat.one_mul]
      exact Nat.le_trans hrow hspan
    exact ⟨⟨[], length, size, length * size, nofun, hlength, Nat.pos_of_isPowerOfTwo hsize,
      Nat.le_refl _, Nat.dvd_mul_left _ _, hfits, fun _ => rfl⟩, rfl, rfl, rfl, rfl,
      Nat.one_mul _, fun hne => absurd rfl hne⟩
  · have hfits : axes.prod * paddedRow length size step ≤ wordMax := by
      rwa [Nat.mul_comm]
    have hbytes : axes.prod * paddedRow length size step = paddedBytes axes length size step := by
      rw [paddedBytes, if_neg hnil, Nat.mul_comm]
    exact ⟨⟨axes, length, size, paddedRow length size step, haxes, hlength,
      Nat.pos_of_isPowerOfTwo hsize, hrow, hdvd, hfits, fun hcontra => absurd hcontra hnil⟩,
      rfl, rfl, rfl, rfl, hbytes, fun _ => rfl⟩

end

end Layout

namespace Rows

variable (g : Rows)

theorem size_dvd_layout_pitch : ∀ p ∈ g.layout.pitch, g.size ∣ p := by
  have hrows : ∀ axes : List Nat, ∀ p ∈ rowPitches g.pitch axes, g.size ∣ p := by
    intro axes
    induction axes with
    | nil => simp [rowPitches]
    | cons e axes ih =>
        intro p hp
        rcases List.mem_cons.mp hp with rfl | hp
        · exact Nat.dvd_mul_right_of_dvd g.size_dvd_pitch _
        · exact ih p hp
  intro p hp
  rcases List.mem_append.mp hp with hp | hp
  · exact hrows g.axes p hp
  · rw [List.mem_singleton.mp hp]

theorem contents_zeros (k : ElementKind) :
    g.contents k .zeros = List.replicate g.elements 0 := by
  have hload : ∀ offset n : Nat, Bytes.loadNat .zeros offset n = 0 := by
    intro offset n
    induction n generalizing offset with
    | zero => rfl
    | succ n ih => simp [Bytes.loadNat, ih]
  rw [contents, List.eq_replicate_iff]
  refine ⟨by simp, fun x hx => ?_⟩
  obtain ⟨n, -, rfl⟩ := List.mem_map.mp hx
  rw [Bytes.load, hload]
  rfl

end Rows

namespace Buffer

/-- What is wrong with the size of one axis, if anything. -/
def axisFlaw (extent : List Int) (v : Int) : Option Error :=
  if IndexKind.word.Holds v then
    if v = 0 then some (.zeroSized (Text.tuple extent)) else none
  else some (.indexOverflow v .word)

theorem axisFlaw_eq_none {extent : List Int} {v : Int} :
    axisFlaw extent v = none ↔ IndexKind.word.Holds v ∧ v ≠ 0 := by
  rw [axisFlaw]
  split_ifs with hword hzero <;> simp_all

section

variable {indexKind : IndexKind} {extent rest : List Int} {axis : Nat} {v : Int}

theorem sizes_cons_of_flaw {e : Error} (h : axisFlaw extent v = some e) :
    ∃ events, sizes indexKind extent axis (v :: rest) = .error (e, events) := by
  rw [axisFlaw] at h
  split_ifs at h with hword hzero
  · cases h
    subst hzero
    exact ⟨_, rfl⟩
  · cases h
    exact ⟨[], by simp only [sizes, IndexKind.toSize, if_neg hword]; rfl⟩

theorem sizes_cons_of_none (h : axisFlaw extent v = none) :
    sizes indexKind extent axis (v :: rest) = do
      return v.toNat :: (← sizes indexKind extent (axis + 1) rest) := by
  obtain ⟨hword, hzero⟩ := axisFlaw_eq_none.mp h
  have hsize : v.toNat ≠ 0 := by
    have hnonneg : 0 ≤ v := hword.1
    omega
  have hcast : (Except.ok v.toNat : Except Error Nat).mapError (fun e => (e, ([] : List Event))) =
      .ok v.toNat := rfl
  simp only [sizes, IndexKind.toSize, if_pos hword, hcast, ok_bind, if_neg hsize]

theorem sizes_of_flaw (indexKind : IndexKind) (axis : Nat) {e : Error}
    (h : rest.findSome? (axisFlaw extent) = some e) :
    ∃ events, sizes indexKind extent axis rest = .error (e, events) := by
  induction rest generalizing axis with
  | nil => cases h
  | cons v rest ih =>
      rw [List.findSome?_cons] at h
      rcases hv : axisFlaw extent v with _ | first
      · rw [hv] at h
        obtain ⟨events, hevents⟩ := ih (axis + 1) h
        exact ⟨events, by rw [sizes_cons_of_none hv, hevents]; rfl⟩
      · rw [hv] at h
        cases h
        exact sizes_cons_of_flaw hv

theorem sizes_of_none (indexKind : IndexKind) (axis : Nat)
    (h : rest.findSome? (axisFlaw extent) = none) :
    ∃ dims, rest = Box.ints dims ∧ (∀ e ∈ dims, 0 < e) ∧
      sizes indexKind extent axis rest = .ok dims := by
  induction rest generalizing axis with
  | nil => exact ⟨[], rfl, by simp, rfl⟩
  | cons v rest ih =>
      rw [List.findSome?_eq_none_iff] at h
      have hv := h v (by simp)
      obtain ⟨hword, hzero⟩ := axisFlaw_eq_none.mp hv
      have hnonneg : 0 ≤ v := hword.1
      obtain ⟨dims, rfl, hdims, hsizes⟩ :=
        ih (axis + 1) (List.findSome?_eq_none_iff.mpr fun x hx => h x (by simp [hx]))
      refine ⟨v.toNat :: dims, ?_, ?_, ?_⟩
      · rw [show Box.ints (v.toNat :: dims) = (v.toNat : Int) :: Box.ints dims from rfl,
          Int.toNat_of_nonneg hnonneg]
      · intro e he
        rcases List.mem_cons.mp he with rfl | he
        · omega
        · exact hdims e he
      · rw [sizes_cons_of_none hv, hsizes]
        rfl

end

/-- The device with one more allocation on its account. -/
def charged (d : Device) (bytes : Nat) : Device :=
  { d with ledger := { d.ledger with used := d.ledger.used + bytes, live := d.ledger.live + 1 } }

theorem acquire_eq {d : Device} {bytes : Nat} (hbytes : 0 < bytes)
    (hcapacity : d.ledger.capacity ≤ wordMax) :
    acquire d bytes =
      if d.ledger.available < bytes then
        .error (.outOfMemory d.ledger.device bytes d.ledger.available)
      else do
        d.machine.provide bytes
        return charged d bytes := by
  by_cases hfull : d.ledger.available < bytes
  · have hrefused : ¬ (d.ledger.used + bytes ≤ wordMax ∧
        d.ledger.used + bytes ≤ d.ledger.capacity) := by
      rw [Ledger.available] at hfull
      omega
    rw [if_pos hfull, acquire, Ledger.reserve, Ledger.claim, if_neg hrefused]
    rfl
  · have hroom : d.ledger.used + bytes ≤ wordMax ∧
        d.ledger.used + bytes ≤ d.ledger.capacity := by
      rw [Ledger.available] at hfull
      omega
    rw [if_neg hfull, acquire, Ledger.reserve, Ledger.claim, if_pos hroom]
    rfl

theorem provide_eq_error {machine : Machine} {bytes : Nat} {e : Error}
    (h : machine.provide bytes = .error e) :
    e = .layoutOverflow (.unaligned bytes) ∨ e = .outOfMemory "host allocator" bytes 0 := by
  rw [Machine.provide] at h
  split_ifs at h with hlarge hend
  · exact .inl (Except.error.inj h).symm
  · exact .inr (Except.error.inj h).symm

/-- A buffer of zeros, with rows of `length` elements at multiples of `step`, whose bytes are on
the account of its device. -/
structure Granted (d : Device) (k : ElementKind) (indexKind : IndexKind) (axes : List Nat)
    (length step : Nat) (b : Buffer) (d' : Device) : Prop where
  device_eq : b.device = d.id
  indexKind_eq : b.indexKind = indexKind
  extent_eq : b.extent = Box.ints (axes ++ [length])
  kind_eq : b.region.kind = k
  layout_extent : b.region.layout.extent = axes ++ [length]
  size_dvd_pitch : ∀ p ∈ b.region.layout.pitch, k.size ∣ p
  single : axes = [] → b.region.layout.rowPitch? = none
  rowPitch_isLeast : axes ≠ [] → ∃ p, b.region.layout.rowPitch? = some p ∧
    IsLeast {m | step ∣ m ∧ length * k.size ≤ m} p
  layout_sizeBytes : b.region.layout.sizeBytes = .ok b.sizeBytes
  sizeBytes_eq : b.sizeBytes = Layout.paddedBytes axes length k.size step
  toList_eq : b.region.toList b.bytes = .ok (List.replicate (axes ++ [length]).prod 0)
  charged_eq : d' = charged d b.sizeBytes

section

variable {d : Device} {k : ElementKind} {indexKind : IndexKind} {axes : List Nat}
  {length step : Nat}

theorem granted_of_rows (indexKind : IndexKind) {g : Rows} (haxes : g.axes = axes)
    (hlength : g.length = length) (hsize : g.size = k.size)
    (hbytes : g.count * g.pitch = Layout.paddedBytes axes length k.size step)
    (hpitch : axes ≠ [] → g.pitch = Layout.paddedRow length k.size step) (hstep : 0 < step) :
    Granted d k indexKind axes length step
      ⟨d.id, indexKind, Box.ints (axes ++ [length]), g.region k,
        Layout.paddedBytes axes length k.size step, .zeros⟩
      (charged d (Layout.paddedBytes axes length k.size step)) where
  device_eq := rfl
  indexKind_eq := rfl
  extent_eq := rfl
  kind_eq := rfl
  layout_extent := by rw [← haxes, ← hlength]; rfl
  size_dvd_pitch := hsize ▸ g.size_dvd_layout_pitch
  single hnil := by rw [g.layout_rowPitch?, haxes, if_pos hnil]
  rowPitch_isLeast hne := by
    rw [g.layout_rowPitch?, haxes, if_neg hne, hpitch hne]
    exact ⟨_, rfl, isLeast_ceilDiv_mul hstep _⟩
  layout_sizeBytes := by rw [← hbytes]; exact g.layout_sizeBytes
  sizeBytes_eq := rfl
  toList_eq := by
    rw [Rows.toList_region hsize, g.contents_zeros, ← g.prod_extent, Rows.extent, haxes, hlength]
  charged_eq := rfl

variable (haxes : ∀ e ∈ axes, 0 < e) (hlength : 0 < length) (hstep : step.isPowerOfTwo)
  (hdims : sizes indexKind (Box.ints (axes ++ [length])) 0 (Box.ints (axes ++ [length])) =
    .ok (axes ++ [length]))

include haxes hstep hdims

theorem allocateAligned_of_large
    (hspan : wordMax < Layout.paddedRow length k.size step * axes.prod) :
    (allocateAligned d k indexKind (Box.ints (axes ++ [length])) step).result =
      .error (.error (.layoutOverflow (.box (axes ++ [length]) k.size))) := by
  have hl : Layout.pitched (axes ++ [length]) k.size step = _ :=
    Layout.pitched_eq haxes k.size_isPowerOfTwo hstep
  rw [if_neg (Nat.not_le.mpr hspan)] at hl
  simp only [allocateAligned, hdims, hl]
  rfl

include hlength

theorem allocateAligned_of_fits
    (hspan : Layout.paddedRow length k.size step * axes.prod ≤ wordMax) :
    ∃ b, Granted d k indexKind axes length step b
        (charged d (Layout.paddedBytes axes length k.size step)) ∧
      (allocateAligned d k indexKind (Box.ints (axes ++ [length])) step).result = do
        let d' ← (acquire d (Layout.paddedBytes axes length k.size step) : Except Error Device)
        return (b, d') := by
  obtain ⟨g, hl, hgaxes, hglength, hsize, hbytes, hpitch⟩ :=
    Layout.exists_padded_rows haxes hlength k.size_isPowerOfTwo hstep hspan
  have hgranted := granted_of_rows (d := d) indexKind hgaxes hglength hsize hbytes hpitch
    (Nat.pos_of_isPowerOfTwo hstep)
  refine ⟨_, hgranted, ?_⟩
  simp only [allocateAligned, hdims, hl, ok_bind]
  exact ofLayout_eq hgranted.layout_sizeBytes

end

/-- What becomes of a request for rows at multiples of `step`, once its axes are known to be sizes.
There has to be a machine word for all rows together, each rounded up; then the account needs as
many free bytes as the layout spans; then only the machine can refuse. -/
structure Decided (d : Device) (k : ElementKind) (indexKind : IndexKind) (axes : List Nat)
    (length step : Nat) (result : Outcome (Buffer × Device)) : Prop where
  layoutOverflow : wordMax < Layout.paddedRow length k.size step * axes.prod →
    result = .error (.error (.layoutOverflow (.box (axes ++ [length]) k.size)))
  outOfMemory : Layout.paddedRow length k.size step * axes.prod ≤ wordMax →
    d.ledger.available < Layout.paddedBytes axes length k.size step →
      result = .error (.error (.outOfMemory d.ledger.device
        (Layout.paddedBytes axes length k.size step) d.ledger.available))
  refused : Layout.paddedRow length k.size step * axes.prod ≤ wordMax →
    Layout.paddedBytes axes length k.size step ≤ d.ledger.available →
      ∀ e, d.machine.provide (Layout.paddedBytes axes length k.size step) = .error e →
        result = .error (.error e) ∧
          (e = .layoutOverflow (.unaligned (Layout.paddedBytes axes length k.size step)) ∨
            e = .outOfMemory "host allocator" (Layout.paddedBytes axes length k.size step) 0)
  granted : Layout.paddedRow length k.size step * axes.prod ≤ wordMax →
    Layout.paddedBytes axes length k.size step ≤ d.ledger.available →
      d.machine.provide (Layout.paddedBytes axes length k.size step) = .ok () →
        ∃ b d', result = .ok (b, d') ∧ Granted d k indexKind axes length step b d'

theorem decided_of_dims {d : Device} {k : ElementKind} {indexKind : IndexKind} {axes : List Nat}
    {length step : Nat} (hpos : ∀ e ∈ axes ++ [length], 0 < e) (hstep : step.isPowerOfTwo)
    (hcapacity : d.ledger.capacity ≤ wordMax)
    (hdims : sizes indexKind (Box.ints (axes ++ [length])) 0 (Box.ints (axes ++ [length])) =
      .ok (axes ++ [length])) :
    Decided d k indexKind axes length step
      (allocateAligned d k indexKind (Box.ints (axes ++ [length])) step).result := by
  have haxes : ∀ e ∈ axes, 0 < e := fun e he => hpos e (by simp [he])
  have hlength : 0 < length := hpos length (by simp)
  have hbytes := Layout.paddedBytes_pos haxes hlength k.size_pos (Nat.pos_of_isPowerOfTwo hstep)
  constructor
  case layoutOverflow => exact allocateAligned_of_large haxes hstep hdims
  case outOfMemory =>
    intro hspan hfull
    obtain ⟨b, -, hresult⟩ := allocateAligned_of_fits haxes hlength hstep hdims hspan
    rw [hresult, acquire_eq hbytes hcapacity, if_pos hfull]
    rfl
  case refused =>
    intro hspan hroom e he
    obtain ⟨b, -, hresult⟩ := allocateAligned_of_fits haxes hlength hstep hdims hspan
    rw [hresult, acquire_eq hbytes hcapacity, if_neg (Nat.not_lt.mpr hroom), he]
    exact ⟨rfl, provide_eq_error he⟩
  case granted =>
    intro hspan hroom hprovided
    obtain ⟨b, hgranted, hresult⟩ := allocateAligned_of_fits haxes hlength hstep hdims hspan
    refine ⟨b, _, ?_, hgranted⟩
    rw [hresult, acquire_eq hbytes hcapacity, if_neg (Nat.not_lt.mpr hroom), hprovided]
    rfl

/-- The errors with which memory is refused. -/
inductive Refusal : Failure → Prop where
  | indexOverflow (v : Int) : Refusal (.error (.indexOverflow v .word))
  | zeroSized (extent : String) : Refusal (.error (.zeroSized extent))
  | layoutOverflow (request : SizeRequest) : Refusal (.error (.layoutOverflow request))
  | outOfMemory (device : String) (requested available : Nat) :
      Refusal (.error (.outOfMemory device requested available))

theorem refusal_of_axisFlaw {extent : List Int} {v : Int} {e : Error}
    (h : axisFlaw extent v = some e) : Refusal (.error e) := by
  rw [axisFlaw] at h
  split_ifs at h
  · cases h
    exact .zeroSized _
  · cases h
    exact .indexOverflow v

theorem Decided.refusal {d : Device} {k : ElementKind} {indexKind : IndexKind} {axes : List Nat}
    {length step : Nat} {result : Outcome (Buffer × Device)} {e : Failure}
    (h : Decided d k indexKind axes length step result) (he : result = .error e) : Refusal e := by
  rcases Nat.lt_or_ge wordMax (Layout.paddedRow length k.size step * axes.prod) with
    hspan | hspan
  · rw [h.layoutOverflow hspan] at he
    cases he
    exact .layoutOverflow _
  rcases Nat.lt_or_ge d.ledger.available (Layout.paddedBytes axes length k.size step) with
    hfull | hroom
  · rw [h.outOfMemory hspan hfull] at he
    cases he
    exact .outOfMemory _ _ _
  rcases hprovided : d.machine.provide (Layout.paddedBytes axes length k.size step) with
    refused | ⟨⟩
  · obtain ⟨hresult, rfl | rfl⟩ := h.refused hspan hroom refused hprovided
    · rw [hresult] at he
      cases he
      exact .layoutOverflow _
    · rw [hresult] at he
      cases he
      exact .outOfMemory _ _ _
  · obtain ⟨b, d', hresult, -⟩ := h.granted hspan hroom hprovided
    rw [hresult] at he
    cases he

/-- Distance of whose multiples rows start at: any, or as the device prefers. -/
def rowStep (d : Device) (padded : Bool) : Nat :=
  if padded then d.properties.pitchAlignment else 1

theorem rowStep_isPowerOfTwo {d : Device} (padded : Bool)
    (h : isPowerOfTwo d.properties.pitchAlignment = true) :
    (rowStep d padded).isPowerOfTwo := by
  cases padded with
  | false => exact Nat.isPowerOfTwo_one
  | true => exact isPowerOfTwo_iff.mp h

section

variable {d : Device} {k : ElementKind} {indexKind : IndexKind} {extent : List Int} {padded : Bool}

theorem allocate_of_flaw {e : Error} (h : extent.findSome? (axisFlaw extent) = some e) :
    (allocate d k indexKind extent padded).result = .error (.error e) := by
  obtain ⟨events, hsizes⟩ := sizes_of_flaw indexKind 0 h
  simp only [allocate, allocateAligned, hsizes]

theorem decided_of_allocate (hextent : extent ≠ [])
    (halignment : isPowerOfTwo d.properties.pitchAlignment = true)
    (hcapacity : d.ledger.capacity ≤ wordMax) (h : extent.findSome? (axisFlaw extent) = none) :
    Decided d k indexKind (extent.dropLast.map Int.toNat) (extent.getLast hextent).toNat
      (rowStep d padded) (allocate d k indexKind extent padded).result := by
  obtain ⟨dims, rfl, hpos, hdims⟩ := sizes_of_none indexKind 0 h
  rcases List.eq_nil_or_concat dims with rfl | ⟨axes, length, rfl⟩
  · exact absurd rfl hextent
  · simp only [List.concat_eq_append] at hpos hdims ⊢
    have hextent' : Box.ints (axes ++ [length]) = Box.ints axes ++ [(length : Int)] :=
      List.map_append
    have haxes : (Box.ints axes).map Int.toNat = axes := by
      rw [Box.ints, List.map_map]
      exact List.map_id axes
    have hstep := rowStep_isPowerOfTwo padded halignment
    have hdecided := decided_of_dims (d := d) (k := k) hpos hstep hcapacity hdims
    simp only [hextent', List.dropLast_concat, List.getLast_concat, haxes,
      Int.toNat_natCast] at hdecided ⊢
    exact hdecided

theorem refusal_of_allocate (hextent : extent ≠ [])
    (halignment : isPowerOfTwo d.properties.pitchAlignment = true)
    (hcapacity : d.ledger.capacity ≤ wordMax) {e : Failure}
    (he : (allocate d k indexKind extent padded).result = .error e) : Refusal e := by
  rcases hflaw : extent.findSome? (axisFlaw extent) with _ | flaw
  · exact (decided_of_allocate hextent halignment hcapacity hflaw).refusal he
  · obtain ⟨v, -, hv⟩ := List.exists_of_findSome?_eq_some hflaw
    rw [allocate_of_flaw hflaw] at he
    cases he
    exact refusal_of_axisFlaw hv

end

/-- What becomes of a request for memory with at least one axis, on a device that prefers rows
aligned to a power of two and whose capacity is a machine word. The first axis that is no machine
word, or empty, refuses it; a request without such an axis is decided by its layout, then by the
account of the device, and last by the machine, which cannot align the bytes or does not have
them. A row pitch is never found unusable, and nothing overflows on the way. -/
theorem allocate_decided (d : Device) (k : ElementKind) (indexKind : IndexKind)
    (extent : List Int) (padded : Bool) (hextent : extent ≠ [])
    (halignment : isPowerOfTwo d.properties.pitchAlignment = true)
    (hcapacity : d.ledger.capacity ≤ wordMax) :
    (∀ e, extent.findSome? (axisFlaw extent) = some e →
      (allocate d k indexKind extent padded).result = .error (.error e)) ∧
    (extent.findSome? (axisFlaw extent) = none →
      Decided d k indexKind (extent.dropLast.map Int.toNat) (extent.getLast hextent).toNat
        (rowStep d padded) (allocate d k indexKind extent padded).result) ∧
    (∀ key reason,
      (allocate d k indexKind extent padded).result ≠ .error (.error (.invalidValue key reason))) ∧
    ∀ f, (allocate d k indexKind extent padded).result ≠ .error (.fault f) := by
  refine ⟨fun e => allocate_of_flaw, decided_of_allocate hextent halignment hcapacity, ?_, ?_⟩
  · intro key reason he
    cases refusal_of_allocate hextent halignment hcapacity he
  · intro f he
    cases refusal_of_allocate hextent halignment hcapacity he

/-- On the standard accelerator three rows are granted, a negative axis is reported before an empty
one, and larger boxes stop at the account and before. -/
theorem allocate_decided_of_standard :
    (∃ b d', (allocate (Device.accelerator (.standard 1) 0 1) .i32 .word [3, 5] true).result =
      .ok (b, d') ∧ b.sizeBytes = 768) ∧
    (allocate (Device.accelerator (.standard 1) 0 1) .i32 .i8 [3, -1, 0] true).result =
      .error (.error (.indexOverflow (-1) .word)) ∧
    (allocate (Device.accelerator (.standard 1) 0 1) .i32 .word [2000000, 5] true).result =
      .error (.error (.outOfMemory "simgpu0" 512000000 268435456)) ∧
    (allocate (Device.accelerator (.standard 1) 0 1) .i32 .word [1125899906842624, 65536, 5]
        true).result =
      .error (.error (.layoutOverflow (.box [1125899906842624, 65536, 5] 4))) := by
  refine ⟨?_, ?_, ?_, ?_⟩
  · obtain ⟨b, d', hresult, hgranted⟩ := ((allocate_decided (Device.accelerator (.standard 1) 0 1)
      .i32 .word [3, 5] true (by decide) (by decide) (by decide)).2.1 (by decide)).granted
      (by decide) (by decide) (by decide)
    exact ⟨b, d', hresult, hgranted.sizeBytes_eq⟩
  · exact (allocate_decided (Device.accelerator (.standard 1) 0 1) .i32 .i8 [3, -1, 0] true
      (by decide) (by decide) (by decide)).1 _ (by decide)
  · exact ((allocate_decided (Device.accelerator (.standard 1) 0 1) .i32 .word [2000000, 5] true
      (by decide) (by decide) (by decide)).2.1 (by decide)).outOfMemory (by decide) (by decide)
  · exact ((allocate_decided (Device.accelerator (.standard 1) 0 1) .i32 .word
      [1125899906842624, 65536, 5] true (by decide) (by decide) (by decide)).2.1
      (by decide)).layoutOverflow (by decide)

end Buffer

end LaneGrid
