import Mathlib.Algebra.Order.Ring.Nat
import LaneGrid.Proofs.Division.Choice

/-!
Divisions made for an extent cover it with no block to spare. One is made exactly if the grid that
the chosen block asks for is within its limits; other blocks are not tried.
-/

namespace LaneGrid.WorkDivision

open Box

variable {limits : LaunchLimits} {extent elements : List Nat} {d : WorkDivision}

/-- An accepted division with so many elements per lane that covers the extent. -/
structure Covers (limits : LaunchLimits) (extent elements : List Nat) (d : WorkDivision) : Prop
    extends d.Sound where
  valid : d.validate limits = .ok ()
  elements_eq : d.threadElements = elements
  covers : ∃ box, d.gridElements = .ok box ∧ List.Forall₂ (· ≤ ·) extent box

structure Tight (limits : LaunchLimits) (extent elements : List Nat) (d : WorkDivision) : Prop
    extends d.Covers limits extent elements where
  /-- The last block starts inside the extent on every axis. -/
  last_within : Within
    (times (times (d.gridBlocks.map (· - 1)) d.blockThreads) d.threadElements) extent
  lanes_le : d.blockThreads.prod ≤ limits.blockThreads

theorem exists_zero_or_pos (extent : List Nat) :
    (∃ axis, extent.findIdx? (· = 0) = some axis) ∨ ∀ e ∈ extent, 0 < e := by
  rcases h : extent.findIdx? (· = 0) with _ | axis
  · exact .inr (pos_of_findIdx?_eq_none h)
  · exact .inl ⟨axis, h⟩

theorem forall₂_le_chosen (hlength : elements.length = extent.length)
    (helements : ∀ e ∈ elements, 0 < e) (hextent : ∀ e ∈ extent, 0 < e) :
    List.Forall₂ (· ≤ ·) extent
      (times (times (chosen limits extent elements).gridBlocks
        (chosen limits extent elements).blockThreads) elements) := by
  have hneeded := tiles_pos hextent helements
  have hblocks := le_times_tiles (length_chooseBlock limits (tiles extent elements))
    (chooseBlock_pos limits hneeded)
  refine forall₂_trans ?_ (le_times_tiles hlength helements) (times_le_times hblocks elements)
  exact fun _ _ _ => Nat.le_trans

theorem last_within_chosen (hlength : elements.length = extent.length)
    (helements : ∀ e ∈ elements, 0 < e) (hextent : ∀ e ∈ extent, 0 < e) :
    Within (times (times ((chosen limits extent elements).gridBlocks.map (· - 1))
      (chosen limits extent elements).blockThreads) elements) extent := by
  have hneeded := tiles_pos hextent helements
  have hblock := chooseBlock_pos limits hneeded
  have hlast := within_pred (tiles_pos hneeded hblock)
  exact within_times_of_tiles hlength helements
    (within_times_of_tiles (length_chooseBlock limits (tiles extent elements)) hblock hlast)

theorem tight_chosen (hlength : elements.length = extent.length)
    (helements : ∀ e ∈ elements, 0 < e) (hextent : ∀ e ∈ extent, 0 < e)
    (hflaw : (chosen limits extent elements).flaw? limits = none) :
    (chosen limits extent elements).Tight limits extent elements := by
  have hsound := sound_chosen limits hlength hextent helements
  have hvalid := validate_eq_ok.mpr hflaw
  refine ⟨⟨hsound, hvalid, rfl, _, (hsound.fits hvalid).gridElements_eq, ?_⟩, ?_, ?_⟩
  · exact forall₂_le_chosen hlength helements hextent
  · exact last_within_chosen hlength helements hextent
  · exact (hsound.withinLimits hvalid).lanes_le

/-- Making a division for an extent never breaks down. An extent with an empty axis is refused for
the first such axis, and a division that is made is accepted, covers the extent with the elements
per lane that were asked for, and has no block to spare on any axis. -/
theorem forExtent_tight (limits : LaunchLimits) (hlength : elements.length = extent.length)
    (hwords : ∀ e ∈ extent, e ≤ wordMax) :
    (∀ f, forExtent limits extent elements ≠ .error (.fault f)) ∧
    (∀ axis, extent[axis]? = some 0 → (∀ i < axis, extent[i]? ≠ some 0) →
      forExtent limits extent elements = .error (.error (.zeroExtent axis))) ∧
    ∀ d, forExtent limits extent elements = .ok d → d.Tight limits extent elements := by
  rcases exists_zero_or_pos extent with ⟨axis, hzero⟩ | hextent
  · have heq := forExtent_of_zero limits elements hzero
    rw [heq]
    refine ⟨nofun, fun first hfirst hbefore => ?_, nofun⟩
    obtain ⟨haxis, hself, hleast⟩ := List.findIdx?_eq_some_iff_getElem.mp hzero
    have hself : extent[axis]? = some 0 :=
      List.getElem?_eq_some_iff.mpr ⟨haxis, of_decide_eq_true hself⟩
    obtain ⟨hlt, hvalue⟩ := List.getElem?_eq_some_iff.mp hfirst
    rcases Nat.lt_trichotomy axis first with h | rfl | h
    · exact absurd hself (hbefore axis h)
    · rfl
    · exact absurd (decide_eq_true hvalue) (hleast first h)
  · have hnone : ∀ axis, extent[axis]? ≠ some 0 := fun axis h =>
      absurd (hextent 0 (List.mem_of_getElem? h)) (Nat.lt_irrefl 0)
    rcases exists_zero_or_pos elements with ⟨axis, hzero⟩ | helements
    · obtain ⟨haxis, hself, -⟩ := List.findIdx?_eq_some_iff_getElem.mp hzero
      have hmem : 0 ∈ elements := of_decide_eq_true hself ▸ List.getElem_mem haxis
      rw [forExtent_of_zeroElements limits hextent hmem]
      exact ⟨nofun, fun axis h => absurd h (hnone axis), nofun⟩
    · rw [forExtent_eq limits hlength hwords hextent helements]
      cases hflaw : (chosen limits extent elements).flaw? limits with
      | some flaw => exact ⟨nofun, fun axis h => absurd h (hnone axis), nofun⟩
      | none =>
          refine ⟨nofun, fun axis h => absurd h (hnone axis), fun d hd => ?_⟩
          obtain rfl := Except.ok.inj hd
          exact tight_chosen hlength helements hextent hflaw

/-- The first axis has as many elements as a word can number, the second is the faster one. -/
theorem forExtent_tight_wide :
    Tight ⟨wordMax, 8, 15, wordMax, 0, 1⟩ [18446744073709551615, 5] [1, 2]
      ⟨[3689348814741910323, 1], [5, 3], [1, 2]⟩ ∧
    forExtent ⟨wordMax, 8, 15, wordMax, 0, 1⟩ [4, 0, 0] [1, 0, 1] =
      .error (.error (.zeroExtent 1)) := by
  have hlength : [1, 2].length = [18446744073709551615, 5].length := rfl
  have hlength' : [1, 0, 1].length = [4, 0, 0].length := rfl
  constructor
  · exact (forExtent_tight _ hlength (by decide)).2.2 _ (by rfl)
  · exact (forExtent_tight _ hlength' (by decide)).2.1 1 rfl (by decide)

theorem Covers.withinLimits (hd : d.Covers limits extent elements) : d.WithinLimits limits :=
  hd.toSound.withinLimits hd.valid

theorem Covers.extent_le (hd : d.Covers limits extent elements) :
    List.Forall₂ (· ≤ ·) extent (times (times d.gridBlocks d.blockThreads) elements) := by
  obtain ⟨box, hbox, hcovers⟩ := hd.covers
  rw [(hd.toSound.fits hd.valid).gridElements_eq, hd.elements_eq] at hbox
  exact Except.ok.inj hbox ▸ hcovers

theorem Covers.length_eq (hd : d.Covers limits extent elements) :
    elements.length = extent.length := by
  rw [hd.extent_le.length_eq, List.length_zipWith, ← hd.elements_eq, ← hd.length_gridThreads,
    Nat.min_self]

theorem Covers.words (hd : d.Covers limits extent elements) : ∀ e ∈ extent, e ≤ wordMax :=
  le_of_forall₂_le hd.extent_le (hd.elements_eq ▸ hd.withinLimits.elements_fit)

theorem Covers.pos_of_mem (hd : d.Covers limits extent elements) : ∀ e ∈ elements, 0 < e :=
  hd.elements_eq ▸ hd.elements_pos

theorem Covers.blockThreads_pos (hd : d.Covers limits extent elements) : 0 < limits.blockThreads :=
  Nat.lt_of_lt_of_le (List.prod_pos_iff_forall_pos_nat.mpr hd.threads_pos)
    hd.withinLimits.lanes_le

theorem Covers.length_blockThreads (hd : d.Covers limits extent elements) :
    d.blockThreads.length = extent.length := by
  rw [hd.length_threads, ← hd.length_elements, hd.elements_eq, hd.length_eq]

theorem Covers.chooseBlock_le (hd : d.Covers limits extent elements) :
    (∀ t ∈ chooseBlock limits (tiles extent elements), t ≤ limits.blockThreadExtent) ∧
      (chooseBlock limits (tiles extent elements)).prod ≤ limits.blockThreads := by
  constructor
  · intro t ht
    have hmax := (WorkDivision.chooseBlock_le limits (tiles extent elements)).2 t ht
    -- a block with an axis shows that the limit for an axis is not zero
    have haxis : 0 < d.blockThreads.length := by
      rw [hd.length_blockThreads, ← length_tiles hd.length_eq, ← length_chooseBlock limits]
      exact List.length_pos_of_mem ht
    have hmem := List.getElem_mem haxis
    have hone := Nat.lt_of_lt_of_le (hd.threads_pos _ hmem)
      (hd.withinLimits.blockThreads_le _ hmem)
    omega
  · have hprod := prod_chooseBlock_le limits (tiles extent elements)
    have hone := hd.blockThreads_pos
    omega

/-- Where some division covers the extent, nothing but the grid can speak against the chosen
one. -/
theorem Covers.flaw?_chosen (hd : d.Covers limits extent elements)
    (hlimits : limits.blockThreads ≤ wordMax) (hextent : ∀ e ∈ extent, 0 < e) :
    (chosen limits extent elements).flaw? limits =
      if (chosen limits extent elements).gridBlocks.any (limits.gridBlockExtent < ·) then
        some (.overLimit .gridBlocks (chosen limits extent elements).gridBlocks
          limits.gridBlockExtent)
      else if (chosen limits extent elements).blockCount.toOption.isNone ||
          (chosen limits extent elements).gridElements.toOption.isNone then
        some (.tooLarge (chosen limits extent elements).text)
      else none := by
  obtain ⟨hthreads, hprod⟩ := hd.chooseBlock_le
  have helements := hd.elements_eq ▸ hd.withinLimits.threadElements_le
  have hlanes : (chosen limits extent elements).laneCount =
      .ok (chosen limits extent elements).blockThreads.prod :=
    product_eq_ok (chooseBlock_pos limits (tiles_pos hextent hd.pos_of_mem))
      (Nat.le_trans hprod hlimits)
  have hcrowded : ((chosen limits extent elements).laneCount.toOption.any
      (· ≤ limits.blockThreads)) = true := by
    rw [hlanes]
    exact decide_eq_true hprod
  have hthreads : ((chosen limits extent elements).blockThreads.any
      (limits.blockThreadExtent < ·)) = false := any_lt_eq_false.mpr hthreads
  have helements : ((chosen limits extent elements).threadElements.any
      (limits.threadElementExtent < ·)) = false := any_lt_eq_false.mpr helements
  rw [flaw?, hthreads, helements, hcrowded]
  simp only [Bool.false_eq_true, if_false, Bool.not_true]

theorem Covers.flaw?_chosen_eq_none_iff (hd : d.Covers limits extent elements)
    (hlimits : limits.blockThreads ≤ wordMax) (hextent : ∀ e ∈ extent, 0 < e) :
    (chosen limits extent elements).flaw? limits = none ↔
      (chosen limits extent elements).GridFits limits := by
  have hsound := sound_chosen limits hd.length_eq hextent hd.pos_of_mem
  rw [← validate_eq_ok, hsound.validate_eq_ok_iff]
  refine ⟨fun h => h.toGridFits, fun h => ⟨h, ?_, ?_, ?_, ?_⟩⟩
  · exact hd.chooseBlock_le.1
  · exact hd.elements_eq ▸ hd.withinLimits.threadElements_le
  · exact hd.chooseBlock_le.2
  · exact Nat.le_trans hd.chooseBlock_le.2 hlimits

/-- Enough room for the grid, whatever the block: as if every block were a single lane, and with
the lanes of one more block on every axis. -/
structure HasRoom (limits : LaunchLimits) (extent elements : List Nat) : Prop where
  tiles_le : ∀ n ∈ tiles extent elements, n ≤ limits.gridBlockExtent
  prod_le : (tiles extent elements).prod ≤ wordMax
  rounded_le : ∀ e ∈ times ((tiles extent elements).map (· + (limits.blockThreads - 1))) elements,
    e ≤ wordMax

theorem Covers.blocks_le_rounded (hd : d.Covers limits extent elements)
    (hextent : ∀ e ∈ extent, 0 < e) :
    List.Forall₂ (· ≤ ·) (times (chosen limits extent elements).gridBlocks
      (chosen limits extent elements).blockThreads)
      ((tiles extent elements).map (· + (limits.blockThreads - 1))) := by
  have hpos := chooseBlock_pos limits (tiles_pos hextent hd.pos_of_mem)
  have hone : ∀ t ∈ chooseBlock limits (tiles extent elements), t ≤ limits.blockThreads :=
    fun t ht => Nat.le_trans (List.single_le_prod hpos t ht) hd.chooseBlock_le.2
  simp only [chosen]
  rw [times_tiles, List.forall₂_map_right_iff]
  refine List.Forall₂.flip (forall₂_zipWith (length_chooseBlock limits _) fun n t ht => ?_)
  have hround := ceilDiv_mul_lt (hpos t ht) n
  have hle := hone t ht
  change n ⌈/⌉ t * t ≤ n + (limits.blockThreads - 1)
  omega

theorem Covers.gridFits_of_hasRoom (hd : d.Covers limits extent elements)
    (hextent : ∀ e ∈ extent, 0 < e) (h : HasRoom limits extent elements) :
    (chosen limits extent elements).GridFits limits := by
  have hpos := chooseBlock_pos limits (tiles_pos hextent hd.pos_of_mem)
  have hle := Box.tiles_le (length_chooseBlock limits (tiles extent elements)) hpos
  constructor
  case gridBlocks_le => exact le_of_forall₂_le hle h.tiles_le
  case blocks_fit => exact Nat.le_trans (List.Forall₂.prod_le_prod' hle) h.prod_le
  case elements_fit =>
    exact le_of_forall₂_le (times_le_times (hd.blocks_le_rounded hextent) elements) h.rounded_le

theorem Covers.gridBlocks_le_of_line (hd : d.Covers limits extent elements) {x : Nat}
    (hline : extent = [x]) (hx : 0 < x) :
    ∃ g, d.gridBlocks = [g] ∧ ∃ c ≤ g, (chosen limits extent elements).gridBlocks = [c] := by
  subst hline
  obtain ⟨e, rfl⟩ := List.length_eq_one_iff.mp hd.length_eq
  obtain ⟨t, ht⟩ := List.length_eq_one_iff.mp hd.length_blockThreads
  obtain ⟨g, hg⟩ := List.length_eq_one_iff.mp (hd.length_threads.symm.trans hd.length_blockThreads)
  have hlimits := hd.withinLimits
  have he : 0 < e := hd.pos_of_mem e (by simp)
  have hgpos : 0 < g := hd.blocks_pos g (by simp [hg])
  have htpos : 0 < t := hd.threads_pos t (by simp [ht])
  have haxis : t ≤ limits.blockThreadExtent := hlimits.blockThreads_le t (by simp [ht])
  have hlanes : t ≤ limits.blockThreads := by simpa [ht] using hlimits.lanes_le
  have hcovers : x ≤ g * t * e := by simpa [hg, ht] using hd.extent_le
  have hneeded : x ⌈/⌉ e ≤ g * t := (ceilDiv_le_iff_le_mul he).mpr (by rwa [Nat.mul_comm])
  have hone : 0 < x ⌈/⌉ e := ceilDiv_pos hx he
  have hchosen : (chosen limits [x] [e]).gridBlocks =
      [(x ⌈/⌉ e) ⌈/⌉ min (min (x ⌈/⌉ e) (max limits.blockThreadExtent 1))
        (max limits.blockThreads 1)] := rfl
  refine ⟨g, hg, _, ?_, hchosen⟩
  generalize x ⌈/⌉ e = n at hneeded hone
  have hmin : min n t ≤ min (min n (max limits.blockThreadExtent 1)) (max limits.blockThreads 1) := by
    omega
  generalize min (min n (max limits.blockThreadExtent 1)) (max limits.blockThreads 1) = b at hmin
  refine (ceilDiv_le_iff_le_mul (by omega)).mpr ?_
  rw [Nat.mul_comm]
  calc
    n ≤ g * min n t := by
      rcases Nat.le_total n t with h | h
      · rw [Nat.min_eq_left h]
        exact Nat.le_mul_of_pos_left n hgpos
      · rwa [Nat.min_eq_right h]
    _ ≤ g * b := Nat.mul_le_mul_left g hmin

/-- Where some division covers an extent, the chosen division is the answer exactly if its grid is
within the limits. Otherwise the error says which limit the grid exceeds. There is room for the
grid of any block where there is room for one lane per block and for rounding up, and on one axis
rounding up is all that can go wrong. -/
theorem forExtent_of_covers (hlimits : limits.blockThreads ≤ wordMax)
    (hextent : ∀ e ∈ extent, 0 < e) (hd : d.Covers limits extent elements) :
    ((∃ made, forExtent limits extent elements = .ok made) ↔
      (chosen limits extent elements).GridFits limits) ∧
    (∀ made, forExtent limits extent elements = .ok made → made = chosen limits extent elements) ∧
    ((∃ e ∈ (chosen limits extent elements).gridBlocks, limits.gridBlockExtent < e) →
      forExtent limits extent elements = .error (.error (.invalidDivision (.overLimit .gridBlocks
        (chosen limits extent elements).gridBlocks limits.gridBlockExtent)))) ∧
    (¬ (chosen limits extent elements).GridFits limits →
      (∀ e ∈ (chosen limits extent elements).gridBlocks, e ≤ limits.gridBlockExtent) →
      forExtent limits extent elements =
        .error (.error (.invalidDivision (.tooLarge (chosen limits extent elements).text)))) ∧
    (HasRoom limits extent elements → (chosen limits extent elements).GridFits limits) ∧
    (extent.length = 1 →
      (∀ e ∈ (chosen limits extent elements).gridBlocks, e ≤ limits.gridBlockExtent) ∧
      (chosen limits extent elements).gridBlocks.prod ≤ wordMax) := by
  have hiff := hd.flaw?_chosen_eq_none_iff hlimits hextent
  have hflaw := hd.flaw?_chosen hlimits hextent
  rw [forExtent_eq limits hd.length_eq hd.words hextent hd.pos_of_mem]
  refine ⟨?_, fun made hmade => ?_, fun hgrid => ?_, fun hfits hgrid => ?_,
    hd.gridFits_of_hasRoom hextent, fun hline => ?_⟩
  · rw [← hiff]
    cases (chosen limits extent elements).flaw? limits with
    | none => exact ⟨fun _ => rfl, fun _ => ⟨_, rfl⟩⟩
    | some flaw => exact ⟨nofun, nofun⟩
  · cases hnone : (chosen limits extent elements).flaw? limits with
    | none =>
        rw [hnone] at hmade
        exact (Except.ok.inj hmade).symm
    | some flaw =>
        rw [hnone] at hmade
        cases hmade
  · have hany : ((chosen limits extent elements).gridBlocks.any
        (limits.gridBlockExtent < ·)) = true := by simpa using hgrid
    rw [hflaw, if_pos hany]
  · rw [any_lt_eq_false.mpr hgrid, if_neg Bool.false_ne_true] at hflaw
    split at hflaw
    · rw [hflaw]
    · exact absurd (hiff.mp hflaw) hfits
  · obtain ⟨x, rfl⟩ := List.length_eq_one_iff.mp hline
    obtain ⟨g, hg, c, hle, hc⟩ := hd.gridBlocks_le_of_line rfl (hextent x (by simp))
    have hwithin := hd.withinLimits
    have hlimit : g ≤ limits.gridBlockExtent := hwithin.gridBlocks_le g (by simp [hg])
    have hword : g ≤ wordMax := by simpa [hg] using hwithin.blocks_fit
    rw [hc]
    simp only [List.mem_singleton, forall_eq, List.prod_singleton]
    exact ⟨Nat.le_trans hle hlimit, Nat.le_trans hle hword⟩

/-- Three by five elements, with room for any grid; and a line as long as a word can number, whose
last block of two lanes would reach past it. -/
theorem forExtent_of_covers_small :
    (∃ made, forExtent ⟨9, 4, 8, 2, 0, 1⟩ [3, 5] [1, 1] = .ok made) ∧
    forExtent ⟨wordMax, 2, 2, 1, 0, 1⟩ [18446744073709551615] [1] =
      .error (.error (.invalidDivision (.tooLarge (text ⟨[9223372036854775808], [2], [1]⟩)))) := by
  have hrows : Covers ⟨9, 4, 8, 2, 0, 1⟩ [3, 5] [1, 1] ⟨[3, 5], [1, 1], [1, 1]⟩ :=
    ⟨⟨rfl, rfl, by decide, by decide, by decide⟩, rfl, rfl, [3, 5], rfl, by simp⟩
  have hline : Covers ⟨wordMax, 2, 2, 1, 0, 1⟩ [18446744073709551615] [1]
      ⟨[18446744073709551615], [1], [1]⟩ :=
    ⟨⟨rfl, rfl, by decide, by decide, by decide⟩, rfl, rfl, [18446744073709551615], rfl, by simp⟩
  obtain ⟨hrowsOk, -, -, -, hroom, -⟩ := forExtent_of_covers (by decide) (by decide) hrows
  obtain ⟨-, -, -, htooLarge, -, hshort⟩ := forExtent_of_covers (by decide) (by decide) hline
  refine ⟨hrowsOk.mpr (hroom ⟨by decide, by decide, by decide⟩), htooLarge ?_ (hshort rfl).1⟩
  intro hfits
  have hlast := hfits.elements_fit (9223372036854775808 * 2 * 1) (List.mem_singleton.mpr rfl)
  exact absurd hlast (by decide)

/-- A square of four by four goes into two by two blocks of two by two lanes. The block that is
chosen is a row of four lanes, and its grid is too long. -/
theorem not_forall_forExtent_ok :
    ¬ ∀ (limits : LaunchLimits) (extent elements : List Nat) (d : WorkDivision),
      limits.blockThreads ≤ wordMax → (∀ e ∈ extent, 0 < e) → d.Covers limits extent elements →
      ∃ made, forExtent limits extent elements = .ok made := by
  intro h
  have hsquare : Covers ⟨2, 4, 4, wordMax, 0, 1⟩ [4, 4] [1, 1] ⟨[2, 2], [2, 2], [1, 1]⟩ :=
    ⟨⟨rfl, rfl, by decide, by decide, by decide⟩, rfl, rfl, [4, 4], rfl, by simp⟩
  obtain ⟨made, hmade⟩ := h _ _ _ _ (by decide) (by decide) hsquare
  have herror : forExtent ⟨2, 4, 4, wordMax, 0, 1⟩ [4, 4] [1, 1] =
      .error (.error (.invalidDivision (.overLimit .gridBlocks [4, 1] 2))) := by rfl
  rw [herror] at hmade
  cases hmade

end LaneGrid.WorkDivision
