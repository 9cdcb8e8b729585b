import LaneGrid.Proofs.Division.Cover

namespace LaneGrid

namespace Box

theorem forall₂_zipWith {R : Nat → Nat → Prop} {f : Nat → Nat → Nat} {v w : List Nat}
    (hlength : w.length = v.length) (h : ∀ a, ∀ b ∈ w, R a (f a b)) :
    List.Forall₂ R v (v.zipWith f w) := by
  induction v generalizing w with
  | nil => exact .nil
  | cons a v ih =>
      rcases w with _ | ⟨b, w⟩
      · cases hlength
      · refine .cons (h a b List.mem_cons_self) (ih (by simpa using hlength) ?_)
        exact fun a e he => h a e (List.mem_cons_of_mem b he)

theorem le_times {v w : List Nat} (hlength : w.length = v.length) (hw : ∀ e ∈ w, 0 < e) :
    List.Forall₂ (· ≤ ·) v (times v w) :=
  forall₂_zipWith hlength fun a _ hb => Nat.le_mul_of_pos_right a (hw _ hb)

theorem le_of_forall₂_le {v w : List Nat} (h : List.Forall₂ (· ≤ ·) v w) {n : Nat}
    (hw : ∀ e ∈ w, e ≤ n) : ∀ e ∈ v, e ≤ n := by
  induction h with
  | nil => simp
  | @cons a b v w hab _ ih =>
      intro e he
      rcases List.mem_cons.mp he with rfl | he
      · exact Nat.le_trans hab (hw b (by simp))
      · exact ih (fun x hx => hw x (by simp [hx])) e he

end Box

open Box

namespace WorkDivision

/-- The grid respects its limit, and the blocks and the elements along an axis can be counted. -/
structure GridFits (limits : LaunchLimits) (d : WorkDivision) : Prop where
  gridBlocks_le : ∀ e ∈ d.gridBlocks, e ≤ limits.gridBlockExtent
  blocks_fit : d.gridBlocks.prod ≤ wordMax
  elements_fit : ∀ e ∈ times (times d.gridBlocks d.blockThreads) d.threadElements, e ≤ wordMax

structure WithinLimits (limits : LaunchLimits) (d : WorkDivision) : Prop
    extends d.GridFits limits where
  blockThreads_le : ∀ e ∈ d.blockThreads, e ≤ limits.blockThreadExtent
  threadElements_le : ∀ e ∈ d.threadElements, e ≤ limits.threadElementExtent
  lanes_le : d.blockThreads.prod ≤ limits.blockThreads
  lanes_fit : d.blockThreads.prod ≤ wordMax

theorem validate_eq_ok {limits : LaunchLimits} {d : WorkDivision} :
    d.validate limits = .ok () ↔ d.flaw? limits = none := by
  rw [validate]
  cases d.flaw? limits with
  | none => simp
  | some flaw => simp

theorem any_lt_eq_false {extent : List Nat} {limit : Nat} :
    (extent.any (limit < ·)) = false ↔ ∀ e ∈ extent, e ≤ limit := by
  simp [List.any_eq_false]

theorem Sound.withinLimits {d : WorkDivision} (hd : d.Sound) {limits : LaunchLimits}
    (h : d.validate limits = .ok ()) : d.WithinLimits limits := by
  obtain ⟨⟨lanes, hlanes, hle⟩, ⟨blocks, hblocks⟩, -⟩ := counts_of_validate h
  obtain ⟨rfl, hlanes⟩ := eq_of_product_eq_ok hlanes
  obtain ⟨rfl, hblocks⟩ := eq_of_product_eq_ok hblocks
  have hnone := validate_eq_ok.mp h
  simp only [flaw?] at hnone
  split_ifs at hnone with hgrid hthreads helements
  exact ⟨⟨any_lt_eq_false.mp (Bool.not_eq_true _ ▸ hgrid), hblocks, (hd.fits h).gridElements_le⟩,
    any_lt_eq_false.mp (Bool.not_eq_true _ ▸ hthreads),
    any_lt_eq_false.mp (Bool.not_eq_true _ ▸ helements), hle, hlanes⟩

theorem WithinLimits.fits {d : WorkDivision} (hd : d.Sound) {limits : LaunchLimits}
    (h : d.WithinLimits limits) : d.Fits where
  toSound := hd
  blockCount_eq := product_eq_ok hd.blocks_pos h.blocks_fit
  laneCount_eq := product_eq_ok hd.threads_pos h.lanes_fit
  gridThreads_le := le_of_forall₂_le (le_times hd.length_gridThreads hd.elements_pos) h.elements_fit
  gridElements_le := h.elements_fit

theorem Sound.validate_eq_ok_iff {d : WorkDivision} (hd : d.Sound) {limits : LaunchLimits} :
    d.validate limits = .ok () ↔ d.WithinLimits limits := by
  refine ⟨hd.withinLimits, fun h => validate_eq_ok.mpr ?_⟩
  have hfits := h.fits hd
  rw [flaw?, any_lt_eq_false.mpr h.gridBlocks_le, any_lt_eq_false.mpr h.blockThreads_le,
    any_lt_eq_false.mpr h.threadElements_le, hfits.laneCount_eq, hfits.blockCount_eq,
    hfits.gridElements_eq]
  simp [Except.toOption, h.lanes_le]

end WorkDivision

end LaneGrid
