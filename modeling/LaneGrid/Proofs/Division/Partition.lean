import LaneGrid.Backend.Block
import LaneGrid.Proofs.Box.Tile

namespace LaneGrid

open Box

namespace WorkDivision

/-- A division whose three extents have the same axes, none of them empty. -/
structure Sound (d : WorkDivision) : Prop where
  length_threads : d.blockThreads.length = d.gridBlocks.length
  length_elements : d.threadElements.length = d.gridBlocks.length
  blocks_pos : ∀ e ∈ d.gridBlocks, 0 < e
  threads_pos : ∀ e ∈ d.blockThreads, 0 < e
  elements_pos : ∀ e ∈ d.threadElements, 0 < e

theorem Sound.length_gridThreads {d : WorkDivision} (hd : d.Sound) :
    d.threadElements.length = (times d.gridBlocks d.blockThreads).length := by
  rw [List.length_zipWith, hd.length_threads, Nat.min_self, hd.length_elements]

/-- A sound division whose counts are machine words. -/
structure Fits (d : WorkDivision) : Prop extends d.Sound where
  blockCount_eq : d.blockCount = .ok d.gridBlocks.prod
  laneCount_eq : d.laneCount = .ok d.blockThreads.prod
  gridThreads_le : ∀ e ∈ times d.gridBlocks d.blockThreads, e ≤ wordMax
  gridElements_le : ∀ e ∈ times (times d.gridBlocks d.blockThreads) d.threadElements, e ≤ wordMax

theorem pos_of_findIdx?_eq_none {extent : List Nat} (h : extent.findIdx? (· = 0) = none) :
    ∀ e ∈ extent, 0 < e := by
  intro e he
  have hne := List.findIdx?_eq_none_iff.mp h e he
  exact Nat.pos_of_ne_zero (by simpa using hne)

theorem eq_of_make_eq_ok {grid block elements : List Nat} {d : WorkDivision}
    (h : make grid block elements = .ok d) :
    d = ⟨grid, block, elements⟩ ∧ (∀ e ∈ grid, 0 < e) ∧ (∀ e ∈ block, 0 < e) ∧
      ∀ e ∈ elements, 0 < e := by
  simp only [make] at h
  split at h
  · cases h
  · rename_i hnone
    cases h
    simp only [zeroFlaw?, parts, List.findSome?_eq_none_iff, List.mem_cons, List.not_mem_nil,
      or_false, forall_eq_or_imp, forall_eq, Option.map_eq_none_iff] at hnone
    obtain ⟨hgrid, hblock, helements⟩ := hnone
    exact ⟨rfl, pos_of_findIdx?_eq_none hgrid, pos_of_findIdx?_eq_none hblock,
      pos_of_findIdx?_eq_none helements⟩

theorem sound_of_make {grid block elements : List Nat} {d : WorkDivision}
    (h : make grid block elements = .ok d) (hblock : block.length = grid.length)
    (helements : elements.length = grid.length) : d.Sound := by
  obtain ⟨rfl, hgrid, hthreads, hpos⟩ := eq_of_make_eq_ok h
  exact ⟨hblock, helements, hgrid, hthreads, hpos⟩

theorem toOption_isSome {ε α : Type} {x : Except ε α} (h : x.toOption.isSome = true) :
    ∃ a, x = .ok a := by
  rcases x with e | a
  · cases h
  · exact ⟨a, rfl⟩

theorem counts_of_validate {limits : LaunchLimits} {d : WorkDivision}
    (h : d.validate limits = .ok ()) :
    (∃ lanes, d.laneCount = .ok lanes ∧ lanes ≤ limits.blockThreads) ∧
      (∃ blocks, d.blockCount = .ok blocks) ∧ ∃ box, d.gridElements = .ok box := by
  rw [validate] at h
  split at h
  · cases h
  · rename_i hnone
    simp only [flaw?] at hnone
    split_ifs at hnone with _ _ _ hcrowded hlarge
    rw [Bool.not_eq_true, Bool.not_eq_false', Option.any_eq_true] at hcrowded
    rw [Bool.not_eq_true, Bool.or_eq_false_iff, Option.isNone_eq_false_iff,
      Option.isNone_eq_false_iff] at hlarge
    obtain ⟨lanes, hlanes, hle⟩ := hcrowded
    obtain ⟨n, hn⟩ := toOption_isSome (Option.isSome_of_eq_some hlanes)
    rw [hn] at hlanes
    cases hlanes
    exact ⟨⟨lanes, hn, of_decide_eq_true hle⟩, toOption_isSome hlarge.1, toOption_isSome hlarge.2⟩

theorem Sound.fits {d : WorkDivision} (hd : d.Sound) {limits : LaunchLimits}
    (h : d.validate limits = .ok ()) : d.Fits := by
  obtain ⟨⟨lanes, hlanes, -⟩, ⟨blocks, hblocks⟩, box, hbox⟩ := counts_of_validate h
  obtain ⟨threads, hthreads, hbox⟩ := bind_eq_ok.mp hbox
  obtain ⟨rfl, hthreads⟩ := eq_of_combine_mul_eq_ok hthreads
  obtain ⟨rfl, hbox⟩ := eq_of_combine_mul_eq_ok hbox
  refine ⟨hd, ?_, ?_, hthreads, hbox⟩
  · rw [hblocks, (eq_of_product_eq_ok hblocks).1]
  · rw [hlanes, (eq_of_product_eq_ok hlanes).1]

theorem Fits.gridElements_eq {d : WorkDivision} (hd : d.Fits) :
    d.gridElements = .ok (times (times d.gridBlocks d.blockThreads) d.threadElements) := by
  rw [gridElements, gridThreads, combine_mul_of_le hd.gridThreads_le, ok_bind,
    combine_mul_of_le hd.gridElements_le]

/-- The elements of one lane: the tile with the lane's index in the grid. -/
def laneElements (d : WorkDivision) (block thread : List Nat) : List (List Nat) :=
  (indices d.threadElements).map (tiled (tiled block d.blockThreads thread) d.threadElements)

end WorkDivision

namespace BlockTask

/-- The elements handled by all lanes of all blocks, block by block and lane by lane. -/
def handled (task : BlockTask) (g : Grouping) : Except Fault (List (List Nat)) := do
  let blocks ← task.division.blockCount
  let lanes ← task.division.laneCount
  let perBlock ← (List.range blocks).mapM fun block =>
    (List.range lanes).mapM fun number => do
      (← { task with block }.lane g number).elementIndices
  return perBlock.flatten.flatten

end BlockTask

namespace Lane

variable {l : Lane} {d : WorkDivision}

theorem gridThreadIndex_eq_ok (hd : l.division.Sound)
    (hfits : ∀ e ∈ times l.division.gridBlocks l.division.blockThreads, e ≤ wordMax)
    (hblock : Within l.blockIndex l.division.gridBlocks)
    (hthread : Within l.threadIndex l.division.blockThreads) :
    l.gridThreadIndex = .ok (tiled l.blockIndex l.division.blockThreads l.threadIndex) := by
  have hfirst := le_of_within (within_times hblock hd.length_threads hd.threads_pos) hfits
  have hindex := le_of_within (within_tiled hblock hthread hd.length_threads) hfits
  rw [gridThreadIndex, combine_mul_of_le hfirst, ok_bind, combine_add_of_le hindex]
  rfl

theorem elementIndices_eq_ok (hd : l.division.Fits)
    (hfits : l.division.threadElements.prod ≤ wordMax)
    (hblock : Within l.blockIndex l.division.gridBlocks)
    (hthread : Within l.threadIndex l.division.blockThreads) :
    l.elementIndices = .ok (l.division.laneElements l.blockIndex l.threadIndex) := by
  have hlane := within_tiled hblock hthread hd.length_threads
  have horigin := le_of_within (within_times hlane hd.length_gridThreads hd.elements_pos)
    hd.gridElements_le
  have helement : ∀ n, l.elementIndex
      (times (tiled l.blockIndex l.division.blockThreads l.threadIndex)
        l.division.threadElements) n =
      .ok (tiled (tiled l.blockIndex l.division.blockThreads l.threadIndex)
        l.division.threadElements (index l.division.threadElements n)) := by
    intro n
    have hplace := within_index hd.elements_pos n
    have hindex := le_of_within (within_tiled hlane hplace hd.length_gridThreads)
      hd.gridElements_le
    rw [elementIndex, delinearize_eq_ok hd.elements_pos, ok_bind, combine_add_of_le hindex]
    rfl
  rw [elementIndices, elementOrigin,
    gridThreadIndex_eq_ok hd.toSound hd.gridThreads_le hblock hthread, ok_bind,
    combine_mul_of_le horigin, ok_bind, elementCount, product_eq_ok hd.elements_pos hfits, ok_bind,
    mapM_eq_ok fun n _ => helement n, WorkDivision.laneElements, indices, List.map_map]
  rfl

end Lane

namespace BlockTask

variable {task : BlockTask}

theorem lane_eq_ok (hd : task.division.Sound) (g : Grouping) (block number : Nat) :
    { task with block }.lane g number = .ok
      ⟨task.division, index task.division.gridBlocks block,
        index task.division.blockThreads number, number, g.warpSize, g.blockGroup,
        g.warpGroup (number / g.warpSize), task.arena⟩ := by
  simp only [lane, delinearize_eq_ok hd.blocks_pos, delinearize_eq_ok hd.threads_pos, ok_bind]
  rfl

theorem elementIndices_lane (hd : task.division.Fits)
    (hfits : task.division.threadElements.prod ≤ wordMax) (g : Grouping) (block number : Nat) :
    (do (← { task with block }.lane g number).elementIndices) =
      .ok (task.division.laneElements (index task.division.gridBlocks block)
        (index task.division.blockThreads number)) := by
  rw [lane_eq_ok hd.toSound, ok_bind]
  exact Lane.elementIndices_eq_ok hd hfits (within_index hd.blocks_pos block)
    (within_index hd.threads_pos number)

theorem handled_eq_ok (hd : task.division.Fits)
    (hfits : task.division.threadElements.prod ≤ wordMax) (g : Grouping) :
    task.handled g = .ok ((indices task.division.gridBlocks).flatMap fun block =>
      (indices task.division.blockThreads).flatMap fun thread =>
        task.division.laneElements block thread) := by
  rw [handled, hd.blockCount_eq, ok_bind, hd.laneCount_eq, ok_bind,
    mapM_eq_ok fun block _ => mapM_eq_ok fun number _ =>
      elementIndices_lane hd hfits g block number,
    ok_bind, pure_eq_ok]
  simp only [indices, List.flatMap_def, List.flatten_flatten, List.map_map]
  rfl

theorem handled_perm (hd : task.division.Fits)
    (hfits : task.division.threadElements.prod ≤ wordMax) (g : Grouping) :
    ∃ xs, task.handled g = .ok xs ∧ xs.Perm (indices
      (times (times task.division.gridBlocks task.division.blockThreads)
        task.division.threadElements)) := by
  refine ⟨_, handled_eq_ok hd hfits g, ?_⟩
  have hlanes := flatMap_tiled_perm hd.length_threads
  have helements := flatMap_tiled_perm hd.length_gridThreads
  refine List.Perm.trans ?_ helements
  refine List.Perm.trans ?_ (hlanes.flatMap_right _)
  rw [List.flatMap_assoc]
  simp only [List.flatMap_map]
  exact List.Perm.refl _

end BlockTask

end LaneGrid
