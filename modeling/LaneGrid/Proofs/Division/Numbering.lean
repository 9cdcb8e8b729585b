import Mathlib.Algebra.BigOperators.Group.List.Lemmas
import Mathlib.Data.Set.Function
import Mathlib.Order.Interval.Set.Defs
import LaneGrid.Proofs.Division.Cover

namespace LaneGrid

open Box

namespace Box

theorem prod_times {v w : List Nat} (hlength : w.length = v.length) :
    (times v w).prod = v.prod * w.prod := by
  induction v generalizing w with
  | nil =>
      obtain rfl := List.eq_nil_of_length_eq_zero hlength
      rfl
  | cons a v ih =>
      rcases w with _ | ⟨b, w⟩
      · cases hlength
      · rw [times, List.zipWith_cons_cons, List.prod_cons, List.prod_cons, List.prod_cons,
          ih (by simpa using hlength), Nat.mul_mul_mul_comm]

theorem le_prod_of_mem {extent : List Nat} (hpos : ∀ e ∈ extent, 0 < e) {e : Nat}
    (he : e ∈ extent) : e ≤ extent.prod :=
  Nat.le_of_dvd (List.prod_pos_iff_forall_pos_nat.mpr hpos) (List.dvd_prod he)

theorem pos_times {v w : List Nat} (hv : ∀ e ∈ v, 0 < e) (hw : ∀ e ∈ w, 0 < e)
    (hlength : w.length = v.length) : ∀ e ∈ times v w, 0 < e :=
  pos_of_within (within_tiled (within_index hv 0) (within_index hw 0) hlength)

end Box

namespace WorkDivision

/-- A sound division whose number of lanes, over all blocks, is a machine word. -/
structure LanesFit (d : WorkDivision) : Prop extends d.Sound where
  lanes_le : d.gridBlocks.prod * d.blockThreads.prod ≤ wordMax

variable {d : WorkDivision}

theorem LanesFit.blockCount_eq (hd : d.LanesFit) : d.blockCount = .ok d.gridBlocks.prod := by
  refine product_eq_ok hd.blocks_pos (Nat.le_trans ?_ hd.lanes_le)
  exact Nat.le_mul_of_pos_right _ (List.prod_pos_iff_forall_pos_nat.mpr hd.threads_pos)

theorem LanesFit.laneCount_eq (hd : d.LanesFit) : d.laneCount = .ok d.blockThreads.prod := by
  refine product_eq_ok hd.threads_pos (Nat.le_trans ?_ hd.lanes_le)
  exact Nat.le_mul_of_pos_left _ (List.prod_pos_iff_forall_pos_nat.mpr hd.blocks_pos)

theorem LanesFit.prod_times_le (hd : d.LanesFit) :
    (times d.gridBlocks d.blockThreads).prod ≤ wordMax := by
  rw [prod_times hd.length_threads]
  exact hd.lanes_le

theorem LanesFit.gridThreads_le (hd : d.LanesFit) :
    ∀ e ∈ times d.gridBlocks d.blockThreads, e ≤ wordMax := by
  intro e he
  have hpos := pos_times hd.blocks_pos hd.threads_pos hd.length_threads
  exact Nat.le_trans (le_prod_of_mem hpos he) hd.prod_times_le

end WorkDivision

namespace Lane

variable {l : Lane}

theorem gridThreadNumber_eq_ok (hd : l.division.LanesFit)
    (hblock : Within l.blockIndex l.division.gridBlocks)
    (hthread : Within l.threadIndex l.division.blockThreads) :
    l.gridThreadNumber = .ok
      (Box.number (tiled l.blockIndex l.division.blockThreads l.threadIndex)
        (times l.division.gridBlocks l.division.blockThreads)) := by
  rw [gridThreadNumber, gridThreadIndex_eq_ok hd.toSound hd.gridThreads_le hblock hthread, ok_bind,
    WorkDivision.gridThreads, combine_mul_of_le hd.gridThreads_le, ok_bind]
  exact linearize_eq_ok (within_tiled hblock hthread hd.length_threads) hd.prod_times_le

end Lane

namespace BlockTask

variable {task : BlockTask}

/-- The number in the grid of one lane of one block. -/
def gridNumber (task : BlockTask) (g : Grouping) (block number : Nat) : Except Fault Nat := do
  (← { task with block }.lane g number).gridThreadNumber

/-- The same number, computed without bounds. -/
def exactNumber (task : BlockTask) (block number : Nat) : Nat :=
  Box.number
    (tiled (index task.division.gridBlocks block) task.division.blockThreads
      (index task.division.blockThreads number))
    (times task.division.gridBlocks task.division.blockThreads)

theorem gridNumber_eq_ok (hd : task.division.LanesFit) (g : Grouping) (block number : Nat) :
    task.gridNumber g block number = .ok (task.exactNumber block number) := by
  rw [gridNumber, lane_eq_ok hd.toSound, ok_bind]
  exact Lane.gridThreadNumber_eq_ok hd (within_index hd.blocks_pos block)
    (within_index hd.threads_pos number)

theorem exactNumber_lt (hd : task.division.Sound) (block number : Nat) :
    task.exactNumber block number < task.division.gridBlocks.prod *
      task.division.blockThreads.prod := by
  rw [← prod_times hd.length_threads]
  exact number_lt_prod (within_tiled (within_index hd.blocks_pos block)
    (within_index hd.threads_pos number) hd.length_threads)

theorem eq_of_index_eq_index {extent : List Nat} {n m : Nat} (hn : n < extent.prod)
    (hm : m < extent.prod) (h : index extent n = index extent m) : n = m := by
  have hnumber := congrArg (number · extent) h
  simpa only [number_index, Nat.mod_eq_of_lt hn, Nat.mod_eq_of_lt hm] using hnumber

theorem exactNumber_injective (hd : task.division.Sound) {block block' number number' : Nat}
    (hblock : block < task.division.gridBlocks.prod)
    (hblock' : block' < task.division.gridBlocks.prod)
    (hnumber : number < task.division.blockThreads.prod)
    (hnumber' : number' < task.division.blockThreads.prod)
    (h : task.exactNumber block number = task.exactNumber block' number') :
    block = block' ∧ number = number' := by
  have htile := within_index hd.blocks_pos block
  have htile' := within_index hd.blocks_pos block'
  have hplace := within_index hd.threads_pos number
  have hplace' := within_index hd.threads_pos number'
  have hindex := number_injective (within_tiled htile hplace hd.length_threads)
    (within_tiled htile' hplace' hd.length_threads) h
  obtain ⟨hsame, hsame'⟩ :=
    tiled_injective htile htile' hplace hplace' hd.length_threads hindex
  exact ⟨eq_of_index_eq_index hblock hblock' hsame, eq_of_index_eq_index hnumber hnumber' hsame'⟩

theorem exists_exactNumber_eq (hd : task.division.Sound) {n : Nat}
    (hn : n < task.division.gridBlocks.prod * task.division.blockThreads.prod) :
    ∃ block < task.division.gridBlocks.prod, ∃ number < task.division.blockThreads.prod,
      task.exactNumber block number = n := by
  have hpos := pos_times hd.blocks_pos hd.threads_pos hd.length_threads
  obtain ⟨tile, place, htile, hplace, heq⟩ :=
    exists_tiled (within_index hpos n) hd.length_threads
  refine ⟨number tile task.division.gridBlocks, number_lt_prod htile,
    number place task.division.blockThreads, number_lt_prod hplace, ?_⟩
  rw [exactNumber, index_number htile, index_number hplace, heq, number_index,
    prod_times hd.length_threads, Nat.mod_eq_of_lt hn]

/-- The numbers that lanes have in the grid are those below the number of all lanes, and no two
lanes have the same. -/
theorem gridNumber_bijOn (hd : task.division.LanesFit) (g : Grouping) :
    Set.BijOn (fun p : Nat × Nat => task.gridNumber g p.1 p.2)
      (Set.Iio task.division.gridBlocks.prod ×ˢ Set.Iio task.division.blockThreads.prod)
      (Except.ok '' Set.Iio (task.division.gridBlocks.prod * task.division.blockThreads.prod)) := by
  refine ⟨?_, ?_, ?_⟩
  · rintro ⟨block, number⟩ -
    exact ⟨_, exactNumber_lt hd.toSound block number, (gridNumber_eq_ok hd g block number).symm⟩
  · rintro ⟨block, number⟩ ⟨hblock, hnumber⟩ ⟨block', number'⟩ ⟨hblock', hnumber'⟩ heq
    simp only [gridNumber_eq_ok hd, Except.ok.injEq] at heq
    obtain ⟨rfl, rfl⟩ :=
      exactNumber_injective hd.toSound hblock hblock' hnumber hnumber' heq
    rfl
  · rintro _ ⟨n, hn, rfl⟩
    obtain ⟨block, hblock, number, hnumber, rfl⟩ := exists_exactNumber_eq hd.toSound hn
    exact ⟨(block, number), ⟨hblock, hnumber⟩, gridNumber_eq_ok hd g block number⟩

theorem exists_numbered_lane (hd : task.division.LanesFit) (g : Grouping) {block number : Nat}
    (hblock : block < task.division.gridBlocks.prod)
    (hnumber : number < task.division.blockThreads.prod) :
    ∃ l, { task with block }.lane g number = .ok l ∧ l.blockNumber = .ok block ∧
      l.threadNumber = .ok number := by
  have hblocks := (eq_of_product_eq_ok hd.blockCount_eq).2
  have hlanes := (eq_of_product_eq_ok hd.laneCount_eq).2
  refine ⟨_, lane_eq_ok hd.toSound g block number, ?_, ?_⟩
  · rw [Lane.blockNumber, linearize_eq_ok (within_index hd.blocks_pos block) hblocks, number_index,
      Nat.mod_eq_of_lt hblock]
  · rw [Lane.threadNumber, linearize_eq_ok (within_index hd.threads_pos number) hlanes,
      number_index, Nat.mod_eq_of_lt hnumber]

/-- Every lane reads back the numbers it was made from, its block's and its own, and the numbers
in the grid are a bijection from the lanes of all blocks onto the numbers below their count. -/
theorem lanes_numbered {grid block elements : List Nat} {d : WorkDivision}
    (hmake : WorkDivision.make grid block elements = .ok d)
    (hblock : block.length = grid.length) (helements : elements.length = grid.length)
    (hcount : grid.prod * block.prod ≤ wordMax) (task : BlockTask) (htask : task.division = d)
    (g : Grouping) :
    d.blockCount = .ok grid.prod ∧ d.laneCount = .ok block.prod ∧
      (∀ b < grid.prod, ∀ n < block.prod, ∃ l, { task with block := b }.lane g n = .ok l ∧
        l.blockNumber = .ok b ∧ l.threadNumber = .ok n) ∧
      Set.BijOn (fun p : Nat × Nat => task.gridNumber g p.1 p.2)
        (Set.Iio grid.prod ×ˢ Set.Iio block.prod)
        (Except.ok '' Set.Iio (grid.prod * block.prod)) := by
  have hsound := WorkDivision.sound_of_make hmake hblock helements
  obtain ⟨rfl, -⟩ := WorkDivision.eq_of_make_eq_ok hmake
  have hd : WorkDivision.LanesFit ⟨grid, block, elements⟩ := ⟨hsound, hcount⟩
  have hcounts := hd.blockCount_eq
  have hlanes := hd.laneCount_eq
  rw [← htask] at hd
  have hnumbers := gridNumber_bijOn hd g
  rw [htask] at hnumbers
  refine ⟨hcounts, hlanes, fun b hb n hn => ?_, hnumbers⟩
  exact exists_numbered_lane hd g (by rwa [htask]) (by rwa [htask])

/-- Twelve blocks of ten lanes: lane seven of block six is lane 72 of the grid. -/
theorem lanes_numbered_of_twelve_blocks :
    gridNumber ⟨⟨[3, 4], [2, 5], [1, 2]⟩, idle, 0, ⟨0, 0, 0⟩, #[]⟩ (soloGrouping 10 10) 6 7 =
        .ok 72 ∧
      Set.BijOn
        (fun p : Nat × Nat =>
          gridNumber ⟨⟨[3, 4], [2, 5], [1, 2]⟩, idle, 0, ⟨0, 0, 0⟩, #[]⟩ (soloGrouping 10 10)
            p.1 p.2)
        (Set.Iio 12 ×ˢ Set.Iio 10) (Except.ok '' Set.Iio 120) := by
  have hmake : WorkDivision.make [3, 4] [2, 5] [1, 2] = .ok ⟨[3, 4], [2, 5], [1, 2]⟩ := by rfl
  obtain ⟨-, -, -, hnumbers⟩ := lanes_numbered hmake rfl rfl (by decide)
    ⟨⟨[3, 4], [2, 5], [1, 2]⟩, idle, 0, ⟨0, 0, 0⟩, #[]⟩ rfl (soloGrouping 10 10)
  exact ⟨by rfl, hnumbers⟩

end BlockTask

end LaneGrid
