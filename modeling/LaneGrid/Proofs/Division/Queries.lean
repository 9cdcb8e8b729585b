import LaneGrid.Proofs.Division.Cover
import LaneGrid.Settings.Validity

namespace LaneGrid

open Box

theorem WorkDivision.Fits.prod_le_of_line {d : WorkDivision} (hd : d.Fits)
    (hline : d.gridBlocks.length = 1) :
    (times d.gridBlocks d.blockThreads).prod ≤ wordMax ∧ d.threadElements.prod ≤ wordMax := by
  obtain ⟨b, hb⟩ := List.length_eq_one_iff.mp hline
  obtain ⟨t, ht⟩ := List.length_eq_one_iff.mp (hd.length_threads.trans hline)
  obtain ⟨e, he⟩ := List.length_eq_one_iff.mp (hd.length_elements.trans hline)
  have hthreads := hd.gridThreads_le (b * t) (by simp [hb, ht])
  have helements := hd.gridElements_le (b * t * e) (by simp [hb, ht, he])
  have hpos : 0 < b * t :=
    Nat.mul_pos (hd.blocks_pos b (by simp [hb])) (hd.threads_pos t (by simp [ht]))
  rw [hb, ht, he]
  simp only [times, List.zipWith_cons_cons, List.zipWith_nil_right, List.prod_singleton]
  exact ⟨hthreads, Nat.le_trans (Nat.le_mul_of_pos_left e hpos) helements⟩

namespace Lane

variable {l : Lane}

/-- The lane with its place on every axis, and the size of the grid. -/
structure Located (l : Lane) : Prop where
  gridThreads_eq : l.division.gridThreads =
    .ok (times l.division.gridBlocks l.division.blockThreads)
  gridElements_eq : l.division.gridElements =
    .ok (times (times l.division.gridBlocks l.division.blockThreads) l.division.threadElements)
  blockNumber_eq : l.blockNumber = .ok (Box.number l.blockIndex l.division.gridBlocks)
  threadNumber_eq : l.threadNumber = .ok (Box.number l.threadIndex l.division.blockThreads)
  gridThreadIndex_eq : l.gridThreadIndex =
    .ok (tiled l.blockIndex l.division.blockThreads l.threadIndex)
  elementOrigin_eq : l.elementOrigin =
    .ok (times (tiled l.blockIndex l.division.blockThreads l.threadIndex)
      l.division.threadElements)

/-- Every query of the lane has an answer. -/
structure Answers (l : Lane) : Prop where
  gridThreads : ∃ extent, l.division.gridThreads = .ok extent
  gridElements : ∃ extent, l.division.gridElements = .ok extent
  blockNumber : ∃ n, l.blockNumber = .ok n
  threadNumber : ∃ n, l.threadNumber = .ok n
  gridThreadIndex : ∃ place, l.gridThreadIndex = .ok place
  gridThreadNumber : ∃ n, l.gridThreadNumber = .ok n
  elementOrigin : ∃ place, l.elementOrigin = .ok place
  elementIndices : ∃ places, l.elementIndices = .ok places

theorem Located.answers (h : l.Located) (hnumber : ∃ n, l.gridThreadNumber = .ok n)
    (hindices : ∃ places, l.elementIndices = .ok places) : l.Answers where
  gridThreads := ⟨_, h.gridThreads_eq⟩
  gridElements := ⟨_, h.gridElements_eq⟩
  blockNumber := ⟨_, h.blockNumber_eq⟩
  threadNumber := ⟨_, h.threadNumber_eq⟩
  gridThreadIndex := ⟨_, h.gridThreadIndex_eq⟩
  gridThreadNumber := hnumber
  elementOrigin := ⟨_, h.elementOrigin_eq⟩
  elementIndices := hindices

theorem located (hd : l.division.Fits) (hblock : Within l.blockIndex l.division.gridBlocks)
    (hthread : Within l.threadIndex l.division.blockThreads) : l.Located := by
  have hblocks := (eq_of_product_eq_ok hd.blockCount_eq).2
  have hlanes := (eq_of_product_eq_ok hd.laneCount_eq).2
  have hplace := gridThreadIndex_eq_ok hd.toSound hd.gridThreads_le hblock hthread
  have hlane := within_tiled hblock hthread hd.length_threads
  have horigin := le_of_within (within_times hlane hd.length_gridThreads hd.elements_pos)
    hd.gridElements_le
  constructor
  case gridThreads_eq => exact combine_mul_of_le hd.gridThreads_le
  case gridElements_eq => exact hd.gridElements_eq
  case blockNumber_eq => exact linearize_eq_ok hblock hblocks
  case threadNumber_eq => exact linearize_eq_ok hthread hlanes
  case gridThreadIndex_eq => exact hplace
  case elementOrigin_eq => rw [elementOrigin, hplace, ok_bind, combine_mul_of_le horigin]

theorem gridThreadNumber_eq_ok_iff (hd : l.division.Fits)
    (hblock : Within l.blockIndex l.division.gridBlocks)
    (hthread : Within l.threadIndex l.division.blockThreads) {n : Nat} :
    l.gridThreadNumber = .ok n ↔
      Box.number (tiled l.blockIndex l.division.blockThreads l.threadIndex)
        (times l.division.gridBlocks l.division.blockThreads) = n ∧ n ≤ wordMax := by
  have hlocated := located hd hblock hthread
  rw [gridThreadNumber, hlocated.gridThreadIndex_eq, ok_bind, hlocated.gridThreads_eq, ok_bind]
  exact linearize_eq_ok_iff (within_tiled hblock hthread hd.length_threads)

theorem exists_elementIndices_iff (hd : l.division.Fits)
    (hblock : Within l.blockIndex l.division.gridBlocks)
    (hthread : Within l.threadIndex l.division.blockThreads) :
    (∃ places, l.elementIndices = .ok places) ↔ l.division.threadElements.prod ≤ wordMax := by
  constructor
  · rintro ⟨places, hplaces⟩
    obtain ⟨origin, -, hcount⟩ := bind_eq_ok.mp hplaces
    obtain ⟨count, hcount, -⟩ := bind_eq_ok.mp hcount
    obtain ⟨rfl, hfits⟩ := eq_of_product_eq_ok hcount
    exact hfits
  · intro hfits
    exact ⟨_, elementIndices_eq_ok hd hfits hblock hthread⟩

end Lane

namespace BlockTask

variable {task : BlockTask}

/-- Some property of every lane of every block. -/
def EveryLane (task : BlockTask) (g : Grouping) (p : Lane → Prop) : Prop :=
  ∀ block < task.division.gridBlocks.prod, ∀ number < task.division.blockThreads.prod,
    ∃ l, { task with block }.lane g number = .ok l ∧ p l

theorem EveryLane.mono {g : Grouping} {p q : Lane → Prop} (h : task.EveryLane g p)
    (hpq : ∀ l, p l → q l) : task.EveryLane g q := by
  intro block hblock number hnumber
  obtain ⟨l, hl, hp⟩ := h block hblock number hnumber
  exact ⟨l, hl, hpq l hp⟩

theorem EveryLane.and {g : Grouping} {p q : Lane → Prop} (hp : task.EveryLane g p)
    (hq : task.EveryLane g q) : task.EveryLane g fun l => p l ∧ q l := by
  intro block hblock number hnumber
  obtain ⟨l, hl, hpl⟩ := hp block hblock number hnumber
  obtain ⟨l', hl', hql⟩ := hq block hblock number hnumber
  obtain rfl := Except.ok.inj (hl.symm.trans hl')
  exact ⟨l, hl, hpl, hql⟩

theorem everyLane_iff (hd : task.division.Fits) (g : Grouping) {p : Lane → Prop}
    {q : List Nat → List Nat → Prop}
    (hpq : ∀ l : Lane, l.division = task.division → Within l.blockIndex l.division.gridBlocks →
      Within l.threadIndex l.division.blockThreads → (p l ↔ q l.blockIndex l.threadIndex)) :
    task.EveryLane g p ↔ ∀ block thread, Within block task.division.gridBlocks →
      Within thread task.division.blockThreads → q block thread := by
  constructor
  · intro hp block thread hblock hthread
    obtain ⟨l, hl, hpl⟩ := hp (number block task.division.gridBlocks) (number_lt_prod hblock)
      (number thread task.division.blockThreads) (number_lt_prod hthread)
    rw [lane_eq_ok hd.toSound, index_number hblock, index_number hthread] at hl
    obtain rfl := Except.ok.inj hl
    exact (hpq _ rfl hblock hthread).mp hpl
  · intro hq block _ thread _
    have hblock := within_index hd.blocks_pos block
    have hthread := within_index hd.threads_pos thread
    exact ⟨_, lane_eq_ok hd.toSound g block thread,
      (hpq _ rfl hblock hthread).mpr (hq _ _ hblock hthread)⟩

theorem everyLane_located (hd : task.division.Fits) (g : Grouping) :
    task.EveryLane g Lane.Located := by
  refine (everyLane_iff hd g (q := fun _ _ => True) ?_).mpr fun _ _ _ _ => trivial
  intro l hl hblock hthread
  exact ⟨fun _ => trivial, fun _ => Lane.located (hl ▸ hd) hblock hthread⟩

theorem everyLane_gridThreadNumber_iff (hd : task.division.Fits) (g : Grouping) :
    task.EveryLane g (fun l => ∃ n, l.gridThreadNumber = .ok n) ↔
      (times task.division.gridBlocks task.division.blockThreads).prod ≤ wordMax + 1 := by
  have hnumbers := everyLane_iff hd g (p := fun l => ∃ n, l.gridThreadNumber = .ok n)
    (q := fun block thread => number (tiled block task.division.blockThreads thread)
      (times task.division.gridBlocks task.division.blockThreads) ≤ wordMax) (by
    intro l hl hblock hthread
    rw [← hl]
    constructor
    · rintro ⟨n, hn⟩
      obtain ⟨rfl, hfits⟩ := (Lane.gridThreadNumber_eq_ok_iff (hl ▸ hd) hblock hthread).mp hn
      exact hfits
    · intro hfits
      exact ⟨_, (Lane.gridThreadNumber_eq_ok_iff (hl ▸ hd) hblock hthread).mpr ⟨rfl, hfits⟩⟩)
  rw [hnumbers]
  constructor
  · intro hall
    have hpos := pos_of_within (within_tiled (within_index hd.blocks_pos 0)
      (within_index hd.threads_pos 0) hd.length_threads)
    have hprod := List.prod_pos_iff_forall_pos_nat.mpr hpos
    obtain ⟨block, thread, hblock, hthread, hlast⟩ :=
      exists_tiled (within_index hpos
        ((times task.division.gridBlocks task.division.blockThreads).prod - 1)) hd.length_threads
    have hle := hall block thread hblock hthread
    rw [hlast, number_index, Nat.mod_eq_of_lt (by omega)] at hle
    omega
  · intro hfits block thread hblock hthread
    have hlt := number_lt_prod (within_tiled hblock hthread hd.length_threads)
    omega

theorem everyLane_elementIndices_iff (hd : task.division.Fits) (g : Grouping) :
    task.EveryLane g (fun l => ∃ places, l.elementIndices = .ok places) ↔
      task.division.threadElements.prod ≤ wordMax := by
  have hlists := everyLane_iff hd g (p := fun l => ∃ places, l.elementIndices = .ok places)
    (q := fun _ _ => task.division.threadElements.prod ≤ wordMax) (by
    intro l hl hblock hthread
    rw [← hl]
    exact Lane.exists_elementIndices_iff (hl ▸ hd) hblock hthread)
  rw [hlists]
  constructor
  · intro hall
    exact hall _ _ (within_index hd.blocks_pos 0) (within_index hd.threads_pos 0)
  · exact fun hfits _ _ _ _ => hfits

/-- All queries have an answer on every lane exactly if the last lane of the grid has a number and
the elements of a lane have a count that fit a machine word. -/
theorem everyLane_answers_iff (hd : task.division.Fits) (g : Grouping) :
    task.EveryLane g Lane.Answers ↔
      (times task.division.gridBlocks task.division.blockThreads).prod ≤ wordMax + 1 ∧
        task.division.threadElements.prod ≤ wordMax := by
  rw [← everyLane_gridThreadNumber_iff hd g, ← everyLane_elementIndices_iff hd g]
  constructor
  · intro hall
    exact ⟨hall.mono fun l h => h.gridThreadNumber, hall.mono fun l h => h.elementIndices⟩
  · rintro ⟨hnumbers, hlists⟩
    exact (((everyLane_located hd g).and hnumbers).and hlists).mono
      fun l h => h.1.1.answers h.1.2 h.2

/-- Every lane of an accepted division can tell where it is. Numbering the lanes of the grid and
listing the elements of a lane take a product each, that of all lanes and that of the elements,
and have an answer on every lane exactly if it fits. On one axis both fit. -/
theorem queries_of_accepted {grid block elements : List Nat} {d : WorkDivision}
    (hmake : WorkDivision.make grid block elements = .ok d)
    (hblock : block.length = grid.length) (helements : elements.length = grid.length)
    {limits : LaunchLimits} (hvalid : d.validate limits = .ok ()) (task : BlockTask)
    (htask : task.division = d) (g : Grouping) :
    task.EveryLane g Lane.Located ∧
    (task.EveryLane g (fun l => ∃ n, l.gridThreadNumber = .ok n) ↔
      (times grid block).prod ≤ wordMax + 1) ∧
    (task.EveryLane g (fun l => ∃ places, l.elementIndices = .ok places) ↔
      elements.prod ≤ wordMax) ∧
    (task.EveryLane g Lane.Answers ↔
      (times grid block).prod ≤ wordMax + 1 ∧ elements.prod ≤ wordMax) ∧
    (grid.length = 1 → task.EveryLane g Lane.Answers) := by
  subst htask
  have hd := (WorkDivision.sound_of_make hmake hblock helements).fits hvalid
  have hnumbers := everyLane_gridThreadNumber_iff hd g
  have hlists := everyLane_elementIndices_iff hd g
  have hanswers := everyLane_answers_iff hd g
  have hprods := hd.prod_le_of_line
  rw [(WorkDivision.eq_of_make_eq_ok hmake).1] at hnumbers hlists hanswers hprods
  refine ⟨everyLane_located hd g, hnumbers, hlists, hanswers, fun hline => hanswers.mpr ?_⟩
  obtain ⟨hgrid, helems⟩ := hprods hline
  exact ⟨Nat.le_succ_of_le hgrid, helems⟩

/-- As many lanes as numbers that fit a machine word, in blocks of two. -/
theorem queries_of_full_grid :
    EveryLane ⟨⟨[4294967296, 2147483648], [2, 1], [3, 5]⟩, idle, 0, ⟨0, 0, 0⟩, #[]⟩
      (soloGrouping 2 2) Lane.Answers := by
  have hmake : WorkDivision.make [4294967296, 2147483648] [2, 1] [3, 5] =
      .ok ⟨[4294967296, 2147483648], [2, 1], [3, 5]⟩ := by rfl
  have hvalid : WorkDivision.validate
      (Backend.fibers (.host .standard 0) .standard).limits
      ⟨[4294967296, 2147483648], [2, 1], [3, 5]⟩ = .ok () := by rfl
  obtain ⟨-, -, -, hanswers, -⟩ := queries_of_accepted hmake rfl rfl hvalid
    ⟨⟨[4294967296, 2147483648], [2, 1], [3, 5]⟩, idle, 0, ⟨0, 0, 0⟩, #[]⟩ rfl (soloGrouping 2 2)
  exact hanswers.mpr (by decide)

end BlockTask

/-- The backends of a machine with these settings. -/
def Settings.backends (s : Settings) : List Backend :=
  [.serial (.host s.host 0), .blocks (.host s.host 0), .threads (.host s.host 0) s.host,
    .fibers (.host s.host 0) s.host] ++ (Platform.accelerators s.accelerator).map .accelerator

/-- One lane with a square of elements whose sides fit half a machine word. It is accepted, and it
cannot count its elements. -/
theorem BlockTask.not_forall_everyLane_answers :
    ¬ ∀ (s : Settings) (b : Backend) (grid block elements : List Nat) (d : WorkDivision)
      (task : BlockTask) (g : Grouping), s.validate = .ok () → b ∈ s.backends →
      WorkDivision.make grid block elements = .ok d → block.length = grid.length →
      elements.length = grid.length → d.validate b.limits = .ok () → task.division = d →
      task.EveryLane g Lane.Answers := by
  intro h
  have hmake : WorkDivision.make [1, 1] [1, 1] [4294967296, 4294967296] =
      .ok ⟨[1, 1], [1, 1], [4294967296, 4294967296]⟩ := by rfl
  have hvalid : WorkDivision.validate (Backend.serial (.host .standard 0)).limits
      ⟨[1, 1], [1, 1], [4294967296, 4294967296]⟩ = .ok () := by rfl
  have hanswers := h (.standard 1) (.serial (.host .standard 0)) _ _ _ _
    ⟨⟨[1, 1], [1, 1], [4294967296, 4294967296]⟩, idle, 0, ⟨0, 0, 0⟩, #[]⟩ (soloGrouping 1 1)
    (by rfl) (List.mem_append_left _ List.mem_cons_self) hmake rfl rfl hvalid rfl
  have hd := (WorkDivision.sound_of_make hmake rfl rfl).fits hvalid
  have hfits := ((everyLane_answers_iff hd _).mp hanswers).2
  exact absurd hfits (by decide)

end LaneGrid
