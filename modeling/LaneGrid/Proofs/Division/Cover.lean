import LaneGrid.Proofs.Division.Partition

namespace LaneGrid

namespace Box

theorem forall₂_trans {R S T : Nat → Nat → Prop} (hrst : ∀ a b c, R a b → S b c → T a c)
    {u v w : List Nat} (huv : List.Forall₂ R u v) (hvw : List.Forall₂ S v w) :
    List.Forall₂ T u w := by
  induction huv generalizing w with
  | nil =>
      cases hvw
      exact .nil
  | cons hab _ ih =>
      rcases hvw with _ | ⟨hbc, hvw⟩
      exact .cons (hrst _ _ _ hab hbc) (ih hvw)

theorem times_le_times {v v' : List Nat} (h : List.Forall₂ (· ≤ ·) v v') (w : List Nat) :
    List.Forall₂ (· ≤ ·) (times v w) (times v' w) := by
  induction h generalizing w with
  | nil => exact .nil
  | cons hle _ ih =>
      rcases w with _ | ⟨b, w⟩
      · exact .nil
      · exact .cons (Nat.mul_le_mul_right b hle) (ih w)

theorem filter_isWithin_perm {extent box : List Nat} (h : List.Forall₂ (· ≤ ·) extent box) :
    ((indices box).filter (Axes.isWithin · extent)).Perm (indices extent) := by
  apply (List.perm_ext_iff_of_nodup ((nodup_indices box).filter _) (nodup_indices extent)).mpr
  intro i
  rw [List.mem_filter, mem_indices, mem_indices]
  constructor
  · rintro ⟨hbox, hin⟩
    have hlength : i.length = extent.length := hbox.length_eq.trans h.length_eq.symm
    exact (isWithin_eq_true_iff hlength).mp hin
  · intro hin
    refine ⟨forall₂_trans ?_ hin h, ?_⟩
    · exact fun _ _ _ => Nat.lt_of_lt_of_le
    · exact (isWithin_eq_true_iff hin.length_eq).mpr hin

end Box

open Box

theorem Axes.le_mul_of_ceilDiv_eq_ok {a b c : Nat}
    (h : Axes.ceilDiv wordArithmetic a b = .ok c) : a ≤ c * b := by
  rw [Axes.ceilDiv] at h
  rcases Nat.eq_zero_or_pos b with rfl | hb
  · cases h
  rw [word_div (Nat.ne_of_gt hb), ok_bind, word_rem (Nat.ne_of_gt hb), ok_bind] at h
  have hdiv := Nat.div_add_mod' a b
  have hmod := Nat.mod_lt a hb
  split at h
  · rename_i hzero
    cases h
    have hzero : a % b = 0 := hzero
    omega
  · obtain ⟨-, rfl⟩ := keepWord_eq_ok.mp h
    have hone : wordArithmetic.one = 1 := rfl
    rw [hone, Nat.succ_mul]
    omega

theorem Axes.le_times_of_ceilDivs_eq_ok {v w r : List Nat} (hlength : w.length = v.length)
    (h : Axes.ceilDivs wordArithmetic v w = .ok r) :
    List.Forall₂ (· ≤ ·) v (times r w) := by
  have hsteps := forall₂_of_mapM_eq_ok h
  clear h
  induction v generalizing w r with
  | nil =>
      have hw : w = [] := List.eq_nil_of_length_eq_zero hlength
      subst hw
      cases hsteps
      exact .nil
  | cons a v ih =>
      rcases w with _ | ⟨b, w⟩
      · cases hlength
      · rcases hsteps with _ | ⟨hstep, hsteps⟩
        refine .cons (Axes.le_mul_of_ceilDiv_eq_ok hstep) (ih (by simpa using hlength) hsteps)

namespace WorkDivision

theorem length_fillBlock (perAxis budget : Nat) (needed : List Nat) :
    (fillBlock perAxis budget needed).length = needed.length := by
  induction needed generalizing budget with
  | nil => rfl
  | cons n needed ih => simp [fillBlock, ih]

theorem length_chooseBlock (limits : LaunchLimits) (needed : List Nat) :
    (chooseBlock limits needed).length = needed.length := by
  rw [chooseBlock, List.length_reverse, length_fillBlock, List.length_reverse]

theorem steps_of_forExtent {limits : LaunchLimits} {extent elements : List Nat}
    {d : WorkDivision} (h : forExtent limits extent elements = .ok d) :
    ∃ threads grid, Axes.ceilDivs wordArithmetic extent elements = .ok threads ∧
      Axes.ceilDivs wordArithmetic threads (chooseBlock limits threads) = .ok grid ∧
      make grid (chooseBlock limits threads) elements = .ok d ∧ d.validate limits = .ok () := by
  simp only [forExtent] at h
  split at h
  · cases h
  · split at h
    · cases h
    · simp only [bind_eq_ok] at h
      obtain ⟨threads, hthreads, grid, hgrid, d', hmake, ⟨⟩, hvalid, h⟩ := h
      cases h
      exact ⟨threads, grid, liftFault_eq_ok.mp hthreads, liftFault_eq_ok.mp hgrid,
        liftError_eq_ok.mp hmake, liftError_eq_ok.mp hvalid⟩

theorem le_gridElements_of_forExtent {limits : LaunchLimits} {extent elements : List Nat}
    {d : WorkDivision} (hlength : elements.length = extent.length)
    (h : forExtent limits extent elements = .ok d) :
    List.Forall₂ (· ≤ ·) extent (times (times d.gridBlocks d.blockThreads) d.threadElements) := by
  obtain ⟨threads, grid, hthreads, hgrid, hmake, -⟩ := steps_of_forExtent h
  obtain ⟨rfl, -⟩ := eq_of_make_eq_ok hmake
  have houter := Axes.le_times_of_ceilDivs_eq_ok hlength hthreads
  have hinner := Axes.le_times_of_ceilDivs_eq_ok (length_chooseBlock limits threads) hgrid
  refine forall₂_trans ?_ houter (times_le_times hinner elements)
  exact fun _ _ _ => Nat.le_trans

end WorkDivision

namespace BlockTask

/-- The lanes of an accepted division share out the grid of elements: every index of its box is
handled once, by one lane, and nothing else is. When the division was made for an extent, the
same holds of the extent once the indices outside it are left out. -/
theorem handled_partition {grid block elements : List Nat} {d : WorkDivision}
    (hmake : WorkDivision.make grid block elements = .ok d)
    (hblock : block.length = grid.length) (helements : elements.length = grid.length)
    {limits : LaunchLimits} (hvalid : d.validate limits = .ok ())
    (hfits : d.threadElements.prod ≤ wordMax) (task : BlockTask) (htask : task.division = d)
    (g : Grouping) :
    ∃ handled box, task.handled g = .ok handled ∧ d.gridElements = .ok box ∧
      handled.Perm (indices box) ∧
      ∀ limits extent, extent.length = d.gridBlocks.length →
        WorkDivision.forExtent limits extent d.threadElements = .ok d →
        (handled.filter (Axes.isWithin · extent)).Perm (indices extent) := by
  subst htask
  have hd := (WorkDivision.sound_of_make hmake hblock helements).fits hvalid
  obtain ⟨handled, hhandled, hperm⟩ := handled_perm hd hfits g
  refine ⟨handled, _, hhandled, hd.gridElements_eq, hperm, ?_⟩
  intro limits extent hlength hextent
  have hcover := WorkDivision.le_gridElements_of_forExtent
    (hd.length_elements.trans hlength.symm) hextent
  exact (hperm.filter _).trans (filter_isWithin_perm hcover)

def twoBlocks : WorkDivision :=
  ⟨[1, 2], [2, 2], [2, 1]⟩

def idle : Kernel :=
  ⟨fun _ => .finish (.ok ()), fun _ => 0, fun _ => 0, fun _ => 0, fun _ => .finish⟩

/-- Made for an extent of three by three, its lanes handle sixteen elements, nine of them inside
the extent. -/
theorem handled_twoBlocks :
    WorkDivision.forExtent ⟨10, 2, 4, 4, 0, 1⟩ [3, 3] [2, 1] = .ok twoBlocks ∧
      ∃ handled, handled.length = 16 ∧ (handled.filter (Axes.isWithin · [3, 3])).length = 9 ∧
        BlockTask.handled ⟨twoBlocks, idle, 0, ⟨0, 0, 0⟩, #[]⟩ (soloGrouping 4 4) =
          .ok handled := by
  have hextent : WorkDivision.forExtent ⟨10, 2, 4, 4, 0, 1⟩ [3, 3] [2, 1] = .ok twoBlocks := by
    rfl
  have hmake : WorkDivision.make [1, 2] [2, 2] [2, 1] = .ok twoBlocks := by rfl
  have hvalid : twoBlocks.validate ⟨10, 2, 4, 4, 0, 1⟩ = .ok () := by rfl
  obtain ⟨handled, box, hhandled, hbox, hperm, hcover⟩ :=
    handled_partition hmake rfl rfl hvalid (by decide)
      ⟨twoBlocks, idle, 0, ⟨0, 0, 0⟩, #[]⟩ rfl (soloGrouping 4 4)
  have hgrid : twoBlocks.gridElements = .ok [4, 4] := by rfl
  obtain rfl := Except.ok.inj (hgrid.symm.trans hbox)
  refine ⟨hextent, handled, ?_, ?_, hhandled⟩
  · rw [hperm.length_eq, length_indices]
    rfl
  · rw [(hcover _ [3, 3] rfl hextent).length_eq, length_indices]
    rfl

end BlockTask

end LaneGrid
