import Mathlib.Algebra.Order.BigOperators.Group.List
import LaneGrid.Proofs.Division.Limits
import LaneGrid.Proofs.Rounding

namespace LaneGrid

namespace Box

/-- How many tiles of a size it takes on every axis to cover a box. -/
abbrev tiles (v size : List Nat) : List Nat :=
  v.zipWith (· ⌈/⌉ ·) size

theorem length_tiles {v size : List Nat} (h : size.length = v.length) :
    (tiles v size).length = v.length := by
  rw [List.length_zipWith, h, Nat.min_self]

theorem ceilDivs_eq_ok {v size : List Nat} (hv : ∀ e ∈ v, e ≤ wordMax) (hsize : ∀ e ∈ size, 0 < e) :
    Axes.ceilDivs wordArithmetic v size = .ok (tiles v size) := by
  apply combine_eq_ok
  intro p hp
  exact Axes.ceilDiv_eq_ok (hv _ (List.of_mem_zip hp).1) (hsize _ (List.of_mem_zip hp).2)

theorem tiles_pos {v size : List Nat} (hv : ∀ e ∈ v, 0 < e) (hsize : ∀ e ∈ size, 0 < e) :
    ∀ e ∈ tiles v size, 0 < e := by
  intro e he
  rw [tiles, zipWith_eq_map] at he
  obtain ⟨p, hp, rfl⟩ := List.mem_map.mp he
  exact ceilDiv_pos (hv _ (List.of_mem_zip hp).1) (hsize _ (List.of_mem_zip hp).2)

theorem tiles_le {v size : List Nat} (hlength : size.length = v.length)
    (hsize : ∀ e ∈ size, 0 < e) : List.Forall₂ (· ≤ ·) (tiles v size) v :=
  (forall₂_zipWith hlength fun a _ hb => ceilDiv_le_self (hsize _ hb) a).flip

theorem times_tiles (v size : List Nat) :
    times (tiles v size) size = v.zipWith (fun a b => a ⌈/⌉ b * b) size := by
  induction v generalizing size with
  | nil => rfl
  | cons a v ih =>
      cases size with
      | nil => rfl
      | cons b size => exact congrArg _ (ih size)

theorem le_times_tiles {v size : List Nat} (hlength : size.length = v.length)
    (hsize : ∀ e ∈ size, 0 < e) : List.Forall₂ (· ≤ ·) v (times (tiles v size) size) := by
  rw [times_tiles]
  exact forall₂_zipWith hlength fun a _ hb => le_ceilDiv_mul (hsize _ hb) a

theorem within_times_of_tiles {tile v size : List Nat} (hlength : size.length = v.length)
    (hsize : ∀ e ∈ size, 0 < e) (h : Within tile (tiles v size)) : Within (times tile size) v := by
  induction v generalizing tile size with
  | nil =>
      cases h
      exact .nil
  | cons a v ih =>
      rcases size with _ | ⟨b, size⟩
      · cases hlength
      · rcases h with _ | ⟨hlt, hrest⟩
        exact .cons ((lt_ceilDiv_iff (hsize b (by simp))).mp hlt)
          (ih (by simpa using hlength) (fun e he => hsize e (by simp [he])) hrest)

theorem within_pred {v : List Nat} (h : ∀ e ∈ v, 0 < e) : Within (v.map (· - 1)) v := by
  rw [Within, List.forall₂_map_left_iff, List.forall₂_same]
  intro e he
  exact Nat.sub_lt (h e he) Nat.one_pos

end Box

open Box

namespace WorkDivision

theorem fillBlock_pos {perAxis budget : Nat} (hperAxis : 0 < perAxis) (hbudget : 0 < budget)
    {needed : List Nat} (hneeded : ∀ n ∈ needed, 0 < n) :
    ∀ t ∈ fillBlock perAxis budget needed, 0 < t := by
  induction needed generalizing budget with
  | nil => simp [fillBlock]
  | cons n needed ih =>
      have hn : 0 < n := hneeded n (by simp)
      have ht : 0 < min (min n perAxis) budget := by omega
      -- what is left of the budget stays positive, since no axis takes more than there is
      have hrest : 0 < budget / min (min n perAxis) budget := Nat.div_pos (Nat.min_le_right _ _) ht
      intro t hmem
      rcases List.mem_cons.mp hmem with rfl | hmem
      · exact ht
      · exact ih hrest (fun x hx => hneeded x (by simp [hx])) t hmem

theorem fillBlock_le (perAxis budget : Nat) (needed : List Nat) :
    List.Forall₂ (· ≤ ·) (fillBlock perAxis budget needed) needed ∧
      ∀ t ∈ fillBlock perAxis budget needed, t ≤ perAxis := by
  induction needed generalizing budget with
  | nil => exact ⟨.nil, by simp [fillBlock]⟩
  | cons n needed ih =>
      obtain ⟨hneeded, hperAxis⟩ := ih (budget / min (min n perAxis) budget)
      refine ⟨.cons (by omega) hneeded, fun t hmem => ?_⟩
      rcases List.mem_cons.mp hmem with rfl | hmem
      · omega
      · exact hperAxis t hmem

theorem prod_fillBlock_le {budget : Nat} (hbudget : 0 < budget) (perAxis : Nat)
    (needed : List Nat) : (fillBlock perAxis budget needed).prod ≤ budget := by
  induction needed generalizing budget with
  | nil => exact hbudget
  | cons n needed ih =>
      rw [fillBlock, List.prod_cons]
      generalize ht : min (min n perAxis) budget = t
      rcases Nat.eq_zero_or_pos t with rfl | hpos
      · rw [Nat.zero_mul]
        exact Nat.zero_le _
      · calc
          t * (fillBlock perAxis (budget / t) needed).prod ≤ t * (budget / t) :=
            Nat.mul_le_mul_left t (ih (Nat.div_pos (by omega) hpos))
          _ ≤ budget := Nat.mul_div_le budget t

theorem chooseBlock_pos (limits : LaunchLimits) {needed : List Nat} (h : ∀ n ∈ needed, 0 < n) :
    ∀ t ∈ chooseBlock limits needed, 0 < t := by
  intro t ht
  rw [chooseBlock, List.mem_reverse] at ht
  exact fillBlock_pos (by omega) (by omega) (by simpa using h) t ht

theorem chooseBlock_le (limits : LaunchLimits) (needed : List Nat) :
    List.Forall₂ (· ≤ ·) (chooseBlock limits needed) needed ∧
      ∀ t ∈ chooseBlock limits needed, t ≤ max limits.blockThreadExtent 1 := by
  obtain ⟨hneeded, hperAxis⟩ := fillBlock_le (max limits.blockThreadExtent 1)
    (max limits.blockThreads 1) needed.reverse
  refine ⟨?_, fun t ht => hperAxis t (by simpa [chooseBlock] using ht)⟩
  simpa [chooseBlock] using List.rel_reverse hneeded

theorem prod_chooseBlock_le (limits : LaunchLimits) (needed : List Nat) :
    (chooseBlock limits needed).prod ≤ max limits.blockThreads 1 := by
  rw [chooseBlock, List.prod_reverse_nat]
  exact prod_fillBlock_le (by omega) _ _

/-- The division that is chosen for an extent: the fastest axis is the first to get lanes, as many
as it needs and the limits allow, and the blocks cover the rest. -/
def chosen (limits : LaunchLimits) (extent elements : List Nat) : WorkDivision :=
  let needed := tiles extent elements
  ⟨tiles needed (chooseBlock limits needed), chooseBlock limits needed, elements⟩

variable {limits : LaunchLimits} {extent elements : List Nat}

theorem sound_chosen (limits : LaunchLimits) (hlength : elements.length = extent.length)
    (hextent : ∀ e ∈ extent, 0 < e) (helements : ∀ e ∈ elements, 0 < e) :
    (chosen limits extent elements).Sound := by
  have hneeded := tiles_pos hextent helements
  have hblock : (chooseBlock limits (tiles extent elements)).length =
      (tiles extent elements).length := length_chooseBlock _ _
  constructor
  case length_threads => exact hblock.trans (length_tiles hblock).symm
  case length_elements =>
    exact hlength.trans ((length_tiles hlength).symm.trans (length_tiles hblock).symm)
  case blocks_pos => exact tiles_pos hneeded (chooseBlock_pos limits hneeded)
  case threads_pos => exact chooseBlock_pos limits hneeded
  case elements_pos => exact helements

theorem findIdx?_zero_eq_none (h : ∀ e ∈ extent, 0 < e) : extent.findIdx? (· = 0) = none := by
  rw [List.findIdx?_eq_none_iff]
  intro e he
  simpa using Nat.ne_of_gt (h e he)

theorem Sound.make_eq_ok {d : WorkDivision} (hd : d.Sound) :
    make d.gridBlocks d.blockThreads d.threadElements = .ok d := by
  have hnone : d.zeroFlaw? = none := by
    simp [zeroFlaw?, parts, findIdx?_zero_eq_none hd.blocks_pos, findIdx?_zero_eq_none hd.threads_pos,
      findIdx?_zero_eq_none hd.elements_pos]
  rw [make]
  simp only [hnone]

theorem forExtent_of_zero (limits : LaunchLimits) (elements : List Nat) {axis : Nat}
    (h : extent.findIdx? (· = 0) = some axis) :
    forExtent limits extent elements = .error (.error (.zeroExtent axis)) := by
  simp only [forExtent, h]
  rfl

theorem forExtent_of_zeroElements (limits : LaunchLimits) (h : ∀ e ∈ extent, 0 < e)
    (hzero : 0 ∈ elements) :
    forExtent limits extent elements =
      .error (.error (.invalidDivision (.zeroElements elements))) := by
  have hcontains : elements.contains 0 = true := List.contains_iff_mem.mpr hzero
  simp only [forExtent, findIdx?_zero_eq_none h, hcontains]
  rfl

theorem forExtent_eq (limits : LaunchLimits) (hlength : elements.length = extent.length)
    (hwords : ∀ e ∈ extent, e ≤ wordMax) (hextent : ∀ e ∈ extent, 0 < e)
    (helements : ∀ e ∈ elements, 0 < e) :
    forExtent limits extent elements = match (chosen limits extent elements).flaw? limits with
      | some flaw => .error (.error (.invalidDivision flaw))
      | none => .ok (chosen limits extent elements) := by
  have hneeded := tiles_pos hextent helements
  have hcontains : elements.contains 0 = false := by
    rw [List.contains_eq_mem, decide_eq_false_iff_not]
    exact fun hmem => absurd (helements 0 hmem) (Nat.lt_irrefl 0)
  have hthreads := ceilDivs_eq_ok hwords helements
  have hgrid := ceilDivs_eq_ok (le_of_forall₂_le (tiles_le hlength helements) hwords)
    (chooseBlock_pos limits hneeded)
  have hmake : make (tiles (tiles extent elements) (chooseBlock limits (tiles extent elements)))
      (chooseBlock limits (tiles extent elements)) elements = .ok (chosen limits extent elements) :=
    (sound_chosen limits hlength hextent helements).make_eq_ok
  simp only [forExtent, findIdx?_zero_eq_none hextent, hcontains, hthreads, hgrid, hmake,
    Bool.false_eq_true, if_false, lift_ok, liftError_ok, ok_bind]
  rw [validate]
  cases (chosen limits extent elements).flaw? limits with
  | some flaw => rfl
  | none => rfl

end WorkDivision

end LaneGrid
