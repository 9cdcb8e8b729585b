import LaneGrid.Proofs.Meeting.Fold
import LaneGrid.Proofs.Outcome
import LaneGrid.Proofs.Team.Gates
import LaneGrid.Script.Kernel

namespace LaneGrid

/-- What the lanes of a warp vote on together. -/
inductive WarpVote where
  | all | any | ballot | activeMask
  deriving DecidableEq

namespace WarpVote

/-- What a lane brings. In the active mask it says that it is there. -/
def contribution (l : Lane) (yes : Bool) : WarpVote → Except Fault Contribution
  | all => .ok (Poll.every.contribution yes)
  | any => .ok (Poll.some.contribution yes)
  | ballot => do return ⟨.bitOr, ← Script.ballotBit l yes⟩
  | activeMask => do return ⟨.bitOr, ← Script.ballotBit l true⟩

/-- A lane votes, and goes on with the word that it gets. -/
def ask (v : WarpVote) (l : Lane) (yes : Bool) (next : Word → Program) : Program :=
  Program.withValue (v.contribution l yes) fun c => .arrive .warp (some c) next

theorem ask_within {n : Nat} {l : Lane} {yes : Bool} {next : Word → Program}
    (h : ∀ w, (next w).Within n) (v : WarpVote) : (v.ask l yes next).Within (n + 1) :=
  .withValue fun _ => .arrive h

section Scripts

open Script

variable {r : Region} {l : Lane} {f : Frame} {give : Give} {skip : Frame → Program}

theorem perform_warpVote_every (x : Expression) :
    (Action.warpVote .every x).perform r l f give skip =
      Program.withValue (x.eval l f) fun w =>
        all.ask l (w ≠ 0) fun answer => giveFlag give f (answer ≠ 0) :=
  rfl

theorem perform_warpVote_some (x : Expression) :
    (Action.warpVote .some x).perform r l f give skip =
      Program.withValue (x.eval l f) fun w =>
        any.ask l (w ≠ 0) fun answer => giveFlag give f (answer ≠ 0) :=
  rfl

theorem perform_ballot_some (x : Expression) :
    (Action.ballot (some x)).perform r l f give skip =
      Program.withValue (x.eval l f) fun w => ballot.ask l (w ≠ 0) (giveWord give f) := by
  simp only [Action.perform, ask, contribution]
  cases x.eval l f with
  | error e => rfl
  | ok w =>
      simp only [ok_bind, Program.withValue, pure, Except.pure]
      cases ballotBit l (decide (w ≠ 0)) <;> rfl

theorem perform_ballot_none :
    (Action.ballot none).perform r l f give skip =
      activeMask.ask l true (giveWord give f) := by
  simp only [Action.perform, ask, contribution, Program.withValue]
  cases ballotBit l true <;> rfl

end Scripts

/-- What a lane brings from a place whose bit a word has. -/
def share (place : Nat) (yes : Bool) : WarpVote → Contribution
  | all => Poll.every.contribution yes
  | any => Poll.some.contribution yes
  | ballot => ⟨.bitOr, (if yes then 1 else 0 : Word) <<< place⟩
  | activeMask => ⟨.bitOr, (if true then 1 else 0 : Word) <<< place⟩

theorem contribution_eq_ok {l : Lane} {place : Nat} (hplace : l.placeInWarp = .ok place)
    (hlt : place < 64) (v : WarpVote) (yes : Bool) :
    v.contribution l yes = .ok (v.share place yes) := by
  have hbit (b : Bool) : Script.ballotBit l b = .ok ((if b then 1 else 0 : Word) <<< place) := by
    rw [Script.ballotBit, hplace, ok_bind, if_neg (Nat.not_le_of_lt hlt)]
    rfl
  cases v with
  | all => rfl
  | any => rfl
  | ballot => rw [contribution, hbit]; rfl
  | activeMask => rw [contribution, hbit]; rfl

/-- Every lane brings a word to be folded in the same way. -/
def reduction (v : WarpVote) : Reduction :=
  (v.share 0 true).reduction

theorem share_eq (v : WarpVote) (place : Nat) (yes : Bool) :
    v.share place yes = ⟨v.reduction, (v.share place yes).value⟩ := by
  cases v <;> rfl

end WarpVote

/-! ### Masks -/

theorem getLsbD_bit {place : Nat} (hplace : place < 64) (yes : Bool) (j : Nat) :
    ((if yes then 1 else 0 : Word) <<< place).getLsbD j = (decide (j = place) && yes) := by
  cases yes with
  | false => simp
  | true =>
      have hone : (1 : Word).getLsbD (j - place) = decide (j - place = 0) := by simp
      rw [if_pos rfl, BitVec.getLsbD_shiftLeft, hone, Bool.and_true, ← Bool.coe_iff_coe]
      simp only [Bool.and_eq_true, Bool.not_eq_true', decide_eq_true_eq, decide_eq_false_iff_not]
      omega

/-- What several lanes bring together, each with the bit of its place. -/
def mask (n : Nat) (yes : Nat → Bool) : Word :=
  Reduction.bitOr.fold ((List.range n).map fun i => (if yes i then 1 else 0 : Word) <<< i)

theorem getLsbD_mask {n : Nat} (hn : n ≤ 64) (yes : Nat → Bool) (j : Nat) :
    (mask n yes).getLsbD j = (decide (j < n) && yes j) := by
  induction n with
  | zero => simp [mask, Reduction.fold, Reduction.identity]
  | succ n ih =>
      rw [mask, List.range_succ, List.map_append, List.map_singleton, Reduction.fold_concat, ← mask,
        Reduction.combine, BitVec.getLsbD_or, ih (by omega), getLsbD_bit (by omega)]
      rcases Nat.lt_trichotomy j n with hlt | rfl | hgt
      · simp [hlt, Nat.ne_of_lt hlt, Nat.lt_succ_of_lt hlt]
      · simp
      · simp [Nat.not_lt_of_gt hgt, Nat.ne_of_gt hgt, Nat.not_lt_of_le (Nat.succ_le_of_lt hgt)]

theorem onesCount_mask {n : Nat} (hn : n ≤ 64) (yes : Nat → Bool) :
    onesCount (mask n yes) = (List.range n).countP yes := by
  obtain ⟨k, hk⟩ := Nat.exists_eq_add_of_le hn
  have hbits : (mask n yes).getLsbD = fun j => decide (j < n) && yes j :=
    funext fun j => getLsbD_mask hn yes j
  have hbelow : (List.range n).countP (fun j => decide (j < n) && yes j) =
      (List.range n).countP yes := by
    refine List.countP_congr fun j hj => ?_
    simp [List.mem_range.mp hj]
  have habove : ((List.range k).map (n + ·)).countP (fun j => decide (j < n) && yes j) = 0 := by
    simp [List.countP_eq_zero]
  rw [onesCount, hbits, hk, List.range_add, List.countP_append, hbelow, habove, Nat.add_zero]

/-! ### The lanes of a warp -/

namespace Grouping

/-- The lanes of a warp. -/
def warpLanes (g : Grouping) (w : Nat) : List Nat :=
  (List.range g.lanes).filter fun lane => lane / g.warpSize = w

variable {g : Grouping} {w : Nat}

theorem mem_warpLanes {lane : Nat} :
    lane ∈ g.warpLanes w ↔ lane < g.lanes ∧ lane / g.warpSize = w := by
  simp [warpLanes]

theorem Tiled.seat_lt_warpGroup (h : g.Tiled) {lane : Nat} (hlane : lane ∈ g.warpLanes w) :
    g.seat lane .warp < g.warpGroup w := by
  obtain ⟨hlt, rfl⟩ := mem_warpLanes.mp hlane
  exact h.seat_lt hlt .warp

theorem place_eq {lane : Nat} (hlane : lane ∈ g.warpLanes w) :
    w * g.warpSize + g.seat lane .warp = lane := by
  obtain ⟨-, rfl⟩ := mem_warpLanes.mp hlane
  rw [seat, Nat.mul_comm]
  exact Nat.div_add_mod lane g.warpSize

theorem Tiled.warpLanes_perm (h : g.Tiled) (w : Nat) :
    (g.warpLanes w).Perm ((List.range (g.warpGroup w)).map (w * g.warpSize + ·)) := by
  have hpos := h.warpSize_pos
  have hnodup : (g.warpLanes w).Nodup := List.nodup_range.filter _
  refine (List.perm_ext_iff_of_nodup hnodup
    (List.nodup_range.map fun _ _ => Nat.add_left_cancel)).mpr fun lane => ?_
  rw [mem_warpLanes, List.mem_map]
  constructor
  · intro hlane
    have hmem := mem_warpLanes.mpr hlane
    exact ⟨_, List.mem_range.mpr (h.seat_lt_warpGroup hmem), place_eq hmem⟩
  · rintro ⟨i, hi, rfl⟩
    rw [List.mem_range, h.warpGroup_eq, Nat.lt_min] at hi
    refine ⟨by omega, ?_⟩
    rw [Nat.mul_comm, Nat.mul_add_div hpos, Nat.div_eq_of_lt hi.1, Nat.add_zero]

theorem Tiled.exists_seat (h : g.Tiled) {i : Nat} (hi : i < g.warpGroup w) :
    ∃ lane ∈ g.warpLanes w, g.seat lane .warp = i := by
  have hmem : w * g.warpSize + i ∈ g.warpLanes w :=
    (h.warpLanes_perm w).mem_iff.mpr (List.mem_map_of_mem (List.mem_range.mpr hi))
  exact ⟨_, hmem, Nat.add_left_cancel (place_eq hmem)⟩

theorem Tiled.warpGroup_le (h : g.Tiled) {n : Nat} (hn : g.warpSize ≤ n) : g.warpGroup w ≤ n := by
  rw [h.warpGroup_eq]
  exact Nat.le_trans (Nat.min_le_left _ _) hn

theorem Tiled.length_warpLanes (h : g.Tiled) (w : Nat) :
    (g.warpLanes w).length = g.warpGroup w := by
  rw [(h.warpLanes_perm w).length_eq, List.length_map, List.length_range]

theorem Tiled.forall_warpLanes (h : g.Tiled) {p : Nat → Prop} :
    (∀ lane ∈ g.warpLanes w, p lane) ↔ ∀ i < g.warpGroup w, p (w * g.warpSize + i) := by
  simp [(h.warpLanes_perm w).mem_iff]

theorem Tiled.exists_warpLanes (h : g.Tiled) {p : Nat → Prop} :
    (∃ lane ∈ g.warpLanes w, p lane) ↔ ∃ i < g.warpGroup w, p (w * g.warpSize + i) := by
  simp [(h.warpLanes_perm w).mem_iff]

theorem Tiled.countP_warpLanes (h : g.Tiled) (yes : Nat → Bool) :
    (g.warpLanes w).countP yes =
      (List.range (g.warpGroup w)).countP fun i => yes (w * g.warpSize + i) := by
  rw [(h.warpLanes_perm w).countP_eq, List.countP_map]
  rfl

end Grouping

namespace WarpVote

/-- What the answer to a vote tells about the lanes of a warp. -/
def Tells (g : Grouping) (w : Nat) (yes : Nat → Bool) (answer : Word) : WarpVote → Prop
  | all => answer ≠ 0 ↔ ∀ lane ∈ g.warpLanes w, yes lane = true
  | any => answer ≠ 0 ↔ ∃ lane ∈ g.warpLanes w, yes lane = true
  | ballot =>
    (∀ j, answer.getLsbD j = true ↔
      j < g.warpSize ∧ w * g.warpSize + j < g.lanes ∧ yes (w * g.warpSize + j) = true) ∧
    onesCount answer = (g.warpLanes w).countP yes
  | activeMask =>
    (∀ j, answer.getLsbD j = true ↔ j < g.warpSize ∧ w * g.warpSize + j < g.lanes) ∧
    onesCount answer = (g.warpLanes w).length

section

variable {g : Grouping} {w : Nat}

theorem getLsbD_warpMask (h : g.Tiled) (hsize : g.warpSize ≤ 64) (yes : Nat → Bool) (j : Nat) :
    (mask (g.warpGroup w) fun i => yes (w * g.warpSize + i)).getLsbD j = true ↔
      j < g.warpSize ∧ w * g.warpSize + j < g.lanes ∧ yes (w * g.warpSize + j) = true := by
  have hplace : j < g.warpGroup w ↔ j < g.warpSize ∧ w * g.warpSize + j < g.lanes := by
    rw [h.warpGroup_eq, Nat.lt_min]
    omega
  rw [getLsbD_mask (h.warpGroup_le hsize), Bool.and_eq_true, decide_eq_true_iff, hplace, and_assoc]

theorem tells_fold (h : g.Tiled) (hsize : g.warpSize ≤ 64) (hw : 0 < g.warpGroup w)
    (yes : Nat → Bool) (v : WarpVote) :
    v.Tells g w yes (v.reduction.fold ((List.range (g.warpGroup w)).map fun i =>
      (v.share i (yes (w * g.warpSize + i))).value)) := by
  have hn : g.warpGroup w ≤ 64 := h.warpGroup_le hsize
  cases v with
  | all =>
      have hne : List.range (g.warpGroup w) ≠ [] := by
        rw [ne_eq, List.range_eq_nil]
        omega
      have hfold := Poll.fold_every hne fun i => yes (w * g.warpSize + i)
      rw [Tells, h.forall_warpLanes]
      refine (not_congr (Eq.congr_left hfold)).trans ?_
      simp
  | any =>
      have hfold := Poll.fold_some (List.range (g.warpGroup w)) fun i => yes (w * g.warpSize + i)
      rw [Tells, h.exists_warpLanes]
      refine (not_congr (Eq.congr_left hfold)).trans ?_
      simp
  | ballot =>
      refine ⟨getLsbD_warpMask h hsize yes, ?_⟩
      rw [h.countP_warpLanes]
      exact onesCount_mask hn _
  | activeMask =>
      refine ⟨fun j => ?_, ?_⟩
      · have hbit := getLsbD_warpMask (w := w) h hsize (fun _ => true) j
        rwa [eq_self, and_true] at hbit
      · rw [h.length_warpLanes]
        refine (onesCount_mask hn fun _ => true).trans ?_
        simp

end

end WarpVote

end LaneGrid
