import Mathlib.Algebra.BigOperators.Ring.Finset
import LaneGrid.Proofs.Box.Checked

namespace LaneGrid

namespace IndexKind

variable {k : IndexKind} {a b : Nat}

theorem mul_natCast (h : k.Holds ((a * b : Nat) : Int)) :
    k.arithmetic.mul a b = .ok ((a * b : Nat) : Int) := by
  rw [Int.natCast_mul] at h ⊢
  exact keep_eq_ok.mpr ⟨h, rfl⟩

theorem add_natCast (h : k.Holds ((a + b : Nat) : Int)) :
    k.arithmetic.add a b = .ok ((a + b : Nat) : Int) := by
  rw [Int.natCast_add] at h ⊢
  exact keep_eq_ok.mpr ⟨h, rfl⟩

theorem Holds.natCast_of_le (hb : k.Holds b) (h : a ≤ b) : k.Holds a :=
  hb.of_le (Int.natCast_nonneg a) (Int.ofNat_le.mpr h)

theorem div_natCast (ha : k.Holds a) (hb : 0 < b) :
    k.arithmetic.div a b = .ok ((a / b : Nat) : Int) := by
  have hne : (b : Int) ≠ 0 := Int.natCast_ne_zero.mpr (Nat.ne_of_gt hb)
  simp only [arithmetic, if_neg hne, ← Int.ofNat_tdiv]
  exact keep_eq_ok.mpr ⟨ha.natCast_of_le (Nat.div_le_self a b), rfl⟩

theorem rem_natCast (ha : k.Holds a) (hb : 0 < b) :
    k.arithmetic.rem a b = .ok ((a % b : Nat) : Int) := by
  have hne : (b : Int) ≠ 0 := Int.natCast_ne_zero.mpr (Nat.ne_of_gt hb)
  have hquotient : k.Holds ((a / b : Nat) : Int) := ha.natCast_of_le (Nat.div_le_self a b)
  simp only [arithmetic, if_neg hne, ← Int.ofNat_tdiv, if_pos hquotient, ← Int.ofNat_tmod]

end IndexKind

namespace Box

/-- An index that names an element of a box: a number for every axis, from zero on, and before the
end of the axis. The comparison with the extent does not see a negative number. -/
structure Inside (index extent : List Int) : Prop where
  length_eq : index.length = extent.length
  nonneg : ∀ i ∈ index, 0 ≤ i
  isWithin : Axes.isWithin index extent = true

/-- Sizes as numbers of an index type. -/
abbrev ints (sizes : List Nat) : List Int :=
  sizes.map Nat.cast

theorem exists_ints {v : List Int} (h : ∀ x ∈ v, 0 ≤ x) : ∃ sizes, v = ints sizes := by
  refine ⟨v.map Int.toNat, ?_⟩
  rw [ints, List.map_map]
  refine (List.map_id v).symm.trans (List.map_congr_left fun x hx => ?_)
  exact (Int.toNat_of_nonneg (h x hx)).symm

theorem prod_ints (sizes : List Nat) : (ints sizes).prod = (sizes.prod : Nat) :=
  (Nat.cast_list_prod sizes).symm

theorem isWithin_ints (index extent : List Nat) :
    Axes.isWithin (ints index) (ints extent) = Axes.isWithin index extent := by
  simp only [Axes.isWithin, ints, List.zip_map, List.all_map]
  refine congrArg ((index.zip extent).all ·) (funext fun p => ?_)
  simp

theorem inside_ints {index extent : List Nat} (h : Within index extent) :
    Inside (ints index) (ints extent) where
  length_eq := by simp [h.length_eq]
  nonneg := by simp
  isWithin := by rw [isWithin_ints, isWithin_eq_true_iff h.length_eq]; exact h

theorem Inside.exists_within {index : List Int} {extent : List Nat}
    (h : Inside index (ints extent)) : ∃ i, index = ints i ∧ Within i extent := by
  obtain ⟨i, rfl⟩ := exists_ints h.nonneg
  refine ⟨i, rfl, ?_⟩
  have hlength : i.length = extent.length := by simpa using h.length_eq
  rw [← isWithin_eq_true_iff hlength, ← isWithin_ints]
  exact h.isWithin

theorem lt_of_ints_lt {i j : List Nat} (h : ints i < ints j) : i < j := by
  induction i generalizing j with
  | nil =>
      cases j with
      | nil => exact absurd h (List.not_lt_nil [])
      | cons b j => exact List.nil_lt_cons b j
  | cons a i ih =>
      cases j with
      | nil => exact absurd h (List.not_lt_nil _)
      | cons b j =>
          rw [List.cons_lt_cons_iff]
          simp only [ints, List.map_cons, List.cons_lt_cons_iff, Int.ofNat_lt, Int.ofNat_inj] at h
          exact h.imp id fun ⟨heq, hrest⟩ => ⟨heq, ih hrest⟩

variable {k : IndexKind}

theorem foldlM_linearize_ints {index extent : List Nat} (h : Within index extent) {n : Nat}
    (hfits : k.Holds ((n * extent.prod + number index extent : Nat) : Int)) :
    ((ints index).zip (ints extent)).foldlM
        (fun acc p => do k.arithmetic.add (← k.arithmetic.mul acc p.2) p.1) (n : Int) =
      .ok ((n * extent.prod + number index extent : Nat) : Int) := by
  induction h generalizing n with
  | nil => simp [number, pure_eq_ok]
  | @cons i e index extent hlt htail ih =>
      have hpos : 0 < extent.prod :=
        List.prod_pos_iff_forall_pos_nat.mpr (pos_of_within htail)
      have hregroup : n * (e * extent.prod) + (i * extent.prod + number index extent) =
          (n * e + i) * extent.prod + number index extent := by
        rw [Nat.add_mul, Nat.mul_assoc, Nat.add_assoc]
      simp only [number, List.prod_cons, hregroup] at hfits ⊢
      have hdigit : k.Holds ((n * e + i : Nat) : Int) := by
        refine hfits.natCast_of_le ?_
        calc
          n * e + i ≤ (n * e + i) * extent.prod := Nat.le_mul_of_pos_right _ hpos
          _ ≤ _ := Nat.le_add_right _ _
      have hshift : k.Holds ((n * e : Nat) : Int) := hdigit.natCast_of_le (Nat.le_add_right _ _)
      simp only [ints, List.map_cons, List.zip_cons_cons, List.foldlM_cons]
      rw [IndexKind.mul_natCast hshift, ok_bind, IndexKind.add_natCast hdigit, ok_bind]
      exact ih hfits

theorem linearize_ints {index extent : List Nat} (h : Within index extent)
    (hfits : k.Holds (number index extent)) :
    Axes.linearize k.arithmetic (ints index) (ints extent) = .ok (number index extent : Nat) := by
  have hzero := foldlM_linearize_ints (k := k) h (n := 0) (by simpa using hfits)
  rwa [Nat.zero_mul, Nat.zero_add] at hzero

theorem digits_ints {extent : List Nat} (hpos : ∀ e ∈ extent, 0 < e) {n : Nat} (hn : k.Holds n) :
    Axes.digits k.arithmetic n (ints extent) = .ok (ints (digits n extent)) := by
  induction extent generalizing n with
  | nil => rfl
  | cons e extent ih =>
      have he : 0 < e := hpos e (by simp)
      have hrest := ih (fun x hx => hpos x (by simp [hx])) (hn.natCast_of_le (Nat.div_le_self n e))
      simp only [ints, List.map_cons, Axes.digits] at hrest ⊢
      rw [IndexKind.rem_natCast hn he, ok_bind, IndexKind.div_natCast hn he, ok_bind, hrest]
      rfl

theorem delinearize_ints {extent : List Nat} (hpos : ∀ e ∈ extent, 0 < e) {n : Nat}
    (hn : k.Holds n) :
    Axes.delinearize k.arithmetic n (ints extent) = .ok (ints (index extent n)) := by
  have hzero : (ints extent).contains k.arithmetic.zero = false := by
    simp only [List.contains_eq_mem, decide_eq_false_iff_not, ints, List.mem_map]
    rintro ⟨e, he, hcast⟩
    exact Nat.ne_of_gt (hpos e he) (Int.ofNat_inj.mp hcast)
  have hreverse : ∀ e ∈ extent.reverse, 0 < e := by simpa using hpos
  have hdigits := digits_ints hreverse hn
  rw [ints, List.map_reverse] at hdigits
  rw [Axes.delinearize, hzero, if_neg (by simp), hdigits, ← reverse_digits_reverse]
  simp [ints]

/-- The components of an index are no larger than the number they stand for, each scaled by what
follows it; so a type that holds the number holds them. -/
theorem holds_index {extent : List Nat} {n : Nat} (hn : k.Holds n) :
    ∀ i ∈ ints (index extent n), k.Holds i := by
  induction extent with
  | nil => simp [index]
  | cons e extent ih =>
      intro i hi
      simp only [index, ints, List.map_cons, List.mem_cons] at hi
      rcases hi with rfl | hi
      · refine hn.natCast_of_le ?_
        exact Nat.le_trans (Nat.mod_le _ _) (Nat.div_le_self _ _)
      · exact ih i hi

section

variable {extent : List Nat} (hpos : ∀ e ∈ extent, 0 < e)

include hpos

theorem exists_inside_index {n : Nat} (hn : k.Holds n) : ∃ index,
    Axes.delinearize k.arithmetic n (ints extent) = .ok index ∧ Inside index (ints extent) ∧
      (∀ i ∈ index, k.Holds i) ∧
      Axes.linearize k.arithmetic index (ints extent) = .ok ((n % extent.prod : Nat) : Int) := by
  have hwithin := within_index hpos n
  refine ⟨_, delinearize_ints hpos hn, inside_ints hwithin, holds_index hn, ?_⟩
  have hnumber : k.Holds (number (index extent n) extent) := by
    rw [number_index]
    exact hn.natCast_of_le (Nat.mod_le n _)
  rw [linearize_ints hwithin hnumber, number_index]

theorem exists_number_inside (hprod : k.Holds extent.prod) {index : List Int}
    (h : Inside index (ints extent)) : ∃ linear,
    Axes.linearize k.arithmetic index (ints extent) = .ok linear ∧ 0 ≤ linear ∧
      linear < extent.prod ∧ Axes.delinearize k.arithmetic linear (ints extent) = .ok index := by
  obtain ⟨i, rfl, hi⟩ := h.exists_within
  have hlt := number_lt_prod hi
  have hnumber : k.Holds (number i extent) := hprod.natCast_of_le (Nat.le_of_lt hlt)
  refine ⟨_, linearize_ints hi hnumber, Int.natCast_nonneg _, Int.ofNat_lt.mpr hlt, ?_⟩
  rw [delinearize_ints hpos hnumber, index_number hi]

end

theorem eq_of_foldlM_linearize_ints {index extent : List Nat} (h : index.length = extent.length)
    {n : Nat} {p : Int}
    (hp : ((ints index).zip (ints extent)).foldlM
      (fun acc p => do k.arithmetic.add (← k.arithmetic.mul acc p.2) p.1) (n : Int) = .ok p) :
    p = ((n * extent.prod + number index extent : Nat) : Int) := by
  induction index generalizing extent n with
  | nil =>
      obtain rfl : extent = [] := List.eq_nil_of_length_eq_zero h.symm
      simpa [number, pure_eq_ok, eq_comm] using hp
  | cons i index ih =>
      rcases extent with _ | ⟨e, extent⟩
      · cases h
      · simp only [ints, List.map_cons, List.zip_cons_cons, List.foldlM_cons, bind_eq_ok] at hp
        obtain ⟨digit, ⟨shift, hshift, hdigit⟩, hp⟩ := hp
        obtain ⟨-, rfl⟩ := IndexKind.keep_eq_ok.mp hshift
        obtain ⟨-, rfl⟩ := IndexKind.keep_eq_ok.mp hdigit
        rw [← Int.natCast_mul, ← Int.natCast_add] at hp
        rw [ih (by simpa using h) hp, number, List.prod_cons]
        congr 1
        rw [Nat.add_mul, Nat.mul_assoc, Nat.add_assoc]

theorem linearize_lt_linearize {extent : List Nat} {i j : List Int} {m n : Int}
    (hi : Inside i (ints extent)) (hj : Inside j (ints extent))
    (hm : Axes.linearize k.arithmetic i (ints extent) = .ok m)
    (hn : Axes.linearize k.arithmetic j (ints extent) = .ok n) (h : i < j) : m < n := by
  obtain ⟨v, rfl, hv⟩ := hi.exists_within
  obtain ⟨w, rfl, hw⟩ := hj.exists_within
  have hvm := eq_of_foldlM_linearize_ints (n := 0) hv.length_eq hm
  have hwn := eq_of_foldlM_linearize_ints (n := 0) hw.length_eq hn
  rw [Nat.zero_mul, Nat.zero_add] at hvm hwn
  rw [hvm, hwn]
  exact Int.ofNat_lt.mpr (number_lt_number hv hw (lt_of_ints_lt h))

/-- Numbers and indices of a box with positive axes, in any index type. Every number from zero on
has an index inside the box, also if the type does not hold the number of elements, and the number
of that index is computed without overflow: it is the number at the start, less whole boxes. If the
type holds the number of elements, every index inside the box has a number below it, computed
without overflow, from which the index is found again. Numbers follow the lexicographic order of
the indices. -/
theorem codec_of_positive (k : IndexKind) (extent : List Int) (hpos : ∀ e ∈ extent, 0 < e) :
    (∀ linear, 0 ≤ linear → k.Holds linear → ∃ index,
      Axes.delinearize k.arithmetic linear extent = .ok index ∧ Inside index extent ∧
        (∀ i ∈ index, k.Holds i) ∧
        Axes.linearize k.arithmetic index extent = .ok (linear % extent.prod)) ∧
    (k.Holds extent.prod → ∀ index, Inside index extent → ∃ linear,
      Axes.linearize k.arithmetic index extent = .ok linear ∧ 0 ≤ linear ∧
        linear < extent.prod ∧ Axes.delinearize k.arithmetic linear extent = .ok index) ∧
    ∀ i j m n, Inside i extent → Inside j extent →
      Axes.linearize k.arithmetic i extent = .ok m →
      Axes.linearize k.arithmetic j extent = .ok n → i < j → m < n := by
  obtain ⟨sizes, rfl⟩ := exists_ints fun e he => Int.le_of_lt (hpos e he)
  have hsizes : ∀ e ∈ sizes, 0 < e := by simpa using hpos
  simp only [prod_ints]
  refine ⟨fun linear hlinear hholds => ?_, fun hprod index => exists_number_inside hsizes hprod,
    fun i j m n => linearize_lt_linearize⟩
  obtain ⟨n, rfl⟩ := Int.eq_ofNat_of_zero_le hlinear
  rw [← Int.natCast_mod]
  exact exists_inside_index hsizes hholds

/-- An 8-bit type holds 127, though not the 350 elements of the first box, and all 12 of the
second. -/
theorem codec_of_small_boxes :
    (∃ index, Axes.delinearize IndexKind.i8.arithmetic 127 [50, 7] = .ok index ∧
      Axes.linearize IndexKind.i8.arithmetic index [50, 7] = .ok 127) ∧
    ∃ linear, Axes.linearize IndexKind.i8.arithmetic [2, 3] [3, 4] = .ok linear ∧ linear < 12 ∧
      Axes.delinearize IndexKind.i8.arithmetic linear [3, 4] = .ok [2, 3] := by
  obtain ⟨index, hindex, -, -, hlinear⟩ :=
    (codec_of_positive .i8 [50, 7] (by decide)).1 127 (by decide) (by decide)
  obtain ⟨linear, hnumber, -, hlt, hback⟩ :=
    (codec_of_positive .i8 [3, 4] (by decide)).2.1 (by decide) [2, 3] ⟨rfl, by decide, by decide⟩
  exact ⟨⟨index, hindex, hlinear⟩, linear, hnumber, hlt, hback⟩

/-- A negative number passes the comparison with the extent and shares its row-major number with an
index inside the box. -/
example : Axes.isWithin [1, -1] ([2, 2] : List Int) = true ∧
    Axes.linearize IndexKind.i8.arithmetic [1, -1] [2, 2] =
      Axes.linearize IndexKind.i8.arithmetic [0, 1] [2, 2] := by decide

end Box

end LaneGrid
