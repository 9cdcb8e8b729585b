import LaneGrid.Proofs.Box.RowMajor
import LaneGrid.Proofs.Outcome

namespace LaneGrid.Box

open LaneGrid.Axes

theorem foldlM_mul_eq_ok {extent : List Nat} (hpos : ∀ e ∈ extent, 0 < e) {n : Nat}
    (h : n * extent.prod ≤ wordMax) :
    extent.foldlM wordArithmetic.mul n = .ok (n * extent.prod) := by
  induction extent generalizing n with
  | nil => simp [pure_eq_ok]
  | cons e extent ih =>
      have htail : ∀ x ∈ extent, 0 < x := fun x hx => hpos x (by simp [hx])
      rw [List.prod_cons, ← Nat.mul_assoc] at h ⊢
      have hstep : n * e ≤ wordMax :=
        Nat.le_trans (Nat.le_mul_of_pos_right _ (List.prod_pos_iff_forall_pos_nat.mpr htail)) h
      rw [List.foldlM_cons, word_mul hstep, ok_bind, ih htail h]

theorem product_eq_ok {extent : List Nat} (hpos : ∀ e ∈ extent, 0 < e)
    (h : extent.prod ≤ wordMax) : product wordArithmetic extent = .ok extent.prod := by
  have hone := foldlM_mul_eq_ok hpos (n := 1) (by rwa [Nat.one_mul])
  rwa [Nat.one_mul] at hone

theorem eq_of_foldlM_mul_eq_ok {extent : List Nat} {n p : Nat} (hn : n ≤ wordMax)
    (h : extent.foldlM wordArithmetic.mul n = .ok p) : n * extent.prod = p ∧ p ≤ wordMax := by
  induction extent generalizing n with
  | nil =>
      have hp : n = p := by simpa [pure_eq_ok] using h
      simp [← hp, hn]
  | cons e extent ih =>
      rw [List.foldlM_cons, bind_eq_ok] at h
      obtain ⟨m, hm, h⟩ := h
      obtain ⟨hle, rfl⟩ := word_mul_eq_ok.mp hm
      rw [List.prod_cons, ← Nat.mul_assoc]
      exact ih hle h

theorem eq_of_product_eq_ok {extent : List Nat} {p : Nat}
    (h : product wordArithmetic extent = .ok p) : extent.prod = p ∧ p ≤ wordMax := by
  have hone := eq_of_foldlM_mul_eq_ok (n := 1) (by decide) h
  rwa [Nat.one_mul] at hone

theorem foldlM_linearize_eq_ok {index extent : List Nat} (h : Within index extent) {n : Nat}
    (hfits : n * extent.prod + number index extent ≤ wordMax) :
    (index.zip extent).foldlM
        (fun acc p => do wordArithmetic.add (← wordArithmetic.mul acc p.2) p.1) n =
      .ok (n * extent.prod + number index extent) := by
  induction h generalizing n with
  | nil => simp [number, pure_eq_ok]
  | @cons i e index extent hlt htail ih =>
      have hpos : 0 < extent.prod :=
        List.prod_pos_iff_forall_pos_nat.mpr (pos_of_within htail)
      have hregroup : n * (e * extent.prod) + (i * extent.prod + number index extent) =
          (n * e + i) * extent.prod + number index extent := by
        rw [Nat.add_mul, Nat.mul_assoc, Nat.add_assoc]
      simp only [number, List.prod_cons, hregroup] at hfits ⊢
      have hdigit : n * e + i ≤ wordMax :=
        calc
          n * e + i ≤ (n * e + i) * extent.prod := Nat.le_mul_of_pos_right _ hpos
          _ ≤ wordMax := Nat.le_trans (Nat.le_add_right _ _) hfits
      have hshift : n * e ≤ wordMax := Nat.le_trans (Nat.le_add_right _ _) hdigit
      rw [List.zip_cons_cons, List.foldlM_cons, word_mul hshift, ok_bind, word_add hdigit,
        ok_bind, ih hfits]

theorem eq_of_foldlM_linearize_eq_ok {index extent : List Nat} (h : index.length = extent.length)
    {n p : Nat} (hn : n ≤ wordMax)
    (hp : (index.zip extent).foldlM
      (fun acc p => do wordArithmetic.add (← wordArithmetic.mul acc p.2) p.1) n = .ok p) :
    n * extent.prod + number index extent = p ∧ p ≤ wordMax := by
  induction index generalizing extent n with
  | nil =>
      obtain rfl : extent = [] := List.eq_nil_of_length_eq_zero h.symm
      obtain rfl : n = p := by simpa [pure_eq_ok] using hp
      exact ⟨by simp [number], hn⟩
  | cons i index ih =>
      rcases extent with _ | ⟨e, extent⟩
      · cases h
      · rw [List.zip_cons_cons, List.foldlM_cons, bind_eq_ok] at hp
        obtain ⟨m, hm, hp⟩ := hp
        obtain ⟨scaled, hscaled, hm⟩ := bind_eq_ok.mp hm
        obtain ⟨-, rfl⟩ := word_mul_eq_ok.mp hscaled
        obtain ⟨hle, rfl⟩ := keepWord_eq_ok.mp hm
        obtain ⟨hsum, hfits⟩ := ih (by simpa using h) hle hp
        refine ⟨?_, hfits⟩
        rw [number, List.prod_cons, ← hsum, Nat.add_mul, Nat.mul_assoc, Nat.add_assoc]

theorem linearize_eq_ok_iff {index extent : List Nat} (h : Within index extent) {n : Nat} :
    linearize wordArithmetic index extent = .ok n ↔ number index extent = n ∧ n ≤ wordMax := by
  constructor
  · intro hn
    have hsum := eq_of_foldlM_linearize_eq_ok h.length_eq (Nat.zero_le _) hn
    rwa [Nat.zero_mul, Nat.zero_add] at hsum
  · rintro ⟨rfl, hfits⟩
    have hzero := foldlM_linearize_eq_ok h (n := 0) (by omega)
    rwa [Nat.zero_mul, Nat.zero_add] at hzero

theorem linearize_eq_ok {index extent : List Nat} (h : Within index extent)
    (hfits : extent.prod ≤ wordMax) :
    linearize wordArithmetic index extent = .ok (number index extent) := by
  have hlt := number_lt_prod h
  exact (linearize_eq_ok_iff h).mpr ⟨rfl, by omega⟩

/-- The digits of a number, least significant axis first. -/
def digits : Nat → List Nat → List Nat
  | _, [] => []
  | n, e :: extent => n % e :: digits (n / e) extent

theorem digits_append (extent : List Nat) (e n : Nat) :
    digits n (extent ++ [e]) = digits n extent ++ [n / extent.prod % e] := by
  induction extent generalizing n with
  | nil => simp [digits]
  | cons a extent ih => simp [digits, ih, Nat.div_div_eq_div_mul]

theorem reverse_digits_reverse (extent : List Nat) (n : Nat) :
    (digits n extent.reverse).reverse = index extent n := by
  induction extent with
  | nil => rfl
  | cons e extent ih =>
      rw [List.reverse_cons, digits_append, List.reverse_append, ih, index, List.prod_reverse_nat]
      rfl

theorem axesDigits_eq_ok {extent : List Nat} (hpos : ∀ e ∈ extent, 0 < e) (n : Nat) :
    Axes.digits wordArithmetic n extent = .ok (digits n extent) := by
  induction extent generalizing n with
  | nil => rfl
  | cons e extent ih =>
      have he : e ≠ 0 := Nat.ne_of_gt (hpos e (by simp))
      rw [Axes.digits, word_rem he, ok_bind, word_div he, ok_bind,
        ih fun x hx => hpos x (by simp [hx])]
      rfl

theorem delinearize_eq_ok {extent : List Nat} (hpos : ∀ e ∈ extent, 0 < e) (n : Nat) :
    delinearize wordArithmetic n extent = .ok (index extent n) := by
  have hzero : extent.contains wordArithmetic.zero = false := by
    simp only [List.contains_eq_mem, decide_eq_false_iff_not]
    intro hmem
    exact absurd (hpos _ hmem) (Nat.lt_irrefl 0)
  have hreverse : ∀ e ∈ extent.reverse, 0 < e := by simpa using hpos
  have hdigits := axesDigits_eq_ok hreverse n
  rw [delinearize, hzero, if_neg (by simp), hdigits]
  exact congrArg Except.ok (reverse_digits_reverse extent n)

theorem exists_delinearize (n : Nat) (extent : List Nat) :
    ∃ v, delinearize wordArithmetic n extent = .ok v := by
  by_cases hzero : extent.contains wordArithmetic.zero
  · exact ⟨_, if_pos hzero⟩
  · refine ⟨_, delinearize_eq_ok (fun e he => Nat.pos_of_ne_zero ?_) n⟩
    rintro rfl
    exact hzero (List.contains_iff_mem.mpr he)

theorem combine_eq_ok {v w : List Nat} {f : Nat → Nat → Except Fault Nat} {g : Nat → Nat → Nat}
    (h : ∀ p ∈ v.zip w, f p.1 p.2 = .ok (g p.1 p.2)) :
    combine f v w = .ok (v.zipWith g w) := by
  rw [combine, mapM_eq_ok (g := fun p => g p.1 p.2) h, List.map_zip_eq_zipWith]
  rfl

theorem zipWith_eq_map (f : Nat → Nat → Nat) (v w : List Nat) :
    v.zipWith f w = (v.zip w).map fun p => f p.1 p.2 :=
  (List.map_zip_eq_zipWith (f := fun p : Nat × Nat => f p.1 p.2)).symm

theorem eq_of_combine_mul_eq_ok {v w r : List Nat} (h : combine wordArithmetic.mul v w = .ok r) :
    r = v.zipWith (· * ·) w ∧ ∀ e ∈ r, e ≤ wordMax := by
  have hsteps := forall₂_of_mapM_eq_ok h
  rw [zipWith_eq_map]
  clear h
  generalize v.zip w = pairs at hsteps ⊢
  induction hsteps with
  | nil => simp
  | @cons p e ps r he _ ih =>
      obtain ⟨hle, rfl⟩ := word_mul_eq_ok.mp he
      obtain ⟨rfl, hrest⟩ := ih
      refine ⟨rfl, fun x hx => ?_⟩
      rcases List.mem_cons.mp hx with rfl | hx
      · exact hle
      · exact hrest x hx

theorem le_of_within {index extent : List Nat} (h : Within index extent)
    (hfits : ∀ e ∈ extent, e ≤ wordMax) : ∀ i ∈ index, i ≤ wordMax := by
  induction h with
  | nil => simp
  | @cons i e index extent hlt _ ih =>
      intro j hj
      rcases List.mem_cons.mp hj with rfl | hj
      · exact Nat.le_trans (Nat.le_of_lt hlt) (hfits e (by simp))
      · exact ih (fun x hx => hfits x (by simp [hx])) j hj

theorem combine_mul_of_le {v w : List Nat} (h : ∀ e ∈ v.zipWith (· * ·) w, e ≤ wordMax) :
    combine wordArithmetic.mul v w = .ok (v.zipWith (· * ·) w) := by
  apply combine_eq_ok
  intro p hp
  apply word_mul
  apply h
  rw [zipWith_eq_map]
  exact List.mem_map.mpr ⟨p, hp, rfl⟩

theorem combine_add_of_le {v w : List Nat} (h : ∀ e ∈ v.zipWith (· + ·) w, e ≤ wordMax) :
    combine wordArithmetic.add v w = .ok (v.zipWith (· + ·) w) := by
  apply combine_eq_ok
  intro p hp
  apply word_add
  apply h
  rw [zipWith_eq_map]
  exact List.mem_map.mpr ⟨p, hp, rfl⟩

end LaneGrid.Box
