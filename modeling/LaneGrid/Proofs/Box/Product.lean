import Mathlib.Data.List.TakeWhile
import LaneGrid.Coordinate.Basic
import LaneGrid.Proofs.Box.Codec

/-!
Products of extents in the index types. Without an empty axis no partial product is larger than the
whole one, so a product is found exactly if the type holds it. An empty axis makes the product zero,
but the axes are multiplied one after the other, and an empty axis comes too late when those before
it have left the type.
-/

namespace LaneGrid

theorem IndexKind.mul_overflow {k : IndexKind} {a b : Nat} (h : ¬ k.Holds ((a * b : Nat) : Int)) :
    k.arithmetic.mul a b = .error .mulOverflow := by
  rw [Int.natCast_mul] at h
  exact if_neg h

namespace Coordinate

/-- A coordinate whose extent along every axis is the component of `v`. -/
structure Exposes (c : Coordinate Int) (v : List Int) : Prop where
  dimension_eq : c.dimension = v.length
  axisAt_eq : ∀ (axis : Nat) (h : axis < v.length), c.axisAt .extent axis = .ok v[axis]

theorem axisAt_eq_ok {c : Coordinate Int} {q : Quantity} {axis : Nat} {x : Int} :
    c.axisAt q axis = .ok x ↔ c.toAxes[axis]? = some x := by
  rw [axisAt, axis?]
  rcases c.toAxes[axis]? with _ | y
  · exact ⟨nofun, nofun⟩
  · exact ⟨fun h => congrArg _ (Except.ok.inj h), fun h => congrArg _ (Option.some.inj h)⟩

theorem length_toAxes (c : Coordinate Int) : c.toAxes.length = c.dimension := by
  unfold toAxes dimension
  split
  · exact List.length_reverse
  · rfl

theorem exposes_iff {c : Coordinate Int} {v : List Int} : c.Exposes v ↔ c.toAxes = v := by
  constructor
  · rintro ⟨hdimension, haxis⟩
    apply List.ext_getElem (by rw [length_toAxes, hdimension])
    intro axis hc hv
    have hsome := axisAt_eq_ok.mp (haxis axis hv)
    rwa [List.getElem?_eq_getElem hc, Option.some.injEq] at hsome
  · rintro rfl
    exact ⟨(length_toAxes c).symm, fun axis h => axisAt_eq_ok.mpr (List.getElem?_eq_getElem h)⟩

end Coordinate

namespace Box

open Axes

/-- The axes before the first empty one. -/
def leading (extent : List Nat) : List Nat :=
  extent.takeWhile (· ≠ 0)

theorem prod_leading_pos (extent : List Nat) : 0 < (leading extent).prod := by
  refine List.prod_pos_iff_forall_pos_nat.mpr fun e he => Nat.pos_of_ne_zero ?_
  simpa using List.mem_takeWhile_imp he

theorem leading_of_pos {extent : List Nat} (hpos : ∀ e ∈ extent, 0 < e) :
    leading extent = extent := by
  refine List.takeWhile_eq_self_iff.mpr fun e he => ?_
  exact decide_eq_true (Nat.ne_of_gt (hpos e he))

theorem leading_cons_zero (extent : List Nat) : leading (0 :: extent) = [] := by
  simp [leading]

theorem leading_cons_of_pos {e : Nat} (he : 0 < e) (extent : List Nat) :
    leading (e :: extent) = e :: leading extent := by
  simp [leading, Nat.ne_of_gt he]

variable {k : IndexKind}

/-- Multiplying goes through exactly if the type holds the product of the axes before the first
empty one. -/
theorem foldlM_mul_ints (sizes : List Nat) {n : Nat} (hn : k.Holds n) :
    (ints sizes).foldlM k.arithmetic.mul (n : Int) =
      if k.Holds ((n * (leading sizes).prod : Nat) : Int) then .ok ((n * sizes.prod : Nat) : Int)
      else .error .mulOverflow := by
  induction sizes generalizing n with
  | nil => simp [leading, hn, pure_eq_ok]
  | cons e sizes ih =>
      rw [ints, List.map_cons, List.foldlM_cons]
      by_cases hstep : k.Holds ((n * e : Nat) : Int)
      · rw [IndexKind.mul_natCast hstep, ok_bind, ih hstep, List.prod_cons, ← Nat.mul_assoc]
        rcases Nat.eq_zero_or_pos e with rfl | he
        · simp [leading_cons_zero, hn, k.holds_zero]
        · rw [leading_cons_of_pos he, List.prod_cons, ← Nat.mul_assoc]
      · have he : 0 < e := by
          apply Nat.pos_of_ne_zero
          rintro rfl
          exact hstep k.holds_zero
        have hlarge : ¬ k.Holds ((n * (leading (e :: sizes)).prod : Nat) : Int) := by
          rw [leading_cons_of_pos he, List.prod_cons, ← Nat.mul_assoc]
          intro hholds
          exact hstep (hholds.natCast_of_le (Nat.le_mul_of_pos_right _ (prod_leading_pos sizes)))
        rw [IndexKind.mul_overflow hstep, error_bind, if_neg hlarge]

theorem product_ints (sizes : List Nat) :
    product k.arithmetic (ints sizes) =
      if k.Holds (leading sizes).prod then .ok ((sizes.prod : Nat) : Int)
      else .error .mulOverflow := by
  have hone := foldlM_mul_ints sizes (n := 1) k.holds_one
  rwa [Nat.one_mul, Nat.one_mul] at hone

theorem takeWhile_ints (sizes : List Nat) :
    (ints sizes).takeWhile (· ≠ 0) = ints (leading sizes) := by
  simp [ints, leading, List.takeWhile_map, Function.comp_def]

section

variable {v : List Int} (hv : ∀ x ∈ v, 0 ≤ x)

include hv

theorem product_eq_ite :
    product k.arithmetic v =
      if k.Holds (v.takeWhile (· ≠ 0)).prod then .ok v.prod else .error .mulOverflow := by
  obtain ⟨sizes, rfl⟩ := exists_ints hv
  rw [product_ints, takeWhile_ints, prod_ints, prod_ints]

theorem product?_eq_ite :
    product? k.arithmetic v =
      if k.Holds (v.takeWhile (· ≠ 0)).prod then some v.prod else none := by
  rw [product?, product_eq_ite hv]
  split <;> rfl

theorem product?_eq_some_iff {p : Int} :
    product? k.arithmetic v = some p ↔ v.prod = p ∧ k.Holds (v.takeWhile (· ≠ 0)).prod := by
  rw [product?_eq_ite hv]
  split
  · rename_i hholds
    rw [Option.some.injEq, and_iff_left hholds]
  · rename_i hlarge
    exact ⟨nofun, fun h => absurd h.2 hlarge⟩

theorem product?_eq_none_iff :
    product? k.arithmetic v = none ↔ product k.arithmetic v = .error .mulOverflow := by
  rw [product?_eq_ite hv, product_eq_ite hv]
  split <;> simp

theorem product?_eq_some_iff_of_ne_zero (hzero : 0 ∉ v) {p : Int} :
    product? k.arithmetic v = some p ↔ v.prod = p ∧ k.Holds p := by
  have hall : v.takeWhile (· ≠ 0) = v := by
    refine List.takeWhile_eq_self_iff.mpr fun x hx => decide_eq_true ?_
    rintro rfl
    exact hzero hx
  rw [product?_eq_some_iff hv, hall]
  constructor <;> rintro ⟨rfl, hholds⟩ <;> exact ⟨rfl, hholds⟩

theorem product?_of_filter (h : k.Holds (v.filter (· ≠ 0)).prod) :
    product? k.arithmetic v = some v.prod := by
  refine (product?_eq_some_iff hv).mpr ⟨rfl, ?_⟩
  obtain ⟨sizes, rfl⟩ := exists_ints hv
  have hfilter : (ints sizes).filter (· ≠ 0) = ints (sizes.filter (· ≠ 0)) := by
    simp [ints, List.filter_map, Function.comp_def]
  rw [hfilter, prod_ints] at h
  rw [takeWhile_ints, prod_ints]
  have hsublist : (leading sizes).Sublist (sizes.filter (· ≠ 0)) := by
    have hself : (leading sizes).filter (· ≠ 0) = leading sizes :=
      List.filter_eq_self.mpr fun e he => List.mem_takeWhile_imp (p := (· ≠ 0)) he
    rw [← hself]
    exact (List.takeWhile_sublist _).filter _
  have hpos : 0 < (sizes.filter (· ≠ 0)).prod := by
    refine List.prod_pos_iff_forall_pos_nat.mpr fun e he => Nat.pos_of_ne_zero ?_
    simpa using List.of_mem_filter he
  exact h.natCast_of_le (Nat.le_of_dvd hpos hsublist.prod_dvd_prod)

end

/-- The checked product of components that are not negative, and of the coordinates that have them
as extents. It is the exact product, given exactly if the type holds the product of the components
before the first zero; otherwise there is none, and multiplying overflows. So without a zero it is
there exactly if the type holds it, and the order of the components does not matter. With zeros the
order does not matter either if the type holds the product of the other components. -/
theorem products_of_nonneg (k : IndexKind) (v : List Int) (hv : ∀ x ∈ v, 0 ≤ x) :
    (∀ p, product? k.arithmetic v = some p ↔
      v.prod = p ∧ k.Holds (v.takeWhile (· ≠ 0)).prod) ∧
    (product? k.arithmetic v = none ↔ product k.arithmetic v = .error .mulOverflow) ∧
    (0 ∉ v → ∀ w, w.Perm v → ∀ p, product? k.arithmetic w = some p ↔ v.prod = p ∧ k.Holds p) ∧
    (k.Holds (v.filter (· ≠ 0)).prod → ∀ w, w.Perm v → product? k.arithmetic w = some v.prod) ∧
    (Coordinate.Exposes ⟨.rows, v⟩ v ∧ Coordinate.Exposes ⟨.fields, v.reverse⟩ v) ∧
    ∀ c : Coordinate Int, c.Exposes v →
      c.extentProduct? k.arithmetic = product? k.arithmetic v := by
  have hnonneg : ∀ {w : List Int}, w.Perm v → ∀ x ∈ w, 0 ≤ x :=
    fun hperm x hx => hv x (hperm.mem_iff.mp hx)
  refine ⟨fun p => product?_eq_some_iff hv, product?_eq_none_iff hv, ?_, ?_, ?_, ?_⟩
  · intro hzero w hperm p
    rw [← hperm.prod_eq]
    exact product?_eq_some_iff_of_ne_zero (hnonneg hperm) (hperm.mem_iff.not.mpr hzero)
  · intro hholds w hperm
    rw [← (hperm.filter _).prod_eq] at hholds
    rw [← hperm.prod_eq]
    exact product?_of_filter (hnonneg hperm) hholds
  · exact ⟨Coordinate.exposes_iff.mpr rfl, Coordinate.exposes_iff.mpr (List.reverse_reverse v)⟩
  · intro c hc
    rw [Coordinate.extentProduct?, Coordinate.exposes_iff.mp hc]

/-- An 8-bit type holds 240 in every order, and not 256; behind a zero nothing is too large. -/
theorem products_of_small_axes :
    (∀ w : List Int, w.Perm [3, 5, 16] → product? IndexKind.u8.arithmetic w = some 240) ∧
      product? IndexKind.u8.arithmetic [2, 0, 200] = some 0 ∧
      Coordinate.extentProduct? IndexKind.u8.arithmetic ⟨.fields, [2, 8, 16]⟩ = none := by
  obtain ⟨-, -, horder, -⟩ := products_of_nonneg .u8 [3, 5, 16] (by decide)
  obtain ⟨hzero, -⟩ := products_of_nonneg .u8 [2, 0, 200] (by decide)
  obtain ⟨hlarge, -, -, -, ⟨-, hfields⟩, hextent⟩ := products_of_nonneg .u8 [16, 8, 2] (by decide)
  refine ⟨fun w hw => (horder (by decide) w hw 240).mpr (by decide),
    (hzero 0).mpr (by decide), (hextent ⟨.fields, [2, 8, 16]⟩ hfields).trans ?_⟩
  rw [Option.eq_none_iff_forall_ne_some]
  intro p hp
  exact absurd ((hlarge p).mp hp).2 (by decide)

/-- An 8-bit type does not hold sixteen times sixteen. It does hold the product with an empty axis,
which is zero, but there is no answer when that axis comes last; when it comes first there is. -/
theorem not_forall_products_exact :
    (¬ ∀ (k : IndexKind) (v : List Int), (∀ x ∈ v, 0 ≤ x ∧ k.Holds x) →
      ∀ p, product? k.arithmetic v = some p ↔ v.prod = p ∧ k.Holds p) ∧
    ¬ ∀ (k : IndexKind) (v : List Int), (∀ x ∈ v, 0 ≤ x ∧ k.Holds x) →
      product? k.arithmetic v.reverse = product? k.arithmetic v := by
  have hlate : product? IndexKind.u8.arithmetic [16, 16, 0] = none := by decide
  have hearly : product? IndexKind.u8.arithmetic [0, 16, 16] = some 0 := by decide
  constructor
  · intro h
    have hzero := (h .u8 [16, 16, 0] (by decide) 0).mpr (by decide)
    rw [hlate] at hzero
    cases hzero
  · intro h
    have hsame := h .u8 [16, 16, 0] (by decide)
    rw [hlate] at hsame
    cases hsame.symm.trans hearly

end Box

end LaneGrid
