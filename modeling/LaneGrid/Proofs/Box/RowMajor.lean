import Mathlib.Algebra.BigOperators.Group.List.Basic
import Mathlib.Data.List.Forall2
import Mathlib.Data.List.Nodup
import LaneGrid.Axes

namespace LaneGrid.Box

theorem mul_add_div_of_lt {a b t : Nat} (h : b < t) : (a * t + b) / t = a := by
  rw [Nat.add_comm, Nat.add_mul_div_right _ _ (Nat.zero_lt_of_lt h), Nat.div_eq_of_lt h,
    Nat.zero_add]

theorem mul_add_mod_of_lt {a b t : Nat} (h : b < t) : (a * t + b) % t = b := by
  rw [Nat.add_comm, Nat.add_mul_mod_self_right, Nat.mod_eq_of_lt h]

/-- One component for every axis, each before the end of the extent. -/
abbrev Within (index extent : List Nat) : Prop :=
  List.Forall₂ (· < ·) index extent

/-- The row-major number of an index. -/
def number : List Nat → List Nat → Nat
  | i :: index, _ :: extent => i * extent.prod + number index extent
  | _, _ => 0

/-- The index with a given row-major number. Numbers beyond the end of the box start again on
axis 0. -/
def index : List Nat → Nat → List Nat
  | [], _ => []
  | e :: extent, n => n / extent.prod % e :: index extent n

def indices (extent : List Nat) : List (List Nat) :=
  (List.range extent.prod).map (index extent)

theorem isWithin_eq_true_iff {index extent : List Nat} (h : index.length = extent.length) :
    Axes.isWithin index extent = true ↔ Within index extent := by
  rw [Within, List.forall₂_iff_zip]
  simp only [Axes.isWithin, List.all_eq_true, decide_eq_true_eq]
  constructor
  · intro hall
    exact ⟨h, fun hmem => hall _ hmem⟩
  · rintro ⟨-, hall⟩ ⟨i, e⟩ hmem
    exact hall hmem

theorem pos_of_within {index extent : List Nat} (h : Within index extent) :
    ∀ e ∈ extent, 0 < e := by
  induction h with
  | nil => simp
  | cons hlt _ ih =>
      intro e he
      rcases List.mem_cons.mp he with rfl | he
      · exact Nat.zero_lt_of_lt hlt
      · exact ih e he

theorem within_index {extent : List Nat} (h : ∀ e ∈ extent, 0 < e) (n : Nat) :
    Within (index extent n) extent := by
  induction extent with
  | nil => exact .nil
  | cons e extent ih =>
      exact .cons (Nat.mod_lt _ (h e (by simp))) (ih fun x hx => h x (by simp [hx]))

theorem number_lt_prod {index extent : List Nat} (h : Within index extent) :
    number index extent < extent.prod := by
  induction h with
  | nil => simp [number]
  | @cons i e index extent hlt _ ih =>
      rw [number, List.prod_cons]
      calc
        i * extent.prod + number index extent < i * extent.prod + extent.prod := by omega
        _ = (i + 1) * extent.prod := by rw [Nat.succ_mul]
        _ ≤ e * extent.prod := Nat.mul_le_mul_right _ hlt

theorem number_index (extent : List Nat) (n : Nat) :
    number (index extent n) extent = n % extent.prod := by
  induction extent with
  | nil => simp [number, Nat.mod_one]
  | cons e extent ih =>
      rw [index, number, ih, List.prod_cons, Nat.mul_comm e, Nat.mod_mul, Nat.mul_comm]
      exact Nat.add_comm _ _

theorem index_mul_add {extent : List Nat} (h : ∀ e ∈ extent, 0 < e) (k n : Nat) :
    index extent (k * extent.prod + n) = index extent n := by
  induction extent generalizing k with
  | nil => rfl
  | cons e extent ih =>
      have hpos : 0 < extent.prod :=
        List.prod_pos_iff_forall_pos_nat.mpr fun x hx => h x (by simp [hx])
      have hhead : (k * (e * extent.prod) + n) / extent.prod % e = n / extent.prod % e := by
        rw [← Nat.mul_assoc, Nat.add_comm, Nat.add_mul_div_right _ _ hpos,
          Nat.add_mul_mod_self_right]
      have htail : index extent (k * (e * extent.prod) + n) = index extent n := by
        rw [← Nat.mul_assoc]
        exact ih (fun x hx => h x (by simp [hx])) (k * e)
      simp only [index, List.prod_cons, hhead, htail]

theorem index_number {i extent : List Nat} (h : Within i extent) :
    index extent (number i extent) = i := by
  induction h with
  | nil => rfl
  | @cons i e is extent hlt htail ih =>
      have hnumber : number is extent < extent.prod := number_lt_prod htail
      have hhead : (i * extent.prod + number is extent) / extent.prod % e = i := by
        rw [mul_add_div_of_lt hnumber, Nat.mod_eq_of_lt hlt]
      rw [number, index, hhead, index_mul_add (pos_of_within htail), ih]

theorem number_injective {i j extent : List Nat} (hi : Within i extent) (hj : Within j extent)
    (h : number i extent = number j extent) : i = j := by
  rw [← index_number hi, ← index_number hj, h]

theorem number_lt_number {i j extent : List Nat} (hi : Within i extent) (hj : Within j extent)
    (h : i < j) : number i extent < number j extent := by
  induction hi generalizing j with
  | nil =>
      cases hj
      exact absurd h (List.not_lt_nil [])
  | @cons a e i extent _ hrest ih =>
      rcases hj with _ | ⟨_, hj⟩
      rename_i b j _
      rw [number, number]
      rcases List.cons_lt_cons_iff.mp h with hhead | ⟨rfl, htail⟩
      · calc
          a * extent.prod + number i extent < a * extent.prod + extent.prod :=
            Nat.add_lt_add_left (number_lt_prod hrest) _
          _ = (a + 1) * extent.prod := by rw [Nat.succ_mul]
          _ ≤ b * extent.prod := Nat.mul_le_mul_right _ hhead
          _ ≤ b * extent.prod + number j extent := Nat.le_add_right _ _
      · exact Nat.add_lt_add_left (ih hj htail) _

@[simp] theorem length_indices (extent : List Nat) : (indices extent).length = extent.prod := by
  simp [indices]

theorem mem_indices {i extent : List Nat} : i ∈ indices extent ↔ Within i extent := by
  simp only [indices, List.mem_map, List.mem_range]
  constructor
  · rintro ⟨n, hn, rfl⟩
    have hpos : 0 < extent.prod := Nat.zero_lt_of_lt hn
    exact within_index (List.prod_pos_iff_forall_pos_nat.mp hpos) n
  · intro h
    exact ⟨number i extent, number_lt_prod h, index_number h⟩

theorem nodup_indices (extent : List Nat) : (indices extent).Nodup := by
  apply List.Nodup.map_on _ List.nodup_range
  intro n hn m hm hnm
  have hmod := congrArg (number · extent) hnm
  simpa only [number_index, Nat.mod_eq_of_lt (List.mem_range.mp hn),
    Nat.mod_eq_of_lt (List.mem_range.mp hm)] using hmod

theorem number_append {i rows : List Nat} (h : i.length = rows.length) (j length : Nat) :
    number (i ++ [j]) (rows ++ [length]) = number i rows * length + j := by
  induction rows generalizing i with
  | nil =>
      have hi : i = [] := List.eq_nil_of_length_eq_zero h
      simp [hi, number]
  | cons e rows ih =>
      rcases i with _ | ⟨a, i⟩
      · simp at h
      · have htail : i.length = rows.length := by simpa using h
        simp only [List.cons_append, number, ih htail, List.prod_append, List.prod_singleton]
        rw [Nat.add_mul, Nat.mul_assoc, Nat.add_assoc]

end LaneGrid.Box
