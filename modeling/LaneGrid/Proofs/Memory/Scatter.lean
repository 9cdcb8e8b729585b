import LaneGrid.Memory.Region
import LaneGrid.Proofs.Memory.RowLayout

/-!
Elements written at given places, and the contents of memory read from those places. Writing row
by row is one scatter over the places of all elements, which is what makes whole-region
operations act on a single list.
-/

namespace LaneGrid

namespace Bytes

variable {k : ElementKind} {place : Nat → Nat}

/-- Writes elements one after the other, the first one at place `n`. -/
def scatter (place : Nat → Nat) (b : Bytes) (n : Nat) : List (Element k) → Bytes
  | [] => b
  | x :: xs => scatter place (b.store (place n) x) (n + 1) xs

theorem scatter_append (b : Bytes) (n : Nat) (xs ys : List (Element k)) :
    b.scatter place n (xs ++ ys) = (b.scatter place n xs).scatter place (n + xs.length) ys := by
  induction xs generalizing b n with
  | nil => rfl
  | cons x xs ih =>
      rw [List.cons_append, scatter, ih, scatter, List.length_cons]
      congr 1
      omega

theorem storeAll_eq_scatter {b : Bytes} {offset n : Nat} {xs : List (Element k)}
    (h : ∀ j < xs.length, place (n + j) = offset + j * k.size) :
    b.storeAll offset xs = b.scatter place n xs := by
  induction xs generalizing b offset n with
  | nil => rfl
  | cons x xs ih =>
      have hfirst : place n = offset := by simpa using h 0 (by simp)
      have hrest : ∀ j < xs.length, place (n + 1 + j) = offset + k.size + j * k.size := by
        intro j hj
        have hnext := h (j + 1) (by simpa using hj)
        rw [Nat.succ_mul] at hnext
        rw [Nat.add_assoc, Nat.add_comm 1 j, hnext]
        omega
      rw [storeAll, scatter, hfirst, ih hrest]

theorem get_scatter_of_outside {b : Bytes} {n i : Nat} {xs : List (Element k)}
    (h : ∀ j < xs.length, i < place (n + j) ∨ place (n + j) + k.size ≤ i) :
    (b.scatter place n xs).get i = b.get i := by
  induction xs generalizing b n with
  | nil => rfl
  | cons x xs ih =>
      have hrest : ∀ j < xs.length, i < place (n + 1 + j) ∨ place (n + 1 + j) + k.size ≤ i := by
        intro j hj
        rw [Nat.add_assoc, Nat.add_comm 1 j]
        exact h (j + 1) (by simpa using hj)
      have hfirst : i < place n ∨ place n + k.size ≤ i := h 0 (by simp)
      rw [scatter, ih hrest, get_store_of_outside _ _ hfirst]

section

variable (hsep : ∀ {n m : Nat}, n < m → place n + k.size ≤ place m)

include hsep

theorem load_scatter_of_lt {b : Bytes} {n m : Nat} (h : m < n) (xs : List (Element k)) :
    (b.scatter place n xs).load k (place m) = b.load k (place m) := by
  induction xs generalizing b n with
  | nil => rfl
  | cons x xs ih =>
      rw [scatter, ih (by omega), load_store_of_disjoint _ _ (Or.inl (hsep h))]

theorem load_scatter_add {b : Bytes} {n j : Nat} {xs : List (Element k)} (h : j < xs.length) :
    (b.scatter place n xs).load k (place (n + j)) = xs[j] := by
  induction xs generalizing b n j with
  | nil => simp at h
  | cons x xs ih =>
      rcases j with _ | j
      · have hlater := load_scatter_of_lt hsep (b := b.store (place n) x) (Nat.lt_succ_self n) xs
        exact hlater.trans (load_store b (place n) x)
      · have hj : j < xs.length := by simpa using h
        have hnext : n + (j + 1) = n + 1 + j := by omega
        rw [scatter, hnext, ih hj]
        rfl

theorem map_load_scatter (b : Bytes) (xs : List (Element k)) :
    (List.range xs.length).map (fun n => (b.scatter place 0 xs).load k (place n)) = xs := by
  apply List.ext_getElem
  · simp
  · intro j hj hjx
    have hload := load_scatter_add hsep (b := b) (n := 0) hjx
    rw [Nat.zero_add] at hload
    simpa using hload

theorem map_load_store {b : Bytes} {n : Nat} (count : Nat) (x : Element k) :
    (List.range count).map (fun m => (b.store (place n) x).load k (place m)) =
      ((List.range count).map fun m => b.load k (place m)).set n x := by
  apply List.ext_getElem
  · simp
  · intro m hm _
    rw [List.getElem_set]
    simp only [List.getElem_map, List.getElem_range]
    split
    · rename_i heq
      rw [heq, load_store]
    · rename_i hne
      apply load_store_of_disjoint
      rcases Nat.lt_or_gt_of_ne hne with hlt | hgt
      · exact Or.inr (hsep hlt)
      · exact Or.inl (hsep hgt)

end

end Bytes

theorem map_range_mul {α : Type} (f : Nat → α) (rows length : Nat) :
    (List.range (rows * length)).map f =
      (List.range rows).flatMap fun r => (List.range length).map fun j => f (r * length + j) := by
  induction rows with
  | zero => simp
  | succ rows ih =>
      rw [Nat.succ_mul, List.range_add, List.map_append, ih, List.range_succ,
        List.flatMap_append]
      simp [Function.comp_def]

namespace Rows

variable {g : Rows} {k : ElementKind}

/-- The elements in memory, in the order of their numbers. -/
def contents (g : Rows) (k : ElementKind) (b : Bytes) : List (Element k) :=
  (List.range g.elements).map fun n => b.load k (g.place n)

@[simp] theorem length_contents (g : Rows) (k : ElementKind) (b : Bytes) :
    (g.contents k b).length = g.elements := by
  simp [contents]

variable (hk : g.size = k.size)

include hk

theorem flatMap_loadAll (b : Bytes) :
    ((List.range g.count).map (· * g.pitch)).flatMap (fun offset => b.loadAll k offset g.length) =
      g.contents k b := by
  rw [contents, elements, map_range_mul, List.flatMap_map]
  congr 1
  funext r
  apply List.map_congr_left
  intro j hj
  rw [g.place_row_add r (List.mem_range.mp hj), hk]

theorem storeRows_eq_scatter (b : Bytes) (start : Nat) {rows : Nat} {xs : List (Element k)}
    (h : xs.length = rows * g.length) :
    Region.storeRows g.length b ((List.range' start rows).map (· * g.pitch)) xs =
      b.scatter g.place (start * g.length) xs := by
  induction rows generalizing b start xs with
  | zero =>
      have hnil : xs = [] := List.eq_nil_of_length_eq_zero (by omega)
      rw [hnil]
      rfl
  | succ rows ih =>
      rw [Nat.succ_mul] at h
      have htake : (xs.take g.length).length = g.length := by
        rw [List.length_take]
        omega
      have hdrop : (xs.drop g.length).length = rows * g.length := by
        rw [List.length_drop]
        omega
      have hrow : ∀ j < (xs.take g.length).length,
          g.place (start * g.length + j) = start * g.pitch + j * k.size := by
        intro j hj
        rw [htake] at hj
        rw [g.place_row_add start hj, hk]
      calc
        _ = Region.storeRows g.length (b.storeAll (start * g.pitch) (xs.take g.length))
              ((List.range' (start + 1) rows).map (· * g.pitch)) (xs.drop g.length) := rfl
        _ = (b.scatter g.place (start * g.length) (xs.take g.length)).scatter g.place
              ((start + 1) * g.length) (xs.drop g.length) := by
            rw [Bytes.storeAll_eq_scatter hrow, ih _ _ hdrop]
        _ = b.scatter g.place (start * g.length) (xs.take g.length ++ xs.drop g.length) := by
            rw [Bytes.scatter_append, htake, Nat.succ_mul]
        _ = b.scatter g.place (start * g.length) xs := by rw [List.take_append_drop]

omit hk in
theorem foldl_storeAll_replicate (length : Nat) (x : Element k) (b : Bytes) (offsets : List Nat) :
    offsets.foldl (fun b offset => b.storeAll offset (List.replicate length x)) b =
      Region.storeRows length b offsets (List.replicate (offsets.length * length) x) := by
  induction offsets generalizing b with
  | nil => rfl
  | cons offset offsets ih =>
      have htake : (List.replicate ((offsets.length + 1) * length) x).take length =
          List.replicate length x := by
        rw [List.take_replicate, Nat.min_eq_left (Nat.le_mul_of_pos_left _ (Nat.succ_pos _))]
      have hdrop : (List.replicate ((offsets.length + 1) * length) x).drop length =
          List.replicate (offsets.length * length) x := by
        rw [List.drop_replicate, Nat.succ_mul, Nat.add_sub_cancel]
      rw [List.foldl_cons, ih, List.length_cons, Region.storeRows, htake, hdrop]

end Rows

end LaneGrid
