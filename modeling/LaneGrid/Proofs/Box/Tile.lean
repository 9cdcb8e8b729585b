import Mathlib.Data.List.Perm.Lattice
import Mathlib.Data.List.Nodup
import LaneGrid.Proofs.Box.Checked

namespace LaneGrid.Box

abbrev times (v w : List Nat) : List Nat :=
  v.zipWith (· * ·) w

/-- The index at `place` in the tile number `tile`, when tiles have extent `size`. -/
def tiled (tile size place : List Nat) : List Nat :=
  (times tile size).zipWith (· + ·) place

theorem within_times {tile outer size : List Nat} (h : Within tile outer)
    (hlength : size.length = outer.length) (hpos : ∀ e ∈ size, 0 < e) :
    Within (times tile size) (times outer size) := by
  induction h generalizing size with
  | nil => exact .nil
  | @cons i a tile outer hlt _ ih =>
      rcases size with _ | ⟨t, size⟩
      · cases hlength
      · have ht : 0 < t := hpos t (by simp)
        refine .cons (Nat.mul_lt_mul_of_pos_right hlt ht) (ih (by simpa using hlength) ?_)
        exact fun e he => hpos e (by simp [he])

theorem within_tiled {tile outer size place : List Nat} (htile : Within tile outer)
    (hplace : Within place size) (hlength : size.length = outer.length) :
    Within (tiled tile size place) (times outer size) := by
  induction htile generalizing size place with
  | nil =>
      have hsize : size = [] := List.eq_nil_of_length_eq_zero hlength
      subst hsize
      cases hplace
      exact .nil
  | @cons i a tile outer hlt _ ih =>
      rcases hplace with _ | ⟨hj, hplace⟩
      · cases hlength
      · rename_i j t place size
        refine .cons ?_ (ih hplace (by simpa using hlength))
        calc
          i * t + j < i * t + t := Nat.add_lt_add_left hj _
          _ = (i + 1) * t := by rw [Nat.succ_mul]
          _ ≤ a * t := Nat.mul_le_mul_right _ hlt

theorem tiled_injective {tile tile' outer size place place' : List Nat}
    (htile : Within tile outer) (htile' : Within tile' outer) (hplace : Within place size)
    (hplace' : Within place' size) (hlength : size.length = outer.length)
    (h : tiled tile size place = tiled tile' size place') : tile = tile' ∧ place = place' := by
  induction htile generalizing tile' size place place' with
  | nil =>
      have hsize : size = [] := List.eq_nil_of_length_eq_zero hlength
      subst hsize
      cases htile'
      cases hplace
      cases hplace'
      exact ⟨rfl, rfl⟩
  | @cons i a tile outer _ _ ih =>
      rcases hplace with _ | ⟨hj, hplace⟩
      · cases hlength
      · rename_i j t place size
        rcases htile' with _ | ⟨hi', htile'⟩
        rcases hplace' with _ | ⟨hj', hplace'⟩
        rename_i i' tile' j' place'
        obtain ⟨hhead, htail⟩ := List.cons.inj h
        obtain ⟨rfl, rfl⟩ := ih htile' hplace hplace' (by simpa using hlength) htail
        have hi : i = i' := by
          rw [← mul_add_div_of_lt (a := i) hj, ← mul_add_div_of_lt (a := i') hj']
          exact congrArg (· / t) hhead
        have hj : j = j' := by
          rw [← mul_add_mod_of_lt (a := i) hj, ← mul_add_mod_of_lt (a := i') hj']
          exact congrArg (· % t) hhead
        rw [hi, hj]
        exact ⟨rfl, rfl⟩

theorem exists_tiled {index outer size : List Nat} (h : Within index (times outer size))
    (hlength : size.length = outer.length) :
    ∃ tile place, Within tile outer ∧ Within place size ∧ tiled tile size place = index := by
  induction outer generalizing index size with
  | nil =>
      have hsize : size = [] := List.eq_nil_of_length_eq_zero hlength
      subst hsize
      cases h
      exact ⟨[], [], .nil, .nil, rfl⟩
  | cons a outer ih =>
      rcases size with _ | ⟨t, size⟩
      · cases hlength
      · rcases h with _ | ⟨hn, hrest⟩
        rename_i n index
        obtain ⟨tile, place, htile, hplace, rfl⟩ := ih hrest (by simpa using hlength)
        have ht : 0 < t := Nat.pos_of_mul_pos_left (Nat.zero_lt_of_lt hn)
        refine ⟨n / t :: tile, n % t :: place, .cons ?_ htile, .cons (Nat.mod_lt _ ht) hplace, ?_⟩
        · exact Nat.div_lt_of_lt_mul (by rwa [Nat.mul_comm])
        · simp only [tiled, times, List.zipWith_cons_cons, Nat.div_add_mod']

theorem flatMap_tiled_perm {outer size : List Nat} (hlength : size.length = outer.length) :
    ((indices outer).flatMap fun tile => (indices size).map (tiled tile size)).Perm
      (indices (times outer size)) := by
  apply (List.perm_ext_iff_of_nodup ?_ (nodup_indices _)).mpr
  · intro index
    simp only [List.mem_flatMap, List.mem_map, mem_indices]
    constructor
    · rintro ⟨tile, htile, place, hplace, rfl⟩
      exact within_tiled htile hplace hlength
    · intro h
      obtain ⟨tile, place, htile, hplace, heq⟩ := exists_tiled h hlength
      exact ⟨tile, htile, place, hplace, heq⟩
  · refine List.nodup_flatMap.mpr ⟨?_, ?_⟩
    · intro tile htile
      apply List.Nodup.map_on _ (nodup_indices size)
      intro p hp q hq heq
      exact (tiled_injective (mem_indices.mp htile) (mem_indices.mp htile) (mem_indices.mp hp)
        (mem_indices.mp hq) hlength heq).2
    · apply List.Pairwise.imp_of_mem _ (nodup_indices outer)
      intro tile tile' htile htile' hne index hin hin'
      obtain ⟨p, hp, rfl⟩ := List.mem_map.mp hin
      obtain ⟨q, hq, heq⟩ := List.mem_map.mp hin'
      exact hne (tiled_injective (mem_indices.mp htile) (mem_indices.mp htile') (mem_indices.mp hp)
        (mem_indices.mp hq) hlength heq.symm).1

end LaneGrid.Box
