import Mathlib.Data.List.Perm.Basic
import Mathlib.Data.List.Range
import LaneGrid.Block.Rendezvous

namespace LaneGrid

namespace Rendezvous

/-- What is gathered from contributions that come one after the other. -/
def collect (cs : List (Option Contribution)) : Word :=
  cs.zipIdx.foldl (fun acc p =>
    match p.1 with
    | none => acc
    | some c => c.reduction.combine (if p.2 = 0 then c.reduction.identity else acc) c.value) 0

theorem collect_concat {r : Rendezvous} {cs : List (Option Contribution)}
    (harrived : r.arrived = cs.length) (hgathered : r.gathered = collect cs)
    (c : Option Contribution) : r.gather c = collect (cs ++ [c]) := by
  rw [collect, List.zipIdx_append, List.foldl_append, ← collect, ← hgathered]
  cases c with
  | none => rfl
  | some c => simp [gather, harrived]

end Rendezvous

namespace Reduction

variable (r : Reduction)

theorem foldl_combine (a : Word) (values : List Word) :
    values.foldl r.combine a = r.combine a (r.fold values) := by
  induction values generalizing a with
  | nil => rw [fold, List.foldl_nil, List.foldl_nil, combine_comm, identity_combine]
  | cons v values ih =>
      have hfold : r.fold (v :: values) = r.combine v (r.fold values) := by
        rw [fold, List.foldl_cons, ih, identity_combine]
      rw [List.foldl_cons, ih, hfold, combine_assoc]

theorem fold_cons (v : Word) (values : List Word) :
    r.fold (v :: values) = r.combine v (r.fold values) := by
  rw [fold, List.foldl_cons, identity_combine, foldl_combine]

theorem fold_concat (values : List Word) (v : Word) :
    r.fold (values ++ [v]) = r.combine (r.fold values) v := by
  rw [fold, List.foldl_append]
  rfl

theorem fold_perm {xs ys : List Word} (h : xs.Perm ys) : r.fold xs = r.fold ys := by
  induction h with
  | nil => rfl
  | cons v _ ih => rw [fold_cons, fold_cons, ih]
  | swap v w xs =>
      rw [fold_cons, fold_cons, fold_cons, fold_cons, ← combine_assoc, ← combine_assoc,
        r.combine_comm v w]
  | trans _ _ ih₁ ih₂ => rw [ih₁, ih₂]

theorem collect_eq_fold {values : List Word} (h : values ≠ []) :
    Rendezvous.collect (values.map fun v => some ⟨r, v⟩) = r.fold values := by
  induction values using List.reverseRecOn with
  | nil => exact absurd rfl h
  | append_singleton values v ih =>
      rw [fold_concat, List.map_append, Rendezvous.collect, List.zipIdx_append,
        List.foldl_append, ← Rendezvous.collect]
      rcases List.eq_nil_or_concat values with rfl | ⟨rest, last, rfl⟩
      · simp [fold]
      · rw [ih (by simp)]
        simp

end Reduction

namespace Rendezvous

theorem collect_of_none {cs : List (Option Contribution)} (h : ∀ c ∈ cs, c = none) :
    collect cs = 0 := by
  induction cs using List.reverseRecOn with
  | nil => rfl
  | append_singleton cs c ih =>
      obtain rfl := h c (by simp)
      rw [collect, List.zipIdx_append, List.foldl_append, ← collect,
        ih fun c hc => h c (List.mem_append_left _ hc)]
      rfl

theorem collect_perm {cs ds : List (Option Contribution)} (hperm : cs.Perm ds)
    (r : Option Reduction) (h : ∀ c ∈ cs, c.map (·.reduction) = r) : collect cs = collect ds := by
  cases r with
  | none =>
      have hnone : ∀ c ∈ cs, c = none := fun c hc => Option.map_eq_none_iff.mp (h c hc)
      rw [collect_of_none hnone, collect_of_none fun c hc => hnone c (hperm.mem_iff.mpr hc)]
  | some r =>
      let value (c : Option Contribution) : Word := c.elim 0 (·.value)
      have hvalues {es : List (Option Contribution)}
          (hes : ∀ c ∈ es, c.map (·.reduction) = some r) :
          es = (es.map value).map fun v => some ⟨r, v⟩ := by
        rw [List.map_map]
        refine (List.map_id es).symm.trans (List.map_congr_left fun c hc => ?_)
        obtain ⟨c, rfl, rfl⟩ := Option.map_eq_some_iff.mp (hes c hc)
        rfl
      by_cases hne : cs = []
      · subst hne
        rw [hperm.nil_eq]
      · have hds : ds ≠ [] := fun hds => hne (hds ▸ hperm).eq_nil
        have hfold := r.fold_perm (hperm.map value)
        rw [← r.collect_eq_fold (by simpa using hne), ← r.collect_eq_fold (by simpa using hds),
          ← hvalues h, ← hvalues fun c hc => h c (hperm.mem_iff.mpr hc)] at hfold
        exact hfold

end Rendezvous

namespace Poll

/-- What a poll tells about the answers of a group of lanes. -/
def outcome (p : Poll) (lanes : List Nat) (yes : Nat → Bool) : Word :=
  match p with
  | count => BitVec.ofNat 64 (lanes.countP yes)
  | every => if lanes.all yes then 1 else 0
  | some => if lanes.any yes then 1 else 0

theorem fold_count (lanes : List Nat) (yes : Nat → Bool) :
    Reduction.sum.fold (lanes.map fun lane => (count.contribution (yes lane)).value) =
      BitVec.ofNat 64 (lanes.countP yes) := by
  induction lanes with
  | nil => rfl
  | cons lane lanes ih =>
      rw [List.map_cons, Reduction.fold_cons, ih, List.countP_cons]
      cases yes lane with
      | false => simp [Reduction.combine, contribution]
      | true => simp [Reduction.combine, contribution, BitVec.ofNat_add, BitVec.add_comm]

theorem fold_every {lanes : List Nat} (h : lanes ≠ []) (yes : Nat → Bool) :
    Reduction.bitAnd.fold (lanes.map fun lane => (every.contribution (yes lane)).value) =
      if lanes.all yes then 1 else 0 := by
  induction lanes with
  | nil => exact absurd rfl h
  | cons lane lanes ih =>
      rw [List.map_cons, Reduction.fold_cons, List.all_cons]
      rcases lanes with _ | ⟨next, lanes⟩
      · cases yes lane <;> simp [Reduction.fold, Reduction.combine, Reduction.identity, contribution]
      · rw [ih (by simp)]
        cases yes lane <;> cases (next :: lanes).all yes <;> rfl

theorem fold_some (lanes : List Nat) (yes : Nat → Bool) :
    Reduction.bitOr.fold (lanes.map fun lane => (some.contribution (yes lane)).value) =
      if lanes.any yes then 1 else 0 := by
  induction lanes with
  | nil => rfl
  | cons lane lanes ih =>
      rw [List.map_cons, Reduction.fold_cons, ih, List.any_cons]
      cases yes lane <;> cases lanes.any yes <;> rfl

theorem fold_contributions (p : Poll) {lanes : List Nat} (h : lanes ≠ []) (yes : Nat → Bool) :
    (p.contribution true).reduction.fold
        (lanes.map fun lane => (p.contribution (yes lane)).value) =
      p.outcome lanes yes := by
  cases p with
  | count => exact fold_count lanes yes
  | every => exact fold_every h yes
  | some => exact fold_some lanes yes

end Poll

end LaneGrid
