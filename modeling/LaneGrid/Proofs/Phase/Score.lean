import LaneGrid.Proofs.Meeting.Fold
import LaneGrid.Proofs.Phase.Scene

/-!
What the lanes of a block do when each works by itself from one meeting to the next. A lane sees the
memory as it was at the last meeting, with its own writes; at the next meeting the writes of all
lanes come together.
-/

namespace LaneGrid

open Deed

namespace Arena

/-- The reserved bytes after several requests. -/
def account (capacity : Nat) (requests : List (ElementKind × Nat)) : Nat :=
  requests.foldl (fun top q => grow capacity top q.1 q.2) 0

/-- The answer to the last of several requests. -/
def lastAnswer? (capacity : Nat) (requests : List (ElementKind × Nat)) :
    Option (Except SharedExcess Nat) :=
  requests.getLast?.map fun q =>
    (answer capacity (account capacity requests.dropLast) q.1 q.2).result

theorem account_concat (capacity : Nat) (requests : List (ElementKind × Nat)) (k : ElementKind)
    (n : Nat) : account capacity (requests ++ [(k, n)]) =
      grow capacity (account capacity requests) k n := by
  rw [account, List.foldl_append]
  rfl

theorem lastAnswer?_concat (capacity : Nat) (requests : List (ElementKind × Nat))
    (k : ElementKind) (n : Nat) : lastAnswer? capacity (requests ++ [(k, n)]) =
      some (answer capacity (account capacity requests) k n).result := by
  rw [lastAnswer?, List.getLast?_concat, List.dropLast_concat]
  rfl

end Arena

/-- A lane by itself. -/
structure Solo where
  program : Program
  contents : Contents
  log : List Deed

namespace Solo

/-- What the lane brings to the meeting for which it is ready. -/
def gift (s : Solo) : Option Contribution :=
  match s.program with
  | .arrive _ c _ => c
  | _ => none

/-- The lane after a meeting. -/
def released (s : Solo) (w : Word) (contents : Contents) : Solo :=
  match s.program with
  | .arrive _ c next => ⟨next w, contents, s.log ++ [.meet (c.map (·.reduction))]⟩
  | _ => s

end Solo

/-- Goes on until the next meeting or the end, where there are `reach` buffers. -/
def Program.goOn (capacity reach : Nat) : Program → Contents → List Deed → Solo
  | .finish o, contents, log => ⟨.finish o, contents, log⟩
  | .arrive scope c next, contents, log => ⟨.arrive scope c next, contents, log⟩
  | .note _ next, contents, log => next.goOn capacity reach contents log
  | .allocate k n next, contents, log =>
    (next (Arena.answer capacity (Arena.account capacity (requests log)) k n).slice).goOn
      capacity reach contents (log ++ [.request k n])
  | .reserved next, contents, log =>
    (next (Arena.account capacity (requests log))).goOn capacity reach contents log
  | .access p k a next, contents, log =>
    match contents.access reach p a with
    | .ok (x, contents) => (next x).goOn capacity reach contents (log ++ [.access p k a.writes])
    | .error f => ⟨.finish (.error (.fault f)), contents, log ++ [.access p k a.writes]⟩

theorem Program.goOn_log (capacity reach : Nat) (p : Program) (contents : Contents)
    (log : List Deed) : log <+: (p.goOn capacity reach contents log).log ∧
      meets (p.goOn capacity reach contents log).log = meets log := by
  have hconcat {d : Deed} (hd : d.isMeet = false) {log : List Deed} {s : Solo}
      (h : log ++ [d] <+: s.log ∧ meets s.log = meets (log ++ [d])) :
      log <+: s.log ∧ meets s.log = meets log := by
    refine ⟨(List.prefix_append _ _).trans h.1, ?_⟩
    rw [h.2, meets_append, meets_cons_of_ne hd]
    rfl
  induction p generalizing contents log with
  | finish => exact ⟨List.prefix_refl _, rfl⟩
  | arrive => exact ⟨List.prefix_refl _, rfl⟩
  | note _ _ ih => exact ih _ _
  | allocate k n next ih => exact hconcat rfl (ih _ _ _)
  | reserved next ih => exact ih _ _ _
  | access place k a next ih =>
      rw [goOn]
      rcases contents.access reach place a with f | ⟨x, contents'⟩
      · exact hconcat rfl ⟨List.prefix_refl _, rfl⟩
      · exact hconcat rfl (ih _ _ _)

structure Score where
  block : Nat
  lanes : Nat
  capacity : Nat
  /-- How many buffers there are. -/
  reach : Nat
  program : Nat → Program
  /-- What the lanes find in memory. -/
  contents : Contents

namespace Score

/-- A lane at the end of the phase that it is in. -/
def rest (σ : Score) (s : Solo) : Solo :=
  s.program.goOn σ.capacity σ.reach s.contents s.log

/-- Memory after all lanes have come to the end of phase `k`. -/
def merge (σ : Score) (k : Nat) (lane : Nat → Solo) : Contents := fun x =>
  match (List.range σ.lanes).find? fun i => Wrote (lane i).log k x with
  | some i => (lane i).contents x
  | none => (lane 0).contents x

/-- What a meeting tells lanes that have come to it in their order. -/
def word (σ : Score) (lane : Nat → Solo) : Word :=
  Rendezvous.collect ((List.range σ.lanes).map fun i => (lane i).gift)

/-- A lane at the beginning of a phase. -/
def phase (σ : Score) : Nat → Nat → Solo
  | 0, i => ⟨σ.program i, σ.contents, []⟩
  | k + 1, i =>
    let lane j := σ.rest (σ.phase k j)
    (lane i).released (σ.word lane) (σ.merge k lane)

/-- A lane at the end of a phase. -/
def close (σ : Score) (k i : Nat) : Solo :=
  σ.rest (σ.phase k i)

variable (σ : Score) {k : Nat} {i : Nat}

theorem phase_log_isPrefix (k i : Nat) : (σ.phase k i).log <+: (σ.close k i).log :=
  (Program.goOn_log ..).1

theorem close_log_isPrefix (k i : Nat) : (σ.close k i).log <+: (σ.phase (k + 1) i).log := by
  rw [phase, Solo.released]
  split
  · exact List.prefix_append _ _
  · exact List.prefix_refl _

theorem close_log_mono (i : Nat) {k m : Nat} (h : k ≤ m) :
    (σ.close k i).log <+: (σ.close m i).log := by
  induction h with
  | refl => exact List.prefix_refl _
  | step _ ih => exact ih.trans ((σ.close_log_isPrefix _ i).trans (σ.phase_log_isPrefix _ i))

theorem phase_succ {scope : Scope} {c : Option Contribution} {next : Word → Program}
    (h : (σ.close k i).program = .arrive scope c next) :
    σ.phase (k + 1) i = ⟨next (σ.word (σ.close k)), σ.merge k (σ.close k),
      (σ.close k i).log ++ [.meet (c.map (·.reduction))]⟩ := by
  have hreleased : σ.phase (k + 1) i =
      (σ.close k i).released (σ.word (σ.close k)) (σ.merge k (σ.close k)) := rfl
  rw [hreleased, Solo.released, h]

/-- Memory that every lane sees right but where others have written is what the writes of all
lanes make of it. -/
theorem merge_eq {lane : Nat → Solo} {contents : Contents} {x : Place}
    (hlanes : 0 < σ.lanes)
    (hapart : ∀ i < σ.lanes, ∀ j < σ.lanes, i ≠ j →
      Wrote (lane i).log k x → ¬Wrote (lane j).log k x)
    (hseen : ∀ i < σ.lanes, (∀ j < σ.lanes, j ≠ i → ¬Wrote (lane j).log k x) →
      contents x = (lane i).contents x) :
    contents x = σ.merge k lane x := by
  rw [merge]
  split
  · rename_i i hfind
    have hwrote : Wrote (lane i).log k x := by simpa using List.find?_some hfind
    have hi : i < σ.lanes := List.mem_range.mp (List.mem_of_find?_eq_some hfind)
    exact hseen i hi fun j hj hne => hapart i hi j hj (Ne.symm hne) hwrote
  · rename_i hfind
    refine hseen 0 hlanes fun j hj _ hwrote => ?_
    have hnone := List.find?_eq_none.mp hfind j (List.mem_range.mpr hj)
    simp [hwrote] at hnone

end Score

end LaneGrid
