import Mathlib.Data.List.Infix
import LaneGrid.Proofs.Phase.Contents

namespace LaneGrid

inductive Deed where
  /-- Meets the block, with a reduction if the lanes contribute to one. -/
  | meet (reduction : Option Reduction)
  | request (kind : ElementKind) (length : Nat)
  | access (place : Place) (kind : ElementKind) (writes : Bool)
  deriving DecidableEq

namespace Deed

def Touches : Deed → Place → Prop
  | access p k _, q => p.Covers k q
  | _, _ => False

def Writes : Deed → Place → Prop
  | access p k true, q => p.Covers k q
  | _, _ => False

instance (d : Deed) (x : Place) : Decidable (d.Writes x) :=
  match d with
  | access p k true => inferInstanceAs (Decidable (p.Covers k x))
  | access _ _ false => .isFalse id
  | meet _ => .isFalse id
  | request _ _ => .isFalse id

def isMeet : Deed → Bool
  | meet _ => true
  | _ => false

/-- Whether a deed takes the lane to the barrier of its block. -/
def isJoint (reserver : Reserver) : Deed → Bool
  | meet _ => true
  | request _ _ => reserver = .master
  | access _ _ _ => false

def request? : Deed → Option (ElementKind × Nat)
  | request k n => some (k, n)
  | _ => none

theorem Writes.touches {d : Deed} {x : Place} (h : d.Writes x) : d.Touches x := by
  cases d with
  | access p k w =>
      cases w with
      | true => exact h
      | false => exact h.elim
  | _ => exact h.elim

theorem writes_access {p : Place} {k : ElementKind} {w : Bool} {x : Place} :
    (access p k w).Writes x ↔ w = true ∧ p.Covers k x := by
  cases w with
  | true => exact ⟨fun h => ⟨rfl, h⟩, And.right⟩
  | false => exact ⟨False.elim, nofun⟩

def joint (reserver : Reserver) (log : List Deed) : List Deed :=
  log.filter (isJoint reserver)

def meets (log : List Deed) : Nat :=
  log.countP isMeet

def requests (log : List Deed) : List (ElementKind × Nat) :=
  log.filterMap request?

/-- The deeds with exactly `k` meetings before them. -/
def stretch : List Deed → Nat → List Deed
  | [], _ => []
  | meet _ :: _, 0 => []
  | meet _ :: log, k + 1 => stretch log k
  | d :: log, 0 => d :: stretch log 0
  | _ :: log, k + 1 => stretch log (k + 1)

def Wrote (log : List Deed) (k : Nat) (x : Place) : Prop :=
  ∃ d ∈ stretch log k, d.Writes x

instance (log : List Deed) (k : Nat) (x : Place) : Decidable (Wrote log k x) :=
  inferInstanceAs (Decidable (∃ d ∈ stretch log k, d.Writes x))

def Touched (log : List Deed) (k : Nat) (x : Place) : Prop :=
  ∃ d ∈ stretch log k, d.Touches x

theorem stretch_isPrefix (log rest : List Deed) (k : Nat) :
    stretch log k <+: stretch (log ++ rest) k := by
  induction log generalizing k with
  | nil => exact List.nil_prefix
  | cons d log ih =>
      cases d with
      | meet =>
          cases k with
          | zero => exact List.nil_prefix
          | succ k => exact ih k
      | request | access =>
          cases k with
          | zero => exact List.prefix_cons_inj _ |>.mpr (ih 0)
          | succ k => exact ih (k + 1)

theorem stretch_subset (log : List Deed) (k : Nat) : stretch log k ⊆ log := by
  induction log generalizing k with
  | nil => exact List.Subset.refl _
  | cons d log ih =>
      cases d with
      | meet =>
          cases k with
          | zero => exact List.nil_subset _
          | succ k => exact List.Subset.trans (ih k) (List.subset_cons_self _ _)
      | request | access =>
          cases k with
          | zero => exact List.cons_subset_cons _ (ih 0)
          | succ k => exact List.Subset.trans (ih (k + 1)) (List.subset_cons_self _ _)

theorem meets_cons_meet (r : Option Reduction) (log : List Deed) :
    meets (meet r :: log) = meets log + 1 :=
  List.countP_cons_of_pos rfl

theorem meets_cons_of_ne {d : Deed} (h : d.isMeet = false) (log : List Deed) :
    meets (d :: log) = meets log :=
  List.countP_cons_of_neg (Bool.eq_false_iff.mp h)

theorem stretch_concat {d : Deed} (h : d.isMeet = false) (log : List Deed) :
    stretch (log ++ [d]) (meets log) = stretch log (meets log) ++ [d] := by
  induction log with
  | nil =>
      cases d with
      | meet => cases h
      | _ => rfl
  | cons e log ih =>
      cases e with
      | meet =>
          rw [meets_cons_meet]
          exact ih
      | request | access =>
          rw [meets_cons_of_ne rfl]
          rcases hmeets : meets log with _ | k
          · rw [hmeets] at ih
            exact congrArg (_ :: ·) ih
          · rw [hmeets] at ih
            exact ih

theorem meets_append (log rest : List Deed) : meets (log ++ rest) = meets log + meets rest :=
  List.countP_append

theorem joint_append (reserver : Reserver) (log rest : List Deed) :
    joint reserver (log ++ rest) = joint reserver log ++ joint reserver rest :=
  List.filter_append ..

theorem requests_append (log rest : List Deed) :
    requests (log ++ rest) = requests log ++ requests rest :=
  List.filterMap_append

theorem requests_joint (log : List Deed) : requests (joint .master log) = requests log := by
  rw [requests, joint, List.filterMap_filter]
  refine List.filterMap_congr fun d _ => ?_
  cases d <;> rfl

theorem joint_lane (log : List Deed) : joint .lane (joint .master log) = joint .lane log := by
  rw [joint, joint, List.filter_filter]
  refine List.filter_congr fun d _ => ?_
  cases d <;> rfl

theorem Wrote.mono {log log' : List Deed} {k : Nat} {x : Place} (h : Wrote log k x)
    (hgrows : log <+: log') : Wrote log' k x := by
  obtain ⟨rest, rfl⟩ := hgrows
  obtain ⟨d, hd, hx⟩ := h
  exact ⟨d, (stretch_isPrefix log rest k).subset hd, hx⟩

theorem Touched.mono {log log' : List Deed} {k : Nat} {x : Place} (h : Touched log k x)
    (hgrows : log <+: log') : Touched log' k x := by
  obtain ⟨rest, rfl⟩ := hgrows
  obtain ⟨d, hd, hx⟩ := h
  exact ⟨d, (stretch_isPrefix log rest k).subset hd, hx⟩

theorem Wrote.touched {log : List Deed} {k : Nat} {x : Place} (h : Wrote log k x) :
    Touched log k x := by
  obtain ⟨d, hd, hx⟩ := h
  exact ⟨d, hd, hx.touches⟩

/-- One list starts with the other. -/
def Comparable (xs ys : List Deed) : Prop :=
  xs <+: ys ∨ ys <+: xs

theorem Comparable.of_isPrefix {xs ys xs' ys' : List Deed} (h : Comparable xs' ys')
    (hxs : xs <+: xs') (hys : ys <+: ys') : Comparable xs ys := by
  rcases h with h | h
  · exact List.prefix_or_prefix_of_prefix (hxs.trans h) hys
  · exact List.prefix_or_prefix_of_prefix hxs (hys.trans h)

theorem Comparable.eq {xs ys : List Deed} (h : Comparable xs ys) (hlength : xs.length = ys.length) :
    xs = ys := by
  rcases h with h | h
  · exact h.eq_of_length hlength
  · exact (h.eq_of_length hlength.symm).symm

/-- No lane has done other things together with its peers than they, as far as both have come. -/
def InStep (reserver : Reserver) (n : Nat) (log : Nat → List Deed) : Prop :=
  ∀ i < n, ∀ j < n, Comparable (joint reserver (log i)) (joint reserver (log j))

end Deed

open Deed

/-- The deeds of `n` lanes of a block do not get in each other's way, and all that they touch is
their own. -/
structure Harmonious (reserver : Reserver) (n : Nat) (own : Place → Prop)
    (log : Nat → List Deed) : Prop where
  inStep : InStep reserver n log
  apart : ∀ i < n, ∀ j < n, i ≠ j → ∀ k x, Wrote (log i) k x → ¬Touched (log j) k x
  within : ∀ i < n, ∀ d ∈ log i, ∀ x, d.Touches x → own x

namespace Harmonious

variable {reserver : Reserver} {n : Nat} {own : Place → Prop} {log log' : Nat → List Deed}

theorem of_isPrefix (h : Harmonious reserver n own log') (hlog : ∀ i < n, log i <+: log' i) :
    Harmonious reserver n own log where
  inStep i hi j hj :=
    (h.inStep i hi j hj).of_isPrefix ((hlog i hi).filter _) ((hlog j hj).filter _)
  apart i hi j hj hne k x hwrote htouched :=
    h.apart i hi j hj hne k x (hwrote.mono (hlog i hi)) (htouched.mono (hlog j hj))
  within i hi d hd := h.within i hi d ((hlog i hi).subset hd)

theorem of_master (h : Harmonious .master n own log) : Harmonious reserver n own log := by
  cases reserver with
  | master => exact h
  | lane =>
      refine ⟨fun i hi j hj => ?_, h.apart, h.within⟩
      rw [← joint_lane (log i), ← joint_lane (log j)]
      exact (h.inStep i hi j hj).imp (fun hle => hle.filter _) fun hle => hle.filter _

theorem of_isMeet (hmeet : ∀ i < n, ∀ d ∈ log i, d.isMeet = true)
    (hstep : ∀ i < n, ∀ j < n, Comparable (log i) (log j)) :
    Harmonious reserver n (fun _ => True) log where
  inStep i hi j hj := (hstep i hi j hj).imp (fun hle => hle.filter _) fun hle => hle.filter _
  apart i hi j hj hne k x hwrote := by
    obtain ⟨d, hd, hx⟩ := hwrote
    have hd := hmeet i hi d (stretch_subset _ _ hd)
    cases d with
    | meet => exact hx.elim
    | _ => cases hd
  within _ _ _ _ _ _ := trivial

end Harmonious

namespace Stage

/-- What a lane does with its next step that its peers can notice. -/
def deed? : Stage → Option Deed
  | running (.arrive .block c _) => some (.meet (c.map (·.reduction)))
  | running (.allocate k n _) => some (.request k n)
  | running (.access p k a _) => some (.access p k a.writes)
  | _ => none

end Stage

end LaneGrid
