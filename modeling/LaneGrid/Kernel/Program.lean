import LaneGrid.Block.Rendezvous
import LaneGrid.Kernel.Lane

/-!
What one lane does, as a tree: each node is an operation that other lanes can notice, and its
branches are what follows for each answer. `Program.Within` bounds the number of operations,
whatever the answers are. A loop that ends by what it reads has no such bound; it is a `Coroutine`,
whose programs follow it up to a bound.
-/

namespace LaneGrid

inductive Scope where
  | block | warp
  deriving DecidableEq, Repr

inductive Space where
  | shared
  | buffer (number : Nat)
  deriving DecidableEq, Repr

structure Place where
  space : Space
  offset : Nat
  deriving DecidableEq, Repr

inductive Observation where
  | number (value : Nat)
  | flag (value : Bool)
  | element (kind : ElementKind) (value : Element kind)
  | text (value : String)
  | failure (error : Error)
  | several (items : List Observation)

inductive Program where
  | finish (outcome : Outcome Unit)
  | note (entry : Observation) (next : Program)
  /-- Meets the lanes of a group. The answer is the folded word, or zero when the meeting was
  given up. -/
  | arrive (scope : Scope) (contribution : Option Contribution) (next : Word → Program)
  /-- Asks for shared memory and awaits the answer at once. -/
  | allocate (kind : ElementKind) (length : Nat) (next : Except Error SharedSlice → Program)
  | reserved (next : Nat → Program)
  | access (place : Place) (kind : ElementKind) (access : Access kind)
      (next : Element kind → Program)

namespace Program

/-- The program comes to its end after at most `n` operations, whatever the answers are. -/
inductive Within : Nat → Program → Prop
  | finish {n o} : Within n (.finish o)
  | note {n e p} (h : Within n p) : Within (n + 1) (.note e p)
  | arrive {n s c f} (h : ∀ w, Within n (f w)) : Within (n + 1) (.arrive s c f)
  | allocate {n k m f} (h : ∀ r, Within n (f r)) : Within (n + 1) (.allocate k m f)
  | reserved {n f} (h : ∀ r, Within n (f r)) : Within (n + 1) (.reserved f)
  | access {n p k a f} (h : ∀ x, Within n (f x)) : Within (n + 1) (.access p k a f)

theorem Within.mono {n m : Nat} {p : Program} (h : Within n p) (hnm : n ≤ m) : Within m p := by
  induction h generalizing m with
  | finish => exact .finish
  | note _ ih => match m with | m + 1 => exact .note (ih (by omega))
  | arrive _ ih => match m with | m + 1 => exact .arrive fun w => ih w (by omega)
  | allocate _ ih => match m with | m + 1 => exact .allocate fun r => ih r (by omega)
  | reserved _ ih => match m with | m + 1 => exact .reserved fun r => ih r (by omega)
  | access _ ih => match m with | m + 1 => exact .access fun x => ih x (by omega)

/-- Goes on with a computed value, or ends with its fault. -/
def withValue {α : Type} (value : Except Fault α) (next : α → Program) : Program :=
  match value with
  | .ok x => next x
  | .error e => .finish (.error (.fault e))

/-- Goes on with an accepted value, or ends with the refusal. -/
def withAccepted {α : Type} (value : Outcome α) (next : α → Program) : Program :=
  match value with
  | .ok x => next x
  | .error e => .finish (.error e)

theorem Within.withValue {α : Type} {n : Nat} {value : Except Fault α} {next : α → Program}
    (h : ∀ x, Within n (next x)) : Within n (withValue value next) := by
  unfold Program.withValue
  split
  · exact h _
  · exact .finish

theorem Within.withAccepted {α : Type} {n : Nat} {value : Outcome α} {next : α → Program}
    (h : ∀ x, Within n (next x)) : Within n (withAccepted value next) := by
  unfold Program.withAccepted
  split
  · exact h _
  · exact .finish

end Program

/-- A kernel whose lanes end after a number of operations that is known beforehand. What is said of
all kernels is said of these, also where the runs that it is about would end without a bound. -/
structure Kernel where
  program : Lane → Program
  sharedBytes : WorkDivision → Nat
  dynamicBytes : WorkDivision → Nat
  /-- Operations after which every lane has come to its end. -/
  bound : WorkDivision → Nat
  within : ∀ lane, (program lane).Within (bound lane.division)

end LaneGrid
