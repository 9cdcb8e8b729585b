namespace LaneGrid

abbrev Word := BitVec 64

/-- How one word per lane is folded. Sums wrap. -/
inductive Reduction where
  | sum | bitAnd | bitOr
  deriving DecidableEq, Repr

namespace Reduction

def all : List Reduction :=
  [sum, bitAnd, bitOr]

def name : Reduction → String
  | sum => "Sum" | bitAnd => "BitAnd" | bitOr => "BitOr"

def identity : Reduction → Word
  | sum | bitOr => 0
  | bitAnd => BitVec.allOnes 64

def combine : Reduction → Word → Word → Word
  | sum, a, b => a + b
  | bitAnd, a, b => a &&& b
  | bitOr, a, b => a ||| b

def fold (r : Reduction) (values : List Word) : Word :=
  values.foldl r.combine r.identity

theorem combine_comm (r : Reduction) (a b : Word) : r.combine a b = r.combine b a := by
  cases r
  · exact BitVec.add_comm a b
  · exact BitVec.and_comm a b
  · exact BitVec.or_comm a b

theorem combine_assoc (r : Reduction) (a b c : Word) :
    r.combine (r.combine a b) c = r.combine a (r.combine b c) := by
  cases r
  · exact BitVec.add_assoc a b c
  · exact BitVec.and_assoc a b c
  · exact BitVec.or_assoc a b c

@[simp] theorem identity_combine (r : Reduction) (a : Word) : r.combine r.identity a = a := by
  cases r
  · exact BitVec.zero_add a
  · exact BitVec.allOnes_and
  · exact BitVec.zero_or

end Reduction

/-- What a lane brings to a meeting: a word and how the group folds it. -/
structure Contribution where
  reduction : Reduction
  value : Word
  deriving DecidableEq, Repr

inductive Poll where
  | count
  | every
  | some
  deriving DecidableEq, Repr

namespace Poll

def name : Poll → String
  | count => "Count" | every => "And" | some => "Or"

def all : List Poll :=
  [count, every, some]

/-- One lane's answer as a contribution, a yes being one. -/
def contribution (p : Poll) (yes : Bool) : Contribution :=
  let value : Word := if yes then 1 else 0
  match p with
  | count => ⟨.sum, value⟩
  | every => ⟨.bitAnd, value⟩
  | some => ⟨.bitOr, value⟩

end Poll

end LaneGrid
