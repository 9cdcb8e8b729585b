import LaneGrid.Error

namespace LaneGrid.IndexKind

def toSize (_k : IndexKind) (v : Int) : Except Error Nat :=
  if word.Holds v then .ok v.toNat else .error (.indexOverflow v word)

def ofSize (k : IndexKind) (n : Nat) : Except Error Int :=
  if k.Holds n then .ok n else .error (.indexOverflow n k)

def toSizes (k : IndexKind) (extent : List Int) : Except Error (List Nat) :=
  extent.mapM k.toSize

end LaneGrid.IndexKind
