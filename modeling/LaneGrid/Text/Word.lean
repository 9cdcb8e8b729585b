import LaneGrid.Index.Kind

namespace LaneGrid.Text

def isDigit (c : Char) : Bool :=
  '0' ≤ c && c ≤ '9'

def digitValue (c : Char) : Nat :=
  c.toNat - '0'.toNat

def decimal (digits : List Char) : Nat :=
  digits.foldl (fun n c => 10 * n + digitValue c) 0

/-- A machine word written as at least one decimal digit after an optional plus sign. -/
def word? (s : String) : Option Nat :=
  let digits := match s.toList with
    | '+' :: rest => rest
    | cs => cs
  if digits.isEmpty || !digits.all isDigit || wordMax < decimal digits then none
  else some (decimal digits)

def lower (s : String) : String :=
  s.map Char.toLower

end LaneGrid.Text
