namespace LaneGrid.Rate

def ofWord (n : Nat) : Float :=
  n.toUInt64.toFloat

def kibibytes (bytes : Nat) : Float :=
  ofWord bytes / 1024.0

/-- Units per second, for a duration in microseconds; zero when no time passed. -/
def perSecond (count micros : Nat) : Float :=
  if micros = 0 then 0.0 else ofWord count / ofWord micros * 1000000.0

def bandwidth (bytes micros : Nat) : Float :=
  perSecond bytes micros / 1048576.0

end LaneGrid.Rate
