import LaneGrid.Telemetry.Event

namespace LaneGrid

structure SpanSettings where
  enabled : Bool
  /-- Shortest reported duration in microseconds, for spans without a threshold of their own. -/
  threshold : Option Nat
  deriving DecidableEq, Repr

namespace SpanSettings

def standard : SpanSettings :=
  ⟨true, none⟩

/-- The largest machine word stands for no threshold. -/
def make (enabled : Bool) (threshold : Option Nat) : SpanSettings :=
  ⟨enabled, threshold.filter (· ≠ wordMax)⟩

/-- Whether a span that took `micros` is reported. Its own threshold comes first. -/
def reports (s : SpanSettings) (own : Option Nat) (micros : Nat) : Bool :=
  s.enabled && (own.or s.threshold).all (· ≤ micros)

def complete (s : SpanSettings) (own : Option Nat) (micros : Nat) : List Event :=
  if s.reports own micros then [.spanCompleted] else []

end SpanSettings

end LaneGrid
