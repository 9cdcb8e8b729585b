namespace LaneGrid.Text

variable {α : Type} [ToString α]

/-- Components in round brackets, as extents and indices are written in messages. -/
def tuple (components : List α) : String :=
  "(" ++ ", ".intercalate (components.map toString) ++ ")"

/-- Components in square brackets, as they appear inside the description of a value. -/
def listing (components : List α) : String :=
  "[" ++ ", ".intercalate (components.map toString) ++ "]"

end LaneGrid.Text
