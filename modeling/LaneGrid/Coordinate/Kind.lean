import LaneGrid.Element
import LaneGrid.Text.Blank
import LaneGrid.Text.Cut
import LaneGrid.Text.Word

namespace LaneGrid

/-- The shape of a coordinate: a scalar, or a vector of one to four components. -/
inductive Shape where
  | scalar | vec1 | vec2 | vec3 | vec4
  deriving DecidableEq, Repr

namespace Shape

def name : Shape → String
  | scalar => "Scalar" | vec1 => "Vec1" | vec2 => "Vec2" | vec3 => "Vec3" | vec4 => "Vec4"

def dimension : Shape → Nat
  | scalar | vec1 => 1
  | vec2 => 2
  | vec3 => 3
  | vec4 => 4

def vector? : Nat → Option Shape
  | 1 => some vec1
  | 2 => some vec2
  | 3 => some vec3
  | 4 => some vec4
  | _ => none

theorem vector?_eq_some {n : Nat} {s : Shape} (h : vector? n = some s) : s.dimension = n := by
  unfold vector? at h
  split at h <;> cases h <;> rfl

end Shape

structure CoordinateKind where
  shape : Shape
  element : ElementKind
  deriving DecidableEq, Repr

namespace CoordinateKind

def dimension (k : CoordinateKind) : Nat :=
  k.shape.dimension

def isVector (k : CoordinateKind) : Bool :=
  k.shape ≠ .scalar

def text (k : CoordinateKind) : String :=
  match k.shape with
  | .scalar => k.element.name
  | shape => s!"{k.element.name}x{shape.dimension}"

def families : List (String × ElementKind) :=
  [("char", .i8), ("uchar", .u8), ("short", .i16), ("ushort", .u16), ("int", .i32),
    ("uint", .u32), ("long", .i64), ("ulong", .u64), ("longlong", .i64), ("ulonglong", .u64),
    ("float", .f32), ("double", .f64)]

def family? (name : List Char) : Option (String × ElementKind) :=
  families.find? fun f => f.1.toList = name

def shape? (count : List Char) : Option Shape :=
  (Text.word? (String.ofList count)).bind Shape.vector?

/-- Where the last character starts, if that is a digit. -/
def digitPosition? (name : List Char) : Option Nat :=
  match (Text.positions 0 name).getLast? with
  | some (position, c) => if Text.isDigit c then some position else none
  | none => none

/-- Reads a name such as `uint3`; `dim3` names the three axes of a launch. -/
def ofTrimmed (name : List Char) : Outcome CoordinateKind := do
  let unreadable : Failure := .error (.unreadable "coordinate kind" (String.ofList name))
  if name = "dim3".toList then return ⟨.vec3, .u32⟩
  let some position := digitPosition? name | throw unreadable
  let (family, count) ← Text.cut name position
  let some shape := shape? count | throw unreadable
  let some entry := family? family | throw unreadable
  return ⟨shape, entry.2⟩

def ofName (name : String) : Outcome CoordinateKind :=
  ofTrimmed (Text.trimBlanks name.toList)

end CoordinateKind

end LaneGrid
