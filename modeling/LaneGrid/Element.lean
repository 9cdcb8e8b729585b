namespace LaneGrid

inductive ElementKind where
  | i8 | i16 | i32 | i64 | u8 | u16 | u32 | u64 | f32 | f64
  deriving DecidableEq, Repr

namespace ElementKind

def all : List ElementKind :=
  [i8, i16, i32, i64, u8, u16, u32, u64, f32, f64]

def name : ElementKind → String
  | i8 => "i8" | i16 => "i16" | i32 => "i32" | i64 => "i64"
  | u8 => "u8" | u16 => "u16" | u32 => "u32" | u64 => "u64"
  | f32 => "f32" | f64 => "f64"

def title : ElementKind → String
  | i8 => "I8" | i16 => "I16" | i32 => "I32" | i64 => "I64"
  | u8 => "U8" | u16 => "U16" | u32 => "U32" | u64 => "U64"
  | f32 => "F32" | f64 => "F64"

def size : ElementKind → Nat
  | i8 | u8 => 1
  | i16 | u16 => 2
  | i32 | u32 | f32 => 4
  | i64 | u64 | f64 => 8

def isFloat : ElementKind → Bool
  | f32 | f64 => true
  | _ => false

def isSigned : ElementKind → Bool
  | u8 | u16 | u32 | u64 => false
  | _ => true

def bits (k : ElementKind) : Nat :=
  8 * k.size

theorem size_pos (k : ElementKind) : 0 < k.size := by
  cases k <;> decide

theorem bits_pos (k : ElementKind) : 0 < k.bits := by
  cases k <;> decide

end ElementKind

/-- The content of one element: its bit pattern. Floating-point values are moved as patterns
and never computed with. -/
abbrev Element (k : ElementKind) :=
  BitVec k.bits

namespace Element

variable {k : ElementKind}

def ofInt (k : ElementKind) (v : Int) : Element k :=
  BitVec.ofInt k.bits v

def toInt (x : Element k) : Int :=
  if k.isSigned then BitVec.toInt x else BitVec.toNat x

/-- Whether the pattern is a floating-point value that differs from itself. -/
def isNaN (x : Element k) : Bool :=
  match k with
  | .f32 => 0x7f800000 < x.toNat % 0x80000000
  | .f64 => 0x7ff0000000000000 < x.toNat % 0x8000000000000000
  | _ => false

/-- Equality of values: as patterns, except that a value which differs from itself equals
nothing and the two zeros are equal. -/
def same (x y : Element k) : Bool :=
  !isNaN x && !isNaN y && (x == y || (k.isFloat && x <<< 1 == 0 && y <<< 1 == 0))

/-- Widens a pattern to 64 bits: signed integers keep their value, the rest their bits. -/
def widen (x : Element k) : BitVec 64 :=
  if k.isSigned && !k.isFloat then x.signExtend 64 else x.zeroExtend 64

end Element

def onesCount {w : Nat} (x : BitVec w) : Nat :=
  (List.range w).countP x.getLsbD

/-- The place of the lowest set bit, counted from one; zero when no bit is set. -/
def lowestOne {w : Nat} (x : BitVec w) : Nat :=
  match (List.range w).find? x.getLsbD with
  | some i => i + 1
  | none => 0

end LaneGrid
