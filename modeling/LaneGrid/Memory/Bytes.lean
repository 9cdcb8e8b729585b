import Std.Data.TreeMap
import LaneGrid.Atomic

/-!
Byte-addressed memory. Every byte is zero until it is written, so only written bytes are kept;
`Bytes.get` is the view through which memories are compared.
-/

namespace LaneGrid

structure Bytes where
  written : Std.TreeMap Nat UInt8

namespace Bytes

def zeros : Bytes :=
  ⟨∅⟩

def get (b : Bytes) (i : Nat) : UInt8 :=
  b.written.getD i 0

def set (b : Bytes) (i : Nat) (x : UInt8) : Bytes :=
  ⟨b.written.insert i x⟩

@[simp] theorem get_zeros (i : Nat) : zeros.get i = 0 := by
  simp [zeros, get]

theorem get_set (b : Bytes) (i j : Nat) (x : UInt8) :
    (b.set i x).get j = if i = j then x else b.get j := by
  simp [get, set, Std.TreeMap.getD_insert]

@[simp] theorem get_set_self (b : Bytes) (i : Nat) (x : UInt8) : (b.set i x).get i = x := by
  simp [get_set]

theorem get_set_of_ne (b : Bytes) {i j : Nat} (x : UInt8) (h : i ≠ j) :
    (b.set i x).get j = b.get j := by
  simp [get_set, h]

/-- The number in `n` bytes from `offset` on, least significant byte first. -/
def loadNat (b : Bytes) (offset : Nat) : Nat → Nat
  | 0 => 0
  | n + 1 => (b.get offset).toNat + 256 * b.loadNat (offset + 1) n

def storeNat (b : Bytes) (offset : Nat) : Nat → Nat → Bytes
  | 0, _ => b
  | n + 1, v => (b.set offset (UInt8.ofNat v)).storeNat (offset + 1) n (v / 256)

def load (b : Bytes) (k : ElementKind) (offset : Nat) : Element k :=
  BitVec.ofNat k.bits (b.loadNat offset k.size)

def store (b : Bytes) {k : ElementKind} (offset : Nat) (x : Element k) : Bytes :=
  b.storeNat offset k.size x.toNat

def access (b : Bytes) {k : ElementKind} (offset : Nat) (a : Access k) :
    Except Fault (Element k × Bytes) := do
  let old := b.load k offset
  match a with
  | .load => return (old, b)
  | a => return (old, b.store offset (← a.result old))

def copyFrom (b : Bytes) (offset : Nat) (source : Bytes) (sourceOffset : Nat) : Nat → Bytes
  | 0 => b
  | n + 1 => (b.set offset (source.get sourceOffset)).copyFrom (offset + 1) source
      (sourceOffset + 1) n

def loadAll (b : Bytes) (k : ElementKind) (offset n : Nat) : List (Element k) :=
  (List.range n).map fun i => b.load k (offset + i * k.size)

def storeAll (b : Bytes) {k : ElementKind} (offset : Nat) : List (Element k) → Bytes
  | [] => b
  | x :: xs => (b.store offset x).storeAll (offset + k.size) xs

theorem get_storeNat_of_outside (b : Bytes) {offset n v i : Nat}
    (h : i < offset ∨ offset + n ≤ i) : (b.storeNat offset n v).get i = b.get i := by
  induction n generalizing b offset v with
  | zero => rfl
  | succ n ih =>
      rw [storeNat, ih _ (by omega), get_set_of_ne _ _ (by omega)]

theorem loadNat_congr {b c : Bytes} {offset n : Nat}
    (h : ∀ i, offset ≤ i → i < offset + n → b.get i = c.get i) :
    b.loadNat offset n = c.loadNat offset n := by
  induction n generalizing offset with
  | zero => rfl
  | succ n ih =>
      rw [loadNat, loadNat, h offset (by omega) (by omega),
        ih fun i hl hu => h i (by omega) (by omega)]

theorem loadNat_storeNat (b : Bytes) (offset n v : Nat) :
    (b.storeNat offset n v).loadNat offset n = v % Nat.pow 256 n := by
  induction n generalizing b offset v with
  | zero => simp [loadNat, Nat.mod_one]
  | succ n ih =>
      rw [loadNat, storeNat, ih, get_storeNat_of_outside _ (by omega), get_set_self,
        UInt8.toNat_ofNat']
      exact (Nat.pow_succ' ▸ Nat.mod_mul).symm

/-- An element reads back as it was written. -/
@[simp] theorem load_store (b : Bytes) {k : ElementKind} (offset : Nat) (x : Element k) :
    (b.store offset x).load k offset = x := by
  have hx : x.toNat < Nat.pow 256 k.size :=
    Nat.lt_of_lt_of_eq x.isLt (Nat.pow_mul 2 8 k.size)
  rw [load, store, loadNat_storeNat, Nat.mod_eq_of_lt hx, BitVec.ofNat_toNat,
    BitVec.setWidth_eq]

/-- Writing an element leaves every byte outside it alone. -/
theorem get_store_of_outside (b : Bytes) {k : ElementKind} {offset i : Nat} (x : Element k)
    (h : i < offset ∨ offset + k.size ≤ i) : (b.store offset x).get i = b.get i :=
  get_storeNat_of_outside b h

/-- Elements that share no byte do not see each other's writes. -/
theorem load_store_of_disjoint (b : Bytes) {k m : ElementKind} {offset place : Nat}
    (x : Element k) (h : place + m.size ≤ offset ∨ offset + k.size ≤ place) :
    (b.store offset x).load m place = b.load m place := by
  simp only [load]
  rw [loadNat_congr fun i _ _ => get_store_of_outside b x (by omega)]

end Bytes

end LaneGrid
