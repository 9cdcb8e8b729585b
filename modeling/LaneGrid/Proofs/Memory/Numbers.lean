import Mathlib
import LaneGrid.Atomic

namespace LaneGrid

namespace ElementKind

/-- The least number of the type. -/
def least (k : ElementKind) : Int :=
  if k.isSigned then -2 ^ (k.bits - 1) else 0

end ElementKind

namespace Element

variable {k : ElementKind} {x y : Element k}

theorem toInt_injective (h : x.toInt = y.toInt) : x = y := by
  rw [toInt, toInt] at h
  split at h
  · exact BitVec.toInt_inj.mp h
  · exact BitVec.toNat_inj.mp (Int.ofNat_inj.mp h)

theorem toInt_zero : toInt (0 : Element k) = 0 := by
  rw [toInt]
  split <;> simp

theorem least_le_toInt (x : Element k) : k.least ≤ x.toInt := by
  rw [toInt, ElementKind.least]
  split
  · exact BitVec.le_toInt x
  · exact Int.natCast_nonneg _

theorem toInt_lt (x : Element k) : x.toInt < k.least + 2 ^ k.bits := by
  rw [toInt, ElementKind.least]
  split
  · have hhalf : (2 : Int) ^ k.bits = 2 ^ (k.bits - 1) + 2 ^ (k.bits - 1) := by
      rw [← Int.two_mul, ← Int.pow_succ', Nat.sub_add_cancel k.bits_pos]
    have hlt := BitVec.toInt_lt (x := x)
    omega
  · rw [Int.zero_add]
    exact_mod_cast BitVec.isLt x

theorem toInt_modEq (x : Element k) : x.toInt ≡ BitVec.toNat x [ZMOD 2 ^ k.bits] := by
  rw [toInt]
  split
  · rw [BitVec.toInt_eq_toNat_bmod]
    exact_mod_cast Int.bmod_emod
  · rfl

theorem toInt_add_modEq (x y : Element k) :
    toInt (x + y) ≡ x.toInt + y.toInt [ZMOD 2 ^ k.bits] := by
  refine (toInt_modEq _).trans (Int.ModEq.trans ?_ (x.toInt_modEq.add y.toInt_modEq).symm)
  rw [BitVec.toNat_add]
  push_cast
  exact Int.mod_modEq _ _

theorem toInt_sub_modEq (x y : Element k) :
    toInt (x - y) ≡ x.toInt - y.toInt [ZMOD 2 ^ k.bits] := by
  have hsum := toInt_add_modEq (x - y) y
  rw [BitVec.sub_add_cancel] at hsum
  have hdifference := (hsum.sub (Int.ModEq.refl y.toInt)).symm
  rwa [Int.add_sub_cancel] at hdifference

theorem toInt_one : toInt (1 : Element k) = 1 := by
  cases k <;> rfl

theorem toInt_eq_of_modEq {v : Int} (h : x.toInt ≡ v [ZMOD 2 ^ k.bits]) (hle : k.least ≤ v)
    (hlt : v < k.least + 2 ^ k.bits) : x.toInt = v := by
  have hx := x.least_le_toInt
  have hx' := x.toInt_lt
  refine Int.eq_of_sub_eq_zero (Int.eq_zero_of_abs_lt_dvd h.symm.dvd ?_)
  rw [abs_lt]
  constructor <;> omega

theorem eq_ofInt_of_modEq {v : Int} (h : x.toInt ≡ v [ZMOD 2 ^ k.bits]) : x = ofInt k v := by
  have hnat : (BitVec.toNat x : Int) % 2 ^ k.bits = v % 2 ^ k.bits := x.toInt_modEq.symm.trans h
  have hlt : (BitVec.toNat x : Int) < 2 ^ k.bits := by exact_mod_cast BitVec.isLt x
  rw [Int.emod_eq_of_lt (Int.natCast_nonneg _) hlt] at hnat
  refine BitVec.eq_of_toNat_eq ?_
  rw [ofInt, BitVec.toNat_ofInt]
  push_cast
  rw [← hnat, Int.toNat_natCast]

theorem eq_ofInt {v : Int} (h : x.toInt = v) : x = ofInt k v :=
  eq_ofInt_of_modEq (h ▸ Int.ModEq.refl _)

end Element

namespace AtomicOp

theorem below_eq {k : ElementKind} (x y : Element k) :
    below k.isSigned x y = decide (x.toInt < y.toInt) := by
  rw [below, Element.toInt, Element.toInt]
  split
  · rfl
  · rw [BitVec.ult]
    simp

/-- The value that an operation stores where `old` was, told through the numbers of the type:
sums and differences up to whole turns, everything else exactly. -/
def Stores {k : ElementKind} (op : AtomicOp) (old operand new : Element k) : Prop :=
  match op with
  | add => new.toInt ≡ old.toInt + operand.toInt [ZMOD 2 ^ k.bits]
  | sub => new.toInt ≡ old.toInt - operand.toInt [ZMOD 2 ^ k.bits]
  | min => new.toInt = Min.min old.toInt operand.toInt
  | max => new.toInt = Max.max old.toInt operand.toInt
  | exchange => new.toInt = operand.toInt
  | increment => new.toInt = if operand.toInt ≤ old.toInt then 0 else old.toInt + 1
  | decrement =>
      new.toInt = if old.toInt = 0 ∨ operand.toInt < old.toInt then operand.toInt
        else old.toInt - 1
  | and => ∀ i, new.getLsbD i = (old.getLsbD i && operand.getLsbD i)
  | or => ∀ i, new.getLsbD i = (old.getLsbD i || operand.getLsbD i)
  | xor => ∀ i, new.getLsbD i = (old.getLsbD i ^^ operand.getLsbD i)

/-- Counting down from the least number of a signed type, for which no number is left. -/
def Underflows {k : ElementKind} (op : AtomicOp) (old : Element k) : Prop :=
  op = decrement ∧ k.isSigned = true ∧ old.toInt = k.least

instance {k : ElementKind} (op : AtomicOp) (old : Element k) : Decidable (op.Underflows old) :=
  inferInstanceAs (Decidable (_ ∧ _ ∧ _))

variable {k : ElementKind} {op : AtomicOp} {old operand : Element k}

theorem toInt_intMin (hsigned : k.isSigned = true) :
    Element.toInt (k := k) (BitVec.intMin k.bits) = k.least := by
  rw [Element.toInt, if_pos hsigned, BitVec.toInt_intMin_of_pos k.bits_pos, ElementKind.least,
    if_pos hsigned]

theorem least_neg (hsigned : k.isSigned = true) : k.least < 0 := by
  rw [ElementKind.least, if_pos hsigned]
  exact Int.neg_neg_of_pos (Int.pow_pos (by decide))

theorem restarts_iff : (decide (old = 0) || below k.isSigned operand old) = true ↔
    old.toInt = 0 ∨ operand.toInt < old.toInt := by
  have hzero : old = 0 ↔ old.toInt = 0 := by
    rw [← Element.toInt_zero (k := k)]
    exact ⟨congrArg Element.toInt, Element.toInt_injective⟩
  rw [Bool.or_eq_true, decide_eq_true_iff, hzero, below_eq, decide_eq_true_iff]

theorem not_restarts_of_least (hsigned : k.isSigned = true) (hleast : old.toInt = k.least) :
    ¬ (old.toInt = 0 ∨ operand.toInt < old.toInt) := by
  have hneg := least_neg hsigned
  have hoperand := operand.least_le_toInt
  omega

theorem ne_least (hzero : old.toInt ≠ 0) (h : ¬ decrement.Underflows old) :
    old.toInt ≠ k.least := by
  intro hleast
  by_cases hsigned : k.isSigned = true
  · exact h ⟨rfl, hsigned, hleast⟩
  · rw [ElementKind.least, if_neg hsigned] at hleast
    exact hzero hleast

theorem apply_of_underflows (h : op.Underflows old) :
    op.apply k.isSigned old operand = .error .subOverflow := by
  obtain ⟨rfl, hsigned, hleast⟩ := h
  have hold : old = BitVec.intMin k.bits :=
    Element.toInt_injective (hleast.trans (toInt_intMin hsigned).symm)
  have hrestarts : ¬ (decide (old = 0) || below k.isSigned operand old) = true :=
    restarts_iff.not.mpr (not_restarts_of_least hsigned hleast)
  rw [apply, if_neg hrestarts, predecessor, hsigned, hold, Bool.true_and, beq_self_eq_true]
  rfl

theorem predecessor_eq_ok (h : ¬ decrement.Underflows old) :
    predecessor k.isSigned old = .ok (old - 1) := by
  rw [predecessor, if_neg]
  rw [Bool.and_eq_true, beq_iff_eq]
  rintro ⟨hsigned, rfl⟩
  exact h ⟨rfl, hsigned, toInt_intMin hsigned⟩

theorem toInt_min (old operand : Element k) :
    Element.toInt (if below k.isSigned operand old = true then operand else old) =
      Min.min old.toInt operand.toInt := by
  rw [below_eq]
  by_cases hlt : operand.toInt < old.toInt
  · rw [if_pos (decide_eq_true hlt), Int.min_eq_right (Int.le_of_lt hlt)]
  · rw [if_neg (by simpa using hlt), Int.min_eq_left (Int.not_lt.mp hlt)]

theorem toInt_max (old operand : Element k) :
    Element.toInt (if below k.isSigned old operand = true then operand else old) =
      Max.max old.toInt operand.toInt := by
  rw [below_eq]
  by_cases hlt : old.toInt < operand.toInt
  · rw [if_pos (decide_eq_true hlt), Int.max_eq_right (Int.le_of_lt hlt)]
  · rw [if_neg (by simpa using hlt), Int.max_eq_left (Int.not_lt.mp hlt)]

theorem toInt_succ (h : old.toInt < operand.toInt) : Element.toInt (old + 1) = old.toInt + 1 := by
  have hsum := Element.toInt_add_modEq old 1
  rw [Element.toInt_one] at hsum
  have hold := old.least_le_toInt
  have hoperand := operand.toInt_lt
  exact Element.toInt_eq_of_modEq hsum (by omega) (by omega)

theorem toInt_pred (hzero : old.toInt ≠ 0) (h : ¬ decrement.Underflows old) :
    Element.toInt (old - 1) = old.toInt - 1 := by
  have hdifference := Element.toInt_sub_modEq old 1
  rw [Element.toInt_one] at hdifference
  have hlt := old.toInt_lt
  have hle : k.least ≤ old.toInt - 1 := by
    have hold := old.least_le_toInt
    have hne := ne_least hzero h
    omega
  exact Element.toInt_eq_of_modEq hdifference hle (by omega)

theorem exists_apply (operand : Element k) (h : ¬ op.Underflows old) :
    ∃ new, op.apply k.isSigned old operand = .ok new ∧ op.Stores old operand new := by
  cases op with
  | add => exact ⟨_, rfl, Element.toInt_add_modEq old operand⟩
  | sub => exact ⟨_, rfl, Element.toInt_sub_modEq old operand⟩
  | min => exact ⟨_, rfl, toInt_min old operand⟩
  | max => exact ⟨_, rfl, toInt_max old operand⟩
  | exchange => exact ⟨_, rfl, rfl⟩
  | increment =>
      refine ⟨_, rfl, ?_⟩
      rw [Stores, below_eq]
      by_cases hlt : old.toInt < operand.toInt
      · rw [if_pos (decide_eq_true hlt), if_neg (Int.not_le.mpr hlt), toInt_succ hlt]
      · rw [if_neg (by simpa using hlt), if_pos (Int.not_lt.mp hlt), Element.toInt_zero]
  | decrement =>
      by_cases hrestarts : old.toInt = 0 ∨ operand.toInt < old.toInt
      · refine ⟨operand, if_pos (restarts_iff.mpr hrestarts), ?_⟩
        rw [Stores, if_pos hrestarts]
      · refine ⟨old - 1, ?_, ?_⟩
        · rw [apply, if_neg (restarts_iff.not.mpr hrestarts), predecessor_eq_ok h]
        · rw [Stores, if_neg hrestarts, toInt_pred (fun hzero => hrestarts (.inl hzero)) h]
  | and => exact ⟨_, rfl, fun i => BitVec.getLsbD_and⟩
  | or => exact ⟨_, rfl, fun i => BitVec.getLsbD_or⟩
  | xor => exact ⟨_, rfl, fun i => BitVec.getLsbD_xor⟩

/-- The entry of a dense array after an operation on it, told through the numbers of the type: a sum
or a difference beyond the type is taken up to whole turns. Below the least number there is none,
and counting down from it faults. -/
def entry (op : AtomicOp) (old operand : Element k) : Except Fault (Element k) :=
  match op with
  | add => .ok (.ofInt k (old.toInt + operand.toInt))
  | sub => .ok (.ofInt k (old.toInt - operand.toInt))
  | min => .ok (.ofInt k (Min.min old.toInt operand.toInt))
  | max => .ok (.ofInt k (Max.max old.toInt operand.toInt))
  | exchange => .ok operand
  | increment => .ok (.ofInt k (if operand.toInt ≤ old.toInt then 0 else old.toInt + 1))
  | decrement =>
      if old.toInt = 0 ∨ operand.toInt < old.toInt then .ok operand
      else if old.toInt = k.least then .error .subOverflow
      else .ok (.ofInt k (old.toInt - 1))
  | and => .ok (.ofFnLE fun i => old.getLsbD i && operand.getLsbD i)
  | or => .ok (.ofFnLE fun i => old.getLsbD i || operand.getLsbD i)
  | xor => .ok (.ofFnLE fun i => old.getLsbD i ^^ operand.getLsbD i)

theorem eq_ofFnLE {new : Element k} {f : Nat → Bool} (h : ∀ i, new.getLsbD i = f i) :
    new = .ofFnLE fun i : Fin k.bits => f i := by
  refine BitVec.eq_of_getLsbD_eq fun i hi => ?_
  rw [h i, BitVec.getLsbD_ofFnLE, dif_pos hi]

theorem entry_of_underflows (h : op.Underflows old) :
    op.entry old operand = .error .subOverflow := by
  obtain ⟨rfl, hsigned, hleast⟩ := h
  rw [entry, if_neg (not_restarts_of_least hsigned hleast), if_pos hleast]

theorem entry_of_stores {new : Element k} (h : ¬ op.Underflows old)
    (hstores : op.Stores old operand new) : op.entry old operand = .ok new := by
  cases op with
  | add | sub => exact congrArg Except.ok (Element.eq_ofInt_of_modEq hstores).symm
  | min | max | increment => exact congrArg Except.ok (Element.eq_ofInt hstores).symm
  | exchange => exact congrArg Except.ok (Element.toInt_injective hstores).symm
  | decrement =>
      rw [Stores] at hstores
      rw [entry]
      split at hstores
      · rename_i hrestarts
        rw [if_pos hrestarts, Element.toInt_injective hstores]
      · rename_i hrestarts
        have hne := ne_least (fun hzero => hrestarts (.inl hzero)) h
        rw [if_neg hrestarts, if_neg hne, ← Element.eq_ofInt hstores]
  | and | or | xor => exact congrArg Except.ok (eq_ofFnLE hstores).symm

theorem apply_eq_entry (op : AtomicOp) (old operand : Element k) :
    op.apply k.isSigned old operand = op.entry old operand := by
  by_cases h : op.Underflows old
  · rw [apply_of_underflows h, entry_of_underflows h]
  · obtain ⟨new, happly, hstores⟩ := exists_apply operand h
    rw [happly, entry_of_stores h hstores]

end AtomicOp

/-- The entry of a dense array after an access to it. -/
def Access.entry {k : ElementKind} (old : Element k) : Access k → Except Fault (Element k)
  | .load => .ok old
  | .store value => .ok value
  | .update op operand => op.entry old operand
  | .swapIf current new => .ok (if old.toInt = current.toInt then new else old)

theorem Access.result_eq_entry {k : ElementKind} (a : Access k) (old : Element k) :
    a.result old = a.entry old := by
  cases a with
  | load | store => rfl
  | update op operand => exact op.apply_eq_entry old operand
  | swapIf current new =>
      have hsame : old = current ↔ old.toInt = current.toInt :=
        ⟨congrArg Element.toInt, Element.toInt_injective⟩
      rw [result, entry, if_congr hsame rfl rfl]

end LaneGrid
