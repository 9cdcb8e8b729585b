import Mathlib.Data.List.Forall2
import LaneGrid.Arithmetic

namespace LaneGrid

section

variable {ε α β : Type}

@[simp] theorem ok_bind (a : α) (f : α → Except ε β) : (Except.ok a >>= f) = f a := rfl

@[simp] theorem error_bind (e : ε) (f : α → Except ε β) :
    ((Except.error e : Except ε α) >>= f) = .error e := rfl

theorem pure_eq_ok (a : α) : (pure a : Except ε α) = .ok a := rfl

theorem bind_eq_ok {x : Except ε α} {f : α → Except ε β} {b : β} :
    (x >>= f) = .ok b ↔ ∃ a, x = .ok a ∧ f a = .ok b := by
  cases x with
  | error e => simp
  | ok a => simp

theorem exists_error_iff {x : Except ε α} : (∃ e, x = .error e) ↔ ¬ ∃ a, x = .ok a := by
  cases x with
  | error e => simp
  | ok a => simp

theorem map_eq_ok {x : Except ε α} {f : α → β} {b : β} :
    f <$> x = .ok b ↔ ∃ a, x = .ok a ∧ f a = b := by
  cases x with
  | error e => exact ⟨nofun, nofun⟩
  | ok a =>
      constructor
      · intro h
        exact ⟨a, rfl, Except.ok.inj h⟩
      · rintro ⟨c, hc, rfl⟩
        cases hc
        rfl

theorem forall₂_of_mapM_eq_ok {xs : List α} {f : α → Except ε β} {ys : List β}
    (h : xs.mapM f = .ok ys) : List.Forall₂ (fun x y => f x = .ok y) xs ys := by
  induction xs generalizing ys with
  | nil =>
      cases h
      exact .nil
  | cons x xs ih =>
      rw [List.mapM_cons, bind_eq_ok] at h
      obtain ⟨y, hy, h⟩ := h
      obtain ⟨rest, hrest, h⟩ := bind_eq_ok.mp h
      cases h
      exact .cons hy (ih hrest)

theorem exists_mapM_eq_ok {xs : List α} {f : α → Except ε β} (h : ∀ x ∈ xs, ∃ y, f x = .ok y) :
    ∃ ys, xs.mapM f = .ok ys := by
  induction xs with
  | nil => exact ⟨[], rfl⟩
  | cons x xs ih =>
      obtain ⟨y, hy⟩ := h x List.mem_cons_self
      obtain ⟨ys, hys⟩ := ih fun z hz => h z (List.mem_cons_of_mem x hz)
      exact ⟨y :: ys, by rw [List.mapM_cons, hy, hys]; rfl⟩

theorem mapM_eq_ok {xs : List α} {f : α → Except ε β} {g : α → β}
    (h : ∀ x ∈ xs, f x = .ok (g x)) : xs.mapM f = .ok (xs.map g) := by
  induction xs with
  | nil => rfl
  | cons x xs ih =>
      rw [List.mapM_cons, h x (by simp), ih fun y hy => h y (by simp [hy])]
      rfl

end

section

variable {α : Type}

@[simp] theorem lift_ok (a : α) :
    (liftM (Except.ok a : Except Fault α) : Outcome α) = .ok a := rfl

@[simp] theorem liftError_ok (a : α) :
    (liftM (Except.ok a : Except Error α) : Outcome α) = .ok a := rfl

@[simp] theorem lift_fault (f : Fault) :
    (liftM (Except.error f : Except Fault α) : Outcome α) = .error (.fault f) := rfl

theorem liftFault_eq_ok {x : Except Fault α} {a : α} :
    (liftM x : Outcome α) = .ok a ↔ x = .ok a := by
  cases x with
  | error f => exact ⟨nofun, nofun⟩
  | ok b => exact ⟨fun h => congrArg _ (Except.ok.inj h), fun h => congrArg _ (Except.ok.inj h)⟩

theorem liftError_eq_ok {x : Except Error α} {a : α} :
    (liftM x : Outcome α) = .ok a ↔ x = .ok a := by
  cases x with
  | error f => exact ⟨nofun, nofun⟩
  | ok b => exact ⟨fun h => congrArg _ (Except.ok.inj h), fun h => congrArg _ (Except.ok.inj h)⟩

end

theorem word_add {a b : Nat} (h : a + b ≤ wordMax) : wordArithmetic.add a b = .ok (a + b) :=
  keepWord_eq_ok.mpr ⟨h, rfl⟩

theorem word_mul {a b : Nat} (h : a * b ≤ wordMax) : wordArithmetic.mul a b = .ok (a * b) :=
  keepWord_eq_ok.mpr ⟨h, rfl⟩

theorem word_div {a b : Nat} (h : b ≠ 0) : wordArithmetic.div a b = .ok (a / b) := if_neg h

theorem word_rem {a b : Nat} (h : b ≠ 0) : wordArithmetic.rem a b = .ok (a % b) := if_neg h

theorem word_mul_eq_ok {a b c : Nat} :
    wordArithmetic.mul a b = .ok c ↔ a * b ≤ wordMax ∧ a * b = c :=
  keepWord_eq_ok

end LaneGrid
