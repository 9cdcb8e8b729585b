import Mathlib.Logic.Function.Basic
import LaneGrid.Block.Team
import LaneGrid.Proofs.Outcome

namespace LaneGrid

/-- The bytes of an element that starts at a place. -/
def Place.Covers (p : Place) (k : ElementKind) (q : Place) : Prop :=
  q.space = p.space ∧ p.offset ≤ q.offset ∧ q.offset < p.offset + k.size

instance (p : Place) (k : ElementKind) (q : Place) : Decidable (p.Covers k q) :=
  inferInstanceAs (Decidable (_ ∧ _))

/-- Whether an access may change memory. -/
def Access.writes {k : ElementKind} : Access k → Bool
  | .load => false
  | _ => true

abbrev Contents := Place → UInt8

namespace Contents

def loadNat (c : Contents) (p : Place) : Nat → Nat
  | 0 => 0
  | n + 1 => (c p).toNat + 256 * c.loadNat ⟨p.space, p.offset + 1⟩ n

def storeNat (c : Contents) (p : Place) : Nat → Nat → Contents
  | 0, _ => c
  | n + 1, v =>
    storeNat (Function.update c p (UInt8.ofNat v)) ⟨p.space, p.offset + 1⟩ n (v / 256)

def load (c : Contents) (k : ElementKind) (p : Place) : Element k :=
  BitVec.ofNat k.bits (c.loadNat p k.size)

def store (c : Contents) {k : ElementKind} (p : Place) (x : Element k) : Contents :=
  c.storeNat p k.size x.toNat

def touch (c : Contents) {k : ElementKind} (p : Place) (a : Access k) :
    Except Fault (Element k × Contents) := do
  let old := c.load k p
  match a with
  | .load => return (old, c)
  | a => return (old, c.store p (← a.result old))

/-- An access where there are `reach` buffers. -/
def access (c : Contents) (reach : Nat) {k : ElementKind} (p : Place) (a : Access k) :
    Except Fault (Element k × Contents) :=
  match p.space with
  | .shared => c.touch p a
  | .buffer i => if i < reach then c.touch p a else .error (.outOfBounds reach i)

theorem loadNat_congr {c c' : Contents} {p : Place} {n : Nat}
    (h : ∀ q : Place, q.space = p.space → p.offset ≤ q.offset → q.offset < p.offset + n →
      c q = c' q) : c.loadNat p n = c'.loadNat p n := by
  induction n generalizing p with
  | zero => rfl
  | succ n ih =>
      rw [loadNat, loadNat, h p rfl (Nat.le_refl _) (by omega)]
      have hrest : c.loadNat ⟨p.space, p.offset + 1⟩ n = c'.loadNat ⟨p.space, p.offset + 1⟩ n := by
        refine ih fun q hspace hle hlt => h q hspace (Nat.le_of_succ_le hle) ?_
        dsimp only at hlt
        omega
      rw [hrest]

theorem storeNat_of_outside {c : Contents} {p q : Place} {n v : Nat}
    (h : ¬(q.space = p.space ∧ p.offset ≤ q.offset ∧ q.offset < p.offset + n)) :
    c.storeNat p n v q = c q := by
  induction n generalizing c p v with
  | zero => rfl
  | succ n ih =>
      rw [storeNat, ih]
      · refine Function.update_of_ne ?_ _ _
        rintro rfl
        exact h ⟨rfl, Nat.le_refl _, by omega⟩
      · rintro ⟨hspace, hle, hlt⟩
        refine h ⟨hspace, Nat.le_of_succ_le hle, ?_⟩
        dsimp only at hlt
        omega

theorem storeNat_congr {c c' : Contents} {p q : Place} {n v : Nat}
    (h : c q = c' q ∨ q.space = p.space ∧ p.offset ≤ q.offset ∧ q.offset < p.offset + n) :
    c.storeNat p n v q = c'.storeNat p n v q := by
  induction n generalizing c c' p v with
  | zero =>
      rcases h with h | ⟨-, hle, hlt⟩
      · exact h
      · omega
  | succ n ih =>
      rw [storeNat, storeNat]
      by_cases hq : q = p
      · refine ih (.inl ?_)
        rw [hq, Function.update_self, Function.update_self]
      · refine ih ?_
        rw [Function.update_of_ne hq, Function.update_of_ne hq]
        refine h.imp id fun ⟨hspace, hle, hlt⟩ => ⟨hspace, ?_, ?_⟩
        · refine Nat.lt_of_le_of_ne hle fun heq => hq ?_
          cases p
          cases q
          simp_all
        · dsimp only
          omega

variable {k : ElementKind} {c c' : Contents} {p : Place}

theorem touch_congr (h : ∀ q, p.Covers k q → c q = c' q) (a : Access k) :
    (∀ f, c.touch p a = .error f → c'.touch p a = .error f) ∧
      ∀ x d, c.touch p a = .ok (x, d) → ∃ d', c'.touch p a = .ok (x, d') ∧
        ∀ q, (c q = c' q → d q = d' q) ∧ (a.writes = true → p.Covers k q → d q = d' q) := by
  have hload : c.load k p = c'.load k p :=
    congrArg _ (loadNat_congr fun q hspace hle hlt => h q ⟨hspace, hle, hlt⟩)
  have hstore (x : Element k) (q : Place) (hq : c q = c' q ∨ p.Covers k q) :
      c.store p x q = c'.store p x q := storeNat_congr hq
  cases a with
  | load =>
      refine ⟨nofun, fun x d hd => ?_⟩
      obtain ⟨rfl, rfl⟩ := Prod.mk.inj (Except.ok.inj hd)
      refine ⟨c', ?_, fun q => ⟨id, nofun⟩⟩
      rw [hload]
      rfl
  | store | update | swapIf =>
      simp only [touch, ← hload]
      refine ⟨fun f hf => ?_, fun x d hd => ?_⟩
      · revert hf
        cases Access.result (c.load k p) _ with
        | error => exact id
        | ok => exact nofun
      · obtain ⟨y, hy, hd⟩ := bind_eq_ok.mp hd
        obtain ⟨rfl, rfl⟩ := Prod.mk.inj (Except.ok.inj hd)
        rw [hy]
        exact ⟨_, rfl, fun q => ⟨fun hq => hstore y q (.inl hq), fun _ hq => hstore y q (.inr hq)⟩⟩

theorem access_congr (h : ∀ q, p.Covers k q → c q = c' q) (reach : Nat) (a : Access k) :
    (∀ f, c.access reach p a = .error f → c'.access reach p a = .error f) ∧
      ∀ x d, c.access reach p a = .ok (x, d) → ∃ d', c'.access reach p a = .ok (x, d') ∧
        ∀ q, (c q = c' q → d q = d' q) ∧ (a.writes = true → p.Covers k q → d q = d' q) := by
  rw [access, access]
  split
  · exact touch_congr h a
  · split
    · exact touch_congr h a
    · exact ⟨fun _ => id, nofun⟩

theorem touch_frame {a : Access k} {x : Element k} {d : Contents} (h : c.touch p a = .ok (x, d))
    {q : Place} (hq : ¬(a.writes = true ∧ p.Covers k q)) : d q = c q := by
  cases a with
  | load =>
      obtain ⟨-, rfl⟩ := Prod.mk.inj (Except.ok.inj h)
      rfl
  | store | update | swapIf =>
      obtain ⟨y, -, h⟩ := bind_eq_ok.mp h
      obtain ⟨-, rfl⟩ := Prod.mk.inj (Except.ok.inj h)
      exact storeNat_of_outside fun hcovers => hq ⟨rfl, hcovers⟩

theorem access_frame {reach : Nat} {a : Access k} {x : Element k} {d : Contents}
    (h : c.access reach p a = .ok (x, d)) {q : Place}
    (hq : ¬(a.writes = true ∧ p.Covers k q)) : d q = c q := by
  rw [access] at h
  split at h
  · exact touch_frame h hq
  · split at h
    · exact touch_frame h hq
    · cases h

end Contents

namespace Memory

def part? (m : Memory) : Space → Option Bytes
  | .shared => some m.shared
  | .buffer i => m.buffers[i]?

def setPart (m : Memory) (s : Space) (b : Bytes) : Memory :=
  match s with
  | .shared => { m with shared := b }
  | .buffer i => { m with buffers := m.buffers.setIfInBounds i b }

/-- The byte at every place. Where there is no buffer, there is nothing to read. -/
def contents (m : Memory) : Contents := fun p =>
  match m.part? p.space with
  | some b => b.get p.offset
  | none => 0

variable {m : Memory} {s : Space} {b : Bytes}

theorem contents_setPart (h : (m.part? s).isSome) (b : Bytes) (q : Place) :
    (m.setPart s b).contents q = if q.space = s then b.get q.offset else m.contents q := by
  rcases q with ⟨space, offset⟩
  cases s with
  | shared => cases space <;> simp [contents, part?, setPart]
  | buffer i =>
      cases space with
      | shared => simp [contents, part?, setPart]
      | buffer j =>
          have hi : i < m.buffers.size := by simpa [part?] using h
          by_cases hj : j = i
          · subst hj
            simp [contents, part?, setPart, hi]
          · simp [contents, part?, setPart, hj, Ne.symm hj]

theorem contents_of_part? (h : m.part? s = some b) (offset : Nat) :
    m.contents ⟨s, offset⟩ = b.get offset := by
  rw [contents, h]

theorem loadNat_contents (h : m.part? s = some b) (offset n : Nat) :
    m.contents.loadNat ⟨s, offset⟩ n = b.loadNat offset n := by
  induction n generalizing offset with
  | zero => rfl
  | succ n ih => rw [Contents.loadNat, Bytes.loadNat, contents_of_part? h, ih]

theorem contents_storeNat (h : (m.part? s).isSome) (b : Bytes) (offset n v : Nat) :
    (m.setPart s (b.storeNat offset n v)).contents =
      (m.setPart s b).contents.storeNat ⟨s, offset⟩ n v := by
  induction n generalizing b offset v with
  | zero => rfl
  | succ n ih =>
      rw [Bytes.storeNat, Contents.storeNat, ih]
      refine congrArg (Contents.storeNat · _ n _) (funext fun q => ?_)
      rw [contents_setPart h, Function.update_apply, contents_setPart h, Bytes.get_set]
      rcases q with ⟨space, place⟩
      by_cases hspace : space = s
      · by_cases hplace : offset = place
        · simp [hspace, hplace]
        · simp [hspace, hplace, Ne.symm hplace]
      · simp [hspace]

theorem contents_setPart_self (h : m.part? s = some b) :
    (m.setPart s b).contents = m.contents := by
  funext q
  rw [contents_setPart (Option.isSome_of_eq_some h)]
  split
  · rename_i hspace
    rcases q with ⟨space, offset⟩
    obtain rfl : space = s := hspace
    exact (contents_of_part? h offset).symm
  · rfl

theorem touch_contents {k : ElementKind} {p : Place} (h : m.part? p.space = some b)
    (a : Access k) : (b.access p.offset a).map (fun r => (r.1, (m.setPart p.space r.2).contents)) =
      m.contents.touch p a := by
  have hload : m.contents.load k p = b.load k p.offset :=
    congrArg _ (loadNat_contents h p.offset k.size)
  have hstore (x : Element k) :
      (m.setPart p.space (b.store p.offset x)).contents = m.contents.store p x := by
    rw [Bytes.store, contents_storeNat (Option.isSome_of_eq_some h), contents_setPart_self h]
    rfl
  cases a with
  | load =>
      simp only [Bytes.access, Contents.touch, hload]
      exact congrArg (fun c => Except.ok (b.load k p.offset, c)) (contents_setPart_self h)
  | store | update | swapIf =>
      simp only [Bytes.access, Contents.touch, hload]
      cases Access.result (b.load k p.offset) _ with
      | error => rfl
      | ok y => exact congrArg (fun c => Except.ok (b.load k p.offset, c)) (hstore y)

theorem access_contents (m : Memory) {k : ElementKind} (p : Place) (a : Access k) :
    (m.access p a).map (fun r => (r.1, r.2.contents)) =
      m.contents.access m.buffers.size p a := by
  rcases hspace : p.space with _ | i
  · have hpart : m.part? p.space = some m.shared := by rw [hspace]; rfl
    rw [Memory.access, Contents.access, hspace, ← touch_contents hpart, hspace]
    dsimp only
    cases m.shared.access p.offset a <;> rfl
  · rw [Memory.access, Contents.access, hspace]
    dsimp only
    rcases hbuffer : m.buffers[i]? with _ | b
    · rw [if_neg (Nat.not_lt.mpr (Array.getElem?_eq_none_iff.mp hbuffer))]
      rfl
    · have hpart : m.part? p.space = some b := by rw [hspace]; exact hbuffer
      rw [if_pos (Array.getElem?_eq_some_iff.mp hbuffer).1, ← touch_contents hpart, hspace]
      dsimp only
      cases b.access p.offset a <;> rfl

theorem size_of_access {k : ElementKind} {p : Place} {a : Access k} {x : Element k} {m' : Memory}
    (h : m.access p a = .ok (x, m')) : m'.buffers.size = m.buffers.size := by
  rw [Memory.access] at h
  split at h
  · obtain ⟨r, -, h⟩ := bind_eq_ok.mp h
    obtain ⟨-, rfl⟩ := Prod.mk.inj (Except.ok.inj h)
    rfl
  · split at h
    · cases h
    · obtain ⟨r, -, h⟩ := bind_eq_ok.mp h
      obtain ⟨-, rfl⟩ := Prod.mk.inj (Except.ok.inj h)
      exact Array.size_setIfInBounds

end Memory

end LaneGrid
