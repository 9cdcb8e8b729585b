import Mathlib.Data.List.Perm.Basic
import LaneGrid.Proofs.Memory.Request
import LaneGrid.Proofs.Phase.Contents

namespace LaneGrid

namespace AtomicOp

variable {k : ElementKind} {op : AtomicOp} {old operand : Element k}

/-- The operations for which it does not matter in which order they are applied. -/
def Commutes (op : AtomicOp) : Prop :=
  op ∈ [add, sub, min, max, and, or, xor]

instance (op : AtomicOp) : Decidable op.Commutes :=
  inferInstanceAs (Decidable (_ ∈ _))

theorem exists_rightCommutative (k : ElementKind) (h : op.Commutes) :
    ∃ f : Element k → Element k → Element k,
      (∀ old operand, op.apply k.isSigned old operand = .ok (f old operand)) ∧
        RightCommutative f := by
  simp only [Commutes, List.mem_cons, List.not_mem_nil, or_false] at h
  rcases h with rfl | rfl | rfl | rfl | rfl | rfl | rfl
  · refine ⟨_, fun _ _ => rfl, ⟨fun a x y => ?_⟩⟩
    rw [BitVec.add_assoc, BitVec.add_comm x, BitVec.add_assoc]
  · refine ⟨_, fun _ _ => rfl, ⟨fun a x y => ?_⟩⟩
    rw [BitVec.sub_sub, BitVec.add_comm x, BitVec.sub_sub]
  · refine ⟨_, fun _ _ => rfl, ⟨fun a x y => Element.toInt_injective ?_⟩⟩
    simp only [toInt_min]
    exact min_right_comm _ _ _
  · refine ⟨_, fun _ _ => rfl, ⟨fun a x y => Element.toInt_injective ?_⟩⟩
    simp only [toInt_max]
    exact max_right_comm _ _ _
  · refine ⟨_, fun _ _ => rfl, ⟨fun a x y => ?_⟩⟩
    rw [BitVec.and_assoc, BitVec.and_comm x, BitVec.and_assoc]
  · refine ⟨_, fun _ _ => rfl, ⟨fun a x y => ?_⟩⟩
    rw [BitVec.or_assoc, BitVec.or_comm x, BitVec.or_assoc]
  · refine ⟨_, fun _ _ => rfl, ⟨fun a x y => ?_⟩⟩
    rw [BitVec.xor_assoc, BitVec.xor_comm x, BitVec.xor_assoc]

end AtomicOp

namespace Memory

variable {m : Memory} {p : Place} {k : ElementKind}

theorem part?_setPart {s : Space} (h : (m.part? s).isSome) (b : Bytes) :
    (m.setPart s b).part? s = some b := by
  cases s with
  | shared => rfl
  | buffer i =>
      have hi : i < m.buffers.size := by simpa [part?] using h
      simp [part?, setPart, hi]

theorem load_contents {b : Bytes} (h : m.part? p.space = some b) :
    m.contents.load k p = b.load k p.offset :=
  congrArg (BitVec.ofNat k.bits) (loadNat_contents h p.offset k.size)

theorem access_eq {b : Bytes} (h : m.part? p.space = some b) (a : Access k) :
    m.access p a = (b.access p.offset a).map fun r => (r.1, m.setPart p.space r.2) := by
  rw [access]
  rcases hspace : p.space with _ | i
  · rw [hspace] at h
    cases h
    dsimp only
    cases m.shared.access p.offset a <;> rfl
  · rw [hspace] at h
    dsimp only
    rw [show m.buffers[i]? = some b from h]
    dsimp only
    cases b.access p.offset a <;> rfl

theorem exists_access {a : Access k} {new : Element k} (hpart : (m.part? p.space).isSome)
    (hwrites : a.writes = true) (hresult : a.result (m.contents.load k p) = .ok new) :
    ∃ m', m.access p a = .ok (m.contents.load k p, m') ∧ (m'.part? p.space).isSome ∧
      m'.contents.load k p = new ∧ ∀ q, ¬ p.Covers k q → m'.contents q = m.contents q := by
  obtain ⟨b, hb⟩ := Option.isSome_iff_exists.mp hpart
  have hload := load_contents (k := k) hb
  have haccess : b.access p.offset a = .ok (b.load k p.offset, b.store p.offset new) := by
    rw [hload] at hresult
    cases a with
    | load => cases hwrites
    | store | update | swapIf =>
        simp only [Bytes.access, hresult]
        rfl
  have hpart' := part?_setPart hpart (b.store p.offset new)
  refine ⟨m.setPart p.space (b.store p.offset new), ?_, ?_, ?_, fun q hq => ?_⟩
  · rw [access_eq hb, haccess, hload]
    rfl
  · rw [hpart']
    rfl
  · rw [load_contents hpart', Bytes.load_store]
  · rw [contents_setPart hpart]
    split
    · rename_i hspace
      have houtside : q.offset < p.offset ∨ p.offset + k.size ≤ q.offset := by
        by_contra hin
        exact hq ⟨hspace, by omega, by omega⟩
      rw [Bytes.get_store_of_outside b new houtside, ← contents_of_part? hb, ← hspace]
    · rfl

theorem access_fault {a : Access k} {f : Fault} (hpart : (m.part? p.space).isSome)
    (hresult : a.result (m.contents.load k p) = .error f) : m.access p a = .error f := by
  obtain ⟨b, hb⟩ := Option.isSome_iff_exists.mp hpart
  rw [load_contents hb] at hresult
  rw [access_eq hb, Bytes.access_error hresult]
  rfl

/-- Operations of one kind on one element, one after the other. -/
def updates (m : Memory) (p : Place) {k : ElementKind} (op : AtomicOp) (xs : List (Element k)) :
    Except Fault Memory :=
  xs.foldlM (fun m x => Prod.snd <$> m.access p (.update op x)) m

theorem exists_updates {op : AtomicOp} {f : Element k → Element k → Element k}
    (hf : ∀ old operand, op.apply k.isSigned old operand = .ok (f old operand))
    (hpart : (m.part? p.space).isSome) (xs : List (Element k)) :
    ∃ m', m.updates p op xs = .ok m' ∧ m'.contents.load k p = xs.foldl f (m.contents.load k p) ∧
      ∀ q, ¬ p.Covers k q → m'.contents q = m.contents q := by
  induction xs generalizing m with
  | nil => exact ⟨m, rfl, rfl, fun q _ => rfl⟩
  | cons x xs ih =>
      obtain ⟨m₁, haccess, hpart₁, hload, hframe⟩ := exists_access (a := .update op x) hpart rfl
        (hf (m.contents.load k p) x)
      obtain ⟨m₂, hupdates, hfold, hframe₂⟩ := ih hpart₁
      refine ⟨m₂, ?_, ?_, fun q hq => (hframe₂ q hq).trans (hframe q hq)⟩
      · rw [updates, List.foldlM_cons, haccess]
        exact hupdates
      · rw [hfold, hload, List.foldl_cons]

theorem access_of_underflows {op : AtomicOp} {operand : Element k}
    (hpart : (m.part? p.space).isSome) (h : op.Underflows (m.contents.load k p)) :
    m.access p (.update op operand) = .error .subOverflow :=
  access_fault hpart (AtomicOp.apply_of_underflows h)

theorem exists_update {op : AtomicOp} (operand : Element k) (hpart : (m.part? p.space).isSome)
    (h : ¬ op.Underflows (m.contents.load k p)) :
    ∃ m', m.access p (.update op operand) = .ok (m.contents.load k p, m') ∧
      op.Stores (m.contents.load k p) operand (m'.contents.load k p) ∧
      ∀ q, ¬ p.Covers k q → m'.contents q = m.contents q := by
  obtain ⟨new, hnew, hstores⟩ := AtomicOp.exists_apply operand h
  obtain ⟨m', haccess, -, rfl, hframe⟩ := exists_access (a := .update op operand) hpart rfl hnew
  exact ⟨m', haccess, hstores, hframe⟩

theorem exists_swapIf (current new : Element k) (hpart : (m.part? p.space).isSome) :
    ∃ m', m.access p (.swapIf current new) = .ok (m.contents.load k p, m') ∧
      m'.contents.load k p =
        (if m.contents.load k p = current then new else m.contents.load k p) ∧
      ∀ q, ¬ p.Covers k q → m'.contents q = m.contents q := by
  obtain ⟨m', haccess, -, hload, hframe⟩ :=
    exists_access (a := .swapIf current new) hpart rfl rfl
  exact ⟨m', haccess, hload, hframe⟩

theorem exists_updates_of_perm {op : AtomicOp} (h : op.Commutes)
    (hpart : (m.part? p.space).isSome) {xs ys : List (Element k)} (hperm : xs.Perm ys) :
    ∃ m₁ m₂, m.updates p op xs = .ok m₁ ∧ m.updates p op ys = .ok m₂ ∧
      m₁.contents.load k p = m₂.contents.load k p ∧
      ∀ q, ¬ p.Covers k q → m₁.contents q = m₂.contents q := by
  obtain ⟨f, hf, hcommutes⟩ := AtomicOp.exists_rightCommutative k h
  obtain ⟨m₁, hxs, hload₁, hframe₁⟩ := exists_updates hf hpart xs
  obtain ⟨m₂, hys, hload₂, hframe₂⟩ := exists_updates hf hpart ys
  refine ⟨m₁, m₂, hxs, hys, ?_, fun q hq => (hframe₁ q hq).trans (hframe₂ q hq).symm⟩
  rw [hload₁, hload₂, hperm.foldl_eq]

/-- Read-modify-write operations of lanes on an element of the memory that they reach. Every
operation answers the element it found and leaves the expected one, and no other byte changes;
except that counting down from the least number of a signed type faults. A comparing swap stores
the new element exactly if it found the current one. Operations of one kind that commute, whichever
lanes make them, all come through and leave the same element in every order. -/
theorem atomics_of_part (m : Memory) (p : Place) (k : ElementKind)
    (hpart : (m.part? p.space).isSome) :
    (∀ (op : AtomicOp) (operand : Element k), ¬ op.Underflows (m.contents.load k p) →
      ∃ m', m.access p (.update op operand) = .ok (m.contents.load k p, m') ∧
        op.Stores (m.contents.load k p) operand (m'.contents.load k p) ∧
        ∀ q, ¬ p.Covers k q → m'.contents q = m.contents q) ∧
    (∀ (op : AtomicOp) (operand : Element k), op.Underflows (m.contents.load k p) →
      m.access p (.update op operand) = .error .subOverflow) ∧
    (∀ current new : Element k,
      ∃ m', m.access p (.swapIf current new) = .ok (m.contents.load k p, m') ∧
        m'.contents.load k p =
          (if m.contents.load k p = current then new else m.contents.load k p) ∧
        ∀ q, ¬ p.Covers k q → m'.contents q = m.contents q) ∧
    ∀ op : AtomicOp, op.Commutes → ∀ xs ys : List (Element k), xs.Perm ys →
      ∃ m₁ m₂, m.updates p op xs = .ok m₁ ∧ m.updates p op ys = .ok m₂ ∧
        m₁.contents.load k p = m₂.contents.load k p ∧
        ∀ q, ¬ p.Covers k q → m₁.contents q = m₂.contents q :=
  ⟨fun _ operand => exists_update operand hpart, fun _ _ => access_of_underflows hpart,
    fun current new => exists_swapIf current new hpart,
    fun _ h _ _ => exists_updates_of_perm h hpart⟩

/-- In fresh shared memory counting up to five makes one of zero, and three additions leave the
same in two orders. -/
theorem atomics_of_zeros :
    (∃ m', Memory.access ⟨.zeros, #[]⟩ ⟨.shared, 8⟩ (.update .increment (5 : Element .i64)) =
      .ok (0, m') ∧ Element.toInt (m'.contents.load .i64 ⟨.shared, 8⟩) = 1) ∧
    ∃ m₁ m₂, Memory.updates ⟨.zeros, #[]⟩ ⟨.shared, 8⟩ .add [(1 : Element .i64), 2, 4] = .ok m₁ ∧
      Memory.updates ⟨.zeros, #[]⟩ ⟨.shared, 8⟩ .add [(4 : Element .i64), 1, 2] = .ok m₂ ∧
      m₁.contents.load .i64 ⟨.shared, 8⟩ = m₂.contents.load .i64 ⟨.shared, 8⟩ := by
  have hload : Contents.load (Memory.contents ⟨.zeros, #[]⟩) .i64 ⟨.shared, 8⟩ = 0 := by decide
  obtain ⟨hupdate, -, -, horder⟩ := atomics_of_part ⟨.zeros, #[]⟩ ⟨.shared, 8⟩ .i64 rfl
  rw [hload] at hupdate
  obtain ⟨m', haccess, hstores, -⟩ := hupdate .increment 5 (by decide)
  obtain ⟨m₁, m₂, hxs, hys, hsame, -⟩ := horder .add (by decide) [1, 2, 4] [4, 1, 2] (by decide)
  exact ⟨⟨m', haccess, hstores⟩, m₁, m₂, hxs, hys, hsame⟩

/-- Memory that holds the least number of a signed type. -/
def lowest : Memory :=
  ⟨Bytes.store (k := .i32) .zeros 0 (BitVec.intMin _), #[]⟩

/-- An operation need not come through: before the least number of a signed type there is none. -/
theorem not_forall_exists_update :
    ¬ ∀ (k : ElementKind) (m : Memory) (p : Place) (op : AtomicOp) (operand : Element k),
      k ∈ [.u32, .i32, .u64, .i64] → (m.part? p.space).isSome →
        ∃ r, m.access p (.update op operand) = .ok r := by
  intro h
  have hload : lowest.contents.load .i32 ⟨.shared, 0⟩ = BitVec.intMin _ := by
    rw [load_contents rfl]
    exact Bytes.load_store _ _ _
  have hleast : AtomicOp.decrement.Underflows (lowest.contents.load .i32 ⟨.shared, 0⟩) := by
    rw [hload]
    exact ⟨rfl, rfl, AtomicOp.toInt_intMin rfl⟩
  obtain ⟨r, hr⟩ := h .i32 lowest ⟨.shared, 0⟩ .decrement 7 (by decide) rfl
  rw [access_of_underflows rfl hleast] at hr
  cases hr

end Memory

end LaneGrid
