import LaneGrid.Block.Arena

namespace LaneGrid

theorem le_nextMultiple? {n step m : Nat} (hstep : 0 < step)
    (h : nextMultiple? n step = some m) : step ∣ m ∧ n ≤ m := by
  rw [nextMultiple?] at h
  split at h
  · rename_i hmod
    obtain rfl := Option.some.inj h
    exact ⟨Nat.dvd_of_mod_eq_zero hmod, Nat.le_refl n⟩
  · rename_i hmod
    cases hkeep : keepWord .addOverflow (n + (step - n % step)) with
    | error e =>
        rw [hkeep] at h
        cases h
    | ok value =>
        rw [hkeep] at h
        obtain rfl := Option.some.inj h
        obtain ⟨-, rfl⟩ := keepWord_eq_ok.mp hkeep
        refine ⟨?_, Nat.le_add_right _ _⟩
        have hrest : n % step + step * (n / step) = n := Nat.mod_add_div n step
        have hlt : n % step < step := Nat.mod_lt n hstep
        refine ⟨n / step + 1, ?_⟩
        rw [Nat.mul_add]
        omega

/-- An answer of the master to a request. -/
structure Answer where
  kind : ElementKind
  length : Nat
  /-- The offset of the reserved elements. -/
  result : Except SharedExcess Nat

namespace Answer

def stop (a : Answer) (offset : Nat) : Nat :=
  offset + a.length * a.kind.size

/-- The slice that a lane is given, or the refusal of its request. -/
def slice (a : Answer) : Except Error SharedSlice :=
  match a.result with
  | .ok offset => .ok ⟨a.kind, offset, a.length⟩
  | .error e => .error e.error

/-- The reserved elements are aligned, and lie below `top`. -/
def Below (top : Nat) (a : Answer) : Prop :=
  ∀ offset, a.result = .ok offset → a.kind.size ∣ offset ∧ a.stop offset ≤ top

/-- What was reserved first lies below what was reserved later. -/
def Before (a b : Answer) : Prop :=
  ∀ first second, a.result = .ok first → b.result = .ok second → a.stop first ≤ second

theorem Below.mono {a : Answer} {top top' : Nat} (h : a.Below top) (hle : top ≤ top') :
    a.Below top' :=
  fun offset hoffset => ⟨(h offset hoffset).1, Nat.le_trans (h offset hoffset).2 hle⟩

end Answer

namespace Arena

theorem bump_eq_ok {capacity top length offset stop : Nat} {k : ElementKind}
    (h : bump capacity k top length = .ok (offset, stop)) :
    k.size ∣ offset ∧ top ≤ offset ∧ stop = offset + length * k.size ∧ stop ≤ capacity := by
  rw [bump] at h
  cases hnext : nextMultiple? top k.size with
  | none =>
      rw [hnext] at h
      cases h
  | some start =>
      rw [hnext] at h
      obtain ⟨hdvd, hle⟩ := le_nextMultiple? k.size_pos hnext
      simp only at h
      cases hkeep : keepWord .addOverflow (start + length * k.size) with
      | error e =>
          rw [hkeep] at h
          cases h
      | ok value =>
          obtain ⟨-, rfl⟩ := keepWord_eq_ok.mp hkeep
          rw [hkeep] at h
          simp only [Except.toOption] at h
          split at h
          · cases h
          · rename_i hfits
            obtain ⟨rfl, rfl⟩ := Prod.mk.inj (Except.ok.inj h)
            exact ⟨hdvd, hle, rfl, Nat.le_of_not_lt hfits⟩

/-- The answer to a request for which `top` bytes are reserved already. -/
def answer (capacity top : Nat) (k : ElementKind) (length : Nat) : Answer :=
  ⟨k, length, (bump capacity k top length).map Prod.fst⟩

/-- The reserved bytes after a request. -/
def grow (capacity top : Nat) (k : ElementKind) (length : Nat) : Nat :=
  match bump capacity k top length with
  | .ok (_, stop) => stop
  | .error _ => top

theorem grow_le {capacity top : Nat} (h : top ≤ capacity) (k : ElementKind) (length : Nat) :
    top ≤ grow capacity top k length ∧ grow capacity top k length ≤ capacity := by
  rw [grow]
  rcases hbump : bump capacity k top length with e | ⟨offset, stop⟩
  · exact ⟨Nat.le_refl _, h⟩
  · obtain ⟨-, hle, rfl, hfits⟩ := bump_eq_ok hbump
    exact ⟨Nat.le_trans hle (Nat.le_add_right _ _), hfits⟩

theorem answer_eq_ok {capacity top length offset : Nat} {k : ElementKind}
    (h : (answer capacity top k length).result = .ok offset) :
    k.size ∣ offset ∧ top ≤ offset ∧
      (answer capacity top k length).stop offset = grow capacity top k length := by
  rw [answer] at h
  rw [grow]
  rcases hbump : bump capacity k top length with e | ⟨start, stop⟩
  · rw [hbump] at h
    cases h
  · rw [hbump] at h
    obtain rfl := Except.ok.inj h
    obtain ⟨hdvd, hle, hstop, -⟩ := bump_eq_ok hbump
    exact ⟨hdvd, hle, hstop.symm⟩

/-- The answers to requests that come one after the other when `top` bytes are reserved, and the
bytes that are reserved in the end. -/
def serve (capacity : Nat) :
    Nat → List (ElementKind × Nat) → List (Except Error SharedSlice) × Nat
  | top, [] => ([], top)
  | top, (k, n) :: requests =>
    let (slices, last) := serve capacity (grow capacity top k n) requests
    ((answer capacity top k n).slice :: slices, last)

theorem serve_append (capacity top : Nat) (first rest : List (ElementKind × Nat)) :
    serve capacity top (first ++ rest) =
      ((serve capacity top first).1 ++ (serve capacity (serve capacity top first).2 rest).1,
        (serve capacity (serve capacity top first).2 rest).2) := by
  induction first generalizing top with
  | nil => rfl
  | cons q first ih =>
      rw [List.cons_append, serve, ih]
      rfl

theorem serve_cons_of_error {capacity top n : Nat} {k : ElementKind} {e : SharedExcess}
    (h : bump capacity k top n = .error e) (requests : List (ElementKind × Nat)) :
    serve capacity top ((k, n) :: requests) =
      (.error e.error :: (serve capacity top requests).1, (serve capacity top requests).2) := by
  rw [serve, grow, answer, h]
  rfl

theorem serve_isPrefix {first requests : List (ElementKind × Nat)} (h : first <+: requests)
    (capacity top : Nat) : (serve capacity top first).1 <+: (serve capacity top requests).1 := by
  obtain ⟨rest, rfl⟩ := h
  rw [serve_append]
  exact List.prefix_append _ _

end Arena

/-- Answers that a master has given, one after the other, in an arena of which `top` bytes are
reserved. -/
structure Reservations (capacity top : Nat) (answers : List Answer) : Prop where
  top_le : top ≤ capacity
  below : ∀ a ∈ answers, a.Below top
  pairwise : answers.Pairwise Answer.Before

namespace Reservations

variable {capacity top : Nat} {answers : List Answer}

theorem nil (capacity : Nat) : Reservations capacity 0 [] :=
  ⟨Nat.zero_le _, fun _ h => absurd h List.not_mem_nil, .nil⟩

theorem concat (h : Reservations capacity top answers) (k : ElementKind) (length : Nat) :
    Reservations capacity (Arena.grow capacity top k length)
      (answers ++ [Arena.answer capacity top k length]) := by
  obtain ⟨hle, hfits⟩ := Arena.grow_le h.top_le k length
  constructor
  case top_le => exact hfits
  case below =>
    intro a ha
    rcases List.mem_append.mp ha with hold | hnew
    · exact (h.below a hold).mono hle
    · obtain rfl := List.mem_singleton.mp hnew
      intro offset hoffset
      obtain ⟨hdvd, -, hstop⟩ := Arena.answer_eq_ok hoffset
      exact ⟨hdvd, Nat.le_of_eq hstop⟩
  case pairwise =>
    rw [List.pairwise_append]
    refine ⟨h.pairwise, List.pairwise_singleton _ _, ?_⟩
    intro a ha b hb first second hfirst hsecond
    obtain rfl := List.mem_singleton.mp hb
    obtain ⟨-, hle, -⟩ := Arena.answer_eq_ok hsecond
    exact Nat.le_trans (h.below a ha first hfirst).2 hle

theorem inside (h : Reservations capacity top answers) {a : Answer} (ha : a ∈ answers)
    {offset : Nat} (hoffset : a.result = .ok offset) :
    a.kind.size ∣ offset ∧ a.stop offset ≤ capacity :=
  ⟨(h.below a ha offset hoffset).1, Nat.le_trans (h.below a ha offset hoffset).2 h.top_le⟩

theorem before (h : Reservations capacity top answers) {i j : Nat} (hij : i < j) {a b : Answer}
    (ha : answers[i]? = some a) (hb : answers[j]? = some b) : a.Before b := by
  obtain ⟨hi, rfl⟩ := List.getElem?_eq_some_iff.mp ha
  obtain ⟨hj, rfl⟩ := List.getElem?_eq_some_iff.mp hb
  exact List.pairwise_iff_getElem.mp h.pairwise i j hi hj hij

end Reservations

end LaneGrid
