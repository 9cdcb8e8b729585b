import LaneGrid.Proofs.Meeting.Group
import LaneGrid.Proofs.Shared.Chronicle

namespace LaneGrid

namespace Collective

/-- How often several operations take a lane to the barrier. -/
def allPasses : List Collective → Nat
  | [] => 0
  | x :: xs => x.passes + allPasses xs

theorem allPasses_append (xs ys : List Collective) :
    allPasses (xs ++ ys) = allPasses xs + allPasses ys := by
  induction xs with
  | nil => exact (Nat.zero_add _).symm
  | cons x xs ih => rw [List.cons_append, allPasses, allPasses, ih, Nat.add_assoc]

theorem allPasses_le {xs ys : List Collective} (h : xs <+: ys) : allPasses xs ≤ allPasses ys := by
  obtain ⟨rest, rfl⟩ := h
  rw [allPasses_append]
  exact Nat.le_add_right _ _

theorem passes_pos (x : Collective) : 0 < x.passes := by
  cases x with
  | meet => exact Nat.zero_lt_one
  | request k n => exact Nat.two_pos

theorem eq_nil_of_allPasses {xs : List Collective} (h : allPasses xs = 0) : xs = [] := by
  cases xs with
  | nil => rfl
  | cons x xs =>
      have hpos := x.passes_pos
      rw [allPasses] at h
      omega

theorem eq_of_allPasses_le {xs ys : List Collective} (h : xs <+: ys)
    (hle : allPasses ys ≤ allPasses xs) : xs = ys := by
  obtain ⟨rest, rfl⟩ := h
  rw [allPasses_append] at hle
  rw [@eq_nil_of_allPasses rest (by omega), List.append_nil]

theorem requests_of_allPasses {xs : List Collective} (h : allPasses xs ≤ 1) :
    xs.filterMap request? = [] := by
  induction xs with
  | nil => rfl
  | cons x xs ih =>
      rw [allPasses] at h
      cases x with
      | meet => exact ih (by omega)
      | request k n =>
          have htwo : (request k n).passes = 2 := rfl
          omega

theorem exists_of_getLast? {xs : List Collective} {k : ElementKind} {n : Nat}
    (h : xs.getLast? = some (.request k n)) :
    ∃ ys, xs = ys ++ [.request k n] ∧ allPasses xs = allPasses ys + 2 := by
  obtain ⟨ys, rfl⟩ := List.getLast?_eq_some_iff.mp h
  exact ⟨ys, rfl, allPasses_append ys _⟩

end Collective

namespace Resumption

def owed : Resumption → Nat
  | publish .. => 1
  | _ => 0

def request? : Resumption → Option (ElementKind × Nat)
  | deliver _ => none
  | publish k n _ => some (k, n)
  | collect k n _ => some (k, n)

def unanswered : Resumption → List (ElementKind × Nat)
  | publish k n _ => [(k, n)]
  | _ => []

end Resumption

namespace Stage

/-- How often the operation that a lane has begun takes it to the barrier again. -/
def owed : Stage → Nat
  | waiting _ _ r => r.owed
  | publishing .. => 1
  | closing .. => 1
  | _ => 0

/-- The request that a lane has begun. -/
def request? : Stage → Option (ElementKind × Nat)
  | waiting _ _ r => r.request?
  | publishing k n _ => some (k, n)
  | closing k n _ => some (k, n)
  | collecting k n _ => some (k, n)
  | _ => none

/-- The request that a master has begun and not answered. -/
def unanswered : Stage → List (ElementKind × Nat)
  | waiting _ _ r => r.unanswered
  | publishing k n _ => [(k, n)]
  | _ => []

/-- The generation for which a lane waits at the barrier of its block. -/
def awaited : Stage → Option Word
  | waiting .block g _ => some g
  | _ => none

/-- At the barrier of a warp lanes only meet. -/
def Proper : Stage → Prop
  | waiting .warp _ (.deliver _) => True
  | waiting .warp _ _ => False
  | _ => True

theorem HasLeft.idle {st : Stage} (h : st.HasLeft) :
    st.awaited = none ∧ st.owed = 0 ∧ st.request? = none ∧ st.begins = none := by
  cases st with
  | leaving => exact ⟨rfl, rfl, rfl, rfl⟩
  | ended => exact ⟨rfl, rfl, rfl, rfl⟩
  | _ => exact h.elim

theorem owed_le (st : Stage) : st.owed ≤ 1 := by
  cases st with
  | waiting scope g r =>
      cases r with
      | publish => exact Nat.le_refl 1
      | _ => exact Nat.zero_le 1
  | publishing => exact Nat.le_refl 1
  | closing => exact Nat.le_refl 1
  | _ => exact Nat.zero_le 1

theorem unanswered_of_owed {st : Stage} (h : st.owed = 0) : st.unanswered = [] := by
  cases st with
  | waiting scope g r =>
      cases r with
      | publish => cases h
      | _ => rfl
  | publishing => cases h
  | _ => rfl

theorem exists_request {st : Stage} (h : st.owed = 1) : ∃ k n, st.request? = some (k, n) := by
  cases st with
  | waiting scope g r =>
      cases r with
      | publish k n next => exact ⟨k, n, rfl⟩
      | _ => cases h
  | publishing k n next => exact ⟨k, n, rfl⟩
  | closing k n next => exact ⟨k, n, rfl⟩
  | _ => cases h

theorem exists_unanswered {st : Stage} (howed : st.owed = 1) {g : Word}
    (hawaited : st.awaited = some g) : ∃ q, st.unanswered = [q] := by
  cases st with
  | waiting scope g r =>
      cases r with
      | publish k n next => exact ⟨(k, n), rfl⟩
      | _ => cases howed
  | _ => cases hawaited

end Stage

namespace Resumption

variable (r : Resumption) (a : Arrival)

theorem owed_stage : (a.stage r).owed = r.owed := by
  cases a <;> cases r <;> rfl

theorem request?_stage : (a.stage r).request? = r.request? := by
  cases a <;> cases r <;> rfl

theorem unanswered_stage : (a.stage r).unanswered = r.unanswered := by
  cases a <;> cases r <;> rfl

theorem awaited_stage (w : Option Word) : ((Arrival.released w).stage r).awaited = none := by
  cases r <;> rfl

theorem proper_stage : (a.stage r).Proper := by
  cases a <;> cases r <;> exact trivial

theorem hasLeft_stage : (a.stage r).HasLeft ↔ False := by
  cases a <;> cases r <;> exact Iff.rfl

end Resumption

theorem Stage.passes_spec {st : Stage} {reserver : Reserver} {c : Option Contribution}
    {r : Resumption} (h : st.passes reserver = some (c, r)) (a : Arrival) :
    st.awaited = none ∧ (st.HasLeft ↔ (a.stage r).HasLeft) ∧ (a.stage r).Proper ∧
      1 + (a.stage r).owed = st.owed + Collective.allPasses st.begins.toList ∧
      (a.stage r).unanswered =
        st.unanswered ++ st.begins.toList.filterMap Collective.request? ∧
      ∀ k n, (a.stage r).request? = some (k, n) →
        st.begins = some (.request k n) ∨ st.begins = none ∧ st.request? = some (k, n) := by
  rw [r.owed_stage, r.request?_stage, r.hasLeft_stage, r.unanswered_stage]
  cases st with
  | running p =>
      cases p with
      | arrive scope c' next =>
          cases scope with
          | block =>
              obtain ⟨rfl, rfl⟩ := Prod.mk.inj (Option.some.inj h)
              exact ⟨rfl, Iff.rfl, Resumption.proper_stage _ a, rfl, rfl, fun k n hst => by cases hst⟩
          | warp => cases h
      | allocate k n next =>
          cases reserver with
          | lane => cases h
          | master =>
              obtain ⟨rfl, rfl⟩ := Prod.mk.inj (Option.some.inj h)
              refine ⟨rfl, Iff.rfl, Resumption.proper_stage _ a, rfl, rfl, fun k' n' hst => .inl ?_⟩
              obtain ⟨rfl, rfl⟩ := Prod.mk.inj (Option.some.inj hst)
              rfl
      | _ => cases h
  | closing k n next =>
      obtain ⟨rfl, rfl⟩ := Prod.mk.inj (Option.some.inj h)
      exact ⟨rfl, Iff.rfl, Resumption.proper_stage _ a, rfl, rfl, fun k' n' hst => .inr ⟨rfl, hst⟩⟩
  | _ => cases h

theorem Stage.begins_of_passes {p : Program} (h : (running p).passes .master = none) :
    (running p).begins = none := by
  cases p with
  | arrive scope c next =>
      cases scope with
      | block => cases h
      | warp => rfl
  | allocate k n next => cases h
  | _ => rfl

/-- What the visits of a lane tell: all are over, but the last one if the lane waits. -/
def Held (visits : List Visit) : Option Word → Prop
  | none => ∀ v ∈ visits, ∃ r, v.answer = .released r
  | some g => ∃ earlier v, visits = earlier ++ [v] ∧ v.answer = .waiting g ∧
      ∀ u ∈ earlier, ∃ r, u.answer = .released r

/-- A lane that stands somewhere has visited the barrier as often as its operations ask for. -/
structure Stands (visits : List Visit) (left : Bool) (begun : List Collective)
    (st : Stage) : Prop where
  proper : st.Proper
  left_iff : left = true ↔ st.HasLeft
  held : Held visits st.awaited
  length_eq : visits.length + st.owed = Collective.allPasses begun
  request : ∀ k n, st.request? = some (k, n) → begun.getLast? = some (.request k n)

theorem Stage.Inward.stands {visits : List Visit} {left : Bool} {begun : List Collective}
    {p : Program} {st' : Stage} (hinward : st'.Inward)
    (h : Stands visits left begun (.running p)) :
    Stands visits left begun st' ∧ st'.unanswered = [] := by
  cases st' with
  | running p' => exact ⟨⟨trivial, h.left_iff, h.held, h.length_eq, fun k n hst => by cases hst⟩, rfl⟩
  | waiting scope g r =>
      cases scope with
      | block => exact hinward.elim
      | warp =>
          cases r with
          | deliver next =>
              exact ⟨⟨trivial, h.left_iff, h.held, h.length_eq, fun k n hst => by cases hst⟩, rfl⟩
          | _ => exact hinward.elim
  | leaving o scope =>
      cases scope with
      | block =>
          exact ⟨⟨trivial, h.left_iff, h.held, h.length_eq, fun k n hst => by cases hst⟩, rfl⟩
      | warp => exact hinward.elim
  | _ => exact hinward.elim

/-- The generation for which a lane waits that got this answer. -/
def Arrival.awaited : Arrival → Option Word
  | released _ => none
  | waiting g => some g

theorem Held.concat {visits : List Visit} (h : Held visits none) (v : Visit) :
    Held (visits ++ [v]) v.answer.awaited := by
  rcases ha : v.answer with w | g
  · intro u hu
    rcases List.mem_append.mp hu with hold | hnew
    · exact h u hold
    · obtain rfl := List.mem_singleton.mp hnew
      exact ⟨w, ha⟩
  · exact ⟨visits, v, rfl, ha, h⟩

theorem Arrival.awaited_stage (a : Arrival) (r : Resumption) : (a.stage r).awaited = a.awaited := by
  cases a with
  | released w => exact r.awaited_stage w
  | waiting g => rfl

namespace Stands

variable {visits : List Visit} {left : Bool} {begun : List Collective} {st st' : Stage}

theorem of_quiet (h : Stands visits left begun st) (hproper : st'.Proper)
    (hleft : st'.HasLeft ↔ st.HasLeft) (hawaited : st'.awaited = st.awaited)
    (howed : st'.owed = st.owed)
    (hrequest : ∀ k n, st'.request? = some (k, n) → st.request? = some (k, n)) :
    Stands visits left begun st' where
  proper := hproper
  left_iff := h.left_iff.trans hleft.symm
  held := by rw [hawaited]; exact h.held
  length_eq := by rw [howed]; exact h.length_eq
  request := fun k n hst' => h.request k n (hrequest k n hst')

theorem of_pass (h : Stands visits left begun st) {reserver : Reserver}
    {c : Option Contribution} {r : Resumption} (hpasses : st.passes reserver = some (c, r))
    {v : Visit} {a : Arrival} (ha : v.answer = a) :
    Stands (visits ++ [v]) left (begun ++ st.begins.toList) (a.stage r) := by
  obtain ⟨hheld, hleft, hproper, howed, -, hrequest⟩ := Stage.passes_spec hpasses a
  have hvisits : Held visits none := hheld ▸ h.held
  constructor
  case proper => exact hproper
  case left_iff => exact h.left_iff.trans hleft
  case held =>
    rw [a.awaited_stage r, ← ha]
    exact hvisits.concat v
  case length_eq =>
    have hlength := h.length_eq
    rw [List.length_append, List.length_singleton, Collective.allPasses_append]
    omega
  case request =>
    intro k n hst
    rcases hrequest k n hst with hbegins | ⟨hbegins, hold⟩
    · rw [hbegins, Option.toList_some, List.getLast?_concat]
    · rw [hbegins, Option.toList_none, List.append_nil]
      exact h.request k n hold

theorem of_resume {earlier : List Visit} {v : Visit} {g : Word} {r : Resumption}
    {w : Option Word}
    (h : Stands (earlier ++ [v]) left begun (.waiting .block g r)) {v' : Visit}
    (hanswer : v'.answer = .released w) :
    Stands (earlier ++ [v']) left begun (r.stage w) := by
  obtain ⟨earlier', u, hvisits, -, hreleased⟩ := h.held
  obtain ⟨rfl, -⟩ := List.append_inj' hvisits rfl
  have hearlier : Held earlier none := hreleased
  constructor
  case proper => exact r.proper_stage (.released w)
  case left_iff => exact h.left_iff.trans (r.hasLeft_stage (.released w)).symm
  case held =>
    have hheld := hearlier.concat v'
    rw [hanswer] at hheld
    have hstage : (r.stage w).awaited = none := r.awaited_stage w
    rw [hstage]
    exact hheld
  case length_eq =>
    rw [List.length_append, List.length_singleton]
    have hlength := h.length_eq
    rw [List.length_append, List.length_singleton] at hlength
    exact (congrArg (earlier.length + 1 + ·) (r.owed_stage (.released w))).trans hlength
  case request =>
    intro k n hst
    exact h.request k n ((r.request?_stage (.released w)).symm.trans hst)

end Stands

end LaneGrid
