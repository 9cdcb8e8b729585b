import LaneGrid.Proofs.Meeting.Account
import LaneGrid.Proofs.Phase.Scene
import LaneGrid.Proofs.Shared.Standing

namespace LaneGrid

open MeetingGate

/-- What a step of a lane does to the barrier of its block. -/
inductive Handles {β : Type} [Gate β] (reserver : Reserver) (st : Stage) (b : β) : β → Prop
  | spares (h : ∀ o, st ≠ .leaving o .block) : Handles reserver st b b
  | arrives {c : Option Contribution} {r : Resumption} (h : st.passes reserver = some (c, r)) :
      Handles reserver st b (Gate.arrive b c).2
  | leaves {o : Except Error Unit} (h : st = .leaving o .block) :
      Handles reserver st b (Gate.leave b o.isOk.not).2

namespace Scene

variable {β : Type} [Gate β] {block capacity lane : Nat} {reserver : Reserver} {s s' : Scene β}
  {st : Stage}

theorem Act.handles (h : s.Act block capacity reserver lane st s') :
    Handles reserver st s.barrier s'.barrier := by
  cases h with
  | @pass _ c r a barrier hpasses harrive =>
      have hbarrier : (Gate.arrive s.barrier c).2 = barrier := by rw [harrive]
      exact hbarrier ▸ .arrives hpasses
  | @refused _ c r f barrier o hpasses harrive =>
      have hbarrier : (Gate.arrive s.barrier c).2 = barrier := by rw [harrive]
      exact hbarrier ▸ .arrives hpasses
  | @leave o barrier hleave =>
      have hbarrier : (Gate.leave s.barrier o.isOk.not).2 = barrier := by rw [hleave]
      exact hbarrier ▸ .leaves rfl
  | @broken o o' barrier f hleave =>
      have hbarrier : (Gate.leave s.barrier o.isOk.not).2 = barrier := by rw [hleave]
      exact hbarrier ▸ .leaves rfl
  | publish =>
      rw [put]
      dsimp only
      split <;> exact .spares nofun
  | _ => exact .spares nofun

/-- Some lane has left the barrier of the block. -/
def Left (s : Scene β) : Prop :=
  ∃ i st, s.stage? i = some st ∧ st.HasLeft

theorem Act.hasLeft (h : s.Act block capacity reserver lane st s') :
    ∃ st', s'.stage? = Function.update s.stage? lane (some st') ∧
      (st'.HasLeft ↔ st.HasLeft ∨ ∃ o, st = .leaving o .block) := by
  have hstays {st st' : Stage} (hst : ¬st.HasLeft) (hst' : ¬st'.HasLeft)
      (hleaving : ∀ o, st ≠ .leaving o .block) :
      st'.HasLeft ↔ st.HasLeft ∨ ∃ o, st = .leaving o .block :=
    ⟨fun h => absurd h hst', fun h => h.elim (fun h => absurd h hst) fun ⟨o, ho⟩ =>
      absurd ho (hleaving o)⟩
  have hpassing {st : Stage} {c : Option Contribution} {r : Resumption}
      (hpasses : st.passes reserver = some (c, r)) :
      ¬st.HasLeft ∧ ∀ o, st ≠ .leaving o .block := by
    refine ⟨fun hleft => ?_, ?_⟩
    · cases st with
      | leaving | ended => cases hpasses
      | _ => exact hleft
    · rintro o rfl
      cases hpasses
  cases h with
  | note | reserved | reserve | access | collect => exact ⟨_, rfl, hstays id id nofun⟩
  | finish => exact ⟨_, rfl, hstays id id nofun⟩
  | fault => exact ⟨_, rfl, hstays id id nofun⟩
  | @pass _ c r a barrier hpasses =>
      obtain ⟨hstaying, hleaving⟩ := hpassing hpasses
      exact ⟨_, rfl, hstays hstaying (Resumption.hasLeft_stage r a).mp hleaving⟩
  | refused hpasses => exact ⟨_, rfl, hstays (hpassing hpasses).1 id (hpassing hpasses).2⟩
  | @look g r w =>
      exact ⟨_, rfl, hstays id (Resumption.hasLeft_stage r (.released w)).mp nofun⟩
  | @publish k n next =>
      refine ⟨.closing k n next, ?_, hstays id id nofun⟩
      split <;> rfl
  | @leave o => exact ⟨_, rfl, fun _ => .inr ⟨o, rfl⟩, fun _ => trivial⟩
  | @broken o => exact ⟨_, rfl, fun _ => .inr ⟨o, rfl⟩, fun _ => trivial⟩
  | part => exact ⟨_, rfl, fun _ => .inl trivial, fun _ => trivial⟩

theorem Act.left_iff (h : s.Act block capacity reserver lane st s')
    (hst : s.stage? lane = some st) :
    s'.Left ↔ s.Left ∨ ∃ o, st = .leaving o .block := by
  obtain ⟨st', hstage, hiff⟩ := h.hasLeft
  have hlane : s'.stage? lane = some st' := by rw [hstage, Function.update_self]
  constructor
  · rintro ⟨i, st₁, hst₁, hleft⟩
    by_cases hi : i = lane
    · subst hi
      obtain rfl := Option.some.inj (hlane.symm.trans hst₁)
      exact (hiff.mp hleft).imp_left fun hleft => ⟨i, st, hst, hleft⟩
    · rw [hstage, Function.update_of_ne hi] at hst₁
      exact .inl ⟨i, st₁, hst₁, hleft⟩
  · rintro (⟨i, st₁, hst₁, hleft⟩ | hleaving)
    · by_cases hi : i = lane
      · subst hi
        obtain rfl := Option.some.inj (hst.symm.trans hst₁)
        exact ⟨i, st', hlane, hiff.mpr (.inl hleft)⟩
      · exact ⟨i, st₁, by rw [hstage, Function.update_of_ne hi, hst₁], hleft⟩
    · exact ⟨lane, st', hlane, hiff.mpr (.inr hleaving)⟩

end Scene

namespace ThreadBarrier

theorem handles_closed {b b' : ThreadBarrier} {reserver : Reserver} {st : Stage}
    (h : Handles reserver st b b') (hclosed : b.poisoned = true) :
    b'.poisoned = true ∧ b'.stranded = b.stranded := by
  cases h with
  | spares => exact ⟨hclosed, rfl⟩
  | @arrives c r hpasses =>
      rw [MeetingGate.arrive_closed hclosed c]
      exact ⟨hclosed, rfl⟩
  | leaves => exact leave_closed hclosed _

end ThreadBarrier

end LaneGrid
