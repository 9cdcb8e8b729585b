import LaneGrid.Proofs.Shared.Chronicle
import LaneGrid.Proofs.Team.Rest

/-!
Lanes of a block that one thread polls in turn, round after round. The loop is told without any
bound on its rounds or on what a lane does in a poll: it is over when all lanes have ended, and it
gives up after a round in which no lane has ended and none has come to the barrier.
-/

namespace LaneGrid

/-- One poll of a lane. -/
structure Turn where
  lane : Nat
  /-- Whether the lane came to its end in it. -/
  ended : Bool
  deriving DecidableEq, Repr

namespace Chronicle

/-- A lane that is polled goes on until it waits or has ended. -/
inductive Polled (lane : Nat) :
    Chronicle FiberBarrier SoloGate → Chronicle FiberBarrier SoloGate → Prop
  | rest {c : Chronicle FiberBarrier SoloGate} (h : c.team.step lane = none) : Polled lane c c
  | go {c c₁ c' : Chronicle FiberBarrier SoloGate} (h : c.step lane = some c₁)
      (hpolled : Polled lane c₁ c') : Polled lane c c'

/-- All lanes of a list are polled, but those that have ended before. `onEnd` sees each lane that
ends. -/
inductive Sweep (onEnd : Nat → Team FiberBarrier SoloGate → Team FiberBarrier SoloGate) :
    List Nat → Chronicle FiberBarrier SoloGate → List Turn → Chronicle FiberBarrier SoloGate → Prop
  | nil {c : Chronicle FiberBarrier SoloGate} : Sweep onEnd [] c [] c
  | skip {lane : Nat} {lanes : List Nat} {turns : List Turn} {o : Except Error Unit}
      {c c' : Chronicle FiberBarrier SoloGate} (hended : c.team.outcome? lane = some o)
      (hsweep : Sweep onEnd lanes c turns c') : Sweep onEnd (lane :: lanes) c turns c'
  | pending {lane : Nat} {lanes : List Nat} {turns : List Turn}
      {c c₁ c' : Chronicle FiberBarrier SoloGate} (hopen : c.team.outcome? lane = none)
      (hpolled : c.Polled lane c₁) (hwaits : c₁.team.outcome? lane = none)
      (hsweep : Sweep onEnd lanes c₁ turns c') :
      Sweep onEnd (lane :: lanes) c (⟨lane, false⟩ :: turns) c'
  | ready {lane : Nat} {lanes : List Nat} {turns : List Turn} {o : Except Error Unit}
      {c c₁ c' : Chronicle FiberBarrier SoloGate} (hopen : c.team.outcome? lane = none)
      (hpolled : c.Polled lane c₁) (hended : c₁.team.outcome? lane = some o)
      (hsweep : Sweep onEnd lanes { c₁ with team := onEnd lane c₁.team } turns c') :
      Sweep onEnd (lane :: lanes) c (⟨lane, true⟩ :: turns) c'

/-- How often lanes have come to the barrier, by which the loop notices that they make progress. -/
def progress (c : Chronicle FiberBarrier SoloGate) : Nat :=
  c.team.barrier.arrivals

/-- Lanes are left over, and a round has brought none of them any further. -/
structure Stuck (c c' : Chronicle FiberBarrier SoloGate) (turns : List Turn) : Prop where
  pending : c'.team.pending ≠ 0
  none_ended : ∀ turn ∈ turns, turn.ended = false
  progress_eq : c'.progress = c.progress

/-- The loop as it runs until it is over, with the number of its rounds and all polls in order. -/
inductive Scheduled (onEnd : Nat → Team FiberBarrier SoloGate → Team FiberBarrier SoloGate) :
    Nat → List Turn → Chronicle FiberBarrier SoloGate → Chronicle FiberBarrier SoloGate → Prop
  | finished {c : Chronicle FiberBarrier SoloGate} (h : c.team.pending = 0) :
      Scheduled onEnd 0 [] c c
  | stuck {turns : List Turn} {c c' : Chronicle FiberBarrier SoloGate}
      (hpending : c.team.pending ≠ 0)
      (hsweep : Sweep onEnd (List.range c.team.size) c turns c') (hstuck : c.Stuck c' turns) :
      Scheduled onEnd 1 turns c c'
  | round {rounds : Nat} {turns later : List Turn} {c c₁ c' : Chronicle FiberBarrier SoloGate}
      (hpending : c.team.pending ≠ 0)
      (hsweep : Sweep onEnd (List.range c.team.size) c turns c₁) (hgoes : ¬c.Stuck c₁ turns)
      (hrest : Scheduled onEnd rounds later c₁ c') :
      Scheduled onEnd (rounds + 1) (turns ++ later) c c'

variable {onEnd : Nat → Team FiberBarrier SoloGate → Team FiberBarrier SoloGate} {lane rounds : Nat}
  {lanes : List Nat} {turns : List Turn} {c c₁ c' : Chronicle FiberBarrier SoloGate}

theorem step_eq_none (h : c.team.step lane = none) : c.step lane = none := by
  rw [step, h]
  cases c.team.stage? lane <;> rfl

section Deterministic

theorem Polled.unique (h : c.Polled lane c₁) (h' : c.Polled lane c') : c₁ = c' := by
  induction h with
  | rest hrest =>
      cases h' with
      | rest => rfl
      | go hgo => exact nomatch (step_eq_none hrest).symm.trans hgo
  | go hgo _ ih =>
      cases h' with
      | rest hrest => exact nomatch (step_eq_none hrest).symm.trans hgo
      | go hgo' hpolled => exact ih (Option.some.inj (hgo.symm.trans hgo') ▸ hpolled)

theorem Sweep.unique {turns' : List Turn} (h : Sweep onEnd lanes c turns c₁)
    (h' : Sweep onEnd lanes c turns' c') : turns = turns' ∧ c₁ = c' := by
  induction h generalizing turns' with
  | nil =>
      cases h'
      exact ⟨rfl, rfl⟩
  | skip hended _ ih =>
      cases h' with
      | skip _ hsweep => exact ih hsweep
      | pending hopen => exact nomatch hopen.symm.trans hended
      | ready hopen => exact nomatch hopen.symm.trans hended
  | pending hopen hpolled hwaits _ ih =>
      cases h' with
      | skip hended => exact nomatch hopen.symm.trans hended
      | pending _ hpolled' _ hsweep =>
          obtain rfl := hpolled.unique hpolled'
          obtain ⟨rfl, rfl⟩ := ih hsweep
          exact ⟨rfl, rfl⟩
      | ready _ hpolled' hended =>
          obtain rfl := hpolled.unique hpolled'
          exact nomatch hwaits.symm.trans hended
  | ready hopen hpolled hended _ ih =>
      cases h' with
      | skip hended' => exact nomatch hopen.symm.trans hended'
      | pending _ hpolled' hwaits =>
          obtain rfl := hpolled.unique hpolled'
          exact nomatch hwaits.symm.trans hended
      | ready _ hpolled' _ hsweep =>
          obtain rfl := hpolled.unique hpolled'
          obtain ⟨rfl, rfl⟩ := ih hsweep
          exact ⟨rfl, rfl⟩

theorem Scheduled.unique {rounds' : Nat} {turns' : List Turn} (h : Scheduled onEnd rounds turns c c₁)
    (h' : Scheduled onEnd rounds' turns' c c') : rounds = rounds' ∧ turns = turns' ∧ c₁ = c' := by
  induction h generalizing rounds' turns' with
  | finished hnone =>
      cases h' with
      | finished => exact ⟨rfl, rfl, rfl⟩
      | stuck hpending => exact absurd hnone hpending
      | round hpending => exact absurd hnone hpending
  | stuck hpending hsweep hstuck =>
      cases h' with
      | finished hnone => exact absurd hnone hpending
      | stuck _ hsweep' _ =>
          obtain ⟨rfl, rfl⟩ := hsweep.unique hsweep'
          exact ⟨rfl, rfl, rfl⟩
      | round _ hsweep' hgoes =>
          obtain ⟨rfl, rfl⟩ := hsweep.unique hsweep'
          exact absurd hstuck hgoes
  | round hpending hsweep hgoes _ ih =>
      cases h' with
      | finished hnone => exact absurd hnone hpending
      | stuck _ hsweep' hstuck =>
          obtain ⟨rfl, rfl⟩ := hsweep.unique hsweep'
          exact absurd hstuck hgoes
      | round _ hsweep' _ hrest =>
          obtain ⟨rfl, rfl⟩ := hsweep.unique hsweep'
          obtain ⟨rfl, rfl, rfl⟩ := ih hrest
          exact ⟨rfl, rfl, rfl⟩

end Deterministic

section Preserved

variable {P : Chronicle FiberBarrier SoloGate → Prop}
  (hstep : ∀ c lane c', P c → c.step lane = some c' → P c')

include hstep

theorem Polled.preserves (h : c.Polled lane c') (hc : P c) : P c' := by
  induction h with
  | rest => exact hc
  | go hgo _ ih => exact ih (hstep _ lane _ hc hgo)

variable (hend : ∀ c lane, P c → P { c with team := onEnd lane c.team })

include hend

theorem Sweep.preserves (h : Sweep onEnd lanes c turns c') (hc : P c) : P c' := by
  induction h with
  | nil => exact hc
  | skip _ _ ih => exact ih hc
  | pending _ hpolled _ _ ih => exact ih (hpolled.preserves hstep hc)
  | ready _ hpolled _ _ ih => exact ih (hend _ _ (hpolled.preserves hstep hc))

theorem Scheduled.preserves (h : Scheduled onEnd rounds turns c c') (hc : P c) : P c' := by
  induction h with
  | finished => exact hc
  | stuck _ hsweep _ => exact hsweep.preserves hstep hend hc
  | round _ hsweep _ _ ih => exact ih (hsweep.preserves hstep hend hc)

end Preserved

section Once

/-- Lanes that have ended stay as they are, and no lane is polled after it has ended. -/
structure Spares (c c' : Chronicle FiberBarrier SoloGate) (turns : List Turn) : Prop where
  keeps : ∀ peer o, c.team.outcome? peer = some o → c'.team.outcome? peer = some o
  unended : ∀ turn ∈ turns, c.team.outcome? turn.lane = none
  ended : ∀ turn ∈ turns, turn.ended = true → (c'.team.outcome? turn.lane).isSome = true
  apart : turns.Pairwise fun turn later => turn.ended = true → later.lane ≠ turn.lane

theorem Spares.refl (c : Chronicle FiberBarrier SoloGate) : c.Spares c [] where
  keeps _ _ h := h
  unended _ h := absurd h List.not_mem_nil
  ended _ h := absurd h List.not_mem_nil
  apart := .nil

theorem Spares.append {later : List Turn} (h : c.Spares c₁ turns) (h' : c₁.Spares c' later) :
    c.Spares c' (turns ++ later) where
  keeps peer o hpeer := h'.keeps peer o (h.keeps peer o hpeer)
  unended turn hturn := by
    rcases List.mem_append.mp hturn with hturn | hturn
    · exact h.unended turn hturn
    · refine Option.eq_none_iff_forall_ne_some.mpr fun o ho => ?_
      exact nomatch (h'.unended turn hturn).symm.trans (h.keeps turn.lane o ho)
  ended turn hturn hended := by
    rcases List.mem_append.mp hturn with hturn | hturn
    · obtain ⟨o, ho⟩ := Option.isSome_iff_exists.mp (h.ended turn hturn hended)
      exact Option.isSome_of_eq_some (h'.keeps turn.lane o ho)
    · exact h'.ended turn hturn hended
  apart := by
    refine List.pairwise_append.mpr ⟨h.apart, h'.apart, fun turn hturn next hnext hended hsame => ?_⟩
    have hover := h.ended turn hturn hended
    rw [← hsame, h'.unended next hnext] at hover
    exact nomatch hover

theorem outcome?_step {peer : Nat} {o : Except Error Unit}
    (hpeer : c.team.outcome? peer = some o) (h : c.step lane = some c') :
    c'.team.outcome? peer = some o := by
  have hended := Team.outcome?_eq_some.mp hpeer
  obtain ⟨st, st', team, rfl, hlane, hstage, -, -⟩ := step_move h
  have hne : peer ≠ lane := by
    rintro rfl
    exact nomatch (step_eq_none (Team.step_of_ended hended)).symm.trans h
  refine Team.outcome?_eq_some.mpr (Eq.trans ?_ hended)
  rw [← Function.update_of_ne hne (some st') c.team.stage?, ← hstage]
  rfl

theorem Polled.spares (h : c.Polled lane c') (hopen : c.team.outcome? lane = none) {ended : Bool}
    (hended : (c'.team.outcome? lane).isSome = ended) : c.Spares c' [⟨lane, ended⟩] where
  keeps peer o hpeer :=
    h.preserves (P := fun c => c.team.outcome? peer = some o)
      (fun _ _ _ hpeer hgo => outcome?_step hpeer hgo) hpeer
  unended turn hturn := by
    obtain rfl := List.mem_singleton.mp hturn
    exact hopen
  ended turn hturn hover := by
    obtain rfl := List.mem_singleton.mp hturn
    exact hended.trans hover
  apart := List.pairwise_singleton _ _

variable (hquiet : ∀ lane t, ∃ reported, onEnd lane t = { t with reported })

include hquiet

theorem outcome?_onEnd (lane : Nat) (t : Team FiberBarrier SoloGate) :
    (onEnd lane t).outcome? = t.outcome? := by
  obtain ⟨reported, h⟩ := hquiet lane t
  rw [h]
  rfl

theorem Sweep.spares (h : Sweep onEnd lanes c turns c') : c.Spares c' turns := by
  induction h with
  | @nil c => exact .refl c
  | skip _ _ ih => exact ih
  | pending hopen hpolled hwaits _ ih =>
      exact (hpolled.spares hopen (by rw [hwaits]; rfl)).append ih
  | @ready lane _ _ o _ c₁ _ hopen hpolled hended _ ih =>
      have hnoted : c₁.Spares { c₁ with team := onEnd lane c₁.team } [] := by
        refine ⟨fun peer o hpeer => ?_, fun _ h => absurd h List.not_mem_nil,
          fun _ h => absurd h List.not_mem_nil, .nil⟩
        rw [outcome?_onEnd hquiet]
        exact hpeer
      exact (hpolled.spares hopen (by rw [hended]; rfl)).append (hnoted.append ih)

theorem Scheduled.spares (h : Scheduled onEnd rounds turns c c') : c.Spares c' turns := by
  induction h with
  | @finished c => exact .refl c
  | stuck _ hsweep _ => exact hsweep.spares hquiet
  | round _ hsweep _ _ ih => exact (hsweep.spares hquiet).append ih

end Once

end Chronicle

end LaneGrid
