import LaneGrid.Proofs.Phase.Threads

namespace LaneGrid

structure Grid where
  division : WorkDivision
  kernel : Kernel
  arena : Arena
  teams : Array (Team ThreadBarrier ThreadBarrier)
  buffers : Array Bytes

namespace Grid

def task (g : Grid) (block : Nat) : BlockTask :=
  ⟨g.division, g.kernel, block, g.arena, g.buffers⟩

/-- The blocks of a launch before any of their lanes takes a step. -/
def start (division : WorkDivision) (kernel : Kernel) (arena : Arena) (buffers : Array Bytes)
    (blocks lanes warpSize : Nat) (reserver : Reserver) : Except Fault Grid := do
  let teams ← (Array.range blocks).mapM fun block =>
    BlockTask.threadTeam ⟨division, kernel, block, arena, buffers⟩ lanes warpSize reserver
  return { division, kernel, arena, teams, buffers }

/-- A block with the buffers as they are now. -/
def team? (g : Grid) (block : Nat) : Option (Team ThreadBarrier ThreadBarrier) :=
  (g.teams[block]?).map fun t => { t with memory := ⟨t.memory.shared, g.buffers⟩ }

/-- A lane of a block performs one operation. -/
def step (g : Grid) (block lane : Nat) : Option Grid := do
  let t ← g.team? block
  let t ← t.step lane
  return { g with teams := g.teams.setIfInBounds block t, buffers := t.memory.buffers }

def AtRest (g : Grid) : Prop :=
  ∀ block lane, g.step block lane = none

/-- In `n` steps, whatever their order, the one comes to the other. -/
inductive Run : Nat → Grid → Grid → Prop
  | refl {g : Grid} : Run 0 g g
  | step {n block lane : Nat} {g g' g'' : Grid} (h : g.step block lane = some g')
      (hrun : Run n g' g'') : Run (n + 1) g g''

def failure? (g : Grid) (block : Nat) : Option Failure := do
  let t ← g.team? block
  match (g.task block).threadsResult t with
  | .ok () => none
  | .error f => some f

/-- The result of a launch is that of the first block that fails. -/
def result (g : Grid) : Outcome Unit :=
  match (List.range g.teams.size).findSome? g.failure? with
  | some f => .error f
  | none => .ok ()

variable {g g' : Grid} {block lane n total : Nat} {t t' : Team ThreadBarrier ThreadBarrier}

theorem team?_lt (h : g.team? block = some t) : block < g.teams.size := by
  obtain ⟨t₁, ht₁, -⟩ := Option.map_eq_some_iff.mp h
  exact (Array.getElem?_eq_some_iff.mp ht₁).1

theorem buffers_of_team? (h : g.team? block = some t) : t.memory.buffers = g.buffers := by
  obtain ⟨t₁, -, rfl⟩ := Option.map_eq_some_iff.mp h
  rfl

theorem team?_of_buffers (h : g.teams[block]? = some t) (hbuffers : t.memory.buffers = g.buffers) :
    g.team? block = some t := by
  rw [team?, h, ← hbuffers]
  rfl

theorem step_eq_some : g.step block lane = some g' ↔ ∃ t t', g.team? block = some t ∧
    t.step lane = some t' ∧
    g' = { g with teams := g.teams.setIfInBounds block t', buffers := t'.memory.buffers } := by
  constructor
  · intro h
    obtain ⟨t, ht, h⟩ := Option.bind_eq_some_iff.mp h
    obtain ⟨t', ht', h⟩ := Option.bind_eq_some_iff.mp h
    exact ⟨t, t', ht, ht', (Option.some.inj h).symm⟩
  · rintro ⟨t, t', ht, ht', rfl⟩
    rw [step, ht, Option.bind_eq_bind, Option.bind_some, ht']
    rfl

theorem team?_step (h : g.team? block = some t) (t' : Team ThreadBarrier ThreadBarrier)
    (other : Nat) :
    team? { g with teams := g.teams.setIfInBounds block t', buffers := t'.memory.buffers } other =
      if other = block then some t' else (g.team? other).map fun t =>
        { t with memory := ⟨t.memory.shared, t'.memory.buffers⟩ } := by
  rw [team?, Array.getElem?_setIfInBounds]
  by_cases hother : other = block
  · subst hother
    rw [if_pos rfl, if_pos rfl, if_pos (team?_lt h)]
    rfl
  · rw [if_neg (Ne.symm hother), if_neg hother, team?, Option.map_map]
    rfl

/-- All blocks together have at most `total` steps to take. -/
def Within (total : Nat) (g : Grid) : Prop :=
  ∃ budget : Nat → Nat, (∀ block t, g.team? block = some t → t.Within (budget block)) ∧
    ∑ block ∈ Finset.range g.teams.size, budget block ≤ total

/-- What the blocks of a launch are to do. None of them changes what is the others' own. -/
structure Concert (blocks : Nat) (σ : Nat → Score) (own : Nat → Place → Prop) (Φ : Nat → Nat) :
    Prop where
  lanes_pos : ∀ block < blocks, 0 < (σ block).lanes
  completes : ∀ block < blocks, (σ block).Completes (own block) (Φ block)
  ends_well : ∀ block < blocks, ∀ i < (σ block).lanes,
    ((σ block).close (Φ block) i).program = .finish (.ok ())
  apart : ∀ block < blocks, ∀ other < blocks, other ≠ block → ∀ i offset,
    own block ⟨.buffer i, offset⟩ → (σ other).Spares (Φ other) ⟨.buffer i, offset⟩

variable {blocks : Nat} {σ : Nat → Score} {own : Nat → Place → Prop} {Φ : Nat → Nat}
  {buffers : Array Bytes}

/-- All blocks are on their way to the end of their scores. -/
structure OnScores (blocks : Nat) (σ : Nat → Score) (own : Nat → Place → Prop) (Φ : Nat → Nat)
    (buffers : Array Bytes) (g : Grid) : Prop where
  size_eq : g.teams.size = blocks
  onScore : ∀ block t, g.team? block = some t → OnScore (σ block) (own block) (Φ block) t
  reach_eq : g.buffers.size = buffers.size
  /-- What no block changes is as it was. -/
  frame : ∀ i offset, (∀ block < blocks, (σ block).Spares (Φ block) ⟨.buffer i, offset⟩) →
    (Memory.mk .zeros g.buffers).contents ⟨.buffer i, offset⟩ =
      (Memory.mk .zeros buffers).contents ⟨.buffer i, offset⟩

theorem OnScores.step (h : g.OnScores blocks σ own Φ buffers) (hσ : Concert blocks σ own Φ)
    (hwithin : g.Within total) (hstep : g.step block lane = some g') :
    g'.OnScores blocks σ own Φ buffers ∧ ∃ total', g'.Within total' ∧ total' < total := by
  obtain ⟨t, t', ht, ht', rfl⟩ := step_eq_some.mp hstep
  have hblock : block < blocks := h.size_eq ▸ team?_lt ht
  have hscore := h.onScore block t ht
  obtain ⟨hscore', hframe, hsize⟩ := hscore.step (hσ.completes block hblock) ht'
  have hbuffers := buffers_of_team? ht
  have hcontents (i offset : Nat)
      (hspares : (σ block).Spares (Φ block) ⟨.buffer i, offset⟩) :
      (Memory.mk .zeros t'.memory.buffers).contents ⟨.buffer i, offset⟩ =
        (Memory.mk .zeros g.buffers).contents ⟨.buffer i, offset⟩ := by
    rw [← hbuffers]
    exact hframe _ hspares
  refine ⟨⟨?_, fun other t₁ ht₁ => ?_, ?_, fun i offset hspares => ?_⟩, ?_⟩
  · rw [← h.size_eq]
    exact Array.size_setIfInBounds
  · rw [team?_step ht] at ht₁
    split at ht₁
    · rename_i hother
      rw [hother]
      exact Option.some.inj ht₁ ▸ hscore'
    · rename_i hother
      obtain ⟨t₀, ht₀, rfl⟩ := Option.map_eq_some_iff.mp ht₁
      have hlt : other < blocks := h.size_eq ▸ team?_lt ht₀
      refine (h.onScore other t₀ ht₀).elsewhere ?_ fun x hx => ?_
      · rw [buffers_of_team? ht₀, ← hbuffers]
        exact hsize
      · rcases x with ⟨_ | i, offset⟩
        · rfl
        · refine (hcontents i offset (hσ.apart other hlt block hblock (Ne.symm hother) i offset
            hx)).trans ?_
          rw [← buffers_of_team? ht₀]
          rfl
  · rw [← h.reach_eq, ← hbuffers]
    exact hsize
  · exact (hcontents i offset (hspares block hblock)).trans (h.frame i offset hspares)
  · obtain ⟨budget, hbudget, hle⟩ := hwithin
    obtain ⟨m, hm, hlt⟩ := (hbudget block t ht).step ht'
    refine ⟨_, ⟨Function.update budget block m, fun other t₁ ht₁ => ?_, Nat.le_refl _⟩, ?_⟩
    · rw [team?_step ht] at ht₁
      split at ht₁
      · rename_i hother
        rw [hother, Function.update_self]
        exact Option.some.inj ht₁ ▸ hm
      · rename_i hother
        obtain ⟨t₀, ht₀, rfl⟩ := Option.map_eq_some_iff.mp ht₁
        rw [Function.update_of_ne hother]
        exact hbudget other t₀ ht₀
    · dsimp only
      rw [Array.size_setIfInBounds]
      exact Nat.lt_of_lt_of_le (Team.sum_update_lt (team?_lt ht) hlt) hle

theorem OnScores.run (h : g.OnScores blocks σ own Φ buffers) (hσ : Concert blocks σ own Φ)
    (hwithin : g.Within total) (hrun : Run n g g') :
    n ≤ total ∧ g'.OnScores blocks σ own Φ buffers := by
  induction hrun generalizing total with
  | refl => exact ⟨Nat.zero_le _, h⟩
  | step hstep hrun ih =>
      obtain ⟨hnext, total', hwithin', hlt⟩ := h.step hσ hwithin hstep
      obtain ⟨hle, hend⟩ := ih hnext hwithin'
      exact ⟨by omega, hend⟩

theorem OnScores.at_rest (h : g.OnScores blocks σ own Φ buffers) (hσ : Concert blocks σ own Φ)
    (hrest : g.AtRest) :
    g.result = .ok () ∧ ∀ block < blocks, ∀ i offset, own block ⟨.buffer i, offset⟩ →
      (Memory.mk .zeros g.buffers).contents ⟨.buffer i, offset⟩ =
        (σ block).merge (Φ block) ((σ block).close (Φ block)) ⟨.buffer i, offset⟩ := by
  have hend {block : Nat} {t : Team ThreadBarrier ThreadBarrier} (ht : g.team? block = some t) :=
    have hblock : block < blocks := h.size_eq ▸ team?_lt ht
    (h.onScore block t ht).at_rest (hσ.completes block hblock) (hσ.lanes_pos block hblock)
      fun lane => by
        have hstays := hrest block lane
        rw [Grid.step, ht, Option.bind_eq_bind, Option.bind_some] at hstays
        rcases hstep : t.step lane with _ | t'
        · rfl
        · rw [hstep] at hstays
          cases hstays
  constructor
  · have hnone : (List.range g.teams.size).findSome? g.failure? = none := by
      rw [List.findSome?_eq_none_iff]
      intro block _
      rw [failure?]
      rcases ht : g.team? block with _ | t
      · rfl
      · have hscore := h.onScore block t ht
        have hended : ∀ i < (σ block).lanes, t.outcome? i = some (.ok ()) := by
          intro i hi
          obtain ⟨o, hfinish, hst⟩ := (hend ht).1 i hi
          rw [hσ.ends_well block (h.size_eq ▸ team?_lt ht) i hi] at hfinish
          obtain rfl := Program.finish.inj hfinish
          exact Team.outcome?_eq_some.mpr hst
        have hpending : t.pending = 0 := Team.pending_eq_zero.mpr fun i st hst =>
          ⟨_, Option.some.inj (hst.symm.trans
            (Team.outcome?_eq_some.mp (hended i (hscore.stage?_lt hst))))⟩
        have hok : BlockTask.resultOf (σ block).lanes t.outcome? = .ok () :=
          BlockTask.resultOf_eq_ok.mpr fun i hi => by rw [hended i hi]; rfl
        rw [Option.bind_eq_bind, Option.bind_some, hscore.threadsResult_eq _ hpending, hok]
    rw [result, hnone]
  · intro block hblock i offset hown
    obtain ⟨t₁, ht₁⟩ : ∃ t, g.team? block = some t :=
      ⟨_, congrArg _ (Array.getElem?_eq_getElem (h.size_eq ▸ hblock))⟩
    rw [← (hend ht₁).2 _ hown, ← buffers_of_team? ht₁]
    rfl

end Grid

end LaneGrid
