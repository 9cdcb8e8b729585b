import LaneGrid.Proofs.Phase.Fibers
import LaneGrid.Proofs.Solitude.Course

namespace LaneGrid

open LoneGate

/-- The same result, the same observations and the same bytes; events may differ. -/
structure BlockReport.Alike (r r' : BlockReport) : Prop where
  result_eq : r.result = r'.result
  journals_eq : r.journals = r'.journals
  buffers_eq : r.buffers = r'.buffers

namespace BlockReport.Alike

variable {r r' r'' : BlockReport}

theorem symm (h : r.Alike r') : r'.Alike r :=
  ⟨h.result_eq.symm, h.journals_eq.symm, h.buffers_eq.symm⟩

theorem trans (h : r.Alike r') (h' : r'.Alike r'') : r.Alike r'' :=
  ⟨h.result_eq.trans h'.result_eq, h.journals_eq.trans h'.journals_eq,
    h.buffers_eq.trans h'.buffers_eq⟩

end BlockReport.Alike

namespace BlockTask

/-- What becomes of the only lane of a block. -/
def fate (b : BlockTask) : Except Fault Fate := do
  let lane ← b.lane (soloGrouping 1 1) 0
  return (b.kernel.program lane).fate b.block b.arena.capacity ⟨⟨.zeros, b.buffers⟩, 0, #[]⟩

/-- What a block of one lane leaves behind. -/
def loneReport (b : BlockTask) : BlockReport :=
  match b.fate with
  | .error f => b.refused (.fault f)
  | .ok (o, s) => ⟨o.mapError .error, [s.journal.toList], s.memory.buffers, []⟩

variable {β ω : Type} {b : BlockTask} {g : Grouping} {reserver : Reserver} {observed : Bool}
  {barrier : β} {warps : Array ω}

theorem team_of_one (hlanes : g.lanes = 1) : b.team g reserver observed barrier warps =
    match b.lane g 0 with
    | .error f => .error f
    | .ok lane => .ok {
        plan := ⟨b.block, b.arena, reserver, g.warpSize, observed⟩
        members := #[⟨.running (b.kernel.program lane), 0, #[]⟩]
        barrier, warps
        memory := ⟨.zeros, b.buffers⟩
        top := 0
        published := none
        reported := [] } := by
  rw [team, members, hlanes, Array.mapM_eq_mapM_toList, Array.toList_range]
  rcases hlane : b.lane g 0 with f | lane
  · simp [hlane]
  · simp [hlane]

variable [Gate β] [Gate ω]

/-- The lane has not taken a step, and has its gates to itself. -/
structure Solitary [LoneGate β] [LoneGate ω] (b : BlockTask) (start : Except Fault (Team β ω)) :
    Prop where
  refused : ∀ f, b.fate = .error f → start = .error f
  starts : ∀ fate, b.fate = .ok fate → ∃ t m, start = .ok t ∧ t.Lonely m fate
  within : ∀ t, start = .ok t → ∀ i st, t.stage? i = some st →
    ∃ p, st = .running p ∧ p.Within b.bound

variable [LoneGate β] [LoneGate ω]

theorem solitary_team (hlanes : g.lanes = 1) (hlane : b.lane g 0 = b.lane (soloGrouping 1 1) 0)
    (hbarrier : IsLone barrier) {w : ω} (hw : IsLone w) :
    b.Solitary (b.team g reserver observed barrier #[w]) where
  refused f h := by
    rw [team_of_one hlanes, hlane]
    rw [BlockTask.fate] at h
    rcases hdata : b.lane (soloGrouping 1 1) 0 with f' | lane
    · rw [hdata] at h
      cases h
      rfl
    · rw [hdata] at h
      cases h
  starts fate h := by
    rw [team_of_one hlanes, hlane]
    rw [BlockTask.fate] at h
    rcases hdata : b.lane (soloGrouping 1 1) 0 with f | lane
    · rw [hdata] at h
      cases h
    · rw [hdata] at h
      obtain rfl := Except.ok.inj h
      refine ⟨_, _, rfl, rfl, ⟨w, rfl, hbarrier, hw⟩, ?_⟩
      cases reserver <;> rfl
  within t ht i st hst := team_within ht hst

theorem solitary_soloTeam (b : BlockTask) (observed : Bool) : b.Solitary (b.soloTeam observed) :=
  solitary_team rfl rfl trivial trivial

theorem solitary_threadTeam (b : BlockTask) (reserver : Reserver) :
    b.Solitary (b.threadTeam 1 1 reserver) := by
  have hwarps : ((Array.range (threadGrouping 1 1).warps).map fun w =>
      ThreadBarrier.make ((threadGrouping 1 1).warpGroup w)) = #[.make 1] := by
    decide +kernel
  have hlone : IsLone (ThreadBarrier.make 1) := ⟨Rendezvous.isLone_make, rfl, rfl⟩
  rw [threadTeam, hwarps]
  exact solitary_team (g := threadGrouping 1 1) rfl rfl hlone hlone

theorem report_lonely {t : Team β ω} {m : Member} {o : Except Error Unit} {s : LaneRecord}
    (h : t.Lonely m (o, s)) (hrest : t.AtRest) :
    t.pending = 0 ∧ (report t (firstResult t)).Alike
      ⟨o.mapError .error, [s.journal.toList], s.memory.buffers, []⟩ := by
  obtain ⟨hstage, hrecord⟩ := Team.stage_of_atRest h.members_eq h.outlook_eq hrest
  obtain rfl := hrecord
  obtain ⟨stage, top, journal⟩ := m
  dsimp only at hstage
  subst hstage
  refine ⟨?_, ?_, ?_, ?_⟩
  · simp [Team.pending, h.members_eq, Stage.outcome?]
  · cases o <;> simp [report, firstResult, Team.firstError?, h.members_eq, Except.mapError]
  · simp [report, h.members_eq]
    rfl
  · rfl

theorem lonely_step {fate : Fate} (t : Team β ω) (lane : Nat) (t' : Team β ω)
    (h : ∃ m, t.Lonely m fate) (hstep : t.step lane = some t') : ∃ m, t'.Lonely m fate := by
  obtain ⟨m, hlonely⟩ := h
  exact (hlonely.step hstep).2

theorem runAlone_alike (b : BlockTask) (observed : Bool) :
    (b.runAlone observed).Alike b.loneReport := by
  have hsolitary := b.solitary_soloTeam observed
  rw [runAlone_eq, loneReport]
  rcases hfate : b.fate with f | ⟨o, s⟩
  · rw [hsolitary.refused f hfate]
    exact ⟨rfl, rfl, rfl⟩
  · obtain ⟨t, m, ht, hlonely⟩ := hsolitary.starts _ hfate
    have hwithin := Team.within_of_running (hsolitary.within t ht)
    rw [hlonely.size_eq, Nat.one_mul] at hwithin
    obtain ⟨m', hlast⟩ :=
      Team.turn_induction lonely_step ⟨m, hlonely⟩ 0 (Team.stepBound b.bound)
    have hrest : (t.turn 0 (Team.stepBound b.bound)).AtRest := by
      intro lane
      rcases Nat.eq_zero_or_pos lane with rfl | hpos
      · exact hwithin.step_turn 0 (Nat.le_refl _)
      · exact Team.step_of_size_le (hlast.size_eq.trans_le hpos)
    rw [ht]
    exact (report_lonely hlast hrest).2

theorem runThreads_alike (b : BlockTask) (reserver : Reserver) :
    (b.runThreads 1 1 reserver).Alike b.loneReport := by
  have hsolitary := b.solitary_threadTeam reserver
  rw [runThreads_eq, loneReport]
  rcases hfate : b.fate with f | ⟨o, s⟩
  · rw [hsolitary.refused f hfate]
    exact ⟨rfl, rfl, rfl⟩
  · obtain ⟨t, m, ht, hlonely⟩ := hsolitary.starts _ hfate
    have hrest := Team.atRest_run (hsolitary.within t ht) fun _ t => ⟨t.reported, rfl⟩
    obtain ⟨m', hlast⟩ :=
      Team.run_induction lonely_step (fun _ _ h => h) ⟨m, hlonely⟩ b.bound
    rw [ht]
    dsimp only
    generalize (t.run b.bound fun _ t => t).2 = t' at hrest hlast
    obtain ⟨hpending, halike⟩ := report_lonely hlast hrest
    obtain ⟨hspares, w, hwarps, hspares'⟩ := hlast.spares hrest
    have hbarrier : t'.barrier.stranded = none := hspares
    have hwarp : w.stranded = none := hspares'
    have hresult : b.threadsResult t' = firstResult t' := by
      simp [threadsResult, hbarrier, hwarps, hwarp, hpending]
    rw [hresult]
    exact halike

theorem takeTurns_alike {t : Team FiberBarrier SoloGate} {m : Member} {o : Except Error Unit}
    {s : LaneRecord} (hlonely : t.Lonely m (o, s)) (hwithin : ∀ i st, t.stage? i = some st →
      ∃ p, st = .running p ∧ p.Within b.bound) :
    (b.takeTurns 1 t).Alike ⟨o.mapError .error, [s.journal.toList], s.memory.buffers, []⟩ := by
  have hrest := Team.atRest_run hwithin (noteFailure_eq b.block)
  have hquiet (t : Team FiberBarrier SoloGate) (lane : Nat) (h : ∃ m, t.Lonely m (o, s)) :
      ∃ m, (noteFailure b.block lane t).Lonely m (o, s) := by
    obtain ⟨m, h⟩ := h
    obtain ⟨reported, hnote⟩ := noteFailure_eq b.block lane t
    rw [hnote]
    exact ⟨m, h.members_eq, h.gates, h.outlook_eq⟩
  obtain ⟨m', hlast⟩ := Team.run_induction lonely_step hquiet ⟨m, hlonely⟩ b.bound
  rw [takeTurns]
  generalize t.run b.bound (noteFailure b.block) = r at hrest hlast
  obtain ⟨rounds, t'⟩ := r
  dsimp only at hrest hlast ⊢
  obtain ⟨hpending, halike⟩ := report_lonely hlast hrest
  obtain ⟨reported, hreport⟩ := t'.report_eq (.fibersFinished b.block 1 rounds)
  rw [if_pos hpending, hreport]
  exact ⟨halike.result_eq, halike.journals_eq, halike.buffers_eq⟩

end BlockTask

end LaneGrid
