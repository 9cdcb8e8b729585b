import LaneGrid.Backend.Block
import LaneGrid.Proofs.Box.Checked
import LaneGrid.Proofs.Outcome
import LaneGrid.Proofs.Team.Move

namespace LaneGrid

/-- Every lane runs, and nothing has happened yet. -/
structure Team.Starts {β ω : Type} (t : Team β ω) (lanes : Nat) : Prop where
  lanes_iff : ∀ lane, (t.stage? lane).isSome = true ↔ lane < lanes
  running : ∀ lane st, t.stage? lane = some st → ∃ p, st = .running p
  top_eq : t.top = 0
  published_eq : t.published = none

namespace BlockTask

variable {b : BlockTask} {g : Grouping}

theorem forall₂_members {members : Array Member} (h : b.members g = .ok members) :
    List.Forall₂ (fun number (m : Member) => ∃ lane, b.lane g number = .ok lane ∧
      m = ⟨.running (b.kernel.program lane), 0, #[]⟩) (List.range g.lanes) members.toList := by
  rw [BlockTask.members, Array.mapM_eq_mapM_toList, Array.toList_range, map_eq_ok] at h
  obtain ⟨list, hlist, rfl⟩ := h
  refine (forall₂_of_mapM_eq_ok hlist).imp fun number m hm => ?_
  obtain ⟨lane, hlane, hm⟩ := bind_eq_ok.mp hm
  exact ⟨lane, hlane, (Except.ok.inj hm).symm⟩

theorem team_starts {β ω : Type} {reserver : Reserver} {observed : Bool} {barrier : β}
    {warps : Array ω} {t : Team β ω} (h : b.team g reserver observed barrier warps = .ok t) :
    t.Starts g.lanes ∧ t.plan = ⟨b.block, b.arena, reserver, g.warpSize, observed⟩ ∧
      t.barrier = barrier := by
  obtain ⟨members, hmembers, h⟩ := bind_eq_ok.mp h
  obtain rfl := Except.ok.inj h
  have hall := forall₂_members hmembers
  have hsize : members.size = g.lanes := by
    rw [← Array.length_toList, ← hall.length_eq, List.length_range]
  refine ⟨?_, rfl, rfl⟩
  constructor
  case lanes_iff =>
    intro lane
    rw [Team.stage?, Option.isSome_map, ← hsize, isSome_getElem?]
  case running =>
    intro lane st hst
    obtain ⟨m, hm, rfl⟩ := Option.map_eq_some_iff.mp hst
    obtain ⟨hlt, rfl⟩ := Array.getElem?_eq_some_iff.mp hm
    have hrange : lane < (List.range g.lanes).length := by
      rw [List.length_range, ← hsize]
      exact hlt
    obtain ⟨_, -, hmember⟩ := hall.get hrange hlt
    exact ⟨_, congrArg Member.stage hmember⟩
  case top_eq => rfl
  case published_eq => rfl

theorem team_warps {β ω : Type} {reserver : Reserver} {observed : Bool} {barrier : β}
    {warps : Array ω} {t : Team β ω} (h : b.team g reserver observed barrier warps = .ok t) :
    t.warps = warps := by
  obtain ⟨members, -, h⟩ := bind_eq_ok.mp h
  obtain rfl := Except.ok.inj h
  rfl

theorem exists_lane (b : BlockTask) (g : Grouping) (number : Nat) :
    ∃ data, b.lane g number = .ok data := by
  obtain ⟨blockIndex, hblock⟩ := Box.exists_delinearize b.block b.division.gridBlocks
  obtain ⟨threadIndex, hthread⟩ := Box.exists_delinearize number b.division.blockThreads
  rw [lane, hblock, ok_bind, hthread]
  exact ⟨_, rfl⟩

theorem eq_of_lane {number : Nat} {data : Lane} (h : b.lane g number = .ok data) :
    data.division = b.division ∧ data.number = number ∧ data.blockGroup = g.blockGroup ∧
      data.arena = b.arena := by
  obtain ⟨blockIndex, -, h⟩ := bind_eq_ok.mp h
  obtain ⟨threadIndex, -, h⟩ := bind_eq_ok.mp h
  obtain rfl := Except.ok.inj h
  exact ⟨rfl, rfl, rfl, rfl⟩

theorem team_members {β ω : Type} {reserver : Reserver} {observed : Bool} {barrier : β}
    {warps : Array ω} {t : Team β ω} (h : b.team g reserver observed barrier warps = .ok t)
    {lane : Nat} {m : Member} (hm : t.members[lane]? = some m) :
    ∃ data, b.lane g lane = .ok data ∧ m = ⟨.running (b.kernel.program data), 0, #[]⟩ := by
  obtain ⟨members, hmembers, h⟩ := bind_eq_ok.mp h
  obtain rfl := Except.ok.inj h
  obtain ⟨hlt, rfl⟩ := Array.getElem?_eq_some_iff.mp hm
  have hall := forall₂_members hmembers
  obtain ⟨data, hdata, hmember⟩ := hall.get (hall.length_eq ▸ hlt) hlt
  rw [List.get_eq_getElem, List.getElem_range] at hdata
  exact ⟨data, hdata, hmember⟩

theorem team_within {β ω : Type} {reserver : Reserver} {observed : Bool} {barrier : β}
    {warps : Array ω} {t : Team β ω} (h : b.team g reserver observed barrier warps = .ok t)
    {lane : Nat} {st : Stage} (hst : t.stage? lane = some st) :
    ∃ p, st = .running p ∧ p.Within b.bound := by
  obtain ⟨m, hm, rfl⟩ := Option.map_eq_some_iff.mp hst
  obtain ⟨data, hdata, rfl⟩ := team_members h hm
  refine ⟨_, rfl, ?_⟩
  rw [bound, ← (eq_of_lane hdata).1]
  exact b.kernel.within data

theorem exists_team {β ω : Type} (b : BlockTask) (g : Grouping) (reserver : Reserver)
    (observed : Bool) (barrier : β) (warps : Array ω) :
    ∃ t, b.team g reserver observed barrier warps = .ok t := by
  have hmember : ∀ number ∈ List.range g.lanes, ∃ m : Member,
      (do return ⟨.running (b.kernel.program (← b.lane g number)), 0, #[]⟩) = Except.ok m := by
    intro number _
    obtain ⟨data, hdata⟩ := b.exists_lane g number
    exact ⟨_, by rw [hdata]; rfl⟩
  obtain ⟨members, hmembers⟩ := exists_mapM_eq_ok hmember
  rw [team, BlockTask.members, Array.mapM_eq_mapM_toList, Array.toList_range, hmembers]
  exact ⟨_, rfl⟩

def threadGrouping (lanes warpSize : Nat) : Grouping where
  lanes
  warpSize := max warpSize 1
  blockGroup := max lanes 1
  warpGroup w := min (max warpSize 1) (lanes - w * max warpSize 1)

/-- The lanes of a block that have threads of their own, before any of them takes a step. -/
def threadTeam (b : BlockTask) (lanes warpSize : Nat) (reserver : Reserver) :
    Except Fault (Team ThreadBarrier ThreadBarrier) :=
  b.team (threadGrouping lanes warpSize) reserver false (ThreadBarrier.make lanes)
    ((Array.range (threadGrouping lanes warpSize).warps).map fun w =>
      ThreadBarrier.make ((threadGrouping lanes warpSize).warpGroup w))

theorem runThreads_eq (b : BlockTask) (lanes warpSize : Nat) (reserver : Reserver) :
    b.runThreads lanes warpSize reserver = match b.threadTeam lanes warpSize reserver with
      | .error f => b.refused (.fault f)
      | .ok t =>
        report (t.run b.bound fun _ t => t).2 (b.threadsResult (t.run b.bound fun _ t => t).2) :=
  rfl

theorem runFibers_eq (b : BlockTask) (lanes : Nat) :
    b.runFibers lanes = match b.fiberTeam lanes with
      | .error f => b.refused (.fault f)
      | .ok t =>
        let (rounds, t) := t.run b.bound (noteFailure b.block)
        if t.pending = 0 then
          report (t.report (.fibersFinished b.block lanes rounds)) (firstResult t)
        else
          report (t.report (.fibersBlocked b.block t.pending lanes rounds))
            (.error (.error (t.firstError?.getD (.deadlock b.block t.pending lanes)))) :=
  rfl

/-- The only lane of a block, before it takes a step. -/
def soloTeam (b : BlockTask) (observed : Bool) : Except Fault (Team SoloGate SoloGate) :=
  b.team (soloGrouping 1 1) .lane observed SoloGate.mk #[SoloGate.mk]

theorem runAlone_eq (b : BlockTask) (observed : Bool) :
    b.runAlone observed = match b.soloTeam observed with
      | .error f => b.refused (.fault f)
      | .ok t =>
        report (t.turn 0 (Team.stepBound b.bound))
          (firstResult (t.turn 0 (Team.stepBound b.bound))) :=
  rfl

end BlockTask

end LaneGrid
