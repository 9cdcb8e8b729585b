import LaneGrid.Backend.Block
import LaneGrid.Proofs.Phase.Completes
import LaneGrid.Proofs.Phase.Trace
import LaneGrid.Proofs.Team.Budget
import LaneGrid.Proofs.Team.Start

namespace LaneGrid

open Deed MeetingGate

/-- The lanes of a block do the same together, and between two meetings none of them touches what
another one writes. -/
structure RaceFree (lanes : Nat) (log : Nat → List Deed) : Prop where
  same : ∀ i < lanes, ∀ j < lanes, joint .master (log i) = joint .master (log j)
  apart : ∀ i < lanes, ∀ j < lanes, i ≠ j → ∀ k x, Wrote (log i) k x → ¬Touched (log j) k x

theorem RaceFree.harmonious {lanes : Nat} {log : Nat → List Deed} (h : RaceFree lanes log)
    {own : Place → Prop} (hown : ∀ i < lanes, ∀ d ∈ log i, ∀ x, d.Touches x → own x) :
    Harmonious .master lanes own log :=
  ⟨fun i hi j hj => .inl (h.same i hi j hj ▸ List.prefix_refl _), h.apart, hown⟩

namespace Follows

variable {β : Type} [Gate β] [MeetingGate β] {σ : Score} {own : Place → Prop} {s : Scene β}

theorem start (reserver : Reserver)
    (hstage : ∀ i, s.stage? i = if i < σ.lanes then some (.running (σ.program i)) else none)
    (hmeeting : meeting s.barrier = .make σ.lanes) (hdeparted : departed s.barrier = 0)
    (htop : s.top = 0) (hpublished : s.published = none)
    (htops : ∀ i, s.tops i = 0) (hreach : s.memory.buffers.size = σ.reach)
    (hcontents : ∀ x, own x → s.memory.contents x = σ.contents x) :
    Follows σ reserver own 0 (σ.phase 0) (fun _ => []) s := by
  have hstage' {i : Nat} {st : Stage} (hst : s.stage? i = some st) :
      i < σ.lanes ∧ st = .running (σ.program i) := by
    rw [hstage] at hst
    split at hst
    · rename_i hi
      exact ⟨hi, (Option.some.inj hst).symm⟩
    · cases hst
  have hnow {i : Nat} {st : Stage} (hst : s.now? i = some st) :
      i < σ.lanes ∧ st = .running (σ.program i) := by
    obtain ⟨st₁, hst₁, rfl⟩ := Option.map_eq_some_iff.mp hst
    obtain ⟨hi, rfl⟩ := hstage' hst₁
    exact ⟨hi, rfl⟩
  have hcalm (i : Nat) : ¬Waits s.now? i := by
    rintro ⟨st, hst, hwaits⟩
    obtain ⟨-, rfl⟩ := hnow hst
    cases hwaits
  refine ⟨?_, ?_, ?_⟩
  · rw [hmeeting]
    exact Nat.lt_of_lt_of_le Nat.zero_lt_one (Nat.le_max_right _ _)
  · constructor
    case size_eq => rw [hmeeting]; rfl
    case lanes =>
      intro i
      rw [Scene.now?, Option.isSome_map, hstage]
      split <;> simp_all
    case stands =>
      intro i st hst
      obtain ⟨-, rfl⟩ := hnow hst
      exact ⟨[], .running, rfl⟩
    case onWay => exact fun i _ => rfl
    case meets_eq => exact fun i _ => rfl
    case level =>
      refine ⟨0, false, fun i st hst => ?_⟩
      obtain ⟨-, rfl⟩ := hnow hst
      exact ⟨rfl, rfl⟩
    case present =>
      refine ⟨[], List.nodup_nil, fun i => ?_, ?_, ?_⟩
      · exact ⟨fun hi => absurd hi List.not_mem_nil, fun hi => absurd hi (hcalm i)⟩
      · rw [hmeeting]; rfl
      · rw [hmeeting]; rfl
    case departed_le =>
      exact ⟨[], List.nodup_nil, fun i hi => absurd hi List.not_mem_nil, Nat.le_of_eq hdeparted⟩
  · refine ⟨fun _ st hst => ?_, fun _ i _ => htops i, hreach, fun i _ x hown _ => hcontents x hown⟩
    obtain ⟨-, rfl⟩ := hnow hst
    exact ⟨[], rfl, htop, hpublished⟩

end Follows

theorem Scene.Act.contents_eq {β : Type} [Gate β] {block capacity : Nat} {reserver : Reserver}
    {lane : Nat} {s s' : Scene β} {st : Stage} (h : s.Act block capacity reserver lane st s')
    {x : Place} (hx : ∀ d, st.deed? = some d → ¬d.Writes x) :
    s'.memory.contents x = s.memory.contents x := by
  cases h with
  | @access p k a next v memory haccess =>
      have hcontents := s.memory.access_contents p a
      rw [haccess] at hcontents
      exact Contents.access_frame hcontents.symm fun hwrites => hx _ rfl (writes_access.mpr hwrites)
  | publish =>
      rw [Scene.put]
      dsimp only
      split <;> rfl
  | _ => rfl

theorem Scene.Act.size_eq {β : Type} [Gate β] {block capacity : Nat} {reserver : Reserver}
    {lane : Nat} {s s' : Scene β} {st : Stage} (h : s.Act block capacity reserver lane st s') :
    s'.memory.buffers.size = s.memory.buffers.size := by
  cases h with
  | access haccess => exact Memory.size_of_access haccess
  | publish =>
      rw [Scene.put]
      dsimp only
      split <;> rfl
  | _ => rfl

/-- The lanes of a kernel meet nobody but the lanes of their block, and do not depend on how these
are split into warps. -/
structure Kernel.Portable (k : Kernel) : Prop where
  plain : ∀ lane, (k.program lane).Plain
  blind : ∀ (lane : Lane) (size group : Nat),
    k.program { lane with warpSize := size, warpGroup := group } = k.program lane

namespace BlockTask

variable {b : BlockTask} {lanes : Nat}

/-- What becomes of the lanes of a block that take turns, with their deeds. -/
def fiberTrace (b : BlockTask) (lanes : Nat) : Except Fault (Traced FiberBarrier SoloGate) := do
  return ((Traced.start (← b.fiberTeam lanes)).run b.bound (noteFailure b.block)).2

def fiberLog (b : BlockTask) (lanes : Nat) : Nat → List Deed :=
  match b.fiberTrace lanes with
  | .ok t => t.log
  | .error _ => fun _ => []

/-- What the lanes of a block are to do. -/
def score (b : BlockTask) (lanes : Nat) : Score where
  block := b.block
  lanes
  capacity := b.arena.capacity
  reach := b.buffers.size
  program number := match b.lane (soloGrouping lanes (max lanes 1)) number with
    | .ok lane => b.kernel.program lane
    | .error f => .finish (.error (.fault f))
  contents := (Memory.mk .zeros b.buffers).contents

theorem blockGroup_lane {g : Grouping} {number : Nat} {lane : Lane}
    (h : b.lane g number = .ok lane) : lane.blockGroup = g.blockGroup :=
  (eq_of_lane h).2.2.1

theorem lane_regroup {g : Grouping} {number : Nat} {lane : Lane}
    (h : b.lane g number = .ok lane) (g' : Grouping) : b.lane g' number = .ok { lane with
      warpSize := g'.warpSize
      blockGroup := g'.blockGroup
      warpGroup := g'.warpGroup (number / g'.warpSize) } := by
  obtain ⟨blockIndex, hblock, h⟩ := bind_eq_ok.mp h
  obtain ⟨threadIndex, hthread, h⟩ := bind_eq_ok.mp h
  obtain rfl := Except.ok.inj h
  rw [lane, hblock, ok_bind, hthread]
  rfl

variable {β ω : Type}

theorem team_scene (hkernel : b.kernel.Portable) {g : Grouping} {reserver : Reserver}
    {observed : Bool} {barrier : β} {warps : Array ω} {t : Team β ω}
    (h : b.team g reserver observed barrier warps = .ok t) (hgroup : g.blockGroup = max g.lanes 1) :
    (∀ i, t.stage? i =
      if i < g.lanes then some (.running ((b.score g.lanes).program i)) else none) ∧
    t.warps = warps ∧ t.memory = ⟨.zeros, b.buffers⟩ ∧ ∀ i, t.scene.tops i = 0 := by
  obtain ⟨members, hmembers, h⟩ := bind_eq_ok.mp h
  obtain rfl := Except.ok.inj h
  have hall := forall₂_members hmembers
  have hsize : members.size = g.lanes := by
    rw [← Array.length_toList, ← hall.length_eq, List.length_range]
  have hmember {i : Nat} (hi : i < members.size) : ∃ lane, b.lane g i = .ok lane ∧
      members[i] = ⟨.running (b.kernel.program lane), 0, #[]⟩ := by
    have hrange : i < (List.range g.lanes).length := by
      rw [List.length_range, ← hsize]
      exact hi
    obtain ⟨lane, hlane, heq⟩ := hall.get hrange hi
    refine ⟨lane, ?_, heq⟩
    rw [List.get_eq_getElem, List.getElem_range] at hlane
    exact hlane
  refine ⟨fun i => ?_, rfl, rfl, fun i => ?_⟩
  · rw [Team.stage?]
    split
    · rename_i hi
      rw [← hsize] at hi
      obtain ⟨lane, hlane, heq⟩ := hmember hi
      have hblind := hkernel.blind lane 1 1
      have hsame : { lane with
          warpSize := 1, blockGroup := max g.lanes 1, warpGroup := 1 } =
          ({ lane with warpSize := 1, warpGroup := 1 } : Lane) := by
        rw [← hgroup, ← blockGroup_lane hlane]
      dsimp only
      rw [Array.getElem?_eq_getElem hi, heq, score]
      dsimp only
      rw [lane_regroup hlane]
      dsimp only [soloGrouping]
      rw [hsame, hblind]
      rfl
    · rename_i hi
      dsimp only
      rw [Array.getElem?_eq_none (hsize ▸ Nat.le_of_not_lt hi)]
      rfl
  · rw [Team.scene]
    dsimp only
    rcases hget : members[i]? with _ | m
    · rfl
    · obtain ⟨hi, rfl⟩ := Array.getElem?_eq_some_iff.mp hget
      obtain ⟨lane, -, heq⟩ := hmember hi
      rw [heq]
      rfl

theorem team_plain (hkernel : b.kernel.Portable) {t : Team β ω}
    (hstage : ∀ i, t.stage? i = if i < lanes then some (.running ((b.score lanes).program i))
      else none) {i : Nat} {st : Stage} (hst : t.stage? i = some st) : st.Plain := by
  rw [hstage] at hst
  split at hst
  · obtain rfl := Option.some.inj hst
    rw [score]
    dsimp only
    split
    · exact hkernel.plain _
    · trivial
  · cases hst

theorem noteFailure_eq (block lane : Nat) (t : Team FiberBarrier SoloGate) :
    ∃ reported, noteFailure block lane t = { t with reported } := by
  rw [noteFailure]
  split
  · exact t.report_eq _
  · exact ⟨t.reported, rfl⟩

/-- What holds of lanes that take turns, whatever they do. -/
structure Played (b : BlockTask) (lanes : Nat) (own : Place → Prop)
    (t : Traced FiberBarrier SoloGate) : Prop where
  tame : t.team.Tame
  plan_eq : t.team.plan = ⟨b.block, b.arena, .master, 1, true⟩
  lanes_iff : ∀ i, (t.team.stage? i).isSome = true ↔ i < lanes
  follows : Harmonious .master lanes own t.log → ∃ φ solo,
    Follows (b.score lanes) .master own φ solo t.log t.team.scene
  /-- Nothing changes but what a deed writes. -/
  frame : ∀ x, (∀ i < lanes, ∀ d ∈ t.log i, ¬d.Writes x) →
    t.team.memory.contents x = (Memory.mk .zeros b.buffers).contents x
  size_eq : t.team.memory.buffers.size = b.buffers.size

theorem played_start (hkernel : b.kernel.Portable) {t : Team FiberBarrier SoloGate}
    (ht : b.fiberTeam lanes = .ok t) (own : Place → Prop) :
    b.Played lanes own (Traced.start t) := by
  obtain ⟨hstage, hwarps, hmemory, htops⟩ := team_scene hkernel ht rfl
  obtain ⟨hstarts, hplan, hbarrier⟩ := team_starts ht
  refine ⟨⟨fun i st hst => ?_, fun i w hw => trivial⟩, hplan, hstarts.lanes_iff,
    fun _ => ⟨0, (b.score lanes).phase 0, ?_⟩, fun x _ => ?_, ?_⟩
  · exact team_plain hkernel hstage hst
  · refine .start .master hstage ?_ rfl hstarts.top_eq hstarts.published_eq htops ?_ ?_
    · exact (congrArg FiberBarrier.meeting hbarrier).trans rfl
    · exact congrArg (·.buffers.size) hmemory
    · exact fun x _ => congrArg (Memory.contents · x) hmemory
  · exact congrArg (Memory.contents · x) hmemory
  · exact congrArg (·.buffers.size) hmemory

theorem Played.step {own : Place → Prop} {t t' : Traced FiberBarrier SoloGate} {lane : Nat}
    (h : b.Played lanes own t) (hstep : t.step lane = some t') : b.Played lanes own t' := by
  obtain ⟨st, team, hst, hteam, rfl⟩ := Traced.step_eq_some.mp hstep
  obtain ⟨st₁, hst₁, hplan, htame, hact⟩ := Team.step_act h.tame hteam
  obtain rfl := Option.some.inj (hst.symm.trans hst₁)
  rw [h.plan_eq] at hact
  have hgrows (i : Nat) : t.log i <+: Traced.noted t.log lane st i := by
    rw [Traced.noted]
    by_cases hi : i = lane
    · rw [hi, Function.update_self]
      exact List.prefix_append _ _
    · rw [Function.update_of_ne hi]
  have hlane : lane < lanes := (h.lanes_iff lane).mp (Option.isSome_of_eq_some hst)
  refine ⟨htame, hplan.trans h.plan_eq, fun i => ?_, fun hharm => ?_, fun x hx => ?_, ?_⟩
  · obtain ⟨_, next, -, hstage, -⟩ := Team.step_move hteam
    dsimp only
    rw [hstage]
    by_cases hi : i = lane
    · rw [hi, Function.update_self]
      exact ⟨fun _ => hlane, fun _ => rfl⟩
    · rw [Function.update_of_ne hi]
      exact h.lanes_iff i
  · obtain ⟨φ, solo, hfollows⟩ := h.follows (hharm.of_isPrefix fun i _ => hgrows i)
    obtain ⟨φ', solo', -, hfollows'⟩ := hfollows.step hst hact (.isOpen rfl rfl) hharm
    exact ⟨φ', solo', hfollows'⟩
  · refine (hact.contents_eq fun d hd => hx lane hlane d ?_).trans
      (h.frame x fun i hi d hd => hx i hi d ((hgrows i).subset hd))
    dsimp only [Traced.noted]
    rw [Function.update_self, hd]
    exact List.mem_append_right _ (List.mem_singleton_self d)
  · exact hact.size_eq.trans h.size_eq

theorem Played.noteFailure {own : Place → Prop} {t : Traced FiberBarrier SoloGate}
    (h : b.Played lanes own t) (lane : Nat) :
    b.Played lanes own ⟨BlockTask.noteFailure b.block lane t.team, t.log⟩ := by
  obtain ⟨reported, heq⟩ := noteFailure_eq b.block lane t.team
  rw [heq]
  exact ⟨⟨h.tame.plain, h.tame.idle⟩, h.plan_eq, h.lanes_iff, h.follows, h.frame, h.size_eq⟩

theorem played (hkernel : b.kernel.Portable) {t : Traced FiberBarrier SoloGate}
    (ht : b.fiberTrace lanes = .ok t) (own : Place → Prop) : b.Played lanes own t := by
  obtain ⟨team, hteam, h⟩ := bind_eq_ok.mp ht
  obtain rfl := Except.ok.inj h
  exact Traced.run_induction (fun _ _ _ hplayed hstep => hplayed.step hstep)
    (fun _ lane hplayed => hplayed.noteFailure lane) (played_start hkernel hteam own) _

theorem score_within {i : Nat} : ((b.score lanes).program i).Within b.bound := by
  rw [score]
  dsimp only
  split
  · rename_i lane hlane
    have hwithin := b.kernel.within lane
    rwa [(eq_of_lane hlane).1] at hwithin
  · exact .finish

theorem running_within {t : Team β ω}
    (hstage : ∀ i, t.stage? i = if i < lanes then some (.running ((b.score lanes).program i))
      else none) {i : Nat} {st : Stage} (hst : t.stage? i = some st) :
    ∃ p, st = .running p ∧ p.Within b.bound := by
  rw [hstage] at hst
  split at hst
  · exact ⟨_, (Option.some.inj hst).symm, score_within⟩
  · cases hst

theorem atRest_fiberTrace (hkernel : b.kernel.Portable) {t : Traced FiberBarrier SoloGate}
    (ht : b.fiberTrace lanes = .ok t) : t.team.AtRest := by
  obtain ⟨t₀, ht₀, h⟩ := bind_eq_ok.mp ht
  obtain rfl := Except.ok.inj h
  have hrun : t₀.run b.bound (BlockTask.noteFailure b.block) = _ :=
    (Traced.start t₀).run_team b.bound (BlockTask.noteFailure b.block)
  have hrest := Team.atRest_run (t := t₀)
    (fun i st hst => running_within (team_scene hkernel ht₀ rfl).1 hst)
    (noteFailure_eq b.block)
  change (t₀.run b.bound (BlockTask.noteFailure b.block)).2.AtRest at hrest
  rw [hrun] at hrest
  exact hrest

/-- How a lane has ended among lanes that take turns, if it has. -/
def fiberOutcome? (b : BlockTask) (lanes i : Nat) : Option (Except Error Unit) :=
  match b.fiberTrace lanes with
  | .ok t => t.team.outcome? i
  | .error _ => none

theorem fiberLog_eq {t : Traced FiberBarrier SoloGate} (ht : b.fiberTrace lanes = .ok t) :
    b.fiberLog lanes = t.log := by
  rw [fiberLog, ht]

theorem fiberOutcome?_eq {t : Traced FiberBarrier SoloGate} (ht : b.fiberTrace lanes = .ok t) :
    b.fiberOutcome? lanes = t.team.outcome? := by
  funext i
  rw [fiberOutcome?, ht]

/-- The result of lanes that have ended: the first failure in their order. -/
def resultOf (lanes : Nat) (outcome? : Nat → Option (Except Error Unit)) : Outcome Unit :=
  match ((List.range lanes).map outcome?).findSome? Team.failure? with
  | some e => .error (.error e)
  | none => .ok ()

theorem resultOf_congr {outcome? outcome?' : Nat → Option (Except Error Unit)}
    (h : ∀ i < lanes, outcome? i = outcome?' i) :
    resultOf lanes outcome? = resultOf lanes outcome?' := by
  rw [resultOf, List.map_congr_left fun i hi => h i (List.mem_range.mp hi)]
  rfl

theorem resultOf_eq_ok {outcome? : Nat → Option (Except Error Unit)} :
    resultOf lanes outcome? = .ok () ↔ ∀ i < lanes, Team.failure? (outcome? i) = none := by
  have hnone : ((List.range lanes).map outcome?).findSome? Team.failure? = none ↔
      ∀ i < lanes, Team.failure? (outcome? i) = none := by
    simp [List.findSome?_eq_none_iff]
  rw [← hnone, resultOf]
  rcases ((List.range lanes).map outcome?).findSome? Team.failure? with _ | e <;> simp

theorem firstResult_eq (t : Team β ω) : firstResult t = resultOf t.size t.outcome? := by
  rw [resultOf, ← t.firstError?_eq]
  rcases h : t.firstError? with _ | e
  · simp only [firstResult, h]
  · simp only [firstResult, h]

/-- What lanes that take turns leave behind, and their result: lanes that have not ended are
reported if none has failed. -/
theorem runFibers_spec (hkernel : b.kernel.Portable) {t : Traced FiberBarrier SoloGate}
    (ht : b.fiberTrace lanes = .ok t) :
    (b.runFibers lanes).buffers = t.team.memory.buffers ∧
    (b.runFibers lanes).result = if t.team.pending = 0 then resultOf lanes (b.fiberOutcome? lanes)
      else match resultOf lanes (b.fiberOutcome? lanes) with
        | .ok () => .error (.error (.deadlock b.block t.team.pending lanes))
        | .error f => .error f := by
  have hsize := Team.size_eq (played hkernel ht fun _ => True).lanes_iff
  have houtcome := fiberOutcome?_eq ht
  obtain ⟨t₀, ht₀, h⟩ := bind_eq_ok.mp ht
  have hrun : t₀.run b.bound (BlockTask.noteFailure b.block) = _ :=
    (Traced.start t₀).run_team b.bound (BlockTask.noteFailure b.block)
  rw [Except.ok.inj h] at hrun
  rw [houtcome, ← hsize, ← firstResult_eq, hsize, runFibers_eq, ht₀]
  dsimp only
  rw [hrun]
  dsimp only
  split
  · obtain ⟨reported, hreport⟩ := t.team.report_eq (.fibersFinished b.block lanes _)
    rw [hreport]
    exact ⟨rfl, rfl⟩
  · obtain ⟨reported, hreport⟩ := t.team.report_eq (.fibersBlocked b.block t.team.pending lanes _)
    rw [hreport, firstResult]
    refine ⟨rfl, ?_⟩
    rcases t.team.firstError? with _ | e <;> rfl

theorem fiberOutcome?_of_ok (hkernel : b.kernel.Portable)
    (h : (b.runFibers lanes).result = .ok ()) {i : Nat} (hi : i < lanes) :
    (b.fiberOutcome? lanes i).isSome = true := by
  rcases ht₀ : b.fiberTeam lanes with f | t₀
  · rw [runFibers_eq, ht₀] at h
    cases h
  · have ht : b.fiberTrace lanes =
        .ok ((Traced.start t₀).run b.bound (BlockTask.noteFailure b.block)).2 := by
      rw [fiberTrace, ht₀]
      rfl
    have hsize := Team.size_eq (played hkernel ht fun _ => True).lanes_iff
    rw [(runFibers_spec hkernel ht).2] at h
    rw [fiberOutcome?, ht]
    split at h
    · rename_i hpending
      rw [Team.pending_eq, List.countP_eq_zero] at hpending
      have hsome := hpending i (List.mem_range.mpr (hsize.symm ▸ hi))
      rwa [Bool.not_eq_true, Option.isNone_eq_false_iff] at hsome
    · split at h <;> cases h

/-- How lanes that take turns come to the end of their score. -/
structure PlaysScore (b : BlockTask) (lanes : Nat) (own : Place → Prop) (Φ : Nat) : Prop where
  completes : (b.score lanes).Completes own Φ
  log_eq : ∀ i < lanes, b.fiberLog lanes i = ((b.score lanes).close Φ i).log
  starts : ∃ t, b.fiberTeam lanes = .ok t
  outcome_eq : ∀ i < lanes, ∃ o, ((b.score lanes).close Φ i).program = .finish o ∧
    b.fiberOutcome? lanes i = some (told b.block i o)
  result_eq : (b.runFibers lanes).result = resultOf lanes (b.fiberOutcome? lanes)
  size_eq : (b.runFibers lanes).buffers.size = b.buffers.size
  contents_eq : ∀ i offset, own ⟨.buffer i, offset⟩ →
    (Memory.mk .zeros (b.runFibers lanes).buffers).contents ⟨.buffer i, offset⟩ =
      (b.score lanes).merge Φ ((b.score lanes).close Φ) ⟨.buffer i, offset⟩
  frame : ∀ i offset, (∀ j < lanes, ∀ d ∈ b.fiberLog lanes j, ¬d.Writes ⟨.buffer i, offset⟩) →
    (Memory.mk .zeros (b.runFibers lanes).buffers).contents ⟨.buffer i, offset⟩ =
      (Memory.mk .zeros b.buffers).contents ⟨.buffer i, offset⟩

theorem PlaysScore.ends_well {own : Place → Prop} {Φ : Nat} (h : b.PlaysScore lanes own Φ)
    (hok : (b.runFibers lanes).result = .ok ()) {i : Nat} (hi : i < lanes) :
    ((b.score lanes).close Φ i).program = .finish (.ok ()) := by
  obtain ⟨o, hfinish, houtcome⟩ := h.outcome_eq i hi
  have hnone := resultOf_eq_ok.mp (h.result_eq.symm.trans hok) i hi
  rw [houtcome] at hnone
  rcases o with (f | e) | ⟨⟩
  · cases hnone
  · cases hnone
  · exact hfinish

/-- Lanes that take turns, never get in each other's way and all come to their ends bring their
score to its end. -/
theorem exists_playsScore (hkernel : b.kernel.Portable) (hlanes : 0 < lanes) {own : Place → Prop}
    (hends : ∀ i < lanes, (b.fiberOutcome? lanes i).isSome = true)
    (hharm : Harmonious .master lanes own (b.fiberLog lanes)) : ∃ Φ, b.PlaysScore lanes own Φ := by
  rcases ht : b.fiberTrace lanes with f | t
  · have hsome := hends 0 hlanes
    rw [fiberOutcome?, ht] at hsome
    cases hsome
  · have hlogs := fiberLog_eq ht
    have houtcome := fiberOutcome?_eq ht
    rw [hlogs] at hharm
    have hplayed := played hkernel ht own
    have hended : ∀ i < lanes, ∃ o, t.team.stage? i = some (.ended o) := by
      intro i hi
      obtain ⟨o, ho⟩ := Option.isSome_iff_exists.mp (hends i hi)
      rw [houtcome] at ho
      exact ⟨o, Team.outcome?_eq_some.mp ho⟩
    have hpending : t.team.pending = 0 := Team.pending_eq_zero.mpr fun i st hst => by
      obtain ⟨o, ho⟩ := hended i ((hplayed.lanes_iff i).mp (Option.isSome_of_eq_some hst))
      exact ⟨o, Option.some.inj (hst.symm.trans ho)⟩
    obtain ⟨Φ, solo, hfollows⟩ := hplayed.follows hharm
    obtain ⟨hdone, hcontents⟩ := hfollows.contents_eq hlanes hended hharm
    obtain ⟨hbuffers, hresult⟩ := runFibers_spec hkernel ht
    rw [if_pos hpending] at hresult
    refine ⟨Φ, hfollows.completes hlanes hended hharm, fun i hi => hlogs ▸ (hdone i hi).1, ?_,
      fun i hi => ?_, hresult, ?_, fun i offset => ?_, fun i offset => ?_⟩
    · obtain ⟨t₀, ht₀, -⟩ := bind_eq_ok.mp ht
      exact ⟨t₀, ht₀⟩
    · obtain ⟨-, -, o, hfinish, hst⟩ := hdone i hi
      rw [houtcome]
      exact ⟨o, hfinish, Team.outcome?_eq_some.mpr hst⟩
    · rw [hbuffers]
      exact hplayed.size_eq
    · rw [hbuffers]
      exact hcontents _
    · rw [hbuffers, hlogs]
      exact hplayed.frame _

end BlockTask

end LaneGrid
