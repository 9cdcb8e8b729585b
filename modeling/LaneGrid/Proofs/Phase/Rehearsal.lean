import LaneGrid.Proofs.Phase.Grid

namespace LaneGrid

open Deed

/-- A launch whose lanes take turns, with the buffers that each block finds. All its lanes end well,
no lane touches what another one of its block writes between two meetings, and no block touches a
byte of a buffer that another one writes. -/
structure Rehearsal (d : WorkDivision) (kernel : Kernel) (arena : Arena) (blocks lanes : Nat)
    (found : Nat → Array Bytes) : Prop where
  portable : kernel.Portable
  lanes_pos : 0 < lanes
  ended : ∀ block < blocks,
    (BlockTask.runFibers ⟨d, kernel, block, arena, found block⟩ lanes).result = .ok ()
  found_succ : ∀ block < blocks, found (block + 1) =
    (BlockTask.runFibers ⟨d, kernel, block, arena, found block⟩ lanes).buffers
  raceFree : ∀ block < blocks,
    RaceFree lanes (BlockTask.fiberLog ⟨d, kernel, block, arena, found block⟩ lanes)
  apart : ∀ block < blocks, ∀ other < blocks, other ≠ block → ∀ i < lanes, ∀ j < lanes,
    ∀ e ∈ BlockTask.fiberLog ⟨d, kernel, block, arena, found block⟩ lanes i,
    ∀ e' ∈ BlockTask.fiberLog ⟨d, kernel, other, arena, found other⟩ lanes j,
    ∀ k offset, e.Touches ⟨.buffer k, offset⟩ → ¬e'.Writes ⟨.buffer k, offset⟩

namespace Rehearsal

variable {d : WorkDivision} {kernel : Kernel} {arena : Arena} {blocks lanes : Nat}
  {found : Nat → Array Bytes}

/-- No lane of a block writes there. -/
def Untouched (d : WorkDivision) (kernel : Kernel) (arena : Arena) (lanes : Nat)
    (found : Nat → Array Bytes) (block : Nat) (x : Place) : Prop :=
  ∀ i < lanes, ∀ e ∈ BlockTask.fiberLog ⟨d, kernel, block, arena, found block⟩ lanes i, ¬e.Writes x

/-- Shared memory, and what no other block writes. -/
def Own (d : WorkDivision) (kernel : Kernel) (arena : Arena) (blocks lanes : Nat)
    (found : Nat → Array Bytes) (block : Nat) (x : Place) : Prop :=
  x.space = .shared ∨
    ∀ other < blocks, other ≠ block → Untouched d kernel arena lanes found other x

theorem exists_playsScore (h : Rehearsal d kernel arena blocks lanes found) {block : Nat}
    (hblock : block < blocks) (own : Place → Prop)
    (hown : ∀ x, Own d kernel arena blocks lanes found block x → own x) :
    ∃ Φ, BlockTask.PlaysScore ⟨d, kernel, block, arena, found block⟩ lanes own Φ := by
  refine BlockTask.exists_playsScore h.portable h.lanes_pos
    (fun i hi => BlockTask.fiberOutcome?_of_ok h.portable (h.ended block hblock) hi)
    ((h.raceFree block hblock).harmonious fun i hi e he x htouches => hown x ?_)
  rcases x with ⟨_ | k, offset⟩
  · exact .inl rfl
  · exact .inr fun other hother hne j hj e' he' =>
      h.apart block hblock other hother hne i hi j hj e he e' he' k offset htouches

theorem own_of_writes (h : Rehearsal d kernel arena blocks lanes found) {block k offset : Nat}
    (hblock : block < blocks)
    (hwrites : ¬Untouched d kernel arena lanes found block ⟨.buffer k, offset⟩) :
    Own d kernel arena blocks lanes found block ⟨.buffer k, offset⟩ := by
  rw [Untouched] at hwrites
  push Not at hwrites
  obtain ⟨i, hi, e, he, hwrites⟩ := hwrites
  exact .inr fun other hother hne j hj e' he' =>
    h.apart block hblock other hother hne i hi j hj e he e' he' k offset hwrites.touches

theorem found_frame (h : Rehearsal d kernel arena blocks lanes found) {first last : Nat}
    (hfirst : first ≤ last) (hlast : last ≤ blocks) :
    (found last).size = (found first).size ∧ ∀ k offset,
      (∀ block, first ≤ block → block < last →
        Untouched d kernel arena lanes found block ⟨.buffer k, offset⟩) →
      (Memory.mk .zeros (found last)).contents ⟨.buffer k, offset⟩ =
        (Memory.mk .zeros (found first)).contents ⟨.buffer k, offset⟩ := by
  induction hfirst with
  | refl => exact ⟨rfl, fun _ _ _ => rfl⟩
  | @step last hle ih =>
      obtain ⟨Φ, hplays⟩ := h.exists_playsScore hlast (fun _ => True) fun _ _ => trivial
      obtain ⟨hsize, hframe⟩ := ih (Nat.le_of_succ_le hlast)
      rw [h.found_succ last hlast]
      refine ⟨hplays.size_eq.trans hsize, fun k offset huntouched => ?_⟩
      exact (hplays.frame k offset (huntouched last hle (Nat.lt_succ_self _))).trans
        (hframe k offset fun block hge hlt => huntouched block hge (Nat.lt_succ_of_lt hlt))

theorem found_own (h : Rehearsal d kernel arena blocks lanes found) {block : Nat}
    (hblock : block < blocks) {x : Place} (hx : Own d kernel arena blocks lanes found block x) :
    (Memory.mk .zeros (found 0)).contents x = (Memory.mk .zeros (found block)).contents x := by
  rcases x with ⟨_ | k, offset⟩
  · rfl
  · rcases hx with hspace | hothers
    · cases hspace
    · refine ((h.found_frame (Nat.zero_le block) (Nat.le_of_lt hblock)).2 k offset
        fun other _ hlt => ?_).symm
      exact hothers other (Nat.lt_trans hlt hblock) (Nat.ne_of_lt hlt)

/-- Blocks that run one after the other, and whose lanes have threads of their own, leave the same
bytes behind. -/
theorem threads_agree (h : Rehearsal d kernel arena blocks lanes found) (warpSize : Nat)
    (reserver : Reserver) (found' : Nat → Array Bytes) (hzero : found' 0 = found 0)
    (hsucc : ∀ block < blocks, found' (block + 1) =
      (BlockTask.runThreads ⟨d, kernel, block, arena, found' block⟩ lanes warpSize
        reserver).buffers)
    {last : Nat} (hlast : last ≤ blocks) :
    (∀ block < last, (BlockTask.runThreads ⟨d, kernel, block, arena, found' block⟩ lanes warpSize
      reserver).result = .ok ()) ∧ (found' last).size = (found last).size ∧
    ∀ x, (Memory.mk .zeros (found' last)).contents x =
      (Memory.mk .zeros (found last)).contents x := by
  induction last with
  | zero =>
      rw [hzero]
      exact ⟨fun block hblock => absurd hblock (Nat.not_lt_zero _), rfl, fun _ => rfl⟩
  | succ last ih =>
      obtain ⟨hok, hsize, hcontents⟩ := ih (Nat.le_of_succ_le hlast)
      obtain ⟨Φ, hplays⟩ := h.exists_playsScore hlast (fun _ => True) fun _ _ => trivial
      obtain ⟨hresult, hsize', hcontents'⟩ := BlockTask.runThreads_of_playsScore h.portable
        h.lanes_pos hplays warpSize reserver hsize (fun x _ => hcontents x) rfl
      rw [hsucc last hlast, h.found_succ last hlast]
      refine ⟨fun block hblock => ?_, hsize', fun x => ?_⟩
      · rcases Nat.lt_succ_iff_lt_or_eq.mp hblock with hlt | rfl
        · exact hok block hlt
        · exact hresult.trans (h.ended block hlast)
      · rcases x with ⟨_ | k, offset⟩
        · rfl
        · exact hcontents' k offset trivial

/-- What each block is to do. -/
def scores (d : WorkDivision) (kernel : Kernel) (arena : Arena) (lanes : Nat)
    (found : Nat → Array Bytes) (block : Nat) : Score :=
  BlockTask.score ⟨d, kernel, block, arena, found block⟩ lanes

theorem spares_of_playsScore {block Φ : Nat} {own : Place → Prop}
    (h : BlockTask.PlaysScore ⟨d, kernel, block, arena, found block⟩ lanes own Φ) {x : Place}
    (hx : Untouched d kernel arena lanes found block x) :
    (scores d kernel arena lanes found block).Spares Φ x := by
  intro i hi e he
  refine hx i hi e ?_
  rw [h.log_eq i hi]
  exact he

theorem concert (h : Rehearsal d kernel arena blocks lanes found) {Φ : Nat → Nat}
    (hplays : ∀ block < blocks, BlockTask.PlaysScore ⟨d, kernel, block, arena, found block⟩ lanes
      (Own d kernel arena blocks lanes found block) (Φ block)) :
    Grid.Concert blocks (scores d kernel arena lanes found)
      (Own d kernel arena blocks lanes found) Φ where
  lanes_pos _ _ := h.lanes_pos
  completes block hblock := (hplays block hblock).completes
  ends_well block hblock _ := (hplays block hblock).ends_well (h.ended block hblock)
  apart block hblock other hother hne k offset hown := by
    rcases hown with hspace | hothers
    · cases hspace
    · exact spares_of_playsScore (hplays other hother) (hothers other hother hne)

theorem grid_starts (h : Rehearsal d kernel arena blocks lanes found) (Φ : Nat → Nat)
    (warpSize : Nat) (reserver : Reserver) :
    ∃ g, Grid.start d kernel arena (found 0) blocks lanes warpSize reserver = .ok g ∧
      g.OnScores blocks (scores d kernel arena lanes found) (Own d kernel arena blocks lanes found)
        Φ (found 0) ∧ ∃ total, g.Within total := by
  have hstart (block : Nat) (hblock : block < blocks) : ∃ t,
      BlockTask.threadTeam ⟨d, kernel, block, arena, found 0⟩ lanes warpSize reserver = .ok t ∧
        BlockTask.Fresh ⟨d, kernel, block, arena, found block⟩ lanes
          (Own d kernel arena blocks lanes found block) (found 0) t :=
    BlockTask.exists_fresh (b := ⟨d, kernel, block, arena, found block⟩) h.portable warpSize
      reserver (h.found_frame (Nat.zero_le block) (Nat.le_of_lt hblock)).1.symm
      fun x hx => h.found_own hblock hx
  have hexists : ∀ block ∈ List.range blocks, ∃ t,
      BlockTask.threadTeam ⟨d, kernel, block, arena, found 0⟩ lanes warpSize reserver = .ok t := by
    intro block hblock
    obtain ⟨t, ht, -⟩ := hstart block (List.mem_range.mp hblock)
    exact ⟨t, ht⟩
  obtain ⟨list, hlist⟩ := exists_mapM_eq_ok hexists
  have hall := forall₂_of_mapM_eq_ok hlist
  have hlength : list.length = blocks := by
    rw [← hall.length_eq, List.length_range]
  have hteam {block : Nat} {t : Team ThreadBarrier ThreadBarrier}
      (ht : Grid.team? ⟨d, kernel, arena, list.toArray, found 0⟩ block = some t) :
      OnScore (scores d kernel arena lanes found block)
        (Own d kernel arena blocks lanes found block) (Φ block) t ∧
      t.Within (t.size * Team.stepBound (kernel.bound d)) := by
    have hlt : block < list.length := Grid.team?_lt ht
    have hblock : block < blocks := hlength ▸ hlt
    have hmade := hall.get (by rw [List.length_range]; exact hblock) hlt
    rw [List.get_eq_getElem, List.getElem_range, List.get_eq_getElem] at hmade
    obtain ⟨t₁, ht₁, hfresh⟩ := hstart block hblock
    have hget : list.toArray[block]? = some t₁ := by
      rw [List.getElem?_toArray, List.getElem?_eq_getElem hlt]
      exact congrArg some (Except.ok.inj (hmade.symm.trans ht₁))
    have hteam := Grid.team?_of_buffers (g := ⟨d, kernel, arena, list.toArray, found 0⟩) hget
      (congrArg Memory.buffers hfresh.memory_eq)
    obtain rfl := Option.some.inj (ht.symm.trans hteam)
    exact ⟨hfresh.onScore _, hfresh.within⟩
  refine ⟨⟨d, kernel, arena, list.toArray, found 0⟩, ?_,
    ⟨hlength, fun block t ht => (hteam ht).1, rfl, fun _ _ _ => rfl⟩, _,
    fun block => (Grid.team? ⟨d, kernel, arena, list.toArray, found 0⟩ block).elim 0
      fun t => t.size * Team.stepBound (kernel.bound d), fun block t ht => ?_, Nat.le_refl _⟩
  · rw [Grid.start, Array.mapM_eq_mapM_toList, Array.toList_range, hlist]
    rfl
  · dsimp only
    rw [ht]
    exact (hteam ht).2

/-- Blocks that run at the same time, and whose lanes have threads of their own, come to an end
in every order of their steps, and leave the same bytes behind. -/
theorem grid_agrees (h : Rehearsal d kernel arena blocks lanes found) (warpSize : Nat)
    (reserver : Reserver) :
    ∃ g, Grid.start d kernel arena (found 0) blocks lanes warpSize reserver = .ok g ∧
      ∃ limit, ∀ n g', Grid.Run n g g' → n ≤ limit ∧ (g'.AtRest →
        g'.result = .ok () ∧ g'.buffers.size = (found blocks).size ∧
        ∀ k offset, (Memory.mk .zeros g'.buffers).contents ⟨.buffer k, offset⟩ =
          (Memory.mk .zeros (found blocks)).contents ⟨.buffer k, offset⟩) := by
  have hplays : ∀ block < blocks, ∃ Φ, BlockTask.PlaysScore ⟨d, kernel, block, arena, found block⟩
      lanes (Own d kernel arena blocks lanes found block) Φ :=
    fun block hblock => h.exists_playsScore hblock _ fun _ => id
  choose! Φ hplays using hplays
  have hconcert := h.concert hplays
  obtain ⟨g, hg, hscores, total, hwithin⟩ := h.grid_starts Φ warpSize reserver
  refine ⟨g, hg, total, fun n g' hrun => ?_⟩
  obtain ⟨hle, hend⟩ := hscores.run hconcert hwithin hrun
  refine ⟨hle, fun hrest => ?_⟩
  obtain ⟨hresult, hcontents⟩ := hend.at_rest hconcert hrest
  refine ⟨hresult, hend.reach_eq.trans (h.found_frame (Nat.zero_le _) (Nat.le_refl _)).1.symm,
    fun k offset => ?_⟩
  by_cases hall : ∀ block < blocks, Untouched d kernel arena lanes found block ⟨.buffer k, offset⟩
  · refine (hend.frame k offset fun block hblock =>
      spares_of_playsScore (hplays block hblock) (hall block hblock)).trans ?_
    exact ((h.found_frame (Nat.zero_le _) (Nat.le_refl _)).2 k offset
      fun block _ hlt => hall block hlt).symm
  · -- The block that writes there is the only one, and nothing happens there after it has run.
    push Not at hall
    obtain ⟨block, hblock, hwrites⟩ := hall
    have hown := h.own_of_writes hblock hwrites
    have hlater := (h.found_frame hblock (Nat.le_refl _)).2 k offset fun other hlt hother => by
      rcases hown with hspace | hothers
      · cases hspace
      · exact hothers other hother (Nat.ne_of_gt hlt)
    rw [hcontents block hblock k offset hown, hlater, h.found_succ block hblock]
    exact ((hplays block hblock).contents_eq k offset hown).symm

end Rehearsal

end LaneGrid
