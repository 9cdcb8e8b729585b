import LaneGrid.Proofs.Shared.Alone
import LaneGrid.Proofs.Shared.Together
import LaneGrid.Proofs.Team.Standstill

namespace LaneGrid

open MeetingGate

namespace Transcript

section

variable {β ω : Type} [Gate β] [Gate ω] {capacity : Nat} {xs : List Collective} {m n : Nat}
  {d : Transcript β ω} {start : Except Fault (Team β ω)}

/-- A run of `m` steps, in which the lanes do what the list says and can reserve so many bytes. -/
structure Enacts (start : Except Fault (Team β ω)) (capacity : Nat) (xs : List Collective) (m : Nat)
    (d : Transcript β ω) : Prop where
  run : ∃ t, start = .ok t ∧ Run m (.make t) d
  capacity_eq : d.team.plan.arena.capacity = capacity
  performs : d.Performs xs

/-- The requests of every lane have had the answers of an arena that serves one request after the
other, and in the end so much is reserved. -/
structure Served (d : Transcript β ω) (capacity : Nat) (xs : List Collective) : Prop where
  slices_le : ∀ lane < d.team.size,
    d.slices lane <+: (Arena.serve capacity 0 (Collective.requests xs)).1
  at_end : ∀ lane m, d.team.members[lane]? = some m → (∃ o, m.stage = .ended o) →
    (d.slices lane, d.team.reserved m) = Arena.serve capacity 0 (Collective.requests xs)

theorem Alone.run {d' : Transcript β ω} (h : d.Alone) (hrun : Run m d d') : d'.Alone :=
  hrun.induction (fun _ _ _ h hstep => h.step hstep) h

omit [Gate β] [Gate ω] in
theorem Alone.all_served (h : d.Alone) (hperforms : d.Performs xs) :
    d.Served d.team.plan.arena.capacity xs where
  slices_le lane _ := by
    have hserved : (Arena.serve _ 0 (d.requests lane)).1 = d.slices lane :=
      congrArg Prod.fst (h.served lane)
    rw [← hserved]
    exact Arena.serve_isPrefix ((hperforms.begun_le lane).filterMap _) _ _
  at_end lane m hm := by
    rintro ⟨o, ho⟩
    have hdone := hperforms.left lane _ (Team.stage?_eq_some hm) (by rw [ho]; trivial)
    rw [← hdone, Team.reserved, h.reserver, ← Team.tops_scene hm]
    exact (h.served lane).symm

omit [Gate ω] in
theorem Together.all_served [MeetingGate β] {c : Chronicle β ω} {s : Group β}
    (h : d.Together n xs c s) (hperforms : d.Performs xs) :
    d.Served d.team.plan.arena.capacity xs where
  slices_le lane hlane := by
    obtain ⟨st, hst⟩ := Option.isSome_iff_exists.mp ((d.team.isSome_stage? lane).mpr hlane)
    obtain ⟨asked, hasked, hgiven⟩ := h.given lane st hst
    have hbegun : d.requests lane <+: Collective.requests xs :=
      (hperforms.begun_le lane).filterMap _
    rw [← hgiven]
    rw [hasked] at hbegun
    exact Arena.serve_isPrefix ((List.prefix_append _ _).trans hbegun) _ _
  at_end lane m hm := by
    rintro ⟨o, ho⟩
    have hst := Team.stage?_eq_some hm
    have hleft : m.stage.HasLeft := by rw [ho]; trivial
    have hmaster : d.team.plan.reserver = .master := h.team_eq ▸ h.tracks.master
    obtain ⟨asked, hasked, hgiven⟩ := h.given lane _ hst
    have hrequests : d.requests lane = Collective.requests xs :=
      congrArg Collective.requests (hperforms.left lane _ hst hleft)
    have htop := congrArg Prod.snd h.honest
    rw [hleft.idle.2.2.1, Option.toList_none, List.append_nil, hrequests] at hasked
    rw [h.answers_all hperforms hst hleft, h.team_eq] at htop
    rw [← hgiven, ← hasked, Team.reserved, hmaster]
    exact congrArg (Prod.mk _) htop.symm

theorem exists_together [MeetingGate β] [PatientGate β] {b : BlockTask} {g : Grouping}
    {observed : Bool} {barrier : β} {warps : Array ω} {t : Team β ω}
    (ht : b.team g .master observed barrier warps = .ok t)
    (hmeeting : meeting barrier = .make g.lanes) (hdeparted : departed barrier = 0)
    (hopen : isClosed barrier = false) (hrun : Run m (make t) d) (hperforms : d.Performs xs) :
    ∃ c s, d.Together g.lanes xs c s := by
  obtain ⟨hstarts, hplan, hbarrier⟩ := BlockTask.team_starts ht
  have htogether : (make t).Together g.lanes xs (.make t) (.make t.barrier) := by
    apply together_make hstarts
    · rw [hplan]
    all_goals rwa [hbarrier]
  exact htogether.run hrun hperforms

theorem alone_of_team {b : BlockTask} {g : Grouping} {observed : Bool} {barrier : β}
    {warps : Array ω} {t : Team β ω} (ht : b.team g .lane observed barrier warps = .ok t)
    (hrun : Run m (make t) d) : d.Alone := by
  obtain ⟨hstarts, hplan, -⟩ := BlockTask.team_starts ht
  refine Alone.run (alone_make ?_ hstarts.running fun lane => ?_) hrun
  · rw [hplan]
  · dsimp only [Team.scene]
    rcases hm : t.members[lane]? with _ | member
    · rfl
    · obtain ⟨data, -, rfl⟩ := BlockTask.team_members ht hm
      rfl

theorem Run.le_of_team {b : BlockTask} {g : Grouping} {reserver : Reserver} {observed : Bool}
    {barrier : β} {warps : Array ω} {t : Team β ω}
    (ht : b.team g reserver observed barrier warps = .ok t) (hrun : Run m (make t) d) :
    m ≤ g.lanes * Team.stepBound b.bound := by
  have hwithin : t.Within (t.size * Team.stepBound b.bound) :=
    Team.within_of_running fun _ _ hst => BlockTask.team_within ht hst
  rw [Team.size_eq (BlockTask.team_starts ht).1.lanes_iff] at hwithin
  exact hrun.team.le hwithin

end

end Transcript

/-- Lanes that have threads of their own come to their end, unless one of several in a warp waits at
the barrier of the warp. -/
theorem BlockTask.pending_of_atRest {b : BlockTask} {lanes warpSize m : Nat} {reserver : Reserver}
    {t₀ t : Team ThreadBarrier ThreadBarrier} (h₀ : b.threadTeam lanes warpSize reserver = .ok t₀)
    (hrun : Team.Run m t₀ t) (hrest : t.AtRest)
    (hwarp : warpSize ≤ 1 ∨ ∀ lane, ¬t.Blocked lane .warp) : t.pending = 0 := by
  have htiled := tiled_threadGrouping lanes warpSize
  obtain ⟨groups, horderly⟩ := (orderly_threadTeam h₀).run htiled hrun
  by_contra hpending
  have hstill := Team.standstill_iff.mpr ⟨hrest, hpending⟩
  obtain ⟨-, i, j, hne, hsame, hblocked, -⟩ := horderly.apart htiled hstill
  rcases hwarp with hsolo | hfree
  · have hsize : (threadGrouping lanes warpSize).warpSize = 1 := Nat.max_eq_right hsolo
    rw [hsize, Nat.div_one, Nat.div_one] at hsame
    exact hne hsame
  · exact hfree i hblocked

theorem Team.lookAt_solo {β : Type} [Gate β] (t : Team β SoloGate) (lane : Nat) (g g' : Word) :
    t.lookAt lane .warp g ≠ .waiting g' := by
  rw [lookAt]
  split <;> simp [Gate.look]

open Transcript

/-- However slices of shared memory are reserved, every lane is given the same ones, and is refused
the same ones, as long as all lanes of a block ask for the same in the same order: whether the
master reserves for lanes that have threads of their own or take turns, or each lane reserves for
itself, in a block of many lanes or of one. In the end the same number of bytes is reserved, and it
comes to an end: no lane waits for ever, unless it votes in its warp. The operations of the kernels
have a bound (`Kernel.within`). -/
theorem allocators_agree {capacity : Nat} {xs : List Collective} {bt bf bg bs : BlockTask}
    {mt mf mg ms lanes lanes' lanes'' warpSize : Nat} {observed : Bool}
    {t g : Transcript ThreadBarrier ThreadBarrier} {f : Transcript FiberBarrier SoloGate}
    {s : Transcript SoloGate SoloGate}
    (ht : Enacts (bt.threadTeam lanes 1 .master) capacity xs mt t)
    (hf : Enacts (bf.fiberTeam lanes') capacity xs mf f)
    (hg : Enacts (bg.threadTeam lanes'' warpSize .lane) capacity xs mg g)
    (hs : Enacts (bs.soloTeam observed) capacity xs ms s) :
    (t.Served capacity xs ∧ f.Served capacity xs ∧ g.Served capacity xs ∧ s.Served capacity xs) ∧
    (t.team.AtRest → t.team.pending = 0) ∧ (f.team.AtRest → f.team.pending = 0) ∧
    (g.team.AtRest → (∀ lane, ¬g.team.Blocked lane .warp) → g.team.pending = 0) ∧
    (s.team.AtRest → s.team.pending = 0) ∧
    mt ≤ lanes * Team.stepBound bt.bound ∧ mf ≤ lanes' * Team.stepBound bf.bound ∧
    mg ≤ lanes'' * Team.stepBound bg.bound ∧ ms ≤ Team.stepBound bs.bound := by
  obtain ⟨t₀, ht₀, htrun⟩ := ht.run
  obtain ⟨f₀, hf₀, hfrun⟩ := hf.run
  obtain ⟨g₀, hg₀, hgrun⟩ := hg.run
  obtain ⟨s₀, hs₀, hsrun⟩ := hs.run
  obtain ⟨ct, st, htogether⟩ := exists_together ht₀ rfl rfl rfl htrun ht.performs
  obtain ⟨cf, sf, hfibers⟩ := exists_together hf₀ rfl rfl rfl hfrun hf.performs
  refine ⟨⟨?_, ?_, ?_, ?_⟩, ?_, ?_, ?_, ?_, ?_⟩
  · exact ht.capacity_eq ▸ htogether.all_served ht.performs
  · exact hf.capacity_eq ▸ hfibers.all_served hf.performs
  · exact hg.capacity_eq ▸ (alone_of_team hg₀ hgrun).all_served hg.performs
  · exact hs.capacity_eq ▸ (alone_of_team hs₀ hsrun).all_served hs.performs
  · intro hrest
    exact BlockTask.pending_of_atRest ht₀ htrun.team hrest (.inl (Nat.le_refl 1))
  · intro hrest
    exact hfibers.pending_eq_zero hf.performs hrest fun lane => f.team.lookAt_solo lane
  · intro hrest hwarp
    exact BlockTask.pending_of_atRest hg₀ hgrun.team hrest (.inr hwarp)
  · intro hrest
    rw [Team.pending_eq_zero]
    intro lane st hst
    refine (Team.waits_of_step_eq_none hst (hrest lane)).resolve_right ?_
    rintro ⟨scope, generation, r, generation', rfl, hlook⟩
    cases scope with
    | block => cases hlook
    | warp => exact s.team.lookAt_solo lane _ _ hlook
  · exact ⟨htrun.le_of_team ht₀, hfrun.le_of_team hf₀, hgrun.le_of_team hg₀,
      (hsrun.le_of_team hs₀).trans_eq (Nat.one_mul _)⟩

/-- The lanes ask for four bytes, meet, ask for more than there is, and then for four bytes
again. -/
def sharingProgram : Program :=
  .allocate .u8 4 fun _ => .arrive .block none fun _ => .allocate .u64 1000 fun _ =>
    .allocate .u8 4 fun _ => .finish (.ok ())

theorem sharingProgram_within : sharingProgram.Within 4 :=
  .allocate fun _ => .arrive fun _ => .allocate fun _ => .allocate fun _ => .finish

def sharingTask (lanes : Nat) : BlockTask where
  division := ⟨[1], [lanes], [1]⟩
  kernel := ⟨fun _ => sharingProgram, fun _ => 16, fun _ => 0, fun _ => 4,
    fun _ => sharingProgram_within⟩
  block := 0
  arena := ⟨16, 16, 0⟩
  buffers := #[]

def sharingTeam {β ω : Type} (lanes : Nat) (reserver : Reserver) (warpSize : Nat) (observed : Bool)
    (barrier : β) (warps : Array ω) : Team β ω where
  plan := ⟨0, ⟨16, 16, 0⟩, reserver, warpSize, observed⟩
  members := Array.replicate lanes ⟨.running sharingProgram, 0, #[]⟩
  barrier
  warps
  memory := ⟨.zeros, #[]⟩
  top := 0
  published := none
  reported := []

def sharingList : List Collective :=
  [.request .u8 4, .meet, .request .u64 1000, .request .u8 4]

def sharingSlices : List (Except Error SharedSlice) :=
  [.ok ⟨.u8, 0, 4⟩, .error (.sharedMemoryExceeded 8008 16), .ok ⟨.u8, 4, 4⟩]

def sharingThreads : Team ThreadBarrier ThreadBarrier :=
  sharingTeam 2 .master 1 false (.make 2) #[.make 1, .make 1]

def sharingFibers : Team FiberBarrier SoloGate :=
  sharingTeam 2 .master 1 true (.make 2) #[.mk, .mk]

def sharingWarp : Team ThreadBarrier ThreadBarrier :=
  sharingTeam 2 .lane 2 false (.make 2) #[.make 2]

def sharingSolo : Team SoloGate SoloGate :=
  sharingTeam 1 .lane 1 true .mk #[.mk]

theorem threadTeam_sharing : (sharingTask 2).threadTeam 2 1 .master = .ok sharingThreads := by
  have hwarps : ((Array.range (BlockTask.threadGrouping 2 1).warps).map fun w =>
      ThreadBarrier.make ((BlockTask.threadGrouping 2 1).warpGroup w)) = #[.make 1, .make 1] := by
    decide +kernel
  rw [BlockTask.threadTeam, hwarps, BlockTask.team, BlockTask.members, Array.mapM_eq_mapM_toList,
    Array.toList_range]
  rfl

theorem warpTeam_sharing : (sharingTask 2).threadTeam 2 2 .lane = .ok sharingWarp := by
  have hwarps : ((Array.range (BlockTask.threadGrouping 2 2).warps).map fun w =>
      ThreadBarrier.make ((BlockTask.threadGrouping 2 2).warpGroup w)) = #[.make 2] := by
    decide +kernel
  rw [BlockTask.threadTeam, hwarps, BlockTask.team, BlockTask.members, Array.mapM_eq_mapM_toList,
    Array.toList_range]
  rfl

theorem fiberTeam_sharing : (sharingTask 2).fiberTeam 2 = .ok sharingFibers := by
  rw [BlockTask.fiberTeam, BlockTask.team, BlockTask.members, Array.mapM_eq_mapM_toList,
    Array.toList_range]
  rfl

theorem soloTeam_sharing : (sharingTask 1).soloTeam true = .ok sharingSolo := by
  rw [BlockTask.soloTeam, BlockTask.team, BlockTask.members, Array.mapM_eq_mapM_toList,
    Array.toList_range]
  rfl

/-- So many steps of lanes that step in turn. -/
def Transcript.alternate {β ω : Type} [Gate β] [Gate ω] (t : Team β ω) (steps : Nat) :
    Option (Transcript β ω) :=
  ((List.range steps).map (· % t.size)).foldlM step (make t)

theorem enacts_alternate {β ω : Type} [Gate β] [Gate ω] {t : Team β ω} {steps : Nat}
    {start : Except Fault (Team β ω)} (hstart : start = .ok t)
    (hcapacity : t.plan.arena.capacity = 16)
    (h : (alternate t steps).map (fun d => (List.range t.size).map fun i =>
      (d.begun i, d.slices i)) = some (List.replicate t.size (sharingList, sharingSlices))) :
    ∃ d, Enacts start 16 sharingList steps d ∧ ∀ lane < t.size, d.slices lane = sharingSlices := by
  obtain ⟨d, hd, hall⟩ := Option.map_eq_some_iff.mp h
  have hrun := run_of_foldlM hd
  rw [List.length_map, List.length_range] at hrun
  have hpair (lane : Nat) (hlane : lane < t.size) :
      (d.begun lane, d.slices lane) = (sharingList, sharingSlices) :=
    (List.eq_replicate_iff.mp hall).2 _ (List.mem_map_of_mem (List.mem_range.mpr hlane))
  refine ⟨d, ⟨⟨t, hstart, hrun⟩, ?_, ?_⟩, fun lane hlane => congrArg Prod.snd (hpair lane hlane)⟩
  · rw [hrun.plan_eq]
    exact hcapacity
  · exact hrun.performs fun lane hlane => congrArg Prod.fst (hpair lane hlane)

theorem enacts_threads : ∃ t, Enacts ((sharingTask 2).threadTeam 2 1 .master) 16 sharingList 39 t ∧
    ∀ lane < 2, t.slices lane = sharingSlices :=
  enacts_alternate threadTeam_sharing rfl (by decide +kernel)

theorem enacts_fibers : ∃ f, Enacts ((sharingTask 2).fiberTeam 2) 16 sharingList 39 f ∧
    ∀ lane < 2, f.slices lane = sharingSlices :=
  enacts_alternate fiberTeam_sharing rfl (by decide +kernel)

theorem enacts_warp : ∃ g, Enacts ((sharingTask 2).threadTeam 2 2 .lane) 16 sharingList 15 g ∧
    ∀ lane < 2, g.slices lane = sharingSlices :=
  enacts_alternate warpTeam_sharing rfl (by decide +kernel)

theorem enacts_solo : ∃ s, Enacts ((sharingTask 1).soloTeam true) 16 sharingList 7 s ∧
    ∀ lane < 1, s.slices lane = sharingSlices :=
  enacts_alternate soloTeam_sharing rfl (by decide +kernel)

theorem allocators_agree_sharing :
    ∃ (t g : Transcript ThreadBarrier ThreadBarrier) (f : Transcript FiberBarrier SoloGate)
      (s : Transcript SoloGate SoloGate),
      Enacts ((sharingTask 2).threadTeam 2 1 .master) 16 sharingList 39 t ∧
      Enacts ((sharingTask 2).fiberTeam 2) 16 sharingList 39 f ∧
      Enacts ((sharingTask 2).threadTeam 2 2 .lane) 16 sharingList 15 g ∧
      Enacts ((sharingTask 1).soloTeam true) 16 sharingList 7 s ∧
      (t.Served 16 sharingList ∧ f.Served 16 sharingList ∧ g.Served 16 sharingList ∧
        s.Served 16 sharingList) ∧
      t.slices 1 = sharingSlices ∧ f.slices 1 = sharingSlices ∧ g.slices 1 = sharingSlices ∧
      s.slices 0 = sharingSlices := by
  obtain ⟨t, ht, hslices⟩ := enacts_threads
  obtain ⟨f, hf, hslices'⟩ := enacts_fibers
  obtain ⟨g, hg, hslices''⟩ := enacts_warp
  obtain ⟨s, hs, halone⟩ := enacts_solo
  obtain ⟨hserved, -⟩ := allocators_agree ht hf hg hs
  exact ⟨t, g, f, s, ht, hf, hg, hs, hserved, hslices 1 Nat.one_lt_two, hslices' 1 Nat.one_lt_two,
    hslices'' 1 Nat.one_lt_two, halone 0 Nat.one_pos⟩

end LaneGrid
