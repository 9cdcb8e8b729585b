import LaneGrid.Device.Basic
import LaneGrid.Proofs.Votes.Answers

/-!
The votes of the warps of an accelerator. Whatever the order of the lanes' steps, a vote tells all
lanes of a warp about the lanes of this warp, whether it is full or the last one of its block.
-/

namespace LaneGrid

open Team

/-- What the lanes of a warp bring when they perform these votes. -/
def WarpVote.itinerary (g : Grouping) (w : Nat) (votes : List WarpVote) (yes : Nat → Nat → Bool)
    (place : Nat) : Itinerary where
  stops := votes.mapIdx fun k v => some (v.share place (yes (w * g.warpSize + place) k))
  fails := false

theorem WarpVote.even_itinerary (n : Nat) (g : Grouping) (w : Nat) (votes : List WarpVote)
    (yes : Nat → Nat → Bool) : Group.Even n (itinerary g w votes yes) := by
  intro place _
  refine ⟨rfl, ?_⟩
  simp [itinerary]

theorem WarpVote.getElem?_itinerary {g : Grouping} {w : Nat} {votes : List WarpVote}
    {yes : Nat → Nat → Bool} {place k : Nat} {c : Option Contribution} :
    (itinerary g w votes yes place).stops[k]? = some c ↔
      ∃ v, votes[k]? = some v ∧ c = some (v.share place (yes (w * g.warpSize + place) k)) := by
  simp [itinerary, eq_comm]

/-- The lanes of a block and the barriers of its warps fit together. -/
structure BlockTask.Seats (b : BlockTask) (g : Grouping) (t : Team ThreadBarrier ThreadBarrier) :
    Prop where
  warpSize_pos : 0 < g.warpSize
  warpSize_le : g.warpSize ≤ 64
  /-- Every lane finds its warp and its place there, and no vote faults. -/
  lane : ∀ lane < g.lanes, lane / g.warpSize < t.warps.size ∧ ∃ l, b.lane g lane = .ok l ∧
    l.placeInWarp = .ok (lane % g.warpSize) ∧ ∀ (v : WarpVote) (yes : Bool) (next : Word → Program),
      v.ask l yes next = .arrive .warp (some (v.share (lane % g.warpSize) yes)) next
  /-- A barrier waits for as many lanes as there are in its warp. -/
  warp : ∀ w < t.warps.size, w * g.warpSize < g.lanes ∧
    t.warps[w]? = some (.make (g.warpLanes w).length)

namespace Voting

variable {b : BlockTask} {g : Grouping} {w k lane : Nat} {votes : List WarpVote}
  {yes : Nat → Nat → Bool} {d : Voting ThreadBarrier ThreadBarrier}
  {groups : Option Nat → Group ThreadBarrier}

/-- The lanes of a warp perform the same votes, and none of them fails. So far each lane has brought
its part to the first ones, and a lane that has ended has performed them all. -/
structure Performs (d : Voting ThreadBarrier ThreadBarrier) (b : BlockTask) (g : Grouping) (w : Nat)
    (votes : List WarpVote) (yes : Nat → Nat → Bool) : Prop where
  brought : ∀ lane ∈ g.warpLanes w, ∀ k c, (d.brought lane)[k]? = some c →
    ∃ (v : WarpVote) (l : Lane) (x : Contribution), votes[k]? = some v ∧ b.lane g lane = .ok l ∧
      v.contribution l (yes lane k) = .ok x ∧ c = some x
  ended : ∀ lane ∈ g.warpLanes w, ∀ o, d.team.stage? lane = some (.ended o) →
    o = .ok () ∧ (d.brought lane).length = votes.length

theorem performs_iff_follows (htiled : g.Tiled) {t : Team ThreadBarrier ThreadBarrier}
    (hb : b.Seats g t) :
    d.Performs b g w votes yes ↔ d.Follows g w (WarpVote.itinerary g w votes yes) := by
  have hpart {lane : Nat} (hlane : lane ∈ g.warpLanes w) : ∃ l, b.lane g lane = .ok l ∧
      ∀ (v : WarpVote) (answer : Bool),
        v.contribution l answer = .ok (v.share (g.seat lane .warp) answer) := by
    obtain ⟨-, l, hl, hplace, -⟩ := hb.lane lane (Grouping.mem_warpLanes.mp hlane).1
    exact ⟨l, hl, WarpVote.contribution_eq_ok hplace
      (Nat.lt_of_lt_of_le (Nat.mod_lt _ htiled.warpSize_pos) hb.warpSize_le)⟩
  have hlength (place : Nat) :
      (WarpVote.itinerary g w votes yes place).stops.length = votes.length := by
    simp [WarpVote.itinerary]
  constructor
  · intro h
    refine ⟨fun lane hlane => List.prefix_iff_getElem?.mpr fun k hk => ?_,
      fun lane hlane o ho => ?_⟩
    · obtain ⟨v, l, x, hv, hl, hx, hc⟩ := h.brought lane hlane k _ (List.getElem?_eq_getElem hk)
      obtain ⟨l', hl', hshare⟩ := hpart hlane
      obtain rfl := Except.ok.inj (hl.symm.trans hl')
      rw [hshare, Except.ok.injEq] at hx
      subst hx
      rw [WarpVote.getElem?_itinerary, Grouping.place_eq hlane]
      exact ⟨v, hv, hc⟩
    · obtain ⟨rfl, hdone⟩ := h.ended lane hlane o ho
      exact ⟨rfl, hdone.trans (hlength _).symm⟩
  · intro h
    refine ⟨fun lane hlane k c hc => ?_, fun lane hlane o ho => ?_⟩
    · obtain ⟨rest, hrest⟩ := h.brought lane hlane
      have hstop : (WarpVote.itinerary g w votes yes (g.seat lane .warp)).stops[k]? = some c := by
        rw [← hrest, List.getElem?_append_left (List.getElem?_eq_some_iff.mp hc).1]
        exact hc
      rw [WarpVote.getElem?_itinerary, Grouping.place_eq hlane] at hstop
      obtain ⟨v, hv, rfl⟩ := hstop
      obtain ⟨l, hl, hshare⟩ := hpart hlane
      exact ⟨v, l, _, hv, hl, hshare _ _, rfl⟩
    · obtain ⟨hgood, hdone⟩ := h.ended lane hlane o ho
      refine ⟨?_, hdone.trans (hlength _)⟩
      cases o with
      | error e => cases hgood
      | ok => rfl

theorem Underway.tells (h : d.Underway g w (WarpVote.itinerary g w votes yes) groups)
    (htiled : g.Tiled) (hsize : g.warpSize ≤ 64) (hlane : lane ∈ g.warpLanes w) {word : Word}
    (hword : (groups (some w)).results[k]? = some word) :
    ∃ v, votes[k]? = some v ∧ v.Tells g w (fun lane => yes lane k) word := by
  have hseat := htiled.seat_lt_warpGroup hlane
  have hn : 0 < g.warpGroup w := Nat.zero_lt_of_lt hseat
  obtain ⟨u, hu, -⟩ := h.counted_of_result hword hseat
  obtain ⟨v, hv, -⟩ := WarpVote.getElem?_itinerary.mp (h.stop_of_visit hlane hu)
  refine ⟨v, hv, ?_⟩
  have hbrought : (groups (some w)).Brought (g.warpGroup w) k fun i c =>
      c = some ⟨v.reduction, (v.share i (yes (w * g.warpSize + i) k)).value⟩ := by
    intro i hi
    obtain ⟨peer, hpeer, rfl⟩ := htiled.exists_seat hi
    obtain ⟨u, hu, hgeneration⟩ := h.counted_of_result hword hi
    obtain ⟨v', hv', hc⟩ := WarpVote.getElem?_itinerary.mp (h.stop_of_visit hpeer hu)
    obtain rfl := Option.some.inj (hv.symm.trans hv')
    exact ⟨u, List.mem_of_getElem? hu, hgeneration, hc.trans (congrArg some (v.share_eq _ _))⟩
  rw [(h.sound (some w)).fold_of_brought hn hword hbrought]
  exact WarpVote.tells_fold htiled hsize hn (fun lane => yes lane k) v

/-- What the lanes of a warp can rely on when they vote. -/
structure Agrees (d : Voting ThreadBarrier ThreadBarrier) (g : Grouping) (w : Nat)
    (votes : List WarpVote) (yes : Nat → Nat → Bool) : Prop where
  /-- An answer comes after all lanes of the warp have voted, and tells about them. -/
  tells : ∀ lane ∈ g.warpLanes w, ∀ k word, (d.heard lane)[k]? = some word →
    (∀ peer ∈ g.warpLanes w, k < (d.brought peer).length) ∧
      ∃ v, votes[k]? = some v ∧ v.Tells g w (fun lane => yes lane k) word
  /-- A lane goes on with the answer that it gets. -/
  returns : ∀ lane ∈ g.warpLanes w, ∀ d' word, d.step lane = some d' →
    d'.heard lane = d.heard lane ++ [word] → ∃ st p, d.team.stage? lane = some st ∧
      st.continued? (.met word) = some p ∧ d'.team.stage? lane = some (.running p)
  /-- Once all lanes have voted, each of them has its answer or gets it with its next step. -/
  hears : ∀ k, (∀ peer ∈ g.warpLanes w, k < (d.brought peer).length) → ∀ lane ∈ g.warpLanes w,
    k < (d.heard lane).length ∨ ∃ d', d.step lane = some d' ∧ k < (d'.heard lane).length
  ended : ∀ lane ∈ g.warpLanes w, ∀ o, d.team.stage? lane = some (.ended o) →
    (d.heard lane).length = votes.length
  /-- The votes do not hold up the lanes for ever. -/
  atRest : d.team.AtRest → (∀ lane, ¬d.team.Blocked lane .block) → ∀ lane ∈ g.warpLanes w,
    (d.heard lane).length = votes.length
  /-- The barrier of the warp gives nobody up. -/
  isOpen : ∃ barrier, d.team.warps[w]? = some barrier ∧ barrier.poisoned = false ∧
    barrier.stranded = none
  /-- The lanes of other warps change neither the barrier nor the record of this one. -/
  apart : ∀ lane ∉ g.warpLanes w, ∀ d', d.step lane = some d' →
    d'.team.warps[w]? = d.team.warps[w]? ∧ ∀ peer ∈ g.warpLanes w,
      d'.brought peer = d.brought peer ∧ d'.heard peer = d.heard peer

theorem Underway.agrees (h : d.Underway g w (WarpVote.itinerary g w votes yes) groups)
    (htiled : g.Tiled) (hsize : g.warpSize ≤ 64) (hw : w * g.warpSize < g.lanes) :
    d.Agrees g w votes yes := by
  have hended : ∀ lane ∈ g.warpLanes w, ∀ o, d.team.stage? lane = some (.ended o) →
      (d.heard lane).length = votes.length := by
    intro lane hlane o ho
    refine (h.heard_of_ended hlane ho).trans ?_
    simp [WarpVote.itinerary]
  constructor
  case tells =>
    intro lane hlane k word hword
    have hresult := h.result_of_heard hlane hword
    exact ⟨fun peer hpeer => h.brought_of_result htiled hresult hpeer,
      h.tells htiled hsize hlane hresult⟩
  case returns =>
    intro lane _ d' word hstep hword
    obtain ⟨st, t', hst, ht', rfl⟩ := step_eq_some.mp hstep
    obtain ⟨p, hp, hrunning⟩ := continued?_of_hears hst ht' (hears_of_heard hword)
    exact ⟨st, p, hst, hp, hrunning⟩
  case hears =>
    intro k hall lane hlane
    obtain ⟨word, hword⟩ := h.exists_result htiled hlane hall
    rcases Nat.lt_or_ge k (d.heard lane).length with hlt | hge
    · exact .inl hlt
    · exact .inr (h.hears_next hlane hword (hall lane hlane) hge)
  case ended => exact hended
  case atRest =>
    intro hrest hfree lane hlane
    have hpending : d.team.pending = 0 := by
      by_contra hne
      obtain ⟨-, -, j, -, -, -, hblock⟩ :=
        h.toOrderly.apart htiled (standstill_iff.mpr ⟨hrest, hne⟩)
      exact hfree j hblock
    obtain ⟨st, hst⟩ := h.exists_stage hlane
    obtain ⟨o, rfl⟩ := pending_eq_zero.mp hpending lane st hst
    exact hended lane hlane o hst
  case isOpen =>
    exact ⟨_, h.warps_eq htiled hw, h.open_eq, (h.accounts _).stranded_eq h.open_eq⟩
  case apart => exact fun lane hlane d' hstep => h.toRecorded.apart htiled hw hlane hstep

end Voting

theorem Settings.warpSize_of_validate {s : Settings} (h : s.validate = .ok ()) :
    0 < s.accelerator.warpSize ∧ s.accelerator.warpSize ≤ 64 := by
  rw [validate] at h
  -- The checks of all other settings come first.
  iterate 9 obtain ⟨_, -, h⟩ := bind_eq_ok.mp h
  dsimp only at h
  split at h
  · cases h
  · split at h
    · cases h
    · rename_i hwarp
      simp only [isPowerOfTwo, warpSizeMax] at hwarp
      grind

namespace Grouping

variable {g : Grouping}

theorem Tiled.mul_lt_lanes (h : g.Tiled) {w : Nat} (hw : w < g.warps) :
    w * g.warpSize < g.lanes := by
  have hdiv := Nat.div_add_mod g.lanes g.warpSize
  rw [Nat.mul_comm] at hdiv
  rw [warps] at hw
  split at hw
  · have hmul := Nat.mul_lt_mul_of_pos_right hw h.warpSize_pos
    rw [Nat.add_zero] at hmul
    omega
  · have hmul := Nat.mul_le_mul_right g.warpSize (Nat.le_of_lt_succ hw)
    omega

end Grouping

namespace BlockTask

variable {b : BlockTask} {lanes warpSize : Nat} {reserver : Reserver}
  {t : Team ThreadBarrier ThreadBarrier}

theorem exists_placed_lane (hd : b.division.Sound) (hlanes : b.division.laneCount = .ok lanes)
    {g : Grouping} (hpos : 0 < g.warpSize) {number : Nat} (hnumber : number < lanes) :
    ∃ l, b.lane g number = .ok l ∧ l.placeInWarp = .ok (number % g.warpSize) := by
  obtain ⟨rfl, hfits⟩ := Box.eq_of_product_eq_ok hlanes
  refine ⟨_, lane_eq_ok hd g b.block number, ?_⟩
  rw [Lane.placeInWarp, Lane.threadNumber,
    Box.linearize_eq_ok (Box.within_index hd.threads_pos number) hfits, Box.number_index,
    Nat.mod_eq_of_lt hnumber]
  exact if_neg (Nat.ne_of_gt hpos)

theorem seats_threadTeam (hd : b.division.Sound) (hlanes : b.division.laneCount = .ok lanes)
    (hsize : warpSize ≤ 64) (ht : b.threadTeam lanes warpSize reserver = .ok t) :
    b.Seats (threadGrouping lanes warpSize) t := by
  have htiled := tiled_threadGrouping lanes warpSize
  have hle : (threadGrouping lanes warpSize).warpSize ≤ 64 := Nat.max_le.mpr ⟨hsize, by decide⟩
  have hwarps := team_warps ht
  have hcount : t.warps.size = (threadGrouping lanes warpSize).warps := by
    rw [hwarps, Array.size_map, Array.size_range]
  refine ⟨htiled.warpSize_pos, hle, fun lane hlane => ⟨?_, ?_⟩, fun w hw => ⟨?_, ?_⟩⟩
  · rw [hcount]
    exact div_lt_warps htiled hlane
  · obtain ⟨l, hl, hplace⟩ := exists_placed_lane hd hlanes htiled.warpSize_pos hlane
    refine ⟨l, hl, hplace, fun v yes next => ?_⟩
    rw [WarpVote.ask, WarpVote.contribution_eq_ok hplace
      (Nat.lt_of_lt_of_le (Nat.mod_lt _ htiled.warpSize_pos) hle)]
    rfl
  · exact htiled.mul_lt_lanes (hcount ▸ hw)
  · rw [htiled.length_warpLanes, hwarps, Array.getElem?_map, Array.getElem?_range,
      if_pos (hcount ▸ hw)]
    rfl

/-- On an accelerator with valid settings, the lanes of a block vote warp by warp. Lanes of a warp
that perform the same votes, and do not fail, are told by each vote about the lanes of their warp
and about no others, whatever the lanes of the block do besides, and in whichever order. Every lane
has a bit of its own in a mask, and no arithmetic overflows. The operations of the lanes have a
bound (`Kernel.within`). -/
theorem warps_vote {s : Settings} (hs : s.validate = .ok ()) {device : Device}
    (hdevice : device ∈ Platform.accelerators s.accelerator) {grid block elements : List Nat}
    (hmake : WorkDivision.make grid block elements = .ok b.division)
    (hblock : block.length = grid.length) (helements : elements.length = grid.length)
    (hlanes : b.division.laneCount = .ok lanes) {g : Grouping}
    (hg : g = threadGrouping lanes s.accelerator.warpSize) :
    g.lanes = lanes ∧ g.warpSize = s.accelerator.warpSize ∧
    ∃ t, b.threadTeam lanes s.accelerator.warpSize .lane = .ok t ∧
      (Backend.accelerator device).runBlock lanes b =
        report (t.run b.bound fun _ t => t).2 (b.threadsResult (t.run b.bound fun _ t => t).2) ∧
      b.Seats g t ∧
      ∀ d, Voting.Leads (.make t) d → ∀ w < t.warps.size, ∀ votes yes,
        d.Performs b g w votes yes → d.Agrees g w votes yes := by
  subst hg
  obtain ⟨hpos, hsize⟩ := Settings.warpSize_of_validate hs
  have hd := WorkDivision.sound_of_make hmake hblock helements
  have htiled := tiled_threadGrouping lanes s.accelerator.warpSize
  obtain ⟨t, ht⟩ : ∃ t, b.threadTeam lanes s.accelerator.warpSize .lane = .ok t :=
    exists_team b _ _ _ _ _
  have hseats := seats_threadTeam hd hlanes hsize ht
  refine ⟨rfl, Nat.max_eq_left hpos, t, ht, ?_, hseats, fun d hleads w hw votes yes hvotes => ?_⟩
  · obtain ⟨i, -, rfl⟩ := List.mem_map.mp hdevice
    have hrun : (Backend.accelerator (.accelerator s.accelerator i (i + 1))).runBlock lanes b =
        b.runThreads lanes s.accelerator.warpSize .lane := rfl
    rw [hrun, runThreads_eq, ht]
  · obtain ⟨groups, h⟩ := Voting.underway_of_leads ht hleads
      (WarpVote.even_itinerary _ _ w votes yes)
      ((Voting.performs_iff_follows htiled hseats).mp hvotes)
    exact h.agrees htiled hseats.warpSize_le (hseats.warp w hw).1

end BlockTask

/-- The lanes say whether they are the middle one, ask whether all are the last one, and then which
of them are there. -/
def votingProgram (l : Lane) : Program :=
  WarpVote.ballot.ask l (l.number ≠ 1) fun _ => WarpVote.all.ask l (l.number = 2) fun _ =>
    WarpVote.activeMask.ask l true fun _ => .finish (.ok ())

theorem votingProgram_within (l : Lane) : (votingProgram l).Within 3 :=
  WarpVote.ask_within (fun _ => WarpVote.ask_within (fun _ => WarpVote.ask_within
    (fun _ => .finish) _) _) _

def votingSettings : Settings :=
  { Settings.standard 1 with accelerator := { AcceleratorSettings.standard 1 with warpSize := 2 } }

def votingTask : BlockTask where
  division := ⟨[1], [3], [1]⟩
  kernel := ⟨votingProgram, fun _ => 0, fun _ => 0, fun _ => 3, votingProgram_within⟩
  block := 0
  arena := ⟨0, 0, 0⟩
  buffers := #[]

def votingLane (number : Nat) : Lane where
  division := votingTask.division
  blockIndex := [0]
  threadIndex := [number]
  number
  warpSize := 2
  blockGroup := 3
  warpGroup := if number = 2 then 1 else 2
  arena := votingTask.arena

def votingTeam : Team ThreadBarrier ThreadBarrier where
  plan := ⟨0, votingTask.arena, .lane, 2, false⟩
  members := ([0, 1, 2].map fun i => ⟨.running (votingProgram (votingLane i)), 0, #[]⟩).toArray
  barrier := .make 3
  warps := #[.make 2, .make 1]
  memory := ⟨.zeros, #[]⟩
  top := 0
  published := none
  reported := []

theorem threadTeam_voting : votingTask.threadTeam 3 2 .lane = .ok votingTeam := by
  have hwarps : ((Array.range (BlockTask.threadGrouping 3 2).warps).map fun w =>
      ThreadBarrier.make ((BlockTask.threadGrouping 3 2).warpGroup w)) = #[.make 2, .make 1] := by
    decide +kernel
  rw [BlockTask.threadTeam, hwarps, BlockTask.team, BlockTask.members, Array.mapM_eq_mapM_toList,
    Array.toList_range]
  rfl

/-- What the lanes answer to the votes. -/
def votingAnswers (lane : Nat) : Nat → Bool
  | 0 => lane ≠ 1
  | 1 => lane = 2
  | _ => true

def votingPlan (lane : Nat) : Itinerary :=
  WarpVote.itinerary (BlockTask.threadGrouping 3 2) (lane / 2) [.ballot, .all, .activeMask]
    votingAnswers (lane % 2)

/-- An order of the lanes in which no two of them go side by side. -/
def votingOrder : List Nat :=
  [2, 0, 1, 1, 2, 0, 0, 0, 1, 1, 0, 2, 2, 2, 2, 1, 1, 1, 0, 0, 0]

theorem foldlM_votingOrder : (votingOrder.foldlM Voting.step (.make votingTeam)).map (fun d =>
    (List.range 3).map fun i => (d.brought i, d.heard i, (d.team.outcome? i).map Except.isOk)) =
    some ((List.range 3).map fun i =>
      ((votingPlan i).stops, if i = 2 then [1, 1, 1] else [1, 0, 3], some true)) := by
  decide +kernel

theorem leads_voting : ∃ d, Voting.Leads (.make votingTeam) d ∧
    (∀ w, d.Follows (BlockTask.threadGrouping 3 2) w
      (WarpVote.itinerary (BlockTask.threadGrouping 3 2) w [.ballot, .all, .activeMask]
        votingAnswers)) ∧
    d.heard 0 = [1, 0, 3] ∧ d.heard 1 = [1, 0, 3] ∧ d.heard 2 = [1, 1, 1] := by
  obtain ⟨d, hd, hall⟩ := Option.map_eq_some_iff.mp foldlM_votingOrder
  have hlane (lane : Nat) (hlt : lane < 3) : d.brought lane = (votingPlan lane).stops ∧
      d.heard lane = (if lane = 2 then [1, 1, 1] else [1, 0, 3]) ∧
      (d.team.outcome? lane).map Except.isOk = some true := by
    have htriple := List.map_inj_left.mp hall lane (List.mem_range.mpr hlt)
    simpa only [Prod.mk.injEq] using htriple
  refine ⟨d, Voting.leads_of_foldlM hd, fun w => ⟨fun lane hmem => ?_, fun lane hmem o ho => ?_⟩,
    (hlane 0 (by decide)).2.1, (hlane 1 (by decide)).2.1, (hlane 2 (by decide)).2.1⟩
  · obtain ⟨hlt, rfl⟩ := Grouping.mem_warpLanes.mp hmem
    exact (hlane lane hlt).1 ▸ List.prefix_rfl
  · obtain ⟨hlt, rfl⟩ := Grouping.mem_warpLanes.mp hmem
    obtain ⟨hbrought, -, hgood⟩ := hlane lane hlt
    rw [Team.outcome?_eq_some.mpr ho, Option.map_some, Option.some.injEq] at hgood
    exact ⟨by rw [hgood]; rfl, congrArg List.length hbrought⟩

theorem BlockTask.warps_vote_three_lanes : ∃ d, Voting.Leads (.make votingTeam) d ∧
    (∀ w < 2, d.Agrees (threadGrouping 3 2) w [.ballot, .all, .activeMask] votingAnswers) ∧
    d.heard 0 = [1, 0, 3] ∧ d.heard 1 = [1, 0, 3] ∧ d.heard 2 = [1, 1, 1] := by
  obtain ⟨d, hleads, hfollows, hheard⟩ := leads_voting
  have hdevice : .accelerator votingSettings.accelerator 0 1 ∈
      Platform.accelerators votingSettings.accelerator := List.mem_singleton_self _
  have hmake : WorkDivision.make [1] [3] [1] = .ok votingTask.division := rfl
  have hlanes : votingTask.division.laneCount = .ok 3 := rfl
  have hvalid : votingSettings.validate = .ok () := by decide +kernel
  obtain ⟨-, -, t, ht, -, hseats, hvote⟩ := warps_vote hvalid hdevice hmake rfl rfl hlanes rfl
  obtain rfl := Except.ok.inj (threadTeam_voting.symm.trans ht)
  refine ⟨d, hleads, fun w hw => hvote d hleads w hw _ _ ?_, hheard⟩
  exact (Voting.performs_iff_follows (tiled_threadGrouping 3 2) hseats).mpr (hfollows w)

end LaneGrid
