import LaneGrid.Proofs.Polling.Arrivals

namespace LaneGrid

namespace Chronicle

variable {c : Chronicle FiberBarrier SoloGate} {n : Nat} {s : Group FiberBarrier}

theorem Tracks.of_reported (h : c.Tracks n s) (reported : List Event) :
    Tracks n { c with team := { c.team with reported } } s :=
  ⟨h.sound, h.gate_eq, h.master, h.lanes, h.stands, h.answered⟩

/-- What holds of lanes that take turns, whatever they have done since they started. -/
structure Since (start : Team FiberBarrier SoloGate) (n bound : Nat)
    (c : Chronicle FiberBarrier SoloGate) : Prop where
  plan_eq : c.team.plan = start.plan
  tracks : ∃ s, c.Tracks n s
  bounded : c.team.Bounded bound
  makes : ∀ i k o, c.Makes i k o → (make start).Makes i k o

theorem Since.step {start : Team FiberBarrier SoloGate} {bound lane : Nat}
    {c' : Chronicle FiberBarrier SoloGate} (h : Since start n bound c)
    (hstep : c.step lane = some c') : Since start n bound c' := by
  obtain ⟨s, htracks⟩ := h.tracks
  obtain ⟨s', htracks', -⟩ := htracks.step hstep
  obtain ⟨st, st', team, rfl, -, -, hplan, -⟩ := step_move hstep
  exact ⟨hplan.trans h.plan_eq, ⟨s', htracks'⟩, bounded_step h.bounded hstep,
    fun i k o hmakes => h.makes i k o (hmakes.of_step htracks.master hstep)⟩

theorem Since.of_reported {start : Team FiberBarrier SoloGate} {bound : Nat}
    (h : Since start n bound c) (reported : List Event) :
    Since start n bound { c with team := { c.team with reported } } := by
  obtain ⟨s, htracks⟩ := h.tracks
  exact ⟨h.plan_eq, ⟨s, htracks.of_reported reported⟩, h.bounded, h.makes⟩

/-- When no lane can go on, a lane has met the others as often as it comes to the barrier in all, and
has ended, or it still waits for another time. -/
theorem Tracks.ended_or_waits (h : c.Tracks n s) (hrest : c.team.AtRest) {lane k : Nat}
    {o : Except Error Unit} (hmakes : c.Makes lane k o) :
    c.team.outcome? lane = some o ∧ k = s.results.length ∨
      c.team.outcome? lane = none ∧ s.results.length < k := by
  obtain ⟨st, rest, hst, hends, rfl⟩ := hmakes
  have hended {o' : Except Error Unit} (hst : c.team.stage? lane = some (.ended o')) :
      Collective.allPasses (c.begun lane) = s.results.length :=
    Nat.le_antisymm (h.allPasses_le rfl hst rfl rfl) (h.results_le (h.lane_lt hst))
  rcases h.ended_or_blocked hrest (fun lane => c.team.lookAt_solo lane) hst with ⟨o', rfl⟩ | hblocked
  · cases hends with
    | ended => exact .inl ⟨Team.outcome?_eq_some.mpr hst, hended hst⟩
  · have hlt := h.lt_allPasses_of_blocked hst hblocked
    refine .inr ⟨Option.eq_none_iff_forall_ne_some.mpr fun o' ho => ?_, by omega⟩
    exact absurd (hended (Team.outcome?_eq_some.mp ho)) hlt.ne'

/-- The lanes that have ended when no lane can go on are those that come to the barrier least
often. -/
theorem Tracks.outcome?_eq (h : c.Tracks n s) (hrest : c.team.AtRest) {arrivals : Nat → Nat}
    {outcome : Nat → Except Error Unit} {least : Nat}
    (hmakes : ∀ i < n, c.Makes i (arrivals i) (outcome i))
    (hleast : ((List.range n).map arrivals).min? = some least) {i : Nat} (hi : i < n) :
    least ≤ arrivals i ∧
      c.team.outcome? i = if arrivals i = least then some (outcome i) else none := by
  obtain ⟨hmem, hle⟩ := List.min?_eq_some_iff.mp hleast
  have hleast_le (j : Nat) (hj : j < n) : least ≤ arrivals j :=
    hle _ (List.mem_map_of_mem (List.mem_range.mpr hj))
  have hmet : least = s.results.length := by
    obtain ⟨peer, o, hpeer, hended⟩ :=
      h.exists_ended hrest (fun lane => c.team.lookAt_solo lane) (Nat.zero_lt_of_lt hi)
    obtain ⟨first, hfirst, rfl⟩ := List.mem_map.mp hmem
    have hpeer_le := hleast_le peer hpeer
    have hcases := h.ended_or_waits hrest (hmakes first (List.mem_range.mp hfirst))
    rcases h.ended_or_waits hrest (hmakes peer hpeer) with ⟨-, heq⟩ | ⟨hnone, -⟩
    · omega
    · exact nomatch hnone.symm.trans (Team.outcome?_eq_some.mpr hended)
  refine ⟨hleast_le i hi, ?_⟩
  rcases h.ended_or_waits hrest (hmakes i hi) with ⟨houtcome, heq⟩ | ⟨hnone, hlt⟩
  · rw [houtcome, if_pos (heq.trans hmet.symm)]
  · rw [hnone, if_neg (by omega)]

end Chronicle

namespace BlockTask

variable {b : BlockTask} {lanes rounds : Nat} {turns : List Turn}
  {c : Chronicle FiberBarrier SoloGate}

/-- The result of lanes of which those end that come to the barrier `least` times. -/
def verdict (block lanes least : Nat) (arrivals : Nat → Nat) (outcome : Nat → Except Error Unit) :
    Outcome Unit :=
  match (List.range lanes).findSome? fun i =>
      if arrivals i = least then Team.failure? (some (outcome i)) else none with
  | some e => .error (.error e)
  | none =>
    match (List.range lanes).countP fun i => least < arrivals i with
    | 0 => .ok ()
    | pending + 1 => .error (.error (.deadlock block (pending + 1) lanes))

theorem Drives.since (h : b.Drives lanes rounds turns c) : ∃ start,
    b.fiberTeam lanes = .ok start ∧ c.Since start lanes (Team.stepBound b.bound) := by
  obtain ⟨t, ht, hscheduled⟩ := h
  obtain ⟨hstarts, hplan, hbarrier⟩ := team_starts ht
  refine ⟨t, ht, hscheduled.preserves (fun _ _ _ => Chronicle.Since.step) ?_ ?_⟩
  · intro c lane hsince
    obtain ⟨reported, hnote⟩ := noteFailure_eq b.block lane c.team
    rw [hnote]
    exact hsince.of_reported reported
  · refine ⟨rfl, ⟨_, Chronicle.tracks_make hstarts ?_ ?_ ?_⟩,
      Team.bounded_of_running fun _ _ hst => team_within ht hst, fun _ _ _ hmakes => hmakes⟩
    · rw [hplan]
    · rw [hbarrier]
      rfl
    · rw [hbarrier]
      rfl

theorem exists_ends {start : Team FiberBarrier SoloGate} (hstart : b.fiberTeam lanes = .ok start)
    {i n : Nat} {o : Except Error Unit} (hmakes : (Chronicle.make start).Makes i n o) :
    ∃ lane o', b.lane (soloGrouping lanes (max lanes 1)) i = .ok lane ∧
      (b.kernel.program lane).Ends n o' ∧ o = told b.block i o' := by
  obtain ⟨st, k, hst, hends, rfl⟩ := hmakes
  obtain ⟨m, hm, rfl⟩ := Option.map_eq_some_iff.mp hst
  obtain ⟨lane, hlane, rfl⟩ := team_members hstart hm
  have hplan : start.plan.block = b.block := congrArg BlockPlan.block (team_starts hstart).2.1
  rw [← hplan]
  cases hends with
  | running hends => exact ⟨lane, _, hlane, (Nat.zero_add k).symm ▸ hends, rfl⟩

theorem Drives.result_eq (h : b.Drives lanes rounds turns c) {arrivals : Nat → Nat}
    {outcome : Nat → Except Error Unit} {least : Nat}
    (houtcome : ∀ i < lanes, least ≤ arrivals i ∧
      c.team.outcome? i = if arrivals i = least then some (outcome i) else none) :
    (b.runFibers lanes).result = verdict b.block lanes least arrivals outcome := by
  obtain ⟨start, hstart, hsince⟩ := h.since
  obtain ⟨s, htracks⟩ := hsince.tracks
  have hsize : c.team.size = lanes := Team.size_eq htracks.lanes
  have hpending : c.team.pending = (List.range lanes).countP fun i => least < arrivals i := by
    rw [c.team.pending_eq, hsize]
    refine List.countP_congr fun i hi => ?_
    obtain ⟨hle, heq⟩ := houtcome i (List.mem_range.mp hi)
    rw [heq]
    by_cases hleast : arrivals i = least
    · simp [hleast]
    · simp [hleast, Nat.lt_of_le_of_ne hle (Ne.symm hleast)]
  have hfirst : c.team.firstError? = (List.range lanes).findSome? fun i =>
      if arrivals i = least then Team.failure? (some (outcome i)) else none := by
    rw [c.team.firstError?_eq, hsize,
      List.map_congr_left fun i hi => (houtcome i (List.mem_range.mp hi)).2, List.findSome?_map]
    refine congrArg (List.findSome? · _) (funext fun i => ?_)
    rw [Function.comp_apply]
    split <;> rfl
  rw [h.runFibers_eq, verdict, ← hfirst, ← hpending]
  split
  · rename_i hnone
    rw [hnone]
    rfl
  · rename_i hsome
    obtain ⟨pending, heq⟩ := Nat.exists_eq_succ_of_ne_zero hsome
    rw [heq]
    rcases c.team.firstError? with _ | e <;> rfl

/-- Lanes that one thread polls in turn, and that wait for each other at nothing but the barrier of
their block: the loop comes to its end, and leaves behind what is reported. It polls no lane after
the lane has ended. The lanes that end are just those that come to the barrier least often, where a
lane that is held up counts with all that it would do; the first failure among them is the result,
and otherwise, if there are other lanes, it is that these wait for ever. -/
theorem least_arrivals_end (b : BlockTask) (lanes : Nat) :
    (∃ rounds turns c, b.Drives lanes rounds turns c) ∧
    ∀ rounds turns c, b.Drives lanes rounds turns c →
      (∃ event, b.runFibers lanes = report (c.team.report event) (b.runFibers lanes).result) ∧
      turns.Pairwise (fun turn later => turn.ended = true → later.lane ≠ turn.lane) ∧
      (∀ i < lanes, ∃ n o, c.Makes i n o) ∧
      (∀ i n o, c.Makes i n o → ∃ lane o', b.lane (soloGrouping lanes (max lanes 1)) i = .ok lane ∧
        (b.kernel.program lane).Ends n o' ∧ o = told b.block i o') ∧
      ∀ (arrivals : Nat → Nat) (outcome : Nat → Except Error Unit) (least : Nat),
        (∀ i < lanes, c.Makes i (arrivals i) (outcome i)) →
        ((List.range lanes).map arrivals).min? = some least →
        (∀ i < lanes, c.team.outcome? i = if arrivals i = least then some (outcome i) else none) ∧
        (b.runFibers lanes).result = verdict b.block lanes least arrivals outcome := by
  refine ⟨b.exists_drives lanes, fun rounds turns c hdrives => ?_⟩
  obtain ⟨start, hstart, hsince⟩ := hdrives.since
  obtain ⟨s, htracks⟩ := hsince.tracks
  refine ⟨hdrives.exists_event, ?_, fun i hi => ?_, fun i n o hmakes => ?_,
    fun arrivals outcome least hmakes hleast => ?_⟩
  · obtain ⟨t, -, hscheduled⟩ := hdrives
    exact (hscheduled.spares (noteFailure_eq b.block)).apart
  · exact Chronicle.exists_makes hsince.bounded ((htracks.lanes i).mpr hi)
  · exact exists_ends hstart (hsince.makes i n o hmakes)
  · have houtcome (i : Nat) (hi : i < lanes) := htracks.outcome?_eq hdrives.atRest hmakes hleast hi
    exact ⟨fun i hi => (houtcome i hi).2, hdrives.result_eq houtcome⟩

end BlockTask

/-- The first lane of a block meets the others twice, and they meet it once: the second lane panics
after that, and the third one fails. -/
def unevenProgram : Nat → Program
  | 0 => .arrive .block none fun _ => .arrive .block none fun _ => .finish (.ok ())
  | 1 => .arrive .block none fun _ => .finish (.error (.fault (.raised (some "root"))))
  | _ => .arrive .block none fun _ => .finish (.error (.error (.execution "secondary")))

theorem unevenProgram_within : ∀ number, (unevenProgram number).Within 2
  | 0 => .arrive fun _ => .arrive fun _ => .finish
  | 1 => .arrive fun _ => .finish
  | _ + 2 => .arrive fun _ => .finish

def unevenTask : BlockTask where
  division := ⟨[1], [3], [1]⟩
  kernel := ⟨fun lane => unevenProgram lane.number, fun _ => 0, fun _ => 0, fun _ => 2,
    fun lane => unevenProgram_within lane.number⟩
  block := 5
  arena := ⟨0, 0, 0⟩
  buffers := #[]

def unevenArrivals : Nat → Nat
  | 0 => 2
  | _ => 1

def unevenOutcome : Nat → Except Error Unit
  | 0 => .ok ()
  | 1 => .error (.kernelPanicked 5 1 "root")
  | _ => .error (.execution "secondary")

theorem ends_unevenProgram {number n : Nat} {o : Outcome Unit}
    (h : (unevenProgram number).Ends n o) :
    unevenArrivals number = n ∧ unevenOutcome number = told 5 number o := by
  match number with
  | 0 =>
      cases h with
      | meet _ h =>
          cases h with
          | meet _ h =>
              cases h
              exact ⟨rfl, rfl⟩
  | 1 =>
      cases h with
      | meet _ h =>
          cases h
          exact ⟨rfl, rfl⟩
  | _ + 2 =>
      cases h with
      | meet _ h =>
          cases h
          exact ⟨rfl, rfl⟩

theorem least_arrivals_end_uneven : ∃ rounds turns c, unevenTask.Drives 3 rounds turns c ∧
    turns.Pairwise (fun turn later => turn.ended = true → later.lane ≠ turn.lane) ∧
    (∀ i < 3, c.Makes i (unevenArrivals i) (unevenOutcome i)) ∧
    c.team.outcome? 0 = none ∧ c.team.outcome? 2 = some (.error (.execution "secondary")) ∧
    (unevenTask.runFibers 3).result = .error (.error (.kernelPanicked 5 1 "root")) := by
  obtain ⟨⟨rounds, turns, c, hdrives⟩, hall⟩ := BlockTask.least_arrivals_end unevenTask 3
  obtain ⟨-, honce, hexists, hends, hresult⟩ := hall rounds turns c hdrives
  have hmakes (i : Nat) (hi : i < 3) : c.Makes i (unevenArrivals i) (unevenOutcome i) := by
    obtain ⟨n, o, hmakes⟩ := hexists i hi
    obtain ⟨lane, o', hlane, hprogram, rfl⟩ := hends i n o hmakes
    have hnumber : lane.number = i := by
      obtain ⟨blockIndex, -, h⟩ := bind_eq_ok.mp hlane
      obtain ⟨threadIndex, -, h⟩ := bind_eq_ok.mp h
      obtain rfl := Except.ok.inj h
      rfl
    obtain ⟨harrivals, houtcome⟩ := ends_unevenProgram hprogram
    rw [hnumber] at harrivals houtcome
    rw [harrivals, houtcome]
    exact hmakes
  obtain ⟨hended, hverdict⟩ := hresult unevenArrivals unevenOutcome 1 hmakes rfl
  exact ⟨rounds, turns, c, hdrives, honce, hmakes, hended 0 (by decide), hended 2 (by decide),
    hverdict⟩

end LaneGrid
