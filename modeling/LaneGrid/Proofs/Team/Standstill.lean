import LaneGrid.Proofs.Team.Attendance
import LaneGrid.Proofs.Team.Budget
import LaneGrid.Proofs.Team.Start

/-!
Lanes that wait for each other. Nobody waits at a barrier for a lane that has left it: such a
barrier is closed, and the launch tells why. But every barrier knows its own lanes only, so lanes of
a warp that wait partly at the barrier of the block and partly at that of the warp wait for ever.
-/

namespace LaneGrid

open MeetingGate

namespace Team

section

variable {β ω : Type} [Gate β] [Gate ω]

/-- A lane waits at the gate of a group, and is not let go: its generation is the open one, and the
gate is not closed. -/
def Blocked (t : Team β ω) (lane : Nat) (scope : Scope) : Prop :=
  ∃ g r, t.stage? lane = some (.waiting scope g r) ∧ t.lookAt lane scope g = .waiting g

/-- Some lane has not ended, and all such lanes are blocked. -/
def Standstill (t : Team β ω) : Prop :=
  t.pending ≠ 0 ∧ ∀ lane st, t.stage? lane = some st →
    (∃ o, st = .ended o) ∨ ∃ scope, t.Blocked lane scope

variable [MeetingGate β] [MeetingGate ω] {t : Team β ω} {lane : Nat}

theorem lookAt_waiting {scope : Scope} {g g' : Word} (h : t.lookAt lane scope g = .waiting g') :
    g' = g := by
  cases scope with
  | block => exact look_waiting (β := β) h
  | warp =>
      rw [lookAt] at h
      split at h
      · cases h
      · exact look_waiting h

theorem standstill_iff : t.Standstill ↔ t.AtRest ∧ t.pending ≠ 0 := by
  constructor
  · rintro ⟨hpending, hall⟩
    refine ⟨fun lane => ?_, hpending⟩
    rcases hst : t.stage? lane with _ | st
    · refine step_of_size_le (Nat.le_of_not_lt fun hlt => ?_)
      exact absurd ((t.isSome_stage? lane).mpr hlt) (by rw [hst]; exact Bool.false_ne_true)
    · rcases hall lane st hst with ⟨o, rfl⟩ | ⟨scope, g, r, hwaiting, hlook⟩
      · exact step_of_ended hst
      · obtain ⟨m, hm, hstage⟩ := Option.map_eq_some_iff.mp hwaiting
        rw [step, hm]
        simp only [Option.bind_eq_bind, Option.bind_some]
        rw [hstage]
        dsimp only
        rw [hlook]
  · rintro ⟨hrest, hpending⟩
    refine ⟨hpending, fun lane st hst => (waits_of_step_eq_none hst (hrest lane)).imp_right ?_⟩
    rintro ⟨scope, g, r, g', rfl, hlook⟩
    obtain rfl := lookAt_waiting hlook
    exact ⟨scope, g', r, hst, hlook⟩

end

variable {g : Grouping} {t t' : Team ThreadBarrier ThreadBarrier}
  {groups : Option Nat → Group ThreadBarrier} {lane n : Nat} {scope : Scope}

theorem Orderly.run (h : t.Orderly g groups) (htiled : g.Tiled) (hrun : Run n t t') :
    ∃ groups', t'.Orderly g groups' := by
  induction hrun generalizing groups with
  | refl => exact ⟨groups, h⟩
  | step hstep _ ih =>
      obtain ⟨groups', h'⟩ := h.step htiled hstep
      exact ih h'

theorem Attended.blocked (h : t.Attended g groups) (hblocked : t.Blocked lane scope) :
    (groups (g.gateOf lane scope)).Blocked (g.seat lane scope) := by
  obtain ⟨generation, r, hst, hlook⟩ := hblocked
  have hlt := (h.lanes lane).mp (Option.isSome_of_eq_some hst)
  have hheld := (h.attends lane _ hst scope).held
  rw [Stage.awaitedAt, if_pos rfl] at hheld
  obtain ⟨earlier, v, hvisits, hwaiting, -⟩ := hheld
  rw [lookAt_eq h.warpSize_eq (h.present lane hlt scope)] at hlook
  exact ⟨earlier, v, generation, hvisits, hwaiting, hlook⟩

theorem Orderly.stays_of_blocked (h : t.Orderly g groups) (htiled : g.Tiled)
    (hblocked : t.Blocked lane scope) {peer : Nat} {st : Stage}
    (hgate : g.gateOf peer scope = g.gateOf lane scope) (hst : t.stage? peer = some st) :
    ¬st.HasLeftAt scope := by
  intro hleft
  have hseat := h.seat_lt htiled hst scope
  have hgone := (h.attends peer st hst scope).left_iff.mpr hleft
  rw [hgate] at hseat hgone
  have hstays := (h.accounts _).stays_of_blocked (h.sound _) (h.toAttended.blocked hblocked) _ hseat
  exact absurd (hstays.symm.trans hgone) (by decide)

/-- When all lanes that have not ended are blocked, those that share a barrier do not all wait
there. -/
theorem Orderly.exists_apart (h : t.Orderly g groups) (htiled : g.Tiled) (hstill : t.Standstill)
    (hblocked : t.Blocked lane scope) :
    ∃ peer scope', scope' ≠ scope ∧ g.gateOf peer scope = g.gateOf lane scope ∧
      t.Blocked peer scope' := by
  obtain ⟨generation, r, hst, -⟩ := id hblocked
  obtain ⟨i, hi, hfree⟩ := (h.sound (g.gateOf lane scope)).exists_not_blocked
    (Nat.one_le_of_lt (h.seat_lt htiled hst scope))
  obtain ⟨peer, hpeer, hgate, rfl⟩ := htiled.exists_lane scope hi
  obtain ⟨st, hst'⟩ := Option.isSome_iff_exists.mp ((h.lanes peer).mpr hpeer)
  have hstays := h.stays_of_blocked htiled hblocked hgate hst'
  rcases hstill.2 peer st hst' with ⟨o, rfl⟩ | ⟨scope', hpeer'⟩
  · exact absurd (by cases scope; exacts [trivial, ⟨o, rfl⟩]) hstays
  · refine ⟨peer, scope', ?_, hgate, hpeer'⟩
    rintro rfl
    exact hfree (hgate ▸ h.toAttended.blocked hpeer')

theorem Orderly.apart (h : t.Orderly g groups) (htiled : g.Tiled) (hstill : t.Standstill) :
    (∀ lane st, t.stage? lane = some st → ¬st.HasLeft) ∧
    ∃ i j, i ≠ j ∧ i / g.warpSize = j / g.warpSize ∧ t.Blocked i .warp ∧ t.Blocked j .block := by
  obtain ⟨i, hwarp⟩ : ∃ i, t.Blocked i .warp := by
    obtain ⟨lane, st, hst, hnot⟩ : ∃ lane st, t.stage? lane = some st ∧ ¬∃ o, st = .ended o := by
      by_contra hall
      refine hstill.1 (pending_eq_zero.mpr fun lane st hst => ?_)
      exact not_not.mp fun hnot => hall ⟨lane, st, hst, hnot⟩
    obtain ⟨scope, hblocked⟩ := (hstill.2 lane st hst).resolve_left hnot
    cases scope with
    | warp => exact ⟨lane, hblocked⟩
    | block =>
        obtain ⟨peer, scope', hne, -, hpeer⟩ := h.exists_apart htiled hstill hblocked
        cases scope' with
        | block => exact absurd rfl hne
        | warp => exact ⟨peer, hpeer⟩
  obtain ⟨j, scope, hne, hgate, hblock⟩ := h.exists_apart htiled hstill hwarp
  cases scope with
  | warp => exact absurd rfl hne
  | block =>
      have hsame (lane : Nat) : g.gateOf lane .block = g.gateOf j .block := rfl
      refine ⟨fun lane st hst => h.stays_of_blocked htiled hblock (hsame lane) hst, i, j, ?_,
        (Option.some.inj hgate).symm, hwarp, hblock⟩
      rintro rfl
      obtain ⟨g₁, r₁, hst₁, -⟩ := hwarp
      obtain ⟨g₂, r₂, hst₂, -⟩ := hblock
      exact absurd (Option.some.inj (hst₁.symm.trans hst₂)) nofun

theorem pending_eq_size (h : ∀ lane st, t.stage? lane = some st → ¬st.HasLeft) :
    t.pending = t.size := by
  have hall : (List.range t.size).countP (fun i => (t.outcome? i).isNone) =
      (List.range t.size).length := by
    refine List.countP_eq_length.mpr fun lane _ => ?_
    rw [Option.isNone_iff_eq_none, Option.eq_none_iff_forall_ne_some]
    exact fun o ho => h lane _ (outcome?_eq_some.mp ho) trivial
  rw [pending_eq, hall, List.length_range]

end Team

namespace BlockTask

variable {b : BlockTask} {lanes warpSize m : Nat} {reserver : Reserver}
  {t₀ t : Team ThreadBarrier ThreadBarrier}

theorem tiled_threadGrouping (lanes warpSize : Nat) : (threadGrouping lanes warpSize).Tiled where
  warpSize_pos := Nat.lt_of_lt_of_le Nat.zero_lt_one (Nat.le_max_right warpSize 1)
  warpGroup_eq _ := rfl

theorem div_lt_warps {g : Grouping} (h : g.Tiled) {lane : Nat} (hlane : lane < g.lanes) :
    lane / g.warpSize < g.warps := by
  rw [Grouping.warps, Nat.div_lt_iff_lt_mul h.warpSize_pos]
  have hdiv := Nat.div_add_mod g.lanes g.warpSize
  have hmod := Nat.mod_lt g.lanes h.warpSize_pos
  rw [Nat.add_mul, Nat.mul_comm]
  split <;> omega

theorem orderly_threadTeam (h : b.threadTeam lanes warpSize reserver = .ok t) :
    t.Orderly (threadGrouping lanes warpSize)
      fun gate => .make (.make ((threadGrouping lanes warpSize).crew gate)) := by
  obtain ⟨hstarts, hplan, hbarrier⟩ := team_starts h
  have hwarps := team_warps h
  refine ⟨⟨?_, hstarts.lanes_iff, fun lane hlane scope => ?_, fun gate => ?_,
    fun lane st hst scope => ?_⟩, fun gate => Group.accounts_make _, fun gate hclosed => ?_⟩
  · rw [hplan]
  · cases scope with
    | block => exact congrArg some hbarrier
    | warp =>
        have hlt := div_lt_warps (tiled_threadGrouping lanes warpSize) hlane
        have hwarp : t.warps[lane / (threadGrouping lanes warpSize).warpSize]? = some (.make
            ((threadGrouping lanes warpSize).warpGroup
              (lane / (threadGrouping lanes warpSize).warpSize))) := by
          rw [hwarps, Array.getElem?_map, Array.getElem?_range, if_pos hlt]
          rfl
        exact hwarp
  · exact Group.sound_make rfl rfl
  · obtain ⟨p, rfl⟩ := hstarts.running lane st hst
    refine ⟨iff_of_false Bool.false_ne_true ?_, fun v hv => absurd hv List.not_mem_nil⟩
    cases scope <;> exact nofun
  · exact absurd hclosed Bool.false_ne_true

theorem threadsResult_of_stranded {gate : Option Nat} {b' : ThreadBarrier}
    (hgate : t.gate? gate = some b') (hstranded : b'.stranded ≠ none) :
    ∃ pending, b.threadsResult t = .error (.error (.deadlock b.block pending t.size)) := by
  have hsome : (t.barrier.stranded.or (t.warps.findSome? (·.stranded))).isSome = true := by
    rw [Option.isSome_or, Bool.or_eq_true]
    cases gate with
    | none =>
        obtain rfl := Option.some.inj hgate
        exact .inl (Option.isSome_iff_ne_none.mpr hstranded)
    | some w =>
        refine .inr (Array.findSome?_isSome_iff.mpr
          ⟨b', ?_, Option.isSome_iff_ne_none.mpr hstranded⟩)
        exact Array.mem_of_getElem? hgate
  obtain ⟨pending, hpending⟩ := Option.isSome_iff_exists.mp hsome
  refine ⟨pending, ?_⟩
  rw [threadsResult, hpending]

/-- Lanes that have threads of their own cannot go on for ever, whatever their order. Nobody stays
blocked at a barrier that a lane has left, and if some lane was let go without meeting the others,
the launch fails: with the deadlock, if a barrier has given up its lanes. All lanes end, unless all
are blocked at one time, some lane at the barrier of the block and another one of its warp at that
of the warp. With one lane to a warp that cannot be. Only lanes whose operations have a bound
(`Kernel.within`) are sure to stop otherwise. -/
theorem standstill_apart (h₀ : b.threadTeam lanes warpSize reserver = .ok t₀)
    (hrun : Team.Run m t₀ t) :
    m ≤ lanes * Team.stepBound b.bound ∧
    (∀ lane scope, t.Blocked lane scope → ∀ peer st,
      (threadGrouping lanes warpSize).gateOf peer scope =
        (threadGrouping lanes warpSize).gateOf lane scope →
      t.stage? peer = some st → ¬st.HasLeftAt scope) ∧
    (t.Standstill → t.pending = lanes ∧ ∃ i j, i ≠ j ∧
      i / max warpSize 1 = j / max warpSize 1 ∧ t.Blocked i .warp ∧ t.Blocked j .block) ∧
    (warpSize ≤ 1 → ¬t.Standstill) ∧
    (t.AtRest → ¬t.Standstill → t.pending = 0 ∧
      ∀ lane < lanes, ∀ scope b', t.gate? ((threadGrouping lanes warpSize).gateOf lane scope) =
        some b' → b'.poisoned = true →
          (∃ pending, b.threadsResult t = .error (.error (.deadlock b.block pending lanes))) ∨
          b'.stranded = none ∧ ∃ peer e, t.outcome? peer = some (.error e)) := by
  obtain ⟨hstarts, -, -⟩ := team_starts h₀
  have htiled := tiled_threadGrouping lanes warpSize
  have hsize : t.size = lanes := by
    rw [hrun.size_eq]
    exact Team.size_eq hstarts.lanes_iff
  obtain ⟨groups, horderly⟩ := (orderly_threadTeam h₀).run htiled hrun
  have hapart (hstill : t.Standstill) : t.pending = lanes ∧ ∃ i j, i ≠ j ∧
      i / max warpSize 1 = j / max warpSize 1 ∧ t.Blocked i .warp ∧ t.Blocked j .block := by
    obtain ⟨hstays, hlanes⟩ := horderly.apart htiled hstill
    exact ⟨hsize ▸ Team.pending_eq_size hstays, hlanes⟩
  refine ⟨?_, ?_, hapart, ?_, ?_⟩
  · have hwithin : t₀.Within (t₀.size * Team.stepBound b.bound) :=
      Team.within_of_running fun _ _ hst => team_within h₀ hst
    rw [← hrun.size_eq, hsize] at hwithin
    exact hrun.le hwithin
  · exact fun lane scope hblocked peer st hgate hst =>
      horderly.stays_of_blocked htiled hblocked hgate hst
  · intro hsolo hstill
    obtain ⟨-, i, j, hne, hwarp, -, -⟩ := hapart hstill
    rw [Nat.max_eq_right hsolo, Nat.div_one, Nat.div_one] at hwarp
    exact hne hwarp
  · intro hrest hnot
    have hpending : t.pending = 0 :=
      not_not.mp fun hne => hnot (Team.standstill_iff.mpr ⟨hrest, hne⟩)
    refine ⟨hpending, fun lane hlane scope b' hgate hclosed => ?_⟩
    rcases hgiven : b'.stranded with _ | pending
    · have hsame := (horderly.present lane hlane scope).symm.trans hgate
      obtain rfl := Option.some.inj hsame
      obtain ⟨peer, st, hst, e, he⟩ := (horderly.blames _ hclosed).resolve_left (not_not.mpr hgiven)
      obtain ⟨o, rfl⟩ := Team.pending_eq_zero.mp hpending peer st hst
      refine .inr ⟨rfl, peer, e, Team.outcome?_eq_some.mpr ?_⟩
      rw [hst, he.resolve_left nofun]
    · exact .inl (hsize ▸ threadsResult_of_stranded hgate (by rw [hgiven]; nofun))

end BlockTask

/-- The lanes of a block take part in block barriers and in votes of their warps, and do nothing
else. -/
inductive Program.Convenes : Program → Prop
  | finish {o : Outcome Unit} : Convenes (.finish o)
  | arrive {scope : Scope} {c : Option Contribution} {next : Word → Program}
      (h : ∀ w, Convenes (next w)) : Convenes (.arrive scope c next)

/-- One lane of a warp comes to the barrier of the block, and the other one votes. -/
def apartProgram (lane : Lane) : Program :=
  match lane.number with
  | 0 => .arrive .block none fun _ => .finish (.ok ())
  | _ => .arrive .warp (some (Poll.some.contribution true)) fun _ => .finish (.ok ())

theorem apartProgram_within (lane : Lane) : (apartProgram lane).Within 1 := by
  rw [apartProgram]
  split <;> exact .arrive fun _ => .finish

theorem apartProgram_convenes (lane : Lane) : (apartProgram lane).Convenes := by
  rw [apartProgram]
  split <;> exact .arrive fun _ => .finish

def apartTask : BlockTask where
  division := ⟨[1], [2], [1]⟩
  kernel := ⟨apartProgram, fun _ => 0, fun _ => 0, fun _ => 1, apartProgram_within⟩
  block := 0
  arena := ⟨0, 0, 0⟩
  buffers := #[]

def apartMember (stage : Stage) : Member :=
  ⟨stage, 0, #[]⟩

def apartLane (number : Nat) : Lane :=
  ⟨apartTask.division, [0], [number], number, 2, 2, 2, apartTask.arena⟩

/-- The two lanes at work. So many of them have come to the barrier of the block and to that of
their warp, and have brought so much. -/
def apartTeam (first second : Stage) (block warp : Nat) (vote : Word) :
    Team ThreadBarrier ThreadBarrier where
  plan := ⟨0, apartTask.arena, .lane, 2, false⟩
  members := #[apartMember first, apartMember second]
  barrier := ⟨⟨2, block, 0, 0, 0⟩, false, 0, none⟩
  warps := #[⟨⟨2, warp, 0, vote, 0⟩, false, 0, none⟩]
  memory := ⟨.zeros, #[]⟩
  top := 0
  published := none
  reported := []

def apartStart : Team ThreadBarrier ThreadBarrier :=
  apartTeam (.running (apartProgram (apartLane 0))) (.running (apartProgram (apartLane 1))) 0 0 0

def apartStill : Team ThreadBarrier ThreadBarrier :=
  apartTeam (.waiting .block 0 (.deliver fun _ => .finish (.ok ())))
    (.waiting .warp 0 (.deliver fun _ => .finish (.ok ()))) 1 1 1

theorem threadTeam_apartTask : apartTask.threadTeam 2 2 .lane = .ok apartStart := by
  have hwarps : ((Array.range (BlockTask.threadGrouping 2 2).warps).map fun w =>
      ThreadBarrier.make ((BlockTask.threadGrouping 2 2).warpGroup w)) = #[.make 2] := by
    decide +kernel
  rw [BlockTask.threadTeam, hwarps, BlockTask.team, BlockTask.members, Array.mapM_eq_mapM_toList,
    Array.toList_range]
  rfl

theorem run_apartStart : Team.Run 2 apartStart apartStill := by
  obtain ⟨t, hfirst, hsecond⟩ :
      ∃ t, apartStart.step 0 = some t ∧ t.step 1 = some apartStill := ⟨_, rfl, rfl⟩
  exact .step hfirst (.step hsecond .refl)

theorem standstill_apartStill : apartStill.Standstill := by
  refine ⟨by decide, fun lane st hst => .inr ?_⟩
  rcases lane with _ | _ | lane
  · exact ⟨.block, 0, _, rfl, rfl⟩
  · exact ⟨.warp, 0, _, rfl, rfl⟩
  · cases hst

theorem standstill_apart_apartTask :
    apartTask.threadTeam 2 2 .lane = .ok apartStart ∧ Team.Run 2 apartStart apartStill ∧
      apartStill.Standstill ∧ apartStill.pending = 2 ∧
      ∃ i j, i ≠ j ∧ i / 2 = j / 2 ∧ apartStill.Blocked i .warp ∧ apartStill.Blocked j .block := by
  obtain ⟨-, -, hapart, -, -⟩ := BlockTask.standstill_apart threadTeam_apartTask run_apartStart
  exact ⟨threadTeam_apartTask, run_apartStart, standstill_apartStill, hapart standstill_apartStill⟩

/-- Lanes can wait for each other without end, though no lane has left any barrier. -/
theorem not_forall_not_standstill : ¬∀ (b : BlockTask) (lanes warpSize : Nat) (reserver : Reserver)
    (m : Nat) (t₀ t : Team ThreadBarrier ThreadBarrier),
    (∀ lane, (b.kernel.program lane).Convenes) → b.threadTeam lanes warpSize reserver = .ok t₀ →
      Team.Run m t₀ t → ¬t.Standstill := by
  intro hall
  exact hall apartTask 2 2 .lane 2 apartStart apartStill apartProgram_convenes
    threadTeam_apartTask run_apartStart standstill_apartStill

end LaneGrid
