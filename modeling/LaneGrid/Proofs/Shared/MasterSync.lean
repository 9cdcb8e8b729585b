import LaneGrid.Proofs.Shared.Handouts
import LaneGrid.Proofs.Shared.Lockstep
import LaneGrid.Proofs.Team.Start

/-!
Slices of shared memory that a master reserves for all lanes. A lane that finds the barrier open
gets what was reserved for it. A closed barrier no longer keeps lanes and master together, and a
lane may take an answer to another request for its own.
-/

namespace LaneGrid

open MeetingGate

namespace Chronicle

variable {β ω : Type} [Gate β] [MeetingGate β]

omit [Gate β] [MeetingGate β] in
theorem getLast?_requests {c : Chronicle β ω} {lane : Nat} {k : ElementKind} {m : Nat}
    (h : (c.begun lane).getLast? = some (.request k m)) :
    (c.requests lane).getLast? = some (k, m) := by
  obtain ⟨before, hbegun⟩ := List.getLast?_eq_some_iff.mp h
  rw [requests, hbegun, List.filterMap_append]
  exact List.getLast?_concat

theorem InStep.of_after {c : Chronicle β ω} {lane peer : Nat} {st : Stage} {team : Team β ω}
    (h : (c.after lane st team).InStep peer) : c.InStep peer := by
  have hpeer := c.begun_grows lane st team peer
  have hmaster := c.begun_grows lane st team 0
  rcases h with hle | hge
  · exact List.prefix_or_prefix_of_prefix (hpeer.trans hle) hmaster
  · exact (List.prefix_or_prefix_of_prefix (hmaster.trans hge) hpeer).symm

variable {n lane : Nat} {c c' : Chronicle β ω} {s : Group β} {st : Stage} {team : Team β ω}

theorem Tracks.reserved_handout (h : c.Tracks n s) (hkept : c.Kept)
    (hlane : c.team.stage? lane = some st) {slice : Handout}
    (hslice : c.handout? lane st = some slice) (hopen : slice.closed = false)
    (hsame : c.InStep slice.lane) : slice.Reserved c.answers := by
  obtain ⟨a, last, hanswered, ha, hresult⟩ := hkept.given_handout hslice
  cases st with
  | collecting k m next =>
      rcases hcollected : c.team.collected k m with e | given
      · rw [handout?, hcollected] at hslice
        cases hslice
      · rw [handout?, hcollected] at hslice
        obtain rfl := Option.some.inj hslice
        have hgiven : given.kind = k ∧ given.length = m := by
          rw [Team.collected] at hcollected
          split at hcollected
          · obtain rfl := Except.ok.inj hcollected
            exact ⟨rfl, rfl⟩
          · cases hcollected
          · cases hcollected
        -- The barrier is open, so the latest answer is the one to the lane's latest request.
        have hrequests := h.answers_eq hopen hlane hsame
        have hlast := getLast?_requests ((h.stands lane _ hlane).request k m rfl)
        have hlength : c.answers.length = (c.requests lane).length := by
          rw [← hrequests, List.length_map]
        have hnumber : (c.requests lane).length - 1 = last := by
          rw [← hlength]
          exact congrArg (· - 1) hanswered
        rw [← hrequests, List.getLast?_eq_getElem?, List.length_map, hlength, hnumber,
          List.getElem?_map, ha] at hlast
        obtain ⟨hkind, hsize⟩ := Prod.mk.inj (Option.some.inj hlast)
        refine ⟨?_, a, ?_, hkind.trans hgiven.1.symm, hsize.trans hgiven.2.symm, hresult⟩
        · rw [hanswered]
          exact Nat.lt_succ_of_le (Nat.le_of_eq hnumber)
        · rw [← ha]
          exact congrArg (c.answers[·]?) hnumber
  | _ => cases hslice

theorem tracks_make {n : Nat} {team : Team β ω} (hstarts : team.Starts n)
    (hmaster : team.plan.reserver = .master) (hmeeting : meeting team.barrier = .make n)
    (hdeparted : departed team.barrier = 0) :
    (make team).Tracks n (Group.make team.barrier) where
  sound := Group.sound_make hmeeting hdeparted
  gate_eq := rfl
  master := hmaster
  lanes := hstarts.lanes_iff
  stands := by
    intro lane st hst
    obtain ⟨p, rfl⟩ := hstarts.running lane st hst
    exact ⟨trivial, ⟨nofun, nofun⟩, fun v hv => absurd hv List.not_mem_nil, rfl, nofun⟩
  answered := by
    intro st hst
    obtain ⟨p, rfl⟩ := hstarts.running 0 st hst
    rfl

variable [Gate ω]

/-- Whatever has happened, the record is right, the lanes are a group, and slices that were handed
out at an open barrier were reserved for their requests. -/
theorem Reachable.spec (hc : Reachable team c) (hstarts : team.Starts n)
    (hmaster : team.plan.reserver = .master) (hmeeting : meeting team.barrier = .make n)
    (hdeparted : departed team.barrier = 0) :
    c.Kept ∧ (∃ s, c.Tracks n s) ∧ c.team.plan = team.plan ∧ ∀ h ∈ c.handouts,
      h.closed = false → c.InStep h.lane → h.Reserved c.answers := by
  induction hc with
  | refl =>
      exact ⟨kept_make hstarts.top_eq hstarts.published_eq,
        ⟨_, tracks_make hstarts hmaster hmeeting hdeparted⟩, rfl,
        fun h hh => absurd hh List.not_mem_nil⟩
  | tail _ hstep ih =>
      obtain ⟨hkept, ⟨s, htracks⟩, hplan, hreserved⟩ := ih
      obtain ⟨lane, hlane⟩ := hstep
      obtain ⟨s', htracks', -⟩ := htracks.step hlane
      refine ⟨hkept.step hlane, ⟨s', htracks'⟩, ?_⟩
      obtain ⟨st, st', next, rfl, hst, -, hnext, -⟩ := step_move hlane
      refine ⟨hnext.trans hplan, fun h hh hopen hsame => ?_⟩
      rw [answers_after]
      refine Handout.Reserved.mono ?_ (List.prefix_append _ _)
      rcases List.mem_append.mp hh with hold | hnew
      · exact hreserved h hold hopen hsame.of_after
      · exact htracks.reserved_handout hkept hst (Option.mem_toList.mp hnew) hopen hsame.of_after

end Chronicle

/-- Every slice that a lane of a block is given starts where the master's latest reservation did.
It was reserved for the lane's request exactly if the master has just answered the request with
that number, and for the same elements; it is so as long as the barrier is open and the master
does what the lane does. Slices that were reserved for their requests are aligned, lie inside the
arena and do not overlap. The operations of the kernel have a bound (`Kernel.within`). -/
theorem handouts_sound {ω : Type} [Gate ω] {b : BlockTask} {g : Grouping} {observed : Bool}
    {warps : Array ω} {team : Team ThreadBarrier ω}
    (hteam : b.team g .master observed (ThreadBarrier.make g.lanes) warps = .ok team)
    {c : Chronicle ThreadBarrier ω} (hc : Chronicle.Reachable team c) {h : Handout}
    (hh : h ∈ c.handouts) :
    h.Given c.answers ∧
    (0 < h.slice.length →
      (h.Reserved c.answers ↔ h.answered = h.number + 1 ∧ h.Matches c.answers)) ∧
    (h.closed = false → c.InStep h.lane → h.Reserved c.answers) ∧
    (h.Reserved c.answers →
      h.slice.kind.size ∣ h.slice.offset ∧ h.stop ≤ b.arena.capacity ∧
      ∀ h' ∈ c.handouts, h'.Reserved c.answers → h'.number ≠ h.number →
        h.stop ≤ h'.slice.offset ∨ h'.stop ≤ h.slice.offset) := by
  obtain ⟨hstarts, hplan, hbarrier⟩ := BlockTask.team_starts hteam
  have hmaster : team.plan.reserver = .master := by rw [hplan]
  have hmeeting : meeting team.barrier = .make g.lanes := by
    rw [hbarrier]
    rfl
  have hdeparted : departed team.barrier = 0 := by
    rw [hbarrier]
    rfl
  obtain ⟨hkept, -, hsame, hreserved⟩ := hc.spec hstarts hmaster hmeeting hdeparted
  have hcapacity : c.team.plan.arena.capacity = b.arena.capacity := by rw [hsame, hplan]
  refine ⟨hkept.given h hh, ?_, hreserved h hh, fun hown => ?_⟩
  · exact Handout.reserved_iff hkept.reservations (hkept.given h hh)
  · obtain ⟨haligned, hinside⟩ := hown.inside hkept.reservations
    rw [hcapacity] at hinside
    exact ⟨haligned, hinside, fun h' _ hother hne => hown.disjoint hkept.reservations hother hne⟩

/-- The lanes share four bytes. Then the last lane fails, the master only meets the others once
more, and the lane between them asks for more than there is. -/
def strayProgram (lane : Lane) : Program :=
  .allocate .u8 4 fun _ =>
    match lane.number with
    | 0 => .arrive .block none fun _ => .finish (.ok ())
    | 1 => .allocate .u64 1000 fun _ => .finish (.ok ())
    | _ => .finish (.error (.error (.execution "gives up")))

theorem strayProgram_within (lane : Lane) : (strayProgram lane).Within 2 := by
  refine .allocate fun _ => ?_
  split
  · exact .arrive fun _ => .finish
  · exact .allocate fun _ => .finish
  · exact .finish

def strayTask : BlockTask where
  division := ⟨[1], [3], [1]⟩
  kernel := ⟨strayProgram, fun _ => 16, fun _ => 0, fun _ => 2, strayProgram_within⟩
  block := 0
  arena := ⟨16, 16, 0⟩
  buffers := #[]

def strayGrouping : Grouping :=
  ⟨3, 1, 3, fun _ => 1⟩

def strayMember (number : Nat) : Member :=
  ⟨.running (strayProgram ⟨strayTask.division, [0], [number], number, 1, 3, 1,
    strayTask.arena⟩), 0, #[]⟩

def strayTeam : Team ThreadBarrier ThreadBarrier where
  plan := ⟨0, strayTask.arena, .master, 1, false⟩
  members := #[strayMember 0, strayMember 1, strayMember 2]
  barrier := .make 3
  warps := #[.make 1, .make 1, .make 1]
  memory := ⟨.zeros, #[]⟩
  top := 0
  published := none
  reported := []

theorem team_strayTask : strayTask.team strayGrouping .master false (ThreadBarrier.make 3)
    #[.make 1, .make 1, .make 1] = .ok strayTeam := by
  rw [BlockTask.team, BlockTask.members, Array.mapM_eq_mapM_toList, Array.toList_range]
  rfl

def strayTurns : List Nat :=
  [0, 1, 2, 0, 0, 0, 1, 1, 1, 2, 2, 0, 0, 1, 1, 2, 2, 2, 1, 1, 1, 1]

theorem handouts_strayTurns :
    (strayTurns.foldlM Chronicle.step (Chronicle.make strayTeam)).map
        (fun c => (c.handouts, c.begun 0, c.begun 1)) =
      some ([⟨0, 0, ⟨.u8, 0, 4⟩, 1, false⟩, ⟨1, 0, ⟨.u8, 0, 4⟩, 1, false⟩,
        ⟨2, 0, ⟨.u8, 0, 4⟩, 1, false⟩, ⟨1, 1, ⟨.u64, 0, 1000⟩, 1, true⟩],
        [.request .u8 4], [.request .u8 4, .request .u64 1000]) := by
  decide +kernel

/-- The first slice of the lane in the middle is its own. -/
theorem handouts_sound_stray :
    ∃ c : Chronicle ThreadBarrier ThreadBarrier, Chronicle.Reachable strayTeam c ∧
      ⟨1, 0, ⟨.u8, 0, 4⟩, 1, false⟩ ∈ c.handouts ∧
      Handout.Reserved c.answers ⟨1, 0, ⟨.u8, 0, 4⟩, 1, false⟩ := by
  obtain ⟨c, hturns, hrecord⟩ := Option.map_eq_some_iff.mp handouts_strayTurns
  obtain ⟨hhandouts, hbegun⟩ := Prod.mk.inj hrecord
  obtain ⟨hmaster, hlane⟩ := Prod.mk.inj hbegun
  have hreachable : Chronicle.Reachable strayTeam c :=
    Chronicle.reachable_of_foldlM .refl hturns
  have hmem : ⟨1, 0, ⟨.u8, 0, 4⟩, 1, false⟩ ∈ c.handouts := by
    rw [hhandouts]
    decide
  obtain ⟨-, -, hopen, -⟩ := handouts_sound team_strayTask hreachable hmem
  refine ⟨c, hreachable, hmem, hopen rfl (.inr ?_)⟩
  rw [hmaster, hlane]
  decide

/-- The second slice of the lane in the middle leaves the arena. -/
theorem not_forall_handouts_inside : ¬∀ (b : BlockTask) (g : Grouping) (warps : Array ThreadBarrier)
    (team : Team ThreadBarrier ThreadBarrier) (c : Chronicle ThreadBarrier ThreadBarrier),
    b.team g .master false (ThreadBarrier.make g.lanes) warps = .ok team →
      Chronicle.Reachable team c → ∀ h ∈ c.handouts,
        h.slice.kind.size ∣ h.slice.offset ∧ h.stop ≤ b.arena.capacity ∧
          h.Reserved c.answers := by
  intro hall
  obtain ⟨c, hturns, hrecord⟩ := Option.map_eq_some_iff.mp handouts_strayTurns
  obtain ⟨hhandouts, -⟩ := Prod.mk.inj hrecord
  have hmem : ⟨1, 1, ⟨.u64, 0, 1000⟩, 1, true⟩ ∈ c.handouts := by
    rw [hhandouts]
    decide
  obtain ⟨-, hinside, -⟩ := hall strayTask strayGrouping _ strayTeam c team_strayTask
    (Chronicle.reachable_of_foldlM .refl hturns) _ hmem
  exact absurd hinside (by decide)

end LaneGrid
