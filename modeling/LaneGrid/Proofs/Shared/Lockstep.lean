import LaneGrid.Proofs.Meeting.Safety
import LaneGrid.Proofs.Shared.Standing

namespace LaneGrid

open MeetingGate

namespace Answer

def request (a : Answer) : ElementKind × Nat :=
  (a.kind, a.length)

end Answer

namespace Chronicle

variable {β ω : Type} [Gate β] [MeetingGate β]

/-- The lanes of a team as a group. -/
structure Tracks (n : Nat) (c : Chronicle β ω) (s : Group β) : Prop where
  sound : s.Sound n
  gate_eq : s.gate = c.team.barrier
  master : c.team.plan.reserver = .master
  lanes : ∀ lane, (c.team.stage? lane).isSome = true ↔ lane < n
  stands : ∀ lane st, c.team.stage? lane = some st →
    Stands (s.visits lane) (s.left lane) (c.begun lane) st
  /-- The master has answered every request that it has begun, but the last one sometimes. -/
  answered : ∀ st, c.team.stage? 0 = some st →
    c.answers.map Answer.request ++ st.unanswered = c.requests 0

variable {n lane : Nat} {c c' : Chronicle β ω} {s s' : Group β} {st st' : Stage}
  {team : Team β ω}

theorem Tracks.advance (h : c.Tracks n s) (hlane : c.team.stage? lane = some st)
    (hstage : team.stage? = Function.update c.team.stage? lane (some st'))
    (hplan : team.plan = c.team.plan) (hsound : s'.Sound n) (hgate : s'.gate = team.barrier)
    (hpeers : ∀ peer, peer ≠ lane →
      s'.visits peer = s.visits peer ∧ s'.left peer = s.left peer)
    (hstands : Stands (s'.visits lane) (s'.left lane) (c.begun lane ++ st.begins.toList) st')
    (hanswered : lane = 0 → (c.answer? lane st).toList.map Answer.request ++ st'.unanswered =
      st.unanswered ++ st.begins.toList.filterMap Collective.request?) :
    (c.after lane st team).Tracks n s' := by
  constructor
  case sound => exact hsound
  case gate_eq => exact hgate
  case master => exact (congrArg BlockPlan.reserver hplan).trans h.master
  case lanes =>
    intro peer
    rw [← h.lanes peer]
    have hteam : (c.after lane st team).team.stage? = team.stage? := rfl
    rw [hteam, hstage]
    by_cases hpeer : peer = lane
    · rw [hpeer, Function.update_self, hlane]
      rfl
    · rw [Function.update_of_ne hpeer]
  case stands =>
    intro peer st₁ hst₁
    have hteam : (c.after lane st team).team.stage? = team.stage? := rfl
    rw [hteam, hstage] at hst₁
    rw [begun_after]
    by_cases hpeer : peer = lane
    · subst hpeer
      rw [Function.update_self] at hst₁ ⊢
      obtain rfl := Option.some.inj hst₁
      exact hstands
    · rw [Function.update_of_ne hpeer] at hst₁ ⊢
      rw [(hpeers peer hpeer).1, (hpeers peer hpeer).2]
      exact h.stands peer st₁ hst₁
  case answered =>
    intro st₁ hst₁
    have hteam : (c.after lane st team).team.stage? = team.stage? := rfl
    rw [hteam, hstage] at hst₁
    by_cases hmaster : lane = 0
    · subst hmaster
      rw [Function.update_self] at hst₁
      obtain rfl := Option.some.inj hst₁
      rw [requests_after_self, ← h.answered st hlane, answers_after, List.map_append,
        List.append_assoc, hanswered rfl, List.append_assoc]
    · have hanswer : c.answer? lane st = none := by
        cases st with
        | publishing k m next => exact if_neg hmaster
        | _ => rfl
      rw [Function.update_of_ne (Ne.symm hmaster)] at hst₁
      rw [answers_after, hanswer, requests_after_of_ne c (Ne.symm hmaster), Option.toList_none,
        List.append_nil]
      exact h.answered st₁ hst₁

theorem Tracks.advance_alone (h : c.Tracks n s) (hlane : c.team.stage? lane = some st)
    (hstage : team.stage? = Function.update c.team.stage? lane (some st'))
    (hplan : team.plan = c.team.plan) (hbarrier : team.barrier = c.team.barrier)
    (hbegins : st.begins = none)
    (hstands : Stands (s.visits lane) (s.left lane) (c.begun lane) st')
    (hanswered : lane = 0 →
      (c.answer? lane st).toList.map Answer.request ++ st'.unanswered = st.unanswered) :
    (c.after lane st team).Tracks n s := by
  refine h.advance hlane hstage hplan h.sound (h.gate_eq.trans hbarrier.symm)
    (fun _ _ => ⟨rfl, rfl⟩) ?_ ?_
  · rw [hbegins, Option.toList_none, List.append_nil]
    exact hstands
  · intro hmaster
    rw [hanswered hmaster, hbegins]
    exact (List.append_nil _).symm

theorem Tracks.lane_lt (h : c.Tracks n s) (hlane : c.team.stage? lane = some st) : lane < n :=
  (h.lanes lane).mp (Option.isSome_of_eq_some hlane)

theorem Tracks.free (h : c.Tracks n s) (hlane : c.team.stage? lane = some st)
    (hleft : ¬st.HasLeft) (hawaited : st.awaited = none) : s.Free lane := by
  have hstands := h.stands lane st hlane
  refine ⟨?_, ?_⟩
  · exact Bool.eq_false_iff.mpr fun hgone => hleft (hstands.left_iff.mp hgone)
  · have hheld := hstands.held
    rw [hawaited] at hheld
    exact hheld

theorem Tracks.pass (h : c.Tracks n s) (hlane : c.team.stage? lane = some st)
    {contribution : Option Contribution} {r : Resumption} {a : Arrival}
    (hstage : team.stage? = Function.update c.team.stage? lane (some (a.stage r)))
    (hplan : team.plan = c.team.plan)
    (hpasses : st.passes c.team.plan.reserver = some (contribution, r))
    (harrive : Gate.arrive c.team.barrier contribution = (.ok a, team.barrier)) :
    ∃ s', (c.after lane st team).Tracks n s' ∧ Group.Step n s s' := by
  obtain ⟨hawaited, hleft, -, -, hunanswered, -⟩ := Stage.passes_spec hpasses a
  have hlt := h.lane_lt hlane
  have hfree : s.Free lane :=
    h.free hlane (fun hgone => (r.hasLeft_stage a).mp (hleft.mp hgone)) hawaited
  rw [← h.gate_eq] at harrive
  have hvisits := Group.visits_arrived s lane contribution a team.barrier
  refine ⟨s.arrived lane contribution a team.barrier, ?_, .arrive hlt hfree harrive⟩
  refine h.advance hlane hstage hplan (h.sound.arrived hlt hfree harrive) rfl ?_ ?_ ?_
  · intro peer hpeer
    rw [hvisits, Function.update_of_ne hpeer]
    exact ⟨rfl, rfl⟩
  · rw [hvisits, Function.update_self]
    exact (h.stands lane st hlane).of_pass hpasses rfl
  · intro _
    have hanswer : c.answer? lane st = none := by
      cases st with
      | publishing k m next => cases hpasses
      | _ => rfl
    rw [hanswer, hunanswered]
    rfl

theorem Tracks.resume (h : c.Tracks n s) {scope : Scope} {g : Word} {r : Resumption}
    {w : Option Word} (hlane : c.team.stage? lane = some (.waiting scope g r))
    (hstage : team.stage? = Function.update c.team.stage? lane (some (r.stage w)))
    (hplan : team.plan = c.team.plan) (hbarrier : team.barrier = c.team.barrier)
    (hlook : Gate.look c.team.barrier g = .released w ∨ scope = .warp) :
    ∃ s', (c.after lane (.waiting scope g r) team).Tracks n s' ∧
      Relation.ReflGen (Group.Step n) s s' := by
  have hstands := h.stands lane _ hlane
  cases scope with
  | block =>
      obtain ⟨earlier, v, hvisits, hwaiting, -⟩ := hstands.held
      have hreleased : Gate.look s.gate g = .released w := by
        rw [h.gate_eq]
        exact hlook.resolve_right nofun
      have hupdate : (s.looked lane earlier { v with answer := Gate.look s.gate g }).visits =
          Function.update s.visits lane
            (earlier ++ [{ v with answer := Gate.look s.gate g }]) := rfl
      refine ⟨s.looked lane earlier { v with answer := Gate.look s.gate g }, ?_,
        .single (.look hvisits hwaiting)⟩
      refine h.advance hlane hstage hplan (h.sound.looked hvisits hwaiting)
        (h.gate_eq.trans hbarrier.symm) ?_ ?_ ?_
      · intro peer hpeer
        rw [hupdate, Function.update_of_ne hpeer]
        exact ⟨rfl, rfl⟩
      · rw [hupdate, Function.update_self]
        rw [hvisits] at hstands
        have hquiet : (Stage.waiting .block g r).begins = none := rfl
        rw [hquiet, Option.toList_none, List.append_nil]
        exact hstands.of_resume hreleased
      · intro _
        exact (r.unanswered_stage (.released w)).trans (List.append_nil _).symm
  | warp =>
      cases r with
      | deliver next =>
          exact ⟨s, h.advance_alone hlane hstage hplan hbarrier rfl
            (hstands.of_quiet trivial Iff.rfl rfl rfl fun k m hst => by cases hst) fun _ => rfl,
            .refl⟩
      | _ => exact hstands.proper.elim

theorem Tracks.leave (h : c.Tracks n s) {o : Except Error Unit}
    (hlane : c.team.stage? lane = some (.leaving o .block))
    (hstage : team.stage? = Function.update c.team.stage? lane (some st'))
    (hplan : team.plan = c.team.plan) (hleft : st'.HasLeft)
    (hbarrier : team.barrier = (Gate.leave c.team.barrier o.isOk.not).2) :
    ∃ s', (c.after lane (.leaving o .block) team).Tracks n s' ∧ Group.Step n s s' := by
  have hstands := h.stands lane _ hlane
  have hfree := h.free hlane (fun hgone => hgone.elim) rfl
  have hupdate : (s.gone lane o.isOk.not).left = Function.update s.left lane true := rfl
  refine ⟨s.gone lane o.isOk.not, ?_, .leave (h.lane_lt hlane) hfree _⟩
  refine h.advance hlane hstage hplan (h.sound.gone (h.lane_lt hlane) hfree _) ?_ ?_ ?_ ?_
  · rw [hbarrier, ← h.gate_eq]
    rfl
  · intro peer hpeer
    rw [hupdate, Function.update_of_ne hpeer]
    exact ⟨rfl, rfl⟩
  · have hquiet : (Stage.leaving o .block).begins = none := rfl
    rw [hquiet, Option.toList_none, List.append_nil, hupdate, Function.update_self]
    cases st' with
    | leaving o' scope =>
        cases scope with
        | block => exact hleft.elim
        | warp =>
            exact ⟨trivial, Iff.intro (fun _ => trivial) fun _ => rfl, hstands.held,
              hstands.length_eq, fun k m hst => by cases hst⟩
    | ended o' =>
        exact ⟨trivial, Iff.intro (fun _ => trivial) fun _ => rfl, hstands.held,
          hstands.length_eq, fun k m hst => by cases hst⟩
    | _ => exact hleft.elim
  · intro _
    cases st' with
    | leaving o' scope => rfl
    | ended o' => rfl
    | _ => exact hleft.elim

theorem Tracks.length_visits_master (h : c.Tracks n s) (hopen : isClosed c.team.barrier = false)
    (hst : c.team.stage? 0 = some st) :
    (s.visits 0).length ≤ s.results.length ∨
      (s.visits 0).length = s.results.length + 1 ∧ ∃ g, st.awaited = some g := by
  rw [← h.gate_eq] at hopen
  have hheld := (h.stands 0 st hst).held
  rcases hawaited : st.awaited with _ | g
  · rw [hawaited] at hheld
    exact .inl (h.sound.length_le_of_released hopen (List.append_nil _).symm hheld)
  · rw [hawaited] at hheld
    obtain ⟨earlier, v, hvisits, -, hreleased⟩ := hheld
    have hle := h.sound.length_le_of_released hopen hvisits hreleased
    rw [hvisits, List.length_append, List.length_singleton]
    rcases Nat.eq_or_lt_of_le hle with heq | hlt
    · exact .inr ⟨congrArg (· + 1) heq, g, rfl⟩
    · exact .inl hlt

/-- The lane and the master begin the same operations, as far as both have come. -/
def InStep (c : Chronicle β ω) (lane : Nat) : Prop :=
  c.begun lane <+: c.begun 0 ∨ c.begun 0 <+: c.begun lane

/-- When a lane has taken part in all that was completed, and the master is no further than that,
the master has answered the lane's requests, and no others. -/
theorem Tracks.answers_eq_of_full (h : c.Tracks n s) (hlt : 0 < n)
    (hfull : Collective.allPasses (c.begun lane) = s.results.length)
    (hmeets : ∀ st, c.team.stage? 0 = some st → (s.visits 0).length ≤ s.results.length ∨
      (s.visits 0).length = s.results.length + 1 ∧ ∃ g, st.awaited = some g)
    (hsame : c.InStep lane) : c.answers.map Answer.request = c.requests lane := by
  obtain ⟨st, hst⟩ : ∃ st, c.team.stage? 0 = some st :=
    Option.isSome_iff_exists.mp ((h.lanes 0).mpr hlt)
  have hmaster := h.stands 0 st hst
  have hanswered := h.answered st hst
  have howed := st.owed_le
  have hge := h.sound.le_length_visits hlt
  have hlength := hmaster.length_eq
  rcases hsame with ⟨ahead, hahead⟩ | ⟨behind, hbehind⟩
  · have hpasses := Collective.allPasses_append (c.begun lane) ahead
    have hrequests : c.requests 0 = c.requests lane ++ ahead.filterMap Collective.request? := by
      rw [requests, ← hahead, List.filterMap_append]
      rfl
    rw [hahead] at hpasses
    rcases Nat.eq_zero_or_pos st.owed with hnone | hsome
    · -- The master is between two operations, and can only have met the others since.
      have hle : Collective.allPasses ahead ≤ 1 := by
        rcases hmeets st hst with hle | ⟨heq, -⟩ <;> omega
      rw [Stage.unanswered_of_owed hnone, List.append_nil, hrequests,
        Collective.requests_of_allPasses hle, List.append_nil] at hanswered
      exact hanswered
    · -- The master has begun one more request, and waits for the lane.
      have hone : st.owed = 1 := Nat.le_antisymm howed hsome
      obtain ⟨k', m', hrequest⟩ := Stage.exists_request hone
      have hlast := hmaster.request k' m' hrequest
      have hne : ahead ≠ [] := by
        rintro rfl
        have hzero : Collective.allPasses [] = 0 := rfl
        omega
      rw [← hahead, List.getLast?_append_of_ne_nil _ hne] at hlast
      obtain ⟨before, rfl, htwo⟩ := Collective.exists_of_getLast? hlast
      rcases hmeets st hst with hle | ⟨heq, g, hawaited⟩
      · omega
      · obtain rfl : before = [] := Collective.eq_nil_of_allPasses (by omega)
        obtain ⟨q, hq⟩ := Stage.exists_unanswered hone hawaited
        rw [hq, hrequests] at hanswered
        exact (List.append_inj' hanswered rfl).1
  · have hpasses := Collective.allPasses_append (c.begun 0) behind
    rw [hbehind] at hpasses
    obtain rfl : behind = [] := Collective.eq_nil_of_allPasses (by omega)
    have hnone : st.owed = 0 := by omega
    rw [List.append_nil] at hbehind
    rw [Stage.unanswered_of_owed hnone, List.append_nil] at hanswered
    rw [hanswered, requests, hbehind]
    rfl

/-- When a lane comes to collect an answer at an open barrier, the master has answered its
requests, and no others. -/
theorem Tracks.answers_eq (h : c.Tracks n s) (hopen : isClosed c.team.barrier = false)
    {k : ElementKind} {m : Nat} {next : Except Error SharedSlice → Program}
    (hlane : c.team.stage? lane = some (.collecting k m next)) (hsame : c.InStep lane) :
    c.answers.map Answer.request = c.requests lane := by
  have hlt := h.lane_lt hlane
  refine h.answers_eq_of_full (Nat.zero_lt_of_lt hlt) ?_
    (fun st hst => h.length_visits_master hopen hst) hsame
  have hfree := h.free hlane (fun hgone => hgone.elim) rfl
  rw [← (h.stands lane _ hlane).length_eq, h.sound.length_visits hlt hfree (h.gate_eq ▸ hopen)]
  rfl

variable [Gate ω]

theorem Tracks.step (h : c.Tracks n s) (hstep : c.step lane = some c') :
    ∃ s', c'.Tracks n s' ∧ Relation.ReflGen (Group.Step n) s s' := by
  obtain ⟨st, st', team, rfl, hlane, hstage, hplan, hmove⟩ := step_move hstep
  have hstands := h.stands lane st hlane
  cases hmove with
  | work hpasses hinward hbarrier _ =>
      rw [h.master] at hpasses
      obtain ⟨hstands', hunanswered⟩ := hinward.stands hstands
      exact ⟨s, h.advance_alone hlane hstage hplan hbarrier (Stage.begins_of_passes hpasses)
        hstands' fun _ => hunanswered, .refl⟩
  | pass hpasses harrive _ =>
      obtain ⟨s', htracks, hgroup⟩ := h.pass hlane hstage hplan hpasses harrive
      exact ⟨s', htracks, .single hgroup⟩
  | refused hpasses harrive _ =>
      obtain ⟨hawaited, hleft, -⟩ := Stage.passes_spec hpasses (.released none)
      have hfree : s.Free lane := by
        refine h.free hlane (fun hgone => ?_) hawaited
        exact (Resumption.hasLeft_stage _ _).mp (hleft.mp hgone)
      obtain ⟨a, gate, hok⟩ := h.sound.arrives (h.lane_lt hlane) hfree _
      rw [h.gate_eq, harrive] at hok
      cases hok
  | @resume scope g r w hlook hbarrier _ =>
      refine h.resume hlane hstage hplan hbarrier ?_
      cases scope with
      | block => exact .inl hlook
      | warp => exact .inr rfl
  | publish hbarrier _ =>
      refine ⟨s, h.advance_alone hlane hstage hplan hbarrier rfl
        (hstands.of_quiet trivial Iff.rfl rfl rfl fun k m hst => hst) fun hmaster => ?_, .refl⟩
      rw [answer?, if_pos hmaster]
      rfl
  | collect hbarrier _ =>
      exact ⟨s, h.advance_alone hlane hstage hplan hbarrier rfl
        (hstands.of_quiet trivial Iff.rfl rfl rfl fun k m hst => by cases hst) fun _ => rfl, .refl⟩
  | leave hleft hbarrier _ =>
      obtain ⟨s', htracks, hgroup⟩ := h.leave hlane hstage hplan hleft hbarrier
      exact ⟨s', htracks, .single hgroup⟩
  | part hbarrier _ =>
      exact ⟨s, h.advance_alone hlane hstage hplan hbarrier rfl
        (hstands.of_quiet trivial Iff.rfl rfl rfl fun k m hst => by cases hst) fun _ => rfl, .refl⟩

end Chronicle

end LaneGrid
