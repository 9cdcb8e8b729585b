import LaneGrid.Proofs.Meeting.Account
import LaneGrid.Proofs.Shared.MasterSync
import LaneGrid.Proofs.Shared.Transcript
import LaneGrid.Proofs.Team.Rest

namespace LaneGrid

open MeetingGate

namespace Stage

theorem Inward.request?_eq {st : Stage} (h : st.Inward) : st.request? = none := by
  cases st with
  | running => rfl
  | waiting scope g r =>
      cases scope with
      | block => exact h.elim
      | warp =>
          cases r with
          | deliver => rfl
          | _ => exact h.elim
  | leaving => rfl
  | _ => exact h.elim

theorem request?_of_passes {st : Stage} {reserver : Reserver} {c : Option Contribution}
    {r : Resumption} (h : st.passes reserver = some (c, r)) (a : Arrival) :
    (a.stage r).request?.toList =
      st.request?.toList ++ Collective.requests st.begins.toList := by
  rw [r.request?_stage a]
  cases st with
  | running p =>
      cases p with
      | arrive scope c' next =>
          cases scope with
          | block =>
              obtain ⟨-, rfl⟩ := Prod.mk.inj (Option.some.inj h)
              rfl
          | warp => cases h
      | allocate k n next =>
          cases reserver with
          | lane => cases h
          | master =>
              obtain ⟨-, rfl⟩ := Prod.mk.inj (Option.some.inj h)
              rfl
      | _ => cases h
  | closing k n next =>
      obtain ⟨-, rfl⟩ := Prod.mk.inj (Option.some.inj h)
      rfl
  | _ => cases h

end Stage

namespace Team

variable {β ω : Type} [Gate β] [Gate ω]

theorem slices_reply_master {t : Team β ω} (hreserver : t.plan.reserver = .master) (lane : Nat)
    {m : Member} (h : ∀ k n next, m.stage ≠ .collecting k n next) :
    (t.reply? lane m).toList.filterMap Reply.slice? = [] := by
  rw [reply?]
  rcases hst : m.stage with p | ⟨scope, g, r⟩ | _ | _ | ⟨k, n, next⟩ | _ | _
  case running =>
    cases p with
    | arrive =>
        dsimp only
        split <;> rfl
    | allocate => simp [hreserver]
    | access =>
        dsimp only
        split <;> rfl
    | _ => rfl
  case waiting =>
    cases r with
    | deliver =>
        dsimp only
        split <;> rfl
    | _ => rfl
  case collecting => exact absurd hst (h k n next)
  all_goals rfl

end Team

namespace Chronicle

variable {β ω : Type} {n lane : Nat} {c c' : Chronicle β ω}

/-- The answers of the master are those of an arena that serves its requests. -/
def Honest (c : Chronicle β ω) : Prop :=
  Arena.serve c.team.plan.arena.capacity 0 (c.answers.map Answer.request) =
    (c.answers.map Answer.slice, c.team.top)

variable [Gate β] [MeetingGate β] {s : Group β} {st : Stage} {t' : Team β ω}

theorem Honest.after_of_same (h : c.Honest) (hplan : t'.plan = c.team.plan)
    (haccount : c.team.SameAccount t') (hanswer : c.answer? lane st = none) :
    (c.after lane st t').Honest := by
  have hteam : (c.after lane st t').team = t' := rfl
  rw [Honest, answers_after, hanswer, Option.toList_none, List.append_nil, hteam, hplan,
    haccount.top_eq]
  exact h

theorem Tracks.allPasses_le (h : c.Tracks n s) (hopen : isClosed s.gate = false)
    (hst : c.team.stage? lane = some st) (hawaited : st.awaited = none) (howed : st.owed = 0) :
    Collective.allPasses (c.begun lane) ≤ s.results.length := by
  have hstands := h.stands lane st hst
  have hheld := hstands.held
  rw [hawaited] at hheld
  have hlength := hstands.length_eq
  rw [howed, Nat.add_zero] at hlength
  rw [← hlength]
  exact h.sound.length_le_of_released hopen (List.append_nil _).symm hheld

theorem Tracks.exists_stage (h : c.Tracks n s) (hlane : lane < n) :
    ∃ st, c.team.stage? lane = some st :=
  Option.isSome_iff_exists.mp ((h.lanes lane).mpr hlane)

theorem Tracks.results_le (h : c.Tracks n s) (hlane : lane < n) :
    s.results.length ≤ Collective.allPasses (c.begun lane) := by
  obtain ⟨st, hst⟩ := h.exists_stage hlane
  have hlength := (h.stands lane st hst).length_eq
  have hge := h.sound.le_length_visits hlane
  omega

theorem Tracks.lt_allPasses_of_blocked (h : c.Tracks n s) (hst : c.team.stage? lane = some st)
    (hblocked : s.Blocked lane) : s.results.length < Collective.allPasses (c.begun lane) := by
  obtain ⟨-, v, hv, -⟩ := h.sound.of_blocked hblocked
  have hvisits := (List.getElem?_eq_some_iff.mp hv).1
  have hlength := (h.stands lane st hst).length_eq
  omega

variable [Gate ω]

section AtRest

variable (hrest : c.team.AtRest) (hwarp : ∀ lane g g', c.team.lookAt lane .warp g ≠ .waiting g')

include hrest hwarp

theorem Tracks.ended_or_blocked (h : c.Tracks n s) (hst : c.team.stage? lane = some st) :
    (∃ o, st = .ended o) ∨ s.Blocked lane := by
  refine (Team.waits_of_step_eq_none hst (hrest lane)).imp_right ?_
  rintro ⟨scope, g, r, g', rfl, hlook⟩
  cases scope with
  | warp => exact absurd hlook (hwarp lane g g')
  | block =>
      obtain rfl : g' = g := look_waiting (b := c.team.barrier) hlook
      obtain ⟨earlier, v, hvisits, hwaiting, -⟩ := (h.stands lane _ hst).held
      refine ⟨earlier, v, g', hvisits, hwaiting, ?_⟩
      rw [h.gate_eq]
      exact hlook

theorem Tracks.exists_ended (h : c.Tracks n s) (hn : 0 < n) :
    ∃ lane o, lane < n ∧ c.team.stage? lane = some (.ended o) := by
  obtain ⟨lane, hlane, hfree⟩ := h.sound.exists_not_blocked hn
  obtain ⟨st, hst⟩ := h.exists_stage hlane
  obtain ⟨o, rfl⟩ := (h.ended_or_blocked hrest hwarp hst).resolve_right hfree
  exact ⟨lane, o, hlane, hst⟩

end AtRest

theorem Honest.step (h : c.Honest) (hstep : c.step lane = some c') : c'.Honest := by
  obtain ⟨st, st', t', rfl, -, -, hplan, hmove⟩ := step_move hstep
  cases hmove with
  | work _ _ _ haccount => exact h.after_of_same hplan haccount rfl
  | pass hpasses _ haccount =>
      exact h.after_of_same hplan haccount (answer?_of_passes hpasses c lane)
  | refused hpasses _ haccount =>
      exact h.after_of_same hplan haccount (answer?_of_passes hpasses c lane)
  | resume _ _ haccount => exact h.after_of_same hplan haccount rfl
  | collect _ haccount => exact h.after_of_same hplan haccount rfl
  | leave _ _ haccount => exact h.after_of_same hplan haccount rfl
  | part _ haccount => exact h.after_of_same hplan haccount rfl
  | @publish k m next _ haccount =>
      by_cases hmaster : lane = 0
      · rw [if_pos hmaster] at haccount
        have hteam : (c.after lane (.publishing k m next) t').team = t' := rfl
        rw [Honest, answers_after, answer?, if_pos hmaster, hteam, hplan, haccount.top_eq,
          Option.toList_some, List.map_append, List.map_append, Arena.serve_append, h]
        rfl
      · rw [if_neg hmaster] at haccount
        exact h.after_of_same hplan haccount (if_neg hmaster)

end Chronicle

namespace Transcript

variable {β ω : Type}

/-- Every lane does what the list says with the others, in this order, and does not leave them
before it has done all of it. -/
structure Performs (d : Transcript β ω) (xs : List Collective) : Prop where
  begun_le : ∀ lane, d.begun lane <+: xs
  left : ∀ lane st, d.team.stage? lane = some st → st.HasLeft → d.begun lane = xs

section

variable [Gate β] [Gate ω] {d d' : Transcript β ω} {xs : List Collective} {lane n : Nat}

theorem Performs.of_step (h : d'.Performs xs) (hstep : d.step lane = some d') : d.Performs xs := by
  obtain ⟨m, t', hm, ht', rfl⟩ := step_eq_some.mp hstep
  have hbegun := d.begun_isPrefix_after lane m t'
  constructor
  case begun_le => exact fun peer => (hbegun peer).trans (h.begun_le peer)
  case left =>
    intro peer st hst hleft
    obtain ⟨st₁, st', hst₁, hstage, -, hmove⟩ := Team.step_move ht'
    have hteam : (d.after lane m t').team.stage? = t'.stage? := rfl
    by_cases hpeer : peer = lane
    · subst hpeer
      obtain rfl := Option.some.inj (hst.symm.trans hst₁)
      have hleft' : st'.HasLeft := by
        cases hmove with
        | part => exact trivial
        | pass hpasses => cases st <;> first | exact hleft.elim | cases hpasses
        | refused hpasses => cases st <;> first | exact hleft.elim | cases hpasses
        | _ => exact hleft.elim
      have hsame := h.left peer st' (by rw [hteam, hstage, Function.update_self]) hleft'
      obtain ⟨-, -, -, hbegins⟩ := hleft.idle
      rw [begun_after, Function.update_self] at hsame
      have hstage := Team.stage?_eq_some hm
      obtain rfl := Option.some.inj (hst.symm.trans hstage)
      rw [hbegins] at hsame
      simpa using hsame
    · have hsame := h.left peer st (by rw [hteam, hstage, Function.update_of_ne hpeer, hst]) hleft
      rwa [begun_after, Function.update_of_ne hpeer] at hsame

theorem Performs.of_run (h : d'.Performs xs) (hrun : Run n d d') : d.Performs xs := by
  induction hrun with
  | refl => exact h
  | step hstep _ ih => exact (ih h).of_step hstep

theorem Run.performs {t : Team β ω} (hrun : Run n (make t) d)
    (h : ∀ lane < t.size, d.begun lane = xs) : d.Performs xs where
  begun_le lane := by
    rcases Nat.lt_or_ge lane t.size with hlt | hge
    · rw [h lane hlt]
    · rw [(hrun.idle hge).1]
      exact List.nil_prefix
  left lane st hst _ := by
    have hlt := (d.team.isSome_stage? lane).mp (Option.isSome_of_eq_some hst)
    rw [hrun.team.size_eq] at hlt
    exact h lane hlt

end

variable [Gate β] [MeetingGate β] {d d' : Transcript β ω} {xs : List Collective} {lane n : Nat}
  {c : Chronicle β ω} {s : Group β}

/-- The lanes of a team with all that has happened: what they have begun together, what the master
has answered, when they have met, and what every lane has been given. -/
structure Together (n : Nat) (xs : List Collective) (d : Transcript β ω) (c : Chronicle β ω)
    (s : Group β) : Prop where
  team_eq : c.team = d.team
  begun_eq : c.begun = d.begun
  tracks : c.Tracks n s
  kept : c.Kept
  honest : c.Honest
  /-- The barrier stays open until all is done. -/
  complete : isClosed s.gate = true → s.results.length = Collective.allPasses xs
  /-- A lane has been given the answers to its requests, but to one that it has not collected. -/
  given : ∀ lane st, d.team.stage? lane = some st → ∃ asked,
    d.requests lane = asked ++ st.request?.toList ∧
      (Arena.serve d.team.plan.arena.capacity 0 asked).1 = d.slices lane

theorem together_make {t : Team β ω} (hstarts : t.Starts n) (hmaster : t.plan.reserver = .master)
    (hmeeting : meeting t.barrier = .make n) (hdeparted : departed t.barrier = 0)
    (hopen : isClosed t.barrier = false) :
    (make t).Together n xs (.make t) (.make t.barrier) where
  team_eq := rfl
  begun_eq := rfl
  tracks := Chronicle.tracks_make hstarts hmaster hmeeting hdeparted
  kept := Chronicle.kept_make hstarts.top_eq hstarts.published_eq
  honest := by
    have htop : (Chronicle.make t).team.top = 0 := hstarts.top_eq
    rw [Chronicle.Honest, htop]
    rfl
  complete hclosed := absurd (hopen.symm.trans hclosed) Bool.false_ne_true
  given lane st hst := by
    obtain ⟨p, rfl⟩ := hstarts.running lane st hst
    exact ⟨[], rfl, rfl⟩

theorem Together.results_le (h : d.Together n xs c s) (hperforms : d.Performs xs) (hn : 0 < n) :
    s.results.length ≤ Collective.allPasses xs := by
  refine (h.tracks.results_le hn).trans ?_
  rw [h.begun_eq]
  exact Collective.allPasses_le (hperforms.begun_le 0)

theorem Together.le_results (h : d.Together n xs c s) (hperforms : d.Performs xs)
    (hopen : isClosed s.gate = false) {st : Stage} (hst : d.team.stage? lane = some st)
    (hleft : st.HasLeft) : Collective.allPasses xs ≤ s.results.length := by
  obtain ⟨hawaited, howed, -, -⟩ := hleft.idle
  have hle := h.tracks.allPasses_le hopen (h.team_eq ▸ hst) hawaited howed
  rwa [h.begun_eq, hperforms.left lane st hst hleft] at hle

/-- Once a lane has left, or the barrier is closed, all lanes have met as often as there was to
do. -/
theorem Together.results_eq (h : d.Together n xs c s) (hperforms : d.Performs xs) {st : Stage}
    (hst : d.team.stage? lane = some st) (hleft : st.HasLeft) :
    s.results.length = Collective.allPasses xs := by
  have hlane : lane < n := h.tracks.lane_lt (h.team_eq ▸ hst)
  rcases hclosed : isClosed s.gate with _ | _
  · exact Nat.le_antisymm (h.results_le hperforms (Nat.zero_lt_of_lt hlane))
      (h.le_results hperforms hclosed hst hleft)
  · exact h.complete hclosed

theorem Together.answers_eq (h : d.Together n xs c s) (hperforms : d.Performs xs)
    {k : ElementKind} {m : Nat} {next : Except Error SharedSlice → Program}
    (hlane : d.team.stage? lane = some (.collecting k m next)) :
    c.answers.map Answer.request = d.requests lane := by
  have hstage : c.team.stage? lane = some (.collecting k m next) := h.team_eq ▸ hlane
  have hbegun (peer : Nat) : c.begun peer <+: xs := h.begun_eq ▸ hperforms.begun_le peer
  have hsame : c.InStep lane := List.prefix_or_prefix_of_prefix (hbegun lane) (hbegun 0)
  have hrequests : c.requests lane = d.requests lane := by
    rw [Chronicle.requests, h.begun_eq]
    rfl
  rw [← hrequests]
  rcases hclosed : isClosed s.gate with _ | _
  · exact h.tracks.answers_eq (h.tracks.gate_eq ▸ hclosed) hstage hsame
  · have hcomplete := h.complete hclosed
    have hlt := h.tracks.lane_lt hstage
    refine h.tracks.answers_eq_of_full (Nat.zero_lt_of_lt hlt) ?_ (fun st hst => .inl ?_) hsame
    · refine Nat.le_antisymm ?_ (h.tracks.results_le hlt)
      rw [hcomplete]
      exact Collective.allPasses_le (hbegun lane)
    · have hlength := (h.tracks.stands 0 st hst).length_eq
      have hle := Collective.allPasses_le (hbegun 0)
      omega

theorem Together.collected (h : d.Together n xs c s) (hperforms : d.Performs xs)
    {k : ElementKind} {m : Nat} {next : Except Error SharedSlice → Program}
    (hlane : d.team.stage? lane = some (.collecting k m next)) :
    (Arena.serve d.team.plan.arena.capacity 0 (d.requests lane)).1 =
      d.slices lane ++ [d.team.collected k m] := by
  obtain ⟨asked, hasked, hgiven⟩ := h.given lane _ hlane
  have hanswers := h.answers_eq hperforms hlane
  have hsplit : c.answers.map Answer.request = asked ++ [(k, m)] := hanswers.trans hasked
  obtain ⟨before, last, hcut, -, hlast⟩ := List.map_eq_append_iff.mp hsplit
  obtain ⟨a, hcons, hrequest⟩ := List.map_eq_singleton_iff.mp hlast
  obtain ⟨rfl, rfl⟩ := Prod.mk.inj hrequest
  have hpublished : d.team.published = some a.result := by
    rw [← h.team_eq, h.kept.published_eq, hcut, hcons, List.getLast?_concat]
    rfl
  have hslice : d.team.collected a.kind a.length = a.slice := Team.collected_eq hpublished
  have hhonest := congrArg Prod.fst h.honest
  rw [h.team_eq, hanswers, hcut, hcons, List.map_append] at hhonest
  have hshort := congrArg Prod.fst (Arena.serve_append d.team.plan.arena.capacity 0 asked
    [(a.kind, a.length)])
  have hrequests : d.requests lane = asked ++ [(a.kind, a.length)] := hasked
  rw [hslice, ← hgiven]
  rw [hrequests] at hhonest ⊢
  rw [hhonest] at hshort ⊢
  obtain ⟨hfirst, -⟩ := List.append_inj' hshort rfl
  rw [hfirst]
  rfl

theorem Together.answers_all (h : d.Together n xs c s) (hperforms : d.Performs xs) {st : Stage}
    (hst : d.team.stage? lane = some st) (hleft : st.HasLeft) :
    c.answers.map Answer.request = Collective.requests xs := by
  have hn : 0 < n := Nat.zero_lt_of_lt (h.tracks.lane_lt (h.team_eq ▸ hst))
  obtain ⟨st₀, hst₀⟩ := h.tracks.exists_stage hn
  have hlength := (h.tracks.stands 0 st₀ hst₀).length_eq
  have hge := h.tracks.sound.le_length_visits hn
  have hresults := h.results_eq hperforms hst hleft
  have hbegun : c.begun 0 <+: xs := h.begun_eq ▸ hperforms.begun_le 0
  have hle := Collective.allPasses_le hbegun
  have hall : c.begun 0 = xs := Collective.eq_of_allPasses_le hbegun (by omega)
  have hanswered := h.tracks.answered st₀ hst₀
  rwa [Stage.unanswered_of_owed (by omega), List.append_nil, Chronicle.requests, hall] at hanswered

section

variable [Gate ω]

theorem Together.complete_step [PatientGate β] (h : d.Together n xs c s) (hperforms : d.Performs xs)
    (hperforms' : d'.Performs xs) (hstep : d.step lane = some d')
    (hopen : isClosed s.gate = false) (hclosed : isClosed d'.team.barrier = true) :
    Collective.allPasses xs ≤ s.results.length := by
  obtain ⟨m, t', hm, ht', rfl⟩ := step_eq_some.mp hstep
  obtain ⟨st, st', hst, hstage, -, hmove⟩ := Team.step_move ht'
  have hgate : s.gate = d.team.barrier := h.team_eq ▸ h.tracks.gate_eq
  have hsame (hbarrier : t'.barrier = d.team.barrier) : False := by
    have hclosed' : isClosed t'.barrier = true := hclosed
    rw [hbarrier, ← hgate, hopen] at hclosed'
    exact Bool.false_ne_true hclosed'
  have hmeets {contribution : Option Contribution}
      (harrive : (Gate.arrive d.team.barrier contribution).2 = t'.barrier) :
      Collective.allPasses xs ≤ s.results.length := by
    rw [← hgate] at harrive
    have hgone : departed s.gate ≠ 0 :=
      PatientGate.departed_ne_zero hopen
        h.tracks.sound.departed_le_size (harrive ▸ hclosed)
    obtain ⟨peer, hpeer, hleft⟩ := h.tracks.sound.exists_left hgone
    obtain ⟨st₁, hst₁⟩ := h.tracks.exists_stage hpeer
    exact h.le_results hperforms hopen (h.team_eq ▸ hst₁)
      ((h.tracks.stands peer st₁ hst₁).left_iff.mp hleft)
  cases hmove with
  | work _ _ hbarrier _ => exact (hsame hbarrier).elim
  | pass _ harrive _ => exact hmeets (congrArg Prod.snd harrive)
  | refused _ harrive _ => exact hmeets (congrArg Prod.snd harrive)
  | resume _ hbarrier _ => exact (hsame hbarrier).elim
  | publish hbarrier _ => exact (hsame hbarrier).elim
  | collect hbarrier _ => exact (hsame hbarrier).elim
  | part hbarrier _ => exact (hsame hbarrier).elim
  | @leave o st' hleft _ _ =>
      have hteam : (d.after lane m t').team.stage? = t'.stage? := rfl
      have hdone := hperforms'.left lane st' (by rw [hteam, hstage, Function.update_self]) hleft
      have hm' : m.stage = .leaving o .block :=
        Option.some.inj ((Team.stage?_eq_some hm).symm.trans hst)
      have hbegun : d.begun lane = xs := by
        rw [begun_after, Function.update_self, hm'] at hdone
        simpa [Stage.begins] using hdone
      have hle := h.tracks.allPasses_le hopen (h.team_eq ▸ hst) rfl rfl
      rwa [h.begun_eq, hbegun] at hle

theorem Together.given_after (h : d.Together n xs c s) (hperforms : d.Performs xs) {m : Member}
    {t' : Team β ω} {st' : Stage} (hm : d.team.members[lane]? = some m)
    (hmove : d.team.Move lane t' m.stage st') :
    ∃ asked, (d.after lane m t').requests lane = asked ++ st'.request?.toList ∧
      (Arena.serve d.team.plan.arena.capacity 0 asked).1 = (d.after lane m t').slices lane := by
  have hst := Team.stage?_eq_some hm
  have hmaster : d.team.plan.reserver = .master := h.team_eq ▸ h.tracks.master
  obtain ⟨asked, hasked, hgiven⟩ := h.given lane _ hst
  have hquiet (hrequest : st'.request?.toList =
      m.stage.request?.toList ++ Collective.requests m.stage.begins.toList)
      (hnot : ∀ k n next, m.stage ≠ .collecting k n next) :
      ∃ asked, (d.after lane m t').requests lane = asked ++ st'.request?.toList ∧
        (Arena.serve d.team.plan.arena.capacity 0 asked).1 = (d.after lane m t').slices lane := by
    refine ⟨asked, ?_, ?_⟩
    · rw [requests_after_self, hasked, hrequest, List.append_assoc]
    · rw [slices_after_self, Team.slices_reply_master hmaster lane hnot, List.append_nil, hgiven]
  generalize hstage : m.stage = st at hmove hst hquiet
  cases hmove with
  | work hpasses hinward =>
      rw [hmaster] at hpasses
      refine hquiet ?_ (by simp)
      rw [hinward.request?_eq, Stage.begins_of_passes hpasses]
      rfl
  | pass hpasses =>
      refine hquiet (Stage.request?_of_passes hpasses _) ?_
      rintro k m next rfl
      cases hpasses
  | refused hpasses harrive =>
      obtain ⟨hawaited, hleft, -⟩ := Stage.passes_spec hpasses (.released none)
      have hfree : s.Free lane := by
        refine h.tracks.free (h.team_eq ▸ hst) (fun hgone => ?_) hawaited
        exact (Resumption.hasLeft_stage _ _).mp (hleft.mp hgone)
      obtain ⟨a, gate, hok⟩ :=
        h.tracks.sound.arrives (h.tracks.lane_lt (h.team_eq ▸ hst)) hfree _
      rw [h.tracks.gate_eq, h.team_eq, harrive] at hok
      cases hok
  | @resume scope g r w _ _ _ =>
      refine hquiet ?_ (by simp)
      exact (congrArg Option.toList (r.request?_stage (.released w))).trans (List.append_nil _).symm
  | publish => exact hquiet (List.append_nil _).symm (by simp)
  | @collect k n next _ _ =>
      refine ⟨d.requests lane, ?_, ?_⟩
      · rw [requests_after_self, hstage]
        rfl
      · rw [h.collected hperforms hst, slices_after_self, Team.reply?, hstage]
        rfl
  | leave hleft =>
      refine hquiet ?_ (by simp)
      rw [hleft.idle.2.2.1]
      rfl
  | part => exact hquiet rfl (by simp)

theorem Together.step [PatientGate β] (h : d.Together n xs c s) (hperforms' : d'.Performs xs)
    (hstep : d.step lane = some d') : ∃ c' s', d'.Together n xs c' s' := by
  have hperforms := hperforms'.of_step hstep
  obtain ⟨m, t', hm, ht', rfl⟩ := step_eq_some.mp hstep
  have hst := Team.stage?_eq_some hm
  have hchronicle : c.step lane = some (c.after lane m.stage t') :=
    Chronicle.step_eq_some.mpr ⟨_, t', h.team_eq ▸ hst, h.team_eq ▸ ht', rfl⟩
  obtain ⟨s', htracks, hgroup⟩ := h.tracks.step hchronicle
  have hbegun : (c.after lane m.stage t').begun = (d.after lane m t').begun := by
    rw [Chronicle.begun_after, begun_after, h.begun_eq]
  refine ⟨c.after lane m.stage t', s', rfl, hbegun, htracks, h.kept.step hchronicle,
    h.honest.step hchronicle, fun hclosed => ?_, ?_⟩
  · have hn : 0 < n := Nat.zero_lt_of_lt (h.tracks.lane_lt (h.team_eq ▸ hst))
    have hle : s'.results.length ≤ Collective.allPasses xs := by
      refine (htracks.results_le hn).trans ?_
      rw [hbegun]
      exact Collective.allPasses_le (hperforms'.begun_le 0)
    have hgrows : s.results.length ≤ s'.results.length := by
      cases hgroup with
      | refl => exact Nat.le_refl _
      | single hgroup => exact hgroup.keeps.2.length_le
    refine Nat.le_antisymm hle (Nat.le_trans ?_ hgrows)
    rcases hopen : isClosed s.gate with _ | _
    · exact h.complete_step hperforms hperforms' hstep hopen (htracks.gate_eq ▸ hclosed)
    · exact (h.complete hopen).ge
  · obtain ⟨st₁, st', hst₁, hstage, hplan, hmove⟩ := Team.step_move ht'
    obtain rfl := Option.some.inj (hst.symm.trans hst₁)
    intro peer st₂ hst₂
    have hteam : (d.after lane m t').team = t' := rfl
    rw [hteam, hstage] at hst₂
    rw [hteam, hplan]
    by_cases hpeer : peer = lane
    · subst hpeer
      rw [Function.update_self] at hst₂
      obtain rfl := Option.some.inj hst₂
      exact h.given_after hperforms hm hmove
    · rw [Function.update_of_ne hpeer] at hst₂
      rw [requests_after_of_ne d hpeer, slices_after_of_ne d hpeer]
      exact h.given peer st₂ hst₂

theorem Together.run [PatientGate β] {m : Nat} (h : d.Together n xs c s) (hrun : Run m d d')
    (hperforms : d'.Performs xs) : ∃ c' s', d'.Together n xs c' s' := by
  induction hrun generalizing c s with
  | refl => exact ⟨c, s, h⟩
  | step hstep hrest ih =>
      obtain ⟨c', s', h'⟩ := h.step (hperforms.of_run hrest) hstep
      exact ih h' hperforms

theorem Together.pending_eq_zero (h : d.Together n xs c s) (hperforms : d.Performs xs)
    (hrest : d.team.AtRest) (hwarp : ∀ lane g g', d.team.lookAt lane .warp g ≠ .waiting g') :
    d.team.pending = 0 := by
  rw [Team.pending_eq_zero]
  intro lane st hst
  rw [← h.team_eq] at hst hrest hwarp
  refine (h.tracks.ended_or_blocked hrest hwarp hst).resolve_right fun hblocked => ?_
  obtain ⟨peer, o, hpeer, hended⟩ :=
    h.tracks.exists_ended hrest hwarp (Nat.zero_lt_of_lt (h.tracks.lane_lt hst))
  rw [h.team_eq] at hended
  -- A lane has ended, so there is no generation left for which another one could wait.
  have hresults := h.results_eq hperforms hended trivial
  have hlt := h.tracks.lt_allPasses_of_blocked hst hblocked
  have hle := Collective.allPasses_le (h.begun_eq ▸ hperforms.begun_le lane : c.begun lane <+: xs)
  omega

end

end Transcript

end LaneGrid
