import LaneGrid.Proofs.Shared.Transcript
import LaneGrid.Proofs.Team.Standstill

namespace LaneGrid

open MeetingGate

/-- The word with which a lane goes on once it is let go. -/
def Arrival.word? : Arrival → Option Word
  | released w => some (w.getD 0)
  | waiting _ => none

/-- The word that a lane has got from a visit. -/
def Visit.word? (v : Visit) : Option Word :=
  v.answer.word?

/-- What a lane brings to its warp with its next step. -/
def Stage.brings : Stage → Option (Option Contribution)
  | running (.arrive .warp c _) => some c
  | _ => none

/-- The word that a lane gets from its warp with its next step. -/
def Team.hears {β ω : Type} [Gate β] [Gate ω] (t : Team β ω) (lane : Nat) : Stage → Option Word
  | .running (.arrive .warp c _) => (t.arriveAt lane .warp c).1.toOption.bind Arrival.word?
  | .waiting .warp g (.deliver _) => (t.lookAt lane .warp g).word?
  | _ => none

theorem Stage.brings_of_calls {st : Stage} {reserver : Reserver} (h : st.calls reserver = none) :
    st.brings = none := by
  cases st with
  | running p =>
      cases p with
      | arrive => cases h
      | _ => rfl
  | _ => rfl

theorem Stage.Roams.proper {st : Stage} (h : st.Roams) : st.Proper := by
  cases st with
  | waiting => exact h.elim
  | _ => exact trivial

theorem Team.hears_of_calls {β ω : Type} [Gate β] [Gate ω] {t : Team β ω} {lane : Nat} {st : Stage}
    {reserver : Reserver} (h : st.calls reserver = none) (hst : st.Roams) :
    t.hears lane st = none := by
  cases st with
  | running p =>
      cases p with
      | arrive => cases h
      | _ => rfl
  | waiting => exact hst.elim
  | _ => rfl

theorem Team.continued?_of_hears {β ω : Type} [Gate β] [Gate ω] {t t' : Team β ω} {lane : Nat}
    {st : Stage} {word : Word} (hst : t.stage? lane = some st) (hstep : t.step lane = some t')
    (h : t.hears lane st = some word) :
    ∃ p, st.continued? (.met word) = some p ∧ t'.stage? lane = some (.running p) := by
  obtain ⟨m, hm, rfl⟩ := Option.map_eq_some_iff.mp hst
  refine continued?_of_reply? hm ?_ hstep
  unfold hears at h
  split at h
  case h_1 c next hstage =>
    simp only [reply?, hstage]
    rcases harrive : (t.arriveAt lane .warp c).1 with f | (w | generation)
    · rw [harrive] at h
      cases h
    · rw [harrive] at h
      exact congrArg (some ∘ Reply.met) (Option.some.inj h)
    · rw [harrive] at h
      cases h
  case h_2 generation next hstage =>
    simp only [reply?, hstage]
    rcases hlook : t.lookAt lane .warp generation with w | generation'
    · rw [hlook] at h
      exact congrArg (some ∘ Reply.met) (Option.some.inj h)
    · rw [hlook] at h
      cases h
  case h_3 => cases h

structure Voting (β ω : Type) where
  team : Team β ω
  /-- What every lane has brought to its warp, in order. -/
  brought : Nat → List (Option Contribution)
  /-- The words that every lane has got from its warp, in order. -/
  heard : Nat → List Word

namespace Voting

variable {β ω : Type}

def make (team : Team β ω) : Voting β ω :=
  ⟨team, fun _ => [], fun _ => []⟩

variable [Gate β] [Gate ω]

/-- The record after a step of a lane that stood at `st`. -/
def after (d : Voting β ω) (lane : Nat) (st : Stage) (team : Team β ω) : Voting β ω where
  team
  brought := Function.update d.brought lane (d.brought lane ++ st.brings.toList)
  heard := Function.update d.heard lane (d.heard lane ++ (d.team.hears lane st).toList)

/-- One step of a lane. -/
def step (d : Voting β ω) (lane : Nat) : Option (Voting β ω) := do
  let st ← d.team.stage? lane
  let team ← d.team.step lane
  return d.after lane st team

/-- Steps of the lanes, in whichever order, lead from the one to the other. -/
def Leads : Voting β ω → Voting β ω → Prop :=
  Relation.ReflTransGen fun d d' => ∃ lane, d.step lane = some d'

variable {d d' : Voting β ω} {lane : Nat}

theorem step_eq_some : d.step lane = some d' ↔ ∃ st team, d.team.stage? lane = some st ∧
    d.team.step lane = some team ∧ d' = d.after lane st team := by
  constructor
  · intro h
    obtain ⟨st, hst, h⟩ := Option.bind_eq_some_iff.mp h
    obtain ⟨team, hteam, h⟩ := Option.bind_eq_some_iff.mp h
    exact ⟨st, team, hst, hteam, (Option.some.inj h).symm⟩
  · rintro ⟨st, team, hst, hteam, rfl⟩
    rw [step, hst, hteam]
    rfl

theorem hears_of_heard {st : Stage} {team : Team β ω} {word : Word}
    (h : (d.after lane st team).heard lane = d.heard lane ++ [word]) :
    d.team.hears lane st = some word := by
  simp only [after, Function.update_self, List.append_cancel_left_eq] at h
  exact Option.toList_eq_singleton_iff.mp h

theorem exists_step {team : Team β ω} (h : d.team.step lane = some team) :
    ∃ d', d.step lane = some d' ∧ d'.team = team := by
  obtain ⟨m, hm, -⟩ := Team.exists_step h
  exact ⟨_, step_eq_some.mpr ⟨m.stage, team, Team.stage?_eq_some hm, h, rfl⟩, rfl⟩

theorem leads_of_foldlM {lanes : List Nat} (h : lanes.foldlM step d = some d') : Leads d d' := by
  induction lanes generalizing d with
  | nil =>
      obtain rfl := Option.some.inj h
      exact .refl
  | cons lane lanes ih =>
      obtain ⟨next, hnext, hrest⟩ := Option.bind_eq_some_iff.mp h
      exact .head ⟨lane, hnext⟩ (ih hrest)

theorem brought_isPrefix (h : d.step lane = some d') (peer : Nat) :
    d.brought peer <+: d'.brought peer := by
  obtain ⟨st, team, -, -, rfl⟩ := step_eq_some.mp h
  exact (Function.forall_update_iff _ fun peer cs => d.brought peer <+: cs).mpr
    ⟨List.prefix_append _ _, fun _ _ => List.prefix_rfl⟩ peer

end Voting

namespace Team

/-- The visits of a lane to the gate of its warp. -/
def warpVisits {β : Type} (g : Grouping) (groups : Option Nat → Group β) (lane : Nat) :
    List Visit :=
  (groups (g.gateOf lane .warp)).visits (g.seat lane .warp)

section Visits

variable {β : Type} {g : Grouping} {groups : Option Nat → Group β} {lane peer : Nat}
  {scope : Scope} {s : Group β}

theorem warpVisits_block : warpVisits g
    (Function.update groups (g.gateOf lane .block) s) peer = warpVisits g groups peer := by
  have hgate : g.gateOf peer .warp ≠ g.gateOf lane .block := g.gateOf_ne peer lane (by decide)
  rw [warpVisits, Function.update_of_ne hgate, warpVisits]

theorem warpVisits_warp : warpVisits g
    (Function.update groups (g.gateOf lane .warp) s) lane = s.visits (g.seat lane .warp) := by
  rw [warpVisits, Function.update_self]

theorem warpVisits_of_ne {visits : List Visit}
    (hs : s.visits = Function.update (groups (g.gateOf lane scope)).visits (g.seat lane scope)
      visits) (hpeer : peer ≠ lane) :
    warpVisits g (Function.update groups (g.gateOf lane scope) s) peer =
      warpVisits g groups peer := by
  by_cases hgate : g.gateOf peer .warp = g.gateOf lane scope
  · obtain rfl : scope = .warp := not_not.mp fun hne => g.gateOf_ne peer lane (Ne.symm hne) hgate
    rw [warpVisits, warpVisits, hgate, Function.update_self, hs,
      Function.update_of_ne (Grouping.seat_ne hgate hpeer)]
  · rw [warpVisits, Function.update_of_ne hgate, warpVisits]

end Visits

section Moves

variable {β : Type} [Gate β] [MeetingGate β] {g : Grouping} {reserver : Reserver}
  {groups groups' : Option Nat → Group β} {lane peer : Nat} {st st' : Stage} {t : Team β β}

theorem Moves.warpVisits_of_ne (h : Moves g reserver groups lane st st' groups')
    (hpeer : peer ≠ lane) : warpVisits g groups' peer = warpVisits g groups peer := by
  cases h with
  | spares => rfl
  | arrives => exact Team.warpVisits_of_ne rfl hpeer
  | looks => exact Team.warpVisits_of_ne rfl hpeer
  | leaves => exact Team.warpVisits_of_ne (Function.update_eq_self _ _).symm hpeer

theorem Moves.proper (h : Moves g reserver groups lane st st' groups') : st'.Proper := by
  cases h with
  | spares _ _ hst' => exact Stage.Roams.proper hst'
  | @arrives _ scope _ a _ _ hcalls =>
      cases Stage.calls_spec hcalls with
      | arrive => cases scope <;> cases a <;> exact trivial
      | allocate => cases a <;> exact trivial
      | closing => cases a <;> exact trivial
  | @looks _ _ r w => exact Stage.Roams.proper (Stage.roams_stage r w)
  | @leaves _ scope => cases scope <;> exact trivial

theorem Moves.contributions (h : Moves g reserver groups lane st st' groups') :
    (warpVisits g groups' lane).map (·.contribution) =
      (warpVisits g groups lane).map (·.contribution) ++ st.brings.toList := by
  cases h with
  | spares hcalls => rw [Stage.brings_of_calls hcalls, Option.toList_none, List.append_nil]
  | @arrives _ scope c a r b hcalls hfree harrive =>
      cases Stage.calls_spec hcalls with
      | arrive =>
          cases scope with
          | block => rw [warpVisits_block]; simp [Stage.brings]
          | warp =>
              rw [warpVisits_warp, Group.visits_arrived, Function.update_self]
              simp [warpVisits, Stage.brings]
      | allocate => rw [warpVisits_block]; simp [Stage.brings]
      | closing => rw [warpVisits_block]; simp [Stage.brings]
  | @looks scope generation r w earlier v hvisits hwaiting hlook =>
      cases scope with
      | block => rw [warpVisits_block]; simp [Stage.brings]
      | warp =>
          rw [warpVisits_warp, warpVisits, hvisits]
          simp [Group.looked, Stage.brings]
  | @leaves o scope hfree hleave =>
      cases scope with
      | block => rw [warpVisits_block]; simp [Stage.brings]
      | warp =>
          rw [warpVisits_warp, warpVisits]
          simp [Group.gone, Stage.brings]

theorem Moves.words (h : Moves g reserver groups lane st st' groups') (ht : t.Attended g groups)
    (hlane : t.stage? lane = some st) (hproper : st.Proper) :
    (warpVisits g groups' lane).filterMap Visit.word? =
      (warpVisits g groups lane).filterMap Visit.word? ++ (t.hears lane st).toList := by
  have hlt := (ht.lanes lane).mp (Option.isSome_of_eq_some hlane)
  have hgate := ht.present lane hlt .warp
  cases h with
  | spares hcalls hst => rw [hears_of_calls hcalls hst, Option.toList_none, List.append_nil]
  | @arrives _ scope c a r b hcalls hfree harrive =>
      cases Stage.calls_spec hcalls with
      | arrive =>
          cases scope with
          | block => rw [warpVisits_block]; simp [hears]
          | warp =>
              rw [warpVisits_warp, Group.visits_arrived, Function.update_self, hears,
                arriveAt_eq ht.warpSize_eq hgate, harrive]
              cases a <;> simp [warpVisits, Except.toOption, Visit.word?, Arrival.word?]
      | allocate => rw [warpVisits_block]; simp [hears]
      | closing => rw [warpVisits_block]; simp [hears]
  | @looks scope generation r w earlier v hvisits hwaiting hlook =>
      cases scope with
      | block => rw [warpVisits_block]; simp [hears]
      | warp =>
          cases r with
          | deliver next =>
              rw [warpVisits_warp, warpVisits, hvisits, hears, lookAt_eq ht.warpSize_eq hgate,
                hlook]
              simp [Group.looked, Visit.word?, Arrival.word?, hwaiting]
          | publish => exact hproper.elim
          | collect => exact hproper.elim
  | @leaves o scope hfree hleave =>
      cases scope with
      | block => rw [warpVisits_block]; simp [hears]
      | warp =>
          rw [warpVisits_warp, warpVisits]
          simp [Group.gone, hears]

end Moves

end Team

section Words

variable {visits : List Visit}

theorem Visit.word?_of_released {v : Visit} {r : Option Word} (h : v.answer = .released r) :
    v.word? = some (r.getD 0) := by
  rw [word?, h]
  rfl

theorem Visit.word?_of_waiting {v : Visit} {generation : Word}
    (h : v.answer = .waiting generation) : v.word? = none := by
  rw [word?, h]
  rfl

theorem Held.getElem?_words_of_over (h : Held visits none) (k : Nat) :
    (visits.filterMap Visit.word?)[k]? = visits[k]?.bind Visit.word? := by
  induction visits generalizing k with
  | nil => rfl
  | cons v vs ih =>
      obtain ⟨r, hr⟩ := h v List.mem_cons_self
      have hword := Visit.word?_of_released hr
      rw [List.filterMap_cons_some hword]
      cases k with
      | zero => exact hword.symm
      | succ k => exact ih (fun u hu => h u (List.mem_cons_of_mem v hu)) k

theorem Held.length_words_of_over (h : Held visits none) :
    (visits.filterMap Visit.word?).length = visits.length := by
  refine List.filterMap_length_eq_length.mpr fun v hv => ?_
  obtain ⟨r, hr⟩ := h v hv
  rw [Visit.word?_of_released hr]
  rfl

theorem words_concat_waiting {earlier : List Visit} {v : Visit} {generation : Word}
    (h : v.answer = .waiting generation) :
    (earlier ++ [v]).filterMap Visit.word? = earlier.filterMap Visit.word? := by
  rw [List.filterMap_append, List.filterMap_cons_none (Visit.word?_of_waiting h),
    List.filterMap_nil, List.append_nil]

variable {awaited : Option Word}

theorem Held.getElem?_words (h : Held visits awaited) (k : Nat) :
    (visits.filterMap Visit.word?)[k]? = visits[k]?.bind Visit.word? := by
  cases awaited with
  | none => exact h.getElem?_words_of_over k
  | some generation =>
      obtain ⟨earlier, v, rfl, hwaiting, hearlier⟩ := h
      rw [words_concat_waiting hwaiting, Held.getElem?_words_of_over hearlier]
      rcases Nat.lt_trichotomy k earlier.length with hlt | rfl | hgt
      · rw [List.getElem?_append_left hlt]
      · rw [List.getElem?_concat_length, List.getElem?_eq_none (Nat.le_refl _)]
        exact (Visit.word?_of_waiting hwaiting).symm
      · rw [List.getElem?_eq_none (Nat.le_of_lt hgt), List.getElem?_eq_none]
        rw [List.length_append, List.length_singleton]
        exact hgt

theorem Held.length_words (h : Held visits awaited) :
    (visits.filterMap Visit.word?).length + awaited.toList.length = visits.length := by
  cases awaited with
  | none => exact h.length_words_of_over
  | some generation =>
      obtain ⟨earlier, v, rfl, hwaiting, hearlier⟩ := h
      rw [words_concat_waiting hwaiting, Held.length_words_of_over hearlier, List.length_append]
      rfl

end Words

namespace Voting

open Team

variable {g : Grouping} {d d' : Voting ThreadBarrier ThreadBarrier}
  {groups : Option Nat → Group ThreadBarrier} {lane : Nat}

/-- The record agrees with what the groups at the gates of the warps know. -/
structure Recorded (g : Grouping) (d : Voting ThreadBarrier ThreadBarrier)
    (groups : Option Nat → Group ThreadBarrier) : Prop extends d.team.Orderly g groups where
  proper : ∀ lane st, d.team.stage? lane = some st → st.Proper
  brought_eq : ∀ lane, d.brought lane = (warpVisits g groups lane).map (·.contribution)
  heard_eq : ∀ lane, d.heard lane = (warpVisits g groups lane).filterMap Visit.word?

theorem recorded_make {b : BlockTask} {lanes warpSize : Nat} {reserver : Reserver}
    {t : Team ThreadBarrier ThreadBarrier} (h : b.threadTeam lanes warpSize reserver = .ok t) :
    (make t).Recorded (BlockTask.threadGrouping lanes warpSize)
      fun gate => .make (.make ((BlockTask.threadGrouping lanes warpSize).crew gate)) := by
  refine ⟨BlockTask.orderly_threadTeam h, fun lane st hst => ?_, fun _ => rfl, fun _ => rfl⟩
  obtain ⟨p, rfl⟩ := (BlockTask.team_starts h).1.running lane st hst
  exact trivial

theorem Recorded.step (h : d.Recorded g groups) (htiled : g.Tiled) (hstep : d.step lane = some d') :
    ∃ st st' groups', d.team.stage? lane = some st ∧
      d'.team.stage? = Function.update d.team.stage? lane (some st') ∧
      Moves g d.team.plan.reserver groups lane st st' groups' ∧ d'.Recorded g groups' := by
  obtain ⟨st, t', hst, ht', rfl⟩ := step_eq_some.mp hstep
  obtain ⟨st₁, st', groups', hlane, hstage, hmoves, horderly⟩ := h.moves htiled ht'
  obtain rfl := Option.some.inj (hst.symm.trans hlane)
  refine ⟨st, st', groups', hst, hstage, hmoves, horderly, ?_, ?_, ?_⟩
  · change ∀ peer st₁, t'.stage? peer = some st₁ → st₁.Proper
    rw [hstage]
    refine (Function.forall_update_iff _ fun _ o => ∀ st, o = some st → Stage.Proper st).mpr
      ⟨?_, fun peer _ => h.proper peer⟩
    rintro _ ⟨⟩
    exact hmoves.proper
  · refine (Function.forall_update_iff _ fun peer cs =>
      cs = (warpVisits g groups' peer).map (·.contribution)).mpr ⟨?_, fun peer hpeer => ?_⟩
    · rw [hmoves.contributions, h.brought_eq]
    · rw [hmoves.warpVisits_of_ne hpeer, h.brought_eq]
  · refine (Function.forall_update_iff _ fun peer words =>
      words = (warpVisits g groups' peer).filterMap Visit.word?).mpr ⟨?_, fun peer hpeer => ?_⟩
    · rw [hmoves.words h.toAttended hst (h.proper lane st hst), h.heard_eq]
    · rw [hmoves.warpVisits_of_ne hpeer, h.heard_eq]

end Voting

end LaneGrid
