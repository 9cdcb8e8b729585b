import Mathlib.Algebra.BigOperators.Group.Finset.Basic
import Mathlib.Algebra.Order.BigOperators.Group.Finset
import LaneGrid.Proofs.Meeting.Account

/-!
Lanes that have threads of their own come to one barrier a number of times, and go. They never get
stuck, and the barrier gives up a generation only if a lane has come in it that others, which have
gone, will not join. Lanes that come equally often, and do not fail, are never given up.
-/

namespace LaneGrid

open MeetingGate

/-- What a lane does at a barrier: it comes with one contribution after the other, and goes. -/
structure Itinerary where
  stops : List (Option Contribution)
  fails : Bool

namespace Arrival

def isReleased : Arrival → Bool
  | released _ => true
  | waiting _ => false

end Arrival

namespace Group

variable {n k lane : Nat} {plan : Nat → Itinerary} {s s' : Group ThreadBarrier}

/-- The indivisible steps of `n` lanes that do what they have planned. -/
inductive Advance (n : Nat) (plan : Nat → Itinerary) :
    Group ThreadBarrier → Group ThreadBarrier → Prop
  | arrive {s : Group ThreadBarrier} {lane : Nat} {c : Option Contribution} {a : Arrival}
      {gate : ThreadBarrier} (hlane : lane < n) (hfree : s.Free lane)
      (hnext : (plan lane).stops[(s.visits lane).length]? = some c)
      (h : Gate.arrive s.gate c = (.ok a, gate)) : Advance n plan s (s.arrived lane c a gate)
  /-- A lane that waits goes on once it is let go. -/
  | wake {s : Group ThreadBarrier} {lane : Nat} {earlier : List Visit} {v : Visit} {g : Word}
      {r : Option Word} (hvisits : s.visits lane = earlier ++ [v])
      (hwaiting : v.answer = .waiting g) (hreleased : Gate.look s.gate g = .released r) :
      Advance n plan s (s.looked lane earlier { v with answer := .released r })
  | leave {s : Group ThreadBarrier} {lane : Nat} (hlane : lane < n) (hfree : s.Free lane)
      (hdone : (s.visits lane).length = (plan lane).stops.length)
      (h : (Gate.leave s.gate (plan lane).fails).1 = .ok ()) :
      Advance n plan s (s.gone lane (plan lane).fails)

/-- The states in which `n` lanes can be after a number of steps. -/
inductive Course (n : Nat) (plan : Nat → Itinerary) : Nat → Group ThreadBarrier → Prop
  | start : Course n plan 0 (make (.make n))
  | next {k : Nat} {s s' : Group ThreadBarrier} (h : Course n plan k s)
      (hstep : Advance n plan s s') : Course n plan (k + 1) s'

theorem Advance.step (h : Advance n plan s s') : Step n s s' := by
  cases h with
  | arrive hlane hfree _ h => exact .arrive hlane hfree h
  | wake hvisits hwaiting hreleased =>
      rw [← hreleased]
      exact .look hvisits hwaiting
  | leave hlane hfree => exact .leave hlane hfree _

structure OnPlan (n : Nat) (plan : Nat → Itinerary) (s : Group ThreadBarrier) : Prop where
  sound : s.Sound n
  accounts : s.Accounts n
  length_le : ∀ lane < n, (s.visits lane).length ≤ (plan lane).stops.length
  gone : ∀ lane, s.left lane = true → (s.visits lane).length = (plan lane).stops.length ∧
    ∀ v ∈ s.visits lane, ∃ r, v.answer = .released r
  /-- A barrier is closed when it gives up its lanes, and when a lane fails. -/
  closed_iff : s.gate.poisoned = true ↔
    s.gate.stranded ≠ none ∨ ∃ lane < n, s.left lane = true ∧ (plan lane).fails = true

theorem onPlan_make (n : Nat) (plan : Nat → Itinerary) : (make (.make n)).OnPlan n plan where
  sound := sound_make rfl rfl
  accounts := accounts_make n
  length_le _ _ := Nat.zero_le _
  gone _ h := absurd h Bool.false_ne_true
  closed_iff := by simp [make, ThreadBarrier.make]

theorem OnPlan.visits_le (h : s.OnPlan n plan) (hopen : s.gate.poisoned = false)
    (hgoes : s.left lane = true ∨
      s.Free lane ∧ (s.visits lane).length = (plan lane).stops.length) :
    (plan lane).stops.length ≤ s.results.length := by
  rcases hgoes with hleft | ⟨hfree, hdone⟩
  · obtain ⟨hdone, hreleased⟩ := h.gone lane hleft
    rw [← hdone]
    exact h.sound.length_le_of_released hopen (List.append_nil _).symm hreleased
  · rw [← hdone]
    exact h.sound.length_le_of_released hopen (List.append_nil _).symm hfree.2

theorem OnPlan.arrived (h : s.OnPlan n plan) (hlane : lane < n) (hfree : s.Free lane)
    {c : Option Contribution} {a : Arrival} {gate : ThreadBarrier}
    (hnext : (plan lane).stops[(s.visits lane).length]? = some c)
    (harrive : Gate.arrive s.gate c = (.ok a, gate)) :
    (s.arrived lane c a gate).OnPlan n plan := by
  have hgate : (Gate.arrive s.gate c).2 = gate := congrArg Prod.snd harrive
  refine ⟨h.sound.arrived hlane hfree harrive, Step.accounts h.sound h.accounts
    (.arrive hlane hfree harrive), fun peer hpeer => ?_, fun peer hleft => ?_, ?_⟩
  · rw [length_visits_arrived]
    split
    · rename_i heq
      rw [heq]
      exact (List.getElem?_eq_some_iff.mp hnext).1
    · exact h.length_le peer hpeer
  · have hpeer : peer ≠ lane := by
      rintro rfl
      exact absurd (hfree.1.symm.trans hleft) (by decide)
    rw [visits_arrived, Function.update_of_ne hpeer]
    exact h.gone peer hleft
  · exact hgate ▸ (h.accounts.settles_arrive h.sound hlane hfree c).poisoned_iff h.closed_iff

theorem OnPlan.woken (h : s.OnPlan n plan) {earlier : List Visit} {v : Visit} {g : Word}
    {r : Option Word} (hvisits : s.visits lane = earlier ++ [v])
    (hwaiting : v.answer = .waiting g) (hreleased : Gate.look s.gate g = .released r) :
    (s.looked lane earlier { v with answer := .released r }).OnPlan n plan := by
  have hstep : Step n s (s.looked lane earlier { v with answer := .released r }) := by
    rw [← hreleased]
    exact .look hvisits hwaiting
  refine ⟨hstep.sound h.sound, hstep.accounts h.sound h.accounts, fun peer hpeer => ?_,
    fun peer hleft => ?_, h.closed_iff⟩
  · rw [length_visits_looked hvisits]
    exact h.length_le peer hpeer
  · have hpeer : peer ≠ lane := by
      rintro rfl
      obtain ⟨r', hr'⟩ := (h.gone peer hleft).2 v (hvisits ▸ List.mem_concat_self)
      rw [hwaiting] at hr'
      cases hr'
    have hkept : (s.looked lane earlier { v with answer := .released r }).visits peer =
        s.visits peer := Function.update_of_ne hpeer _ _
    rw [hkept]
    exact h.gone peer hleft

theorem OnPlan.left (h : s.OnPlan n plan) (hlane : lane < n) (hfree : s.Free lane)
    (hdone : (s.visits lane).length = (plan lane).stops.length) :
    (s.gone lane (plan lane).fails).OnPlan n plan := by
  have hleft : (s.gone lane (plan lane).fails).left = Function.update s.left lane true := rfl
  refine ⟨h.sound.gone hlane hfree _, Step.accounts h.sound h.accounts (.leave hlane hfree _),
    h.length_le, fun peer hpeer => ?_, ?_⟩
  · rw [hleft] at hpeer
    by_cases heq : peer = lane
    · subst heq
      exact ⟨hdone, hfree.2⟩
    · rw [Function.update_of_ne heq] at hpeer
      exact h.gone peer hpeer
  · have hgate : (s.gone lane (plan lane).fails).gate = (Gate.leave s.gate (plan lane).fails).2 := rfl
    rw [hgate, hleft]
    rcases hfails : (plan lane).fails with _ | _
    · -- A lane that ends well is not among those that have failed.
      have hfailed : (∃ i < n, Function.update s.left lane true i = true ∧ (plan i).fails = true) ↔
          ∃ i < n, s.left i = true ∧ (plan i).fails = true := by
        refine exists_congr fun i => and_congr_right fun _ => ?_
        by_cases heq : i = lane
        · rw [heq, hfails]
          simp
        · rw [Function.update_of_ne heq]
      rw [hfailed]
      exact (h.accounts.settles_leave h.sound hlane hfree).poisoned_iff h.closed_iff
    · refine iff_of_true rfl (.inr ⟨lane, hlane, ?_, hfails⟩)
      rw [Function.update_self]

theorem Advance.onPlan (hstep : Advance n plan s s') (h : s.OnPlan n plan) : s'.OnPlan n plan := by
  cases hstep with
  | arrive hlane hfree hnext harrive => exact h.arrived hlane hfree hnext harrive
  | wake hvisits hwaiting hreleased => exact h.woken hvisits hwaiting hreleased
  | leave hlane hfree hdone => exact h.left hlane hfree hdone

theorem Course.onPlan (h : Course n plan k s) : s.OnPlan n plan := by
  induction h with
  | start => exact onPlan_make n plan
  | next _ hstep ih => exact hstep.onPlan ih

/-! ### Nobody gets stuck -/

theorem OnPlan.advances (h : s.OnPlan n plan) (hlane : lane < n) (hstays : s.left lane = false)
    (hblocked : ¬s.Blocked lane) : ∃ s', Advance n plan s s' := by
  by_cases hfree : s.Free lane
  · rcases Nat.lt_or_eq_of_le (h.length_le lane hlane) with hlt | hdone
    · obtain ⟨a, gate, harrive⟩ :=
        h.sound.arrives hlane hfree (plan lane).stops[(s.visits lane).length]
      exact ⟨_, .arrive hlane hfree (List.getElem?_eq_getElem hlt) harrive⟩
    · exact ⟨_, .leave hlane hfree hdone (leave_ok (h.sound.departed_lt hlane hfree) _)⟩
  · obtain ⟨earlier, v, g, hvisits, hwaiting⟩ := h.sound.exists_waiting hstays hfree
    rcases hlook : Gate.look s.gate g with r | g'
    · exact ⟨_, .wake hvisits hwaiting hlook⟩
    · exact absurd ⟨earlier, v, g, hvisits, hwaiting, MeetingGate.look_waiting hlook ▸ hlook⟩ hblocked

theorem OnPlan.progress (h : s.OnPlan n plan) (hlane : lane < n) (hstays : s.left lane = false) :
    ∃ s', Advance n plan s s' := by
  by_contra hstuck
  have hblocked {peer : Nat} (hpeer : peer < n) (hleft : s.left peer = false) : s.Blocked peer :=
    not_not.mp fun hnot => hstuck (h.advances hpeer hleft hnot)
  have hnone := h.accounts.stays_of_blocked h.sound (hblocked hlane hstays)
  obtain ⟨peer, hpeer, hnot⟩ := h.sound.exists_not_blocked (Nat.zero_lt_of_lt hlane)
  exact hnot (hblocked hpeer (hnone peer hpeer))

/-! ### Why lanes are given up -/

/-- How many lanes have gone without failing. -/
def finishedCount (n : Nat) (plan : Nat → Itinerary) (s : Group ThreadBarrier) : Nat :=
  (List.range n).countP fun lane => s.left lane && !(plan lane).fails

/-- The step in which a barrier gives up its lanes. Some lane has gone without failing, and another
one has come in the generation that is open and waits in it, or would have to. -/
structure GivesUp (n : Nat) (plan : Nat → Itinerary) (s s' : Group ThreadBarrier) (pending : Nat) :
    Prop where
  gone : ∃ lane < n, s'.left lane = true ∧ (plan lane).fails = false
  comes : ∃ lane < n, s'.left lane = false ∧ ∃ earlier v, s'.visits lane = earlier ++ [v] ∧
    v.generation = some s'.results.length ∧
    (v.answer = .waiting s'.gate.meeting.generation ∨ s.visits lane = earlier)
  incomplete : s'.gate.meeting.arrived < n
  pending_eq : pending = n - s'.finishedCount n plan
  pending_pos : 1 ≤ pending

theorem OnPlan.fails_eq (h : s.OnPlan n plan) (hopen : s.gate.poisoned = false) (hlane : lane < n)
    (hleft : s.left lane = true) : (plan lane).fails = false :=
  Bool.eq_false_iff.mpr fun hfails =>
    absurd (hopen.symm.trans (h.closed_iff.mpr (.inr ⟨lane, hlane, hleft, hfails⟩))) (by decide)

theorem countP_left (hgood : ∀ lane < n, s.left lane = true → (plan lane).fails = false) :
    (List.range n).countP s.left = s.finishedCount n plan := by
  refine List.countP_congr fun lane hlane => ?_
  rw [Bool.and_eq_true, Bool.not_eq_true']
  exact ⟨fun hleft => ⟨hleft, hgood lane (List.mem_range.mp hlane) hleft⟩, fun h => h.1⟩

theorem OnPlan.finished_eq (h : s.OnPlan n plan) (hopen : s.gate.poisoned = false) :
    s.gate.finished = s.finishedCount n plan :=
  (h.accounts.finished_eq hopen).trans (countP_left fun _ => h.fails_eq hopen)

theorem OnPlan.finished_gone (h : s.OnPlan n plan) (hopen : s.gate.poisoned = false)
    (hlane : lane < n) (hfree : s.Free lane) (hfails : (plan lane).fails = false) :
    s.gate.finished + 1 = (s.gone lane false).finishedCount n plan := by
  have hleft : (s.gone lane false).left = Function.update s.left lane true := rfl
  rw [h.accounts.finished_eq hopen,
    ← countP_update List.nodup_range (List.mem_range.mpr hlane) hfree.1, ← hleft]
  refine countP_left fun peer hpeer hgone => ?_
  rw [hleft] at hgone
  by_cases heq : peer = lane
  · exact heq ▸ hfails
  · rw [Function.update_of_ne heq] at hgone
    exact h.fails_eq hopen hpeer hgone

theorem finishedCount_lt (hlane : lane < n) (hstays : s.left lane = false) :
    s.finishedCount n plan < n := by
  have hnot : (s.left lane && !(plan lane).fails) = false := by rw [hstays, Bool.false_and]
  have hlt := List.countP_lt_length_iff (p := fun lane => s.left lane && !(plan lane).fails)
    |>.mpr ⟨lane, List.mem_range.mpr hlane, hnot⟩
  rwa [List.length_range] at hlt

theorem exists_of_finishedCount (h : s.finishedCount n plan ≠ 0) :
    ∃ lane < n, s.left lane = true ∧ (plan lane).fails = false := by
  obtain ⟨lane, hlane, hgone⟩ := List.countP_pos_iff.mp (Nat.pos_of_ne_zero h)
  rw [Bool.and_eq_true, Bool.not_eq_true'] at hgone
  exact ⟨lane, List.mem_range.mp hlane, hgone⟩

theorem OnPlan.exists_waits (h : s.OnPlan n plan) (hopen : s.gate.poisoned = false)
    (harrived : s.gate.meeting.arrived ≠ 0) :
    ∃ lane < n, s.left lane = false ∧ ∃ earlier v, s.visits lane = earlier ++ [v] ∧
      v.generation = some s.results.length ∧ v.answer = .waiting s.gate.meeting.generation := by
  obtain ⟨order, -, hmem, hlength, -, -⟩ := h.sound.present
  obtain ⟨lane, hlane⟩ : ∃ lane, lane ∈ order := by
    refine List.exists_mem_of_ne_nil order ?_
    rintro rfl
    exact harrived hlength
  obtain ⟨v, hv, hgeneration⟩ := (hmem lane).mp hlane
  cases h.sound.fate lane _ v hv with
  | refused _ hclosed _ => exact absurd (hopen.symm.trans hclosed) (by decide)
  | givenUp _ hclosed _ _ => exact absurd (hopen.symm.trans hclosed) (by decide)
  | released _ hresult _ =>
      exact absurd (List.getElem?_eq_some_iff.mp hresult).1 (Nat.lt_irrefl _)
  | waiting _ _ _ hanswer =>
      obtain ⟨earlier, hvisits⟩ := h.sound.eq_concat_of_waiting hv hanswer
      refine ⟨lane, h.sound.lane_lt hv, Bool.eq_false_iff.mpr fun hleft => ?_, earlier, v, hvisits,
        hgeneration, hanswer.trans (congrArg _ h.sound.generation_eq.symm)⟩
      obtain ⟨r, hr⟩ := (h.gone lane hleft).2 v (List.mem_of_getElem? hv)
      rw [hanswer] at hr
      cases hr

theorem Sound.arrived_lt {β : Type} [Gate β] [MeetingGate β] {s : Group β} (h : s.Sound n)
    (hn : 1 ≤ n) : (meeting s.gate).arrived < n := by
  obtain ⟨order, -, -, hlength, -, hlt⟩ := h.present
  omega

theorem OnPlan.givesUp_arrived (h : s.OnPlan n plan) (hlane : lane < n) (hfree : s.Free lane)
    {c : Option Contribution} {a : Arrival} {gate : ThreadBarrier}
    (harrive : Gate.arrive s.gate c = (.ok a, gate)) (hnone : s.gate.stranded = none)
    {pending : Nat} (hstranded : gate.stranded = some pending) :
    GivesUp n plan s (s.arrived lane c a gate) pending := by
  have hdeparted := Nat.le_of_lt (h.sound.departed_lt hlane hfree)
  rcases hclosed : s.gate.poisoned with _ | _
  · obtain ⟨hverdict, hfinished⟩ := ThreadBarrier.arrive_verdict hclosed hdeparted c
    rw [harrive] at hverdict hfinished
    cases hverdict with
    | stays _ hsame _ =>
        rw [hsame, hnone] at hstranded
        cases hstranded
    | givesUp hclosed' hgiven hgone _ =>
        have hcount : gate.finished = (s.arrived lane c a gate).finishedCount n plan :=
          hfinished.trans (h.finished_eq hclosed)
        have hresults : (s.arrived lane c a gate).results = s.results := by
          refine results_arrived_of_eq ?_
          by_cases hlast : (meeting s.gate).arrived + 1 = (meeting s.gate).size
          · obtain ⟨b, hb, -, hopen, -⟩ := arrive_last (b := s.gate) hclosed c hlast
            obtain ⟨-, rfl⟩ := Prod.mk.inj (harrive.symm.trans hb)
            exact absurd (hclosed'.symm.trans hopen) (by decide)
          · obtain ⟨b, r, hb, hmeeting, -, -⟩ := arrive_more (b := s.gate) hclosed c hlast hdeparted
            obtain ⟨-, rfl⟩ := Prod.mk.inj (harrive.symm.trans hb)
            rw [hmeeting]
            exact Rendezvous.generation_arrive_of_more hlast c
        have hsize : s.gate.meeting.size = n :=
          h.sound.size_eq.trans (Nat.max_eq_left (Nat.one_le_of_lt hlane))
        rw [hgiven, Option.some.injEq, hsize, hcount] at hstranded
        refine ⟨exists_of_finishedCount (hcount ▸ hgone), ⟨lane, hlane, hfree.1, _, _,
          by rw [visits_arrived, Function.update_self], ?_, .inr rfl⟩,
          (h.sound.arrived hlane hfree harrive).arrived_lt (Nat.one_le_of_lt hlane),
          hstranded.symm, ?_⟩
        · rw [hresults]
          exact if_neg (Bool.eq_false_iff.mp hclosed)
        · have hlt : (s.arrived lane c a gate).finishedCount n plan < n :=
            finishedCount_lt hlane hfree.1
          omega
  · have hgate := arrive_closed (b := s.gate) hclosed c
    rw [harrive] at hgate
    obtain ⟨-, rfl⟩ := Prod.mk.inj hgate
    rw [hnone] at hstranded
    cases hstranded

theorem OnPlan.givesUp_gone (h : s.OnPlan n plan) (hlane : lane < n) (hfree : s.Free lane)
    (hnone : s.gate.stranded = none) {pending : Nat}
    (hstranded : (s.gone lane (plan lane).fails).gate.stranded = some pending) :
    GivesUp n plan s (s.gone lane (plan lane).fails) pending := by
  have hgate (failed : Bool) : (s.gone lane failed).gate = (Gate.leave s.gate failed).2 := rfl
  rcases hclosed : s.gate.poisoned with _ | _
  · rcases hfails : (plan lane).fails with _ | _
    · rw [hfails] at hstranded
      obtain ⟨hverdict, hfinished⟩ :=
        ThreadBarrier.leave_verdict hclosed (h.sound.departed_lt hlane hfree)
      rw [← hgate false] at hverdict hfinished
      cases hverdict with
      | stays _ hsame _ =>
          rw [hsame, hnone] at hstranded
          cases hstranded
      | givesUp _ hgiven _ hwaiting =>
          have hsize : s.gate.meeting.size = n :=
            h.sound.size_eq.trans (Nat.max_eq_left (Nat.one_le_of_lt hlane))
          have hmeeting : (s.gone lane false).gate.meeting = s.gate.meeting :=
            meeting_leave s.gate false
          rw [hgiven, Option.some.injEq, hsize, hfinished,
            h.finished_gone hclosed hlane hfree hfails] at hstranded
          rw [hmeeting] at hwaiting
          obtain ⟨peer, hpeer, hstays, earlier, v, hvisits, hgeneration, hanswer⟩ :=
            h.exists_waits hclosed hwaiting
          have hne : peer ≠ lane := by
            rintro rfl
            obtain ⟨r, hr⟩ := hfree.2 v (hvisits ▸ List.mem_concat_self)
            rw [hanswer] at hr
            cases hr
          have hstays' : (s.gone lane false).left peer = false :=
            (Function.update_of_ne hne _ _).trans hstays
          refine ⟨⟨lane, hlane, Function.update_self .., hfails⟩, ⟨peer, hpeer, hstays', earlier, v,
            hvisits, hgeneration, .inl ?_⟩, ?_, hstranded.symm, ?_⟩
          · rw [hmeeting]
            exact hanswer
          · rw [hmeeting]
            exact h.sound.arrived_lt (Nat.one_le_of_lt hlane)
          · have hlt : (s.gone lane false).finishedCount n plan < n :=
              finishedCount_lt hpeer hstays'
            omega
    · rw [hfails] at hstranded
      exact absurd (hnone.symm.trans hstranded) nofun
  · rw [hgate, (ThreadBarrier.leave_closed hclosed _).2, hnone] at hstranded
    cases hstranded

theorem Advance.givesUp (hstep : Advance n plan s s') (h : s.OnPlan n plan)
    (hnone : s.gate.stranded = none) {pending : Nat} (hstranded : s'.gate.stranded = some pending) :
    GivesUp n plan s s' pending := by
  cases hstep with
  | arrive hlane hfree _ harrive => exact h.givesUp_arrived hlane hfree harrive hnone hstranded
  | wake => exact absurd (hnone.symm.trans hstranded) nofun
  | leave hlane hfree => exact h.givesUp_gone hlane hfree hnone hstranded

theorem OnPlan.stranded_of_counted (h : s.OnPlan n plan)
    (hgood : ∀ lane < n, s.left lane = true → (plan lane).fails = false) {gone : Nat}
    (hgone : gone < n) (hleft : s.left gone = true) (hcounted : s.Counted lane s.results.length) :
    s.gate.stranded ≠ none := by
  rcases hclosed : s.gate.poisoned with _ | _
  · have hnone := (h.accounts.finished_eq hclosed).symm.trans
      ((h.accounts.apart hclosed).resolve_right (h.sound.arrived_ne_zero hcounted))
    exact absurd hleft (List.countP_eq_zero.mp hnone gone (List.mem_range.mpr hgone))
  · rcases h.closed_iff.mp hclosed with hgiven | ⟨lane, hlane, hleft, hfails⟩
    · exact hgiven
    · exact absurd ((hgood lane hlane hleft).symm.trans hfails) (by decide)

theorem Advance.stranded_eq (hstep : Advance n plan s s') (h : s.OnPlan n plan) {pending : Nat}
    (hstranded : s.gate.stranded = some pending) : s'.gate.stranded = some pending := by
  have hclosed : s.gate.poisoned = true := h.accounts.closed (by rw [hstranded]; nofun)
  cases hstep with
  | @arrive lane c a gate hlane hfree _ harrive =>
      have hgate := arrive_closed (b := s.gate) hclosed c
      rw [harrive] at hgate
      obtain ⟨-, rfl⟩ := Prod.mk.inj hgate
      exact hstranded
  | wake => exact hstranded
  | leave => exact (ThreadBarrier.leave_closed hclosed _).2.trans hstranded

/-! ### Lanes that come equally often -/

/-- No lane fails, and all come equally often. -/
def Even (n : Nat) (plan : Nat → Itinerary) : Prop :=
  ∀ lane < n, (plan lane).fails = false ∧ (plan lane).stops.length = (plan 0).stops.length

theorem Advance.left_or_free (hstep : Advance n plan s s') (hleft : s'.left lane = true) :
    s.left lane = true ∨ s.Free lane ∧ (s.visits lane).length = (plan lane).stops.length := by
  cases hstep with
  | arrive => exact .inl hleft
  | wake => exact .inl hleft
  | @leave mover hlane hfree hdone =>
      have hupdate : (s.gone mover (plan mover).fails).left = Function.update s.left mover true := rfl
      by_cases heq : lane = mover
      · exact .inr ⟨heq ▸ hfree, heq ▸ hdone⟩
      · rw [hupdate, Function.update_of_ne heq] at hleft
        exact .inl hleft

theorem Advance.even (hstep : Advance n plan s s') (h : s.OnPlan n plan) (heven : Even n plan)
    (hopen : s.gate.poisoned = false) : s'.gate.poisoned = false := by
  have h' := hstep.onPlan h
  refine Bool.eq_false_iff.mpr fun hclosed => ?_
  rcases h'.closed_iff.mp hclosed with hgiven | ⟨lane, hlane, -, hfails⟩
  · obtain ⟨pending, hpending⟩ := Option.ne_none_iff_exists'.mp hgiven
    -- One lane has come as often as any lane will, and another one comes once more.
    obtain ⟨⟨gone, hgone, hleft, -⟩, ⟨lane, hlane, -, earlier, v, hvisits, hgeneration, -⟩, -⟩ :=
      hstep.givesUp h (h.accounts.stranded_eq hopen) hpending
    have hle := h.visits_le hopen (hstep.left_or_free hleft)
    have hgrow := hstep.step.keeps.2.length_le
    have hv : (s'.visits lane)[earlier.length]? = some v := by
      rw [hvisits, List.getElem?_concat_length]
    have hlast := ((h'.sound.fate lane _ v hv).generation_le hgeneration).1
    have hlength := h'.length_le lane hlane
    rw [hvisits, List.length_append, List.length_singleton, (heven lane hlane).2] at hlength
    rw [(heven gone hgone).2] at hle
    omega
  · exact absurd ((heven lane hlane).1.symm.trans hfails) (by decide)

theorem Course.even (h : Course n plan k s) (heven : Even n plan) : s.gate.poisoned = false := by
  induction h with
  | start => rfl
  | next h hstep ih => exact hstep.even h.onPlan heven ih

/-! ### How many steps there are -/

/-- How far a lane has come: every visit takes it one step, or two if it has to wait. -/
def pace (s : Group ThreadBarrier) (lane : Nat) : Nat :=
  (s.visits lane).length + (s.visits lane).countP (fun v => v.answer.isReleased) +
    (s.left lane).toNat

theorem OnPlan.pace_le (h : s.OnPlan n plan) (hlane : lane < n) :
    s.pace lane ≤ 2 * (plan lane).stops.length + 1 := by
  have hlength := h.length_le lane hlane
  have hcount := List.countP_le_length (p := fun v : Visit => v.answer.isReleased)
    (l := s.visits lane)
  have hleft := (s.left lane).toNat_le
  rw [pace]
  omega

theorem pace_arrived {c : Option Contribution} {a : Arrival} {gate : ThreadBarrier} :
    s.pace lane < (s.arrived lane c a gate).pace lane ∧
      ∀ peer ≠ lane, (s.arrived lane c a gate).pace peer = s.pace peer := by
  have hleft : (s.arrived lane c a gate).left = s.left := rfl
  refine ⟨?_, fun peer hpeer => ?_⟩
  · rw [pace, pace, hleft, visits_arrived, Function.update_self, List.length_append,
      List.countP_append, List.length_singleton]
    omega
  · rw [pace, pace, hleft, visits_arrived, Function.update_of_ne hpeer]

theorem pace_looked {earlier : List Visit} {v : Visit} {g : Word} {r : Option Word}
    (hvisits : s.visits lane = earlier ++ [v]) (hwaiting : v.answer = .waiting g) :
    s.pace lane < (s.looked lane earlier { v with answer := .released r }).pace lane ∧
      ∀ peer ≠ lane, (s.looked lane earlier { v with answer := .released r }).pace peer =
        s.pace peer := by
  have hupdate : (s.looked lane earlier { v with answer := .released r }).visits =
      Function.update s.visits lane (earlier ++ [{ v with answer := .released r }]) := rfl
  have hleft : (s.looked lane earlier { v with answer := .released r }).left = s.left := rfl
  refine ⟨?_, fun peer hpeer => ?_⟩
  · have hold : [v].countP (fun v => v.answer.isReleased) = 0 := by
      rw [List.countP_singleton, hwaiting]
      rfl
    have hnew : [{ v with answer := .released r }].countP (fun v => v.answer.isReleased) = 1 := rfl
    rw [pace, pace, hleft, hupdate, Function.update_self, hvisits, List.length_append,
      List.length_append, List.countP_append, List.countP_append, hold, hnew,
      List.length_singleton, List.length_singleton]
    omega
  · rw [pace, pace, hleft, hupdate, Function.update_of_ne hpeer]

theorem pace_gone {failed : Bool} (hstays : s.left lane = false) :
    s.pace lane < (s.gone lane failed).pace lane ∧
      ∀ peer ≠ lane, (s.gone lane failed).pace peer = s.pace peer := by
  have hupdate : (s.gone lane failed).left = Function.update s.left lane true := rfl
  have hvisits : (s.gone lane failed).visits = s.visits := rfl
  refine ⟨?_, fun peer hpeer => ?_⟩
  · rw [pace, pace, hvisits, hupdate, Function.update_self, hstays]
    exact Nat.lt_succ_self _
  · rw [pace, pace, hvisits, hupdate, Function.update_of_ne hpeer]

theorem Advance.pace_lt (hstep : Advance n plan s s') (h : s.OnPlan n plan) :
    ∃ lane < n, s.pace lane < s'.pace lane ∧ ∀ peer ≠ lane, s'.pace peer = s.pace peer := by
  cases hstep with
  | arrive hlane => exact ⟨_, hlane, pace_arrived⟩
  | @wake lane earlier v g r hvisits hwaiting =>
      have hv : (s.visits lane)[earlier.length]? = some v := by
        rw [hvisits, List.getElem?_concat_length]
      exact ⟨lane, h.sound.lane_lt hv, pace_looked hvisits hwaiting⟩
  | leave hlane hfree => exact ⟨_, hlane, pace_gone hfree.1⟩

theorem Course.le_pace (h : Course n plan k s) : k ≤ ∑ lane ∈ Finset.range n, s.pace lane := by
  induction h with
  | start => exact Nat.zero_le _
  | @next k s s' h hstep ih =>
      obtain ⟨lane, hlane, hlt, hsame⟩ := hstep.pace_lt h.onPlan
      refine Nat.lt_of_le_of_lt ih (Finset.sum_lt_sum (fun peer _ => ?_)
        ⟨lane, Finset.mem_range.mpr hlane, hlt⟩)
      by_cases heq : peer = lane
      · exact heq ▸ Nat.le_of_lt hlt
      · exact Nat.le_of_eq (hsame peer heq).symm

theorem Course.stranded_eq (h : Course n plan k s)
    (hlater : Relation.ReflTransGen (Advance n plan) s s') {pending : Nat}
    (hstranded : s.gate.stranded = some pending) : s'.gate.stranded = some pending := by
  have hplan : s'.OnPlan n plan ∧ s'.gate.stranded = some pending := by
    induction hlater with
    | refl => exact ⟨h.onPlan, hstranded⟩
    | tail _ hstep ih => exact ⟨hstep.onPlan ih.1, hstep.stranded_eq ih.1 ih.2⟩
  exact hplan.2

end Group

/-- Lanes that come to one barrier and go are never stuck, and come to an end. The barrier gives up
its lanes exactly when one has gone without failing and another one waits for it, unless a lane has
failed; then it records how many have not gone, once and for all. Lanes that come equally often and
do not fail all get a result for every visit, however late they look for it. -/
theorem strands_exactly {n k : Nat} {plan : Nat → Itinerary} {s : Group ThreadBarrier}
    (h : Group.Course n plan k s) :
    k ≤ ∑ lane ∈ Finset.range n, (2 * (plan lane).stops.length + 1) ∧
    ((∃ lane < n, s.left lane = false) → ∃ s', Group.Advance n plan s s') ∧
    (∀ s', Group.Advance n plan s s' → s.gate.stranded = none →
      ∀ pending, s'.gate.stranded = some pending → Group.GivesUp n plan s s' pending) ∧
    (∀ s', Relation.ReflTransGen (Group.Advance n plan) s s' →
      ∀ pending, s.gate.stranded = some pending → s'.gate.stranded = some pending) ∧
    ((∀ lane < n, s.left lane = true → (plan lane).fails = false) →
      (∃ lane < n, s.left lane = true) → (∃ lane, s.Counted lane s.results.length) →
        s.gate.stranded ≠ none) ∧
    (Group.Even n plan → s.gate.poisoned = false ∧ s.gate.stranded = none ∧
      (∀ lane, ∀ v ∈ s.visits lane, v.answer ≠ .released none) ∧
      ((∀ s', ¬Group.Advance n plan s s') → ∀ lane < n, s.left lane = true ∧
        (s.visits lane).length = (plan lane).stops.length ∧
        ∀ v ∈ s.visits lane, ∃ w, v.answer = .released (some w))) := by
  have hplan := h.onPlan
  refine ⟨?_, ?_, ?_, ?_, ?_, ?_⟩
  · refine h.le_pace.trans (Finset.sum_le_sum fun lane hlane => ?_)
    exact hplan.pace_le (Finset.mem_range.mp hlane)
  · rintro ⟨lane, hlane, hstays⟩
    exact hplan.progress hlane hstays
  · exact fun s' hstep hnone pending hstranded => hstep.givesUp hplan hnone hstranded
  · exact fun s' hlater pending hstranded => h.stranded_eq hlater hstranded
  · rintro hgood ⟨gone, hgone, hleft⟩ ⟨lane, hcounted⟩
    exact hplan.stranded_of_counted hgood hgone hleft hcounted
  · intro heven
    have hopen := h.even heven
    have hanswer : ∀ lane, ∀ v ∈ s.visits lane, v.answer ≠ .released none := by
      intro lane v hv hnone
      exact absurd (hopen.symm.trans (hplan.sound.closed hv hnone)) (by decide)
    refine ⟨hopen, hplan.accounts.stranded_eq hopen, hanswer, fun hrest lane hlane => ?_⟩
    have hleft : s.left lane = true := by
      by_contra hstays
      obtain ⟨s', hstep⟩ := hplan.progress hlane (Bool.eq_false_iff.mpr hstays)
      exact hrest s' hstep
    obtain ⟨hdone, hreleased⟩ := hplan.gone lane hleft
    refine ⟨hleft, hdone, fun v hv => ?_⟩
    obtain ⟨r, hr⟩ := hreleased v hv
    obtain ⟨w, rfl⟩ := Option.ne_none_iff_exists'.mp fun hnone => hanswer lane v hv (hnone ▸ hr)
    exact ⟨w, hr⟩

/-- Two lanes that come once each, with 2 and with 3. -/
def onceEach (lane : Nat) : Itinerary :=
  ⟨[some ⟨.sum, if lane = 0 then 2 else 3⟩], false⟩

/-- The lane that came last has gone before the first one has noticed that it came. -/
def oneAsleep : Group ThreadBarrier :=
  (twoArrivals (.make 2) (threadsAfter 1 0 2 0) (threadsAfter 0 1 0 5)).gone 1 false

theorem course_oneAsleep : Group.Course 2 onceEach 3 oneAsleep := by
  have hboth : Group.Course 2 onceEach 2
      (twoArrivals (.make 2) (threadsAfter 1 0 2 0) (threadsAfter 0 1 0 5)) := by
    refine .next (.next .start (.arrive (by decide) ⟨rfl, ?_⟩ rfl rfl))
      (.arrive (by decide) ⟨rfl, ?_⟩ rfl rfl)
    · exact fun v hv => absurd hv List.not_mem_nil
    · exact fun v hv => absurd hv List.not_mem_nil
  refine .next hboth (.leave (by decide) ⟨rfl, fun v hv => ⟨some 5, ?_⟩⟩ rfl rfl)
  exact congrArg Visit.answer (List.mem_singleton.mp hv)

/-- The lane that is still asleep can go on, and will not be given up. -/
theorem strands_exactly_oneAsleep :
    Group.Course 2 onceEach 3 oneAsleep ∧ Group.Even 2 onceEach ∧
      oneAsleep.gate.poisoned = false ∧ ∃ s', Group.Advance 2 onceEach oneAsleep s' := by
  obtain ⟨-, hprogress, -, -, -, heven⟩ := strands_exactly course_oneAsleep
  have hregular : Group.Even 2 onceEach := fun _ _ => ⟨rfl, rfl⟩
  exact ⟨course_oneAsleep, hregular, (heven hregular).1, hprogress ⟨0, by decide, rfl⟩⟩

end LaneGrid
