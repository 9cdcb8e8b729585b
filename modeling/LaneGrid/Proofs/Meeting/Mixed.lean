import LaneGrid.Proofs.Meeting.Safety

/-!
Meetings to which some lanes bring a value and others come without one. What is gathered depends on
the order only through the first lane: the fold starts from zero if that lane brings nothing.
-/

namespace LaneGrid

namespace Rendezvous

theorem collect_concat_of_ne_nil {cs : List (Option Contribution)} (h : cs ≠ [])
    (c : Option Contribution) : collect (cs ++ [c]) =
      match c with
      | none => collect cs
      | some c => c.reduction.combine (collect cs) c.value := by
  rw [collect, List.zipIdx_append, List.foldl_append, ← collect]
  cases c with
  | none => rfl
  | some c => simp [h]

end Rendezvous

namespace Reduction

/-- What a group gathers whose lanes come in a given order, some with a value. -/
def mixed (r : Reduction) (brings : Nat → Option Word) (first : Option Nat) (lanes : List Nat) :
    Word :=
  if r = bitAnd ∧ first.bind brings = none then 0 else r.fold (lanes.filterMap brings)

variable (r : Reduction) (brings : Nat → Option Word)

theorem mixed_perm (first : Option Nat) {lanes lanes' : List Nat} (h : lanes.Perm lanes') :
    r.mixed brings first lanes = r.mixed brings first lanes' := by
  rw [mixed, mixed, r.fold_perm (h.filterMap brings)]

theorem mixed_concat_none (first : Option Nat) (lanes : List Nat) {lane : Nat}
    (h : brings lane = none) :
    r.mixed brings first (lanes ++ [lane]) = r.mixed brings first lanes := by
  have hlanes : (lanes ++ [lane]).filterMap brings = lanes.filterMap brings := by
    rw [List.filterMap_append, List.filterMap_cons_none h, List.filterMap_nil, List.append_nil]
  rw [mixed, mixed, hlanes]

theorem mixed_concat_some (first : Option Nat) (lanes : List Nat) {lane : Nat} {v : Word}
    (h : brings lane = some v) :
    r.mixed brings first (lanes ++ [lane]) = r.combine (r.mixed brings first lanes) v := by
  have hlanes : (lanes ++ [lane]).filterMap brings = lanes.filterMap brings ++ [v] := by
    rw [List.filterMap_append, List.filterMap_cons_some h, List.filterMap_nil]
  rw [mixed, mixed, hlanes, fold_concat]
  split
  · rename_i hzero
    rw [hzero.1]
    exact BitVec.zero_and.symm
  · rfl

theorem collect_eq_mixed (lanes : List Nat) :
    Rendezvous.collect (lanes.map fun lane => (brings lane).map (Contribution.mk r)) =
      r.mixed brings lanes.head? lanes := by
  induction lanes using List.reverseRecOn with
  | nil => cases r <;> rfl
  | append_singleton lanes lane ih =>
      by_cases hlanes : lanes = []
      · subst hlanes
        rcases hlane : brings lane with _ | v
        · simp only [List.nil_append, List.map_singleton, hlane, Option.map_none, mixed,
            List.head?_cons, Option.bind_some, List.filterMap_cons_none hlane, List.filterMap_nil]
          cases r <;> rfl
        · simp only [List.nil_append, List.map_singleton, hlane, Option.map_some, mixed,
            List.head?_cons, Option.bind_some, List.filterMap_cons_some hlane, List.filterMap_nil]
          exact (if_neg (by simp)).symm
      · have hne : lanes.map (fun lane => (brings lane).map (Contribution.mk r)) ≠ [] := by
          simpa using hlanes
        rw [List.map_append, List.map_singleton, Rendezvous.collect_concat_of_ne_nil hne, ih,
          List.head?_append_of_ne_nil _ hlanes]
        rcases hlane : brings lane with _ | v
        · exact (r.mixed_concat_none brings _ _ hlane).symm
        · exact (r.mixed_concat_some brings _ _ hlane).symm

end Reduction

open MeetingGate

namespace Group

variable {β : Type} [Gate β] [MeetingGate β] {n lane : Nat} {s t t' : Group β} {order : List Nat}

/-- Steps that lead from one state to another, and the lanes that an open gate has counted on the
way, in the order in which they came. -/
inductive Way (n : Nat) (s : Group β) : List Nat → Group β → Prop
  | start : Way n s [] s
  | count {order : List Nat} {t : Group β} {lane : Nat} {c : Option Contribution} {a : Arrival}
      {gate : β} (h : Way n s order t) (hopen : isClosed t.gate = false) (hlane : lane < n)
      (hfree : t.Free lane) (harrive : Gate.arrive t.gate c = (.ok a, gate)) :
      Way n s (order ++ [lane]) (t.arrived lane c a gate)
  | other {order : List Nat} {t t' : Group β} (h : Way n s order t) (hstep : Step n t t')
      (hmeeting : meeting t'.gate = meeting t.gate) : Way n s order t'

theorem Way.later (h : Way n s order t) : Later n s t := by
  induction h with
  | start => exact .refl
  | count _ _ hlane hfree harrive ih => exact ih.tail (.arrive hlane hfree harrive)
  | other _ hstep _ ih => exact ih.tail hstep

theorem Later.exists_way (h : Later n s t) : ∃ order, Way n s order t := by
  induction h with
  | refl => exact ⟨[], .start⟩
  | @tail t t' _ hstep ih =>
      obtain ⟨order, hway⟩ := ih
      cases hstep with
      | @arrive lane c a gate hlane hfree harrive =>
          rcases hclosed : isClosed t.gate with _ | _
          · exact ⟨_, hway.count hclosed hlane hfree harrive⟩
          · have hgate : gate = t.gate :=
              (Prod.mk.inj (harrive.symm.trans (arrive_closed hclosed c))).2
            exact ⟨order, hway.other (.arrive hlane hfree harrive) (congrArg meeting hgate)⟩
      | look hvisits hwaiting => exact ⟨order, hway.other (.look hvisits hwaiting) rfl⟩
      | leave hlane hfree failed =>
          exact ⟨order, hway.other (.leave hlane hfree failed) (meeting_leave _ failed)⟩
      | close => exact ⟨order, hway.other .close (meeting_leave _ true)⟩

theorem Step.results_eq (hstep : Step n t t') (hmeeting : meeting t'.gate = meeting t.gate) :
    t'.results = t.results := by
  cases hstep with
  | arrive => exact results_arrived_of_eq (congrArg Rendezvous.generation hmeeting)
  | look => rfl
  | leave => rfl
  | close => rfl

theorem Sound.meeting_arrived (h : t.Sound n) (hopen : isClosed t.gate = false) (hlane : lane < n)
    (hfree : t.Free lane) {c : Option Contribution} {a : Arrival} {gate : β}
    (harrive : Gate.arrive t.gate c = (.ok a, gate)) :
    meeting gate = (meeting t.gate).arrive c := by
  by_cases hlast : (meeting t.gate).arrived + 1 = (meeting t.gate).size
  · obtain ⟨b, hb, hmeeting, -⟩ := arrive_last hopen c hlast
    obtain ⟨-, rfl⟩ := Prod.mk.inj (harrive.symm.trans hb)
    exact hmeeting
  · obtain ⟨b, a', hb, hmeeting, -⟩ :=
      arrive_more hopen c hlast (Nat.le_of_lt (h.departed_lt hlane hfree))
    obtain ⟨-, rfl⟩ := Prod.mk.inj (harrive.symm.trans hb)
    exact hmeeting

/-- What the lanes have brought that were counted since the generation began, in their order. -/
def carried (s t : Group β) (order : List Nat) : List (Option Contribution) :=
  order.map (t.contribution s.results.length)

/-- A way on which no more lanes were counted than one generation has. -/
structure Counting (n : Nat) (s : Group β) (order : List Nat) (t : Group β) : Prop where
  sound : t.Sound n
  nodup : order.Nodup
  counted : ∀ lane ∈ order, t.Counted lane s.results.length
  underway : order.length < max n 1 → t.results = s.results ∧
    (meeting t.gate).arrived = order.length ∧
    (meeting t.gate).gathered = Rendezvous.collect (carried s t order)
  complete : order.length = max n 1 →
    t.results = s.results ++ [Rendezvous.collect (carried s t order)]

theorem counting_start (h : s.Sound n) (hstart : (meeting s.gate).arrived = 0) :
    Counting n s [] s where
  sound := h
  nodup := List.nodup_nil
  counted := by simp
  underway _ := by
    obtain ⟨order, -, -, harrived, hgathered, -⟩ := h.present
    obtain rfl := List.eq_nil_of_length_eq_zero (harrived.symm.trans hstart)
    exact ⟨rfl, hstart, hgathered⟩
  complete hfull := by
    have hpos : 1 ≤ max n 1 := Nat.le_max_right n 1
    rw [List.length_nil] at hfull
    omega

theorem Counting.carried_eq (h : Counting n s order t) (hkeeps : t.Keeps t') :
    carried s t' order = carried s t order :=
  List.map_congr_left fun lane hlane => hkeeps.contribution_eq (h.counted lane hlane)

theorem Counting.other (h : Counting n s order t) (hstep : Step n t t')
    (hmeeting : meeting t'.gate = meeting t.gate) : Counting n s order t' := by
  have hkeeps := hstep.keeps.1
  have hresults := hstep.results_eq hmeeting
  constructor
  case sound => exact hstep.sound h.sound
  case nodup => exact h.nodup
  case counted => exact fun lane hlane => hkeeps.counted (h.counted lane hlane)
  case underway =>
    rw [hresults, hmeeting, h.carried_eq hkeeps]
    exact h.underway
  case complete =>
    rw [hresults, h.carried_eq hkeeps]
    exact h.complete

theorem Counting.count (h : Counting n s order t) (hroom : order.length < max n 1)
    (hopen : isClosed t.gate = false) (hlane : lane < n) (hfree : t.Free lane)
    {c : Option Contribution} {a : Arrival} {gate : β}
    (harrive : Gate.arrive t.gate c = (.ok a, gate)) :
    Counting n s (order ++ [lane]) (t.arrived lane c a gate) := by
  obtain ⟨hresults, harrived, hgathered⟩ := h.underway hroom
  have hmeeting := h.sound.meeting_arrived hopen hlane hfree harrive
  have hkeeps : t.Keeps (t.arrived lane c a gate) := keeps_arrived
  have hself : (t.arrived lane c a gate).Counted lane s.results.length := by
    rw [← hresults]
    exact (h.sound.counted_arrived hlane hfree hopen).mpr (.inr rfl)
  have hcarried : carried s (t.arrived lane c a gate) (order ++ [lane]) =
      carried s t order ++ [c] := by
    have hlast := h.sound.contribution_arrived (c := c) (a := a) (b := gate) hlane hfree hopen
    rw [hresults] at hlast
    rw [carried, List.map_append, List.map_singleton, hlast]
    exact congrArg (· ++ [c]) (h.carried_eq hkeeps)
  have hgather : (meeting t.gate).gather c = Rendezvous.collect (carried s t order ++ [c]) :=
    Rendezvous.collect_concat (by rw [harrived, carried, List.length_map]) hgathered c
  constructor
  case sound => exact h.sound.arrived hlane hfree harrive
  case nodup =>
    -- A lane that was counted already would have visited the gate once more often.
    have hnotMem : lane ∉ order := by
      intro hin
      obtain ⟨v, hv, -⟩ := h.counted lane hin
      have hlt := (List.getElem?_eq_some_iff.mp hv).1
      rw [h.sound.length_visits hlane hfree hopen, hresults] at hlt
      exact Nat.lt_irrefl _ hlt
    rw [List.nodup_append_comm]
    exact List.nodup_cons.mpr ⟨hnotMem, h.nodup⟩
  case counted =>
    intro peer hpeer
    rcases List.mem_append.mp hpeer with hpeer | hpeer
    · exact hkeeps.counted (h.counted peer hpeer)
    · rw [List.mem_singleton.mp hpeer]
      exact hself
  case underway =>
    intro hmore
    rw [List.length_append, List.length_singleton] at hmore
    have hne : (meeting t.gate).arrived + 1 ≠ (meeting t.gate).size := by
      rw [harrived, h.sound.size_eq]
      omega
    rw [Rendezvous.arrive_of_more hne] at hmeeting
    refine ⟨?_, ?_, ?_⟩
    · rw [results_arrived_of_eq (by rw [hmeeting]), hresults]
    · rw [arrived, hmeeting, harrived, List.length_append]
      rfl
    · rw [hcarried, ← hgather, arrived, hmeeting]
  case complete =>
    intro hfull
    rw [List.length_append, List.length_singleton] at hfull
    have hlast : (meeting t.gate).arrived + 1 = (meeting t.gate).size := by
      rw [harrived, h.sound.size_eq, hfull]
    rw [Rendezvous.arrive_of_last hlast] at hmeeting
    have hnext : (meeting gate).generation ≠ (meeting t.gate).generation := by
      rw [hmeeting]
      exact Rendezvous.next_generation_ne _
    rw [results_arrived_of_ne hnext, hresults, hcarried, ← hgather, hmeeting]

theorem Way.counting (h : Way n s order t) (hs : s.Sound n)
    (hstart : (meeting s.gate).arrived = 0) (hle : order.length ≤ max n 1) :
    Counting n s order t := by
  induction h with
  | start => exact counting_start hs hstart
  | count _ hopen hlane hfree harrive ih =>
      rw [List.length_append, List.length_singleton] at hle
      exact (ih (Nat.le_of_succ_le hle)).count hle hopen hlane hfree harrive
  | other _ hstep hmeeting ih => exact (ih hle).other hstep hmeeting

theorem Counting.perm (h : Counting n s order t) (hlength : order.length = n) :
    order.Perm (List.range n) := by
  have hsubset : order ⊆ List.range n := by
    intro lane hlane
    obtain ⟨v, hv, -⟩ := h.counted lane hlane
    exact List.mem_range.mpr (h.sound.lane_lt hv)
  refine (List.subperm_of_subset h.nodup hsubset).perm_of_length_le ?_
  rw [hlength, List.length_range]

theorem Counting.carried_of_brought (h : Counting n s order t)
    {contribution : Nat → Option Contribution}
    (hbrought : t.Brought n s.results.length fun lane c => c = contribution lane) :
    carried s t order = order.map contribution := by
  refine List.map_congr_left fun lane hlane => ?_
  obtain ⟨u, hu, -⟩ := h.counted lane hlane
  obtain ⟨v, hv, hg, hc⟩ := hbrought lane (h.sound.lane_lt hu)
  rw [Group.contribution, h.sound.counted_of_mem hv hg]
  exact hc

/-- What lanes can rely on that meet from here on, some with a value for one reduction and others
without. -/
structure Mixes (n : Nat) (s : Group β) : Prop where
  /-- There is always an order in which the lanes have come. -/
  way : ∀ t, Later n s t → ∃ order, Way n s order t
  /-- All lanes get the values folded, in whichever order they have come, unless bits are to be
  common to all values and the first lane has none. -/
  fold : ∀ order t, Way n s order t → order.length = n →
    ∀ (r : Reduction) (brings : Nat → Option Word),
      t.Brought n s.results.length (fun lane c => c = (brings lane).map (Contribution.mk r)) →
      (r = .bitAnd → order.head?.bind brings ≠ none) →
        ∀ u, Later n t u → ∀ lane < n, ∀ v ∈ u.visits lane,
          v.generation = some s.results.length →
            u.Receives v (r.fold ((List.range n).filterMap brings))
  /-- In that case no bit is left. -/
  zero : ∀ order t, Way n s order t → order.length = n →
    ∀ brings : Nat → Option Word,
      t.Brought n s.results.length (fun lane c => c = (brings lane).map (Contribution.mk .bitAnd)) →
      order.head?.bind brings = none →
        ∀ u, Later n t u → ∀ lane < n, ∀ v ∈ u.visits lane,
          v.generation = some s.results.length → u.Receives v 0

theorem Way.receives_mixed (h : Way n s order t) (hs : s.Sound n) (hn : 1 ≤ n)
    (hstart : (meeting s.gate).arrived = 0) (hlength : order.length = n) {r : Reduction}
    {brings : Nat → Option Word}
    (hbrought : t.Brought n s.results.length fun lane c =>
      c = (brings lane).map (Contribution.mk r))
    {u : Group β} (hu : u.Sound n) (hlater : Later n t u) {v : Visit} (hv : v ∈ u.visits lane)
    (hg : v.generation = some s.results.length) :
    u.Receives v (r.mixed brings order.head? (List.range n)) := by
  have hsize : order.length = max n 1 := by rw [hlength, Nat.max_eq_left hn]
  have hcounting := h.counting hs hstart (Nat.le_of_eq hsize)
  have hresults := hcounting.complete hsize
  rw [hcounting.carried_of_brought hbrought, r.collect_eq_mixed,
    r.mixed_perm brings _ (hcounting.perm hlength)] at hresults
  have hword : t.results[s.results.length]? =
      some (r.mixed brings order.head? (List.range n)) := by
    rw [hresults, List.getElem?_concat_length]
  refine hu.receives hv hg ?_
  obtain ⟨hlt, hget⟩ := List.getElem?_eq_some_iff.mp hword
  rw [List.prefix_iff_getElem?.mp hlater.results_grow _ hlt, hget]

theorem Reachable.mixes {gate : β} (h : Reachable n gate s) (hn : 1 ≤ n)
    (hmeeting : meeting gate = .make n) (hdeparted : departed gate = 0)
    (hstart : (meeting s.gate).arrived = 0) : s.Mixes n := by
  have hs := h.sound hmeeting hdeparted
  have hsound {order : List Nat} {t u : Group β} (hway : Way n s order t) (hlater : Later n t u) :
      u.Sound n :=
    Reachable.sound ((h.trans hway.later).trans hlater) hmeeting hdeparted
  constructor
  case way => exact fun t hlater => hlater.exists_way
  case fold =>
    intro order t hway hlength r brings hbrought hfirst u hlater lane _ v hv hg
    have hreceives := hway.receives_mixed hs hn hstart hlength hbrought (hsound hway hlater)
      hlater hv hg
    rwa [Reduction.mixed, if_neg fun hand => hfirst hand.1 hand.2] at hreceives
  case zero =>
    intro order t hway hlength brings hbrought hfirst u hlater lane _ v hv hg
    have hreceives := hway.receives_mixed hs hn hstart hlength hbrought (hsound hway hlater)
      hlater hv hg
    rwa [Reduction.mixed, if_pos ⟨rfl, hfirst⟩] at hreceives

end Group

/-- Lanes that meet at either barrier, some with a value for one reduction and others without, get
the values folded in every order in which they come; only common bits are lost if the first lane
of the generation brings nothing. -/
theorem mixes_of_reachable {n : Nat} (hn : 1 ≤ n) {s : Group ThreadBarrier}
    (hs : Group.Reachable n (.make n) s) (hthreads : s.gate.meeting.arrived = 0)
    {t : Group FiberBarrier} (ht : Group.Reachable n (.make n) t)
    (hfibers : t.gate.meeting.arrived = 0) : s.Mixes n ∧ t.Mixes n :=
  ⟨hs.mixes hn rfl rfl hthreads, ht.mixes hn rfl rfl hfibers⟩

/-- One lane waits, and then its only peer comes. -/
def inTurn {β : Type} [Gate β] [MeetingGate β] (gate first last : β) (lane peer : Nat)
    (c d : Option Contribution) (w : Word) : Group β :=
  ((Group.make gate).arrived lane c (.waiting 0) first).arrived peer d (.released (some w)) last

section InTurn

variable {β : Type} [Gate β] [MeetingGate β] {gate first last : β} {lane peer : Nat}
  {c d : Option Contribution} {w : Word} (hne : peer ≠ lane) (hlane : lane < 2) (hpeer : peer < 2)
  (hopen : isClosed gate = false) (hopen' : isClosed first = false)

include hne hlane hpeer hopen hopen'

theorem way_inTurn (hfirst : Gate.arrive gate c = (.ok (.waiting 0), first))
    (hlast : Gate.arrive first d = (.ok (.released (some w)), last)) :
    Group.Way 2 (Group.make gate) [lane, peer] (inTurn gate first last lane peer c d w) := by
  refine .count (.count .start hopen hlane ⟨rfl, ?_⟩ hfirst) hopen' hpeer ⟨rfl, ?_⟩ hlast
  · exact fun v hv => absurd hv List.not_mem_nil
  · intro v hv
    rw [Group.visits_arrived, Function.update_of_ne hne] at hv
    exact absurd hv List.not_mem_nil

theorem brought_inTurn (hsame : (meeting first).generation = (meeting gate).generation)
    {contribution : Nat → Option Contribution} (hc : c = contribution lane)
    (hd : d = contribution peer) :
    (inTurn gate first last lane peer c d w).Brought 2 0 fun l e => e = contribution l := by
  have hresults : ((Group.make gate).arrived lane c (.waiting 0) first).results = [] :=
    Group.results_arrived_of_eq hsame
  intro l hl
  by_cases hpeer : l = peer
  · refine ⟨⟨d, some 0, .released (some w)⟩, ?_, rfl, by rw [hpeer]; exact hd⟩
    rw [inTurn, Group.visits_arrived, hpeer, Function.update_self, hresults]
    refine List.mem_append_right _ (List.mem_singleton.mpr ?_)
    rw [show ((Group.make gate).arrived lane c (.waiting 0) first).gate = first from rfl, hopen']
    rfl
  · have hfirst : l = lane := by omega
    refine ⟨⟨c, some 0, .waiting 0⟩, ?_, rfl, by rw [hfirst]; exact hc⟩
    rw [inTurn, Group.visits_arrived, Function.update_of_ne hpeer, Group.visits_arrived, hfirst,
      Function.update_self]
    refine List.mem_append_right _ (List.mem_singleton.mpr ?_)
    rw [show (Group.make gate).gate = gate from rfl, hopen]
    rfl

end InTurn

/-- The second of two lanes brings the number one. -/
def one (lane : Nat) : Option Word :=
  if lane = 1 then some 1 else none

/-- Threads that start without a value keep no common bit; fibers that start with one do. -/
theorem mixes_inTurn :
    Group.Receives (inTurn (.make 2) (threadsAfter 1 0 0 0) (threadsAfter 0 1 0 0) 0 1 none
        (some ⟨.bitAnd, 1⟩) 0) ⟨some ⟨.bitAnd, 1⟩, some 0, .released (some 0)⟩ 0 ∧
      Group.Receives (inTurn (.make 2) (fibersAfter 1 0 1 0 1) (fibersAfter 0 1 0 1 2) 1 0
        (some ⟨.bitAnd, 1⟩) none 1) ⟨some ⟨.bitAnd, 1⟩, some 0, .waiting 0⟩ 1 := by
  obtain ⟨hthreads, hfibers⟩ := mixes_of_reachable (n := 2) (s := .make (.make 2))
    (t := .make (.make 2)) (by decide) .refl rfl .refl rfl
  constructor
  · have hway : Group.Way 2 (.make (.make 2)) [0, 1] (inTurn (.make 2) (threadsAfter 1 0 0 0)
        (threadsAfter 0 1 0 0) 0 1 none (some ⟨.bitAnd, 1⟩) 0) :=
      way_inTurn (by decide) (by decide) (by decide) rfl rfl rfl rfl
    exact hthreads.zero _ _ hway rfl one
      (brought_inTurn (by decide) (by decide) (by decide) rfl rfl rfl rfl rfl) rfl _ .refl 1
      (by decide) _ (List.mem_singleton.mpr rfl) rfl
  · have hway : Group.Way 2 (.make (.make 2)) [1, 0] (inTurn (.make 2) (fibersAfter 1 0 1 0 1)
        (fibersAfter 0 1 0 1 2) 1 0 (some ⟨.bitAnd, 1⟩) none 1) :=
      way_inTurn (by decide) (by decide) (by decide) rfl rfl rfl rfl
    exact hfibers.fold _ _ hway rfl .bitAnd one
      (brought_inTurn (by decide) (by decide) (by decide) rfl rfl rfl rfl rfl) (fun _ => nofun) _
      .refl 1 (by decide) _ (List.mem_singleton.mpr rfl) rfl

/-- The first of two fibers brings nothing, the second the number one, and they get zero. -/
theorem not_forall_result_eq_fold :
    ¬ ∀ (n : Nat) (r : Reduction) (brings : Nat → Option Word) (s : Group FiberBarrier), 1 ≤ n →
      Group.Reachable n (.make n) s → ∀ (g : Nat) (w : Word),
        s.Brought n g (fun lane c => c = (brings lane).map (Contribution.mk r)) →
          s.results[g]? = some w → w = r.fold ((List.range n).filterMap brings) := by
  intro h
  have hway : Group.Way 2 (.make (.make 2)) [0, 1] (inTurn (.make 2) (fibersAfter 1 0 0 0 1)
      (fibersAfter 0 1 0 0 2) 0 1 none (some ⟨.bitAnd, 1⟩) 0) :=
    way_inTurn (by decide) (by decide) (by decide) rfl rfl rfl rfl
  have hword : (0 : Word) = 1 := h 2 .bitAnd one _ (by decide) hway.later 0 0
    (brought_inTurn (by decide) (by decide) (by decide) rfl rfl rfl rfl rfl) rfl
  exact absurd hword (by decide)

end LaneGrid
