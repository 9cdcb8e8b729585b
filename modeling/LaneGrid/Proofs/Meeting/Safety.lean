import LaneGrid.Proofs.Meeting.Run

namespace LaneGrid

open MeetingGate

namespace Group

variable {β : Type} [Gate β] [MeetingGate β] {n lane : Nat} {s s' : Group β}

theorem Step.keeps (hstep : Step n s s') : s.Keeps s' ∧ s.results <+: s'.results := by
  cases hstep with
  | arrive hlane hfree harrive =>
      refine ⟨keeps_arrived, ?_⟩
      rw [arrived]
      split
      · exact List.prefix_rfl
      · exact List.prefix_append _ _
  | @look lane earlier v g hvisits hwaiting =>
      refine ⟨?_, List.prefix_rfl⟩
      intro peer j u hu
      rw [getElem?_visits_looked hvisits]
      split
      · rename_i hself
        rw [hself.1, hself.2, hvisits, List.getElem?_concat_length] at hu
        obtain rfl := Option.some.inj hu
        exact ⟨_, rfl, rfl, rfl⟩
      · exact ⟨u, hu, rfl, rfl⟩
  | leave => exact ⟨keeps_of_visits_eq rfl, List.prefix_rfl⟩
  | close => exact ⟨keeps_of_visits_eq rfl, List.prefix_rfl⟩

/-- The states that `n` lanes can bring about from here on. -/
def Later (n : Nat) (s s' : Group β) : Prop :=
  Relation.ReflTransGen (Step n) s s'

theorem Later.results_grow (h : Later n s s') : s.results <+: s'.results := by
  induction h with
  | refl => exact List.prefix_rfl
  | tail _ hstep ih => exact ih.trans hstep.keeps.2

/-- A lane takes a word along from its visit, now or as soon as it looks again. -/
def Receives (s : Group β) (v : Visit) (w : Word) : Prop :=
  v.answer = .released (some w) ∨
    ∃ g, v.answer = .waiting g ∧ Gate.look s.gate g = .released (some w)

/-- What the lanes that were counted in a generation have brought. -/
def Brought (n : Nat) (s : Group β) (g : Nat) (brings : Nat → Option Contribution → Prop) : Prop :=
  ∀ lane < n, ∃ v ∈ s.visits lane, v.generation = some g ∧ brings lane v.contribution

/-- What lanes can rely on when they meet. -/
structure Meets (n : Nat) (s : Group β) : Prop where
  /-- A result tells that every lane has come in that generation, and only once. -/
  full : ∀ (lane : Nat) (v : Visit) (w : Word), v ∈ s.visits lane →
    v.answer = .released (some w) → ∃ g, v.generation = some g ∧ ∀ peer < n,
      ∃! j : Nat, ∃ u : Visit, (s.visits peer)[j]? = some u ∧ u.generation = some g
  /-- There is one result for all lanes of a generation, however late they look. -/
  agree : ∀ g, s.Brought n g (fun _ _ => True) → ∃ w,
    (∀ s', Later n s s' → ∀ lane < n, ∀ v ∈ s'.visits lane, v.generation = some g →
      s'.Receives v w) ∧
    (∀ (r : Reduction) (values : Nat → Word),
      s.Brought n g (fun lane c => c = some ⟨r, values lane⟩) →
        w = r.fold ((List.range n).map values)) ∧
    ∀ (p : Poll) (yes : Nat → Bool),
      s.Brought n g (fun lane c => c = some (p.contribution (yes lane))) →
        w = p.outcome (List.range n) yes
  /-- Only a closed gate sends a lane on without a result. -/
  closed : ∀ (lane : Nat) (v : Visit), v ∈ s.visits lane → v.answer = .released none →
    isClosed s.gate = true
  arrives : ∀ lane < n, s.Free lane → ∀ c, ∃ a gate, Gate.arrive s.gate c = (.ok a, gate)
  leaves : ∀ lane < n, s.Free lane → ∀ failed, (Gate.leave s.gate failed).1 = .ok ()

theorem Sound.counted_of_mem (h : s.Sound n) {v : Visit} {g : Nat} (hv : v ∈ s.visits lane)
    (hg : v.generation = some g) : (s.visits lane)[g]? = some v := by
  obtain ⟨j, hj⟩ := List.getElem?_of_mem hv
  obtain rfl := ((h.fate lane j v hj).generation_le hg).1
  exact hj

theorem Sound.existsUnique (h : s.Sound n) {g : Nat} (hcounted : s.Counted lane g) :
    ∃! j : Nat, ∃ u : Visit, (s.visits lane)[j]? = some u ∧ u.generation = some g := by
  refine ⟨g, hcounted, ?_⟩
  rintro j ⟨u, hu, hg⟩
  exact ((h.fate lane j u hu).generation_le hg).1.symm

theorem Sound.full (h : s.Sound n) {v : Visit} {w : Word} (hv : v ∈ s.visits lane)
    (hanswer : v.answer = .released (some w)) : ∃ g, v.generation = some g ∧ ∀ peer < n,
      ∃! j : Nat, ∃ u : Visit, (s.visits peer)[j]? = some u ∧ u.generation = some g := by
  obtain ⟨j, hj⟩ := List.getElem?_of_mem hv
  cases h.fate lane j v hj with
  | refused _ _ hother => rw [hanswer] at hother; cases hother
  | givenUp _ _ _ hother => rw [hanswer] at hother; cases hother
  | waiting _ _ _ hother => rw [hanswer] at hother; cases hother
  | released hgeneration hresult _ =>
      refine ⟨j, hgeneration, fun peer hpeer => ?_⟩
      obtain ⟨order, hperm, hcounted, -⟩ :=
        h.complete j (List.getElem?_eq_some_iff.mp hresult).1
      exact h.existsUnique (hcounted peer (hperm.mem_iff.mpr (List.mem_range.mpr hpeer)))

theorem Sound.closed (h : s.Sound n) {v : Visit} (hv : v ∈ s.visits lane)
    (hanswer : v.answer = .released none) : isClosed s.gate = true := by
  obtain ⟨j, hj⟩ := List.getElem?_of_mem hv
  cases h.fate lane j v hj with
  | refused _ hclosed _ => exact hclosed
  | givenUp _ hclosed _ _ => exact hclosed
  | released _ _ hother => rw [hanswer] at hother; cases hother
  | waiting _ _ _ hother => rw [hanswer] at hother; cases hother

theorem Sound.lt_of_all (h : s.Sound n) (hn : 1 ≤ n) {g : Nat}
    (hall : ∀ lane < n, s.Counted lane g) : g < s.results.length := by
  obtain ⟨order, -, hmem, -, -, hlt⟩ := h.present
  refine Nat.lt_of_le_of_ne (h.counted_le (hall 0 hn)) ?_
  rintro rfl
  have hsubset : List.range n ⊆ order := by
    intro lane hlane
    exact (hmem lane).mpr (hall lane (List.mem_range.mp hlane))
  have hle := (List.subperm_of_subset List.nodup_range hsubset).length_le
  rw [List.length_range] at hle
  omega

theorem Sound.receives (h : s.Sound n) {v : Visit} {g : Nat} {w : Word}
    (hv : v ∈ s.visits lane) (hg : v.generation = some g) (hw : s.results[g]? = some w) :
    s.Receives v w := by
  have hget := h.counted_of_mem hv hg
  have hlt := (List.getElem?_eq_some_iff.mp hw).1
  cases h.fate lane g v hget with
  | refused hnone _ _ => rw [hg] at hnone; cases hnone
  | givenUp _ _ hopen _ => omega
  | released _ hresult hanswer =>
      rw [hw] at hresult
      exact .inl ((Option.some.inj hresult).symm ▸ hanswer)
  | waiting _ _ hlast hanswer => exact .inr ⟨_, hanswer, h.look_of_complete hw hlast⟩

theorem Sound.fold_of_brought (h : s.Sound n) (hn : 1 ≤ n) {g : Nat} {w : Word}
    (hw : s.results[g]? = some w) {r : Reduction} {values : Nat → Word}
    (hbrought : s.Brought n g (fun lane c => c = some ⟨r, values lane⟩)) :
    w = r.fold ((List.range n).map values) := by
  obtain ⟨order, hperm, -, hcollect⟩ := h.complete g (List.getElem?_eq_some_iff.mp hw).1
  have hmap : order.map (s.contribution g) =
      (order.map values).map fun v => some ⟨r, v⟩ := by
    rw [List.map_map]
    refine List.map_congr_left fun lane hlane => ?_
    obtain ⟨v, hv, hg, hc⟩ := hbrought lane (List.mem_range.mp (hperm.mem_iff.mp hlane))
    rw [contribution, h.counted_of_mem hv hg]
    exact hc
  have hne : order.map values ≠ [] := by
    intro hnil
    have hlength := hperm.length_eq
    rw [List.map_eq_nil_iff.mp hnil, List.length_range] at hlength
    exact absurd hn (by rw [← hlength]; exact Nat.not_succ_le_zero 0)
  rw [hw, hmap, r.collect_eq_fold hne] at hcollect
  rw [Option.some.inj hcollect]
  -- The lanes were counted in the order in which they came.
  exact r.fold_perm (hperm.map values)

theorem Sound.outcome_of_brought (h : s.Sound n) (hn : 1 ≤ n) {g : Nat} {w : Word}
    (hw : s.results[g]? = some w) {p : Poll} {yes : Nat → Bool}
    (hbrought : s.Brought n g (fun lane c => c = some (p.contribution (yes lane)))) :
    w = p.outcome (List.range n) yes := by
  have hreduction (answer : Bool) : p.contribution answer =
      ⟨(p.contribution true).reduction, (p.contribution answer).value⟩ := by
    cases p <;> rfl
  have hne : List.range n ≠ [] := by
    rw [ne_eq, List.range_eq_nil]
    omega
  rw [← p.fold_contributions hne]
  refine h.fold_of_brought hn hw ?_
  intro lane hlane
  obtain ⟨v, hv, hg, hc⟩ := hbrought lane hlane
  exact ⟨v, hv, hg, hc.trans (congrArg some (hreduction _))⟩

theorem Sound.arrives (h : s.Sound n) (hlane : lane < n) (hfree : s.Free lane)
    (c : Option Contribution) : ∃ a gate, Gate.arrive s.gate c = (.ok a, gate) := by
  rcases hclosed : isClosed s.gate with _ | _
  · by_cases hlast : (meeting s.gate).arrived + 1 = (meeting s.gate).size
    · obtain ⟨gate, harrive, -⟩ := arrive_last hclosed c hlast
      exact ⟨_, gate, harrive⟩
    · obtain ⟨gate, a, harrive, -⟩ :=
        arrive_more hclosed c hlast (Nat.le_of_lt (h.departed_lt hlane hfree))
      exact ⟨a, gate, harrive⟩
  · exact ⟨_, _, arrive_closed hclosed c⟩

theorem Reachable.meets {gate : β} (h : Reachable n gate s) (hn : 1 ≤ n)
    (hmeeting : meeting gate = .make n) (hdeparted : departed gate = 0) : s.Meets n := by
  have hsound := h.sound hmeeting hdeparted
  constructor
  case full => exact fun lane v w hv hanswer => hsound.full hv hanswer
  case closed => exact fun lane v hv hanswer => hsound.closed hv hanswer
  case arrives => exact fun lane hlane hfree c => hsound.arrives hlane hfree c
  case leaves =>
    exact fun lane hlane hfree failed => leave_ok (hsound.departed_lt hlane hfree) failed
  case agree =>
    intro g hall
    have hlt : g < s.results.length := by
      refine hsound.lt_of_all hn fun lane hlane => ?_
      obtain ⟨v, hv, hg, -⟩ := hall lane hlane
      exact ⟨v, hsound.counted_of_mem hv hg, hg⟩
    have hw : s.results[g]? = some s.results[g] := List.getElem?_eq_getElem hlt
    refine ⟨s.results[g], ?_, ?_, ?_⟩
    · intro s' hlater lane _ v hv hg
      have hsound' : s'.Sound n := Reachable.sound (h.trans hlater) hmeeting hdeparted
      exact hsound'.receives hv hg (List.prefix_iff_getElem?.mp hlater.results_grow g hlt)
    · exact fun r values hbrought => hsound.fold_of_brought hn hw hbrought
    · exact fun p yes hbrought => hsound.outcome_of_brought hn hw hbrought

end Group

/-- Lanes that meet at either barrier wait for each other, and go on with what all of them have
brought. -/
theorem meets_of_reachable {n : Nat} (hn : 1 ≤ n) {s : Group ThreadBarrier}
    (hs : Group.Reachable n (.make n) s) {t : Group FiberBarrier}
    (ht : Group.Reachable n (.make n) t) :
    (s.Meets n ∧ ∀ (lane : Nat) (v : Visit), v ∈ s.visits lane →
      v.answer = .released none → s.gate.poisoned = true) ∧
    (t.Meets n ∧ ∀ (lane : Nat) (v : Visit), v ∈ t.visits lane →
      v.answer ≠ .released none ∧ ∀ (g w : Word), v.answer = .waiting g → t.Receives v w →
        (FiberPass.waiting g).poll t.gate = (.ok (some w), t.gate)) := by
  have hthreads : s.Meets n := hs.meets hn rfl rfl
  have hfibers : t.Meets n := ht.meets hn rfl rfl
  refine ⟨⟨hthreads, hthreads.closed⟩, hfibers, fun lane v hv => ⟨?_, ?_⟩⟩
  · intro hanswer
    exact Bool.false_ne_true (hfibers.closed lane v hv hanswer)
  · rintro g w hwaiting (hreleased | ⟨word, hword, hlook⟩)
    · rw [hwaiting] at hreleased
      cases hreleased
    · rw [hwaiting] at hword
      obtain rfl := Arrival.waiting.inj hword
      have hpolled : t.gate.look g = .released (some w) := hlook
      rw [FiberPass.poll_waiting, hpolled]
      rfl

/-- Two lanes have brought 2 and 3, and the first has not noticed yet that the other came. -/
def twoArrivals {β : Type} [Gate β] [MeetingGate β] (gate first last : β) : Group β :=
  ((Group.make gate).arrived 0 (some ⟨.sum, 2⟩) (.waiting 0) first).arrived 1
    (some ⟨.sum, 3⟩) (.released (some 5)) last

theorem reachable_twoArrivals {β : Type} [Gate β] [MeetingGate β] {gate first last : β}
    (hfirst : Gate.arrive gate (some ⟨.sum, 2⟩) = (.ok (.waiting 0), first))
    (hlast : Gate.arrive first (some ⟨.sum, 3⟩) = (.ok (.released (some 5)), last)) :
    Group.Reachable 2 gate (twoArrivals gate first last) := by
  refine .tail (.single (.arrive (by decide) ⟨rfl, ?_⟩ hfirst))
    (.arrive (by decide) ⟨rfl, ?_⟩ hlast)
  · exact fun v hv => absurd hv List.not_mem_nil
  · exact fun v hv => absurd hv List.not_mem_nil

def threadsAfter (arrived : Nat) (generation gathered result : Word) : ThreadBarrier :=
  ⟨⟨2, arrived, generation, gathered, result⟩, false, 0, none⟩

def fibersAfter (arrived : Nat) (generation gathered result : Word) (arrivals : Nat) :
    FiberBarrier :=
  ⟨⟨2, arrived, generation, gathered, result⟩, arrivals⟩

theorem meets_twoArrivals :
    (twoArrivals (.make 2) (threadsAfter 1 0 2 0) (threadsAfter 0 1 0 5)).Meets 2 ∧
      (twoArrivals (.make 2) (fibersAfter 1 0 2 0 1) (fibersAfter 0 1 0 5 2)).Meets 2 ∧
      (FiberPass.waiting 0).poll (fibersAfter 0 1 0 5 2) =
        (.ok (some 5), fibersAfter 0 1 0 5 2) := by
  have hthreads : Group.Reachable 2 (.make 2)
      (twoArrivals (.make 2) (threadsAfter 1 0 2 0) (threadsAfter 0 1 0 5)) :=
    reachable_twoArrivals rfl rfl
  have hfibers : Group.Reachable 2 (.make 2)
      (twoArrivals (.make 2) (fibersAfter 1 0 2 0 1) (fibersAfter 0 1 0 5 2)) :=
    reachable_twoArrivals rfl rfl
  obtain ⟨⟨hmeet, -⟩, hmeet', hpoll⟩ := meets_of_reachable (by decide) hthreads hfibers
  refine ⟨hmeet, hmeet', (hpoll 0 ⟨some ⟨.sum, 2⟩, some 0, .waiting 0⟩ ?_).2 0 5 rfl ?_⟩
  · exact List.mem_singleton.mpr rfl
  · exact .inr ⟨0, rfl, rfl⟩

end LaneGrid
