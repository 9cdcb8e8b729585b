import LaneGrid.Proofs.Meeting.Group

namespace LaneGrid

open MeetingGate

namespace Group

variable {β : Type} [Gate β] [MeetingGate β] {n lane : Nat} {s s' : Group β}

theorem Fate.generation_le {j g : Nat} {v : Visit} (h : s.Fate j v)
    (hg : v.generation = some g) : g = j ∧ j ≤ s.results.length := by
  cases h with
  | refused hgeneration _ _ =>
      rw [hgeneration] at hg
      cases hg
  | released hgeneration hresult _ =>
      rw [hgeneration] at hg
      exact ⟨(Option.some.inj hg).symm, Nat.le_of_lt (List.getElem?_eq_some_iff.mp hresult).1⟩
  | givenUp hgeneration _ hopen _ =>
      rw [hgeneration] at hg
      exact ⟨(Option.some.inj hg).symm, Nat.le_of_eq hopen⟩
  | waiting hgeneration hle _ _ =>
      rw [hgeneration] at hg
      exact ⟨(Option.some.inj hg).symm, hle⟩

theorem Sound.counted_le (h : s.Sound n) {g : Nat} (hc : s.Counted lane g) :
    g ≤ s.results.length := by
  obtain ⟨v, hv, hg⟩ := hc
  exact ((h.fate lane g v hv).generation_le hg).2

theorem Sound.lane_lt (h : s.Sound n) {j : Nat} {v : Visit} (hv : (s.visits lane)[j]? = some v) :
    lane < n := by
  by_contra hge
  rw [h.idle lane (Nat.le_of_not_lt hge)] at hv
  cases hv

theorem Sound.le_length_visits (h : s.Sound n) (hlane : lane < n) :
    s.results.length ≤ (s.visits lane).length := by
  rcases hlength : s.results.length with _ | g
  · exact Nat.zero_le _
  · obtain ⟨order, hperm, hcounted, -⟩ := h.complete g (by omega)
    obtain ⟨v, hv, -⟩ := hcounted lane (hperm.mem_iff.mpr (List.mem_range.mpr hlane))
    exact (List.getElem?_eq_some_iff.mp hv).1

theorem Sound.length_le_of_released (h : s.Sound n) (hopen : isClosed s.gate = false)
    {earlier rest : List Visit} (hvisits : s.visits lane = earlier ++ rest)
    (hreleased : ∀ v ∈ earlier, ∃ r, v.answer = .released r) :
    earlier.length ≤ s.results.length := by
  by_contra hgt
  have hlt : s.results.length < earlier.length := Nat.lt_of_not_le hgt
  have hv : (s.visits lane)[s.results.length]? = some earlier[s.results.length] := by
    rw [hvisits, List.getElem?_append_left hlt, List.getElem?_eq_getElem hlt]
  obtain ⟨r, hr⟩ := hreleased _ (List.getElem_mem hlt)
  cases h.fate lane _ _ hv with
  | refused _ hclosed _ => rw [hopen] at hclosed; cases hclosed
  | givenUp _ hclosed _ _ => rw [hopen] at hclosed; cases hclosed
  | released _ hresult _ =>
      exact absurd (List.getElem?_eq_some_iff.mp hresult).1 (Nat.lt_irrefl _)
  | waiting _ _ _ hanswer =>
      rw [hanswer] at hr
      cases hr

theorem Sound.length_visits (h : s.Sound n) (hlane : lane < n) (hfree : s.Free lane)
    (hopen : isClosed s.gate = false) : (s.visits lane).length = s.results.length :=
  Nat.le_antisymm (h.length_le_of_released hopen (List.append_nil _).symm hfree.2)
    (h.le_length_visits hlane)

/-- Visits are kept, up to their answers. -/
def Keeps (s s' : Group β) : Prop :=
  ∀ (lane j : Nat) (v : Visit), (s.visits lane)[j]? = some v →
    ∃ v' : Visit, (s'.visits lane)[j]? = some v' ∧ v'.contribution = v.contribution ∧
      v'.generation = v.generation

omit [Gate β] [MeetingGate β] in
theorem Keeps.counted (h : s.Keeps s') {g : Nat} (hc : s.Counted lane g) : s'.Counted lane g := by
  obtain ⟨v, hv, hg⟩ := hc
  obtain ⟨v', hv', -, hgeneration⟩ := h lane g v hv
  exact ⟨v', hv', hgeneration.trans hg⟩

omit [Gate β] [MeetingGate β] in
theorem Keeps.contribution_eq (h : s.Keeps s') {g : Nat} (hc : s.Counted lane g) :
    s'.contribution g lane = s.contribution g lane := by
  obtain ⟨v, hv, -⟩ := hc
  obtain ⟨v', hv', hcontribution, -⟩ := h lane g v hv
  rw [contribution, contribution, hv, hv']
  exact hcontribution

theorem Sound.complete_of_keeps (h : s.Sound n) (hkeeps : s.Keeps s') {g : Nat}
    (hg : g < s.results.length) (hresult : s'.results[g]? = s.results[g]?) :
    ∃ order : List Nat, order.Perm (List.range n) ∧ (∀ lane ∈ order, s'.Counted lane g) ∧
      s'.results[g]? = some (Rendezvous.collect (order.map (s'.contribution g))) := by
  obtain ⟨order, hperm, hcounted, hcollect⟩ := h.complete g hg
  refine ⟨order, hperm, fun lane hlane => hkeeps.counted (hcounted lane hlane), ?_⟩
  have hmap : order.map (s'.contribution g) = order.map (s.contribution g) :=
    List.map_congr_left fun lane hlane => hkeeps.contribution_eq (hcounted lane hlane)
  rw [hresult, hcollect, hmap]

section Arrive

variable {c : Option Contribution} {a : Arrival} {b : β}

theorem visits_arrived (s : Group β) (lane : Nat) (c : Option Contribution) (a : Arrival)
    (b : β) : (s.arrived lane c a b).visits = Function.update s.visits lane
      (s.visits lane ++ [⟨c, if isClosed s.gate then none else some s.results.length, a⟩]) :=
  rfl

theorem getElem?_visits_arrived (s : Group β) (lane peer j : Nat) (c : Option Contribution)
    (a : Arrival) (b : β) :
    ((s.arrived lane c a b).visits peer)[j]? =
      if peer = lane ∧ j = (s.visits lane).length then
        some ⟨c, if isClosed s.gate then none else some s.results.length, a⟩
      else (s.visits peer)[j]? := by
  by_cases hpeer : peer = lane
  · subst hpeer
    rw [visits_arrived, Function.update_self]
    rcases Nat.lt_trichotomy j (s.visits peer).length with hlt | rfl | hgt
    · have hold : ¬(peer = peer ∧ j = (s.visits peer).length) := by omega
      rw [if_neg hold, List.getElem?_append_left hlt]
    · have hnew : peer = peer ∧ (s.visits peer).length = (s.visits peer).length := ⟨rfl, rfl⟩
      rw [if_pos hnew, List.getElem?_concat_length]
    · have hold : ¬(peer = peer ∧ j = (s.visits peer).length) := by omega
      rw [if_neg hold, List.getElem?_eq_none (Nat.le_of_lt hgt), List.getElem?_eq_none]
      rw [List.length_append, List.length_singleton]
      omega
  · rw [if_neg fun hand => hpeer hand.1, visits_arrived, Function.update_of_ne hpeer]

theorem keeps_arrived : s.Keeps (s.arrived lane c a b) := by
  intro peer j v hv
  refine ⟨v, ?_, rfl, rfl⟩
  have hlt := (List.getElem?_eq_some_iff.mp hv).1
  rw [getElem?_visits_arrived, if_neg, hv]
  rintro ⟨rfl, rfl⟩
  exact Nat.lt_irrefl _ hlt

theorem length_visits_arrived (s : Group β) (lane peer : Nat) (c : Option Contribution)
    (a : Arrival) (b : β) : ((s.arrived lane c a b).visits peer).length =
      (s.visits peer).length + if peer = lane then 1 else 0 := by
  by_cases hpeer : peer = lane
  · subst hpeer
    rw [visits_arrived, Function.update_self, List.length_append, if_pos rfl]
    rfl
  · rw [visits_arrived, Function.update_of_ne hpeer, if_neg hpeer, Nat.add_zero]

theorem Sound.idle_arrived (h : s.Sound n) (hlane : lane < n) :
    ∀ peer, n ≤ peer → (s.arrived lane c a b).visits peer = [] := by
  intro peer hpeer
  have hne : peer ≠ lane := by omega
  rw [visits_arrived, Function.update_of_ne hne]
  exact h.idle peer hpeer

theorem Sound.waits_arrived (h : s.Sound n) (hfree : s.Free lane) :
    ∀ (peer j : Nat) (v : Visit) (g : Word), ((s.arrived lane c a b).visits peer)[j]? = some v →
      v.answer = .waiting g → j + 1 = ((s.arrived lane c a b).visits peer).length := by
  intro peer j v g hv hwaiting
  rw [getElem?_visits_arrived] at hv
  rw [length_visits_arrived]
  split at hv
  · rename_i hnew
    rw [hnew.1, if_pos rfl, hnew.2]
  · have hold := h.waits peer j v g hv hwaiting
    by_cases hpeer : peer = lane
    · subst hpeer
      obtain ⟨r, hr⟩ := hfree.2 v (List.mem_of_getElem? hv)
      rw [hr] at hwaiting
      cases hwaiting
    · rw [if_neg hpeer, hold, Nat.add_zero]

theorem results_arrived_of_eq (h : (meeting b).generation = (meeting s.gate).generation) :
    (s.arrived lane c a b).results = s.results :=
  if_pos h

theorem results_arrived_of_ne (h : (meeting b).generation ≠ (meeting s.gate).generation) :
    (s.arrived lane c a b).results = s.results ++ [(meeting b).result] :=
  if_neg h

theorem counted_arrived_of_closed {peer g : Nat} (hclosed : isClosed s.gate = true) :
    (s.arrived lane c a b).Counted peer g ↔ s.Counted peer g := by
  constructor
  · rintro ⟨v, hv, hg⟩
    rw [getElem?_visits_arrived] at hv
    split at hv
    · obtain rfl := Option.some.inj hv
      cases hg
    · exact ⟨v, hv, hg⟩
  · exact keeps_arrived.counted

theorem Sound.counted_arrived (h : s.Sound n) (hlane : lane < n) (hfree : s.Free lane)
    (hopen : isClosed s.gate = false) {peer : Nat} :
    (s.arrived lane c a b).Counted peer s.results.length ↔
      s.Counted peer s.results.length ∨ peer = lane := by
  have hlength := h.length_visits hlane hfree hopen
  constructor
  · rintro ⟨v, hv, hg⟩
    rw [getElem?_visits_arrived] at hv
    split at hv
    · rename_i hnew
      exact .inr hnew.1
    · exact .inl ⟨v, hv, hg⟩
  · rintro (hcounted | rfl)
    · exact keeps_arrived.counted hcounted
    · refine ⟨⟨c, some s.results.length, a⟩, ?_, rfl⟩
      rw [getElem?_visits_arrived, if_pos ⟨rfl, hlength.symm⟩, hopen]
      rfl

theorem Sound.contribution_arrived (h : s.Sound n) (hlane : lane < n) (hfree : s.Free lane)
    (hopen : isClosed s.gate = false) :
    (s.arrived lane c a b).contribution s.results.length lane = c := by
  rw [contribution, getElem?_visits_arrived,
    if_pos ⟨rfl, (h.length_visits hlane hfree hopen).symm⟩]
  rfl

theorem Sound.order_arrived (h : s.Sound n) (hlane : lane < n) (hfree : s.Free lane)
    (hopen : isClosed s.gate = false) : ∃ order : List Nat, order.Nodup ∧
      (∀ peer, peer ∈ order ↔ (s.arrived lane c a b).Counted peer s.results.length) ∧
      order.length = (meeting s.gate).arrived + 1 ∧ order.length ≤ max n 1 ∧
      (meeting s.gate).gather c = Rendezvous.collect
        (order.map ((s.arrived lane c a b).contribution s.results.length)) := by
  obtain ⟨order, hnodup, hmem, harrived, hgathered, hlt⟩ := h.present
  have hnotMem : lane ∉ order := by
    intro hin
    obtain ⟨v, hv, -⟩ := (hmem lane).mp hin
    have hlast := (List.getElem?_eq_some_iff.mp hv).1
    rw [h.length_visits hlane hfree hopen] at hlast
    exact Nat.lt_irrefl _ hlast
  have hmap : order.map ((s.arrived lane c a b).contribution s.results.length) =
      order.map (s.contribution s.results.length) :=
    List.map_congr_left fun peer hpeer => keeps_arrived.contribution_eq ((hmem peer).mp hpeer)
  refine ⟨order ++ [lane], ?_, ?_, ?_, ?_, ?_⟩
  · rw [List.nodup_append_comm]
    exact List.nodup_cons.mpr ⟨hnotMem, hnodup⟩
  · intro peer
    rw [h.counted_arrived hlane hfree hopen, List.mem_append, hmem peer, List.mem_singleton]
  · rw [List.length_append, harrived]
    rfl
  · rw [List.length_append, List.length_singleton]
    exact hlt
  · rw [List.map_append, List.map_singleton, h.contribution_arrived hlane hfree hopen, hmap]
    refine Rendezvous.collect_concat ?_ hgathered c
    rw [harrived, List.length_map]

theorem Fate.of_results_eq {j : Nat} {v : Visit} (h : s.Fate j v)
    (hresults : s'.results = s.results)
    (hclosed : isClosed s.gate = true → isClosed s'.gate = true) : s'.Fate j v := by
  cases h with
  | refused hgeneration hold hanswer => exact .refused hgeneration (hclosed hold) hanswer
  | released hgeneration hresult hanswer =>
      exact .released hgeneration (hresults.symm ▸ hresult) hanswer
  | givenUp hgeneration hold hopen hanswer =>
      exact .givenUp hgeneration (hclosed hold) (hresults.symm ▸ hopen) hanswer
  | waiting hgeneration hle hlast hanswer =>
      exact .waiting hgeneration (hresults.symm ▸ hle) (hresults.symm ▸ hlast) hanswer

theorem Sound.arrived_of_closed (h : s.Sound n) (hlane : lane < n) (hfree : s.Free lane)
    (hclosed : isClosed s.gate = true) :
    (s.arrived lane c (.released none) s.gate).Sound n := by
  have hresults : (s.arrived lane c (.released none) s.gate).results = s.results :=
    results_arrived_of_eq rfl
  constructor
  case size_eq => exact h.size_eq
  case generation_eq => rw [hresults]; exact h.generation_eq
  case result_eq => rw [hresults]; exact h.result_eq
  case departed_le => exact h.departed_le
  case idle => exact h.idle_arrived hlane
  case waits => exact h.waits_arrived hfree
  case fate =>
    intro peer j v hv
    rw [getElem?_visits_arrived] at hv
    split at hv
    · obtain rfl := Option.some.inj hv
      exact .refused rfl hclosed rfl
    · exact (h.fate peer j v hv).of_results_eq hresults id
  case complete =>
    intro g hg
    rw [hresults] at hg
    exact h.complete_of_keeps keeps_arrived hg (by rw [hresults])
  case present =>
    obtain ⟨order, hnodup, hmem, harrived, hgathered, hlt⟩ := h.present
    refine ⟨order, hnodup, ?_, harrived, ?_, hlt⟩
    · intro peer
      rw [hresults, counted_arrived_of_closed hclosed, hmem peer]
    · rw [hresults]
      refine hgathered.trans (congrArg _ (List.map_congr_left fun peer hpeer => ?_))
      exact (keeps_arrived.contribution_eq ((hmem peer).mp hpeer)).symm

theorem Sound.arrived_of_more (h : s.Sound n) (hlane : lane < n) (hfree : s.Free lane)
    (hopen : isClosed s.gate = false)
    (hmore : (meeting s.gate).arrived + 1 ≠ (meeting s.gate).size)
    (hmeeting : meeting b = (meeting s.gate).arrive c)
    (hdeparted : departed b = departed s.gate)
    (ha : a = if isClosed b then .released none
      else .waiting (meeting s.gate).generation) :
    (s.arrived lane c a b).Sound n := by
  have hlength := h.length_visits hlane hfree hopen
  have hsame : meeting b = { meeting s.gate with
      arrived := (meeting s.gate).arrived + 1, gathered := (meeting s.gate).gather c } := by
    rw [hmeeting, Rendezvous.arrive_of_more hmore]
  have hresults : (s.arrived lane c a b).results = s.results :=
    results_arrived_of_eq (by rw [hsame])
  have hgate : (s.arrived lane c a b).gate = b := rfl
  constructor
  case size_eq => rw [hgate, hsame]; exact h.size_eq
  case generation_eq => rw [hgate, hsame, hresults]; exact h.generation_eq
  case result_eq => rw [hgate, hsame, hresults]; exact h.result_eq
  case departed_le => rw [hgate, hdeparted]; exact h.departed_le
  case idle => exact h.idle_arrived hlane
  case waits => exact h.waits_arrived hfree
  case fate =>
    intro peer j v hv
    rw [getElem?_visits_arrived] at hv
    split at hv
    · rename_i hnew
      obtain rfl := Option.some.inj hv
      obtain ⟨rfl, rfl⟩ := hnew
      have hgeneration : (if isClosed s.gate then none else some s.results.length) =
          some (s.visits peer).length := by
        rw [hopen, hlength]
        rfl
      by_cases hshut : isClosed b = true
      · rw [if_pos hshut] at ha
        exact .givenUp hgeneration hshut (by rw [hresults, hlength]) ha
      · rw [if_neg hshut, h.generation_eq, ← hlength] at ha
        exact .waiting hgeneration (by rw [hresults, hlength])
          (by rw [hresults, hlength]; exact Nat.le_succ _) ha
    · refine (h.fate peer j v hv).of_results_eq hresults fun hclosed => ?_
      rw [hopen] at hclosed
      cases hclosed
  case complete =>
    intro g hg
    rw [hresults] at hg
    exact h.complete_of_keeps keeps_arrived hg (by rw [hresults])
  case present =>
    obtain ⟨order, hnodup, hmem, hcount, hle, hgather⟩ :=
      h.order_arrived (c := c) (a := a) (b := b) hlane hfree hopen
    refine ⟨order, hnodup, ?_, ?_, ?_, ?_⟩
    · rw [hresults]
      exact hmem
    · rw [hgate, hsame, hcount]
    · rw [hgate, hsame, hresults]
      exact hgather
    · rw [← h.size_eq] at hle ⊢
      omega

theorem Sound.waiting_eq_of_all (h : s.Sound n) {j : Nat} {v : Visit}
    (hv : (s.visits lane)[j]? = some v) (hcounted : s.Counted lane s.results.length)
    {g : Word} (hanswer : v.answer = .waiting g) (hle : j ≤ s.results.length) :
    j = s.results.length := by
  have hlast := h.waits lane j v g hv hanswer
  obtain ⟨u, hu, -⟩ := hcounted
  have hlt := (List.getElem?_eq_some_iff.mp hu).1
  omega

theorem Sound.perm_arrived (h : s.Sound n) (hlane : lane < n) {order : List Nat} {g : Nat}
    (hnodup : order.Nodup)
    (hcounted : ∀ peer ∈ order, (s.arrived lane c a b).Counted peer g)
    (hlength : n ≤ order.length) : order.Perm (List.range n) := by
  have hsubset : order ⊆ List.range n := by
    intro peer hpeer
    obtain ⟨v, hv, -⟩ := hcounted peer hpeer
    rw [getElem?_visits_arrived] at hv
    rw [List.mem_range]
    split at hv
    · rename_i hself
      exact hself.1 ▸ hlane
    · exact h.lane_lt hv
  refine (List.subperm_of_subset hnodup hsubset).perm_of_length_le ?_
  rw [List.length_range]
  exact hlength

theorem Sound.fate_arrived (h : s.Sound n) (hlane : lane < n) (hfree : s.Free lane)
    (hopen : isClosed s.gate = false) {w : Word}
    (hresults : (s.arrived lane c (.released (some w)) b).results = s.results ++ [w])
    (hall : ∀ peer < n,
      (s.arrived lane c (.released (some w)) b).Counted peer s.results.length) :
    ∀ (peer j : Nat) (v : Visit),
      ((s.arrived lane c (.released (some w)) b).visits peer)[j]? = some v →
        (s.arrived lane c (.released (some w)) b).Fate j v := by
  intro peer j v hv
  have hlength := h.length_visits hlane hfree hopen
  rw [getElem?_visits_arrived] at hv
  split at hv
  · rename_i hself
    obtain rfl := Option.some.inj hv
    obtain ⟨rfl, rfl⟩ := hself
    refine .released (w := w) ?_ ?_ rfl
    · rw [hopen, hlength]
      rfl
    · rw [hresults, hlength, List.getElem?_concat_length]
  · cases h.fate peer j v hv with
    | refused _ hclosed _ => rw [hopen] at hclosed; cases hclosed
    | givenUp _ hclosed _ _ => rw [hopen] at hclosed; cases hclosed
    | released hgeneration hresult hanswer =>
        refine .released hgeneration ?_ hanswer
        rw [hresults, List.getElem?_append_left (List.getElem?_eq_some_iff.mp hresult).1, hresult]
    | waiting hgeneration hle _ hanswer =>
        have hpeer : peer ≠ lane := by
          rintro rfl
          obtain ⟨r, hr⟩ := hfree.2 v (List.mem_of_getElem? hv)
          rw [hanswer] at hr
          cases hr
        have hcounted : s.Counted peer s.results.length :=
          ((h.counted_arrived hlane hfree hopen).mp (hall peer (h.lane_lt hv))).resolve_right
            hpeer
        have hj := h.waiting_eq_of_all hv hcounted hanswer hle
        refine .waiting hgeneration ?_ ?_ hanswer
        · rw [hresults, List.length_append]
          omega
        · rw [hresults, List.length_append, List.length_singleton]
          omega

theorem Sound.arrived_of_last (h : s.Sound n) (hlane : lane < n) (hfree : s.Free lane)
    (hopen : isClosed s.gate = false)
    (hlast : (meeting s.gate).arrived + 1 = (meeting s.gate).size)
    (hmeeting : meeting b = (meeting s.gate).arrive c)
    (hdeparted : departed b = departed s.gate) :
    (s.arrived lane c (.released (some ((meeting s.gate).gather c))) b).Sound n := by
  have hnext : meeting b = ⟨(meeting s.gate).size, 0, (meeting s.gate).generation + 1, 0,
      (meeting s.gate).gather c⟩ := by
    rw [hmeeting, Rendezvous.arrive_of_last hlast]
  have hgate : (s.arrived lane c (.released (some ((meeting s.gate).gather c))) b).gate =
      b := rfl
  have hresults :
      (s.arrived lane c (.released (some ((meeting s.gate).gather c))) b).results =
        s.results ++ [(meeting s.gate).gather c] := by
    rw [results_arrived_of_ne]
    · rw [hnext]
    · rw [hnext]
      exact Rendezvous.next_generation_ne _
  obtain ⟨order, hnodup, hmem, hcount, -, hgather⟩ :=
    h.order_arrived (c := c) (a := .released (some ((meeting s.gate).gather c)))
      (b := b) hlane hfree hopen
  have hperm : order.Perm (List.range n) := by
    refine h.perm_arrived hlane hnodup (fun peer => (hmem peer).mp) ?_
    rw [hcount, hlast, h.size_eq]
    exact Nat.le_max_left n 1
  constructor
  case size_eq => rw [hgate, hnext]; exact h.size_eq
  case generation_eq =>
    rw [hgate, hnext, hresults, List.length_append, BitVec.ofNat_add, ← h.generation_eq]
    rfl
  case result_eq =>
    intro w hw
    rw [hresults, List.getLast?_concat] at hw
    rw [hgate, hnext]
    exact Option.some.inj hw
  case departed_le => rw [hgate, hdeparted]; exact h.departed_le
  case idle => exact h.idle_arrived hlane
  case waits => exact h.waits_arrived hfree
  case fate =>
    exact h.fate_arrived hlane hfree hopen hresults fun peer hpeer =>
      (hmem peer).mp (hperm.mem_iff.mpr (List.mem_range.mpr hpeer))
  case complete =>
    intro g hg
    rw [hresults, List.length_append] at hg
    rcases Nat.lt_succ_iff_lt_or_eq.mp hg with hlt | rfl
    · refine h.complete_of_keeps keeps_arrived hlt ?_
      rw [hresults, List.getElem?_append_left hlt]
    · refine ⟨order, hperm, fun peer => (hmem peer).mp, ?_⟩
      rw [hresults, List.getElem?_concat_length]
      exact congrArg some hgather
  case present =>
    -- Nobody has come to the next generation yet.
    refine ⟨[], List.nodup_nil, ?_, ?_, ?_, ?_⟩
    · intro peer
      refine ⟨fun hin => absurd hin List.not_mem_nil, ?_⟩
      rintro ⟨v, hv, hg⟩
      have hlength := h.length_visits hlane hfree hopen
      rw [hresults, List.length_append, List.length_singleton] at hv hg
      rw [getElem?_visits_arrived] at hv
      split at hv
      · omega
      · have hle := h.counted_le ⟨v, hv, hg⟩
        omega
    · rw [hgate, hnext]
      rfl
    · rw [hgate, hnext]
      rfl
    · exact Nat.lt_of_lt_of_le Nat.zero_lt_one (Nat.le_max_right n 1)

end Arrive

end Group

end LaneGrid
