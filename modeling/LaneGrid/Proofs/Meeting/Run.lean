import LaneGrid.Proofs.Meeting.Invariant

namespace LaneGrid

open MeetingGate

namespace Group

variable {β : Type} [Gate β] [MeetingGate β] {n lane : Nat} {s s' : Group β}

theorem Sound.of_keeps (h : s.Sound n) (hkeeps : s.Keeps s') (hback : s'.Keeps s)
    (hresults : s'.results = s.results) (hmeeting : meeting s'.gate = meeting s.gate)
    (hdeparted : departed s'.gate ≤ (List.range n).countP s'.left)
    (hfate : ∀ (lane j : Nat) (v : Visit), (s'.visits lane)[j]? = some v → s'.Fate j v)
    (hwaits : ∀ (lane j : Nat) (v : Visit) (g : Word), (s'.visits lane)[j]? = some v →
      v.answer = .waiting g → j + 1 = (s'.visits lane).length) : s'.Sound n := by
  constructor
  case size_eq => rw [hmeeting]; exact h.size_eq
  case generation_eq => rw [hmeeting, hresults]; exact h.generation_eq
  case result_eq => rw [hmeeting, hresults]; exact h.result_eq
  case departed_le => exact hdeparted
  case idle =>
    intro lane hge
    rcases hvisits : s'.visits lane with _ | ⟨v, rest⟩
    · rfl
    · have hv : (s'.visits lane)[0]? = some v := by rw [hvisits]; rfl
      obtain ⟨v', hv', -⟩ := hback lane 0 v hv
      rw [h.idle lane hge] at hv'
      cases hv'
  case fate => exact hfate
  case waits => exact hwaits
  case complete =>
    intro g hg
    rw [hresults] at hg
    exact h.complete_of_keeps hkeeps hg (by rw [hresults])
  case present =>
    obtain ⟨order, hnodup, hmem, harrived, hgathered, hlt⟩ := h.present
    rw [hresults, hmeeting]
    refine ⟨order, hnodup, ?_, harrived, ?_, hlt⟩
    · intro peer
      rw [hmem peer]
      exact ⟨hkeeps.counted, hback.counted⟩
    · refine hgathered.trans (congrArg _ (List.map_congr_left fun peer hpeer => ?_))
      exact (hkeeps.contribution_eq ((hmem peer).mp hpeer)).symm

section Look

variable {earlier : List Visit} {v : Visit} {g : Word}

omit [Gate β] [MeetingGate β] in
theorem getElem?_visits_looked (hvisits : s.visits lane = earlier ++ [v]) (a : Arrival)
    (peer j : Nat) : ((s.looked lane earlier { v with answer := a }).visits peer)[j]? =
      if peer = lane ∧ j = earlier.length then some { v with answer := a }
      else (s.visits peer)[j]? := by
  have hupdate : (s.looked lane earlier { v with answer := a }).visits =
      Function.update s.visits lane (earlier ++ [{ v with answer := a }]) := rfl
  rw [hupdate]
  by_cases hpeer : peer = lane
  · subst hpeer
    rw [Function.update_self, hvisits]
    by_cases hj : j = earlier.length
    · rw [if_pos ⟨rfl, hj⟩, hj, List.getElem?_concat_length]
    · rw [if_neg fun hand => hj hand.2]
      rcases Nat.lt_or_gt_of_ne hj with hlt | hgt
      · rw [List.getElem?_append_left hlt, List.getElem?_append_left hlt]
      · rw [List.getElem?_eq_none, List.getElem?_eq_none] <;>
          rw [List.length_append, List.length_singleton] <;> omega
  · rw [Function.update_of_ne hpeer, if_neg fun hand => hpeer hand.1]

omit [Gate β] [MeetingGate β] in
theorem length_visits_looked (hvisits : s.visits lane = earlier ++ [v]) (a : Arrival)
    (peer : Nat) : ((s.looked lane earlier { v with answer := a }).visits peer).length =
      (s.visits peer).length := by
  have hupdate : (s.looked lane earlier { v with answer := a }).visits =
      Function.update s.visits lane (earlier ++ [{ v with answer := a }]) := rfl
  rw [hupdate]
  by_cases hpeer : peer = lane
  · subst hpeer
    rw [Function.update_self, hvisits, List.length_append, List.length_append]
    rfl
  · rw [Function.update_of_ne hpeer]

theorem Sound.look_of_complete (h : s.Sound n) {j : Nat} {w : Word}
    (hw : s.results[j]? = some w) (hlast : s.results.length ≤ j + 1) :
    Gate.look s.gate (BitVec.ofNat 64 j) = .released (some w) := by
  have hlength : s.results.length = j + 1 :=
    Nat.le_antisymm hlast (List.getElem?_eq_some_iff.mp hw).1
  have hnext : (meeting s.gate).generation ≠ BitVec.ofNat 64 j := by
    rw [h.generation_eq, hlength, BitVec.ofNat_add]
    exact Rendezvous.next_generation_ne _
  have hget : s.results.getLast? = some w := by
    rw [List.getLast?_eq_getElem?, hlength]
    exact hw
  rw [look_eq, if_pos hnext, h.result_eq w hget]

theorem Sound.fate_look (h : s.Sound n) (hvisits : s.visits lane = earlier ++ [v])
    (hwaiting : v.answer = .waiting g) :
    s.Fate earlier.length { v with answer := Gate.look s.gate g } := by
  have hv : (s.visits lane)[earlier.length]? = some v := by
    rw [hvisits, List.getElem?_concat_length]
  cases h.fate lane _ v hv with
  | refused _ _ hanswer => rw [hwaiting] at hanswer; cases hanswer
  | released _ _ hanswer => rw [hwaiting] at hanswer; cases hanswer
  | givenUp _ _ _ hanswer => rw [hwaiting] at hanswer; cases hanswer
  | waiting hgeneration hle hlast hanswer =>
      obtain rfl : g = BitVec.ofNat 64 earlier.length := by
        rw [hwaiting] at hanswer
        exact Arrival.waiting.inj hanswer
      rcases Nat.eq_or_lt_of_le hle with hopen | hlt
      · have hsame : (meeting s.gate).generation = BitVec.ofNat 64 earlier.length := by
          rw [h.generation_eq, hopen]
        have hlook : Gate.look s.gate (BitVec.ofNat 64 earlier.length) =
            if isClosed s.gate then .released none
            else .waiting (BitVec.ofNat 64 earlier.length) := by
          rw [look_eq, hsame, if_neg fun hne => hne rfl]
        by_cases hclosed : isClosed s.gate = true
        · exact .givenUp hgeneration hclosed hopen (by rw [hlook, if_pos hclosed])
        · exact .waiting hgeneration hle hlast (by rw [hlook, if_neg hclosed])
      · have hresult : s.results[earlier.length]? = some s.results[earlier.length] :=
          List.getElem?_eq_getElem hlt
        exact .released hgeneration hresult (h.look_of_complete hresult hlast)

theorem Sound.looked (h : s.Sound n) (hvisits : s.visits lane = earlier ++ [v])
    (hwaiting : v.answer = .waiting g) :
    (s.looked lane earlier { v with answer := Gate.look s.gate g }).Sound n := by
  have hv : (s.visits lane)[earlier.length]? = some v := by
    rw [hvisits, List.getElem?_concat_length]
  refine h.of_keeps ?_ ?_ rfl rfl h.departed_le ?_ ?_
  · intro peer j u hu
    rw [getElem?_visits_looked hvisits]
    split
    · rename_i hself
      rw [hself.1, hself.2, hv] at hu
      obtain rfl := Option.some.inj hu
      exact ⟨_, rfl, rfl, rfl⟩
    · exact ⟨u, hu, rfl, rfl⟩
  · intro peer j u hu
    rw [getElem?_visits_looked hvisits] at hu
    split at hu
    · rename_i hself
      obtain rfl := Option.some.inj hu
      rw [hself.1, hself.2]
      exact ⟨v, hv, rfl, rfl⟩
    · exact ⟨u, hu, rfl, rfl⟩
  · intro peer j u hu
    rw [getElem?_visits_looked hvisits] at hu
    split at hu
    · rename_i hself
      obtain rfl := Option.some.inj hu
      rw [hself.2]
      exact (h.fate_look hvisits hwaiting).of_results_eq rfl id
    · exact (h.fate peer j u hu).of_results_eq rfl id
  · intro peer j u word hu hanswer
    rw [length_visits_looked hvisits]
    rw [getElem?_visits_looked hvisits] at hu
    split at hu
    · rename_i hself
      rw [hself.1, hself.2, hvisits, List.length_append]
      rfl
    · exact h.waits peer j u word hu hanswer

end Look

omit [Gate β] [MeetingGate β] in
theorem keeps_of_visits_eq (h : s'.visits = s.visits) : s.Keeps s' := by
  intro lane j v hv
  rw [h]
  exact ⟨v, hv, rfl, rfl⟩

theorem countP_update {left : Nat → Bool} {lanes : List Nat} (hnodup : lanes.Nodup)
    (hmem : lane ∈ lanes) (hstays : left lane = false) :
    lanes.countP (Function.update left lane true) = lanes.countP left + 1 := by
  induction lanes with
  | nil => cases hmem
  | cons peer lanes ih =>
      rw [List.countP_cons, List.countP_cons]
      obtain ⟨hnotMem, hrest⟩ := List.nodup_cons.mp hnodup
      rcases List.mem_cons.mp hmem with rfl | hin
      · have hsame : lanes.countP (Function.update left lane true) = lanes.countP left := by
          refine List.countP_congr fun other hother => ?_
          have hne : other ≠ lane := fun heq => hnotMem (heq ▸ hother)
          rw [Function.update_of_ne hne]
        rw [hsame, Function.update_self, hstays]
        rfl
      · have hne : peer ≠ lane := fun heq => hnotMem (heq ▸ hin)
        rw [ih hrest hin, Function.update_of_ne hne]
        omega

theorem Sound.gone (h : s.Sound n) (hlane : lane < n) (hfree : s.Free lane) (failed : Bool) :
    (s.gone lane failed).Sound n := by
  refine h.of_keeps (keeps_of_visits_eq rfl) (keeps_of_visits_eq rfl) rfl
    (meeting_leave s.gate failed) ?_ ?_ h.waits
  · have hcount : (List.range n).countP (s.gone lane failed).left =
        (List.range n).countP s.left + 1 :=
      countP_update List.nodup_range (List.mem_range.mpr hlane) hfree.1
    have hle : departed (s.gone lane failed).gate ≤ departed s.gate + if failed then 0 else 1 :=
      departed_leave s.gate failed
    have hold := h.departed_le
    rw [hcount]
    split at hle <;> omega
  · intro peer j v hv
    exact (h.fate peer j v hv).of_results_eq rfl fun hclosed => isClosed_leave hclosed failed

theorem Sound.shut (h : s.Sound n) : s.shut.Sound n := by
  refine h.of_keeps (keeps_of_visits_eq rfl) (keeps_of_visits_eq rfl) rfl
    (meeting_leave s.gate true) ?_ ?_ h.waits
  · have hle : departed s.shut.gate ≤ departed s.gate + 0 := departed_leave s.gate true
    exact hle.trans h.departed_le
  · intro peer j v hv
    exact (h.fate peer j v hv).of_results_eq rfl fun hclosed => isClosed_leave hclosed true

theorem Sound.departed_lt (h : s.Sound n) (hlane : lane < n) (hfree : s.Free lane) :
    departed s.gate < (meeting s.gate).size := by
  have hcount : (List.range n).countP (Function.update s.left lane true) =
      (List.range n).countP s.left + 1 :=
    countP_update List.nodup_range (List.mem_range.mpr hlane) hfree.1
  have hle : (List.range n).countP (Function.update s.left lane true) ≤ n := by
    simpa using List.countP_le_length (p := Function.update s.left lane true)
      (l := List.range n)
  have hold := h.departed_le
  rw [h.size_eq]
  omega

theorem Sound.departed_le_size (h : s.Sound n) : departed s.gate ≤ (meeting s.gate).size := by
  have hle : (List.range n).countP s.left ≤ n := by
    simpa using List.countP_le_length (p := s.left) (l := List.range n)
  have hold := h.departed_le
  rw [h.size_eq]
  omega

theorem Sound.exists_left (h : s.Sound n) (hgone : departed s.gate ≠ 0) :
    ∃ lane < n, s.left lane = true := by
  obtain ⟨lane, hlane, hleft⟩ := List.countP_pos_iff.mp
    (Nat.lt_of_lt_of_le (Nat.pos_of_ne_zero hgone) h.departed_le)
  exact ⟨lane, List.mem_range.mp hlane, hleft⟩

theorem Sound.arrived (h : s.Sound n) (hlane : lane < n) (hfree : s.Free lane)
    {c : Option Contribution} {a : Arrival} {gate : β}
    (harrive : Gate.arrive s.gate c = (.ok a, gate)) : (s.arrived lane c a gate).Sound n := by
  rcases hclosed : isClosed s.gate with _ | _
  · by_cases hlast : (meeting s.gate).arrived + 1 = (meeting s.gate).size
    · obtain ⟨b, hb, hmeeting, -, hdeparted⟩ := arrive_last hclosed c hlast
      obtain ⟨hanswer, rfl⟩ := Prod.mk.inj (harrive.symm.trans hb)
      obtain rfl := Except.ok.inj hanswer
      exact h.arrived_of_last hlane hfree hclosed hlast hmeeting hdeparted
    · obtain ⟨b, r, hb, hmeeting, hdeparted, hr⟩ :=
        arrive_more hclosed c hlast (Nat.le_of_lt (h.departed_lt hlane hfree))
      obtain ⟨hanswer, rfl⟩ := Prod.mk.inj (harrive.symm.trans hb)
      obtain rfl := Except.ok.inj hanswer
      exact h.arrived_of_more hlane hfree hclosed hlast hmeeting hdeparted hr
  · obtain ⟨hanswer, rfl⟩ := Prod.mk.inj (harrive.symm.trans (arrive_closed hclosed c))
    obtain rfl := Except.ok.inj hanswer
    exact h.arrived_of_closed hlane hfree hclosed

theorem Step.sound (h : s.Sound n) (hstep : Step n s s') : s'.Sound n := by
  cases hstep with
  | arrive hlane hfree harrive => exact h.arrived hlane hfree harrive
  | look hvisits hwaiting => exact h.looked hvisits hwaiting
  | leave hlane hfree failed => exact h.gone hlane hfree failed
  | close => exact h.shut

theorem Reachable.sound {gate : β} (h : Reachable n gate s) (hmeeting : meeting gate = .make n)
    (hdeparted : departed gate = 0) : s.Sound n := by
  induction h with
  | refl => exact sound_make hmeeting hdeparted
  | tail _ hstep ih => exact hstep.sound ih

end Group

end LaneGrid
