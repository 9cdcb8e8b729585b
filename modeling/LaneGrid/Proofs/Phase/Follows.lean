import LaneGrid.Proofs.Phase.Store

namespace LaneGrid

open Deed MeetingGate

namespace Scene

variable {β : Type} [Gate β] [MeetingGate β]

/-- Where a lane stands once it is awake. -/
def now? (s : Scene β) (i : Nat) : Option Stage :=
  (s.stage? i).map (·.awake (meeting s.barrier))

theorem now?_of_awaited {s : Scene β} {lane : Nat} {st : Stage} (hst : s.stage? lane = some st)
    (h : st.awaited = none) : s.now? lane = some st := by
  rw [now?, hst, Option.map_some, Stage.awake_of_awaited h]

theorem now?_put {s s' : Scene β} {lane : Nat} {st' : Stage}
    (hstage : s'.stage? = Function.update s.stage? lane (some st'))
    (hgeneration : (meeting s'.barrier).generation = (meeting s.barrier).generation)
    (hresult : (meeting s'.barrier).result = (meeting s.barrier).result) :
    s'.now? = Function.update s.now? lane (some (st'.awake (meeting s.barrier))) := by
  have hawake (st : Stage) : st.awake (meeting s'.barrier) = st.awake (meeting s.barrier) := by
    cases st with
    | waiting scope g r =>
        cases scope with
        | block => rw [Stage.awake, Stage.awake, hgeneration, hresult]
        | warp => rfl
    | _ => rfl
  funext i
  rw [now?, hstage]
  by_cases hi : i = lane
  · subst hi
    rw [Function.update_self, Function.update_self, Option.map_some, hawake]
  · rw [Function.update_of_ne hi, Function.update_of_ne hi, now?]
    exact congrArg (fun f => Option.map f (s.stage? i)) (funext hawake)

theorem stage?_of_now? {s : Scene β} {i : Nat} {g : Word} {r : Resumption}
    (h : s.now? i = some (.waiting .block g r)) : s.stage? i = some (.waiting .block g r) := by
  obtain ⟨st, hst, hawake⟩ := Option.map_eq_some_iff.mp h
  rw [hst]
  cases st with
  | waiting scope g' r' =>
      cases scope with
      | block =>
          rw [Stage.awake] at hawake
          split at hawake
          · cases r' <;> cases hawake
          · rw [hawake]
      | warp => cases hawake
  | _ => cases hawake

end Scene

/-- A closed barrier does not come in the way of a step: the barrier stays open, or nobody has to do
with it. -/
inductive Unhindered {β : Type} [Gate β] [MeetingGate β] (reserver : Reserver) (st : Stage)
    (s s' : Scene β) : Prop
  | isOpen (h : isClosed s.barrier = false) (h' : isClosed s'.barrier = false)
  | idle (h : ∀ i, ¬Waits s.now? i) (hpasses : st.passes reserver = none)

/-- The lanes of a block follow their score in phase `φ`. -/
structure Follows {β : Type} [Gate β] [MeetingGate β] (σ : Score) (reserver : Reserver)
    (own : Place → Prop) (φ : Nat) (solo : Nat → Solo) (log : Nat → List Deed) (s : Scene β) :
    Prop where
  /-- The last lane to arrive never waits. -/
  room : (meeting s.barrier).arrived < (meeting s.barrier).size
  ranks : Ranks σ reserver φ solo log s.now? (meeting s.barrier) (departed s.barrier)
  store : Store σ reserver own φ solo log s.now? s

namespace Follows

variable {β : Type} [Gate β] [MeetingGate β] {σ : Score} {reserver : Reserver}
  {own : Place → Prop} {φ lane : Nat} {solo : Nat → Solo} {log : Nat → List Deed} {s s' : Scene β}
  {st st' : Stage} {x : Solo} {ds pending : List Deed} {p : Program}

theorem running (h : Follows σ reserver own φ solo log s)
    (hst : s.stage? lane = some (.running p)) :
    s.now? lane = some (.running p) ∧ (solo lane).program = p ∧ log lane = (solo lane).log := by
  have hnow := s.now?_of_awaited hst rfl
  obtain ⟨pending, hstand, hlog⟩ := h.ranks.stands lane _ hnow
  generalize hrunning : Stage.running p = st at hstand
  cases hstand with
  | running =>
      obtain rfl := Stage.running.inj hrunning
      exact ⟨hnow, rfl, by rw [hlog, List.append_nil]⟩
  | _ => cases hrunning

theorem move (h : Follows σ reserver own φ solo log s) (hst : s.now? lane = some st)
    (hstage : s'.stage? = Function.update s.stage? lane (some st'))
    (hbarrier : s'.barrier = s.barrier) (hcalm : st.awaited = none) (hcalm' : st'.awaited = none)
    (hstand : Stand (told σ.block lane) reserver (meeting s.barrier).generation x st' pending)
    (hlog : log lane ++ ds = x.log ++ pending) (hrest : σ.rest x = σ.rest (solo lane))
    (hmeets : Deed.meets x.log = Deed.meets (solo lane).log) (hhalf : st'.isHalf = st.isHalf)
    (hds : joint reserver ds = []) (hleft : st.HasLeft → st'.HasLeft)
    (hstore : Store σ reserver own φ (Function.update solo lane x)
      (Function.update log lane (log lane ++ ds)) (Function.update s.now? lane (some st')) s') :
    Follows σ reserver own φ (Function.update solo lane x)
      (Function.update log lane (log lane ++ ds)) s' := by
  have hnow : s'.now? = Function.update s.now? lane (some st') := by
    rw [s.now?_put hstage (by rw [hbarrier]) (by rw [hbarrier]), Stage.awake_of_awaited hcalm']
  refine ⟨by rw [hbarrier]; exact h.room, ?_, by rw [hnow]; exact hstore⟩
  rw [hnow, hbarrier]
  exact h.ranks.move hst hcalm hcalm' hstand hlog hrest hmeets hhalf hds
    (h.ranks.departed_le.update hst hleft (Nat.le_refl _))

theorem quiet (h : Follows σ reserver own φ solo log s) (hst : s.stage? lane = some (.running p))
    {q : Program} (hcalm : st'.awaited = none) (hhalf : st'.isHalf = false)
    (hunanswered : st'.unanswered = [])
    (hstand : Stand (told σ.block lane) reserver (meeting s.barrier).generation
      { solo lane with program := q } st' [])
    (hrest : ∀ contents, q.goOn σ.capacity σ.reach contents (log lane) =
      p.goOn σ.capacity σ.reach contents (log lane)) :
    Follows σ reserver own φ (Function.update solo lane { solo lane with program := q })
      (Function.update log lane (log lane ++ [])) (s.put lane st') := by
  obtain ⟨hnow, hprogram, hlog⟩ := h.running hst
  refine h.move hnow rfl rfl rfl hcalm hstand ?_ ?_ rfl hhalf rfl False.elim ?_
  · rw [hlog]
  · rw [Score.rest, Score.rest, hprogram, ← hlog]
    exact hrest _
  · exact h.store.move hnow hunanswered.symm rfl rfl rfl rfl (fun _ => rfl) rfl
      (List.prefix_refl _)

theorem accounted_peer (h : Follows σ reserver own φ solo log s) (hmaster : reserver = .master)
    (hstep : InStep reserver σ.lanes log)
    (hst : s.now? lane = some st) (hhalf : st.isHalf = false) (hahead : st.ahead = 0) :
    s.top = Arena.account σ.capacity (requests (log lane)) ∧
      s.published = Arena.lastAnswer? σ.capacity (requests (log lane)) := by
  subst hmaster
  have hlane := h.ranks.lane_lt hst
  have hlanes : 0 < σ.lanes := Nat.zero_lt_of_lt hlane
  obtain ⟨st₀, hst₀⟩ := Option.isSome_iff_exists.mp ((h.ranks.lanes 0).mpr hlanes)
  obtain ⟨count, half, hlevel⟩ := h.ranks.level
  have hlength := (hlevel lane st hst).2
  have hhalf₀ : st₀.isHalf = false := by
    rw [(hlevel 0 st₀ hst₀).1, ← (hlevel lane st hst).1, hhalf]
  obtain ⟨answered, hrequests, htop, hpublished⟩ := h.store.accounted rfl st₀ hst₀
  obtain ⟨pending, hstand, hlog⟩ := h.ranks.stands 0 st₀ hst₀
  -- What the master has begun and the lane has not is not answered yet.
  suffices hanswered : answered = requests (log lane) by
    rw [← hanswered]
    exact ⟨htop, hpublished⟩
  have hlevel₀ := (hlevel 0 st₀ hst₀).2
  have hcompare := hstep lane hlane 0 hlanes
  have heven (hahead₀ : st₀.ahead = 0) (hnone : st₀.unanswered = []) :
      answered = requests (log lane) := by
    have hsame := hcompare.eq (by rw [hlength, hlevel₀, hahead, hahead₀])
    rw [← requests_joint, hsame, requests_joint, hrequests, hnone, List.append_nil]
  have hfirst {d : Deed} (hd : d.isJoint .master = true) (hahead₀ : st₀.ahead = 1)
      (hlog₀ : log 0 = (solo 0).log ++ [d]) (hdone : answered = requests (solo 0).log) :
      answered = requests (log lane) := by
    rw [hlog₀, joint_append] at hcompare hlevel₀
    have hone : joint .master [d] = [d] := List.filter_cons_of_pos hd
    have hsame := (hcompare.of_isPrefix (List.prefix_refl _) (List.prefix_append _ _)).eq (by
      rw [hone, List.length_append, hahead₀] at hlevel₀
      rw [hlength, hahead]
      exact (Nat.succ.inj hlevel₀).symm)
    rw [hdone, ← requests_joint, ← hsame, requests_joint]
  cases hstand with
  | running | collecting | leaving | ended => exact heven rfl rfl
  | meets | asks =>
      refine hfirst rfl rfl hlog ?_
      rw [hlog, requests_append] at hrequests
      exact (List.append_inj' hrequests rfl).1.symm
  | publishing | closing | closes => cases hhalf₀

theorem reserved_eq (h : Follows σ reserver own φ solo log s)
    (hstep : InStep reserver σ.lanes log)
    (hst : s.stage? lane = some (.running p)) :
    s.reserved reserver lane = Arena.account σ.capacity (requests (log lane)) := by
  obtain ⟨hnow, -, hlog⟩ := h.running hst
  cases hreserver : reserver with
  | lane =>
      rw [hlog]
      exact h.store.tops_eq hreserver lane (h.ranks.lane_lt hnow)
  | master => exact (h.accounted_peer hreserver hstep hnow rfl rfl).1

theorem access (h : Follows σ reserver own φ solo log s) {place : Place} {k : ElementKind}
    {a : Access k} {next : Element k → Program}
    (hst : s.stage? lane = some (.running (.access place k a next)))
    (hharm : Harmonious reserver σ.lanes own
      (Function.update log lane (log lane ++ [.access place k a.writes]))) :
    (∀ f, s.memory.access place a = .error f →
      ∃ solo', Follows σ reserver own φ solo'
        (Function.update log lane (log lane ++ [.access place k a.writes]))
        (s.put lane (.leaving (told σ.block lane (.error (.fault f))) .block))) ∧
    ∀ v memory, s.memory.access place a = .ok (v, memory) →
      ∃ solo', Follows σ reserver own φ solo'
        (Function.update log lane (log lane ++ [.access place k a.writes]))
        (Scene.put { s with memory } lane (.running (next v))) := by
  obtain ⟨hnow, hprogram, hlog⟩ := h.running hst
  have hlane := h.ranks.lane_lt hnow
  have hmeets := h.ranks.meets_eq lane hlane
  have hstretch : stretch ((solo lane).log ++ [.access place k a.writes]) φ =
      stretch (solo lane).log φ ++ [.access place k a.writes] := by
    rw [← hmeets]
    exact stretch_concat rfl _
  have hown : ∀ q, place.Covers k q → own q := fun q hq => by
    refine hharm.within lane hlane (.access place k a.writes) ?_ q hq
    rw [Function.update_self]
    exact List.mem_append_right _ (List.mem_singleton_self _)
  have hapart : ∀ q, place.Covers k q → ∀ j < σ.lanes, j ≠ lane → ¬Wrote (solo j).log φ q := by
    intro q hq j hj hne hwrote
    obtain ⟨st, hst⟩ := Option.isSome_iff_exists.mp ((h.ranks.lanes j).mpr hj)
    obtain ⟨pending, -, hlogj⟩ := h.ranks.stands j st hst
    refine hharm.apart j hj lane hlane hne φ q ?_ ?_
    · rw [Function.update_of_ne hne, hlogj]
      exact hwrote.mono (List.prefix_append _ _)
    · rw [Function.update_self, hlog, Touched, hstretch]
      exact ⟨_, List.mem_append_right _ (List.mem_singleton_self _), hq⟩
  obtain ⟨hfault, hok⟩ := h.store.seen.access hlane σ.reach (a := a) hmeets hown hapart
  have hrequests : requests ((solo lane).log ++ [.access place k a.writes]) =
      requests (solo lane).log := by
    rw [requests_append]
    exact List.append_nil _
  have hmemory := s.memory.access_contents place a
  rw [h.store.reach_eq] at hmemory
  refine ⟨fun f hf => ?_, fun v memory hv => ?_⟩
  · rw [hf] at hmemory
    have hmine := hfault f hmemory.symm
    refine ⟨_, h.move (x := ⟨.finish (.error (.fault f)), (solo lane).contents,
      (solo lane).log ++ [.access place k a.writes]⟩) hnow rfl rfl rfl rfl
      (.leaving rfl rfl) ?_ ?_ ?_ rfl rfl False.elim ?_⟩
    · rw [hlog, List.append_nil]
    · rw [Score.rest, Score.rest, hprogram, Program.goOn, Program.goOn, hmine]
    · rw [meets_append, meets_cons_of_ne rfl]
      rfl
    · exact h.store.move hnow rfl rfl rfl rfl rfl (fun _ => hrequests) rfl
        (List.prefix_append _ _)
  · rw [hv] at hmemory
    obtain ⟨mine, hmine, hseen⟩ := hok v memory.contents hmemory.symm
    refine ⟨_, h.move (x := ⟨next v, mine, (solo lane).log ++ [.access place k a.writes]⟩) hnow rfl
      rfl rfl rfl .running ?_ ?_ ?_ rfl rfl False.elim ?_⟩
    · rw [hlog, List.append_nil]
    · rw [Score.rest, Score.rest, hprogram, Program.goOn, hmine]
    · rw [meets_append, meets_cons_of_ne rfl]
      rfl
    · refine ⟨h.store.accounted_update hnow fun _ => rfl, fun hreserver i hi => ?_, ?_, hseen _⟩
      · rw [Scene.put]
        dsimp only
        rw [h.store.tops_eq hreserver i hi]
        by_cases heq : i = lane
        · subst heq
          rw [Function.update_self, hrequests]
        · rw [Function.update_of_ne heq]
      · exact (Memory.size_of_access hv).trans h.store.reach_eq

theorem reserve (h : Follows σ reserver own φ solo log s) (hreserver : reserver = .lane)
    {k : ElementKind} {n : Nat} {next : Except Error SharedSlice → Program}
    (hst : s.stage? lane = some (.running (.allocate k n next))) :
    ∃ solo', Follows σ reserver own φ solo'
      (Function.update log lane (log lane ++ [.request k n]))
      (Scene.put { s with
          tops := Function.update s.tops lane (Arena.grow σ.capacity (s.tops lane) k n) } lane
        (.running (next (Arena.answer σ.capacity (s.tops lane) k n).slice))) := by
  obtain ⟨hnow, hprogram, hlog⟩ := h.running hst
  have htop := h.store.tops_eq hreserver lane (h.ranks.lane_lt hnow)
  subst hreserver
  refine ⟨_, h.move (x := ⟨next (Arena.answer σ.capacity (s.tops lane) k n).slice,
    (solo lane).contents, (solo lane).log ++ [.request k n]⟩) hnow rfl rfl rfl rfl .running ?_ ?_ ?_
    rfl rfl False.elim ?_⟩
  · rw [hlog, List.append_nil]
  · rw [Score.rest, Score.rest, hprogram, Program.goOn, htop]
  · rw [meets_append, meets_cons_of_ne rfl]
    rfl
  · refine ⟨fun hmaster => ?_, fun _ i hi => ?_, h.store.reach_eq, ?_⟩
    · cases hmaster
    · dsimp only [Scene.put]
      by_cases heq : i = lane
      · subst heq
        rw [Function.update_self, Function.update_self, requests_append, htop]
        exact (Arena.account_concat ..).symm
      · rw [Function.update_of_ne heq, Function.update_of_ne heq]
        exact h.store.tops_eq rfl i hi
    · exact h.store.seen.keep rfl fun q hq => hq.mono (List.prefix_append _ _)

theorem publish (h : Follows σ reserver own φ solo log s) {k : ElementKind} {n : Nat}
    {next : Except Error SharedSlice → Program}
    (hst : s.stage? lane = some (.publishing k n next)) :
    ∃ solo', Follows σ reserver own φ solo' (Function.update log lane (log lane ++ []))
      (Scene.put (if lane = 0 then s.publish σ.capacity k n else s) lane (.closing k n next)) := by
  have hnow := s.now?_of_awaited hst rfl
  obtain ⟨pending, hstand, hlog⟩ := h.ranks.stands lane _ hnow
  cases hstand with
  | publishing hmaster hprogram =>
      refine ⟨Function.update solo lane (solo lane), h.move hnow ?_ ?_ rfl rfl
        (.closing hmaster hprogram) (by rw [hlog, List.append_nil]) rfl rfl rfl rfl id ?_⟩
      · split <;> rfl
      · split <;> rfl
      · by_cases hlane : lane = 0
        · subst hlane
          rw [if_pos rfl, Function.update_eq_self]
          refine ⟨fun _ st₁ hst₁ => ?_, fun hreserver => ?_, h.store.reach_eq, h.store.seen⟩
          · rw [Function.update_self] at hst₁ ⊢
            obtain rfl := Option.some.inj hst₁
            rw [List.append_nil]
            exact (h.store.accounted hmaster _ hnow).publish
          · rw [hmaster] at hreserver
            cases hreserver
        · rw [if_neg hlane, Function.update_eq_self]
          refine ⟨h.store.accounted_update hnow fun hzero => absurd hzero hlane, h.store.tops_eq,
            h.store.reach_eq, h.store.seen⟩

theorem collect (h : Follows σ reserver own φ solo log s)
    (hstep : InStep reserver σ.lanes log)
    {k : ElementKind} {n : Nat} {next : Except Error SharedSlice → Program}
    (hst : s.stage? lane = some (.collecting k n next)) :
    ∃ solo', Follows σ reserver own φ solo' (Function.update log lane (log lane ++ []))
      (s.put lane (.running (next (s.collected k n)))) := by
  have hnow := s.now?_of_awaited hst rfl
  obtain ⟨pending, hstand, hlog⟩ := h.ranks.stands lane _ hnow
  cases hstand with
  | collecting hmaster hprogram =>
      have hpublished := (h.accounted_peer hmaster hstep hnow rfl rfl).2
      have hrequests : requests (log lane) = requests (solo lane).log ++ [(k, n)] := by
        rw [hlog, requests_append]
        rfl
      rw [hrequests, Arena.lastAnswer?_concat] at hpublished
      have hcollected : s.collected k n = (Arena.answer σ.capacity
          (Arena.account σ.capacity (requests (solo lane).log)) k n).slice := by
        rw [Scene.collected, hpublished]
        rfl
      refine ⟨_, h.move (x := ⟨next (s.collected k n), (solo lane).contents, log lane⟩) hnow rfl
        rfl rfl rfl .running rfl ?_ ?_ rfl rfl False.elim ?_⟩
      · rw [Score.rest, Score.rest, hprogram, Program.goOn, hcollected, hlog]
      · rw [hlog, meets_append]
        rfl
      · refine h.store.move hnow rfl rfl rfl rfl rfl (fun hreserver => ?_) rfl ?_
        · rw [hmaster] at hreserver
          cases hreserver
        · rw [hlog]
          exact List.prefix_append _ _

theorem departed_lt (h : Follows σ reserver own φ solo log s) (hst : s.now? lane = some st)
    (hstays : ¬st.HasLeft) : departed s.barrier < (meeting s.barrier).size := by
  obtain ⟨gone, hnodup, hgone, hlength⟩ := h.ranks.departed_le
  have hlane : lane ∉ gone := by
    intro hlane
    obtain ⟨_, hst', hleft⟩ := hgone lane hlane
    obtain rfl := Option.some.inj (hst.symm.trans hst')
    exact hstays hleft
  have hsub : lane :: gone ⊆ List.range σ.lanes := by
    intro i hi
    rcases List.mem_cons.mp hi with rfl | hi
    · exact List.mem_range.mpr (h.ranks.lane_lt hst)
    · obtain ⟨_, hst', -⟩ := hgone i hi
      exact List.mem_range.mpr (h.ranks.lane_lt hst')
  have hle := (List.nodup_cons.mpr ⟨hlane, hnodup⟩).length_le_of_subset hsub
  rw [List.length_cons, List.length_range] at hle
  rw [h.ranks.size_eq]
  omega

theorem leave (h : Follows σ reserver own φ solo log s) {o : Except Error Unit} {barrier : β}
    (hst : s.stage? lane = some (.leaving o .block))
    (hleave : Gate.leave s.barrier o.isOk.not = (.ok (), barrier)) :
    ∃ solo', Follows σ reserver own φ solo' (Function.update log lane (log lane ++ []))
      (Scene.put { s with barrier } lane (.leaving o .warp)) := by
  have hnow := s.now?_of_awaited hst rfl
  have hmeeting := meeting_leave s.barrier o.isOk.not
  have hdeparted := departed_leave s.barrier o.isOk.not
  rw [hleave] at hmeeting hdeparted
  dsimp only at hmeeting hdeparted
  obtain ⟨pending, hstand, hlog⟩ := h.ranks.stands lane _ hnow
  cases hstand with
  | leaving hprogram ho =>
      have hnow' : (Scene.put { s with barrier } lane (.leaving o .warp)).now? =
          Function.update s.now? lane (some (.leaving o .warp)) := by
        rw [Scene.now?_put (s := s) rfl (congrArg (·.generation) hmeeting)
          (congrArg (·.result) hmeeting)]
        rfl
      refine ⟨Function.update solo lane (solo lane), hmeeting ▸ h.room, ?_, ?_⟩
      · have hgone : Departed (Function.update s.now? lane (some (.leaving o .warp)))
            (departed barrier) := by
          have hleft : (Stage.leaving o .warp).HasLeft := trivial
          refine h.ranks.departed_le.cons hnow id hleft (hdeparted.trans ?_)
          split <;> omega
        have hwarp : Stand (told σ.block lane) reserver (meeting s.barrier).generation (solo lane)
            (.leaving o .warp) [] := .leaving hprogram ho
        have hmeeting' : meeting (Scene.put { s with barrier } lane (.leaving o .warp)).barrier =
            meeting s.barrier := hmeeting
        rw [hnow', hmeeting']
        refine h.ranks.move hnow rfl rfl hwarp ?_ rfl rfl rfl rfl hgone
        rw [hlog, List.append_nil]
      · rw [hnow']
        exact h.store.move hnow rfl rfl rfl rfl rfl (fun _ => rfl) rfl (List.prefix_refl _)

theorem part (h : Follows σ reserver own φ solo log s) {o : Except Error Unit}
    (hst : s.stage? lane = some (.leaving o .warp)) :
    ∃ solo', Follows σ reserver own φ solo' (Function.update log lane (log lane ++ []))
      (s.put lane (.ended o)) := by
  have hnow := s.now?_of_awaited hst rfl
  obtain ⟨pending, hstand, hlog⟩ := h.ranks.stands lane _ hnow
  cases hstand with
  | leaving hprogram ho =>
      exact ⟨Function.update solo lane (solo lane), h.move hnow rfl rfl rfl rfl
        (.ended hprogram ho) (by rw [hlog, List.append_nil]) rfl rfl rfl rfl (fun _ => trivial)
        (h.store.move hnow rfl rfl rfl rfl rfl (fun _ => rfl) rfl (List.prefix_refl _))⟩

theorem now?_completed (h : Follows σ reserver own φ solo log s) (lane : Nat) {r : Resumption}
    {barrier : β} {m : Rendezvous} (hmeeting : meeting barrier = m.completed)
    (hwaits : ∀ i < σ.lanes, i ≠ lane → ∃ r, s.now? i = some (.waiting .block m.generation r)) :
    (Scene.put { s with barrier } lane (r.stage (some m.gathered))).now? =
      fun i => (Function.update s.now? lane (some (.waiting .block m.generation r)) i).map
        (·.awake m.completed) := by
  have hawake (r : Resumption) :
      (Stage.waiting .block m.generation r).awake m.completed = r.stage (some m.gathered) :=
    if_pos (Rendezvous.next_generation_ne _)
  funext i
  by_cases hi : i = lane
  · subst hi
    rw [Function.update_self, Option.map_some, hawake, Scene.now?, Scene.put]
    dsimp only
    rw [Function.update_self, Option.map_some, Resumption.awake_stage]
  · rw [Function.update_of_ne hi, Scene.now?, Scene.put]
    dsimp only
    rw [Function.update_of_ne hi, hmeeting]
    rcases hst : s.stage? i with _ | st
    · rw [Scene.now?, hst]
      rfl
    · have hnow : s.now? i = some (st.awake (meeting s.barrier)) := by
        rw [Scene.now?, hst]
        rfl
      obtain ⟨r', hr'⟩ := hwaits i (h.ranks.lane_lt hnow) hi
      have hsame := hst.symm.trans (s.stage?_of_now? hr')
      rw [hsame, hr']

theorem pass (h : Follows σ reserver own φ solo log s) (hst : s.stage? lane = some st)
    {c : Option Contribution} {r : Resumption} {a : Arrival} {barrier : β}
    (hpasses : st.passes reserver = some (c, r))
    (harrive : Gate.arrive s.barrier c = (.ok a, barrier)) (hopen : isClosed s.barrier = false)
    (hopen' : isClosed barrier = false)
    (hharm : Harmonious reserver σ.lanes own
      (Function.update log lane (log lane ++ st.deed?.toList))) :
    ∃ φ' solo', (φ' = φ ∨ φ' = φ + 1 ∧ ∀ i < σ.lanes, ∃ c next,
        (σ.close φ i).program = .arrive .block c next) ∧
      Follows σ reserver own φ' solo' (Function.update log lane (log lane ++ st.deed?.toList))
        (Scene.put { s with barrier } lane (a.stage r)) := by
  have hnow := s.now?_of_awaited hst (Stage.awaited_of_passes hpasses)
  have hlane := h.ranks.lane_lt hnow
  have hlanes : 0 < σ.lanes := Nat.zero_lt_of_lt hlane
  obtain ⟨pending, hstand, hlog⟩ := h.ranks.stands lane st hnow
  obtain ⟨-, -, -, -, -, hunanswered⟩ := hstand.pass hpasses
  have hranks := h.ranks.join hnow hpasses
  have hstore := h.store.move (x := solo lane) hnow hunanswered
    (rfl : s.memory = s.memory) rfl rfl rfl (fun _ => rfl) rfl (List.prefix_refl _)
  rw [Function.update_eq_self] at hstore
  by_cases hlast : (meeting s.barrier).arrived + 1 = (meeting s.barrier).size
  · obtain ⟨b', harrive', hmeeting, -, hdeparted⟩ := arrive_last hopen c hlast
    obtain ⟨ha, rfl⟩ := Prod.mk.inj (harrive.symm.trans harrive')
    obtain rfl := Except.ok.inj ha
    rw [Rendezvous.arrive_completed hlast] at hmeeting
    have hall : (meeting s.barrier).arrived + 1 = σ.lanes := by
      rw [hlast, h.ranks.size_eq]
      omega
    obtain ⟨φ', solo', hφ, hranks', hstore'⟩ :=
      hstore.completed hranks hharm hlanes hall
    obtain ⟨-, hwaits⟩ := hranks.everyone hall
    have hnow' := h.now?_completed lane (r := r) hmeeting fun i hi hne => by
      obtain ⟨r', -, hr', -⟩ := hwaits i hi
      rw [Function.update_of_ne hne] at hr'
      exact ⟨r', hr'⟩
    refine ⟨φ', solo', hφ, ?_, ?_, ?_⟩
    · have hroom : (meeting barrier).arrived < (meeting barrier).size := by
        rw [hmeeting]
        exact Nat.zero_lt_of_lt h.room
      exact hroom
    · have hbarrier : (Scene.put { s with barrier } lane
          ((Arrival.released (some ((meeting s.barrier).gather c))).stage r)).barrier =
          barrier := rfl
      rw [hbarrier, hmeeting, hdeparted]
      refine Eq.mpr ?_ hranks'
      exact congrArg (Ranks σ reserver φ' solo' _ · _ _) hnow'
    · refine Eq.mpr (congrArg (Store σ reserver own φ' solo' _ · _) hnow') ?_
      exact ⟨hstore'.accounted, hstore'.tops_eq, hstore'.reach_eq, hstore'.seen⟩
  · obtain ⟨b', a', harrive', hmeeting, hdeparted, ha'⟩ := arrive_more hopen c hlast
      (Nat.le_of_lt (h.departed_lt hnow (Stage.stays_of_passes hpasses)))
    obtain ⟨ha, rfl⟩ := Prod.mk.inj (harrive.symm.trans harrive')
    obtain rfl := Except.ok.inj ha
    rw [hopen', if_neg Bool.false_ne_true] at ha'
    subst ha'
    rw [Rendezvous.arrive_of_more hlast] at hmeeting
    have hstage : (Arrival.waiting (meeting s.barrier).generation).stage r =
        .waiting .block (meeting s.barrier).generation r := rfl
    rw [hstage]
    have hnow' : (Scene.put { s with barrier } lane
        (.waiting .block (meeting s.barrier).generation r)).now? = Function.update s.now? lane
          (some (.waiting .block (meeting s.barrier).generation r)) := by
      rw [Scene.now?_put (s := s) rfl (congrArg (·.generation) hmeeting)
        (congrArg (·.result) hmeeting)]
      rw [Stage.awake, if_neg (not_not_intro rfl)]
    refine ⟨φ, solo, .inl rfl, ?_, ?_, ?_⟩
    · have hroom : (meeting barrier).arrived < (meeting barrier).size := by
        rw [hmeeting]
        exact Nat.lt_of_le_of_ne h.room hlast
      exact hroom
    · have hbarrier : (Scene.put { s with barrier } lane
          (.waiting .block (meeting s.barrier).generation r)).barrier = barrier := rfl
      rw [hnow', hbarrier, hmeeting, hdeparted]
      exact hranks
    · rw [hnow']
      exact ⟨hstore.accounted, hstore.tops_eq, hstore.reach_eq, hstore.seen⟩

theorem look (h : Follows σ reserver own φ solo log s) {g : Word} {r : Resumption}
    {w : Option Word} (hst : s.stage? lane = some (.waiting .block g r))
    (hlook : Gate.look s.barrier g = .released w)
    (hopen : isClosed s.barrier = true → ¬Waits s.now? lane) :
    Follows σ reserver own φ solo log (s.put lane (r.stage w)) := by
  rw [look_eq] at hlook
  have hgeneration : (meeting s.barrier).generation ≠ g := by
    intro hsame
    have hwaits : Waits s.now? lane := by
      refine ⟨.waiting .block g r, ?_, rfl⟩
      rw [Scene.now?, hst, Option.map_some, Stage.awake, if_neg (not_not_intro hsame)]
    rw [if_neg (not_not_intro hsame), if_neg fun hclosed => hopen hclosed hwaits] at hlook
    cases hlook
  rw [if_pos hgeneration] at hlook
  obtain rfl := Arrival.released.inj hlook
  have hnow : (s.put lane (r.stage (some (meeting s.barrier).result))).now? = s.now? := by
    have hput : (s.put lane (r.stage (some (meeting s.barrier).result))).stage? =
        Function.update s.stage? lane (some (r.stage (some (meeting s.barrier).result))) := rfl
    rw [Scene.now?_put hput rfl rfl, Resumption.awake_stage]
    refine Function.update_eq_self_iff.mpr ?_
    rw [Scene.now?, hst, Option.map_some, Stage.awake, if_pos hgeneration]
  refine ⟨h.room, by rw [hnow]; exact h.ranks, ?_⟩
  rw [hnow]
  exact ⟨h.store.accounted, h.store.tops_eq, h.store.reach_eq, h.store.seen⟩

theorem arrives (h : Follows σ reserver own φ solo log s) (hopen : isClosed s.barrier = false)
    {c : Option Contribution} {r : Resumption} (hst : s.stage? lane = some st)
    (hpasses : st.passes reserver = some (c, r)) :
    ∃ a barrier, Gate.arrive s.barrier c = (.ok a, barrier) := by
  by_cases hlast : (meeting s.barrier).arrived + 1 = (meeting s.barrier).size
  · obtain ⟨b', harrive, -⟩ := arrive_last hopen c hlast
    exact ⟨_, b', harrive⟩
  · have hnow := s.now?_of_awaited hst (Stage.awaited_of_passes hpasses)
    obtain ⟨b', a, harrive, -⟩ := arrive_more hopen c hlast (Nat.le_of_lt
      (h.departed_lt hnow (Stage.stays_of_passes hpasses)))
    exact ⟨a, b', harrive⟩

/-- Whatever a lane does, the block follows its score as long as no closed barrier comes in the way.
The next phase begins only after a meeting of all lanes. -/
theorem step (h : Follows σ reserver own φ solo log s) (hst : s.stage? lane = some st)
    (hact : s.Act σ.block σ.capacity reserver lane st s') (hgate : Unhindered reserver st s s')
    (hharm : Harmonious reserver σ.lanes own
      (Function.update log lane (log lane ++ st.deed?.toList))) :
    ∃ φ' solo', (φ' = φ ∨ φ' = φ + 1 ∧ ∀ i < σ.lanes, ∃ c next,
        (σ.close φ i).program = .arrive .block c next) ∧
      Follows σ reserver own φ' solo' (Function.update log lane (log lane ++ st.deed?.toList))
        s' := by
  have hgrows : ∀ i < σ.lanes,
      log i <+: Function.update log lane (log lane ++ st.deed?.toList) i := by
    intro i _
    by_cases hi : i = lane
    · rw [hi, Function.update_self]
      exact List.prefix_append _ _
    · rw [Function.update_of_ne hi]
  have hstep := (hharm.of_isPrefix hgrows).inStep
  have hsame (hfollows : ∃ solo', Follows σ reserver own φ solo'
      (Function.update log lane (log lane ++ st.deed?.toList)) s') :
      ∃ φ' solo', (φ' = φ ∨ φ' = φ + 1 ∧ ∀ i < σ.lanes, ∃ c next,
        (σ.close φ i).program = .arrive .block c next) ∧
      Follows σ reserver own φ' solo' (Function.update log lane (log lane ++ st.deed?.toList))
        s' :=
    ⟨φ, hfollows.choose, .inl rfl, hfollows.choose_spec⟩
  cases hact with
  | note => exact hsame ⟨_, h.quiet hst rfl rfl rfl .running fun _ => rfl⟩
  | finish => exact hsame ⟨_, h.quiet hst rfl rfl rfl (.leaving rfl rfl) fun _ => rfl⟩
  | reserved =>
      refine hsame ⟨_, h.quiet hst rfl rfl rfl .running fun contents => ?_⟩
      rw [h.reserved_eq hstep hst, Program.goOn]
  | reserve hreserver => exact hsame (h.reserve hreserver hst)
  | access haccess => exact hsame ((h.access hst hharm).2 _ _ haccess)
  | fault haccess => exact hsame ((h.access hst hharm).1 _ haccess)
  | pass hpasses harrive =>
      rcases hgate with ⟨hopen, hopen'⟩ | ⟨-, hnone⟩
      · exact h.pass hst hpasses harrive hopen hopen' hharm
      · rw [hnone] at hpasses
        cases hpasses
  | refused hpasses harrive =>
      rcases hgate with ⟨hopen, -⟩ | ⟨-, hnone⟩
      · obtain ⟨a, b, hok⟩ := h.arrives hopen hst hpasses
        rw [harrive] at hok
        cases hok
      · rw [hnone] at hpasses
        cases hpasses
  | look hlook =>
      refine hsame ⟨solo, ?_⟩
      have hlog : Function.update log lane (log lane ++ []) = log := by
        rw [List.append_nil, Function.update_eq_self]
      have hlook' := h.look hst hlook fun hclosed => by
        rcases hgate with ⟨hopen, -⟩ | ⟨hcalm, -⟩
        · rw [hopen] at hclosed
          cases hclosed
        · exact hcalm lane
      rw [← hlog] at hlook'
      exact hlook'
  | publish => exact hsame (h.publish hst)
  | collect => exact hsame (h.collect hstep hst)
  | leave hleave => exact hsame (h.leave hst hleave)
  | @broken o o' barrier f hleave =>
      have hok := leave_ok (h.departed_lt (s.now?_of_awaited hst rfl) id) o.isOk.not
      rw [hleave] at hok
      cases hok
  | part => exact hsame (h.part hst)

theorem elsewhere (h : Follows σ reserver own φ solo log s) {memory : Memory}
    (hreach : memory.buffers.size = s.memory.buffers.size)
    (hown : ∀ x, own x → memory.contents x = s.memory.contents x) :
    Follows σ reserver own φ solo log { s with memory } :=
  ⟨h.room, h.ranks, h.store.accounted, h.store.tops_eq, hreach.trans h.store.reach_eq,
    h.store.seen.of_eq hown⟩

end Follows

end LaneGrid
