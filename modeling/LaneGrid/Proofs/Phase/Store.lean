import LaneGrid.Proofs.Phase.Ranks

namespace LaneGrid

open Deed

/-- The master has answered the requests that it has begun, but the last one sometimes. -/
def Accounted (capacity : Nat) (log : List Deed) (st : Stage) (top : Nat)
    (published : Option (Except SharedExcess Nat)) : Prop :=
  ∃ answered, requests log = answered ++ st.unanswered ∧ top = Arena.account capacity answered ∧
    published = Arena.lastAnswer? capacity answered

/-- Each of `n` lanes sees its own places as they are, but those that others write in this phase. -/
def Seen (n φ : Nat) (own : Place → Prop) (solo : Nat → Solo) (contents : Contents) : Prop :=
  ∀ i < n, ∀ x, own x → (∀ j < n, j ≠ i → ¬Wrote (solo j).log φ x) →
    contents x = (solo i).contents x

structure Store {β : Type} (σ : Score) (reserver : Reserver) (own : Place → Prop) (φ : Nat)
    (solo : Nat → Solo) (log : Nat → List Deed) (now : Nat → Option Stage) (s : Scene β) :
    Prop where
  accounted : reserver = .master → ∀ st, now 0 = some st →
    Accounted σ.capacity (log 0) st s.top s.published
  tops_eq : reserver = .lane → ∀ i < σ.lanes,
    s.tops i = Arena.account σ.capacity (requests (solo i).log)
  reach_eq : s.memory.buffers.size = σ.reach
  seen : Seen σ.lanes φ own solo s.memory.contents

theorem Accounted.append {capacity : Nat} {log : List Deed} {st : Stage} {top : Nat}
    {published : Option (Except SharedExcess Nat)} (h : Accounted capacity log st top published)
    {ds : List Deed} {st' : Stage} (hds : st.unanswered ++ requests ds = st'.unanswered) :
    Accounted capacity (log ++ ds) st' top published := by
  obtain ⟨answered, hrequests, htop, hpublished⟩ := h
  refine ⟨answered, ?_, htop, hpublished⟩
  rw [requests_append, hrequests, List.append_assoc, hds]

theorem Accounted.publish {capacity : Nat} {log : List Deed} {top : Nat}
    {published : Option (Except SharedExcess Nat)} {k : ElementKind} {n : Nat}
    {next : Except Error SharedSlice → Program}
    (h : Accounted capacity log (.publishing k n next) top published) :
    Accounted capacity log (.closing k n next) (Arena.grow capacity top k n)
      (some (Arena.answer capacity top k n).result) := by
  obtain ⟨answered, hrequests, rfl, -⟩ := h
  refine ⟨answered ++ [(k, n)], ?_, ?_, ?_⟩
  · rw [hrequests]
    exact (List.append_nil _).symm
  · rw [Arena.account_concat]
  · rw [Arena.lastAnswer?_concat]

namespace Seen

variable {n φ lane : Nat} {own : Place → Prop} {solo : Nat → Solo} {contents : Contents} {x : Solo}

theorem keep (h : Seen n φ own solo contents) (hcontents : x.contents = (solo lane).contents)
    (hwrote : ∀ p, Wrote (solo lane).log φ p → Wrote x.log φ p) :
    Seen n φ own (Function.update solo lane x) contents := by
  intro i hi p hown hothers
  have hothers' : ∀ j < n, j ≠ i → ¬Wrote (solo j).log φ p := by
    intro j hj hne hp
    refine hothers j hj hne ?_
    by_cases hlane : j = lane
    · subst hlane
      rw [Function.update_self]
      exact hwrote p hp
    · rw [Function.update_of_ne hlane]
      exact hp
  by_cases hlane : i = lane
  · subst hlane
    rw [Function.update_self, hcontents]
    exact h i hi p hown hothers'
  · rw [Function.update_of_ne hlane]
    exact h i hi p hown hothers'

theorem of_eq (h : Seen n φ own solo contents) {contents' : Contents}
    (heq : ∀ p, own p → contents' p = contents p) : Seen n φ own solo contents' := by
  intro i hi p hown hothers
  rw [heq p hown]
  exact h i hi p hown hothers

theorem access (h : Seen n φ own solo contents) (hlane : lane < n) (reach : Nat)
    {p : Place} {k : ElementKind} {a : Access k}
    (hmeets : meets (solo lane).log = φ)
    (hown : ∀ q, p.Covers k q → own q)
    (hapart : ∀ q, p.Covers k q → ∀ j < n, j ≠ lane → ¬Wrote (solo j).log φ q) :
    (∀ f, contents.access reach p a = .error f → (solo lane).contents.access reach p a = .error f) ∧
    ∀ v after, contents.access reach p a = .ok (v, after) →
      ∃ mine, (solo lane).contents.access reach p a = .ok (v, mine) ∧ ∀ program,
        Seen n φ own (Function.update solo lane
          ⟨program, mine, (solo lane).log ++ [.access p k a.writes]⟩) after := by
  have hagree : ∀ q, p.Covers k q → contents q = (solo lane).contents q := fun q hq =>
    h lane hlane q (hown q hq) (hapart q hq)
  obtain ⟨hfault, hok⟩ := Contents.access_congr hagree reach a
  refine ⟨hfault, fun v after hafter => ?_⟩
  obtain ⟨mine, hmine, hsame⟩ := hok v after hafter
  refine ⟨mine, hmine, fun program i hi q hq hothers => ?_⟩
  have hstretch : stretch ((solo lane).log ++ [.access p k a.writes]) φ =
      stretch (solo lane).log φ ++ [.access p k a.writes] := by
    rw [← hmeets]
    exact stretch_concat rfl _
  have hothers' : ∀ j < n, j ≠ i → ¬Wrote (solo j).log φ q := by
    intro j hj hne hwrote
    refine hothers j hj hne ?_
    by_cases heq : j = lane
    · subst heq
      rw [Function.update_self]
      exact hwrote.mono (List.prefix_append _ _)
    · rw [Function.update_of_ne heq]
      exact hwrote
  by_cases heq : i = lane
  · subst heq
    rw [Function.update_self]
    exact (hsame q).1 (h i hi q hq hothers')
  · rw [Function.update_of_ne heq]
    have hframe : after q = contents q := by
      refine Contents.access_frame hafter fun hwrites => ?_
      refine hothers lane hlane (Ne.symm heq) ?_
      rw [Function.update_self, Wrote, hstretch]
      exact ⟨_, List.mem_append_right _ (List.mem_singleton_self _), writes_access.mpr hwrites⟩
    rw [hframe]
    exact h i hi q hq hothers'

end Seen

namespace Store

variable {β : Type} {σ : Score} {reserver : Reserver} {own : Place → Prop} {φ lane : Nat}
  {solo : Nat → Solo} {log : Nat → List Deed} {now : Nat → Option Stage} {s s' : Scene β}
  {st st' : Stage} {ds : List Deed} {x : Solo}

theorem accounted_update (h : Store σ reserver own φ solo log now s) (hst : now lane = some st)
    (hds : lane = 0 → st.unanswered ++ requests ds = st'.unanswered) :
    reserver = .master → ∀ st₁, Function.update now lane (some st') 0 = some st₁ →
      Accounted σ.capacity (Function.update log lane (log lane ++ ds) 0) st₁ s.top s.published := by
  intro hmaster st₁ hst₁
  by_cases hlane : lane = 0
  · subst hlane
    rw [Function.update_self] at hst₁ ⊢
    obtain rfl := Option.some.inj hst₁
    exact (h.accounted hmaster st hst).append (hds rfl)
  · rw [Function.update_of_ne (Ne.symm hlane)] at hst₁ ⊢
    exact h.accounted hmaster st₁ hst₁

theorem accounted_awake (h : Store σ reserver own φ solo log now s) (m : Rendezvous) :
    reserver = .master → ∀ st, (now 0).map (·.awake m) = some st →
      Accounted σ.capacity (log 0) st s.top s.published := by
  intro hmaster st' hst'
  obtain ⟨st, hst, rfl⟩ := Option.map_eq_some_iff.mp hst'
  obtain ⟨answered, hrequests, haccount⟩ := h.accounted hmaster st hst
  exact ⟨answered, by rw [st.unanswered_awake, hrequests], haccount⟩

theorem move (h : Store σ reserver own φ solo log now s) (hst : now lane = some st)
    (hds : st.unanswered ++ requests ds = st'.unanswered)
    (hmemory : s'.memory = s.memory) (htop : s'.top = s.top) (htops : s'.tops = s.tops)
    (hpublished : s'.published = s.published)
    (hrequests : reserver = .lane → requests x.log = requests (solo lane).log)
    (hcontents : x.contents = (solo lane).contents) (hlog : (solo lane).log <+: x.log) :
    Store σ reserver own φ (Function.update solo lane x) (Function.update log lane (log lane ++ ds))
      (Function.update now lane (some st')) s' where
  accounted := by
    rw [htop, hpublished]
    exact h.accounted_update hst fun _ => hds
  tops_eq := by
    intro hreserver i hi
    rw [htops, h.tops_eq hreserver i hi]
    by_cases hlane : i = lane
    · subst hlane
      rw [Function.update_self, hrequests hreserver]
    · rw [Function.update_of_ne hlane]
  reach_eq := by
    rw [hmemory]
    exact h.reach_eq
  seen := by
    rw [hmemory]
    exact h.seen.keep hcontents fun p hp => hp.mono hlog

theorem completed (h : Store σ reserver own φ solo log now s) {m : Rendezvous} {gone : Nat}
    (hranks : Ranks σ reserver φ solo log now m gone)
    (hharm : Harmonious reserver σ.lanes own log) (hlanes : 0 < σ.lanes) (hall : m.arrived = σ.lanes) :
    ∃ φ' solo', (φ' = φ ∨ φ' = φ + 1 ∧ ∀ i < σ.lanes, ∃ c next,
        (σ.close φ i).program = .arrive .block c next) ∧
      Ranks σ reserver φ' solo' log (fun i => (now i).map (·.awake m.completed)) m.completed gone ∧
      Store σ reserver own φ' solo' log (fun i => (now i).map (·.awake m.completed)) s := by
  have haccounted := h.accounted_awake m.completed
  cases hranks.turnout hharm.inStep hlanes hall with
  | asks k n hmaster hasks =>
      exact ⟨φ, solo, .inl rfl, hranks.all_asked hall hmaster hasks,
        ⟨haccounted, h.tops_eq, h.reach_eq, h.seen⟩⟩
  | closes hmaster hcloses =>
      exact ⟨φ, solo, .inl rfl, hranks.all_closed hall hmaster hcloses,
        ⟨haccounted, h.tops_eq, h.reach_eq, h.seen⟩⟩
  | meets reduction hmeets =>
      obtain ⟨hclose, hnext⟩ := hranks.next_phase hall hmeets
      have harrives : ∀ i < σ.lanes, ∃ c next, (σ.close φ i).program = .arrive .block c next := by
        intro i hi
        obtain ⟨c, next, -, hprogram, -⟩ := hmeets i hi
        rw [hclose i hi]
        exact ⟨c, next, hprogram⟩
      have hlog : ∀ i < σ.lanes, (σ.close φ i).log <+: log i := by
        intro i hi
        obtain ⟨c, next, -, -, -, hlog⟩ := hmeets i hi
        rw [hclose i hi, hlog]
        exact List.prefix_append _ _
      refine ⟨φ + 1, σ.phase (φ + 1), .inr ⟨rfl, harrives⟩, hnext, haccounted,
        fun hreserver i hi => ?_, h.reach_eq, fun i hi x hown _ => ?_⟩
      · obtain ⟨c, next, hprogram⟩ := harrives i hi
        rw [h.tops_eq hreserver i hi, σ.phase_succ hprogram, hclose i hi, requests_append]
        exact congrArg _ (List.append_nil _).symm
      · obtain ⟨c, next, hprogram⟩ := harrives i hi
        rw [σ.phase_succ hprogram]
        refine σ.merge_eq hlanes (fun i hi j hj hne hwrote hwrote' => ?_) fun i hi hothers => ?_
        · exact hharm.apart i hi j hj hne φ x (hwrote.mono (hlog i hi))
            (hwrote'.mono (hlog j hj)).touched
        · rw [hclose i hi]
          refine h.seen i hi x hown fun j hj hne => ?_
          rw [← hclose j hj]
          exact hothers j hj hne

end Store

end LaneGrid
