import LaneGrid.Proofs.Solitude.Evaluation

namespace LaneGrid

open LoneGate

/-- What becomes of the only lane of a block. -/
def Program.fate (block capacity : Nat) (p : Program) (s : LaneRecord) : Fate :=
  (told block 0 (p.evaluate capacity s).1, (p.evaluate capacity s).2)

/-- The gates that the only lane of a block still has to pass are its own. -/
def Stage.Passes {β ω : Type} [Gate β] [Gate ω] [LoneGate β] [LoneGate ω] (barrier : β) (w : ω) :
    Stage → Prop
  | .leaving _ .warp => Spares barrier ∧ IsLone w
  | .ended _ => Spares barrier ∧ Spares w
  | _ => IsLone barrier ∧ IsLone w

namespace Team

variable {β ω : Type} {t t' : Team β ω} {m : Member} {fate : Fate}

/-- What a lane has done. -/
def record (t : Team β ω) (m : Member) : LaneRecord :=
  ⟨t.memory, t.reserved m, m.journal⟩

/-- What the only lane of a team still comes to from where it stands. It has nobody to wait
for, and nobody to reserve for but itself. -/
def outlook (t : Team β ω) (m : Member) : Option Fate :=
  let fate := Program.fate t.plan.block t.plan.arena.capacity
  let s := t.record m
  match m.stage with
  | .running p => some (fate p s)
  | .waiting .. => none
  | .publishing k n next =>
    match t.plan.reserver with
    | .lane => none
    | .master => some (fate (.allocate k n next) s)
  | .closing k n next => some (fate (next (t.collected k n)) s)
  | .collecting k n next => some (fate (next (t.collected k n)) s)
  | .leaving o _ => some (o, s)
  | .ended o => some (o, s)

theorem members_moveTo (h : t.members = #[m]) (st : Stage) :
    (t.moveTo 0 st).members = #[{ m with stage := st }] := by
  rw [moveTo, h]
  rfl

theorem reserveAlone_eq (h : t.members = #[m]) (k : ElementKind) (n : Nat)
    (next : Except Error SharedSlice → Program) :
    ∃ reported, t.reserveAlone 0 m.top k n next = { t with
      members := #[{ m with
        stage := .running (next (Arena.answer t.plan.arena.capacity m.top k n).slice)
        top := Arena.grow t.plan.arena.capacity m.top k n }]
      reported } := by
  rw [reserveAlone, Arena.answer, Arena.grow]
  rcases Arena.bump t.plan.arena.capacity k m.top n with e | ⟨offset, top⟩
  · refine ⟨t.reported, ?_⟩
    dsimp only
    rw [moveTo, h]
    rfl
  · obtain ⟨reported, hreport⟩ := t.report_eq (.sharedReserved offset n k.name)
    refine ⟨reported, ?_⟩
    dsimp only
    rw [hreport, moveTo, h]
    rfl

variable [Gate β] [Gate ω] [LoneGate β] [LoneGate ω]

/-- A team of one lane, and what becomes of that lane in the end. -/
structure Lonely (t : Team β ω) (m : Member) (fate : Fate) : Prop where
  members_eq : t.members = #[m]
  gates : ∃ w, t.warps = #[w] ∧ m.stage.Passes t.barrier w
  outlook_eq : t.outlook m = some fate

theorem arriveAt_calls {w : ω} {st : Stage} {reserver : Reserver} {scope : Scope}
    {c : Option Contribution} {r : Resumption} (hwarps : t.warps = #[w])
    (hpasses : st.Passes t.barrier w) (hcalls : st.calls reserver = some (scope, c, r)) :
    ∃ barrier w', t.arriveAt 0 scope c =
        (.ok (.released (some (SoloGate.fold c))), { t with barrier, warps := #[w'] }) ∧
      IsLone barrier ∧ IsLone w' := by
  obtain ⟨hbarrier, hw⟩ : IsLone t.barrier ∧ IsLone w := by
    cases Stage.calls_spec hcalls with
    | arrive | allocate | closing => exact hpasses
  cases scope with
  | block =>
      obtain ⟨barrier, harrive, hlone⟩ := arrive_lone hbarrier c
      refine ⟨barrier, w, ?_, hlone, hw⟩
      rw [arriveAt, harrive, ← hwarps]
  | warp =>
      obtain ⟨w', harrive, hlone⟩ := arrive_lone hw c
      refine ⟨t.barrier, w', ?_, hbarrier, hlone⟩
      rw [arriveAt, Nat.zero_div, hwarps]
      simp [harrive]

theorem leave_lonely {w : ω} {o : Except Error Unit} {scope : Scope} (hwarps : t.warps = #[w])
    (h : (Stage.leaving o scope).Passes t.barrier w) (failed : Bool) :
    ∃ barrier w', t.leave 0 scope failed = (.ok (), { t with barrier, warps := #[w'] }) ∧
      (Stage.afterLeaving o scope).Passes barrier w' := by
  cases scope with
  | block =>
      obtain ⟨hbarrier, hw⟩ := h
      obtain ⟨barrier, hleave, hspares⟩ := leave_lone hbarrier failed
      refine ⟨barrier, w, ?_, hspares, hw⟩
      rw [leave, hleave, ← hwarps]
  | warp =>
      obtain ⟨hspares, hw⟩ := h
      obtain ⟨w', hleave, hspares'⟩ := leave_lone hw failed
      refine ⟨t.barrier, w', ?_, hspares, hspares'⟩
      rw [leave, Nat.zero_div, hwarps]
      simp [hleave]

omit [Gate β] [Gate ω] [LoneGate β] [LoneGate ω] in
theorem outlook_arrive {st : Stage} {scope : Scope} {c : Option Contribution} {r : Resumption}
    (top : Nat) (journal : Array Observation)
    (hcalls : st.calls t.plan.reserver = some (scope, c, r)) (barrier : β) (warps : Array ω) :
    (moveTo { t with barrier, warps } 0 (r.stage (some (SoloGate.fold c)))).outlook
        ⟨r.stage (some (SoloGate.fold c)), top, journal⟩ =
      t.outlook ⟨st, top, journal⟩ := by
  cases Stage.calls_spec hcalls with
  | arrive => rfl
  | @allocate k n next hreserver =>
      simp only [outlook, Resumption.stage, moveTo, hreserver]
      rfl
  | closing => rfl

omit [Gate β] [Gate ω] [LoneGate β] [LoneGate ω] in
theorem outlook_publish {top : Nat} {journal : Array Observation} {k : ElementKind} {n : Nat}
    {next : Except Error SharedSlice → Program}
    (hfate : t.outlook ⟨.publishing k n next, top, journal⟩ = some fate)
    (reported : List Event) :
    (moveTo { t with
      top := Arena.grow t.plan.arena.capacity t.top k n
      published := some (Arena.answer t.plan.arena.capacity t.top k n).result
      reported } 0 (.closing k n next)).outlook ⟨.closing k n next, top, journal⟩ =
        some fate := by
  cases hreserver : t.plan.reserver with
  | lane => simp [outlook, hreserver] at hfate
  | master =>
      have hslice : Team.collected { t with
          top := Arena.grow t.plan.arena.capacity t.top k n
          published := some (Arena.answer t.plan.arena.capacity t.top k n).result
          reported } k n = (Arena.answer t.plan.arena.capacity t.top k n).slice :=
        collected_eq (a := Arena.answer t.plan.arena.capacity t.top k n) rfl
      rw [← hfate]
      simp only [outlook, record, Team.reserved, hreserver, Program.fate, Program.evaluate]
      rw [← hslice]
      simp only [moveTo, hreserver]
      rfl

theorem Lonely.eq_of_getElem? {lane : Nat} {m' : Member} (h : t.Lonely m fate)
    (hm : t.members[lane]? = some m') : lane = 0 ∧ m' = m := by
  rw [h.members_eq] at hm
  obtain ⟨hlt, rfl⟩ := Array.getElem?_eq_some_iff.mp hm
  obtain rfl : lane = 0 := Nat.lt_one_iff.mp hlt
  exact ⟨rfl, rfl⟩

theorem Lonely.step {lane : Nat} (h : t.Lonely m fate) (hstep : t.step lane = some t') :
    lane = 0 ∧ ∃ m', t'.Lonely m' fate := by
  obtain ⟨m₁, hm, hstep⟩ := exists_step hstep
  obtain ⟨rfl, rfl⟩ := h.eq_of_getElem? hm
  refine ⟨rfl, ?_⟩
  obtain ⟨hmembers, ⟨w, hwarps, hpasses⟩, hfate⟩ := h
  obtain ⟨stage, top, journal⟩ := m₁
  dsimp only at hstep hpasses
  cases hstep with
  | finish =>
      rw [conclude_eq]
      refine ⟨_, members_moveTo hmembers _, ⟨w, hwarps, hpasses⟩, ?_⟩
      rw [← hfate]
      rfl
  | @note entry next =>
      refine ⟨⟨.running next, top, journal.push entry⟩, ?_, ⟨w, hwarps, hpasses⟩, ?_⟩
      · rw [note, moveTo, hmembers]
        rfl
      · rw [← hfate]
        rfl
  | @arrive _ scope c r a t₁ hcalls harrive =>
      obtain ⟨barrier, w', harrive', hgates⟩ := arriveAt_calls hwarps hpasses hcalls
      obtain ⟨ha, rfl⟩ := Prod.mk.inj (harrive.symm.trans harrive')
      obtain rfl := Except.ok.inj ha
      refine ⟨_, members_moveTo hmembers _, ⟨w', rfl, ?_⟩, ?_⟩
      · cases r with
        | deliver | publish | collect => exact hgates
      · rw [← hfate]
        exact outlook_arrive top journal hcalls barrier #[w']
  | @refused _ scope c r f t₁ hcalls harrive =>
      obtain ⟨barrier, w', harrive', hgates⟩ := arriveAt_calls hwarps hpasses hcalls
      obtain ⟨hrefused, -⟩ := Prod.mk.inj (harrive.symm.trans harrive')
      cases hrefused
  | @reserve k n next hreserver =>
      obtain ⟨reported, hreserve⟩ := reserveAlone_eq hmembers k n next
      dsimp only at hreserve
      rw [hreserve]
      refine ⟨_, rfl, ⟨w, hwarps, hpasses⟩, ?_⟩
      rw [← hfate]
      simp only [outlook, record, Team.reserved, hreserver]
      rfl
  | @reserved next =>
      refine ⟨_, members_moveTo hmembers _, ⟨w, hwarps, hpasses⟩, ?_⟩
      rw [← hfate]
      rfl
  | @access place k a next x memory haccess =>
      refine ⟨_, members_moveTo hmembers _, ⟨w, hwarps, hpasses⟩, ?_⟩
      rw [← hfate]
      simp only [outlook, record, Program.fate, Program.evaluate, haccess]
      rfl
  | @fault place k a next f haccess =>
      rw [conclude_eq]
      refine ⟨_, members_moveTo hmembers _, ⟨w, hwarps, hpasses⟩, ?_⟩
      rw [← hfate]
      simp only [outlook, record, Program.fate, Program.evaluate, haccess]
      rfl
  | resume => cases hfate
  | @publish k n next =>
      rw [if_pos rfl]
      obtain ⟨reported, hpublish⟩ := t.publish_eq k n
      rw [hpublish]
      refine ⟨_, members_moveTo hmembers _, ⟨w, hwarps, hpasses⟩, ?_⟩
      exact outlook_publish hfate reported
  | @collect k n next =>
      refine ⟨_, members_moveTo hmembers _, ⟨w, hwarps, hpasses⟩, ?_⟩
      rw [← hfate]
      rfl
  | @leave o scope t₁ hleave =>
      obtain ⟨barrier, w', hleave', hgates⟩ := leave_lonely hwarps hpasses o.isOk.not
      obtain ⟨-, rfl⟩ := Prod.mk.inj (hleave.symm.trans hleave')
      refine ⟨_, members_moveTo hmembers _, ⟨w', rfl, hgates⟩, ?_⟩
      rw [← hfate]
      cases scope <;> rfl
  | @broken o scope f t₁ hleave =>
      obtain ⟨barrier, w', hleave', -⟩ := leave_lonely hwarps hpasses o.isOk.not
      obtain ⟨hbroken, -⟩ := Prod.mk.inj (hleave.symm.trans hleave')
      cases hbroken

omit [LoneGate β] [LoneGate ω] in
theorem stage_of_atRest (hmembers : t.members = #[m])
    (hfate : t.outlook m = some fate) (hrest : t.AtRest) :
    m.stage = .ended fate.1 ∧ t.record m = fate.2 := by
  have hm : t.members[0]? = some m := by rw [hmembers]; rfl
  obtain ⟨stage, top, journal⟩ := m
  rcases waits_of_step_eq_none (stage?_eq_some hm) (hrest 0) with
    ⟨o, ho⟩ | ⟨scope, g, r, g', hst, -⟩
  · dsimp only at ho
    subst ho
    obtain rfl := Option.some.inj hfate
    exact ⟨rfl, rfl⟩
  · dsimp only at hst
    subst hst
    cases hfate

theorem Lonely.spares (h : t.Lonely m fate) (hrest : t.AtRest) :
    Spares t.barrier ∧ ∃ w, t.warps = #[w] ∧ Spares w := by
  obtain ⟨w, hwarps, hpasses⟩ := h.gates
  rw [(stage_of_atRest h.members_eq h.outlook_eq hrest).1] at hpasses
  exact ⟨hpasses.1, w, hwarps, hpasses.2⟩

theorem Lonely.size_eq (h : t.Lonely m fate) : t.size = 1 := by
  rw [size, h.members_eq]
  rfl

end Team

end LaneGrid
