import LaneGrid.Proofs.Team.Gates

namespace LaneGrid

open MeetingGate

namespace Team

variable {β : Type} {g : Grouping}

/-- What a group knows of one of its lanes. -/
structure Attends (s : Group β) (i : Nat) (scope : Scope) (st : Stage) : Prop where
  left_iff : s.left i = true ↔ st.HasLeftAt scope
  held : Held (s.visits i) (st.awaitedAt scope)

theorem Attends.of_roams {s : Group β} {i : Nat} {scope : Scope} {st st' : Stage}
    (h : Attends s i scope st) (hst : st.Roams) (hst' : st'.Roams) : Attends s i scope st' where
  left_iff := h.left_iff.trans
    (iff_of_false (hst.not_hasLeftAt scope) (hst'.not_hasLeftAt scope))
  held := by
    rw [hst'.awaitedAt_eq, ← hst.awaitedAt_eq scope]
    exact h.held

theorem Attends.free {s : Group β} {i : Nat} {scope : Scope} {st : Stage}
    (h : Attends s i scope st) (hstays : ¬st.HasLeftAt scope)
    (hawaited : st.awaitedAt scope = none) : s.Free i := by
  have hheld := h.held
  rw [hawaited] at hheld
  exact ⟨Bool.eq_false_iff.mpr fun hleft => hstays (h.left_iff.mp hleft), hheld⟩

variable [Gate β] [MeetingGate β]

/-- The lanes of a team as a group for each gate. -/
structure Attended (g : Grouping) (t : Team β β) (groups : Option Nat → Group β) : Prop where
  warpSize_eq : t.plan.warpSize = g.warpSize
  lanes : ∀ lane, (t.stage? lane).isSome = true ↔ lane < g.lanes
  present : ∀ lane < g.lanes, ∀ scope,
    t.gate? (g.gateOf lane scope) = some (groups (g.gateOf lane scope)).gate
  sound : ∀ gate, (groups gate).Sound (g.crew gate)
  attends : ∀ lane st, t.stage? lane = some st → ∀ scope,
    Attends (groups (g.gateOf lane scope)) (g.seat lane scope) scope st

variable {t t' : Team β β} {groups : Option Nat → Group β} {lane : Nat} {st st' : Stage}
  {scope : Scope} {s' : Group β}

theorem Attended.seat_lt (h : t.Attended g groups) (htiled : g.Tiled)
    (hlane : t.stage? lane = some st) (scope : Scope) :
    g.seat lane scope < g.crew (g.gateOf lane scope) :=
  htiled.seat_lt ((h.lanes lane).mp (Option.isSome_of_eq_some hlane)) scope

theorem Attended.advance (h : t.Attended g groups) (hlane : t.stage? lane = some st)
    (hstage : t'.stage? = Function.update t.stage? lane (some st')) (hplan : t'.plan = t.plan)
    (hgates : t'.gate? = Function.update t.gate? (g.gateOf lane scope) (some s'.gate))
    (hsound : s'.Sound (g.crew (g.gateOf lane scope)))
    (hpeers : ∀ i ≠ g.seat lane scope,
      s'.visits i = (groups (g.gateOf lane scope)).visits i ∧
      s'.left i = (groups (g.gateOf lane scope)).left i)
    (hself : Attends s' (g.seat lane scope) scope st')
    (hother : ∀ scope' ≠ scope, (st'.HasLeftAt scope' ↔ st.HasLeftAt scope') ∧
      st'.awaitedAt scope' = st.awaitedAt scope') :
    t'.Attended g (Function.update groups (g.gateOf lane scope) s') := by
  constructor
  case warpSize_eq => rw [hplan]; exact h.warpSize_eq
  case lanes =>
    intro peer
    rw [← h.lanes peer, hstage]
    by_cases hpeer : peer = lane
    · rw [hpeer, Function.update_self, hlane]
      rfl
    · rw [Function.update_of_ne hpeer]
  case present =>
    intro peer hpeer scope'
    rw [hgates]
    by_cases hgate : g.gateOf peer scope' = g.gateOf lane scope
    · rw [hgate, Function.update_self, Function.update_self]
    · rw [Function.update_of_ne hgate, Function.update_of_ne hgate]
      exact h.present peer hpeer scope'
  case sound =>
    exact (Function.forall_update_iff groups fun gate s => s.Sound (g.crew gate)).mpr
      ⟨hsound, fun gate _ => h.sound gate⟩
  case attends =>
    intro peer st₁ hst₁ scope'
    rw [hstage] at hst₁
    by_cases hpeer : peer = lane
    · subst hpeer
      rw [Function.update_self] at hst₁
      obtain rfl := Option.some.inj hst₁
      by_cases hscope : scope' = scope
      · subst hscope
        rw [Function.update_self]
        exact hself
      · obtain ⟨hleft, hawaited⟩ := hother scope' hscope
        have hold := h.attends peer st hlane scope'
        rw [Function.update_of_ne (g.gateOf_ne peer peer hscope)]
        exact ⟨hold.left_iff.trans hleft.symm, hawaited ▸ hold.held⟩
    · rw [Function.update_of_ne hpeer] at hst₁
      have hold := h.attends peer st₁ hst₁ scope'
      by_cases hgate : g.gateOf peer scope' = g.gateOf lane scope
      · obtain rfl : scope' = scope :=
          not_not.mp fun hne => g.gateOf_ne peer lane hne hgate
        obtain ⟨hvisits, hleft⟩ := hpeers _ (Grouping.seat_ne hgate hpeer)
        rw [hgate] at hold ⊢
        rw [Function.update_self]
        refine ⟨?_, ?_⟩
        · rw [hleft]
          exact hold.left_iff
        · rw [hvisits]
          exact hold.held
      · rw [Function.update_of_ne hgate]
        exact hold

theorem Attended.arrives (h : t.Attended g groups) (htiled : g.Tiled)
    (hlane : t.stage? lane = some st) (hst : st.Roams) {c : Option Contribution} {a : Arrival}
    {r : Resumption} {b' : β}
    (hstage : t'.stage? = Function.update t.stage? lane (some (a.stageAt scope r)))
    (hplan : t'.plan = t.plan)
    (hgates : t'.gate? = Function.update t.gate? (g.gateOf lane scope) (some b'))
    (harrive : Gate.arrive (groups (g.gateOf lane scope)).gate c = (.ok a, b')) :
    Group.Step (g.crew (g.gateOf lane scope)) (groups (g.gateOf lane scope))
        ((groups (g.gateOf lane scope)).arrived (g.seat lane scope) c a b') ∧
      t'.Attended g (Function.update groups (g.gateOf lane scope)
        ((groups (g.gateOf lane scope)).arrived (g.seat lane scope) c a b')) := by
  have hseat := h.seat_lt htiled hlane scope
  have hattends := h.attends lane st hlane scope
  have hfree := hattends.free (hst.not_hasLeftAt scope) (hst.awaitedAt_eq scope)
  have hvisits := Group.visits_arrived (groups (g.gateOf lane scope)) (g.seat lane scope) c a b'
  refine ⟨.arrive hseat hfree harrive, h.advance hlane hstage hplan hgates
    ((h.sound _).arrived hseat hfree harrive) ?_ ⟨?_, ?_⟩ fun scope' hscope => ⟨?_, ?_⟩⟩
  · intro i hi
    rw [hvisits, Function.update_of_ne hi]
    exact ⟨rfl, rfl⟩
  · exact hattends.left_iff.trans (iff_of_false (hst.not_hasLeftAt scope)
      (Stage.not_hasLeftAt_stageAt a scope r scope))
  · have hheld := hattends.held
    rw [hst.awaitedAt_eq] at hheld
    rw [hvisits, Function.update_self, Stage.awaitedAt_stageAt_self]
    exact hheld.concat _
  · exact iff_of_false (Stage.not_hasLeftAt_stageAt a scope r scope') (hst.not_hasLeftAt scope')
  · rw [Stage.awaitedAt_stageAt_of_ne a r hscope, hst.awaitedAt_eq]

theorem Attended.looks (h : t.Attended g groups) {generation : Word} {r : Resumption}
    {w : Option Word} (hlane : t.stage? lane = some (.waiting scope generation r))
    (hstage : t'.stage? = Function.update t.stage? lane (some (r.stage w)))
    (hplan : t'.plan = t.plan) (hgates : t'.gate? = t.gate?)
    (hlook : Gate.look (groups (g.gateOf lane scope)).gate generation = .released w) :
    ∃ earlier v, (groups (g.gateOf lane scope)).visits (g.seat lane scope) = earlier ++ [v] ∧
      v.answer = .waiting generation ∧ t'.Attended g (Function.update groups (g.gateOf lane scope)
        ((groups (g.gateOf lane scope)).looked (g.seat lane scope) earlier
          { v with answer := .released w })) := by
  have hattends := h.attends lane _ hlane scope
  have hheld := hattends.held
  rw [Stage.awaitedAt, if_pos rfl] at hheld
  obtain ⟨earlier, v, hvisits, hwaiting, hearlier⟩ := hheld
  have hupdate : ((groups (g.gateOf lane scope)).looked (g.seat lane scope) earlier
      { v with answer := .released w }).visits =
        Function.update (groups (g.gateOf lane scope)).visits (g.seat lane scope)
          (earlier ++ [{ v with answer := .released w }]) := rfl
  have hroams := Stage.roams_stage r w
  have hsound := (h.sound (g.gateOf lane scope)).looked hvisits hwaiting
  rw [hlook] at hsound
  refine ⟨earlier, v, hvisits, hwaiting, h.advance hlane hstage hplan ?_ hsound ?_ ⟨?_, ?_⟩
    fun scope' hscope => ⟨?_, ?_⟩⟩
  · have hgate := h.present lane ((h.lanes lane).mp (Option.isSome_of_eq_some hlane)) scope
    rw [hgates, ← Function.update_eq_self (g.gateOf lane scope) t.gate?, hgate]
    rw [Function.update_idem]
    rfl
  · intro i hi
    rw [hupdate, Function.update_of_ne hi]
    exact ⟨rfl, rfl⟩
  · refine hattends.left_iff.trans (iff_of_false ?_ (hroams.not_hasLeftAt scope))
    cases scope <;> exact nofun
  · have hreleased : Held earlier none := hearlier
    rw [hupdate, Function.update_self, hroams.awaitedAt_eq]
    exact hreleased.concat { v with answer := .released w }
  · refine iff_of_false (hroams.not_hasLeftAt scope') ?_
    cases scope' <;> exact nofun
  · rw [hroams.awaitedAt_eq, Stage.awaitedAt, if_neg (Ne.symm hscope)]

theorem Attended.leaves (h : t.Attended g groups) (htiled : g.Tiled) {o : Except Error Unit}
    (hlane : t.stage? lane = some (.leaving o scope))
    (hstage : t'.stage? = Function.update t.stage? lane (some (.afterLeaving o scope)))
    (hplan : t'.plan = t.plan)
    (hgates : t'.gate? = Function.update t.gate? (g.gateOf lane scope)
      (some (Gate.leave (groups (g.gateOf lane scope)).gate o.isOk.not).2)) :
    Group.Step (g.crew (g.gateOf lane scope)) (groups (g.gateOf lane scope))
        ((groups (g.gateOf lane scope)).gone (g.seat lane scope) o.isOk.not) ∧
      t'.Attended g (Function.update groups (g.gateOf lane scope)
        ((groups (g.gateOf lane scope)).gone (g.seat lane scope) o.isOk.not)) := by
  have hseat := h.seat_lt htiled hlane scope
  have hattends := h.attends lane _ hlane scope
  have hfree := hattends.free (Stage.not_hasLeftAt_leaving o scope) rfl
  have hupdate : ((groups (g.gateOf lane scope)).gone (g.seat lane scope) o.isOk.not).left =
      Function.update (groups (g.gateOf lane scope)).left (g.seat lane scope) true := rfl
  refine ⟨.leave hseat hfree _, h.advance hlane hstage hplan hgates
    ((h.sound _).gone hseat hfree _) ?_ ⟨?_, ?_⟩ fun scope' hscope => ⟨?_, ?_⟩⟩
  · intro i hi
    rw [hupdate, Function.update_of_ne hi]
    exact ⟨rfl, rfl⟩
  · rw [hupdate, Function.update_self]
    exact iff_of_true rfl (Stage.hasLeftAt_afterLeaving o scope)
  · cases scope <;> exact hattends.held
  · exact Stage.hasLeftAt_afterLeaving_of_ne o hscope
  · cases scope <;> rfl

theorem Attended.spares (h : t.Attended g groups) (hlane : t.stage? lane = some st)
    (hst : st.Roams) (hst' : st'.Roams)
    (hstage : t'.stage? = Function.update t.stage? lane (some st')) (hplan : t'.plan = t.plan)
    (hgates : t'.gate? = t.gate?) : t'.Attended g groups := by
  have hgate := h.present lane ((h.lanes lane).mp (Option.isSome_of_eq_some hlane)) .block
  have hsame : t'.Attended g (Function.update groups (g.gateOf lane .block)
      (groups (g.gateOf lane .block))) := by
    refine h.advance hlane hstage hplan ?_ (h.sound _) (fun _ _ => ⟨rfl, rfl⟩)
      ((h.attends lane st hlane .block).of_roams hst hst') fun scope' _ => ⟨?_, ?_⟩
    · rw [hgates, ← hgate, Function.update_eq_self]
    · exact iff_of_false (hst'.not_hasLeftAt scope') (hst.not_hasLeftAt scope')
    · rw [hst.awaitedAt_eq, hst'.awaitedAt_eq]
  rwa [Function.update_eq_self] at hsame

/-- What one step of a lane does to the groups of its gates. -/
inductive Moves (g : Grouping) (reserver : Reserver) (groups : Option Nat → Group β) (lane : Nat) :
    Stage → Stage → (Option Nat → Group β) → Prop
  | spares {st st' : Stage} (hcalls : st.calls reserver = none) (hst : st.Roams)
      (hst' : st'.Roams) : Moves g reserver groups lane st st' groups
  | arrives {st : Stage} {scope : Scope} {c : Option Contribution} {a : Arrival} {r : Resumption}
      {b : β} (hcalls : st.calls reserver = some (scope, c, r))
      (hfree : (groups (g.gateOf lane scope)).Free (g.seat lane scope))
      (h : Gate.arrive (groups (g.gateOf lane scope)).gate c = (.ok a, b)) :
      Moves g reserver groups lane st (a.stageAt scope r)
        (Function.update groups (g.gateOf lane scope)
          ((groups (g.gateOf lane scope)).arrived (g.seat lane scope) c a b))
  | looks {scope : Scope} {generation : Word} {r : Resumption} {w : Option Word}
      {earlier : List Visit} {v : Visit}
      (hvisits : (groups (g.gateOf lane scope)).visits (g.seat lane scope) = earlier ++ [v])
      (hwaiting : v.answer = .waiting generation)
      (h : Gate.look (groups (g.gateOf lane scope)).gate generation = .released w) :
      Moves g reserver groups lane (.waiting scope generation r) (r.stage w)
        (Function.update groups (g.gateOf lane scope)
          ((groups (g.gateOf lane scope)).looked (g.seat lane scope) earlier
            { v with answer := .released w }))
  | leaves {o : Except Error Unit} {scope : Scope}
      (hfree : (groups (g.gateOf lane scope)).Free (g.seat lane scope))
      (h : (Gate.leave (groups (g.gateOf lane scope)).gate o.isOk.not).1 = .ok ()) :
      Moves g reserver groups lane (.leaving o scope) (.afterLeaving o scope)
        (Function.update groups (g.gateOf lane scope)
          ((groups (g.gateOf lane scope)).gone (g.seat lane scope) o.isOk.not))

end Team

/-- A lane that has failed, and has told the lanes of its block. -/
def Stage.Failed (st : Stage) : Prop :=
  ∃ e, st = .leaving (.error e) .warp ∨ st = .ended (.error e)

theorem Stage.Roams.not_failed {st : Stage} (h : st.Roams) : ¬st.Failed := by
  rintro ⟨e, rfl | rfl⟩
  · exact h
  · exact h

theorem Stage.failed_afterLeaving (e : Error) (scope : Scope) :
    (afterLeaving (.error e) scope).Failed := by
  cases scope with
  | block => exact ⟨e, .inl rfl⟩
  | warp => exact ⟨e, .inr rfl⟩

theorem Stage.Failed.afterLeaving {o : Except Error Unit} {scope : Scope}
    (h : (leaving o scope).Failed) : (afterLeaving o scope).Failed := by
  obtain ⟨e, he | he⟩ := h
  · obtain ⟨rfl, rfl⟩ := Stage.leaving.inj he
    exact failed_afterLeaving e .warp
  · cases he

namespace Team

variable {g : Grouping} {t t' : Team ThreadBarrier ThreadBarrier}
  {groups : Option Nat → Group ThreadBarrier} {lane : Nat}

def HasFailure (t : Team ThreadBarrier ThreadBarrier) : Prop :=
  ∃ lane st, t.stage? lane = some st ∧ st.Failed

/-- A team of lanes that have threads of their own, with what its barriers know of the lanes. -/
structure Orderly (g : Grouping) (t : Team ThreadBarrier ThreadBarrier)
    (groups : Option Nat → Group ThreadBarrier) : Prop extends Attended g t groups where
  accounts : ∀ gate, (groups gate).Accounts (g.crew gate)
  /-- A barrier is closed when it gives up its lanes, and when a lane fails. -/
  blames : ∀ gate, (groups gate).gate.poisoned = true →
    (groups gate).gate.stranded ≠ none ∨ t.HasFailure

theorem HasFailure.mono (h : t.HasFailure) {st st' : Stage} (hlane : t.stage? lane = some st)
    (hstage : t'.stage? = Function.update t.stage? lane (some st'))
    (hkeeps : st.Failed → st'.Failed) : t'.HasFailure := by
  obtain ⟨peer, st₁, hst₁, hfailed⟩ := h
  by_cases hpeer : peer = lane
  · subst hpeer
    obtain rfl := Option.some.inj (hlane.symm.trans hst₁)
    exact ⟨peer, st', by rw [hstage, Function.update_self], hkeeps hfailed⟩
  · exact ⟨peer, st₁, by rw [hstage, Function.update_of_ne hpeer, hst₁], hfailed⟩

theorem Orderly.of_update {scope : Scope} {s' : Group ThreadBarrier} (h : t.Orderly g groups)
    (hattended : t'.Attended g (Function.update groups (g.gateOf lane scope) s'))
    (hstep : Group.Step (g.crew (g.gateOf lane scope)) (groups (g.gateOf lane scope)) s')
    (hfailure : t.HasFailure → t'.HasFailure)
    (hblames : s'.gate.poisoned = true → s'.gate.stranded ≠ none ∨ t'.HasFailure) :
    t'.Orderly g (Function.update groups (g.gateOf lane scope) s') := by
  refine ⟨hattended, ?_, ?_⟩
  · exact (Function.forall_update_iff groups fun gate s => s.Accounts (g.crew gate)).mpr
      ⟨hstep.accounts (h.sound _) (h.accounts _), fun gate _ => h.accounts gate⟩
  · exact (Function.forall_update_iff groups fun _ s =>
      s.gate.poisoned = true → s.gate.stranded ≠ none ∨ t'.HasFailure).mpr
      ⟨hblames, fun gate _ hclosed => (h.blames gate hclosed).imp_right hfailure⟩

theorem Orderly.moves (h : t.Orderly g groups) (htiled : g.Tiled)
    (hstep : t.step lane = some t') : ∃ st st' groups', t.stage? lane = some st ∧
      t'.stage? = Function.update t.stage? lane (some st') ∧
      Moves g t.plan.reserver groups lane st st' groups' ∧ t'.Orderly g groups' := by
  obtain ⟨m, hm, hstep⟩ := exists_step hstep
  have hlane := stage?_eq_some hm
  have hlt : lane < g.lanes := (h.lanes lane).mp (Option.isSome_of_eq_some hlane)
  obtain ⟨st', hstage, hplan, herrand⟩ := step_errand hlane h.warpSize_eq
    (fun scope => Option.isSome_of_eq_some (h.present lane hlt scope)) hstep
  generalize m.stage = st at hlane hstage herrand
  have hpresent {scope : Scope} {b : ThreadBarrier}
      (hb : t.gate? (g.gateOf lane scope) = some b) : (groups (g.gateOf lane scope)).gate = b :=
    Option.some.inj ((h.present lane hlt scope).symm.trans hb)
  have hmono (hkeeps : st.Failed → st'.Failed) (hfailure : t.HasFailure) : t'.HasFailure :=
    hfailure.mono hlane hstage hkeeps
  generalize hgates : t'.gate? = gates' at herrand
  refine ⟨st, st', ?_⟩
  cases herrand with
  | spares hcalls hst hst' =>
      have hkeeps := hmono fun hfailed => absurd hfailed hst.not_failed
      exact ⟨groups, hlane, hstage, .spares hcalls hst hst',
        h.toAttended.spares hlane hst hst' hstage hplan hgates, h.accounts,
        fun gate hclosed => (h.blames gate hclosed).imp_right hkeeps⟩
  | @arrives _ scope c a r b b' hcalls hgate harrive =>
      have hst := Stage.roams_of_calls hcalls
      rw [← hpresent hgate] at harrive
      obtain ⟨hgroup, hattended⟩ :=
        h.toAttended.arrives htiled hlane hst hstage hplan hgates harrive
      have hfree := (h.attends lane _ hlane scope).free (hst.not_hasLeftAt scope)
        (hst.awaitedAt_eq scope)
      have hsettles := (h.accounts _).settles_arrive (h.sound _) (h.seat_lt htiled hlane scope)
        hfree c
      rw [harrive] at hsettles
      have hkeeps := hmono fun hfailed => absurd hfailed hst.not_failed
      exact ⟨_, hlane, hstage, .arrives hcalls hfree harrive,
        h.of_update hattended hgroup hkeeps
          (hsettles.blame fun hclosed => (h.blames _ hclosed).imp_right hkeeps)⟩
  | @refused _ _ scope c r f b b' _ hcalls hgate harrive =>
      have hst := Stage.roams_of_calls hcalls
      have hfree := (h.attends lane _ hlane scope).free (hst.not_hasLeftAt scope)
        (hst.awaitedAt_eq scope)
      obtain ⟨a, b₁, hok⟩ := (h.sound _).arrives (h.seat_lt htiled hlane scope) hfree c
      rw [hpresent hgate, harrive] at hok
      cases hok
  | @looks scope generation r w b hgate hlook =>
      rw [← hpresent hgate] at hlook
      obtain ⟨earlier, v, hvisits, hwaiting, hattended⟩ :=
        h.toAttended.looks hlane hstage hplan hgates hlook
      have hgroup := Group.Step.look (n := g.crew (g.gateOf lane scope)) hvisits hwaiting
      rw [hlook] at hgroup
      have hkeeps := hmono fun ⟨e, he⟩ => he.elim nofun nofun
      exact ⟨_, hlane, hstage, .looks hvisits hwaiting hlook,
        h.of_update hattended hgroup hkeeps fun hclosed => (h.blames _ hclosed).imp_right hkeeps⟩
  | @leaves o scope b b' hgate hleave =>
      rw [← hpresent hgate] at hleave
      have hb' : (Gate.leave (groups (g.gateOf lane scope)).gate o.isOk.not).2 = b' :=
        congrArg Prod.snd hleave
      obtain ⟨hgroup, hattended⟩ :=
        h.toAttended.leaves htiled hlane hstage hplan (hb'.symm ▸ hgates)
      have hfree := (h.attends lane _ hlane scope).free (Stage.not_hasLeftAt_leaving _ scope) rfl
      have hkeeps := hmono Stage.Failed.afterLeaving
      refine ⟨_, hlane, hstage, .leaves hfree (congrArg Prod.fst hleave),
        h.of_update hattended hgroup hkeeps fun hclosed => ?_⟩
      rcases o with e | _
      · refine .inr ⟨lane, _, ?_, Stage.failed_afterLeaving e scope⟩
        rw [hstage, Function.update_self]
      · exact ((h.accounts _).settles_leave (h.sound _) (h.seat_lt htiled hlane scope)
          hfree).blame (fun hclosed => (h.blames _ hclosed).imp_right hkeeps) hclosed
  | @broken o _ scope f b b' _ hgate hleave =>
      have hfree := (h.attends lane _ hlane scope).free (Stage.not_hasLeftAt_leaving o scope) rfl
      have hok := leave_ok ((h.sound _).departed_lt (h.seat_lt htiled hlane scope) hfree) o.isOk.not
      rw [hpresent hgate, hleave] at hok
      cases hok

theorem Orderly.step (h : t.Orderly g groups) (htiled : g.Tiled) (hstep : t.step lane = some t') :
    ∃ groups', t'.Orderly g groups' := by
  obtain ⟨-, -, groups', -, -, -, h'⟩ := h.moves htiled hstep
  exact ⟨groups', h'⟩

end Team

end LaneGrid
