import Mathlib.Data.List.Nodup
import Mathlib.Data.List.Perm.Subperm
import LaneGrid.Proofs.Phase.Score
import LaneGrid.Proofs.Shared.Standing

/-!
How the lanes of a block stand to each other at an open barrier: each is somewhere on its own way
through the current phase, and none is ahead of another by more than one visit to the barrier.
-/

namespace LaneGrid

open Deed

namespace Stage

/-- Where a lane stands once it has noticed that the meeting is over for which it waits. -/
def awake (m : Rendezvous) : Stage → Stage
  | waiting .block g r => if m.generation ≠ g then r.stage (some m.result) else waiting .block g r
  | st => st

/-- Between the two visits to the barrier that a request takes. -/
def isHalf : Stage → Bool
  | waiting .block _ (.collect _ _ _) => true
  | publishing _ _ _ => true
  | closing _ _ _ => true
  | _ => false

/-- Joint deeds that the lane has begun before all of its peers have. -/
def ahead : Stage → Nat
  | waiting .block _ (.deliver _) => 1
  | waiting .block _ (.publish _ _ _) => 1
  | _ => 0

theorem awake_of_awaited {st : Stage} (h : st.awaited = none) (m : Rendezvous) :
    st.awake m = st := by
  cases st with
  | waiting scope g r =>
      cases scope with
      | block => cases h
      | warp => rfl
  | _ => rfl

theorem unanswered_awake (st : Stage) (m : Rendezvous) :
    (st.awake m).unanswered = st.unanswered := by
  cases st with
  | waiting scope g r =>
      cases scope with
      | block =>
          rw [awake]
          split
          · exact r.unanswered_stage (.released _)
          · rfl
      | warp => rfl
  | _ => rfl

theorem ahead_of_awaited {st : Stage} (h : st.awaited = none) : st.ahead = 0 := by
  cases st with
  | waiting scope g r =>
      cases scope with
      | block => cases h
      | warp => rfl
  | _ => rfl

theorem stays_of_passes {st : Stage} {reserver : Reserver} {r : Option Contribution × Resumption}
    (h : st.passes reserver = some r) : ¬st.HasLeft := by
  intro hleft
  cases st with
  | leaving => cases h
  | ended => cases h
  | _ => exact hleft

theorem awaited_of_passes {st : Stage} {reserver : Reserver} {r : Option Contribution × Resumption}
    (h : st.passes reserver = some r) : st.awaited = none := by
  cases st with
  | waiting => cases h
  | _ => rfl

theorem awaited_of_hasLeft {st : Stage} (h : st.HasLeft) : st.awaited = none := by
  cases st with
  | leaving => rfl
  | ended => rfl
  | _ => exact h.elim

end Stage

theorem Resumption.awake_stage (r : Resumption) (w : Option Word) (m : Rendezvous) :
    (r.stage w).awake m = r.stage w :=
  Stage.awake_of_awaited (r.awaited_stage w) m

/-- Where a lane stands that has come to `s` by itself, and the joint deed with which it is not yet
through. Lanes wait for generation `g`, and `tell` is what they say of their outcomes. -/
inductive Stand (tell : Outcome Unit → Except Error Unit) (reserver : Reserver) (g : Word)
    (s : Solo) : Stage → List Deed → Prop
  | running : Stand tell reserver g s (.running s.program) []
  | meets {c : Option Contribution} {next : Word → Program}
      (h : s.program = .arrive .block c next) :
      Stand tell reserver g s (.waiting .block g (.deliver next)) [.meet (c.map (·.reduction))]
  | asks {k : ElementKind} {n : Nat} {next : Except Error SharedSlice → Program}
      (hmaster : reserver = .master) (h : s.program = .allocate k n next) :
      Stand tell reserver g s (.waiting .block g (.publish k n next)) [.request k n]
  | publishing {k : ElementKind} {n : Nat} {next : Except Error SharedSlice → Program}
      (hmaster : reserver = .master) (h : s.program = .allocate k n next) :
      Stand tell reserver g s (.publishing k n next) [.request k n]
  | closing {k : ElementKind} {n : Nat} {next : Except Error SharedSlice → Program}
      (hmaster : reserver = .master) (h : s.program = .allocate k n next) :
      Stand tell reserver g s (.closing k n next) [.request k n]
  | closes {k : ElementKind} {n : Nat} {next : Except Error SharedSlice → Program}
      (hmaster : reserver = .master) (h : s.program = .allocate k n next) :
      Stand tell reserver g s (.waiting .block g (.collect k n next)) [.request k n]
  | collecting {k : ElementKind} {n : Nat} {next : Except Error SharedSlice → Program}
      (hmaster : reserver = .master) (h : s.program = .allocate k n next) :
      Stand tell reserver g s (.collecting k n next) [.request k n]
  | leaving {o : Outcome Unit} {o' : Except Error Unit} {scope : Scope}
      (h : s.program = .finish o) (ho : o' = tell o) :
      Stand tell reserver g s (.leaving o' scope) []
  | ended {o : Outcome Unit} {o' : Except Error Unit} (h : s.program = .finish o)
      (ho : o' = tell o) : Stand tell reserver g s (.ended o') []

namespace Stand

variable {tell : Outcome Unit → Except Error Unit} {reserver : Reserver} {g : Word} {s : Solo}
  {st : Stage} {pending : List Deed}

theorem awaited_eq (h : Stand tell reserver g s st pending) {g' : Word}
    (hg : st.awaited = some g') : ∃ r, st = .waiting .block g r ∧ g' = g := by
  cases h with
  | meets | asks | closes => exact ⟨_, rfl, (Option.some.inj hg).symm⟩
  | _ => cases hg

theorem pass (h : Stand tell reserver g s st pending) {c : Option Contribution} {r : Resumption}
    (hpasses : st.passes reserver = some (c, r)) :
    Stand tell reserver g s (.waiting .block g r) (pending ++ st.deed?.toList) ∧ s.gift = c ∧
      st.awaited = none ∧ (Stage.waiting .block g r).isHalf = st.isHalf ∧
      (Stage.waiting .block g r).ahead = (joint reserver st.deed?.toList).length + st.ahead ∧
      st.unanswered ++ requests st.deed?.toList = (Stage.waiting .block g r).unanswered := by
  cases h with
  | running =>
      rcases hprogram : s.program with o | ⟨e, next⟩ | ⟨_ | _, c', next⟩ | ⟨k, n, next⟩ | next |
        ⟨p, k, a, next⟩
      all_goals rw [hprogram] at hpasses
      · cases hpasses
      · cases hpasses
      · obtain ⟨rfl, rfl⟩ := Prod.mk.inj (Option.some.inj hpasses)
        refine ⟨.meets hprogram, ?_, rfl, rfl, rfl, rfl⟩
        rw [Solo.gift, hprogram]
      · cases hpasses
      · cases reserver with
        | lane => cases hpasses
        | master =>
            obtain ⟨rfl, rfl⟩ := Prod.mk.inj (Option.some.inj hpasses)
            refine ⟨.asks rfl hprogram, ?_, rfl, rfl, rfl, rfl⟩
            rw [Solo.gift, hprogram]
      · cases hpasses
      · cases hpasses
  | closing hmaster hprogram =>
      obtain ⟨rfl, rfl⟩ := Prod.mk.inj (Option.some.inj hpasses)
      refine ⟨.closes hmaster hprogram, ?_, rfl, rfl, rfl, rfl⟩
      rw [Solo.gift, hprogram]
  | _ => cases hpasses

end Stand

def Waits (now : Nat → Option Stage) (i : Nat) : Prop :=
  ∃ st, now i = some st ∧ st.awaited.isSome = true

def Gone (now : Nat → Option Stage) (i : Nat) : Prop :=
  ∃ st, now i = some st ∧ st.HasLeft

/-- The lanes that wait have come one after the other, and have brought what is gathered. -/
def Present (solo : Nat → Solo) (now : Nat → Option Stage) (m : Rendezvous) : Prop :=
  ∃ order : List Nat, order.Nodup ∧ (∀ i, i ∈ order ↔ Waits now i) ∧ m.arrived = order.length ∧
    m.gathered = Rendezvous.collect (order.map fun i => (solo i).gift)

/-- No more lanes are known to have gone than have. -/
def Departed (now : Nat → Option Stage) (departed : Nat) : Prop :=
  ∃ gone : List Nat, gone.Nodup ∧ (∀ i ∈ gone, Gone now i) ∧ departed ≤ gone.length

section

variable {solo : Nat → Solo} {now : Nat → Option Stage} {m : Rendezvous} {departed lane : Nat}
  {st st' : Stage}

theorem waits_update (hst : now lane = some st) (h : st'.awaited.isSome = st.awaited.isSome)
    (i : Nat) : Waits (Function.update now lane (some st')) i ↔ Waits now i := by
  by_cases hi : i = lane
  · subst hi
    rw [Waits, Function.update_self, Waits, hst]
    constructor
    · rintro ⟨_, hst', hwaits⟩
      obtain rfl := Option.some.inj hst'
      exact ⟨st, rfl, h ▸ hwaits⟩
    · rintro ⟨_, hst', hwaits⟩
      obtain rfl := Option.some.inj hst'
      exact ⟨st', rfl, h ▸ hwaits⟩
  · rw [Waits, Function.update_of_ne hi]
    rfl

theorem not_waits (hst : now lane = some st) (h : st.awaited = none) : ¬Waits now lane := by
  rintro ⟨_, hst', hwaits⟩
  obtain rfl := Option.some.inj (hst.symm.trans hst')
  rw [h] at hwaits
  cases hwaits

theorem map_gift_update {order : List Nat} (h : lane ∉ order) (x : Solo) :
    (order.map fun i => (Function.update solo lane x i).gift) =
      order.map fun i => (solo i).gift := by
  refine List.map_congr_left fun i hi => ?_
  have hne : i ≠ lane := fun heq => h (heq ▸ hi)
  rw [Function.update_of_ne hne]

theorem Present.update (h : Present solo now m) (hst : now lane = some st)
    (hcalm : st.awaited = none) (hcalm' : st'.awaited = none) (x : Solo) :
    Present (Function.update solo lane x) (Function.update now lane (some st')) m := by
  obtain ⟨order, hnodup, hmem, harrived, hgathered⟩ := h
  have hlane : lane ∉ order := fun hlane => not_waits hst hcalm ((hmem lane).mp hlane)
  refine ⟨order, hnodup, fun i => ?_, harrived, ?_⟩
  · rw [waits_update hst (by rw [hcalm, hcalm'])]
    exact hmem i
  · rw [hgathered, map_gift_update hlane]

theorem Present.concat (h : Present solo now m) (hst : now lane = some st)
    (hcalm : st.awaited = none) (hwaits : st'.awaited.isSome = true) :
    Present solo (Function.update now lane (some st'))
      { m with arrived := m.arrived + 1, gathered := m.gather (solo lane).gift } := by
  obtain ⟨order, hnodup, hmem, harrived, hgathered⟩ := h
  have hlane : lane ∉ order := fun hlane => not_waits hst hcalm ((hmem lane).mp hlane)
  refine ⟨order ++ [lane], ?_, fun i => ?_, ?_, ?_⟩
  · exact List.nodup_append.mpr ⟨hnodup, List.nodup_singleton _, fun i hi j hj heq =>
      hlane (List.mem_singleton.mp hj ▸ heq ▸ hi)⟩
  · rw [List.mem_append, List.mem_singleton, hmem]
    by_cases hi : i = lane
    · subst hi
      refine ⟨fun _ => ⟨st', Function.update_self .., hwaits⟩, fun _ => .inr rfl⟩
    · rw [Waits, Waits, Function.update_of_ne hi]
      exact ⟨fun h => h.resolve_right hi, .inl⟩
  · rw [List.length_append, harrived]
    rfl
  · have hlength : m.arrived = (order.map fun i => (solo i).gift).length := by
      rw [harrived, List.length_map]
    rw [List.map_append]
    exact Rendezvous.collect_concat hlength hgathered _

theorem gone_update (hst : now lane = some st) (h : st.HasLeft → st'.HasLeft) {i : Nat}
    (hgone : Gone now i) : Gone (Function.update now lane (some st')) i := by
  by_cases hi : i = lane
  · subst hi
    obtain ⟨_, hst', hleft⟩ := hgone
    obtain rfl := Option.some.inj (hst.symm.trans hst')
    exact ⟨st', Function.update_self .., h hleft⟩
  · rw [Gone, Function.update_of_ne hi]
    exact hgone

theorem Departed.update (h : Departed now departed) (hst : now lane = some st)
    (hleft : st.HasLeft → st'.HasLeft) {departed' : Nat} (hle : departed' ≤ departed) :
    Departed (Function.update now lane (some st')) departed' := by
  obtain ⟨gone, hnodup, hgone, hlength⟩ := h
  exact ⟨gone, hnodup, fun i hi => gone_update hst hleft (hgone i hi), hle.trans hlength⟩

theorem Departed.cons (h : Departed now departed) (hst : now lane = some st)
    (hstays : ¬st.HasLeft) (hleft : st'.HasLeft) {departed' : Nat}
    (hle : departed' ≤ departed + 1) :
    Departed (Function.update now lane (some st')) departed' := by
  obtain ⟨gone, hnodup, hgone, hlength⟩ := h
  refine ⟨lane :: gone, List.nodup_cons.mpr ⟨fun hlane => ?_, hnodup⟩, fun i hi => ?_, ?_⟩
  · obtain ⟨_, hst', hgone⟩ := hgone lane hlane
    obtain rfl := Option.some.inj (hst.symm.trans hst')
    exact hstays hgone
  · rcases List.mem_cons.mp hi with rfl | hi
    · exact ⟨st', Function.update_self .., hleft⟩
    · exact gone_update hst (fun h => absurd h hstays) (hgone i hi)
  · rw [List.length_cons]
    omega

end

/-- The lanes of a block in phase `φ`. Of lane `i` we know how far it has come by itself (`solo i`),
its deeds, and where it stands once it is awake. -/
structure Ranks (σ : Score) (reserver : Reserver) (φ : Nat) (solo : Nat → Solo)
    (log : Nat → List Deed) (now : Nat → Option Stage) (m : Rendezvous) (departed : Nat) :
    Prop where
  size_eq : m.size = max σ.lanes 1
  lanes : ∀ i, (now i).isSome = true ↔ i < σ.lanes
  stands : ∀ i st, now i = some st → ∃ pending,
    Stand (told σ.block i) reserver m.generation (solo i) st pending ∧
      log i = (solo i).log ++ pending
  onWay : ∀ i < σ.lanes, σ.rest (solo i) = σ.close φ i
  meets_eq : ∀ i < σ.lanes, meets (solo i).log = φ
  level : ∃ count half, ∀ i st, now i = some st →
    st.isHalf = half ∧ (joint reserver (log i)).length = count + st.ahead
  present : Present solo now m
  departed_le : Departed now departed

/-- What brings all lanes of a block to the barrier at the same time. -/
inductive Turnout (σ : Score) (reserver : Reserver) (solo : Nat → Solo) (log : Nat → List Deed)
    (now : Nat → Option Stage) (g : Word) : Prop
  | meets (reduction : Option Reduction)
      (h : ∀ i < σ.lanes, ∃ c next, now i = some (.waiting .block g (.deliver next)) ∧
        (solo i).program = .arrive .block c next ∧ c.map (·.reduction) = reduction ∧
        log i = (solo i).log ++ [.meet reduction])
  | asks (k : ElementKind) (n : Nat) (hmaster : reserver = .master)
      (h : ∀ i < σ.lanes, ∃ next, now i = some (.waiting .block g (.publish k n next)) ∧
        (solo i).program = .allocate k n next ∧ log i = (solo i).log ++ [.request k n])
  | closes (hmaster : reserver = .master)
      (h : ∀ i < σ.lanes, ∃ k n next, now i = some (.waiting .block g (.collect k n next)) ∧
        (solo i).program = .allocate k n next ∧ log i = (solo i).log ++ [.request k n])

/-- The lanes that waited are let go. -/
def Rendezvous.completed (m : Rendezvous) : Rendezvous :=
  { m with arrived := 0, generation := m.generation + 1, gathered := 0, result := m.gathered }

theorem Rendezvous.arrive_completed {m : Rendezvous} (h : m.arrived + 1 = m.size)
    (c : Option Contribution) : m.arrive c =
      completed { m with arrived := m.arrived + 1, gathered := m.gather c } :=
  arrive_of_last h c

namespace Ranks

variable {σ : Score} {reserver : Reserver} {φ : Nat} {solo : Nat → Solo} {log : Nat → List Deed}
  {now : Nat → Option Stage} {m m' : Rendezvous} {departed departed' : Nat} {lane : Nat}
  {st st' : Stage} {x : Solo} {pending ds : List Deed}

theorem lane_lt (h : Ranks σ reserver φ solo log now m departed) (hst : now lane = some st) :
    lane < σ.lanes :=
  (h.lanes lane).mp (Option.isSome_of_eq_some hst)

theorem update (h : Ranks σ reserver φ solo log now m departed) (hst : now lane = some st)
    (hstand : Stand (told σ.block lane) reserver m.generation x st' pending)
    (hlog : log lane ++ ds = x.log ++ pending)
    (hrest : σ.rest x = σ.rest (solo lane)) (hmeets : Deed.meets x.log = Deed.meets (solo lane).log)
    (hhalf : st'.isHalf = st.isHalf)
    (hahead : st'.ahead = (joint reserver ds).length + st.ahead)
    (hsize : m'.size = m.size) (hgeneration : m'.generation = m.generation)
    (hpresent : Present (Function.update solo lane x) (Function.update now lane (some st')) m')
    (hdeparted : Departed (Function.update now lane (some st')) departed') :
    Ranks σ reserver φ (Function.update solo lane x) (Function.update log lane (log lane ++ ds))
      (Function.update now lane (some st')) m' departed' where
  size_eq := hsize.trans h.size_eq
  lanes := by
    intro i
    by_cases hi : i = lane
    · rw [hi, Function.update_self, ← h.lanes lane, hst]
      exact ⟨fun _ => rfl, fun _ => rfl⟩
    · rw [Function.update_of_ne hi]
      exact h.lanes i
  stands := by
    intro i st₁ hst₁
    rw [hgeneration]
    by_cases hi : i = lane
    · subst hi
      rw [Function.update_self] at hst₁ ⊢
      obtain rfl := Option.some.inj hst₁
      rw [Function.update_self]
      exact ⟨pending, hstand, hlog⟩
    · rw [Function.update_of_ne hi] at hst₁ ⊢
      rw [Function.update_of_ne hi]
      exact h.stands i st₁ hst₁
  onWay := by
    intro i hlt
    by_cases hi : i = lane
    · subst hi
      rw [Function.update_self, hrest]
      exact h.onWay i hlt
    · rw [Function.update_of_ne hi]
      exact h.onWay i hlt
  meets_eq := by
    intro i hlt
    by_cases hi : i = lane
    · subst hi
      rw [Function.update_self, hmeets]
      exact h.meets_eq i hlt
    · rw [Function.update_of_ne hi]
      exact h.meets_eq i hlt
  level := by
    obtain ⟨count, half, hlevel⟩ := h.level
    refine ⟨count, half, fun i st₁ hst₁ => ?_⟩
    by_cases hi : i = lane
    · subst hi
      rw [Function.update_self] at hst₁ ⊢
      obtain rfl := Option.some.inj hst₁
      obtain ⟨hsame, hlength⟩ := hlevel i st hst
      refine ⟨hhalf.trans hsame, ?_⟩
      rw [joint_append, List.length_append, hlength, hahead]
      omega
    · rw [Function.update_of_ne hi] at hst₁ ⊢
      exact hlevel i st₁ hst₁
  present := hpresent
  departed_le := hdeparted

theorem move (h : Ranks σ reserver φ solo log now m departed) (hst : now lane = some st)
    (hcalm : st.awaited = none) (hcalm' : st'.awaited = none)
    (hstand : Stand (told σ.block lane) reserver m.generation x st' pending)
    (hlog : log lane ++ ds = x.log ++ pending)
    (hrest : σ.rest x = σ.rest (solo lane)) (hmeets : Deed.meets x.log = Deed.meets (solo lane).log)
    (hhalf : st'.isHalf = st.isHalf) (hds : joint reserver ds = [])
    (hdeparted : Departed (Function.update now lane (some st')) departed') :
    Ranks σ reserver φ (Function.update solo lane x) (Function.update log lane (log lane ++ ds))
      (Function.update now lane (some st')) m departed' := by
  refine h.update hst hstand hlog hrest hmeets hhalf ?_ rfl rfl
    (h.present.update hst hcalm hcalm' x) hdeparted
  rw [Stage.ahead_of_awaited hcalm, Stage.ahead_of_awaited hcalm', hds]
  rfl

theorem join (h : Ranks σ reserver φ solo log now m departed) (hst : now lane = some st)
    {c : Option Contribution} {r : Resumption} (hpasses : st.passes reserver = some (c, r)) :
    Ranks σ reserver φ solo (Function.update log lane (log lane ++ st.deed?.toList))
      (Function.update now lane (some (.waiting .block m.generation r)))
      { m with arrived := m.arrived + 1, gathered := m.gather c } departed := by
  obtain ⟨pending, hstand, hlog⟩ := h.stands lane st hst
  obtain ⟨hstand', hgift, hcalm, hhalf, hahead, -⟩ := hstand.pass hpasses
  have hstays := Stage.stays_of_passes hpasses
  have hpresent : Present solo (Function.update now lane (some (.waiting .block m.generation r)))
      { m with arrived := m.arrived + 1, gathered := m.gather c } := by
    rw [← hgift]
    exact h.present.concat hst hcalm rfl
  have hdeparted : Departed (Function.update now lane (some (.waiting .block m.generation r)))
      departed := h.departed_le.update hst (fun hleft => absurd hleft hstays) (Nat.le_refl _)
  have hsolo : Function.update solo lane (solo lane) = solo := Function.update_eq_self ..
  rw [← hsolo] at hpresent ⊢
  refine h.update hst hstand' ?_ rfl rfl hhalf hahead rfl rfl hpresent hdeparted
  rw [hlog, List.append_assoc]

theorem waits_lt (h : Ranks σ reserver φ solo log now m departed) {i : Nat} (hi : Waits now i) :
    i < σ.lanes := by
  obtain ⟨st, hst, -⟩ := hi
  exact h.lane_lt hst

theorem everyone (h : Ranks σ reserver φ solo log now m departed) (hall : m.arrived = σ.lanes) :
    (∃ order : List Nat, order.Perm (List.range σ.lanes) ∧
      m.gathered = Rendezvous.collect (order.map fun i => (solo i).gift)) ∧
    ∀ i < σ.lanes, ∃ r pending, now i = some (.waiting .block m.generation r) ∧
      Stand (told σ.block i) reserver m.generation (solo i) (.waiting .block m.generation r)
        pending ∧
      log i = (solo i).log ++ pending := by
  obtain ⟨order, hnodup, hmem, harrived, hgathered⟩ := h.present
  have hsub : order ⊆ List.range σ.lanes := fun i hi =>
    List.mem_range.mpr (h.waits_lt ((hmem i).mp hi))
  have hperm : order.Perm (List.range σ.lanes) := by
    refine (List.subperm_of_subset hnodup hsub).perm_of_length_le ?_
    rw [List.length_range, ← hall, harrived]
  refine ⟨⟨order, hperm, hgathered⟩, fun i hi => ?_⟩
  obtain ⟨st, hst, hwaits⟩ := (hmem i).mp (hperm.mem_iff.mpr (List.mem_range.mpr hi))
  obtain ⟨pending, hstand, hlog⟩ := h.stands i st hst
  obtain ⟨g, hg⟩ := Option.isSome_iff_exists.mp hwaits
  obtain ⟨r, rfl, rfl⟩ := hstand.awaited_eq hg
  exact ⟨r, pending, hst, hstand, hlog⟩

theorem same_deed (h : Ranks σ reserver φ solo log now m departed)
    (hstep : InStep reserver σ.lanes log)
    {i j : Nat} {st st' : Stage} (hi : now i = some st) (hj : now j = some st')
    (hahead : st.ahead = st'.ahead) {d e : Deed} (hd : d.isJoint reserver = true)
    (he : e.isJoint reserver = true) (hlogi : log i = (solo i).log ++ [d])
    (hlogj : log j = (solo j).log ++ [e]) : d = e := by
  obtain ⟨count, half, hlevel⟩ := h.level
  have heq : joint reserver (log i) = joint reserver (log j) := by
    refine (hstep i (h.lane_lt hi) j (h.lane_lt hj)).eq ?_
    rw [(hlevel i st hi).2, (hlevel j st' hj).2, hahead]
  rw [hlogi, hlogj, joint_append, joint_append, joint, joint, joint, joint,
    List.filter_cons_of_pos hd, List.filter_cons_of_pos he] at heq
  exact (List.cons.inj (List.append_inj' heq rfl).2).1

theorem turnout (h : Ranks σ reserver φ solo log now m departed)
    (hstep : InStep reserver σ.lanes log)
    (hlanes : 0 < σ.lanes) (hall : m.arrived = σ.lanes) :
    Turnout σ reserver solo log now m.generation := by
  obtain ⟨-, hwaits⟩ := h.everyone hall
  obtain ⟨count, half, hlevel⟩ := h.level
  obtain ⟨r₀, pending₀, hnow₀, hstand₀, hlog₀⟩ := hwaits 0 hlanes
  have hhalf₀ := (hlevel 0 _ hnow₀).1
  cases hstand₀ with
  | @meets c₀ next₀ hprogram₀ =>
      refine .meets (c₀.map (·.reduction)) fun i hi => ?_
      obtain ⟨r, pending, hnow, hstand, hlog⟩ := hwaits i hi
      cases hstand with
      | @meets c next hprogram =>
          have hsame := h.same_deed hstep hnow hnow₀ rfl rfl rfl hlog hlog₀
          rw [hsame] at hlog
          exact ⟨c, next, hnow, hprogram, (Deed.meet.inj hsame), hlog⟩
      | asks hmaster =>
          subst hmaster
          cases h.same_deed hstep hnow hnow₀ rfl rfl rfl hlog hlog₀
      | closes => cases ((hlevel i _ hnow).1.trans hhalf₀.symm : true = false)
  | @asks k₀ n₀ next₀ hmaster hprogram₀ =>
      subst hmaster
      refine .asks k₀ n₀ rfl fun i hi => ?_
      obtain ⟨r, pending, hnow, hstand, hlog⟩ := hwaits i hi
      cases hstand with
      | meets => cases h.same_deed hstep hnow hnow₀ rfl rfl rfl hlog hlog₀
      | @asks k n next _ hprogram =>
          obtain ⟨rfl, rfl⟩ := Deed.request.inj
            (h.same_deed hstep hnow hnow₀ rfl rfl rfl hlog hlog₀)
          exact ⟨next, hnow, hprogram, hlog⟩
      | closes => cases ((hlevel i _ hnow).1.trans hhalf₀.symm : true = false)
  | closes hmaster hprogram₀ =>
      refine .closes hmaster fun i hi => ?_
      obtain ⟨r, pending, hnow, hstand, hlog⟩ := hwaits i hi
      cases hstand with
      | meets => cases ((hlevel i _ hnow).1.trans hhalf₀.symm : false = true)
      | asks => cases ((hlevel i _ hnow).1.trans hhalf₀.symm : false = true)
      | @closes k n next _ hprogram => exact ⟨k, n, next, hnow, hprogram, hlog⟩

theorem complete (h : Ranks σ reserver φ solo log now m departed) (hall : m.arrived = σ.lanes)
    {φ' : Nat} {solo' : Nat → Solo}
    (hstands : ∀ i < σ.lanes, ∀ r, now i = some (.waiting .block m.generation r) →
      ∃ pending, Stand (told σ.block i) reserver (m.generation + 1) (solo' i)
          (r.stage (some m.gathered)) pending ∧
        log i = (solo' i).log ++ pending)
    (honWay : ∀ i < σ.lanes, σ.rest (solo' i) = σ.close φ' i)
    (hmeets : ∀ i < σ.lanes, Deed.meets (solo' i).log = φ')
    (hlevel : ∃ count half, ∀ i < σ.lanes, ∀ r, now i = some (.waiting .block m.generation r) →
      (r.stage (some m.gathered)).isHalf = half ∧ (joint reserver (log i)).length = count) :
    Ranks σ reserver φ' solo' log (fun i => (now i).map (·.awake m.completed)) m.completed
      departed := by
  obtain ⟨-, hwaits⟩ := h.everyone hall
  have hnow {i : Nat} {st : Stage} (hst : (now i).map (·.awake m.completed) = some st) :
      i < σ.lanes ∧ ∃ r, now i = some (.waiting .block m.generation r) ∧
        st = r.stage (some m.gathered) := by
    obtain ⟨st₁, hst₁, rfl⟩ := Option.map_eq_some_iff.mp hst
    have hi := h.lane_lt hst₁
    obtain ⟨r, -, hr, -⟩ := hwaits i hi
    obtain rfl := Option.some.inj (hst₁.symm.trans hr)
    exact ⟨hi, r, hr, if_pos (Rendezvous.next_generation_ne _)⟩
  have hcalm (i : Nat) : ¬Waits (fun i => (now i).map (·.awake m.completed)) i := by
    rintro ⟨st, hst, hst'⟩
    obtain ⟨-, r, -, rfl⟩ := hnow hst
    have hnone : (r.stage (some m.gathered)).awaited = none := r.awaited_stage _
    rw [hnone] at hst'
    cases hst'
  constructor
  case size_eq => exact h.size_eq
  case lanes =>
    intro i
    rw [Option.isSome_map]
    exact h.lanes i
  case stands =>
    intro i st hst
    obtain ⟨hi, r, hr, rfl⟩ := hnow hst
    exact hstands i hi r hr
  case onWay => exact honWay
  case meets_eq => exact hmeets
  case level =>
    obtain ⟨count, half, hlevel⟩ := hlevel
    refine ⟨count, half, fun i st hst => ?_⟩
    obtain ⟨hi, r, hr, rfl⟩ := hnow hst
    have hzero : (r.stage (some m.gathered)).ahead = 0 :=
      Stage.ahead_of_awaited (r.awaited_stage _)
    rw [hzero]
    exact hlevel i hi r hr
  case present =>
    refine ⟨[], List.nodup_nil, fun i => ?_, rfl, rfl⟩
    exact ⟨fun hi => absurd hi List.not_mem_nil, fun hi => absurd hi (hcalm i)⟩
  case departed_le =>
    -- Nobody can have gone: all lanes have waited.
    obtain ⟨gone, -, hgone, hlength⟩ := h.departed_le
    obtain rfl : gone = [] := by
      refine List.eq_nil_iff_forall_not_mem.mpr fun i hi => ?_
      obtain ⟨st, hst, hleft⟩ := hgone i hi
      obtain ⟨r, -, hr, -⟩ := hwaits i (h.lane_lt hst)
      obtain rfl := Option.some.inj (hst.symm.trans hr)
      exact hleft
    exact ⟨[], List.nodup_nil, fun i hi => absurd hi List.not_mem_nil, hlength⟩

theorem next_phase (h : Ranks σ reserver φ solo log now m departed) (hall : m.arrived = σ.lanes)
    {reduction : Option Reduction}
    (hmeets : ∀ i < σ.lanes, ∃ c next, now i = some (.waiting .block m.generation (.deliver next)) ∧
      (solo i).program = .arrive .block c next ∧ c.map (·.reduction) = reduction ∧
      log i = (solo i).log ++ [.meet reduction]) :
    (∀ i < σ.lanes, σ.close φ i = solo i) ∧
    Ranks σ reserver (φ + 1) (σ.phase (φ + 1)) log (fun i => (now i).map (·.awake m.completed))
      m.completed departed := by
  obtain ⟨⟨order, hperm, hgathered⟩, -⟩ := h.everyone hall
  have hclose : ∀ i < σ.lanes, σ.close φ i = solo i := by
    intro i hi
    obtain ⟨c, next, -, hprogram, -⟩ := hmeets i hi
    rw [← h.onWay i hi, Score.rest, hprogram, Program.goOn, ← hprogram]
  have hword : m.gathered = σ.word (σ.close φ) := by
    have hmap : (List.range σ.lanes).map (fun i => (σ.close φ i).gift) =
        (List.range σ.lanes).map fun i => (solo i).gift :=
      List.map_congr_left fun i hi => by rw [hclose i (List.mem_range.mp hi)]
    rw [hgathered, Score.word, hmap]
    refine Rendezvous.collect_perm (hperm.map _) reduction fun c hc => ?_
    obtain ⟨i, hi, rfl⟩ := List.mem_map.mp hc
    obtain ⟨c, next, -, hprogram, hreduction, -⟩ :=
      hmeets i (List.mem_range.mp (hperm.mem_iff.mp hi))
    rw [Solo.gift, hprogram]
    exact hreduction
  have hphase : ∀ i < σ.lanes, ∃ next, now i =
      some (.waiting .block m.generation (.deliver next)) ∧
      (σ.phase (φ + 1) i).program = next m.gathered ∧ (σ.phase (φ + 1) i).log = log i := by
    intro i hi
    obtain ⟨c, next, hnow, hprogram, hreduction, hlog⟩ := hmeets i hi
    have hsucc := σ.phase_succ (by rw [hclose i hi]; exact hprogram)
    refine ⟨next, hnow, ?_, ?_⟩
    · rw [hsucc, hword]
    · rw [hsucc, hclose i hi, hreduction, hlog]
  refine ⟨hclose, h.complete hall ?_ (fun i _ => rfl) ?_ ?_⟩
  · intro i hi r hr
    obtain ⟨next, hnow, hprogram, hlog⟩ := hphase i hi
    obtain rfl : r = .deliver next := by
      rw [hr] at hnow
      injection Option.some.inj hnow
    refine ⟨[], ?_, ?_⟩
    · have hstand : Stand (told σ.block i) reserver (m.generation + 1) (σ.phase (φ + 1) i)
          (.running (σ.phase (φ + 1) i).program) [] := .running
      rw [hprogram] at hstand
      exact hstand
    · rw [hlog, List.append_nil]
  · intro i hi
    obtain ⟨-, -, -, hlog⟩ := hphase i hi
    obtain ⟨c, next, -, -, -, hlog'⟩ := hmeets i hi
    rw [hlog, hlog', meets_append, h.meets_eq i hi]
    rfl
  · obtain ⟨count, half, hlevel⟩ := h.level
    refine ⟨count + 1, false, fun i hi r hr => ?_⟩
    obtain ⟨next, hnow, -⟩ := hphase i hi
    obtain rfl : r = .deliver next := by
      rw [hr] at hnow
      injection Option.some.inj hnow
    exact ⟨rfl, (hlevel i _ hr).2⟩

theorem all_asked (h : Ranks σ reserver φ solo log now m departed) (hall : m.arrived = σ.lanes)
    (hmaster : reserver = .master) {k : ElementKind} {n : Nat}
    (hasks : ∀ i < σ.lanes, ∃ next,
      now i = some (.waiting .block m.generation (.publish k n next)) ∧
        (solo i).program = .allocate k n next ∧ log i = (solo i).log ++ [.request k n]) :
    Ranks σ reserver φ solo log (fun i => (now i).map (·.awake m.completed)) m.completed
      departed := by
  refine h.complete hall ?_ h.onWay h.meets_eq ?_
  · intro i hi r hr
    obtain ⟨next, hnow, hprogram, hlog⟩ := hasks i hi
    obtain rfl : r = .publish k n next := by
      rw [hr] at hnow
      injection Option.some.inj hnow
    exact ⟨_, .publishing hmaster hprogram, hlog⟩
  · obtain ⟨count, half, hlevel⟩ := h.level
    refine ⟨count + 1, true, fun i hi r hr => ?_⟩
    obtain ⟨next, hnow, -⟩ := hasks i hi
    obtain rfl : r = .publish k n next := by
      rw [hr] at hnow
      injection Option.some.inj hnow
    exact ⟨rfl, (hlevel i _ hr).2⟩

theorem all_closed (h : Ranks σ reserver φ solo log now m departed) (hall : m.arrived = σ.lanes)
    (hmaster : reserver = .master)
    (hcloses : ∀ i < σ.lanes, ∃ k n next,
      now i = some (.waiting .block m.generation (.collect k n next)) ∧
      (solo i).program = .allocate k n next ∧ log i = (solo i).log ++ [.request k n]) :
    Ranks σ reserver φ solo log (fun i => (now i).map (·.awake m.completed)) m.completed
      departed := by
  refine h.complete hall ?_ h.onWay h.meets_eq ?_
  · intro i hi r hr
    obtain ⟨k, n, next, hnow, hprogram, hlog⟩ := hcloses i hi
    obtain rfl : r = .collect k n next := by
      rw [hr] at hnow
      injection Option.some.inj hnow
    exact ⟨_, .collecting hmaster hprogram, hlog⟩
  · obtain ⟨count, half, hlevel⟩ := h.level
    refine ⟨count, false, fun i hi r hr => ?_⟩
    obtain ⟨k, n, next, hnow, -⟩ := hcloses i hi
    obtain rfl : r = .collect k n next := by
      rw [hr] at hnow
      injection Option.some.inj hnow
    exact ⟨rfl, (hlevel i _ hr).2⟩

end Ranks

end LaneGrid
