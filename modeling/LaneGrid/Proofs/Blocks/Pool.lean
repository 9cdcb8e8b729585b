import LaneGrid.Backend.Launch
import LaneGrid.Proofs.Blocks.Crew

/-!
The blocks of a launch at work. A backend that runs one block after the other begins a block once
those before it have ended well; the others begin blocks in any order. At every step a block begins,
or any lane of any block that has begun goes on. The main statements are `Pool.Run.sound` and
`Pool.Run.bounded`: blocks begin once each and in their turn, and no run goes on for ever.
-/

namespace LaneGrid

/-- A launch that is approved. -/
structure Commission where
  backend : Backend
  division : WorkDivision
  kernel : Kernel
  blocks : Nat
  lanes : Nat

namespace Commission

def crew (c : Commission) : Crew :=
  c.backend.crew c.lanes

/-- A block with its lanes, before any of them has taken a step. -/
def enter (c : Commission) (block : Nat) (buffers : Array Bytes) :
    Except Failure (BlockTask × Team c.crew.Barrier c.crew.Warp) :=
  match Arena.make c.backend.machine (c.kernel.sharedBytes c.division)
    (c.kernel.dynamicBytes c.division) with
  | .error e => .error (.error e)
  | .ok arena =>
    match c.backend.machine.keep c.lanes with
    | .error f => .error (.fault f)
    | .ok () =>
      match c.crew.team ⟨c.division, c.kernel, block, arena, buffers⟩ with
      | .error f => .error (.fault f)
      | .ok t => .ok (⟨c.division, c.kernel, block, arena, buffers⟩, t)

variable {c : Commission} {block : Nat} {buffers : Array Bytes}

theorem enter_eq_ok {task : BlockTask} {t : Team c.crew.Barrier c.crew.Warp}
    (h : c.enter block buffers = .ok (task, t)) :
    ∃ arena, task = ⟨c.division, c.kernel, block, arena, buffers⟩ ∧ c.crew.team task = .ok t := by
  rw [enter] at h
  split at h
  · cases h
  · split at h
    · cases h
    · split at h
      · cases h
      · rename_i hteam
        cases h
        exact ⟨_, rfl, hteam⟩

end Commission

/-- Where a block of a launch is. -/
inductive Post (c : Commission) where
  | idle
  | refused (f : Failure)
  | working (task : BlockTask) (team : Team c.crew.Barrier c.crew.Warp)

namespace Post

variable {c : Commission} {task : BlockTask} {t : Team c.crew.Barrier c.crew.Warp}
  {r : Outcome Unit}

def entered : Except Failure (BlockTask × Team c.crew.Barrier c.crew.Warp) → Post c
  | .error f => refused f
  | .ok (task, t) => working task t

theorem entered_ne_idle (e : Except Failure (BlockTask × Team c.crew.Barrier c.crew.Warp)) :
    entered e ≠ idle := by
  rcases e with f | ⟨task, t⟩
  · exact nofun
  · exact nofun

/-- The block is over. -/
inductive Ends : Post c → Outcome Unit → Prop
  | refused {f : Failure} : Ends (refused f) (.error f)
  | working {task : BlockTask} {t : Team c.crew.Barrier c.crew.Warp} (hrest : t.AtRest) :
      Ends (working task t) (c.crew.result task t)

theorem Ends.of_working (h : (Post.working task t).Ends r) :
    t.AtRest ∧ r = c.crew.result task t := by
  cases h with
  | working hrest => exact ⟨hrest, rfl⟩

theorem Ends.ne_idle {post : Post c} (h : post.Ends r) : post ≠ .idle := by
  rintro rfl
  cases h

/-- The block takes at most `n` more steps. -/
def Within (n : Nat) : Post c → Prop
  | idle => c.crew.lanes * Team.stepBound (c.kernel.bound c.division) < n
  | refused _ => True
  | working _ t => t.Within n

end Post

structure Pool (c : Commission) where
  posts : Nat → Post c
  buffers : Array Bytes
  /-- The blocks that have begun, in the order in which they did. -/
  begun : List Nat

namespace Pool

variable {c : Commission} {s s' s'' : Pool c} {block n total : Nat}

def start (c : Commission) (buffers : Array Bytes) : Pool c :=
  ⟨fun _ => .idle, buffers, []⟩

/-- It is the turn of the block: where one block runs after the other, those before it have ended
well. -/
def MayBegin (s : Pool c) (block : Nat) : Prop :=
  c.backend.kind.runsAllBlocks = false → ∀ k < block, (s.posts k).Ends (.ok ())

inductive Step (s : Pool c) : Pool c → Prop
  | enter {block : Nat} (hblock : block < c.blocks) (hidle : s.posts block = .idle)
      (hturn : s.MayBegin block) :
      Step s ⟨Function.update s.posts block (.entered (c.enter block s.buffers)), s.buffers,
        s.begun ++ [block]⟩
  /-- Something may have been reported before the lane goes on. -/
  | go {block lane : Nat} {task : BlockTask} {t t' : Team c.crew.Barrier c.crew.Warp}
      (reported : List Event) (hpost : s.posts block = .working task t)
      (hstep : Team.step { t with memory := ⟨t.memory.shared, s.buffers⟩, reported } lane =
        some t') :
      Step s ⟨Function.update s.posts block (.working task t'), t'.memory.buffers, s.begun⟩

def AtRest (s : Pool c) : Prop :=
  ∀ s', ¬Step s s'

/-- In `n` steps, whatever their order, the one comes to the other. -/
inductive Run (s : Pool c) : Nat → Pool c → Prop
  | refl : Run s 0 s
  | step {n : Nat} {s' s'' : Pool c} (hrun : Run s n s') (h : Step s' s'') : Run s (n + 1) s''

theorem Run.trans {m : Nat} (h : Run s n s') (h' : Run s' m s'') : Run s (n + m) s'' := by
  induction h' with
  | refl => exact h
  | step _ hstep ih => exact ih.step hstep

structure Sound (s : Pool c) : Prop where
  mem_begun : ∀ block, block ∈ s.begun ↔ s.posts block ≠ .idle
  lt_blocks : ∀ block ∈ s.begun, block < c.blocks
  nodup : s.begun.Nodup
  inOrder : c.backend.kind.runsAllBlocks = false → s.begun = List.range s.begun.length ∧
    ∀ k, k + 1 < s.begun.length → (s.posts k).Ends (.ok ())

theorem sound_start (c : Commission) (buffers : Array Bytes) : (start c buffers).Sound where
  mem_begun _ := ⟨nofun, fun h => absurd rfl h⟩
  lt_blocks := nofun
  nodup := .nil
  inOrder _ := ⟨rfl, nofun⟩

theorem Sound.enter (h : s.Sound) (hblock : block < c.blocks) (hidle : s.posts block = .idle)
    (hturn : s.MayBegin block) :
    Sound (c := c) ⟨Function.update s.posts block (.entered (c.enter block s.buffers)), s.buffers,
      s.begun ++ [block]⟩ := by
  have hnew : block ∉ s.begun := fun hmem => (h.mem_begun block).mp hmem hidle
  constructor
  case mem_begun =>
    intro other
    rw [List.mem_append, List.mem_singleton, h.mem_begun other]
    dsimp only
    by_cases hother : other = block
    · subst hother
      rw [Function.update_self]
      exact ⟨fun _ => Post.entered_ne_idle _, fun _ => .inr rfl⟩
    · rw [Function.update_of_ne hother]
      exact or_iff_left hother
  case lt_blocks =>
    intro other hother
    rcases List.mem_append.mp hother with hother | hother
    · exact h.lt_blocks other hother
    · exact List.mem_singleton.mp hother ▸ hblock
  case nodup =>
    rw [← List.concat_eq_append]
    exact h.nodup.concat hnew
  case inOrder =>
    intro hkind
    obtain ⟨hrange, -⟩ := h.inOrder hkind
    have hlength : block = s.begun.length := by
      refine Nat.le_antisymm (Nat.le_of_not_lt fun hlt => ?_) (Nat.le_of_not_lt fun hlt => ?_)
      · have hidle' : s.posts s.begun.length = .idle := by
          by_contra hpost
          have hmem := (h.mem_begun _).mpr hpost
          rw [hrange, List.length_range, List.mem_range] at hmem
          exact Nat.lt_irrefl _ hmem
        exact (hturn hkind _ hlt).ne_idle hidle'
      · exact hnew (hrange ▸ List.mem_range.mpr hlt)
    subst hlength
    refine ⟨?_, fun k hk => ?_⟩
    · rw [List.length_append, List.length_singleton, List.range_succ, ← hrange]
    · rw [List.length_append, List.length_singleton, Nat.add_lt_add_iff_right] at hk
      dsimp only
      rw [Function.update_of_ne (Nat.ne_of_lt hk)]
      exact hturn hkind k hk

section

variable {task : BlockTask} {t t' : Team c.crew.Barrier c.crew.Warp}

theorem Sound.lt_of_working (h : s.Sound) (hpost : s.posts block = .working task t) :
    block < c.blocks := by
  refine h.lt_blocks block ((h.mem_begun block).mpr ?_)
  rw [hpost]
  exact nofun

theorem step_of_ends {r : Outcome Unit} (hpost : s.posts block = .working task t)
    (hends : (s.posts block).Ends r) (reported : List Event) (lane : Nat) :
    Team.step { t with memory := ⟨t.memory.shared, s.buffers⟩, reported } lane = none := by
  rw [hpost] at hends
  exact hends.of_working.1.of_memory _ reported lane

theorem Sound.go {lane : Nat} {reported : List Event} (h : s.Sound)
    (hpost : s.posts block = .working task t)
    (hstep : Team.step { t with memory := ⟨t.memory.shared, s.buffers⟩, reported } lane =
      some t') :
    Sound (c := c) ⟨Function.update s.posts block (.working task t'), t'.memory.buffers,
      s.begun⟩ := by
  constructor
  case mem_begun =>
    intro other
    rw [h.mem_begun other]
    dsimp only
    by_cases hother : other = block
    · subst hother
      rw [hpost, Function.update_self]
      exact ⟨fun _ => nofun, fun _ => nofun⟩
    · rw [Function.update_of_ne hother]
  case lt_blocks => exact h.lt_blocks
  case nodup => exact h.nodup
  case inOrder =>
    intro hkind
    obtain ⟨hrange, hended⟩ := h.inOrder hkind
    refine ⟨hrange, fun k hk => ?_⟩
    have hends := hended k hk
    dsimp only
    by_cases heq : k = block
    · subst heq
      have hnone := step_of_ends hpost hends reported lane
      rw [hstep] at hnone
      cases hnone
    · rw [Function.update_of_ne heq]
      exact hends

end

theorem Sound.step (h : s.Sound) (hstep : Step s s') : s'.Sound := by
  cases hstep with
  | enter hblock hidle hturn => exact h.enter hblock hidle hturn
  | go _ hpost hstep => exact h.go hpost hstep

theorem Run.sound {buffers : Array Bytes} (hrun : Run (start c buffers) n s) : s.Sound := by
  induction hrun with
  | refl => exact sound_start c buffers
  | step _ hstep ih => exact ih.step hstep

/-- All blocks together take at most `total` more steps. -/
def Within (total : Nat) (s : Pool c) : Prop :=
  ∃ budget : Nat → Nat, (∀ block, (s.posts block).Within (budget block)) ∧
    ∑ block ∈ Finset.range c.blocks, budget block ≤ total

def bound (c : Commission) : Nat :=
  c.blocks * (c.crew.lanes * Team.stepBound (c.kernel.bound c.division) + 1)

theorem within_start (c : Commission) (buffers : Array Bytes) :
    (start c buffers).Within (bound c) := by
  refine ⟨fun _ => _, fun _ => Nat.lt_succ_self _, ?_⟩
  rw [Finset.sum_const, Finset.card_range]
  exact Nat.le_refl _

theorem within_entered (c : Commission) (block : Nat) (buffers : Array Bytes) :
    (Post.entered (c.enter block buffers)).Within
      (c.crew.lanes * Team.stepBound (c.kernel.bound c.division)) := by
  rcases henter : c.enter block buffers with f | ⟨task, t⟩
  · exact trivial
  · obtain ⟨arena, rfl, ht⟩ := Commission.enter_eq_ok henter
    have hwithin := Team.within_of_running (c.crew.within _ t ht)
    rw [c.crew.size_eq _ t ht] at hwithin
    exact hwithin

theorem Within.step (hwithin : s.Within total) (h : s.Sound) (hstep : Step s s') :
    ∃ total', s'.Within total' ∧ total' < total := by
  obtain ⟨budget, hbudget, hle⟩ := hwithin
  -- Whichever block begins or goes on, its own budget falls, and the others keep theirs.
  have hfalls {block m : Nat} {post : Post c} {buffers : Array Bytes} {begun : List Nat}
      (hblock : block < c.blocks) (hpost : post.Within m) (hm : m < budget block) :
      ∃ total', Within (c := c) total' ⟨Function.update s.posts block post, buffers, begun⟩ ∧
        total' < total := by
    refine ⟨_, ⟨Function.update budget block m, fun other => ?_, Nat.le_refl _⟩,
      Nat.lt_of_lt_of_le (Team.sum_update_lt hblock hm) hle⟩
    dsimp only
    by_cases hother : other = block
    · subst hother
      rw [Function.update_self, Function.update_self]
      exact hpost
    · rw [Function.update_of_ne hother, Function.update_of_ne hother]
      exact hbudget other
  cases hstep with
  | @enter block hblock hidle _ =>
      have hbound := hbudget block
      rw [hidle] at hbound
      exact hfalls hblock (within_entered c block s.buffers) hbound
  | @go block lane task t t' reported hpost hstep =>
      have hbound := hbudget block
      rw [hpost] at hbound
      have hbound' : Team.Within (budget block)
          { t with memory := ⟨t.memory.shared, s.buffers⟩, reported } := hbound
      obtain ⟨m, hm, hlt⟩ := hbound'.step hstep
      exact hfalls (h.lt_of_working hpost) hm hlt

theorem Run.bounded {buffers : Array Bytes} (hrun : Run (start c buffers) n s) : n ≤ bound c := by
  -- What is left to do and what has been done never exceed the bound together.
  have hspent : ∃ total, s.Within total ∧ total + n ≤ bound c := by
    induction hrun with
    | refl => exact ⟨_, within_start c buffers, Nat.le_refl _⟩
    | step hrun hstep ih =>
        obtain ⟨total, hwithin, hle⟩ := ih
        obtain ⟨total', hwithin', hlt⟩ := hwithin.step hrun.sound hstep
        exact ⟨total', hwithin', by omega⟩
  obtain ⟨total, -, hle⟩ := hspent
  omega

theorem AtRest.ends (hrest : s.AtRest) (hbegun : s.posts block ≠ .idle) :
    ∃ r, (s.posts block).Ends r := by
  rcases hpost : s.posts block with _ | f | ⟨task, t⟩
  · exact absurd hpost hbegun
  · exact ⟨_, .refused⟩
  · refine ⟨_, .working fun lane => ?_⟩
    have hstays : Team.step { t with memory := ⟨t.memory.shared, s.buffers⟩ } lane = none := by
      rcases hstep : Team.step { t with memory := ⟨t.memory.shared, s.buffers⟩ } lane with _ | t'
      · rfl
      · exact absurd (.go t.reported hpost hstep) (hrest _)
    exact Team.step_eq_none_of_memory
      (t := { t with memory := ⟨t.memory.shared, s.buffers⟩ }) t.memory t.reported hstays

end Pool

/-- Whatever the order in which lanes and blocks go on, what becomes of a block depends on its
index alone. -/
def Commission.Decides (c : Commission) (buffers : Array Bytes)
    (outcome : Nat → Except Error Unit) : Prop :=
  ∀ n s, Pool.Run (.start c buffers) n s → ∀ block r, (s.posts block).Ends r →
    r = (outcome block).mapError .error

end LaneGrid
