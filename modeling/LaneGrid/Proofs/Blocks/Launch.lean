import LaneGrid.Proofs.Blocks.Pool
import LaneGrid.Proofs.Solitude.Launch

namespace LaneGrid

/-- The result of a launch that ends with the failure of a block. -/
def recorded (blocks lanes : Nat) (e : Error) : Outcome Unit :=
  if blocks * lanes ≤ wordMax then .error (.error e) else .error (.fault .mulOverflow)

theorem recorded_eq_error {blocks lanes : Nat} {e : Error} :
    recorded blocks lanes e = .error (.error e) ↔ blocks * lanes ≤ wordMax := by
  rw [recorded]
  split
  · rename_i hfits
    exact ⟨fun _ => hfits, fun _ => rfl⟩
  · rename_i hfits
    exact ⟨nofun, fun h => absurd h hfits⟩

theorem LaunchReport.Alike.journals_size {r r' : LaunchReport} (h : r.Alike r') :
    r.journals.size = r'.journals.size :=
  congrArg Array.size h.journals_eq

namespace Post

variable {c : Commission} {post : Post c} {r : Outcome Unit}

def report? : Post c → Option BlockReport
  | idle => none
  | refused f => some ⟨.error f, [], #[], []⟩
  | working task t => some (BlockTask.report t (c.crew.result task t))

theorem isSome_report? : post.report?.isSome = true ↔ post ≠ .idle := by
  cases post with
  | idle => exact ⟨nofun, fun h => absurd rfl h⟩
  | refused f => exact ⟨fun _ => nofun, fun _ => rfl⟩
  | working task t => exact ⟨fun _ => nofun, fun _ => rfl⟩

theorem Ends.result_eq (h : post.Ends r) {report : BlockReport}
    (hreport : post.report? = some report) : report.result = r := by
  cases h with
  | refused =>
      obtain rfl := Option.some.inj hreport
      rfl
  | working =>
      obtain rfl := Option.some.inj hreport
      rfl

theorem Ends.exists_report (h : post.Ends r) :
    ∃ report, post.report? = some report ∧ report.result = r := by
  cases h with
  | refused => exact ⟨_, rfl, rfl⟩
  | working => exact ⟨_, rfl, rfl⟩

theorem Ends.unique {r' : Outcome Unit} (h : post.Ends r) (h' : post.Ends r') : r = r' := by
  obtain ⟨report, hreport, rfl⟩ := h.exists_report
  exact h'.result_eq hreport

end Post

namespace Pool

open Backend

variable {c : Commission} {s s' : Pool c} {block n : Nat}

/-- What the first `n` blocks have to report, in their order. -/
def progress (s : Pool c) : Nat → Progress
  | 0 => ⟨none, 0, #[], #[], []⟩
  | n + 1 =>
    match (s.posts n).report? with
    | none => s.progress n
    | some r => (s.progress n).add r

/-- What the launch reports once its blocks have come to rest. -/
def report (s : Pool c) : LaunchReport :=
  c.backend.finish c.blocks c.lanes { s.progress c.blocks with buffers := s.buffers }

theorem progress_congr (h : ∀ k < n, s'.posts k = s.posts k) : s'.progress n = s.progress n := by
  induction n with
  | zero => rfl
  | succ n ih =>
      rw [progress, progress, h n (Nat.lt_succ_self n), ih fun k hk => h k (Nat.lt_succ_of_lt hk)]

theorem progress_of_idle (hle : block ≤ n) (h : ∀ k, block ≤ k → s.posts k = .idle) :
    s.progress n = s.progress block := by
  induction n, hle using Nat.le_induction with
  | base => rfl
  | succ n hle ih =>
      rw [progress, h n hle]
      exact ih

/-- The blocks before a given one have ended, and the others have not begun. -/
structure Upto (block : Nat) (s : Pool c) : Prop where
  ended : ∀ k < block, ∃ r, (s.posts k).Ends r
  idle : ∀ k, block ≤ k → s.posts k = .idle

theorem Upto.lt_of_working {task : BlockTask} {t : Team c.crew.Barrier c.crew.Warp}
    (h : Upto block s) {k : Nat} (hpost : s.posts k = .working task t) : k < block := by
  refine Nat.lt_of_not_le fun hle => ?_
  rw [h.idle k hle] at hpost
  cases hpost

theorem Upto.atRest (h : Upto block s) (hends : c.blocks ≤ block ∨ ¬s.MayBegin block) :
    s.AtRest := by
  intro s' hstep
  cases hstep with
  | @enter k hblock hidle hturn =>
      have hle : block ≤ k := by
        refine Nat.le_of_not_lt fun hlt => ?_
        obtain ⟨r, hr⟩ := h.ended k hlt
        exact hr.ne_idle hidle
      rcases hends with hall | hstops
      · exact Nat.lt_irrefl _ (Nat.lt_of_lt_of_le hblock (hall.trans hle))
      · exact hstops fun hkind j hj => hturn hkind j (Nat.lt_of_lt_of_le hj hle)
  | @go k lane task t t' reported hpost hstep =>
      obtain ⟨r, hr⟩ := h.ended k (h.lt_of_working hpost)
      have hnone := step_of_ends hpost hr reported lane
      rw [hstep] at hnone
      cases hnone

theorem runNext_eq (c : Commission) (block : Nat) (buffers : Array Bytes) :
    c.backend.runNext c.division c.kernel c.lanes block buffers =
      match c.enter block buffers with
      | .error f => ⟨.error f, [], buffers, []⟩
      | .ok (task, _) => c.backend.runBlock c.lanes task := by
  rw [runNext, Commission.enter]
  rcases Arena.make c.backend.machine (c.kernel.sharedBytes c.division)
    (c.kernel.dynamicBytes c.division) with e | arena
  · rfl
  · dsimp only
    rcases c.backend.machine.keep c.lanes with f | ⟨⟩
    · rfl
    · dsimp only
      rcases hteam : c.crew.team ⟨c.division, c.kernel, block, arena, buffers⟩ with f | t
      · exact (c.backend.crew_runs c.lanes).refused _ f hteam
      · rfl

theorem exists_run_goes {t t' : Team c.crew.Barrier c.crew.Warp} (hgoes : t.Goes t')
    (block : Nat) (task : BlockTask) (posts : Nat → Post c) (begun : List Nat) :
    ∃ n reported, Run (c := c)
      ⟨Function.update posts block (.working task t), t.memory.buffers, begun⟩ n
      ⟨Function.update posts block (.working task { t' with reported }), t'.memory.buffers,
        begun⟩ := by
  induction hgoes with
  | refl => exact ⟨0, t.reported, .refl⟩
  | @step t₁ t₂ lane _ hstep ih =>
      obtain ⟨n, reported, hrun⟩ := ih
      have hgo := Step.go (s := (⟨Function.update posts block (.working task { t₁ with reported }),
        t₁.memory.buffers, begun⟩ : Pool c)) t₁.reported (Function.update_self ..) hstep
      rw [Function.update_idem] at hgo
      exact ⟨n + 1, t₂.reported, hrun.step hgo⟩
  | report _ _ ih => exact ih

theorem Upto.exists_run_next (h : Upto block s) (hblock : block < c.blocks)
    (hturn : s.MayBegin block) :
    ∃ n s' r, Run s n s' ∧ Upto (block + 1) s' ∧ (∀ k < block, s'.posts k = s.posts k) ∧
      (s'.posts block).report? = some r ∧
      (c.backend.runNext c.division c.kernel c.lanes block s.buffers).Alike
        { r with buffers := s'.buffers } := by
  have henter := Run.refl.step (.enter hblock (h.idle block (Nat.le_refl _)) hturn)
  have hnext {post : Post c} {buffers : Array Bytes} {begun : List Nat}
      (hends : ∃ r, post.Ends r) :
      Upto (c := c) (block + 1) ⟨Function.update s.posts block post, buffers, begun⟩ := by
    refine ⟨fun k hk => ?_, fun k hk => ?_⟩
    · dsimp only
      rcases Nat.lt_succ_iff_lt_or_eq.mp hk with hlt | rfl
      · rw [Function.update_of_ne (Nat.ne_of_lt hlt)]
        exact h.ended k hlt
      · rw [Function.update_self]
        exact hends
    · dsimp only
      rw [Function.update_of_ne (Nat.ne_of_gt hk)]
      exact h.idle k (Nat.le_of_succ_le hk)
  have hkeeps (post : Post c) (k : Nat) (hk : k < block) :
      Function.update s.posts block post k = s.posts k :=
    Function.update_of_ne (Nat.ne_of_lt hk) ..
  have hreports (post : Post c) :
      (Function.update s.posts block post block).report? = post.report? :=
    congrArg Post.report? (Function.update_self block post s.posts)
  rcases hentered : c.enter block s.buffers with f | ⟨task, t⟩
  · rw [hentered] at henter
    refine ⟨1, _, _, henter, hnext ⟨_, .refused⟩, fun k hk => hkeeps _ k hk,
      hreports _, ?_⟩
    rw [runNext_eq, hentered]
    exact ⟨rfl, rfl, rfl⟩
  · rw [hentered] at henter
    obtain ⟨arena, htask, hteam⟩ := Commission.enter_eq_ok hentered
    obtain ⟨t', hgoes, hrest, halike⟩ := (c.backend.crew_runs c.lanes).ends task t hteam
    have hfound : s.buffers = t.memory.buffers := by
      rw [c.crew.buffers_eq task t hteam, htask]
    obtain ⟨n, reported, hrun⟩ :=
      exists_run_goes hgoes block task s.posts (s.begun ++ [block])
    rw [← hfound] at hrun
    refine ⟨_, _, _, henter.trans hrun,
      hnext ⟨_, .working (hrest.of_memory t'.memory reported)⟩, fun k hk => hkeeps _ k hk,
      hreports _, ?_⟩
    rw [runNext_eq, hentered]
    exact ⟨halike.result_eq.trans (c.crew.result_eq task t' reported).symm, halike.journals_eq,
      halike.buffers_eq⟩

theorem Upto.exists_run (h : Upto block s) {p : Progress}
    (hp : p.Alike { s.progress block with buffers := s.buffers })
    (hok : c.backend.kind.runsAllBlocks = false → p.failure = none ∧
      ∀ k < block, (s.posts k).Ends (.ok ()))
    (hn : block + n = c.blocks) :
    ∃ m s', Run s m s' ∧ s'.AtRest ∧
      (c.backend.runBlocks c.division c.kernel c.lanes p block n).Alike
        { s'.progress c.blocks with buffers := s'.buffers } := by
  -- On the blocks that are left: at each of them the launch has collected what the pool reports.
  induction n generalizing block s p with
  | zero =>
      refine ⟨0, s, .refl, h.atRest (.inl (Nat.le_of_eq hn.symm)), ?_⟩
      rw [← hn]
      exact hp
  | succ n ih =>
      obtain ⟨m, s', r, hrun, hnext, hkeeps, hr, halike⟩ :=
        h.exists_run_next (by omega) fun hkind => (hok hkind).2
      have hprogress : s'.progress (block + 1) = (s.progress block).add r := by
        rw [progress, hr, progress_congr hkeeps]
      have hadd : (p.add (c.backend.runNext c.division c.kernel c.lanes block p.buffers)).Alike
          { s'.progress (block + 1) with buffers := s'.buffers } := by
        rw [hp.buffers_eq, hprogress]
        exact hp.add halike
      obtain ⟨result, hends⟩ := hnext.ended block (Nat.lt_succ_self block)
      have hresult : (c.backend.runNext c.division c.kernel c.lanes block p.buffers).result =
          result := by
        rw [hp.buffers_eq, halike.result_eq, ← hends.result_eq hr]
      rw [runBlocks]
      dsimp only
      split
      · rename_i hstops
        rw [Bool.and_eq_true, Bool.not_eq_true'] at hstops
        obtain ⟨hfails, hkind⟩ := hstops
        refine ⟨m, s', hrun, hnext.atRest (.inr fun hturn => ?_), ?_⟩
        · -- The block that has just ended has failed, so it is nobody's turn.
          obtain rfl := hends.unique (hturn hkind block (Nat.lt_succ_self block))
          rw [Progress.failure_add_of_ok (hok hkind).1 hresult] at hfails
          cases hfails
        · rw [progress_of_idle (by omega) hnext.idle]
          exact hadd
      · rename_i hgoes
        have hok' (hkind : c.backend.kind.runsAllBlocks = false) :
            (p.add (c.backend.runNext c.division c.kernel c.lanes block p.buffers)).failure = none ∧
              ∀ k < block + 1, (s'.posts k).Ends (.ok ()) := by
          rw [hkind, Bool.not_false, Bool.and_true, Bool.not_eq_true, Option.isSome_eq_false_iff,
            Option.isNone_iff_eq_none] at hgoes
          refine ⟨hgoes, fun k hk => ?_⟩
          rcases Nat.lt_succ_iff_lt_or_eq.mp hk with hlt | rfl
          · rw [hkeeps k hlt]
            exact (hok hkind).2 k hlt
          · rcases result with f | ⟨⟩
            · rw [Progress.failure_add_of_error (hok hkind).1 hresult] at hgoes
              cases hgoes
            · exact hends
        obtain ⟨m', s'', hrun', hrest, hlast⟩ := ih hnext hadd hok' (by omega)
        exact ⟨m + m', s'', hrun.trans hrun', hrest, hlast⟩

end Pool

namespace Backend

variable {b : Backend} {d : WorkDivision} {kernel : Kernel} {blocks lanes : Nat} {p : Progress}

theorem finish_of_failure {e : Error} (hp : p.failure = some (.error e)) :
    (b.finish blocks lanes p).result = recorded blocks lanes e := by
  rw [finish, hp, recorded]
  dsimp only
  rw [record, Event.launchRecord]
  by_cases hfits : blocks * lanes ≤ wordMax
  · rw [word_mul hfits, if_pos hfits]
    rfl
  · rw [if_neg hfits, show wordArithmetic.mul blocks lanes = .error .mulOverflow from if_neg hfits]
    rfl

theorem launch_alike_pool (happrove : b.approve d kernel = .ok ())
    (hblocks : d.blockCount = .ok blocks) (hlanes : d.laneCount = .ok lanes)
    (hroom : b.kind.runsAllBlocks = true → b.machine.keep blocks = .ok ()) (buffers : Array Bytes) :
    ∃ n s, Pool.Run (.start ⟨b, d, kernel, blocks, lanes⟩ buffers) n s ∧ s.AtRest ∧
      (b.launch d kernel buffers).Alike s.report := by
  have hupto : Pool.Upto 0 (.start ⟨b, d, kernel, blocks, lanes⟩ buffers) :=
    ⟨nofun, fun _ _ => rfl⟩
  have hcomplete (p : Progress) : b.complete d kernel blocks lanes p =
      b.finish blocks lanes (b.runBlocks d kernel lanes p 0 blocks) := by
    rw [complete]
    split
    · rename_i f hkeep
      split at hkeep
      · rename_i hkind
        rw [hroom hkind] at hkeep
        cases hkeep
      · cases hkeep
    · rfl
  rw [launch, happrove, hblocks, hlanes]
  dsimp only [ok_bind, pure_eq_ok]
  rw [hcomplete]
  obtain ⟨n, s, hrun, hrest, halike⟩ := hupto.exists_run (p := ⟨none, 0, #[], buffers,
    [.launched b.kind.name d.text (kernel.sharedBytes d) (kernel.dynamicBytes d)]⟩)
    ⟨rfl, rfl, rfl, rfl⟩ (fun _ => ⟨rfl, nofun⟩) (Nat.zero_add _)
  exact ⟨n, s, hrun, hrest, finish_alike halike blocks lanes⟩

end Backend

end LaneGrid
