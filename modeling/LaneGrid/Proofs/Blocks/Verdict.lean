import LaneGrid.Proofs.Blocks.Answer
import LaneGrid.Proofs.Blocks.Launch

namespace LaneGrid

/-- The result of a launch, and the number of blocks up to the one that decides it. -/
inductive Verdict (outcome : Nat → Except Error Unit) (blocks : Nat) : Nat → Outcome Unit → Prop
  | ok (h : ∀ k < blocks, outcome k = .ok ()) : Verdict outcome blocks blocks (.ok ())
  | failed {k : Nat} {e : Error} (hk : k < blocks) (hbefore : ∀ j < k, outcome j = .ok ())
      (hfails : outcome k = .error e) : Verdict outcome blocks (k + 1) (.error (.error e))

theorem Verdict.unique {outcome : Nat → Except Error Unit} {blocks ran ran' : Nat}
    {r r' : Outcome Unit} (h : Verdict outcome blocks ran r) (h' : Verdict outcome blocks ran' r') :
    ran = ran' ∧ r = r' := by
  cases h with
  | ok hall =>
      cases h' with
      | ok => exact ⟨rfl, rfl⟩
      | failed hk _ hfails => cases (hall _ hk).symm.trans hfails
  | @failed k e hk hbefore hfails =>
      cases h' with
      | ok hall => cases (hall _ hk).symm.trans hfails
      | @failed k' e' hk' hbefore' hfails' =>
          obtain hlt | rfl | hlt := Nat.lt_trichotomy k k'
          · cases (hbefore' k hlt).symm.trans hfails
          · cases hfails.symm.trans hfails'
            exact ⟨rfl, rfl⟩
          · cases (hbefore k' hlt).symm.trans hfails'

theorem Verdict.exists_failure (outcome : Nat → Except Error Unit) (blocks : Nat) :
    (∀ k < blocks, outcome k = .ok ()) ∨
      ∃ k < blocks, (∀ j < k, outcome j = .ok ()) ∧ ∃ e, outcome k = .error e := by
  induction blocks with
  | zero => exact .inl nofun
  | succ blocks ih =>
      rcases ih with hall | ⟨k, hk, hfirst⟩
      · rcases hlast : outcome blocks with e | ⟨⟩
        · exact .inr ⟨blocks, Nat.lt_succ_self blocks, hall, e, hlast⟩
        · refine .inl fun k hk => ?_
          rcases Nat.lt_succ_iff_lt_or_eq.mp hk with hlt | rfl
          · exact hall k hlt
          · exact hlast
      · exact .inr ⟨k, Nat.lt_succ_of_lt hk, hfirst⟩

namespace Pool

variable {c : Commission} {s : Pool c} {block n : Nat} {buffers : Array Bytes}
  {outcome : Nat → Except Error Unit}

theorem progress_succ {r : Outcome Unit} (hends : (s.posts n).Ends r) :
    ∃ report, report.result = r ∧ s.progress (n + 1) = (s.progress n).add report := by
  obtain ⟨report, hreport, hresult⟩ := hends.exists_report
  refine ⟨report, hresult, ?_⟩
  rw [progress, hreport]

theorem failure_progress_of_ok (h : ∀ k < n, (s.posts k).Ends (.ok ())) :
    (s.progress n).failure = none := by
  induction n with
  | zero => rfl
  | succ n ih =>
      obtain ⟨report, hresult, hsucc⟩ := progress_succ (h n (Nat.lt_succ_self n))
      rw [hsucc]
      exact Backend.Progress.failure_add_of_ok (ih fun k hk => h k (Nat.lt_succ_of_lt hk)) hresult

theorem failure_progress_of_error {f : Failure} (hblock : block < n)
    (hbefore : ∀ k < block, (s.posts k).Ends (.ok ())) (hfails : (s.posts block).Ends (.error f)) :
    (s.progress n).failure = some f := by
  induction n, hblock using Nat.le_induction with
  | base =>
      obtain ⟨report, hresult, hsucc⟩ := progress_succ hfails
      rw [hsucc]
      exact Backend.Progress.failure_add_of_error (failure_progress_of_ok hbefore) hresult
  | succ n _ ih =>
      rw [progress]
      split
      · exact ih
      · exact Backend.Progress.failure_add_of_failure ih _

theorem size_journals_progress (s : Pool c) (n : Nat) :
    (s.progress n).journals.size = (List.range n).countP fun k => (s.posts k).report?.isSome := by
  induction n with
  | zero => rfl
  | succ n ih =>
      rw [progress, List.range_succ, List.countP_append, List.countP_singleton, ← ih]
      rcases (s.posts n).report? with _ | r
      · rfl
      · exact Array.size_push _

theorem Sound.size_journals (h : s.Sound) :
    (s.progress c.blocks).journals.size = s.begun.length := by
  have hperm : s.begun.Perm ((List.range c.blocks).filter fun k => (s.posts k).report?.isSome) := by
    refine (List.perm_ext_iff_of_nodup h.nodup (List.nodup_range.filter _)).mpr fun k => ?_
    rw [List.mem_filter, List.mem_range, Post.isSome_report?, ← h.mem_begun k]
    exact ⟨fun hk => ⟨h.lt_blocks k hk, hk⟩, fun hk => hk.2⟩
  rw [size_journals_progress, List.countP_eq_length_filter, hperm.length_eq]

theorem journals_report (s : Pool c) : s.report.journals = (s.progress c.blocks).journals := by
  rw [report, Backend.finish]
  split
  all_goals try rw [Backend.record]
  all_goals try split
  all_goals rfl

theorem AtRest.ends_of_before (hrest : s.AtRest) (hblock : block < c.blocks)
    (hbefore : ∀ k < block, (s.posts k).Ends (.ok ())) : ∃ r, (s.posts block).Ends r :=
  hrest.ends fun hidle => hrest _ (.enter hblock hidle fun _ => hbefore)

theorem AtRest.ends_ok (hrest : s.AtRest)
    (hends : ∀ block r, (s.posts block).Ends r → r = (outcome block).mapError .error)
    (hle : n ≤ c.blocks) (hok : ∀ k < n, outcome k = .ok ()) :
    ∀ k < n, (s.posts k).Ends (.ok ()) := by
  induction n with
  | zero => exact nofun
  | succ n ih =>
      have hbefore := ih (Nat.le_of_succ_le hle) fun k hk => hok k (Nat.lt_succ_of_lt hk)
      obtain ⟨r, hr⟩ := hrest.ends_of_before hle hbefore
      have hresult := hends n r hr
      rw [hok n (Nat.lt_succ_self n)] at hresult
      subst hresult
      intro k hk
      rcases Nat.lt_succ_iff_lt_or_eq.mp hk with hlt | rfl
      · exact hbefore k hlt
      · exact hr

theorem Sound.perm_range (h : s.Sound) (hrest : s.AtRest)
    (hkind : c.backend.kind.runsAllBlocks = true) : s.begun.Perm (List.range c.blocks) := by
  refine (List.perm_ext_iff_of_nodup h.nodup List.nodup_range).mpr fun k => ?_
  rw [List.mem_range]
  refine ⟨h.lt_blocks k, fun hk => (h.mem_begun k).mpr fun hidle => ?_⟩
  refine hrest _ (.enter hk hidle fun hsequential => ?_)
  rw [hkind] at hsequential
  cases hsequential

theorem Sound.begun_eq_of_error (h : s.Sound) (hkind : c.backend.kind.runsAllBlocks = false)
    {f : Failure} (hfails : (s.posts block).Ends (.error f)) :
    s.begun = List.range (block + 1) ∧ ∀ k < block, (s.posts k).Ends (.ok ()) := by
  obtain ⟨hrange, hended⟩ := h.inOrder hkind
  have hmem : block ∈ s.begun := (h.mem_begun block).mpr hfails.ne_idle
  rw [hrange, List.mem_range] at hmem
  have hlast : s.begun.length = block + 1 := by
    refine Nat.le_antisymm (Nat.le_of_not_lt fun hlt => ?_) hmem
    cases hfails.unique (hended block hlt)
  refine ⟨hlast ▸ hrange, fun k hk => hended k ?_⟩
  rw [hlast]
  exact Nat.succ_lt_succ hk

theorem Sound.begun_eq_of_ok (h : s.Sound) (hkind : c.backend.kind.runsAllBlocks = false)
    (hok : ∀ k < c.blocks, (s.posts k).Ends (.ok ())) : s.begun = List.range c.blocks := by
  obtain ⟨hrange, -⟩ := h.inOrder hkind
  have hmem (k : Nat) : k < s.begun.length ↔ k < c.blocks := by
    rw [← List.mem_range, ← hrange]
    exact ⟨h.lt_blocks k, fun hk => (h.mem_begun k).mpr (hok k hk).ne_idle⟩
  have hlength : s.begun.length = c.blocks :=
    Nat.le_antisymm (Nat.le_of_not_lt fun hlt => Nat.lt_irrefl _ ((hmem _).mp hlt))
      (Nat.le_of_not_lt fun hlt => Nat.lt_irrefl _ ((hmem _).mpr hlt))
  rw [hrange, hlength]

theorem result_of_error {e : Error} (hblock : block < c.blocks)
    (hbefore : ∀ k < block, (s.posts k).Ends (.ok ()))
    (hfails : (s.posts block).Ends (.error (.error e))) :
    s.report.result = recorded c.blocks c.lanes e :=
  Backend.finish_of_failure (failure_progress_of_error hblock hbefore hfails)

theorem AtRest.verdict (hrest : s.AtRest) (hrun : Run (.start c buffers) n s)
    (hdecides : c.Decides buffers outcome) (hfits : c.blocks * c.lanes ≤ wordMax) :
    ∃ ran, Verdict outcome c.blocks ran s.report.result ∧
      (c.backend.kind.runsAllBlocks = false → s.begun = List.range ran) ∧
      (c.backend.kind.runsAllBlocks = true → s.begun.Perm (List.range c.blocks)) := by
  have hsound := hrun.sound
  have hends := hdecides n s hrun
  rcases Verdict.exists_failure outcome c.blocks with hall | ⟨k, hk, hbefore, e, hfails⟩
  · have hok := hrest.ends_ok hends (Nat.le_refl _) hall
    refine ⟨c.blocks, ?_, fun hkind => hsound.begun_eq_of_ok hkind hok, hsound.perm_range hrest⟩
    have hresult : s.report.result = .ok () :=
      (c.backend.finish_spec c.blocks c.lanes _).1.mpr
        ⟨failure_progress_of_ok hok, _, word_mul hfits⟩
    rw [hresult]
    exact .ok hall
  · have hok := hrest.ends_ok hends (Nat.le_of_lt hk) hbefore
    obtain ⟨r, hr⟩ := hrest.ends_of_before hk hok
    obtain rfl := hends k r hr
    rw [hfails] at hr
    refine ⟨k + 1, ?_, fun hkind => (hsound.begun_eq_of_error hkind hr).1, hsound.perm_range hrest⟩
    rw [result_of_error hk hok hr, recorded_eq_error.mpr hfits]
    exact .failed hk hbefore hfails

end Pool

namespace Backend

/-- A launch that is refused runs no lane. Otherwise it ends well exactly if every block does, and
else with the failure of the first block that fails. Backends that run one block after the other run
the blocks up to that one, in their order; the others run every block once. A launch of a kernel
without a bound on its operations (`Kernel.within`) need not end at all. -/
theorem launch_verdict (b : Backend) (d : WorkDivision) (kernel : Kernel) (buffers : Array Bytes) :
    (∀ e event, b.approve d kernel = .error (e, event) →
      b.launch d kernel buffers = ⟨.error (.error e), #[], buffers, [event]⟩) ∧
    ∀ blocks lanes outcome, b.approve d kernel = .ok () → d.blockCount = .ok blocks →
      d.laneCount = .ok lanes → blocks * lanes ≤ wordMax →
      (b.kind.runsAllBlocks = true → b.machine.keep blocks = .ok ()) →
      Commission.Decides ⟨b, d, kernel, blocks, lanes⟩ buffers outcome →
      (∃ ran, Verdict outcome blocks ran (b.launch d kernel buffers).result ∧
        (b.launch d kernel buffers).journals.size =
          if b.kind.runsAllBlocks then blocks else ran) ∧
      (∃ n s, Pool.Run (.start ⟨b, d, kernel, blocks, lanes⟩ buffers) n s ∧ s.AtRest ∧
        (b.launch d kernel buffers).Alike s.report) ∧
      ∀ n s, Pool.Run (.start ⟨b, d, kernel, blocks, lanes⟩ buffers) n s →
        n ≤ Pool.bound ⟨b, d, kernel, blocks, lanes⟩ ∧
        (s.AtRest → ∃ ran, Verdict outcome blocks ran s.report.result ∧
          (b.kind.runsAllBlocks = false → s.begun = List.range ran) ∧
          (b.kind.runsAllBlocks = true → s.begun.Perm (List.range blocks))) := by
  refine ⟨fun e event hrefused => ?_, fun blocks lanes outcome happrove hblocks hlanes hfits hroom
    hdecides => ?_⟩
  · rw [launch, hrefused]
  obtain ⟨n, s, hrun, hrest, halike⟩ := launch_alike_pool happrove hblocks hlanes hroom buffers
  refine ⟨?_, ⟨n, s, hrun, hrest, halike⟩,
    fun m s' hrun' => ⟨hrun'.bounded, fun hrest' => hrest'.verdict hrun' hdecides hfits⟩⟩
  obtain ⟨ran, hverdict, hordered, hall⟩ := hrest.verdict hrun hdecides hfits
  refine ⟨ran, ?_, ?_⟩
  · rw [halike.result_eq]
    exact hverdict
  · rw [halike.journals_size, Pool.journals_report, hrun.sound.size_journals]
    split
    · rename_i hkind
      rw [(hall hkind).length_eq, List.length_range]
    · rename_i hkind
      rw [hordered (Bool.eq_false_iff.mpr hkind), List.length_range]

theorem launch_verdict_secondKernel :
    (∃ e event, (serial plainHost).approve ⟨[1], [2], [1]⟩ secondKernel = .error (e, event) ∧
      (serial plainHost).launch ⟨[1], [2], [1]⟩ secondKernel #[.zeros] =
        ⟨.error (.error e), #[], #[.zeros], [event]⟩) ∧
    (((serial plainHost).launch threeBlocks secondKernel #[]).result =
        .error (.error (.execution "no")) ∧
      ((serial plainHost).launch threeBlocks secondKernel #[]).journals.size = 2 ∧
      ∃ n s, Pool.Run (.start ⟨serial plainHost, threeBlocks, secondKernel, 3, 1⟩ #[]) n s ∧
        s.AtRest ∧ s.begun = [0, 1]) ∧
    ((blocks plainHost).launch threeBlocks secondKernel #[]).result =
        .error (.error (.execution "no")) ∧
      ((blocks plainHost).launch threeBlocks secondKernel #[]).journals.size = 3 := by
  have hgrid : ∀ e ∈ threeBlocks.gridBlocks, 0 < e := by decide
  have hthreads : ∀ e ∈ threeBlocks.blockThreads, 0 < e := by decide
  have hverdict : Verdict (fun block => secondFails (Box.index [3] block)) 3 2
      (.error (.error (.execution "no"))) :=
    .failed (by decide) (by decide) rfl
  obtain ⟨⟨ran, hserial, hsize⟩, ⟨n, s, hrun, hrest, -⟩, hruns⟩ :=
    (launch_verdict (serial plainHost) threeBlocks secondKernel #[]).2 3 1 _ rfl rfl rfl
      (by decide) nofun (decides_answerKernel secondFails (.inl rfl) rfl hgrid hthreads 3 #[])
  obtain ⟨⟨ran', hblocks, hsize'⟩, -⟩ :=
    (launch_verdict (blocks plainHost) threeBlocks secondKernel #[]).2 3 1 _ rfl rfl rfl
      (by decide) (fun _ => rfl)
      (decides_answerKernel secondFails (.inr rfl) rfl hgrid hthreads 3 #[])
  obtain ⟨rfl, hresult⟩ := hserial.unique hverdict
  obtain ⟨ran'', hend, hbegun, -⟩ := (hruns n s hrun).2 hrest
  obtain ⟨rfl, -⟩ := hend.unique hverdict
  exact ⟨⟨_, _, rfl, (launch_verdict ..).1 _ _ rfl⟩,
    ⟨hresult, hsize, n, s, hrun, hrest, hbegun rfl⟩, (hblocks.unique hverdict).2, hsize'⟩

/-- Where blocks run at the same time, a launch of more blocks than a list can have entries has no
verdict, although all its blocks fail. -/
theorem launch_without_verdict : ¬∀ (b : Backend) (d : WorkDivision) (kernel : Kernel)
    (buffers : Array Bytes) (blocks lanes : Nat) (outcome : Nat → Except Error Unit),
    b.approve d kernel = .ok () → d.blockCount = .ok blocks → d.laneCount = .ok lanes →
    blocks * lanes ≤ wordMax → Commission.Decides ⟨b, d, kernel, blocks, lanes⟩ buffers outcome →
    ∃ ran, Verdict outcome blocks ran (b.launch d kernel buffers).result := by
  intro h
  have hgrid : ∀ e ∈ manyBlocks.gridBlocks, 0 < e := by decide
  have hthreads : ∀ e ∈ manyBlocks.blockThreads, 0 < e := by decide
  have hresult : ((blocks plainHost).launch manyBlocks failingKernel #[]).result =
      .error (.fault .tooManyEntries) := by
    decide +kernel
  obtain ⟨ran, hverdict⟩ := h (blocks plainHost) manyBlocks failingKernel #[]
    4611686018427387904 1 _ rfl rfl rfl (by decide)
    (decides_answerKernel allFail (.inr rfl) rfl hgrid hthreads 4611686018427387904 #[])
  rw [hresult] at hverdict
  cases hverdict

end Backend

end LaneGrid
