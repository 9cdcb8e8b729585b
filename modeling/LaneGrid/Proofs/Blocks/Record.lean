import LaneGrid.Proofs.Blocks.Verdict

namespace LaneGrid

namespace Backend

variable {b : Backend} {d : WorkDivision} {kernel : Kernel} {blocks lanes : Nat}
  {buffers : Array Bytes} {p : Progress}

theorem failure_runBlocks {block k n : Nat} {f : Failure} (hp : p.failure = none)
    (hbuffers : p.buffers = b.buffersBefore d kernel lanes buffers block) (hle : block ≤ k)
    (hlt : k < block + n) (hbefore : ∀ j, block ≤ j → j < k →
      (b.runNext d kernel lanes j (b.buffersBefore d kernel lanes buffers j)).result = .ok ())
    (hfails : (b.runNext d kernel lanes k (b.buffersBefore d kernel lanes buffers k)).result =
      .error f) : (b.runBlocks d kernel lanes p block n).failure = some f := by
  induction n generalizing p block with
  | zero => exact absurd hlt (Nat.not_lt.mpr hle)
  | succ n ih =>
      rw [runBlocks]
      rcases Nat.eq_or_lt_of_le hle with rfl | hlater
      · have hfailure : (p.add (b.runNext d kernel lanes block p.buffers)).failure = some f := by
          rw [hbuffers]
          exact Progress.failure_add_of_error hp hfails
        split
        · exact hfailure
        · exact runBlocks_of_failure hfailure (block + 1) n
      · have hgoes : (p.add (b.runNext d kernel lanes block p.buffers)).failure = none := by
          rw [hbuffers]
          exact Progress.failure_add_of_ok hp (hbefore block (Nat.le_refl _) hlater)
        rw [hgoes, Option.isSome_none, Bool.false_and, if_neg Bool.false_ne_true]
        refine ih hgoes ?_ hlater (by omega) fun j hj => hbefore j (Nat.le_of_succ_le hj)
        rw [hbuffers]
        rfl

theorem launch_result_of_failure (hkind : b.kind.runsAllBlocks = false)
    (happrove : b.approve d kernel = .ok ()) (hblocks : d.blockCount = .ok blocks)
    (hlanes : d.laneCount = .ok lanes) {k : Nat} {e : Error} (hk : k < blocks)
    (hbefore : ∀ j < k,
      (b.runNext d kernel lanes j (b.buffersBefore d kernel lanes buffers j)).result = .ok ())
    (hfails : (b.runNext d kernel lanes k (b.buffersBefore d kernel lanes buffers k)).result =
      .error (.error e)) : (b.launch d kernel buffers).result = recorded blocks lanes e := by
  rw [launch, happrove, hblocks, hlanes]
  dsimp only [ok_bind, pure_eq_ok]
  rw [complete, hkind, if_neg Bool.false_ne_true]
  exact finish_of_failure <| failure_runBlocks rfl rfl (Nat.zero_le k) (hk.trans_eq
    (Nat.zero_add _).symm) (fun j _ => hbefore j) hfails

/-- Where one block runs after the other, a block that fails is the last one that begins, and the
launch is over. Its result is the failure of that block if the lanes of the whole grid can be
counted, and otherwise the fault of counting them. The operations of the kernel have a bound
(`Kernel.within`). -/
theorem launch_of_failing_block (hkind : b.kind.runsAllBlocks = false)
    (happrove : b.approve d kernel = .ok ()) (hblocks : d.blockCount = .ok blocks)
    (hlanes : d.laneCount = .ok lanes) (buffers : Array Bytes) :
    (∀ k < blocks, ∀ e,
      (∀ j < k,
        (b.runNext d kernel lanes j (b.buffersBefore d kernel lanes buffers j)).result = .ok ()) →
      (b.runNext d kernel lanes k (b.buffersBefore d kernel lanes buffers k)).result =
        .error (.error e) →
      (b.launch d kernel buffers).result = recorded blocks lanes e) ∧
    ∀ n s, Pool.Run (.start ⟨b, d, kernel, blocks, lanes⟩ buffers) n s →
      ∀ k e, (s.posts k).Ends (.error (.error e)) → s.AtRest ∧ s.begun = List.range (k + 1) ∧
        (∀ j < k, (s.posts j).Ends (.ok ())) ∧ s.report.result = recorded blocks lanes e := by
  refine ⟨fun k hk e hbefore hfails =>
    launch_result_of_failure hkind happrove hblocks hlanes hk hbefore hfails,
    fun n s hrun k e hfails => ?_⟩
  have hsound := hrun.sound
  obtain ⟨hbegun, hbefore⟩ := hsound.begun_eq_of_error hkind hfails
  have hidle : ∀ j, k + 1 ≤ j → s.posts j = .idle := by
    intro j hj
    by_contra hwork
    have hmem := (hsound.mem_begun j).mpr hwork
    rw [hbegun, List.mem_range] at hmem
    exact Nat.not_lt.mpr hj hmem
  have hupto : Pool.Upto (k + 1) s := by
    refine ⟨fun j hj => ?_, hidle⟩
    rcases Nat.lt_succ_iff_lt_or_eq.mp hj with hlt | rfl
    · exact ⟨_, hbefore j hlt⟩
    · exact ⟨_, hfails⟩
  have hk : k < blocks :=
    hsound.lt_blocks k (by rw [hbegun]; exact List.mem_range.mpr (Nat.lt_succ_self k))
  refine ⟨hupto.atRest (.inr fun hturn => ?_), hbegun, hbefore,
    Pool.result_of_error hk hbefore hfails⟩
  cases hfails.unique (hturn hkind k (Nat.lt_succ_self k))

theorem launch_of_failing_block_secondKernel :
    ((serial plainHost).launch threeBlocks secondKernel #[]).result =
      .error (.error (.execution "no")) ∧
    ∃ n s, Pool.Run (.start ⟨serial plainHost, threeBlocks, secondKernel, 3, 1⟩ #[]) n s ∧
      (s.posts 1).Ends (.error (.error (.execution "no"))) ∧ s.AtRest ∧ s.begun = [0, 1] ∧
      s.report.result = .error (.error (.execution "no")) := by
  have happrove : (serial plainHost).approve threeBlocks secondKernel = .ok () := rfl
  have hblocks : threeBlocks.blockCount = .ok 3 := rfl
  have hlanes : threeBlocks.laneCount = .ok 1 := rfl
  obtain ⟨hlaunch, hpool⟩ := launch_of_failing_block rfl happrove hblocks hlanes #[]
  have hfits : recorded 3 1 (.execution "no") = .error (.error (.execution "no")) := by decide
  obtain ⟨n, s, hrun, hrest, -⟩ := launch_alike_pool happrove hblocks hlanes nofun #[]
  have hends :=
    decides_answerKernel secondFails (.inl rfl) rfl (by decide) (by decide) 3 #[] n s hrun
  have hok : ∀ k < 1, (s.posts k).Ends (.ok ()) := hrest.ends_ok hends (by decide) (by decide)
  obtain ⟨r, hr⟩ := hrest.ends_of_before (by decide) hok
  obtain rfl := hends 1 r hr
  obtain ⟨-, hbegun, -, hresult⟩ := hpool n s hrun 1 _ hr
  exact ⟨(hlaunch 1 (by decide) _ (by decide +kernel) (by decide +kernel)).trans hfits, n, s, hrun,
    hr, hrest, hbegun, hresult.trans hfits⟩

/-- Two axes, each within its limits. -/
def wideGrid : WorkDivision :=
  ⟨[4294967296, 2147483648], [2, 1], [1, 1]⟩

/-- The failure of the first block does not come to light. -/
theorem failing_launch_can_overflow : ¬∀ (b : Backend) (d : WorkDivision) (kernel : Kernel)
    (buffers : Array Bytes) (blocks lanes : Nat), b.kind.runsAllBlocks = false →
    b.approve d kernel = .ok () → d.blockCount = .ok blocks → d.laneCount = .ok lanes →
    ∀ k < blocks, ∀ e,
      (∀ j < k,
        (b.runNext d kernel lanes j (b.buffersBefore d kernel lanes buffers j)).result = .ok ()) →
      (b.runNext d kernel lanes k (b.buffersBefore d kernel lanes buffers k)).result =
        .error (.error e) →
      (b.launch d kernel buffers).result = .error (.error e) := by
  intro h
  have happrove : (fibers plainHost .standard).approve wideGrid failingKernel = .ok () := rfl
  have hblocks : wideGrid.blockCount = .ok 9223372036854775808 := rfl
  have hlanes : wideGrid.laneCount = .ok 2 := rfl
  have hfails : ((fibers plainHost .standard).runNext wideGrid failingKernel 2 0 #[]).result =
      .error (.error (.execution "no")) := by
    decide +kernel
  have hpromised := h _ _ _ #[] _ _ rfl happrove hblocks hlanes 0 (by decide) _ nofun hfails
  have hresult := launch_result_of_failure rfl happrove hblocks hlanes (by decide)
    (fun j hj => absurd hj (Nat.not_lt_zero j)) hfails
  rw [hresult, recorded_eq_error] at hpromised
  revert hpromised
  decide

end Backend

end LaneGrid
