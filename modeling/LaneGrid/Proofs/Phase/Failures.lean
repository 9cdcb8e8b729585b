import LaneGrid.Proofs.Phase.Threads

namespace LaneGrid

open Deed

namespace BlockTask

variable {b : BlockTask} {lanes : Nat}

/-- Lanes that all come to their ends where they take turns come to the same ends if they have
threads of their own, in every order of their steps. The result is the first failure in the order of
the lanes, whichever lane fails first. The operations of the kernel have a bound
(`Kernel.within`). -/
theorem fails_alike (hkernel : b.kernel.Portable) (hlanes : 0 < lanes)
    (hharm : Harmonious .master lanes (fun _ => True) (b.fiberLog lanes))
    (hends : ∀ i < lanes, (b.fiberOutcome? lanes i).isSome = true) (warpSize : Nat)
    (reserver : Reserver) :
    (b.runFibers lanes).result = resultOf lanes (b.fiberOutcome? lanes) ∧
    (b.runThreads lanes warpSize reserver).result = (b.runFibers lanes).result ∧
    ∃ t, b.threadTeam lanes warpSize reserver = .ok t ∧ ∃ limit, ∀ n t', Team.Run n t t' →
      n ≤ limit ∧ (t'.AtRest → b.threadsResult t' = (b.runFibers lanes).result ∧
        ∀ i < lanes, t'.outcome? i = b.fiberOutcome? lanes i) := by
  obtain ⟨Φ, hplays⟩ := exists_playsScore hkernel hlanes hends hharm
  obtain ⟨t, ht, hfresh⟩ : ∃ t, b.threadTeam lanes warpSize reserver = .ok t ∧
      b.Fresh lanes (fun _ => True) b.buffers t :=
    exists_fresh hkernel warpSize reserver rfl fun _ _ => rfl
  have hend {n : Nat} {t' : Team ThreadBarrier ThreadBarrier} (hrun : Team.Run n t t')
      (hrest : t'.AtRest) : b.threadsResult t' = (b.runFibers lanes).result ∧
        ∀ i < lanes, t'.outcome? i = b.fiberOutcome? lanes i := by
    obtain ⟨hscore, -⟩ := (hfresh.onScore Φ).run hplays.completes hrun
    obtain ⟨houtcomes, hresult, -⟩ := hplays.at_rest hlanes hscore hrest
    exact ⟨hresult, houtcomes⟩
  refine ⟨hplays.result_eq, ?_, t, ht, _,
    fun n t' hrun => ⟨hrun.le hfresh.within, hend hrun⟩⟩
  obtain ⟨⟨n, hrun⟩, hrest⟩ := hfresh.run
  rw [runThreads_eq, ht]
  exact (hend hrun hrest).1

/-- The second lane of a block panics, after the lanes have met or at once. The first one fails
after the meeting. -/
def failProgram (late : Bool) (lane : Lane) : Program :=
  if lane.number = 0 then
    .arrive .block none fun _ => .finish (.error (.error (.execution "secondary")))
  else if late then
    .arrive .block none fun _ => .finish (.error (.fault (.raised (some "root"))))
  else .finish (.error (.fault (.raised (some "root"))))

theorem failProgram_within (late : Bool) (lane : Lane) : (failProgram late lane).Within 1 := by
  rw [failProgram]
  split
  · exact .arrive fun _ => .finish
  · split
    · exact .arrive fun _ => .finish
    · exact .finish

def failTask (late : Bool) : BlockTask where
  division := ⟨[1], [2], [1]⟩
  kernel := ⟨failProgram late, fun _ => 0, fun _ => 0, fun _ => 1, failProgram_within late⟩
  block := 0
  arena := ⟨0, 0, 0⟩
  buffers := #[]

theorem failTask_portable (late : Bool) : (failTask late).kernel.Portable := by
  refine ⟨fun lane => ?_, fun _ _ _ => rfl⟩
  change (failProgram late lane).Plain
  rw [failProgram]
  split
  · exact ⟨rfl, fun _ => trivial⟩
  · split
    · exact ⟨rfl, fun _ => trivial⟩
    · trivial

theorem fiberLog_failTask : ∀ late, ∀ i < 2,
    (failTask late).fiberLog 2 i = if i = 0 ∨ late then [.meet none] else [] := by
  decide +kernel

theorem fiberOutcome?_failTask : ∀ i < 2, (failTask true).fiberOutcome? 2 i =
    some (.error (if i = 0 then .execution "secondary" else .kernelPanicked 0 1 "root")) := by
  decide +kernel

theorem harmonious_failTask (late : Bool) :
    Harmonious .master 2 (fun _ => True) ((failTask late).fiberLog 2) := by
  refine .of_isMeet (fun i hi d hd => ?_) fun i hi j hj => ?_
  · rw [fiberLog_failTask late i hi] at hd
    split at hd
    · exact List.mem_singleton.mp hd ▸ rfl
    · cases hd
  · rw [fiberLog_failTask late i hi, fiberLog_failTask late j hj]
    split <;> split
    · exact .inl (List.prefix_refl _)
    · exact .inr List.nil_prefix
    · exact .inl List.nil_prefix
    · exact .inl List.nil_prefix

/-- If the lanes have met, it does not matter which of them fails first. -/
theorem fails_alike_failTask : ∃ t, (failTask true).threadTeam 2 1 .master = .ok t ∧
    ∀ n t', Team.Run n t t' → t'.AtRest →
      (failTask true).threadsResult t' = .error (.error (.execution "secondary")) := by
  obtain ⟨-, -, t, ht, limit, hend⟩ := fails_alike (failTask_portable true) Nat.two_pos
    (harmonious_failTask true) (fun i hi => by rw [fiberOutcome?_failTask i hi]; rfl) 1 .master
  have hresult : ((failTask true).runFibers 2).result =
      .error (.error (.execution "secondary")) := by decide +kernel
  rw [hresult] at hend
  exact ⟨t, ht, fun n t' hrun hrest => ((hend n t' hrun).2 hrest).1⟩

/-- A failure of a lane that was let go from a meeting may hide the one that let it go. -/
theorem not_forall_fails_alike : ¬∀ (b : BlockTask) (lanes : Nat), b.kernel.Portable →
    Harmonious .master lanes (fun _ => True) (b.fiberLog lanes) →
    (∃ i < lanes, ∃ e, b.fiberOutcome? lanes i = some (.error e)) →
      (b.runThreads lanes 1 .master).result = (b.runFibers lanes).result := by
  intro hall
  have hfailed : (failTask false).fiberOutcome? 2 1 =
      some (.error (.kernelPanicked 0 1 "root")) := by decide +kernel
  have hsame := hall (failTask false) 2 (failTask_portable false) (harmonious_failTask false)
    ⟨1, by decide, _, hfailed⟩
  have hthreads : ((failTask false).runThreads 2 1 .master).result =
      .error (.error (.execution "secondary")) := by decide +kernel
  have hfibers : ((failTask false).runFibers 2).result =
      .error (.error (.kernelPanicked 0 1 "root")) := by decide +kernel
  rw [hthreads, hfibers] at hsame
  cases hsame

end BlockTask

end LaneGrid
