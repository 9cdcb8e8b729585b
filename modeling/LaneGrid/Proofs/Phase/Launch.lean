import LaneGrid.Backend.Launch
import LaneGrid.Proofs.Outcome

namespace LaneGrid

namespace Backend

/-- The division and the demand for shared memory are within the limits of the backend, and there is
room for the results of blocks that run at the same time. -/
structure Accepts (b : Backend) (d : WorkDivision) (kernel : Kernel) : Prop where
  approved : b.approve d kernel = .ok ()
  room : b.kind.runsAllBlocks = true → ∀ blocks, d.blockCount = .ok blocks →
    b.machine.keep blocks = .ok ()

/-- The buffers that a block finds. -/
def buffersBefore (b : Backend) (d : WorkDivision) (kernel : Kernel) (lanes : Nat)
    (buffers : Array Bytes) (block : Nat)
    (run : Nat → BlockTask → BlockReport := b.runBlock) : Array Bytes :=
  match block with
  | 0 => buffers
  | block + 1 =>
    (b.runNext d kernel lanes block (b.buffersBefore d kernel lanes buffers block run) run).buffers

variable {b : Backend} {d : WorkDivision} {kernel : Kernel} {blocks lanes : Nat}
  {buffers : Array Bytes} {p : Progress}

theorem Progress.failure_add_of_failure {f : Failure} (h : p.failure = some f) (r : BlockReport) :
    (p.add r).failure = some f := by
  rw [add, h]
  rfl

theorem Progress.failure_add_of_ok {r : BlockReport} (h : p.failure = none)
    (hr : r.result = .ok ()) : (p.add r).failure = none := by
  rw [add, h, hr]
  rfl

theorem Progress.failure_add_of_error {r : BlockReport} {f : Failure} (h : p.failure = none)
    (hr : r.result = .error f) : (p.add r).failure = some f := by
  rw [add, h, hr]
  rfl

theorem runBlocks_of_failure {f : Failure} (h : p.failure = some f) (block n : Nat) :
    (b.runBlocks d kernel lanes p block n).failure = some f := by
  induction n generalizing p block with
  | zero => exact h
  | succ n ih =>
      rw [runBlocks]
      split
      · exact Progress.failure_add_of_failure h _
      · exact ih (Progress.failure_add_of_failure h _) (block + 1)

theorem runBlocks_spec {block : Nat} (hp : p.failure = none)
    (hbuffers : p.buffers = b.buffersBefore d kernel lanes buffers block) (n : Nat) :
    ((b.runBlocks d kernel lanes p block n).failure = none ↔ ∀ k, block ≤ k → k < block + n →
      (b.runNext d kernel lanes k (b.buffersBefore d kernel lanes buffers k)).result = .ok ()) ∧
    ((b.runBlocks d kernel lanes p block n).failure = none →
      (b.runBlocks d kernel lanes p block n).buffers =
        b.buffersBefore d kernel lanes buffers (block + n)) := by
  induction n generalizing p block with
  | zero =>
      exact ⟨⟨fun _ k hle hlt => absurd hlt (Nat.not_lt.mpr hle), fun _ => hp⟩, fun _ => hbuffers⟩
  | succ n ih =>
      rcases hresult : (b.runNext d kernel lanes block
        (b.buffersBefore d kernel lanes buffers block)).result with f | ⟨⟩
      · have hend : (b.runBlocks d kernel lanes p block (n + 1)).failure = some f := by
          have hfailure : (p.add (b.runNext d kernel lanes block p.buffers)).failure = some f := by
            rw [hbuffers]
            exact Progress.failure_add_of_error hp hresult
          rw [runBlocks]
          split
          · exact hfailure
          · exact runBlocks_of_failure hfailure (block + 1) n
        rw [hend]
        refine ⟨⟨nofun, fun h => ?_⟩, nofun⟩
        have hok := h block (Nat.le_refl _) (by omega)
        rw [hresult] at hok
        cases hok
      · have hnext : (p.add (b.runNext d kernel lanes block p.buffers)).failure = none := by
          rw [hbuffers]
          exact Progress.failure_add_of_ok hp hresult
        have hbuffers' : (p.add (b.runNext d kernel lanes block p.buffers)).buffers =
            b.buffersBefore d kernel lanes buffers (block + 1) := by
          rw [hbuffers]
          rfl
        obtain ⟨hiff, hleft⟩ := ih hnext hbuffers'
        have hsucc : block + (n + 1) = block + 1 + n := by omega
        have hgoes : ¬((p.add (b.runNext d kernel lanes block p.buffers)).failure.isSome &&
            !b.kind.runsAllBlocks) = true := by
          rw [hnext]
          exact Bool.false_ne_true
        rw [runBlocks, if_neg hgoes, hsucc]
        refine ⟨hiff.trans ⟨fun h k hle hlt => ?_,
          fun h k hle => h k (Nat.le_of_succ_le hle)⟩, hleft⟩
        rcases Nat.eq_or_lt_of_le hle with rfl | hlt'
        · exact hresult
        · exact h k hlt' hlt

theorem finish_spec (b : Backend) (blocks lanes : Nat) (p : Progress) :
    ((b.finish blocks lanes p).result = .ok () ↔
      p.failure = none ∧ ∃ all, wordArithmetic.mul blocks lanes = .ok all) ∧
    (b.finish blocks lanes p).buffers = p.buffers := by
  rw [finish]
  rcases p.failure with _ | f | e
  · dsimp only
    rw [record, Event.launchRecord]
    rcases wordArithmetic.mul blocks lanes with f | all
    · exact ⟨⟨nofun, nofun⟩, rfl⟩
    · exact ⟨⟨fun _ => ⟨rfl, all, rfl⟩, fun _ => rfl⟩, rfl⟩
  · exact ⟨⟨nofun, nofun⟩, rfl⟩
  · dsimp only
    rw [record]
    split
    · exact ⟨⟨nofun, nofun⟩, rfl⟩
    · exact ⟨⟨nofun, nofun⟩, rfl⟩

theorem complete_spec (start : List Event) :
    ((b.complete d kernel blocks lanes ⟨none, 0, #[], buffers, start⟩).result = .ok () ↔
      (b.kind.runsAllBlocks = true → b.machine.keep blocks = .ok ()) ∧
      (∃ all, wordArithmetic.mul blocks lanes = .ok all) ∧ ∀ block < blocks,
        (b.runNext d kernel lanes block
          (b.buffersBefore d kernel lanes buffers block)).result = .ok ()) ∧
    ((b.complete d kernel blocks lanes ⟨none, 0, #[], buffers, start⟩).result = .ok () →
      (b.complete d kernel blocks lanes ⟨none, 0, #[], buffers, start⟩).buffers =
        b.buffersBefore d kernel lanes buffers blocks) := by
  have hfound : buffers = b.buffersBefore d kernel lanes buffers 0 := rfl
  obtain ⟨hfailure, hbuffers⟩ :=
    runBlocks_spec (p := ⟨none, 0, #[], buffers, start⟩) rfl hfound blocks
  rw [Nat.zero_add] at hfailure hbuffers
  have hall : (∀ k, 0 ≤ k → k < blocks → (b.runNext d kernel lanes k
      (b.buffersBefore d kernel lanes buffers k)).result = .ok ()) ↔ ∀ block < blocks,
        (b.runNext d kernel lanes block
          (b.buffersBefore d kernel lanes buffers block)).result = .ok () :=
    ⟨fun h k hk => h k (Nat.zero_le k) hk, fun h k _ hk => h k hk⟩
  obtain ⟨hresult, hfinish⟩ := b.finish_spec blocks lanes
    (b.runBlocks d kernel lanes ⟨none, 0, #[], buffers, start⟩ 0 blocks)
  rw [hfailure, hall] at hresult
  rw [complete]
  split
  · rename_i f hroom
    refine ⟨⟨nofun, fun ⟨hkeep, _⟩ => ?_⟩, nofun⟩
    split at hroom
    · rename_i hkind
      rw [hkeep hkind] at hroom
      cases hroom
    · cases hroom
  · rename_i hroom
    have hkeep (hkind : b.kind.runsAllBlocks = true) : b.machine.keep blocks = .ok () := by
      rw [if_pos hkind] at hroom
      exact hroom
    rw [hresult, hfinish]
    exact ⟨⟨fun ⟨hruns, hmul⟩ => ⟨hkeep, hmul, hruns⟩, fun ⟨_, hmul, hruns⟩ => ⟨hruns, hmul⟩⟩,
      fun ⟨hruns, _⟩ => hbuffers (hfailure.mpr (hall.mpr hruns))⟩

theorem launch_spec (happrove : b.approve d kernel = .ok ()) (hblocks : d.blockCount = .ok blocks)
    (hlanes : d.laneCount = .ok lanes) (buffers : Array Bytes) :
    ((b.launch d kernel buffers).result = .ok () ↔
      (b.kind.runsAllBlocks = true → b.machine.keep blocks = .ok ()) ∧
      (∃ all, wordArithmetic.mul blocks lanes = .ok all) ∧ ∀ block < blocks,
        (b.runNext d kernel lanes block
          (b.buffersBefore d kernel lanes buffers block)).result = .ok ()) ∧
    ((b.launch d kernel buffers).result = .ok () → (b.launch d kernel buffers).buffers =
      b.buffersBefore d kernel lanes buffers blocks) := by
  rw [launch, happrove, hblocks, hlanes]
  exact complete_spec _

theorem approve_of_launch (h : (b.launch d kernel buffers).result = .ok ()) :
    b.approve d kernel = .ok () := by
  rw [launch] at h
  rcases happrove : b.approve d kernel with e | ⟨⟩
  · rw [happrove] at h
    cases h
  · rfl

end Backend

end LaneGrid
