import LaneGrid.Proofs.Phase.Launch
import LaneGrid.Proofs.Solitude.Block

namespace LaneGrid

structure LaunchReport.Alike (r r' : LaunchReport) : Prop where
  result_eq : r.result = r'.result
  journals_eq : r.journals = r'.journals
  buffers_eq : r.buffers = r'.buffers

namespace LaunchReport.Alike

variable {r r' r'' : LaunchReport}

theorem symm (h : r.Alike r') : r'.Alike r :=
  ⟨h.result_eq.symm, h.journals_eq.symm, h.buffers_eq.symm⟩

theorem trans (h : r.Alike r') (h' : r'.Alike r'') : r.Alike r'' :=
  ⟨h.result_eq.trans h'.result_eq, h.journals_eq.trans h'.journals_eq,
    h.buffers_eq.trans h'.buffers_eq⟩

end LaunchReport.Alike

namespace Backend

/-- The same up to the events that are reported. -/
structure Progress.Alike (p p' : Progress) : Prop where
  failure_eq : p.failure = p'.failure
  failed_eq : p.failed = p'.failed
  journals_eq : p.journals = p'.journals
  buffers_eq : p.buffers = p'.buffers

theorem Progress.Alike.add {p p' : Progress} {r r' : BlockReport} (h : p.Alike p')
    (hr : r.Alike r') : (p.add r).Alike (p'.add r') := by
  obtain ⟨hresult, hjournals, hbuffers⟩ := hr
  obtain ⟨hfailure, hfailed, hjournals', -⟩ := h
  constructor
  all_goals simp only [Progress.add, hresult, hjournals, hbuffers, hfailure, hfailed, hjournals']

variable {b b' : Backend} {d : WorkDivision} {kernel kernel' : Kernel} {lanes : Nat}
  {run run' : Nat → BlockTask → BlockReport} {buffers : Array Bytes}

/-- Launches with the same demands on machines alike, whose blocks are alike with the buffers that
they find. -/
structure Matches (b b' : Backend) (d : WorkDivision) (kernel kernel' : Kernel)
    (run run' : Nat → BlockTask → BlockReport) (lanes : Nat) (buffers : Array Bytes) : Prop where
  machine_eq : b.machine = b'.machine
  runsAllBlocks_eq : b.kind.runsAllBlocks = b'.kind.runsAllBlocks
  shared_eq : kernel.sharedBytes d = kernel'.sharedBytes d
  dynamic_eq : kernel.dynamicBytes d = kernel'.dynamicBytes d
  alike : ∀ block arena,
    (run lanes ⟨d, kernel, block, arena,
      b'.buffersBefore d kernel' lanes buffers block run'⟩).Alike
    (run' lanes ⟨d, kernel', block, arena,
      b'.buffersBefore d kernel' lanes buffers block run'⟩)

namespace Matches

variable (h : b.Matches b' d kernel kernel' run run' lanes buffers)
include h

theorem runNext (block : Nat) :
    (b.runNext d kernel lanes block (b'.buffersBefore d kernel' lanes buffers block run') run).Alike
      (b'.runNext d kernel' lanes block (b'.buffersBefore d kernel' lanes buffers block run')
        run') := by
  rw [Backend.runNext, Backend.runNext, h.machine_eq, h.shared_eq, h.dynamic_eq]
  split
  · exact ⟨rfl, rfl, rfl⟩
  · dsimp only
    split
    · exact ⟨rfl, rfl, rfl⟩
    · exact h.alike block _

theorem runBlocks {p p' : Progress} (hp : p.Alike p') {block : Nat}
    (hbuffers : p'.buffers = b'.buffersBefore d kernel' lanes buffers block run') (n : Nat) :
    (b.runBlocks d kernel lanes p block n run).Alike
      (b'.runBlocks d kernel' lanes p' block n run') := by
  induction n generalizing p p' block with
  | zero => exact hp
  | succ n ih =>
      have hnext : (p.add (b.runNext d kernel lanes block p.buffers run)).Alike
          (p'.add (b'.runNext d kernel' lanes block p'.buffers run')) := by
        rw [hp.buffers_eq, hbuffers]
        exact hp.add (h.runNext block)
      rw [Backend.runBlocks, Backend.runBlocks, h.runsAllBlocks_eq, hnext.failure_eq]
      split
      · exact hnext
      · exact ih hnext (by rw [buffersBefore, ← hbuffers]; rfl)

end Matches

theorem finish_alike {p p' : Progress} (h : p.Alike p') (blocks lanes : Nat) :
    (b.finish blocks lanes p).Alike (b'.finish blocks lanes p') := by
  have hrecord (result : Outcome Unit) :
      (b.record blocks lanes p result).Alike (b'.record blocks lanes p' result) := by
    rw [record, record, Event.launchRecord, Event.launchRecord]
    rcases wordArithmetic.mul blocks lanes with f | all
    · exact ⟨rfl, h.journals_eq, h.buffers_eq⟩
    · exact ⟨rfl, h.journals_eq, h.buffers_eq⟩
  rw [finish, finish, h.failure_eq]
  rcases p'.failure with _ | f | e
  · exact hrecord _
  · exact ⟨rfl, h.journals_eq, h.buffers_eq⟩
  · exact hrecord _

theorem Matches.complete (h : b.Matches b' d kernel kernel' run run' lanes buffers)
    {p p' : Progress} (hp : p.Alike p') (hbuffers : p'.buffers = buffers) (blocks : Nat) :
    (b.complete d kernel blocks lanes p run).Alike
      (b'.complete d kernel' blocks lanes p' run') := by
  have hfirst : p'.buffers = b'.buffersBefore d kernel' lanes buffers 0 run' := hbuffers
  rw [Backend.complete, Backend.complete, h.runsAllBlocks_eq, h.machine_eq]
  split
  · exact ⟨rfl, hp.journals_eq, hp.buffers_eq⟩
  · exact finish_alike (h.runBlocks hp hfirst blocks) blocks lanes

theorem Matches.launch (h : b.Matches b' d kernel kernel' run run' lanes buffers)
    (happrove : (b.approve d kernel).mapError Prod.fst = (b'.approve d kernel').mapError Prod.fst)
    (hlanes : d.laneCount = .ok lanes) :
    (b.launch d kernel buffers run).Alike (b'.launch d kernel' buffers run') := by
  rw [Backend.launch, Backend.launch]
  rcases hb : b.approve d kernel with ⟨e, event⟩ | ⟨⟩
  · rcases hb' : b'.approve d kernel' with ⟨e', event'⟩ | ⟨⟩
    · rw [hb, hb'] at happrove
      obtain rfl := Except.error.inj happrove
      exact ⟨rfl, rfl, rfl⟩
    · rw [hb, hb'] at happrove
      cases happrove
  · rcases hb' : b'.approve d kernel' with ⟨e', event'⟩ | ⟨⟩
    · rw [hb, hb'] at happrove
      cases happrove
    · rcases d.blockCount with f | blocks
      · exact ⟨rfl, rfl, rfl⟩
      · rw [hlanes]
        apply h.complete _ rfl
        exact ⟨rfl, rfl, rfl, rfl⟩

theorem approve_eq (hvalid : d.validate b.limits = .ok ()) (kernel : Kernel) :
    (b.approve d kernel).mapError Prod.fst =
      if b.device.properties.sharedBytes <
          min (kernel.sharedBytes d + kernel.dynamicBytes d) wordMax then
        .error (.sharedMemoryExceeded (min (kernel.sharedBytes d + kernel.dynamicBytes d) wordMax)
          b.device.properties.sharedBytes)
      else .ok () := by
  rw [approve, hvalid]
  have hlimit : b.limits.sharedBytes = b.device.properties.sharedBytes := rfl
  dsimp only
  rw [hlimit]
  split
  · rfl
  · rfl

end Backend

end LaneGrid
