import LaneGrid.Proofs.Division.Partition
import LaneGrid.Proofs.Phase.Launch
import LaneGrid.Proofs.Phase.Rehearsal

namespace LaneGrid

open Deed

namespace Backend

/-- How many lanes have a warp in common where each has a thread of its own. -/
def warpLanes (b : Backend) : Nat :=
  match b.kind with
  | .accelerator => b.device.properties.warpSize
  | _ => 1

def reserver (b : Backend) : Reserver :=
  match b.kind with
  | .accelerator => .lane
  | _ => .master

theorem runBlock_threads {b : Backend} (h : b.kind.hasLaneThreads = true) (lanes : Nat)
    (task : BlockTask) : b.runBlock lanes task = task.runThreads lanes b.warpLanes b.reserver := by
  rw [runBlock, warpLanes, reserver]
  cases hkind : b.kind with
  | threads | accelerator => rfl
  | serial | blocks | fibers =>
      rw [hkind] at h
      cases h

/-- A launch whose blocks run at the same time, before any lane takes a step. -/
def grid (b : Backend) (d : WorkDivision) (kernel : Kernel) (buffers : Array Bytes) :
    Outcome Grid := do
  let blocks ← d.blockCount
  let lanes ← d.laneCount
  let arena ← Arena.make b.machine (kernel.sharedBytes d) (kernel.dynamicBytes d)
  Grid.start d kernel arena buffers blocks lanes b.warpLanes b.reserver

/-- What the lanes of a block do in a launch where lanes take turns. -/
def launchLog (b : Backend) (d : WorkDivision) (kernel : Kernel) (lanes : Nat)
    (buffers : Array Bytes) (block : Nat) : Nat → List Deed :=
  match Arena.make b.machine (kernel.sharedBytes d) (kernel.dynamicBytes d) with
  | .ok arena =>
    BlockTask.fiberLog ⟨d, kernel, block, arena, b.buffersBefore d kernel lanes buffers block⟩ lanes
  | .error _ => fun _ => []

/-- In the launch, no lane touches what another one of its block writes between two meetings, and no
block touches a byte of a buffer that another one writes. -/
structure RaceFreeLaunch (b : Backend) (d : WorkDivision) (kernel : Kernel) (blocks lanes : Nat)
    (buffers : Array Bytes) : Prop where
  inBlock : ∀ block < blocks, RaceFree lanes (b.launchLog d kernel lanes buffers block)
  apart : ∀ block < blocks, ∀ other < blocks, other ≠ block → ∀ i < lanes, ∀ j < lanes,
    ∀ e ∈ b.launchLog d kernel lanes buffers block i,
    ∀ e' ∈ b.launchLog d kernel lanes buffers other j,
    ∀ k offset, e.Touches ⟨.buffer k, offset⟩ → ¬e'.Writes ⟨.buffer k, offset⟩

variable {fibers other : Backend} {d : WorkDivision} {kernel : Kernel} {arena : Arena}
  {blocks lanes : Nat} {buffers : Array Bytes}

theorem runNext_eq (b : Backend)
    (harena : Arena.make b.machine (kernel.sharedBytes d) (kernel.dynamicBytes d) = .ok arena)
    (hlanes : b.machine.keep lanes = .ok ()) (block : Nat) (buffers : Array Bytes) :
    b.runNext d kernel lanes block buffers =
      b.runBlock lanes ⟨d, kernel, block, arena, buffers⟩ := by
  rw [runNext, harena]
  dsimp only
  rw [hlanes]

theorem kept_of_runNext {b : Backend} {block : Nat}
    (h : (b.runNext d kernel lanes block buffers).result = .ok ()) :
    (∃ arena, Arena.make b.machine (kernel.sharedBytes d) (kernel.dynamicBytes d) = .ok arena) ∧
      b.machine.keep lanes = .ok () := by
  rw [runNext] at h
  rcases harena : Arena.make b.machine (kernel.sharedBytes d) (kernel.dynamicBytes d) with e | arena
  · rw [harena] at h
    cases h
  · rw [harena] at h
    rcases hlanes : b.machine.keep lanes with f | ⟨⟩
    · rw [hlanes] at h
      cases h
    · exact ⟨⟨arena, rfl⟩, rfl⟩

theorem rehearsal (hfibers : fibers.kind = .fibers) (hkernel : kernel.Portable)
    (harena : Arena.make fibers.machine (kernel.sharedBytes d) (kernel.dynamicBytes d) = .ok arena)
    (hkeep : fibers.machine.keep lanes = .ok ()) (hpos : 0 < lanes)
    (hok : ∀ block < blocks, (fibers.runNext d kernel lanes block
      (fibers.buffersBefore d kernel lanes buffers block)).result = .ok ())
    (hrace : fibers.RaceFreeLaunch d kernel blocks lanes buffers) :
    Rehearsal d kernel arena blocks lanes (fibers.buffersBefore d kernel lanes buffers) := by
  have hrun (block : Nat) : fibers.runNext d kernel lanes block
      (fibers.buffersBefore d kernel lanes buffers block) = BlockTask.runFibers
        ⟨d, kernel, block, arena, fibers.buffersBefore d kernel lanes buffers block⟩ lanes := by
    rw [runNext_eq fibers harena hkeep, runBlock, hfibers]
  have hlog (block : Nat) : fibers.launchLog d kernel lanes buffers block = BlockTask.fiberLog
      ⟨d, kernel, block, arena, fibers.buffersBefore d kernel lanes buffers block⟩ lanes := by
    rw [launchLog, harena]
  refine ⟨hkernel, hpos, fun block hblock => ?_, fun block _ => ?_, fun block hblock => ?_,
    fun block hblock other hother hne => ?_⟩
  · rw [← hrun]
    exact hok block hblock
  · rw [← hrun]
    rfl
  · rw [← hlog]
    exact hrace.inBlock block hblock
  · rw [← hlog, ← hlog]
    exact hrace.apart block hblock other hother hne

theorem map_get_eq {xs ys : Array Bytes} (hsize : xs.size = ys.size)
    (h : ∀ k offset, (Memory.mk .zeros xs).contents ⟨.buffer k, offset⟩ =
      (Memory.mk .zeros ys).contents ⟨.buffer k, offset⟩) :
    xs.map Bytes.get = ys.map Bytes.get := by
  refine Array.ext (by rw [Array.size_map, Array.size_map, hsize]) fun k hx hy => ?_
  rw [Array.size_map] at hx hy
  rw [Array.getElem_map, Array.getElem_map]
  funext offset
  have hbyte (zs : Array Bytes) (hz : k < zs.size) :
      (Memory.mk .zeros zs).contents ⟨.buffer k, offset⟩ = zs[k].get offset := by
    have hpart : (Memory.mk .zeros zs).part? (.buffer k) = some zs[k] :=
      Array.getElem?_eq_getElem hz
    exact Memory.contents_of_part? hpart offset
  rw [← hbyte xs hx, ← hbyte ys hy]
  exact h k offset

/-- A kernel whose lanes never get in each other's way, and all end well where they take turns, ends
well on a backend whose lanes have threads of their own. It leaves the same bytes in every buffer,
whether its blocks run one after the other or all at the same time; then every order in which the
lanes of all blocks go on comes to an end, and to the same one. As everywhere, the operations of a
kernel have a bound (`Kernel.within`). -/
theorem agrees_of_raceFree (hfibers : fibers.kind = .fibers)
    (hother : other.kind.hasLaneThreads = true) (hmachine : other.machine = fibers.machine)
    {gridBlocks blockThreads threadElements : List Nat}
    (hd : WorkDivision.make gridBlocks blockThreads threadElements = .ok d)
    (hblocks : d.blockCount = .ok blocks) (hlanes : d.laneCount = .ok lanes)
    (hkernel : kernel.Portable) (hok : (fibers.launch d kernel buffers).result = .ok ())
    (hrace : fibers.RaceFreeLaunch d kernel blocks lanes buffers)
    (haccepts : other.Accepts d kernel) :
    ((other.launch d kernel buffers).result = .ok () ∧
      (other.launch d kernel buffers).buffers.map Bytes.get =
        (fibers.launch d kernel buffers).buffers.map Bytes.get) ∧
    ∃ g, other.grid d kernel buffers = .ok g ∧ ∃ limit, ∀ n g', Grid.Run n g g' →
      n ≤ limit ∧ (g'.AtRest → g'.result = .ok () ∧
        g'.buffers.map Bytes.get = (fibers.launch d kernel buffers).buffers.map Bytes.get) := by
  obtain ⟨hd, hgrid, hblock, -⟩ := WorkDivision.eq_of_make_eq_ok hd
  have hblocks_pos : 0 < blocks := by
    rw [hd] at hblocks
    exact (Box.eq_of_product_eq_ok hblocks).1 ▸ List.prod_pos_iff_forall_pos_nat.mpr hgrid
  have hlanes_pos : 0 < lanes := by
    rw [hd] at hlanes
    exact (Box.eq_of_product_eq_ok hlanes).1 ▸ List.prod_pos_iff_forall_pos_nat.mpr hblock
  obtain ⟨hiff, hbuffers⟩ := launch_spec (approve_of_launch hok) hblocks hlanes buffers
  obtain ⟨-, hall, hruns⟩ := hiff.mp hok
  obtain ⟨⟨arena, harena⟩, hkeep⟩ := kept_of_runNext (hruns 0 hblocks_pos)
  have hrehearsal := rehearsal hfibers hkernel harena hkeep hlanes_pos hruns hrace
  rw [hbuffers hok]
  have hrun (block : Nat) : other.runNext d kernel lanes block
      (other.buffersBefore d kernel lanes buffers block) = BlockTask.runThreads
        ⟨d, kernel, block, arena, other.buffersBefore d kernel lanes buffers block⟩ lanes
          other.warpLanes other.reserver := by
    rw [runNext_eq other (hmachine ▸ harena) (hmachine ▸ hkeep), runBlock_threads hother]
  constructor
  · obtain ⟨hresults, hsize, hcontents⟩ := hrehearsal.threads_agree other.warpLanes other.reserver
      (other.buffersBefore d kernel lanes buffers) rfl
      (fun block _ => by rw [← hrun]; rfl) (Nat.le_refl blocks)
    obtain ⟨hiff', hbuffers'⟩ := launch_spec haccepts.approved hblocks hlanes buffers
    have hok' := hiff'.mpr ⟨fun hkind => haccepts.room hkind blocks hblocks, hall,
      fun block hblock => by rw [hrun]; exact hresults block hblock⟩
    refine ⟨hok', ?_⟩
    rw [hbuffers' hok']
    exact map_get_eq hsize fun k offset => hcontents _
  · obtain ⟨g, hg, limit, hends⟩ := hrehearsal.grid_agrees other.warpLanes other.reserver
    refine ⟨g, ?_, limit, fun n g' hrun => ?_⟩
    · rw [grid, hmachine, hblocks, lift_ok, ok_bind, hlanes, lift_ok, ok_bind, harena]
      exact liftFault_eq_ok.mpr hg
    · obtain ⟨hle, hend⟩ := hends n g' hrun
      refine ⟨hle, fun hrest => ?_⟩
      obtain ⟨hresult, hsize, hcontents⟩ := hend hrest
      exact ⟨hresult, map_get_eq hsize hcontents⟩

/-- The two lanes of a block tell each other their numbers. -/
def swapProgram (lane : Lane) : Program :=
  .allocate .u8 2 fun
    | .error e => .finish (.error (.error e))
    | .ok s =>
      .access ⟨.shared, s.offset + lane.number⟩ .u8 (.store (BitVec.ofNat 8 lane.number)) fun _ =>
      .arrive .block none fun _ =>
      .access ⟨.shared, s.offset + (1 - lane.number)⟩ .u8 .load fun x =>
      .access ⟨.buffer 0, 2 * lane.blockIndex.headD 0 + lane.number⟩ .u8 (.store x) fun _ =>
      .finish (.ok ())

theorem swapProgram_within (lane : Lane) : (swapProgram lane).Within 5 := by
  refine .allocate fun r => ?_
  cases r with
  | error e => exact .finish
  | ok s => exact .access fun _ => .arrive fun _ => .access fun _ => .access fun _ => .finish

def swapKernel : Kernel :=
  ⟨swapProgram, fun _ => 16, fun _ => 0, fun _ => 5, swapProgram_within⟩

theorem swapKernel_portable : swapKernel.Portable := by
  refine ⟨fun lane r => ?_, fun _ _ _ => rfl⟩
  cases r with
  | error e => exact trivial
  | ok s => exact fun _ => ⟨rfl, fun _ _ _ => trivial⟩

def swapDivision : WorkDivision :=
  ⟨[2], [2], [1]⟩

def swapLog (block i : Nat) : List Deed :=
  [.request .u8 2, .access ⟨.shared, i⟩ .u8 true, .meet none, .access ⟨.shared, 1 - i⟩ .u8 false,
    .access ⟨.buffer 0, 2 * block + i⟩ .u8 true]

def turnsBackend : Backend :=
  .fibers (.host .standard 0) .standard

def swapBackend : Backend :=
  .accelerator (.accelerator (.standard 4) 0 1)

theorem launchLog_swapKernel : ∀ block < 2, ∀ i < 2,
    turnsBackend.launchLog swapDivision swapKernel 2 #[.zeros] block i = swapLog block i := by
  decide +kernel

theorem covers_u8 {p x : Place} : p.Covers .u8 x ↔ x = p := by
  rcases p with ⟨s, offset⟩
  rcases x with ⟨s', offset'⟩
  rw [Place.Covers, Place.mk.injEq]
  have hsize : ElementKind.u8.size = 1 := rfl
  rw [hsize]
  refine and_congr_right fun _ => ?_
  dsimp only
  omega

theorem touched_swapLog {block i k : Nat} {x : Place} (h : Touched (swapLog block i) k x) :
    k = 0 ∧ x = ⟨.shared, i⟩ ∨
      k = 1 ∧ (x = ⟨.shared, 1 - i⟩ ∨ x = ⟨.buffer 0, 2 * block + i⟩) := by
  obtain ⟨e, he, htouches⟩ := h
  rcases k with _ | _ | k
  · rcases List.mem_pair.mp he with rfl | rfl
    · exact htouches.elim
    · exact .inl ⟨rfl, covers_u8.mp htouches⟩
  · rcases List.mem_pair.mp he with rfl | rfl
    · exact .inr ⟨rfl, .inl (covers_u8.mp htouches)⟩
    · exact .inr ⟨rfl, .inr (covers_u8.mp htouches)⟩
  · cases he

theorem wrote_swapLog {block i k : Nat} {x : Place} (h : Wrote (swapLog block i) k x) :
    k = 0 ∧ x = ⟨.shared, i⟩ ∨ k = 1 ∧ x = ⟨.buffer 0, 2 * block + i⟩ := by
  obtain ⟨e, he, hwrites⟩ := h
  rcases k with _ | _ | k
  · rcases List.mem_pair.mp he with rfl | rfl
    · exact hwrites.elim
    · exact .inl ⟨rfl, covers_u8.mp hwrites⟩
  · rcases List.mem_pair.mp he with rfl | rfl
    · exact hwrites.elim
    · exact .inr ⟨rfl, covers_u8.mp hwrites⟩
  · cases he

theorem buffer_swapLog {block i k offset : Nat} {e : Deed} (he : e ∈ swapLog block i)
    (h : e.Touches ⟨.buffer k, offset⟩) : offset = 2 * block + i := by
  simp only [swapLog, List.mem_cons, List.not_mem_nil, or_false] at he
  rcases he with rfl | rfl | rfl | rfl | rfl
  · exact h.elim
  · cases h.1
  · exact h.elim
  · cases h.1
  · exact (Place.mk.inj (covers_u8.mp h)).2

theorem raceFree_swapKernel :
    turnsBackend.RaceFreeLaunch swapDivision swapKernel 2 2 #[.zeros] := by
  refine ⟨fun block hblock => ⟨fun i hi j hj => ?_, fun i hi j hj hne k x hwrote htouched => ?_⟩,
    fun block hblock other hother hne i hi j hj e he e' he' k offset htouches hwrites => ?_⟩
  · rw [launchLog_swapKernel block hblock i hi, launchLog_swapKernel block hblock j hj]
    rfl
  · rw [launchLog_swapKernel block hblock i hi] at hwrote
    rw [launchLog_swapKernel block hblock j hj] at htouched
    rcases wrote_swapLog hwrote with ⟨rfl, rfl⟩ | ⟨rfl, rfl⟩
    · rcases touched_swapLog htouched with ⟨-, hsame⟩ | ⟨hlater, -⟩
      · exact hne (Place.mk.inj hsame).2
      · cases hlater
    · rcases touched_swapLog htouched with ⟨hearlier, -⟩ | ⟨-, hshared | hsame⟩
      · cases hearlier
      · cases (Place.mk.inj hshared).1
      · have hoffset := (Place.mk.inj hsame).2
        omega
  · rw [launchLog_swapKernel block hblock i hi] at he
    rw [launchLog_swapKernel other hother j hj] at he'
    have hoffset := buffer_swapLog he htouches
    have hoffset' := buffer_swapLog he' hwrites.touches
    omega

/-- On the accelerator the lanes may go on in any order. -/
theorem agrees_swapKernel : ∃ g, swapBackend.grid swapDivision swapKernel #[.zeros] = .ok g ∧
    ∀ n g', Grid.Run n g g' → g'.AtRest → g'.result = .ok () ∧
      g'.buffers.map (fun bytes => (List.range 4).map bytes.get) = #[[1, 0, 1, 0]] := by
  have hleft : (turnsBackend.launch swapDivision swapKernel #[.zeros]).buffers.map
      (fun bytes => (List.range 4).map bytes.get) = #[[1, 0, 1, 0]] := by
    decide +kernel
  have hok : (turnsBackend.launch swapDivision swapKernel #[.zeros]).result = .ok () := by
    decide +kernel
  have haccepts : swapBackend.Accepts swapDivision swapKernel := by
    refine ⟨rfl, fun _ blocks hblocks => ?_⟩
    obtain rfl := Except.ok.inj hblocks
    rfl
  have hmachine : swapBackend.machine = turnsBackend.machine := rfl
  obtain ⟨-, g, hg, limit, hend⟩ := agrees_of_raceFree rfl rfl hmachine
    (rfl : WorkDivision.make [2] [2] [1] = .ok swapDivision)
    (rfl : swapDivision.blockCount = .ok 2) (rfl : swapDivision.laneCount = .ok 2)
    swapKernel_portable hok raceFree_swapKernel haccepts
  refine ⟨g, hg, fun n g' hrun hrest => ?_⟩
  obtain ⟨hresult, hbuffers⟩ := (hend n g' hrun).2 hrest
  refine ⟨hresult, ?_⟩
  have hlists := congrArg (Array.map fun bytes => (List.range 4).map bytes) hbuffers
  rw [Array.map_map, Array.map_map] at hlists
  exact hlists.trans hleft

end Backend

end LaneGrid
