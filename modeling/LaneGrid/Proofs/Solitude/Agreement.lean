import LaneGrid.Backend.Coroutine
import LaneGrid.Proofs.Solitude.Launch
import LaneGrid.Proofs.Solitude.Requests

/-!
When blocks of one lane are the same on all backends that run one block after the other, and when
they are not. A kernel whose lanes hold requests for shared memory and await them out of order is
given other slices where the master reserves, and a panic in the call of a kernel is no failure of a
lane where the lanes take turns.
-/

namespace LaneGrid

open LoneGate

namespace BlockTask

variable {d : WorkDivision} {block : Nat} {arena : Arena} {buffers : Array Bytes} {k : Coroutine}
  {limit : Nat} {stop : Outcome Unit}

/-- Every call that a block of one lane begins with gives a future. -/
def Callable (b : BlockTask) (k : Coroutine) (limit : Nat) (stop : Outcome Unit) : Prop :=
  ∀ lane, b.lane (soloGrouping 1 1) 0 = .ok lane → ∃ p,
    (k.call lane.number stop limit .empty (k.start lane) ⟨.zeros, b.buffers⟩ #[]).rest = .ok p

theorem loneReport_alike
    (hordered : ∀ lane : Lane, lane.division = d → k.InOrder false limit (k.start lane)) :
    (loneReport ⟨d, k.kernel .master limit stop, block, arena, buffers⟩).Alike
      (loneReport ⟨d, k.kernel .lane limit stop, block, arena, buffers⟩) := by
  rw [loneReport, loneReport, fate, fate]
  have hlane : BlockTask.lane ⟨d, k.kernel .master limit stop, block, arena, buffers⟩ =
      BlockTask.lane ⟨d, k.kernel .lane limit stop, block, arena, buffers⟩ := rfl
  rw [hlane]
  rcases hdata : BlockTask.lane ⟨d, k.kernel .lane limit stop, block, arena, buffers⟩
    (soloGrouping 1 1) 0 with f | lane
  · exact ⟨rfl, rfl, rfl⟩
  · have hnone : Coroutine.Request.Met arena.capacity 0 Coroutine.Requests.empty.items
      Coroutine.Requests.empty.items 0 := .nil
    obtain ⟨houtcome, hmemory, hjournal⟩ := (hordered lane (eq_of_lane hdata).1).concurs hnone
      lane.number stop ⟨.zeros, buffers⟩ #[]
    refine ⟨?_, ?_, ?_⟩
    · exact congrArg (fun o => (told block 0 o).mapError Failure.error) houtcome.symm
    · exact congrArg (fun journal : Array Observation => [journal.toList]) hjournal.symm
    · exact congrArg Memory.buffers hmemory.symm

theorem runFibers_alike
    (hordered : ∀ lane : Lane, lane.division = d → k.InOrder false limit (k.start lane))
    (hcalls : Callable ⟨d, k.kernel .master limit stop, block, arena, buffers⟩ k limit stop) :
    (k.runFibers limit stop 1 ⟨d, k.kernel .master limit stop, block, arena, buffers⟩).Alike
      (loneReport ⟨d, k.kernel .master limit stop, block, arena, buffers⟩) := by
  generalize htask : (⟨d, k.kernel .master limit stop, block, arena, buffers⟩ : BlockTask) = b
    at hcalls ⊢
  have hkernel : b.kernel = k.kernel .master limit stop := by rw [← htask]
  have hdivision : b.division = d := by rw [← htask]
  have hgrouping : soloGrouping 1 (max 1 1) = soloGrouping 1 1 := rfl
  rw [Coroutine.runFibers, loneReport, fate, fiberTeam, team_of_one rfl, hgrouping, List.range_one,
    List.mapM_cons, List.mapM_nil]
  rcases hlane : b.lane (soloGrouping 1 1) 0 with f | lane
  · exact ⟨rfl, rfl, rfl⟩
  · obtain ⟨p, hp⟩ := hcalls lane hlane
    have hrest := (hordered lane ((eq_of_lane hlane).1.trans hdivision)).evaluate_rest hp
      b.arena.capacity
    have hwithin := Coroutine.within_call hp
    generalize hcalled : k.call lane.number stop limit .empty (k.start lane) ⟨.zeros, b.buffers⟩
      #[] = called at hp hrest
    have hall : k.callAll limit stop [lane] ⟨.zeros, b.buffers⟩ #[] =
        .ok (called.memory, #[⟨.running p, 0, called.journal⟩]) := by
      rw [Coroutine.callAll, hcalled, hp]
      rfl
    dsimp only [bind, Except.bind, pure, Except.pure]
    rw [hall]
    apply takeTurns_alike
    · refine ⟨rfl, ⟨SoloGate.mk, rfl, Rendezvous.isLone_make, trivial⟩, ?_⟩
      simp only [Team.outlook, Team.record, Team.reserved, Program.fate]
      rw [hrest, hkernel]
      rfl
    · intro i st hst
      obtain ⟨m, hm, rfl⟩ := Option.map_eq_some_iff.mp hst
      obtain ⟨hlt, rfl⟩ := Array.getElem?_eq_some_iff.mp hm
      obtain rfl : i = 0 := Nat.lt_one_iff.mp hlt
      refine ⟨p, rfl, ?_⟩
      rw [bound, hkernel]
      exact hwithin

end BlockTask

namespace Backend

variable {ds dt df : Device} {settings : HostSettings} {d : WorkDivision}

/-- Every lane of a launch on the host, one block after the other, is called without a panic. -/
def Calls (ds : Device) (d : WorkDivision) (k : Coroutine) (limit : Nat) (stop : Outcome Unit)
    (buffers : Array Bytes) : Prop :=
  ∀ block arena, BlockTask.Callable ⟨d, k.kernel .lane limit stop, block, arena,
    (serial ds).buffersBefore d (k.kernel .lane limit stop) 1 buffers block
      ((serial ds).runCoroutine k limit stop)⟩ k limit stop

/-- A launch comes to such a report if it is followed far enough. It need not come to any. -/
def Comes (b : Backend) (d : WorkDivision) (k : Coroutine) (buffers : Array Bytes)
    (r : LaunchReport) : Prop :=
  ∃ n, ∀ limit ≥ n, ∀ stop, (b.launchCoroutine d k limit stop buffers).Alike r

theorem comes_iff {b b' : Backend} {k : Coroutine} {buffers : Array Bytes}
    (h : ∀ limit stop, (b.launchCoroutine d k limit stop buffers).Alike
      (b'.launchCoroutine d k limit stop buffers)) (r : LaunchReport) :
    b.Comes d k buffers r ↔ b'.Comes d k buffers r := by
  constructor
  · rintro ⟨n, hcomes⟩
    exact ⟨n, fun limit hlimit stop => (h limit stop).symm.trans (hcomes limit hlimit stop)⟩
  · rintro ⟨n, hcomes⟩
    exact ⟨n, fun limit hlimit stop => (h limit stop).trans (hcomes limit hlimit stop)⟩

/-- Launches of the same kernel, with one lane per block, agree on all host backends that run one
block after the other: on the result, be it a failure of a lane or a refusal, on the buffers, and on
whatever an operation returns to a lane, since all of that is noted. They agree after every number
of actions, and so they come to the same end or none of them to any. -/
theorem coroutines_agree
    (hthreads : dt.properties = ds.properties) (hthreads' : dt.machine = ds.machine)
    (hfibers : df.properties = ds.properties) (hfibers' : df.machine = ds.machine)
    (hlanes : d.laneCount = .ok 1) (hvalid : d.validate (serial ds).limits = .ok ())
    (hvalid' : d.validate (threads dt settings).limits = .ok ())
    (hvalid'' : d.validate (fibers df settings).limits = .ok ()) (k : Coroutine)
    (buffers : Array Bytes)
    (hordered : ∀ limit (lane : Lane), lane.division = d → k.InOrder false limit (k.start lane))
    (hcalls : ∀ limit stop, Calls ds d k limit stop buffers) :
    (∀ limit stop, ((threads dt settings).launchCoroutine d k limit stop buffers).Alike
        ((serial ds).launchCoroutine d k limit stop buffers) ∧
      ((fibers df settings).launchCoroutine d k limit stop buffers).Alike
        ((serial ds).launchCoroutine d k limit stop buffers)) ∧
    ∀ r, ((threads dt settings).Comes d k buffers r ↔ (serial ds).Comes d k buffers r) ∧
      ((fibers df settings).Comes d k buffers r ↔ (serial ds).Comes d k buffers r) := by
  have hserial (limit : Nat) (stop : Outcome Unit) (task : BlockTask) :
      ((serial ds).runCoroutine k limit stop 1 task).Alike task.loneReport :=
    task.runAlone_alike true
  have hagree (limit : Nat) (stop : Outcome Unit) :
      ((threads dt settings).launchCoroutine d k limit stop buffers).Alike
        ((serial ds).launchCoroutine d k limit stop buffers) := by
    refine Matches.launch ⟨hthreads', rfl, rfl, rfl, fun block arena => ?_⟩ ?_ hlanes
    · exact (BlockTask.runThreads_alike _ .master).trans
        ((BlockTask.loneReport_alike (hordered limit)).trans (hserial limit stop _).symm)
    · rw [approve_eq hvalid, approve_eq hvalid', threads, hthreads]
      rfl
  have hagree' (limit : Nat) (stop : Outcome Unit) :
      ((fibers df settings).launchCoroutine d k limit stop buffers).Alike
        ((serial ds).launchCoroutine d k limit stop buffers) := by
    refine Matches.launch ⟨hfibers', rfl, rfl, rfl, fun block arena => ?_⟩ ?_ hlanes
    · exact (BlockTask.runFibers_alike (hordered limit) (hcalls limit stop block arena)).trans
        ((BlockTask.loneReport_alike (hordered limit)).trans (hserial limit stop _).symm)
    · rw [approve_eq hvalid, approve_eq hvalid'', fibers, hfibers]
      rfl
  exact ⟨fun limit stop => ⟨hagree limit stop, hagree' limit stop⟩,
    fun r => ⟨comes_iff hagree r, comes_iff hagree' r⟩⟩

inductive QueueState : Nat → Type
  | called : QueueState 0
  | asked : QueueState 1
  | polled : QueueState 1
  | both : QueueState 2
  | one : QueueState 1
  | count : QueueState 0
  | vote (old : Element .u8) : QueueState 0
  | last (old : Element .u8) : QueueState 0

/-- The call makes a request. The future makes another one, for more than there is, and awaits both
in turn. Then it counts up a byte of a buffer until it has found a three or more, votes in its warp,
and panics if it has found more. -/
def queueCoroutine : Coroutine where
  State := QueueState
  act state := match state with
    | .called => .ask .u8 8 .asked
    | .asked => .ready .polled
    | .polled => .ask .u64 1000 .both
    | .both => .await 0 fun _ => .one
    | .one => .await 0 fun _ => .count
    | .count => .access ⟨.buffer 0, 0⟩ .u8 (.update .add 1) fun old =>
      if old.toNat < 3 then .count else .vote old
    | .vote old => .arrive .warp (some ⟨.sum, 5⟩) fun _ => .last old
    | .last old => if old.toNat = 3 then .finish (.ok ()) else .panic (.raised (some "odd"))
  start _ := .called
  sharedBytes _ := 16
  dynamicBytes _ := 0

theorem inOrder_last (limit : Nat) (old : Element .u8) :
    queueCoroutine.InOrder true limit (.last old : QueueState 0) := by
  cases limit with
  | zero => trivial
  | succ limit =>
      simp only [Coroutine.InOrder, queueCoroutine]
      split_ifs <;> trivial

theorem inOrder_count (limit : Nat) :
    queueCoroutine.InOrder true limit (.count : QueueState 0) := by
  induction limit with
  | zero => trivial
  | succ limit ih =>
      intro old
      dsimp only
      split
      · exact ih
      · cases limit with
        | zero => trivial
        | succ limit => exact fun _ => inOrder_last limit old

theorem inOrder_queueCoroutine (limit : Nat) (lane : Lane) :
    queueCoroutine.InOrder false limit (queueCoroutine.start lane) :=
  match limit with
  | 0 | 1 | 2 | 3 => trivial
  | 4 => ⟨rfl, fun _ => trivial⟩
  | limit + 5 => ⟨rfl, fun _ => ⟨rfl, fun _ => inOrder_count limit⟩⟩

theorem calls_queueCoroutine (ds : Device) (d : WorkDivision) (limit : Nat) (stop : Outcome Unit)
    (buffers : Array Bytes) : Calls ds d queueCoroutine limit stop buffers :=
  fun _ _ _ _ => match limit with
    | 0 | 1 | _ + 2 => ⟨_, rfl⟩

def queueDivision : WorkDivision :=
  ⟨[3], [1], [1]⟩

def queueDevice : Device :=
  .host .standard 0

def cutOff : Outcome Unit :=
  .error (.fault (.raised (some "cut off")))

/-- The first block counts to four. The second one finds that and panics. -/
theorem coroutines_agree_queueCoroutine :
    (((threads queueDevice .standard).launchCoroutine queueDivision queueCoroutine 40 cutOff
        #[.zeros]).result = .error (.error (.kernelPanicked 1 0 "odd")) ∧
      ((fibers queueDevice .standard).launchCoroutine queueDivision queueCoroutine 40 cutOff
        #[.zeros]).result = .error (.error (.kernelPanicked 1 0 "odd"))) ∧
    (((threads queueDevice .standard).launchCoroutine queueDivision queueCoroutine 40 cutOff
        #[.zeros]).buffers.map (fun bytes => bytes.get 0) = #[5] ∧
      ((fibers queueDevice .standard).launchCoroutine queueDivision queueCoroutine 40 cutOff
        #[.zeros]).buffers.map (fun bytes => bytes.get 0) = #[5]) := by
  have hresult : ((serial queueDevice).launchCoroutine queueDivision queueCoroutine 40 cutOff
      #[.zeros]).result = .error (.error (.kernelPanicked 1 0 "odd")) := by
    decide +kernel
  have hbytes : ((serial queueDevice).launchCoroutine queueDivision queueCoroutine 40 cutOff
      #[.zeros]).buffers.map (fun bytes => bytes.get 0) = #[5] := by
    decide +kernel
  obtain ⟨hagree, -⟩ := @coroutines_agree queueDevice queueDevice queueDevice .standard
    queueDivision rfl rfl rfl rfl rfl rfl rfl rfl queueCoroutine #[.zeros]
    (fun limit lane _ => inOrder_queueCoroutine limit lane)
    fun limit stop => calls_queueCoroutine queueDevice queueDivision limit stop #[.zeros]
  obtain ⟨hthreads, hfibers⟩ := hagree 40 cutOff
  refine ⟨⟨hthreads.result_eq.trans hresult, hfibers.result_eq.trans hresult⟩, ?_, ?_⟩
  · rw [hthreads.buffers_eq]
    exact hbytes
  · rw [hfibers.buffers_eq]
    exact hbytes

inductive SwapState : Nat → Type
  | called : SwapState 0
  | polled : SwapState 0
  | one : SwapState 1
  | both : SwapState 2
  | other : SwapState 1
  | found (offset : Nat) : SwapState 0
  | last : SwapState 0

/-- Two requests are made and awaited in the opposite order. The offset of the first one is kept in
a buffer. -/
def swapCoroutine : Coroutine where
  State := SwapState
  act state := match state with
    | .called => .ready .polled
    | .polled => .ask .u8 8 .one
    | .one => .ask .u8 8 .both
    | .both => .await 1 fun _ => .other
    | .other => .await 0 fun answer => .found ((answer.map (·.offset)).toOption.getD 0)
    | .found offset => .access ⟨.buffer 0, 0⟩ .u8 (.store offset) fun _ => .last
    | .last => .finish (.ok ())
  start _ := .called
  sharedBytes _ := 16
  dynamicBytes _ := 0

/-- The call panics, so that there is no future. -/
def refusingCoroutine : Coroutine where
  State _ := Unit
  act _ := .panic (.raised (some "boom"))
  start _ := ()
  sharedBytes _ := 0
  dynamicBytes _ := 0

def loneDivision : WorkDivision :=
  ⟨[1], [1], [1]⟩

def loneBackends : List Backend :=
  [serial queueDevice, threads queueDevice .standard, fibers queueDevice .standard]

/-- All of them accept the division and no lane is cut off. But the older of two requests is met by
the first bytes only where it is met when it is made, and a panic in a call is the failure of a lane
only where a lane is called on its own. -/
theorem coroutines_differ :
    (∀ b ∈ loneBackends, loneDivision.validate b.limits = .ok ()) ∧
    (loneBackends.map fun b =>
      (b.launchCoroutine loneDivision swapCoroutine 7 cutOff #[.zeros]).result) =
        [.ok (), .ok (), .ok ()] ∧
    (loneBackends.map fun b =>
      (b.launchCoroutine loneDivision swapCoroutine 7 cutOff #[.zeros]).buffers.map fun bytes =>
        bytes.get 0) = [#[0], #[8], #[8]] ∧
    (loneBackends.map fun b =>
      (b.launchCoroutine loneDivision refusingCoroutine 7 cutOff #[]).result) =
        [.error (.error (.kernelPanicked 0 0 "boom")), .error (.error (.kernelPanicked 0 0 "boom")),
          .error (.fault (.raised (some "boom")))] := by
  decide +kernel

end Backend

end LaneGrid
