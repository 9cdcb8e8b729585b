import LaneGrid.Memory.Region
import LaneGrid.Script.Instruction

namespace LaneGrid

structure Script where
  region : Region
  sharedBytes : Nat
  dynamicBytes : Nat
  instructions : List Script.Instruction

namespace Script

/-- How an action hands on its result: what is shown, its number, and what is remembered. -/
abbrev Give := Observation → Word → Frame → Program

def numbers (xs : List Nat) : Observation :=
  .several (xs.map .number)

def giveWord (give : Give) (f : Frame) (w : Word) : Program :=
  give (.number w.toNat) w f

def giveFlag (give : Give) (f : Frame) (b : Bool) : Program :=
  give (.flag b) (if b then 1 else 0) f

/-- The result of an action that is a list has the number zero. -/
def giveList (give : Give) (f : Frame) (items : List Observation) : Program :=
  give (.several items) 0 f

def giveSlice (give : Give) (f : Frame) (s : SharedSlice) : Program :=
  Program.withValue s.stop fun stop =>
    giveList give (f.addSlice s)
      [.number s.offset, .number stop, .number s.length, .flag (s.length = 0),
        .text s.description]

def laneIndices (l : Lane) : Except Fault (List Observation) := do
  return [numbers l.blockIndex, numbers l.threadIndex, numbers (← l.gridThreadIndex),
    .number (← l.blockNumber), .number (← l.threadNumber), .number (← l.gridThreadNumber),
    numbers (← l.elementOrigin), .number l.warpSize, .number (← l.placeInWarp)]

def ballotBit (l : Lane) (yes : Bool) : Except Fault Word := do
  let place ← l.placeInWarp
  if 64 ≤ place then .error .shiftOverflow
  else return (if yes then 1 else 0 : Word) <<< place

/-- Performs an access, and hands on the value found unless the access has no result. -/
def touch (place : Place) {k : ElementKind} (a : Access k) (answers : Bool) (f : Frame)
    (give : Give) (skip : Frame → Program) : Program :=
  .access place k a fun x => if answers then give (.element k x) x.widen f else skip f

def eachElement (l : Lane) (origin : List Nat) (body : List Nat → (Unit → Program) → Program)
    (next : Unit → Program) : Nat → Nat → Program
  | 0, _ => next ()
  | n + 1, i =>
    Program.withValue (l.elementIndex origin i) fun index =>
      body index fun _ => eachElement l origin body next n (i + 1)

def allElements (l : Lane) (body : List Nat → (Unit → Program) → Program)
    (next : Unit → Program) : Program :=
  Program.withValue l.elementOrigin fun origin =>
    Program.withValue l.elementCount fun n => eachElement l origin body next n 0

def updateElement (r : Region) (a : Access r.kind) (clipped : Bool) (index : List Nat)
    (next : Unit → Program) : Program :=
  if clipped && !Axes.isWithin index r.layout.extent then next ()
  else Program.withAccepted (r.layout.offset index) fun offset =>
    .access ⟨.buffer 0, offset⟩ r.kind a fun _ => next ()

def numberElement (r : Region) (w : Word) (index : List Nat) (next : Unit → Program) : Program :=
  if !Axes.isWithin index r.layout.extent then next ()
  else Program.withValue (Axes.linearize wordArithmetic index r.layout.extent) fun number =>
    Program.withAccepted (r.layout.offset index) fun offset =>
      .access ⟨.buffer 0, offset⟩ r.kind
        (.store ((w + BitVec.ofNat 64 number).setWidth r.kind.bits)) fun _ => next ()

/-- A refusal that counts as a fault where refusals are not handled. -/
def asFault {α : Type} (faulting : Bool) : Outcome α → Outcome α
  | .error (.error e) => .error (if faulting then .fault (.refused e) else .error e)
  | r => r

/-- One action of a lane. A result goes to `give`; without one the lane goes on with `skip`. -/
def Action.perform (r : Region) (l : Lane) (f : Frame) (give : Give) (skip : Frame → Program)
    (a : Action) : Program :=
  let value (x : Expression) (next : Word → Program) : Program :=
    Program.withValue (x.eval l f) next
  match a with
  | indices => Program.withValue (laneIndices l) (giveList give f)
  | elements => Program.withValue l.elementIndices fun xs => giveList give f (xs.map numbers)
  | identity => giveList give f [.number l.number, .flag l.isMaster]
  | groups => giveList give f [.number l.blockGroup, .number l.warpGroup]
  | compute x => value x (giveWord give f)
  | sync => .arrive .block none fun _ => skip f
  | vote p x => value x fun w =>
      .arrive .block (some (p.contribution (w ≠ 0))) (giveWord give f)
  | reduce scope o x => value x fun w => .arrive scope (some ⟨o, w⟩) (giveWord give f)
  | warpVote p x => value x fun w =>
      .arrive .warp (some (p.contribution (w ≠ 0))) fun w => giveFlag give f (w ≠ 0)
  | ballot x =>
      let yes : Except Fault Bool := match x with
        | some x => do return (← x.eval l f) ≠ 0
        | none => .ok true
      Program.withValue yes fun b => Program.withValue (ballotBit l b) fun bit =>
        .arrive .warp (some ⟨.bitOr, bit⟩) (giveWord give f)
  | onesCount x => value x fun w => giveWord give f (BitVec.ofNat 64 (LaneGrid.onesCount w))
  | lowestOne x => value x fun w => giveWord give f (BitVec.ofNat 64 (LaneGrid.lowestOne w))
  | allocate k length caught => value length fun n => .allocate k n.toNat fun
      | .ok s => giveSlice give f s
      | .error e => if caught then give (.failure e) 0 f else .finish (.error (.error e))
  | dynamic k => giveSlice give f (l.arena.dynamicSlice k)
  | reserved => .reserved fun n => giveWord give f (BitVec.ofNat 64 n)
  | shared number index t =>
      Program.withValue (f.slice number) fun s =>
        value index fun i => Program.withValue (t.access l f s.kind) fun a =>
          Program.withValue (s.place i.toNat) fun offset =>
            touch ⟨.shared, offset⟩ a t.answers f give skip
  | buffer index t faulting =>
      Program.withValue (index.mapM (·.eval l f)) fun index =>
        Program.withValue (t.access l f r.kind) fun a =>
          Program.withAccepted (asFault faulting (r.layout.offset (index.map BitVec.toNat)))
            fun offset => touch ⟨.buffer 0, offset⟩ a t.answers f give skip
  | updateElements op x clipped => value x fun w =>
      allElements l (updateElement r (.update op (w.setWidth r.kind.bits)) clipped) fun _ => skip f
  | numberElements x => value x fun w => allElements l (numberElement r w) fun _ => skip f
  | fail message => .finish (.error (.error (.execution message)))
  | raise text => .finish (.error (.fault (.raised text)))
  | stop => .finish (.ok ())

def Instruction.give (i : Instruction) (next : Frame → Program) : Give := fun entry w f =>
  let f := match i.target with
    | some name => f.setRegister name w
    | none => f
  if i.quiet then next f else .note entry (next f)

/-- One instruction of a lane, unless its condition is zero. -/
def Instruction.perform (r : Region) (l : Lane) (f : Frame) (next : Frame → Program)
    (i : Instruction) : Program :=
  match i.condition with
  | none => i.action.perform r l f (i.give next) next
  | some c => Program.withValue (c.eval l f) fun w =>
      if w = 0 then next f else i.action.perform r l f (i.give next) next

def program (r : Region) (l : Lane) : List Instruction → Frame → Program
  | [], _ => .finish (.ok ())
  | i :: rest, f => i.perform r l f (program r l rest)

/-- Operations that one instruction takes at most: one and its entry in the journal, or one for
each element. -/
def cost (d : WorkDivision) : Nat :=
  2 + ((Axes.product wordArithmetic d.threadElements).toOption.getD 0)

section Bounds

open Program

variable {n m : Nat} {l : Lane} {r : Region} {f : Frame} {skip : Frame → Program}

/-- Results can be handed on in `n + 1` operations. -/
def Giving (n : Nat) (give : Give) : Prop :=
  ∀ entry w f, Within (n + 1) (give entry w f)

theorem within_eachElement {origin : List Nat} {body : List Nat → (Unit → Program) → Program}
    {next : Unit → Program} {count i : Nat}
    (hbody : ∀ index m rest, Within m (rest ()) → Within (m + 1) (body index rest))
    (hnext : Within n (next ())) : Within (n + count) (eachElement l origin body next count i) := by
  induction count generalizing i with
  | zero => exact hnext
  | succ count ih => exact .withValue fun index => hbody index _ _ ih

theorem within_allElements {body : List Nat → (Unit → Program) → Program}
    {next : Unit → Program}
    (hbody : ∀ index m rest, Within m (rest ()) → Within (m + 1) (body index rest))
    (hnext : Within n (next ())) : Within (n + cost l.division) (allElements l body next) := by
  refine .withValue fun origin => ?_
  unfold Program.withValue Lane.elementCount cost
  split
  · rename_i count h
    rw [h]
    exact (within_eachElement hbody hnext).mono (by simp [Except.toOption])
  · exact .finish

theorem within_updateElement {a : Access r.kind} {clipped : Bool} {index : List Nat}
    {rest : Unit → Program} (h : Within m (rest ())) :
    Within (m + 1) (updateElement r a clipped index rest) := by
  unfold updateElement
  split
  · exact h.mono (by omega)
  · exact .withAccepted fun _ => .access fun _ => h

theorem within_numberElement {w : Word} {index : List Nat} {rest : Unit → Program}
    (h : Within m (rest ())) : Within (m + 1) (numberElement r w index rest) := by
  unfold numberElement
  split
  · exact h.mono (by omega)
  · exact .withValue fun _ => .withAccepted fun _ => .access fun _ => h

theorem within_touch {place : Place} {k : ElementKind} {a : Access k} {answers : Bool}
    {give : Give} (hg : Giving n give) (hs : ∀ f, Within n (skip f)) :
    Within (n + 2) (touch place a answers f give skip) := by
  refine .access fun x => ?_
  split
  · exact hg _ _ _
  · exact (hs f).mono (by omega)

theorem within_action {give : Give} (hg : Giving n give) (hs : ∀ f, Within n (skip f))
    (a : Action) : Within (n + cost l.division) (a.perform r l f give skip) := by
  have two : n + 2 ≤ n + cost l.division := by unfold cost; omega
  have gives : ∀ entry w f, Within (n + cost l.division) (give entry w f) :=
    fun entry w f => (hg entry w f).mono (by omega)
  cases a with
  | indices => exact .withValue fun _ => gives _ _ _
  | elements => exact .withValue fun _ => gives _ _ _
  | identity => exact gives _ _ _
  | groups => exact gives _ _ _
  | compute x => exact .withValue fun _ => gives _ _ _
  | sync => exact .mono (.arrive fun _ => (hs f).mono (Nat.le_succ n)) two
  | vote p x => exact .withValue fun _ => .mono (.arrive fun _ => hg _ _ _) two
  | reduce scope o x => exact .withValue fun _ => .mono (.arrive fun _ => hg _ _ _) two
  | warpVote p x => exact .withValue fun _ => .mono (.arrive fun _ => hg _ _ _) two
  | ballot x =>
      exact .withValue fun _ => .withValue fun _ => .mono (.arrive fun _ => hg _ _ _) two
  | onesCount x => exact .withValue fun _ => gives _ _ _
  | lowestOne x => exact .withValue fun _ => gives _ _ _
  | allocate k length caught =>
      refine .withValue fun _ => .mono (.allocate fun s => ?_) two
      cases s with
      | ok s => exact .withValue fun _ => hg _ _ _
      | error e =>
          dsimp only
          split
          · exact hg _ _ _
          · exact .finish
  | dynamic k => exact .withValue fun _ => gives _ _ _
  | reserved => exact .mono (.reserved fun _ => hg _ _ _) two
  | shared number index t =>
      exact .withValue fun _ => .withValue fun _ => .withValue fun _ => .withValue fun _ =>
        (within_touch hg hs).mono two
  | buffer index t faulting =>
      exact .withValue fun _ => .withValue fun _ => .withAccepted fun _ =>
        (within_touch hg hs).mono two
  | updateElements op x clipped =>
      exact .withValue fun _ => within_allElements (fun _ _ _ => within_updateElement) (hs f)
  | numberElements x =>
      exact .withValue fun _ => within_allElements (fun _ _ _ => within_numberElement) (hs f)
  | fail message => exact .finish
  | raise text => exact .finish
  | stop => exact .finish

theorem giving_give {i : Instruction} {next : Frame → Program} (h : ∀ f, Within n (next f)) :
    Giving n (i.give next) := by
  intro entry w f
  unfold Instruction.give
  dsimp only
  split
  · exact (h _).mono (Nat.le_succ n)
  · exact .note (h _)

theorem within_instruction {next : Frame → Program} (h : ∀ f, Within n (next f))
    (i : Instruction) : Within (n + cost l.division) (i.perform r l f next) := by
  have run := within_action (l := l) (r := r) (f := f) (giving_give (i := i) h) h i.action
  unfold Instruction.perform
  split
  · exact run
  · refine .withValue fun w => ?_
    split
    · exact (h f).mono (by omega)
    · exact run

/-- A script ends after at most `cost` operations for each of its instructions. -/
theorem within_program (instructions : List Instruction) :
    Within (instructions.length * cost l.division) (program r l instructions f) := by
  induction instructions generalizing f with
  | nil => exact .finish
  | cons i rest ih =>
      rw [List.length_cons, Nat.add_one_mul]
      exact within_instruction (fun f => ih) i

end Bounds

def kernel (s : Script) : Kernel where
  program l := program s.region l s.instructions .empty
  sharedBytes _ := s.sharedBytes
  dynamicBytes _ := s.dynamicBytes
  bound d := s.instructions.length * cost d
  within _ := within_program s.instructions

end Script

end LaneGrid
