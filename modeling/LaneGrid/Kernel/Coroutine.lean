import LaneGrid.Block.Team

/-!
A kernel as a function that is called and gives a future. What the function does itself is done by
the call, and the rest when the future is polled. A request for shared memory is a future too: the
lane can hold it, await it after others, or let it go. Where each lane reserves for itself, a
request is met when it is made; where the master reserves, when it is awaited.

A coroutine need not come to an end, so its programs follow it for so many actions only.
-/

namespace LaneGrid

/-- What a lane does next. It stands in a state of `S n` while it holds `n` requests. -/
inductive Coroutine.Action (S : Nat → Type) (n : Nat) where
  | panic (f : Fault)
  | finish (outcome : Except Error Unit)
  /-- The call is over: what follows waits until the future is polled. An action that only a future
  can take says as much. -/
  | ready (next : S n)
  /-- Looks up which lane the thread is running. -/
  | identity (next : Option Nat → S n)
  | arrive (scope : Scope) (contribution : Option Contribution) (next : Word → S n)
  | ask (kind : ElementKind) (length : Nat) (next : S (n + 1))
  /-- Awaits one of the requests that are held, in the order in which they were made. -/
  | await (request : Fin n) (next : Except Error SharedSlice → S (n - 1))
  | reserved (next : Nat → S n)
  | access (place : Place) (kind : ElementKind) (access : Access kind)
      (next : Element kind → S n)

structure Coroutine where
  State : Nat → Type
  act : {n : Nat} → State n → Coroutine.Action State n
  start : Lane → State 0
  sharedBytes : WorkDivision → Nat
  dynamicBytes : WorkDivision → Nat

namespace Observation

def ofIdentity (lane : Option Nat) : Observation :=
  .several (lane.toList.map .number)

def ofAnswer : Except Error SharedSlice → Observation
  | .ok s => .several [.text s.kind.name, .number s.offset, .number s.length]
  | .error e => .failure e

end Observation

namespace Coroutine

/-- A request that has not been awaited. -/
inductive Request where
  | met (answer : Except Error SharedSlice)
  | pending (kind : ElementKind) (length : Nat)

/-- Requests that a lane holds, the oldest first. -/
structure Requests (n : Nat) where
  items : List Request
  length_eq : items.length = n

namespace Requests

variable {n : Nat}

def empty : Requests 0 :=
  ⟨[], rfl⟩

def add (h : Requests n) (r : Request) : Requests (n + 1) :=
  ⟨h.items ++ [r], by simp [h.length_eq]⟩

def get (h : Requests n) (i : Fin n) : Request :=
  h.items.get (i.cast h.length_eq.symm)

def erase (h : Requests n) (i : Fin n) : Requests (n - 1) :=
  ⟨h.items.eraseIdx i, by
    rw [List.length_eraseIdx_of_lt (h.length_eq.symm ▸ i.isLt), h.length_eq]⟩

end Requests

/-- What a lane does in so many actions, all of them inside its future. Whatever it is answered is
noted, and `stop` is its outcome if it has not ended by then. -/
def program (k : Coroutine) (reserver : Reserver) (lane : Nat) (stop : Outcome Unit) (fuel : Nat)
    {n : Nat} (held : Requests n) (x : k.State n) : Program :=
  match fuel with
  | 0 => .finish stop
  | fuel + 1 =>
    match k.act x with
    | .panic f => .finish (.error (.fault f))
    | .finish outcome => .finish (outcome.mapError .error)
    | .ready next => k.program reserver lane stop fuel held next
    | .identity next =>
      .note (.ofIdentity (some lane)) (k.program reserver lane stop fuel held (next (some lane)))
    | .arrive scope c next => .arrive scope c fun w =>
      .note (.number w.toNat) (k.program reserver lane stop fuel held (next w))
    | .ask kind length next =>
      match reserver with
      | .lane => .allocate kind length fun answer =>
        k.program reserver lane stop fuel (held.add (.met answer)) next
      | .master => k.program reserver lane stop fuel (held.add (.pending kind length)) next
    | .await i next =>
      match held.get i with
      | .met answer =>
        .note (.ofAnswer answer) (k.program reserver lane stop fuel (held.erase i) (next answer))
      | .pending kind length => .allocate kind length fun answer =>
        .note (.ofAnswer answer) (k.program reserver lane stop fuel (held.erase i) (next answer))
    | .reserved next => .reserved fun bytes =>
      .note (.number bytes) (k.program reserver lane stop fuel held (next bytes))
    | .access place kind a next => .access place kind a fun x =>
      .note (.element kind x) (k.program reserver lane stop fuel held (next x))

theorem within_program (k : Coroutine) (reserver : Reserver) (lane : Nat) (stop : Outcome Unit)
    (fuel : Nat) {n : Nat} (held : Requests n) (x : k.State n) :
    (k.program reserver lane stop fuel held x).Within (2 * fuel) := by
  induction fuel generalizing n with
  | zero => exact .finish
  | succ fuel ih =>
      rw [program, Nat.mul_succ]
      cases k.act x with
      | panic f => exact .finish
      | finish outcome => exact .finish
      | ready next => exact (ih held next).mono (by omega)
      | identity next => exact .note ((ih held _).mono (by omega))
      | arrive scope c next => exact .arrive fun w => .note (ih held _)
      | ask kind length next =>
          cases reserver with
          | lane => exact .allocate fun answer => (ih _ next).mono (by omega)
          | master => exact (ih _ next).mono (by omega)
      | await i next =>
          dsimp only
          split
          · exact .note ((ih _ _).mono (by omega))
          · exact .allocate fun answer => .note (ih _ _)
      | reserved next => exact .reserved fun bytes => .note (ih held _)
      | access place kind a next => exact .access fun x => .note (ih held _)

/-- The kernel whose lanes stop after so many actions. -/
def kernel (k : Coroutine) (reserver : Reserver) (limit : Nat) (stop : Outcome Unit) : Kernel where
  program lane := k.program reserver lane.number stop limit .empty (k.start lane)
  sharedBytes := k.sharedBytes
  dynamicBytes := k.dynamicBytes
  bound _ := 2 * limit
  within lane := k.within_program reserver lane.number stop limit .empty (k.start lane)

/-- What the call of a kernel's function leaves behind. -/
structure Called where
  memory : Memory
  journal : Array Observation
  /-- What the future has still to do. -/
  rest : Except Fault Program

/-- Calls the function of a lane while the thread runs no lane. The call cannot have anything
reserved, since the master reserves for futures that are polled. -/
def call (k : Coroutine) (lane : Nat) (stop : Outcome Unit) (fuel : Nat) {n : Nat}
    (held : Requests n) (x : k.State n) (memory : Memory) (journal : Array Observation) :
    Called :=
  match fuel with
  | 0 => ⟨memory, journal, .ok (.finish stop)⟩
  | fuel + 1 =>
    match k.act x with
    | .panic f => ⟨memory, journal, .error f⟩
    | .identity next =>
      k.call lane stop fuel held (next none) memory (journal.push (.ofIdentity none))
    | .ask kind length next =>
      k.call lane stop fuel (held.add (.pending kind length)) next memory journal
    | .reserved next => k.call lane stop fuel held (next 0) memory (journal.push (.number 0))
    | .access place kind a next =>
      match memory.access place a with
      | .ok (x, memory) =>
        k.call lane stop fuel held (next x) memory (journal.push (.element kind x))
      | .error f => ⟨memory, journal, .error f⟩
    | .ready _ | .finish _ | .arrive .. | .await .. =>
      ⟨memory, journal, .ok (k.program .master lane stop (fuel + 1) held x)⟩

/-- Calls the function for some lanes, one after the other. A fault in a call is the fault of the
whole block. -/
def callAll (k : Coroutine) (limit : Nat) (stop : Outcome Unit) :
    List Lane → Memory → Array Member →
      Except (Fault × List (List Observation) × Memory) (Memory × Array Member)
  | [], memory, members => .ok (memory, members)
  | lane :: rest, memory, members =>
    let called := k.call lane.number stop limit .empty (k.start lane) memory #[]
    match called.rest with
    | .ok p => k.callAll limit stop rest called.memory
      (members.push ⟨.running p, 0, called.journal⟩)
    | .error f => .error (f,
      (members.map fun m => m.journal.toList).toList ++ [called.journal.toList], called.memory)

end Coroutine

end LaneGrid
