import LaneGrid.Backend.Launch
import LaneGrid.Memory.Region
import LaneGrid.Queue.Task
import LaneGrid.Script.Kernel

namespace LaneGrid.Script

structure Scene where
  log : Array String
  region : Region
  bytes : Bytes

/-- Doubles the lane's own element and adds a word to it. -/
def doubling (summand : Word) : List Instruction :=
  let own : Expression := .quantity .gridThread
  let twice : Expression := .apply .mul (.register "own") (.word 2)
  [⟨none, true, some "own", .buffer [own] .load true⟩,
    ⟨none, true, none, .buffer [own] (.store (.apply .add twice (.word summand))) true⟩]

def Scene.double (b : Backend) (blocks threads : Nat) (summand : Word) (s : Scene) :
    Outcome Unit × Scene :=
  match WorkDivision.linear blocks threads 1 with
  | .error e => (.error (.error e), s)
  | .ok d =>
    let script : Script := ⟨s.region, 0, 0, doubling summand⟩
    let r := b.launch d script.kernel #[s.bytes]
    (r.result, { s with bytes := r.buffers[0]?.getD s.bytes })

inductive TaskAction where
  | log (text : String)
  | fail (message : String)
  | raise (text : Option String)
  | pass (gate : Nat)
  | double (blocks threads : Nat) (summand : Word)
  deriving Repr

def TaskAction.step : TaskAction → TaskStep Scene
  | log text => .act fun _ s => (.ok (), { s with log := s.log.push text })
  | fail message => .act fun _ s => (.error (.error (.other message)), s)
  | raise text => .act fun _ s => (.error (.fault (.raised text)), s)
  | pass gate => .pass gate
  | double blocks threads summand => .act fun b s => s.double b blocks threads summand

end LaneGrid.Script
