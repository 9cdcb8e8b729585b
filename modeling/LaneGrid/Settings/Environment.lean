import LaneGrid.Error
import LaneGrid.Settings.Basic
import LaneGrid.Text.Blank
import LaneGrid.Text.Word

namespace LaneGrid

/-- Variables with their values. A variable without a readable value counts as unset. -/
abbrev Environment := List (String × String)

namespace Settings

def numberVariables : List (String × (Nat → Settings → Settings)) :=
  let host (f : Nat → HostSettings → HostSettings) (v : Nat) (s : Settings) : Settings :=
    { s with host := f v s.host }
  let accelerator (f : Nat → AcceleratorSettings → AcceleratorSettings) (v : Nat)
      (s : Settings) : Settings :=
    { s with accelerator := f v s.accelerator }
  [ ("POLYACC_HOST_MEMORY_LIMIT", host fun v s => { s with memoryLimit := some v }),
    ("POLYACC_HOST_BLOCK_THREADS", host fun v s => { s with blockThreads := v }),
    ("POLYACC_HOST_FIBER_BLOCK_THREADS", host fun v s => { s with fiberBlockThreads := v }),
    ("POLYACC_HOST_SHARED_MEM", host fun v s => { s with sharedBytes := v }),
    ("POLYACC_SIM_GPU_DEVICES", accelerator fun v s => { s with deviceCount := v }),
    ("POLYACC_SIM_GPU_GLOBAL_MEM", accelerator fun v s => { s with globalBytes := v }),
    ("POLYACC_SIM_GPU_SHARED_MEM", accelerator fun v s => { s with sharedBytes := v }),
    ("POLYACC_SIM_GPU_BLOCK_THREADS", accelerator fun v s => { s with blockThreads := v }),
    ("POLYACC_SIM_GPU_MULTIPROCESSORS", accelerator fun v s => { s with multiprocessors := v }),
    ("POLYACC_SIM_GPU_PITCH_ALIGNMENT", accelerator fun v s => { s with pitchAlignment := v }),
    ("POLYACC_SIM_GPU_GRID_BLOCKS", accelerator fun v s => { s with gridBlockExtent := v }),
    ("POLYACC_SIM_GPU_WARP_SIZE", accelerator fun v s => { s with warpSize := v }) ]

/-- Reads one numeric variable. A value that is no number is refused, with the blanks around
it. -/
def readVariable (env : Environment) (s : Settings)
    (v : String × (Nat → Settings → Settings)) : Except Error Settings :=
  match env.lookup v.1 with
  | none => .ok s
  | some text =>
    match Text.word? (Text.trim text) with
    | some n => .ok (v.2 n s)
    | none => .error (.unreadable v.1 text)

def ofEnvironment (standard : Settings) (env : Environment) : Except Error Settings := do
  let s ← numberVariables.foldlM (readVariable env) standard
  match env.lookup "POLYACC_SIM_GPU_NAME" with
  | some name => return { s with accelerator := { s.accelerator with name } }
  | none => return s

end Settings

end LaneGrid
