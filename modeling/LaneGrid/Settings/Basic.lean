namespace LaneGrid

structure HostSettings where
  /-- Cap on the bytes of live host buffers. -/
  memoryLimit : Option Nat
  /-- Lanes per block when each lane has a thread of its own. -/
  blockThreads : Nat
  /-- Lanes per block when all lanes share one thread. -/
  fiberBlockThreads : Nat
  sharedBytes : Nat
  deriving DecidableEq, Repr

def HostSettings.standard : HostSettings where
  memoryLimit := none
  blockThreads := 1024
  fiberBlockThreads := 64
  sharedBytes := 65536

structure AcceleratorSettings where
  name : String
  deviceCount : Nat
  globalBytes : Nat
  sharedBytes : Nat
  /-- Lanes per block, also the limit per axis. -/
  blockThreads : Nat
  multiprocessors : Nat
  pitchAlignment : Nat
  gridBlockExtent : Nat
  warpSize : Nat
  deriving DecidableEq, Repr

/-- The standard accelerator on a machine that can run `multiprocessors` blocks at a time. -/
def AcceleratorSettings.standard (multiprocessors : Nat) : AcceleratorSettings where
  name := "polyacc simulated accelerator"
  deviceCount := 1
  globalBytes := 268435456
  sharedBytes := 49152
  blockThreads := 256
  multiprocessors := multiprocessors
  pitchAlignment := 256
  gridBlockExtent := 4294967295
  warpSize := 32

structure Settings where
  host : HostSettings
  accelerator : AcceleratorSettings
  deriving DecidableEq, Repr

def Settings.standard (multiprocessors : Nat) : Settings where
  host := HostSettings.standard
  accelerator := AcceleratorSettings.standard multiprocessors

end LaneGrid
