import LaneGrid.Error
import LaneGrid.Settings.Basic

namespace LaneGrid

def isPowerOfTwo (n : Nat) : Bool :=
  n ≠ 0 && n &&& (n - 1) = 0

namespace Settings

/-- Lanes of the widest warp whose votes fit a machine word. -/
def warpSizeMax : Nat := 64

/-- The largest shared memory that a signed machine word can measure. -/
def sharedBytesMax : Nat := 9223372036854775807

def checkPositive (key : String) (value : Nat) : Except Error Unit :=
  if value = 0 then .error (.invalidValue key "must be positive") else .ok ()

def checkShared (key : String) (bytes : Nat) : Except Error Unit := do
  checkPositive key bytes
  if sharedBytesMax < bytes then
    throw (.invalidValue key s!"{bytes} exceeds {sharedBytesMax} bytes")

def validate (s : Settings) : Except Error Unit := do
  checkPositive "host.block_threads_max" s.host.blockThreads
  checkPositive "host.fiber_block_threads_max" s.host.fiberBlockThreads
  checkShared "host.shared_mem_bytes_max" s.host.sharedBytes
  checkPositive "host.memory_limit_bytes" (s.host.memoryLimit.getD wordMax)
  checkPositive "sim_gpu.global_mem_bytes" s.accelerator.globalBytes
  checkShared "sim_gpu.shared_mem_bytes_max" s.accelerator.sharedBytes
  checkPositive "sim_gpu.block_threads_max" s.accelerator.blockThreads
  checkPositive "sim_gpu.multiprocessor_count" s.accelerator.multiprocessors
  checkPositive "sim_gpu.grid_block_extent_max" s.accelerator.gridBlockExtent
  let alignment := s.accelerator.pitchAlignment
  if !isPowerOfTwo alignment then
    throw (.invalidValue "sim_gpu.pitch_alignment" s!"{alignment} is not a power of two")
  let warp := s.accelerator.warpSize
  if !isPowerOfTwo warp || warpSizeMax < warp then
    throw (.invalidValue "sim_gpu.warp_size"
      s!"{warp} is not a power of two up to {warpSizeMax}")

end Settings

end LaneGrid
