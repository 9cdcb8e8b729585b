import LaneGrid.Settings.Basic
import LaneGrid.Text.Json

/-!
Settings as JSON documents. A record is an object with some of its fields, or a list of its first
fields; fields that are left out keep their standard values. An object may have other members,
but none of the known ones twice.
-/

namespace LaneGrid

open Text (Json)

/-- A field of a record: its name, and how its value is taken from a document and put into one. -/
structure DocumentField (σ : Type) where
  name : String
  read : Json → σ → Option σ
  write : σ → String

namespace DocumentField

def ofWord {σ : Type} (name : String) (set : Nat → σ → σ) (get : σ → Nat) : DocumentField σ where
  name
  read
    | .number (some n), s => if n ≤ wordMax then some (set n s) else none
    | _, _ => none
  write s := toString (get s)

def ofOptionalWord {σ : Type} (name : String) (set : Option Nat → σ → σ) (get : σ → Option Nat) :
    DocumentField σ where
  name
  read
    | .null, s => some (set none s)
    | .number (some n), s => if n ≤ wordMax then some (set (some n) s) else none
    | _, _ => none
  write s := match get s with
    | some n => toString n
    | none => "null"

def ofText {σ : Type} (name : String) (set : String → σ → σ) (get : σ → String) :
    DocumentField σ where
  name
  read
    | .string (some text), s => some (set text s)
    | _, _ => none
  write s := Json.written (get s)

end DocumentField

namespace Record

variable {σ : Type}

/-- Reads the members of an object; `seen` are the known names that have occurred. -/
def ofMembers (fields : List (DocumentField σ)) (seen : List String) (s : σ) :
    List (Option String × Json) → Option σ
  | [] => some s
  | (name, value) :: rest => do
    let name ← name
    match fields.find? (·.name = name) with
    | none => ofMembers fields seen s rest
    | some field =>
      if seen.contains name then none
      else ofMembers fields (name :: seen) (← field.read value s) rest

def ofItems (s : σ) : List (DocumentField σ) → List Json → Option σ
  | _, [] => some s
  | [], _ :: _ => none
  | field :: fields, value :: values => do
    ofItems (← field.read value s) fields values

/-- Reads a record whose fields start with the values of `s`. -/
def read (fields : List (DocumentField σ)) (s : σ) : Json → Option σ
  | .object members => ofMembers fields [] s members
  | .array items => ofItems s fields items
  | _ => none

def write (fields : List (DocumentField σ)) (s : σ) : String :=
  "\x7b" ++ ",".intercalate (fields.map fun f => Json.written f.name ++ ":" ++ f.write s) ++ "\x7d"

end Record

def DocumentField.ofRecord {σ τ : Type} (name : String) (fields : List (DocumentField τ))
    (start : τ) (set : τ → σ → σ) (get : σ → τ) : DocumentField σ where
  name
  read j s := (Record.read fields start j).map fun x => set x s
  write s := Record.write fields (get s)

namespace HostSettings

def fields : List (DocumentField HostSettings) :=
  [ .ofOptionalWord "memory_limit_bytes" (fun v s => { s with memoryLimit := v }) memoryLimit,
    .ofWord "block_threads_max" (fun v s => { s with blockThreads := v }) blockThreads,
    .ofWord "fiber_block_threads_max" (fun v s => { s with fiberBlockThreads := v })
      fiberBlockThreads,
    .ofWord "shared_mem_bytes_max" (fun v s => { s with sharedBytes := v }) sharedBytes ]

end HostSettings

namespace AcceleratorSettings

def fields : List (DocumentField AcceleratorSettings) :=
  [ .ofText "name" (fun v s => { s with name := v }) name,
    .ofWord "device_count" (fun v s => { s with deviceCount := v }) deviceCount,
    .ofWord "global_mem_bytes" (fun v s => { s with globalBytes := v }) globalBytes,
    .ofWord "shared_mem_bytes_max" (fun v s => { s with sharedBytes := v }) sharedBytes,
    .ofWord "block_threads_max" (fun v s => { s with blockThreads := v }) blockThreads,
    .ofWord "multiprocessor_count" (fun v s => { s with multiprocessors := v }) multiprocessors,
    .ofWord "pitch_alignment" (fun v s => { s with pitchAlignment := v }) pitchAlignment,
    .ofWord "grid_block_extent_max" (fun v s => { s with gridBlockExtent := v })
      gridBlockExtent,
    .ofWord "warp_size" (fun v s => { s with warpSize := v }) warpSize ]

end AcceleratorSettings

namespace Settings

def fields (standard : Settings) : List (DocumentField Settings) :=
  [ .ofRecord "host" HostSettings.fields standard.host (fun v s => { s with host := v }) host,
    .ofRecord "sim_gpu" AcceleratorSettings.fields standard.accelerator
      (fun v s => { s with accelerator := v }) accelerator ]

def ofDocument? (standard : Settings) (text : String) : Option Settings := do
  Record.read (fields standard) standard (← Json.read? text)

def document (s : Settings) : String :=
  Record.write (fields s) s

end Settings

end LaneGrid
