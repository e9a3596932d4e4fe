import Sftp.OpenHandle

/-!
# Open directories

The server hands out the entries of a directory in batches, and the entries for the directory
itself and its parent are left out. Listing a path opens the directory when the first entry is
asked for and closes it when the listing is over or its consumer stops.
-/

namespace Sftp

/-- An open directory. -/
structure OpenDirectory where
  /-- Its handle. -/
  base : OpenHandle
  /-- Whether the server has said that there are no more entries. -/
  exhausted : Bool := false
  deriving DecidableEq, Inhabited

instance : OwnsHandle OpenDirectory where
  base d := d.base
  withBase d base := { d with base }

/-- Whether a name stands for the directory itself or its parent. -/
def isDotName (name : Text) : Bool :=
  name = Text.ofString "." || name = Text.ofString ".."

/-- The statistics of the entries that are listed. -/
def listed (entries : List NameEntry) : List FileStats :=
  (entries.filter fun e => !isDotName e.filename).map fun e =>
    .ofAttributes e.filename e.attrs

/-- Entries that were listed, and the fault that ended the listing, if one did. -/
structure Listing where
  /-- The entries. -/
  entries : List FileStats
  /-- The fault that ended it. -/
  fault : Option Fault := none

namespace OpenDirectory

variable {σ : Type}

/-- A step on an open directory. -/
abbrev Action (σ α : Type) : Type := Step (Held OpenDirectory σ) α

open Held

/-- Fetches batches until one has an entry or there are no more. -/
def nextBatch : Nat → Action σ (List FileStats)
  | 0 => throw .outOfPatience
  | rounds + 1 => do
    let directory ← current
    if directory.exhausted then
      return []
    else
      match ← (onClient (Client.readDirectory directory.base.handle)).attempt with
      | .ok entries =>
        let batch := listed entries
        if batch.isEmpty then
          nextBatch rounds
        else
          return batch
      | .error f =>
        if f.isEnd then
          update fun d => { d with exhausted := true }
          return []
        else
          throw f

/-- The next entries, none once the directory is exhausted. -/
def read : Action σ (List FileStats) := do
  ensureOpen
  let held ← get
  nextBatch held.client.patience

/-- Goes through the entries until the consumer has enough or there are no more. -/
def collect (wanted : Option Nat) : Nat → List FileStats → Action σ Listing
  | 0, seen => return { entries := seen, fault := some .outOfPatience }
  | rounds + 1, seen => do
    if wanted.any (· ≤ seen.length) then
      return { entries := seen }
    else
      match ← (read : Action σ (List FileStats)).attempt with
      | .error f => return { entries := seen, fault := some f }
      | .ok [] => return { entries := seen }
      | .ok batch =>
        match wanted with
        | none => collect wanted rounds (seen ++ batch)
        | some n => collect wanted rounds (seen ++ batch.take (n - seen.length))

/-- The entries, up to as many as are wanted. -/
def iterate (wanted : Option Nat) : Action σ Listing := do
  let held ← get
  collect wanted (held.client.patience + 1) []

end OpenDirectory

namespace Client

variable {σ : Type}

/-- Opens a directory. -/
def openDirectory (path : Text) : Step (Client σ) OpenDirectory := do
  let handle ← ask (.opendir path) Reply.handle
  return { base := { kind := .directory, handle, path } }

/-- The entries of a directory, up to as many as are wanted. With none wanted, nothing is sent. A
fault of releasing the directory ends the listing like any other. -/
def list (path : Text) (wanted : Option Nat := none) : Step (Client σ) Listing := do
  if wanted = some 0 then
    return { entries := [] }
  else
    match ← (openDirectory path : Step (Client σ) OpenDirectory).attempt with
    | .error f => return { entries := [], fault := some f }
    | .ok directory =>
      Step.within (fun client => { object := directory, client }) (fun _ held => held.client) do
        let listing ← OpenDirectory.iterate wanted
        match ← (Held.close : OpenDirectory.Action σ Unit).attempt with
        | .error f => return { listing with fault := some f }
        | .ok () => return listing

end Client

end Sftp
