import Sftp.OpenHandle

/-!
# Open files

An open file has an offset of its own: reading and writing in sequence start there and move it,
reading and writing at a position leave it alone. Transfers above the size of one request are cut
into several; a read stops at the first answer without bytes, a write at the first that is not
confirmed.
-/

namespace Sftp

/-- An open file. -/
structure OpenFile where
  /-- Its handle. -/
  base : OpenHandle
  /-- The flags it was opened with. -/
  flags : OpenFlags
  /-- Where reading and writing in sequence go on. -/
  offset : Int := 0
  /-- The most data bytes of one request. -/
  packetSize : Nat
  /-- A request has data. -/
  packetSize_pos : 0 < packetSize

instance : OwnsHandle OpenFile where
  base f := f.base
  withBase f base := { f with base }

/-- From where a seek counts. -/
inductive Origin
  /-- The start of the file. -/
  | start
  /-- The current offset. -/
  | current
  /-- The end of the file. -/
  | finish
  deriving DecidableEq, Inhabited

/-- The origin with the given number. -/
def Origin.ofNumber? : Int → Option Origin
  | 0 => some start
  | 1 => some current
  | 2 => some finish
  | _ => none

/-- What was transferred, and the fault that ended the transfer, if one did. -/
structure Transfer (α : Type) where
  /-- What was transferred. -/
  done : α
  /-- The fault that ended it. -/
  fault : Option Fault := none

namespace OpenFile

variable {σ : Type}

/-- A step on an open file. -/
abbrev Action (σ α : Type) : Type := Step (Held OpenFile σ) α

open Held

/-! ## Reading -/

/-- Reads up to `wanted` bytes at an offset, request by request, until they are there or an answer
has none. Each request but the last brings a byte, so `wanted` rounds are enough. -/
def fillLoop (file : OpenFile) : Nat → Nat → Int → List Bytes → Action σ (Transfer Bytes)
  | 0, _, _, parts => return { done := parts.reverse.flatten }
  | rounds + 1, wanted, offset, parts => do
    if wanted = 0 then
      return { done := parts.reverse.flatten }
    else
      match ← (onClient (Client.readChunk file.base.handle offset
          (min wanted file.packetSize : Nat))).attempt with
      | .error f => return { done := parts.reverse.flatten, fault := some f }
      | .ok chunk =>
        if chunk.isEmpty then
          return { done := parts.reverse.flatten }
        else
          fillLoop file rounds (wanted - chunk.length) (offset + chunk.length) (chunk :: parts)

/-- Reads up to `wanted` bytes at an offset. They are put together as they come: that a buffer for all of them is
made first, which can be more than there is room for, is left out. -/
def fill (wanted : Nat) (offset : Int) : Action σ (Transfer Bytes) := do
  let file ← current
  fillLoop file wanted wanted offset []

/-- The bytes of a transfer that no fault ended. -/
def Transfer.complete {α : Type} (t : Transfer α) : Action σ α :=
  match t.fault with
  | some f => throw f
  | none => return t.done

/-- Reads from an offset to the end of the file. -/
def readAllLoop (file : OpenFile) : Nat → Int → List Bytes → Action σ Bytes
  | 0, _, _ => throw .outOfPatience
  | rounds + 1, offset, parts => do
    let chunk ← onClient (Client.readChunk file.base.handle offset file.packetSize)
    if chunk.isEmpty then
      return parts.reverse.flatten
    else
      readAllLoop file rounds (offset + chunk.length) (chunk :: parts)

/-- Moves the offset forward. -/
def advance (n : Nat) : Action σ Unit :=
  update fun f => { f with offset := f.offset + n }

/-- Reads up to `size` bytes, or to the end of the file if the size is missing or negative. -/
def read (size : Option Int) : Action σ Bytes := do
  ensureOpen
  let file ← current
  let data ←
    match size.filter (0 ≤ ·) with
    | none => do
      let held ← get
      readAllLoop file held.client.patience file.offset []
    | some n => do
      let t ← fill n.toNat file.offset
      Transfer.complete t
  advance data.length
  return data

/-- Reads up to `size` bytes at an offset. -/
def readAt (size : Int) (offset : Int) : Action σ Bytes := do
  ensureOpen
  if size < 0 then
    throw .negativeCount
  let t ← fill size.toNat offset
  Transfer.complete t

/-- A buffer whose first bytes are replaced. -/
def overlay (buffer data : Bytes) : Bytes :=
  data ++ buffer.drop data.length

/-- Reads into a buffer at an offset. The buffer also shows what came before a fault. -/
def readIntoAt (buffer : Bytes) (offset : Int) : Action σ (Except Fault Nat × Bytes) := do
  match ← (ensureOpen : Action σ Unit).attempt with
  | .error f => return (.error f, buffer)
  | .ok () =>
    let t ← fill buffer.length offset
    match t.fault with
    | some f => return (.error f, overlay buffer t.done)
    | none => return (.ok t.done.length, overlay buffer t.done)

/-- Reads into a buffer and moves the offset. -/
def readInto (buffer : Bytes) : Action σ (Except Fault Nat × Bytes) := do
  let file ← current
  let (count, buffer) ← readIntoAt buffer file.offset
  match count with
  | .ok n => advance n
  | .error _ => pure ()
  return (count, buffer)

/-! ## Writing -/

/-- Writes data at an offset, slice by slice, until all are confirmed or one is not. -/
def writeLoop (file : OpenFile) (data : Bytes) (offset : Int) (confirmed : Nat) :
    Action σ (Transfer Nat) := do
  if _h : data = [] then
    return { done := confirmed }
  else
    let slice := data.take file.packetSize
    match ← (onClient (Client.writeChunk file.base.handle offset slice)).attempt with
    | .error f => return { done := confirmed, fault := some (f.withConfirmed confirmed) }
    | .ok () =>
      writeLoop file (data.drop file.packetSize) (offset + slice.length) (confirmed + slice.length)
  termination_by data.length
  decreasing_by
    have := file.packetSize_pos
    have := List.length_pos_iff.2 _h
    rw [List.length_drop]
    omega

/-- Writes data at an offset. -/
def writeAt (data : Bytes) (offset : Int) : Action σ Nat := do
  ensureOpen
  let file ← current
  let t ← writeLoop file data offset 0
  Transfer.complete t

/-- Writes data and moves the offset. After a failure with a status the offset is moved by what
was confirmed. -/
def write (data : Bytes) : Action σ Nat := do
  ensureOpen
  let file ← current
  let t ← writeLoop file data file.offset 0
  match t.fault with
  | some (.status e) =>
    advance e.confirmed
    throw (.status e)
  | some f => throw f
  | none =>
    advance t.done
    return t.done

/-! ## The rest -/

/-- The statistics of the file. -/
def stat : Action σ FileStats := do
  ensureOpen
  let file ← current
  let attrs ← onClient (Client.handleAttributes file.base.handle)
  return .ofAttributes file.base.path.basename attrs

/-- The offset. -/
def tell : Action σ Int := do
  ensureOpen
  let file ← current
  return file.offset

/-- Moves the offset to a position counted from an origin, and gives the new offset. -/
def seek (distance : Int) (origin : Int) : Action σ Int := do
  ensureOpen
  let file ← current
  let position ←
    match Origin.ofNumber? origin with
    | some .start => pure distance
    | some .current => pure (file.offset + distance)
    | some .finish => do
      let stats ← stat
      match stats.size with
      | some size => pure (size + distance)
      | none => throw .sizeUnknown
    | none => throw (.invalidOrigin origin)
  if position < 0 then
    throw (.negativePosition position)
  update fun f => { f with offset := position }
  return position

/-- Changes the attributes of the file. -/
def setAttributes (attrs : Attributes) : Action σ Unit := do
  ensureOpen
  let file ← current
  onClient (Client.setHandleAttributes file.base.handle attrs)

/-- Changes the permission bits of the file. -/
def changeMode (mode : Int) : Action σ Unit :=
  setAttributes { permissions := some mode }

/-- Changes the length of the file, to the offset if none is given, and gives the length. -/
def truncate (size : Option Int) : Action σ Int := do
  ensureOpen
  let file ← current
  let size := size.getD file.offset
  onClient (Client.setHandleAttributes file.base.handle { size := some size })
  return size

end OpenFile

/-! ## Opening files -/

namespace Client

variable {σ : Type}

/-- Opens a file. -/
def openFile (path : Text) (flags : OpenFlags) (attrs : Attributes := {}) :
    Step (Client σ) OpenFile := do
  let handle ← ask (.openFile path flags attrs) Reply.handle
  let c ← get
  return {
    base := { kind := .file, handle, path }
    flags
    packetSize := c.settings.packetSize.toNat
    packetSize_pos := by have := c.settings.bounds.1; omega }

/-- Opens a file for reading. -/
def openToRead (path : Text) : Step (Client σ) OpenFile :=
  openFile path .read

/-- Opens a file for reading and writing, made new or emptied. -/
def create (path : Text) : Step (Client σ) OpenFile :=
  openFile path .createEmpty

end Client

end Sftp
