import Sftp.Wire.Field

/-!
# Reading fields back

A `Reader` consumes a body from its front. It never goes past the end: a field that does not fit
in what is left is a `Malformed` body, and what was consumed before stays consumed.
-/

namespace Sftp

/-- What a reader was after when the bytes ran out. -/
inductive FieldKind
  | number (width : Width)
  | string
  deriving DecidableEq

/-- The name of a field kind. -/
def FieldKind.label : FieldKind → String
  | number w => w.label
  | string => "string"

/-- Why bytes are no packet. -/
inductive Malformed
  /-- A field is longer than what is left of the body. -/
  | short (kind : FieldKind) (needed available : Nat)
  /-- The body begins with the tag of no packet. -/
  | unknownTag (tag : Nat)
  /-- There is no room for the length of a frame. -/
  | shortFrame (available : Nat)
  /-- The length of a frame is not that of its body. -/
  | lengthMismatch (stated actual : Nat)
  /-- A frame without a body. -/
  | emptyFrame
  /-- A frame above the limit. -/
  | oversizedFrame (length : Nat) (limit : Int)
  deriving DecidableEq

/-- The wording of a malformation. -/
def Malformed.message : Malformed → Text
  | short kind needed available =>
    s!"short packet reading {kind.label}: need {needed} bytes, have {available}"
  | unknownTag tag => s!"unknown packet type {tag}"
  | shortFrame available => s!"frame too short: {available} bytes"
  | lengthMismatch stated actual =>
    s!"frame length {stated} does not match {actual} bytes of payload"
  | emptyFrame => "zero length frame"
  | oversizedFrame length limit => s!"frame of {length} bytes exceeds limit of {limit}"

/-- A computation that consumes bytes and may find them malformed. -/
abbrev Reader (α : Type) : Type := ExceptT Malformed (StateM Bytes) α

namespace Reader

/-- Runs a reader on some bytes; the second component is what it left. -/
def run {α : Type} (r : Reader α) (bytes : Bytes) : Except Malformed α × Bytes :=
  StateT.run (m := Id) (ExceptT.run r) bytes

section

variable {α β : Type}

@[simp] theorem run_pure (a : α) (bytes : Bytes) : run (pure a : Reader α) bytes = (.ok a, bytes) :=
  rfl

@[simp] theorem run_throw (m : Malformed) (bytes : Bytes) :
    run (throw m : Reader α) bytes = (.error m, bytes) := rfl

@[simp] theorem run_get (bytes : Bytes) : run (get : Reader Bytes) bytes = (.ok bytes, bytes) := rfl

@[simp] theorem run_set (bytes rest : Bytes) :
    run (set rest : Reader PUnit) bytes = (.ok ⟨⟩, rest) := rfl

/-- A reader after another starts where the first stopped, unless the first found a fault. -/
theorem run_bind (r : Reader α) (k : α → Reader β) (bytes : Bytes) :
    run (r >>= k) bytes =
      match run r bytes with
      | (.ok a, rest) => run (k a) rest
      | (.error m, rest) => (.error m, rest) := by
  unfold run
  rw [ExceptT.run_bind, StateT.run_bind]
  rcases (ExceptT.run r).run bytes with ⟨_ | a, rest⟩ <;> rfl

end

/-- Exactly `n` bytes. -/
def take (n : Nat) (kind : FieldKind) : Reader Bytes := do
  let rest ← get
  let front := rest.take n
  if front.length = n then
    set (rest.drop n)
    return front
  else
    throw (.short kind n rest.length)

/-- A number of the given width. -/
def number (w : Width) : Reader Nat := do
  let bytes ← take w.size (.number w)
  return ofBigEndian bytes

/-- Bytes with their length before them. -/
def string : Reader Bytes := do
  let length ← number .word
  take length .string

/-- A text with its length before it. -/
def name : Reader Text := do
  let bytes ← string
  return Text.decode bytes

/-- All that is left. -/
def rest : Reader Bytes := do
  let bytes ← get
  set ([] : Bytes)
  return bytes

/-- Whether anything is left. -/
def hasMore : Reader Bool := do
  let bytes ← get
  return !bytes.isEmpty

/-- A result that is read only if the condition holds. -/
def when {α : Type} (condition : Bool) (r : Reader α) : Reader (Option α) := do
  if condition then
    let a ← r
    return some a
  else
    return none

/-- The result of a reader, `n` times. -/
def times {α : Type} (r : Reader α) : Nat → Reader (List α)
  | 0 => return []
  | n + 1 => do
    let a ← r
    let as ← times r n
    return a :: as

/-- A name and its data. -/
def pair : Reader (Text × Bytes) := do
  let n ← name
  let d ← string
  return (n, d)

/-- An attribute block. -/
def attributes : Reader Attributes := do
  let bits ← number .word
  let flags := AttributeFlags.ofBits bits
  let size ← when flags.size (number .long)
  let uid ← when flags.owners (number .word)
  let gid ← when flags.owners (number .word)
  let permissions ← when flags.permissions (number .word)
  let atime ← when flags.times (number .word)
  let mtime ← when flags.times (number .word)
  let extended ← when flags.extended do
    let count ← number .word
    times pair count
  return {
    size := size.map Int.ofNat
    uid := uid.map Int.ofNat
    gid := gid.map Int.ofNat
    permissions := permissions.map Int.ofNat
    atime := atime.map Int.ofNat
    mtime := mtime.map Int.ofNat
    extended := extended.getD [] }

end Reader

end Sftp
