import Sftp.Fault

/-!
# Byte streams

A stream has two sides. The read side is an `Inbox`: the chunks that have arrived and not been
read, and whether more can come. Reading hands out at most the bytes that were asked for, from one
chunk. `Inbox.readExactly` and `Inbox.readFrame` put chunks together again; a reader that finds too
little without the end of the stream is `blocked` and is told so.

The write side is a `Peer`, the far end: it takes each write, may refuse it, and answers with
`Arrival`s for the read side. A `Line` is a stream with both sides and a record of what went over
it: the bytes written, the flushes and the closes.
-/

namespace Sftp

/-! ## The read side -/

/-- How a read side ends. -/
inductive Ending
  /-- The stream is over. -/
  | closed
  /-- Reading fails. -/
  | broken (fault : Fault)
  deriving DecidableEq

/-- Something that comes up on the read side. -/
inductive Arrival
  /-- Bytes that can be read. -/
  | chunk (bytes : Bytes)
  /-- No more than what is there. -/
  | ending (ending : Ending)
  deriving DecidableEq

/-- What has arrived and has not been read. -/
structure Inbox where
  /-- The chunks in order of arrival. -/
  chunks : List Bytes := []
  /-- How the stream ends after them, if it has ended. -/
  ending : Option Ending := none
  /-- The sizes that were asked for, latest first. -/
  asked : List Nat := []
  deriving DecidableEq, Inhabited

/-- The outcome of reading. -/
inductive Outcome (α : Type)
  /-- Something was read. -/
  | got (value : α)
  /-- Nothing is there yet. -/
  | blocked
  /-- Reading failed. -/
  | failed (fault : Fault)
  deriving DecidableEq

namespace Inbox

/-- Adds an arrival; nothing comes after an ending. -/
def add (inbox : Inbox) : Arrival → Inbox
  | .chunk bytes =>
    if inbox.ending.isNone && !bytes.isEmpty then
      { inbox with chunks := inbox.chunks ++ [bytes] }
    else
      inbox
  | .ending e => if inbox.ending.isNone then { inbox with ending := some e } else inbox

/-- Ends the read side after what is there, if it has not ended. -/
def hangUp (inbox : Inbox) : Inbox :=
  inbox.add (.ending .closed)

/-- The number of bytes that can be read. -/
def available (inbox : Inbox) : Nat :=
  inbox.chunks.flatten.length

/-- At most `n` bytes of the first chunk. No bytes mean the end of the stream; a chunk without
bytes means it once. -/
def read (n : Nat) (inbox : Inbox) : Outcome Bytes × Inbox :=
  let inbox := { inbox with asked := n :: inbox.asked }
  match inbox.chunks with
  | [] =>
    match inbox.ending with
    | none => (.blocked, inbox)
    | some .closed => (.got [], inbox)
    | some (.broken f) => (.failed f, inbox)
  | chunk :: rest =>
    let left := chunk.drop n
    (.got (chunk.take n), { inbox with chunks := if left.isEmpty then rest else left :: rest })

/-- Reads until `needed` more bytes of `size` are there. -/
def readMore (size needed : Nat) (parts : List Bytes) (inbox : Inbox) : Outcome Bytes × Inbox :=
  if needed = 0 then
    (.got parts.reverse.flatten, inbox)
  else
    match inbox.read needed with
    | (.got chunk, rest) =>
      if chunk.length = 0 then
        (.failed (.streamEnded (size - needed) size), rest)
      else
        readMore size (needed - chunk.length) (chunk :: parts) rest
    | (.blocked, rest) => (.blocked, rest)
    | (.failed f, rest) => (.failed f, rest)
  termination_by needed

/-- Exactly `size` bytes. -/
def readExactly (size : Nat) (inbox : Inbox) : Outcome Bytes × Inbox :=
  readMore size size [] inbox

/-- The body of the next frame, which has at least one byte and at most `limit`. -/
def readFrame (limit : Int) (inbox : Inbox) : Outcome Bytes × Inbox :=
  match inbox.readExactly 4 with
  | (.got head, rest) =>
    let length := ofBigEndian head
    if length = 0 then
      (.failed (.malformed .emptyFrame), rest)
    else if (length : Int) > limit then
      (.failed (.malformed (.oversizedFrame length limit)), rest)
    else
      rest.readExactly length
  | (.blocked, rest) => (.blocked, rest)
  | (.failed f, rest) => (.failed f, rest)

/-! ### Reading consumes -/

theorem available_read_got {n : Nat} {inbox rest : Inbox} {chunk : Bytes}
    (h : inbox.read n = (.got chunk, rest)) : rest.available + chunk.length = inbox.available := by
  unfold read at h
  unfold available
  cases hc : inbox.chunks with
  | nil =>
    rw [hc] at h
    cases he : inbox.ending with
    | none => rw [he] at h; simp at h
    | some e =>
      rw [he] at h
      cases e with
      | closed => simp only [Prod.mk.injEq, Outcome.got.injEq] at h; obtain ⟨rfl, rfl⟩ := h; simp
      | broken f => simp at h
  | cons first others =>
    rw [hc] at h
    simp only [Prod.mk.injEq, Outcome.got.injEq] at h
    obtain ⟨rfl, rfl⟩ := h
    have hsplit := congrArg List.length (List.take_append_drop n first)
    rw [List.length_append] at hsplit
    split
    · rename_i hnil
      rw [List.isEmpty_iff] at hnil
      rw [hnil] at hsplit
      simp only [List.flatten_cons, List.length_append, List.length_nil] at hsplit ⊢
      omega
    · simp only [List.flatten_cons, List.length_append]
      omega

theorem available_readMore_got {size needed : Nat} {parts : List Bytes} {inbox rest : Inbox}
    {bytes : Bytes} (h : inbox.readMore size needed parts = (.got bytes, rest)) :
    rest.available + needed ≤ inbox.available + needed ∧
      (rest.available < inbox.available ∨ needed = 0) := by
  fun_induction readMore size needed parts inbox with
  | case1 parts inbox => simp only [Prod.mk.injEq] at h; obtain ⟨-, rfl⟩ := h; simp
  | case2 needed parts inbox hne chunk next hread hlen => simp at h
  | case3 needed parts inbox hne chunk next hread hlen ih =>
    have hstep := available_read_got hread
    have := (ih h).1
    constructor
    · omega
    · left; omega
  | case4 needed parts inbox hne next hread => simp at h
  | case5 needed parts inbox hne f next hread => simp at h

/-- Reading a frame uses up at least the bytes of its length. -/
theorem available_readFrame_got {limit : Int} {inbox rest : Inbox} {body : Bytes}
    (h : inbox.readFrame limit = (.got body, rest)) : rest.available < inbox.available := by
  unfold readFrame at h
  split at h
  · rename_i head next hhead
    have h1 := available_readMore_got hhead
    simp only at h
    split at h
    · simp at h
    · split at h
      · simp at h
      · have h2 := available_readMore_got h
        omega
  · simp at h
  · simp at h

end Inbox

/-! ## The far end -/

/-- The far end of a stream, with its own state. -/
structure Peer (σ : Type) where
  /-- Takes a write: refuses it, or answers with arrivals. -/
  write : Bytes → σ → Except Fault (List Arrival) × σ
  /-- Takes a flush, on streams that have one; it may fail. -/
  flush : Option (σ → Option Fault × σ) := none
  /-- Takes the closing of the stream, which may fail. -/
  close : σ → Option Fault × σ

/-- A stream and what went over it. -/
structure Line (σ : Type) where
  /-- The far end. -/
  peer : Peer σ
  /-- The state of the far end. -/
  state : σ
  /-- The read side. -/
  inbox : Inbox := {}
  /-- What was written, in order. -/
  sent : Array Bytes := #[]
  /-- How often the stream was flushed. -/
  flushes : Nat := 0
  /-- How often the stream was closed. -/
  closes : Nat := 0

namespace Line

variable {σ : Type}

/-- Whether the stream was closed. -/
def isClosed (line : Line σ) : Bool :=
  0 < line.closes

/-- Adds arrivals to the read side. -/
def receive (line : Line σ) (arrivals : List Arrival) : Line σ :=
  { line with inbox := arrivals.foldl Inbox.add line.inbox }

/-- Hands bytes to the far end. A closed stream refuses them. -/
def write (line : Line σ) (bytes : Bytes) : Option Fault × Line σ :=
  if line.isClosed then
    (some .closedStream, line)
  else
    match line.peer.write bytes line.state with
    | (.error f, state) => (some f, { line with state })
    | (.ok arrivals, state) =>
      (none, { line with state, sent := line.sent.push bytes }.receive arrivals)

/-- Flushes the stream, if it can be. -/
def flush (line : Line σ) : Option Fault × Line σ :=
  match line.peer.flush with
  | none => (none, line)
  | some step =>
    let (fault, state) := step line.state
    (fault, { line with state, flushes := line.flushes + 1 })

/-- Closes the stream. Its read side is over, whatever has not been read. -/
def close (line : Line σ) : Option Fault × Line σ :=
  let (fault, state) := line.peer.close line.state
  (fault, { line with
    state
    closes := line.closes + 1
    inbox := { line.inbox with chunks := [], ending := some .closed } })

end Line

end Sftp
