import Mathlib.Control.Monad.Basic
import Sftp.OpenFile

/-!
# Files in memory

What the calls on an open file do if the file is a list of bytes with one offset.

* `Access`, `Yield` — the calls that read, write and move, and what they give.
* `MemoryFile.resize`, `MemoryFile.overwrite` — how content changes; **`MemoryFile.overwrite_append`** —
  data can be written in two parts, the second where the first ends.
* `MemoryFile.perform`, `MemoryFile.performAll` — one call and several, on a file in memory.
* `Access.run`, `OpenFile.runAll` — the same calls on an open file.
-/

namespace Sftp

/-! ## Calls -/

/-- A call on a file. -/
inductive Access
  /-- Reads in sequence, up to a size or to the end of the file. -/
  | read (size : Option Int)
  /-- Reads at a position, up to a size. -/
  | readAt (size : Int) (position : Nat)
  /-- Reads in sequence, into a buffer. -/
  | readInto (buffer : Bytes)
  /-- Reads at a position, into a buffer. -/
  | readIntoAt (buffer : Bytes) (position : Nat)
  /-- Writes in sequence. -/
  | write (data : Bytes)
  /-- Writes at a position. -/
  | writeAt (data : Bytes) (position : Nat)
  /-- Moves the offset, by a distance from an origin with a number. -/
  | seek (distance origin : Int)
  /-- Asks for the offset. -/
  | tell
  /-- Changes the length of the file, to the offset if none is given. -/
  | truncate (size : Option Nat)
  deriving DecidableEq

/-- What a call gives. -/
inductive Yield
  /-- The bytes that were read. -/
  | bytes (data : Bytes)
  /-- How many bytes were read, and the buffer that they were read into. -/
  | filled (count : Except Fault Nat) (buffer : Bytes)
  /-- A length or a position. -/
  | number (n : Int)
  deriving DecidableEq

/-! ## Content -/

/-- A file in memory. -/
structure MemoryFile where
  /-- Its bytes. -/
  content : Bytes := []
  /-- Where reading and writing in sequence go on. -/
  offset : Nat := 0
  deriving DecidableEq

namespace MemoryFile

/-- Content of another length: cut, or filled up with zeros. -/
def resize (content : Bytes) (size : Nat) : Bytes :=
  content.take size ++ List.replicate (size - content.length) 0

/-- Content with data written at a position, after zeros if it ends before. No data change nothing. -/
def overwrite (content : Bytes) (position : Nat) (data : Bytes) : Bytes :=
  if data = [] then content
  else resize content position ++ data ++ content.drop (position + data.length)

/-- The bytes from a position on, so many or all. -/
def slice (content : Bytes) (position : Nat) : Option Nat → Bytes
  | none => content.drop position
  | some n => (content.drop position).take n

theorem length_resize (content : Bytes) (size : Nat) : (resize content size).length = size := by
  unfold resize
  rw [List.length_append, List.length_take, List.length_replicate]
  omega

/-- Content that is long enough is only cut. -/
theorem resize_of_le {content : Bytes} {size : Nat} (h : size ≤ content.length) :
    resize content size = content.take size := by
  unfold resize
  rw [Nat.sub_eq_zero_of_le h, List.replicate_zero, List.append_nil]

theorem overwrite_nil (content : Bytes) (position : Nat) : overwrite content position [] = content :=
  if_pos rfl

/-- Data that are written end within the content. -/
theorem length_overwrite {data : Bytes} (hdata : data ≠ []) (content : Bytes) (position : Nat) :
    (overwrite content position data).length = max content.length (position + data.length) := by
  unfold overwrite
  rw [if_neg hdata, List.length_append, List.length_append, length_resize, List.length_drop]
  omega

/-- **Data can be written in two parts**, the second where the first ends. -/
theorem overwrite_append (content : Bytes) (position : Nat) (first second : Bytes) :
    overwrite (overwrite content position first) (position + first.length) second =
      overwrite content position (first ++ second) := by
  by_cases hfirst : first = []
  · subst hfirst
    rw [overwrite_nil]
    rfl
  by_cases hsecond : second = []
  · subst hsecond
    rw [overwrite_nil, List.append_nil]
  have hboth : first ++ second ≠ [] := fun h => hfirst (List.append_eq_nil_iff.mp h).1
  have hfront : (resize content position ++ first).length = position + first.length := by
    rw [List.length_append, length_resize]
  have hlength := length_overwrite hfirst content position
  have hcut : resize (overwrite content position first) (position + first.length) =
      resize content position ++ first := by
    rw [resize_of_le (by omega), overwrite, if_neg hfirst, ← hfront, List.take_left]
  have hrest : (overwrite content position first).drop
      (position + first.length + second.length) =
        content.drop (position + first.length + second.length) := by
    rw [← List.drop_drop, overwrite, if_neg hfirst, ← hfront, List.drop_left, hfront,
      List.drop_drop]
  rw [overwrite, if_neg hsecond, hcut, hrest, overwrite, if_neg hboth, List.length_append,
    ← Nat.add_assoc, List.append_assoc _ first second]

/-- The bytes from a position on are the first of them and those after. -/
theorem slice_append (content : Bytes) (position k : Nat) {wanted : Option Nat}
    (hk : ∀ n ∈ wanted, k ≤ n) :
    (content.drop position).take k ++
        slice content (position + ((content.drop position).take k).length)
          (wanted.map (· - ((content.drop position).take k).length)) =
      slice content position wanted := by
  have hle : ((content.drop position).take k).length ≤ k := List.length_take_le _ _
  have htake : (content.drop position).take k =
      (content.drop position).take ((content.drop position).take k).length := by
    rw [List.length_take, List.take_eq_take_iff]
    omega
  generalize ((content.drop position).take k).length = taken at htake hle
  rw [htake]
  cases wanted with
  | none =>
    show _ ++ content.drop (position + taken) = content.drop position
    rw [← List.drop_drop, List.take_append_drop]
  | some n =>
    have hn : taken ≤ n := Nat.le_trans hle (hk n rfl)
    show _ ++ (content.drop (position + taken)).take (n - taken) = (content.drop position).take n
    rw [← List.drop_drop, ← List.take_add, Nat.add_sub_cancel' hn]

/-! ## Calls on a file in memory -/

/-- How many bytes a read in sequence may bring, if not all. -/
def wanted (size : Option Int) : Option Nat :=
  (size.filter (0 ≤ ·)).map Int.toNat

/-- Where a seek goes. -/
def target (m : MemoryFile) (distance origin : Int) : Except Fault Int :=
  match Origin.ofNumber? origin with
  | some .start => .ok distance
  | some .current => .ok (m.offset + distance)
  | some .finish => .ok (m.content.length + distance)
  | none => .error (.invalidOrigin origin)

/-- A call on a file in memory. After a fault the file is as it was. -/
def perform (m : MemoryFile) : Access → Except Fault Yield × MemoryFile
  | .read size =>
    let data := slice m.content m.offset (wanted size)
    (.ok (.bytes data), { m with offset := m.offset + data.length })
  | .readAt size position =>
    if size < 0 then (.error .negativeCount, m)
    else (.ok (.bytes (slice m.content position (some size.toNat))), m)
  | .readInto buffer =>
    let data := slice m.content m.offset (some buffer.length)
    (.ok (.filled (.ok data.length) (data ++ buffer.drop data.length)),
      { m with offset := m.offset + data.length })
  | .readIntoAt buffer position =>
    let data := slice m.content position (some buffer.length)
    (.ok (.filled (.ok data.length) (data ++ buffer.drop data.length)), m)
  | .write data =>
    (.ok (.number data.length),
      { content := overwrite m.content m.offset data, offset := m.offset + data.length })
  | .writeAt data position =>
    (.ok (.number data.length), { m with content := overwrite m.content position data })
  | .seek distance origin =>
    match m.target distance origin with
    | .error f => (.error f, m)
    | .ok position =>
      if position < 0 then (.error (.negativePosition position), m)
      else (.ok (.number position), { m with offset := position.toNat })
  | .tell => (.ok (.number m.offset), m)
  | .truncate size =>
    let size := size.getD m.offset
    (.ok (.number size), { m with content := resize m.content size })

/-- Calls on a file in memory, one after another, whatever became of those before. -/
def performAll (m : MemoryFile) : List Access → List (Except Fault Yield) × MemoryFile
  | [] => ([], m)
  | access :: others =>
    let rest := performAll (m.perform access).2 others
    ((m.perform access).1 :: rest.1, rest.2)

end MemoryFile

/-! ## Calls on an open file -/

variable {σ : Type}

namespace Access

/-- What a call gave, in the form that all calls have. -/
def yielding {α : Type} (make : α → Yield) (outcome : Except Fault α × Held OpenFile σ) :
    Except Fault Yield × Held OpenFile σ :=
  (outcome.1.map make, outcome.2)

/-- A call on an open file. -/
def run (h : Held OpenFile σ) : Access → Except Fault Yield × Held OpenFile σ
  | read size => yielding .bytes ((OpenFile.read size).run h)
  | readAt size position => yielding .bytes ((OpenFile.readAt size position).run h)
  | readInto buffer => yielding (fun r => .filled r.1 r.2) ((OpenFile.readInto buffer).run h)
  | readIntoAt buffer position =>
    yielding (fun r => .filled r.1 r.2) ((OpenFile.readIntoAt buffer position).run h)
  | write data => yielding (fun n : Nat => .number n) ((OpenFile.write data).run h)
  | writeAt data position =>
    yielding (fun n : Nat => .number n) ((OpenFile.writeAt data position).run h)
  | seek distance origin => yielding .number ((OpenFile.seek distance origin).run h)
  | tell => yielding .number (OpenFile.tell.run h)
  | truncate size => yielding .number ((OpenFile.truncate (size.map (↑·))).run h)

end Access

/-- Calls on an open file, one after another, whatever became of those before. -/
def OpenFile.runAll (h : Held OpenFile σ) :
    List Access → List (Except Fault Yield) × Held OpenFile σ
  | [] => ([], h)
  | access :: others =>
    let rest := runAll (access.run h).2 others
    ((access.run h).1 :: rest.1, rest.2)

end Sftp
