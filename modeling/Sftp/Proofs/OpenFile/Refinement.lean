import Sftp.Proofs.OpenFile.Reading
import Sftp.Proofs.OpenFile.Server

/-!
# Open files as files in memory

An open file of an honest server does what a file in memory does. However the server cuts its replies,
and wherever the packet size cuts the requests, nothing of it can be seen.

* `OpenFile.SuitedTo` — a file of a server, with packets that leave room in a frame.
* **`OpenFile.fetches_served`**, **`OpenFile.run_writeLoop_served`** — what the requests of a read bring and
  those of a write leave, by induction on the requests.
* `OpenFile.Shows` — an open file that stands for a file in memory; **`OpenFile.shows_openFile`** — one
  that was just opened.
* `Access.IsAllowed` — the numbers in the requests of a call can be written; `MemoryFile.Allows` — so for
  calls one after another.
* **`Access.refines`** — a call gives what it gives on the file in memory, for which the open file stands
  afterwards.
* **`OpenFile.refines_memoryFile`** — so do calls one after another.
-/

namespace Sftp

open MemoryFile

variable {σ : Type} {server : FileServer σ} {limit : Int} {patience : Nat} {content : Bytes}
  {c : Client σ} {file : OpenFile}

/-! ## Requests -/

namespace OpenFile

open Client

/-- An open file of a server, on a connection that takes frames up to a limit. -/
structure SuitedTo (server : FileServer σ) (limit : Int) (file : OpenFile) : Prop where
  /-- It is open. -/
  isOpen : file.base.closed = false
  /-- It is the file of the server. -/
  handle : file.base.handle = server.handle
  /-- The handle leaves room in a request. -/
  room : 21 + server.handle.length < Width.word.limit
  /-- A packet leaves room in a frame. -/
  packetSize : (file.packetSize + 9 : Int) ≤ limit

variable (hserver : server.Honest limit) (hfile : file.SuitedTo server limit)

include hserver hfile

/-- **The requests of a read** that may make enough of them bring the bytes that were wanted, whatever
part of these each reply has. -/
theorem fetches_served {rounds position : Nat} {wanted : Option Nat}
    (hc : Served server limit patience content c) (hlength : content.length < Width.long.limit)
    (hposition : position < Width.long.limit) (hword : file.share wanted < Width.word.limit)
    (hrounds : wanted.getD (content.length - position + 1) ≤ rounds) :
    ∃ made c', file.fetches rounds wanted position c = (made, c') ∧
      made.findSome? Fetch.fault? = none ∧
      made.flatMap Fetch.bytes = slice content position wanted ∧
      (wanted = none → made.any (·.bytes.isEmpty) = true) ∧
      Served server limit patience content c' := by
  induction rounds generalizing wanted position c with
  | zero =>
    cases wanted with
    | none => cases hrounds
    | some n =>
      obtain rfl : n = 0 := Nat.le_zero.mp hrounds
      exact ⟨[], c, rfl, rfl, rfl, nofun, hc⟩
  | succ rounds ih =>
    by_cases hwanted : wanted = some 0
    · subst hwanted
      exact ⟨[], c, fetches_zero _, rfl, rfl, nofun, hc⟩
    obtain ⟨hpos, hle⟩ := file.share_bounds hwanted
    have hfull : (file.share wanted + 9 : Int) ≤ limit := by
      have := hfile.packetSize
      omega
    obtain ⟨k, c₁, hk, hkle, hrun, hc₁⟩ :=
      hc.run_readChunk hserver hfile.room hpos hposition hword hfull
    rw [← hfile.handle] at hrun
    have hchunk : ((content.drop position).take k).length = min k (content.length - position) := by
      rw [List.length_take, List.length_drop]
    have hshare : ∀ n ∈ wanted, k ≤ n := by
      rintro n rfl
      exact Nat.le_trans hkle (Nat.min_le_left _ _)
    by_cases hnothing : (content.drop position).take k = []
    · -- the end of the file
      rw [hnothing] at hrun
      refine ⟨_, c₁, fetches_last hwanted hrun rfl, rfl, ?_, fun _ => rfl, hc₁⟩
      have hend : content.drop position = [] := by
        rw [hnothing] at hchunk
        rw [List.drop_eq_nil_iff]
        have : min k (content.length - position) = 0 := hchunk.symm
        omega
      cases wanted with
      | none => exact hend.symm
      | some n =>
        show [] = (content.drop position).take n
        rw [hend, List.take_nil]
    · -- some bytes come, and the rest of the read begins after them
      have hsplit := slice_append content position k hshare
      have hsome := List.length_pos_iff.mpr hnothing
      generalize (content.drop position).take k = chunk at hrun hchunk hnothing hsplit hsome
      have hnext : position + chunk.length < Width.long.limit := by omega
      have hword' : file.share (wanted.map (· - chunk.length)) < Width.word.limit := by
        cases wanted with
        | none => exact hword
        | some n =>
          have hmin : min (n - chunk.length) file.packetSize ≤ min n file.packetSize := by omega
          exact Nat.lt_of_le_of_lt hmin hword
      have hrounds' : (wanted.map (· - chunk.length)).getD
          (content.length - (position + chunk.length) + 1) ≤ rounds := by
        cases wanted with
        | none =>
          have : content.length - position + 1 ≤ rounds + 1 := hrounds
          show content.length - (position + chunk.length) + 1 ≤ rounds
          omega
        | some n =>
          have : n ≤ rounds + 1 := hrounds
          show n - chunk.length ≤ rounds
          omega
      obtain ⟨made, c', hmade, hfault, hbytes, hend, hc'⟩ := ih hc₁ hnext hword' hrounds'
      refine ⟨{ offset := position, length := file.share wanted, outcome := .ok chunk } :: made, c',
        ?_, ?_, ?_, ?_, hc'⟩
      · rw [fetches_next hwanted hrun hnothing, ← Int.natCast_add, hmade]
      · rw [List.findSome?_cons]
        exact hfault
      · rw [List.flatMap_cons, hbytes]
        exact hsplit
      · rintro rfl
        rw [List.any_cons, hend rfl, Bool.or_true]

/-- **The requests of a write** leave the data at their position, wherever they are cut. -/
theorem run_writeLoop_served {data : Bytes} {position : Nat} (confirmed : Nat) {h : Held OpenFile σ}
    (hc : Served server limit patience content h.client)
    (hposition : position + data.length ≤ Width.long.limit)
    (hword : 21 + server.handle.length + min data.length file.packetSize < Width.word.limit) :
    ∃ c', (writeLoop file data position confirmed).run h =
        (.ok { done := confirmed + data.length }, { h with client := c' }) ∧
      Served server limit patience (overwrite content position data) c' := by
  -- what is left after a slice is shorter
  induction hn : data.length using Nat.strongRecOn generalizing data position confirmed content h with
  | ind n ih =>
    by_cases hdata : data = []
    · subst hdata
      obtain rfl : 0 = n := hn
      refine ⟨h.client, run_writeLoop_nil file position confirmed h, ?_⟩
      rw [overwrite_nil]
      exact hc
    have hpos := file.packetSize_pos
    have hdataPos := List.length_pos_iff.mpr hdata
    have hsliceLength : (data.take file.packetSize).length = min file.packetSize data.length :=
      List.length_take
    have hrestLength : (data.drop file.packetSize).length = data.length - file.packetSize :=
      List.length_drop
    have hslice : data.take file.packetSize ≠ [] := List.length_pos_iff.mp (by omega)
    obtain ⟨c₁, hrun, hc₁⟩ := hc.run_writeChunk hserver hslice
      (show position < Width.long.limit by omega) (by omega)
    rw [← hfile.handle] at hrun
    have hnext : position + (data.take file.packetSize).length +
        (data.drop file.packetSize).length ≤ Width.long.limit := by omega
    have hword' : 21 + server.handle.length +
        min (data.drop file.packetSize).length file.packetSize < Width.word.limit := by omega
    obtain ⟨c', hrest, hc'⟩ := ih _ (by omega) (confirmed + (data.take file.packetSize).length)
      (h := { h with client := c₁ }) hc₁ hnext hword' rfl
    refine ⟨c', ?_, ?_⟩
    · rw [run_writeLoop_cons hdata, hrun]
      simp only
      rw [← Int.natCast_add, hrest, Nat.add_assoc, ← List.length_append, List.take_append_drop, hn]
    · rw [overwrite_append, List.take_append_drop] at hc'
      exact hc'

end OpenFile

/-! ## Calls -/

namespace OpenFile

open Client Held

/-- An open file that stands for a file in memory: its offset is that one's, and the server keeps that
one's bytes. -/
structure Shows (server : FileServer σ) (limit : Int) (patience : Nat) (file : OpenFile)
    (m : MemoryFile) (h : Held OpenFile σ) : Prop where
  /-- Only the offset of the file has changed. -/
  object : h.object = { file with offset := m.offset }
  /-- The client is ready for the next request. -/
  served : h.client.Served server limit patience m.content

variable {m : MemoryFile} {h : Held OpenFile σ}

namespace Shows

/-- The file is as it was but for its offset. -/
theorem suited (hshows : Shows server limit patience file m h) (hfile : file.SuitedTo server limit) :
    h.object.SuitedTo server limit := by
  rw [hshows.object]
  exact ⟨hfile.isOpen, hfile.handle, hfile.room, hfile.packetSize⟩

/-- Its offset is that of the file in memory. -/
theorem offset (hshows : Shows server limit patience file m h) : h.object.offset = m.offset := by
  rw [hshows.object]

/-- After a call that leaves the offset. -/
theorem kept (hshows : Shows server limit patience file m h) {c : Client σ}
    (hc : Served server limit patience content c) :
    Shows server limit patience file { m with content } { h with client := c } :=
  ⟨hshows.object, hc⟩

/-- After a call that moves the offset to a position. -/
theorem moved (hshows : Shows server limit patience file m h) {c : Client σ}
    (hc : Served server limit patience content c) {position : Int} {n : Nat}
    (hn : position = n) :
    Shows server limit patience file { content, offset := n }
      { object := { h.object with offset := position }, client := c } := by
  refine ⟨?_, hc⟩
  rw [hshows.object, hn]

/-- After a call that moves the offset forward. -/
theorem advanced (hshows : Shows server limit patience file m h) {c : Client σ}
    (hc : Served server limit patience content c) (n : Nat) :
    Shows server limit patience file { content, offset := m.offset + n }
      { object := { h.object with offset := h.object.offset + n }, client := c } := by
  refine hshows.moved hc ?_
  rw [hshows.offset]
  exact (Int.natCast_add _ _).symm

end Shows

/-- **A file that an honest server opens**, and answers with its handle for, stands for a file in memory
with the bytes that the server keeps then, from the first on. -/
theorem shows_openFile (hc : Served server limit patience content c) {content' : Bytes} {path : Text}
    {flags : OpenFlags} {attrs : Attributes}
    (hroom : 21 + server.handle.length < Width.word.limit)
    (hpacket : c.settings.packetSize + 9 ≤ limit)
    (hencodable : ∀ id, Width.word.Fits id →
      (Packet.message id (.openFile path flags attrs)).IsEncodable)
    (hanswers : ∀ id frame, (Packet.message id (.openFile path flags attrs)).encode = .ok frame →
      ∃ body, server.Answers frame c.link.line.state body content' ∧
        body.Brief limit id (.handle server.handle)) :
    ∃ file c', (Client.openFile path flags attrs).run c = (.ok file, c') ∧
      file.SuitedTo server limit ∧
      Shows server limit patience file { content := content' } { object := file, client := c' } := by
  obtain ⟨id, reply, c', hrun, rfl, hc', hsettings⟩ := hc.run_request _ content'
    (· = .handle server.handle) hencodable fun id frame hframe => by
      obtain ⟨body, hanswer, hbrief⟩ := hanswers id frame hframe
      exact ⟨body, _, hanswer, hbrief, rfl⟩
  have hpos := c'.settings.bounds.1
  have hask : (Client.ask (.openFile path flags attrs) Reply.handle).run c =
      (.ok server.handle, c') := by
    rw [Client.run_ask, hrun]
    rfl
  unfold Client.openFile
  rw [Step.run_bind, hask]
  refine ⟨_, c', rfl, ⟨rfl, rfl, hroom, ?_⟩, rfl, hc'⟩
  show (c'.settings.packetSize.toNat + 9 : Int) ≤ limit
  rw [hsettings] at hpos ⊢
  omega

/-- Where a seek arrives, if its position is not negative. -/
def arrived (h : Held OpenFile σ) (position : Int) : Except Fault Int × Held OpenFile σ :=
  if position < 0 then (.error (.negativePosition position), h)
  else (.ok position, { h with object := { h.object with offset := position } })

/-- The last steps of a seek. -/
theorem run_arrive (h : Held OpenFile σ) (position : Int) :
    (if position < 0 then do
        throw (.negativePosition position)
        update fun f => { f with offset := position }
        pure position
      else do
        update fun f => { f with offset := position }
        pure position : Action σ Int).run h = arrived h position := by
  unfold arrived
  by_cases hnegative : position < 0
  · rw [if_pos hnegative, if_pos hnegative]
    rfl
  · rw [if_neg hnegative, if_neg hnegative]
    rfl

/-- A seek from the start, from the offset, or from an origin that there is not. -/
theorem run_seek (hopen : h.object.base.closed = false) (distance origin : Int) :
    (seek distance origin).run h =
      match Origin.ofNumber? origin with
      | none => (.error (.invalidOrigin origin), h)
      | some .start => arrived h distance
      | some .current => arrived h (h.object.offset + distance)
      | some .finish =>
        match (Client.handleAttributes h.object.base.handle).run h.client with
        | (.error f, c) => (.error f, { h with client := c })
        | (.ok attrs, c) =>
          match attrs.size with
          | none => (.error .sizeUnknown, { h with client := c })
          | some size => arrived { h with client := c } (size + distance) := by
  unfold seek
  rw [Step.run_bind, run_ensureOpen hopen]
  simp only
  rw [Step.run_bind, run_current]
  simp only
  cases Origin.ofNumber? origin with
  | none => rfl
  | some origin =>
    cases origin with
    | start => exact run_arrive h distance
    | current => exact run_arrive h (h.object.offset + distance)
    | finish =>
      simp only
      unfold stat
      rw [Step.run_bind, Step.run_bind, run_ensureOpen hopen]
      simp only
      rw [Step.run_bind, run_current]
      simp only
      rw [Step.run_bind, run_onClient]
      rcases (Client.handleAttributes h.object.base.handle).run h.client with ⟨f | attrs, c⟩
      · rfl
      · obtain ⟨size, uid, gid, permissions, atime, mtime, extended⟩ := attrs
        cases size with
        | none => rfl
        | some size => exact run_arrive { h with client := c } (size + distance)

variable (hserver : server.Honest limit) (hfile : file.SuitedTo server limit)

include hserver hfile

/-- The requests of a read of an open file bring what it wants of the file in memory. -/
theorem Shows.fetches (hshows : Shows server limit patience file m h) {rounds position : Nat}
    {wanted : Option Nat} (hlength : m.content.length < Width.long.limit)
    (hposition : position < Width.long.limit) (hword : file.share wanted < Width.word.limit)
    (hrounds : wanted.getD (m.content.length - position + 1) ≤ rounds) :
    ∃ made c, h.object.fetches rounds wanted position h.client = (made, c) ∧
      gathered made = .ok (slice m.content position wanted) ∧
      made.flatMap Fetch.bytes = slice m.content position wanted ∧
      (wanted = none → made.any (·.bytes.isEmpty) = true) ∧
      Served server limit patience m.content c := by
  have hword' : h.object.share wanted < Width.word.limit := by
    rw [hshows.object]
    exact hword
  obtain ⟨made, c, hmade, hfault, hbytes, hend, hc⟩ := fetches_served hserver
    (hshows.suited hfile) hshows.served hlength hposition hword' hrounds
  refine ⟨made, c, hmade, ?_, hbytes, hend, hc⟩
  unfold gathered
  rw [hfault, hbytes]

end OpenFile

namespace MemoryFile

/-- The content and the offset of a file in memory can be written as numbers. -/
structure InBounds (m : MemoryFile) : Prop where
  /-- The length of the content. -/
  length : m.content.length < Width.long.limit
  /-- The offset. -/
  offset : m.offset < Width.long.limit

instance (m : MemoryFile) : Decidable m.InBounds :=
  decidable_of_iff (m.content.length < Width.long.limit ∧ m.offset < Width.long.limit)
    ⟨fun h => ⟨h.1, h.2⟩, fun h => ⟨h.1, h.2⟩⟩

end MemoryFile

namespace Access

open OpenFile

/-- Whether the requests that a call on an open file makes can be written: their positions and sizes are
numbers that fit, and their data leave room for the rest. A read to the end needs as many round trips as
there are bytes, and one more. -/
def IsAllowed (file : OpenFile) (patience : Nat) (m : MemoryFile) : Access → Prop
  | read size =>
    file.share (wanted size) < Width.word.limit ∧ (wanted size = none → m.content.length < patience)
  | readAt size position =>
    position < Width.long.limit ∧ file.share (some size.toNat) < Width.word.limit
  | readInto buffer => file.share (some buffer.length) < Width.word.limit
  | readIntoAt buffer position =>
    position < Width.long.limit ∧ file.share (some buffer.length) < Width.word.limit
  | write data | writeAt data _ =>
    21 + file.base.handle.length + min data.length file.packetSize < Width.word.limit
  | seek _ _ | tell | truncate _ => True

instance (file : OpenFile) (patience : Nat) (m : MemoryFile) :
    (access : Access) → Decidable (access.IsAllowed file patience m)
  | read _ => instDecidableAnd
  | readAt _ _ | readIntoAt _ _ => instDecidableAnd
  | readInto _ | write _ | writeAt _ _ => Nat.decLt _ _
  | seek _ _ | tell | truncate _ => instDecidableTrue

variable {m : MemoryFile} {h : Held OpenFile σ}

/-- What it is for a call on an open file to do what it does on a file in memory. -/
structure Refines (server : FileServer σ) (limit : Int) (patience : Nat) (file : OpenFile)
    (m : MemoryFile) (h : Held OpenFile σ) (access : Access) : Prop where
  /-- It gives the same. -/
  outcome : (access.run h).1 = (m.perform access).1
  /-- Afterwards the open file stands for the file in memory. -/
  shows : Shows server limit patience file (m.perform access).2 (access.run h).2

/-- A call does what it does on the file in memory if both are known. -/
theorem Refines.of_run {access : Access} {outcome : Except Fault Yield} {m' : MemoryFile}
    {h' : Held OpenFile σ} (hrun : access.run h = (outcome, h'))
    (hperform : m.perform access = (outcome, m'))
    (hshows : Shows server limit patience file m' h') :
    Refines server limit patience file m h access := by
  constructor
  · rw [hrun, hperform]
  · rw [hrun, hperform]
    exact hshows

section steps

variable (hfile : file.SuitedTo server limit) (hshows : Shows server limit patience file m h)

include hfile hshows

theorem refines_tell : Refines server limit patience file m h tell := by
  have hopen := (hshows.suited hfile).isOpen
  have hrun : OpenFile.tell.run h = (.ok (m.offset : Int), h) := by
    unfold OpenFile.tell
    rw [Step.run_bind, Held.run_ensureOpen hopen, ← hshows.offset]
    rfl
  exact .of_run (congrArg (yielding .number) hrun) rfl hshows

variable (hserver : server.Honest limit)

include hserver

theorem refines_read (hm : m.InBounds) {size : Option Int}
    (hallowed : (read size).IsAllowed file patience m) :
    Refines server limit patience file m h (read size) := by
  have hopen := (hshows.suited hfile).isOpen
  obtain ⟨hword, hpatience⟩ := hallowed
  cases hsize : size.filter (0 ≤ ·) with
  | none =>
    have hwanted : wanted size = none := by
      unfold wanted
      rw [hsize]
      rfl
    rw [hwanted] at hword
    have hrounds : (none : Option Nat).getD (m.content.length - m.offset + 1) ≤
        h.client.patience := by
      have := hpatience hwanted
      rw [hshows.served.patience]
      show m.content.length - m.offset + 1 ≤ patience
      omega
    obtain ⟨made, c, hmade, hgathered, -, hend, hc⟩ :=
      hshows.fetches hserver hfile hm.length hm.offset hword hrounds
    have hrun : (OpenFile.read size).run h = moved h c (.ok (slice m.content m.offset none)) := by
      rw [run_read_to_end hopen hsize, hshows.offset, hmade]
      simp only
      rw [if_pos (hend rfl), hgathered]
    refine .of_run (congrArg (yielding .bytes) hrun) ?_ (hshows.advanced hc _)
    simp only [perform, hwanted]
    rfl
  | some n =>
    have hwanted : wanted size = some n.toNat := by
      unfold wanted
      rw [hsize]
      rfl
    rw [hwanted] at hword
    obtain ⟨made, c, hmade, hgathered, -, -, hc⟩ :=
      hshows.fetches hserver hfile hm.length hm.offset hword (Nat.le_refl n.toNat)
    have hrun : (OpenFile.read size).run h =
        moved h c (.ok (slice m.content m.offset (some n.toNat))) := by
      rw [run_read_of_size hopen hsize, hshows.offset, hmade]
      simp only
      rw [hgathered]
    refine .of_run (congrArg (yielding .bytes) hrun) ?_ (hshows.advanced hc _)
    simp only [perform, hwanted]
    rfl

theorem refines_readAt (hm : m.InBounds) {size : Int} {position : Nat}
    (hallowed : (readAt size position).IsAllowed file patience m) :
    Refines server limit patience file m h (readAt size position) := by
  have hopen := (hshows.suited hfile).isOpen
  obtain ⟨hposition, hword⟩ := hallowed
  by_cases hsize : size < 0
  · have hrun := run_readAt_of_neg hopen hsize position
    exact .of_run (congrArg (yielding .bytes) hrun) (if_pos hsize) hshows
  · obtain ⟨made, c, hmade, hgathered, -, -, hc⟩ :=
      hshows.fetches hserver hfile hm.length hposition hword (Nat.le_refl size.toNat)
    have hrun : (OpenFile.readAt size position).run h =
        (.ok (slice m.content position (some size.toNat)), { h with client := c }) := by
      rw [run_readAt hopen (Int.not_lt.mp hsize), hmade]
      simp only
      rw [hgathered]
    exact .of_run (congrArg (yielding .bytes) hrun) (if_neg hsize) (hshows.kept hc)

theorem refines_readInto (hm : m.InBounds) {buffer : Bytes}
    (hallowed : (readInto buffer).IsAllowed file patience m) :
    Refines server limit patience file m h (readInto buffer) := by
  have hopen := (hshows.suited hfile).isOpen
  obtain ⟨made, c, hmade, hgathered, hbytes, -, hc⟩ :=
    hshows.fetches hserver hfile hm.length hm.offset hallowed (Nat.le_refl buffer.length)
  have hrun := run_readInto hopen buffer
  rw [hshows.offset, hmade] at hrun
  simp only at hrun
  rw [hgathered, hbytes] at hrun
  exact .of_run (congrArg (yielding fun r : Except Fault Nat × Bytes => .filled r.1 r.2) hrun) rfl
    (hshows.advanced hc _)

theorem refines_readIntoAt (hm : m.InBounds) {buffer : Bytes} {position : Nat}
    (hallowed : (readIntoAt buffer position).IsAllowed file patience m) :
    Refines server limit patience file m h (readIntoAt buffer position) := by
  have hopen := (hshows.suited hfile).isOpen
  obtain ⟨hposition, hword⟩ := hallowed
  obtain ⟨made, c, hmade, hgathered, hbytes, -, hc⟩ :=
    hshows.fetches hserver hfile hm.length hposition hword (Nat.le_refl buffer.length)
  have hrun := run_readIntoAt hopen buffer position
  rw [hmade] at hrun
  simp only at hrun
  rw [hgathered, hbytes] at hrun
  exact .of_run (congrArg (yielding fun r : Except Fault Nat × Bytes => .filled r.1 r.2) hrun) rfl
    (hshows.kept hc)

/-- All slices of data are confirmed, and then the server keeps them at their position. -/
theorem run_writeLoop {data : Bytes} {position : Nat}
    (hword : 21 + file.base.handle.length + min data.length file.packetSize < Width.word.limit)
    (hafter : (overwrite m.content position data).length < Width.long.limit) :
    ∃ c, (writeLoop h.object data position 0).run h =
        (.ok { done := data.length }, { h with client := c }) ∧
      c.Served server limit patience (overwrite m.content position data) := by
  by_cases hdata : data = []
  · subst hdata
    refine ⟨h.client, run_writeLoop_nil _ _ _ _, ?_⟩
    rw [overwrite_nil]
    exact hshows.served
  have hposition : position + data.length ≤ Width.long.limit := by
    rw [length_overwrite hdata] at hafter
    omega
  have hword' : 21 + server.handle.length + min data.length h.object.packetSize <
      Width.word.limit := by
    rw [hfile.handle] at hword
    rw [hshows.object]
    exact hword
  obtain ⟨c, hrun, hc⟩ := run_writeLoop_served hserver (hshows.suited hfile) 0
    hshows.served hposition hword'
  refine ⟨c, ?_, hc⟩
  rw [hrun, Nat.zero_add]

theorem refines_write {data : Bytes}
    (hallowed : (write data).IsAllowed file patience m)
    (hafter : (m.perform (write data)).2.InBounds) :
    Refines server limit patience file m h (write data) := by
  have hopen := (hshows.suited hfile).isOpen
  obtain ⟨c, hloop, hc⟩ := run_writeLoop hfile hshows hserver hallowed hafter.length
  have hrun : (OpenFile.write data).run h = (.ok data.length,
      { object := { h.object with offset := h.object.offset + data.length }, client := c }) := by
    unfold OpenFile.write
    rw [Step.run_bind, Held.run_ensureOpen hopen]
    simp only
    rw [Step.run_bind, Held.run_current]
    simp only
    rw [hshows.offset, Step.run_bind, hloop]
    rw [← hshows.offset]
    rfl
  exact .of_run (congrArg (yielding fun n : Nat => .number n) hrun) rfl (hshows.advanced hc _)

theorem refines_writeAt {data : Bytes} {position : Nat}
    (hallowed : (writeAt data position).IsAllowed file patience m)
    (hafter : (m.perform (writeAt data position)).2.InBounds) :
    Refines server limit patience file m h (writeAt data position) := by
  have hopen := (hshows.suited hfile).isOpen
  obtain ⟨c, hloop, hc⟩ := run_writeLoop hfile hshows hserver hallowed hafter.length
  have hrun : (OpenFile.writeAt data position).run h = (.ok data.length, { h with client := c }) := by
    unfold OpenFile.writeAt
    rw [Step.run_bind, Held.run_ensureOpen hopen]
    simp only
    rw [Step.run_bind, Held.run_current]
    simp only
    rw [Step.run_bind, hloop]
    rfl
  exact .of_run (congrArg (yielding fun n : Nat => .number n) hrun) rfl (hshows.kept hc)

theorem refines_seek (hm : m.InBounds) (distance origin : Int) :
    Refines server limit patience file m h (seek distance origin) := by
  have hopen := (hshows.suited hfile).isOpen
  -- whatever request came before, a seek arrives in the same way on both
  have harrived : ∀ {c : Client σ} {position : Int},
      c.Served server limit patience m.content → m.target distance origin = .ok position →
      (OpenFile.seek distance origin).run h = arrived { h with client := c } position →
      Refines server limit patience file m h (seek distance origin) := by
    intro c position hc htarget hrun
    unfold arrived at hrun
    by_cases hnegative : position < 0
    · rw [if_pos hnegative] at hrun
      refine .of_run (congrArg (yielding .number) hrun) ?_ (hshows.kept hc)
      simp only [perform, htarget, if_pos hnegative]
      rfl
    · rw [if_neg hnegative] at hrun
      have hposition : position = position.toNat :=
        (Int.toNat_of_nonneg (Int.not_lt.mp hnegative)).symm
      refine .of_run (congrArg (yielding .number) hrun) ?_ (hshows.moved hc hposition)
      simp only [perform, htarget, if_neg hnegative]
      rfl
  have hrun := run_seek hopen distance origin
  cases horigin : Origin.ofNumber? origin with
  | none =>
    rw [horigin] at hrun
    have htarget : m.target distance origin = .error (.invalidOrigin origin) := by
      unfold target
      rw [horigin]
    refine .of_run (congrArg (yielding .number) hrun) ?_ hshows
    simp only [perform, htarget]
    rfl
  | some o =>
    rw [horigin] at hrun
    cases o with
    | start =>
      have htarget : m.target distance origin = .ok distance := by
        unfold target
        rw [horigin]
      exact harrived hshows.served htarget hrun
    | current =>
      have htarget : m.target distance origin = .ok (h.object.offset + distance) := by
        unfold target
        rw [horigin, hshows.offset]
      exact harrived hshows.served htarget hrun
    | finish =>
      obtain ⟨attrs, c, hattrs, hsize, hc⟩ :=
        hshows.served.run_handleAttributes hserver hfile.room hm.length
      rw [(hshows.suited hfile).handle, hattrs] at hrun
      simp only [hsize] at hrun
      have htarget : m.target distance origin = .ok (m.content.length + distance) := by
        unfold target
        rw [horigin]
      exact harrived hc htarget hrun

theorem refines_truncate {size : Option Nat} (hafter : (m.perform (truncate size)).2.InBounds) :
    Refines server limit patience file m h (truncate size) := by
  have hopen := (hshows.suited hfile).isOpen
  have hsize : (size.map fun n => (n : Int)).getD h.object.offset = (size.getD m.offset : Nat) := by
    rw [hshows.offset]
    cases size with
    | none => rfl
    | some n => rfl
  have hlong : size.getD m.offset < Width.long.limit := by
    have hlength := hafter.length
    simp only [perform, length_resize] at hlength
    exact hlength
  obtain ⟨c, hresize, hc⟩ := hshows.served.run_resize hserver hfile.room hlong
  have hrun : (OpenFile.truncate (size.map (↑·))).run h =
      (.ok (size.getD m.offset : Nat), { h with client := c }) := by
    unfold OpenFile.truncate
    rw [Step.run_bind, Held.run_ensureOpen hopen]
    simp only
    rw [Step.run_bind, Held.run_current]
    simp only
    rw [hsize, (hshows.suited hfile).handle, Step.run_bind, Held.run_onClient, hresize]
    rfl
  exact .of_run (congrArg (yielding .number) hrun) rfl (hshows.kept hc)

/-- **A call on an open file does what it does on the file in memory.** -/
theorem refines (hm : m.InBounds) {access : Access} (hallowed : access.IsAllowed file patience m)
    (hafter : (m.perform access).2.InBounds) :
    Refines server limit patience file m h access := by
  cases access with
  | read size => exact refines_read hfile hshows hserver hm hallowed
  | readAt size position => exact refines_readAt hfile hshows hserver hm hallowed
  | readInto buffer => exact refines_readInto hfile hshows hserver hm hallowed
  | readIntoAt buffer position => exact refines_readIntoAt hfile hshows hserver hm hallowed
  | write data => exact refines_write hfile hshows hserver hallowed hafter
  | writeAt data position => exact refines_writeAt hfile hshows hserver hallowed hafter
  | seek distance origin => exact refines_seek hfile hshows hserver hm distance origin
  | tell => exact refines_tell hfile hshows
  | truncate size => exact refines_truncate hfile hshows hserver hafter

end steps

end Access

/-! ## Calls one after another -/

/-- Calls on a file in memory whose numbers all fit, along the run. -/
def MemoryFile.Allows (file : OpenFile) (patience : Nat) (m : MemoryFile) : List Access → Prop
  | [] => m.InBounds
  | access :: others =>
    m.InBounds ∧ access.IsAllowed file patience m ∧ Allows file patience (m.perform access).2 others

instance MemoryFile.decidableAllows (file : OpenFile) (patience : Nat) :
    (m : MemoryFile) → (accesses : List Access) → Decidable (m.Allows file patience accesses)
  | m, [] => inferInstanceAs (Decidable m.InBounds)
  | m, access :: others =>
    have := decidableAllows file patience (m.perform access).2 others
    inferInstanceAs (Decidable (m.InBounds ∧ access.IsAllowed file patience m ∧
      (m.perform access).2.Allows file patience others))

/-- The file in memory from which calls are allowed is in bounds. -/
theorem MemoryFile.Allows.inBounds {m : MemoryFile} {accesses : List Access}
    (h : m.Allows file patience accesses) : m.InBounds := by
  cases accesses with
  | nil => exact h
  | cons access others => exact h.1

/-- **An open file does what a file in memory does.** -/
theorem OpenFile.refines_memoryFile {m : MemoryFile} {h : Held OpenFile σ}
    (hserver : server.Honest limit) (hfile : file.SuitedTo server limit)
    (hshows : Shows server limit patience file m h) {accesses : List Access}
    (hallowed : m.Allows file patience accesses) :
    (OpenFile.runAll h accesses).1 = (m.performAll accesses).1 ∧
      Shows server limit patience file (m.performAll accesses).2 (OpenFile.runAll h accesses).2 := by
  induction accesses generalizing m h with
  | nil => exact ⟨rfl, hshows⟩
  | cons access others ih =>
    obtain ⟨hm, hfirst, hrest⟩ := hallowed
    obtain ⟨houtcome, hshows'⟩ := Access.refines hfile hshows hserver hm hfirst hrest.inBounds
    obtain ⟨houtcomes, hshows''⟩ := ih hshows' hrest
    constructor
    · show (access.run h).1 :: (OpenFile.runAll (access.run h).2 others).1 = _
      rw [houtcome, houtcomes]
      rfl
    · exact hshows''

namespace OpenFile

/-- A file of a server with short reads, that is empty at first, on a connection that takes frames up to a
limit. -/
def ofShortServer (most packetSize : Nat) (limit : Int) (hpos : 0 < packetSize)
    (hlimit : (packetSize : Int) ≤ limit) : Held OpenFile Bytes where
  object := {
    base := { kind := .file, handle := [104], path := "/f" }
    flags := .createEmpty
    packetSize
    packetSize_pos := hpos }
  client := {
    settings := { packetSize, frameSize := limit, bounds := ⟨Int.natCast_pos.mpr hpos, hlimit⟩ }
    link := {
      line := { peer := (FileServer.short most [104]).peer, state := [] }
      exchange := { limit, reader := .running } }
    session := some { version := 3, extensions := .empty }
    patience := 20 }

/-- It stands for an empty file in memory. -/
theorem shows_ofShortServer (most : Nat) {packetSize : Nat} {limit : Int} (hpos : 0 < packetSize)
    (hlimit : (packetSize : Int) ≤ limit) :
    Shows (FileServer.short most [104]) limit 20
      (ofShortServer most packetSize limit hpos hlimit).object {}
      (ofShortServer most packetSize limit hpos hlimit) :=
  ⟨rfl, nofun, Link.ready_of_started limit rfl rfl, rfl, rfl, rfl, rfl⟩

/-- A file with packets of three bytes, of which two come at a time. -/
def inPieces : Held OpenFile Bytes :=
  ofShortServer 2 3 64 (by decide) (by decide)

/-- Calls of all sorts: a write in three slices, reads from the middle, past the end, to the end and into
a buffer, another length, and two seeks that are refused. -/
def variousCalls : List Access :=
  [.write [1, 2, 3, 4, 5, 6, 7], .seek (-5) 2, .read (some 4), .tell, .readAt 3 6, .readAt 3 9,
    .truncate (some 10), .read none, .writeAt [8, 9] 12, .readIntoAt [0, 0, 0, 0] 11, .seek (-1) 0,
    .seek 0 3]

/-- Short reads and slices are put together. -/
theorem refines_memoryFile_inPieces :
    (FileServer.short 2 [104]).Honest 64 ∧
      inPieces.object.SuitedTo (FileServer.short 2 [104]) 64 ∧
      Shows (FileServer.short 2 [104]) 64 20 inPieces.object {} inPieces ∧
      ({} : MemoryFile).Allows inPieces.object 20 variousCalls ∧
      (runAll inPieces variousCalls).1 =
        [.ok (.number 7), .ok (.number 2), .ok (.bytes [3, 4, 5, 6]), .ok (.number 6),
          .ok (.bytes [7]), .ok (.bytes []), .ok (.number 10), .ok (.bytes [7, 0, 0, 0]),
          .ok (.number 2), .ok (.filled (.ok 3) [0, 8, 9, 0]), .error (.negativePosition (-1)),
          .error (.invalidOrigin 3)] := by
  have hserver : (FileServer.short 2 [104]).Honest 64 :=
    FileServer.short_honest (by decide) (by decide) [104] (by decide)
  have hfile : inPieces.object.SuitedTo (FileServer.short 2 [104]) 64 :=
    ⟨rfl, rfl, by decide, by decide⟩
  have hshows : Shows (FileServer.short 2 [104]) 64 20 inPieces.object {} inPieces :=
    shows_ofShortServer 2 (by decide) (by decide)
  have hallowed : ({} : MemoryFile).Allows inPieces.object 20 variousCalls := by decide +kernel
  refine ⟨hserver, hfile, hshows, hallowed, ?_⟩
  rw [(refines_memoryFile hserver hfile hshows hallowed).1]
  decide +kernel

/-- A file with packets of one byte, on a connection whose frames have room for a reply with one byte but
not for a status. -/
def inTightFrames : Held OpenFile Bytes :=
  ofShortServer 1 1 10 Nat.one_pos (by decide)

/-- The server is honest, and every packet leaves room in a frame, but the status at the end of the file
does not fit, and so a read of an empty file does not give no bytes. -/
theorem status_breaks_inTightFrames :
    (FileServer.short 1 [104]).Honest 17 ∧
      inTightFrames.object.SuitedTo (FileServer.short 1 [104]) 10 ∧
      Shows (FileServer.short 1 [104]) 10 20 inTightFrames.object {} inTightFrames ∧
      ({} : MemoryFile).Allows inTightFrames.object 20 [.read (some 1)] ∧
      (MemoryFile.performAll {} [.read (some 1)]).1 = [.ok (.bytes [])] ∧
      (runAll inTightFrames [.read (some 1)]).1 ≠ [.ok (.bytes [])] :=
  ⟨FileServer.short_honest (by decide) (by decide) [104] (by decide),
    ⟨rfl, rfl, by decide, by decide⟩, shows_ofShortServer 1 (by decide) (by decide),
    by decide +kernel, by decide +kernel, by decide +kernel⟩

end OpenFile

end Sftp
