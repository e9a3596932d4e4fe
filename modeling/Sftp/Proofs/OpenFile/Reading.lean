import Sftp.OpenFile

/-!
# Reads and the requests that they make

A read asks for one piece after another, until it has what was wanted, or a piece has no bytes, or a
request faults. The two loops that read, up to a number of bytes and to the end of the file, make their
requests in the same way.

* `Fetch`, `OpenFile.fetches` — the requests of a read with what they brought, and the client after them.
* **`OpenFile.run_fillLoop`**, **`OpenFile.run_readAllLoop`** — both loops make exactly these requests, and
  give what these brought.
* `OpenFile.length_of_mem_fetches` — a request asks for at least one byte, and at most for the packet size.
* `OpenFile.run_read_of_size` and its kin — what each call that reads makes of its requests.
-/

namespace Sftp

/-! ## The requests of a read -/

/-- One request of a read. -/
structure Fetch where
  /-- From where it asks for bytes. -/
  offset : Int
  /-- How many it asks for. -/
  length : Nat
  /-- What it brought. -/
  outcome : Except Fault Bytes

namespace Fetch

/-- The bytes that a request brought. -/
def bytes (fetch : Fetch) : Bytes :=
  match fetch.outcome with
  | .ok bytes => bytes
  | .error _ => []

/-- The fault that a request ended with, if it did. -/
def fault? (fetch : Fetch) : Option Fault :=
  match fetch.outcome with
  | .ok _ => none
  | .error f => some f

end Fetch

namespace OpenFile

variable {σ : Type}

open Held

/-- How many bytes the next request of a read asks for, when so many are wanted, or all that there
are. -/
def share (file : OpenFile) : Option Nat → Nat
  | some wanted => min wanted file.packetSize
  | none => file.packetSize

/-- The requests of a read that may make so many, and the client after them. -/
def fetches (file : OpenFile) : Nat → Option Nat → Int → Client σ → List Fetch × Client σ
  | 0, _, _, c => ([], c)
  | rounds + 1, wanted, offset, c =>
    if wanted = some 0 then
      ([], c)
    else
      let answered := (Client.readChunk file.base.handle offset (file.share wanted)).run c
      let fetch : Fetch := { offset, length := file.share wanted, outcome := answered.1 }
      if fetch.bytes = [] then
        ([fetch], answered.2)
      else
        let others := fetches file rounds (wanted.map (· - fetch.bytes.length))
          (offset + fetch.bytes.length) answered.2
        (fetch :: others.1, others.2)

/-- The bytes that requests brought, unless one of them ended with a fault. -/
def gathered (made : List Fetch) : Except Fault Bytes :=
  match made.findSome? Fetch.fault? with
  | some f => .error f
  | none => .ok (made.flatMap Fetch.bytes)

variable {file : OpenFile} {rounds : Nat} {wanted : Option Nat} {offset : Int} {c : Client σ}

/-- After a request that brought bytes, the others add theirs. -/
theorem gathered_cons (offset : Int) (length : Nat) (chunk : Bytes) (others : List Fetch) :
    gathered ({ offset, length, outcome := .ok chunk } :: others) =
      (gathered others).map (chunk ++ ·) := by
  unfold gathered
  rw [List.findSome?_cons]
  simp only [Fetch.fault?]
  cases others.findSome? Fetch.fault? with
  | some f => rfl
  | none => rfl

/-- A read of no bytes makes no request. -/
theorem fetches_zero (rounds : Nat) : file.fetches rounds (some 0) offset c = ([], c) := by
  cases rounds with
  | zero => rfl
  | succ rounds => exact if_pos rfl

/-- A request that brings no bytes is the last. -/
theorem fetches_last {outcome : Except Fault Bytes} {c' : Client σ} (hwanted : wanted ≠ some 0)
    (hrun : (Client.readChunk file.base.handle offset (file.share wanted)).run c = (outcome, c'))
    (hnone : Fetch.bytes { offset, length := file.share wanted, outcome } = []) :
    file.fetches (rounds + 1) wanted offset c =
      ([{ offset, length := file.share wanted, outcome }], c') := by
  rw [fetches, if_neg hwanted, hrun]
  exact if_pos hnone

/-- After a request that brings bytes comes the rest of the read. -/
theorem fetches_next {chunk : Bytes} {c' : Client σ} (hwanted : wanted ≠ some 0)
    (hrun : (Client.readChunk file.base.handle offset (file.share wanted)).run c = (.ok chunk, c'))
    (hchunk : chunk ≠ []) :
    file.fetches (rounds + 1) wanted offset c =
      let others := file.fetches rounds (wanted.map (· - chunk.length)) (offset + chunk.length) c'
      ({ offset, length := file.share wanted, outcome := .ok chunk } :: others.1, others.2) := by
  rw [fetches, if_neg hwanted, hrun]
  exact if_neg hchunk

/-- **A read up to a number of bytes** makes these requests, and gives what they brought, and the fault
that ended it. -/
theorem run_fillLoop (file : OpenFile) (rounds wanted : Nat) (offset : Int) (parts : List Bytes)
    (h : Held OpenFile σ) :
    (fillLoop file rounds wanted offset parts).run h =
      let made := file.fetches rounds (some wanted) offset h.client
      (.ok {
          done := parts.reverse.flatten ++ made.1.flatMap Fetch.bytes
          fault := made.1.findSome? Fetch.fault? },
        { h with client := made.2 }) := by
  induction rounds generalizing wanted offset parts h with
  | zero =>
    simp only [fetches, List.flatMap_nil, List.append_nil]
    rfl
  | succ rounds ih =>
    by_cases hzero : wanted = 0
    · subst hzero
      simp only [fetches_zero, List.flatMap_nil, List.append_nil]
      rw [fillLoop, if_pos rfl]
      rfl
    have hwanted : some wanted ≠ some 0 := fun h => hzero (Option.some.inj h)
    have hshare : min wanted file.packetSize = file.share (some wanted) := rfl
    rw [fillLoop, if_neg hzero, hshare, Step.run_bind, Step.run_attempt, run_onClient]
    simp only
    rcases hrun : (Client.readChunk file.base.handle offset (file.share (some wanted))).run
      h.client with ⟨f | chunk, c'⟩
    · rw [fetches_last hwanted hrun rfl]
      simp only [List.flatMap_cons, List.flatMap_nil, Fetch.bytes, List.append_nil]
      rfl
    by_cases hchunk : chunk = []
    · subst hchunk
      rw [fetches_last hwanted hrun rfl]
      simp only [List.flatMap_cons, List.flatMap_nil, Fetch.bytes, List.append_nil]
      rfl
    · have hsome : ¬ chunk.isEmpty = true := fun h => hchunk (List.isEmpty_iff.mp h)
      rw [fetches_next hwanted hrun hchunk]
      simp only
      rw [if_neg hsome, ih]
      simp only [List.flatMap_cons, Fetch.bytes, List.reverse_cons, List.flatten_append,
        List.flatten_singleton, List.append_assoc]
      rfl

/-- **A read to the end** makes these requests, and gives what they brought if one of them, the last,
brought nothing. -/
theorem run_readAllLoop (file : OpenFile) (rounds : Nat) (offset : Int) (parts : List Bytes)
    (h : Held OpenFile σ) :
    (readAllLoop file rounds offset parts).run h =
      let made := file.fetches rounds none offset h.client
      (if made.1.any (·.bytes.isEmpty) then (gathered made.1).map (parts.reverse.flatten ++ ·)
        else .error .outOfPatience, { h with client := made.2 }) := by
  induction rounds generalizing offset parts h with
  | zero => rfl
  | succ rounds ih =>
    have hwanted : (none : Option Nat) ≠ some 0 := nofun
    have hshare : file.packetSize = file.share none := rfl
    rw [readAllLoop, hshare, Step.run_bind, run_onClient]
    rcases hrun : (Client.readChunk file.base.handle offset (file.share none)).run h.client with
      ⟨f | chunk, c'⟩
    · rw [fetches_last hwanted hrun rfl]
      rfl
    by_cases hchunk : chunk = []
    · subst hchunk
      rw [fetches_last hwanted hrun rfl]
      simp only [gathered_cons, List.any_cons]
      show _ = (Except.ok (parts.reverse.flatten ++ ([] ++ [])), _)
      rw [List.append_nil, List.append_nil]
      rfl
    · have hsome : chunk.isEmpty = false := List.isEmpty_eq_false_iff.mpr hchunk
      rw [fetches_next hwanted hrun hchunk]
      simp only
      rw [hsome, if_neg Bool.false_ne_true, ih]
      simp only [gathered_cons, List.any_cons, Fetch.bytes, hsome, Bool.false_or, Option.map_none]
      cases gathered (file.fetches rounds none (offset + chunk.length) c').1 with
      | error f => rfl
      | ok data =>
        simp only [Except.map, List.reverse_cons, List.flatten_append, List.flatten_singleton,
          List.append_assoc]

/-- The next request of a read that wants bytes asks for one at least, and at most for the packet
size. -/
theorem share_bounds (file : OpenFile) (hwanted : wanted ≠ some 0) :
    0 < file.share wanted ∧ file.share wanted ≤ file.packetSize := by
  have hpos := file.packetSize_pos
  cases wanted with
  | none => exact ⟨hpos, Nat.le_refl _⟩
  | some n =>
    have hn : 0 < n := Nat.pos_of_ne_zero fun hn => hwanted (congrArg some hn)
    exact ⟨Nat.lt_min.mpr ⟨hn, hpos⟩, Nat.min_le_right _ _⟩

/-- Every request of a read asks for at least one byte, and at most for the packet size. -/
theorem length_of_mem_fetches {fetch : Fetch}
    (h : fetch ∈ (file.fetches rounds wanted offset c).1) :
    0 < fetch.length ∧ fetch.length ≤ file.packetSize := by
  induction rounds generalizing wanted offset c with
  | zero => cases h
  | succ rounds ih =>
    rw [fetches] at h
    by_cases hwanted : wanted = some 0
    · rw [if_pos hwanted] at h
      cases h
    rw [if_neg hwanted] at h
    simp only at h
    split at h
    · rw [List.mem_singleton] at h
      rw [h]
      exact file.share_bounds hwanted
    · rcases List.mem_cons.mp h with rfl | hmem
      · exact file.share_bounds hwanted
      · exact ih hmem

/-! ## The calls that read -/

/-- The outcome of a read that moves the offset by what it brought. -/
def moved (h : Held OpenFile σ) (c : Client σ) :
    Except Fault Bytes → Except Fault Bytes × Held OpenFile σ
  | .error f => (.error f, { h with client := c })
  | .ok data => (.ok data,
      { object := { h.object with offset := h.object.offset + data.length }, client := c })

/-- A read up to a number of bytes has as many rounds as it can need. -/
theorem run_fill (wanted : Nat) (offset : Int) (h : Held OpenFile σ) :
    (fill wanted offset).run h =
      let made := h.object.fetches wanted (some wanted) offset h.client
      (.ok { done := made.1.flatMap Fetch.bytes, fault := made.1.findSome? Fetch.fault? },
        { h with client := made.2 }) := by
  unfold fill
  rw [Step.run_bind, run_current]
  exact run_fillLoop h.object wanted wanted offset [] h

/-- A transfer of requests ends as they do. -/
theorem run_complete (made : List Fetch) (h : Held OpenFile σ) :
    (Transfer.complete
      { done := made.flatMap Fetch.bytes, fault := made.findSome? Fetch.fault? }).run h =
      (gathered made, h) := by
  unfold Transfer.complete gathered
  cases made.findSome? Fetch.fault? with
  | none => rfl
  | some f => rfl

variable {h : Held OpenFile σ}

/-- A read in sequence up to a size. -/
theorem run_read_of_size (hopen : h.object.base.closed = false) {size : Option Int} {n : Int}
    (hsize : size.filter (0 ≤ ·) = some n) :
    (read size).run h =
      let made := h.object.fetches n.toNat (some n.toNat) h.object.offset h.client
      moved h made.2 (gathered made.1) := by
  unfold read
  rw [Step.run_bind, run_ensureOpen hopen]
  simp only
  rw [Step.run_bind, run_current]
  simp only
  rw [hsize]
  simp only
  rw [Step.run_bind, run_fill]
  simp only
  rw [Step.run_bind, run_complete]
  cases gathered (h.object.fetches n.toNat (some n.toNat) h.object.offset h.client).1 with
  | error f => rfl
  | ok data => rfl

/-- A read in sequence to the end of the file. -/
theorem run_read_to_end (hopen : h.object.base.closed = false) {size : Option Int}
    (hsize : size.filter (0 ≤ ·) = none) :
    (read size).run h =
      let made := h.object.fetches h.client.patience none h.object.offset h.client
      moved h made.2 (if made.1.any (·.bytes.isEmpty) then gathered made.1
        else .error .outOfPatience) := by
  unfold read
  rw [Step.run_bind, run_ensureOpen hopen]
  simp only
  rw [Step.run_bind, run_current]
  simp only
  rw [hsize]
  simp only
  rw [Step.run_bind, Step.run_get]
  simp only
  have hnothing : ∀ result : Except Fault Bytes,
      result.map (([] : List Bytes).reverse.flatten ++ ·) = result := by
    rintro (f | data)
    · rfl
    · rfl
  rw [Step.run_bind, run_readAllLoop]
  simp only
  rw [hnothing]
  generalize h.object.fetches h.client.patience none h.object.offset h.client = made
  by_cases hend : made.1.any (·.bytes.isEmpty) = true
  · rw [if_pos hend]
    cases gathered made.1 with
    | error f => rfl
    | ok data => rfl
  · rw [if_neg hend]
    rfl

/-- A read of a negative number of bytes is refused. -/
theorem run_readAt_of_neg (hopen : h.object.base.closed = false) {size : Int} (hsize : size < 0)
    (offset : Int) : (readAt size offset).run h = (.error .negativeCount, h) := by
  unfold readAt
  rw [Step.run_bind, run_ensureOpen hopen]
  simp only
  rw [if_pos hsize]
  rfl

/-- A read at a position. -/
theorem run_readAt (hopen : h.object.base.closed = false) {size : Int} (hsize : 0 ≤ size)
    (offset : Int) :
    (readAt size offset).run h =
      let made := h.object.fetches size.toNat (some size.toNat) offset h.client
      (gathered made.1, { h with client := made.2 }) := by
  unfold readAt
  rw [Step.run_bind, run_ensureOpen hopen]
  simp only
  rw [if_neg (Int.not_lt.mpr hsize), Step.run_bind, run_fill]
  exact run_complete _ _

/-- A read into a buffer at a position. The buffer shows what came, also before a fault. -/
theorem run_readIntoAt (hopen : h.object.base.closed = false) (buffer : Bytes) (offset : Int) :
    (readIntoAt buffer offset).run h =
      let made := h.object.fetches buffer.length (some buffer.length) offset h.client
      (.ok ((gathered made.1).map List.length, overlay buffer (made.1.flatMap Fetch.bytes)),
        { h with client := made.2 }) := by
  unfold readIntoAt gathered
  rw [Step.run_bind, Step.run_attempt, run_ensureOpen hopen]
  simp only
  rw [Step.run_bind, run_fill]
  simp only
  generalize h.object.fetches buffer.length (some buffer.length) offset h.client = made
  cases made.1.findSome? Fetch.fault? with
  | none => rfl
  | some f => rfl

/-- A read into a buffer in sequence. -/
theorem run_readInto (hopen : h.object.base.closed = false) (buffer : Bytes) :
    (readInto buffer).run h =
      let made := h.object.fetches buffer.length (some buffer.length) h.object.offset h.client
      (.ok ((gathered made.1).map List.length, overlay buffer (made.1.flatMap Fetch.bytes)),
        (moved h made.2 (gathered made.1)).2) := by
  unfold readInto
  rw [Step.run_bind, run_current]
  simp only
  rw [Step.run_bind, run_readIntoAt hopen]
  simp only
  cases gathered (h.object.fetches buffer.length (some buffer.length) h.object.offset
      h.client).1 with
  | error f => rfl
  | ok data => rfl

end OpenFile

end Sftp
