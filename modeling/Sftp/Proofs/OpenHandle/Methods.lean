import Sftp.OpenDirectory
import Sftp.OpenFile
import Sftp.Proofs.OpenHandle.Release

/-!
# The methods of open objects

Every method of an open file or an open directory asks first whether the handle was released, and none of
them releases it.

* `OpenFile.Method`, `OpenFile.guarded` — files.
* `OpenDirectory.Method`, `OpenDirectory.guarded` — directories. An iterator that is kept while other calls
  are made goes on with what is left of its batch, and reads when nothing is.
* **`OpenHandle.released_once`** — both release their handle once and do not use it afterwards.
-/

namespace Sftp

open Held

/-! ## Files -/

namespace OpenFile

/-- The methods of an open file, closing apart. What only looks at how the file was opened is left out. -/
inductive Method
  /-- Reads in sequence, up to a size or to the end of the file. -/
  | read (size : Option Int)
  /-- Reads in sequence into a buffer. -/
  | readInto (buffer : Bytes)
  /-- Reads at a position. -/
  | readAt (size offset : Int)
  /-- Reads at a position into a buffer. -/
  | readIntoAt (buffer : Bytes) (offset : Int)
  /-- Writes in sequence. -/
  | write (data : Bytes)
  /-- Writes at a position. -/
  | writeAt (data : Bytes) (offset : Int)
  /-- Moves the offset. -/
  | seek (distance origin : Int)
  /-- Gives the offset. -/
  | tell
  /-- Gives the statistics of the file. -/
  | stat
  /-- Changes the attributes. -/
  | setAttributes (attrs : Attributes)
  /-- Changes the permission bits. -/
  | changeMode (mode : Int)
  /-- Changes the length, to the offset if none is given. -/
  | truncate (size : Option Int)

variable {σ : Type}

/-- The step of a method, its result left out. -/
def Method.perform : Method → Action σ Unit
  | read size => (fun _ => ()) <$> OpenFile.read size
  | readInto buffer => do
    let filled ← OpenFile.readInto buffer
    Step.ofExcept (filled.1.map fun _ => ())
  | readAt size offset => (fun _ => ()) <$> OpenFile.readAt size offset
  | readIntoAt buffer offset => do
    let filled ← OpenFile.readIntoAt buffer offset
    Step.ofExcept (filled.1.map fun _ => ())
  | write data => (fun _ => ()) <$> OpenFile.write data
  | writeAt data offset => (fun _ => ()) <$> OpenFile.writeAt data offset
  | seek distance origin => (fun _ => ()) <$> OpenFile.seek distance origin
  | tell => (fun _ => ()) <$> OpenFile.tell
  | stat => (fun _ => ()) <$> OpenFile.stat
  | setAttributes attrs => OpenFile.setAttributes attrs
  | changeMode mode => OpenFile.changeMode mode
  | truncate size => (fun _ => ()) <$> OpenFile.truncate size

instance : LawfulOwnsHandle OpenFile where
  base_withBase _ _ := rfl

/-! ### The handle is spared -/

/-- Moving the offset. -/
theorem spares_advance (n : Nat) : Spares (advance n : Action σ Unit) :=
  spares_update fun _ => rfl

/-- The bytes of a transfer. -/
theorem spares_complete {α : Type} (t : Transfer α) :
    Spares (Transfer.complete t : Action σ α) := by
  unfold Transfer.complete
  split
  · exact spares_throw _
  · exact spares_pure _

/-- Reading request by request. -/
theorem spares_fillLoop (file : OpenFile) (rounds wanted : Nat) (offset : Int)
    (parts : List Bytes) : Spares (fillLoop file rounds wanted offset parts : Action σ _) := by
  induction rounds generalizing wanted offset parts with
  | zero => exact spares_pure _
  | succ rounds ih =>
    rw [fillLoop]
    split
    · exact spares_pure _
    · apply (spares_ask rfl _).attempt.bind
      rintro (f | chunk)
      · exact spares_pure _
      · simp only
        split
        · exact spares_pure _
        · exact ih _ _ _

/-- Reading up to a number of bytes. -/
theorem spares_fill (wanted : Nat) (offset : Int) : Spares (fill wanted offset : Action σ _) :=
  spares_current.bind fun file => spares_fillLoop file wanted wanted offset []

/-- Reading to the end of the file. -/
theorem spares_readAllLoop (file : OpenFile) (rounds : Nat) (offset : Int) (parts : List Bytes) :
    Spares (readAllLoop file rounds offset parts : Action σ Bytes) := by
  induction rounds generalizing offset parts with
  | zero => exact spares_throw _
  | succ rounds ih =>
    rw [readAllLoop]
    apply (spares_ask rfl _).bind
    intro chunk
    split
    · exact spares_pure _
    · exact ih _ _

/-- Reading in sequence. -/
theorem spares_read (size : Option Int) : Spares (read size : Action σ Bytes) := by
  apply spares_ensureOpen.bind
  intro _
  apply spares_current.bind
  intro file
  have hrest : ∀ data : Bytes, Spares (do advance data.length; return data : Action σ Bytes) :=
    fun data => (spares_advance data.length).bind fun _ => spares_pure data
  simp only
  split
  · exact spares_get.bind fun held =>
      (spares_readAllLoop file held.client.patience file.offset []).bind hrest
  · exact (spares_fill _ _).bind fun t => (spares_complete t).bind hrest

/-- Reading at a position. -/
theorem spares_readAt (size offset : Int) : Spares (readAt size offset : Action σ Bytes) := by
  apply spares_ensureOpen.bind
  intro _
  simp only
  split
  · exact (spares_throw _).bind fun _ => (spares_fill _ _).bind spares_complete
  · exact (spares_fill _ _).bind spares_complete

/-- Reading at a position into a buffer. -/
theorem spares_readIntoAt (buffer : Bytes) (offset : Int) :
    Spares (readIntoAt buffer offset : Action σ _) := by
  apply spares_ensureOpen.attempt.bind
  rintro (f | _)
  · exact spares_pure _
  · apply (spares_fill _ _).bind
    intro t
    split
    · exact spares_pure _
    · exact spares_pure _

/-- Reading in sequence into a buffer. -/
theorem spares_readInto (buffer : Bytes) : Spares (readInto buffer : Action σ _) := by
  apply spares_current.bind
  intro file
  apply (spares_readIntoAt buffer file.offset).bind
  rintro ⟨f | n, filled⟩
  · exact (spares_pure ()).bind fun _ => spares_pure _
  · exact (spares_advance n).bind fun _ => spares_pure _

/-- Writing slice by slice. -/
theorem spares_writeLoop (file : OpenFile) (data : Bytes) (offset : Int) (confirmed : Nat) :
    Spares (writeLoop file data offset confirmed : Action σ _) := by
  -- what is left after a slice is shorter
  induction hlength : data.length using Nat.strongRecOn generalizing data offset confirmed with
  | ind n ih =>
    rw [writeLoop]
    split
    · exact spares_pure _
    · rename_i hdata
      have hpos := file.packetSize_pos
      have hdataPos := List.length_pos_iff.mpr hdata
      have hdrop : (data.drop file.packetSize).length = data.length - file.packetSize :=
        List.length_drop
      apply (spares_ask rfl _).attempt.bind
      rintro (f | _)
      · exact spares_pure _
      · exact ih _ (by omega) _ _ _ rfl

/-- Writing at a position. -/
theorem spares_writeAt (data : Bytes) (offset : Int) :
    Spares (writeAt data offset : Action σ Nat) :=
  spares_ensureOpen.bind fun _ => spares_current.bind fun file =>
    (spares_writeLoop file data offset 0).bind spares_complete

/-- Writing in sequence. -/
theorem spares_write (data : Bytes) : Spares (write data : Action σ Nat) := by
  apply spares_ensureOpen.bind
  intro _
  apply spares_current.bind
  intro file
  apply (spares_writeLoop file data file.offset 0).bind
  intro t
  split
  · exact (spares_advance _).bind fun _ => spares_throw _
  · exact spares_throw _
  · exact (spares_advance _).bind fun _ => spares_pure _

/-- The statistics. -/
theorem spares_stat : Spares (stat : Action σ FileStats) :=
  spares_ensureOpen.bind fun _ => spares_current.bind fun _ =>
    (spares_ask rfl _).bind fun _ => spares_pure _

/-- The offset. -/
theorem spares_tell : Spares (tell : Action σ Int) :=
  spares_ensureOpen.bind fun _ => spares_current.bind fun _ => spares_pure _

/-- Moving the offset to a position. -/
theorem spares_seek (distance origin : Int) : Spares (seek distance origin : Action σ Int) := by
  have hmove : ∀ position : Int, Spares (do
      update fun f => { f with offset := position }
      return position : Action σ Int) := by
    intro position
    refine Spares.bind (spares_update ?_) fun _ => spares_pure position
    exact fun _ => rfl
  have harrive : ∀ position : Int, Spares (if position < 0 then do
      throw (.negativePosition position)
      update fun f => { f with offset := position }
      return position
    else do
      update fun f => { f with offset := position }
      return position : Action σ Int) := by
    intro position
    split
    · exact (spares_throw _).bind fun _ => hmove position
    · exact hmove position
  apply spares_ensureOpen.bind
  intro _
  apply spares_current.bind
  intro file
  simp only
  split
  · exact harrive _
  · exact harrive _
  · apply spares_stat.bind
    intro stats
    split
    · exact harrive _
    · exact (spares_throw _).bind harrive
  · exact (spares_throw _).bind harrive

/-- Changing the attributes. -/
theorem spares_setAttributes (attrs : Attributes) :
    Spares (setAttributes attrs : Action σ Unit) :=
  spares_ensureOpen.bind fun _ => spares_current.bind fun _ => spares_ask rfl _

/-- Changing the length. -/
theorem spares_truncate (size : Option Int) : Spares (truncate size : Action σ Int) :=
  spares_ensureOpen.bind fun _ => spares_current.bind fun _ =>
    (spares_ask rfl _).bind fun _ => spares_pure _

/-! ### The handle is asked for -/

/-- After the release of the handle, reading into a buffer leaves the buffer as it is. -/
theorem run_readIntoAt_of_closed {h : Held OpenFile σ} (hclosed : h.object.base.closed = true)
    (buffer : Bytes) (offset : Int) :
    (readIntoAt buffer offset).run h = (.ok (.error (releasedFault h.object), buffer), h) := by
  unfold readIntoAt
  rw [Step.run_bind, Step.run_attempt, run_ensureOpen_of_closed hclosed]
  rfl

/-- Methods of files go by the flag of the file. -/
theorem guarded : Guarded (Method.perform (σ := σ)) fun _ => false where
  spares m := by
    cases m with
    | read size => exact (spares_read size).map _
    | readInto buffer => exact (spares_readInto buffer).bind fun filled => spares_ofExcept _
    | readAt size offset => exact (spares_readAt size offset).map _
    | readIntoAt buffer offset =>
      exact (spares_readIntoAt buffer offset).bind fun filled => spares_ofExcept _
    | write data => exact (spares_write data).map _
    | writeAt data offset => exact (spares_writeAt data offset).map _
    | seek distance origin => exact (spares_seek distance origin).map _
    | tell => exact spares_tell.map _
    | stat => exact spares_stat.map _
    | setAttributes attrs => exact spares_setAttributes attrs
    | changeMode mode => exact spares_setAttributes _
    | truncate size => exact (spares_truncate size).map _
  refuses m _ := by
    cases m with
    | readInto buffer =>
      intro h hclosed
      rw [Method.perform, Step.run_bind, readInto, Step.run_bind, run_current]
      simp only
      rw [Step.run_bind, run_readIntoAt_of_closed hclosed]
      rfl
    | readIntoAt buffer offset =>
      intro h hclosed
      rw [Method.perform, Step.run_bind, run_readIntoAt_of_closed hclosed]
      rfl
    | setAttributes attrs => exact refuses_ensureOpen.bind _
    | changeMode mode => exact refuses_ensureOpen.bind _
    | _ => exact (refuses_ensureOpen.bind _).map _
  idle _ := nofun

end OpenFile

/-! ## Directories -/

namespace OpenDirectory

/-- The methods of an open directory, closing apart. -/
inductive Method
  /-- Reads the next entries. -/
  | read
  /-- Goes through the entries with a new iterator, up to as many as are wanted. -/
  | iterate (wanted : Option Nat)
  /-- Goes on with an iterator that has some entries left of its batch. -/
  | resume (left : List FileStats)

/-- Whether a method can do without the handle: no entries are wanted, or there is one left. -/
def Method.needless : Method → Bool
  | read => false
  | iterate wanted => wanted = some 0
  | resume left => !left.isEmpty

variable {σ : Type}

/-- The step of a method, its result left out. -/
def Method.perform : Method → Action σ Unit
  | read => (fun _ => ()) <$> OpenDirectory.read
  | iterate wanted => do
    let listing ← OpenDirectory.iterate wanted
    match listing.fault with
    | some f => throw f
    | none => return
  | resume left => if left.isEmpty then (fun _ => ()) <$> OpenDirectory.read else return

instance : LawfulOwnsHandle OpenDirectory where
  base_withBase _ _ := rfl

/-! ### The handle is spared -/

/-- Fetching batches. -/
theorem spares_nextBatch (rounds : Nat) : Spares (nextBatch rounds : Action σ _) := by
  induction rounds with
  | zero => exact spares_throw _
  | succ rounds ih =>
    apply spares_current.bind
    intro directory
    split
    · exact spares_pure _
    · apply (spares_ask rfl _).attempt.bind
      rintro (f | entries)
      · simp only
        split
        · apply Spares.bind (spares_update ?_) fun _ => spares_pure _
          exact fun _ => rfl
        · exact spares_throw _
      · simp only
        split
        · exact ih
        · exact spares_pure _

/-- Reading the next entries. -/
theorem spares_read : Spares (read : Action σ _) :=
  spares_ensureOpen.bind fun _ => spares_get.bind fun held => spares_nextBatch held.client.patience

/-- Going through the entries. -/
theorem spares_collect (wanted : Option Nat) (rounds : Nat) (seen : List FileStats) :
    Spares (collect wanted rounds seen : Action σ _) := by
  induction rounds generalizing seen with
  | zero => exact spares_pure _
  | succ rounds ih =>
    rw [collect]
    split
    · exact spares_pure _
    · apply spares_read.attempt.bind
      rintro (f | _ | ⟨e, batch⟩)
      · exact spares_pure _
      · exact spares_pure _
      · cases wanted with
        | none => exact ih _
        | some n => exact ih _

/-- Going through the entries with a new iterator. -/
theorem spares_iterate (wanted : Option Nat) : Spares (iterate wanted : Action σ _) :=
  spares_get.bind fun held => spares_collect wanted (held.client.patience + 1) []

/-! ### The handle is asked for -/

/-- Reading the next entries. -/
theorem refuses_read : Refuses (read : Action σ (List FileStats)) :=
  refuses_ensureOpen.bind _

/-- If no entries are wanted, nothing is done. -/
theorem run_iterate_zero (h : Held OpenDirectory σ) :
    (iterate (some 0)).run h = (.ok { entries := [] }, h) :=
  rfl

/-- After the release of the handle, there are no entries to go through. -/
theorem run_iterate_of_closed {h : Held OpenDirectory σ} (hclosed : h.object.base.closed = true)
    {wanted : Option Nat} (hwanted : wanted ≠ some 0) :
    (iterate wanted).run h =
      (.ok { entries := [], fault := some (releasedFault h.object) }, h) := by
  have henough : ¬ wanted.any (· ≤ ([] : List FileStats).length) = true := by
    cases wanted with
    | none => exact Bool.false_ne_true
    | some n =>
      intro hle
      exact hwanted (congrArg some (Nat.le_zero.mp (of_decide_eq_true hle)))
  unfold iterate
  rw [Step.run_bind, Step.run_get]
  simp only
  rw [collect, if_neg henough, Step.run_bind, Step.run_attempt, refuses_read h hclosed]
  rfl

/-- Methods of directories go by the flag of the directory. -/
theorem guarded : Guarded (Method.perform (σ := σ)) Method.needless where
  spares m := by
    cases m with
    | read => exact spares_read.map _
    | iterate wanted =>
      apply (spares_iterate wanted).bind
      intro listing
      split
      · exact spares_throw _
      · exact spares_pure _
    | resume left =>
      rw [Method.perform]
      split
      · exact spares_read.map _
      · exact spares_pure _
  refuses m hneedless := by
    cases m with
    | read => exact refuses_read.map _
    | iterate wanted =>
      intro h hclosed
      have hwanted : wanted ≠ some 0 := of_decide_eq_false hneedless
      rw [Method.perform, Step.run_bind, run_iterate_of_closed hclosed hwanted]
      rfl
    | resume left =>
      cases left with
      | nil => exact refuses_read.map _
      | cons e left => cases hneedless
  idle m hneedless h := by
    cases m with
    | read => cases hneedless
    | iterate wanted =>
      obtain rfl : wanted = some 0 := of_decide_eq_true hneedless
      rw [Method.perform, Step.run_bind, run_iterate_zero]
      rfl
    | resume left =>
      cases left with
      | nil => cases hneedless
      | cons e left => rfl

end OpenDirectory

/-- **Files and directories release their handle once and do not use it afterwards**, whatever is called on
them in which order, and whatever happens to the client in between. -/
theorem OpenHandle.released_once {σ : Type} :
    (∀ (file : OpenFile) (calls : List (Client σ × Call OpenFile.Method)),
      ReleasedOnce (fun _ => false) file.base (history OpenFile.Method.perform file calls)) ∧
    ∀ (directory : OpenDirectory) (calls : List (Client σ × Call OpenDirectory.Method)),
      ReleasedOnce OpenDirectory.Method.needless directory.base
        (history OpenDirectory.Method.perform directory calls) :=
  ⟨OpenFile.guarded.releasedOnce, OpenDirectory.guarded.releasedOnce⟩

end Sftp
