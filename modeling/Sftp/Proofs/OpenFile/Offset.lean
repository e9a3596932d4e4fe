import Sftp.Proofs.Client.Proper
import Sftp.Proofs.OpenFile.Reading
import Sftp.Proofs.OpenFile.Writing
import Sftp.Proofs.OpenHandle.Methods

/-!
# The offset of an open file

Reading, writing and seeking move the one offset of an open file, and what they give says where to. Every
other call leaves it alone, also those that are made of many requests, and those that fail in the middle.

* `OpenFile.Law` — what the outcome of a call says of the offset before and after it: `OpenFile.still`,
  `OpenFile.advances`, `OpenFile.advancesWithin`, `OpenFile.arrives`.
* `OpenFile.Follows`, `OpenFile.Still` — steps that follow a law; `OpenFile.Still.before`, that what comes
  before the offset is moved does not matter.
* `Method.Given`, `Method.give` — the methods with what they give; `Method.law` — the law of each;
  **`Method.follows_law`**.
* **`OpenFile.offset_follows_laws`** — every call in the life of an open file, whatever happens to its client.
-/

namespace Sftp

namespace OpenFile

open Held

variable {σ α β : Type}

/-! ## Laws -/

/-- What is said of an offset before a call, the outcome of the call, and the offset after it. -/
abbrev Law (α : Type) : Type := Int → Except Fault α → Int → Prop

/-- The offset stays. -/
def still : Law α := fun before _ after => after = before

/-- The offset moves by as much as the result says, and stays after a fault. -/
def advances (count : α → Nat) : Law α
  | before, .ok x, after => after = before + count x
  | before, .error _, after => after = before

/-- The offset moves by so much, after a fault perhaps by less. -/
def advancesWithin (count : Nat) : Law α
  | before, .ok _, after => after = before + count
  | before, .error _, after => before ≤ after ∧ after ≤ before + count

/-- The offset is the result, which is not negative, and stays after a fault. -/
def arrives : Law Int
  | _, .ok position, after => 0 ≤ position ∧ after = position
  | before, .error _, after => after = before

/-- An offset that is not negative does not become so by moving forward. -/
theorem nonneg_of_advances {count : α → Nat} {before after : Int} {result : Except Fault α}
    (h : advances count before result after) (hbefore : 0 ≤ before) : 0 ≤ after := by
  cases result with
  | error f =>
    obtain rfl : after = before := h
    exact hbefore
  | ok x =>
    obtain rfl : after = before + count x := h
    exact Int.add_nonneg hbefore (Int.natCast_nonneg _)

/-- Nor if that gets only part of the way. -/
theorem nonneg_of_advancesWithin {count : Nat} {before after : Int} {result : Except Fault α}
    (h : advancesWithin count before result after) (hbefore : 0 ≤ before) : 0 ≤ after := by
  cases result with
  | error f => exact Int.le_trans hbefore h.1
  | ok x =>
    obtain rfl : after = before + count := h
    exact Int.add_nonneg hbefore (Int.natCast_nonneg _)

/-- Nor by moving elsewhere. -/
theorem nonneg_of_arrives {before after : Int} {result : Except Fault Int}
    (h : arrives before result after) (hbefore : 0 ≤ before) : 0 ≤ after := by
  cases result with
  | error f =>
    obtain rfl : after = before := h
    exact hbefore
  | ok position =>
    obtain ⟨hposition, rfl⟩ : 0 ≤ position ∧ after = position := h
    exact hposition

/-- By the law, the offset can stay where it is after a fault. -/
def Law.MayStay (law : Law α) : Prop := ∀ n f, law n (.error f) n

theorem mayStay_still : Law.MayStay (still : Law α) := fun _ _ => rfl

theorem mayStay_advances (count : α → Nat) : Law.MayStay (advances count) := fun _ _ => rfl

theorem mayStay_advancesWithin (count : Nat) : Law.MayStay (advancesWithin count : Law α) :=
  fun n _ => ⟨Int.le_refl n, Int.le_add_of_nonneg_right (Int.natCast_nonneg count)⟩

theorem mayStay_arrives : Law.MayStay arrives := fun _ _ => rfl

/-- A step follows a law, whatever file and client it is taken on. -/
def Follows (law : Law α) (a : Action σ α) : Prop :=
  ∀ h : Held OpenFile σ, law h.object.offset (a.run h).1 (a.run h).2.object.offset

/-- A step leaves the offset alone. -/
abbrev Still (a : Action σ α) : Prop := Follows still a

/-! ## Steps that leave the offset alone -/

/-- Giving a result. -/
theorem still_pure (a : α) : Still (pure a : Action σ α) := fun _ => rfl

/-- Faulting. -/
theorem still_throw (f : Fault) : Still (throw f : Action σ α) := fun _ => rfl

/-- Looking at the file. -/
theorem still_current : Still (current : Action σ OpenFile) := fun _ => rfl

/-- Giving a result or faulting. -/
theorem still_ofExcept (r : Except Fault α) : Still (Step.ofExcept r : Action σ α) := fun _ => rfl

/-- A step on the client. -/
theorem still_onClient (a : Step (Client σ) α) : Still (onClient a : Action σ α) := fun _ => rfl

/-- **What comes before the offset is moved does not matter**, if its own faults leave it alone. -/
theorem Still.before {law : Law β} {a : Action σ α} {k : α → Action σ β} (ha : Still a)
    (hk : ∀ x, Follows law (k x)) (hlaw : law.MayStay) : Follows law (a >>= k) := by
  intro h
  have hstill : (a.run h).2.object.offset = h.object.offset := ha h
  rw [Step.run_bind]
  rcases hrun : a.run h with ⟨f | x, h'⟩
  · rw [hrun] at hstill
    exact hstill ▸ hlaw _ f
  · rw [hrun] at hstill
    exact hstill ▸ hk x h'

/-- One step after another. -/
theorem Still.bind {a : Action σ α} {k : α → Action σ β} (ha : Still a) (hk : ∀ x, Still (k x)) :
    Still (a >>= k) :=
  ha.before hk mayStay_still

/-- A step whose fault is a result. -/
theorem Still.attempt {a : Action σ α} (ha : Still a) : Still a.attempt := ha

/-- Asking whether the handle was released. -/
theorem still_ensureOpen : Still (ensureOpen : Action σ Unit) := by
  refine still_current.bind fun file => ?_
  simp only
  split
  · exact still_throw _
  · exact still_pure _

/-- The result of a transfer. -/
theorem still_complete (t : Transfer α) : Still (Transfer.complete t : Action σ α) := by
  unfold Transfer.complete
  split
  · exact still_throw _
  · exact still_pure _

/-! ## Reading and writing at a position, and the rest -/

/-- A read request by request. -/
theorem still_fill (wanted : Nat) (offset : Int) : Still (fill wanted offset : Action σ (Transfer Bytes)) := by
  intro h
  rw [run_fill]
  rfl

/-- A read to the end of the file. -/
theorem still_readAllLoop (file : OpenFile) (rounds : Nat) (offset : Int) (parts : List Bytes) :
    Still (readAllLoop file rounds offset parts : Action σ Bytes) := by
  intro h
  rw [run_readAllLoop]
  rfl

/-- A write slice by slice. -/
theorem still_writeLoop (file : OpenFile) (data : Bytes) (offset : Int) (confirmed : Nat) :
    Still (writeLoop file data offset confirmed : Action σ (Transfer Nat)) := by
  intro h
  obtain ⟨k, fault, c, -, hrun⟩ := writeLoop_ends file data offset confirmed h
  rw [hrun]
  rfl

/-- Reading at a position. -/
theorem still_readAt (size offset : Int) : Still (readAt size offset : Action σ Bytes) := by
  refine still_ensureOpen.bind fun _ => ?_
  simp only
  split
  · exact (still_throw _).bind fun _ => (still_fill _ _).bind still_complete
  · exact (still_fill _ _).bind still_complete

/-- Reading at a position into a buffer. -/
theorem still_readIntoAt (buffer : Bytes) (offset : Int) :
    Still (readIntoAt buffer offset : Action σ (Except Fault Nat × Bytes)) := by
  refine still_ensureOpen.attempt.bind ?_
  rintro (f | _)
  · exact still_pure _
  · refine (still_fill _ _).bind fun t => ?_
    split
    · exact still_pure _
    · exact still_pure _

/-- Writing at a position. -/
theorem still_writeAt (data : Bytes) (offset : Int) : Still (writeAt data offset : Action σ Nat) :=
  still_ensureOpen.bind fun _ => still_current.bind fun _ => (still_writeLoop _ _ _ _).bind still_complete

/-- The statistics. -/
theorem still_stat : Still (stat : Action σ FileStats) :=
  still_ensureOpen.bind fun _ => still_current.bind fun _ => (still_onClient _).bind fun _ => still_pure _

/-- Telling the offset. -/
theorem still_tell : Still (tell : Action σ Int) :=
  still_ensureOpen.bind fun _ => still_current.bind fun _ => still_pure _

/-- Changing the attributes. -/
theorem still_setAttributes (attrs : Attributes) : Still (setAttributes attrs : Action σ Unit) :=
  still_ensureOpen.bind fun _ => still_current.bind fun _ => still_onClient _

/-- Changing the length. -/
theorem still_truncate (size : Option Int) : Still (truncate size : Action σ Int) :=
  still_ensureOpen.bind fun _ => still_current.bind fun _ => (still_onClient _).bind fun _ => still_pure _

/-- Closing the file. -/
theorem still_close : Still (close : Action σ Unit) := by
  intro h
  cases hclosed : h.object.base.closed with
  | true =>
    rw [run_close_of_closed hclosed]
    rfl
  | false =>
    rw [run_close_of_open hclosed]
    rfl

/-! ## Reading and writing in sequence, and seeking -/

/-- Reading in sequence moves the offset by the bytes that it gives. -/
theorem advances_read (size : Option Int) : Follows (advances List.length) (read size : Action σ Bytes) := by
  have hstay := mayStay_advances (List.length (α := UInt8))
  have hrest : ∀ data : Bytes, Follows (advances List.length)
      (do advance data.length; return data : Action σ Bytes) := fun _ _ => rfl
  refine still_ensureOpen.before (fun _ => still_current.before (fun file => ?_) hstay) hstay
  simp only
  split
  · exact Still.before (a := get) (fun _ => rfl)
      (fun held => (still_readAllLoop _ _ _ _).before hrest hstay) hstay
  · exact (still_fill _ _).before (fun t => (still_complete t).before hrest hstay) hstay

/-- So does reading into a buffer. -/
theorem advances_readInto (buffer : Bytes) :
    Follows (advances id) (do Step.ofExcept (← readInto buffer).1 : Action σ Nat) := by
  intro h
  have hstill := still_readIntoAt (σ := σ) buffer h.object.offset h
  rw [Step.run_bind, readInto, Step.run_bind, run_current]
  simp only
  rw [Step.run_bind]
  rcases hrun : (readIntoAt buffer h.object.offset).run h with ⟨f | ⟨f | n, filled⟩, h'⟩
  all_goals rw [hrun] at hstill
  · exact hstill
  · exact hstill
  · exact congrArg (· + (n : Int)) hstill

/-- Writing in sequence moves the offset over the data, or over what was confirmed of them. -/
theorem advances_write (data : Bytes) :
    Follows (advancesWithin data.length) (write data : Action σ Nat) := by
  have hstay := mayStay_advancesWithin (α := Nat) data.length
  refine still_ensureOpen.before (fun _ h => ?_) hstay
  rw [Step.run_bind, run_current]
  simp only
  obtain ⟨k, fault, c, hends, hrun⟩ := writeLoop_ends h.object data h.object.offset 0 h
  rw [Step.run_bind, hrun, Nat.zero_add]
  cases hends with
  | whole => rfl
  | @stopped k _ _ f _ hlt _ =>
    cases f with
    | status e =>
      have hconfirmed : (k : Int) ≤ data.length := Int.ofNat_le.mpr (Nat.le_of_lt hlt)
      exact ⟨Int.le_add_of_nonneg_right (Int.natCast_nonneg k), Int.add_le_add_left hconfirmed _⟩
    | _ => exact hstay _ _

/-- Seeking sets the offset to what it gives. -/
theorem arrives_seek (distance origin : Int) : Follows arrives (seek distance origin : Action σ Int) := by
  have harrive : ∀ position : Int, Follows arrives (if position < 0 then do
      throw (.negativePosition position)
      update fun f => { f with offset := position }
      return position
    else do
      update fun f => { f with offset := position }
      return position : Action σ Int) := by
    intro position
    split
    · exact fun _ => rfl
    · rename_i hposition
      exact fun _ => ⟨Int.not_lt.mp hposition, rfl⟩
  refine still_ensureOpen.before (fun _ => ?_) mayStay_arrives
  refine still_current.before (fun file => ?_) mayStay_arrives
  simp only
  split
  · exact harrive _
  · exact harrive _
  · refine still_stat.before (fun stats => ?_) mayStay_arrives
    split
    · exact harrive _
    · exact (still_throw _).before harrive mayStay_arrives
  · exact (still_throw _).before harrive mayStay_arrives

/-! ## The methods -/

/-- What a method gives. -/
def Method.Given : Method → Type
  | .read _ | .readAt _ _ => Bytes
  | .readInto _ | .readIntoAt _ _ | .write _ | .writeAt _ _ => Nat
  | .seek _ _ | .tell | .truncate _ => Int
  | .stat => FileStats
  | .setAttributes _ | .changeMode _ => Unit

/-- The step of a method, with what it gives. Reading into a buffer gives the number of bytes. -/
def Method.give : (m : Method) → Action σ m.Given
  | .read size => OpenFile.read size
  | .readInto buffer => do Step.ofExcept (← OpenFile.readInto buffer).1
  | .readAt size offset => OpenFile.readAt size offset
  | .readIntoAt buffer offset => do Step.ofExcept (← OpenFile.readIntoAt buffer offset).1
  | .write data => OpenFile.write data
  | .writeAt data offset => OpenFile.writeAt data offset
  | .seek distance origin => OpenFile.seek distance origin
  | .tell => OpenFile.tell
  | .stat => OpenFile.stat
  | .setAttributes attrs => OpenFile.setAttributes attrs
  | .changeMode mode => OpenFile.changeMode mode
  | .truncate size => OpenFile.truncate size

/-- A step that fills a buffer, with the number of bytes or without. -/
theorem run_filling (a : Action σ (Except Fault Nat × Bytes)) (h : Held OpenFile σ) :
    (do Step.ofExcept ((← a).1.map fun _ => ()) : Action σ Unit).run h =
      (((do Step.ofExcept (← a).1 : Action σ Nat).run h).1.map fun _ => (),
        ((do Step.ofExcept (← a).1 : Action σ Nat).run h).2) := by
  rw [Step.run_bind, Step.run_bind]
  rcases a.run h with ⟨f | filled, h'⟩
  · rfl
  · rfl

/-- **The step of a method does the same with what it gives and without.** -/
theorem Method.run_perform (m : Method) (h : Held OpenFile σ) :
    m.perform.run h = ((m.give.run h).1.map fun _ => (), (m.give.run h).2) := by
  have hunit : ∀ outcome : Except Fault Unit × Held OpenFile σ,
      outcome = (outcome.1.map fun _ => (), outcome.2) := by
    rintro ⟨f | _, h'⟩
    · rfl
    · rfl
  cases m with
  | readInto buffer => exact run_filling (OpenFile.readInto buffer) h
  | readIntoAt buffer offset => exact run_filling (OpenFile.readIntoAt buffer offset) h
  | setAttributes attrs => exact hunit _
  | changeMode mode => exact hunit _
  | _ => exact Step.run_map _ _ h

/-- The law of a method. -/
def Method.law : (m : Method) → Law m.Given
  | .read _ => advances List.length
  | .readInto _ => advances id
  | .write data => advancesWithin data.length
  | .seek _ _ => arrives
  | .readAt _ _ | .readIntoAt _ _ | .writeAt _ _ | .tell | .stat | .setAttributes _ | .changeMode _
  | .truncate _ => still

/-- **Every method follows its law.** -/
theorem Method.follows_law (m : Method) : Follows m.law (m.give : Action σ m.Given) := by
  cases m with
  | read size => exact advances_read size
  | readInto buffer => exact advances_readInto buffer
  | readAt size offset => exact still_readAt size offset
  | readIntoAt buffer offset => exact (still_readIntoAt buffer offset).bind fun _ => still_ofExcept _
  | write data => exact advances_write data
  | writeAt data offset => exact still_writeAt data offset
  | seek distance origin => exact arrives_seek distance origin
  | tell => exact still_tell
  | stat => exact still_stat
  | setAttributes attrs => exact still_setAttributes attrs
  | changeMode mode => exact still_setAttributes _
  | truncate size => exact still_truncate size

/-- An offset that is not negative does not become so. -/
theorem Method.nonneg_of_law {m : Method} {before after : Int} {result : Except Fault m.Given}
    (h : m.law before result after) (hbefore : 0 ≤ before) : 0 ≤ after := by
  cases m with
  | read size => exact nonneg_of_advances h hbefore
  | readInto buffer => exact nonneg_of_advances h hbefore
  | write data => exact nonneg_of_advancesWithin h hbefore
  | seek distance origin => exact nonneg_of_arrives h hbefore
  | _ =>
    obtain rfl : after = before := h
    exact hbefore

/-! ## The life of a file -/

/-- What is said of the offset in a call. -/
structure LawfulCall (r : Record OpenFile σ Method) : Prop where
  /-- It is not negative before it. -/
  before : 0 ≤ r.before.object.offset
  /-- Nor is it after it. -/
  after : 0 ≤ r.after.object.offset
  /-- A method gives something by whose law the offset moves. -/
  method : ∀ m, r.call = .method m → ∃ result, m.give.run r.before = (result, r.after) ∧
    r.outcome = (result.map fun _ => ()) ∧ m.law r.before.object.offset result r.after.object.offset
  /-- Closing leaves it alone. -/
  close : r.call = .close → r.after.object.offset = r.before.object.offset

/-- **Every call is lawful** on a file whose offset is not negative. -/
theorem lawfulCall_record {h : Held OpenFile σ} (hoffset : 0 ≤ h.object.offset) (call : Call Method) :
    LawfulCall (record Method.perform h call) := by
  cases call with
  | close =>
    have hstill : (close.run h).2.object.offset = h.object.offset := still_close h
    exact ⟨hoffset, hstill ▸ hoffset, nofun, fun _ => hstill⟩
  | method m =>
    have hlaw := m.follows_law h
    have hrun := m.run_perform h
    have hafter : (record Method.perform h (.method m)).after = (m.give.run h).2 := congrArg Prod.snd hrun
    refine ⟨hoffset, ?_, ?_, nofun⟩
    · rw [hafter]
      exact Method.nonneg_of_law hlaw hoffset
    · rintro _ ⟨⟩
      rw [hafter]
      exact ⟨_, rfl, congrArg Prod.fst hrun, hlaw⟩

/-- So are all calls, one after another. -/
theorem lawfulCall_history {file : OpenFile} (hoffset : 0 ≤ file.offset)
    (calls : List (Client σ × Call Method)) :
    ∀ r ∈ history Method.perform file calls, LawfulCall r := by
  induction calls generalizing file with
  | nil => exact List.forall_mem_nil _
  | cons first calls ih =>
    obtain ⟨client, call⟩ := first
    have hfirst := lawfulCall_record (h := { object := file, client }) hoffset call
    exact List.forall_mem_cons.mpr ⟨hfirst, ih hfirst.after⟩

/-- A file is opened at its beginning. -/
theorem offset_of_openFile {c c' : Client σ} {path : Text} {flags : OpenFlags} {attrs : Attributes}
    {file : OpenFile} (hopened : (Client.openFile path flags attrs).run c = (.ok file, c')) :
    file.offset = 0 := by
  unfold Client.openFile at hopened
  rw [Step.run_bind] at hopened
  rcases hrun : (Client.ask (.openFile path flags attrs) Reply.handle).run c with ⟨f | handle, after⟩
  · rw [hrun] at hopened
    cases hopened
  · rw [hrun] at hopened
    cases hopened
    rfl

/-- **Every call in the life of an open file moves its offset by the law of the call**, and the offset is
never negative. Whatever methods are called in whatever order, the file closed at any time, and whatever
happens to the client between the calls and in them: reads in sequence move the offset by as many bytes as
they give, writes in sequence over their data, and seeks to the position that they give. If they fail, reads
and seeks leave it where it was; all other calls do always. -/
theorem offset_follows_laws {c c' : Client σ} {path : Text} {flags : OpenFlags} {attrs : Attributes}
    {file : OpenFile} (hopened : (Client.openFile path flags attrs).run c = (.ok file, c'))
    (calls : List (Client σ × Call Method)) :
    file.offset = 0 ∧ ∀ r ∈ history Method.perform file calls, LawfulCall r :=
  ⟨offset_of_openFile hopened, lawfulCall_history (Int.le_of_eq (offset_of_openFile hopened).symm) calls⟩

/-- A client whose server lends a handle and then sends three bytes. -/
def threeBytes : Client (List (Int → Packet)) :=
  (Client.connect.run (Client.inTurn 10
    [fun id => .message id (.handle [104]), fun id => .message id (.data [1, 2, 3])])).2

/-- Three bytes are read, a seek to before the beginning fails, another does not, and the file is
closed. -/
def threeBytesCalls (c : Client (List (Int → Packet))) : List (Client (List (Int → Packet)) × Call Method) :=
  [(c, .method (.read (some 3))), (c, .method (.seek (-4) 1)), (c, .method (.seek 2 0)), (c, .close)]

/-- The offset goes with the read and with the second seek. -/
theorem offset_follows_laws_threeBytes :
    ∃ file c', (Client.openFile "/f" .read).run threeBytes = (.ok file, c') ∧
      (∀ r ∈ history Method.perform file (threeBytesCalls c'), LawfulCall r) ∧
      (history Method.perform file (threeBytesCalls c')).map (fun r => r.after.object.offset) =
        [3, 3, 2, 2] := by
  have hoffsets : ((Client.openFile "/f" .read).run threeBytes).1.map (fun file =>
      (history Method.perform file
        (threeBytesCalls ((Client.openFile "/f" .read).run threeBytes).2)).map
          (fun r => r.after.object.offset)) = .ok [3, 3, 2, 2] := by decide +kernel
  rcases hopened : (Client.openFile "/f" .read).run threeBytes with ⟨f | file, c'⟩
  · rw [hopened] at hoffsets
    cases hoffsets
  · rw [hopened] at hoffsets
    exact ⟨file, c', rfl, (offset_follows_laws hopened _).2, Except.ok.inj hoffsets⟩

end OpenFile

end Sftp
