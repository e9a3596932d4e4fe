import Sftp.Stream

/-!
# Sources

A reader puts pieces together, and which pieces it gets is not in its hands: a read hands out some of the
bytes that are there, at most as many as were asked for. A `Source` is any stream of which that is true. The
readers of `Sftp.Stream` are readers of sources, and a read side with its chunks is a source.

* `Source` — a stream, the bytes it has for its reader, and how it ends; `Source.readFrame` — its reader.
* `Source.readMore_of_le`, `Source.readMore_of_lt` — bytes that are there are read, whatever the pieces, and
  for bytes that are not there a reader waits, or fails at the ending.
* **`Source.inbox`** — a read side is a source; `Inbox.readMore_eq`, `Inbox.readFrame_eq` — its reader.
-/

namespace Sftp

/-- The fault by which a reader learns of an ending. -/
inductive Ending.Shows : Ending → Fault → Prop
  /-- Fewer bytes come than were asked for. -/
  | closed (count size : Nat) : Shows .closed (.streamEnded count size)
  /-- Reading fails. -/
  | broken (f : Fault) : Shows (.broken f) f

/-- What one read comes to when there are no bytes. -/
def Outcome.ofEnding : Option Ending → Outcome Bytes
  | none => .blocked
  | some .closed => .got []
  | some (.broken f) => .failed f

/-- A stream that hands out its bytes in pieces of its own choice. -/
structure Source (σ : Type) where
  /-- Reads at most so many bytes. -/
  read : Nat → σ → Outcome Bytes × σ
  /-- The states in which it keeps to the rules. -/
  Valid : σ → Prop
  /-- The bytes that it has for its reader. -/
  unread : σ → Bytes
  /-- How it ends after them, if it has ended. -/
  ending : σ → Option Ending
  /-- Of the bytes that are there a read hands out some, at most as many as were asked for. -/
  read_some : ∀ {n : Nat} {s : σ}, Valid s → 0 < n → unread s ≠ [] →
    ∃ piece next, read n s = (.got piece, next) ∧ piece ≠ [] ∧ piece.length ≤ n ∧
      unread s = piece ++ unread next ∧ Valid next ∧ ending next = ending s
  /-- If none are there, a read tells how the stream stands. -/
  read_none : ∀ {n : Nat} {s : σ}, Valid s → unread s = [] →
    ∃ next, read n s = (.ofEnding (ending s), next)

namespace Source

variable {σ : Type} (src : Source σ)

/-- Reads until `needed` more bytes of `size` are there. -/
def readMore (size needed : Nat) (parts : List Bytes) (s : σ) : Outcome Bytes × σ :=
  if needed = 0 then
    (.got parts.reverse.flatten, s)
  else
    match src.read needed s with
    | (.got piece, next) =>
      if piece.length = 0 then
        (.failed (.streamEnded (size - needed) size), next)
      else
        readMore size (needed - piece.length) (piece :: parts) next
    | (.blocked, next) => (.blocked, next)
    | (.failed f, next) => (.failed f, next)
  termination_by needed

/-- Exactly `size` bytes. -/
def readExactly (size : Nat) (s : σ) : Outcome Bytes × σ :=
  src.readMore size size [] s

/-- The body of the next frame, which has at least one byte and at most `limit`. -/
def readFrame (limit : Int) (s : σ) : Outcome Bytes × σ :=
  match src.readExactly 4 s with
  | (.got head, next) =>
    let length := ofBigEndian head
    if length = 0 then
      (.failed (.malformed .emptyFrame), next)
    else if (length : Int) > limit then
      (.failed (.malformed (.oversizedFrame length limit)), next)
    else
      src.readExactly length next
  | (.blocked, next) => (.blocked, next)
  | (.failed f, next) => (.failed f, next)

/-- Without an ending, reading for bytes that are not there waits for them. With one, it fails. -/
inductive Lacks (s : σ) : Outcome Bytes → Prop
  /-- More may come. -/
  | waits (h : src.ending s = none) : Lacks s .blocked
  /-- No more comes. -/
  | fails {e : Ending} {f : Fault} (h : src.ending s = some e) (hf : e.Shows f) : Lacks s (.failed f)

variable {src} {s : σ}

/-- Bytes that are there are read, whatever the pieces. -/
theorem readMore_of_le {n : Nat} (size : Nat) (parts : List Bytes) (h : src.Valid s)
    (hn : n ≤ (src.unread s).length) :
    ∃ next, src.readMore size n parts s =
        (.got (parts.reverse.flatten ++ (src.unread s).take n), next) ∧
      src.unread next = (src.unread s).drop n ∧ src.Valid next ∧ src.ending next = src.ending s := by
  -- each read hands out at least one byte
  induction n using Nat.strongRecOn generalizing parts s with
  | ind n ih =>
    by_cases hzero : n = 0
    · subst hzero
      refine ⟨s, ?_, rfl, h, rfl⟩
      rw [readMore, if_pos rfl, List.take_zero, List.append_nil]
    have hsome : src.unread s ≠ [] := by
      intro hnil
      rw [hnil] at hn
      exact hzero (Nat.le_zero.mp hn)
    obtain ⟨piece, next, hread, hpiece, hle, hsplit, hvalid, hending⟩ :=
      src.read_some h (Nat.pos_of_ne_zero hzero) hsome
    have hpos := List.length_pos_iff.mpr hpiece
    have htotal := congrArg List.length hsplit
    rw [List.length_append] at htotal
    obtain ⟨last, hmore, hlast, hrest⟩ := ih (n - piece.length) (by omega) (piece :: parts)
      hvalid (by omega)
    refine ⟨last, ?_, ?_, hrest.1, hrest.2.trans hending⟩
    · rw [readMore, if_neg hzero, hread]
      simp only
      rw [if_neg (Nat.ne_of_gt hpos), hmore, hsplit, List.take_append, List.take_of_length_le hle]
      simp
    · rw [hlast, hsplit, List.drop_append, List.drop_eq_nil_of_le hle, List.nil_append]

/-- For bytes that are not there a reader waits, or fails at the ending. -/
theorem readMore_of_lt {n : Nat} (size : Nat) (parts : List Bytes) (h : src.Valid s)
    (hn : (src.unread s).length < n) :
    ∃ outcome next, src.readMore size n parts s = (outcome, next) ∧ src.Lacks s outcome := by
  induction n using Nat.strongRecOn generalizing parts s with
  | ind n ih =>
    have hpos : 0 < n := Nat.zero_lt_of_lt hn
    by_cases hnone : src.unread s = []
    · -- the first read already finds nothing
      obtain ⟨next, hread⟩ := src.read_none h hnone
      rw [readMore, if_neg (Nat.ne_of_gt hpos), hread]
      cases hending : src.ending s with
      | none => exact ⟨_, _, rfl, .waits hending⟩
      | some e =>
        cases e with
        | closed => exact ⟨_, _, rfl, .fails hending (.closed _ _)⟩
        | broken f => exact ⟨_, _, rfl, .fails hending (.broken f)⟩
    · obtain ⟨piece, next, hread, hpiece, hle, hsplit, hvalid, hending⟩ :=
        src.read_some h hpos hnone
      have hpiecePos := List.length_pos_iff.mpr hpiece
      have htotal := congrArg List.length hsplit
      rw [List.length_append] at htotal
      obtain ⟨outcome, last, hmore, hlacks⟩ := ih (n - piece.length) (by omega)
        (piece :: parts) hvalid (by omega)
      refine ⟨outcome, last, ?_, ?_⟩
      · rw [readMore, if_neg (Nat.ne_of_gt hpos), hread]
        simp only
        rw [if_neg (Nat.ne_of_gt hpiecePos), hmore]
      · cases hlacks with
        | waits hnext => exact .waits (hending ▸ hnext)
        | fails hnext hf => exact .fails (hending ▸ hnext) hf

end Source

/-! ## The read side -/

namespace Inbox

/-- The bytes that can be read. -/
def unread (inbox : Inbox) : Bytes := inbox.chunks.flatten

/-- Whether all chunks have bytes, as those have that were added. -/
def Tidy (inbox : Inbox) : Prop := ∀ c ∈ inbox.chunks, c ≠ []

variable {inbox : Inbox}

/-- A tidy read side without bytes has no chunks. -/
theorem Tidy.chunks_eq_nil (h : inbox.Tidy) (hnone : inbox.unread = []) : inbox.chunks = [] := by
  cases hchunks : inbox.chunks with
  | nil => rfl
  | cons c cs =>
    have hc : c ≠ [] := h c (by rw [hchunks]; exact List.mem_cons_self)
    rw [unread, hchunks, List.flatten_cons] at hnone
    exact absurd (List.append_eq_nil_iff.mp hnone).1 hc

/-- One read hands out a piece of the unread bytes. -/
theorem read_of_unread {n : Nat} (h : inbox.Tidy) (hn : 0 < n) (hsome : inbox.unread ≠ []) :
    ∃ piece next, inbox.read n = (.got piece, next) ∧ piece ≠ [] ∧ piece.length ≤ n ∧
      inbox.unread = piece ++ next.unread ∧ next.Tidy ∧ next.ending = inbox.ending := by
  unfold read
  cases hchunks : inbox.chunks with
  | nil =>
    rw [unread, hchunks] at hsome
    exact absurd rfl hsome
  | cons c cs =>
    have hc : c ≠ [] := h c (by rw [hchunks]; exact List.mem_cons_self)
    have hcs : ∀ d ∈ cs, d ≠ [] := fun d hd =>
      h d (by rw [hchunks]; exact List.mem_cons_of_mem c hd)
    refine ⟨c.take n, _, rfl, ?_, List.length_take_le n c, ?_, ?_, rfl⟩
    · rw [ne_eq, List.take_eq_nil_iff, not_or]
      exact ⟨Nat.ne_of_gt hn, hc⟩
    · unfold unread
      rw [hchunks]
      split
      · rename_i hleft
        rw [List.isEmpty_iff] at hleft
        rw [List.flatten_cons, List.take_of_length_le (List.drop_eq_nil_iff.mp hleft)]
      · rw [List.flatten_cons, List.flatten_cons, ← List.append_assoc, List.take_append_drop]
    · intro d hd
      simp only at hd
      split at hd
      · exact hcs d hd
      · rename_i hleft
        rcases List.mem_cons.mp hd with rfl | hd
        · exact fun hnil => hleft (List.isEmpty_iff.mpr hnil)
        · exact hcs d hd

/-- A read that finds nothing shows how the stream stands. -/
theorem read_of_nothing (n : Nat) (h : inbox.chunks = []) :
    inbox.read n = (.ofEnding inbox.ending, { inbox with asked := n :: inbox.asked }) := by
  obtain ⟨chunks, ending, asked⟩ := inbox
  obtain rfl : chunks = [] := h
  rcases ending with _ | _ | f <;> rfl

end Inbox

/-- **A read side is a source**, of which each read hands out bytes of one chunk. -/
def Source.inbox : Source Inbox where
  read := Inbox.read
  Valid := Inbox.Tidy
  unread := Inbox.unread
  ending := Inbox.ending
  read_some := Inbox.read_of_unread
  read_none h hnone := ⟨_, Inbox.read_of_nothing _ (h.chunks_eq_nil hnone)⟩

namespace Inbox

variable (inbox : Inbox)

/-- Its reader is the reader of sources. -/
theorem readMore_eq (size n : Nat) (parts : List Bytes) :
    inbox.readMore size n parts = Source.inbox.readMore size n parts inbox := by
  fun_induction readMore size n parts inbox with
  | case1 parts inbox => rw [Source.readMore, if_pos rfl]
  | case2 n parts inbox hn piece next hread hnil =>
    have hread : Source.inbox.read n inbox = (.got piece, next) := hread
    rw [Source.readMore, if_neg hn, hread]
    exact (if_pos hnil).symm
  | case3 n parts inbox hn piece next hread hsome ih =>
    have hread : Source.inbox.read n inbox = (.got piece, next) := hread
    rw [Source.readMore, if_neg hn, hread, ih]
    exact (if_neg hsome).symm
  | case4 n parts inbox hn next hread =>
    have hread : Source.inbox.read n inbox = (.blocked, next) := hread
    rw [Source.readMore, if_neg hn, hread]
  | case5 n parts inbox hn f next hread =>
    have hread : Source.inbox.read n inbox = (.failed f, next) := hread
    rw [Source.readMore, if_neg hn, hread]

/-- So is its reader of frames. -/
theorem readFrame_eq (limit : Int) :
    inbox.readFrame limit = Source.inbox.readFrame limit inbox := by
  have hexactly : ∀ (size : Nat) (i : Inbox), i.readExactly size = Source.inbox.readExactly size i :=
    fun size i => i.readMore_eq size size []
  unfold readFrame Source.readFrame
  simp only [hexactly]
  rcases Source.inbox.readExactly 4 inbox with ⟨head | _ | f, next⟩ <;> rfl

end Inbox

end Sftp
