import Sftp.Proofs.Stream.Framing

/-!
# Frame after frame

Whatever the pieces in which a stream hands out its bytes, a reader that takes one frame after another takes
exactly the bytes of these frames: it asks for what is missing of a length or of a body, and for no more.

* `Source.readFrames` — frames one after another; `Source.readFrames_of_frames` — their bodies, in order.
* `Source.logged` — a source that keeps a record of its reads; `Measured` — reads that ask for what is
  missing.
* **`Source.readFrame_in_pieces`** — what a reader of frames takes, refuses and asks for.
-/

namespace Sftp

/-- The bytes that were read. -/
def Outcome.bytes : Outcome Bytes → Bytes
  | .got bytes => bytes
  | _ => []

/-- Each read asks for the bytes that are missing, and for no more; what it brings is not missing any
more. -/
inductive Measured : Nat → List (Nat × Outcome Bytes) → Prop
  /-- No reads. -/
  | done (missing : Nat) : Measured missing []
  /-- A read, and then others. -/
  | read {missing : Nat} {outcome : Outcome Bytes} {reads : List (Nat × Outcome Bytes)} (hpos : 0 < missing)
    (h : Measured (missing - outcome.bytes.length) reads) : Measured missing ((missing, outcome) :: reads)

/-- Whether an ending is the end of the input. -/
def Ending.IsEnd : Ending → Prop
  | closed => True
  | broken f => f.isEnd = true

/-- A frame announces its body. -/
theorem announces_frame {body bytes : Bytes} (h : frame body = .ok bytes) (rest : Bytes) :
    Announces body.length (bytes ++ rest) (body ++ rest) := by
  unfold frame writeString at h
  split at h
  · rename_i hlength
    obtain rfl := Except.ok.inj h
    exact ⟨hlength, List.append_assoc _ _ _⟩
  · cases h

/-- The frames of some bodies are the frame of the first and those of the others. -/
theorem frames_cons {body : Bytes} {bodies frames : List Bytes}
    (h : (body :: bodies).mapM frame = .ok frames) :
    ∃ first others, frame body = .ok first ∧ bodies.mapM frame = .ok others ∧
      frames = first :: others := by
  rw [List.mapM_cons] at h
  cases hfirst : frame body with
  | error e =>
    rw [hfirst] at h
    cases h
  | ok first =>
    cases hothers : bodies.mapM frame with
    | error e =>
      rw [hfirst, hothers] at h
      cases h
    | ok others =>
      rw [hfirst, hothers] at h
      exact ⟨first, others, rfl, rfl, (Except.ok.inj h).symm⟩

namespace Source

variable {σ : Type} (src : Source σ) {s : σ} {limit : Int}

/-- The bodies of so many frames, one after another. -/
def readFrames (limit : Int) : Nat → σ → List (Outcome Bytes) × σ
  | 0, s => ([], s)
  | k + 1, s =>
    let (outcome, next) := src.readFrame limit s
    let (outcomes, last) := readFrames limit k next
    (outcome :: outcomes, last)

/-- **Frames are read one after another**, and what follows them is left. -/
theorem readFrames_of_frames {bodies frames : List Bytes} {tail : Bytes} (h : src.Valid s)
    (hlengths : ∀ b ∈ bodies, 0 < b.length ∧ (b.length : Int) ≤ limit)
    (hframes : bodies.mapM frame = .ok frames) (hunread : src.unread s = frames.flatten ++ tail) :
    ∃ last, src.readFrames limit bodies.length s = (bodies.map .got, last) ∧ src.unread last = tail ∧
      src.Valid last ∧ src.ending last = src.ending s := by
  induction bodies generalizing frames s with
  | nil =>
    obtain rfl := Except.ok.inj hframes
    exact ⟨s, rfl, hunread, h, rfl⟩
  | cons body bodies ih =>
    obtain ⟨first, others, hfirst, hothers, rfl⟩ := frames_cons hframes
    obtain ⟨hpos, hlimit⟩ := hlengths body List.mem_cons_self
    have hbegins : Begins limit (src.unread s) body (others.flatten ++ tail) := by
      refine ⟨hpos, hlimit, ?_⟩
      rw [hunread, List.flatten_cons, List.append_assoc]
      exact announces_frame hfirst (others.flatten ++ tail)
    obtain ⟨next, hread, hrest, hvalid, hending⟩ := src.readFrame_of_begins h hbegins
    obtain ⟨last, hreads, hlast, hvalid', hending'⟩ :=
      ih hvalid (fun b hb => hlengths b (List.mem_cons_of_mem body hb)) hothers hrest
    refine ⟨last, ?_, hlast, hvalid', hending'.trans hending⟩
    rw [List.length_cons, readFrames, hread]
    simp only
    rw [hreads]
    rfl

/-! ## What is asked for -/

/-- A source that keeps a record of its reads: what each of them asked for, and what came. -/
def logged : Source (σ × List (Nat × Outcome Bytes)) where
  read n s := ((src.read n s.1).1, (src.read n s.1).2, s.2 ++ [(n, (src.read n s.1).1)])
  Valid s := src.Valid s.1
  unread s := src.unread s.1
  ending s := src.ending s.1
  read_some := by
    intro n s h hn hsome
    obtain ⟨piece, next, hread, hpiece⟩ := src.read_some h hn hsome
    exact ⟨piece, (next, s.2 ++ [(n, .got piece)]), by rw [hread], hpiece⟩
  read_none := by
    intro n s h hnone
    obtain ⟨next, hread⟩ := src.read_none h hnone
    exact ⟨(next, s.2 ++ [(n, .ofEnding (src.ending s.1))]), by rw [hread]⟩

/-- A read is recorded. -/
theorem read_logged {n : Nat} {outcome : Outcome Bytes} {next : σ} (hread : src.read n s = (outcome, next))
    (log : List (Nat × Outcome Bytes)) :
    src.logged.read n (s, log) = (outcome, next, log ++ [(n, outcome)]) := by
  show ((src.read n s).1, (src.read n s).2, log ++ [(n, (src.read n s).1)]) = _
  rw [hread]

/-- Reading for some bytes asks for what is missing of them. -/
theorem readMore_logged (size n : Nat) (parts : List Bytes) (s : σ)
    (log : List (Nat × Outcome Bytes)) :
    ∃ reads, src.logged.readMore size n parts (s, log) =
        ((src.readMore size n parts s).1, (src.readMore size n parts s).2, log ++ reads) ∧
      Measured n reads := by
  fun_induction src.readMore size n parts s generalizing log with
  | case1 parts s =>
    refine ⟨[], ?_, .done 0⟩
    rw [readMore, if_pos rfl, List.append_nil]
  | case2 n parts s hn piece next hread hnil =>
    refine ⟨[(n, .got piece)], ?_, .read (Nat.pos_of_ne_zero hn) (.done _)⟩
    rw [readMore, if_neg hn, src.read_logged hread]
    exact if_pos hnil
  | case3 n parts s hn piece next hread hsome ih =>
    obtain ⟨reads, hmore, hreads⟩ := ih (log ++ [(n, .got piece)])
    refine ⟨(n, .got piece) :: reads, ?_, .read (Nat.pos_of_ne_zero hn) hreads⟩
    rw [readMore, if_neg hn, src.read_logged hread]
    simp only
    rw [if_neg hsome, hmore, List.append_assoc]
    rfl
  | case4 n parts s hn next hread =>
    refine ⟨[(n, .blocked)], ?_, .read (Nat.pos_of_ne_zero hn) (.done _)⟩
    rw [readMore, if_neg hn, src.read_logged hread]
  | case5 n parts s hn f next hread =>
    refine ⟨[(n, .failed f)], ?_, .read (Nat.pos_of_ne_zero hn) (.done _)⟩
    rw [readMore, if_neg hn, src.read_logged hread]

/-- **Reading a frame asks for what is missing of its length, and then of its body.** -/
theorem readFrame_logged (h : src.Valid s) (log : List (Nat × Outcome Bytes)) :
    ∃ head body, src.logged.readFrame limit (s, log) =
        ((src.readFrame limit s).1, (src.readFrame limit s).2, log ++ (head ++ body)) ∧
      Measured 4 head ∧
      (body = [] ∨ ∃ n rest, Announces n (src.unread s) rest ∧ 0 < n ∧ n ≤ limit ∧ Measured n body) := by
  obtain ⟨head, hhead, hmeasured⟩ := src.readMore_logged 4 4 [] s log
  by_cases hshort : (src.unread s).length < 4
  · obtain ⟨outcome, next, hread, hlacks⟩ := readMore_of_lt 4 [] h hshort
    refine ⟨head, [], ?_, hmeasured, .inl rfl⟩
    rw [hread] at hhead
    rw [readFrame, readFrame, readExactly, readExactly, hhead, hread, List.append_nil]
    cases hlacks <;> rfl
  · have hannounced := announces_of_length (Nat.le_of_not_lt hshort)
    generalize ofBigEndian ((src.unread s).take 4) = n at hannounced
    obtain ⟨next, hread, hvalue, -⟩ := src.readExactly_of_announces h hannounced
    have hlogged : src.logged.readExactly 4 (s, log) = (.got (bigEndian 4 n), next, log ++ head) := by
      rw [readExactly] at hread ⊢
      rw [hhead, hread]
    rw [readFrame, readFrame, hlogged, hread]
    simp only
    rw [hvalue]
    by_cases hzero : n = 0
    · rw [if_pos hzero, if_pos hzero]
      exact ⟨head, [], by rw [List.append_nil], hmeasured, .inl rfl⟩
    rw [if_neg hzero, if_neg hzero]
    by_cases hover : limit < n
    · rw [if_pos hover, if_pos hover]
      exact ⟨head, [], by rw [List.append_nil], hmeasured, .inl rfl⟩
    rw [if_neg hover, if_neg hover]
    obtain ⟨body, hbody, hmeasured'⟩ := src.readMore_logged n n [] next (log ++ head)
    rw [List.append_assoc] at hbody
    exact ⟨head, body, hbody, hmeasured,
      .inr ⟨n, _, hannounced, Nat.pos_of_ne_zero hzero, by omega, hmeasured'⟩⟩

/-! ## Ends and refusals -/

/-- **The input is over for a reader of frames if it ends before a frame is complete.** -/
theorem readFrame_ends_iff (h : src.Valid s) :
    (∃ f next, src.readFrame limit s = (.failed f, next) ∧ f.isEnd = true) ↔
      Short limit (src.unread s) ∧ ∃ e, src.ending s = some e ∧ e.IsEnd := by
  constructor
  · rintro ⟨f, next, hread, hend⟩
    have hbegins : ∀ body rest, ¬ Begins limit (src.unread s) body rest := by
      intro body rest hbegins
      obtain ⟨_, hgot, -⟩ := src.readFrame_of_begins h hbegins
      cases congrArg Prod.fst (hread.symm.trans hgot)
    rcases front_cases limit (src.unread s) with ⟨body, rest, -, hfirst, -⟩ | ⟨m, hflaw⟩ | hshort
    · exact absurd hfirst (hbegins body rest)
    · cases hflaw with
      | empty hannounced =>
        obtain ⟨_, hrefused, -⟩ := src.readFrame_of_empty h hannounced
        cases congrArg Prod.fst (hread.symm.trans hrefused)
        cases hend
      | oversized hpos hover hannounced =>
        obtain ⟨_, hrefused, -⟩ := src.readFrame_of_oversized h hpos hover hannounced
        cases congrArg Prod.fst (hread.symm.trans hrefused)
        cases hend
      | undecodable hfirst _ => exact absurd hfirst (hbegins _ _)
    · obtain ⟨outcome, _, hlast, hlacks⟩ := src.readFrame_of_short h hshort
      obtain rfl : outcome = .failed f := congrArg Prod.fst (hlast.symm.trans hread)
      refine ⟨hshort, ?_⟩
      cases hlacks with
      | fails hending hshows =>
        cases hshows with
        | closed _ _ => exact ⟨_, hending, trivial⟩
        | broken _ => exact ⟨_, hending, hend⟩
  · rintro ⟨hshort, e, hending, hend⟩
    obtain ⟨outcome, next, hread, hlacks⟩ := src.readFrame_of_short h hshort
    cases hlacks with
    | waits hnone =>
      rw [hending] at hnone
      cases hnone
    | fails hsome hshows =>
      obtain rfl := Option.some.inj (hending.symm.trans hsome)
      refine ⟨_, next, hread, ?_⟩
      cases hshows with
      | closed _ _ => rfl
      | broken _ => exact hend

/-- **A reader of frames does not depend on the pieces in which its stream hands out the bytes.** The frames
of bodies of allowed lengths are read one by one, and exactly what follows them is left. An empty length and
one over the limit are a bad message, of which only the four bytes of the length were read. The input is over
for the reader if it ends before the frame is complete, and only then. Every read asks for what is missing of
the length or of the body, and for no more. -/
theorem readFrame_in_pieces (limit : Int) :
    (∀ inbox : Inbox, inbox.readFrame limit = Source.inbox.readFrame limit inbox) ∧
      ∀ {σ : Type} (src : Source σ) (s : σ), src.Valid s →
        (∀ (bodies frames : List Bytes) (tail : Bytes),
          (∀ b ∈ bodies, 0 < b.length ∧ (b.length : Int) ≤ limit) → bodies.mapM frame = .ok frames →
          src.unread s = frames.flatten ++ tail →
          ∃ last, src.readFrames limit bodies.length s = (bodies.map .got, last) ∧
            src.unread last = tail ∧ src.Valid last ∧ src.ending last = src.ending s) ∧
        (∀ n rest, Announces n (src.unread s) rest → n = 0 ∨ limit < n →
          ∃ text next, src.readFrame limit s = (.failed (.badMessage text), next) ∧
            src.unread next = rest) ∧
        ((∃ f next, src.readFrame limit s = (.failed f, next) ∧ f.isEnd = true) ↔
          Short limit (src.unread s) ∧ ∃ e, src.ending s = some e ∧ e.IsEnd) ∧
        ∀ log, ∃ head body, src.logged.readFrame limit (s, log) =
            ((src.readFrame limit s).1, (src.readFrame limit s).2, log ++ (head ++ body)) ∧
          Measured 4 head ∧ (body = [] ∨
            ∃ n rest, Announces n (src.unread s) rest ∧ 0 < n ∧ n ≤ limit ∧ Measured n body) := by
  refine ⟨fun inbox => inbox.readFrame_eq limit, ?_⟩
  intro σ src s h
  refine ⟨?_, ?_, src.readFrame_ends_iff h, src.readFrame_logged h⟩
  · intro bodies frames tail hlengths hframes hunread
    exact src.readFrames_of_frames h hlengths hframes hunread
  · intro n rest hannounced hrefused
    by_cases hzero : n = 0
    · subst hzero
      obtain ⟨next, hread, hrest⟩ := src.readFrame_of_empty h hannounced
      exact ⟨_, next, hread, hrest⟩
    · obtain ⟨next, hread, hrest⟩ := src.readFrame_of_oversized h (Nat.pos_of_ne_zero hzero)
        (hrefused.resolve_left hzero) hannounced
      exact ⟨_, next, hread, hrest⟩

/-- Two frames and the beginning of a third, in chunks with borders within a length, within a body and across
frames, before the stream is over. -/
def brokenFrames : Inbox where
  chunks := [[0, 0], [0, 3, 1], [2, 3, 0, 0, 0, 1, 9, 0], [0]]
  ending := some .closed

/-- The bodies of the two frames. -/
def brokenBodies : List Bytes :=
  [[1, 2, 3], [9]]

/-- Both bodies are read, with reads that ask for four bytes and then two, for three and then two, for four,
and for one. For the third frame the input is over. -/
theorem readFrame_in_pieces_brokenFrames :
    Source.inbox.Valid brokenFrames ∧
      (∀ b ∈ brokenBodies, 0 < b.length ∧ (b.length : Int) ≤ 100) ∧
      brokenBodies.mapM frame = .ok [[0, 0, 0, 3, 1, 2, 3], [0, 0, 0, 1, 9]] ∧
      ∃ last, Source.inbox.readFrames 100 2 brokenFrames = (brokenBodies.map .got, last) ∧
        last.unread = [0, 0] ∧ last.asked = [1, 4, 2, 3, 2, 4] ∧
        ∃ f next, last.readFrame 100 = (.failed f, next) ∧ f.isEnd = true := by
  have hvalid : Source.inbox.Valid brokenFrames := by
    show ∀ c ∈ brokenFrames.chunks, c ≠ []
    decide
  have hlengths : ∀ b ∈ brokenBodies, 0 < b.length ∧ (b.length : Int) ≤ 100 := by decide
  have hframes : brokenBodies.mapM frame = .ok [[0, 0, 0, 3, 1, 2, 3], [0, 0, 0, 1, 9]] := rfl
  obtain ⟨hreader, hpieces⟩ := readFrame_in_pieces 100
  obtain ⟨last, hread, hunread, hvalid', hending⟩ :=
    (hpieces Source.inbox brokenFrames hvalid).1 _ _ [0, 0] hlengths hframes rfl
  have hshort : Short 100 (Source.inbox.unread last) := by
    rw [hunread]
    exact .head (by decide)
  have hasked : (Source.inbox.readFrames 100 brokenBodies.length brokenFrames).2.asked = [1, 4, 2, 3, 2, 4] := by
    decide +kernel
  have hends := (hpieces Source.inbox last hvalid').2.2.1.mpr ⟨hshort, .closed, hending, trivial⟩
  rw [← hreader last] at hends
  rw [hread] at hasked
  exact ⟨hvalid, hlengths, hframes, last, hread, hunread, hasked, hends⟩

end Source

end Sftp
