import Sftp.Proofs.Stream.Source
import Sftp.Wire.Codec

/-!
# Frames in a byte sequence

A source hands out its bytes in pieces, but what is read from it depends on its bytes alone. This file
says what a byte sequence begins with, without pieces, and what reading a frame makes of that:

* `Announces` — the bytes begin with a length.
* `Begins` — the bytes begin with a complete frame whose length is allowed.
* `Flaw` — the bytes begin with a frame that no reader can take.
* `Short` — more bytes have to come before anything can be said.
* **`Frames`** — the longest run of complete frames whose bodies decode, and the bytes after it. There
  is exactly one (`Frames.exists_of_bytes`, `Frames.unique`), and bytes that come later only extend it
  (`Frames.append`).
* `Source.readFrame_of_begins`, `Source.readFrame_of_empty`, `Source.readFrame_of_oversized`,
  `Source.readFrame_of_short` — reading a frame, case by case; `Inbox.readFrame_of_begins` and its kin — from
  a read side.
* `Arrival.bytes`, `Arrival.ending?`, `Inbox.foldl_add_of_none` — what arrivals bring, and that a read
  side takes it up.
-/

namespace Sftp

/-! ## What bytes begin with -/

/-- The bytes begin with a length, and go on with `rest`. -/
def Announces (n : Nat) (bytes rest : Bytes) : Prop :=
  n < Width.word.limit ∧ bytes = bigEndian 4 n ++ rest

/-- The bytes begin with a complete frame of an allowed length, and go on with `rest`. -/
def Begins (limit : Int) (bytes body rest : Bytes) : Prop :=
  0 < body.length ∧ (body.length : Int) ≤ limit ∧ Announces body.length bytes (body ++ rest)

/-- The bytes begin with a frame that cannot be taken. -/
inductive Flaw (limit : Int) (bytes : Bytes) : Malformed → Prop
  /-- Its length is zero. -/
  | empty {rest : Bytes} (h : Announces 0 bytes rest) : Flaw limit bytes .emptyFrame
  /-- Its length is over the limit, whether or not the body is there. -/
  | oversized {n : Nat} {rest : Bytes} (hpos : 0 < n) (hlimit : limit < n)
      (h : Announces n bytes rest) : Flaw limit bytes (.oversizedFrame n limit)
  /-- It is complete and its body is no packet. -/
  | undecodable {body rest : Bytes} {m : Malformed} (h : Begins limit bytes body rest)
      (hm : Packet.ofBody body = .error m) : Flaw limit bytes m

/-- The bytes are the beginning of a frame and not all of it. -/
inductive Short (limit : Int) (bytes : Bytes) : Prop
  /-- The length is not complete. -/
  | head (h : bytes.length < 4)
  /-- The body is not complete. -/
  | body {n : Nat} {rest : Bytes} (hpos : 0 < n) (hlimit : n ≤ limit) (h : Announces n bytes rest)
      (hshort : rest.length < n)

/-- Four bytes announce a length. -/
theorem announces_of_length {bytes : Bytes} (h : 4 ≤ bytes.length) :
    Announces (ofBigEndian (bytes.take 4)) bytes (bytes.drop 4) := by
  have hlength : (bytes.take 4).length = 4 := by
    rw [List.length_take]
    omega
  constructor
  · have hlt := ofBigEndian_lt (bytes.take 4)
    rwa [hlength] at hlt
  · rw [bigEndian_ofBigEndian hlength, List.take_append_drop]

namespace Announces

variable {n k : Nat} {bytes rest other more : Bytes}

/-- The length stands in the first four bytes. -/
theorem ofBigEndian_take (h : Announces n bytes rest) : ofBigEndian (bytes.take 4) = n := by
  obtain ⟨hn, rfl⟩ := h
  rw [List.take_left' (length_bigEndian 4 n)]
  exact ofBigEndian_bigEndian hn

/-- What follows the length stands after the first four bytes. -/
theorem drop_eq (h : Announces n bytes rest) : bytes.drop 4 = rest := by
  obtain ⟨-, rfl⟩ := h
  exact List.drop_left' (length_bigEndian 4 n)

/-- A length takes four bytes. -/
theorem length_eq (h : Announces n bytes rest) : bytes.length = 4 + rest.length := by
  obtain ⟨-, rfl⟩ := h
  rw [List.length_append, length_bigEndian]

/-- Bytes announce one length. -/
theorem unique (h : Announces n bytes rest) (h' : Announces k bytes other) :
    n = k ∧ rest = other := by
  constructor
  · rw [← h.ofBigEndian_take, h'.ofBigEndian_take]
  · rw [← h.drop_eq, h'.drop_eq]

/-- Bytes that come later stand after the length. -/
theorem append (h : Announces n bytes rest) (more : Bytes) :
    Announces n (bytes ++ more) (rest ++ more) := by
  obtain ⟨hn, rfl⟩ := h
  exact ⟨hn, List.append_assoc _ _ _⟩

end Announces

section first

variable {limit : Int} {bytes body other rest rest' : Bytes} {m : Malformed}

/-- Bytes begin with at most one frame. -/
theorem Begins.unique (h : Begins limit bytes body rest) (h' : Begins limit bytes other rest') :
    body = other ∧ rest = rest' := by
  obtain ⟨hlength, happend⟩ := h.2.2.unique h'.2.2
  exact List.append_inj happend hlength

/-- A frame is not empty. -/
theorem Begins.length_lt (h : Begins limit bytes body rest) : rest.length < bytes.length := by
  have hlength := h.2.2.length_eq
  rw [List.length_append] at hlength
  omega

/-- A frame stays where it is when more bytes come. -/
theorem Begins.append (h : Begins limit bytes body rest) (more : Bytes) :
    Begins limit (bytes ++ more) body (rest ++ more) := by
  obtain ⟨hpos, hlimit, hannounced⟩ := h
  refine ⟨hpos, hlimit, ?_⟩
  rw [← List.append_assoc]
  exact hannounced.append more

/-- What cannot be taken cannot be taken when more bytes have come. -/
theorem Flaw.append (h : Flaw limit bytes m) (more : Bytes) : Flaw limit (bytes ++ more) m := by
  cases h with
  | empty h => exact .empty (h.append more)
  | oversized hpos hlimit h => exact .oversized hpos hlimit (h.append more)
  | undecodable h hm => exact .undecodable (h.append more) hm

/-- A frame of an allowed length has a decodable body, unless it is flawed. -/
theorem Flaw.eq_of_begins (h : Flaw limit bytes m) (hbegins : Begins limit bytes body rest) :
    Packet.ofBody body = .error m := by
  obtain ⟨hpos, hlimit, hannounced⟩ := hbegins
  cases h with
  | empty h =>
    have := (h.unique hannounced).1
    omega
  | oversized hpos' hover h =>
    have := (h.unique hannounced).1
    omega
  | undecodable h hm =>
    obtain ⟨rfl, -⟩ := h.unique ⟨hpos, hlimit, hannounced⟩
    exact hm

/-- Bytes have at most one flaw. -/
theorem Flaw.unique {m' : Malformed} (h : Flaw limit bytes m) (h' : Flaw limit bytes m') :
    m = m' := by
  cases h' with
  | undecodable hbegins hm' =>
    have hm := h.eq_of_begins hbegins
    rw [hm'] at hm
    exact (Except.error.inj hm).symm
  | empty hannounced =>
    cases h with
    | empty _ => rfl
    | oversized hpos _ h =>
      have := (h.unique hannounced).1
      omega
    | undecodable h _ =>
      have := (h.2.2.unique hannounced).1
      have := h.1
      omega
  | oversized hpos hover hannounced =>
    cases h with
    | empty h =>
      have := (h.unique hannounced).1
      omega
    | oversized _ _ h => rw [(h.unique hannounced).1]
    | undecodable h _ =>
      have := (h.2.2.unique hannounced).1
      have := h.2.1
      omega

/-- An unfinished frame is no complete one. -/
theorem Short.not_begins (h : Short limit bytes) : ¬ Begins limit bytes body rest := by
  intro hbegins
  have hlength := hbegins.2.2.length_eq
  cases h with
  | head h => omega
  | body hpos hlimit h hshort =>
    obtain ⟨hn, hrest⟩ := h.unique hbegins.2.2
    rw [hrest, List.length_append] at hshort
    omega

/-- An unfinished frame is not flawed yet. -/
theorem Short.not_flaw (h : Short limit bytes) : ¬ Flaw limit bytes m := by
  intro hflaw
  cases hflaw with
  | undecodable hbegins _ => exact h.not_begins hbegins
  | empty hannounced =>
    have hlength := hannounced.length_eq
    cases h with
    | head h => omega
    | body hpos hlimit h _ =>
      have := (h.unique hannounced).1
      omega
  | oversized hpos hover hannounced =>
    have hlength := hannounced.length_eq
    cases h with
    | head h => omega
    | body _ hlimit h _ =>
      have := (h.unique hannounced).1
      omega

/-- Bytes begin with a packet's frame, or with a flawed frame, or with part of a frame. -/
theorem front_cases (limit : Int) (bytes : Bytes) :
    (∃ body rest p, Begins limit bytes body rest ∧ Packet.ofBody body = .ok p) ∨
      (∃ m, Flaw limit bytes m) ∨ Short limit bytes := by
  by_cases hhead : bytes.length < 4
  · exact .inr (.inr (.head hhead))
  have hannounced := announces_of_length (Nat.le_of_not_lt hhead)
  generalize ofBigEndian (bytes.take 4) = n at hannounced
  generalize bytes.drop 4 = rest at hannounced
  by_cases hzero : n = 0
  · subst hzero
    exact .inr (.inl ⟨_, .empty hannounced⟩)
  have hpos : 0 < n := Nat.pos_of_ne_zero hzero
  by_cases hover : limit < n
  · exact .inr (.inl ⟨_, .oversized hpos hover hannounced⟩)
  by_cases hshort : rest.length < n
  · exact .inr (.inr (.body hpos (by omega) hannounced hshort))
  -- the body is complete
  have htake : (rest.take n).length = n := by
    rw [List.length_take]
    omega
  have hbegins : Begins limit bytes (rest.take n) (rest.drop n) := by
    refine ⟨?_, ?_, ?_⟩
    · omega
    · omega
    · rwa [htake, List.take_append_drop]
  cases hbody : Packet.ofBody (rest.take n) with
  | ok p => exact .inl ⟨_, _, p, hbegins, hbody⟩
  | error m => exact .inr (.inl ⟨m, .undecodable hbegins hbody⟩)

end first

/-! ## Runs of frames -/

/-- The longest run of complete frames whose bodies decode, and what follows it. -/
inductive Frames (limit : Int) : Bytes → List Packet → Bytes → Prop
  /-- The bytes do not begin with such a frame. -/
  | done {bytes : Bytes}
      (h : ∀ body rest p, Begins limit bytes body rest → Packet.ofBody body ≠ .ok p) :
      Frames limit bytes [] bytes
  /-- The bytes begin with such a frame, and then comes the run of the others. -/
  | next {bytes body rest last : Bytes} {p : Packet} {packets : List Packet}
      (hbegins : Begins limit bytes body rest) (hp : Packet.ofBody body = .ok p)
      (h : Frames limit rest packets last) : Frames limit bytes (p :: packets) last

namespace Frames

variable {limit : Int} {bytes last last' : Bytes} {packets others : List Packet}

/-- After the run comes a flaw or part of a frame. -/
theorem last_cases (h : Frames limit bytes packets last) :
    (∃ m, Flaw limit last m) ∨ Short limit last := by
  induction h with
  | @done bytes h =>
    rcases front_cases limit bytes with ⟨body, rest, p, hbegins, hp⟩ | hlast
    · exact absurd hp (h body rest p hbegins)
    · exact hlast
  | next _ _ _ ih => exact ih

/-- Part of a frame is no run. -/
theorem of_short (h : Short limit bytes) : Frames limit bytes [] bytes :=
  .done fun _ _ _ hbegins => absurd hbegins h.not_begins

/-- A flawed frame is no run. -/
theorem of_flaw {m : Malformed} (h : Flaw limit bytes m) : Frames limit bytes [] bytes := by
  refine .done fun body rest p hbegins hp => ?_
  rw [h.eq_of_begins hbegins] at hp
  cases hp

/-- Every byte sequence has a run. -/
theorem exists_of_bytes (limit : Int) (bytes : Bytes) :
    ∃ packets last, Frames limit bytes packets last := by
  -- what follows the first frame is shorter
  induction hlength : bytes.length using Nat.strongRecOn generalizing bytes with
  | ind n ih =>
    rcases front_cases limit bytes with ⟨body, rest, p, hbegins, hp⟩ | ⟨m, hflaw⟩ | hshort
    · have hlt := hbegins.length_lt
      rw [hlength] at hlt
      obtain ⟨packets, last, h⟩ := ih rest.length hlt rest rfl
      exact ⟨p :: packets, last, .next hbegins hp h⟩
    · exact ⟨[], bytes, of_flaw hflaw⟩
    · exact ⟨[], bytes, of_short hshort⟩

/-- A byte sequence has one run. -/
theorem unique (h : Frames limit bytes packets last) (h' : Frames limit bytes others last') :
    packets = others ∧ last = last' := by
  induction h generalizing others with
  | done hnone =>
    cases h' with
    | done _ => exact ⟨rfl, rfl⟩
    | next hbegins hp _ => exact absurd hp (hnone _ _ _ hbegins)
  | next hbegins hp _ ih =>
    cases h' with
    | done hnone => exact absurd hp (hnone _ _ _ hbegins)
    | next hbegins' hp' h' =>
      obtain ⟨rfl, rfl⟩ := hbegins.unique hbegins'
      obtain ⟨rfl, rfl⟩ := ih h'
      rw [hp] at hp'
      obtain rfl := Except.ok.inj hp'
      exact ⟨rfl, rfl⟩

/-- **Bytes that come later extend the run**: it goes on with the run of what followed it. -/
theorem append {more : Bytes} (h : Frames limit bytes packets last)
    (h' : Frames limit (last ++ more) others last') :
    Frames limit (bytes ++ more) (packets ++ others) last' := by
  induction h with
  | done _ => exact h'
  | next hbegins hp _ ih => exact .next (hbegins.append more) hp (ih h')

end Frames

/-! ## Reading -/

namespace Source

variable {σ : Type} (src : Source σ) {s : σ} {limit : Int}

/-- The length of a frame is read. -/
theorem readExactly_of_announces {n : Nat} {rest : Bytes} (h : src.Valid s)
    (hannounced : Announces n (src.unread s) rest) :
    ∃ next, src.readExactly 4 s = (.got (bigEndian 4 n), next) ∧ ofBigEndian (bigEndian 4 n) = n ∧
      src.unread next = rest ∧ src.Valid next ∧ src.ending next = src.ending s := by
  have hlength := hannounced.length_eq
  obtain ⟨next, hread, hunread, hvalid, hending⟩ :=
    readMore_of_le (n := 4) 4 [] h (by omega)
  refine ⟨next, ?_, ofBigEndian_bigEndian hannounced.1, ?_, hvalid, hending⟩
  · have htake : (src.unread s).take 4 = bigEndian 4 n := by
      rw [hannounced.2]
      exact List.take_left' (length_bigEndian 4 n)
    rw [readExactly, hread, htake]
    rfl
  · rw [hunread, hannounced.drop_eq]

/-- A complete frame of an allowed length is read. -/
theorem readFrame_of_begins {body rest : Bytes} (h : src.Valid s)
    (hbegins : Begins limit (src.unread s) body rest) :
    ∃ next, src.readFrame limit s = (.got body, next) ∧ src.unread next = rest ∧ src.Valid next ∧
      src.ending next = src.ending s := by
  obtain ⟨hpos, hlimit, hannounced⟩ := hbegins
  obtain ⟨next, hhead, hvalue, hunread, hvalid, hending⟩ := src.readExactly_of_announces h hannounced
  have hlength : body.length ≤ (src.unread next).length := by
    rw [hunread, List.length_append]
    omega
  obtain ⟨last, hbody, hlast, hvalid', hending'⟩ :=
    readMore_of_le body.length [] hvalid hlength
  refine ⟨last, ?_, ?_, hvalid', hending'.trans hending⟩
  · rw [readFrame, hhead]
    simp only
    rw [hvalue, if_neg (Nat.ne_of_gt hpos), if_neg (by omega), readExactly, hbody, hunread,
      List.take_left]
    rfl
  · rw [hlast, hunread, List.drop_left]

/-- A length of zero is refused, and no more than the length is read. -/
theorem readFrame_of_empty {rest : Bytes} (h : src.Valid s)
    (hannounced : Announces 0 (src.unread s) rest) :
    ∃ next, src.readFrame limit s = (.failed (.malformed .emptyFrame), next) ∧
      src.unread next = rest := by
  obtain ⟨next, hhead, hvalue, hunread, -⟩ := src.readExactly_of_announces h hannounced
  refine ⟨next, ?_, hunread⟩
  rw [readFrame, hhead]
  simp only
  rw [hvalue, if_pos rfl]

/-- So is a length over the limit. -/
theorem readFrame_of_oversized {n : Nat} {rest : Bytes} (h : src.Valid s) (hpos : 0 < n)
    (hover : limit < n) (hannounced : Announces n (src.unread s) rest) :
    ∃ next, src.readFrame limit s = (.failed (.malformed (.oversizedFrame n limit)), next) ∧
      src.unread next = rest := by
  obtain ⟨next, hhead, hvalue, hunread, -⟩ := src.readExactly_of_announces h hannounced
  refine ⟨next, ?_, hunread⟩
  rw [readFrame, hhead]
  simp only
  rw [hvalue, if_neg (Nat.ne_of_gt hpos), if_pos hover]

/-- For the rest of an unfinished frame a reader waits, or fails at the ending. -/
theorem readFrame_of_short (h : src.Valid s) (hshort : Short limit (src.unread s)) :
    ∃ outcome next, src.readFrame limit s = (outcome, next) ∧ src.Lacks s outcome := by
  cases hshort with
  | head hlength =>
    obtain ⟨outcome, next, hread, hlacks⟩ := readMore_of_lt 4 [] h hlength
    refine ⟨outcome, next, ?_, hlacks⟩
    rw [readFrame, readExactly, hread]
    cases hlacks with
    | waits _ => rfl
    | fails _ _ => rfl
  | @body n rest hpos hlimit hannounced hlength =>
    obtain ⟨next, hhead, hvalue, hunread, hvalid, hending⟩ := src.readExactly_of_announces h hannounced
    rw [← hunread] at hlength
    obtain ⟨outcome, last, hbody, hlacks⟩ := readMore_of_lt n [] hvalid hlength
    refine ⟨outcome, last, ?_, ?_⟩
    · rw [readFrame, hhead]
      simp only
      rw [hvalue, if_neg (Nat.ne_of_gt hpos), if_neg (by omega), readExactly, hbody]
    · cases hlacks with
      | waits hnext => exact .waits (hending ▸ hnext)
      | fails hnext hf => exact .fails (hending ▸ hnext) hf

end Source

namespace Inbox

/-- Without an ending, reading for bytes that are not there waits for them. With one, it fails. -/
inductive Lacks (inbox : Inbox) : Outcome Bytes → Prop
  /-- More may come. -/
  | waits (h : inbox.ending = none) : Lacks inbox .blocked
  /-- No more comes. -/
  | fails {e : Ending} {f : Fault} (h : inbox.ending = some e) (hf : e.Shows f) :
      Lacks inbox (.failed f)

section reading

variable {inbox : Inbox} {limit : Int}

/-- A complete frame of an allowed length is read. -/
theorem readFrame_of_begins {body rest : Bytes} (h : inbox.Tidy)
    (hbegins : Begins limit inbox.unread body rest) :
    ∃ next, inbox.readFrame limit = (.got body, next) ∧ next.unread = rest ∧ next.Tidy ∧
      next.ending = inbox.ending := by
  rw [readFrame_eq]
  exact Source.inbox.readFrame_of_begins h hbegins

/-- A flawed frame is refused, or it is read and its body is no packet. -/
theorem readFrame_of_flaw {m : Malformed} (h : inbox.Tidy) (hflaw : Flaw limit inbox.unread m) :
    (∃ next, inbox.readFrame limit = (.failed (.malformed m), next)) ∨
      ∃ body next, inbox.readFrame limit = (.got body, next) ∧ Packet.ofBody body = .error m := by
  rw [readFrame_eq]
  cases hflaw with
  | empty hannounced =>
    obtain ⟨next, hread, -⟩ := Source.inbox.readFrame_of_empty h hannounced
    exact .inl ⟨next, hread⟩
  | oversized hpos hover hannounced =>
    obtain ⟨next, hread, -⟩ := Source.inbox.readFrame_of_oversized h hpos hover hannounced
    exact .inl ⟨next, hread⟩
  | undecodable hbegins hm =>
    obtain ⟨next, hread, -⟩ := Source.inbox.readFrame_of_begins h hbegins
    exact .inr ⟨_, next, hread, hm⟩

/-- For the rest of an unfinished frame a reader waits, or fails at the ending. -/
theorem readFrame_of_short (h : inbox.Tidy) (hshort : Short limit inbox.unread) :
    ∃ outcome next, inbox.readFrame limit = (outcome, next) ∧ inbox.Lacks outcome := by
  rw [readFrame_eq]
  obtain ⟨outcome, next, hread, hlacks⟩ := Source.inbox.readFrame_of_short h hshort
  refine ⟨outcome, next, hread, ?_⟩
  cases hlacks with
  | waits hending => exact .waits hending
  | fails hending hf => exact .fails hending hf

end reading

end Inbox

/-! ## Arrivals -/

namespace Arrival

/-- The bytes that arrive, up to an ending. -/
def bytes : List Arrival → Bytes
  | [] => []
  | .chunk c :: rest => c ++ bytes rest
  | .ending _ :: _ => []

/-- The ending that arrives, if one does. -/
def ending? : List Arrival → Option Ending
  | [] => none
  | .chunk _ :: rest => ending? rest
  | .ending e :: _ => some e

variable (xs ys : List Arrival)

/-- An ending stays. -/
theorem ending?_append : ending? (xs ++ ys) = (ending? xs).or (ending? ys) := by
  induction xs with
  | nil => rfl
  | cons a xs ih =>
    cases a with
    | chunk c => exact ih
    | ending e => rfl

/-- Nothing comes after an ending. -/
theorem bytes_append_of_some {xs : List Arrival} {e : Ending} (h : ending? xs = some e) :
    bytes (xs ++ ys) = bytes xs := by
  induction xs with
  | nil => cases h
  | cons a xs ih =>
    cases a with
    | chunk c => exact congrArg (c ++ ·) (ih h)
    | ending e => rfl

/-- Without an ending, bytes come after bytes. -/
theorem bytes_append_of_none {xs : List Arrival} (h : ending? xs = none) :
    bytes (xs ++ ys) = bytes xs ++ bytes ys := by
  induction xs with
  | nil => rfl
  | cons a xs ih =>
    cases a with
    | chunk c =>
      show c ++ bytes (xs ++ ys) = c ++ bytes xs ++ bytes ys
      rw [ih h, List.append_assoc]
    | ending e => cases h

/-- Chunks and then perhaps an ending have the bytes of the chunks. -/
theorem bytes_chunks (chunks : List Bytes) (ending : Option Ending) :
    bytes (chunks.map chunk ++ ending.toList.map .ending) = chunks.flatten := by
  induction chunks with
  | nil =>
    cases ending with
    | none => rfl
    | some e => rfl
  | cons c chunks ih => exact congrArg (c ++ ·) ih

/-- Chunks and then perhaps an ending have that ending. -/
theorem ending?_chunks (chunks : List Bytes) (ending : Option Ending) :
    ending? (chunks.map chunk ++ ending.toList.map .ending) = ending := by
  induction chunks with
  | nil =>
    cases ending with
    | none => rfl
    | some e => rfl
  | cons c chunks ih => exact ih

end Arrival

namespace Inbox

variable {inbox : Inbox}

/-- A read side that has ended stays as it is. -/
theorem foldl_add_of_some {e : Ending} (h : inbox.ending = some e) (arrivals : List Arrival) :
    arrivals.foldl add inbox = inbox := by
  induction arrivals with
  | nil => rfl
  | cons a arrivals ih =>
    have hadd : inbox.add a = inbox := by
      cases a with
      | chunk c => simp [add, h]
      | ending e' => simp [add, h]
    rw [List.foldl_cons, hadd, ih]

/-- What arrives comes after what is there. -/
theorem foldl_add_of_none (htidy : inbox.Tidy) (h : inbox.ending = none)
    (arrivals : List Arrival) :
    (arrivals.foldl add inbox).Tidy ∧
      (arrivals.foldl add inbox).unread = inbox.unread ++ Arrival.bytes arrivals ∧
      (arrivals.foldl add inbox).ending = Arrival.ending? arrivals := by
  induction arrivals generalizing inbox with
  | nil => exact ⟨htidy, (List.append_nil _).symm, h⟩
  | cons a arrivals ih =>
    rw [List.foldl_cons]
    cases a with
    | ending e =>
      have hadd : inbox.add (.ending e) = { inbox with ending := some e } := by simp [add, h]
      rw [hadd, foldl_add_of_some rfl]
      exact ⟨htidy, (List.append_nil _).symm, rfl⟩
    | chunk c =>
      by_cases hc : c = []
      · subst hc
        have hadd : inbox.add (.chunk []) = inbox := by simp [add]
        rw [hadd]
        exact ih htidy h
      · have hadd : inbox.add (.chunk c) = { inbox with chunks := inbox.chunks ++ [c] } := by
          simp [add, h, hc]
        have htidy' : ({ inbox with chunks := inbox.chunks ++ [c] } : Inbox).Tidy := by
          intro d hd
          rcases List.mem_append.mp hd with hd | hd
          · exact htidy d hd
          · rwa [List.mem_singleton.mp hd]
        obtain ⟨h1, h2, h3⟩ := ih htidy' h
        rw [hadd]
        refine ⟨h1, ?_, h3⟩
        rw [h2]
        simp [unread, Arrival.bytes]

end Inbox

end Sftp
