import Sftp.Proofs.Link.FailedWrite
import Sftp.Session

/-!
# The handshake

A session begins with one frame from this side and one frame from the other. What the other side sends
may come in any chunks, and bytes after its frame stay where they are, for the reader that starts next.

* `Link.greetingFrame` — the frame from this side.
* `Link.Greeted` — the stream takes that frame, and then some bytes can be read from it.
* `Packet.IsVersion` — what a body has to be for the handshake to succeed.
* `Link.run_handshake` — the greeting and then the frame from the other side; `Link.run_awaitFrame` —
  what reading that frame leaves.
* `Link.Greeted.accepts_iff`, `Link.Greeted.refuses` — when a handshake succeeds on what can be read, and
  what it reports otherwise.
* `Link.openSession_of_ok`, `Link.openSession_of_error` — what becomes of the stream.
* **`Link.openSession_negotiates`** — a session is opened exactly on a version that is spoken, and
  otherwise the stream is closed once.
-/

namespace Sftp

/-- The body of a packet by which the other side agrees on the version. -/
def Packet.IsVersion (body : Bytes) (extensions : Extensions) : Prop :=
  Packet.ofBody body = .ok (.version protocolVersion extensions)

namespace Link

variable {σ : Type} {l : Link σ} {limit : Int} {bytes : Bytes} {ending : Option Ending}

/-- The frame of the client's first packet. -/
def greetingFrame : Bytes :=
  [0, 0, 0, 5, 1, 0, 0, 0, 3]

/-- It is that frame. -/
theorem encode_greeting : greeting.encode = .ok greetingFrame := by
  decide +kernel

/-- The stream takes the client's first frame, and then these bytes can be read from it, in chunks of any
sizes, and perhaps an ending after them. -/
structure Greeted (l : Link σ) (bytes : Bytes) (ending : Option Ending) : Prop where
  /-- The frame is taken. -/
  written : (l.line.write greetingFrame).1 = none
  /-- The flush does not fail. -/
  flushed : (l.line.write greetingFrame).2.flush.1 = none
  /-- Chunks have bytes. -/
  tidy : (l.line.write greetingFrame).2.inbox.Tidy
  /-- These are the bytes. -/
  unread : (l.line.write greetingFrame).2.inbox.unread = bytes
  /-- This is the ending. -/
  ending : (l.line.write greetingFrame).2.inbox.ending = ending

/-! ## Reading the answer -/

/-- What the handshake makes of a body. -/
def acceptBody (body : Bytes) : Except Fault (Int × Extensions) :=
  match Packet.ofBody body with
  | .ok reply => acceptVersion reply
  | .error m => .error (.malformed m)

/-- The fault of a handshake to which no frame comes. -/
def unanswered (f : Fault) : Fault :=
  if f.isEnd then .badMessage ("no version reply from server: " ++ f.message) else f

/-- A handshake greets and then reads one frame. -/
theorem run_handshake (limit : Int) (l : Link σ) :
    (handshake limit).run l =
      match (transmit greetingFrame).run l with
      | (.error f, t) => (.error f, t)
      | (.ok _, t) =>
        match (awaitFrame limit).run t with
        | (.error f, t) => (.error (unanswered f), t)
        | (.ok body, t) => (acceptBody body, t) := by
  unfold handshake
  rw [encode_greeting]
  show Step.run (transmit greetingFrame >>= _) l = _
  rw [Step.run_bind]
  rcases (transmit greetingFrame).run l with ⟨f | u, t⟩
  · rfl
  simp only
  rw [Step.run_bind, Step.run_tryCatch]
  rcases (awaitFrame limit).run t with ⟨f | body, t'⟩
  · simp only
    unfold unanswered
    by_cases hend : f.isEnd
    · rw [if_pos hend, if_pos hend]
      rfl
    · rw [if_neg hend, if_neg hend]
      rfl
  · simp only
    unfold acceptBody
    cases Packet.ofBody body with
    | ok reply =>
      show Step.run (liftM (acceptVersion reply)) t' = (acceptVersion reply, t')
      cases acceptVersion reply with
      | ok r => rfl
      | error f => rfl
    | error m => rfl

/-- While no reader runs, what arrives stays unread. -/
theorem receive_of_not_running (h : l.exchange.reader ≠ .running) (arrivals : List Arrival) :
    l.receive arrivals = { l with line := l.line.receive arrivals } :=
  if_neg h

/-- The read side as it is when a frame is waited for: if more would have to come, the stream is over. -/
def awaited (limit : Int) (inbox : Inbox) : Inbox :=
  match (inbox.readFrame limit).1 with
  | .blocked => inbox.hangUp
  | _ => inbox

/-- To wait for a frame is to let the stream end if more would have to come. -/
theorem awaiting_eq (h : l.exchange.reader ≠ .running) (limit : Int) :
    (match l.line.inbox.readFrame limit with
      | (.blocked, _) => l.receive [.ending .closed]
      | _ => l) = { l with line := { l.line with inbox := awaited limit l.line.inbox } } := by
  unfold awaited
  rcases l.line.inbox.readFrame limit with ⟨_ | _ | _, next⟩
  · rfl
  · exact receive_of_not_running h _
  · rfl

/-- A frame that is waited for is read, and nothing else changes. -/
theorem run_awaitFrame (h : l.exchange.reader ≠ .running) (limit : Int) :
    (awaitFrame limit).run l =
      (match ((awaited limit l.line.inbox).readFrame limit).1 with
        | .got body => .ok body
        | .blocked => .error .timedOut
        | .failed f => .error f,
        { l with
          line := { l.line with inbox := ((awaited limit l.line.inbox).readFrame limit).2 } }) := by
  unfold awaitFrame
  rw [Step.run_bind, Step.run_modify]
  refine (congrArg (Step.run _) (awaiting_eq h limit)).trans ?_
  rw [Step.run_bind, Step.run_get]
  simp only
  rcases (awaited limit l.line.inbox).readFrame limit with ⟨body | _ | f, next⟩
  · rfl
  · rfl
  · rfl

/-! ## What is accepted -/

/-- A body is accepted exactly if the other side agrees on the version in it. -/
theorem acceptBody_eq_ok_iff {body : Bytes} {version : Int} {extensions : Extensions} :
    acceptBody body = .ok (version, extensions) ↔
      version = protocolVersion ∧ Packet.IsVersion body extensions := by
  unfold acceptBody Packet.IsVersion
  cases hbody : Packet.ofBody body with
  | error m => exact ⟨nofun, nofun⟩
  | ok reply =>
    cases reply with
    | version v offered =>
      simp only [acceptVersion]
      by_cases hversion : v = protocolVersion
      · subst hversion
        rw [if_pos rfl]
        constructor
        · rintro ⟨⟩
          exact ⟨rfl, rfl⟩
        · rintro ⟨rfl, ⟨⟩⟩
          rfl
      · rw [if_neg hversion]
        constructor
        · nofun
        · rintro ⟨-, ⟨⟩⟩
          exact absurd rfl hversion
    | init _ _ => exact ⟨nofun, nofun⟩
    | message _ _ => exact ⟨nofun, nofun⟩

/-- A body that is not accepted is a bad message. -/
theorem exists_badMessage_of_acceptBody {body : Bytes} {f : Fault} (h : acceptBody body = .error f) :
    ∃ text, f = .badMessage text := by
  unfold acceptBody at h
  cases hbody : Packet.ofBody body with
  | error m =>
    rw [hbody] at h
    exact ⟨m.message, (Except.error.inj h).symm⟩
  | ok reply =>
    rw [hbody] at h
    cases reply with
    | version v offered =>
      simp only [acceptVersion] at h
      split at h
      · cases h
      · exact ⟨_, (Except.error.inj h).symm⟩
    | init _ _ => exact ⟨_, (Except.error.inj h).symm⟩
    | message _ _ => exact ⟨_, (Except.error.inj h).symm⟩

/-! ## What can be read -/

/-- To wait for a frame that is there changes nothing. -/
theorem awaited_of_ne {inbox : Inbox} (h : (inbox.readFrame limit).1 ≠ .blocked) :
    awaited limit inbox = inbox := by
  unfold awaited
  split
  · rename_i hblocked
    exact absurd hblocked h
  · rfl

/-- To wait for a frame that does not come shows how the stream ends. -/
theorem readFrame_awaited_of_short {inbox : Inbox} (htidy : inbox.Tidy)
    (hshort : Short limit inbox.unread) :
    ∃ f next, (awaited limit inbox).readFrame limit = (.failed f, next) ∧
      (inbox.ending.getD .closed).Shows f := by
  obtain ⟨outcome, next, hread, hlacks⟩ := Inbox.readFrame_of_short htidy hshort
  cases hlacks with
  | fails he hf =>
    rw [awaited_of_ne (by rw [hread]; exact nofun), he]
    exact ⟨_, next, hread, hf⟩
  | waits hnone =>
    -- the stream is taken to be over, with the same bytes
    have hover : awaited limit inbox = { inbox with ending := some .closed } := by
      unfold awaited Inbox.hangUp Inbox.add
      rw [hread, hnone]
      rfl
    have htidy' : ({ inbox with ending := some .closed } : Inbox).Tidy := htidy
    obtain ⟨outcome, next, hread', hlacks'⟩ := Inbox.readFrame_of_short htidy' hshort
    rw [hover, hnone, hread']
    cases hlacks' with
    | waits h => cases h
    | fails he hf =>
      obtain rfl := Option.some.inj he
      exact ⟨_, next, rfl, hf⟩

namespace Greeted

/-- The greeting goes out, and what can be read stays unread. -/
theorem run_transmit (h : l.Greeted bytes ending) (hidle : l.exchange.reader ≠ .running) :
    ∃ t, (transmit greetingFrame).run l = (.ok ⟨⟩, t) ∧ t.exchange = l.exchange ∧
      t.line.inbox = (l.line.write greetingFrame).2.inbox := by
  have hrest : (l.wrote greetingFrame).rest = l.wrote greetingFrame := if_neg hidle
  refine ⟨{ l with line := (l.line.write greetingFrame).2.flush.2 }, ?_, rfl, inbox_flush _⟩
  have hflushed : (l.wrote greetingFrame).line.flush.1 = none := h.flushed
  rw [Link.run_transmit]
  simp only
  rw [hrest, h.written]
  simp only
  rw [hflushed]
  rfl

/-- A complete frame is read, and what comes after it is left. -/
theorem run_handshake_of_begins (h : l.Greeted bytes ending) (hidle : l.exchange.reader ≠ .running)
    {body rest : Bytes} (hbegins : Begins limit bytes body rest) :
    ∃ t, (handshake limit).run l = (acceptBody body, t) ∧ t.line.inbox.unread = rest ∧
      t.line.inbox.Tidy ∧ t.line.inbox.ending = ending := by
  obtain ⟨t, htransmit, hexchange, hinbox⟩ := h.run_transmit hidle
  rw [← hexchange] at hidle
  rw [← h.unread, ← hinbox] at hbegins
  obtain ⟨next, hread, hunread, htidy, hending⟩ :=
    Inbox.readFrame_of_begins (hinbox ▸ h.tidy) hbegins
  have hthere : awaited limit t.line.inbox = t.line.inbox :=
    awaited_of_ne (by rw [hread]; exact nofun)
  refine ⟨{ t with line := { t.line with inbox := next } }, ?_, hunread, htidy, ?_⟩
  · rw [run_handshake, htransmit]
    simp only
    rw [run_awaitFrame hidle, hthere, hread]
  · rw [hending, hinbox, h.ending]

/-- A frame that cannot be taken is a bad message. -/
theorem run_handshake_of_flaw (h : l.Greeted bytes ending) (hidle : l.exchange.reader ≠ .running)
    {m : Malformed} (hflaw : Flaw limit bytes m) :
    ((handshake limit).run l).1 = .error (.malformed m) := by
  obtain ⟨t, htransmit, hexchange, hinbox⟩ := h.run_transmit hidle
  rw [← hexchange] at hidle
  rw [← h.unread, ← hinbox] at hflaw
  rw [run_handshake, htransmit]
  simp only
  rw [run_awaitFrame hidle]
  rcases Inbox.readFrame_of_flaw (hinbox ▸ h.tidy) hflaw with
    ⟨next, hread⟩ | ⟨body, next, hread, hm⟩
  · rw [awaited_of_ne (by rw [hread]; exact nofun), hread]
    rfl
  · rw [awaited_of_ne (by rw [hread]; exact nofun), hread]
    simp only
    unfold acceptBody
    rw [hm]

/-- If no complete frame comes, the handshake learns how the stream ends. -/
theorem run_handshake_of_short (h : l.Greeted bytes ending) (hidle : l.exchange.reader ≠ .running)
    (hshort : Short limit bytes) :
    ∃ f, ((handshake limit).run l).1 = .error (unanswered f) ∧ (ending.getD .closed).Shows f := by
  obtain ⟨t, htransmit, hexchange, hinbox⟩ := h.run_transmit hidle
  rw [← hexchange] at hidle
  rw [← h.unread, ← hinbox] at hshort
  obtain ⟨f, next, hread, hshows⟩ := readFrame_awaited_of_short (hinbox ▸ h.tidy) hshort
  rw [hinbox, h.ending] at hshows
  refine ⟨f, ?_, hshows⟩
  rw [run_handshake, htransmit]
  simp only
  rw [run_awaitFrame hidle, hread]

end Greeted

/-! ## What becomes of the stream -/

/-- A write reads nothing. -/
theorem asked_write (line : Line σ) (bytes : Bytes) :
    (line.write bytes).2.inbox.asked = line.inbox.asked := by
  have hadd : ∀ (arrivals : List Arrival) (inbox : Inbox),
      (arrivals.foldl Inbox.add inbox).asked = inbox.asked := by
    intro arrivals
    induction arrivals with
    | nil => exact fun _ => rfl
    | cons a arrivals ih =>
      intro inbox
      refine (ih (inbox.add a)).trans ?_
      unfold Inbox.add
      cases a with
      | chunk c =>
        simp only
        split <;> rfl
      | ending e =>
        simp only
        split <;> rfl
  unfold Line.write
  by_cases hclosed : line.isClosed
  · rw [if_pos hclosed]
  · rw [if_neg hclosed]
    rcases line.peer.write bytes line.state with ⟨f | arrivals, state⟩
    · rfl
    · exact hadd arrivals line.inbox

/-- Handing a frame over closes nothing. -/
theorem closes_transmit (bytes : Bytes) (l : Link σ) :
    ((transmit bytes).run l).2.line.closes = l.line.closes := by
  have hwrite : (l.line.write bytes).2.closes = l.line.closes := by
    unfold Line.write
    by_cases hclosed : l.line.isClosed
    · rw [if_pos hclosed]
    · rw [if_neg hclosed]
      rcases l.line.peer.write bytes l.line.state with ⟨f | arrivals, state⟩
      · rfl
      · rfl
  have hrest : (l.wrote bytes).rest.line.closes = l.line.closes := by
    obtain ⟨inbox, hline⟩ := line_rest (l.wrote bytes)
    rw [hline]
    exact hwrite
  have hflush : ∀ line : Line σ, line.flush.2.closes = line.closes := by
    intro line
    unfold Line.flush
    split <;> rfl
  rw [run_transmit]
  simp only
  split
  · exact hrest
  · split
    all_goals exact (hflush _).trans hrest

/-- After the greeting, a handshake does nothing but read. -/
theorem exists_inbox_handshake (hidle : l.exchange.reader ≠ .running) (limit : Int) :
    ∃ inbox, ((handshake limit).run l).2 = { ((transmit greetingFrame).run l).2 with
      line := { ((transmit greetingFrame).run l).2.line with inbox } } := by
  have hexchange := exchange_transmit greetingFrame l
  have hrest : (l.wrote greetingFrame).rest = l.wrote greetingFrame := if_neg hidle
  rw [hrest] at hexchange
  rw [run_handshake]
  generalize (transmit greetingFrame).run l = outcome at hexchange ⊢
  rcases outcome with ⟨f | u, t⟩
  · exact ⟨_, rfl⟩
  · have hidle' : t.exchange.reader ≠ .running := by
      rw [show t.exchange = (l.wrote greetingFrame).exchange from hexchange]
      exact hidle
    simp only
    rw [run_awaitFrame hidle']
    rcases (awaited limit t.line.inbox).readFrame limit with ⟨body | _ | f, next⟩
    all_goals exact ⟨next, rfl⟩

/-- A handshake leaves the exchange alone, and the stream open. -/
theorem handshake_keeps (hidle : l.exchange.reader ≠ .running) (limit : Int) :
    ((handshake limit).run l).2.exchange = l.exchange ∧
      ((handshake limit).run l).2.line.closes = l.line.closes ∧
      ((handshake limit).run l).2.line.peer = l.line.peer ∧
      ((handshake limit).run l).2.line.sent.toList = l.line.sent.toList ++
        if (l.line.write greetingFrame).1.isNone then [greetingFrame] else [] := by
  obtain ⟨inbox, hafter⟩ := exists_inbox_handshake hidle limit
  obtain ⟨hpeer, hsent⟩ := line_transmit greetingFrame l
  have hrest : (l.wrote greetingFrame).rest = l.wrote greetingFrame := if_neg hidle
  rw [hafter]
  refine ⟨?_, closes_transmit greetingFrame l, hpeer, hsent⟩
  show ((transmit greetingFrame).run l).2.exchange = _
  rw [exchange_transmit, hrest]
  rfl

/-- A greeting that breaks is the end of the handshake, before anything is read. -/
theorem Breaks.run_handshake {f : Fault} (h : l.Breaks greetingFrame f)
    (hidle : l.exchange.reader ≠ .running) (limit : Int) :
    ((handshake limit).run l).1 = .error f ∧
      ((handshake limit).run l).2.line.inbox.asked = l.line.inbox.asked := by
  have hfault := h.run_transmit
  have hinbox := inbox_transmit greetingFrame l
  have hrest : (l.wrote greetingFrame).rest = l.wrote greetingFrame := if_neg hidle
  rw [hrest] at hinbox
  rw [Link.run_handshake]
  generalize (transmit greetingFrame).run l = outcome at hfault hinbox ⊢
  obtain ⟨result, t⟩ := outcome
  obtain rfl : result = .error f := hfault
  exact ⟨rfl, (congrArg Inbox.asked hinbox).trans (asked_write l.line greetingFrame)⟩

/-- Closing the stream ends as the stream does. -/
theorem closeLine_eq (l : Link σ) :
    closeLine.run l =
      (match l.line.close.1 with
        | some f => .error f
        | none => .ok ⟨⟩, l.cut.rest) := by
  unfold closeLine
  rw [Step.run_bind, Step.run_get]
  simp only
  rw [Step.run_bind, Step.run_set]
  simp only
  cases l.line.close.1 with
  | none => rfl
  | some f => rfl

/-- To open a session is to shake hands, and then to start the reader or to close the stream. -/
theorem run_openSession (limit : Int) (l : Link σ) :
    (openSession limit).run l =
      match (handshake limit).run l with
      | (.ok (version, extensions), t) =>
        (.ok { version, extensions }, ({ t with exchange := { limit } } : Link σ).start.record .info
          s!"SFTP session established (version {version})")
      | (.error f, t) => (.error (t.line.close.1.getD f), t.cut.rest) := by
  unfold openSession
  rw [Step.run_bind, Step.run_tryCatch]
  rcases (handshake limit).run l with ⟨f | ⟨version, extensions⟩, t⟩
  · simp only
    rw [Step.run_bind, closeLine_eq]
    cases t.line.close.1 with
    | none => rfl
    | some g => rfl
  · rfl

/-- Starting the reader closes nothing. -/
theorem line_start (l : Link σ) : ∃ inbox, l.start.line = { l.line with inbox } := by
  unfold start
  split
  · exact line_rest _
  · exact ⟨_, rfl⟩

/-! ## A session is opened -/

/-- Nothing is read while the greeting is handed over. -/
theorem asked_greeting (hidle : l.exchange.reader ≠ .running) :
    ((transmit greetingFrame).run l).2.line.inbox.asked = l.line.inbox.asked := by
  have hrest : (l.wrote greetingFrame).rest = l.wrote greetingFrame := if_neg hidle
  rw [inbox_transmit, hrest]
  exact asked_write l.line greetingFrame

namespace Greeted

/-- A handshake succeeds exactly on a complete frame of an allowed length in which the other side agrees
on the version. -/
theorem accepts_iff (h : l.Greeted bytes ending) (hidle : l.exchange.reader ≠ .running)
    {version : Int} {extensions : Extensions} :
    ((handshake limit).run l).1 = .ok (version, extensions) ↔
      version = protocolVersion ∧
        ∃ body rest, Begins limit bytes body rest ∧ Packet.IsVersion body extensions := by
  constructor
  · intro hok
    rcases front_cases limit bytes with ⟨body, rest, -, hbegins, -⟩ | ⟨m, hflaw⟩ | hshort
    · obtain ⟨t, hrun, -⟩ := h.run_handshake_of_begins hidle hbegins
      rw [hrun] at hok
      obtain ⟨hversion, hbody⟩ := acceptBody_eq_ok_iff.mp hok
      exact ⟨hversion, body, rest, hbegins, hbody⟩
    · rw [h.run_handshake_of_flaw hidle hflaw] at hok
      cases hok
    · obtain ⟨f, hrun, -⟩ := h.run_handshake_of_short hidle hshort
      rw [hrun] at hok
      cases hok
  · rintro ⟨hversion, body, rest, hbegins, hbody⟩
    obtain ⟨t, hrun, -⟩ := h.run_handshake_of_begins hidle hbegins
    rw [hrun]
    exact acceptBody_eq_ok_iff.mpr ⟨hversion, hbody⟩

/-- A handshake that fails on what can be read reports a bad message, or the fault with which reading
ended before a frame was there. -/
theorem refuses (h : l.Greeted bytes ending) (hidle : l.exchange.reader ≠ .running) {f : Fault}
    (hf : ((handshake limit).run l).1 = .error f) :
    (∃ text, f = .badMessage text) ∨ Short limit bytes ∧ ending = some (.broken f) := by
  rcases front_cases limit bytes with ⟨body, rest, -, hbegins, -⟩ | ⟨m, hflaw⟩ | hshort
  · obtain ⟨t, hrun, -⟩ := h.run_handshake_of_begins hidle hbegins
    rw [hrun] at hf
    exact .inl (exists_badMessage_of_acceptBody hf)
  · rw [h.run_handshake_of_flaw hidle hflaw] at hf
    exact .inl ⟨m.message, (Except.error.inj hf).symm⟩
  · obtain ⟨g, hrun, hshows⟩ := h.run_handshake_of_short hidle hshort
    rw [hrun] at hf
    obtain rfl := Except.error.inj hf
    unfold unanswered
    by_cases hend : g.isEnd
    · rw [if_pos hend]
      exact .inl ⟨_, rfl⟩
    · -- only a read that faults is passed on as it is
      rw [if_neg hend]
      rcases ending with _ | _ | f
      · cases hshows
        exact absurd rfl hend
      · cases hshows
        exact absurd rfl hend
      · cases hshows
        exact .inr ⟨hshort, rfl⟩

end Greeted

/-- A session that is opened leaves the stream open, and its reader starts on what the handshake left
unread. -/
theorem openSession_of_ok {version : Int} {extensions : Extensions}
    (hok : ((handshake limit).run l).1 = .ok (version, extensions)) :
    ((openSession limit).run l).1 = .ok { version, extensions } ∧
      ((openSession limit).run l).2 =
        (({ ((handshake limit).run l).2 with exchange := { limit } } : Link σ).start.record .info
          s!"SFTP session established (version {version})") := by
  rw [run_openSession]
  generalize (handshake limit).run l = outcome at hok ⊢
  obtain ⟨result, t⟩ := outcome
  obtain rfl : result = .ok (version, extensions) := hok
  exact ⟨rfl, rfl⟩

/-- A session that is not opened leaves the stream closed once more, and no reader sees it. -/
theorem openSession_of_error (hidle : l.exchange.reader ≠ .running) {f : Fault}
    (hf : ((handshake limit).run l).1 = .error f) :
    ((openSession limit).run l).1 =
        .error (((handshake limit).run l).2.line.close.1.getD f) ∧
      ((openSession limit).run l).2 = ((handshake limit).run l).2.cut := by
  obtain ⟨hexchange, -⟩ := handshake_keeps hidle limit
  rw [run_openSession]
  generalize (handshake limit).run l = outcome at hf hexchange ⊢
  obtain ⟨result, t⟩ := outcome
  obtain rfl : result = .error f := hf
  have hstill : t.cut.exchange.reader ≠ .running := by
    rw [show t.cut.exchange = l.exchange from hexchange]
    exact hidle
  exact ⟨rfl, if_neg hstill⟩

/-- A session that is opened leaves the stream as the handshake did, but for what its reader takes. -/
theorem line_openSession_of_ok {version : Int} {extensions : Extensions}
    (hok : ((handshake limit).run l).1 = .ok (version, extensions)) :
    ∃ inbox, ((openSession limit).run l).2.line =
      { ((handshake limit).run l).2.line with inbox } := by
  rw [(openSession_of_ok hok).2]
  exact line_start ({ ((handshake limit).run l).2 with exchange := { limit } } : Link σ)

/-- On a stream without a reader, a handshake hands over one frame before it reads. If the stream breaks,
that is its fault. On bytes that can be read, in whatever chunks they come, it succeeds exactly if they
begin with a complete frame of an allowed length in which the other side agrees on the version; that frame
is taken, and what follows is left. Otherwise the answer is a bad message, or reading faulted. A session is
opened exactly if the handshake succeeds: then the stream stays open, and the reader starts on what was
left. Otherwise the stream is closed once, whatever failed, and no reader starts. -/
theorem openSession_negotiates (limit : Int) (l : Link σ) (hidle : l.exchange.reader = .idle) :
    (((transmit greetingFrame).run l).2.line.inbox.asked = l.line.inbox.asked ∧
      (∃ inbox, ((handshake limit).run l).2 = { ((transmit greetingFrame).run l).2 with
        line := { ((transmit greetingFrame).run l).2.line with inbox } }) ∧
      ((handshake limit).run l).2.line.sent.toList = l.line.sent.toList ++
        if (l.line.write greetingFrame).1.isNone then [greetingFrame] else []) ∧
    (∀ f, l.Breaks greetingFrame f → ((handshake limit).run l).1 = .error f ∧
      ((handshake limit).run l).2.line.inbox.asked = l.line.inbox.asked) ∧
    (∀ bytes ending, l.Greeted bytes ending →
      (∀ version extensions, ((handshake limit).run l).1 = .ok (version, extensions) ↔
        version = protocolVersion ∧
          ∃ body rest, Begins limit bytes body rest ∧ Packet.IsVersion body extensions) ∧
      (∀ body rest, Begins limit bytes body rest →
        ((handshake limit).run l).2.line.inbox.unread = rest ∧
          ((handshake limit).run l).2.line.inbox.Tidy ∧
          ((handshake limit).run l).2.line.inbox.ending = ending) ∧
      ∀ f, ((handshake limit).run l).1 = .error f →
        (∃ text, f = .badMessage text) ∨ Short limit bytes ∧ ending = some (.broken f)) ∧
    (∀ version extensions, ((handshake limit).run l).1 = .ok (version, extensions) →
      ((openSession limit).run l).1 = .ok { version, extensions } ∧
        ((openSession limit).run l).2.line.closes = l.line.closes ∧
        ((openSession limit).run l).2 =
          (({ ((handshake limit).run l).2 with exchange := { limit } } : Link σ).start.record .info
            s!"SFTP session established (version {version})")) ∧
    (∀ f, ((handshake limit).run l).1 = .error f →
      (∃ g, ((openSession limit).run l).1 = .error g) ∧
        ((openSession limit).run l).2.line.closes = l.line.closes + 1 ∧
        ((openSession limit).run l).2.exchange = l.exchange) := by
  have hstill : l.exchange.reader ≠ .running := by
    rw [hidle]
    exact nofun
  obtain ⟨hexchange, hcloses, -, hsent⟩ := handshake_keeps hstill limit
  refine ⟨⟨asked_greeting hstill, exists_inbox_handshake hstill limit, hsent⟩,
    fun f hbreaks => hbreaks.run_handshake hstill limit, fun bytes ending h => ⟨?_, ?_, ?_⟩,
    fun version extensions hok => ?_, fun f hf => ?_⟩
  · exact fun version extensions => h.accepts_iff hstill
  · intro body rest hbegins
    obtain ⟨t, hrun, hleft⟩ := h.run_handshake_of_begins hstill hbegins
    rw [hrun]
    exact hleft
  · exact fun f hf => h.refuses hstill hf
  · obtain ⟨hresult, hafter⟩ := openSession_of_ok hok
    obtain ⟨inbox, hline⟩ := line_openSession_of_ok hok
    refine ⟨hresult, ?_, hafter⟩
    rw [hline]
    exact hcloses
  · obtain ⟨hresult, hafter⟩ := openSession_of_error hstill hf
    rw [hafter]
    exact ⟨⟨_, hresult⟩, congrArg Nat.succ hcloses, hexchange⟩

/-- A fresh link whose other side agrees on the version, in two chunks, the second with one more byte. -/
def agreeingLink : Link Unit where
  line := {
    peer := {
      write := fun _ s => (.ok [.chunk [0, 0, 0, 5, 2], .chunk [0, 0, 0, 3, 9]], s)
      close := fun s => (none, s) }
    state := () }
  exchange := { limit := 5 }

/-- The chunks can be read after the greeting. -/
theorem greeted_agreeingLink : agreeingLink.Greeted [0, 0, 0, 5, 2, 0, 0, 0, 3, 9] none where
  written := rfl
  flushed := rfl
  tidy := by unfold Inbox.Tidy; decide
  unread := rfl
  ending := rfl

/-- The session is opened on the frame, and the byte after it is left. -/
theorem openSession_negotiates_agreeingLink :
    agreeingLink.exchange.reader = .idle ∧
      agreeingLink.Greeted [0, 0, 0, 5, 2, 0, 0, 0, 3, 9] none ∧
      ((openSession 5).run agreeingLink).1 = .ok { version := 3, extensions := .empty } ∧
      ((handshake 5).run agreeingLink).2.line.inbox.unread = [9] ∧
      ((openSession 5).run agreeingLink).2.line.closes = 0 := by
  obtain ⟨-, -, hread, hopened, -⟩ := openSession_negotiates 5 agreeingLink rfl
  obtain ⟨haccepts, hleft, -⟩ := hread _ _ greeted_agreeingLink
  have hbegins : Begins 5 [0, 0, 0, 5, 2, 0, 0, 0, 3, 9] [2, 0, 0, 0, 3] [9] := by
    unfold Begins Announces
    decide
  have hversion : Packet.IsVersion [2, 0, 0, 0, 3] .empty := by
    unfold Packet.IsVersion
    decide +kernel
  obtain ⟨hok, hcloses, -⟩ := hopened 3 .empty ((haccepts 3 .empty).mpr ⟨rfl, _, _, hbegins, hversion⟩)
  exact ⟨rfl, greeted_agreeingLink, hok, (hleft _ _ hbegins).1, hcloses⟩

end Link

end Sftp
