import Sftp.Proofs.Link.Rest

/-!
# A request and its answer

Where the far end answers a frame with one other frame, a request comes back with the packet in it, and
the link is as ready for the next request as before.

* `Arrival.Carry` — arrivals that are one frame, cut into chunks in any way.
* `Link.Ready` — a listening link with nothing unread, on an open stream, with ids left.
* `Link.Listening.receive_carry` — a frame within the limit is taken whole, and the link goes on
  listening; `Link.Listening.failure_receive` — a frame over the limit is the end of the connection.
* `Link.run_transmit_of_taken` — handing over a frame that the far end takes; `Peer.flushed` — what a
  flush does there.
* `Link.Served` — what a request that is answered leaves; **`Link.Ready.run_send`** — such a request.
-/

namespace Sftp

/-- The arrivals are one frame with the given body, in chunks of any sizes. -/
structure Arrival.Carry (arrivals : List Arrival) (body : Bytes) : Prop where
  /-- The stream does not end. -/
  unended : Arrival.ending? arrivals = none
  /-- The bytes are the length of the body and the body. -/
  announced : Announces body.length (Arrival.bytes arrivals) body

/-- A frame may arrive in one chunk. -/
theorem Arrival.carry_chunk {body : Bytes} (h : body.length < Width.word.limit) :
    Arrival.Carry [.chunk (bigEndian 4 body.length ++ body)] body :=
  ⟨rfl, h, List.append_nil _⟩

/-- The body of a packet is not empty. -/
theorem Packet.length_pos_of_ofBody {body : Bytes} {p : Packet} (h : Packet.ofBody body = .ok p) :
    0 < body.length := by
  cases body with
  | nil => cases h
  | cons b body => exact Nat.succ_pos _

/-- A frame within the limit is a run of one packet. -/
theorem Arrival.Carry.frames {limit : Int} {arrivals : List Arrival} {body : Bytes} {p : Packet}
    (h : Arrival.Carry arrivals body) (hlimit : (body.length : Int) ≤ limit)
    (hp : Packet.ofBody body = .ok p) : Frames limit (Arrival.bytes arrivals) [p] [] := by
  have hbegins : Begins limit (Arrival.bytes arrivals) body [] := by
    refine ⟨Packet.length_pos_of_ofBody hp, hlimit, ?_⟩
    rw [List.append_nil]
    exact h.announced
  exact .next hbegins hp (.of_short (.head (by decide)))

namespace Link

variable {σ : Type} {l l' : Link σ}

/-- A link that is ready for a request. -/
structure Ready (l : Link σ) : Prop where
  /-- The reader runs, and the connection is healthy. -/
  listening : l.Listening
  /-- Nothing is unread. -/
  read : l.line.inbox.unread = []
  /-- The stream is open. -/
  isOpen : l.line.isClosed = false
  /-- Not all ids are taken. -/
  room : l.exchange.pending.length < Exchange.idCount.toNat

/-- A link on a stream that nothing has come from, whose reader has started, is ready. -/
theorem ready_of_started {line : Line σ} (limit : Int) (hinbox : line.inbox = {})
    (hopen : line.isClosed = false) :
    Ready { line, exchange := { limit, reader := .running } } := by
  have hlistening : Listening { line, exchange := { limit, reader := .running } } := by
    refine ⟨rfl, rfl, Exchange.sound_of_pending_nil rfl, ?_, ?_, ?_⟩
    · show line.inbox.Tidy
      rw [hinbox]
      exact fun _ hc => absurd hc List.not_mem_nil
    · show line.inbox.ending = none
      rw [hinbox]
    · show Short limit line.inbox.unread
      rw [hinbox]
      exact .head (by decide)
  have hroom : 0 < Exchange.idCount.toNat := by decide
  refine ⟨hlistening, ?_, hopen, hroom⟩
  show line.inbox.unread = []
  rw [hinbox]
  rfl

/-- What arrives at a listening link with nothing unread, as the reader finds it. -/
theorem receive_eq_takeFrames (hl : l.Listening) (arrivals : List Arrival) :
    l.receive arrivals = ({ l with line := l.line.receive arrivals } : Link σ).takeFrames :=
  if_pos hl.running

/-- What arrives changes the stream only in what is left unread. -/
theorem line_receive (l : Link σ) (arrivals : List Arrival) :
    ∃ inbox, (l.receive arrivals).line = { l.line with inbox } :=
  line_rest _

/-- A frame within the limit is taken, and nothing is left unread. -/
theorem Listening.receive_carry {arrivals : List Arrival} {body : Bytes} {p : Packet}
    (hl : l.Listening) (hread : l.line.inbox.unread = []) (hcarry : Arrival.Carry arrivals body)
    (hlimit : (body.length : Int) ≤ l.exchange.limit) (hp : Packet.ofBody body = .ok p) :
    (l.receive arrivals).exchange = l.exchange.take p ∧ (l.receive arrivals).Listening ∧
      (l.receive arrivals).line.inbox.unread = [] := by
  obtain ⟨htidy, hunread, hending⟩ := Inbox.foldl_add_of_none hl.tidy hl.unended arrivals
  rw [hread, List.nil_append] at hunread
  rw [hcarry.unended] at hending
  have hshort : Short l.exchange.limit [] := .head (by decide)
  obtain ⟨hexchange, htidy', hending', hlast⟩ :=
    takeFrames_of_short (l := { l with line := l.line.receive arrivals }) htidy hending hunread
      (hcarry.frames hlimit hp) hshort
  rw [← receive_eq_takeFrames hl] at hexchange htidy' hending' hlast
  refine ⟨hexchange, ?_, hlast⟩
  constructor
  · rw [hexchange, Exchange.reader_takeAll]
    exact hl.running
  · rw [hexchange, Exchange.failure_takeAll]
    exact hl.healthy
  · rw [hexchange]
    exact hl.sound.takeAll [p]
  · exact htidy'
  · exact hending'
  · rw [hlast, hexchange, Exchange.limit_takeAll]
    exact hshort

/-- A frame over the limit is the end of the connection. -/
theorem Listening.failure_receive {arrivals : List Arrival} {body : Bytes}
    (hl : l.Listening) (hread : l.line.inbox.unread = []) (hcarry : Arrival.Carry arrivals body)
    (hpos : 0 < body.length) (hlimit : l.exchange.limit < body.length) :
    (l.receive arrivals).exchange.failure ≠ none := by
  obtain ⟨htidy, hunread, -⟩ := Inbox.foldl_add_of_none hl.tidy hl.unended arrivals
  rw [hread, List.nil_append] at hunread
  have hflaw := Flaw.oversized hpos hlimit hcarry.announced
  rw [receive_eq_takeFrames hl, takeFrames_of_stops
    (l := { l with line := l.line.receive arrivals }) htidy hunread (.of_flaw hflaw)
    (.flawed hflaw)]
  exact nofun

/-! ## A request -/

/-- A new request that is answered is off the table, and nothing else there has changed. -/
theorem take_enter (hsound : l.exchange.Sound) {id : Int} (hid : l.exchange.nextId.1 = some id)
    (reply : Message) :
    ((l.enter id).exchange.take (.message id reply)).standing l.exchange.progress.size =
        .answered (.message id reply) ∧
      ((l.enter id).exchange.take (.message id reply)).pending = l.exchange.pending := by
  have hentered := sound_enter hsound hid
  have hmem : (id, l.exchange.progress.size) ∈ (l.enter id).exchange.pending :=
    List.mem_append_right _ List.mem_cons_self
  have hreached := hentered.reached_eq (p := .message id reply) rfl hmem
  have hwaiting : (l.enter id).exchange.standing l.exchange.progress.size = .waiting := by
    refine (Exchange.standing_register _ _ _).trans ?_
    show l.exchange.progress.getD l.exchange.progress.size .waiting = .waiting
    rw [Array.getD, dif_neg (Nat.lt_irrefl _)]
  constructor
  · rw [Exchange.standing_take hentered, if_pos hreached, hwaiting, Progress.settled_waiting]
  · have hfree : ∀ e ∈ l.exchange.pending, e.1 ≠ id := Exchange.nextId_free hid
    rw [Exchange.take_of_reached rfl hreached]
    exact Exchange.pending_withdraw_register (x := l.exchange.nextId.2) hfree

/-- The reply to a request that was answered is there. -/
theorem run_await_of_answered {t : Ticket} {p : Packet}
    (h : l.exchange.standing t = .answered p) : (await t).run l = (.ok p, l) := by
  have hnot : ¬ l.exchange.standing t = .waiting := by
    rw [h]
    exact nofun
  unfold await
  rw [Step.run_bind, Step.run_modify, if_neg hnot]
  simp only
  rw [Step.run_bind, Step.run_get]
  simp only
  rw [h]
  rfl

end Link

/-- What a flush does at the far end, on streams that have one. -/
def Peer.flushed {σ : Type} (peer : Peer σ) (state : σ) : Option Fault × σ :=
  match peer.flush with
  | none => (none, state)
  | some step => step state

namespace Link

variable {σ : Type} {l : Link σ}

/-- A flush concerns the far end alone. -/
theorem flush_eq (line : Line σ) :
    line.flush.1 = (line.peer.flushed line.state).1 ∧
      line.flush.2 = { line with
        state := (line.peer.flushed line.state).2
        flushes := line.flush.2.flushes } := by
  unfold Line.flush Peer.flushed
  cases line.peer.flush with
  | none => exact ⟨rfl, rfl⟩
  | some step => exact ⟨rfl, rfl⟩

/-- A link whose far end has taken a frame and gone to another state, before anything arrives. -/
def took (l : Link σ) (frame : Bytes) (state : σ) : Link σ :=
  { l with line := { l.line with state, sent := l.line.sent.push frame } }

/-- What happens at the far end does not concern the reader. -/
theorem Listening.took (hl : l.Listening) (frame : Bytes) (state : σ) :
    (l.took frame state).Listening :=
  ⟨hl.running, hl.healthy, hl.sound, hl.tidy, hl.unended, hl.short⟩

/-- Handing over a frame that the far end takes and answers. -/
theorem run_transmit_of_taken {frame : Bytes} {arrivals : List Arrival} {state : σ}
    (hopen : l.line.isClosed = false)
    (hwrite : l.line.peer.write frame l.line.state = (.ok arrivals, state))
    (hflush : (l.line.peer.flushed state).1 = none) :
    (transmit frame).run l =
      (.ok ⟨⟩, { (l.took frame state).receive arrivals with
        line := ((l.took frame state).receive arrivals).line.flush.2 }) := by
  have hline : l.line.write frame = (none, (l.took frame state).line.receive arrivals) := by
    unfold Line.write
    rw [if_neg (by rw [hopen]; exact Bool.false_ne_true), hwrite]
    rfl
  have hrest : (l.wrote frame).rest = (l.took frame state).receive arrivals := by
    show ({ l with line := (l.line.write frame).2 } : Link σ).rest = _
    rw [hline]
    rfl
  have hflushed : ((l.took frame state).receive arrivals).line.flush.1 = none := by
    obtain ⟨inbox, hinbox⟩ := line_receive (l.took frame state) arrivals
    rw [(flush_eq _).1, hinbox]
    exact hflush
  rw [run_transmit]
  simp only
  rw [hline]
  simp only
  rw [hrest, hflushed]

/-- A link has sent a frame and taken one answer, after which the far end is in a state of its own. -/
structure Served (l : Link σ) (frame : Bytes) (state : σ) (l' : Link σ) : Prop where
  /-- It is ready again. -/
  ready : l'.Ready
  /-- The far end is the same. -/
  peer : l'.line.peer = l.line.peer
  /-- It is in that state. -/
  state : l'.line.state = state
  /-- The frame is all that was sent. -/
  sent : l'.line.sent = l.line.sent.push frame
  /-- The requests under way are those that were. -/
  pending : l'.exchange.pending = l.exchange.pending
  /-- Frames may be as long as before. -/
  limit : l'.exchange.limit = l.exchange.limit

/-- **A request that is answered.** A link that is ready sends a message, the far end takes its frame and
answers with the frame of a reply that has the same id, and the flush does not fail: the reply comes
back, and the link is ready again, with the far end in its new state. -/
theorem Ready.run_send (hl : l.Ready) {m reply : Message} {id : Int} {frame body : Bytes}
    {arrivals : List Arrival} {state : σ} (hid : l.exchange.nextId.1 = some id)
    (hencode : (Packet.message id m).encode = .ok frame)
    (hwrite : l.line.peer.write frame l.line.state = (.ok arrivals, state))
    (hcarry : Arrival.Carry arrivals body) (hlimit : (body.length : Int) ≤ l.exchange.limit)
    (hreply : Packet.ofBody body = .ok (.message id reply))
    (hflush : (l.line.peer.flushed state).1 = none) :
    ∃ l', (send (.ofMessage m)).run l = (.ok (.message id reply), l') ∧
      l.Served frame (l.line.peer.flushed state).2 l' := by
  have hlistening := hl.listening
  have hhanding : l.handing? (.ofMessage m) = some {
      id, ticket := l.exchange.progress.size, packet := .message id m, frame
      accepted := (l.line.write frame).1.isNone } := by
    unfold handing? Request.ofMessage
    simp only [hlistening.healthy, hid, hencode]
  have htransmit := run_transmit_of_taken (l := l.enter id) hl.isOpen hwrite hflush
  -- the reader takes the reply before the flush
  have hentered : (l.enter id).Listening :=
    ⟨hlistening.running, hlistening.healthy, sound_enter hlistening.sound hid, hlistening.tidy,
      hlistening.unended, hlistening.short⟩
  obtain ⟨hexchange, hlistening', hread⟩ :=
    (hentered.took frame state).receive_carry hl.read hcarry hlimit hreply
  obtain ⟨inbox, hline⟩ := line_receive ((l.enter id).took frame state) arrivals
  generalize ((l.enter id).took frame state).receive arrivals = received at *
  obtain ⟨hanswered, hpending⟩ := take_enter hlistening.sound hid reply
  have hstanding : received.exchange.standing l.exchange.progress.size =
      .answered (.message id reply) := by
    rw [hexchange]
    exact hanswered
  have hrest : received.exchange.pending = l.exchange.pending := by
    rw [hexchange]
    exact hpending
  have hflushed : received.line.flush.2 = { l.line with
      inbox
      state := (l.line.peer.flushed state).2
      sent := l.line.sent.push frame
      flushes := received.line.flush.2.flushes } := by
    rw [(flush_eq _).2, hline]
    rfl
  refine ⟨{ received with line := received.line.flush.2 }, ?_, ?_⟩
  · unfold send
    rw [Step.run_bind, run_submit_of_handing hhanding, htransmit]
    exact run_await_of_answered hstanding
  · constructor
    · constructor
      · obtain ⟨hrunning, hhealthy, hsound, htidy, hunended, hshort⟩ := hlistening'
        rw [← inbox_flush] at htidy hunended hshort
        exact ⟨hrunning, hhealthy, hsound, htidy, hunended, hshort⟩
      · rw [inbox_flush]
        exact hread
      · rw [hflushed]
        exact hl.isOpen
      · show received.exchange.pending.length < _
        rw [hrest]
        exact hl.room
    · rw [hflushed]
    · rw [hflushed]
    · rw [hflushed]
    · exact hrest
    · show received.exchange.limit = _
      rw [hexchange, Exchange.limit_take]
      rfl

end Link

end Sftp
