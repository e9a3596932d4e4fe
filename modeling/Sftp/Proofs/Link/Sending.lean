import Sftp.Proofs.Link.Answer
import Sftp.Proofs.Link.FailedWrite
import Sftp.Proofs.OpenHandle.Requests

/-!
# Requests over any connection

A caller that sends a message and waits is told how that ends, whatever the far end does: the frame may
not exist, the stream may break, the reply may be bad, or late, or never come.

* `Peer.FailsOnly` — the far end refuses writes and flushes only with faults of a sort.
* `Packet.HasBody` — a packet that was read from a body of a frame.
* `Link.Usable` — a link between two requests of one caller; it may have failed.
* `Link.Sending` — how sending a message ends; **`Link.Usable.sending`** — it ends in one of these ways.
* **`Link.Usable.send`** — afterwards the link is as usable as before.
-/

namespace Sftp

/-! ## Far ends -/

/-- The far end refuses writes and flushes only with faults of a sort. -/
structure Peer.FailsOnly {σ : Type} (peer : Peer σ) (sort : Fault → Prop) : Prop where
  /-- A write that fails. -/
  write : ∀ bytes state f, (peer.write bytes state).1 = .error f → sort f
  /-- A flush that fails. -/
  flush : ∀ state f, (peer.flushed state).1 = some f → sort f

/-! ## Packets that were read -/

/-- A packet that was read from the body of a frame, whose length was announced. -/
def Packet.HasBody (p : Packet) : Prop :=
  ∃ body, Packet.ofBody body = .ok p ∧ body.length < Width.word.limit

/-- A packet with an id is a message. -/
theorem Packet.eq_message_of_id {p : Packet} {id : Int} (h : p.id? = some id) :
    ∃ m, p = .message id m := by
  cases p with
  | message id' m =>
    obtain rfl : id' = id := Option.some.inj h
    exact ⟨m, rfl⟩
  | _ => cases h

/-- Every packet in a run of frames was read from a body. -/
theorem Frames.hasBody {limit : Int} {bytes last : Bytes} {packets : List Packet}
    (h : Frames limit bytes packets last) {p : Packet} (hp : p ∈ packets) : p.HasBody := by
  induction h with
  | done _ => cases hp
  | next hbegins hbody _ ih =>
    rcases List.mem_cons.mp hp with rfl | hp
    · exact ⟨_, hbody, hbegins.2.2.1⟩
    · exact ih hp

namespace Link

variable {σ : Type} {l l' : Link σ}

/-- What the reader takes was read from bodies. -/
theorem hasBody_of_mem_restPackets (h : l.exchange.reader = .running → l.line.inbox.Tidy) {p : Packet}
    (hp : p ∈ l.restPackets) : p.HasBody := by
  unfold restPackets at hp
  split at hp
  · rename_i hrunning
    obtain ⟨last, hframes⟩ : ∃ last, Frames l.exchange.limit l.line.inbox.unread _ last :=
      Inbox.frames_packets (h hrunning)
    exact hframes.hasBody hp
  · cases hp

/-- A reader that is let to settles every request, and perhaps the connection fails. -/
theorem exists_settles_rest (hsound : l.exchange.Sound) (hhealthy : l.exchange.failure = none) :
    ∃ fatal, l.exchange.Settles l.restPackets fatal l.rest.exchange ∧ l.rest.exchange.Sound := by
  rcases exchange_rest l with hrest | ⟨message, hrest⟩
  · exact ⟨none, hrest ▸ ⟨hsound.settles_takeAll hhealthy _, hsound.takeAll _⟩⟩
  · exact ⟨some message, hrest ▸ ⟨hsound.settles_stop hhealthy _ _, Exchange.Sound.fail _⟩⟩

end Link

/-! ## Between two requests -/

/-- A reader that was started stays so. -/
theorem Exchange.reader_ne_idle_of_moves {lossy : Prop} {x y : Exchange} {events : List Event}
    (h : Moves lossy x events y) (hx : x.reader ≠ .idle) : y.reader ≠ .idle := by
  induction h with
  | none => exact hx
  | step _ hmove ih =>
    cases hmove with
    | listen _ => exact nofun
    | take p =>
      rw [reader_take]
      exact ih
    | stop message => exact nofun
    | abandon t =>
      rw [(abandon_eq _ t).1]
      exact ih
    | _ => exact ih

namespace Link

variable {σ : Type} {l l' : Link σ}

/-- A link between two requests of one caller. Others may have requests under way, and the connection may
have failed. -/
structure Usable (l : Link σ) : Prop where
  /-- Nothing is left that could be read. -/
  atRest : l.AtRest
  /-- Every request is accounted for. -/
  accounted : ∃ events, l.exchange.Accounted events
  /-- The reader was started. -/
  started : l.exchange.reader ≠ .idle
  /-- Unless the connection has failed, not all ids are taken. -/
  room : l.exchange.failure = none → l.exchange.pending.length < Exchange.idCount.toNat

/-- Unless the connection has failed, the reader waits for replies. -/
theorem Usable.listening (hl : l.Usable) (hhealthy : l.exchange.failure = none) : l.Listening := by
  obtain ⟨events, haccounted⟩ := hl.accounted
  have hrunning : l.exchange.reader = .running := by
    cases hreader : l.exchange.reader with
    | idle => exact absurd hreader hl.started
    | running => rfl
    | stopped => exact absurd hhealthy (haccounted.stopped hreader)
  obtain ⟨hunended, hshort⟩ := hl.atRest.waits hrunning
  refine ⟨hrunning, hhealthy, haccounted.sound, ?_, hunended, hshort⟩
  exact hl.atRest.tidy (by rw [hrunning]; exact nofun)

/-- How sending a message ends, on a stream that fails only with faults of a sort. -/
inductive Sending (sort : Fault → Prop) (m : Message) (l : Link σ) : Except Fault Packet → Link σ → Prop
  /-- The frame has gone out, and a reply with its id has come. -/
  | answered {id : Int} {frame : Bytes} {reply : Message} {l' : Link σ}
      (hencode : (Packet.message id m).encode = .ok frame)
      (hsent : l'.line.sent.toList = l.line.sent.toList ++ [frame])
      (hbody : (Packet.message id reply).HasBody) :
      Sending sort m l (.ok (.message id reply)) l'
  /-- There is no frame. -/
  | unmade {id : Int} {cause : EncodeFault} {l' : Link σ} (hid : Width.word.Fits id)
      (hencode : (Packet.message id m).encode = .error cause) (hline : l'.line = l.line) :
      Sending sort m l (.error (.unencodable cause)) l'
  /-- The connection has failed. -/
  | lost {message : Text} {l' : Link σ} (hfailed : l'.exchange.failure ≠ none) :
      Sending sort m l (.error (.lost message)) l'
  /-- The stream says that the connection is lost. -/
  | deserted {f : Fault} {l' : Link σ} (hlost : f.isLost = true) (hsort : sort f) :
      Sending sort m l (.error f) l'

/-- Where the connection has failed, no request is under way. -/
theorem Sending.of_failed {sort : Fault → Prop} {m : Message} {message : Text}
    (hfailed : l'.exchange.failure ≠ none) :
    Sending sort m l (.error (.lost message)) l' ∧
      (l'.exchange.failure = none → l'.exchange.pending.length ≤ l.exchange.pending.length) :=
  ⟨.lost hfailed, fun hnone => absurd hnone hfailed⟩

/-! ## Handing over -/

/-- A frame that has gone out was taken. -/
theorem taken_of_transmit {frame : Bytes} (h : ((transmit frame).run l).1 = .ok ⟨⟩) :
    (l.line.write frame).1 = none := by
  cases hwrite : (l.line.write frame).1 with
  | none => rfl
  | some g =>
    rw [run_transmit] at h
    simp only at h
    rw [hwrite] at h
    cases h

/-- The fault of a stream that breaks is one of its faults, or that of a closed stream. -/
theorem sort_of_transmit {sort : Fault → Prop} (hpeer : l.line.peer.FailsOnly sort) {frame : Bytes}
    {f : Fault} (h : ((transmit frame).run l).1 = .error f) : sort f ∨ f = .closedStream := by
  rcases fault_of_transmit h with rfl | ⟨s, hwrite⟩ | ⟨step, s, hstep, hflush⟩
  · exact .inr rfl
  · exact .inl (hpeer.write frame s f hwrite)
  · refine .inl (hpeer.flush s f ?_)
    unfold Peer.flushed
    rw [hstep]
    exact hflush

/-- While a frame is handed over, packets come that were read from bodies, and perhaps the connection
fails. -/
theorem Listening.exists_settles_transmit (hl : l.Listening) {id : Int}
    (hid : l.exchange.nextId.1 = some id) (frame : Bytes) :
    ∃ packets fatal, (∀ p ∈ packets, p.HasBody) ∧
      (l.enter id).exchange.Settles packets fatal
        ((transmit frame).run (l.enter id)).2.exchange ∧
      ((transmit frame).run (l.enter id)).2.exchange.Sound := by
  have hsound : ((l.enter id).wrote frame).exchange.Sound := sound_enter hl.sound hid
  have htidy : ((l.enter id).wrote frame).line.inbox.Tidy := tidy_write hl.tidy frame
  obtain ⟨fatal, hsettles⟩ := exists_settles_rest hsound hl.healthy
  rw [exchange_transmit]
  exact ⟨((l.enter id).wrote frame).restPackets, fatal,
    fun p hp => hasBody_of_mem_restPackets (fun _ => htidy) hp, hsettles⟩

section settled

variable {packets : List Packet} {fatal : Option Text} {x : Exchange} {id : Int}
  (hsettles : (l.enter id).exchange.Settles packets fatal x)

include hsettles

/-- A request that was answered is off the table. -/
theorem pending_of_answered {p : Packet} (hfind : (packets.find? fun p => p.id? = some id) = some p)
    (hhealthy : x.failure = none) : x.pending.length ≤ l.exchange.pending.length := by
  have hfatal : fatal.isSome = false := by
    rw [← hsettles.failure, hhealthy]
    rfl
  have hid : p.id? = some id := of_decide_eq_true
    (List.find?_some (p := fun p : Packet => p.id? = some id) hfind)
  rw [hsettles.pending, hfatal, if_neg Bool.false_ne_true]
  show ((l.exchange.pending ++ [(id, l.exchange.progress.size)]).filter _).length ≤ _
  rw [List.filter_append, List.filter_cons_of_neg, List.filter_nil, List.append_nil]
  · exact List.length_filter_le _ _
  · intro hnone
    exact of_decide_eq_true hnone p (List.mem_of_find?_eq_some hfind) hid

/-- So is one that was taken back. -/
theorem pending_of_withdrawn (hid : l.exchange.nextId.1 = some id) :
    (x.withdraw id).pending.length ≤ l.exchange.pending.length := by
  have hsub : x.pending.Sublist (l.enter id).exchange.pending := by
    rw [hsettles.pending]
    split
    · exact List.nil_sublist _
    · exact List.filter_sublist
  have hfree : ∀ e ∈ l.exchange.pending, e.1 ≠ id := Exchange.nextId_free hid
  have hback := Exchange.pending_withdraw_register (x := l.exchange.nextId.2) hfree
  have hle := (hsub.filter fun e => e.1 ≠ id).length_le
  exact Nat.le_trans hle (Nat.le_of_eq (congrArg List.length hback))

end settled

/-! ## Waiting -/

/-- A request that was lost is told so. -/
theorem run_await_of_lost {t : Ticket} {message : Text} (h : l.exchange.standing t = .lost message) :
    (await t).run l = (.error (.lost message), l) := by
  have hnot : ¬ l.exchange.standing t = .waiting := by
    rw [h]
    exact nofun
  unfold await
  rw [Step.run_bind, Step.run_modify, if_neg hnot]
  simp only
  rw [Step.run_bind, Step.run_get]
  simp only
  rw [h]
  rfl

/-- Where no reply comes, the stream is over and the connection fails. -/
theorem Listening.run_await_of_waiting (hl : l.Listening) {id : Int} {t : Ticket}
    (hmem : (id, t) ∈ l.exchange.pending) (hwaiting : l.exchange.standing t = .waiting) :
    ∃ message l', (await t).run l = (.error (.lost message), l') ∧ l'.exchange.failure ≠ none := by
  obtain ⟨htidy, hunread, hending⟩ :=
    Inbox.foldl_add_of_none hl.tidy hl.unended [.ending .closed]
  rw [Arrival.bytes, List.append_nil] at hunread
  have hexchange := takeFrames_of_stops
    (l := { l with line := l.line.receive [.ending .closed] }) htidy hunread
    (.of_short hl.short) (.ended hl.short hending)
  rw [← receive_eq_takeFrames hl, Exchange.takeAll_nil] at hexchange
  have hlost := hl.sound.standing_stop Ending.closed.farewell t
  rw [if_pos (List.mem_map.mpr ⟨(id, t), hmem, rfl⟩), hwaiting, Progress.settled_waiting,
    ← hexchange] at hlost
  refine ⟨l.exchange.failure.getD Ending.closed.farewell, l.receive [.ending .closed], ?_, ?_⟩
  case refine_2 =>
    rw [hexchange]
    intro hnone
    cases hnone
  unfold await
  rw [Step.run_bind, Step.run_modify, if_pos hwaiting]
  simp only
  rw [Step.run_bind, Step.run_get]
  simp only
  rw [hlost]
  rfl

/-! ## Sending -/

/-- A submission that faults is all of a sending. -/
theorem run_send_of_error {r : Request} {f : Fault} (h : (submit r).run l = (.error f, l')) :
    (send r).run l = (.error f, l') := by
  unfold send
  rw [Step.run_bind, h]

/-- Otherwise the reply is waited for. -/
theorem run_send_of_ok {r : Request} {t : Ticket} (h : (submit r).run l = (.ok t, l')) :
    (send r).run l = (await t).run l' := by
  unfold send
  rw [Step.run_bind, h]

/-- A new request stands in the table and waits. -/
theorem waiting_enter (l : Link σ) (id : Int) :
    (id, l.exchange.progress.size) ∈ (l.enter id).exchange.pending ∧
      (l.enter id).exchange.standing l.exchange.progress.size = .waiting := by
  refine ⟨List.mem_append_right _ List.mem_cons_self, ?_⟩
  exact (Exchange.standing_register _ _ _).trans (Exchange.standing_of_le (Nat.le_refl _))

section sending

variable {sort : Fault → Prop} {m : Message} (hpeer : l.line.peer.FailsOnly sort)
  (hsort : ∀ f, sort f → (f.isSystem || f.isInvalid) = true)

include hpeer hsort

/-- How sending ends when the stream breaks under the frame. -/
theorem Listening.sending_of_break (hl : l.Listening) {h : Handing}
    (hhanding : l.handing? (.ofMessage m) = some h) {f : Fault} {t : Link σ}
    (htransmit : (transmit h.frame).run (l.enter h.id) = (.error f, t)) :
    Sending sort m l ((send (.ofMessage m)).run l).1 ((send (.ofMessage m)).run l).2 ∧
      (((send (.ofMessage m)).run l).2.exchange.failure = none →
        ((send (.ofMessage m)).run l).2.exchange.pending.length ≤ l.exchange.pending.length) := by
  obtain ⟨-, hid, -⟩ := handing?_eq_some hhanding
  obtain ⟨packets, fatal, -, hsettles, -⟩ := hl.exists_settles_transmit hid h.frame
  have hrun := run_submit_of_handing hhanding
  obtain ⟨-, hexchange, -⟩ := run_writeFailed h.id f t
  rw [htransmit] at hrun hsettles
  simp only at hrun hsettles
  rw [run_send_of_error hrun]
  generalize ((writeFailed h.id f).run t).2 = l' at hexchange ⊢
  by_cases hfatal : f.IsFatal
  · obtain ⟨hfail, hfault⟩ := t.exchange.afterFault_of_isFatal h.id hfatal
    rw [hfault]
    refine Sending.of_failed ?_
    rw [hexchange, hfail]
    exact nofun
  · obtain ⟨hafter, hfault⟩ := t.exchange.afterFault_of_not_isFatal h.id hfatal
    rcases sort_of_transmit (l := l.enter h.id) hpeer (congrArg Prod.fst htransmit) with hf | rfl
    · have hlost : f.isLost = true := by
        by_contra hnot
        exact hfatal ⟨Bool.eq_false_iff.mpr hnot, hsort f hf⟩
      rw [hfault]
      refine ⟨.deserted hlost hf, fun _ => ?_⟩
      rw [hexchange, hafter, if_pos hlost]
      exact pending_of_withdrawn hsettles hid
    · exact absurd (by decide) hfatal

omit hpeer hsort in
/-- How it ends when the frame has gone out. -/
theorem Listening.sending_of_transmit (hl : l.Listening) (hrest : l.AtRest) {h : Handing}
    (hhanding : l.handing? (.ofMessage m) = some h) {t : Link σ}
    (htransmit : (transmit h.frame).run (l.enter h.id) = (.ok ⟨⟩, t)) :
    Sending sort m l ((send (.ofMessage m)).run l).1 ((send (.ofMessage m)).run l).2 ∧
      (((send (.ofMessage m)).run l).2.exchange.failure = none →
        ((send (.ofMessage m)).run l).2.exchange.pending.length ≤ l.exchange.pending.length) := by
  obtain ⟨-, hid, hticket, hencode, -⟩ := handing?_eq_some hhanding
  rw [packet_of_handing hhanding] at hencode
  obtain ⟨packets, fatal, hbodies, hsettles, hsound⟩ := hl.exists_settles_transmit hid h.frame
  obtain ⟨hmem, hwaiting⟩ := waiting_enter l h.id
  have hsent := (line_transmit h.frame (l.enter h.id)).2
  have hrun := run_submit_of_handing hhanding
  have hentered : (l.enter h.id).AtRest := hrest.of_same rfl rfl rfl
  have hresting : ((transmit h.frame).run (l.enter h.id)).2.AtRest := hentered.transmit h.frame
  have htaken := taken_of_transmit (congrArg Prod.fst htransmit)
  rw [htransmit] at hrun hsettles hsound hsent hresting
  simp only at hrun hsettles hsound hsent hresting
  rw [htaken] at hsent
  rw [run_send_of_ok hrun, hticket]
  cases hfind : packets.find? fun p => p.id? = some h.id with
  | some p =>
    have hanswered := hsettles.answered _ _ p hmem hwaiting hfind
    have hpid : p.id? = some h.id := of_decide_eq_true
      (List.find?_some (p := fun p : Packet => p.id? = some h.id) hfind)
    obtain ⟨reply, rfl⟩ := Packet.eq_message_of_id hpid
    rw [run_await_of_answered hanswered]
    exact ⟨.answered hencode hsent (hbodies _ (List.mem_of_find?_eq_some hfind)),
      pending_of_answered hsettles hfind⟩
  | none =>
    have hunanswered := hsettles.unanswered _ _ hmem hwaiting hfind
    cases fatal with
    | some message =>
      rw [run_await_of_lost hunanswered]
      refine Sending.of_failed ?_
      rw [hsettles.failure]
      exact nofun
    | none =>
      -- the request is still under way, and nothing more comes
      have hrunning : t.exchange.reader = .running := hsettles.reader.trans hl.running
      obtain ⟨hunended, hshort⟩ := hresting.waits hrunning
      have hlistening : t.Listening := ⟨hrunning, hsettles.failure, hsound,
        hresting.tidy (by rw [hrunning]; exact nofun), hunended, hshort⟩
      have hstays : (h.id, l.exchange.progress.size) ∈ t.exchange.pending := by
        rw [hsettles.pending, Option.isSome_none, if_neg Bool.false_ne_true, List.mem_filter]
        refine ⟨hmem, decide_eq_true fun p hp hpid => ?_⟩
        exact List.find?_eq_none.mp hfind p hp (decide_eq_true hpid)
      obtain ⟨message, l', hawait, hfailed⟩ := hlistening.run_await_of_waiting hstays hunanswered
      rw [hawait]
      exact Sending.of_failed hfailed

/-- How sending ends when the frame was handed over. -/
theorem Listening.sending_of_handing (hl : l.Listening) (hrest : l.AtRest) {h : Handing}
    (hhanding : l.handing? (.ofMessage m) = some h) :
    Sending sort m l ((send (.ofMessage m)).run l).1 ((send (.ofMessage m)).run l).2 ∧
      (((send (.ofMessage m)).run l).2.exchange.failure = none →
        ((send (.ofMessage m)).run l).2.exchange.pending.length ≤ l.exchange.pending.length) := by
  rcases htransmit : (transmit h.frame).run (l.enter h.id) with ⟨f | u, t⟩
  · exact hl.sending_of_break hpeer hsort hhanding htransmit
  · exact hl.sending_of_transmit hrest hhanding htransmit

/-- **Sending ends in one of these ways**, and leaves no request of its own under way. -/
theorem Usable.sending (hl : l.Usable) (m : Message) :
    Sending sort m l ((send (.ofMessage m)).run l).1 ((send (.ofMessage m)).run l).2 ∧
      (((send (.ofMessage m)).run l).2.exchange.failure = none →
        ((send (.ofMessage m)).run l).2.exchange.pending.length ≤ l.exchange.pending.length) := by
  cases hfailure : l.exchange.failure with
  | some message =>
    rw [run_send_of_error (run_submit_of_failed hfailure _)]
    refine Sending.of_failed ?_
    rw [hfailure]
    exact nofun
  | none =>
    obtain ⟨id, hid⟩ := Exchange.exists_nextId (hl.room hfailure)
    have hframe : Request.frame (.ofMessage m) id = (Packet.message id m).encode.mapError .unencodable :=
      frame_eq (.ofMessage m) id
    cases hencode : (Packet.message id m).encode with
    | ok frame =>
      rw [hencode] at hframe
      obtain ⟨h, hhanding, -⟩ := exists_handing hfailure hid rfl hframe
      exact (hl.listening hfailure).sending_of_handing hpeer hsort hl.atRest hhanding
    | error cause =>
      rw [hencode] at hframe
      rw [run_send_of_error (run_submit_of_unmade hfailure hid hframe rfl)]
      have hback := congrArg List.length (pending_withdraw_enter hid)
      exact ⟨.unmade (Exchange.nextId_range hid) hencode rfl, fun _ => Nat.le_of_eq hback⟩

/-- **After a request, a link is as usable as before**, whatever came of it. -/
theorem Usable.send (hl : l.Usable) (m : Message) :
    ((send (.ofMessage m)).run l).2.Usable := by
  have hacts := acts_send (.ofMessage m) l
  obtain ⟨events, haccounted⟩ := hl.accounted
  obtain ⟨-, hpending⟩ := hl.sending hpeer hsort m
  refine ⟨hl.atRest.perform (.send (.ofMessage m)), ⟨_, haccounted.moves hacts.moves⟩,
    Exchange.reader_ne_idle_of_moves hacts.moves hl.started, fun hhealthy => ?_⟩
  refine Nat.lt_of_le_of_lt (hpending hhealthy) (hl.room ?_)
  -- a failure would have stayed
  cases hfailure : l.exchange.failure with
  | none => rfl
  | some message =>
    obtain ⟨hstays, -⟩ := Exchange.failure_moves hfailure hacts.moves
    rw [hhealthy] at hstays
    cases hstays

end sending

end Link

end Sftp
