import Sftp.Proofs.Link.Failure
import Sftp.Proofs.Session.Handshake

/-!
# The life of a session on its stream

A session that is opened has sent the greeting over an open stream, and one that is not has closed it.
While it lives the stream stays open, whatever is asked over it. When it is closed every request that
waits is lost, and the stream is closed once, also if that faults.

* `Link.Opening` — how opening a session ends; **`Link.opening`** — it ends in one of these ways.
* `Op.closes_perform`, `Link.closes_history` — only closing the stream closes it.
* `Link.run_closeSession`, `Link.result_closeSession`, `Link.line_closeSession` — what closing a session
  does, how it ends, and what becomes of the stream.
* `Link.Ended`, **`Link.ended_closeSession`** — what it leaves of the exchange.
-/

namespace Sftp

namespace Link

variable {σ : Type} {l : Link σ}

/-! ## Opening -/

/-- Only an open stream takes a frame. -/
theorem closes_of_write {line : Line σ} {bytes : Bytes} (h : (line.write bytes).1 = none) :
    line.closes = 0 := by
  by_contra hne
  have hclosed : line.isClosed = true := decide_eq_true (Nat.pos_of_ne_zero hne)
  unfold Line.write at h
  rw [if_pos hclosed] at h
  cases h

/-- The greeting of a handshake that succeeds was taken. -/
theorem written_of_handshake (hidle : l.exchange.reader ≠ .running) {limit : Int}
    {agreed : Int × Extensions} (hok : ((handshake limit).run l).1 = .ok agreed) :
    (l.line.write greetingFrame).1 = none := by
  cases hwrite : (l.line.write greetingFrame).1 with
  | none => rfl
  | some f =>
    have hbreaks : l.Breaks greetingFrame f := .write hwrite
    rw [(hbreaks.run_handshake hidle limit).1] at hok
    cases hok

/-- How opening a session ends, and what it leaves of the link. -/
inductive Opening (l : Link σ) : Except Fault Session → Link σ → Prop
  /-- The stream was open and stays so, the greeting has gone out, and the exchange begins. -/
  | opened {session : Session} {l' : Link σ} {events : List Event} (hopen : session.closed = false)
      (hfirst : l.line.closes = 0) (hcloses : l'.line.closes = 0)
      (hsent : l'.line.sent.toList = l.line.sent.toList ++ [greetingFrame])
      (hkept : (History.mk l' events []).Kept) : Opening l (.ok session) l'
  /-- The stream is closed, perhaps after it has taken the greeting, and no reader was started. -/
  | failed {f : Fault} {l' : Link σ} (hidle : l'.exchange.reader = .idle)
      (hcloses : l'.line.closes = l.line.closes + 1)
      (hsent : l'.line.sent.toList = l.line.sent.toList ++
        if (l.line.write greetingFrame).1.isNone then [greetingFrame] else []) :
      Opening l (.error f) l'

/-- The exchange of a session that has just been opened owes nothing yet. -/
theorem kept_start (limit : Int) (t : Link σ) (level : Level) (message : Text) :
    ∃ events, (History.mk
      (({ t with exchange := { limit } } : Link σ).start.record level message) events []).Kept := by
  have hfresh : ({ t with exchange := { limit } } : Link σ).Fresh := ⟨rfl, rfl, rfl, rfl⟩
  obtain ⟨haccounted, hissued⟩ := (History.kept_of_fresh hfresh).step .start
  -- the record in the journal is all that the history does not have
  exact ⟨_, haccounted, hissued⟩

/-- **To open a session on a stream without a reader is to succeed or to close the stream.** -/
theorem opening (hidle : l.exchange.reader = .idle) (limit : Int) :
    l.Opening ((openSession limit).run l).1 ((openSession limit).run l).2 := by
  have hstill : l.exchange.reader ≠ .running := by
    rw [hidle]
    exact nofun
  obtain ⟨hexchange, hcloses, -, hsent⟩ := handshake_keeps hstill limit
  cases hresult : ((handshake limit).run l).1 with
  | ok agreed =>
    obtain ⟨version, extensions⟩ := agreed
    have hwritten := written_of_handshake hstill hresult
    have hfirst := closes_of_write hwritten
    obtain ⟨hok, hafter⟩ := openSession_of_ok hresult
    obtain ⟨inbox, hline⟩ := line_openSession_of_ok hresult
    obtain ⟨events, hkept⟩ := kept_start limit ((handshake limit).run l).2 .info
      s!"SFTP session established (version {version})"
    rw [← hafter] at hkept
    rw [hok]
    refine .opened rfl hfirst ?_ ?_ hkept
    · rw [hline]
      exact hcloses.trans hfirst
    · rw [hline]
      rw [hwritten] at hsent
      exact hsent
  | error f =>
    obtain ⟨hfault, hafter⟩ := openSession_of_error hstill hresult
    rw [hfault, hafter]
    refine .failed ?_ (congrArg Nat.succ hcloses) hsent
    show ((handshake limit).run l).2.exchange.reader = .idle
    rw [hexchange]
    exact hidle

/-! ## While the session lives -/

/-- What arrives closes nothing. -/
theorem closes_rest (l : Link σ) : l.rest.line.closes = l.line.closes := by
  obtain ⟨inbox, hline⟩ := line_rest l
  rw [hline]

/-- To submit a request closes nothing. -/
theorem closes_submit (r : Request) (l : Link σ) :
    ((submit r).run l).2.line.closes = l.line.closes := by
  have hsubmitted := submitted r l
  generalize ((submit r).run l).1 = result at hsubmitted
  generalize ((submit r).run l).2 = l' at hsubmitted ⊢
  cases hsubmitted with
  | refused _ => rfl
  | exhausted _ _ => rfl
  | unmade _ _ _ _ => rfl
  | hungUp _ _ _ => rfl
  | sent _ _ => exact closes_transmit _ _
  | faulted _ _ _ hline =>
    rw [hline]
    exact closes_transmit _ _

/-- To wait for a reply closes nothing on this side. -/
theorem closes_await (t : Ticket) (l : Link σ) :
    ((await t).run l).2.line.closes = l.line.closes := by
  rw [run_await]
  split
  · exact closes_rest _
  · rfl

end Link

/-- **Only closing the stream closes it.** -/
theorem Op.closes_perform {σ : Type} {op : Op σ} (h : op ≠ .closeLine) (l : Link σ) :
    (op.perform l).line.closes = l.line.closes := by
  cases op with
  | start =>
    obtain ⟨inbox, hline⟩ := Link.line_start l
    show l.start.line.closes = _
    rw [hline]
  | nextId =>
    show (Link.nextId.run l).2.line.closes = _
    rw [Link.run_nextId]
  | moveCounter n => rfl
  | submit r => exact Link.closes_submit r l
  | await t => exact Link.closes_await t l
  | send r =>
    have hsubmit := Link.closes_submit r l
    show ((Link.send r).run l).2.line.closes = _
    rw [Link.run_send]
    generalize (Link.submit r).run l = outcome at hsubmit ⊢
    rcases outcome with ⟨f | t, l'⟩
    · exact hsubmit
    · exact (Link.closes_await t l').trans hsubmit
  | poll r =>
    have hsubmit := Link.closes_submit r l
    show ((Link.poll r).run l).2.line.closes = _
    rw [Link.run_poll]
    generalize (Link.submit r).run l = outcome at hsubmit ⊢
    rcases outcome with ⟨f | t, l'⟩
    · exact hsubmit
    · exact hsubmit
  | abandon t => rfl
  | close => rfl
  | closeLine => exact absurd rfl h
  | receive arrivals => exact Link.closes_rest (l.arrived arrivals)
  | change state => rfl

namespace Link

variable {σ : Type} {l : Link σ}

/-- What does not close the stream leaves it as open as it was. -/
theorem closes_history {ops : List (Op σ)} (h : .closeLine ∉ ops) (l : Link σ) :
    (l.history ops).link.line.closes = l.line.closes := by
  unfold history
  rw [History.link_run]
  show (ops.foldl (fun l op => op.perform l) l).line.closes = _
  induction ops generalizing l with
  | nil => rfl
  | cons op ops ih =>
    have hop : op ≠ .closeLine := fun heq => h (heq ▸ List.mem_cons_self)
    refine (ih (fun hmem => h (List.mem_cons_of_mem op hmem)) (op.perform l)).trans ?_
    exact Op.closes_perform hop l

/-! ## Closing -/

/-- To close a session is to end the exchange, to close the stream, and perhaps to record it. -/
theorem run_closeSession (l : Link σ) :
    ∃ journal, (closeSession.run l).2 = { l.close.cut.rest with journal } := by
  have hline := run_closeLine l.close
  unfold closeSession
  rw [Step.run_bind, Step.run_modify]
  simp only
  rw [Step.run_bind]
  generalize closeLine.run l.close = outcome at hline ⊢
  rcases outcome with ⟨f | u, t⟩
  · exact ⟨t.journal, by rw [← hline]⟩
  · exact ⟨_, by rw [← hline]; rfl⟩

/-- To close a session ends as the stream does. -/
theorem result_closeSession (l : Link σ) :
    (closeSession.run l).1 =
      match l.line.close.1 with
      | some f => .error f
      | none => .ok ⟨⟩ := by
  have hline : l.close.line = l.line := rfl
  unfold closeSession
  rw [Step.run_bind, Step.run_modify]
  dsimp only
  rw [Step.run_bind, closeLine_eq, hline]
  cases l.line.close.1 with
  | none => rfl
  | some f => rfl

/-- Closing a session closes the stream once more, and nothing goes out. -/
theorem line_closeSession (l : Link σ) :
    (closeSession.run l).2.line.closes = l.line.closes + 1 ∧
      (closeSession.run l).2.line.sent = l.line.sent := by
  obtain ⟨journal, hafter⟩ := run_closeSession l
  obtain ⟨inbox, hline⟩ := line_rest l.close.cut
  rw [hafter]
  show l.close.cut.rest.line.closes = _ ∧ l.close.cut.rest.line.sent = _
  rw [hline]
  exact ⟨rfl, rfl⟩

/-- Where nobody is in the table, the reader changes nobody's progress. -/
theorem standing_rest_of_pending_nil (h : l.exchange.pending = []) (t : Ticket) :
    l.rest.exchange.standing t = l.exchange.standing t := by
  have hsound := Exchange.sound_of_pending_nil h
  have htaken := Exchange.standing_takeAll_of_not_mem (t := t) hsound (by simp [h]) l.restPackets
  rcases exchange_rest l with hrest | ⟨message, hrest⟩
  · rw [hrest]
    exact htaken
  · rw [hrest, (hsound.takeAll l.restPackets).standing_stop, Exchange.pending_takeAll, h]
    exact htaken

/-- A link whose session was closed: the connection has failed, and every request that waited was told
so. -/
structure Ended (l l' : Link σ) (message : Text) : Prop where
  /-- The connection has failed. -/
  failure : l'.exchange.failure = some message
  /-- A request that waited is lost. -/
  lost : ∀ e ∈ l.exchange.pending, l.exchange.standing e.2 = .waiting →
    l'.exchange.standing e.2 = .lost message

/-- **To close a session ends every request**, whether or not the stream closes without a fault. -/
theorem ended_closeSession (hsound : l.exchange.Sound) :
    l.Ended (closeSession.run l).2 (l.exchange.failure.getD Exchange.closedMessage) := by
  obtain ⟨journal, hafter⟩ := run_closeSession l
  have hfailed : l.close.cut.exchange.failure =
      some (l.exchange.failure.getD Exchange.closedMessage) := rfl
  have hmoves : Exchange.Moves l.line.peer.Lossy l.close.cut.exchange _ _ := moves_rest l.close.cut
  rw [hafter]
  refine ⟨(Exchange.failure_moves hfailed hmoves).1, ?_⟩
  intro e he hwaiting
  refine (standing_rest_of_pending_nil (l := l.close.cut) rfl e.2).trans ?_
  refine (Exchange.standing_fail hsound _ _).trans ?_
  rw [if_pos (List.mem_map_of_mem he), hwaiting, Progress.settled_waiting]

end Link

end Sftp
