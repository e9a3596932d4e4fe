import Sftp.Proofs.Link.Arrivals
import Sftp.Proofs.Link.Failure

/-!
# Links at rest

Between two operations nothing is left that could be read: a reader that runs has come to a frame that
is not complete, on a stream that has not ended.

* `Link.AtRest` — what holds of a link between two operations. `Link.atRest_rest` — letting the reader
  take what is there brings it about.
* **`Link.AtRest.perform`** — every operation keeps it, so **`Link.atRest_history`** — it holds after any
  operations.
-/

namespace Sftp

namespace Inbox

/-- Chunks that arrive have bytes. -/
theorem Tidy.foldl_add {inbox : Inbox} (h : inbox.Tidy) (arrivals : List Arrival) :
    (arrivals.foldl add inbox).Tidy := by
  cases hending : inbox.ending with
  | none => exact (foldl_add_of_none h hending arrivals).1
  | some e =>
    rw [foldl_add_of_some hending]
    exact h

end Inbox

namespace Link

variable {σ : Type} {l l' : Link σ}

/-- A link between two operations. -/
structure AtRest (l : Link σ) : Prop where
  /-- Unless the reader has stopped, no chunk is without bytes. -/
  tidy : l.exchange.reader ≠ .stopped → l.line.inbox.Tidy
  /-- A reader that runs waits for the rest of a frame. -/
  waits : l.exchange.reader = .running →
    l.line.inbox.ending = none ∧ Short l.exchange.limit l.line.inbox.unread

/-- When the reader has stopped, it does not matter what is left. -/
theorem atRest_of_stopped (h : l.exchange.reader = .stopped) : l.AtRest := by
  constructor
  · intro hne
    exact absurd h hne
  · intro hrunning
    rw [h] at hrunning
    cases hrunning

/-- Nothing changes for the reader if its stream and its limit stay the same. -/
theorem AtRest.of_same (h : l.AtRest) (hinbox : l'.line.inbox = l.line.inbox)
    (hreader : l'.exchange.reader = l.exchange.reader)
    (hlimit : l'.exchange.limit = l.exchange.limit) : l'.AtRest := by
  constructor
  · rw [hinbox, hreader]
    exact h.tidy
  · rw [hinbox, hreader, hlimit]
    exact h.waits

/-- **A reader that is let to takes everything that it can.** -/
theorem atRest_rest (h : l.exchange.reader ≠ .stopped → l.line.inbox.Tidy) : l.rest.AtRest := by
  by_cases hrunning : l.exchange.reader = .running
  · have hrest : l.rest = l.takeFrames := if_pos hrunning
    have htidy : l.line.inbox.Tidy := h (by rw [hrunning]; exact nofun)
    obtain ⟨packets, last, hframes⟩ := Frames.exists_of_bytes l.exchange.limit l.line.inbox.unread
    have hstop : ∀ message, Stops l.exchange.limit last l.line.inbox.ending message →
        l.rest.AtRest := by
      intro message hstops
      apply atRest_of_stopped
      rw [hrest, takeFrames_of_stops htidy rfl hframes hstops]
      rfl
    rcases hframes.last_cases with ⟨m, hflaw⟩ | hshort
    · exact hstop _ (.flawed hflaw)
    · cases hending : l.line.inbox.ending with
      | some e => exact hstop _ (.ended hshort hending)
      | none =>
        obtain ⟨hexchange, htidy', hending', hlast⟩ :=
          takeFrames_of_short htidy hending rfl hframes hshort
        rw [hrest]
        refine ⟨fun _ => htidy', fun _ => ⟨hending', ?_⟩⟩
        rw [hlast, hexchange, Exchange.limit_takeAll]
        exact hshort
  · have hrest : l.rest = l := if_neg hrunning
    rw [hrest]
    exact ⟨h, fun hr => absurd hr hrunning⟩

/-- What arrives is taken. -/
theorem AtRest.receive (h : l.AtRest) (arrivals : List Arrival) : (l.receive arrivals).AtRest := by
  apply atRest_rest
  intro hreader
  exact (h.tidy hreader).foldl_add arrivals

/-- A write brings no chunk without bytes. -/
theorem tidy_write {line : Line σ} (h : line.inbox.Tidy) (bytes : Bytes) :
    (line.write bytes).2.inbox.Tidy := by
  unfold Line.write
  by_cases hclosed : line.isClosed
  · rw [if_pos hclosed]
    exact h
  · rw [if_neg hclosed]
    rcases line.peer.write bytes line.state with ⟨f | arrivals, state⟩
    · exact h
    · exact h.foldl_add arrivals

/-- A flush reads nothing. -/
theorem inbox_flush (line : Line σ) : line.flush.2.inbox = line.inbox := by
  unfold Line.flush
  cases line.peer.flush with
  | none => rfl
  | some step => rfl

/-- Handing a frame over leaves unread what the reader leaves after the write. -/
theorem inbox_transmit (bytes : Bytes) (l : Link σ) :
    ((transmit bytes).run l).2.line.inbox = (l.wrote bytes).rest.line.inbox := by
  rw [run_transmit]
  simp only
  split
  · rfl
  · split
    · exact inbox_flush _
    · exact inbox_flush _

/-- Handing a frame over takes what arrives in answer. -/
theorem AtRest.transmit (h : l.AtRest) (bytes : Bytes) :
    ((transmit bytes).run l).2.AtRest := by
  have hwrote : (l.wrote bytes).rest.AtRest :=
    atRest_rest fun hreader => tidy_write (h.tidy hreader) bytes
  have hexchange := exchange_transmit bytes l
  exact hwrote.of_same (inbox_transmit bytes l) (congrArg Exchange.reader hexchange)
    (congrArg Exchange.limit hexchange)

/-- The aftermath of a fault does not concern the reader. -/
theorem reader_afterFault (x : Exchange) (id : Int) (f : Fault) :
    (x.afterFault id f).reader = x.reader ∧ (x.afterFault id f).limit = x.limit := by
  unfold Exchange.afterFault
  split
  · exact ⟨rfl, rfl⟩
  · split
    · exact ⟨rfl, rfl⟩
    · exact ⟨rfl, rfl⟩

/-- A submission takes what arrives in answer. -/
theorem AtRest.submit (h : l.AtRest) (r : Request) : ((submit r).run l).2.AtRest := by
  have hsubmitted := submitted r l
  generalize ((Link.submit r).run l).1 = result at hsubmitted
  generalize ((Link.submit r).run l).2 = l' at hsubmitted ⊢
  have henter : ∀ id, (l.enter id).AtRest := fun id => h.of_same rfl rfl rfl
  cases hsubmitted with
  | refused _ => exact h
  | exhausted _ _ => exact h.of_same rfl rfl rfl
  | unmade _ _ _ _ => exact h.of_same rfl rfl rfl
  | hungUp _ _ _ => exact h.of_same rfl rfl rfl
  | @sent g _ _ => exact (henter g.id).transmit g.frame
  | @faulted g f _ _ _ _ hexchange hline =>
    obtain ⟨hreader, hlimit⟩ :=
      reader_afterFault ((Link.transmit g.frame).run (l.enter g.id)).2.exchange g.id f
    rw [← hexchange] at hreader hlimit
    exact ((henter g.id).transmit g.frame).of_same (congrArg Line.inbox hline) hreader hlimit

/-- Waiting takes what arrives. -/
theorem AtRest.await (h : l.AtRest) (t : Ticket) : ((await t).run l).2.AtRest := by
  rw [run_await]
  split
  · exact h.receive _
  · exact h

/-- Giving up does not concern the reader. -/
theorem AtRest.abandon (h : l.AtRest) {t : Ticket}
    (hexchange : l'.exchange = (l.exchange.abandon t).2) (hline : l'.line = l.line) :
    l'.AtRest := by
  obtain ⟨heq, -⟩ := Exchange.abandon_eq l.exchange t
  rw [heq] at hexchange
  refine h.of_same (congrArg Line.inbox hline) ?_ ?_
  · rw [hexchange]
  · rw [hexchange]

/-- **Every operation leaves the link at rest.** -/
theorem AtRest.perform (h : l.AtRest) (op : Op σ) : (op.perform l).AtRest := by
  cases op with
  | start =>
    show l.start.AtRest
    unfold start
    by_cases hidle : l.exchange.reader = .idle
    · rw [if_pos hidle]
      have htidy : l.line.inbox.Tidy := h.tidy (by rw [hidle]; exact nofun)
      exact atRest_rest fun _ => htidy
    · rw [if_neg hidle]
      exact h
  | nextId =>
    show (nextId.run l).2.AtRest
    rw [run_nextId]
    exact h.of_same rfl rfl rfl
  | moveCounter n => exact h.of_same rfl rfl rfl
  | submit r => exact h.submit r
  | await t => exact h.await t
  | send r =>
    show ((send r).run l).2.AtRest
    have hsubmit := h.submit r
    rw [run_send]
    generalize (Link.submit r).run l = outcome at hsubmit ⊢
    rcases outcome with ⟨f | t, l'⟩
    · exact hsubmit
    · exact hsubmit.await t
  | poll r =>
    show ((poll r).run l).2.AtRest
    have hsubmit := h.submit r
    rw [run_poll]
    generalize (Link.submit r).run l = outcome at hsubmit ⊢
    rcases outcome with ⟨f | t, l'⟩
    · exact hsubmit
    · exact hsubmit.abandon (t := t) rfl rfl
  | abandon t => exact h.abandon (t := t) rfl rfl
  | close => exact h.of_same rfl rfl rfl
  | closeLine =>
    show (closeLine.run l).2.AtRest
    rw [run_closeLine]
    exact atRest_rest fun _ c hc => absurd hc List.not_mem_nil
  | receive arrivals => exact h.receive arrivals
  | change state => exact h.of_same rfl rfl rfl

/-- **After any operations the link is at rest.** -/
theorem atRest_history (hl : l.Fresh) (htidy : l.line.inbox.Tidy) (ops : List (Op σ)) :
    (l.history ops).link.AtRest := by
  have hstart : (History.mk l [] []).link.AtRest := by
    refine ⟨fun _ => htidy, fun hrunning => ?_⟩
    cases hl.reader.symm.trans hrunning
  exact History.run_induction (motive := fun h => h.link.AtRest) hstart
    (fun _ op hrest => hrest.perform op) ops

end Link

end Sftp
