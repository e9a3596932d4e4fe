import Sftp.Proofs.Exchange.Comparison
import Sftp.Proofs.Link.History

/-!
# Two links side by side

Two links on the same stream whose exchanges tally go on to tally, as long as the same is done to both. A
far end may tell requests apart by what is written to it: it is only led to do the same in both if it sees the
same bytes, or if it does not look at them.

* `Peer.Blind` — a far end that does not look at what is written to it.
* **`Link.Tallies`** — two links whose exchanges tally, on the same stream. If they tally closely, the same was
  written to both.
* `Link.Tallies.rest` — the readers take the same packets; `Link.Tallies.transmit` and `Link.Tallies.submit` —
  frames handed over, and requests submitted.
* `Op.past`, **`Link.Tallies.perform`** — an operation on links that tally closely.
-/

namespace Sftp

/-- A far end that does not look at what is written to it. -/
def Peer.Blind {σ : Type} (p : Peer σ) : Prop :=
  ∀ b b' s, p.write b s = p.write b' s

namespace Link

variable {σ : Type} {closely : Prop} {ν ν' : Naming} {l m : Link σ}

/-- Two links on the same stream whose exchanges tally. -/
structure Tallies (closely : Prop) (ν ν' : Naming) (l m : Link σ) : Prop where
  /-- The exchanges tally. -/
  exchange : l.exchange.Tallies closely ν ν' m.exchange
  /-- The stream is the same, but for what was written to it. -/
  line : m.line = { l.line with sent := m.line.sent }
  /-- The same was written to it. -/
  sent : closely → m.line.sent = l.line.sent

namespace Tallies

/-- Exchanges that tally, while the streams change alike. -/
theorem of_inbox (h : l.Tallies closely ν ν' m) {l' m' : Link σ}
    (hexchange : l'.exchange.Tallies closely ν ν' m'.exchange) (inbox : Inbox)
    (hl : l'.line = { l.line with inbox }) (hm : m'.line = { m.line with inbox }) :
    l'.Tallies closely ν ν' m' where
  exchange := hexchange
  line := by rw [hl, hm, h.line]
  sent hclosely := by rw [hl, hm, h.sent hclosely]

/-- Exchanges that tally, while the streams stay as they are. -/
theorem of_line (h : l.Tallies closely ν ν' m) {l' m' : Link σ}
    (hexchange : l'.exchange.Tallies closely ν ν' m'.exchange) (hl : l'.line = l.line)
    (hm : m'.line = m.line) : l'.Tallies closely ν ν' m' where
  exchange := hexchange
  line := by rw [hl, hm, h.line]
  sent hclosely := by rw [hl, hm, h.sent hclosely]

/-- The same is left to be read. -/
theorem inbox (h : l.Tallies closely ν ν' m) : m.line.inbox = l.line.inbox := by
  rw [h.line]

/-! ## Readers -/

/-- The same frames are taken. -/
theorem takeFrames (h : l.Tallies closely ν ν' m) :
    l.takeFrames.Tallies closely ν ν' m.takeFrames := by
  have hread : m.line.inbox.readFrame m.exchange.limit = l.line.inbox.readFrame l.exchange.limit := by
    rw [h.inbox, h.exchange.limit]
  fun_induction Link.takeFrames l generalizing m with
  | case1 l inbox hblocked =>
    rw [takeFrames_of_blocked (hread.trans hblocked)]
    exact h
  | case2 l f inbox hfailed =>
    rw [takeFrames_of_failed (hread.trans hfailed)]
    refine h.of_inbox ?_ inbox (line_stopReader _ _) (line_stopReader _ _)
    rw [exchange_stopReader, exchange_stopReader]
    exact h.exchange.stop _
  | case3 l body inbox hgot e hbody =>
    rw [takeFrames_of_error (hread.trans hgot) hbody]
    refine h.of_inbox ?_ inbox (line_stopReader _ _) (line_stopReader _ _)
    rw [exchange_stopReader, exchange_stopReader]
    exact h.exchange.stop _
  | case4 l body inbox hgot p hbody _ ih =>
    rw [takeFrames_of_ok (hread.trans hgot) hbody]
    have hnext : Tallies closely ν ν' { l.deliver p with line := { l.line with inbox } }
        { m.deliver p with line := { m.line with inbox } } := by
      refine h.of_inbox ?_ inbox rfl rfl
      show (l.deliver p).exchange.Tallies closely ν ν' (m.deliver p).exchange
      rw [exchange_deliver, exchange_deliver]
      exact h.exchange.take p
    refine ih hnext ?_
    rw [hnext.inbox, hnext.exchange.limit]

/-- The readers take the same packets. -/
theorem rest (h : l.Tallies closely ν ν' m) : l.rest.Tallies closely ν ν' m.rest := by
  unfold Link.rest
  rw [h.exchange.reader]
  split
  · exact h.takeFrames
  · exact h

/-- The same arrives. -/
theorem receive (h : l.Tallies closely ν ν' m) (arrivals : List Arrival) :
    (l.receive arrivals).Tallies closely ν ν' (m.receive arrivals) := by
  refine rest (h.of_inbox h.exchange (arrivals.foldl Inbox.add l.line.inbox) rfl ?_)
  rw [← h.inbox]
  rfl

/-- Both readers start. -/
theorem start (h : l.Tallies closely ν ν' m) : l.start.Tallies closely ν ν' m.start := by
  unfold Link.start
  rw [h.exchange.reader]
  split
  · exact rest (h.of_line (h.exchange.with_reader .running) rfl rfl)
  · exact h

/-- Both streams are closed. -/
theorem closeLine (h : l.Tallies closely ν ν' m) :
    (Link.closeLine.run l).2.Tallies closely ν ν' (Link.closeLine.run m).2 := by
  rw [run_closeLine, run_closeLine]
  refine rest ⟨h.exchange, ?_, ?_⟩
  · unfold cut
    rw [h.line]
    rfl
  · exact h.sent

/-! ## Frames -/

/-- The same is written, or the far end does not look at it. -/
theorem write (h : l.Tallies closely ν ν' m) {b b' : Bytes}
    (hbytes : b' = b ∨ ¬ closely ∧ l.line.peer.Blind) :
    (m.line.write b').1 = (l.line.write b).1 ∧ (l.wrote b).Tallies closely ν ν' (m.wrote b') := by
  have hclosed : m.line.isClosed = l.line.isClosed := by
    rw [h.line]
    rfl
  have hpeer : m.line.peer.write b' m.line.state = l.line.peer.write b l.line.state := by
    rw [h.line]
    rcases hbytes with rfl | ⟨-, hblind⟩
    · rfl
    · exact hblind b' b l.line.state
  have hsent : closely → b' = b := fun hclosely => hbytes.resolve_right fun h => h.1 hclosely
  unfold wrote Line.write
  rw [hclosed, hpeer]
  by_cases hclosed' : l.line.isClosed
  · rw [if_pos hclosed', if_pos hclosed']
    exact ⟨rfl, h⟩
  · rw [if_neg hclosed', if_neg hclosed']
    rcases l.line.peer.write b l.line.state with ⟨f | arrivals, state⟩
    · refine ⟨rfl, h.exchange, ?_, h.sent⟩
      rw [h.line]
    · refine ⟨rfl, h.exchange, ?_, fun hclosely => ?_⟩
      · rw [h.line]
        rfl
      · show m.line.sent.push b' = l.line.sent.push b
        rw [h.sent hclosely, hsent hclosely]

/-- Both streams are flushed. -/
theorem flush (h : l.Tallies closely ν ν' m) :
    m.line.flush.1 = l.line.flush.1 ∧
      Tallies closely ν ν' { l with line := l.line.flush.2 } { m with line := m.line.flush.2 } := by
  have hpeer : m.line.peer = l.line.peer := by rw [h.line]
  have hstate : m.line.state = l.line.state := by rw [h.line]
  unfold Line.flush
  rw [hpeer]
  cases l.line.peer.flush with
  | none => exact ⟨rfl, h⟩
  | some step =>
    rw [hstate]
    refine ⟨rfl, h.exchange, ?_, h.sent⟩
    rw [h.line]

/-- Frames are handed over: the same, or to a far end that does not look at them. -/
theorem transmit (h : l.Tallies closely ν ν' m) {b b' : Bytes}
    (hbytes : b' = b ∨ ¬ closely ∧ l.line.peer.Blind) :
    ((Link.transmit b').run m).1 = ((Link.transmit b).run l).1 ∧
      ((Link.transmit b).run l).2.Tallies closely ν ν' ((Link.transmit b').run m).2 := by
  obtain ⟨hfault, hwrote⟩ := h.write hbytes
  obtain ⟨hflushFault, hflush⟩ := hwrote.rest.flush
  rw [run_transmit, run_transmit, hfault]
  simp only
  cases (l.line.write b).1 with
  | some f => exact ⟨rfl, hwrote.rest⟩
  | none =>
    simp only
    rw [hflushFault]
    cases (l.wrote b).rest.line.flush.1 with
    | some f => exact ⟨rfl, hflush⟩
    | none => exact ⟨rfl, hflush⟩

/-! ## Submissions -/

/-- Both counters move, in links that tally closely alike. -/
theorem nextId (h : l.Tallies closely ν ν' m) :
    l.exchange.nextId.2.Tallies closely ν ν' m.exchange.nextId.2 := by
  have hcounter : closely → m.exchange.nextId.2.counter = l.exchange.nextId.2.counter :=
    fun hclosely => (h.exchange.nextId hclosely).2
  rw [Exchange.nextId_eq, Exchange.nextId_eq] at hcounter ⊢
  exact h.exchange.with_counter hcounter

/-- New requests are entered, under the same id or without a name. -/
theorem enter (h : l.Tallies closely ν ν' m) {id id' : Int} (hid : l.exchange.nextId.1 = some id)
    (hid' : m.exchange.nextId.1 = some id')
    (hsame : id' = id ∨ ν.name l.exchange.progress.size = none) :
    (l.enter id).Tallies closely ν ν' (m.enter id') :=
  h.of_line (h.nextId.register (Exchange.nextId_free (x := l.exchange) hid)
    (Exchange.nextId_free (x := m.exchange) hid') hsame) rfl rfl

/-- What submissions of a request have to be alike in: they find no id, or ids with which the requests are
taken for the same if they have a name, and their frames cannot be made, or are made and written alike. -/
inductive Alike (closely : Prop) (ν : Naming) (r : Request) (l m : Link σ) : Prop
  /-- There is no id. -/
  | exhausted (hid : l.exchange.nextId.1 = none) (hid' : m.exchange.nextId.1 = none)
  /-- There are ids, and the frames cannot be made. -/
  | unmade {id id' : Int} {f f' : Fault} (hid : l.exchange.nextId.1 = some id)
      (hid' : m.exchange.nextId.1 = some id')
      (hsame : id' = id ∨ ν.name l.exchange.progress.size = none)
      (hframe : Request.frame r id = .error f) (hframe' : Request.frame r id' = .error f')
  /-- There are ids, and the frames can be made. -/
  | made {id id' : Int} {bytes bytes' : Bytes} (hid : l.exchange.nextId.1 = some id)
      (hid' : m.exchange.nextId.1 = some id')
      (hsame : id' = id ∨ ν.name l.exchange.progress.size = none)
      (hframe : Request.frame r id = .ok bytes) (hframe' : Request.frame r id' = .ok bytes')
      (hbytes : bytes' = bytes ∨ ¬ closely ∧ l.line.peer.Blind)

/-- Two submissions end alike: each gives out the next ticket, or each faults. -/
def EndAlike (l m : Link σ) (result result' : Except Fault Ticket) : Prop :=
  (result = .ok l.exchange.progress.size ∧ result' = .ok m.exchange.progress.size) ∨
    ∃ f f', result = .error f ∧ result' = .error f'

/-- The request was entered, and is taken back. -/
theorem withdraw (h : l.Tallies closely ν ν' m) {id id' : Int} {x y : Exchange}
    (hxy : x.Tallies closely ν ν' y) (hsame : id' = id ∨ ν.name l.exchange.progress.size = none)
    (hx : ∀ e ∈ x.pending, e.1 = id → e.2 = l.exchange.progress.size)
    (hy : ∀ e ∈ y.pending, e.1 = id' → e.2 = m.exchange.progress.size) :
    (x.withdraw id).Tallies closely ν ν' (y.withdraw id') := by
  refine hxy.withdraw (hsame.imp_right fun hnone => ⟨fun e he heq => ?_, fun e he heq => ?_⟩)
  · rw [hx e he heq, hnone]
  · have hcoming : ν'.name m.exchange.progress.size = ν.name l.exchange.progress.size :=
      h.exchange.coming 0
    rw [hy e he heq, hcoming, hnone]

/-- A frame is handed over in both links, and the submissions end with that. -/
theorem handing (h : l.Tallies closely ν ν' m) {r : Request} {g g' : Handing}
    (hg : l.handing? r = some g) (hg' : m.handing? r = some g')
    (hsame : g'.id = g.id ∨ ν.name l.exchange.progress.size = none)
    (hbytes : g'.frame = g.frame ∨ ¬ closely ∧ l.line.peer.Blind) :
    EndAlike l m ((Link.submit r).run l).1 ((Link.submit r).run m).1 ∧
      ((Link.submit r).run l).2.Tallies closely ν ν' ((Link.submit r).run m).2 := by
  obtain ⟨-, hid, hticket, -⟩ := handing?_eq_some hg
  obtain ⟨-, hid', hticket', -⟩ := handing?_eq_some hg'
  obtain ⟨-, hholds⟩ := holds_transmit hg
  obtain ⟨-, hholds'⟩ := holds_transmit hg'
  obtain ⟨hfault, htallies⟩ := (h.enter hid hid' hsame).transmit hbytes
  rw [run_submit_of_handing hg, run_submit_of_handing hg']
  rw [hticket] at hholds
  rw [hticket'] at hholds'
  generalize (Link.transmit g.frame).run (l.enter g.id) = outcome at hfault htallies hholds ⊢
  generalize (Link.transmit g'.frame).run (m.enter g'.id) = outcome' at hfault htallies hholds' ⊢
  obtain ⟨result, t⟩ := outcome
  obtain ⟨result', t'⟩ := outcome'
  obtain rfl : result' = result := hfault
  cases result' with
  | ok _ => exact ⟨.inl ⟨congrArg Except.ok hticket, congrArg Except.ok hticket'⟩, htallies⟩
  | error f =>
    obtain ⟨-, hexchange, hline⟩ := run_writeFailed g.id f t
    obtain ⟨-, hexchange', hline'⟩ := run_writeFailed g'.id f t'
    refine ⟨.inr ⟨_, _, rfl, rfl⟩, htallies.of_line ?_ hline hline'⟩
    show ((writeFailed g.id f).run t).2.exchange.Tallies closely ν ν'
      ((writeFailed g'.id f).run t').2.exchange
    rw [hexchange, hexchange']
    unfold Exchange.afterFault
    split
    · exact h.withdraw htallies.exchange hsame hholds hholds'
    · split
      · exact htallies.exchange.fail _
      · exact htallies.exchange

/-- **The same request is submitted to both**, and that goes alike. -/
theorem submit (h : l.Tallies closely ν ν' m) {r : Request} (halike : Alike closely ν r l m) :
    EndAlike l m ((Link.submit r).run l).1 ((Link.submit r).run m).1 ∧
      ((Link.submit r).run l).2.Tallies closely ν ν' ((Link.submit r).run m).2 := by
  cases hfailure : l.exchange.failure with
  | some message =>
    rw [run_submit_of_failed hfailure, run_submit_of_failed (h.exchange.failure.trans hfailure)]
    exact ⟨.inr ⟨_, _, rfl, rfl⟩, h⟩
  | none =>
    have hfailure' := h.exchange.failure.trans hfailure
    -- where the connection is closed meanwhile, what the frames are does not matter
    have hhungUp : ∀ {id id'}, l.exchange.nextId.1 = some id → m.exchange.nextId.1 = some id' →
        (id' = id ∨ ν.name l.exchange.progress.size = none) → r.hangsUp = true →
        EndAlike l m ((Link.submit r).run l).1 ((Link.submit r).run m).1 ∧
          ((Link.submit r).run l).2.Tallies closely ν ν' ((Link.submit r).run m).2 := by
      intro id id' hid hid' hsame hhangsUp
      obtain ⟨f, hrun⟩ := run_submit_of_hangsUp hfailure hid hhangsUp
      obtain ⟨f', hrun'⟩ := run_submit_of_hangsUp hfailure' hid' hhangsUp
      rw [hrun, hrun']
      refine ⟨.inr ⟨_, _, rfl, rfl⟩, h.of_line ?_ rfl rfl⟩
      exact ((h.enter hid hid' hsame).exchange.fail _).withdraw (.inr ⟨nofun, nofun⟩)
    cases halike with
    | exhausted hid hid' =>
      rw [run_submit_of_exhausted hfailure hid, run_submit_of_exhausted hfailure' hid']
      exact ⟨.inr ⟨_, _, rfl, rfl⟩, h.of_line h.nextId rfl rfl⟩
    | @unmade id id' f f' hid hid' hsame hframe hframe' =>
      cases hhangsUp : r.hangsUp with
      | true => exact hhungUp hid hid' hsame hhangsUp
      | false =>
        rw [run_submit_of_unmade hfailure hid hframe hhangsUp,
          run_submit_of_unmade hfailure' hid' hframe' hhangsUp]
        refine ⟨.inr ⟨_, _, rfl, rfl⟩, h.of_line ?_ rfl rfl⟩
        exact h.withdraw (h.enter hid hid' hsame).exchange hsame (ticket_enter hid) (ticket_enter hid')
    | made hid hid' hsame hframe hframe' hbytes =>
      cases hhangsUp : r.hangsUp with
      | true => exact hhungUp hid hid' hsame hhangsUp
      | false =>
        obtain ⟨g, hg, rfl, -, rfl⟩ := exists_handing hfailure hid hhangsUp hframe
        obtain ⟨g', hg', rfl, -, rfl⟩ := exists_handing hfailure' hid' hhangsUp hframe'
        exact h.handing hg hg' hsame hbytes

/-! ## Other calls -/

/-- A reply is waited for, of a request that has a name. -/
theorem await (h : l.Tallies closely ν ν' m) {t u : Ticket} (hname : ν'.name u = ν.name t)
    (hnamed : ν.name t ≠ none) :
    ((Link.await t).run l).2.Tallies closely ν ν' ((Link.await u).run m).2 := by
  obtain ⟨k, hk⟩ := Option.ne_none_iff_exists'.mp hnamed
  rw [run_await, run_await, h.exchange.standing hk (hname.trans hk)]
  split
  · exact h.receive _
  · exact h

/-- A request is given up. -/
theorem abandon (h : l.Tallies closely ν ν' m) {t u : Ticket} (hname : ν'.name u = ν.name t) :
    ((Link.abandon t).run l).2.Tallies closely ν ν' ((Link.abandon u).run m).2 :=
  h.of_line (h.exchange.abandon hname) rfl rfl

/-- A request is sent and its reply waited for, if it has a name. -/
theorem send (h : l.Tallies closely ν ν' m) {r : Request} (halike : Alike closely ν r l m)
    (hnamed : ν.name l.exchange.progress.size ≠ none) :
    ((Link.send r).run l).2.Tallies closely ν ν' ((Link.send r).run m).2 := by
  obtain ⟨hend, hsubmitted⟩ := h.submit halike
  rw [run_send, run_send]
  generalize (Link.submit r).run l = outcome at hend hsubmitted ⊢
  generalize (Link.submit r).run m = outcome' at hend hsubmitted ⊢
  obtain ⟨result, l'⟩ := outcome
  obtain ⟨result', m'⟩ := outcome'
  rcases hend with ⟨rfl, rfl⟩ | ⟨f, f', rfl, rfl⟩
  · exact hsubmitted.await (h.exchange.coming 0) hnamed
  · exact hsubmitted

/-- A request is sent and given up at once. -/
theorem poll (h : l.Tallies closely ν ν' m) {r : Request} (halike : Alike closely ν r l m) :
    ((Link.poll r).run l).2.Tallies closely ν ν' ((Link.poll r).run m).2 := by
  obtain ⟨hend, hsubmitted⟩ := h.submit halike
  rw [run_poll, run_poll]
  generalize (Link.submit r).run l = outcome at hend hsubmitted ⊢
  generalize (Link.submit r).run m = outcome' at hend hsubmitted ⊢
  obtain ⟨result, l'⟩ := outcome
  obtain ⟨result', m'⟩ := outcome'
  rcases hend with ⟨rfl, rfl⟩ | ⟨f, f', rfl, rfl⟩
  · exact hsubmitted.abandon (h.exchange.coming 0)
  · exact hsubmitted

end Tallies

end Link

/-! ## Operations -/

/-- A ticket, where one more was given out. -/
def Ticket.past (n t : Ticket) : Ticket :=
  if t < n then t else t + 1

namespace Op

variable {σ : Type}

/-- The same operation, where one more ticket was given out. -/
def past (n : Ticket) : Op σ → Op σ
  | await t => await (Ticket.past n t)
  | abandon t => abandon (Ticket.past n t)
  | op => op

/-- The request that is submitted in an operation. -/
def request? : Op σ → Option Request
  | submit r | send r | poll r => some r
  | _ => none

/-- The ticket that is waited for in an operation. -/
def awaited? (l : Link σ) : Op σ → Option Ticket
  | await t => some t
  | send _ => some l.exchange.progress.size
  | _ => none

end Op

namespace Link

variable {σ : Type} {closely : Prop} {ν ν' : Naming} {l m : Link σ} {n : Ticket}

/-- **The same operation is done on both links**, in which submissions go alike and nobody waits for a request
without a name. -/
theorem Tallies.perform (h : l.Tallies closely ν ν' m) (hpast : ∀ t, ν'.name (Ticket.past n t) = ν.name t)
    {op : Op σ} (halike : ∀ r, op.request? = some r → Tallies.Alike closely ν r l m)
    (hawaited : ∀ t, op.awaited? l = some t → ν.name t ≠ none) :
    (op.perform l).Tallies closely ν ν' ((op.past n).perform m) := by
  cases op with
  | start => exact h.start
  | nextId =>
    show (Link.nextId.run l).2.Tallies closely ν ν' (Link.nextId.run m).2
    rw [run_nextId, run_nextId]
    exact h.of_line h.nextId rfl rfl
  | moveCounter n => exact h.of_line (h.exchange.with_counter fun _ => rfl) rfl rfl
  | submit r => exact (h.submit (halike r rfl)).2
  | await t => exact h.await (hpast t) (hawaited t rfl)
  | send r => exact h.send (halike r rfl) (hawaited _ rfl)
  | poll r => exact h.poll (halike r rfl)
  | abandon t => exact h.abandon (hpast t)
  | close => exact h.of_line (h.exchange.fail _) rfl rfl
  | closeLine => exact h.closeLine
  | receive arrivals => exact h.receive arrivals
  | change state =>
    refine ⟨h.exchange, ?_, h.sent⟩
    show ({ m.line with state } : Line σ) = _
    rw [h.line]
    rfl

end Link

end Sftp
