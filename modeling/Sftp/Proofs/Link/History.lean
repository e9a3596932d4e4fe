import Sftp.Proofs.Link.Moves

/-!
# Histories of a link

A history is a run of operations on a link, in any order: calls from this side, arrivals, and changes
of the far end. It records what happens and which tickets were given out. Each operation comes to its end
before the next begins; submissions that overlap are the subject of `Traffic`.

* `Op`, `Op.perform` — what can be done, and what it makes of a link.
* `Op.events`, `Op.issued` — what happens in an operation, and the ticket that it gives out.
* **`Op.acts_perform`** — every operation is a sequence of moves with its events, and what goes out over
  the stream is what the events say; `Op.happens_of_mem_events` — which events there can be.
* `History`, `Link.history` — a run of operations with its record. `History.acts_run` carries the moves
  over whole runs, and `History.run_induction` whatever else every step keeps.
-/

namespace Sftp

/-! ## Operations -/

/-- What can be done with a link. -/
inductive Op (σ : Type)
  /-- The reader is started. -/
  | start
  /-- An id is allotted and not used. -/
  | nextId
  /-- The counter of ids is moved. -/
  | moveCounter (n : Int)
  /-- A request is sent. -/
  | submit (r : Request)
  /-- The reply to a request is waited for. -/
  | await (t : Ticket)
  /-- A request is sent and its reply waited for. -/
  | send (r : Request)
  /-- A request is sent and given up at once. -/
  | poll (r : Request)
  /-- A request is given up. -/
  | abandon (t : Ticket)
  /-- The connection is closed from this side. -/
  | close
  /-- The stream is closed. -/
  | closeLine
  /-- Something arrives. -/
  | receive (arrivals : List Arrival)
  /-- The far end comes to another state of its own accord. -/
  | change (state : σ)

namespace Link

variable {σ : Type}

/-- A link on whose stream something has arrived that the reader has not taken yet. -/
def arrived (l : Link σ) (arrivals : List Arrival) : Link σ :=
  { l with line := l.line.receive arrivals }

/-- A link whose reader runs. -/
def listening (l : Link σ) : Link σ :=
  { l with exchange := { l.exchange with reader := .running } }

/-- A link whose stream is closed, and whose reader has not seen it yet. -/
def cut (l : Link σ) : Link σ :=
  { l with line := l.line.close.2 }

/-- What happens when the reader is started. -/
def startEvents (l : Link σ) : List Event :=
  if l.exchange.reader = .idle then l.listening.restEvents else []

/-- What happens while a reply is waited for. -/
def awaitEvents (t : Ticket) (l : Link σ) : List Event :=
  if l.exchange.standing t = .waiting then (l.arrived [.ending .closed]).restEvents else []

/-- What happens when a request is sent and its reply waited for. -/
def sendEvents (r : Request) (l : Link σ) : List Event :=
  l.submitEvents r ++
    match (submit r).run l with
    | (.ok t, l') => l'.awaitEvents t
    | (.error _, _) => []

/-- The ticket that a submission gives out, with the id that it allots. -/
def submitIssued (r : Request) (l : Link σ) : List (Int × Ticket) :=
  match ((submit r).run l).1, l.exchange.nextId.1 with
  | .ok t, some id => [(id, t)]
  | _, _ => []

end Link

namespace Op

variable {σ : Type}

/-- The link after an operation. -/
def perform (l : Link σ) : Op σ → Link σ
  | start => l.start
  | nextId => (Link.nextId.run l).2
  | moveCounter n => { l with exchange := { l.exchange with counter := n } }
  | submit r => ((Link.submit r).run l).2
  | await t => ((Link.await t).run l).2
  | send r => ((Link.send r).run l).2
  | poll r => ((Link.poll r).run l).2
  | abandon t => ((Link.abandon t).run l).2
  | close => l.close
  | closeLine => (Link.closeLine.run l).2
  | receive arrivals => l.receive arrivals
  | change state => { l with line := { l.line with state } }

/-- What happens in an operation. -/
def events (l : Link σ) : Op σ → List Event
  | start => l.startEvents
  | submit r | poll r => l.submitEvents r
  | await t => l.awaitEvents t
  | send r => l.sendEvents r
  | closeLine => l.cut.restEvents
  | receive arrivals => (l.arrived arrivals).restEvents
  | nextId | moveCounter _ | abandon _ | close | change _ => []

/-- The ticket that an operation gives out, or that a caller within it waits on. -/
def issued (l : Link σ) : Op σ → List (Int × Ticket)
  | submit r | send r | poll r => l.submitIssued r
  | _ => []

end Op

/-! ## Operations as moves -/

namespace Link

variable {σ : Type} {lossy : Prop}

/-- Waiting takes what arrives, if there is something to wait for. -/
theorem run_await (t : Ticket) (l : Link σ) :
    ((await t).run l).2 =
      if l.exchange.standing t = .waiting then l.receive [.ending .closed] else l := by
  unfold await
  rw [Step.run_bind, Step.run_modify]
  simp only
  rw [Step.run_bind, Step.run_get]
  simp only
  split
  · rfl
  · rfl
  · rfl

/-- Sending is submitting and then waiting. -/
theorem run_send (r : Request) (l : Link σ) :
    ((send r).run l).2 =
      match (submit r).run l with
      | (.ok t, l') => ((await t).run l').2
      | (.error _, l') => l' := by
  unfold send
  rw [Step.run_bind]
  rcases (submit r).run l with ⟨_ | t, l'⟩
  · rfl
  · rfl

/-- Whoever gives up a request that has ended does nothing. -/
theorem run_abandon_of_ended {t : Ticket} {l : Link σ} (h : l.exchange.standing t ≠ .waiting) :
    ((abandon t).run l).2 = l := by
  show { l with exchange := (l.exchange.abandon t).2 } = l
  unfold Exchange.abandon
  split
  · rename_i hwaiting
    exact absurd hwaiting h
  · rfl
  · rfl

/-- Polling is submitting and then giving up. -/
theorem run_poll (r : Request) (l : Link σ) :
    ((poll r).run l).2 =
      match (submit r).run l with
      | (.ok t, l') => ((abandon t).run l').2
      | (.error _, l') => l' := by
  unfold poll
  rw [Step.run_bind]
  rcases (submit r).run l with ⟨_ | t, l'⟩
  · rfl
  · simp only
    rw [Step.run_bind, Step.run_get]
    simp only
    split
    · rename_i p hanswered
      have hended : l'.exchange.standing t ≠ .waiting := by rw [hanswered]; exact nofun
      exact (run_abandon_of_ended hended).symm
    · rename_i message hlost
      have hended : l'.exchange.standing t ≠ .waiting := by rw [hlost]; exact nofun
      exact (run_abandon_of_ended hended).symm
    · rfl

/-- Closing the stream lets the reader see it. -/
theorem run_closeLine (l : Link σ) : (closeLine.run l).2 = l.cut.rest := by
  unfold closeLine
  rw [Step.run_bind, Step.run_get]
  simp only
  rw [Step.run_bind, Step.run_set]
  simp only
  split
  · rfl
  · rfl

/-- One link comes from another: the exchange by moves, and what went out over the stream is what the
events of the moves say. -/
structure Acts (l : Link σ) (events : List Event) (l' : Link σ) : Prop where
  /-- The far end is the same. -/
  peer : l'.line.peer = l.line.peer
  /-- The exchange made moves. -/
  moves : Exchange.Moves l.line.peer.Lossy l.exchange events l'.exchange
  /-- The frames that the stream took were sent, and no others. -/
  sent : l'.line.sent.toList = l.line.sent.toList ++ events.filterMap Event.sent?

namespace Acts

variable {l l' l'' : Link σ} {events others : List Event}

/-- What comes from what comes from a link comes from the link. -/
theorem trans (h : l.Acts events l') (h' : l'.Acts others l'') : l.Acts (events ++ others) l'' where
  peer := h'.peer.trans h.peer
  moves := by
    have hmoves := h'.moves
    rw [h.peer] at hmoves
    exact h.moves.trans hmoves
  sent := by rw [h'.sent, h.sent, List.filterMap_append, List.append_assoc]

/-- Over the same stream, with nothing sent and without events. -/
theorem quiet (hpeer : l'.line.peer = l.line.peer) (hsent : l'.line.sent = l.line.sent)
    (hmoves : Exchange.Moves l.line.peer.Lossy l.exchange [] l'.exchange) : l.Acts [] l' where
  peer := hpeer
  moves := hmoves
  sent := by rw [hsent, List.filterMap_nil, List.append_nil]

/-- A link comes from itself. -/
theorem refl (l : Link σ) : l.Acts [] l :=
  quiet rfl rfl (.none _)

end Acts

/-- Taking packets sends nothing. -/
theorem filterMap_sent_takings (x : Exchange) (packets : List Packet) :
    (x.takings packets).filterMap Event.sent? = [] := by
  induction packets generalizing x with
  | nil => rfl
  | cons p packets ih => exact ih (x.take p)

/-- Taking a request back sends nothing. -/
theorem filterMap_sent_takenBack (t : Ticket) (result : Except Fault Unit) :
    (takenBack t result).filterMap Event.sent? = [] := by
  rcases result with f | u
  · rw [takenBack]
    split
    · rfl
    · rfl
  · rfl

/-- Letting the reader take what is there. -/
theorem acts_rest (l : Link σ) : l.Acts l.restEvents l.rest := by
  obtain ⟨inbox, hline⟩ := line_rest l
  refine ⟨?_, moves_rest l, ?_⟩
  · rw [hline]
  · rw [hline, restEvents, filterMap_sent_takings, List.append_nil]

/-- A submission sends the frame that it hands over, if the stream takes it. -/
theorem sent_submit (r : Request) (l : Link σ) :
    ((submit r).run l).2.line.peer = l.line.peer ∧
      ((submit r).run l).2.line.sent.toList =
        l.line.sent.toList ++ (l.submitEvents r).filterMap Event.sent? := by
  have hsubmitted := submitted r l
  generalize ((submit r).run l).1 = result at hsubmitted
  generalize ((submit r).run l).2 = l' at hsubmitted ⊢
  have hquiet : l.handing? r = none → l'.line = l.line →
      l'.line.peer = l.line.peer ∧ l'.line.sent.toList =
        l.line.sent.toList ++ (l.submitEvents r).filterMap Event.sent? := by
    intro hnone hline
    rw [hline, submitEvents_of_none hnone, List.filterMap_nil, List.append_nil]
    exact ⟨rfl, rfl⟩
  -- after the frame was handed over, nothing more goes out
  have htransmit : ∀ {h : Handing}, l.handing? r = some h →
      l'.line = ((transmit h.frame).run (l.enter h.id)).2.line →
      l'.line.peer = l.line.peer ∧ l'.line.sent.toList =
        l.line.sent.toList ++ (l.submitEvents r).filterMap Event.sent? := by
    intro h hhanding hline
    obtain ⟨hpeer, hsent⟩ := line_transmit h.frame (l.enter h.id)
    obtain ⟨-, -, -, -, haccepted⟩ := handing?_eq_some hhanding
    constructor
    · rw [hline, hpeer]
      rfl
    · rw [hline, hsent, submitEvents_of_some hhanding, List.filterMap_append,
        filterMap_sent_takenBack, List.append_nil, List.filterMap_cons, restEvents,
        filterMap_sent_takings, Event.sent?, haccepted]
      show _ ++ (if (l.line.write h.frame).1.isNone then _ else _) = _
      cases (l.line.write h.frame).1 with
      | none => rfl
      | some f => rfl
  cases hsubmitted with
  | refused hfailed => exact hquiet (handing?_eq_none (.inl (by rw [hfailed]; exact nofun))) rfl
  | exhausted _ hnone => exact hquiet (handing?_eq_none (.inr (.inl hnone))) rfl
  | unmade _ hid hframe _ =>
    exact hquiet (handing?_eq_none (.inr (.inr (.inr ⟨_, _, hid, hframe⟩)))) rfl
  | hungUp _ _ hhangsUp => exact hquiet (handing?_eq_none (.inr (.inr (.inl hhangsUp)))) rfl
  | sent hhanding _ => exact htransmit hhanding rfl
  | faulted hhanding _ _ hline => exact htransmit hhanding hline

/-- Submitting a request. -/
theorem acts_submit (r : Request) (l : Link σ) :
    l.Acts (l.submitEvents r) ((submit r).run l).2 :=
  ⟨(sent_submit r l).1, moves_submit r l, (sent_submit r l).2⟩

/-- Waiting for a reply. -/
theorem acts_await (t : Ticket) (l : Link σ) : l.Acts (l.awaitEvents t) ((await t).run l).2 := by
  rw [run_await]
  unfold awaitEvents
  by_cases h : l.exchange.standing t = .waiting
  · rw [if_pos h, if_pos h]
    have harrived : l.Acts [] (l.arrived [.ending .closed]) := .quiet rfl rfl (.none _)
    exact harrived.trans (acts_rest (l.arrived [.ending .closed]))
  · rw [if_neg h, if_neg h]
    exact .refl l

/-- Sending a request and waiting for its reply. -/
theorem acts_send (r : Request) (l : Link σ) : l.Acts (l.sendEvents r) ((send r).run l).2 := by
  have hsubmit := acts_submit r l
  rw [run_send]
  unfold sendEvents
  generalize (submit r).run l = outcome at hsubmit ⊢
  rcases outcome with ⟨_ | t, l'⟩
  · exact hsubmit.trans (.refl l')
  · exact hsubmit.trans (acts_await t l')

/-- Sending a request and giving it up. -/
theorem acts_poll (r : Request) (l : Link σ) : l.Acts (l.submitEvents r) ((poll r).run l).2 := by
  have hsubmit := acts_submit r l
  rw [run_poll]
  generalize (submit r).run l = outcome at hsubmit ⊢
  rcases outcome with ⟨_ | t, l'⟩
  · exact hsubmit
  · have hgivenUp : l'.Acts [] ((abandon t).run l').2 := .quiet rfl rfl (.one (.abandon t))
    have hacts := hsubmit.trans hgivenUp
    rwa [List.append_nil] at hacts

/-- Starting the reader. -/
theorem acts_start (l : Link σ) : l.Acts l.startEvents l.start := by
  unfold startEvents start
  by_cases h : l.exchange.reader = .idle
  · rw [if_pos h, if_pos h]
    have hlistening : l.Acts [] l.listening := .quiet rfl rfl (.one (.listen h))
    exact hlistening.trans (acts_rest l.listening)
  · rw [if_neg h, if_neg h]
    exact .refl l

end Link

/-- **Every operation is a sequence of moves**, and what goes out in it is what its events say. -/
theorem Op.acts_perform {σ : Type} (op : Op σ) (l : Link σ) :
    l.Acts (op.events l) (op.perform l) := by
  cases op with
  | start => exact Link.acts_start l
  | nextId =>
    show l.Acts [] (Link.nextId.run l).2
    rw [Link.run_nextId, Exchange.nextId_eq]
    exact .quiet rfl rfl (.one (.count _))
  | moveCounter n => exact .quiet rfl rfl (.one (.count n))
  | submit r => exact Link.acts_submit r l
  | await t => exact Link.acts_await t l
  | send r => exact Link.acts_send r l
  | poll r => exact Link.acts_poll r l
  | abandon t => exact .quiet rfl rfl (.one (.abandon t))
  | close => exact .quiet rfl rfl (.one (.fail _))
  | closeLine =>
    show l.Acts l.cut.restEvents (Link.closeLine.run l).2
    rw [Link.run_closeLine]
    have hcut : l.Acts [] l.cut := .quiet rfl rfl (.none _)
    exact hcut.trans (Link.acts_rest l.cut)
  | receive arrivals =>
    have harrived : l.Acts [] (l.arrived arrivals) := .quiet rfl rfl (.none _)
    exact harrived.trans (Link.acts_rest (l.arrived arrivals))
  | change state => exact .quiet rfl rfl (.none _)

/-! ## What the events tell -/

namespace Link

variable {σ : Type} {l : Link σ} {e : Event}

/-- A reader that is let to only takes packets. -/
theorem eq_taken_of_mem_restEvents (h : e ∈ l.restEvents) : ∃ p reached, e = .taken p reached := by
  unfold restEvents at h
  generalize l.exchange = x at h
  generalize l.restPackets = packets at h
  induction packets generalizing x with
  | nil => cases h
  | cons p packets ih =>
    rcases List.mem_cons.mp h with rfl | h
    · exact ⟨p, _, rfl⟩
    · exact ih _ h

/-- Somebody who waits only sees packets taken. -/
theorem eq_taken_of_mem_awaitEvents {t : Ticket} (h : e ∈ l.awaitEvents t) :
    ∃ p reached, e = .taken p reached := by
  unfold awaitEvents at h
  split at h
  · exact eq_taken_of_mem_restEvents h
  · cases h

/-- Starting the reader only takes packets. -/
theorem eq_taken_of_mem_startEvents (h : e ∈ l.startEvents) :
    ∃ p reached, e = .taken p reached := by
  unfold startEvents at h
  split at h
  · exact eq_taken_of_mem_restEvents h
  · cases h

/-- Sending a request is submitting it and then only taking packets. -/
theorem mem_sendEvents {r : Request} (h : e ∈ l.sendEvents r) :
    e ∈ l.submitEvents r ∨ ∃ p reached, e = .taken p reached := by
  unfold sendEvents at h
  rcases List.mem_append.mp h with h | h
  · exact .inl h
  · generalize (submit r).run l = outcome at h
    rcases outcome with ⟨_ | t, l'⟩
    · cases h
    · exact .inr (eq_taken_of_mem_awaitEvents h)

/-- What can happen in one operation on a link. -/
inductive Happens (l : Link σ) : Event → Prop
  /-- A packet is taken. -/
  | taken (p : Packet) (reached : Option Ticket) : Happens l (.taken p reached)
  /-- A submission hands a frame over. -/
  | handed {r : Request} {g : Handing} (hhanding : l.handing? r = some g) : Happens l (.handed g)
  /-- The request that a submission entered is taken back. -/
  | dropped : Happens l (.dropped l.exchange.progress.size)

/-- Packets are taken in every operation. -/
theorem happens_of_taken (h : ∃ p reached, e = .taken p reached) : l.Happens e := by
  obtain ⟨p, reached, rfl⟩ := h
  exact .taken p reached

/-- A submission hands its frame over, takes packets, and takes its own request back. -/
theorem happens_of_mem_submitEvents {r : Request} (h : e ∈ l.submitEvents r) : l.Happens e := by
  cases hhanding : l.handing? r with
  | none =>
    rw [submitEvents_of_none hhanding] at h
    cases h
  | some g =>
    obtain ⟨-, -, hticket, -, -⟩ := handing?_eq_some hhanding
    rw [submitEvents_of_some hhanding] at h
    rcases List.mem_append.mp h with h | h
    · rcases List.mem_cons.mp h with rfl | h
      · exact .handed hhanding
      · exact happens_of_taken (eq_taken_of_mem_restEvents h)
    · generalize ((transmit g.frame).run (l.enter g.id)).1 = result at h
      rcases result with f | u
      · rw [takenBack] at h
        split at h
        · rw [List.mem_singleton.mp h, hticket]
          exact .dropped
        · cases h
      · cases h

/-- A ticket that is given out belongs to a frame that was handed over and not taken back. -/
theorem exists_handed_of_mem_submitIssued {r : Request} {entry : Int × Ticket}
    (h : entry ∈ l.submitIssued r) :
    (∃ g, .handed g ∈ l.submitEvents r ∧ (g.id, g.ticket) = entry) ∧
      entry.2 = l.exchange.progress.size ∧ ∀ t, .dropped t ∉ l.submitEvents r := by
  unfold submitIssued at h
  split at h
  · rename_i t id hok hid
    obtain rfl := List.mem_singleton.mp h
    obtain ⟨g, hhanding, rfl, hsent⟩ := exists_handing_of_ok hok
    obtain ⟨-, hid', hticket, -, -⟩ := handing?_eq_some hhanding
    rw [hid] at hid'
    obtain rfl := Option.some.inj hid'
    rw [submitEvents_of_some hhanding, hsent, takenBack, List.append_nil]
    refine ⟨⟨g, List.mem_cons_self, rfl⟩, hticket, fun t ht => ?_⟩
    rcases List.mem_cons.mp ht with ht | ht
    · cases ht
    · obtain ⟨p, reached, ht⟩ := eq_taken_of_mem_restEvents ht
      cases ht
  · cases h

/-- A submission that succeeds gives its ticket out. -/
theorem exists_mem_submitIssued {r : Request} {t : Ticket} (h : ((submit r).run l).1 = .ok t) :
    ∃ id, (id, t) ∈ l.submitIssued r := by
  obtain ⟨g, hhanding, -, -⟩ := exists_handing_of_ok h
  obtain ⟨-, hid, -⟩ := handing?_eq_some hhanding
  refine ⟨g.id, ?_⟩
  unfold submitIssued
  rw [h, hid]
  exact List.mem_singleton_self _

end Link

namespace Op

variable {σ : Type} {l : Link σ}

/-- **What happens in an operation.** -/
theorem happens_of_mem_events {op : Op σ} {e : Event} (h : e ∈ op.events l) : l.Happens e := by
  cases op with
  | start => exact Link.happens_of_taken (Link.eq_taken_of_mem_startEvents h)
  | submit r | poll r => exact Link.happens_of_mem_submitEvents h
  | await t => exact Link.happens_of_taken (Link.eq_taken_of_mem_awaitEvents h)
  | send r =>
    rcases Link.mem_sendEvents h with h | h
    · exact Link.happens_of_mem_submitEvents h
    · exact Link.happens_of_taken h
  | closeLine => exact Link.happens_of_taken (Link.eq_taken_of_mem_restEvents h)
  | receive arrivals => exact Link.happens_of_taken (Link.eq_taken_of_mem_restEvents h)
  | nextId | moveCounter _ | abandon _ | close | change _ => cases h

/-- An operation takes nobody's request back but the one that it entered. -/
theorem eq_size_of_dropped_mem_events {op : Op σ} {t : Ticket} (h : .dropped t ∈ op.events l) :
    t = l.exchange.progress.size := by
  cases happens_of_mem_events h with
  | dropped => rfl

/-- A ticket that an operation gives out belongs to a frame that it handed over, and the request was
not taken back. -/
theorem exists_handed_of_mem_issued {op : Op σ} {entry : Int × Ticket} (h : entry ∈ op.issued l) :
    (∃ g, .handed g ∈ op.events l ∧ (g.id, g.ticket) = entry) ∧
      entry.2 = l.exchange.progress.size ∧ ∀ t, .dropped t ∉ op.events l := by
  cases op with
  | submit r | poll r => exact Link.exists_handed_of_mem_submitIssued h
  | send r =>
    obtain ⟨⟨g, hg, hentry⟩, hsize, hnone⟩ := Link.exists_handed_of_mem_submitIssued h
    refine ⟨⟨g, List.mem_append_left _ hg, hentry⟩, hsize, fun t ht => ?_⟩
    rcases Link.mem_sendEvents ht with ht | ⟨p, reached, ht⟩
    · exact hnone t ht
    · cases ht
  | start | await _ | closeLine | receive _ | nextId | moveCounter _ | abandon _ | close
  | change _ => cases h

end Op

/-! ## Runs -/

/-- A link, what has happened to it, and the tickets that were given out, with their ids. -/
structure History (σ : Type) where
  /-- The link as it is now. -/
  link : Link σ
  /-- What has happened, first event first. -/
  events : List Event := []
  /-- The tickets that were given out, each with the id of its request. -/
  issued : List (Int × Ticket) := []

namespace History

variable {σ : Type}

/-- The history after one more operation. -/
def step (h : History σ) (op : Op σ) : History σ where
  link := op.perform h.link
  events := h.events ++ op.events h.link
  issued := h.issued ++ op.issued h.link

/-- The history after operations, one after another. -/
def run (h : History σ) (ops : List (Op σ)) : History σ :=
  ops.foldl step h

@[simp] theorem run_nil (h : History σ) : h.run [] = h := rfl

@[simp] theorem run_cons (h : History σ) (op : Op σ) (ops : List (Op σ)) :
    h.run (op :: ops) = (h.step op).run ops := rfl

theorem run_append (h : History σ) (ops more : List (Op σ)) :
    h.run (ops ++ more) = (h.run ops).run more :=
  List.foldl_append

/-- The link after operations is made of the operations alone. -/
theorem link_run (h : History σ) (ops : List (Op σ)) :
    (h.run ops).link = ops.foldl (fun l op => op.perform l) h.link := by
  induction ops generalizing h with
  | nil => rfl
  | cons op ops ih => exact ih (h.step op)

/-- **What every step keeps, a run keeps.** -/
theorem run_induction {motive : History σ → Prop} {h : History σ} (hstart : motive h)
    (hstep : ∀ h op, motive h → motive (h.step op)) (ops : List (Op σ)) : motive (h.run ops) := by
  induction ops generalizing h with
  | nil =>
    rw [run_nil]
    exact hstart
  | cons op ops ih =>
    rw [run_cons]
    exact ih (hstep h op hstart)

/-- A ticket that was given out stays so. -/
theorem mem_issued_run {h : History σ} {e : Int × Ticket} (he : e ∈ h.issued) (ops : List (Op σ)) :
    e ∈ (h.run ops).issued :=
  run_induction (motive := fun h => e ∈ h.issued) he (fun _ _ => List.mem_append_left _) ops

/-- The events of a run are a sequence of moves, and say what went out. -/
theorem acts_run (h : History σ) (ops : List (Op σ)) :
    ∃ events, (h.run ops).events = h.events ++ events ∧ h.link.Acts events (h.run ops).link := by
  induction ops generalizing h with
  | nil => exact ⟨[], (List.append_nil _).symm, .refl h.link⟩
  | cons op ops ih =>
    obtain ⟨events, hevents, hacts⟩ := ih (h.step op)
    refine ⟨op.events h.link ++ events, ?_, (op.acts_perform h.link).trans hacts⟩
    rw [run_cons, hevents, ← List.append_assoc]
    rfl

end History

namespace Link

variable {σ : Type}

/-- A link as it is made: nothing was asked, nothing has failed, and the reader has not been
started. -/
structure Fresh (l : Link σ) : Prop where
  /-- No request is in the table. -/
  pending : l.exchange.pending = []
  /-- No ticket was given out. -/
  progress : l.exchange.progress = #[]
  /-- The connection has not failed. -/
  failure : l.exchange.failure = none
  /-- The reader has not been started. -/
  reader : l.exchange.reader = .idle

/-- The history of a link in which operations were done. -/
def history (l : Link σ) (ops : List (Op σ)) : History σ :=
  (History.mk l [] []).run ops

/-- What was recorded before does not change what becomes of the link. -/
theorem link_history (l : Link σ) (events : List Event) (issued : List (Int × Ticket))
    (ops : List (Op σ)) : ((History.mk l events issued).run ops).link = (l.history ops).link := by
  rw [history, History.link_run, History.link_run]

/-- An operation before others. -/
theorem link_history_cons (l : Link σ) (op : Op σ) (ops : List (Op σ)) :
    (l.history (op :: ops)).link = ((op.perform l).history ops).link :=
  link_history (op.perform l) _ _ ops

/-- Operations after operations. -/
theorem link_history_append (l : Link σ) (ops more : List (Op σ)) :
    (l.history (ops ++ more)).link = ((l.history ops).link.history more).link := by
  rw [history, History.run_append]
  exact link_history _ _ _ more

/-- The events of a history lead from the link at its beginning to the link as it is now. -/
theorem acts_history (l : Link σ) (ops : List (Op σ)) :
    l.Acts (l.history ops).events (l.history ops).link := by
  obtain ⟨events, hevents, hacts⟩ := (History.mk l [] []).acts_run ops
  have hrun : (l.history ops).events = events := hevents
  rw [hrun]
  exact hacts

end Link

end Sftp
