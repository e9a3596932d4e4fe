import Sftp.Proofs.Link.Submission

/-!
# Moves of an exchange

What happens to an exchange is made up of a few moves, whichever operation of the link they belong to.
Whatever every move preserves is preserved by every operation.

* `Event` — what is recorded: frames handed over, packets taken, requests taken back.
* `Exchange.Move` — everything that one step can do to an exchange, with its conditions.
* `Exchange.Moves` — moves one after another, with their events.
* `Link.moves_rest`, **`Link.moves_submit`** — letting the reader take frames and submitting a request
  are moves.
-/

namespace Sftp

/-- Something that happens in a history. -/
inductive Event
  /-- A frame is handed to the stream. -/
  | handed (h : Handing)
  /-- A packet is taken off the stream and reaches a request, or nobody. -/
  | taken (p : Packet) (reached : Option Ticket)
  /-- A request whose frame was handed over is taken back, because the stream says that the connection
  is lost. -/
  | dropped (t : Ticket)
  deriving DecidableEq

/-- The frame that went out, if one did. -/
def Event.sent? : Event → Option Bytes
  | handed h => if h.accepted then some h.frame else none
  | taken _ _ => none
  | dropped _ => none

namespace Exchange

/-- What happens when packets are taken, one after another. -/
def takings (x : Exchange) : List Packet → List Event
  | [] => []
  | p :: packets => .taken p (x.reached p) :: (x.take p).takings packets

end Exchange

namespace Link

variable {σ : Type}

/-- What happens when the reader is let to take what is there. -/
def restEvents (l : Link σ) : List Event :=
  l.exchange.takings l.restPackets

/-- What happens when a frame was handed over: the request is taken back if the stream says that the
connection is lost. -/
def takenBack (t : Ticket) : Except Fault Unit → List Event
  | .error f => if f.isLost then [.dropped t] else []
  | .ok _ => []

/-- What happens in a submission. -/
def submitEvents (r : Request) (l : Link σ) : List Event :=
  match l.handing? r with
  | none => []
  | some h =>
    .handed h :: ((l.enter h.id).wrote h.frame).restEvents ++
      takenBack h.ticket ((transmit h.frame).run (l.enter h.id)).1

/-- Nothing happens in a submission that hands nothing over. -/
theorem submitEvents_of_none {r : Request} {l : Link σ} (h : l.handing? r = none) :
    l.submitEvents r = [] := by
  unfold submitEvents
  rw [h]

/-- What happens in a submission that hands a frame over. -/
theorem submitEvents_of_some {r : Request} {l : Link σ} {h : Handing}
    (hhanding : l.handing? r = some h) :
    l.submitEvents r = .handed h :: ((l.enter h.id).wrote h.frame).restEvents ++
      takenBack h.ticket ((transmit h.frame).run (l.enter h.id)).1 := by
  unfold submitEvents
  rw [hhanding]

end Link

/-! ## Moves -/

namespace Exchange

/-- One step of an exchange, with what happens in it. A request can be taken back only on a stream
that can say that the connection is lost. -/
inductive Move (lossy : Prop) (x : Exchange) : List Event → Exchange → Prop
  /-- The counter of ids moves. -/
  | count (n : Int) : Move lossy x [] { x with counter := n }
  /-- The reader starts. -/
  | listen (hidle : x.reader = .idle) : Move lossy x [] { x with reader := .running }
  /-- A packet is taken. -/
  | take (p : Packet) : Move lossy x [.taken p (x.reached p)] (x.take p)
  /-- The reader stops. -/
  | stop (message : Text) : Move lossy x [] (x.stop message)
  /-- The connection fails, or is closed from this side. -/
  | fail (message : Text) : Move lossy x [] (x.fail message)
  /-- A caller stops waiting. -/
  | abandon (t : Ticket) : Move lossy x [] (x.abandon t).2
  /-- A request is entered, its frame cannot be made, and it is taken back. -/
  | unmade {id : Int} (hhealthy : x.failure = none) (hfree : ∀ e ∈ x.pending, e.1 ≠ id) :
      Move lossy x [] ((x.register id).2.withdraw id)
  /-- A request is entered, and the connection is closed while its frame is made. -/
  | hungUp {id : Int} (hhealthy : x.failure = none) (hfree : ∀ e ∈ x.pending, e.1 ≠ id) :
      Move lossy x [] ((x.register id).2.close.withdraw id)
  /-- A request is entered and its frame handed over. -/
  | hand {h : Handing} (hhealthy : x.failure = none) (hfree : ∀ e ∈ x.pending, e.1 ≠ h.id)
      (hticket : h.ticket = x.progress.size) :
      Move lossy x [.handed h] (x.register h.id).2
  /-- A request whose frame was handed over is taken back. -/
  | withdraw {id : Int} {t : Ticket} (hlossy : lossy) (hlt : t < x.progress.size)
      (hholds : ∀ e ∈ x.pending, e.1 = id → e.2 = t) :
      Move lossy x [.dropped t] (x.withdraw id)

/-- No move takes a ticket back. -/
theorem size_le_of_move {lossy : Prop} {x y : Exchange} {events : List Event} (h : Move lossy x events y) :
    x.progress.size ≤ y.progress.size := by
  have hregister : ∀ id, x.progress.size ≤ (x.register id).2.progress.size := fun id => by
    rw [size_register]
    exact Nat.le_succ _
  cases h with
  | count _ | listen _ | withdraw _ _ _ => exact Nat.le_refl _
  | take p => exact Nat.le_of_eq (size_take x p).symm
  | stop message => exact Nat.le_of_eq (size_fail { x with reader := .stopped } message).symm
  | fail message => exact Nat.le_of_eq (size_fail x message).symm
  | abandon t => exact Nat.le_of_eq (abandon_eq x t).2.symm
  | @unmade id _ _ => exact hregister id
  | @hungUp id _ _ =>
    exact Nat.le_trans (hregister id) (Nat.le_of_eq (size_fail (x.register id).2 closedMessage).symm)
  | hand _ _ _ => exact hregister _

/-- The request whose frame a move hands over has just been entered. -/
theorem entry_of_handed_move {lossy : Prop} {x y : Exchange} {events : List Event} {g : Handing}
    (h : Move lossy x events y) (hg : .handed g ∈ events) :
    g.ticket < y.progress.size ∧ (g.id, g.ticket) ∈ y.pending := by
  cases h with
  | hand _ _ hticket =>
    obtain rfl := Event.handed.inj (List.mem_singleton.mp hg)
    rw [hticket, size_register]
    exact ⟨Nat.lt_succ_self _, List.mem_append_right _ List.mem_cons_self⟩
  | take _ => cases List.mem_singleton.mp hg
  | withdraw _ _ _ => cases List.mem_singleton.mp hg
  | count _ | listen _ | stop _ | fail _ | abandon _ | unmade _ _ | hungUp _ _ => cases hg

/-- Its ticket is new. -/
theorem le_ticket_of_handed_move {lossy : Prop} {x y : Exchange} {events : List Event} {g : Handing}
    (h : Move lossy x events y) (hg : .handed g ∈ events) : x.progress.size ≤ g.ticket := by
  cases h with
  | hand _ _ hticket =>
    obtain rfl := Event.handed.inj (List.mem_singleton.mp hg)
    exact Nat.le_of_eq hticket.symm
  | take _ => cases List.mem_singleton.mp hg
  | withdraw _ _ _ => cases List.mem_singleton.mp hg
  | count _ | listen _ | stop _ | fail _ | abandon _ | unmade _ _ | hungUp _ _ => cases hg

/-- On a stream that never says that the connection is lost, no request is taken back. -/
theorem not_dropped_of_move {lossy : Prop} {x y : Exchange} {events : List Event} (hlossless : ¬ lossy)
    (h : Move lossy x events y) (t : Ticket) : .dropped t ∉ events := by
  intro ht
  cases h with
  | withdraw hlossy _ _ => exact hlossless hlossy
  | take _ => cases List.mem_singleton.mp ht
  | hand _ _ _ => cases List.mem_singleton.mp ht
  | count _ | listen _ | stop _ | fail _ | abandon _ | unmade _ _ | hungUp _ _ => cases ht

/-- Moves, one after another. -/
inductive Moves (lossy : Prop) : Exchange → List Event → Exchange → Prop
  /-- No move. -/
  | none (x : Exchange) : Moves lossy x [] x
  /-- A move after others. -/
  | step {x y z : Exchange} {before events : List Event} (h : Moves lossy x before y)
      (hmove : Move lossy y events z) : Moves lossy x (before ++ events) z

namespace Moves

variable {lossy : Prop} {x y z : Exchange} {events others : List Event}

/-- One move. -/
theorem one (h : Move lossy x events y) : Moves lossy x events y :=
  .step (.none x) h

/-- Moves after moves. -/
theorem trans (h : Moves lossy x events y) (h' : Moves lossy y others z) :
    Moves lossy x (events ++ others) z := by
  induction h' with
  | none => rwa [List.append_nil]
  | step _ hmove ih =>
    rw [← List.append_assoc]
    exact .step ih hmove

/-- Packets are taken one by one. -/
theorem takings (x : Exchange) (packets : List Packet) :
    Moves lossy x (x.takings packets) (x.takeAll packets) := by
  induction packets generalizing x with
  | nil => exact .none x
  | cons p packets ih => exact (one (.take p)).trans (ih (x.take p))

end Moves

end Exchange

namespace Link

variable {σ : Type} {lossy : Prop}

/-- A reader that is let to makes moves. -/
theorem moves_rest (l : Link σ) :
    Exchange.Moves lossy l.exchange l.restEvents l.rest.exchange := by
  have htakings : Exchange.Moves lossy l.exchange l.restEvents (l.exchange.takeAll l.restPackets) :=
    .takings _ _
  rcases exchange_rest l with hrest | ⟨message, hrest⟩
  · rw [hrest]
    exact htakings
  · rw [hrest]
    have := htakings.step (.stop message)
    rwa [List.append_nil] at this

/-- Entering a request and handing its frame over makes moves. -/
theorem moves_transmit {lossy : Prop} {r : Request} {l : Link σ} {h : Handing}
    (hhanding : l.handing? r = some h) :
    Exchange.Moves lossy l.exchange
      (.handed h :: ((l.enter h.id).wrote h.frame).restEvents)
      ((transmit h.frame).run (l.enter h.id)).2.exchange := by
  obtain ⟨hhealthy, hid, hticket, -, -⟩ := handing?_eq_some hhanding
  have hcount : Exchange.Moves lossy l.exchange [] l.exchange.nextId.2 := by
    rw [Exchange.nextId_eq]
    exact .one (.count _)
  have henter := hcount.step
    (.hand hhealthy (Exchange.nextId_free (x := l.exchange) hid) hticket)
  rw [exchange_transmit]
  exact henter.trans (moves_rest ((l.enter h.id).wrote h.frame))

/-- Nobody else holds the id of a request whose frame was handed over. -/
theorem holds_transmit {r : Request} {l : Link σ} {h : Handing} (hhanding : l.handing? r = some h) :
    h.ticket < ((transmit h.frame).run (l.enter h.id)).2.exchange.progress.size ∧
      ∀ e ∈ ((transmit h.frame).run (l.enter h.id)).2.exchange.pending,
        e.1 = h.id → e.2 = h.ticket := by
  obtain ⟨-, hid, hticket, -, -⟩ := handing?_eq_some hhanding
  rw [exchange_transmit, size_rest, hticket]
  constructor
  · show _ < (l.exchange.progress.push .waiting).size
    rw [Array.size_push]
    exact Nat.lt_succ_self _
  · intro e he heid
    have hmem : e ∈ ((l.enter h.id).wrote h.frame).exchange.pending := pending_rest he
    exact ticket_enter hid e hmem heid

/-- A submission makes moves. -/
theorem moves_submit (r : Request) (l : Link σ) :
    Exchange.Moves l.line.peer.Lossy l.exchange (l.submitEvents r)
      ((submit r).run l).2.exchange := by
  have hsubmitted := submitted r l
  generalize ((submit r).run l).1 = result at hsubmitted
  generalize ((submit r).run l).2 = l' at hsubmitted ⊢
  have hcount : Exchange.Moves l.line.peer.Lossy l.exchange [] l.exchange.nextId.2 := by
    rw [Exchange.nextId_eq]
    exact .one (.count _)
  cases hsubmitted with
  | refused hfailed =>
    rw [submitEvents_of_none (handing?_eq_none (.inl (by rw [hfailed]; exact nofun)))]
    exact .none _
  | exhausted _ hnone =>
    rw [submitEvents_of_none (handing?_eq_none (.inr (.inl hnone)))]
    exact hcount
  | unmade hhealthy hid hframe _ =>
    rw [submitEvents_of_none (handing?_eq_none (.inr (.inr (.inr ⟨_, _, hid, hframe⟩))))]
    exact hcount.step (.unmade hhealthy (Exchange.nextId_free (x := l.exchange) hid))
  | hungUp hhealthy hid hhangsUp =>
    rw [submitEvents_of_none (handing?_eq_none (.inr (.inr (.inl hhangsUp))))]
    exact hcount.step (.hungUp hhealthy (Exchange.nextId_free (x := l.exchange) hid))
  | sent hhanding hsent =>
    rw [submitEvents_of_some hhanding, hsent, takenBack, List.append_nil]
    exact moves_transmit hhanding
  | @faulted h f g l' hhanding hfault hexchange _ =>
    obtain ⟨hlt, hholds⟩ := holds_transmit hhanding
    rw [submitEvents_of_some hhanding, hexchange, hfault, takenBack]
    unfold Exchange.afterFault
    by_cases hlost : f.isLost
    · rw [if_pos hlost, if_pos hlost]
      have hlossy : (l.enter h.id).line.peer.Lossy := lossy_of_transmit hfault hlost
      exact (moves_transmit hhanding).step (.withdraw hlossy hlt hholds)
    · rw [if_neg hlost, if_neg hlost]
      by_cases hfatal : f.isSystem || f.isInvalid
      · rw [if_pos hfatal]
        exact (moves_transmit hhanding).step (.fail _)
      · rw [if_neg hfatal, List.append_nil]
        exact moves_transmit hhanding

end Link

end Sftp

