import Sftp.Proofs.Link.Moves

/-!
# Allotment of ids

A new id is allotted from the counter, whatever the counter is and whatever stands in the table, and a
request is entered under an id that nobody has. So no request takes the place of another: one that waits
leaves the table only because a packet comes with its id, or because the connection fails.

* `Link.Allots` — an id is allotted, and the counter moves past it; `Link.run_nextId_eq_ok_iff` and
  `Link.run_nextId_eq_error_iff` — looking for an id allots one, or there is none.
* `Link.Keeps` — a request is kept through a submission, or has a reason to leave the table;
  `Link.keeps_submit` — every submission does this to every request.
* `Link.mem_pending_submit` — what is in the table afterwards.
* **`Link.allots_first_free`** — which id is allotted, when there is none, and that a submission puts no
  request in the place of another.
-/

namespace Sftp

/-- A packet that is among those that are taken is taken. -/
theorem Exchange.exists_taken {x : Exchange} {packets : List Packet} {p : Packet} (h : p ∈ packets) :
    ∃ reached, Event.taken p reached ∈ x.takings packets := by
  induction packets generalizing x with
  | nil => cases h
  | cons q packets ih =>
    rcases List.mem_cons.mp h with rfl | hlater
    · exact ⟨x.reached p, List.mem_cons_self⟩
    · obtain ⟨reached, htaken⟩ := ih (x := x.take q) hlater
      exact ⟨reached, List.mem_cons_of_mem _ htaken⟩

namespace Link

variable {σ : Type} {l l' : Link σ} {id : Int}

/-! ## Which id is allotted -/

/-- An id is allotted: the first one from the counter on that is free, after no more taken ones than there
are requests. The counter moves past it, and nothing else changes. -/
structure Allots (l : Link σ) (id : Int) (l' : Link σ) : Prop where
  /-- It is the first one that is free. -/
  first : ∃ skipped ≤ l.exchange.pending.length, l.exchange.FirstFree l.exchange.counter skipped ∧
    id = (l.exchange.counter + skipped) % Exchange.idCount ∧
    l' = { l with exchange := { l.exchange with counter := l.exchange.counter + skipped + 1 } }
  /-- It fits four bytes. -/
  range : 0 ≤ id ∧ id < Exchange.idCount

/-- Looking for an id allots one, or there is none. -/
theorem run_nextId_cases (l : Link σ) :
    (∃ id l', nextId.run l = (.ok id, l') ∧ l.Allots id l') ∨
      l.exchange.nextId.1 = none ∧ (nextId.run l).1 = .error .noFreeId := by
  rw [run_nextId]
  rcases l.exchange.nextId_cases with ⟨skipped, hle, hfirst, hfound⟩ | ⟨-, hnone⟩
  · rw [hfound]
    exact .inl ⟨_, _, rfl, ⟨skipped, hle, hfirst, rfl, rfl⟩,
      Exchange.nextId_range (congrArg Prod.fst hfound)⟩
  · rw [hnone]
    exact .inr ⟨rfl, rfl⟩

/-- Only one id can be allotted, and in only one way. -/
theorem Allots.unique (h : l.Allots id l') {other : Int} {m : Link σ} (h' : l.Allots other m) :
    id = other ∧ l' = m := by
  obtain ⟨skipped, -, hfirst, rfl, rfl⟩ := h.first
  obtain ⟨others, -, hfirst', rfl, rfl⟩ := h'.first
  obtain rfl := hfirst.unique hfirst'
  exact ⟨rfl, rfl⟩

/-- An id that is allotted was free. -/
theorem Allots.isPending_eq_false (h : l.Allots id l') : l.exchange.isPending id = false := by
  obtain ⟨skipped, -, hfirst, rfl, -⟩ := h.first
  exact hfirst.free

/-- Looking for an id gives the one that is allotted. -/
theorem run_nextId_eq_ok_iff : nextId.run l = (.ok id, l') ↔ l.Allots id l' := by
  rcases l.run_nextId_cases with ⟨other, m, hrun, hallots⟩ | ⟨hnone, hrun⟩
  · rw [hrun]
    constructor
    · intro h
      obtain ⟨hid, rfl⟩ := Prod.mk.inj h
      obtain rfl := Except.ok.inj hid
      exact hallots
    · intro h
      obtain ⟨rfl, rfl⟩ := hallots.unique h
      rfl
  · constructor
    · intro h
      rw [h] at hrun
      cases hrun
    · intro h
      have htaken := Exchange.nextId_eq_none_iff.mp hnone id h.range.1 h.range.2
      cases htaken.symm.trans h.isPending_eq_false

/-- Looking for an id faults exactly if all of them are taken. -/
theorem run_nextId_eq_error_iff {f : Fault} : (nextId.run l).1 = .error f ↔
    f = .noFreeId ∧ ∀ id, 0 ≤ id → id < Exchange.idCount → l.exchange.isPending id = true := by
  rw [← Exchange.nextId_eq_none_iff]
  rcases l.run_nextId_cases with ⟨id, l', hrun, hallots⟩ | ⟨hnone, hrun⟩
  · rw [hrun]
    refine ⟨nofun, fun ⟨_, hnone⟩ => ?_⟩
    have htaken := Exchange.nextId_eq_none_iff.mp hnone id hallots.range.1 hallots.range.2
    cases htaken.symm.trans hallots.isPending_eq_false
  · rw [hrun]
    exact ⟨fun h => ⟨(Except.error.inj h).symm, hnone⟩, fun h => congrArg Except.error h.1.symm⟩

/-! ## The table -/

/-- A request of the table is kept, or leaves it for a reason: the connection has failed, or a packet with its
id is among the events. -/
def Keeps (x : Exchange) (events : List Event) (y : Exchange) : Prop :=
  ∀ e ∈ x.pending, e ∈ y.pending ∨ (x.failure = none ∧ y.failure ≠ none) ∨
    ∃ p reached, .taken p reached ∈ events ∧ p.id? = some e.1

/-- More events may be reasons for more. -/
theorem Keeps.mono {x y : Exchange} {events others : List Event} (h : Keeps x events y)
    (hsubset : events ⊆ others) : Keeps x others y := by
  intro e he
  rcases h e he with hkept | hfailed | ⟨p, reached, htaken, hid⟩
  · exact .inl hkept
  · exact .inr (.inl hfailed)
  · exact .inr (.inr ⟨p, reached, hsubset htaken, hid⟩)

/-- What follows a fault takes back no request but the one that it belongs to, unless the connection fails. -/
theorem Keeps.afterFault {x y : Exchange} {events : List Event} (h : Keeps x events y)
    (hhealthy : x.failure = none) (hfree : ∀ e ∈ x.pending, e.1 ≠ id) (f : Fault) :
    Keeps x events (y.afterFault id f) := by
  intro e he
  unfold Exchange.afterFault
  by_cases hlost : f.isLost
  · rw [if_pos hlost]
    rcases h e he with hkept | hreason
    · exact .inl (List.mem_filter.mpr ⟨hkept, decide_eq_true (hfree e he)⟩)
    · exact .inr hreason
  · rw [if_neg hlost]
    by_cases hfatal : f.isSystem || f.isInvalid
    · rw [if_pos hfatal]
      exact .inr (.inl ⟨hhealthy, nofun⟩)
    · rw [if_neg hfatal]
      exact h e he

/-- What follows a fault adds no request. -/
theorem mem_pending_afterFault {x : Exchange} {f : Fault} {e : Int × Ticket}
    (he : e ∈ (x.afterFault id f).pending) : e ∈ x.pending := by
  unfold Exchange.afterFault at he
  by_cases hlost : f.isLost
  · rw [if_pos hlost] at he
    exact (List.mem_filter.mp he).1
  · rw [if_neg hlost] at he
    by_cases hfatal : f.isSystem || f.isInvalid
    · rw [if_pos hfatal] at he
      cases he
    · rwa [if_neg hfatal] at he

/-- A reader keeps the requests that no packet comes for. -/
theorem keeps_rest (l : Link σ) (hhealthy : l.exchange.failure = none) :
    Keeps l.exchange l.restEvents l.rest.exchange := by
  intro e he
  rcases exchange_rest l with hrest | ⟨message, hrest⟩
  · by_cases hcome : ∃ p ∈ l.restPackets, p.id? = some e.1
    · obtain ⟨p, hp, hid⟩ := hcome
      obtain ⟨reached, htaken⟩ := Exchange.exists_taken (x := l.exchange) hp
      exact .inr (.inr ⟨p, reached, htaken, hid⟩)
    · refine .inl ?_
      rw [hrest, Exchange.pending_takeAll]
      exact List.mem_filter.mpr ⟨he, decide_eq_true fun p hp hid => hcome ⟨p, hp, hid⟩⟩
  · refine .inr (.inl ⟨hhealthy, ?_⟩)
    rw [hrest]
    exact nofun

/-- Handing the frame of a new request over keeps the requests that no packet comes for. -/
theorem keeps_transmit {r : Request} {h : Handing} (hhanding : l.handing? r = some h) :
    Keeps l.exchange (l.submitEvents r) ((transmit h.frame).run (l.enter h.id)).2.exchange := by
  have hkeeps := keeps_rest ((l.enter h.id).wrote h.frame) (handing?_eq_some hhanding).1
  rw [exchange_transmit, submitEvents_of_some hhanding]
  have hwritten : Keeps l.exchange ((l.enter h.id).wrote h.frame).restEvents
      ((l.enter h.id).wrote h.frame).rest.exchange :=
    fun e he => hkeeps e (List.mem_append_left _ he)
  exact hwritten.mono fun _ hmem => List.mem_append_left _ (List.mem_cons_of_mem _ hmem)

/-- **A submission keeps every request** that the table has, unless a packet comes for it or the connection
fails. -/
theorem keeps_submit (r : Request) (l : Link σ) :
    Keeps l.exchange (l.submitEvents r) ((submit r).run l).2.exchange := by
  have hsubmitted := submitted r l
  generalize ((submit r).run l).1 = result at hsubmitted
  generalize ((submit r).run l).2 = l' at hsubmitted ⊢
  cases hsubmitted with
  | refused => exact fun e he => .inl he
  | exhausted => exact fun e he => .inl he
  | unmade _ hid =>
    intro e he
    refine .inl ?_
    rwa [pending_withdraw_enter hid]
  | hungUp hhealthy => exact fun e _ => .inr (.inl ⟨hhealthy, nofun⟩)
  | sent hhanding => exact keeps_transmit hhanding
  | @faulted h f _ _ hhanding _ hexchange =>
    obtain ⟨hhealthy, hid, -⟩ := handing?_eq_some hhanding
    rw [hexchange]
    exact (keeps_transmit hhanding).afterFault hhealthy (Exchange.nextId_free hid) f

/-- A request that is in the table once a frame was handed over was there before, or the frame is its own. -/
theorem mem_pending_transmit {r : Request} {h : Handing} (hhanding : l.handing? r = some h)
    {e : Int × Ticket} (he : e ∈ ((transmit h.frame).run (l.enter h.id)).2.exchange.pending) :
    e ∈ l.exchange.pending ∨ e = (h.id, h.ticket) := by
  obtain ⟨-, -, hticket, -⟩ := handing?_eq_some hhanding
  rw [exchange_transmit] at he
  rcases List.mem_append.mp (pending_rest he) with hold | hnew
  · exact .inl hold
  · rw [hticket]
    exact .inr (List.mem_singleton.mp hnew)

/-- **A submission adds no request but the new one**, and that under an id that was free. -/
theorem mem_pending_submit {r : Request} {e : Int × Ticket}
    (he : e ∈ ((submit r).run l).2.exchange.pending) :
    e ∈ l.exchange.pending ∨
      ∃ h, l.handing? r = some h ∧ e = (h.id, h.ticket) ∧ l.exchange.isPending h.id = false := by
  have hsubmitted := submitted r l
  generalize ((submit r).run l).1 = result at hsubmitted
  generalize ((submit r).run l).2 = l' at hsubmitted he
  have hfree : ∀ h, l.handing? r = some h → l.exchange.isPending h.id = false := by
    intro h hhanding
    obtain ⟨-, hid, -⟩ := handing?_eq_some hhanding
    exact Exchange.isPending_eq_false_iff.mpr (Exchange.nextId_free hid)
  cases hsubmitted with
  | refused => exact .inl he
  | exhausted => exact .inl he
  | unmade _ hid =>
    rw [pending_withdraw_enter hid] at he
    exact .inl he
  | hungUp => cases he
  | sent hhanding =>
    rcases mem_pending_transmit hhanding he with hold | hnew
    · exact .inl hold
    · exact .inr ⟨_, hhanding, hnew, hfree _ hhanding⟩
  | faulted hhanding _ hexchange =>
    rw [hexchange] at he
    rcases mem_pending_transmit hhanding (mem_pending_afterFault he) with hold | hnew
    · exact .inl hold
    · exact .inr ⟨_, hhanding, hnew, hfree _ hhanding⟩

/-- **The id that is allotted is the first free one.** From the counter on, whatever it is, the first id that
no request has is given, as a number of four bytes, after no more taken ones than there are requests; there
is none exactly if all ids are taken. So a submission keeps the requests that the table has, and enters the new
one under an id that none of them had. -/
theorem allots_first_free (l : Link σ) :
    (∀ id l', nextId.run l = (.ok id, l') ↔ l.Allots id l') ∧
      (∀ f, (nextId.run l).1 = .error f ↔
        f = .noFreeId ∧ ∀ id, 0 ≤ id → id < Exchange.idCount → l.exchange.isPending id = true) ∧
      ∀ r, Keeps l.exchange (l.submitEvents r) ((submit r).run l).2.exchange ∧
        ∀ e ∈ ((submit r).run l).2.exchange.pending, e ∈ l.exchange.pending ∨
          ∃ h, l.handing? r = some h ∧ e = (h.id, h.ticket) ∧ l.exchange.isPending h.id = false :=
  ⟨fun _ _ => run_nextId_eq_ok_iff, fun _ => run_nextId_eq_error_iff,
    fun r => ⟨keeps_submit r l, fun _ he => mem_pending_submit he⟩⟩

end Link

end Sftp
