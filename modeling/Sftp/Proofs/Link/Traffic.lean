import Mathlib.Logic.Function.Basic
import Sftp.Proofs.Link.History

/-!
# Submissions that overlap

Senders do not wait for one another. While a submission is under way others begin and end, frames come,
callers give up, and the connection may be closed. `Traffic` is a link together with the submissions under way
on it. A turn is an operation as a whole or one part of one submission, and the turns of a run come in any
order. Senders that write keep each other out; here they need not, which only makes for more runs. A caller that
waits does nothing to the link while it does, and giving up is an operation.

* `Sender.advance`, `Sender.events` — the next part of a submission, and what happens in it.
* `Traffic.Turn`, `Traffic.turn`, `Link.traffic` — turns and runs of them; `Traffic.early` — the requests that a
  packet reached when their frames were still to be handed over. `Timely` says of events that there are none.
* `Link.traffic_ops` — turns that are whole operations make a history.
* `Traffic.uninterrupted` — the parts of a submission are measured against `Link.submit`, which they are if nothing
  comes between them.
* `Traffic.conveys_run` — what goes out over the stream is what the events of a run say;
  `Traffic.parcel_of_handed` — a frame that is handed over is made for the id that was allotted.
-/

namespace Sftp

variable {σ : Type}

/-! ## Senders -/

/-- How far a submission has come. -/
inductive Stage
  /-- The request is entered, and its packet is being made. -/
  | entered
  /-- The packet and its frame are made. -/
  | made (packet : Packet) (frame : Bytes)
  /-- The connection was found to be alive, and the frame is about to be handed over. -/
  | cleared (packet : Packet) (frame : Bytes)
  /-- The stream took the frame and is to be flushed. -/
  | written
  /-- The connection was found to have failed. What that calls for is still to be done. -/
  | refused (f : Fault)
  /-- The stream faulted when it was given the frame. What that calls for is still to be done. -/
  | faulted (f : Fault)
  /-- The submission has ended. -/
  | ended
  deriving DecidableEq

/-- A submission that is under way. -/
structure Sender where
  /-- What is asked. -/
  request : Request
  /-- The id that was allotted. -/
  id : Int
  /-- The ticket of the request. -/
  ticket : Ticket
  /-- How far it has come. -/
  stage : Stage := .entered

namespace Sender

/-- The entry of a request whose frame is still to be handed over. -/
def reserved? (s : Sender) : Option (Int × Ticket) :=
  match s.stage with
  | .entered | .made _ _ | .cleared _ _ => some (s.id, s.ticket)
  | .written | .refused _ | .faulted _ | .ended => none

/-- The next part of a submission: the stage to which it comes, and the link afterwards. -/
def advance (s : Sender) (l : Link σ) : Stage × Link σ :=
  match s.stage with
  | .entered =>
    match (Link.make s.request s.id).run l with
    | (.ok (packet, frame), l') => (.made packet frame, l')
    | (.error _, l') => (.ended, l')
  | .made packet frame =>
    match Link.ensureHealthy.run l with
    | (.ok _, l') => (.cleared packet frame, l')
    | (.error f, l') => (.refused f, l')
  | .cleared _ frame =>
    match (Link.write frame).run l with
    | (.ok _, l') => (.written, l')
    | (.error f, l') => (.faulted f, l')
  | .written =>
    match Link.flush.run l with
    | (.ok _, l') => (.ended, l')
    | (.error f, l') => (.faulted f, l')
  | .refused f | .faulted f => (.ended, ((Link.writeFailed s.id f).run l).2)
  | .ended => (.ended, l)

/-- What happens in the next part of a submission. -/
def events (s : Sender) (l : Link σ) : List Event :=
  match s.stage with
  | .cleared packet frame =>
    let accepted := (l.line.write frame).1.isNone
    .handed { id := s.id, ticket := s.ticket, packet, frame, accepted } :: (l.wrote frame).restEvents
  | .faulted f => Link.takenBack s.ticket (.error f)
  | .entered | .made _ _ | .written | .refused _ | .ended => []

variable {s : Sender} {packet : Packet} {frame : Bytes} {f : Fault}

/-- A packet is made, or the request leaves the table. -/
theorem advance_entered (h : s.stage = .entered) (l : Link σ) :
    s.advance l =
      match Link.Request.parcel s.request s.id with
      | .ok (packet, frame) => (.made packet frame, l.afterMaking s.request)
      | .error _ =>
        (.ended, { l.afterMaking s.request with
          exchange := (l.afterMaking s.request).exchange.withdraw s.id }) := by
  rw [advance, h]
  simp only
  rw [Link.run_make]
  cases Link.Request.parcel s.request s.id with
  | error f => rfl
  | ok parcel => rfl

/-- The connection is found to be alive or to have failed. -/
theorem advance_made (h : s.stage = .made packet frame) (l : Link σ) :
    s.advance l =
      (match l.exchange.failure with
        | some message => .refused (.lost message)
        | none => .cleared packet frame, l) := by
  rw [advance, h]
  simp only
  rw [Link.run_ensureHealthy]
  cases l.exchange.failure with
  | some message => rfl
  | none => rfl

/-- The frame is handed over, and what arrives is taken. -/
theorem advance_cleared (h : s.stage = .cleared packet frame) (l : Link σ) :
    s.advance l =
      (match (l.line.write frame).1 with
        | some f => .faulted f
        | none => .written, (l.wrote frame).rest) := by
  rw [advance, h]
  simp only
  rw [Link.run_write]
  cases (l.line.write frame).1 with
  | some f => rfl
  | none => rfl

/-- The stream is flushed. -/
theorem advance_written (h : s.stage = .written) (l : Link σ) :
    s.advance l =
      (match l.line.flush.1 with
        | some f => .faulted f
        | none => .ended, { l with line := l.line.flush.2 }) := by
  rw [advance, h]
  simp only
  rw [Link.run_flush]
  cases l.line.flush.1 with
  | some f => rfl
  | none => rfl

/-- What a fault calls for is done. -/
theorem advance_faulted (h : s.stage = .refused f ∨ s.stage = .faulted f) (l : Link σ) :
    s.advance l = (.ended, ((Link.writeFailed s.id f).run l).2) := by
  rcases h with h | h
  · rw [advance, h]
  · rw [advance, h]

/-- A submission that has ended stays so. -/
theorem advance_ended (h : s.stage = .ended) (l : Link σ) : s.advance l = (.ended, l) := by
  rw [advance, h]

end Sender

/-- The entries of the requests whose frames are still to be handed over, by sender. -/
def unsentOf (senders : List Sender) (i : Nat) : Option (Int × Ticket) :=
  senders[i]?.bind Sender.reserved?

/-- When a sender has advanced, only its own entry can be another. -/
theorem unsentOf_set {senders : List Sender} {i : Nat} (h : i < senders.length) (s : Sender) :
    unsentOf (senders.set i s) = Function.update (unsentOf senders) i s.reserved? := by
  funext j
  unfold unsentOf
  by_cases hj : j = i
  · subst hj
    rw [List.getElem?_set_self h, Function.update_self]
    rfl
  · rw [List.getElem?_set_ne (Ne.symm hj), Function.update_of_ne hj]

/-- A new sender comes after all others. -/
theorem unsentOf_append (senders : List Sender) (s : Sender) :
    unsentOf (senders ++ [s]) = Function.update (unsentOf senders) senders.length s.reserved? := by
  funext j
  unfold unsentOf
  by_cases hj : j = senders.length
  · subst hj
    rw [List.getElem?_concat_length, Function.update_self]
    rfl
  · rw [Function.update_of_ne hj, List.getElem?_append]
    split
    · rfl
    · rename_i hge
      have hlast : senders.length < j := by omega
      rw [List.getElem?_eq_none (by simp; omega), List.getElem?_eq_none (by omega)]

/-! ## Traffic -/

/-- Whether a packet was taken and reached the request. -/
def Event.reaches (t : Ticket) : Event → Bool
  | taken _ reached => reached = some t
  | handed _ | dropped _ => false

/-- No packet reached a request under one of these ids whose frame was still to be handed over. -/
def Timely (spared : Int → Prop) (unsent : Nat → Option (Int × Ticket)) (events : List Event) : Prop :=
  ∀ i e, unsent i = some e → spared e.1 → ∀ p, .taken p (some e.2) ∉ events

section Timely

variable {spared : Int → Prop} {unsent : Nat → Option (Int × Ticket)} {events more : List Event}

/-- When nothing happens, nobody is reached. -/
theorem timely_nil : Timely spared unsent [] :=
  fun _ _ _ _ _ => List.not_mem_nil

/-- Events are timely together if the first and the later ones are. -/
theorem timely_append_iff :
    Timely spared unsent (events ++ more) ↔ Timely spared unsent events ∧ Timely spared unsent more := by
  constructor
  · intro h
    exact ⟨fun i e he hspared p hp => h i e he hspared p (List.mem_append_left _ hp),
      fun i e he hspared p hp => h i e he hspared p (List.mem_append_right _ hp)⟩
  · rintro ⟨hfirst, hlast⟩ i e he hspared p hp
    rcases List.mem_append.mp hp with hp | hp
    · exact hfirst i e he hspared p hp
    · exact hlast i e he hspared p hp

end Timely

/-- A link, the submissions under way on it, and what has happened. -/
structure Traffic (σ : Type) where
  /-- The link as it is now. -/
  link : Link σ
  /-- The submissions, in the order in which they began. -/
  senders : List Sender := []
  /-- What has happened, first event first. -/
  events : List Event := []
  /-- The entries of the requests that a packet reached too early, when their frames were still to be handed
  over. -/
  early : List (Int × Ticket) := []

namespace Traffic

/-- What can be done next. -/
inductive Turn (σ : Type)
  /-- An operation is done as a whole. -/
  | op (o : Op σ)
  /-- A submission begins: the request is entered. -/
  | enter (r : Request)
  /-- A submission that is under way goes one part further. -/
  | proceed (i : Nat)

/-- The traffic when the link and the senders have changed. -/
def next (c : Traffic σ) (link : Link σ) (senders : List Sender) (events : List Event) : Traffic σ where
  link
  senders
  events := c.events ++ events
  early := c.early ++ (senders.filterMap Sender.reserved?).filter fun e => events.any (Event.reaches e.2)

/-- The traffic after a turn. -/
def turn (c : Traffic σ) : Turn σ → Traffic σ
  | .op o => c.next (o.perform c.link) c.senders (o.events c.link)
  | .enter r =>
    match Link.enroll.run c.link with
    | (.ok (id, ticket), l) => c.next l (c.senders ++ [{ request := r, id, ticket }]) []
    | (.error _, l) => c.next l c.senders []
  | .proceed i =>
    match c.senders[i]? with
    | some s =>
      let (stage, l) := s.advance c.link
      c.next l (c.senders.set i { s with stage }) (s.events c.link)
    | none => c

/-- The traffic after turns, one after another. -/
def run (c : Traffic σ) (turns : List (Turn σ)) : Traffic σ :=
  turns.foldl turn c

/-- The entries of the requests whose frames are still to be handed over. -/
def unsent (c : Traffic σ) : Nat → Option (Int × Ticket) :=
  unsentOf c.senders

theorem mem_entries_iff {senders : List Sender} {e : Int × Ticket} :
    e ∈ senders.filterMap Sender.reserved? ↔ ∃ i, unsentOf senders i = some e := by
  unfold unsentOf
  rw [List.mem_filterMap]
  constructor
  · rintro ⟨s, hs, hentry⟩
    obtain ⟨i, hi⟩ := List.mem_iff_getElem?.mp hs
    exact ⟨i, by rw [hi]; exact hentry⟩
  · rintro ⟨i, hi⟩
    obtain ⟨s, hs, hentry⟩ := Option.bind_eq_some_iff.mp hi
    exact ⟨s, List.mem_of_getElem? hs, hentry⟩

/-- Nobody was reached too early under one of these ids. -/
def Spares (c : Traffic σ) (spared : Int → Prop) : Prop :=
  ∀ e ∈ c.early, ¬ spared e.1

section next

variable {c : Traffic σ} {l : Link σ} {senders : List Sender} {events : List Event}

/-- Whoever was reached too early was so before, or was reached now and has a frame that is still to be handed
over. -/
theorem mem_early_next_iff {e : Int × Ticket} :
    e ∈ (c.next l senders events).early ↔
      e ∈ c.early ∨ (∃ i, unsentOf senders i = some e) ∧ ∃ p, .taken p (some e.2) ∈ events := by
  show e ∈ c.early ++ _ ↔ _
  rw [List.mem_append, List.mem_filter, mem_entries_iff, List.any_eq_true]
  refine or_congr_right (and_congr_right fun _ => ⟨?_, ?_⟩)
  · rintro ⟨event, hevent, hreaches⟩
    cases event with
    | handed _ | dropped _ => cases hreaches
    | taken p reached =>
      obtain rfl := of_decide_eq_true hreaches
      exact ⟨p, hevent⟩
  · rintro ⟨p, hp⟩
    exact ⟨_, hp, decide_eq_true rfl⟩

/-- Ids are spared if they were before and the new events are timely. -/
theorem spares_next_iff {spared : Int → Prop} :
    (c.next l senders events).Spares spared ↔ c.Spares spared ∧ Timely spared (unsentOf senders) events := by
  constructor
  · intro h
    refine ⟨fun e he => h e (mem_early_next_iff.mpr (.inl he)), fun i e he hspared p hp => ?_⟩
    exact h e (mem_early_next_iff.mpr (.inr ⟨⟨i, he⟩, p, hp⟩)) hspared
  · rintro ⟨hbefore, htimely⟩ e he hspared
    rcases mem_early_next_iff.mp he with hold | ⟨⟨i, hi⟩, p, hp⟩
    · exact hbefore e hold hspared
    · exact htimely i e hi hspared p hp

/-- Nobody is reached too early if nobody was and the new events are timely, whatever the id. -/
theorem early_next_eq_nil (hbefore : c.early = []) (htimely : Timely (fun _ => True) (unsentOf senders) events) :
    (c.next l senders events).early = [] := by
  refine List.eq_nil_iff_forall_not_mem.mpr fun e he => ?_
  rcases mem_early_next_iff.mp he with hold | ⟨⟨i, hi⟩, p, hp⟩
  · rw [hbefore] at hold
    cases hold
  · exact htimely i e hi trivial p hp

end next

/-- When nothing becomes of the link and the senders, nothing becomes of the traffic. -/
theorem next_self (c : Traffic σ) : c.next c.link c.senders [] = c := by
  have hnobody : (c.senders.filterMap Sender.reserved?).filter
      (fun e => [].any (Event.reaches e.2)) = [] := List.filter_eq_nil_iff.mpr fun _ _ => nofun
  show Traffic.mk c.link c.senders (c.events ++ []) (c.early ++ _) = c
  rw [hnobody, List.append_nil, List.append_nil]

/-- A turn adds to what has happened. -/
theorem exists_next (c : Traffic σ) (t : Turn σ) : ∃ l senders new, c.turn t = c.next l senders new := by
  cases t with
  | op o => exact ⟨_, _, _, rfl⟩
  | enter r =>
    rw [turn]
    rcases Link.enroll.run c.link with ⟨f | entry, l⟩
    · exact ⟨_, _, _, rfl⟩
    · exact ⟨_, _, _, rfl⟩
  | proceed i =>
    rw [turn]
    cases c.senders[i]? with
    | none => exact ⟨_, _, _, (next_self c).symm⟩
    | some s => exact ⟨_, _, _, rfl⟩

/-- What every turn keeps, a run keeps. -/
theorem run_induction {motive : Traffic σ → Prop} {c : Traffic σ} (hstart : motive c)
    (hturn : ∀ c t, motive c → motive (c.turn t)) (turns : List (Turn σ)) : motive (c.run turns) := by
  induction turns generalizing c with
  | nil => exact hstart
  | cons t turns ih => exact ih (hturn c t hstart)

end Traffic

/-- The traffic on a link in a run of turns. -/
def Link.traffic (l : Link σ) (turns : List (Traffic.Turn σ)) : Traffic σ :=
  ({ link := l } : Traffic σ).run turns

/-- The last turn of a run is done when the others are. -/
theorem Link.traffic_concat (l : Link σ) (turns : List (Traffic.Turn σ)) (t : Traffic.Turn σ) :
    l.traffic (turns ++ [t]) = (l.traffic turns).turn t :=
  List.foldl_concat ..

/-! ## Turns without overlap -/

/-- Turns that are whole operations make a history, and nobody is reached too early in it. -/
theorem Link.traffic_ops (l : Link σ) (ops : List (Op σ)) :
    l.traffic (ops.map .op) =
      { link := (l.history ops).link, events := (l.history ops).events } := by
  have hrun : ∀ h : History σ, ({ link := h.link, events := h.events } : Traffic σ).run (ops.map .op) =
      { link := (h.run ops).link, events := (h.run ops).events } := by
    induction ops with
    | nil => exact fun _ => rfl
    | cons op ops ih =>
      intro h
      exact ih (h.step op)
  exact hrun { link := l }

namespace Sender

/-- A submission that goes on alone, and what happens in it. -/
def alone : Nat → Sender → Link σ → Link σ × List Event
  | 0, _, l => (l, [])
  | parts + 1, s, l =>
    let later := alone parts { s with stage := (s.advance l).1 } (s.advance l).2
    (later.1, s.events l ++ later.2)

variable {s : Sender} {packet : Packet} {frame : Bytes} {f : Fault}

/-- Nothing more is done when a submission has ended. -/
theorem alone_ended (parts : Nat) (h : s.stage = .ended) (l : Link σ) : s.alone parts l = (l, []) := by
  induction parts generalizing s with
  | zero => rfl
  | succ parts ih =>
    rw [alone, advance_ended h, ih rfl, events, h]
    rfl

/-- A submission that was refused takes one part more. -/
theorem alone_refused (parts : Nat) (h : s.stage = .refused f) (l : Link σ) :
    s.alone (parts + 1) l = (((Link.writeFailed s.id f).run l).2, []) := by
  rw [alone, advance_faulted (.inl h), alone_ended parts rfl, events, h]
  rfl

/-- A submission that met with a fault takes one part more. -/
theorem alone_faulted (parts : Nat) (h : s.stage = .faulted f) (l : Link σ) :
    s.alone (parts + 1) l = (((Link.writeFailed s.id f).run l).2, Link.takenBack s.ticket (.error f)) := by
  rw [alone, advance_faulted (.inr h), alone_ended parts rfl, events, h]
  show (_, _ ++ []) = _
  rw [List.append_nil]

/-- The frame is handed over in one part, and another flushes the stream; if one of them finds a fault, the next does
what that calls for. -/
theorem alone_cleared (h : s.stage = .cleared packet frame) (l : Link σ) :
    s.alone 3 l =
      (match (Link.transmit frame).run l with
        | (.ok _, t) => t
        | (.error f, t) => ((Link.writeFailed s.id f).run t).2,
        .handed { id := s.id, ticket := s.ticket, packet, frame, accepted := (l.line.write frame).1.isNone } ::
            (l.wrote frame).restEvents ++
          Link.takenBack s.ticket ((Link.transmit frame).run l).1) := by
  have hevents : s.events l = .handed
      { id := s.id, ticket := s.ticket, packet, frame, accepted := (l.line.write frame).1.isNone } ::
        (l.wrote frame).restEvents := by rw [events, h]
  rw [alone, advance_cleared h, hevents, Link.run_transmit]
  cases (l.line.write frame).1 with
  | some f =>
    simp only
    rw [alone_faulted 1 rfl]
  | none =>
    simp only
    rw [alone, advance_written rfl]
    cases (l.wrote frame).rest.line.flush.1 with
    | some f =>
      simp only
      rw [alone_faulted 0 rfl]
      rfl
    | none => rfl

/-- A frame that is made is handed over if the connection has not failed. -/
theorem alone_made (h : s.stage = .made packet frame) (l : Link σ) :
    s.alone 4 l =
      ((Step.run (tryCatch (do Link.ensureHealthy; Link.transmit frame) fun f => Link.writeFailed s.id f) l).2,
        match l.exchange.failure with
        | some _ => []
        | none =>
          .handed { id := s.id, ticket := s.ticket, packet, frame, accepted := (l.line.write frame).1.isNone } ::
              (l.wrote frame).restEvents ++
            Link.takenBack s.ticket ((Link.transmit frame).run l).1) := by
  have hquiet : s.events l = [] := by rw [events, h]
  rw [alone, advance_made h, hquiet]
  cases hfailure : l.exchange.failure with
  | some message =>
    simp only
    rw [alone_refused 2 rfl, Link.run_transmit_of_failed hfailure]
    rfl
  | none =>
    simp only
    rw [alone_cleared rfl, Link.run_transmit_of_healthy hfailure]
    rcases (Link.transmit frame).run l with ⟨f | u, t⟩
    · rfl
    · rfl

/-- A submission that was entered goes on to what it would be as a whole. -/
theorem alone_entered {l : Link σ} {id : Int} (hhealthy : l.exchange.failure = none)
    (hid : l.exchange.nextId.1 = some id) (r : Request) :
    ({ request := r, id, ticket := l.exchange.progress.size } : Sender).alone 5 (l.enter id) =
      (((Link.submit r).run l).2, l.submitEvents r) := by
  have hquiet : ({ request := r, id, ticket := l.exchange.progress.size } : Sender).events (l.enter id) = [] := rfl
  rw [Link.run_submit_of_id hhealthy hid, alone, advance_entered rfl, hquiet]
  simp only
  cases hparcel : Link.Request.parcel r id with
  | error f =>
    have hframe : Link.Request.frame r id = .error f := by
      rw [Link.Request.frame, hparcel]
      rfl
    rw [Link.submitEvents_of_none (Link.handing?_eq_none (.inr (.inr (.inr ⟨id, f, hid, hframe⟩))))]
    simp only
    rw [alone_ended 4 rfl]
    rfl
  | ok parcel =>
    obtain ⟨packet, frame⟩ := parcel
    obtain ⟨hbuild, hencode⟩ := Link.parcel_eq_ok_iff.mp hparcel
    simp only
    rw [alone_made rfl]
    refine Prod.ext ?_ ?_
    · show (Step.run (tryCatch (do Link.ensureHealthy; Link.transmit frame) fun f => Link.writeFailed id f)
        ((l.enter id).afterMaking r)).2 = _
      rcases Step.run (tryCatch (do Link.ensureHealthy; Link.transmit frame) fun f => Link.writeFailed id f)
        ((l.enter id).afterMaking r) with ⟨f | u, t⟩
      · rfl
      · rfl
    simp only [List.nil_append]
    cases hhangsUp : r.hangsUp with
    | true =>
      have hclosed : (l.enter id).afterMaking r = (l.enter id).close := by
        rw [Link.afterMaking, hhangsUp]
        rfl
      rw [hclosed, Link.submitEvents_of_none (Link.handing?_eq_none (.inr (.inr (.inl hhangsUp))))]
      rfl
    | false =>
      have hsame : (l.enter id).afterMaking r = l.enter id := by
        rw [Link.afterMaking, hhangsUp]
        rfl
      have hhanding : l.handing? r = some
          { id, ticket := l.exchange.progress.size, packet, frame, accepted := (l.line.write frame).1.isNone } := by
        unfold Link.handing?
        simp only [hhealthy, hhangsUp, hid, hbuild, hencode]
      have hstill : (l.enter id).exchange.failure = none := by
        show l.exchange.nextId.2.failure = none
        rw [Exchange.nextId_eq]
        exact hhealthy
      rw [hsame, hstill, Link.submitEvents_of_some hhanding]
      rfl

end Sender

namespace Traffic

/-- The last submission goes on alone if every turn is its own. -/
theorem run_proceed (parts : Nat) {c : Traffic σ} {others : List Sender} {s : Sender}
    (h : c.senders = others ++ [s]) :
    (c.run (List.replicate parts (.proceed others.length))).link = (s.alone parts c.link).1 ∧
      (c.run (List.replicate parts (.proceed others.length))).events =
        c.events ++ (s.alone parts c.link).2 := by
  induction parts generalizing c s with
  | zero => exact ⟨rfl, (List.append_nil _).symm⟩
  | succ parts ih =>
    have hlast : c.senders[others.length]? = some s := by
      rw [h]
      exact List.getElem?_concat_length
    have hturn : c.turn (.proceed others.length) =
        c.next (s.advance c.link).2 (c.senders.set others.length { s with stage := (s.advance c.link).1 })
          (s.events c.link) := by
      rw [turn, hlast]
    have hsenders : (c.turn (.proceed others.length)).senders =
        others ++ [{ s with stage := (s.advance c.link).1 }] := by
      rw [hturn]
      show c.senders.set _ _ = _
      rw [h, List.set_append_right _ _ (Nat.le_refl _), Nat.sub_self]
      rfl
    obtain ⟨hlink, hevents⟩ := ih hsenders
    rw [hturn] at hlink hevents
    rw [List.replicate_succ]
    show ((c.turn (.proceed others.length)).run _).link = _ ∧ ((c.turn (.proceed others.length)).run _).events = _
    rw [hturn, hlink, hevents]
    exact ⟨rfl, List.append_assoc ..⟩

/-- Turns that are nobody's do nothing. -/
theorem run_proceed_nobody (parts : Nat) {c : Traffic σ} {i : Nat} (h : c.senders[i]? = none) :
    c.run (List.replicate parts (.proceed i)) = c := by
  induction parts with
  | zero => rfl
  | succ parts ih =>
    have hturn : c.turn (.proceed i) = c := by rw [turn, h]
    rw [List.replicate_succ]
    show (c.turn (.proceed i)).run _ = c
    rw [hturn]
    exact ih

/-- **The parts of a submission are the submission**, if nothing comes between them. -/
theorem uninterrupted (c : Traffic σ) (r : Request) :
    (c.run (.enter r :: List.replicate 5 (.proceed c.senders.length))).link =
        ((Link.submit r).run c.link).2 ∧
      (c.run (.enter r :: List.replicate 5 (.proceed c.senders.length))).events =
        c.events ++ c.link.submitEvents r := by
  show ((c.turn (.enter r)).run _).link = _ ∧ ((c.turn (.enter r)).run _).events = _
  rw [turn, Link.run_enroll]
  -- without an id no submission has begun, and the other turns are nobody's
  have hnobody : ∀ l : Link σ, (c.next l c.senders []).run
      (List.replicate 5 (.proceed c.senders.length)) = c.next l c.senders [] := fun l =>
    run_proceed_nobody 5 (List.getElem?_eq_none (Nat.le_refl _))
  cases hfailure : c.link.exchange.failure with
  | some message =>
    have hnothing := Link.handing?_eq_none (r := r) (l := c.link) (.inl (by rw [hfailure]; exact nofun))
    rw [Link.run_submit_of_failed hfailure, Link.submitEvents_of_none hnothing]
    simp only
    rw [hnobody]
    exact ⟨rfl, rfl⟩
  | none =>
    cases hid : c.link.exchange.nextId.1 with
    | none =>
      rw [Link.run_submit_of_exhausted hfailure hid,
        Link.submitEvents_of_none (Link.handing?_eq_none (.inr (.inl hid)))]
      simp only
      rw [hnobody]
      exact ⟨rfl, rfl⟩
    | some id =>
      have hlast : (c.next (c.link.enter id)
          (c.senders ++ [{ request := r, id, ticket := c.link.exchange.progress.size }]) []).senders =
          c.senders ++ [{ request := r, id, ticket := c.link.exchange.progress.size }] := rfl
      obtain ⟨hlink, hevents⟩ := run_proceed 5 hlast
      have halone := Sender.alone_entered hfailure hid r
      refine ⟨hlink.trans (congrArg Prod.fst halone), hevents.trans ?_⟩
      show c.events ++ [] ++ (Sender.alone 5 _ (c.link.enter id)).2 = _
      rw [List.append_nil, halone]

end Traffic

/-! ## What goes out -/

namespace Link

/-- The far end is the same, and what went out over the stream is what the events say. -/
structure Conveys (l : Link σ) (events : List Event) (l' : Link σ) : Prop where
  /-- The far end is the same. -/
  peer : l'.line.peer = l.line.peer
  /-- The frames that the stream took were sent, and no others. -/
  sent : l'.line.sent.toList = l.line.sent.toList ++ events.filterMap Event.sent?

variable {l l' l'' : Link σ} {events others : List Event}

/-- Operations convey what their events say. -/
theorem Acts.conveys (h : l.Acts events l') : l.Conveys events l' :=
  ⟨h.peer, h.sent⟩

/-- What is conveyed one after another is conveyed together. -/
theorem Conveys.trans (h : l.Conveys events l') (h' : l'.Conveys others l'') :
    l.Conveys (events ++ others) l'' where
  peer := h'.peer.trans h.peer
  sent := by rw [h'.sent, h.sent, List.filterMap_append, List.append_assoc]

/-- Over the same stream nothing is conveyed. -/
theorem Conveys.of_line (h : l'.line = l.line) : l.Conveys [] l' where
  peer := congrArg Line.peer h
  sent := by rw [h, List.filterMap_nil, List.append_nil]

/-- Entering a request leaves the stream alone. -/
theorem line_enroll (l : Link σ) : (enroll.run l).2.line = l.line := by
  rw [run_enroll]
  cases l.exchange.failure with
  | some message => rfl
  | none =>
    cases l.exchange.nextId.1 with
    | none => rfl
    | some id => rfl

/-- Making a packet leaves the stream alone. -/
theorem line_afterMaking (l : Link σ) (r : Request) : (l.afterMaking r).line = l.line := by
  unfold afterMaking
  split
  · rfl
  · rfl

end Link

/-- A part of a submission conveys what its events say. -/
theorem Sender.conveys (s : Sender) (l : Link σ) : l.Conveys (s.events l) (s.advance l).2 := by
  unfold events
  cases hstage : s.stage with
  | entered =>
    rw [advance_entered hstage]
    cases Link.Request.parcel s.request s.id with
    | error f => exact .of_line (l.line_afterMaking s.request)
    | ok parcel => exact .of_line (l.line_afterMaking s.request)
  | made packet frame =>
    rw [advance_made hstage]
    exact .of_line rfl
  | cleared packet frame =>
    obtain ⟨hpeer, hsent⟩ := Link.line_write l.line frame
    obtain ⟨inbox, hrest⟩ := Link.line_rest (l.wrote frame)
    rw [advance_cleared hstage]
    constructor
    · rw [hrest]
      exact hpeer
    · rw [hrest, List.filterMap_cons, Link.restEvents, Link.filterMap_sent_takings, Event.sent?]
      refine hsent.trans ?_
      cases (l.line.write frame).1 with
      | none => rfl
      | some f => rfl
  | written =>
    obtain ⟨hpeer, hsent⟩ := Link.line_flush l.line
    rw [advance_written hstage]
    exact ⟨hpeer, by rw [hsent, List.filterMap_nil, List.append_nil]⟩
  | refused f =>
    obtain ⟨-, -, hline⟩ := Link.run_writeFailed s.id f l
    rw [advance_faulted (.inl hstage)]
    exact .of_line hline
  | faulted f =>
    obtain ⟨-, -, hline⟩ := Link.run_writeFailed s.id f l
    rw [advance_faulted (.inr hstage)]
    refine ⟨congrArg Line.peer hline, ?_⟩
    rw [Link.filterMap_sent_takenBack, List.append_nil, hline]
  | ended =>
    rw [advance_ended hstage]
    exact .of_line rfl

namespace Traffic

variable {l : Link σ} {c : Traffic σ}

/-- A turn conveys what its events say. -/
theorem conveys_turn (h : l.Conveys c.events c.link) (t : Turn σ) :
    l.Conveys (c.turn t).events (c.turn t).link := by
  have hquiet : ∀ {l' : Link σ} {senders : List Sender}, l'.line = c.link.line →
      l.Conveys (c.next l' senders []).events (c.next l' senders []).link :=
    fun hline => h.trans (.of_line hline)
  cases t with
  | op o => exact h.trans (o.acts_perform c.link).conveys
  | enter r =>
    have hline := Link.line_enroll c.link
    rw [turn]
    rcases hrun : Link.enroll.run c.link with ⟨f | entry, l'⟩
    · exact hquiet (by rw [hrun] at hline; exact hline)
    · exact hquiet (by rw [hrun] at hline; exact hline)
  | proceed i =>
    rw [turn]
    cases c.senders[i]? with
    | none => exact h
    | some s => exact h.trans (s.conveys c.link)

/-- **What goes out in a run is what its events say.** -/
theorem conveys_run (l : Link σ) (turns : List (Turn σ)) :
    l.Conveys (l.traffic turns).events (l.traffic turns).link :=
  run_induction (motive := fun c => l.Conveys c.events c.link) (.of_line rfl)
    (fun _ t h => conveys_turn h t) turns

/-! ## What is handed over -/

/-- A frame is that of a packet, and made for an id of four bytes. -/
def IsParcel (id : Int) (packet : Packet) (frame : Bytes) : Prop :=
  packet.encode = .ok frame ∧ 0 ≤ id ∧ id < Exchange.idCount

/-- What the submissions of the traffic are about to hand over, and what was handed over, are the frames of
packets. -/
structure Packed (c : Traffic σ) : Prop where
  /-- An id has four bytes. -/
  range : ∀ s ∈ c.senders, 0 ≤ s.id ∧ s.id < Exchange.idCount
  /-- What is made is the packet with its frame. -/
  stage : ∀ s ∈ c.senders, ∀ packet frame,
    s.stage = .made packet frame ∨ s.stage = .cleared packet frame → packet.encode = .ok frame
  /-- So is what was handed over. -/
  handed : ∀ g, .handed g ∈ c.events → IsParcel g.id g.packet g.frame

/-- What a part of a submission hands over was made before. -/
theorem Packed.handed_sender (h : c.Packed) {s : Sender} (hs : s ∈ c.senders) {l : Link σ} {g : Handing}
    (hg : .handed g ∈ s.events l) : IsParcel g.id g.packet g.frame := by
  unfold Sender.events at hg
  cases hstage : s.stage with
  | cleared packet frame =>
    rw [hstage] at hg
    rcases List.mem_cons.mp hg with hg | hg
    · obtain rfl := Event.handed.inj hg
      exact ⟨h.stage s hs packet frame (.inr hstage), h.range s hs⟩
    · obtain ⟨p, reached, hg⟩ := Link.eq_taken_of_mem_restEvents hg
      cases hg
  | faulted f =>
    rw [hstage] at hg
    simp only [Link.takenBack] at hg
    split at hg
    · cases List.mem_singleton.mp hg
    · cases hg
  | entered | made _ _ | written | refused _ | ended =>
    rw [hstage] at hg
    cases hg

/-- A submission comes to the stage of a frame that was made only with the frame of its packet. -/
theorem encode_of_advance {s : Sender} {l : Link σ} {packet : Packet} {frame : Bytes}
    (hbefore : ∀ p b, s.stage = .made p b ∨ s.stage = .cleared p b → p.encode = .ok b)
    (h : (s.advance l).1 = .made packet frame ∨ (s.advance l).1 = .cleared packet frame) :
    packet.encode = .ok frame := by
  cases hstage : s.stage with
  | entered =>
    rw [Sender.advance_entered hstage] at h
    cases hparcel : Link.Request.parcel s.request s.id with
    | error f => simp [hparcel] at h
    | ok parcel =>
      obtain ⟨rfl, rfl⟩ : parcel.1 = packet ∧ parcel.2 = frame := by simpa [hparcel] using h
      exact (Link.parcel_eq_ok_iff.mp hparcel).2
  | made p b =>
    rw [Sender.advance_made hstage] at h
    cases hfailure : l.exchange.failure with
    | some message => simp [hfailure] at h
    | none =>
      obtain ⟨rfl, rfl⟩ : p = packet ∧ b = frame := by simpa [hfailure] using h
      exact hbefore p b (.inl hstage)
  | cleared p b =>
    rw [Sender.advance_cleared hstage] at h
    cases hwrite : (l.line.write b).1 with
    | some f => simp [hwrite] at h
    | none => simp [hwrite] at h
  | written =>
    rw [Sender.advance_written hstage] at h
    cases hflush : l.line.flush.1 with
    | some f => simp [hflush] at h
    | none => simp [hflush] at h
  | refused f => simp [Sender.advance_faulted (.inl hstage)] at h
  | faulted f => simp [Sender.advance_faulted (.inr hstage)] at h
  | ended => simp [Sender.advance_ended hstage] at h

/-- Every turn hands over what was made. -/
theorem Packed.turn (h : c.Packed) (t : Turn σ) : (c.turn t).Packed := by
  cases t with
  | op o =>
    refine ⟨h.range, h.stage, fun g hg => ?_⟩
    rcases List.mem_append.mp hg with hold | hnew
    · exact h.handed g hold
    · cases o.happens_of_mem_events hnew with
      | handed hhanding =>
        obtain ⟨-, hid, -, hencode, -⟩ := Link.handing?_eq_some hhanding
        exact ⟨hencode, Exchange.nextId_range hid⟩
  | enter r =>
    have hold : ∀ {g : Handing}, .handed g ∈ c.events ++ [] → IsParcel g.id g.packet g.frame := by
      intro g hg
      rw [List.append_nil] at hg
      exact h.handed g hg
    rw [Traffic.turn, Link.run_enroll]
    cases c.link.exchange.failure with
    | some message => exact ⟨h.range, h.stage, fun g hg => hold hg⟩
    | none =>
      cases hid : c.link.exchange.nextId.1 with
      | none => exact ⟨h.range, h.stage, fun g hg => hold hg⟩
      | some id =>
        refine ⟨fun s hs => ?_, fun s hs packet frame hstage => ?_, fun g hg => hold hg⟩
        · rcases List.mem_append.mp hs with hs | hs
          · exact h.range s hs
          · rw [List.mem_singleton.mp hs]
            exact Exchange.nextId_range hid
        · rcases List.mem_append.mp hs with hs | hs
          · exact h.stage s hs packet frame hstage
          · rw [List.mem_singleton.mp hs] at hstage
            rcases hstage with hstage | hstage
            · cases hstage
            · cases hstage
  | proceed i =>
    rw [Traffic.turn]
    cases hs : c.senders[i]? with
    | none => exact h
    | some s =>
      have hmem := List.mem_of_getElem? hs
      refine ⟨fun s' hs' => ?_, fun s' hs' packet frame hstage => ?_, fun g hg => ?_⟩
      · rcases List.mem_or_eq_of_mem_set hs' with hs' | rfl
        · exact h.range s' hs'
        · exact h.range s hmem
      · rcases List.mem_or_eq_of_mem_set hs' with hs' | rfl
        · exact h.stage s' hs' packet frame hstage
        · exact encode_of_advance (h.stage s hmem) hstage
      · rcases List.mem_append.mp hg with hold | hnew
        · exact h.handed g hold
        · exact h.handed_sender hmem hnew

/-- **What is handed over in a run is the frame of a packet**, under an id of four bytes. -/
theorem parcel_of_handed (l : Link σ) (turns : List (Turn σ)) {g : Handing}
    (hg : .handed g ∈ (l.traffic turns).events) : IsParcel g.id g.packet g.frame := by
  have hstart : ({ link := l } : Traffic σ).Packed :=
    ⟨fun _ hs => absurd hs List.not_mem_nil, fun _ hs => absurd hs List.not_mem_nil,
      fun _ hg => absurd hg List.not_mem_nil⟩
  exact (run_induction hstart (fun _ t h => h.turn t) turns).handed g hg

end Traffic

end Sftp
