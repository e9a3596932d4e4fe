import Sftp.Exchange

/-!
# The table of requests

What the operations of an exchange do to the table and to the standing of every request.

* `Exchange.Sound` — no id and no ticket stands twice in the table, and nobody in it has ended.
* `Exchange.holder`, `Exchange.reached` — the request that holds an id, and the one that a packet
  reaches.
* `Exchange.take` — the exchange after a packet, whether or not the packet reaches a request;
  `Exchange.takeAll` for packets in order.
* `Exchange.standing_take`, `Exchange.standing_fail` — how every request stands after a packet and
  after a failure.
* **`Exchange.standing_takeAll`** — a request in the table is answered by the first packet with its
  id, whatever other packets come.
-/

namespace Sftp

namespace Progress

/-- A request that waits is ended; any other stays as it is. -/
def settled (s outcome : Progress) : Progress :=
  if s = .waiting then outcome else s

@[simp] theorem settled_waiting (outcome : Progress) : settled .waiting outcome = outcome :=
  if_pos rfl

/-- A request that does not wait is not ended again. -/
theorem settled_of_ne {s outcome : Progress} (h : s ≠ .waiting) : s.settled outcome = s :=
  if_neg h

/-- A request is ended by settling it, or it did not wait. -/
theorem settled_cases {s outcome r : Progress} (h : s.settled outcome = r) :
    (s = .waiting ∧ outcome = r) ∨ (s ≠ .waiting ∧ s = r) := by
  by_cases hwaiting : s = .waiting
  · subst hwaiting
    exact .inl ⟨rfl, h⟩
  · rw [settled_of_ne hwaiting] at h
    exact .inr ⟨hwaiting, h⟩

end Progress

namespace Exchange

variable {x : Exchange} {p : Packet} {id : Int} {t : Ticket} {message : Text}

/-! ## Settling -/

@[simp] theorem size_settle (progress : Array Progress) (t : Ticket) (outcome : Progress) :
    (settle progress t outcome).size = progress.size := by
  unfold settle
  split
  · exact Array.size_setIfInBounds
  · rfl

/-- Setting how one request stands leaves the others alone. -/
theorem getD_setIfInBounds {progress : Array Progress} {s : Progress} (ht : t < progress.size)
    (u : Ticket) :
    (progress.setIfInBounds t s).getD u .waiting =
      if u = t then s else progress.getD u .waiting := by
  rw [Array.getD_eq_getD_getElem?, Array.getD_eq_getD_getElem?]
  by_cases hu : u = t
  · subst hu
    rw [if_pos rfl, Array.getElem?_setIfInBounds_self_of_lt ht]
    rfl
  · rw [if_neg hu, Array.getElem?_setIfInBounds_ne (Ne.symm hu)]

/-- Settling ends one request, if it waits. -/
theorem getD_settle {progress : Array Progress} (outcome : Progress) (ht : t < progress.size)
    (u : Ticket) :
    (settle progress t outcome).getD u .waiting =
      if u = t then (progress.getD u .waiting).settled outcome
      else progress.getD u .waiting := by
  unfold settle
  by_cases hwaiting : progress.getD t .waiting = .waiting
  · rw [if_pos hwaiting, getD_setIfInBounds ht]
    by_cases hu : u = t
    · subst hu
      rw [if_pos rfl, if_pos rfl, hwaiting, Progress.settled_waiting]
    · rw [if_neg hu, if_neg hu]
  · rw [if_neg hwaiting]
    by_cases hu : u = t
    · subst hu
      rw [if_pos rfl, Progress.settled_of_ne hwaiting]
    · rw [if_neg hu]

/-! ## Tables in order -/

/-- The table is in order: an id belongs to one request, a request stands in the table once, every
request has a ticket that was given out, and none in the table has ended. -/
structure Sound (x : Exchange) : Prop where
  /-- No two requests have the same id. -/
  ids : ∀ e ∈ x.pending, ∀ e' ∈ x.pending, e.1 = e'.1 → e = e'
  /-- No request has two ids. -/
  tickets : ∀ e ∈ x.pending, ∀ e' ∈ x.pending, e.2 = e'.2 → e = e'
  /-- Every request has a ticket that was given out. -/
  inRange : ∀ e ∈ x.pending, e.2 < x.progress.size
  /-- Every request waits, or its caller stopped waiting. -/
  unended : ∀ e ∈ x.pending, x.standing e.2 = .waiting ∨ x.standing e.2 = .abandoned

/-- The request that holds an id. -/
def holder (x : Exchange) (id : Int) : Option Ticket :=
  (x.pending.find? fun e => e.1 = id).map Prod.snd

/-- The request that a packet reaches. -/
def reached (x : Exchange) (p : Packet) : Option Ticket :=
  p.id?.bind x.holder

/-- The holder of an id stands in the table. -/
theorem mem_of_holder (h : x.holder id = some t) : (id, t) ∈ x.pending := by
  unfold holder at h
  obtain ⟨e, hfind, rfl⟩ := Option.map_eq_some_iff.mp h
  have hid : decide (e.1 = id) = true :=
    List.find?_some (p := fun e : Int × Ticket => e.1 = id) hfind
  rw [← of_decide_eq_true hid]
  exact List.mem_of_find?_eq_some hfind

/-- Nobody holds an id that is not in the table. -/
theorem holder_eq_none_iff : x.holder id = none ↔ ∀ e ∈ x.pending, e.1 ≠ id := by
  unfold holder
  rw [Option.map_eq_none_iff, List.find?_eq_none]
  constructor
  · intro h e he hid
    exact h e he (decide_eq_true hid)
  · intro h e he hid
    exact h e he (of_decide_eq_true hid)

/-- The id of a request in the table is held by that request. -/
theorem Sound.holder_eq (h : x.Sound) (hmem : (id, t) ∈ x.pending) : x.holder id = some t := by
  cases hholder : x.holder id with
  | none => exact absurd rfl (holder_eq_none_iff.mp hholder (id, t) hmem)
  | some u => rw [(Prod.mk.inj (h.ids _ (mem_of_holder hholder) _ hmem rfl)).2]

/-- A packet reaches a request of the table that has its id. -/
theorem mem_of_reached (h : x.reached p = some t) :
    ∃ id, p.id? = some id ∧ (id, t) ∈ x.pending := by
  obtain ⟨id, hid, hholder⟩ := Option.bind_eq_some_iff.mp h
  exact ⟨id, hid, mem_of_holder hholder⟩

/-- A packet reaches the request that has its id. -/
theorem Sound.reached_eq (h : x.Sound) (hid : p.id? = some id) (hmem : (id, t) ∈ x.pending) :
    x.reached p = some t := by
  rw [reached, hid]
  exact h.holder_eq hmem

/-- A packet reaches nobody if no request has its id. -/
theorem reached_eq_none (h : ∀ e ∈ x.pending, p.id? ≠ some e.1) : x.reached p = none := by
  cases hreached : x.reached p with
  | none => rfl
  | some t =>
    obtain ⟨id, hid, hmem⟩ := mem_of_reached hreached
    exact absurd hid (h (id, t) hmem)

/-! ## One packet -/

/-- The exchange after a packet. A packet that reaches nobody changes nothing. -/
def take (x : Exchange) (p : Packet) : Exchange :=
  (x.deliver p).getD x

/-- A packet that reaches a request takes it off the table. -/
theorem take_of_reached (hid : p.id? = some id) (h : x.reached p = some t) :
    x.take p = { x.withdraw id with progress := settle x.progress t (.answered p) } := by
  rw [reached, hid] at h
  obtain ⟨e, hfind, rfl⟩ := Option.map_eq_some_iff.mp h
  unfold take deliver
  rw [hid]
  simp only
  rw [hfind]
  rfl

/-- A packet that reaches nobody is dropped. -/
theorem take_of_stray (h : x.reached p = none) : x.take p = x := by
  unfold take deliver
  cases hid : p.id? with
  | none => rfl
  | some id =>
    rw [reached, hid] at h
    simp only
    rw [Option.map_eq_none_iff.mp h]
    rfl

/-- A packet concerns the table and how a request stands, and leaves the rest as it is. -/
theorem take_eq (x : Exchange) (p : Packet) :
    x.take p = { x with
      pending := x.pending.filter fun e => p.id? ≠ some e.1
      progress := (x.take p).progress } := by
  cases h : x.reached p with
  | none =>
    rw [take_of_stray h]
    have hkeep : (x.pending.filter fun e => p.id? ≠ some e.1) = x.pending := by
      rw [List.filter_eq_self]
      intro e he
      refine decide_eq_true fun hid => ?_
      rw [reached, hid] at h
      exact holder_eq_none_iff.mp h e he rfl
    rw [hkeep]
  | some t =>
    obtain ⟨id, hid, -⟩ := mem_of_reached h
    have hfilter : (x.pending.filter fun e => p.id? ≠ some e.1) =
        x.pending.filter fun e => e.1 ≠ id := by
      refine List.filter_congr fun e _ => ?_
      rw [decide_eq_decide, hid, ne_eq, Option.some.injEq, eq_comm]
    rw [take_of_reached hid h, hfilter]
    rfl

@[simp] theorem pending_take (x : Exchange) (p : Packet) :
    (x.take p).pending = x.pending.filter fun e => p.id? ≠ some e.1 :=
  congrArg pending (take_eq x p)

@[simp] theorem failure_take (x : Exchange) (p : Packet) : (x.take p).failure = x.failure := by
  rw [take_eq]

@[simp] theorem reader_take (x : Exchange) (p : Packet) : (x.take p).reader = x.reader := by
  rw [take_eq]

@[simp] theorem limit_take (x : Exchange) (p : Packet) : (x.take p).limit = x.limit := by
  rw [take_eq]

@[simp] theorem counter_take (x : Exchange) (p : Packet) : (x.take p).counter = x.counter := by
  rw [take_eq]

@[simp] theorem size_take (x : Exchange) (p : Packet) :
    (x.take p).progress.size = x.progress.size := by
  cases h : x.reached p with
  | none => rw [take_of_stray h]
  | some t =>
    obtain ⟨id, hid, -⟩ := mem_of_reached h
    rw [take_of_reached hid h]
    exact size_settle _ _ _

/-- A packet answers the request that it reaches, if that waits, and no other. -/
theorem standing_take (h : x.Sound) (p : Packet) (u : Ticket) :
    (x.take p).standing u =
      if x.reached p = some u then (x.standing u).settled (.answered p) else x.standing u := by
  cases hreached : x.reached p with
  | none =>
    rw [take_of_stray hreached]
    exact (if_neg nofun).symm
  | some t =>
    obtain ⟨id, hid, hmem⟩ := mem_of_reached hreached
    rw [take_of_reached hid hreached]
    have hset := getD_settle (.answered p) (h.inRange _ hmem) u
    by_cases hu : u = t
    · subst hu
      rw [if_pos rfl] at hset ⊢
      exact hset
    · rw [if_neg hu] at hset
      rw [if_neg fun heq => hu (Option.some.inj heq).symm]
      exact hset

/-- A packet leaves alone what stays in the table. -/
theorem standing_take_of_ne (h : x.Sound) (hmem : (id, t) ∈ x.pending) (hid : p.id? ≠ some id) :
    (x.take p).standing t = x.standing t := by
  rw [standing_take h, if_neg]
  intro hreached
  obtain ⟨id', hid', hmem'⟩ := mem_of_reached hreached
  obtain ⟨rfl, -⟩ := Prod.mk.inj (h.tickets _ hmem' _ hmem rfl)
  exact hid hid'

/-- A packet keeps the table in order. -/
theorem Sound.take (h : x.Sound) (p : Packet) : (x.take p).Sound where
  ids e he e' he' heq := by
    rw [pending_take] at he he'
    exact h.ids e (List.mem_filter.mp he).1 e' (List.mem_filter.mp he').1 heq
  tickets e he e' he' heq := by
    rw [pending_take] at he he'
    exact h.tickets e (List.mem_filter.mp he).1 e' (List.mem_filter.mp he').1 heq
  inRange e he := by
    rw [pending_take] at he
    rw [size_take]
    exact h.inRange e (List.mem_filter.mp he).1
  unended e he := by
    rw [pending_take, List.mem_filter] at he
    rw [standing_take_of_ne h he.1 (of_decide_eq_true he.2)]
    exact h.unended e he.1

/-! ## Packets in order -/

/-- The exchange after packets, one after another. -/
def takeAll (x : Exchange) (packets : List Packet) : Exchange :=
  packets.foldl take x

@[simp] theorem takeAll_nil (x : Exchange) : x.takeAll [] = x := rfl

@[simp] theorem takeAll_cons (x : Exchange) (p : Packet) (packets : List Packet) :
    x.takeAll (p :: packets) = (x.take p).takeAll packets := rfl

theorem takeAll_append (x : Exchange) (packets others : List Packet) :
    x.takeAll (packets ++ others) = (x.takeAll packets).takeAll others :=
  List.foldl_append

/-- What stays in the table is what no packet has the id of. -/
@[simp] theorem pending_takeAll (x : Exchange) (packets : List Packet) :
    (x.takeAll packets).pending = x.pending.filter fun e => ∀ p ∈ packets, p.id? ≠ some e.1 := by
  induction packets generalizing x with
  | nil =>
    rw [takeAll_nil, eq_comm, List.filter_eq_self]
    intro e _
    exact decide_eq_true fun p hp => absurd hp List.not_mem_nil
  | cons p packets ih =>
    rw [takeAll_cons, ih, pending_take, List.filter_filter]
    refine List.filter_congr fun e _ => ?_
    rw [← Bool.decide_and, decide_eq_decide, List.forall_mem_cons, and_comm]

@[simp] theorem failure_takeAll (x : Exchange) (packets : List Packet) :
    (x.takeAll packets).failure = x.failure := by
  induction packets generalizing x with
  | nil => rfl
  | cons p packets ih => rw [takeAll_cons, ih, failure_take]

@[simp] theorem reader_takeAll (x : Exchange) (packets : List Packet) :
    (x.takeAll packets).reader = x.reader := by
  induction packets generalizing x with
  | nil => rfl
  | cons p packets ih => rw [takeAll_cons, ih, reader_take]

@[simp] theorem limit_takeAll (x : Exchange) (packets : List Packet) :
    (x.takeAll packets).limit = x.limit := by
  induction packets generalizing x with
  | nil => rfl
  | cons p packets ih => rw [takeAll_cons, ih, limit_take]

@[simp] theorem counter_takeAll (x : Exchange) (packets : List Packet) :
    (x.takeAll packets).counter = x.counter := by
  induction packets generalizing x with
  | nil => rfl
  | cons p packets ih => rw [takeAll_cons, ih, counter_take]

@[simp] theorem size_takeAll (x : Exchange) (packets : List Packet) :
    (x.takeAll packets).progress.size = x.progress.size := by
  induction packets generalizing x with
  | nil => rfl
  | cons p packets ih => rw [takeAll_cons, ih, size_take]

/-- What is left in the table was there. -/
theorem mem_pending_takeAll {packets : List Packet} {e : Int × Ticket}
    (h : e ∈ (x.takeAll packets).pending) : e ∈ x.pending := by
  rw [pending_takeAll] at h
  exact (List.mem_filter.mp h).1

/-- Packets keep the table in order. -/
theorem Sound.takeAll (h : x.Sound) (packets : List Packet) : (x.takeAll packets).Sound := by
  induction packets generalizing x with
  | nil => exact h
  | cons p packets ih => exact ih (h.take p)

/-- Packets leave alone a request that is not in the table. -/
theorem standing_takeAll_of_not_mem (h : x.Sound) (ht : ∀ e ∈ x.pending, e.2 ≠ t)
    (packets : List Packet) : (x.takeAll packets).standing t = x.standing t := by
  induction packets generalizing x with
  | nil => rfl
  | cons p packets ih =>
    have hleft : ∀ e ∈ (x.take p).pending, e.2 ≠ t := by
      intro e he
      rw [pending_take] at he
      exact ht e (List.mem_filter.mp he).1
    rw [takeAll_cons, ih (h.take p) hleft, standing_take h, if_neg]
    intro hreached
    obtain ⟨id, -, hmem⟩ := mem_of_reached hreached
    exact ht _ hmem rfl

/-- **A request in the table is answered by the first packet with its id**, whatever other packets
come; one that was abandoned stays so, and one whose id does not come waits on. -/
theorem standing_takeAll (h : x.Sound) (hmem : (id, t) ∈ x.pending) (packets : List Packet) :
    (x.takeAll packets).standing t =
      match packets.find? fun p => p.id? = some id with
      | some p => (x.standing t).settled (.answered p)
      | none => x.standing t := by
  induction packets generalizing x with
  | nil => rfl
  | cons p packets ih =>
    rw [takeAll_cons]
    by_cases hid : p.id? = some id
    · -- the request is answered and leaves the table
      have hleft : ∀ e ∈ (x.take p).pending, e.2 ≠ t := by
        intro e he ht
        rw [pending_take, List.mem_filter] at he
        rw [h.tickets e he.1 _ hmem ht] at he
        exact of_decide_eq_true he.2 hid
      rw [standing_takeAll_of_not_mem (h.take p) hleft, standing_take h,
        if_pos (h.reached_eq hid hmem), List.find?_cons_of_pos (by simpa using hid)]
    · -- the packet is for somebody else
      have hstay : (id, t) ∈ (x.take p).pending := by
        rw [pending_take, List.mem_filter]
        exact ⟨hmem, decide_eq_true hid⟩
      rw [ih (h.take p) hstay, standing_take_of_ne h hmem hid,
        List.find?_cons_of_neg (by simpa using hid)]

/-! ## Failing -/

/-- Settling one request after another ends those that wait. -/
theorem getD_foldl_settle {entries : List (Int × Ticket)} {progress : Array Progress}
    (outcome : Progress) (h : ∀ e ∈ entries, e.2 < progress.size) (houtcome : outcome ≠ .waiting)
    (u : Ticket) :
    (entries.foldl (fun progress e => settle progress e.2 outcome) progress).getD u .waiting =
      if u ∈ entries.map Prod.snd then (progress.getD u .waiting).settled outcome
      else progress.getD u .waiting := by
  induction entries generalizing progress with
  | nil => exact (if_neg (by simp)).symm
  | cons e entries ih =>
    have hothers : ∀ e' ∈ entries, e'.2 < (settle progress e.2 outcome).size := by
      intro e' he'
      rw [size_settle]
      exact h e' (List.mem_cons_of_mem e he')
    rw [List.foldl_cons, ih hothers, getD_settle outcome (h e List.mem_cons_self)]
    by_cases hu : u = e.2
    · have hmem : u ∈ (e :: entries).map Prod.snd := List.mem_cons.mpr (.inl hu)
      rw [if_pos hu, if_pos hmem]
      -- a second settling changes nothing
      by_cases hwaiting : progress.getD u .waiting = .waiting
      · rw [hwaiting, Progress.settled_waiting, Progress.settled_of_ne houtcome, ite_self]
      · rw [Progress.settled_of_ne hwaiting, Progress.settled_of_ne hwaiting, ite_self]
    · rw [if_neg hu]
      simp only [List.map_cons, List.mem_cons, hu, false_or]

@[simp] theorem pending_fail (x : Exchange) (message : Text) : (x.fail message).pending = [] := rfl

@[simp] theorem failure_fail (x : Exchange) (message : Text) :
    (x.fail message).failure = some (x.failure.getD message) := rfl

/-- Settling keeps the number of requests. -/
theorem size_foldl_settle (entries : List (Int × Ticket)) (progress : Array Progress)
    (outcome : Progress) :
    (entries.foldl (fun progress e => settle progress e.2 outcome) progress).size =
      progress.size := by
  induction entries generalizing progress with
  | nil => rfl
  | cons e entries ih => rw [List.foldl_cons, ih, size_settle]

@[simp] theorem size_fail (x : Exchange) (message : Text) :
    (x.fail message).progress.size = x.progress.size :=
  size_foldl_settle _ _ _

/-- A failure ends the requests in the table that wait, and no other. -/
theorem standing_fail (h : x.Sound) (message : Text) (u : Ticket) :
    (x.fail message).standing u =
      if u ∈ x.pending.map Prod.snd then
        (x.standing u).settled (.lost (x.failure.getD message))
      else x.standing u :=
  getD_foldl_settle (.lost (x.failure.getD message)) h.inRange nofun u

/-- A table without requests is in order. -/
theorem sound_of_pending_nil (h : x.pending = []) : x.Sound := by
  constructor <;> simp [h]

/-- A failure leaves a table in order. -/
theorem Sound.fail (message : Text) : (x.fail message).Sound :=
  sound_of_pending_nil rfl

/-! ## Entering, taking back and giving up -/

/-- A new request waits, and nothing changes for the others. -/
@[simp] theorem standing_register (x : Exchange) (id : Int) (u : Ticket) :
    (x.register id).2.standing u = x.standing u := by
  show (x.progress.push .waiting).getD u .waiting = x.progress.getD u .waiting
  rw [Array.getD_eq_getD_getElem?, Array.getD_eq_getD_getElem?, Array.getElem?_push]
  by_cases hu : u = x.progress.size
  · subst hu
    rw [if_pos rfl, Array.getElem?_eq_none (Nat.le_refl _)]
    rfl
  · rw [if_neg hu]

@[simp] theorem size_register (x : Exchange) (id : Int) :
    (x.register id).2.progress.size = x.progress.size + 1 :=
  Array.size_push _

/-- A ticket that was not given out is that of no request that has ended. -/
theorem standing_of_le (h : x.progress.size ≤ t) : x.standing t = .waiting := by
  unfold standing
  rw [Array.getD, dif_neg (Nat.not_lt.mpr h)]

/-- Under a free id, a request is entered in order. -/
theorem Sound.register (h : x.Sound) (hfree : ∀ e ∈ x.pending, e.1 ≠ id) :
    (x.register id).2.Sound := by
  have hcases : ∀ e ∈ (x.register id).2.pending, e ∈ x.pending ∨ e = (id, x.progress.size) := by
    intro e he
    rcases List.mem_append.mp he with hold | hnew
    · exact .inl hold
    · exact .inr (List.mem_singleton.mp hnew)
  constructor
  case ids =>
    intro e he e' he' heq
    rcases hcases e he with hold | rfl
    · rcases hcases e' he' with hold' | rfl
      · exact h.ids e hold e' hold' heq
      · exact absurd heq (hfree e hold)
    · rcases hcases e' he' with hold' | rfl
      · exact absurd heq.symm (hfree e' hold')
      · rfl
  case tickets =>
    intro e he e' he' heq
    rcases hcases e he with hold | rfl
    · rcases hcases e' he' with hold' | rfl
      · exact h.tickets e hold e' hold' heq
      · exact absurd heq (Nat.ne_of_lt (h.inRange e hold))
    · rcases hcases e' he' with hold' | rfl
      · exact absurd heq.symm (Nat.ne_of_lt (h.inRange e' hold'))
      · rfl
  case inRange =>
    intro e he
    rw [size_register]
    rcases hcases e he with hold | rfl
    · exact Nat.lt_succ_of_lt (h.inRange e hold)
    · exact Nat.lt_succ_self _
  case unended =>
    intro e he
    rw [standing_register]
    rcases hcases e he with hold | rfl
    · exact h.unended e hold
    · exact .inl (standing_of_le (Nat.le_refl _))

/-- A table from which requests were taken, without a change to how any stands, is in order. -/
theorem Sound.of_subset {y : Exchange} (h : x.Sound) (hpending : ∀ e ∈ y.pending, e ∈ x.pending)
    (hstanding : ∀ t, y.standing t = x.standing t) (hsize : x.progress.size ≤ y.progress.size) :
    y.Sound where
  ids e he e' he' heq := h.ids e (hpending e he) e' (hpending e' he') heq
  tickets e he e' he' heq := h.tickets e (hpending e he) e' (hpending e' he') heq
  inRange e he := Nat.lt_of_lt_of_le (h.inRange e (hpending e he)) hsize
  unended e he := by
    rw [hstanding]
    exact h.unended e (hpending e he)

/-- The table does not depend on the reader. -/
theorem Sound.with_reader (h : x.Sound) (reader : ReaderState) :
    ({ x with reader } : Exchange).Sound :=
  h.of_subset (fun _ he => he) (fun _ => rfl) (Nat.le_refl _)

/-- A request that is entered and taken back leaves no trace in the table. -/
theorem pending_withdraw_register (hfree : ∀ e ∈ x.pending, e.1 ≠ id) :
    ((x.register id).2.withdraw id).pending = x.pending := by
  show (x.pending ++ [(id, x.progress.size)]).filter (fun e => e.1 ≠ id) = x.pending
  have hkeep : x.pending.filter (fun e => e.1 ≠ id) = x.pending :=
    List.filter_eq_self.mpr fun e he => decide_eq_true (hfree e he)
  rw [List.filter_append, hkeep, List.filter_cons_of_neg (by simp), List.filter_nil,
    List.append_nil]

/-- Giving up concerns one request that was given out and waits. -/
theorem standing_abandon_eq (x : Exchange) (t u : Ticket) :
    (x.abandon t).2.standing u =
      if (u = t ∧ t < x.progress.size) ∧ x.standing u = .waiting then .abandoned else x.standing u := by
  unfold abandon
  by_cases hu : u = t ∧ t < x.progress.size
  · obtain ⟨rfl, hlt⟩ := hu
    cases hstanding : x.standing u with
    | waiting =>
      rw [if_pos ⟨⟨rfl, hlt⟩, rfl⟩]
      exact (getD_setIfInBounds hlt u).trans (if_pos rfl)
    | _ =>
      rw [if_neg fun h => nomatch h.2]
      exact hstanding
  · rw [if_neg fun h => hu h.1]
    split
    · by_cases ht : t < x.progress.size
      · exact (getD_setIfInBounds ht u).trans (if_neg fun h => hu ⟨h, ht⟩)
      · show (x.progress.setIfInBounds t .abandoned).getD u .waiting = _
        rw [Array.setIfInBounds, dif_neg ht]
        rfl
    · rfl
    · rfl

/-- Giving up changes nothing for a request, or gives up one that waits. -/
theorem standing_abandon (x : Exchange) (t u : Ticket) :
    (x.abandon t).2.standing u = x.standing u ∨
      x.standing u = .waiting ∧ (x.abandon t).2.standing u = .abandoned := by
  rw [standing_abandon_eq]
  split
  · rename_i h
    exact .inr ⟨h.2, rfl⟩
  · exact .inl rfl

/-- Giving up concerns how a request stands, and leaves the rest as it is. -/
theorem abandon_eq (x : Exchange) (t : Ticket) :
    (x.abandon t).2 = { x with progress := (x.abandon t).2.progress } ∧
      (x.abandon t).2.progress.size = x.progress.size := by
  unfold abandon
  split
  · exact ⟨rfl, Array.size_setIfInBounds⟩
  · exact ⟨rfl, rfl⟩
  · exact ⟨rfl, rfl⟩

/-- Giving up keeps the table in order. -/
theorem Sound.abandon (h : x.Sound) (t : Ticket) : (x.abandon t).2.Sound := by
  obtain ⟨heq, hsize⟩ := abandon_eq x t
  have hpending : (x.abandon t).2.pending = x.pending := by rw [heq]
  constructor
  · rw [hpending]
    exact h.ids
  · rw [hpending]
    exact h.tickets
  · rw [hpending, hsize]
    exact h.inRange
  · rw [hpending]
    intro e he
    rcases standing_abandon x t e.2 with hsame | ⟨-, habandoned⟩
    · rw [hsame]
      exact h.unended e he
    · exact .inr habandoned

end Exchange

end Sftp
