import Sftp.Proofs.Exchange.Table

/-!
# What becomes of the requests

What a run of packets, and perhaps a failure after it, makes of a whole exchange.

* `Exchange.stop` — the exchange after its reader has stopped.
* **`Exchange.Settles`** — how every request stands afterwards, what is left in the table, and whether
  the connection has failed. `Exchange.Sound.settles_takeAll` and `Exchange.Sound.settles_stop` show
  that packets and failures do this.
* `Exchange.Sound.takeAll_congr` — only the first packet with each id in the table matters;
  `Packet.find?_of_perm` — with distinct ids the order does not.
-/

namespace Sftp

namespace Exchange

/-- The exchange after its reader has stopped. -/
def stop (x : Exchange) (message : Text) : Exchange :=
  { x with reader := .stopped }.fail message

/-- What becomes of every request once packets have come, and perhaps the failure of the
connection. -/
structure Settles (x : Exchange) (packets : List Packet) (fatal : Option Text) (y : Exchange) :
    Prop where
  /-- A request that waits is answered by the first packet with its id. -/
  answered : ∀ id t p, (id, t) ∈ x.pending → x.standing t = .waiting →
    (packets.find? fun p => p.id? = some id) = some p → y.standing t = .answered p
  /-- A request whose id has not come waits on, or is lost if the connection has failed. -/
  unanswered : ∀ id t, (id, t) ∈ x.pending → x.standing t = .waiting →
    (packets.find? fun p => p.id? = some id) = none →
    y.standing t = match fatal with
      | some message => .lost message
      | none => .waiting
  /-- A request that its caller abandoned stays abandoned. -/
  abandoned : ∀ t, x.standing t = .abandoned → y.standing t = .abandoned
  /-- Nothing changes for a request that is not in the table. -/
  others : ∀ t, (∀ e ∈ x.pending, e.2 ≠ t) → y.standing t = x.standing t
  /-- The requests whose id has come leave the table, or all if the connection has failed. -/
  pending : y.pending =
    if fatal.isSome then [] else x.pending.filter fun e => ∀ p ∈ packets, p.id? ≠ some e.1
  /-- The connection has failed, or it has not. -/
  failure : y.failure = fatal
  /-- After a failure the reader has stopped; otherwise it is as it was. -/
  reader : y.reader = if fatal.isSome then .stopped else x.reader
  /-- No request is added. -/
  size : y.progress.size = x.progress.size

variable {x : Exchange} {packets others : List Packet}

/-- Packets settle the requests that they have the ids of. -/
theorem Sound.settles_takeAll (h : x.Sound) (hhealthy : x.failure = none)
    (packets : List Packet) : x.Settles packets none (x.takeAll packets) where
  answered id t p hmem hwaiting hfind := by
    rw [standing_takeAll h hmem, hfind, hwaiting]
    exact Progress.settled_waiting _
  unanswered id t hmem hwaiting hfind := by
    rw [standing_takeAll h hmem, hfind, hwaiting]
  abandoned t habandoned := by
    by_cases ht : ∀ e ∈ x.pending, e.2 ≠ t
    · rwa [standing_takeAll_of_not_mem h ht]
    · obtain ⟨⟨id, t'⟩, hmem, rfl⟩ : ∃ e ∈ x.pending, e.2 = t := by
        simpa using ht
      rw [standing_takeAll h hmem, habandoned]
      cases packets.find? fun p => p.id? = some id with
      | none => rfl
      | some p => rfl
  others t ht := standing_takeAll_of_not_mem h ht packets
  pending := pending_takeAll x packets
  failure := (failure_takeAll x packets).trans hhealthy
  reader := reader_takeAll x packets
  size := size_takeAll x packets

/-- How every request stands after the reader has stopped. -/
theorem Sound.standing_stop (h : x.Sound) (message : Text) (t : Ticket) :
    (x.stop message).standing t =
      if t ∈ x.pending.map Prod.snd then
        (x.standing t).settled (.lost (x.failure.getD message))
      else x.standing t :=
  standing_fail (h.with_reader .stopped) message t

/-- A failure ends the requests that the packets before did not settle. -/
theorem Sound.settles_stop (h : x.Sound) (hhealthy : x.failure = none) (packets : List Packet)
    (message : Text) :
    x.Settles packets (some message) ((x.takeAll packets).stop message) := by
  have hsettles := h.settles_takeAll hhealthy packets
  have hstanding := fun t => (h.takeAll packets).standing_stop message t
  have hfirst : (x.takeAll packets).failure.getD message = message := by
    rw [hsettles.failure]
    rfl
  rw [hfirst] at hstanding
  constructor
  case answered =>
    intro id t p hmem hwaiting hfind
    rw [hstanding, hsettles.answered id t p hmem hwaiting hfind]
    exact ite_self _
  case unanswered =>
    intro id t hmem hwaiting hfind
    have hstay : t ∈ (x.takeAll packets).pending.map Prod.snd := by
      rw [pending_takeAll]
      refine List.mem_map.mpr ⟨(id, t), List.mem_filter.mpr ⟨hmem, decide_eq_true ?_⟩, rfl⟩
      intro p hp hid
      exact List.find?_eq_none.mp hfind p hp (decide_eq_true hid)
    rw [hstanding, if_pos hstay, hsettles.unanswered id t hmem hwaiting hfind]
    rfl
  case abandoned =>
    intro t habandoned
    rw [hstanding, hsettles.abandoned t habandoned]
    exact ite_self _
  case others =>
    intro t ht
    rw [hstanding, hsettles.others t ht, if_neg]
    intro hmem
    obtain ⟨e, he, het⟩ := List.mem_map.mp hmem
    rw [pending_takeAll] at he
    exact ht e (List.mem_filter.mp he).1 het
  case pending => rfl
  case failure => exact congrArg some hfirst
  case reader => rfl
  case size => exact (size_fail _ _).trans (size_takeAll x packets)

/-- Two exchanges that agree in every part are one. -/
theorem eq_of_parts {x y : Exchange} (hlimit : x.limit = y.limit) (hcounter : x.counter = y.counter)
    (hpending : x.pending = y.pending) (hsize : x.progress.size = y.progress.size)
    (hstanding : ∀ t, x.standing t = y.standing t) (hfailure : x.failure = y.failure)
    (hreader : x.reader = y.reader) : x = y := by
  have hprogress : x.progress = y.progress := by
    refine Array.ext hsize fun i hi hi' => ?_
    have := hstanding i
    unfold standing at this
    rwa [Array.getD, dif_pos hi, Array.getD, dif_pos hi'] at this
  cases x
  cases y
  simp_all

/-- Only the first packet with each id in the table matters. -/
theorem Sound.takeAll_congr (h : x.Sound)
    (hfirst : ∀ e ∈ x.pending, (packets.find? fun p => p.id? = some e.1) =
      others.find? fun p => p.id? = some e.1) : x.takeAll packets = x.takeAll others := by
  refine eq_of_parts ?_ ?_ ?_ ?_ ?_ ?_ ?_
  · rw [limit_takeAll, limit_takeAll]
  · rw [counter_takeAll, counter_takeAll]
  · rw [pending_takeAll, pending_takeAll]
    refine List.filter_congr fun e he => ?_
    have hnone : ∀ qs : List Packet,
        (∀ p ∈ qs, p.id? ≠ some e.1) ↔ (qs.find? fun p => p.id? = some e.1) = none := by
      intro qs
      rw [List.find?_eq_none]
      constructor
      · intro hall p hp hid
        exact hall p hp (of_decide_eq_true hid)
      · intro hall p hp hid
        exact hall p hp (decide_eq_true hid)
    rw [decide_eq_decide, hnone, hnone, hfirst e he]
  · rw [size_takeAll, size_takeAll]
  · intro t
    by_cases ht : ∀ e ∈ x.pending, e.2 ≠ t
    · rw [standing_takeAll_of_not_mem h ht, standing_takeAll_of_not_mem h ht]
    · obtain ⟨⟨id, t'⟩, hmem, rfl⟩ : ∃ e ∈ x.pending, e.2 = t := by
        simpa using ht
      rw [standing_takeAll h hmem, standing_takeAll h hmem, hfirst _ hmem]
  · rw [failure_takeAll, failure_takeAll]
  · rw [reader_takeAll, reader_takeAll]

end Exchange

namespace Packet

variable {packets others : List Packet}

/-- Where ids are distinct, an id belongs to one packet. -/
theorem eq_of_distinct (h : (packets.filterMap id?).Nodup) {p q : Packet} {i : Int}
    (hp : p ∈ packets) (hq : q ∈ packets) (hpid : p.id? = some i) (hqid : q.id? = some i) :
    p = q := by
  induction packets with
  | nil => exact absurd hp List.not_mem_nil
  | cons r packets ih =>
    have hnotin : r.id? = some i → ∀ s ∈ packets, s.id? ≠ some i := by
      intro hr s hs hsid
      rw [List.filterMap_cons_some hr, List.nodup_cons] at h
      exact h.1 (List.mem_filterMap.mpr ⟨s, hs, hsid⟩)
    have hrest : (packets.filterMap id?).Nodup := by
      cases hr : r.id? with
      | none => rwa [List.filterMap_cons_none hr] at h
      | some k =>
        rw [List.filterMap_cons_some hr, List.nodup_cons] at h
        exact h.2
    rcases List.mem_cons.mp hp with rfl | hp'
    · rcases List.mem_cons.mp hq with rfl | hq'
      · rfl
      · exact absurd hqid (hnotin hpid q hq')
    · rcases List.mem_cons.mp hq with rfl | hq'
      · exact absurd hpid (hnotin hqid p hp')
      · exact ih hrest hp' hq'

/-- Packets with distinct ids may come in any order: the first with an id is the same. -/
theorem find?_of_perm (h : packets.Perm others) (hdistinct : (packets.filterMap id?).Nodup)
    (i : Int) : (packets.find? fun p => p.id? = some i) = others.find? fun p => p.id? = some i := by
  cases hfind : packets.find? fun p => p.id? = some i with
  | none =>
    rw [eq_comm, List.find?_eq_none]
    intro q hq
    exact List.find?_eq_none.mp hfind q (h.mem_iff.mpr hq)
  | some p =>
    have hp := List.mem_of_find?_eq_some hfind
    have hpid : p.id? = some i := of_decide_eq_true
      (List.find?_some (p := fun p : Packet => p.id? = some i) hfind)
    cases hfind' : others.find? fun p => p.id? = some i with
    | none => exact absurd (decide_eq_true hpid) (List.find?_eq_none.mp hfind' p (h.mem_iff.mp hp))
    | some q =>
      have hq := h.mem_iff.mpr (List.mem_of_find?_eq_some hfind')
      have hqid : q.id? = some i := of_decide_eq_true
        (List.find?_some (p := fun p : Packet => p.id? = some i) hfind')
      rw [eq_of_distinct hdistinct hp hq hpid hqid]

end Packet

end Sftp
