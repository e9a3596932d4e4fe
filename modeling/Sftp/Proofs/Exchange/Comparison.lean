import Sftp.Proofs.Exchange.NewId
import Sftp.Proofs.Exchange.Outcome

/-!
# Two exchanges side by side

Two exchanges may hold the same requests under different tickets, and besides them requests that the other
does not have. Which tickets are the same request is told by names. As long as the same happens to both, the
requests that have names stand alike.

* `Naming` — names for tickets; `Naming.table` — the part of a table that has names.
* **`Exchange.Tallies`** — two exchanges hold the same requests, as far as these have names. If they tally
  closely, every request of their tables has a name, and they go on to allot the same ids.
* `Exchange.Tallies.take`, `Exchange.Tallies.fail`, `Exchange.Tallies.abandon`, `Exchange.Tallies.register`,
  `Exchange.Tallies.withdraw` — what is done to both keeps this.
-/

namespace Sftp

/-- Names for tickets, by which requests of two exchanges are compared. -/
structure Naming where
  /-- The name of a ticket, if it has one. -/
  name : Ticket → Option Nat
  /-- No two tickets have the same name. -/
  injective : ∀ {t u : Ticket} {k : Nat}, name t = some k → name u = some k → t = u

namespace Naming

variable {ν : Naming} {entries : List (Int × Ticket)}

/-- The part of a table that has names. -/
def table (ν : Naming) (entries : List (Int × Ticket)) : List (Int × Nat) :=
  entries.filterMap fun e => (ν.name e.2).map fun k => (e.1, k)

theorem table_append (ν : Naming) (entries others : List (Int × Ticket)) :
    ν.table (entries ++ others) = ν.table entries ++ ν.table others :=
  List.filterMap_append

theorem mem_table {id : Int} {k : Nat} :
    (id, k) ∈ ν.table entries ↔ ∃ t, (id, t) ∈ entries ∧ ν.name t = some k := by
  unfold table
  rw [List.mem_filterMap]
  constructor
  · rintro ⟨⟨id', t⟩, hmem, hname⟩
    obtain ⟨k', hk, heq⟩ := Option.map_eq_some_iff.mp hname
    obtain ⟨rfl, rfl⟩ := Prod.mk.inj heq
    exact ⟨t, hmem, hk⟩
  · rintro ⟨t, hmem, hk⟩
    exact ⟨(id, t), hmem, Option.map_eq_some_iff.mpr ⟨k, hk, rfl⟩⟩

/-- Ids are sorted out before or after the names are put. -/
theorem table_filter (ν : Naming) (keep : Int → Bool) (entries : List (Int × Ticket)) :
    ν.table (entries.filter fun e => keep e.1) = (ν.table entries).filter fun e => keep e.1 := by
  unfold table
  rw [List.filterMap_filter, List.filter_filterMap]
  refine List.filterMap_congr fun e _ => ?_
  cases ν.name e.2 with
  | none => cases keep e.1 <;> rfl
  | some k => cases hkeep : keep e.1 <;> simp [Option.filter, hkeep]

/-- Where every request has a name, no id is lost. -/
theorem map_fst_table (h : ∀ e ∈ entries, ν.name e.2 ≠ none) :
    (ν.table entries).map Prod.fst = entries.map Prod.fst := by
  induction entries with
  | nil => rfl
  | cons e entries ih =>
    obtain ⟨k, hk⟩ := Option.ne_none_iff_exists'.mp (h e List.mem_cons_self)
    have hrest := ih fun e' he' => h e' (List.mem_cons_of_mem e he')
    unfold table at hrest ⊢
    rw [List.filterMap_cons_some (by rw [hk]; rfl), List.map_cons, List.map_cons, hrest]

end Naming

namespace Exchange

variable {closely : Prop} {ν ν' : Naming} {x y : Exchange} {t u : Ticket} {id id' : Int}

/-- Two exchanges hold the same requests, as far as these have names, and the same has become of them. -/
structure Tallies (closely : Prop) (ν ν' : Naming) (x y : Exchange) : Prop where
  /-- The first table is in order. -/
  sound : x.Sound
  /-- So is the second. -/
  sound' : y.Sound
  /-- Frames may be as long. -/
  limit : y.limit = x.limit
  /-- The connection has failed in both or in none. -/
  failure : y.failure = x.failure
  /-- The readers do the same. -/
  reader : y.reader = x.reader
  /-- The same requests wait, under the same ids. -/
  table : ν'.table y.pending = ν.table x.pending
  /-- Requests with the same name stand alike. -/
  standing : ∀ {t u : Ticket} {k : Nat}, ν.name t = some k → ν'.name u = some k →
    y.standing u = x.standing t
  /-- So will those that are still to come. -/
  coming : ∀ i, ν'.name (y.progress.size + i) = ν.name (x.progress.size + i)
  /-- Ids are looked for from the same number on. -/
  counter : closely → y.counter = x.counter
  /-- All requests that wait have names, and all that are still to come. -/
  named : closely → (∀ e ∈ x.pending, ν.name e.2 ≠ none) ∧ (∀ e ∈ y.pending, ν'.name e.2 ≠ none) ∧
    ∀ i, ν.name (x.progress.size + i) ≠ none
  /-- If the exchanges do not tally closely, none that is still to come has a name. -/
  unnamed : ¬ closely → ∀ i, ν.name (x.progress.size + i) = none

namespace Tallies

/-- Tallying goes both ways. -/
theorem symm (h : x.Tallies closely ν ν' y) : y.Tallies closely ν' ν x where
  sound := h.sound'
  sound' := h.sound
  limit := h.limit.symm
  failure := h.failure.symm
  reader := h.reader.symm
  table := h.table.symm
  standing hu ht := (h.standing ht hu).symm
  coming i := (h.coming i).symm
  counter hclosely := (h.counter hclosely).symm
  named hclosely := by
    obtain ⟨hx, hy, hcoming⟩ := h.named hclosely
    refine ⟨hy, hx, fun i => ?_⟩
    rw [h.coming i]
    exact hcoming i
  unnamed hnot i := by
    rw [h.coming i]
    exact h.unnamed hnot i

/-- A request that waits in one exchange and has a name waits in the other. -/
theorem exists_mem (h : x.Tallies closely ν ν' y) {k : Nat} (hmem : (id, t) ∈ x.pending)
    (hname : ν.name t = some k) : ∃ u, (id, u) ∈ y.pending ∧ ν'.name u = some k := by
  refine Naming.mem_table.mp ?_
  rw [h.table]
  exact Naming.mem_table.mpr ⟨t, hmem, hname⟩

/-- Requests with the same name have tickets that were given out in both exchanges, or in none. -/
theorem lt_size (h : x.Tallies closely ν ν' y) {k : Nat} (ht : ν.name t = some k)
    (hu : ν'.name u = some k) (hlt : u < y.progress.size) : t < x.progress.size := by
  by_contra hge
  have hcoming := h.coming (t - x.progress.size)
  rw [Nat.add_sub_cancel' (Nat.le_of_not_lt hge), ht] at hcoming
  rw [ν'.injective hu hcoming] at hlt
  exact absurd hlt (Nat.not_lt.mpr (Nat.le_add_right _ _))

/-- What is done to both exchanges keeps them tallying, if it keeps their tables, and how the requests with
names stand. -/
theorem congr (h : x.Tallies closely ν ν' y) {x' y' : Exchange} (hx : x'.Sound) (hy : y'.Sound)
    (hpending : x'.pending = x.pending) (hpending' : y'.pending = y.pending)
    (hsize : x'.progress.size = x.progress.size) (hsize' : y'.progress.size = y.progress.size)
    (hlimit : y'.limit = x'.limit) (hfailure : y'.failure = x'.failure) (hreader : y'.reader = x'.reader)
    (hcounter : closely → y'.counter = x'.counter)
    (hstanding : ∀ {t u : Ticket} {k : Nat}, ν.name t = some k → ν'.name u = some k →
      y'.standing u = x'.standing t) : x'.Tallies closely ν ν' y' where
  sound := hx
  sound' := hy
  limit := hlimit
  failure := hfailure
  reader := hreader
  table := by rw [hpending, hpending', h.table]
  standing := hstanding
  coming i := by rw [hsize, hsize', h.coming i]
  counter := hcounter
  named := by
    rw [hpending, hpending', hsize]
    exact h.named
  unnamed := by
    rw [hsize]
    exact h.unnamed

/-- The readers may change alike. -/
theorem with_reader (h : x.Tallies closely ν ν' y) (reader : ReaderState) :
    Tallies closely ν ν' { x with reader } { y with reader } :=
  h.congr (h.sound.with_reader reader) (h.sound'.with_reader reader) rfl rfl rfl rfl h.limit h.failure rfl
    h.counter h.standing

/-- The counters may change, and in exchanges that tally closely alike. -/
theorem with_counter (h : x.Tallies closely ν ν' y) {n n' : Int} (hcounter : closely → n' = n) :
    Tallies closely ν ν' { x with counter := n } { y with counter := n' } :=
  h.congr (h.sound.of_subset (fun _ he => he) (fun _ => rfl) (Nat.le_refl _))
    (h.sound'.of_subset (fun _ he => he) (fun _ => rfl) (Nat.le_refl _)) rfl rfl rfl rfl h.limit h.failure
    h.reader hcounter h.standing

/-! ## Packets -/

/-- A packet reaches the same request in both exchanges, if that has a name. -/
theorem reached (h : x.Tallies closely ν ν' y) {p : Packet} {k : Nat} (ht : ν.name t = some k)
    (hu : ν'.name u = some k) (hreached : x.reached p = some t) : y.reached p = some u := by
  obtain ⟨id, hid, hmem⟩ := mem_of_reached hreached
  obtain ⟨u', hmem', hname⟩ := h.exists_mem hmem ht
  rw [ν'.injective hu hname]
  exact h.sound'.reached_eq hid hmem'

/-- The same packet is taken. -/
theorem take (h : x.Tallies closely ν ν' y) (p : Packet) :
    (x.take p).Tallies closely ν ν' (y.take p) where
  sound := h.sound.take p
  sound' := h.sound'.take p
  limit := by rw [limit_take, limit_take, h.limit]
  failure := by rw [failure_take, failure_take, h.failure]
  reader := by rw [reader_take, reader_take, h.reader]
  table := by
    rw [pending_take, pending_take, Naming.table_filter _ fun id => decide (p.id? ≠ some id),
      Naming.table_filter _ fun id => decide (p.id? ≠ some id), h.table]
  standing := by
    intro t u k ht hu
    rw [standing_take h.sound', standing_take h.sound, h.standing ht hu]
    by_cases hreached : x.reached p = some t
    · rw [if_pos hreached, if_pos (h.reached ht hu hreached)]
    · rw [if_neg hreached, if_neg fun hreached' => hreached (h.symm.reached hu ht hreached')]
  coming i := by rw [size_take, size_take, h.coming i]
  counter hclosely := by rw [counter_take, counter_take, h.counter hclosely]
  named hclosely := by
    obtain ⟨hx, hy, hcoming⟩ := h.named hclosely
    rw [pending_take, pending_take, size_take]
    exact ⟨fun e he => hx e (List.mem_filter.mp he).1, fun e he => hy e (List.mem_filter.mp he).1,
      hcoming⟩
  unnamed := by
    rw [size_take]
    exact h.unnamed

/-! ## Failures -/

/-- A request with a name is in both tables or in none. -/
theorem mem_tickets (h : x.Tallies closely ν ν' y) {k : Nat} (ht : ν.name t = some k)
    (hu : ν'.name u = some k) (hmem : t ∈ x.pending.map Prod.snd) : u ∈ y.pending.map Prod.snd := by
  obtain ⟨⟨id, _⟩, he, rfl⟩ := List.mem_map.mp hmem
  obtain ⟨u', hmem', hname⟩ := h.exists_mem he ht
  rw [ν'.injective hu hname]
  exact List.mem_map.mpr ⟨_, hmem', rfl⟩

/-- Both connections fail, with the same message. -/
theorem fail (h : x.Tallies closely ν ν' y) (message : Text) :
    (x.fail message).Tallies closely ν ν' (y.fail message) where
  sound := .fail message
  sound' := .fail message
  limit := h.limit
  failure := by rw [failure_fail, failure_fail, h.failure]
  reader := h.reader
  table := rfl
  standing := by
    intro t u k ht hu
    rw [standing_fail h.sound', standing_fail h.sound, h.standing ht hu, h.failure]
    by_cases hmem : t ∈ x.pending.map Prod.snd
    · rw [if_pos hmem, if_pos (h.mem_tickets ht hu hmem)]
    · rw [if_neg hmem, if_neg fun hmem' => hmem (h.symm.mem_tickets hu ht hmem')]
  coming i := by rw [size_fail, size_fail, h.coming i]
  counter := h.counter
  named hclosely := by
    obtain ⟨-, -, hcoming⟩ := h.named hclosely
    rw [size_fail]
    exact ⟨nofun, nofun, hcoming⟩
  unnamed := by
    rw [size_fail]
    exact h.unnamed

/-- Both readers stop. -/
theorem stop (h : x.Tallies closely ν ν' y) (message : Text) :
    (x.stop message).Tallies closely ν ν' (y.stop message) :=
  (h.with_reader .stopped).fail message

/-! ## Giving up, entering and taking back -/

/-- The same request is given up, or in each exchange one without a name. -/
theorem abandon (h : x.Tallies closely ν ν' y) (hname : ν'.name u = ν.name t) :
    (x.abandon t).2.Tallies closely ν ν' (y.abandon u).2 := by
  obtain ⟨hx, hsize⟩ := abandon_eq x t
  obtain ⟨hy, hsize'⟩ := abandon_eq y u
  refine h.congr (h.sound.abandon t) (h.sound'.abandon u) (by rw [hx]) (by rw [hy]) hsize hsize' ?_ ?_
    ?_ ?_ ?_
  · rw [hx, hy]
    exact h.limit
  · rw [hx, hy]
    exact h.failure
  · rw [hx, hy]
    exact h.reader
  · rw [hx, hy]
    exact h.counter
  · intro t' u' k ht hu
    rw [standing_abandon_eq, standing_abandon_eq, h.standing ht hu]
    have hsame : u' = u ∧ u < y.progress.size ↔ t' = t ∧ t < x.progress.size := by
      constructor
      · rintro ⟨rfl, hlt⟩
        rw [hu] at hname
        obtain rfl := ν.injective ht hname.symm
        exact ⟨rfl, h.lt_size ht hu hlt⟩
      · rintro ⟨rfl, hlt⟩
        rw [ht] at hname
        obtain rfl := ν'.injective hu hname
        exact ⟨rfl, h.symm.lt_size hu ht hlt⟩
    simp only [hsame]

/-- A request is entered in both exchanges, under the same id or without a name. -/
theorem register (h : x.Tallies closely ν ν' y) (hfree : ∀ e ∈ x.pending, e.1 ≠ id)
    (hfree' : ∀ e ∈ y.pending, e.1 ≠ id') (hid : id' = id ∨ ν.name x.progress.size = none) :
    (x.register id).2.Tallies closely ν ν' (y.register id').2 where
  sound := h.sound.register hfree
  sound' := h.sound'.register hfree'
  limit := h.limit
  failure := h.failure
  reader := h.reader
  table := by
    show ν'.table (y.pending ++ [(id', y.progress.size)]) = ν.table (x.pending ++ [(id, x.progress.size)])
    rw [Naming.table_append, Naming.table_append, h.table]
    have hcoming : ν'.name y.progress.size = ν.name x.progress.size := h.coming 0
    rcases hid with rfl | hnone
    · simp only [Naming.table, List.filterMap_cons, hcoming]
      rfl
    · simp only [Naming.table, List.filterMap_cons, hcoming, hnone]
      rfl
  standing := by
    intro t u k ht hu
    rw [standing_register, standing_register, h.standing ht hu]
  coming i := by
    rw [size_register, size_register, Nat.add_assoc, Nat.add_assoc, h.coming (1 + i)]
  counter := h.counter
  named hclosely := by
    obtain ⟨hx, hy, hcoming⟩ := h.named hclosely
    refine ⟨fun e he => ?_, fun e he => ?_, fun i => ?_⟩
    · rcases List.mem_append.mp he with hold | hnew
      · exact hx e hold
      · rw [List.mem_singleton.mp hnew]
        exact hcoming 0
    · rcases List.mem_append.mp he with hold | hnew
      · exact hy e hold
      · rw [List.mem_singleton.mp hnew]
        have hnamed : ν'.name (y.progress.size + 0) ≠ none := by
          rw [h.coming 0]
          exact hcoming 0
        exact hnamed
    · rw [size_register, Nat.add_assoc]
      exact hcoming (1 + i)
  unnamed hnot i := by
    rw [size_register, Nat.add_assoc]
    exact h.unnamed hnot (1 + i)

/-- A request is taken back in both exchanges, under the same id or without a name. -/
theorem withdraw (h : x.Tallies closely ν ν' y)
    (hid : id' = id ∨ (∀ e ∈ x.pending, e.1 = id → ν.name e.2 = none) ∧
      ∀ e ∈ y.pending, e.1 = id' → ν'.name e.2 = none) :
    (x.withdraw id).Tallies closely ν ν' (y.withdraw id') where
  sound := h.sound.of_subset (fun _ he => (List.mem_filter.mp he).1) (fun _ => rfl) (Nat.le_refl _)
  sound' := h.sound'.of_subset (fun _ he => (List.mem_filter.mp he).1) (fun _ => rfl) (Nat.le_refl _)
  limit := h.limit
  failure := h.failure
  reader := h.reader
  table := by
    unfold Exchange.withdraw
    rw [Naming.table_filter _ fun i => decide (i ≠ id), Naming.table_filter _ fun i => decide (i ≠ id'),
      h.table]
    rcases hid with rfl | ⟨hx, hy⟩
    · rfl
    · -- an id that belongs to no name is not in the named part
      have hkeep : (ν.table x.pending).filter (fun e => decide (e.1 ≠ id)) = ν.table x.pending := by
        refine List.filter_eq_self.mpr fun e he => decide_eq_true fun heq => ?_
        obtain ⟨t, hmem, hname⟩ := Naming.mem_table.mp he
        rw [hx _ hmem heq] at hname
        cases hname
      have hkeep' : (ν.table x.pending).filter (fun e => decide (e.1 ≠ id')) = ν.table x.pending := by
        rw [← h.table]
        refine List.filter_eq_self.mpr fun e he => decide_eq_true fun heq => ?_
        obtain ⟨t, hmem, hname⟩ := Naming.mem_table.mp he
        rw [hy _ hmem heq] at hname
        cases hname
      rw [hkeep, hkeep']
  standing := h.standing
  coming := h.coming
  counter := h.counter
  named hclosely := by
    obtain ⟨hx, hy, hcoming⟩ := h.named hclosely
    exact ⟨fun e he => hx e (List.mem_filter.mp he).1, fun e he => hy e (List.mem_filter.mp he).1, hcoming⟩
  unnamed := h.unnamed

/-! ## New ids -/

/-- Exchanges that tally closely allot the same id. -/
theorem nextId (h : x.Tallies closely ν ν' y) (hclosely : closely) :
    y.nextId.1 = x.nextId.1 ∧ y.nextId.2.counter = x.nextId.2.counter := by
  obtain ⟨hx, hy, -⟩ := h.named hclosely
  have hids : y.pending.map Prod.fst = x.pending.map Prod.fst := by
    rw [← Naming.map_fst_table hx, ← Naming.map_fst_table hy, h.table]
  have hpending : ∀ id, y.isPending id = x.isPending id := by
    intro id
    rw [Bool.eq_iff_iff, isPending_iff, isPending_iff, hids]
  have hlength : y.pending.length = x.pending.length := by
    rw [← List.length_map Prod.fst, hids, List.length_map]
  have hsearch := searchId_congr hpending (x.pending.length + 1) x.counter
  rw [nextId_eq, nextId_eq, hlength, h.counter hclosely, hsearch]
  exact ⟨rfl, rfl⟩

end Tallies

end Exchange

end Sftp
