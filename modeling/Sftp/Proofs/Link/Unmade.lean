import Sftp.Proofs.Link.Comparison
import Sftp.Proofs.Link.Failure
import Sftp.Proofs.Wire.Encoded

/-!
# Requests that cannot be made

A request is entered before its packet is made. If it then cannot be made, it is taken back, and nothing is
left of it but the number from which ids are made: what is done afterwards goes as if an id had been allotted
and not used. Requests that were under way fare as if there had been no call at all, if the far end does not
tell later requests apart by their ids.

* `Request.Unmade` — why a request cannot be made; `Request.steady_ofMessage` — whether a message can be sent
  does not depend on the id.
* `Link.OnlyCounted` — nothing has changed but the counter.
* `History.OneMore` — two histories that differ by one ticket, which nobody has.
* `Link.tallies_of_unmade` — the link after such a call tallies with the link before it;
  `Link.Tallies.history` and `Link.Tallies.history_of_steady` — and goes on to do so.
* **`Link.unmade_leaves_no_trace`** — what such a call does, and what becomes of all others afterwards.
-/

namespace Sftp

/-! ## Requests -/

/-- Why a request cannot be made for an id. -/
inductive Request.Unmade (r : Request) (id : Int) : Fault → Prop
  /-- Making the packet ends with a fault. -/
  | raised {f : Fault} (h : r.build id = .error f) : Unmade r id f
  /-- The packet has no frame: a field of it does not fit, or all of it together
  (`Packet.encode_eq_ok_iff`). -/
  | refused {p : Packet} {cause : EncodeFault} (hbuild : r.build id = .ok p)
      (h : p.encode = .error cause) : Unmade r id (.unencodable cause)

/-- A request that can be made for all ids or for none. -/
def Request.Steady (r : Request) : Prop :=
  ∀ id id' bytes, 0 ≤ id → id < Exchange.idCount → 0 ≤ id' → id' < Exchange.idCount →
    Link.Request.frame r id = .ok bytes → ∃ bytes', Link.Request.frame r id' = .ok bytes'

namespace Request

variable {r : Request} {id : Int} {f : Fault} {p : Packet}

/-- A request that cannot be made has no frame. -/
theorem Unmade.frame (h : r.Unmade id f) : Link.Request.frame r id = .error f := by
  rw [Link.frame_eq]
  cases h with
  | raised h => rw [h]
  | refused hbuild h =>
    rw [hbuild]
    simp only [h]
    rfl

/-- Whether a message can be sent does not depend on the id. -/
theorem steady_ofMessage (m : Message) : (Request.ofMessage m).Steady := by
  intro id id' bytes hid hlt hid' hlt' hframe
  obtain ⟨p, hbuild, hencode⟩ := Link.exists_packet_of_frame hframe
  obtain rfl := Except.ok.inj hbuild
  have hencodable : (Packet.message id m).IsEncodable := ⟨bytes, hencode⟩
  obtain ⟨-, hfits, hsize⟩ := Packet.isEncodable_message_iff.mp hencodable
  rw [Packet.length_layout_message] at hsize
  have hencodable' : (Packet.message id' m).IsEncodable := by
    refine Packet.isEncodable_message_iff.mpr ⟨⟨hid', hlt'⟩, hfits, ?_⟩
    rwa [Packet.length_layout_message]
  obtain ⟨bytes', hencode'⟩ := hencodable'
  refine ⟨bytes', ?_⟩
  have hframe' : Link.Request.frame (.ofMessage m) id' = _ := Link.frame_eq (.ofMessage m) id'
  rw [hframe']
  show (Packet.message id' m).encode.mapError Fault.unencodable = .ok bytes'
  rw [hencode']
  rfl

end Request

/-! ## One ticket more -/

/-- The number that a ticket would have without one that was given out before, unless it is that one. -/
def Ticket.without (n u : Ticket) : Option Nat :=
  if u < n then some u else if u = n then none else some (u - 1)

/-- Only one ticket would have a number. -/
theorem Ticket.without_eq_some_iff {n u : Ticket} {k : Nat} :
    Ticket.without n u = some k ↔ u = Ticket.past n k := by
  unfold Ticket.without Ticket.past
  delta Ticket at *
  by_cases hk : k < n
  · rw [if_pos hk]
    split <;> try split
    all_goals simp only [Option.some.injEq, reduceCtorEq, false_iff]
    all_goals omega
  · rw [if_neg hk]
    split <;> try split
    all_goals simp only [Option.some.injEq, reduceCtorEq, false_iff]
    all_goals omega

/-- The ticket before stays as it is. -/
theorem Ticket.past_of_lt {n t : Ticket} (h : t < n) : Ticket.past n t = t :=
  if_pos h

/-- The tickets after are one more. -/
theorem Ticket.past_of_le {n t : Ticket} (h : n ≤ t) : Ticket.past n t = t + 1 :=
  if_neg (Nat.not_lt.mpr h)

namespace Naming

/-- Every ticket has its number for a name. -/
def all : Naming where
  name := some
  injective ht hu := Option.some.inj (ht.trans hu.symm)

/-- The tickets below a number have names. -/
def below (n : Ticket) : Naming where
  name t := if t < n then some t else none
  injective ht hu := by
    rw [Option.ite_none_right_eq_some] at ht hu
    exact Option.some.inj (ht.2.trans hu.2.symm)

/-- One ticket has no name, and the others have the names that they would have without it. -/
def past (n : Ticket) : Naming where
  name := Ticket.without n
  injective ht hu :=
    (Ticket.without_eq_some_iff.mp ht).trans (Ticket.without_eq_some_iff.mp hu).symm

/-- A naming in which one ticket has no name, and the others have those of another naming. -/
structure Skips (n : Ticket) (ν ν' : Naming) : Prop where
  /-- The ticket without a name. -/
  skipped : ν'.name n = none
  /-- The other tickets. -/
  name : ∀ t, ν'.name (Ticket.past n t) = ν.name t

theorem skips_past (n : Ticket) : Skips n all (past n) where
  skipped := by
    show Ticket.without n n = none
    rw [Ticket.without, if_neg (Nat.lt_irrefl n), if_pos rfl]
  name t := Ticket.without_eq_some_iff.mpr rfl

theorem skips_below (n : Ticket) : Skips n (below n) (below n) where
  skipped := if_neg (Nat.lt_irrefl n)
  name t := by
    show (if Ticket.past n t < n then some (Ticket.past n t) else none) = if t < n then some t else none
    by_cases ht : t < n
    · rw [Ticket.past_of_lt ht]
    · have hle := Nat.le_of_not_lt ht
      rw [Ticket.past_of_le hle, if_neg ht, if_neg (Nat.not_lt.mpr (Nat.le_succ_of_le hle))]

/-- A ticket with a name is one that would be there anyway. -/
theorem Skips.exists_eq {n u : Ticket} {k : Nat} {ν ν' : Naming} (h : Skips n ν ν')
    (hu : ν'.name u = some k) : ∃ t, ν.name t = some k ∧ u = Ticket.past n t := by
  cases hwithout : Ticket.without n u with
  | some t =>
    obtain rfl := Ticket.without_eq_some_iff.mp hwithout
    exact ⟨t, (h.name t).symm.trans hu, rfl⟩
  | none =>
    -- the ticket is the one without a name
    have hn : u = n := by
      by_contra hne
      unfold Ticket.without at hwithout
      rw [if_neg hne] at hwithout
      split at hwithout <;> cases hwithout
    rw [hn, h.skipped] at hu
    cases hu

/-- A table is made again from its names. -/
theorem map_table_past {n : Ticket} {entries : List (Int × Ticket)}
    (h : ∀ e ∈ entries, (past n).name e.2 ≠ none) :
    ((past n).table entries).map (fun e => (e.1, Ticket.past n e.2)) = entries := by
  induction entries with
  | nil => rfl
  | cons e entries ih =>
    obtain ⟨k, hk⟩ := Option.ne_none_iff_exists'.mp (h e List.mem_cons_self)
    have hrest := ih fun e' he' => h e' (List.mem_cons_of_mem e he')
    unfold table at hrest ⊢
    rw [List.filterMap_cons_some (by rw [hk]; rfl), List.map_cons, hrest,
      ← Ticket.without_eq_some_iff.mp hk]

end Naming

/-! ## The call -/

namespace Link

variable {σ : Type} {l m : Link σ} {r : Request} {id : Int} {f : Fault} {n : Ticket}

/-- Nothing has changed but the counter, which has moved as for an id. -/
structure OnlyCounted (l l' : Link σ) : Prop where
  /-- The stream. -/
  line : l'.line = l.line
  /-- The records. -/
  journal : l'.journal = l.journal
  /-- The table. -/
  pending : l'.exchange.pending = l.exchange.pending
  /-- The failure. -/
  failure : l'.exchange.failure = l.exchange.failure
  /-- The reader. -/
  reader : l'.exchange.reader = l.exchange.reader
  /-- The longest frame. -/
  limit : l'.exchange.limit = l.exchange.limit
  /-- How every request stands. -/
  standing : ∀ t, l'.exchange.standing t = l.exchange.standing t
  /-- The counter. -/
  counter : l'.exchange.counter = l.exchange.nextId.2.counter

/-- A request that is entered and taken back only counts. -/
theorem onlyCounted_withdraw (hid : l.exchange.nextId.1 = some id) :
    l.OnlyCounted { l.enter id with exchange := (l.enter id).exchange.withdraw id } where
  line := rfl
  journal := rfl
  pending := pending_withdraw_enter hid
  failure := rfl
  reader := rfl
  limit := rfl
  standing := Exchange.standing_register l.exchange.nextId.2 id
  counter := rfl

/-- **After the call the link tallies with the link before it**: with another counter, if the requests that
are still to come have names, and in any case if they have none. -/
theorem tallies_withdraw {closely : Prop} {ν ν' : Naming} {counter : Int} (hsound : l.exchange.Sound)
    (hid : l.exchange.nextId.1 = some id) (hskips : Naming.Skips l.exchange.progress.size ν ν')
    (hcounter : closely → counter = l.exchange.nextId.2.counter)
    (hnamed : closely → ∀ t, ν.name t ≠ none)
    (hunnamed : ¬ closely → ∀ t, l.exchange.progress.size ≤ t → ν.name t = none) :
    Tallies closely ν ν' { l with exchange := { l.exchange with counter } }
      { l.enter id with exchange := (l.enter id).exchange.withdraw id } := by
  have honly := onlyCounted_withdraw hid
  have hname : ∀ e ∈ l.exchange.pending, ν'.name e.2 = ν.name e.2 := by
    intro e he
    rw [← hskips.name, Ticket.past_of_lt (hsound.inRange e he)]
  refine ⟨?_, rfl, fun _ => rfl⟩
  constructor
  case sound => exact hsound.of_subset (fun _ he => he) (fun _ => rfl) (Nat.le_refl _)
  case sound' =>
    exact (sound_enter hsound hid).of_subset (fun _ he => (List.mem_filter.mp he).1) (fun _ => rfl)
      (Nat.le_refl _)
  case limit => rfl
  case failure => rfl
  case reader => rfl
  case table =>
    show ν'.table ((l.enter id).exchange.withdraw id).pending = ν.table l.exchange.pending
    rw [pending_withdraw_enter hid]
    exact List.filterMap_congr fun e he => by rw [hname e he]
  case standing =>
    intro t u k ht hu
    obtain ⟨t', ht', rfl⟩ := hskips.exists_eq hu
    obtain rfl := ν.injective ht ht'
    refine (honly.standing _).trans ?_
    show l.exchange.standing _ = l.exchange.standing t
    by_cases hlt : t < l.exchange.progress.size
    · rw [Ticket.past_of_lt hlt]
    · -- neither ticket was given out
      have hle := Nat.le_of_not_lt hlt
      rw [Ticket.past_of_le hle, Exchange.standing_of_le (Nat.le_succ_of_le hle),
        Exchange.standing_of_le hle]
  case coming =>
    intro i
    show ν'.name ((l.exchange.nextId.2.register id).2.progress.size + i) =
      ν.name (l.exchange.progress.size + i)
    rw [Exchange.size_register, ← hskips.name, Ticket.past_of_le (Nat.le_add_right _ _),
      Nat.add_right_comm]
    rfl
  case counter => exact fun hclosely => (hcounter hclosely).symm
  case named =>
    intro hclosely
    refine ⟨fun e _ => hnamed hclosely e.2, fun e he => ?_, fun i => hnamed hclosely _⟩
    have hmem : e ∈ l.exchange.pending := by
      rw [← pending_withdraw_enter hid]
      exact he
    rw [hname e hmem]
    exact hnamed hclosely e.2
  case unnamed => exact fun hnot i => hunnamed hnot _ (Nat.le_add_right _ _)

/-! ## What is done afterwards -/

/-- Links that tally closely take every submission alike. -/
theorem Tallies.alike {closely : Prop} {ν ν' : Naming} (h : l.Tallies closely ν ν' m)
    (hclosely : closely) (r : Request) : Tallies.Alike closely ν r l m := by
  obtain ⟨hnext, -⟩ := h.exchange.nextId hclosely
  cases hid : l.exchange.nextId.1 with
  | none => exact .exhausted hid (hnext.trans hid)
  | some id =>
    cases hframe : Request.frame r id with
    | error f => exact .unmade hid (hnext.trans hid) (.inl rfl) hframe hframe
    | ok bytes => exact .made hid (hnext.trans hid) (.inl rfl) hframe hframe (.inl rfl)

/-- A far end that does not look at frames lets links that do not tally closely take submissions alike, if
there are ids. -/
theorem Tallies.alike_of_blind {closely : Prop} {ν ν' : Naming} (h : l.Tallies closely ν ν' m)
    (hnot : ¬ closely) (hblind : l.line.peer.Blind) (hr : r.Steady)
    (hid : l.exchange.nextId.1 ≠ none) (hid' : m.exchange.nextId.1 ≠ none) :
    Tallies.Alike closely ν r l m := by
  obtain ⟨id, hid⟩ := Option.ne_none_iff_exists'.mp hid
  obtain ⟨id', hid'⟩ := Option.ne_none_iff_exists'.mp hid'
  obtain ⟨hpos, hlt⟩ := Exchange.nextId_range hid
  obtain ⟨hpos', hlt'⟩ := Exchange.nextId_range hid'
  have hsame : id' = id ∨ ν.name l.exchange.progress.size = none := .inr (h.exchange.unnamed hnot 0)
  cases hframe : Request.frame r id with
  | error f =>
    cases hframe' : Request.frame r id' with
    | error f' => exact .unmade hid hid' hsame hframe hframe'
    | ok bytes' =>
      obtain ⟨bytes, hmade⟩ := hr id' id bytes' hpos' hlt' hpos hlt hframe'
      rw [hframe] at hmade
      cases hmade
  | ok bytes =>
    obtain ⟨bytes', hframe'⟩ := hr id id' bytes hpos hlt hpos' hlt' hframe
    exact .made hid hid' hsame hframe hframe' (.inr ⟨hnot, hblind⟩)

/-- Two links that differ by one ticket, which nobody has in the second. -/
structure OneMore (n : Ticket) (l l' : Link σ) : Prop where
  /-- The stream, and what went over it. -/
  line : l'.line = l.line
  /-- The failure. -/
  failure : l'.exchange.failure = l.exchange.failure
  /-- The reader. -/
  reader : l'.exchange.reader = l.exchange.reader
  /-- The counter. -/
  counter : l'.exchange.counter = l.exchange.counter
  /-- The table. -/
  pending : l'.exchange.pending = l.exchange.pending.map fun e => (e.1, Ticket.past n e.2)
  /-- How every request stands. -/
  standing : ∀ t, l'.exchange.standing (Ticket.past n t) = l.exchange.standing t

/-- Links that tally closely, but for one ticket, differ by that. -/
theorem Tallies.oneMore (h : l.Tallies True .all (.past n) m) : l.OneMore n m where
  line := by
    rw [h.line, h.sent trivial]
  failure := h.exchange.failure
  reader := h.exchange.reader
  counter := h.exchange.counter trivial
  pending := by
    obtain ⟨-, hnamed, -⟩ := h.exchange.named trivial
    have htable : Naming.all.table l.exchange.pending = l.exchange.pending := List.filterMap_some
    rw [← Naming.map_table_past hnamed, h.exchange.table, htable]
  standing t := h.exchange.standing rfl (Ticket.without_eq_some_iff.mpr rfl)

/-- The tickets that an operation gives out are the same, but for one. -/
theorem Tallies.issued (h : l.Tallies True .all (.past n) m) (op : Op σ) :
    (op.past n).issued m = (op.issued l).map fun e => (e.1, Ticket.past n e.2) := by
  have hsubmit : ∀ r, m.submitIssued r = (l.submitIssued r).map fun e => (e.1, Ticket.past n e.2) := by
    intro r
    obtain ⟨hend, -⟩ := h.submit (h.alike trivial r)
    obtain ⟨hnext, -⟩ := h.exchange.nextId trivial
    unfold submitIssued
    rw [hnext]
    rcases hend with ⟨hok, hok'⟩ | ⟨f, f', herror, herror'⟩
    · have hticket : m.exchange.progress.size = Ticket.past n l.exchange.progress.size :=
        Ticket.without_eq_some_iff.mp (h.exchange.coming 0)
      rw [hok, hok', hticket]
      cases l.exchange.nextId.1 with
      | none => rfl
      | some id => rfl
    · rw [herror, herror']
      rfl
  cases op with
  | submit r | send r | poll r => exact hsubmit r
  | start | nextId | moveCounter | await | abandon | close | closeLine | receive | change => rfl

/-- **Whatever is done afterwards**, the links differ by one ticket. -/
theorem Tallies.history {h h' : History σ} (htallies : h.link.Tallies True .all (.past n) h'.link)
    (hissued : h'.issued = h.issued.map fun e => (e.1, Ticket.past n e.2)) (ops : List (Op σ)) :
    (h.run ops).link.Tallies True .all (.past n) (h'.run (ops.map (Op.past n))).link ∧
      (h'.run (ops.map (Op.past n))).issued =
        (h.run ops).issued.map fun e => (e.1, Ticket.past n e.2) := by
  induction ops generalizing h h' with
  | nil => exact ⟨htallies, hissued⟩
  | cons op ops ih =>
    have hstep : (h.step op).link.Tallies True .all (.past n) (h'.step (op.past n)).link :=
      htallies.perform (Naming.skips_past n).name (fun r _ => htallies.alike trivial r) fun t _ => nofun
    refine ih hstep ?_
    show h'.issued ++ (op.past n).issued h'.link =
      (h.issued ++ op.issued h.link).map fun e => (e.1, Ticket.past n e.2)
    rw [List.map_append, hissued, htallies.issued]

/-! ## Without the call -/

/-- A reader adds nothing to the table. -/
theorem length_pending_rest (l : Link σ) :
    l.rest.exchange.pending.length ≤ l.exchange.pending.length := by
  rcases exchange_rest l with hrest | ⟨message, hrest⟩
  · rw [hrest, Exchange.pending_takeAll]
    exact List.length_filter_le _ _
  · rw [hrest]
    exact Nat.zero_le _

/-- Waiting adds nothing to the table. -/
theorem length_pending_await (t : Ticket) (l : Link σ) :
    ((await t).run l).2.exchange.pending.length ≤ l.exchange.pending.length := by
  rw [run_await]
  split
  · exact length_pending_rest (l.arrived [.ending .closed])
  · exact Nat.le_refl _

/-- What follows a fault adds nothing to the table. -/
theorem length_pending_afterFault (x : Exchange) (id : Int) (f : Fault) :
    (x.afterFault id f).pending.length ≤ x.pending.length := by
  unfold Exchange.afterFault
  split
  · exact List.length_filter_le _ _
  · split
    · exact Nat.zero_le _
    · exact Nat.le_refl _

/-- A submission adds at most one request to the table. -/
theorem length_pending_submit (r : Request) (l : Link σ) :
    ((submit r).run l).2.exchange.pending.length ≤ l.exchange.pending.length + 1 := by
  have htransmit : ∀ h : Handing, ((transmit h.frame).run (l.enter h.id)).2.exchange.pending.length ≤
      l.exchange.pending.length + 1 := by
    intro h
    rw [exchange_transmit]
    have hrest := length_pending_rest ((l.enter h.id).wrote h.frame)
    have henter : (l.enter h.id).exchange.pending.length = l.exchange.pending.length + 1 :=
      List.length_append
    exact henter ▸ hrest
  have hsubmitted := submitted r l
  generalize ((submit r).run l).1 = result at hsubmitted
  generalize ((submit r).run l).2 = l' at hsubmitted ⊢
  cases hsubmitted with
  | refused => exact Nat.le_succ _
  | exhausted => exact Nat.le_succ _
  | unmade _ hid =>
    rw [pending_withdraw_enter hid]
    exact Nat.le_succ _
  | hungUp => exact Nat.zero_le _
  | sent => exact htransmit _
  | faulted _ _ hexchange =>
    rw [hexchange]
    exact Nat.le_trans (length_pending_afterFault _ _ _) (htransmit _)

/-- An operation adds at most one request to the table. -/
theorem length_pending_perform (op : Op σ) (l : Link σ) :
    (op.perform l).exchange.pending.length ≤ l.exchange.pending.length + 1 := by
  cases op with
  | start =>
    show l.start.exchange.pending.length ≤ _
    unfold start
    split
    · exact Nat.le_trans (length_pending_rest l.listening) (Nat.le_succ _)
    · exact Nat.le_succ _
  | submit r => exact length_pending_submit r l
  | await t => exact Nat.le_trans (length_pending_await t l) (Nat.le_succ _)
  | send r =>
    have hsubmit := length_pending_submit r l
    show ((send r).run l).2.exchange.pending.length ≤ _
    rw [run_send]
    generalize (submit r).run l = outcome at hsubmit ⊢
    rcases outcome with ⟨f | t, l'⟩
    · exact hsubmit
    · exact Nat.le_trans (length_pending_await t l') hsubmit
  | poll r =>
    have hsubmit := length_pending_submit r l
    show ((poll r).run l).2.exchange.pending.length ≤ _
    rw [run_poll]
    generalize (submit r).run l = outcome at hsubmit ⊢
    rcases outcome with ⟨f | t, l'⟩
    · exact hsubmit
    · show (l'.exchange.abandon t).2.pending.length ≤ _
      rw [(Exchange.abandon_eq l'.exchange t).1]
      exact hsubmit
  | nextId =>
    show (nextId.run l).2.exchange.pending.length ≤ _
    rw [run_nextId]
    exact Nat.le_succ _
  | abandon t =>
    show (l.exchange.abandon t).2.pending.length ≤ _
    rw [(Exchange.abandon_eq l.exchange t).1]
    exact Nat.le_succ _
  | close => exact Nat.zero_le _
  | closeLine =>
    show (closeLine.run l).2.exchange.pending.length ≤ _
    rw [run_closeLine]
    exact Nat.le_trans (length_pending_rest l.cut) (Nat.le_succ _)
  | receive arrivals => exact Nat.le_trans (length_pending_rest (l.arrived arrivals)) (Nat.le_succ _)
  | moveCounter | change => exact Nat.le_succ _

end Link

/-- An operation in which nothing hangs on the ids that are allotted: a request that is submitted can be made
for all ids or for none, and nobody waits for one that is newer than a ticket. -/
def Op.Steady {σ : Type} (n : Ticket) : Op σ → Prop
  | submit r | poll r => r.Steady
  | send _ => False
  | await t => t < n
  | _ => True

namespace Link

variable {σ : Type} {l m : Link σ} {r : Request} {id : Int} {f : Fault} {n : Ticket}

/-- **Whatever is done afterwards**, older requests fare alike, if nothing hangs on the ids of newer ones and
these do not run out. -/
theorem Tallies.history_of_steady (h : l.Tallies False (.below n) (.below n) m)
    (hblind : l.line.peer.Blind) {ops : List (Op σ)} (hsteady : ∀ op ∈ ops, op.Steady n)
    (hroom : l.exchange.pending.length + ops.length ≤ Exchange.idCount.toNat)
    (hroom' : m.exchange.pending.length + ops.length ≤ Exchange.idCount.toNat) :
    (l.history ops).link.Tallies False (.below n) (.below n) (m.history (ops.map (Op.past n))).link := by
  induction ops generalizing l m with
  | nil => exact h
  | cons op ops ih =>
    have hop := hsteady op List.mem_cons_self
    rw [List.length_cons] at hroom hroom'
    have hid : l.exchange.nextId.1 ≠ none := by
      obtain ⟨id, hid⟩ := Exchange.exists_nextId (x := l.exchange) (by omega)
      rw [hid]
      exact nofun
    have hid' : m.exchange.nextId.1 ≠ none := by
      obtain ⟨id, hid⟩ := Exchange.exists_nextId (x := m.exchange) (by omega)
      rw [hid]
      exact nofun
    have hstep : (op.perform l).Tallies False (.below n) (.below n) ((op.past n).perform m) := by
      refine h.perform (Naming.skips_below n).name (fun r hr => ?_) fun t ht => ?_
      · refine h.alike_of_blind id hblind ?_ hid hid'
        cases op with
        | submit r' | poll r' =>
          obtain rfl := Option.some.inj hr
          exact hop
        | send r' => exact hop.elim
        | _ => cases hr
      · cases op with
        | await t' =>
          obtain rfl := Option.some.inj ht
          have hlt : t' < n := hop
          show (if t' < n then some t' else none) ≠ none
          rw [if_pos hlt]
          exact nofun
        | send r' => exact hop.elim
        | _ => cases ht
    have hlength := length_pending_perform op l
    have hlength' := length_pending_perform (op.past n) m
    rw [List.map_cons, link_history_cons, link_history_cons]
    refine ih hstep ?_ (fun op' hop' => hsteady op' (List.mem_cons_of_mem op hop')) (by omega) (by omega)
    rw [(op.acts_perform l).peer]
    exact hblind

/-- **A request that cannot be made leaves no trace.** Whatever was done before, if the connection has not
failed and an id is allotted for which the request cannot be made, the call ends with the fault that says why,
nothing is written, and nothing changes but the counter of ids.

Whatever is done afterwards goes as if an id had been allotted and not used: the same goes over the stream, and
every request, older or newer, ends alike. If the far end does not look at frames, nothing hangs on the ids of
newer requests, and these do not run out, then older requests end as if nothing had been done at all. -/
theorem unmade_leaves_no_trace (hl : l.Fresh) (ops : List (Op σ))
    (hhealthy : (l.history ops).link.exchange.failure = none)
    (hid : (l.history ops).link.exchange.nextId.1 = some id) (hstays : r.hangsUp = false)
    (hunmade : r.Unmade id f) :
    let before := (l.history ops).link
    let after := ((submit r).run before).2
    let n := before.exchange.progress.size
    ((submit r).run before).1 = .error f ∧ before.OnlyCounted after ∧
      (∀ more, (before.history (.nextId :: more)).link.OneMore n
          (after.history (more.map (Op.past n))).link ∧
        (after.history (more.map (Op.past n))).issued =
          (before.history (.nextId :: more)).issued.map fun e => (e.1, Ticket.past n e.2)) ∧
      ∀ more, before.line.peer.Blind → (∀ op ∈ more, op.Steady n) →
        before.exchange.pending.length + more.length ≤ Exchange.idCount.toNat →
        (after.history (more.map (Op.past n))).link.exchange.failure =
            (before.history more).link.exchange.failure ∧
          ∀ t < n, (after.history (more.map (Op.past n))).link.exchange.standing t =
            (before.history more).link.exchange.standing t := by
  have hsound := (History.kept_history hl ops).accounted.sound
  intro before after n
  have hrun : (submit r).run before = (.error f, _) :=
    run_submit_of_unmade hhealthy hid hunmade.frame hstays
  have hafter : after = _ := congrArg Prod.snd hrun
  have honly : before.OnlyCounted after := hafter ▸ onlyCounted_withdraw hid
  refine ⟨congrArg Prod.fst hrun, honly, fun more => ?_, fun more hblind hsteady hroom => ?_⟩
  · have hcounted : (nextId.run before).2 =
        { before with exchange := { before.exchange with counter := before.exchange.nextId.2.counter } } := by
      rw [run_nextId]
      rfl
    have htallies : (History.mk (nextId.run before).2 [] []).link.Tallies True .all (.past n)
        (History.mk after [] []).link := by
      show (nextId.run before).2.Tallies True .all (.past n) after
      rw [hafter, hcounted]
      exact tallies_withdraw hsound hid (Naming.skips_past n) (fun _ => rfl) (fun _ _ => nofun)
        fun hnot => absurd trivial hnot
    obtain ⟨hmore, hissued⟩ := htallies.history rfl more
    exact ⟨hmore.oneMore, hissued⟩
  · have htallies : before.Tallies False (.below n) (.below n) after := by
      rw [hafter]
      exact tallies_withdraw hsound hid (Naming.skips_below n) (fun hfalse => hfalse.elim)
        (fun hfalse => hfalse.elim) fun _ t hle => if_neg (Nat.not_lt.mpr hle)
    have hmore := htallies.history_of_steady hblind hsteady hroom (honly.pending ▸ hroom)
    exact ⟨hmore.exchange.failure, fun t ht => hmore.exchange.standing (if_pos ht) (if_pos ht)⟩

/-- Two requests whose ids wrap around, the first of which is given up. -/
def twoUnderWay : List (Op Unit) :=
  [.start, .submit (.ofMessage (.close [1])), .submit (.ofMessage (.close [2])), .abandon 0]

/-- A read at an offset that does not fit. -/
def negativeRead : Sftp.Request :=
  .ofMessage (.read [1] (-1) 4)

/-- The read is not sent, the table keeps both requests, and whatever message is sent and whatever arrives
afterwards, the second is answered as if there had been no read. -/
theorem unmade_leaves_no_trace_negativeRead :
    quietLink.Fresh ∧ (quietLink.history twoUnderWay).link.exchange.failure = none ∧
      (quietLink.history twoUnderWay).link.exchange.nextId.1 = some 1 ∧
      negativeRead.Unmade 1 (.unencodable (.outOfRange .long (-1))) ∧
      ((submit negativeRead).run (quietLink.history twoUnderWay).link).1 =
        .error (.unencodable (.outOfRange .long (-1))) ∧
      ((submit negativeRead).run (quietLink.history twoUnderWay).link).2.exchange.pending =
        [(0xFFFFFFFF, 0), (0, 1)] ∧
      ∀ m arrivals, (((submit negativeRead).run (quietLink.history twoUnderWay).link).2.history
          [.submit (.ofMessage m), .receive arrivals]).link.exchange.standing 1 =
        ((quietLink.history twoUnderWay).link.history
          [.submit (.ofMessage m), .receive arrivals]).link.exchange.standing 1 := by
  have hhealthy : (quietLink.history twoUnderWay).link.exchange.failure = none := by decide +kernel
  have hid : (quietLink.history twoUnderWay).link.exchange.nextId.1 = some 1 := by decide +kernel
  have hunmade : negativeRead.Unmade 1 (.unencodable (.outOfRange .long (-1))) :=
    .refused rfl (by decide +kernel)
  obtain ⟨hresult, honly, -, hothers⟩ :=
    unmade_leaves_no_trace fresh_quietLink twoUnderWay hhealthy hid rfl hunmade
  have htable : (quietLink.history twoUnderWay).link.exchange.pending = [(0xFFFFFFFF, 0), (0, 1)] := by
    decide +kernel
  have hblind : (quietLink.history twoUnderWay).link.line.peer.Blind := by
    rw [(acts_history quietLink twoUnderWay).peer]
    exact fun _ _ _ => rfl
  refine ⟨fresh_quietLink, hhealthy, hid, hunmade, hresult, honly.pending.trans htable, fun m arrivals => ?_⟩
  let more : List (Op Unit) := [.submit (.ofMessage m), .receive arrivals]
  have hsteady : ∀ op ∈ more, op.Steady (quietLink.history twoUnderWay).link.exchange.progress.size := by
    intro op hop
    rcases List.mem_cons.mp hop with rfl | hop
    · exact Request.steady_ofMessage m
    · rw [List.mem_singleton.mp hop]
      trivial
  refine (hothers more hblind hsteady ?_).2 1 (by decide +kernel)
  rw [htable]
  show 4 ≤ Exchange.idCount.toNat
  decide

end Link

end Sftp
