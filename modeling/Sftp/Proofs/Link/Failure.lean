import Sftp.Proofs.Link.History

/-!
# No request is lost, and failure is final

Whoever was given a ticket must learn how the request ends. What must hold for this between the table
of requests, the failure of the connection, and the events so far is `Exchange.Accounted`.

* `Exchange.Tabled` — a request stands in the table while it waits.
* `Exchange.Coherent` — the table, the failure and the reader go together; `Exchange.Accounted` — and so do they
  with the events so far. `Exchange.Accounted.move` is the step, with `Exchange.Coherent.move` and
  `Exchange.Tabled.move`, and `Exchange.Accounted.moves` the induction.
* `Exchange.failure_move` — after a failure nothing is handed over and the failure stays.
* `History.Kept`, `History.kept_history` — the invariant of histories, with the tickets that were
  given out.
* **`Link.no_request_is_lost`** — after any operations, a request whose ticket was given out is in the
  table, or has ended, or was abandoned; a failure leaves nobody waiting, and is final.
-/

namespace Sftp

namespace Exchange

/-- A request stands in the table under its id while it waits. -/
def Tabled (x : Exchange) (e : Int × Ticket) : Prop :=
  x.standing e.2 = .waiting → e ∈ x.pending

namespace Tabled

variable {x y : Exchange} {e : Int × Ticket} {lossy : Prop}

/-- Whom a packet reaches does not wait any more. -/
theorem take (h : x.Tabled e) (hsound : x.Sound) (p : Packet) : (x.take p).Tabled e := by
  intro hstill
  rw [standing_take hsound] at hstill
  by_cases hreached : x.reached p = some e.2
  · rw [if_pos hreached] at hstill
    rcases Progress.settled_cases hstill with ⟨-, houtcome⟩ | ⟨hne, hbefore⟩
    · cases houtcome
    · exact absurd hbefore hne
  · rw [if_neg hreached] at hstill
    have hmem := h hstill
    rw [pending_take, List.mem_filter]
    refine ⟨hmem, decide_eq_true fun hid => ?_⟩
    exact hreached (hsound.reached_eq hid hmem)

/-- When the connection fails, everybody in the table is told, whatever becomes of the reader. -/
theorem fail (h : x.Tabled e) (hsound : x.Sound) (reader : ReaderState) (message : Text) :
    ({ x with reader } : Exchange).fail message |>.Tabled e := by
  intro hstill
  rw [standing_fail (hsound.with_reader reader) message] at hstill
  by_cases hmem : e.2 ∈ x.pending.map Prod.snd
  · rw [if_pos hmem] at hstill
    rcases Progress.settled_cases hstill with ⟨-, houtcome⟩ | ⟨hne, hbefore⟩
    · cases houtcome
    · exact absurd hbefore hne
  · rw [if_neg hmem] at hstill
    exact absurd (List.mem_map_of_mem (h hstill)) hmem

/-- A new request changes nothing for the others. -/
theorem register (h : x.Tabled e) (id : Int) : (x.register id).2.Tabled e := by
  intro hstill
  rw [standing_register] at hstill
  exact List.mem_append_left _ (h hstill)

/-- Whoever gives up does not wait. -/
theorem abandon (h : x.Tabled e) (t : Ticket) : (x.abandon t).2.Tabled e := by
  intro hstill
  obtain ⟨heq, -⟩ := abandon_eq x t
  have hpending : (x.abandon t).2.pending = x.pending := by rw [heq]
  rw [hpending]
  rcases standing_abandon x t e.2 with hsame | ⟨-, habandoned⟩
  · exact h (hsame ▸ hstill)
  · cases hstill.symm.trans habandoned

/-- A request that leaves the table is not another one. -/
theorem withdraw (h : x.Tabled e) {id : Int} (hid : x.standing e.2 = .waiting → e.1 ≠ id) :
    (x.withdraw id).Tabled e :=
  fun hstill => List.mem_filter.mpr ⟨h hstill, decide_eq_true (hid hstill)⟩

/-- A request stands in the table while it waits, whatever is done, unless it is taken back. -/
theorem move {new : List Event} (h : x.Tabled e) (hsound : x.Sound) (hmove : Move lossy x new y) :
    .dropped e.2 ∈ new ∨ y.Tabled e := by
  cases hmove with
  | count n => exact .inr h
  | listen hidle => exact .inr h
  | take p => exact .inr (h.take hsound p)
  | stop message => exact .inr (h.fail hsound .stopped message)
  | fail message => exact .inr (h.fail hsound x.reader message)
  | abandon t => exact .inr (h.abandon t)
  | @unmade id _ hfree =>
    refine .inr fun hstill => ?_
    rw [pending_withdraw_register hfree]
    exact h ((standing_register x id e.2).symm.trans hstill)
  | @hungUp id _ hfree =>
    have hclosed := (h.register id).fail (hsound.register hfree) x.reader closedMessage
    exact .inr (hclosed.withdraw fun hstill => absurd (hclosed hstill) List.not_mem_nil)
  | hand _ _ _ => exact .inr (h.register _)
  | @withdraw id t _ _ hholds =>
    by_cases ht : e.2 = t
    · rw [ht]
      exact .inl List.mem_cons_self
    · exact .inr (h.withdraw fun hstill hid => ht (hholds e (h hstill) hid))

end Tabled

/-! ## The table, the failure and the reader -/

/-- How the table, the failure and the reader go together. -/
structure Coherent (x : Exchange) : Prop where
  /-- The table is in order. -/
  sound : x.Sound
  /-- A failure leaves nobody in the table. -/
  emptied : x.failure ≠ none → x.pending = []
  /-- The reader stops only when the connection fails. -/
  stopped : x.reader = .stopped → x.failure ≠ none
  /-- A lost request was told the failure. -/
  message : ∀ t m, x.standing t = .lost m → x.failure = some m

namespace Coherent

variable {x y : Exchange} {lossy : Prop}

/-- While somebody stands in the table the connection has not failed. -/
theorem failure_of_mem (h : x.Coherent) {e : Int × Ticket} (he : e ∈ x.pending) : x.failure = none := by
  cases hfailure : x.failure with
  | none => rfl
  | some message =>
    rw [h.emptied (by rw [hfailure]; exact Option.some_ne_none message)] at he
    cases he

/-- An exchange with the same standings goes together if nobody has come into the table. -/
theorem of_same (h : x.Coherent) (hpending : ∀ e ∈ y.pending, e ∈ x.pending)
    (hstanding : ∀ t, y.standing t = x.standing t) (hfailure : y.failure = x.failure)
    (hreader : y.reader = .stopped → x.reader = .stopped)
    (hsize : x.progress.size ≤ y.progress.size) : y.Coherent where
  sound := h.sound.of_subset hpending hstanding hsize
  emptied hfailed := by
    rw [hfailure] at hfailed
    exact List.eq_nil_iff_forall_not_mem.mpr fun e he => hfailed (h.failure_of_mem (hpending e he))
  stopped hstopped := by
    rw [hfailure]
    exact h.stopped (hreader hstopped)
  message t m hlost := by
    rw [hstanding] at hlost
    rw [hfailure, h.message t m hlost]

/-- A packet that is taken is no loss to anybody. -/
theorem take (h : x.Coherent) (p : Packet) : (x.take p).Coherent where
  sound := h.sound.take p
  emptied hfailed := by
    rw [failure_take] at hfailed
    rw [pending_take, h.emptied hfailed, List.filter_nil]
  stopped hstopped := by
    rw [failure_take]
    rw [reader_take] at hstopped
    exact h.stopped hstopped
  message t m hlost := by
    rw [failure_take]
    rw [standing_take h.sound] at hlost
    split at hlost
    · rcases Progress.settled_cases hlost with ⟨-, houtcome⟩ | ⟨-, hbefore⟩
      · cases houtcome
      · exact h.message t m hbefore
    · exact h.message t m hlost

/-- When the connection fails, everybody who waits is told, whatever becomes of the reader. -/
theorem fail (h : x.Coherent) (reader : ReaderState) (message : Text) :
    ({ x with reader } : Exchange).fail message |>.Coherent where
  sound := Sound.fail message
  emptied _ := rfl
  stopped _ := nofun
  message t m hlost := by
    rw [standing_fail (h.sound.with_reader reader) message] at hlost
    have hold : x.standing t = .lost m → some (x.failure.getD message) = some m := by
      intro hbefore
      rw [h.message t m hbefore]
      rfl
    split at hlost
    · rcases Progress.settled_cases hlost with ⟨-, houtcome⟩ | ⟨-, hbefore⟩
      · exact congrArg some (Progress.lost.inj houtcome)
      · exact hold hbefore
    · exact hold hlost

/-- A request is entered under an id that nobody holds. -/
theorem register (h : x.Coherent) (hhealthy : x.failure = none) {id : Int}
    (hfree : ∀ e ∈ x.pending, e.1 ≠ id) : (x.register id).2.Coherent where
  sound := h.sound.register hfree
  emptied hfailed := absurd hhealthy hfailed
  stopped := h.stopped
  message t m hlost := by
    rw [standing_register] at hlost
    exact h.message t m hlost

/-- A request leaves the table. -/
theorem withdraw (h : x.Coherent) (id : Int) : (x.withdraw id).Coherent :=
  h.of_same (fun _ he => (List.mem_filter.mp he).1) (fun _ => rfl) rfl (fun hstopped => hstopped)
    (Nat.le_refl _)

/-- A caller gives up. -/
theorem abandon (h : x.Coherent) (t : Ticket) : (x.abandon t).2.Coherent := by
  obtain ⟨heq, -⟩ := abandon_eq x t
  have hpending : (x.abandon t).2.pending = x.pending := by rw [heq]
  have hfailure : (x.abandon t).2.failure = x.failure := by rw [heq]
  have hreader : (x.abandon t).2.reader = x.reader := by rw [heq]
  refine ⟨h.sound.abandon t, ?_, ?_, fun u m hlost => ?_⟩
  · rw [hpending, hfailure]
    exact h.emptied
  · rw [hreader, hfailure]
    exact h.stopped
  · rw [hfailure]
    rcases standing_abandon x t u with hsame | ⟨-, habandoned⟩
    · exact h.message u m (hsame ▸ hlost)
    · cases hlost.symm.trans habandoned

/-- **After every move they go together.** -/
theorem move {new : List Event} (h : x.Coherent) (hmove : Move lossy x new y) : y.Coherent := by
  cases hmove with
  | count n => exact h.of_same (fun _ he => he) (fun _ => rfl) rfl id (Nat.le_refl _)
  | listen hidle => exact h.of_same (fun _ he => he) (fun _ => rfl) rfl nofun (Nat.le_refl _)
  | take p => exact h.take p
  | stop message => exact h.fail .stopped message
  | fail message => exact h.fail x.reader message
  | abandon t => exact h.abandon t
  | unmade hhealthy hfree => exact (h.register hhealthy hfree).withdraw _
  | hungUp hhealthy hfree =>
    exact ((h.register hhealthy hfree).fail x.reader closedMessage).withdraw _
  | hand hhealthy hfree _ => exact h.register hhealthy hfree
  | withdraw _ _ _ => exact h.withdraw _

end Coherent

/-! ## What is owed -/

/-- What an exchange owes to the requests whose frames were handed over. -/
structure Accounted (events : List Event) (x : Exchange) : Prop extends Coherent x where
  /-- The tickets of frames that were handed over were given out. -/
  handed_lt : ∀ h, .handed h ∈ events → h.ticket < x.progress.size
  /-- The tickets of requests that were taken back were given out. -/
  dropped_lt : ∀ t, .dropped t ∈ events → t < x.progress.size
  /-- A request whose frame was handed over and that was not taken back stands in the table under its
  id while it waits. -/
  waiting : ∀ h, .handed h ∈ events → .dropped h.ticket ∈ events ∨ x.Tabled (h.id, h.ticket)

/-- **Every move keeps the account.** -/
theorem Accounted.move {x y : Exchange} {events new : List Event} {lossy : Prop} (h : x.Accounted events)
    (hmove : Move lossy x new y) : y.Accounted (events ++ new) where
  toCoherent := h.toCoherent.move hmove
  handed_lt g hg := by
    rcases List.mem_append.mp hg with hold | hnew
    · exact Nat.lt_of_lt_of_le (h.handed_lt g hold) (size_le_of_move hmove)
    · exact (entry_of_handed_move hmove hnew).1
  dropped_lt t ht := by
    rcases List.mem_append.mp ht with hold | hnew
    · exact Nat.lt_of_lt_of_le (h.dropped_lt t hold) (size_le_of_move hmove)
    · cases hmove with
      | withdraw _ hlt _ =>
        obtain rfl := Event.dropped.inj (List.mem_singleton.mp hnew)
        exact hlt
      | take _ => cases List.mem_singleton.mp hnew
      | hand _ _ _ => cases List.mem_singleton.mp hnew
      | count _ | listen _ | stop _ | fail _ | abandon _ | unmade _ _ | hungUp _ _ => cases hnew
  waiting g hg := by
    rcases List.mem_append.mp hg with hold | hnew
    · rcases h.waiting g hold with hdropped | htabled
      · exact .inl (List.mem_append_left _ hdropped)
      · exact (htabled.move h.sound hmove).imp_left (List.mem_append_right _)
    · exact .inr fun _ => (entry_of_handed_move hmove hnew).2

/-- Moves keep the account. -/
theorem Accounted.moves {x y : Exchange} {events new : List Event} {lossy : Prop}
    (h : x.Accounted events) (hmoves : Moves lossy x new y) : y.Accounted (events ++ new) := by
  induction hmoves with
  | none => rwa [List.append_nil]
  | step _ hmove ih =>
    rw [← List.append_assoc]
    exact ih.move hmove

/-! ## After a failure -/

/-- After a failure a move hands nothing over and leaves the failure as it is. -/
theorem failure_move {x y : Exchange} {new : List Event} {lossy : Prop} {message : Text}
    (hfailed : x.failure = some message) (hmove : Move lossy x new y) :
    y.failure = some message ∧ ∀ g, .handed g ∉ new := by
  have hkept : ∀ m, some (x.failure.getD m) = some message := by
    intro m
    rw [hfailed]
    rfl
  cases hmove with
  | count n => exact ⟨hfailed, fun _ => List.not_mem_nil⟩
  | listen hidle => exact ⟨hfailed, fun _ => List.not_mem_nil⟩
  | take p => exact ⟨(failure_take x p).trans hfailed, by simp⟩
  | stop m => exact ⟨hkept m, fun _ => List.not_mem_nil⟩
  | fail m => exact ⟨hkept m, fun _ => List.not_mem_nil⟩
  | abandon t =>
    rw [(abandon_eq x t).1]
    exact ⟨hfailed, fun _ => List.not_mem_nil⟩
  | unmade hhealthy _ =>
    rw [hhealthy] at hfailed
    cases hfailed
  | hungUp hhealthy _ =>
    rw [hhealthy] at hfailed
    cases hfailed
  | hand hhealthy _ _ =>
    rw [hhealthy] at hfailed
    cases hfailed
  | withdraw _ _ _ => exact ⟨hfailed, by simp⟩

/-- After a failure moves hand nothing over and leave the failure as it is. -/
theorem failure_moves {x y : Exchange} {new : List Event} {lossy : Prop} {message : Text}
    (hfailed : x.failure = some message) (hmoves : Moves lossy x new y) :
    y.failure = some message ∧ ∀ g, .handed g ∉ new := by
  induction hmoves with
  | none => exact ⟨hfailed, fun _ => List.not_mem_nil⟩
  | step _ hmove ih =>
    obtain ⟨hstill, hnone⟩ := ih
    obtain ⟨hafter, hnone'⟩ := failure_move hstill hmove
    refine ⟨hafter, fun g hg => ?_⟩
    rcases List.mem_append.mp hg with hold | hnew
    · exact hnone g hold
    · exact hnone' g hnew

end Exchange

/-! ## Histories -/

namespace History

variable {σ : Type} {h : History σ}

/-- What a history owes to those who were given tickets. -/
structure Kept (h : History σ) : Prop where
  /-- The exchange accounts for every request whose frame was handed over. -/
  accounted : h.link.exchange.Accounted h.events
  /-- A ticket that was given out belongs to such a request, and the request was not taken back. -/
  issued : ∀ e ∈ h.issued,
    (∃ g, .handed g ∈ h.events ∧ (g.id, g.ticket) = e) ∧ .dropped e.2 ∉ h.events

/-- Every operation keeps what a history owes. -/
theorem Kept.step (hkept : h.Kept) (op : Op σ) : (h.step op).Kept where
  accounted := hkept.accounted.moves (op.acts_perform h.link).moves
  issued e he := by
    rcases List.mem_append.mp he with hold | hnew
    · -- the ticket is older than any that the operation takes back
      obtain ⟨⟨g, hg, rfl⟩, hnone⟩ := hkept.issued e hold
      refine ⟨⟨g, List.mem_append_left _ hg, rfl⟩, fun hdropped => ?_⟩
      rcases List.mem_append.mp hdropped with hdropped | hdropped
      · exact hnone hdropped
      · have hsize := Op.eq_size_of_dropped_mem_events hdropped
        exact Nat.ne_of_lt (hkept.accounted.handed_lt g hg) hsize
    · -- the ticket is newer than any that was taken back before
      obtain ⟨⟨g, hg, rfl⟩, hsize, hnone⟩ := Op.exists_handed_of_mem_issued hnew
      refine ⟨⟨g, List.mem_append_right _ hg, rfl⟩, fun hdropped => ?_⟩
      rcases List.mem_append.mp hdropped with hdropped | hdropped
      · exact Nat.ne_of_lt (hkept.accounted.dropped_lt _ hdropped) hsize
      · exact hnone _ hdropped

/-- Every run of operations keeps what a history owes. -/
theorem Kept.run (hkept : h.Kept) (ops : List (Op σ)) : (h.run ops).Kept :=
  run_induction hkept (fun _ op hkept => hkept.step op) ops

/-- Nothing is owed at the beginning. -/
theorem kept_of_fresh {l : Link σ} (hl : l.Fresh) : (History.mk l [] []).Kept where
  accounted :=
    { sound := Exchange.sound_of_pending_nil hl.pending
      emptied := fun _ => hl.pending
      stopped := fun hstopped => by
        rw [hl.reader] at hstopped
        cases hstopped
      message := fun t m hlost => by
        unfold Exchange.standing at hlost
        rw [hl.progress] at hlost
        cases hlost
      handed_lt := fun _ hg => absurd hg List.not_mem_nil
      dropped_lt := fun _ ht => absurd ht List.not_mem_nil
      waiting := fun _ hg => absurd hg List.not_mem_nil }
  issued _ he := absurd he List.not_mem_nil

/-- **What is owed is kept in every history.** -/
theorem kept_history {l : Link σ} (hl : l.Fresh) (ops : List (Op σ)) : (l.history ops).Kept :=
  (kept_of_fresh hl).run ops

/-- Whoever was given a ticket and waits stands in the table. -/
theorem Kept.mem_pending (hkept : h.Kept) {e : Int × Ticket} (he : e ∈ h.issued)
    (hwaiting : h.link.exchange.standing e.2 = .waiting) : e ∈ h.link.exchange.pending := by
  obtain ⟨⟨g, hg, rfl⟩, hnone⟩ := hkept.issued e he
  rcases hkept.accounted.waiting g hg with hdropped | hmem
  · exact absurd hdropped hnone
  · exact hmem hwaiting

/-- After a failure nothing goes out any more, and the failure stays. -/
theorem failure_run {message : Text} (hfailed : h.link.exchange.failure = some message)
    (ops : List (Op σ)) :
    (h.run ops).link.exchange.failure = some message ∧
      (h.run ops).link.line.sent = h.link.line.sent := by
  obtain ⟨events, -, hacts⟩ := h.acts_run ops
  obtain ⟨hafter, hnone⟩ := Exchange.failure_moves hfailed hacts.moves
  have hsilent : events.filterMap Event.sent? = [] := by
    rw [List.filterMap_eq_nil_iff]
    intro e he
    cases e with
    | handed g => exact absurd he (hnone g)
    | taken p reached => rfl
    | dropped t => rfl
  have hsent := hacts.sent
  rw [hsilent, List.append_nil] at hsent
  exact ⟨hafter, Array.toList_inj.mp hsent⟩

end History

/-- **No request is lost, and failure is final.** After any operations on a fresh link:

* a request whose ticket was given out and that waits stands in the table under its own id, and no
  request in the table has been answered or lost;
* if the connection has failed, the table is empty and nobody who was given a ticket waits;
* if the reader has stopped, the connection has failed;
* a lost request was told the failure of the connection, and whatever is done after a failure: the
  failure stays, no frame goes out, and a submission is refused with its message and changes
  nothing. -/
theorem Link.no_request_is_lost {σ : Type} {l : Link σ} (hl : l.Fresh) (ops : List (Op σ)) :
    (∀ e ∈ (l.history ops).issued, (l.history ops).link.exchange.standing e.2 = .waiting →
      e ∈ (l.history ops).link.exchange.pending) ∧
    (∀ e ∈ (l.history ops).link.exchange.pending,
      (l.history ops).link.exchange.standing e.2 = .waiting ∨
        (l.history ops).link.exchange.standing e.2 = .abandoned) ∧
    ((l.history ops).link.exchange.failure ≠ none →
      (l.history ops).link.exchange.pending = [] ∧
        ∀ e ∈ (l.history ops).issued, (l.history ops).link.exchange.standing e.2 ≠ .waiting) ∧
    ((l.history ops).link.exchange.reader = .stopped →
      (l.history ops).link.exchange.failure ≠ none) ∧
    (∀ t message, (l.history ops).link.exchange.standing t = .lost message →
      (l.history ops).link.exchange.failure = some message) ∧
    ∀ message, (l.history ops).link.exchange.failure = some message → ∀ more : List (Op σ),
      (l.history (ops ++ more)).link.exchange.failure = some message ∧
      (l.history (ops ++ more)).link.line.sent = (l.history ops).link.line.sent ∧
      ∀ r, (submit r).run (l.history (ops ++ more)).link =
        (.error (.lost message), (l.history (ops ++ more)).link) := by
  have hkept := History.kept_history hl ops
  have haccounted := hkept.accounted
  have hwaiting : ∀ e ∈ (l.history ops).issued,
      (l.history ops).link.exchange.standing e.2 = .waiting →
      e ∈ (l.history ops).link.exchange.pending := fun e he => hkept.mem_pending he
  refine ⟨hwaiting, haccounted.sound.unended, ?_, haccounted.stopped, haccounted.message, ?_⟩
  · intro hfailed
    have hempty := haccounted.emptied hfailed
    refine ⟨hempty, fun e he hstill => ?_⟩
    have hmem := hwaiting e he hstill
    rw [hempty] at hmem
    cases hmem
  · intro message hfailed more
    have hrun : l.history (ops ++ more) = (l.history ops).run more := History.run_append _ ops more
    obtain ⟨hafter, hsent⟩ := History.failure_run hfailed more
    rw [hrun]
    exact ⟨hafter, hsent, run_submit_of_failed hafter⟩

namespace Link

/-- A fresh link whose stream takes every frame and answers nothing. Its first id is the last before
the counter wraps. -/
def quietLink : Link Unit where
  line := {
    peer := { write := fun _ s => (.ok [], s), close := fun s => (none, s) }
    state := () }
  exchange := { limit := 64, counter := 0xFFFFFFFF }

/-- The link is fresh. -/
theorem fresh_quietLink : quietLink.Fresh :=
  ⟨rfl, rfl, rfl, rfl⟩

/-- Two requests, the second of which is given up, and the end of the stream within a length. -/
def cutShort : List (Op Unit) :=
  [.start, .submit (.ofMessage (.close [1])), .submit (.ofMessage (.close [2])), .abandon 1,
    .receive [.chunk [0], .ending .closed]]

/-- The end of the stream is a failure, nobody waits after it, and it is final. -/
theorem no_request_is_lost_cutShort :
    quietLink.Fresh ∧ (quietLink.history cutShort).issued = [(0xFFFFFFFF, 0), (0, 1)] ∧
      (quietLink.history cutShort).link.exchange.failure = some "connection closed by server" ∧
      (∀ e ∈ (quietLink.history cutShort).issued,
        (quietLink.history cutShort).link.exchange.standing e.2 ≠ .waiting) ∧
      ∀ more, (quietLink.history (cutShort ++ more)).link.exchange.failure =
        some "connection closed by server" := by
  have hfailed : (quietLink.history cutShort).link.exchange.failure =
      some "connection closed by server" := by decide +kernel
  obtain ⟨-, -, hnobody, -, -, hfinal⟩ := no_request_is_lost fresh_quietLink cutShort
  refine ⟨fresh_quietLink, by decide +kernel, hfailed, ?_, fun more => (hfinal _ hfailed more).1⟩
  exact (hnobody (by rw [hfailed]; exact nofun)).2

end Link

end Sftp
