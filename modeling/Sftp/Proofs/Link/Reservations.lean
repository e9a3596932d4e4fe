import Mathlib.Data.List.Induction
import Sftp.Proofs.Link.Told
import Sftp.Proofs.Link.Traffic

/-!
# Requests whose frames are still to be handed over

Between its entry and its frame a request holds an id of which the far end knows nothing. As long as no packet
reaches it, nobody else is given that id, and the request can leave the table again without harm to others. What
follows is for ids that are spared, under which nobody is reached so early.

* `Exchange.Change` — what becomes of the requests whose frames are still to be handed over: one is entered, leaves
  the table, or hands its frame over. `Exchange.Passage` — everything that one turn can do to an exchange: moves, a
  change, and moves again.
* `Exchange.Reserves` — what these requests have in the table. `Exchange.Reserves.move` is the step for moves, and
  there is one lemma for each change.
* `Exchange.InOrder` — everything that holds of an exchange; **`Exchange.InOrder.passage`** — what one turn leads to.
  `Exchange.InOrder.timely_of_move` is where a far end that answers each request at most once comes in.
* **`Traffic.Ordered.passage_turn`** — every turn is a passage.
* **`Traffic.ordered_run`**, **`Traffic.early_of_answersOnce`** — in every run everything is in order for the ids that
  are spared, and a far end that answers each request at most once spares all of them.
-/

namespace Sftp

namespace Exchange

/-! ## What one turn can do -/

/-- What becomes of the requests whose frames are still to be handed over, with what happens in it. -/
inductive Change (unsent : Nat → Option (Int × Ticket)) (x : Exchange) :
    List Event → (Nat → Option (Int × Ticket)) → Exchange → Prop
  /-- Nothing. -/
  | keep : Change unsent x [] unsent x
  /-- One more is entered. -/
  | enter (i : Nat) {id : Int} (hhealthy : x.failure = none) (hfree : ∀ e ∈ x.pending, e.1 ≠ id) :
      Change unsent x [] (Function.update unsent i (some (id, x.progress.size))) (x.register id).2
  /-- One of them leaves the table. -/
  | leave {i : Nat} {e : Int × Ticket} (hentry : unsent i = some e) :
      Change unsent x [] (Function.update unsent i none) (x.withdraw e.1)
  /-- The frame of one is handed over. -/
  | hand {i : Nat} {g : Handing} (hentry : unsent i = some (g.id, g.ticket)) :
      Change unsent x [.handed g] (Function.update unsent i none) x
  /-- The frame of one will not be handed over any more. -/
  | lapse (i : Nat) : Change unsent x [] (Function.update unsent i none) x

/-- What one turn can do: moves in which nothing happens, a change, and moves. -/
inductive Passage (lossy : Prop) (unsent : Nat → Option (Int × Ticket)) (x : Exchange) :
    List Event → (Nat → Option (Int × Ticket)) → Exchange → Prop
  | mk {x' y' y : Exchange} {first rest : List Event} {unsent' : Nat → Option (Int × Ticket)}
      (hbefore : Moves lossy x [] x') (hchange : Change unsent x' first unsent' y')
      (hafter : Moves lossy y' rest y) : Passage lossy unsent x (first ++ rest) unsent' y

variable {x y : Exchange} {lossy : Prop} {unsent unsent' : Nat → Option (Int × Ticket)} {events new : List Event}

namespace Passage

/-- Moves alone. -/
theorem of_moves (h : Moves lossy x new y) : Passage lossy unsent x new unsent y :=
  mk (.none x) .keep h

/-- A change alone. -/
theorem of_change (h : Change unsent x new unsent' y) : Passage lossy unsent x new unsent' y := by
  have hpassage : Passage lossy unsent x (new ++ []) unsent' y := mk (.none x) h (.none y)
  rwa [List.append_nil] at hpassage

end Passage

/-- A change does not touch the failure. -/
theorem failure_change (h : Change unsent x new unsent' y) : y.failure = x.failure := by
  cases h with
  | keep | enter _ _ _ | leave _ | hand _ | lapse _ => rfl

/-- A failure stays whatever is done. -/
theorem failure_passage {message : Text} (hfailed : x.failure = some message)
    (h : Passage lossy unsent x new unsent' y) : y.failure = some message := by
  obtain ⟨hbefore, hchange, hafter⟩ := h
  have hfirst := (failure_moves hfailed hbefore).1
  have hsecond := (failure_change hchange).trans hfirst
  exact (failure_moves hsecond hafter).1

/-! ## What is reserved -/

/-- What the requests whose frames are still to be handed over have in the table. As far as it is about ids, it holds
of those that are spared. -/
structure Reserves (spared : Int → Prop) (unsent : Nat → Option (Int × Ticket)) (events : List Event)
    (x : Exchange) : Prop where
  /-- While the connection has not failed, they are in the table. -/
  holds : x.failure = none → ∀ i e, unsent i = some e → spared e.1 → e ∈ x.pending
  /-- They stand in the table while they wait. -/
  tabled : ∀ i e, unsent i = some e → spared e.1 → x.Tabled e
  /-- No two of them have the same id. -/
  ids : ∀ i j e e', unsent i = some e → unsent j = some e' → spared e.1 → e.1 = e'.1 → i = j
  /-- Every frame with one of their ids has been answered. -/
  aside : ∀ i e, unsent i = some e → spared e.1 → ∀ (k : Nat) (g : Handing), Unanswered events k g → g.id ≠ e.1
  /-- No two of them have the same ticket. -/
  tickets : ∀ i j e e', unsent i = some e → unsent j = some e' → e.2 = e'.2 → i = j
  /-- Their tickets were given out. -/
  issued : ∀ i e, unsent i = some e → e.2 < x.progress.size
  /-- No frame has been handed over with one of their tickets. -/
  unused : ∀ i e, unsent i = some e → ∀ g, .handed g ∈ events → g.ticket ≠ e.2

namespace Reserves

variable {spared : Int → Prop} {i j : Nat} {e e' : Int × Ticket}

/-- Nothing is reserved for nobody. -/
theorem of_none (spared : Int → Prop) (events : List Event) (x : Exchange) :
    x.Reserves spared (fun _ => none) events where
  holds _ _ _ he := nomatch he
  tabled _ _ he := nomatch he
  ids _ _ _ _ he := nomatch he
  aside _ _ he := nomatch he
  tickets _ _ _ _ he := nomatch he
  issued _ _ he := nomatch he
  unused _ _ he := nomatch he

/-- Whoever is among them when one has gone is another one and was so before. -/
theorem of_update_none (h : Function.update unsent i none j = some e) : j ≠ i ∧ unsent j = some e := by
  by_cases hj : j = i
  · subst hj
    rw [Function.update_self] at h
    cases h
  · rw [Function.update_of_ne hj] at h
    exact ⟨hj, h⟩

/-- Whoever is among them when one more is entered is that one, or was so before. -/
theorem of_update_some (h : Function.update unsent i (some e) j = some e') :
    (j = i ∧ e' = e) ∨ unsent j = some e' := by
  by_cases hj : j = i
  · subst hj
    rw [Function.update_self] at h
    exact .inl ⟨rfl, (Option.some.inj h).symm⟩
  · rw [Function.update_of_ne hj] at h
    exact .inr h

/-- When one of them has gone, the others keep what is reserved for them. -/
theorem lapse (h : x.Reserves spared unsent events) (i : Nat) :
    x.Reserves spared (Function.update unsent i none) events where
  holds hhealthy j e he := h.holds hhealthy j e (of_update_none he).2
  tabled j e he := h.tabled j e (of_update_none he).2
  ids j k e e' he he' := h.ids j k e e' (of_update_none he).2 (of_update_none he').2
  aside j e he := h.aside j e (of_update_none he).2
  tickets j k e e' he he' := h.tickets j k e e' (of_update_none he).2 (of_update_none he').2
  issued j e he := h.issued j e (of_update_none he).2
  unused j e he := h.unused j e (of_update_none he).2

/-- **Every move leaves reserved what is reserved**, on a stream that never says that the connection is lost, if nobody
is reached too early. -/
theorem move (h : x.Reserves spared unsent events) (hsound : x.Sound) (hlossless : ¬ lossy)
    (hmove : Move lossy x new y) (htimely : Timely spared unsent new) :
    y.Reserves spared unsent (events ++ new) where
  holds hhealthy i e he hspared := by
    cases hmove with
    | count n => exact h.holds hhealthy i e he hspared
    | listen hidle => exact h.holds hhealthy i e he hspared
    | take p =>
      rw [failure_take] at hhealthy
      rw [pending_take, List.mem_filter]
      have hmem := h.holds hhealthy i e he hspared
      refine ⟨hmem, decide_eq_true fun hid => htimely i e he hspared p ?_⟩
      -- a packet with the id would reach the request
      rw [hsound.reached_eq hid hmem]
      exact List.mem_singleton_self _
    | stop message => cases hhealthy
    | fail message => cases hhealthy
    | abandon t =>
      rw [(abandon_eq x t).1] at hhealthy ⊢
      exact h.holds hhealthy i e he hspared
    | unmade hbefore hfree =>
      rw [pending_withdraw_register hfree]
      exact h.holds hbefore i e he hspared
    | hungUp _ _ => cases hhealthy
    | hand hbefore _ _ => exact List.mem_append_left _ (h.holds hbefore i e he hspared)
    | withdraw hlossy _ _ => exact absurd hlossy hlossless
  tabled i e he hspared := by
    rcases (h.tabled i e he hspared).move hsound hmove with hdropped | htabled
    · exact absurd hdropped (not_dropped_of_move hlossless hmove _)
    · exact htabled
  ids := h.ids
  aside i e he hspared k g hg := by
    cases hmove with
    | take p =>
      rcases unanswered_concat_cases hg with hbefore | ⟨-, hnew⟩
      · exact h.aside i e he hspared k g hbefore
      · cases hnew
    | hand hhealthy hfree _ =>
      rcases unanswered_concat_cases hg with hbefore | ⟨-, hnew⟩
      · exact h.aside i e he hspared k g hbefore
      · obtain rfl := Event.handed.inj hnew
        exact (hfree e (h.holds hhealthy i e he hspared)).symm
    | withdraw hlossy _ _ => exact absurd hlossy hlossless
    | count _ | listen _ | stop _ | fail _ | abandon _ | unmade _ _ | hungUp _ _ =>
      rw [List.append_nil] at hg
      exact h.aside i e he hspared k g hg
  tickets := h.tickets
  issued i e he := Nat.lt_of_lt_of_le (h.issued i e he) (size_le_of_move hmove)
  unused i e he g hg := by
    rcases List.mem_append.mp hg with hold | hnew
    · exact h.unused i e he g hold
    · have hticket := le_ticket_of_handed_move hmove hnew
      exact (Nat.ne_of_lt (Nat.lt_of_lt_of_le (h.issued i e he) hticket)).symm

/-- A request is entered under an id that nobody holds. -/
theorem enter (h : x.Reserves spared unsent events) (horderly : x.Orderly spared events)
    (hissued : ∀ g, .handed g ∈ events → g.ticket < x.progress.size)
    (i : Nat) {id : Int} (hhealthy : x.failure = none) (hfree : ∀ e ∈ x.pending, e.1 ≠ id) :
    (x.register id).2.Reserves spared (Function.update unsent i (some (id, x.progress.size))) events where
  holds _ j e he hspared := by
    rcases of_update_some he with ⟨-, rfl⟩ | hold
    · exact List.mem_append_right _ List.mem_cons_self
    · exact List.mem_append_left _ (h.holds hhealthy j e hold hspared)
  tabled j e he hspared := by
    rcases of_update_some he with ⟨-, rfl⟩ | hold
    · exact fun _ => List.mem_append_right _ List.mem_cons_self
    · exact (h.tabled j e hold hspared).register id
  ids j k e e' he he' hspared hid := by
    rcases of_update_some he with ⟨rfl, rfl⟩ | hold
    · rcases of_update_some he' with ⟨rfl, -⟩ | hold'
      · rfl
      · have hmem := h.holds hhealthy k e' hold' (hid ▸ hspared)
        exact absurd hid.symm (hfree e' hmem)
    · rcases of_update_some he' with ⟨rfl, rfl⟩ | hold'
      · exact absurd hid (hfree e (h.holds hhealthy j e hold hspared))
      · exact h.ids j k e e' hold hold' hspared hid
  aside j e he hspared k g hg := by
    rcases of_update_some he with ⟨-, rfl⟩ | hold
    · exact fun hid => hfree _ (horderly.holds hhealthy k g (hid ▸ hspared) hg) hid
    · exact h.aside j e hold hspared k g hg
  tickets j k e e' he he' hticket := by
    rcases of_update_some he with ⟨rfl, rfl⟩ | hold
    · rcases of_update_some he' with ⟨rfl, -⟩ | hold'
      · rfl
      · exact absurd hticket.symm (Nat.ne_of_lt (h.issued k e' hold'))
    · rcases of_update_some he' with ⟨rfl, rfl⟩ | hold'
      · exact absurd hticket (Nat.ne_of_lt (h.issued j e hold))
      · exact h.tickets j k e e' hold hold' hticket
  issued j e he := by
    rw [size_register]
    rcases of_update_some he with ⟨-, rfl⟩ | hold
    · exact Nat.lt_succ_self _
    · exact Nat.lt_succ_of_lt (h.issued j e hold)
  unused j e he g hg := by
    rcases of_update_some he with ⟨-, rfl⟩ | hold
    · exact Nat.ne_of_lt (hissued g hg)
    · exact h.unused j e hold g hg

/-- When one of them leaves the table, the others keep what is reserved for them. -/
theorem leave (h : x.Reserves spared unsent events) (hentry : unsent i = some e) :
    (x.withdraw e.1).Reserves spared (Function.update unsent i none) events := by
  have hother : ∀ j e', Function.update unsent i none j = some e' → spared e'.1 → e'.1 ≠ e.1 := by
    intro j e' he' hspared hid
    obtain ⟨hne, hold⟩ := of_update_none he'
    exact hne (h.ids j i e' e hold hentry hspared hid)
  have hlapse := h.lapse i
  exact { hlapse with
    holds := fun hhealthy j e' he' hspared => List.mem_filter.mpr
      ⟨hlapse.holds hhealthy j e' he' hspared, decide_eq_true (hother j e' he' hspared)⟩
    tabled := fun j e' he' hspared =>
      (hlapse.tabled j e' he' hspared).withdraw fun _ => hother j e' he' hspared }

/-- When the frame of one is handed over, it is no other's. -/
theorem hand (h : x.Reserves spared unsent events) {g : Handing} (hentry : unsent i = some (g.id, g.ticket)) :
    x.Reserves spared (Function.update unsent i none) (events ++ [.handed g]) := by
  have hlapse := h.lapse i
  refine { hlapse with aside := fun j e' he' hspared k a ha => ?_, unused := fun j e' he' a ha => ?_ }
  · obtain ⟨hne, hold⟩ := of_update_none he'
    rcases unanswered_concat_cases ha with hbefore | ⟨-, hnew⟩
    · exact hlapse.aside j e' he' hspared k a hbefore
    · obtain rfl := Event.handed.inj hnew
      exact fun hid => hne (h.ids j i e' _ hold hentry hspared hid.symm)
  · obtain ⟨hne, hold⟩ := of_update_none he'
    rcases mem_concat_handed_cases ha with ha | rfl
    · exact hlapse.unused j e' he' a ha
    · exact fun hticket => hne (h.tickets j i e' _ hold hentry hticket.symm)

end Reserves

/-! ## Order -/

/-- Everything that holds of an exchange, for the ids under which nobody is reached too early. -/
structure InOrder (spared : Int → Prop) (unsent : Nat → Option (Int × Ticket)) (events : List Event)
    (x : Exchange) : Prop where
  /-- The table, the failure and the reader go together. -/
  coherent : x.Coherent
  /-- The tickets of frames that were handed over were given out. -/
  issued : ∀ g, .handed g ∈ events → g.ticket < x.progress.size
  /-- A request whose frame was handed over stands in the table while it waits. -/
  tabled : ∀ g, .handed g ∈ events → spared g.id → x.Tabled (g.id, g.ticket)
  /-- The frames that were handed over are kept apart, and packets reach whom they are for. -/
  orderly : x.Orderly spared events
  /-- Whoever was reached was told. -/
  told : x.Told events
  /-- What is reserved for the requests whose frames are still to be handed over. -/
  reserves : x.Reserves spared unsent events

/-- What new events lead to. -/
structure Follows (spared : Int → Prop) (unsent : Nat → Option (Int × Ticket)) (events new : List Event)
    (x : Exchange) : Prop where
  /-- Order, if nobody is reached too early. -/
  inOrder : Timely spared unsent new → x.InOrder spared unsent (events ++ new)
  /-- A far end that answers each request at most once reaches nobody too early. -/
  timely : ∀ {request : Nat → Nat}, AnswersOnce (events ++ new) request → Timely spared unsent new

namespace InOrder

variable {spared : Int → Prop} {i : Nat} {e : Int × Ticket}

/-- A request that leaves the table is none of those whose frames were handed over and that wait. -/
theorem ne_of_unsent (h : x.InOrder spared unsent events) (hentry : unsent i = some e) {g : Handing}
    (hg : .handed g ∈ events) (hspared : spared g.id) (hwaiting : x.standing g.ticket = .waiting) :
    g.id ≠ e.1 := by
  intro hid
  have hmem := h.tabled g hg hspared hwaiting
  have hhealthy := h.coherent.failure_of_mem hmem
  -- both would hold the id
  have hentry' := h.reserves.holds hhealthy i e hentry (hid ▸ hspared)
  have hholder : x.holder e.1 = some e.2 := h.coherent.sound.holder_eq hentry'
  have hticket := h.coherent.sound.holder_eq hmem
  rw [hid, hholder] at hticket
  exact h.reserves.unused i e hentry g hg (Option.some.inj hticket).symm

/-- **A change leaves everything in order.** -/
theorem change (h : x.InOrder spared unsent events) (hchange : Change unsent x new unsent' y) :
    y.InOrder spared unsent' (events ++ new) := by
  cases hchange with
  | keep => rwa [List.append_nil]
  | enter i hhealthy hfree =>
    rw [List.append_nil]
    exact {
      coherent := h.coherent.register hhealthy hfree
      issued := fun g hg => by
        rw [size_register]
        exact Nat.lt_succ_of_lt (h.issued g hg)
      tabled := fun g hg hspared => (h.tabled g hg hspared).register _
      orderly := h.orderly.of_subset id fun _ _ he => List.mem_append_left _ he
      told := h.told.of_standing (standing_register x _)
      reserves := h.reserves.enter h.orderly h.issued i hhealthy hfree }
  | @leave i e hentry =>
    rw [List.append_nil]
    exact {
      coherent := h.coherent.withdraw e.1
      issued := h.issued
      tabled := fun g hg hspared => (h.tabled g hg hspared).withdraw (h.ne_of_unsent hentry hg hspared)
      orderly := h.orderly.withdraw fun k g hspared hg hid =>
        h.reserves.aside i e hentry (hid ▸ hspared) k g hg hid
      told := h.told.of_standing fun _ => rfl
      reserves := h.reserves.leave hentry }
  | @hand i g hentry =>
    exact {
      coherent := h.coherent
      issued := fun a ha => by
        rcases mem_concat_handed_cases ha with hold | rfl
        · exact h.issued a hold
        · exact h.reserves.issued i _ hentry
      tabled := fun a ha hspared => by
        rcases mem_concat_handed_cases ha with hold | rfl
        · exact h.tabled a hold hspared
        · exact h.reserves.tabled i _ hentry hspared
      orderly := h.orderly.handed (fun hspared hhealthy => h.reserves.holds hhealthy i _ hentry hspared)
        (fun hspared => h.reserves.aside i _ hentry hspared) (h.reserves.unused i _ hentry)
      told := h.told.handed g
      reserves := h.reserves.hand hentry }
  | lapse i =>
    rw [List.append_nil]
    exact { h with reserves := h.reserves.lapse i }

/-- **A move leaves everything in order**, on a stream that never says that the connection is lost, if nobody is
reached too early. -/
theorem move (h : x.InOrder spared unsent events) (hlossless : ¬ lossy) (hmove : Move lossy x new y)
    (htimely : Timely spared unsent new) : y.InOrder spared unsent (events ++ new) where
  coherent := h.coherent.move hmove
  issued g hg := by
    rcases List.mem_append.mp hg with hold | hnew
    · exact Nat.lt_of_lt_of_le (h.issued g hold) (size_le_of_move hmove)
    · exact (entry_of_handed_move hmove hnew).1
  tabled g hg hspared := by
    rcases List.mem_append.mp hg with hold | hnew
    · rcases (h.tabled g hold hspared).move h.coherent.sound hmove with hdropped | htabled
      · exact absurd hdropped (not_dropped_of_move hlossless hmove _)
      · exact htabled
    · exact fun _ => (entry_of_handed_move hmove hnew).2
  orderly := h.orderly.move h.coherent.sound h.coherent.emptied h.issued hlossless hmove
  told := h.told.move h.coherent.sound hmove
  reserves := h.reserves.move h.coherent.sound hlossless hmove htimely

/-- **A far end that answers each request at most once does not answer early**: the frame that a packet answers is
the newest with its id, and everything with an id that is reserved has been answered. -/
theorem timely_of_move (h : x.InOrder spared unsent events) (hlossless : ¬ lossy)
    (hmove : Move lossy x new y) {request : Nat → Nat} (honce : AnswersOnce (events ++ new) request) :
    Timely spared unsent new := by
  intro i e he hspared p hp
  cases hmove with
  | take q =>
    obtain ⟨rfl, hreached⟩ := Event.taken.inj (List.mem_singleton.mp hp)
    obtain ⟨id, hid, hmem⟩ := mem_of_reached hreached.symm
    -- whoever was reached stands in the table, and there it is the request whose frame is still to be handed over
    have hentry := h.reserves.holds (h.coherent.failure_of_mem hmem) i e he hspared
    obtain rfl : id = e.1 := congrArg Prod.fst (h.coherent.sound.tickets _ hmem e hentry rfl)
    have hlast : (events ++ [Event.taken p (x.reached p)])[events.length]? =
        some (.taken p (x.reached p)) := List.getElem?_concat_length
    obtain ⟨hlt, g, hg, hgid⟩ := honce.asked _ p _ e.1 hlast hid
    rw [List.getElem?_append_left hlt] at hg
    refine h.reserves.aside i e he hspared _ g ⟨hg, fun k q reached hk hq => ?_⟩ hgid
    have hq' : (events ++ [Event.taken p (x.reached p)])[k]? = some (.taken q reached) :=
      getElem?_concat_of_some hq
    rw [hgid]
    exact honce.newest ((h.orderly.apart e.1 hspared).concat_taken p _) hlast hid hq' hk
      (List.getElem?_eq_some_iff.mp hq).1
  | hand _ _ _ => cases List.mem_singleton.mp hp
  | withdraw hlossy _ _ => exact absurd hlossy hlossless
  | count _ | listen _ | stop _ | fail _ | abandon _ | unmade _ _ | hungUp _ _ => cases hp

/-- Moves leave everything in order. -/
theorem moves (h : x.InOrder spared unsent events) (hlossless : ¬ lossy) (hmoves : Moves lossy x new y) :
    y.Follows spared unsent events new := by
  induction hmoves with
  | none =>
    refine ⟨fun _ => ?_, fun _ => timely_nil⟩
    rwa [List.append_nil]
  | step _ hmove hbefore =>
    constructor
    · intro htimely
      obtain ⟨hearlier, hlast⟩ := timely_append_iff.mp htimely
      rw [← List.append_assoc]
      exact (hbefore.inOrder hearlier).move hlossless hmove hlast
    · intro request honce
      rw [← List.append_assoc] at honce
      have hearlier := hbefore.timely honce.of_append
      have hlast := (hbefore.inOrder hearlier).timely_of_move hlossless hmove honce
      exact timely_append_iff.mpr ⟨hearlier, hlast⟩

/-- **What one turn does leaves everything in order.** -/
theorem passage (h : x.InOrder spared unsent events) (hlossless : ¬ lossy)
    (hpassage : Passage lossy unsent x new unsent' y) : y.Follows spared unsent' events new := by
  obtain @⟨x', y', y, first, rest, unsent', hbefore, hchange, hafter⟩ := hpassage
  have hquiet : x'.InOrder spared unsent events := by
    have hinOrder := (h.moves hlossless hbefore).inOrder timely_nil
    rwa [List.append_nil] at hinOrder
  have hrest := (hquiet.change hchange).moves hlossless hafter
  -- in a change no packet is taken
  have hfirst : Timely spared unsent' first := by
    cases hchange with
    | hand _ =>
      intro i e _ _ p hp
      cases List.mem_singleton.mp hp
    | keep | enter _ _ _ | leave _ | lapse _ => exact timely_nil
  constructor
  · intro htimely
    rw [← List.append_assoc]
    exact hrest.inOrder (timely_append_iff.mp htimely).2
  · intro request honce
    rw [← List.append_assoc] at honce
    exact timely_append_iff.mpr ⟨hfirst, hrest.timely honce⟩

end InOrder

end Exchange

/-! ## Turns as passages -/

variable {σ : Type}

namespace Link

/-- Making a packet is no more than closing the connection. -/
theorem moves_afterMaking (lossy : Prop) (l : Link σ) (r : Request) :
    Exchange.Moves lossy l.exchange [] (l.afterMaking r).exchange := by
  unfold afterMaking
  split
  · exact .one (.fail _)
  · exact .none _

/-- What a fault calls for is no more than letting the connection fail, unless it is the word that the connection is
lost; and then nothing is left to do when the connection has failed. -/
theorem moves_writeFailed {lossy : Prop} {l : Link σ} (id : Int) {f : Fault}
    (hlost : f.isLost = true → l.exchange.pending = []) :
    Exchange.Moves lossy l.exchange [] ((writeFailed id f).run l).2.exchange := by
  rw [(run_writeFailed id f l).2.1, Exchange.afterFault]
  split
  · rename_i hsays
    have hsame : l.exchange.withdraw id = l.exchange := by
      unfold Exchange.withdraw
      rw [hlost hsays, List.filter_nil, ← hlost hsays]
    rw [hsame]
    exact .none _
  · split
    · exact .one (.fail _)
    · exact .none _

end Link

namespace Sender

/-- What a submission was told is so: a connection that was found to have failed has failed, and the stream did not
say itself that the connection is lost. -/
structure Informed (s : Sender) (x : Exchange) : Prop where
  /-- The connection has failed. -/
  refused : ∀ f, s.stage = .refused f → x.failure ≠ none
  /-- The stream says something else. -/
  faulted : ∀ f, s.stage = .faulted f → f.isLost = false

/-- A submission that has begun was told nothing. -/
theorem informed_begun (request : Request) (id : Int) (ticket : Ticket) (x : Exchange) :
    ({ request, id, ticket } : Sender).Informed x :=
  ⟨fun _ => nofun, fun _ => nofun⟩

/-- What a submission was told stays so. -/
theorem Informed.of_failure {s : Sender} {x y : Exchange} (h : s.Informed x)
    (hfailure : x.failure ≠ none → y.failure ≠ none) : s.Informed y :=
  ⟨fun f hf => hfailure (h.refused f hf), h.faulted⟩

/-- A submission that goes one part further is told what is so. -/
theorem informed_advance (s : Sender) {l : Link σ} (hlossless : ¬ l.line.peer.Lossy) :
    ({ s with stage := (s.advance l).1 } : Sender).Informed (s.advance l).2.exchange := by
  have htrue : ∀ {f : Fault}, (f.isLost = true → l.line.peer.Lossy) → f.isLost = false := fun h =>
    Bool.eq_false_iff.mpr fun hlost => hlossless (h hlost)
  cases hstage : s.stage with
  | entered =>
    rw [advance_entered hstage]
    cases Link.Request.parcel s.request s.id with
    | error f => exact ⟨fun _ => nofun, fun _ => nofun⟩
    | ok parcel => exact ⟨fun _ => nofun, fun _ => nofun⟩
  | made packet frame =>
    rw [advance_made hstage]
    cases hfailure : l.exchange.failure with
    | some message => exact ⟨fun _ _ => by simp [hfailure], fun _ => nofun⟩
    | none => exact ⟨fun _ => nofun, fun _ => nofun⟩
  | cleared packet frame =>
    rw [advance_cleared hstage]
    cases hwrite : (l.line.write frame).1 with
    | some f =>
      refine ⟨fun _ => nofun, fun g hg => ?_⟩
      obtain rfl := Stage.faulted.inj hg
      exact htrue (Link.lossy_of_write hwrite)
    | none => exact ⟨fun _ => nofun, fun _ => nofun⟩
  | written =>
    rw [advance_written hstage]
    cases hflush : l.line.flush.1 with
    | some f =>
      refine ⟨fun _ => nofun, fun g hg => ?_⟩
      obtain rfl := Stage.faulted.inj hg
      exact htrue (Link.lossy_of_flush hflush)
    | none => exact ⟨fun _ => nofun, fun _ => nofun⟩
  | refused f =>
    rw [advance_faulted (.inl hstage)]
    exact ⟨fun _ => nofun, fun _ => nofun⟩
  | faulted f =>
    rw [advance_faulted (.inr hstage)]
    exact ⟨fun _ => nofun, fun _ => nofun⟩
  | ended =>
    rw [advance_ended hstage]
    exact ⟨fun _ => nofun, fun _ => nofun⟩

/-- **A part of a submission is a passage.** -/
theorem passage {s : Sender} {l : Link σ} {unsent : Nat → Option (Int × Ticket)} {i : Nat}
    (hentry : unsent i = s.reserved?) (hinformed : s.Informed l.exchange)
    (hemptied : l.exchange.failure ≠ none → l.exchange.pending = []) :
    Exchange.Passage l.line.peer.Lossy unsent l.exchange (s.events l)
      (Function.update unsent i ({ s with stage := (s.advance l).1 } : Sender).reserved?)
      (s.advance l).2.exchange := by
  unfold events
  cases hstage : s.stage with
  | entered =>
    have hreserved : unsent i = some (s.id, s.ticket) := by rw [hentry, reserved?, hstage]
    rw [advance_entered hstage]
    cases Link.Request.parcel s.request s.id with
    | error f => exact .mk (Link.moves_afterMaking _ l s.request) (.leave hreserved) (.none _)
    | ok parcel =>
      have hsame : Function.update unsent i (some (s.id, s.ticket)) = unsent := by
        rw [← hreserved, Function.update_eq_self]
      show Exchange.Passage _ _ _ _ (Function.update unsent i (some (s.id, s.ticket))) _
      rw [hsame]
      exact .of_moves (Link.moves_afterMaking _ l s.request)
  | made packet frame =>
    have hreserved : unsent i = some (s.id, s.ticket) := by rw [hentry, reserved?, hstage]
    rw [advance_made hstage]
    cases l.exchange.failure with
    | some message => exact .of_change (.lapse i)
    | none =>
      have hsame : Function.update unsent i (some (s.id, s.ticket)) = unsent := by
        rw [← hreserved, Function.update_eq_self]
      show Exchange.Passage _ _ _ _ (Function.update unsent i (some (s.id, s.ticket))) _
      rw [hsame]
      exact .of_change .keep
  | cleared packet frame =>
    have hreserved : unsent i = some (s.id, s.ticket) := by rw [hentry, reserved?, hstage]
    rw [advance_cleared hstage]
    have hmoves : Exchange.Moves l.line.peer.Lossy l.exchange (l.wrote frame).restEvents
      (l.wrote frame).rest.exchange := Link.moves_rest (l.wrote frame)
    cases (l.line.write frame).1 with
    | some f => exact .mk (.none _) (.hand hreserved) hmoves
    | none => exact .mk (.none _) (.hand hreserved) hmoves
  | written =>
    rw [advance_written hstage]
    cases l.line.flush.1 with
    | some f => exact .of_change (.lapse i)
    | none => exact .of_change (.lapse i)
  | refused f =>
    rw [advance_faulted (.inl hstage)]
    exact .mk (.none _) (.lapse i) (Link.moves_writeFailed s.id fun _ => hemptied (hinformed.refused f hstage))
  | faulted f =>
    have hnot := hinformed.faulted f hstage
    have hnothing : Link.takenBack s.ticket (.error f) = [] := by
      rw [Link.takenBack, hnot]
      rfl
    rw [advance_faulted (.inr hstage)]
    show Exchange.Passage _ _ _ (Link.takenBack s.ticket (.error f)) _ _
    rw [hnothing]
    refine .mk (.none _) (.lapse i) (Link.moves_writeFailed s.id fun hlost => ?_)
    rw [hnot] at hlost
    cases hlost
  | ended =>
    rw [advance_ended hstage]
    exact .of_change (.lapse i)

end Sender

namespace Traffic

variable {c : Traffic σ} {spared : Int → Prop}

/-- Everything that holds for the ids under which nobody is reached too early. -/
structure Ordered (c : Traffic σ) (spared : Int → Prop) : Prop where
  /-- The exchange is in order. -/
  inOrder : c.link.exchange.InOrder spared c.unsent c.events
  /-- What the submissions were told is so. -/
  informed : ∀ s ∈ c.senders, s.Informed c.link.exchange

/-- **Every turn is a passage.** -/
theorem Ordered.passage_turn (h : c.Ordered spared) (hlossless : ¬ c.link.line.peer.Lossy) (t : Turn σ) :
    ∃ l senders new, c.turn t = c.next l senders new ∧
      Exchange.Passage c.link.line.peer.Lossy c.unsent c.link.exchange new (unsentOf senders) l.exchange ∧
      ∀ s ∈ senders, s.Informed l.exchange := by
  have hstays : ∀ {unsent' : Nat → Option (Int × Ticket)} {new : List Event} {y : Exchange},
      Exchange.Passage c.link.line.peer.Lossy c.unsent c.link.exchange new unsent' y →
      ∀ s ∈ c.senders, s.Informed y := by
    intro unsent' new y hpassage s hs
    refine (h.informed s hs).of_failure fun hfailed => ?_
    obtain ⟨message, hmessage⟩ := Option.ne_none_iff_exists'.mp hfailed
    rw [Exchange.failure_passage hmessage hpassage]
    exact Option.some_ne_none message
  cases t with
  | op o =>
    have hpassage : Exchange.Passage c.link.line.peer.Lossy c.unsent c.link.exchange (o.events c.link) c.unsent
      (o.perform c.link).exchange := .of_moves (o.acts_perform c.link).moves
    exact ⟨_, _, _, rfl, hpassage, hstays hpassage⟩
  | enter r =>
    have hcount : Exchange.Moves c.link.line.peer.Lossy c.link.exchange [] c.link.exchange.nextId.2 := by
      rw [Exchange.nextId_eq]
      exact .one (.count _)
    rw [turn, Link.run_enroll]
    cases hfailure : c.link.exchange.failure with
    | some message => exact ⟨_, _, _, rfl, .of_change .keep, h.informed⟩
    | none =>
      cases hid : c.link.exchange.nextId.1 with
      | none =>
        have hpassage : Exchange.Passage c.link.line.peer.Lossy c.unsent c.link.exchange [] c.unsent
          c.link.exchange.nextId.2 := .of_moves hcount
        exact ⟨_, _, _, rfl, hpassage, hstays hpassage⟩
      | some id =>
        have hpassage : Exchange.Passage c.link.line.peer.Lossy c.unsent c.link.exchange []
            (Function.update c.unsent c.senders.length (some (id, c.link.exchange.progress.size)))
            (c.link.enter id).exchange := by
          refine .mk hcount (.enter c.senders.length ?_ (Exchange.nextId_free (x := c.link.exchange) hid)) (.none _)
          rw [Exchange.nextId_eq]
          exact hfailure
        refine ⟨_, _, _, rfl, ?_, fun s hs => ?_⟩
        · rw [unsentOf_append]
          exact hpassage
        · rcases List.mem_append.mp hs with hs | hs
          · exact hstays hpassage s hs
          · rw [List.mem_singleton.mp hs]
            exact Sender.informed_begun r id _ _
  | proceed i =>
    rw [turn]
    cases hs : c.senders[i]? with
    | none => exact ⟨_, _, _, (next_self c).symm, .of_change .keep, h.informed⟩
    | some s =>
      have hentry : c.unsent i = s.reserved? := by
        show (c.senders[i]?).bind _ = _
        rw [hs]
        rfl
      have hmem := List.mem_of_getElem? hs
      have hpassage := Sender.passage hentry (h.informed s hmem) h.inOrder.coherent.emptied
      refine ⟨_, _, _, rfl, ?_, fun s' hs' => ?_⟩
      · rw [unsentOf_set (List.getElem?_eq_some_iff.mp hs).1]
        exact hpassage
      · rcases List.mem_or_eq_of_mem_set hs' with hs' | rfl
        · exact hstays hpassage s' hs'
        · exact s.informed_advance hlossless

/-- What a turn leads to, when everything was in order before. -/
theorem Ordered.exists_follows (h : c.Ordered spared) (hlossless : ¬ c.link.line.peer.Lossy) (t : Turn σ) :
    ∃ l senders new, c.turn t = c.next l senders new ∧
      l.exchange.Follows spared (unsentOf senders) c.events new ∧ ∀ s ∈ senders, s.Informed l.exchange := by
  obtain ⟨l, senders, new, hnext, hpassage, hinformed⟩ := h.passage_turn hlossless t
  exact ⟨l, senders, new, hnext, h.inOrder.passage hlossless hpassage, hinformed⟩

/-- Everything is in order at the beginning. -/
theorem ordered_of_fresh {l : Link σ} (hl : l.Fresh) (spared : Int → Prop) :
    ({ link := l } : Traffic σ).Ordered spared where
  inOrder := {
    coherent := (History.kept_of_fresh hl).accounted.toCoherent
    issued := fun _ hg => absurd hg List.not_mem_nil
    tabled := fun _ hg => absurd hg List.not_mem_nil
    orderly := Exchange.orderly_nil spared l.exchange
    told := Exchange.told_nil hl.progress
    reserves := Exchange.Reserves.of_none spared [] l.exchange }
  informed _ hs := absurd hs List.not_mem_nil

/-- **In every run everything is in order for the ids under which nobody is reached too early.** -/
theorem ordered_run {l : Link σ} (hl : l.Fresh) (hlossless : ¬ l.line.peer.Lossy) (turns : List (Turn σ))
    (hspares : (l.traffic turns).Spares spared) : (l.traffic turns).Ordered spared := by
  refine (run_induction (motive := fun c => l.Conveys c.events c.link ∧ (c.Spares spared → c.Ordered spared))
    ⟨.of_line rfl, fun _ => ordered_of_fresh hl spared⟩ ?_ turns).2 hspares
  rintro c t ⟨hconveys, hordered⟩
  refine ⟨conveys_turn hconveys t, fun hspares => ?_⟩
  have hbefore : c.Spares spared := by
    obtain ⟨l', senders, new, hnext⟩ := c.exists_next t
    rw [hnext] at hspares
    exact (spares_next_iff.mp hspares).1
  obtain ⟨l', senders, new, hnext, hfollows, hinformed⟩ :=
    (hordered hbefore).exists_follows (by rw [hconveys.peer]; exact hlossless) t
  rw [hnext] at hspares ⊢
  exact ⟨hfollows.inOrder (spares_next_iff.mp hspares).2, hinformed⟩

/-- When nobody is reached too early, all ids are spared. -/
theorem spares_of_early (h : c.early = []) (spared : Int → Prop) : c.Spares spared := by
  intro p hp
  rw [h] at hp
  cases hp

/-- **A far end that answers each request at most once reaches nobody too early.** -/
theorem early_of_answersOnce {l : Link σ} (hl : l.Fresh) (hlossless : ¬ l.line.peer.Lossy)
    (turns : List (Turn σ)) {request : Nat → Nat} (honce : AnswersOnce (l.traffic turns).events request) :
    (l.traffic turns).early = [] := by
  induction turns using List.reverseRecOn with
  | nil => rfl
  | append_singleton turns t ih =>
    rw [l.traffic_concat] at honce ⊢
    have hbefore : (l.traffic turns).early = [] := by
      obtain ⟨l', senders, new, hnext⟩ := (l.traffic turns).exists_next t
      rw [hnext] at honce
      exact ih honce.of_append
    have hordered : (l.traffic turns).Ordered fun _ => True :=
      ordered_run hl hlossless turns (spares_of_early hbefore _)
    obtain ⟨l', senders, new, hnext, hfollows, -⟩ :=
      hordered.exists_follows (by rw [(conveys_run l turns).peer]; exact hlossless) t
    rw [hnext] at honce ⊢
    exact early_next_eq_nil hbefore (hfollows.timely honce)

end Traffic

end Sftp
