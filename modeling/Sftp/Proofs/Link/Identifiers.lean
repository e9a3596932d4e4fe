import Sftp.Proofs.Link.Failure

/-!
# Request ids are kept apart

An id is free again only when a packet with it has come, however long that takes and whoever still
waits. So no two requests with the same id are under way at once, and the first packet with an id is
for the request that was given the id last.

* `KeptApart` — between two frames with an id a packet with that id is taken.
* `Unanswered` — a frame was handed over and nothing with its id has been taken since.
* `Exchange.Orderly` — what holds between the events so far and the table, for some ids: their frames are kept
  apart, a request that is unanswered holds its id, and a packet reaches the request that holds its id. No ticket has
  two frames.
* **`Exchange.Orderly.move`** — every move keeps the order, on a stream that never says that the
  connection is lost.
-/

namespace Sftp

/-! ## Events by position -/

section positions

variable {events : List Event} {e e' : Event} {k : Nat}

/-- An event stays at its position when more happens. -/
theorem getElem?_concat_of_some (h : events[k]? = some e') : (events ++ [e])[k]? = some e' := by
  have hlt : k < events.length := (List.getElem?_eq_some_iff.mp h).1
  rw [List.getElem?_append_left hlt]
  exact h

/-- What happened last stands at the end, and the rest before it. -/
theorem getElem?_concat_cases (h : (events ++ [e])[k]? = some e') :
    (k < events.length ∧ events[k]? = some e') ∨ (k = events.length ∧ e = e') := by
  by_cases hlt : k < events.length
  · rw [List.getElem?_append_left hlt] at h
    exact .inl ⟨hlt, h⟩
  · rw [List.getElem?_append_right (Nat.le_of_not_lt hlt)] at h
    obtain ⟨hzero, heq⟩ := List.getElem?_eq_some_iff.mp h
    have hlast : k = events.length := by
      simp only [List.length_singleton] at hzero
      omega
    subst hlast
    simp only [Nat.sub_self, List.getElem_cons_zero] at heq
    exact .inr ⟨rfl, heq⟩

/-- An event other than the last stood where it is before that. -/
theorem getElem?_of_concat_ne (h : (events ++ [e])[k]? = some e') (hne : e ≠ e') : events[k]? = some e' := by
  rcases getElem?_concat_cases h with ⟨-, hold⟩ | ⟨-, hlast⟩
  · exact hold
  · exact absurd hlast hne

/-- A frame was handed over before, or is the last one. -/
theorem mem_concat_handed_cases {g a : Handing} (h : .handed a ∈ events ++ [.handed g]) :
    .handed a ∈ events ∨ a = g := by
  rcases List.mem_append.mp h with hold | hnew
  · exact .inl hold
  · exact .inr (Event.handed.inj (List.mem_singleton.mp hnew))

end positions

/-- Between two frames with an id, a packet with that id is taken. -/
def KeptApart (id : Int) (events : List Event) : Prop :=
  ∀ (i j : Nat) (a b : Handing), events[i]? = some (.handed a) → events[j]? = some (.handed b) → i < j →
    a.id = id → b.id = id →
    ∃ (k : Nat) (p : Packet) (reached : Option Ticket), i < k ∧ k < j ∧
      events[k]? = some (.taken p reached) ∧ p.id? = some id

/-- A ticket belongs to one frame. -/
def TicketsApart (events : List Event) : Prop :=
  ∀ (i j : Nat) (a b : Handing), events[i]? = some (.handed a) → events[j]? = some (.handed b) →
    a.ticket = b.ticket → i = j

section apart

variable {events : List Event} {id : Int}

/-- Taking a packet hands over nothing. -/
theorem KeptApart.concat_taken (h : KeptApart id events) (p : Packet) (reached : Option Ticket) :
    KeptApart id (events ++ [.taken p reached]) := by
  intro i j a b ha hb hij hida hidb
  obtain ⟨k, q, reached, hik, hkj, hq, hqid⟩ :=
    h i j a b (getElem?_of_concat_ne ha nofun) (getElem?_of_concat_ne hb nofun) hij hida hidb
  exact ⟨k, q, reached, hik, hkj, getElem?_concat_of_some hq, hqid⟩

/-- A frame is handed over under an id that came back since it was last used. -/
theorem KeptApart.concat_handed (h : KeptApart id events) {g : Handing}
    (hid : g.id = id → ∀ (i : Nat) (a : Handing), events[i]? = some (.handed a) → a.id = id →
      ∃ (k : Nat) (p : Packet) (reached : Option Ticket), i < k ∧
        events[k]? = some (.taken p reached) ∧ p.id? = some id) :
    KeptApart id (events ++ [.handed g]) := by
  intro i j a b ha hb hij hida hidb
  rcases getElem?_concat_cases ha with ⟨hi, ha⟩ | ⟨hi, -⟩
  · rcases getElem?_concat_cases hb with ⟨-, hb⟩ | ⟨hj, hnew⟩
    · obtain ⟨k, q, reached, hik, hkj, hq, hqid⟩ := h i j a b ha hb hij hida hidb
      exact ⟨k, q, reached, hik, hkj, getElem?_concat_of_some hq, hqid⟩
    · obtain rfl := Event.handed.inj hnew
      obtain ⟨k, q, reached, hik, hq, hqid⟩ := hid hidb i a ha hida
      have hk := (List.getElem?_eq_some_iff.mp hq).1
      exact ⟨k, q, reached, hik, hj ▸ hk, getElem?_concat_of_some hq, hqid⟩
  · have hj := (List.getElem?_eq_some_iff.mp hb).1
    simp only [List.length_append, List.length_singleton] at hj
    omega

/-- Taking a packet hands over nothing. -/
theorem TicketsApart.concat_taken (h : TicketsApart events) (p : Packet) (reached : Option Ticket) :
    TicketsApart (events ++ [.taken p reached]) := by
  intro i j a b ha hb heq
  exact h i j a b (getElem?_of_concat_ne ha nofun) (getElem?_of_concat_ne hb nofun) heq

/-- A frame is handed over with a new ticket. -/
theorem TicketsApart.concat_handed (h : TicketsApart events) {g : Handing}
    (hticket : ∀ a, .handed a ∈ events → a.ticket ≠ g.ticket) : TicketsApart (events ++ [.handed g]) := by
  intro i j a b ha hb heq
  rcases getElem?_concat_cases ha with ⟨-, ha⟩ | ⟨hi, hnewa⟩
  · rcases getElem?_concat_cases hb with ⟨-, hb⟩ | ⟨-, hnew⟩
    · exact h i j a b ha hb heq
    · obtain rfl := Event.handed.inj hnew
      exact absurd heq (hticket a (List.mem_of_getElem? ha))
  · obtain rfl := Event.handed.inj hnewa
    rcases getElem?_concat_cases hb with ⟨-, hb⟩ | ⟨hj, -⟩
    · exact absurd heq.symm (hticket b (List.mem_of_getElem? hb))
    · rw [hi, hj]

end apart

/-- A frame was handed over at a position, and no packet with its id has been taken since. -/
def Unanswered (events : List Event) (i : Nat) (g : Handing) : Prop :=
  events[i]? = some (.handed g) ∧
    ∀ (k : Nat) (p : Packet) (reached : Option Ticket), i < k →
      events[k]? = some (.taken p reached) → p.id? ≠ some g.id

/-- A frame that is unanswered after one more event was so before, or has just been handed over. -/
theorem unanswered_concat_cases {events : List Event} {e : Event} {i : Nat} {g : Handing}
    (h : Unanswered (events ++ [e]) i g) : Unanswered events i g ∨ (i = events.length ∧ e = .handed g) := by
  obtain ⟨hhanded, hnone⟩ := h
  rcases getElem?_concat_cases hhanded with ⟨-, hold⟩ | hnew
  · exact .inl ⟨hold, fun k p reached hk hp => hnone k p reached hk (getElem?_concat_of_some hp)⟩
  · exact .inr hnew

/-- A packet that is taken answers the frames with its id. -/
theorem Unanswered.id_ne {events : List Event} {p : Packet} {reached : Option Ticket} {i : Nat} {g : Handing}
    (h : Unanswered (events ++ [.taken p reached]) i g) : p.id? ≠ some g.id := by
  have hlast : (events ++ [Event.taken p reached])[events.length]? = some (.taken p reached) := by simp
  have hbefore := getElem?_of_concat_ne h.1 nofun
  exact h.2 _ _ _ (List.getElem?_eq_some_iff.mp hbefore).1 hlast

namespace Exchange

/-- What holds between the events so far and the table of requests, for the ids that are spared. -/
structure Orderly (spared : Int → Prop) (events : List Event) (x : Exchange) : Prop where
  /-- While the connection has not failed, a request whose id has not come back holds its id. -/
  holds : x.failure = none → ∀ (i : Nat) (g : Handing), spared g.id → Unanswered events i g →
    (g.id, g.ticket) ∈ x.pending
  /-- The frames with one id are kept apart. -/
  apart : ∀ id, spared id → KeptApart id events
  /-- The first packet with the id of a request reaches that request, unless the connection has
  failed. -/
  faithful : ∀ (i k : Nat) (g : Handing) (p : Packet) (reached : Option Ticket), spared g.id →
    events[i]? = some (.handed g) → events[k]? = some (.taken p reached) → i < k →
    p.id? = some g.id →
    (∀ (k' : Nat) (p' : Packet) (reached' : Option Ticket), i < k' → k' < k →
      events[k']? = some (.taken p' reached') → p'.id? ≠ some g.id) →
    reached = some g.ticket ∨ (reached = none ∧ x.failure ≠ none)
  /-- No ticket has two frames. -/
  tickets : TicketsApart events

/-- Before anything has happened there is no order to break. -/
theorem orderly_nil (spared : Int → Prop) (x : Exchange) : x.Orderly spared [] := by
  refine ⟨?_, ?_, ?_, ?_⟩
  · rintro - i g - ⟨hg, -⟩
    cases hg
  · intro id _ i j a b ha
    cases ha
  · intro i k g p reached _ hg
    cases hg
  · intro i j a b ha
    cases ha

namespace Orderly

variable {spared : Int → Prop} {x y : Exchange} {events : List Event}

/-- Without an event, what holds goes on holding as far as nobody leaves the table of a connection
that has not failed. -/
theorem of_subset (h : x.Orderly spared events) (hfailure : x.failure ≠ none → y.failure ≠ none)
    (hpending : y.failure = none → ∀ e ∈ x.pending, e ∈ y.pending) : y.Orderly spared events where
  holds hhealthy i g hspared hg := by
    have hbefore : x.failure = none := by
      cases hx : x.failure with
      | none => rfl
      | some m => exact absurd hhealthy (hfailure (by rw [hx]; exact nofun))
    exact hpending hhealthy _ (h.holds hbefore i g hspared hg)
  apart := h.apart
  faithful i k g p reached hspared hg hp hlt hid hfirst := by
    rcases h.faithful i k g p reached hspared hg hp hlt hid hfirst with hreached | ⟨hnone, hfailed⟩
    · exact .inl hreached
    · exact .inr ⟨hnone, hfailure hfailed⟩
  tickets := h.tickets

/-- A packet that is taken frees its id, and reaches the request that held it. -/
theorem take (h : x.Orderly spared events) (hsound : x.Sound)
    (hemptied : x.failure ≠ none → x.pending = []) (p : Packet) :
    (x.take p).Orderly spared (events ++ [.taken p (x.reached p)]) where
  holds hhealthy i g hspared hg := by
    rw [failure_take] at hhealthy
    rcases unanswered_concat_cases hg with hbefore | ⟨-, hnew⟩
    · rw [pending_take, List.mem_filter]
      exact ⟨h.holds hhealthy i g hspared hbefore, decide_eq_true hg.id_ne⟩
    · cases hnew
  apart id hspared := (h.apart id hspared).concat_taken p (x.reached p)
  faithful i k g q reached hspared hg hq hik hid hfirst := by
    rw [failure_take]
    have hbefore := getElem?_of_concat_ne hg nofun
    have hfirst' : ∀ k' p' reached', i < k' → k' < k → events[k']? = some (.taken p' reached') →
        p'.id? ≠ some g.id := fun k' p' reached' hik' hk' hp' =>
      hfirst k' p' reached' hik' hk' (getElem?_concat_of_some hp')
    rcases getElem?_concat_cases hq with ⟨-, hq⟩ | ⟨hk, hnew⟩
    · exact h.faithful i k g q reached hspared hbefore hq hik hid hfirst'
    · -- the packet is the one just taken
      obtain ⟨rfl, rfl⟩ := Event.taken.inj hnew
      cases hfailure : x.failure with
      | some m =>
        have hempty := hemptied (by rw [hfailure]; exact nofun)
        refine .inr ⟨reached_eq_none fun e he => ?_, nofun⟩
        rw [hempty] at he
        cases he
      | none =>
        have hunanswered : Unanswered events i g := by
          refine ⟨hbefore, fun k' p' reached' hik' hp' => hfirst' k' p' reached' hik' ?_ hp'⟩
          rw [hk]
          exact (List.getElem?_eq_some_iff.mp hp').1
        exact .inl (hsound.reached_eq hid (h.holds hfailure i g hspared hunanswered))
  tickets := h.tickets.concat_taken p (x.reached p)

/-- The frame of a request goes out that holds its id, when everything with that id has been answered. -/
theorem handed (h : x.Orderly spared events) {g : Handing}
    (hholds : spared g.id → x.failure = none → (g.id, g.ticket) ∈ x.pending)
    (haside : spared g.id → ∀ (i : Nat) (a : Handing), Unanswered events i a → a.id ≠ g.id)
    (hticket : ∀ a, .handed a ∈ events → a.ticket ≠ g.ticket) : x.Orderly spared (events ++ [.handed g]) where
  holds hhealthy i a hspared ha := by
    rcases unanswered_concat_cases ha with hbefore | ⟨-, hnew⟩
    · exact h.holds hhealthy i a hspared hbefore
    · obtain rfl := Event.handed.inj hnew
      exact hholds hspared hhealthy
  apart id hspared := (h.apart id hspared).concat_handed fun hgid i a ha hid => by
    -- if no packet with the id had been taken, the earlier frame would be unanswered
    subst hgid
    refine Classical.byContradiction fun hnone => haside hspared i a ⟨ha, ?_⟩ hid
    exact fun k q reached hik hq hqid => hnone ⟨k, q, reached, hik, hq, hid ▸ hqid⟩
  faithful i k a q reached hspared ha hq hik hid hfirst := by
    have hbefore := getElem?_of_concat_ne hq nofun
    have hk := (List.getElem?_eq_some_iff.mp hbefore).1
    rcases getElem?_concat_cases ha with ⟨-, ha⟩ | ⟨hi, -⟩
    · exact h.faithful i k a q reached hspared ha hbefore hik hid fun k' p' reached' hik' hk' hp' =>
        hfirst k' p' reached' hik' hk' (getElem?_concat_of_some hp')
    · omega
  tickets := h.tickets.concat_handed hticket

/-- The frame of a request that is just entered goes out under an id that nobody holds. -/
theorem hand (h : x.Orderly spared events)
    (hissued : ∀ a, .handed a ∈ events → a.ticket < x.progress.size)
    (hhealthy : x.failure = none) {g : Handing} (hfree : ∀ e ∈ x.pending, e.1 ≠ g.id)
    (hticket : g.ticket = x.progress.size) :
    (x.register g.id).2.Orderly spared (events ++ [.handed g]) := by
  have hentered : (x.register g.id).2.Orderly spared events :=
    h.of_subset id fun _ _ he => List.mem_append_left _ he
  refine hentered.handed (fun _ _ => List.mem_append_right _ (List.mem_singleton.mpr ?_)) ?_ ?_
  · rw [hticket]
  · -- an earlier request that is unanswered would hold the id
    intro hspared i a ha hid
    exact hfree _ (h.holds hhealthy i a (hid ▸ hspared) ha) hid
  · intro a ha
    rw [hticket]
    exact Nat.ne_of_lt (hissued a ha)

/-- A request leaves the table under whose id everything has been answered. -/
theorem withdraw (h : x.Orderly spared events) {id : Int}
    (haside : ∀ (i : Nat) (g : Handing), spared g.id → Unanswered events i g → g.id ≠ id) :
    (x.withdraw id).Orderly spared events where
  holds hhealthy i g hspared hg :=
    List.mem_filter.mpr ⟨h.holds hhealthy i g hspared hg, decide_eq_true (haside i g hspared hg)⟩
  apart := h.apart
  faithful := h.faithful
  tickets := h.tickets

/-- **Every move keeps the order**, on a stream that never says that the connection is lost. -/
theorem move {lossy : Prop} {new : List Event} (h : x.Orderly spared events) (hsound : x.Sound)
    (hemptied : x.failure ≠ none → x.pending = [])
    (hissued : ∀ a, .handed a ∈ events → a.ticket < x.progress.size) (hlossless : ¬ lossy)
    (hmove : Move lossy x new y) : y.Orderly spared (events ++ new) := by
  cases hmove with
  | count n =>
    rw [List.append_nil]
    exact h.of_subset id fun _ _ he => he
  | listen hidle =>
    rw [List.append_nil]
    exact h.of_subset id fun _ _ he => he
  | take p => exact h.take hsound hemptied p
  | stop message =>
    rw [List.append_nil]
    exact h.of_subset (fun _ => nofun) nofun
  | fail message =>
    rw [List.append_nil]
    exact h.of_subset (fun _ => nofun) nofun
  | abandon t =>
    rw [List.append_nil, (abandon_eq x t).1]
    exact h.of_subset id fun _ _ he => he
  | unmade hhealthy hfree =>
    rw [List.append_nil]
    refine h.of_subset id fun _ e he => ?_
    rw [pending_withdraw_register hfree]
    exact he
  | hungUp hhealthy hfree =>
    rw [List.append_nil]
    exact h.of_subset (fun _ => nofun) nofun
  | hand hhealthy hfree hticket => exact h.hand hissued hhealthy hfree hticket
  | withdraw hlossy _ _ => exact absurd hlossy hlossless

end Orderly

end Exchange

end Sftp
