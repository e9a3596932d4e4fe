import Sftp.Proofs.Link.Identifiers

/-!
# Who is told what

A packet reaches a request, and the request is answered by it unless it was given up. Whether it is the request
that the packet answers is another matter; a far end that answers each request at most once is described here,
and what it means for the request that a reply answers.

* `Exchange.standing_move` — how a request can come to stand otherwise; `Exchange.Told` — who was told
  which packet, kept by every move.
* `AnswersOnce` — a far end that answers each request at most once.
* **`AnswersOnce.newest`** — the request that a reply answers is the newest with its id.
-/

namespace Sftp

/-! ## Who is told what -/

namespace Exchange

variable {x y : Exchange} {events new : List Event} {lossy : Prop}

/-- A failure ends those who wait, and changes nothing for the others. -/
theorem standing_fail_cases (h : x.Sound) (message : Text) (t : Ticket) :
    (x.fail message).standing t = x.standing t ∨
      x.standing t = .waiting ∧ ∃ m, (x.fail message).standing t = .lost m := by
  rw [standing_fail h]
  by_cases hmem : t ∈ x.pending.map Prod.snd
  · rw [if_pos hmem]
    by_cases hwaiting : x.standing t = .waiting
    · rw [hwaiting, Progress.settled_waiting]
      exact .inr ⟨rfl, _, rfl⟩
    · exact .inl (Progress.settled_of_ne hwaiting)
  · exact .inl (if_neg hmem)

/-- In one move only a request that waits comes to stand otherwise: it is given up, it is lost, or it is
answered by the packet that is taken. -/
theorem standing_move (h : x.Sound) (hmove : Move lossy x new y) (t : Ticket) :
    y.standing t = x.standing t ∨ x.standing t = .waiting ∧
      (y.standing t = .abandoned ∨ (∃ m, y.standing t = .lost m) ∨
        ∃ p, x.reached p = some t ∧ new = [.taken p (some t)] ∧ y.standing t = .answered p) := by
  have hlost : ∀ {z w : Exchange} {m : Text}, z.Sound → z.standing t = x.standing t →
      w.standing t = (z.fail m).standing t → w.standing t = x.standing t ∨ x.standing t = .waiting ∧
        (w.standing t = .abandoned ∨ (∃ m, w.standing t = .lost m) ∨
          ∃ p, x.reached p = some t ∧ new = [.taken p (some t)] ∧ w.standing t = .answered p) := by
    intro z w m hz hsame hfail
    rw [hfail, ← hsame]
    rcases standing_fail_cases hz m t with hkept | ⟨hwaiting, hlost⟩
    · exact .inl hkept
    · exact .inr ⟨hwaiting, .inr (.inl hlost)⟩
  cases hmove with
  | count n => exact .inl rfl
  | listen hidle => exact .inl rfl
  | take p =>
    rw [standing_take h]
    by_cases hreached : x.reached p = some t
    · rw [if_pos hreached, hreached]
      by_cases hwaiting : x.standing t = .waiting
      · rw [hwaiting, Progress.settled_waiting]
        exact .inr ⟨rfl, .inr (.inr ⟨p, hreached, rfl, rfl⟩)⟩
      · exact .inl (Progress.settled_of_ne hwaiting)
    · exact .inl (if_neg hreached)
  | stop message => exact hlost (h.with_reader .stopped) rfl rfl
  | fail message => exact hlost h rfl rfl
  | abandon u =>
    rcases standing_abandon x u t with hkept | ⟨hwaiting, habandoned⟩
    · exact .inl hkept
    · exact .inr ⟨hwaiting, .inl habandoned⟩
  | @unmade id _ _ => exact .inl (standing_register x id t)
  | @hungUp id _ hfree => exact hlost (h.register hfree) (standing_register x id t) rfl
  | @hand g _ _ _ => exact .inl (standing_register x g.id t)
  | withdraw _ _ _ => exact .inl rfl

/-- How requests stand, by the packets that reached them. -/
structure Told (events : List Event) (x : Exchange) : Prop where
  /-- Whoever was answered was reached by the answer. -/
  answered : ∀ (t : Ticket) (p : Packet), x.standing t = .answered p →
    p.id? ≠ none ∧ ∃ k : Nat, events[k]? = some (Event.taken p (some t))
  /-- Whoever was reached by a packet was answered by it, or had given up. -/
  reached : ∀ (k : Nat) (p : Packet) (t : Ticket), events[k]? = some (.taken p (some t)) →
    x.standing t = .answered p ∨ x.standing t = .abandoned

/-- Nobody was told anything at the beginning. -/
theorem told_nil (h : x.progress = #[]) : x.Told [] := by
  constructor
  · intro t p hanswered
    unfold standing at hanswered
    rw [h] at hanswered
    cases hanswered
  · intro k p t hk
    cases hk

namespace Told

/-- Every move tells those who are reached. -/
theorem move (h : x.Told events) (hsound : x.Sound) (hmove : Move lossy x new y) :
    y.Told (events ++ new) where
  answered t p hanswered := by
    rcases standing_move hsound hmove t with hkept | ⟨-, hcome⟩
    · obtain ⟨hid, k, hk⟩ := h.answered t p (hkept ▸ hanswered)
      have hlt := (List.getElem?_eq_some_iff.mp hk).1
      refine ⟨hid, k, ?_⟩
      rw [List.getElem?_append_left hlt]
      exact hk
    · rcases hcome with hcome | ⟨m, hcome⟩ | ⟨q, hq, hnew, hcome⟩
      · cases hcome.symm.trans hanswered
      · cases hcome.symm.trans hanswered
      · obtain rfl := Progress.answered.inj (hcome.symm.trans hanswered)
        obtain ⟨id, hid, -⟩ := mem_of_reached hq
        refine ⟨by rw [hid]; exact nofun, events.length, ?_⟩
        rw [hnew, List.getElem?_append_right (Nat.le_refl _), Nat.sub_self]
        rfl
  reached k p t hk := by
    by_cases hlt : k < events.length
    · rw [List.getElem?_append_left hlt] at hk
      -- whoever was reached does not wait, so nothing changes
      have hbefore := h.reached k p t hk
      rcases standing_move hsound hmove t with hkept | ⟨hwaiting, -⟩
      · rw [hkept]
        exact hbefore
      · rw [hwaiting] at hbefore
        rcases hbefore with hbefore | hbefore
        · cases hbefore
        · cases hbefore
    · rw [List.getElem?_append_right (Nat.le_of_not_lt hlt)] at hk
      have hmem := List.mem_of_getElem? hk
      cases hmove with
      | take q =>
        obtain ⟨rfl, hreached⟩ := Event.taken.inj (List.mem_singleton.mp hmem)
        obtain ⟨id, -, hpending⟩ := mem_of_reached hreached.symm
        rw [standing_take hsound, if_pos hreached.symm]
        rcases hsound.unended _ hpending with hwaiting | habandoned
        · rw [hwaiting]
          exact .inl rfl
        · rw [habandoned]
          exact .inr rfl
      | hand _ _ _ => cases List.mem_singleton.mp hmem
      | withdraw _ _ _ => cases List.mem_singleton.mp hmem
      | count n | listen _ | stop _ | fail _ | abandon _ | unmade _ _ | hungUp _ _ => cases hmem

/-- Whoever is entered or leaves the table is told nothing. -/
theorem of_standing (h : x.Told events) (hstanding : ∀ t, y.standing t = x.standing t) : y.Told events where
  answered t p hanswered := h.answered t p ((hstanding t).symm.trans hanswered)
  reached k p t hk := by
    rw [hstanding]
    exact h.reached k p t hk

/-- A frame that is handed over tells nobody anything. -/
theorem handed (h : x.Told events) (g : Handing) : x.Told (events ++ [.handed g]) where
  answered t p hanswered := by
    obtain ⟨hid, k, hk⟩ := h.answered t p hanswered
    exact ⟨hid, k, getElem?_concat_of_some hk⟩
  reached k p t hk := h.reached k p t (getElem?_of_concat_ne hk nofun)

end Told

end Exchange

/-! ## Far ends that answer once -/

/-- A far end that answers each request at most once, and sends no other packet with an id: `request`
gives, for the position at which a reply is taken, the position at which the frame that it answers was
handed over. -/
structure AnswersOnce (events : List Event) (request : Nat → Nat) : Prop where
  /-- A reply answers an earlier frame with its id. -/
  asked : ∀ (k : Nat) (p : Packet) (reached : Option Ticket) (id : Int),
    events[k]? = some (.taken p reached) → p.id? = some id →
    request k < k ∧ ∃ g : Handing, events[request k]? = some (.handed g) ∧ g.id = id
  /-- Two replies do not answer the same frame. -/
  once : ∀ (k k' : Nat) (p p' : Packet) (reached reached' : Option Ticket),
    events[k]? = some (.taken p reached) → events[k']? = some (.taken p' reached') →
    p.id? ≠ none → p'.id? ≠ none → request k = request k' → k = k'

/-- What a far end answers is answered once at any time. -/
theorem AnswersOnce.of_append {events new : List Event} {request : Nat → Nat}
    (h : AnswersOnce (events ++ new) request) : AnswersOnce events request := by
  have hlater : ∀ {k : Nat} {e : Event}, events[k]? = some e → (events ++ new)[k]? = some e := fun hk => by
    rw [List.getElem?_append_left (List.getElem?_eq_some_iff.mp hk).1]
    exact hk
  constructor
  · intro k p reached id hk hid
    obtain ⟨hlt, g, hg, hgid⟩ := h.asked k p reached id (hlater hk) hid
    have hlast := (List.getElem?_eq_some_iff.mp hk).1
    rw [List.getElem?_append_left (Nat.lt_trans hlt hlast)] at hg
    exact ⟨hlt, g, hg, hgid⟩
  · intro k k' p p' reached reached' hk hk'
    exact h.once k k' p p' reached reached' (hlater hk) (hlater hk')

/-- **The request that a reply answers is the newest with its id**: nothing with that id was taken in
between. -/
theorem AnswersOnce.newest {events : List Event} {request : Nat → Nat}
    (h : AnswersOnce events request) {id : Int} (hapart : KeptApart id events) {k k' : Nat} {p p' : Packet}
    {reached reached' : Option Ticket} (hk : events[k]? = some (.taken p reached))
    (hid : p.id? = some id) (hk' : events[k']? = some (.taken p' reached'))
    (hafter : request k < k') (hbefore : k' < k) : p'.id? ≠ some id := by
  -- induction on the reply, and for one reply on what comes in between: the first such packet would
  -- answer the same frame, or an older one that was answered before
  induction k using Nat.strongRecOn generalizing k' p p' reached reached' with
  | ind k ihk =>
    induction k' using Nat.strongRecOn generalizing p' reached' with
    | ind k' ihk' =>
      intro hid'
      obtain ⟨hlt, g, hg, hgid⟩ := h.asked k p reached id hk hid
      obtain ⟨hlt', g', hg', hgid'⟩ := h.asked k' p' reached' id hk' hid'
      rcases Nat.lt_trichotomy (request k') (request k) with horder | horder | horder
      · -- the older frame was answered before the newer was handed over
        obtain ⟨m, q, reachedq, hmafter, hmbefore, hq, hqid⟩ :=
          hapart _ _ g' g hg' hg horder hgid' hgid
        exact ihk k' hbefore hk' hid' hq hmafter (Nat.lt_trans hmbefore hafter) hqid
      · have hsame := h.once k k' p p' reached reached' hk hk' (by rw [hid]; exact nofun)
          (by rw [hid']; exact nofun) horder.symm
        exact Nat.ne_of_lt hbefore hsame.symm
      · -- something came back between the two frames
        obtain ⟨m, q, reachedq, hmafter, hmbefore, hq, hqid⟩ :=
          hapart _ _ g g' hg hg' horder hgid hgid'
        have hm : m < k' := Nat.lt_trans hmbefore hlt'
        exact ihk' m hm hq hmafter (Nat.lt_trans hm hbefore) hqid

end Sftp
