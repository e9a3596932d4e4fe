import Sftp.Proofs.Link.Reservations
import Sftp.Proofs.Wire.Layout
import Sftp.Stream.Script

/-!
# Replies and the requests that they answer

A far end that answers each request at most once, and nothing else, may answer late: after the caller
has given up, after the counter of ids has wrapped, while other submissions are under way. Its replies are still told
apart. What must not happen is that a packet comes too early and reaches a request whose frame is still to be handed
over: it ends that request and frees the id, and then two frames with the id go out with nothing in between.

* `Handing.Made` — what is in a frame that is handed over.
* `Exchange.Matched` — every reply is for the request that it answers; `Exchange.InOrder.matched` — so it is when
  everything is in order and the far end answers each request at most once.
* `Link.keptApart_history` — operations that do not overlap use an id again only when a packet with it has been taken.
* **`Link.replies_reach_their_requests`** — an id under which nobody is reached too early is used again only when a
  packet with it has been taken; and every reply of a far end that answers each request at most once reaches the
  request that it answers and no other.
* `Link.replies_reach_their_requests_unless` — what becomes of that when a packet comes too early, and of a reply that
  is longer than a frame may be.
-/

namespace Sftp

/-! ## Frames -/

/-- A far end reads the id of a message in its frame. -/
theorem Script.frameId_of_encode_message {id : Int} {m : Message} {frame : Bytes}
    (h : (Packet.message id m).encode = .ok frame) : Script.frameId frame = id := by
  obtain ⟨hfits, length, rest, rfl⟩ := Packet.frame_of_encode_message h
  obtain ⟨hnonneg, hlt⟩ := hfits
  have hid : ofBigEndian (bigEndian 4 id.toNat) = id.toNat := by
    refine ofBigEndian_bigEndian ?_
    rw [Int.toNat_lt hnonneg]
    exact hlt
  have hhead : (bigEndian 4 length ++ bigEndian 1 m.kind.tag).length = 5 := by simp
  unfold Script.frameId
  rw [← List.append_assoc, List.drop_left' hhead, List.take_left' (length_bigEndian _ _), hid]
  exact Int.toNat_of_nonneg hnonneg

/-- What is in a frame that is handed over: it is made from its packet, and a packet with the id that
was allotted has that id in its frame. -/
structure Handing.Made (g : Handing) : Prop where
  /-- The frame is that of the packet. -/
  encode : g.packet.encode = .ok g.frame
  /-- The id fits four bytes. -/
  range : 0 ≤ g.id ∧ g.id < Exchange.idCount
  /-- The far end reads the id in the frame. -/
  frameId : g.packet.id? = some g.id → Script.frameId g.frame = g.id

/-- The frame of a packet is made for the id that was allotted. -/
theorem Traffic.IsParcel.made {g : Handing} (h : IsParcel g.id g.packet g.frame) : g.Made := by
  obtain ⟨hencode, hrange⟩ := h
  refine ⟨hencode, hrange, fun hpacket => ?_⟩
  cases hmessage : g.packet with
  | init v x | version v x =>
    rw [hmessage] at hpacket
    cases hpacket
  | message id m =>
    rw [hmessage] at hpacket hencode
    obtain rfl := Option.some.inj hpacket
    exact Script.frameId_of_encode_message hencode

/-! ## Replies and requests -/

namespace Exchange

variable {x : Exchange} {unsent : Nat → Option (Int × Ticket)} {events : List Event} {request : Nat → Nat}

/-- The request that a reply answers is the one that it reaches, unless the connection has failed. -/
theorem Orderly.reached (h : x.Orderly (fun _ => True) events) (honce : AnswersOnce events request) {k : Nat} {p : Packet}
    {reached : Option Ticket} {id : Int} (hk : events[k]? = some (.taken p reached))
    (hid : p.id? = some id) :
    ∃ g : Handing, events[request k]? = some (.handed g) ∧ g.id = id ∧
      (reached = some g.ticket ∨ (reached = none ∧ x.failure ≠ none)) := by
  obtain ⟨hlt, g, hg, rfl⟩ := honce.asked k p reached id hk hid
  refine ⟨g, hg, rfl, h.faithful (request k) k g p reached trivial hg hk hlt hid ?_⟩
  intro k' p' reached' hafter hbefore hk'
  exact honce.newest (h.apart g.id trivial) hk hid hk' hafter hbefore

/-- Every reply is for the request that it answers. -/
structure Matched (events : List Event) (x : Exchange) (request : Nat → Nat) : Prop where
  /-- A reply reaches the request that it answers, and answers it unless it was given up; or it reaches
  nobody, when that request was given up or lost. -/
  replies : ∀ (k : Nat) (p : Packet) (reached : Option Ticket) (id : Int),
    events[k]? = some (.taken p reached) → p.id? = some id →
    ∃ g : Handing, events[request k]? = some (.handed g) ∧ g.id = id ∧
      ((reached = some g.ticket ∧ (x.standing g.ticket = .answered p ∨ x.standing g.ticket = .abandoned)) ∨
        (reached = none ∧ (x.standing g.ticket = .abandoned ∨ ∃ m, x.standing g.ticket = .lost m)))
  /-- A request that was answered was answered by a reply to it. -/
  answers : ∀ (t : Ticket) (p : Packet), x.standing t = .answered p →
    ∃ (k : Nat) (g : Handing), events[k]? = some (.taken p (some t)) ∧
      events[request k]? = some (.handed g) ∧ g.ticket = t

namespace InOrder

/-- Whoever was answered was answered by the reply to the own request. -/
theorem exists_reply_of_answered (h : x.InOrder (fun _ => True) unsent events) (honce : AnswersOnce events request)
    {t : Ticket} {p : Packet} (hanswered : x.standing t = .answered p) :
    p.id? ≠ none ∧ ∃ (k : Nat) (g : Handing), events[k]? = some (.taken p (some t)) ∧
      events[request k]? = some (.handed g) ∧ g.ticket = t := by
  obtain ⟨hid, k, hk⟩ := h.told.answered t p hanswered
  refine ⟨hid, ?_⟩
  obtain ⟨id, hid⟩ := Option.ne_none_iff_exists'.mp hid
  obtain ⟨g, hg, -, hreached | ⟨hnone, -⟩⟩ := h.orderly.reached honce hk hid
  · exact ⟨k, g, hk, hg, (Option.some.inj hreached).symm⟩
  · cases hnone

/-- Replies of a far end that answers each request at most once are for the requests that they
answer. -/
theorem matched (h : x.InOrder (fun _ => True) unsent events) (honce : AnswersOnce events request) :
    x.Matched events request where
  replies k p reached id hk hid := by
    obtain ⟨g, hg, hgid, hreached⟩ := h.orderly.reached honce hk hid
    refine ⟨g, hg, hgid, ?_⟩
    rcases hreached with rfl | ⟨rfl, hfailed⟩
    · exact .inl ⟨rfl, h.told.reached k p g.ticket hk⟩
    · refine .inr ⟨rfl, ?_⟩
      cases hstanding : x.standing g.ticket with
      | waiting =>
        -- nobody waits after a failure
        have hmem := h.tabled g (List.mem_of_getElem? hg) trivial hstanding
        rw [h.coherent.emptied hfailed] at hmem
        cases hmem
      | abandoned => exact .inl rfl
      | lost m => exact .inr ⟨m, rfl⟩
      | answered q =>
        -- the answer would be a second reply to the request
        obtain ⟨hqid, k', g', hk', hg', hticket⟩ := h.exists_reply_of_answered honce hstanding
        have hsame : request k = request k' := h.orderly.tickets _ _ g g' hg hg' hticket.symm
        have hposition : k = k' :=
          honce.once k k' p q none (some g.ticket) hk hk' (by rw [hid]; exact nofun) hqid hsame
        rw [← hposition, hk] at hk'
        cases hk'
  answers t p hanswered := (h.exists_reply_of_answered honce hanswered).2

end InOrder

end Exchange

/-- Operations that do not overlap use an id again only when a packet with it has been taken. -/
theorem Link.keptApart_history {σ : Type} {l : Link σ} (hl : l.Fresh) (hpeer : ¬ l.line.peer.Lossy)
    (ops : List (Op σ)) (id : Int) : KeptApart id (l.history ops).events := by
  have htraffic := l.traffic_ops ops
  have hearly : (l.traffic (ops.map .op)).early = [] := by rw [htraffic]
  have hordered := Traffic.ordered_run hl hpeer (ops.map .op) (Traffic.spares_of_early hearly fun _ => True)
  rw [htraffic] at hordered
  exact hordered.inOrder.orderly.apart id trivial

/-- **Replies reach their requests.** In any run of operations and parts of submissions, in any order, on a fresh link
whose stream never says itself that the connection is lost:

* what went out is the frames that were handed over and that the stream took, each was made for the id allotted to it,
  and no ticket has two frames;
* if no packet reached a request with some id while its frame was still to be handed over, then between two frames
  with the id a packet with it was taken, even if the first request was given up;
* if the far end answered each request at most once, no packet came so early, and every reply that was taken
  reached the request that it answers and no other, however late it came: it answered that request, or was discarded
  because the request had been given up or lost. -/
theorem Link.replies_reach_their_requests {σ : Type} {l : Link σ} (hl : l.Fresh)
    (hpeer : ¬ l.line.peer.Lossy) (turns : List (Traffic.Turn σ)) :
    (l.Conveys (l.traffic turns).events (l.traffic turns).link ∧
      (∀ g, .handed g ∈ (l.traffic turns).events → g.Made) ∧ TicketsApart (l.traffic turns).events) ∧
    (∀ id : Int, (∀ e ∈ (l.traffic turns).early, e.1 ≠ id) → KeptApart id (l.traffic turns).events) ∧
    ∀ request, AnswersOnce (l.traffic turns).events request →
      (l.traffic turns).early = [] ∧ (∀ id, KeptApart id (l.traffic turns).events) ∧
        (l.traffic turns).link.exchange.Matched (l.traffic turns).events request := by
  have hnobody : (l.traffic turns).Spares fun _ => False := fun _ _ => id
  have htickets := (Traffic.ordered_run hl hpeer turns hnobody).inOrder.orderly.tickets
  refine ⟨⟨Traffic.conveys_run l turns, fun g hg => (Traffic.parcel_of_handed l turns hg).made, htickets⟩,
    fun id hid => ?_, fun request honce => ?_⟩
  · have hspares : (l.traffic turns).Spares (· = id) := hid
    exact (Traffic.ordered_run hl hpeer turns hspares).inOrder.orderly.apart id rfl
  · have hearly := Traffic.early_of_answersOnce hl hpeer turns honce
    have hordered := Traffic.ordered_run hl hpeer turns (Traffic.spares_of_early hearly fun _ => True)
    exact ⟨hearly, fun id => hordered.inOrder.orderly.apart id trivial, hordered.inOrder.matched honce⟩

namespace Link

/-- The quiet stream never says that the connection is lost. -/
theorem not_lossy_quietLink : ¬ quietLink.line.peer.Lossy := by
  rintro (⟨bytes, s, f, hwrite, -⟩ | ⟨step, s, f, hflush, -⟩)
  · cases hwrite
  · cases hflush

/-- A reply that says that all is well. -/
def wellReply (id : Nat) : Packet :=
  .message id (.status 0 Text.empty Text.empty)

/-- The frame of that reply. -/
def wellFrame (id : Nat) : Bytes :=
  bigEndian 4 17 ++ (101 :: bigEndian 4 id) ++ List.replicate 12 0

/-- The frame of a request to release a handle of one byte. -/
def closing (id : Nat) (t : Ticket) (handle : UInt8) : Handing where
  id
  ticket := t
  packet := .message id (.close [handle])
  frame := bigEndian 4 10 ++ (4 :: bigEndian 4 id) ++ (bigEndian 4 1 ++ [handle])
  accepted := true

/-- Two submissions that overlap, the second of which hands its frame over first. The first request is given up, a
third one is entered after the counter was moved back, and the late reply comes while it is being made. Then the id of
the first is used again. -/
def lateReply : List (Traffic.Turn Unit) :=
  [.op .start, .enter (.ofMessage (.close [1])), .enter (.ofMessage (.close [2])), .proceed 1, .proceed 0,
    .proceed 1, .proceed 0, .proceed 1, .proceed 0, .op (.abandon 0), .op (.moveCounter 0xFFFFFFFF),
    .enter (.ofMessage (.close [3])), .op (.receive [.chunk (wellFrame 0xFFFFFFFF)]),
    .op (.moveCounter 0x1FFFFFFFF), .op (.submit (.ofMessage (.close [4]))),
    .op (.receive [.chunk (wellFrame 0xFFFFFFFF)])]

/-- What happens in this run. -/
theorem events_lateReply : (quietLink.traffic lateReply).events =
    [.handed (closing 0 1 2), .handed (closing 0xFFFFFFFF 0 1),
      .taken (wellReply 0xFFFFFFFF) (some 0), .handed (closing 0xFFFFFFFF 3 4),
      .taken (wellReply 0xFFFFFFFF) (some 3)] := by
  decide +kernel

/-- The first reply answers the first request and the second reply the last, each the frame before it. -/
theorem answersOnce_lateReply : AnswersOnce (quietLink.traffic lateReply).events fun k => k - 1 := by
  have htaken : ∀ {k : Nat} {p : Packet} {reached : Option Ticket},
      (quietLink.traffic lateReply).events[k]? = some (.taken p reached) →
      (k = 2 ∨ k = 4) ∧ p = wellReply 0xFFFFFFFF := by
    intro k p reached hk
    rw [events_lateReply] at hk
    rcases k with _ | _ | _ | _ | _ | k
    · cases hk
    · cases hk
    · cases hk
      exact ⟨.inl rfl, rfl⟩
    · cases hk
    · cases hk
      exact ⟨.inr rfl, rfl⟩
    · cases hk
  constructor
  · intro k p reached id hk hid
    obtain ⟨hposition, rfl⟩ := htaken hk
    rw [events_lateReply]
    obtain rfl := Option.some.inj hid
    rcases hposition with rfl | rfl
    · exact ⟨by decide, closing 0xFFFFFFFF 0 1, rfl, rfl⟩
    · exact ⟨by decide, closing 0xFFFFFFFF 3 4, rfl, rfl⟩
  · intro k k' p p' reached reached' hk hk' _ _ hsame
    obtain ⟨hposition, -⟩ := htaken hk
    obtain ⟨hposition', -⟩ := htaken hk'
    omega

/-- The late reply is discarded for the request that was given up, and the last request, which has the same id, is
answered by its own. -/
theorem replies_reach_their_requests_lateReply :
    quietLink.Fresh ∧ (¬ quietLink.line.peer.Lossy) ∧
      AnswersOnce (quietLink.traffic lateReply).events (fun k => k - 1) ∧
      KeptApart 0xFFFFFFFF (quietLink.traffic lateReply).events ∧
      (quietLink.traffic lateReply).link.exchange.Matched (quietLink.traffic lateReply).events (fun k => k - 1) ∧
      (quietLink.traffic lateReply).link.exchange.standing 0 = .abandoned ∧
      (quietLink.traffic lateReply).link.exchange.standing 3 = .answered (wellReply 0xFFFFFFFF) := by
  obtain ⟨-, -, hmatched⟩ :=
    replies_reach_their_requests fresh_quietLink not_lossy_quietLink lateReply
  obtain ⟨-, hapart, hmatched⟩ := hmatched _ answersOnce_lateReply
  refine ⟨fresh_quietLink, not_lossy_quietLink, answersOnce_lateReply, hapart _, hmatched, ?_, ?_⟩
  · decide +kernel
  · decide +kernel

/-- A reply that comes while the packet of its request is being made, and another request for which the counter was
moved back. -/
def earlyReply : List (Traffic.Turn Unit) :=
  [.op .start, .enter (.ofMessage (.close [1])), .op (.receive [.chunk (wellFrame 0xFFFFFFFF)]),
    .proceed 0, .proceed 0, .proceed 0, .op (.moveCounter 0xFFFFFFFF),
    .op (.submit (.ofMessage (.close [2])))]

/-- Two requests, and a reply to the first that is longer than a frame may be. -/
def longReply : List (Traffic.Turn Unit) :=
  [.op .start, .op (.submit (.ofMessage (.close [1]))), .op (.submit (.ofMessage (.close [2]))),
    .op (.receive [.chunk (wellFrame 0xFFFFFFFF)])]

/-- A link like the quiet one on which a frame has no more than sixteen bytes. -/
def narrowLink : Link Unit :=
  { quietLink with exchange := { quietLink.exchange with limit := 16 } }

/-- A packet that comes too early frees the id of a request whose frame is still to be handed over, and two frames with
the id go out with nothing in between. A reply that is longer than a frame may be is not taken, and the request that
it answers is lost together with another. -/
theorem replies_reach_their_requests_unless :
    (quietLink.Fresh ∧ (¬ quietLink.line.peer.Lossy) ∧
      (quietLink.traffic earlyReply).events =
        [.taken (wellReply 0xFFFFFFFF) (some 0), .handed (closing 0xFFFFFFFF 0 1),
          .handed (closing 0xFFFFFFFF 1 2)] ∧
      ¬ KeptApart 0xFFFFFFFF (quietLink.traffic earlyReply).events) ∧
    narrowLink.Fresh ∧ (¬ narrowLink.line.peer.Lossy) ∧
      (narrowLink.traffic longReply).events =
        [.handed (closing 0xFFFFFFFF 0 1), .handed (closing 0 1 2)] ∧
      Packet.ofBody ((wellFrame 0xFFFFFFFF).drop 4) = .ok (wellReply 0xFFFFFFFF) ∧
      (narrowLink.traffic longReply).link.exchange.standing 0 =
        .lost "connection lost: sftp: frame of 17 bytes exceeds limit of 16 (SSH_FX_BAD_MESSAGE)" ∧
      (narrowLink.traffic longReply).link.exchange.standing 1 =
        .lost "connection lost: sftp: frame of 17 bytes exceeds limit of 16 (SSH_FX_BAD_MESSAGE)" := by
  have hevents : (quietLink.traffic earlyReply).events =
      [.taken (wellReply 0xFFFFFFFF) (some 0), .handed (closing 0xFFFFFFFF 0 1),
        .handed (closing 0xFFFFFFFF 1 2)] := by decide +kernel
  refine ⟨⟨fresh_quietLink, not_lossy_quietLink, hevents, fun hapart => ?_⟩, ⟨rfl, rfl, rfl, rfl⟩,
    not_lossy_quietLink, by decide +kernel, by decide +kernel, by decide +kernel, by decide +kernel⟩
  rw [hevents] at hapart
  obtain ⟨k, p, reached, hafter, hbefore, -⟩ := hapart 1 2 _ _ rfl rfl (by decide) rfl rfl
  omega

end Link

end Sftp
