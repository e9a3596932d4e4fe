import Sftp.Proofs.OpenHandle.Requests
import Sftp.Proofs.Link.Answer
import Sftp.Proofs.Wire.NormalForm
import Sftp.Proofs.Wire.Encoded

/-!
# Conversations

A client asks and the far end of its stream answers, one request at a time. What the far end does is its
own affair; it is enough to say of each of its states what it answers and to what kind of state it goes.

* `Bytes.Brief` — the body of a reply, within a limit.
* `Peer.Answers` — what the far end answers in a state, and what state it is in afterwards.
* `Client.Sends` — what goes out for requests: one frame for each.
* `Client.Facing` — a client that is ready for a request to a far end in a state of some sort.
* **`Client.Facing.run_request`** — a request that is answered.
-/

namespace Sftp

/-- The body of a reply, within a limit. -/
structure Bytes.Brief (body : Bytes) (limit : Int) (id : Int) (reply : Message) : Prop where
  /-- It is that of the reply. -/
  reads : Packet.ofBody body = .ok (.message id reply)
  /-- It is not too long. -/
  within : (body.length : Int) ≤ limit

/-! ## Answers -/

section answers

variable {σ : Type}

/-- In a state, the far end takes the frame of a message, whatever the id, and answers with the frame of a
reply of some sort that has the same id and is within a limit, in chunks of any sizes; a flush does not
fail, and then the far end is in a state of some sort. -/
def Peer.Answers (peer : Peer σ) (limit : Int) (m : Message) (sort : Message → Prop) (after : σ → Prop)
    (state : σ) : Prop :=
  ∀ id frame, (Packet.message id m).encode = .ok frame →
    ∃ arrivals taken body reply, peer.write frame state = (.ok arrivals, taken) ∧
      Arrival.Carry arrivals body ∧ body.Brief limit id reply ∧ sort reply ∧
      (peer.flushed taken).1 = none ∧ after (peer.flushed taken).2

/-- Whether a message has a frame does not depend on the id. -/
theorem Packet.IsEncodable.of_id {id id' : Int} {m : Message} (h : (message id m).IsEncodable)
    (hid : Width.word.Fits id') : (message id' m).IsEncodable := by
  obtain ⟨-, hfields, hlength⟩ := isEncodable_message_iff.mp h
  rw [length_layout_message] at hlength
  exact isEncodable_message_iff.mpr ⟨hid, hfields, by rwa [length_layout_message]⟩

/-- A body with a handle is nine bytes longer than the handle. -/
theorem Bytes.Brief.length_handle {body handle : Bytes} {limit id : Int}
    (h : body.Brief limit id (.handle handle)) : 9 + handle.length ≤ body.length := by
  obtain ⟨taken, hbody, hread⟩ := Reader.yields_packet body _ _ (Prod.ext h.reads rfl)
  have hlength : (Packet.message id (.handle handle)).layout.length ≤ taken.length := hread.length
  rw [Packet.length_layout_message] at hlength
  rw [hbody, List.length_append]
  simp only [Message.bytes, Message.fields, List.flatMap_cons, List.flatMap_nil, Field.bytes,
    PlainField.bytes, List.length_append, length_bigEndian, List.length_nil] at hlength
  omega

end answers

/-! ## Frames -/

/-- A frame is one of the message, under some id. -/
def Message.HasFrame (m : Message) (frame : Bytes) : Prop :=
  ∃ id, (Packet.message id m).encode = .ok frame

namespace Client

variable {σ : Type}

/-- From one state of a client to another, what went out is one frame for each message, in order. -/
def Sends (c : Client σ) (ms : List Message) (c' : Client σ) : Prop :=
  ∃ frames, List.Forall₂ Message.HasFrame ms frames ∧ c'.sent = c.sent ++ frames

namespace Sends

variable {c c' c'' : Client σ} {ms others : List Message}

/-- Nothing goes out. -/
theorem refl (c : Client σ) : c.Sends [] c :=
  ⟨[], .nil, (List.append_nil _).symm⟩

/-- What goes out one after the other. -/
theorem trans (h : c.Sends ms c') (h' : c'.Sends others c'') : c.Sends (ms ++ others) c'' := by
  obtain ⟨frames, hframes, hsent⟩ := h
  obtain ⟨rest, hrest, hsent'⟩ := h'
  exact ⟨frames ++ rest, List.rel_append hframes hrest, by rw [hsent', hsent, List.append_assoc]⟩

end Sends

/-! ## Requests that are answered -/

/-- A client that has a session and is ready for a request, on a stream whose far end is in a state of
some sort. -/
structure Facing (peer : Peer σ) (limit : Int) (patience : Nat) (inState : σ → Prop) (c : Client σ) :
    Prop where
  /-- There is a session. -/
  session : c.session ≠ none
  /-- Its link is ready. -/
  ready : c.link.Ready
  /-- This is the far end. -/
  peer : c.link.line.peer = peer
  /-- Frames up to the limit are taken. -/
  limit : c.link.exchange.limit = limit
  /-- A call may take so many round trips. -/
  patience : c.patience = patience
  /-- The far end is in such a state. -/
  state : inState c.link.line.state

namespace Facing

variable {peer : Peer σ} {limit : Int} {patience : Nat} {inState after : σ → Prop} {c : Client σ}
  {m : Message} {sort : Message → Prop}

/-- A state of one sort may be of another. -/
theorem imp (hc : Facing peer limit patience inState c) (h : ∀ s, inState s → after s) :
    Facing peer limit patience after c :=
  { hc with state := h _ hc.state }

/-- **A request that is answered.** One frame goes out, the reply comes back, and the client is ready for
the next request. -/
theorem run_request (hc : Facing peer limit patience (peer.Answers limit m sort after) c)
    (hencodable : (Packet.message 0 m).IsEncodable) :
    ∃ id reply c', (request m).run c = (.ok (.message id reply), c') ∧ sort reply ∧
      Facing peer limit patience after c' ∧ c.Sends [m] c' ∧ c'.settings = c.settings := by
  obtain ⟨session, hsession⟩ := Option.ne_none_iff_exists'.mp hc.session
  obtain ⟨id, hid⟩ := Exchange.exists_nextId hc.ready.room
  obtain ⟨frame, hframe⟩ := hencodable.of_id (Exchange.nextId_range hid)
  obtain ⟨arrivals, taken, body, reply, hwrite, hcarry, hbrief, hsort, hflush, hafter⟩ :=
    hc.state id frame hframe
  have hwithin : (body.length : Int) ≤ c.link.exchange.limit := by
    rw [hc.limit]
    exact hbrief.within
  rw [← hc.peer] at hwrite hflush hafter
  obtain ⟨l, hrun, hserved⟩ :=
    hc.ready.run_send hid hframe hwrite hcarry hwithin hbrief.reads hflush
  refine ⟨id, reply, { c with link := l }, ?_, hsort, ?_, ⟨[frame], ?_, ?_⟩, rfl⟩
  · rw [Client.run_request hsession, run_onLink, hrun]
  · refine ⟨hc.session, hserved.ready, hserved.peer.trans hc.peer, hserved.limit.trans hc.limit,
      hc.patience, ?_⟩
    rw [hserved.state]
    exact hafter
  · exact .cons ⟨id, hframe⟩ .nil
  · show l.line.sent.toList = _
    rw [hserved.sent, Array.toList_push]
    rfl

/-- Asking is reading the reply. -/
theorem run_ask {α : Type} (hc : Facing peer limit patience (peer.Answers limit m sort after) c)
    (hencodable : (Packet.message 0 m).IsEncodable) (read : Packet → Except Fault α) :
    ∃ id reply c', (ask m read).run c = (read (.message id reply), c') ∧ sort reply ∧
      Facing peer limit patience after c' ∧ c.Sends [m] c' := by
  obtain ⟨id, reply, c', hrun, hsort, hc', hsends, -⟩ := hc.run_request hencodable
  refine ⟨id, reply, c', ?_, hsort, hc', hsends⟩
  rw [Client.run_ask, hrun]

/-- The handle of a reply leaves room in a frame. -/
theorem length_handle {handle : Bytes}
    (hc : Facing peer limit patience (peer.Answers limit m (· = .handle handle) after) c)
    (hencodable : (Packet.message 0 m).IsEncodable) : 9 + handle.length < Width.word.limit := by
  obtain ⟨frame, hframe⟩ := hencodable
  obtain ⟨arrivals, taken, body, reply, -, hcarry, hbrief, rfl, -⟩ := hc.state 0 frame hframe
  exact Nat.lt_of_le_of_lt hbrief.length_handle hcarry.announced.1

end Facing

end Client

end Sftp
