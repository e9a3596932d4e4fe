import Sftp.OpenHandle
import Sftp.Proofs.Link.History
import Sftp.Proofs.Wire.Layout

/-!
# The requests of a step

All that a step on an open object does to the client is to make requests. What goes out over the stream
are frames of these requests, so which frames go out can be read off the requests.

* `Client.asked` — a client after requests; `Carried` — frames for some of the requests, in order;
  **`Client.sent_asked`** — what goes out for requests are frames for some of them.
* `Bytes.isRelease` — the frames that release a handle; `Carried.countP_isRelease` — there are no more of
  them than requests to release.
* `Held.Spares` — a step that does nothing to the client but make requests, none of them to release, and
  leaves the handle as it is; it is closed under the ways in which steps are put together.
-/

namespace Sftp

/-! ## Frames for requests -/

/-- Frames for some of the messages, in order. The others did not get as far as the stream, or the
stream did not take them. -/
inductive Carried : List Message → List Bytes → Prop
  /-- No messages. -/
  | none : Carried [] []
  /-- There is a frame for the message. -/
  | sent {m : Message} {ms : List Message} {id : Int} {frame : Bytes} {frames : List Bytes}
      (hencode : (Packet.message id m).encode = .ok frame) (h : Carried ms frames) :
      Carried (m :: ms) (frame :: frames)
  /-- There is none. -/
  | unsent {m : Message} {ms : List Message} {frames : List Bytes} (h : Carried ms frames) :
      Carried (m :: ms) frames

namespace Carried

variable {ms others : List Message} {frames rest : List Bytes}

/-- Frames for messages and then for others. -/
theorem append (h : Carried ms frames) (h' : Carried others rest) :
    Carried (ms ++ others) (frames ++ rest) := by
  induction h with
  | none => exact h'
  | sent hencode _ ih => exact .sent hencode ih
  | unsent _ ih => exact .unsent ih

/-- Every frame is that of one of the messages. -/
theorem exists_of_mem (h : Carried ms frames) {frame : Bytes} (hframe : frame ∈ frames) :
    ∃ m ∈ ms, ∃ id, (Packet.message id m).encode = .ok frame := by
  induction h with
  | none => cases hframe
  | sent hencode _ ih =>
    rcases List.mem_cons.mp hframe with rfl | hframe
    · exact ⟨_, List.mem_cons_self, _, hencode⟩
    · obtain ⟨m, hm, hid⟩ := ih hframe
      exact ⟨m, List.mem_cons_of_mem _ hm, hid⟩
  | unsent _ ih =>
    obtain ⟨m, hm, hid⟩ := ih hframe
    exact ⟨m, List.mem_cons_of_mem _ hm, hid⟩

end Carried

/-! ## Releasing -/

/-- Whether a message asks to release a handle. -/
def Message.isRelease (m : Message) : Bool :=
  m.kind = .close

/-- Whether a frame asks to release a handle: the tag stands after the four bytes of the length. -/
def Bytes.isRelease (frame : Bytes) : Bool :=
  frame[4]? = some (UInt8.ofNat PacketKind.close.tag)

/-- Kinds with the same byte are the same. -/
theorem PacketKind.ofNat_tag_inj {k k' : PacketKind} :
    UInt8.ofNat k.tag = UInt8.ofNat k'.tag ↔ k = k' := by
  constructor
  · intro h
    have hmod := congrArg UInt8.toNat h
    rw [UInt8.toNat_ofNat', UInt8.toNat_ofNat', Nat.mod_eq_of_lt k.tag_lt,
      Nat.mod_eq_of_lt k'.tag_lt] at hmod
    exact Option.some.inj ((ofTag?_tag k).symm.trans (hmod ▸ ofTag?_tag k'))
  · rintro rfl
    rfl

/-- The frame of a packet shows its kind. -/
theorem Packet.tag_of_encode {p : Packet} {frame : Bytes} (h : p.encode = .ok frame) :
    frame[4]? = some (UInt8.ofNat p.kind.tag) := by
  obtain ⟨length, others, rfl, -⟩ := frame_of_encode h
  have hlength : (bigEndian 4 length).length ≤ 4 := Nat.le_of_eq (length_bigEndian 4 length)
  rw [List.getElem?_append_right hlength, length_bigEndian]
  show some (UInt8.ofNat (p.kind.tag % 256)) = _
  rw [Nat.mod_eq_of_lt p.kind.tag_lt]

/-- The frame of a message releases a handle exactly if the message does. -/
theorem Packet.isRelease_of_encode {id : Int} {m : Message} {frame : Bytes}
    (h : (message id m).encode = .ok frame) : frame.isRelease = m.isRelease := by
  unfold Bytes.isRelease Message.isRelease
  rw [tag_of_encode h, decide_eq_decide, Option.some_inj, PacketKind.ofNat_tag_inj]
  rfl

/-- There are no more frames to release than messages to. -/
theorem Carried.countP_isRelease {ms : List Message} {frames : List Bytes} (h : Carried ms frames) :
    frames.countP Bytes.isRelease ≤ ms.countP Message.isRelease := by
  induction h with
  | none => exact Nat.le_refl _
  | sent hencode _ ih =>
    rw [List.countP_cons, List.countP_cons, Packet.isRelease_of_encode hencode]
    exact Nat.add_le_add_right ih _
  | unsent _ ih =>
    rw [List.countP_cons]
    exact Nat.le_add_right_of_le ih

/-! ## Requests of a client -/

/-- What is handed over for a message is a frame of it. -/
theorem Link.packet_of_handing {σ : Type} {l : Link σ} {m : Message} {h : Handing}
    (hhanding : l.handing? (.ofMessage m) = some h) : h.packet = .message h.id m := by
  unfold handing? Request.ofMessage at hhanding
  split at hhanding
  · split at hhanding
    · cases hhanding
    · rename_i hbuild
      obtain rfl := Except.ok.inj hbuild
      split at hhanding
      · cases hhanding
      · obtain rfl := Option.some.inj hhanding
        rfl
  · cases hhanding

/-- While a reply is waited for, nothing is sent. -/
theorem Link.filterMap_sent_awaitEvents {σ : Type} (t : Ticket) (l : Link σ) :
    (l.awaitEvents t).filterMap Event.sent? = [] := by
  unfold awaitEvents
  split
  · exact filterMap_sent_takings _ _
  · rfl

/-- A submission of a message sends its frame, or nothing. -/
theorem Link.carried_submitEvents {σ : Type} (m : Message) (l : Link σ) :
    Carried [m] ((l.submitEvents (.ofMessage m)).filterMap Event.sent?) := by
  cases hhanding : l.handing? (.ofMessage m) with
  | none =>
    rw [submitEvents_of_none hhanding]
    exact .unsent .none
  | some h =>
    obtain ⟨-, -, -, hencode, -⟩ := handing?_eq_some hhanding
    rw [packet_of_handing hhanding] at hencode
    rw [submitEvents_of_some hhanding, List.filterMap_append, filterMap_sent_takenBack,
      List.append_nil, List.filterMap_cons, restEvents, filterMap_sent_takings, Event.sent?]
    cases h.accepted with
    | true => exact .sent hencode .none
    | false => exact .unsent .none

/-- For a message its frame is sent, or nothing. -/
theorem Link.carried_sendEvents {σ : Type} (m : Message) (l : Link σ) :
    Carried [m] ((l.sendEvents (.ofMessage m)).filterMap Event.sent?) := by
  have hwaiting : (l.sendEvents (.ofMessage m)).filterMap Event.sent? =
      (l.submitEvents (.ofMessage m)).filterMap Event.sent? := by
    rw [sendEvents, List.filterMap_append]
    split
    · rw [filterMap_sent_awaitEvents, List.append_nil]
    · rw [List.filterMap_nil, List.append_nil]
  rw [hwaiting]
  exact carried_submitEvents m l

namespace Client

variable {σ : Type}

/-- The frames that have gone out. -/
def sent (c : Client σ) : List Bytes :=
  c.link.line.sent.toList

/-- A client after requests, one after another. -/
def asked (c : Client σ) (ms : List Message) : Client σ :=
  ms.foldl (fun c m => ((request m).run c).2) c

/-- Requests after requests. -/
theorem asked_append (c : Client σ) (ms others : List Message) :
    c.asked (ms ++ others) = (c.asked ms).asked others :=
  List.foldl_append

/-- What goes out for a request is its frame, or nothing. -/
theorem sent_request (c : Client σ) (m : Message) :
    ∃ frames, Carried [m] frames ∧ ((request m).run c).2.sent = c.sent ++ frames := by
  cases hsession : c.session with
  | none =>
    refine ⟨[], .unsent .none, ?_⟩
    unfold request
    rw [Step.run_bind, run_currentSession, hsession, List.append_nil]
  | some session =>
    rw [run_request hsession, run_onLink]
    exact ⟨_, Link.carried_sendEvents m c.link, (Link.acts_send (.ofMessage m) c.link).sent⟩

/-- **What goes out for requests are frames for some of them**, in order. -/
theorem sent_asked (c : Client σ) (ms : List Message) :
    ∃ frames, Carried ms frames ∧ (c.asked ms).sent = c.sent ++ frames := by
  induction ms generalizing c with
  | nil => exact ⟨[], .none, (List.append_nil _).symm⟩
  | cons m ms ih =>
    obtain ⟨first, hfirst, hsent⟩ := sent_request c m
    obtain ⟨frames, hframes, hsent'⟩ := ih ((request m).run c).2
    refine ⟨first ++ frames, hfirst.append hframes, ?_⟩
    show ((((request m).run c).2).asked ms).sent = _
    rw [hsent', hsent, List.append_assoc]

/-- Asking does to the client what the request does. -/
theorem state_ask {α : Type} (m : Message) (read : Packet → Except Fault α) (c : Client σ) :
    ((ask m read).run c).2 = c.asked [m] := by
  rw [run_ask]
  show _ = ((request m).run c).2
  rcases (request m).run c with ⟨f | reply, c'⟩
  · rfl
  · rfl

end Client

/-! ## Steps on an open object -/

namespace Held

variable {ρ σ α β : Type} [OwnsHandle ρ]

/-- From one state to another the handle stayed as it was, and the client made requests, none of them to
release a handle. -/
structure Spared (h h' : Held ρ σ) : Prop where
  /-- The handle is as it was. -/
  base : OwnsHandle.base h'.object = OwnsHandle.base h.object
  /-- The client made requests. -/
  asked : ∃ ms, ms.countP Message.isRelease = 0 ∧ h'.client = h.client.asked ms

namespace Spared

variable {h h' h'' : Held ρ σ}

/-- Nothing happened. -/
theorem refl (h : Held ρ σ) : h.Spared h :=
  ⟨rfl, [], rfl, rfl⟩

/-- One after the other. -/
theorem trans (hfirst : h.Spared h') (hnext : h'.Spared h'') : h.Spared h'' := by
  obtain ⟨hbase, ms, hms, hclient⟩ := hfirst
  obtain ⟨hbase', others, hothers, hclient'⟩ := hnext
  refine ⟨hbase'.trans hbase, ms ++ others, ?_, ?_⟩
  · rw [List.countP_append, hms, hothers]
  · rw [hclient', hclient, Client.asked_append]

end Spared

/-- **A step that spares the handle**, whatever state it is taken from. -/
def Spares (a : Step (Held ρ σ) α) : Prop :=
  ∀ h : Held ρ σ, h.Spared (a.run h).2

/-- Giving a result. -/
theorem spares_pure (a : α) : Spares (pure a : Step (Held ρ σ) α) :=
  Spared.refl

/-- Faulting. -/
theorem spares_throw (f : Fault) : Spares (throw f : Step (Held ρ σ) α) :=
  Spared.refl

/-- Looking at the state. -/
theorem spares_get : Spares (get : Step (Held ρ σ) (Held ρ σ)) :=
  Spared.refl

/-- Looking at the object. -/
theorem spares_current : Spares (current : Step (Held ρ σ) ρ) :=
  Spared.refl

/-- Giving a result or faulting. -/
theorem spares_ofExcept (r : Except Fault α) : Spares (Step.ofExcept r : Step (Held ρ σ) α) :=
  Spared.refl

/-- Changing something else about the object. -/
theorem spares_update {f : ρ → ρ} (hf : ∀ o, OwnsHandle.base (f o) = OwnsHandle.base o) :
    Spares (update f : Step (Held ρ σ) Unit) :=
  fun h => ⟨hf h.object, [], rfl, rfl⟩

/-- One step after another. -/
theorem Spares.bind {a : Step (Held ρ σ) α} {k : α → Step (Held ρ σ) β} (ha : Spares a)
    (hk : ∀ x, Spares (k x)) : Spares (a >>= k) := by
  intro h
  have hfirst : h.Spared (a.run h).2 := ha h
  rw [Step.run_bind]
  rcases hrun : a.run h with ⟨f | x, h'⟩
  all_goals rw [hrun] at hfirst
  · exact hfirst
  · exact hfirst.trans (hk x h')

/-- A step of whose result something is made. -/
theorem Spares.map {a : Step (Held ρ σ) α} (ha : Spares a) (f : α → β) : Spares (f <$> a) := by
  intro h
  rw [Step.run_map]
  exact ha h

/-- A step whose fault is a result. -/
theorem Spares.attempt {a : Step (Held ρ σ) α} (ha : Spares a) : Spares a.attempt :=
  ha

/-- A request that does not release. -/
theorem spares_ask {m : Message} (hm : m.isRelease = false) (read : Packet → Except Fault α) :
    Spares (onClient (Client.ask m read) : Step (Held ρ σ) α) := by
  intro h
  refine ⟨rfl, [m], ?_, Client.state_ask m read h.client⟩
  rw [List.countP_singleton, hm]
  rfl

/-- Asking whether the handle was released. -/
theorem spares_ensureOpen : Spares (ensureOpen : Step (Held ρ σ) Unit) := by
  apply spares_current.bind
  intro object
  simp only
  split
  · exact spares_throw _
  · exact spares_pure _

end Held

end Sftp
