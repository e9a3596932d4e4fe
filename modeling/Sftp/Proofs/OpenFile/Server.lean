import Sftp.Proofs.Client.Conversation
import Sftp.Proofs.OpenFile.MemoryFile
import Sftp.Proofs.OpenFile.Writing

/-!
# Clients of a file server

A file server keeps the bytes of a file and answers requests about it. What it does at its end of the
stream is its own affair, as long as its replies say what the bytes are.

* `FileServer` — a far end, one of its handles, and the bytes that it keeps under it.
* `FileServer.Answers` — the server takes a frame and answers with another.
* `FileServer.Honest` — every request about the handle is answered as the bytes say. A read brings any
  number of bytes that was asked for, at least one, or the end of the file.
* `FileServer.short` — a server that reads frames and brings few bytes at once;
  **`FileServer.short_honest`** — it is honest.
* `Client.Served` — a client that is ready for requests to such a server.
* **`Client.Served.run_request`** — a request that the server answers.
* `Client.Served.run_readChunk`, `Client.Served.run_writeChunk`, `Client.Served.run_handleAttributes`,
  `Client.Served.run_resize` — the four requests about an open file.
-/

namespace Sftp

open MemoryFile

/-! ## Servers -/

/-- A far end that keeps the bytes of a file. -/
structure FileServer (σ : Type) where
  /-- The far end. -/
  peer : Peer σ
  /-- Its name for the file. -/
  handle : Bytes
  /-- The bytes that it keeps, in each of its states. -/
  content : σ → Bytes

namespace FileServer

variable {σ : Type}

/-- In a state, the server takes a frame and answers with one that has a body, in chunks of any sizes; a
flush does not fail, and then the server keeps the given content. -/
def Answers (server : FileServer σ) (frame : Bytes) (state : σ) (body content : Bytes) : Prop :=
  ∃ arrivals taken, server.peer.write frame state = (.ok arrivals, taken) ∧
    Arrival.Carry arrivals body ∧ (server.peer.flushed taken).1 = none ∧
    server.content (server.peer.flushed taken).2 = content

/-- A reply with data is one, and within the limit if its data leave room for the nine bytes before
them. -/
theorem Answers.brief_data {server : FileServer σ} {frame data content : Bytes} {state : σ} {id : Int}
    {limit : Int}
    (h : server.Answers frame state (Packet.message id (.data data)).layout content)
    (hid : Width.word.Fits id) (hlimit : (data.length + 9 : Int) ≤ limit) :
    (Packet.message id (.data data)).layout.Brief limit id (.data data) := by
  obtain ⟨arrivals, taken, -, hcarry, -⟩ := h
  have hannounced := hcarry.announced.1
  rw [Packet.length_layout_data] at hannounced
  obtain ⟨frame, hframe⟩ := (Packet.isEncodable_data_iff id data).mpr ⟨hid, hannounced⟩
  constructor
  · exact Packet.ofBody_layout (Packet.encode_eq_ok_iff.mp hframe).1 fun _ ht => nomatch ht
  · rw [Packet.length_layout_data]
    omega

/-- **Servers that answer as the bytes say**, with replies that are within a limit unless they have
data. -/
structure Honest (server : FileServer σ) (limit : Int) : Prop where
  /-- A read before the end brings some of the bytes, at least one and at most as many as were asked
  for. -/
  read : ∀ {id : Int} {offset length : Nat} {frame : Bytes} (state : σ), 0 < length →
    (Packet.message id (.read server.handle offset length)).encode = .ok frame →
    offset < (server.content state).length →
    ∃ k, 0 < k ∧ k ≤ length ∧ server.Answers frame state
      (Packet.message id (.data (((server.content state).drop offset).take k))).layout
      (server.content state)
  /-- A read at the end, or after it, brings the status for that. -/
  readEnd : ∀ {id : Int} {offset length : Nat} {frame : Bytes} (state : σ), 0 < length →
    (Packet.message id (.read server.handle offset length)).encode = .ok frame →
    (server.content state).length ≤ offset →
    ∃ body message lang, server.Answers frame state body (server.content state) ∧
      body.Brief limit id (.status StatusCode.endOfFile.number message lang)
  /-- A write puts the data at their position, after zeros if need be, and is confirmed. -/
  write : ∀ {id : Int} {position : Nat} {data frame : Bytes} (state : σ), data ≠ [] →
    (Packet.message id (.write server.handle position data)).encode = .ok frame →
    ∃ body message lang,
      server.Answers frame state body (overwrite (server.content state) position data) ∧
      body.Brief limit id (.status StatusCode.ok.number message lang)
  /-- The attributes have the number of bytes, if that can be written. -/
  fstat : ∀ {id : Int} {frame : Bytes} (state : σ),
    (Packet.message id (.fstat server.handle)).encode = .ok frame →
    (server.content state).length < Width.long.limit →
    ∃ body attrs, server.Answers frame state body (server.content state) ∧
      body.Brief limit id (.attrs attrs) ∧ attrs.size = some ((server.content state).length : Int)
  /-- A new length cuts the file or fills it up with zeros, and is confirmed. -/
  fsetstat : ∀ {id : Int} {size : Nat} {frame : Bytes} (state : σ),
    (Packet.message id (.fsetstat server.handle { size := some size })).encode = .ok frame →
    ∃ body message lang,
      server.Answers frame state body (resize (server.content state) size) ∧
      body.Brief limit id (.status StatusCode.ok.number message lang)

/-! ### A server with short reads -/

/-- What is answered to a request for an open file, if a reply has at most so many bytes of it, and the
bytes of the file afterwards. -/
def shortReply (most : Nat) (content : Bytes) : Message → Message × Bytes
  | .read _ offset length =>
    if offset.toNat < content.length then
      (.data ((content.drop offset.toNat).take (min most length.toNat)), content)
    else
      (.status StatusCode.endOfFile.number Text.empty Text.empty, content)
  | .write _ position data =>
    (.status StatusCode.ok.number Text.empty Text.empty, overwrite content position.toNat data)
  | .fstat _ => (.attrs { size := some (content.length : Int) }, content)
  | .fsetstat _ attrs =>
    (.status StatusCode.ok.number Text.empty Text.empty,
      resize content (attrs.size.getD content.length).toNat)
  | _ => (.status StatusCode.unsupported.number Text.empty Text.empty, content)

/-- A server that reads frames, and answers each as a function of the bytes says. -/
def replying (reply : Bytes → Message → Message × Bytes) (handle : Bytes) : FileServer Bytes where
  peer := {
    write := fun frame content =>
      match Packet.decode frame with
      | .ok (.message id m) =>
        match (Packet.message id (reply content m).1).encode with
        | .ok answer => (.ok [.chunk answer], (reply content m).2)
        | .error _ => (.ok [], content)
      | _ => (.ok [], content)
    close := fun content => (none, content) }
  handle
  content := id

/-- Its state is the bytes. -/
theorem content_replying (reply : Bytes → Message → Message × Bytes) (handle content : Bytes) :
    (replying reply handle).content content = content :=
  rfl

/-- A server of one file that reads frames and brings at most so many bytes at once. -/
def short (most : Nat) (handle : Bytes) : FileServer Bytes :=
  replying (shortReply most) handle

/-- A request that is read is answered, if its reply can be written. -/
theorem replying_answers (reply : Bytes → Message → Message × Bytes) (handle content : Bytes)
    {frame : Bytes} {id : Int} {m : Message} (hframe : (Packet.message id m).encode = .ok frame)
    (htexts : ∀ t ∈ m.texts, t.ReadsBack)
    (hreply : (Packet.message id (reply content m).1).IsEncodable) :
    (replying reply handle).Answers frame content (Packet.message id (reply content m).1).layout
      (reply content m).2 := by
  obtain ⟨answer, hanswer⟩ := hreply
  obtain ⟨-, hlength, hlayout⟩ := Packet.encode_eq_ok_iff.mp hanswer
  refine ⟨[.chunk answer], (reply content m).2, ?_, ?_, rfl, rfl⟩
  · unfold replying
    simp only
    rw [Packet.decode_frame hframe htexts]
    simp only
    rw [hanswer]
  · rw [hlayout]
    exact Arrival.carry_chunk hlength

/-- Servers answer alike where their replies are the same. -/
theorem answers_of_same (reply reply' : Bytes → Message → Message × Bytes) {handle handle' : Bytes}
    {content body after frame : Bytes} {id : Int} {m : Message}
    (hframe : (Packet.message id m).encode = .ok frame) (htexts : ∀ t ∈ m.texts, t.ReadsBack)
    (hsame : reply' content m = reply content m)
    (h : (replying reply handle).Answers frame content body after) :
    (replying reply' handle').Answers frame content body after := by
  have hwrite : (replying reply' handle').peer.write frame content =
      (replying reply handle).peer.write frame content := by
    unfold replying
    simp only
    rw [Packet.decode_frame hframe htexts]
    simp only
    rw [hsame]
  obtain ⟨arrivals, taken, hrun, hcarry, -, hcontent⟩ := h
  have htaken : taken = after := hcontent
  exact ⟨arrivals, taken, hwrite.trans hrun, hcarry, rfl, htaken⟩

/-- A server with short reads answers so. -/
theorem short_answers (most : Nat) (handle content : Bytes) {frame : Bytes} {id : Int} {m : Message}
    (hframe : (Packet.message id m).encode = .ok frame) (htexts : ∀ t ∈ m.texts, t.ReadsBack)
    (hreply : (Packet.message id (shortReply most content m).1).IsEncodable) :
    (short most handle).Answers frame content
      (Packet.message id (shortReply most content m).1).layout (shortReply most content m).2 :=
  replying_answers (shortReply most) handle content hframe htexts hreply

/-- The replies of the server that have no data. -/
theorem brief_of_plain {id : Int} {reply : Message} {limit : Int} (hid : Width.word.Fits id)
    (hfits : ∀ f ∈ reply.fields, f.Fits) (htexts : ∀ t ∈ reply.texts, t.ReadsBack)
    (hlength : (Packet.message id reply).layout.length = 17) (hlimit : 17 ≤ limit) :
    (Packet.message id reply).IsEncodable ∧
      (Packet.message id reply).layout.Brief limit id reply := by
  have hword : (Packet.message id reply).layout.length < Width.word.limit := by
    rw [hlength]
    decide
  have hencodable := Packet.isEncodable_message_iff.mpr ⟨hid, hfits, hword⟩
  obtain ⟨frame, hframe⟩ := hencodable
  refine ⟨⟨frame, hframe⟩, ?_, ?_⟩
  · exact Packet.ofBody_layout (Packet.encode_eq_ok_iff.mp hframe).1 htexts
  · rw [hlength]
    exact hlimit

/-- A status without text is brief. -/
theorem brief_status {id : Int} {limit : Int} (hid : Width.word.Fits id) (hlimit : 17 ≤ limit)
    (code : StatusCode) :
    (Packet.message id (.status code.number Text.empty Text.empty)).IsEncodable ∧
      (Packet.message id (.status code.number Text.empty Text.empty)).layout.Brief limit id
        (.status code.number Text.empty Text.empty) := by
  have hcode : Width.word.Fits code.number := by
    cases code with
    | _ => decide
  have hempty : Text.empty.ReadsBack := Text.readsBack_ofString ""
  refine brief_of_plain hid ?_ ?_ ?_ hlimit
  · intro f hf
    simp only [Message.fields, List.mem_cons, List.not_mem_nil, or_false] at hf
    rcases hf with rfl | rfl | rfl
    · exact hcode
    · exact ⟨hempty.1, by decide⟩
    · exact ⟨hempty.1, by decide⟩
  · intro t ht
    simp only [Message.texts, List.mem_cons, List.not_mem_nil, or_false, or_self] at ht
    rw [ht]
    exact hempty
  · rw [Packet.layout_message]
    simp only [Message.bytes, Message.fields, List.flatMap_cons, List.flatMap_nil,
      List.length_append, length_bigEndian, Field.bytes, PlainField.bytes, Width.size]
    rfl

/-- **A server with short reads is honest**, however few bytes it brings at once. -/
theorem short_honest {most : Nat} (hmost : 0 < most) (hword : 9 + most < Width.word.limit)
    (handle : Bytes) {limit : Int} (hlimit : 17 ≤ limit) : (short most handle).Honest limit where
  read := by
    intro id offset length frame content hpos hframe hoffset
    obtain ⟨hid, -⟩ := (Packet.isEncodable_read_iff _ _ _ _).mp ⟨frame, hframe⟩
    have hreply : shortReply most content (.read (short most handle).handle offset length) =
        (.data ((content.drop offset).take (min most length)), content) := if_pos hoffset
    have hanswers := short_answers most handle content hframe (fun _ ht => nomatch ht)
    rw [hreply] at hanswers
    refine ⟨min most length, Nat.lt_min.mpr ⟨hmost, hpos⟩, Nat.min_le_right _ _, hanswers ?_⟩
    have hle := List.length_take_le (min most length) (content.drop offset)
    exact (Packet.isEncodable_data_iff _ _).mpr ⟨hid, by omega⟩
  readEnd := by
    intro id offset length frame content hpos hframe hoffset
    obtain ⟨hid, -⟩ := (Packet.isEncodable_read_iff _ _ _ _).mp ⟨frame, hframe⟩
    have hreply : shortReply most content (.read (short most handle).handle offset length) =
        (.status StatusCode.endOfFile.number Text.empty Text.empty, content) :=
      if_neg (Nat.not_lt.mpr hoffset)
    obtain ⟨hencodable, hbrief⟩ := brief_status hid hlimit .endOfFile
    have hanswers := short_answers most handle content hframe (fun _ ht => nomatch ht)
    rw [hreply] at hanswers
    exact ⟨_, Text.empty, Text.empty, hanswers hencodable, hbrief⟩
  write := by
    intro id position data frame content hdata hframe
    obtain ⟨hid, -⟩ := (Packet.isEncodable_write_iff _ _ _ _).mp ⟨frame, hframe⟩
    obtain ⟨hencodable, hbrief⟩ := brief_status hid hlimit .ok
    exact ⟨_, Text.empty, Text.empty, short_answers _ _ _ hframe (fun _ ht => nomatch ht) hencodable,
      hbrief⟩
  fstat := by
    intro id frame content hframe hlength
    obtain ⟨hid, -⟩ := (Packet.isEncodable_fstat_iff _ _).mp ⟨frame, hframe⟩
    have hfits : ∀ f ∈ Message.fields (.attrs { size := some (content.length : Int) }), f.Fits := by
      intro f hf
      rw [List.mem_singleton.mp hf]
      exact (Packet.fits_size_iff _).mpr ((Width.fits_natCast _ _).mpr hlength)
    obtain ⟨hencodable, hbrief⟩ := brief_of_plain hid hfits (fun _ ht => nomatch ht)
      (Packet.length_layout_attrs_size _ _) hlimit
    exact ⟨_, _, short_answers _ _ _ hframe (fun _ ht => nomatch ht) hencodable, hbrief, rfl⟩
  fsetstat := by
    intro id size frame content hframe
    obtain ⟨hid, -⟩ := (Packet.isEncodable_fsetstat_size_iff _ _ _).mp ⟨frame, hframe⟩
    obtain ⟨hencodable, hbrief⟩ := brief_status hid hlimit .ok
    exact ⟨_, Text.empty, Text.empty, short_answers _ _ _ hframe (fun _ ht => nomatch ht) hencodable,
      hbrief⟩

end FileServer

/-! ## Clients -/

namespace Client

variable {σ : Type}

/-- A client that has a session with a server and is ready for a request, as the server keeps some
content. -/
structure Served (server : FileServer σ) (limit : Int) (patience : Nat) (content : Bytes)
    (c : Client σ) : Prop where
  /-- There is a session. -/
  session : c.session ≠ none
  /-- Its link is ready. -/
  ready : c.link.Ready
  /-- The far end is the server. -/
  peer : c.link.line.peer = server.peer
  /-- Frames up to the limit are taken. -/
  limit : c.link.exchange.limit = limit
  /-- A call may take so many round trips. -/
  patience : c.patience = patience
  /-- The server keeps the content. -/
  content : server.content c.link.line.state = content

namespace Served

variable {server : FileServer σ} {limit : Int} {patience : Nat} {content : Bytes} {c : Client σ}

/-- **A request that the server answers.** A request that has a frame under every id, and that the
server answers, whatever the id, with a reply of some sort: such a reply comes back, and the client is
ready again. -/
theorem run_request (hc : Served server limit patience content c) (m : Message)
    (content' : Bytes) (sort : Message → Prop)
    (hencodable : ∀ id, Width.word.Fits id → (Packet.message id m).IsEncodable)
    (hanswers : ∀ id frame, (Packet.message id m).encode = .ok frame →
      ∃ body reply, server.Answers frame c.link.line.state body content' ∧
        body.Brief limit id reply ∧ sort reply) :
    ∃ id reply c', (Client.request m).run c = (.ok (.message id reply), c') ∧ sort reply ∧
      Served server limit patience content' c' ∧ c'.settings = c.settings := by
  have hfacing : Facing server.peer limit patience
      (server.peer.Answers limit m sort fun s => server.content s = content') c := by
    refine ⟨hc.session, hc.ready, hc.peer, hc.limit, hc.patience, fun id frame hframe => ?_⟩
    obtain ⟨body, reply, ⟨arrivals, taken, hwrite, hcarry, hafter⟩, hbrief, hsort⟩ :=
      hanswers id frame hframe
    exact ⟨arrivals, taken, body, reply, hwrite, hcarry, hbrief, hsort, hafter⟩
  obtain ⟨id, reply, c', hrun, hsort, hc', -, hsettings⟩ :=
    hfacing.run_request (hencodable 0 (by decide))
  exact ⟨id, reply, c', hrun, hsort,
    ⟨hc'.session, hc'.ready, hc'.peer, hc'.limit, hc'.patience, hc'.state⟩, hsettings⟩

/-- A request that the server confirms. -/
theorem run_confirmed (hc : Served server limit patience content c) {m : Message} {content' : Bytes}
    (hencodable : ∀ id, Width.word.Fits id → (Packet.message id m).IsEncodable)
    (hanswers : ∀ id frame, (Packet.message id m).encode = .ok frame →
      ∃ body message lang, server.Answers frame c.link.line.state body content' ∧
        body.Brief limit id (.status StatusCode.ok.number message lang)) :
    ∃ id reply c', (Client.request m).run c = (.ok (.message id reply), c') ∧
      Reply.ok (.message id reply) = .ok () ∧ Served server limit patience content' c' := by
  obtain ⟨id, reply, c', hrun, ⟨message, lang, rfl⟩, hc', -⟩ := hc.run_request m content'
    (fun reply => ∃ message lang, reply = .status StatusCode.ok.number message lang) hencodable
    fun id frame hframe => by
      obtain ⟨body, message, lang, hanswer, hbrief⟩ := hanswers id frame hframe
      exact ⟨body, _, hanswer, hbrief, message, lang, rfl⟩
  exact ⟨id, _, c', hrun, Reply.ok_eq_ok_iff.mpr ⟨id, message, lang, rfl⟩, hc'⟩

variable (hserver : server.Honest limit)

include hserver

/-- A request to write is confirmed. -/
theorem run_writeChunk (hc : Served server limit patience content c) {position : Nat}
    {data : Bytes} (hdata : data ≠ []) (hposition : position < Width.long.limit)
    (hlength : 21 + server.handle.length + data.length < Width.word.limit) :
    ∃ c', (Client.writeChunk server.handle position data).run c = (.ok (), c') ∧
      Served server limit patience (overwrite content position data) c' := by
  have hencodable : ∀ id, Width.word.Fits id →
      (Packet.message id (.write server.handle position data)).IsEncodable := fun id hid =>
    (Packet.isEncodable_write_iff _ _ _ _).mpr
      ⟨hid, (Width.fits_natCast _ _).mpr hposition, hlength⟩
  obtain ⟨id, reply, c', hrun, hok, hc'⟩ := hc.run_confirmed hencodable
    fun id frame hframe => by
      have hanswers := hserver.write c.link.line.state hdata hframe
      rwa [hc.content] at hanswers
  refine ⟨c', ?_, hc'⟩
  unfold Client.writeChunk
  rw [Client.run_ask, hrun]
  exact congrArg (·, c') hok

variable (hhandle : 21 + server.handle.length < Width.word.limit)

include hhandle

/-- A new length is confirmed. -/
theorem run_resize (hc : Served server limit patience content c) {size : Nat}
    (hsize : size < Width.long.limit) :
    ∃ c', (Client.setHandleAttributes server.handle { size := some (size : Int) }).run c =
        (.ok (), c') ∧
      Served server limit patience (resize content size) c' := by
  have hencodable : ∀ id, Width.word.Fits id →
      (Packet.message id (.fsetstat server.handle { size := some (size : Int) })).IsEncodable :=
    fun id hid => (Packet.isEncodable_fsetstat_size_iff _ _ _).mpr
      ⟨hid, (Width.fits_natCast _ _).mpr hsize, hhandle⟩
  obtain ⟨id, reply, c', hrun, hok, hc'⟩ := hc.run_confirmed hencodable
    fun id frame hframe => by
      have hanswers := hserver.fsetstat c.link.line.state hframe
      rwa [hc.content] at hanswers
  refine ⟨c', ?_, hc'⟩
  unfold Client.setHandleAttributes
  rw [Client.run_ask, hrun]
  exact congrArg (·, c') hok

/-- The attributes that are asked for have the number of bytes. -/
theorem run_handleAttributes (hc : Served server limit patience content c)
    (hlength : content.length < Width.long.limit) :
    ∃ attrs c', (Client.handleAttributes server.handle).run c = (.ok attrs, c') ∧
      attrs.size = some (content.length : Int) ∧ Served server limit patience content c' := by
  have hencodable : ∀ id, Width.word.Fits id →
      (Packet.message id (.fstat server.handle)).IsEncodable :=
    fun id hid => (Packet.isEncodable_fstat_iff _ _).mpr ⟨hid, by omega⟩
  obtain ⟨id, reply, c', hrun, ⟨attrs, rfl, hsize⟩, hc', -⟩ := hc.run_request _ content
    (fun reply => ∃ attrs, reply = .attrs attrs ∧ attrs.size = some (content.length : Int))
    hencodable fun id frame hframe => by
      obtain ⟨body, attrs, hanswers, hbrief, hsize⟩ :=
        hserver.fstat c.link.line.state hframe (by rwa [hc.content])
      rw [hc.content] at hanswers hsize
      exact ⟨body, _, hanswers, hbrief, attrs, rfl, hsize⟩
  refine ⟨attrs, c', ?_, hsize, hc'⟩
  unfold Client.handleAttributes
  rw [Client.run_ask, hrun]
  rfl

/-- A request to read brings some of the bytes from its position on, none only at the end. -/
theorem run_readChunk (hc : Served server limit patience content c) {offset length : Nat}
    (hpos : 0 < length) (hoffset : offset < Width.long.limit) (hword : length < Width.word.limit)
    (hlimit : (length + 9 : Int) ≤ limit) :
    ∃ k c', 0 < k ∧ k ≤ length ∧
      (Client.readChunk server.handle offset length).run c =
        (.ok ((content.drop offset).take k), c') ∧
      Served server limit patience content c' := by
  have hencodable : ∀ id, Width.word.Fits id →
      (Packet.message id (.read server.handle offset length)).IsEncodable := fun id hid =>
    (Packet.isEncodable_read_iff _ _ _ _).mpr
      ⟨hid, (Width.fits_natCast _ _).mpr hoffset, (Width.fits_natCast _ _).mpr hword, hhandle⟩
  by_cases hend : offset < content.length
  · obtain ⟨id, reply, c', hrun, ⟨k, hk, hkle, rfl⟩, hc', -⟩ := hc.run_request _ content
      (fun reply => ∃ k, 0 < k ∧ k ≤ length ∧ reply = .data ((content.drop offset).take k))
      hencodable fun id frame hframe => by
        obtain ⟨k, hk, hkle, hanswers⟩ :=
          hserver.read c.link.line.state hpos hframe (by rwa [hc.content])
        rw [hc.content] at hanswers
        have hshort := List.length_take_le k (content.drop offset)
        obtain ⟨hid, -⟩ := (Packet.isEncodable_read_iff _ _ _ _).mp ⟨frame, hframe⟩
        exact ⟨_, _, hanswers, hanswers.brief_data hid (by omega), k, hk, hkle, rfl⟩
    refine ⟨k, c', hk, hkle, ?_, hc'⟩
    have hnotMore : ¬ (((content.drop offset).take k).length : Int) > length := by
      have := List.length_take_le k (content.drop offset)
      omega
    unfold Client.readChunk
    rw [Client.run_ask, hrun]
    exact congrArg (·, c') (if_neg hnotMore)
  · have hend' := Nat.not_lt.mp hend
    have hnothing : (content.drop offset).take length = [] := by
      rw [List.drop_eq_nil_of_le hend', List.take_nil]
    obtain ⟨id, reply, c', hrun, ⟨message, lang, rfl⟩, hc', -⟩ := hc.run_request _ content
      (fun reply => ∃ message lang, reply = .status StatusCode.endOfFile.number message lang)
      hencodable fun id frame hframe => by
        obtain ⟨body, message, lang, hanswers, hbrief⟩ :=
          hserver.readEnd c.link.line.state hpos hframe (by rwa [hc.content])
        rw [hc.content] at hanswers
        exact ⟨body, _, hanswers, hbrief, message, lang, rfl⟩
    refine ⟨length, c', hpos, Nat.le_refl _, ?_, hc'⟩
    unfold Client.readChunk
    rw [Client.run_ask, hrun, hnothing]
    rfl

end Served

end Client

end Sftp
