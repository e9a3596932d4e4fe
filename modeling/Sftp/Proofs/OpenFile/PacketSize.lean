import Sftp.Proofs.Link.Answer
import Sftp.Proofs.OpenFile.Reading
import Sftp.Proofs.Wire.Encoded

/-!
# Packet sizes and full replies

A request to read asks for as many bytes as one packet may have. A reply that brings all of them is nine
bytes longer, and a frame has a limit of its own, so not all session settings go together with reads.

* `ReadCall` — the calls that read; `ReadCall.fetches` — their requests, which **`ReadCall.client_after`**
  ties to the calls.
* `OpenFile.IsOn` — an open file of a session.
* `Fetch.Safe` — a request can be sent, and a full reply can be sent and is taken.
* **`ReadCall.safe_iff`** — the settings under which every request of every read is safe.
-/

namespace Sftp

/-! ## The calls -/

/-- A call that reads from an open file. -/
inductive ReadCall
  /-- In sequence, up to a size or to the end of the file. -/
  | read (size : Option Int)
  /-- At a position, up to a size. -/
  | readAt (size offset : Int)
  /-- In sequence, into a buffer. -/
  | readInto (buffer : Bytes)
  /-- At a position, into a buffer. -/
  | readIntoAt (buffer : Bytes) (offset : Int)

namespace ReadCall

variable {σ : Type}

/-- The file and its client after a call. -/
def after (h : Held OpenFile σ) : ReadCall → Held OpenFile σ
  | read size => ((OpenFile.read size).run h).2
  | readAt size offset => ((OpenFile.readAt size offset).run h).2
  | readInto buffer => ((OpenFile.readInto buffer).run h).2
  | readIntoAt buffer offset => ((OpenFile.readIntoAt buffer offset).run h).2

/-- The requests of a call, and the client after them. -/
def fetches (h : Held OpenFile σ) : ReadCall → List Fetch × Client σ
  | read size =>
    match size.filter (0 ≤ ·) with
    | none => h.object.fetches h.client.patience none h.object.offset h.client
    | some n => h.object.fetches n.toNat (some n.toNat) h.object.offset h.client
  | readAt size offset =>
    if size < 0 then ([], h.client)
    else h.object.fetches size.toNat (some size.toNat) offset h.client
  | readInto buffer =>
    h.object.fetches buffer.length (some buffer.length) h.object.offset h.client
  | readIntoAt buffer offset => h.object.fetches buffer.length (some buffer.length) offset h.client

/-- A call does at the client what its requests do. -/
theorem client_after {h : Held OpenFile σ} (hopen : h.object.base.closed = false)
    (call : ReadCall) : (call.after h).client = (call.fetches h).2 := by
  have hmoved : ∀ (c : Client σ) (result : Except Fault Bytes),
      (OpenFile.moved h c result).2.client = c := by
    rintro c (f | data)
    · rfl
    · rfl
  cases call with
  | read size =>
    cases hsize : size.filter (0 ≤ ·) with
    | none =>
      simp only [after, fetches]
      rw [OpenFile.run_read_to_end hopen hsize, hsize]
      exact hmoved _ _
    | some n =>
      simp only [after, fetches]
      rw [OpenFile.run_read_of_size hopen hsize, hsize]
      exact hmoved _ _
  | readAt size offset =>
    by_cases hsize : size < 0
    · simp only [after, fetches]
      rw [if_pos hsize, OpenFile.run_readAt_of_neg hopen hsize]
    · simp only [after, fetches]
      rw [if_neg hsize, OpenFile.run_readAt hopen (Int.not_lt.mp hsize)]
  | readInto buffer =>
    simp only [after, fetches]
    rw [OpenFile.run_readInto hopen]
    exact hmoved _ _
  | readIntoAt buffer offset =>
    simp only [after, fetches]
    rw [OpenFile.run_readIntoAt hopen]

/-- Every request of a call is one of a read of the file. -/
theorem length_of_mem_fetches {h : Held OpenFile σ} {call : ReadCall} {fetch : Fetch}
    (hfetch : fetch ∈ (call.fetches h).1) :
    0 < fetch.length ∧ fetch.length ≤ h.object.packetSize := by
  cases call with
  | read size =>
    unfold fetches at hfetch
    simp only at hfetch
    split at hfetch
    · exact OpenFile.length_of_mem_fetches hfetch
    · exact OpenFile.length_of_mem_fetches hfetch
  | readAt size offset =>
    unfold fetches at hfetch
    simp only at hfetch
    split at hfetch
    · cases hfetch
    · exact OpenFile.length_of_mem_fetches hfetch
  | readInto buffer => exact OpenFile.length_of_mem_fetches hfetch
  | readIntoAt buffer offset => exact OpenFile.length_of_mem_fetches hfetch

end ReadCall

/-! ## Files of a session -/

/-- The file is open on a session with these settings. -/
structure OpenFile.IsOn {σ : Type} (h : Held OpenFile σ) (s : SessionSettings) : Prop where
  /-- It is open. -/
  isOpen : h.object.base.closed = false
  /-- The session has the settings. -/
  settings : h.client.settings = s
  /-- Its requests have as many data bytes as the settings allow. -/
  packetSize : h.object.packetSize = s.packetSize.toNat

/-! ## Safe requests -/

/-- What a request needs, on a connection that takes frames up to a limit. -/
structure Fetch.Safe (fetch : Fetch) (limit : Int) : Prop where
  /-- It can be sent, if its position has an encoding and its handle leaves room for the rest. -/
  encodable : ∀ (id : Int) (handle : Bytes), Width.word.Fits id → Width.long.Fits fetch.offset →
    21 + handle.length < Width.word.limit →
    (Packet.message id (.read handle fetch.offset fetch.length)).IsEncodable
  /-- A reply with all the bytes that it asks for can be sent, -/
  answerable : ∀ (id : Int) (data : Bytes), Width.word.Fits id → data.length = fetch.length →
    (Packet.message id (.data data)).IsEncodable
  /-- and is taken, on any stream, without harm to the connection. -/
  accepted : ∀ (id : Int) (data : Bytes), Width.word.Fits id → data.length = fetch.length →
    ∀ (σ : Type) (l : Link σ) (arrivals : List Arrival), l.Listening → l.line.inbox.unread = [] →
    l.exchange.limit = limit → Arrival.Carry arrivals (Packet.message id (.data data)).layout →
    (l.receive arrivals).exchange = l.exchange.take (.message id (.data data)) ∧
      (l.receive arrivals).exchange.failure = none

/-- A request is safe if a full reply to it is a frame, and within the limit. -/
theorem Fetch.safe_of_length {fetch : Fetch} {limit : Int}
    (hword : fetch.length + 9 < Width.word.limit) (hlimit : (fetch.length + 9 : Int) ≤ limit) :
    fetch.Safe limit := by
  have hencodable : ∀ (id : Int) (data : Bytes), Width.word.Fits id → data.length = fetch.length →
      (Packet.message id (.data data)).IsEncodable := by
    intro id data hid hlength
    exact (Packet.isEncodable_data_iff id data).mpr ⟨hid, by omega⟩
  constructor
  · intro id handle hid hoffset hhandle
    have hlength : Width.word.Fits fetch.length := (Width.fits_natCast _ _).mpr (by omega)
    exact (Packet.isEncodable_read_iff id handle _ _).mpr ⟨hid, hoffset, hlength, hhandle⟩
  · exact hencodable
  · intro id data hid hlength σ l arrivals hl hread hl' hcarry
    obtain ⟨frame, hframe⟩ := hencodable id data hid hlength
    have hbody : Packet.ofBody (Packet.message id (.data data)).layout =
        .ok (.message id (.data data)) :=
      Packet.ofBody_layout (Packet.encode_eq_ok_iff.mp hframe).1 fun _ ht => nomatch ht
    have hwithin : ((Packet.message id (.data data)).layout.length : Int) ≤ l.exchange.limit := by
      rw [Packet.length_layout_data, hl']
      omega
    obtain ⟨hexchange, hlistening, -⟩ := hl.receive_carry hread hcarry hwithin hbody
    exact ⟨hexchange, hlistening.healthy⟩

/-- A link that a far end has yet to say something on. -/
def Link.silent (limit : Int) : Link Unit where
  line := {
    peer := {
      write := fun _ s => (.ok [], s)
      close := fun s => (none, s) }
    state := () }
  exchange := { limit, reader := .running }

/-- A safe request has a full reply that is a frame, and within the limit. -/
theorem Fetch.Safe.length {fetch : Fetch} {limit : Int} (h : fetch.Safe limit) :
    fetch.length + 9 < Width.word.limit ∧ (fetch.length + 9 : Int) ≤ limit := by
  have hid : Width.word.Fits 0 := by decide
  obtain ⟨data, hdata⟩ : ∃ data : Bytes, data.length = fetch.length :=
    ⟨List.replicate fetch.length 0, List.length_replicate⟩
  have hlayout : (Packet.message 0 (.data data)).layout.length = 9 + fetch.length := by
    rw [Packet.length_layout_data, hdata]
  have hword := ((Packet.isEncodable_data_iff 0 data).mp (h.answerable 0 data hid hdata)).2
  rw [hdata] at hword
  refine ⟨by omega, ?_⟩
  -- over the limit it would be the end of a connection
  by_contra hlimit
  have hready : (Link.silent limit).Ready := Link.ready_of_started limit rfl rfl
  have hcarry : Arrival.Carry [.chunk (bigEndian 4 (Packet.message 0 (.data data)).layout.length ++
      (Packet.message 0 (.data data)).layout)] (Packet.message 0 (.data data)).layout :=
    Arrival.carry_chunk (by rw [hlayout]; exact hword)
  have hover : (Link.silent limit).exchange.limit <
      ((Packet.message 0 (.data data)).layout.length : Int) := by
    rw [hlayout]
    show limit < _
    omega
  exact hready.listening.failure_receive hready.read hcarry (by omega) hover
    (h.accepted 0 data hid hdata Unit _ _ hready.listening hready.read rfl hcarry).2

/-! ## Safe settings -/

namespace ReadCall

/-- A file with the given packet size on a session that has been opened. -/
def sampleFile (s : SessionSettings) : Held OpenFile Unit where
  object := {
    base := { kind := .file, handle := [], path := "/f" }
    flags := .read
    packetSize := s.packetSize.toNat
    packetSize_pos := by have := s.bounds.1; omega }
  client := {
    settings := s
    link := Link.silent s.frameSize
    session := some { version := 3, extensions := .empty }
    patience := 1 }

/-- A read of as many bytes as one packet may have begins with a request for all of them. -/
theorem exists_fetch_sampleFile (s : SessionSettings) :
    ∃ fetch ∈ (fetches (sampleFile s) (.readAt s.packetSize 0)).1,
      fetch.length = s.packetSize.toNat := by
  have hpos := s.bounds.1
  have hshare : (sampleFile s).object.share (some s.packetSize.toNat) = s.packetSize.toNat :=
    Nat.min_self _
  obtain ⟨rounds, hrounds⟩ : ∃ rounds, s.packetSize.toNat = rounds + 1 :=
    ⟨s.packetSize.toNat - 1, by omega⟩
  have hwanted : some s.packetSize.toNat ≠ some 0 := by
    rw [hrounds]
    exact nofun
  unfold fetches
  simp only
  rw [if_neg (by omega), hrounds, OpenFile.fetches, ← hrounds, if_neg hwanted]
  simp only
  split
  · exact ⟨_, List.mem_singleton_self _, hshare⟩
  · exact ⟨_, List.mem_cons_self, hshare⟩

/-- **The settings under which reads are safe.** What a read of a file of a session does at the client is
what its requests do. All of them can be sent, and replies with all the bytes that they ask for are
taken, for every read of every file, if and only if the packet size and the nine bytes that stand before
the data of a reply are within the limit of a frame, and that can be announced. -/
theorem safe_iff (s : SessionSettings) :
    (∀ (σ : Type) (h : Held OpenFile σ) (call : ReadCall), OpenFile.IsOn h s →
        (call.after h).client = (call.fetches h).2 ∧
          ∀ fetch ∈ (call.fetches h).1, fetch.Safe s.frameSize) ↔
      s.packetSize + 9 ≤ s.frameSize ∧ s.packetSize + 9 < Width.word.limit := by
  have hpos := s.bounds.1
  constructor
  · intro hsafe
    obtain ⟨fetch, hfetch, hlength⟩ := exists_fetch_sampleFile s
    obtain ⟨-, hfetches⟩ := hsafe Unit (sampleFile s) (.readAt s.packetSize 0) ⟨rfl, rfl, rfl⟩
    obtain ⟨hword, hlimit⟩ := (hfetches fetch hfetch).length
    rw [hlength] at hword hlimit
    omega
  · rintro ⟨hlimit, hword⟩ σ h call hon
    refine ⟨client_after hon.isOpen call, fun fetch hfetch => ?_⟩
    have hlength := (length_of_mem_fetches hfetch).2
    rw [hon.packetSize] at hlength
    exact Fetch.safe_of_length (by omega) (by omega)

/-- A full reply to a request for sixteen bytes. -/
def fullReply : Packet :=
  .message 0 (.data (List.replicate 16 97))

/-- A file on a session whose packets may be as long as its frames, of a server that answers with all
sixteen bytes of a packet. -/
def tightFile : Held OpenFile Unit where
  object := {
    base := { kind := .file, handle := [104], path := "/f" }
    flags := .read
    packetSize := 16
    packetSize_pos := by decide }
  client := {
    settings := { packetSize := 16, frameSize := 16 }
    link := {
      line := {
        peer := {
          write := fun _ s => (.ok [.chunk (bigEndian 4 25 ++ fullReply.layout)], s)
          close := fun s => (none, s) }
        state := () }
      exchange := { limit := 16, reader := .running } }
    session := some { version := 3, extensions := .empty }
    patience := 8 }

/-- The settings are accepted, the one request is for sixteen bytes and so many come, but they end the
connection. -/
theorem full_reply_breaks_tightFile :
    SessionSettings.make 16 16 none = .ok tightFile.client.settings ∧
      OpenFile.IsOn tightFile tightFile.client.settings ∧
      fullReply.encode = .ok (bigEndian 4 25 ++ fullReply.layout) ∧
      tightFile.client.link.exchange.failure = none ∧
      (fetches tightFile (.read (some 16))).1.map (fun fetch => (fetch.offset, fetch.length)) =
        [(0, 16)] ∧
      (∀ data, ((OpenFile.read (some 16)).run tightFile).1 ≠ .ok data) ∧
      (after tightFile (.read (some 16))).client.link.exchange.failure ≠ none := by
  have hfails : ((OpenFile.read (some 16)).run tightFile).1.isOk = false := by decide +kernel
  refine ⟨by decide, ⟨rfl, rfl, rfl⟩, by decide +kernel, rfl, by decide +kernel, ?_, ?_⟩
  · intro data hdata
    rw [hdata] at hfails
    cases hfails
  · have hfailed : (after tightFile (.read (some 16))).client.link.exchange.failure.isSome = true := by
      decide +kernel
    exact Option.isSome_iff_ne_none.mp hfailed

end ReadCall

end Sftp
