import Sftp.Proofs.OpenFile.Requests
import Sftp.Proofs.Wire.Encoded

/-!
# Reads from any server

A read up to a number of bytes is safe whatever the server sends: the replies decide how many bytes come with
each request, and the requests follow from that. A reply with more bytes than were asked for is a fault, and
none of them is stored.

* `Fetch.Comes` — what a request to read makes of its reply; **`Fetch.comes_data`** — nothing else.
* `OpenFile.Gets` — the requests of a read: where each begins, how much it asks for, and when they stop;
  **`OpenFile.Fetched.gets`** — reads make these requests.
* `OpenFile.Ends` — what the requests give; `Bytes.Stores` — what a buffer shows of it.
* **`OpenFile.reads_safely`** — the four calls that read up to a number of bytes.
-/

namespace Sftp

/-! ## One request -/

namespace Fetch

/-- What a request to read makes of what came of it. -/
inductive Comes (asked : Int) : Except Fault Packet → Except Fault Bytes → Prop
  /-- Bytes, no more than were asked for. -/
  | data {id : Int} {data : Bytes} (hle : (data.length : Int) ≤ asked) :
    Comes asked (.ok (.message id (.data data))) (.ok data)
  /-- The end of the file has no bytes. -/
  | atEnd {id : Int} {message lang : Text} :
    Comes asked (.ok (.message id (.status StatusCode.endOfFile.number message lang))) (.ok [])
  /-- More bytes than were asked for are a bad message. -/
  | tooMany {id : Int} {data : Bytes} (hlt : asked < data.length) :
    Comes asked (.ok (.message id (.data data)))
      (.error (.badMessage s!"asked for {asked} bytes, server sent {data.length}"))
  /-- Another reply is a failure. -/
  | refused {id : Int} {reply : Message} {f : Fault} (hdata : reply.kind ≠ .data)
      (hend : ∀ message lang, reply ≠ .status StatusCode.endOfFile.number message lang)
      (h : reply.Refused true f) : Comes asked (.ok (.message id reply)) (.error f)
  /-- What is no reply at all is a bad message. -/
  | stray {p : Packet} (hid : p.id? = none) (text : Text) :
    Comes asked (.ok p) (.error (.badMessage text))
  /-- A request may fail without a reply. -/
  | failed {f : Fault} : Comes asked (.error f) (.error f)

variable {asked : Int} {outcome : Except Fault Packet} {made : Except Fault Bytes}

/-- **A request to read makes this of what came of it.** -/
theorem comes_data (asked : Int) (outcome : Except Fault Packet) :
    Comes asked outcome (outcome.bind (Reply.data asked)) := by
  rcases outcome with f | p
  · exact .failed
  show Comes asked (.ok p) (Reply.data asked p)
  cases p with
  | init v x => exact .stray rfl _
  | version v x => exact .stray rfl _
  | message id m =>
    by_cases hdata : m.kind = .data
    · cases m with
      | data d =>
        show Comes asked _ (if (d.length : Int) > asked then _ else _)
        by_cases hlt : (d.length : Int) > asked
        · rw [if_pos hlt]
          exact .tooMany hlt
        · rw [if_neg hlt]
          exact .data (Int.not_lt.mp hlt)
      | _ => cases hdata
    · have hgoverns := (Want.data asked).governs_read id m
      rw [Want.read] at hgoverns
      cases hread : Reply.data asked (.message id m) with
      | ok d =>
        rw [hread] at hgoverns
        cases (hgoverns.brings (.data d)).mp rfl with
        | data => exact absurd rfl hdata
        | endOfData => exact .atEnd
      | error f =>
        rw [hread] at hgoverns
        refine .refused hdata ?_ (hgoverns.refused rfl)
        rintro message lang rfl
        cases (hgoverns.brings (.data [])).mpr .endOfData

/-- What a request brings is no more than it asked for. -/
theorem Comes.length_le {data : Bytes} (h : Comes asked outcome (.ok data)) (hasked : 0 ≤ asked) :
    (data.length : Int) ≤ asked := by
  cases h with
  | data hle => exact hle
  | atEnd => exact hasked

/-- A dealing is a request of a read. -/
structure Dealt (handle : Bytes) (fetch : Fetch) (d : Dealing) : Prop where
  /-- It asks for the bytes. -/
  request : d.request = .read handle fetch.offset fetch.length
  /-- What came of it. -/
  comes : Comes fetch.length d.outcome fetch.outcome

/-- A request brings no more than it asked for. -/
theorem Dealt.length_le {handle : Bytes} {fetch : Fetch} {d : Dealing} (h : Dealt handle fetch d) :
    fetch.bytes.length ≤ fetch.length := by
  obtain ⟨-, hcomes⟩ := h
  obtain ⟨offset, length, f | data⟩ := fetch
  · exact Nat.zero_le _
  · exact Int.ofNat_le.mp (hcomes.length_le (Int.natCast_nonneg _))

/-- Bytes are brought by a request that does not fail. -/
theorem fault?_eq_none_of_bytes {fetch : Fetch} (h : fetch.bytes ≠ []) : fetch.fault? = none := by
  obtain ⟨offset, length, f | data⟩ := fetch
  · exact absurd rfl h
  · rfl

/-- A request that fails ended with its fault. -/
theorem outcome_of_fault? {fetch : Fetch} {f : Fault} (h : fetch.fault? = some f) :
    fetch.outcome = .error f := by
  obtain ⟨offset, length, g | data⟩ := fetch
  · exact congrArg Except.error (Option.some.inj h)
  · cases h

end Fetch

/-- How many bytes requests have brought. -/
def received (made : List Fetch) : Nat :=
  (made.flatMap Fetch.bytes).length

theorem received_cons (fetch : Fetch) (made : List Fetch) :
    received (fetch :: made) = fetch.bytes.length + received made := by
  rw [received, List.flatMap_cons, List.length_append]
  rfl

/-! ## All requests of a read -/

namespace OpenFile

variable {file : OpenFile} {rounds wanted : Nat} {offset : Int} {made : List Fetch} {fetch : Fetch}

/-- The requests of a read of so many bytes from an offset on. -/
structure Gets (file : OpenFile) (wanted : Nat) (offset : Int) (made : List Fetch) : Prop where
  /-- Each asks for what is still wanted, or for as much as a packet may have, after what was received
  before, which is something with each of those before. -/
  request : ∀ earlier fetch later, made = earlier ++ fetch :: later →
    fetch.offset = offset + received earlier ∧
      fetch.length = min (wanted - received earlier) file.packetSize ∧ 1 ≤ fetch.length ∧
      ∀ e ∈ earlier, e.bytes ≠ []
  /-- There are no more than bytes that are wanted. -/
  few : made.length ≤ wanted
  /-- No more bytes are received than are wanted. -/
  fits : received made ≤ wanted
  /-- They stop when all have been received, or at the first that brings none. -/
  stops : received made = wanted ∨ ∃ earlier last, made = earlier ++ [last] ∧ last.bytes = []

/-- No bytes, no requests. -/
theorem gets_nil (file : OpenFile) (offset : Int) : file.Gets 0 offset [] where
  request _ _ _ h := absurd h.symm (List.append_ne_nil_of_right_ne_nil _ (List.cons_ne_nil _ _))
  few := Nat.le_refl _
  fits := Nat.le_refl _
  stops := .inl rfl

/-- A request that brings nothing is the last. -/
theorem gets_last (hwanted : wanted ≠ 0) (hoffset : fetch.offset = offset)
    (hlength : fetch.length = min wanted file.packetSize) (hnone : fetch.bytes = []) :
    file.Gets wanted offset [fetch] where
  request earlier fetch' later h := by
    rcases List.append_eq_singleton_iff.mp h.symm with ⟨rfl, hlast⟩ | ⟨-, hnil⟩
    · obtain ⟨rfl, -⟩ := List.cons.inj hlast
      have hpos := file.packetSize_pos
      refine ⟨hoffset.trans (Int.add_zero offset).symm, hlength, ?_, List.forall_mem_nil _⟩
      rw [hlength]
      omega
    · cases hnil
  few := Nat.pos_of_ne_zero hwanted
  fits := by
    rw [received_cons, hnone]
    exact Nat.zero_le _
  stops := .inr ⟨[], fetch, rfl, hnone⟩

/-- After a request that brings bytes come those for the rest. -/
theorem Gets.next (hoffset : fetch.offset = offset) (hlength : fetch.length = min wanted file.packetSize)
    (hsome : fetch.bytes ≠ []) (hle : fetch.bytes.length ≤ fetch.length)
    (h : file.Gets (wanted - fetch.bytes.length) (offset + fetch.bytes.length) made) :
    file.Gets wanted offset (fetch :: made) := by
  have hpos := List.length_pos_iff.mpr hsome
  have hwanted : fetch.bytes.length ≤ wanted := by omega
  constructor
  case request =>
    intro earlier fetch' later hsplit
    cases earlier with
    | nil =>
      obtain ⟨rfl, -⟩ := List.cons.inj hsplit
      exact ⟨hoffset.trans (Int.add_zero offset).symm, hlength, Nat.le_trans hpos hle,
        List.forall_mem_nil _⟩
    | cons e earlier =>
      obtain ⟨rfl, hrest⟩ := List.cons.inj hsplit
      obtain ⟨hoffset', hlength', hone, hearlier⟩ := h.request earlier fetch' later hrest
      refine ⟨?_, ?_, hone, List.forall_mem_cons.mpr ⟨hsome, hearlier⟩⟩
      · rw [hoffset', received_cons, Int.natCast_add, Int.add_assoc]
      · rw [hlength', received_cons, Nat.sub_sub]
  case few =>
    have hfew := h.few
    rw [List.length_cons]
    omega
  case fits =>
    have hfits := h.fits
    rw [received_cons]
    omega
  case stops =>
    rcases h.stops with hall | ⟨earlier, last, rfl, hnone⟩
    · rw [received_cons]
      exact .inl (by omega)
    · exact .inr ⟨fetch :: earlier, last, rfl, hnone⟩

/-- **The requests of a read** are as they should be, if there may be one for each byte that is wanted. -/
theorem Fetched.gets {size : Option Nat} {ds : List Dealing} (h : Fetched file rounds size offset made ds)
    (hsize : size = some wanted) (hrounds : wanted ≤ rounds) :
    file.Gets wanted offset made ∧ List.Forall₂ (Fetch.Dealt file.base.handle) made ds := by
  have hdealt : ∀ {fetch : Fetch} {d : Dealing}, Brought file.base.handle fetch d →
      Fetch.Dealt file.base.handle fetch d := fun hbrought =>
    ⟨hbrought.request, hbrought.outcome ▸ Fetch.comes_data _ _⟩
  induction h generalizing wanted with
  | spent size offset =>
    obtain rfl := Nat.le_zero.mp hrounds
    exact ⟨gets_nil file offset, .nil⟩
  | done rounds offset =>
    obtain rfl := Option.some.inj hsize
    exact ⟨gets_nil file offset, .nil⟩
  | last hwanted hlength hbrought hnone =>
    subst hsize
    have hzero : wanted ≠ 0 := fun hzero => hwanted (congrArg some hzero)
    exact ⟨gets_last hzero rfl hlength hnone, .cons (hdealt hbrought) .nil⟩
  | @next rounds _ fetch d made ds hwanted hlength hbrought hsome _ ih =>
    subst hsize
    have hle : fetch.bytes.length ≤ fetch.length := (hdealt hbrought).length_le
    have hpos := List.length_pos_iff.mpr hsome
    have hfewer : wanted - fetch.bytes.length ≤ rounds := by omega
    obtain ⟨hgets, hrest⟩ := ih rfl hfewer
    exact ⟨.next rfl hlength hsome hle hgets, .cons (hdealt hbrought) hrest⟩

/-- Where requests begin and how much they ask for has an encoding, if that holds of the whole read. -/
theorem Gets.isEncodable (h : file.Gets wanted offset made) (hoffset : 0 ≤ offset)
    (hend : offset + wanted ≤ Width.long.limit) (hsize : file.packetSize < Width.word.limit)
    (hhandle : 21 + file.base.handle.length < Width.word.limit) {id : Int} (hid : Width.word.Fits id)
    (hfetch : fetch ∈ made) :
    (Packet.message id (.read file.base.handle fetch.offset fetch.length)).IsEncodable := by
  obtain ⟨earlier, later, hsplit⟩ := List.append_of_mem hfetch
  obtain ⟨hbegin, hlength, hone, -⟩ := h.request earlier fetch later hsplit
  refine (Packet.isEncodable_read_iff id _ _ _).mpr ⟨hid, ?_, ?_, hhandle⟩
  · rw [hbegin]
    show 0 ≤ offset + (received earlier : Int) ∧ offset + (received earlier : Int) < Width.long.limit
    omega
  · refine (Width.fits_natCast _ _).mpr ?_
    show fetch.length < Width.word.limit
    omega

/-! ## What the requests give -/

/-- What the requests of a read give: all that they brought, or the fault of the last. -/
inductive Ends (made : List Fetch) : Except Fault Bytes → Prop
  /-- All went well. -/
  | complete (h : ∀ fetch ∈ made, fetch.fault? = none) : Ends made (.ok (made.flatMap Fetch.bytes))
  /-- The last failed. -/
  | failed {earlier : List Fetch} {last : Fetch} {f : Fault} (hmade : made = earlier ++ [last])
      (hearlier : ∀ fetch ∈ earlier, fetch.fault? = none) (hlast : last.outcome = .error f) :
      Ends made (.error f)

/-- The requests of a read give what was gathered from them. -/
theorem Gets.ends (h : file.Gets wanted offset made) : Ends made (gathered made) := by
  unfold gathered
  cases hfault : made.findSome? Fetch.fault? with
  | none => exact .complete (List.findSome?_eq_none_iff.mp hfault)
  | some f =>
    obtain ⟨earlier, last, later, rfl, hlast, hearlier⟩ := List.findSome?_eq_some_iff.mp hfault
    have hbroken : last.outcome = .error f := Fetch.outcome_of_fault? hlast
    -- there is none after one that brought nothing
    cases later with
    | nil => exact .failed rfl hearlier hbroken
    | cons next later =>
      have hsplit := List.append_cons earlier last (next :: later)
      obtain ⟨-, -, -, hbrought⟩ := h.request _ _ _ hsplit
      have hnone := Fetch.fault?_eq_none_of_bytes
        (hbrought last (List.mem_append_right _ (List.mem_singleton_self last)))
      rw [hnone] at hlast
      cases hlast

end OpenFile

/-- A buffer after data were stored at its beginning. -/
structure Bytes.Stores (buffer data after : Bytes) : Prop where
  /-- It is as long as before. -/
  length : after.length = buffer.length
  /-- The data stand at its beginning. -/
  stored : after.take data.length = data
  /-- What is after them is as before. -/
  kept : ∀ i, data.length ≤ i → after[i]? = buffer[i]?

namespace OpenFile

variable {σ : Type} {h : Held OpenFile σ}

/-- Data that are no longer than a buffer are stored in it. -/
theorem stores_overlay {buffer data : Bytes} (hle : data.length ≤ buffer.length) :
    Bytes.Stores buffer data (overlay buffer data) where
  length := by
    unfold overlay
    rw [List.length_append, List.length_drop]
    omega
  stored := List.take_left
  kept i hi := by
    unfold overlay
    rw [List.getElem?_append_right hi, List.getElem?_drop, Nat.add_sub_cancel' hi]

/-- A read of so many bytes from an offset on goes as it should, by these requests. -/
structure SafeRead (h : Held OpenFile σ) (wanted : Nat) (offset : Int) (made : List Fetch) (c : Client σ) :
    Prop where
  /-- The requests are those of the read. -/
  gets : h.object.Gets wanted offset made
  /-- Each was made, and brought what its reply has. -/
  dealt : ∃ ds, h.client.Deals ds c ∧ List.Forall₂ (Fetch.Dealt h.object.base.handle) made ds
  /-- Each has a frame, if the whole read and the handle have room. -/
  encodable : 0 ≤ offset → offset + wanted ≤ Width.long.limit → h.object.packetSize < Width.word.limit →
    21 + h.object.base.handle.length < Width.word.limit → ∀ fetch ∈ made, ∀ id, Width.word.Fits id →
    (Packet.message id (.read h.object.base.handle fetch.offset fetch.length)).IsEncodable

/-- The requests that a read makes are safe. -/
theorem safeRead_fetches (h : Held OpenFile σ) (wanted : Nat) (offset : Int) :
    SafeRead h wanted offset (h.object.fetches wanted (some wanted) offset h.client).1
      (h.object.fetches wanted (some wanted) offset h.client).2 := by
  obtain ⟨ds, hdeals, hfetched⟩ := fetched_fetches h.object wanted (some wanted) offset h.client
  obtain ⟨hgets, hdealt⟩ := hfetched.gets rfl (Nat.le_refl wanted)
  exact ⟨hgets, ⟨ds, hdeals, hdealt⟩, fun hoffset hend hsize hhandle _ hfetch _ hid =>
    hgets.isEncodable hoffset hend hsize hhandle hid hfetch⟩

/-- **Reads are safe against any server.** Whatever is sent, a read up to a number of bytes asks for what is
still wanted, piece by piece, each piece after what was received so far; makes no more requests than bytes are
wanted, and stops at the first that brings none. It gives all that was received, or the fault of the last
request, and a buffer shows what was received, and after it what it had before. -/
theorem reads_safely (hopen : h.object.base.closed = false) :
    (∀ wanted : Nat, ∃ made,
      SafeRead h wanted h.object.offset made ((read (some wanted)).run h).2.client ∧
        Ends made ((read (some wanted)).run h).1) ∧
    (∀ (wanted : Nat) (offset : Int), ∃ made,
      SafeRead h wanted offset made ((readAt wanted offset).run h).2.client ∧
        Ends made ((readAt wanted offset).run h).1) ∧
    (∀ buffer : Bytes, ∃ made result after,
      SafeRead h buffer.length h.object.offset made ((readInto buffer).run h).2.client ∧
        Ends made result ∧ ((readInto buffer).run h).1 = .ok (result.map List.length, after) ∧
        buffer.Stores (made.flatMap Fetch.bytes) after) ∧
    ∀ (buffer : Bytes) (offset : Int), ∃ made result after,
      SafeRead h buffer.length offset made ((readIntoAt buffer offset).run h).2.client ∧
        Ends made result ∧ ((readIntoAt buffer offset).run h).1 = .ok (result.map List.length, after) ∧
        buffer.Stores (made.flatMap Fetch.bytes) after := by
  have hmoved : ∀ (c : Client σ) (result : Except Fault Bytes),
      (moved h c result).1 = result ∧ (moved h c result).2.client = c := by
    rintro c (f | data)
    · exact ⟨rfl, rfl⟩
    · exact ⟨rfl, rfl⟩
  refine ⟨fun wanted => ?_, fun wanted offset => ?_, fun buffer => ?_, fun buffer offset => ?_⟩
  · have hsafe := safeRead_fetches h wanted h.object.offset
    have hsize : (some (wanted : Int)).filter (0 ≤ ·) = some (wanted : Int) := by
      rw [Option.filter_some, decide_eq_true (Int.natCast_nonneg wanted)]
      rfl
    rw [run_read_of_size hopen hsize]
    refine ⟨(h.object.fetches wanted (some wanted) h.object.offset h.client).1, ?_, ?_⟩
    · exact (hmoved _ _).2.symm ▸ hsafe
    · exact (hmoved _ _).1.symm ▸ hsafe.gets.ends
  · have hsafe := safeRead_fetches h wanted offset
    rw [run_readAt hopen (Int.natCast_nonneg wanted)]
    exact ⟨_, hsafe, hsafe.gets.ends⟩
  · have hsafe := safeRead_fetches h buffer.length h.object.offset
    rw [run_readInto hopen]
    exact ⟨_, _, _, (hmoved _ _).2.symm ▸ hsafe, hsafe.gets.ends, rfl, stores_overlay hsafe.gets.fits⟩
  · have hsafe := safeRead_fetches h buffer.length offset
    rw [run_readIntoAt hopen]
    exact ⟨_, _, _, hsafe, hsafe.gets.ends, rfl, stores_overlay hsafe.gets.fits⟩

/-- A file of two bytes a request, whose server first sends one byte and then three. -/
def unevenFile : Held OpenFile Nat where
  object := {
    base := { kind := .file, handle := [104], path := "/f" }
    flags := .read
    packetSize := 2
    packetSize_pos := by decide }
  client := {
    settings := { packetSize := 2 }
    link := {
      line := {
        peer := {
          write := fun _ n =>
            (.ok [.chunk (if n = 0 then [0, 0, 0, 10, 103, 0, 0, 0, 0, 0, 0, 0, 1, 7]
              else [0, 0, 0, 12, 103, 0, 0, 0, 1, 0, 0, 0, 3, 1, 2, 3])], n + 1)
          close := fun n => (none, n) }
        state := 0 }
      exchange := { limit := 64, reader := .running } }
    session := some { version := 3, extensions := .empty }
    patience := 8 }

/-- The first byte is stored, of the three none, and the read fails. -/
theorem reads_safely_unevenFile :
    unevenFile.object.base.closed = false ∧
      ((readInto [9, 9, 9, 9]).run unevenFile).1 =
        .ok (.error (.badMessage "asked for 2 bytes, server sent 3"), [7, 9, 9, 9]) ∧
      ∃ made, SafeRead unevenFile 4 0 made ((readInto [9, 9, 9, 9]).run unevenFile).2.client ∧
        Ends made (.error (.badMessage "asked for 2 bytes, server sent 3")) ∧
        Bytes.Stores [9, 9, 9, 9] (made.flatMap Fetch.bytes) [7, 9, 9, 9] := by
  have hrun : ((readInto [9, 9, 9, 9]).run unevenFile).1 =
      .ok (.error (.badMessage "asked for 2 bytes, server sent 3"), [7, 9, 9, 9]) := by decide +kernel
  obtain ⟨-, -, hinto, -⟩ := reads_safely (h := unevenFile) rfl
  obtain ⟨made, result, after, hsafe, hends, hresult, hstores⟩ := hinto [9, 9, 9, 9]
  rw [hrun] at hresult
  obtain ⟨hcount, rfl⟩ := Prod.mk.inj (Except.ok.inj hresult)
  refine ⟨rfl, hrun, made, hsafe, ?_, hstores⟩
  cases result with
  | ok data => cases hcount
  | error f =>
    rw [Except.error.inj hcount]
    exact hends

end OpenFile

end Sftp
