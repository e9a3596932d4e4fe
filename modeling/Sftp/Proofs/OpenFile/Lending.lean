import Sftp.Proofs.Client.Dealings
import Sftp.Proofs.OpenDirectory.Listing
import Sftp.Proofs.OpenFile.Refinement

/-!
# Servers that lend their file

A server that keeps the bytes of a file may give its handle to those who open the file under a path, and take
the handle back when it is released.

* `FileServer.Lends` — such a server; `FileServer.lending` — one with short reads, and
  **`FileServer.lending_lends`**.
* `OpenFile.Shows.run_read`, `OpenFile.Shows.run_write` — one read and one write in sequence of an open file
  that stands for a file in memory.
* **`OpenFile.Shows.run_close`** — its handle is released.
-/

namespace Sftp

open MemoryFile

/-! ## Servers -/

namespace FileServer

variable {σ : Type}

/-- **Servers that lend their file** under a path to those who open it with some flags. The file has other
bytes at first, if the flags say so. -/
structure Lends (server : FileServer σ) (limit : Int) (path : Text) (flags : OpenFlags)
    (first : Bytes → Bytes) : Prop where
  /-- Requests about the handle are answered as the bytes say. -/
  honest : server.Honest limit
  /-- To open the file brings the handle. -/
  opens : ∀ {id : Int} {frame : Bytes} (state : σ),
    (Packet.message id (.openFile path flags {})).encode = .ok frame →
    ∃ body, server.Answers frame state body (first (server.content state)) ∧
      body.Brief limit id (.handle server.handle)
  /-- To release the handle is confirmed. -/
  closes : ∀ {id : Int} {frame : Bytes} (state : σ),
    (Packet.message id (.close server.handle)).encode = .ok frame →
    ∃ body message lang, server.Answers frame state body (server.content state) ∧
      body.Brief limit id (.status StatusCode.ok.number message lang)

/-- What is answered by a server that lends its file, and the bytes of the file afterwards: a file that is
created is empty. -/
def lendingReply (most : Nat) (handle content : Bytes) : Message → Message × Bytes
  | .openFile _ flags _ => (.handle handle, if flags = .createEmpty then [] else content)
  | .close _ => (.status StatusCode.ok.number Text.empty Text.empty, content)
  | m => shortReply most content m

/-- A server that lends its file and brings at most so many bytes at once. -/
def lending (most : Nat) (handle : Bytes) : FileServer Bytes :=
  replying (lendingReply most handle) handle

/-- **It is honest, and lends its file** under every path. -/
theorem lending_lends {most : Nat} (hmost : 0 < most) (hword : 9 + most < Width.word.limit)
    {handle : Bytes} {limit : Int} (hlimit : 17 ≤ limit) (hhandle : (Message.handle handle).Sendable limit)
    {path : Text} (hpath : path.ReadsBack) (flags : OpenFlags) :
    (lending most handle).Lends limit path flags
      fun content => if flags = .createEmpty then [] else content where
  honest := by
    have hshort := short_honest hmost hword handle hlimit
    unfold short at hshort
    have hsame := @answers_of_same (shortReply most) (lendingReply most handle) handle handle
    unfold lending
    constructor
    · intro id offset length frame content hpos hframe hoffset
      obtain ⟨k, hk, hkle, h⟩ := hshort.read content hpos hframe hoffset
      rw [content_replying] at h ⊢
      exact ⟨k, hk, hkle, hsame hframe (fun _ ht => nomatch ht) rfl h⟩
    · intro id offset length frame content hpos hframe hoffset
      obtain ⟨body, message, lang, h, hbrief⟩ := hshort.readEnd content hpos hframe hoffset
      rw [content_replying] at h ⊢
      exact ⟨body, message, lang, hsame hframe (fun _ ht => nomatch ht) rfl h, hbrief⟩
    · intro id position data frame content hdata hframe
      obtain ⟨body, message, lang, h, hbrief⟩ := hshort.write content hdata hframe
      rw [content_replying] at h ⊢
      exact ⟨body, message, lang, hsame hframe (fun _ ht => nomatch ht) rfl h, hbrief⟩
    · intro id frame content hframe hlength
      obtain ⟨body, attrs, h, hbrief⟩ := hshort.fstat content hframe hlength
      rw [content_replying] at h ⊢
      exact ⟨body, attrs, hsame hframe (fun _ ht => nomatch ht) rfl h, hbrief⟩
    · intro id size frame content hframe
      obtain ⟨body, message, lang, h, hbrief⟩ := hshort.fsetstat content hframe
      rw [content_replying] at h ⊢
      exact ⟨body, message, lang, hsame hframe (fun _ ht => nomatch ht) rfl h, hbrief⟩
  opens := by
    intro id frame content hframe
    obtain ⟨hid, -⟩ := Packet.isEncodable_message_iff.mp ⟨frame, hframe⟩
    obtain ⟨answer, hanswer, -, hbrief⟩ := hhandle.brief hid
    refine ⟨_, replying_answers (lendingReply most handle) handle content hframe ?_ ⟨answer, hanswer⟩, hbrief⟩
    intro t ht
    rw [List.mem_singleton.mp ht]
    exact hpath
  closes := by
    intro id frame content hframe
    obtain ⟨hid, -⟩ := Packet.isEncodable_message_iff.mp ⟨frame, hframe⟩
    obtain ⟨hencodable, hbrief⟩ := brief_status hid hlimit .ok
    exact ⟨_, Text.empty, Text.empty, replying_answers (lendingReply most handle) handle content hframe
      (fun _ ht => nomatch ht) hencodable, hbrief⟩

end FileServer

/-! ## Reading, writing and releasing -/

namespace OpenFile

open Client Held

variable {σ : Type} {server : FileServer σ} {limit : Int} {patience : Nat} {file : OpenFile}
  {m : MemoryFile} {h : Held OpenFile σ}

/-- The packets of a file are those of the client that has opened it. -/
theorem packetSize_of_openFile {c c' : Client σ} {path : Text} {flags : OpenFlags} {attrs : Attributes}
    (hrun : (Client.openFile path flags attrs).run c = (.ok file, c')) :
    file.packetSize = c.settings.packetSize.toNat := by
  have hkeeps : ((Client.ask (.openFile path flags attrs) Reply.handle).run c).2.settings = c.settings := by
    obtain ⟨link, hlink, -⟩ := request_keeps c (.openFile path flags attrs)
    rw [Client.state_ask]
    show ((Client.request (.openFile path flags attrs)).run c).2.settings = c.settings
    rw [hlink]
  unfold Client.openFile at hrun
  rw [Step.run_bind] at hrun
  generalize (Client.ask (.openFile path flags attrs) Reply.handle).run c = after at hrun hkeeps
  rcases after with ⟨f | handle, c₁⟩
  · cases hrun
  · cases hrun
    exact congrArg (fun settings : SessionSettings => settings.packetSize.toNat) hkeeps

/-- What a call gave, if it gave something. -/
theorem eq_ok_of_yielding {α : Type} {make : α → Yield} (hmake : Function.Injective make)
    {outcome : Except Fault α × Held OpenFile σ} {x : α}
    (h : (Access.yielding make outcome).1 = .ok (make x)) : outcome.1 = .ok x := by
  rcases outcome with ⟨f | y, held⟩
  · cases h
  · exact congrArg Except.ok (hmake (Except.ok.inj h))

namespace Shows

variable (hfile : file.SuitedTo server limit) (hshows : Shows server limit patience file m h)

include hfile hshows

/-- **One read in sequence** brings the next bytes of the file. -/
theorem run_read (hserver : server.Honest limit) (hm : m.InBounds) {n : Nat}
    (hword : file.share (some n) < Width.word.limit) :
    ∃ h', (OpenFile.read (some n)).run h = (.ok (slice m.content m.offset (some n)), h') ∧
      Shows server limit patience file
        { m with offset := m.offset + (slice m.content m.offset (some n)).length } h' := by
  have hwanted : wanted (some (n : Int)) = some n := by
    unfold wanted
    rw [Option.filter_some, if_pos (decide_eq_true (Int.natCast_nonneg n))]
    rfl
  have hallowed : (Access.read (some (n : Int))).IsAllowed file patience m := by
    refine ⟨?_, fun h => ?_⟩
    · rw [hwanted]
      exact hword
    · cases hwanted.symm.trans h
  obtain ⟨houtcome, hafter⟩ := Access.refines_read hfile hshows hserver hm hallowed
  unfold MemoryFile.perform at houtcome hafter
  dsimp only at houtcome hafter
  rw [hwanted] at houtcome hafter
  have hdata := eq_ok_of_yielding (fun _ _ heq => Yield.bytes.inj heq) houtcome
  exact ⟨_, Prod.ext hdata rfl, hafter⟩

/-- **One write in sequence** puts the bytes where the file is. -/
theorem run_write (hserver : server.Honest limit) {data : Bytes}
    (hword : 21 + file.base.handle.length + min data.length file.packetSize < Width.word.limit)
    (hlength : (overwrite m.content m.offset data).length < Width.long.limit)
    (hoffset : m.offset + data.length < Width.long.limit) :
    ∃ h', (OpenFile.write data).run h = (.ok data.length, h') ∧
      Shows server limit patience file
        { content := overwrite m.content m.offset data, offset := m.offset + data.length } h' := by
  have hrefines : Access.Refines server limit patience file m h (.write data) :=
    Access.refines_write hfile hshows hserver hword ⟨hlength, hoffset⟩
  obtain ⟨houtcome, hafter⟩ := hrefines
  have hcount := eq_ok_of_yielding (fun _ _ heq => Int.ofNat.inj (Yield.number.inj heq)) houtcome
  exact ⟨_, Prod.ext hcount rfl, hafter⟩

/-- **The handle is released**, and that is all that goes out. -/
theorem run_close {path : Text} {flags : OpenFlags} {first : Bytes → Bytes}
    (hlends : server.Lends limit path flags first) :
    ∃ h', close.run h = (.ok ⟨⟩, h') ∧ h'.client.Served server limit patience m.content ∧
      h.client.Sends [.close server.handle] h'.client := by
  have hsuited := hshows.suited hfile
  have hroom : 9 + server.handle.length < Width.word.limit := by
    have := hfile.room
    omega
  obtain ⟨id, reply, c', hrun, hok, hc'⟩ := hshows.served.run_confirmed
    (fun id hid => (Packet.isEncodable_of_handle hroom).2.of_id hid) fun id frame hframe => by
      have hcloses := hlends.closes h.client.link.line.state hframe
      rwa [hshows.served.content] at hcloses
  have hask : (Client.closeHandle server.handle).run h.client = (.ok ⟨⟩, c') := by
    rw [Client.closeHandle, Client.run_ask, hrun]
    exact congrArg (·, c') hok
  have hclose := run_close_of_open (h := h) hsuited.isOpen
  have hhandle : (OwnsHandle.base h.object).handle = server.handle := hsuited.handle
  rw [hhandle, hask] at hclose
  refine ⟨_, hclose, hc', ?_⟩
  have hsends := Client.sends_of_answered (congrArg Prod.fst hrun)
  rwa [hrun] at hsends

end Shows

end OpenFile

end Sftp
