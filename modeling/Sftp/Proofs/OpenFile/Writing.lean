import Mathlib.Control.Monad.Basic
import Sftp.OpenFile

/-!
# Writes and what the server confirmed

Data are written slice by slice. A write goes on while the server confirms, and stops at the first
slice that it does not.

* `Packet.Confirms` — the replies that confirm a write; `Reply.ok_eq_ok_iff`.
* `OpenFile.Confirmed` — the server has confirmed a number of leading bytes of the data.
* `OpenFile.WriteEnds` — how a write ends: all bytes are confirmed, or the slice after those that are
  cannot be written.
* **`OpenFile.writeLoop_ends`** — every write ends in one of these ways, at the client that the
  confirmed slices leave.
* **`OpenFile.offset_of_failed_write`** — where the offset stands after a write in sequence that failed.
-/

namespace Sftp

/-! ## Confirmations -/

/-- Whether a reply says that all went well. -/
def Packet.Confirms (p : Packet) : Prop :=
  ∃ id message lang, p = .message id (.status StatusCode.ok.number message lang)

/-- A status stands for no fault if its number is the one of success. -/
theorem Fault.ofStatus_eq_none_iff {code : Int} (message lang : Text) :
    ofStatus code message lang = none ↔ code = StatusCode.ok.number := by
  unfold ofStatus
  constructor
  · intro h
    split at h
    · rename_i hcode
      unfold StatusCode.ofNumber? at hcode
      split at hcode
      · rfl
      all_goals cases hcode
    all_goals cases h
  · rintro rfl
    rw [StatusCode.ofNumber?_number]

/-- A status that is a fault where an end of file is none is one where it is, and the reverse. -/
theorem Reply.statusFault_eq_none_iff {endIsFailure : Bool} {code : Int} {message lang : Text} :
    statusFault endIsFailure code message lang = none ↔ code = StatusCode.ok.number := by
  rw [← Fault.ofStatus_eq_none_iff message lang]
  unfold statusFault
  split
  · rename_i hend
    rw [hend]
    exact ⟨nofun, nofun⟩
  · exact Iff.rfl

/-- A write is done if the reply confirms it. -/
theorem Reply.ok_eq_ok_iff {p : Packet} : Reply.ok p = .ok () ↔ p.Confirms := by
  constructor
  · intro h
    unfold Reply.ok at h
    split at h
    · rename_i id code message lang
      split at h
      · cases h
      · rename_i hnone
        rw [Reply.statusFault_eq_none_iff.mp hnone]
        exact ⟨id, message, lang, rfl⟩
    · cases h
  · rintro ⟨id, message, lang, rfl⟩
    have hnone : Reply.statusFault true StatusCode.ok.number message lang = none :=
      Reply.statusFault_eq_none_iff.mpr rfl
    simp only [Reply.ok]
    rw [hnone]

namespace OpenFile

variable {σ : Type}

open Held

/-- The server has confirmed the first bytes of data that go to an offset, as many as the number
says, slice by slice. The clients are those before the first slice and after the last. -/
inductive Confirmed (file : OpenFile) : Bytes → Int → Client σ → Nat → Client σ → Prop
  /-- No slice was sent. -/
  | none (data : Bytes) (offset : Int) (c : Client σ) : Confirmed file data offset c 0 c
  /-- The first slice was sent and confirmed, and then slices of the rest. -/
  | slice {data : Bytes} {offset : Int} {c c' c'' : Client σ} {reply : Packet} {k : Nat}
      (hdata : data ≠ [])
      (hreply : (Client.request (.write file.base.handle offset
        (data.take file.packetSize))).run c = (.ok reply, c'))
      (hconfirms : reply.Confirms)
      (h : Confirmed file (data.drop file.packetSize)
        (offset + (data.take file.packetSize).length) c' k c'') :
      Confirmed file data offset c ((data.take file.packetSize).length + k) c''

variable {file : OpenFile} {data : Bytes} {offset : Int} {c c' c'' : Client σ} {k : Nat}

/-- How a write of data to an offset ends, from a client that has it before it. -/
inductive WriteEnds (file : OpenFile) (data : Bytes) (offset : Int) (c : Client σ) :
    Nat → Option Fault → Client σ → Prop
  /-- All bytes are confirmed. -/
  | whole {c' : Client σ} (h : Confirmed file data offset c data.length c') :
      WriteEnds file data offset c data.length none c'
  /-- The slice after the first `k` bytes cannot be written. -/
  | stopped {k : Nat} {c' c'' : Client σ} {f : Fault} (h : Confirmed file data offset c k c')
      (hlt : k < data.length)
      (hfault : (Client.writeChunk file.base.handle (offset + k)
        ((data.drop k).take file.packetSize)).run c' = (.error f, c'')) :
      WriteEnds file data offset c k (some f) c''

/-- A write of a chunk that is done was confirmed. -/
theorem exists_reply_of_writeChunk {handle : Bytes}
    (h : (Client.writeChunk handle offset data).run c = (.ok (), c')) :
    ∃ reply, (Client.request (.write handle offset data)).run c = (.ok reply, c') ∧
      reply.Confirms := by
  unfold Client.writeChunk at h
  rw [Client.run_ask] at h
  rcases hrequest : (Client.request (.write handle offset data)).run c with ⟨f | reply, t⟩
  · rw [hrequest] at h
    cases h
  · rw [hrequest] at h
    simp only [Prod.mk.injEq] at h
    obtain ⟨hok, rfl⟩ := h
    exact ⟨reply, rfl, Reply.ok_eq_ok_iff.mp hok⟩

/-- Without data nothing is sent. -/
theorem run_writeLoop_nil (file : OpenFile) (offset : Int) (confirmed : Nat)
    (h : Held OpenFile σ) :
    (writeLoop file [] offset confirmed).run h = (.ok { done := confirmed }, h) := by
  rw [writeLoop]
  rfl

/-- The first slice is sent, and the others if it is confirmed. -/
theorem run_writeLoop_cons (hdata : data ≠ []) (confirmed : Nat) (h : Held OpenFile σ) :
    (writeLoop file data offset confirmed).run h =
      match (Client.writeChunk file.base.handle offset (data.take file.packetSize)).run h.client with
      | (.error f, c') =>
        (.ok { done := confirmed, fault := some (f.withConfirmed confirmed) },
          { h with client := c' })
      | (.ok (), c') =>
        (writeLoop file (data.drop file.packetSize)
          (offset + (data.take file.packetSize).length)
          (confirmed + (data.take file.packetSize).length)).run { h with client := c' } := by
  rw [writeLoop, dif_neg hdata]
  simp only
  rw [Step.run_bind, Step.run_attempt, run_onClient]
  simp only
  rcases (Client.writeChunk file.base.handle offset (data.take file.packetSize)).run h.client with
    ⟨f | u, c'⟩
  · rfl
  · rfl

/-- **Every write ends**, with all bytes confirmed or at the first slice that is not. -/
theorem writeLoop_ends (file : OpenFile) (data : Bytes) (offset : Int) (confirmed : Nat)
    (h : Held OpenFile σ) :
    ∃ k fault c', WriteEnds file data offset h.client k fault c' ∧
      (writeLoop file data offset confirmed).run h =
        (.ok { done := confirmed + k, fault := fault.map (Fault.withConfirmed (confirmed + k)) },
          { h with client := c' }) := by
  -- what is left after a slice is shorter
  induction hlength : data.length using Nat.strongRecOn generalizing data offset confirmed h with
  | ind n ih =>
    by_cases hdata : data = []
    · subst hdata
      exact ⟨0, none, h.client, .whole (.none _ _ _), run_writeLoop_nil file offset confirmed h⟩
    have hpos := file.packetSize_pos
    have hdataPos := List.length_pos_iff.mpr hdata
    have htake : (data.take file.packetSize).length = min file.packetSize data.length :=
      List.length_take
    have hdrop : (data.drop file.packetSize).length = data.length - file.packetSize :=
      List.length_drop
    rw [run_writeLoop_cons hdata]
    rcases hchunk : (Client.writeChunk file.base.handle offset
        (data.take file.packetSize)).run h.client with ⟨f | u, c'⟩
    · refine ⟨0, some f, c', .stopped (.none _ _ _) hdataPos ?_, rfl⟩
      rw [List.drop_zero, Int.natCast_zero, Int.add_zero]
      exact hchunk
    · obtain ⟨reply, hreply, hconfirms⟩ := exists_reply_of_writeChunk hchunk
      obtain ⟨k, fault, c'', hends, hrun⟩ := ih _ (by omega) (data.drop file.packetSize)
        (offset + (data.take file.packetSize).length)
        (confirmed + (data.take file.packetSize).length) { h with client := c' } rfl
      refine ⟨(data.take file.packetSize).length + k, fault, c'', ?_, ?_⟩
      · cases hends with
        | whole hrest =>
          have hall := Confirmed.slice hdata hreply hconfirms hrest
          have htotal : (data.take file.packetSize).length +
              (data.drop file.packetSize).length = data.length := by omega
          rw [htotal] at hall ⊢
          exact .whole hall
        | @stopped k c₁ _ f hrest hlt hfault =>
          -- the packet size is the length of the first slice, for there is a rest
          have hslice : (data.take file.packetSize).length = file.packetSize := by omega
          refine .stopped (.slice hdata hreply hconfirms hrest) (by omega) ?_
          rw [hslice, ← List.drop_drop, Int.natCast_add, ← Int.add_assoc]
          rw [hslice] at hfault
          exact hfault
      · simp only
        rw [hrun, Nat.add_assoc]

/-- **Where a write in sequence that fails leaves the offset.** The server has confirmed the first `k`
bytes, and the slice after them could not be written. The offset has moved by `k` if the fault of that
slice has a status, such as the server's refusal, an unexpected reply or a lost connection. After any
other fault, such as that of an offset that has no encoding, it is where it was. -/
theorem offset_of_failed_write {h h' : Held OpenFile σ} {data : Bytes} {f : Fault}
    (hopen : h.object.base.closed = false) (hfails : (write data).run h = (.error f, h')) :
    ∃ k c g, Confirmed h.object data h.object.offset h.client k c ∧ k < data.length ∧
      (Client.writeChunk h.object.base.handle (h.object.offset + k)
        ((data.drop k).take h.object.packetSize)).run c = (.error g, h'.client) ∧
      f = g.withConfirmed k ∧
      h'.object = { h.object with
        offset := h.object.offset + if g.status?.isSome then k else 0 } := by
  obtain ⟨k, fault, c, hends, hrun⟩ := writeLoop_ends h.object data h.object.offset 0 h
  unfold write at hfails
  rw [Step.run_bind, run_ensureOpen hopen] at hfails
  simp only at hfails
  rw [Step.run_bind, run_current] at hfails
  simp only at hfails
  rw [Step.run_bind, hrun] at hfails
  simp only [Nat.zero_add] at hfails
  cases hends with
  | whole hall => cases hfails
  | @stopped k c' _ g hconfirmed hlt hfault =>
    refine ⟨k, c', g, hconfirmed, hlt, ?_⟩
    cases g with
    | status e =>
      obtain ⟨hf, rfl⟩ := Prod.mk.inj hfails
      exact ⟨hfault, (Except.error.inj hf).symm, rfl⟩
    | _ =>
      obtain ⟨hf, rfl⟩ := Prod.mk.inj hfails
      refine ⟨hfault, (Except.error.inj hf).symm, ?_⟩
      rw [if_neg (by exact nofun), Int.natCast_zero, Int.add_zero]

/-- A file whose server confirms the first write, written one byte at a time, with its offset at the
last one that has an encoding. -/
def atLastOffset : Held OpenFile Unit where
  object := {
    base := { kind := .file, handle := [104], path := "/f" }
    flags := .createEmpty
    offset := 0xFFFFFFFFFFFFFFFF
    packetSize := 1
    packetSize_pos := by decide }
  client := {
    settings := { packetSize := 1 }
    link := {
      line := {
        peer := {
          write := fun _ s => (.ok [.chunk [0, 0, 0, 9, 101, 0, 0, 0, 0, 0, 0, 0, 0]], s)
          close := fun s => (none, s) }
        state := () }
      exchange := { limit := 64, reader := .running } }
    session := some { version := 3, extensions := .empty }
    patience := 8 }

/-- The second byte has no offset, so the write fails after one byte. -/
theorem offset_of_failed_write_atLastOffset :
    atLastOffset.object.base.closed = false ∧
      ((write [1, 2]).run atLastOffset).1 =
        .error (.unencodable (.outOfRange .long 0x10000000000000000)) ∧
      ∃ k c, Confirmed atLastOffset.object [1, 2] atLastOffset.object.offset
        atLastOffset.client k c ∧ k < 2 := by
  have hresult : ((write [1, 2]).run atLastOffset).1 =
      .error (.unencodable (.outOfRange .long 0x10000000000000000)) := by decide +kernel
  obtain ⟨k, c, -, hconfirmed, hlt, -⟩ :=
    offset_of_failed_write rfl (Prod.ext hresult rfl)
  exact ⟨rfl, hresult, k, c, hconfirmed, hlt⟩

/-- The first byte is confirmed and the second has no encoding, but the offset has not moved. -/
theorem offset_stays_atLastOffset :
    atLastOffset.object.base.closed = false ∧
      ((write [1, 2]).run atLastOffset).1 =
        .error (.unencodable (.outOfRange .long 0x10000000000000000)) ∧
      (∃ c, Confirmed atLastOffset.object [1, 2] atLastOffset.object.offset
        atLastOffset.client 1 c) ∧
      ((write [1, 2]).run atLastOffset).2.object.offset = atLastOffset.object.offset := by
  rcases hrequest : (Client.request (.write atLastOffset.object.base.handle
    atLastOffset.object.offset ([1, 2].take atLastOffset.object.packetSize))).run
    atLastOffset.client with ⟨result, c⟩
  have hreply : result = .ok (.message 0 (.status 0 Text.empty Text.empty)) := by
    refine (congrArg Prod.fst hrequest).symm.trans ?_
    decide +kernel
  subst hreply
  have hconfirms : Packet.Confirms (.message 0 (.status 0 Text.empty Text.empty)) :=
    ⟨0, Text.empty, Text.empty, rfl⟩
  have hconfirmed := Confirmed.slice (List.cons_ne_nil _ _) hrequest hconfirms (.none _ _ _)
  exact ⟨rfl, by decide +kernel, ⟨c, hconfirmed⟩, by decide +kernel⟩

end OpenFile

end Sftp
