import Sftp.Proofs.Client.Proper
import Sftp.Proofs.OpenFile.Requests

/-!
# Writes in slices

Data that are longer than a packet are cut into slices of the size of one, and each slice is written after
the one before it was confirmed. At the first that is not confirmed the write stops, and its fault says how
many bytes the server has confirmed: those of the slices before.

* `Dealing.IsConfirmed` — a request that the server has confirmed; `Dealing.written` — the bytes it carries.
* `OpenFile.HasRoom` — data that can be written at an offset; `Sliced.isEncodable` — each slice has a frame.
* `OpenFile.InPlace` — a request that carries the slice in its place; `Sliced.request`, `Sliced.together`,
  `Sliced.whole`, `Sliced.exists_last` — the requests of a write, each by induction on its slices.
* `OpenFile.WrittenInSlices` — how a write goes; **`OpenFile.writes_in_slices`** — both calls that write.
-/

namespace Sftp

/-! ## One request -/

namespace Dealing

variable {d : Dealing} {handle data : Bytes} {offset : Int}

/-- The server has confirmed the request. -/
def IsConfirmed (d : Dealing) : Prop :=
  ∃ reply, d.outcome = .ok reply ∧ reply.Confirms

/-- The bytes that a request to write carries. -/
def written (d : Dealing) : Bytes :=
  match d.request with
  | .write _ _ data => data
  | _ => []

theorem written_of_request (h : d.request = .write handle offset data) : d.written = data := by
  rw [written, h]

/-- The fault of a request to write is that of reading a confirmation. -/
theorem fault?_of_write (h : d.request = .write handle offset data) :
    d.fault? = faultOf (d.outcome.bind Reply.ok) := by
  obtain ⟨request, outcome⟩ := d
  obtain rfl : request = .write handle offset data := h
  exact Client.fault?_of_read (w := fun _ => .nothing) (fun _ => rfl) (by exact nofun) outcome

/-- A write has failed exactly if it was not confirmed. -/
theorem fault?_eq_none_iff_isConfirmed (h : d.request = .write handle offset data) :
    d.fault? = none ↔ d.IsConfirmed := by
  rw [fault?_of_write h, IsConfirmed]
  rcases d.outcome with f | reply
  · show some f = none ↔ _
    refine iff_of_false nofun ?_
    rintro ⟨reply, hreply, -⟩
    cases hreply
  · show faultOf (Reply.ok reply) = none ↔ _
    constructor
    · intro hnone
      cases hok : Reply.ok reply with
      | ok u => exact ⟨reply, rfl, Reply.ok_eq_ok_iff.mp hok⟩
      | error f =>
        rw [hok] at hnone
        cases hnone
    · rintro ⟨_, ⟨⟩, hconfirms⟩
      rw [Reply.ok_eq_ok_iff.mpr hconfirms]
      rfl

end Dealing

/-- A reply that does not confirm is a fault with a status. -/
theorem Reply.exists_status_of_ok {reply : Packet} {f : Fault} (h : Reply.ok reply = .error f) :
    ∃ e, f = .status e := by
  cases reply with
  | init v x => exact ⟨_, (Except.error.inj h).symm⟩
  | version v x => exact ⟨_, (Except.error.inj h).symm⟩
  | message id m =>
    have hgoverns := Want.confirmation.governs_read id m
    rw [Want.read, h] at hgoverns
    cases hgoverns.refused rfl with
    | failure _ _ | unexpectedEnd _ | unwanted _ _ => exact ⟨_, rfl⟩
    | endOfFile hend => cases hend

/-- A write that was answered, or failed with a status, fails with a status if it does. -/
theorem Dealing.exists_status_of_write {d : Dealing} {handle data : Bytes} {offset : Int} {f : Fault}
    (h : d.request = .write handle offset data)
    (hends : (∃ reply, d.outcome = .ok reply) ∨ ∃ e, d.outcome = .error (.status e))
    (hfault : d.fault? = some f) : ∃ e, f = .status e := by
  rw [fault?_of_write h] at hfault
  rcases hends with ⟨reply, hreply⟩ | ⟨e, he⟩
  · rw [hreply] at hfault
    change faultOf (Reply.ok reply) = some f at hfault
    cases hok : Reply.ok reply with
    | ok u =>
      rw [hok] at hfault
      cases hfault
    | error g =>
      rw [hok] at hfault
      obtain rfl : g = f := Option.some.inj hfault
      exact Reply.exists_status_of_ok hok
  · rw [he] at hfault
    exact ⟨e, (Option.some.inj hfault).symm⟩

namespace OpenFile

variable {σ : Type} {file : OpenFile} {data : Bytes} {offset : Int} {ds : List Dealing}
  {confirmed : Nat} {fault : Option Fault}

/-! ## Room -/

/-- Data that can be written at an offset. -/
structure HasRoom (file : OpenFile) (data : Bytes) (offset : Int) : Prop where
  /-- The offset is none before the file. -/
  start : 0 ≤ offset
  /-- Every offset in the data has an encoding. -/
  finish : offset + data.length ≤ Width.long.limit
  /-- So has the length of every body. The first is the longest. -/
  body : data ≠ [] → 21 + file.base.handle.length + min file.packetSize data.length < Width.word.limit

/-- The request for the first slice has a frame. -/
theorem HasRoom.isEncodable (h : file.HasRoom data offset) (hdata : data ≠ []) :
    (Packet.message 0 (.write file.base.handle offset (data.take file.packetSize))).IsEncodable := by
  obtain ⟨hstart, hfinish, hbody⟩ := h
  have hpos := List.length_pos_iff.mpr hdata
  refine (Packet.isEncodable_write_iff _ _ _ _).mpr ⟨⟨Int.le_refl 0, by decide⟩, ⟨hstart, ?_⟩, ?_⟩
  · show offset < Width.long.limit
    omega
  · rw [List.length_take]
    exact hbody hdata

/-- So have the requests for the others. -/
theorem HasRoom.rest (h : file.HasRoom data offset) :
    file.HasRoom (data.drop file.packetSize) (offset + (data.take file.packetSize).length) := by
  obtain ⟨hstart, hfinish, hbody⟩ := h
  have hlength := congrArg List.length (List.take_append_drop file.packetSize data)
  rw [List.length_append] at hlength
  refine ⟨by omega, by omega, fun hrest => ?_⟩
  have hroom := hbody fun hnone => hrest (by rw [hnone, List.drop_nil])
  omega

/-! ## Slice by slice -/

/-- A request carries the slice of data that stands after so many others of the size of a packet, and there
are bytes in it. -/
structure InPlace (file : OpenFile) (data : Bytes) (offset : Int) (k : Nat) (d : Dealing) : Prop where
  /-- It carries the slice. -/
  request : d.request = .write file.base.handle (offset + (k * file.packetSize : Nat))
    ((data.drop (k * file.packetSize)).take file.packetSize)
  /-- The slice begins in the data. -/
  inside : k * file.packetSize < data.length

/-- Where data are left after the first slice, it is as long as a packet. -/
theorem length_take_of_rest {k : Nat} (h : k < (data.drop file.packetSize).length) :
    (data.take file.packetSize).length = file.packetSize ∧ file.packetSize + k < data.length := by
  rw [List.length_drop] at h
  rw [List.length_take]
  omega

/-- The first slice stands at the beginning. -/
theorem inPlace_first {d : Dealing} (hdata : data ≠ [])
    (hrequest : d.request = .write file.base.handle offset (data.take file.packetSize)) :
    file.InPlace data offset 0 d := by
  constructor
  · rw [Nat.zero_mul, Int.natCast_zero, Int.add_zero, List.drop_zero]
    exact hrequest
  · rw [Nat.zero_mul]
    exact List.length_pos_iff.mpr hdata

/-- A slice of the rest stands one place later in the whole. -/
theorem InPlace.succ {k : Nat} {d : Dealing}
    (h : file.InPlace (data.drop file.packetSize) (offset + (data.take file.packetSize).length) k d) :
    file.InPlace data offset (k + 1) d := by
  obtain ⟨hrequest, hinside⟩ := h
  obtain ⟨hslice, hlt⟩ := length_take_of_rest hinside
  have hplace : (k + 1) * file.packetSize = file.packetSize + k * file.packetSize := by
    rw [Nat.succ_mul, Nat.add_comm]
  constructor
  · rw [hplace, Int.natCast_add, ← Int.add_assoc, ← List.drop_drop]
    rw [hslice] at hrequest
    exact hrequest
  · rw [hplace]
    exact hlt

namespace Sliced

/-- Data that have room are written with requests that have frames. -/
theorem isEncodable (h : Sliced file data offset ds confirmed fault) (hroom : file.HasRoom data offset) :
    ∀ d ∈ ds, (Packet.message 0 d.request).IsEncodable := by
  induction h with
  | done offset => exact List.forall_mem_nil _
  | next hdata hrequest _ _ ih =>
    exact List.forall_mem_cons.mpr ⟨hrequest ▸ hroom.isEncodable hdata, ih hroom.rest⟩
  | stopped hdata hrequest _ =>
    exact List.forall_mem_singleton.mpr (hrequest ▸ hroom.isEncodable hdata)

/-- Each request carries the slice in its place, and those before it were confirmed. -/
theorem request (h : Sliced file data offset ds confirmed fault) (earlier : List Dealing) (d : Dealing)
    (later : List Dealing) (hds : ds = earlier ++ d :: later) :
    file.InPlace data offset earlier.length d ∧ ∀ e ∈ earlier, e.IsConfirmed := by
  induction h generalizing earlier with
  | done offset => exact absurd hds.symm (List.append_ne_nil_of_right_ne_nil _ (List.cons_ne_nil _ _))
  | next hdata hrequest hdone _ ih =>
    cases earlier with
    | nil =>
      obtain ⟨rfl, rfl⟩ := List.cons.inj hds
      exact ⟨inPlace_first hdata hrequest, List.forall_mem_nil _⟩
    | cons first earlier =>
      obtain ⟨rfl, htail⟩ := List.cons.inj hds
      obtain ⟨hplace, hearlier⟩ := ih earlier htail
      have hconfirmed := (Dealing.fault?_eq_none_iff_isConfirmed hrequest).mp hdone
      exact ⟨hplace.succ, List.forall_mem_cons.mpr ⟨hconfirmed, hearlier⟩⟩
  | stopped hdata hrequest _ =>
    rcases List.append_eq_singleton_iff.mp hds.symm with ⟨rfl, hlast⟩ | ⟨-, hnone⟩
    · obtain ⟨rfl, -⟩ := List.cons.inj hlast
      exact ⟨inPlace_first hdata hrequest, List.forall_mem_nil _⟩
    · cases hnone

/-- What the first requests carry, one after another, is the beginning of the data. -/
theorem together (h : Sliced file data offset ds confirmed fault) (earlier later : List Dealing)
    (hds : ds = earlier ++ later) :
    earlier.flatMap Dealing.written = data.take (earlier.length * file.packetSize) := by
  have hnone : ∀ data : Bytes, data.take (([] : List Dealing).length * file.packetSize) = [] := by
    intro data
    rw [List.length_nil, Nat.zero_mul, List.take_zero]
  induction h generalizing earlier with
  | done offset =>
    obtain ⟨rfl, -⟩ := List.append_eq_nil_iff.mp hds.symm
    exact (hnone _).symm
  | next _ hrequest _ _ ih =>
    cases earlier with
    | nil => exact (hnone _).symm
    | cons first earlier =>
      obtain ⟨rfl, htail⟩ := List.cons.inj hds
      rw [List.flatMap_cons, Dealing.written_of_request hrequest, ih earlier htail, ← List.take_add,
        List.length_cons, Nat.succ_mul, Nat.add_comm]
  | stopped _ hrequest _ =>
    cases earlier with
    | nil => exact (hnone _).symm
    | cons first earlier =>
      obtain ⟨rfl, htail⟩ := List.cons.inj hds
      obtain ⟨rfl, -⟩ := List.append_eq_nil_iff.mp htail.symm
      rw [List.flatMap_singleton, Dealing.written_of_request hrequest, List.length_singleton, Nat.one_mul]

/-- If no request failed, all data are confirmed. -/
theorem whole (h : Sliced file data offset ds confirmed none) :
    confirmed = data.length ∧ (∀ d ∈ ds, d.IsConfirmed) ∧ data.length ≤ ds.length * file.packetSize := by
  generalize hfault : (none : Option Fault) = fault at h
  induction h with
  | done offset => exact ⟨rfl, List.forall_mem_nil _, Nat.zero_le _⟩
  | @next data offset d ds confirmed fault _ hrequest hdone _ ih =>
    obtain ⟨hcount, hall, hcovers⟩ := ih hfault
    have hconfirmed := (Dealing.fault?_eq_none_iff_isConfirmed hrequest).mp hdone
    have hlength := congrArg List.length (List.take_append_drop file.packetSize data)
    rw [List.length_append] at hlength
    have hslice := List.length_take_le file.packetSize data
    refine ⟨by omega, List.forall_mem_cons.mpr ⟨hconfirmed, hall⟩, ?_⟩
    rw [List.length_cons, Nat.succ_mul]
    omega
  | stopped _ _ _ => cases hfault

/-- If one did, it is the last, and the slices before it are confirmed. -/
theorem exists_last {f : Fault} (h : Sliced file data offset ds confirmed (some f)) :
    confirmed < data.length ∧ ∃ earlier last, ds = earlier ++ [last] ∧
      last.fault? = some f ∧ confirmed = earlier.length * file.packetSize := by
  generalize hfault : some f = fault at h
  induction h with
  | done offset => cases hfault
  | @next data offset d ds confirmed fault _ _ _ _ ih =>
    obtain ⟨hlt, earlier, last, rfl, hlast, hcount⟩ := ih hfault
    obtain ⟨hslice, hinside⟩ := length_take_of_rest hlt
    rw [hslice]
    refine ⟨hinside, d :: earlier, last, rfl, hlast, ?_⟩
    rw [List.length_cons, Nat.succ_mul, hcount, Nat.add_comm]
  | @stopped data offset d g hdata _ hlast =>
    obtain rfl := Option.some.inj hfault
    refine ⟨List.length_pos_iff.mpr hdata, [], d, rfl, hlast, ?_⟩
    rw [List.length_nil, Nat.zero_mul]

/-- None is made after one that is not confirmed. -/
theorem eq_nil_of_not_isConfirmed (h : Sliced file data offset ds confirmed fault) {earlier : List Dealing}
    {d : Dealing} {later : List Dealing} (hds : ds = earlier ++ d :: later) (hnot : ¬ d.IsConfirmed) :
    later = [] := by
  cases later with
  | nil => rfl
  | cons next later =>
    have hsplit := hds.trans (List.append_cons earlier d (next :: later))
    obtain ⟨-, hbefore⟩ := h.request _ _ _ hsplit
    exact absurd (hbefore d (List.mem_append_right _ (List.mem_singleton_self d))) hnot

end Sliced

/-! ## Both calls -/

/-- How a write of data to an offset goes: its requests, what goes out, and what it gives. -/
structure WrittenInSlices (h : Held OpenFile σ) (data : Bytes) (offset : Int) (ds : List Dealing)
    (result : Except Fault Nat) (c : Client σ) : Prop where
  /-- The requests are made one after another. -/
  deals : h.client.Deals ds c
  /-- Each carries the slice in its place, and is made after those before it were confirmed. -/
  request : ∀ earlier d later, ds = earlier ++ d :: later →
    h.object.InPlace data offset earlier.length d ∧ ∀ e ∈ earlier, e.IsConfirmed
  /-- One frame goes out for each, in order, and no other. Only for a request that fails there may be
  none. -/
  sends : h.client.Sends (ds.map Dealing.request) c ∨
    ∃ earlier last, ds = earlier ++ [last] ∧ ¬ last.IsConfirmed ∧
      h.client.Sends (earlier.map Dealing.request) c
  /-- If all are confirmed, they carry all of the data. -/
  complete : (∀ d ∈ ds, d.IsConfirmed) → ds.flatMap Dealing.written = data
  /-- The write gives the length of the data if all are confirmed, and no other number. -/
  returns : ∀ n, result = .ok n ↔ n = data.length ∧ ∀ d ∈ ds, d.IsConfirmed
  /-- A request that is not confirmed is the last. Its fault has a status, with which the write fails, and
  the number of confirmed bytes is that of all slices before it. -/
  fails : ∀ earlier last later, ds = earlier ++ last :: later → ¬ last.IsConfirmed →
    later = [] ∧ ∃ e, last.fault? = some (.status e) ∧
      result = .error (.status { e with confirmed := earlier.length * h.object.packetSize }) ∧
      (earlier.flatMap Dealing.written).length = earlier.length * h.object.packetSize

section calls

variable {h : Held OpenFile σ} {c : Client σ}

/-- A write none of whose slices failed. -/
theorem writtenInSlices_of_whole (hdeals : h.client.Deals ds c)
    (hsliced : Sliced h.object data offset ds confirmed none) :
    WrittenInSlices h data offset ds (.ok confirmed) c := by
  obtain ⟨rfl, hall, hcovers⟩ := hsliced.whole
  have hanswered : ∀ d ∈ ds, ∃ reply, d.outcome = .ok reply := fun d hd =>
    (hall d hd).imp fun _ => And.left
  refine ⟨hdeals, hsliced.request, .inl (hdeals.sends_of_answered hanswered), fun _ => ?_, fun n => ?_, ?_⟩
  · rw [hsliced.together ds [] (List.append_nil ds).symm, List.take_of_length_le hcovers]
  · exact ⟨fun hn => ⟨(Except.ok.inj hn).symm, hall⟩, fun hn => congrArg Except.ok hn.1.symm⟩
  · rintro earlier last later rfl hnot
    exact absurd (hall last (List.mem_append_right _ List.mem_cons_self)) hnot

/-- A write of which a slice failed. -/
theorem writtenInSlices_of_stopped {e : StatusError} (hdeals : h.client.Deals ds c)
    (hsliced : Sliced h.object data offset ds confirmed (some (.status e))) :
    WrittenInSlices h data offset ds (.error (.status { e with confirmed })) c := by
  obtain ⟨-, earlier, last, rfl, hlast, rfl⟩ := hsliced.exists_last
  obtain ⟨⟨hrequest, hinside⟩, hearlier⟩ := hsliced.request earlier last [] rfl
  have hnot : ¬ last.IsConfirmed := by
    rw [← Dealing.fault?_eq_none_iff_isConfirmed hrequest, hlast]
    exact nofun
  have hbroken : ¬ ∀ d ∈ earlier ++ [last], d.IsConfirmed := fun hall =>
    hnot (hall last (List.mem_append_right _ (List.mem_singleton_self last)))
  refine ⟨hdeals, hsliced.request, ?_, fun hall => absurd hall hbroken, fun n => ?_, ?_⟩
  · have hanswered : ∀ d ∈ earlier, ∃ reply, d.outcome = .ok reply := fun d hd =>
      (hearlier d hd).imp fun _ => And.left
    rcases hdeals.sends_of_earlier_answered hanswered with hwithout | hwith
    · exact .inr ⟨earlier, last, rfl, hnot, hwithout⟩
    · exact .inl hwith
  · exact ⟨nofun, fun hn => absurd hn.2 hbroken⟩
  · rintro earlier' last' later hds hnot'
    obtain rfl := hsliced.eq_nil_of_not_isConfirmed hds hnot'
    obtain ⟨rfl, hsame⟩ := List.append_inj' hds rfl
    obtain rfl := List.singleton_inj.mp hsame
    refine ⟨rfl, e, hlast, rfl, ?_⟩
    rw [hsliced.together earlier [last] rfl, List.length_take, Nat.min_eq_left (Nat.le_of_lt hinside)]

/-- A connected client writes data that have room in slices. -/
theorem exists_writtenInSlices {sort : Fault → Prop}
    (hsort : ∀ f, sort f → (f.isSystem || f.isInvalid) = true) (hc : h.client.Able sort)
    (hroom : h.object.HasRoom data offset) :
    ∃ ds t c, (writeLoop h.object data offset 0).run h = (.ok t, { h with client := c }) ∧
      WrittenInSlices h data offset ds (outcomeOf t) c := by
  obtain ⟨ds, confirmed, fault, c, hdeals, hsliced, hrun⟩ := sliced_writeLoop h.object data offset 0 h
  rw [Nat.zero_add] at hrun
  refine ⟨ds, _, c, hrun, ?_⟩
  cases fault with
  | none => exact writtenInSlices_of_whole hdeals hsliced
  | some f =>
    obtain ⟨-, earlier, last, rfl, hlast, -⟩ := hsliced.exists_last
    obtain ⟨⟨hrequest, -⟩, -⟩ := hsliced.request earlier last [] rfl
    have hends := hdeals.answered_or_status hsort hc (hsliced.isEncodable hroom) last
      (List.mem_append_right _ (List.mem_singleton_self last))
    obtain ⟨e, rfl⟩ := Dealing.exists_status_of_write hrequest hends hlast
    exact writtenInSlices_of_stopped hdeals hsliced

/-- **Writes go slice by slice.** A connected client, whose stream fails only with failures of the system and
of values, writes data that have room at an offset, whatever the server answers and whenever the connection
fails. The requests carry the consecutive slices of the size of a packet; each is made after the one before
was confirmed. The length of the data is given exactly if all are confirmed. Otherwise the write stops at
the first that is not, with a status and the number of bytes that were confirmed. -/
theorem writes_in_slices {sort : Fault → Prop} (hsort : ∀ f, sort f → (f.isSystem || f.isInvalid) = true)
    (hopen : h.object.base.closed = false) (hc : h.client.Able sort) (data : Bytes) :
    (h.object.HasRoom data h.object.offset → ∃ ds, WrittenInSlices h data h.object.offset ds
        ((write data).run h).1 ((write data).run h).2.client) ∧
      ∀ offset, h.object.HasRoom data offset → ∃ ds, WrittenInSlices h data offset ds
        ((writeAt data offset).run h).1 ((writeAt data offset).run h).2.client := by
  refine ⟨fun hroom => ?_, fun offset hroom => ?_⟩
  · obtain ⟨ds, t, c, hloop, hwritten⟩ := exists_writtenInSlices hsort hc hroom
    obtain ⟨offset, hrun⟩ := run_write_of_loop hopen hloop
    rw [hrun]
    exact ⟨ds, hwritten⟩
  · obtain ⟨ds, t, c, hloop, hwritten⟩ := exists_writtenInSlices hsort hc hroom
    rw [run_writeAt_of_loop hopen hloop]
    exact ⟨ds, hwritten⟩

end calls

/-- A file that is written two bytes at a time, on a server that confirms the first slice and has no room for
the second. -/
def fullDisk : Held OpenFile (List (Int → Packet)) where
  object := {
    base := { kind := .file, handle := [104], path := "/f" }
    flags := .createEmpty
    packetSize := 2
    packetSize_pos := Nat.two_pos }
  client := (Client.connect.run (Client.inTurn 10
    [fun id => .message id (.status StatusCode.ok.number Text.empty Text.empty),
      fun id => .message id (.status StatusCode.failure.number "disk full" Text.empty)])).2

/-- Of the five bytes two are confirmed, and the third slice is not sent. -/
theorem writes_in_slices_fullDisk :
    fullDisk.object.base.closed = false ∧
      fullDisk.client.Able (fun f => (f.isSystem || f.isInvalid) = true) ∧
      fullDisk.object.HasRoom [1, 2, 3, 4, 5] fullDisk.object.offset ∧
      ((write [1, 2, 3, 4, 5]).run fullDisk).1 = .error (.status {
        kind := .failure, code := 4, message := "disk full", lang := Text.empty, confirmed := 2 }) ∧
      ∃ ds, WrittenInSlices fullDisk [1, 2, 3, 4, 5] fullDisk.object.offset ds
        ((write [1, 2, 3, 4, 5]).run fullDisk).1 ((write [1, 2, 3, 4, 5]).run fullDisk).2.client := by
  have hable : fullDisk.client.Able (fun f => (f.isSystem || f.isInvalid) = true) :=
    Client.able_inTurn _ _ _ (by decide +kernel)
  have hroom : fullDisk.object.HasRoom [1, 2, 3, 4, 5] fullDisk.object.offset :=
    ⟨by decide, by decide, fun _ => by decide⟩
  exact ⟨rfl, hable, hroom, by decide +kernel,
    (writes_in_slices (fun _ => id) rfl hable [1, 2, 3, 4, 5]).1 hroom⟩

end OpenFile

end Sftp
