import Sftp.Proofs.Client.Asking
import Sftp.Proofs.Wire.NormalForm
import Sftp.Stream.Script

/-!
# What comes of requests over a sound stream

Over a stream that fails only with failures of the system, a request is answered, or has no frame, or fails
as the system does. What came in a reply had a body, so it can be sent back.

* `Packet.HasBody.wasRead` — the fields of a packet that was read.
* `Dealing.Proper.length_opened`, `Dealing.Proper.names` — handles leave room in a request, and names have
  bytes.
* **`Dealing.Proper.fault`** — a request that fails does so as the system, or has no frame.
* `Dealing.Proper.carried`, `Message.tooLong_of_path` — requests that have a frame, and paths that have none.
* `Client.inTurn` — a client of a far end that answers in turn.
-/

namespace Sftp

/-! ## Bodies -/

/-- A packet from a body was read from some of its bytes. -/
theorem Packet.HasBody.wasRead {p : Packet} (h : p.HasBody) :
    ∃ taken : Bytes, WasRead p.fields p.kind.missing taken ∧ taken.length < Width.word.limit := by
  obtain ⟨body, hread, hlength⟩ := h
  obtain ⟨taken, hbody, hp⟩ :=
    Reader.yields_packet body (Reader.packet.run body).2 p (Prod.ext hread rfl)
  refine ⟨taken, hp, Nat.lt_of_le_of_lt ?_ hlength⟩
  rw [hbody, List.length_append]
  exact Nat.le_add_right _ _

/-- A handle that was read leaves room in a request. -/
theorem Packet.HasBody.length_handle {id : Int} {handle : Bytes}
    (h : (Packet.message id (.handle handle)).HasBody) : 9 + handle.length < Width.word.limit := by
  obtain ⟨taken, hp, hlength⟩ := h.wasRead
  have hlayout : (Packet.message id (.handle handle)).layout.length ≤ taken.length + 0 := hp.length
  rw [Packet.length_layout_message] at hlayout
  simp only [Message.bytes, Message.fields, List.flatMap_cons, List.flatMap_nil, Field.bytes,
    PlainField.bytes, List.length_append, length_bigEndian, List.length_nil] at hlayout
  omega

/-- A name that was read has bytes. -/
theorem Packet.HasBody.names {id : Int} {entries : List NameEntry}
    (h : (Packet.message id (.name entries)).HasBody) :
    ∀ e ∈ entries, e.filename.IsEncodable := by
  obtain ⟨taken, hp, -⟩ := h.wasRead
  intro e he
  have htext : e.filename ∈ (Packet.message id (.name entries)).texts :=
    List.mem_flatMap.mpr ⟨e, he, List.mem_cons_self⟩
  obtain ⟨f, hf, ht⟩ := Packet.exists_field_of_mem_texts htext
  exact (hp.texts f hf _ ht).isEncodable

/-! ## Proper dealings -/

/-- A fault with a status is one of the system. -/
theorem Fault.isSystem_status (e : StatusError) : (Fault.status e).isSystem = true := by
  obtain ⟨kind, code, message, lang, confirmed⟩ := e
  cases kind with
  | _ => rfl

/-- Only requests to read a directory take its end for an answer. -/
theorem Message.kind_of_endIsFailure {m : Message} (h : m.wants.endIsFailure = false) :
    m.kind = .readdir := by
  cases m with
  | readdir handle => rfl
  | _ => cases h

namespace Dealing.Proper

variable {d : Dealing} {f : Fault} {handle : Bytes}

/-- A handle that a request brought leaves room in others. -/
theorem length_opened (h : d.Proper) (hopened : d.opened? = some handle) :
    9 + handle.length < Width.word.limit := by
  obtain ⟨base, hresult, rfl⟩ : ∃ base, d.result = .ok (.handle base) ∧ base.handle = handle := by
    unfold opened? at hopened
    split at hopened
    · rename_i base hresult
      exact ⟨base, hresult, Option.some.inj hopened⟩
    · cases hopened
  cases h with
  | @answered id reply hreply hbody =>
    have hgoverns := d.request.wants.governs_read id reply
    rw [← result_of_ok hreply] at hgoverns
    have hbrings := (hgoverns.brings _).mp hresult
    generalize d.request.wants = want at hbrings
    cases hbrings with
    | handle => exact hbody.length_handle
  | unmade hfault _ _ | failed hfault _ => cases (result_of_error hfault).symm.trans hresult

/-- Names in replies have bytes. -/
theorem names (h : d.Proper) : ∀ name ∈ d.names, name.IsEncodable := by
  intro name hname
  unfold Dealing.names at hname
  cases h with
  | @answered id reply hreply hbody =>
    rw [hreply] at hname
    cases reply with
    | name entries =>
      obtain ⟨e, he, rfl⟩ := List.mem_map.mp hname
      exact hbody.names e he
    | _ => cases hname
  | unmade hfault _ _ | failed hfault _ =>
    rw [hfault] at hname
    cases hname

/-- **A request that fails** does so as the system or the server, or has no frame. -/
theorem fault (h : d.Proper) (hf : d.fault? = some f) :
    f.isSystem = true ∨ ∃ id cause, f = .unencodable cause ∧ Width.word.Fits id ∧
      (Packet.message id d.request).encode = .error cause := by
  obtain ⟨hresult, hend⟩ := of_fault?_eq_some hf
  cases h with
  | @answered id reply hreply hbody =>
    have hgoverns := d.request.wants.governs_read id reply
    rw [← result_of_ok hreply] at hgoverns
    cases hgoverns.refused hresult with
    | failure _ _ | unexpectedEnd _ | unwanted _ _ => exact .inl (Fault.isSystem_status _)
    | endOfFile hanswer => exact absurd ⟨Message.kind_of_endIsFailure hanswer, rfl⟩ hend
  | @unmade id cause hfault hid hencode =>
    obtain rfl := Except.error.inj ((result_of_error hfault).symm.trans hresult)
    exact .inr ⟨id, cause, rfl, hid, hencode⟩
  | failed hfault hsystem =>
    obtain rfl := Except.error.inj ((result_of_error hfault).symm.trans hresult)
    exact .inl hsystem

/-- A request that has a frame goes out. -/
theorem carried (h : d.Proper) (hencodable : (Packet.message 0 d.request).IsEncodable) :
    d.carried? = some d.request := by
  unfold carried?
  cases h with
  | answered hreply _ => rw [hreply]
  | @unmade id cause _ hid hencode =>
    obtain ⟨frame, hframe⟩ := hencodable.of_id hid
    cases hframe.symm.trans hencode
  | @failed f hfault hsystem =>
    rw [hfault]
    cases f with
    | unencodable cause =>
      cases cause with
      | _ => cases hsystem
    | _ => rfl

end Dealing.Proper

/-! ## Requests about paths -/

/-- The paths that a walk asks about. -/
theorem Message.tooLong_of_path {m : Message} {path : Text} {id : Int} {cause : EncodeFault}
    (hm : m = .lstat path ∨ m = .opendir path) (hpath : path.IsEncodable) (hid : Width.word.Fits id)
    (hencode : (Packet.message id m).encode = .error cause) : ∃ length, cause = .tooLong length := by
  have hfields : m.fields = [PlainField.text path].map Field.plain := by
    rcases hm with rfl | rfl
    · rfl
    · rfl
  exact Packet.tooLong_of_encode hid hfields (List.forall_mem_singleton.mpr hpath) hencode

/-! ## Far ends that answer in turn -/

/-- A far end that answers one frame after another, whatever they say. Replies take the id of the frame. -/
def Peer.inTurn : Peer (List (Int → Packet)) where
  write frame
    | [] => (.ok [], [])
    | reply :: replies =>
      match (reply (Script.frameId frame)).encode with
      | .ok bytes => (.ok [.chunk bytes], replies)
      | .error _ => (.ok [], replies)
  close replies := (none, replies)

/-- It refuses nothing. -/
theorem Peer.failsOnly_inTurn (sort : Fault → Prop) : inTurn.FailsOnly sort where
  write frame replies f h := by
    cases replies with
    | nil => cases h
    | cons reply replies =>
      unfold inTurn at h
      dsimp only at h
      split at h
      · cases h
      · cases h
  flush replies f h := by cases h

/-- A client of such a far end, which agrees on the version first. -/
def Client.inTurn (patience : Nat) (replies : List (Int → Packet)) : Client (List (Int → Packet)) :=
  make default { peer := .inTurn, state := (fun _ => .version 3 .empty) :: replies } patience

/-- Once it is connected, it can be used. -/
theorem Client.able_inTurn (sort : Fault → Prop) (patience : Nat) (replies : List (Int → Packet))
    (hok : (connect.run (inTurn patience replies)).1 = .ok ⟨⟩) :
    (connect.run (inTurn patience replies)).2.Able sort :=
  able_connect rfl rfl (fun _ h => nomatch h) (Peer.failsOnly_inTurn sort) hok

end Sftp
