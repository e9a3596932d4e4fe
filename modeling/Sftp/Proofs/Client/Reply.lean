import Sftp.Proofs.OpenFile.Writing

/-!
# What a reply brings

Each operation of a client wants one thing of its reply. This file says for every reply what an operation
that wants something may make of it, and that the readers of replies do just that.

* `Want`, `Payload` — what is wanted, and what there is to give; `Want.read` — the reader for each.
* `StatusKind.ofCode` — the kind of failure that a status code means.
* `Want.Brings` — the replies that have what is wanted; `Message.Refused` — the faults of the others.
* **`Want.governs_read`** — a reader gives a result if the reply brings one, and a fault of that sort if
  it does not.
-/

namespace Sftp

/-! ## What is wanted -/

/-- What an operation wants of its reply. -/
inductive Want
  /-- A status that says that all went well. -/
  | confirmation
  /-- The handle of an object that was opened. -/
  | handle (kind : HandleKind) (path : Text)
  /-- Attributes. -/
  | attributes
  /-- Attributes, as the statistics of a name. -/
  | stats (name : Text)
  /-- Entries of a directory. The end of the directory is passed on as it is. -/
  | entries
  /-- One name, for a request of a kind. -/
  | oneName (asked : PacketKind)
  /-- Bytes, no more than were asked for, or the end of the file. -/
  | data (asked : Int)

/-- What an operation gives. -/
inductive Payload
  | nothing
  | handle (base : OpenHandle)
  | attributes (a : Attributes)
  | stats (s : FileStats)
  | entries (es : List NameEntry)
  | name (t : Text)
  | data (d : Bytes)
  deriving DecidableEq

namespace Want

/-- Reads a reply. -/
def read : Want → Packet → Except Fault Payload
  | confirmation, p => (Reply.ok p).map fun _ => .nothing
  | handle kind path, p => (Reply.handle p).map fun handle => .handle { kind, handle, path }
  | attributes, p => (Reply.attributes p).map .attributes
  | stats name, p => (Reply.attributes p).map fun a => .stats (.ofAttributes name a)
  | entries, p => (Reply.names false p).map .entries
  | oneName asked, p => (Reply.oneName asked p).map .name
  | data asked, p => (Reply.data asked p).map .data

/-- Whether an end of file is a failure like others. -/
def endIsFailure : Want → Bool
  | entries => false
  | _ => true

/-- **The replies that have what is wanted.** -/
inductive Brings : Want → Message → Payload → Prop
  /-- A status of success confirms. -/
  | confirmed {message lang : Text} :
    Brings confirmation (.status StatusCode.ok.number message lang) .nothing
  /-- A handle is that of the object. -/
  | handle {kind : HandleKind} {path : Text} {name : Bytes} :
    Brings (handle kind path) (.handle name) (.handle { kind, handle := name, path })
  /-- Attributes are given as they are. -/
  | attributes {a : Attributes} : Brings attributes (.attrs a) (.attributes a)
  /-- Attributes are the statistics. -/
  | stats {name : Text} {a : Attributes} :
    Brings (stats name) (.attrs a) (.stats (.ofAttributes name a))
  /-- Entries are given as they are. -/
  | entries {es : List NameEntry} : Brings entries (.name es) (.entries es)
  /-- One entry has the name. -/
  | oneName {asked : PacketKind} {e : NameEntry} :
    Brings (oneName asked) (.name [e]) (.name e.filename)
  /-- Bytes are given if they are no more than were asked for. -/
  | data {asked : Int} {d : Bytes} (hle : (d.length : Int) ≤ asked) :
    Brings (data asked) (.data d) (.data d)
  /-- At the end of the file there are no bytes. -/
  | endOfData {asked : Int} {message lang : Text} :
    Brings (data asked) (.status StatusCode.endOfFile.number message lang) (.data [])

end Want

/-- The kind of failure that a status code means. -/
def StatusKind.ofCode (code : Int) : StatusKind :=
  match StatusCode.ofNumber? code with
  | some .noSuchFile => .noSuchFile
  | some .permissionDenied => .permissionDenied
  | some .failure => .failure
  | some .badMessage => .badMessage
  | some .noConnection => .noConnection
  | some .connectionLost => .connectionLost
  | some .unsupported => .unsupported
  | _ => .general

/-- **The faults of replies** that do not have what is wanted. -/
inductive Message.Refused (endIsFailure : Bool) : Message → Fault → Prop
  /-- A status of failure is that failure, as the server sent it. -/
  | failure {code : Int} {message lang : Text} (hok : code ≠ StatusCode.ok.number)
      (hend : code ≠ StatusCode.endOfFile.number) :
    Refused endIsFailure (.status code message lang)
      (.status { kind := .ofCode code, code, message, lang })
  /-- An end of file is a failure like others where none was expected. -/
  | unexpectedEnd {message lang : Text} (h : endIsFailure = true) :
    Refused endIsFailure (.status StatusCode.endOfFile.number message lang)
      (.status { kind := .general, code := StatusCode.endOfFile.number, message, lang })
  /-- Otherwise it is the end. -/
  | endOfFile {message lang : Text} (h : endIsFailure = false) :
    Refused endIsFailure (.status StatusCode.endOfFile.number message lang) (.endOfFile message)
  /-- Any reply but a status of failure is a bad message. -/
  | unwanted {m : Message} (text : Text)
      (h : ∀ code message lang, m = .status code message lang → code = StatusCode.ok.number) :
    Refused endIsFailure m (.badMessage text)

/-- The result of an operation is what it wanted of the reply, or a fault if the reply does not have
it. -/
structure Want.Governs (w : Want) (m : Message) (result : Except Fault Payload) : Prop where
  /-- There is a result exactly if the reply brings it. -/
  brings : ∀ v, result = .ok v ↔ w.Brings m v
  /-- A fault is that of the reply. -/
  refused : ∀ {f}, result = .error f → m.Refused w.endIsFailure f

/-! ## Statuses -/

/-- A number is that of the code that it stands for. -/
theorem StatusCode.ofNumber?_eq_some {n : Int} {c : StatusCode} (h : ofNumber? n = some c) :
    n = c.number := by
  unfold ofNumber? at h
  split at h
  all_goals cases h
  all_goals rfl

/-- A status of failure is a failure of the kind that its code means. -/
theorem Fault.ofStatus_of_ne {code : Int} (message lang : Text) (hok : code ≠ StatusCode.ok.number)
    (hend : code ≠ StatusCode.endOfFile.number) :
    ofStatus code message lang = some (.status { kind := .ofCode code, code, message, lang }) := by
  unfold ofStatus StatusKind.ofCode
  cases hcode : StatusCode.ofNumber? code with
  | none => rfl
  | some c =>
    have hnumber := StatusCode.ofNumber?_eq_some hcode
    cases c with
    | ok => exact absurd hnumber hok
    | endOfFile => exact absurd hnumber hend
    | _ => rfl

namespace Reply

variable {α : Type} {endIsFailure : Bool} {code : Int} {message lang : Text} {f : Fault}
  {m : Message} {id : Int}

/-- The fault of a status is that of the reply. -/
theorem refused_of_statusFault (h : statusFault endIsFailure code message lang = some f) :
    (Message.status code message lang).Refused endIsFailure f := by
  by_cases hok : code = StatusCode.ok.number
  · rw [statusFault_eq_none_iff.mpr hok] at h
    cases h
  by_cases hend : code = StatusCode.endOfFile.number
  · subst hend
    cases endIsFailure with
    | true =>
      cases h
      exact .unexpectedEnd rfl
    | false =>
      cases h
      exact .endOfFile rfl
  · unfold statusFault at h
    rw [Fault.ofStatus_of_ne message lang hok hend] at h
    cases h
    exact .failure hok hend

/-- A reply whose payload is read is of the kind that is wanted. -/
theorem pick_of_payload {wanted : PacketKind} {pick : Message → Option α} {a : α}
    (h : payload wanted endIsFailure pick (.message id m) = .ok a) : pick m = some a := by
  unfold payload at h
  simp only at h
  split at h
  · rename_i hpick
    cases h
    exact hpick
  · split at h
    · cases h
    · cases h
  · cases h

/-- A reply whose payload is not read is of another kind, and its fault is that of the reply. -/
theorem refused_of_payload {wanted : PacketKind} {pick : Message → Option α}
    (h : payload wanted endIsFailure pick (.message id m) = .error f) :
    pick m = none ∧ m.Refused endIsFailure f := by
  unfold payload at h
  simp only at h
  split at h
  · cases h
  · rename_i code message lang hpick
    refine ⟨hpick, ?_⟩
    split at h
    · rename_i hfault
      cases h
      exact refused_of_statusFault hfault
    · rename_i hfault
      cases h
      apply Message.Refused.unwanted
      rintro _ _ _ ⟨⟩
      exact statusFault_eq_none_iff.mp hfault
  · rename_i hother hpick
    cases h
    refine ⟨hpick, .unwanted _ ?_⟩
    intro code message lang hm
    exact absurd hm (hother code message lang)

/-- Only a status confirms. -/
theorem ok_of_ne (h : m.kind ≠ .status) :
    ok (.message id m) = .error (unexpected .status m.kind.label) := by
  cases m with
  | status => exact absurd rfl h
  | _ => rfl

end Reply

namespace Want

variable {w : Want} {m : Message} {id : Int}

/-- A reply with what is wanted. -/
theorem Governs.of_brings {v : Payload} (h : w.Brings m v)
    (hunique : ∀ v', w.Brings m v' → v' = v) : w.Governs m (.ok v) where
  brings v' := by
    constructor
    · rintro ⟨⟩
      exact h
    · intro h'
      rw [hunique v' h']
  refused := nofun

/-- A reply without what is wanted. -/
theorem Governs.of_refused {f : Fault} (h : ∀ v, ¬ w.Brings m v)
    (hrefused : m.Refused w.endIsFailure f) : w.Governs m (.error f) where
  brings v := ⟨nofun, fun h' => absurd h' (h v)⟩
  refused := by
    rintro _ ⟨⟩
    exact hrefused

/-- What the messages of one kind hold is what is wanted. -/
theorem governs_payload {α : Type} {wanted : PacketKind} {pick : Message → Option α}
    {wrap : α → Payload} (h : ∀ v, w.Brings m v ↔ ∃ a, pick m = some a ∧ wrap a = v) :
    w.Governs m ((Reply.payload wanted w.endIsFailure pick (.message id m)).map wrap) := by
  cases hread : Reply.payload wanted w.endIsFailure pick (.message id m) with
  | ok a =>
    have hpick := Reply.pick_of_payload hread
    apply Governs.of_brings
    · exact (h _).mpr ⟨a, hpick, rfl⟩
    · intro v hv
      obtain ⟨a', ha', rfl⟩ := (h v).mp hv
      rw [Option.some.inj (hpick.symm.trans ha')]
  | error f =>
    obtain ⟨hpick, hrefused⟩ := Reply.refused_of_payload hread
    apply Governs.of_refused _ hrefused
    intro v hv
    obtain ⟨a, ha, -⟩ := (h v).mp hv
    cases hpick.symm.trans ha

/-- A confirmation is read. -/
theorem governs_ok : confirmation.Governs m (confirmation.read (.message id m)) := by
  rw [read]
  by_cases hkind : m.kind = .status
  · cases m with
    | status code message lang =>
      rw [Reply.ok]
      cases hfault : Reply.statusFault true code message lang with
      | none =>
        rw [Reply.statusFault_eq_none_iff.mp hfault]
        apply Governs.of_brings .confirmed
        rintro _ ⟨⟩
        rfl
      | some f =>
        apply Governs.of_refused
        · rintro _ ⟨⟩
          rw [Reply.statusFault_eq_none_iff.mpr rfl] at hfault
          cases hfault
        · exact Reply.refused_of_statusFault hfault
    | _ => cases hkind
  · rw [Reply.ok_of_ne hkind]
    apply Governs.of_refused
    · rintro _ ⟨⟩
      exact hkind rfl
    · apply Message.Refused.unwanted
      rintro _ _ _ rfl
      exact absurd rfl hkind

/-- One name is read. -/
theorem governs_oneName (asked : PacketKind) :
    (oneName asked).Governs m ((oneName asked).read (.message id m)) := by
  rw [read, Reply.oneName]
  cases hread : Reply.names true (.message id m) with
  | ok es =>
    have hpick := Reply.pick_of_payload hread
    cases m with
    | name =>
      cases hpick
      split
      · rename_i hone
        cases hone
        apply Governs.of_brings .oneName
        rintro _ ⟨⟩
        rfl
      · rename_i hmany hok
        cases hok
        apply Governs.of_refused
        · rintro _ ⟨⟩
          exact hmany _ rfl
        · exact .unwanted _ nofun
      · rename_i hok
        cases hok
    | _ => cases hpick
  | error f =>
    obtain ⟨hpick, hrefused⟩ := Reply.refused_of_payload hread
    apply Governs.of_refused
    · rintro _ ⟨⟩
      cases hpick
    · exact hrefused

/-- Bytes are read. -/
theorem governs_data (asked : Int) : (data asked).Governs m ((data asked).read (.message id m)) := by
  rw [read, Reply.data]
  split
  · rename_i d hread
    have hpick := Reply.pick_of_payload hread
    cases m with
    | data =>
      cases hpick
      by_cases hle : (d.length : Int) > asked
      · rw [if_pos hle]
        apply Governs.of_refused
        · rintro _ ⟨⟩
          omega
        · exact .unwanted _ nofun
      · rw [if_neg hle]
        apply Governs.of_brings (.data (Int.not_lt.mp hle))
        rintro _ ⟨⟩
        rfl
    | _ => cases hpick
  · rename_i message hread
    obtain ⟨-, hrefused⟩ := Reply.refused_of_payload hread
    cases hrefused with
    | endOfFile =>
      apply Governs.of_brings .endOfData
      rintro _ ⟨⟩
      rfl
  · rename_i f hnotEnd hread
    obtain ⟨hpick, hrefused⟩ := Reply.refused_of_payload hread
    apply Governs.of_refused
    · rintro _ ⟨⟩
      · cases hpick
      · cases hrefused with
        | failure _ hend => exact hend rfl
        | unexpectedEnd h => cases h
        | endOfFile => exact hnotEnd _ rfl
        | unwanted _ h => cases h _ _ _ rfl
    · cases hrefused with
      | failure hok hend => exact .failure hok hend
      | unexpectedEnd h => cases h
      | endOfFile => exact absurd rfl (hnotEnd _)
      | unwanted text h => exact .unwanted text h

/-- **Replies are read as they are wanted.** -/
theorem governs_read (w : Want) (id : Int) (m : Message) :
    w.Governs m (w.read (.message id m)) := by
  cases w with
  | confirmation => exact governs_ok
  | handle kind path =>
    apply governs_payload
    intro v
    constructor
    · rintro ⟨⟩
      exact ⟨_, rfl, rfl⟩
    · rintro ⟨a, ha, rfl⟩
      cases m with
      | handle h =>
        cases ha
        exact .handle
      | _ => cases ha
  | attributes =>
    apply governs_payload
    intro v
    constructor
    · rintro ⟨⟩
      exact ⟨_, rfl, rfl⟩
    · rintro ⟨a, ha, rfl⟩
      cases m with
      | attrs a =>
        cases ha
        exact .attributes
      | _ => cases ha
  | stats name =>
    apply governs_payload
    intro v
    constructor
    · rintro ⟨⟩
      exact ⟨_, rfl, rfl⟩
    · rintro ⟨a, ha, rfl⟩
      cases m with
      | attrs a =>
        cases ha
        exact .stats
      | _ => cases ha
  | entries =>
    apply governs_payload
    intro v
    constructor
    · rintro ⟨⟩
      exact ⟨_, rfl, rfl⟩
    · rintro ⟨a, ha, rfl⟩
      cases m with
      | name es =>
        cases ha
        exact .entries
      | _ => cases ha
  | oneName asked => exact governs_oneName asked
  | data asked => exact governs_data asked

end Want
end Sftp
