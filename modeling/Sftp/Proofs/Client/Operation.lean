import Sftp.OpenDirectory
import Sftp.Proofs.Client.Reply
import Sftp.Proofs.Link.Answer
import Sftp.Proofs.Wire.Encoded

/-!
# Operations of one request

Most operations of a client send one request and turn its reply into their result. What the result is
depends on the operation only by what it wants.

* `Client.Operation` — the operations; `Operation.request` and `Operation.wants` — what each of them sends
  and what it wants of the reply.
* `Client.perform` — an operation is carried out; `Client.run_perform` — that is asking for what is
  wanted.
* **`Client.perform_answered`** — an operation that is answered sends one frame, its result is that of
  the reply, and the client is as ready as before.
-/

namespace Sftp

namespace Client

/-- The operations of one request. -/
inductive Operation
  | openFile (path : Text) (flags : OpenFlags) (attrs : Attributes)
  | openToRead (path : Text)
  | create (path : Text)
  | openDirectory (path : Text)
  | closeHandle (handle : Bytes)
  | readChunk (handle : Bytes) (offset length : Int)
  | writeChunk (handle : Bytes) (offset : Int) (data : Bytes)
  | handleAttributes (handle : Bytes)
  | setHandleAttributes (handle : Bytes) (attrs : Attributes)
  | readDirectory (handle : Bytes)
  | remove (path : Text)
  | rename (oldPath newPath : Text)
  | makeDirectory (path : Text) (mode : Option Int)
  | removeDirectory (path : Text)
  | stat (path : Text)
  | lstat (path : Text)
  | setAttributes (path : Text) (attrs : Attributes)
  | changeMode (path : Text) (mode : Int)
  | changeOwner (path : Text) (uid gid : Int)
  | changeTimes (path : Text) (atime mtime : Int)
  | truncate (path : Text) (size : Int)
  | readLink (path : Text)
  | makeLink (target link : Text)
  | realPath (path : Text)

namespace Operation

/-- What an operation sends. -/
def request : Operation → Message
  | openFile path flags attrs => .openFile path flags attrs
  | openToRead path => .openFile path .read {}
  | create path => .openFile path .createEmpty {}
  | openDirectory path => .opendir path
  | closeHandle handle => .close handle
  | readChunk handle offset length => .read handle offset length
  | writeChunk handle offset data => .write handle offset data
  | handleAttributes handle => .fstat handle
  | setHandleAttributes handle attrs => .fsetstat handle attrs
  | readDirectory handle => .readdir handle
  | remove path => .remove path
  | rename oldPath newPath => .rename oldPath newPath
  | makeDirectory path mode => .mkdir path { permissions := mode }
  | removeDirectory path => .rmdir path
  | stat path => .stat path
  | lstat path => .lstat path
  | setAttributes path attrs => .setstat path attrs
  | changeMode path mode => .setstat path { permissions := some mode }
  | changeOwner path uid gid => .setstat path { uid := some uid, gid := some gid }
  | changeTimes path atime mtime => .setstat path { atime := some atime, mtime := some mtime }
  | truncate path size => .setstat path { size := some size }
  | readLink path => .readlink path
  | makeLink target link => .symlink target link
  | realPath path => .realpath path

/-- What an operation wants of its reply. -/
def wants : Operation → Want
  | openFile path .. => .handle .file path
  | openToRead path => .handle .file path
  | create path => .handle .file path
  | openDirectory path => .handle .directory path
  | readChunk _ _ length => .data length
  | handleAttributes _ => .attributes
  | readDirectory _ => .entries
  | stat path => .stats path.leafName
  | lstat path => .stats path.leafName
  | readLink _ => .oneName .readlink
  | realPath _ => .oneName .realpath
  | closeHandle .. | writeChunk .. | setHandleAttributes .. | remove .. | rename .. | makeDirectory ..
  | removeDirectory .. | setAttributes .. | changeMode .. | changeOwner .. | changeTimes ..
  | truncate .. | makeLink .. => .confirmation

end Operation

variable {σ : Type} {α β : Type}

/-- Carries out an operation and gives its result. -/
def perform : Operation → Step (Client σ) Payload
  | .openFile path flags attrs => (fun opened => .handle opened.base) <$> openFile path flags attrs
  | .openToRead path => (fun opened => .handle opened.base) <$> openToRead path
  | .create path => (fun opened => .handle opened.base) <$> create path
  | .openDirectory path => (fun opened => .handle opened.base) <$> openDirectory path
  | .closeHandle handle => (fun _ => .nothing) <$> closeHandle handle
  | .readChunk handle offset length => .data <$> readChunk handle offset length
  | .writeChunk handle offset data => (fun _ => .nothing) <$> writeChunk handle offset data
  | .handleAttributes handle => .attributes <$> handleAttributes handle
  | .setHandleAttributes handle attrs => (fun _ => .nothing) <$> setHandleAttributes handle attrs
  | .readDirectory handle => .entries <$> readDirectory handle
  | .remove path => (fun _ => .nothing) <$> remove path
  | .rename oldPath newPath => (fun _ => .nothing) <$> rename oldPath newPath
  | .makeDirectory path mode => (fun _ => .nothing) <$> makeDirectory path mode
  | .removeDirectory path => (fun _ => .nothing) <$> removeDirectory path
  | .stat path => .stats <$> stat path
  | .lstat path => .stats <$> lstat path
  | .setAttributes path attrs => (fun _ => .nothing) <$> setAttributes path attrs
  | .changeMode path mode => (fun _ => .nothing) <$> changeMode path mode
  | .changeOwner path uid gid => (fun _ => .nothing) <$> changeOwner path uid gid
  | .changeTimes path atime mtime => (fun _ => .nothing) <$> changeTimes path atime mtime
  | .truncate path size => (fun _ => .nothing) <$> truncate path size
  | .readLink path => .name <$> readLink path
  | .makeLink target link => (fun _ => .nothing) <$> makeLink target link
  | .realPath path => .name <$> realPath path

/-- What is made of the result of asking is made of the reply. -/
theorem run_map_ask (wrap : α → β) (m : Message) (read : Packet → Except Fault α) (c : Client σ) :
    (wrap <$> ask m read).run c = (ask m fun p => (read p).map wrap).run c := by
  rw [Step.run_map, run_ask, run_ask]
  rcases (request m).run c with ⟨f | reply, c'⟩
  · rfl
  · rfl

/-- So it is if something else is made of it before. -/
theorem run_map_map_ask {γ : Type} (wrap : β → γ) (make : α → β) (m : Message)
    (read : Packet → Except Fault α) (c : Client σ) :
    (wrap <$> make <$> ask m read).run c =
      (ask m fun p => (read p).map fun a => wrap (make a)).run c := by
  rw [Step.run_map, Step.run_map, run_ask, run_ask]
  rcases (request m).run c with ⟨f | reply, c'⟩
  · rfl
  · simp only
    cases read reply with
    | error f => rfl
    | ok a => rfl

/-- A file that is opened has the handle of the reply. -/
theorem run_map_openFile (path : Text) (flags : OpenFlags) (attrs : Attributes) (c : Client σ) :
    ((fun file => Payload.handle file.base) <$> openFile path flags attrs).run c =
      (ask (.openFile path flags attrs) (Want.handle .file path).read).run c := by
  unfold openFile
  rw [Step.run_map, Step.run_bind, run_ask, run_ask]
  rcases (request (.openFile path flags attrs)).run c with ⟨f | reply, c'⟩
  · rfl
  · cases hread : Reply.handle reply with
    | error f => simp only [hread, Want.read, Except.map]
    | ok handle =>
      simp only [hread, Want.read, Except.map]
      rfl

/-- **An operation asks for what it wants.** -/
theorem run_perform (op : Operation) (c : Client σ) :
    (perform op).run c = (ask op.request op.wants.read).run c := by
  cases op with
  | openFile path flags attrs => exact run_map_openFile path flags attrs c
  | openToRead path => exact run_map_openFile path .read {} c
  | create path => exact run_map_openFile path .createEmpty {} c
  | openDirectory path => exact run_map_map_ask _ _ _ _ c
  | stat path => exact run_map_map_ask _ _ _ _ c
  | lstat path => exact run_map_map_ask _ _ _ _ c
  | _ => exact run_map_ask _ _ _ c

/-- **An operation that is answered.** A client with a session is ready for a request, the request of an
operation has a frame under the next id, and the far end takes that frame and answers with the frame of
some reply that has the same id and is not too long. Then the frame is all that is sent, the result of
the operation is that of the reply, and the client is ready again, with the same requests under way. -/
theorem perform_answered {c : Client σ} (hsession : c.session ≠ none) (hready : c.link.Ready)
    (op : Operation) {reply : Message} {id : Int} {frame body : Bytes} {arrivals : List Arrival}
    {state : σ} (hid : c.link.exchange.nextId.1 = some id)
    (hencode : (Packet.message id op.request).encode = .ok frame)
    (hwrite : c.link.line.peer.write frame c.link.line.state = (.ok arrivals, state))
    (hcarry : Arrival.Carry arrivals body) (hlimit : (body.length : Int) ≤ c.link.exchange.limit)
    (hreply : Packet.ofBody body = .ok (.message id reply))
    (hflush : (c.link.line.peer.flushed state).1 = none) :
    ∃ result link, (perform op).run c = (result, { c with link }) ∧ op.wants.Governs reply result ∧
      c.link.Served frame (c.link.line.peer.flushed state).2 link := by
  obtain ⟨session, hsession⟩ := Option.ne_none_iff_exists'.mp hsession
  obtain ⟨link, hsend, hserved⟩ :=
    hready.run_send hid hencode hwrite hcarry hlimit hreply hflush
  refine ⟨op.wants.read (.message id reply), link, ?_, op.wants.governs_read id reply, hserved⟩
  rw [run_perform, run_ask, run_request hsession, run_onLink, hsend]

/-! ## A far end with one answer -/

/-- A client whose far end answers every frame with the same message, on a connection with a limit for
frames. -/
def answeredWith (reply : Message) (limit : Int) (hlimit : 1 ≤ limit) : Client Unit where
  settings := { packetSize := 1, frameSize := limit, bounds := ⟨by decide, hlimit⟩ }
  link := {
    line := {
      peer := {
        write := fun _ s => (.ok [.chunk (bigEndian 4 (Packet.message 0 reply).layout.length ++
          (Packet.message 0 reply).layout)], s)
        close := fun s => (none, s) }
      state := () }
    exchange := { limit, reader := .running } }
  session := some { version := 3, extensions := .empty }
  patience := 1

/-- It is ready for a request. -/
theorem ready_answeredWith (reply : Message) (limit : Int) (hlimit : 1 ≤ limit) :
    (answeredWith reply limit hlimit).link.Ready :=
  Link.ready_of_started limit rfl rfl

/-- A status with a vendor's code. -/
def vendorStatus : Message :=
  .status 1000 "quota" "en"

/-- A status that says that all went well. -/
def plainSuccess : Message :=
  .status StatusCode.ok.number Text.empty Text.empty

/-- The frame of a request to remove a file. -/
def removal : Bytes :=
  [0, 0, 0, 11, 13, 0, 0, 0, 0, 0, 0, 0, 2, 47, 102]

/-- A vendor's code is passed on with its text. -/
theorem perform_answered_vendorStatus :
    (answeredWith vendorStatus 64 (by decide)).session ≠ none ∧
      (answeredWith vendorStatus 64 (by decide)).link.Ready ∧
      (Packet.message 0 (Operation.remove "/f").request).encode = .ok removal ∧
      ((Packet.message 0 vendorStatus).layout.length : Int) ≤ 64 ∧
      Packet.ofBody (Packet.message 0 vendorStatus).layout = .ok (.message 0 vendorStatus) ∧
      ((perform (.remove "/f")).run (answeredWith vendorStatus 64 (by decide))).1 =
        .error (.status { kind := .general, code := 1000, message := "quota", lang := "en" }) := by
  have hencode : (Packet.message 0 (Operation.remove "/f").request).encode = .ok removal := by
    decide +kernel
  have hlength : (Packet.message 0 vendorStatus).layout.length < Width.word.limit := by
    decide +kernel
  have hlimit : ((Packet.message 0 vendorStatus).layout.length : Int) ≤ 64 := by decide +kernel
  have hreply : Packet.ofBody (Packet.message 0 vendorStatus).layout =
      .ok (.message 0 vendorStatus) := by decide +kernel
  have hready := ready_answeredWith vendorStatus 64 (by decide)
  obtain ⟨result, link, hrun, hgoverns, -⟩ := perform_answered
    (c := answeredWith vendorStatus 64 (by decide)) nofun hready (.remove "/f") rfl hencode rfl
    (Arrival.carry_chunk hlength) hlimit hreply rfl
  refine ⟨nofun, hready, hencode, hlimit, hreply, ?_⟩
  rw [hrun]
  cases result with
  | ok v => cases (hgoverns.brings v).mp rfl
  | error f =>
    cases hgoverns.refused rfl with
    | failure => rfl
    | unwanted _ h => cases h _ _ _ rfl

/-- A status of success does not fit into the frames of a tight connection, and so the operation that it
confirms fails. -/
theorem success_breaks_tightConnection :
    (answeredWith plainSuccess 10 (by decide)).session ≠ none ∧
      (answeredWith plainSuccess 10 (by decide)).link.Ready ∧
      (Packet.message 0 (Operation.remove "/f").request).encode = .ok removal ∧
      Packet.ofBody (Packet.message 0 plainSuccess).layout = .ok (.message 0 plainSuccess) ∧
      (Operation.remove "/f").wants.Brings plainSuccess .nothing ∧
      ((perform (.remove "/f")).run (answeredWith plainSuccess 10 (by decide))).1 = .error (.lost
        "connection lost: sftp: frame of 17 bytes exceeds limit of 10 (SSH_FX_BAD_MESSAGE)") := by
  refine ⟨nofun, ready_answeredWith _ _ _, by decide +kernel, by decide +kernel, .confirmed, ?_⟩
  decide +kernel

end Client
end Sftp
