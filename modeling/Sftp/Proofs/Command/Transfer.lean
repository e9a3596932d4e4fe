import Sftp.Proofs.Command.Requests
import Sftp.Proofs.OpenFile.Lending

/-!
# Copies

To copy a file is to open it at the server, to move its bytes chunk by chunk, each in packets, and to release
its handle. However a server cuts its replies, and wherever chunks and packets cut the file, the copy has the
same bytes. If a transfer is refused, nothing comes after it but the release.

* **`Copying.run_receive_served`**, **`Copying.run_transmit_served`** — the chunks of a copy in each direction,
  by induction on them; `Copying.run_during_served` — the handle around them.
* `Command.Offered`, `Command.Copies` — what an exact copy needs, and what it comes to;
  `Command.run_download_served`, `Command.run_upload_served`.
* `Message.IsRefusedBy`, `StatusError.Tells` — statuses that refuse a transfer, and their errors;
  `Command.Copied.stops` — what becomes of a copy then.
* **`Command.copies_exactly`** — both directions.
-/

namespace Sftp

open Dealing MemoryFile

/-! ## Requests that did not fail -/

section sent

variable {σ α : Type} {c c' : Client σ} {d : Dealing} {ds : List Dealing} {handle : Bytes}
  {own : Nat → Fault → Prop}

/-- A request that has not failed was answered, unless it is one to read a directory. -/
theorem Dealing.exists_reply (hnone : d.fault? = none) (hkind : d.request.kind ≠ .readdir) :
    ∃ reply, d.outcome = .ok reply := by
  rcases fault?_eq_none_iff.mp hnone with ⟨payload, hresult⟩ | ⟨hreaddir, -⟩
  · cases houtcome : d.outcome with
    | ok reply => exact ⟨reply, rfl⟩
    | error f => cases (result_of_error houtcome).symm.trans hresult
  · exact absurd hreaddir hkind

/-- A request that moves bytes reads no directory. -/
theorem Message.IsTransfer.kind_ne {m : Message} (h : m.IsTransfer handle) : m.kind ≠ .readdir := by
  cases h with
  | read _ _ => exact nofun
  | write _ _ => exact nofun

/-- **Bytes that were moved** without a fault were moved by requests that have gone out. -/
theorem Dealing.Transferring.sends {x : α} (h : Transferring handle own (.ok x) ds)
    (hdeals : c.Deals ds c') :
    ∃ moved, (∀ m ∈ moved, m.IsTransfer handle) ∧ c.Sends moved c' := by
  refine ⟨ds.map request, ?_, hdeals.sends_of_answered fun d hd => ?_⟩
  · intro m hm
    obtain ⟨d, hd, rfl⟩ := List.mem_map.mp hm
    exact h.requests d hd
  · exact exists_reply (h.ends.clear d hd) (h.requests d hd).kind_ne

end sent

/-! ## Copying chunk by chunk -/

/-- Data that are written at the end come after all that is there. -/
theorem MemoryFile.overwrite_at_end (content data : Bytes) :
    overwrite content content.length data = content ++ data := by
  by_cases hdata : data = []
  · rw [hdata, overwrite_nil, List.append_nil]
  · have hrest : content.drop (content.length + data.length) = [] :=
      List.drop_eq_nil_of_le (Nat.le_add_right _ _)
    rw [overwrite, if_neg hdata, resize_of_le (Nat.le_refl _), List.take_length, hrest, List.append_nil]

namespace Copying

variable {σ α : Type} {server : FileServer σ} {limit : Int} {patience chunk : Nat} {file : OpenFile}
  {c : Copying σ}

/-- **Chunks that are received** are the bytes of the file from where it is read, and are added to the local
file. -/
theorem run_receive_served (hserver : server.Honest limit) (hfile : file.SuitedTo server limit)
    (hchunk : 0 < chunk) (hword : file.share (some chunk) < Width.word.limit) {files : LocalFiles}
    {localPath : Text} {names : List Text} {old content : Bytes}
    (hlocal : files.writable localPath = .ok (names, old)) (hlength : content.length < Width.long.limit)
    {rounds : Nat} (position : Nat) (hposition : position ≤ content.length)
    (hrounds : content.length - position < rounds) (total : Nat) (received : Bytes)
    (hshows : OpenFile.Shows server limit patience file { content, offset := position } c.held)
    (hfiles : c.files = files.put names (.file received)) :
    ∃ held, (receive localPath chunk rounds total).run c = (.ok (total + (content.length - position)),
        { held, files := files.put names (.file (received ++ content.drop position)) }) ∧
      OpenFile.Shows server limit patience file { content, offset := content.length } held := by
  induction rounds generalizing position total received c with
  | zero => exact absurd hrounds (Nat.not_lt_zero _)
  | succ rounds ih =>
    obtain ⟨held, hread, hshows'⟩ := hshows.run_read hfile hserver ⟨hlength, by dsimp only; omega⟩ hword
    dsimp only at hread hshows'
    have hslice : slice content position (some chunk) = (content.drop position).take chunk := rfl
    have hsplit : (content.drop position).take chunk ++
        content.drop (position + ((content.drop position).take chunk).length) = content.drop position :=
      slice_append content position chunk (show ∀ n ∈ (none : Option Nat), chunk ≤ n from nofun)
    have hcount : ((content.drop position).take chunk).length = min chunk (content.length - position) := by
      rw [List.length_take, List.length_drop]
    rw [hslice] at hread hshows'
    rw [receive, Step.run_bind, onRemote, Step.run_within, hread]
    dsimp only
    by_cases hdata : (content.drop position).take chunk = []
    · -- the file is at its end
      rw [hdata] at hsplit hcount hshows'
      rw [List.nil_append] at hsplit
      rw [if_pos (List.isEmpty_iff.mpr hdata)]
      have hend : position = content.length := by
        rw [List.length_nil] at hcount
        omega
      subst hend
      refine ⟨held, ?_, hshows'⟩
      rw [List.drop_length, List.append_nil, Nat.sub_self, ← hfiles]
      rfl
    · have hsome := List.length_pos_iff.mpr hdata
      rw [if_neg fun h => hdata (List.isEmpty_iff.mp h)]
      generalize (content.drop position).take chunk = data at hdata hread hshows' hsplit hcount hsome ⊢
      have hlocal' : (onLocal fun files => files.append localPath data).run { c with held } =
          (.ok ⟨⟩, { held, files := files.put names (.file (received ++ data)) }) := by
        rw [run_onLocal]
        dsimp only
        rw [hfiles, LocalFiles.append_put hlocal]
      rw [Step.run_bind, hlocal']
      dsimp only
      obtain ⟨held', hrest, hshows''⟩ := ih (position + data.length) (by omega) (by omega)
        (total + data.length) (received ++ data)
        (c := { held, files := files.put names (.file (received ++ data)) }) hshows' rfl
      refine ⟨held', ?_, hshows''⟩
      rw [hrest, List.append_assoc, hsplit]
      have hsum : total + data.length + (content.length - (position + data.length)) =
          total + (content.length - position) := by omega
      rw [hsum]

/-- **Chunks that are transmitted** are put behind the bytes that the file has. -/
theorem run_transmit_served (hserver : server.Honest limit) (hfile : file.SuitedTo server limit)
    (hchunk : 0 < chunk) (hword : 21 + server.handle.length + min chunk file.packetSize < Width.word.limit)
    (sent data : Bytes) (hlength : sent.length + data.length < Width.long.limit) (total : Nat)
    (hshows : OpenFile.Shows server limit patience file { content := sent, offset := sent.length } c.held) :
    ∃ held, (transmit chunk data total).run c = (.ok (total + data.length), { c with held }) ∧
      OpenFile.Shows server limit patience file
        { content := sent ++ data, offset := sent.length + data.length } held := by
  -- what is left after a chunk is shorter
  induction hn : data.length using Nat.strongRecOn generalizing data sent total c with
  | ind n ih =>
    rw [transmit]
    by_cases hdata : data = []
    · subst hdata
      obtain rfl : 0 = n := hn
      rw [dif_pos (.inl rfl)]
      refine ⟨c.held, rfl, ?_⟩
      rw [List.append_nil]
      exact hshows
    · rw [dif_neg (not_or.mpr ⟨hdata, Nat.ne_of_gt hchunk⟩)]
      have hpos := List.length_pos_iff.mpr hdata
      have htake : (data.take chunk).length = min chunk data.length := List.length_take
      have hdrop : (data.drop chunk).length = data.length - chunk := List.length_drop
      have hword' : 21 + file.base.handle.length + min (data.take chunk).length file.packetSize <
          Width.word.limit := by
        rw [hfile.handle]
        omega
      have hafter : overwrite sent sent.length (data.take chunk) = sent ++ data.take chunk :=
        overwrite_at_end sent _
      obtain ⟨held, hwrite, hshows'⟩ := hshows.run_write hfile hserver hword'
        (by dsimp only; rw [hafter, List.length_append]; omega) (by dsimp only; omega)
      dsimp only at hshows'
      rw [hafter, ← List.length_append] at hshows'
      rw [Step.run_bind, onRemote, Step.run_within, hwrite]
      dsimp only
      obtain ⟨held', hrest, hshows''⟩ := ih (data.drop chunk).length (by omega) (sent ++ data.take chunk)
        (data.drop chunk) (by rw [List.length_append]; omega) (total + (data.take chunk).length)
        (c := { c with held }) hshows' rfl
      refine ⟨held', ?_, ?_⟩
      · rw [hrest]
        have hsum : total + (data.take chunk).length + (data.drop chunk).length = total + n := by omega
        rw [hsum]
      · have hsum : sent.length + (data.take chunk).length + (data.drop chunk).length = sent.length + n := by
          omega
        rw [List.append_assoc, List.take_append_drop, List.length_append, hsum] at hshows''
        exact hshows''

/-- **Copying with an open file** that has a result is followed by the release of the handle. -/
theorem run_during_served {path : Text} {flags : OpenFlags} {first : Bytes → Bytes}
    (hlends : server.Lends limit path flags first) (hfile : file.SuitedTo server limit) {a : Action σ α}
    {own : Nat → Fault → Prop}
    (hasks : a.Asks client (Holds file.base patience) (Transferring file.base.handle own))
    {t : Terminal σ} (hpatience : t.client.patience = patience) {x : α} {m : MemoryFile}
    (hrun : a.run { held := { object := file, client := t.client }, files := t.files } = (.ok x, c))
    (hshows : OpenFile.Shows server limit patience file m c.held) :
    ∃ client moved, (during file a).run t = (.ok x, { t with client, files := c.files }) ∧
      client.Served server limit patience m.content ∧ (∀ r ∈ moved, r.IsTransfer server.handle) ∧
      t.client.Sends (moved ++ [.close server.handle]) client := by
  obtain ⟨ds, hdeals, -, hends⟩ :=
    hasks { held := { object := file, client := t.client }, files := t.files } ⟨rfl, hpatience⟩
  rw [hrun] at hdeals hends
  obtain ⟨moved, hmoved, hsends⟩ := hends.sends hdeals
  rw [hfile.handle] at hmoved
  obtain ⟨held, hclose, hserved, hreleases⟩ := hshows.run_close hfile hlends
  refine ⟨held.client, moved, ?_, hserved, hmoved, hsends.trans hreleases⟩
  unfold during
  rw [Step.run_within, Step.run_andFinally, hrun, onRemote, Step.run_within, hclose]

end Copying

/-! ## Exact copies -/

namespace Command

open Terminal

variable {σ : Type} {server : FileServer σ} {limit : Int} {patience chunk : Nat} {path : Text}
  {flags : OpenFlags} {first : Bytes → Bytes} {kept : Bytes} {c : Client σ} {t : Terminal σ}

/-- A client that is connected to a server that lends its file, and whose packets leave room in a frame. -/
structure Offered (server : FileServer σ) (limit : Int) (patience chunk : Nat) (path : Text)
    (flags : OpenFlags) (first : Bytes → Bytes) (kept : Bytes) (c : Client σ) : Prop where
  /-- The server lends its file. -/
  lends : server.Lends limit path flags first
  /-- The client is ready for a request. -/
  served : c.Served server limit patience kept
  /-- A packet leaves room in a frame for what comes before its data. -/
  packetSize : c.settings.packetSize + 9 ≤ limit
  /-- The request to open the file has a frame. -/
  path : (Packet.message 0 (.openFile path flags {})).IsEncodable
  /-- So have the others. -/
  room : 21 + server.handle.length + min chunk c.settings.packetSize.toNat < Width.word.limit

/-- The file is opened. -/
theorem Offered.opens (h : Offered server limit patience chunk path flags first kept c) :
    ∃ file client, (Client.openFile path flags {}).run c = (.ok file, client) ∧
      file.SuitedTo server limit ∧ file.packetSize = c.settings.packetSize.toNat ∧
      OpenFile.Shows server limit patience file { content := first kept } { object := file, client } ∧
      c.Sends [.openFile path flags {}] client := by
  have hroom := h.room
  have hanswers : ∀ id frame, (Packet.message id (.openFile path flags {})).encode = .ok frame →
      ∃ body, server.Answers frame c.link.line.state body (first kept) ∧
        body.Brief limit id (.handle server.handle) := by
    intro id frame hframe
    have hopens := h.lends.opens c.link.line.state hframe
    rwa [h.served.content] at hopens
  obtain ⟨file, client, hrun, hfile, hshows⟩ := OpenFile.shows_openFile h.served (by omega) h.packetSize
    (fun id hid => h.path.of_id hid) hanswers
  obtain ⟨d, hrequest, hdeals, hfault, -⟩ := Client.dealt_openFile path flags {} c
  rw [hrun] at hdeals hfault
  have hsends := hdeals.sends_of_answered (List.forall_mem_singleton.mpr
    (exists_reply hfault (by rw [hrequest]; exact nofun)))
  rw [List.map_singleton, hrequest] at hsends
  exact ⟨file, client, hrun, hfile, OpenFile.packetSize_of_openFile hrun, hshows, hsends⟩

/-- **What an exact copy comes to.** -/
structure Copies (server : FileServer σ) (opening : Message) (content : Bytes) (line : Text)
    (t t' : Terminal σ) : Prop where
  /-- The server has the content. -/
  kept : server.content t'.client.link.line.state = content
  /-- The copy is reported. -/
  reported : t'.out = t.out ++ line ++ "\n"
  /-- There are no errors to show. -/
  silent : t'.err = t.err
  /-- The file was opened, bytes were moved, and the handle was released, once. -/
  sent : ∃ moved, (∀ m ∈ moved, m.IsTransfer server.handle) ∧
    t.client.Sends (opening :: (moved ++ [.close server.handle])) t'.client

/-- Copying with an open file, and what is shown of it. -/
theorem run_copy_served (hlends : server.Lends limit path flags first) {file : OpenFile}
    (hfile : file.SuitedTo server limit) {a : Copying.Action σ Nat} {own : Nat → Fault → Prop}
    (hasks : a.Asks Copying.client (Copying.Holds file.base patience)
      (Transferring file.base.handle own)) {client : Client σ} (hpatience : client.patience = patience)
    {total : Nat} {m : MemoryFile} {copied : Copying σ}
    (hrun : a.run { held := { object := file, client }, files := t.files } = (.ok total, copied))
    (hshows : OpenFile.Shows server limit patience file m copied.held) {opening : Message}
    (hopening : t.client.Sends [opening] client) (message line : Nat → Text) :
    ∃ t', (do
        let total ← Copying.during file a
        record .info (message total)
        say (line total)
        return 0 : Action σ Nat).run { t with client } = (.ok 0, t') ∧
      Copies server opening m.content (line total) t t' ∧ t'.files = copied.files := by
  obtain ⟨client', moved, hduring, hserved, hmoved, hsends⟩ :=
    Copying.run_during_served hlends hfile hasks (t := { t with client }) hpatience hrun hshows
  rw [Step.run_bind, hduring]
  exact ⟨_, rfl, ⟨hserved.content, rfl, rfl, moved, hmoved, hopening.trans hsends⟩, rfl⟩

/-- **Copying a file from a server that lends it** gives the local file its bytes. -/
theorem run_download_served {remotePath localPath : Text} {names : List Text} {old : Bytes}
    (h : Offered server limit patience chunk remotePath .read first kept t.client) (hchunk : 0 < chunk)
    (hlength : (first kept).length < Width.long.limit) (hpatience : (first kept).length < patience)
    (hlocal : t.files.writable localPath = .ok (names, old)) :
    ∃ t', (runDownload chunk remotePath localPath).run t = (.ok 0, t') ∧
      Copies server (.openFile remotePath .read {}) (first kept)
        (copiedLine remotePath localPath (first kept).length) t t' ∧
      t'.files = t.files.put names (.file (first kept)) := by
  obtain ⟨file, client, hopen, hfile, hpacket, hshows, hopening⟩ := h.opens
  have hkept : client.patience = patience := hshows.served.patience
  have hword : file.share (some chunk) < Width.word.limit := by
    have hroom := h.room
    rw [← hpacket] at hroom
    show min chunk file.packetSize < _
    omega
  obtain ⟨held, hreceive, hshows'⟩ := Copying.run_receive_served h.lends.honest hfile hchunk hword hlocal
    hlength 0 (Nat.zero_le _) hpatience 0 []
    (c := { held := { object := file, client }, files := t.files.put names (.file []) }) hshows rfl
  have hcreate : (Copying.onLocal fun files => files.create localPath : Copying.Action σ Unit).run
      { held := { object := file, client }, files := t.files } =
        (.ok ⟨⟩, { held := { object := file, client }, files := t.files.put names (.file []) }) := by
    rw [Copying.run_onLocal, LocalFiles.create_of_writable hlocal]
  rw [Nat.zero_add, Nat.sub_zero, List.nil_append, List.drop_zero] at hreceive
  unfold runDownload Client.openToRead
  rw [Step.run_bind, onClient, Step.run_within, hopen]
  dsimp only
  rw [Step.run_bind, Step.run_get]
  dsimp only
  rw [hkept]
  exact run_copy_served h.lends hfile
    (Copying.asks_createAndReceive hfile.isOpen localPath chunk patience) hkept
    (by rw [Step.run_bind, hcreate]; exact hreceive) hshows' hopening _ _

/-- **Copying a file to a server that lends it** empty gives it the bytes of the local file. -/
theorem run_upload_served {localPath remotePath : Text} {data : Bytes}
    (h : Offered server limit patience chunk remotePath .createEmpty first kept t.client)
    (hchunk : 0 < chunk) (hempty : first kept = []) (hlocal : t.files.read localPath = .ok data)
    (hlength : data.length < Width.long.limit) :
    ∃ t', (runUpload chunk localPath remotePath).run t = (.ok 0, t') ∧
      Copies server (.openFile remotePath .createEmpty {}) data
        (copiedLine localPath remotePath data.length) t t' ∧ t'.files = t.files := by
  obtain ⟨file, client, hopen, hfile, hpacket, hshows, hopening⟩ := h.opens
  rw [hempty] at hshows
  have hkept : client.patience = patience := hshows.served.patience
  have hroom := h.room
  rw [← hpacket] at hroom
  obtain ⟨held, htransmit, hshows'⟩ := Copying.run_transmit_served h.lends.honest hfile hchunk hroom [] data
    (by rw [List.length_nil]; omega) 0 (c := { held := { object := file, client }, files := t.files }) hshows
  rw [Nat.zero_add] at htransmit
  unfold runUpload Client.create
  rw [Step.run_bind, Step.run_get]
  dsimp only
  rw [Step.run_bind, Step.run_ofExcept, hlocal]
  dsimp only
  rw [Step.run_bind, onClient, Step.run_within, hopen]
  exact run_copy_served h.lends hfile (Copying.asks_transmit hfile.isOpen chunk data 0) hkept htransmit
    hshows' hopening _ _

end Command

/-! ## Transfers that are refused -/

/-- The statuses by which a request to move bytes is refused: for a read any but the end of the file, for a
write any but success. -/
def Message.IsRefusedBy (code : Int) : Message → Prop
  | .read _ _ _ => code ≠ StatusCode.endOfFile.number
  | .write _ _ _ => code ≠ StatusCode.ok.number
  | _ => False

/-- The errors that a status stands for. A read that is answered with success has brought nothing, which is a
bad message. -/
inductive StatusError.Tells (code : Int) (message lang : Text) : StatusError → Prop
  /-- The error of the code, as the server sent it. -/
  | failure {confirmed : Nat} (hok : code ≠ StatusCode.ok.number) :
      Tells code message lang { kind := .ofCode code, code, message, lang, confirmed }
  /-- There were no data. -/
  | nothing {text : Text} {confirmed : Nat} (hok : code = StatusCode.ok.number) :
      Tells code message lang { StatusError.badMessage text with confirmed }

section refused

variable {d : Dealing} {id code : Int} {message lang : Text}

/-- The number of confirmed bytes is no matter of the status. -/
theorem StatusError.Tells.repeated {error : StatusError} (h : error.Tells code message lang) {f : Fault}
    (hf : f.Repeats (.status error)) : ∃ error' : StatusError, f = .status error' ∧ error'.Tells code message lang := by
  rcases hf with rfl | ⟨n, rfl⟩
  · exact ⟨error, rfl, h⟩
  · refine ⟨{ error with confirmed := n }, rfl, ?_⟩
    cases h with
    | failure hok => exact .failure hok
    | nothing hok => exact .nothing hok

/-- **A transfer that is refused** fails with the error of its status. -/
theorem Dealing.fault?_of_refused (hreply : d.outcome = .ok (.message id (.status code message lang)))
    (hrefused : d.request.IsRefusedBy code) :
    ∃ error : StatusError, d.fault? = some (.status error) ∧ error.Tells code message lang := by
  have hgoverns := d.request.wants.governs_read id (.status code message lang)
  rw [← result_of_ok hreply] at hgoverns
  have hwants : d.request.wants.endIsFailure = true ∧
      ∀ payload, ¬ d.request.wants.Brings (.status code message lang) payload := by
    cases hrequest : d.request with
    | read handle offset length =>
      rw [hrequest] at hrefused
      refine ⟨rfl, fun payload hbrings => ?_⟩
      cases hbrings with
      | endOfData => exact hrefused rfl
    | write handle offset data =>
      rw [hrequest] at hrefused
      refine ⟨rfl, fun payload hbrings => ?_⟩
      cases hbrings with
      | confirmed => exact hrefused rfl
    | _ =>
      rw [hrequest] at hrefused
      exact hrefused.elim
  cases hresult : d.result with
  | ok payload => exact absurd ((hgoverns.brings payload).mp hresult) (hwants.2 payload)
  | error f =>
    have htold := hgoverns.refused hresult
    rw [hwants.1] at htold
    cases htold with
    | failure hok _ => exact ⟨_, fault?_eq_some hresult (isEnd_status _), .failure hok⟩
    | unexpectedEnd _ => exact ⟨_, fault?_eq_some hresult (isEnd_status _), .failure nofun⟩
    | endOfFile h => cases h
    | unwanted text h => exact ⟨_, fault?_eq_some hresult (isEnd_status _), .nothing (h _ _ _ rfl)⟩

/-- A release that is confirmed has not failed. -/
theorem Dealing.fault?_of_confirmed {handle : Bytes} {p : Packet} (hrequest : d.request = .close handle)
    (hreply : d.outcome = .ok p) (hp : p.Confirms) : d.fault? = none := by
  refine fault?_eq_none_iff.mpr (.inl ⟨.nothing, ?_⟩)
  rw [result_of_ok hreply, hrequest]
  show (Reply.ok p).map _ = _
  rw [Reply.ok_eq_ok_iff.mpr hp]
  rfl

/-- A request to move bytes that fails is the last of its step. -/
theorem Dealing.Transferring.of_fault {α : Type} {handle : Bytes} {own : Nat → Fault → Prop}
    {r : Except Fault α} {ds : List Dealing} {g : Fault} (h : Transferring handle own r ds) (hd : d ∈ ds)
    (hfault : d.fault? = some g) :
    ∃ before f, ds = before ++ [d] ∧ (∀ b ∈ before, b.fault? = none ∧ b.request.IsTransfer handle) ∧
      r = .error f ∧ f.Repeats g := by
  have hnot : ¬ Clear ds := fun hclear => nomatch (hclear d hd).symm.trans hfault
  obtain ⟨hrequests, hends⟩ := h
  cases hends with
  | done hclear => exact absurd hclear hnot
  | own hclear _ => exact absurd hclear hnot
  | @refused _ f g' hbreaks hf =>
    obtain ⟨before, e, rfl, hbefore, he⟩ := hbreaks
    rcases List.mem_append.mp hd with hin | hlast
    · cases (hbefore d hin).symm.trans hfault
    · obtain rfl := List.mem_singleton.mp hlast
      obtain rfl := Option.some.inj (he.symm.trans hfault)
      exact ⟨before, f, rfl, fun b hb => ⟨hbefore b hb, hrequests b (List.mem_append_left _ hb)⟩, rfl, hf⟩

/-- Then only the release of the handle comes after it. -/
theorem Dealing.Enclosed.of_fault {α : Type} {handle : Bytes} {own : Nat → Fault → Prop}
    {r : Except Fault α} {ds : List Dealing} {g : Fault} (h : Enclosed handle own r ds) (hd : d ∈ ds)
    (hfault : d.fault? = some g) (hnot : d.request ≠ .close handle) :
    ∃ before closing, ds = before ++ [d, closing] ∧ closing.request = .close handle ∧
      (∀ b ∈ before, b.fault? = none ∧ b.request.IsTransfer handle) ∧
      (closing.fault? = none → ∃ f, r = .error f ∧ f.Repeats g) := by
  cases h with
  | @closed _ body closing hbody hrequest _ =>
    rcases List.mem_append.mp hd with hin | hlast
    · obtain ⟨before, f, rfl, hbefore, hr, hf⟩ := hbody.of_fault hin hfault
      exact ⟨before, closing, List.append_assoc before [d] [closing], hrequest, hbefore, fun _ => ⟨f, hr, hf⟩⟩
    · obtain rfl := List.mem_singleton.mp hlast
      exact absurd hrequest hnot
  | @unclosed _ _ body closing hbody hrequest hclosing =>
    rcases List.mem_append.mp hd with hin | hlast
    · obtain ⟨before, f, rfl, hbefore, -⟩ := hbody.of_fault hin hfault
      exact ⟨before, closing, List.append_assoc before [d] [closing], hrequest, hbefore,
        fun hnone => nomatch hnone.symm.trans hclosing⟩
    · obtain rfl := List.mem_singleton.mp hlast
      exact absurd hrequest hnot

/-- **What becomes of a copy one of whose transfers is refused**: that was the last request but for the
release of the handle, and if this is confirmed, the copy ends with the error of the status, and nothing else
has gone out. -/
def Command.Stops {σ : Type} (opening : Message) (c c' : Client σ) (r : Except Fault Nat) (ds : List Dealing) :
    Prop :=
  ∀ d ∈ ds, ∀ id code message lang, d.outcome = .ok (.message id (.status code message lang)) →
    d.request.IsRefusedBy code →
    ∃ before closing handle, ds = before ++ [d, closing] ∧ closing.request = .close handle ∧
      (∀ b ∈ before, b.fault? = none ∧ (b.request = opening ∨ b.request.IsTransfer handle)) ∧
      ((∃ p, closing.outcome = .ok p ∧ p.Confirms) →
        (∃ error : StatusError, r = .error (.status error) ∧ error.Tells code message lang) ∧
          c.Sends (ds.map Dealing.request) c')

/-- So it is with every copy. -/
theorem Command.Copied.stops {σ : Type} {patience : Nat} {path : Text} {flags : OpenFlags}
    {attrs : Attributes} {r : Except Fault Nat} {ds : List Dealing}
    (h : Copied (.openFile path flags attrs) patience r ds) {c c' : Client σ} (hdeals : c.Deals ds c') :
    Stops (.openFile path flags attrs) c c' r ds := by
  intro d hd id code message lang hreply hrefused
  obtain ⟨error, hfault, htells⟩ := fault?_of_refused hreply hrefused
  cases h with
  | unopened hrequest _ =>
    rw [List.mem_singleton.mp hd, hrequest] at hrefused
    exact hrefused.elim
  | @opened first handle r ds hrequest hnone hhandle hends =>
    have hin : d ∈ ds := by
      rcases List.mem_cons.mp hd with rfl | hin
      · rw [hrequest] at hrefused
        exact hrefused.elim
      · exact hin
    have hnot : d.request ≠ .close handle := by
      intro hclose
      rw [hclose] at hrefused
      exact hrefused
    obtain ⟨before, closing, rfl, hclose, hbefore, hends⟩ := hends.of_fault hin hfault hnot
    refine ⟨first :: before, closing, handle, rfl, hclose, ?_, ?_⟩
    · exact List.forall_mem_cons.mpr ⟨⟨hnone, .inl hrequest⟩, fun b hb =>
        ⟨(hbefore b hb).1, .inr (hbefore b hb).2⟩⟩
    · rintro ⟨p, hanswer, hp⟩
      obtain ⟨f, rfl, hf⟩ := hends (fault?_of_confirmed hclose hanswer hp)
      obtain ⟨error', rfl, htells'⟩ := htells.repeated hf
      refine ⟨⟨error', rfl, htells'⟩, hdeals.sends_of_answered ?_⟩
      refine List.forall_mem_cons.mpr ⟨exists_reply hnone (by rw [hrequest]; exact nofun), ?_⟩
      refine List.forall_mem_append.mpr ⟨fun b hb => ?_, ?_⟩
      · exact exists_reply (hbefore b hb).1 (hbefore b hb).2.kind_ne
      · exact List.forall_mem_cons.mpr ⟨⟨_, hreply⟩, List.forall_mem_singleton.mpr ⟨p, hanswer⟩⟩

end refused

/-! ## Copies -/

namespace Command

variable {σ : Type}

/-- **Copies are exact.** From a server that lends its file, in whatever pieces it brings the bytes, the local
file gets just these; to such a server, on which the file is empty when it is created, go just the bytes of the
local file. Either way their number is reported, the copy ends with 0, and the remote handle is released once.
Whatever the server is, a copy one of whose transfers is refused asks for nothing more but the release of the
handle, and ends with the error of the status if that is confirmed. If there is no local file to read, nothing
is asked at all. -/
theorem copies_exactly (chunk : Nat) (hchunk : 0 < chunk) (remotePath localPath : Text) (t : Terminal σ) :
    (∀ (server : FileServer σ) (limit : Int) (patience : Nat) (first : Bytes → Bytes) (kept : Bytes)
        (names : List Text) (old : Bytes),
      Offered server limit patience chunk remotePath .read first kept t.client →
      (first kept).length < Width.long.limit → (first kept).length < patience →
      t.files.writable localPath = .ok (names, old) →
      ∃ t', (runDownload chunk remotePath localPath).run t = (.ok 0, t') ∧
        Copies server (.openFile remotePath .read {}) (first kept)
          (copiedLine remotePath localPath (first kept).length) t t' ∧
        t'.files = t.files.put names (.file (first kept)) ∧
        t'.files.read localPath = .ok (first kept)) ∧
    (∀ (server : FileServer σ) (limit : Int) (patience : Nat) (first : Bytes → Bytes) (kept data : Bytes),
      Offered server limit patience chunk remotePath .createEmpty first kept t.client → first kept = [] →
      t.files.read localPath = .ok data → data.length < Width.long.limit →
      ∃ t', (runUpload chunk localPath remotePath).run t = (.ok 0, t') ∧
        Copies server (.openFile remotePath .createEmpty {}) data
          (copiedLine localPath remotePath data.length) t t' ∧ t'.files = t.files) ∧
    (∃ ds, t.client.Deals ds ((runDownload chunk remotePath localPath).run t).2.client ∧
      Stops (.openFile remotePath .read {}) t.client ((runDownload chunk remotePath localPath).run t).2.client
        ((runDownload chunk remotePath localPath).run t).1 ds) ∧
    (∃ ds, t.client.Deals ds ((runUpload chunk localPath remotePath).run t).2.client ∧
      Stops (.openFile remotePath .createEmpty {}) t.client
        ((runUpload chunk localPath remotePath).run t).2.client
        ((runUpload chunk localPath remotePath).run t).1 ds) ∧
    ∀ f, t.files.read localPath = .error f → (runUpload chunk localPath remotePath).run t = (.error f, t) := by
  refine ⟨?_, ?_, ?_, ?_, fun f => run_upload_of_unreadable⟩
  · intro server limit patience first kept names old h hlength hpatience hlocal
    obtain ⟨t', hrun, hcopies, hfiles⟩ := run_download_served h hchunk hlength hpatience hlocal
    refine ⟨t', hrun, hcopies, hfiles, ?_⟩
    rw [hfiles]
    exact LocalFiles.read_put hlocal _
  · intro server limit patience first kept data h hempty hlocal hlength
    exact run_upload_served h hchunk hempty hlocal hlength
  · obtain ⟨ds, hdeals, -, hcopied⟩ := asks_runDownload chunk remotePath localPath t rfl
    exact ⟨ds, hdeals, hcopied.stops hdeals⟩
  · obtain ⟨ds, hdeals, -, hends⟩ := asks_runUpload chunk localPath remotePath t rfl
    refine ⟨ds, hdeals, ?_⟩
    rcases hends with ⟨f, -, rfl, -⟩ | hcopied
    · exact fun d hd => absurd hd List.not_mem_nil
    · exact hcopied.stops hdeals

/-- A client of a server that lends a file and brings two bytes of it at a time, on a connection that takes
frames up to a limit, and a local file. -/
def lent (packetSize limit : Int) (bounds : 0 < packetSize ∧ packetSize ≤ limit) (kept : Bytes) :
    Terminal Bytes where
  client := {
    settings := { packetSize, frameSize := limit, bounds }
    link := {
      line := { peer := (FileServer.lending 2 [104]).peer, state := kept }
      exchange := { limit, reader := .running } }
    session := some { version := 3, extensions := .empty }
    patience := 20 }
  files := ⟨[(["l"], .file [9, 8, 7, 6, 5])]⟩

/-- The client is ready. -/
theorem served_lent {packetSize limit : Int} (bounds : 0 < packetSize ∧ packetSize ≤ limit)
    (kept : Bytes) :
    (lent packetSize limit bounds kept).client.Served (FileServer.lending 2 [104]) limit 20 kept :=
  ⟨nofun, Link.ready_of_started limit rfl rfl, rfl, rfl, rfl, rfl⟩

/-- What the server has when it has opened the file. -/
def lentFirst (flags : OpenFlags) (content : Bytes) : Bytes :=
  if flags = .createEmpty then [] else content

/-- The server lends the file. -/
theorem lends_lent {limit : Int} (hlimit : 17 ≤ limit) (flags : OpenFlags) :
    (FileServer.lending 2 [104]).Lends limit "/f" flags (lentFirst flags) := by
  have hlength : (Packet.message 0 (.handle [104])).layout.length = 10 := by decide +kernel
  have hhandle : (Message.handle [104]).Sendable limit :=
    ⟨⟨[0, 0, 0, 10, 102, 0, 0, 0, 0, 0, 0, 0, 1, 104], by decide +kernel⟩, (fun _ ht => nomatch ht),
      by rw [hlength]; omega⟩
  exact FileServer.lending_lends (by decide) (by decide) hlimit hhandle (Text.readsBack_ofString "/f") flags

/-- A file of seven bytes, in packets of three. -/
def lentFile : Terminal Bytes :=
  lent 3 64 (by decide) [1, 2, 3, 4, 5, 6, 7]

/-- The file is offered. -/
theorem offered_lentFile (flags : OpenFlags)
    (hpath : (Packet.message 0 (.openFile "/f" flags {})).IsEncodable) :
    Offered (FileServer.lending 2 [104]) 64 20 4 "/f" flags (lentFirst flags) [1, 2, 3, 4, 5, 6, 7]
      lentFile.client :=
  ⟨lends_lent (by decide) flags, served_lent _ _, by decide, hpath, by decide⟩

/-- The file is copied in both directions, in chunks of four bytes. -/
theorem copies_exactly_lentFile :
    0 < 4 ∧
      Offered (FileServer.lending 2 [104]) 64 20 4 "/f" .read (lentFirst .read) [1, 2, 3, 4, 5, 6, 7]
        lentFile.client ∧
      Offered (FileServer.lending 2 [104]) 64 20 4 "/f" .createEmpty (lentFirst .createEmpty)
        [1, 2, 3, 4, 5, 6, 7] lentFile.client ∧
      lentFile.files.writable "l" = .ok ([Text.ofString "l"], [9, 8, 7, 6, 5]) ∧
      lentFile.files.read "l" = .ok [9, 8, 7, 6, 5] ∧
      (∃ t', (runDownload 4 "/f" "l").run lentFile = (.ok 0, t') ∧
        t'.files.read "l" = .ok [1, 2, 3, 4, 5, 6, 7] ∧ t'.out = "[OK] /f -> l (7 bytes)\n") ∧
      ∃ t', (runUpload 4 "l" "/f").run lentFile = (.ok 0, t') ∧
        t'.client.link.line.state = [9, 8, 7, 6, 5] ∧ t'.out = "[OK] l -> /f (5 bytes)\n" := by
  have hread := offered_lentFile .read ⟨[0, 0, 0, 19, 3, 0, 0, 0, 0, 0, 0, 0, 2, 47, 102, 0, 0, 0, 1, 0, 0, 0, 0],
    by decide +kernel⟩
  have hcreate := offered_lentFile .createEmpty
    ⟨[0, 0, 0, 19, 3, 0, 0, 0, 0, 0, 0, 0, 2, 47, 102, 0, 0, 0, 27, 0, 0, 0, 0], by decide +kernel⟩
  have hwritable : lentFile.files.writable "l" = .ok ([Text.ofString "l"], [9, 8, 7, 6, 5]) := by
    decide +kernel
  have hlocal : lentFile.files.read "l" = .ok [9, 8, 7, 6, 5] := by decide +kernel
  obtain ⟨hdownload, hupload, -⟩ := copies_exactly 4 (by decide) "/f" "l" lentFile
  refine ⟨by decide, hread, hcreate, hwritable, hlocal, ?_, ?_⟩
  · obtain ⟨t', hrun, hcopies, -, hfile⟩ := hdownload _ _ _ _ _ _ _ hread (by decide) (by decide) hwritable
    refine ⟨t', hrun, hfile, hcopies.reported.trans ?_⟩
    decide +kernel
  · obtain ⟨t', hrun, hcopies, -⟩ := hupload _ _ _ _ _ _ hcreate rfl hlocal (by decide)
    refine ⟨t', hrun, hcopies.kept, hcopies.reported.trans ?_⟩
    decide +kernel

/-- An empty file, in packets of one byte, on a connection whose frames have room for a reply with one byte but
not for a status. -/
def tightlyLentFile : Terminal Bytes :=
  lent 1 10 (by decide) []

/-- The server is honest and lends its file, and every packet leaves room in a frame, but the status at the end
of the file does not fit, and so the copy does not end with 0. -/
theorem download_breaks_tightlyLentFile :
    (FileServer.lending 2 [104]).Lends 17 "/f" .read (lentFirst .read) ∧
      tightlyLentFile.client.Served (FileServer.lending 2 [104]) 10 20 [] ∧
      tightlyLentFile.client.settings.packetSize + 9 ≤ tightlyLentFile.client.settings.frameSize ∧
      tightlyLentFile.files.writable "l" = .ok ([Text.ofString "l"], [9, 8, 7, 6, 5]) ∧
      ((runDownload chunkSize "/f" "l").run tightlyLentFile).1 ≠ .ok 0 :=
  ⟨lends_lent (Int.le_refl 17) .read, served_lent _ _, by decide, by decide +kernel, by decide +kernel⟩

end Command

end Sftp
