import Sftp.Command.Run
import Sftp.Proofs.LocalFiles.Changes
import Sftp.Proofs.OpenFile.Requests
import Sftp.Proofs.Walk.Probes

/-!
# The requests of a command

Whatever the server is, all that a command does to its client is to make requests, and how it ends is told
by what came of them: with 0 if none failed, with 1 if a walk has shown what failed, and otherwise with the
fault of one of them, or with one of this side.

* `Dealing.Enclosed` — how a step ends that is followed by closing; `Copying.asks_receive`,
  `Copying.asks_transmit`, `Copying.asks_during` — chunk after chunk, and the handle around them.
* `Command.Copied` — how a copy ends; **`Command.asks_runDownload`**, **`Command.asks_runUpload`**.
* `Command.Ends` — how a command ends; **`Command.asks_run`** — every command.
-/

namespace Sftp

open Dealing

/-! ## Copying -/

/-- How a step ends that moves bytes of an open file, and after which the file is closed. -/
inductive Dealing.Enclosed {α : Type} (handle : Bytes) (own : Nat → Fault → Prop) :
    Except Fault α → List Dealing → Prop
  /-- The handle was released, and the step ends as it did. -/
  | closed {r : Except Fault α} {body : List Dealing} {closing : Dealing}
      (hbody : Transferring handle own r body) (hrequest : closing.request = .close handle)
      (hclosing : closing.fault? = none) : Enclosed handle own r (body ++ [closing])
  /-- Closing failed, and its fault is that of all. -/
  | unclosed {r : Except Fault α} {f : Fault} {body : List Dealing} {closing : Dealing}
      (hbody : Transferring handle own r body) (hrequest : closing.request = .close handle)
      (hclosing : closing.fault? = some f) : Enclosed handle own (.error f) (body ++ [closing])

namespace Copying

variable {σ α : Type} {base : OpenHandle} {patience : Nat}

/-- The client of a copy. -/
def client (c : Copying σ) : Client σ :=
  c.held.client

/-- A copy whose remote file has a handle, and whose client has so much patience. -/
def Holds (base : OpenHandle) (patience : Nat) (c : Copying σ) : Prop :=
  c.held.object.base = base ∧ c.held.client.patience = patience

/-- A step on the remote file. -/
theorem asks_onRemote {a : OpenFile.Action σ α} {ends : Except Fault α → List Dealing → Prop}
    (h : a.Asks Held.client (fun h => h.object.base = base ∧ h.client.patience = patience) ends) :
    (onRemote a).Asks client (Holds base patience) ends :=
  h.within (fun _ hc => ⟨hc, rfl⟩) (fun _ _ _ hh => ⟨hh, rfl⟩)

/-- A change to the local files is made, or there is a fault. -/
theorem run_onLocal (change : LocalFiles → Except Fault LocalFiles) (c : Copying σ) :
    (onLocal change).run c =
      match change c.files with
      | .error f => (.error f, c)
      | .ok files => (.ok ⟨⟩, { c with files }) := by
  unfold onLocal
  rw [Step.run_bind, Step.run_get]
  dsimp only
  rw [Step.run_bind, Step.run_ofExcept]
  cases change c.files with
  | error f => rfl
  | ok files => rfl

/-- A change to the local files asks for nothing. -/
theorem asks_onLocal {change : LocalFiles → Except Fault LocalFiles}
    (hchange : ∀ files f, change files = .error f → (f.isSystem || f.isInvalid) = true)
    (handle : Bytes) (rounds : Nat) :
    (onLocal change : Action σ Unit).Asks client (Holds base patience)
      (Transferring handle (Fault.IsOwn rounds)) := by
  intro c hc
  rw [run_onLocal]
  cases hfiles : change c.files with
  | error f =>
    exact ⟨[], .refl _, hc, List.forall_mem_nil _, .own clear_nil (.inl (hchange _ _ hfiles))⟩
  | ok files => exact ⟨[], .refl _, hc, List.forall_mem_nil _, .done clear_nil⟩

/-- **Copying from the remote file** stops at the first request that fails, when the local file cannot be
written, or when patience is at its end. -/
theorem asks_receive (hopen : base.closed = false) (localPath : Text) (chunk rounds total : Nat) :
    (receive localPath chunk rounds total : Action σ Nat).Asks client (Holds base patience)
      (Transferring base.handle (Fault.IsOwn rounds)) := by
  induction rounds generalizing total with
  | zero =>
    refine Step.asks_of_same (fun _ => rfl) (fun _ h => h) fun _ _ => ?_
    exact ⟨List.forall_mem_nil _, .own clear_nil (.inr ⟨rfl, Nat.zero_le _⟩)⟩
  | succ rounds ih =>
    rw [receive]
    refine (asks_onRemote (OpenFile.asks_read hopen chunk)).bind ?_ ?_
    · rintro f ds ⟨hread, -⟩
      exact hread.of_error.imp fun _ => False.elim
    · rintro data ds ⟨hread, hwork⟩
      by_cases hdata : data = []
      · rw [if_pos (List.isEmpty_iff.mpr hdata)]
        refine Step.asks_of_same (fun _ => rfl) (fun _ h => h) fun _ _ => ?_
        rw [List.append_nil]
        exact (hread.of_ok total).imp fun _ => False.elim
      · rw [if_neg fun h => hdata (List.isEmpty_iff.mp h)]
        have hsome := hwork data rfl hdata
        -- a chunk with bytes took a request, so there is one round less for one request more
        have hown : ∀ (work : Nat) (f : Fault), f.IsOwn rounds work →
            f.IsOwn (rounds + 1) (totalWork ds + work) := by
          rintro work f (hf | ⟨hf, hle⟩)
          · exact .inl hf
          · exact .inr ⟨hf, by omega⟩
        have hlocal : (onLocal fun files => files.append localPath data : Action σ Unit).Asks client
            (Holds base patience) (Transferring base.handle (Fault.IsOwn rounds)) :=
          asks_onLocal (fun _ _ => LocalFiles.fault_append) base.handle rounds
        have hrest : (do
            onLocal fun files => files.append localPath data
            receive localPath chunk rounds (total + data.length) : Action σ Nat).Asks client
              (Holds base patience) (Transferring base.handle (Fault.IsOwn rounds)) := by
          refine hlocal.bind (fun f others h => h.of_error) fun _ others h => ?_
          refine (ih (total + data.length)).imp fun r more h' => h.after h' ?_
          rintro f (hf | hf)
          · exact .inl hf
          · exact .inr (hf.mono (Nat.le_add_left _ _))
        exact hrest.imp fun r others h => hread.after h (hown _)

/-- So it is if the local file is made first. -/
theorem asks_createAndReceive (hopen : base.closed = false) (localPath : Text) (chunk rounds : Nat) :
    (do
      onLocal fun files => files.create localPath
      receive localPath chunk rounds 0 : Action σ Nat).Asks client (Holds base patience)
        (Transferring base.handle (Fault.IsOwn rounds)) := by
  refine (asks_onLocal (fun _ _ => LocalFiles.fault_create) base.handle rounds).bind
    (fun f ds h => h.of_error) fun _ ds h => ?_
  refine (asks_receive hopen localPath chunk rounds 0).imp fun r others h' => h.after h' ?_
  rintro f (hf | hf)
  · exact .inl hf
  · exact .inr (hf.mono (Nat.le_add_left _ _))

/-- **Copying to the remote file** stops at the first request that fails. -/
theorem asks_transmit (hopen : base.closed = false) (chunk : Nat) (data : Bytes) (total : Nat) :
    (transmit chunk data total : Action σ Nat).Asks client (Holds base patience)
      (Transferring base.handle fun _ _ => False) := by
  -- what is left after a chunk is shorter
  induction hlength : data.length using Nat.strongRecOn generalizing data total with
  | ind n ih =>
    rw [transmit]
    by_cases hover : data = [] ∨ chunk = 0
    · rw [dif_pos hover]
      refine Step.asks_of_same (fun _ => rfl) (fun _ h => h) fun _ _ => ?_
      exact ⟨List.forall_mem_nil _, .done clear_nil⟩
    · rw [dif_neg hover]
      rw [not_or] at hover
      have hdata := List.length_pos_iff.mpr hover.1
      have hdrop : (data.drop chunk).length = data.length - chunk := List.length_drop
      refine (asks_onRemote (OpenFile.asks_write hopen _)).bind (fun f ds h => h.of_error) ?_
      intro count ds h
      exact (ih _ (by omega) (data.drop chunk) (total + count) rfl).imp fun r others h' =>
        h.after h' fun _ => id

/-- **Copying with an open file** is followed by closing it. -/
theorem asks_during {file : OpenFile} (hopen : file.base.closed = false) {a : Action σ α}
    {own : Nat → Fault → Prop}
    (h : a.Asks client (Holds file.base patience) (Transferring file.base.handle own)) :
    (during file a).Asks Terminal.client (·.client.patience = patience)
      (Enclosed file.base.handle own) := by
  intro t ht
  obtain ⟨body, hbody, ⟨hbase, hpatience⟩, hends⟩ :=
    h { held := { object := file, client := t.client }, files := t.files } ⟨rfl, ht⟩
  rcases hrun : a.run { held := { object := file, client := t.client }, files := t.files } with ⟨r, c⟩
  rw [hrun] at hbody hbase hpatience hends
  obtain ⟨closing, hrequest, hclosing, hclosed⟩ :=
    c.held.run_close_deals ((congrArg OpenHandle.closed hbase).trans hopen)
  have hclose : closing.request = .close file.base.handle :=
    hrequest.trans (congrArg (fun base => Message.close base.handle) hbase)
  have hkept := hclosing.patience.trans hpatience
  unfold during
  rw [Step.run_within, Step.run_andFinally, hrun, onRemote, Step.run_within]
  dsimp only
  generalize Held.close.run c.held = outcome at hclosing hclosed hkept ⊢
  rcases outcome with ⟨f | u, held⟩
  · exact ⟨_, hbody.trans hclosing, hkept, .unclosed hends hclose hclosed⟩
  · exact ⟨_, hbody.trans hclosing, hkept, .closed hends hclose hclosed⟩

end Copying

/-! ## Opening a file -/

/-- Opening a file is one dealing, which brings its handle if it does not fail. -/
theorem Client.dealt_openFile {σ : Type} (path : Text) (flags : OpenFlags) (attrs : Attributes)
    (c : Client σ) :
    ∃ d : Dealing, d.request = .openFile path flags attrs ∧
      c.Deals [d] ((openFile path flags attrs).run c).2 ∧
      d.fault? = faultOf ((openFile path flags attrs).run c).1 ∧
      ∀ file, ((openFile path flags attrs).run c).1 = .ok file →
        file.base.closed = false ∧ d.opened? = some file.base.handle := by
  obtain ⟨outcome, hdeals, hresult⟩ := run_ask_deals (.openFile path flags attrs) Reply.handle c
  have hread : ∀ p, (Message.openFile path flags attrs).wants.read p =
      (Reply.handle p).map fun handle => .handle { kind := .file, handle, path } := fun _ => rfl
  have hpayload := result_of_read hread outcome
  have hfault := fault?_of_read hread nofun outcome
  rw [← hresult] at hpayload hfault
  refine ⟨⟨.openFile path flags attrs, outcome⟩, rfl, ?_⟩
  unfold openFile
  rw [Step.run_bind]
  generalize (ask (.openFile path flags attrs) Reply.handle).run c = after at hdeals hpayload hfault ⊢
  rcases after with ⟨f | handle, c'⟩
  · exact ⟨hdeals, hfault, nofun⟩
  · refine ⟨hdeals, hfault, ?_⟩
    rintro _ ⟨⟩
    refine ⟨rfl, ?_⟩
    unfold Dealing.opened?
    rw [hpayload]
    rfl

/-! ## Commands -/

namespace Command

variable {σ α : Type} {patience : Nat} {r : Except Fault Nat} {ds : List Dealing}

/-- How a command ends that copies a file: the remote file is opened, and if it was, bytes are moved and the
handle is released. -/
inductive Copied (opening : Message) (patience : Nat) : Except Fault Nat → List Dealing → Prop
  /-- The remote file was not opened. -/
  | unopened {d : Dealing} {f : Fault} (hrequest : d.request = opening) (hf : d.fault? = some f) :
      Copied opening patience (.error f) [d]
  /-- It was opened. -/
  | opened {d : Dealing} {handle : Bytes} {r : Except Fault Nat} {ds : List Dealing}
      (hrequest : d.request = opening) (hnone : d.fault? = none) (hhandle : d.opened? = some handle)
      (hends : Enclosed handle (Fault.IsOwn patience) r ds) :
      Copied opening patience (r.map fun _ => 0) (d :: ds)

/-- How a command ends. -/
inductive Ends (patience : Nat) : Except Fault Nat → List Dealing → Prop
  /-- No request failed. -/
  | done {ds : List Dealing} (h : Clear ds) : Ends patience (.ok 0) ds
  /-- A request failed, and that was shown. -/
  | shown {ds : List Dealing} (h : ¬ Clear ds) : Ends patience (.ok 1) ds
  /-- A request failed, and its fault is passed on. -/
  | refused {ds : List Dealing} {d : Dealing} {f g : Fault} (hd : d ∈ ds) (hg : d.fault? = some g)
      (hf : f.Repeats g) : Ends patience (.error f) ds
  /-- There is a fault of this side. -/
  | own {ds : List Dealing} {f : Fault} (hf : f.IsOwn patience (totalWork ds)) :
      Ends patience (.error f) ds

/-- A step that stops at the first request that fails. -/
theorem Ends.of_straight {r : Except Fault α} (h : Straight Fault.Repeats (Fault.IsOwn patience) r ds) :
    Ends patience (r.map fun _ => 0) ds := by
  cases h with
  | done h => exact .done h
  | refused h hf =>
    obtain ⟨before, d, rfl, -, hd⟩ := h
    exact .refused (List.mem_append_right before (List.mem_singleton_self d)) hd hf
  | own _ hf => exact .own hf

/-- Requests may come before and after, if they do not fail. -/
theorem Ends.between {before after : List Dealing} (h : Ends patience r ds) (hbefore : Clear before)
    (hafter : Clear after) : Ends patience r (before ++ ds ++ after) := by
  have hwork : totalWork ds ≤ totalWork (before ++ ds ++ after) := by
    rw [totalWork_append, totalWork_append]
    omega
  have hmem : ∀ d ∈ ds, d ∈ before ++ ds ++ after := fun d hd =>
    List.mem_append_left after (List.mem_append_right before hd)
  cases h with
  | done h => exact .done ((hbefore.append h).append hafter)
  | shown h => exact .shown fun hall => h fun d hd => hall d (hmem d hd)
  | refused hd hg hf => exact .refused (hmem _ hd) hg hf
  | own hf => exact .own (hf.imp id fun hover => hover.mono hwork)

/-- A copy ends as commands do. -/
theorem Copied.ends {opening : Message} (h : Copied opening patience r ds) : Ends patience r ds := by
  cases h with
  | unopened _ hf => exact .refused (List.mem_singleton_self _) hf (.inl rfl)
  | @opened d handle r ds _ hnone _ hends =>
    have hd : Clear [d] := List.forall_mem_singleton.mpr hnone
    cases hends with
    | @closed _ body closing hbody _ hclosing =>
      have hall := (Ends.of_straight hbody.ends).between hd (List.forall_mem_singleton.mpr hclosing)
      rwa [List.append_assoc] at hall
    | @unclosed _ f body closing _ _ hclosing =>
      exact .refused (List.mem_cons_of_mem d
        (List.mem_append_right body (List.mem_singleton_self closing))) hclosing (.inl rfl)

open Terminal

/-- A step on the client. -/
theorem asks_onClient {a : Step (Client σ) α} {ends : Except Fault α → List Dealing → Prop}
    (h : a.Asks id (·.patience = patience) ends) :
    (onClient a).Asks Terminal.client (·.client.patience = patience) ends :=
  h.within (fun _ hc => ⟨hc, rfl⟩) (fun _ _ _ hh => ⟨hh, rfl⟩)

/-- To show a line is no matter for the client. -/
theorem asks_say (line : Text) :
    (say line : Action σ Unit).Asks Terminal.client (·.client.patience = patience)
      fun r ds => r = .ok ⟨⟩ ∧ ds = [] :=
  Step.asks_of_same (fun _ => rfl) (fun _ h => h) fun _ _ => ⟨rfl, rfl⟩

/-- Nor is it to show several. -/
theorem asks_sayAll (lines : List Text) :
    (sayAll lines : Action σ Unit).Asks Terminal.client (·.client.patience = patience)
      fun r ds => r = .ok ⟨⟩ ∧ ds = [] := by
  induction lines with
  | nil => exact Step.asks_of_same (fun _ => rfl) (fun _ h => h) fun _ _ => ⟨rfl, rfl⟩
  | cons line lines ih =>
    refine (asks_say line).bind nofun ?_
    rintro _ _ ⟨-, rfl⟩
    exact ih

/-- A record is no request. -/
theorem asks_record (level : Level) (message : Text) :
    (record level message : Action σ Unit).Asks Terminal.client (·.client.patience = patience)
      fun r ds => r = .ok ⟨⟩ ∧ ds = [] := by
  intro t ht
  exact ⟨[], .record level message (.refl _), ht, rfl, rfl⟩

/-- What is shown of a copy changes nothing of how it ends. -/
theorem asks_copy {file : OpenFile} (hopen : file.base.closed = false) {a : Copying.Action σ Nat}
    {own : Nat → Fault → Prop}
    (h : a.Asks Copying.client (Copying.Holds file.base patience) (Transferring file.base.handle own))
    (message line : Nat → Text) :
    (do
      let total ← Copying.during file a
      record .info (message total)
      say (line total)
      return 0 : Action σ Nat).Asks Terminal.client (·.client.patience = patience)
        fun r ds => ∃ result : Except Fault Nat, Enclosed file.base.handle own result ds ∧
          r = result.map fun _ => 0 := by
  refine (Copying.asks_during hopen h).bind (fun f ds h => ⟨.error f, h, rfl⟩) fun total ds hends => ?_
  refine (asks_record .info (message total)).bind nofun ?_
  rintro _ _ ⟨-, rfl⟩
  refine (asks_say (line total)).bind nofun ?_
  rintro _ _ ⟨-, rfl⟩
  refine Step.asks_of_same (fun _ => rfl) (fun _ h => h) fun _ _ => ⟨.ok total, ?_, rfl⟩
  simpa only [List.nil_append, List.append_nil] using hends

/-- **Copying a file from the server.** -/
theorem asks_runDownload (chunk : Nat) (remotePath localPath : Text) :
    (runDownload chunk remotePath localPath : Action σ Nat).Asks Terminal.client
      (·.client.patience = patience) (Copied (.openFile remotePath .read {}) patience) := by
  intro t ht
  obtain ⟨d, hrequest, hdeals, hfault, hopened⟩ :=
    Client.dealt_openFile remotePath .read {} t.client
  have hkept := hdeals.patience.trans ht
  unfold runDownload Client.openToRead
  rw [Step.run_bind, onClient, Step.run_within]
  generalize (Client.openFile remotePath .read {}).run t.client = after at hdeals hfault hopened hkept ⊢
  rcases after with ⟨f | file, c⟩
  · exact ⟨[d], hdeals, hkept, .unopened hrequest hfault⟩
  · obtain ⟨hopen, hhandle⟩ := hopened file rfl
    dsimp only
    rw [Step.run_bind, Step.run_get]
    dsimp only
    obtain ⟨ds, hrest, hpatience, result, hends, hresult⟩ := asks_copy hopen
      (Copying.asks_createAndReceive hopen localPath chunk c.patience)
      (fun total => "Downloaded " ++ Text.ofNat total ++ " bytes from " ++ remotePath)
      (copiedLine remotePath localPath) { t with client := c } rfl
    refine ⟨d :: ds, hdeals.trans hrest, hpatience.trans hkept, ?_⟩
    rw [hresult, ← hkept]
    exact .opened hrequest hfault hhandle hends

/-- A local file that cannot be read ends the copy before anything is asked. -/
theorem run_upload_of_unreadable {chunk : Nat} {localPath remotePath : Text} {t : Terminal σ} {f : Fault}
    (h : t.files.read localPath = .error f) :
    (runUpload chunk localPath remotePath).run t = (.error f, t) := by
  unfold runUpload
  rw [Step.run_bind, Step.run_get]
  dsimp only
  rw [Step.run_bind, Step.run_ofExcept, h]

/-- **Copying a file to the server.** -/
theorem asks_runUpload (chunk : Nat) (localPath remotePath : Text) :
    (runUpload chunk localPath remotePath : Action σ Nat).Asks Terminal.client
      (·.client.patience = patience) fun r ds =>
        (∃ f, r = .error f ∧ ds = [] ∧ (f.isSystem || f.isInvalid) = true) ∨
          Copied (.openFile remotePath .createEmpty {}) patience r ds := by
  intro t ht
  cases hread : t.files.read localPath with
  | error f =>
    rw [run_upload_of_unreadable hread]
    exact ⟨[], .refl _, ht, .inl ⟨f, rfl, rfl, LocalFiles.fault_read hread⟩⟩
  | ok data =>
    obtain ⟨d, hrequest, hdeals, hfault, hopened⟩ :=
      Client.dealt_openFile remotePath .createEmpty {} t.client
    have hkept := hdeals.patience.trans ht
    unfold runUpload Client.create
    rw [Step.run_bind, Step.run_get]
    dsimp only
    rw [Step.run_bind, Step.run_ofExcept, hread]
    dsimp only
    rw [Step.run_bind, onClient, Step.run_within]
    generalize (Client.openFile remotePath .createEmpty {}).run t.client = after at hdeals hfault hopened hkept ⊢
    rcases after with ⟨f | file, c⟩
    · exact ⟨[d], hdeals, hkept, .inr (.unopened hrequest hfault)⟩
    · obtain ⟨hopen, hhandle⟩ := hopened file rfl
      obtain ⟨ds, hrest, hpatience, result, hends, hresult⟩ := asks_copy hopen
        ((Copying.asks_transmit hopen chunk data 0).imp fun r ds h => h.imp fun _ => False.elim)
        (fun total => "Uploaded " ++ Text.ofNat total ++ " bytes to " ++ remotePath)
        (copiedLine localPath remotePath) { t with client := c } hkept
      refine ⟨d :: ds, hdeals.trans hrest, hpatience, .inr ?_⟩
      rw [hresult]
      exact .opened hrequest hfault hhandle hends

/-- What has been shown of a walk. -/
theorem asks_showVisits (entries : List WalkEntry) :
    (showVisits entries : Action σ Unit).Asks Terminal.client (·.client.patience = patience)
      fun r ds => r = .ok ⟨⟩ ∧ ds = [] := by
  induction entries with
  | nil => exact Step.asks_of_same (fun _ => rfl) (fun _ h => h) fun _ _ => ⟨rfl, rfl⟩
  | cons e entries ih =>
    unfold showVisits
    cases e.fault with
    | none =>
      refine (asks_say e.path).bind nofun ?_
      rintro _ _ ⟨-, rfl⟩
      exact ih
    | some f =>
      have hcomplain : (complain ("[ERROR] " ++ e.path ++ ": " ++ f.message) : Action σ Unit).Asks
          Terminal.client (·.client.patience = patience) fun r ds => r = .ok ⟨⟩ ∧ ds = [] :=
        Step.asks_of_same (fun _ => rfl) (fun _ h => h) fun _ _ => ⟨rfl, rfl⟩
      refine hcomplain.bind nofun ?_
      rintro _ _ ⟨-, rfl⟩
      exact ih

/-- A walk ends as what it was told says. -/
theorem Ends.of_told {probes : List Walk.Probe} {seen : Walk.Seen} {faults : List Fault}
    (htold : Walk.Told patience (totalWork (Walk.allDealings probes)) seen (probes.filterMap Walk.Probe.fault?))
    (hfaults : seen.fault = none → faults = probes.filterMap fun p => p.fault?.map Prod.snd)
    (hstopped : seen.stopped = true → seen.entries.length = patience) :
    Ends patience
      (match seen.fault with
        | some f => .error f
        | none => if seen.stopped then .error .outOfPatience else .ok (if faults.isEmpty then 0 else 1))
      (Walk.allDealings probes) := by
  cases hseen : seen.fault with
  | some f =>
    rcases htold.raised f hseen with ⟨path, hall, -⟩ | ⟨-, hover⟩
    · have hlast : (path, f) ∈ probes.filterMap Walk.Probe.fault? := by
        rw [hall]
        exact List.mem_append_right _ (List.mem_singleton_self _)
      obtain ⟨p, hp, hfault⟩ := List.mem_filterMap.mp hlast
      obtain ⟨g, hg, heq⟩ := Option.map_eq_some_iff.mp hfault
      obtain rfl := congrArg Prod.snd heq
      obtain ⟨d, hd, hdfault⟩ := exists_of_lastFault? hg
      exact .refused (List.mem_flatMap.mpr ⟨p, hp, hd⟩) hdfault (.inl rfl)
    · exact .own (.inr hover)
  | none =>
    dsimp only
    by_cases hstop : seen.stopped = true
    · rw [if_pos hstop]
      exact .own (.inr ⟨rfl, Nat.le_trans (Nat.le_of_eq (hstopped hstop).symm) htold.length⟩)
    · rw [if_neg hstop]
      by_cases hnone : faults = []
      · rw [if_pos (List.isEmpty_iff.mpr hnone)]
        refine .done fun d hd => ?_
        obtain ⟨p, hp, hd⟩ := List.mem_flatMap.mp hd
        have hclear := List.filterMap_eq_nil_iff.mp ((hfaults hseen).symm.trans hnone) p hp
        rw [Option.map_eq_none_iff, Walk.Probe.fault?, Option.map_eq_none_iff] at hclear
        exact lastFault?_eq_none_iff.mp hclear d hd
      · rw [if_neg fun h => hnone (List.isEmpty_iff.mp h)]
        refine .shown fun hclear => hnone ?_
        rw [hfaults hseen, List.filterMap_eq_nil_iff]
        intro p hp
        rw [Option.map_eq_none_iff, Walk.Probe.fault?, Option.map_eq_none_iff, lastFault?_eq_none_iff]
        exact fun d hd => hclear d (List.mem_flatMap.mpr ⟨p, hp, hd⟩)

/-- **Showing the paths of a tree.** -/
theorem asks_runWalk (path : Text) (stopOnFault : Bool) :
    (runWalk path stopOnFault : Action σ Nat).Asks Terminal.client (·.client.patience = patience)
      (Ends patience) := by
  intro t ht
  obtain ⟨probes, hdeals, -, htold, hnotes⟩ :=
    Walk.visit_probes { root := path, stopOnFault } t.client [] t.client.patience
  have hstopped := Walk.length_of_stopped Client.tree [] t.client.patience []
    ({ root := path, stopOnFault }, {}, t.client)
  rcases hvisit : Walk.visit Client.tree [] t.client.patience { root := path, stopOnFault } t.client with
    ⟨seen, walker, client⟩
  have hseen : (Walk.visitMore Client.tree [] t.client.patience []
      ({ root := path, stopOnFault }, {}, t.client)).1 = seen := congrArg Prod.fst hvisit
  rw [hseen, List.length_nil, Nat.zero_add, ht] at hstopped
  rw [hvisit] at hdeals htold hnotes
  rw [ht] at htold
  dsimp only at hdeals htold hnotes
  have hends := Ends.of_told htold (fun hnone => (hnotes hnone).faults) hstopped
  obtain ⟨ds, hshow, hkept, hshown, rfl⟩ :=
    asks_showVisits seen.entries { t with client } (hdeals.patience.trans ht)
  have hrun : (runWalk path stopOnFault).run t =
      (match seen.fault with
        | some f => .error f
        | none => if seen.stopped then .error .outOfPatience else .ok (if walker.faults.isEmpty then 0 else 1),
        ((showVisits seen.entries).run { t with client }).2) := by
    unfold runWalk
    rw [Step.run_bind, Step.run_get]
    dsimp only
    rw [hvisit]
    dsimp only
    rw [Step.run_bind, Step.run_set]
    dsimp only
    rw [Step.run_bind]
    generalize (showVisits seen.entries).run { t with client } = shown at hshown
    obtain ⟨_, t'⟩ := shown
    obtain rfl := hshown
    cases seen.fault with
    | some f => rfl
    | none =>
      cases seen.stopped with
      | true => rfl
      | false => rfl
  rw [hrun]
  exact ⟨_, hdeals.trans hshow, hkept, by rwa [List.append_nil]⟩

/-- A request whose reply is read and shown. -/
theorem asks_runQuietly {m : Message} {read : Packet → Except Fault Unit} {w : Unit → Payload}
    (hread : ∀ p, m.wants.read p = (read p).map w) (hkind : m.kind ≠ .readdir) :
    (runQuietly (Client.ask m read) : Action σ Nat).Asks Terminal.client (·.client.patience = patience)
      (Ends patience) := by
  have hask := Client.asks_ask (σ := σ) hread hkind (fun _ _ => False) patience
  refine (asks_onClient hask).bind (fun f ds h => ?_) fun _ ds h => ?_
  · exact Ends.of_straight (α := Unit) (r := .error f)
      (h.imp (fun _ _ => .inl) fun _ => False.elim)
  · refine Step.asks_of_same (fun _ => rfl) (fun _ h => h) fun _ _ => ?_
    rw [List.append_nil]
    exact .done h.clear

/-- Showing what a path leads to. -/
theorem asks_runStat (path : Text) :
    (runStat path : Action σ Nat).Asks Terminal.client (·.client.patience = patience) (Ends patience) := by
  intro t ht
  obtain ⟨d, -, hdeals, hfault⟩ := Client.dealt_ask (m := .stat path) (w := .attributes)
    (fun _ => rfl) (by exact nofun) (FileStats.ofAttributes path.leafName) t.client
  change t.client.Deals [d] ((Client.stat path).run t.client).2 at hdeals
  change d.fault? = faultOf ((Client.stat path).run t.client).1 at hfault
  have hkept := hdeals.patience.trans ht
  unfold runStat
  rw [Step.run_bind, onClient, Step.run_within]
  generalize (Client.stat path).run t.client = after at hdeals hfault hkept ⊢
  rcases after with ⟨f | stats, c⟩
  · exact ⟨[d], hdeals, hkept, .refused (List.mem_singleton_self d) hfault (.inl rfl)⟩
  · exact ⟨[d], hdeals, hkept, .done (List.forall_mem_singleton.mpr hfault)⟩

/-- Showing the entries of a directory. -/
theorem asks_runList (path : Text) :
    (runList path : Action σ Nat).Asks Terminal.client (·.client.patience = patience) (Ends patience) := by
  intro t ht
  obtain ⟨listing, ds, hlisting, hdeals, hdealt⟩ := Client.dealt_list path t.client
  have hkept := hdeals.patience.trans ht
  unfold runList
  rw [Step.run_bind, onClient, Step.run_within]
  rcases hrun : (Client.list path).run t.client with ⟨result, c⟩
  rw [hrun] at hlisting hdeals hkept
  obtain rfl := hlisting
  dsimp only
  rw [Step.run_bind, Step.run_ofExcept]
  cases hcomplete : listing.complete with
  | error f =>
    have hf := Listing.complete_eq_error_iff.mp hcomplete
    refine ⟨ds, hdeals, hkept, ?_⟩
    rcases hdealt.fault with hlast | ⟨-, g, hg, hover⟩
    · obtain ⟨d, hd, hdfault⟩ := exists_of_lastFault? (hlast.symm.trans hf)
      exact .refused hd hdfault (.inl rfl)
    · obtain rfl := Option.some.inj (hf.symm.trans hg)
      rw [ht] at hover
      exact .own (.inr hover)
  | ok entries =>
    have hclear : Clear ds := by
      have hnone := (Listing.complete_eq_ok_iff.mp hcomplete).1
      rcases hdealt.fault with hlast | ⟨-, g, hg, -⟩
      · exact lastFault?_eq_none_iff.mp (hlast.symm.trans hnone)
      · cases hnone.symm.trans hg
    have hshow : (do
        sayAll ((entries.mergeSort fun a b => a.name.le b.name).map FileStats.listing)
        return 0 : Action σ Nat).Asks Terminal.client (·.client.patience = patience)
          fun r others => Ends patience r (ds ++ others) := by
      refine (asks_sayAll _).bind nofun ?_
      rintro _ _ ⟨-, rfl⟩
      refine Step.asks_of_same (fun _ => rfl) (fun _ h => h) fun _ _ => ?_
      rw [List.append_nil, List.append_nil]
      exact .done hclear
    obtain ⟨others, hrest, hkept', hends⟩ := hshow { t with client := c } hkept
    exact ⟨_, hdeals.trans hrest, hkept', hends⟩

/-- **All that a command does to its client** is to make requests, and it ends as what came of them tells. -/
theorem asks_run (chunk : Nat) (c : Command) :
    (c.run chunk : Action σ Nat).Asks Terminal.client (·.client.patience = patience) (Ends patience) := by
  cases c with
  | list path => exact asks_runList path
  | stat path => exact asks_runStat path
  | download remotePath localPath =>
    exact (asks_runDownload chunk remotePath localPath).imp fun _ _ => Copied.ends
  | upload localPath remotePath =>
    refine (asks_runUpload chunk localPath remotePath).imp fun r ds h => ?_
    rcases h with ⟨f, rfl, rfl, hlocal⟩ | hcopied
    · exact .own (.inl hlocal)
    · exact hcopied.ends
  | remove path => exact asks_runQuietly (w := fun _ => .nothing) (fun _ => rfl) (by exact nofun)
  | rename oldPath newPath => exact asks_runQuietly (w := fun _ => .nothing) (fun _ => rfl) (by exact nofun)
  | makeDirectory path => exact asks_runQuietly (w := fun _ => .nothing) (fun _ => rfl) (by exact nofun)
  | removeDirectory path => exact asks_runQuietly (w := fun _ => .nothing) (fun _ => rfl) (by exact nofun)
  | walk path stopOnFault => exact asks_runWalk path stopOnFault

end Command

end Sftp
