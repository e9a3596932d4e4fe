import Sftp.Journal.Output
import Sftp.Proofs.Client.Proper
import Sftp.Proofs.Command.Session

/-!
# Exit codes

A run that has found its settings ends with 0 if its session was opened and its command and every request of
it were granted, and with 1 if something failed and that was shown. A fault leaves the run only where no
explanation is given for it: for a level of the journal that is no number, from opening the stream, for a
request too long for any frame, and from closing the stream, whatever the command has come to.

* `explanation_eq_none_iff`, `openingExplanation_eq_none_iff` — what has an explanation.
* `Line.Orderly` — a stream that fails as the system does; **`Link.fault_openSession`** — opening a session.
* `Outputs.setUp`, **`Outputs.fault_setUp`** — setting the journal up; `Command.Ends.fault` — the faults of a
  command.
* `Command.Exits`, **`Command.Runs.ends`** — how a run on a stream ends.
* `Invocation.Exits`, **`Invocation.exits`** — how a run ends.
* `Invocation.outcome_slippedInvocation` — a fault of closing leaves a run whose command succeeded.
-/

namespace Sftp

/-! ## Explanations -/

/-- Faults of the system, and values that make no sense, have an explanation. -/
theorem explanation_eq_none_iff {f : Fault} :
    explanation f = none ↔ (f.isSystem || f.isInvalid) = false := by
  unfold explanation
  rw [Bool.or_comm]
  cases f.isInvalid with
  | true => exact ⟨nofun, nofun⟩
  | false =>
    cases f.isSystem with
    | true => exact ⟨nofun, nofun⟩
    | false => exact ⟨fun _ => rfl, fun _ => rfl⟩

/-- So have faults of opening a stream. -/
theorem openingExplanation_eq_none_iff {f : Fault} :
    openingExplanation f = none ↔ (f.isSystem || f.isInvalid) = false := by
  rw [← explanation_eq_none_iff]
  unfold openingExplanation
  by_cases hdenied : f.category = .denied
  · rw [if_pos hdenied, explanation_eq_none_iff, Fault.isSystem, hdenied]
    exact ⟨nofun, nofun⟩
  · rw [if_neg hdenied]
    by_cases htimeout : f.category = .timeout
    · rw [if_pos htimeout, explanation_eq_none_iff, Fault.isSystem, htimeout]
      exact ⟨nofun, nofun⟩
    · rw [if_neg htimeout]
      by_cases hconnection : f.category.isConnection = true
      · rw [if_pos hconnection, explanation_eq_none_iff, Fault.isSystem]
        refine ⟨nofun, fun h => ?_⟩
        cases hcategory : f.category with
        | connection | brokenPipe =>
          rw [hcategory] at h
          cases h
        | _ =>
          rw [hcategory] at hconnection
          cases hconnection
      · rw [if_neg hconnection]

/-- A fault that has an explanation is shown. -/
theorem Command.concluded_of_explained {f : Fault} (h : (f.isSystem || f.isInvalid) = true) :
    Command.concluded (.error f) = .ok 1 := by
  refine if_pos (Option.isSome_iff_ne_none.mpr fun hnone => ?_)
  rw [explanation_eq_none_iff.mp hnone] at h
  cases h

/-! ## Streams of the system -/

/-- **A stream as the system gives it**: whatever fails on it, in writing, reading or closing, is a failure of
the system. -/
structure Line.Orderly {σ : Type} (line : Line σ) : Prop where
  /-- Chunks have bytes. -/
  tidy : line.inbox.Tidy
  /-- Writes and flushes fail so. -/
  writes : line.peer.FailsOnly (·.isSystem = true)
  /-- Reads fail so. -/
  reads : ∀ bytes f, (line.write bytes).2.inbox.ending = some (.broken f) → f.isSystem = true
  /-- Closing fails so. -/
  closes : ∀ state f, (line.peer.close state).1 = some f → f.isSystem = true

namespace Link

variable {σ : Type} {l : Link σ} {limit : Int} {f : Fault}

/-- A handshake over such a stream fails as the system or the server does, or because the stream was closed. -/
theorem fault_handshake (hidle : l.exchange.reader ≠ .running) (horderly : l.line.Orderly)
    (h : ((handshake limit).run l).1 = .error f) : f.isSystem = true ∨ f = .closedStream := by
  rcases breaks_or_greeted hidle horderly.tidy with ⟨g, hbreaks⟩ | hgreeted
  · rw [(hbreaks.run_handshake hidle limit).1] at h
    obtain rfl := Except.error.inj h
    exact sort_of_transmit horderly.writes hbreaks.run_transmit
  · rcases hgreeted.refuses hidle h with ⟨text, rfl⟩ | ⟨-, hending⟩
    · exact .inl (Fault.isSystem_status _)
    · exact .inl (horderly.reads greetingFrame f hending)

/-- **Opening a session over such a stream**, too: the fault of closing the stream after a handshake that
failed is one of the system. -/
theorem fault_openSession (hidle : l.exchange.reader = .idle) (horderly : l.line.Orderly)
    (h : ((openSession limit).run l).1 = .error f) : f.isSystem = true ∨ f = .closedStream := by
  have hstill : l.exchange.reader ≠ .running := by
    rw [hidle]
    exact nofun
  cases hresult : ((handshake limit).run l).1 with
  | ok agreed =>
    rw [(openSession_of_ok hresult).1] at h
    cases h
  | error g =>
    rw [(openSession_of_error hstill hresult).1] at h
    obtain ⟨-, -, hpeer, -⟩ := handshake_keeps hstill limit
    cases hclose : ((handshake limit).run l).2.line.close.1 with
    | none =>
      rw [hclose] at h
      obtain rfl := Except.error.inj h
      exact fault_handshake hstill horderly hresult
    | some e =>
      rw [hclose] at h
      obtain rfl := Except.error.inj h
      rw [Line.close, hpeer] at hclose
      exact .inl (horderly.closes _ _ hclose)

end Link

/-! ## The journal -/

namespace Outputs

variable {f : Fault}

/-- A text that is no level has an explanation, but for one. -/
theorem fault_levelOf {name : Text} (h : levelOf name = .error f) :
    (f.isSystem || f.isInvalid) = true ∨ ∃ description, f = .notALevel description := by
  unfold levelOf at h
  dsimp only at h
  split at h
  · cases h
  · split at h
    · obtain rfl := Except.error.inj h
      exact .inl rfl
    · split at h
      · obtain rfl := Except.error.inj h
        exact .inr ⟨_, rfl⟩
      · cases h

/-- So has a file that cannot be opened for the journal. -/
theorem fault_openFile {path : Text} {s : Outputs} (h : ((openFile path).run s).1 = .error f) :
    (f.isSystem || f.isInvalid) = true := by
  unfold openFile at h
  rw [Step.run_bind, Step.run_within] at h
  generalize hparents : (LocalFiles.ensureParents (LocalPath.ofText path)).run s.files = parents at h
  rcases parents with ⟨g | u, files⟩
  · obtain rfl := Except.error.inj h
    exact LocalFiles.isSystem_or_isInvalid (LocalFiles.fault_ensureDirectories (congrArg Prod.fst hparents))
  · dsimp only at h
    rw [Step.run_bind, Step.run_get] at h
    dsimp only at h
    rw [Step.run_bind, Step.run_ofExcept] at h
    cases hopen : files.append (LocalPath.ofText path).normalForm.toText [] with
    | error g =>
      rw [hopen] at h
      obtain rfl := Except.error.inj h
      exact LocalFiles.fault_append hopen
    | ok files' =>
      rw [hopen] at h
      cases h

/-- The outputs of the settings have an explanation of what fails, unless the level is the one text that names
no number. -/
theorem fault_configure {settings : JournalSettings} {s : Outputs}
    (h : ((configure settings).run s).1 = .error f) :
    (f.isSystem || f.isInvalid) = true ∨
      ∃ description, f = .notALevel description ∧ levelOf settings.level = .error f := by
  unfold configure at h
  rw [Step.run_bind, Step.run_ofExcept] at h
  cases hlevel : levelOf settings.level with
  | error g =>
    rw [hlevel] at h
    obtain rfl := Except.error.inj h
    exact (fault_levelOf hlevel).imp id fun ⟨description, hf⟩ => ⟨description, hf, rfl⟩
  | ok level =>
    rw [hlevel] at h
    dsimp only at h
    rw [Step.run_bind, Step.run_modify] at h
    dsimp only at h
    by_cases hfile : settings.file.isEmpty = true
    · rw [if_pos hfile] at h
      cases h
    · rw [if_neg hfile, Step.run_bind] at h
      generalize hopen : (openFile settings.file).run { s with level, outputs := [] } = opened at h
      rcases opened with ⟨g | path, s'⟩
      · obtain rfl := Except.error.inj h
        exact .inl (fault_openFile (congrArg Prod.fst hopen))
      · cases h

/-- Setting the journal up in a run, in place of the outputs that there are. -/
def setUp (s : Outputs) (settings : JournalSettings) : Step LocalFiles Unit :=
  (configure settings).within (fun files => { s with files }) fun _ s => s.files

/-- **Setting the journal up** fails with a fault that has an explanation, unless its level names no number. -/
theorem fault_setUp {s : Outputs} {settings : JournalSettings} {files : LocalFiles}
    (h : ((s.setUp settings).run files).1 = .error f) :
    (f.isSystem || f.isInvalid) = true ∨
      ∃ description, f = .notALevel description ∧ levelOf settings.level = .error f := by
  unfold setUp at h
  rw [Step.run_within] at h
  exact fault_configure h

end Outputs

/-! ## Commands -/

namespace Command

variable {σ : Type} {patience : Nat} {r : Except Fault Nat} {ds : List Dealing}

/-- What the faults of a command are, over a stream of the system: they have an explanation, or they are for
a request that is too long, or for more work than there is patience for. -/
theorem Ends.fault {f : Fault} (h : Ends patience (.error f) ds) (hproper : ∀ d ∈ ds, d.Proper) :
    (f.isSystem || f.isInvalid) = true ∨
      (∃ length, f = .unencodable (.tooLong length) ∧ ∃ d ∈ ds, d.fault? = some f) ∨
      f.Overtaxed patience (Dealing.totalWork ds) := by
  cases h with
  | @refused _ d _ g hd hg hf =>
    rcases (hproper d hd).fault hg with hsystem | ⟨-, cause, rfl, -⟩
    · left
      rw [Fault.isSystem, hf.category]
      exact Bool.or_eq_true_iff.mpr (.inl hsystem)
    · -- what has no encoding is passed on as it is
      obtain rfl : f = .unencodable cause := hf.elim id fun ⟨_, hf⟩ => hf
      cases cause with
      | tooLong length => exact .inr (.inl ⟨length, rfl, d, hd, hg⟩)
      | _ => exact .inl rfl
  | own hf => exact hf.imp id .inr

/-- A session was opened on a stream, and a command was carried out, with these dealings. -/
def CarriedOut (chunk : Nat) (c : Command) (line : Line σ) (r : Except Fault Nat) (ds : List Dealing) :
    Prop :=
  ∃ (client : Client σ) (t t' : Terminal σ), client.link.line = line ∧
    Client.connect.run client = (.ok ⟨⟩, t.client) ∧ (c.run chunk).run t = (r, t') ∧
      t.client.Deals ds t'.client

/-- How a run ends on a stream that was opened. -/
inductive Exits (patience chunk : Nat) (c : Command) (line : Line σ) : Except Fault Nat → Prop
  /-- The command has succeeded, and all of its requests were granted. -/
  | granted {ds : List Dealing} (h : CarriedOut chunk c line (.ok 0) ds) (hgranted : ∀ d ∈ ds, d.Granted) :
      Exits patience chunk c line (.ok 0)
  /-- Something failed, and that was shown. -/
  | shown : Exits patience chunk c line (.ok 1)
  /-- Closing the stream has failed, and not with a status. -/
  | unclosed {state : σ} {f : Fault} (hclose : (line.peer.close state).1 = some f)
      (hstatus : f.status? = none) : Exits patience chunk c line (.error f)
  /-- A request is too long for any frame. -/
  | tooLong {length : Nat} {ds : List Dealing} {d : Dealing}
      (h : CarriedOut chunk c line (.error (.unencodable (.tooLong length))) ds) (hd : d ∈ ds)
      (hfault : d.fault? = some (.unencodable (.tooLong length))) :
      Exits patience chunk c line (.error (.unencodable (.tooLong length)))
  /-- The server has given more to do than there is patience for. -/
  | overtaxed {ds : List Dealing} (h : CarriedOut chunk c line (.error .outOfPatience) ds)
      (hover : patience ≤ Dealing.totalWork ds) : Exits patience chunk c line (.error .outOfPatience)

/-- Closing may replace how a run ends. -/
theorem Exits.closedWith {chunk : Nat} {c : Command} {line : Line σ} {fault : Option Fault} {state : σ}
    (hclose : (line.peer.close state).1 = fault) (h : Exits patience chunk c line r) :
    Exits patience chunk c line (closedWith fault r) := by
  unfold Command.closedWith
  cases fault with
  | none => exact h
  | some f =>
    dsimp only
    by_cases hstatus : f.status?.isSome = true
    · rw [if_pos hstatus]
      exact h
    · rw [if_neg hstatus]
      exact .unclosed hclose (Option.not_isSome_iff_eq_none.mp hstatus)

/-- **How a run ends on a stream of the system.** -/
theorem Runs.ends {chunk : Nat} {c : Command} {t t' : Terminal σ} (h : Runs chunk c t r t')
    (hnone : t.client.session = none) (hidle : t.client.link.exchange.reader = .idle)
    (horderly : t.client.link.line.Orderly) :
    Exits t.client.patience chunk c t.client.link.line r := by
  cases h with
  | @unopened f _ hfault =>
    have hopening := Client.openSession_of_connect_error hnone hfault
    rw [concluded_of_explained]
    · exact .shown
    · rcases Link.fault_openSession hidle horderly (congrArg Prod.fst hopening) with hsystem | rfl
      · exact Bool.or_eq_true_iff.mpr (.inl hsystem)
      · rfl
  | @closed client r t₁ _ hopened hcommand _ =>
    have hable : client.Able (·.isSystem = true) := by
      have hable := Client.able_connect hnone hidle horderly.tidy horderly.writes
        (congrArg Prod.fst hopened)
      rwa [hopened] at hable
    obtain ⟨ds, hdeals, -, hends⟩ := asks_run chunk c { t with client } rfl
    rw [hcommand] at hdeals hends
    obtain ⟨-, hproper⟩ := hdeals.able (fun _ => id) hable
    obtain ⟨session, opened, hopening, rfl⟩ := Client.openSession_of_connect_ok hnone hopened
    -- the far end of the stream is the one that there was at first
    have hclose : (t.client.link.line.peer.close t₁.client.link.line.state).1 =
        t₁.client.link.line.close.1 := by
      have hsame := (Link.usable_openSession hidle horderly.tidy (congrArg Prod.fst hopening)).2
      rw [hopening] at hsame
      obtain ⟨link, hkept, -, hpeer⟩ := hdeals.keeps
      rw [Line.close, hkept, hpeer, hsame]
    have hcarried : CarriedOut chunk c t.client.link.line r ds := ⟨_, _, _, rfl, hopened, hcommand, hdeals⟩
    refine Exits.closedWith hclose ?_
    cases r with
    | ok code =>
      cases hends with
      | done hclear =>
        exact .granted hcarried fun d hd =>
          Dealing.granted_of_fault?_eq_none (hproper d hd) (hclear d hd)
      | shown _ => exact .shown
    | error f =>
      rcases hends.fault hproper with hexplained | ⟨length, rfl, d, hd, hfault⟩ | ⟨rfl, hover⟩
      · rw [concluded_of_explained hexplained]
        exact .shown
      · exact .tooLong hcarried hd hfault
      · exact .overtaxed hcarried hover

end Command

/-! ## Runs -/

namespace Invocation

variable {σ : Type} (files : LocalFiles) (journal : Outputs) (connect : Settings → Except Fault (Line σ))

/-- How a run ends that has found its settings. -/
inductive Exits (patience chunk : Nat) (c : Command) (settings : Settings) : Except Fault Nat → Prop
  /-- A stream was opened, and the run ends as runs on it do. -/
  | onStream {line : Line σ} {r : Except Fault Nat} (hconnect : connect settings = .ok line)
      (h : Command.Exits patience chunk c line r) : Exits patience chunk c settings r
  /-- The journal or the stream has failed, and that was shown. -/
  | shown : Exits patience chunk c settings (.ok 1)
  /-- The journal has no level. -/
  | unprepared {description : Text}
      (hlevel : levelOf settings.journal.level = .error (.notALevel description)) :
      Exits patience chunk c settings (.error (.notALevel description))
  /-- Opening the stream has failed with a fault that has no explanation. -/
  | unconnected {f : Fault} (h : connect settings = .error f) (hf : (f.isSystem || f.isInvalid) = false) :
      Exits patience chunk c settings (.error f)

/-- **How a run ends**, if what it opens is a stream of the system. It gives 0 only if its session was opened,
the command has succeeded and all of its requests were granted; else it gives 1, or there is a fault without an
explanation.

Two things are simpler here than in a run on a system. A server that keeps silent is taken to have hung up
(`Link.await`), so a run does not wait for ever. And what is shown is always shown (`Terminal.say`,
`Terminal.complain`): there is no output that is closed or cannot take the letters of a name. -/
theorem exits (patience chunk : Nat) {i : Invocation} {c : Command} {settings : Settings}
    (hcommand : i.command = some c) (hload : Settings.load files i.configuration i.overrides = .ok settings)
    (horderly : ∀ line, connect settings = .ok line → line.Orderly) :
    Exits connect patience chunk c settings
      (i.runJournalled files journal.setUp connect patience chunk).outcome := by
  unfold runJournalled
  rw [hcommand]
  dsimp only
  rw [hload]
  dsimp only
  rcases hprepare : (journal.setUp settings.journal).run files with ⟨f | u, files'⟩
  · rw [runWith_of_unprepared files journal.setUp connect patience chunk c hprepare]
    cases hexplained : explanation f with
    | some line => exact .shown
    | none =>
      rcases Outputs.fault_setUp (congrArg Prod.fst hprepare) with hshown | ⟨description, rfl, hlevel⟩
      · cases hshown.symm.trans (explanation_eq_none_iff.mp hexplained)
      · exact .unprepared hlevel
  · cases hconnect : connect settings with
    | error f =>
      rw [runWith_of_unconnected files journal.setUp connect patience chunk c hprepare hconnect]
      cases hexplained : openingExplanation f with
      | none => exact .unconnected hconnect (openingExplanation_eq_none_iff.mp hexplained)
      | some line => exact .shown
    | ok line =>
      obtain ⟨records, t', -, hruns⟩ :=
        runWith_of_opened files journal.setUp connect patience chunk c hprepare hconnect
      exact .onStream hconnect (hruns.ends rfl rfl (horderly line hconnect))

/-- A run that removes a file. -/
def slippedInvocation : Invocation where
  overrides := { host := some "h" }
  command := some (.remove "/x")

/-- Its settings. -/
def slippedSettings : Settings where
  session := default
  connection := {}
  journal := {}
  ssh := some { host := "h" }

/-- A stream on which the file is removed, and which fails when it is closed. -/
def slippedLine : Line (List (Int → Packet)) where
  peer := { Peer.inTurn with close := fun s => (some (.foreign .system "os"), s) }
  state := [fun _ => .version 3 .empty,
    fun id => .message id (.status StatusCode.ok.number "" "")]

/-- How the run on that stream ends. -/
def slippedOutcome : Except Fault Nat :=
  (slippedInvocation.runJournalled ⟨[]⟩ (Outputs.setUp { files := ⟨[]⟩ }) (fun _ => .ok slippedLine) 9 4).outcome

/-- The stream is one of the system. -/
theorem orderly_slippedLine : slippedLine.Orderly where
  tidy := List.forall_mem_nil _
  writes := by
    have hinTurn := Peer.failsOnly_inTurn (·.isSystem = true)
    exact ⟨hinTurn.write, hinTurn.flush⟩
  reads bytes f h := by
    have hversion : (Packet.version 3 .empty).encode = .ok [0, 0, 0, 5, 2, 0, 0, 0, 3] := by
      decide +kernel
    have hwrite : (slippedLine.write bytes).2.inbox.ending = none := by
      unfold Line.write slippedLine Peer.inTurn
      dsimp only
      rw [hversion]
      rfl
    cases hwrite.symm.trans h
  closes state f h := by
    obtain rfl := Option.some.inj h
    rfl

/-- The run ends so. -/
theorem exits_slippedInvocation :
    slippedInvocation.command = some (.remove "/x") ∧
      Settings.load ⟨[]⟩ slippedInvocation.configuration slippedInvocation.overrides = .ok slippedSettings ∧
      slippedLine.Orderly ∧
      Exits (fun _ => .ok slippedLine) 9 4 (.remove "/x") slippedSettings slippedOutcome := by
  have hload : Settings.load ⟨[]⟩ slippedInvocation.configuration slippedInvocation.overrides =
      .ok slippedSettings := by decide +kernel
  refine ⟨rfl, hload, orderly_slippedLine, exits ⟨[]⟩ _ _ 9 4 rfl hload ?_⟩
  rintro _ ⟨⟩
  exact orderly_slippedLine

/-- **A fault of closing leaves a run whose command has succeeded.** -/
theorem outcome_slippedInvocation : slippedOutcome = .error (.foreign .system "os") := by
  decide +kernel

end Invocation

end Sftp
