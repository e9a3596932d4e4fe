import Sftp.Proofs.Command.Requests

/-!
# Runs and their stream

A run that has opened a stream opens a session on it, and that either fails and closes the stream, or the
command is carried out and the session is closed with the stream, whatever becomes of the command.
Responsibility for the stream so passes from the run to the session and back, and the stream is closed once.

* `Command.concluded`, `Command.closedWith` — what becomes of how a command ends: a fault with an explanation
  is shown, and closing may have a fault of its own.
* **`Command.Runs`**, **`Command.runs`** — how a run goes on an open stream.
* `Command.Runs.closes` — the stream is closed once more; `Invocation.opened?` — the stream of a run.
* **`Invocation.closes_once`** — every run.
-/

namespace Sftp

namespace Command

variable {σ : Type}

open Terminal

/-! ## What becomes of how a command ends -/

/-- How a run ends if its command ended so, unless closing the session has a fault. -/
def concluded : Except Fault Nat → Except Fault Nat
  | .ok code => .ok code
  | .error f => if (explanation f).isSome then .ok 1 else .error f

/-- How a run ends if closing the session has a fault: one with a status is only reported. -/
def closedWith : Option Fault → Except Fault Nat → Except Fault Nat
  | some f, r => if f.status?.isSome then r else .error f
  | none, r => r

/-- To conclude shows at most a line. -/
theorem run_conclude (r : Except Fault Nat) (t : Terminal σ) :
    ∃ out, (conclude r : Action σ Nat).run t = (concluded r, { t with out }) := by
  cases r with
  | ok code => exact ⟨t.out, rfl⟩
  | error f =>
    unfold conclude concluded
    dsimp only
    cases explanation f with
    | none => exact ⟨t.out, rfl⟩
    | some line => exact ⟨t.out ++ line ++ "\n", rfl⟩

/-- **Closing the session** at the end of a run: a fault that has a status is only reported. -/
theorem run_hangUp {t : Terminal σ} {session : Session} (h : t.client.session = some session)
    (hopen : session.closed = false) :
    ∃ t', (hangUp : Action σ Unit).run t =
        (match t.client.link.line.close.1 with
          | some f => if f.status?.isSome then .ok ⟨⟩ else .error f
          | none => .ok ⟨⟩, t') ∧
      t'.client.link.line = (Link.closeSession.run t.client.link).2.line := by
  obtain ⟨hresult, hlink⟩ := Client.run_disconnect_of_open h hopen
  rw [Link.result_closeSession] at hresult
  rw [← hlink]
  unfold hangUp
  rw [Step.run_bind, Step.run_attempt, onClient, Step.run_within]
  generalize Client.disconnect.run t.client = outcome at hresult
  obtain ⟨result, client⟩ := outcome
  dsimp only at hresult ⊢
  subst hresult
  cases t.client.link.line.close.1 with
  | none => exact ⟨_, rfl, rfl⟩
  | some f =>
    dsimp only
    by_cases hstatus : f.status?.isSome = true
    · rw [if_pos hstatus, if_pos hstatus]
      exact ⟨_, rfl, rfl⟩
    · rw [if_neg hstatus, if_neg hstatus]
      exact ⟨_, rfl, rfl⟩

/-! ## Runs on an open stream -/

/-- **How a run goes on an open stream.** -/
inductive Runs (chunk : Nat) (c : Command) (t : Terminal σ) : Except Fault Nat → Terminal σ → Prop
  /-- No session was opened. -/
  | unopened {f : Fault} {t' : Terminal σ} (hfault : Client.connect.run t.client = (.error f, t'.client)) :
      Runs chunk c t (concluded (.error f)) t'
  /-- A session was opened, the command was carried out, and the session was closed. -/
  | closed {client : Client σ} {r : Except Fault Nat} {t₁ t' : Terminal σ}
      (hopened : Client.connect.run t.client = (.ok ⟨⟩, client))
      (hcommand : (c.run chunk).run { t with client } = (r, t₁))
      (hline : t'.client.link.line = (Link.closeSession.run t₁.client.link).2.line) :
      Runs chunk c t (closedWith t₁.client.link.line.close.1 (concluded r)) t'

/-- Connecting opens a session that is open, or none. -/
theorem connect_opens {client : Client σ} {t : Terminal σ} (hnone : t.client.session = none)
    (hidle : t.client.link.exchange.reader = .idle)
    (hopened : Client.connect.run t.client = (.ok ⟨⟩, client)) :
    ∃ session, client.session = some session ∧ session.closed = false ∧
      client.link.line.closes = t.client.link.line.closes := by
  obtain ⟨session, link, hopening, rfl⟩ := Client.openSession_of_connect_ok hnone hopened
  have hends := Link.opening hidle t.client.settings.frameSize
  rw [hopening] at hends
  cases hends with
  | opened hopen hfirst hcloses _ _ => exact ⟨session, rfl, hopen, hcloses.trans hfirst.symm⟩

/-- **Every run on an open stream** goes so. -/
theorem runs (chunk : Nat) (c : Command) {t : Terminal σ} (hnone : t.client.session = none)
    (hidle : t.client.link.exchange.reader = .idle) :
    Runs chunk c t ((runSession chunk c).run t).1 ((runSession chunk c).run t).2 := by
  unfold runSession
  rw [Step.run_bind, Step.run_attempt, onClient, Step.run_within, Client.openSession, Step.run_bind]
  rcases hconnect : Client.connect.run t.client with ⟨f | u, client⟩
  · dsimp only
    obtain ⟨out, hconclude⟩ := run_conclude (.error f) { t with client }
    rw [hconclude]
    exact .unopened hconnect
  · obtain ⟨session, hsession, hopen, -⟩ := connect_opens hnone hidle hconnect
    dsimp only
    rw [Client.run_currentSession, hsession]
    dsimp only
    rw [Step.run_andFinally, Step.run_bind, Step.run_attempt]
    dsimp only
    rcases hcommand : (c.run chunk).run { t with client } with ⟨r, t₁⟩
    dsimp only
    -- the command leaves the session of its client as it is
    have hkept : t₁.client.session = some session := by
      obtain ⟨ds, hdeals, -⟩ := asks_run chunk c { t with client } rfl
      rw [hcommand] at hdeals
      obtain ⟨link, hclient, -⟩ := hdeals.keeps
      rw [hclient]
      exact hsession
    obtain ⟨out, hconclude⟩ := run_conclude r t₁
    rw [hconclude]
    dsimp only
    obtain ⟨t', hhangUp, hline⟩ := run_hangUp (t := { t₁ with out }) hkept hopen
    rw [hhangUp]
    have hruns := Runs.closed hconnect hcommand hline
    dsimp only at hline hruns ⊢
    unfold closedWith at hruns
    cases hclose : t₁.client.link.line.close.1 with
    | none =>
      rw [hclose] at hruns
      exact hruns
    | some f =>
      rw [hclose] at hruns
      dsimp only at hruns ⊢
      by_cases hstatus : f.status?.isSome = true
      · rw [if_pos hstatus] at hruns ⊢
        exact hruns
      · rw [if_neg hstatus] at hruns ⊢
        exact hruns

/-- **The stream is closed once more** when a run on it is over. -/
theorem Runs.closes {chunk : Nat} {c : Command} {t t' : Terminal σ} {r : Except Fault Nat}
    (h : Runs chunk c t r t') (hnone : t.client.session = none)
    (hidle : t.client.link.exchange.reader = .idle) :
    t'.client.link.line.closes = t.client.link.line.closes + 1 := by
  cases h with
  | @unopened f _ hfault =>
    have hends := Link.opening hidle t.client.settings.frameSize
    rw [Client.openSession_of_connect_error hnone hfault] at hends
    cases hends with
    | failed _ hcloses _ => exact hcloses
  | @closed client r t₁ _ hopened hcommand hline =>
    obtain ⟨-, -, -, hsame⟩ := connect_opens hnone hidle hopened
    obtain ⟨ds, hdeals, -⟩ := asks_run chunk c { t with client } rfl
    rw [hcommand] at hdeals
    obtain ⟨link, hclient, hcloses, -⟩ := hdeals.keeps
    rw [hline, (Link.line_closeSession t₁.client.link).1, hclient]
    exact congrArg (· + 1) (hcloses.trans hsame)

end Command

/-! ## Runs -/

/-- A run that ended with a fault before there was a stream has none. -/
theorem RunReport.line_ofFault {σ : Type} (files : LocalFiles) (f : Fault) (explanation : Option Text) :
    (ofFault files f explanation : RunReport σ).line = none := by
  cases explanation with
  | none => rfl
  | some line => rfl

namespace Invocation

variable {σ : Type} (files : LocalFiles) (prepare : JournalSettings → Step LocalFiles Unit)
  (connect : Settings → Except Fault (Line σ))

section opening

variable (patience chunk : Nat) (c : Command) {settings : Settings} {files' : LocalFiles} {f : Fault}

/-- A run without a journal. -/
theorem runWith_of_unprepared (hprepare : (prepare settings.journal).run files = (.error f, files')) :
    runWith files prepare connect patience chunk c settings =
      { RunReport.ofFault files' f (explanation f) with settings := some settings } := by
  unfold runWith
  rw [hprepare]

/-- A run without a stream. -/
theorem runWith_of_unconnected (hprepare : (prepare settings.journal).run files = (.ok (), files'))
    (hconnect : connect settings = .error f) :
    runWith files prepare connect patience chunk c settings =
      { RunReport.ofFault files' f (openingExplanation f) with
        settings := some settings, journal := Journal.add #[] .info startRecord } := by
  unfold runWith
  rw [hprepare]
  dsimp only
  rw [hconnect]

/-- A run on a stream that was opened. -/
theorem runWith_of_opened {line : Line σ}
    (hprepare : (prepare settings.journal).run files = (.ok (), files'))
    (hconnect : connect settings = .ok line) :
    ∃ journal t', (runWith files prepare connect patience chunk c settings).line = some t'.client.link.line ∧
      Command.Runs chunk c
        { client := { Client.make settings.session line patience with
            link := { (Client.make settings.session line patience).link with journal } }, files := files' }
        (runWith files prepare connect patience chunk c settings).outcome t' := by
  have hruns := Command.runs chunk c
    (t := { client := { Client.make settings.session line patience with
      link := { (Client.make settings.session line patience).link with
        journal := Journal.add #[] .info startRecord } }, files := files' }) rfl rfl
  unfold runWith
  rw [hprepare]
  dsimp only
  rw [hconnect]
  exact ⟨_, _, rfl, hruns⟩

end opening

/-- The stream that is opened in a run: one is, if there is a command, the settings can be loaded, the
journal can be set up and connecting succeeds. -/
def opened? (i : Invocation) : Option (Line σ) :=
  match i.command, Settings.load files i.configuration i.overrides with
  | some _, .ok settings =>
    match ((prepare settings.journal).run files).1, connect settings with
    | .ok (), .ok line => some line
    | _, _ => none
  | _, _ => none

/-- **A run closes its stream exactly once**, whatever becomes of the run: the stream that it has opened is
closed once more at its end than when it was opened, and if it has opened none, there is none. -/
theorem closes_once (patience chunk : Nat) (i : Invocation) :
    (i.runJournalled files prepare connect patience chunk).line.map Line.closes =
      (i.opened? files prepare connect).map fun line => line.closes + 1 := by
  unfold runJournalled opened?
  cases i.command with
  | none => rfl
  | some c =>
    dsimp only
    cases Settings.load files i.configuration i.overrides with
    | error f =>
      exact congrArg (Option.map Line.closes) (RunReport.line_ofFault files f _)
    | ok settings =>
      dsimp only
      rcases hprepare : (prepare settings.journal).run files with ⟨f | u, files'⟩
      · rw [runWith_of_unprepared files prepare connect patience chunk c hprepare]
        exact congrArg (Option.map Line.closes) (RunReport.line_ofFault files' f _)
      · cases hconnect : connect settings with
        | error f =>
          rw [runWith_of_unconnected files prepare connect patience chunk c hprepare hconnect]
          exact congrArg (Option.map Line.closes) (RunReport.line_ofFault files' f _)
        | ok line =>
          obtain ⟨journal, t', hline, hruns⟩ :=
            runWith_of_opened files prepare connect patience chunk c hprepare hconnect
          rw [hline]
          exact congrArg some (hruns.closes rfl rfl)

end Invocation

end Sftp
