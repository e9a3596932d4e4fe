import Sftp.Settings.Load

/-!
# What is read of a configuration file

A configuration file is read option by option, in a fixed order. An option that is missing or empty changes
nothing; one whose value has a bad reference, or is no integer where there should be one, is complained of. The
first complaint ends the reading, and without one every setting is the value of its option, or stays as it was.

* `unlessAny` — a value, unless something is complained of.
* `Ini.given?`, `Ini.value?`, `Ini.number?`, `Ini.yes?` — the value of an option, in its three sorts.
* `IniOption.all` — the options, in the order in which they are read; `IniOption.complaint?` — what is wrong
  with one.
* `Draft.filled` — settings with the values of the options; **`Draft.readIni_eq`** — that is what is read.
-/

namespace Sftp

variable {α β : Type}

/-! ## Complaints -/

/-- Gives a value, unless something is complained of, and then the first of that. -/
def unlessAny : List Fault → α → Except Fault α
  | [], x => .ok x
  | f :: _, _ => .error f

/-- What is complained of later counts only if nothing is earlier. -/
theorem bind_unlessAny {a : Except Fault α} {k : α → Except Fault β} {fs gs : List Fault} {x : α} {y : β}
    (ha : a = unlessAny fs x) (hk : k x = unlessAny gs y) : a >>= k = unlessAny (fs ++ gs) y := by
  subst ha
  cases fs with
  | nil => exact hk
  | cons f fs => rfl

/-! ## Values -/

namespace Ini

/-- The value of an option that is not empty, in a section that there is. -/
def given? (ini : Ini) (group key : Text) : Except IniProblem (Option Text) :=
  if ini.hasSection group then (ini.get? group key).map fun value => value.filter fun v => !v.isEmpty
  else .ok none

/-- The value of an option, if it has one. -/
def value? (ini : Ini) (group key : Text) : Option Text :=
  match ini.given? group key with
  | .ok value => value
  | .error _ => none

/-- The integer of an option, if it has one. -/
def number? (ini : Ini) (group key : Text) : Option Int :=
  (ini.value? group key).bind Text.toInteger?

/-- Whether an option says yes, if it has a value. -/
def yes? (ini : Ini) (group key : Text) : Option Bool :=
  (ini.value? group key).map saysYes

variable {ini : Ini} {group : Text}

/-- In a section that there is not, nothing is given. -/
theorem given?_of_not_hasSection (h : ini.hasSection group = false) (key : Text) :
    ini.given? group key = .ok none :=
  if_neg (by rw [h]; exact Bool.false_ne_true)

/-- So no option has a value. -/
theorem value?_of_not_hasSection (h : ini.hasSection group = false) (key : Text) :
    ini.value? group key = none := by
  unfold value?
  rw [given?_of_not_hasSection h]

/-- An option whose value is no integer has none. -/
theorem number?_of_not_hasSection (h : ini.hasSection group = false) (key : Text) :
    ini.number? group key = none := by
  unfold number?
  rw [value?_of_not_hasSection h]
  rfl

/-- Nor does it say yes. -/
theorem yes?_of_not_hasSection (h : ini.hasSection group = false) (key : Text) :
    ini.yes? group key = none := by
  unfold yes?
  rw [value?_of_not_hasSection h]
  rfl

end Ini

/-! ## Options -/

/-- An option that is read. -/
structure IniOption where
  /-- Its section. -/
  group : Text
  /-- Its name. -/
  key : Text
  /-- Whether its value should be an integer. -/
  isNumber : Bool

namespace IniOption

/-- What is wrong with an option: a reference of its value, or that it is no integer. -/
def complaint? (ini : Ini) (file : Text) (o : IniOption) : Option Fault :=
  match ini.given? o.group o.key with
  | .error problem => some (.ini problem file)
  | .ok none => none
  | .ok (some value) =>
    if o.isNumber && value.toInteger?.isNone then some (.badNumber o.group o.key value) else none

/-- The options of `[ssh]`, in the order in which they are read. -/
def ssh : List IniOption :=
  [⟨"ssh", "host", false⟩, ⟨"ssh", "username", false⟩, ⟨"ssh", "password", false⟩, ⟨"ssh", "key_file", false⟩,
    ⟨"ssh", "key_passphrase", false⟩, ⟨"ssh", "port", true⟩, ⟨"ssh", "use_agent", false⟩]

/-- Those of `[connection]`. -/
def connection : List IniOption :=
  [⟨"connection", "timeout_seconds", true⟩, ⟨"connection", "keepalive_interval_seconds", true⟩]

/-- Those of `[session]`. -/
def session : List IniOption :=
  [⟨"session", "max_packet_size", true⟩, ⟨"session", "max_frame_size", true⟩,
    ⟨"session", "server_command", false⟩]

/-- Those of `[logging]`. -/
def journal : List IniOption :=
  [⟨"logging", "level", false⟩, ⟨"logging", "file", false⟩, ⟨"logging", "console", false⟩]

/-- Those of `[general]`. -/
def general : List IniOption :=
  [⟨"general", "transport", false⟩]

/-- All options, in the order in which they are read. -/
def all : List IniOption :=
  [ssh, connection, session, journal, general].flatten

/-- One option after another: the first complaint counts. -/
theorem bind_complaints {c : IniOption → Option Fault} {o : IniOption} {options : List IniOption}
    {a : Except Fault α} {k : α → Except Fault β} {x : α} {y : β} (ha : a = unlessAny ([o].filterMap c) x)
    (hk : k x = unlessAny (options.filterMap c) y) :
    a >>= k = unlessAny ((o :: options).filterMap c) y := by
  rw [bind_unlessAny ha hk, ← List.filterMap_append, List.singleton_append]

end IniOption

open IniOption

namespace IniSection

variable {ini : Ini} {group : Text}

/-- In a section that there is, what is given is taken as a text. -/
theorem text?_eq_given? (h : ini.hasSection group = true) (file key : Text) :
    text? ⟨ini, file, group⟩ key =
      match ini.given? group key with
      | .ok value => .ok value
      | .error problem => .error (.ini problem file) := by
  unfold text? Ini.given?
  rw [if_pos h]
  rcases ini.get? group key with problem | value
  · rfl
  · rfl

/-- A text is the value of its option, unless that is complained of. -/
theorem text?_eq (h : ini.hasSection group = true) (file key : Text) :
    text? ⟨ini, file, group⟩ key =
      unlessAny ([⟨group, key, false⟩].filterMap (complaint? ini file)) (ini.value? group key) := by
  rw [text?_eq_given? h]
  rcases hgiven : ini.given? group key with problem | _ | value <;>
    simp [complaint?, Ini.value?, hgiven, unlessAny]

/-- So is an integer, which every value must be. -/
theorem integer?_eq (h : ini.hasSection group = true) (file key : Text) :
    integer? ⟨ini, file, group⟩ key =
      unlessAny ([⟨group, key, true⟩].filterMap (complaint? ini file)) (ini.number? group key) := by
  unfold integer?
  rw [text?_eq_given? h]
  rcases hgiven : ini.given? group key with problem | _ | value
  · simp [complaint?, hgiven, unlessAny, bind, Except.bind]
  · simp [complaint?, Ini.number?, Ini.value?, hgiven, unlessAny, bind, Except.bind, pure, Except.pure]
  · change some <$> integerOption group key value = _
    unfold integerOption
    cases hinteger : value.toInteger? with
    | none => simp [complaint?, hgiven, hinteger, unlessAny, Functor.map, Except.map]
    | some n => simp [complaint?, Ini.number?, Ini.value?, hgiven, hinteger, unlessAny, Functor.map, Except.map]

/-- And so is what says yes. -/
theorem yes?_eq (h : ini.hasSection group = true) (file key : Text) :
    yes? ⟨ini, file, group⟩ key =
      unlessAny ([⟨group, key, false⟩].filterMap (complaint? ini file)) (ini.yes? group key) := by
  unfold yes?
  rw [text?_eq h]
  generalize [(⟨group, key, false⟩ : IniOption)].filterMap (complaint? ini file) = complaints
  cases complaints with
  | nil => rfl
  | cons f fs => rfl

end IniSection

/-! ## Sections -/

namespace Draft

/-- Settings with the values of `[ssh]`. -/
def fillSsh (d : Draft) (ini : Ini) : Draft :=
  { d with ssh := {
    host := (ini.value? "ssh" "host").getD d.ssh.host
    username := (ini.value? "ssh" "username").or d.ssh.username
    password := (ini.value? "ssh" "password").or d.ssh.password
    keyFile := (ini.value? "ssh" "key_file").or d.ssh.keyFile
    keyPassphrase := (ini.value? "ssh" "key_passphrase").or d.ssh.keyPassphrase
    port := (ini.number? "ssh" "port").getD d.ssh.port
    useAgent := (ini.yes? "ssh" "use_agent").getD d.ssh.useAgent } }

/-- Settings with the values of `[connection]`. -/
def fillConnection (d : Draft) (ini : Ini) : Draft :=
  { d with connection := {
    timeoutSeconds := (ini.number? "connection" "timeout_seconds").getD d.connection.timeoutSeconds
    keepaliveSeconds :=
      (ini.number? "connection" "keepalive_interval_seconds").getD d.connection.keepaliveSeconds } }

/-- Settings with the values of `[session]`. -/
def fillSession (d : Draft) (ini : Ini) : Draft :=
  { d with
    packetSize := (ini.number? "session" "max_packet_size").getD d.packetSize
    frameSize := (ini.number? "session" "max_frame_size").getD d.frameSize
    serverCommand := ((ini.value? "session" "server_command").map Text.words).or d.serverCommand }

/-- Settings with the values of `[logging]`. -/
def fillJournal (d : Draft) (ini : Ini) : Draft :=
  { d with journal := {
    level := (ini.value? "logging" "level").getD d.journal.level
    file := (ini.value? "logging" "file").getD d.journal.file
    console := (ini.yes? "logging" "console").getD d.journal.console } }

/-- Settings with the values of `[general]`. -/
def fillGeneral (d : Draft) (ini : Ini) : Draft :=
  { d with carrier := ((ini.value? "general" "transport").map Text.lower).getD d.carrier }

/-- Settings with the values of a file. -/
def filled (d : Draft) (ini : Ini) : Draft :=
  ((((d.fillSsh ini).fillConnection ini).fillSession ini).fillJournal ini).fillGeneral ini

/-- How a section is read: its options give the values, unless one is complained of. -/
structure Fills (group : Text) (read : Draft → IniSection → Except Fault Draft) (options : List IniOption)
    (fill : Draft → Ini → Draft) : Prop where
  /-- The options are of the section. -/
  group_eq : ∀ o ∈ options, o.group = group
  /-- If the section is there, it is read so. -/
  present : ∀ {ini : Ini}, ini.hasSection group = true → ∀ (file : Text) (d : Draft),
    read d ⟨ini, file, group⟩ = unlessAny (options.filterMap (complaint? ini file)) (fill d ini)
  /-- If it is not, no value changes anything. -/
  absent : ∀ {ini : Ini}, ini.hasSection group = false → ∀ d : Draft, fill d ini = d

theorem fills_ssh : Fills "ssh" readSsh IniOption.ssh fillSsh where
  group_eq := by decide
  present h file d := by
    unfold readSsh
    exact bind_complaints (IniSection.text?_eq h file _) <| bind_complaints (IniSection.text?_eq h file _) <|
      bind_complaints (IniSection.text?_eq h file _) <| bind_complaints (IniSection.text?_eq h file _) <|
      bind_complaints (IniSection.text?_eq h file _) <| bind_complaints (IniSection.integer?_eq h file _) <|
      bind_complaints (IniSection.yes?_eq h file _) rfl
  absent h d := by
    unfold fillSsh
    simp only [Ini.value?_of_not_hasSection h, Ini.number?_of_not_hasSection h, Ini.yes?_of_not_hasSection h]
    rfl

theorem fills_connection : Fills "connection" readConnection IniOption.connection fillConnection where
  group_eq := by decide
  present h file d := by
    unfold readConnection
    exact bind_complaints (IniSection.integer?_eq h file _) <|
      bind_complaints (IniSection.integer?_eq h file _) rfl
  absent h d := by
    unfold fillConnection
    simp only [Ini.number?_of_not_hasSection h]
    rfl

theorem fills_session : Fills "session" readSession IniOption.session fillSession where
  group_eq := by decide
  present h file d := by
    unfold readSession
    exact bind_complaints (IniSection.integer?_eq h file _) <|
      bind_complaints (IniSection.integer?_eq h file _) <| bind_complaints (IniSection.text?_eq h file _) rfl
  absent h d := by
    unfold fillSession
    simp only [Ini.value?_of_not_hasSection h, Ini.number?_of_not_hasSection h]
    rfl

theorem fills_journal : Fills "logging" readJournal IniOption.journal fillJournal where
  group_eq := by decide
  present h file d := by
    unfold readJournal
    exact bind_complaints (IniSection.text?_eq h file _) <| bind_complaints (IniSection.text?_eq h file _) <|
      bind_complaints (IniSection.yes?_eq h file _) rfl
  absent h d := by
    unfold fillJournal
    simp only [Ini.value?_of_not_hasSection h, Ini.yes?_of_not_hasSection h]
    rfl

theorem fills_general : Fills "general" readGeneral IniOption.general fillGeneral where
  group_eq := by decide
  present h file d := by
    unfold readGeneral
    exact bind_complaints (IniSection.text?_eq h file _) rfl
  absent h d := by
    unfold fillGeneral
    simp only [Ini.value?_of_not_hasSection h]
    rfl

section

variable {group : Text} {read : Draft → IniSection → Except Fault Draft} {options : List IniOption}
  {fill : Draft → Ini → Draft} {ini : Ini} {file : Text}

/-- If a section is not there, there is nothing to complain of. -/
theorem Fills.complaints_eq_nil (h : Fills group read options fill) (hsection : ini.hasSection group = false) :
    options.filterMap (complaint? ini file) = [] := by
  rw [List.filterMap_eq_nil_iff]
  intro o ho
  have hgiven := Ini.given?_of_not_hasSection (h.group_eq o ho ▸ hsection) o.key
  unfold complaint?
  rw [hgiven]

/-- One section is read before others. -/
theorem Fills.before {rest : List (Text × (Draft → IniSection → Except Fault Draft))} {more : List IniOption}
    {d d' : Draft} (h : Fills group read options fill)
    (hrest : readSections ini file (fill d ini) rest = unlessAny (more.filterMap (complaint? ini file)) d') :
    readSections ini file d ((group, read) :: rest) =
      unlessAny ((options ++ more).filterMap (complaint? ini file)) d' := by
  unfold readSections
  rw [List.filterMap_append]
  cases hsection : ini.hasSection group with
  | true => exact bind_unlessAny (h.present hsection file d) hrest
  | false =>
    rw [h.complaints_eq_nil hsection, List.nil_append, ← hrest, h.absent hsection]
    rfl

end

/-- **A file is read option by option**: the first complaint counts, and without one the settings have the
values of the file. -/
theorem readIni_eq (d : Draft) (ini : Ini) (file : Text) :
    d.readIni ini file = unlessAny (IniOption.all.filterMap (complaint? ini file)) (d.filled ini) :=
  fills_ssh.before <| fills_connection.before <| fills_session.before <| fills_journal.before <|
    fills_general.before <| rfl

end Draft

end Sftp
