import Mathlib.Data.List.Basic
import Sftp.Proofs.Settings.Reading

/-!
# Three layers of settings

Every setting has a default, over which comes the value of its option in the configuration file, if that is not
empty, and over this what the command line gives. Settings can be loaded exactly if these three layers name a
server that can be reached, with a size of requests that fits; the command line of a local server also chooses
how to reach it, unless the command line says otherwise.

* `Draft.resolved` — the three layers, for each setting.
* `Draft.override_filled` — that is what reading a file and then the command line comes to.
* `Draft.Reachable` — settings with which a server can be reached; `Draft.check_gives` — they pass the check, and
  no others.
* `Configuration` — the options that a path stands for; `Ini.Legible` — those that can be read.
* **`Settings.load_resolves`** — what is loaded, and when.
-/

namespace Sftp

/-! ## What the command line gives -/

/-- The number that is given, if it is one. -/
def Numeral.number? (n : Numeral) : Option Int :=
  match n.value with
  | .ok n => some n
  | .error _ => none

/-- What is wrong with a number that is given. -/
def Numeral.complaint? (n : Numeral) : Option Fault :=
  match n.value with
  | .ok _ => none
  | .error f => some f

/-- A number is the one that is given, unless it is complained of, or else the other. -/
theorem Numeral.valueOr_eq (given : Option Numeral) (own : Int) :
    valueOr given own = unlessAny (given.toList.filterMap complaint?) ((given.bind number?).getD own) := by
  cases given with
  | none => rfl
  | some n =>
    unfold valueOr
    cases hvalue : n.value <;> simp [complaint?, number?, hvalue, unlessAny]

namespace Overrides

/-- What is wrong with the numbers of a command line. -/
def complaints (o : Overrides) : List Fault :=
  (o.port.toList ++ o.packetSize.toList).filterMap Numeral.complaint?

/-- All numbers of a command line are integers. -/
def IsNumeric (o : Overrides) : Prop :=
  ∀ n ∈ o.port.toList ++ o.packetSize.toList, (Numeral.number? n).isSome = true

end Overrides

/-- The command line of a local server, as it may be given. -/
inductive ServerCommand
  /-- As one text. -/
  | text (t : Text)
  /-- As its words. -/
  | words (ts : List Text)

/-- The words of a command line; an empty one counts as not given. -/
def ServerCommand.words? : ServerCommand → Option (List Text)
  | text t => commandWords t
  | words ts => if ts = [] then none else some ts

/-! ## The layers -/

namespace Draft

/-- Each setting: what the command line gives, else the value of its option, else the default. -/
def resolved (ini : Ini) (o : Overrides) : Draft where
  ssh := {
    host := (o.host.or (ini.value? "ssh" "host")).getD Text.empty
    port := ((o.port.bind Numeral.number?).or (ini.number? "ssh" "port")).getD 22
    -- an empty name or password of the command line clears that of the file
    username := (o.username.or (ini.value? "ssh" "username")).filter fun t => !t.isEmpty
    password := (o.password.or (ini.value? "ssh" "password")).filter fun t => !t.isEmpty
    keyFile := o.keyFile.or (ini.value? "ssh" "key_file")
    keyPassphrase := o.keyPassphrase.or (ini.value? "ssh" "key_passphrase")
    useAgent := (ini.yes? "ssh" "use_agent").getD true }
  connection := {
    timeoutSeconds := (ini.number? "connection" "timeout_seconds").getD 30
    keepaliveSeconds := (ini.number? "connection" "keepalive_interval_seconds").getD 60 }
  packetSize :=
    ((o.packetSize.bind Numeral.number?).or (ini.number? "session" "max_packet_size")).getD defaultPacketSize
  frameSize := (ini.number? "session" "max_frame_size").getD defaultFrameSize
  serverCommand := o.serverCommand.or ((ini.value? "session" "server_command").map Text.words)
  journal := {
    level := if o.debug then "DEBUG" else (ini.value? "logging" "level").getD "INFO"
    file := (ini.value? "logging" "file").getD Text.empty
    console := o.debug || (ini.yes? "logging" "console").getD true }
  -- a local server is chosen by its command line, unless another way is given
  carrier := ((o.carrier.map Text.lower).or (o.serverCommand.map fun _ => Text.ofString "subprocess")).getD
    (((ini.value? "general" "transport").map Text.lower).getD "ssh")

/-- An option that has a value has one that is not empty. -/
theorem filter_value? (ini : Ini) (group key : Text) :
    (ini.value? group key).filter (fun t => !t.isEmpty) = ini.value? group key := by
  unfold Ini.value? Ini.given?
  cases ini.hasSection group with
  | false => rfl
  | true =>
    rcases ini.get? group key with problem | value
    · rfl
    · simp [Except.map, Option.filter_filter]

/-- What is chosen of a name or a password. -/
theorem chosen_eq (given : Option Text) (ini : Ini) (group key : Text) :
    chosen given (ini.value? group key) = (given.or (ini.value? group key)).filter fun t => !t.isEmpty := by
  unfold chosen
  cases given with
  | none => exact (filter_value? ini group key).symm
  | some t => cases hempty : t.isEmpty <;> simp [hempty, Option.filter_some]

/-- With the numbers of the command line, or else those of the file, the layers are complete. -/
theorem overrideBy_filled (ini : Ini) (o : Overrides) :
    (({} : Draft).filled ini).overrideBy o
        ((o.port.bind Numeral.number?).getD (({} : Draft).filled ini).ssh.port)
        ((o.packetSize.bind Numeral.number?).getD (({} : Draft).filled ini).packetSize) =
      resolved ini o := by
  unfold overrideBy resolved filled fillSsh fillConnection fillSession fillJournal fillGeneral
  simp only [Option.getD_or, Option.or_none, chosen_eq]
  cases o.debug <;> cases o.serverCommand <;> rfl

/-- **The layers are what reading a file and then the command line comes to**, unless a number of the command
line is none. -/
theorem override_filled (ini : Ini) (o : Overrides) :
    (({} : Draft).filled ini).override o = unlessAny o.complaints (resolved ini o) := by
  unfold override Overrides.complaints
  rw [List.filterMap_append]
  refine bind_unlessAny (Numeral.valueOr_eq o.port _) ?_
  rw [← List.append_nil (o.packetSize.toList.filterMap _), ← overrideBy_filled]
  exact bind_unlessAny (Numeral.valueOr_eq o.packetSize _) rfl

/-! ## The check -/

/-- Settings with which a server can be reached, with a size of requests that fits. -/
structure Reachable (d : Draft) : Prop where
  /-- A host is named, or a command line with a word. -/
  server : d.carrier = Text.ofString "ssh" ∧ d.ssh.host.isEmpty = false ∨
    d.carrier = Text.ofString "subprocess" ∧ d.serverCommand.getD [] ≠ []
  /-- A request has data, and they are no longer than a frame. -/
  sizes : 0 < d.packetSize ∧ d.packetSize ≤ d.frameSize

end Draft

/-- Settings that are those of a draft. -/
structure Settings.IsOf (settings : Settings) (d : Draft) : Prop where
  /-- The SSH server is there if its host is named, whether or not it is to be reached. -/
  ssh : settings.ssh = if d.ssh.host.isEmpty then none else some d.ssh
  connection : settings.connection = d.connection
  packetSize : settings.session.packetSize = d.packetSize
  frameSize : settings.session.frameSize = d.frameSize
  serverCommand : settings.session.serverCommand = d.serverCommand
  journal : settings.journal = d.journal
  carrier : Text.ofString settings.carrier.label = d.carrier

namespace Draft

/-- What comes of a draft from which there can be settings under a condition. -/
structure Gives (d : Draft) (possible : Prop) (r : Except Fault Settings) : Prop where
  /-- There are settings exactly under the condition. -/
  exists_iff : (∃ settings, r = .ok settings) ↔ possible
  /-- They are those of the draft. -/
  isOf : ∀ settings, r = .ok settings → settings.IsOf d
  /-- Else some value makes no sense. -/
  isInvalid : ∀ f, r = .error f → f.isInvalid = true

theorem gives_ok {d : Draft} {possible : Prop} {settings : Settings} (h : possible) (hsettings : settings.IsOf d) :
    d.Gives possible (.ok settings) where
  exists_iff := ⟨fun _ => h, fun _ => ⟨settings, rfl⟩⟩
  isOf _ heq := Except.ok.inj heq ▸ hsettings
  isInvalid _ heq := by cases heq

theorem gives_error {d : Draft} {possible : Prop} {f : Fault} (h : ¬ possible) (hf : f.isInvalid = true) :
    d.Gives possible (.error f) where
  exists_iff := ⟨fun ⟨_, heq⟩ => (by cases heq), fun hpossible => absurd hpossible h⟩
  isOf _ heq := by cases heq
  isInvalid _ heq := Except.error.inj heq ▸ hf

/-- A way to reach the server is one of two. -/
theorem carrier?_cases (d : Draft) :
    (∃ carrier, d.carrier? = .ok carrier ∧ d.carrier = Text.ofString carrier.label) ∨
      d.carrier? = .error (.unknownCarrier d.carrier) ∧
        ∀ carrier : Carrier, d.carrier ≠ Text.ofString carrier.label := by
  unfold carrier?
  by_cases hssh : d.carrier = Text.ofString Carrier.ssh.label
  · exact .inl ⟨.ssh, if_pos hssh, hssh⟩
  · rw [if_neg hssh]
    by_cases hsubprocess : d.carrier = Text.ofString Carrier.subprocess.label
    · exact .inl ⟨.subprocess, if_pos hsubprocess, hsubprocess⟩
    · exact .inr ⟨if_neg hsubprocess, fun carrier => by cases carrier <;> assumption⟩

/-- Nothing is missing to reach a server in the way that is named exactly if its setting is not empty. -/
theorem missing?_eq_none_iff {d : Draft} {carrier : Carrier} (h : d.carrier = Text.ofString carrier.label) :
    d.missing? carrier = none ↔
      d.carrier = Text.ofString "ssh" ∧ d.ssh.host.isEmpty = false ∨
        d.carrier = Text.ofString "subprocess" ∧ d.serverCommand.getD [] ≠ [] := by
  have hother : Text.ofString "ssh" ≠ Text.ofString "subprocess" := by decide
  rw [h]
  unfold missing?
  cases carrier with
  | ssh => simp [hother, Carrier.label]
  | subprocess => simp [hother.symm, Carrier.label]

/-- **Settings pass the check exactly if a server can be reached with them**, and else some value makes no
sense. -/
theorem check_gives (d : Draft) : d.Gives d.Reachable d.check := by
  unfold check
  obtain ⟨carrier, hcarrier, hlabel⟩ | ⟨hcarrier, hnone⟩ := d.carrier?_cases
  · cases hmissing : d.missing? carrier with
    | some name =>
      simp only [hcarrier, hmissing, bind, Except.bind]
      refine gives_error (fun hreach => ?_) rfl
      rw [(missing?_eq_none_iff hlabel).mpr hreach.server] at hmissing
      cases hmissing
    | none =>
      have hserver := (missing?_eq_none_iff hlabel).mp hmissing
      simp only [hcarrier, hmissing, bind, Except.bind, SessionSettings.make]
      by_cases hsizes : 0 < d.packetSize ∧ d.packetSize ≤ d.frameSize
      · rw [dif_pos hsizes]
        exact gives_ok ⟨hserver, hsizes⟩ ⟨rfl, rfl, rfl, rfl, rfl, rfl, hlabel.symm⟩
      · rw [dif_neg hsizes]
        exact gives_error (fun hreach => hsizes hreach.sizes) rfl
  · simp only [hcarrier, bind, Except.bind]
    refine gives_error (fun hreach => ?_) rfl
    obtain ⟨hssh, -⟩ | ⟨hsubprocess, -⟩ := hreach.server
    · exact hnone .ssh hssh
    · exact hnone .subprocess hsubprocess

end Draft

/-! ## Loading -/

/-- What is wrong with the numbers of a command line is that they are none. -/
theorem Overrides.isInvalid_of_mem_complaints {o : Overrides} {f : Fault} (h : f ∈ o.complaints) :
    f.isInvalid = true := by
  obtain ⟨n, -, hn⟩ := List.mem_filterMap.mp h
  unfold Numeral.complaint? at hn
  cases n with
  | number n => cases hn
  | text t =>
    simp only [Numeral.value] at hn
    cases hinteger : t.toInteger? with
    | some n => simp [hinteger] at hn
    | none =>
      simp only [hinteger, Option.some.injEq] at hn
      exact hn ▸ rfl

/-- If all are integers, nothing is. -/
theorem Overrides.complaints_eq_nil_iff {o : Overrides} : o.complaints = [] ↔ o.IsNumeric := by
  unfold Overrides.complaints Overrides.IsNumeric
  rw [List.filterMap_eq_nil_iff]
  refine forall₂_congr fun n _ => ?_
  unfold Numeral.complaint? Numeral.number?
  cases n.value <;> simp

/-- The name of the file that a path stands for. -/
def configurationName (path : Text) : Text :=
  (LocalPath.ofText path).toText

/-- The options that a path stands for. -/
inductive Configuration (files : LocalFiles) : Option Text → Ini → Prop
  /-- Without a path there are none. -/
  | absent : Configuration files none ⟨[]⟩
  /-- What is there and cannot be read has none. -/
  | unreadable {path : Text} {f : Fault} (hthere : files.contains (configurationName path) = .ok true)
      (hread : files.read (configurationName path) = .error f) : Configuration files (some path) ⟨[]⟩
  /-- A file has those that it writes. -/
  | file {path : Text} {bytes : Bytes} {ini : Ini}
      (hthere : files.contains (configurationName path) = .ok true)
      (hread : files.read (configurationName path) = .ok bytes) (hparse : Ini.parse bytes = .ok ini) :
      Configuration files (some path) ini

/-- An option that can be read: its references are to options, and it is an integer if it should be one. -/
def IniOption.IsLegible (ini : Ini) (o : IniOption) : Prop :=
  ∃ value, ini.given? o.group o.key = .ok value ∧
    ∀ v ∈ value, o.isNumber = true → v.toInteger?.isSome = true

/-- All options that are read can be read. -/
def Ini.Legible (ini : Ini) : Prop :=
  ∀ o ∈ IniOption.all, o.IsLegible ini

/-- They can exactly if there is nothing to complain of. -/
theorem Ini.legible_iff {ini : Ini} (file : Text) :
    ini.Legible ↔ IniOption.all.filterMap (IniOption.complaint? ini file) = [] := by
  rw [List.filterMap_eq_nil_iff]
  refine forall₂_congr fun o _ => ?_
  unfold IniOption.IsLegible IniOption.complaint?
  rcases ini.given? o.group o.key with problem | _ | value
  · simp
  · simp
  · cases o.isNumber <;> simp [Option.isSome_iff_ne_none]

/-- What becomes of a path to a file. -/
theorem Draft.readFile_eq (d : Draft) (files : LocalFiles) (path : Text) :
    d.readFile files path =
      match files.contains (configurationName path) with
      | .error f => .error f
      | .ok false => .error (.noConfiguration path)
      | .ok true =>
        match files.read (configurationName path) with
        | .error _ => .ok d
        | .ok bytes =>
          match Ini.parse bytes with
          | .error problem => .error (.ini problem (configurationName path))
          | .ok ini => d.readIni ini (configurationName path) := by
  unfold readFile configurationName
  dsimp only
  rcases files.contains (LocalPath.ofText path).toText with f | _ | _
  · rfl
  · rfl
  · rcases files.read (LocalPath.ofText path).toText with f | bytes
    · rfl
    · dsimp only
      rcases Ini.parse bytes with problem | ini
      · rfl
      · rfl

namespace Settings

/-- With options that can be read, their values are what the command line comes over. -/
theorem load_eq {files : LocalFiles} {path : Option Text} {ini : Ini} (hini : Configuration files path ini)
    (hlegible : ini.Legible) (o : Overrides) :
    load files path o = unlessAny o.complaints (Draft.resolved ini o) >>= Draft.check := by
  have hfilled : ∀ file, ({} : Draft).readIni ini file = .ok (({} : Draft).filled ini) := fun file => by
    rw [Draft.readIni_eq, (Ini.legible_iff file).mp hlegible]
    rfl
  rw [← Draft.override_filled]
  cases hini with
  | absent => rfl
  | unreadable hthere hread =>
    unfold load
    simp only [Draft.readFile_eq, hthere, hread]
    rfl
  | file hthere hread hparse =>
    unfold load
    simp only [Draft.readFile_eq, hthere, hread, hparse, hfilled]
    rfl

/-- What is loaded, from options that can be read, is what the three layers give. -/
theorem load_gives {files : LocalFiles} {path : Option Text} {ini : Ini} (hini : Configuration files path ini)
    (hlegible : ini.Legible) (o : Overrides) :
    (Draft.resolved ini o).Gives (o.IsNumeric ∧ (Draft.resolved ini o).Reachable) (load files path o) := by
  rw [load_eq hini hlegible, ← Overrides.complaints_eq_nil_iff]
  generalize Draft.resolved ini o = d
  cases hcomplaints : o.complaints with
  | cons f fs =>
    have hf : f.isInvalid = true := Overrides.isInvalid_of_mem_complaints (hcomplaints ▸ List.mem_cons_self)
    exact Draft.gives_error (fun h => nomatch h.1) hf
  | nil =>
    have hcheck := d.check_gives
    exact ⟨hcheck.exists_iff.trans ⟨fun h => ⟨rfl, h⟩, And.right⟩, hcheck.isOf, hcheck.isInvalid⟩

/-- **Settings are loaded exactly if a server can be reached with them**, from options that can be read, and a
failure is for a value that makes no sense. What is loaded is what the three layers give; the command line of a
local server is one of text or of words. -/
theorem load_resolves {files : LocalFiles} {path : Option Text} {ini : Ini} (hini : Configuration files path ini)
    (hlegible : ini.Legible) (command : Option ServerCommand) (o : Overrides) :
    let given := { o with serverCommand := command.bind ServerCommand.words? }
    (Draft.resolved ini given).Gives (given.IsNumeric ∧ (Draft.resolved ini given).Reachable)
      (load files path given) :=
  load_gives hini hlegible _

/-- A file with some options, one of them empty. -/
def sampleBytes : Bytes :=
  "[ssh]\nhost = h\nport = 2022\nusername = u\nkey_file =\n[general]\ntransport = SSH\n".toList.map fun c =>
    c.toNat.toUInt8

/-- A directory with that file. -/
def sampleFiles : LocalFiles where
  nodes := [(["sftp.ini"], .file sampleBytes)]

/-- Its options. -/
def sampleIni : Ini where
  sections := [("ssh", [("host", "h"), ("port", "2022"), ("username", "u"), ("key_file", "")]),
    ("general", [("transport", "SSH")])]

/-- A command line over it, which clears the user and says how much goes into a request. -/
def sampleOverrides : Overrides where
  username := some Text.empty
  packetSize := some (.text "1024")
  debug := true

/-- The file has these options. -/
theorem configuration_sampleFiles : Configuration sampleFiles (some "sftp.ini") sampleIni :=
  have hread : sampleFiles.read (configurationName "sftp.ini") = .ok sampleBytes := by decide +kernel
  .file (by decide +kernel) hread (by decide +kernel)

/-- They can be read. -/
theorem legible_sampleIni : sampleIni.Legible :=
  (Ini.legible_iff Text.empty).mpr (by decide +kernel)

/-- The empty command line of a local server counts as not given, and settings are loaded. -/
theorem load_resolves_sampleFiles :
    Configuration sampleFiles (some "sftp.ini") sampleIni ∧ sampleIni.Legible ∧
      (∃ settings, load sampleFiles (some "sftp.ini") sampleOverrides = .ok settings) ∧
      (Draft.resolved sampleIni sampleOverrides).Gives
        (sampleOverrides.IsNumeric ∧ (Draft.resolved sampleIni sampleOverrides).Reachable)
        (load sampleFiles (some "sftp.ini") sampleOverrides) := by
  have hgives : (Draft.resolved sampleIni sampleOverrides).Gives
      (sampleOverrides.IsNumeric ∧ (Draft.resolved sampleIni sampleOverrides).Reachable)
      (load sampleFiles (some "sftp.ini") sampleOverrides) :=
    load_resolves configuration_sampleFiles legible_sampleIni (some (.text Text.empty)) sampleOverrides
  have hnumeric : sampleOverrides.IsNumeric := Overrides.complaints_eq_nil_iff.mp (by decide +kernel)
  exact ⟨configuration_sampleFiles, legible_sampleIni,
    hgives.exists_iff.mpr ⟨hnumeric, .inl (by decide +kernel), by decide +kernel⟩, hgives⟩

end Settings

end Sftp
