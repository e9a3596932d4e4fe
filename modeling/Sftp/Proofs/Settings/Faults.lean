import Sftp.Proofs.Settings.Layers

/-!
# Which failures of loading settings are foreseen

Loading settings fails in two ways that a caller can foresee: there is no file at the path, or some value makes
no sense. A file that is no configuration, in its lines or in what its values refer to, is neither, and its
failure is one of a third sort, which a run does not explain. A path with a name too long to ask for is neither
as well; that is a failure of the system.

* `Settings.Foreseen` — what becomes of loading settings, in one of these ways.
* `Settings.Unforeseen` — the failures that are neither, and when they come.
* **`Settings.load_foreseen_iff`** — there are no others.
* **`Settings.load_headlessFile`** — a file whose first option is in no section.
-/

namespace Sftp

/-! ## Values -/

/-- Whether a value is refused for what it refers to. -/
def IniProblem.isReference : IniProblem → Bool
  | unknownReference .. | openReference _ | strayPercent _ | endlessReference .. => true
  | notText _ | noSection .. | repeatedSection .. | repeatedOption .. | strayLines .. => false

/-- If a fold fails, it does so in one of its steps. -/
theorem exists_of_foldlM_error {α β ε : Type} {step : β → α → Except ε β} {l : List α} {b : β} {e : ε}
    (h : l.foldlM step b = .error e) : ∃ a ∈ l, ∃ b', step b' a = .error e := by
  induction l generalizing b with
  | nil => cases h
  | cons a l ih =>
    rw [List.foldlM_cons] at h
    cases hstep : step b a with
    | error e' =>
      rw [hstep] at h
      exact ⟨a, List.mem_cons_self, b, hstep.trans h⟩
    | ok b' =>
      rw [hstep] at h
      obtain ⟨a', ha', hfails⟩ := ih h
      exact ⟨a', List.mem_cons_of_mem _ ha', hfails⟩

namespace Ini

/-- What can be no part of a value is a bad reference. -/
theorem isReference_of_mem_pieces {problem : IniProblem} {rounds : Nat} {glyphs : List Glyph}
    (h : Piece.wrong problem ∈ pieces rounds glyphs) : problem.isReference = true := by
  fun_induction pieces rounds glyphs with
  | case1 | case2 => cases h
  -- a percent sign for itself, a reference, and any other glyph: the rest has the piece
  | case3 _ _ ih | case4 _ _ _ _ _ ih | case7 _ _ _ _ ih =>
    rcases List.mem_cons.mp h with h | h
    · cases h
    · exact ih h
  | case5 | case6 =>
    cases List.mem_singleton.mp h
    rfl

/-- A value is refused only for what it refers to. -/
theorem isReference_of_expand {ini : Ini} {group option : Text} {problem : IniProblem} {depth : Nat}
    {parts : List Piece} (hparts : ∀ p, .wrong p ∈ parts → p.isReference = true)
    (h : ini.expand group option depth parts = .error problem) : problem.isReference = true := by
  induction depth generalizing parts with
  | zero =>
    obtain rfl := Except.error.inj h
    rfl
  | succ depth ih =>
    obtain ⟨part, hpart, text, hstep⟩ := exists_of_foldlM_error h
    cases part with
    | literal t => cases hstep
    | wrong p =>
      obtain rfl := Except.error.inj hstep
      exact hparts _ hpart
    | reference name =>
      dsimp only at hstep
      cases hraw : ini.raw? group name with
      | none =>
        simp only [hraw, Except.error.injEq] at hstep
        exact hstep ▸ rfl
      | some value =>
        simp only [hraw] at hstep
        split at hstep
        · cases hinner : ini.expand group option depth (piecesOf value) with
          | error p =>
            rw [hinner] at hstep
            obtain rfl := Except.error.inj hstep
            exact ih (fun _ => isReference_of_mem_pieces) hinner
          | ok inner =>
            rw [hinner] at hstep
            cases hstep
        · cases hstep

/-- So is an option when it is asked for. -/
theorem isReference_of_get? {ini : Ini} {group key : Text} {problem : IniProblem}
    (h : ini.get? group key = .error problem) : problem.isReference = true := by
  unfold get? at h
  split at h
  · cases h
  · next value _ =>
    cases hexpand : ini.expand group key IniProblem.maxDepth (piecesOf value) with
    | error p =>
      rw [hexpand] at h
      obtain rfl := Except.error.inj h
      exact isReference_of_expand (fun _ => isReference_of_mem_pieces) hexpand
    | ok text =>
      rw [hexpand] at h
      cases h

end Ini

open Ini IniOption

/-- What is complained of is a bad reference, or a value that makes no sense. -/
theorem IniOption.complaint?_eq_some {ini : Ini} {file : Text} {o : IniOption} {f : Fault}
    (h : o.complaint? ini file = some f) :
    f.isInvalid = true ∨ ∃ problem : IniProblem, problem.isReference = true ∧ f = .ini problem file := by
  unfold complaint? at h
  split at h
  · next problem hgiven =>
    obtain rfl := Option.some.inj h
    refine .inr ⟨problem, ?_, rfl⟩
    unfold given? at hgiven
    split at hgiven
    · cases hget : ini.get? o.group o.key with
      | error p =>
        rw [hget] at hgiven
        obtain rfl := Except.error.inj hgiven
        exact isReference_of_get? hget
      | ok value =>
        rw [hget] at hgiven
        cases hgiven
    · cases hgiven
  · cases h
  · split at h
    · obtain rfl := Option.some.inj h
      exact .inl rfl
    · cases h

/-! ## Loading -/

namespace Settings

/-- There is no file at the path. -/
def IsMissing (files : LocalFiles) (path : Text) : Prop :=
  files.contains (configurationName path) = .ok false

/-- What becomes of loading settings, as it is foreseen: without a file they are not loaded, and if there is one,
or no path, the only failure is that some value makes no sense. -/
structure Foreseen (files : LocalFiles) (path : Option Text) (r : Except Fault Settings) : Prop where
  /-- Without a file, that is told. -/
  missing : ∀ p, path = some p → IsMissing files p → r = .error (.noConfiguration p)
  /-- Else the failure is for a value. -/
  there : (∀ p, path = some p → ¬ IsMissing files p) → ∀ f, r = .error f → f.isInvalid = true

/-- The failures that are not foreseen, and when they come. -/
inductive Unforeseen (files : LocalFiles) : Option Text → Fault → Prop
  /-- The path cannot be asked for. -/
  | path {path : Text} {f : Fault} (h : files.contains (configurationName path) = .error f) :
      Unforeseen files (some path) f
  /-- The file is text, but has a line that is none of a configuration. -/
  | line {path : Text} {bytes : Bytes} {problem : IniProblem}
      (hthere : files.contains (configurationName path) = .ok true)
      (hread : files.read (configurationName path) = .ok bytes) (hparse : Ini.parse bytes = .error problem)
      (hproblem : ∀ defect, problem ≠ .notText defect) :
      Unforeseen files (some path) (.ini problem (configurationName path))
  /-- What is complained of first is a bad reference. -/
  | reference {path : Text} {bytes : Bytes} {ini : Ini} {problem : IniProblem}
      (hthere : files.contains (configurationName path) = .ok true)
      (hread : files.read (configurationName path) = .ok bytes) (hparse : Ini.parse bytes = .ok ini)
      (hproblem : problem.isReference = true)
      (hfirst : (all.filterMap (complaint? ini (configurationName path))).head? =
        some (.ini problem (configurationName path))) :
      Unforeseen files (some path) (.ini problem (configurationName path))

variable {files : LocalFiles} {path : Option Text} {f : Fault}

section

variable {p : Text} {bytes : Bytes} (hthere : files.contains (configurationName p) = .ok true)
  (hread : files.read (configurationName p) = .ok bytes)

include hthere hread

/-- What is wrong with a file ends the loading. -/
theorem load_of_problem {problem : IniProblem} (hparse : Ini.parse bytes = .error problem) (o : Overrides) :
    load files (some p) o = .error (.ini problem (configurationName p)) := by
  unfold load
  simp only [Draft.readFile_eq, hthere, hread, hparse]
  rfl

/-- So does what is complained of first. -/
theorem load_of_complaint {ini : Ini} (hparse : Ini.parse bytes = .ok ini)
    (hfirst : (all.filterMap (complaint? ini (configurationName p))).head? = some f) (o : Overrides) :
    load files (some p) o = .error f := by
  obtain ⟨fs, hcomplaints⟩ := List.head?_eq_some_iff.mp hfirst
  unfold load
  simp only [Draft.readFile_eq, hthere, hread, hparse, Draft.readIni_eq, hcomplaints]
  rfl

end

/-- A failure that is not foreseen ends the loading, whatever the command line gives. -/
theorem Unforeseen.load_eq (h : Unforeseen files path f) (o : Overrides) : load files path o = .error f := by
  cases h with
  | path h =>
    unfold load
    simp only [Draft.readFile_eq, h]
    rfl
  | line hthere hread hparse _ => exact load_of_problem hthere hread hparse o
  | reference hthere hread hparse _ hfirst => exact load_of_complaint hthere hread hparse hfirst o

/-- A problem of a configuration that is text makes no value senseless. -/
theorem isInvalid_ini {problem : IniProblem} (h : ∀ defect, problem ≠ .notText defect) (file : Text) :
    (Fault.ini problem file).isInvalid = false := by
  cases problem with
  | notText defect => exact absurd rfl (h defect)
  | _ => rfl

/-- A path that cannot be asked for has a name that is too long. -/
theorem contains_eq_error {path : Text} (h : files.contains path = .error f) :
    ∃ p, f = .localFile .nameTooLong p := by
  unfold LocalFiles.contains at h
  split at h
  · cases h
  · exact ⟨_, (Except.error.inj h).symm⟩
  · cases h

/-- Such a failure is for no value that makes no sense. -/
theorem Unforeseen.isInvalid_eq (h : Unforeseen files path f) : f.isInvalid = false := by
  cases h with
  | path h =>
    obtain ⟨_, rfl⟩ := contains_eq_error h
    rfl
  | line _ _ _ hproblem => exact isInvalid_ini hproblem _
  | reference _ _ _ hproblem _ =>
    refine isInvalid_ini (fun defect heq => ?_) _
    subst heq
    cases hproblem

/-- Nor is the file missing. -/
theorem Unforeseen.not_isMissing (h : Unforeseen files path f) (p : Text) (hp : path = some p) :
    ¬ IsMissing files p := by
  subst hp
  unfold IsMissing
  cases h with
  | path h => exact h ▸ nofun
  | line hthere _ _ _ => exact hthere ▸ nofun
  | reference hthere _ _ _ _ => exact hthere ▸ nofun

/-- So it is not foreseen. -/
theorem Unforeseen.not_foreseen (h : Unforeseen files path f) : ¬ Foreseen files path (.error f) := by
  intro hforeseen
  have hinvalid := hforeseen.there h.not_isMissing f rfl
  rw [h.isInvalid_eq] at hinvalid
  cases hinvalid

/-- Where there are no options, all can be read. -/
theorem legible_nil : Ini.Legible ⟨[]⟩ :=
  (legible_iff Text.empty).mpr rfl

/-- With options that can be read, loading settings fails as it is foreseen. -/
theorem foreseen_of_legible {ini : Ini} (hini : Configuration files path ini) (hlegible : ini.Legible)
    (o : Overrides) : Foreseen files path (load files path o) where
  missing p hp hmissing := by
    subst hp
    unfold IsMissing at hmissing
    cases hini with
    | unreadable hthere _ | file hthere _ _ =>
      rw [hthere] at hmissing
      cases hmissing
  there _ := (load_gives hini hlegible o).isInvalid

/-- If the file is there, an error is foreseen exactly if some value makes no sense. -/
theorem foreseen_of_isInvalid {p : Text} (hthere : files.contains (configurationName p) = .ok true)
    (hf : f.isInvalid = true) : Foreseen files (some p) (.error f) where
  missing q hq hmissing := by
    cases hq
    rw [IsMissing, hthere] at hmissing
    cases hmissing
  there _ _ hg := Except.error.inj hg ▸ hf

/-- A failure that is not foreseen is one of these. -/
theorem foreseen_or_unforeseen (files : LocalFiles) (path : Option Text) (o : Overrides) :
    Foreseen files path (load files path o) ∨ ∃ f, Unforeseen files path f := by
  cases path with
  | none => exact .inl (foreseen_of_legible .absent legible_nil o)
  | some p =>
    rcases hcontains : files.contains (configurationName p) with f | _ | _
    · exact .inr ⟨f, .path hcontains⟩
    · have hload : load files (some p) o = .error (.noConfiguration p) := by
        unfold load
        simp only [Draft.readFile_eq, hcontains]
        rfl
      refine .inl ⟨fun q hq _ => by cases hq; exact hload, fun hthere => absurd hcontains (hthere p rfl)⟩
    · cases hread : files.read (configurationName p) with
      | error f => exact .inl (foreseen_of_legible (.unreadable hcontains hread) legible_nil o)
      | ok bytes =>
        cases hparse : Ini.parse bytes with
        | error problem =>
          have hload := load_of_problem hcontains hread hparse o
          by_cases hproblem : ∀ defect, problem ≠ .notText defect
          · exact .inr ⟨_, .line hcontains hread hparse hproblem⟩
          · obtain ⟨defect, rfl⟩ := not_forall_not.mp hproblem
            exact .inl (hload ▸ foreseen_of_isInvalid hcontains rfl)
        | ok ini =>
          cases hcomplaints : all.filterMap (complaint? ini (configurationName p)) with
          | nil =>
            have hlegible := (legible_iff _).mpr hcomplaints
            exact .inl (foreseen_of_legible (.file hcontains hread hparse) hlegible o)
          | cons f fs =>
            have hfirst := congrArg List.head? hcomplaints
            have hload := load_of_complaint hcontains hread hparse hfirst o
            obtain ⟨option, -, hoption⟩ := List.mem_filterMap.mp (hcomplaints ▸ List.mem_cons_self : f ∈ _)
            obtain hf | ⟨problem, hproblem, rfl⟩ := complaint?_eq_some hoption
            · exact .inl (hload ▸ foreseen_of_isInvalid hcontains hf)
            · exact .inr ⟨_, .reference hcontains hread hparse hproblem hfirst⟩

/-- **Loading settings fails as it is foreseen unless it fails as it is not.** That there are no other failures is
for files as `LocalFiles` knows them, where no path is too long as a whole and every directory may be searched. -/
theorem load_foreseen_iff (files : LocalFiles) (path : Option Text) (o : Overrides) :
    (Foreseen files path (load files path o) ↔ ∀ f, ¬ Unforeseen files path f) ∧
      ∀ f, Unforeseen files path f → load files path o = .error f := by
  refine ⟨⟨fun hforeseen f hf => hf.not_foreseen (hf.load_eq o ▸ hforeseen), fun hnone => ?_⟩,
    fun f hf => hf.load_eq o⟩
  exact (foreseen_or_unforeseen files path o).resolve_right fun ⟨f, hf⟩ => hnone f hf

/-- A file whose only option is in no section. -/
def headlessFile : LocalFiles where
  nodes := [(["sftp.ini"], .file ("host = h\n".toList.map fun c => c.toNat.toUInt8))]

/-- The file is there, and its failure is neither for that nor for a value that makes no sense. -/
theorem load_headlessFile :
    headlessFile.contains (configurationName "sftp.ini") = .ok true ∧
      load headlessFile (some "sftp.ini") {} = .error (.ini (.noSection 1 "host = h\n") "sftp.ini") ∧
      Fault.category (.ini (.noSection 1 "host = h\n") "sftp.ini") ∉ [Category.notFound, .invalid] := by
  decide +kernel

end Settings

end Sftp
