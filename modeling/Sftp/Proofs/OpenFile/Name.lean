import Mathlib.Data.List.TakeWhile
import Sftp.Proofs.Client.Proper
import Sftp.Proofs.OpenHandle.Methods
import Sftp.Proofs.Walk.Preorder

/-!
# The name in the statistics of a file

Asked by a path, the statistics of a file have the last name of the path. Asked by the handle of the open file,
they have what stands after the last slash, and that is nothing if the path ends with one. In all else the
answers agree.

* `Text.LastName` — the last name of a path; `Text.lastName_leafName` — it is the one that is given for a path;
  `Text.basename_eq_empty_iff`, **`Text.leafName_eq_basename_iff`** — when it is what stands after the last slash.
* `Client.Answers` — a request that is answered; `OpenFile.usedBy` — an open file after calls of its methods.
* **`OpenFile.stats_agree_iff`** — the statistics of a path and of the file that was opened there.
* `OpenFile.stats_slashedPath` — a path at which they do not agree.
-/

namespace Sftp

/-! ## The last name of a path -/

namespace Text

/-- The last name of a path, slashes at its end left out. A path of slashes alone has no name, and goes by
itself. -/
inductive LastName : Text → Text → Prop
  /-- A name stands at the beginning or after a slash, and nothing but slashes follow it. -/
  | named {above name slashes : Text} (hname : name.IsName)
      (habove : above = empty ∨ above.endsWith '/' = true)
      (hslashes : ∀ g ∈ slashes.glyphs, isSlash g = true) : LastName (above ++ name ++ slashes) name
  /-- There are only slashes. -/
  | nameless {slashes : Text} (hslashes : ∀ g ∈ slashes.glyphs, isSlash g = true) : LastName slashes slashes

/-- A text without glyphs is empty. -/
theorem isEmpty_iff {t : Text} : t.isEmpty = true ↔ t = empty := by
  unfold isEmpty
  rw [List.isEmpty_iff]
  exact ⟨fun h => ext h, congrArg glyphs⟩

/-- Of two texts the first counts, unless it is empty. -/
theorem orElse_of_ne_empty {t : Text} (h : t ≠ empty) (other : Text) : t.orElse other = t :=
  if_neg fun hempty => h (isEmpty_iff.mp hempty)

/-- A text ends with a slash exactly if its last glyph is one. -/
theorem endsWith_slash_iff {t : Text} :
    t.endsWith '/' = true ↔ ∃ g rest, t.glyphs.reverse = g :: rest ∧ isSlash g = true := by
  unfold endsWith
  rw [List.getLast?_eq_head?_reverse]
  cases t.glyphs.reverse with
  | nil => exact ⟨nofun, nofun⟩
  | cons g rest =>
    refine ⟨fun h => ⟨g, rest, rfl, h⟩, ?_⟩
    rintro ⟨_, _, ⟨⟩, h⟩
    exact h

/-- What is left out at the end of a text passes the test. -/
theorem append_dropEndWhile (t : Text) (p : Glyph → Bool) :
    ∃ tail : Text, t = t.dropEndWhile p ++ tail ∧ ∀ g ∈ tail.glyphs, p g = true := by
  refine ⟨⟨(t.glyphs.reverse.takeWhile p).reverse⟩, ?_, fun g hg => ?_⟩
  · apply ext
    rw [glyphs_append]
    unfold dropEndWhile
    rw [← List.reverse_append, List.takeWhile_append_dropWhile, List.reverse_reverse]
  · exact List.mem_takeWhile_imp (List.mem_reverse.mp hg)

/-- What is left does not end with a glyph that passes it. -/
theorem endsWith_dropEndWhile (t : Text) : (t.dropEndWhile isSlash).endsWith '/' = false := by
  rw [← Bool.not_eq_true, endsWith_slash_iff]
  rintro ⟨g, rest, hreverse, hslash⟩
  unfold dropEndWhile at hreverse
  rw [List.reverse_reverse] at hreverse
  have hhead := List.head_dropWhile_not isSlash (hreverse ▸ List.cons_ne_nil g rest)
  simp only [hreverse, List.head_cons] at hhead
  rw [hslash] at hhead
  cases hhead

/-- A path is what stands before its last name, up to a slash, and the name. -/
theorem append_basename (path : Text) :
    ∃ above : Text, path = above ++ path.basename ∧ (above = empty ∨ above.endsWith '/' = true) ∧
      ∀ g ∈ path.basename.glyphs, isSlash g = false := by
  refine ⟨⟨(path.glyphs.reverse.dropWhile fun g => !isSlash g).reverse⟩, ?_, ?_, fun g hg => ?_⟩
  · apply ext
    rw [glyphs_append]
    unfold basename
    rw [← List.reverse_append, List.takeWhile_append_dropWhile, List.reverse_reverse]
  · rw [endsWith_slash_iff, List.reverse_reverse]
    cases hrest : path.glyphs.reverse.dropWhile fun g => !isSlash g with
    | nil => exact .inl rfl
    | cons g rest =>
      have hhead := List.head_dropWhile_not (fun g => !isSlash g) (hrest ▸ List.cons_ne_nil g rest)
      simp only [hrest, List.head_cons, Bool.not_eq_false'] at hhead
      exact .inr ⟨g, rest, rfl, hhead⟩
  · have htest := List.mem_takeWhile_imp (List.mem_reverse.mp hg)
    rwa [Bool.not_eq_true'] at htest

/-- Nothing stands after the last slash exactly if the path ends with one, or there is no path. -/
theorem basename_eq_empty_iff {path : Text} :
    path.basename = empty ↔ path = empty ∨ path.endsWith '/' = true := by
  rw [endsWith_slash_iff]
  unfold basename
  cases hreverse : path.glyphs.reverse with
  | nil =>
    have hnone : path = empty := ext (List.reverse_eq_nil_iff.mp hreverse)
    exact ⟨fun _ => .inl hnone, fun _ => rfl⟩
  | cons g rest =>
    have hsome : path ≠ empty := by
      rintro rfl
      cases hreverse
    rw [List.takeWhile_cons]
    cases hslash : isSlash g with
    | true => exact ⟨fun _ => .inr ⟨g, rest, rfl, hslash⟩, fun _ => rfl⟩
    | false =>
      refine ⟨fun h => ?_, ?_⟩
      · have hglyphs := congrArg glyphs h
        simp at hglyphs
      · rintro (h | ⟨_, _, ⟨⟩, h⟩)
        · exact absurd h hsome
        · rw [hslash] at h
          cases h

/-- **The name that is given for a path is its last name.** -/
theorem lastName_leafName (path : Text) : path.LastName path.leafName := by
  obtain ⟨slashes, hpath, hslashes⟩ := append_dropEndWhile path isSlash
  unfold leafName
  by_cases hnone : (path.dropEndWhile isSlash).basename = empty
  · have hstem : path.dropEndWhile isSlash = empty := by
      rcases basename_eq_empty_iff.mp hnone with h | h
      · exact h
      · rw [endsWith_dropEndWhile] at h
        cases h
    rw [hnone, show empty.orElse path = path from rfl]
    rw [hstem] at hpath
    rw [hpath]
    exact .nameless hslashes
  · obtain ⟨above, hstem, habove, hname⟩ := append_basename (path.dropEndWhile isSlash)
    rw [orElse_of_ne_empty hnone]
    have hnamed := LastName.named ⟨hnone, hname⟩ habove hslashes
    rwa [← hstem, ← hpath] at hnamed

/-- The last name of a path is never empty, unless the path is. -/
theorem LastName.ne_empty {path name : Text} (h : path.LastName name) (hpath : path ≠ empty) :
    name ≠ empty := by
  cases h with
  | named hname => exact hname.ne_empty
  | nameless => exact hpath

/-- A path that does not end with a slash loses none. -/
theorem dropEndWhile_of_not_endsWith {path : Text} (h : path.endsWith '/' = false) :
    path.dropEndWhile isSlash = path := by
  rw [← Bool.not_eq_true, endsWith_slash_iff] at h
  apply ext
  unfold dropEndWhile
  cases hreverse : path.glyphs.reverse with
  | nil => exact (List.reverse_eq_nil_iff.mp hreverse).symm
  | cons g rest =>
    rw [List.dropWhile_cons_of_neg fun hslash => h ⟨g, rest, hreverse, hslash⟩, ← hreverse,
      List.reverse_reverse]

/-- **The last name is what stands after the last slash exactly if the path does not end with one.** -/
theorem leafName_eq_basename_iff {path : Text} :
    path.leafName = path.basename ↔ path.endsWith '/' = false := by
  cases hends : path.endsWith '/' with
  | true =>
    have hpath : path ≠ empty := by
      rintro rfl
      cases hends
    rw [basename_eq_empty_iff.mpr (.inr hends)]
    exact ⟨fun h => absurd h ((lastName_leafName path).ne_empty hpath), nofun⟩
  | false =>
    refine ⟨fun _ => rfl, fun _ => ?_⟩
    unfold leafName
    rw [dropEndWhile_of_not_endsWith hends]
    by_cases hnone : path.basename = empty
    · rcases basename_eq_empty_iff.mp hnone with rfl | h
      · rfl
      · rw [hends] at h
        cases h
    · exact orElse_of_ne_empty hnone path

end Text

/-! ## Answers -/

variable {σ : Type}

/-- A request of a client is answered with a message. -/
def Client.Answers (c : Client σ) (request reply : Message) (c' : Client σ) : Prop :=
  ∃ id, (Client.request request).run c = (.ok (.message id reply), c')

/-- Asking for attributes gives those of the answer. -/
theorem Client.Answers.run_ask_attributes {c c' : Client σ} {m : Message} {a : Attributes}
    (h : c.Answers m (.attrs a) c') : (Client.ask m Reply.attributes).run c = (.ok a, c') := by
  obtain ⟨id, hrun⟩ := h
  rw [Client.run_ask, hrun]
  rfl

/-- Asking for the statistics of a path gives them under its last name, whether links are followed or not. -/
theorem Client.Answers.run_stat {c c' : Client σ} {path : Text} {a : Attributes}
    (h : c.Answers (.stat path) (.attrs a) c') :
    (Client.stat path).run c = (.ok (.ofAttributes path.leafName a), c') := by
  unfold Client.stat
  rw [Step.run_bind, h.run_ask_attributes]
  rfl

/-- So does asking without following links. -/
theorem Client.Answers.run_lstat {c c' : Client σ} {path : Text} {a : Attributes}
    (h : c.Answers (.lstat path) (.attrs a) c') :
    (Client.lstat path).run c = (.ok (.ofAttributes path.leafName a), c') := by
  unfold Client.lstat
  rw [Step.run_bind, h.run_ask_attributes]
  rfl

namespace OpenFile

open Held

/-- A file is opened at its path. -/
theorem base_of_openFile {c c' : Client σ} {path : Text} {flags : OpenFlags} {attrs : Attributes}
    {file : OpenFile} (hopened : (Client.openFile path flags attrs).run c = (.ok file, c')) :
    file.base.path = path ∧ file.base.closed = false := by
  unfold Client.openFile at hopened
  rw [Step.run_bind] at hopened
  rcases hrun : (Client.ask (.openFile path flags attrs) Reply.handle).run c with ⟨f | handle, after⟩
  · rw [hrun] at hopened
    cases hopened
  · rw [hrun] at hopened
    cases hopened
    exact ⟨rfl, rfl⟩

/-- An open file after calls of its methods, each with the client that it finds. -/
def usedBy (file : OpenFile) (calls : List (Client σ × Method)) : OpenFile :=
  calls.foldl (fun file call => ((call.2.perform).run { object := file, client := call.1 }).2.object) file

/-- It has the same handle, path and flag. -/
theorem base_usedBy (file : OpenFile) (calls : List (Client σ × Method)) :
    (file.usedBy calls).base = file.base := by
  unfold usedBy
  induction calls generalizing file with
  | nil => rfl
  | cons call calls ih =>
    rw [List.foldl_cons, ih]
    exact (guarded.spares call.2 { object := file, client := call.1 }).1

/-- Asking for the statistics of an open file gives them under what stands after the last slash of its
path. -/
theorem run_stat {h : Held OpenFile σ} {c' : Client σ} {a : Attributes}
    (hopen : h.object.base.closed = false)
    (hanswer : h.client.Answers (.fstat h.object.base.handle) (.attrs a) c') :
    stat.run h = (.ok (.ofAttributes h.object.base.path.basename a), { h with client := c' }) := by
  unfold stat
  rw [Step.run_bind, run_ensureOpen hopen]
  dsimp only
  rw [Step.run_bind, run_current]
  dsimp only
  rw [Step.run_bind, run_onClient, Client.handleAttributes, hanswer.run_ask_attributes]
  rfl

/-- **The statistics of a path and of the file that was opened there**, whenever it is asked for them and
whatever its methods were used for in between: if all three requests are answered with the same attributes,
they agree exactly if the path does not end with a slash, and otherwise in everything but the name. The
statistics of the path have its last name, those of the file what stands after its last slash. -/
theorem stats_agree_iff {path : Text} {flags : OpenFlags} {attrs a : Attributes}
    {c c' c₁ c₁' c₂ c₂' c₃ c₃' : Client σ} {file : OpenFile}
    (hopened : (Client.openFile path flags attrs).run c = (.ok file, c')) (calls : List (Client σ × Method))
    (hstat : c₁.Answers (.stat path) (.attrs a) c₁') (hlstat : c₂.Answers (.lstat path) (.attrs a) c₂')
    (hfstat : c₃.Answers (.fstat file.base.handle) (.attrs a) c₃') :
    ∃ ofPath ofFile : FileStats,
      (Client.stat path).run c₁ = (.ok ofPath, c₁') ∧ (Client.lstat path).run c₂ = (.ok ofPath, c₂') ∧
      stat.run { object := file.usedBy calls, client := c₃ } =
        (.ok ofFile, { object := file.usedBy calls, client := c₃' }) ∧
      path.LastName ofPath.name ∧ ofFile = { ofPath with name := path.basename } ∧
      (ofFile = ofPath ↔ path.endsWith '/' = false) := by
  obtain ⟨hpath, hopen⟩ := base_of_openFile hopened
  have hbase := file.base_usedBy calls
  have hofFile := run_stat (h := { object := file.usedBy calls, client := c₃ }) (by rw [hbase, hopen])
    (by rw [hbase]; exact hfstat)
  rw [hbase, hpath] at hofFile
  refine ⟨_, _, hstat.run_stat, hlstat.run_lstat, hofFile, path.lastName_leafName, rfl, ?_⟩
  rw [← Text.leafName_eq_basename_iff]
  exact ⟨fun h => (congrArg FileStats.name h).symm, fun h => congrArg (FileStats.ofAttributes · a) h.symm⟩

/-! ## A file of which everything is asked -/

/-- Attributes of a small file. -/
def smallFile : Attributes := { size := some 5, permissions := some 0o100644 }

/-- A client whose server lends a handle, gives these attributes three times, and takes the handle back. -/
def inquiring : Client (List (Int → Packet)) :=
  (Client.connect.run (Client.inTurn 1
    [fun id => .message id (.handle [104]), fun id => .message id (.attrs smallFile),
      fun id => .message id (.attrs smallFile), fun id => .message id (.attrs smallFile),
      fun id => .message id (.status StatusCode.ok.number "" "")])).2

/-- At a path that does not end with a slash, all agree. -/
theorem stats_agree_iff_plainPath :
    ∃ file c₁ c₂ c₃ c₄, (Client.openFile "/d/f" .read).run inquiring = (.ok file, c₁) ∧
      c₁.Answers (.stat "/d/f") (.attrs smallFile) c₂ ∧ c₂.Answers (.lstat "/d/f") (.attrs smallFile) c₃ ∧
      c₃.Answers (.fstat file.base.handle) (.attrs smallFile) c₄ ∧
      ∃ stats, (Client.stat "/d/f").run c₁ = (.ok stats, c₂) ∧ (Client.lstat "/d/f").run c₂ = (.ok stats, c₃) ∧
        stat.run { object := file.usedBy [(c₁, .tell)], client := c₃ } =
          (.ok stats, { object := file.usedBy [(c₁, .tell)], client := c₄ }) := by
  have hhandle : ((Client.openFile "/d/f" .read).run inquiring).1.map (·.base.handle) = .ok [104] := by
    decide +kernel
  have hstat : ((Client.request (.stat "/d/f")).run ((Client.openFile "/d/f" .read).run inquiring).2).1 =
      .ok (.message 1 (.attrs smallFile)) := by decide +kernel
  have hlstat : ((Client.request (.lstat "/d/f")).run ((Client.request (.stat "/d/f")).run
      ((Client.openFile "/d/f" .read).run inquiring).2).2).1 = .ok (.message 2 (.attrs smallFile)) := by
    decide +kernel
  have hfstat : ((Client.request (.fstat [104])).run ((Client.request (.lstat "/d/f")).run
      ((Client.request (.stat "/d/f")).run ((Client.openFile "/d/f" .read).run inquiring).2).2).2).1 =
      .ok (.message 3 (.attrs smallFile)) := by decide +kernel
  rcases hopened : (Client.openFile "/d/f" .read).run inquiring with ⟨f | file, c₁⟩
  · rw [hopened] at hhandle
    cases hhandle
  · rw [hopened] at hhandle hstat hlstat hfstat
    have hstat : c₁.Answers (.stat "/d/f") (.attrs smallFile) _ := ⟨1, Prod.ext hstat rfl⟩
    have hlstat : Client.Answers _ (.lstat "/d/f") (.attrs smallFile) _ := ⟨2, Prod.ext hlstat rfl⟩
    have hfstat : Client.Answers _ (.fstat [104]) (.attrs smallFile) _ := ⟨3, Prod.ext hfstat rfl⟩
    rw [← Except.ok.inj hhandle] at hfstat
    obtain ⟨ofPath, ofFile, hofPath, hofLink, hofFile, -, -, hagree⟩ :=
      stats_agree_iff hopened [(c₁, .tell)] hstat hlstat hfstat
    rw [hagree.mpr (by decide)] at hofFile
    exact ⟨file, c₁, _, _, _, rfl, hstat, hlstat, hfstat, ofPath, hofPath, hofLink, hofFile⟩

/-- The statistics of a path, without links followed, and of the file that is opened there. -/
def threefold (path : Text) : Step (Client (List (Int → Packet))) (FileStats × FileStats × FileStats) := do
  let file ← Client.openFile path .read
  let ofPath ← Client.stat path
  let ofLink ← Client.lstat path
  let ofFile ← during file stat
  return (ofPath, ofLink, ofFile)

/-- **At a path that ends with a slash, the statistics of the file have no name.** -/
theorem stats_slashedPath :
    ((threefold "/d/").run inquiring).1 =
        .ok (.ofAttributes "d" smallFile, .ofAttributes "d" smallFile, .ofAttributes "" smallFile) ∧
      FileStats.ofAttributes "d" smallFile ≠ .ofAttributes "" smallFile := by
  decide +kernel

end OpenFile

end Sftp
