import Sftp.LocalFiles

/-!
# Changes to local files

A path that leads to a file, or to the place of a file that is not there yet, leads there still when the
file has other bytes: the names on the way are those of directories. So what is written under a path is
read under it.

* `LocalFiles.fault_read`, `LocalFiles.fault_writable`, `LocalFiles.fault_ensureDirectories` — a file that
  cannot be read or written, or a directory that cannot be made, is a fault of the system, or a value that
  makes no sense: a path with a null character.
* `LocalFiles.at?_put`, `LocalFiles.follow_put` — what is at a place after a change, and where paths lead.
* **`LocalFiles.writable_put`**, **`LocalFiles.read_put`** — the bytes that a path has after they were put
  there.
-/

namespace Sftp

/-! ## Null characters -/

/-- Whether a null character is in a text. -/
def Text.HasNull (t : Text) : Prop :=
  t.glyphs.any (·.is '\x00') = true

/-- Whether one is in a path. -/
def LocalPath.HasNull (p : LocalPath) : Prop :=
  p.root.HasNull ∨ ∃ n ∈ p.names, n.HasNull

/-- More names do not take it away. -/
theorem LocalPath.HasNull.mono {root : Text} {names others : List Text}
    (h : (LocalPath.mk root names).HasNull) (hsub : ∀ n ∈ names, n ∈ others) :
    (LocalPath.mk root others).HasNull :=
  h.imp_right fun ⟨n, hn, hnull⟩ => ⟨n, hsub n hn, hnull⟩

/-- A null character in texts that are joined is in one of them. -/
theorem Text.hasNull_of_join {texts : List Text} (h : (Text.join "/" texts).HasNull) :
    ∃ t ∈ texts, t.HasNull := by
  fun_induction Text.join "/" texts with
  | case1 => cases h
  | case2 t => exact ⟨t, List.mem_singleton_self t, h⟩
  | case3 t rest hrest ih =>
    unfold Text.HasNull at h
    rw [Text.glyphs_append, Text.glyphs_append, List.any_append, List.any_append, Bool.or_eq_true,
      Bool.or_eq_true] at h
    rcases h with (h | h) | h
    · exact ⟨t, List.mem_cons_self, h⟩
    · cases h
    · obtain ⟨n, hn, hnull⟩ := ih h
      exact ⟨n, List.mem_cons_of_mem t hn, hnull⟩

/-- A null character in the text of a path is in the path. -/
theorem LocalPath.hasNull_of_toText {p : LocalPath} (h : p.toText.HasNull) : p.HasNull := by
  unfold toText Text.orElse at h
  split at h
  · cases h
  · unfold Text.HasNull at h
    rw [Text.glyphs_append, List.any_append, Bool.or_eq_true] at h
    exact h.imp_right Text.hasNull_of_join

namespace LocalFiles

variable {files : LocalFiles} {path : Text} {f : Fault} {names : List Text} {bytes old : Bytes}

/-! ## Faults -/

/-- What the local system says about a path is a fault of the system. -/
theorem isSystem_localFile (problem : FileProblem) (path : Text) :
    (Fault.localFile problem path).isSystem = true := by
  cases problem with
  | _ => rfl

/-- A path that cannot be followed, or not even asked for. -/
theorem fault_locate (h : files.locate path = .error f) :
    f.isSystem = true ∨ f = .nullInPath ∧ path.HasNull := by
  unfold locate at h
  split at h
  · rename_i hnull
    exact .inr ⟨(Except.error.inj h).symm, hnull⟩
  · split at h
    · obtain rfl := Except.error.inj h
      exact .inl rfl
    · dsimp only at h
      cases hfollow : files.follow (if path.startsWith '/' then Place.above else Place.within [])
          ((path.splitOn Text.isSlash).filter fun n => !n.isEmpty) with
      | ok place =>
        rw [hfollow] at h
        cases h
      | error problem =>
        rw [hfollow] at h
        obtain rfl := Except.error.inj h
        exact .inl (isSystem_localFile _ _)

/-- To ask for a path that is none is to give a value that makes no sense. -/
theorem isSystem_or_isInvalid {Q : Prop} (h : f.isSystem = true ∨ f = .nullInPath ∧ Q) :
    (f.isSystem || f.isInvalid) = true := by
  rcases h with hsystem | ⟨rfl, -⟩
  · rw [hsystem, Bool.true_or]
  · rfl

/-- A path that leads to nothing. -/
theorem fault_find (h : files.find path = .error f) : (f.isSystem || f.isInvalid) = true := by
  unfold find at h
  cases hplace : files.locate path with
  | error g =>
    rw [hplace] at h
    obtain rfl := Except.error.inj h
    exact isSystem_or_isInvalid (fault_locate hplace)
  | ok place =>
    rw [hplace] at h
    obtain ⟨problem, rfl⟩ : ∃ problem, f = .localFile problem path := by
      simp only [bind, Except.bind] at h
      split at h
      · exact ⟨_, (Except.error.inj h).symm⟩
      · cases h
      · split at h
        · exact ⟨_, (Except.error.inj h).symm⟩
        · cases h
    rw [isSystem_localFile, Bool.true_or]

/-- **A file that cannot be read.** -/
theorem fault_read (h : files.read path = .error f) : (f.isSystem || f.isInvalid) = true := by
  unfold read at h
  cases hfind : files.find path with
  | error g =>
    rw [hfind] at h
    obtain rfl := Except.error.inj h
    exact fault_find hfind
  | ok node =>
    rw [hfind] at h
    cases node with
    | file bytes => cases h
    | directory =>
      obtain rfl := Except.error.inj h
      rfl

/-- **A file that cannot be written.** -/
theorem fault_writable (h : files.writable path = .error f) : (f.isSystem || f.isInvalid) = true := by
  unfold writable at h
  cases hplace : files.locate path with
  | error g =>
    rw [hplace] at h
    obtain rfl := Except.error.inj h
    exact isSystem_or_isInvalid (fault_locate hplace)
  | ok place =>
    rw [hplace] at h
    obtain ⟨problem, rfl⟩ : ∃ problem, f = .localFile problem path := by
      simp only [bind, Except.bind] at h
      split at h
      · exact ⟨_, (Except.error.inj h).symm⟩
      · split at h
        · exact ⟨_, (Except.error.inj h).symm⟩
        · split at h
          · cases h
          · cases h
      · exact ⟨_, (Except.error.inj h).symm⟩
    rw [isSystem_localFile, Bool.true_or]

/-- A file that cannot be made. -/
theorem fault_create (h : files.create path = .error f) : (f.isSystem || f.isInvalid) = true := by
  unfold create at h
  cases hwritable : files.writable path with
  | error g =>
    rw [hwritable] at h
    obtain rfl := Except.error.inj h
    exact fault_writable hwritable
  | ok found =>
    rw [hwritable] at h
    cases h

/-- A file to which nothing can be added. -/
theorem fault_append (h : files.append path bytes = .error f) : (f.isSystem || f.isInvalid) = true := by
  unfold append at h
  cases hwritable : files.writable path with
  | error g =>
    rw [hwritable] at h
    obtain rfl := Except.error.inj h
    exact fault_writable hwritable
  | ok found =>
    rw [hwritable] at h
    cases h

/-- A directory that cannot be made. -/
theorem fault_makeDirectory (h : files.makeDirectory path = .error f) :
    f.isSystem = true ∨ f = .nullInPath ∧ path.HasNull := by
  unfold makeDirectory at h
  cases hplace : files.locate path with
  | error g =>
    rw [hplace] at h
    obtain rfl := Except.error.inj h
    exact fault_locate hplace
  | ok place =>
    rw [hplace] at h
    obtain ⟨problem, rfl⟩ : ∃ problem, f = .localFile problem path := by
      simp only [bind, Except.bind] at h
      split at h
      · exact ⟨_, (Except.error.inj h).symm⟩
      · cases h
      · exact ⟨_, (Except.error.inj h).symm⟩
    exact .inl (isSystem_localFile _ _)

/-- Nor one that has to be there. -/
theorem fault_ensureDirectory (h : ((ensureDirectory path).run files).1 = .error f) :
    f.isSystem = true ∨ f = .nullInPath ∧ path.HasNull := by
  unfold ensureDirectory at h
  rw [Step.run_bind, Step.run_get] at h
  dsimp only at h
  cases hmade : files.makeDirectory path with
  | ok made =>
    rw [hmade] at h
    cases h
  | error g =>
    rw [hmade] at h
    dsimp only at h
    split at h
    · cases h
    · obtain rfl := Except.error.inj h
      exact fault_makeDirectory hmade

/-- **Nor it and all that are above it.** -/
theorem fault_ensureDirectories {root : Text} (h : ((ensureDirectories root names).run files).1 = .error f) :
    f.isSystem = true ∨ f = .nullInPath ∧ (LocalPath.mk root names.reverse).HasNull := by
  have hpath : ∀ {p : LocalPath}, p.toText.HasNull → p.HasNull := LocalPath.hasNull_of_toText
  induction names generalizing files f with
  | nil => exact (fault_ensureDirectory h).imp_right fun hnull => ⟨hnull.1, hpath hnull.2⟩
  | cons name above ih =>
    unfold ensureDirectories at h
    dsimp only at h
    rw [Step.run_bind, Step.run_attempt] at h
    generalize hfirst : (ensureDirectory (LocalPath.mk root (name :: above).reverse).toText).run files = first at h
    obtain ⟨result, files'⟩ := first
    dsimp only at h
    split at h
    · cases h
    · -- the directory above is missing: it is made first
      rw [Step.run_bind] at h
      generalize habove : (ensureDirectories root above).run files' = rest at h
      rcases rest with ⟨g | u, files''⟩
      · obtain rfl := Except.error.inj h
        refine (ih (congrArg Prod.fst habove)).imp_right fun hnull => ⟨hnull.1, ?_⟩
        rw [List.reverse_cons]
        exact hnull.2.mono fun n hn => List.mem_append_left _ hn
      · exact (fault_ensureDirectory h).imp_right fun hnull => ⟨hnull.1, hpath hnull.2⟩
    · obtain rfl := Except.error.inj h
      refine (fault_ensureDirectory (congrArg Prod.fst hfirst)).imp_right fun hnull => ?_
      exact ⟨hnull.1, hpath hnull.2⟩

/-! ## Places -/

/-- What was put at a place is there. -/
theorem at?_put (hnames : names ≠ []) (files : LocalFiles) (node : LocalNode) :
    (files.put names node).at? (.within names) = some node := by
  cases names with
  | nil => exact absurd rfl hnames
  | cons name rest =>
    have hnone : (files.nodes.filter fun e => e.1 ≠ name :: rest).find?
        (fun e => decide (e.1 = name :: rest)) = none := by
      rw [List.find?_eq_none]
      intro e he heq
      exact of_decide_eq_true (List.mem_filter.mp he).2 (of_decide_eq_true heq)
    show (List.find? _ (_ ++ [(name :: rest, node)])).map (·.2) = some node
    rw [List.find?_append, hnone, List.find?_singleton, if_pos (decide_eq_true rfl)]
    rfl

/-- Whatever was at another place is there still. -/
theorem at?_put_of_ne {place : Place} (hplace : place ≠ .within names) (files : LocalFiles)
    (node : LocalNode) : (files.put names node).at? place = files.at? place := by
  cases place with
  | above | nowhere => rfl
  | within others =>
    cases others with
    | nil => rfl
    | cons name rest =>
      have hne : names ≠ name :: rest := fun h => hplace (congrArg Place.within h.symm)
      have hsame : ((files.nodes.filter fun e => e.1 ≠ names).find?
          fun e => decide (e.1 = name :: rest)) =
          files.nodes.find? fun e => decide (e.1 = name :: rest) := by
        rw [List.find?_filter]
        refine congrArg (List.find? · files.nodes) (funext fun e => ?_)
        by_cases he : e.1 = name :: rest
        · rw [he]
          simp only [ne_eq, hne.symm, not_false_eq_true, decide_true, and_self]
        · simp only [he, decide_false, Bool.false_eq_true, and_false]
      show (List.find? _ (_ ++ [(names, node)])).map (·.2) = _
      rw [List.find?_append, hsame, List.find?_singleton, if_neg (by rw [decide_eq_false hne]; exact nofun),
        Option.or_none]
      rfl

/-- Paths lead where they led, if what is put somewhere is put where there was no directory. -/
theorem follow_put (hnames : files.at? (.within names) ≠ some .directory) (node : LocalNode)
    {start place : Place} {way : List Text} (h : files.follow start way = .ok place) :
    (files.put names node).follow start way = .ok place := by
  induction way generalizing start with
  | nil => exact h
  | cons name way ih =>
    unfold follow at h ⊢
    cases hstep : files.step start name with
    | error problem =>
      rw [hstep] at h
      cases h
    | ok next =>
      rw [hstep] at h
      have hstart : files.at? start = some .directory := by
        unfold step at hstep
        split at hstep
        · cases hstep
        · cases hstep
        · assumption
      have hother : start ≠ .within names := fun heq => hnames (heq ▸ hstart)
      have hsame : (files.put names node).step start name = files.step start name := by
        unfold step
        rw [at?_put_of_ne hother]
      rw [hsame, hstep]
      exact ih h

/-- A path is at its place after such a change. -/
theorem locate_put (hnames : files.at? (.within names) ≠ some .directory) (node : LocalNode)
    {place : Place} (h : files.locate path = .ok place) :
    (files.put names node).locate path = .ok place := by
  unfold locate at h ⊢
  split at h
  · cases h
  · rename_i hnull
    rw [if_neg hnull]
    split at h
    · cases h
    · rename_i hempty
      rw [if_neg hempty]
      dsimp only at h ⊢
      cases hfollow : files.follow (if path.startsWith '/' then Place.above else Place.within [])
          ((path.splitOn Text.isSlash).filter fun n => !n.isEmpty) with
      | error problem =>
        rw [hfollow] at h
        cases h
      | ok found =>
        rw [hfollow] at h
        rw [follow_put hnames node hfollow]
        exact h

/-! ## Files -/

/-- A file that can be written has a place where there is no directory, and a path without a slash at its
end. -/
theorem of_writable (h : files.writable path = .ok (names, old)) :
    files.locate path = .ok (.within names) ∧ files.at? (.within names) ≠ some .directory ∧
      path.endsWith '/' = false ∧ names ≠ [] := by
  unfold writable at h
  cases hplace : files.locate path with
  | error g =>
    rw [hplace] at h
    cases h
  | ok place =>
    rw [hplace] at h
    simp only [bind, Except.bind] at h
    split at h
    · cases h
    · rename_i found hnot
      split at h
      · cases h
      · rename_i hslash
        have hfound : found = names := by
          split at h
          · exact congrArg Prod.fst (Except.ok.inj h)
          · exact congrArg Prod.fst (Except.ok.inj h)
        subst hfound
        refine ⟨rfl, hnot, Bool.eq_false_iff.mpr hslash, ?_⟩
        rintro rfl
        exact hnot rfl
    · cases h

/-- **A file can be written again**, and has the bytes that were put there. -/
theorem writable_put (h : files.writable path = .ok (names, old)) (bytes : Bytes) :
    (files.put names (.file bytes)).writable path = .ok (names, bytes) := by
  obtain ⟨hplace, hnode, hslash, hnames⟩ := of_writable h
  unfold writable
  rw [locate_put hnode _ hplace]
  simp only [bind, Except.bind]
  rw [at?_put hnames]
  simp only [hslash]
  rfl

/-- **What was put there is read.** -/
theorem read_put (h : files.writable path = .ok (names, old)) (bytes : Bytes) :
    (files.put names (.file bytes)).read path = .ok bytes := by
  obtain ⟨hplace, hnode, hslash, hnames⟩ := of_writable h
  have hfind : (files.put names (.file bytes)).find path = .ok (.file bytes) := by
    unfold find
    rw [locate_put hnode _ hplace]
    simp only [bind, Except.bind]
    rw [at?_put hnames]
    simp only [hslash]
    rfl
  unfold read
  rw [hfind]
  rfl

/-- To put something and then something else at a place is to put that there. -/
theorem put_put (files : LocalFiles) (names : List Text) (node other : LocalNode) :
    (files.put names node).put names other = files.put names other := by
  have hlast : [(names, node)].filter (fun e => decide (e.1 ≠ names)) = [] :=
    List.filter_cons_of_neg fun h => of_decide_eq_true h rfl
  unfold put
  rw [List.filter_append, List.filter_filter, hlast, List.append_nil]
  simp only [Bool.and_self]

/-- A file that can be written can be made, and is empty. -/
theorem create_of_writable (h : files.writable path = .ok (names, old)) :
    files.create path = .ok (files.put names (.file [])) := by
  unfold create
  rw [h]
  rfl

/-- Bytes are added to those that were put there. -/
theorem append_put (h : files.writable path = .ok (names, old)) (bytes more : Bytes) :
    (files.put names (.file bytes)).append path more = .ok (files.put names (.file (bytes ++ more))) := by
  unfold append
  rw [writable_put h]
  exact congrArg Except.ok (put_put files names (.file bytes) (.file (bytes ++ more)))

end LocalFiles

end Sftp
