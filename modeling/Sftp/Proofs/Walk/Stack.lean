import Sftp.Proofs.Walk.Preorder

/-!
# A walk is a traversal

A walk keeps the entries that are still to be visited on a stack and decides what is below an entry only
when the next one is asked for. The stack is the rest of the recursion: siblings that stand on it are
visited with all that is below them before what stands under them.

* `Walk.upNext` — the visit of the uppermost entry of a stack; `Walk.taking` — what the consumer makes of
  a visit; `Walker.Notes` — what a walker keeps of a part of a walk.
* `FileTable.taking_left`, `FileTable.taking_unlisted`, `FileTable.taking_listed` — what a walk does with
  each kind of entry.
* **`FileTable.Visits.run`** — siblings on a stack are visited as the recursion says.
* **`Walk.visit_traversal`** — a walk visits the traversal of its tree and asks for nothing else.
-/

namespace Sftp

/-- A walker has met some faults since it was another, and goes on as that. -/
structure Walker.Notes (w : Walker) (faults : List Fault) (w' : Walker) : Prop where
  /-- It stops where the other stops. -/
  stopOnFault : w'.stopOnFault = w.stopOnFault
  /-- It has kept the faults. -/
  faults : w'.faults = w.faults ++ faults

namespace Walker.Notes

variable {w w' w'' : Walker} {faults others : List Fault}

/-- Leaving a directory out is no fault. -/
theorem skipping (w : Walker) (isLeftOut : Bool) :
    w.Notes [] { w with skipping := isLeftOut } :=
  ⟨rfl, (List.append_nil _).symm⟩

/-- A fault is kept. -/
theorem note (w : Walker) (f : Fault) : w.Notes [f] (w.note f) :=
  ⟨rfl, rfl⟩

/-- Faults are kept after others. -/
theorem trans (h : w.Notes faults w') (h' : w'.Notes others w'') : w.Notes (faults ++ others) w'' where
  stopOnFault := h'.stopOnFault.trans h.stopOnFault
  faults := by rw [h'.faults, h.faults, List.append_assoc]

end Walker.Notes

namespace Walk

variable {S : Type} {tree : Tree S} {skipped : List Nat} {w : Walker} {s : S}
  {seen stack : List WalkEntry} {path : Text} {stats : FileStats} {more : Nat}

/-- The visit of the uppermost entry of a stack. -/
def upNext (w : Walker) (stack : List WalkEntry) (s : S) : Visit × State S :=
  pop w { started := true, stack } s

/-- What the consumer makes of a visit if it takes up to so many entries after it. -/
def taking (tree : Tree S) (skipped : List Nat) (more : Nat) (seen : List WalkEntry) :
    Visit × State S → Seen × State S
  | (.done, state) => ({ entries := seen.reverse }, state)
  | (.raised f, state) => ({ entries := seen.reverse, fault := some f }, state)
  | (.entry e, w, rest) =>
    visitMore tree skipped more (e :: seen) (if skipped.contains seen.length then w.skip else w, rest)

/-- To take entries is to take the next visit and then the others. -/
theorem visitMore_succ (state : State S) :
    visitMore tree skipped (more + 1) seen state = taking tree skipped more seen (next tree state) := by
  rw [visitMore]
  rcases next tree state with ⟨visit, w, rest⟩
  cases visit with
  | entry e => rfl
  | done => rfl
  | raised f => rfl

/-- When the stack is empty the walk is over. -/
theorem taking_upNext_nil :
    taking tree skipped more seen (upNext w [] s) =
      ({ entries := seen.reverse }, w, { started := true }, s) := rfl

/-- An entry is taken off the stack, and then the next is asked for. Until then it may have been left
out. -/
theorem taking_upNext_cons (fault : Option Fault) :
    taking tree skipped (more + 1) seen (upNext w (⟨path, some stats, fault⟩ :: stack) s) =
      taking tree skipped more (⟨path, some stats, fault⟩ :: seen)
        (next tree ({ w with skipping := skipped.contains seen.length },
          { started := true, last := some ⟨path, some stats, fault⟩, stack }, s)) := by
  rw [← visitMore_succ]
  unfold upNext pop taking
  cases hskip : skipped.contains seen.length with
  | true => simp [Walker.skip]
  | false => simp

/-- After an entry that is no directory or left out comes what is on the stack. -/
theorem next_of_left (h : stats.isDirectory = false ∨ w.skipping = true) :
    next tree (w, { started := true, last := some ⟨path, some stats, none⟩, stack }, s) =
      upNext w stack s := by
  have hleft : (w.skipping || !(some stats).any FileStats.isDirectory) = true := by
    rcases h with h | h
    · simp [h]
    · simp [h]
  unfold next
  simp only [hleft]
  rfl

/-- After a fault comes what is on the stack, unless the walk stops there. -/
theorem next_of_fault (hgoes : w.stopOnFault = false) (e : WalkEntry) (he : e.fault.isSome) :
    next tree (w, { started := true, last := some e, stack }, s) = upNext w stack s := by
  unfold next
  simp only [he, hgoes]
  rfl

/-- After a directory that is not left out, it is listed. -/
theorem next_of_entered (hdirectory : stats.isDirectory = true) (hentered : w.skipping = false) :
    next tree (w, { started := true, last := some ⟨path, some stats, none⟩, stack }, s) =
      descend tree ⟨path, some stats, none⟩ w
        { started := true, last := some ⟨path, some stats, none⟩, stack } s := by
  have hin : (w.skipping || !(some stats).any FileStats.isDirectory) = false := by
    simp [hdirectory, hentered]
  unfold next
  simp only [hin]
  rfl

end Walk

namespace FileTable

open Walk

variable {t : FileTable} {skipped : List Nat} {w : Walker} {asked : List Inquiry}
  {seen stack : List WalkEntry} {path : Text} {stats : FileStats} {more : Nat}

/-- The directories among some entries that are not left out, if the first entry has a place in the
walk. -/
def entered (skipped : List Nat) (place : Nat) (entries : List WalkEntry) : List Text :=
  (entries.zipIdx place).filterMap fun (e, i) =>
    if e.fault.isNone && e.stats.any FileStats.isDirectory && !skipped.contains i then
      some e.path
    else
      none

/-- A sibling as an entry of the stack. -/
def sibling (e : Text × FileStats) : WalkEntry :=
  ⟨e.1, some e.2, none⟩

/-- An entry that is no directory or left out is taken, and nothing comes of it. -/
theorem taking_left (t : FileTable) (path : Text) (w : Walker) (stack : List WalkEntry)
    (asked : List Inquiry) (more : Nat) (h : stats.isDirectory = false ∨ seen.length ∈ skipped) :
    ∃ w', w.Notes [] w' ∧
      taking t.tree skipped (more + 1) seen (upNext w (sibling (path, stats) :: stack) asked) =
        taking t.tree skipped more (sibling (path, stats) :: seen) (upNext w' stack asked) := by
  refine ⟨_, .skipping w (skipped.contains seen.length), ?_⟩
  unfold sibling
  rw [taking_upNext_cons, next_of_left]
  simpa using h

/-- After a directory that cannot be listed comes the same entry with the fault. -/
theorem next_of_unlisted {f : Fault} (hdirectory : stats.isDirectory = true)
    (hentered : w.skipping = false) (hfault : t.children path = .error f) (hsystem : f.isSystem = true) :
    next t.tree (w, { started := true, last := some ⟨path, some stats, none⟩, stack }, asked) =
      upNext (w.note f) (⟨path, some stats, some f⟩ :: stack) (asked ++ [.list path]) := by
  rw [next_of_entered hdirectory hentered]
  rw [children] at hfault
  unfold descend
  simp only [tree, Step.run_ofFunction, hfault, hsystem]
  rfl

/-- After a directory that can be listed come its children. -/
theorem next_of_listed {items sorted : List FileStats} (hdirectory : stats.isDirectory = true)
    (hentered : w.skipping = false) (hitems : t.children path = .ok items)
    (hsorted : NameOrder items sorted) :
    next t.tree (w, { started := true, last := some ⟨path, some stats, none⟩, stack }, asked) =
      upNext w ((sorted.map fun s => (path.joinPath s.name, s)).map sibling ++ stack)
        (asked ++ [.list path]) := by
  have hchildren : childEntries path items =
      (sorted.map fun s => (path.joinPath s.name, s)).map sibling := by
    rw [hsorted.unique (nameOrder_mergeSort items), List.map_map]
    rfl
  rw [next_of_entered hdirectory hentered]
  rw [children] at hitems
  unfold descend
  simp only [tree, Step.run_ofFunction, hitems, hchildren]
  rfl

/-- A directory that cannot be listed is taken twice, the second time with the fault. -/
theorem taking_unlisted {f : Fault} (stack : List WalkEntry) (asked : List Inquiry) (more : Nat)
    (hgoes : w.stopOnFault = false)
    (hdirectory : stats.isDirectory = true) (hentered : seen.length ∉ skipped)
    (hfault : t.children path = .error f) (hsystem : f.isSystem = true) :
    ∃ w', w.Notes [f] w' ∧
      taking t.tree skipped (more + 2) seen (upNext w (sibling (path, stats) :: stack) asked) =
        taking t.tree skipped more (⟨path, some stats, some f⟩ :: sibling (path, stats) :: seen)
          (upNext w' stack (asked ++ [.list path])) := by
  have hin := Walker.Notes.skipping w (skipped.contains seen.length)
  have hnote := hin.trans (.note _ f)
  refine ⟨_, hnote.trans (.skipping _ (skipped.contains (seen.length + 1))), ?_⟩
  unfold sibling
  rw [taking_upNext_cons, next_of_unlisted hdirectory (by simpa using hentered) hfault hsystem,
    taking_upNext_cons]
  apply congrArg
  apply next_of_fault
  · exact hgoes
  · rfl

/-- A directory that can be listed is taken, and its children come next. -/
theorem taking_listed {items sorted : List FileStats} (w : Walker) (stack : List WalkEntry)
    (asked : List Inquiry) (more : Nat) (hdirectory : stats.isDirectory = true)
    (hentered : seen.length ∉ skipped) (hitems : t.children path = .ok items)
    (hsorted : NameOrder items sorted) :
    ∃ w', w.Notes [] w' ∧
      taking t.tree skipped (more + 1) seen (upNext w (sibling (path, stats) :: stack) asked) =
        taking t.tree skipped more (sibling (path, stats) :: seen)
          (upNext w' ((sorted.map fun s => (path.joinPath s.name, s)).map sibling ++ stack)
            (asked ++ [.list path])) := by
  refine ⟨_, .skipping w (skipped.contains seen.length), ?_⟩
  unfold sibling
  rw [taking_upNext_cons]
  apply congrArg
  exact next_of_listed hdirectory (by simpa using hentered) hitems hsorted

/-- **Siblings on a stack are visited with all that is below them**, and then comes what stands under
them. -/
theorem Visits.run (ht : t.Regular) {place : Nat} {siblings : List (Text × FileStats)}
    {entries : List WalkEntry} {listed : List Text}
    (h : t.Visits skipped place siblings entries listed) :
    ∀ (w : Walker) (seen stack : List WalkEntry) (asked : List Inquiry) (more : Nat),
      w.stopOnFault = false → seen.length = place →
      ∃ w', w.Notes (entries.filterMap WalkEntry.fault) w' ∧
        taking t.tree skipped (more + entries.length) seen
            (upNext w (siblings.map sibling ++ stack) asked) =
          taking t.tree skipped more (entries.reverse ++ seen)
            (upNext w' stack (asked ++ listed.map .list)) := by
  induction h with
  | nil =>
    intro w seen stack asked more _ _
    exact ⟨w, ⟨rfl, by simp⟩, by simp⟩
  | @leaf _ path stats others entries _ hleaf _ ih =>
    rintro w seen stack asked more hgoes rfl
    obtain ⟨w₁, hnotes, hrun⟩ := taking_left t path w (others.map sibling ++ stack) asked
      (more + entries.length) hleaf
    obtain ⟨w', hnotes', hrun'⟩ := ih w₁ (sibling (path, stats) :: seen) stack asked more
      (hnotes.stopOnFault.trans hgoes) rfl
    refine ⟨w', hnotes.trans hnotes', hrun.trans (hrun'.trans ?_)⟩
    simp [sibling]
  | @unlisted _ path stats others entries _ f hdirectory hentered hfault _ ih =>
    rintro w seen stack asked more hgoes rfl
    obtain ⟨w₁, hnotes, hrun⟩ := taking_unlisted (others.map sibling ++ stack) asked
      (more + entries.length) hgoes hdirectory hentered hfault (ht.listFault hfault)
    obtain ⟨w', hnotes', hrun'⟩ := ih w₁ (⟨path, some stats, some f⟩ :: sibling (path, stats) :: seen)
      stack (asked ++ [.list path]) more (hnotes.stopOnFault.trans hgoes) rfl
    refine ⟨w', hnotes.trans hnotes', hrun.trans (hrun'.trans ?_)⟩
    simp [sibling]
  | @directory _ path stats others _ _ inner entries below _ hdirectory hentered hitems hsorted _ _
      ihinner ihothers =>
    rintro w seen stack asked more hgoes rfl
    obtain ⟨w₁, hnotes, hrun⟩ := taking_listed w (others.map sibling ++ stack) asked
      (more + entries.length + inner.length) hdirectory hentered hitems hsorted
    obtain ⟨w₂, hnotes₂, hrun₂⟩ := ihinner w₁ (sibling (path, stats) :: seen)
      (others.map sibling ++ stack) (asked ++ [.list path]) (more + entries.length)
      (hnotes.stopOnFault.trans hgoes) rfl
    have hnotes₁ := hnotes.trans hnotes₂
    obtain ⟨w', hnotes', hrun'⟩ := ihothers w₂ (inner.reverse ++ sibling (path, stats) :: seen) stack
      (asked ++ [.list path] ++ below.map .list) more (hnotes₁.stopOnFault.trans hgoes)
      (by simp; omega)
    refine ⟨w', ?_, ?_⟩
    · have hall := hnotes₁.trans hnotes'
      simpa using hall
    · rw [List.length_cons, List.length_append, Nat.add_comm inner.length, ← Nat.add_assoc,
        ← Nat.add_assoc]
      refine hrun.trans (hrun₂.trans (hrun'.trans ?_))
      simp [sibling]

/-- A root that can be looked at is the only entry of the stack. -/
theorem next_of_seen (hstats : t.lstat w.root = .ok stats) :
    next t.tree (w, {}, asked) =
      upNext w ([(w.root, stats)].map sibling) (asked ++ [.lstat w.root]) := by
  unfold next enter
  simp only [tree, Step.run_ofFunction, hstats]
  rfl

/-- So is a root that cannot be looked at, with the fault. -/
theorem next_of_unseen {f : Fault} (hfault : t.lstat w.root = .error f)
    (hsystem : f.isSystem = true) :
    next t.tree (w, {}, asked) =
      upNext (w.note f) [⟨w.root, none, some f⟩] (asked ++ [.lstat w.root]) := by
  unfold next enter
  simp only [tree, Step.run_ofFunction, hfault, hsystem]
  rfl

/-- **A walk visits a traversal** from its beginning to its end. -/
theorem Traversal.run (ht : t.Regular) {entries : List WalkEntry}
    (h : t.Traversal skipped w.root entries asked) (hgoes : w.stopOnFault = false) (more : Nat) :
    ∃ w', w.Notes (entries.filterMap WalkEntry.fault) w' ∧
      visitMore t.tree skipped (more + entries.length + 1) [] (w, {}, []) =
        ({ entries }, w', { started := true }, asked) := by
  cases h with
  | @unseen f hfault =>
    -- the flag stays as it was, for the entry has no statistics
    refine ⟨if skipped.contains 0 then (w.note f).skip else w.note f, ?_, ?_⟩
    · split
      · exact ⟨rfl, rfl⟩
      · exact .note w f
    · rw [visitMore_succ, next_of_unseen hfault (ht.lstatFault hfault)]
      simp only [upNext, pop, taking]
      rw [List.length_singleton, visitMore_succ, next_of_fault]
      · rfl
      · split
        · exact hgoes
        · exact hgoes
      · rfl
  | seen hstats hvisits =>
    obtain ⟨w', hnotes, hrun⟩ := hvisits.run ht w [] [] [.lstat w.root] more hgoes rfl
    refine ⟨w', hnotes, ?_⟩
    rw [visitMore_succ, next_of_seen hstats, List.nil_append]
    rw [List.append_nil, List.append_nil] at hrun
    rw [hrun, taking_upNext_nil, List.reverse_reverse]
    rfl

/-- The directories that are listed are those that are visited and not left out, in the order of the
visits. -/
theorem Visits.listed_eq {place : Nat} {siblings : List (Text × FileStats)}
    {entries : List WalkEntry} {listed : List Text}
    (h : t.Visits skipped place siblings entries listed) :
    listed = entered skipped place entries := by
  unfold entered
  induction h with
  | nil => rfl
  | leaf hleaf _ ih =>
    rcases hleaf with hleaf | hleaf
    · simp [hleaf, ih]
    · simp [hleaf, ih]
  | unlisted hdirectory hentered _ _ ih => simp [hdirectory, hentered, ih]
  | directory hdirectory hentered _ _ _ _ ihinner ihothers =>
    simp [hdirectory, hentered, ihinner, ihothers, List.zipIdx_append]

/-- Besides the statistics of the root, a walk asks only for the listings of those directories. -/
theorem Traversal.asked_eq {root : Text} {entries : List WalkEntry}
    (h : t.Traversal skipped root entries asked) :
    asked = .lstat root :: (entered skipped 0 entries).map .list := by
  cases h with
  | unseen => rfl
  | seen _ hvisits => rw [hvisits.listed_eq]

end FileTable

/-- **A walk is the traversal of its tree**, and asks for nothing that the traversal does not ask for. -/
theorem Walk.visit_traversal {t : FileTable} (ht : t.Regular) (skipped : List Nat) {w : Walker}
    (hgoes : w.stopOnFault = false) :
    ∃ entries asked,
      (∀ entries' asked', t.Traversal skipped w.root entries' asked' ↔
        entries' = entries ∧ asked' = asked) ∧
      asked = .lstat w.root :: (FileTable.entered skipped 0 entries).map .list ∧
      ∀ limit, entries.length < limit → ∃ w', w.Notes (entries.filterMap WalkEntry.fault) w' ∧
        visit t.tree skipped limit w [] = ({ entries }, w', asked) := by
  obtain ⟨entries, asked, h⟩ := FileTable.exists_traversal ht skipped w.root
  refine ⟨entries, asked, ?_, h.asked_eq, ?_⟩
  · intro entries' asked'
    constructor
    · exact h.unique
    · rintro ⟨rfl, rfl⟩
      exact h
  · intro limit hlimit
    obtain ⟨w', hnotes, hrun⟩ := h.run ht hgoes (limit - entries.length - 1)
    rw [show limit - entries.length - 1 + entries.length + 1 = limit by omega] at hrun
    refine ⟨w', hnotes, ?_⟩
    rw [visit, hrun]

/-! ## A walk of a small tree -/

namespace FileTable

/-- A regular file. -/
def sampleFile (name : String) (size : Int) : FileStats :=
  { name, size := some size, mode := some 0x81A4 }

/-- A directory. -/
def sampleDirectory (name : String) : FileStats :=
  { name, mode := some 0x41ED }

/-- The listing of the root of the small tree: not in order, with one name twice. -/
def sampleChildren : List FileStats :=
  [sampleDirectory "c", sampleFile "a" 2, sampleDirectory "b", sampleFile "a" 1]

/-- The same in order. -/
def sampleSorted : List FileStats :=
  [sampleFile "a" 2, sampleFile "a" 1, sampleDirectory "b", sampleDirectory "c"]

/-- A small tree. The listing of one of its directories fails after an entry. -/
def sampleTree : FileTable where
  lstat path :=
    if path = "/r" then .ok (sampleDirectory "r") else .error (.localFile .missing path)
  list path :=
    if path = "/r" then .ok { entries := sampleChildren }
    else if path = "/r/b" then .ok { entries := [sampleFile "y" 0] }
    else if path = "/r/c" then
      .ok { entries := [sampleFile "z" 0], fault := some (.localFile .notDirectory path) }
    else .error (.localFile .missing path)

/-- The visits of the small tree if the directory `b` is left out. -/
def sampleVisits : List WalkEntry :=
  [⟨"/r", some (sampleDirectory "r"), none⟩, ⟨"/r/a", some (sampleFile "a" 2), none⟩,
    ⟨"/r/a", some (sampleFile "a" 1), none⟩, ⟨"/r/b", some (sampleDirectory "b"), none⟩,
    ⟨"/r/c", some (sampleDirectory "c"), none⟩,
    ⟨"/r/c", some (sampleDirectory "c"), some (.localFile .notDirectory "/r/c")⟩]

/-- Two directories of the small tree have children. -/
theorem children_sampleTree {path : Text} {items : List FileStats}
    (h : sampleTree.children path = .ok items) :
    (path = "/r" ∧ items = sampleChildren) ∨ (path = "/r/b" ∧ items = [sampleFile "y" 0]) := by
  unfold children sampleTree at h
  simp only at h
  split at h
  · rename_i hpath
    exact .inl ⟨hpath, (Except.ok.inj h).symm⟩
  · split at h
    · rename_i hpath
      exact .inr ⟨hpath, (Except.ok.inj h).symm⟩
    · split at h
      · simp [Except.bind, Listing.complete] at h
      · simp [Except.bind] at h

/-- The small tree is a tree. -/
theorem regular_sampleTree : sampleTree.Regular where
  finite := by
    refine ⟨["/r", "/r/b"], fun h => ?_⟩
    rcases children_sampleTree h with ⟨rfl, -⟩ | ⟨rfl, -⟩
    · exact List.mem_cons_self
    · exact List.mem_cons_of_mem _ List.mem_cons_self
  names := by
    intro path items h
    have hsample : ∀ s ∈ sampleChildren ++ [sampleFile "y" 0],
        s.name ≠ Text.empty ∧ ∀ g ∈ s.name.glyphs, Text.isSlash g = false := by decide
    intro s hs
    rcases children_sampleTree h with ⟨-, rfl⟩ | ⟨-, rfl⟩
    · obtain ⟨hne, hslash⟩ := hsample s (List.mem_append_left _ hs)
      exact ⟨hne, hslash⟩
    · obtain ⟨hne, hslash⟩ := hsample s (List.mem_append_right _ hs)
      exact ⟨hne, hslash⟩
  lstatFault := by
    intro path f h
    unfold sampleTree at h
    simp only at h
    split at h
    · cases h
    · cases h
      rfl
  listFault := by
    intro path f h
    unfold children sampleTree at h
    simp only at h
    split at h
    · cases h
    · split at h
      · cases h
      · split at h
        · cases h
          rfl
        · cases h
          rfl

/-- The root of the small tree is in order. -/
theorem nameOrder_sampleSorted : NameOrder sampleChildren sampleSorted where
  ascending := by decide
  stable name := by
    by_cases ha : Text.ofString "a" = name
    · subst ha
      rfl
    · by_cases hb : Text.ofString "b" = name
      · subst hb
        rfl
      · simp [sampleChildren, sampleSorted, sampleFile, sampleDirectory, ha, hb, List.filter_cons]

/-- What is below the root of the small tree. -/
theorem visits_sampleSorted :
    sampleTree.Visits [3] 1 (sampleSorted.map fun s => (Text.joinPath "/r" s.name, s))
      sampleVisits.tail ["/r/c"] := by
  have hc : sampleTree.Visits [3] 4 [("/r/c", sampleDirectory "c")]
      [⟨"/r/c", some (sampleDirectory "c"), none⟩,
        ⟨"/r/c", some (sampleDirectory "c"), some (.localFile .notDirectory "/r/c")⟩] ["/r/c"] :=
    .unlisted rfl (by decide) rfl (.nil 6)
  exact .leaf (.inl rfl) (.leaf (.inl rfl) (.leaf (.inr (by decide)) hc))

/-- The traversal of the small tree. -/
theorem traversal_sampleTree :
    sampleTree.Traversal [3] "/r" sampleVisits [.lstat "/r", .list "/r", .list "/r/c"] := by
  have hroot : sampleTree.Visits [3] 0 [("/r", sampleDirectory "r")] sampleVisits ["/r", "/r/c"] :=
    .directory rfl (by decide) rfl nameOrder_sampleSorted visits_sampleSorted (.nil 6)
  exact .seen rfl hroot

end FileTable

/-- A walk of the small tree that leaves a directory out and cannot list another. -/
theorem Walk.visit_traversal_sampleTree :
    FileTable.sampleTree.Regular ∧ ({ root := "/r" } : Walker).stopOnFault = false ∧
      ∃ w', visit FileTable.sampleTree.tree [3] 10 { root := "/r" } [] =
        ({ entries := FileTable.sampleVisits }, w', [.lstat "/r", .list "/r", .list "/r/c"]) := by
  obtain ⟨entries, asked, htraversal, -, hrun⟩ := visit_traversal FileTable.regular_sampleTree [3]
    (w := { root := "/r" }) rfl
  obtain ⟨rfl, rfl⟩ := (htraversal _ _).mp FileTable.traversal_sampleTree
  obtain ⟨w', -, hvisit⟩ := hrun 10 (by decide)
  exact ⟨FileTable.regular_sampleTree, rfl, w', hvisit⟩

end Sftp
