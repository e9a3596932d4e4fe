import Sftp.Proofs.Walk.NameOrder

/-!
# Trees in pre-order

What a walk should visit, defined by recursion on the tree and with no stack. The tree is a table: what
is known of each path, and what listing it brings. A table may be infinite in paths and still be finite
as a tree, if only so many of its paths can be listed and every child has a longer path than its parent.

* `FileTable` — a tree as a table; `FileTable.tree` — the same as a walk sees it, with a record of what
  was asked.
* `FileTable.Visits` — the visits to some siblings and to what is below them.
* **`FileTable.Traversal`** — the visits of a whole walk and what is asked for them.
* `FileTable.Regular` — finite tables with proper names.
* **`FileTable.Traversal.unique`**, **`FileTable.exists_traversal`** — a regular table has one traversal.
-/

namespace Sftp

/-! ## Tables -/

/-- A tree of files as a table. -/
structure FileTable where
  /-- What is known of a path. -/
  lstat : Text → Except Fault FileStats
  /-- What listing a path brings: nothing but a fault, or entries that a fault may follow. -/
  list : Text → Except Fault Listing

/-- What can be asked of a tree. -/
inductive Inquiry
  /-- The statistics of a path. -/
  | lstat (path : Text)
  /-- The entries of a directory. -/
  | list (path : Text)
  deriving DecidableEq

/-- Whether a text can be the name of a child: it is not empty and has no slash. -/
structure Text.IsName (name : Text) : Prop where
  /-- It is not empty. -/
  ne_empty : name ≠ Text.empty
  /-- It has no slash. -/
  noSlash : ∀ g ∈ name.glyphs, Text.isSlash g = false

/-- A child has a longer path than its directory. -/
theorem Text.IsName.length_lt_joinPath {name : Text} (h : name.IsName) (parent : Text) :
    parent.length < (parent.joinPath name).length := by
  obtain ⟨_ | ⟨g, glyphs⟩⟩ := name
  · exact absurd rfl h.ne_empty
  · have hslash : Text.startsWith ⟨g :: glyphs⟩ '/' = false := h.noSlash g List.mem_cons_self
    unfold Text.joinPath
    rw [if_neg (by simp [hslash])]
    split
    · show parent.glyphs.length < (parent.glyphs ++ g :: glyphs).length
      rw [List.length_append]
      exact Nat.lt_add_of_pos_right (Nat.succ_pos _)
    · show parent.glyphs.length < (parent.glyphs ++ ("/" : Text).glyphs ++ g :: glyphs).length
      rw [List.length_append, List.length_append]
      exact Nat.lt_add_right _ (Nat.lt_add_of_pos_right Nat.one_pos)

namespace FileTable

/-- The children of a directory, if its listing comes to its end. -/
def children (t : FileTable) (path : Text) : Except Fault (List FileStats) :=
  (t.list path).bind Listing.complete

/-- A table as a tree, with a record of what was asked. -/
def tree (t : FileTable) : Tree (List Inquiry) where
  lstat path := .ofFunction fun asked => (t.lstat path, asked ++ [.lstat path])
  list path := .ofFunction fun asked => (t.list path, asked ++ [.list path])

/-- A finite tree with proper names, where only the system or the server fails. -/
structure Regular (t : FileTable) : Prop where
  /-- Only so many paths can be listed. -/
  finite : ∃ paths : List Text, ∀ {path children}, t.children path = .ok children → path ∈ paths
  /-- Children have names. -/
  names : ∀ {path children}, t.children path = .ok children → ∀ s ∈ children, s.name.IsName
  /-- Looking at a path can fail only so. -/
  lstatFault : ∀ {path f}, t.lstat path = .error f → f.isSystem = true
  /-- Listing a path can fail only so. -/
  listFault : ∀ {path f}, t.children path = .error f → f.isSystem = true

/-! ## Traversals -/

/-- **The visits to siblings and to what is below them**, if the first of them has a place in the walk
and the consumer leaves out the directories at some places. The paths are those that are listed. -/
inductive Visits (t : FileTable) (skipped : List Nat) :
    Nat → List (Text × FileStats) → List WalkEntry → List Text → Prop
  /-- There are no siblings. -/
  | nil (place : Nat) : Visits t skipped place [] [] []
  /-- The first is no directory or left out: it is visited, and nothing is below it. -/
  | leaf {place : Nat} {path : Text} {stats : FileStats} {others : List (Text × FileStats)}
      {entries : List WalkEntry} {listed : List Text}
      (hleaf : stats.isDirectory = false ∨ place ∈ skipped)
      (hothers : Visits t skipped (place + 1) others entries listed) :
      Visits t skipped place ((path, stats) :: others) (⟨path, some stats, none⟩ :: entries) listed
  /-- The first is a directory that cannot be listed: it is visited a second time, with the fault. -/
  | unlisted {place : Nat} {path : Text} {stats : FileStats} {others : List (Text × FileStats)}
      {entries : List WalkEntry} {listed : List Text} {f : Fault}
      (hdirectory : stats.isDirectory = true) (hentered : place ∉ skipped)
      (hfault : t.children path = .error f)
      (hothers : Visits t skipped (place + 2) others entries listed) :
      Visits t skipped place ((path, stats) :: others)
        (⟨path, some stats, none⟩ :: ⟨path, some stats, some f⟩ :: entries) (path :: listed)
  /-- The first is a directory: it is visited, and then its children in the order of their names. -/
  | directory {place : Nat} {path : Text} {stats : FileStats} {others : List (Text × FileStats)}
      {items sorted : List FileStats} {inner entries : List WalkEntry} {below listed : List Text}
      (hdirectory : stats.isDirectory = true) (hentered : place ∉ skipped)
      (hitems : t.children path = .ok items) (hsorted : NameOrder items sorted)
      (hinner : Visits t skipped (place + 1) (sorted.map fun s => (path.joinPath s.name, s))
        inner below)
      (hothers : Visits t skipped (place + 1 + inner.length) others entries listed) :
      Visits t skipped place ((path, stats) :: others)
        (⟨path, some stats, none⟩ :: (inner ++ entries)) (path :: (below ++ listed))

/-- **The visits of a whole walk**, and what is asked of the tree for them. -/
inductive Traversal (t : FileTable) (skipped : List Nat) (root : Text) :
    List WalkEntry → List Inquiry → Prop
  /-- The root cannot be looked at: it is visited once, with the fault. -/
  | unseen {f : Fault} (hfault : t.lstat root = .error f) :
      Traversal t skipped root [⟨root, none, some f⟩] [.lstat root]
  /-- The root and what is below it are visited. -/
  | seen {stats : FileStats} {entries : List WalkEntry} {listed : List Text}
      (hstats : t.lstat root = .ok stats)
      (hvisits : t.Visits skipped 0 [(root, stats)] entries listed) :
      Traversal t skipped root entries (.lstat root :: listed.map .list)

variable {t : FileTable} {skipped : List Nat}

/-- Siblings are visited in one way. -/
theorem Visits.unique {place : Nat} {siblings : List (Text × FileStats)}
    {entries entries' : List WalkEntry} {listed listed' : List Text}
    (h : t.Visits skipped place siblings entries listed)
    (h' : t.Visits skipped place siblings entries' listed') :
    entries' = entries ∧ listed' = listed := by
  induction h generalizing entries' listed' with
  | nil =>
    cases h'
    exact ⟨rfl, rfl⟩
  | leaf hleaf _ ih =>
    cases h' with
    | leaf _ hothers =>
      obtain ⟨rfl, rfl⟩ := ih hothers
      exact ⟨rfl, rfl⟩
    | unlisted hdirectory hentered =>
      rcases hleaf with hleaf | hleaf
      · simp [hleaf] at hdirectory
      · exact absurd hleaf hentered
    | directory hdirectory hentered =>
      rcases hleaf with hleaf | hleaf
      · simp [hleaf] at hdirectory
      · exact absurd hleaf hentered
  | unlisted hdirectory hentered hfault _ ih =>
    cases h' with
    | leaf hleaf =>
      rcases hleaf with hleaf | hleaf
      · simp [hleaf] at hdirectory
      · exact absurd hleaf hentered
    | unlisted _ _ hfault' hothers =>
      obtain rfl := Except.error.inj (hfault.symm.trans hfault')
      obtain ⟨rfl, rfl⟩ := ih hothers
      exact ⟨rfl, rfl⟩
    | directory _ _ hitems => simp [hfault] at hitems
  | directory hdirectory hentered hitems hsorted _ _ ihinner ihothers =>
    cases h' with
    | leaf hleaf =>
      rcases hleaf with hleaf | hleaf
      · simp [hleaf] at hdirectory
      · exact absurd hleaf hentered
    | unlisted _ _ hfault => simp [hitems] at hfault
    | directory _ _ hitems' hsorted' hinner hothers =>
      obtain rfl := Except.ok.inj (hitems.symm.trans hitems')
      obtain rfl := hsorted.unique hsorted'
      obtain ⟨rfl, rfl⟩ := ihinner hinner
      obtain ⟨rfl, rfl⟩ := ihothers hothers
      exact ⟨rfl, rfl⟩

/-- **A walk has one traversal at most.** -/
theorem Traversal.unique {root : Text} {entries entries' : List WalkEntry}
    {asked asked' : List Inquiry} (h : t.Traversal skipped root entries asked)
    (h' : t.Traversal skipped root entries' asked') : entries' = entries ∧ asked' = asked := by
  cases h with
  | unseen hfault =>
    cases h' with
    | unseen hfault' =>
      obtain rfl := Except.error.inj (hfault.symm.trans hfault')
      exact ⟨rfl, rfl⟩
    | seen hstats => simp [hfault] at hstats
  | seen hstats hvisits =>
    cases h' with
    | unseen hfault => simp [hstats] at hfault
    | seen hstats' hvisits' =>
      obtain rfl := Except.ok.inj (hstats.symm.trans hstats')
      obtain ⟨rfl, rfl⟩ := hvisits.unique hvisits'
      exact ⟨rfl, rfl⟩

/-! ## Existence -/

/-- Siblings have visits if the children of each of them have, in whatever order and at whatever place. -/
theorem exists_visits_of_children {siblings : List (Text × FileStats)}
    (hbelow : ∀ e ∈ siblings, ∀ items, t.children e.1 = .ok items → ∀ sorted place,
      NameOrder items sorted → ∃ inner below,
        t.Visits skipped place (sorted.map fun s => (e.1.joinPath s.name, s)) inner below)
    (place : Nat) : ∃ entries listed, t.Visits skipped place siblings entries listed := by
  induction siblings generalizing place with
  | nil => exact ⟨[], [], .nil place⟩
  | cons e others ih =>
    obtain ⟨path, stats⟩ := e
    have hothers := ih fun e he => hbelow e (List.mem_cons_of_mem _ he)
    by_cases hleaf : stats.isDirectory = false ∨ place ∈ skipped
    · obtain ⟨entries, listed, h⟩ := hothers (place + 1)
      exact ⟨_, _, .leaf hleaf h⟩
    · rw [not_or, Bool.not_eq_false] at hleaf
      obtain ⟨hdirectory, hentered⟩ := hleaf
      cases hchildren : t.children path with
      | error f =>
        obtain ⟨entries, listed, h⟩ := hothers (place + 2)
        exact ⟨_, _, .unlisted hdirectory hentered hchildren h⟩
      | ok items =>
        have hsorted := nameOrder_mergeSort items
        obtain ⟨inner, below, hinner⟩ :=
          hbelow (path, stats) List.mem_cons_self items hchildren _ (place + 1) hsorted
        obtain ⟨entries, listed, h⟩ := hothers (place + 1 + inner.length)
        exact ⟨_, _, .directory hdirectory hentered hchildren hsorted hinner h⟩

/-- Siblings have visits if no path of a certain length can be listed. The number bounds how deep it can
still go below them, for every child has a longer path than its directory. -/
theorem exists_visits (skipped : List Nat) {bound : Nat}
    (hbound : ∀ {path items}, t.children path = .ok items → path.length < bound)
    (hnames : ∀ {path items}, t.children path = .ok items → ∀ s ∈ items, s.name.IsName)
    (depth : Nat) (siblings : List (Text × FileStats))
    (hdepth : ∀ e ∈ siblings, bound ≤ e.1.length + depth) (place : Nat) :
    ∃ entries listed, t.Visits skipped place siblings entries listed := by
  induction depth generalizing siblings place with
  | zero =>
    apply exists_visits_of_children
    intro e he items hitems
    have := hbound hitems
    have := hdepth e he
    omega
  | succ depth ih =>
    apply exists_visits_of_children
    intro e he items hitems sorted place hsorted
    apply ih _ _
    intro child hchild
    obtain ⟨s, hs, rfl⟩ := List.mem_map.mp hchild
    have hlonger := (hnames hitems s (hsorted.mem_iff.mp hs)).length_lt_joinPath e.1
    have := hdepth e he
    simp only
    omega

/-- **A regular table has a traversal** from every root, whatever is left out. -/
theorem exists_traversal (ht : t.Regular) (skipped : List Nat) (root : Text) :
    ∃ entries asked, t.Traversal skipped root entries asked := by
  cases hroot : t.lstat root with
  | error f => exact ⟨_, _, .unseen hroot⟩
  | ok stats =>
    obtain ⟨paths, hpaths⟩ := ht.finite
    -- together the paths that can be listed are longer than each of them
    have hbound : ∀ {path items}, t.children path = .ok items →
        path.length < (paths.map Text.glyphs).flatten.length + 1 := by
      intro path items hitems
      have hmem : path.glyphs ∈ paths.map Text.glyphs := List.mem_map_of_mem (hpaths hitems)
      exact Nat.lt_succ_of_le (List.sublist_flatten_of_mem hmem).length_le
    obtain ⟨entries, listed, hvisits⟩ := exists_visits skipped hbound ht.names
      ((paths.map Text.glyphs).flatten.length + 1) [(root, stats)]
      (fun _ _ => Nat.le_add_left _ _) 0
    exact ⟨_, _, .seen hroot hvisits⟩

end FileTable

end Sftp
