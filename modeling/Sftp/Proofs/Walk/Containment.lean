import Sftp.Proofs.Walk.Preorder
import Sftp.Proofs.Walk.Step

/-!
# Where a walk can get to

The paths of a walk are joined from names that a listing brings, and a name that begins with a slash
replaces the directory it was listed in. Such names are the only way out of the root, and there is no
other check: dots are names like others.

* `Text.asPrefix`, `Text.IsUnder` — what begins the paths below a path; a path or one below it.
* `Text.IsUnder.joinPath` — a child is under its directory, unless its name begins with a slash.
* `Tree.Lists` — a directory brings a name; `Tree.Strays` — that name leads out of the root.
* `Walk.Within` — what a walk keeps; `Walk.Within.next` — every visit keeps it.
* **`Walk.visit_contained`** — every path that is visited is under the root, or under a name that
  led out of it and came from a directory that was visited.
-/

namespace Sftp

/-! ## Paths under a path -/

namespace Text

/-- What a path below this one begins with. -/
def asPrefix (path : Text) : Text :=
  if path.isEmpty || path.endsWith '/' then path else path ++ "/"

/-- A path, or one below it: it goes on after a slash, unless there is nothing before the slash or there
is one already. -/
def IsUnder (path root : Text) : Prop :=
  path = root ∨ root.asPrefix.glyphs <+: path.glyphs

instance (path root : Text) : Decidable (path.IsUnder root) :=
  inferInstanceAs (Decidable (_ ∨ _))

/-- A path begins what paths below it begin with. -/
theorem glyphs_isPrefix_asPrefix (path : Text) : path.glyphs <+: path.asPrefix.glyphs := by
  unfold asPrefix
  split
  · exact List.prefix_rfl
  · exact List.prefix_append _ _

/-- A name is put after that, unless it begins with a slash. -/
theorem joinPath_of_not_startsWith {name : Text} (h : name.startsWith '/' = false) (parent : Text) :
    parent.joinPath name = parent.asPrefix ++ name := by
  unfold joinPath asPrefix
  rw [if_neg (by rw [h]; exact Bool.false_ne_true)]
  split
  · rfl
  · rfl

/-- A name that begins with a slash stands for itself. -/
theorem joinPath_of_startsWith {name : Text} (h : name.startsWith '/' = true) (parent : Text) :
    parent.joinPath name = name :=
  if_pos h

namespace IsUnder

variable {path parent root name : Text}

/-- What is below something below a path is below that path. -/
theorem trans (h : path.IsUnder parent) (h' : parent.IsUnder root) : path.IsUnder root := by
  rcases h with rfl | h
  · exact h'
  · rcases h' with rfl | h'
    · exact .inr h
    · exact .inr (h'.trans ((glyphs_isPrefix_asPrefix parent).trans h))

/-- A child is under its directory, unless its name begins with a slash. -/
theorem joinPath (h : name.startsWith '/' = false) (parent : Text) :
    (parent.joinPath name).IsUnder parent := by
  rw [joinPath_of_not_startsWith h]
  exact .inr (List.prefix_append _ _)

end IsUnder

end Text

/-! ## What listings bring -/

namespace Tree

variable {S : Type}

/-- A listing of a directory brings a name, in some state of the tree. -/
def Lists (tree : Tree S) (path name : Text) : Prop :=
  ∃ s listing, ((tree.list path).run s).1 = .ok listing ∧ ∃ stats ∈ listing.entries, stats.name = name

/-- A listing brings a name that leads out of a root: it begins with a slash and is not under the root. -/
structure Strays (tree : Tree S) (root path name : Text) : Prop where
  /-- The name is listed. -/
  lists : tree.Lists path name
  /-- It begins with a slash. -/
  absolute : name.startsWith '/' = true
  /-- It is not under the root. -/
  outside : ¬ name.IsUnder root

/-- A path that a walk may visit: it is under the root, or under a name that leads out of it and was
listed in a directory that the walk has visited. -/
def Reaches (tree : Tree S) (root : Text) (seen : List WalkEntry) (path : Text) : Prop :=
  path.IsUnder root ∨ ∃ e ∈ seen, ∃ name, tree.Strays root e.path name ∧ path.IsUnder name

variable {tree : Tree S} {root path : Text} {seen more : List WalkEntry}

/-- The root may be visited. -/
theorem reaches_root (tree : Tree S) (root : Text) (seen : List WalkEntry) :
    tree.Reaches root seen root :=
  .inl (.inl rfl)

/-- What may be visited may be visited later. -/
theorem Reaches.mono (h : tree.Reaches root seen path) (hmore : ∀ e ∈ seen, e ∈ more) :
    tree.Reaches root more path := by
  rcases h with h | ⟨e, he, hname⟩
  · exact .inl h
  · exact .inr ⟨e, hmore e he, hname⟩

/-- The children of a directory that was visited may be visited. -/
theorem Reaches.child {e : WalkEntry} (h : tree.Reaches root seen e.path) (he : e ∈ seen) {name : Text}
    (hname : tree.Lists e.path name) : tree.Reaches root seen (e.path.joinPath name) := by
  by_cases habsolute : name.startsWith '/' = true
  · -- the name replaces the directory
    rw [Text.joinPath_of_startsWith habsolute]
    by_cases hunder : name.IsUnder root
    · exact .inl hunder
    · exact .inr ⟨e, he, name, ⟨hname, habsolute, hunder⟩, .inl rfl⟩
  · have hbelow := Text.IsUnder.joinPath (eq_false_of_ne_true habsolute) e.path
    rcases h with h | ⟨d, hd, stray, hstray, h⟩
    · exact .inl (hbelow.trans h)
    · exact .inr ⟨d, hd, stray, hstray, hbelow.trans h⟩

end Tree

/-! ## Walks -/

namespace Walk

variable {S : Type} {tree : Tree S} {root : Text} {seen : List WalkEntry} {w w' : Walker} {k k' : Walk}
  {s s' : S} {e : WalkEntry}

/-- What a walk keeps: the entry visited last is one of those seen, and it and those still to be visited
have paths that may be visited. -/
structure Within (tree : Tree S) (root : Text) (seen : List WalkEntry) (k : Walk) : Prop where
  /-- The entry visited last has been seen, -/
  last : ∀ e, k.last = some e → e ∈ seen ∧ tree.Reaches root seen e.path
  /-- and the others may be. -/
  stack : ∀ e ∈ k.stack, tree.Reaches root seen e.path

/-- A visit keeps it if it goes on with the same root from an entry that may be visited. -/
structure Advances (tree : Tree S) (root : Text) (seen : List WalkEntry) (outcome : Visit × State S) :
    Prop where
  /-- The walker has the root that it had. -/
  keeps : outcome.2.1.root = root
  /-- If there is an entry, it may be visited, and the walk goes on from it. -/
  entry : ∀ e, outcome.1 = .entry e →
    tree.Reaches root seen e.path ∧ Within tree root (e :: seen) outcome.2.2.1

/-- The uppermost entry of a stack of entries that may be visited may be visited. -/
theorem advances_pop (hroot : w.root = root) (hstack : ∀ e ∈ k.stack, tree.Reaches root seen e.path)
    (s : S) : Advances tree root seen (pop w k s) := by
  cases hk : k.stack with
  | nil =>
    rw [pop_nil w hk]
    exact ⟨hroot, fun _ h => nomatch h⟩
  | cons e stack =>
    rw [hk] at hstack
    have he := hstack e List.mem_cons_self
    obtain ⟨_, hpop⟩ := pop_cons w hk s
    rw [hpop]
    refine ⟨hroot, ?_⟩
    rintro _ ⟨⟩
    refine ⟨he, fun _ hlast => ?_, fun other hother => ?_⟩
    · obtain rfl := Option.some.inj hlast
      exact ⟨List.mem_cons_self, he.mono fun _ => List.mem_cons_of_mem _⟩
    · exact (hstack other (List.mem_cons_of_mem _ hother)).mono fun _ => List.mem_cons_of_mem _

/-- A walk begins at its root. -/
theorem advances_enter (tree : Tree S) (seen : List WalkEntry) (hroot : w.root = root) (s : S) :
    Advances tree root seen (enter tree w s) := by
  have hstart : ∀ e : WalkEntry, e.path = w.root → ∀ other ∈ [e], tree.Reaches root seen other.path := by
    intro e he other hother
    rw [List.mem_singleton.mp hother, he, hroot]
    exact tree.reaches_root root seen
  unfold enter
  rcases (tree.lstat w.root).run s with ⟨f | stats, t⟩
  · simp only
    split
    · exact advances_pop (w := w.note f) hroot (hstart _ rfl) t
    · exact ⟨hroot, fun _ h => nomatch h⟩
  · exact advances_pop hroot (hstart _ rfl) t

/-- Children are those of a listing that came to its end. -/
theorem exists_listing {result : Except Fault Listing} {children : List FileStats}
    (h : result.bind Listing.complete = .ok children) :
    ∃ listing, result = .ok listing ∧ listing.entries = children := by
  rcases result with f | ⟨entries, fault⟩
  · cases h
  · cases fault with
    | some f => cases h
    | none => exact ⟨_, rfl, Except.ok.inj h⟩

/-- A directory that was visited and cannot be listed is met again, or that is the end of the walk. -/
theorem advances_unlisted (hroot : w.root = root) (hpath : tree.Reaches root seen e.path)
    (hstack : ∀ e ∈ k.stack, tree.Reaches root seen e.path) (f : Fault) (s : S) :
    Advances tree root seen
      (if f.isSystem then
        pop (w.note f) { k with stack := { e with fault := some f } :: k.stack } s
      else
        (.raised f, w, { k with last := none, stack := [] }, s)) := by
  split
  · refine advances_pop (w := w.note f) hroot (fun other hother => ?_) s
    rcases List.mem_cons.mp hother with rfl | hother
    · exact hpath
    · exact hstack other hother
  · exact ⟨hroot, fun _ h => nomatch h⟩

/-- Going down into a directory that was visited, a walk meets its children or itself. -/
theorem advances_descend (hroot : w.root = root) (he : e ∈ seen) (hpath : tree.Reaches root seen e.path)
    (hstack : ∀ e ∈ k.stack, tree.Reaches root seen e.path) (s : S) :
    Advances tree root seen (descend tree e w k s) := by
  unfold descend
  rcases hlist : (tree.list e.path).run s with ⟨result, t⟩
  simp only
  cases hchildren : result.bind Listing.complete with
  | error f => exact advances_unlisted hroot hpath hstack f t
  | ok children =>
    obtain ⟨listing, rfl, rfl⟩ := exists_listing hchildren
    refine advances_pop hroot (fun other hother => ?_) t
    rcases List.mem_append.mp hother with hchild | hother
    · obtain ⟨stats, hstats, hother⟩ := mem_childEntries hchild
      rw [hother]
      exact hpath.child he ⟨s, listing, by rw [hlist], stats, hstats, rfl⟩
    · exact hstack other hother

/-- A walk that has not begun keeps it. -/
theorem within_begin (tree : Tree S) (root : Text) : Within tree root [] {} where
  last _ h := nomatch h
  stack _ h := nomatch h

/-- **Every visit keeps a walk within what it may visit.** -/
theorem Within.next (h : Within tree root seen k) (hroot : w.root = root) (s : S) :
    Advances tree root seen (next tree (w, k, s)) := by
  unfold Walk.next
  simp only
  by_cases hstarted : k.started = true
  · rw [hstarted]
    cases hlast : k.last with
    | none => exact ⟨hroot, fun _ h => nomatch h⟩
    | some e =>
      obtain ⟨he, hpath⟩ := h.last e hlast
      simp only [Bool.not_true, Bool.false_eq_true, if_false]
      split
      · split
        · exact ⟨hroot, fun _ h => nomatch h⟩
        · exact advances_pop hroot h.stack s
      · split
        · exact advances_pop hroot h.stack s
        · exact advances_descend hroot he hpath h.stack s
  · rw [eq_false_of_ne_true hstarted]
    exact advances_enter tree seen hroot s

/-- However long a walk goes on, what is visited may be. -/
theorem Within.visitMore (skipped : List Nat) {more : Nat} (h : Within tree root seen k)
    (hroot : w.root = root) (hseen : ∀ e ∈ seen, tree.Reaches root seen e.path) (s : S) :
    ∀ e ∈ (visitMore tree skipped more seen (w, k, s)).1.entries,
      tree.Reaches root (Walk.visitMore tree skipped more seen (w, k, s)).1.entries e.path := by
  have hreverse : ∀ e ∈ seen.reverse, tree.Reaches root seen.reverse e.path := fun e he =>
    (hseen e (List.mem_reverse.mp he)).mono fun _ => List.mem_reverse.mpr
  induction more generalizing seen w k s with
  | zero => exact hreverse
  | succ more ih =>
    obtain ⟨hroot', hentry⟩ := h.next hroot s
    rw [Walk.visitMore]
    rcases hnext : Walk.next tree (w, k, s) with ⟨e | _ | f, w', k', s'⟩
    · rw [hnext] at hroot' hentry
      obtain ⟨hpath, hwithin⟩ := hentry e rfl
      have hseen' : ∀ d ∈ e :: seen, tree.Reaches root (e :: seen) d.path := by
        intro d hd
        rcases List.mem_cons.mp hd with rfl | hd
        · exact hpath.mono fun _ => List.mem_cons_of_mem _
        · exact (hseen d hd).mono fun _ => List.mem_cons_of_mem _
      refine ih hwithin ?_ hseen' s' fun d hd =>
        (hseen' d (List.mem_reverse.mp hd)).mono fun _ => List.mem_reverse.mpr
      split
      · exact hroot'
      · exact hroot'
    · exact hreverse
    · exact hreverse

/-- **A walk gets out of its root only through names that begin with a slash.** Whatever the tree is,
from whatever root, and however the walk is cut short, every path that is visited is under the root, or
under a name that begins with a slash, is not under the root, and was listed in a directory that was
visited. -/
theorem visit_contained (tree : Tree S) (skipped : List Nat) (limit : Nat) (w : Walker) (s : S) :
    ∀ e ∈ (visit tree skipped limit w s).1.entries, e.path.IsUnder w.root ∨
      ∃ d ∈ (visit tree skipped limit w s).1.entries, ∃ name, tree.Lists d.path name ∧
        name.startsWith '/' = true ∧ ¬ name.IsUnder w.root ∧ e.path.IsUnder name := by
  have hvisit : (visit tree skipped limit w s).1 = (Walk.visitMore tree skipped limit [] (w, {}, s)).1 :=
    rfl
  rw [hvisit]
  intro e he
  rcases (within_begin tree w.root).visitMore skipped rfl (fun _ h => nomatch h) s e he with h | ⟨d, hd, name, hstrays, h⟩
  · exact .inl h
  · exact .inr ⟨d, hd, name, hstrays.lists, hstrays.absolute, hstrays.outside, h⟩

/-- A directory whose listing has a name that begins with a slash. -/
def strayTable : FileTable where
  lstat _ := .ok { name := "r", mode := some 0o40755 }
  list _ := .ok { entries := [{ name := "/etc", mode := some 0o100644 }] }

/-- A walk from it visits an entry under a name that was listed and is not under the root. -/
theorem visit_contained_strayTable :
    ∃ e ∈ (visit strayTable.tree [] 3 { root := "/r" } []).1.entries,
      ∃ d ∈ (visit strayTable.tree [] 3 { root := "/r" } []).1.entries,
        ∃ name, strayTable.tree.Lists d.path name ∧ name.startsWith '/' = true ∧
          ¬ name.IsUnder "/r" ∧ e.path.IsUnder name := by
  obtain ⟨e, he, hout⟩ : ∃ e ∈ (visit strayTable.tree [] 3 { root := "/r" } []).1.entries,
      ¬ e.path.IsUnder "/r" := by
    decide +kernel
  exact ⟨e, he, (visit_contained strayTable.tree [] 3 { root := "/r" } [] e he).resolve_left hout⟩

/-- A walk from it visits what is not under it. -/
theorem visit_strayTable :
    ∃ e ∈ (visit strayTable.tree [] 3 { root := "/r" } []).1.entries, ¬ e.path.IsUnder "/r" := by
  decide +kernel

end Walk

end Sftp
