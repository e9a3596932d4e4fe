import Sftp.OpenDirectory

/-!
# Walking a tree

A walk visits a tree of files from a root, a directory before what is in it, the children of a
directory in the order of their names. It needs only two things of a tree: the statistics of a path
and the listing of a directory (`Tree`).

The consumer takes entries one at a time (`Walk.next`) and may ask, after an entry, that its
directory be left out. A directory that cannot be listed is visited a second time, with the fault;
a root that cannot be looked at is visited once, with the fault. Only failures of the system or the
server become entries; any other fault ends the walk.

A walk asks whether what it visited is a directory (`FileStats.isDirectory`) without regard to a mode that is no 32-bit
number, for which there is a fault (`FileStats.fault?`). No server sends such a mode; of a tree of another kind, the
modes are taken to be 32-bit numbers.
-/

namespace Sftp

/-- A tree of files, by what can be asked of it. -/
structure Tree (S : Type) where
  /-- The statistics of a path itself. -/
  lstat : Text → Step S FileStats
  /-- The entries of a directory. They come one by one, so a fault may follow some of them. -/
  list : Text → Step S Listing

/-- The remote tree of a client. -/
def Client.tree {σ : Type} : Tree (Client σ) where
  lstat := Client.lstat
  list path := Client.list path

/-- One visit of a walk. -/
structure WalkEntry where
  /-- The path. -/
  path : Text
  /-- Its statistics, unless the root could not be looked at. -/
  stats : Option FileStats
  /-- The fault that is reported. -/
  fault : Option Fault := none
  deriving DecidableEq

/-- How often a walk can start again and what it has met so far. -/
structure Walker where
  /-- Where the walk starts. -/
  root : Text
  /-- Whether the walk ends after its first fault. -/
  stopOnFault : Bool := false
  /-- Whether the directory visited last is to be left out. -/
  skipping : Bool := false
  /-- The faults met so far, over all walks. -/
  faults : List Fault := []
  /-- The fault met first, if there was one. -/
  first? : Option Fault := none

/-- Where a walk stands. -/
structure Walk where
  /-- Whether the root has been looked at. -/
  started : Bool := false
  /-- The entry visited last, unless the walk has not begun. -/
  last : Option WalkEntry := none
  /-- The entries still to be visited, next first. -/
  stack : List WalkEntry := []

/-- What comes next in a walk. -/
inductive Visit
  /-- An entry. -/
  | entry (e : WalkEntry)
  /-- Nothing: the walk is over. -/
  | done
  /-- A fault that ends the walk. -/
  | raised (f : Fault)

namespace Walker

/-- Leaves out the directory visited last. -/
def skip (w : Walker) : Walker :=
  { w with skipping := true }

/-- Keeps a fault; the first one also by itself. -/
def note (w : Walker) (f : Fault) : Walker :=
  { w with
    faults := w.faults ++ [f]
    first? := if w.first?.isNone then some f else w.first? }

end Walker

/-- The children of a directory as entries, in the order of their names; children of one name stay
in the order of the listing. -/
def childEntries (parent : Text) (children : List FileStats) : List WalkEntry :=
  (children.mergeSort fun a b => a.name.le b.name).map fun s =>
    { path := parent.joinPath s.name, stats := some s }

/-- The entries of a listing that came to its end. -/
def Listing.complete (l : Listing) : Except Fault (List FileStats) :=
  match l.fault with
  | some f => .error f
  | none => .ok l.entries

namespace Walk

variable {S : Type}

/-- A walker, where its walk stands, and the tree. -/
abbrev State (S : Type) : Type := Walker × Walk × S

/-- Visits the next entry of the stack. -/
def pop (w : Walker) (k : Walk) (s : S) : Visit × State S :=
  match k.stack with
  | [] => (.done, w, { k with last := none }, s)
  | e :: stack =>
    let w := if e.stats.isNone then w else { w with skipping := false }
    (.entry e, w, { k with last := some e, stack }, s)

/-- Looks at the root. -/
def enter (tree : Tree S) (w : Walker) (s : S) : Visit × State S :=
  match (tree.lstat w.root).run s with
  | (.ok stats, s) => pop w { started := true, stack := [⟨w.root, some stats, none⟩] } s
  | (.error f, s) =>
    if f.isSystem then
      pop (w.note f) { started := true, stack := [⟨w.root, none, some f⟩] } s
    else
      (.raised f, w, { started := true }, s)

/-- Goes down into the directory visited last. -/
def descend (tree : Tree S) (e : WalkEntry) (w : Walker) (k : Walk) (s : S) : Visit × State S :=
  let (result, s) := (tree.list e.path).run s
  match result.bind Listing.complete with
  | .ok children => pop w { k with stack := childEntries e.path children ++ k.stack } s
  | .error f =>
    if f.isSystem then
      pop (w.note f) { k with stack := { e with fault := some f } :: k.stack } s
    else
      (.raised f, w, { k with last := none, stack := [] }, s)

/-- The next visit of a walk. -/
def next (tree : Tree S) : State S → Visit × State S
  | (w, k, s) =>
    if !k.started then
      enter tree w s
    else
      match k.last with
      | none => (.done, w, k, s)
      | some e =>
        if e.fault.isSome then
          if w.stopOnFault then (.done, w, { k with last := none, stack := [] }, s) else pop w k s
        else if w.skipping || !(e.stats.any FileStats.isDirectory) then
          pop w k s
        else
          descend tree e w k s

/-- What the consumer of a walk has seen. -/
structure Seen where
  /-- The entries, in order. -/
  entries : List WalkEntry
  /-- The fault that ended the walk, if one did. -/
  fault : Option Fault := none
  /-- Whether the consumer stopped before the walk was over. -/
  stopped : Bool := false

/-- Takes up to so many more entries and leaves out the directories at the places of `skipped`;
`seen` are the entries so far, latest first. -/
def visitMore (tree : Tree S) (skipped : List Nat) :
    Nat → List WalkEntry → State S → Seen × State S
  | 0, seen, state => ({ entries := seen.reverse, stopped := true }, state)
  | more + 1, seen, state =>
    match next tree state with
    | (.done, state) => ({ entries := seen.reverse }, state)
    | (.raised f, state) => ({ entries := seen.reverse, fault := some f }, state)
    | (.entry e, w, rest) =>
      let w := if skipped.contains seen.length then w.skip else w
      visitMore tree skipped more (e :: seen) (w, rest)

/-- Walks from the root until the walk is over or there are `limit` entries, and leaves out the
directories at the places of `skipped`. -/
def visit (tree : Tree S) (skipped : List Nat) (limit : Nat) (w : Walker) (s : S) :
    Seen × Walker × S :=
  let (seen, w, _, s) := visitMore tree skipped limit [] (w, {}, s)
  (seen, w, s)

end Walk

end Sftp
