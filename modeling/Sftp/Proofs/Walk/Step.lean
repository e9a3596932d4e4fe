import Mathlib.Data.List.Basic
import Sftp.Walk

/-!
# One visit of a walk

All that a visit can do: it asks the tree for one thing at most, puts what comes of it on the stack, and hands
out what is uppermost then; or it ends the walk.

* `Walk.mem_childEntries` — what is put on the stack for a directory; `Walk.pop_cons`, `Walk.last_of_pop` — the
  uppermost entry is handed out.
* `Walk.Comes`, **`Walk.next_comes`** — what a visit comes to, whatever the tree is.
* `Walk.last_of_next` — the entry that is handed out is the one visited last.
-/

namespace Sftp

variable {S : Type}

/-- The entry that a visit hands out, if it is one. -/
def Visit.handed? : Visit → Option WalkEntry
  | entry e => some e
  | done | raised _ => none

/-- At most one thing is asked of a tree. -/
inductive Tree.Asked (tree : Tree S) (s : S) : S → Prop
  /-- Nothing is asked. -/
  | nothing : Asked tree s s
  /-- The statistics of a path are. -/
  | lstat (path : Text) : Asked tree s ((tree.lstat path).run s).2
  /-- The entries of a directory are. -/
  | list (path : Text) : Asked tree s ((tree.list path).run s).2

namespace Walk

variable {w : Walker} {k : Walk} {s : S}

/-! ## On the stack -/

/-- The children of a directory are its entries, and have no faults. -/
theorem mem_childEntries {parent : Text} {children : List FileStats} {e : WalkEntry}
    (h : e ∈ childEntries parent children) :
    ∃ stats ∈ children, e = { path := parent.joinPath stats.name, stats := some stats } := by
  obtain ⟨stats, hstats, rfl⟩ := List.mem_map.mp h
  exact ⟨stats, List.mem_mergeSort.mp hstats, rfl⟩

/-! ## Off the stack -/

/-- The uppermost entry of the stack is handed out. -/
theorem pop_cons (w : Walker) {e : WalkEntry} {stack : List WalkEntry} (h : k.stack = e :: stack) (s : S) :
    ∃ isLeftOut, pop w k s =
      (.entry e, { w with skipping := isLeftOut }, { k with last := some e, stack }, s) := by
  unfold pop
  rw [h]
  dsimp only
  split
  · exact ⟨w.skipping, rfl⟩
  · exact ⟨false, rfl⟩

/-- If there is none, the walk is over. -/
theorem pop_nil (w : Walker) (h : k.stack = []) (s : S) :
    pop w k s = (.done, w, { k with last := none }, s) := by
  unfold pop
  rw [h]

/-- Nothing is asked of the tree for that. -/
theorem state_pop (w : Walker) (k : Walk) (s : S) : (pop w k s).2.2.2 = s := by
  cases h : k.stack with
  | nil => rw [pop_nil w h]
  | cons e stack =>
    obtain ⟨_, hpop⟩ := pop_cons w h s
    rw [hpop]

/-- The entry that is handed out is the one visited last. -/
theorem last_of_pop {w' : Walker} {k' : Walk} {s' : S} {e : WalkEntry}
    (h : pop w k s = (.entry e, w', k', s')) : k'.started = k.started ∧ k'.last = some e := by
  cases hstack : k.stack with
  | nil =>
    rw [pop_nil w hstack] at h
    cases h
  | cons d stack =>
    obtain ⟨_, hpop⟩ := pop_cons w hstack s
    rw [hpop] at h
    cases h
    exact ⟨rfl, rfl⟩

/-! ## What a visit comes to -/

/-- What a visit comes to that leaves the tree in a state. -/
inductive Comes (w : Walker) (k : Walk) (s : S) : Visit × State S → Prop
  /-- The walk is over. -/
  | finishes {k' : Walk} (hstack : k'.stack ⊆ k.stack) : Comes w k s (.done, w, k', s)
  /-- The uppermost entry is handed out. Those that were put on the stack before have no faults. -/
  | goes {k' : Walk} (hstarted : k'.started = true)
      (hstack : ∀ e ∈ k'.stack, e ∈ k.stack ∨ e.fault = none) : Comes w k s (pop w k' s)
  /-- A fault is kept, and the entry that reports it is handed out. -/
  | reports {k' : Walk} {f : Fault} {e : WalkEntry} {stack : List WalkEntry} (hf : f.isSystem = true)
      (he : e.fault = some f) (hstarted : k'.started = true) (hk' : k'.stack = e :: stack)
      (hstack : stack ⊆ k.stack) : Comes w k s (pop (w.note f) k' s)
  /-- A fault ends the walk. -/
  | raises {k' : Walk} {f : Fault} (hf : f.isSystem = false) (hstack : k'.stack = []) :
      Comes w k s (.raised f, w, k', s)

/-- A fault is reported or ends the walk. -/
theorem comes_fault (w : Walker) {k k₁ k₂ : Walk} {f : Fault} {e : WalkEntry} {stack : List WalkEntry}
    (he : e.fault = some f) (hstarted : k₁.started = true) (hk₁ : k₁.stack = e :: stack)
    (hstack : stack ⊆ k.stack) (hk₂ : k₂.stack = []) (s : S) :
    Comes w k s (if f.isSystem then pop (w.note f) k₁ s else (.raised f, w, k₂, s)) := by
  split
  · rename_i hf
    exact .reports hf he hstarted hk₁ hstack
  · rename_i hf
    exact .raises (Bool.eq_false_iff.mpr hf) hk₂

/-- **All that a visit can do.** -/
theorem next_comes (tree : Tree S) (w : Walker) (k : Walk) (s : S) :
    ∃ s', tree.Asked s s' ∧ Comes w k s' (next tree (w, k, s)) := by
  unfold next
  simp only
  by_cases hstarted : k.started = true
  · rw [hstarted]
    simp only [Bool.not_true, Bool.false_eq_true, if_false]
    have hpop : Comes w k s (pop w k s) := .goes hstarted fun e he => .inl he
    split
    · exact ⟨s, .nothing, .finishes (List.Subset.refl _)⟩
    · split
      · split
        · exact ⟨s, .nothing, .finishes (List.nil_subset _)⟩
        · exact ⟨s, .nothing, hpop⟩
      · split
        · exact ⟨s, .nothing, hpop⟩
        · rename_i e _ _ _
          refine ⟨_, .list e.path, ?_⟩
          unfold descend
          simp only
          cases ((tree.list e.path).run s).1.bind Listing.complete with
          | error f =>
            refine comes_fault w (e := { e with fault := some f }) rfl ?_ ?_ (List.Subset.refl _) ?_ _
            · exact hstarted
            · rfl
            · rfl
          | ok children =>
            refine .goes ?_ fun child hchild => ?_
            · exact hstarted
            · refine (List.mem_append.mp hchild).symm.imp_right fun hchild => ?_
              obtain ⟨stats, -, rfl⟩ := mem_childEntries hchild
              rfl
  · rw [eq_false_of_ne_true hstarted]
    simp only [Bool.not_false, if_true]
    refine ⟨_, .lstat w.root, ?_⟩
    unfold enter
    rcases (tree.lstat w.root).run s with ⟨f | stats, s'⟩
    · refine comes_fault w (e := ⟨w.root, none, some f⟩) rfl ?_ ?_ (List.nil_subset _) ?_ s'
      · rfl
      · rfl
      · rfl
    · refine .goes ?_ fun e he => .inr ?_
      · rfl
      · rw [List.mem_singleton.mp he]

/-- The state of the tree is the one that it is left in. -/
theorem Comes.state {outcome : Visit × State S} (h : Comes w k s outcome) : outcome.2.2.2 = s := by
  cases h with
  | finishes => rfl
  | goes => exact state_pop w _ s
  | reports => exact state_pop _ _ s
  | raises => rfl

/-- The entry that is handed out is the one visited last. -/
theorem last_of_next {tree : Tree S} {st : State S} {w : Walker} {k : Walk} {s : S} {e : WalkEntry}
    (h : next tree st = (.entry e, w, k, s)) : k.started = true ∧ k.last = some e := by
  obtain ⟨s', -, hcomes⟩ := next_comes tree st.1 st.2.1 st.2.2
  generalize houtcome : next tree (st.1, st.2.1, st.2.2) = outcome at hcomes
  obtain rfl : outcome = (.entry e, w, k, s) := houtcome.symm.trans h
  generalize houtcome' : ((.entry e, w, k, s) : Visit × State S) = outcome at hcomes
  cases hcomes with
  | finishes => cases houtcome'
  | raises => cases houtcome'
  | goes hstarted =>
    obtain ⟨hkept, hlast⟩ := last_of_pop houtcome'.symm
    exact ⟨hkept.trans hstarted, hlast⟩
  | reports _ _ hstarted =>
    obtain ⟨hkept, hlast⟩ := last_of_pop houtcome'.symm
    exact ⟨hkept.trans hstarted, hlast⟩

end Walk

end Sftp
