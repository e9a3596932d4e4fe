import Mathlib.Data.List.Lex
import Sftp.Walk

/-!
# The order of a listing

The children of a directory are visited in the order of their names, and children of one name in the
order of the listing. This file says what that order is, apart from how it is come by:

* `Text.le_iff` — texts are ordered as their code points are, lexicographically; `Text.codePoints_inj` —
  a text is known by its code points.
* `NameOrder` — one list is another, put in the order of the names.
* **`NameOrder.unique`** — there is at most one such list; **`nameOrder_mergeSort`** — sorting gives it.
-/

namespace Sftp

/-! ## Texts -/

/-- No character is a surrogate. -/
theorem Glyph.codePoint_scalar_ne (c : Char) (i : Fin 2048) :
    (scalar c).codePoint ≠ (surrogate i).codePoint := by
  intro h
  have hvalid := c.valid
  have hc : c.toNat = 0xD800 + i.val := h
  have hi := i.isLt
  simp only [UInt32.isValidChar, Nat.isValidChar, Char.toNat] at hvalid hc
  omega

/-- A glyph is known by its code point. -/
theorem Glyph.codePoint_inj {g g' : Glyph} (h : g.codePoint = g'.codePoint) : g = g' := by
  cases g with
  | scalar c =>
    cases g' with
    | scalar c' => exact congrArg scalar (Char.toNat_inj.mp h)
    | surrogate i' => exact absurd h (codePoint_scalar_ne c i')
  | surrogate i =>
    cases g' with
    | scalar c' => exact absurd h.symm (codePoint_scalar_ne c' i)
    | surrogate i' => exact congrArg surrogate (Fin.ext (Nat.add_left_cancel h))

namespace Text

/-- A text is known by its code points. -/
theorem codePoints_inj {a b : Text} (h : a.codePoints = b.codePoints) : a = b := by
  apply Text.ext
  exact (List.map_inj_right fun _ _ => Glyph.codePoint_inj).mp h

/-- Lists of numbers are ordered lexicographically. -/
theorem numbersLe_iff (as bs : List Nat) : numbersLe as bs = true ↔ as ≤ bs := by
  induction as generalizing bs with
  | nil =>
    refine iff_of_true rfl ?_
    cases bs with
    | nil => exact le_refl _
    | cons b bs => exact le_of_lt (List.nil_lt_cons b bs)
  | cons a as ih =>
    cases bs with
    | nil => simp [numbersLe]
    | cons b bs =>
      have hcons : a :: as ≤ b :: bs ↔ a < b ∨ a = b ∧ as ≤ bs := by
        rw [le_iff_lt_or_eq, le_iff_lt_or_eq, List.cons_lt_cons_iff, List.cons.injEq]
        tauto
      rw [hcons, ← ih]
      simp [numbersLe]

/-- Texts are ordered as their code points are. -/
theorem le_iff (a b : Text) : a.le b = true ↔ a.codePoints ≤ b.codePoints :=
  numbersLe_iff _ _

end Text

/-! ## Listings in order -/

/-- A list has the items of another in the order of their names, those of one name in the order that
they have there. -/
structure NameOrder (items sorted : List FileStats) : Prop where
  /-- No name is before one that comes earlier. -/
  ascending : sorted.Pairwise fun a b => a.name.codePoints ≤ b.name.codePoints
  /-- The items of each name are those of the other list, in their order. -/
  stable : ∀ name, sorted.filter (·.name = name) = items.filter (·.name = name)

namespace NameOrder

variable {items sorted sorted' : List FileStats}

/-- The items of one list in order are among those of another. -/
theorem mem_of_filter {a : FileStats}
    (h : ∀ name, sorted.filter (·.name = name) = sorted'.filter (·.name = name)) (ha : a ∈ sorted) :
    a ∈ sorted' := by
  have hmem : a ∈ sorted.filter (·.name = a.name) := by simp [ha]
  rw [h a.name] at hmem
  exact (List.mem_filter.mp hmem).1

/-- Two ascending lists with the same items of each name are one. The heads have one name, for each is
the least name of its list, and so they are the first of that name. -/
theorem eq_of_filter (hs : sorted.Pairwise fun a b => a.name.codePoints ≤ b.name.codePoints)
    (hs' : sorted'.Pairwise fun a b => a.name.codePoints ≤ b.name.codePoints)
    (h : ∀ name, sorted.filter (·.name = name) = sorted'.filter (·.name = name)) :
    sorted = sorted' := by
  induction sorted generalizing sorted' with
  | nil =>
    cases sorted' with
    | nil => rfl
    | cons b bs => exact absurd (mem_of_filter (fun n => (h n).symm) List.mem_cons_self) List.not_mem_nil
  | cons a as ih =>
    cases sorted' with
    | nil => exact absurd (mem_of_filter h List.mem_cons_self) List.not_mem_nil
    | cons b bs =>
      rw [List.pairwise_cons] at hs hs'
      have hab : a.name.codePoints ≤ b.name.codePoints := by
        rcases List.mem_cons.mp (mem_of_filter (fun n => (h n).symm) List.mem_cons_self) with rfl | hb
        · exact le_refl _
        · exact hs.1 b hb
      have hba : b.name.codePoints ≤ a.name.codePoints := by
        rcases List.mem_cons.mp (mem_of_filter h List.mem_cons_self) with rfl | ha
        · exact le_refl _
        · exact hs'.1 a ha
      have hname : a.name = b.name := Text.codePoints_inj (le_antisymm hab hba)
      have hheads := h b.name
      rw [List.filter_cons_of_pos (by simp [hname]), List.filter_cons_of_pos (by simp)] at hheads
      obtain ⟨rfl, -⟩ := List.cons.inj hheads
      congr 1
      apply ih hs.2 hs'.2
      intro name
      have hrest := h name
      by_cases hn : a.name = name
      · rw [List.filter_cons_of_pos (by simp [hn]), List.filter_cons_of_pos (by simp [hn])] at hrest
        exact (List.cons.inj hrest).2
      · rw [List.filter_cons_of_neg (by simp [hn]), List.filter_cons_of_neg (by simp [hn])] at hrest
        exact hrest

/-- **A list can be put in the order of the names in one way.** -/
theorem unique (h : NameOrder items sorted) (h' : NameOrder items sorted') : sorted = sorted' :=
  eq_of_filter h.ascending h'.ascending fun name => (h.stable name).trans (h'.stable name).symm

/-- Putting a list in order loses nothing and adds nothing. -/
theorem mem_iff (h : NameOrder items sorted) {a : FileStats} : a ∈ sorted ↔ a ∈ items :=
  ⟨mem_of_filter h.stable, mem_of_filter fun name => (h.stable name).symm⟩

end NameOrder

/-- **Sorting by name puts a list in order.** -/
theorem nameOrder_mergeSort (items : List FileStats) :
    NameOrder items (items.mergeSort fun a b => a.name.le b.name) := by
  have htrans : ∀ a b c : FileStats, a.name.le b.name = true → b.name.le c.name = true →
      a.name.le c.name = true := by
    intro a b c
    simp only [Text.le_iff]
    exact le_trans
  have htotal : ∀ a b : FileStats, (a.name.le b.name || b.name.le a.name) = true := by
    intro a b
    simp only [Bool.or_eq_true, Text.le_iff]
    exact le_total _ _
  constructor
  · have hsorted := List.pairwise_mergeSort htrans htotal items
    simpa only [Text.le_iff] using hsorted
  · intro name
    -- the items of one name are in order as they are, so sorting keeps them together
    have hequal : (items.filter (·.name = name)).Pairwise fun a b => a.name.le b.name = true := by
      rw [List.pairwise_filter]
      apply List.pairwise_of_forall
      intro a b ha hb
      apply (Text.le_iff a.name b.name).mpr
      rw [of_decide_eq_true ha, of_decide_eq_true hb]
    have hsub := (List.sublist_mergeSort htrans htotal hequal List.filter_sublist).filter
      (·.name = name)
    rw [List.filter_filter] at hsub
    simp only [Bool.and_self] at hsub
    have hperm := (List.mergeSort_perm items fun a b => a.name.le b.name).filter (·.name = name)
    exact (hsub.eq_of_length hperm.length_eq.symm).symm

end Sftp
