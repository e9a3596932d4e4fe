import Mathlib.Data.List.Perm.Subperm
import Sftp.Exchange

/-!
# New ids

A new id is looked for from the counter on, one number after another, modulo the number of ids. One try
more than there are requests is enough: the ids that are tried are distinct, so not all of them are taken,
unless all ids are.

* `Exchange.FirstFree` — how many ids are skipped from a counter on, up to the first that is free.
* **`Exchange.searchId_cases`** — a search finds the first free id, or all that it tries are taken.
* `Exchange.length_le_of_taken` — ids that follow each other are distinct, so no more of them are taken than
  there are requests.
* **`Exchange.nextId_eq_none_iff`** — no id is found exactly if all are taken.
-/

namespace Sftp

namespace Exchange

variable {x : Exchange} {id counter : Int} {skipped tries : Nat}

/-- An id is taken if a request in the table has it. -/
theorem isPending_iff : x.isPending id = true ↔ id ∈ x.pending.map Prod.fst := by
  unfold isPending
  rw [List.any_eq_true, List.mem_map]
  constructor
  · rintro ⟨e, he, hid⟩
    exact ⟨e, he, of_decide_eq_true hid⟩
  · rintro ⟨e, he, hid⟩
    exact ⟨e, he, decide_eq_true hid⟩

/-- An id is free if no request in the table has it. -/
theorem isPending_eq_false_iff : x.isPending id = false ↔ ∀ e ∈ x.pending, e.1 ≠ id := by
  unfold isPending
  rw [List.any_eq_false]
  constructor
  · intro h e he hid
    exact h e he (decide_eq_true hid)
  · intro h e he hid
    exact h e he (of_decide_eq_true hid)

/-- From a counter on, so many ids are taken, and the one after them is free. -/
structure FirstFree (x : Exchange) (counter : Int) (skipped : Nat) : Prop where
  /-- The ids before it are taken. -/
  taken : ∀ i < skipped, x.isPending ((counter + i) % idCount) = true
  /-- It is free. -/
  free : x.isPending ((counter + skipped) % idCount) = false

/-- What follows the next number is what comes later from this one. -/
theorem emod_succ (counter : Int) (i : Nat) :
    (counter + 1 + i) % idCount = (counter + (i + 1 : Nat)) % idCount := by
  rw [Int.add_assoc, Int.add_comm 1, Int.natCast_succ]

/-- If a number is taken, the first free one is found from the next on. -/
theorem FirstFree.succ (htaken : x.isPending (counter % idCount) = true)
    (h : x.FirstFree (counter + 1) skipped) : x.FirstFree counter (skipped + 1) where
  taken i hi := by
    cases i with
    | zero =>
      rw [Int.natCast_zero, Int.add_zero]
      exact htaken
    | succ i =>
      rw [← emod_succ]
      exact h.taken i (Nat.lt_of_succ_lt_succ hi)
  free := by
    rw [← emod_succ]
    exact h.free

/-- From a counter on, only one id is the first that is free. -/
theorem FirstFree.unique (h : x.FirstFree counter skipped) {others : Nat}
    (h' : x.FirstFree counter others) : skipped = others := by
  rcases Nat.lt_trichotomy skipped others with hlt | heq | hlt
  · cases (h'.taken skipped hlt).symm.trans h.free
  · exact heq
  · cases (h.taken others hlt).symm.trans h'.free

/-- **A search finds the first free id** and leaves the counter after it, or all ids that it tries are
taken. -/
theorem searchId_cases (x : Exchange) (tries : Nat) (counter : Int) :
    (∃ skipped < tries, x.FirstFree counter skipped ∧ x.searchId tries counter =
      (some ((counter + skipped) % idCount), counter + skipped + 1)) ∨
    ((∀ i < tries, x.isPending ((counter + (i : Nat)) % idCount) = true) ∧
      x.searchId tries counter = (none, counter + tries)) := by
  induction tries generalizing counter with
  | zero =>
    refine .inr ⟨nofun, ?_⟩
    rw [Int.natCast_zero, Int.add_zero]
    rfl
  | succ tries ih =>
    rw [searchId]
    by_cases htaken : x.isPending (counter % idCount) = true
    · rw [if_pos htaken]
      rcases ih (counter + 1) with ⟨skipped, hlt, hfirst, hfound⟩ | ⟨hall, hnone⟩
      · refine .inl ⟨skipped + 1, Nat.succ_lt_succ hlt, hfirst.succ htaken, ?_⟩
        rw [hfound, emod_succ, Int.natCast_succ, Int.add_assoc counter, Int.add_comm 1]
      · refine .inr ⟨fun i hi => ?_, ?_⟩
        · cases i with
          | zero =>
            rw [Int.natCast_zero, Int.add_zero]
            exact htaken
          | succ i =>
            rw [← emod_succ]
            exact hall i (Nat.lt_of_succ_lt_succ hi)
        · rw [hnone, Int.add_assoc, Int.add_comm 1, Int.natCast_succ]
    · refine .inl ⟨0, Nat.zero_lt_succ tries, ⟨nofun, ?_⟩, ?_⟩
      · rw [Int.natCast_zero, Int.add_zero]
        exact Bool.eq_false_iff.mpr htaken
      · rw [if_neg htaken, Int.natCast_zero, Int.add_zero]

/-- A search depends only on which ids are taken. -/
theorem searchId_congr {y : Exchange} (h : ∀ id, y.isPending id = x.isPending id) (tries : Nat)
    (counter : Int) : y.searchId tries counter = x.searchId tries counter := by
  induction tries generalizing counter with
  | zero => rfl
  | succ tries ih => rw [searchId, searchId, h, ih]

/-- Ids that follow each other are distinct, so no more of them are taken than there are requests. -/
theorem length_le_of_taken (htries : tries ≤ idCount.toNat)
    (h : ∀ i < tries, x.isPending ((counter + (i : Nat)) % idCount) = true) :
    tries ≤ x.pending.length := by
  have hdistinct : ((List.range tries).map fun i : Nat => (counter + i) % idCount).Nodup := by
    rw [List.Nodup, List.pairwise_map]
    refine List.pairwise_lt_range.imp_of_mem fun {i j} hi hj hlt => ?_
    rw [List.mem_range] at hi hj
    simp only [idCount] at htries ⊢
    omega
  have htaken : ((List.range tries).map fun i : Nat => (counter + i) % idCount) ⊆
      x.pending.map Prod.fst := by
    intro id hid
    obtain ⟨i, hi, rfl⟩ := List.mem_map.mp hid
    exact isPending_iff.mp (h i (List.mem_range.mp hi))
  have hle := (hdistinct.subperm htaken).length_le
  rwa [List.length_map, List.length_map, List.length_range] at hle

/-! ## The next id -/

/-- Looking for an id moves the counter and nothing else. -/
theorem nextId_eq (x : Exchange) :
    x.nextId = ((x.searchId (x.pending.length + 1) x.counter).1,
      { x with counter := (x.searchId (x.pending.length + 1) x.counter).2 }) := rfl

/-- **The next id is the first free one**, and at most as many are skipped as there are requests, or there
is none. -/
theorem nextId_cases (x : Exchange) :
    (∃ skipped ≤ x.pending.length, x.FirstFree x.counter skipped ∧ x.nextId =
      (some ((x.counter + skipped) % idCount), { x with counter := x.counter + skipped + 1 })) ∨
    ((∀ i < x.pending.length + 1, x.isPending ((x.counter + (i : Nat)) % idCount) = true) ∧
      x.nextId = (none, { x with counter := x.counter + (x.pending.length + 1 : Nat) })) := by
  rw [nextId_eq]
  rcases x.searchId_cases (x.pending.length + 1) x.counter with
    ⟨skipped, hlt, hfirst, hfound⟩ | ⟨hall, hnone⟩
  · refine .inl ⟨skipped, Nat.le_of_lt_succ hlt, hfirst, ?_⟩
    rw [hfound]
  · refine .inr ⟨hall, ?_⟩
    rw [hnone]

/-- A new id belongs to nobody. -/
theorem nextId_free (h : x.nextId.1 = some id) : ∀ e ∈ x.pending, e.1 ≠ id := by
  rcases x.nextId_cases with ⟨skipped, -, hfirst, hfound⟩ | ⟨-, hnone⟩
  · rw [hfound] at h
    obtain rfl := Option.some.inj h
    exact isPending_eq_false_iff.mp hfirst.free
  · rw [hnone] at h
    cases h

/-- A new id fits four bytes. -/
theorem nextId_range (h : x.nextId.1 = some id) : 0 ≤ id ∧ id < idCount := by
  rcases x.nextId_cases with ⟨skipped, -, -, hfound⟩ | ⟨-, hnone⟩
  · rw [hfound] at h
    obtain rfl := Option.some.inj h
    exact ⟨Int.emod_nonneg _ (by decide), Int.emod_lt_of_pos _ (by decide)⟩
  · rw [hnone] at h
    cases h

/-- **No id is found exactly if all are taken.** -/
theorem nextId_eq_none_iff :
    x.nextId.1 = none ↔ ∀ id, 0 ≤ id → id < idCount → x.isPending id = true := by
  rcases x.nextId_cases with ⟨skipped, -, hfirst, hfound⟩ | ⟨htaken, hnone⟩
  · rw [hfound]
    refine ⟨nofun, fun hall => ?_⟩
    have hpending := hall ((x.counter + skipped) % idCount) (Int.emod_nonneg _ (by decide))
      (Int.emod_lt_of_pos _ (by decide))
    cases hpending.symm.trans hfirst.free
  · rw [hnone]
    refine ⟨fun _ id hpos hlt => ?_, fun _ => rfl⟩
    -- if the tries had not gone round, they would be distinct, and one more than the requests
    have hround : idCount.toNat ≤ x.pending.length + 1 := by
      by_contra hfew
      have hle := length_le_of_taken (Nat.le_of_not_le hfew) htaken
      omega
    have hid := htaken ((id - x.counter) % idCount).toNat (by
      simp only [idCount] at hround ⊢
      omega)
    have hsame : (x.counter + (((id - x.counter) % idCount).toNat : Int)) % idCount = id := by
      simp only [idCount] at hlt ⊢
      omega
    rwa [hsame] at hid

/-- **While fewer requests wait than there are ids, a new id is found.** -/
theorem exists_nextId (hroom : x.pending.length < idCount.toNat) : ∃ id, x.nextId.1 = some id := by
  rcases x.nextId_cases with ⟨skipped, -, -, hfound⟩ | ⟨htaken, -⟩
  · exact ⟨_, congrArg Prod.fst hfound⟩
  · have hle := length_le_of_taken hroom htaken
    omega

end Exchange

end Sftp
