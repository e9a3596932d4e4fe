import Sftp.HostKeys
import Sftp.Proofs.LocalFiles.Changes
import Sftp.Surroundings.Script

/-!
# The first key is trusted

Of each host and type one key is trusted: the one that was known, or else the first that was offered. This
is the same after any number of offers of any hosts and types, whether or not the keys could be written to
their file in between.

* `KeyRing.Dependable` — every key is taken up, and only the system keeps them from being written.
* `KeyRing.trusted?` — the key that is trusted; `KeyRing.run_accept` — what becomes of one offer.
* `KeyRing.offerAll`, `KeyRing.accepted` — offers one after another, and those that are accepted;
  `KeyRing.offerAll_eq` — what becomes of all of them.
* **`KeyRing.trusts_first`** — trust on first use.
-/

namespace Sftp

namespace KeyRing

variable {σ : Type} {r next : KeyRing σ}

/-- A ring that takes up every key, and that only the system keeps from being written to its file. -/
structure Dependable (r : KeyRing σ) : Prop where
  /-- Keys are taken up. -/
  adds (host keyType key : Text) (s : σ) :
    ∃ bytes, (r.surroundings.answer (.addKey host keyType key) s).1 = .ok bytes
  /-- The system may refuse to write them. -/
  saves {path : Text} {s : σ} {f : Fault} (h : (r.surroundings.answer (.saveKeys path) s).1 = .error f) :
    f.isSystem = true
  /-- The system can be asked for the file. -/
  path : ¬ r.path.HasNull

/-- Two rings with the same file and the same outside. -/
structure Alike (r next : KeyRing σ) : Prop where
  /-- The file is the same. -/
  path : next.path = r.path
  /-- The outside answers as it did. -/
  answer : next.surroundings.answer = r.surroundings.answer

/-- A ring stays as it is in that respect. -/
theorem Alike.refl (r : KeyRing σ) : Alike r r :=
  ⟨rfl, rfl⟩

/-- One step after another. -/
theorem Alike.trans {last : KeyRing σ} (h : Alike r next) (h' : Alike next last) : Alike r last :=
  ⟨h'.path.trans h.path, h'.answer.trans h.answer⟩

/-- Such a ring is as dependable. -/
theorem Dependable.of_alike (h : r.Dependable) (halike : Alike r next) : next.Dependable where
  adds host keyType key s := by
    rw [halike.answer]
    exact h.adds host keyType key s
  saves hanswer := by
    rw [halike.answer] at hanswer
    exact h.saves hanswer
  path := by
    rw [halike.path]
    exact h.path

/-! ## Looking keys up -/

/-- The key that was remembered last is found, and the others as before. -/
theorem lookup?_of_known {k : HostKey}
    (h : next.known = k :: r.known.filter fun o => !(o.host = k.host && o.keyType = k.keyType))
    (host keyType : Text) :
    next.lookup? host keyType =
      if k.host = host ∧ k.keyType = keyType then some k.key else r.lookup? host keyType := by
  unfold lookup?
  rw [h]
  by_cases hsame : k.host = host ∧ k.keyType = keyType
  · rw [if_pos hsame, List.find?_cons_of_pos (by simp [hsame])]
    rfl
  · rw [if_neg hsame, List.find?_cons_of_neg (by simpa using hsame), List.find?_filter]
    refine congrArg (fun p => (r.known.find? p).map (·.key)) (funext fun o => ?_)
    by_cases ho : o.host = host ∧ o.keyType = keyType
    · obtain ⟨rfl, rfl⟩ := ho
      have hother : ¬ (o.host = k.host ∧ o.keyType = k.keyType) := fun heq =>
        hsame ⟨heq.1.symm, heq.2.symm⟩
      simpa using Decidable.not_and_iff_not_or_not.mp hother
    · have hnone : (decide (o.host = host) && decide (o.keyType = keyType)) = false := by simpa using ho
      simp only [hnone, Bool.false_eq_true, and_false, decide_false]

/-- The key of a host and a type that is trusted after some offers: the one that was known, or else the first
that was offered. -/
def trusted? (r : KeyRing σ) (offers : List HostKey) (host keyType : Text) : Option Text :=
  (r.lookup? host keyType).or
    ((offers.find? fun o => o.host = host && o.keyType = keyType).map (·.key))

/-- What becomes of an offer when a key is trusted. -/
def verdict (path : LocalPath) (offer : HostKey) (trusted : Option Text) : Except Fault Unit :=
  if trusted = some offer.key then .ok ()
  else .error (.hostKeyMismatch offer.keyType offer.host path.toText)

/-- After one offer. -/
theorem trusted?_singleton (r : KeyRing σ) (o : HostKey) (host keyType : Text) :
    r.trusted? [o] host keyType = (r.lookup? host keyType).or
      (if o.host = host ∧ o.keyType = keyType then some o.key else none) := by
  unfold trusted?
  rw [List.find?_singleton]
  by_cases hsame : o.host = host ∧ o.keyType = keyType
  · rw [if_pos hsame, if_pos (by simp [hsame])]
    rfl
  · rw [if_neg hsame, if_neg (by simpa using hsame)]
    rfl

/-- After one more offer, that comes first. -/
theorem trusted?_cons {o : HostKey} (h : ∀ host keyType, next.lookup? host keyType = r.trusted? [o] host keyType)
    (offers : List HostKey) (host keyType : Text) :
    next.trusted? offers host keyType = r.trusted? (o :: offers) host keyType := by
  unfold trusted?
  rw [h, trusted?, Option.or_assoc, List.find?_cons, List.find?_cons]
  by_cases hsame : (decide (o.host = host) && decide (o.keyType = keyType)) = true
  · simp only [hsame]
    rfl
  · simp only [hsame]
    rfl

/-- What is trusted of the host and the type of the first offer is settled by that offer. -/
theorem trusted?_own (r : KeyRing σ) (o : HostKey) (offers : List HostKey) :
    r.trusted? (o :: offers) o.host o.keyType =
      some ((r.lookup? o.host o.keyType).getD o.key) := by
  unfold trusted?
  rw [List.find?_cons_of_pos (by simp)]
  cases r.lookup? o.host o.keyType <;> rfl

/-! ## One offer -/

/-- A step on the surroundings is a step on them alone. -/
theorem run_outside {α : Type} (a : Step (Surroundings σ) α) (r : KeyRing σ) :
    (outside a).run r =
      ((a.run r.surroundings).1, { r with surroundings := (a.run r.surroundings).2 }) :=
  rfl

/-- A report changes neither the keys nor where they are kept. -/
theorem run_record (level : Level) (message : Text) (r : KeyRing σ) :
    ∃ next, (outside (Surroundings.record level message)).run r = (.ok (), next) ∧ Alike r next ∧
      next.known = r.known :=
  ⟨_, rfl, ⟨rfl, rfl⟩, rfl⟩

/-- A key is taken up. -/
theorem run_remember (h : r.Dependable) (k : HostKey) :
    ∃ next, (remember k).run r = (.ok (), next) ∧ Alike r next ∧
      next.known = k :: r.known.filter fun o => !(o.host = k.host && o.keyType = k.keyType) := by
  obtain ⟨bytes, hanswer⟩ := h.adds k.host k.keyType k.key r.surroundings.state
  unfold remember
  rw [Step.run_bind, run_outside, Surroundings.run_perform, hanswer]
  exact ⟨_, rfl, ⟨rfl, rfl⟩, rfl⟩

/-- The keys are written, or the system does not allow it. -/
theorem run_save (h : r.Dependable) :
    ∃ result next, (save : Step (KeyRing σ) Unit).run r = (result, next) ∧ Alike r next ∧
      next.known = r.known ∧ ∀ f, result = .error f → f.isSystem = true := by
  unfold save
  rw [Step.run_bind, Step.run_get]
  dsimp only
  rw [Step.run_bind, Step.run_within]
  generalize hparents : (LocalFiles.ensureParents r.path).run r.files = parents
  obtain ⟨f | u, files⟩ := parents
  · refine ⟨_, _, rfl, ⟨rfl, rfl⟩, rfl, fun g hg => ?_⟩
    obtain rfl := Except.error.inj hg
    rcases LocalFiles.fault_ensureDirectories (congrArg Prod.fst hparents) with hsystem | ⟨-, hnull⟩
    · exact hsystem
    · rw [List.reverse_reverse] at hnull
      exact absurd (hnull.mono fun n hn => (List.dropLast_sublist _).subset hn) h.path
  · dsimp only
    rw [run_outside, Surroundings.run_perform]
    refine ⟨_, _, rfl, ⟨rfl, rfl⟩, rfl, fun g hg => ?_⟩
    dsimp only at hg
    cases hanswer : (r.surroundings.answer (.saveKeys r.path.toText) r.surroundings.state).1 with
    | ok bytes =>
      rw [hanswer] at hg
      cases hg
    | error f =>
      rw [hanswer] at hg
      obtain rfl := Except.error.inj hg
      exact h.saves hanswer

/-- An offer of another key than the one that is known is refused, and nothing is done. -/
theorem run_accept_of_ne {offer : HostKey} {key : Text}
    (hknown : r.lookup? offer.host offer.keyType = some key) (hne : key ≠ offer.key) :
    (accept offer).run r = (.error (.hostKeyMismatch offer.keyType offer.host r.path.toText), r) := by
  unfold accept
  rw [Step.run_bind, Step.run_get]
  dsimp only
  rw [hknown, if_pos (by simpa using hne)]
  rfl

/-- Any other offer is accepted, whether or not the keys can be written. -/
theorem run_accept_of_eq (h : r.Dependable) {offer : HostKey}
    (hknown : ∀ key, r.lookup? offer.host offer.keyType = some key → key = offer.key) :
    ∃ next, (accept offer).run r = (.ok (), next) ∧ Alike r next ∧
      next.known = offer :: r.known.filter fun o =>
        !(o.host = offer.host && o.keyType = offer.keyType) := by
  have hsame : ¬ (r.lookup? offer.host offer.keyType).any (· ≠ offer.key) = true := by
    cases hlookup : r.lookup? offer.host offer.keyType with
    | none => simp
    | some key => simp [hknown key hlookup]
  unfold accept
  rw [Step.run_bind, Step.run_get]
  dsimp only
  rw [if_neg hsame]
  obtain ⟨noted, hnoted, halike, hkeys⟩ := run_record .info
    ("Trusting new " ++ offer.keyType ++ " key for " ++ offer.host) r
  obtain ⟨stored, hstored, halike', hkeys'⟩ := run_remember (h.of_alike halike) offer
  obtain ⟨result, saved, hsaved, halike'', hkeys'', hsystem⟩ :=
    run_save (h.of_alike (halike.trans halike'))
  have hknown : saved.known = offer :: r.known.filter fun o =>
      !(o.host = offer.host && o.keyType = offer.keyType) := by
    rw [hkeys'', hkeys', hkeys]
  have halikes := (halike.trans halike').trans halike''
  rw [Step.run_bind, hnoted]
  dsimp only
  rw [Step.run_bind, hstored]
  dsimp only
  rw [Step.run_bind, Step.run_attempt, hsaved]
  cases result with
  | ok u => exact ⟨saved, rfl, halikes, hknown⟩
  | error f =>
    dsimp only
    rw [if_pos (hsystem f rfl)]
    obtain ⟨last, hlast, hagain, hsame⟩ := run_record .warning
      ("Could not record host key in " ++ r.path.toText ++ ": " ++ f.message) saved
    exact ⟨last, hlast, halikes.trans hagain, hsame.trans hknown⟩

/-- **One offer**: it is accepted if its key is trusted, and that key is known then. -/
theorem run_accept (h : r.Dependable) (offer : HostKey) :
    ∃ next, (accept offer).run r =
        (verdict r.path offer (r.trusted? [offer] offer.host offer.keyType), next) ∧
      Alike r next ∧
      ∀ host keyType, next.lookup? host keyType = r.trusted? [offer] host keyType := by
  rw [trusted?_own, verdict]
  by_cases hne : ∃ key, r.lookup? offer.host offer.keyType = some key ∧ key ≠ offer.key
  · -- another key is known
    obtain ⟨key, hknown, hkey⟩ := hne
    have hverdict : ¬ some ((r.lookup? offer.host offer.keyType).getD offer.key) = some offer.key := by
      rw [hknown]
      exact fun heq => hkey (Option.some.inj heq)
    refine ⟨r, ?_, .refl r, fun host keyType => ?_⟩
    · rw [if_neg hverdict, run_accept_of_ne hknown hkey]
    · rw [trusted?_singleton]
      by_cases hsame : offer.host = host ∧ offer.keyType = keyType
      · obtain ⟨rfl, rfl⟩ := hsame
        rw [hknown]
        rfl
      · rw [if_neg hsame, Option.or_none]
  · have heq : ∀ key, r.lookup? offer.host offer.keyType = some key → key = offer.key :=
      fun key hknown => Decidable.byContradiction fun hkey => hne ⟨key, hknown, hkey⟩
    have hverdict : (r.lookup? offer.host offer.keyType).getD offer.key = offer.key := by
      cases hknown : r.lookup? offer.host offer.keyType with
      | none => rfl
      | some key => exact heq key hknown
    obtain ⟨next, hrun, halike, hkeys⟩ := run_accept_of_eq h heq
    refine ⟨next, ?_, halike, fun host keyType => ?_⟩
    · rw [if_pos (congrArg some hverdict), hrun]
    · rw [lookup?_of_known hkeys, trusted?_singleton]
      by_cases hsame : offer.host = host ∧ offer.keyType = keyType
      · obtain ⟨rfl, rfl⟩ := hsame
        rw [if_pos ⟨rfl, rfl⟩, if_pos ⟨rfl, rfl⟩, ← hverdict]
        cases r.lookup? offer.host offer.keyType <;> rfl
      · rw [if_neg hsame, if_neg hsame, Option.or_none]

/-! ## Offers one after another -/

/-- What becomes of offers, one after another, also after one that was refused. -/
def offerAll : List HostKey → KeyRing σ → List (Except Fault Unit) × KeyRing σ
  | [], r => ([], r)
  | offer :: offers, r =>
    let (result, next) := (accept offer).run r
    let (results, last) := offerAll offers next
    (result :: results, last)

/-- **Each offer is accepted if its key is the one that is trusted after all of them**, and these are the keys
that are known then. -/
theorem offerAll_eq (h : r.Dependable) (offers : List HostKey) :
    ∃ last, offerAll offers r =
        (offers.map fun o => verdict r.path o (r.trusted? offers o.host o.keyType), last) ∧
      Alike r last ∧ ∀ host keyType, last.lookup? host keyType = r.trusted? offers host keyType := by
  induction offers generalizing r with
  | nil => exact ⟨r, rfl, .refl r, fun host keyType => (Option.or_none).symm⟩
  | cons offer offers ih =>
    obtain ⟨next, hrun, halike, hlookup⟩ := run_accept h offer
    obtain ⟨last, hrest, halike', hlast⟩ := ih (h.of_alike halike)
    have htrusted := trusted?_cons hlookup
    refine ⟨last, ?_, halike.trans halike', fun host keyType => ?_⟩
    · rw [offerAll, hrun]
      dsimp only
      rw [hrest, List.map_cons, trusted?_own, trusted?_own, halike.path]
      simp only [htrusted]
    · rw [hlast, htrusted]

/-- What is accepted is the key that is trusted. -/
theorem key_of_verdict {path : LocalPath} {offer : HostKey} {trusted : Option Text}
    (h : verdict path offer trusted = .ok ()) : trusted = some offer.key := by
  unfold verdict at h
  split at h
  · assumption
  · cases h

/-- **Trust on first use.** Whatever was offered before, and whether or not the keys could be written: all
keys of a host and a type that were accepted are the same key, the one that was known at first if there was
one. Another key is refused by the SSH layer, and nothing is done. Any other offer is accepted, also of a host
that is known under other types only, and its key is known then, and all others as before. What is accepted
does not depend on what becomes of writing the keys. -/
theorem trusts_first (h : r.Dependable) (offers : List HostKey) :
    ∃ results last, offerAll offers r = (results, last) ∧ last.Dependable ∧
      (results = offers.map fun o => verdict r.path o (r.trusted? offers o.host o.keyType)) ∧
      (∀ (i j : Nat) (o o' : HostKey), offers[i]? = some o → offers[j]? = some o' →
        results[i]? = some (.ok ()) → results[j]? = some (.ok ()) →
        o.host = o'.host → o.keyType = o'.keyType → o.key = o'.key) ∧
      (∀ (i : Nat) (o : HostKey) (key : Text), offers[i]? = some o → results[i]? = some (.ok ()) →
        r.lookup? o.host o.keyType = some key → o.key = key) ∧
      (∀ host keyType, last.lookup? host keyType = r.trusted? offers host keyType) ∧
      (∀ (offer : HostKey) (key : Text), last.lookup? offer.host offer.keyType = some key →
        key ≠ offer.key → ∃ f, (accept offer).run last = (.error f, last) ∧ f.category = .ssh) ∧
      (∀ offer : HostKey,
        (∀ key, last.lookup? offer.host offer.keyType = some key → key = offer.key) →
        ∃ next, (accept offer).run last = (.ok (), next) ∧
          next.lookup? offer.host offer.keyType = some offer.key ∧
          ∀ host keyType, ¬ (offer.host = host ∧ offer.keyType = keyType) →
            next.lookup? host keyType = last.lookup? host keyType) ∧
      ∀ {τ : Type} (other : KeyRing τ), other.Dependable → other.known = r.known →
        other.path = r.path → (offerAll offers other).1 = results := by
  obtain ⟨last, hall, halike, hlookup⟩ := offerAll_eq h offers
  have hlast := h.of_alike halike
  -- an offer that is accepted is the trusted one
  have htrusted : ∀ (i : Nat) (o : HostKey), offers[i]? = some o →
      (offers.map fun o => verdict r.path o (r.trusted? offers o.host o.keyType))[i]? = some (.ok ()) →
      r.trusted? offers o.host o.keyType = some o.key := by
    intro i o ho hresult
    rw [List.getElem?_map, ho] at hresult
    exact key_of_verdict (Option.some.inj hresult)
  refine ⟨_, last, hall, hlast, rfl, ?_, ?_, hlookup, ?_, ?_, ?_⟩
  · intro i j o o' ho ho' hi hj hhost hkeyType
    have hkey := htrusted i o ho hi
    rw [hhost, hkeyType, htrusted j o' ho' hj] at hkey
    exact (Option.some.inj hkey).symm
  · intro i o key ho hi hknown
    have hkey := htrusted i o ho hi
    rw [trusted?, hknown] at hkey
    exact (Option.some.inj hkey).symm
  · intro offer key hknown hne
    exact ⟨_, run_accept_of_ne hknown hne, rfl⟩
  · intro offer hknown
    obtain ⟨next, hrun, -, hkeys⟩ := run_accept_of_eq hlast hknown
    refine ⟨next, hrun, ?_, fun host keyType hother => ?_⟩
    · rw [lookup?_of_known hkeys, if_pos ⟨rfl, rfl⟩]
    · rw [lookup?_of_known hkeys, if_neg hother]
  · intro τ other hother hknown hpath
    obtain ⟨_, hothers, -⟩ := offerAll_eq hother offers
    have hsame : ∀ host keyType, other.trusted? offers host keyType = r.trusted? offers host keyType := by
      intro host keyType
      rw [trusted?, trusted?, lookup?, lookup?, hknown]
    rw [hothers, hpath]
    simp only [hsame]

/-- A ring that knows one key, and of which the first two attempts to write the keys are refused. -/
def forgetfulRing : KeyRing Nat where
  known := [⟨"a", "rsa", "1"⟩]
  path := { root := Text.empty, names := ["keys"] }
  files := ⟨[]⟩
  surroundings := {
    answer := fun act n =>
      match act with
      | .saveKeys _ => (if n < 2 then .error (.foreign .system "no space") else .ok [], n + 1)
      | _ => (.ok [], n)
    state := 0 }

/-- Offers of two hosts in turn. -/
def mixedOffers : List HostKey :=
  [⟨"a", "ed25519", "2"⟩, ⟨"a", "rsa", "3"⟩, ⟨"b", "rsa", "4"⟩, ⟨"a", "ed25519", "5"⟩,
    ⟨"a", "ed25519", "2"⟩]

/-- The first key of each host and type is accepted though it could not be written, and again later. -/
theorem trusts_first_forgetfulRing :
    forgetfulRing.Dependable ∧
      ∃ results last, offerAll mixedOffers forgetfulRing = (results, last) ∧
        results.map Except.toBool = [true, false, true, false, true] ∧
        last.lookup? "a" "ed25519" = some "2" ∧
        ∃ f, (accept ⟨"a", "rsa", "6"⟩).run last = (.error f, last) ∧ f.category = .ssh := by
  have hdependable : forgetfulRing.Dependable := by
    constructor
    · intro host keyType key n
      exact ⟨[], rfl⟩
    · intro path n f hanswer
      have hn : (if n < 2 then Except.error (Fault.foreign .system "no space") else .ok []) =
          (.error f : Except Fault Bytes) := hanswer
      split at hn
      · obtain rfl := Except.error.inj hn
        rfl
      · cases hn
    · unfold LocalPath.HasNull Text.HasNull
      decide
  obtain ⟨results, last, hall, -, hresults, -, -, hlookup, hrefused, -⟩ :=
    trusts_first hdependable mixedOffers
  have htrusted : forgetfulRing.trusted? mixedOffers "a" "rsa" = some "1" := by decide +kernel
  refine ⟨hdependable, results, last, hall, ?_, ?_, ?_⟩
  · rw [hresults]
    decide +kernel
  · rw [hlookup]
    decide +kernel
  · exact hrefused ⟨"a", "rsa", "6"⟩ "1" ((hlookup _ _).trans htrusted) (by decide)

end KeyRing

end Sftp
