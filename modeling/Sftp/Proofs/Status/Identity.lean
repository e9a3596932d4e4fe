import Sftp.Proofs.Client.Reply

/-!
# Failures keep what they are

A failure is made of a status, or of a number and texts. Most kinds take the code first; two take it last,
and need not be told it. A failure that is carried to another place is made again there, from arguments in
the order of its kind. A slip in one of the orders would show for a few kinds only, and a code that gave way to
that of its kind for none of the protocol's own, so all kinds and all codes are gone through here.

* `StatusError.arguments_of_ofArguments?` — what a failure was made from is what it has, and what was left
  out is as it is when nothing is said.
* `StatusError.ofArguments?_told` — the failure of a status, made in the order of its kind.
* `StatusError.IsCopyOf` — a failure that is another but for how much of a write was confirmed.
* **`StatusError.keeps_identity`** — a failure has what the status had, and its copy is what it was.
-/

namespace Sftp

namespace StatusError

variable {kind : StatusKind} {given : List Argument} {e : StatusError} {code : Int} {message lang : Text}

/-! ## Making a failure -/

/-- What is said about a failure is what it has, and the rest is as when nothing is said. -/
theorem make_eq (kind : StatusKind) (code : Option Int) (message lang : Option Text) :
    make kind code message lang =
      { kind
        code := code.getD (plain kind).code
        message := message.getD (plain kind).message
        lang := lang.getD (plain kind).lang } := by
  cases kind <;> rfl

/-- The arguments that say all about a failure, in either order. -/
theorem arguments_eq (e : StatusError) :
    e.arguments =
      if e.kind.isMessageFirst then [.text e.message, .text e.lang, .number e.code]
      else [.number e.code, .text e.message, .text e.lang] := by
  unfold arguments
  cases e.kind <;> rfl

/-- The plain failure of a kind is of that kind. -/
@[simp] theorem kind_plain (kind : StatusKind) : (plain kind).kind = kind := by
  cases kind <;> rfl

/-- **What a failure was made from is what it has**, in its place, and what was left out is as it is when
nothing is said. Of a write nothing is confirmed yet. -/
theorem arguments_of_ofArguments? (h : ofArguments? kind given = some e) :
    e.kind = kind ∧ e.confirmed = 0 ∧
      e.arguments = given ++ (plain kind).arguments.drop given.length := by
  simp only [arguments_eq, kind_plain]
  unfold ofArguments? at h
  split at h
  · rename_i hfirst
    -- one goal for each number of arguments that a kind with its message first can be made from
    split at h
    all_goals cases h
    all_goals simp [make_eq, hfirst]
  · rename_i hfirst
    split at h
    all_goals cases h
    all_goals simp [make_eq, hfirst]

/-- A failure of which nothing was confirmed is made again as it is. -/
theorem unpack?_of_confirmed (h : e.confirmed = 0) : e.pack.unpack? = some e := by
  rw [unpack?_pack, ← h]

/-! ## The failure of a status -/

/-- What the failure of a status is made from. The kinds that need not be told their code are not. -/
def told (code : Int) (message lang : Text) : List Argument :=
  if (StatusKind.ofCode code).isMessageFirst then [.text message, .text lang]
  else [.number code, .text message, .text lang]

/-- A kind that need not be told its code has the code that means it. -/
theorem code_plain (h : (StatusKind.ofCode code).isMessageFirst) :
    (plain (StatusKind.ofCode code)).code = code := by
  unfold StatusKind.ofCode at h ⊢
  cases hcode : StatusCode.ofNumber? code with
  | none => simp [hcode, StatusKind.isMessageFirst] at h
  | some c =>
    rw [hcode] at h
    obtain rfl := StatusCode.ofNumber?_eq_some hcode
    cases c with
    | badMessage | connectionLost => rfl
    | _ => cases h

/-- The failure of a status is made in the order of its kind. -/
theorem ofArguments?_told (code : Int) (message lang : Text) :
    ofArguments? (.ofCode code) (told code message lang) =
      some { kind := .ofCode code, code, message, lang } := by
  unfold ofArguments? told
  by_cases hfirst : (StatusKind.ofCode code).isMessageFirst
  · simp only [hfirst, if_true, make_eq, Option.getD_some, Option.getD_none, code_plain hfirst]
  · simp only [hfirst, if_false, make_eq, Option.getD_some, Bool.false_eq_true]

/-! ## Copies -/

/-- A failure is another to everybody who does not ask how much of a write was confirmed. -/
structure IsCopyOf (c e : StatusError) : Prop where
  /-- The same handlers take it. -/
  kind : c.kind = e.kind
  code : c.code = e.code
  message : c.message = e.message
  lang : c.lang = e.lang
  /-- The system's number is the same. -/
  errorNumber : c.kind.errorNumber? = e.kind.errorNumber?
  /-- The system's text is the same. -/
  systemText : c.systemText? = e.systemText?
  /-- The words are the same. -/
  render : c.render = e.render
  /-- What was confirmed is not carried. -/
  confirmed : c.confirmed = 0

/-- What is made again from a failure is a copy of it. -/
theorem isCopyOf_unpack (e : StatusError) : IsCopyOf e.pack.unpack e := by
  rw [unpack_pack]
  exact ⟨rfl, rfl, rfl, rfl, rfl, rfl, rfl, rfl⟩

/-- **A failure keeps what it is.** A status with any code but those of success and of the end of a file is
a failure with that code, that message and that language, made as its kind is made. A failure that was made
from arguments has these in their places, and is carried as it is. Any failure whatever can be carried, and
what arrives is a copy of it. -/
theorem keeps_identity :
    (∀ (code : Int) (message lang : Text), code ≠ 0 → code ≠ 1 →
      ∃ e, Fault.ofStatus code message lang = some (.status e) ∧
        ofArguments? (.ofCode code) (told code message lang) = some e ∧
        e.code = code ∧ e.message = message ∧ e.lang = lang) ∧
    (∀ (kind : StatusKind) (given : List Argument) (e : StatusError), ofArguments? kind given = some e →
      e.kind = kind ∧ given <+: e.arguments ∧ e.pack.unpack? = some e) ∧
    ∀ e : StatusError, ∃ c, e.pack.unpack? = some c ∧ c.IsCopyOf e := by
  refine ⟨?_, ?_, ?_⟩
  · intro code message lang hok hend
    exact ⟨_, Fault.ofStatus_of_ne message lang hok hend, ofArguments?_told code message lang, rfl, rfl, rfl⟩
  · intro kind given e h
    obtain ⟨hkind, hconfirmed, harguments⟩ := arguments_of_ofArguments? h
    refine ⟨hkind, ?_, unpack?_of_confirmed hconfirmed⟩
    rw [harguments]
    exact List.prefix_append _ _
  · intro e
    refine ⟨e.pack.unpack, ?_, isCopyOf_unpack e⟩
    rw [unpack_pack, unpack?_pack]

/-- A failure of a vendor's own, before which seven bytes of a write were confirmed. -/
def overQuota : StatusError :=
  { kind := .general, code := 31, message := "quota exceeded", lang := "en", confirmed := 7 }

/-- Its status has its code, its message and its language, and its copy is a copy. A lost connection that was
told nothing but its message is carried with its own code. -/
theorem keeps_identity_overQuota :
    overQuota.code ≠ 0 ∧ overQuota.code ≠ 1 ∧
      (∃ e, Fault.ofStatus overQuota.code overQuota.message overQuota.lang = some (.status e) ∧
        e.code = overQuota.code ∧ e.message = overQuota.message ∧ e.lang = overQuota.lang) ∧
      ofArguments? .connectionLost [.text "gone"] = some (connectionLost "gone") ∧
      (connectionLost "gone").pack.unpack? = some (connectionLost "gone") ∧
      ∃ c, overQuota.pack.unpack? = some c ∧ c.IsCopyOf overQuota := by
  have hok : overQuota.code ≠ 0 := by decide
  have hend : overQuota.code ≠ 1 := by decide
  have hmade : ofArguments? .connectionLost [.text "gone"] = some (connectionLost "gone") := rfl
  obtain ⟨e, hstatus, -, hsame⟩ := keeps_identity.1 overQuota.code overQuota.message overQuota.lang hok hend
  obtain ⟨-, -, hcarried⟩ := keeps_identity.2.1 _ _ _ hmade
  exact ⟨hok, hend, ⟨e, hstatus, hsame⟩, hmade, hcarried, keeps_identity.2.2 overQuota⟩

end StatusError

end Sftp
