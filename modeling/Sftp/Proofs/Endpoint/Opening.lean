import Sftp.Endpoint.Opening
import Sftp.Proofs.Endpoint.Closing

/-!
# An SSH connection that leads nowhere is closed

On the way to a channel several things are asked of the SSH layer, one after another, and each of them may
fail. If one does, the connection is closed, once, and the failure is told as one of three: the credentials
were refused, it took too long, or there is no connection. This is so for all failures of the system and of
the SSH layer, whichever act they come from. But the SSH layer may also report the end of an input, which is
neither, and then the connection stays open and the failure is passed on as it is.

* `Endpoint.dialActs` — the acts; `Act.excuses` — the one failure that is no failure.
* `Outside.Passed`, `Outside.FailsAt` — acts that succeed one after another, and one that fails after others.
* `Surroundings.Pursues` — a step that does acts up to the first that fails; **`Endpoint.pursues_dial`**.
* `Category.told`, `category_of_connectFault?` — as which of the three a failure is told.
* `Endpoint.Opening` — how opening an endpoint comes out; **`Endpoint.openSsh_opens_or_tells`**.
* **`Endpoint.openSsh_endedOutside`** — a connection that is left open.
-/

namespace Sftp

variable {σ α β : Type}

/-! ## Acts one after another -/

/-- Whether a failure of an act is no failure: a user may have no host keys. -/
def Act.excuses : Act → Fault → Bool
  | loadUserKeys, f => f.category = .notFound
  | _, _ => false

namespace Outside

variable {answer : Act → σ → Except Fault Bytes × σ} {acts others : List Act} {s s' s'' : σ}

/-- Acts that succeed one after another. -/
inductive Passed (answer : Act → σ → Except Fault Bytes × σ) : List Act → σ → σ → Prop
  /-- There are none. -/
  | nil {s : σ} : Passed answer [] s s
  /-- The first succeeds, or its failure is excused, and the others succeed after it. -/
  | cons {a : Act} {rest : List Act} {s s' : σ} (hfirst : ∀ f, (answer a s).1 = .error f → a.excuses f = true)
      (hrest : Passed answer rest (answer a s).2 s') : Passed answer (a :: rest) s s'

/-- One act that succeeds, or whose failure is excused. -/
theorem Passed.one {a : Act} {r : Except Fault Bytes} (hanswer : answer a s = (r, s'))
    (hr : ∀ f, r = .error f → a.excuses f = true) : Passed answer [a] s s' := by
  have hstate : (answer a s).2 = s' := congrArg Prod.snd hanswer
  exact .cons (hanswer ▸ hr) (hstate ▸ .nil)

/-- Acts after others. -/
theorem Passed.append (h : Passed answer acts s s') (h' : Passed answer others s' s'') :
    Passed answer (acts ++ others) s s'' := by
  induction h with
  | nil => exact h'
  | cons hfirst _ ih => exact .cons hfirst (ih h')

/-- Of acts one fails, after those before it have succeeded. -/
structure FailsAt (answer : Act → σ → Except Fault Bytes × σ) (acts : List Act) (s : σ) (earlier : List Act)
    (a : Act) (f : Fault) (s' : σ) : Prop where
  /-- It is one of them, with those before it. -/
  among : earlier ++ [a] <+: acts
  /-- Those have succeeded, and it fails. -/
  fails : ∃ t, Passed answer earlier s t ∧ answer a t = (.error f, s')
  /-- That is a failure. -/
  unexcused : a.excuses f = false

/-- One act that fails. -/
theorem FailsAt.one {a : Act} {f : Fault} (hanswer : answer a s = (.error f, s')) (hf : a.excuses f = false) :
    FailsAt answer [a] s [] a f s' where
  among := List.prefix_rfl
  fails := ⟨s, .nil, hanswer⟩
  unexcused := hf

/-- If others follow, it is the same. -/
theorem FailsAt.append {earlier : List Act} {a : Act} {f : Fault} (h : FailsAt answer acts s earlier a f s')
    (others : List Act) : FailsAt answer (acts ++ others) s earlier a f s' where
  among := h.among.trans (List.prefix_append _ _)
  fails := h.fails
  unexcused := h.unexcused

/-- So it is if others come before, and succeed. -/
theorem FailsAt.after {earlier : List Act} {a : Act} {f : Fault} (hpassed : Passed answer others s s')
    (h : FailsAt answer acts s' earlier a f s'') :
    FailsAt answer (others ++ acts) s (others ++ earlier) a f s'' where
  among := by
    rw [List.append_assoc]
    exact (List.prefix_append_right_inj others).mpr h.among
  fails := by
    obtain ⟨t, hearlier, hfails⟩ := h.fails
    exact ⟨t, hpassed.append hearlier, hfails⟩
  unexcused := h.unexcused

end Outside

open Outside

namespace Surroundings

/-- Surroundings after acts, apart from the journal. -/
structure Did (s : Surroundings σ) (acts : List Act) (s' : Surroundings σ) : Prop where
  /-- The acts were done. -/
  acts : s'.acts.toList = s.acts.toList ++ acts
  /-- The outside answers as it did. -/
  answer : s'.answer = s.answer

/-- Acts after others. -/
theorem Did.trans {s s' s'' : Surroundings σ} {acts others : List Act} (h : s.Did acts s')
    (h' : s'.Did others s'') : s.Did (acts ++ others) s'' where
  acts := by rw [h'.acts, h.acts, List.append_assoc]
  answer := h'.answer.trans h.answer

/-- What becomes of acts that are done up to the first that fails, and give something if none does. -/
inductive Pursued (acts : List Act) (x : α) (s : Surroundings σ) : Except Fault α → Surroundings σ → Prop
  /-- None fails. -/
  | passed {s' : Surroundings σ} (hpassed : Passed s.answer acts s.state s'.state) (hdid : s.Did acts s') :
      Pursued acts x s (.ok x) s'
  /-- One fails, and those after it are not done. -/
  | failed {earlier : List Act} {a : Act} {f : Fault} {s' : Surroundings σ}
      (hfails : FailsAt s.answer acts s.state earlier a f s'.state) (hdid : s.Did (earlier ++ [a]) s') :
      Pursued acts x s (.error f) s'

/-- A step that does acts up to the first that fails, and gives something if none does. -/
def Pursues (a : Step (Surroundings σ) α) (acts : List Act) (x : α) : Prop :=
  ∀ s : Surroundings σ, Pursued acts x s (a.run s).1 (a.run s).2

/-- To give something, nothing need be done. -/
theorem pursues_pure (x : α) : Pursues (pure x : Step (Surroundings σ) α) [] x :=
  fun _ => .passed .nil ⟨(List.append_nil _).symm, rfl⟩

/-- Nor for a record. -/
theorem pursues_record (level : Level) (message : Text) : Pursues (σ := σ) (record level message) [] ⟨⟩ :=
  fun _ => .passed .nil ⟨(List.append_nil _).symm, rfl⟩

/-- One act is done, whatever becomes of it. -/
theorem did_one (s : Surroundings σ) (a : Act) (state : σ) :
    s.Did [a] { s with state, acts := s.acts.push a } :=
  ⟨Array.toList_push, rfl⟩

/-- One act, of which no failure is excused. -/
theorem pursues_perform {a : Act} (ha : ∀ f, a.excuses f = false) : Pursues (σ := σ) (perform a) [a] () := by
  intro s
  rw [run_perform]
  rcases hanswer : s.answer a s.state with ⟨f | bytes, state⟩
  · exact .failed (.one hanswer (ha f)) (s.did_one a state)
  · exact .passed (.one hanswer nofun) (s.did_one a state)

/-- The host keys of the user, which may be missing. -/
theorem pursues_loadUserKeys : Pursues (σ := σ) Endpoint.loadUserKeys [.loadUserKeys] () := by
  intro s
  unfold Endpoint.loadUserKeys
  rw [Step.run_bind, Step.run_attempt, run_perform]
  rcases hanswer : s.answer .loadUserKeys s.state with ⟨f | bytes, state⟩
  · simp only [Except.map]
    by_cases hmissing : f.category = .notFound
    · rw [if_pos hmissing]
      have hexcused : ∀ g, Except.error (α := Bytes) f = .error g → Act.excuses .loadUserKeys g = true :=
        fun g hg => Except.error.inj hg ▸ decide_eq_true hmissing
      exact .passed (.one hanswer hexcused) (s.did_one .loadUserKeys state)
    · rw [if_neg hmissing]
      exact .failed (.one hanswer (decide_eq_false hmissing)) (s.did_one .loadUserKeys state)
  · exact .passed (.one hanswer nofun) (s.did_one .loadUserKeys state)

/-- Signs of life, if there are to be any. -/
theorem pursues_keepAlive (seconds : Int) : Pursues (σ := σ) (Endpoint.keepAlive seconds)
    (if seconds = 0 then [] else [.keepAlive seconds]) () := by
  unfold Endpoint.keepAlive
  split
  · exact pursues_pure ()
  · exact pursues_perform fun _ => rfl

/-- One step after another. -/
theorem Pursues.bind {a : Step (Surroundings σ) α} {k : α → Step (Surroundings σ) β} {acts others : List Act}
    {x : α} {y : β} (ha : Pursues a acts x) (hk : Pursues (k x) others y) :
    Pursues (a >>= k) (acts ++ others) y := by
  intro s
  have hfirst := ha s
  rw [Step.run_bind]
  rcases hrun : a.run s with ⟨r, s'⟩
  rw [hrun] at hfirst
  cases hfirst with
  | failed hfails hdid => exact .failed (hfails.append others) hdid
  | passed hpassed hdid =>
    have hsecond := hk s'
    dsimp only
    generalize (k x).run s' = out at hsecond ⊢
    obtain ⟨r, s''⟩ := out
    cases hsecond with
    | passed hrest hdid' =>
      rw [hdid.answer] at hrest
      exact .passed (hpassed.append hrest) (hdid.trans hdid')
    | failed hfails hdid' =>
      rw [hdid.answer] at hfails
      refine .failed (hfails.after hpassed) ?_
      rw [List.append_assoc]
      exact hdid.trans hdid'

/-- How often the SSH connection was closed. -/
def timesClosed (s : Surroundings σ) : Nat :=
  s.acts.toList.count .closeConnection

/-- That is among what ends a stream. -/
theorem timesClosed_eq (s : Surroundings σ) : s.timesClosed = s.closings.count .closeConnection :=
  (List.count_filter rfl).symm

/-- It is so often more as the acts close it. -/
theorem Did.timesClosed {s s' : Surroundings σ} {acts : List Act} (h : s.Did acts s') :
    s'.timesClosed = s.timesClosed + acts.count .closeConnection := by
  unfold Surroundings.timesClosed
  rw [h.acts, List.count_append]

end Surroundings

open Surroundings

/-! ## The way to a channel -/

namespace Endpoint

variable {home : Text} {ssh : SshSettings} {connection : ConnectionSettings}

/-- What is done on the way to a channel, in order. -/
def dialActs (home : Text) (ssh : SshSettings) (connection : ConnectionSettings) : List Act :=
  [.loadSystemKeys, .loadUserKeys, .trustOnFirstUse, .connect (.ofSettings home ssh connection), .getConnection] ++
    ((if connection.keepaliveSeconds = 0 then [] else [.keepAlive connection.keepaliveSeconds]) ++
    [.openChannel connection.timeoutSeconds, .startSubsystem subsystem, .openChannelSide .reader,
      .openChannelSide .writer])

/-- The connection is not closed on the way. -/
theorem count_dialActs (home : Text) (ssh : SshSettings) (connection : ConnectionSettings) :
    (dialActs home ssh connection).count .closeConnection = 0 := by
  unfold dialActs
  rw [List.count_append, List.count_append]
  split
  · rfl
  · rfl

/-- **Dialling is doing what is on the way**, up to the first failure. -/
theorem pursues_dial (home : Text) (ssh : SshSettings) (connection : ConnectionSettings) :
    Pursues (σ := σ) (dial home ssh connection) (dialActs home ssh connection) { backing := .channel true } := by
  have hsides : Pursues (σ := σ) (Backing.channel true).openSides
      [.openChannelSide .reader, .openChannelSide .writer] () :=
    (pursues_perform fun _ => rfl).bind (pursues_perform fun _ => rfl)
  unfold dial
  exact (pursues_perform fun _ => rfl).bind <| pursues_loadUserKeys.bind <|
    (pursues_perform fun _ => rfl).bind <| (pursues_perform fun _ => rfl).bind <|
    (pursues_perform fun _ => rfl).bind <| (pursues_keepAlive _).bind <|
    (pursues_perform fun _ => rfl).bind <| (pursues_perform fun _ => rfl).bind <|
    (pursues_record _ _).bind <| hsides.bind <| pursues_pure _

end Endpoint

/-! ## What is told -/

/-- As what a failure of the system or of the SSH layer is told. -/
def Category.told : Category → Category
  | authentication => denied
  | timeout => timeout
  | _ => connection

/-- Nothing is told of any other failure. -/
theorem connectFault?_eq_none_iff {f : Fault} :
    connectFault? f = none ↔ f.isSystem = false ∧ f.category.isSsh = false := by
  unfold connectFault? Fault.isSystem
  cases f.category <;> simp [Category.isSystem, Category.isSsh]

/-- Something is told of those. -/
theorem isSystem_or_isSsh_of_connectFault? {f told : Fault} (h : connectFault? f = some told) :
    f.isSystem = true ∨ f.category.isSsh = true := by
  by_contra hother
  rw [not_or, Bool.not_eq_true, Bool.not_eq_true] at hother
  rw [connectFault?_eq_none_iff.mpr hother] at h
  cases h

/-- It is one of the three, by the sort of the failure. -/
theorem category_of_connectFault? {f told : Fault} (h : connectFault? f = some told) :
    told.category = f.category.told := by
  unfold connectFault? Fault.isSystem at h
  cases hsort : f.category <;> simp only [hsort, Category.isSystem, Category.isSsh] at h <;> cases h <;> rfl

/-! ## Opening -/

/-- A channel that owns its connection closes it with the last step, and with no other. -/
theorem ClosingStep.count_closeConnection {taken : List ClosingStep} (h : taken <+: all) :
    (taken.filterMap (act (.channel true))).count .closeConnection = if taken = all then 1 else 0 := by
  simp only [all, List.prefix_cons_iff, List.prefix_nil] at h
  obtain rfl | ⟨_, rfl, rfl | ⟨_, rfl, rfl | ⟨_, rfl, rfl | ⟨_, rfl, rfl⟩⟩⟩⟩ := h <;> rfl

namespace Endpoint

/-- An endpoint on a channel of its own connection. -/
def ofConnection : Endpoint := { backing := .channel true }

/-- How opening an endpoint comes out, by acts on the way to it. -/
inductive Opening (acts : List Act) (s : Surroundings σ) : Except Fault Endpoint → Surroundings σ → Prop
  /-- All acts succeed. The connection is left open, and the endpoint closes it, once, if nothing is in the
  way of closing. -/
  | opened {s' : Surroundings σ} (hpassed : Passed s.answer acts s.state s'.state) (hdid : s.Did acts s')
      (hopen : s'.timesClosed = s.timesClosed)
      (hcloses : ∀ uses, ∃ taken, ClosedInOrder ⟨ofConnection, s'⟩ uses taken ∧
        (useAll ⟨ofConnection, s'⟩ uses).surroundings.timesClosed =
          s'.timesClosed + if taken = ClosingStep.all then 1 else 0) :
      Opening acts s (.ok ofConnection) s'
  /-- An act fails as the system does or as the SSH layer does. The connection is closed, once, and the failure
  is told. -/
  | told {earlier : List Act} {a : Act} {f told : Fault} {t : σ} {bytes : Bytes} {s' : Surroundings σ}
      (hfails : FailsAt s.answer acts s.state earlier a f t)
      (hsort : f.isSystem = true ∨ f.category.isSsh = true) (htold : told.category = f.category.told)
      (hclosing : (s.answer .closeConnection t).1 = .ok bytes)
      (hdid : s.Did (earlier ++ [a, .closeConnection]) s')
      (honce : s'.timesClosed = s.timesClosed + 1) : Opening acts s (.error told) s'
  /-- So it is, but closing the connection fails itself. -/
  | unclosed {earlier : List Act} {a : Act} {f g : Fault} {t : σ} {s' : Surroundings σ}
      (hfails : FailsAt s.answer acts s.state earlier a f t)
      (hsort : f.isSystem = true ∨ f.category.isSsh = true)
      (hclosing : (s.answer .closeConnection t).1 = .error g)
      (hdid : s.Did (earlier ++ [a, .closeConnection]) s')
      (honce : s'.timesClosed = s.timesClosed + 1) : Opening acts s (.error g) s'
  /-- An act fails in another way. The connection is left open, and the failure is passed on. -/
  | leaked {earlier : List Act} {a : Act} {f : Fault} {s' : Surroundings σ}
      (hfails : FailsAt s.answer acts s.state earlier a f s'.state)
      (hsort : f.isSystem = false ∧ f.category.isSsh = false) (hdid : s.Did (earlier ++ [a]) s')
      (hopen : s'.timesClosed = s.timesClosed) : Opening acts s (.error f) s'

/-- The acts up to one that fails do not close the connection. -/
theorem count_of_failsAt {answer : Act → σ → Except Fault Bytes × σ} {t t' : σ} {earlier : List Act} {a : Act}
    {f : Fault} (h : FailsAt answer (dialActs home ssh connection) t earlier a f t') :
    (earlier ++ [a]).count .closeConnection = 0 :=
  Nat.eq_zero_of_le_zero (count_dialActs home ssh connection ▸ h.among.sublist.count_le _)

/-- An endpoint on a connection of its own closes it with the last step of closing. -/
theorem closes_connection (s : Surroundings σ) (uses : List Use) :
    ∃ taken, ClosedInOrder ⟨ofConnection, s⟩ uses taken ∧
      (useAll ⟨ofConnection, s⟩ uses).surroundings.timesClosed =
        s.timesClosed + if taken = ClosingStep.all then 1 else 0 := by
  obtain ⟨taken, htaken⟩ := exists_closedInOrder (e := ⟨ofConnection, s⟩) rfl uses
  refine ⟨taken, htaken, ?_⟩
  rw [timesClosed_eq, timesClosed_eq, htaken.acts, List.count_append]
  exact congrArg _ (ClosingStep.count_closeConnection htaken.inOrder)

/-- Giving up closes the connection, and tells why unless closing fails. -/
theorem run_giveUp (told : Fault) (s : Surroundings σ) :
    ∃ f s', Step.run (do
        perform .closeConnection
        record .error told.message
        throw told : Step (Surroundings σ) Endpoint) s = (.error f, s') ∧
      s.Did [.closeConnection] s' ∧
      ((∃ bytes, (s.answer .closeConnection s.state).1 = .ok bytes) ∧ f = told ∨
        (s.answer .closeConnection s.state).1 = .error f) := by
  rw [Step.run_bind, run_perform]
  rcases s.answer .closeConnection s.state with ⟨g | bytes, state⟩
  · exact ⟨g, _, rfl, ⟨Array.toList_push, rfl⟩, .inr rfl⟩
  · exact ⟨told, _, rfl, ⟨Array.toList_push, rfl⟩, .inl ⟨⟨bytes, rfl⟩, rfl⟩⟩

/-- **Opening an endpoint over SSH gives one, or closes the connection and tells why**, whatever fails on the
way as the system does or as the SSH layer does. Any other failure leaves the connection open. -/
theorem openSsh_opens_or_tells (home : Text) (ssh : SshSettings) (connection : ConnectionSettings)
    (s : Surroundings σ) :
    Opening (dialActs home ssh connection) s ((openSsh home ssh connection).run s).1
      ((openSsh home ssh connection).run s).2 := by
  have hdial := pursues_dial home ssh connection s
  unfold openSsh
  rw [Step.run_bind, Step.run_attempt]
  generalize (dial home ssh connection).run s = out at hdial ⊢
  obtain ⟨r, s'⟩ := out
  cases hdial with
  | passed hpassed hdid =>
    have hcount := hdid.timesClosed
    rw [count_dialActs] at hcount
    exact .opened hpassed hdid hcount (closes_connection s')
  | @failed earlier a f _ hfails hdid =>
    have hcount := hdid.timesClosed
    rw [count_of_failsAt hfails] at hcount
    cases htold : connectFault? f with
    | none =>
      simp only [htold]
      exact .leaked hfails (connectFault?_eq_none_iff.mp htold) hdid hcount
    | some told =>
      have hsort := isSystem_or_isSsh_of_connectFault? htold
      obtain ⟨g, s'', hrun, hgiveUp, hcause⟩ := run_giveUp told s'
      have hdone := hdid.trans hgiveUp
      have honce := hdone.timesClosed
      rw [List.count_append, count_of_failsAt hfails] at honce
      rw [List.append_assoc] at hdone
      rw [hdid.answer] at hcause
      simp only [htold]
      rw [hrun]
      rcases hcause with ⟨⟨_, hclosing⟩, rfl⟩ | hclosing
      · exact .told hfails hsort (category_of_connectFault? htold) hclosing hdone honce
      · exact .unclosed hfails hsort hclosing hdone honce

/-- An outside where connecting ends as an input does. -/
def endedOutside : Surroundings ScriptedOutside :=
  ScriptedOutside.surroundings {
    refusal := fun label _ => if label = "ssh.connect" then some (.foreign .endOfInput "") else none }

/-- The connection is left open there, and what is raised is none of the three. -/
theorem openSsh_endedOutside :
    ((openSsh "/home" { host := "h" } {}).run endedOutside).1 = .error (.foreign .endOfInput "") ∧
      Fault.category (.foreign .endOfInput "") ∉ [Category.denied, .timeout, .connection] ∧
      ((openSsh "/home" { host := "h" } {}).run endedOutside).2.timesClosed = 0 := by
  decide +kernel

end Endpoint

end Sftp
