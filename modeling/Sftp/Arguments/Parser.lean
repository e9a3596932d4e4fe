import Sftp.Arguments

/-!
# Reading a command line

Every word is looked at first by itself: it is an option, a divider or an operand's (`Word`). A word
with two dashes is an option if it is the name of one or the beginning of exactly one; a value may
follow an equals sign in the same word. A word that looks like a negative number, or has a blank in
it, is an operand's unless it names an option. After a divider, which is two dashes alone, all words
are operands'.

Then the words are used up from the left: operands take what stands in front of the next option, as
many as can be served, and options take their values. Words that nothing takes are left over.
-/

namespace Sftp

/-! ## Words -/

/-- An option as it is given in a word. -/
structure OptionWord where
  /-- The option, if there is one. -/
  rule : Option OptionRule
  /-- The value that stands in the same word behind an equals sign. -/
  value : Option Text := none
  /-- What stands in the same word right behind a name of one dash and one letter. -/
  joined : List Glyph := []
  deriving DecidableEq, Inhabited

/-- What a word is. -/
inductive Word
  /-- Two dashes alone, for the first time. -/
  | divider
  /-- A word of an operand or the value of an option. -/
  | plain (t : Text)
  /-- An option; the word itself is kept. -/
  | option (t : Text) (o : OptionWord)
  deriving DecidableEq, Inhabited

/-- Two dashes. -/
def dividerText : Text := "--"

/-- The word as it was given. -/
def Word.text : Word → Text
  | divider => dividerText
  | plain t => t
  | option t _ => t

/-- Whether the word is an option. -/
def Word.isOption : Word → Bool
  | option _ _ => true
  | _ => false

namespace Text

/-- Whether a text is some digits. -/
def isDigits (l : List Glyph) : Bool :=
  !l.isEmpty && l.all fun g => (g.char?.bind digitValue?).isSome

/-- Whether a text looks like a negative number: a dash before digits, among which there may be one
point. A line feed may end it. -/
def looksNegative (t : Text) : Bool :=
  match t.glyphs with
  | .scalar '-' :: rest =>
    let body := if rest.getLast? = some (.scalar '\n') then rest.dropLast else rest
    isDigits body ||
      match body.dropWhile fun g => !g.is '.' with
      | _ :: places =>
        let whole := body.takeWhile fun g => !g.is '.'
        (whole.isEmpty || isDigits whole) && isDigits places
      | [] => false
  | _ => false

/-- The parts of a text before and behind its first equals sign, if it has one. -/
def splitEquals (t : Text) : Text × Option Text :=
  match t.glyphs.dropWhile fun g => !g.is '=' with
  | [] => (t, none)
  | _ :: rest => (⟨t.glyphs.takeWhile fun g => !g.is '='⟩, some ⟨rest⟩)

end Text

namespace Grammar

/-- The names of all options, each with its option. -/
def optionNames (g : Grammar) : List (String × OptionRule) :=
  g.options.flatMap fun r => r.names.map fun n => (n, r)

/-- The option of a name. -/
def option? (g : Grammar) (name : Text) : Option OptionRule :=
  (g.optionNames.find? fun e => Text.ofString e.1 = name).map (·.2)

/-- The options that a word may be short for. -/
def candidates (g : Grammar) (t : Text) : List (String × OptionWord) :=
  match t.glyphs with
  | .scalar '-' :: .scalar '-' :: _ =>
    let (name, value) := t.splitEquals
    (g.optionNames.filter fun e => name.glyphs.isPrefixOf (Text.ofString e.1).glyphs).map fun e =>
      (e.1, { rule := some e.2, value })
  | _ =>
    (g.optionNames.filter fun e => (Text.ofString e.1).glyphs = t.glyphs.take 2).map fun e =>
      (e.1, { rule := some e.2, joined := t.glyphs.drop 2 })

/-- What a word before the divider is. -/
def classify (g : Grammar) (t : Text) : Except UsageProblem Word :=
  if !t.startsWith '-' then
    .ok (.plain t)
  else
    match g.option? t with
    | some rule => .ok (.option t { rule := some rule })
    | none =>
      if t.length = 1 then
        .ok (.plain t)
      else
        let (name, value) := t.splitEquals
        match value.bind fun _ => g.option? name with
        | some rule => .ok (.option t { rule := some rule, value })
        | none =>
          match g.candidates t with
          | [(_, o)] => .ok (.option t o)
          | [] =>
            if t.looksNegative || t.glyphs.any (·.is ' ') then .ok (.plain t)
            else .ok (.option t { rule := none })
          | several => .error (.ambiguous t (several.map (·.1)))

/-- What the words of a line are. -/
def classifyAll (g : Grammar) : List Text → Except UsageProblem (List Word)
  | [] => .ok []
  | t :: rest =>
    if t = dividerText then
      .ok (.divider :: rest.map .plain)
    else do
      let word ← g.classify t
      let words ← g.classifyAll rest
      return word :: words

end Grammar

/-! ## Operands -/

/-- The number of dividers at the start of some words. -/
def dividers (words : List Word) : Nat :=
  (words.takeWhile (· = .divider)).length

/-- How many of the next words an operand takes, if it can be served. Dividers around its word go
with it. -/
def Operand.span (o : Operand) (words : List Word) : Option Nat :=
  let front := dividers words
  match words.drop front, o with
  | .plain _ :: rest, .command _ => some (front + 1 + rest.length)
  | .plain _ :: rest, _ => some (front + 1 + dividers rest)
  | _, .optional _ _ => some front
  | _, _ => none

/-- A command as it was found: its operand, its name and the words after it. -/
structure CommandWords where
  /-- The operand. -/
  key : String
  /-- The name. -/
  name : Text
  /-- The words after it. -/
  rest : List Text
  deriving DecidableEq, Inhabited

/-- What has become of the words so far. -/
structure Reading where
  /-- The values so far. -/
  bindings : Bindings
  /-- The operands that have not been served. -/
  operands : List Operand
  /-- The words that nothing has taken. -/
  leftover : List Text := []
  /-- The command, once it has been found. -/
  command : Option CommandWords := none
  deriving DecidableEq

namespace Reading

/-- Gives a name a value. -/
def bind (r : Reading) (key : String) (v : ArgumentValue) : Reading :=
  { r with bindings := r.bindings.set key v }

/-- Sets words aside. -/
def setAside (r : Reading) (words : List Text) : Reading :=
  { r with leftover := r.leftover ++ words }

/-- Gives an operand its words. The first two dashes among them are dropped, unless they are those of
a command. -/
def serveOne (r : Reading) (o : Operand) (words : List Text) : Reading :=
  match o, words.erase dividerText with
  | .command key, _ =>
    match words with
    | name :: rest => { r.bind key (.text name) with command := some { key, name, rest } }
    | [] => r
  | .one key, t :: _ => r.bind key (.text t)
  | .one key, [] => r.bind key .nothing
  | .optional key _, t :: _ => r.bind key (.text t)
  | .optional key default, [] => r.bind key (.text default)

/-- Serves operands, one after another, as long as they can be served. -/
def serveEach (r : Reading) : List Operand → List Word → Reading × List Word
  | [], words => ({ r with operands := [] }, words)
  | o :: rest, words =>
    match o.span words with
    | some n => (r.serveOne o ((words.take n).map Word.text)).serveEach rest (words.drop n)
    | none => ({ r with operands := o :: rest }, words)

/-- Serves the operands that have not been served. -/
def serve (r : Reading) (words : List Word) : Reading × List Word :=
  r.serveEach r.operands words

end Reading

/-! ## Options -/

/-- What is wrong with letters joined to the short name of help: they may repeat it, but no value may
follow. Other letters are passed over. -/
def joinedProblem? (label : String) : List Glyph → Option UsageProblem
  | [] => none
  | .scalar '=' :: value => some (.unwantedValue label ⟨value⟩)
  | .scalar '-' :: rest => some (.unwantedValue label ("-" ++ ⟨rest⟩))
  | .scalar 'h' :: rest => joinedProblem? label rest
  | _ :: _ => none

namespace Grammar

/-- Stops because of a problem. -/
def reject {α : Type} (g : Grammar) (p : UsageProblem) : Except UsageStop α :=
  .error (.problem g.program p)

/-- Gives an option its value. -/
def assign (g : Grammar) (r : Reading) (rule : OptionRule) (value : Text) :
    Except UsageStop Reading :=
  if rule.use = .integer then
    match value.toInteger? with
    | some n => .ok (r.bind rule.key (.number n))
    | none => g.reject (.notInteger rule.label value)
  else
    .ok (r.bind rule.key (.text value))

/-- Does what an option without a value asks for. -/
def turnOn (g : Grammar) (r : Reading) (rule : OptionRule) (o : OptionWord) :
    Except UsageStop Reading :=
  match o.value.map (UsageProblem.unwantedValue rule.label ·),
    joinedProblem? rule.label o.joined with
  | some p, _ => g.reject p
  | none, some p => g.reject p
  | none, none =>
    if rule.use = .help then .error .help else .ok (r.bind rule.key (.switch true))

/-- Takes an option, given in the word `t` with the word `next` behind it. Also says whether the next
word is used up. -/
def takeOption (g : Grammar) (r : Reading) (t : Text) (o : OptionWord) (next : Option Word) :
    Except UsageStop (Reading × Bool) :=
  match o.rule with
  | none => .ok (r.setAside [t], false)
  | some rule =>
    if rule.takesValue then
      match o.value, next with
      | some value, _ => (g.assign r rule value).map (·, false)
      | none, some (.plain value) => (g.assign r rule value).map (·, true)
      | none, _ => g.reject (.missingValue rule.label)
    else
      (g.turnOn r rule o).map (·, false)

/-! ## Lines -/

/-- Uses the words up. -/
def useUp (g : Grammar) (r : Reading) (words : List Word) : Except UsageStop Reading :=
  if words.any Word.isOption then
    match words with
    | [] => .ok r
    | .option t o :: rest =>
      match g.takeOption r t o rest.head? with
      | .error stop => .error stop
      | .ok (r, isTaken) => g.useUp r (rest.drop (if isTaken then 1 else 0))
    | word :: rest =>
      let (served, left) := r.serve (word :: rest)
      if left.length < rest.length + 1 then
        g.useUp served left
      else
        let front := rest.takeWhile fun w => !w.isOption
        g.useUp (served.setAside ((word :: front).map Word.text))
          (rest.dropWhile fun w => !w.isOption)
  else
    let (served, left) := r.serve words
    .ok (served.setAside (left.map Word.text))
  termination_by words.length
  decreasing_by
    · simp only [List.length_drop, List.length_cons]; omega
    · simp only [List.length_cons]; omega
    · have := (List.dropWhile_sublist (l := rest) fun w => !w.isOption).length_le
      simp only [List.length_cons]; omega

/-- The operands that no words were found for and that cannot do without. -/
def unserved (operands : List Operand) : List String :=
  operands.filterMap fun o =>
    match o with
    | .one key => some key
    | _ => none

/-- Reads a command line. Words that nothing takes are left over. -/
def parse (g : Grammar) (args : List Text) : Except UsageStop Reading := do
  let words ← (g.classifyAll args).mapError (.problem g.program)
  let r ← g.useUp { bindings := g.defaults, operands := g.operands } words
  match unserved r.operands with
  | [] => return r
  | keys => g.reject (.missingOperands keys)

/-- Reads a command line with a command, whose own words are read by its own grammar. No word may be
left over. -/
def parseWithCommands (g : Grammar) (commands : List (String × Grammar)) (args : List Text) :
    Except UsageStop Bindings := do
  let r ← g.parse args
  let (bindings, leftover) ←
    match r.command with
    | none => pure (r.bindings, r.leftover)
    | some c =>
      match commands.find? fun e => Text.ofString e.1 = c.name with
      | none => g.reject (.unknownCommand c.key c.name (commands.map (·.1)))
      | some (_, own) => do
        let inner ← own.parse c.rest
        pure (r.bindings ++ inner.bindings, r.leftover ++ inner.leftover)
  if leftover.isEmpty then
    return bindings
  else
    g.reject (.unrecognized leftover)

end Grammar

end Sftp
