import Sftp.Text

/-!
# Status codes

A server reports the outcome of a request as a number. Nine numbers have a name; any other is a
vendor's own and is kept as it came. A `StatusError` is such an outcome seen as a failure: the kind
decides who can handle it, the code, text and language tag are what the server sent.

`StatusError.ofArguments?` makes a failure from a number and texts, which most kinds take in one order
and two in another. `StatusError.pack` and `StatusError.Packed.unpack` carry a failure to another place,
where it is made again. How much of a write was confirmed is not part of what is carried.
-/

namespace Sftp

/-! ## Codes -/

/-- The status codes of the protocol. -/
inductive StatusCode
  | ok | endOfFile | noSuchFile | permissionDenied | failure | badMessage | noConnection
  | connectionLost | unsupported
  deriving DecidableEq, Inhabited

namespace StatusCode

/-- The number of a code. -/
def number : StatusCode → Int
  | ok => 0
  | endOfFile => 1
  | noSuchFile => 2
  | permissionDenied => 3
  | failure => 4
  | badMessage => 5
  | noConnection => 6
  | connectionLost => 7
  | unsupported => 8

/-- The code with the given number. -/
def ofNumber? : Int → Option StatusCode
  | 0 => some ok
  | 1 => some endOfFile
  | 2 => some noSuchFile
  | 3 => some permissionDenied
  | 4 => some failure
  | 5 => some badMessage
  | 6 => some noConnection
  | 7 => some connectionLost
  | 8 => some unsupported
  | _ => none

/-- The name of a code in the protocol. -/
def label : StatusCode → String
  | ok => "SSH_FX_OK"
  | endOfFile => "SSH_FX_EOF"
  | noSuchFile => "SSH_FX_NO_SUCH_FILE"
  | permissionDenied => "SSH_FX_PERMISSION_DENIED"
  | failure => "SSH_FX_FAILURE"
  | badMessage => "SSH_FX_BAD_MESSAGE"
  | noConnection => "SSH_FX_NO_CONNECTION"
  | connectionLost => "SSH_FX_CONNECTION_LOST"
  | unsupported => "SSH_FX_OP_UNSUPPORTED"

@[simp] theorem ofNumber?_number (c : StatusCode) : ofNumber? c.number = some c := by
  cases c <;> rfl

/-- The name of a number, also of one that is no code of the protocol. -/
def describe (n : Int) : String :=
  match ofNumber? n with
  | some c => c.label
  | none => s!"SSH_FX_UNKNOWN({n})"

end StatusCode

/-! ## Failures -/

/-- The kinds of failures that carry a status. -/
inductive StatusKind
  /-- No particular kind. -/
  | general
  /-- A file does not exist. -/
  | noSuchFile
  /-- Access is denied. -/
  | permissionDenied
  /-- The server's general failure. -/
  | failure
  /-- Malformed bytes, an unexpected reply or a bad frame length. -/
  | badMessage
  /-- There is no connection. -/
  | noConnection
  /-- The connection is dead; every request that waits or comes later fails with this. -/
  | connectionLost
  /-- The server does not support the request. -/
  | unsupported
  deriving DecidableEq, Inhabited

/-- The system's error number for a kind that has one. -/
def StatusKind.errorNumber? : StatusKind → Option Nat
  | general => none
  | noSuchFile => some 2
  | permissionDenied => some 13
  | failure => none
  | badMessage => some 74
  | noConnection => some 107
  | connectionLost => some 104
  | unsupported => some 95

/-- Whether failures of this kind are made from their text first. Their code is usually the same. -/
def StatusKind.isMessageFirst : StatusKind → Bool
  | badMessage | connectionLost => true
  | _ => false

/-- A failure with a status. -/
structure StatusError where
  /-- What kind of failure it is. -/
  kind : StatusKind
  /-- The number of the status. -/
  code : Int
  /-- The text that came with it. -/
  message : Text := Text.empty
  /-- The language of the text. -/
  lang : Text := Text.empty
  /-- For a failed write, how many bytes were confirmed before it failed. -/
  confirmed : Nat := 0
  deriving DecidableEq, Inhabited

namespace StatusError

/-- The failure in words. -/
def render (e : StatusError) : Text :=
  "sftp: " ++ e.message.orElse "status" ++ " (" ++ StatusCode.describe e.code ++ ")"

/-- The text by which the system describes the failure, for kinds with an error number. -/
def systemText? (e : StatusError) : Option Text :=
  e.kind.errorNumber?.map fun _ => e.message

/-- A malformed or unexpected message. -/
def badMessage (message : Text) : StatusError :=
  { kind := .badMessage, code := StatusCode.badMessage.number, message }

/-- A dead connection. -/
def connectionLost (message : Text) : StatusError :=
  { kind := .connectionLost, code := StatusCode.connectionLost.number, message }

/-- What a failure of a kind is when nothing is said about it. -/
def plain : StatusKind → StatusError
  | .badMessage => badMessage "bad message"
  | .connectionLost => connectionLost "connection lost"
  | kind => { kind, code := 0 }

/-- A failure of a kind with what is said about it. -/
def make (kind : StatusKind) (code : Option Int) (message lang : Option Text) : StatusError :=
  { plain kind with
    code := code.getD (plain kind).code
    message := message.getD (plain kind).message
    lang := lang.getD (plain kind).lang }

/-- A client that was never connected. -/
def notConnected : StatusError :=
  { kind := .noConnection, code := StatusCode.noConnection.number, message := "not connected" }

/-- An end of file where there should be none. -/
def unexpectedEnd (message lang : Text) : StatusError :=
  { kind := .general, code := StatusCode.endOfFile.number, message, lang }

/-! ## Making a failure -/

/-- Something to make a failure from. -/
inductive Argument
  /-- A number, for a code. -/
  | number (n : Int)
  /-- A text, for a message or a language. -/
  | text (t : Text)
  deriving DecidableEq

/-- The failure made from arguments in the order in which its kind takes them. Arguments may be missing
at the end, apart from a code that comes first. There is none for arguments of other sorts. -/
def ofArguments? (kind : StatusKind) (arguments : List Argument) : Option StatusError :=
  if kind.isMessageFirst then
    match arguments with
    | [] => some (make kind none none none)
    | [.text message] => some (make kind none message none)
    | [.text message, .text lang] => some (make kind none message lang)
    | [.text message, .text lang, .number code] => some (make kind code message lang)
    | _ => none
  else
    match arguments with
    | [.number code] => some (make kind code none none)
    | [.number code, .text message] => some (make kind code message none)
    | [.number code, .text message, .text lang] => some (make kind code message lang)
    | _ => none

/-! ## Carrying a failure -/

/-- What is needed to make a failure again. -/
structure Packed where
  /-- The kind of the failure. -/
  kind : StatusKind
  /-- What to make it from. -/
  arguments : List Argument
  deriving DecidableEq

/-- What to make a failure from, each kind in its order. -/
def arguments (e : StatusError) : List Argument :=
  match e.kind with
  | .badMessage | .connectionLost => [.text e.message, .text e.lang, .number e.code]
  | _ => [.number e.code, .text e.message, .text e.lang]

/-- The failure in a form that can be carried. -/
def pack (e : StatusError) : Packed :=
  ⟨e.kind, e.arguments⟩

/-- The failure made again, if it can be made from these arguments. -/
def Packed.unpack? (p : Packed) : Option StatusError :=
  ofArguments? p.kind p.arguments

/-- The failure made again, or the plain one of its kind. -/
def Packed.unpack (p : Packed) : StatusError :=
  p.unpack?.getD (plain p.kind)

theorem unpack?_pack (e : StatusError) : e.pack.unpack? = some { e with confirmed := 0 } := by
  obtain ⟨kind, code, message, lang, confirmed⟩ := e
  cases kind <;> rfl

theorem unpack_pack (e : StatusError) : e.pack.unpack = { e with confirmed := 0 } := by
  unfold Packed.unpack
  rw [unpack?_pack]
  rfl

end StatusError

end Sftp
