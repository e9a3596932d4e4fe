import Sftp.Ini.Problem
import Sftp.Status
import Sftp.Wire.Codec

/-!
# Faults

Everything that can go wrong, as one type of causes. `Fault.message` has the wording of each;
`Fault.category` says which handlers take it: the failures of the system and of the server are one
family (`Category.isSystem`), with narrower families for missing files, denied access, time-outs
and connections.

What interrupts a program from outside, and what ends it, is no fault: there is no category for it, and a handler that
takes every fault takes everything that can go wrong here.
-/

namespace Sftp

/-! ## Categories -/

/-- The families by which faults are handled. -/
inductive Category
  /-- A failure of the system or the server of no narrower family. -/
  | system
  /-- A file is missing. -/
  | notFound
  /-- Access is denied. -/
  | denied
  /-- Something took too long. -/
  | timeout
  /-- A connection failed. -/
  | connection
  /-- The other end of a pipe is gone. -/
  | brokenPipe
  /-- A file is in the way. -/
  | fileExists
  /-- A directory stands where a file should. -/
  | isDirectory
  /-- A file stands where a directory should. -/
  | notDirectory
  /-- A value makes no sense where it is used. -/
  | invalid
  /-- The input is over. -/
  | endOfInput
  /-- A state that should not be. -/
  | runtime
  /-- A value of the wrong sort. -/
  | type
  /-- The other side refuses the credentials. -/
  | authentication
  /-- A failure of the SSH layer. -/
  | ssh
  /-- A number too large for the machine. -/
  | overflow
  /-- A length too large for its four bytes. -/
  | packing
  /-- A call that would need more round trips than it was given. -/
  | patience
  /-- A process that has not ended in its time. -/
  | unfinished
  /-- A configuration file that cannot be understood. -/
  | configuration
  deriving DecidableEq, Inhabited

namespace Category

/-- Whether a connection failed. -/
def isConnection : Category → Bool
  | connection | brokenPipe => true
  | _ => false

/-- Whether the system or the server failed. -/
def isSystem : Category → Bool
  | system | notFound | denied | timeout | connection | brokenPipe | fileExists | isDirectory
  | notDirectory => true
  | _ => false

/-- Whether the SSH layer failed, refused credentials included. -/
def isSsh : Category → Bool
  | authentication | ssh => true
  | _ => false

end Category

/-! ## Causes -/

/-- What a handle belongs to. -/
inductive HandleKind
  | file | directory
  deriving DecidableEq, Inhabited

/-- The word for the owner of a handle. -/
def HandleKind.label : HandleKind → String
  | file => "file"
  | directory => "directory"

/-- What the local system says about a path. -/
inductive FileProblem
  | missing | taken | notDirectory | isDirectory | nameTooLong
  deriving DecidableEq, Inhabited

namespace FileProblem

/-- The system's error number. -/
def errorNumber : FileProblem → Nat
  | missing => 2
  | taken => 17
  | notDirectory => 20
  | isDirectory => 21
  | nameTooLong => 36

/-- The system's words. -/
def label : FileProblem → String
  | missing => "No such file or directory"
  | taken => "File exists"
  | notDirectory => "Not a directory"
  | isDirectory => "Is a directory"
  | nameTooLong => "File name too long"

end FileProblem

/-- Why something failed. -/
inductive Fault
  /-- The server or the connection, with a status. -/
  | status (error : StatusError)
  /-- The server's end-of-file status, where that is an answer. -/
  | endOfFile (message : Text)
  /-- A stream ended before the bytes that were wanted. -/
  | streamEnded (received wanted : Nat)
  /-- Something has no encoding. -/
  | unencodable (cause : EncodeFault)
  /-- Use of a handle after its release. -/
  | closedHandle (kind : HandleKind) (path : Text)
  /-- A seek from an origin that does not exist. -/
  | invalidOrigin (origin : Int)
  /-- A seek before the start. -/
  | negativePosition (position : Int)
  /-- A read of fewer than no bytes. -/
  | negativeCount
  /-- A seek from the end of a file of unknown size. -/
  | sizeUnknown
  /-- Data per request outside what a frame can carry. -/
  | packetSize (limit size : Int)
  /-- Every request id is in use. -/
  | noFreeId
  /-- A wait ended before its answer. -/
  | timedOut
  /-- A write to a stream after it was closed. -/
  | closedStream
  /-- A call would need more round trips than it was given. -/
  | outOfPatience
  /-- The SSH server refused the credentials. -/
  | authenticationFailed (cause : Text)
  /-- The SSH connection took too long. -/
  | connectTimedOut (cause : Text)
  /-- The SSH connection failed. -/
  | connectFailed (cause : Text)
  /-- A server process could not be started. -/
  | notStarted (program cause : Text)
  /-- A host offers another key than the one recorded. -/
  | hostKeyMismatch (keyType host file : Text)
  /-- A level that is a text without a number. -/
  | unknownLevel (name : Text)
  /-- A level that is not even a text. -/
  | notALevel (description : Text)
  /-- The local system, about a path. -/
  | localFile (problem : FileProblem) (path : Text)
  /-- A local path with a null character. -/
  | nullInPath
  /-- A configuration file that cannot be understood. -/
  | ini (problem : IniProblem) (file : Text)
  /-- A configuration file that is not there. -/
  | noConfiguration (path : Text)
  /-- An option of a configuration file that should be an integer. -/
  | badNumber (group key value : Text)
  /-- A text that should be an integer. -/
  | notInteger (text : Text)
  /-- A way to reach a server that does not exist. -/
  | unknownCarrier (name : Text)
  /-- A setting without which there is no connection. -/
  | missingSetting (name : Text)
  /-- A date outside the calendar. -/
  | yearOutOfRange (year : Int)
  /-- A time outside the clock's range. -/
  | timeOutOfRange
  /-- A time outside the range of the system's calendar. -/
  | timeTooLarge
  /-- A mode that is negative. -/
  | negativeMode
  /-- A mode with more than 32 bits. -/
  | modeOutOfRange
  /-- A mode with more than 64 bits. -/
  | modeTooLarge
  /-- Raised by something outside: a stream, a process, the SSH layer. -/
  | foreign (category : Category) (message : Text)
  deriving DecidableEq

namespace Fault

/-- A malformed or unexpected message. -/
def badMessage (message : Text) : Fault :=
  status (.badMessage message)

/-- The fault of malformed bytes. -/
def malformed (m : Malformed) : Fault :=
  badMessage m.message

/-- A dead connection. -/
def lost (message : Text) : Fault :=
  status (.connectionLost message)

/-- The fault in words. -/
def message : Fault → Text
  | status e => e.render
  | endOfFile m => m.orElse "end of file"
  | streamEnded received wanted => s!"stream closed after {received} of {wanted} bytes"
  | unencodable cause => cause.message
  | closedHandle kind path => s!"I/O operation on closed {kind.label}: " ++ path
  | invalidOrigin origin => s!"invalid whence ({origin})"
  | negativePosition position => s!"negative seek position {position}"
  | negativeCount => "negative count"
  | sizeUnknown => "server did not report a file size"
  | packetSize limit size => s!"max_packet_size must be between 1 and {limit}, got {size}"
  | noFreeId => "no free request id"
  | timedOut => ""
  | closedStream => "write to closed stream"
  | outOfPatience => "the call needs more round trips than it was given"
  | authenticationFailed cause => "SSH authentication failed: " ++ cause
  | connectTimedOut cause => "SSH connection timeout: " ++ cause
  | connectFailed cause => "SSH connection failed: " ++ cause
  | notStarted program cause => "Could not start " ++ program ++ ": " ++ cause
  | hostKeyMismatch keyType host file =>
    keyType ++ " key offered by " ++ host ++ " does not match the one recorded in " ++ file
      ++ "; refusing to connect. Delete that entry if the "
      ++ "server's key was replaced on purpose."
  | unknownLevel name => "Unknown level: " ++ name.quoted
  | notALevel description => "Level not an integer or a valid string: " ++ description
  | localFile problem path =>
    s!"[Errno {problem.errorNumber}] {problem.label}: " ++ path.quoted
  | nullInPath => "embedded null byte"
  | ini problem file => problem.message file
  | noConfiguration path => "Configuration file not found: " ++ path
  | badNumber group key value =>
    "Invalid " ++ key ++ " value in [" ++ group ++ "]: '" ++ value ++ "' - must be an integer"
  | notInteger text =>
    "invalid literal for int() with base 10: " ++ ⟨text.quoted.glyphs.take 200⟩
  | unknownCarrier name =>
    "Invalid transport: " ++ name ++ ". Must be 'ssh' or 'subprocess'."
  | missingSetting name => "Missing required configuration fields: " ++ name
  | yearOutOfRange year => s!"year {year} is out of range"
  | timeOutOfRange => "timestamp out of range for platform time_t"
  | timeTooLarge => "[Errno 75] Value too large for defined data type"
  | negativeMode => "can't convert negative value to unsigned int"
  | modeOutOfRange => "mode out of range"
  | modeTooLarge => "Python int too large to convert to C unsigned long"
  | foreign _ m => m

/-- Which handlers take the fault. -/
def category : Fault → Category
  | status e =>
    match e.kind with
    | .noSuchFile => .notFound
    | .permissionDenied => .denied
    | .noConnection | .connectionLost => .connection
    | .general | .failure | .badMessage | .unsupported => .system
  | endOfFile _ => .endOfInput
  | streamEnded _ _ => .endOfInput
  | unencodable (.tooLong _) => .packing
  | unencodable _ => .invalid
  | closedHandle _ _ => .invalid
  | invalidOrigin _ => .invalid
  | negativePosition _ => .invalid
  | negativeCount => .invalid
  | sizeUnknown => .system
  | packetSize _ _ => .invalid
  | noFreeId => .runtime
  | timedOut => .timeout
  | closedStream => .invalid
  | outOfPatience => .patience
  | authenticationFailed _ => .denied
  | connectTimedOut _ => .timeout
  | connectFailed _ => .connection
  | notStarted _ _ => .connection
  | hostKeyMismatch _ _ _ => .ssh
  | unknownLevel _ => .invalid
  | notALevel _ => .type
  | localFile .missing _ => .notFound
  | localFile .taken _ => .fileExists
  | localFile .notDirectory _ => .notDirectory
  | localFile .isDirectory _ => .isDirectory
  | localFile .nameTooLong _ => .system
  | nullInPath => .invalid
  | ini (.notText _) _ => .invalid
  | ini _ _ => .configuration
  | noConfiguration _ => .notFound
  | badNumber _ _ _ => .invalid
  | notInteger _ => .invalid
  | unknownCarrier _ => .invalid
  | missingSetting _ => .invalid
  | yearOutOfRange _ => .invalid
  | timeOutOfRange => .overflow
  | timeTooLarge => .system
  | negativeMode => .overflow
  | modeOutOfRange => .overflow
  | modeTooLarge => .overflow
  | foreign c _ => c

/-- Whether the system or the server failed. -/
def isSystem (f : Fault) : Bool :=
  f.category.isSystem

/-- Whether a value was wrong. -/
def isInvalid (f : Fault) : Bool :=
  f.category = .invalid

/-- Whether the input was over. -/
def isEnd (f : Fault) : Bool :=
  f.category = .endOfInput

/-- The status of a fault that has one. -/
def status? : Fault → Option StatusError
  | status e => some e
  | _ => none

/-- Whether the connection is said to be dead. -/
def isLost (f : Fault) : Bool :=
  match f with
  | status e => e.kind = .connectionLost
  | _ => false

/-- The fault with the number of confirmed bytes, if it has a status. -/
def withConfirmed (n : Nat) : Fault → Fault
  | status e => status { e with confirmed := n }
  | f => f

/-! ## From status replies -/

/-- The fault that a status stands for, if it stands for one. Vendor codes keep their number; an
end of file is not a failure of its own. -/
def ofStatus (code : Int) (message lang : Text) : Option Fault :=
  match StatusCode.ofNumber? code with
  | some .ok => none
  | some .endOfFile => some (endOfFile message)
  | some .noSuchFile => some (status { kind := .noSuchFile, code, message, lang })
  | some .permissionDenied => some (status { kind := .permissionDenied, code, message, lang })
  | some .failure => some (status { kind := .failure, code, message, lang })
  | some .badMessage => some (status { kind := .badMessage, code, message, lang })
  | some .noConnection => some (status { kind := .noConnection, code, message, lang })
  | some .connectionLost => some (status { kind := .connectionLost, code, message, lang })
  | some .unsupported => some (status { kind := .unsupported, code, message, lang })
  | none => some (status { kind := .general, code, message, lang })

end Fault

end Sftp
