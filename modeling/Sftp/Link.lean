import Sftp.Exchange
import Sftp.Journal
import Sftp.Step

/-!
# An exchange on its stream

A `Link` is a stream together with the exchange that runs on it and the journal of both. While the
reader runs, every complete frame is taken and delivered as soon as it arrives (`Link.takeFrames`),
so between two steps nothing that could be read is left. What a reader finds wrong ends the
connection.

Whatever fault the reader meets ends the connection, and whatever fault the making of a packet has leaves its id free;
there are no other interruptions (see `Fault`).

Waiting is modelled by hanging up: when a caller waits for a reply and nothing more arrives, the
stream is taken to be over.

A submission has parts: a request is entered under an id (`Link.enroll`), its packet is made and
encoded (`Link.make`), and the frame is handed over (`Link.ensureHealthy`, `Link.write`,
`Link.flush`), or what that fault calls for is done (`Link.writeFailed`). `Link.submit` is one part
after the other; senders that do not wait for one another, and a reader that does not wait for them,
can come between the parts of a submission.
-/

namespace Sftp

/-- A stream, the exchange on it, and what was reported. -/
structure Link (σ : Type) where
  /-- The stream. -/
  line : Line σ
  /-- The requests under way. -/
  exchange : Exchange
  /-- The records made so far. -/
  journal : Journal := #[]

/-- What can be asked of an exchange: a packet for an id. -/
structure Request where
  /-- Makes the packet, or ends with a fault. Nothing else can come of it, so whoever takes every fault of it has dealt
  with every end that it can have. -/
  build : Int → Except Fault Packet
  /-- Whether making it closes the exchange first. -/
  hangsUp : Bool := false

/-- A request for a message. -/
def Request.ofMessage (m : Message) : Request where
  build id := .ok (.message id m)

namespace Link

variable {σ : Type}

/-- Adds a record to the journal. -/
def record (l : Link σ) (level : Level) (message : Text) : Link σ :=
  { l with journal := l.journal.add level message }

/-- The connection fails. -/
def fail (l : Link σ) (message : Text) : Link σ :=
  { l with exchange := l.exchange.fail message }

/-- Reports a failure, if it is the first. -/
def reportFirst (l : Link σ) (message : Text) : Link σ :=
  if l.exchange.failure.isNone then l.record .error message else l

/-- No more requests from this side. -/
def close (l : Link σ) : Link σ :=
  { l with exchange := l.exchange.close }

/-- The reader stops because of a fault. -/
def stopReader (l : Link σ) (f : Fault) : Link σ :=
  let stopped := { l with exchange := { l.exchange with reader := .stopped } }
  if f.isEnd then
    (stopped.reportFirst ("Connection closed by server: " ++ f.message)).fail
      "connection closed by server"
  else
    (stopped.reportFirst ("Reader failed: " ++ f.message)).fail
      ("connection lost: " ++ f.message)

/-- Gives a packet to the request that it answers, or reports that nobody waits for it. -/
def deliver (l : Link σ) (p : Packet) : Link σ :=
  match l.exchange.deliver p with
  | some exchange => { l with exchange }
  | none =>
    let id : Text := match p.id? with
      | some id => Text.ofInt id
      | none => "None"
    l.record .warning ("Dropping " ++ p.kind.label ++ " for unknown request id " ++ id)

/-- Takes frames off the stream until there is no complete one left or one is bad. -/
def takeFrames (l : Link σ) : Link σ :=
  match h : l.line.inbox.readFrame l.exchange.limit with
  | (.blocked, _) => l
  | (.failed f, inbox) => { l with line := { l.line with inbox } }.stopReader f
  | (.got body, inbox) =>
    match Packet.ofBody body with
    | .error m => { l with line := { l.line with inbox } }.stopReader (.malformed m)
    | .ok p =>
      have : inbox.available < l.line.inbox.available := Inbox.available_readFrame_got h
      takeFrames { l.deliver p with line := { l.line with inbox } }
  termination_by l.line.inbox.available

/-- Lets the reader take what is there, if it runs. -/
def rest (l : Link σ) : Link σ :=
  if l.exchange.reader = .running then l.takeFrames else l

/-- Something arrives. -/
def receive (l : Link σ) (arrivals : List Arrival) : Link σ :=
  { l with line := l.line.receive arrivals }.rest

/-- The reader starts, unless it did. -/
def start (l : Link σ) : Link σ :=
  if l.exchange.reader = .idle then
    { l with exchange := { l.exchange with reader := .running } }.rest
  else
    l

/-! ## Sending -/

/-- A request id that no waiting request has. -/
def nextId : Step (Link σ) Int := do
  let l ← get
  let (id, exchange) := l.exchange.nextId
  set { l with exchange }
  match id with
  | some id => return id
  | none => throw .noFreeId

/-- Faults if the connection has failed. -/
def ensureHealthy : Step (Link σ) Unit := do
  let l ← get
  match l.exchange.failure with
  | some message => throw (.lost message)
  | none => return

/-- Hands a frame to the stream; what arrives in answer is taken. -/
def write (bytes : Bytes) : Step (Link σ) Unit := do
  let l ← get
  let (fault, line) := l.line.write bytes
  set ({ l with line }.rest)
  match fault with
  | some f => throw f
  | none => return

/-- Flushes the stream. -/
def flush : Step (Link σ) Unit := do
  let l ← get
  let (fault, line) := l.line.flush
  set { l with line }
  match fault with
  | some f => throw f
  | none => return

/-- Hands a frame to the stream and flushes it. -/
def transmit (bytes : Bytes) : Step (Link σ) Unit := do
  write bytes
  flush

/-- What follows a write that failed. Part of a frame may have gone out, so a failure of the system
or a refused value is the end of the connection. A dead connection is passed on as it is, and so
is any other fault. -/
def writeFailed (id : Int) (f : Fault) : Step (Link σ) Unit := do
  if f.isLost then
    modify fun l => { l with exchange := l.exchange.withdraw id }
    throw f
  else if f.isSystem || f.isInvalid then
    modify fun l =>
      (l.record .error ("Write of request " ++ Text.ofInt id ++ " failed: " ++ f.message)).fail
        ("write failed: " ++ f.message)
    let l ← get
    throw (.lost (l.exchange.failure.getD Text.empty))
  else
    throw f

/-- Allots an id and enters a request under it. -/
def enroll : Step (Link σ) (Int × Ticket) := do
  ensureHealthy
  let id ← nextId
  let l ← get
  let (ticket, exchange) := l.exchange.register id
  set { l with exchange }
  return (id, ticket)

/-- The packet of a request, with its frame. -/
def Request.parcel (r : Request) (id : Int) : Except Fault (Packet × Bytes) :=
  match r.build id with
  | .error f => .error f
  | .ok p => (p.encode.mapError Fault.unencodable).map fun frame => (p, frame)

/-- Makes the packet of a request that was entered, and its frame. A request that cannot be made
leaves its id free. -/
def make (r : Request) (id : Int) : Step (Link σ) (Packet × Bytes) := do
  modify fun l => if r.hangsUp then l.close else l
  match Request.parcel r id with
  | .error f =>
    modify fun l => { l with exchange := l.exchange.withdraw id }
    throw f
  | .ok parcel => return parcel

/-- Sends a request and gives its ticket. -/
def submit (r : Request) : Step (Link σ) Ticket := do
  let (id, ticket) ← enroll
  let (_, frame) ← make r id
  try
    ensureHealthy
    transmit frame
  catch f =>
    writeFailed id f
  return ticket

/-- The reply to a request. If none comes, the stream is taken to be over. -/
def await (t : Ticket) : Step (Link σ) Packet := do
  modify fun l =>
    if l.exchange.standing t = .waiting then l.receive [.ending .closed] else l
  let l ← get
  match l.exchange.standing t with
  | .answered p => return p
  | .lost message => throw (.lost message)
  | _ => throw .timedOut

/-- Sends a request and waits for its reply. -/
def send (r : Request) : Step (Link σ) Packet := do
  let t ← submit r
  await t

/-- Stops waiting for a reply; false if the request has ended already. -/
def abandon (t : Ticket) : Step (Link σ) Bool :=
  Step.ofFunction fun l =>
    let (isWithdrawn, exchange) := l.exchange.abandon t
    (.ok isWithdrawn, { l with exchange })

/-- Sends a request and does not wait: without a reply at once, the caller gives up. -/
def poll (r : Request) : Step (Link σ) Packet := do
  let t ← submit r
  let l ← get
  match l.exchange.standing t with
  | .answered p => return p
  | .lost message => throw (.lost message)
  | _ =>
    let _ ← abandon t
    throw .timedOut

/-- Closes the stream. -/
def closeLine : Step (Link σ) Unit := do
  let l ← get
  let (fault, line) := l.line.close
  set ({ l with line }.rest)
  match fault with
  | some f => throw f
  | none => return

end Link

end Sftp
