import AuditRelay.Nats.Address
import AuditRelay.Nats.Client
import AuditRelay.Nats.Seed

/-!
# A server and its connector

A server lets clients in or not, has a stream or makes one when asked, and acknowledges messages.
What it will do is laid down beforehand, and so is what a client makes of it that waits for a
connection and for answers no longer than its limits allow. Where nothing is laid down all goes
well. The server keeps what clients have shown and asked.
-/

namespace AuditRelay.Nats

/-- How a server meets a client. -/
inductive Greeting where
  | welcome
  /-- The client is not let in. -/
  | violation
  /-- The connection is closed before a word is said. -/
  | silence
  /-- The client gives up for another reason, such as that it has waited too long. -/
  | failed (reason : String)
  deriving DecidableEq, Repr

/-- What a server does with one client. -/
structure Session where
  greeting : Greeting
  /-- The answer to the question for the stream. -/
  lookup : Answer Unit
  /-- The answer to the wish for a new stream. -/
  create : Answer Unit
  /-- Milliseconds until all of this is over. -/
  delay : Nat

/-- The error of a server that does not have the stream. -/
def notFound : ServerError := ⟨404, 10059, some "stream not found"⟩

/-- A client is let in, and a stream is made for it. -/
def Session.well : Session := ⟨.welcome, .refused notFound, .given (), 0⟩

/-- What a client asks about a stream. -/
inductive StreamRequest where
  | lookup
  | create
  deriving DecidableEq, Repr

/-- What a client has shown and asked; the way in is not known of a client that was not greeted. -/
structure Visit where
  auth : Option Auth
  config : Config
  requests : List StreamRequest
  deriving DecidableEq, Repr

/-- What stands between clients and a server. -/
structure Barriers where
  /-- Why it cannot be found by its name, if it cannot. -/
  lookup : Option String
  /-- Why it cannot be reached, if it cannot. -/
  connection : Option String
  deriving DecidableEq, Repr

/-- A server. -/
structure Server where
  barriers : Barriers
  /-- What is laid down for the next clients, whatever their limits are. -/
  sessions : List (Limits → Session)
  /-- What is laid down for the next messages. -/
  acks : List (Timed Ack)
  /-- The newest first. -/
  visits : List Visit
  /-- The messages received; the newest first. -/
  received : List Message

namespace Server

/-- A server that no client has visited. -/
def new (barriers : Barriers) (sessions : List (Limits → Session)) (acks : List (Timed Ack)) :
    Server :=
  ⟨barriers, sessions, acks, [], []⟩

/-- The name of the stream in acknowledgments that are not laid down. -/
def streamName : String := "AUDIT_LOG"

/-- Milliseconds until a client knows that it does not get as far as the server. -/
def patience : Nat := 1

/-- The reply to an attempt to connect that has failed. -/
def unconnected (delay : Nat) (f : Failure) : Reply Unit := ⟨some delay, .error f, []⟩

/-- The failure of a client that was not let in. -/
def connectFailure (c : Config) (reason : String) : Failure :=
  .connection (c.url ++ ": " ++ reason)

/-- Why a name is none for a stream. -/
def nameFault? (name : String) : Option String :=
  if name = "" then some "stream name cannot be empty"
  else if name.toList.any fun c => c.isWhitespace || c == '\x0c' || ".*>".toList.contains c then
    some "stream name cannot contain `.`, `_`"
  else none

/-- The failure of a client whose stream cannot be had. -/
def streamFailure (c : Config) (reason : String) : Failure :=
  .stream ("Failed to create/get stream '" ++ c.stream ++ "': " ++ reason)

/-- The events of a client that is let in. -/
def connected (c : Config) : Event where
  severity := .info
  part := .natsClient
  message := "Connected to NATS"
  fields := [("url", .text c.url), ("auth", .text c.auth.display)]

/-- The event of a client whose stream is there. -/
def streamReady (c : Config) : Event where
  severity := .info
  part := .natsClient
  message := "JetStream stream ready"
  fields := [("stream", .text c.stream), ("subjects", .text (Text.quotedList c.subjects)),
    ("replicas", .number c.replicas.toNat)]

/-- Looks for the stream and makes it if the server does not have it: what was asked, and why the
stream cannot be had. -/
def ensureStream (c : Config) (s : Session) : List StreamRequest × Option String :=
  match nameFault? c.stream with
  | some reason => ([], some reason)
  | none =>
    match s.lookup with
    | .refused e =>
      if e.code = 404 then ([.lookup, .create], s.create.streamFault?)
      else ([.lookup], s.lookup.streamFault?)
    | a => ([.lookup], a.streamFault?)

/-- A client is turned down in a session: the reply, and what the server has seen. -/
def turnDown (c : Config) (s : Session) (auth : Option Auth) (reason : String) :
    Reply Unit × Visit :=
  (unconnected s.delay (connectFailure c reason), ⟨auth, c, []⟩)

/-- A client shows its way in, which the server accepts or not. -/
def letIn (c : Config) (s : Session) (accepts : Bool) : Reply Unit × Visit :=
  let signs := match c.auth with
    | .signingKey seed => Seed.isSeed seed
    | _ => true
  if !signs then turnDown c s none "failed signing nonce"
  else if !accepts then
    turnDown c s (some c.auth) "authorization violation: nats: authorization violation"
  else
    let (asked, fault) := ensureStream c s
    let visit : Visit := ⟨some c.auth, c, asked⟩
    match fault with
    | some reason => (⟨some s.delay, .error (streamFailure c reason), [connected c]⟩, visit)
    | none => (⟨some s.delay, .ok (), [connected c, streamReady c]⟩, visit)

/-- What a client meets in a session: the reply, and what the server has seen. -/
def meet (c : Config) (s : Session) : Reply Unit × Visit :=
  match s.greeting with
  | .welcome => letIn c s true
  | .violation => letIn c s false
  | .silence => turnDown c s none "IO error: expected INFO, got nothing"
  | .failed reason => turnDown c s none reason

/-- Why a client does not get as far as the server. -/
def obstacle? (c : Config) (b : Barriers) : Option String :=
  match Address.ofUrl c.url with
  | .error fault => some ("failed to parse server or server list: " ++ fault.message)
  | .ok a =>
    let lookup := if a.isKnown then none else b.lookup.map ("DNS error: " ++ ·)
    lookup.or (b.connection.map ("IO error: " ++ ·))

/-- A client connects. -/
def connect (c : Config) (s : Server) : Reply Unit × Server :=
  match obstacle? c s.barriers with
  | some reason => (unconnected patience (connectFailure c reason), s)
  | none =>
    let (reply, visit) := meet c (s.sessions.headD (fun _ => .well) c.limits)
    (reply, { s with sessions := s.sessions.tail, visits := visit :: s.visits })

/-- The acknowledgment of a message when none is laid down; `before` messages came before it. -/
def ack (before : Nat) : Ack := ⟨streamName, before + 1, false⟩

/-- A client sends a message. -/
def send (c : Config) (m : Message) (s : Server) : Reply Nat × Server :=
  let before := s.received.length
  let d := deliver c.retries.toNat c.backoff.toNat m (fun made => ack (before + made)) 0 s.acks
  (d.reply, { s with acks := d.left, received := List.replicate d.requests m ++ s.received })

end Server

/-- The connector for a configuration. -/
def connector (c : Config) : Connector Server where
  transport := transport
  client := transport
  connect := Server.connect c
  send := Server.send c
  failures s := s.acks.length

end AuditRelay.Nats
