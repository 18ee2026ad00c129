import AuditRelay.DeadLetters
import AuditRelay.Dispatch.Clockwork
import AuditRelay.Dispatch.Trial
import AuditRelay.Pause
import AuditRelay.Text.Duration

/-!
# What works on logs

A worker connects to the broker and publishes logs, one at a time. Both are tried until they
succeed. A signal tells the worker to give up: it is noticed during every pause, and while a message
is on its way, but an attempt to connect that has begun is always waited for.

Each move comes in two kinds. `dial?` and `post?` go on with what is being tried; `quitDial?` and
`quitPost?` notice the signal. When both can be made, either may happen.
-/

namespace AuditRelay

/-- What happened to the logs so far. -/
structure Stats where
  /-- Logs that the broker has acknowledged. -/
  published : Nat
  /-- Attempts to send that have failed. -/
  retries : Nat
  /-- Logs put aside. -/
  deadLettered : Nat
  /-- Logs lost. -/
  dropped : Nat
  deriving DecidableEq, Repr

namespace Stats

/-- Nothing has happened. -/
def zero : Stats := ⟨0, 0, 0, 0⟩

/-- The text of the counts. -/
def display (s : Stats) : String :=
  "StatsSnapshot \x7b published: " ++ toString s.published ++ ", retries: " ++ toString s.retries
    ++ ", dead_lettered: " ++ toString s.deadLettered ++ ", dropped: " ++ toString s.dropped
    ++ " \x7d"

end Stats

/-- A worker. -/
structure Worker (β : Type) where
  broker : β
  /-- Milliseconds since the beginning. -/
  now : Nat
  /-- Whether the worker was told to give up. -/
  cancelled : Bool
  link : Link
  stats : Stats
  /-- When attempts to connect were begun and what was known about the connection; the newest
  first. -/
  dials : List (Nat × Link)
  /-- When messages were sent; the newest first. -/
  sends : List (Nat × Message)
  /-- What the worker tells; the newest first. -/
  events : List Event

namespace Worker

variable {β : Type}

/-- A worker that has done nothing. -/
def new (broker : β) (link : Link) : Worker β :=
  ⟨broker, 0, false, link, .zero, [], [], []⟩

/-- Tells of an event. -/
def tell (w : Worker β) (e : Event) : Worker β :=
  { w with events := e :: w.events }

/-- Tells of events. -/
def tellAll (w : Worker β) (es : List Event) : Worker β :=
  { w with events := es.reverse ++ w.events }

/-! ## Connecting -/

/-- The event before the first attempt to connect. -/
def dialing (c : Connector β) (interval : Nat) : Event where
  severity := .info
  part := .connection
  message := "Creating audit broker client"
  fields := [("transport", .text c.transport), ("interval", .text (Text.duration interval))]

/-- The event about a client that is ready. -/
def dialed (c : Connector β) (made : Nat) : Event where
  severity := .info
  part := .connection
  message := "Audit broker client ready"
  fields := [("broker", .text c.client), ("attempt", .number made)]

/-- The event about an attempt to connect that has failed. -/
def dialFailed (made : Nat) (e : Failure) (interval : Nat) : Event where
  severity := .error
  part := .connection
  message := "Cannot connect to audit broker, create client failed"
  fields := [("attempt", .number made), ("error", .text e.message),
    ("retry_in", .text (Text.duration interval))]

/-- Goes on with connecting. -/
def dial? (c : Connector β) (interval : Nat) :
    Trial Unit × Worker β → Option (Trial Unit × Worker β)
  | (.ready made, w) =>
    if w.cancelled then some (.cancelled, { w with link := .disconnected })
    else
      let (reply, broker) := c.connect w.broker
      some (.asked (made + 1) w.now reply,
        { w with
          broker := broker
          link := .connecting
          dials := (w.now, .connecting) :: w.dials })
  | (.asked made since reply, w) =>
    if reply.hasArrived since w.now then
      match reply.answer with
      | .ok () =>
        some (.succeeded made (),
          ({ w with link := .connected }.tellAll reply.events).tell (dialed c made))
      | .error e =>
        some (.paused made (w.now + Pause.length interval),
          ({ w with link := .disconnected }.tellAll reply.events).tell
            (dialFailed made e interval))
    else none
  | (.paused made wake, w) => if wake ≤ w.now then some (.ready made, w) else none
  | _ => none

/-- Notices the signal to give up connecting. -/
def quitDial? : Trial Unit × Worker β → Option (Trial Unit × Worker β)
  | (.paused _ _, w) => if w.cancelled then some (.cancelled, w) else none
  | _ => none

/-! ## Publishing -/

/-- The event about a log that is about to be published. -/
def posting (l : Log) (m : Message) : Event where
  severity := .info
  part := .publisher
  message := "audit log"
  fields := [("log_id", .text l.id), ("payload", .text m.text)]

/-- The event about a message that was not taken. -/
def postFailed (m : Message) (made : Nat) (e : Failure) (interval : Nat) : Event where
  severity := .error
  part := .publisher
  message := "Send audit log failed, will try again"
  fields := [("log_id", .text m.id), ("subject", .text m.subject), ("attempt", .number made),
    ("error", .text e.message), ("retry_in", .text (Text.duration interval))]

/-- Goes on with publishing a message. -/
def post? (c : Connector β) (interval : Nat) (m : Message) :
    Trial Nat × Worker β → Option (Trial Nat × Worker β)
  | (.ready made, w) =>
    let (reply, broker) := c.send m w.broker
    some (.asked (made + 1) w.now reply,
      { w with broker := broker, sends := (w.now, m) :: w.sends })
  | (.asked made since reply, w) =>
    if reply.hasArrived since w.now then
      match reply.answer with
      | .ok sequence =>
        some (.succeeded made sequence,
          { w with stats := { w.stats with published := w.stats.published + 1 } }.tellAll
            reply.events)
      | .error e =>
        some (.paused made (w.now + Pause.length interval),
          ({ w with stats := { w.stats with retries := w.stats.retries + 1 } }.tellAll
            reply.events).tell (postFailed m made e interval))
    else none
  | (.paused made wake, w) => if wake ≤ w.now then some (.ready made, w) else none
  | _ => none

/-- Notices the signal to give up publishing. -/
def quitPost? : Trial Nat × Worker β → Option (Trial Nat × Worker β)
  | (t, w) => if w.cancelled && !t.isOver then some (.cancelled, w) else none

/-- The text of how publishing has ended; nothing while it goes on. -/
def outline : Trial Nat → String
  | .succeeded made sequence =>
    "Acknowledged \x7b sequence: " ++ toString sequence ++ ", attempts: " ++ toString made
      ++ " \x7d"
  | .cancelled => "Cancelled"
  | _ => ""

/-! ## What cannot be written -/

/-- What becomes of a log that cannot be written. -/
inductive Rejection where
  | deadLettered
  | dropped
  deriving DecidableEq, Repr

/-- The name of what becomes of such a log. -/
def Rejection.name : Rejection → String
  | deadLettered => "DeadLettered"
  | dropped => "Dropped"

/-- The event about a log that cannot be written. -/
def unwritable (l : Log) (e : Failure) : Event where
  severity := .error
  part := .publisher
  message := "Marshal audit log failed"
  fields := [("log_id", .text l.id), ("error", .text e.message)]

/-- The event about a handler of dead letters that has failed. -/
def handlerFailed (e : Failure) : Event where
  severity := .error
  part := .publisher
  message := "Dead letter handler failed, audit log dropped"
  fields := [("error", .text e.message)]

/-- Loses a log. -/
def lose (w : Worker β) : Rejection × Worker β :=
  (.dropped, { w with stats := { w.stats with dropped := w.stats.dropped + 1 } })

/-- Puts a log aside that cannot be written; without a handler, or if the handler fails, it is
lost. -/
def reject (handler : Option DeadLetterHandler) (l : Log) (e : Failure) (w : Worker β) :
    Rejection × Worker β :=
  let w := w.tell (unwritable l e)
  match handler with
  | none => w.lose
  | some handler =>
    let letter : DeadLetter := ⟨l, e.message, UInt64.ofNat w.now⟩
    let (answer, events) := handler.handle (w.stats.deadLettered + w.stats.dropped) letter
    let w := w.tellAll events
    match answer with
    | .ok () =>
      (.deadLettered,
        { w with stats := { w.stats with deadLettered := w.stats.deadLettered + 1 } })
    | .error e => (w.tell (handlerFailed e)).lose

/-! ## In time -/

/-- Lets time pass until a moment. Time never goes back. -/
def waitUntil (w : Worker β) (t : Nat) : Worker β :=
  { w with now := max w.now t }

/-- A trial and its worker in time; the signal to give up is noticed before anything else. The clock
stops when the trial is over. -/
def clockwork {α : Type} (go quit : Trial α × Worker β → Option (Trial α × Worker β)) :
    Clockwork (Trial α × Worker β) where
  act? s := (quit s).or (go s)
  due? s := s.1.due?
  wait t s := if s.1.isOver then s else (s.1, s.2.waitUntil t)

/-- The moves that a trial needs at most: five for an attempt that fails, and three for one that
succeeds. -/
def workload (c : Connector β) (w : Worker β) : Nat :=
  5 * c.failures w.broker + 8

/-- Runs a trial until it is over; the signal to give up comes some time after the beginning. -/
def runTrial {α : Type} (c : Connector β) (clock : Clockwork (Trial α × Worker β))
    (signal : Option Nat) (w : Worker β) : Trial α × Worker β :=
  let finish (s : Trial α × Worker β) := clock.runUntil none (s.2.workload c) s
  match signal with
  | none => finish (.start, { w with cancelled := false })
  | some 0 => finish (.start, { w with cancelled := true })
  | some t =>
    let begun : Trial α × Worker β := (.start, { w with cancelled := false })
    let s := clock.runUntil (some (w.now + Pause.length t)) (w.workload c) begun
    if s.1.isOver then s else finish (s.1, { s.2 with cancelled := true })

/-- Connects. The signal to give up comes `signal` milliseconds after the call. -/
def connect (c : Connector β) (interval : Nat) (signal : Option Nat) (w : Worker β) :
    Trial Unit × Worker β :=
  runTrial c (clockwork (dial? c interval) quitDial?) signal (w.tell (dialing c interval))

/-- Publishes a log as a message. The signal to give up comes `signal` milliseconds after the
call. -/
def publish (c : Connector β) (interval : Nat) (l : Log) (m : Message) (signal : Option Nat)
    (w : Worker β) : Trial Nat × Worker β :=
  runTrial c (clockwork (post? c interval m) quitPost?) signal (w.tell (posting l m))

end Worker

end AuditRelay
