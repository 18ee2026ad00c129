import AuditRelay.Dispatch.Dispatcher
import AuditRelay.Nats.Config

/-!
# The pipeline

A pipeline is what a service holds: producers give it logs, and once it is initialised its
dispatcher publishes them. Logs that are given before wait in the queue.

A pipeline that is bypassed, or whose initialisation has failed, is disabled for good: it throws
away every log and never asks a broker for anything. One that was shut down closes its queue. The
queue has its receiver as long as the pipeline is neither started nor closed; the dispatcher takes
the receiver with it.
-/

namespace AuditRelay

/-- A pipeline. -/
structure Pipeline (β : Type) where
  settings : Settings
  /-- Whether logs are thrown away. -/
  disabled : Bool
  /-- What the dispatcher was started for. -/
  assignment : Option (Assignment β)
  dispatcher : Dispatcher β
  around : Surroundings
  /-- What the calls tell; the newest first. -/
  events : List Event

namespace Pipeline

variable {β : Type}

/-- The name of the thread of the dispatcher. -/
def workerThread : String := "audit-dispatcher"

/-- The capacity of the queue; there is at least one place. -/
def capacityOf (s : Settings) : Nat :=
  max s.capacity.toNat 1

/-- A pipeline that was not initialised. There is none for a queue that is too large. -/
def new? (s : Settings) (broker : β) (ids : IdStream) (around : Surroundings) :
    Option (Pipeline β) :=
  (Queue.new? (capacityOf s)).map fun q => {
    settings := s
    disabled := s.bypass
    assignment := none
    dispatcher := .new broker q ids
    around := around
    events := [] }

/-! ## What a pipeline is -/

/-- Whether the dispatcher was started. -/
def isStarted (p : Pipeline β) : Bool :=
  p.assignment.isSome

/-- Whether the pipeline was shut down. -/
def isCancelled (p : Pipeline β) : Bool :=
  p.dispatcher.worker.cancelled

/-- Whether the pipeline still has the receiver of the queue. -/
def holdsReceiver (p : Pipeline β) : Bool :=
  p.assignment.isNone && p.dispatcher.queue.isOpen

/-- What is known about the connection. -/
def link (p : Pipeline β) : Link :=
  p.dispatcher.worker.link

/-- What happened to the logs so far. -/
def stats (p : Pipeline β) : Stats :=
  p.dispatcher.worker.stats

/-! ## What a pipeline tells -/

/-- Tells of an event. -/
def tell (p : Pipeline β) (severity : Severity) (message : String)
    (fields : List (String × FieldValue)) : Pipeline β :=
  { p with events := ⟨severity, .pipeline, message, fields⟩ :: p.events }

/-! ## Starting and ending -/

/-- Why a pipeline cannot be started whatever it is started with: what it tells then. -/
def refusal? (p : Pipeline β) : Option (Severity × String) :=
  if p.settings.bypass then some (.info, "Audit pipeline bypassed, not starting")
  else if p.disabled then some (.debug, "Audit pipeline disabled, ignoring init")
  else if p.isCancelled then some (.debug, "Audit pipeline shut down, ignoring init")
  else if p.isStarted then some (.debug, "Audit pipeline already initialized")
  else none

/-- Drops the receiver of the queue if the pipeline has it. -/
def closeQueue (p : Pipeline β) : Pipeline β :=
  if p.holdsReceiver then
    { p with dispatcher := p.dispatcher.closeQueue }.tell .debug
      "Audit queue closed before the dispatcher started" []
  else p

/-- Disables a pipeline for a reason. -/
def disable (p : Pipeline β) (reason : String) : Pipeline β :=
  { p with disabled := true }.closeQueue.tell .error "Audit pipeline disabled"
    [("reason", .text reason)]

/-- The reason for which a failure disables a pipeline. -/
def failedBecause (e : Failure) : String :=
  "audit init failed: " ++ e.message

/-- The reason for which an endpoint of another kind of broker disables a pipeline. -/
def wrongTransport (expected given : String) : String :=
  "audit init failed, mq type is not " ++ expected ++ ", mq type is " ++ given

/-- Starts the dispatcher. -/
def start (p : Pipeline β) (c : Connector β) (e : Endpoint) : Pipeline β :=
  let a : Assignment β := ⟨p.settings, c, p.around⟩
  { p with assignment := some a, dispatcher := p.dispatcher.start a }.tell .info
    "Audit pipeline started"
    [("transport", .text e.transport), ("host", .text e.host), ("port", .number e.port.toNat),
      ("topic", .text p.settings.topic)]

/-- Starts a pipeline with a connector, unless something is against it; the endpoint has to name the
kind of broker that the connector serves. Tells whether this call has started the dispatcher. -/
def initWith (p : Pipeline β) (c : Connector β) (e : Endpoint) : Bool × Pipeline β :=
  match p.refusal? with
  | some (severity, message) => (false, p.tell severity message [])
  | none =>
    if e.transport ≠ c.transport then
      (false, p.disable (wrongTransport c.transport e.transport))
    else
      match p.settings.defect? with
      | some d => (false, p.disable (failedBecause (.config d.message)))
      | none =>
        if p.holdsReceiver then (true, p.start c e)
        else (false, p.tell .debug "Audit pipeline already initialized" [])

/-- Starts a pipeline with a client of NATS; `connector` makes the connector for a
configuration. -/
def init (p : Pipeline β) (connector : Nats.Config → Connector β) (e : Endpoint) :
    Bool × Pipeline β :=
  match p.refusal? with
  | some (severity, message) => (false, p.tell severity message [])
  | none =>
    if e.transport ≠ Nats.transport then
      (false, p.disable (wrongTransport Nats.transport e.transport))
    else
      match Nats.Config.ofSettings e p.settings with
      | .ok config => p.initWith (connector config) e
      | .error f => (false, p.disable (failedBecause f))

/-- Shuts a pipeline down: the dispatcher gives up, and without a dispatcher the queue is closed.
Logs that are still in the queue are lost. -/
def shutdown (p : Pipeline β) : Pipeline β :=
  let p := p.tell .info "Audit pipeline shutting down" []
  { p with dispatcher := p.dispatcher.cancel }.closeQueue

/-! ## Recording -/

/-- What becomes of a log that is given to a pipeline. -/
inductive Receipt where
  /-- The queue has accepted it. -/
  | accepted
  /-- It was thrown away because the pipeline is disabled; to the caller that is as good. -/
  | discarded
  /-- The queue is full, and the caller waits. -/
  | waiting
  /-- The queue is closed. -/
  | closed
  deriving DecidableEq, Repr

/-- How a call with that receipt ends, if it does not wait. -/
def Receipt.ending : Receipt → Option (Except Failure Unit)
  | accepted => some (.ok ())
  | discarded => some (.ok ())
  | waiting => none
  | closed => some (.error .queueClosed)

/-- Gives a log to a pipeline; the ticket tells this call from others. A caller that finds the queue
full stays or goes away. -/
def submit (p : Pipeline β) (ticket : Nat) (stays : Bool) (l : Log) : Receipt × Pipeline β :=
  if p.disabled then
    (.discarded, p.tell .debug "Audit pipeline disabled, log discarded"
      [("operation", .text l.operation)])
  else
    let (r, d) := p.dispatcher.submit ticket stays l
    let receipt := match r with
      | .accepted => Receipt.accepted
      | .full => Receipt.waiting
      | .closed => Receipt.closed
    (receipt, { p with dispatcher := d })

/-- Comes back with a log. -/
def comeBack (p : Pipeline β) (ticket : Nat) (l : Log) : Pipeline β :=
  { p with dispatcher := p.dispatcher.comeBack ticket l }

/-- Gives up waiting. -/
def abandon (p : Pipeline β) (ticket : Nat) : Pipeline β :=
  { p with dispatcher := p.dispatcher.abandon ticket }

/-- How the waiting of a call has ended, if it has. -/
def answer? (p : Pipeline β) (ticket : Nat) : Option (Except Failure Unit) :=
  (p.dispatcher.arrivals.find? (·.ticket = ticket)).map fun r =>
    if r.accepted then .ok () else .error .queueClosed

/-! ## In time -/

/-- Lets the dispatcher do what it can do at this moment. -/
def settle (p : Pipeline β) : Pipeline β :=
  match p.assignment with
  | some a => { p with dispatcher := p.dispatcher.settle a }
  | none => p

/-- Lets time pass until the dispatcher has something to do, if there is such a moment. -/
def sleep? (p : Pipeline β) : Option (Pipeline β) :=
  p.dispatcher.due?.map fun t => { p with dispatcher := p.dispatcher.waitUntil t }.settle

/-- Lets time pass until something holds; the dispatcher is awaited at most `patience` times. Tells
whether it holds. -/
def passUntil (holds : Pipeline β → Bool) : (patience : Nat) → Pipeline β → Bool × Pipeline β
  | 0, p => (holds p, p)
  | n + 1, p =>
    if holds p then (true, p)
    else
      match p.sleep? with
      | some p => passUntil holds n p
      | none => (false, p)

end Pipeline

end AuditRelay
