import AuditRelay.Dispatch.Worker
import AuditRelay.Log.Enrich
import AuditRelay.Queue

/-!
# The dispatcher

The dispatcher stands between the queue and the broker. It connects, and then takes one log at a
time from the queue, fills in what the caller did not give, and publishes it; the next log is taken
only when the broker has acknowledged the one before. So the broker gets the logs in the order in
which the queue accepted them. It ends when it is told to give up, or when the queue is empty and no
producer is left.

The moves are `proceed?`, which goes on with the work, and `quit?`, which notices the signal to give
up. Around the dispatcher producers bring logs, wait and give up waiting, the last producer goes
away, the signal is given and time passes.
-/

namespace AuditRelay

/-- What is decided outside the program, anew for each log. -/
structure Surroundings where
  /-- The random numbers by which partitions are chosen. -/
  chance : Nat → Nat
  /-- The orders in which the details are written. -/
  order : Nat → Detail.Order
  /-- What takes logs that cannot be written, if there is anything. -/
  handler : Option DeadLetterHandler

/-- Surroundings in which only the random numbers are given. -/
def Surroundings.ofChance (chance : Nat → Nat) : Surroundings :=
  ⟨chance, fun _ => .ascending, none⟩

instance : Coe (Nat → Nat) Surroundings := ⟨.ofChance⟩

/-- What a dispatcher is made for. -/
structure Assignment (β : Type) where
  settings : Settings
  connector : Connector β
  around : Surroundings

namespace Assignment

variable {β : Type}

/-- Milliseconds between two attempts. -/
def interval (a : Assignment β) : Nat :=
  a.settings.interval.toNat

/-- The message of a log that is taken when so many were taken before, if it can be written. -/
def message? (a : Assignment β) (taken : Nat) (l : Log) : Except Failure Message :=
  Message.ofLog? a.settings (a.around.chance taken) l (a.around.order taken)

/-- The message of a log that is taken when so many were taken before. -/
def message (a : Assignment β) (taken : Nat) (l : Log) : Message :=
  Message.ofLog a.settings (a.around.chance taken) l (a.around.order taken)

/-- Every log has a message. -/
theorem message?_eq (a : Assignment β) (taken : Nat) (l : Log) :
    a.message? taken l = .ok (a.message taken l) :=
  Message.ofLog?_eq ..

end Assignment

/-- What a dispatcher is doing. -/
inductive Stage where
  /-- Not started. -/
  | dormant
  | connecting (trial : Trial Unit)
  /-- Waiting for a log. -/
  | idle
  | publishing (log : Log) (message : Message) (trial : Trial Nat)
  /-- Ended at a moment. -/
  | stopped (time : Nat)

/-- What became of a log that a producer brought. -/
structure Arrival where
  ticket : Nat
  /-- When it was decided. -/
  time : Nat
  /-- Whether the queue accepted the log; otherwise it was closed. -/
  accepted : Bool
  deriving DecidableEq, Repr

/-- A dispatcher and its queue. -/
structure Dispatcher (β : Type) where
  worker : Worker β
  queue : Queue Log
  /-- Whether there are producers besides those who wait. -/
  producers : Bool
  stage : Stage
  ids : IdStream
  /-- Logs taken from the queue. -/
  taken : Nat
  /-- The newest first. -/
  arrivals : List Arrival

namespace Dispatcher

variable {β : Type}

/-- A dispatcher that was not started. -/
def new (broker : β) (queue : Queue Log) (ids : IdStream) : Dispatcher β :=
  ⟨.new broker .disconnected, queue, true, .dormant, ids, 0, []⟩

/-- Tells of an event. -/
def tell (d : Dispatcher β) (e : Event) : Dispatcher β :=
  { d with worker := d.worker.tell e }

/-! ## What producers do -/

/-- Decides about the logs with some tickets. -/
def resolve (d : Dispatcher β) (tickets : List Nat) (accepted : Bool) : Dispatcher β :=
  let decided := tickets.map fun t => (⟨t, d.worker.now, accepted⟩ : Arrival)
  { d with arrivals := decided.reverse ++ d.arrivals }

/-- A producer brings a log without waiting for a place. -/
def offer (d : Dispatcher β) (l : Log) : Queue.Admission × Dispatcher β :=
  let (r, q) := d.queue.offer l
  (r, { d with queue := q })

/-- A producer brings a log and waits for a place if there is none; it stays or goes away. -/
def submit (d : Dispatcher β) (ticket : Nat) (stays : Bool) (l : Log) :
    Queue.Admission × Dispatcher β :=
  let (r, q) := d.queue.submit ticket stays l
  let d := { d with queue := q }
  match r with
  | .accepted => (r, d.resolve [ticket] true)
  | .closed => (r, d.resolve [ticket] false)
  | .full => (r, d)

/-- A producer that has gone away comes back with its log. -/
def comeBack (d : Dispatcher β) (ticket : Nat) (l : Log) : Dispatcher β :=
  let (admitted, q) := d.queue.comeBack ticket l
  { d with queue := q }.resolve (if admitted then [ticket] else []) true

/-- A producer gives up waiting. -/
def abandon (d : Dispatcher β) (ticket : Nat) : Dispatcher β :=
  let (admitted, q) := d.queue.abandon ticket
  { d with queue := q }.resolve admitted.toList true

/-- The last producer that does not wait goes away. -/
def leave (d : Dispatcher β) : Dispatcher β :=
  { d with producers := false }

/-- The signal to give up is given. -/
def cancel (d : Dispatcher β) : Dispatcher β :=
  { d with worker := { d.worker with cancelled := true } }

/-- Time passes until a moment. -/
def waitUntil (d : Dispatcher β) (t : Nat) : Dispatcher β :=
  { d with worker := d.worker.waitUntil t }

/-! ## What the dispatcher does -/

/-- The queue loses its receiver. -/
def closeQueue (d : Dispatcher β) : Dispatcher β :=
  let (tickets, q) := d.queue.close
  { d with queue := q }.resolve tickets false

/-- The dispatcher ends. -/
def stop (d : Dispatcher β) : Dispatcher β :=
  { d with stage := .stopped d.worker.now }.closeQueue

/-- The event of a dispatcher that is connected. -/
def running (a : Assignment β) : Event where
  severity := .info
  part := .dispatcher
  message := "Audit dispatcher running"
  fields := [("topic", .text a.settings.topic)]

/-- The event of a dispatcher that has ended before it was connected. -/
def unconnected : Event where
  severity := .info
  part := .dispatcher
  message := "Audit dispatcher stopped before connecting"
  fields := [("error", .text Failure.cancelled.message)]

/-- The event of a log that is published. -/
def published (sequence attempts : Nat) : Event where
  severity := .debug
  part := .dispatcher
  message := "Audit log published"
  fields := [("sequence", .number sequence), ("attempts", .number attempts)]

/-- The event of a log that cannot be published. -/
def unpublished (r : Worker.Rejection) : Event where
  severity := .debug
  part := .dispatcher
  message := "Audit log not published"
  fields := [("outcome", .text r.name)]

/-- The event of a queue from which nothing will come any more. -/
def exhausted : Event where
  severity := .info
  part := .dispatcher
  message := "Audit queue closed, dispatcher exiting"
  fields := []

/-- The event of a dispatcher that has ended. -/
def halted (s : Stats) : Event where
  severity := .info
  part := .dispatcher
  message := "Audit dispatcher stopped"
  fields := [("stats", .text s.display)]

/-- Starts. -/
def start (a : Assignment β) (d : Dispatcher β) : Dispatcher β :=
  { d with stage := .connecting .start }.tell (Worker.dialing a.connector a.interval)

/-- Ends after it was connected. -/
def finish (d : Dispatcher β) : Dispatcher β :=
  (d.tell (halted d.worker.stats)).stop

/-- Takes up where connecting has come to. -/
def connect (a : Assignment β) (d : Dispatcher β) : Trial Unit × Worker β → Dispatcher β
  | (.succeeded _ _, w) => { d with worker := w, stage := .idle }.tell (running a)
  | (.cancelled, w) => ({ d with worker := w }.tell unconnected).stop
  | (t, w) => { d with worker := w, stage := .connecting t }

/-- Takes up where publishing has come to. -/
def publish (d : Dispatcher β) (l : Log) (m : Message) : Trial Nat × Worker β → Dispatcher β
  | (.succeeded made sequence, w) =>
    { d with worker := w, stage := .idle }.tell (published sequence made)
  | (.cancelled, w) => { d with worker := w }.finish
  | (t, w) => { d with worker := w, stage := .publishing l m t }

/-- Begins with a log that was taken: either there is a message to be published, or the log is put
aside. -/
def begin (a : Assignment β) (d : Dispatcher β) (l : Log) : Except Failure Message → Dispatcher β
  | .ok m => { d with stage := .publishing l m .start }.tell (Worker.posting l m)
  | .error e =>
    let (r, w) := d.worker.reject a.around.handler l e
    { d with worker := w }.tell (unpublished r)

/-- Takes a log from the queue. -/
def take? (a : Assignment β) (d : Dispatcher β) : Option (Dispatcher β) :=
  match d.queue.take? with
  | some (raw, admitted, q) =>
    let (id, ids) := d.ids.draw
    let l := raw.enrich a.settings.origin id
    let taken := { d with queue := q, ids := ids, taken := d.taken + 1 }
    some ((taken.resolve admitted.toList true).begin a l (a.message? d.taken l))
  | none =>
    if !d.producers && d.queue.drained then some (d.tell exhausted).finish else none

/-- **A log that is taken is published**: as every log has a message, none is ever put aside. -/
theorem take?_of_taken {a : Assignment β} {d : Dispatcher β} {raw : Log} {admitted : Option Nat}
    {q : Queue Log} (taken : d.queue.take? = some (raw, admitted, q)) :
    d.take? a =
      let l := raw.enrich a.settings.origin d.ids.draw.1
      let m := a.message d.taken l
      some (({ d with
        queue := q
        ids := d.ids.draw.2
        taken := d.taken + 1
        stage := .publishing l m .start }.resolve admitted.toList true).tell
          (Worker.posting l m)) := by
  rw [take?, taken]
  simp only [Assignment.message?_eq]
  rfl

/-- Goes on with the work, if there is something to do now. -/
def proceed? (a : Assignment β) (d : Dispatcher β) : Option (Dispatcher β) :=
  match d.stage with
  | .connecting t => (Worker.dial? a.connector a.interval (t, d.worker)).map (d.connect a)
  | .idle => d.take? a
  | .publishing l m t =>
    (Worker.post? a.connector a.interval m (t, d.worker)).map (d.publish l m)
  | _ => none

/-- Notices the signal to give up. -/
def quit? (a : Assignment β) (d : Dispatcher β) : Option (Dispatcher β) :=
  match d.stage with
  | .connecting t => (Worker.quitDial? (t, d.worker)).map (d.connect a)
  | .idle => if d.worker.cancelled then some d.finish else none
  | .publishing l m t => (Worker.quitPost? (t, d.worker)).map (d.publish l m)
  | _ => none

/-- The moment that the dispatcher waits for. -/
def due? (d : Dispatcher β) : Option Nat :=
  match d.stage with
  | .connecting t => t.due?
  | .publishing _ _ t => t.due?
  | _ => none

/-- The moment at which the dispatcher ended. -/
def stoppedAt? (d : Dispatcher β) : Option Nat :=
  match d.stage with
  | .stopped t => some t
  | _ => none

/-! ## In time -/

/-- A dispatcher in time; the signal to give up is noticed before anything else. -/
def clockwork (a : Assignment β) : Clockwork (Dispatcher β) where
  act? d := (d.quit? a).or (d.proceed? a)
  due? d := d.due?
  wait t d := d.waitUntil t

/-- The moves that a dispatcher makes at most when nothing comes from outside: five for an attempt
that fails, six for each log, and some at the ends. -/
def workload (a : Assignment β) (d : Dispatcher β) : Nat :=
  5 * a.connector.failures d.worker.broker
    + 6 * (d.queue.items.length + d.queue.waiting.length) + 16

/-- Does what can be done at this moment. -/
def settle (a : Assignment β) (d : Dispatcher β) : Dispatcher β :=
  (clockwork a).settle (d.workload a) d

/-- Works until a moment. -/
def runUntil (a : Assignment β) (t : Nat) (d : Dispatcher β) : Dispatcher β :=
  (clockwork a).runUntil (some t) (d.workload a) d

/-- What can happen around a dispatcher. -/
inductive Incident where
  /-- A producer brings a log and waits for a place. -/
  | bring (ticket : Nat) (l : Log)
  /-- The last producer that does not wait goes away. -/
  | leave
  /-- The signal to give up is given. -/
  | cancel

/-- What an incident changes. A producer that has gone away brings nothing. -/
def incident (i : Incident) (d : Dispatcher β) : Dispatcher β :=
  match i with
  | .bring ticket l => if d.producers then (d.submit ticket true l).2 else d
  | .leave => d.leave
  | .cancel => d.cancel

/-- Works until a moment, at which something happens, and then does what can be done. -/
def meet (a : Assignment β) (t : Nat) (i : Incident) (d : Dispatcher β) : Dispatcher β :=
  ((d.runUntil a t).incident i).settle a

/-- Works through incidents at given moments. -/
def follow (a : Assignment β) (schedule : List (Nat × Incident)) (d : Dispatcher β) :
    Dispatcher β :=
  schedule.foldl (fun d e => d.meet a e.1 e.2) d

end Dispatcher

end AuditRelay
