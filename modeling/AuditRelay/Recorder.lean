import AuditRelay.Pipeline

/-!
# Recording, and waiting for it

Producers give their logs to a pipeline in calls. A call whose log finds the queue full waits, and
ends when the log is accepted or the queue is closed, unless it is abandoned before. A call that
waits does nothing until it is looked after: only then its log takes the place that may have become
free meanwhile. Calls are told apart by their numbers. Other producers block a thread of their own
until their log is accepted or refused, and stay where they are.

Every call has a ticket of its own, an even one for a call and an odd one for a thread, so that the
pipeline never confuses two of them.
-/

namespace AuditRelay

/-- What a call gives back once it has ended. -/
abbrev Ending := Except Failure Unit

/-- A thread that has given a log: its number, and what the log got at once. -/
structure Caller where
  number : Nat
  receipt : Pipeline.Receipt
  deriving DecidableEq, Repr

/-- A pipeline and the calls of its producers. -/
structure Recorder (β : Type) where
  pipeline : Pipeline β
  /-- Number of calls so far. -/
  made : Nat
  /-- The calls whose end was not noticed yet and their logs, the oldest in front. -/
  waiting : List (Nat × Log)
  /-- Number of threads so far. -/
  spawned : Nat
  /-- The threads that were not joined, the oldest in front. -/
  callers : List Caller

namespace Recorder

variable {β : Type}

/-- Nobody has called. -/
def new (p : Pipeline β) : Recorder β := ⟨p, 0, [], 0, []⟩

/-- The ticket of a call. -/
def callTicket (call : Nat) : Nat := 2 * call

/-- The ticket of a thread. -/
def threadTicket (thread : Nat) : Nat := 2 * thread + 1

/-- How a call has ended, if it has. -/
def answer? (r : Recorder β) (call : Nat) : Option Ending :=
  r.pipeline.answer? (callTicket call)

/-! ## Calls -/

/-- Records a log in a call of its own, and tells how the call ends if it does so at once. -/
def record (r : Recorder β) (l : Log) : Option Ending × Recorder β :=
  let (receipt, p) := r.pipeline.submit (callTicket r.made) false l
  let waiting := if receipt = .waiting then r.waiting ++ [(r.made, l)] else r.waiting
  (receipt.ending, { r with pipeline := p.settle, made := r.made + 1, waiting := waiting })

/-- Records a log some times over: the numbers of the calls, and their ends. -/
def recordMany (r : Recorder β) (l : Log) : (times : Nat) → List (Nat × Option Ending) × Recorder β
  | 0 => ([], r)
  | n + 1 =>
    let (e, s) := r.record l
    let (es, s) := s.recordMany l n
    ((r.made, e) :: es, s)

/-- Looks after the calls that wait, one after another. -/
def poll (r : Recorder β) : Recorder β :=
  let p := r.waiting.foldl (fun p c => p.comeBack (callTicket c.1) c.2) r.pipeline
  { r with pipeline := p.settle }

/-- The calls that still wait. -/
def stillWaiting (r : Recorder β) : List (Nat × Log) :=
  r.waiting.filter fun c => (r.answer? c.1).isNone

/-- Whether a place is kept for a call. -/
def isKept (r : Recorder β) (call : Nat) : Bool :=
  r.pipeline.dispatcher.queue.kept.contains (callTicket call)

/-- Looks after the calls that wait, and notices those that have ended and how. -/
def collect (r : Recorder β) : List (Nat × Ending) × Recorder β :=
  let r := r.poll
  (r.waiting.filterMap fun c => (r.answer? c.1).map fun e => (c.1, e),
    { r with waiting := r.stillWaiting })

/-- Abandons a call, and tells whether it was among those that wait. -/
def abandon (r : Recorder β) (call : Nat) : Bool × Recorder β :=
  if r.waiting.any (·.1 = call) then
    (true, { r with
      pipeline := (r.pipeline.abandon (callTicket call)).settle
      waiting := r.waiting.filter (·.1 ≠ call) })
  else (false, r)

/-- Lets time pass until something holds, and looks after the calls meanwhile; the dispatcher is
awaited at most `patience` times. Tells whether it holds. -/
def passUntil (holds : Recorder β → Bool) : (patience : Nat) → Recorder β → Bool × Recorder β
  | 0, r => (holds r, r)
  | n + 1, r =>
    let r := r.poll
    if holds r then (true, r)
    else if r.waiting.any fun c => r.isKept c.1 then passUntil holds n r
    else
      match r.pipeline.sleep? with
      | some p => passUntil holds n { r with pipeline := p }
      | none => (false, r)

/-! ## Threads that block -/

/-- Gives a log on a new thread. -/
def call (r : Recorder β) (l : Log) : Caller × Recorder β :=
  let (receipt, p) := r.pipeline.submit (threadTicket r.spawned) true l
  (⟨r.spawned, receipt⟩, { r with pipeline := p.settle, spawned := r.spawned + 1 })

/-- Gives a log on a new thread that is joined later. -/
def spawn (r : Recorder β) (l : Log) : Recorder β :=
  let (c, r) := r.call l
  { r with callers := r.callers ++ [c] }

/-- Waits for the end of a thread; the dispatcher is awaited at most `patience` times. -/
def await (r : Recorder β) (patience : Nat) (c : Caller) : Option Ending × Recorder β :=
  match c.receipt.ending with
  | some e => (some e, r)
  | none =>
    let answer? (p : Pipeline β) := p.answer? (threadTicket c.number)
    let (_, p) := r.pipeline.passUntil (fun p => (answer? p).isSome) patience
    (answer? p, { r with pipeline := p })

/-- Gives a log and waits until it is accepted or refused. -/
def recordBlocking (r : Recorder β) (patience : Nat) (l : Log) : Option Ending × Recorder β :=
  let (c, r) := r.call l
  r.await patience c

/-- Waits for threads one after another. -/
def awaitAll (r : Recorder β) (patience : Nat) : List Caller → List (Option Ending) × Recorder β
  | [] => ([], r)
  | c :: rest =>
    let (e, r) := r.await patience c
    let (es, r) := r.awaitAll patience rest
    (e :: es, r)

/-- Waits for all threads. -/
def join (r : Recorder β) (patience : Nat) : List (Option Ending) × Recorder β :=
  { r with callers := [] }.awaitAll patience r.callers

/-- Waits until the queue is closed, and gives a log in vain. -/
def awaitClosed (r : Recorder β) (patience : Nat) (l : Log) : Option Ending × Recorder β :=
  let (_, p) := r.pipeline.passUntil (fun p => !p.dispatcher.queue.isOpen) patience
  let (c, r) := { r with pipeline := p }.call l
  (c.receipt.ending, r)

end Recorder

end AuditRelay
