import AuditRelay.Nats.Answer
import AuditRelay.Pause

/-!
# Sending a message to a stream

A client that sends a message repeats the request a bounded number of times, each time after the
same pause, before it reports a failure. Every request carries the same subject, the same id and the
same payload, so that the stream can tell a copy from a new message.
-/

namespace AuditRelay.Nats

/-- How far the sending of a message has come. -/
inductive Sending where
  /-- A request is on its way; `made` requests were made before. -/
  | asking (made : Nat)
  /-- The last of `made` requests has failed, and the next one follows after the pause. -/
  | resting (made : Nat)
  /-- The stream holds the message. -/
  | stored (sequence : Nat)
  /-- The last request that may be made has failed. -/
  | failed (reason : Failure)

namespace Sending

/-- The first request is made. -/
def start : Sending := asking 0

/-- An answer arrives; at most `retries` requests follow the first one. -/
def answered (retries : Nat) (r : Except Failure Nat) : Sending → Sending
  | asking made =>
    match r with
    | .ok sequence => stored sequence
    | .error e => if made < retries then resting (made + 1) else failed e
  | s => s

/-- The pause is over. -/
def rested : Sending → Sending
  | resting made => asking made
  | s => s

/-- Whether a request is on its way. -/
def isAsking : Sending → Bool
  | asking _ => true
  | _ => false

/-- What has come of the message. -/
def result? : Sending → Option (Except Failure Nat)
  | stored sequence => some (.ok sequence)
  | failed reason => some (.error reason)
  | _ => none

end Sending

/-! ## The events of a client -/

/-- The event about a request that is repeated. -/
def retried (m : Message) (failed retries : Nat) (e : Failure) : Event where
  severity := .warn
  part := .natsClient
  message := "Publish failed, retrying"
  fields := [("msg_id", .text m.id), ("subject", .text m.subject), ("attempt", .number failed),
    ("max_retries", .number retries), ("error", .text e.message)]

/-- The events about an acknowledgment. -/
def acknowledged (m : Message) (a : Ack) : List Event :=
  let duplicate : Event := {
    severity := .debug
    part := .natsClient
    message := "Stream reported duplicate, already stored"
    fields := [("msg_id", .text m.id)] }
  let stored : Event := {
    severity := .debug
    part := .natsClient
    message := "Audit log acknowledged"
    fields := [("msg_id", .text m.id), ("subject", .text m.subject), ("stream", .text a.stream),
      ("sequence", .number a.sequence)] }
  if a.duplicate then [duplicate, stored] else [stored]

/-! ## All requests of one message -/

/-- An answer and the milliseconds until it arrives. -/
structure Timed (α : Type) where
  delay : Nat
  answer : Answer α

/-- What comes of a message: the reply to the caller, the number of requests made and the answers
that are left. -/
structure Delivery where
  reply : Reply Nat
  requests : Nat
  left : List (Timed Ack)

/-- Puts one more failed request in front. -/
def Delivery.after (delay : Nat) (e : Event) (d : Delivery) : Delivery where
  reply := ⟨d.reply.delay.map (delay + ·), d.reply.answer, e :: d.reply.events⟩
  requests := d.requests + 1
  left := d.left

/-- Makes the requests of one message, of which `made` were made before, with the answers that are
given. A request behind them is acknowledged at once as `next` says for its number. -/
def deliver (retries backoff : Nat) (m : Message) (next : Nat → Ack) :
    (made : Nat) → List (Timed Ack) → Delivery
  | made, [] => ⟨.now (.ok (next made).sequence) (acknowledged m (next made)), 1, []⟩
  | made, t :: rest =>
    match t.answer.outcome m with
    | .ok a => ⟨⟨some t.delay, .ok a.sequence, acknowledged m a⟩, 1, rest⟩
    | .error e =>
      if made < retries then
        (deliver retries backoff m next (made + 1) rest).after (t.delay + Pause.length backoff)
          (retried m (made + 1) retries e)
      else ⟨⟨some t.delay, .error e, []⟩, 1, rest⟩

end AuditRelay.Nats
