import AuditRelay.Broker.Basic
import AuditRelay.Pause

/-!
# Brokers with given answers

The answers of a broker can be laid down beforehand: one for each attempt to connect, and one for
each request to send. When they are used up, every request succeeds at once.
-/

namespace AuditRelay.Scripted

/-- An answer that is laid down. -/
inductive Outcome where
  /-- Succeeds, with a number of its own or with the number of the request. -/
  | success (delay : Nat) (sequence : Option Nat)
  | failure (delay : Nat) (reason : Failure)
  /-- Never answers. -/
  | silence

/-- Whether an outcome is a failure. -/
def Outcome.fails : Outcome → Bool
  | failure .. => true
  | _ => false

/-- A broker with given answers. -/
structure Broker where
  connects : List Outcome
  sends : List Outcome
  /-- Attempts to connect so far. -/
  connected : Nat
  /-- Requests to send so far. -/
  sent : Nat

/-- A broker that no request was made to. -/
def Broker.new (connects sends : List Outcome) : Broker := ⟨connects, sends, 0, 0⟩

/-- The reply for an outcome; `number` stands for a number that was not laid down. -/
def Outcome.reply (number : Nat) : Outcome → Reply Nat
  | success delay sequence => ⟨some (Pause.length delay), .ok (sequence.getD number), []⟩
  | failure delay reason => ⟨some (Pause.length delay), .error reason, []⟩
  | silence => ⟨none, .ok number, []⟩

/-- The reply to the request of that number, and the outcomes that remain. -/
def next (number : Nat) : List Outcome → Reply Nat × List Outcome
  | [] => (.now (.ok number) [], [])
  | o :: rest => (o.reply number, rest)

/-- A connector to brokers with given answers. -/
def connector (transport client : String) : Connector Broker where
  transport := transport
  client := client
  connect b :=
    let (r, rest) := next (b.connected + 1) b.connects
    (⟨r.delay, r.answer.map fun _ => (), r.events⟩,
      { b with connects := rest, connected := b.connected + 1 })
  send _ b :=
    let (r, rest) := next (b.sent + 1) b.sends
    (r, { b with sends := rest, sent := b.sent + 1 })
  failures b := b.connects.countP (·.fails) + b.sends.countP (·.fails)

end AuditRelay.Scripted
