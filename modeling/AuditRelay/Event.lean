/-!
# Events

A program tells what it does in events. An event has a level, the part of the program it comes from,
a message and fields.
-/

namespace AuditRelay

/-- How important an event is, from the most important on. -/
inductive Severity where
  | error
  | warn
  | info
  | debug
  | trace
  deriving DecidableEq, Repr

/-- The rank of a severity: one for errors. -/
def Severity.rank : Severity → Nat
  | error => 1
  | warn => 2
  | info => 3
  | debug => 4
  | trace => 5

/-- The name of a severity. -/
def Severity.name : Severity → String
  | error => "ERROR"
  | warn => "WARN"
  | info => "INFO"
  | debug => "DEBUG"
  | trace => "TRACE"

/-- The parts of the program that events come from. -/
inductive Part where
  | pipeline
  | dispatcher
  | connection
  | publisher
  | deadLetters
  | memoryBroker
  | natsClient
  | logging
  deriving DecidableEq, Repr

/-- The name under which a part appears in the process log. -/
def Part.target : Part → String
  | pipeline => "a3s_audit::pipeline"
  | dispatcher => "a3s_audit::dispatcher"
  | connection => "a3s_audit::connection"
  | publisher => "a3s_audit::publisher"
  | deadLetters => "a3s_audit::dlq"
  | memoryBroker => "a3s_audit::broker::memory"
  | natsClient => "a3s_audit::broker::nats::client"
  | logging => "a3s_audit::logging"

/-- The value of a field. -/
inductive FieldValue where
  | text (s : String)
  | number (n : Nat)
  | flag (b : Bool)
  deriving DecidableEq, Repr

/-- The text of a field. -/
def FieldValue.display : FieldValue → String
  | text s => s
  | number n => toString n
  | flag b => if b then "true" else "false"

/-- One event. -/
structure Event where
  severity : Severity
  part : Part
  message : String
  fields : List (String × FieldValue)
  deriving DecidableEq, Repr

end AuditRelay
