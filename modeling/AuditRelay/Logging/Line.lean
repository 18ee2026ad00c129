import AuditRelay.Json.Value
import AuditRelay.Logging.Directive

/-!
# Lines of the process log

An event that passes the filter becomes a line. A line for a machine is an object of JSON with the
message among the fields; a line for a reader has the message in front, followed by the fields.
-/

namespace AuditRelay.Logging

open Json

/-- A line: an event and the thread that told it. -/
structure Line where
  event : Event
  thread : String
  deriving DecidableEq, Repr

/-- The value of a field in JSON. -/
def fieldJson : FieldValue → Value
  | .text s => .text s
  | .number n => .number (.whole n)
  | .flag b => .bool b

/-- The key of the message among the fields. -/
def messageKey : String := "message"

/-- The fields of a line for a machine. -/
def Line.fields (l : Line) : Value :=
  .object ((messageKey, .text l.event.message) ::
    l.event.fields.map fun f => (f.1, fieldJson f.2))

/-- What a line for a reader says. -/
def Line.text (l : Line) : String :=
  " ".intercalate (l.event.message :: l.event.fields.map fun f => f.1 ++ "=" ++ f.2.display)

/-- Who writes the lines. -/
structure Subscriber where
  /-- Whether the lines are for a reader. -/
  develop : Bool
  directives : List Directive
  deriving DecidableEq, Repr

/-- The names of the fields of an event; the message is one of them. -/
def fieldNames (e : Event) : List String :=
  messageKey :: e.fields.map (·.1)

/-- Whether an event becomes a line. -/
def Subscriber.accepts (s : Subscriber) (e : Event) : Bool :=
  (Directive.filterFor s.directives e.part.target (fieldNames e)).passes e.severity

/-- The lines that events become, in their order. -/
def Subscriber.linesOf (s : Subscriber) (thread : String) (es : List Event) : List Line :=
  (es.filter s.accepts).map fun e => ⟨e, thread⟩

end AuditRelay.Logging
