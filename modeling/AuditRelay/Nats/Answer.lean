import AuditRelay.Broker.Basic
import AuditRelay.Json.Value

/-!
# What a server answers

A client asks the server for its stream and sends it messages. The answer is what was asked for, an
error that the server names, the notice that nobody answers such requests, or something that the
client cannot read. Instead of an answer there may be a reason why there is none: the request could
not be made, or the answer does not come in time or gets lost.
-/

namespace AuditRelay.Nats

/-- An error that a server names. -/
structure ServerError where
  code : Nat
  /-- What exactly is wrong. -/
  errorCode : Nat
  description : Option String
  deriving DecidableEq, Repr

/-- The text of such an error. -/
def ServerError.message (e : ServerError) : String :=
  toString e.code ++ " (code " ++ e.description.getD "unknown" ++ ", error code "
    ++ toString e.errorCode ++ ")"

/-- An answer. -/
inductive Answer (α : Type) where
  | given (result : α)
  | refused (e : ServerError)
  /-- Nobody answers requests of this kind. -/
  | unserved
  /-- The client cannot read the answer, for the reason given. -/
  | unreadable (reason : String)
  /-- There is no answer, for the reason given. -/
  | missing (reason : String)
  /-- There was not even a request, for the reason given. -/
  | unsent (reason : String)
  deriving DecidableEq, Repr

/-- The acknowledgment of a message. -/
structure Ack where
  stream : String
  sequence : Nat
  /-- Whether the message had been stored before. -/
  duplicate : Bool
  deriving DecidableEq, Repr

/-- Why a client cannot read a text that is JSON. -/
def wrongShape : String := "data did not match any variant of untagged enum Response"

/-- The answer in a text that holds nothing that was asked for. -/
def Answer.ofText {α : Type} (text : String) : Answer α :=
  match Json.Value.parse (Mark.ofString text) with
  | .ok _ => unreadable wrongShape
  | .error e => unreadable e.message

/-- The reason in an answer to a request about a stream, if it is no result. -/
def Answer.streamFault? {α : Type} : Answer α → Option String
  | given _ => none
  | refused e => some ("jetstream error: " ++ e.message)
  | unserved => some "jetstream unavailable"
  | unreadable reason => some ("response error: request failed: " ++ reason)
  | missing reason => some reason
  | unsent reason => some reason

/-- The reason in an answer to a message that was sent, if it is no acknowledgment. -/
def Answer.sendFault? : Answer Ack → Option String
  | given _ => none
  | refused e =>
    if e.errorCode = 10071 then some ("wrong last sequence: " ++ e.message)
    else if e.errorCode = 10070 then some ("wrong last message id: " ++ e.message)
    else some ("publish failed: " ++ e.message)
  | unserved => some "no stream found for given subject"
  | unreadable reason => some ("publish failed: " ++ reason)
  | missing reason => some reason
  | unsent reason => some reason

/-- What comes of the answer to a message. -/
def Answer.outcome (m : Message) : Answer Ack → Except Failure Ack
  | given a => .ok a
  | unsent reason => .error (.publish m.topic reason)
  | a => .error (.publish m.topic ("ack failed: " ++ a.sendFault?.getD ""))

end AuditRelay.Nats
