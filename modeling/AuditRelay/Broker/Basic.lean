import AuditRelay.Event
import AuditRelay.Failure
import AuditRelay.Message

/-!
# Brokers

A connector builds clients of a broker, and a client sends messages. Both answer with a failure or
a result, after some time or never. What a broker remembers between two requests is its state.
-/

namespace AuditRelay

/-- The answer to a request. -/
structure Reply (α : Type) where
  /-- Milliseconds until it arrives; none if it never does. -/
  delay : Option Nat
  answer : Except Failure α
  /-- What the client tells on the way. -/
  events : List Event

/-- A reply that arrives at once. -/
def Reply.now {α : Type} (answer : Except Failure α) (events : List Event) : Reply α :=
  ⟨some 0, answer, events⟩

/-- A kind of broker whose state is of type `β`. -/
structure Connector (β : Type) where
  /-- The kind of broker that an endpoint must name to be served by this connector. -/
  transport : String
  /-- The name of the clients. -/
  client : String
  /-- Builds a client. -/
  connect : β → Reply Unit × β
  /-- Sends a message; the number of the message in the topic comes back. -/
  send : Message → β → Reply Nat × β
  /-- At least the number of requests that will fail without taking time. -/
  failures : β → Nat

/-- The connector of a broker whose state is a part of a larger one. -/
def Connector.within {β γ : Type} (c : Connector β) (get : γ → β) (put : β → γ → γ) :
    Connector γ where
  transport := c.transport
  client := c.client
  connect g :=
    let (r, b) := c.connect (get g)
    (r, put b g)
  send m g :=
    let (r, b) := c.send m (get g)
    (r, put b g)
  failures g := c.failures (get g)

/-- What is known about the connection to the broker. -/
inductive Link where
  | disconnected
  | connecting
  | connected
  deriving DecidableEq, Repr

end AuditRelay
