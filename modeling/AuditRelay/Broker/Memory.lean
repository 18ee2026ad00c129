import AuditRelay.Broker.Basic

/-!
# A broker in memory

For tests and for development a broker keeps its messages in memory. It can be told to fail: the
next requests to send, or the next attempts to connect, then have no other effect than to be
counted. Everything that sends to one broker shares its messages and its counts; the counts of the
attempts to connect belong to the connector.
-/

namespace AuditRelay.Memory

/-- The kind of broker, and the name of its clients. -/
def transport : String := "memory"

/-- A broker. -/
structure Broker where
  /-- Newest first. -/
  stored : List Message
  /-- Requests to send, failed ones included. -/
  attempts : Nat
  /-- Requests that are still to fail. -/
  failing : Nat
  /-- The number of the newest message. -/
  sequence : Nat
  deriving DecidableEq

namespace Broker

/-- A broker without messages. -/
def empty : Broker := ⟨[], 0, 0, 0⟩

/-- The messages in the order in which they came. -/
def messages (b : Broker) : List Message :=
  b.stored.reverse

/-- Number of messages. -/
def size (b : Broker) : Nat :=
  b.stored.length

/-- The logs among the messages. -/
def logs (b : Broker) : List Log :=
  b.messages.filterMap Message.log?

/-- Lets the next `n` requests fail. -/
def failNext (n : Nat) (b : Broker) : Broker :=
  { b with failing := n }

/-- Stores a message, unless the request is to fail. -/
def send (m : Message) (b : Broker) : Except Failure Nat × Broker :=
  if 0 < b.failing then
    (.error (.publish m.topic "memory broker: injected failure"),
      { b with attempts := b.attempts + 1, failing := b.failing - 1 })
  else
    (.ok (b.sequence + 1),
      { b with
        stored := m :: b.stored
        attempts := b.attempts + 1
        sequence := b.sequence + 1 })

/-- What is told about a stored message. -/
def storedEvent (m : Message) (sequence : Nat) : Event where
  severity := .debug
  part := .memoryBroker
  message := "Audit log stored in memory broker"
  fields := [("msg_id", .text m.id), ("subject", .text m.subject), ("sequence", .number sequence)]

/-- The events of a request to send. -/
def eventsOf (m : Message) : Except Failure Nat → List Event
  | .ok sequence => [storedEvent m sequence]
  | .error _ => []

end Broker

/-- The attempts to connect that a connector counts. -/
structure Dialer where
  attempts : Nat
  /-- Attempts that are still to fail. -/
  failing : Nat
  deriving DecidableEq, Repr

namespace Dialer

/-- No attempts yet. -/
def new : Dialer := ⟨0, 0⟩

/-- Lets the next `n` attempts fail. -/
def failNext (n : Nat) (d : Dialer) : Dialer :=
  { d with failing := n }

/-- Connects, unless the attempt is to fail. -/
def connect (d : Dialer) : Except Failure Unit × Dialer :=
  if 0 < d.failing then
    (.error (.connection "memory broker: injected connect failure"),
      ⟨d.attempts + 1, d.failing - 1⟩)
  else (.ok (), { d with attempts := d.attempts + 1 })

end Dialer

/-! ## Several connectors over one broker -/

/-- A broker and the connectors over it, which are told apart by numbers. -/
structure Hub where
  broker : Broker
  dialers : Nat → Dialer

namespace Hub

/-- A broker that was not used. -/
def new : Hub := ⟨.empty, fun _ => .new⟩

/-- Puts something else in the place of a connector. -/
def put (h : Hub) (i : Nat) (d : Dialer) : Hub :=
  { h with dialers := fun j => if j = i then d else h.dialers j }

/-- Lets the next `n` requests to send fail, whoever makes them. -/
def failSends (h : Hub) (n : Nat) : Hub :=
  { h with broker := h.broker.failNext n }

/-- Lets the next `n` attempts of a connector fail. -/
def failConnects (h : Hub) (i n : Nat) : Hub :=
  h.put i ((h.dialers i).failNext n)

/-- Connects by a connector. -/
def connect (h : Hub) (i : Nat) : Except Failure Unit × Hub :=
  let (r, d) := (h.dialers i).connect
  (r, h.put i d)

/-- Sends a message, by the broker itself or by any client. -/
def send (h : Hub) (m : Message) : Except Failure Nat × Hub :=
  let (r, b) := h.broker.send m
  (r, { h with broker := b })

end Hub

/-! ## A connector with a broker of its own -/

/-- A connector and the broker that its clients send to. -/
structure Site where
  dialer : Dialer
  broker : Broker
  deriving DecidableEq

/-- A new connector over a new broker. -/
def Site.new : Site := ⟨.new, .empty⟩

/-- The connector of a site under the name of a transport. It answers at once. -/
def connectorAs (transport : String) : Connector Site where
  transport := transport
  client := Memory.transport
  connect s :=
    let (r, d) := s.dialer.connect
    (.now r [], { s with dialer := d })
  send m s :=
    let (r, b) := s.broker.send m
    (.now r (Broker.eventsOf m r), { s with broker := b })
  failures s := s.dialer.failing + s.broker.failing

/-- The connector of a site. -/
def connector : Connector Site := connectorAs transport

/-! ## Sites by name -/

/-- Sites that are told apart by name; one that was not used is new. -/
structure Sites where
  entries : List (String × Site)
  deriving DecidableEq

namespace Sites

/-- No site was used. -/
def none : Sites := ⟨[]⟩

/-- The site of a name. -/
def get (s : Sites) (name : String) : Site :=
  ((s.entries.find? (·.1 = name)).map (·.2)).getD .new

/-- Changes the site of a name. -/
def modify (s : Sites) (name : String) (f : Site → Site) : Sites :=
  ⟨(name, f (s.get name)) :: s.entries.filter (·.1 ≠ name)⟩

/-- Lets the next `n` requests to send to a site fail. -/
def failSends (s : Sites) (name : String) (n : Nat) : Sites :=
  s.modify name fun site => { site with broker := site.broker.failNext n }

/-- Lets the next `n` attempts to connect to a site fail. -/
def failConnects (s : Sites) (name : String) (n : Nat) : Sites :=
  s.modify name fun site => { site with dialer := site.dialer.failNext n }

/-- The connector of the site of a name, under the name of a transport. -/
def connectorAs (name transport : String) : Connector Sites :=
  (Memory.connectorAs transport).within (·.get name) fun site s => s.modify name fun _ => site

end Sites

/-! ## Waiting for messages -/

/-- Milliseconds between two looks at a broker. -/
def period : Nat := 5

/-- Looks at a broker until it holds `count` messages or a timeout is over: at each look first for
the messages and then for the time. `stored t` is the number of messages `t` milliseconds after the
call, and `elapsed` the time of the next look. Tells whether the messages were there, and the time
of the last look. -/
def waitFrom (stored : Nat → Nat) (count timeout elapsed : Nat) : Bool × Nat :=
  if count ≤ stored elapsed then (true, elapsed)
  else if timeout ≤ elapsed then (false, elapsed)
  else waitFrom stored count timeout (elapsed + period)
termination_by timeout - elapsed
decreasing_by simp only [period]; omega

/-- Waits until a broker holds `count` messages, at most for a timeout. The timeout is one after
which the clock still goes: a clock has a last moment, and there is no answer for a timeout that
ends behind it. -/
def waitFor (stored : Nat → Nat) (count timeout : Nat) : Bool × Nat :=
  waitFrom stored count timeout 0

end AuditRelay.Memory
