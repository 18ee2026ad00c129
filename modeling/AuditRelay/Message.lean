import AuditRelay.Failure
import AuditRelay.Settings

/-!
# Messages

A message is what a broker stores: the bytes of a log, addressed to a topic or to one of its
partitions, with the id of the log to tell copies apart. There is a message of a log if the log can
be written, and every log can (`Message.ofLog?_eq`).
-/

namespace AuditRelay

/-- The bytes of a log, with its details in some order. All that a log holds are texts, a number and
texts under texts, and for none of them can this fail. -/
def Log.encode (order : Detail.Order) (l : Log) : Except Failure ByteArray :=
  .ok (l.write order).toUTF8

/-- A message to a broker. -/
structure Message where
  topic : String
  /-- The partition of the topic; none for the topic itself. -/
  partition : Option UInt32
  /-- Two messages with one id are copies. -/
  id : String
  payload : ByteArray

instance : DecidableEq Message
  | ⟨t, p, i, b⟩, ⟨t', p', i', b'⟩ =>
    have : Decidable (b = b') := ByteArray.instDecidableEq b b'
    decidable_of_iff (t = t' ∧ p = p' ∧ i = i' ∧ b = b') (by simp)

namespace Message

/-- The subject a message is sent to. -/
def subject (m : Message) : String :=
  match m.partition with
  | some n => m.topic ++ "." ++ toString n.toNat
  | none => m.topic

/-- The log in a payload, if there is one. -/
def log? (m : Message) : Option Log :=
  (Log.parse (Mark.ofBytes m.payload)).toOption

/-- The partition for a random number. -/
def partitionOf (p : Partitioning) (draw : Nat) : Option UInt32 :=
  match p with
  | .single => none
  | .random n => some (UInt32.ofNat (draw % max n.toNat 1))

/-- What a payload shows. -/
def text (m : Message) : String :=
  Mark.shown (Mark.ofBytes m.payload)

/-- The message that addresses the bytes of a log; `draw` is a random number. -/
def address (s : Settings) (draw : Nat) (l : Log) (payload : ByteArray) : Message where
  topic := s.topic
  partition := partitionOf s.partitioning draw
  id := l.id
  payload := payload

/-- The message of a log, if the log can be written. -/
def ofLog? (s : Settings) (draw : Nat) (l : Log) (order : Detail.Order := .ascending) :
    Except Failure Message :=
  (l.encode order).map (address s draw l)

/-- The message of a log, with its details in some order. -/
def ofLog (s : Settings) (draw : Nat) (l : Log) (order : Detail.Order := .ascending) : Message :=
  address s draw l (l.write order).toUTF8

/-- **Every log has a message.** -/
@[simp] theorem ofLog?_eq (s : Settings) (draw : Nat) (l : Log) (order : Detail.Order) :
    ofLog? s draw l order = .ok (ofLog s draw l order) := rfl

/-- The payload of a log shows what is written of the log. -/
theorem text_ofLog (s : Settings) (draw : Nat) (l : Log) (order : Detail.Order) :
    (ofLog s draw l order).text = l.write order := by
  rw [text, ofLog, address, Mark.ofBytes_toUTF8, Mark.shown_ofString]

/-- Whether a message goes to a place that a partitioning has. -/
def fits (p : Partitioning) (m : Message) : Bool :=
  match p, m.partition with
  | .single, none => m.subject == m.topic
  | .random n, some k => k.toNat < max n.toNat 1
  | _, _ => false

/-- Whether two messages differ in their partitions only. -/
def sameLog (m n : Message) : Bool :=
  m.topic == n.topic && m.id == n.id && m.payload == n.payload

end Message

end AuditRelay
