import AuditRelay.Event
import AuditRelay.Failure
import AuditRelay.Log.Basic

/-!
# Dead letters

Logs that can never be published are put aside: whoever publishes hands them to a handler, if there
is one. A store is a handler that keeps the newest of them.
-/

namespace AuditRelay

/-- A log that was put aside. -/
structure DeadLetter where
  log : Log
  reason : String
  /-- Milliseconds since 1970. -/
  time : UInt64
  deriving DecidableEq, Repr

/-- What takes dead letters. It answers each of them and tells what it does; the answer may depend
on how many it was given before. -/
structure DeadLetterHandler where
  handle : (before : Nat) → DeadLetter → Except Failure Unit × List Event

/-- A store of dead letters. -/
structure DeadLetters where
  /-- The most it holds; zero for no limit. -/
  limit : Nat
  /-- Newest first. -/
  entries : List DeadLetter
  deriving DecidableEq, Repr

namespace DeadLetters

/-- The limit of a store for which none is set. -/
def defaultLimit : Nat := 10000

/-- A store that holds nothing. -/
def empty (limit : Nat) : DeadLetters := ⟨limit, []⟩

/-- The event about a log that is put aside. -/
def event (e : DeadLetter) : Event where
  severity := .warn
  part := .deadLetters
  message := "Audit log dead-lettered"
  fields := [("log_id", .text e.log.id), ("description", .text e.log.description),
    ("reason", .text e.reason)]

/-- Puts a log aside; the oldest ones make room. -/
def handle (d : DeadLetters) (e : DeadLetter) : DeadLetters :=
  let entries := e :: d.entries
  if 0 < d.limit ∧ d.limit < entries.length then { d with entries := entries.take d.limit }
  else { d with entries := entries }

/-- What a store answers: it takes every log. -/
def handler : DeadLetterHandler := ⟨fun _ e => (.ok (), [event e])⟩

/-- Number of logs held. -/
def count (d : DeadLetters) : Nat :=
  d.entries.length

/-- The newest logs, newest first. -/
def list (d : DeadLetters) (limit : Nat) : List DeadLetter :=
  d.entries.take limit

end DeadLetters

end AuditRelay
