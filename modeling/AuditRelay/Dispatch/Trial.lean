import AuditRelay.Broker.Basic

/-!
# Trying until it succeeds

A request to a broker is repeated until it succeeds, with a pause after each failure. It has no
result but success, unless it is given up.
-/

namespace AuditRelay

/-- How far the attempts at a request have come. -/
inductive Trial (α : Type) where
  /-- An attempt is to be made; `made` were made before. -/
  | ready (made : Nat)
  /-- Attempt number `made` was begun at a moment, and its reply is on the way. -/
  | asked (made : Nat) (since : Nat) (reply : Reply α)
  /-- Attempt number `made` has failed; the next one follows at the moment `wake`. -/
  | paused (made : Nat) (wake : Nat)
  /-- Attempt number `made` was the first to succeed. -/
  | succeeded (made : Nat) (result : α)
  /-- Given up. -/
  | cancelled

/-- The moment at which a reply arrives. -/
def Reply.arrival {α : Type} (r : Reply α) (since : Nat) : Option Nat :=
  r.delay.map (since + ·)

/-- Whether a reply has arrived. -/
def Reply.hasArrived {α : Type} (r : Reply α) (since now : Nat) : Bool :=
  match r.delay with
  | some d => since + d ≤ now
  | none => false

namespace Trial

variable {α : Type}

/-- No attempt yet. -/
def start : Trial α := ready 0

/-- The moment that a trial waits for. -/
def due? : Trial α → Option Nat
  | asked _ since reply => reply.arrival since
  | paused _ wake => some wake
  | _ => none

/-- Whether a trial is over. -/
def isOver : Trial α → Bool
  | succeeded .. => true
  | cancelled => true
  | _ => false

/-- The attempts that were made. -/
def made : Trial α → Nat
  | ready made => made
  | asked made _ _ => made
  | paused made _ => made
  | succeeded made _ => made
  | cancelled => 0

/-- Those of them that have failed. -/
def failed : Trial α → Nat
  | ready made => made
  | asked made _ _ => made - 1
  | paused made _ => made
  | succeeded made _ => made - 1
  | cancelled => 0

end Trial

end AuditRelay
