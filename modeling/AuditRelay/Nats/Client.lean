import AuditRelay.Nats.Config
import AuditRelay.Nats.Sending

/-!
# One client, many callers

The callers of one client need a permit to send, and there is a fixed number of permits. A caller
keeps its permit from its first request until its call returns or is abandoned; then the permit goes
to the caller that has waited longest.
-/

namespace AuditRelay.Nats

/-- A client. -/
structure Client where
  /-- Number of permits. -/
  permits : Nat
  /-- Requests that may follow the first one of a call. -/
  retries : Nat
  /-- The calls that hold a permit: ticket, message and how far it has come. -/
  sending : List (Nat × Message × Sending)
  /-- The calls that wait for a permit, the next one in front. -/
  waiting : List (Nat × Message)
  /-- The requests made so far with the tickets of their calls; the newest first. -/
  requests : List (Nat × Message)

namespace Client

/-- A client that nobody has called. There is at least one permit. -/
def new (c : Config) : Client :=
  ⟨max c.openRequests.toNat 1, c.retries.toNat, [], [], []⟩

/-- Number of free permits. -/
def free (c : Client) : Nat :=
  c.permits - c.sending.length

/-- Gives a permit to a call, which makes its first request. -/
def grant (c : Client) (ticket : Nat) (m : Message) : Client :=
  { c with
    sending := c.sending ++ [(ticket, m, .start)]
    requests := (ticket, m) :: c.requests }

/-- Gives a free permit to the call that has waited longest. -/
def pass (c : Client) : Client :=
  match c.waiting with
  | [] => c
  | (ticket, m) :: rest =>
    if c.sending.length < c.permits then { c with waiting := rest }.grant ticket m else c

/-- What can happen to a client. -/
inductive Move where
  /-- Someone calls with a message. -/
  | call (ticket : Nat) (m : Message)
  /-- The answer to a request of a call arrives. -/
  | answer (ticket : Nat) (r : Except Failure Nat)
  /-- The pause of a call is over. -/
  | rested (ticket : Nat)
  /-- A caller gives up. -/
  | abandon (ticket : Nat)

/-- Takes a call out, whether it has a permit or waits for one. -/
def remove (c : Client) (ticket : Nat) : Client :=
  { c with
    sending := c.sending.filter (·.1 ≠ ticket)
    waiting := c.waiting.filter (·.1 ≠ ticket) }

/-- Changes how far a call has come. -/
def update (c : Client) (ticket : Nat) (f : Sending → Sending) : Client :=
  { c with sending := c.sending.map fun s => if s.1 = ticket then (s.1, s.2.1, f s.2.2) else s }

/-- The call with a ticket that holds a permit. -/
def find? (c : Client) (ticket : Nat) : Option (Message × Sending) :=
  (c.sending.find? (·.1 = ticket)).map (·.2)

/-- What a client is after a move; none if the move cannot be made. -/
def step? (c : Client) : Move → Option Client
  | .call ticket m =>
    if c.sending.length < c.permits ∧ c.waiting = [] then some (c.grant ticket m)
    else some { c with waiting := c.waiting ++ [(ticket, m)] }
  | .answer ticket r =>
    match c.find? ticket with
    | some (_, s) =>
      if s.isAsking then
        if (s.answered c.retries r).result?.isSome then some (c.remove ticket).pass
        else some (c.update ticket (Sending.answered c.retries r))
      else none
    | none => none
  | .rested ticket =>
    match c.find? ticket with
    | some (m, .resting _) =>
      some { c.update ticket Sending.rested with requests := (ticket, m) :: c.requests }
    | _ => none
  | .abandon ticket => some (c.remove ticket).pass

end Client

end AuditRelay.Nats
