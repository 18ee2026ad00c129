import AuditRelay.Nats.Client

/-!
# The permits of a client

The permits of a client are counted, and callers come for them one by one. Whoever finds a permit
takes it, and whoever finds none waits in line. A call that has a permit makes its first request when
its caller gets round to it, and until then others may make theirs. When the call returns or is
abandoned, wherever it stands, its permit goes to the call that has waited longest; if nobody waits,
it is free again.

`Client.step?` leaves out the time between the permit and the first request, and it does not count:
it tells from the calls whether there is a permit. Here the count decides.
-/

namespace AuditRelay.Nats

/-- A client with its permits. -/
structure Gate where
  /-- The calls that have made a request or wait for a permit. -/
  client : Client
  /-- The permits that nobody has. -/
  free : Nat
  /-- The calls that have a permit and have made no request yet. -/
  admitted : List (Nat × Message)

namespace Gate

/-- A gate through which nobody has come. -/
def new (c : Config) : Gate :=
  ⟨.new c, (Client.new c).permits, []⟩

/-- What can happen at a gate. -/
inductive Move where
  /-- Someone calls, an answer arrives, a pause is over or a caller gives up. -/
  | client (m : Client.Move)
  /-- A call that has a permit makes its first request. -/
  | ask (ticket : Nat)

/-- What can be seen of it. -/
inductive Deed where
  | called (ticket : Nat) (m : Message)
  /-- A call is given a permit. -/
  | admitted (ticket : Nat)
  | requested (ticket : Nat) (m : Message)
  | returned (ticket : Nat) (result : Except Failure Nat)
  | abandoned (ticket : Nat)

/-- Whether a call has a permit. -/
def holds (g : Gate) (ticket : Nat) : Bool :=
  g.admitted.any (·.1 == ticket) || g.client.sending.any (·.1 == ticket)

/-- Takes a call out, wherever it stands. -/
def remove (g : Gate) (ticket : Nat) : Gate :=
  { g with
    client := g.client.remove ticket
    admitted := g.admitted.filter (·.1 ≠ ticket) }

/-- Gives a permit back: the call that has waited longest gets it. -/
def release (g : Gate) : List Deed × Gate :=
  match g.client.waiting with
  | [] => ([], { g with free := g.free + 1 })
  | (ticket, m) :: rest =>
    ([.admitted ticket],
      { g with
        client := { g.client with waiting := rest }
        admitted := g.admitted ++ [(ticket, m)] })

/-- A call that has a permit leaves; `deed` is what is seen of it. -/
def leave (g : Gate) (ticket : Nat) (deed : Deed) : List Deed × Gate :=
  let (seen, g) := (g.remove ticket).release
  (deed :: seen, g)

/-- What is seen of a move and what comes of it; none if it cannot be made. -/
def step? (g : Gate) : Move → Option (List Deed × Gate)
  | .client (.call ticket m) =>
    if 0 < g.free then
      some ([.called ticket m, .admitted ticket],
        { g with free := g.free - 1, admitted := g.admitted ++ [(ticket, m)] })
    else
      some ([.called ticket m],
        { g with client := { g.client with waiting := g.client.waiting ++ [(ticket, m)] } })
  | .ask ticket =>
    (g.admitted.find? (·.1 = ticket)).map fun (_, m) =>
      ([.requested ticket m],
        { g with
          client := g.client.grant ticket m
          admitted := g.admitted.filter (·.1 ≠ ticket) })
  | .client (.answer ticket r) =>
    match g.client.find? ticket with
    | some (_, s) =>
      if s.isAsking then
        match (s.answered g.client.retries r).result? with
        | some result => some (g.leave ticket (.returned ticket result))
        | none =>
          some ([], { g with
            client := g.client.update ticket (Sending.answered g.client.retries r) })
      else none
    | none => none
  | .client (.rested ticket) =>
    match g.client.find? ticket, g.client.step? (.rested ticket) with
    | some (m, _), some c => some ([.requested ticket m], { g with client := c })
    | _, _ => none
  | .client (.abandon ticket) =>
    if g.holds ticket then some (g.leave ticket (.abandoned ticket))
    else if g.client.waiting.any (·.1 == ticket) then
      some ([.abandoned ticket], g.remove ticket)
    else none

end Gate

end AuditRelay.Nats
