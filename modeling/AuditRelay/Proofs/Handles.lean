import AuditRelay.Broker.Memory
import Mathlib.Data.List.Induction
import Mathlib.Logic.Function.Basic

/-!
# What leads to a broker in memory

A broker in memory is reached in many ways: by itself, by copies of it, by clients that a connector
over it has built, by those of a copy of the connector or of another connector. A `Handle` is any of
them, and it leads to one broker, whatever it was made of. Whoever has a handle makes requests, and
a `World` of brokers and connectors answers them; the answers are those of `Hub`.

* `Doomed` says when an attempt fails: it is one of the next `n` after somebody has asked for `n`
  failures, and nobody has asked for others since. `remaining_pos_iff` is its induction.
* `Kept` is the invariant that ties the counts of the brokers and connectors to what was asked of
  them, and `Kept.serve` is its step.
* `shared_log` is the result for every sequence of requests: a broker holds what was stored by
  anyone, in the order of the calls and with the numbers from one on, and a connector counts what
  was asked of it and of its copies.

Requests to send and attempts to connect obey one law of failing, each in a count of their own.
-/

namespace AuditRelay.Memory

/-! ### Handles -/

/-- What is asked of a handle: to send, or to build clients. -/
inductive Handle.Kind where
  | sender
  | connector

/-- **What a caller has in hand.** -/
inductive Handle : Handle.Kind → Type where
  /-- A new broker. -/
  | broker (number : Nat) : Handle .sender
  /-- A new connector over what a handle leads to. -/
  | connector (number : Nat) (base : Handle .sender) : Handle .connector
  | copy {k : Handle.Kind} (original : Handle k) : Handle k
  /-- A client that a connector has built. -/
  | client (builder : Handle .connector) : Handle .sender

namespace Handle

/-- The broker that a handle leads to: copies lead to that of the original, clients to that of their
connector. -/
def target : {k : Kind} → Handle k → Nat
  | _, .broker number => number
  | _, .connector _ base => base.target
  | _, .copy original => original.target
  | _, .client builder => builder.target

/-- The number of what a handle stands for, whose counts it shares with its copies: of a connector if
it is one, and of the broker if it sends. -/
def number : {k : Kind} → Handle k → Nat
  | _, .broker number => number
  | _, .connector number _ => number
  | _, .copy original => original.number
  | _, .client builder => builder.target

end Handle

/-! ### Requests and answers -/

/-- What can be asked. -/
inductive Request where
  | send (via : Handle .sender) (m : Message)
  /-- The next requests to send are to fail. -/
  | failSends (via : Handle .sender) (n : Nat)
  | connect (via : Handle .connector)
  /-- The next attempts to connect are to fail. -/
  | failConnects (via : Handle .connector) (n : Nat)

/-- What is answered. -/
inductive Answer where
  | sent (r : Except Failure Nat)
  | connected (r : Except Failure Unit)
  | told

/-- Brokers and connectors, each with a number. -/
structure World where
  brokers : Nat → Broker
  dialers : Nat → Dialer

namespace World

/-- Nothing was asked yet. -/
def new : World := ⟨fun _ => .empty, fun _ => .new⟩

/-- One of the brokers, with all the connectors. -/
def hub (w : World) (b : Nat) : Hub := ⟨w.brokers b, w.dialers⟩

/-- Puts back what has become of a broker and the connectors. -/
def put (w : World) (b : Nat) (h : Hub) : World :=
  ⟨Function.update w.brokers b h.broker, h.dialers⟩

/-- **Answers a request** as the broker and the connectors do that the handle leads to. -/
def serve (w : World) : Request → Answer × World
  | .send via m =>
    let (r, h) := (w.hub via.target).send m
    (.sent r, w.put via.target h)
  | .failSends via n => (.told, w.put via.target ((w.hub via.target).failSends n))
  | .connect via =>
    let (r, h) := (w.hub via.target).connect via.number
    (.connected r, w.put via.target h)
  | .failConnects via n => (.told, w.put via.target ((w.hub via.target).failConnects via.number n))

end World

/-- What was asked and answered so far; the newest last. -/
abbrev Story := List (Request × Answer)

/-- Answers some requests one after the other. -/
def run (qs : List Request) : Story × World :=
  qs.foldl (fun s q => (s.1 ++ [(q, (s.2.serve q).1)], (s.2.serve q).2)) ([], .new)

theorem run_append (qs : List Request) (q : Request) :
    run (qs ++ [q]) = ((run qs).1 ++ [(q, ((run qs).2.serve q).1)], ((run qs).2.serve q).2) := by
  unfold run
  rw [List.foldl_append]
  rfl

/-! ### The law of failing -/

/-- What counts for failing. -/
inductive Order where
  /-- The next `n` attempts are to fail. -/
  | failNext (n : Nat)
  | attempt
  deriving DecidableEq

/-- **The next attempt fails**: the last who asked for failures asked for more than were made
since. -/
def Doomed (os : List Order) : Prop :=
  ∃ earlier n made, os = earlier ++ .failNext n :: List.replicate made .attempt ∧ made < n

/-- The failures that are still to come. -/
def remaining (os : List Order) : Nat :=
  os.foldl (fun left o => match o with
    | .failNext n => n
    | .attempt => left - 1) 0

theorem remaining_failNext (os : List Order) (n : Nat) :
    remaining (os ++ [.failNext n]) = n := by
  unfold remaining
  rw [List.foldl_append]
  rfl

theorem remaining_attempt (os : List Order) :
    remaining (os ++ [.attempt]) = remaining os - 1 := by
  unfold remaining
  rw [List.foldl_append]
  rfl

theorem remaining_since (earlier : List Order) (n made : Nat) :
    remaining (earlier ++ .failNext n :: List.replicate made .attempt) = n - made := by
  -- by induction on the attempts, the last one apart
  induction made with
  | zero => exact remaining_failNext earlier n
  | succ made ih =>
    rw [List.replicate_succ', ← List.cons_append, ← List.append_assoc, remaining_attempt, ih]
    omega

/-- **Failures are to come exactly if the next attempt is doomed.** -/
theorem remaining_pos_iff (os : List Order) : 0 < remaining os ↔ Doomed os := by
  constructor
  · intro pos
    -- by induction on what has counted, the last apart
    induction os using List.reverseRecOn with
    | nil => exact absurd pos (Nat.lt_irrefl 0)
    | append_singleton os o ih =>
      cases o with
      | failNext n =>
        rw [remaining_failNext] at pos
        exact ⟨os, n, 0, rfl, pos⟩
      | attempt =>
        rw [remaining_attempt] at pos
        obtain ⟨earlier, n, made, rfl, -⟩ := ih (by omega)
        rw [remaining_since] at pos
        refine ⟨earlier, n, made + 1, ?_, by omega⟩
        rw [List.replicate_succ', ← List.cons_append, List.append_assoc]
  · rintro ⟨earlier, n, made, rfl, lt⟩
    rw [remaining_since]
    omega

/-! ### What counts for whom -/

/-- What a request is to a broker. -/
def sendOrder? (b : Nat) : Request → Option Order
  | .send via _ => if via.target = b then some .attempt else none
  | .failSends via n => if via.target = b then some (.failNext n) else none
  | _ => none

/-- What a request is to a connector. -/
def dialOrder? (i : Nat) : Request → Option Order
  | .connect via => if via.number = i then some .attempt else none
  | .failConnects via n => if via.number = i then some (.failNext n) else none
  | _ => none

/-- The message and its number if something was stored by a broker. -/
def delivery? (b : Nat) : Request × Answer → Option (Message × Nat)
  | (.send via m, .sent (.ok number)) => if via.target = b then some (m, number) else none
  | _ => none

/-- What has counted for the requests to send to a broker. -/
def sendOrders (b : Nat) (h : Story) : List Order := h.filterMap fun r => sendOrder? b r.1

/-- What has counted for the attempts of a connector. -/
def dialOrders (i : Nat) (h : Story) : List Order := h.filterMap fun r => dialOrder? i r.1

/-- **The requests to send that a broker has granted**, with the numbers given. -/
def deliveries (b : Nat) (h : Story) : List (Message × Nat) := h.filterMap (delivery? b)

theorem sendOrder?_send (via : Handle .sender) (m : Message) :
    sendOrder? via.target (.send via m) = some .attempt := if_pos rfl

theorem sendOrder?_failSends (via : Handle .sender) (n : Nat) :
    sendOrder? via.target (.failSends via n) = some (.failNext n) := if_pos rfl

theorem dialOrder?_connect (via : Handle .connector) :
    dialOrder? via.number (.connect via) = some .attempt := if_pos rfl

theorem dialOrder?_failConnects (via : Handle .connector) (n : Nat) :
    dialOrder? via.number (.failConnects via n) = some (.failNext n) := if_pos rfl

section Snoc

variable {ρ α : Type} {f : ρ → Option α} {r : ρ} {a : α} (l : List ρ)

theorem filterMap_own (own : f r = some a) : (l ++ [r]).filterMap f = l.filterMap f ++ [a] := by
  rw [List.filterMap_append, List.filterMap_cons_some own, List.filterMap_nil]

theorem filterMap_other (other : f r = none) : (l ++ [r]).filterMap f = l.filterMap f := by
  rw [List.filterMap_append, List.filterMap_cons_none other, List.filterMap_nil, List.append_nil]

end Snoc

section Story

variable {b i : Nat} {r : Request × Answer} {o : Order} (h : Story)

theorem sendOrders_own (own : sendOrder? b r.1 = some o) :
    sendOrders b (h ++ [r]) = sendOrders b h ++ [o] :=
  filterMap_own h own

theorem sendOrders_other (other : sendOrder? b r.1 = none) :
    sendOrders b (h ++ [r]) = sendOrders b h :=
  filterMap_other h other

theorem dialOrders_own (own : dialOrder? i r.1 = some o) :
    dialOrders i (h ++ [r]) = dialOrders i h ++ [o] :=
  filterMap_own h own

theorem dialOrders_other (other : dialOrder? i r.1 = none) :
    dialOrders i (h ++ [r]) = dialOrders i h :=
  filterMap_other h other

theorem deliveries_other (other : delivery? b r = none) :
    deliveries b (h ++ [r]) = deliveries b h :=
  filterMap_other h other

end Story

/-! ### The invariant -/

variable {os : List Order} {ds : List (Message × Nat)}

/-- Counts that follow from what was asked. -/
structure Tally (os : List Order) (attempts failing : Nat) : Prop where
  attempts : attempts = os.count .attempt
  failing : failing = remaining os

theorem Tally.begin : Tally [] 0 0 := ⟨rfl, rfl⟩

theorem Tally.failNext {attempts failing : Nat} (tally : Tally os attempts failing) (n : Nat) :
    Tally (os ++ [.failNext n]) attempts n where
  attempts := by
    rw [List.count_append, tally.attempts]
    rfl
  failing := (remaining_failNext os n).symm

theorem Tally.attempt {attempts failing : Nat} (tally : Tally os attempts failing) :
    Tally (os ++ [.attempt]) (attempts + 1) (failing - 1) where
  attempts := by
    rw [List.count_append, tally.attempts]
    rfl
  failing := by rw [remaining_attempt, tally.failing]

/-- **A broker that has kept** what was asked of it. -/
structure Broker.Kept (os : List Order) (ds : List (Message × Nat)) (b : Broker) : Prop where
  tally : Tally os b.attempts b.failing
  messages : b.messages = ds.map (·.1)
  numbers : ds.map (·.2) = List.range' 1 ds.length
  sequence : b.sequence = ds.length

namespace Broker

variable {b : Broker}

theorem size_eq (b : Broker) : b.size = b.messages.length := List.length_reverse.symm

theorem kept_empty : Kept [] [] .empty := ⟨.begin, rfl, rfl, rfl⟩

theorem Kept.failNext (kept : b.Kept os ds) (n : Nat) :
    (b.failNext n).Kept (os ++ [.failNext n]) ds :=
  ⟨kept.tally.failNext n, kept.messages, kept.numbers, kept.sequence⟩

/-- What comes of a request to send: it fails and is counted, or the message is stored. -/
theorem send_cases (b : Broker) (m : Message) :
    (0 < b.failing ∧ b.send m = (.error (.publish m.topic "memory broker: injected failure"),
      { b with attempts := b.attempts + 1, failing := b.failing - 1 })) ∨
    (b.failing = 0 ∧ b.send m = (.ok (b.sequence + 1),
      { b with
        stored := m :: b.stored
        attempts := b.attempts + 1
        sequence := b.sequence + 1 })) := by
  by_cases failing : 0 < b.failing
  · exact Or.inl ⟨failing, if_pos failing⟩
  · exact Or.inr ⟨Nat.eq_zero_of_not_pos failing, if_neg failing⟩

/-- A message with its number if it was stored. -/
def granted (m : Message) : Except Failure Nat → List (Message × Nat)
  | .ok number => [(m, number)]
  | .error _ => []

theorem Kept.send (kept : b.Kept os ds) (m : Message) :
    (b.send m).2.Kept (os ++ [.attempt]) (ds ++ granted m (b.send m).1) := by
  have counted := kept.tally.attempt
  rcases b.send_cases m with ⟨-, hsend⟩ | ⟨ready, hsend⟩
  · rw [hsend]
    show Kept _ (ds ++ []) _
    rw [List.append_nil]
    exact ⟨counted, kept.messages, kept.numbers, kept.sequence⟩
  · rw [hsend]
    refine ⟨?_, ?_, ?_, ?_⟩
    · -- nothing was to fail, and nothing is
      have still : b.failing = b.failing - 1 := by omega
      show Tally _ (b.attempts + 1) b.failing
      rw [still]
      exact counted
    · show (m :: b.stored).reverse = _
      rw [List.reverse_cons, List.map_append]
      exact congrArg (· ++ [m]) kept.messages
    · show List.map _ (ds ++ [(m, b.sequence + 1)]) = List.range' 1 (ds ++ [(m, b.sequence + 1)]).length
      rw [List.map_append, kept.numbers, List.length_append, List.length_singleton,
        List.range'_concat, kept.sequence, Nat.one_mul, Nat.add_comm 1]
      rfl
    · show b.sequence + 1 = (ds ++ [(m, b.sequence + 1)]).length
      rw [List.length_append, List.length_singleton, kept.sequence]

end Broker

/-- What comes of an attempt to connect: it is counted, and it fails or not. -/
theorem Dialer.connect_cases (d : Dialer) :
    d.connect.2 = ⟨d.attempts + 1, d.failing - 1⟩ ∧
      ((0 < d.failing ∧
        d.connect.1 = .error (.connection "memory broker: injected connect failure")) ∨
      (d.failing = 0 ∧ d.connect.1 = .ok ())) := by
  unfold Dialer.connect
  by_cases failing : 0 < d.failing
  · rw [if_pos failing]
    exact ⟨rfl, Or.inl ⟨failing, rfl⟩⟩
  · have none : d.failing = 0 := Nat.eq_zero_of_not_pos failing
    rw [if_neg failing, none]
    exact ⟨rfl, Or.inr ⟨rfl, rfl⟩⟩

/-! ### What a request changes -/

namespace World

variable (w : World)

/-- The world with another broker in the place of one, and nothing else changed. -/
def setBroker (b : Nat) (after : Broker) : World :=
  { w with brokers := Function.update w.brokers b after }

/-- The world with another connector in the place of one, and nothing else changed. -/
def setDialer (i : Nat) (after : Dialer) : World :=
  { w with dialers := Function.update w.dialers i after }

theorem serve_send (via : Handle .sender) (m : Message) :
    w.serve (.send via m) = (.sent ((w.brokers via.target).send m).1,
      w.setBroker via.target ((w.brokers via.target).send m).2) := rfl

theorem serve_failSends (via : Handle .sender) (n : Nat) :
    w.serve (.failSends via n)
      = (.told, w.setBroker via.target ((w.brokers via.target).failNext n)) := rfl

/-- What was done to a connector leaves the brokers alone. -/
theorem put_dialer (b i : Nat) (d : Dialer) :
    w.put b ((w.hub b).put i d) = w.setDialer i d := by
  have brokers : Function.update w.brokers b (w.brokers b) = w.brokers :=
    Function.update_eq_self b w.brokers
  have dialers : (fun j => if j = i then d else w.dialers j) = Function.update w.dialers i d := by
    funext j
    exact (Function.update_apply w.dialers i d j).symm
  show World.mk (Function.update w.brokers b (w.brokers b)) (fun j => if j = i then d else w.dialers j)
    = _
  rw [brokers, dialers]
  rfl

theorem serve_connect (via : Handle .connector) :
    w.serve (.connect via) = (.connected (w.dialers via.number).connect.1,
      w.setDialer via.number (w.dialers via.number).connect.2) :=
  congrArg (Prod.mk _) (w.put_dialer via.target via.number _)

theorem serve_failConnects (via : Handle .connector) (n : Nat) :
    w.serve (.failConnects via n)
      = (.told, w.setDialer via.number ((w.dialers via.number).failNext n)) :=
  congrArg (Prod.mk _) (w.put_dialer via.target via.number _)

end World

/-- **The counts of all brokers and connectors follow from what was asked and answered.** -/
structure Kept (h : Story) (w : World) : Prop where
  brokers : ∀ b, (w.brokers b).Kept (sendOrders b h) (deliveries b h)
  dialers : ∀ i, Tally (dialOrders i h) (w.dialers i).attempts (w.dialers i).failing

variable {h : Story} {w : World}

/-- What concerns one broker is kept if that broker keeps it. -/
theorem Kept.broker (kept : Kept h w) {b : Nat} {after : Broker} {r : Request × Answer}
    (others : ∀ b', b' ≠ b → sendOrder? b' r.1 = none ∧ delivery? b' r = none)
    (connectors : ∀ i, dialOrder? i r.1 = none)
    (keeps : after.Kept (sendOrders b (h ++ [r])) (deliveries b (h ++ [r]))) :
    Kept (h ++ [r]) (w.setBroker b after) where
  brokers b' := by
    by_cases same : b' = b
    · subst same
      show (Function.update w.brokers b' after b').Kept _ _
      rw [Function.update_self]
      exact keeps
    · obtain ⟨orders, delivered⟩ := others b' same
      show (Function.update w.brokers b after b').Kept _ _
      rw [Function.update_of_ne same, sendOrders_other h orders, deliveries_other h delivered]
      exact kept.brokers b'
  dialers i := by
    rw [dialOrders_other h (connectors i)]
    exact kept.dialers i

/-- What concerns one connector is kept if that connector keeps it. -/
theorem Kept.dialer (kept : Kept h w) {i : Nat} {after : Dialer} {r : Request × Answer}
    (others : ∀ j, j ≠ i → dialOrder? j r.1 = none)
    (senders : ∀ b, sendOrder? b r.1 = none ∧ delivery? b r = none)
    (keeps : Tally (dialOrders i (h ++ [r])) after.attempts after.failing) :
    Kept (h ++ [r]) (w.setDialer i after) where
  brokers b := by
    obtain ⟨orders, delivered⟩ := senders b
    rw [sendOrders_other h orders, deliveries_other h delivered]
    exact kept.brokers b
  dialers j := by
    by_cases same : j = i
    · subst same
      show Tally _ (Function.update w.dialers j after j).attempts
        (Function.update w.dialers j after j).failing
      rw [Function.update_self]
      exact keeps
    · show Tally _ (Function.update w.dialers i after j).attempts
        (Function.update w.dialers i after j).failing
      rw [Function.update_of_ne same, dialOrders_other h (others j same)]
      exact kept.dialers j

/-- What is granted is delivered to the broker that was asked, -/
theorem deliveries_send (h : Story) (via : Handle .sender) (m : Message) (r : Except Failure Nat) :
    deliveries via.target (h ++ [(.send via m, .sent r)])
      = deliveries via.target h ++ Broker.granted m r := by
  cases r with
  | ok number => exact filterMap_own h (if_pos rfl)
  | error f =>
    show _ = _ ++ []
    rw [List.append_nil]
    exact deliveries_other h rfl

/-- and to no other. -/
theorem delivery?_send_other {b : Nat} {via : Handle .sender} (m : Message)
    (r : Except Failure Nat) (other : b ≠ via.target) :
    delivery? b (.send via m, .sent r) = none := by
  cases r with
  | ok number => exact if_neg (Ne.symm other)
  | error f => rfl

/-- **Every request keeps the counts.** -/
theorem Kept.serve (kept : Kept h w) (q : Request) :
    Kept (h ++ [(q, (w.serve q).1)]) (w.serve q).2 := by
  cases q with
  | send via m =>
    rw [World.serve_send]
    refine kept.broker (fun b other => ⟨if_neg (Ne.symm other), delivery?_send_other m _ other⟩)
      (fun _ => rfl) ?_
    rw [sendOrders_own h (sendOrder?_send via m), deliveries_send]
    exact (kept.brokers via.target).send m
  | failSends via n =>
    rw [World.serve_failSends]
    refine kept.broker (fun b other => ⟨if_neg (Ne.symm other), rfl⟩) (fun _ => rfl) ?_
    rw [sendOrders_own h (sendOrder?_failSends via n), deliveries_other h rfl]
    exact (kept.brokers via.target).failNext n
  | connect via =>
    rw [World.serve_connect]
    obtain ⟨counted, -⟩ := (w.dialers via.number).connect_cases
    refine kept.dialer (fun j other => if_neg (Ne.symm other)) (fun _ => ⟨rfl, rfl⟩) ?_
    rw [dialOrders_own h (dialOrder?_connect via), counted]
    exact (kept.dialers via.number).attempt
  | failConnects via n =>
    rw [World.serve_failConnects]
    refine kept.dialer (fun j other => if_neg (Ne.symm other)) (fun _ => ⟨rfl, rfl⟩) ?_
    rw [dialOrders_own h (dialOrder?_failConnects via n)]
    exact (kept.dialers via.number).failNext n

/-- **The counts follow from any sequence of requests.** -/
theorem kept_run (qs : List Request) : Kept (run qs).1 (run qs).2 := by
  -- by induction on the requests, the last one apart
  induction qs using List.reverseRecOn with
  | nil => exact ⟨fun _ => Broker.kept_empty, fun _ => .begin⟩
  | append_singleton qs q ih =>
    rw [run_append]
    exact ih.serve q

/-! ### The law of the brokers and connectors -/

/-- **What the next request does** after the story `h`: nothing that is not said here. -/
structure Law (h : Story) (w : World) : Prop where
  /-- A request to send that is doomed fails. It is counted, and there is one failure less to come. -/
  sendFails : ∀ (via : Handle .sender) (m : Message), Doomed (sendOrders via.target h) →
    let b := w.brokers via.target
    w.serve (.send via m)
      = (.sent (.error (.publish m.topic "memory broker: injected failure")),
        w.setBroker via.target { b with attempts := b.attempts + 1, failing := b.failing - 1 })
  /-- Any other is granted. The message is put behind the others, and its number is the number of
  messages that there are then. -/
  sendSucceeds : ∀ (via : Handle .sender) (m : Message), ¬Doomed (sendOrders via.target h) →
    let b := w.brokers via.target
    let number := (deliveries via.target h).length + 1
    ∃ b' : Broker, b'.messages = b.messages ++ [m] ∧ b'.attempts = b.attempts + 1 ∧
      b'.failing = b.failing ∧ b'.sequence = number ∧
      w.serve (.send via m) = (.sent (.ok number), w.setBroker via.target b')
  /-- Attempts to connect are counted by the connector and its copies, and leave the brokers alone. -/
  connect : ∀ via : Handle .connector,
    let d := w.dialers via.number
    (w.serve (.connect via)).2 = w.setDialer via.number ⟨d.attempts + 1, d.failing - 1⟩
  connectFails : ∀ via : Handle .connector, Doomed (dialOrders via.number h) →
    (w.serve (.connect via)).1
      = .connected (.error (.connection "memory broker: injected connect failure"))
  connectSucceeds : ∀ via : Handle .connector, ¬Doomed (dialOrders via.number h) →
    (w.serve (.connect via)).1 = .connected (.ok ())
  /-- Whoever asks for failures replaces those that are still to come, and changes nothing else. -/
  failSends : ∀ (via : Handle .sender) (n : Nat),
    w.serve (.failSends via n)
      = (.told, w.setBroker via.target { w.brokers via.target with failing := n })
  failConnects : ∀ (via : Handle .connector) (n : Nat),
    w.serve (.failConnects via n)
      = (.told, w.setDialer via.number { w.dialers via.number with failing := n })

theorem Kept.law (kept : Kept h w) : Law h w where
  sendFails via m doomed := by
    intro b
    have pos := (remaining_pos_iff _).mpr doomed
    rw [← (kept.brokers via.target).tally.failing] at pos
    rcases (w.brokers via.target).send_cases m with ⟨-, hsend⟩ | ⟨ready, -⟩
    · rw [World.serve_send, hsend]
    · omega
  sendSucceeds via m spared := by
    intro b number
    have zero : ¬0 < (w.brokers via.target).failing := by
      rw [(kept.brokers via.target).tally.failing]
      exact fun pos => spared ((remaining_pos_iff _).mp pos)
    have numbered : (w.brokers via.target).sequence + 1 = number :=
      congrArg (· + 1) (kept.brokers via.target).sequence
    rcases (w.brokers via.target).send_cases m with ⟨failing, -⟩ | ⟨-, hsend⟩
    · exact absurd failing zero
    · refine ⟨⟨m :: b.stored, b.attempts + 1, b.failing, b.sequence + 1⟩, List.reverse_cons, rfl, rfl,
        numbered, ?_⟩
      rw [World.serve_send, hsend, ← numbered]
  connect via := by
    intro d
    rw [World.serve_connect, (w.dialers via.number).connect_cases.1]
  connectFails via doomed := by
    have pos := (remaining_pos_iff _).mpr doomed
    rw [← (kept.dialers via.number).failing] at pos
    rw [World.serve_connect]
    rcases (w.dialers via.number).connect_cases.2 with ⟨-, failed⟩ | ⟨ready, -⟩
    · exact congrArg _ failed
    · omega
  connectSucceeds via spared := by
    have zero : ¬0 < (w.dialers via.number).failing := by
      rw [(kept.dialers via.number).failing]
      exact fun pos => spared ((remaining_pos_iff _).mp pos)
    rw [World.serve_connect]
    rcases (w.dialers via.number).connect_cases.2 with ⟨failing, -⟩ | ⟨-, connected⟩
    · exact absurd failing zero
    · exact congrArg _ connected
  failSends via n := w.serve_failSends via n
  failConnects via n := w.serve_failConnects via n

/-- The stories of longer sequences go on where those of shorter ones have ended. -/
theorem story_grows (qs more : List Request) : (run qs).1 <+: (run (qs ++ more)).1 := by
  -- by induction on what follows, the last request apart
  induction more using List.reverseRecOn with
  | nil =>
    have same : qs ++ [] = qs := List.append_nil qs
    exact same.symm ▸ List.prefix_rfl
  | append_singleton more q ih =>
    rw [← List.append_assoc, run_append]
    exact ih.trans (List.prefix_append _ _)

/-- **Messages are only ever added** behind those that are there. -/
theorem log_grows (qs more : List Request) (b : Nat) :
    ((run qs).2.brokers b).messages <+: ((run (qs ++ more)).2.brokers b).messages := by
  rw [((kept_run qs).brokers b).messages, ((kept_run (qs ++ more)).brokers b).messages]
  exact ((story_grows qs more).filterMap _).map _

/-- **One log for everything that leads to a broker**, and one count for a connector and its
copies. -/
structure OneLog (h : Story) (w : World) : Prop where
  /-- A broker holds what it was sent and has granted, unchanged and in the order of the calls, -/
  messages : ∀ b, (w.brokers b).messages = (deliveries b h).map (·.1)
  /-- which have got the numbers from one on. -/
  numbers : ∀ b, (deliveries b h).map (·.2) = List.range' 1 (deliveries b h).length
  size : ∀ b, (w.brokers b).size = (deliveries b h).length
  /-- It has counted every request to send, granted or not, -/
  attempts : ∀ b, (w.brokers b).attempts = (sendOrders b h).count .attempt
  /-- and a connector every attempt to connect. -/
  connects : ∀ i, (w.dialers i).attempts = (dialOrders i h).count .attempt
  next : Law h w

theorem Kept.oneLog (kept : Kept h w) : OneLog h w where
  messages b := (kept.brokers b).messages
  numbers b := (kept.brokers b).numbers
  size b := by rw [Broker.size_eq, (kept.brokers b).messages, List.length_map]
  attempts b := (kept.brokers b).tally.attempts
  connects i := (kept.dialers i).attempts
  next := kept.law

/-- **Brokers and connectors in memory do what was asked of them by anyone.** After any sequence of
requests by any handles there is one log for everything that leads to a broker, the next request
does what the law says, and messages are only ever added behind those that are there. -/
theorem shared_log (qs : List Request) :
    OneLog (run qs).1 (run qs).2 ∧
    ∀ (more : List Request) (b : Nat),
      ((run qs).2.brokers b).messages <+: ((run (qs ++ more)).2.brokers b).messages :=
  ⟨(kept_run qs).oneLog, log_grows qs⟩

/-- A client of a copy, and the broker itself behind it: one failure for both of them, and then the
numbers go on. Another connector over the broker knows nothing of failures to connect. -/
example (m : Message) :
    let broker := Handle.broker 0
    let one := Handle.connector 0 broker
    let other := Handle.connector 1 broker.copy
    (run [.send broker m, .failSends broker 1, .send one.copy.client m, .send other.client m,
        .failConnects one 1, .connect other, .connect one.copy]).1.map (·.2)
      = [.sent (.ok 1), .told, .sent (.error (.publish m.topic "memory broker: injected failure")),
        .sent (.ok 2), .told, .connected (.ok ()),
        .connected (.error (.connection "memory broker: injected connect failure"))] := by
  intro broker one other
  rfl

end AuditRelay.Memory
