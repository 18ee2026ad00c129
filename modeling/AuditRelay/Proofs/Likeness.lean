import AuditRelay.Proofs.Calls

/-!
# Pipelines that cannot be told apart

A dispatcher learns of its broker only through the connector: it sees the replies and nothing of
what the broker remembers. So two connectors whose replies are the same lead to the same doings,
whatever the brokers behind them look like inside.

* `Connector.Twin R` says that two connectors reply alike as long as their brokers are in the
  relation `R`, which every request keeps.
* `Dispatcher.Twin R` says that two dispatchers are one and the same but for their brokers, which
  are in the relation: they have told the same events, they have made the same requests at the same
  moments, they wait for the same replies. `Dispatcher.Twin.proceed?` and the lemmas beside it say
  that every move keeps it.
* `Pipeline.Twin.play` is the result for pipelines: two of them that are alike, and are called in
  the same way with connectors that are alike, see the same and stay alike.

Only `Worker.dial?` and `Worker.post?` make requests. Everything else leaves the broker aside, which
is said by the equations for `withBroker`.
-/

namespace AuditRelay

open History

variable {β γ : Type} {R : β → γ → Prop}

/-- **Connectors that reply alike** as long as their brokers are in a relation. -/
structure Connector.Twin (R : β → γ → Prop) (c : Connector β) (c' : Connector γ) : Prop where
  transport : c'.transport = c.transport
  client : c'.client = c.client
  connect : ∀ {b b'}, R b b' →
    (c'.connect b').1 = (c.connect b).1 ∧ R (c.connect b).2 (c'.connect b').2
  send : ∀ {b b'} (m : Message), R b b' →
    (c'.send m b').1 = (c.send m b).1 ∧ R (c.send m b).2 (c'.send m b').2

/-- What is done on a condition is alike if both ways of it are. -/
theorem rel_ite {α α' : Type} {r : α → α' → Prop} {p : Prop} [Decidable p] {x y : Option α}
    {x' y' : Option α'} (yes : p → Option.Rel r x x') (no : ¬p → Option.Rel r y y') :
    Option.Rel r (if p then x else y) (if p then x' else y') := by
  split
  · next h => exact yes h
  · next h => exact no h

theorem rel_map {α α' δ δ' : Type} {r : α → α' → Prop} {q : δ → δ' → Prop} {f : α → δ} {f' : α' → δ'}
    {x : Option α} {x' : Option α'} (rel : Option.Rel r x x')
    (keeps : ∀ {a a'}, r a a' → q (f a) (f' a')) : Option.Rel q (x.map f) (x'.map f') := by
  cases rel with
  | some h => exact .some (keeps h)
  | none => exact .none

theorem rel_bind {α α' δ δ' : Type} {r : α → α' → Prop} {q : δ → δ' → Prop} {f : α → Option δ}
    {f' : α' → Option δ'} {x : Option α} {x' : Option α'} (rel : Option.Rel r x x')
    (keeps : ∀ {a a'}, r a a' → Option.Rel q (f a) (f' a')) :
    Option.Rel q (x.bind f) (x'.bind f') := by
  cases rel with
  | some h => exact keeps h
  | none => exact .none

theorem rel_cases {α α' : Type} {r : α → α' → Prop} {x : Option α} {x' : Option α'}
    (rel : Option.Rel r x x') :
    x = none ∧ x' = none ∨ ∃ a a', x = some a ∧ x' = some a' ∧ r a a' := by
  cases rel with
  | some h => exact Or.inr ⟨_, _, rfl, rfl, h⟩
  | none => exact Or.inl ⟨rfl, rfl⟩

theorem isSome_eq_of_rel {α α' : Type} {r : α → α' → Prop} {x : Option α} {x' : Option α'}
    (rel : Option.Rel r x x') : x'.isSome = x.isSome := by
  cases rel <;> rfl

/-! ### Workers -/

namespace Worker

variable {w : Worker β} {w' : Worker γ} {c : Connector β} {c' : Connector γ}

/-- The worker with another broker. -/
def withBroker (w : Worker β) (b : γ) : Worker γ :=
  ⟨b, w.now, w.cancelled, w.link, w.stats, w.dials, w.sends, w.events⟩

/-- **Workers that differ in nothing but their brokers**, which are in a relation. -/
def Twin (R : β → γ → Prop) (w : Worker β) (w' : Worker γ) : Prop :=
  ∃ b', R w.broker b' ∧ w' = w.withBroker b'

/-- How far two trials have come is the same, and their workers are alike. -/
def Matched {α : Type} (R : β → γ → Prop) (s : Trial α × Worker β) (s' : Trial α × Worker γ) :
    Prop :=
  ∃ b', R s.2.broker b' ∧ s' = (s.1, s.2.withBroker b')

theorem dialing_twin (hc : c.Twin R c') (interval : Nat) :
    dialing c' interval = dialing c interval := by
  unfold dialing
  rw [hc.transport]

theorem dialed_twin (hc : c.Twin R c') (made : Nat) : dialed c' made = dialed c made := by
  unfold dialed
  rw [hc.client]

/-- **Connecting goes on alike.** -/
theorem Twin.dial? (hw : w.Twin R w') (hc : c.Twin R c') (interval : Nat) (t : Trial Unit) :
    Option.Rel (Matched R) (Worker.dial? c interval (t, w)) (Worker.dial? c' interval (t, w')) := by
  obtain ⟨b', hb, rfl⟩ := hw
  cases t with
  | ready made =>
    refine rel_ite (fun told => .some ⟨b', hb, rfl⟩) fun untold => ?_
    -- the request is made here, and here the brokers change
    obtain ⟨reply, kept⟩ := hc.connect hb
    refine .some ⟨_, kept, ?_⟩
    show (Trial.asked (made + 1) w.now (c'.connect b').1, _) = _
    rw [reply]
    rfl
  | asked made since reply =>
    refine rel_ite (fun arrived => ?_) fun _ => .none
    cases reply.answer with
    | ok done =>
      refine .some ⟨b', hb, ?_⟩
      rw [dialed_twin hc]
      rfl
    | error e => exact .some ⟨b', hb, rfl⟩
  | paused made wake => exact rel_ite (fun _ => .some ⟨b', hb, rfl⟩) fun _ => .none
  | succeeded made result => exact .none
  | cancelled => exact .none

/-- **Publishing goes on alike.** -/
theorem Twin.post? (hw : w.Twin R w') (hc : c.Twin R c') (interval : Nat) (m : Message)
    (t : Trial Nat) : Option.Rel (Matched R) (Worker.post? c interval m (t, w))
      (Worker.post? c' interval m (t, w')) := by
  obtain ⟨b', hb, rfl⟩ := hw
  cases t with
  | ready made =>
    obtain ⟨reply, kept⟩ := hc.send m hb
    refine .some ⟨_, kept, ?_⟩
    show (Trial.asked (made + 1) w.now (c'.send m b').1, _) = _
    rw [reply]
    rfl
  | asked made since reply =>
    refine rel_ite (fun arrived => ?_) fun _ => .none
    cases reply.answer with
    | ok sequence => exact .some ⟨b', hb, rfl⟩
    | error e => exact .some ⟨b', hb, rfl⟩
  | paused made wake => exact rel_ite (fun _ => .some ⟨b', hb, rfl⟩) fun _ => .none
  | succeeded made result => exact .none
  | cancelled => exact .none

/-- The signal is noticed alike, by those who connect and by those who publish. -/
theorem Twin.quitDial? (hw : w.Twin R w') (t : Trial Unit) :
    Option.Rel (Matched R) (Worker.quitDial? (t, w)) (Worker.quitDial? (t, w')) := by
  obtain ⟨b', hb, rfl⟩ := hw
  cases t with
  | paused made wake => exact rel_ite (fun _ => .some ⟨b', hb, rfl⟩) fun _ => .none
  | _ => exact .none

theorem Twin.quitPost? (hw : w.Twin R w') (t : Trial Nat) :
    Option.Rel (Matched R) (Worker.quitPost? (t, w)) (Worker.quitPost? (t, w')) := by
  obtain ⟨b', hb, rfl⟩ := hw
  exact rel_ite (fun _ => .some ⟨b', hb, rfl⟩) fun _ => .none

end Worker

/-! ### Dispatchers -/

/-- **The same work** but for the connectors, which reply alike. -/
structure Assignment.Twin (R : β → γ → Prop) (a : Assignment β) (a' : Assignment γ) : Prop where
  settings : a'.settings = a.settings
  connector : a.connector.Twin R a'.connector
  around : a'.around = a.around

theorem Assignment.Twin.interval {a : Assignment β} {a' : Assignment γ} (ha : a.Twin R a') :
    a'.interval = a.interval := by
  unfold Assignment.interval
  rw [ha.settings]

/-- The message of a log is made of the log and of what surrounds the dispatcher. -/
theorem Assignment.Twin.message {a : Assignment β} {a' : Assignment γ} (ha : a.Twin R a') (n : Nat)
    (l : Log) : a'.message n l = a.message n l := by
  unfold Assignment.message
  rw [ha.settings, ha.around]

namespace Dispatcher

variable {a : Assignment β} {a' : Assignment γ} {d : Dispatcher β} {d' : Dispatcher γ}

/-- The dispatcher with another broker. -/
def withBroker (d : Dispatcher β) (b : γ) : Dispatcher γ :=
  ⟨d.worker.withBroker b, d.queue, d.producers, d.stage, d.ids, d.taken, d.arrivals⟩

/-- **Dispatchers that differ in nothing but their brokers**, which are in a relation. -/
def Twin (R : β → γ → Prop) (d : Dispatcher β) (d' : Dispatcher γ) : Prop :=
  ∃ b', R d.worker.broker b' ∧ d' = d.withBroker b'

/-! What producers do, and what is done to a dispatcher, leaves the broker aside. -/

theorem Twin.submit (hd : d.Twin R d') (t : Nat) (stays : Bool) (l : Log) :
    (d'.submit t stays l).1 = (d.submit t stays l).1 ∧
      (d.submit t stays l).2.Twin R (d'.submit t stays l).2 := by
  obtain ⟨b', hb, rfl⟩ := hd
  unfold Dispatcher.submit
  show _ ∧ Twin R _ _
  cases hq : d.queue.submit t stays l with
  | mk r q =>
    have hq' : (d.withBroker b').queue.submit t stays l = (r, q) := hq
    rw [hq']
    cases r <;> exact ⟨rfl, b', hb, rfl⟩

theorem Twin.closeQueue (hd : d.Twin R d') : d.closeQueue.Twin R d'.closeQueue := by
  obtain ⟨b', hb, rfl⟩ := hd
  exact ⟨b', hb, rfl⟩

theorem Twin.cancel (hd : d.Twin R d') : d.cancel.Twin R d'.cancel := by
  obtain ⟨b', hb, rfl⟩ := hd
  exact ⟨b', hb, rfl⟩

theorem Twin.comeBack (hd : d.Twin R d') (t : Nat) (l : Log) :
    (d.comeBack t l).Twin R (d'.comeBack t l) := by
  obtain ⟨b', hb, rfl⟩ := hd
  exact ⟨b', hb, rfl⟩

theorem Twin.abandon (hd : d.Twin R d') (t : Nat) : (d.abandon t).Twin R (d'.abandon t) := by
  obtain ⟨b', hb, rfl⟩ := hd
  exact ⟨b', hb, rfl⟩

theorem Twin.waitUntil (hd : d.Twin R d') (t : Nat) :
    (d.waitUntil t).Twin R (d'.waitUntil t) := by
  obtain ⟨b', hb, rfl⟩ := hd
  exact ⟨b', hb, rfl⟩

theorem Twin.start (hd : d.Twin R d') (ha : a.Twin R a') :
    (d.start a).Twin R (d'.start a') := by
  obtain ⟨b', hb, rfl⟩ := hd
  refine ⟨b', hb, ?_⟩
  unfold Dispatcher.start
  rw [ha.interval, Worker.dialing_twin ha.connector]
  rfl

/-! What the dispatcher does by itself. -/

theorem running_twin (ha : a.Twin R a') : running a' = running a := by
  unfold running
  rw [ha.settings]

/-- It takes up alike where connecting has come to. -/
theorem Twin.connect (hd : d.Twin R d') (ha : a.Twin R a')
    {s : Trial Unit × Worker β} {s' : Trial Unit × Worker γ} (hs : Worker.Matched R s s') :
    (d.connect a s).Twin R (d'.connect a' s') := by
  obtain ⟨-, -, rfl⟩ := hd
  obtain ⟨b', hb, rfl⟩ := hs
  obtain ⟨t, w⟩ := s
  cases t with
  | succeeded made result =>
    refine ⟨b', hb, ?_⟩
    unfold Dispatcher.connect
    rw [running_twin ha]
    rfl
  | _ => exact ⟨b', hb, rfl⟩

/-- It takes up alike where publishing has come to. -/
theorem Twin.publish (hd : d.Twin R d') (l : Log) (m : Message)
    {s : Trial Nat × Worker β} {s' : Trial Nat × Worker γ} (hs : Worker.Matched R s s') :
    (d.publish l m s).Twin R (d'.publish l m s') := by
  obtain ⟨-, -, rfl⟩ := hd
  obtain ⟨b', hb, rfl⟩ := hs
  obtain ⟨t, w⟩ := s
  cases t <;> exact ⟨b', hb, rfl⟩

/-- It takes a log alike, and it ends alike when there is none. -/
theorem Twin.take? (hd : d.Twin R d') (ha : a.Twin R a') :
    Option.Rel (Twin R) (d.take? a) (d'.take? a') := by
  obtain ⟨b', hb, rfl⟩ := hd
  cases hq : d.queue.take? with
  | none =>
    have hq' : (d.withBroker b').queue.take? = none := hq
    rw [Dispatcher.take?, Dispatcher.take?, hq, hq']
    -- without a log it stops if nobody is there to bring one, or else it stays as it is
    exact rel_ite (fun _ => .some ⟨b', hb, rfl⟩) fun _ => .none
  | some taken =>
    have hq' : (d.withBroker b').queue.take? = some taken := hq
    rw [take?_of_taken hq, take?_of_taken hq', ha.settings]
    simp only [ha.message]
    exact .some ⟨b', hb, rfl⟩

/-- **The dispatcher goes on alike.** -/
theorem Twin.proceed? (hd : d.Twin R d') (ha : a.Twin R a') :
    Option.Rel (Twin R) (d.proceed? a) (d'.proceed? a') := by
  obtain ⟨b', hb, rfl⟩ := hd
  have hd : d.Twin R (d.withBroker b') := ⟨b', hb, rfl⟩
  have hw : d.worker.Twin R (d.worker.withBroker b') := ⟨b', hb, rfl⟩
  have stage : (d.withBroker b').stage = d.stage := rfl
  unfold Dispatcher.proceed?
  rw [ha.interval, stage]
  cases d.stage with
  | connecting t => exact rel_map (hw.dial? ha.connector a.interval t) (hd.connect ha)
  | idle => exact hd.take? ha
  | publishing l m t => exact rel_map (hw.post? ha.connector a.interval m t) (hd.publish l m)
  | dormant => exact .none
  | stopped time => exact .none

/-- **The dispatcher notices the signal alike.** -/
theorem Twin.quit? (hd : d.Twin R d') (ha : a.Twin R a') :
    Option.Rel (Twin R) (d.quit? a) (d'.quit? a') := by
  obtain ⟨b', hb, rfl⟩ := hd
  have hd : d.Twin R (d.withBroker b') := ⟨b', hb, rfl⟩
  have hw : d.worker.Twin R (d.worker.withBroker b') := ⟨b', hb, rfl⟩
  have stage : (d.withBroker b').stage = d.stage := rfl
  unfold Dispatcher.quit?
  rw [stage]
  cases d.stage with
  | connecting t => exact rel_map (hw.quitDial? t) (hd.connect ha)
  | idle => exact rel_ite (fun _ => .some ⟨b', hb, rfl⟩) fun _ => .none
  | publishing l m t => exact rel_map (hw.quitPost? t) (hd.publish l m)
  | dormant => exact .none
  | stopped time => exact .none

/-- What is seen is the same, and what comes of it is alike. -/
def Seen (R : β → γ → Prop) (s : List Sight × Dispatcher β) (s' : List Sight × Dispatcher γ) : Prop :=
  s'.1 = s.1 ∧ s.2.Twin R s'.2

theorem Twin.working (hd : d.Twin R d') : d'.working = d.working := by
  obtain ⟨b', -, rfl⟩ := hd
  rfl

theorem Twin.resigning (hd : d.Twin R d') : d'.resigning = d.resigning := by
  obtain ⟨b', -, rfl⟩ := hd
  rfl

theorem Twin.witnessed {seen : List Sight} {e : Dispatcher β} {e' : Dispatcher γ}
    (hd : d.Twin R d') (he : e.Twin R e') :
    Seen R (d.witnessed seen e) (d'.witnessed seen e') := by
  obtain ⟨b', hb, rfl⟩ := hd
  obtain ⟨b'', hb', rfl⟩ := he
  exact ⟨rfl, b'', hb', rfl⟩

end Dispatcher

/-! ### Endpoints -/

/-- Endpoints of the same kind of broker at the same place. -/
structure Endpoint.Near (e e' : Endpoint) : Prop where
  transport : e'.transport = e.transport
  host : e'.host = e.host
  port : e'.port = e.port

/-- **Endpoints that lead to the same**: to the same kind of broker at the same place, and to
configurations that are in a relation; or to none, for the same reason. -/
structure Endpoint.Twin (Q : Nats.Config → Nats.Config → Prop) (e e' : Endpoint) : Prop
    extends Endpoint.Near e e' where
  config : ∀ s,
    (∃ c c', Nats.Config.ofSettings e s = .ok c ∧ Nats.Config.ofSettings e' s = .ok c' ∧ Q c c') ∨
      ∃ f, Nats.Config.ofSettings e s = .error f ∧ Nats.Config.ofSettings e' s = .error f

/-! ### Pipelines -/

namespace Pipeline

variable {ι κ : Type} {Q : Nats.Config → Nats.Config → Prop} {I : ι → κ → Prop}
  {g : Supply ι β} {g' : Supply κ γ} {p : Pipeline β} {p' : Pipeline γ} {e e' : Endpoint}

/-- **Pipelines that differ in nothing but their brokers**, which are in a relation, and in the
connectors they work with, which reply alike. -/
structure Twin (R : β → γ → Prop) (p : Pipeline β) (p' : Pipeline γ) : Prop where
  settings : p'.settings = p.settings
  disabled : p'.disabled = p.disabled
  assignment : Option.Rel (Assignment.Twin R) p.assignment p'.assignment
  dispatcher : p.dispatcher.Twin R p'.dispatcher
  around : p'.around = p.around
  /-- They have told the same. -/
  events : p'.events = p.events

/-- The answer is the same, and what comes of the call is alike. -/
def Answered (R : β → γ → Prop) (r : Bool × Pipeline β) (r' : Bool × Pipeline γ) : Prop :=
  r'.1 = r.1 ∧ r.2.Twin R r'.2

namespace Twin

theorem isStarted (hp : p.Twin R p') : p'.isStarted = p.isStarted :=
  isSome_eq_of_rel hp.assignment

theorem isCancelled (hp : p.Twin R p') : p'.isCancelled = p.isCancelled := by
  obtain ⟨b', -, same⟩ := hp.dispatcher
  unfold Pipeline.isCancelled
  rw [same]
  rfl

theorem queue (hp : p.Twin R p') : p'.dispatcher.queue = p.dispatcher.queue := by
  obtain ⟨b', -, same⟩ := hp.dispatcher
  rw [same]
  rfl

theorem holdsReceiver (hp : p.Twin R p') : p'.holdsReceiver = p.holdsReceiver := by
  unfold Pipeline.holdsReceiver
  rw [← Option.not_isSome, ← Option.not_isSome, isSome_eq_of_rel hp.assignment, hp.queue]

theorem refusal? (hp : p.Twin R p') : p'.refusal? = p.refusal? := by
  unfold Pipeline.refusal?
  rw [hp.settings, hp.disabled, hp.isCancelled, hp.isStarted]

theorem relinquished (hp : p.Twin R p') : p'.relinquished = p.relinquished := by
  unfold Pipeline.relinquished Dispatcher.dismissed
  rw [hp.holdsReceiver, hp.queue]

theorem tell (hp : p.Twin R p') (severity : Severity) (message : String)
    (fields : List (String × FieldValue)) :
    (p.tell severity message fields).Twin R (p'.tell severity message fields) :=
  ⟨hp.settings, hp.disabled, hp.assignment, hp.dispatcher, hp.around, congrArg _ hp.events⟩

theorem closeQueue (hp : p.Twin R p') : p.closeQueue.Twin R p'.closeQueue := by
  unfold Pipeline.closeQueue
  rw [hp.holdsReceiver]
  split
  · refine tell ?_ _ _ _
    exact { hp with dispatcher := hp.dispatcher.closeQueue }
  · exact hp

theorem disable (hp : p.Twin R p') (reason : String) :
    (p.disable reason).Twin R (p'.disable reason) := by
  refine tell (closeQueue ?_) _ _ _
  exact { hp with disabled := rfl }

theorem shutdown (hp : p.Twin R p') : p.shutdown.Twin R p'.shutdown := by
  refine closeQueue ?_
  have told := hp.tell .info "Audit pipeline shutting down" []
  exact { told with dispatcher := hp.dispatcher.cancel }

theorem start (hp : p.Twin R p') {c : Connector β} {c' : Connector γ} (hc : c.Twin R c')
    (he : e.Near e') : (p.start c e).Twin R (p'.start c' e') := by
  have work : Assignment.Twin R ⟨p.settings, c, p.around⟩ ⟨p.settings, c', p'.around⟩ :=
    ⟨rfl, hc, hp.around⟩
  unfold Pipeline.start
  rw [he.transport, he.host, he.port, hp.settings]
  refine tell ?_ _ _ _
  exact { hp with
    settings := rfl
    assignment := .some work
    dispatcher := hp.dispatcher.start work }

theorem submit (hp : p.Twin R p') (t : Nat) (stays : Bool) (l : Log) :
    (p'.submit t stays l).1 = (p.submit t stays l).1 ∧
      (p.submit t stays l).2.Twin R (p'.submit t stays l).2 := by
  cases hd : p.disabled with
  | true =>
    rw [submit_disabled hd, submit_disabled (hp.disabled.trans hd)]
    exact ⟨rfl, hp.tell _ _ _⟩
  | false =>
    obtain ⟨admission, kept⟩ := hp.dispatcher.submit t stays l
    rw [submit_enabled hd, submit_enabled (hp.disabled.trans hd), admission]
    exact ⟨rfl, { hp with dispatcher := kept }⟩

/-! Calls to start a pipeline. -/

/-- **A call with a connector is answered alike.** -/
theorem initWith (hp : p.Twin R p') {c : Connector β} {c' : Connector γ} (hc : c.Twin R c')
    (he : e.Near e') : Answered R (p.initWith c e) (p'.initWith c' e') := by
  unfold Pipeline.initWith
  -- all that the call looks at is the same, and what it does then is alike
  rw [hp.refusal?, hp.settings, hp.holdsReceiver, he.transport, hc.transport]
  cases p.refusal? with
  | some reason => exact ⟨rfl, hp.tell _ _ _⟩
  | none =>
    by_cases transport : e.transport ≠ c.transport
    · simp only [if_pos transport]
      exact ⟨rfl, hp.disable _⟩
    · simp only [if_neg transport]
      cases p.settings.defect? with
      | some defect => exact ⟨rfl, hp.disable _⟩
      | none =>
        by_cases receiver : p.holdsReceiver = true
        · simp only [if_pos receiver]
          exact ⟨rfl, hp.start hc he⟩
        · simp only [if_neg receiver]
          exact ⟨rfl, hp.tell _ _ _⟩

/-- **A call with an endpoint is answered alike.** -/
theorem init (hp : p.Twin R p') {client : Nats.Config → Connector β}
    {client' : Nats.Config → Connector γ}
    (hk : ∀ {c c'}, Q c c' → (client c).Twin R (client' c')) (he : e.Twin Q e') :
    Answered R (p.init client e) (p'.init client' e') := by
  unfold Pipeline.init
  rw [hp.refusal?, hp.settings, he.transport]
  cases p.refusal? with
  | some reason => exact ⟨rfl, hp.tell _ _ _⟩
  | none =>
    by_cases transport : e.transport ≠ Nats.transport
    · simp only [if_pos transport]
      exact ⟨rfl, hp.disable _⟩
    · simp only [if_neg transport]
      -- both endpoints lead to a configuration, or neither does
      rcases he.config p.settings with ⟨c, c', hc, hc', related⟩ | ⟨f, hf, hf'⟩
      · rw [hc, hc']
        exact hp.initWith (hk related) he.toNear
      · rw [hf, hf']
        exact ⟨rfl, hp.disable _⟩

end Twin

/-! ### Runs -/

/-- **Supplies that are alike**: connectors whose indices are related reply alike, and clients for
configurations that are related have such indices. -/
structure Supply.Twin (R : β → γ → Prop) (Q : Nats.Config → Nats.Config → Prop) (I : ι → κ → Prop)
    (g : Supply ι β) (g' : Supply κ γ) : Prop where
  connector : ∀ {i i'}, I i i' → (g.connector i).Twin R (g'.connector i')
  client : ∀ {c c'}, Q c c' → I (g.client c) (g'.client c')

/-- **The same call**, but for endpoints and connectors that are alike. -/
inductive Move.Twin (Q : Nats.Config → Nats.Config → Prop) (I : ι → κ → Prop) :
    Move ι → Move κ → Prop where
  | init {e e' : Endpoint} (he : e.Twin Q e') : Move.Twin Q I (.init e) (.init e')
  | initWith {i : ι} {i' : κ} {e e' : Endpoint} (hi : I i i') (he : e.Near e') :
      Move.Twin Q I (.initWith i e) (.initWith i' e')
  | submit (ticket : Nat) (stays : Bool) (l : Log) :
      Move.Twin Q I (.submit ticket stays l) (.submit ticket stays l)
  | shutdown : Move.Twin Q I .shutdown .shutdown
  | inside (m : Dispatcher.Move) : Move.Twin Q I (.inside m) (.inside m)

/-- **The same is seen**, but for connectors that are alike. -/
inductive Episode.Twin (I : ι → κ → Prop) : Episode ι → Episode κ → Prop where
  | initialised {o : Option ι} {o' : Option κ} (ho : Option.Rel I o o') (answer : Bool) :
      Episode.Twin I (.initialised o answer) (.initialised o' answer)
  | disabled : Episode.Twin I .disabled .disabled
  | shutDown : Episode.Twin I .shutDown .shutDown
  | submitted (ticket : Nat) (l : Log) (receipt : Receipt) :
      Episode.Twin I (.submitted ticket l receipt) (.submitted ticket l receipt)
  | inside (s : Sight) : Episode.Twin I (.inside s) (.inside s)

/-- The same is seen of two pipelines, and they are alike. -/
def Together (R : β → γ → Prop) (I : ι → κ → Prop) (s : List (Episode ι) × Pipeline β)
    (s' : List (Episode κ) × Pipeline γ) : Prop :=
  List.Forall₂ (Episode.Twin I) s.1 s'.1 ∧ s.2.Twin R s'.2

theorem inner_twin {h : List (Episode ι)} {h' : List (Episode κ)}
    (hh : List.Forall₂ (Episode.Twin I) h h') : inner h' = inner h := by
  -- by induction on the episodes, of which only those inside count
  induction hh with
  | nil => rfl
  | cons he _ ih =>
    cases he with
    | inside s => exact congrArg (s :: ·) ih
    | _ => exact ih

theorem twins_inside (seen : List Sight) :
    List.Forall₂ (Episode.Twin I) (seen.map .inside) (seen.map .inside) := by
  induction seen with
  | nil => exact .nil
  | cons s rest ih => exact .cons (.inside s) ih

theorem Move.Twin.proper_iff {m : Move ι} {m' : Move κ} (hm : m.Twin Q I m')
    {h : List (Episode ι)} {h' : List (Episode κ)} (hh : List.Forall₂ (Episode.Twin I) h h') :
    m'.Proper h' ↔ m.Proper h := by
  have same := inner_twin hh
  cases hm with
  | submit t stays l =>
    show t ∉ tickets (inner h') ↔ t ∉ tickets (inner h)
    rw [same]
  | inside m =>
    show m.Proper (inner h') ↔ m.Proper (inner h)
    rw [same]
  | _ => exact Iff.rfl

/-- What is seen of calls that are answered alike. -/
theorem Twin.opened (hp : p.Twin R p') {o : Option ι} {o' : Option κ} (ho : Option.Rel I o o')
    {r : Bool × Pipeline β} {r' : Bool × Pipeline γ} (hr : Answered R r r') :
    Together R I (p.opened o r) (p'.opened o' r') := by
  obtain ⟨answer, after⟩ := hr
  unfold Pipeline.opened
  rw [answer, after.disabled, hp.disabled, hp.relinquished]
  refine ⟨.cons (.initialised ho _) ?_, after⟩
  split
  · exact .nil
  · exact .cons .disabled (twins_inside _)

/-- **What is done without a call is done alike.** -/
theorem Twin.inside? (hp : p.Twin R p') (m : Dispatcher.Move) :
    Option.Rel (Dispatcher.Seen R) (p.inside? m) (p'.inside? m) := by
  have same : p'.dispatcher.queue = p.dispatcher.queue := hp.queue
  cases m with
  | comeBack t l =>
    refine .some ⟨?_, hp.dispatcher.comeBack t l⟩
    show ite _ _ _ = ite _ _ _
    rw [same]
  | abandon t =>
    refine .some ⟨?_, hp.dispatcher.abandon t⟩
    show _ :: ite _ _ _ = _ :: ite _ _ _
    rw [same]
  | wait t => exact .some ⟨rfl, hp.dispatcher.waitUntil t⟩
  -- by itself the dispatcher moves only if it was started
  | proceed =>
    refine rel_bind hp.assignment fun ha => ?_
    refine rel_map (hp.dispatcher.proceed? ha) fun after => ?_
    rw [hp.dispatcher.working]
    exact hp.dispatcher.witnessed after
  | quit =>
    refine rel_bind hp.assignment fun ha => ?_
    refine rel_map (hp.dispatcher.quit? ha) fun after => ?_
    rw [hp.dispatcher.resigning]
    exact hp.dispatcher.witnessed after
  | _ => exact .none

/-- **Every move is made alike.** -/
theorem Twin.step? (hp : p.Twin R p') (hg : Supply.Twin R Q I g g') {m : Move ι} {m' : Move κ}
    (hm : m.Twin Q I m') : Option.Rel (Together R I) (p.step? g m) (p'.step? g' m') := by
  cases hm with
  | init he =>
    refine .some (hp.opened ?_ (hp.init (fun related => hg.connector (hg.client related)) he))
    rw [hp.settings]
    rcases he.config p.settings with ⟨c, c', hc, hc', related⟩ | ⟨f, hf, hf'⟩
    · rw [hc, hc']
      exact .some (hg.client related)
    · rw [hf, hf']
      exact .none
  | initWith hi he => exact .some (hp.opened (.some hi) (hp.initWith (hg.connector hi) he))
  | submit t stays l =>
    obtain ⟨receipt, after⟩ := hp.submit t stays l
    refine .some ⟨?_, after⟩
    show List.Forall₂ _ (Episode.submitted t l (p.submit t stays l).1 :: _)
      (Episode.submitted t l (p'.submit t stays l).1 :: (asking t stays l (p'.submit t stays l).1).map _)
    rw [receipt]
    exact .cons (.submitted t l _) (twins_inside _)
  | shutdown =>
    refine .some ⟨?_, hp.shutdown⟩
    rw [hp.relinquished]
    exact .cons .shutDown (twins_inside _)
  | inside m =>
    refine rel_map (hp.inside? m) fun {s s'} seen => ?_
    obtain ⟨same, after⟩ := seen
    refine ⟨?_, { hp with dispatcher := after }⟩
    show List.Forall₂ _ _ (s'.1.map _)
    rw [same]
    exact twins_inside _

/-- **Runs of pipelines that are alike.** Called in the same way they see the same and stay
alike. -/
theorem Twin.play (hp : p.Twin R p') (hg : Supply.Twin R Q I g g') {ms : List (Move ι)}
    {ms' : List (Move κ)} (hms : List.Forall₂ (Move.Twin Q I) ms ms') :
    Together R I (Pipeline.play g p ms) (Pipeline.play g' p' ms') := by
  unfold Pipeline.play
  -- by induction on the moves, from any two states that are alike
  suffices goesOn : ∀ (s : List (Episode ι) × Pipeline β) (s' : List (Episode κ) × Pipeline γ),
      Together R I s s' → Together R I (ms.foldl _ s) (ms'.foldl _ s') from
    goesOn _ _ ⟨.nil, hp⟩
  induction hms with
  | nil => exact fun s s' together => together
  | @cons m m' _ _ hm _ ih =>
    intro s s' together
    obtain ⟨seen, after⟩ := together
    rw [List.foldl_cons, List.foldl_cons]
    refine ih _ _ ?_
    by_cases proper : m.Proper s.1
    · rw [if_pos proper, if_pos ((hm.proper_iff seen).mpr proper)]
      -- both can make the move, or neither can
      rcases rel_cases (after.step? hg hm) with ⟨hs, hs'⟩ | ⟨r, r', hs, hs', both⟩
      · rw [hs, hs']
        exact ⟨seen, after⟩
      · rw [hs, hs']
        exact ⟨List.rel_append seen both.1, both.2⟩
    · rw [if_neg proper, if_neg fun h => proper ((hm.proper_iff seen).mp h)]
      exact ⟨seen, after⟩

end Pipeline

end AuditRelay
