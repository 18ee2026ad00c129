import AuditRelay.Broker.Memory
import AuditRelay.Dispatch.Worker
import AuditRelay.Proofs.Wire

/-!
# Logs in messages

The payload of a message holds the log that the message was made of, all but its outcome, in
whatever order its details were written. So two messages have one payload only if they are about one
log, and whoever reads the messages that a broker has stored finds a log in each of them.

`Log.round_trip` says so of every log, and of a broker in memory after any publications, some of
which may have failed or been given up (`Memory.Errand`).
-/

namespace AuditRelay

/-! ### The log in a payload -/

namespace Message

/-- **The log in a message** is the one that the message was made of. -/
theorem log?_ofLog (s : Settings) (draw : Nat) (l : Log) (order : Detail.Order) :
    (Message.ofLog s draw l order).log? = some { l with status := none } := by
  have parsed :
      Log.parse (Mark.ofBytes (l.write order).toUTF8) = .ok { l with status := none } := by
    rw [Mark.ofBytes_toUTF8]
    exact l.parse_write order
  rw [log?, ofLog, address, parsed]
  rfl

/-- **Two payloads are the same** only if the logs are, up to their outcomes. -/
theorem eq_of_payload_eq {s s' : Settings} {draw draw' : Nat} {l l' : Log}
    {order order' : Detail.Order}
    (same : (Message.ofLog s draw l order).payload = (Message.ofLog s' draw' l' order').payload) :
    { l with status := none } = { l' with status := none } := by
  -- a payload is all that the log in a message is read from
  have logs : (Message.ofLog s draw l order).log? = (Message.ofLog s' draw' l' order').log? := by
    rw [log?, log?, same]
  rw [log?_ofLog, log?_ofLog] at logs
  exact Option.some.inj logs

end Message

/-! ### What publishing keeps -/

/-- What every move keeps is kept as long as the clock runs. -/
theorem Clockwork.runUntil_keeps {σ : Type} {c : Clockwork σ} {P : σ → Prop}
    (act : ∀ s s', c.act? s = some s' → P s → P s') (wait : ∀ t s, P s → P (c.wait t s))
    (limit : Option Nat) (fuel : Nat) {s : σ} (begin : P s) : P (c.runUntil limit fuel s) := by
  induction fuel generalizing s with
  | zero => exact begin
  | succ fuel ih =>
    simp only [runUntil]
    split
    · next s' hact => exact ih (act s s' hact begin)
    · split
      · split
        · exact ih (wait _ s begin)
        · exact wait _ s begin
      · exact ih (wait _ s begin)
      · exact wait _ s begin
      · exact begin

namespace Worker

variable {α β : Type} {c : Connector β} {Q : β → Prop}

/-- A trial keeps what each of its moves keeps of the broker. -/
theorem runTrial_keeps {go quit : Trial α × Worker β → Option (Trial α × Worker β)}
    (goes : ∀ s s', go s = some s' → Q s.2.broker → Q s'.2.broker)
    (quits : ∀ s s', quit s = some s' → Q s.2.broker → Q s'.2.broker)
    (signal : Option Nat) {w : Worker β} (begin : Q w.broker) :
    Q (runTrial c (clockwork go quit) signal w).2.broker := by
  have keeps (limit : Option Nat) (fuel : Nat) {s : Trial α × Worker β} (begin : Q s.2.broker) :
      Q ((clockwork go quit).runUntil limit fuel s).2.broker := by
    refine Clockwork.runUntil_keeps (P := fun s : Trial α × Worker β => Q s.2.broker) ?_ ?_ limit
      fuel begin
    · intro s s' act
      rcases Option.or_eq_some_iff.mp act with hquit | ⟨-, hgo⟩
      · exact quits s s' hquit
      · exact goes s s' hgo
    · intro t s hs
      change Q (if s.1.isOver then s else (s.1, s.2.waitUntil t)).2.broker
      split
      · exact hs
      · exact hs
  unfold runTrial
  split
  · exact keeps _ _ begin
  · exact keeps _ _ begin
  · simp only
    split
    · exact keeps _ _ begin
    · exact keeps _ _ (keeps _ _ begin)

/-- **Publishing keeps what every request keeps** of the broker. -/
theorem publish_keeps {m : Message} (send : ∀ b, Q b → Q (c.send m b).2) (interval : Nat) (l : Log)
    (signal : Option Nat) {w : Worker β} (begin : Q w.broker) :
    Q (w.publish c interval l m signal).2.broker := by
  refine runTrial_keeps ?_ ?_ signal begin
  -- only a new attempt makes a request
  · rintro ⟨t, w⟩ s' hgo hw
    cases t with
    | ready made =>
      obtain rfl := Option.some.inj hgo
      exact send _ hw
    | asked made since reply =>
      simp only [post?] at hgo
      split at hgo
      · split at hgo
        · obtain rfl := Option.some.inj hgo
          exact hw
        · obtain rfl := Option.some.inj hgo
          exact hw
      · cases hgo
    | paused made wake =>
      simp only [post?] at hgo
      split at hgo
      · obtain rfl := Option.some.inj hgo
        exact hw
      · cases hgo
    | succeeded made r => cases hgo
    | cancelled => cases hgo
  · rintro ⟨t, w⟩ s' hquit hw
    simp only [quitPost?] at hquit
    split at hquit
    · obtain rfl := Option.some.inj hquit
      exact hw
    · cases hquit

end Worker

/-! ### Brokers in memory -/

namespace Memory

/-- What is done with a broker in memory. -/
inductive Errand where
  /-- A log is published, with settings, a random number and an order of its details; the signal to
  give up may come some time after the call. -/
  | publish (s : Settings) (draw : Nat) (l : Log) (order : Detail.Order) (signal : Option Nat)
  /-- The next requests are to fail. -/
  | failNext (n : Nat)

/-- Runs an errand. -/
def Errand.run (transport : String) (w : Worker Site) : Errand → Worker Site
  | publish s draw l order signal =>
    (w.publish (connectorAs transport) s.interval.toNat l (.ofLog s draw l order) signal).2
  | failNext n => { w with broker := { w.broker with broker := w.broker.broker.failNext n } }

/-- Runs errands one after the other. -/
def runErrands (transport : String) (es : List Errand) (w : Worker Site) : Worker Site :=
  es.foldl (Errand.run transport) w

/-- A message was made of a log that was to be published. -/
def Ordered (es : List Errand) (m : Message) : Prop :=
  ∃ s draw l order signal, .publish s draw l order signal ∈ es ∧ m = .ofLog s draw l order

theorem mem_stored_send {m m' : Message} {b : Broker} (h : m' ∈ (b.send m).2.stored) :
    m' = m ∨ m' ∈ b.stored := by
  unfold Broker.send at h
  split at h
  · exact Or.inr h
  · exact List.mem_cons.mp h

/-- Everything that is stored was to be published. -/
theorem ordered_run {transport : String} {es : List Errand} (errands : List Errand)
    (all : ∀ e ∈ errands, e ∈ es) {w : Worker Site}
    (begin : ∀ m ∈ w.broker.broker.stored, Ordered es m) :
    ∀ m ∈ (runErrands transport errands w).broker.broker.stored, Ordered es m := by
  induction errands generalizing w with
  | nil => exact begin
  | cons e rest ih =>
    rw [runErrands, List.foldl_cons]
    refine ih (fun e' he' => all e' (List.mem_cons_of_mem _ he')) ?_
    cases e with
    | failNext n => exact begin
    | publish s draw l order signal =>
      have mem := all _ List.mem_cons_self
      refine Worker.publish_keeps (Q := fun site : Site => ∀ m ∈ site.broker.stored, Ordered es m)
        ?_ _ l signal begin
      intro site hsite m hm
      rcases mem_stored_send hm with rfl | hold
      · exact ⟨s, draw, l, order, signal, mem, rfl⟩
      · exact hsite m hold

/-- **Every stored message holds a log.** -/
structure Legible (es : List Errand) (b : Broker) : Prop where
  /-- The logs are those of the messages, one for each and in their order. -/
  logs : b.messages.map Message.log? = b.logs.map some
  /-- Each is a log that was to be published, but for its outcome. -/
  ordered : ∀ m ∈ b.messages, ∃ s draw l order signal, .publish s draw l order signal ∈ es ∧
    m = .ofLog s draw l order ∧ m.log? = some { l with status := none }

theorem map_eq_filterMap {α β : Type} {f : α → Option β} {xs : List α}
    (all : ∀ x ∈ xs, (f x).isSome = true) : xs.map f = (xs.filterMap f).map some := by
  induction xs with
  | nil => rfl
  | cons x xs ih =>
    obtain ⟨y, hy⟩ := Option.isSome_iff_exists.mp (all x List.mem_cons_self)
    rw [List.map_cons, List.filterMap_cons_some hy, List.map_cons, hy,
      ih fun x' hx' => all x' (List.mem_cons_of_mem _ hx')]

theorem legible {es : List Errand} {b : Broker} (ordered : ∀ m ∈ b.stored, Ordered es m) :
    Legible es b := by
  have each : ∀ m ∈ b.messages, ∃ s draw l order signal, .publish s draw l order signal ∈ es ∧
      m = .ofLog s draw l order ∧ m.log? = some { l with status := none } := by
    intro m hm
    obtain ⟨s, draw, l, order, signal, mem, rfl⟩ := ordered m (List.mem_reverse.mp hm)
    exact ⟨s, draw, l, order, signal, mem, rfl, Message.log?_ofLog s draw l order⟩
  refine ⟨map_eq_filterMap fun m hm => ?_, each⟩
  obtain ⟨s, draw, l, order, signal, -, -, hlog⟩ := each m hm
  rw [hlog]
  rfl

end Memory

/-! ### There and back -/

/-- **A log goes there and back.** -/
structure RoundTrip (l : Log) : Prop where
  /-- Each of its texts is read, and gives the log but for its outcome. -/
  parsed : ∀ order, Log.parse (Mark.ofString (l.write order)) = .ok { l with status := none }
  /-- There is a message of it under all settings. The log is read from this message, too, and the
  id in the payload is that of the message. -/
  message : ∀ s draw order, ∃ m sent, Message.ofLog? s draw l order = .ok m ∧
    m.log? = some sent ∧ sent = { l with status := none } ∧ sent.id = m.id
  /-- No other log has one of its payloads, except for the outcome. -/
  toldApart : ∀ s draw order s' draw' l' order',
    (Message.ofLog s draw l order).payload = (Message.ofLog s' draw' l' order').payload →
      { l with status := none } = { l' with status := none }

/-- **Logs go there and back**, and a broker in memory that was empty shows a log for each message
that it has stored. -/
theorem Log.round_trip (l : Log) (transport : String) (dialer : Memory.Dialer)
    (w : Worker Memory.Site) (es : List Memory.Errand) :
    RoundTrip l ∧ Memory.Legible es
      (Memory.runErrands transport es { w with broker := ⟨dialer, .empty⟩ }).broker.broker where
  left := {
    parsed := fun order => l.parse_write order
    message := fun s draw order =>
      ⟨_, _, Message.ofLog?_eq s draw l order, Message.log?_ofLog s draw l order, rfl, rfl⟩
    toldApart := fun _ _ _ _ _ _ _ => Message.eq_of_payload_eq }
  right := by
    refine Memory.legible (Memory.ordered_run es (fun _ he => he) ?_)
    exact fun m hm => absurd hm List.not_mem_nil

/-- A log, and another one that is refused once, are published. -/
example : (Memory.runErrands "memory"
    [.publish .default 0 default .ascending none, .failNext 1,
      .publish .default 0 default .ascending none]
    (.new .new .disconnected)).broker.broker.size = 2 := by
  rfl

end AuditRelay
