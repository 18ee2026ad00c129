import AuditRelay.Proofs.Patience

/-!
# Draining

When nobody is left but those who wait, and the broker answers, the dispatcher comes to its end. The
proof is a count of the moves that are left (`Dispatcher.cost`). Every move that leads on lowers it
(`Onward`), whoever makes it: the dispatcher, a producer that has gone away and comes back to its
place, or the clock. A call that fails lowers it no less than a call that succeeds, because it uses
up one of the failures that the broker has in store.

* `Connector.Steady` says what is asked of a broker: it answers every request after some time, and
  it fails a bounded number of times.
* `Finishing.ends` is the result for all producers that are patient: whatever leads on is done, and
  in whatever order, the end comes (`Inevitable`).
* `Finishing.drained` is about the clock, which leads to the end without any help if everyone stays
  who still waits (`Unaided`). `Clockwork.reaches` is the argument about clocks for it: a count that
  falls with every move and every pause reaches zero.
-/

namespace AuditRelay

open History

/-! ### Clocks that stop -/

namespace Clockwork

variable {σ : Type} {c : Clockwork σ} {good final : σ → Prop} {count : σ → Nat}

/-- **A clock that stops.** If every move and every pause keeps what is good and lowers the count,
and nothing can be done in the end, then the clock gets there. -/
theorem reaches
    (acts : ∀ s s', good s → c.act? s = some s' → good s' ∧ count s' < count s)
    (waits : ∀ s, good s → c.act? s = none → ¬ final s →
      ∃ t, c.due? s = some t ∧ good (c.wait t s) ∧ count (c.wait t s) < count s)
    (rests : ∀ s, good s → final s → c.act? s = none ∧ c.due? s = none)
    (fuel : Nat) {s : σ} (start : good s) (enough : count s ≤ fuel) :
    good (c.runUntil none fuel s) ∧ final (c.runUntil none fuel s) := by
  induction fuel generalizing s with
  -- nothing is left to be counted, and so nothing is left to be done
  | zero =>
    refine ⟨start, ?_⟩
    by_contra hfinal
    cases hact : c.act? s with
    | some s' =>
      have hlt := (acts s s' start hact).2
      omega
    | none =>
      obtain ⟨t, -, -, hlt⟩ := waits s start hact hfinal
      omega
  | succ fuel ih =>
    cases hact : c.act? s with
    | some s' =>
      obtain ⟨hgood, hlt⟩ := acts s s' start hact
      have hstep : c.runUntil none (fuel + 1) s = c.runUntil none fuel s' := by
        simp only [runUntil, hact]
      rw [hstep]
      exact ih hgood (by omega)
    | none =>
      -- nothing can be done at once: either all is done, or some time has to pass
      by_cases hfinal : final s
      · have hstep : c.runUntil none (fuel + 1) s = s := by
          simp only [runUntil, hact, (rests s start hfinal).2]
        rw [hstep]
        exact ⟨start, hfinal⟩
      · obtain ⟨t, hdue, hgood, hlt⟩ := waits s start hact hfinal
        have hstep : c.runUntil none (fuel + 1) s = c.runUntil none fuel (c.wait t s) := by
          simp only [runUntil, hact, hdue]
        rw [hstep]
        exact ih hgood (by omega)

end Clockwork

/-! ### Brokers that answer -/

/-- **A request that is answered** after some time. A failure uses up one of those that the broker
has in store. -/
structure Connector.Answers {α β : Type} (c : Connector β) (b : β) (reply : Reply α) (b' : β) :
    Prop where
  arrives : reply.delay.isSome = true
  failures_le : c.failures b' ≤ c.failures b
  failures_lt : ∀ e, reply.answer = .error e → c.failures b' < c.failures b

/-- **A broker that can be relied on.** It answers every request to connect until one succeeds, and
from then on every request to send; `S` tells its states before and after. -/
structure Connector.Steady {β : Type} (c : Connector β) (S : (connected : Bool) → β → Prop) :
    Prop where
  connect : ∀ b, S false b → c.Answers b (c.connect b).1 (c.connect b).2
  connected : ∀ b, S false b → S (c.connect b).1.answer.isOk (c.connect b).2
  send : ∀ m b, S true b → c.Answers b (c.send m b).1 (c.send m b).2
  sent : ∀ m b, S true b → S true (c.send m b).2

namespace Scripted

/-- Whether an answer comes at all. -/
def Outcome.arrives : Outcome → Bool
  | silence => false
  | _ => true

/-- Whether a success comes, after some failures at most. -/
def succeeds : List Outcome → Bool
  | [] => true
  | .success .. :: _ => true
  | .failure .. :: rest => succeeds rest
  | .silence :: _ => false

/-- **No answer is missing**: connecting succeeds in the end, and every request to send is
answered. -/
def Broker.Arrives (connected : Bool) (b : Broker) : Prop :=
  (connected = false → succeeds b.connects = true) ∧ ∀ o ∈ b.sends, o.arrives = true

/-- A request uses up one answer. -/
theorem next_rest (number : Nat) (outcomes : List Outcome) :
    (next number outcomes).2 = outcomes.drop 1 := by
  cases outcomes with
  | nil => rfl
  | cons o rest => rfl

/-- What a request leaves of the answers that are laid down. -/
theorem next_spec (number : Nat) (outcomes : List Outcome)
    (arrives : ∀ o ∈ outcomes.head?, o.arrives = true) :
    (next number outcomes).1.delay.isSome = true ∧
      (next number outcomes).2.countP (·.fails) ≤ outcomes.countP (·.fails) ∧
      ∀ e, (next number outcomes).1.answer = .error e →
        (next number outcomes).2.countP (·.fails) < outcomes.countP (·.fails) := by
  cases outcomes with
  | nil => exact ⟨rfl, Nat.le_refl _, fun e he => absurd he (by simp [next, Reply.now])⟩
  | cons o rest =>
    refine ⟨?_, ?_, fun e he => ?_⟩
    · -- an answer that is laid down arrives, unless it is silence
      cases o with
      | silence => exact absurd (arrives _ rfl) (by simp [Outcome.arrives])
      | _ => rfl
    · rw [List.countP_cons]
      exact Nat.le_add_right ..
    · cases o with
      | failure delay reason => simp [next, Outcome.fails]
      | _ => exact absurd he (by simp [next, Outcome.reply])

/-- The first answer arrives if a success comes. -/
theorem arrives_head_of_succeeds {outcomes : List Outcome} (h : succeeds outcomes = true) :
    ∀ o ∈ outcomes.head?, o.arrives = true := by
  intro o ho
  cases outcomes with
  | nil => exact absurd ho (by simp)
  | cons o' rest =>
    obtain rfl : o' = o := Option.some.inj ho
    cases o' with
    | silence => exact absurd h (by simp [succeeds])
    | _ => rfl

/-- After a failure the success is still to come. -/
theorem succeeds_next (number : Nat) {outcomes : List Outcome} (h : succeeds outcomes = true)
    (refused : (next number outcomes).1.answer.isOk = false) :
    succeeds (next number outcomes).2 = true := by
  cases outcomes with
  | nil => exact absurd refused (by simp [next, Reply.now, Except.isOk, Except.toBool])
  | cons o rest =>
    cases o with
    | failure delay reason => exact h
    | _ => exact absurd refused (by simp [next, Outcome.reply, Except.isOk, Except.toBool])

/-- **Brokers with given answers can be relied on** if no answer is missing. -/
theorem steady (transport client : String) :
    (connector transport client).Steady Broker.Arrives where
  connect b hb := by
    obtain ⟨harrives, hle, hlt⟩ :=
      next_spec (b.connected + 1) b.connects (arrives_head_of_succeeds (hb.1 rfl))
    refine ⟨harrives, Nat.add_le_add_right hle _, fun e he => Nat.add_lt_add_right (hlt e ?_) _⟩
    change (next (b.connected + 1) b.connects).1.answer.map _ = _ at he
    cases ha : (next (b.connected + 1) b.connects).1.answer with
    | ok n =>
      rw [ha] at he
      exact absurd he (by simp [Except.map])
    | error e' =>
      rw [ha] at he
      exact congrArg Except.error (Except.error.inj he)
  connected b hb := by
    refine ⟨fun refused => succeeds_next (b.connected + 1) (hb.1 rfl) ?_, hb.2⟩
    change ((next (b.connected + 1) b.connects).1.answer.map _).isOk = false at refused
    cases ha : (next (b.connected + 1) b.connects).1.answer with
    | ok n =>
      rw [ha] at refused
      exact absurd refused (by simp [Except.map, Except.isOk, Except.toBool])
    | error e => rfl
  send m b hb := by
    obtain ⟨harrives, hle, hlt⟩ := next_spec (b.sent + 1) b.sends
      fun o ho => hb.2 o (List.mem_of_mem_head? ho)
    exact ⟨harrives, Nat.add_le_add_left hle _, fun e he => Nat.add_lt_add_left (hlt e he) _⟩
  sent m b hb := by
    refine ⟨fun none => absurd none (by simp), fun o ho => hb.2 o ?_⟩
    change o ∈ (next (b.sent + 1) b.sends).2 at ho
    rw [next_rest] at ho
    exact List.mem_of_mem_drop ho

end Scripted

/-! ### Counting the moves that are left -/

namespace Trial

variable {α : Type}

/-- Whether a trial goes on, and the answer that it waits for is on the way. -/
def Awaited : Trial α → Prop
  | ready _ => True
  | asked _ _ reply => reply.delay.isSome = true
  | paused .. => True
  | _ => False

/-- Whether the answer that a trial waits for is a success. -/
def granted : Trial α → Bool
  | asked _ _ reply => reply.answer.isOk
  | _ => false

/-- The moves and pauses until the trial has succeeded or is ready again, the ones after a failure
included. -/
def cost (now : Nat) : Trial α → Nat
  | ready _ => 4
  | asked _ since reply =>
    (match reply.answer with
      | .ok _ => 2
      | .error _ => 7) + if reply.hasArrived since now then 0 else 1
  | paused _ wake => 5 + if wake ≤ now then 0 else 1
  | _ => 0

theorem cost_le (now : Nat) (t : Trial α) : t.cost now ≤ 8 := by
  cases t with
  | asked made since reply =>
    cases hr : reply.answer with
    | ok n =>
      simp only [cost, hr]
      split <;> omega
    | error e =>
      simp only [cost, hr]
      split <;> omega
  | paused made wake =>
    simp only [cost]
    split <;> omega
  | _ => simp [cost]

/-- A failure that is on the way costs one from the store, which makes up for what it costs. -/
theorem cost_asked_lt {β : Type} {c : Connector β} {b b' : β} {reply : Reply α}
    (ha : c.Answers b reply b') (made since now : Nat) :
    (asked made since reply).cost now + 5 * c.failures b' < 4 + 5 * c.failures b := by
  have hle := ha.failures_le
  simp only [cost]
  -- a success costs less than the call, and a failure is paid from the store
  cases hr : reply.answer with
  | ok n =>
    simp only
    split <;> omega
  | error e =>
    have hlt := ha.failures_lt e hr
    simp only
    split <;> omega

/-- Nothing is missing when a reply has arrived. -/
theorem cost_arrived (made : Nat) {since now : Nat} {reply : Reply α}
    (arrived : reply.hasArrived since now = true) :
    (asked made since reply).cost now = match reply.answer with
      | .ok _ => 2
      | .error _ => 7 := by
  rw [cost, if_pos arrived]
  rfl

/-- Whether a trial has to wait. -/
def Blocked (now : Nat) : Trial α → Prop
  | asked _ since reply => reply.hasArrived since now = false
  | paused _ wake => ¬ wake ≤ now
  | _ => False

/-- Whatever a blocked trial waits for comes at some moment. -/
theorem exists_due {t : Trial α} {now : Nat} (awaited : t.Awaited) (blocked : t.Blocked now) :
    ∃ moment, t.due? = some moment ∧ now < moment := by
  cases t with
  | asked made since reply =>
    obtain ⟨delay, hdelay⟩ := Option.isSome_iff_exists.mp awaited
    refine ⟨since + delay, ?_, ?_⟩
    · rw [due?, Reply.arrival, hdelay]
      rfl
    · have hnow : reply.hasArrived since now = false := blocked
      rw [Reply.hasArrived, hdelay] at hnow
      exact Nat.lt_of_not_le (of_decide_eq_false hnow)
  | paused made wake => exact ⟨wake, rfl, Nat.lt_of_not_le blocked⟩
  | _ => exact absurd blocked id

/-- A pause that is long enough brings the end nearer. -/
theorem cost_lt_of_due {t : Trial α} {now moment later : Nat} (due : t.due? = some moment)
    (early : now < moment) (enough : moment ≤ later) : t.cost (max now later) < t.cost now := by
  have hlater : moment ≤ max now later := Nat.le_trans enough (Nat.le_max_right ..)
  cases t with
  | asked made since reply =>
    obtain ⟨delay, hdelay, rfl⟩ := Option.map_eq_some_iff.mp due
    -- at the moment of arrival the answer has arrived, and not before
    have hthen : reply.hasArrived since (max now later) = true := by
      rw [Reply.hasArrived, hdelay]
      exact decide_eq_true hlater
    have hnow : reply.hasArrived since now = false := by
      rw [Reply.hasArrived, hdelay]
      exact decide_eq_false (Nat.not_le.mpr early)
    simp only [cost, hthen, hnow, if_true, Bool.false_eq_true, if_false]
    omega
  | paused made wake =>
    obtain rfl : wake = moment := Option.some.inj due
    simp only [cost, if_neg (Nat.not_le.mpr early), if_pos hlater]
    omega
  | _ => exact absurd due (by simp [due?])

end Trial

/-- The moves and pauses until the stage is over. -/
def Stage.cost (now : Nat) : Stage → Nat
  | .connecting t => t.cost now
  | .idle => 1
  | .publishing _ _ t => t.cost now
  | _ => 0

/-- What is left to do for the logs that are not taken yet: each of them is published, and before
that whoever has gone away comes back. -/
def Queue.toll (q : Queue Log) : Nat :=
  6 * (q.items.length + q.kept.length + q.waiting.length)
    + (q.kept.length + q.waiting.countP (·.item.isNone))

/-- Giving away a place leaves everything still to be done. -/
@[simp] theorem Queue.toll_refill (q : Queue Log) : q.refill.2.toll = q.toll := by
  unfold Queue.refill
  split
  · rfl
  · next t l rest hw =>
    simp only [toll, hw, List.countP_cons, List.length_append, List.length_cons, List.length_nil,
      Option.isNone_some, Bool.false_eq_true, if_false]
    omega
  · next t rest hw =>
    simp only [toll, hw, List.countP_cons, List.length_append, List.length_cons, List.length_nil,
      Option.isNone_none, if_true]
    omega

@[simp] theorem Queue.toll_close (q : Queue Log) : q.close.2.toll = 0 := rfl

namespace Dispatcher

variable {β : Type} {a : Assignment β} {S : (connected : Bool) → β → Prop} {C : Nat}
  {ids : IdStream} {h seen : List Sight} {d d' : Dispatcher β}

/-- **What a dispatcher can count on**: the broker answers, and what is tried goes on. -/
def Steadfast (S : (connected : Bool) → β → Prop) (d : Dispatcher β) : Prop :=
  match d.stage with
  | .dormant => S false d.worker.broker
  | .connecting t => t.Awaited ∧ S t.granted d.worker.broker
  | .idle => S true d.worker.broker
  | .publishing _ _ t => t.Awaited ∧ S true d.worker.broker
  | .stopped _ => True

theorem Steadfast.same (hf : Steadfast S d) (broker : d'.worker.broker = d.worker.broker)
    (stage : d'.stage = d.stage) : Steadfast S d' := by
  rw [Steadfast, stage, broker]
  exact hf

theorem Steadfast.idle (hf : Steadfast S d) (stage : d.stage = .idle) : S true d.worker.broker := by
  rw [Steadfast, stage] at hf
  exact hf

theorem Steadfast.connecting (hf : Steadfast S d) {t : Trial Unit}
    (stage : d.stage = .connecting t) : t.Awaited ∧ S t.granted d.worker.broker := by
  rw [Steadfast, stage] at hf
  exact hf

theorem Steadfast.publishing (hf : Steadfast S d) {l : Log} {m : Message} {t : Trial Nat}
    (stage : d.stage = .publishing l m t) : t.Awaited ∧ S true d.worker.broker := by
  rw [Steadfast, stage] at hf
  exact hf

theorem Steadfast.turn (steady : a.connector.Steady S) (hf : Steadfast S d)
    (turn : Turn a d seen d') : Steadfast S d' := by
  cases turn with
  | @connecting t t' w stage dial goesOn =>
    obtain ⟨-, hbroker⟩ := hf.connecting stage
    cases dial_of_dial? dial with
    | quit cancelled => exact absurd goesOn (by simp [Trial.isOver])
    | asked uncancelled => exact ⟨(steady.connect _ hbroker).arrives, steady.connected _ hbroker⟩
    | succeeded arrived answer => exact absurd goesOn (by simp [Trial.isOver])
    -- a failure leaves the broker unconnected
    | failed arrived answer =>
      rw [Trial.granted, answer] at hbroker
      exact ⟨trivial, hbroker⟩
    | woke due => exact ⟨trivial, hbroker⟩
  | connected stage dial =>
    obtain ⟨-, hbroker⟩ := hf.connecting stage
    cases dial_of_dial? dial with
    | succeeded arrived answer =>
      rw [Trial.granted, answer] at hbroker
      exact hbroker
  | took stage items => exact ⟨trivial, hf.idle stage⟩
  | @sent l m made stage =>
    obtain ⟨-, hbroker⟩ := hf.publishing stage
    exact ⟨(steady.send m _ hbroker).arrives, steady.sent m _ hbroker⟩
  | acknowledged stage arrived answer => exact (hf.publishing stage).2
  | refused stage arrived answer => exact ⟨trivial, (hf.publishing stage).2⟩
  | woke stage due => exact ⟨trivial, (hf.publishing stage).2⟩

theorem Steadfast.step (steady : a.connector.Steady S) (hf : Steadfast S d)
    (step : Step a h d seen d') : Steadfast S d' := by
  cases step with
  | start stage isOpen =>
    rw [Steadfast, stage] at hf
    exact ⟨trivial, hf⟩
  | turn turn => exact hf.turn steady turn
  | ending silent ending =>
    -- nothing is asked of the broker in the last stage
    cases ending with
    | unconnected stage cancelled link => exact trivial
    | exhausted stage left drained => exact trivial
    | resigned stage cancelled => exact trivial
  | _ => exact hf.same rfl rfl

theorem Run.steadfast {broker : β} {q : Queue Log} (steady : a.connector.Steady S)
    (start : S false broker) (run : Run a (.new broker q ids) h d) : Steadfast S d := by
  refine run.keeps (P := fun _ d => Steadfast S d) ?_ fun hf step => hf.step steady step
  exact start

/-- **The moves and pauses that are left.** -/
def cost (a : Assignment β) (d : Dispatcher β) : Nat :=
  d.stage.cost d.worker.now + 5 * a.connector.failures d.worker.broker + d.queue.toll

/-- The moves and pauses until the dispatcher is ready for the next log. -/
def effort (a : Assignment β) (d : Dispatcher β) : Nat :=
  d.stage.cost d.worker.now + 5 * a.connector.failures d.worker.broker

/-- **Every turn brings the next log nearer**, or takes it. -/
theorem Turn.effort_lt (steady : a.connector.Steady S) (hf : Steadfast S d)
    (turn : Turn a d seen d') :
    d'.queue = d.queue ∧ d'.taken = d.taken ∧ d'.effort a < d.effort a ∨
      ∃ raw rest, d.stage = .idle ∧ d.queue.items = raw :: rest ∧
        d'.queue = ({ d.queue with items := rest } : Queue Log).refill.2 ∧
        d'.taken = d.taken + 1 ∧ d'.effort a = d.effort a + 3 := by
  cases turn with
  | @connecting t t' w stage dial goesOn =>
    refine Or.inl ⟨rfl, rfl, ?_⟩
    cases dial_of_dial? dial with
    | quit cancelled => exact absurd goesOn (by simp [Trial.isOver])
    | @asked made uncancelled =>
      obtain ⟨-, hbroker⟩ := hf.connecting stage
      have hlt := Trial.cost_asked_lt (steady.connect _ hbroker) (made + 1) d.worker.now
        d.worker.now
      simp only [effort, stage, Stage.cost, Trial.cost] at hlt ⊢
      omega
    | succeeded arrived answer => exact absurd goesOn (by simp [Trial.isOver])
    | @failed made since reply e arrived answer =>
      have hcost := Trial.cost_arrived made arrived
      rw [answer] at hcost
      simp only [effort, stage, Stage.cost, Worker.tell, Worker.tellAll, hcost]
      simp only [Trial.cost]
      split <;> omega
    | woke due =>
      simp only [effort, stage, Stage.cost, Trial.cost]
      omega
  | @connected t made w stage dial =>
    refine Or.inl ⟨rfl, rfl, ?_⟩
    cases dial_of_dial? dial with
    | succeeded arrived answer =>
      have hcost := Trial.cost_arrived made arrived
      rw [answer] at hcost
      simp only [effort, stage, Stage.cost, tell, Worker.tell, Worker.tellAll, hcost]
      omega
  | @took raw rest stage items =>
    refine Or.inr ⟨raw, rest, stage, items, rfl, rfl, ?_⟩
    simp only [effort, stage, Stage.cost, tell, resolve, Worker.tell, Trial.start, Trial.cost]
    omega
  | @sent l m made stage =>
    refine Or.inl ⟨rfl, rfl, ?_⟩
    obtain ⟨-, hbroker⟩ := hf.publishing stage
    have hlt := Trial.cost_asked_lt (steady.send m _ hbroker) (made + 1) d.worker.now
      d.worker.now
    simp only [effort, stage, Stage.cost, Trial.cost] at hlt ⊢
    omega
  | @acknowledged l m made since sequence reply stage arrived answer =>
    refine Or.inl ⟨rfl, rfl, ?_⟩
    have hcost := Trial.cost_arrived made arrived
    rw [answer] at hcost
    simp only [effort, stage, Stage.cost, tell, Worker.tell, Worker.tellAll, hcost]
    omega
  | @refused l m made since reply e stage arrived answer =>
    refine Or.inl ⟨rfl, rfl, ?_⟩
    have hcost := Trial.cost_arrived made arrived
    rw [answer] at hcost
    simp only [effort, stage, Stage.cost, Worker.tell, Worker.tellAll, hcost]
    simp only [Trial.cost]
    split <;> omega
  -- a call that is due costs less than the pause before it
  | woke stage due =>
    refine Or.inl ⟨rfl, rfl, ?_⟩
    simp only [effort, stage, Stage.cost, Trial.cost]
    omega

/-- **Every turn brings the end nearer.** -/
theorem Turn.cost_lt (steady : a.connector.Steady S) (hf : Steadfast S d)
    (turn : Turn a d seen d') : d'.cost a < d.cost a := by
  have hcost (e : Dispatcher β) : e.cost a = e.effort a + e.queue.toll := rfl
  rw [hcost, hcost]
  rcases turn.effort_lt steady hf with ⟨queue, -, hlt⟩ | ⟨raw, rest, -, items, queue, -, heq⟩
  · rw [queue]
    omega
  -- one log less is left to be taken, which pays for publishing it
  · have htoll : d.queue.toll = ({ d.queue with items := rest } : Queue Log).toll + 6 := by
      simp only [Queue.toll, items, List.length_cons]
      omega
    rw [queue, Queue.toll_refill]
    omega

/-- Without the signal to give up, connecting is blocked only by an answer or a pause. -/
theorem blocked_of_dial? {c : Connector β} {i : Nat} {t : Trial Unit} {w : Worker β}
    (awaited : t.Awaited) (none : Worker.dial? c i (t, w) = none) :
    t.Blocked w.now := by
  cases t with
  | ready made =>
    simp only [Worker.dial?] at none
    split at none <;> simp at none
  | asked made since reply =>
    simp only [Worker.dial?] at none
    split at none
    · split at none <;> simp at none
    · next harrived => exact Bool.eq_false_iff.mpr harrived
  | paused made wake =>
    simp only [Worker.dial?] at none
    split at none
    · simp at none
    · next hwake => exact hwake
  | succeeded made r => exact awaited
  | cancelled => exact awaited

/-- And so is publishing. -/
theorem blocked_of_post? {c : Connector β} {i : Nat} {m : Message} {t : Trial Nat} {w : Worker β}
    (awaited : t.Awaited) (none : Worker.post? c i m (t, w) = none) :
    t.Blocked w.now := by
  cases t with
  | ready made => simp [Worker.post?] at none
  | asked made since reply =>
    simp only [Worker.post?] at none
    split at none
    · split at none <;> simp at none
    · next harrived => exact Bool.eq_false_iff.mpr harrived
  | paused made wake =>
    simp only [Worker.post?] at none
    split at none
    · simp at none
    · next hwake => exact hwake
  | succeeded made r => exact awaited
  | cancelled => exact awaited

/-- A dispatcher that has something in hand and cannot go on at once waits for a moment that
comes. -/
theorem Steadfast.exists_due (hf : Steadfast S d) (blocked : d.proceed? a = none)
    (running : d.Running) (busy : d.stage ≠ .idle) :
    ∃ moment, d.due? = some moment ∧ d.worker.now < moment := by
  -- it waits for an answer or for the end of a pause
  cases hstage : d.stage with
  | dormant => exact absurd hstage running.1
  | idle => exact absurd hstage busy
  | stopped time => exact absurd hstage (running.2 time)
  | connecting t =>
    rw [proceed?, hstage] at blocked
    have hawaited := (hf.connecting hstage).1
    rw [Dispatcher.due?, hstage]
    exact Trial.exists_due hawaited
      (blocked_of_dial? hawaited (Option.map_eq_none_iff.mp blocked))
  | publishing l m t =>
    rw [proceed?, hstage] at blocked
    have hawaited := (hf.publishing hstage).1
    rw [Dispatcher.due?, hstage]
    exact Trial.exists_due hawaited
      (blocked_of_post? hawaited (Option.map_eq_none_iff.mp blocked))

/-- Letting enough time pass changes nothing but that what was waited for is due. -/
theorem effort_waitUntil_lt {moment later : Nat} (due : d.due? = some moment)
    (early : d.worker.now < moment) (enough : moment ≤ later) :
    (d.waitUntil later).effort a < d.effort a := by
  refine Nat.add_lt_add_right (m := d.stage.cost d.worker.now) ?_ _
  change d.stage.cost (max d.worker.now later) < _
  rw [due?] at due
  cases hstage : d.stage with
  | connecting t =>
    rw [hstage] at due
    exact Trial.cost_lt_of_due due early enough
  | publishing l m t =>
    rw [hstage] at due
    exact Trial.cost_lt_of_due due early enough
  | _ =>
    rw [hstage] at due
    cases due

/-! ### What leads on -/

/-- A dispatcher that was not told to give up notices nothing. -/
theorem quit?_eq_none (uncancelled : d.worker.cancelled = false) : d.quit? a = none := by
  rw [quit?]
  cases d.stage with
  | connecting t => cases t <;> simp [Worker.quitDial?, uncancelled]
  | publishing l m t => simp [Worker.quitPost?, uncancelled]
  | idle => simp [uncancelled]
  | _ => rfl

/-- It makes a turn, or it ends because everything is done. -/
theorem turn_or_exhausted_of_proceed? (uncancelled : d.worker.cancelled = false)
    (proceeds : d.proceed? a = some d') :
    Turn a d d.working d' ∨
      d.working = [] ∧ d.stage = .idle ∧ d.queue.drained = true ∧
        d' = (d.tell exhausted).finish := by
  rcases turn_or_ending_of_proceed? proceeds with turn | ⟨silent, ending⟩
  · exact Or.inl turn
  -- without the signal there is only one way to end
  · cases ending with
    | unconnected stage cancelled link => exact absurd (uncancelled.symm.trans cancelled) (by simp)
    | exhausted stage left drained => exact Or.inr ⟨silent, stage, drained, rfl⟩
    | resigned stage cancelled => exact absurd (uncancelled.symm.trans cancelled) (by simp)

/-- What the dispatcher does is not what producers do. -/
theorem own_of_proceed (made : d.step? a .proceed = some (seen, d')) : Own seen := by
  obtain ⟨e, proceeds, hwitnessed⟩ := Option.map_eq_some_iff.mp made
  rcases turn_or_ending_of_proceed? proceeds with turn | ⟨silent, ending⟩
  · rw [witnessed_of_turn turn] at hwitnessed
    obtain ⟨rfl, rfl⟩ := Prod.mk.inj hwitnessed
    exact turn.own
  · rw [witnessed_of_ending ending, silent] at hwitnessed
    obtain ⟨rfl, rfl⟩ := Prod.mk.inj hwitnessed
    exact d.own_dismissed

/-- **What leads on**: the dispatcher does something, someone comes back to the place that is kept
for it, or time passes until what the dispatcher waits for is due. -/
inductive Onward (a : Assignment β) (h : List Sight) (d : Dispatcher β) :
    List Sight → Dispatcher β → Prop where
  | works {seen : List Sight} {d' : Dispatcher β}
      (made : d.step? a .proceed = some (seen, d')) : Onward a h d seen d'
  | cameBack {t : Nat} {l : Log} (request : (t, l) ∈ asked h) (kept : t ∈ d.queue.kept) :
      Onward a h d [.admitted t l] (d.comeBack t l)
  | waited {moment later : Nat} (due : d.due? = some moment) (early : d.worker.now < moment)
      (enough : moment ≤ later) : Onward a h d [] (d.waitUntil later)

/-- **What cannot be avoided**: after so many moves at most, whichever of those that lead on are
made, it is so. Either it is so at once, or something leads on, and whatever does brings it
nearer. -/
def Inevitable (a : Assignment β) (goal : List Sight → Dispatcher β → Prop) :
    Nat → List Sight → Dispatcher β → Prop
  | 0, h, d => goal h d
  | n + 1, h, d =>
    goal h d ∨
      (∃ seen d', Onward a h d seen d') ∧
        ∀ seen d', Onward a h d seen d' → Inevitable a goal n (h ++ seen) d'

theorem Inevitable.mono {goal goal' : List Sight → Dispatcher β → Prop}
    (weaker : ∀ h d, goal h d → goal' h d) {n : Nat} (i : Inevitable a goal n h d) :
    Inevitable a goal' n h d := by
  induction n generalizing h d with
  | zero => exact weaker h d i
  | succ n ih =>
    rcases i with now | ⟨some, every⟩
    · exact Or.inl (weaker h d now)
    · exact Or.inr ⟨some, fun seen d' onward => ih (every seen d' onward)⟩

/-- A producer that comes back to its place fills it. -/
theorem comeBack_of_kept {t : Nat} (l : Log) (kept : t ∈ d.queue.kept) :
    d.comeBack t l =
      { d with queue := { d.queue with
          items := d.queue.items ++ [l]
          kept := d.queue.kept.erase t } }.resolve [t] true := by
  simp [comeBack, Queue.comeBack, kept]

/-- What leads on is a move of a run. -/
theorem Onward.run {d₀ : Dispatcher β} (onward : Onward a h d seen d') (run : Run a d₀ h d) :
    Run a d₀ (h ++ seen) d' := by
  cases onward with
  | works made => exact run.move (m := .proceed) trivial made
  | @cameBack t l request kept =>
    refine run.move (m := .comeBack t l) request ?_
    simp [step?, Queue.comeBack, kept]
  | @waited moment later due early enough => exact run.move (m := .wait later) trivial rfl

/-- **A dispatcher on its way to the end.** It runs, nobody is left but those who wait, and they are
patient; `entries` are the logs for which a place was asked. -/
structure Finishing (a : Assignment β) (d₀ : Dispatcher β) (entries : List (Nat × Log))
    (h : List Sight) (d : Dispatcher β) : Prop where
  run : Run a d₀ h d
  asked_eq : asked h = entries
  patient : Patient h
  uncancelled : d.worker.cancelled = false
  left : d.producers = false
  started : d.stage ≠ .dormant

section Finishing

variable {broker : β} {q : Queue Log} {entries : List (Nat × Log)}

/-- **Whatever leads on brings the end nearer.** -/
theorem Finishing.onward (steady : a.connector.Steady S) (start : S false broker)
    (hf : Finishing a (.new broker q ids) entries h d) (onward : Onward a h d seen d') :
    Finishing a (.new broker q ids) entries (h ++ seen) d' ∧ d'.cost a < d.cost a := by
  have hrun := onward.run hf.run
  cases onward with
  | works made =>
    have own : Own seen := own_of_proceed made
    have hpatient := hf.patient.append own.patient
    have hasked : asked (h ++ seen) = entries := by
      rw [asked_append, own.asked_eq_nil, List.append_nil, hf.asked_eq]
    obtain ⟨e, proceeds, hwitnessed⟩ := Option.map_eq_some_iff.mp made
    -- a turn lowers the cost, and the end costs nothing
    rcases turn_or_exhausted_of_proceed? hf.uncancelled proceeds with turn | ⟨-, stage, -, rfl⟩
    · rw [witnessed_of_turn turn] at hwitnessed
      obtain ⟨rfl, rfl⟩ := Prod.mk.inj hwitnessed
      obtain ⟨hcancelled, hproducers⟩ := turn.frame
      exact ⟨⟨hrun, hasked, hpatient, hcancelled.trans hf.uncancelled, hproducers.trans hf.left,
        turn.started⟩, turn.cost_lt steady (hf.run.steadfast steady start)⟩
    · obtain ⟨-, rfl⟩ := Prod.mk.inj hwitnessed
      refine ⟨⟨hrun, hasked, hpatient, hf.uncancelled, hf.left, ?_⟩, ?_⟩
      · simp [finish, stop, closeQueue, resolve]
      · simp only [cost, stage, Stage.cost, finish, stop, closeQueue, resolve, Queue.toll_close,
          tell, Worker.tell]
        omega
  | @cameBack t l request kept =>
    rw [comeBack_of_kept l kept] at hrun ⊢
    refine ⟨⟨hrun, ?_, hf.patient.append fun s hs => ?_, hf.uncancelled, hf.left, hf.started⟩, ?_⟩
    · rw [asked_append]
      exact (List.append_nil _).trans hf.asked_eq
    · rw [List.mem_singleton.mp hs]
      rfl
    -- the log is in the queue, and nobody has to come back for it any more
    · have hkept : (d.queue.kept.erase t).length + 1 = d.queue.kept.length :=
        List.length_erase_add_one kept
      simp only [cost, resolve, Queue.toll, List.length_append, List.length_singleton]
      omega
  | @waited moment later due early enough =>
    refine ⟨⟨hrun, ?_, ?_, hf.uncancelled, hf.left, hf.started⟩, ?_⟩
    · rw [List.append_nil]
      exact hf.asked_eq
    · rw [List.append_nil]
      exact hf.patient
    · exact Nat.add_lt_add_right (effort_waitUntil_lt due early enough) _

/-- An idle dispatcher has something to do when nobody is left and no place is kept. -/
theorem proceed?_of_idle (hs : Stock C h d) (positive : 0 < C) (left : d.producers = false)
    (kept : d.queue.kept = []) (stage : d.stage = .idle) : d.proceed? a ≠ none := by
  rw [proceed?, stage]
  cases hitems : d.queue.items with
  -- a log in the queue is taken
  | cons raw rest =>
    simp only [take?, Queue.take?, hitems]
    exact Option.some_ne_none _
  | nil =>
    -- nobody waits at an empty queue
    have hwaiting : d.queue.waiting = [] := by
      by_contra hw
      have hfull := hs.sound.full hw
      rw [Queue.load, hitems, kept, hs.capacity] at hfull
      exact absurd hfull (Nat.ne_of_lt positive)
    have hdrained : d.queue.drained = true := by
      rw [Queue.drained, hitems, kept, hwaiting]
      rfl
    simp only [take?, Queue.take?, hitems, left, hdrained]
    exact Option.some_ne_none _

/-- **Something leads on** until the dispatcher has ended. -/
theorem Finishing.exists_onward (steady : a.connector.Steady S) (start : S false broker)
    (hq : Queue.new? C = some q) (hf : Finishing a (.new broker q ids) entries h d)
    (going : ∀ time, d.stage ≠ .stopped time) : ∃ seen d', Onward a h d seen d' := by
  cases hproceed : d.proceed? a with
  | some d' => exact ⟨_, _, .works (by rw [step?, hproceed]; rfl)⟩
  | none =>
    by_cases hidle : d.stage = .idle
    · -- a dispatcher that waits for logs waits for someone who has a place kept
      have hkept : d.queue.kept ≠ [] := fun none =>
        proceed?_of_idle (hf.run.stock hq) (Queue.new?_eq_some hq).2 hf.left none hidle hproceed
      obtain ⟨t, ht⟩ := List.exists_mem_of_ne_nil _ hkept
      obtain ⟨l, request⟩ := exists_asked_of_goer ((hf.run.attended hq).gone ht)
      exact ⟨_, _, .cameBack request ht⟩
    · obtain ⟨moment, due, early⟩ := (hf.run.steadfast steady start).exists_due hproceed
        ⟨hf.started, going⟩ hidle
      exact ⟨_, _, .waited due early (Nat.le_refl _)⟩

/-- **The end comes.** When nobody is left but patient producers, and the dispatcher was not told to
give up, then it ends after a bounded number of moves, whoever makes them and in whatever order, if
the broker answers. -/
theorem Finishing.ends (steady : a.connector.Steady S) (start : S false broker)
    (hq : Queue.new? C = some q) {n : Nat} (hf : Finishing a (.new broker q ids) entries h d)
    (enough : d.cost a ≤ n) :
    Inevitable a (fun h d => Finishing a (.new broker q ids) entries h d ∧
      ∃ time, d.stage = .stopped time) n h d := by
  -- by induction on the bound, which falls with the cost
  induction n generalizing h d with
  | zero =>
    refine ⟨hf, ?_⟩
    by_contra going
    obtain ⟨seen, d', onward⟩ :=
      hf.exists_onward steady start hq fun time stopped => going ⟨time, stopped⟩
    have hlt := (hf.onward steady start onward).2
    omega
  | succ n ih =>
    by_cases stopped : ∃ time, d.stage = .stopped time
    · exact Or.inl ⟨hf, stopped⟩
    · refine Or.inr ⟨hf.exists_onward steady start hq fun time hstage => stopped ⟨time, hstage⟩,
        fun seen d' onward => ?_⟩
      obtain ⟨hf', hlt⟩ := hf.onward steady start onward
      exact ih hf' (by omega)

/-! ### Left to the clock -/

/-- **Everyone who waits stays**, so that nobody has to come back. -/
structure Gathered (d : Dispatcher β) : Prop where
  kept : d.queue.kept = []
  stay : ∀ w ∈ d.queue.waiting, w.item.isSome = true

/-- Whoever stays and is given a place is in the queue at once. -/
theorem Gathered.refill {q : Queue Log} (hg : Gathered d) (kept : q.kept = d.queue.kept)
    (waiting : q.waiting = d.queue.waiting) (queue : d'.queue = q.refill.2) : Gathered d' := by
  have hkept : q.kept = [] := kept.trans hg.kept
  have hstay := waiting ▸ hg.stay
  refine ⟨?_, ?_⟩
  · rw [queue, Queue.refill]
    split
    · exact hkept
    · exact hkept
    · next t rest hw =>
      exact absurd (hstay ⟨t, none⟩ (hw ▸ List.mem_cons_self)) (by simp)
  · rw [queue, Queue.refill]
    split
    · exact hstay
    · next t l rest hw => exact fun w hmem => hstay w (hw ▸ List.mem_cons_of_mem _ hmem)
    · next t rest hw => exact fun w hmem => hstay w (hw ▸ List.mem_cons_of_mem _ hmem)

theorem Gathered.turn (hg : Gathered d) (turn : Turn a d seen d') : Gathered d' := by
  cases turn with
  | @took raw rest stage items =>
    exact hg.refill (q := { d.queue with items := rest }) rfl rfl rfl
  | _ => exact ⟨hg.kept, hg.stay⟩

/-- The dispatcher needs no more than its workload then. -/
theorem Gathered.cost_le_workload (hg : Gathered d) (a : Assignment β) :
    d.cost a ≤ d.workload a := by
  have hstage : d.stage.cost d.worker.now ≤ 8 := by
    cases d.stage with
    | connecting t => exact t.cost_le _
    | publishing l m t => exact t.cost_le _
    | _ => simp [Stage.cost]
  have nobody : d.queue.waiting.countP (·.item.isNone) = 0 :=
    List.countP_eq_zero.mpr fun w hw => by simp [Option.isSome_iff_ne_none.mp (hg.stay w hw)]
  rw [cost, workload, Queue.toll, hg.kept, nobody, List.length_nil]
  omega

/-- Works until nothing is left to do. -/
def finished (a : Assignment β) (d : Dispatcher β) : Dispatcher β :=
  (clockwork a).runUntil none (d.workload a) d

/-- **A dispatcher that is left to the clock.** Everyone stays who waits, and the dispatcher has got
to `e` from a run `h` without anybody's help. -/
structure Unaided (a : Assignment β) (d₀ : Dispatcher β) (entries : List (Nat × Log))
    (h : List Sight) (e : Dispatcher β) : Prop where
  reached : ∃ seen, Own seen ∧ Finishing a d₀ entries (h ++ seen) e
  gathered : Gathered e

/-- What the clock does is done by the dispatcher. -/
theorem Unaided.act (steady : a.connector.Steady S) (start : S false broker)
    (hu : Unaided a (.new broker q ids) entries h d) (act : (clockwork a).act? d = some d') :
    Unaided a (.new broker q ids) entries h d' ∧ d'.cost a < d.cost a := by
  obtain ⟨⟨seen, own, hf⟩, hg⟩ := hu
  have hproceeds : d.proceed? a = some d' := by
    have hact : (d.quit? a).or (d.proceed? a) = some d' := act
    rwa [quit?_eq_none hf.uncancelled, Option.none_or] at hact
  have made : d.step? a .proceed = some (d.witnessed d.working d') := by
    rw [step?, hproceeds, Option.map_some]
  obtain ⟨hf', hlt⟩ := hf.onward steady start (.works made)
  rw [List.append_assoc] at hf'
  refine ⟨⟨⟨_, own.append (own_of_proceed made), hf'⟩, ?_⟩, hlt⟩
  rcases turn_or_exhausted_of_proceed? hf.uncancelled hproceeds with turn | ⟨-, -, -, rfl⟩
  · exact hg.turn turn
  · exact ⟨rfl, fun w hw => absurd hw List.not_mem_nil⟩

/-- As long as the dispatcher has not ended, it waits for something if it has nothing to do. -/
theorem Unaided.wait (steady : a.connector.Steady S) (start : S false broker)
    (hq : Queue.new? C = some q) (hu : Unaided a (.new broker q ids) entries h d)
    (blocked : (clockwork a).act? d = none) (going : ¬∃ time, d.stage = .stopped time) :
    ∃ t, (clockwork a).due? d = some t ∧
      Unaided a (.new broker q ids) entries h ((clockwork a).wait t d) ∧
      ((clockwork a).wait t d).cost a < d.cost a := by
  obtain ⟨⟨seen, own, hf⟩, hg⟩ := hu
  have hproceed : d.proceed? a = none := (Option.or_eq_none_iff.mp blocked).2
  have hbusy : d.stage ≠ .idle := fun idle =>
    proceed?_of_idle (hf.run.stock hq) (Queue.new?_eq_some hq).2 hf.left hg.kept idle hproceed
  obtain ⟨moment, due, early⟩ := (hf.run.steadfast steady start).exists_due hproceed
    ⟨hf.started, fun time stopped => going ⟨time, stopped⟩⟩ hbusy
  obtain ⟨hf', hlt⟩ := hf.onward steady start (.waited due early (Nat.le_refl _))
  rw [List.append_nil] at hf'
  exact ⟨moment, due, ⟨⟨seen, own, hf'⟩, hg.kept, hg.stay⟩, hlt⟩

/-- A dispatcher that has ended does nothing and waits for nothing. -/
theorem still_of_stopped (a : Assignment β) {time : Nat} (stopped : d.stage = .stopped time) :
    (clockwork a).act? d = none ∧ (clockwork a).due? d = none := by
  constructor
  · change (d.quit? a).or (d.proceed? a) = none
    rw [quit?, proceed?, stopped]
    rfl
  · change d.due? = none
    rw [Dispatcher.due?, stopped]

/-- **Draining.** From any state of a run of patient producers, in which nobody is left but those
who stay, and the dispatcher was not told to give up, the clock leads to the end, if the broker
answers. Nobody brings anything on the way. -/
theorem Finishing.drained (steady : a.connector.Steady S) (start : S false broker)
    (hq : Queue.new? C = some q) (hf : Finishing a (.new broker q ids) entries h d)
    (hg : Gathered d) :
    ∃ seen time, Own seen ∧ Finishing a (.new broker q ids) entries (h ++ seen) (d.finished a) ∧
      (d.finished a).stage = .stopped time := by
  have begin : Unaided a (.new broker q ids) entries h d :=
    ⟨⟨[], .nil, by rw [List.append_nil]; exact hf⟩, hg⟩
  obtain ⟨⟨⟨seen, own, hf'⟩, -⟩, time, stopped⟩ :=
    Clockwork.reaches (fun _ _ hu => hu.act steady start) (fun _ hu => hu.wait steady start hq)
      (fun _ _ ⟨_, stopped⟩ => still_of_stopped a stopped) (d.workload a) begin
      (hg.cost_le_workload a)
  exact ⟨seen, time, own, hf', stopped⟩

end Finishing

end Dispatcher

end AuditRelay
