import AuditRelay.Nats.Server
import AuditRelay.Proofs.Timetable
import Mathlib.Algebra.Order.Floor.Div

/-!
# The requests for a message

A client that sends a message repeats its request after a refusal, but only so many times; who
publishes the message then sends it once more after a pause of its own, and so on. All requests are
for one and the same message, and the answers to them, in their order, determine everything
(`Consignment`).

* `Transit` is how far one call of the client has come. An answer that refuses the message leads
  from one request to the next (`run_asking`), and so the call ends with the first answer that takes
  the message or with the last one that is waited for (`Ends`, `run_of_ends`).
* `deliver` finds the same without going through it step by step (`deliver_of_ends`), and what a
  server does after some requests is what it would have done with the answers behind them
  (`Server.later`).
* So the calls of the client cut the answers into pieces of one length, one for each attempt to
  publish, and the attempts, the requests and the pauses can be counted (`Published`).
-/

namespace AuditRelay.Nats

/-! ### Calls on their way -/

/-- The requests that are counted before a request or a pause. -/
def Sending.made : Sending → Nat
  | asking made => made
  | resting made => made
  | _ => 0

/-- How far a call has come. -/
structure Transit where
  /-- Milliseconds since the call. -/
  now : Nat
  sending : Sending
  /-- The requests made and when; the newest first. -/
  requests : List (Nat × Message)

/-! ### What will be answered -/

/-- A message that is to be sent. -/
structure Consignment where
  config : Config
  message : Message
  /-- The answers to the requests, in their order. -/
  answers : Nat → Timed Ack

namespace Consignment

variable (K : Consignment)

/-- How many requests may follow the first one of a call. -/
def retries : Nat := K.config.retries.toNat

/-- How long the client pauses between two requests. -/
def pause : Nat := Pause.length K.config.backoff.toNat

/-- What the answer to request `n` says; requests are counted from zero. -/
def outcome (n : Nat) : Except Failure Nat :=
  ((K.answers n).answer.outcome K.message).map (·.sequence)

/-- The answer to request `n` refuses the message. -/
def Refused (n : Nat) : Prop := ∃ e, K.outcome n = .error e

/-- The first `n` answers refuse the message. -/
def Comes (n : Nat) : Prop := ∀ j < n, K.Refused j

/-- **The first acknowledgment** is the answer to request `n`. -/
def Acknowledged (n sequence : Nat) : Prop := K.Comes n ∧ K.outcome n = .ok sequence

/-- How long the first `n` answers take. -/
def spent : Nat → Nat
  | 0 => 0
  | n + 1 => spent n + (K.answers n).delay

/-- When request `n` is made, if it comes to it: after the answers before it and a pause behind each
of them. -/
def asks (n : Nat) : Nat := K.spent n + n * K.pause

/-- When the answer to request `n` arrives. -/
def hears (n : Nat) : Nat := K.asks n + (K.answers n).delay

/-- The first `n` requests and when they are made; the newest first. -/
def requests (n : Nat) : List (Nat × Message) :=
  ((List.range n).map fun j => (K.asks j, K.message)).reverse

/-- **The answer to request `n` ends a call** with that result: it takes the message, or no more
requests may be made. -/
structure Ends (n : Nat) (r : Except Failure Nat) : Prop where
  comes : K.Comes n
  within : n ≤ K.retries
  outcome : K.outcome n = r
  last : r.isOk = true ∨ n = K.retries

variable {K} {n k : Nat} {r : Except Failure Nat}

theorem Refused.answer (refused : K.Refused n) :
    ∃ e, (K.answers n).answer.outcome K.message = .error e := by
  obtain ⟨e, refusal⟩ := refused
  unfold outcome at refusal
  cases taken : (K.answers n).answer.outcome K.message with
  | ok a =>
    rw [taken] at refusal
    exact absurd refusal (by simp [Except.map])
  | error e => exact ⟨e, rfl⟩

/-- After a refusal that ends the call no more requests may be made. -/
theorem Ends.full {e : Failure} (ends : K.Ends n r) (refusal : .error e = r) : ¬n < K.retries := by
  subst refusal
  rcases ends.last with taken | full
  · exact absurd taken Bool.noConfusion
  · omega

theorem asks_succ (n : Nat) : K.asks (n + 1) = K.hears n + K.pause := by
  simp only [asks, hears, spent, Nat.succ_mul]
  omega

theorem requests_succ (n : Nat) :
    K.requests (n + 1) = (K.asks n, K.message) :: K.requests n := by
  rw [requests, requests, List.range_succ, List.map_append, List.reverse_append]
  rfl

theorem Comes.mono (comes : K.Comes k) (le : n ≤ k) : K.Comes n :=
  fun j lt => comes j (Nat.lt_of_lt_of_le lt le)

/-- An acknowledgment that comes in time ends the call. -/
theorem Acknowledged.ends {sequence : Nat} (acknowledged : K.Acknowledged n sequence)
    (within : n ≤ K.retries) : K.Ends n (.ok sequence) :=
  ⟨acknowledged.1, within, acknowledged.2, Or.inl rfl⟩

/-- If all answers that are waited for refuse the message, the last of them ends the call. -/
theorem Comes.ends (comes : K.Comes (K.retries + 1)) : ∃ e, K.Ends K.retries (.error e) := by
  obtain ⟨e, refusal⟩ := comes K.retries (Nat.lt_succ_self _)
  exact ⟨e, comes.mono (Nat.le_succ _), Nat.le_refl _, refusal, Or.inr rfl⟩

/-! ### One call of the client -/

/-- The first request is made at once. -/
def start (K : Consignment) : Transit := ⟨0, .start, [(0, K.message)]⟩

/-- What comes next: the answer that is waited for, or the end of the pause and one more request. -/
def step (K : Consignment) (s : Transit) : Transit :=
  match s.sending with
  | .asking made =>
    { s with
      now := s.now + (K.answers made).delay
      sending := s.sending.answered K.retries (K.outcome made) }
  | .resting _ =>
    { now := s.now + K.pause
      sending := s.sending.rested
      requests := (s.now + K.pause, K.message) :: s.requests }
  | _ => s

/-- A call after so many steps. -/
def run (K : Consignment) : Nat → Transit
  | 0 => K.start
  | steps + 1 => K.step (run K steps)

/-- **A call that has ended** with the answer to request `n`. -/
structure Ended (K : Consignment) (n : Nat) (r : Except Failure Nat) (s : Transit) : Prop where
  result : s.sending.result? = some r
  now : s.now = K.hears n
  requests : s.requests = K.requests (n + 1)

/-- A refusal, and the pause behind it. -/
theorem step_refused (refused : K.Refused n) (lt : n < K.retries) :
    K.step (K.step ⟨K.asks n, .asking n, K.requests (n + 1)⟩)
      = ⟨K.asks (n + 1), .asking (n + 1), K.requests (n + 2)⟩ := by
  obtain ⟨e, refusal⟩ := refused
  have heard : K.step ⟨K.asks n, .asking n, K.requests (n + 1)⟩
      = ⟨K.hears n, .resting (n + 1), K.requests (n + 1)⟩ := by
    simp only [step, refusal, Sending.answered, if_pos lt]
    rfl
  rw [heard, requests_succ (n + 1), asks_succ]
  rfl

/-- **The call comes to every request** behind refusals. -/
theorem run_asking (comes : K.Comes n) (within : n ≤ K.retries) :
    K.run (2 * n) = ⟨K.asks n, .asking n, K.requests (n + 1)⟩ := by
  -- by induction on the requests: each of those before was refused
  induction n with
  | zero => simp [run, start, Sending.start, asks, spent, requests]
  | succ n ih =>
    show K.step (K.step (K.run (2 * n))) = _
    rw [ih (comes.mono n.le_succ) (Nat.le_of_succ_le within)]
    exact step_refused (comes n n.lt_succ_self) within

/-- An answer that ends the call. -/
theorem step_ends (ends : K.Ends n r) :
    K.Ended n r (K.step ⟨K.asks n, .asking n, K.requests (n + 1)⟩) := by
  refine ⟨?_, rfl, rfl⟩
  simp only [step, ends.outcome]
  cases r with
  | ok sequence => rfl
  | error e =>
    simp only [Sending.answered, if_neg (ends.full rfl)]
    rfl

theorem step_result {s : Transit} (ended : s.sending.result?.isSome = true) : K.step s = s := by
  obtain ⟨now, sending, requests⟩ := s
  cases sending with
  | stored sequence => rfl
  | failed e => rfl
  | _ => exact absurd ended Bool.noConfusion

/-- **A call ends**, and stays so. -/
theorem run_of_ends (ends : K.Ends n r) {steps : Nat} (enough : 2 * n + 1 ≤ steps) :
    K.Ended n r (K.run steps) := by
  induction steps, enough using Nat.le_induction with
  | base =>
    show K.Ended n r (K.step (K.run (2 * n)))
    rw [run_asking ends.comes ends.within]
    exact step_ends ends
  | succ steps _ ih =>
    show K.Ended n r (K.step (K.run steps))
    rwa [step_result (by rw [ih.result]; rfl)]

/-- **The count of the requests** never exceeds the retries, so it stays in the range of the
retries. -/
theorem made_le (K : Consignment) (steps : Nat) : (K.run steps).sending.made ≤ K.retries := by
  induction steps with
  | zero => exact Nat.zero_le _
  | succ steps ih =>
    show (K.step (K.run steps)).sending.made ≤ K.retries
    generalize K.run steps = s at ih ⊢
    obtain ⟨now, sending, requests⟩ := s
    cases sending with
    | asking made =>
      -- an answer counts the request only if one more may follow
      simp only [step, Sending.answered]
      split
      · exact Nat.zero_le _
      · split
        · next lt => exact lt
        · exact Nat.zero_le _
    | _ => exact ih

/-! ### What is found at once -/

/-- **What `deliver` finds** of a call that ends with the answer to request `n`, if `made` requests
were made before. -/
structure Delivers (K : Consignment) (made n : Nat) (acks : List (Timed Ack))
    (r : Except Failure Nat) (d : Delivery) : Prop where
  answer : d.reply.answer = r
  delay : ∃ t, d.reply.delay = some t ∧ K.asks made + t = K.hears n
  requests : made + d.requests = n + 1
  left : d.left = acks.drop (n + 1)

end Consignment

/-- Answers that are laid down, and the acknowledgments behind them. -/
def laid (next : Nat → Ack) (acks : List (Timed Ack)) (n : Nat) : Timed Ack :=
  acks[n]?.getD ⟨0, .given (next n)⟩

/-- What `deliver` does with the answer to the next request. -/
theorem deliver_drop (retries backoff : Nat) (m : Message) (next : Nat → Ack) (made : Nat)
    (acks : List (Timed Ack)) : deliver retries backoff m next made (acks.drop made)
      = match (laid next acks made).answer.outcome m with
        | .ok a =>
          ⟨⟨some (laid next acks made).delay, .ok a.sequence, acknowledged m a⟩, 1,
            acks.drop (made + 1)⟩
        | .error e =>
          if made < retries then
            (deliver retries backoff m next (made + 1) (acks.drop (made + 1))).after
              ((laid next acks made).delay + Pause.length backoff) (retried m (made + 1) retries e)
          else ⟨⟨some (laid next acks made).delay, .error e, []⟩, 1, acks.drop (made + 1)⟩ := by
  rw [laid, ← List.tail_drop, ← List.head?_drop]
  -- the answers that are left begin with the next one, if it is laid down
  cases acks.drop made with
  | nil => rfl
  | cons t rest => rfl

namespace Consignment

variable {K : Consignment} {n k : Nat} {r : Except Failure Nat}

theorem deliver_of_ends {next : Nat → Ack} {acks : List (Timed Ack)} {made : Nat}
    (answers : K.answers = laid next acks) (ends : K.Ends n r) (le : made ≤ n) :
    K.Delivers made n acks r
      (deliver K.retries K.config.backoff.toNat K.message next made (acks.drop made)) := by
  -- backwards from the last request
  induction le using Nat.decreasingInduction with
  | self =>
    have outcome := ends.outcome
    rw [deliver_drop, ← answers]
    unfold Consignment.outcome at outcome
    cases taken : (K.answers n).answer.outcome K.message with
    | ok a =>
      rw [taken] at outcome
      exact ⟨outcome, ⟨_, rfl, rfl⟩, rfl, rfl⟩
    | error e =>
      rw [taken] at outcome
      simp only [if_neg (ends.full outcome)]
      exact ⟨outcome, ⟨_, rfl, rfl⟩, rfl, rfl⟩
  | of_succ made lt ih =>
    obtain ⟨e, refusal⟩ := (ends.comes made lt).answer
    have more : made < K.retries := Nat.lt_of_lt_of_le lt ends.within
    rw [deliver_drop, ← answers, refusal]
    simp only [if_pos more]
    obtain ⟨answer, ⟨t, delay, arrives⟩, requests, left⟩ := ih
    refine ⟨answer, ⟨(K.answers made).delay + K.pause + t, ?_, ?_⟩, ?_, left⟩
    · simp only [Delivery.after, delay]
      rfl
    · rw [asks_succ, hears] at arrives
      omega
    · simp only [Delivery.after]
      omega

end Consignment

/-! ### The requests to a server -/

namespace Server

/-- The answers of a server to the requests for a message. -/
def consignment (c : Config) (m : Message) (s : Server) : Consignment :=
  ⟨c, m, laid (fun n => ack (s.received.length + n)) s.acks⟩

/-- A server after `n` requests for a message. -/
def later (m : Message) (n : Nat) (s : Server) : Server :=
  { s with acks := s.acks.drop n, received := List.replicate n m ++ s.received }

/-- What is left of one call of the client whose last request is request `n`. -/
structure Sent (c : Config) (m : Message) (s : Server) (n : Nat) (r : Except Failure Nat)
    (sent : Reply Nat × Server) : Prop where
  answer : sent.1.answer = r
  delay : sent.1.delay = some ((s.consignment c m).hears n)
  server : sent.2 = s.later m (n + 1)

variable {c : Config} {m : Message} {s : Server} {n k : Nat} {r : Except Failure Nat}

theorem later_later (n k : Nat) : (s.later m n).later m k = s.later m (n + k) := by
  simp only [later, List.drop_drop, ← List.append_assoc, List.replicate_append_replicate,
    Nat.add_comm]

/-- **What comes of sending a message** once. -/
theorem send_of_ends (ends : (s.consignment c m).Ends n r) : s.Sent c m n r (s.send c m) := by
  have delivers := Consignment.deliver_of_ends rfl ends (Nat.zero_le n)
  rw [List.drop_zero] at delivers
  obtain ⟨answer, ⟨t, delay, arrives⟩, requests, left⟩ := delivers
  have first : (s.consignment c m).asks 0 = 0 := by simp [Consignment.asks, Consignment.spent]
  rw [first, Nat.zero_add] at arrives
  rw [Nat.zero_add] at requests
  refine ⟨answer, delay.trans (congrArg some arrives), ?_⟩
  rw [later, ← left, ← requests]
  rfl

end Server

/-! ### The pieces of the answers -/

namespace Consignment

variable (K : Consignment)

/-- The answers behind the first `n`. -/
def behind (n : Nat) : Consignment := { K with answers := fun j => K.answers (n + j) }

/-- How many requests `n` calls make that fail. -/
def bulk (n : Nat) : Nat := n * (K.retries + 1)

variable {K} {n k j : Nat}

theorem behind_comes (comes : K.Comes (n + k)) : (K.behind n).Comes k :=
  fun j lt => comes (n + j) (Nat.add_lt_add_left lt n)

theorem behind_acknowledged {sequence : Nat} (acknowledged : K.Acknowledged (n + k) sequence) :
    (K.behind n).Acknowledged k sequence :=
  ⟨behind_comes acknowledged.1, acknowledged.2⟩

theorem behind_spent (n k : Nat) : K.spent n + (K.behind n).spent k = K.spent (n + k) := by
  induction k with
  | zero => rfl
  | succ k ih =>
    show K.spent n + ((K.behind n).spent k + (K.answers (n + k)).delay)
      = K.spent (n + k) + (K.answers (n + k)).delay
    rw [← Nat.add_assoc, ih]

theorem bulk_succ (n : Nat) : K.bulk (n + 1) = K.bulk n + (K.retries + 1) := Nat.succ_mul ..

theorem hears_eq (n : Nat) : K.hears n = K.spent (n + 1) + n * K.pause := by
  simp only [hears, asks, spent]
  omega

end Consignment

theorem Server.later_consignment {c : Config} {m : Message} (s : Server) (n : Nat) :
    (s.later m n).consignment c m = (s.consignment c m).behind n := by
  have answers (j : Nat) : laid (fun n' => Server.ack ((s.later m n).received.length + n'))
      (s.later m n).acks j = laid (fun n => Server.ack (s.received.length + n)) s.acks (n + j) := by
    -- the messages received meanwhile are counted in the numbers behind the laid-down answers
    simp only [laid, Server.later, List.getElem?_drop, List.length_append, List.length_replicate]
    have same : n + s.received.length + j = s.received.length + (n + j) := by omega
    rw [same]
  exact congrArg (Consignment.mk c m) (funext answers)

/-! ### The attempts to publish -/

/-- A call to publish a log as a message over a client of a server. -/
structure Publication where
  config : Config
  interval : Nat
  log : Log
  message : Message
  /-- The worker at the beginning of the call. -/
  worker : Worker Server

namespace Publication

variable (P : Publication)

/-- The requests of the client, whatever attempt they belong to. -/
abbrev consignment : Consignment := P.worker.broker.consignment P.config P.message

/-- The attempts. -/
abbrev attempts : Course Server := ⟨connector P.config, P.interval, P.log, P.message, P.worker⟩

variable {P} {n k : Nat}

/-- **Each attempt that fails takes its piece of the answers.** -/
theorem after_eq (comes : P.consignment.Comes (P.consignment.bulk n)) :
    P.attempts.after n = P.worker.broker.later P.message (P.consignment.bulk n) := by
  induction n with
  | zero =>
    rw [Consignment.bulk, Nat.zero_mul]
    rfl
  | succ n ih =>
    rw [Consignment.bulk_succ] at comes
    have before := ih (comes.mono (Nat.le_add_right _ _))
    -- the next piece is refused as a whole, by a server that has gone on to it
    obtain ⟨e, ends⟩ := (Consignment.behind_comes comes).ends
    rw [← Server.later_consignment] at ends
    rw [Course.after, before, Consignment.bulk_succ, ← Server.later_later]
    exact (Server.send_of_ends ends).server

/-- An attempt ends with the call of the client. -/
theorem reply_of_ends {r : Except Failure Nat} (comes : P.consignment.Comes (P.consignment.bulk n))
    (ends : (P.consignment.behind (P.consignment.bulk n)).Ends k r) :
    (P.attempts.reply n).answer = r ∧
      (P.attempts.reply n).delay = some ((P.consignment.behind (P.consignment.bulk n)).hears k) ∧
      P.attempts.after (n + 1)
        = P.worker.broker.later P.message (P.consignment.bulk n + (k + 1)) := by
  rw [← Server.later_consignment] at ends ⊢
  obtain ⟨answer, delay, server⟩ := Server.send_of_ends ends
  rw [Course.reply, Course.after, after_eq comes, ← Server.later_later]
  exact ⟨answer, delay, server⟩

/-- An attempt all of whose requests are refused fails. -/
theorem fails_of_comes (comes : P.consignment.Comes (P.consignment.bulk (n + 1))) :
    P.attempts.series.Fails n ∧ P.attempts.series.round n
      = (P.consignment.behind (P.consignment.bulk n)).hears P.consignment.retries
        + Pause.length P.interval := by
  rw [Consignment.bulk_succ] at comes
  obtain ⟨e, ends⟩ := (Consignment.behind_comes comes).ends
  obtain ⟨answer, delay, -⟩ := reply_of_ends (comes.mono (Nat.le_add_right _ _)) ends
  refine ⟨⟨by rw [delay]; rfl, e, answer⟩, ?_⟩
  rw [Series.round, delay]
  rfl

theorem comes_of_comes (comes : P.consignment.Comes (P.consignment.bulk n)) :
    P.attempts.series.Comes n :=
  fun _ lt => (fails_of_comes (comes.mono (Nat.mul_le_mul_right _ lt))).1

/-- An attempt begins behind the pieces of the answers before it, the pauses between the requests
and the pauses between the attempts. -/
theorem begins_eq (comes : P.consignment.Comes (P.consignment.bulk n)) :
    P.attempts.series.begins n = P.consignment.spent (P.consignment.bulk n)
      + n * (P.consignment.retries * P.consignment.pause) + n * Pause.length P.interval := by
  induction n with
  | zero => simp [Series.begins, Consignment.bulk, Consignment.spent]
  | succ n ih =>
    have before := ih (comes.mono (Nat.mul_le_mul_right _ n.le_succ))
    have pieces := Consignment.behind_spent (K := P.consignment) (P.consignment.bulk n)
      (P.consignment.retries + 1)
    have same : (P.consignment.behind (P.consignment.bulk n)).pause = P.consignment.pause := rfl
    rw [Series.begins_succ, before, (fails_of_comes comes).2, Consignment.hears_eq,
      Consignment.bulk_succ, same, Nat.succ_mul, Nat.succ_mul]
    omega

/-- **The first acknowledgment ends an attempt.** -/
theorem succeeds_of_acknowledged {sequence : Nat}
    (acknowledged : P.consignment.Acknowledged k sequence) :
    P.attempts.series.Succeeds (k / (P.consignment.retries + 1))
      (P.consignment.spent (k + 1) + k / (P.consignment.retries + 1) * Pause.length P.interval
        + (k - k / (P.consignment.retries + 1)) * P.consignment.pause) sequence ∧
    P.attempts.after (k / (P.consignment.retries + 1) + 1)
      = P.worker.broker.later P.message (k + 1) := by
  -- request `k` is request `j` of its attempt
  have pieces : P.consignment.bulk (k / (P.consignment.retries + 1))
      + k % (P.consignment.retries + 1) = k := Nat.div_add_mod' k _
  have within : k % (P.consignment.retries + 1) ≤ P.consignment.retries :=
    Nat.le_of_lt_succ (Nat.mod_lt k (Nat.succ_pos _))
  -- from here on only that counts
  generalize k / (P.consignment.retries + 1) = n at pieces ⊢
  generalize k % (P.consignment.retries + 1) = j at pieces within
  subst pieces
  have comes : P.consignment.Comes (P.consignment.bulk n) :=
    acknowledged.1.mono (Nat.le_add_right _ _)
  obtain ⟨answer, delay, server⟩ :=
    reply_of_ends comes ((Consignment.behind_acknowledged acknowledged).ends within)
  refine ⟨⟨comes_of_comes comes, ?_, answer⟩, server⟩
  have spent := Consignment.behind_spent (K := P.consignment) (P.consignment.bulk n) (j + 1)
  have same : (P.consignment.behind (P.consignment.bulk n)).pause = P.consignment.pause := rfl
  have pauses : P.consignment.bulk n + j - n = n * P.consignment.retries + j := by
    rw [Consignment.bulk, Nat.mul_succ]
    omega
  rw [Series.ends?, delay, Option.map_some, begins_eq comes, Consignment.hears_eq, same, pauses,
    Nat.add_mul, Nat.mul_assoc]
  refine congrArg some ?_
  rw [← Nat.add_assoc] at spent
  omega

/-- The answers that refuse a message are laid down. -/
theorem le_of_comes (comes : P.consignment.Comes k) : k ≤ P.worker.broker.acks.length := by
  cases k with
  | zero => exact Nat.zero_le _
  | succ k =>
    obtain ⟨e, refusal⟩ := (comes k k.lt_succ_self).answer
    refine Nat.succ_le_of_lt (Nat.lt_of_not_le fun behind => ?_)
    have given : P.worker.broker.acks[k]? = none := List.getElem?_eq_none behind
    simp [Server.consignment, laid, given, Answer.outcome] at refusal

/-- What is left of a call if the first acknowledgment is the answer to request `k`. -/
structure Published (P : Publication) (k sequence : Nat) (r : Trial Nat × Worker Server) :
    Prop where
  outcome : r.1 = .succeeded ((k + 1) ⌈/⌉ (P.consignment.retries + 1)) sequence
  now : r.2.now = P.worker.now + (P.consignment.spent (k + 1)
    + ((k + 1) ⌈/⌉ (P.consignment.retries + 1) - 1) * Pause.length P.interval
    + (k + 1 - (k + 1) ⌈/⌉ (P.consignment.retries + 1)) * P.consignment.pause)
  server : r.2.broker = P.worker.broker.later P.message (k + 1)
  stats : r.2.stats = { P.worker.stats with
    published := P.worker.stats.published + 1
    retries := P.worker.stats.retries + ((k + 1) ⌈/⌉ (P.consignment.retries + 1) - 1) }

/-- The broker after a call, by the messages it has sent. -/
theorem broker_eq {C : Course Server} {fuel : Nat} {signal : Option Nat}
    (sends : (C.within fuel signal).2.sends = C.sends n) :
    (C.within fuel signal).2.broker = C.after n := by
  obtain ⟨j, standing⟩ := Course.exists_standing (C := C) fuel signal
  -- the broker is that of some number of requests, which the sends give away
  have lengths := congrArg List.length standing.sends
  rw [sends] at lengths
  simp [Course.sends, Series.noted] at lengths
  rw [standing.broker, lengths]

theorem publish_of_acknowledged {sequence : Nat}
    (acknowledged : P.consignment.Acknowledged k sequence) :
    P.Published k sequence
      (P.worker.publish (connector P.config) P.interval P.log P.message none) := by
  obtain ⟨succeeds, server⟩ := succeeds_of_acknowledged acknowledged
  have attempts : (k + 1) ⌈/⌉ (P.consignment.retries + 1)
      = k / (P.consignment.retries + 1) + 1 := by
    have same : k + 1 + (P.consignment.retries + 1) - 1 = k + (P.consignment.retries + 1) := by
      omega
    rw [Nat.ceilDiv_eq_add_pred_div, same]
    exact Nat.add_div_right k (Nat.succ_pos _)
  -- the steps suffice, since there is no more than an attempt for each refusal
  have enough : 5 * (k / (P.consignment.retries + 1)) + 3
      ≤ P.worker.workload (connector P.config) := by
    have refusals := le_of_comes acknowledged.1
    have pieces := Nat.div_le_self k (P.consignment.retries + 1)
    show _ ≤ 5 * P.worker.broker.acks.length + 8
    omega
  have run : P.worker.publish (connector P.config) P.interval P.log P.message none
      = P.attempts.within (P.worker.workload (connector P.config)) none :=
    P.attempts.publish_eq_within (by simp)
  have left := Course.within_of_succeeds succeeds (before_none _) enough
  rw [run]
  refine ⟨?_, ?_, ?_, ?_⟩
  · rw [attempts]
    exact left.outcome
  · rw [attempts, Nat.add_sub_cancel, Nat.add_sub_add_right]
    exact left.now
  · rw [← server]
    exact broker_eq left.sends
  · rw [attempts, Nat.add_sub_cancel]
    exact left.stats

end Publication

/-! ### The result -/

/-- **The requests add up.** Whatever is answered, a call of the client ends with the first
acknowledgment, or with the refusal of the last request that it may make; the requests before were
refused, each is made a pause behind the answer to the one before it, and the count of them stays in
its range. This is what comes of sending a message to a server; and if it is published with as many
calls as it takes, the requests go on behind each other until the first acknowledgment. -/
theorem requests_add_up :
    (∀ K : Consignment,
      (∀ n sequence, K.Acknowledged n sequence → n ≤ K.retries → K.Ends n (.ok sequence)) ∧
      (K.Comes (K.retries + 1) →
        ∃ e, K.outcome K.retries = .error e ∧ K.Ends K.retries (.error e)) ∧
      (∀ n r, K.Ends n r → ∀ steps, 2 * n + 1 ≤ steps → K.Ended n r (K.run steps)) ∧
      ∀ steps, (K.run steps).sending.made ≤ K.retries) ∧
    (∀ (c : Config) (m : Message) (s : Server) (n : Nat) (r : Except Failure Nat),
      (s.consignment c m).Ends n r → s.Sent c m n r (s.send c m)) ∧
    ∀ (P : Publication) (k sequence : Nat), P.consignment.Acknowledged k sequence →
      P.Published k sequence
        (P.worker.publish (connector P.config) P.interval P.log P.message none) := by
  refine ⟨fun K => ⟨fun n sequence => Consignment.Acknowledged.ends, fun comes => ?_,
    fun n r ends steps => Consignment.run_of_ends ends, K.made_le⟩,
    fun c m s n r => Server.send_of_ends,
    fun P k sequence => Publication.publish_of_acknowledged⟩
  obtain ⟨e, ends⟩ := comes.ends
  exact ⟨e, ends.outcome, ends⟩

/-! ### A rehearsal -/

namespace Rehearsal

/-- An error of the server. -/
def down (delay : Nat) : Timed Ack := ⟨delay, .refused ⟨503, 1, none⟩⟩

/-- Publishes a log over a client that pauses for seven milliseconds before it repeats a request. -/
def publication (retries : UInt32) (interval : Nat) (acks : List (Timed Ack)) : Publication where
  config := { Config.default with retries := retries, backoff := 7 }
  interval := interval
  log := default
  message := .ofLog .default 0 default
  worker := .new (.new ⟨none, none⟩ [] acks) .connected

/-- What comes of it. -/
def published (P : Publication) : Trial Nat × Worker Server :=
  P.worker.publish (connector P.config) P.interval P.log P.message none

/-- **Nothing waits for more than thirty years**: the attempt after a pause that is to take longer
begins too early. -/
theorem attempts_too_early :
    (published (publication 0 946080000001 [down 0])).1 = .succeeded 2 2 ∧
      (published (publication 0 946080000001 [down 0])).2.now
        ≠ 0 + (2 - 1) * 946080000001 + (2 - 2) * 7 :=
  ⟨rfl, by decide⟩

/-- Three refusals, and then an acknowledgment. -/
def answers : List (Timed Ack) :=
  [down 5, down 2, ⟨1, .unserved⟩, ⟨3, .given ⟨"AUDIT_LOG", 42, false⟩⟩]

theorem acknowledged : (publication 1 100 answers).consignment.Acknowledged 3 42 := by
  refine ⟨fun j lt => ?_, rfl⟩
  rcases j with _ | _ | _ | j
  · exact ⟨_, rfl⟩
  · exact ⟨_, rfl⟩
  · exact ⟨_, rfl⟩
  · omega

theorem requests_added_up :
    ((published (publication 1 100 answers)).1 = .succeeded 2 42 ∧
      (published (publication 1 100 answers)).2.now = 125 ∧
      (published (publication 1 100 answers)).2.broker.received.length = 4) ∧
    ((publication 1 100 answers).consignment.run 3).now = 14 ∧
    ((publication 1 100 answers).worker.broker.send (publication 1 100 answers).config
      (publication 1 100 answers).message).1.delay = some 14 := by
  obtain ⟨calls, sent, publishes⟩ := requests_add_up
  obtain ⟨-, refused, runs, -⟩ := calls (publication 1 100 answers).consignment
  -- the first call ends with the refusal of its second request
  have comes : (publication 1 100 answers).consignment.Comes 2 :=
    acknowledged.1.mono (by decide)
  obtain ⟨e, -, ends⟩ := refused comes
  have ended := runs 1 _ ends 3 (by decide)
  have reply := sent _ _ _ 1 _ ends
  -- the second call ends with the acknowledgment of its second request
  have attempts : (3 + 1) ⌈/⌉ ((publication 1 100 answers).consignment.retries + 1) = 2 := by
    rw [Nat.ceilDiv_eq_add_pred_div]
    rfl
  have left := publishes (publication 1 100 answers) 3 42 acknowledged
  obtain ⟨outcome, now, server, -⟩ := left
  rw [attempts] at outcome now
  refine ⟨⟨outcome, now, ?_⟩, ended.now, reply.delay⟩
  rw [published, server]
  rfl

end Rehearsal

end AuditRelay.Nats
