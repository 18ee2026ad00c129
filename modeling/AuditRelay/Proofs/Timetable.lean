import AuditRelay.Proofs.Payload
import AuditRelay.Proofs.Publishers
import AuditRelay.Proofs.Series

/-!
# The timetable of publishing

A call of `Worker.publish` is determined by what the broker will answer, how long the answers take
and how long the pauses are (`Course`): they are a series of attempts (`Course.series`), and so one
can read off which attempt is the first to succeed, and what is returned and when, also if a signal
comes at some moment (`OnTime`).

* `Shows` is what a worker has to show at a moment, by how far its trial has come. The clock of
  the call carries out the attempts (`carriedOut`), and so it leads to every attempt that comes
  before the signal.
* The first success ends the call there (`Acknowledged`), or the signal finds the last attempt on
  its way or in the pause behind it (`Stopped`).
* `Standing` is what holds at every step, however many steps are made: an acknowledgement is
  always that of the first success.
-/

namespace AuditRelay

/-! ### The attempts of a call -/

/-- A call to publish a log as a message. -/
structure Course (β : Type) where
  connector : Connector β
  interval : Nat
  log : Log
  message : Message
  /-- The worker at the beginning of the call. -/
  worker : Worker β

namespace Course

variable {β : Type} (C : Course β)

/-- The broker after `n` requests. -/
def after : Nat → β
  | 0 => C.worker.broker
  | n + 1 => (C.connector.send C.message (after n)).2

/-- The reply to attempt `n`; attempts are counted from zero. -/
def reply (n : Nat) : Reply Nat := (C.connector.send C.message (C.after n)).1

/-- The attempts to publish the message. -/
abbrev series : Series Nat := ⟨C.worker.now, C.interval, C.reply⟩

/-- The sends after `n` attempts: one and the same message, and when; the newest first. -/
def sends (n : Nat) : List (Nat × Message) := C.series.noted C.message n ++ C.worker.sends

/-- The clock of the call. -/
abbrev clock : Clockwork (Trial Nat × Worker β) :=
  Worker.clockwork (Worker.post? C.connector C.interval C.message) Worker.quitPost?

/-- The beginning of the call. -/
def start : Trial Nat × Worker β :=
  (.start, { C.worker.tell (Worker.posting C.log C.message) with cancelled := false })

/-- Publishes with a signal at exactly that moment, in at most `fuel` steps before it and after
it. -/
def within (fuel : Nat) (signal : Option Nat) : Trial Nat × Worker β :=
  let r := C.clock.runUntil (C.series.limit signal) fuel C.start
  if signal.isNone || r.1.isOver then r
  else C.clock.runUntil none fuel (r.1, { r.2 with cancelled := true })

variable {C} {n k : Nat}

theorem sends_succ (n : Nat) :
    C.sends (n + 1) = (C.worker.now + C.series.begins n, C.message) :: C.sends n := by
  rw [sends, sends, Series.noted_succ]
  rfl

/-! ### Following the clock -/

/-- **What a worker has to show** when its trial has come so far, `time` milliseconds after the
beginning of the call. -/
structure Shows (C : Course β) (trial : Trial Nat) (time : Nat) (s : Trial Nat × Worker β) :
    Prop where
  stage : s.1 = trial
  broker : s.2.broker = C.after trial.made
  now : s.2.now = C.worker.now + time
  sends : s.2.sends = C.sends trial.made
  stats : s.2.stats = { C.worker.stats with retries := C.worker.stats.retries + trial.failed }
  cancelled : s.2.cancelled = false

section Clock

variable {time t : Nat} {trial : Trial Nat} {w : Worker β} {s : Trial Nat × Worker β}
  {signal : Option Nat}

theorem Shows.act?_eq (shows : C.Shows trial time s) :
    C.clock.act? s = Worker.post? C.connector C.interval C.message (trial, s.2) := by
  obtain ⟨rfl, -, -, -, -, uncancelled⟩ := shows
  have unheard : Worker.quitPost? s = none := by
    simp [Worker.quitPost?, uncancelled]
  show (Worker.quitPost? s).or _ = _
  rw [unheard, Option.none_or]

theorem Shows.ask (shows : C.Shows (.ready n) (C.series.begins n) s) :
    ∃ s', C.clock.act? s = some s' ∧ C.Shows (C.series.underway n) (C.series.begins n) s' := by
  refine ⟨_, shows.act?_eq, ?_, ?_, shows.now, ?_, shows.stats, shows.cancelled⟩
  · show Trial.asked (n + 1) s.2.now (C.connector.send C.message s.2.broker).1 = _
    rw [shows.broker, shows.now]
    rfl
  · show (C.connector.send C.message s.2.broker).2 = _
    rw [shows.broker]
    rfl
  · show (s.2.now, C.message) :: s.2.sends = C.sends (n + 1)
    rw [shows.now, shows.sends, sends_succ]
    rfl

theorem Shows.answer (shows : C.Shows (C.series.underway n) t s)
    (ends : C.series.ends? n = some t) :
    (C.reply n).hasArrived (C.worker.now + C.series.begins n) s.2.now = true := by
  rw [shows.now]
  exact Series.arrived ends

theorem Shows.refuse {e : Failure} (shows : C.Shows (C.series.underway n) t s)
    (ends : C.series.ends? n = some t) (failure : (C.reply n).answer = .error e) :
    ∃ s', C.clock.act? s = some s' ∧ C.Shows (C.series.resting n) t s' := by
  have act : C.clock.act? s
      = some (.paused (n + 1) (s.2.now + Pause.length C.interval),
        ({ s.2 with stats := { s.2.stats with retries := s.2.stats.retries + 1 } }.tellAll
          (C.reply n).events).tell (Worker.postFailed C.message (n + 1) e C.interval)) := by
    rw [shows.act?_eq, Worker.post?, if_pos (shows.answer ends), failure]
  refine ⟨_, act, ?_, shows.broker, shows.now, shows.sends, ?_, shows.cancelled⟩
  · show Trial.paused (n + 1) (s.2.now + Pause.length C.interval) = _
    rw [shows.now, Nat.add_assoc, ← Series.begins_succ_of_ends ends]
  · show { s.2.stats with retries := s.2.stats.retries + 1 } = _
    rw [shows.stats]
    rfl

/-- **The clock of the call carries out the attempts.** -/
theorem carriedOut : C.series.CarriedOut C.clock C.Shows where
  due shows := congrArg Trial.due? shows.stage
  wait := by
    rintro trial time t s goesOn ⟨rfl, broker, now, sends, stats, cancelled⟩ le
    have waits : C.clock.wait (C.worker.now + t) s = (s.1, s.2.waitUntil (C.worker.now + t)) := by
      show (if s.1.isOver = true then s else _) = _
      rw [goesOn]
      rfl
    rw [waits]
    refine ⟨rfl, broker, ?_, sends, stats, cancelled⟩
    show max s.2.now (C.worker.now + t) = _
    omega
  await := by
    intro n time s shows blocked
    rw [shows.act?_eq, Worker.post?, shows.now]
    exact if_neg (Bool.not_eq_true _ ▸ blocked)
  ask := Shows.ask
  refuse := Shows.refuse
  rest := by
    intro n time s shows early
    rw [shows.act?_eq, Worker.post?, shows.now]
    exact if_neg (Nat.not_le.mpr (Nat.add_lt_add_left early _))
  wake := by
    intro n s shows
    have act : C.clock.act? s = some (.ready (n + 1), s.2) := by
      rw [shows.act?_eq, Worker.post?, if_pos (Nat.le_of_eq shows.now.symm)]
    exact ⟨_, act, rfl, shows.broker, shows.now, shows.sends, shows.stats, shows.cancelled⟩

theorem shows_start : C.Shows (.ready 0) 0 C.start := ⟨rfl, rfl, rfl, rfl, rfl, rfl⟩

/-! ### The end of a call -/

theorem runUntil_over (ended : s.1.isOver = true) (limit : Option Nat) (fuel : Nat) :
    C.clock.runUntil limit fuel s = s := by
  obtain ⟨trial, w⟩ := s
  have never : C.clock.due? (trial, w) = none := by
    show trial.due? = none
    cases trial with
    | succeeded made r => rfl
    | cancelled => rfl
    | _ => exact absurd ended Bool.noConfusion
  exact Clockwork.runUntil_rests (Worker.act?_over ended) never (fun l _ => if_pos ended) fuel

theorem runUntil_told {fuel : Nat} (goesOn : s.1.isOver = false) (told : s.2.cancelled = true)
    (pos : 0 < fuel) : C.clock.runUntil none fuel s = (.cancelled, s.2) := by
  have act : C.clock.act? s = some (.cancelled, s.2) := by
    simp [Worker.clockwork, Worker.quitPost?, told, goesOn]
  obtain ⟨fuel, rfl⟩ := Nat.exists_eq_succ_of_ne_zero (Nat.ne_of_gt pos)
  simp only [Clockwork.runUntil, act]
  exact runUntil_over rfl none fuel

theorem within_eq_of_over {fuel : Nat}
    (reached : C.clock.runUntil (C.series.limit signal) fuel C.start = s)
    (ended : s.1.isOver = true) : C.within fuel signal = s := by
  simp [within, reached, ended]

theorem within_eq_of_stopped {c fuel : Nat}
    (reached : C.clock.runUntil (some (C.worker.now + c)) fuel C.start = s)
    (goesOn : s.1.isOver = false) (pos : 0 < fuel) :
    C.within fuel (some c) = (.cancelled, { s.2 with cancelled := true }) := by
  simp only [within, Option.map_some, reached, goesOn, Option.isNone_some, Bool.or_false,
    Bool.false_eq_true, if_false]
  exact runUntil_told goesOn rfl pos

/-- What a success at attempt `k` leaves of a call. -/
structure Acknowledged (C : Course β) (k t sequence : Nat) (r : Trial Nat × Worker β) : Prop where
  outcome : r.1 = .succeeded (k + 1) sequence
  now : r.2.now = C.worker.now + t
  sends : r.2.sends = C.sends (k + 1)
  stats : r.2.stats = { C.worker.stats with
    published := C.worker.stats.published + 1
    retries := C.worker.stats.retries + k }

/-- **The first success ends the call**, if it comes before the signal. -/
theorem within_of_succeeds {sequence fuel : Nat} (succeeds : C.series.Succeeds k t sequence)
    (before : Before t signal) (enough : 5 * k + 3 ≤ fuel) :
    C.Acknowledged k t sequence (C.within fuel signal) := by
  obtain ⟨comes, ends, answer⟩ := succeeds
  obtain ⟨s, shows, answered⟩ := carriedOut.exists_answered shows_start comes ends before
  have act : C.clock.act? s
      = some (.succeeded (k + 1) sequence,
        { s.2 with stats := { s.2.stats with published := s.2.stats.published + 1 } }.tellAll
          (C.reply k).events) := by
    rw [shows.act?_eq, Worker.post?, if_pos (shows.answer ends), answer]
  have leads := answered.trans (.act act)
  have ended := leads.runUntil_eq (fun rest (_ : 0 ≤ rest) => runUntil_over rfl _ rest) enough
  rw [within_eq_of_over ended rfl]
  refine ⟨rfl, shows.now, shows.sends, ?_⟩
  show { s.2.stats with published := s.2.stats.published + 1 } = _
  rw [shows.stats]
  rfl

/-- What the signal leaves of a call. -/
structure Stopped (C : Course β) (c : Nat) (r : Trial Nat × Worker β) : Prop where
  outcome : r.1 = .cancelled
  now : r.2.now = C.worker.now + c
  sends : ∃ n, C.series.Begun (some c) n ∧ r.2.sends = C.sends n
  stats : ∃ n, C.series.Lost c n ∧
    r.2.stats = { C.worker.stats with retries := C.worker.stats.retries + n }

theorem Shows.stopped {c : Nat} (shows : C.Shows trial c s)
    (begun : C.series.Begun (some c) trial.made) (lost : C.series.Lost c trial.failed) :
    C.Stopped c (.cancelled, { s.2 with cancelled := true }) :=
  ⟨rfl, shows.now, ⟨_, begun, shows.sends⟩, ⟨_, lost, shows.stats⟩⟩

/-- The signal finds an attempt on its way. -/
theorem within_of_asked {c fuel : Nat} (begun : C.series.Begun (some c) (n + 1))
    (late : ∀ t, C.series.ends? n = some t → c < t) (enough : 5 * n + 2 ≤ fuel) :
    C.Stopped c (C.within fuel (some c)) := by
  obtain ⟨comes, before⟩ := (begun n).mp n.lt_succ_self
  obtain ⟨s, shows, asked⟩ := carriedOut.exists_asked shows_start comes before
  obtain ⟨s', shows', stops⟩ :=
    carriedOut.stop_underway shows (Nat.le_of_lt (before c rfl)) late
  have reached := asked.runUntil_eq stops enough
  rw [within_eq_of_stopped reached (by rw [shows'.stage]; rfl) (by omega)]
  exact shows'.stopped begun (begun.lost_of_late late)

/-- The signal finds a pause behind an attempt. -/
theorem within_of_paused {c fuel : Nat} (clear : C.series.Clear (some c))
    (begun : C.series.Begun (some c) (n + 1)) (fails : C.series.Fails n)
    (ends : C.series.ends? n = some t) (lt : t < c) (enough : 5 * n + 4 ≤ fuel) :
    C.Stopped c (C.within fuel (some c)) := by
  have comes : C.series.Comes n := ((begun n).mp n.lt_succ_self).1
  obtain ⟨s, shows, paused⟩ :=
    carriedOut.exists_rested shows_start comes fails ends (before_some lt)
  obtain ⟨s', shows', stops⟩ :=
    carriedOut.stop_resting shows (Nat.le_of_lt lt) (begun.lt_begins clear fails)
  have reached := paused.runUntil_eq stops enough
  rw [within_eq_of_stopped reached (by rw [shows'.stage]; rfl) (by omega)]
  exact shows'.stopped begun (begun.lost_of_fails fails ends lt)

/-- **The signal ends the call**, if no success comes before it. -/
theorem within_of_late {c f fuel : Nat} (clear : C.series.Clear (some c))
    (bounded : C.series.Bounded (some c) f)
    (late : ∀ k t sequence, C.series.Succeeds k t sequence → ¬ t < c) (enough : 5 * f + 4 ≤ fuel) :
    C.Stopped c (C.within fuel (some c)) := by
  obtain ⟨n, le, comes, -, begun⟩ := Series.exists_last clear bounded
  by_cases ended : ∃ t, C.series.ends? n = some t ∧ t < c
  · obtain ⟨t, ends, lt⟩ := ended
    have fails : C.series.Fails n := by
      rcases comes.fails_or_succeeds ends with fails | ⟨sequence, succeeds⟩
      · exact fails
      · exact absurd lt (late n t sequence succeeds)
    exact within_of_paused clear begun fails ends lt (by omega)
  · refine within_of_asked begun (fun t ends => ?_) (by omega)
    have other : t ≠ c := fun same => (clear c rfl n comes).2 (same ▸ ends)
    have behind : ¬ t < c := fun lt => ended ⟨t, ends, lt⟩
    omega

end Clock

/-- **A call that is on time.** -/
structure OnTime (C : Course β) (signal : Option Nat) (r : Trial Nat × Worker β) : Prop where
  /-- A first success before the signal is acknowledged at once. -/
  acknowledged : ∀ k t sequence, C.series.Succeeds k t sequence → Before t signal →
    C.Acknowledged k t sequence r
  /-- If none comes, the signal ends the call at once. -/
  stopped : ∀ c, signal = some c → (∀ k t sequence, C.series.Succeeds k t sequence → ¬ t < c) →
    C.Stopped c r

theorem onTime_within {signal : Option Nat} {f fuel : Nat} (clear : C.series.Clear signal)
    (bounded : C.series.Bounded signal f) (enough : 5 * f + 4 ≤ fuel) :
    C.OnTime signal (C.within fuel signal) where
  acknowledged := by
    intro k t sequence succeeds before
    have le : k ≤ f := bounded k succeeds.1 (before.mono (Series.begins_le_of_ends succeeds.2.1))
    exact within_of_succeeds succeeds before (by omega)
  stopped := by
    rintro c rfl late
    exact within_of_late clear bounded late enough

/-! ### However many steps are made -/

/-- What a trial has come to after `n` requests; it can be given up only if `told`. -/
inductive Stage (C : Course β) (told : Prop) (n : Nat) : Trial Nat → Prop where
  | ready (comes : C.series.Comes n) : Stage C told n (.ready n)
  | asked {k since : Nat} (last : n = k + 1) (comes : C.series.Comes k) :
      Stage C told n (.asked (k + 1) since (C.reply k))
  | paused {wake : Nat} (comes : C.series.Comes n) : Stage C told n (.paused n wake)
  | succeeded {k t sequence : Nat} (last : n = k + 1) (succeeds : C.series.Succeeds k t sequence) :
      Stage C told n (.succeeded (k + 1) sequence)
  | cancelled (heard : told) : Stage C told n .cancelled

/-- **What holds at every step.** -/
structure Standing (C : Course β) (told : Prop) (n : Nat) (s : Trial Nat × Worker β) : Prop where
  stage : C.Stage told n s.1
  broker : s.2.broker = C.after n
  sends : s.2.sends.map (·.2) = List.replicate n C.message ++ C.worker.sends.map (·.2)
  deadLettered : s.2.stats.deadLettered = C.worker.stats.deadLettered
  dropped : s.2.stats.dropped = C.worker.stats.dropped
  heard : s.2.cancelled = true → told

section Standing

variable {told : Prop} {trial trial' : Trial Nat} {w w' : Worker β} {s s' : Trial Nat × Worker β}
  {signal : Option Nat}

theorem standing_start : C.Standing told 0 C.start :=
  ⟨.ready .zero, rfl, rfl, rfl, rfl, fun h => absurd h Bool.noConfusion⟩

theorem Standing.post (hs : C.Standing told n (trial, w))
    (post : Dispatcher.Post C.connector C.interval C.message w trial trial' w') :
    ∃ k, C.Standing told k (trial', w') := by
  obtain ⟨stage, broker, sends, deadLettered, dropped, heard⟩ := hs
  dsimp only at stage broker sends
  cases post with
  | sent =>
    cases stage with
    | ready comes =>
      refine ⟨n + 1, ?_, ?_, ?_, deadLettered, dropped, heard⟩
      · rw [broker]
        exact .asked rfl comes
      · rw [broker]
        rfl
      · rw [List.map_cons, sends]
        rfl
  | acknowledged arrived answer =>
    cases stage with
    | @asked k since last comes =>
      obtain ⟨t, ends⟩ := Series.exists_ends (S := C.series) (Reply.isSome_of_hasArrived arrived)
      have succeeds : C.series.Succeeds k t _ := ⟨comes, ends, answer⟩
      exact ⟨n, .succeeded last succeeds, broker, sends, deadLettered, dropped, heard⟩
  | refused arrived answer =>
    cases stage with
    | @asked k since last comes =>
      subst last
      have fails : C.series.Fails k := ⟨Reply.isSome_of_hasArrived arrived, _, answer⟩
      exact ⟨k + 1, .paused (comes.succ fails), broker, sends, deadLettered, dropped, heard⟩
  | woke due =>
    cases stage with
    | paused comes => exact ⟨n, .ready comes, broker, sends, deadLettered, dropped, heard⟩

theorem Standing.act (hs : C.Standing told n s) (act : C.clock.act? s = some s') :
    ∃ k, C.Standing told k s' := by
  rcases Option.or_eq_some_iff.mp act with hquit | ⟨-, hpost⟩
  · obtain ⟨cancelled, outcome, worker⟩ := Worker.quit_inversion hquit
    have same : s' = (.cancelled, s.2) := Prod.ext outcome worker
    rw [same]
    exact ⟨n, .cancelled (hs.heard cancelled), hs.broker, hs.sends, hs.deadLettered, hs.dropped,
      hs.heard⟩
  · exact hs.post (Dispatcher.post_of_post? hpost)

theorem Standing.wait (hs : C.Standing told n s) (t : Nat) :
    C.Standing told n (C.clock.wait t s) := by
  show C.Standing told n (if s.1.isOver then s else (s.1, s.2.waitUntil t))
  split
  · exact hs
  · exact ⟨hs.stage, hs.broker, hs.sends, hs.deadLettered, hs.dropped, hs.heard⟩

theorem Standing.runUntil (hs : C.Standing told n s) (limit : Option Nat) (fuel : Nat) :
    ∃ k, C.Standing told k (C.clock.runUntil limit fuel s) := by
  -- by induction on the steps
  refine Clockwork.runUntil_keeps (P := fun s => ∃ k, C.Standing told k s) ?_ ?_ limit fuel ⟨n, hs⟩
  · rintro s s' act ⟨k, hs⟩
    exact hs.act act
  · rintro t s ⟨k, hs⟩
    exact ⟨k, hs.wait t⟩

theorem exists_standing (fuel : Nat) (signal : Option Nat) :
    ∃ n, C.Standing (signal ≠ none) n (C.within fuel signal) := by
  have begun : C.Standing (signal ≠ none) 0 C.start := standing_start
  obtain ⟨k, hs⟩ := begun.runUntil (C.series.limit signal) fuel
  rw [within]
  split
  · exact ⟨k, hs⟩
  · next goesOn =>
    have told : signal ≠ none := by
      rintro rfl
      exact goesOn rfl
    have cancelled : C.Standing (signal ≠ none) k
        (_, { (C.clock.runUntil (C.series.limit signal) fuel C.start).2 with
          cancelled := true }) :=
      ⟨hs.stage, hs.broker, hs.sends, hs.deadLettered, hs.dropped, fun _ => told⟩
    exact cancelled.runUntil none fuel

end Standing

/-- **A call that is sound.** -/
structure Sound (C : Course β) (signal : Option Nat) (r : Trial Nat × Worker β) : Prop where
  /-- It is given up only if there is a signal, and otherwise it ends with the first success. -/
  outcome : r.1.isOver = true → r.1 = .cancelled ∧ signal ≠ none ∨
    ∃ k t sequence, C.series.Succeeds k t sequence ∧ r.1 = .succeeded (k + 1) sequence
  /-- Nothing but the message is sent. -/
  sends : ∃ n, r.2.sends.map (·.2) = List.replicate n C.message ++ C.worker.sends.map (·.2)
  deadLettered : r.2.stats.deadLettered = C.worker.stats.deadLettered
  dropped : r.2.stats.dropped = C.worker.stats.dropped

theorem sound_within (fuel : Nat) (signal : Option Nat) :
    C.Sound signal (C.within fuel signal) := by
  obtain ⟨n, hs⟩ := exists_standing (C := C) fuel signal
  refine ⟨fun ended => ?_, ⟨n, hs.sends⟩, hs.deadLettered, hs.dropped⟩
  generalize C.within fuel signal = r at hs ended
  obtain ⟨trial, w⟩ := r
  cases hs.stage with
  | succeeded last succeeds => exact Or.inr ⟨_, _, _, succeeds, rfl⟩
  | cancelled heard => exact Or.inl ⟨rfl, heard⟩
  | _ => exact absurd ended Bool.noConfusion

/-! ### Publishing -/

theorem workload_pos (w : Worker β) : 0 < w.workload C.connector := Nat.succ_pos _

/-- **`Worker.publish` is such a call**, unless the signal is there from the beginning. The signal
waits no longer than anything else. -/
theorem publish_eq_within {signal : Option Nat} (later : signal ≠ some 0) :
    C.worker.publish C.connector C.interval C.log C.message signal
      = C.within (C.worker.workload C.connector) (signal.map Pause.length) := by
  cases signal with
  | none => rfl
  | some c =>
    cases c with
    | zero => exact absurd rfl later
    | succ c =>
      -- both do the same until the signal
      show (
        let s := C.clock.runUntil (some (C.worker.now + Pause.length (c + 1)))
          (C.worker.workload C.connector) C.start
        if s.1.isOver then s
        else C.clock.runUntil none (s.2.workload C.connector)
          (s.1, { s.2 with cancelled := true })) = _
      generalize reached : C.clock.runUntil (some (C.worker.now + Pause.length (c + 1)))
        (C.worker.workload C.connector) C.start = r
      obtain ⟨trial, w⟩ := r
      cases ended : trial.isOver with
      | true =>
        rw [Option.map_some, within_eq_of_over reached ended]
        exact if_pos ended
      | false =>
        rw [Option.map_some, within_eq_of_stopped reached ended (workload_pos _)]
        simp only [ended, Bool.false_eq_true, if_false]
        exact runUntil_told ended rfl (workload_pos _)

end Course

/-! ### Given answers -/

namespace Scripted

/-- An answer that is a failure is laid down. -/
theorem exists_failure {answers : List Outcome} {number n : Nat} {e : Failure}
    (failure : (next number (answers.drop n)).1.answer = .error e) :
    ∃ o, answers[n]? = some o ∧ o.fails = true := by
  rw [← List.head?_drop]
  generalize answers.drop n = answers at failure ⊢
  cases answers with
  | nil => exact absurd failure (by simp [next, Reply.now])
  | cons o rest =>
    refine ⟨o, rfl, ?_⟩
    cases o with
    | failure delay reason => rfl
    | _ => exact absurd failure (by simp [next, Outcome.reply])

/-- If the first `n` answers are failures, there are so many. -/
theorem le_countP {answers : List Outcome} {n : Nat}
    (fail : ∀ j < n, ∃ o, answers[j]? = some o ∧ o.fails = true) :
    n ≤ answers.countP (·.fails) := by
  have all : (answers.take n).countP (·.fails) = n := by
    induction n with
    | zero => rfl
    | succ n ih =>
      obtain ⟨o, here, fails⟩ := fail n n.lt_succ_self
      have before := ih fun j lt => fail j (Nat.lt_succ_of_lt lt)
      rw [List.take_add_one, List.countP_append, before, here]
      simp [fails]
  calc n
    _ = (answers.take n).countP (·.fails) := all.symm
    _ ≤ answers.countP (·.fails) := (List.take_sublist n _).countP_le

/-- A call to a broker with given answers. -/
abbrev course (transport client : String) (interval : Nat) (l : Log) (m : Message)
    (w : Worker Broker) : Course Broker :=
  ⟨connector transport client, interval, l, m, w⟩

variable {transport client : String} {interval : Nat} {l : Log} {m : Message} {w : Worker Broker}
  {n : Nat}

theorem after_eq (n : Nat) : (course transport client interval l m w).after n
    = { w.broker with sends := w.broker.sends.drop n, sent := w.broker.sent + n } := by
  induction n with
  | zero => rfl
  | succ n ih =>
    rw [Course.after, ih, ← List.drop_drop, ← next_rest (w.broker.sent + n + 1)]
    rfl

/-- The `n`-th answer that is laid down is the reply to the `n`-th request. -/
theorem reply_eq (n : Nat) : (course transport client interval l m w).reply n
    = (next (w.broker.sent + n + 1) (w.broker.sends.drop n)).1 := by
  rw [Course.reply, after_eq]
  rfl

theorem fails_of_fails (fails : (course transport client interval l m w).series.Fails n) :
    ∃ o, w.broker.sends[n]? = some o ∧ o.fails = true := by
  obtain ⟨-, e, failure⟩ := fails
  exact exists_failure ((congrArg Reply.answer (reply_eq n)).symm.trans failure)

theorem bounded (signal : Option Nat) :
    (course transport client interval l m w).series.Bounded signal
      ((connector transport client).failures w.broker) := by
  intro n comes _
  calc n
    _ ≤ w.broker.sends.countP (·.fails) := le_countP fun j lt => fails_of_fails (comes j lt)
    _ ≤ (connector transport client).failures w.broker := Nat.le_add_left _ _

end Scripted

/-! ### The result -/

/-- **Publishing is on time.** Whatever the broker, what is returned is sound; it is on time if
only so many attempts fail before the signal as the steps suffice for. A broker with given answers
is such a broker, for every list of answers, every interval and every signal that does not come
just when an attempt begins or ends. -/
theorem publish_on_time {β : Type} :
    (∀ (C : Course β) (fuel : Nat) (signal : Option Nat),
      C.Sound signal (C.within fuel signal) ∧
      ∀ f, C.series.Clear signal → C.series.Bounded signal f → 5 * f + 4 ≤ fuel →
        C.OnTime signal (C.within fuel signal)) ∧
    (∀ (C : Course β) (signal : Option Nat), signal ≠ some 0 →
      C.worker.publish C.connector C.interval C.log C.message signal
        = C.within (C.worker.workload C.connector) (signal.map Pause.length)) ∧
    ∀ (transport client : String) (interval : Nat) (l : Log) (m : Message)
      (w : Worker Scripted.Broker) (signal : Option Nat),
      let C := Scripted.course transport client interval l m w
      (∀ n, C.reply n = (Scripted.next (w.broker.sent + n + 1) (w.broker.sends.drop n)).1) ∧
      (C.series.Clear signal → ∀ fuel, w.workload C.connector ≤ fuel →
        C.OnTime signal (C.within fuel signal)) ∧
      (C.series.Clear (signal.map Pause.length) →
        C.OnTime (signal.map Pause.length) (w.publish C.connector interval l m signal)) := by
  refine ⟨fun C fuel signal => ⟨C.sound_within fuel signal, fun f => Course.onTime_within⟩,
    fun C signal => Course.publish_eq_within, ?_⟩
  intro transport client interval l m w signal C
  have within (signal : Option Nat) (clear : C.series.Clear signal) (fuel : Nat)
      (enough : w.workload C.connector ≤ fuel) : C.OnTime signal (C.within fuel signal) := by
    have workload : 5 * C.connector.failures w.broker + 4 ≤ w.workload C.connector :=
      Nat.add_le_add_left (by decide) _
    exact Course.onTime_within clear (Scripted.bounded signal) (Nat.le_trans workload enough)
  refine ⟨Scripted.reply_eq, within signal, fun clear => ?_⟩
  -- the first attempt begins at once, so the signal does not
  have later : signal ≠ some 0 := by
    rintro rfl
    exact (clear 0 rfl 0 .zero).1 rfl
  rw [show w.publish C.connector interval l m signal = _ from C.publish_eq_within later]
  exact within _ clear _ (Nat.le_refl _)

/-! ### A rehearsal -/

namespace Scripted.Rehearsal

/-- Publishes a log to a broker with given answers. -/
def call (interval : Nat) (answers : List Outcome) : Course Broker :=
  course "nats" "rehearsal" interval default (.ofLog .default 0 default)
    (.new (.new [] answers) .connected)

/-- The first two attempts fail after a while, and then one succeeds. -/
def answers : List Outcome :=
  [.failure 5 (.connection "down"), .failure 7 (.connection "down"), .success 3 (some 42)]

theorem succeeds : (call 100 answers).series.Succeeds 2 215 42 := by
  refine ⟨fun j lt => ?_, rfl, rfl⟩
  rcases j with _ | _ | j
  · exact ⟨rfl, _, rfl⟩
  · exact ⟨rfl, _, rfl⟩
  · omega

theorem clear : (call 100 answers).series.Clear (some 150) := by
  rintro c hc n comes
  obtain rfl := Option.some.inj hc
  have le : n ≤ 2 := bounded none n comes (before_none _)
  rcases n with _ | _ | _ | n
  · decide
  · decide
  · decide
  · omega

/-- What comes of publishing; the signal comes `signal` milliseconds after the call. -/
def outcome (C : Course Broker) (signal : Option Nat) : Trial Nat × Worker Broker :=
  C.worker.publish C.connector C.interval C.log C.message signal

/-- **Nothing waits for more than thirty years**: a pause and an answer that are to take longer are
cut short. -/
theorem cut_short :
    ((outcome (call 946080000001 [.failure 0 (.publish "t" "timeout")]) none).1 = .succeeded 2 2 ∧
      (outcome (call 946080000001 [.failure 0 (.publish "t" "timeout")]) none).2.now
        ≠ (0 + 946080000001) + 0) ∧
    (outcome (call 100 [.success 946080000001 none]) none).1 = .succeeded 1 1 ∧
      (outcome (call 100 [.success 946080000001 none]) none).2.now ≠ 0 + 946080000001 :=
  ⟨⟨rfl, by decide⟩, rfl, by decide⟩

theorem called_on_time :
    ((outcome (call 100 answers) none).1 = .succeeded 3 42 ∧
      (outcome (call 100 answers) none).2.now = 215) ∧
    ((outcome (call 100 answers) (some 150)).1 = .cancelled ∧
      (outcome (call 100 answers) (some 150)).2.now = 150) ∧
    ((call 100 answers).within 20 (some 150)).2.now = 150 := by
  obtain ⟨general, same, scripted⟩ := publish_on_time (β := Scripted.Broker)
  obtain ⟨-, within, publish⟩ := scripted "nats" "rehearsal" 100 default
    (.ofLog .default 0 default) (.new (.new [] answers) .connected) (some 150)
  have late : ∀ k t sequence, (call 100 answers).series.Succeeds k t sequence → ¬ t < 150 := by
    intro k t sequence other
    obtain ⟨-, rfl, -⟩ := other.unique succeeds
    decide
  -- the success ends the call if there is no signal before it
  have free : (call 100 answers).OnTime none ((call 100 answers).within 18 none) :=
    (general _ 18 none).2 2 (fun c hc => absurd hc (by simp)) (Scripted.bounded none) (by decide)
  have acknowledged := free.acknowledged 2 215 42 succeeds (before_none 215)
  have run : outcome (call 100 answers) none = (call 100 answers).within 18 none :=
    same (call 100 answers) none (by simp)
  have stopped := (publish clear).stopped 150 rfl late
  have later := (within clear 20 (by decide)).stopped 150 rfl late
  rw [run]
  exact ⟨⟨acknowledged.outcome, acknowledged.now⟩, ⟨stopped.outcome, stopped.now⟩, later.now⟩

end Scripted.Rehearsal

end AuditRelay
