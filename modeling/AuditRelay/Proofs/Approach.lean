import AuditRelay.Proofs.Timetable

/-!
# The timetable of connecting

A call of `Worker.connect` is determined by what the broker will answer to attempts to connect, how
long the answers take and how long the pauses are (`Approach`): they are a series of attempts
(`Approach.series`). The signal is noticed before an attempt and in a pause, but an attempt that has
begun is waited for, so there are three ways for a call to go: an attempt that has begun before the
signal succeeds (`Arrived`), the last of them fails and the call is given up at the signal or at the
end of the attempt, whatever is later (`GivenUp`), or the last of them is never answered
(`Pending`).

What is known about the connection changes on the way. A clock that is watched notes what is seen
after each step (`Clockwork.watched`), and so the changes are known from the first to the last.

* `Shows` is what a worker has to show at a moment, by how far its trial has come. The clock of
  the call carries out the attempts (`carriedOut`), and once the signal has come an attempt on its
  way still shows what it did (`observed`).
* `Shows.heard` is how a call goes on behind the signal, and the three ways are what comes of the
  last attempt before it.
-/

namespace AuditRelay

/-! ### Clocks that are watched -/

namespace Clockwork

variable {σ ο : Type} [DecidableEq ο]

/-- Notes what is seen, unless it was what was seen last; the newest comes first. -/
def note (o : ο) (seen : List ο) : List ο :=
  if seen.head? = some o then seen else o :: seen

/-- **A clock that is watched.** After each step it is noted what is seen of the state; nothing
changes while time passes. -/
def watched (c : Clockwork σ) (view : σ → ο) : Clockwork (σ × List ο) where
  act? s := (c.act? s.1).map fun s' => (s', note (view s') s.2)
  due? s := c.due? s.1
  wait t s := (c.wait t s.1, s.2)

/-- It makes no difference that a clock is watched. -/
theorem runUntil_watched (c : Clockwork σ) (view : σ → ο) (limit : Option Nat) (fuel : Nat)
    (s : σ × List ο) : ((c.watched view).runUntil limit fuel s).1 = c.runUntil limit fuel s.1 := by
  -- by induction on the steps: both clocks make the same ones, whatever was seen
  induction fuel generalizing s with
  | zero => rfl
  | succ fuel ih =>
    simp only [runUntil, watched]
    cases hact : c.act? s.1 with
    | some s' => exact ih (s', _)
    | none =>
      cases hdue : c.due? s.1 with
      | none => cases limit <;> rfl
      | some t =>
        cases limit with
        | none => exact ih (c.wait t s.1, s.2)
        | some l =>
          simp only [Option.map_none]
          split
          · exact ih (c.wait t s.1, s.2)
          · rfl

theorem Leads.watch {c : Clockwork σ} {view : σ → ο} {limit : Option Nat} {s s' : σ}
    {seen seen' : List ο} (act : c.act? s = some s') (noted : note (view s') seen = seen') :
    (c.watched view).Leads limit 1 (s, seen) (s', seen') := by
  refine .act ?_
  show (c.act? s).map _ = _
  rw [act, Option.map_some, noted]

end Clockwork

/-! ### The attempts of a call -/

/-- A call to connect. -/
structure Approach (β : Type) where
  connector : Connector β
  interval : Nat
  /-- The worker at the beginning of the call. -/
  worker : Worker β

namespace Approach

variable {β : Type} (A : Approach β)

/-- The broker after `n` attempts. -/
def after : Nat → β
  | 0 => A.worker.broker
  | n + 1 => (A.connector.connect (after n)).2

/-- The reply to attempt `n`; attempts are counted from zero. -/
def reply (n : Nat) : Reply Unit := (A.connector.connect (A.after n)).1

/-- The attempts to connect. -/
abbrev series : Series Unit := ⟨A.worker.now, A.interval, A.reply⟩

/-- The first `n` attempts: when they were begun; the newest first. -/
def dials (n : Nat) : List (Nat × Link) := A.series.noted Link.connecting n ++ A.worker.dials

/-- What is seen of `n` attempts that fail; the newest first. -/
def rounds : Nat → List Link
  | 0 => []
  | n + 1 => .disconnected :: .connecting :: rounds n

/-- What is seen until a trial has come so far, if it is not given up. -/
def sights : Trial Unit → List Link
  | .ready made => rounds made
  | .asked made _ _ => .connecting :: rounds (made - 1)
  | .paused made _ => rounds made
  | .succeeded made _ => .connected :: .connecting :: rounds (made - 1)
  | .cancelled => []

/-- The clock of the call, not watched. -/
abbrev plain : Clockwork (Trial Unit × Worker β) :=
  Worker.clockwork (Worker.dial? A.connector A.interval) Worker.quitDial?

/-- The clock of the call. What is seen is what is known about the connection. -/
abbrev clock : Clockwork ((Trial Unit × Worker β) × List Link) := A.plain.watched (·.2.link)

/-- The beginning of the call; nothing was seen yet. -/
def start (told : Bool) : (Trial Unit × Worker β) × List Link :=
  ((.start, { A.worker.tell (Worker.dialing A.connector A.interval) with cancelled := told }), [])

/-- Connects with a signal at exactly that moment, in at most `fuel` steps before it and `rest`
after it. -/
def within (fuel : Nat) (rest : Worker β → Nat) (signal : Option Nat) :
    (Trial Unit × Worker β) × List Link :=
  let r := A.clock.runUntil (A.series.limit signal) fuel (A.start false)
  if signal.isNone || r.1.1.isOver then r
  else A.clock.runUntil none (rest r.1.2) ((r.1.1, { r.1.2 with cancelled := true }), r.2)

/-- **What comes of the call** if the signal comes `signal` milliseconds after it, and what is seen
on the way, the newest first. The signal waits no longer than anything else. -/
def call (signal : Option Nat) : (Trial Unit × Worker β) × List Link :=
  match signal with
  | some 0 => A.clock.runUntil none (A.worker.workload A.connector) (A.start true)
  | _ => A.within (A.worker.workload A.connector) (·.workload A.connector) (signal.map Pause.length)

variable {A} {n k : Nat}

theorem dials_succ (n : Nat) :
    A.dials (n + 1) = (A.worker.now + A.series.begins n, .connecting) :: A.dials n := by
  rw [dials, dials, Series.noted_succ]
  rfl

theorem note_connecting (n : Nat) :
    Clockwork.note .connecting (rounds n) = .connecting :: rounds n := by
  cases n <;> rfl

/-! ### Following the clock -/

/-- **What a worker has to show** when its trial has come so far, `time` milliseconds after the
beginning of the call; `told` says whether the signal has come. -/
structure Shows (A : Approach β) (told : Bool) (trial : Trial Unit) (time : Nat)
    (s : (Trial Unit × Worker β) × List Link) : Prop where
  stage : s.1.1 = trial
  broker : s.1.2.broker = A.after trial.made
  now : s.1.2.now = A.worker.now + time
  dials : s.1.2.dials = A.dials trial.made
  seen : s.2 = sights trial
  /-- The last that was seen is what is known. -/
  link : s.1.2.link = (sights trial).headD A.worker.link
  cancelled : s.1.2.cancelled = told

section Clock

variable {told : Bool} {time t : Nat} {trial : Trial Unit} {signal : Option Nat}
  {s s' : (Trial Unit × Worker β) × List Link}

/-- The signal comes. -/
theorem Shows.tell (shows : A.Shows told trial time s) :
    A.Shows true trial time ((s.1.1, { s.1.2 with cancelled := true }), s.2) :=
  ⟨shows.stage, shows.broker, shows.now, shows.dials, shows.seen, shows.link, rfl⟩

theorem Shows.state_eq (shows : A.Shows told trial time s) :
    s = ((trial, s.1.2), sights trial) :=
  Prod.ext (Prod.ext shows.stage rfl) shows.seen

/-- **A step of the worker** is a step of the call, and it is noted what is seen. -/
theorem Shows.act {trial' : Trial Unit} {w' : Worker β} {seen : List Link}
    (shows : A.Shows told trial time s) (act : A.plain.act? (trial, s.1.2) = some (trial', w'))
    (noted : Clockwork.note w'.link (sights trial) = seen) :
    A.clock.act? s = some ((trial', w'), seen) := by
  rw [shows.state_eq]
  show (A.plain.act? (trial, s.1.2)).map _ = _
  rw [act, Option.map_some, noted]

theorem Shows.idle (shows : A.Shows told trial time s)
    (idle : A.plain.act? (trial, s.1.2) = none) : A.clock.act? s = none := by
  rw [shows.state_eq]
  show (A.plain.act? (trial, s.1.2)).map _ = _
  rw [idle]
  rfl

/-- The signal is not noticed while an attempt is on its way. -/
theorem act?_underway (n : Nat) (w : Worker β) : A.plain.act? (A.series.underway n, w)
    = Worker.dial? A.connector A.interval (A.series.underway n, w) :=
  rfl

theorem Shows.answer (shows : A.Shows told (A.series.underway n) t s)
    (ends : A.series.ends? n = some t) :
    (A.reply n).hasArrived (A.worker.now + A.series.begins n) s.1.2.now = true := by
  rw [shows.now]
  exact Series.arrived ends

/-- The reply is a failure. -/
theorem Shows.refuse {e : Failure} (shows : A.Shows told (A.series.underway n) t s)
    (ends : A.series.ends? n = some t) (failure : (A.reply n).answer = .error e) :
    ∃ s', A.clock.act? s = some s' ∧ A.Shows told (A.series.resting n) t s' := by
  have wake : s.1.2.now + Pause.length A.interval = A.worker.now + A.series.begins (n + 1) := by
    rw [shows.now, Nat.add_assoc, ← Series.begins_succ_of_ends ends]
  have act : A.plain.act? (A.series.underway n, s.1.2)
      = some (A.series.resting n,
        ({ s.1.2 with link := .disconnected }.tellAll (A.reply n).events).tell
          (Worker.dialFailed (n + 1) e A.interval)) := by
    rw [act?_underway, Worker.dial?, if_pos (shows.answer ends), failure, wake]
  exact ⟨_, shows.act act rfl, rfl, shows.broker, shows.now, shows.dials, rfl, rfl,
    shows.cancelled⟩

/-- The reply is a success. -/
theorem Shows.accept (shows : A.Shows told (A.series.underway n) t s)
    (ends : A.series.ends? n = some t) (success : (A.reply n).answer = .ok ()) :
    ∃ s', A.clock.act? s = some s' ∧ A.Shows told (.succeeded (n + 1) ()) t s' := by
  have act : A.plain.act? (A.series.underway n, s.1.2)
      = some (.succeeded (n + 1) (),
        ({ s.1.2 with link := .connected }.tellAll (A.reply n).events).tell
          (Worker.dialed A.connector (n + 1))) := by
    rw [act?_underway, Worker.dial?, if_pos (shows.answer ends), success]
  exact ⟨_, shows.act act rfl, rfl, shows.broker, shows.now, shows.dials, rfl, rfl,
    shows.cancelled⟩

/-- **Attempts are waited for**, also if the signal has come. -/
theorem observed (told : Bool) : A.series.Observed A.clock (A.Shows told) where
  due shows := congrArg Trial.due? shows.stage
  wait := by
    rintro trial time t s goesOn ⟨rfl, broker, now, dials, seen, link, cancelled⟩ le
    have waits : A.clock.wait (A.worker.now + t) s
        = ((s.1.1, s.1.2.waitUntil (A.worker.now + t)), s.2) := by
      show ((if s.1.1.isOver = true then s.1 else _), s.2) = _
      rw [goesOn]
      rfl
    rw [waits]
    refine ⟨rfl, broker, ?_, dials, seen, link, cancelled⟩
    show max s.1.2.now (A.worker.now + t) = _
    omega
  await := by
    intro n time s shows blocked
    refine shows.idle ?_
    rw [act?_underway, Worker.dial?, shows.now]
    exact if_neg (Bool.not_eq_true _ ▸ blocked)

/-- **The clock of the call carries out the attempts**, as long as there is no signal. -/
theorem carriedOut : A.series.CarriedOut A.clock (A.Shows false) where
  toObserved := observed false
  ask := by
    intro n s shows
    have act : A.plain.act? (.ready n, s.1.2)
        = some (A.series.underway n,
          { s.1.2 with
            broker := A.after (n + 1)
            link := .connecting
            dials := A.dials (n + 1) }) := by
      simp [Worker.clockwork, Worker.quitDial?, Worker.dial?, shows.cancelled, shows.broker,
        shows.now, shows.dials, dials_succ, Trial.made, after, reply]
    exact ⟨_, shows.act act (note_connecting n), rfl, rfl, shows.now, rfl, rfl, rfl,
      shows.cancelled⟩
  refuse := Shows.refuse
  rest := by
    intro n time s shows early
    refine shows.idle ?_
    have asleep : ¬A.worker.now + A.series.begins (n + 1) ≤ A.worker.now + time :=
      Nat.not_le.mpr (Nat.add_lt_add_left early _)
    simp [Worker.clockwork, Worker.quitDial?, Worker.dial?, shows.cancelled, shows.now, asleep]
  wake := by
    intro n s shows
    have act : A.plain.act? (A.series.resting n, s.1.2) = some (.ready (n + 1), s.1.2) := by
      simp [Worker.clockwork, Worker.quitDial?, Worker.dial?, shows.cancelled, shows.now]
    have noted : Clockwork.note s.1.2.link (rounds (n + 1)) = rounds (n + 1) := by
      rw [shows.link]
      rfl
    exact ⟨_, shows.act act noted, rfl, shows.broker, shows.now, shows.dials, rfl, shows.link,
      shows.cancelled⟩

theorem shows_start : A.Shows false (.ready 0) 0 (A.start false) :=
  ⟨rfl, rfl, rfl, rfl, rfl, rfl, rfl⟩

/-! ### The end of a call -/

theorem runUntil_over (ended : s.1.1.isOver = true) (limit : Option Nat) (fuel : Nat) :
    A.clock.runUntil limit fuel s = s := by
  obtain ⟨⟨trial, w⟩, seen⟩ := s
  have still : A.clock.act? ((trial, w), seen) = none ∧ A.clock.due? ((trial, w), seen) = none := by
    cases trial with
    | succeeded made r => exact ⟨rfl, rfl⟩
    | cancelled => exact ⟨rfl, rfl⟩
    | _ => exact absurd ended Bool.noConfusion
  refine Clockwork.runUntil_rests still.1 still.2 (fun l _ => ?_) fuel
  exact congrArg (·, seen) (if_pos ended)

/-- The signal is noticed in a pause. -/
theorem Shows.quit (shows : A.Shows true (A.series.resting n) time s) :
    A.clock.act? s = some ((.cancelled, s.1.2), rounds (n + 1)) := by
  have act : A.plain.act? (A.series.resting n, s.1.2) = some (.cancelled, s.1.2) := by
    simp [Worker.clockwork, Worker.quitDial?, shows.cancelled]
  refine shows.act act ?_
  rw [shows.link]
  rfl

theorem runUntil_ends {limit : Option Nat} {fuel m : Nat} (leads : A.clock.Leads limit m s s')
    (ended : s'.1.1.isOver = true) (enough : m ≤ fuel) : A.clock.runUntil limit fuel s = s' :=
  leads.runUntil_eq (fun rest (_ : 0 ≤ rest) => runUntil_over ended limit rest) enough

theorem within_ends {fuel m : Nat} {rest : Worker β → Nat}
    (leads : A.clock.Leads (A.series.limit signal) m (A.start false) s)
    (ended : s.1.1.isOver = true) (enough : m ≤ fuel) : A.within fuel rest signal = s := by
  simp [within, runUntil_ends leads ended enough, ended]

/-- **How a call goes on behind the signal**, if that finds a trial that waits: without a limit. -/
theorem Shows.heard {c fuel : Nat} {rest : Worker β → Nat} (shows : A.Shows false trial c s)
    (goesOn : trial.isOver = false)
    (reached : A.clock.runUntil (some (A.worker.now + c)) fuel (A.start false) = s)
    (ample : ∀ w, 4 ≤ rest w) :
    ∃ s', A.Shows true trial c s' ∧ ∃ steps, 4 ≤ steps ∧
      A.within fuel rest (some c) = A.clock.runUntil (A.series.limit none) steps s' := by
  refine ⟨_, shows.tell, rest s.1.2, ample s.1.2, ?_⟩
  simp only [within, Option.map_some, reached, shows.stage, goesOn, Option.isNone_some,
    Bool.or_false, Bool.false_eq_true, if_false]
  rfl

/-- The signal finds an attempt on its way. -/
theorem heard_underway {c fuel : Nat} {rest : Worker β → Nat} (comes : A.series.Comes n)
    (begins : A.series.begins n < c) (late : ∀ t, A.series.ends? n = some t → c < t)
    (enough : 5 * n + 2 ≤ fuel) (ample : ∀ w, 4 ≤ rest w) :
    ∃ s', A.Shows true (A.series.underway n) c s' ∧ ∃ steps, 4 ≤ steps ∧
      A.within fuel rest (some c) = A.clock.runUntil (A.series.limit none) steps s' := by
  obtain ⟨s, shows, asked⟩ := carriedOut.exists_asked shows_start comes (before_some begins)
  obtain ⟨s', shows', stops⟩ :=
    (observed false).stop_underway shows (Nat.le_of_lt begins) late
  exact shows'.heard rfl (asked.runUntil_eq stops enough) ample

/-- What a success at attempt `k` leaves of a call. -/
structure Arrived (A : Approach β) (k t : Nat) (r : (Trial Unit × Worker β) × List Link) :
    Prop where
  outcome : r.1.1 = .succeeded (k + 1) ()
  now : r.1.2.now = A.worker.now + t
  dials : r.1.2.dials = A.dials (k + 1)
  link : r.1.2.link = .connected
  seen : r.2 = .connected :: .connecting :: rounds k

/-- What a signal leaves of a call whose last attempt, attempt `n`, fails. -/
structure GivenUp (A : Approach β) (n t : Nat) (r : (Trial Unit × Worker β) × List Link) :
    Prop where
  outcome : r.1.1 = .cancelled
  now : r.1.2.now = A.worker.now + t
  dials : r.1.2.dials = A.dials (n + 1)
  link : r.1.2.link = .disconnected
  seen : r.2 = rounds (n + 1)

/-- A call whose last attempt, attempt `n`, is never answered. -/
structure Pending (A : Approach β) (n : Nat) (r : (Trial Unit × Worker β) × List Link) : Prop where
  outcome : r.1.1 = A.series.underway n
  dials : r.1.2.dials = A.dials (n + 1)
  link : r.1.2.link = .connecting
  seen : r.2 = .connecting :: rounds n

theorem Shows.arrived (shows : A.Shows told (.succeeded (k + 1) ()) t s) : A.Arrived k t s :=
  ⟨shows.stage, shows.now, shows.dials, shows.link, shows.seen⟩

theorem Shows.givenUp (shows : A.Shows told (A.series.resting n) t s) :
    A.GivenUp n t ((.cancelled, s.1.2), rounds (n + 1)) :=
  ⟨rfl, shows.now, shows.dials, shows.link, rfl⟩

theorem Shows.pending (shows : A.Shows told (A.series.underway n) time s) : A.Pending n s :=
  ⟨shows.stage, shows.dials, shows.link, shows.seen⟩

/-- **The first success ends the call**, if the attempt begins before the signal. -/
theorem within_of_succeeds {fuel : Nat} {rest : Worker β → Nat}
    (succeeds : A.series.Succeeds k t ()) (clear : A.series.Clear signal)
    (begun : Before (A.series.begins k) signal) (enough : 5 * k + 3 ≤ fuel)
    (ample : ∀ w, 4 ≤ rest w) : A.Arrived k t (A.within fuel rest signal) := by
  obtain ⟨comes, ends, answer⟩ := succeeds
  by_cases before : Before t signal
  · obtain ⟨s, shows, answered⟩ := carriedOut.exists_answered shows_start comes ends before
    obtain ⟨s', accepted, shows'⟩ := shows.accept ends answer
    have ended : s'.1.1.isOver = true := by rw [shows'.stage]; rfl
    rw [within_ends (answered.trans (.act accepted)) ended enough]
    exact shows'.arrived
  · -- the signal finds the attempt on its way, and it is waited for
    obtain ⟨c, rfl, lt⟩ : ∃ c, signal = some c ∧ c < t := by
      simp only [Before, not_forall] at before
      obtain ⟨c, rfl, late⟩ := before
      have other : t ≠ c := fun same => (clear c rfl k comes).2 (same ▸ ends)
      exact ⟨c, rfl, by omega⟩
    have late (t' : Nat) (ends' : A.series.ends? k = some t') : c < t' :=
      Option.some.inj (ends.symm.trans ends') ▸ lt
    obtain ⟨s, shows, steps, enough, told⟩ :=
      heard_underway comes (begun c rfl) late (by omega : _ ≤ fuel) ample
    obtain ⟨s₁, shows₁, answered⟩ :=
      (observed true).answered shows ends (Nat.le_of_lt lt) (before_none t)
    obtain ⟨s₂, accepted, shows₂⟩ := shows₁.accept ends answer
    have ended : s₂.1.1.isOver = true := by rw [shows₂.stage]; rfl
    rw [told, runUntil_ends (answered.trans (.act accepted)) ended (by omega)]
    exact shows₂.arrived

/-- **The signal ends the call**, if the last attempt fails: at once in the pause behind it, but
while the attempt is on its way only at its end. -/
theorem within_of_fails {c fuel : Nat} {rest : Worker β → Nat} (clear : A.series.Clear (some c))
    (begun : A.series.Begun (some c) (n + 1)) (fails : A.series.Fails n)
    (ends : A.series.ends? n = some t) (enough : 5 * n + 4 ≤ fuel) (ample : ∀ w, 4 ≤ rest w) :
    A.GivenUp n (max c t) (A.within fuel rest (some c)) := by
  obtain ⟨comes, before⟩ := (begun n).mp n.lt_succ_self
  have other : t ≠ c := fun same => (clear c rfl n comes).2 (same ▸ ends)
  rcases Nat.lt_or_gt_of_ne other with early | late
  · -- the signal comes in the pause
    obtain ⟨s, shows, rested⟩ :=
      carriedOut.exists_rested shows_start comes fails ends (before_some early)
    obtain ⟨s₁, shows₁, stops⟩ :=
      carriedOut.stop_resting shows (Nat.le_of_lt early) (begun.lt_begins clear fails)
    obtain ⟨s₂, shows₂, steps, enough, told⟩ :=
      shows₁.heard rfl (rested.runUntil_eq stops (by omega : _ ≤ fuel)) ample
    rw [told, runUntil_ends (.act shows₂.quit) rfl (by omega), Nat.max_eq_left (Nat.le_of_lt early)]
    exact shows₂.givenUp
  · -- the signal finds the attempt on its way, and it is waited for
    have behind (t' : Nat) (ends' : A.series.ends? n = some t') : c < t' :=
      Option.some.inj (ends.symm.trans ends') ▸ late
    obtain ⟨e, failure⟩ := fails.2
    obtain ⟨s, shows, steps, enough, told⟩ :=
      heard_underway comes (before c rfl) behind (by omega : _ ≤ fuel) ample
    obtain ⟨s₁, shows₁, answered⟩ :=
      (observed true).answered shows ends (Nat.le_of_lt late) (before_none t)
    obtain ⟨s₂, refused, shows₂⟩ := shows₁.refuse ends failure
    have leads := answered.trans (.trans (.act refused) (.act shows₂.quit))
    rw [told, runUntil_ends leads rfl (by omega), Nat.max_eq_right (Nat.le_of_lt late)]
    exact shows₂.givenUp

/-- **An attempt that is never answered is waited for**, signal or not. -/
theorem within_of_silent {fuel : Nat} {rest : Worker β → Nat} (comes : A.series.Comes n)
    (before : Before (A.series.begins n) signal) (silent : A.series.ends? n = none)
    (enough : 5 * n + 2 ≤ fuel) (ample : ∀ w, 4 ≤ rest w) :
    A.Pending n (A.within fuel rest signal) := by
  cases signal with
  | none =>
    obtain ⟨s, shows, asked⟩ := carriedOut.exists_asked shows_start comes before
    have stays (fuel : Nat) (_ : 0 ≤ fuel) := (observed false).stay shows silent fuel
    have same : A.within fuel rest none = s := asked.runUntil_eq stays (by omega)
    rw [same]
    exact shows.pending
  | some c =>
    have late (t : Nat) (ends : A.series.ends? n = some t) : c < t :=
      absurd (silent.symm.trans ends) (by simp)
    obtain ⟨s, shows, steps, -, told⟩ := heard_underway comes (before c rfl) late enough ample
    have stays : A.within fuel rest (some c) = s :=
      told.trans ((observed true).stay shows silent steps)
    rw [stays]
    exact shows.pending

end Clock

/-- **A call that is on time.** -/
structure OnTime (A : Approach β) (signal : Option Nat) (r : (Trial Unit × Worker β) × List Link) :
    Prop where
  /-- The attempts that come before the signal are made, and no others. -/
  dials : ∃ n, A.series.Begun signal n ∧ r.1.2.dials = A.dials n
  /-- A first success ends the call, also if the signal has come while it was on its way. -/
  arrived : ∀ k t, A.series.Succeeds k t () → Before (A.series.begins k) signal → A.Arrived k t r
  /-- If the last attempt fails, the signal ends the call, but not before that attempt has ended. -/
  givenUp : ∀ c n t, signal = some c → A.series.Begun signal (n + 1) → A.series.Fails n →
    A.series.ends? n = some t → A.GivenUp n (max c t) r
  /-- An attempt that is never answered is waited for, signal or not. -/
  pending : ∀ n, A.series.Comes n → Before (A.series.begins n) signal → A.series.ends? n = none →
    A.Pending n r
  /-- There is no other way for a call to go. -/
  ended : r.1.1.isOver = true ∨
    ∃ n, A.series.Comes n ∧ Before (A.series.begins n) signal ∧ A.series.ends? n = none

theorem onTime_within {signal : Option Nat} {f fuel : Nat} {rest : Worker β → Nat}
    (clear : A.series.Clear signal) (bounded : A.series.Bounded signal f)
    (enough : 5 * f + 4 ≤ fuel) (ample : ∀ w, 4 ≤ rest w) :
    A.OnTime signal (A.within fuel rest signal) := by
  have arrived (k t : Nat) (succeeds : A.series.Succeeds k t ())
      (begun : Before (A.series.begins k) signal) : A.Arrived k t (A.within fuel rest signal) := by
    have le : k ≤ f := bounded k succeeds.1 begun
    exact within_of_succeeds succeeds clear begun (by omega) ample
  have givenUp (c n t : Nat) (told : signal = some c) (begun : A.series.Begun signal (n + 1))
      (fails : A.series.Fails n) (ends : A.series.ends? n = some t) :
      A.GivenUp n (max c t) (A.within fuel rest signal) := by
    subst told
    obtain ⟨comes, before⟩ := (begun n).mp n.lt_succ_self
    have le : n ≤ f := bounded n comes before
    exact within_of_fails clear begun fails ends (by omega) ample
  have pending (n : Nat) (comes : A.series.Comes n) (before : Before (A.series.begins n) signal)
      (silent : A.series.ends? n = none) : A.Pending n (A.within fuel rest signal) := by
    have le : n ≤ f := bounded n comes before
    exact within_of_silent comes before silent (by omega) ample
  obtain ⟨n, -, comes, before, begun⟩ := Series.exists_last clear bounded
  -- the cases are what becomes of the last attempt before the signal
  cases ends : A.series.ends? n with
  | none =>
    have waits := pending n comes before ends
    exact ⟨⟨n + 1, begun, waits.dials⟩, arrived, givenUp, pending, Or.inr ⟨n, comes, before, ends⟩⟩
  | some t =>
    rcases comes.fails_or_succeeds ends with fails | ⟨⟨⟩, succeeds⟩
    · cases told : signal with
      | none =>
        -- without a signal there would be another attempt
        have next := (begun (n + 1)).mpr ⟨comes.succ fails, told ▸ before_none _⟩
        exact absurd next (Nat.lt_irrefl _)
      | some c =>
        have ended := givenUp c n t told begun fails ends
        subst told
        exact ⟨⟨n + 1, begun, ended.dials⟩, arrived, givenUp, pending,
          Or.inl (by rw [ended.outcome]; rfl)⟩
    · have ended := arrived n t succeeds before
      exact ⟨⟨n + 1, begun, ended.dials⟩, arrived, givenUp, pending,
        Or.inl (by rw [ended.outcome]; rfl)⟩

/-- The clock passes attempt `n`. -/
def Passes (A : Approach β) (signal : Option Nat) (n : Nat) : Prop :=
  ∃ fuel w, A.clock.runUntil (A.series.limit signal) fuel (A.start false)
      = ((A.series.underway n, w), .connecting :: rounds n) ∧
    w.now = A.worker.now + A.series.begins n ∧ w.dials = A.dials (n + 1)

theorem passes {signal : Option Nat} (comes : A.series.Comes n)
    (before : Before (A.series.begins n) signal) : A.Passes signal n := by
  obtain ⟨s, shows, used, -, leads⟩ := carriedOut.exists_asked shows_start comes before
  exact ⟨used + 0, s.1.2, (leads 0).trans shows.state_eq, shows.now, shows.dials⟩

/-! ### Connecting -/

/-- **`Worker.connect` is such a call**, and it makes no difference that it is watched. -/
theorem call_eq_connect (A : Approach β) (signal : Option Nat) :
    (A.call signal).1 = A.worker.connect A.connector A.interval signal := by
  cases signal with
  | none => exact Clockwork.runUntil_watched _ _ _ _ _
  | some c =>
    cases c with
    | zero => exact Clockwork.runUntil_watched _ _ _ _ _
    | succ c =>
      have same := Clockwork.runUntil_watched A.plain (·.2.link)
        (some (A.worker.now + Pause.length (c + 1))) (A.worker.workload A.connector) (A.start false)
      -- both do the same until the signal
      show (
        let r := A.clock.runUntil (some (A.worker.now + Pause.length (c + 1)))
          (A.worker.workload A.connector) (A.start false)
        if r.1.1.isOver then r
        else A.clock.runUntil none (r.1.2.workload A.connector)
          ((r.1.1, { r.1.2 with cancelled := true }), r.2)).1
        = (
        let s := A.plain.runUntil (some (A.worker.now + Pause.length (c + 1)))
          (A.worker.workload A.connector) (A.start false).1
        if s.1.isOver then s
        else A.plain.runUntil none (s.2.workload A.connector)
          (s.1, { s.2 with cancelled := true }))
      rw [← same]
      -- and behind it, if the call has not ended
      generalize A.clock.runUntil (some (A.worker.now + Pause.length (c + 1)))
        (A.worker.workload A.connector) (A.start false) = r
      cases ended : r.1.1.isOver with
      | true => simp only [ended, if_true]
      | false =>
        simp only [ended, Bool.false_eq_true, if_false]
        exact Clockwork.runUntil_watched _ _ _ _ _

/-- What is left of a call if the signal is there from the beginning. -/
structure Declined (A : Approach β) (r : (Trial Unit × Worker β) × List Link) : Prop where
  outcome : r.1.1 = .cancelled
  now : r.1.2.now = A.worker.now
  dials : r.1.2.dials = A.worker.dials
  link : r.1.2.link = .disconnected
  seen : r.2 = [.disconnected]

theorem call_declined (A : Approach β) : A.Declined (A.call (some 0)) := by
  have act : A.plain.act? (A.start true).1
      = some (.cancelled, { (A.start true).1.2 with link := .disconnected }) := rfl
  have leads : A.clock.Leads none 1 (A.start true) _ := .watch act rfl
  have ended : A.call (some 0) = _ := runUntil_ends leads rfl (Nat.le_add_left 1 _)
  rw [ended]
  exact ⟨rfl, rfl, rfl, rfl, rfl⟩

end Approach

/-! ### Given answers -/

namespace Scripted

/-- A call to a broker with given answers. -/
abbrev approach (transport client : String) (interval : Nat) (w : Worker Broker) :
    Approach Broker :=
  ⟨connector transport client, interval, w⟩

section Approach

variable {transport client : String} {interval : Nat} {w : Worker Broker} {n : Nat}

theorem approach_after (n : Nat) : (approach transport client interval w).after n
    = { w.broker with
        connects := w.broker.connects.drop n
        connected := w.broker.connected + n } := by
  induction n with
  | zero => rfl
  | succ n ih =>
    rw [Approach.after, ih, ← List.drop_drop, ← next_rest (w.broker.connected + n + 1)]
    rfl

/-- The `n`-th answer that is laid down is the reply to the `n`-th attempt. -/
theorem approach_reply (n : Nat) : (approach transport client interval w).reply n
    = let r := (next (w.broker.connected + n + 1) (w.broker.connects.drop n)).1
      ⟨r.delay, r.answer.map fun _ => (), r.events⟩ := by
  rw [Approach.reply, approach_after]
  rfl

theorem approach_fails (fails : (approach transport client interval w).series.Fails n) :
    ∃ o, w.broker.connects[n]? = some o ∧ o.fails = true := by
  obtain ⟨-, e, failure⟩ := fails
  replace failure := (congrArg Reply.answer (approach_reply n)).symm.trans failure
  -- only the result is left out of the answer
  cases laid : (next (w.broker.connected + n + 1) (w.broker.connects.drop n)).1.answer with
  | ok number => simp [laid, Except.map] at failure
  | error e => exact exists_failure laid

theorem approach_bounded (signal : Option Nat) :
    (approach transport client interval w).series.Bounded signal
      ((connector transport client).failures w.broker) := by
  intro n comes _
  calc n
    _ ≤ w.broker.connects.countP (·.fails) := le_countP fun j lt => approach_fails (comes j lt)
    _ ≤ (connector transport client).failures w.broker := Nat.le_add_right _ _

end Approach

end Scripted

/-! ### The result -/

/-- **Connecting is on time.** Whatever the broker, a call is on time if only so many attempts fail
before the signal as the steps suffice for. That is so if some attempt does not fail, or if there is
a signal and there are pauses; and in any case the clock passes every attempt that comes before the
signal, so a call whose attempts all fail has no end without one. If the signal is there from the
beginning, no attempt is made. A broker with given answers is such a broker, for every list of
answers, every interval and every signal that does not come just when an attempt begins or ends. -/
theorem connect_on_time {β : Type} :
    (∀ (A : Approach β) (signal : Option Nat),
      (∀ f fuel rest, A.series.Clear signal → A.series.Bounded signal f → 5 * f + 4 ≤ fuel →
        (∀ w, 4 ≤ rest w) → A.OnTime signal (A.within fuel rest signal)) ∧
      (∀ k, ¬A.series.Fails k → A.series.Bounded signal k) ∧
      (∀ c, signal = some c → 0 < A.interval → A.series.Bounded signal c) ∧
      ∀ n, A.series.Comes n → Before (A.series.begins n) signal → A.Passes signal n) ∧
    (∀ A : Approach β,
      (∀ signal, (A.call signal).1 = A.worker.connect A.connector A.interval signal) ∧
      A.Declined (A.call (some 0))) ∧
    ∀ (transport client : String) (interval : Nat) (w : Worker Scripted.Broker)
      (signal : Option Nat),
      let A := Scripted.approach transport client interval w
      (∀ n, A.reply n =
        let r := (Scripted.next (w.broker.connected + n + 1) (w.broker.connects.drop n)).1
        ⟨r.delay, r.answer.map fun _ => (), r.events⟩) ∧
      (A.series.Clear signal → ∀ fuel rest, w.workload A.connector ≤ fuel → (∀ w, 4 ≤ rest w) →
        A.OnTime signal (A.within fuel rest signal)) ∧
      (A.series.Clear (signal.map Pause.length) →
        A.OnTime (signal.map Pause.length) (A.call signal)) := by
  refine ⟨fun A signal => ⟨fun f fuel rest => Approach.onTime_within,
    fun k stands => Series.bounded_of_not_fails stands signal, ?_,
    fun n => Approach.passes⟩,
    fun A => ⟨A.call_eq_connect, A.call_declined⟩, ?_⟩
  · rintro c rfl pauses
    exact Series.bounded_of_pauses pauses c
  · intro transport client interval w signal A
    have within (signal : Option Nat) (clear : A.series.Clear signal) (fuel : Nat)
        (rest : Worker Scripted.Broker → Nat) (enough : w.workload A.connector ≤ fuel)
        (ample : ∀ w, 4 ≤ rest w) : A.OnTime signal (A.within fuel rest signal) := by
      have workload : 5 * A.connector.failures w.broker + 4 ≤ w.workload A.connector :=
        Nat.add_le_add_left (by decide) _
      exact Approach.onTime_within clear (Scripted.approach_bounded signal)
        (Nat.le_trans workload enough) ample
    refine ⟨Scripted.approach_reply, within signal, fun clear => ?_⟩
    have ample (w : Worker Scripted.Broker) : 4 ≤ w.workload A.connector :=
      Nat.le_trans (by decide) (Nat.le_add_left 8 _)
    have run := within _ clear (w.workload A.connector) (·.workload A.connector) (Nat.le_refl _)
      ample
    rcases signal with _ | _ | c
    · exact run
    · -- the first attempt begins at once, so the signal does not
      exact absurd rfl (clear 0 rfl 0 .zero).1
    · exact run

/-! ### A rehearsal -/

namespace Scripted.Rehearsal

/-- Connects to a broker with given answers. -/
def dial (interval : Nat) (answers : List Outcome) : Approach Broker :=
  approach "nats" "rehearsal" interval (.new (.new answers []) .connected)

/-- What comes of connecting; the signal comes `signal` milliseconds after the call. -/
def reached (A : Approach Broker) (signal : Option Nat) : Trial Unit × Worker Broker :=
  A.worker.connect A.connector A.interval signal

/-- **Nothing waits for more than thirty years**: the attempt after a pause that is to take longer
begins too early, and an answer that is to take longer arrives too early. -/
theorem connects_early :
    ((reached (dial 946080000001 [.failure 0 (.connection "down")]) none).1 = .succeeded 2 () ∧
      (reached (dial 946080000001 [.failure 0 (.connection "down")]) none).2.dials.map (·.1)
        ≠ [0 + (0 + 946080000001), 0]) ∧
    (reached (dial 100 [.success 946080000001 none]) none).1 = .succeeded 1 () ∧
      (reached (dial 100 [.success 946080000001 none]) none).2.now ≠ 0 + 946080000001 :=
  ⟨⟨rfl, by decide⟩, rfl, by decide⟩

theorem dial_succeeds : (dial 100 answers).series.Succeeds 2 215 () := by
  refine ⟨fun j lt => ?_, rfl, rfl⟩
  rcases j with _ | _ | j
  · exact ⟨rfl, _, rfl⟩
  · exact ⟨rfl, _, rfl⟩
  · omega

theorem dial_comes {n : Nat} (comes : (dial 100 answers).series.Comes n) : n ≤ 2 :=
  Series.bounded_of_not_fails dial_succeeds.not_fails none n comes (before_none _)

theorem dial_clear {c : Nat} (clear : ∀ n ≤ 2, (dial 100 answers).series.begins n ≠ c ∧
    (dial 100 answers).series.ends? n ≠ some c) : (dial 100 answers).series.Clear (some c) := by
  rintro c' hc n comes
  obtain rfl := Option.some.inj hc
  exact clear n (dial_comes comes)

/-- The first two attempts are the only ones that begin before `c`. -/
theorem dial_begun {c : Nat} (early : 105 < c) (late : c < 212) :
    (dial 100 answers).series.Begun (some c) 2 := by
  have begins : (dial 100 answers).series.begins 1 = 105 ∧
      (dial 100 answers).series.begins 2 = 212 := ⟨rfl, rfl⟩
  refine fun j => ⟨fun lt => ⟨dial_succeeds.1.mono (Nat.le_of_lt lt), before_some ?_⟩, fun hj => ?_⟩
  · have le := Series.begins_mono (S := (dial 100 answers).series) (Nat.le_of_lt_succ lt)
    omega
  · have le := dial_comes hj.1
    refine Nat.lt_of_le_of_ne le fun same => ?_
    have := hj.2 c rfl
    rw [same] at this
    omega

theorem connects_on_time :
    ((reached (dial 100 answers) none).1 = .succeeded 3 () ∧
      (reached (dial 100 answers) none).2.now = 215) ∧
    ((reached (dial 100 answers) (some 150)).1 = .cancelled ∧
      (reached (dial 100 answers) (some 150)).2.now = 150) ∧
    ((reached (dial 100 answers) (some 108)).1 = .cancelled ∧
      (reached (dial 100 answers) (some 108)).2.now = 112) ∧
    ((reached (dial 100 answers) (some 213)).1 = .succeeded 3 () ∧
      (reached (dial 100 answers) (some 213)).2.now = 215) ∧
    ((reached (dial 100 answers) (some 0)).1 = .cancelled ∧
      ((dial 100 answers).call (some 0)).2 = [.disconnected]) ∧
    ((dial 100 answers).within 14 (fun _ => 4) (some 213)).2
      = [.connected, .connecting, .disconnected, .connecting, .disconnected, .connecting] := by
  obtain ⟨general, calls, scripted⟩ := connect_on_time (β := Scripted.Broker)
  obtain ⟨run, declined⟩ := calls (dial 100 answers)
  have onTime (signal : Option Nat) : (dial 100 answers).series.Clear (signal.map Pause.length) →
      (dial 100 answers).OnTime (signal.map Pause.length) ((dial 100 answers).call signal) :=
    (scripted "nats" "rehearsal" 100 (.new (.new answers []) .connected) signal).2.2
  have fails : (dial 100 answers).series.Fails 1 := dial_succeeds.1 1 (by decide)
  -- no signal, one in a pause, and one while an attempt is on its way that fails
  have free := (onTime none (fun c hc => absurd hc (by simp))).arrived 2 215 dial_succeeds
    (before_none _)
  have paused := (onTime (some 150) (dial_clear (by decide))).givenUp 150 1 112 rfl
    (dial_begun (by decide) (by decide)) fails rfl
  have failed := (onTime (some 108) (dial_clear (by decide))).givenUp 108 1 112 rfl
    (dial_begun (by decide) (by decide)) fails rfl
  -- one while an attempt is on its way that succeeds
  have clear : (dial 100 answers).series.Clear (some 213) := dial_clear (by decide)
  have begins : Before ((dial 100 answers).series.begins 2) (some 213) := before_some (by decide)
  have late := (onTime (some 213) clear).arrived 2 215 dial_succeeds begins
  have bounded := (general (dial 100 answers) (some 213)).2.1 2 dial_succeeds.not_fails
  have within := (general (dial 100 answers) (some 213)).1 2 14 (fun _ => 4) clear bounded
    (by decide) (fun _ => Nat.le_refl 4)
  simp only [reached, ← run]
  exact ⟨⟨free.outcome, free.now⟩, ⟨paused.outcome, paused.now⟩, ⟨failed.outcome, failed.now⟩,
    ⟨late.outcome, late.now⟩, ⟨declined.outcome, declined.seen⟩,
    (within.arrived 2 215 dial_succeeds begins).seen⟩

end Scripted.Rehearsal

end AuditRelay
