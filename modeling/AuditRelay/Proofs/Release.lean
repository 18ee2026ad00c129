import AuditRelay.Proofs.Backpressure
import AuditRelay.Proofs.Lifecycle

/-!
# The end of a dispatcher that was told to give up

A dispatcher that was told to give up notices it while it waits for a log, while a message is on its
way and during every pause. It does not notice it while it waits for the answer to an attempt to
connect: that answer has to come first. So it may be stuck in one place only, in an attempt to
connect that is never answered (`Hanging`).

Anywhere else it ends at once, and then it has released everyone (`Released`): the receiver of the
queue is gone, nobody waits any more, and everyone whose log was not accepted learns that the queue
is closed. A producer that waits for a dispatcher that hangs waits for ever.
-/

namespace AuditRelay

open History

/-- Whether a stage waits for something that may still come. -/
def Stage.Pending : Stage → Prop
  | .connecting t => t.isOver = false
  | .publishing _ _ t => t.isOver = false
  | _ => True

namespace Dispatcher

variable {β : Type} {a : Assignment β} {C : Nat} {ids : IdStream} {h seen : List Sight}
  {d d' : Dispatcher β}

/-! ### Where a dispatcher can be stuck -/

theorem Turn.pending (turn : Turn a d seen d') : d'.stage.Pending := by
  cases turn with
  | connecting stage dial goesOn => exact goesOn
  | connected stage dial => exact trivial
  | acknowledged stage arrived answer => exact trivial
  | _ => rfl

theorem Ending.pending (ending : Ending d d') : d'.stage.Pending := by
  obtain ⟨time, hstopped⟩ := ending.stopped
  rw [hstopped]
  exact trivial

/-- A dispatcher never waits for what is over. -/
theorem Run.pending {broker : β} {q : Queue Log} (run : Run a (.new broker q ids) h d) :
    d.stage.Pending := by
  have begin : (Dispatcher.new broker q ids).stage.Pending := trivial
  refine run.keeps (P := fun _ d => d.stage.Pending) begin fun hp step => ?_
  cases step with
  | start stage isOpen => rfl
  | turn turn => exact turn.pending
  | ending silent ending => exact ending.pending
  | _ => exact hp

/-- An attempt to connect that is under way. -/
structure Asking (d : Dispatcher β) (made since : Nat) (reply : Reply Unit) : Prop where
  stage : d.stage = .connecting (.asked made since reply)
  unanswered : reply.hasArrived since d.worker.now = false

/-- **Where the signal is not noticed.** A dispatcher that was told to give up and can do nothing now
has ended, or it waits for the answer to an attempt to connect. -/
theorem stopped_or_asking (pending : d.stage.Pending) (started : d.stage ≠ .dormant)
    (cancelled : d.worker.cancelled = true) (none : (clockwork a).act? d = none) :
    (∃ time, d.stage = .stopped time) ∨ ∃ made since reply, d.Asking made since reply := by
  obtain ⟨hquit, hproceed⟩ := Option.or_eq_none_iff.mp none
  cases hs : d.stage with
  | dormant => exact absurd hs started
  | stopped time => exact Or.inl ⟨time, rfl⟩
  | idle =>
    -- the signal is looked at before the queue
    rw [quit?, hs] at hquit
    simp only [cancelled, if_true] at hquit
    cases hquit
  | publishing l m t =>
    -- the signal is noticed whatever becomes of the message
    rw [hs] at pending
    have hnot : t.isOver = false := pending
    rw [quit?, hs] at hquit
    simp only [Worker.quitPost?, cancelled, hnot] at hquit
    cases hquit
  | connecting t =>
    rw [hs] at pending
    rw [quit?, hs] at hquit
    rw [proceed?, hs] at hproceed
    -- the signal is noticed before an attempt and in the pause after it, but not in between
    cases t with
    | ready made =>
      simp only [Worker.dial?, cancelled, if_true] at hproceed
      cases hproceed
    | paused made wake =>
      simp only [Worker.quitDial?, cancelled, if_true] at hquit
      cases hquit
    | asked made since reply =>
      refine Or.inr ⟨made, since, reply, hs, Bool.eq_false_iff.mpr fun arrived => ?_⟩
      simp only [Worker.dial?, arrived, if_true] at hproceed
      cases ha : reply.answer with
      | ok u =>
        rw [ha] at hproceed
        cases hproceed
      | error e =>
        rw [ha] at hproceed
        cases hproceed
    | succeeded made r => cases pending
    | cancelled => cases pending

/-- An attempt to connect is never answered. -/
def Hanging (d : Dispatcher β) : Prop :=
  ∃ made since reply, d.stage = .connecting (.asked made since reply) ∧ reply.delay = none

/-- **Where a dispatcher is stuck** that was told to give up: nowhere but in an attempt to connect
that is never answered. -/
theorem stopped_or_hanging (pending : d.stage.Pending) (started : d.stage ≠ .dormant)
    (cancelled : d.worker.cancelled = true)
    (stuck : ∀ t, (clockwork a).act? (d.waitUntil t) = none) :
    (∃ time, d.stage = .stopped time) ∨ d.Hanging := by
  have wait (t : Nat) := stopped_or_asking (d := d.waitUntil t) pending started cancelled (stuck t)
  rcases wait 0 with hstopped | ⟨made, since, reply, hasking⟩
  · exact Or.inl hstopped
  · refine Or.inr ⟨made, since, reply, hasking.stage, ?_⟩
    by_contra answered
    obtain ⟨delay, hdelay⟩ := Option.ne_none_iff_exists'.mp answered
    -- an answer that comes some time is there after that time
    rcases wait (since + delay) with ⟨time, hstopped⟩ | ⟨made', since', reply', hlater⟩
    · exact absurd (hasking.stage.symm.trans hstopped) (by simp)
    · have harrived : reply.hasArrived since (max d.worker.now (since + delay)) = true := by
        rw [Reply.hasArrived, hdelay]
        exact decide_eq_true (Nat.le_max_right ..)
      have hsame := Stage.connecting.inj (hasking.stage.symm.trans hlater.stage)
      obtain ⟨-, rfl, rfl⟩ := Trial.asked.inj hsame
      exact absurd (harrived.symm.trans hlater.unanswered) (by simp)

/-! ### What the end releases -/

/-- **Everyone is released.** -/
structure Released (h : List Sight) (d : Dispatcher β) : Prop where
  /-- The dispatcher has ended. -/
  stopped : ∃ time, d.stage = .stopped time
  /-- The receiver of the queue is gone. -/
  closed : d.queue.isOpen = false
  /-- Nobody waits, and no place is kept. -/
  alone : d.queue.waiting = [] ∧ d.queue.kept = []
  /-- Everyone who has asked, was not accepted and has not given up learns that the queue is
  closed. -/
  told : ∀ t ∈ askers h, t ∉ entrants h → .withdrawn t ∉ h →
    ∀ p : Pipeline β, p.dispatcher = d → p.answer? t = some (.error .queueClosed)
  /-- And so does everyone who comes later, also from a recorder. -/
  later : ∀ t stays l, (d.submit t stays l).1 = .closed
  recorded : ∀ r : Recorder β, r.pipeline.dispatcher = d → r.pipeline.disabled = false →
    ∀ l, (r.record l).1 = some (.error .queueClosed) ∧
      (r.call l).1.receipt.ending = some (.error .queueClosed)

theorem Run.released {broker : β} {q : Queue Log} (capacity : Queue.new? C = some q)
    (run : Run a (.new broker q ids) h d) (stopped : ∃ time, d.stage = .stopped time) :
    Released h d := by
  have hs : Stock C h d := run.stock capacity
  have ha : Attended h d := run.attended capacity
  obtain ⟨time, hstopped⟩ := stopped
  -- a dispatcher that ends drops the receiver, and a queue without one keeps nobody
  have closed : d.queue.isOpen = false := (run.receiving capacity).stopped time hstopped
  obtain ⟨-, hkept, hwaiting⟩ := hs.sound.closed closed
  exact {
    stopped := ⟨time, hstopped⟩
    closed := closed
    alone := ⟨hwaiting, hkept⟩
    told := fun t asked left stays p dispatcher =>
      ha.answer? dispatcher (ha.turned_away hs closed asked left stays)
    later := fun t stays l => (submit_closed closed t stays l).2
    recorded := fun r dispatcher enabled l => record_closed closed dispatcher enabled l }

theorem Hanging.not_released (hanging : d.Hanging) : ¬ Released h d := by
  intro released
  obtain ⟨made, since, reply, hstage, -⟩ := hanging
  obtain ⟨time, hstopped⟩ := released.stopped
  exact absurd (hstage.symm.trans hstopped) (by simp)

/-- **The release** of those who have to do with a dispatcher that was told to give up. -/
structure Release (a : Assignment β) (h : List Sight) (d : Dispatcher β) : Prop where
  /-- When it can do nothing at this moment, everyone is released, unless the answer to an attempt
  to connect is still on its way: no message, no pause and no empty queue keeps it. -/
  atOnce : (clockwork a).act? d = none →
    Released h d ∨ ∃ made since reply, d.Asking made since reply
  /-- When it will never do anything, everyone is released, unless that answer never comes. -/
  ever : (∀ t, (clockwork a).act? (d.waitUntil t) = none) → (Released h d ↔ ¬ d.Hanging)

/-- **Giving up releases everyone**, except from an attempt to connect that is not answered. -/
theorem release {broker : β} {q : Queue Log} (capacity : Queue.new? C = some q)
    (run : Run a (.new broker q ids) h d) (started : d.stage ≠ .dormant)
    (cancelled : d.worker.cancelled = true) : Release a h d where
  atOnce none :=
    (stopped_or_asking run.pending started cancelled none).imp_left (run.released capacity)
  ever stuck := by
    constructor
    · exact fun released hanging => hanging.not_released released
    · intro answered
      have hend := stopped_or_hanging run.pending started cancelled stuck
      exact run.released capacity (hend.resolve_right answered)

namespace Rehearsal

/-- The rehearsal is broken off while a message is on its way. -/
def brokenOff : List Sight × Dispatcher Scripted.Broker :=
  play assignment dispatcher (moves ++ [.cancel, .quit])

end Rehearsal

theorem rehearsal_release :
    (Rehearsal.brokenOff.2.worker.cancelled, Rehearsal.brokenOff.2.stoppedAt?,
        decided Rehearsal.brokenOff.1) = (true, some 200000, [0, 1, 2]) ∧
      Release Rehearsal.assignment Rehearsal.brokenOff.1 Rehearsal.brokenOff.2 :=
  ⟨rfl, release Rehearsal.capacity (run_play ..) Stage.noConfusion rfl⟩

/-! ### A producer that waits for ever -/

namespace Rehearsal

/-- One place. -/
def narrow : Queue Log := ⟨1, [], [], [], true⟩

/-- A dispatcher whose broker never answers an attempt to connect. -/
def unanswered : Dispatcher Scripted.Broker :=
  .new (.new [.silence] []) narrow .counted

/-- The dispatcher tries to connect, the first log fills the queue, and the producer of the second
one waits; then the signal to give up is given. -/
def hung : List Sight × Dispatcher Scripted.Broker :=
  play assignment unanswered
    [.start, .proceed, .submit 0 true default, .submit 1 true default, .cancel]

/-- **Giving up does not release a producer** from a dispatcher that hangs: nothing will happen any
more, the receiver is still there, and the producer still waits. -/
theorem producer_waits :
    Run assignment unanswered hung.1 hung.2 ∧ hung.2.worker.cancelled = true ∧
      hung.2.stage ≠ .dormant ∧ (∀ t, (clockwork assignment).act? (hung.2.waitUntil t) = none) ∧
      hung.2.queue.isOpen = true ∧ hung.2.queue.waiting = [⟨1, some default⟩] ∧
      decisions hung.1 = [(0, true)] ∧ ¬ Released hung.1 hung.2 := by
  have hanging : hung.2.Hanging := ⟨1, 0, ⟨none, .ok (), []⟩, rfl, rfl⟩
  exact ⟨run_play .., rfl, Stage.noConfusion, fun t => rfl, rfl, rfl, rfl, hanging.not_released⟩

end Rehearsal

end Dispatcher

/-! ### Pipelines that were shut down -/

namespace Pipeline

variable {ι β : Type} {g : Supply ι β} {s : Settings} {h : List (Episode ι)} {p₀ p : Pipeline β}
  {a : Assignment β}

/-- **A pipeline that was started and shut down** is stuck only when everyone is released, or in an
attempt to connect that is never answered. -/
theorem Run.released_or_hanging {broker : β} {ids : IdStream} {around : Surroundings}
    (new : Pipeline.new? s broker ids around = some p₀) (run : Run g [] p₀ h p)
    (assignment : p.assignment = some a) (shutDown : .shutDown ∈ h)
    (stuck : ∀ t, (Dispatcher.clockwork a).act? (p.dispatcher.waitUntil t) = none) :
    Dispatcher.Released (inner h) p.dispatcher ∨ p.dispatcher.Hanging := by
  obtain ⟨hcoherent, hflags⟩ := run.flags new
  have works : p.WorksFor a := fun a' h => (Option.some.inj (assignment.symm.trans h)).symm
  have hrun := run.dispatcher new works
  obtain ⟨q, capacity, rfl⟩ := Option.map_eq_some_iff.mp new
  -- the dispatcher is at work, because the pipeline was started
  have started : p.dispatcher.stage ≠ .dormant := fun dormant =>
    Option.some_ne_none a (assignment.symm.trans (hcoherent.dormant.mp dormant))
  have cancelled : p.dispatcher.worker.cancelled = true := hflags.cancelled.mpr shutDown
  exact (Dispatcher.stopped_or_hanging hrun.pending started cancelled stuck).imp_left
    (hrun.released capacity)

end Pipeline

end AuditRelay
