import AuditRelay.Proofs.Ledger

/-!
# Dispatchers and publishers as dealers

Two kinds of systems make calls to a broker: a dispatcher, and publishers that share a worker and
publish one log after another, each log with a signal of its own. Both are dealers
(`Dispatcher.dealer`, `Publishers.dealer`), so their counts are those of their calls, and
`conservation` says so of both.

`Publishers.run_publish` ties the publishers to the clock: what `Worker.publish` does in time is a
run of them.
-/

namespace AuditRelay

open History

variable {β : Type}

/-! ### A dispatcher -/

namespace Dispatcher

variable {a : Assignment β} {h seen : List Sight} {d d' : Dispatcher β}

/-- The reply to the call that is not answered, if there is one. -/
def reply? (d : Dispatcher β) : Option (Reply Nat) :=
  match d.stage with
  | .publishing _ _ (.asked _ _ reply) => some reply
  | _ => none

theorem reply?_eq_none (free : ∀ l m made since reply,
    d.stage ≠ .publishing l m (.asked made since reply)) : d.reply? = none := by
  unfold reply?
  split
  · next stage => exact absurd stage (free _ _ _ _ _)
  · rfl

theorem reply?_of_stage (same : d'.stage = d.stage) : d'.reply? = d.reply? := by
  rw [reply?, reply?, same]

theorem Turn.deal (turn : Turn a d seen d') :
    Deal (· = a.connector) d.worker d.reply? seen d'.reply? d'.worker := by
  cases turn with
  | @connecting t t' w stage dial goesOn =>
    have before : d.reply? = none := reply?_eq_none (by simp [stage])
    rw [before]
    obtain ⟨stats, sends, -⟩ := (dial_of_dial? dial).frame
    cases dial_of_dial? dial with
    | asked uncancelled => exact .dialed rfl rfl rfl rfl
    | _ => exact .aside .nil stats sends rfl
  | @connected t made w stage dial =>
    have before : d.reply? = none := reply?_eq_none (by simp [stage])
    rw [before]
    obtain ⟨stats, sends, -⟩ := (dial_of_dial? dial).frame
    cases dial_of_dial? dial with
    | succeeded arrived answer => exact .aside .nil stats sends rfl
  | took stage items =>
    have before : d.reply? = none := reply?_eq_none (by simp [stage])
    rw [before]
    exact .aside (Queue.quiet_served _) rfl rfl rfl
  | sent stage =>
    have before : d.reply? = none := reply?_eq_none (by simp [stage])
    rw [before]
    exact .sent rfl rfl rfl rfl
  | @acknowledged _ _ _ _ _ reply stage arrived answer =>
    have before : d.reply? = some reply := by rw [reply?, stage]
    rw [before]
    exact .acknowledged answer rfl rfl rfl
  | @refused _ _ _ _ reply _ stage arrived answer =>
    have before : d.reply? = some reply := by rw [reply?, stage]
    rw [before]
    exact .refused answer rfl rfl rfl
  | woke stage due =>
    have before : d.reply? = none := reply?_eq_none (by simp [stage])
    rw [before]
    exact .aside .nil rfl rfl rfl

/-- An end changes neither the counts nor what the broker remembers. -/
theorem Ending.ledger (ending : Ending d d') :
    d'.worker.stats = d.worker.stats ∧ d'.worker.sends = d.worker.sends ∧
      d'.worker.broker = d.worker.broker ∧ d'.reply? = none := by
  cases ending with
  | @unconnected t w stage cancelled link =>
    have stats : w.stats = d.worker.stats := by rw [link]
    have sends : w.sends = d.worker.sends := by rw [link]
    have broker : w.broker = d.worker.broker := by rw [link]
    exact ⟨stats, sends, broker, rfl⟩
  | exhausted stage left drained => exact ⟨rfl, rfl, rfl, rfl⟩
  | resigned stage cancelled => exact ⟨rfl, rfl, rfl, rfl⟩

/-- A dispatcher that awaits an answer ends only because it was told to. -/
theorem Ending.cancelled_of (ending : Ending d d') {reply : Reply Nat}
    (called : d.reply? = some reply) : d.worker.cancelled = true := by
  cases ending with
  | unconnected stage cancelled link => exact cancelled
  | exhausted stage left drained => rw [reply?, stage] at called; simp at called
  | resigned stage cancelled => exact cancelled

/-- A dispatcher that goes on does not give up a call. -/
theorem deal_of_proceed (made : d.step? a .proceed = some (seen, d')) :
    Deal (· = a.connector) d.worker d.reply? seen d'.reply? d'.worker := by
  obtain ⟨e, he, hw⟩ := Option.map_eq_some_iff.mp made
  rcases turn_or_ending_of_proceed? he with turn | ⟨none, ending⟩
  · rw [witnessed_of_turn turn] at hw
    obtain ⟨rfl, rfl⟩ := Prod.mk.inj hw
    exact turn.deal
  · rw [witnessed_of_ending ending, none] at hw
    obtain ⟨rfl, rfl⟩ := Prod.mk.inj hw
    obtain ⟨stats, sends, broker, after⟩ := ending.ledger
    -- it would have shown an answer if it had awaited one
    have before : d.reply? = Option.none := by
      apply reply?_eq_none
      intro l m made since reply stage
      rw [working, stage] at none
      exact absurd none (List.cons_ne_nil _ _)
    rw [before, after]
    exact .aside d.quiet_dismissed stats sends broker

theorem deal_of_quit (made : d.step? a .quit = some (seen, d')) :
    Deal (· = a.connector) d.worker d.reply? seen d'.reply? d'.worker := by
  obtain ⟨e, he, hw⟩ := Option.map_eq_some_iff.mp made
  have ending := ending_of_quit? he
  rw [witnessed_of_ending ending] at hw
  obtain ⟨rfl, rfl⟩ := Prod.mk.inj hw
  obtain ⟨stats, sends, broker, after⟩ := ending.ledger
  rw [after]
  cases called : d.reply? with
  | none =>
    have silent : d.resigning = [] := by
      unfold resigning
      split
      · next stage => rw [reply?, stage] at called; simp at called
      · rfl
    rw [silent]
    exact .aside d.quiet_dismissed stats sends broker
  | some reply =>
    have shown : d.resigning = [.givenUp] := by
      unfold reply? at called
      split at called
      · next stage => rw [resigning, stage]
      · exact absurd called (by simp)
    rw [shown]
    exact .givenUp d.quiet_dismissed (ending.cancelled_of called) stats sends broker

/-- **Every move of a dispatcher is a deal.** -/
theorem deal_of_step? {m : Move} (made : d.step? a m = some (seen, d')) :
    Deal (· = a.connector) d.worker d.reply? seen d'.reply? d'.worker := by
  -- what producers do is about something else
  have around {seen : List Sight} {d' : Dispatcher β} (quiet : Quiet seen)
      (worker : d'.worker = d.worker) (stage : d'.stage = d.stage) :
      Deal (· = a.connector) d.worker d.reply? seen d'.reply? d'.worker := by
    rw [reply?_of_stage stage, worker]
    exact .aside quiet rfl rfl rfl
  cases m with
  | proceed => exact deal_of_proceed made
  | quit => exact deal_of_quit made
  | start =>
    simp only [step?] at made
    split at made
    · next stage =>
      split at made
      · obtain ⟨rfl, rfl⟩ := Prod.mk.inj (Option.some.inj made)
        have before : d.reply? = none := reply?_eq_none (by simp [stage])
        rw [before]
        exact .aside .nil rfl rfl rfl
      · simp at made
    · simp at made
  | drop =>
    simp only [step?] at made
    split at made
    · obtain ⟨rfl, rfl⟩ := Prod.mk.inj (Option.some.inj made)
      exact around d.quiet_dismissed rfl rfl
    · simp at made
  | offer t l =>
    simp only [step?] at made
    split at made
    · obtain ⟨rfl, rfl⟩ := Prod.mk.inj (Option.some.inj made)
      exact around (.cons rfl .nil) rfl rfl
    · simp at made
  | submit t stays l =>
    simp only [step?] at made
    split at made
    · obtain ⟨rfl, rfl⟩ := Prod.mk.inj (Option.some.inj made)
      obtain ⟨worker, stage, -⟩ := d.submit_frame t stays l
      refine around ?_ worker stage
      split
      · exact .cons rfl (.cons rfl (.cons rfl .nil))
      · exact .cons rfl (.cons rfl .nil)
      · exact .cons rfl .nil
    · simp at made
  | comeBack t l =>
    obtain ⟨rfl, rfl⟩ := Prod.mk.inj (Option.some.inj made)
    refine around ?_ rfl rfl
    split
    · exact .cons rfl .nil
    · exact .nil
  | abandon t =>
    obtain ⟨rfl, rfl⟩ := Prod.mk.inj (Option.some.inj made)
    refine around (.cons rfl ?_) rfl rfl
    split
    · exact Queue.quiet_served _
    · exact .nil
  | leave =>
    obtain ⟨rfl, rfl⟩ := Prod.mk.inj (Option.some.inj made)
    exact around .nil rfl rfl
  | cancel =>
    obtain ⟨rfl, rfl⟩ := Prod.mk.inj (Option.some.inj made)
    exact .aside .nil rfl rfl rfl
  | wait t =>
    obtain ⟨rfl, rfl⟩ := Prod.mk.inj (Option.some.inj made)
    exact .aside .nil rfl rfl rfl

/-- **A dispatcher is a dealer.** -/
def dealer (a : Assignment β) : Dealer (Dispatcher β) Move β where
  uses c := c = a.connector
  worker d := d.worker
  reply? := reply?
  proper h m := m.Proper h
  step? d m := d.step? a m
  deal _ made := deal_of_step? made

theorem Run.dealer {d₀ : Dispatcher β} (run : Run a d₀ h d) : (dealer a).Run d₀ h d := by
  induction run with
  | begin => exact .begin
  | move _ proper made ih => exact ih.move proper made

theorem fresh_new (broker : β) (q : Queue Log) (ids : IdStream) :
    (dealer a).Fresh (.new broker q ids) :=
  ⟨rfl, rfl, rfl⟩

/-- A dispatcher that has ended stays so. -/
theorem Step.stays_stopped (step : Step a h d seen d') {time : Nat}
    (stopped : d.stage = .stopped time) : d'.stage = .stopped time := by
  cases step with
  | start stage => exact absurd (stopped.symm.trans stage) (by simp)
  | turn turn => exact absurd stopped (turn.running.1.2 time)
  | ending silent ending => exact absurd stopped (ending.running.2 time)
  | _ => exact stopped

/-- Whatever gives up a call ends the dispatcher. -/
theorem Step.stopped_of_abandoned (step : Step a h d seen d') (one : abandoned seen = 1)
    (called : d.reply?.isSome) (closed : d'.reply? = none) : ∃ time, d'.stage = .stopped time := by
  -- as long as the stage is the same, the call is open
  have same (stage : d'.stage = d.stage) : ∃ time, d'.stage = .stopped time := by
    rw [← reply?_of_stage stage, closed] at called
    exact absurd called (by simp)
  cases step with
  | ending silent ending => exact ending.stopped
  | start stage =>
    have before : d.reply? = none := reply?_eq_none (by simp [stage])
    rw [before] at called
    exact absurd called (by simp)
  | turn turn =>
    cases turn with
    | took stage items => exact absurd one (by rw [(Queue.quiet_served _).abandoned_eq]; simp)
    | _ => exact absurd one (by simp [abandoned, Sight.isGivenUp])
  | _ => exact same rfl

/-- **A dispatcher gives up one call at most**, and has ended then. -/
theorem Run.abandoned_le {broker : β} {q : Queue Log} {ids : IdStream}
    (run : Run a (.new broker q ids) h d) :
    abandoned h ≤ 1 ∧
      (abandoned h = 1 → d.worker.cancelled = true ∧ ∃ time, d.stage = .stopped time) := by
  induction run with
  | begin => exact ⟨Nat.zero_le _, fun one => absurd one (by simp [abandoned])⟩
  | @move h seen m d d' run proper made ih =>
    have step := step_of_step? proper made
    have cancelled (before : d.worker.cancelled = true) : d'.worker.cancelled = true := by
      by_contra uncancelled
      have := step.cancelled_of (Bool.eq_false_iff.mpr uncancelled)
      exact absurd (before.symm.trans this) (by simp)
    rw [abandoned_append]
    rcases (deal_of_step? made).abandoned_le with zero | ⟨one, told, called, closed⟩
    · rw [zero]
      refine ⟨ih.1, fun one => ?_⟩
      obtain ⟨before, time, stopped⟩ := ih.2 one
      exact ⟨cancelled before, time, step.stays_stopped stopped⟩
    · -- the dispatcher has not ended before, so it has not given up a call before
      have zero : abandoned h = 0 := by
        by_contra some
        obtain ⟨-, time, stopped⟩ := ih.2 (by omega)
        have before : d.reply? = none := reply?_eq_none (by simp [stopped])
        rw [before] at called
        exact absurd called (by simp)
      rw [zero, one]
      exact ⟨Nat.le_refl _, fun _ => ⟨cancelled told, step.stopped_of_abandoned one called closed⟩⟩

end Dispatcher

/-! ### Publishers -/

/-- A log that is published. -/
structure Publication (κ : Type) where
  /-- Who publishes it. -/
  publisher : κ
  message : Message
  trial : Trial Nat

/-- How publishing has ended. -/
structure Verdict where
  outcome : Trial Nat
  /-- Whether a call was given up. -/
  abandoned : Bool

/-- **Publishers** that share a worker and publish one log after another. -/
structure Publishers (κ β : Type) where
  worker : Worker β
  /-- What is being published. -/
  current : Option (Publication κ)
  /-- What was published before; the newest first. -/
  verdicts : List Verdict

namespace Trial

/-- Whether an answer is awaited. -/
def isAsked : Trial Nat → Bool
  | .asked .. => true
  | _ => false

/-- What is seen when publishing a message goes on. -/
def working (m : Message) : Trial Nat → List Sight
  | .ready _ => [.sent m]
  | .asked _ _ reply => [.answered reply.answer]
  | _ => []

/-- What is seen when publishing is given up. -/
def resigning : Trial Nat → List Sight
  | .asked .. => [.givenUp]
  | _ => []

/-- The reply that is awaited. -/
def reply? : Trial Nat → Option (Reply Nat)
  | .asked _ _ reply => some reply
  | _ => none

end Trial

namespace Worker

variable {t t' : Trial Nat} {w w' : Worker β}

theorem quit_inversion (quit : quitPost? (t, w) = some (t', w')) :
    w.cancelled = true ∧ t' = .cancelled ∧ w' = w := by
  simp only [quitPost?] at quit
  split at quit
  · next both =>
    obtain ⟨rfl, rfl⟩ := Prod.mk.inj (Option.some.inj quit)
    exact ⟨(Bool.and_eq_true_iff.mp both).1, rfl, rfl⟩
  · simp at quit

/-- Nothing is done when publishing is over. -/
theorem act?_over {c : Connector β} {interval : Nat} {m : Message} (ended : t.isOver = true) :
    (clockwork (post? c interval m) quitPost?).act? (t, w) = none := by
  cases t with
  | succeeded made r => simp [clockwork, quitPost?, post?, Trial.isOver]
  | cancelled => simp [clockwork, quitPost?, post?, Trial.isOver]
  | _ => exact absurd ended (by simp [Trial.isOver])

end Worker

namespace Publishers

variable {κ : Type} {team : κ → Assignment β} {h seen : List Sight} {s s' : Publishers κ β}

/-- Nothing was published. -/
def new (w : Worker β) : Publishers κ β := ⟨w, none, []⟩

/-- What can happen. -/
inductive Move (κ : Type) where
  /-- A publisher begins to publish a log, with a signal of its own; `draw` is a random number, and
  the details of the log are written in some order. -/
  | publish (k : κ) (draw : Nat) (order : Detail.Order) (l : Log)
  /-- The signal to give up is given. -/
  | cancel
  /-- Time passes until a moment. -/
  | wait (t : Nat)
  /-- The publisher goes on. -/
  | proceed
  /-- The publisher notices the signal. -/
  | quit

/-- Takes up where publishing has come to. -/
def follow (s : Publishers κ β) (p : Publication κ) (abandoned : Bool) :
    Trial Nat × Worker β → Publishers κ β
  | (t, w) =>
    if t.isOver then ⟨w, none, ⟨t, abandoned⟩ :: s.verdicts⟩
    else ⟨w, some { p with trial := t }, s.verdicts⟩

/-- The message of a log that a publisher is to publish. -/
def messageOf (team : κ → Assignment β) (k : κ) (draw : Nat) (order : Detail.Order) (l : Log) :
    Message :=
  Message.ofLog (team k).settings draw l order

/-- A publisher begins to publish a log. -/
def begin (s : Publishers κ β) (team : κ → Assignment β) (k : κ) (draw : Nat)
    (order : Detail.Order) (l : Log) : Publishers κ β :=
  { s with
    worker := { s.worker with cancelled := false }.tell
      (Worker.posting l (messageOf team k draw order l))
    current := some ⟨k, messageOf team k draw order l, .start⟩ }

/-- What is seen of a move, and what comes of it. Nobody begins before the one before has ended. -/
def step? (team : κ → Assignment β) (m : Move κ) (s : Publishers κ β) :
    Option (List Sight × Publishers κ β) :=
  match m with
  | .publish k draw order l =>
    if s.current.isNone then some ([], s.begin team k draw order l) else none
  | .cancel => some ([], { s with worker := { s.worker with cancelled := true } })
  | .wait t => some ([], { s with worker := s.worker.waitUntil t })
  | .proceed =>
    s.current.bind fun p =>
      (Worker.post? (team p.publisher).connector (team p.publisher).interval p.message
        (p.trial, s.worker)).map fun r => (p.trial.working p.message, s.follow p false r)
  | .quit =>
    s.current.bind fun p =>
      (Worker.quitPost? (p.trial, s.worker)).map fun r =>
        (p.trial.resigning, s.follow p p.trial.isAsked r)

/-- The reply to the call that is not answered, if there is one. -/
def reply? (s : Publishers κ β) : Option (Reply Nat) :=
  s.current.bind fun p => p.trial.reply?

/-- The reply of a trial that is over is not awaited. -/
theorem reply?_follow (s : Publishers κ β) (p : Publication κ) (b : Bool) (t : Trial Nat)
    (w : Worker β) :
    (s.follow p b (t, w)).reply? = t.reply? ∧ (s.follow p b (t, w)).worker = w := by
  cases t <;> exact ⟨rfl, rfl⟩

/-- **Every move of publishers is a deal.** -/
theorem deal_of_step? {m : Move κ} (made : s.step? team m = some (seen, s')) :
    Deal (fun c => ∃ k, c = (team k).connector) s.worker s.reply? seen s'.reply? s'.worker := by
  cases m with
  | publish k draw order l =>
    simp only [step?] at made
    split at made
    · next free =>
      obtain ⟨rfl, rfl⟩ := Prod.mk.inj (Option.some.inj made)
      have before : s.reply? = none := by rw [reply?, Option.isNone_iff_eq_none.mp free]; rfl
      rw [before]
      exact .aside .nil rfl rfl rfl
    · simp at made
  | cancel =>
    obtain ⟨rfl, rfl⟩ := Prod.mk.inj (Option.some.inj made)
    exact .aside .nil rfl rfl rfl
  | wait t =>
    obtain ⟨rfl, rfl⟩ := Prod.mk.inj (Option.some.inj made)
    exact .aside .nil rfl rfl rfl
  | proceed =>
    obtain ⟨p, hp, hmap⟩ := Option.bind_eq_some_iff.mp made
    obtain ⟨⟨t, w⟩, hpost, heq⟩ := Option.map_eq_some_iff.mp hmap
    obtain ⟨rfl, rfl⟩ := Prod.mk.inj heq
    have before : s.reply? = p.trial.reply? := by rw [reply?, hp]; rfl
    obtain ⟨after, worker⟩ := reply?_follow s p false t w
    rw [before, after, worker]
    generalize p.trial = trial at hpost ⊢
    cases Dispatcher.post_of_post? hpost with
    | sent => exact .sent ⟨_, rfl⟩ rfl rfl rfl
    | acknowledged arrived answer =>
      rw [Trial.working, answer]
      exact .acknowledged answer rfl rfl rfl
    | refused arrived answer =>
      rw [Trial.working, answer]
      exact .refused answer rfl rfl rfl
    | woke due => exact .aside .nil rfl rfl rfl
  | quit =>
    obtain ⟨p, hp, hmap⟩ := Option.bind_eq_some_iff.mp made
    obtain ⟨⟨t, w⟩, hquit, heq⟩ := Option.map_eq_some_iff.mp hmap
    obtain ⟨rfl, rfl⟩ := Prod.mk.inj heq
    obtain ⟨cancelled, rfl, rfl⟩ := Worker.quit_inversion hquit
    have before : s.reply? = p.trial.reply? := by rw [reply?, hp]; rfl
    obtain ⟨after, worker⟩ := reply?_follow s p p.trial.isAsked .cancelled s.worker
    rw [before, after, worker]
    -- a call is given up if one is open
    cases p.trial with
    | asked made since reply => exact .givenUp .nil cancelled rfl rfl rfl
    | _ => exact .aside .nil rfl rfl rfl

/-- **Publishers are dealers.** -/
def dealer (team : κ → Assignment β) : Dealer (Publishers κ β) (Move κ) β where
  uses c := ∃ k, c = (team k).connector
  worker s := s.worker
  reply? := reply?
  proper _ _ := True
  step? s m := s.step? team m
  deal _ made := deal_of_step? made

theorem fresh_new {w : Worker β} (stats : w.stats = .zero) (sends : w.sends = []) :
    (dealer team).Fresh (new w) :=
  ⟨stats, sends, rfl⟩

/-- **The calls that were given up** are those of the publications that say so, one for each, and
these were cancelled. -/
structure Accounted (h : List Sight) (s : Publishers κ β) : Prop where
  abandoned : History.abandoned h = s.verdicts.countP (·.abandoned)
  cancelled : ∀ v ∈ s.verdicts, v.abandoned = true → v.outcome = .cancelled

theorem Accounted.follow {p : Publication κ} {b : Bool} {t : Trial Nat} {w : Worker β}
    (ha : Accounted h s) (gaveUp : History.abandoned seen = if b then 1 else 0)
    (cancelled : b = true → t = .cancelled) : Accounted (h ++ seen) (s.follow p b (t, w)) := by
  rw [Publishers.follow]
  split
  · refine ⟨?_, ?_⟩
    · rw [abandoned_append, gaveUp, ha.abandoned, List.countP_cons]
    · intro v hv
      rcases List.mem_cons.mp hv with rfl | hv
      · exact cancelled
      · exact ha.cancelled v hv
  · next goesOn =>
    -- a call is given up only when publishing ends
    have zero : b = false := by
      by_contra hb
      rw [cancelled (by simpa using hb)] at goesOn
      exact goesOn rfl
    refine ⟨?_, ha.cancelled⟩
    rw [abandoned_append, gaveUp, zero]
    exact ha.abandoned

theorem Accounted.step {m : Move κ} (ha : Accounted h s) (made : s.step? team m = some (seen, s')) :
    Accounted (h ++ seen) s' := by
  -- the verdicts stay the same unless the publisher itself makes the move
  have around {s' : Publishers κ β} (same : s'.verdicts = s.verdicts) :
      Accounted (h ++ []) s' := by
    rw [List.append_nil]
    exact ⟨by rw [same]; exact ha.abandoned, by rw [same]; exact ha.cancelled⟩
  cases m with
  | publish k draw order l =>
    simp only [step?] at made
    split at made
    · obtain ⟨rfl, rfl⟩ := Prod.mk.inj (Option.some.inj made)
      exact around rfl
    · simp at made
  | cancel =>
    obtain ⟨rfl, rfl⟩ := Prod.mk.inj (Option.some.inj made)
    exact around rfl
  | wait t =>
    obtain ⟨rfl, rfl⟩ := Prod.mk.inj (Option.some.inj made)
    exact around rfl
  | proceed =>
    obtain ⟨p, hp, hmap⟩ := Option.bind_eq_some_iff.mp made
    obtain ⟨⟨t, w⟩, hpost, heq⟩ := Option.map_eq_some_iff.mp hmap
    obtain ⟨rfl, rfl⟩ := Prod.mk.inj heq
    refine ha.follow ?_ (fun b => absurd b Bool.noConfusion)
    cases p.trial <;> rfl
  | quit =>
    obtain ⟨p, hp, hmap⟩ := Option.bind_eq_some_iff.mp made
    obtain ⟨⟨t, w⟩, hquit, heq⟩ := Option.map_eq_some_iff.mp hmap
    obtain ⟨rfl, rfl⟩ := Prod.mk.inj heq
    obtain ⟨-, rfl, -⟩ := Worker.quit_inversion hquit
    refine ha.follow ?_ fun _ => rfl
    cases p.trial <;> rfl

theorem Run.accounted {w : Worker β} (run : (dealer team).Run (new w) h s) : Accounted h s := by
  induction run with
  | begin => exact ⟨rfl, fun v hv => absurd hv List.not_mem_nil⟩
  | move _ _ made ih => exact ih.step made

/-! ### What is published in time -/

section Time

variable {s₀ : Publishers κ β} {p : Publication κ} {b : Bool} {t t' : Trial Nat} {w w' : Worker β}

theorem follow_goesOn (goesOn : t.isOver = false) :
    s.follow p b (t, w) = ⟨w, some { p with trial := t }, s.verdicts⟩ := by
  rw [follow, if_neg (by simp [goesOn])]

/-- The clock of the publication `p`. -/
abbrev clock (team : κ → Assignment β) (p : Publication κ) : Clockwork (Trial Nat × Worker β) :=
  Worker.clockwork
    (Worker.post? (team p.publisher).connector (team p.publisher).interval p.message)
    Worker.quitPost?

/-- What the clock makes the publisher do is a move. -/
theorem run_act (run : (dealer team).Run s₀ h (s.follow p b (t, w)))
    (act : (clock team p).act? (t, w) = some (t', w')) :
    ∃ b' seen, (dealer team).Run s₀ (h ++ seen) (s.follow p b' (t', w')) := by
  cases ended : t.isOver with
  | true => exact absurd (act.symm.trans (Worker.act?_over ended)) (by simp)
  | false =>
    rw [follow_goesOn ended] at run
    rcases Option.or_eq_some_iff.mp act with hquit | ⟨-, hpost⟩
    · refine ⟨t.isAsked, t.resigning, run.move (m := .quit) trivial ?_⟩
      show (Worker.quitPost? (t, w)).map _ = _
      rw [hquit]
      rfl
    · refine ⟨false, t.working p.message, run.move (m := .proceed) trivial ?_⟩
      show (Worker.post? (team p.publisher).connector (team p.publisher).interval p.message
        (t, w)).map _ = _
      rw [hpost]
      rfl

theorem run_wait (run : (dealer team).Run s₀ h (s.follow p b (t, w))) (moment : Nat) :
    (dealer team).Run s₀ h (s.follow p b ((clock team p).wait moment (t, w))) := by
  cases ended : t.isOver with
  | true => simpa [clock, Worker.clockwork, ended] using run
  | false =>
    have later := run.move (m := .wait moment) trivial rfl
    rw [List.append_nil] at later
    have same : (clock team p).wait moment (t, w) = (t, w.waitUntil moment) := by
      simp [clock, Worker.clockwork, ended]
    rw [same, follow_goesOn ended]
    rw [follow_goesOn ended] at later
    exact later

theorem run_runUntil (limit : Option Nat) (fuel : Nat) {h : List Sight} {b : Bool}
    {r : Trial Nat × Worker β} (run : (dealer team).Run s₀ h (s.follow p b r)) :
    ∃ b' seen, (dealer team).Run s₀ (h ++ seen)
      (s.follow p b' ((clock team p).runUntil limit fuel r)) := by
  induction fuel generalizing h b r with
  | zero => exact ⟨b, [], by rw [List.append_nil]; exact run⟩
  | succ fuel ih =>
    simp only [Clockwork.runUntil]
    split
    · next r' act =>
      obtain ⟨b', seen, run'⟩ := run_act run act
      obtain ⟨b'', seen', run''⟩ := ih run'
      exact ⟨b'', seen ++ seen', by rw [← List.append_assoc]; exact run''⟩
    · -- nothing can be done now: time passes, to the next moment or to the limit
      split
      · split
        · exact ih (run_wait run _)
        · exact ⟨b, [], by rw [List.append_nil]; exact run_wait run _⟩
      · exact ih (run_wait run _)
      · exact ⟨b, [], by rw [List.append_nil]; exact run_wait run _⟩
      · exact ⟨b, [], by rw [List.append_nil]; exact run⟩

/-- The signal is given. -/
theorem run_cancel (run : (dealer team).Run s₀ h (s.follow p b (t, w)))
    (goesOn : t.isOver = false) :
    (dealer team).Run s₀ h (s.follow p b (t, { w with cancelled := true })) := by
  have later := run.move (m := .cancel) trivial rfl
  rw [List.append_nil, follow_goesOn goesOn] at later
  rw [follow_goesOn goesOn]
  exact later

/-- **What is published in time is a run**, whenever the signal comes. -/
theorem run_publish (run : (dealer team).Run s₀ h s) (free : s.current = none) (k : κ) (draw : Nat)
    (order : Detail.Order) (l : Log) (signal : Option Nat) :
    ∃ b seen, (dealer team).Run s₀ (h ++ seen)
      (s.follow ⟨k, messageOf team k draw order l, .start⟩ b
        (s.worker.publish (team k).connector (team k).interval l (messageOf team k draw order l)
          signal)) := by
  have begun : (dealer team).Run s₀ h (s.follow ⟨k, messageOf team k draw order l, .start⟩ false
      (.start, { s.worker.tell (Worker.posting l (messageOf team k draw order l)) with
        cancelled := false })) := by
    have made : (dealer team).step? s (.publish k draw order l)
        = some ([], s.begin team k draw order l) := by
      show (if s.current.isNone then some ([], s.begin team k draw order l) else none) = _
      rw [free]
      rfl
    have first := run.move trivial made
    rw [List.append_nil] at first
    exact first
  unfold Worker.publish Worker.runTrial
  split
  · exact run_runUntil none _ begun
  · have told := run_cancel begun rfl
    exact run_runUntil none _ told
  · next moment _ =>
    obtain ⟨b, seen, until_⟩ := run_runUntil (some (s.worker.now + Pause.length moment))
      (Worker.workload (team k).connector s.worker) begun
    simp only
    split
    · exact ⟨b, seen, until_⟩
    · next goesOn =>
      obtain ⟨b', seen', later⟩ :=
        run_runUntil none _ (run_cancel until_ (Bool.eq_false_iff.mpr goesOn))
      exact ⟨b', seen ++ seen', by rw [← List.append_assoc]; exact later⟩

end Time

end Publishers

/-! ### Conservation -/

/-- **Conservation of the counts.** In every run of a dispatcher, and in every run of publishers
that share a worker, all calls are accounted for; a dispatcher gives up one of them at most, and so
does each publication, if it is cancelled. When they alone send to a broker in memory, it holds as
many messages as were published, and has counted those and the failures. -/
theorem conservation {κ : Type} (a : Assignment β) (team : κ → Assignment β) (broker : β)
    (link : Link) (q : Queue Log) (ids : IdStream) :
    (∀ h d, Dispatcher.Run a (.new broker q ids) h d →
      Conserved h d.reply? d.worker ∧ abandoned h ≤ 1 ∧
        (abandoned h = 1 → d.worker.cancelled = true ∧ ∃ time, d.stage = .stopped time)) ∧
    (∀ h s, (Publishers.dealer team).Run (.new (.new broker link)) h s →
      Conserved h s.reply? s.worker ∧ abandoned h = s.verdicts.countP (·.abandoned) ∧
        ∀ v ∈ s.verdicts, v.abandoned = true → v.outcome = .cancelled) ∧
    ∀ view : β → Memory.Broker, view broker = .empty →
      (a.connector.Stores view → ∀ h d, (Dispatcher.dealer a).Prompt (.new broker q ids) h d →
        (view d.worker.broker).size = d.worker.stats.published ∧
          (view d.worker.broker).attempts
            = d.worker.stats.published + d.worker.stats.retries) ∧
      ((∀ k, (team k).connector.Stores view) → ∀ h s,
        (Publishers.dealer team).Prompt (.new (.new broker link)) h s →
        (view s.worker.broker).size = s.worker.stats.published ∧
          (view s.worker.broker).attempts
            = s.worker.stats.published + s.worker.stats.retries) := by
  have fresh : (Publishers.dealer team).Fresh (.new (.new broker link)) :=
    Publishers.fresh_new rfl rfl
  refine ⟨?_, ?_, ?_⟩
  · intro h d run
    exact ⟨(run.dealer.balance (Dispatcher.fresh_new ..)).conserved, run.abandoned_le⟩
  · intro h s run
    have accounted := Publishers.Run.accounted run
    exact ⟨(run.balance fresh).conserved, accounted.abandoned, accounted.cancelled⟩
  · intro view unused
    constructor
    · intro stores h d prompt
      refine prompt.exact (Dispatcher.fresh_new broker q ids) ?_ unused
      rintro c rfl
      exact stores
    · intro stores h s prompt
      refine prompt.exact fresh ?_ unused
      rintro c ⟨k, rfl⟩
      exact stores k

/-! ### A rehearsal -/

namespace Publishers.Rehearsal

/-- A publisher whose first call is refused and whose second one is never answered. -/
def start : Publishers Unit Scripted.Broker :=
  .new (.new (.new [] [.failure 0 (.connection "down"), .silence]) .connected)

/-- A log is published until it is cancelled during the second call, and then another one. -/
def moves : List (Move Unit) :=
  [.publish () 0 .ascending default, .proceed, .proceed, .wait 120000, .proceed, .proceed, .cancel,
    .quit, .publish () 0 .ascending default, .proceed, .proceed]

/-- What is seen of it, and what comes of it. -/
def outcome : List Sight × Publishers Unit Scripted.Broker :=
  History.play (fun _ _ => True) (fun s m => s.step? (fun _ => Dispatcher.Rehearsal.assignment) m)
    start moves

theorem run : (dealer fun _ => Dispatcher.Rehearsal.assignment).Run start outcome.1 outcome.2 :=
  History.play_keeps .begin (fun run _ made => run.move trivial made) moves

/-- A publisher over a broker in memory. -/
def member : Assignment Memory.Site := ⟨.default, Memory.connector, .ofChance fun _ => 0⟩

/-- A log is published. -/
theorem prompt : ∃ h s, (dealer fun _ : Unit => member).Prompt (.new (.new .new .connected)) h s ∧
    s.worker.broker.broker.size = 1 := by
  let D := dealer fun _ : Unit => member
  have goesOn (h : List Sight) : D.proper h .proceed := trivial
  refine ⟨_, _,
    .exchange (.move (m := .publish () 0 .ascending default) .begin trivial rfl ?_) (goesOn _)
    rfl rfl rfl (goesOn _) rfl, rfl⟩
  rintro ⟨reply, called, -⟩
  exact absurd called (by simp [dealer, reply?, begin, Trial.reply?, Trial.start])

end Publishers.Rehearsal

theorem rehearsal_conservation :
    (Publishers.Rehearsal.outcome.2.worker.sends.length, abandoned Publishers.Rehearsal.outcome.1)
        = (3, 1) ∧
      Conserved Publishers.Rehearsal.outcome.1 Publishers.Rehearsal.outcome.2.reply?
        Publishers.Rehearsal.outcome.2.worker ∧
      Conserved Dispatcher.Rehearsal.outcome.1 Dispatcher.Rehearsal.outcome.2.reply?
        Dispatcher.Rehearsal.outcome.2.worker ∧
      ∃ h s, (Publishers.dealer fun _ : Unit => Publishers.Rehearsal.member).Prompt
        (.new (.new .new .connected)) h s ∧ s.worker.stats.published = 1 := by
  obtain ⟨dispatcher, -, -⟩ := conservation (κ := Unit) Dispatcher.Rehearsal.assignment
    (fun _ => Dispatcher.Rehearsal.assignment) (.new [] [.failure 0 (.connection "down")])
    .connected Dispatcher.Rehearsal.queue .counted
  obtain ⟨-, publishers, -⟩ := conservation (κ := Unit) Dispatcher.Rehearsal.assignment
    (fun _ => Dispatcher.Rehearsal.assignment)
    (.new [] [.failure 0 (.connection "down"), .silence]) .connected Dispatcher.Rehearsal.queue
    .counted
  obtain ⟨-, -, memory⟩ := conservation (κ := Unit) Publishers.Rehearsal.member
    (fun _ => Publishers.Rehearsal.member) .new .connected Dispatcher.Rehearsal.queue .counted
  obtain ⟨h, s, prompt, size⟩ := Publishers.Rehearsal.prompt
  obtain ⟨-, stored⟩ := memory Memory.Site.broker rfl
  have published := (stored (fun _ => Memory.stores_connectorAs _) h s prompt).1
  exact ⟨rfl, (publishers _ _ Publishers.Rehearsal.run).1,
    (dispatcher _ _ Dispatcher.Rehearsal.run).1, h, s, prompt, published.symm.trans size⟩

end AuditRelay
