import AuditRelay.Proofs.Consistency
import AuditRelay.Proofs.Decision
import AuditRelay.Proofs.Forwarding
import AuditRelay.Proofs.Process
import AuditRelay.Proofs.Staggered

/-!
# What becomes of a log that is given to a pipeline

A call with a log is thrown away, waits, or is answered, and what it is told depends on what the
pipeline has gone through meanwhile. `Reception` says it for every state that a pipeline can reach,
by any calls in any order and also if calls take their time (`Staggered`):

* A call is thrown away if the pipeline is disabled at that moment, and otherwise it is told what
  the queue has decided (`Dispatcher.Told`): its log was accepted, behind all that were accepted
  before, or the receiver went away first, or it still waits.
* A call that fails to start the pipeline, and one that shuts it down before it was started, leave
  nobody behind (`Cleared`): everyone who waits learns that the queue is closed, and nobody has to
  wait later.
* The broker gets the logs of calls that were told that they are accepted, one after the other, and
  first those that were accepted before the pipeline was started.
-/

namespace AuditRelay

open History

/-! ### What the queue decides -/

/-- A free place is for one log at most. -/
theorem Queue.accepted_served {q : Queue Log} {t : Nat} {l : Log}
    (mem : (t, l) ∈ accepted q.served) : accepted q.served = [(t, l)] := by
  unfold Queue.served at mem ⊢
  split
  · next hw =>
    rw [hw] at mem
    exact absurd mem List.not_mem_nil
  · next hw =>
    rw [hw] at mem
    exact congrArg (fun e => [e]) (List.mem_singleton.mp mem).symm
  · next hw =>
    rw [hw] at mem
    exact absurd mem List.not_mem_nil

namespace History

/-- The tickets are those of the logs that producers bring. -/
theorem map_brought (h : List Sight) : (brought h).map (·.1) = tickets h := by
  rw [brought, List.map_filterMap]
  refine congrArg (List.filterMap · h) (funext fun s => ?_)
  cases s <;> rfl

/-- The log that is accepted is the one for which a place was asked. -/
theorem asked_unique {h : List Sight} (o : Orderly h) {t : Nat} {l l' : Log}
    (accepted : (t, l) ∈ accepted h) (asked : (t, l') ∈ asked h) : l = l' := by
  have nodup := o.nodup_tickets
  rw [← map_brought] at nodup
  have same := List.inj_on_of_nodup_map nodup (accepted_subset_brought o accepted)
    (asked_subset_brought h asked) rfl
  exact congrArg Prod.snd same

end History

namespace Dispatcher

variable {β : Type} {a : Assignment β} {C : Nat} {ids : IdStream} {broker : β} {q : Queue Log}
  {h seen : List Sight} {d d' : Dispatcher β}

/-- **A log is accepted alone**, and comes behind all others in the queue. -/
theorem Step.appended (step : Step a h d seen d') {t : Nat} {l : Log}
    (mem : (t, l) ∈ accepted seen) :
    accepted seen = [(t, l)] ∧
      ∃ front, front <:+ d.queue.items ∧ d'.queue.items = front ++ [l] := by
  have refilled {q : Queue Log} (mem : (t, l) ∈ accepted q.served) :
      q.refill.2.items = q.items ++ [l] := by
    rw [Queue.refill_items, Queue.accepted_served mem]
    rfl
  cases step with
  | drop stage => exact absurd (accepted_dismissed d ▸ mem) List.not_mem_nil
  | offered fresh isOpen room =>
    obtain ⟨rfl, rfl⟩ := Prod.mk.inj (List.mem_singleton.mp mem)
    exact ⟨rfl, _, List.suffix_refl _, rfl⟩
  | @declined t' l' r fresh refused =>
    cases r with
    | accepted => exact absurd rfl refused
    | full => exact absurd mem List.not_mem_nil
    | closed => exact absurd mem List.not_mem_nil
  | enqueued there fresh isOpen room =>
    obtain ⟨rfl, rfl⟩ := Prod.mk.inj (List.mem_singleton.mp mem)
    exact ⟨rfl, _, List.suffix_refl _, rfl⟩
  | cameBack request kept =>
    obtain ⟨rfl, rfl⟩ := Prod.mk.inj (List.mem_singleton.mp mem)
    exact ⟨rfl, _, List.suffix_refl _, rfl⟩
  -- a place that is given up, or has become free, goes to whoever waits longest
  | @released t' l' request kept =>
    exact ⟨Queue.accepted_served (q := d.queue) mem, d.queue.items, List.suffix_refl _,
      refilled (q := { d.queue with kept := d.queue.kept.erase t' }) mem⟩
  | turn turn =>
    cases turn with
    | @took raw rest stage items =>
      exact ⟨Queue.accepted_served mem, rest, items ▸ List.suffix_cons ..,
        refilled (q := { d.queue with items := rest }) mem⟩
    | _ => exact absurd mem List.not_mem_nil
  | @ending s _ silent ending =>
    have none : accepted (s ++ d.dismissed) = [] := by
      rcases silent with rfl | rfl <;> rw [accepted_append, accepted_dismissed] <;> rfl
    exact absurd (none ▸ mem) List.not_mem_nil
  | _ => exact absurd mem List.not_mem_nil

/-- A dispatcher goes on as long as producers are there and it is not told to give up. -/
theorem Run.going {d₀ : Dispatcher β} (begin : d₀.stage = .dormant) (run : Run a d₀ h d)
    (there : d.producers = true) (uncancelled : d.worker.cancelled = false) (time : Nat) :
    d.stage ≠ .stopped time := by
  have both := run.keeps
    (P := fun _ d => (d.producers = true → d.worker.cancelled = false →
      ∀ time, d.stage ≠ .stopped time))
    (fun _ _ time stopped => Stage.noConfusion (begin.symm.trans stopped)) ?_
  · exact both there uncancelled time
  · intro h seen d d' ih step there uncancelled time
    have before := step.cancelled_of uncancelled
    cases step with
    | start stage isOpen => exact Stage.noConfusion
    | leave => cases there
    | turn turn => exact turn.running.2 time
    | ending silent ending =>
      cases ending with
      | unconnected stage cancelled link => exact absurd (before.symm.trans cancelled) (by simp)
      | exhausted stage left drained => exact absurd (there.symm.trans left) (by simp)
      | resigned stage cancelled => exact absurd (before.symm.trans cancelled) (by simp)
    | _ => exact ih there before time

/-- Whoever was not answered is told nothing. -/
theorem Attended.answer?_eq_none (ha : Attended h d) {p : Pipeline β} (hp : p.dispatcher = d)
    {t : Nat} (undecided : t ∉ decided h) : p.answer? t = none := by
  rw [Pipeline.answer?, hp, Option.map_eq_none_iff, List.find?_eq_none]
  intro r hr same
  refine undecided (List.mem_map.mpr ⟨(r.ticket, r.accepted), ?_, of_decide_eq_true same⟩)
  rw [← ha.arrivals]
  exact List.mem_map.mpr ⟨r, List.mem_reverse.mpr hr, rfl⟩

/-- **What a call is told** that came to the queue with a log, and nothing as long as it waits. -/
structure Told (h : List Sight) (d : Dispatcher β) (t : Nat) (l : Log)
    (answer : Option (Except Failure Unit)) : Prop where
  ok : answer = some (.ok ()) ↔ (t, l) ∈ accepted h
  /-- The receiver went away before the log had a place. -/
  closed : answer = some (.error .queueClosed) ↔ d.queue.isOpen = false ∧ (t, l) ∉ accepted h
  waiting : answer = none ↔ d.queue.isOpen = true ∧ (t, l) ∉ accepted h

/-- Whoever has asked and is in the queue was told so. -/
theorem Attended.decided_of_accepted (ha : Attended h d) {t : Nat} {l : Log}
    (accepted : (t, l) ∈ accepted h) (asked : t ∈ askers h) (stays : .withdrawn t ∉ h) :
    (t, true) ∈ decisions h := by
  have entered : t ∈ entrants h := List.mem_map_of_mem accepted
  rcases ha.orderly.accounted asked with answered | present | gone
  · obtain ⟨⟨t', b⟩, hmem, rfl⟩ := List.mem_map.mp answered
    obtain rfl : b = true := ha.orderly.outcome_unique (decisions_subset_outcomes h hmem)
      (outcomes_true_of_mem_entrants entered)
    exact hmem
  -- nobody is answered and still at the desk
  · have apart := (List.nodup_append.mp ha.orderly.apart).2.2
    exact absurd rfl (apart t (mem_settled_of_mem_entrants entered) t present)
  · exact absurd gone stays

/-- **Whoever has asked and does not give up** is told what was decided. -/
theorem Attended.told (hs : Stock C h d) (ha : Attended h d)
    (forGood : ∀ t, (t, false) ∈ decisions h → d.queue.isOpen = false) {p : Pipeline β}
    (hp : p.dispatcher = d) {t : Nat} {l : Log} (asked : (t, l) ∈ asked h)
    (stays : .withdrawn t ∉ h) : Told h d t l (p.answer? t) := by
  have asker : t ∈ askers h := List.mem_map_of_mem asked
  by_cases haccepted : (t, l) ∈ accepted h
  · have hanswer := ha.answer? hp (ha.decided_of_accepted haccepted asker stays)
    rw [hanswer]
    exact ⟨by simp [haccepted], by simp [haccepted], by simp [haccepted]⟩
  · have left : t ∉ entrants h := by
      intro entered
      obtain ⟨⟨t', l'⟩, hmem, rfl⟩ := List.mem_map.mp entered
      exact haccepted (asked_unique ha.orderly hmem asked ▸ hmem)
    cases hopen : d.queue.isOpen with
    | false =>
      have hanswer := ha.answer? hp (ha.turned_away hs hopen asker left stays)
      rw [hanswer]
      exact ⟨by simp [haccepted], by simp [haccepted, hopen], by simp [hopen]⟩
    -- with the receiver still there nobody was turned away, so nothing was decided
    | true =>
      have undecided : t ∉ decided h := by
        intro answered
        obtain ⟨⟨t', b⟩, hmem, rfl⟩ := List.mem_map.mp answered
        cases b with
        | true => exact left (mem_entrants_of_outcome (decisions_subset_outcomes h hmem))
        | false => exact absurd ((forGood _ hmem).symm.trans hopen) (by simp)
      rw [ha.answer?_eq_none hp undecided]
      exact ⟨by simp [haccepted], by simp [hopen], by simp [haccepted, hopen]⟩

/-- Nobody waits at a queue without a receiver. -/
theorem Attended.nobody_waits (hs : Stock C h d) (ha : Attended h d)
    (closed : d.queue.isOpen = false) (t : Nat) : ¬ Waits h t := by
  rintro ⟨asked, unanswered, stays⟩
  obtain ⟨-, hkept, hwaiting⟩ := hs.sound.closed closed
  rcases ha.orderly.accounted asked with answered | present | gone
  · exact unanswered answered
  · rw [ha.desk, hkept, hwaiting] at present
    exact absurd present List.not_mem_nil
  · exact stays gone

end Dispatcher

namespace Pipeline

open Dispatcher (Stock Attended Waits Told Turn)

variable {ι β : Type} {g : Supply ι β} {s : Settings} {h seen : List (Episode ι)}
  {p₀ p p' : Pipeline β} {a : Assignment β} {broker : β} {ids : IdStream} {around : Surroundings}

/-- What is known of the dispatcher and of the producers, whether the pipeline was started or
not. -/
structure Hosted (h : List (Episode ι)) (p : Pipeline β) : Prop where
  stock : ∃ C, Stock C (inner h) p.dispatcher
  attended : Attended (inner h) p.dispatcher
  forGood : ∀ t, (t, false) ∈ decisions (inner h) → p.dispatcher.queue.isOpen = false

theorem Staggered.hosted (new : Pipeline.new? s broker ids around = some p₀)
    (run : Staggered g [] p₀ h p) : Hosted h p := by
  obtain ⟨a, works⟩ := Process.exists_worksFor p
  have inside := run.dispatcher new works
  obtain ⟨q, capacity, rfl⟩ := Option.map_eq_some_iff.mp new
  exact ⟨⟨_, inside.stock capacity⟩, inside.attended capacity,
    fun t refused => inside.closed_of_refused capacity refused⟩

/-! ### The call itself -/

/-- A call that finds the pipeline enabled goes to the queue. -/
theorem Staggered.late_of_enabled (new : Pipeline.new? s broker ids around = some p₀)
    (run : Staggered g [] p₀ h p) (enabled : p.disabled = false) {t : Nat}
    (fresh : t ∉ tickets (inner h)) : Late h p t := by
  obtain ⟨-, hf⟩ := run.flags new
  refine ⟨?_, fresh, fun l mem => ?_⟩
  · rw [hf.settings]
    refine Bool.eq_false_iff.mpr fun bypass => ?_
    exact absurd ((hf.disabled.mpr (Or.inl bypass)).symm.trans enabled) (by simp)
  · have disabled := ((run.recorded new).discarded t l mem).1
    exact absurd (disabled.symm.trans enabled) (by simp)

/-- **A call that does not wait** is told at once what it would be told later. -/
theorem Staggered.answer_of_enter (new : Pipeline.new? s broker ids around = some p₀)
    (run : Staggered g [] p₀ h p) {t : Nat} (late : Late h p t) (stays : Bool) (l : Log) :
    (p.enter t stays l).2.answer? t = (p.enter t stays l).1.ending := by
  have attended := ((run.next (.late stays l late)).hosted new).attended
  rw [inner_append, inner_given] at attended
  cases hr : (p.enter t stays l).1 with
  | accepted =>
    rw [hr] at attended
    refine attended.answer? rfl (b := true) ?_
    rw [decisions_append]
    exact List.mem_append_right _ (List.mem_singleton.mpr rfl)
  | closed =>
    rw [hr] at attended
    refine attended.answer? rfl (b := false) ?_
    rw [decisions_append]
    exact List.mem_append_right _ (List.mem_singleton.mpr rfl)
  -- whoever waits was not answered, because its ticket is new
  | waiting =>
    rw [hr] at attended
    refine attended.answer?_eq_none rfl fun answered => late.fresh ?_
    rw [decided_append] at answered
    rcases List.mem_append.mp answered with before | now
    · obtain ⟨e, he, rfl⟩ := List.mem_map.mp before
      exact (run.hosted new).attended.orderly.settled_subset_tickets
        (List.mem_map_of_mem (decisions_subset_outcomes _ he))
    · exact absurd now List.not_mem_nil
  | discarded => exact absurd hr (enter_ne_discarded t stays l)

/-- What is seen when the receiver is dropped: those who waited are turned away, and nothing
else. -/
theorem mem_relinquished {x : Sight} (mem : x ∈ p.relinquished) : ∃ t, x = .turnedAway t := by
  unfold relinquished at mem
  split at mem
  · exact Dispatcher.mem_dismissed mem
  · exact absurd mem List.not_mem_nil

theorem accepted_relinquished (p : Pipeline β) : accepted p.relinquished = [] := by
  refine List.filterMap_eq_nil_iff.mpr fun x mem => ?_
  obtain ⟨t, rfl⟩ := mem_relinquished mem
  rfl

/-- **One log at a time** is accepted, and comes behind all others in the queue. -/
theorem Next.appended (hc : p.Coherent) (next : Next g h p seen p') {t : Nat} {l : Log}
    (mem : (t, l) ∈ accepted (inner seen)) :
    accepted (inner seen) = [(t, l)] ∧ ∃ front, front <:+ p.dispatcher.queue.items ∧
      p'.dispatcher.queue.items = front ++ [l] := by
  obtain ⟨a, works⟩ := Process.exists_worksFor p
  -- a call that goes to the queue, at once or late
  have entering {t' : Nat} (stays : Bool) (l' : Log) (fresh : t' ∉ tickets (inner h))
      (mem : (t, l) ∈ accepted (asking t' stays l' (p.enter t' stays l').1)) :
      accepted (asking t' stays l' (p.enter t' stays l').1) = [(t, l)] ∧
        ∃ front, front <:+ p.dispatcher.queue.items ∧
          (p.enter t' stays l').2.dispatcher.queue.items = front ++ [l] := by
    have made := hc.step?_enter (a := a) t' stays l'
    exact (Dispatcher.step_of_step? (m := .submit t' stays l') fresh made).appended mem
  cases next with
  | late stays l late =>
    rw [inner_given] at mem ⊢
    exact entering stays l late.fresh mem
  | move proper made =>
    cases step_of_step? proper made with
    | @submitted t' stays l' receipt enabled fresh answer =>
      subst answer
      rw [inner_cons rfl, inner_map_inside] at mem ⊢
      exact entering stays l' fresh mem
    | inside allowed hinside =>
      rw [inner_map_inside] at mem ⊢
      obtain ⟨-, hstep⟩ := step?_of_inside? works hinside
      exact (Dispatcher.step_of_step? allowed hstep).appended mem
    | failed willing =>
      rw [inner_cons rfl, inner_cons rfl, inner_map_inside, accepted_relinquished] at mem
      exact absurd mem List.not_mem_nil
    | shutDown =>
      rw [inner_cons rfl, inner_map_inside, accepted_relinquished] at mem
      exact absurd mem List.not_mem_nil
    | _ => exact absurd mem List.not_mem_nil

/-! ### Nobody is left behind -/

/-- **Nobody is left behind** when the pipeline has come from the history `h` to `h'`: everyone who
waited learns that the queue is closed, nobody waits any more, and every call that is made later
gets the receipt `r`. -/
structure Cleared (g : Supply ι β) (r : Receipt) (h h' : List (Episode ι)) (p' : Pipeline β) :
    Prop where
  closed : p'.dispatcher.queue.isOpen = false
  answered : ∀ t, Waits (inner h) t → p'.answer? t = some (.error .queueClosed)
  /-- Also a call that has looked at the flag before and comes to the queue only now does not
  wait. -/
  nobody : ∀ {h'' p''}, Staggered g h' p' h'' p'' → ∀ t, ¬ Waits (inner h'') t
  later : ∀ {h'' p''}, Staggered g h' p' h'' p'' → ∀ t stays l, (p''.submit t stays l).1 = r

/-- A pipeline that was not started, and was disabled or shut down, has dropped the receiver. -/
theorem Flags.closed (hf : Flags s h p) (unstarted : p.isStarted = false)
    (gone : .shutDown ∈ h ∨ .disabled ∈ h) : p.dispatcher.queue.isOpen = false := by
  refine Bool.eq_false_iff.mpr fun isOpen => ?_
  have unassigned : p.assignment.isNone = true := Option.isSome_eq_false_iff.mp unstarted
  obtain ⟨-, running, enabled⟩ := hf.receiver.mp (Bool.and_eq_true_iff.mpr ⟨unassigned, isOpen⟩)
  exact gone.elim running enabled

/-- **A receiver that was dropped** does not come back. -/
theorem Staggered.closed {h' : List (Episode ι)}
    (new : Pipeline.new? s broker ids around = some p₀) (run : Staggered g [] p₀ h p)
    (closed : p.dispatcher.queue.isOpen = false) (later : Staggered g h p h' p') :
    p'.dispatcher.queue.isOpen = false := by
  obtain ⟨a, works⟩ := Process.exists_worksFor p'
  obtain ⟨C, stock⟩ := (run.hosted new).stock
  have both := later.keeps_dispatcher (a := a)
    (Q := fun h d => Stock C h d ∧ d.queue.isOpen = false)
    (fun ⟨stock, closed⟩ proper made =>
      have step := Dispatcher.step_of_step? proper made
      ⟨stock.step step, (stock.closed closed step).1⟩)
    (run.flags new).1 fun _ => ⟨stock, closed⟩
  exact (both.2 works).2

theorem Hosted.nobody_waits (hosted : Hosted h p) (closed : p.dispatcher.queue.isOpen = false)
    (t : Nat) : ¬ Waits (inner h) t := by
  obtain ⟨C, stock⟩ := hosted.stock
  exact hosted.attended.nobody_waits stock closed t

/-- When the receiver is dropped, everyone who waits learns it. -/
theorem Staggered.answer_of_waits (new : Pipeline.new? s broker ids around = some p₀)
    (run : Staggered g [] p₀ h p) (next : Next g h p seen p')
    (inside : inner seen = p.relinquished) (closed : p'.dispatcher.queue.isOpen = false) {t : Nat}
    (waits : Waits (inner h) t) : p'.answer? t = some (.error .queueClosed) := by
  have hosted := (run.next next).hosted new
  obtain ⟨C, stock⟩ := hosted.stock
  have all : inner (h ++ seen) = inner h ++ p.relinquished := by rw [inner_append, inside]
  refine hosted.attended.answer? rfl (b := false) ?_
  refine hosted.attended.turned_away stock closed ?_ ?_ ?_
  · rw [all, askers_append]
    exact List.mem_append_left _ waits.asked
  -- nobody is let in on the way, and whoever was in the queue before did not wait
  · intro entered
    rw [all, entrants, accepted_append, accepted_relinquished, List.append_nil] at entered
    obtain ⟨⟨t', l⟩, hmem, rfl⟩ := List.mem_map.mp entered
    exact waits.unanswered (List.mem_map_of_mem ((run.recorded new).decided_of_accepted hmem))
  · intro gone
    rw [all] at gone
    rcases List.mem_append.mp gone with before | now
    · exact waits.stays before
    · obtain ⟨t', heq⟩ := mem_relinquished now
      cases heq

/-- **A failing call leaves nobody behind**: it disables the pipeline. -/
theorem Staggered.cleared_of_failed (new : Pipeline.new? s broker ids around = some p₀)
    (run : Staggered g [] p₀ h p) (willing : p.refusal? = none) (next : Next g h p seen p')
    {connector : Option ι} (failed : .initialised connector false ∈ seen) :
    Cleared g .discarded h (h ++ seen) p' := by
  obtain ⟨-, hf⟩ := run.flags new
  have run' := run.next next
  obtain ⟨-, hf'⟩ := run'.flags new
  obtain ⟨-, enabled, uncancelled, unstarted⟩ := refusal?_eq_none willing
  have receiver := hf.holdsReceiver enabled uncancelled unstarted
  -- the call has found the receiver, so it was not refused but has failed
  have hstep : (∃ reason, p' = p.disable reason) ∧ .disabled ∈ seen ∧
      inner seen = p.relinquished := by
    cases next with
    | late stays l late =>
      rcases List.mem_cons.mp failed with heq | mem
      · cases heq
      · obtain ⟨x, -, heq⟩ := List.mem_map.mp mem
        cases heq
    | move proper made =>
      cases step_of_step? proper made with
      | refused reason =>
        rcases reason with refused | missing
        · exact absurd willing refused
        · exact absurd (receiver.symm.trans missing) (by simp)
      | failed willing =>
        refine ⟨⟨_, rfl⟩, List.mem_cons_of_mem _ List.mem_cons_self, ?_⟩
        rw [inner_cons rfl, inner_cons rfl, inner_map_inside]
      | started willing receiver transport sound => simp at failed
      | shutDown => simp at failed
      | discarded disabled => simp at failed
      | submitted enabled fresh answer => simp at failed
      | inside proper made => simp at failed
  obtain ⟨⟨reason, rfl⟩, disabled, inside⟩ := hstep
  have disabled' : .disabled ∈ h ++ seen := List.mem_append_right _ disabled
  have unstarted' : (p.disable reason).isStarted = false := by
    rw [isStarted, (p.disable_frame reason).2.2.1]
    exact unstarted
  have closed := hf'.closed unstarted' (Or.inr disabled')
  refine ⟨closed, fun t waits => run.answer_of_waits new next inside closed waits, ?_, ?_⟩
  · intro h'' p'' later
    exact ((run'.trans later).hosted new).nobody_waits (run'.closed new closed later)
  · intro h'' p'' later t stays l
    obtain ⟨-, hf''⟩ := (run'.trans later).flags new
    obtain ⟨more, rfl⟩ := later.exists_append
    rw [submit_disabled (hf''.disabled.mpr (Or.inr (List.mem_append_left _ disabled')))]

/-- A pipeline that was shut down is not disabled any more. -/
theorem Next.disabled_of_cancelled (next : Next g h p seen p') (cancelled : p.isCancelled = true) :
    p'.disabled = p.disabled := by
  cases next with
  | late stays l late => rfl
  | move proper made =>
    cases step_of_step? proper made with
    | failed willing =>
      exact absurd (cancelled.symm.trans (refusal?_eq_none willing).2.2.1) (by simp)
    | shutDown => exact p.shutdown_frame.2.1
    | _ => rfl

/-- **A pipeline that is shut down leaves nobody behind** if it was not started. -/
theorem Staggered.cleared_of_shutDown (new : Pipeline.new? s broker ids around = some p₀)
    (run : Staggered g [] p₀ h p) (unstarted : p.isStarted = false) (next : Next g h p seen p')
    (shutDown : .shutDown ∈ seen) :
    Cleared g (if p.disabled then .discarded else .closed) h (h ++ seen) p' := by
  have run' := run.next next
  obtain ⟨-, hf'⟩ := run'.flags new
  have hstep : p' = p.shutdown ∧ inner seen = p.relinquished := by
    cases next with
    | late stays l late =>
      rcases List.mem_cons.mp shutDown with heq | mem
      · cases heq
      · obtain ⟨x, -, heq⟩ := List.mem_map.mp mem
        cases heq
    | move proper made =>
      cases step_of_step? proper made with
      | shutDown =>
        refine ⟨rfl, ?_⟩
        rw [inner_cons rfl, inner_map_inside]
      | refused reason => simp at shutDown
      | failed willing => simp at shutDown
      | started willing receiver transport sound => simp at shutDown
      | discarded disabled => simp at shutDown
      | submitted enabled fresh answer => simp at shutDown
      | inside proper made => simp at shutDown
  obtain ⟨rfl, inside⟩ := hstep
  have shutDown' : .shutDown ∈ h ++ seen := List.mem_append_right _ shutDown
  have unstarted' : p.shutdown.isStarted = false := by
    rw [isStarted, p.shutdown_frame.2.2.1]
    exact unstarted
  have closed := hf'.closed unstarted' (Or.inl shutDown')
  refine ⟨closed, fun t waits => run.answer_of_waits new next inside closed waits, ?_, ?_⟩
  · intro h'' p'' later
    exact ((run'.trans later).hosted new).nobody_waits (run'.closed new closed later)
  · intro h'' p'' later t stays l
    -- no call disables it any more, and the receiver stays away
    have same : p''.disabled = p.disabled := by
      rw [← p.shutdown_frame.2.1]
      induction later with
      | begin => rfl
      | next later next ih =>
        obtain ⟨-, hf''⟩ := (run'.trans later).flags new
        obtain ⟨more, rfl⟩ := later.exists_append
        have cancelled := hf''.cancelled.mpr (List.mem_append_left _ shutDown')
        exact (next.disabled_of_cancelled cancelled).trans ih
    have closed'' := run'.closed new closed later
    cases hd : p.disabled with
    | true => rw [submit_disabled (same.trans hd), if_pos rfl]
    | false =>
      rw [submit_enabled (same.trans hd), (Dispatcher.submit_closed closed'' t stays l).2]
      rfl

/-! ### What is sent -/

/-- **What is sent** is the log of a call that was told that it is accepted. -/
theorem Staggered.sent (new : Pipeline.new? s broker ids around = some p₀)
    (run : Staggered g [] p₀ h p) (assignment : p.assignment = some a) {c : Call}
    (hc : c ∈ calls (inner h)) :
    ∃ i t l, (accepted (inner h))[i]? = some (t, l) ∧ c.message = messageAt a ids i l ∧
      p.answer? t = some (.ok ()) ∧
      ∀ l' r, .submitted t l' r ∈ h → r = .accepted ∨ r = .waiting := by
  have works : p.WorksFor a := fun a' ha' => (Option.some.inj (assignment.symm.trans ha')).symm
  have inside := run.dispatcher new works
  have attended := (run.hosted new).attended
  have recorded := run.recorded new
  obtain ⟨q, capacity, rfl⟩ := Option.map_eq_some_iff.mp new
  obtain ⟨done, rest, progress⟩ := inside.progress capacity
  obtain ⟨i, t, l, hentry, hmessage⟩ := Dispatcher.exists_of_mem_messages (progress.mem_messages hc)
  have entry := List.mem_of_getElem? hentry
  have decision := recorded.decided_of_accepted entry
  refine ⟨i, t, l, hentry, hmessage, attended.answer? rfl decision, ?_⟩
  intro l' r hr
  cases r with
  | accepted => exact Or.inl rfl
  | waiting => exact Or.inr rfl
  | discarded =>
    have unused := (recorded.discarded t l' hr).2
    exact absurd (attended.orderly.settled_subset_tickets
      (mem_settled_of_mem_entrants (List.mem_map_of_mem entry))) unused
  | closed =>
    have refused := decisions_subset_outcomes _ (recorded.closed t l' hr)
    have := attended.orderly.outcome_unique refused (decisions_subset_outcomes _ decision)
    exact absurd this (by simp)

/-- A pipeline that was not started has sent nothing. -/
theorem Staggered.calls_eq_nil (new : Pipeline.new? s broker ids around = some p₀)
    (run : Staggered g [] p₀ h p) (unstarted : p.isStarted = false) : calls (inner h) = [] := by
  obtain ⟨a, works⟩ := Process.exists_worksFor p
  refine (run.dispatcher new works).calls_eq_nil ((run.flags new).1.dormant.mpr ?_)
  exact Option.isNone_iff_eq_none.mp (Option.isSome_eq_false_iff.mp unstarted)

/-- **Which message is sent when** the broker has acknowledged the messages `before`: that of the
log at some place when those of all logs before it are acknowledged and no others. The logs that
were accepted in the history `h` come first. -/
inductive InOrder (a : Assignment β) (ids : IdStream) (h : List Sight) (before : List Message)
    (m : Message) : Prop where
  /-- It is the next one of them. -/
  | early {i t : Nat} {l : Log} (entry : (accepted h)[i]? = some (t, l))
    (message : m = messageAt a ids i l) (acked : before = (Dispatcher.messages a ids h).take i)
  /-- It is that of another log, and all of them are acknowledged. -/
  | later {i : Nat} {l : Log} (place : (accepted h).length ≤ i) (message : m = messageAt a ids i l)
    (acked : Dispatcher.messages a ids h <+: before)

/-- **The logs that were accepted first are sent first**, in this order. -/
theorem Staggered.inOrder {h' : List (Episode ι)}
    (new : Pipeline.new? s broker ids around = some p₀) (run : Staggered g [] p₀ h p)
    (later : Staggered g h p h' p') (assignment : p'.assignment = some a) {s₁ s₂ : List Sight}
    {m : Message} (split : inner h' = s₁ ++ .sent m :: s₂) :
    InOrder a ids (inner h) (acked s₁) m := by
  have works : p'.WorksFor a := fun a' ha' => (Option.some.inj (assignment.symm.trans ha')).symm
  have inside := (run.trans later).dispatcher new works
  obtain ⟨q, capacity, rfl⟩ := Option.map_eq_some_iff.mp new
  obtain ⟨i, t, l, hentry, hmessage, hacked⟩ := inside.sent_in_turn capacity split
  obtain ⟨more, rfl⟩ := later.exists_append
  have grows : Dispatcher.messages a ids (inner h)
      <+: Dispatcher.messages a ids (inner (h ++ more)) := by
    rw [inner_append]
    exact Dispatcher.messages_grow ..
  have hlength : (Dispatcher.messages a ids (inner h)).length = (accepted (inner h)).length := by
    rw [Dispatcher.messages, length_messagesOf, logs, List.length_map]
  rw [inner_append, accepted_append] at hentry
  by_cases hi : i < (accepted (inner h)).length
  -- it was among the first ones
  · rw [List.getElem?_append_left hi] at hentry
    refine .early hentry hmessage (hacked.trans ?_)
    obtain ⟨rest, hrest⟩ := grows
    rw [← hrest, List.take_append_of_le_length (by omega)]
  · refine .later (Nat.not_lt.mp hi) hmessage ?_
    rw [hacked]
    exact List.prefix_take_iff.mpr ⟨grows, by omega⟩

/-- **A broker that can be relied on** gets everything that was accepted so far, in the end, and the
dispatcher needs nobody for that. -/
theorem Staggered.catches_up (new : Pipeline.new? s broker ids around = some p₀)
    (run : Staggered g [] p₀ h p) (assignment : p.assignment = some a)
    (uncancelled : p.isCancelled = false) {S : (connected : Bool) → β → Prop}
    (steady : a.connector.Steady S) (start : S false broker) :
    ∃ n seen, Own seen ∧
      Dispatcher.Run a p₀.dispatcher (inner h ++ seen)
        ((Dispatcher.clockwork a).runUntil none n p.dispatcher) ∧
      Dispatcher.messages a ids (inner h) <+: acked (inner h ++ seen) := by
  have works : p.WorksFor a := fun a' ha' => (Option.some.inj (assignment.symm.trans ha')).symm
  have inside := run.dispatcher new works
  obtain ⟨coherent, -⟩ := run.flags new
  have awake : p.dispatcher.stage ≠ .dormant := fun dormant =>
    Option.some_ne_none a (assignment.symm.trans (coherent.dormant.mp dormant))
  obtain ⟨q, capacity, rfl⟩ := Option.map_eq_some_iff.mp new
  -- it ends only when it is told to, because the producers are still there
  have going := inside.going rfl coherent.producers uncancelled
  exact inside.catches_up steady start capacity uncancelled ⟨awake, going⟩

/-! ### Reception -/

/-- **What becomes of a log that is given** to the pipeline `p`, which was `p₀` at first, and of
those that were given to it so far. -/
structure Reception (g : Supply ι β) (p₀ : Pipeline β) (h : List (Episode ι)) (p : Pipeline β) :
    Prop where
  /-- A log is thrown away exactly if the pipeline is disabled when it is given. To the caller that
  is as good, and the queue does not see it. -/
  discarded : ∀ t stays l, ((p.submit t stays l).1 = .discarded ↔ p.disabled = true) ∧
    (p.disabled = true → (p.submit t stays l).1.ending = some (.ok ()) ∧
      (p.submit t stays l).2.dispatcher = p.dispatcher)
  /-- Otherwise the call goes to the queue, now or when it gets there. -/
  enters : p.disabled = false → ∀ t stays l, p.submit t stays l = p.enter t stays l ∧
    (t ∉ tickets (inner h) → Late h p t)
  /-- If it does not have to wait there, it ends with what it is told. -/
  immediate : ∀ t, Late h p t → ∀ stays l,
    (p.enter t stays l).2.answer? t = (p.enter t stays l).1.ending
  /-- Everyone who came to the queue and has not given up is told what the queue has decided. -/
  told : ∀ t l r, .submitted t l r ∈ h → r ≠ .discarded → .withdrawn t ∉ inner h →
    Told (inner h) p.dispatcher t l (p.answer? t)
  /-- The queue has the accepted logs that were not taken, in the order of acceptance. -/
  queued : p.dispatcher.queue.isOpen = true → logs (accepted (inner h))
    = (logs (accepted (inner h))).take p.dispatcher.taken ++ p.dispatcher.queue.items
  /-- A log that is accepted next comes behind all of them. -/
  appended : ∀ {seen p'}, Next g h p seen p' → ∀ t l, (t, l) ∈ accepted (inner seen) →
    accepted (inner seen) = [(t, l)] ∧ ∃ front, front <:+ p.dispatcher.queue.items ∧
      p'.dispatcher.queue.items = front ++ [l]
  /-- A call that fails to start the pipeline leaves nobody behind, and later logs are thrown
  away. -/
  failed : p.refusal? = none → ∀ {seen p'} connector, Next g h p seen p' →
    .initialised connector false ∈ seen → Cleared g .discarded h (h ++ seen) p'
  /-- Shutting down a pipeline that was not started leaves nobody behind, and later calls learn that
  the queue is closed, unless their logs are thrown away. -/
  shutDown : p.isStarted = false → ∀ {seen p'}, Next g h p seen p' → .shutDown ∈ seen →
    Cleared g (if p.disabled then .discarded else .closed) h (h ++ seen) p'
  /-- What is sent is the log of a call that was told that it is accepted, and never one that was
  thrown away or turned away. -/
  sent : ∀ a, p.assignment = some a → ∀ c ∈ calls (inner h), ∃ i t l,
    (accepted (inner h))[i]? = some (t, l) ∧
      c.message = messageAt a p₀.dispatcher.ids i l ∧ p.answer? t = some (.ok ()) ∧
      ∀ l' r, .submitted t l' r ∈ h → r = .accepted ∨ r = .waiting
  /-- What is accepted before the pipeline is started is sent later, in order, and before anything
  that is accepted later. -/
  early : p.isStarted = false → calls (inner h) = [] ∧
    ∀ {h' p' a}, Staggered g h p h' p' → p'.assignment = some a → ∀ s₁ m s₂,
      inner h' = s₁ ++ .sent m :: s₂ → InOrder a p₀.dispatcher.ids (inner h) (acked s₁) m
  /-- If the broker can be relied on, then a pipeline that was started and not shut down sends in
  the end all that was accepted so far, and all of it is acknowledged. -/
  reliable : ∀ a S, p.assignment = some a → p.isCancelled = false → a.connector.Steady S →
    S false p₀.dispatcher.worker.broker → ∃ n seen, Own seen ∧
      Dispatcher.Run a p₀.dispatcher (inner h ++ seen)
        ((Dispatcher.clockwork a).runUntil none n p.dispatcher) ∧
      Dispatcher.messages a p₀.dispatcher.ids (inner h) <+: acked (inner h ++ seen)

/-- **What becomes of a log that is given to a pipeline**, in every state that it can reach. -/
theorem reception (new : Pipeline.new? s broker ids around = some p₀)
    (run : Staggered g [] p₀ h p) : Reception g p₀ h p := by
  obtain ⟨coherent, -⟩ := run.flags new
  have hosted := run.hosted new
  obtain ⟨C, stock⟩ := hosted.stock
  -- the ids and the broker are those that the pipeline was made with
  have source : p₀.dispatcher.ids = ids ∧ p₀.dispatcher.worker.broker = broker := by
    obtain ⟨q, -, rfl⟩ := Option.map_eq_some_iff.mp new
    exact ⟨rfl, rfl⟩
  obtain ⟨rfl, rfl⟩ := source
  refine {
    discarded := fun t stays l => ⟨⟨fun thrown => ?_, fun disabled => ?_⟩, fun disabled => ?_⟩
    enters := fun enabled t stays l =>
      ⟨submit_eq_enter enabled t stays l, run.late_of_enabled new enabled⟩
    immediate := fun t late stays l => run.answer_of_enter new late stays l
    told := fun t l r mem kept stays => hosted.attended.told stock hosted.forGood rfl
      ((run.recorded new).asked t l r mem kept) stays
    queued := fun isOpen => stock.accepted_eq isOpen
    appended := fun next t l mem => next.appended coherent mem
    failed := fun willing _ _ connector next answer => run.cleared_of_failed new willing next answer
    shutDown := fun unstarted _ _ next seen => run.cleared_of_shutDown new unstarted next seen
    sent := fun a assignment c hc => run.sent new assignment hc
    early := fun unstarted => ⟨run.calls_eq_nil new unstarted,
      fun later assignment s₁ m s₂ split => run.inOrder new later assignment split⟩
    reliable := fun a S assignment uncancelled steady start =>
      run.catches_up new assignment uncancelled steady start }
  · by_contra enabled
    rw [submit_eq_enter (Bool.eq_false_iff.mpr enabled)] at thrown
    exact enter_ne_discarded t stays l thrown
  · rw [submit_disabled disabled]
  · rw [submit_disabled disabled]
    exact ⟨rfl, rfl⟩

/-! ### A rehearsal -/

namespace Rehearsal

/-- A pipeline with one place. -/
def crowded : Pipeline Scripted.Broker :=
  { pipeline with
    settings := { Settings.default with capacity := 1 }
    dispatcher := .new (.new [] []) ⟨1, [], [], [], true⟩ .counted }

/-- The first log fills the queue, and the producer of the second one waits. Then a call fails to
start the pipeline, and the third log is thrown away. -/
def turnedOff : List (Episode Bool) × Pipeline Scripted.Broker :=
  play supply crowded [.submit 0 true default, .submit 1 true default, .initWith false .default,
    .submit 2 true default]

theorem crowded_new :
    Pipeline.new? { Settings.default with capacity := 1 } (.new [] []) .counted
        (.ofChance fun _ => 0) = some crowded :=
  rfl

/-- Another call has looked at the flag before that, and has not come to the queue yet. -/
theorem late : Late turnedOff.1 turnedOff.2 3 := by
  have others : turnedOff.1.all (fun e => match e with
      | .submitted t _ _ => t != 3
      | _ => true) = true := rfl
  refine ⟨rfl, by decide, fun l mem => ?_⟩
  exact absurd (List.all_eq_true.mp others _ mem) (by simp)

end Rehearsal

theorem rehearsal_reception :
    (Rehearsal.turnedOff.2.answer? 0, Rehearsal.turnedOff.2.answer? 1,
        (Rehearsal.turnedOff.2.submit 2 true default).1,
        (Rehearsal.turnedOff.2.enter 3 true default).1)
      = (some (.ok ()), some (.error .queueClosed), .discarded, .closed) ∧
      Reception Rehearsal.supply Rehearsal.crowded
        (Rehearsal.turnedOff.1 ++ given 3 true default .closed)
        (Rehearsal.turnedOff.2.enter 3 true default).2 :=
  ⟨rfl, reception Rehearsal.crowded_new
    ((run_play ..).staggered.next (.late true default Rehearsal.late))⟩

end Pipeline

end AuditRelay
