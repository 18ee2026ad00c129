import AuditRelay.Pipeline
import AuditRelay.Proofs.Patience

/-!
# Runs of a pipeline

Whoever holds a pipeline makes one call after the other: to start it, to give it a log, to shut it
down. Between the calls the dispatcher goes on with its work, producers that wait come back or give
up, and time passes. `Pipeline.Run` is any such sequence, in any order and with any endpoints and
connectors. The calls are those of the pipeline itself (`Pipeline.init`, `Pipeline.initWith`,
`Pipeline.submit`, `Pipeline.shutdown`); `Pipeline.step?` only adds what is seen of each.

* `Step` says everything that a call can do. Every invariant of a pipeline is proved from it and
  never unfolds the calls again.
* `Coherent` is the invariant that ties a pipeline to its dispatcher: the dispatcher is started when
  the pipeline is, and by nobody else.
* `Run.dispatcher` says that what happens inside a pipeline is a run of its dispatcher, so that all
  that is known of those holds here.

The connectors that the calls name are taken from a supply, where an index tells them apart.
-/

namespace AuditRelay

open History

/-- Whether a move is made without a call to the pipeline, by the dispatcher, by a producer that
waits or by the clock. -/
def Dispatcher.Move.isInner : Dispatcher.Move → Bool
  | comeBack .. => true
  | abandon _ => true
  | wait _ => true
  | proceed => true
  | quit => true
  | _ => false

namespace Pipeline

variable {ι β : Type}

/-- The connectors that a pipeline can be started with. -/
structure Supply (ι β : Type) where
  connector : ι → Connector β
  /-- The connector that is made for a configuration of NATS. -/
  client : Nats.Config → ι

/-- What can be seen of a pipeline. -/
inductive Episode (ι : Type) where
  /-- A call to start it with a connector, if one was made, has returned. -/
  | initialised (connector : Option ι) (answer : Bool)
  /-- That call has disabled it. -/
  | disabled
  | shutDown
  /-- A call with a log has got a receipt. -/
  | submitted (ticket : Nat) (l : Log) (receipt : Receipt)
  /-- What is seen of the dispatcher and of the producers. -/
  | inside (s : Sight)

namespace Episode

/-- Whether a call has started the pipeline. -/
def isStart : Episode ι → Bool
  | initialised _ answer => answer
  | _ => false

/-- What is seen inside. -/
def inside? : Episode ι → Option Sight
  | inside s => some s
  | _ => none

end Episode

/-- What is seen of the dispatcher and of the producers. -/
def inner (h : List (Episode ι)) : List Sight := h.filterMap Episode.inside?

@[simp] theorem inner_append (h h' : List (Episode ι)) : inner (h ++ h') = inner h ++ inner h' :=
  List.filterMap_append ..

/-- What is seen of a call is not seen inside. -/
theorem inner_cons {e : Episode ι} (outside : e.inside? = none) (h : List (Episode ι)) :
    inner (e :: h) = inner h :=
  List.filterMap_cons_none outside

@[simp] theorem inner_map_inside (seen : List Sight) :
    inner (seen.map .inside : List (Episode ι)) = seen := by
  rw [inner, List.filterMap_map]
  exact List.filterMap_some

/-- What can happen to a pipeline. -/
inductive Move (ι : Type) where
  /-- It is to be started with a client of NATS. -/
  | init (e : Endpoint)
  /-- It is to be started with a connector. -/
  | initWith (i : ι) (e : Endpoint)
  /-- A producer gives it a log; it stays or goes away if it has to wait. -/
  | submit (ticket : Nat) (stays : Bool) (l : Log)
  | shutdown
  /-- Something happens without a call. -/
  | inside (m : Dispatcher.Move)

/-- A ticket is used for one log only, and whoever comes back or gives up has asked before. -/
def Move.Proper (h : List (Episode ι)) : Move ι → Prop
  | .submit t _ _ => t ∉ tickets (inner h)
  | .inside m => m.Proper (inner h)
  | _ => True

instance (h : List (Episode ι)) : (m : Move ι) → Decidable (m.Proper h)
  | .submit t _ _ => inferInstanceAs (Decidable (t ∉ tickets (inner h)))
  | .inside m => inferInstanceAs (Decidable (m.Proper (inner h)))
  | .init _ | .initWith .. | .shutdown => .isTrue trivial

/-- What is seen of the producers when the pipeline drops the receiver of its queue, if it has it. -/
def relinquished (p : Pipeline β) : List Sight :=
  if p.holdsReceiver then p.dispatcher.dismissed else []

/-- What is seen of a call to start a pipeline. -/
def opened (p : Pipeline β) (connector : Option ι) (result : Bool × Pipeline β) :
    List (Episode ι) × Pipeline β :=
  (.initialised connector result.1 ::
      if result.2.disabled = p.disabled then []
      else .disabled :: p.relinquished.map .inside,
    result.2)

/-- The receipt for a log that the queue has answered. -/
def Receipt.ofAdmission : Queue.Admission → Receipt
  | .accepted => .accepted
  | .full => .waiting
  | .closed => .closed

/-- What is seen of the producers when one of them gives a log. -/
def asking (ticket : Nat) (stays : Bool) (l : Log) : Receipt → List Sight
  | .accepted => [.asked ticket l stays, .placed ticket, .admitted ticket l]
  | .closed => [.asked ticket l stays, .turnedAway ticket]
  | .waiting => [.asked ticket l stays]
  | .discarded => []

/-- What is seen of a move that is made without a call, and what comes of it. Only a dispatcher that
was started makes moves. -/
def inside? (p : Pipeline β) : Dispatcher.Move → Option (List Sight × Dispatcher β)
  | .comeBack t l =>
    some (if (p.dispatcher.queue.comeBack t l).1 then [.admitted t l] else [],
      p.dispatcher.comeBack t l)
  | .abandon t =>
    some (.withdrawn t ::
        (if p.dispatcher.queue.kept.contains t then p.dispatcher.queue.served else []),
      p.dispatcher.abandon t)
  | .wait t => some ([], p.dispatcher.waitUntil t)
  | .proceed => p.assignment.bind fun a => p.dispatcher.step? a .proceed
  | .quit => p.assignment.bind fun a => p.dispatcher.step? a .quit
  | _ => none

/-- What is seen of a move, and what comes of it; none if it cannot be made. -/
def step? (g : Supply ι β) (p : Pipeline β) : Move ι → Option (List (Episode ι) × Pipeline β)
  | .init e =>
    some (p.opened ((Nats.Config.ofSettings e p.settings).toOption.map g.client)
      (p.init (fun c => g.connector (g.client c)) e))
  | .initWith i e => some (p.opened (some i) (p.initWith (g.connector i) e))
  | .submit t stays l =>
    let (receipt, p') := p.submit t stays l
    some (.submitted t l receipt :: (asking t stays l receipt).map .inside, p')
  | .shutdown => some (.shutDown :: p.relinquished.map .inside, p.shutdown)
  | .inside m =>
    (p.inside? m).map fun (seen, d) => (seen.map .inside, { p with dispatcher := d })

/-- **Runs.** Moves that lead from one state to another; what is seen of them is added to what was
seen before. -/
inductive Run (g : Supply ι β) (h₀ : List (Episode ι)) (p₀ : Pipeline β) :
    List (Episode ι) → Pipeline β → Prop where
  | begin : Run g h₀ p₀ h₀ p₀
  | move {h seen : List (Episode ι)} {m : Move ι} {p p' : Pipeline β} (run : Run g h₀ p₀ h p)
    (proper : m.Proper h) (made : p.step? g m = some (seen, p')) : Run g h₀ p₀ (h ++ seen) p'

/-- Makes some moves one after the other. -/
def play (g : Supply ι β) (p₀ : Pipeline β) (ms : List (Move ι)) :
    List (Episode ι) × Pipeline β :=
  ms.foldl (fun s m =>
    if m.Proper s.1 then
      match s.2.step? g m with
      | some (seen, p) => (s.1 ++ seen, p)
      | none => s
    else s) ([], p₀)

variable {g : Supply ι β} {h₀ h seen : List (Episode ι)} {p₀ p p' : Pipeline β}

/-- What is played is a run. -/
theorem run_play (g : Supply ι β) (p₀ : Pipeline β) (ms : List (Move ι)) :
    Run g [] p₀ (play g p₀ ms).1 (play g p₀ ms).2 := by
  unfold play
  -- by induction on the moves, from any state that a run has reached
  suffices hrun : ∀ s : List (Episode ι) × Pipeline β, Run g [] p₀ s.1 s.2 →
      Run g [] p₀ (ms.foldl _ s).1 (ms.foldl _ s).2 from hrun _ .begin
  induction ms with
  | nil => exact fun s run => run
  | cons m rest ih =>
    intro s run
    rw [List.foldl_cons]
    refine ih _ ?_
    split
    · next hproper =>
      split
      · next made => exact run.move hproper made
      · exact run
    · exact run

/-- One run goes on where another has ended. -/
theorem Run.trans {h' : List (Episode ι)} (run : Run g h₀ p₀ h p) (later : Run g h p h' p') :
    Run g h₀ p₀ h' p' := by
  induction later with
  | begin => exact run
  | move _ proper made ih => exact ih.move proper made

/-! ### Everything that a call can do -/

/-- What has to hold for a call to have a chance to start a pipeline. -/
theorem refusal?_eq_none (h : p.refusal? = none) :
    p.settings.bypass = false ∧ p.disabled = false ∧ p.isCancelled = false ∧
      p.isStarted = false := by
  unfold refusal? at h
  split at h
  · simp at h
  · next hbypass =>
    split at h
    · simp at h
    · next hdisabled =>
      split at h
      · simp at h
      · next hcancelled =>
        split at h
        · simp at h
        · next hstarted =>
          exact ⟨Bool.eq_false_iff.mpr hbypass, Bool.eq_false_iff.mpr hdisabled,
            Bool.eq_false_iff.mpr hcancelled, Bool.eq_false_iff.mpr hstarted⟩

theorem dispatcher_closeQueue (p : Pipeline β) :
    p.closeQueue.dispatcher
      = if p.holdsReceiver then p.dispatcher.closeQueue else p.dispatcher := by
  unfold closeQueue
  split <;> rfl

theorem closeQueue_frame (p : Pipeline β) :
    p.closeQueue.settings = p.settings ∧ p.closeQueue.disabled = p.disabled ∧
      p.closeQueue.assignment = p.assignment ∧ p.closeQueue.around = p.around := by
  unfold closeQueue
  split <;> exact ⟨rfl, rfl, rfl, rfl⟩

/-- A failure disables the pipeline and drops the receiver, and nothing else. -/
theorem disable_frame (p : Pipeline β) (reason : String) :
    (p.disable reason).settings = p.settings ∧ (p.disable reason).disabled = true ∧
      (p.disable reason).assignment = p.assignment ∧
      (p.disable reason).dispatcher
        = if p.holdsReceiver then p.dispatcher.closeQueue else p.dispatcher := by
  obtain ⟨hs, hd, ha, -⟩ := closeQueue_frame { p with disabled := true }
  exact ⟨hs, hd, ha, dispatcher_closeQueue { p with disabled := true }⟩

/-- Shutting down gives the signal and drops the receiver, and nothing else. -/
theorem shutdown_frame (p : Pipeline β) :
    p.shutdown.settings = p.settings ∧ p.shutdown.disabled = p.disabled ∧
      p.shutdown.assignment = p.assignment ∧
      p.shutdown.dispatcher
        = if p.holdsReceiver then p.dispatcher.cancel.closeQueue else p.dispatcher.cancel := by
  let told := { p.tell .info "Audit pipeline shutting down" [] with dispatcher := p.dispatcher.cancel }
  obtain ⟨hs, hd, ha, -⟩ := closeQueue_frame told
  exact ⟨hs, hd, ha, dispatcher_closeQueue told⟩

/-- **Everything that can happen** to a pipeline after the history `h`. -/
inductive Step (g : Supply ι β) (h : List (Episode ι)) (p : Pipeline β) :
    List (Episode ι) → Pipeline β → Prop where
  /-- A call to start it is refused and changes nothing. -/
  | refused {connector : Option ι} {severity : Severity} {message : String}
      (reason : p.refusal? ≠ none ∨ p.holdsReceiver = false) :
      Step g h p [.initialised connector false] (p.tell severity message [])
  /-- A call to start it fails and disables it. -/
  | failed {connector : Option ι} {reason : String} (willing : p.refusal? = none) :
      Step g h p (.initialised connector false :: .disabled :: p.relinquished.map .inside)
        (p.disable reason)
  /-- A call starts it. -/
  | started {i : ι} {e : Endpoint} (willing : p.refusal? = none)
      (receiver : p.holdsReceiver = true) (transport : e.transport = (g.connector i).transport)
      (sound : p.settings.defect? = none) :
      Step g h p [.initialised (some i) true] (p.start (g.connector i) e)
  | shutDown : Step g h p (.shutDown :: p.relinquished.map .inside) p.shutdown
  /-- A log is thrown away. -/
  | discarded {t : Nat} {l : Log} {fields : List (String × FieldValue)} {message : String}
      (disabled : p.disabled = true) :
      Step g h p [.submitted t l .discarded] (p.tell .debug message fields)
  /-- A log is given to the queue. -/
  | submitted {t : Nat} {stays : Bool} {l : Log} {receipt : Receipt} (enabled : p.disabled = false)
      (fresh : t ∉ tickets (inner h))
      (answer : receipt = Receipt.ofAdmission (p.dispatcher.submit t stays l).1) :
      Step g h p (.submitted t l receipt :: (asking t stays l receipt).map .inside)
        { p with dispatcher := (p.dispatcher.submit t stays l).2 }
  | inside {m : Dispatcher.Move} {seen : List Sight} {d : Dispatcher β}
      (proper : m.Proper (inner h)) (made : p.inside? m = some (seen, d)) :
      Step g h p (seen.map .inside) { p with dispatcher := d }

theorem opened_tell (p : Pipeline β) (connector : Option ι) (severity : Severity)
    (message : String) :
    p.opened connector (false, p.tell severity message [])
      = ([.initialised connector false], p.tell severity message []) := by
  have same : (p.tell severity message []).disabled = p.disabled := rfl
  rw [opened, if_pos same]

theorem opened_start (p : Pipeline β) (connector : Option ι) (c : Connector β) (e : Endpoint) :
    p.opened connector (true, p.start c e)
      = ([.initialised connector true], p.start c e) := by
  have same : (p.start c e).disabled = p.disabled := rfl
  rw [opened, if_pos same]

theorem opened_disable (willing : p.refusal? = none) (connector : Option ι) (reason : String) :
    p.opened connector (false, p.disable reason)
      = (.initialised connector false :: .disabled :: p.relinquished.map .inside,
        p.disable reason) := by
  -- it was not disabled before, so the difference can be seen
  obtain ⟨-, enabled, -⟩ := refusal?_eq_none willing
  rw [opened, if_neg]
  rw [(p.disable_frame reason).2.1, enabled]
  exact Bool.noConfusion

theorem step_of_initWith {i : ι} {e : Endpoint} :
    Step g h p (p.opened (some i) (p.initWith (g.connector i) e)).1
      (p.opened (some i) (p.initWith (g.connector i) e)).2 := by
  rw [initWith]
  cases hr : p.refusal? with
  | some reason =>
    rw [opened_tell]
    exact .refused (Or.inl (by rw [hr]; exact Option.some_ne_none _))
  | none =>
    simp only
    -- the endpoint, the settings and the receiver are looked at in this order
    split
    · rw [opened_disable hr]
      exact .failed hr
    · next htransport =>
      cases hd : p.settings.defect? with
      | some defect =>
        rw [opened_disable hr]
        exact .failed hr
      | none =>
        simp only
        split
        · next hreceiver =>
          rw [opened_start]
          exact .started hr hreceiver (not_not.mp htransport) hd
        · next hreceiver =>
          rw [opened_tell]
          exact .refused (Or.inr (Bool.eq_false_iff.mpr hreceiver))

theorem step_of_init {e : Endpoint} :
    let connector := (Nats.Config.ofSettings e p.settings).toOption.map g.client
    let result := p.init (fun c => g.connector (g.client c)) e
    Step g h p (p.opened connector result).1 (p.opened connector result).2 := by
  intro connector result
  cases hr : p.refusal? with
  | some reason =>
    have hresult : result = (false, p.tell reason.1 reason.2 []) := by
      simp only [result, init, hr]
    rw [hresult, opened_tell]
    exact .refused (Or.inl (by rw [hr]; exact Option.some_ne_none _))
  | none =>
    simp only [result, init, hr]
    split
    · rw [opened_disable hr]
      exact .failed hr
    · cases hc : Nats.Config.ofSettings e p.settings with
      | error f =>
        rw [opened_disable hr]
        exact .failed hr
      -- what is left is a call with the connector for the configuration
      | ok config =>
        have hconnector : connector = some (g.client config) := by
          simp only [connector, hc]
          rfl
        rw [hconnector]
        exact step_of_initWith

/-- A disabled pipeline throws a log away. -/
theorem submit_disabled (disabled : p.disabled = true) (t : Nat) (stays : Bool) (l : Log) :
    p.submit t stays l = (.discarded, p.tell .debug "Audit pipeline disabled, log discarded"
      [("operation", .text l.operation)]) := by
  rw [submit, if_pos disabled]

/-- Otherwise the queue answers. -/
theorem submit_enabled (enabled : p.disabled = false) (t : Nat) (stays : Bool) (l : Log) :
    p.submit t stays l = (Receipt.ofAdmission (p.dispatcher.submit t stays l).1,
      { p with dispatcher := (p.dispatcher.submit t stays l).2 }) := by
  rw [submit, if_neg (Bool.eq_false_iff.mp enabled)]
  cases hr : p.dispatcher.submit t stays l with
  | mk r d => cases r <;> rfl

theorem step_of_submit {t : Nat} {stays : Bool} {l : Log} (fresh : t ∉ tickets (inner h)) :
    Step g h p (.submitted t l (p.submit t stays l).1 ::
        (asking t stays l (p.submit t stays l).1).map .inside) (p.submit t stays l).2 := by
  cases hd : p.disabled with
  | true =>
    rw [submit_disabled hd]
    exact .discarded hd
  | false =>
    rw [submit_enabled hd]
    exact .submitted hd fresh rfl

/-- **Inversion of a move.** -/
theorem step_of_step? {m : Move ι} (proper : m.Proper h) (made : p.step? g m = some (seen, p')) :
    Step g h p seen p' := by
  cases m with
  | init e =>
    obtain ⟨rfl, rfl⟩ := Prod.mk.inj (Option.some.inj made)
    exact step_of_init
  | initWith i e =>
    obtain ⟨rfl, rfl⟩ := Prod.mk.inj (Option.some.inj made)
    exact step_of_initWith
  | submit t stays l =>
    obtain ⟨rfl, rfl⟩ := Prod.mk.inj (Option.some.inj made)
    exact step_of_submit proper
  | shutdown =>
    obtain ⟨rfl, rfl⟩ := Prod.mk.inj (Option.some.inj made)
    exact .shutDown
  | inside m =>
    obtain ⟨⟨s, d⟩, hinside, heq⟩ := Option.map_eq_some_iff.mp made
    obtain ⟨rfl, rfl⟩ := Prod.mk.inj heq
    exact .inside proper hinside

/-- **Induction over a run.** What holds at the beginning and is kept by everything that can happen
holds after every run. -/
theorem Run.keeps {P : List (Episode ι) → Pipeline β → Prop} (run : Run g h₀ p₀ h p)
    (begin : P h₀ p₀)
    (step : ∀ {h seen p p'}, P h p → Step g h p seen p' → P (h ++ seen) p') : P h p := by
  induction run with
  | begin => exact begin
  | move run proper made ih => exact step ih (step_of_step? proper made)

/-! ### The dispatcher of a pipeline -/

end Pipeline

namespace Dispatcher

variable {β : Type} {a : Assignment β} {d d' : Dispatcher β} {seen : List Sight}

theorem Ending.stopped (ending : Ending d d') : ∃ time, d'.stage = .stopped time := by
  cases ending <;> exact ⟨_, rfl⟩

/-- What the dispatcher does by itself is a turn, or it ends. -/
theorem turn_or_ending_of_step? {m : Move} (own : m = .proceed ∨ m = .quit)
    (made : d.step? a m = some (seen, d')) : Turn a d d.working d' ∨ Ending d d' := by
  rcases own with rfl | rfl
  · obtain ⟨e, he, hw⟩ := Option.map_eq_some_iff.mp made
    obtain ⟨-, rfl⟩ := Prod.mk.inj hw
    exact (turn_or_ending_of_proceed? he).imp_right And.right
  · obtain ⟨e, he, hw⟩ := Option.map_eq_some_iff.mp made
    obtain ⟨-, rfl⟩ := Prod.mk.inj hw
    exact Or.inr (ending_of_quit? he)

theorem submit_frame (d : Dispatcher β) (t : Nat) (stays : Bool) (l : Log) :
    (d.submit t stays l).2.worker = d.worker ∧ (d.submit t stays l).2.stage = d.stage ∧
      (d.submit t stays l).2.producers = d.producers ∧
      (d.submit t stays l).2.queue.isOpen = d.queue.isOpen := by
  -- an offer may fill the queue, but it never closes it
  have isOpen : (d.queue.submit t stays l).2.isOpen = d.queue.isOpen := by
    unfold Queue.submit Queue.offer
    split
    · next hfull =>
      split at hfull
      · cases hfull
      · split at hfull <;> cases hfull
        rfl
    · split
      · rfl
      · split <;> rfl
  unfold submit
  cases hr : d.queue.submit t stays l with
  | mk r q =>
    rw [hr] at isOpen
    cases r <;> exact ⟨rfl, rfl, rfl, isOpen⟩

end Dispatcher

namespace Pipeline

variable {ι β : Type} {g : Supply ι β} {h₀ h seen : List (Episode ι)} {p₀ p p' : Pipeline β}
  {a : Assignment β}

/-- **A pipeline and its dispatcher agree** on whether it was started, and the producers are those
of the pipeline, which is there. -/
structure Coherent (p : Pipeline β) : Prop where
  dormant : p.dispatcher.stage = .dormant ↔ p.assignment = none
  producers : p.dispatcher.producers = true

theorem Coherent.begin {s : Settings} {broker : β} {ids : IdStream} {around : Surroundings}
    (new : Pipeline.new? s broker ids around = some p) : p.Coherent := by
  obtain ⟨q, -, rfl⟩ := Option.map_eq_some_iff.mp new
  exact ⟨iff_of_true rfl rfl, rfl⟩

theorem Coherent.same (hc : p.Coherent) (assignment : p'.assignment = p.assignment)
    (stage : p'.dispatcher.stage = p.dispatcher.stage)
    (producers : p'.dispatcher.producers = p.dispatcher.producers) : p'.Coherent where
  dormant := by
    rw [assignment, stage]
    exact hc.dormant
  producers := producers.trans hc.producers

/-- A pipeline that has the receiver of its queue has not started its dispatcher. -/
theorem Coherent.dormant_of_holdsReceiver (hc : p.Coherent) (receiver : p.holdsReceiver = true) :
    p.dispatcher.stage = .dormant ∧ p.dispatcher.queue.isOpen = true := by
  rw [holdsReceiver, Bool.and_eq_true, Option.isNone_iff_eq_none] at receiver
  exact ⟨hc.dormant.mpr receiver.1, receiver.2⟩

/-- **What is done without a call.** -/
inductive Inside (p : Pipeline β) (d : Dispatcher β) : Prop where
  /-- The dispatcher goes on with its work. -/
  | turn {a : Assignment β} {seen : List Sight} (assignment : p.assignment = some a)
      (turn : Dispatcher.Turn a p.dispatcher seen d)
  /-- The dispatcher ends. -/
  | ending {a : Assignment β} (assignment : p.assignment = some a)
      (ending : Dispatcher.Ending p.dispatcher d)
  /-- Producers come back or give up, or time passes; the dispatcher itself stays as it is. -/
  | around (stage : d.stage = p.dispatcher.stage)
      (producers : d.producers = p.dispatcher.producers)
      (isOpen : d.queue.isOpen = p.dispatcher.queue.isOpen)
      (worker : d.worker = { p.dispatcher.worker with now := d.worker.now })

theorem inside_of_inside? {m : Dispatcher.Move} {s : List Sight} {d : Dispatcher β}
    (made : p.inside? m = some (s, d)) : Inside p d := by
  -- by itself the dispatcher moves only if it was started
  have own {m : Dispatcher.Move} (hm : m = .proceed ∨ m = .quit)
      (hstep : (p.assignment.bind fun a => p.dispatcher.step? a m) = some (s, d)) :
      Inside p d := by
    obtain ⟨a, ha, hstep⟩ := Option.bind_eq_some_iff.mp hstep
    rcases Dispatcher.turn_or_ending_of_step? hm hstep with hturn | hending
    · exact .turn ha hturn
    · exact .ending ha hending
  cases m with
  | comeBack t l =>
    obtain ⟨-, rfl⟩ := Prod.mk.inj (Option.some.inj made)
    have isOpen : (p.dispatcher.queue.comeBack t l).2.isOpen = p.dispatcher.queue.isOpen := by
      unfold Queue.comeBack
      split <;> rfl
    exact .around rfl rfl isOpen rfl
  | abandon t =>
    obtain ⟨-, rfl⟩ := Prod.mk.inj (Option.some.inj made)
    have isOpen : (p.dispatcher.queue.abandon t).2.isOpen = p.dispatcher.queue.isOpen := by
      unfold Queue.abandon
      split
      · exact Queue.refill_isOpen _
      · rfl
    exact .around rfl rfl isOpen rfl
  | wait t =>
    obtain ⟨-, rfl⟩ := Prod.mk.inj (Option.some.inj made)
    exact .around rfl rfl rfl rfl
  | proceed => exact own (Or.inl rfl) made
  | quit => exact own (Or.inr rfl) made
  | _ => exact absurd made (by simp [inside?])

/-- What is done without a call changes neither the signal nor who is there, and it does not start
the dispatcher. One that was not started keeps its queue. -/
theorem Inside.frame {d : Dispatcher β} (inside : Inside p d) :
    d.worker.cancelled = p.dispatcher.worker.cancelled ∧
      d.producers = p.dispatcher.producers ∧
      (d.stage = .dormant ↔ p.dispatcher.stage = .dormant) ∧
      (p.dispatcher.stage = .dormant → d.queue.isOpen = p.dispatcher.queue.isOpen) := by
  cases inside with
  -- the dispatcher moves only while it runs, and does not sleep afterwards
  | turn assignment turn =>
    have awake := turn.running.1.1
    exact ⟨turn.frame.1, turn.frame.2, iff_of_false turn.started awake, fun h => absurd h awake⟩
  | ending assignment ending =>
    have awake := ending.running.1
    obtain ⟨time, hstopped⟩ := ending.stopped
    exact ⟨ending.frame.1, ending.frame.2, iff_of_false (by simp [hstopped]) awake,
      fun h => absurd h awake⟩
  | around stage producers isOpen worker =>
    exact ⟨by rw [worker], producers, by rw [stage], fun _ => isOpen⟩

/-- Whether the receiver is dropped or not, the dispatcher itself stays as it is. -/
theorem relinquish_frame (b : Bool) (d : Dispatcher β) :
    (if b then d.closeQueue else d).worker = d.worker ∧
      (if b then d.closeQueue else d).stage = d.stage ∧
      (if b then d.closeQueue else d).producers = d.producers := by
  cases b <;> exact ⟨rfl, rfl, rfl⟩

/-- **Every move keeps a pipeline and its dispatcher in agreement.** -/
theorem Coherent.step (hc : p.Coherent) (step : Step g h p seen p') : p'.Coherent := by
  cases step with
  | refused reason => exact hc.same rfl rfl rfl
  | @failed _ reason willing =>
    obtain ⟨-, -, ha, hd⟩ := p.disable_frame reason
    obtain ⟨-, hs, hp⟩ := relinquish_frame p.holdsReceiver p.dispatcher
    exact hc.same ha (hd ▸ hs) (hd ▸ hp)
  | started willing receiver transport sound =>
    exact ⟨iff_of_false Stage.noConfusion (Option.some_ne_none _), hc.producers⟩
  | shutDown =>
    obtain ⟨-, -, ha, hd⟩ := p.shutdown_frame
    obtain ⟨-, hs, hp⟩ := relinquish_frame p.holdsReceiver p.dispatcher.cancel
    exact hc.same ha (hd ▸ hs) (hd ▸ hp)
  | discarded disabled => exact hc.same rfl rfl rfl
  | @submitted t stays l _ enabled fresh answer =>
    obtain ⟨-, hs, hp, -⟩ := p.dispatcher.submit_frame t stays l
    exact hc.same rfl hs hp
  | inside proper made =>
    obtain ⟨-, hp, hs, -⟩ := (inside_of_inside? made).frame
    exact ⟨hs.trans hc.dormant, hp.trans hc.producers⟩

/-- **Induction over a run** in which the pipeline and its dispatcher agree, as they do after every
call. -/
theorem Run.keeps_coherent {P : List (Episode ι) → Pipeline β → Prop} (run : Run g h₀ p₀ h p)
    (coherent : p₀.Coherent) (begin : P h₀ p₀)
    (step : ∀ {h seen p p'}, p.Coherent → P h p → Step g h p seen p' → P (h ++ seen) p') :
    p.Coherent ∧ P h p :=
  run.keeps (P := fun h p => p.Coherent ∧ P h p) ⟨coherent, begin⟩
    fun ih move => ⟨ih.1.step move, step ih.1 ih.2 move⟩

/-! ### Runs of a pipeline and runs of its dispatcher -/

/-- What a dispatcher works for, if it works. -/
def WorksFor (p : Pipeline β) (a : Assignment β) : Prop :=
  ∀ a', p.assignment = some a' → a' = a

theorem step?_of_inside? {m : Dispatcher.Move} {s : List Sight} {d : Dispatcher β}
    {a : Assignment β} (works : p.WorksFor a) (made : p.inside? m = some (s, d)) :
    m.isInner = true ∧ p.dispatcher.step? a m = some (s, d) := by
  cases m with
  | comeBack t l => exact ⟨rfl, made⟩
  | abandon t => exact ⟨rfl, made⟩
  | wait t => exact ⟨rfl, made⟩
  | proceed =>
    obtain ⟨a', ha, hstep⟩ := Option.bind_eq_some_iff.mp made
    exact ⟨rfl, works a' ha ▸ hstep⟩
  | quit =>
    obtain ⟨a', ha, hstep⟩ := Option.bind_eq_some_iff.mp made
    exact ⟨rfl, works a' ha ▸ hstep⟩
  | _ => exact absurd made (by simp [inside?])

section DispatcherSteps

/-! What every move of a dispatcher keeps is kept by every move of its pipeline. -/

variable {Q : List Sight → Dispatcher β → Prop}

/-- Nothing is seen inside when the dispatcher does nothing. -/
theorem keeps_still {d : Dispatcher β} (holds : Q (inner h) d) (silent : inner seen = []) :
    Q (inner (h ++ seen)) d := by
  rw [inner_append, silent, List.append_nil]
  exact holds

/-- A pipeline that has the receiver drops it. -/
theorem keeps_relinquished
    (keeps : ∀ {h seen m d d'}, Q h d → m.Proper h → d.step? a m = some (seen, d') →
      Q (h ++ seen) d')
    {d : Dispatcher β} (hc : p.Coherent) (stage : d.stage = p.dispatcher.stage)
    (queue : d.queue = p.dispatcher.queue) (holds : Q (inner h) d) :
    Q (inner h ++ p.relinquished) (if p.holdsReceiver then d.closeQueue else d) := by
  unfold relinquished
  split
  -- with the receiver still there the dispatcher sleeps, and then dropping it is a move
  · next receiver =>
    have dormant := stage.trans (hc.dormant_of_holdsReceiver receiver).1
    have dismissed : d.dismissed = p.dispatcher.dismissed := by
      rw [Dispatcher.dismissed, Dispatcher.dismissed, queue]
    rw [← dismissed]
    exact keeps (m := .drop) holds trivial (by rw [Dispatcher.step?, dormant])
  · rw [List.append_nil]
    exact holds

/-- **A move of a pipeline** is made of moves of its dispatcher, or of none. -/
theorem keeps_step
    (keeps : ∀ {h seen m d d'}, Q h d → m.Proper h → d.step? a m = some (seen, d') →
      Q (h ++ seen) d')
    (hc : p.Coherent) (step : Step g h p seen p') (works : p'.WorksFor a)
    (holds : p.WorksFor a → Q (inner h) p.dispatcher) :
    Q (inner (h ++ seen)) p'.dispatcher := by
  cases step with
  | refused reason => exact keeps_still (holds works) rfl
  | @failed connector reason willing =>
    obtain ⟨-, -, ha, hd⟩ := p.disable_frame reason
    have hafter := keeps_relinquished keeps hc rfl rfl (holds fun a' h => works a' (ha.trans h))
    rw [hd, inner_append, inner_cons rfl, inner_cons rfl, inner_map_inside]
    exact hafter
  | @started i e willing receiver transport sound =>
    -- nothing was done for anyone before
    obtain ⟨hdormant, hopen⟩ := hc.dormant_of_holdsReceiver receiver
    have hnone := hc.dormant.mp hdormant
    obtain rfl : (⟨p.settings, g.connector i, p.around⟩ : Assignment β) = a := works _ rfl
    have hbefore := holds fun a' h => absurd (hnone.symm.trans h) (Option.some_ne_none a').symm
    have hmove := keeps (m := .start) hbefore trivial
      (by rw [Dispatcher.step?, hdormant, if_pos hopen])
    rw [inner_append, inner_cons rfl]
    exact hmove
  -- the signal is given first, and then the receiver is dropped
  | shutDown =>
    obtain ⟨-, -, ha, hd⟩ := p.shutdown_frame
    have hcancel := keeps (m := .cancel) (holds fun a' h => works a' (ha.trans h)) trivial rfl
    rw [List.append_nil] at hcancel
    have hafter := keeps_relinquished (d := p.dispatcher.cancel) keeps hc rfl rfl hcancel
    rw [hd, inner_append, inner_cons rfl, inner_map_inside]
    exact hafter
  | discarded disabled => exact keeps_still (holds works) rfl
  | @submitted t stays l receipt enabled fresh answer =>
    subst answer
    rw [inner_append, inner_cons rfl, inner_map_inside]
    refine keeps (m := .submit t stays l) (holds works) fresh ?_
    rw [Dispatcher.step?, if_pos hc.producers]
    cases hr : (p.dispatcher.submit t stays l).1 <;> simp only [asking, Receipt.ofAdmission]
  | inside proper made =>
    obtain ⟨-, hstep⟩ := step?_of_inside? (p := p) works made
    rw [inner_append, inner_map_inside]
    exact keeps (holds works) proper hstep

end DispatcherSteps

/-- **What happens inside a pipeline is a run of its dispatcher**, for whatever it was started, or
for anything at all if it was not. -/
theorem Run.dispatcher {s : Settings} {broker : β} {ids : IdStream} {around : Surroundings}
    (new : Pipeline.new? s broker ids around = some p₀) (run : Run g [] p₀ h p)
    (works : p.WorksFor a) :
    Dispatcher.Run a p₀.dispatcher (inner h) p.dispatcher := by
  -- the pipeline works for nobody before it works for someone, and so this is about every run
  have both := run.keeps_coherent
    (P := fun h p => p.WorksFor a → Dispatcher.Run a p₀.dispatcher (inner h) p.dispatcher)
    (.begin new) (fun _ => .begin) fun hc ih step works =>
      keeps_step (fun run proper made => run.move proper made) hc step works ih
  exact both.2 works

/-! ### A rehearsal -/

namespace Rehearsal

/-- Two connectors of different kinds; the first one is a client of NATS. -/
def supply : Supply Bool Scripted.Broker where
  connector i := if i then Scripted.connector Nats.transport "first"
    else Scripted.connector "other" "second"
  client _ := true

/-- A pipeline with the settings as they are when nothing is said. -/
def pipeline : Pipeline Scripted.Broker where
  settings := .default
  disabled := false
  assignment := none
  dispatcher := .new (.new [] []) ⟨1000, [], [], [], true⟩ .counted
  around := .ofChance fun _ => 0
  events := []

/-- A log is given, the pipeline is started, and started again with what does not fit; the
dispatcher sends the log, and the pipeline is shut down. -/
def moves : List (Move Bool) :=
  [.submit 0 true default, .initWith true .default, .initWith false .default, .inside .proceed,
    .inside .proceed, .inside .proceed, .inside .proceed, .inside .proceed, .shutdown,
    .init .default, .submit 1 true default]

/-- What is seen of it, and what comes of it. -/
def outcome : List (Episode Bool) × Pipeline Scripted.Broker :=
  play supply pipeline moves

theorem new :
    Pipeline.new? .default (.new [] []) .counted (.ofChance fun _ => 0) = some pipeline := rfl

theorem run : Run supply [] pipeline outcome.1 outcome.2 :=
  run_play ..

end Rehearsal

end Pipeline

end AuditRelay
