import AuditRelay.Proofs.Lifecycle
import AuditRelay.Recorder

/-!
# Brokers that are left alone

An overseen connector does what the connector does that it is made of, and notes every request in
the state of the broker. So the notes say which connectors were ever asked for anything, and the
runs are those of any connectors whatever.

`Traced` is the invariant: every request was made to the connector of the call that has started the
pipeline, and before that call there was none. `Untouched` is what follows from it. A connector
that was only given to calls that have failed is never asked for anything. A pipeline that is
bypassed, or that a call has disabled, asks nobody for anything, then and ever after; it takes every
log at once and forgets it (`Idle`).
-/

namespace AuditRelay

/-- A request to a broker, and the connector to which it was made. -/
inductive Request (ι : Type) where
  | dial (connector : ι)
  | send (connector : ι) (m : Message)

namespace Request

/-- The connector to which it was made. -/
def connector {ι : Type} : Request ι → ι
  | dial i => i
  | send i _ => i

end Request

/-- A connector whose requests are noted; the state of the broker comes with the notes, the newest
first. -/
def Connector.overseen {ι β : Type} (i : ι) (c : Connector β) :
    Connector (β × List (Request ι)) where
  transport := c.transport
  client := c.client
  connect b := ((c.connect b.1).1, (c.connect b.1).2, .dial i :: b.2)
  send m b := ((c.send m b.1).1, (c.send m b.1).2, .send i m :: b.2)
  failures b := c.failures b.1

namespace Dispatcher

variable {β : Type} {a : Assignment β} {d d' : Dispatcher β} {seen : List Sight}

/-- The broker changes only by a request to the connector. -/
theorem Turn.broker_cases (turn : Turn a d seen d') :
    d'.worker.broker = d.worker.broker ∨
      d'.worker.broker = (a.connector.connect d.worker.broker).2 ∨
      ∃ m, d'.worker.broker = (a.connector.send m d.worker.broker).2 := by
  have dialled {i : Nat} {t t' : Trial Unit} {w : Worker β}
      (dial : Dial a.connector i d.worker t t' w) :
      w.broker = d.worker.broker ∨ w.broker = (a.connector.connect d.worker.broker).2 := by
    cases dial with
    | asked uncancelled => exact Or.inr rfl
    | _ => exact Or.inl rfl
  cases turn with
  | connecting stage dial goesOn =>
    exact (dialled (dial_of_dial? dial)).imp_right Or.inl
  | connected stage dial => exact (dialled (dial_of_dial? dial)).imp_right Or.inl
  | @sent l m made stage => exact Or.inr (Or.inr ⟨m, rfl⟩)
  | _ => exact Or.inl rfl

theorem Ending.broker_eq (ending : Ending d d') : d'.worker.broker = d.worker.broker := by
  cases ending with
  | @unconnected t w stage cancelled link =>
    have hw : w.broker = d.worker.broker := by rw [link]
    exact hw
  | exhausted stage left drained => rfl
  | resigned stage cancelled => rfl

end Dispatcher

namespace Pipeline

variable {ι γ β : Type} {g : Supply ι β} {s : Settings} {h seen : List (Episode ι)}

/-- The connectors of a supply, all of them overseen. -/
def Supply.overseen (g : Supply ι β) : Supply ι (β × List (Request ι)) where
  connector i := (g.connector i).overseen i
  client := g.client

/-- The requests that were made so far. -/
def requests (p : Pipeline (β × List (Request ι))) : List (Request ι) :=
  p.dispatcher.worker.broker.2

variable {p₀ p p' : Pipeline (β × List (Request ι))}

/-! ### Who is asked -/

/-- **Every request has its reason** in a call that has started the pipeline. -/
structure Traced (g : Supply ι β) (h : List (Episode ι)) (p : Pipeline (β × List (Request ι))) :
    Prop where
  /-- The dispatcher works with the connector of that call. -/
  assigned : ∀ a, p.assignment = some a →
    ∃ i, a.connector = (g.connector i).overseen i ∧ .initialised (some i) true ∈ h
  reason : ∀ r ∈ p.requests, .initialised (some r.connector) true ∈ h
  /-- Before it nothing is done. -/
  asleep : p.assignment = none → p.requests = [] ∧ p.stats = .zero

theorem Traced.begin {b : β} {ids : IdStream} {around : Surroundings}
    (new : Pipeline.new? s (b, []) ids around = some p) : Traced g h p := by
  obtain ⟨q, -, rfl⟩ := Option.map_eq_some_iff.mp new
  refine ⟨fun a ha => ?_, fun r hr => ?_, fun _ => ⟨rfl, rfl⟩⟩
  · cases ha
  · exact absurd hr List.not_mem_nil

/-- What makes no request and starts nothing changes none of it. -/
theorem Traced.still (ht : Traced g h p) (assignment : p'.assignment = p.assignment)
    (broker : p'.dispatcher.worker.broker = p.dispatcher.worker.broker)
    (stats : p'.assignment = none → p'.stats = p.stats) : Traced g (h ++ seen) p' := by
  have same : p'.requests = p.requests := congrArg Prod.snd broker
  refine ⟨fun a ha => ?_, fun r hr => ?_, fun hnone => ?_⟩
  · obtain ⟨i, hi, hmem⟩ := ht.assigned a (assignment ▸ ha)
    exact ⟨i, hi, List.mem_append_left _ hmem⟩
  · exact List.mem_append_left _ (ht.reason r (same ▸ hr))
  · obtain ⟨hrequests, hstats⟩ := ht.asleep (assignment ▸ hnone)
    exact ⟨same.trans hrequests, (stats hnone).trans hstats⟩

/-- A request to the connector of the call is added to the notes. -/
theorem Traced.turn (ht : Traced g h p) {a : Assignment (β × List (Request ι))}
    (assignment : p.assignment = some a) {d : Dispatcher (β × List (Request ι))}
    {sights : List Sight} (turn : Dispatcher.Turn a p.dispatcher sights d) :
    Traced g (h ++ seen) { p with dispatcher := d } := by
  obtain ⟨i, hconnector, hmem⟩ := ht.assigned a assignment
  -- the notes are as before, or there is one more, and it names that connector
  have noted : ∀ r ∈ d.worker.broker.2, r ∈ p.requests ∨ r.connector = i := by
    intro r hr
    rcases turn.broker_cases with hsame | hdial | ⟨m, hsend⟩
    · rw [hsame] at hr
      exact Or.inl hr
    · rw [hdial, hconnector] at hr
      rcases List.mem_cons.mp hr with rfl | hold
      · exact Or.inr rfl
      · exact Or.inl hold
    · rw [hsend, hconnector] at hr
      rcases List.mem_cons.mp hr with rfl | hold
      · exact Or.inr rfl
      · exact Or.inl hold
  refine ⟨fun a' ha' => ?_, fun r hr => ?_, fun hnone => ?_⟩
  · obtain rfl : a = a' := Option.some.inj (assignment.symm.trans ha')
    exact ⟨i, hconnector, List.mem_append_left _ hmem⟩
  · rcases noted r hr with hold | rfl
    · exact List.mem_append_left _ (ht.reason r hold)
    · exact List.mem_append_left _ hmem
  · exact absurd (assignment.symm.trans hnone) (Option.some_ne_none a)

theorem Traced.inside (ht : Traced g h p) {d : Dispatcher (β × List (Request ι))}
    (inside : Inside p d) : Traced g (h ++ seen) { p with dispatcher := d } := by
  cases inside with
  | turn assignment turn => exact ht.turn assignment turn
  | ending assignment ending =>
    exact ht.still rfl ending.broker_eq fun hnone =>
      absurd (assignment.symm.trans hnone) (Option.some_ne_none _)
  | around stage producers isOpen worker =>
    have broker : d.worker.broker = p.dispatcher.worker.broker := by rw [worker]
    have stats : d.worker.stats = p.dispatcher.worker.stats := by rw [worker]
    exact ht.still rfl broker fun _ => stats

/-- **Every move leaves every request with a reason.** -/
theorem Traced.step (ht : Traced g h p) (step : Step g.overseen h p seen p') :
    Traced g (h ++ seen) p' := by
  cases step with
  | refused reason => exact ht.still rfl rfl fun _ => rfl
  | @failed connector reason willing =>
    obtain ⟨-, -, ha, hd⟩ := p.disable_frame reason
    have hw := hd ▸ (relinquish_frame p.holdsReceiver p.dispatcher).1
    exact ht.still ha (congrArg Worker.broker hw) fun _ => congrArg Worker.stats hw
  | @started i e willing receiver transport sound =>
    obtain ⟨-, -, -, unstarted⟩ := refusal?_eq_none willing
    have hmem : Episode.initialised (some i) true ∈ h ++ [.initialised (some i) true] :=
      List.mem_append_right _ (List.mem_singleton.mpr rfl)
    refine ⟨fun a ha => ⟨i, ?_, hmem⟩, fun r hr => ?_, fun hnone => ?_⟩
    · obtain rfl := Option.some.inj ha
      rfl
    · exact List.mem_append_left _ (ht.reason r hr)
    · exact absurd hnone (Option.some_ne_none _)
  | shutDown =>
    obtain ⟨-, -, ha, hd⟩ := p.shutdown_frame
    have hw := hd ▸ (relinquish_frame p.holdsReceiver p.dispatcher.cancel).1
    exact ht.still ha ((congrArg Worker.broker hw).trans rfl) fun _ =>
      (congrArg Worker.stats hw).trans rfl
  | discarded disabled => exact ht.still rfl rfl fun _ => rfl
  | @submitted t stays l _ enabled fresh answer =>
    have hw := (p.dispatcher.submit_frame t stays l).1
    exact ht.still rfl (congrArg Worker.broker hw) fun _ => congrArg Worker.stats hw
  | inside proper made => exact ht.inside (inside_of_inside? made)

theorem Run.traced {b : β} {ids : IdStream} {around : Surroundings}
    (new : Pipeline.new? s (b, []) ids around = some p₀) (run : Run g.overseen [] p₀ h p) :
    Traced g h p :=
  run.keeps (.begin new) fun ht step => ht.step step

/-! ### Pipelines that ask nobody -/

/-- **A pipeline that is idle.** It has asked nobody for anything, and it takes every log at once
without doing anything with it. -/
structure Idle (p : Pipeline (β × List (Request ι))) : Prop where
  requests : p.requests = []
  stats : p.stats = .zero
  submit : ∀ t stays l, (p.submit t stays l).1.ending = some (.ok ()) ∧
    (p.submit t stays l).2.dispatcher = p.dispatcher
  /-- A recorder says so, however many logs it is given. -/
  recordMany : ∀ r : Recorder (β × List (Request ι)), r.pipeline = p → ∀ l n,
    (∀ e ∈ (r.recordMany l n).1, e.2 = some (.ok ())) ∧
      (r.recordMany l n).2.pipeline.dispatcher = p.dispatcher
  /-- And so it does to a thread that would block. -/
  recordBlocking : ∀ r : Recorder (β × List (Request ι)), r.pipeline = p → ∀ patience l,
    (r.recordBlocking patience l).1 = some (.ok ()) ∧
      (r.recordBlocking patience l).2.pipeline.dispatcher = p.dispatcher

/-- A pipeline that is disabled and has no dispatcher at work. -/
structure Deaf (p : Pipeline γ) : Prop where
  disabled : p.disabled = true
  unstarted : p.assignment = none

/-- All that it does with a log is to tell that it is thrown away. -/
def forgetting (p : Pipeline γ) (l : Log) : Pipeline γ :=
  p.tell .debug "Audit pipeline disabled, log discarded" [("operation", .text l.operation)]

theorem Deaf.forgetting {p : Pipeline γ} (deaf : p.Deaf) (l : Log) : (p.forgetting l).Deaf :=
  ⟨deaf.disabled, deaf.unstarted⟩

theorem Deaf.settle {p : Pipeline γ} (deaf : p.Deaf) : p.settle = p := by
  rw [Pipeline.settle, deaf.unstarted]

theorem record_deaf {r : Recorder γ} (deaf : r.pipeline.Deaf) (l : Log) :
    r.record l = (some (.ok ()),
      { r with pipeline := r.pipeline.forgetting l, made := r.made + 1 }) := by
  rw [Recorder.record, submit_disabled deaf.disabled]
  -- no dispatcher is there to go on with anything
  have settled := (deaf.forgetting l).settle
  rw [Pipeline.forgetting] at settled ⊢
  simp only [settled]
  rfl

theorem recordBlocking_deaf {r : Recorder γ} (deaf : r.pipeline.Deaf) (patience : Nat) (l : Log) :
    r.recordBlocking patience l = (some (.ok ()),
      { r with pipeline := r.pipeline.forgetting l, spawned := r.spawned + 1 }) := by
  rw [Recorder.recordBlocking, Recorder.call, submit_disabled deaf.disabled]
  have settled := (deaf.forgetting l).settle
  rw [Pipeline.forgetting] at settled ⊢
  simp only [settled]
  rfl

theorem recordMany_deaf {r : Recorder γ} (deaf : r.pipeline.Deaf) (l : Log) (n : Nat) :
    (∀ e ∈ (r.recordMany l n).1, e.2 = some (.ok ())) ∧
      (r.recordMany l n).2.pipeline.dispatcher = r.pipeline.dispatcher := by
  -- by induction on the number of logs; each of them leaves a pipeline that is deaf
  induction n generalizing r with
  | zero => exact ⟨fun e he => absurd he List.not_mem_nil, rfl⟩
  | succ n ih =>
    rw [Recorder.recordMany, record_deaf deaf]
    obtain ⟨hends, hdispatcher⟩ := ih (r := { r with
      pipeline := r.pipeline.forgetting l, made := r.made + 1 }) (deaf.forgetting l)
    refine ⟨fun e he => ?_, hdispatcher⟩
    rcases List.mem_cons.mp he with rfl | hrest
    · rfl
    · exact hends e hrest

theorem Deaf.idle (deaf : p.Deaf) (ht : Traced g h p) : Idle p where
  requests := (ht.asleep deaf.unstarted).1
  stats := (ht.asleep deaf.unstarted).2
  submit t stays l := by
    rw [submit_disabled deaf.disabled]
    exact ⟨rfl, rfl⟩
  recordMany := by
    rintro r rfl l n
    exact recordMany_deaf deaf l n
  recordBlocking := by
    rintro r rfl patience l
    rw [recordBlocking_deaf deaf]
    exact ⟨rfl, rfl⟩

/-! ### Nobody is touched -/

/-- **Brokers that are left alone** by a pipeline with the settings `s`, for which the environment
says `value?`. -/
structure Untouched (g : Supply ι β) (s : Settings) (value? : Option String)
    (h : List (Episode ι)) (p : Pipeline (β × List (Request ι))) : Prop where
  /-- The environment turns the bypass on if it says so in this very word, and never off; it has no
  say in anything else. -/
  settings : p.settings = { s with bypass := s.bypass || value? == some "true" }
  /-- A connector that was only given to calls that have failed is never asked for anything. -/
  refused : ∀ i, .initialised (some i) true ∉ h → ∀ r ∈ p.requests, r.connector ≠ i
  /-- A pipeline that is bypassed, or that a call has disabled, is idle from then on. -/
  idle : p.settings.bypass = true ∨ .disabled ∈ h → ∀ {h' p'}, Run g.overseen h p h' p' → Idle p'

/-- The environment turns the bypass on and never off. -/
theorem withEnvironment_eq (s : Settings) (value? : Option String) :
    s.withEnvironment value? = { s with bypass := s.bypass || value? == some "true" } := by
  unfold Settings.withEnvironment
  split
  · next asks =>
    rw [asks]
    simp [Settings.bypassValue]
  · next silent =>
    have hne : (value? == some "true") = false := beq_eq_false_iff_ne.mpr silent
    rw [hne, Bool.or_false]

/-- A pipeline that is disabled was not started. -/
theorem Flags.deaf {p : Pipeline γ} (hf : Flags s h p) (disabled : p.disabled = true) : p.Deaf where
  disabled := disabled
  unstarted := by
    cases ha : p.assignment with
    | none => rfl
    | some a =>
      have started : p.isStarted = true := congrArg Option.isSome ha
      exact absurd (disabled.symm.trans (hf.apart started)) (by simp)

/-- **No broker is touched** by a pipeline that has refused, or that is disabled. -/
theorem untouched {b : β} {ids : IdStream} {around : Surroundings} {value? : Option String}
    (new : Pipeline.new? (s.withEnvironment value?) (b, []) ids around = some p₀)
    (run : Run g.overseen [] p₀ h p) : Untouched g s value? h p where
  settings := (run.flags new).2.settings.trans (withEnvironment_eq s value?)
  refused i never r hr he := by
    obtain ⟨-, hreason, -⟩ := run.traced new
    exact never (he ▸ hreason r hr)
  idle reason h' p' later := by
    obtain ⟨-, hf⟩ := run.flags new
    obtain ⟨-, hf'⟩ := (run.trans later).flags new
    -- it was disabled then, so it is disabled now, and was never started
    have disabled : p.disabled = true :=
      hf.disabled.mpr (reason.imp_left fun hb => hf.settings ▸ hb)
    exact (hf'.deaf ((hf.lasting hf' later).2.1 disabled)).idle ((run.trans later).traced new)

namespace Rehearsal

/-- The pipeline of the rehearsal with overseen connectors. -/
def watched : Pipeline (Scripted.Broker × List (Request Bool)) where
  settings := .default
  disabled := false
  assignment := none
  dispatcher := .new (.new [] [], []) ⟨1000, [], [], [], true⟩ .counted
  around := .ofChance fun _ => 0
  events := []

/-- The first call names the wrong kind of broker, and the second one comes too late. -/
def failing : List (Move Bool) :=
  [.initWith false .default, .initWith true .default, .submit 0 true default, .shutdown]

/-- What is seen of some moves when all connectors are overseen, and what comes of them. -/
def watch (ms : List (Move Bool)) :
    List (Episode Bool) × Pipeline (Scripted.Broker × List (Request Bool)) :=
  play supply.overseen watched ms

end Rehearsal

theorem rehearsal_untouched :
    ((Rehearsal.watch Rehearsal.moves).2.requests.map Request.connector = [true, true] ∧
        Untouched Rehearsal.supply .default none (Rehearsal.watch Rehearsal.moves).1
          (Rehearsal.watch Rehearsal.moves).2) ∧
      (Rehearsal.watch Rehearsal.failing).2.disabled = true ∧
        Untouched Rehearsal.supply .default none (Rehearsal.watch Rehearsal.failing).1
          (Rehearsal.watch Rehearsal.failing).2 :=
  ⟨⟨rfl, untouched rfl (run_play ..)⟩, rfl, untouched rfl (run_play ..)⟩

end Pipeline

end AuditRelay
