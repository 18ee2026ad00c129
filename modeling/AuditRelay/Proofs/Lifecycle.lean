import AuditRelay.Proofs.Calls

/-!
# The life of a pipeline

Three flags and the receiver of the queue decide what a call does to a pipeline: whether it was
started, whether it is disabled, whether it was shut down, and whether the receiver is still with
the pipeline. `Flags` says that each of them can be read off the calls that were made.

`Lifecycle` is what follows for every sequence of calls, good or bad, in any order:

* at most one call starts the pipeline, and no flag is ever taken back;
* once the pipeline is disabled or shut down, no call starts it any more;
* a pipeline that was started stays enabled, and a call to start it again leaves it as it is.
-/

namespace AuditRelay.Pipeline

variable {ι β : Type} {g : Supply ι β} {s : Settings} {h seen : List (Episode ι)}
  {p₀ p p' : Pipeline β}

/-! ### What the flags say -/

/-- Nothing is seen that sets a flag. -/
def Quiet (seen : List (Episode ι)) : Prop :=
  ∀ e ∈ seen, e.isStart = false ∧ e ≠ .disabled ∧ e ≠ .shutDown

theorem quiet_inside (seen : List Sight) : Quiet (seen.map (.inside : Sight → Episode ι)) := by
  intro e he
  obtain ⟨s, -, rfl⟩ := List.mem_map.mp he
  exact ⟨rfl, nofun, nofun⟩

theorem quiet_initialised (connector : Option ι) : Quiet [.initialised connector false] := by
  intro e he
  rw [List.mem_singleton.mp he]
  exact ⟨rfl, nofun, nofun⟩

theorem quiet_submitted (t : Nat) (l : Log) (r : Receipt) (seen : List Sight) :
    Quiet (.submitted t l r :: seen.map (.inside : Sight → Episode ι)) := by
  intro e he
  rcases List.mem_cons.mp he with rfl | hin
  · exact ⟨rfl, nofun, nofun⟩
  · exact quiet_inside seen e hin

/-- **The flags of a pipeline** with the settings `s` after some calls. -/
structure Flags (s : Settings) (h : List (Episode ι)) (p : Pipeline β) : Prop where
  settings : p.settings = s
  /-- It was started if a call has said so, and no second call has. -/
  once : (h.filter Episode.isStart).length = if p.isStarted then 1 else 0
  disabled : p.disabled = true ↔ s.bypass = true ∨ .disabled ∈ h
  cancelled : p.isCancelled = true ↔ .shutDown ∈ h
  apart : p.isStarted = true → p.disabled = false
  /-- The receiver goes to the dispatcher, or is dropped by a call that fails or shuts the pipeline
  down. -/
  receiver : p.holdsReceiver = true ↔ p.isStarted = false ∧ .shutDown ∉ h ∧ .disabled ∉ h

theorem Flags.begin {broker : β} {ids : IdStream} {around : Surroundings}
    (new : Pipeline.new? s broker ids around = some p) :
    Flags s ([] : List (Episode ι)) p := by
  obtain ⟨q, hq, rfl⟩ := Option.map_eq_some_iff.mp new
  obtain ⟨rfl, -⟩ := Queue.new?_eq_some hq
  refine ⟨rfl, rfl, ?_, iff_of_false Bool.false_ne_true List.not_mem_nil, fun h => ?_, ?_⟩
  · exact ⟨Or.inl, fun h => h.resolve_right List.not_mem_nil⟩
  · cases h
  · exact iff_of_true rfl ⟨rfl, List.not_mem_nil, List.not_mem_nil⟩

/-- What sets no flag leaves all of them as they are. -/
theorem Flags.still (hf : Flags s h p) (quiet : Quiet seen)
    (settings : p'.settings = p.settings) (started : p'.isStarted = p.isStarted)
    (disabled : p'.disabled = p.disabled) (cancelled : p'.isCancelled = p.isCancelled)
    (receiver : p'.holdsReceiver = p.holdsReceiver) : Flags s (h ++ seen) p' := by
  -- whatever is asked of the history has the same answer as before
  have noStart : seen.filter Episode.isStart = [] :=
    List.filter_eq_nil_iff.mpr fun e he => Bool.eq_false_iff.mp (quiet e he).1
  have noDisabled : Episode.disabled ∉ seen := fun he => (quiet _ he).2.1 rfl
  have noShutDown : Episode.shutDown ∉ seen := fun he => (quiet _ he).2.2 rfl
  have hd : Episode.disabled ∈ h ++ seen ↔ Episode.disabled ∈ h := by
    rw [List.mem_append, or_iff_left noDisabled]
  have hs : Episode.shutDown ∈ h ++ seen ↔ Episode.shutDown ∈ h := by
    rw [List.mem_append, or_iff_left noShutDown]
  refine ⟨settings.trans hf.settings, ?_, ?_, ?_, ?_, ?_⟩
  · rw [List.filter_append, noStart, List.append_nil, started]
    exact hf.once
  · rw [disabled, hd]
    exact hf.disabled
  · rw [cancelled, hs]
    exact hf.cancelled
  · rw [started, disabled]
    exact hf.apart
  · rw [receiver, started, hd, hs]
    exact hf.receiver

/-- A pipeline drops the receiver for good. -/
theorem holdsReceiver_of_relinquished (d : Dispatcher β)
    (assignment : p'.assignment = p.assignment) (isOpen : d.queue.isOpen = p.dispatcher.queue.isOpen)
    (dispatcher : p'.dispatcher = if p.holdsReceiver then d.closeQueue else d) :
    p'.holdsReceiver = false := by
  cases hr : p.holdsReceiver with
  | true =>
    rw [hr] at dispatcher
    rw [holdsReceiver, dispatcher, Bool.and_eq_false_iff]
    exact Or.inr rfl
  | false =>
    rw [hr] at dispatcher
    rw [holdsReceiver, assignment, dispatcher]
    exact (congrArg (p.assignment.isNone && ·) isOpen).trans hr

/-- A call that fails disables the pipeline, which was not started. -/
theorem Flags.failed (hf : Flags s h p) (reason : String) (willing : p.refusal? = none) :
    Flags s (h ++ [.disabled]) (p.disable reason) := by
  obtain ⟨-, -, hcancelled, hstarted⟩ := refusal?_eq_none willing
  obtain ⟨hsettings, hdisabled, hassignment, hdispatcher⟩ := p.disable_frame reason
  have started : (p.disable reason).isStarted = false := by
    rw [isStarted, hassignment]
    exact hstarted
  have cancelled : (p.disable reason).isCancelled = p.isCancelled := by
    rw [isCancelled, hdispatcher, (relinquish_frame _ _).1]
    rfl
  have disabled : Episode.disabled ∈ h ++ [.disabled] :=
    List.mem_append_right _ (List.mem_singleton.mpr rfl)
  refine ⟨hsettings.trans hf.settings, ?_, ?_, ?_, ?_, ?_⟩
  · rw [List.filter_append, started, ← hstarted]
    exact (congrArg List.length (List.append_nil _)).trans hf.once
  · exact iff_of_true hdisabled (Or.inr disabled)
  · rw [cancelled, List.mem_append, or_iff_left (by simp)]
    exact hf.cancelled
  · rw [started]
    exact fun h => absurd h Bool.false_ne_true
  · rw [holdsReceiver_of_relinquished p.dispatcher hassignment rfl hdispatcher]
    exact iff_of_false Bool.false_ne_true fun h => h.2.2 disabled

/-- A call that succeeds finds the receiver and takes it. -/
theorem Flags.started (hf : Flags s h p) (i : ι) (e : Endpoint) (willing : p.refusal? = none) :
    Flags s (h ++ [.initialised (some i) true]) (p.start (g.connector i) e) := by
  obtain ⟨-, hdisabled, -, hstarted⟩ := refusal?_eq_none willing
  have started : (p.start (g.connector i) e).isStarted = true := rfl
  refine ⟨hf.settings, ?_, ?_, ?_, fun _ => hdisabled, ?_⟩
  · -- it is the first call that has started the pipeline
    have none := hf.once
    rw [hstarted] at none
    rw [List.filter_append, List.length_append, none, started]
    rfl
  · rw [List.mem_append, or_iff_left (by simp : Episode.disabled ∉ [.initialised (some i) true])]
    exact hf.disabled
  · rw [List.mem_append, or_iff_left (by simp : Episode.shutDown ∉ [.initialised (some i) true])]
    exact hf.cancelled
  · exact iff_of_false Bool.false_ne_true fun h => Bool.noConfusion (started.symm.trans h.1)

theorem Flags.shutDown (hf : Flags s h p) : Flags s (h ++ [.shutDown]) p.shutdown := by
  obtain ⟨hsettings, hdisabled, hassignment, hdispatcher⟩ := p.shutdown_frame
  have started : p.shutdown.isStarted = p.isStarted := congrArg Option.isSome hassignment
  have cancelled : p.shutdown.isCancelled = true := by
    rw [isCancelled, hdispatcher, (relinquish_frame _ _).1]
    rfl
  have shutDown : Episode.shutDown ∈ h ++ [.shutDown] :=
    List.mem_append_right _ (List.mem_singleton.mpr rfl)
  refine ⟨hsettings.trans hf.settings, ?_, ?_, iff_of_true cancelled shutDown, ?_, ?_⟩
  · rw [List.filter_append, started]
    exact (congrArg List.length (List.append_nil _)).trans hf.once
  · rw [hdisabled, List.mem_append, or_iff_left (by simp : Episode.disabled ∉ [.shutDown])]
    exact hf.disabled
  · rw [started, hdisabled]
    exact hf.apart
  · rw [holdsReceiver_of_relinquished p.dispatcher.cancel hassignment rfl hdispatcher]
    exact iff_of_false Bool.false_ne_true fun h => h.2.1 shutDown

/-- **Every move keeps the flags true.** -/
theorem Flags.step (hc : p.Coherent) (hf : Flags s h p) (step : Step g h p seen p') :
    Flags s (h ++ seen) p' := by
  cases step with
  | refused reason =>
    exact hf.still (quiet_initialised _) rfl rfl rfl rfl rfl
  -- the answer is seen first, then what the failure does, then who is sent away for it
  | @failed connector reason willing =>
    have called := hf.still (quiet_initialised connector) rfl rfl rfl rfl rfl
    have closed := (called.failed reason willing).still (quiet_inside p.relinquished)
      rfl rfl rfl rfl rfl
    simpa using closed
  | @started i e willing receiver transport sound => exact hf.started i e willing
  | shutDown =>
    have closed := hf.shutDown.still (quiet_inside p.relinquished) rfl rfl rfl rfl rfl
    simpa using closed
  | discarded disabled =>
    exact hf.still (quiet_submitted _ _ _ []) rfl rfl rfl rfl rfl
  | @submitted t stays l receipt enabled fresh answer =>
    obtain ⟨hw, -, -, ho⟩ := p.dispatcher.submit_frame t stays l
    exact hf.still (quiet_submitted t l receipt _) rfl rfl rfl (congrArg Worker.cancelled hw)
      (congrArg (p.assignment.isNone && ·) ho)
  | inside proper made =>
    obtain ⟨hcancelled, -, -, hopen⟩ := (inside_of_inside? made).frame
    refine hf.still (quiet_inside _) rfl rfl rfl hcancelled ?_
    rw [holdsReceiver, holdsReceiver]
    -- without an assignment the dispatcher sleeps, and then the queue stays as it is
    cases ha : p.assignment with
    | none => rw [hopen (hc.dormant.mpr ha)]
    | some a => rfl

theorem Run.flags {broker : β} {ids : IdStream} {around : Surroundings}
    (new : Pipeline.new? s broker ids around = some p₀) (run : Run g [] p₀ h p) :
    p.Coherent ∧ Flags s h p :=
  run.keeps_coherent (.begin new) (.begin new) fun hc hf step => hf.step hc step

/-- A pipeline was started if a call has said so. -/
theorem Flags.started_iff (hf : Flags s h p) :
    p.isStarted = true ↔ ∃ connector, .initialised connector true ∈ h := by
  have exists_of_isStart {e : Episode ι} (he : e.isStart = true) :
      ∃ connector, e = .initialised connector true := by
    cases e with
    | initialised connector answer => exact ⟨connector, congrArg _ he⟩
    | _ => cases he
  -- there is one such call in the history, or none
  have once := hf.once
  constructor
  · intro started
    rw [started] at once
    obtain ⟨e, hone⟩ := List.length_eq_one_iff.mp once
    obtain ⟨hmem, hstart⟩ := List.mem_filter.mp (hone ▸ List.mem_singleton.mpr rfl)
    obtain ⟨connector, rfl⟩ := exists_of_isStart hstart
    exact ⟨connector, hmem⟩
  · rintro ⟨connector, hmem⟩
    have hpos := List.length_pos_of_mem (List.mem_filter.mpr ⟨hmem, rfl⟩ :
      Episode.initialised connector true ∈ h.filter Episode.isStart)
    by_contra unstarted
    rw [once, if_neg unstarted] at hpos
    exact Nat.lt_irrefl 0 hpos

/-! ### The whole life -/

/-- Nothing that was seen is forgotten. -/
theorem Run.exists_append {h' : List (Episode ι)} (later : Run g h p h' p') :
    ∃ seen, h' = h ++ seen := by
  induction later with
  | begin => exact ⟨[], (List.append_nil h).symm⟩
  | @move h₁ seen _ _ _ _ _ _ ih =>
    obtain ⟨seen₁, rfl⟩ := ih
    exact ⟨seen₁ ++ seen, List.append_assoc ..⟩

/-- What happens later never clears a flag. -/
theorem Flags.lasting {h' : List (Episode ι)} (hf : Flags s h p) (hf' : Flags s h' p')
    (later : Run g h p h' p') :
    (p.isStarted = true → p'.isStarted = true) ∧ (p.disabled = true → p'.disabled = true) ∧
      (p.isCancelled = true → p'.isCancelled = true) := by
  obtain ⟨seen, rfl⟩ := later.exists_append
  refine ⟨fun started => ?_, fun disabled => ?_, fun cancelled => ?_⟩
  · obtain ⟨connector, hmem⟩ := hf.started_iff.mp started
    exact hf'.started_iff.mpr ⟨connector, List.mem_append_left _ hmem⟩
  · exact hf'.disabled.mpr ((hf.disabled.mp disabled).imp_right (List.mem_append_left _))
  · exact hf'.cancelled.mpr (List.mem_append_left _ (hf.cancelled.mp cancelled))

/-- No call starts a pipeline that is disabled or was shut down. -/
theorem Step.noStart (step : Step g h p seen p')
    (ended : p.disabled = true ∨ p.isCancelled = true) : seen.filter Episode.isStart = [] := by
  have inside (seen : List Sight) :
      (seen.map (.inside : Sight → Episode ι)).filter Episode.isStart = [] :=
    List.filter_eq_nil_iff.mpr fun e he => Bool.eq_false_iff.mp (quiet_inside seen e he).1
  cases step with
  | refused reason => rfl
  | failed willing => exact inside _
  | started willing receiver transport sound =>
    obtain ⟨-, enabled, uncancelled, -⟩ := refusal?_eq_none willing
    rcases ended with disabled | cancelled
    · exact absurd (disabled.symm.trans enabled) (by simp)
    · exact absurd (cancelled.symm.trans uncancelled) (by simp)
  | shutDown => exact inside _
  | discarded disabled => rfl
  | submitted enabled fresh answer => exact inside _
  | inside proper made => exact inside _

/-- A call was refused, and nothing is different but what the pipeline tells. -/
structure Unmoved (p : Pipeline β) (result : Bool × Pipeline β) : Prop where
  answer : result.1 = false
  same : { result.2 with events := p.events } = p

/-- A pipeline that was started is not started again, whatever it is given. -/
theorem unmoved_of_started (started : p.isStarted = true) (c : Connector β)
    (client : Nats.Config → Connector β) (e : Endpoint) :
    Unmoved p (p.initWith c e) ∧ Unmoved p (p.init client e) := by
  cases hr : p.refusal? with
  | none =>
    obtain ⟨-, -, -, unstarted⟩ := refusal?_eq_none hr
    exact absurd (started.symm.trans unstarted) (by simp)
  | some reason =>
    have hwith : p.initWith c e = (false, p.tell reason.1 reason.2 []) := by rw [initWith, hr]
    have hinit : p.init client e = (false, p.tell reason.1 reason.2 []) := by rw [init, hr]
    rw [hwith, hinit]
    exact ⟨⟨rfl, rfl⟩, ⟨rfl, rfl⟩⟩

/-- **The life of a pipeline** with the settings `s`, as far as the calls `h` go. -/
structure Lifecycle (g : Supply ι β) (s : Settings) (h : List (Episode ι)) (p : Pipeline β) :
    Prop extends Flags s h p where
  /-- At most one call has started it, and it is started from that call on. -/
  started : (h.filter Episode.isStart).length ≤ 1 ∧
    (p.isStarted = true ↔ ∃ connector, .initialised connector true ∈ h)
  /-- No flag is ever taken back. -/
  lasting : ∀ {h' p'}, Run g h p h' p' → (p.isStarted = true → p'.isStarted = true) ∧
    (p.disabled = true → p'.disabled = true) ∧ (p.isCancelled = true → p'.isCancelled = true)
  /-- Once it is disabled or was shut down, no call starts it. -/
  ended : p.disabled = true ∨ p.isCancelled = true → ∀ {h' p'}, Run g h p h' p' →
    h'.filter Episode.isStart = h.filter Episode.isStart
  /-- A call to start it again, good or bad, leaves it enabled and changes neither the dispatcher
  nor its queue. -/
  running : p.isStarted = true → p.disabled = false ∧
    ∀ c client e, Unmoved p (p.initWith c e) ∧ Unmoved p (p.init client e)

/-- **The lifecycle of a pipeline**, for every sequence of calls. -/
theorem lifecycle {broker : β} {ids : IdStream} {around : Surroundings}
    (new : Pipeline.new? s broker ids around = some p₀) (run : Run g [] p₀ h p) :
    Lifecycle g s h p := by
  obtain ⟨-, hf⟩ := run.flags new
  have lasting {h' : List (Episode ι)} {p' : Pipeline β} (later : Run g h p h' p') :=
    hf.lasting ((run.trans later).flags new).2 later
  refine { hf with
    started := ⟨?_, hf.started_iff⟩
    lasting := lasting
    ended := fun ended h' p' later => ?_
    running := fun started => ⟨hf.apart started, unmoved_of_started started⟩ }
  · rw [hf.once]
    split
    · exact Nat.le_refl 1
    · exact Nat.zero_le 1
  · -- what is over stays over, so no later move starts the pipeline
    induction later with
    | begin => rfl
    | move later proper made ih =>
      obtain ⟨-, hdisabled, hcancelled⟩ := lasting later
      have noStart := (step_of_step? proper made).noStart (ended.imp hdisabled hcancelled)
      rw [List.filter_append, noStart, List.append_nil]
      exact ih

theorem rehearsal_lifecycle :
    (Rehearsal.outcome.2.isStarted, Rehearsal.outcome.2.disabled,
        Rehearsal.outcome.2.isCancelled, Rehearsal.outcome.2.holdsReceiver)
      = (true, false, true, false) ∧
      Lifecycle Rehearsal.supply .default Rehearsal.outcome.1 Rehearsal.outcome.2 :=
  ⟨rfl, lifecycle Rehearsal.new Rehearsal.run⟩

end AuditRelay.Pipeline
