import AuditRelay.Proofs.Decision
import AuditRelay.Proofs.Process

/-!
# What settings may ask for

Numbers from the settings reach code that accepts some numbers only: there is no queue without
places and none with too many, no random number below zero, and no count beyond the range of its
type. Whoever asks for such a thing does not get an error, the program ends. `Demand` lists what is
asked for and `Demand.Met` what can be had.

* `new?_isSome_iff`: the queue is made before anyone looks at the settings, and it can be made up to
  `Queue.maxCapacity` places. Nothing to be found among the defects of settings
  (`Settings.defect?`) keeps them below that, so settings that are fit may ask for too many
  (`Rehearsal.unbuilt`).
* `Dispatcher.Counted` is the invariant behind the counts: an attempt is counted when it begins, so
  no count is larger than the number of attempts that were ever begun.
* `within_limits` puts together that nothing else can go wrong: for settings that ask for no more
  places than there can be, a pipeline is made; it starts if the settings are fit, and is disabled
  if they are not; and whatever it does in any run can be had.
-/

namespace AuditRelay

/-! ### Demands -/

/-- What is asked of the code below. -/
inductive Demand where
  /-- A queue with some places. -/
  | queue (places : Nat)
  /-- A random number below a bound. -/
  | draw (bound : Nat)
  /-- A number of permits for calls. -/
  | permits (n : Nat)
  /-- A count of fewer than `size` that goes on from `n`. -/
  | count (size n : Nat)
  /-- A pause of some milliseconds. -/
  | pause (ms : Nat)

/-- **What can be had.** A pause is kept as seconds in 64 bits and the rest as nanoseconds in 32
bits. -/
def Demand.Met : Demand → Prop
  | queue places => 1 ≤ places ∧ places ≤ Queue.maxCapacity
  | draw bound => 1 ≤ bound
  | permits n => n ≤ Queue.maxCapacity
  | count size n => n + 1 < size
  | pause ms => ms / 1000 < UInt64.size ∧ ms % 1000 * 1000000 < UInt32.size

/-- All of some demands can be had. -/
def Demand.AllMet (demands : List Demand) : Prop :=
  ∀ q ∈ demands, q.Met

theorem Demand.allMet_nil : AllMet [] :=
  fun _ hq => absurd hq List.not_mem_nil

theorem Demand.allMet_singleton {q : Demand} (met : q.Met) : AllMet [q] :=
  fun _ hq => List.mem_singleton.mp hq ▸ met

/-- Every number of milliseconds in 64 bits is a pause. -/
theorem Demand.pause_met (ms : UInt64) : (pause ms.toNat).Met := by
  have hsize : ms.toNat < UInt64.size := ms.toNat_lt
  refine ⟨Nat.lt_of_le_of_lt (Nat.div_le_self ..) hsize, ?_⟩
  have hrest : ms.toNat % 1000 < 1000 := Nat.mod_lt _ (by decide)
  rw [show UInt32.size = 4294967296 from rfl]
  omega

/-- A queue can be had if there can be one of that capacity. -/
theorem Demand.queue_met_iff {α : Type} (places : Nat) :
    (queue places).Met ↔ ∃ q : Queue α, Queue.new? places = some q := by
  unfold Met Queue.new?
  constructor
  · rintro ⟨some, bounded⟩
    rw [if_neg (by omega)]
    exact ⟨_, rfl⟩
  · rintro ⟨q, hq⟩
    split at hq
    · cases hq
    · omega

/-! ### What is asked for -/

/-- What is asked for when a pipeline is made. -/
def Pipeline.demands (s : Settings) : List Demand :=
  [.queue (capacityOf s)]

/-- What is asked for when a pipeline is started: the pause between two attempts. -/
def Settings.demands (s : Settings) : List Demand :=
  [.pause s.interval.toNat]

/-- What is asked for to make a log into a message. -/
def Message.demands (s : Settings) : List Demand :=
  match s.partitioning with
  | .single => []
  | .random n => [.draw (max n.toNat 1)]

/-- What is asked for when an attempt begins: it is counted in 64 bits. -/
def Trial.demands {α : Type} : Trial α → List Demand
  | .ready made => [.count UInt64.size made]
  | _ => []

/-- What a dispatcher asks for when it goes on. -/
def Dispatcher.demands {β : Type} (a : Assignment β) (d : Dispatcher β) : List Demand :=
  match d.stage with
  | .connecting t => t.demands
  | .idle => Message.demands a.settings
  | .publishing _ _ t => t.demands
  | _ => []

namespace Nats

/-- What a client asks for when it is connected. -/
def Config.demands (c : Config) : List Demand :=
  [.permits (max c.openRequests.toNat 1), .pause c.backoff.toNat]

/-- What a client asks for when an answer arrives: a request that is repeated is counted in 32
bits. -/
def Sending.demands (retries : Nat) : Sending → List Demand
  | .asking made => if made < retries then [.count UInt32.size made] else []
  | _ => []

/-- The count of the requests is compared with the retries before it goes on. -/
theorem Sending.demands_met (c : Config) (s : Sending) :
    Demand.AllMet (s.demands c.retries.toNat) := by
  have hsize : c.retries.toNat < UInt32.size := c.retries.toNat_lt
  cases s with
  | asking made =>
    simp only [demands]
    split
    · next more =>
      have bounded : made + 1 < UInt32.size := Nat.lt_of_le_of_lt more hsize
      exact Demand.allMet_singleton bounded
    · exact Demand.allMet_nil
  | _ => exact Demand.allMet_nil

/-- Fit settings ask for one call at a time. -/
theorem Config.demands_met {s : Settings} {e : Endpoint} {c : Config} (fit : s.Fit)
    (config : ofSettings e s = .ok c) : Demand.AllMet c.demands := by
  have follows := (follows_of_ofSettings config).openRequests
  have one : s.openRequests = 1 := UInt64.toNat.inj fit.openRequests
  rw [one, if_neg (by decide)] at follows
  unfold demands
  rw [follows]
  intro q hq
  rcases List.mem_cons.mp hq with rfl | hlast
  · exact (by decide : max (1 : UInt64).toNat 1 ≤ Queue.maxCapacity)
  · exact List.mem_singleton.mp hlast ▸ Demand.pause_met c.backoff

end Nats

/-- There is always a partition to draw. -/
theorem Message.demands_met (s : Settings) : Demand.AllMet (demands s) := by
  unfold demands
  split
  · exact Demand.allMet_nil
  · exact Demand.allMet_singleton (Nat.le_max_right ..)

/-! ### Attempts are counted when they begin -/

namespace Dispatcher

variable {β : Type} {a : Assignment β} {h seen : List Sight} {d d' : Dispatcher β}

/-- **No count is larger** than the number of attempts that were begun. -/
structure Counted (d : Dispatcher β) : Prop where
  connecting : ∀ t, d.stage = .connecting t → t.made ≤ d.worker.dials.length
  publishing : ∀ l m t, d.stage = .publishing l m t → t.made ≤ d.worker.sends.length

theorem Counted.same (hc : Counted d) (stage : d'.stage = d.stage)
    (dials : d'.worker.dials = d.worker.dials) (sends : d'.worker.sends = d.worker.sends) :
    Counted d' where
  connecting := by
    rw [stage, dials]
    exact hc.connecting
  publishing := by
    rw [stage, sends]
    exact hc.publishing

/-- Nothing is counted but in an attempt to connect or to send. -/
theorem Counted.elsewhere (connecting : ∀ t, d.stage ≠ .connecting t)
    (publishing : ∀ l m t, d.stage ≠ .publishing l m t) : Counted d :=
  ⟨fun t ht => absurd ht (connecting t), fun l m t ht => absurd ht (publishing l m t)⟩

/-- Only the attempt to connect is counted. -/
theorem Counted.dialing {t : Trial Unit} (stage : d.stage = .connecting t)
    (made : t.made ≤ d.worker.dials.length) : Counted d := by
  refine ⟨fun t' ht' => ?_, fun l m t' ht' => ?_⟩
  · obtain rfl := Stage.connecting.inj (stage.symm.trans ht')
    exact made
  · exact absurd (stage.symm.trans ht') Stage.noConfusion

/-- Only the attempt to send is counted. -/
theorem Counted.sending {l : Log} {m : Message} {t : Trial Nat}
    (stage : d.stage = .publishing l m t) (made : t.made ≤ d.worker.sends.length) :
    Counted d := by
  refine ⟨fun t' ht' => ?_, fun l' m' t' ht' => ?_⟩
  · exact absurd (stage.symm.trans ht') Stage.noConfusion
  · obtain ⟨-, -, rfl⟩ := Stage.publishing.inj (stage.symm.trans ht')
    exact made

/-- Going on with connecting counts no more than it begins. -/
theorem Dial.made_le {c : Connector β} {i : Nat} {t t' : Trial Unit} {w w' : Worker β}
    (dial : Dial c i w t t' w') (made : t.made ≤ w.dials.length) :
    t'.made ≤ w'.dials.length := by
  cases dial with
  | quit cancelled => exact Nat.zero_le _
  | asked uncancelled => exact Nat.succ_le_succ made
  | succeeded arrived answer => exact made
  | failed arrived answer => exact made
  | woke due => exact made

theorem Counted.turn (hc : Counted d) (turn : Turn a d seen d') : Counted d' := by
  cases turn with
  | connecting stage dial goesOn =>
    exact .dialing rfl ((dial_of_dial? dial).made_le (hc.connecting _ stage))
  | connected stage dial => exact .elsewhere (by simp [tell]) (by simp [tell])
  | took stage items => exact .sending rfl (Nat.zero_le _)
  | sent stage => exact .sending rfl (Nat.succ_le_succ (hc.publishing _ _ _ stage))
  | acknowledged stage arrived answer => exact .elsewhere (by simp [tell]) (by simp [tell])
  | refused stage arrived answer =>
    have made := hc.publishing _ _ _ stage
    exact .sending rfl made
  | woke stage due =>
    have made := hc.publishing _ _ _ stage
    exact .sending rfl made

/-- **Every move counts no more than it begins.** -/
theorem Counted.step (hc : Counted d) (step : Step a h d seen d') : Counted d' := by
  cases step with
  | start stage isOpen => exact .dialing rfl (Nat.zero_le _)
  | turn turn => exact hc.turn turn
  | ending silent ending =>
    obtain ⟨time, stopped⟩ := ending.stopped
    exact .elsewhere (by simp [stopped]) (by simp [stopped])
  | _ => exact hc.same rfl rfl rfl

theorem Run.counted {broker : β} {q : Queue Log} {ids : IdStream}
    (run : Run a (.new broker q ids) h d) : Counted d :=
  run.keeps (P := fun _ d => Counted d) (.elsewhere (by simp [Dispatcher.new])
    (by simp [Dispatcher.new])) fun hc step => hc.step step

/-- An attempt that is counted can be counted once more, if there were not too many. -/
theorem Counted.demands_met (hc : Counted d) (dials : d.worker.dials.length + 1 < UInt64.size)
    (sends : d.worker.sends.length + 1 < UInt64.size) : Demand.AllMet (d.demands a) := by
  -- only a count that is to go on asks for anything
  have next {α : Type} {t : Trial α} {n : Nat} (made : t.made ≤ n) (few : n + 1 < UInt64.size) :
      Demand.AllMet t.demands := by
    cases t with
    | ready made' =>
      have bounded : made' + 1 < UInt64.size := Nat.lt_of_le_of_lt (Nat.succ_le_succ made) few
      exact Demand.allMet_singleton bounded
    | _ => exact Demand.allMet_nil
  unfold demands
  cases hs : d.stage with
  | dormant => exact Demand.allMet_nil
  | connecting t => exact next (hc.connecting t hs) dials
  | idle => exact Message.demands_met a.settings
  | publishing l m t => exact next (hc.publishing l m t hs) sends
  | stopped time => exact Demand.allMet_nil

end Dispatcher

/-! ### A pipeline within the limits -/

namespace Pipeline

variable {ι β : Type} {g : Supply ι β} {s : Settings} {h : List (Episode ι)} {p₀ p : Pipeline β}
  {broker : β} {ids : IdStream} {around : Surroundings}

theorem demands_met_iff : Demand.AllMet (demands s) ↔ s.capacity.toNat ≤ Queue.maxCapacity := by
  have places : (Demand.queue (capacityOf s)).Met ↔ s.capacity.toNat ≤ Queue.maxCapacity := by
    have least : 1 ≤ Queue.maxCapacity := by decide
    unfold Demand.Met capacityOf
    omega
  rw [← places]
  exact ⟨fun met => met _ (List.mem_singleton.mpr rfl), Demand.allMet_singleton⟩

/-- **A pipeline can be made** if its queue can, whatever else the settings say. -/
theorem new?_isSome_iff :
    (∃ p₀, new? s broker ids around = some p₀) ↔ s.capacity.toNat ≤ Queue.maxCapacity := by
  rw [← demands_met_iff]
  unfold new?
  constructor
  · rintro ⟨p₀, hp⟩
    obtain ⟨q, hq, -⟩ := Option.map_eq_some_iff.mp hp
    exact Demand.allMet_singleton ((Demand.queue_met_iff _).mpr ⟨q, hq⟩)
  · intro met
    obtain ⟨q, hq⟩ := (Demand.queue_met_iff _).mp (met _ (List.mem_singleton.mpr rfl))
    exact ⟨_, by rw [hq]; rfl⟩

/-- A pipeline whose settings are not fit is never started. -/
theorem Run.unstarted_of_unfit (new : Pipeline.new? s broker ids around = some p₀)
    (run : Run g [] p₀ h p) (unfit : ¬s.Fit) : p.isStarted = false := by
  have begin : p₀.settings = s ∧ p₀.assignment = none := by
    obtain ⟨q, -, rfl⟩ := Option.map_eq_some_iff.mp new
    exact ⟨rfl, rfl⟩
  have never : p.settings = s ∧ p.assignment = none := by
    refine run.keeps (P := fun _ p => p.settings = s ∧ p.assignment = none) begin ?_
    rintro h seen p p' ⟨hs, ha⟩ step
    cases step with
    | @failed connector reason willing =>
      obtain ⟨hs', -, ha', -⟩ := p.disable_frame reason
      exact ⟨hs'.trans hs, ha'.trans ha⟩
    | started willing receiver transport sound =>
      -- a call looks for defects before it starts anything
      exact absurd (hs ▸ Settings.defect?_eq_none.mp sound) unfit
    | shutDown =>
      obtain ⟨hs', -, ha', -⟩ := p.shutdown_frame
      exact ⟨hs'.trans hs, ha'.trans ha⟩
    | _ => exact ⟨hs, ha⟩
  rw [isStarted, never.2]
  rfl

/-- A call that finds settings unfit disables the pipeline. -/
theorem initWith_unfit (willing : p.refusal? = none) (unfit : ¬p.settings.Fit) (c : Connector β)
    (e : Endpoint) : ∃ reason, p.initWith c e = (false, p.disable reason) := by
  rw [initWith, willing]
  simp only
  split
  · exact ⟨_, rfl⟩
  · cases hd : p.settings.defect? with
    | some d => exact ⟨_, rfl⟩
    | none => exact absurd (Settings.defect?_eq_none.mp hd) unfit

theorem init_unfit (willing : p.refusal? = none) (unfit : ¬p.settings.Fit)
    (client : Nats.Config → Connector β) (e : Endpoint) :
    ∃ reason, p.init client e = (false, p.disable reason) := by
  rw [init, willing]
  simp only
  split
  · exact ⟨_, rfl⟩
  · cases Nats.Config.ofSettings e p.settings with
    | error f => exact ⟨_, rfl⟩
    | ok config => exact initWith_unfit willing unfit (client config) e

/-- A call to start a pipeline has answered no, and the pipeline is disabled. -/
def Declined (result : Bool × Pipeline β) : Prop :=
  result.1 = false ∧ result.2.disabled = true

/-- With settings that are not fit every call leaves the pipeline disabled. -/
theorem declined_of_unfit (new : Pipeline.new? s broker ids around = some p₀)
    (run : Run g [] p₀ h p) (unfit : ¬s.Fit) (cancelled : p.isCancelled = false)
    (c : Connector β) (client : Nats.Config → Connector β) (e : Endpoint) :
    Declined (p.initWith c e) ∧ Declined (p.init client e) := by
  obtain ⟨-, hf⟩ := run.flags new
  have started := run.unstarted_of_unfit new unfit
  cases hr : p.refusal? with
  | none =>
    obtain ⟨reason, hwith⟩ := initWith_unfit hr (hf.settings ▸ unfit) c e
    obtain ⟨reason', hinit⟩ := init_unfit hr (hf.settings ▸ unfit) client e
    rw [hwith, hinit]
    exact ⟨⟨rfl, (p.disable_frame reason).2.1⟩, ⟨rfl, (p.disable_frame reason').2.1⟩⟩
  | some refusal =>
    -- it was neither shut down nor started, so it is disabled already
    have disabled : p.disabled = true := by
      by_contra enabled
      have enabled := Bool.eq_false_iff.mpr enabled
      have bypass : p.settings.bypass = false := by
        rw [hf.settings, ← Bool.not_eq_true]
        exact fun hb => Bool.noConfusion ((hf.disabled.mpr (Or.inl hb)).symm.trans enabled)
      rw [refusal?_of_flags bypass enabled cancelled started] at hr
      cases hr
    have hwith : p.initWith c e = (false, p.tell refusal.1 refusal.2 []) := by rw [initWith, hr]
    have hinit : p.init client e = (false, p.tell refusal.1 refusal.2 []) := by rw [init, hr]
    rw [hwith, hinit]
    exact ⟨⟨rfl, disabled⟩, ⟨rfl, disabled⟩⟩

/-- **What a pipeline asks for can be had.** -/
structure WithinLimits (g : Supply ι β) (s : Settings) (p₀ : Pipeline β) : Prop where
  willing : s.bypass = false → p₀.refusal? = none
  /-- A call with an endpoint that fits the connector starts it, if nobody has started, disabled or
  shut it down. -/
  started : s.Fit → ∀ {h p}, Run g [] p₀ h p → p.refusal? = none → ∀ c e,
    e.transport = c.transport → p.initWith c e = (true, p.start c e)
  pause : Demand.AllMet s.demands
  /-- Settings that are not fit disable it, whatever it is started with. -/
  declined : ¬s.Fit → ∀ {h p}, Run g [] p₀ h p → p.isCancelled = false → ∀ c client e,
    Declined (p.initWith c e) ∧ Declined (p.init client e)
  message : Demand.AllMet (Message.demands s)
  /-- Whatever the dispatcher is about to do in a run, unless it has begun more attempts than can be
  counted in 64 bits. -/
  running : ∀ {h p a}, Run g [] p₀ h p → p.assignment = some a →
    p.dispatcher.worker.dials.length + 1 < UInt64.size →
    p.dispatcher.worker.sends.length + 1 < UInt64.size →
    Demand.AllMet (p.dispatcher.demands a)
  /-- A client for the settings, and the calls it makes. -/
  client : s.Fit → ∀ {e config}, Nats.Config.ofSettings e s = .ok config →
    Demand.AllMet config.demands ∧
      ∀ call : Nats.Sending, Demand.AllMet (call.demands config.retries.toNat)

/-- **All that settings ask for can be had** if they ask for no more places than a queue can have. -/
theorem within_limits (room : s.capacity.toNat ≤ Queue.maxCapacity) (g : Supply ι β) (broker : β)
    (ids : IdStream) (around : Surroundings) :
    Demand.AllMet (demands s) ∧
      ∃ p₀, Pipeline.new? s broker ids around = some p₀ ∧ WithinLimits g s p₀ := by
  obtain ⟨p₀, new⟩ := new?_isSome_iff.mpr room
  refine ⟨demands_met_iff.mpr room, p₀, new, ?_⟩
  constructor
  · intro bypass
    obtain ⟨q, -, rfl⟩ := Option.map_eq_some_iff.mp new
    exact refusal?_of_flags bypass bypass rfl rfl
  · intro fit h p run willing c e transport
    obtain ⟨-, hf⟩ := run.flags new
    obtain ⟨-, disabled, cancelled, started⟩ := refusal?_eq_none willing
    exact initWith_fit willing (hf.holdsReceiver disabled cancelled started) transport
      (hf.settings ▸ fit)
  · exact Demand.allMet_singleton (Demand.pause_met s.interval)
  · intro unfit h p run cancelled c client e
    exact declined_of_unfit new run unfit cancelled c client e
  · exact Message.demands_met s
  · intro h p a run assignment dials sends
    -- what is done inside a pipeline is a run of its dispatcher
    have works : p.WorksFor a := fun a' ha' => Option.some.inj (ha'.symm.trans assignment)
    have inner := run.dispatcher new works
    obtain ⟨q, -, rfl⟩ := Option.map_eq_some_iff.mp new
    exact inner.counted.demands_met dials sends
  · intro fit e config hconfig
    exact ⟨Nats.Config.demands_met fit hconfig, Nats.Sending.demands_met config⟩

/-! ### A rehearsal -/

namespace Rehearsal

/-- Settings with one place more than a queue can have. -/
def roomy (topic : String) : Settings :=
  { Settings.default with topic := topic, capacity := 2305843009213693952 }

/-- **There is no pipeline for them**, though nothing is wrong with the first ones; nor does it help
that the others would have been found out. -/
theorem unbuilt :
    ((roomy "log").defect? = none ∧
        new? (roomy "log") (Scripted.Broker.new [] []) .counted (.ofChance fun _ => 0) = none) ∧
      ((roomy "").defect? = some .emptyTopic ∧
        new? (roomy "") (Scripted.Broker.new [] []) .counted (.ofChance fun _ => 0) = none) :=
  ⟨⟨rfl, rfl⟩, ⟨rfl, rfl⟩⟩

/-- Settings with all numbers as large as they can be. -/
def vast : Settings where
  topic := "log"
  stream := ""
  capacity := 2305843009213693951
  interval := 18446744073709551615
  retries := 4294967295
  openRequests := 1
  replicas := 18446744073709551615
  partitioning := .random 4294967295
  origin := ⟨"", ⟨""⟩⟩
  bypass := false

end Rehearsal

theorem rehearsal_within_limits :
    Rehearsal.vast.capacity.toNat ≤ Queue.maxCapacity ∧ Rehearsal.vast.defect? = none ∧
      Demand.AllMet (demands Rehearsal.vast) ∧
      ∃ p₀, new? Rehearsal.vast (Scripted.Broker.new [] []) .counted (.ofChance fun _ => 0)
          = some p₀ ∧
        WithinLimits Rehearsal.supply Rehearsal.vast p₀ :=
  ⟨by decide, rfl,
    within_limits (by decide) Rehearsal.supply (.new [] []) .counted (.ofChance fun _ => 0)⟩

end Pipeline

end AuditRelay
