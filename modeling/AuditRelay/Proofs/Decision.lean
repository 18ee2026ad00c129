import AuditRelay.Nats.Server
import AuditRelay.Proofs.Configuration
import AuditRelay.Proofs.Lifecycle

/-!
# Whether a pipeline starts

Four functions decide whether a call with an endpoint starts a pipeline: the call itself looks at
the kind of broker, `Nats.Auth.ofCredentials` at the mechanism, `Settings.defect?` at the settings,
and the call with the connector looks at the kind of broker again. `Suitable` says what all of them
ask for together, and `init_decision` that a pipeline nobody has started, disabled or shut down
starts exactly then. Otherwise the call disables it and closes its queue.

`Settings.Fit` spells out when nothing is wrong with settings.
-/

namespace AuditRelay

/-! ### Settings with nothing wrong -/

/-- What is asked of settings before a pipeline runs with them. -/
structure Settings.Fit (s : Settings) : Prop where
  topic : s.topic ≠ ""
  capacity : 1 ≤ s.capacity.toNat
  openRequests : s.openRequests.toNat = 1
  replicas : 1 ≤ s.replicas.toNat
  partitions : ∀ n, s.partitioning = .random n → 1 ≤ n.toNat

/-- **Settings have no defect** if they are fit. -/
theorem Settings.defect?_eq_none {s : Settings} : s.defect? = none ↔ s.Fit := by
  unfold defect?
  constructor
  · intro sound
    split at sound
    · cases sound
    · next topic =>
      split at sound
      · cases sound
      · next capacity =>
        split at sound
        · cases sound
        · next openRequests =>
          split at sound
          · cases sound
          · next replicas =>
            split at sound
            · cases sound
            · next partitions =>
              refine ⟨topic, ?_, congrArg UInt64.toNat (not_not.mp openRequests), ?_, ?_⟩
              · exact Nat.one_le_iff_ne_zero.mpr fun h => capacity (UInt64.toNat.inj h)
              · exact Nat.one_le_iff_ne_zero.mpr fun h => replicas (UInt64.toNat.inj h)
              · intro n hn
                refine Nat.one_le_iff_ne_zero.mpr fun h => partitions ?_
                rw [hn, show n = 0 from UInt32.toNat.inj h]
  · rintro ⟨topic, capacity, openRequests, replicas, partitions⟩
    have hcapacity : s.capacity ≠ 0 := by
      rintro h
      rw [h] at capacity
      exact absurd capacity (by decide)
    have hopen : s.openRequests = 1 := UInt64.toNat.inj openRequests
    have hreplicas : s.replicas ≠ 0 := by
      rintro h
      rw [h] at replicas
      exact absurd replicas (by decide)
    have hpartitions : s.partitioning ≠ .random 0 := fun h =>
      absurd (partitions 0 h) (by decide)
    rw [if_neg topic, if_neg hcapacity, if_neg (not_not.mpr hopen), if_neg hreplicas,
      if_neg hpartitions]

/-! ### The decision -/

namespace Pipeline

variable {ι β : Type} {g : Supply ι β} {s : Settings} {h : List (Episode ι)} {p₀ p : Pipeline β}
  {client : Nats.Config → Connector β} {e : Endpoint}

/-- **What starts a pipeline** with a client of NATS. -/
structure Suitable (s : Settings) (e : Endpoint) : Prop where
  transport : e.transport = "nats"
  mechanism : Text.upperAscii (Text.trim e.credentials.mechanism)
    ∈ ["", "NONE", "PLAIN", "TOKEN", "NKEY"]
  settings : s.Fit

/-- Nothing is against starting a pipeline that is neither bypassed nor disabled, and was neither
shut down nor started. -/
theorem refusal?_of_flags (bypass : p.settings.bypass = false) (disabled : p.disabled = false)
    (cancelled : p.isCancelled = false) (started : p.isStarted = false) : p.refusal? = none := by
  simp [refusal?, bypass, disabled, cancelled, started]

/-- A pipeline that nobody has started, disabled or shut down has the receiver of its queue. -/
theorem Flags.holdsReceiver (hf : Flags s h p) (disabled : p.disabled = false)
    (cancelled : p.isCancelled = false) (started : p.isStarted = false) :
    p.holdsReceiver = true := by
  refine hf.receiver.mpr ⟨started, fun hshut => ?_, fun hfail => ?_⟩
  · exact absurd ((hf.cancelled.mpr hshut).symm.trans cancelled) (by simp)
  · exact absurd ((hf.disabled.mpr (Or.inr hfail)).symm.trans disabled) (by simp)

/-- A call with an endpoint that fits the connector starts a pipeline with fit settings. -/
theorem initWith_fit {c : Connector β} (willing : p.refusal? = none)
    (receiver : p.holdsReceiver = true) (transport : e.transport = c.transport)
    (fit : p.settings.Fit) : p.initWith c e = (true, p.start c e) := by
  rw [initWith, willing]
  simp only
  rw [if_neg (not_not.mpr transport), Settings.defect?_eq_none.mpr fit]
  simp only
  rw [if_pos receiver]

/-- A suitable endpoint starts the pipeline. -/
theorem init_suitable (serves : ∀ c, (client c).transport = Nats.transport)
    (willing : p.refusal? = none) (receiver : p.holdsReceiver = true)
    (suitable : Suitable p.settings e) :
    ∃ c, Nats.Config.ofSettings e p.settings = .ok c ∧
      p.init client e = (true, p.start (client c) e) := by
  have served : e.transport = Nats.transport := suitable.transport
  obtain ⟨c, hc⟩ := Nats.Config.exists_ofSettings_iff.mpr suitable.mechanism
  refine ⟨c, hc, ?_⟩
  rw [init, willing]
  simp only
  rw [if_neg (not_not.mpr served), hc]
  exact initWith_fit willing receiver (served.trans (serves c).symm) suitable.settings

/-- Any other endpoint disables it. -/
theorem init_unsuitable (serves : ∀ c, (client c).transport = Nats.transport)
    (willing : p.refusal? = none) (unsuitable : ¬Suitable p.settings e) :
    ∃ reason, p.init client e = (false, p.disable reason) := by
  rw [init, willing]
  simp only
  by_cases transport : e.transport = Nats.transport
  · rw [if_neg (not_not.mpr transport)]
    cases hc : Nats.Config.ofSettings e p.settings with
    | error f => exact ⟨_, rfl⟩
    | ok c =>
      have known := Nats.Config.exists_ofSettings_iff.mp ⟨c, hc⟩
      simp only
      rw [initWith, willing]
      simp only
      rw [if_neg (not_not.mpr (transport.trans (serves c).symm))]
      cases hd : p.settings.defect? with
      | some d => exact ⟨_, rfl⟩
      -- with nothing wrong the endpoint would be suitable
      | none => exact absurd ⟨transport, known, Settings.defect?_eq_none.mp hd⟩ unsuitable
  · rw [if_pos transport]
    exact ⟨_, rfl⟩

/-- Endpoints that lead to one configuration make no difference. -/
theorem init_congr {c' : Credentials}
    (config : Nats.Config.ofSettings { e with credentials := c' } p.settings
      = Nats.Config.ofSettings e p.settings) :
    p.init client { e with credentials := c' } = p.init client e := by
  -- apart from the configuration nobody looks at the credentials
  have call (config : Nats.Config) :
      p.initWith (client config) { e with credentials := c' } = p.initWith (client config) e := rfl
  unfold init
  simp only [config, call]

/-- **How a call to start a pipeline is decided**, whatever the endpoint is. -/
structure Decision (client : Nats.Config → Connector β) (s : Settings) (p : Pipeline β) :
    Prop where
  answer : ∀ e, (p.init client e).1 = true ↔ Suitable s e
  /-- The pipeline is started with the client for the configuration. -/
  started : ∀ e, Suitable s e → ∃ c, Nats.Config.ofSettings e s = .ok c ∧
    (p.init client e).2.assignment = some ⟨s, client c, p.around⟩ ∧
    (p.init client e).2.disabled = false ∧ (p.init client e).2.dispatcher.queue.isOpen = true
  /-- In every other case it is disabled, and nobody can give it a log any more. -/
  disabled : ∀ e, ¬Suitable s e → (p.init client e).1 = false ∧
    (p.init client e).2.disabled = true ∧ (p.init client e).2.dispatcher.queue.isOpen = false
  /-- Blanks around the mechanism and the case of its letters make no difference, neither to the
  way in nor to anything that the call does. -/
  spelling : ∀ (e : Endpoint) {before after mechanism : String}, Text.Blanks before →
    Text.Blanks after → Text.Recased e.credentials.mechanism mechanism →
    let c := { e.credentials with mechanism := before ++ mechanism ++ after }
    Nats.Auth.ofCredentials c = Nats.Auth.ofCredentials e.credentials ∧
      p.init client { e with credentials := c } = p.init client e
  discreet : ∀ e, Nats.Config.Discreet s e

/-- **The decision of a pipeline** that nobody has started, disabled or shut down, after whatever
else has happened to it. -/
theorem init_decision {broker : β} {ids : IdStream} {around : Surroundings}
    (new : Pipeline.new? s broker ids around = some p₀) (run : Run g [] p₀ h p)
    (serves : ∀ c, (client c).transport = Nats.transport) (bypass : s.bypass = false)
    (started : p.isStarted = false) (disabled : p.disabled = false)
    (cancelled : p.isCancelled = false) : Decision client s p := by
  obtain ⟨-, hf⟩ := run.flags new
  have receiver := hf.holdsReceiver disabled cancelled started
  obtain rfl := hf.settings
  have willing := refusal?_of_flags bypass disabled cancelled started
  have isOpen : p.dispatcher.queue.isOpen = true := (Bool.and_eq_true_iff.mp receiver).2
  refine ⟨fun e => ⟨fun answer => ?_, fun suitable => ?_⟩, fun e suitable => ?_,
    fun e unsuitable => ?_, ?_, Nats.Config.discreet p.settings⟩
  · by_contra unsuitable
    obtain ⟨reason, hinit⟩ := init_unsuitable serves willing unsuitable
    rw [hinit] at answer
    cases answer
  · obtain ⟨c, -, hinit⟩ := init_suitable serves willing receiver suitable
    rw [hinit]
  · obtain ⟨c, hc, hinit⟩ := init_suitable serves willing receiver suitable
    rw [hinit]
    exact ⟨c, hc, rfl, disabled, isOpen⟩
  · obtain ⟨reason, hinit⟩ := init_unsuitable serves willing unsuitable
    obtain ⟨-, hdisabled, -, hdispatcher⟩ := p.disable_frame reason
    rw [receiver] at hdispatcher
    rw [hinit]
    refine ⟨rfl, hdisabled, ?_⟩
    rw [hdispatcher]
    rfl
  · intro e before after mechanism hbefore hafter recased c
    have hauth : Nats.Auth.ofCredentials c = Nats.Auth.ofCredentials e.credentials :=
      Nats.Auth.ofCredentials_congr (Text.name_respelled hbefore hafter recased) rfl rfl
    exact ⟨hauth, init_congr (Nats.Config.ofSettings_congr rfl hauth)⟩

/-! ### A rehearsal -/

namespace Rehearsal

/-- Clients of NATS and nothing else. -/
def clients : Supply Nats.Config Nats.Server where
  connector := Nats.connector
  client := id

/-- A pipeline that is to send to NATS. -/
def waiting : Pipeline Nats.Server where
  settings := .default
  disabled := false
  assignment := none
  dispatcher := .new (.new ⟨none, none⟩ [] []) ⟨1000, [], [], [], true⟩ .counted
  around := .ofChance fun _ => 0
  events := []

/-- A log is given to it before anyone starts it. -/
def early : List (Episode Nats.Config) × Pipeline Nats.Server :=
  play clients waiting [.submit 0 true default]

/-- An endpoint that asks for a mechanism. -/
def endpoint (mechanism : String) : Endpoint :=
  { Endpoint.default with credentials := ⟨"", "", mechanism⟩ }

end Rehearsal

theorem rehearsal_decision :
    (Rehearsal.early.2.init Nats.connector (Rehearsal.endpoint " nKey\n")).1 = true ∧
      (Rehearsal.early.2.init Nats.connector (Rehearsal.endpoint "n.key")).1 = false ∧
      Decision Nats.connector .default Rehearsal.early.2 :=
  ⟨rfl, rfl,
    init_decision rfl (run_play Rehearsal.clients ..) (fun _ => rfl) rfl rfl rfl rfl⟩

end Pipeline

end AuditRelay
