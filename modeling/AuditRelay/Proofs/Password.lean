import AuditRelay.Proofs.Decision
import AuditRelay.Proofs.Likeness
import AuditRelay.Proofs.Overlay

/-!
# The password never shows

An endpoint holds a password, and from there it gets into the way in, into the configuration of a
client, into the connector of a pipeline and in the end to the server. `password_kept` says that
nobody but the server gets to see it: whatever is written, shown, told or answered is the same with
any other password.

* `Nats.Config.Alike` says that two configurations differ in their secrets only. They look the same
  (`Nats.Config.Alike.display`), and a password decides about nothing but the secret
  (`Endpoint.withPassword_config`).
* `Nats.Server.Alike` says that two servers have seen the same but for secrets, and will do the
  same. To clients whose configurations are alike they reply alike (`Nats.connector_alike`).
* From there on a pipeline cannot tell one password from another, which is `Pipeline.Twin.play`.

There is one thing that the library of NATS finds out about a password by itself: whether it can
sign with it. A text that is no seed of a key does not get as far as the server. So where replies are
compared, the passwords are such that the library makes the same of both (`Nats.Auth.signs`).
-/

namespace AuditRelay

open Json

/-! ### Secrets of a client -/

namespace Nats

/-- **Ways in that differ in their secrets only.** -/
inductive Auth.Alike : Auth → Auth → Prop where
  | anonymous : Auth.Alike .anonymous .anonymous
  | userPassword (user password password' : String) :
      Auth.Alike (.userPassword user password) (.userPassword user password')
  | token (token token' : String) : Auth.Alike (.token token) (.token token')
  | signingKey (seed seed' : String) : Auth.Alike (.signingKey seed) (.signingKey seed')

/-- What is shown of a way in does not depend on the secret. -/
theorem Auth.Alike.display {a a' : Auth} (ha : a.Alike a') : a'.display = a.display := by
  cases ha <;> rfl

/-- Whether the library gets as far as the server with it: of a signing key it needs the seed. -/
def Auth.signs : Auth → Bool
  | .signingKey seed => Seed.isSeed seed
  | _ => true

/-- The library makes the same of two passwords. For most mechanisms it does so with any two; only a
signing key is looked into. -/
def Auth.SameUse (c : Credentials) (password : String) : Prop :=
  name c = "NKEY" → Seed.isSeed password = Seed.isSeed c.password

/-- **A password decides about nothing but the secret.** With another one there is a way in that
differs in its secret only, or there is still none, for the same reason. -/
theorem Auth.ofCredentials_withPassword (c : Credentials) (password : String) :
    (∃ a a', ofCredentials c = .ok a ∧ ofCredentials { c with password := password } = .ok a' ∧
      a.Alike a' ∧ (SameUse c password → a'.signs = a.signs)) ∨
    ∃ f, ofCredentials c = .error f ∧
      ofCredentials { c with password := password } = .error f := by
  have before := ways c
  have after := ways { c with password := password }
  by_cases known : name c ∈ names
  · refine Or.inl ?_
    -- one case for each mechanism that there is
    simp only [names, List.mem_cons, List.not_mem_nil, or_false] at known
    rcases known with h | h | h | h | h
    · exact ⟨_, _, before.anonymous (Or.inl h), after.anonymous (Or.inl h), .anonymous, fun _ => rfl⟩
    · exact ⟨_, _, before.anonymous (Or.inr h), after.anonymous (Or.inr h), .anonymous, fun _ => rfl⟩
    · exact ⟨_, _, before.plain h, after.plain h, .userPassword .., fun _ => rfl⟩
    · exact ⟨_, _, before.token h, after.token h, .token .., fun _ => rfl⟩
    · exact ⟨_, _, before.key h, after.key h, .signingKey .., fun same => same h⟩
  · exact Or.inr ⟨_, before.unknown known, after.unknown known⟩

/-- **Configurations that differ in their secrets only.** -/
def Config.Alike (c c' : Config) : Prop :=
  ∃ a', c.auth.Alike a' ∧ c' = { c with auth := a' }

/-- **What is shown of a configuration** does not depend on the secret. -/
theorem Config.Alike.display {c c' : Config} (hc : c.Alike c') : c'.display = c.display := by
  obtain ⟨a', ha, rfl⟩ := hc
  unfold Config.display
  rw [ha.display]

/-- Configurations that differ in their secrets only, and of which the library makes the same. -/
def Config.SameUse (c c' : Config) : Prop :=
  c.Alike c' ∧ c'.auth.signs = c.auth.signs

/-! ### Servers -/

/-- Visits that differ in secrets only. -/
structure Visit.Alike (v v' : Visit) : Prop where
  auth : Option.Rel Auth.Alike v.auth v'.auth
  config : v.config.Alike v'.config
  requests : v'.requests = v.requests

namespace Server

/-- **Servers that will do the same**, and that have seen the same but for secrets. -/
structure Alike (s s' : Server) : Prop where
  barriers : s'.barriers = s.barriers
  sessions : s'.sessions = s.sessions
  acks : s'.acks = s.acks
  visits : List.Forall₂ Visit.Alike s.visits s'.visits
  received : s'.received = s.received

variable {c c' : Config} {s s' : Server}

theorem connected_alike (hc : c.Alike c') : connected c' = connected c := by
  obtain ⟨a', ha, rfl⟩ := hc
  unfold connected
  rw [ha.display]

/-- What becomes of a client that shows its way in, by what the library makes of it. -/
theorem letIn_eq (c : Config) (s : Session) (accepts : Bool) :
    letIn c s accepts =
      if !c.auth.signs then turnDown c s none "failed signing nonce"
      else if !accepts then
        turnDown c s (some c.auth) "authorization violation: nats: authorization violation"
      else
        match (ensureStream c s).2 with
        | some reason =>
          (⟨some s.delay, .error (streamFailure c reason), [connected c]⟩,
            ⟨some c.auth, c, (ensureStream c s).1⟩)
        | none =>
          (⟨some s.delay, .ok (), [connected c, streamReady c]⟩,
            ⟨some c.auth, c, (ensureStream c s).1⟩) :=
  rfl

/-- **A session is met alike**: the client gets the same reply and asks for the same. -/
theorem meet_alike (hc : Config.SameUse c c') (s : Session) :
    (meet c' s).1 = (meet c s).1 ∧ Visit.Alike (meet c s).2 (meet c' s).2 := by
  obtain ⟨alike, signs⟩ := hc
  have told := connected_alike alike
  have unseen : Visit.Alike ⟨none, c, []⟩ ⟨none, c', []⟩ := ⟨.none, alike, rfl⟩
  obtain ⟨a', ha, rfl⟩ := alike
  have seen (asked : List StreamRequest) :
      Visit.Alike ⟨some c.auth, c, asked⟩ ⟨some a', { c with auth := a' }, asked⟩ :=
    ⟨.some ha, ⟨a', ha, rfl⟩, rfl⟩
  -- the stream is asked for by its name, and what the library makes of the way in is the same
  have asked : ensureStream { c with auth := a' } s = ensureStream c s := rfl
  have entered (accepts : Bool) :
      (letIn { c with auth := a' } s accepts).1 = (letIn c s accepts).1 ∧
        Visit.Alike (letIn c s accepts).2 (letIn { c with auth := a' } s accepts).2 := by
    rw [letIn_eq, letIn_eq, signs, told, asked]
    split
    · exact ⟨rfl, unseen⟩
    · split
      · exact ⟨rfl, seen []⟩
      · cases (ensureStream c s).2 with
        | some reason => exact ⟨rfl, seen _⟩
        | none => exact ⟨rfl, seen _⟩
  unfold meet
  cases s.greeting with
  | silence => exact ⟨rfl, unseen⟩
  | failed reason => exact ⟨rfl, unseen⟩
  | violation => exact entered false
  | welcome => exact entered true

/-- **A client connects alike.** -/
theorem connect_alike (hc : Config.SameUse c c') (hs : s.Alike s') :
    (connect c' s').1 = (connect c s).1 ∧ (connect c s).2.Alike (connect c' s').2 := by
  have blocked : obstacle? c' s'.barriers = obstacle? c s.barriers := by
    obtain ⟨⟨a', -, rfl⟩, -⟩ := hc
    unfold obstacle?
    rw [hs.barriers]
  have refused (reason : String) : connectFailure c' reason = connectFailure c reason := by
    obtain ⟨⟨a', -, rfl⟩, -⟩ := hc
    unfold connectFailure
    rfl
  unfold connect
  rw [blocked, hs.sessions]
  -- either both are stopped on the way, or both are met in the same session
  cases obstacle? c s.barriers with
  | some reason =>
    show unconnected patience (connectFailure c' reason)
      = unconnected patience (connectFailure c reason) ∧ s.Alike s'
    rw [refused]
    exact ⟨rfl, hs⟩
  | none =>
    have limits : c'.limits = c.limits := by
      obtain ⟨⟨a', -, rfl⟩, -⟩ := hc
      rfl
    rw [limits]
    obtain ⟨reply, visit⟩ := meet_alike hc (s.sessions.headD (fun _ => .well) c.limits)
    exact ⟨reply, hs.barriers, rfl, hs.acks, .cons visit hs.visits, hs.received⟩

/-- **A client sends alike.** -/
theorem send_alike (hc : c.Alike c') (hs : s.Alike s') (m : Message) :
    (send c' m s').1 = (send c m s).1 ∧ (send c m s).2.Alike (send c' m s').2 := by
  obtain ⟨a', -, rfl⟩ := hc
  have delivered (next : Nat → Ack) :
      deliver ({ c with auth := a' } : Config).retries.toNat ({ c with auth := a' } : Config).backoff.toNat
        m next 0 s'.acks = deliver c.retries.toNat c.backoff.toNat m next 0 s.acks := by
    rw [hs.acks]
  unfold send
  rw [hs.received]
  simp only [delivered, true_and]
  exact ⟨hs.barriers, hs.sessions, rfl, hs.visits, rfl⟩

end Server

@[simp] theorem connector_transport (c : Config) : (connector c).transport = transport := rfl

/-- **Connectors whose configurations differ in secrets only reply alike.** -/
theorem connector_alike {c c' : Config} (hc : Config.SameUse c c') :
    (connector c).Twin Server.Alike (connector c') where
  transport := rfl
  client := rfl
  connect := by
    intro s s' hs
    -- stated by itself, so that nobody looks for the configurations inside of what a server does
    have connects := Server.connect_alike hc hs
    exact connects
  send := by
    intro s s' m hs
    have sends := Server.send_alike hc.1 hs m
    exact sends

end Nats

/-! ### Endpoints -/

namespace Endpoint

variable (e : Endpoint) (password : String)

/-- The endpoint with another password. -/
def withPassword : Endpoint :=
  { e with credentials := { e.credentials with password := password } }

/-- **A password decides about nothing but the secret** of the configuration. -/
theorem withPassword_config (s : Settings) :
    (∃ c c', Nats.Config.ofSettings e s = .ok c ∧
      Nats.Config.ofSettings (e.withPassword password) s = .ok c' ∧ c.Alike c' ∧
      (Nats.Auth.SameUse e.credentials password → c'.auth.signs = c.auth.signs)) ∨
    ∃ f, Nats.Config.ofSettings e s = .error f ∧
      Nats.Config.ofSettings (e.withPassword password) s = .error f := by
  have given : (e.withPassword password).credentials = { e.credentials with password := password } :=
    rfl
  unfold Nats.Config.ofSettings
  rw [given]
  rcases Nats.Auth.ofCredentials_withPassword e.credentials password with
    ⟨a, a', ha, ha', alike, signs⟩ | ⟨f, hf, hf'⟩
  · rw [ha, ha']
    exact Or.inl ⟨_, _, rfl, rfl, ⟨a', alike, rfl⟩, signs⟩
  · rw [hf, hf']
    exact Or.inr ⟨f, rfl, rfl⟩

/-- With a password that the library uses alike an endpoint leads to the same. -/
theorem twin_withPassword (same : Nats.Auth.SameUse e.credentials password) :
    e.Twin Nats.Config.SameUse (e.withPassword password) where
  transport := rfl
  host := rfl
  port := rfl
  config s := by
    rcases e.withPassword_config password s with ⟨c, c', hc, hc', alike, signs⟩ | failed
    · exact Or.inl ⟨c, c', hc, hc', alike, signs same⟩
    · exact Or.inr failed

/-- What is written is read back with an empty password. -/
theorem read_write :
    (whole Endpoint.read).run (Mark.ofString e.write) = .ok (e.withPassword "") := by
  have read := (Endpoint.takes_form e.form_write).whole .nil .nil
  rwa [List.nil_append, List.append_nil] at read

end Endpoint

/-! ### Pipelines -/

namespace Pipeline

variable {c c' : Nats.Config} {p p' : Pipeline Nats.Server}

/-- **The same state but for a secret**: nothing differs unless there is a client that was started
with, and then nothing but its configuration. -/
inductive Differ : Pipeline Nats.Server → Pipeline Nats.Server → Prop where
  | same (p : Pipeline Nats.Server) : Differ p p
  | secret {p : Pipeline Nats.Server} {c c' : Nats.Config} {around : Surroundings} {s : Settings}
      (client : p.assignment = some ⟨s, Nats.connector c, around⟩) (alike : c.Alike c') :
      Differ p { p with assignment := some ⟨s, Nats.connector c', around⟩ }

/-- The dispatcher starts in the same way with the clients for any two configurations. -/
theorem start_secret (hc : c.Alike c') (p : Pipeline Nats.Server) (e : Endpoint) :
    Differ (p.start (Nats.connector c) e) (p.start (Nats.connector c') e) := by
  have dispatcher : p.dispatcher.start ⟨p.settings, Nats.connector c', p.around⟩
      = p.dispatcher.start ⟨p.settings, Nats.connector c, p.around⟩ := by
    unfold Dispatcher.start Worker.dialing Assignment.interval
    simp only [Nats.connector_transport]
  -- apart from the work that is written down nobody looks at the client
  have started : p.start (Nats.connector c') e = { p.start (Nats.connector c) e with
      assignment := some ⟨p.settings, Nats.connector c', p.around⟩ } := by
    unfold start tell
    simp only [dispatcher]
  rw [started]
  exact .secret rfl hc

/-- A call with the client for a configuration does the same as with any other secret. -/
theorem initWith_secret (hc : c.Alike c') (p : Pipeline Nats.Server) (e : Endpoint) :
    (p.initWith (Nats.connector c') e).1 = (p.initWith (Nats.connector c) e).1 ∧
      Differ (p.initWith (Nats.connector c) e).2 (p.initWith (Nats.connector c') e).2 := by
  unfold initWith
  rw [Nats.connector_transport, Nats.connector_transport]
  cases p.refusal? with
  | some reason => exact ⟨rfl, .same _⟩
  | none =>
    by_cases transport : e.transport ≠ Nats.transport
    · rw [if_pos transport, if_pos transport]
      exact ⟨rfl, .same _⟩
    · rw [if_neg transport, if_neg transport]
      cases p.settings.defect? with
      | some defect => exact ⟨rfl, .same _⟩
      | none =>
        by_cases receiver : p.holdsReceiver = true
        · rw [if_pos receiver, if_pos receiver]
          exact ⟨rfl, start_secret hc p e⟩
        · rw [if_neg receiver, if_neg receiver]
          exact ⟨rfl, .same _⟩

/-- **A call with an endpoint does the same as with any other password.** -/
theorem init_withPassword (p : Pipeline Nats.Server) (e : Endpoint) (password : String) :
    (p.init Nats.connector (e.withPassword password)).1 = (p.init Nats.connector e).1 ∧
      Differ (p.init Nats.connector e).2 (p.init Nats.connector (e.withPassword password)).2 := by
  have place : (e.withPassword password).transport = e.transport := rfl
  have call (c : Nats.Config) : p.initWith (Nats.connector c) (e.withPassword password)
      = p.initWith (Nats.connector c) e := rfl
  unfold init
  rw [place]
  cases p.refusal? with
  | some reason => exact ⟨rfl, .same _⟩
  | none =>
    by_cases transport : e.transport ≠ Nats.transport
    · rw [if_pos transport, if_pos transport]
      exact ⟨rfl, .same _⟩
    · rw [if_neg transport, if_neg transport]
      -- there is a configuration for both passwords, or for none
      rcases e.withPassword_config password p.settings with ⟨c, c', hc, hc', alike, -⟩ | ⟨f, hf, hf'⟩
      · rw [hc, hc']
        simp only [call]
        exact initWith_secret alike p e
      · rw [hf, hf']
        exact ⟨rfl, .same _⟩

/-- Any connector of such brokers, and clients of NATS. -/
def connectors : Supply (Connector Nats.Server) Nats.Server where
  connector := id
  client := Nats.connector

/-- **The same call with other passwords.** Connectors that a caller brings along reply alike, and of
the passwords for clients of NATS the library makes the same. -/
inductive Move.Disguised : Move (Connector Nats.Server) → Move (Connector Nats.Server) → Prop where
  | init (e : Endpoint) (password : String) (same : Nats.Auth.SameUse e.credentials password) :
      Move.Disguised (.init e) (.init (e.withPassword password))
  | initWith {i i' : Connector Nats.Server} (replies : i.Twin Nats.Server.Alike i') (e : Endpoint)
      (password : String) : Move.Disguised (.initWith i e) (.initWith i' (e.withPassword password))
  | submit (ticket : Nat) (stays : Bool) (l : Log) :
      Move.Disguised (.submit ticket stays l) (.submit ticket stays l)
  | shutdown : Move.Disguised .shutdown .shutdown
  | inside (m : Dispatcher.Move) : Move.Disguised (.inside m) (.inside m)

theorem Move.Disguised.twin {m m' : Move (Connector Nats.Server)} (hm : m.Disguised m') :
    m.Twin Nats.Config.SameUse (Connector.Twin Nats.Server.Alike) m' := by
  cases hm with
  | init e password same => exact .init (e.twin_withPassword password same)
  | initWith replies e password => exact .initWith replies ⟨rfl, rfl, rfl⟩
  | submit t stays l => exact .submit t stays l
  | shutdown => exact .shutdown
  | inside m => exact .inside m

theorem connectors_twin : Supply.Twin Nats.Server.Alike Nats.Config.SameUse
    (Connector.Twin Nats.Server.Alike) connectors connectors where
  connector replies := replies
  client same := Nats.connector_alike same

/-- **The same is seen and told** of two pipelines. -/
structure Indistinct (r r' : List (Episode (Connector Nats.Server)) × Pipeline Nats.Server) :
    Prop where
  /-- The calls get the same answers, and the pipelines differ in connectors that reply alike and in
  what their servers have seen of secrets. -/
  together : Together Nats.Server.Alike (Connector.Twin Nats.Server.Alike) r r'
  /-- The same is seen inside: the requests, and the answers to them with their failures. -/
  inside : inner r'.1 = inner r.1
  /-- The calls tell the same events, -/
  events : r'.2.events = r.2.events
  /-- and so does the dispatcher while it connects and publishes. -/
  told : r'.2.dispatcher.worker.events = r.2.dispatcher.worker.events

theorem Together.indistinct {r r' : List (Episode (Connector Nats.Server)) × Pipeline Nats.Server}
    (together : Together Nats.Server.Alike (Connector.Twin Nats.Server.Alike) r r') :
    Indistinct r r' := by
  obtain ⟨seen, after⟩ := together
  obtain ⟨b', -, same⟩ := after.dispatcher
  refine ⟨⟨seen, after⟩, inner_twin seen, after.events, ?_⟩
  rw [same]
  rfl

end Pipeline

/-! ### What does not get to know a password -/

/-- **What a password does not get into**, seen at an endpoint and the same with another password. -/
structure Endpoint.Discretion (e : Endpoint) (password : String) : Prop where
  /-- What is written is the same, and an endpoint without a password is read from it. -/
  written : (e.withPassword password).write = e.write
  read : (whole Endpoint.read).run (Mark.ofString e.write) = .ok (e.withPassword "")
  /-- Both passwords are accepted and look the same, or both are refused with the same failure: by
  the way in -/
  wayIn : (∃ a a', Nats.Auth.ofCredentials e.credentials = .ok a ∧
      Nats.Auth.ofCredentials (e.withPassword password).credentials = .ok a' ∧
      a'.display = a.display) ∨
    ∃ f, Nats.Auth.ofCredentials e.credentials = .error f ∧
      Nats.Auth.ofCredentials (e.withPassword password).credentials = .error f
  /-- and by the configuration. -/
  configuration : ∀ s, (∃ c c', Nats.Config.ofSettings e s = .ok c ∧
      Nats.Config.ofSettings (e.withPassword password) s = .ok c' ∧ c'.display = c.display) ∨
    ∃ f, Nats.Config.ofSettings e s = .error f ∧
      Nats.Config.ofSettings (e.withPassword password) s = .error f
  /-- Calls to start a pipeline have the same result: with a connector of any kind -/
  initWith : ∀ {β : Type} (p : Pipeline β) (c : Connector β),
    p.initWith c (e.withPassword password) = p.initWith c e
  /-- and with a client of NATS, whose configuration is all that differs. -/
  init : ∀ p : Pipeline Nats.Server,
    (p.init Nats.connector (e.withPassword password)).1 = (p.init Nats.connector e).1 ∧
      Pipeline.Differ (p.init Nats.connector e).2
        (p.init Nats.connector (e.withPassword password)).2
  /-- If the library makes the same of both, the clients give the same answers and tell the same
  events when they connect and send. -/
  replies : Nats.Auth.SameUse e.credentials password → ∀ {s : Settings} {c c' : Nats.Config},
    Nats.Config.ofSettings e s = .ok c →
    Nats.Config.ofSettings (e.withPassword password) s = .ok c' →
    (Nats.connector c).Twin Nats.Server.Alike (Nats.connector c')

theorem Endpoint.discretion (e : Endpoint) (password : String) : e.Discretion password where
  written := rfl
  read := e.read_write
  wayIn := by
    rcases Nats.Auth.ofCredentials_withPassword e.credentials password with
      ⟨a, a', ha, ha', alike, -⟩ | failed
    · exact Or.inl ⟨a, a', ha, ha', alike.display⟩
    · exact Or.inr failed
  configuration s := by
    rcases e.withPassword_config password s with ⟨c, c', hc, hc', alike, -⟩ | failed
    · exact Or.inl ⟨c, c', hc, hc', alike.display⟩
    · exact Or.inr failed
  initWith p c := rfl
  init p := p.init_withPassword e password
  replies same {s c c'} hc hc' := by
    rcases e.withPassword_config password s with ⟨d, d', hd, hd', alike, signs⟩ | ⟨f, hf, -⟩
    · cases hc.symm.trans hd
      cases hc'.symm.trans hd'
      exact Nats.connector_alike ⟨alike, signs same⟩
    · cases hc.symm.trans hf

/-- **The password never shows.** An endpoint with another password is written, shown and refused in
the same words, and has the same effect on a pipeline. Whole runs of pipelines that are called in the
same way but for passwords cannot be told apart: they give the same answers and tell the same
events, given that the library of NATS and its server answer the same. -/
theorem password_kept :
    (∀ (e : Endpoint) (password : String), e.Discretion password) ∧
    ∀ {p p' : Pipeline Nats.Server}, p.Twin Nats.Server.Alike p' →
      ∀ {ms ms' : List (Pipeline.Move (Connector Nats.Server))},
      List.Forall₂ Pipeline.Move.Disguised ms ms' →
      Pipeline.Indistinct (Pipeline.play Pipeline.connectors p ms)
        (Pipeline.play Pipeline.connectors p' ms') := by
  refine ⟨Endpoint.discretion, fun {p p'} twins {ms ms'} disguised => ?_⟩
  refine Pipeline.Together.indistinct (twins.play Pipeline.connectors_twin ?_)
  exact disguised.imp fun _ _ hm => hm.twin

/-! ### A rehearsal -/

namespace Pipeline.Rehearsal

/-- A broker that is reached with a name and a password. -/
def guarded (password : String) : Endpoint :=
  { Endpoint.default with credentials := ⟨"relay", password, "plain"⟩ }

/-- A pipeline is started and publishes a log. -/
def session (password : String) : List (Move (Connector Nats.Server)) :=
  [.init (guarded password), .submit 0 true default] ++ List.replicate 6 (.inside .proceed)

/-- What comes of it. -/
def evening (password : String) : List (Episode (Connector Nats.Server)) × Pipeline Nats.Server :=
  play connectors waiting (session password)

/-- The server gets to see the password. -/
def shown (password : String) : List (Option Nats.Auth) :=
  (evening password).2.dispatcher.worker.broker.visits.map (·.auth)

theorem waiting_twin : waiting.Twin Nats.Server.Alike waiting where
  settings := rfl
  disabled := rfl
  assignment := .none
  dispatcher := ⟨waiting.dispatcher.worker.broker, ⟨rfl, rfl, rfl, .nil, rfl⟩, rfl⟩
  around := rfl
  events := rfl

theorem session_disguised : List.Forall₂ Move.Disguised (session "moon") (session "star") := by
  have plain : Nats.Auth.SameUse (guarded "moon").credentials "star" :=
    fun named => absurd named (by decide)
  refine .cons (.init (guarded "moon") "star" plain) (.cons (.submit 0 true default) ?_)
  exact List.forall₂_same.mpr fun m hm => List.eq_of_mem_replicate hm ▸ .inside .proceed

end Pipeline.Rehearsal

open Pipeline.Rehearsal in
theorem rehearsal_password :
    shown "moon" = [some (.userPassword "relay" "moon")] ∧
      shown "star" = [some (.userPassword "relay" "star")] ∧
      (evening "moon").2.dispatcher.worker.broker.received.length = 1 ∧
      Pipeline.Indistinct (evening "moon") (evening "star") :=
  ⟨rfl, rfl, rfl, password_kept.2 waiting_twin session_disguised⟩

end AuditRelay
