import AuditRelay.Failure
import AuditRelay.Settings
import AuditRelay.Text.Blank

/-!
# How a client reaches NATS

A client is let in anonymously, with a name and a password, with a token or with a signing key. The
credentials name the mechanism; white space around it and the case of its letters do not matter.
What a client shows of its configuration never holds a secret.
-/

namespace AuditRelay.Nats

/-- How a client is let in. -/
inductive Auth where
  | anonymous
  | userPassword (user password : String)
  | token (token : String)
  | signingKey (seed : String)
  deriving DecidableEq, Repr

namespace Auth

/-- The way in that credentials ask for. -/
def ofCredentials (c : Credentials) : Except Failure Auth :=
  match Text.upperAscii (Text.trim c.mechanism) with
  | "" => .ok anonymous
  | "NONE" => .ok anonymous
  | "PLAIN" => .ok (userPassword c.username c.password)
  | "TOKEN" => .ok (token c.password)
  | "NKEY" => .ok (signingKey c.password)
  | other => .error (.config ("unsupported auth mechanism '" ++ other ++ "'"))

/-- What is shown of a way in. -/
def display : Auth → String
  | anonymous => "None"
  | userPassword user _ =>
    "UserPassword \x7b user: " ++ Text.quoted user ++ ", password: \"***\" \x7d"
  | token _ => "Token(***)"
  | signingKey _ => "NKey(***)"

end Auth

/-- The configuration of a client. -/
structure Config where
  url : String
  auth : Auth
  stream : String
  /-- The subjects the stream holds. -/
  subjects : List String
  replicas : UInt64
  /-- Messages that may be on their way at once. -/
  openRequests : UInt64
  /-- Retries within one attempt to send. -/
  retries : UInt32
  /-- Milliseconds between those retries. -/
  backoff : UInt64
  /-- Seconds to wait for a connection. -/
  connectTimeout : UInt64
  /-- Seconds to wait for an answer. -/
  requestTimeout : UInt64
  deriving DecidableEq, Repr

/-- How many milliseconds a client waits. -/
structure Limits where
  /-- For a connection. -/
  connection : Nat
  /-- For an answer. -/
  answer : Nat
  deriving DecidableEq, Repr

namespace Config

/-- How long a client waits. -/
def limits (c : Config) : Limits :=
  ⟨c.connectTimeout.toNat * 1000, c.requestTimeout.toNat * 1000⟩

/-- The configuration for default settings. -/
def default : Config where
  url := Endpoint.default.address
  auth := .anonymous
  stream := Settings.default.stream
  subjects := Settings.default.subjects
  replicas := Settings.default.replicas
  openRequests := Settings.default.openRequests
  retries := Settings.default.retries
  backoff := 100
  connectTimeout := 5
  requestTimeout := 10

/-- The configuration for an endpoint and settings. -/
def ofSettings (e : Endpoint) (s : Settings) : Except Failure Config := do
  let auth ← Auth.ofCredentials e.credentials
  pure { default with
    url := e.address
    auth := auth
    stream := s.stream
    subjects := s.subjects
    replicas := s.replicas
    openRequests := if s.openRequests = 0 then 1 else s.openRequests
    retries := s.retries }

/-- What is shown of a configuration. -/
def display (c : Config) : String :=
  "NatsConfig \x7b url: " ++ Text.quoted c.url ++ ", auth: " ++ c.auth.display
    ++ ", stream_name: " ++ Text.quoted c.stream ++ ", subjects: " ++ Text.quotedList c.subjects
    ++ ", replicas: " ++ toString c.replicas.toNat
    ++ ", max_open_requests: " ++ toString c.openRequests.toNat
    ++ ", max_retries: " ++ toString c.retries.toNat
    ++ ", retry_backoff_ms: " ++ toString c.backoff.toNat
    ++ ", connect_timeout_secs: " ++ toString c.connectTimeout.toNat
    ++ ", request_timeout_secs: " ++ toString c.requestTimeout.toNat ++ " \x7d"

end Config

/-- The kind of broker that NATS is. -/
def transport : String := "nats"

end AuditRelay.Nats
