import AuditRelay.Log.Wire
import AuditRelay.Json.Value

/-!
# Settings

A pipeline is set up with settings, all of which have a default, and with the endpoint of the broker
that it sends logs to. Settings are read from JSON; what is left out keeps its default. A password
is read but never written.
-/

namespace AuditRelay

open Json

/-- Reads a whole number of 16 bits. -/
def Json.word16 : Read UInt16 := UInt16.ofNat <$> unsigned UInt16.size "u16"

/-- Reads a whole number of 32 bits. -/
def Json.word32 : Read UInt32 := UInt32.ofNat <$> unsigned UInt32.size "u32"

/-- Reads a whole number of 64 bits; `expected` says what it is for. -/
def Json.word64 (expected : String) : Read UInt64 :=
  UInt64.ofNat <$> unsigned UInt64.size expected

/-! ## Partitions -/

/-- How logs are spread over a topic. -/
inductive Partitioning where
  /-- Every log goes to the topic itself. -/
  | single
  /-- Each log goes to one of the partitions of the topic, drawn at random. -/
  | random (partitions : UInt32)
  deriving DecidableEq, Repr, Inhabited

namespace Partitioning

/-- The two ways of spreading. -/
inductive Kind where
  | single
  | random
  deriving DecidableEq

/-- The names of the two ways. -/
def Kind.names : List (String × Kind) :=
  [("single", .single), ("random", .random)]

/-- The member that tells the way of spreading. -/
def tag : String := "type"

/-- The member that tells the number of partitions. -/
def partitionsKey : String := "partitions"

/-- What messages call a random partitioning. -/
def randomTitle : String := "struct variant Partitioning::Random"

/-- The length that a list was expected to have, in words. -/
def elementsInSequence (n : Nat) : String :=
  toString n ++ (if n = 1 then " element" else " elements") ++ " in sequence"

/-- Takes a value for a number of partitions. -/
def count? (v : Value) : Except Mismatch UInt32 :=
  match v with
  | .number n => UInt32.ofNat <$> asUnsigned UInt32.size "u32" n
  | v => .error (.wrongType v.found "u32")

/-- Takes the members beside the tag for a number of partitions. Members of other names do not
matter. -/
def countOfMembers : List (String × Value) → Option UInt32 → Except Mismatch UInt32
  | [], some n => .ok n
  | [], none => .error (.missingField partitionsKey)
  | (k, v) :: rest, n =>
    if k = partitionsKey then
      if n.isSome then .error (.duplicateField partitionsKey)
      else do countOfMembers rest (some (← count? v))
    else countOfMembers rest n

/-- Takes the members beside the tag for a partitioning. -/
def ofMembers (kind : Kind) (members : List (String × Value)) : Except Mismatch Partitioning :=
  match kind with
  | .single => .ok .single
  | .random => random <$> countOfMembers members none

/-- Takes the items behind the tag for a partitioning. -/
def ofItems (kind : Kind) (items : List Value) : Except Mismatch Partitioning :=
  match kind, items with
  | .single, [] => .ok .single
  | .single, items => .error (.wrongLength items.length (elementsInSequence 0))
  | .random, [] => .error (.wrongLength 0 (randomTitle ++ " with 1 element"))
  | .random, v :: rest => do
    let n ← count? v
    if rest.isEmpty then pure (random n)
    else .error (.wrongLength (rest.length + 1) (elementsInSequence 1))

/-- Reads the members of an object: the tag, and every other member as it stands. -/
def members (value : Read Value) : (fuel : Nat) → (first : Bool) → (kind : Option Kind) →
    Read (Option Kind × List (String × Value))
  | 0, _, _ => fail .endInObject
  | fuel + 1, first, kind => do
    if ← nextKey first then
      let k ← key
      if k = tag then
        if kind.isSome then failInObject (.duplicateField tag)
        else
          colon
          let found ← identifier Kind.names
          members value fuel false (some found)
      else
        colon
        let v ← value
        let (kind, rest) ← members value fuel false kind
        pure (kind, (k, v) :: rest)
    else pure (kind, [])

/-- Reads a partitioning that lies in fewer than `depth` lists and objects, itself included. -/
def read (depth : Nat) : Read Partitioning := do
  match ← valueStart with
  | .char '{' =>
    advance
    let fuel ← room
    let (kind, members) ← members (Value.read fuel (depth - 1)) fuel true none
    match kind with
    | none => failInObject (.missingField tag)
    | some kind =>
      endObject
      accept (ofMembers kind members)
  | .char '[' =>
    advance
    if ← nextItem true then
      let kind ← identifier Kind.names
      let fuel ← room
      let items ← items (Value.read fuel (depth - 1)) fuel false
      endList
      accept (ofItems kind items)
    else failInList (.missingField tag)
  | _ => mismatched "internally tagged enum Partitioning"
where
  /-- Stops at a mismatch. -/
  accept : Except Mismatch Partitioning → Read Partitioning
    | .ok p => pure p
    | .error m => fail (.mismatch m)

/-- Writes a partitioning. -/
def write : Partitioning → String
  | single => writeObject [(tag, writeString "single")]
  | random n => writeObject [(tag, writeString "random"), (partitionsKey, toString n.toNat)]

/-- The number of partitions a log can go to; there is at least one. -/
def size : Partitioning → Nat
  | single => 1
  | random n => max n.toNat 1

end Partitioning

/-! ## The endpoint of a broker -/

/-- What a client shows a broker to be let in. -/
structure Credentials where
  username : String
  password : String
  /-- How to authenticate. -/
  mechanism : String
  deriving DecidableEq, Repr, Inhabited

inductive Credentials.Field where
  | username | password | mechanism
  deriving DecidableEq

/-- The fields of credentials. -/
def Credentials.record : Record Credentials.Field where
  title := "struct MqAuthSetting"
  fields := [.username, .password, .mechanism]
  name
    | .username => "username"
    | .password => "password"
    | .mechanism => "mechanism"
  type _ := String
  read _ := plain
  absent _ := some ""
  complete := by intro i; cases i <;> simp

/-- Reads credentials. -/
def Credentials.read : Read Credentials := do
  let v ← Credentials.record.readFull
  pure ⟨v .username, v .password, v .mechanism⟩

/-- Writes credentials without the password. -/
def Credentials.write (c : Credentials) : String :=
  Credentials.record.write fun
    | .username => some (writeString c.username)
    | .password => none
    | .mechanism => some (writeString c.mechanism)

/-- Where a broker is and how to talk to it. -/
structure Endpoint where
  /-- The kind of broker; a connector serves one kind. -/
  transport : String
  host : String
  port : UInt16
  tenant : String
  credentials : Credentials
  deriving DecidableEq, Repr

inductive Endpoint.Field where
  | transport | host | port | tenant | credentials
  deriving DecidableEq

namespace Endpoint

/-- The fields of an endpoint; tenant and credentials may be absent. -/
def record : Record Endpoint.Field where
  title := "struct MqSetting"
  fields := [.transport, .host, .port, .tenant, .credentials]
  name
    | .transport => "mqType"
    | .host => "mqHost"
    | .port => "mqPort"
    | .tenant => "tenant"
    | .credentials => "auth"
  type
    | .port => UInt16
    | .credentials => Credentials
    | _ => String
  read
    | .transport => plain
    | .host => plain
    | .port => word16
    | .tenant => plain
    | .credentials => Credentials.read
  absent
    | .tenant => some ""
    | .credentials => some ⟨"", "", ""⟩
    | .transport => none
    | .host => none
    | .port => none
  complete := by intro i; cases i <;> simp

/-- Reads an endpoint. -/
def read : Read Endpoint := do
  let v ← record.readFull
  pure ⟨v .transport, v .host, v .port, v .tenant, v .credentials⟩

/-- Writes an endpoint. -/
def write (e : Endpoint) : String :=
  record.write fun
    | .transport => some (writeString e.transport)
    | .host => some (writeString e.host)
    | .port => some (toString e.port.toNat)
    | .tenant => some (writeString e.tenant)
    | .credentials => some e.credentials.write

/-- A broker on this machine. -/
def default : Endpoint := ⟨"nats", "127.0.0.1", 4222, "", ⟨"", "", ""⟩⟩

/-- The address of the server. -/
def address (e : Endpoint) : String :=
  "nats://" ++ e.host ++ ":" ++ toString e.port.toNat

end Endpoint

/-! ## The settings of a pipeline -/

/-- The settings of a pipeline. -/
structure Settings where
  /-- The topic that logs are published to. -/
  topic : String
  /-- The stream behind the topic. -/
  stream : String
  /-- Places between producers and the dispatcher. -/
  capacity : UInt64
  /-- Milliseconds between two attempts to connect or to send. -/
  interval : UInt64
  /-- Retries within one attempt to send. -/
  retries : UInt32
  /-- Requests to the broker that may be open at once. -/
  openRequests : UInt64
  /-- Copies of a log that have to be stored before the broker acknowledges it. -/
  replicas : UInt64
  partitioning : Partitioning
  /-- Where logs come from. -/
  origin : Origin
  /-- Whether logs are thrown away instead of being published. -/
  bypass : Bool
  deriving DecidableEq, Repr

inductive Settings.Field where
  | topic | stream | capacity | interval | retries | openRequests | replicas | partitioning
  | origin | bypass
  deriving DecidableEq

/-- Why a pipeline cannot run with its settings. -/
inductive Settings.Defect where
  | emptyTopic
  | noCapacity
  | openRequests (n : UInt64)
  | noReplicas
  | noPartitions
  deriving DecidableEq, Repr

/-- The words for a defect. -/
def Settings.Defect.message : Settings.Defect → String
  | emptyTopic => "topic must not be empty"
  | noCapacity => "queue capacity must be at least 1"
  | openRequests n =>
    "max open requests must be 1 to keep retries ordered, got " ++ toString n.toNat
  | noReplicas => "replicas must be at least 1"
  | noPartitions => "random partitioning needs at least one partition"

namespace Settings

/-- The topic that audit logs have unless another one is set. -/
def auditTopic : String := "isf.audit_log.log"

/-- What holds for everything left out. -/
def default : Settings where
  topic := auditTopic
  stream := "AUDIT_LOG"
  capacity := 1000
  interval := 120000
  retries := 5
  openRequests := 1
  replicas := 1
  partitioning := .single
  origin := ⟨"", ⟨""⟩⟩
  bypass := false

/-- The fields of settings, each with its default. -/
def record (depth : Nat) : Record Settings.Field where
  title := "struct AuditSettings"
  fields := [.topic, .stream, .capacity, .interval, .retries, .openRequests, .replicas,
    .partitioning, .origin, .bypass]
  name
    | .topic => "topic"
    | .stream => "streamName"
    | .capacity => "queueCapacity"
    | .interval => "recoverIntervalMs"
    | .retries => "maxProducerRetry"
    | .openRequests => "maxOpenRequests"
    | .replicas => "replicas"
    | .partitioning => "partitioning"
    | .origin => "logFrom"
    | .bypass => "bypass"
  type
    | .topic => String
    | .stream => String
    | .retries => UInt32
    | .partitioning => Partitioning
    | .origin => Origin
    | .bypass => Bool
    | _ => UInt64
  read
    | .topic => plain
    | .stream => plain
    | .capacity => word64 "usize"
    | .interval => word64 "u64"
    | .retries => word32
    | .openRequests => word64 "usize"
    | .replicas => word64 "usize"
    | .partitioning => Partitioning.read (depth - 1)
    | .origin => Origin.read
    | .bypass => bool
  absent
    | .topic => some default.topic
    | .stream => some default.stream
    | .capacity => some default.capacity
    | .interval => some default.interval
    | .retries => some default.retries
    | .openRequests => some default.openRequests
    | .replicas => some default.replicas
    | .partitioning => some default.partitioning
    | .origin => some default.origin
    | .bypass => some default.bypass
  complete := by intro i; cases i <;> simp

/-- Reads settings. -/
def read : Read Settings := do
  let v ← (record Value.maxDepth).readFull
  pure {
    topic := v .topic, stream := v .stream, capacity := v .capacity, interval := v .interval,
    retries := v .retries, openRequests := v .openRequests, replicas := v .replicas,
    partitioning := v .partitioning, origin := v .origin, bypass := v .bypass }

/-- Writes settings. -/
def write (s : Settings) : String :=
  (record Value.maxDepth).write fun
    | .topic => some (writeString s.topic)
    | .stream => some (writeString s.stream)
    | .capacity => some (toString s.capacity.toNat)
    | .interval => some (toString s.interval.toNat)
    | .retries => some (toString s.retries.toNat)
    | .openRequests => some (toString s.openRequests.toNat)
    | .replicas => some (toString s.replicas.toNat)
    | .partitioning => some s.partitioning.write
    | .origin => some s.origin.write
    | .bypass => some (writeBool s.bypass)

/-- The value of the environment variable that turns the bypass on; any other value does not. -/
def bypassValue : String := "true"

/-- Turns the bypass on if the environment asks for it. It is never turned off. -/
def withEnvironment (s : Settings) (value? : Option String) : Settings :=
  if value? = some bypassValue then { s with bypass := true } else s

/-- The subjects of the topic and its partitions, as patterns: `*` stands for any one word. -/
def subjects (s : Settings) : List String :=
  match s.partitioning with
  | .single => [s.topic]
  | .random _ => [s.topic, s.topic ++ ".*"]

/-- The first defect of settings that a pipeline cannot run with. -/
def defect? (s : Settings) : Option Defect :=
  if s.topic = "" then some .emptyTopic
  else if s.capacity = 0 then some .noCapacity
  else if s.openRequests ≠ 1 then some (.openRequests s.openRequests)
  else if s.replicas = 0 then some .noReplicas
  else if s.partitioning = .random 0 then some .noPartitions
  else none

end Settings

/-! ## The settings of the process log -/

/-- What a process writes about itself, and how. -/
structure LogSettings where
  /-- The service named in the first line. -/
  service : String
  level : String
  /-- Lines for a reader instead of JSON. -/
  develop : Bool
  deriving DecidableEq, Repr

inductive LogSettings.Field where
  | service | level | develop
  deriving DecidableEq

namespace LogSettings

/-- What holds for everything left out. -/
def default : LogSettings := ⟨"", "info", false⟩

/-- The fields of log settings, each with its default. -/
def record : Record LogSettings.Field where
  title := "struct LogSettings"
  fields := [.service, .level, .develop]
  name
    | .service => "serviceName"
    | .level => "level"
    | .develop => "developMode"
  type
    | .develop => Bool
    | _ => String
  read
    | .service => plain
    | .level => plain
    | .develop => bool
  absent
    | .service => some default.service
    | .level => some default.level
    | .develop => some default.develop
  complete := by intro i; cases i <;> simp

/-- Reads log settings. -/
def read : Read LogSettings := do
  let v ← record.readFull
  pure ⟨v .service, v .level, v .develop⟩

/-- Writes log settings. -/
def write (s : LogSettings) : String :=
  record.write fun
    | .service => some (writeString s.service)
    | .level => some (writeString s.level)
    | .develop => some (writeBool s.develop)

end LogSettings

end AuditRelay
