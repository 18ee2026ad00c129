import AuditRelay.Json.Record
import AuditRelay.Log.Basic

/-!
# The written form of logs

A log is written as a JSON object. The fields of each part are named here once, for reading and for
writing. An operator without a name is written without that field, and a log that is read has no
outcome, whatever its details say. The details of a log stand in no particular order.
-/

namespace AuditRelay

open Json

/-- A field that holds a text. -/
abbrev Json.plain : Read String := Json.string "a string"

/-! ## Parts of a log -/

inductive Object.Field where
  | kind | id | name
  deriving DecidableEq

/-- The fields of an object. -/
def Object.record : Record Object.Field where
  title := "struct AuditObject"
  fields := [.kind, .id, .name]
  name
    | .kind => "type"
    | .id => "id"
    | .name => "name"
  type _ := String
  read _ := plain
  absent _ := none
  complete := by intro i; cases i <;> simp

/-- Reads an object. -/
def Object.read : Read Object := do
  let v ← Object.record.readFull
  pure ⟨v .kind, v .id, v .name⟩

/-- Writes an object. -/
def Object.write (o : Object) : String :=
  Object.record.write fun
    | .kind => some (writeString o.kind)
    | .id => some (writeString o.id)
    | .name => some (writeString o.name)

inductive Agent.Field where
  | kind | ip | mac
  deriving DecidableEq

/-- The fields of an agent. -/
def Agent.record : Record Agent.Field where
  title := "struct AuditOperatorAgent"
  fields := [.kind, .ip, .mac]
  name
    | .kind => "type"
    | .ip => "ip"
    | .mac => "mac"
  type _ := String
  read _ := plain
  absent _ := none
  complete := by intro i; cases i <;> simp

/-- Reads an agent. -/
def Agent.read : Read Agent := do
  let v ← Agent.record.readFull
  pure ⟨v .kind, v .ip, v .mac⟩

/-- Writes an agent. -/
def Agent.write (a : Agent) : String :=
  Agent.record.write fun
    | .kind => some (writeString a.kind)
    | .ip => some (writeString a.ip)
    | .mac => some (writeString a.mac)

inductive Operator.Field where
  | kind | id | name | agent
  deriving DecidableEq

/-- The fields of an operator; the name may be absent. -/
def Operator.record : Record Operator.Field where
  title := "struct AuditOperator"
  fields := [.kind, .id, .name, .agent]
  name
    | .kind => "type"
    | .id => "id"
    | .name => "name"
    | .agent => "agent"
  type
    | .agent => Agent
    | _ => String
  read
    | .kind => plain
    | .id => plain
    | .name => plain
    | .agent => Agent.read
  absent
    | .name => some ""
    | .kind => none
    | .id => none
    | .agent => none
  complete := by intro i; cases i <;> simp

/-- Reads an operator. -/
def Operator.read : Read Operator := do
  let v ← Operator.record.readFull
  pure ⟨v .kind, v .id, v .name, v .agent⟩

/-- Writes an operator. -/
def Operator.write (o : Operator) : String :=
  Operator.record.write fun
    | .kind => some (writeString o.kind)
    | .id => some (writeString o.id)
    | .name => if o.name = "" then none else some (writeString o.name)
    | .agent => some o.agent.write

inductive Service.Field where
  | name
  deriving DecidableEq

/-- The field of a service. -/
def Service.record : Record Service.Field where
  title := "struct AuditLogFromService"
  fields := [.name]
  name _ := "name"
  type _ := String
  read _ := plain
  absent _ := none
  complete := by intro i; cases i; simp

/-- Reads a service. -/
def Service.read : Read Service := do
  let v ← Service.record.readFull
  pure ⟨v .name⟩

/-- Writes a service. -/
def Service.write (s : Service) : String :=
  Service.record.write fun
    | .name => some (writeString s.name)

inductive Origin.Field where
  | package | service
  deriving DecidableEq

/-- The fields of an origin. -/
def Origin.record : Record Origin.Field where
  title := "struct AuditLogFrom"
  fields := [.package, .service]
  name
    | .package => "package"
    | .service => "service"
  type
    | .package => String
    | .service => Service
  read
    | .package => plain
    | .service => Service.read
  absent _ := none
  complete := by intro i; cases i <;> simp

/-- Reads an origin. -/
def Origin.read : Read Origin := do
  let v ← Origin.record.readFull
  pure ⟨v .package, v .service⟩

/-- Writes an origin. -/
def Origin.write (o : Origin) : String :=
  Origin.record.write fun
    | .package => some (writeString o.package)
    | .service => some o.service.write

/-- Reads details; a key may occur more than once. -/
def Detail.read : Read Detail :=
  Detail.ofList <$> textMap

/-- Writes details, with the entries in some order. -/
def Detail.write (order : Detail.Order := .ascending) (d : Detail) : String :=
  writeObject ((order.arrange d.entries).map fun e => (e.1, writeString e.2))

/-! ## Logs -/

inductive Log.Field where
  | kind | id | level | operation | description | time | operator | object | origin | detail
  deriving DecidableEq

/-- The fields of a log; the details may be absent. -/
def Log.record : Record Log.Field where
  title := "struct AuditLog"
  fields := [.kind, .id, .level, .operation, .description, .time, .operator, .object, .origin,
    .detail]
  name
    | .kind => "type"
    | .id => "out_biz_id"
    | .level => "level"
    | .operation => "operation"
    | .description => "description"
    | .time => "op_time"
    | .operator => "operator"
    | .object => "object"
    | .origin => "log_from"
    | .detail => "detail"
  type
    | .kind => LogKind
    | .level => Level
    | .time => Int64
    | .operator => Operator
    | .object => Object
    | .origin => Origin
    | .detail => Detail
    | _ => String
  read
    | .kind => variant LogKind.names
    | .id => plain
    | .level => variant Level.names
    | .operation => plain
    | .description => plain
    | .time => Int64.ofInt <$> signed
    | .operator => Operator.read
    | .object => Object.read
    | .origin => Origin.read
    | .detail => Detail.read
  absent
    | .detail => some Detail.empty
    | .kind => none
    | .id => none
    | .level => none
    | .operation => none
    | .description => none
    | .time => none
    | .operator => none
    | .object => none
    | .origin => none
  complete := by intro i; cases i <;> simp

/-- Reads a log. -/
def Log.read : Read Log := do
  let v ← Log.record.readFull
  pure {
    kind := v .kind, id := v .id, level := v .level, operation := v .operation,
    description := v .description, time := v .time, operator := v .operator,
    object := v .object, origin := v .origin, detail := v .detail, status := none }

/-- Writes a log, with its details in some order. -/
def Log.write (order : Detail.Order := .ascending) (l : Log) : String :=
  Log.record.write fun
    | .kind => some (writeString l.kind.name)
    | .id => some (writeString l.id)
    | .level => some (writeString l.level.name)
    | .operation => some (writeString l.operation)
    | .description => some (writeString l.description)
    | .time => some (toString l.time.toInt)
    | .operator => some l.operator.write
    | .object => some l.object.write
    | .origin => some l.origin.write
    | .detail => some (l.detail.write order)

/-- Reads a text that holds one log. -/
def Log.parse (text : List Mark) : Except Json.Error Log :=
  (whole Log.read).run text

/-! ## Visitors -/

inductive Visitor.Field where
  | id | kind | clientKind | ip | mac
  deriving DecidableEq

/-- The fields of a visitor. -/
def Visitor.record : Record Visitor.Field where
  title := "struct Visitor"
  fields := [.id, .kind, .clientKind, .ip, .mac]
  name
    | .id => "id"
    | .kind => "visitor_type"
    | .clientKind => "client_type"
    | .ip => "ip"
    | .mac => "mac"
  type
    | .kind => VisitorKind
    | _ => String
  read
    | .id => plain
    | .kind => variant VisitorKind.names
    | .clientKind => plain
    | .ip => plain
    | .mac => plain
  absent _ := none
  complete := by intro i; cases i <;> simp

/-- Reads a visitor. -/
def Visitor.read : Read Visitor := do
  let v ← Visitor.record.readFull
  pure ⟨v .id, v .kind, v .clientKind, v .ip, v .mac⟩

/-- Writes a visitor. -/
def Visitor.write (v : Visitor) : String :=
  Visitor.record.write fun
    | .id => some (writeString v.id)
    | .kind => some (writeString v.kind.name)
    | .clientKind => some (writeString v.clientKind)
    | .ip => some (writeString v.ip)
    | .mac => some (writeString v.mac)

end AuditRelay
