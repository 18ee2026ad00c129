import AuditRelay.Log.Detail

/-!
# Audit logs

An audit log says who did what to which object, and whether it worked. A service writes it with an
operator, an operation and an object; an id, a description and the place it came from are filled in
later.
-/

namespace AuditRelay

/-- What kind of action a log is about. -/
inductive LogKind where
  | login
  | operation
  | management
  deriving DecidableEq, Repr, Inhabited

/-- Severity of a log. -/
inductive Level where
  | info
  | warn
  deriving DecidableEq, Repr, Inhabited

/-- Outcome of the action. It is no field of its own in the written log: it goes into the details
and the description. -/
inductive Status where
  | success
  | failed
  deriving DecidableEq, Repr, Inhabited

/-- The kinds of logs and their names. -/
def LogKind.names : List (String × LogKind) :=
  [("login", .login), ("operation", .operation), ("management", .management)]

/-- The levels and their names. -/
def Level.names : List (String × Level) :=
  [("INFO", .info), ("WARN", .warn)]

/-- The outcomes and their names. -/
def Status.names : List (String × Status) :=
  [("success", .success), ("failed", .failed)]

/-- The name of a kind. -/
def LogKind.name : LogKind → String
  | login => "login"
  | operation => "operation"
  | management => "management"

/-- The name of a level. -/
def Level.name : Level → String
  | info => "INFO"
  | warn => "WARN"

/-- The name of an outcome. -/
def Status.name : Status → String
  | success => "success"
  | failed => "failed"

/-- The name of an outcome that may be unknown. -/
def Status.nameOrEmpty : Option Status → String
  | some s => s.name
  | none => ""

/-- What the operation was done to. -/
structure Object where
  kind : String
  id : String
  name : String
  deriving DecidableEq, Repr, Inhabited

/-- The client through which an operator acted. -/
structure Agent where
  kind : String
  ip : String
  mac : String
  deriving DecidableEq, Repr, Inhabited

/-- Who did the operation. -/
structure Operator where
  kind : String
  id : String
  name : String
  agent : Agent
  deriving DecidableEq, Repr, Inhabited

/-- Sets the name to display. -/
def Operator.withName (o : Operator) (name : String) : Operator :=
  { o with name := name }

/-- The service a log came from. -/
structure Service where
  name : String
  deriving DecidableEq, Repr, Inhabited

/-- Where a log came from. -/
structure Origin where
  package : String
  service : Service
  deriving DecidableEq, Repr, Inhabited

/-- An audit log. -/
structure Log where
  kind : LogKind
  id : String
  level : Level
  operation : String
  description : String
  /-- Time of the operation in nanoseconds since 1970. -/
  time : Int64
  operator : Operator
  object : Object
  origin : Origin
  detail : Detail
  /-- Not written. -/
  status : Option Status
  deriving DecidableEq, Repr, Inhabited

namespace Log

/-- The operations that services log most often. An operation may be any other text. -/
def commonOperations : List String :=
  ["create", "delete", "update", "start", "stop", "pause", "rollover", "recycle", "recover"]

/-- The key of the text a caller gives. -/
def detailKey : String := "detail"

/-- The key of the outcome. -/
def statusKey : String := "status"

/-- The outcome a log of a level has when `asked` was asked for: what is merely information has
succeeded, and a warning without an outcome is about a failure. -/
def outcome (level : Level) (asked : Option Status) : Status :=
  match level with
  | .info => .success
  | .warn => asked.getD .failed

/-- A new log. `now` is the time of the operation. -/
def new (now : Int64) (kind : LogKind) (level : Level) (operation : String) (operator : Operator)
    (object : Object) (asked : Option Status) (detail : Detail) : Log where
  kind := kind
  id := ""
  level := level
  operation := operation
  description := ""
  time := now
  operator := operator
  object := object
  origin := ⟨"", ⟨""⟩⟩
  detail := detail
  status := some (outcome level asked)

/-- Details that hold one text from a caller. -/
def detailOf (text : String) : Detail :=
  Detail.empty.insert detailKey text

/-- Information about an operation that succeeded. -/
def info (now : Int64) (kind : LogKind) (operation : String) (operator : Operator)
    (object : Object) (detail : String) : Log :=
  new now kind .info operation operator object (some .success) (detailOf detail)

/-- A warning about an operation with a known outcome. -/
def warn (now : Int64) (kind : LogKind) (operation : String) (operator : Operator)
    (object : Object) (status : Status) (detail : String) : Log :=
  new now kind .warn operation operator object (some status) (detailOf detail)

/-- A warning about an operation that failed with an error, whose text is given. -/
def warnWithError (now : Int64) (kind : LogKind) (operation : String) (operator : Operator)
    (object : Object) (error : String) : Log :=
  warn now kind operation operator object .failed error

/-- Adds a detail. -/
def withDetail (l : Log) (key value : String) : Log :=
  { l with detail := l.detail.insert key value }

end Log

/-! ## Visitors -/

/-- Who is behind a request. -/
inductive VisitorKind where
  /-- A user known by name. -/
  | realName
  | anonymous
  /-- An application acting for itself. -/
  | app
  deriving DecidableEq, Repr

/-- The kinds of visitors and their names. -/
def VisitorKind.names : List (String × VisitorKind) :=
  [("realname", .realName), ("anonymous", .anonymous), ("app", .app)]

/-- The name of a kind of visitor. -/
def VisitorKind.name : VisitorKind → String
  | realName => "realname"
  | anonymous => "anonymous"
  | app => "app"

/-- The kind of operator that a visitor is in a log. -/
def VisitorKind.operatorKind : VisitorKind → String
  | realName => "authenticated_user"
  | anonymous => "anonymous_user"
  | app => "app"

/-- The caller of a request. -/
structure Visitor where
  id : String
  kind : VisitorKind
  clientKind : String
  ip : String
  mac : String
  deriving DecidableEq, Repr

/-- The operator that a visitor is. -/
def Operator.ofVisitor (v : Visitor) : Operator where
  kind := v.kind.operatorKind
  id := v.id
  name := ""
  agent := ⟨v.clientKind, v.ip, v.mac⟩

end AuditRelay
