import AuditRelay.Logging.Line
import AuditRelay.Pipeline

/-!
# The application

An application has an environment, at most one writer of its log, and one pipeline that all its
parts share. The shared pipeline comes into being when it is first asked for, with default settings
and what the environment says, unless one was put in place before.
-/

namespace AuditRelay

/-- The variables of the environment that matter. -/
structure Environment where
  /-- Directives for the process log. -/
  directives : Option String
  /-- Turns the bypass on. -/
  mode : Option String
  deriving DecidableEq, Repr

namespace Environment

/-- The name of the variable with directives for the process log. -/
def directivesName : String := "RUST_LOG"

/-- The name of the variable that turns the bypass on. -/
def modeName : String := "AUDIT_MODE_UT"

end Environment

/-- A running application. -/
structure Application (β : Type) where
  environment : Environment
  /-- Who writes the process log, once someone does. -/
  subscriber : Option Logging.Subscriber
  /-- The shared pipeline, once there is one. -/
  shared : Option (Pipeline β)
  /-- The process log; the newest line first. -/
  lines : List Logging.Line

namespace Application

variable {β : Type}

/-- An application that has just begun. -/
def new (e : Environment) : Application β := ⟨e, none, none, []⟩

/-- The name of the thread on which it begins. -/
def mainThread : String := "main"

/-- Writes events of a thread to the log. -/
def log (a : Application β) (thread : String) (es : List Event) : Application β :=
  match a.subscriber with
  | some s => { a with lines := (s.linesOf thread es).reverse ++ a.lines }
  | none => a

/-- What is wrong when a second writer of the log is to be put in place. -/
def secondSubscriber : Failure :=
  .logging "a global default trace dispatcher has already been set"

/-- The first line of a log. -/
def initialized (s : LogSettings) (level : Logging.Filter) : Event where
  severity := .info
  part := .logging
  message := "Logging initialized"
  fields := [("service", .text s.service), ("level", .text level.name),
    ("develop_mode", .flag s.develop)]

/-- Puts a writer of the log in place. There is no answer if the directives of the environment are
fatal; they are read before anything is put in place. -/
def initLogging (a : Application β) (s : LogSettings) :
    Option (Except Failure Unit × Application β) :=
  match Logging.filterOf s with
  | .error e => some (.error e, a)
  | .ok level =>
    (Logging.directivesFor a.environment.directives level).map fun directives =>
      if a.subscriber.isSome then (.error secondSubscriber, a)
      else
        (.ok (), { a with subscriber := some ⟨s.develop, directives⟩ }.log mainThread
          [initialized s level])

/-- Writes what a pipeline has told to the log. -/
def absorb (a : Application β) (p : Pipeline β) : Application β × Pipeline β :=
  let a := a.log mainThread p.events.reverse
  let a := a.log Pipeline.workerThread p.dispatcher.worker.events.reverse
  (a, { p with events := [], dispatcher.worker.events := [] })

/-- The settings of the shared pipeline if none was put in place. -/
def settings (a : Application β) : Settings :=
  Settings.default.withEnvironment a.environment.mode

/-- The shared pipeline; `create` makes one for settings. -/
def shared? (a : Application β) (create : Settings → Option (Pipeline β)) :
    Option (Pipeline β) :=
  a.shared.or (create a.settings)

/-- Puts a pipeline in place as the shared one; it comes back if there is one already. -/
def install (a : Application β) (p : Pipeline β) : Except (Pipeline β) (Application β) :=
  match a.shared with
  | some _ => .error p
  | none => .ok { a with shared := some p }

/-- Does something with the shared pipeline and writes what it tells to the log. -/
def withShared {α : Type} (a : Application β) (create : Settings → Option (Pipeline β))
    (f : Pipeline β → α × Pipeline β) : Option (α × Application β) :=
  (a.shared? create).map fun p =>
    let (r, p) := f p
    let (a, p) := a.absorb p
    (r, { a with shared := some p })

end Application

end AuditRelay
